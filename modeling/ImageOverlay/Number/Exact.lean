set_option autoImplicit false

/-!
# Doubles as exact numbers

A finite double is a whole number times a power of two. This module reads a double as such a
number, turns it into a whole number (downwards, upwards or to the nearest), finds the power of
two next to it, and rounds an exact number back to the nearest double. All of it is arithmetic
on `Nat` and `Int`, so nothing here depends on how a machine rounds.
-/

namespace ImageOverlay

/-- What a double stands for: `finite negative m e` is `m · 2^e`, or its negative. -/
inductive Exact where
  | nan
  | infinite (negative : Bool)
  | finite (negative : Bool) (m : Nat) (e : Int)
deriving DecidableEq, Repr

open Float.Model in
/-- The exact number a double stands for. Both zeros have `m = 0` and keep their sign. -/
def Exact.ofFloat (x : Float) : Exact :=
  match x.toModel.unpack with
  | .notANumber => .nan
  | .infinity s => .infinite (s == .negative)
  | .zero s => .finite (s == .negative) 0 0
  | .finite s m e _ => .finite (s == .negative) m e

/-- The sign of a double, zeros and infinities included. -/
def Exact.isNegative : Exact → Bool
  | .nan => false
  | .infinite negative => negative
  | .finite negative _ _ => negative

/-! ## Whole numbers -/

/-- A double without its fraction: a whole number, or one of the three values that are none. -/
inductive Whole where
  | nan
  | infinite (negative : Bool)
  | int (n : Int)
deriving DecidableEq, Repr

/-- The whole number of a range that is next to `w`; what is not a number counts as zero. -/
def Whole.clamp (lo hi : Int) : Whole → Int
  | .nan => 0
  | .infinite negative => if negative then lo else hi
  | .int n => max lo (min hi n)

/-- The greatest whole number `≤ ±m · 2^e`. -/
def floorScaled (negative : Bool) (m : Nat) (e : Int) : Int :=
  let signed : Int := if negative then -(m : Int) else m
  if 0 ≤ e then signed * Int.pow 2 e.toNat else signed / Int.pow 2 (-e).toNat

/-- The whole number nearest to `±m · 2^e`; a half goes away from zero. -/
def nearestScaled (negative : Bool) (m : Nat) (e : Int) : Int :=
  let size : Nat :=
    if 0 ≤ e then m * Nat.pow 2 e.toNat
    else (2 * m + Nat.pow 2 (-e).toNat) / Nat.pow 2 ((-e).toNat + 1)
  if negative then -(size : Int) else size

/-- Round towards the smaller whole number. -/
def Exact.floor : Exact → Whole
  | .nan => .nan
  | .infinite negative => .infinite negative
  | .finite negative m e => .int (floorScaled negative m e)

/-- Round towards the greater whole number. -/
def Exact.ceil : Exact → Whole
  | .nan => .nan
  | .infinite negative => .infinite negative
  | .finite negative m e => .int (-floorScaled (!negative) m e)

/-- Round to the nearest whole number, a half away from zero. -/
def Exact.nearest : Exact → Whole
  | .nan => .nan
  | .infinite negative => .infinite negative
  | .finite negative m e => .int (nearestScaled negative m e)

/-- The range of a signed 64-bit number. -/
def Whole.toInt64Range (w : Whole) : Int := w.clamp (-Int.pow 2 63) (Int.pow 2 63 - 1)

/-- The range of an unsigned 32-bit number. -/
def Whole.toUInt32 (w : Whole) : UInt32 := UInt32.ofNat (w.clamp 0 (Int.pow 2 32 - 1)).toNat

/-! ## Powers of two -/

/-- The greatest `k` with `2^k ≤ x`; nothing below every power (zero), nothing for the rest. -/
def Exact.floorLog2 : Exact → Whole
  | .nan => .nan
  | .infinite negative => if negative then .nan else .infinite false
  | .finite negative m e =>
    if m = 0 then .infinite true
    else if negative then .nan
    else .int (m.log2 + e)

/-- The least `k` with `x ≤ 2^k`. -/
def Exact.ceilLog2 : Exact → Whole
  | .nan => .nan
  | .infinite negative => if negative then .nan else .infinite false
  | .finite negative m e =>
    if m = 0 then .infinite true
    else if negative then .nan
    else .int ((if m = Nat.pow 2 m.log2 then m.log2 else m.log2 + 1) + e)

/-! ## Back to a double -/

open Float.Model Float.Model.UnpackedFloat in
/-- The double nearest to `±(m + r) · 2^e`, where `0 < r < 1` if `more` is set and `r = 0`
otherwise; a tie goes to the even neighbour. With `more` set, `m` must not be zero: then the
shifted `m` has more bits than a double keeps, and the remainder only breaks ties. -/
def Exact.toNearest (negative : Bool) (m : Nat) (e : Int) (more : Bool) : Float :=
  .ofModel (.pack (roundWithAccuracy Format.binary64 (if negative then .negative else .positive)
    (m <<< 64) (e - 64) (if more then .inexact .lt else .exact)))

/-- `2^k` as a double: zero below the range of `1 / 2^1023` and infinite above `2^1023`. -/
def twoPow (k : Int) : Float :=
  if k < -1023 then 0.0 else Exact.toNearest false 1 k false

/-- The length of the vector `(x, y)`: the square root of `x² + y²`, rounded once. -/
def hypotenuse (x y : Float) : Float :=
  match Exact.ofFloat x, Exact.ofFloat y with
  | .infinite _, _ => 1.0 / 0.0
  | _, .infinite _ => 1.0 / 0.0
  | .nan, _ => 0.0 / 0.0
  | _, .nan => 0.0 / 0.0
  | .finite _ m₁ e₁, .finite _ m₂ e₂ =>
    let e := min e₁ e₂
    let a := m₁ * Nat.pow 2 (e₁ - e).toNat
    let b := m₂ * Nat.pow 2 (e₂ - e).toNat
    let square := (a * a + b * b) <<< 256
    let root := Nat.sqrt square
    Exact.toNearest false root (e - 128) (root * root != square)

end ImageOverlay
