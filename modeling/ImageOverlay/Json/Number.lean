import ImageOverlay.Number.Decimal

set_option autoImplicit false

/-!
# Numbers of a JSON text

A whole number within 64 bits stays one. Every other number becomes a double, and there is more than
one way to find it (`NumberReading`). `NumberReading.nearest` takes the double nearest to the
decimal. `NumberReading.scaled` takes as many digits as 64 bits hold and multiplies them by a power
of ten, or divides them. That is done in doubles, and each step rounds, so what comes out may be a
neighbour of the nearest double; but it is all the reader of this library does.
-/

namespace ImageOverlay

/-- A JSON number. A whole number within 64 bits stays one; anything else is a double. -/
inductive JsonNumber where
  | int (n : Int)
  | real (x : Float)
  | tooLarge
deriving DecidableEq, Repr

/-- A way to find a double for the parts of a number: its sign, the digits before the point and
behind it, and the exponent. What is too large for a double is infinite. -/
structure NumberReading where
  value (negative : Bool) (whole fraction : List Char) (exponent : Int) : Float

namespace NumberReading

/-- A number that is not whole, or too large for 64 bits. -/
def number (reading : NumberReading) (negative : Bool) (whole fraction : List Char)
    (exponent : Int) : JsonNumber :=
  let x := reading.value negative whole fraction exponent
  if x.isFinite then .real x else .tooLarge

/-- The nearest double. -/
def nearest : NumberReading where
  value negative whole fraction exponent :=
    Decimal.value negative (Decimal.toNat (whole ++ fraction)) (exponent - fraction.length)

/-- Put digits behind those of `m` as long as 64 bits hold them: the number they write, and the
digits that are left. -/
def takeDigits (m : Nat) : List Char → Nat × List Char
  | [] => (m, [])
  | c :: cs =>
    let n := m * 10 + (Decimal.digit? c).getD 0
    if n < Nat.pow 2 64 then takeDigits n cs else (m, c :: cs)

/-- Divide by `10^308` so many times. Zero need not be divided. -/
def shrink : (times : Nat) → Float → Float
  | 0, x => x
  | times + 1, x => if x == 0.0 then x else shrink times (x / Decimal.magnitude 1 308)

/-- `m · 10^e` in doubles: the double nearest to `m`, times or over powers of ten of which every
one is the nearest double to it. No power is greater than `10^308`, so a small number takes more
than one division. -/
def scale (m : Nat) (e : Int) : Float :=
  let x := Decimal.magnitude m 0
  if e < 0 then
    let times := (e.natAbs - 1) / 308
    shrink times x / Decimal.magnitude 1 (e.natAbs - 308 * times)
  else if e ≤ 308 then x * Decimal.magnitude 1 e
  else if m = 0 then x
  else 1.0 / 0.0

/-- The digits that 64 bits hold, scaled. Digits before the point that are left count as zeros, and
those behind it are ignored. -/
def scaled : NumberReading where
  value negative whole fraction exponent :=
    let (m, more) := takeDigits 0 whole
    let (m, ignored) := takeDigits m fraction
    let x := scale m (exponent + more.length - (fraction.length - ignored.length))
    if negative then -x else x

end NumberReading

end ImageOverlay
