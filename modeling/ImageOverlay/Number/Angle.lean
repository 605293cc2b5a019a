import ImageOverlay.Number.Exact

set_option autoImplicit false

/-!
# Sine, cosine and the angle of a vector

The three functions are computed in fixed point, on whole numbers scaled by `2^p`, and rounded
to a double once at the end. The precision `p` follows the argument: there are always more than
two hundred bits behind the leading one, so the rounding is that of the true value.

A power series of an angle that is very small differs from its first term by less than any
precision shows. Its true value lies below that term, and therefore the last step takes a
little off the sum and marks the result as inexact: a term that sits halfway between two
doubles is then rounded towards the true value and not to the even neighbour.
-/

namespace ImageOverlay.Angle

/-! ## Series in fixed point -/

/-- The sum `t/1 - t·r/3 + t·r²/5 - …`, where each step takes `t` to `t * num / den`. -/
def oddSeries (num den : Nat) : (fuel : Nat) → (term odd : Nat) → Int
  | 0, _, _ => 0
  | fuel + 1, term, odd =>
    if term = 0 then 0
    else (term / odd : Nat) - oddSeries num den fuel (term * num / den) (odd + 2)

/-- `arctan(n / d) · 2^p` for `n ≤ d / 2`. -/
def arctanScaled (p n d : Nat) : Int :=
  oddSeries (n * n) (d * d) (p + 1) (n * Nat.pow 2 p / d) 1

/-- `π · 2^p`, by `π/4 = 4·arctan(1/5) - arctan(1/239)`. -/
def piScaled (p : Nat) : Nat :=
  (16 * arctanScaled (p + 32) 1 5 - 4 * arctanScaled (p + 32) 1 239).toNat >>> 32

/-- The sum `t - t·r²/(k(k+1)) + …` of the series of sine (`k = 2`) and cosine (`k = 1`), for
the angle `r / 2^p`. -/
def alternatingSeries (p r : Nat) : (fuel : Nat) → (term k : Nat) → Int
  | 0, _, _ => 0
  | fuel + 1, term, k =>
    if term = 0 then 0
    else (term : Int) - alternatingSeries p r fuel ((term * r * r) >>> (2 * p) / (k * (k + 1))) (k + 2)

/-- `sin(r / 2^p) · 2^p` for an angle of the first quadrant. -/
def sinScaled (p r : Nat) : Nat := (alternatingSeries p r (p + 1) r 2).toNat

/-- `cos(r / 2^p) · 2^p` for an angle of the first quadrant. -/
def cosScaled (p r : Nat) : Nat := (alternatingSeries p r (p + 1) (Nat.pow 2 p) 1).toNat

/-- A bound on the error of every sum above, in units of `2^-p`. -/
def slack : Nat := Nat.pow 2 20

/-- The double nearest to a sum that stands for a number which is no binary fraction. -/
def rounded (negative : Bool) (p sum : Nat) : Float :=
  Exact.toNearest negative (max 1 (sum - slack)) (-(p : Int)) true

/-! ## Sine and cosine -/

/-- The bits before the point of `m · 2^e`, or minus the zeros after it. -/
def leadingBit (m : Nat) (e : Int) : Int := m.log2 + e + 1

/-- The precision for a number whose leading bit is `bit`. -/
def precision (bit : Int) : Nat := 256 + (-bit).toNat

/-- The angle `m · 2^e` as a quadrant and the scaled angle within it. -/
def reduce (p m : Nat) (e : Int) : Nat × Nat :=
  let extra := (leadingBit m e).toNat
  let angle := m * Nat.pow 2 (e + p).toNat * Nat.pow 2 extra
  let quarter := piScaled (p + extra) / 2
  ((angle / quarter) % 4, (angle % quarter) >>> extra)

/-- Sine of a double. -/
def sin (x : Float) : Float :=
  match Exact.ofFloat x with
  | .nan | .infinite _ => 0.0 / 0.0
  | .finite negative m e =>
    if m = 0 then x
    else
      let p := precision (leadingBit m e)
      match reduce p m e with
      | (0, r) => rounded negative p (sinScaled p r)
      | (1, r) => rounded negative p (cosScaled p r)
      | (2, r) => rounded (!negative) p (sinScaled p r)
      | (_, r) => rounded (!negative) p (cosScaled p r)

/-- Cosine of a double. -/
def cos (x : Float) : Float :=
  match Exact.ofFloat x with
  | .nan | .infinite _ => 0.0 / 0.0
  | .finite _ m e =>
    if m = 0 then 1.0
    else
      let p := precision (leadingBit m e)
      match reduce p m e with
      | (0, r) => rounded false p (cosScaled p r)
      | (1, r) => rounded true p (sinScaled p r)
      | (2, r) => rounded true p (cosScaled p r)
      | (_, r) => rounded false p (sinScaled p r)

/-! ## The angle of a vector -/

/-- `arctan(n / d) · 2^p` for any positive `n` and `d`. Above one the angle is taken from a
quarter turn, and near one from an eighth, so that the series only sees small fractions. -/
def arctanOfFraction (p n d : Nat) : Nat :=
  if d < n then
    if n < 2 * d then (piScaled p / 4 + arctanScaled p (n - d) (n + d)).toNat
    else (piScaled p / 2 - arctanScaled p d n).toNat
  else if d < 2 * n then (piScaled p / 4 - arctanScaled p (d - n) (n + d)).toNat
  else (arctanScaled p n d).toNat

/-- A multiple of an eighth turn, `k · π/4`. -/
def eighths (negative : Bool) (k : Nat) : Float :=
  rounded negative 256 (k * piScaled 256 / 4)

/-- The angle between the first axis and the vector `(x, y)`, from `-π` to `π`. -/
def ofVector (y x : Float) : Float :=
  let behind := (Exact.ofFloat x).isNegative
  let below := (Exact.ofFloat y).isNegative
  let zero : Float := if below then -0.0 else 0.0
  match Exact.ofFloat y, Exact.ofFloat x with
  | .nan, _ | _, .nan => 0.0 / 0.0
  | .infinite _, .infinite _ => eighths below (if behind then 3 else 1)
  | .infinite _, .finite _ _ _ => eighths below 2
  | .finite _ _ _, .infinite _ => if behind then eighths below 4 else zero
  | .finite _ n e₁, .finite _ d e₂ =>
    if n = 0 then if behind then eighths below 4 else zero
    else if d = 0 then eighths below 2
    else
      let e := min e₁ e₂
      let p := precision (leadingBit n e₁ - leadingBit d e₂ - 1)
      let angle := arctanOfFraction p (n * Nat.pow 2 (e₁ - e).toNat)
        (d * Nat.pow 2 (e₂ - e).toNat)
      rounded below p (if behind then piScaled p - angle else angle)

end ImageOverlay.Angle
