import ImageOverlay.Number.Exact
import ImageOverlay.Number.Decimal

set_option autoImplicit false

/-!
# The shortest decimal of a double

A double is written with the fewest digits that read back as the same double, and of the
decimals of that length with the one nearest to it. The reals that round to a double form an
interval, from halfway to the neighbour below to halfway to the neighbour above; its ends belong
to it exactly when the double's own digits are even. For one digit, two digits and so on the
search looks at the two decimals of that length next to the value, and the first length at which
one of them lies in the interval wins.

Which of two equally near decimals is taken, and how the digits are laid out, is up to the
format: see `Layout`.
-/

namespace ImageOverlay

/-- The decimal `digits · 10^exp`. -/
structure ShortDecimal where
  digits : Nat
  exp : Int
deriving DecidableEq, Repr

/-- Which of two equally near decimals stands for a double. -/
inductive Tie where
  | toEven
  | upwards
deriving DecidableEq, Repr

namespace ShortDecimal

/-- Compare `a · 10^i` with `n · 2^j`. -/
def compareScaled (a : Nat) (i : Int) (n : Nat) (j : Int) : Ordering :=
  compare (a * Nat.pow 10 i.toNat * Nat.pow 2 (-j).toNat)
    (n * Nat.pow 2 j.toNat * Nat.pow 10 (-i).toNat)

/-- Whether a decimal reads back as the double `m · 2^e`. Below a power of two the neighbour is
only half as far away. -/
def readsBack (m : Nat) (e : Int) (d : ShortDecimal) : Bool :=
  let narrow := m = Nat.pow 2 52 ∧ -1074 < e
  let low := if narrow then 4 * m - 1 else 4 * m - 2
  let high := 4 * m + 2
  let ends := m % 2 = 0
  let l := compareScaled d.digits d.exp low (e - 2)
  let h := compareScaled d.digits d.exp high (e - 2)
  (l = .gt ∨ (ends ∧ l = .eq)) ∧ (h = .lt ∨ (ends ∧ h = .eq))

/-- The least `k ≥ guess` with `m · 2^e < 10^k`, tried `fuel` times. -/
def scaleFrom (m : Nat) (e : Int) : (fuel : Nat) → (guess : Int) → Int
  | 0, guess => guess
  | fuel + 1, guess =>
    if compareScaled 1 guess m e = .gt then guess else scaleFrom m e fuel (guess + 1)

/-- The `k` with `10^(k-1) ≤ m · 2^e < 10^k`, for a positive `m`. -/
def scale (m : Nat) (e : Int) : Int :=
  scaleFrom m e 4 ((m.log2 + e) * 30103 / 100000)

/-- The decimals on the grid `10^g` next to `m · 2^e`: the greatest below it and the one above. -/
def neighbours (m : Nat) (e g : Int) : ShortDecimal × ShortDecimal :=
  let low :=
    (m * Nat.pow 2 e.toNat * Nat.pow 10 (-g).toNat)
      / (Nat.pow 2 (-e).toNat * Nat.pow 10 g.toNat)
  (⟨low, g⟩, ⟨low + 1, g⟩)

/-- The decimal of the grid `10^g` that stands for `m · 2^e`, if one reads back. -/
def onGrid (tie : Tie) (m : Nat) (e g : Int) : Option ShortDecimal :=
  let (low, high) := neighbours m e g
  match readsBack m e low, readsBack m e high with
  | true, true =>
    match compareScaled (low.digits + high.digits) g (2 * m) e with
    | .gt => some low
    | .lt => some high
    | .eq => if tie = .toEven ∧ low.digits % 2 = 0 then some low else some high
  | true, false => some low
  | false, true => some high
  | false, false => none

/-- Move trailing zeros into the exponent. -/
def strip : (fuel : Nat) → ShortDecimal → ShortDecimal
  | 0, d => d
  | fuel + 1, d =>
    if d.digits % 10 = 0 ∧ d.digits ≠ 0 then strip fuel ⟨d.digits / 10, d.exp + 1⟩ else d

/-- The shortest decimal of the positive double `m · 2^e`. Seventeen digits always suffice; were
they ever not to, the exact value would be the answer. -/
def ofScaled (tie : Tie) (m : Nat) (e : Int) : ShortDecimal :=
  let k := scale m e
  let found := (List.range 17).findSome? fun n : Nat => onGrid tie m e (k - (n + 1))
  let exact : ShortDecimal := ⟨m * Nat.pow 2 e.toNat * Nat.pow 5 (-e).toNat, -((-e).toNat : Int)⟩
  strip 400 (found.getD exact)

end ShortDecimal

/-! ## Layout -/

/-- How a format writes a decimal: which exponents of the leading digit are written positionally
(`none`: all of them), how ties go, and the words for infinity and for what is not a number. -/
structure Layout where
  positional : Option (Int × Int)
  tie : Tie
  infinite : String
  nan : String
deriving DecidableEq, Repr

namespace Layout

/-- Digits with the point where the exponent puts it; there is always a digit on both sides. -/
def pointed (ds : List Char) (exp : Int) : List Char :=
  if 0 ≤ exp then ds ++ List.replicate exp.toNat '0' ++ ['.', '0']
  else
    let places := (-exp).toNat
    if places < ds.length then
      ds.take (ds.length - places) ++ '.' :: ds.drop (ds.length - places)
    else '0' :: '.' :: (List.replicate (places - ds.length) '0' ++ ds)

/-- One digit, the others behind a point, and the exponent with its sign. -/
def scientific (ds : List Char) (lead : Int) : List Char :=
  let mantissa := match ds with
    | [] => []
    | [d] => [d]
    | d :: more => d :: '.' :: more
  mantissa ++ 'e' :: (if lead < 0 then '-' else '+') :: Decimal.digits lead.natAbs

/-- A decimal without sign. -/
def write (layout : Layout) (d : ShortDecimal) : List Char :=
  let ds := Decimal.digits d.digits
  let lead := d.exp + ds.length - 1
  match layout.positional with
  | none => pointed ds d.exp
  | some (from_, below) =>
    if from_ ≤ lead ∧ lead < below then pointed ds d.exp else scientific ds lead

/-- A double in the given layout. -/
def text (layout : Layout) (x : Float) : List Char :=
  match Exact.ofFloat x with
  | .nan => layout.nan.toList
  | .infinite negative => (if negative then ['-'] else []) ++ layout.infinite.toList
  | .finite negative m e =>
    (if negative then ['-'] else []) ++
      if m = 0 then ['0', '.', '0'] else layout.write (.ofScaled layout.tie m e)

end Layout

end ImageOverlay
