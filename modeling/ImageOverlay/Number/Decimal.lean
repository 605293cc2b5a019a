set_option autoImplicit false

/-!
# Decimal literals

The value of a decimal literal, as the nearest double, and the small grammar of unsigned digits
that the readers of this library share. A literal is a sign, a whole number of digits and a power
of ten; the power may be far outside the range of doubles, so it is cut off before it is formed.
-/

namespace ImageOverlay.Decimal

/-! ## Digits -/

/-- The value of an ASCII decimal digit. -/
def digit? (c : Char) : Option Nat :=
  if '0' ≤ c ∧ c ≤ '9' then some (c.toNat - '0'.toNat) else none

/-- The value of an ASCII hexadecimal digit of either case. -/
def hexDigit? (c : Char) : Option Nat :=
  if '0' ≤ c ∧ c ≤ '9' then some (c.toNat - '0'.toNat)
  else if 'a' ≤ c ∧ c ≤ 'f' then some (c.toNat - 'a'.toNat + 10)
  else if 'A' ≤ c ∧ c ≤ 'F' then some (c.toNat - 'A'.toNat + 10)
  else none

/-- The hexadecimal digit of a number below 16; the letters begin with `ten`. -/
def hexDigit (ten : Char) (n : Nat) : Char :=
  if n < 10 then Char.ofNat ('0'.toNat + n) else Char.ofNat (ten.toNat + (n - 10))

/-- A digit of either case is read back. -/
theorem hexDigit?_hexDigit {ten : Char} (hten : ten = 'a' ∨ ten = 'A') {n : Nat} (hn : n < 16) :
    hexDigit? (hexDigit ten n) = some n := by
  rcases hten with rfl | rfl
  all_goals
    revert n
    decide

/-- Whether `c` is an ASCII decimal digit. -/
def isDigit (c : Char) : Bool := (digit? c).isSome

/-- Whether `c` is an ASCII hexadecimal digit. -/
def isHexDigit (c : Char) : Bool := (hexDigit? c).isSome

/-- The digits at the front of a text, and what follows them. -/
def span (cs : List Char) : List Char × List Char := (cs.takeWhile isDigit, cs.dropWhile isDigit)

/-- The number that digits of a base write; other characters count as zero. -/
def ofDigits (base : Nat) (value? : Char → Option Nat) (ds : List Char) : Nat :=
  ds.foldl (fun n c => n * base + (value? c).getD 0) 0

/-- The number that decimal digits write. -/
def toNat (ds : List Char) : Nat := ofDigits 10 digit? ds

/-- The decimal digits of a number. -/
def digits (n : Nat) : List Char := Nat.toDigits 10 n

/-- The sign of a number, and the number. -/
def sign : List Char → Bool × List Char
  | '-' :: rest => (true, rest)
  | '+' :: rest => (false, rest)
  | cs => (false, cs)

/-- An unsigned number in digits of a base, after a `+` if there is one. -/
def unsigned? (base : Nat) (value? : Char → Option Nat) (cs : List Char) : Option Nat :=
  let ds := match cs with
    | '+' :: rest => rest
    | _ => cs
  if ds.isEmpty || !ds.all fun c => (value? c).isSome then none else some (ofDigits base value? ds)

/-! ## Values -/

/-- How many decimal digits `m` has; none for zero. -/
def length (m : Nat) : Nat := if m = 0 then 0 else (digits m).length

/-- The double nearest to `m · 10^e`, infinite beyond the range. Below `10^-330` and above
`10^310` the answer does not depend on `m`, and no power of ten is formed. -/
def magnitude (m : Nat) (e : Int) : Float :=
  let top := e + length m
  if m = 0 ∨ top < -330 then 0.0
  else if 310 < top then 1.0 / 0.0
  else Float.ofScientific m (e < 0) e.natAbs

/-- The double nearest to a signed literal; a negative zero stays negative. -/
def value (negative : Bool) (m : Nat) (e : Int) : Float :=
  if negative then -magnitude m e else magnitude m e

/-! ## Literals

A literal as free texts write it: an optional sign, digits with an optional point that has a
digit on at least one side, an optional exponent; or one of the words for infinity and for what
is not a number, in any case. -/

/-- The exponent after the letter `e`: an optional sign and at least one digit. -/
def exponent? (cs : List Char) : Option Int :=
  let (negative, ds) := sign cs
  if ds.isEmpty || !ds.all isDigit then none
  else some (if negative then -(toNat ds : Int) else toNat ds)

/-- The digits behind a point, if there is one, and what follows them. -/
def fraction : List Char → List Char × List Char
  | '.' :: rest => span rest
  | cs => ([], cs)

/-- The exponent at the end of a literal, if there is one. -/
def power? : List Char → Option Int
  | [] => some 0
  | 'e' :: rest | 'E' :: rest => exponent? rest
  | _ => none

/-- The parts of an unsigned literal: its digits as one number, and the power of ten. -/
def parts? (cs : List Char) : Option (Nat × Int) :=
  let (whole, rest) := span cs
  let (fraction, rest) := fraction rest
  if whole.isEmpty && fraction.isEmpty then none
  else (power? rest).map fun e => (toNat (whole ++ fraction), e - fraction.length)

/-- The double a literal of free text stands for, if it is one. -/
def literal? (cs : List Char) : Option Float :=
  let (negative, body) := sign cs
  let word := body.map Char.toLower
  if word = "inf".toList ∨ word = "infinity".toList then
    some (if negative then -1.0 / 0.0 else 1.0 / 0.0)
  else if word = "nan".toList then some (0.0 / 0.0)
  else (parts? body).map fun (m, e) => value negative m e

end ImageOverlay.Decimal
