import ImageOverlay.Json.Reader

set_option autoImplicit false

/-!
# Numbers and dates in TOML

A value that is not quoted and has no brackets is a word: a truth value, a whole number in one of
four bases, a double, or a date or a time. The digits of a number may be grouped by underscores;
a decimal number has no zeros at its front.
-/

namespace ImageOverlay.Toml

/-! ## Numbers -/

/-- Digits without the underscores between them. -/
def ungrouped? (isDigit : Char → Bool) : List Char → Option (List Char)
  | [] => none
  | [d] => if isDigit d then some [d] else none
  | d :: '_' :: rest => if isDigit d then (ungrouped? isDigit rest).map (d :: ·) else none
  | d :: rest => if isDigit d then (ungrouped? isDigit rest).map (d :: ·) else none

/-- Decimal digits without zeros at their front. -/
def whole? (cs : List Char) : Option (List Char) :=
  match ungrouped? Decimal.isDigit cs with
  | some ('0' :: _ :: _) => none
  | ds => ds

/-- Whether `c` is a binary digit. -/
def isBinary (c : Char) : Bool := c == '0' || c == '1'

/-- Whether `c` is an octal digit. -/
def isOctal (c : Char) : Bool := '0' ≤ c && c ≤ '7'

/-- A whole number. -/
def integer? (cs : List Char) : Option Int :=
  let based (base : Nat) (isDigit : Char → Bool) (ds : List Char) : Option Int :=
    (ungrouped? isDigit ds).map fun ds => Decimal.ofDigits base Decimal.hexDigit? ds
  match cs with
  | '0' :: 'x' :: ds => based 16 Decimal.isHexDigit ds
  | '0' :: 'o' :: ds => based 8 isOctal ds
  | '0' :: 'b' :: ds => based 2 isBinary ds
  | _ =>
    let (negative, ds) := Decimal.sign cs
    (whole? ds).map fun ds =>
      let n : Int := Decimal.toNat ds
      if negative then -n else n

/-- The exponent behind the letter. -/
def exponent? (cs : List Char) : Option Int :=
  let (negative, ds) := Decimal.sign cs
  (ungrouped? Decimal.isDigit ds).map fun ds =>
    let n : Int := Decimal.toNat ds
    if negative then -n else n

/-- The digits of an unsigned double as one number, and the power of ten. There is a fraction or
an exponent, or both. -/
def decimal? (cs : List Char) : Option (Nat × Int) := do
  let ends (c : Char) : Bool := c == '.' || c == 'e' || c == 'E'
  let whole ← whole? (cs.takeWhile (!ends ·))
  match cs.dropWhile (!ends ·) with
  | '.' :: rest =>
    let fraction ← ungrouped? Decimal.isDigit (rest.takeWhile (!ends ·))
    let m := Decimal.toNat (whole ++ fraction)
    match rest.dropWhile (!ends ·) with
    | [] => some (m, -(fraction.length : Int))
    | '.' :: _ => none
    | _ :: rest => (exponent? rest).map fun e => (m, e - fraction.length)
  | _ :: rest => (exponent? rest).map fun e => (Decimal.toNat whole, e)
  | [] => none

/-- A double. A number that is too large for one is none. -/
def double? (cs : List Char) : Option Float :=
  let (negative, body) := Decimal.sign cs
  if body = "inf".toList then some (if negative then -1.0 / 0.0 else 1.0 / 0.0)
  else if body = "nan".toList then some (0.0 / 0.0)
  else
    match decimal? body with
    | none => none
    | some (m, e) =>
      let x := Decimal.value negative m e
      if x.isFinite then some x else none

/-! ## Dates and times -/

/-- The number that exactly `count` digits at the front of a text write. -/
def fixed? (count : Nat) (cs : List Char) : Option (Nat × List Char) :=
  let ds := cs.take count
  if ds.length = count ∧ ds.all Decimal.isDigit then some (Decimal.toNat ds, cs.drop count)
  else none

/-- How many days a month has. -/
def daysOf (year month : Nat) : Nat :=
  if month = 2 then
    if year % 4 = 0 ∧ (year % 100 ≠ 0 ∨ year % 400 = 0) then 29 else 28
  else if [4, 6, 9, 11].contains month then 30
  else 31

/-- What follows a date. -/
def afterDate? (cs : List Char) : Option (List Char) := do
  let (year, cs) ← fixed? 4 cs
  let cs ← Text.after? ['-'] cs
  let (month, cs) ← fixed? 2 cs
  let cs ← Text.after? ['-'] cs
  let (day, cs) ← fixed? 2 cs
  if 1 ≤ month ∧ month ≤ 12 ∧ 1 ≤ day ∧ day ≤ daysOf year month then some cs else none

/-- What follows hours and minutes. -/
def afterMinutes? (cs : List Char) : Option (List Char) := do
  let (hour, cs) ← fixed? 2 cs
  let cs ← Text.after? [':'] cs
  let (minute, cs) ← fixed? 2 cs
  if hour ≤ 23 ∧ minute ≤ 59 then some cs else none

/-- What follows a time; seconds and their fraction may be missing. -/
def afterTime? (cs : List Char) : Option (List Char) := do
  match ← afterMinutes? cs with
  | ':' :: cs =>
    let (second, cs) ← fixed? 2 cs
    if 60 < second then none
    else
      match cs with
      | '.' :: cs =>
        let rest := cs.dropWhile Decimal.isDigit
        if rest.length < cs.length then some rest else none
      | cs => some cs
  | cs => some cs

/-- What follows the distance from universal time. -/
def afterZone? : List Char → Option (List Char)
  | 'Z' :: cs | 'z' :: cs => some cs
  | '+' :: cs | '-' :: cs => afterMinutes? cs
  | cs => some cs

/-- Whether a word is a date, a time or both. -/
def isMoment (cs : List Char) : Bool :=
  match afterDate? cs with
  | some [] => true
  | some (c :: rest) =>
    (c == 'T' || c == 't' || c == ' ') && (afterTime? rest).bind afterZone? == some []
  | none => afterTime? cs == some []

/-! ## Words -/

/-- A whole number as a value: beyond 64 bits it is too large for any use, and beyond 128 bits it
is none. -/
def ofInteger? (n : Int) : Option Parsed :=
  if -Int.pow 2 63 ≤ n ∧ n < Int.pow 2 64 then some (.number (.int n))
  else if -Int.pow 2 127 ≤ n ∧ n < Int.pow 2 128 then some (.number .tooLarge)
  else none

/-- The value of a word. A date or a time is an object of its own kind. -/
def ofWord? (cs : List Char) : Option Parsed :=
  if cs = "true".toList then some (.bool true)
  else if cs = "false".toList then some (.bool false)
  else
    match integer? cs with
    | some n => ofInteger? n
    | none =>
      match double? cs with
      | some x => some (.number (.real x))
      | none =>
        if isMoment cs then some (.object [(some "moment", .text (String.ofList cs))]) else none

/-- Whether a character may stand in a word. -/
def isWordChar (c : Char) : Bool :=
  c.isAlphanum || c == '_' || c == '+' || c == '-' || c == '.' || c == ':'

/-- The word at the front of a text. One blank may stand between a date and a time. -/
def word (cs : List Char) : List Char × List Char :=
  let w := cs.takeWhile isWordChar
  let rest := cs.dropWhile isWordChar
  match afterDate? w, rest with
  | some [], ' ' :: d :: more =>
    if Decimal.isDigit d then
      (w ++ ' ' :: (d :: more).takeWhile isWordChar, (d :: more).dropWhile isWordChar)
    else (w, rest)
  | _, _ => (w, rest)

end ImageOverlay.Toml
