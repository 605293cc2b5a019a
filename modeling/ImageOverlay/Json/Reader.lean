import ImageOverlay.Json.Number
import ImageOverlay.Json.Value
import ImageOverlay.Text.Substitute

set_option autoImplicit false

/-!
# Reading JSON

A text is read in two steps. `Parsed.read` checks the grammar and nothing else: its result still
knows of strings that hold half of a surrogate pair and of numbers that no double can hold. What
becomes of those depends on who asks: `Decode` takes the members it knows from the result and
never looks at the others, whereas a value that is kept whole (`Parsed.keep?`) must be free of
them and must not be nested too deeply.

How a number becomes a double is up to a `NumberReading`; unless another one is given, numbers are
scaled.
-/

namespace ImageOverlay

/-- A JSON text that follows the grammar. A string or a key is `none` if one of its escapes is
half of a surrogate pair. -/
inductive Parsed where
  | null
  | bool (b : Bool)
  | number (n : JsonNumber)
  | text (s : Option String)
  | array (items : List Parsed)
  | object (members : List (Option String × Parsed))
deriving Repr, Inhabited

namespace Parsed

/-! ## Tokens -/

/-- The blanks of the grammar. -/
def isSpace (c : Char) : Bool := c == ' ' || c == '\t' || c == '\n' || c == '\r'

/-- A text without its leading blanks. -/
def skip (cs : List Char) : List Char := cs.dropWhile isSpace

/-- The number that four hexadecimal digits write. -/
def hex4? (a b c d : Char) : Option Nat := do
  let a ← Decimal.hexDigit? a
  let b ← Decimal.hexDigit? b
  let c ← Decimal.hexDigit? c
  let d ← Decimal.hexDigit? d
  some (((a * 16 + b) * 16 + c) * 16 + d)

/-- The character a one-letter escape stands for. -/
def escaped? (c : Char) : Option Char :=
  if c = '"' ∨ c = '\\' ∨ c = '/' then some c
  else if c = 'b' then some '\x08'
  else if c = 'f' then some '\x0c'
  else if c = 'n' then some '\n'
  else if c = 'r' then some '\r'
  else if c = 't' then some '\t'
  else none

/-- Whether a unit is the first half of a surrogate pair. -/
def isHigh (n : Nat) : Bool := 0xD800 ≤ n && n < 0xDC00

/-- Whether a unit is the second half of a surrogate pair. -/
def isLow (n : Nat) : Bool := 0xDC00 ≤ n && n < 0xE000

/-- The rest of a string up to its closing quote. `high` is the first half of a surrogate pair
that the last escape was, `acc` the characters so far, the last one first, and `sound` says that
no half was left alone. -/
def stringRest (high : Option Nat) (acc : List Char) (sound : Bool) :
    List Char → Option (Option String × List Char)
  | [] => none
  | '"' :: rest =>
    some (if sound && high.isNone then some (String.ofList acc.reverse) else none, rest)
  | '\\' :: 'u' :: a :: b :: c :: d :: rest =>
    match hex4? a b c d with
    | none => none
    | some n =>
      match high with
      | some h =>
        if isLow n then
          stringRest none (Char.ofNat (0x10000 + (h - 0xD800) * 0x400 + (n - 0xDC00)) :: acc)
            sound rest
        else stringRest (if isHigh n then some n else none) acc false rest
      | none =>
        if isHigh n then stringRest (some n) acc sound rest
        else if isLow n then stringRest none acc false rest
        else stringRest none (Char.ofNat n :: acc) sound rest
  | '\\' :: e :: rest =>
    match escaped? e with
    | none => none
    | some c => stringRest none (c :: acc) (sound && high.isNone) rest
  | c :: rest =>
    if c.toNat < 0x20 ∨ c = '\\' then none
    else stringRest none (c :: acc) (sound && high.isNone) rest

section Reading

variable (reading : NumberReading)

/-- A number written with digits only. Minus zero is a double. -/
def wholeOf (negative : Bool) (ds : List Char) : JsonNumber :=
  let n := Decimal.toNat ds
  if negative then
    if n = 0 ∨ Nat.pow 2 63 < n then reading.number true ds [] 0 else .int (-n)
  else if n < Nat.pow 2 64 then .int n
  else reading.number false ds [] 0

/-- At least one digit. -/
def digits1? (cs : List Char) : Option (List Char × List Char) :=
  match Decimal.span cs with
  | ([], _) => none
  | found => some found

/-- The digits before the point: one zero, or digits that start with none. -/
def wholeDigits? (cs : List Char) : Option (List Char × List Char) :=
  match digits1? cs with
  | some ('0' :: _ :: _, _) => none
  | found => found

/-- The exponent of a number, if one follows: sign and digits. -/
def exponentRest? : List Char → Option (Option Int × List Char)
  | 'e' :: rest | 'E' :: rest =>
    let (negative, rest) : Bool × List Char := match rest with
      | '-' :: r => (true, r)
      | '+' :: r => (false, r)
      | r => (false, r)
    match digits1? rest with
    | none => none
    | some (ds, rest) =>
      let n : Int := Decimal.toNat ds
      some (some (if negative then -n else n), rest)
  | rest => some (none, rest)

/-- A number. -/
def numberRest? (cs : List Char) : Option (JsonNumber × List Char) :=
  let (negative, cs) : Bool × List Char := match cs with
    | '-' :: r => (true, r)
    | r => (false, r)
  match wholeDigits? cs with
  | none => none
  | some (whole, rest) =>
    match rest with
    | '.' :: r =>
      match digits1? r with
      | none => none
      | some (fraction, r) =>
        (exponentRest? r).map fun (e, r) => (reading.number negative whole fraction (e.getD 0), r)
    | _ =>
      (exponentRest? rest).map fun (e, r) =>
        match e with
        | some e => (reading.number negative whole [] e, r)
        | none => (wholeOf reading negative whole, r)

/-! ## Values

Every call below either takes a character or hands over to one that does, so twice the length
of the text bounds their number. -/

mutual

/-- One value and what follows it. -/
def value : (fuel : Nat) → List Char → Option (Parsed × List Char)
  | 0, _ => none
  | fuel + 1, cs =>
    match skip cs with
    | '"' :: rest => (stringRest none [] true rest).map fun (s, rest) => (.text s, rest)
    | '[' :: rest =>
      match skip rest with
      | ']' :: rest => some (.array [], rest)
      | rest => (items fuel rest).map fun (vs, rest) => (.array vs, rest)
    | '\x7b' :: rest =>
      match skip rest with
      | '\x7d' :: rest => some (.object [], rest)
      | rest => (members fuel rest).map fun (ms, rest) => (.object ms, rest)
    | 'n' :: rest => (Text.after? "ull".toList rest).map fun rest => (.null, rest)
    | 't' :: rest => (Text.after? "rue".toList rest).map fun rest => (.bool true, rest)
    | 'f' :: rest => (Text.after? "alse".toList rest).map fun rest => (.bool false, rest)
    | rest => (numberRest? reading rest).map fun (n, rest) => (.number n, rest)

/-- The items of an array that is not empty, up to its closing bracket. -/
def items : (fuel : Nat) → List Char → Option (List Parsed × List Char)
  | 0, _ => none
  | fuel + 1, cs =>
    match value fuel cs with
    | none => none
    | some (v, rest) =>
      match skip rest with
      | ']' :: rest => some ([v], rest)
      | ',' :: rest => (items fuel rest).map fun (vs, rest) => (v :: vs, rest)
      | _ => none

/-- The members of an object that is not empty, up to its closing bracket. -/
def members : (fuel : Nat) → List Char → Option (List (Option String × Parsed) × List Char)
  | 0, _ => none
  | fuel + 1, cs =>
    match skip cs with
    | '"' :: rest =>
      match stringRest none [] true rest with
      | none => none
      | some (k, rest) =>
        match skip rest with
        | ':' :: rest =>
          match value fuel rest with
          | none => none
          | some (v, rest) =>
            match skip rest with
            | '\x7d' :: rest => some ([(k, v)], rest)
            | ',' :: rest => (members fuel rest).map fun (ms, rest) => ((k, v) :: ms, rest)
            | _ => none
        | _ => none
    | _ => none

end

end Reading

/-- Read a text that holds one value and only blanks around it. -/
def read (cs : List Char) (reading : NumberReading := .scaled) : Option Parsed :=
  match value reading (2 * cs.length + 2) cs with
  | some (v, rest) => if (skip rest).isEmpty then some v else none
  | none => none

/-! ## Values kept whole -/

mutual

/-- The value as it is kept: `depth` more levels of arrays and objects are allowed, no string may
hold half of a surrogate pair, and every number must fit. The members of an object are sorted,
and of two with one key the later one counts. -/
def keep? (depth : Nat) : Parsed → Option Json
  | .null => some .null
  | .bool b => some (.bool b)
  | .number (.int n) => some (.int n)
  | .number (.real x) => some (.real x)
  | .number .tooLarge => none
  | .text s => s.map .str
  | .array vs => if depth = 0 then none else (keepItems? (depth - 1) vs).map .arr
  | .object ms => if depth = 0 then none else (keepMembers? (depth - 1) [] ms).map .obj

/-- The items of an array that is kept. -/
def keepItems? (depth : Nat) : List Parsed → Option (List Json)
  | [] => some []
  | v :: rest =>
    match keep? depth v, keepItems? depth rest with
    | some v, some rest => some (v :: rest)
    | _, _ => none

/-- The members of an object that is kept, put in order after the ones already there. -/
def keepMembers? (depth : Nat) (sorted : List (String × Json)) :
    List (Option String × Parsed) → Option (List (String × Json))
  | [] => some sorted
  | (some k, v) :: rest =>
    match keep? depth v with
    | some v => keepMembers? depth (Json.insertMember k v sorted) rest
    | none => none
  | (none, _) :: _ => none

end

/-- How many levels of arrays and objects a value that is kept may have, from the outermost one
of the text. -/
def depthLimit : Nat := 127

end Parsed

end ImageOverlay
