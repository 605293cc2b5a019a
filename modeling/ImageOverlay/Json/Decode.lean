import ImageOverlay.Json.Reader

set_option autoImplicit false

/-!
# Records from JSON

A record is read from an object, by the names of its fields, or from an array, by their order.
Members of other names are never looked at. A field may have several names, but only one of them
may be given, and only once. A missing field takes its default, if it has one; `null` is a value
only where a field is optional.

A whole number is read where a double is asked for, never the other way round.
-/

namespace ImageOverlay

/-- A reader of values of one type. -/
abbrev Decoder (α : Type) := Parsed → Option α

namespace Decode

/-! ## Scalars -/

/-- A truth value. -/
def bool : Decoder Bool
  | .bool b => some b
  | _ => none

/-- A string. -/
def string : Decoder String
  | .text s => s
  | _ => none

/-- A double; a whole number is rounded to one. -/
def float : Decoder Float
  | .number (.int n) => some (Decimal.value (n < 0) n.natAbs 0)
  | .number (.real x) => some x
  | _ => none

/-- A whole number of a range. -/
def int (lo hi : Int) : Decoder Int
  | .number (.int n) => if lo ≤ n ∧ n ≤ hi then some n else none
  | _ => none

/-- An unsigned 32-bit number. -/
def uint32 : Decoder UInt32 := fun p =>
  (int 0 (Int.pow 2 32 - 1) p).map fun n => UInt32.ofNat n.toNat

/-- A signed 32-bit number. -/
def int32 : Decoder Int := int (-Int.pow 2 31) (Int.pow 2 31 - 1)

/-- A signed 64-bit number. -/
def int64 : Decoder Int := int (-Int.pow 2 63) (Int.pow 2 63 - 1)

/-- A value that may be `null`. -/
def nullable {α : Type} (d : Decoder α) : Decoder (Option α)
  | .null => some none
  | p => (d p).map some

/-! ## Arrays -/

/-- An array of any length. -/
def list {α : Type} (d : Decoder α) : Decoder (List α)
  | .array vs => vs.mapM d
  | _ => none

/-- A pair, as an array of two. -/
def pair {α : Type} (d : Decoder α) : Decoder (α × α)
  | .array [a, b] => return (← d a, ← d b)
  | _ => none

/-- A triple, as an array of three. -/
def triple {α : Type} (d : Decoder α) : Decoder (α × α × α)
  | .array [a, b, c] => return (← d a, ← d b, ← d c)
  | _ => none

/-! ## Choices -/

/-- The alternative of a name. -/
def named? {α : Type} (table : List (String × α)) (name : String) : Option α :=
  (table.find? (·.1 == name)).map (·.2)

/-- One of several names: a string, or an object with the name as its one key. What may stand
beside the key is up to `nothing`. -/
def choiceWith {α : Type} (nothing : Parsed → Bool) (table : List (String × α)) : Decoder α
  | .text (some s) => named? table s
  | .object [(some k, v)] => if nothing v then named? table k else none
  | _ => none

/-- Whether a value is `null`. -/
def isNull : Parsed → Bool
  | .null => true
  | _ => false

/-- One of several names; an object has `null` beside the key. -/
def choice {α : Type} (table : List (String × α)) : Decoder α := choiceWith isNull table

/-! ## Fields -/

/-- Every key of an object must be a proper string, known or not. -/
def properKeys (members : List (Option String × Parsed)) : Bool := members.all (·.1.isSome)

/-- The value of the one member that has any of the names; `none` if there are two. -/
def field? (names : List String) (members : List (Option String × Parsed)) :
    Option (Option Parsed) :=
  match members.filter fun (k, _) => names.any fun n => k == some n with
  | [] => some none
  | [(_, v)] => some (some v)
  | _ => none

/-- The fields of a record, in their order, from an object. -/
def ofMembers (names : List (List String)) (members : List (Option String × Parsed)) :
    Option (List (Option Parsed)) :=
  if properKeys members then names.mapM fun n => field? n members else none

/-- The fields of a record, in their order, from an object or an array. An array may only have
more items than there are fields where `surplus` is allowed. -/
def fieldsWith (surplus : Bool) (names : List (List String)) : Decoder (List (Option Parsed))
  | .object members => ofMembers names members
  | .array items =>
    if names.length < items.length && !surplus then none
    else
      some ((items.map some).take names.length ++
        List.replicate (names.length - items.length) none)
  | _ => none

/-- The fields of a record, in their order, from an object or an array without surplus. -/
def fields (names : List (List String)) : Decoder (List (Option Parsed)) := fieldsWith false names

/-- A field that must be there. -/
def required {α : Type} (d : Decoder α) (v : Option Parsed) : Option α := v.bind d

/-- A field with a default. -/
def orDefault {α : Type} (dflt : α) (d : Decoder α) : Option Parsed → Option α
  | none => some dflt
  | some v => d v

/-- A field that may be missing or `null`. -/
def optional {α : Type} (d : Decoder α) : Option Parsed → Option (Option α) :=
  orDefault none (nullable d)

end Decode

/-- Read a text with a decoder. -/
def Decoder.read {α : Type} (d : Decoder α) (text : String)
    (reading : NumberReading := .scaled) : Option α :=
  (Parsed.read text.toList reading).bind d

end ImageOverlay
