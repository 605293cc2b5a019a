import ImageOverlay.Json.Reader

set_option autoImplicit false

/-!
# Tables of TOML

The tables of a TOML document are put together from pieces that may stand anywhere in it: headers
open tables, keys with dots make tables on the way, and double headers add rows to a list of
tables. What may be added to later depends on how a table came about. A header may open a table
once, also one that an earlier header went through; keys with dots may only go through tables that
keys with dots have made; and what was written as a value is closed.
-/

namespace ImageOverlay.Toml

/-- How a table came about: by a header of its own, by a header of a table inside, or by a key
with dots. -/
inductive Origin where
  | header
  | inner
  | dotted
deriving DecidableEq, Repr

/-- A value, a table, or a list of tables. -/
inductive Node where
  | leaf (v : Parsed)
  | table (origin : Origin) (members : List (String × Node))
  | rows (rows : List (List (String × Node)))

/-- The members of a table, in the order in which they came. -/
abbrev Members := List (String × Node)

/-- Put a node in place of the one with the same key. -/
def replaceMember (key : String) (node : Node) (ms : Members) : Members :=
  ms.map fun (k, n) => if k = key then (k, node) else (k, n)

/-- Change the table at the end of a path. Tables that are missing on the way are made; a list of
tables stands for its last row. -/
def changeAt (dotted : Bool) (change : Origin → Members → Option (Origin × Members)) :
    (path : List String) → Origin → Members → Option (Origin × Members)
  | [], origin, ms => change origin ms
  | key :: path, origin, ms =>
    match ms.lookup key with
    | none => do
      let (o, inner) ← changeAt dotted change path (if dotted then .dotted else .inner) []
      some (origin, ms ++ [(key, .table o inner)])
    | some (.table o inner) =>
      if dotted ∧ o = .header then none
      else do
        let (o, inner) ← changeAt dotted change path o inner
        some (origin, replaceMember key (.table o inner) ms)
    | some (.rows rows) => do
      let last ← rows.getLast?
      let (_, inner) ← changeAt dotted change path .header last
      some (origin, replaceMember key (.rows (rows.dropLast ++ [inner])) ms)
    | some (.leaf _) => none

/-- Add a value to a table. Only one kind of path leads to a table: a key with dots to a table
that keys with dots have made, and a key without dots to any other one. -/
def addMember (isDotted : Bool) (key : String) (v : Parsed) (origin : Origin) (ms : Members) :
    Option (Origin × Members) :=
  if decide (origin = .dotted) = isDotted ∧ (ms.lookup key).isNone then
    some (origin, ms ++ [(key, .leaf v)])
  else none

/-- Add a value under a key with or without dots to the table that a header has opened. -/
def assign (header path : List String) (v : Parsed) (root : Members) : Option Members := do
  let key ← path.getLast?
  let stem := path.dropLast
  let add := changeAt true (addMember (!stem.isEmpty) key v) stem
  let (_, root) ← changeAt false add header .header root
  some root

/-- Open the table of a header. -/
def openTable (path : List String) (root : Members) : Option Members := do
  let key ← path.getLast?
  let put (origin : Origin) (ms : Members) : Option (Origin × Members) :=
    match ms.lookup key with
    | none => some (origin, ms ++ [(key, .table .header [])])
    | some (.table .inner inner) => some (origin, replaceMember key (.table .header inner) ms)
    | _ => none
  let (_, root) ← changeAt false put path.dropLast .header root
  some root

/-- Add a row to the list of tables of a double header. -/
def openRow (path : List String) (root : Members) : Option Members := do
  let key ← path.getLast?
  let put (origin : Origin) (ms : Members) : Option (Origin × Members) :=
    match ms.lookup key with
    | none => some (origin, ms ++ [(key, .rows [[]])])
    | some (.rows rows) => some (origin, replaceMember key (.rows (rows ++ [[]])) ms)
    | _ => none
  let (_, root) ← changeAt false put path.dropLast .header root
  some root

/-! ## The finished value -/

mutual

/-- The value of a node. -/
def Node.toParsed : Node → Parsed
  | .leaf v => v
  | .table _ ms => .object (parsedMembers ms)
  | .rows rows => .array (parsedRows rows)

/-- The values of the members of a table. -/
def parsedMembers : Members → List (Option String × Parsed)
  | [] => []
  | (key, node) :: rest => (some key, node.toParsed) :: parsedMembers rest

/-- The values of the rows of a list of tables. -/
def parsedRows : List Members → List Parsed
  | [] => []
  | row :: rest => .object (parsedMembers row) :: parsedRows rest

end

end ImageOverlay.Toml
