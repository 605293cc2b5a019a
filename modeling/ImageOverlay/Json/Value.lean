import ImageOverlay.Number.Shortest

set_option autoImplicit false

/-!
# JSON values and their text

A JSON value keeps whole numbers apart from doubles, and the members of an object in the order
they are written. It has two texts: `compact`, without any blank, and `pretty`, with one item a
line and two blanks of indent for every level.

A double is written with the fewest digits that read back, always with a point or an exponent,
so that it stays apart from a whole number. What is not a number has no text and is written as
`null`.
-/

namespace ImageOverlay

/-- A JSON value. -/
inductive Json where
  | null
  | bool (b : Bool)
  | int (n : Int)
  | real (x : Float)
  | str (s : String)
  | arr (items : List Json)
  | obj (members : List (String × Json))
deriving Repr, Inhabited

namespace Json

/-! ## Scalars -/

/-- Doubles are positional from `10^-5` to below `10^16`; of two equally near decimals the even
one is taken. -/
def numberLayout : Layout := ⟨some (-5, 16), .toEven, "null", "null"⟩

/-- A double, or `null` for what is not a finite number. -/
def realText (x : Float) : List Char :=
  match Exact.ofFloat x with
  | .finite _ _ _ => numberLayout.text x
  | _ => "null".toList

/-- A whole number. -/
def intText (n : Int) : List Char :=
  (if n < 0 then ['-'] else []) ++ Decimal.digits n.natAbs

/-- One character inside quotes. -/
def escapeChar (c : Char) : List Char :=
  if c = '"' then ['\\', '"']
  else if c = '\\' then ['\\', '\\']
  else if c = '\n' then ['\\', 'n']
  else if c = '\r' then ['\\', 'r']
  else if c = '\t' then ['\\', 't']
  else if c = '\x08' then ['\\', 'b']
  else if c = '\x0c' then ['\\', 'f']
  else if c.toNat < 0x20 then
    ['\\', 'u', '0', '0', Decimal.hexDigit 'a' (c.toNat / 16), Decimal.hexDigit 'a' (c.toNat % 16)]
  else [c]

/-- A text in quotes. -/
def quoted (s : String) : List Char := '"' :: (s.toList.flatMap escapeChar ++ ['"'])

/-! ## Compact text -/

mutual

/-- The text of a value without blanks. -/
def compact : Json → List Char
  | .null => "null".toList
  | .bool b => (if b then "true" else "false").toList
  | .int n => intText n
  | .real x => realText x
  | .str s => quoted s
  | .arr items => '[' :: compactItems items
  | .obj members => '\x7b' :: compactMembers members

/-- The items of an array and its closing bracket. -/
def compactItems : List Json → List Char
  | [] => [']']
  | [v] => compact v ++ [']']
  | v :: w :: rest => compact v ++ ',' :: compactItems (w :: rest)

/-- The members of an object and its closing bracket. -/
def compactMembers : List (String × Json) → List Char
  | [] => ['\x7d']
  | [(k, v)] => quoted k ++ ':' :: (compact v ++ ['\x7d'])
  | (k, v) :: m :: rest => quoted k ++ ':' :: (compact v ++ ',' :: compactMembers (m :: rest))

end

/-! ## Indented text -/

/-- A new line at a level. -/
def newline (level : Nat) : List Char := '\n' :: List.replicate (2 * level) ' '

mutual

/-- The text of a value at a level of indent. -/
def prettyAt : Json → (level : Nat) → List Char
  | .null, _ => "null".toList
  | .bool b, _ => (if b then "true" else "false").toList
  | .int n, _ => intText n
  | .real x, _ => realText x
  | .str s, _ => quoted s
  | .arr [], _ => ['[', ']']
  | .arr items, level => '[' :: prettyItems items (level + 1) ++ newline level ++ [']']
  | .obj [], _ => ['\x7b', '\x7d']
  | .obj members, level =>
    '\x7b' :: prettyMembers members (level + 1) ++ newline level ++ ['\x7d']

/-- The items of an array, each on a line of its own. -/
def prettyItems : List Json → (level : Nat) → List Char
  | [], _ => []
  | [v], level => newline level ++ prettyAt v level
  | v :: w :: rest, level =>
    newline level ++ prettyAt v level ++ ',' :: prettyItems (w :: rest) level

/-- The members of an object, each on a line of its own. -/
def prettyMembers : List (String × Json) → (level : Nat) → List Char
  | [], _ => []
  | [(k, v)], level => newline level ++ quoted k ++ ':' :: ' ' :: prettyAt v level
  | (k, v) :: m :: rest, level =>
    newline level ++ quoted k ++ ':' :: ' ' :: prettyAt v level ++ ',' ::
      prettyMembers (m :: rest) level

end

/-- The indented text of a value. -/
def pretty (v : Json) : String := String.ofList (v.prettyAt 0)

/-- The compact text of a value. -/
def render (v : Json) : String := String.ofList v.compact

/-! ## Building values -/

/-- A member that is left out when there is nothing to write. -/
def member? (key : String) : Option Json → List (String × Json)
  | none => []
  | some v => [(key, v)]

/-- Put a member where the order of the keys wants it; an old one of that key is replaced. -/
def insertMember (key : String) (v : Json) : List (String × Json) → List (String × Json)
  | [] => [(key, v)]
  | (k, w) :: rest =>
    if key = k then (key, v) :: rest
    else if key < k then (key, v) :: (k, w) :: rest
    else (k, w) :: insertMember key v rest

end Json

end ImageOverlay
