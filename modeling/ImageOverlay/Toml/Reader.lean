import ImageOverlay.Toml.Quoted
import ImageOverlay.Toml.Scalar
import ImageOverlay.Toml.Table

set_option autoImplicit false

/-!
# Reading TOML

A document is a list of lines that open tables or give values, with comments and empty lines in
between. Its value is of the same kind as that of a JSON text, and is looked at in the same way.
-/

namespace ImageOverlay.Toml

/-! ## Blanks -/

/-- A text without the blanks at the front of its first line. -/
def skip (cs : List Char) : List Char := cs.dropWhile fun c => c == ' ' || c == '\t'

/-- A text without the blanks, line ends and comments at its front; `none` if a comment holds a
character that it may not. -/
def gap (comment : Bool) : List Char → Option (List Char)
  | [] => some []
  | '\n' :: rest | '\r' :: '\n' :: rest => gap false rest
  | c :: rest =>
    if comment then if isControl c then none else gap true rest
    else if c = ' ' ∨ c = '\t' then gap false rest
    else if c = '#' then gap true rest
    else some (c :: rest)

/-- What follows the end of a line, on which there may be a comment. -/
def lineEnd? (comment : Bool) : List Char → Option (List Char)
  | [] => some []
  | '\n' :: rest | '\r' :: '\n' :: rest => some rest
  | c :: rest =>
    if comment then if isControl c then none else lineEnd? true rest
    else if c = ' ' ∨ c = '\t' then lineEnd? false rest
    else if c = '#' then lineEnd? true rest
    else none

/-! ## Keys -/

/-- Whether a character may stand in a key without quotes. -/
def isKeyChar (c : Char) : Bool := c.isAlphanum || c == '_' || c == '-'

/-- One key. -/
def key? (cs : List Char) : Option (String × List Char) :=
  match cs with
  | '"' :: _ | '\'' :: _ => (lineText? cs).map fun (k, rest) => (String.ofList k, rest)
  | _ =>
    let k := cs.takeWhile isKeyChar
    if k.isEmpty then none else some (String.ofList k, cs.dropWhile isKeyChar)

/-- Keys with dots and blanks between them, of which there may be `limit`. -/
def path? : (limit : Nat) → List Char → Option (List String × List Char)
  | 0, _ => none
  | limit + 1, cs =>
    match key? (skip cs) with
    | none => none
    | some (key, rest) =>
      match skip rest with
      | '.' :: rest => (path? limit rest).map fun (keys, rest) => (key :: keys, rest)
      | rest => some ([key], rest)

/-- How many keys may stand with dots between them. -/
def keyLimit : Nat := 80

/-- Keys and the equals sign behind them; `blank?` reads what may stand around the sign. -/
def assigned? (blank? : List Char → Option (List Char)) (cs : List Char) :
    Option (List String × List Char) := do
  let (path, rest) ← path? keyLimit cs
  match ← blank? rest with
  | '=' :: rest => some (path, ← blank? rest)
  | _ => none

/-! ## Values -/

mutual

/-- One value and what follows it; `depth` more brackets may be opened. -/
def value : (fuel depth : Nat) → List Char → Option (Parsed × List Char)
  | 0, _, _ => none
  | fuel + 1, depth, cs =>
    match cs with
    | '"' :: _ | '\'' :: _ =>
      (text? cs).map fun (s, rest) => (.text (some (String.ofList s)), rest)
    | '[' :: rest =>
      if depth = 0 then none
      else (items fuel (depth - 1) rest).map fun (vs, rest) => (.array vs, rest)
    | '\x7b' :: rest =>
      if depth = 0 then none
      else
        (pairs fuel (depth - 1) [] rest).map fun (ms, rest) => (.object (parsedMembers ms), rest)
    | _ =>
      match word cs with
      | ([], _) => none
      | (w, rest) => (ofWord? w).map fun v => (v, rest)

/-- The items of an array, up to its closing bracket; a comma may stand behind the last one. -/
def items : (fuel depth : Nat) → List Char → Option (List Parsed × List Char)
  | 0, _, _ => none
  | fuel + 1, depth, cs =>
    match gap false cs with
    | none => none
    | some (']' :: rest) => some ([], rest)
    | some cs =>
      match value fuel depth cs with
      | none => none
      | some (v, rest) =>
        match gap false rest with
        | some (']' :: rest) => some ([v], rest)
        | some (',' :: rest) => (items fuel depth rest).map fun (vs, rest) => (v :: vs, rest)
        | _ => none

/-- The members of a table in curly brackets, after those already read. -/
def pairs : (fuel depth : Nat) → Members → List Char → Option (Members × List Char)
  | 0, _, _, _ => none
  | fuel + 1, depth, ms, cs =>
    match gap false cs with
    | none => none
    | some ('\x7d' :: rest) => some (ms, rest)
    | some cs =>
      match assigned? (gap false) cs with
      | none => none
      | some (path, rest) =>
        match value fuel depth rest with
        | none => none
        | some (v, rest) =>
          match assign [] path v ms, gap false rest with
          | some ms, some ('\x7d' :: rest) => some (ms, rest)
          | some ms, some (',' :: rest) => pairs fuel depth ms rest
          | _, _ => none

end

/-- How many brackets may be open at a time. -/
def depthLimit : Nat := 80

/-! ## Documents -/

/-- A header: its path and what follows the line. -/
def headerRest? (closing : List Char) (cs : List Char) : Option (List String × List Char) := do
  let (path, rest) ← path? keyLimit cs
  let rest ← Text.after? closing rest
  some (path, ← lineEnd? false rest)

/-- The lines of a document, below the header `header`. -/
def lines : (fuel : Nat) → (header : List String) → Members → List Char → Option Members
  | 0, _, _, _ => none
  | fuel + 1, header, root, cs =>
    match gap false cs with
    | none => none
    | some [] => some root
    | some ('[' :: '[' :: rest) => do
      let (path, rest) ← headerRest? [']', ']'] rest
      lines fuel path (← openRow path root) rest
    | some ('[' :: rest) => do
      let (path, rest) ← headerRest? [']'] rest
      lines fuel path (← openTable path root) rest
    | some cs => do
      let (path, rest) ← assigned? (some ∘ skip) cs
      let (v, rest) ← value (2 * rest.length + 2) depthLimit rest
      lines fuel header (← assign header path v root) (← lineEnd? false rest)

/-- A text without the mark of its byte order. -/
def dropMark : List Char → List Char
  | '\ufeff' :: rest => rest
  | cs => cs

/-- Read a document. -/
def read (cs : List Char) : Option Parsed :=
  let cs := dropMark cs
  (lines (cs.length + 1) [] [] cs).map fun root => .object (parsedMembers root)

end ImageOverlay.Toml
