set_option autoImplicit false

/-!
# Pieces of texts

Cutting a text at a separator, taking a fixed beginning or end off it, replacing every occurrence
of a word, and cutting a slice out of it. The places where a slice begins and ends are counted in
bytes of UTF-8, so there is none where one of them lies within a character.
-/

namespace ImageOverlay.Text

/-- The rest of a text after a fixed beginning. -/
def after? : (start : List Char) → List Char → Option (List Char)
  | [], cs => some cs
  | _ :: _, [] => none
  | s :: start, c :: cs => if s = c then after? start cs else none

/-- The part of a text before a fixed end. -/
def before? (ending : List Char) (cs : List Char) : Option (List Char) :=
  (after? ending.reverse cs.reverse).map List.reverse

/-- The parts of a text between the separators: one more than there are separators. -/
def splitAt (separator : Char) : List Char → List (List Char)
  | [] => [[]]
  | c :: cs =>
    if c = separator then [] :: splitAt separator cs
    else
      match splitAt separator cs with
      | [] => [[c]]
      | part :: parts => (c :: part) :: parts

/-- How many bytes a text takes up. -/
def byteLength : List Char → Nat
  | [] => 0
  | c :: cs => c.utf8Size + byteLength cs

/-- The first bytes of a text, if they are whole characters. -/
def takeBytes? : (n : Nat) → List Char → Option (List Char)
  | 0, _ => some []
  | _ + 1, [] => none
  | n + 1, c :: cs =>
    if c.utf8Size ≤ n + 1 then (takeBytes? (n + 1 - c.utf8Size) cs).map (c :: ·) else none

/-- What follows the first bytes of a text, if they are whole characters. -/
def dropBytes? : (n : Nat) → List Char → Option (List Char)
  | 0, cs => some cs
  | _ + 1, [] => none
  | n + 1, c :: cs => if c.utf8Size ≤ n + 1 then dropBytes? (n + 1 - c.utf8Size) cs else none

/-- The slice of a text from one byte up to another. -/
def slice? (first last : Nat) (cs : List Char) : Option (List Char) :=
  if first ≤ last then (dropBytes? first cs).bind (takeBytes? (last - first)) else none

/-- Replace from the left every occurrence of a word that does not overlap an earlier one. The
number says how many characters of the occurrence just replaced are still to be skipped. -/
def replaceFrom (word by_ : List Char) : (skip : Nat) → List Char → List Char
  | _, [] => []
  | skip + 1, _ :: cs => replaceFrom word by_ skip cs
  | 0, c :: cs =>
    if (after? word (c :: cs)).isSome then by_ ++ replaceFrom word by_ (word.length - 1) cs
    else c :: replaceFrom word by_ 0 cs

/-- Every occurrence of a non-empty word replaced. -/
def replace (word by_ cs : List Char) : List Char := replaceFrom word by_ 0 cs

/-- Whether a word occurs in a text. -/
def contains (word : List Char) : List Char → Bool
  | [] => word.isEmpty
  | c :: cs => (after? word (c :: cs)).isSome || contains word cs

end ImageOverlay.Text
