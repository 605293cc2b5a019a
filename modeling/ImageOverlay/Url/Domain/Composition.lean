import ImageOverlay.Url.Domain.CompositionTable
import ImageOverlay.Url.Domain.Mark

set_option autoImplicit false

/-!
# Composition

A letter with a mark can be written as one character or as two, and marks at different places in
any order. The composed form of a text chooses one of these spellings: all characters are taken
apart, the marks behind each are put in the order of their places, and what can be composed again
is composed.

Korean syllables are composed of two or three letters, and their code points can be computed: 21
vowels and 28 endings, the first of which is none, are counted for each of 19 beginnings.
-/

namespace ImageOverlay.Domain

/-! ## Two characters for one -/

/-- The two parts of a Korean syllable: a syllable without its ending and the ending, or, if there
is none, a beginning and a vowel. -/
def syllableParts? (n : Nat) : Option (Nat × Nat) :=
  if 0xAC00 ≤ n ∧ n ≤ 0xD7A3 then
    let k := n - 0xAC00
    if k % 28 = 0 then some (0x1100 + k / 588, 0x1161 + k % 588 / 28)
    else some (n - k % 28, 0x11A7 + k % 28)
  else none

/-- The syllable of a beginning and a vowel, or of a syllable without an ending and an ending. -/
def syllable? (a b : Nat) : Option Nat :=
  if 0x1100 ≤ a ∧ a ≤ 0x1112 ∧ 0x1161 ≤ b ∧ b ≤ 0x1175 then
    some (0xAC00 + (a - 0x1100) * 588 + (b - 0x1161) * 28)
  else if 0xAC00 ≤ a ∧ a ≤ 0xD7A3 ∧ (a - 0xAC00) % 28 = 0 ∧ 0x11A8 ≤ b ∧ b ≤ 0x11C2 then
    some (a + (b - 0x11A7))
  else none

/-- The two characters that a character stands for. -/
def parts? (c : Char) : Option (Char × Char) :=
  let n := c.toNat
  if n < 0xE0 then none
  else
    match syllableParts? n with
    | some (a, b) => some (Char.ofNat a, Char.ofNat b)
    | none =>
      (compositions.find? (·.2.2 == n)).map fun (a, b, _) => (Char.ofNat a, Char.ofNat b)

/-- The character that stands for two. -/
def whole? (a b : Char) : Option Char :=
  if b.toNat < 0x300 then none
  else
    match syllable? a.toNat b.toNat with
    | some n => some (Char.ofNat n)
    | none =>
      (compositions.find? fun (first, second, _) => first == a.toNat && second == b.toNat).map
        fun (_, _, n) => Char.ofNat n

/-! ## The composed form -/

/-- A character taken apart, at most `steps` times. The second part is never composed itself. -/
def decompose : (steps : Nat) → Char → List Char
  | 0, c => [c]
  | steps + 1, c =>
    match parts? c with
    | some (a, b) => decompose steps a ++ [b]
    | none => [c]

/-- Put a character in front of a text, but behind the marks whose places come first. -/
def settle (c : Char) : List Char → List Char
  | [] => [c]
  | d :: rest => if 0 < place d ∧ place d < place c then d :: settle c rest else c :: d :: rest

/-- A text with its marks in the order of their places. -/
def arrange (cs : List Char) : List Char := cs.foldr settle []

/-- Compose `base` with what follows. The characters between, the last one first, were left over;
they keep a character from the base unless it has a place further out than the last of them. -/
def composeOnto (base : Char) (between : List Char) : List Char → List Char
  | [] => base :: between.reverse
  | c :: rest =>
    let isFree := match between with
      | [] => true
      | last :: _ => place last < place c
    match (if isFree then whole? base c else none) with
    | some whole => composeOnto whole between rest
    | none =>
      if place c = 0 then base :: between.reverse ++ composeOnto c [] rest
      else composeOnto base (c :: between) rest

/-- Compose what can be composed. A mark at the front has no base and stays. -/
def compose : List Char → List Char
  | [] => []
  | c :: rest => if place c = 0 then composeOnto c [] rest else c :: compose rest

/-- The composed form of a text. No character is composed of more than three, so it is taken apart
after two steps. -/
def composed (cs : List Char) : List Char := compose (arrange (cs.flatMap (decompose 2)))

end ImageOverlay.Domain
