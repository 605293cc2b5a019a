import ImageOverlay.Text.Range
import ImageOverlay.Url.Domain.MarkTable

set_option autoImplicit false

/-!
# Marks

A mark belongs to the character before it, so no text should begin with one. Some marks take no
space of their own; some have a place at their character, and keep out of the way of those at
other places.
-/

namespace ImageOverlay.Domain

/-- Whether a character is a mark that takes no space of its own. -/
def isNonspacing (c : Char) : Bool :=
  0x300 ≤ c.toNat && Text.inRanges nonspacingRanges c.toNat

/-- Whether a character is a mark. -/
def isMark (c : Char) : Bool :=
  0x300 ≤ c.toNat &&
    (Text.inRanges nonspacingRanges c.toNat || Text.inRanges spacingRanges c.toNat)

/-- The place of a mark; 0 for marks without a place and for all other characters. -/
def place (c : Char) : Nat :=
  let n := c.toNat
  if n < 0x300 then 0
  else ((placeRanges.find? fun (first, last, _) => first ≤ n && n ≤ last).map (·.2.2)).getD 0

/-- Whether a character takes the vowel from the one before it, so that it joins the next one. The
place of these marks is 9. -/
def isVowelKiller (c : Char) : Bool := place c == 9

end ImageOverlay.Domain
