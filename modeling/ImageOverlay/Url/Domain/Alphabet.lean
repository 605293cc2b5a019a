import ImageOverlay.Text.Range
import ImageOverlay.Text.Substitute
import ImageOverlay.Url.Domain.AlphabetTable
import ImageOverlay.Url.Domain.ReplacementTable

set_option autoImplicit false

/-!
# The alphabet of domains

A domain may be written with many characters but is read with fewer: capital letters are read as
small ones, letters in special forms as plain ones, and some characters are not read at all.
-/

namespace ImageOverlay.Domain

/-- The character that another one is read as because it lies in a shifted range. -/
def shifted? (n : Nat) : Option Char :=
  (shiftedRanges.find? fun (first, last, step, _) =>
      first ≤ n && n ≤ last && (n - first) % step == 0).map
    fun (_, _, _, shift) => Char.ofNat ((n : Int) + shift).toNat

/-- The characters that a character is spelled with. -/
def spelled? (n : Nat) : Option (List Char) :=
  (spelledRanges.find? fun (first, last, _) => first ≤ n && n ≤ last).bind
    fun (first, _, text) => (Text.splitAt ' ' text.toList)[n - first]?

/-- What a character is read as; `none` if a domain is not written with it. -/
def reading? (c : Char) : Option (List Char) :=
  let n := c.toNat
  if n < 0x80 then some [c.toLower]
  else if Text.inRanges refusedRanges n then none
  else if Text.inRanges ignoredRanges n then some []
  else
    match shifted? n with
    | some c => some [c]
    | none => some ((spelled? n).getD [c])

/-- Whether a character is read as itself. -/
def isPlain (c : Char) : Bool := reading? c == some [c]

/-- Whether a character that was read is allowed. Only ASCII has characters that are not: blanks,
controls, and those that separate the parts of an address. -/
def isAllowed (c : Char) : Bool :=
  0x80 ≤ c.toNat ||
    (0x20 < c.toNat && c.toNat < 0x7F && !"%#/:<>?@[\\]^|".toList.contains c)

end ImageOverlay.Domain
