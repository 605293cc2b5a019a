import ImageOverlay.Url.Domain.Alphabet
import ImageOverlay.Url.Domain.Composition
import ImageOverlay.Url.Domain.Direction
import ImageOverlay.Url.Domain.Joining
import ImageOverlay.Url.Punycode

set_option autoImplicit false

/-!
# Domains

A domain is a list of labels with full stops between them. It is read character by character into
a form that is composed and in lower case; then its labels are looked at. A label that stands for
one beyond ASCII is looked at as the one it stands for.
-/

namespace ImageOverlay.Domain

/-- The form in which a domain is looked at; `none` if it is written with a character that it
cannot be written with. -/
def read? (cs : List Char) : Option (List Char) :=
  (cs.mapM reading?).map fun parts => composed parts.flatten

/-- Whether a character is one of ASCII. -/
def isAscii (c : Char) : Bool := c.toNat < 0x80

/-- The label that the rest of a label behind `xn--` stands for. It goes beyond ASCII, and reading
it changes nothing. The rest is not longer than 2000 characters. -/
def decode? (cs : List Char) : Option (List Char) :=
  if 2000 < cs.length then none
  else
    (Punycode.decode? cs).filter fun label =>
      !label.all isAscii && label.all (fun c => isPlain c && isAllowed c && c != '.') &&
        composed label == label

/-- The label that a label stands for: itself, unless it begins with `xn--`. -/
def meant? (label : List Char) : Option (List Char) :=
  match Text.after? "xn--".toList label with
  | some rest => decode? rest
  | none => some label

/-- Whether a label is sound by itself. One that goes beyond ASCII is not longer than 1000
characters. -/
def isLabel (label : List Char) : Bool :=
  !label.head?.any isMark && joinersFit [] label && (label.all isAscii || label.length ≤ 1000)

/-- Whether labels make up a domain. -/
def areLabels (labels : List (List Char)) : Bool :=
  labels.all isLabel &&
    (!labels.any (·.any asksDirection) || labels.all keepsDirection)

/-- Whether the form that was read is that of a domain. The empty text is none. -/
def isSound (cs : List Char) : Bool :=
  !cs.isEmpty && cs.all isAllowed &&
    ((Text.splitAt '.' cs).mapM meant?).any areLabels

end ImageOverlay.Domain
