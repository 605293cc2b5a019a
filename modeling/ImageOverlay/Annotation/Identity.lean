import ImageOverlay.Number.Decimal
import ImageOverlay.Text.Substitute

set_option autoImplicit false

/-!
# Identities

An element without an identity of its own is given a fresh one: 128 bits in lower-case
hexadecimal, in five groups of 8, 4, 4, 4 and 12 digits with hyphens between them. This module
writes that form and recognises it, each in its own way: writing cuts the digits into groups, and
recognising cuts a text at its hyphens. Where the bits come from is not its business: whoever needs
fresh identities brings a supply of bits along.
-/

namespace ImageOverlay.Identity

/-- The lengths of the groups. -/
def groups : List Nat := [8, 4, 4, 4, 12]

/-- The length of a generated identity: 32 digits and four hyphens. -/
def length : Nat := 36

/-! ## Writing -/

/-- The last `count` hexadecimal digits of `n`, in lower case. -/
def hex : (count : Nat) → (n : Nat) → List Char
  | 0, _ => []
  | count + 1, n => hex count (n / 16) ++ [Decimal.hexDigit 'a' (n % 16)]

/-- Cut a text into pieces of the given lengths, with hyphens between them. -/
def hyphenate : List Nat → List Char → List Char
  | [], _ => []
  | [n], cs => cs.take n
  | n :: m :: rest, cs => cs.take n ++ '-' :: hyphenate (m :: rest) (cs.drop n)

/-- The identity of 128 bits. -/
def ofBits (bits : BitVec 128) : String := String.ofList (hyphenate groups (hex 32 bits.toNat))

/-- Random bits marked as such: version four, first variant. -/
def ofRandom (bits : BitVec 128) : String :=
  let n := bits.toNat
  let low := n % Nat.pow 2 62
  let mid := n / Nat.pow 2 64 % Nat.pow 2 12
  let high := n / Nat.pow 2 80
  ofBits (BitVec.ofNat 128 (high * Nat.pow 2 80 + 4 * Nat.pow 2 76 + mid * Nat.pow 2 64
    + 2 * Nat.pow 2 62 + low))

/-! ## Fresh identities -/

/-- A supply of random bits, and how many identities were already made from it. -/
structure Supply where
  bits : Nat → BitVec 128
  used : Nat := 0

/-- The next identity of a supply. -/
def Supply.next (s : Supply) : String × Supply :=
  (ofRandom (s.bits s.used), { s with used := s.used + 1 })

/-! ## Recognising -/

/-- Whether `c` is a lower-case hexadecimal digit. -/
def isDigit (c : Char) : Bool := ('0' ≤ c && c ≤ '9') || ('a' ≤ c && c ≤ 'f')

/-- Whether a text is `n` bytes of digits. -/
def isGroup (n : Nat) (cs : List Char) : Bool := Text.byteLength cs == n && cs.all isDigit

/-- Whether a text has the form of a generated identity: the right number of bytes, and between its
hyphens the groups, no more and no fewer. -/
def isGenerated (candidate : String) : Bool :=
  let parts := Text.splitAt '-' candidate.toList
  Text.byteLength candidate.toList == length && parts.length == groups.length &&
    (parts.zip groups).all fun (part, n) => isGroup n part

end ImageOverlay.Identity
