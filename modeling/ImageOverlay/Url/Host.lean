import ImageOverlay.Number.Decimal
import ImageOverlay.Text.Substitute
import ImageOverlay.Url.Domain.Basic

set_option autoImplicit false

/-!
# Hosts

Which texts may stand as the host of an absolute address: a domain, an IPv4 address in any of its
spellings, an IPv6 address in square brackets, or, for schemes that this program knows nothing of,
any text without the characters that separate the parts of an address.
-/

namespace ImageOverlay.Url

/-! ## IPv4 -/

/-- A number of an IPv4 address: decimal, octal behind a zero or hexadecimal behind `0x`. -/
def ipv4Number? (cs : List Char) : Option Nat :=
  let isOctal (c : Char) : Bool := '0' ≤ c && c ≤ '7'
  match cs with
  | [] => none
  | '0' :: 'x' :: ds | '0' :: 'X' :: ds =>
    if ds.all Decimal.isHexDigit then some (Decimal.ofDigits 16 Decimal.hexDigit? ds) else none
  | '0' :: d :: ds =>
    if (d :: ds).all isOctal then some (Decimal.ofDigits 8 Decimal.digit? (d :: ds)) else none
  | ds => if ds.all Decimal.isDigit then some (Decimal.toNat ds) else none

/-- The labels of a domain, without the empty one behind a dot at the end. -/
def labels (cs : List Char) : List (List Char) :=
  let parts := Text.splitAt '.' cs
  if parts.getLast? = some [] then parts.dropLast else parts

/-- A domain whose last label is a number must be an IPv4 address. -/
def endsInNumber (cs : List Char) : Bool :=
  match (labels cs).getLast? with
  | none => false
  | some last => (!last.isEmpty && last.all Decimal.isDigit) || (ipv4Number? last).isSome

/-- Up to four numbers; each but the last is one byte, and the last one is all other bytes. -/
def isIpv4 (cs : List Char) : Bool :=
  match (labels cs).mapM ipv4Number? with
  | none => false
  | some numbers =>
    match numbers.getLast? with
    | none => false
    | some last =>
      numbers.length ≤ 4 && numbers.dropLast.all (· ≤ 255) &&
        last < Nat.pow 256 (5 - numbers.length)

/-! ## IPv6 -/

/-- Four decimal numbers up to 255 without leading zeros. -/
def isDottedQuad (cs : List Char) : Bool :=
  let isByte : List Char → Bool
    | [] => false
    | ['0'] => true
    | '0' :: _ => false
    | ds => ds.all Decimal.isDigit && Decimal.toNat ds ≤ 255
  let parts := Text.splitAt '.' cs
  parts.length == 4 && parts.all isByte

/-- How many of the eight pieces some pieces are: an IPv4 address, which may only be the last one,
is two. -/
def pieceCount? (quadAllowed : Bool) : List (List Char) → Option Nat
  | [] => some 0
  | [p] =>
    if quadAllowed && isDottedQuad p then some 2
    else if !p.isEmpty && p.length ≤ 4 && p.all Decimal.isHexDigit then some 1
    else none
  | p :: rest =>
    if !p.isEmpty && p.length ≤ 4 && p.all Decimal.isHexDigit then
      (pieceCount? quadAllowed rest).map (· + 1)
    else none

/-- The pieces of a part of an address; an empty part has none. -/
def pieces (cs : List Char) : List (List Char) :=
  if cs.isEmpty then [] else Text.splitAt ':' cs

/-- The parts before and behind the first double colon. -/
def splitDouble : List Char → Option (List Char × List Char)
  | ':' :: ':' :: rest => some ([], rest)
  | c :: rest => (splitDouble rest).map fun (before, behind) => (c :: before, behind)
  | [] => none

/-- Eight pieces, or fewer around one double colon. -/
def isIpv6 (cs : List Char) : Bool :=
  match splitDouble cs with
  | none => pieceCount? true (Text.splitAt ':' cs) == some 8
  | some (before, behind) =>
    match pieceCount? false (pieces before), pieceCount? true (pieces behind) with
    | some m, some n => m + n ≤ 7
    | _, _ => false

/-- An IPv6 address in brackets. -/
def isBracketed (cs : List Char) : Bool :=
  match Text.before? [']'] (cs.drop 1) with
  | some inner => isIpv6 inner
  | none => false

/-! ## Domains -/

/-- Undo the escapes of a text by the bytes of its characters; `none` if the bytes are no text. -/
def unescape? (cs : List Char) : Option (List Char) :=
  let rec bytes : List UInt8 → List UInt8
    | 0x25 :: a :: b :: rest =>
      match Decimal.hexDigit? (Char.ofNat a.toNat), Decimal.hexDigit? (Char.ofNat b.toNat) with
      | some a, some b => UInt8.ofNat (16 * a + b) :: bytes rest
      | _, _ => 0x25 :: bytes (a :: b :: rest)
    | a :: rest => a :: bytes rest
    | [] => []
  if !cs.contains '%' then some cs
  else (String.fromUTF8? ⟨(bytes (String.ofList cs).toUTF8.toList).toArray⟩).map String.toList

/-- A domain, or the IPv4 address it looks like. -/
def isDomain (cs : List Char) : Bool :=
  match (unescape? cs).bind Domain.read? with
  | none => false
  | some cs => Domain.isSound cs && (!endsInNumber cs || isIpv4 cs)

/-- The host of a scheme that is known. -/
def isHost : List Char → Bool
  | '[' :: rest => isBracketed ('[' :: rest)
  | cs => isDomain cs

/-- The host of a scheme that is not known; it may be empty. -/
def isOpaqueHost : List Char → Bool
  | '[' :: rest => isBracketed ('[' :: rest)
  | cs => cs.all fun c => !"\x00\t\n\r #/:<>?@[\\]^|".toList.contains c

end ImageOverlay.Url
