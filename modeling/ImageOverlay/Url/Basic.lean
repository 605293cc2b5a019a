import ImageOverlay.Text.Blank
import ImageOverlay.Url.Host

set_option autoImplicit false

/-!
# Absolute addresses

Which texts are addresses in their own right: they name a scheme, and what follows is as that
scheme wants it. The schemes of the web need a host, however many slashes come before it; a file
may have one; of other schemes only what follows two slashes is looked at. Blanks and controls at
the ends do not count, nor do tabs and line ends anywhere.
-/

namespace ImageOverlay.Url

/-- Whether a character is a blank or a control. -/
def isEdge (c : Char) : Bool := c.toNat ≤ 0x20

/-- Whether a character is left out wherever it stands. -/
def isSkipped (c : Char) : Bool := c == '\t' || c == '\n' || c == '\r'

/-- An address without the characters that do not count. -/
def clean (cs : List Char) : List Char :=
  (Text.dropEndWhile isEdge (cs.dropWhile isEdge)).filter fun c => !isSkipped c

/-- Whether a character may stand in a scheme, behind its first letter. -/
def isSchemeChar (c : Char) : Bool :=
  c.isAlphanum || c == '+' || c == '-' || c == '.'

/-- The scheme of an address in lower case, and what follows its colon. -/
def scheme? (cs : List Char) : Option (String × List Char) :=
  match cs with
  | [] => none
  | c :: _ =>
    if c.isAlpha then
      match cs.dropWhile isSchemeChar with
      | ':' :: rest => some (String.ofList ((cs.takeWhile isSchemeChar).map Char.toLower), rest)
      | _ => none
    else none

/-- Whether a character is a slash of either direction. -/
def isSlash (c : Char) : Bool := c == '/' || c == '\\'

/-- Whether a character ends the authority: the user, the host and the port. -/
def endsAuthority (web : Bool) (c : Char) : Bool :=
  c == '/' || c == '?' || c == '#' || (web && c == '\\')

/-- The parts of an authority before and behind its last `@`. -/
def splitUser (cs : List Char) : Option (List Char × List Char) :=
  if cs.contains '@' then
    let host := (cs.reverse.takeWhile (· ≠ '@')).reverse
    some (cs.take (cs.length - host.length - 1), host)
  else none

/-- The host at the front of an authority, and what follows it. A colon inside brackets does not
end it. -/
def splitHost (inside : Bool) : List Char → List Char × List Char
  | [] => ([], [])
  | c :: rest =>
    if c == ':' && !inside then ([], c :: rest)
    else
      let inside := if c == '[' then true else if c == ']' then false else inside
      let (host, rest) := splitHost inside rest
      (c :: host, rest)

/-- A port behind a colon: digits that do not exceed 65535, or none. A backslash ends it. -/
def isPort : List Char → Bool
  | ':' :: rest =>
    let ds := rest.takeWhile Decimal.isDigit
    Decimal.toNat ds ≤ 65535 &&
      match rest.dropWhile Decimal.isDigit with
      | [] => true
      | c :: _ => c == '\\'
  | _ => true

/-- Whether a user part says anything: a name, or a password. -/
def isUser (cs : List Char) : Bool := !cs.isEmpty && cs != [':']

/-- The authority of a scheme of the web. -/
def isWebAuthority (cs : List Char) : Bool :=
  let authority := cs.takeWhile fun c => !endsAuthority true c
  let host := ((splitUser authority).map (·.2)).getD authority
  let (host, port) := splitHost false host
  !host.isEmpty && isHost host && isPort port

/-- The authority of a scheme that is not known. Without a host there is neither user nor port,
nor an `@` in front of a path. -/
def isOpaqueAuthority (cs : List Char) : Bool :=
  let authority := cs.takeWhile fun c => !endsAuthority false c
  let (user, host) := (splitUser authority).getD ([], authority)
  let (host, port) := splitHost false host
  let bare := splitUser authority == some ([], []) && authority.length < cs.length
  isOpaqueHost host && isPort port &&
    (!host.isEmpty || (port.isEmpty && !isUser user && !bare))

/-- The host of a file; it may be missing. A drive is none. -/
def isFileAuthority (cs : List Char) : Bool :=
  let host := cs.takeWhile fun c => !endsAuthority true c
  match host with
  | [] => true
  | [d, c] => (d.isAlpha && (c == ':' || c == '|')) || isHost host
  | _ => isHost host

/-- Whether a text is an absolute address. -/
def isAbsolute (text : String) : Bool :=
  match scheme? (clean text.toList) with
  | none => false
  | some (scheme, rest) =>
    if ["http", "https", "ws", "wss", "ftp"].contains scheme then
      isWebAuthority (rest.dropWhile isSlash)
    else if scheme = "file" then
      match rest with
      | a :: b :: rest => !(isSlash a && isSlash b) || isFileAuthority rest
      | _ => true
    else
      match rest with
      | '/' :: '/' :: rest => isOpaqueAuthority rest
      | _ => true

end ImageOverlay.Url
