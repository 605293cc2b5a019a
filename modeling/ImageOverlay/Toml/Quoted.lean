import ImageOverlay.Number.Decimal
import ImageOverlay.Text.Substitute

set_option autoImplicit false

/-!
# Texts in TOML

TOML has four ways to quote a text. Between double quotes a backslash starts an escape, between
single quotes it is a backslash; three quotes of either kind may hold line ends, and the line end
right behind the opening ones does not count. A text is written in the first way in which it needs
no escapes, and with escapes only if there is none.
-/

namespace ImageOverlay.Toml

/-- The four ways to quote a text. -/
inductive Quotes where
  | basic
  | literal
  | multiBasic
  | multiLiteral
deriving DecidableEq, Repr

/-- What stands before and behind a text. -/
def Quotes.delimiter : Quotes → List Char
  | .basic => ['"']
  | .literal => ['\'']
  | .multiBasic => ['"', '"', '"']
  | .multiLiteral => ['\'', '\'', '\'']

/-- Whether a character may not stand in a text as it is: a control other than the tab. -/
def isControl (c : Char) : Bool := (c.toNat < 0x20 && c != '\t') || c.toNat == 0x7F

/-! ## Writing -/

/-- The length of the longest run of a character, when `run` of them were just seen. -/
def longestRun (c : Char) (run : Nat) : List Char → Nat
  | [] => run
  | d :: rest => if d = c then longestRun c (run + 1) rest else max run (longestRun c 0 rest)

/-- The way to quote a text. -/
def Quotes.for (cs : List Char) : Quotes :=
  let controls := cs.any fun c => isControl c && c != '\n'
  let backslash := cs.contains '\\'
  let newline := cs.contains '\n'
  let singles := longestRun '\'' 0 cs
  let doubles := longestRun '"' 0 cs
  if !controls && !backslash && doubles == 0 && !newline then .basic
  else if !controls && singles == 0 && !newline then .literal
  else if !controls && !backslash && doubles ≤ 2 then .multiBasic
  else if !controls && singles ≤ 2 then .multiLiteral
  else if newline then .multiBasic
  else .basic

/-- A character between double quotes, other than a quote. -/
def escapeChar (multi : Bool) (c : Char) : List Char :=
  if c = '\\' then ['\\', '\\']
  else if c = '\x08' then ['\\', 'b']
  else if c = '\t' then ['\\', 't']
  else if c = '\n' then if multi then ['\n'] else ['\\', 'n']
  else if c = '\x0c' then ['\\', 'f']
  else if c = '\r' then ['\\', 'r']
  else if isControl c then
    ['\\', 'u', '0', '0', Decimal.hexDigit 'A' (c.toNat / 16), Decimal.hexDigit 'A' (c.toNat % 16)]
  else [c]

/-- A text between double quotes. Up to two quotes in a row need no escape between three. -/
def escapeText (multi : Bool) (run : Nat) : List Char → List Char
  | [] => []
  | c :: rest =>
    if c = '"' then
      if multi && run < 2 then '"' :: escapeText multi (run + 1) rest
      else '\\' :: '"' :: escapeText multi 0 rest
    else escapeChar multi c ++ escapeText multi 0 rest

/-- A quoted text. -/
def quoted (cs : List Char) : List Char :=
  let quotes := Quotes.for cs
  let body := match quotes with
    | .basic => escapeText false 0 cs
    | .multiBasic => escapeText true 0 cs
    | .literal | .multiLiteral => cs
  let start := if cs.contains '\n' then ['\n'] else []
  quotes.delimiter ++ start ++ body ++ quotes.delimiter

/-! ## Reading -/

/-- The character a one-letter escape stands for. -/
def escaped? (c : Char) : Option Char :=
  if c = '"' ∨ c = '\\' then some c
  else if c = 'b' then some '\x08'
  else if c = 't' then some '\t'
  else if c = 'n' then some '\n'
  else if c = 'f' then some '\x0c'
  else if c = 'r' then some '\r'
  else if c = 'e' then some '\x1b'
  else none

/-- The character that hexadecimal digits stand for; halves of surrogate pairs are none. -/
def codePoint? (ds : List Char) : Option Char :=
  if ds.all Decimal.isHexDigit then
    let n := Decimal.ofDigits 16 Decimal.hexDigit? ds
    if n < 0xD800 ∨ (0xE000 ≤ n ∧ n ≤ 0x10FFFF) then some (Char.ofNat n) else none
  else none

/-- Whether only blanks are left on a line that does not end the text. -/
def endsLine (cs : List Char) : Bool :=
  match cs.dropWhile fun c => c == ' ' || c == '\t' with
  | '\n' :: _ | '\r' :: '\n' :: _ => true
  | _ => false

/-- Add a character to a text that was read, if there is one. -/
def push (c : Option Char) (rest : Option (List Char × List Char)) :
    Option (List Char × List Char) :=
  match c, rest with
  | some c, some (text, rest) => some (c :: text, rest)
  | _, _ => none

/-- The text up to the closing double quote, and what follows it. -/
def basicRest : List Char → Option (List Char × List Char)
  | [] => none
  | '"' :: rest => some ([], rest)
  | '\\' :: 'x' :: a :: b :: rest => push (codePoint? [a, b]) (basicRest rest)
  | '\\' :: 'u' :: a :: b :: c :: d :: rest => push (codePoint? [a, b, c, d]) (basicRest rest)
  | '\\' :: 'U' :: a :: b :: c :: d :: e :: f :: g :: h :: rest =>
    push (codePoint? [a, b, c, d, e, f, g, h]) (basicRest rest)
  | '\\' :: e :: rest => push (escaped? e) (basicRest rest)
  | c :: rest => if isControl c || c == '\\' then none else push (some c) (basicRest rest)

/-- The text up to the closing single quote, and what follows it. -/
def literalRest : List Char → Option (List Char × List Char)
  | [] => none
  | '\'' :: rest => some ([], rest)
  | c :: rest => if isControl c then none else push (some c) (literalRest rest)

/-- A text that was closed: up to two more quotes belong to it. -/
def closed (quote : Char) : List Char → List Char × List Char
  | a :: b :: rest =>
    if a = quote then if b = quote then ([a, b], rest) else ([a], b :: rest)
    else ([], a :: b :: rest)
  | [a] => if a = quote then ([a], []) else ([], [a])
  | [] => ([], [])

/-- The text up to three closing double quotes. A backslash at the end of a line leaves out all
blanks and line ends up to the next character: `skip` says that they are left out. -/
def multiBasicRest (skip : Bool) : List Char → Option (List Char × List Char)
  | [] => none
  | '"' :: '"' :: '"' :: rest => some (closed '"' rest)
  | '\\' :: 'x' :: a :: b :: rest => push (codePoint? [a, b]) (multiBasicRest false rest)
  | '\\' :: 'u' :: a :: b :: c :: d :: rest =>
    push (codePoint? [a, b, c, d]) (multiBasicRest false rest)
  | '\\' :: 'U' :: a :: b :: c :: d :: e :: f :: g :: h :: rest =>
    push (codePoint? [a, b, c, d, e, f, g, h]) (multiBasicRest false rest)
  | '\\' :: e :: rest =>
    if endsLine (e :: rest) then multiBasicRest true (e :: rest)
    else push (escaped? e) (multiBasicRest false rest)
  | '\r' :: '\n' :: rest =>
    if skip then multiBasicRest true rest
    else push (some '\r') (push (some '\n') (multiBasicRest false rest))
  | c :: rest =>
    if c == '\n' || c == ' ' || c == '\t' then
      if skip then multiBasicRest true rest else push (some c) (multiBasicRest false rest)
    else if isControl c || c == '\\' then none
    else push (some c) (multiBasicRest false rest)

/-- The text up to three closing single quotes. -/
def multiLiteralRest : List Char → Option (List Char × List Char)
  | [] => none
  | '\'' :: '\'' :: '\'' :: rest => some (closed '\'' rest)
  | '\r' :: '\n' :: rest => push (some '\r') (push (some '\n') (multiLiteralRest rest))
  | c :: rest =>
    if isControl c && c != '\n' then none else push (some c) (multiLiteralRest rest)

/-- A text without the line end at its front. -/
def dropLineEnd : List Char → List Char
  | '\n' :: rest | '\r' :: '\n' :: rest => rest
  | cs => cs

/-- A quoted text on one line. -/
def lineText? : List Char → Option (List Char × List Char)
  | '"' :: rest => basicRest rest
  | '\'' :: rest => literalRest rest
  | _ => none

/-- A quoted text. -/
def text? : List Char → Option (List Char × List Char)
  | '"' :: '"' :: '"' :: rest => multiBasicRest false (dropLineEnd rest)
  | '\'' :: '\'' :: '\'' :: rest => multiLiteralRest (dropLineEnd rest)
  | cs => lineText? cs

end ImageOverlay.Toml
