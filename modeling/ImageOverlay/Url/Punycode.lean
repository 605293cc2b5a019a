set_option autoImplicit false

/-!
# Punycode

A label of a domain that goes beyond ASCII is sent as ASCII: first its ASCII characters, then,
behind the last hyphen, where the others are to be inserted. The others come in the order of
their code points, each as the distance from the one before, counted in insertions and written in
base 36 with digits of varying weight. Only the reading of this form is needed here. A number is
counted on from the last one, and no count may leave 32 bits.
-/

namespace ImageOverlay.Punycode

/-- The value of a digit: letters of either case from 0 on, then the decimal digits. -/
def digit? (c : Char) : Option Nat :=
  if 'a' ≤ c ∧ c ≤ 'z' then some (c.toNat - 'a'.toNat)
  else if 'A' ≤ c ∧ c ≤ 'Z' then some (c.toNat - 'A'.toNat)
  else if '0' ≤ c ∧ c ≤ '9' then some (c.toNat - '0'.toNat + 26)
  else none

/-- The digits below this value end a number, at a position and a bias. -/
def threshold (k bias : Nat) : Nat :=
  if k ≤ bias then 1 else if bias + 26 ≤ k then 26 else k - bias

/-- The numbers stay below this one. -/
def limit : Nat := Nat.pow 2 32

/-- A number at the front of a text, added to `sum`: `k` is the position, `weight` that of the next
digit. -/
def number? (bias : Nat) : (k weight sum : Nat) → List Char → Option (Nat × List Char)
  | _, _, _, [] => none
  | k, weight, sum, c :: rest =>
    match digit? c with
    | none => none
    | some d =>
      let sum := sum + d * weight
      let t := threshold k bias
      if limit ≤ sum then none
      else if d < t then some (sum, rest)
      else if limit ≤ weight * (36 - t) then none
      else number? bias (k + 36) (weight * (36 - t)) sum rest

/-- Scale a distance down for the next bias; `fuel` bounds the number of divisions. -/
def scaleDown : (fuel : Nat) → (delta k : Nat) → Nat
  | 0, _, k => k
  | fuel + 1, delta, k =>
    if 455 < delta then scaleDown fuel (delta / 35) (k + 36) else k + 36 * delta / (delta + 38)

/-- The bias after a distance, when `count` characters are there. -/
def adapt (delta count : Nat) (first : Bool) : Nat :=
  let delta := if first then delta / 700 else delta / 2
  let delta := delta + delta / count
  scaleDown delta delta 0

/-- Whether a number is the code point of a character. -/
def isCodePoint (n : Nat) : Bool := n < 0xD800 || (0xE000 ≤ n && n ≤ 0x10FFFF)

/-- Insert the remaining characters: `n` is the code point reached, `i` the place in the text. -/
def insertRest (first : Bool) :
    (fuel : Nat) → (n i bias : Nat) → (text rest : List Char) → Option (List Char)
  | _, _, _, _, text, [] => some text
  | 0, _, _, _, _, _ :: _ => none
  | fuel + 1, n, i, bias, text, rest =>
    match number? bias 36 1 i rest with
    | none => none
    | some (sum, rest) =>
      let count := text.length + 1
      let n := n + sum / count
      let place := sum % count
      if isCodePoint n then
        let text := text.take place ++ Char.ofNat n :: text.drop place
        insertRest false fuel n (place + 1) (adapt (sum - i) count first) text rest
      else none

/-- The parts of a text before and behind its last hyphen. A hyphen with nothing before it belongs
to what is behind. -/
def splitLast (cs : List Char) : List Char × List Char :=
  let behind := (cs.reverse.takeWhile (· ≠ '-')).reverse
  match cs.take (cs.length - behind.length - 1) with
  | [] => ([], cs)
  | plain => (plain, behind)

/-- The label a text stands for. -/
def decode? (cs : List Char) : Option (List Char) :=
  let (plain, rest) := splitLast cs
  if plain.all (·.toNat < 0x80) then insertRest true rest.length 128 0 72 plain rest else none

end ImageOverlay.Punycode
