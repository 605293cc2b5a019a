import ImageOverlay.Json.Decode
import ImageOverlay.Text.Blank

set_option autoImplicit false

/-!
# Colours

A colour is written as `#rgb`, `#rrggbb`, `rgb(r, g, b)` or `rgba(r, g, b, a)`. It keeps the text
it was read from, without the blanks at its ends, beside the four components, which lie between
zero and one. Writing a colour gives back its text, so nothing the user wrote is lost.
-/

namespace ImageOverlay

/-- The components of a colour, between zero and one. -/
structure Rgba where
  r : Float
  g : Float
  b : Float
  a : Float
deriving DecidableEq, Repr

/-- A colour and its text. -/
structure Color where
  text : String
  rgba : Rgba
deriving DecidableEq, Repr

/-- A text that is no colour. -/
structure ColorError where
  text : String
deriving DecidableEq, Repr

/-- What is wrong with the text. -/
def ColorError.message (e : ColorError) : String :=
  "invalid color '" ++ e.text ++ "': expected #rgb, #rrggbb, rgb(r, g, b) or rgba(r, g, b, a)"

namespace Color

/-- A component given as a number from 0 to 255. -/
def component (n : Nat) : Float := n.toFloat / 255.0

/-- A component in digits of a base, after a `+` if there is one. -/
def channel? (base : Nat) (value? : Char → Option Nat) (cs : List Char) : Option Float :=
  match Decimal.unsigned? base value? cs with
  | some n => if n ≤ 255 then some (component n) else none
  | none => none

/-- A component in hexadecimal digits. -/
def hexChannel? (cs : List Char) : Option Float := channel? 16 Decimal.hexDigit? cs

/-- A component in decimal digits. -/
def decimalChannel? (cs : List Char) : Option Float := channel? 10 Decimal.digit? cs

/-- The components that three or six hexadecimal digits write, if they do. Three digits each count
twice. The digits are slices of the text, and there is no answer at all if it has no such slice. -/
def ofSlices? (ds : List Char) : Option (Option Rgba) :=
  if !ds.all Decimal.isHexDigit then some none
  else
    match Text.byteLength ds with
    | 3 => do
      let r ← Text.slice? 0 1 ds
      let g ← Text.slice? 1 2 ds
      let b ← Text.slice? 2 3 ds
      return do
        some ⟨← hexChannel? (r ++ r), ← hexChannel? (g ++ g), ← hexChannel? (b ++ b), 1.0⟩
    | 6 => do
      let r ← Text.slice? 0 2 ds
      let g ← Text.slice? 2 4 ds
      let b ← Text.slice? 4 6 ds
      return do
        some ⟨← hexChannel? r, ← hexChannel? g, ← hexChannel? b, 1.0⟩
    | _ => some none

/-- The components that hexadecimal digits write. -/
def ofHexDigits? (ds : List Char) : Option Rgba := (ofSlices? ds).join

/-- The opacity: a literal between zero and one. -/
def alpha? (cs : List Char) : Option Float :=
  match Decimal.literal? cs with
  | some a => if 0.0 ≤ a ∧ a ≤ 1.0 then some a else none
  | none => none

/-- The parts between the commas, without the blanks around them. -/
def arguments (body : List Char) : List (List Char) :=
  (Text.splitAt ',' body).map Text.trim

/-- The components in the brackets of `rgb(…)`. -/
def ofTriple? (body : List Char) : Option Rgba :=
  match arguments body with
  | [r, g, b] => do
    some ⟨← decimalChannel? r, ← decimalChannel? g, ← decimalChannel? b, 1.0⟩
  | _ => none

/-- The components in the brackets of `rgba(…)`. -/
def ofQuadruple? (body : List Char) : Option Rgba :=
  match arguments body with
  | [r, g, b, a] => do
    some ⟨← decimalChannel? r, ← decimalChannel? g, ← decimalChannel? b, ← alpha? a⟩
  | _ => none

/-- The components a text without outer blanks stands for. -/
def components? (cs : List Char) : Option Rgba :=
  match cs with
  | '#' :: ds => ofHexDigits? ds
  | _ =>
    match Text.after? "rgba(".toList cs with
    | some rest => (Text.before? [')'] rest).bind ofQuadruple?
    | none =>
      match Text.after? "rgb(".toList cs with
      | some rest => (Text.before? [')'] rest).bind ofTriple?
      | none => none

/-- Read a colour; blanks around it do not count. -/
def parse (text : String) : Except ColorError Color :=
  let trimmed := Text.trim text.toList
  match components? trimmed with
  | some rgba => .ok ⟨String.ofList trimmed, rgba⟩
  | none => .error ⟨text⟩

/-- Read a colour and forget why a text is none. -/
def parse? (text : String) : Option Color := (parse text).toOption

/-- A colour in JSON is its text. -/
def toJson (c : Color) : Json := .str c.text

/-- A colour in JSON is a string that is one. -/
def decoder : Decoder Color := fun p => (Decode.string p).bind parse?

end Color

end ImageOverlay
