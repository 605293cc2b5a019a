import ImageOverlay.Settings.Limits
import ImageOverlay.Toml.Reader

set_option autoImplicit false

/-!
# The settings file

Settings are kept in a TOML file with one table for each section. A file is read leniently:
sections and fields may be missing and unknown ones do not matter, but what is there must have the
right type. It is written with all its fields in a fixed order.
-/

namespace ImageOverlay

/-- Whether a value may stand beside the name of a time to retire: an empty table or array. -/
def isEmptyTable : Parsed → Bool
  | .object [] | .array [] => true
  | _ => false

/-- Settings as TOML writes them. -/
def tomlSettings : SettingsNotation :=
  { nothing := isEmptyTable, width := Decode.float, surplus := true }

/-- Doubles in the file are positional; of two equally near decimals the greater one is taken. -/
def tomlNumberLayout : Layout := ⟨none, .upwards, "inf", "nan"⟩

namespace Settings

/-- Read the content of a settings file; the settings are within their limits. -/
def parse? (text : String) : Option Settings :=
  ((Toml.read text.toList).bind tomlSettings.decoder).map Settings.clamp

/-- One line of a section. -/
def field (key : String) (v : List Char) : List Char := key.toList ++ " = ".toList ++ v ++ ['\n']

/-- A section: its header and its fields. -/
def tableText (name : String) (fields : List (String × List Char)) : List Char :=
  '[' :: (name.toList ++ ']' :: '\n' :: fields.flatMap fun (key, v) => field key v)

/-- The content of a settings file. -/
def render (s : Settings) : String :=
  let text (s : String) : List Char := Toml.quoted s.toList
  let number (n : UInt32) : List Char := Decimal.digits n.toNat
  String.ofList
    (tableText "viewer"
        [("api_root", text s.tiles.apiRoot), ("tile_path", text s.tiles.tilePath),
          ("node_width", number s.tiles.nodeWidth), ("node_height", number s.tiles.nodeHeight)] ++
      '\n' :: tableText "draw"
        [("trigger_by_default", (if s.draw.trigger then "true" else "false").toList),
          ("retire_on", text s.draw.retireOn.name)] ++
      '\n' :: tableText "style"
        [("line_color", text s.style.lineColor),
          ("line_width", tomlNumberLayout.text s.style.lineWidth),
          ("fill_color", text s.style.fillColor)])

end Settings

end ImageOverlay
