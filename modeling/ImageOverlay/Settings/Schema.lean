import ImageOverlay.Settings.Basic

set_option autoImplicit false

/-!
# The schema of the settings file

A description of the settings file for editors and other tools, as a JSON schema: every section
and every field with its type and its default.
-/

namespace ImageOverlay

namespace SettingsSchema

/-- What a field is for. -/
def description (text : String) : String × Json := ("description", .str text)

/-- A schema by its name. -/
def reference (name : String) : String × Json := ("$ref", .str ("#/$defs/" ++ name))

/-- A field: its description, if it has one, its type and its default. -/
def field (text : Option String) (type : List (String × Json)) (dflt : Json) : Json :=
  .obj (Json.member? "description" (text.map .str) ++ type ++ [("default", dflt)])

/-- The type of texts. -/
def stringType : List (String × Json) := [("type", .str "string")]

/-- The type of unsigned numbers; a field of it has a minimum behind its default. -/
def sizeField (text : String) (dflt : UInt32) : Json :=
  .obj [description text, ("type", .str "integer"), ("format", .str "uint32"),
    ("default", .int dflt.toNat), ("minimum", .int 0)]

/-- A section: what it is for, and its fields. -/
def object (text : String) (fields : List (String × Json)) : Json :=
  .obj [description text, ("type", .str "object"), ("properties", .obj fields)]

/-- The default settings. -/
def dflt : Settings := {}

/-- The section of draw mode. -/
def draw : Json :=
  object "Draw-mode defaults."
    [("retire_on", field (some "When finished draw layers are deleted (next-turn, draw-pass)")
        [reference "RetireOn"] (.str dflt.draw.retireOn.name)),
      ("trigger_by_default",
        field (some "Publish `annotationCreated` for sessions started without options")
          [("type", .str "boolean")] (.bool dflt.draw.trigger))]

/-- The times to retire. -/
def retireOn : Json :=
  let choice (text : String) (r : RetireOn) : Json :=
    .obj [description text, ("type", .str "string"), ("const", .str r.name)]
  .obj
    [description "When the transient layer of a finished draw session is deleted.",
      ("oneOf", .arr
        [choice "On the event-loop turn after the shape event was handled" .nextTurn,
          choice "Once the viewport reports its draw pass as complete" .drawPass])]

/-- The section of the style. -/
def style : Json :=
  object
    ("Fallback style of rendered annotation features.\n\n Colors accept `#rgb`, `#rrggbb`, " ++
      "`rgb(r, g, b)` and `rgba(r, g, b, a)`.")
    [("fill_color", field none stringType (.str dflt.style.fillColor)),
      ("line_color", field none stringType (.str dflt.style.lineColor)),
      ("line_width", field (some "Stroke width in pixels (valid range: 0.0 - 100.0)")
        [("type", .str "number"), ("format", .str "double")] (.real dflt.style.lineWidth))]

/-- The section of the tiles. -/
def tiles : Json :=
  let side (name : String) : String :=
    name ++ " of the element hosting the map in pixels (valid range: 1 - 16384)"
  object
    ("Tile server and viewer element settings.\n\n " ++
      "Used to build the tile layer URL and the map parameters for an image.")
    [("api_root",
        field (some ("Root of the tile server API, e.g. `" ++ dflt.tiles.apiRoot ++ "`"))
          stringType (.str dflt.tiles.apiRoot)),
      ("node_height", sizeField (side "Height") dflt.tiles.nodeHeight),
      ("node_width", sizeField (side "Width") dflt.tiles.nodeWidth),
      ("tile_path",
        field
          (some ("Tile path below the API root. `\x7bitem\x7d` is replaced with the image\n " ++
            "identifier; `\x7bz\x7d`, `\x7bx\x7d` and `\x7by\x7d` are left for the viewport."))
          stringType (.str dflt.tiles.tilePath))]

/-- An example of a settings file. -/
def example_ : String :=
  " # Example TOML\n ```toml\n [viewer]\n api_root = \"https://tiles.example.org/api/v1\"\n " ++
    "tile_path = \"item/\x7bitem\x7d/tiles/zxy/\x7bz\x7d/\x7bx\x7d/\x7by\x7d\"\n " ++
    "node_width = 1280\n node_height = 800\n\n [draw]\n trigger_by_default = true\n " ++
    "retire_on = \"next-turn\"\n\n [style]\n line_color = \"#00ff00\"\n line_width = 2.0\n " ++
    "fill_color = \"rgba(0, 255, 0, 0.25)\"\n ```"

/-- The default of a section, with its fields in the order of their names. -/
def sections : List (String × Json) :=
  [("draw", .obj
      [description "Draw-mode defaults", reference "DrawConfig",
        ("default", .obj [("retire_on", .str dflt.draw.retireOn.name),
          ("trigger_by_default", .bool dflt.draw.trigger)])]),
    ("style", .obj
      [description "Fallback annotation style", reference "StyleConfig",
        ("default", .obj [("fill_color", .str dflt.style.fillColor),
          ("line_color", .str dflt.style.lineColor),
          ("line_width", .real dflt.style.lineWidth)])]),
    ("viewer", .obj
      [description "Tile server and element size", reference "ViewerConfig",
        ("default", .obj [("api_root", .str dflt.tiles.apiRoot),
          ("node_height", .int dflt.tiles.nodeHeight.toNat),
          ("node_width", .int dflt.tiles.nodeWidth.toNat),
          ("tile_path", .str dflt.tiles.tilePath)])])]

end SettingsSchema

open SettingsSchema in
/-- The schema of the settings file. -/
def settingsSchema : Json :=
  .obj
    [("$schema", .str ("https:" ++ "//json-schema.org/draft/2020-12/schema")),
      ("title", .str "Config"),
      description ("Root configuration, deserialized from TOML.\n\n" ++ example_),
      ("type", .str "object"),
      ("properties", .obj sections),
      ("$defs", .obj [("DrawConfig", draw), ("RetireOn", retireOn), ("StyleConfig", style),
        ("ViewerConfig", tiles)])]

end ImageOverlay
