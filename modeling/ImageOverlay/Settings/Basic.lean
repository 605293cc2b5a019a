import ImageOverlay.Draw.Session
import ImageOverlay.Overlay.Style

set_option autoImplicit false

/-!
# Settings

What a user can set: where the tiles come from and how large the element of the map is, what a
draw session does by default, and the fallback style of annotations. Every section and every field
has a default.
-/

namespace ImageOverlay

/-- When the layer of a session that is over is deleted: on the turn of the loop after the event
that ended the session, or when the map has finished drawing. -/
inductive RetireOn where
  | nextTurn
  | drawPass
deriving DecidableEq, Repr

/-- The name of a time to retire. -/
def RetireOn.name : RetireOn → String
  | .nextTurn => "next-turn"
  | .drawPass => "draw-pass"

/-- The times to retire by name. -/
def RetireOn.names : List (String × RetireOn) :=
  [("next-turn", .nextTurn), ("draw-pass", .drawPass)]

/-- Where the tiles are, and the size of the element of the map. -/
structure TileSettings where
  apiRoot : String := "http://localhost:8080/api/v1"
  tilePath : String := "item/\x7bitem\x7d/tiles/zxy/\x7bz\x7d/\x7bx\x7d/\x7by\x7d"
  nodeWidth : UInt32 := 1024
  nodeHeight : UInt32 := 1024
deriving DecidableEq, Repr

/-- What sessions do by default. -/
structure DrawSettings where
  trigger : Bool := true
  retireOn : RetireOn := .nextTurn
deriving DecidableEq, Repr

/-- All settings. -/
structure Settings where
  tiles : TileSettings := {}
  draw : DrawSettings := {}
  style : FallbackStyle := {}
deriving DecidableEq, Repr

namespace Settings

/-- The options of sessions that are started without any. -/
def drawOptions (s : Settings) : DrawOptions := { trigger := s.draw.trigger }

/-- The address of the tiles of an image. -/
def tileAddress (item : String) (s : Settings) : TileAddress :=
  .ofImage s.tiles.apiRoot s.tiles.tilePath item

/-- The parameters of the map of an image. -/
def mapParams (item : String) (info : TileInfo) (s : Settings) : MapParams :=
  .ofImage s.tiles.nodeWidth s.tiles.nodeHeight info (s.tileAddress item)

/-- Whether two settings agree; a width that is not a number agrees with nothing. -/
def agrees (s t : Settings) : Bool :=
  s.tiles == t.tiles && s.draw == t.draw && s.style.lineColor == t.style.lineColor &&
    s.style.lineWidth == t.style.lineWidth && s.style.fillColor == t.style.fillColor

end Settings

/-! ## As a record -/

/-- What notations of settings differ in: what may stand beside the name of a time to retire that
is written as an object, how a width is read, and whether an array may have more items than the
record it stands for has fields. -/
structure SettingsNotation where
  nothing : Parsed → Bool
  width : Decoder Float
  surplus : Bool

namespace SettingsNotation

/-- The section of the tiles as a record. -/
def tiles (f : SettingsNotation) : Decoder TileSettings := fun p => do
  match ← Decode.fieldsWith f.surplus
      [["api_root"], ["tile_path"], ["node_width"], ["node_height"]] p with
  | [apiRoot, tilePath, nodeWidth, nodeHeight] =>
    let dflt : TileSettings := {}
    some
      { apiRoot := ← Decode.orDefault dflt.apiRoot Decode.string apiRoot
        tilePath := ← Decode.orDefault dflt.tilePath Decode.string tilePath
        nodeWidth := ← Decode.orDefault dflt.nodeWidth Decode.uint32 nodeWidth
        nodeHeight := ← Decode.orDefault dflt.nodeHeight Decode.uint32 nodeHeight }
  | _ => none

/-- The section of draw mode as a record. -/
def draw (f : SettingsNotation) : Decoder DrawSettings := fun p => do
  match ← Decode.fieldsWith f.surplus [["trigger_by_default"], ["retire_on"]] p with
  | [trigger, retireOn] =>
    let dflt : DrawSettings := {}
    some
      { trigger := ← Decode.orDefault dflt.trigger Decode.bool trigger
        retireOn :=
          ← Decode.orDefault dflt.retireOn (Decode.choiceWith f.nothing RetireOn.names) retireOn }
  | _ => none

/-- The section of the style as a record. -/
def style (f : SettingsNotation) : Decoder FallbackStyle := fun p => do
  match ← Decode.fieldsWith f.surplus [["line_color"], ["line_width"], ["fill_color"]] p with
  | [lineColor, lineWidth, fillColor] =>
    let dflt : FallbackStyle := {}
    some
      { lineColor := ← Decode.orDefault dflt.lineColor Decode.string lineColor
        lineWidth := ← Decode.orDefault dflt.lineWidth f.width lineWidth
        fillColor := ← Decode.orDefault dflt.fillColor Decode.string fillColor }
  | _ => none

/-- Settings as a record of their sections. -/
def decoder (f : SettingsNotation) : Decoder Settings := fun p => do
  match ← Decode.fieldsWith f.surplus [["viewer"], ["draw"], ["style"]] p with
  | [tiles, draw, style] =>
    some
      { tiles := ← Decode.orDefault {} f.tiles tiles
        draw := ← Decode.orDefault {} f.draw draw
        style := ← Decode.orDefault {} f.style style }
  | _ => none

end SettingsNotation

end ImageOverlay
