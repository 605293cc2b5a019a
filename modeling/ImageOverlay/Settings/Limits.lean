import ImageOverlay.Settings.Basic
import ImageOverlay.Url.Basic

set_option autoImplicit false

/-!
# Limits of settings

Settings come from a file and may say anything. Before they are used every field is brought within
its limits: a number that is out of range becomes the nearest one that is not, and a text that
makes no sense becomes the default one. A field within its limits stays as it is.
-/

namespace ImageOverlay

/-- The lengths of the sides of the element of the map. -/
def nodeLimits : UInt32 × UInt32 := (1, 16384)

/-- The widths of lines. -/
def widthLimits : Float × Float := (0.0, 100.0)

/-- Whether a path has room for the level and the place of a tile. -/
def hasPlaceholders (path : String) : Bool :=
  ["z", "x", "y"].all fun name => Text.contains (TileAddress.placeholder name) path.toList

/-- The number of the range next to `n`. -/
def clampNode (n : UInt32) : UInt32 := max nodeLimits.1 (min nodeLimits.2 n)

/-- The number of the range next to `x`; what is not a number becomes zero. -/
def clampWidth (x : Float) : Float :=
  if x.isNaN then 0.0
  else if x < widthLimits.1 then widthLimits.1
  else if widthLimits.2 < x then widthLimits.2
  else x

/-- A text that fulfils a condition, or a default. -/
def orDefaultText (valid : String → Bool) (dflt text : String) : String :=
  if valid text then text else dflt

/-- Whether a text is a colour. -/
def isColor (text : String) : Bool := (Color.parse? text).isSome

/-- The section of the tiles within its limits, where `isUrl` says which texts are addresses. -/
def TileSettings.clampBy (isUrl : String → Bool) (s : TileSettings) : TileSettings :=
  let dflt : TileSettings := {}
  { apiRoot := orDefaultText isUrl dflt.apiRoot s.apiRoot
    tilePath := orDefaultText hasPlaceholders dflt.tilePath s.tilePath
    nodeWidth := clampNode s.nodeWidth
    nodeHeight := clampNode s.nodeHeight }

/-- A style within its limits. -/
def FallbackStyle.clamp (s : FallbackStyle) : FallbackStyle :=
  let dflt : FallbackStyle := {}
  { lineColor := orDefaultText isColor dflt.lineColor s.lineColor
    lineWidth := clampWidth s.lineWidth
    fillColor := orDefaultText isColor dflt.fillColor s.fillColor }

/-- Settings within their limits, where `isUrl` says which texts are addresses. -/
def Settings.clampBy (isUrl : String → Bool) (s : Settings) : Settings :=
  { s with tiles := s.tiles.clampBy isUrl, style := s.style.clamp }

/-- Settings within their limits. -/
def Settings.clamp (s : Settings) : Settings := s.clampBy Url.isAbsolute

end ImageOverlay
