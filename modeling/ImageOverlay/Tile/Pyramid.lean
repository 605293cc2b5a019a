import ImageOverlay.Json.Decode
import ImageOverlay.Number.Exact
import ImageOverlay.Tile.Address

set_option autoImplicit false

/-!
# Tile pyramids

An image is served as a pyramid of tiles: the deepest level shows it at its own resolution, and
every level above has half the resolution of the one below, up to the level that is one tile. The
map on top of it counts in pixels of the deepest level.

How many levels there are follows from how many tiles lie side by side, and how far the map can
zoom out from the size of the element it is shown in. Both are powers of two next to a quotient
of sizes, and are found on the exact value of that quotient.
-/

namespace ImageOverlay

/-- What a tile server says about an image. -/
structure TileInfo where
  levels : UInt32
  sizeX : UInt32
  sizeY : UInt32
  tileWidth : UInt32
  tileHeight : UInt32
deriving DecidableEq, Repr

/-- A map can be built if no number is zero. -/
def TileInfo.isUsable (i : TileInfo) : Bool :=
  0 < i.levels && 0 < i.sizeX && 0 < i.sizeY && 0 < i.tileWidth && 0 < i.tileHeight

/-- A box in pixels. -/
structure Bounds where
  left : Float
  top : Float
  right : Float
  bottom : Float
deriving DecidableEq, Repr

/-- The tile layer of a map. -/
structure TileLayer where
  url : TileAddress
  maxLevel : UInt32
  tileWidth : UInt32
  tileHeight : UInt32
  width : UInt32
  height : UInt32
  wrapX : Bool
  wrapY : Bool
deriving DecidableEq, Repr

/-- The parameters a map is built from. -/
structure MapParams where
  maxBounds : Bounds
  center : Float × Float
  minLevel : Int
  maxLevel : UInt32
  zoom : Float
  unitsPerPixel : Float
  layer : TileLayer
deriving DecidableEq, Repr

/-! ## Levels -/

/-- A number of 32 bits read as a signed one. -/
def signed32 (n : UInt32) : Int := n.toInt32.toInt

/-- How many pixels of the image one pixel of a level stands for, in each direction. Levels
beyond the deepest one are the deepest one. -/
def TileLayer.scale (t : TileLayer) (level : UInt32) : Float :=
  twoPow (signed32 (t.maxLevel - min level t.maxLevel))

/-- How many tiles of a level it takes to cover a side of the image. -/
def TileLayer.tilesAlong (t : TileLayer) (level size tile : UInt32) : Whole :=
  (Exact.ofFloat (size.toFloat / tile.toFloat / t.scale level)).ceil

/-- How many tiles of a level lie side by side and on top of each other. -/
def TileLayer.tilesAt (t : TileLayer) (level : UInt32) : UInt32 × UInt32 :=
  ((t.tilesAlong level t.width t.tileWidth).toUInt32,
    (t.tilesAlong level t.height t.tileHeight).toUInt32)

/-- How many whole pixels of a level a side of the image has. -/
def TileLayer.pixelsAlong (t : TileLayer) (level size : UInt32) : Whole :=
  (Exact.ofFloat (size.toFloat / t.scale level)).floor

/-- The size of the image at a level, in pixels of that level. -/
def TileLayer.sizeAt (t : TileLayer) (level : UInt32) : UInt32 × UInt32 :=
  ((t.pixelsAlong level t.width).toUInt32, (t.pixelsAlong level t.height).toUInt32)

/-- The least level at which one tile covers what `across` tiles cover at the deepest. -/
def levelsAcross (across : Float) : UInt32 := (Exact.ofFloat across).ceilLog2.toUInt32

/-- How many tiles lie along the longer side of an image. -/
def tilesAcross (width height tileWidth tileHeight : Float) : Float :=
  max (width / tileWidth) (height / tileHeight)

/-- The level, zero or below, at which a part `fit` of the element would hold the image. -/
def levelOfFit (fit : Float) : Int :=
  (Exact.ofFloat fit).floorLog2.clamp (-Int.pow 2 31) 0

/-- How levels are found: from the number of tiles along the longer side of an image, and from the
part of the element that the image may fill. -/
structure LevelRule where
  covering : Float → UInt32
  fitting : Float → Int

/-- The levels next to the exact value of a quotient. -/
def LevelRule.exact : LevelRule := ⟨levelsAcross, levelOfFit⟩

/-- A size that is at least one. -/
def atLeastOne (n : UInt32) : UInt32 := max n 1

/-- A side of an element; one of zero length counts as one tile. -/
def nodeSide (node tile : UInt32) : UInt32 := if node = 0 then tile else node

/-- The parameters of the map that shows an image in an element of a given size, with its levels
found by a given rule. -/
def MapParams.ofImageBy (rule : LevelRule) (nodeWidth nodeHeight : UInt32) (info : TileInfo)
    (url : TileAddress) : MapParams :=
  let width := atLeastOne info.sizeX
  let height := atLeastOne info.sizeY
  let tileWidth := atLeastOne info.tileWidth
  let tileHeight := atLeastOne info.tileHeight
  let maxLevel := rule.covering
    (tilesAcross width.toFloat height.toFloat tileWidth.toFloat tileHeight.toFloat)
  let nodeWidth := nodeSide nodeWidth tileWidth
  let nodeHeight := nodeSide nodeHeight tileHeight
  let minLevel := rule.fitting
    (min (nodeWidth.toFloat / width.toFloat) (nodeHeight.toFloat / height.toFloat))
  { maxBounds := ⟨0.0, 0.0, width.toFloat, height.toFloat⟩
    center := (width.toFloat / 2.0, height.toFloat / 2.0)
    minLevel
    maxLevel
    zoom := Decimal.value (minLevel < 0) minLevel.natAbs 0
    unitsPerPixel := twoPow (signed32 maxLevel)
    layer :=
      { url, maxLevel, tileWidth, tileHeight, width, height, wrapX := false, wrapY := false } }

/-- The parameters of the map that shows an image in an element of a given size. -/
def MapParams.ofImage (nodeWidth nodeHeight : UInt32) (info : TileInfo) (url : TileAddress) :
    MapParams :=
  .ofImageBy .exact nodeWidth nodeHeight info url

/-! ## JSON -/

/-- Tile metadata is a record. -/
def TileInfo.decoder : Decoder TileInfo := fun p => do
  match ← Decode.fields [["levels"], ["sizeX"], ["sizeY"], ["tileWidth"], ["tileHeight"]] p with
  | [levels, sizeX, sizeY, tileWidth, tileHeight] =>
    some
      { levels := ← Decode.required Decode.uint32 levels
        sizeX := ← Decode.required Decode.uint32 sizeX
        sizeY := ← Decode.required Decode.uint32 sizeY
        tileWidth := ← Decode.required Decode.uint32 tileWidth
        tileHeight := ← Decode.required Decode.uint32 tileHeight }
  | _ => none

/-- Tile metadata as an object. -/
def TileInfo.toJson (i : TileInfo) : Json :=
  .obj [("levels", .int i.levels.toNat), ("sizeX", .int i.sizeX.toNat),
    ("sizeY", .int i.sizeY.toNat), ("tileWidth", .int i.tileWidth.toNat),
    ("tileHeight", .int i.tileHeight.toNat)]

/-- A box is a record. -/
def Bounds.decoder : Decoder Bounds := fun p => do
  match ← Decode.fields [["left"], ["top"], ["right"], ["bottom"]] p with
  | [left, top, right, bottom] =>
    some
      { left := ← Decode.required Decode.float left
        top := ← Decode.required Decode.float top
        right := ← Decode.required Decode.float right
        bottom := ← Decode.required Decode.float bottom }
  | _ => none

/-- A box as an object. -/
def Bounds.toJson (b : Bounds) : Json :=
  .obj [("left", .real b.left), ("top", .real b.top), ("right", .real b.right),
    ("bottom", .real b.bottom)]

/-- A tile layer is a record. -/
def TileLayer.decoder : Decoder TileLayer := fun p => do
  match ← Decode.fields [["url"], ["maxLevel"], ["tileWidth"], ["tileHeight"], ["width"],
      ["height"], ["wrapX"], ["wrapY"]] p with
  | [url, maxLevel, tileWidth, tileHeight, width, height, wrapX, wrapY] =>
    some
      { url := ⟨← Decode.required Decode.string url⟩
        maxLevel := ← Decode.required Decode.uint32 maxLevel
        tileWidth := ← Decode.required Decode.uint32 tileWidth
        tileHeight := ← Decode.required Decode.uint32 tileHeight
        width := ← Decode.required Decode.uint32 width
        height := ← Decode.required Decode.uint32 height
        wrapX := ← Decode.required Decode.bool wrapX
        wrapY := ← Decode.required Decode.bool wrapY }
  | _ => none

/-- A tile layer as an object. -/
def TileLayer.toJson (t : TileLayer) : Json :=
  .obj [("url", .str t.url.template), ("maxLevel", .int t.maxLevel.toNat),
    ("tileWidth", .int t.tileWidth.toNat), ("tileHeight", .int t.tileHeight.toNat),
    ("width", .int t.width.toNat), ("height", .int t.height.toNat), ("wrapX", .bool t.wrapX),
    ("wrapY", .bool t.wrapY)]

/-- Map parameters are a record. -/
def MapParams.decoder : Decoder MapParams := fun p => do
  match ← Decode.fields [["maxBounds"], ["center"], ["minLevel"], ["maxLevel"], ["zoom"],
      ["unitsPerPixel"], ["layer"]] p with
  | [maxBounds, center, minLevel, maxLevel, zoom, unitsPerPixel, layer] =>
    some
      { maxBounds := ← Decode.required Bounds.decoder maxBounds
        center := ← Decode.required (Decode.pair Decode.float) center
        minLevel := ← Decode.required Decode.int32 minLevel
        maxLevel := ← Decode.required Decode.uint32 maxLevel
        zoom := ← Decode.required Decode.float zoom
        unitsPerPixel := ← Decode.required Decode.float unitsPerPixel
        layer := ← Decode.required TileLayer.decoder layer }
  | _ => none

/-- Map parameters as an object. -/
def MapParams.toJson (m : MapParams) : Json :=
  .obj [("maxBounds", m.maxBounds.toJson),
    ("center", .arr [.real m.center.1, .real m.center.2]), ("minLevel", .int m.minLevel),
    ("maxLevel", .int m.maxLevel.toNat), ("zoom", .real m.zoom),
    ("unitsPerPixel", .real m.unitsPerPixel), ("layer", m.layer.toJson)]

end ImageOverlay
