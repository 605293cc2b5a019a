import ImageOverlay.Convert

set_option autoImplicit false

/-!
# Regions

A region is a box in whole pixels. It is taken from a rectangle by rounding its left and upper
edges and its size, each from the unrounded numbers; how the rectangle is turned does not count.
-/

namespace ImageOverlay

/-- A box in whole pixels, each number within 64 bits. -/
structure Region where
  left : Int
  top : Int
  width : Int
  height : Int
deriving DecidableEq, Repr

namespace Region

/-- The nearest whole number, a half away from zero, within 64 bits. -/
def pixels (x : Float) : Int := (Exact.ofFloat x).nearest.toInt64Range

/-- The region of a rectangle; other elements have none. -/
def ofElement (e : Element) : Except ConvertError Region :=
  match e.shape with
  | .rectangle center width height _ =>
    .ok
      { left := pixels (center.x - width / 2.0)
        top := pixels (center.y - height / 2.0)
        width := pixels width
        height := pixels height }
  | other => .error (.notARectangle other.typeName)

/-- The numbers of a region in their order. -/
def toList (r : Region) : List Int := [r.left, r.top, r.width, r.height]

/-- A region is an array of four whole numbers. -/
def toJson (r : Region) : Json := .arr (r.toList.map .int)

/-- A region is an array of exactly four whole numbers. -/
def decoder : Decoder Region
  | .array [a, b, c, d] =>
    return ⟨← Decode.int64 a, ← Decode.int64 b, ← Decode.int64 c, ← Decode.int64 d⟩
  | _ => none

end Region

end ImageOverlay
