import ImageOverlay.Number.Decimal
import ImageOverlay.Text.Blank
import ImageOverlay.Text.Substitute

set_option autoImplicit false

/-!
# Tile addresses

The address of a tile is a template in which the level and the place of the tile are still to be
filled in. A template joins the root of a tile server and the path of an image below it with one
slash, whatever slashes they bring along.
-/

namespace ImageOverlay

/-- An address with the placeholders `z`, `x` and `y`, each in curly brackets. -/
structure TileAddress where
  template : String
deriving DecidableEq, Repr

namespace TileAddress

/-- A name in curly brackets. -/
def placeholder (name : String) : List Char := '\x7b' :: (name.toList ++ ['\x7d'])

/-- The template of an image: the root without slashes at its end, the path without slashes at
its start, and the image in place of `item`. -/
def ofImage (root path item : String) : TileAddress :=
  let path := path.toList.dropWhile (· == '/')
  ⟨String.ofList (Text.dropEndWhile (· == '/') root.toList ++ '/' ::
    Text.replace (placeholder "item") item.toList path)⟩

/-- The address of one tile: level, column and row, filled in one after the other. -/
def expand (a : TileAddress) (z x y : Nat) : String :=
  let fill (name : String) (n : Nat) (cs : List Char) : List Char :=
    Text.replace (placeholder name) (Decimal.digits n) cs
  String.ofList (fill "y" y (fill "x" x (fill "z" z a.template.toList)))

end TileAddress

end ImageOverlay
