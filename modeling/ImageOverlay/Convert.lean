import ImageOverlay.Annotation.Drawn
import ImageOverlay.Number.Angle

set_option autoImplicit false

/-!
# From drawn shapes to elements

A drawn shape becomes an element, or an error that says why it cannot: a coordinate is no finite
number, there are too few or too many vertices, or the shape covers nothing. Vertices count as
equal if their coordinates are numerically equal, so both zeros are one.

Hints about the style never fail a conversion: a colour that is none and a width that is no
finite number `≥ 0` are dropped.
-/

namespace ImageOverlay

/-- Why a drawn shape is no element, or an element no region. -/
inductive ConvertError where
  | nonFinite (kind : ShapeKind)
  | vertexCount (kind : ShapeKind) (found : Nat)
  | zeroExtent (kind : ShapeKind)
  | notARectangle (typeName : String)
deriving DecidableEq, Repr

/-- How many vertices a shape of this kind has. -/
def ShapeKind.vertices : ShapeKind → String
  | .point => "exactly 1"
  | .line => "at least 2 distinct"
  | .polygon => "at least 3 distinct"
  | .rectangle => "exactly 4"

/-- The error in words. -/
def ConvertError.message : ConvertError → String
  | .nonFinite kind => kind.name ++ " has non-finite coordinates"
  | .vertexCount kind found =>
    kind.name ++ " needs " ++ kind.vertices ++ " vertices, got " ++ toString found
  | .zeroExtent kind => kind.name ++ " has zero extent"
  | .notARectangle typeName => "cannot derive a region from a " ++ typeName ++ " element"

namespace Convert

/-- The position on the plane of the image. -/
def flat (p : Position) : Coordinate := ⟨p.x, p.y, 0.0⟩

/-- Whether both coordinates are finite. -/
def isFinite (p : Position) : Bool := p.x.isFinite && p.y.isFinite

/-- The vertices without those that equal the one before them. -/
def collapseFrom (last : Position) : List Position → List Position
  | [] => []
  | p :: rest =>
    if p.x == last.x && p.y == last.y then collapseFrom last rest else p :: collapseFrom p rest

/-- Every run of equal vertices collapsed to its first. -/
def collapse : List Position → List Position
  | [] => []
  | p :: rest => p :: collapseFrom p rest

/-- The vertices without the last one if it equals the first, for the second to the last. -/
def dropClosing (ps : List Position) : List Position :=
  match ps.head?, ps.getLast? with
  | some first, some last =>
    if 1 < ps.length ∧ (first.x == last.x && first.y == last.y) then ps.dropLast else ps
  | _, _ => ps

/-- The sum of doubles from the left, over minus zero. -/
def sum (xs : List Float) : Float := xs.foldl (· + ·) (-0.0)

/-- Twice the area that a vertex and the next one span with the origin. -/
def cross (a b : Position) : Float := a.x * b.y - b.x * a.y

/-- The area inside a ring of vertices, the last one next to the first. -/
def area (ps : List Position) : Float :=
  let next := ps.drop 1 ++ ps.take 1
  (sum (List.zipWith cross ps next) / 2.0).abs

/-- A point has one vertex. -/
def point : List Position → Except ConvertError Shape
  | [p] => .ok (.point (flat p))
  | ps => .error (.vertexCount .point ps.length)

/-- A line has two vertices or more that differ from their neighbours. -/
def line (ps : List Position) : Except ConvertError Shape :=
  let vertices := collapse ps
  if vertices.length < 2 then .error (.vertexCount .line vertices.length)
  else .ok (.polyline (vertices.map flat) false)

/-- A polygon has three vertices or more that differ from their neighbours, the last one from the
first too, and an area. -/
def polygon (ps : List Position) : Except ConvertError Shape :=
  let vertices := dropClosing (collapse ps)
  if vertices.length < 3 then .error (.vertexCount .polygon vertices.length)
  else if area vertices == 0.0 then .error (.zeroExtent .polygon)
  else .ok (.polyline (vertices.map flat) true)

/-- The rectangle of four corners in drawing order: its width is the first edge, its height the
second, and it is turned as the first edge is. -/
def ofCorners (a b c d : Position) : Except ConvertError Shape :=
  let width := hypotenuse (b.x - a.x) (b.y - a.y)
  let height := hypotenuse (c.x - b.x) (c.y - b.y)
  if width == 0.0 || height == 0.0 then .error (.zeroExtent .rectangle)
  else
    let center : Coordinate :=
      ⟨sum [a.x, b.x, c.x, d.x] / 4.0, sum [a.y, b.y, c.y, d.y] / 4.0, 0.0⟩
    .ok (.rectangle center width height (Angle.ofVector (b.y - a.y) (b.x - a.x)))

/-- A rectangle has four corners; a fifth vertex may repeat the first. -/
def rectangle (ps : List Position) : Except ConvertError Shape :=
  match ps with
  | [a, b, c, d] => ofCorners a b c d
  | [a, b, c, d, e] =>
    if a.x == e.x && a.y == e.y then ofCorners a b c d
    else .error (.vertexCount .rectangle 5)
  | _ => .error (.vertexCount .rectangle ps.length)

/-- The shape that vertices of a kind stand for. -/
def shape : ShapeKind → List Position → Except ConvertError Shape
  | .point => point
  | .line => line
  | .polygon => polygon
  | .rectangle => rectangle

/-- The style a drawing layer suggests, as far as it makes sense. -/
def style (d : Drawn) : ElementStyle where
  label := d.label.map fun value => { value }
  lineColor := d.strokeColor.bind Color.parse?
  lineWidth := d.strokeWidth.filter fun w => w.isFinite && 0.0 ≤ w
  fillColor := d.fillColor.bind Color.parse?

end Convert

/-- The element of a drawn shape, under the identity the drawing layer gave it, if any. -/
def convert (d : Drawn) : Except ConvertError Element :=
  if d.coordinates.all Convert.isFinite then
    (Convert.shape d.kind d.coordinates).map fun shape =>
      { id := d.id, shape, style := Convert.style d }
  else .error (.nonFinite d.kind)

end ImageOverlay
