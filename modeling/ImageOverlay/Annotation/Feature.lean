import ImageOverlay.Annotation.Element
import ImageOverlay.Number.Angle

set_option autoImplicit false

/-!
# Features

A layer of a map draws three things only: points, lines and polygons. Every element becomes one
feature of that kind. A rectangle becomes the ring of its corners, a circle and an ellipse a ring
of 32 points on the curve; a ring ends where it starts.

Beside its geometry a feature carries properties, ordered by their names: the name of the
element's shape, and the identity, colours, width and label the element has.
-/

namespace ImageOverlay

/-- The geometry of a feature; a polygon is a list of rings. -/
inductive Geometry where
  | point (position : Position)
  | lineString (positions : List Position)
  | polygon (rings : List (List Position))
deriving DecidableEq, Repr

/-- The kind of layer content a geometry is. -/
def Geometry.primitiveName : Geometry → String
  | .point _ => "point"
  | .lineString _ => "line"
  | .polygon _ => "polygon"

/-- A geometry and its properties, in the order of their names. -/
structure Feature where
  geometry : Geometry
  properties : List (String × Json)
deriving Repr

/-- A list of features. -/
structure FeatureCollection where
  features : List Feature
deriving Repr, Inhabited

/-! ## Geometry of elements -/

/-- How many points stand for a curve. -/
def curveSegments : Nat := 32

/-- A full turn. -/
def fullTurn : Float := 6.283185307179586

/-- The position in the plane. -/
def Coordinate.position (c : Coordinate) : Position := ⟨c.x, c.y⟩

/-- The position `(dx, dy)` away from a center, in axes turned by `rotation`. -/
def turned (center : Coordinate) (dx dy rotation : Float) : Position :=
  let sin := Angle.sin rotation
  let cos := Angle.cos rotation
  ⟨center.x + dx * cos - dy * sin, center.y + dx * sin + dy * cos⟩

/-- Whether two positions are numerically equal. -/
def Position.equal (p q : Position) : Bool := p.x == q.x && p.y == q.y

/-- A ring that ends where it starts: the first position is repeated at the end unless the last
one equals it. -/
def closeRing (ring : List Position) : List Position :=
  match ring.head?, ring.getLast? with
  | some first, some last => if first.equal last then ring else ring ++ [first]
  | _, _ => ring

/-- The corners of a rectangle, from the one that is upper left before turning. -/
def rectangleCorners (center : Coordinate) (width height rotation : Float) : List Position :=
  let w := width / 2.0
  let h := height / 2.0
  [turned center (-w) (-h) rotation, turned center w (-h) rotation, turned center w h rotation,
    turned center (-w) h rotation]

/-- The points of an ellipse. -/
def ellipsePoints (center : Coordinate) (width height rotation : Float) : List Position :=
  let rx := width / 2.0
  let ry := height / 2.0
  (List.range curveSegments).map fun i =>
    let theta := fullTurn * i.toFloat / curveSegments.toFloat
    turned center (rx * Angle.cos theta) (ry * Angle.sin theta) rotation

/-- The geometry of a shape. -/
def Shape.geometry : Shape → Geometry
  | .point center => .point center.position
  | .polyline points closed =>
    let positions := points.map Coordinate.position
    if closed then .polygon [closeRing positions] else .lineString positions
  | .rectangle center width height rotation =>
    .polygon [closeRing (rectangleCorners center width height rotation)]
  | .circle center radius =>
    .polygon [closeRing (ellipsePoints center (radius * 2.0) (radius * 2.0) 0.0)]
  | .ellipse center width height rotation =>
    .polygon [closeRing (ellipsePoints center width height rotation)]
  | .arrow head tail => .lineString [head.position, tail.position]

/-! ## Properties of elements -/

/-- The member of a double: only a finite one has a value. -/
def realProperty (x : Float) : Json := if x.isFinite then .real x else .null

/-- The properties of an element, in the order of their names. -/
def Element.properties (e : Element) : List (String × Json) :=
  ("element", .str e.shape.typeName) ::
    (Json.member? "fillColor" (e.style.fillColor.map Color.toJson) ++
      Json.member? "id" (e.id.map .str) ++
      Json.member? "label" (e.style.label.map fun l => .str l.value) ++
      Json.member? "lineColor" (e.style.lineColor.map Color.toJson) ++
      Json.member? "lineWidth" (e.style.lineWidth.map realProperty))

/-- The feature of an element. -/
def Element.feature (e : Element) : Feature := ⟨e.shape.geometry, e.properties⟩

/-- The features of a list of elements, in their order. -/
def FeatureCollection.ofElements (es : List Element) : FeatureCollection :=
  ⟨es.map Element.feature⟩

/-! ## Writing -/

/-- A list of positions. -/
def positionsJson (ps : List Position) : Json := .arr (ps.map Position.toJson)

/-- The coordinates of a geometry. -/
def Geometry.coordinates : Geometry → Json
  | .point p => p.toJson
  | .lineString ps => positionsJson ps
  | .polygon rings => .arr (rings.map positionsJson)

/-- The name a geometry is written under. -/
def Geometry.tag : Geometry → String
  | .point _ => "Point"
  | .lineString _ => "LineString"
  | .polygon _ => "Polygon"

/-- A geometry is a name and coordinates. -/
def Geometry.toJson (g : Geometry) : Json :=
  .obj [("type", .str g.tag), ("coordinates", g.coordinates)]

/-- A feature is a geometry and its properties. -/
def Feature.toJson (f : Feature) : Json :=
  .obj [("type", .str "Feature"), ("geometry", f.geometry.toJson),
    ("properties", .obj f.properties)]

/-- A collection is its features. -/
def FeatureCollection.toJson (c : FeatureCollection) : Json :=
  .obj [("type", .str "FeatureCollection"), ("features", .arr (c.features.map Feature.toJson))]

/-! ## Reading

The name of a collection and of a feature is written but never read; that of a geometry decides
what its coordinates are. -/

/-- The readers of coordinates, by the name of the geometry. -/
def Geometry.readers : List (String × Decoder Geometry) :=
  [("Point", fun p => (Position.decoder p).map .point),
    ("LineString", fun p => (Decode.list Position.decoder p).map .lineString),
    ("Polygon", fun p => (Decode.list (Decode.list Position.decoder) p).map .polygon)]

/-- A geometry is a record of its name and its coordinates. -/
def Geometry.decoder : Decoder Geometry := fun p => do
  match ← Decode.fields [["type"], ["coordinates"]] p with
  | [tag, coordinates] =>
    let reader ← Decode.required (Decode.choice Geometry.readers) tag
    Decode.required reader coordinates
  | _ => none

/-- The properties of a feature: an object that is kept whole. -/
def Feature.propertiesDecoder (outer : Nat) : Decoder (List (String × Json)) := fun p =>
  match p.keep? (Parsed.depthLimit - outer) with
  | some (.obj members) => some members
  | _ => none

/-- A feature of a collection: two levels of its text are around it. -/
def Feature.decoder : Decoder Feature := fun p => do
  match ← Decode.fields [["geometry"], ["properties"]] p with
  | [geometry, properties] =>
    some
      { geometry := ← Decode.required Geometry.decoder geometry
        properties := ← Decode.orDefault [] (Feature.propertiesDecoder 3) properties }
  | _ => none

/-- A collection. -/
def FeatureCollection.decoder : Decoder FeatureCollection := fun p => do
  match ← Decode.fields [["features"]] p with
  | [features] => some ⟨← Decode.required (Decode.list Feature.decoder) features⟩
  | _ => none

end ImageOverlay
