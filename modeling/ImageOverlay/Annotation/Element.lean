import ImageOverlay.Annotation.Identity
import ImageOverlay.Color

set_option autoImplicit false

/-!
# Annotation elements

An element is one normalised shape in the pixel space of the image, with an optional identity, an
optional label and optional colours. In JSON it is a flat object: the shape is named by the
member `type`, and its geometry and the style stand beside it.

Since the members of the shape and the style share one object, an element is read from an object
only, never from an array, and every member is kept until the whole object is read: the unknown
ones too must be values that can be kept.
-/

namespace ImageOverlay

/-- A point in pixels, origin at the upper left; the third coordinate is always zero. -/
structure Coordinate where
  x : Float
  y : Float
  z : Float
deriving DecidableEq, Repr

/-- A position in the plane of the image. -/
structure Position where
  x : Float
  y : Float
deriving DecidableEq, Repr

/-- The geometry of an element. A polyline is a polygon if it is closed; a rectangle and the box
of an ellipse are turned by `rotation` around their center; an arrow points at its first end. -/
inductive Shape where
  | point (center : Coordinate)
  | polyline (points : List Coordinate) (closed : Bool)
  | rectangle (center : Coordinate) (width height rotation : Float)
  | circle (center : Coordinate) (radius : Float)
  | ellipse (center : Coordinate) (width height rotation : Float)
  | arrow (head tail : Coordinate)
deriving DecidableEq, Repr

/-- The name of a shape. -/
def Shape.typeName : Shape → String
  | .point .. => "point"
  | .polyline .. => "polyline"
  | .rectangle .. => "rectangle"
  | .circle .. => "circle"
  | .ellipse .. => "ellipse"
  | .arrow .. => "arrow"

/-- When a label is shown. -/
inductive LabelVisibility where
  | hidden
  | always
  | onHover
deriving DecidableEq, Repr

/-- A label and how it looks. -/
structure Label where
  value : String
  visibility : Option LabelVisibility := none
  fontSize : Option Float := none
  color : Option Color := none
deriving DecidableEq, Repr

/-- What every shape may carry beside its geometry. -/
structure ElementStyle where
  label : Option Label := none
  lineColor : Option Color := none
  lineWidth : Option Float := none
  fillColor : Option Color := none
deriving DecidableEq, Repr

/-- One shape of an annotation. -/
structure Element where
  id : Option String := none
  shape : Shape
  style : ElementStyle := {}
deriving DecidableEq, Repr

/-- The element under its own identity, or under a fresh one if it has none. -/
def Element.identified (supply : Identity.Supply) (e : Element) : Element × Identity.Supply :=
  match e.id with
  | some _ => (e, supply)
  | none =>
    let (id, supply) := supply.next
    ({ e with id := some id }, supply)

/-! ## Writing -/

/-- A coordinate is an array of three numbers. -/
def Coordinate.toJson (c : Coordinate) : Json := .arr [.real c.x, .real c.y, .real c.z]

/-- A position is an array of two numbers. -/
def Position.toJson (p : Position) : Json := .arr [.real p.x, .real p.y]

/-- The members a shape contributes to its element. -/
def Shape.members (s : Shape) : List (String × Json) :=
  ("type", .str s.typeName) ::
    match s with
    | .point center => [("center", center.toJson)]
    | .polyline points closed =>
      [("points", .arr (points.map Coordinate.toJson)), ("closed", .bool closed)]
    | .rectangle center width height rotation | .ellipse center width height rotation =>
      [("center", center.toJson), ("width", .real width), ("height", .real height),
        ("rotation", .real rotation)]
    | .circle center radius => [("center", center.toJson), ("radius", .real radius)]
    | .arrow head tail => [("points", .arr [head.toJson, tail.toJson])]

/-- The name of a visibility. -/
def LabelVisibility.name : LabelVisibility → String
  | .hidden => "hidden"
  | .always => "always"
  | .onHover => "onhover"

/-- A label is an object without the members that are not set. -/
def Label.toJson (l : Label) : Json :=
  .obj (("value", .str l.value) ::
    (Json.member? "visibility" (l.visibility.map fun v => .str v.name) ++
      Json.member? "fontSize" (l.fontSize.map .real) ++
      Json.member? "color" (l.color.map Color.toJson)))

/-- The members a style contributes to its element. -/
def ElementStyle.members (s : ElementStyle) : List (String × Json) :=
  Json.member? "label" (s.label.map Label.toJson) ++
    Json.member? "lineColor" (s.lineColor.map Color.toJson) ++
    Json.member? "lineWidth" (s.lineWidth.map .real) ++
    Json.member? "fillColor" (s.fillColor.map Color.toJson)

/-- An element is an object: identity, shape, style. -/
def Element.toJson (e : Element) : Json :=
  .obj (Json.member? "id" (e.id.map .str) ++ e.shape.members ++ e.style.members)

/-! ## Reading -/

/-- A coordinate is an array of exactly three numbers. -/
def Coordinate.decoder : Decoder Coordinate := fun p =>
  (Decode.triple Decode.float p).map fun (x, y, z) => ⟨x, y, z⟩

/-- A position is an array of exactly two numbers. -/
def Position.decoder : Decoder Position := fun p =>
  (Decode.pair Decode.float p).map fun (x, y) => ⟨x, y⟩

/-- Whether a value may stand beside the name of a visibility that is written as an object. -/
def LabelVisibility.isNothing : Parsed → Bool
  | .null | .object [] => true
  | _ => false

/-- A visibility is its name. -/
def LabelVisibility.decoder : Decoder LabelVisibility :=
  Decode.choiceWith isNothing
    [("hidden", .hidden), ("always", .always), ("onhover", .onHover)]

/-- A label is a record. -/
def Label.decoder : Decoder Label := fun p => do
  match ← Decode.fields [["value"], ["visibility"], ["fontSize"], ["color"]] p with
  | [value, visibility, fontSize, color] =>
    some
      { value := ← Decode.required Decode.string value
        visibility := ← Decode.optional LabelVisibility.decoder visibility
        fontSize := ← Decode.optional Decode.float fontSize
        color := ← Decode.optional Color.decoder color }
  | _ => none

/-- The members of an object, as far as they are known by one name each. -/
abbrev Members := List (Option String × Parsed)

/-- A point has a center. -/
def Shape.pointOf (ms : Members) : Option Shape := do
  let center ← Decode.field? ["center"] ms
  some (.point (← Decode.required Coordinate.decoder center))

/-- A polyline is open unless it says otherwise. -/
def Shape.polylineOf (ms : Members) : Option Shape := do
  let points ← Decode.field? ["points"] ms
  let closed ← Decode.field? ["closed"] ms
  some (.polyline (← Decode.required (Decode.list Coordinate.decoder) points)
    (← Decode.orDefault false Decode.bool closed))

/-- A turned box: center, width, height and a rotation that is zero if missing. -/
def Shape.boxOf (make : Coordinate → Float → Float → Float → Shape) (ms : Members) :
    Option Shape := do
  let center ← Decode.field? ["center"] ms
  let width ← Decode.field? ["width"] ms
  let height ← Decode.field? ["height"] ms
  let rotation ← Decode.field? ["rotation"] ms
  some (make (← Decode.required Coordinate.decoder center) (← Decode.required Decode.float width)
    (← Decode.required Decode.float height) (← Decode.orDefault 0.0 Decode.float rotation))

/-- A circle has a center and a radius. -/
def Shape.circleOf (ms : Members) : Option Shape := do
  let center ← Decode.field? ["center"] ms
  let radius ← Decode.field? ["radius"] ms
  some (.circle (← Decode.required Coordinate.decoder center)
    (← Decode.required Decode.float radius))

/-- An arrow has exactly two points. -/
def Shape.arrowOf (ms : Members) : Option Shape := do
  let points ← Decode.field? ["points"] ms
  let (head, tail) ← Decode.required (Decode.pair Coordinate.decoder) points
  some (.arrow head tail)

/-- The shapes by name, in the order of their numbers. -/
def Shape.readers : List (String × (Members → Option Shape)) :=
  [("point", pointOf), ("polyline", polylineOf), ("rectangle", boxOf .rectangle),
    ("circle", circleOf), ("ellipse", boxOf .ellipse), ("arrow", arrowOf)]

/-- The reader a `type` asks for, by name or by number. -/
def Shape.reader? : Decoder (Members → Option Shape)
  | .text (some name) => Decode.named? readers name
  | .number (.int n) => if 0 ≤ n then (readers[n.toNat]?).map (·.2) else none
  | _ => none

/-- The shape among the members of an element. -/
def Shape.ofMembers (ms : Members) : Option Shape := do
  let tag ← Decode.field? ["type"] ms
  let reader ← Decode.required Shape.reader? tag
  reader ms

/-- The style among the members of an element. -/
def ElementStyle.ofMembers (ms : Members) : Option ElementStyle := do
  match ← Decode.ofMembers [["label"], ["lineColor"], ["lineWidth"], ["fillColor"]] ms with
  | [label, lineColor, lineWidth, fillColor] =>
    some
      { label := ← Decode.optional Label.decoder label
        lineColor := ← Decode.optional Color.decoder lineColor
        lineWidth := ← Decode.optional Decode.float lineWidth
        fillColor := ← Decode.optional Color.decoder fillColor }
  | _ => none

/-- An element that stands inside `outer` arrays and objects of its text. -/
def Element.decoderIn (outer : Nat) : Decoder Element := fun p =>
  match p with
  | .object ms => do
    let _ ← p.keep? (Parsed.depthLimit - outer)
    let id ← Decode.field? ["id"] ms
    let id ← Decode.optional Decode.string id
    let shape ← Shape.ofMembers ms
    let style ← ElementStyle.ofMembers ms
    some { id, shape, style }
  | _ => none

/-- An element that is the whole text. -/
def Element.decoder : Decoder Element := Element.decoderIn 0

end ImageOverlay
