import ImageOverlay.Annotation.Element
import ImageOverlay.Text.Lowercase

set_option autoImplicit false

/-!
# Drawn shapes

What the map hands over while a user draws: the kind of shape, how far the drawing is, and the
vertices in drawing order, with the styling the drawing layer suggests. Nothing about it is
checked yet; see `Convert`.
-/

namespace ImageOverlay

/-- The shapes a user can draw. -/
inductive ShapeKind where
  | point
  | line
  | polygon
  | rectangle
deriving DecidableEq, Repr

/-- The name of a kind. -/
def ShapeKind.name : ShapeKind → String
  | .point => "point"
  | .line => "line"
  | .polygon => "polygon"
  | .rectangle => "rectangle"

/-- The kinds by name. -/
def ShapeKind.names : List (String × ShapeKind) :=
  [("point", .point), ("line", .line), ("polygon", .polygon), ("rectangle", .rectangle)]

/-- A name, in lower case, that no kind has. -/
structure ShapeKindError where
  name : String
deriving DecidableEq, Repr

/-- What is wrong with the name. -/
def ShapeKindError.message (e : ShapeKindError) : String :=
  "unknown shape '" ++ e.name ++ "' (expected point, line, polygon or rectangle)"

/-- The kind of a name in letters of either case. -/
def ShapeKind.parse (text : String) : Except ShapeKindError ShapeKind :=
  let name := String.ofList (Text.lowercase text.toList)
  match Decode.named? ShapeKind.names name with
  | some kind => .ok kind
  | none => .error ⟨name⟩

/-- A kind in JSON is its name. -/
def ShapeKind.decoder : Decoder ShapeKind := Decode.choice ShapeKind.names

/-- How far a drawing is. -/
inductive DrawingState where
  | create
  | done
  | edit
deriving DecidableEq, Repr

/-- The name of a state. -/
def DrawingState.name : DrawingState → String
  | .create => "create"
  | .done => "done"
  | .edit => "edit"

/-- A state in JSON is its name. -/
def DrawingState.decoder : Decoder DrawingState :=
  Decode.choice [("create", .create), ("done", .done), ("edit", .edit)]

/-- A shape as it was drawn. -/
structure Drawn where
  id : Option String := none
  kind : ShapeKind
  state : DrawingState := .done
  coordinates : List Position
  label : Option String := none
  strokeColor : Option String := none
  strokeWidth : Option Float := none
  fillColor : Option String := none
deriving DecidableEq, Repr

/-- A drawn shape is an object without the members that are not set. -/
def Drawn.toJson (d : Drawn) : Json :=
  .obj (Json.member? "id" (d.id.map .str) ++
    [("type", .str d.kind.name), ("state", .str d.state.name),
      ("coordinates", .arr (d.coordinates.map Position.toJson))] ++
    Json.member? "label" (d.label.map .str) ++
    Json.member? "strokeColor" (d.strokeColor.map .str) ++
    Json.member? "strokeWidth" (d.strokeWidth.map .real) ++
    Json.member? "fillColor" (d.fillColor.map .str))

/-- A drawn shape whose numbers are read by `number`. It is done unless it says otherwise. -/
def Drawn.decoderWith (coordinates : Decoder (List Position)) (width : Decoder Float) :
    Decoder Drawn := fun p => do
  match ← Decode.fields [["id"], ["type"], ["state"], ["coordinates"], ["label"],
      ["strokeColor"], ["strokeWidth"], ["fillColor"]] p with
  | [id, kind, state, positions, label, strokeColor, strokeWidth, fillColor] =>
    some
      { id := ← Decode.optional Decode.string id
        kind := ← Decode.required ShapeKind.decoder kind
        state := ← Decode.orDefault .done DrawingState.decoder state
        coordinates := ← Decode.required coordinates positions
        label := ← Decode.optional Decode.string label
        strokeColor := ← Decode.optional Decode.string strokeColor
        strokeWidth := ← Decode.optional width strokeWidth
        fillColor := ← Decode.optional Decode.string fillColor }
  | _ => none

/-- A drawn shape is a record. -/
def Drawn.decoder : Decoder Drawn :=
  Drawn.decoderWith (Decode.list Position.decoder) Decode.float

end ImageOverlay
