import ImageOverlay.Annotation.Feature

set_option autoImplicit false

/-!
# Annotation documents

A document is an identified list of elements. Its identity may also be written as `_id`.
-/

namespace ImageOverlay

/-- An annotation as it is stored. -/
structure Document where
  id : String
  name : String := ""
  description : Option String := none
  elements : List Element := []
deriving DecidableEq, Repr

/-- The features of all elements, in their order. -/
def Document.features (d : Document) : FeatureCollection := .ofElements d.elements

/-- A document is an object without the description that is not set. -/
def Document.toJson (d : Document) : Json :=
  .obj ([("id", .str d.id), ("name", .str d.name)] ++
    Json.member? "description" (d.description.map .str) ++
    [("elements", .arr (d.elements.map Element.toJson))])

/-- A document is a record; its elements stand two levels deep. -/
def Document.decoder : Decoder Document := fun p => do
  match ← Decode.fields [["id", "_id"], ["name"], ["description"], ["elements"]] p with
  | [id, name, description, elements] =>
    some
      { id := ← Decode.required Decode.string id
        name := ← Decode.orDefault "" Decode.string name
        description := ← Decode.optional Decode.string description
        elements := ← Decode.orDefault [] (Decode.list (Element.decoderIn 2)) elements }
  | _ => none

end ImageOverlay
