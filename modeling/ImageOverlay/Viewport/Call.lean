import ImageOverlay.Annotation.Drawn
import ImageOverlay.Tile.Pyramid

set_option autoImplicit false

/-!
# Calls to the map

The map that shows an image is a library of its own. What this program asks of it is a handful of
calls: to create and delete layers, to set the shape a layer lets the user draw, to subscribe to
drawn shapes, to show geometry, to draw and to tear the map down. This module names the things
those calls are about, the ways a call can fail, and the record that is kept of every call that
was carried out.
-/

namespace ImageOverlay

/-! ## Layers and subscriptions -/

/-- A layer of a map, by the number the map gave it. -/
structure LayerHandle where
  number : Nat
deriving DecidableEq, Repr

/-- A subscription to the shapes drawn on a layer, by the number the map gave it. -/
structure SubscriptionId where
  number : Nat
deriving DecidableEq, Repr

/-- What a layer is for: the tiles of the image, the geometry of an annotation, or drawing. -/
inductive LayerKind where
  | tile
  | feature
  | annotationDraw
deriving DecidableEq, Repr

/-- The name of a kind of layer. -/
def LayerKind.name : LayerKind → String
  | .tile => "tile"
  | .feature => "feature"
  | .annotationDraw => "annotation-draw"

/-! ## Failures -/

/-- What only some kinds of layers do. -/
inductive LayerFeature where
  | interactionModes
  | geometryImport
deriving DecidableEq, Repr

/-- The name of what a layer may not do. -/
def LayerFeature.name : LayerFeature → String
  | .interactionModes => "interaction modes"
  | .geometryImport => "geometry import"

/-- Why the map refused a call. -/
inductive ViewportError where
  | unknownLayer (layer : LayerHandle)
  | unsupported (layer : LayerHandle) (kind : LayerKind) (feature : LayerFeature)
  | tornDown
  | mapConstruction (reason : String)
  | geometry (reason : String)
deriving DecidableEq, Repr

/-- A layer in the words of a message. -/
def LayerHandle.text (l : LayerHandle) : String := "LayerHandle(" ++ toString l.number ++ ")"

/-- The error in words. -/
def ViewportError.message : ViewportError → String
  | .unknownLayer layer => "unknown layer " ++ layer.text
  | .unsupported layer kind feature =>
    kind.name ++ " layer " ++ layer.text ++ " does not support " ++ feature.name
  | .tornDown => "viewport has been torn down"
  | .mapConstruction reason => "map construction failed: " ++ reason
  | .geometry reason => "geometry rejected: " ++ reason

/-! ## Events -/

/-- What the map tells: that the user has changed a drawing on a layer, and that it has finished
to draw what was asked for. -/
inductive ViewportEvent where
  | annotationChanged (layer : LayerHandle) (drawn : Drawn)
  | drawPassComplete
deriving DecidableEq, Repr

/-! ## The record of calls -/

/-- A call that was carried out. -/
inductive Call where
  | createMap (width height : Float) (maxLevel : UInt32)
  | createLayer (layer : LayerHandle) (kind : LayerKind)
  | deleteLayer (layer : LayerHandle)
  | setInteractionMode (layer : LayerHandle) (mode : Option ShapeKind)
  | subscribe (layer : LayerHandle) (subscription : SubscriptionId)
  | unsubscribe (subscription : SubscriptionId)
  | readGeometry (layer : LayerHandle) (features : Nat)
  | draw
  | teardown
deriving DecidableEq, Repr

namespace Call

/-- The layer a call deletes. -/
def deleted? : Call → Option LayerHandle
  | .deleteLayer layer => some layer
  | _ => none

/-- A call as an object: its name, and what it is about. -/
def toJson (c : Call) : Json :=
  let named (name : String) (members : List (String × Json)) : Json :=
    .obj (("call", .str name) :: members)
  let layerMember (layer : LayerHandle) : String × Json := ("layer", .int layer.number)
  match c with
  | .createMap width height maxLevel =>
    named "create-map"
      [("width", .real width), ("height", .real height), ("max_level", .int maxLevel.toNat)]
  | .createLayer layer kind =>
    named "create-layer" [layerMember layer, ("kind", .str kind.name)]
  | .deleteLayer layer => named "delete-layer" [layerMember layer]
  | .setInteractionMode layer mode =>
    named "set-interaction-mode"
      [layerMember layer, ("mode", (mode.map fun m => Json.str m.name).getD .null)]
  | .subscribe layer subscription =>
    named "subscribe" [layerMember layer, ("subscription", .int subscription.number)]
  | .unsubscribe subscription =>
    named "unsubscribe" [("subscription", .int subscription.number)]
  | .readGeometry layer features =>
    named "read-geometry" [layerMember layer, ("features", .int features)]
  | .draw => named "draw" []
  | .teardown => named "teardown" []

end Call

end ImageOverlay
