import ImageOverlay.Annotation.Document
import ImageOverlay.Overlay.Style
import ImageOverlay.Viewport.Basic

set_option autoImplicit false

/-!
# Overlays

Every annotation that is shown has one layer of the map to itself. The overlays know which layer
that is: a layer that comes in the place of another one has the other one deleted, and so has an
annotation that is taken off the map. As long as nobody else deletes these layers, the layers
deleted and the layers known are together the layers that were ever installed.

Where all layers are deleted at once, nothing is promised about which one goes first: the order is
any one (`DrainOrder`), and may be another one the next time.
-/

namespace ImageOverlay

/-- An order in which layers are deleted when all of them are: none is left out, and none is deleted
twice. -/
structure DrainOrder where
  arrange : List (String × LayerHandle) → List (String × LayerHandle)
  perm (layers : List (String × LayerHandle)) : (arrange layers).Perm layers

/-- The order in which the layers came. -/
def DrainOrder.arrival : DrainOrder := ⟨id, .refl⟩

/-- The orders of the first time, the second time and so on. -/
abbrev DrainOrders := Nat → DrainOrder

/-- The layers of the annotations on the map, by the identities of the annotations, and the orders
in which they are deleted all at once. -/
structure Overlays where
  layers : List (String × LayerHandle) := []
  drains : DrainOrders := fun _ => .arrival

namespace Overlays

/-- The layer of an annotation. -/
def layer? (id : String) (o : Overlays) : Option LayerHandle := o.layers.lookup id

/-- How many annotations are shown. -/
def count (o : Overlays) : Nat := o.layers.length

/-- The overlays without an annotation. -/
def erase (id : String) (o : Overlays) : Overlays :=
  { o with layers := o.layers.filter (·.1 ≠ id) }

/-- The layers in the order in which they are deleted this time. -/
def drained (o : Overlays) : List (String × LayerHandle) := (o.drains 0).arrange o.layers

/-- The layers that are deleted are those that are known. -/
theorem drained_perm (o : Overlays) : o.drained.Perm o.layers := (o.drains 0).perm o.layers

/-- The overlays without annotations, once all layers were deleted. -/
def emptied (o : Overlays) : Overlays := { drains := fun n => o.drains (n + 1) }

/-- Make a layer the one of an annotation. A different one it had before is deleted. -/
def install (id : String) (layer : LayerHandle) (o : Overlays) (v : Viewport) :
    Overlays × Viewport :=
  let v := match o.layer? id with
    | some previous => if previous = layer then v else v.deleteLayer previous
    | none => v
  ({ o with layers := (o.erase id).layers ++ [(id, layer)] }, v)

/-- Delete the layer of an annotation and forget it; `false` if there is none. -/
def remove (id : String) (o : Overlays) (v : Viewport) : Bool × Overlays × Viewport :=
  match o.layer? id with
  | some layer => (true, o.erase id, v.deleteLayer layer)
  | none => (false, o, v)

/-- Delete all layers and forget them; the number says how many they were. -/
def clear (o : Overlays) (v : Viewport) : Nat × Overlays × Viewport :=
  (o.count, o.emptied, o.drained.foldl (fun v (_, layer) => v.deleteLayer layer) v)

/-- Show an annotation on a new layer. The layer is the annotation's as soon as it is there, even
if it does not take the geometry. -/
def render (style : FallbackStyle) (d : Document) (o : Overlays) (v : Viewport) :
    Except ViewportError LayerHandle × Overlays × Viewport :=
  match v.createLayer .feature with
  | (.error e, v) => (.error e, o, v)
  | (.ok layer, v) =>
    let (o, v) := o.install d.id layer v
    match v.readGeometry layer (style.apply d.features) with
    | (.error e, v) => (.error e, o, v)
    | (.ok (), v) => (.ok layer, o, v.draw)

end Overlays

end ImageOverlay
