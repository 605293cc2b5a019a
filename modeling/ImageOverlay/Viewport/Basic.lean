import ImageOverlay.Annotation.Feature
import ImageOverlay.Viewport.Call

set_option autoImplicit false

/-!
# The map

The map library keeps the record of all calls, over all the maps it builds. A map keeps its
layers and its subscriptions; both are numbered from one on, and no number is given out twice. A
call that fails leaves the map as it is and is not recorded.

Every call that can fail can be made to fail: an armed fault answers the next call of its kind
in place of the map, and is gone then.
-/

namespace ImageOverlay

/-! ## The library -/

/-- The calls that can fail. -/
inductive FallibleCall where
  | createMap
  | createLayer
  | setInteractionMode
  | subscribe
  | readGeometry
deriving DecidableEq, Repr

/-- What all maps of one library share: the record of calls, the geometry that was handed over,
whether it was taken or not, and the armed faults, at most one for each kind of call. -/
structure MapLibrary where
  log : List Call := []
  submitted : List FeatureCollection := []
  faults : List (FallibleCall × ViewportError) := []
deriving Repr

namespace MapLibrary

/-- Put a call on record. -/
def record (c : Call) (l : MapLibrary) : MapLibrary := { l with log := l.log ++ [c] }

/-- Arm a fault in place of an earlier one for the same kind of call. -/
def arm (call : FallibleCall) (e : ViewportError) (l : MapLibrary) : MapLibrary :=
  { l with faults := (call, e) :: l.faults.filter (·.1 ≠ call) }

/-- The fault armed for a kind of call, if there is one, and the library without it. -/
def fault? (call : FallibleCall) (l : MapLibrary) : Option (ViewportError × MapLibrary) :=
  (l.faults.lookup call).map fun e => (e, { l with faults := l.faults.filter (·.1 ≠ call) })

/-- The layers deleted so far, in order. -/
def deletions (l : MapLibrary) : List LayerHandle := l.log.filterMap Call.deleted?

end MapLibrary

/-! ## A map -/

/-- A layer of a map: its kind, the shape it lets the user draw, and how many features it
shows. -/
structure Layer where
  kind : LayerKind
  mode : Option ShapeKind := none
  features : Nat := 0
deriving DecidableEq, Repr

/-- The state of one map. -/
structure MapState where
  layers : List (LayerHandle × Layer) := []
  subscriptions : List (SubscriptionId × LayerHandle) := []
  nextLayer : Nat := 1
  nextSubscription : Nat := 1
  tornDown : Bool := false
deriving DecidableEq, Repr

namespace MapState

/-- The layer behind a handle. -/
def layer? (layer : LayerHandle) (m : MapState) : Option Layer := m.layers.lookup layer

/-- The layer a call is about, if there still is one. -/
def entry (layer : LayerHandle) (m : MapState) : Except ViewportError Layer :=
  if m.tornDown then .error .tornDown
  else
    match m.layer? layer with
    | some entry => .ok entry
    | none => .error (.unknownLayer layer)

/-- The map with another entry for a layer. -/
def put (layer : LayerHandle) (entry : Layer) (m : MapState) : MapState :=
  { m with layers := m.layers.map fun (h, e) => if h = layer then (h, entry) else (h, e) }

end MapState

/-- A map in use, and the library it comes from. -/
structure Viewport where
  library : MapLibrary := {}
  map : MapState := {}
deriving Repr

namespace Viewport

/-- The map in a new state, and the call that led there on record. -/
def commit (v : Viewport) (m : MapState) (c : Call) : Viewport :=
  { library := v.library.record c, map := m }

/-- Carry out a call that can fail, unless a fault is armed for it. -/
def attempt {α : Type} (call : FallibleCall) (act : Viewport → Except ViewportError α × Viewport)
    (v : Viewport) : Except ViewportError α × Viewport :=
  match v.library.fault? call with
  | some (e, library) => (.error e, { v with library })
  | none => act v

/-! ## Calls that can fail -/

/-- Add a layer. -/
def createLayer (kind : LayerKind) : Viewport → Except ViewportError LayerHandle × Viewport :=
  attempt .createLayer fun v =>
    if v.map.tornDown then (.error .tornDown, v)
    else
      let layer : LayerHandle := ⟨v.map.nextLayer⟩
      let map :=
        { v.map with
          layers := v.map.layers ++ [(layer, { kind })]
          nextLayer := v.map.nextLayer + 1 }
      (.ok layer, v.commit map (.createLayer layer kind))

/-- Let the user draw shapes of a kind on a drawing layer, or none any more. -/
def setInteractionMode (layer : LayerHandle) (mode : Option ShapeKind) :
    Viewport → Except ViewportError Unit × Viewport :=
  attempt .setInteractionMode fun v =>
    match v.map.entry layer with
    | .error e => (.error e, v)
    | .ok entry =>
      if entry.kind = .annotationDraw then
        (.ok (), v.commit (v.map.put layer { entry with mode }) (.setInteractionMode layer mode))
      else (.error (.unsupported layer entry.kind .interactionModes), v)

/-- Be told of the shapes drawn on a layer. -/
def subscribe (layer : LayerHandle) :
    Viewport → Except ViewportError SubscriptionId × Viewport :=
  attempt .subscribe fun v =>
    match v.map.entry layer with
    | .error e => (.error e, v)
    | .ok _ =>
      let subscription : SubscriptionId := ⟨v.map.nextSubscription⟩
      let map :=
        { v.map with
          subscriptions := v.map.subscriptions ++ [(subscription, layer)]
          nextSubscription := v.map.nextSubscription + 1 }
      (.ok subscription, v.commit map (.subscribe layer subscription))

/-- Show more geometry on a layer for features. The geometry counts as handed over even if the
layer does not take it. -/
def readGeometry (layer : LayerHandle) (geometry : FeatureCollection) (v : Viewport) :
    Except ViewportError Unit × Viewport :=
  let library := { v.library with submitted := v.library.submitted ++ [geometry] }
  let count := geometry.features.length
  attempt .readGeometry
    (fun v =>
      match v.map.entry layer with
      | .error e => (.error e, v)
      | .ok entry =>
        if entry.kind = .feature then
          let map := v.map.put layer { entry with features := entry.features + count }
          (.ok (), v.commit map (.readGeometry layer count))
        else (.error (.unsupported layer entry.kind .geometryImport), v))
    { v with library }

/-! ## Calls that cannot fail -/

/-- Delete a layer and the subscriptions to it. A layer that is not there is no error. -/
def deleteLayer (layer : LayerHandle) (v : Viewport) : Viewport :=
  let map :=
    { v.map with
      layers := v.map.layers.filter (·.1 ≠ layer)
      subscriptions := v.map.subscriptions.filter (·.2 ≠ layer) }
  v.commit map (.deleteLayer layer)

/-- End a subscription. -/
def unsubscribe (subscription : SubscriptionId) (v : Viewport) : Viewport :=
  let map :=
    { v.map with subscriptions := v.map.subscriptions.filter (·.1 ≠ subscription) }
  v.commit map (.unsubscribe subscription)

/-- Ask for a repaint. -/
def draw (v : Viewport) : Viewport := v.commit v.map .draw

/-- Give up the map with all its layers. -/
def teardown (v : Viewport) : Viewport :=
  v.commit { v.map with layers := [], subscriptions := [], tornDown := true } .teardown

end Viewport

/-! ## Building a map -/

namespace MapLibrary

/-- Build a map. A map of an image without extent is refused. -/
def createMap (params : MapParams) (l : MapLibrary) : Except ViewportError MapState × MapLibrary :=
  match l.fault? .createMap with
  | some (e, l) => (.error e, l)
  | none =>
    let width := params.maxBounds.right
    let height := params.maxBounds.bottom
    if width ≤ 0.0 ∨ height ≤ 0.0 then (.error (.mapConstruction "image has no extent"), l)
    else (.ok {}, l.record (.createMap width height params.maxLevel))

end MapLibrary

end ImageOverlay
