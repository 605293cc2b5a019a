import ImageOverlay.Viewer.Basic

set_option autoImplicit false

/-!
# Runs of a viewer

A viewer lives through a list of operations, in any order. Those who use it call its functions,
hold and drop requests, hand it the events of the map and at some time give it up; in between the
map library may be made to refuse its next call of a kind. `Operation` names all of this,
`Viewer.perform` carries one operation out, and `Viewer.run` a list of them.

Everything the other modules say of a viewer they say of a run from `Viewer.fresh`.
-/

namespace ImageOverlay

/-- What can happen to a viewer. After `drop` a viewer is given up; whoever holds one of its
requests may still look at it, and nothing stated here depends on what else may follow. -/
inductive Operation where
  | attach
  | setImage (item : String) (info : TileInfo)
  | render
  | addOverlay (d : Document)
  | removeOverlay (id : String)
  | clearOverlays
  | startDrawing (shape : ShapeKind) (options : Option DrawOptions)
  | drawRegion (slot : Option SlotId)
  | poll (request : RequestId)
  | pollRegion (request : RegionRequest)
  | dropRequest (request : RequestId)
  | handle (e : ViewportEvent)
  | cancelDrawing
  | retireLayers
  | destroy
  | drop
  | arm (call : FallibleCall) (e : ViewportError)

namespace Viewer

/-- A viewer before anything has happened to it. -/
def fresh (settings : Settings) (supply : Identity.Supply) (drains : DrainOrders) (bus : Bus) :
    Viewer :=
  { settings, supply, overlays := { drains }, bus }

/-- Carry out one operation. -/
def perform (v : Viewer) : Operation → Viewer
  | .attach => v.attach
  | .setImage item info => v.setImage item info
  | .render => v.render.2
  | .addOverlay d => Prod.snd <| v.renderAnnotation d
  | .removeOverlay id => Prod.snd <| v.unrenderAnnotation id
  | .clearOverlays => v.clearAnnotations.2
  | .startDrawing shape options => (v.startDrawing shape options).2
  | .drawRegion slot => (v.drawRegion slot).2
  | .poll request => (v.poll request).2
  | .pollRegion request => (v.pollRegion request).2
  | .dropRequest request => v.dropRequest request
  | .handle e => (v.handle e).2
  | .cancelDrawing => v.cancelDrawing.2
  | .retireLayers => v.retireLayers.2
  | .destroy => v.destroy
  | .drop => v.drop
  | .arm call e => { v with library := v.library.arm call e }

/-- Carry out operations, one after the other. -/
def run (v : Viewer) (ops : List Operation) : Viewer := ops.foldl perform v

/-- The operations that put an image on the map. -/
def opening : List Operation :=
  [.attach,
    .setImage "item-1"
      { levels := 5, sizeX := 4000, sizeY := 3000, tileWidth := 256, tileHeight := 256 },
    .render]

/-- A viewer with an image on the map, to start examples from. -/
def rendered : Viewer := (fresh {} { bits := fun _ => 0 } (fun _ => .arrival) {}).run opening

@[simp] theorem run_nil (v : Viewer) : v.run [] = v := rfl

@[simp] theorem run_cons (v : Viewer) (op : Operation) (ops : List Operation) :
    v.run (op :: ops) = (v.perform op).run ops := rfl

theorem run_append (v : Viewer) (first second : List Operation) :
    v.run (first ++ second) = (v.run first).run second := by
  simp [run, List.foldl_append]

/-- **Invariants of runs.** What every operation preserves holds after every run. -/
theorem run_invariant {P : Viewer → Prop} (hstep : ∀ v op, P v → P (v.perform op))
    {v : Viewer} (hv : P v) (ops : List Operation) : P (v.run ops) := by
  induction ops generalizing v with
  | nil => exact hv
  | cons op ops ih => exact ih (hstep v op hv)

end Viewer

end ImageOverlay
