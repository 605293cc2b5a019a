import ImageOverlay.Draw.Mode
import ImageOverlay.Overlay.Basic
import ImageOverlay.Settings.Basic

set_option autoImplicit false

/-!
# The viewer

A viewer shows one image on one map, with the annotations on top of it and the draw mode. It
builds the map once the map library is there and the image is known, and nothing but the viewer
lets the overlays or the draw mode touch the map. What needs a map does nothing before there is
one.

The record of calls, the notifications, the requests and the slots for regions belong to the
viewer here, although others read them too: whatever a request or a slot shows was put there by
the viewer.
-/

namespace ImageOverlay

/-- The image to show. -/
structure ImageSource where
  item : String
  info : TileInfo
deriving DecidableEq, Repr

/-- A viewer. The library is where its maps come from; it is only used once it is `attached`. -/
structure Viewer where
  settings : Settings := {}
  library : MapLibrary := {}
  attached : Bool := false
  image : Option ImageSource := none
  map : Option MapState := none
  overlays : Overlays := {}
  draw : DrawMode := {}
  bus : Bus := {}
  slots : RegionSlots := {}
  supply : Identity.Supply

/-- A request for a region, and the slot the region goes to. -/
structure RegionRequest where
  request : RequestId
  slot : SlotId
deriving DecidableEq, Repr

namespace Viewer

/-! ## The image and its map -/

/-- The map library is there. -/
def attach (v : Viewer) : Viewer := { v with attached := true }

/-- Choose the image. A map that is there already stays as it is. -/
def setImage (item : String) (info : TileInfo) (v : Viewer) : Viewer :=
  { v with image := some { item, info } }

/-- Whether there is a map. -/
def isRendered (v : Viewer) : Bool := v.map.isSome

/-- The parameters of the map of the image. -/
def mapParams? (v : Viewer) : Option MapParams :=
  v.image.map fun image => v.settings.mapParams image.item image.info

/-- The viewer after its map was used. -/
def withViewport (p : Viewport) (v : Viewer) : Viewer :=
  { v with library := p.library, map := some p.map }

/-- Build the map of an image and its layer of tiles. A map that refuses the layer is torn down
again. -/
def build (params : MapParams) (library : MapLibrary) :
    Except ViewportError MapState × MapLibrary :=
  match library.createMap params with
  | (.error e, library) => (.error e, library)
  | (.ok map, library) =>
    match Viewport.createLayer .tile { library, map } with
    | (.error e, p) => (.error e, p.teardown.library)
    | (.ok _, p) => (.ok p.map, p.draw.library)

/-- Build the map, if it is not there yet, and tell the application. The answer is `false` as long
as the library or an image with proper sizes is missing. -/
def render (v : Viewer) : Except ViewportError Bool × Viewer :=
  if v.isRendered then (.ok true, v)
  else
    match v.image.filter (·.info.isUsable) with
    | none => (.ok false, v)
    | some image =>
      if v.attached then
        match build (v.settings.mapParams image.item image.info) v.library with
        | (.error e, library) => (.error e, { v with library })
        | (.ok map, library) =>
          let shown := .imageRendered image.item image.info.sizeX image.info.sizeY
          (.ok true, { v with library, map := some map, bus := v.bus.publish shown })
      else (.ok false, v)

/-! ## Annotations -/

/-- Show an annotation on a layer of its own, in place of an earlier showing of it. There is no
layer before there is a map. -/
def renderAnnotation (d : Document) (v : Viewer) :
    Except ViewportError (Option LayerHandle) × Viewer :=
  match v.map with
  | none => (.ok none, v)
  | some map =>
    let (r, overlays, p) := v.overlays.render v.settings.style d { library := v.library, map }
    (r.map some, { v.withViewport p with overlays })

/-- Take an annotation off the map; `false` if it is not shown. -/
def unrenderAnnotation (id : String) (v : Viewer) : Bool × Viewer :=
  match v.map with
  | none => (false, v)
  | some map =>
    let (found, overlays, p) := v.overlays.remove id { library := v.library, map }
    (found, { v.withViewport p with overlays })

/-- Take all annotations off the map; the number says how many they were. -/
def clearAnnotations (v : Viewer) : Nat × Viewer :=
  match v.map with
  | none => (0, v)
  | some map =>
    let (count, overlays, p) := v.overlays.clear { library := v.library, map }
    (count, { v.withViewport p with overlays })

/-! ## Drawing -/

/-- Start a session, with the options of the settings if none are given. -/
def startDrawing (shape : ShapeKind) (options : Option DrawOptions) (v : Viewer) :
    Except DrawError RequestId × Viewer :=
  match v.map with
  | none => (.error .missingViewport, v)
  | some map =>
    let options := options.getD v.settings.drawOptions
    let (r, draw, p) := v.draw.start shape options { library := v.library, map }
    (r, { v.withViewport p with draw })

/-- Ask for a rectangle whose region goes into a slot, a new one if none is given. The application
is not told of the element. -/
def drawRegion (slot : Option SlotId) (v : Viewer) : Except DrawError RegionRequest × Viewer :=
  match v.startDrawing .rectangle (some .silent) with
  | (.error e, v) => (.error e, v)
  | (.ok request, v) =>
    match slot with
    | some slot => (.ok { request, slot }, v)
    | none =>
      let (slot, slots) := v.slots.create
      (.ok { request, slot }, { v with slots })

/-- Look at a request and take its answer. -/
def poll (request : RequestId) (v : Viewer) : Poll DrawResult × Viewer :=
  let (answer, requests) := v.draw.requests.poll request
  (answer, { v with draw := { v.draw with requests } })

/-- Look at a request for a region. A region that is there goes into its slot. -/
def pollRegion (r : RegionRequest) (v : Viewer) : Poll (Except DrawError Region) × Viewer :=
  let (answer, v) := v.poll r.request
  let answer := answer.map DrawResult.region
  match answer with
  | .ready (.ok region) => (answer, { v with slots := v.slots.put r.slot region })
  | _ => (answer, v)

/-- Drop a request. -/
def dropRequest (request : RequestId) (v : Viewer) : Viewer :=
  { v with draw := { v.draw with requests := v.draw.requests.drop request } }

/-- End the session that waits, without a shape. -/
def cancelDrawing (v : Viewer) : Bool × Viewer :=
  match v.map with
  | none => (false, v)
  | some map =>
    let (found, draw, p) := v.draw.cancel { library := v.library, map }
    (found, { v.withViewport p with draw })

/-- Delete the layers that retire. -/
def retireLayers (v : Viewer) : Nat × Viewer :=
  match v.map with
  | none => (0, v)
  | some map =>
    let (count, draw, p) := v.draw.retire { library := v.library, map }
    (count, { v.withViewport p with draw })

/-! ## Events of the map -/

/-- Take note of an event of the map. The answer is `true` if a session is over and its layer is
to be deleted on the next turn of the loop. -/
def handle (e : ViewportEvent) (v : Viewer) : Bool × Viewer :=
  match e with
  | .annotationChanged layer drawn =>
    let (resolved, draw, bus, supply) := v.draw.annotationChanged layer drawn v.bus v.supply
    (resolved && v.settings.draw.retireOn == .nextTurn, { v with draw, bus, supply })
  | .drawPassComplete =>
    (false, if v.settings.draw.retireOn = .drawPass then v.retireLayers.2 else v)

/-! ## The end of a map -/

/-- End the session that waits, delete all layers of sessions and annotations and tear the map
down. The viewer can be rendered again. -/
def destroy (v : Viewer) : Viewer :=
  match v.map with
  | none => v
  | some map =>
    let (_, draw, p) := v.draw.cancel { library := v.library, map }
    let (_, draw, p) := draw.retire p
    let (_, overlays, p) := v.overlays.clear p
    { v with library := p.teardown.library, map := none, overlays, draw }

/-- Give the viewer up. -/
def drop (v : Viewer) : Viewer :=
  let v := v.destroy
  { v with draw := v.draw.abandon }

/-- A new viewer with the same settings in place of one that is given up. Whoever held a request
of the old one still holds it. -/
def renew (v : Viewer) : Viewer :=
  let v := v.drop
  { v with attached := false, image := none, overlays := { drains := v.overlays.drains } }

end Viewer

end ImageOverlay
