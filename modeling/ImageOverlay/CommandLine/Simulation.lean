import ImageOverlay.CommandLine.Arguments
import ImageOverlay.Viewer.Loop

set_option autoImplicit false

/-!
# Simulation

A whole session without a user: the image is put on a map, one session is started, a given shape
is drawn in it, and the viewer is shut down. What comes out is everything that the application was
told, the region, if one was asked for, and every call to the map.
-/

namespace ImageOverlay

open CommandLine (ImageOptions)

/-- What a tile server would say about an image, with the number of levels found by a given rule. -/
def CommandLine.ImageOptions.infoBy (rule : LevelRule) (i : ImageOptions) : TileInfo :=
  let tileWidth := atLeastOne i.tileWidth
  let tileHeight := atLeastOne i.tileHeight
  let across :=
    tilesAcross i.width.toFloat i.height.toFloat tileWidth.toFloat tileHeight.toFloat
  { levels := rule.covering across + 1
    sizeX := i.width
    sizeY := i.height
    tileWidth
    tileHeight }

/-- What a tile server would say about an image. -/
def CommandLine.ImageOptions.info (i : ImageOptions) : TileInfo := i.infoBy .exact

/-- What a simulation has to tell. -/
structure SimulationReport where
  events : List Notification
  region : Option Region
  calls : List Call

/-- A report as an object; without a region there is no member for one. -/
def SimulationReport.toJson (r : SimulationReport) : Json :=
  .obj ([("events", .arr (r.events.map Notification.toJson))] ++
    Json.member? "region" (r.region.map Region.toJson) ++
    [("calls", .arr (r.calls.map Call.toJson))])

/-- Why there is no report. -/
inductive SimulationError where
  | notRendered
  | regionOfOther (kind : ShapeKind)
  | notStarted
deriving DecidableEq, Repr

/-- The error in words. -/
def SimulationError.message : SimulationError → String
  | .notRendered => "image could not be rendered"
  | .regionOfOther kind => "regions are drawn as rectangles, got a " ++ kind.name
  | .notStarted => "draw session did not start"

namespace Simulation

/-- The loop with the image on its map. -/
def rendered (settings : Settings) (image : ImageOptions) (supply : Identity.Supply) : Loop :=
  let viewer : Viewer :=
    { settings, attached := true, image := some ⟨image.item, image.info⟩, supply }
  (Loop.sendCommand .render { viewer }).dispatch

/-- The loop when the shape was drawn and the viewer shut down, if a session waits for it. -/
def drawn? (drawn : Drawn) (l : Loop) : Option Loop :=
  l.viewer.draw.activeLayer?.map fun layer =>
    ((l.sendEvent (.annotationChanged layer drawn)).dispatch.sendCommand .shutdown).run

/-- The command that starts the session, and the slot for its region. -/
def request (region : Bool) (drawn : Drawn) (l : Loop) :
    Except SimulationError (Command × Option SlotId × Loop) :=
  if region then
    if drawn.kind = .rectangle then
      let (slot, slots) := l.viewer.slots.create
      .ok (.drawRegion (some slot), some slot, { l with viewer := { l.viewer with slots } })
    else .error (.regionOfOther drawn.kind)
  else .ok (.startDrawing drawn.kind (some {}), none, l)

/-- Everything that is to be told of a loop. -/
def report (slot : Option SlotId) (l : Loop) : SimulationReport :=
  { events := l.viewer.bus.published
    region := slot.bind fun s => l.viewer.slots.region? s
    calls := l.viewer.library.log }

end Simulation

open Simulation in
/-- Draw one shape on an image, and ask for its region if `region` is set. -/
def simulate (settings : Settings) (image : ImageOptions) (drawn : Drawn) (region : Bool)
    (supply : Identity.Supply) : Except SimulationError SimulationReport :=
  let l := rendered settings image supply
  if l.viewer.isRendered then
    match request region drawn l with
    | .error e => .error e
    | .ok (command, slot, l) =>
      match drawn? drawn (l.sendCommand command).dispatch with
      | some l => .ok (report slot l)
      | none => .error .notStarted
  else .error .notRendered

end ImageOverlay
