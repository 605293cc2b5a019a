import ImageOverlay.Viewer.Basic

set_option autoImplicit false

/-!
# The loop

The loop hands the events of the map and the commands of the application to the viewer, one after
the other, each from a queue of its own. After every one of them the tasks that wait for a request
run until none of them can go on: whoever waits for a session sees its answer before anything else
happens, and in particular before the layer of the session is deleted.

The layers of sessions that are over are deleted at the end of the turn, once for the whole turn,
if the settings ask for it.
-/

namespace ImageOverlay

/-- What the application asks for. -/
inductive Command where
  | render
  | startDrawing (shape : ShapeKind) (options : Option DrawOptions)
  | drawRegion (slot : Option SlotId)
  | cancelDrawing
  | shutdown
deriving DecidableEq, Repr

/-- What a task waits for. -/
inductive Task where
  | shape (request : RequestId)
  | region (request : RegionRequest)
deriving DecidableEq, Repr

/-- The request a task waits for. -/
def Task.request : Task → RequestId
  | .shape request => request
  | .region r => r.request

/-- What a task has got. -/
inductive TaskResult where
  | shape (r : DrawResult)
  | region (r : Except DrawError Region)

/-- A task that is over, and how many layers had been deleted by then. -/
structure FinishedTask where
  task : Task
  deleted : Nat
  result : TaskResult

/-- The loop: the viewer, the queues, the tasks that wait, in the order in which they were
started, and those that are over. -/
structure Loop where
  viewer : Viewer
  events : List ViewportEvent := []
  commands : List Command := []
  waiting : List Task := []
  finished : List FinishedTask := []
  retireScheduled : Bool := false
  shouldExit : Bool := false

namespace Loop

/-! ## Sending -/

/-- Queue an event of the map. -/
def sendEvent (e : ViewportEvent) (l : Loop) : Loop := { l with events := l.events ++ [e] }

/-- Queue a command. -/
def sendCommand (c : Command) (l : Loop) : Loop := { l with commands := l.commands ++ [c] }

/-- Start a task. -/
def spawn (t : Task) (l : Loop) : Loop := { l with waiting := l.waiting ++ [t] }

/-! ## Tasks -/

/-- Let a task look at its request. -/
def runTask (l : Loop) (t : Task) : Loop :=
  let deleted := l.viewer.library.deletions.length
  match t with
  | .shape request =>
    match l.viewer.poll request with
    | (.ready r, viewer) =>
      { l with viewer, finished := l.finished ++ [⟨t, deleted, .shape r⟩] }
    | (_, viewer) => { l with viewer, waiting := l.waiting ++ [t] }
  | .region request =>
    match l.viewer.pollRegion request with
    | (.ready r, viewer) =>
      { l with viewer, finished := l.finished ++ [⟨t, deleted, .region r⟩] }
    | (_, viewer) => { l with viewer, waiting := l.waiting ++ [t] }

/-- Let every task look at its request. A task starts no session and answers no request, so once
each is enough. -/
def runTasks (l : Loop) : Loop := l.waiting.foldl runTask { l with waiting := [] }

/-! ## Handling -/

/-- Hand one event to the viewer. -/
def handleEvent (l : Loop) (e : ViewportEvent) : Loop :=
  let (retire, viewer) := l.viewer.handle e
  let l := runTasks { l with viewer }
  { l with retireScheduled := l.retireScheduled || retire }

/-- Carry out a command, as far as the viewer lets it. -/
def carryOut (l : Loop) : Command → Loop
  | .render => { l with viewer := l.viewer.render.2 }
  | .startDrawing shape options =>
    match l.viewer.startDrawing shape options with
    | (.ok request, viewer) => spawn (.shape request) { l with viewer }
    | (.error _, viewer) => { l with viewer }
  | .drawRegion slot =>
    match l.viewer.drawRegion slot with
    | (.ok request, viewer) => spawn (.region request) { l with viewer }
    | (.error _, viewer) => { l with viewer }
  | .cancelDrawing => { l with viewer := l.viewer.cancelDrawing.2 }
  | .shutdown => { l with viewer := l.viewer.destroy, shouldExit := true }

/-- Carry out one command and let the tasks run. -/
def handleCommand (l : Loop) (c : Command) : Loop := (l.carryOut c).runTasks

/-- The end of a turn: delete the layers that retire, if that was scheduled. -/
def endTurn (l : Loop) : Loop :=
  if l.retireScheduled then { l with viewer := l.viewer.retireLayers.2, retireScheduled := false }
  else l

/-- One turn: everything in the queues, the end of the turn, and the tasks once more. -/
def dispatch (l : Loop) : Loop :=
  let events := l.events
  let commands := l.commands
  let l := events.foldl handleEvent { l with events := [], commands := [] }
  (commands.foldl handleCommand l).endTurn.runTasks

/-- Turns until the loop is told to exit. A turn takes everything from the queues, so if it does
not exit then it waits for more. -/
def run (l : Loop) : Loop := if l.shouldExit then l else l.dispatch

end Loop

end ImageOverlay
