import ImageOverlay.Proofs.Viewer.Layers
import ImageOverlay.Viewer.Loop

set_option autoImplicit false

/-!
# Turns of a loop

In a turn the loop takes events and commands from its queues, and nothing is known of the order in
which the two queues are served, nor of how many messages a turn finds there. So a turn is given
here by a list of inputs in the order in which they are handled; between two of them the map
library may begin to refuse calls of a kind. `Loop.dispatch` is the turn that serves the events
first (`Loop.dispatch_eq_turn`).

Whatever a loop does to its viewer are operations of the viewer: one for each input, and a look at
a request for each task that runs afterwards (`Loop.handle_eq`). What all operations preserve is
therefore preserved by loops.
-/

namespace ImageOverlay

/-- What a turn has to deal with. -/
inductive Input where
  | event (e : ViewportEvent)
  | command (c : Command)
  | fault (call : FallibleCall) (e : ViewportError)

/-- The operation a command asks for. -/
def Command.operation : Command → Operation
  | .render => .render
  | .startDrawing shape options => .startDrawing shape options
  | .drawRegion slot => .drawRegion slot
  | .cancelDrawing => .cancelDrawing
  | .shutdown => .destroy

/-- The task a command starts, if it starts a session. -/
def Command.task? (v : Viewer) : Command → Option Task
  | .startDrawing shape options => (v.startDrawing shape options).1.toOption.map .shape
  | .drawRegion slot => (v.drawRegion slot).1.toOption.map .region
  | _ => none

/-- The operation an input comes down to. -/
def Input.operation : Input → Operation
  | .event e => .handle e
  | .command c => c.operation
  | .fault call e => .arm call e

/-- Whether an input ends a session whose layer is then to be deleted at the end of the turn. -/
def Input.retires (v : Viewer) : Input → Bool
  | .event e => (v.handle e).1
  | _ => false

/-- Whether an input tells the loop to exit. -/
def Input.isShutdown : Input → Bool
  | .command .shutdown => true
  | _ => false

/-- How a task looks at its request. -/
def Task.look : Task → Operation
  | .shape request => .poll request
  | .region r => .pollRegion r

namespace Loop

/-- Deal with one input. -/
def handle (l : Loop) : Input → Loop
  | .event e => l.handleEvent e
  | .command c => l.handleCommand c
  | .fault call e => { l with viewer := l.viewer.perform (.arm call e) }

/-- Deal with inputs, one after the other. -/
def handleAll (l : Loop) (inputs : List Input) : Loop := inputs.foldl handle l

/-- One turn: the inputs, the end of the turn, and the tasks once more. -/
def turn (l : Loop) (inputs : List Input) : Loop := (l.handleAll inputs).endTurn.runTasks

/-- One turn after the other. -/
def turns (l : Loop) (batches : List (List Input)) : Loop := batches.foldl turn l

variable {l : Loop}

@[simp] theorem handleAll_cons (l : Loop) (i : Input) (inputs : List Input) :
    l.handleAll (i :: inputs) = (l.handle i).handleAll inputs := rfl

theorem handleAll_append (l : Loop) (first second : List Input) :
    l.handleAll (first ++ second) = (l.handleAll first).handleAll second := by
  simp [handleAll, List.foldl_append]

/-- A dispatch is a turn: first come the events that were queued, then the commands. -/
theorem dispatch_eq_turn (l : Loop) :
    l.dispatch = turn { l with events := [], commands := [] }
      (l.events.map .event ++ l.commands.map .command) := by
  have hevents : ∀ start : Loop,
      start.handleAll (l.events.map .event) = l.events.foldl handleEvent start := by
    intro start
    rw [handleAll, List.foldl_map]
    rfl
  have hcommands : ∀ start : Loop,
      start.handleAll (l.commands.map .command) = l.commands.foldl handleCommand start := by
    intro start
    rw [handleAll, List.foldl_map]
    rfl
  rw [turn, handleAll_append, hevents, hcommands]
  rfl

/-! ## Tasks -/

/-- A task looks at its request, and goes on waiting or is over. -/
theorem runTask_eq (l : Loop) (t : Task) : ∃ waiting finished,
    l.runTask t = { l with viewer := l.viewer.perform t.look, waiting, finished } := by
  cases t with
  | shape request =>
      simp only [runTask, Task.look, Viewer.perform]
      generalize l.viewer.poll request = polled
      obtain ⟨answer, viewer⟩ := polled
      cases answer <;> exact ⟨_, _, rfl⟩
  | region r =>
      simp only [runTask, Task.look, Viewer.perform]
      generalize l.viewer.pollRegion r = polled
      obtain ⟨answer, viewer⟩ := polled
      cases answer <;> exact ⟨_, _, rfl⟩

theorem foldl_runTask_eq (tasks : List Task) (l : Loop) : ∃ waiting finished,
    tasks.foldl runTask l
      = { l with viewer := l.viewer.run (tasks.map Task.look), waiting, finished } := by
  induction tasks generalizing l with
  | nil => exact ⟨l.waiting, l.finished, rfl⟩
  | cons t tasks ih =>
      obtain ⟨waiting, finished, hfirst⟩ := l.runTask_eq t
      rw [List.foldl_cons, hfirst]
      exact ih _

/-- To run the tasks is to look at all requests they wait for. -/
theorem runTasks_eq (l : Loop) : ∃ waiting finished,
    l.runTasks
      = { l with viewer := l.viewer.run (l.waiting.map Task.look), waiting, finished } :=
  foldl_runTask_eq l.waiting { l with waiting := [] }

/-- To look at requests takes answers and fills slots, and does nothing else. -/
theorem run_looks_eq (tasks : List Task) (v : Viewer) : ∃ requests slots,
    v.run (tasks.map Task.look) = { v with draw := { v.draw with requests }, slots } := by
  induction tasks generalizing v with
  | nil => exact ⟨v.draw.requests, v.slots, rfl⟩
  | cons t tasks ih =>
      have hfirst : ∃ requests slots,
          v.perform t.look = { v with draw := { v.draw with requests }, slots } := by
        cases t with
        | shape request => exact ⟨_, v.slots, rfl⟩
        | region r =>
            obtain ⟨slots, heq⟩ := Viewer.pollRegion_eq v r
            exact ⟨_, slots, heq⟩
      obtain ⟨requests, slots, heq⟩ := hfirst
      rw [List.map_cons, Viewer.run_cons, heq]
      exact ih _

/-- Tasks change nothing but requests and slots of the viewer. -/
theorem foldl_runTask_frame (tasks : List Task) (l : Loop) : ∃ requests slots waiting finished,
    tasks.foldl runTask l
      = { l with
          viewer := { l.viewer with draw := { l.viewer.draw with requests }, slots }
          waiting
          finished } := by
  obtain ⟨waiting, finished, heq⟩ := foldl_runTask_eq tasks l
  obtain ⟨requests, slots, hlooks⟩ := run_looks_eq tasks l.viewer
  exact ⟨requests, slots, waiting, finished, by rw [heq, hlooks]⟩

theorem runTasks_frame (l : Loop) : ∃ requests slots waiting finished,
    l.runTasks
      = { l with
          viewer := { l.viewer with draw := { l.viewer.draw with requests }, slots }
          waiting
          finished } :=
  foldl_runTask_frame l.waiting { l with waiting := [] }

/-! ## Inputs -/

/-- A command may start a task, and only a shutdown ends the loop. -/
theorem carryOut_eq (l : Loop) (c : Command) :
    l.carryOut c
      = { l with
          viewer := l.viewer.perform c.operation
          waiting := l.waiting ++ (c.task? l.viewer).toList
          shouldExit := l.shouldExit || (Input.command c).isShutdown } := by
  cases c with
  | render | cancelDrawing | shutdown =>
      simp [carryOut, Command.operation, Command.task?, Viewer.perform, Input.isShutdown]
  | startDrawing shape options =>
      simp only [carryOut, Command.operation, Command.task?, Viewer.perform, Input.isShutdown,
        Bool.or_false]
      generalize l.viewer.startDrawing shape options = started
      obtain ⟨result, viewer⟩ := started
      cases result with
      | error e => simp [Except.toOption]
      | ok request => rfl
  | drawRegion slot =>
      simp only [carryOut, Command.operation, Command.task?, Viewer.perform, Input.isShutdown,
        Bool.or_false]
      generalize l.viewer.drawRegion slot = started
      obtain ⟨result, viewer⟩ := started
      cases result with
      | error e => simp [Except.toOption]
      | ok request => rfl

/-- **An input is an operation, after which the tasks run.** -/
theorem handle_eq (l : Loop) (i : Input) : ∃ looks waiting finished,
    l.handle i
      = { l with
          viewer := (l.viewer.perform i.operation).run (List.map Task.look looks)
          waiting
          finished
          retireScheduled := l.retireScheduled || i.retires l.viewer
          shouldExit := l.shouldExit || i.isShutdown } := by
  cases i with
  | event e =>
      obtain ⟨waiting, finished, htasks⟩ := runTasks_eq { l with viewer := (l.viewer.handle e).2 }
      refine ⟨l.waiting, waiting, finished, ?_⟩
      simp only [handle, handleEvent, htasks, Input.retires, Input.isShutdown, Bool.or_false]
      rfl
  | command c =>
      obtain ⟨waiting, finished, htasks⟩ := runTasks_eq (l.carryOut c)
      refine ⟨(l.carryOut c).waiting, waiting, finished, ?_⟩
      show (l.carryOut c).runTasks = _
      rw [htasks, carryOut_eq]
      simp [Input.retires, Input.operation]
  | fault call e =>
      refine ⟨[], l.waiting, l.finished, ?_⟩
      simp [handle, Input.operation, Input.retires, Input.isShutdown]

/-- An input is an operation, but for requests and slots. -/
theorem handle_frame (l : Loop) (i : Input) : ∃ requests slots waiting finished,
    l.handle i
      = { l with
          viewer :=
            { l.viewer.perform i.operation with
              draw := { (l.viewer.perform i.operation).draw with requests }
              slots }
          waiting
          finished
          retireScheduled := l.retireScheduled || i.retires l.viewer
          shouldExit := l.shouldExit || i.isShutdown } := by
  obtain ⟨looks, waiting, finished, heq⟩ := l.handle_eq i
  obtain ⟨requests, slots, hlooks⟩ := run_looks_eq looks (l.viewer.perform i.operation)
  exact ⟨requests, slots, waiting, finished, by rw [heq, hlooks]⟩

/-- At the end of a turn the layers that retire are deleted, if that was scheduled. -/
theorem endTurn_viewer (l : Loop) :
    l.endTurn.viewer = if l.retireScheduled then l.viewer.perform .retireLayers else l.viewer := by
  unfold endTurn
  split <;> rfl

/-! ## A loop as a run of its viewer -/

theorem handle_viewer (l : Loop) (i : Input) : ∃ ops, (l.handle i).viewer = l.viewer.run ops := by
  obtain ⟨looks, waiting, finished, heq⟩ := l.handle_eq i
  exact ⟨i.operation :: List.map Task.look looks, by rw [heq, Viewer.run_cons]⟩

theorem handleAll_viewer (l : Loop) (inputs : List Input) :
    ∃ ops, (l.handleAll inputs).viewer = l.viewer.run ops := by
  induction inputs generalizing l with
  | nil => exact ⟨[], rfl⟩
  | cons i inputs ih =>
      obtain ⟨first, hfirst⟩ := l.handle_viewer i
      obtain ⟨later, hlater⟩ := ih (l.handle i)
      refine ⟨first ++ later, ?_⟩
      rw [handleAll_cons, hlater, hfirst, Viewer.run_append]

theorem finish_viewer (l : Loop) : ∃ ops, l.endTurn.runTasks.viewer = l.viewer.run ops := by
  obtain ⟨waiting, finished, heq⟩ := runTasks_eq l.endTurn
  rw [heq, endTurn_viewer]
  split
  · exact ⟨.retireLayers :: List.map Task.look l.endTurn.waiting, rfl⟩
  · exact ⟨List.map Task.look l.endTurn.waiting, rfl⟩

theorem turn_viewer (l : Loop) (inputs : List Input) :
    ∃ ops, (l.turn inputs).viewer = l.viewer.run ops := by
  obtain ⟨first, hfirst⟩ := l.handleAll_viewer inputs
  obtain ⟨last, hlast⟩ := (l.handleAll inputs).finish_viewer
  refine ⟨first ++ last, ?_⟩
  rw [turn, hlast, hfirst, Viewer.run_append]

/-- **Whatever turns do to a viewer are operations of the viewer.** -/
theorem turns_viewer (l : Loop) (batches : List (List Input)) :
    ∃ ops, (l.turns batches).viewer = l.viewer.run ops := by
  induction batches generalizing l with
  | nil => exact ⟨[], rfl⟩
  | cons inputs batches ih =>
      obtain ⟨first, hfirst⟩ := l.turn_viewer inputs
      obtain ⟨later, hlater⟩ := ih (l.turn inputs)
      refine ⟨first ++ later, ?_⟩
      show ((l.turn inputs).turns batches).viewer = _
      rw [hlater, hfirst, Viewer.run_append]

end Loop

end ImageOverlay
