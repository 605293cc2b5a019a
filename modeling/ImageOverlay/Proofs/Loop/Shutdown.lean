import ImageOverlay.Proofs.Loop.Turns
import ImageOverlay.Proofs.Viewer.Answers
import ImageOverlay.Proofs.Viewer.Record

set_option autoImplicit false

/-!
# After a shutdown

A shutdown takes the map away, and a viewer without a map calls no map library and tells the
application nothing, whatever else it is asked for: there is no session to end, no layer to delete,
and none to draw on. All but one operation leave it as it is (`Viewer.perform_unrendered`); the
exception is to put the image on the map again.

The loop looks whether it is to exit between turns only, so that in the turn of the shutdown this
exception counts: an image that is asked for behind the shutdown is on the map when the loop returns
(`Loop.rendered_after_shutdown`). Where none is asked for, the loop is over for good.
-/

namespace ImageOverlay

namespace Viewer

variable {v : Viewer} {op : Operation}

/-- **A viewer without a map is quiet.** Only to render it makes a call or tells the application
something. -/
theorem perform_unrendered (h : v.InOrder) (hmap : v.map = none) (hop : op ≠ .render) :
    (v.perform op).map = none ∧ (v.perform op).library.log = v.library.log ∧
      (v.perform op).bus = v.bus := by
  have hretire : v.retireLayers.2 = v := by
    simp only [retireLayers, hmap]
  have hstart : ∀ shape options, (v.startDrawing shape options).2 = v := by
    intro shape options
    simp only [startDrawing, hmap]
  have hdestroy : v.destroy = v := by
    simp only [destroy, hmap]
  cases op with
  | render => exact absurd rfl hop
  | attach | setImage | poll | dropRequest | arm => exact ⟨hmap, rfl, rfl⟩
  | addOverlay d => simp only [perform, Viewer.renderAnnotation, hmap, and_self]
  | removeOverlay id => simp only [perform, Viewer.unrenderAnnotation, hmap, and_self]
  | clearOverlays => simp only [perform, clearAnnotations, hmap, and_self]
  | cancelDrawing => simp only [perform, cancelDrawing, hmap, and_self]
  | startDrawing shape options => simp only [perform, hstart, hmap, and_self]
  | retireLayers => simp only [perform, hretire, hmap, and_self]
  | destroy => simp only [perform, hdestroy, hmap, and_self]
  | drop => simp only [perform, drop, hdestroy, hmap, and_self]
  | drawRegion slot =>
      obtain ⟨slots, heq⟩ := drawRegion_eq slot v
      rw [perform, heq, hstart]
      exact ⟨hmap, rfl, rfl⟩
  | pollRegion r =>
      obtain ⟨slots, heq⟩ := pollRegion_eq v r
      rw [perform, heq]
      exact ⟨hmap, rfl, rfl⟩
  | handle e =>
      cases e with
      | annotationChanged layer drawn =>
          -- Without a map no session waits, so nobody is concerned.
          have hidle := ((inOrder_iff_of_none hmap).1 h).1
          have hforeign : ∀ s ∈ v.draw.active, s.layer = layer → drawn.state ≠ .done := by
            simp [hidle]
          simp only [perform, handle, DrawMode.annotationChanged_eq_self hforeign, hmap, and_self]
      | drawPassComplete => simp only [perform, handle, hretire, ite_self, hmap, and_self]

end Viewer

/-- The image is asked for by one command only. -/
theorem Input.operation_ne_render {i : Input} (hi : i ≠ .command .render) :
    i.operation ≠ .render := by
  cases i with
  | event | fault => simp [operation]
  | command c => cases c <;> simp_all [operation, Command.operation]

namespace Loop

variable {l l' : Loop}

/-- What others see of a loop: the calls to the map library, and what the application was told. -/
def trace (l : Loop) : List Call × Bus := (l.viewer.library.log, l.viewer.bus)

/-- A loop that was told to exit and has no map. -/
structure Exited (l : Loop) : Prop where
  inOrder : l.viewer.InOrder
  exits : l.shouldExit = true
  unrendered : l.viewer.map = none

/-! ## Nothing follows -/

theorem Exited.handle {i : Input} (h : Exited l) (hi : i ≠ .command .render) :
    Exited (l.handle i) ∧ (l.handle i).trace = l.trace := by
  obtain ⟨requests, slots, waiting, finished, heq⟩ := l.handle_frame i
  obtain ⟨hmap, hlog, hbus⟩ := Viewer.perform_unrendered h.inOrder h.unrendered
    (Input.operation_ne_render hi)
  have hinOrder : (l.viewer.perform i.operation).InOrder :=
    (Viewer.perform_step h.inOrder i.operation).2
  have hexits : (l.shouldExit || i.isShutdown) = true := by rw [h.exits, Bool.true_or]
  rw [heq]
  exact ⟨⟨hinOrder, hexits, hmap⟩, Prod.ext hlog hbus⟩

theorem Exited.handleAll {inputs : List Input} (h : Exited l)
    (hinputs : .command .render ∉ inputs) :
    Exited (l.handleAll inputs) ∧ (l.handleAll inputs).trace = l.trace := by
  induction inputs generalizing l with
  | nil => exact ⟨h, rfl⟩
  | cons i inputs ih =>
      rw [List.mem_cons, not_or] at hinputs
      obtain ⟨hnext, htrace⟩ := h.handle (Ne.symm hinputs.1)
      obtain ⟨hend, htraces⟩ := ih hnext hinputs.2
      exact ⟨hend, htraces.trans htrace⟩

/-- At the end of the turn there are no layers to delete. -/
theorem Exited.finish (h : Exited l) :
    Exited l.endTurn.runTasks ∧ l.endTurn.runTasks.trace = l.trace := by
  have hretire : l.viewer.perform .retireLayers = l.viewer := by
    simp only [Viewer.perform, Viewer.retireLayers, h.unrendered]
  have hviewer : l.endTurn.viewer = l.viewer := by
    rw [endTurn_viewer, hretire, ite_self]
  have hexits : l.endTurn.shouldExit = l.shouldExit := by
    unfold endTurn
    split <;> rfl
  obtain ⟨requests, slots, waiting, finished, heq⟩ := l.endTurn.runTasks_frame
  rw [heq, hviewer, hexits]
  exact ⟨⟨h.inOrder, h.exits, h.unrendered⟩, rfl⟩

theorem Exited.turn {inputs : List Input} (h : Exited l) (hinputs : .command .render ∉ inputs) :
    Exited (l.turn inputs) ∧ (l.turn inputs).trace = l.trace := by
  obtain ⟨hhandled, htrace⟩ := h.handleAll hinputs
  obtain ⟨hfinished, htraces⟩ := hhandled.finish
  exact ⟨hfinished, htraces.trans htrace⟩

theorem Exited.turns {batches : List (List Input)} (h : Exited l)
    (hbatches : ∀ inputs ∈ batches, .command .render ∉ inputs) :
    Exited (l.turns batches) ∧ (l.turns batches).trace = l.trace := by
  induction batches generalizing l with
  | nil => exact ⟨h, rfl⟩
  | cons inputs batches ih =>
      rw [List.forall_mem_cons] at hbatches
      obtain ⟨hnext, htrace⟩ := h.turn hbatches.1
      obtain ⟨hend, htraces⟩ := ih hnext hbatches.2
      exact ⟨hend, htraces.trans htrace⟩

/-- A shutdown takes the map away, and the tasks that run then do not bring it back. -/
theorem exited_of_shutdown (h : l.viewer.InOrder) : Exited (l.handle (.command .shutdown)) := by
  obtain ⟨requests, slots, waiting, finished, heq⟩ := l.handle_frame (.command .shutdown)
  have hdestroyed : (l.viewer.perform .destroy).InOrder := (Viewer.perform_step h .destroy).2
  rw [heq]
  exact ⟨hdestroyed, by simp [Input.isShutdown], l.viewer.destroy_map⟩

/-! ## Turns until the exit -/

/-- Turns until the loop is told to exit. It looks for that between turns, and what is queued then
is left alone. -/
def serve (l : Loop) : List (List Input) → Loop
  | [] => l
  | inputs :: batches => if l.shouldExit then l else (l.turn inputs).serve batches

/-- A loop that is run serves the turn that is queued. -/
theorem run_eq_serve (l : Loop) (h : l.shouldExit = false) :
    l.run = serve { l with events := [], commands := [] }
      [l.events.map .event ++ l.commands.map .command] := by
  simp only [run, serve, h, Bool.false_eq_true, if_false]
  rw [dispatch_eq_turn, h]

theorem serve_viewer (l : Loop) (batches : List (List Input)) :
    ∃ ops, (l.serve batches).viewer = l.viewer.run ops := by
  induction batches generalizing l with
  | nil => exact ⟨[], rfl⟩
  | cons inputs batches ih =>
      unfold serve
      split
      · exact ⟨[], rfl⟩
      · obtain ⟨first, hfirst⟩ := l.turn_viewer inputs
        obtain ⟨later, hlater⟩ := ih (l.turn inputs)
        exact ⟨first ++ later, by rw [hlater, hfirst, Viewer.run_append]⟩

/-- The image is not asked for behind a shutdown. -/
def StaysShut (inputs : List Input) : Prop :=
  ∀ earlier later, inputs = earlier ++ .command .shutdown :: later → .command .render ∉ later

/-- Without a shutdown nothing tells the loop to exit. -/
theorem handleAll_shouldExit {inputs : List Input} (h : .command .shutdown ∉ inputs) (l : Loop) :
    (l.handleAll inputs).shouldExit = l.shouldExit := by
  induction inputs generalizing l with
  | nil => rfl
  | cons i inputs ih =>
      rw [List.mem_cons, not_or] at h
      obtain ⟨requests, slots, waiting, finished, heq⟩ := l.handle_frame i
      have hi : i.isShutdown = false := by
        cases i with
        | event | fault => rfl
        | command c => cases c <;> simp_all [Input.isShutdown]
      rw [handleAll_cons, ih h.2, heq, hi, Bool.or_false]

theorem finish_shouldExit (l : Loop) : l.endTurn.runTasks.shouldExit = l.shouldExit := by
  obtain ⟨requests, slots, waiting, finished, heq⟩ := l.endTurn.runTasks_frame
  rw [heq]
  show l.endTurn.shouldExit = l.shouldExit
  unfold endTurn
  split <;> rfl

/-- In a turn that tells the loop to exit the map goes and stays away. -/
theorem turn_exited {inputs : List Input} (h : l.viewer.InOrder) (hgoesOn : l.shouldExit = false)
    (hinputs : StaysShut inputs) (hexit : (l.turn inputs).shouldExit = true) :
    Exited (l.turn inputs) := by
  by_cases hshutdown : .command .shutdown ∈ inputs
  · obtain ⟨earlier, later, hsplit⟩ := List.append_of_mem hshutdown
    obtain ⟨ops, hops⟩ := l.handleAll_viewer earlier
    have hbefore : (l.handleAll earlier).viewer.InOrder := by
      rw [hops]
      exact h.run ops
    obtain ⟨hhandled, -⟩ := (exited_of_shutdown hbefore).handleAll (hinputs earlier later hsplit)
    rw [turn, hsplit, handleAll_append, handleAll_cons]
    exact hhandled.finish.1
  · rw [turn, finish_shouldExit, handleAll_shouldExit hshutdown, hgoesOn] at hexit
    cases hexit

theorem serve_exited {batches : List (List Input)} (h : l.viewer.InOrder)
    (hgoesOn : l.shouldExit = false) (hbatches : ∀ inputs ∈ batches, StaysShut inputs)
    (hexit : (l.serve batches).shouldExit = true) : Exited (l.serve batches) := by
  induction batches generalizing l with
  | nil =>
      rw [serve, hgoesOn] at hexit
      cases hexit
  | cons inputs batches ih =>
      rw [List.forall_mem_cons] at hbatches
      simp only [serve, hgoesOn, Bool.false_eq_true, if_false] at hexit ⊢
      cases hturn : (l.turn inputs).shouldExit with
      | true =>
          -- The loop looks whether to exit before it would serve another turn.
          have hstop : (l.turn inputs).serve batches = l.turn inputs := by
            cases batches <;> simp [serve, hturn]
          rw [hstop]
          exact turn_exited h hgoesOn hbatches.1 hturn
      | false =>
          obtain ⟨ops, hops⟩ := l.turn_viewer inputs
          have hnext : (l.turn inputs).viewer.InOrder := by
            rw [hops]
            exact h.run ops
          exact ih hnext hturn hbatches.2 hexit

/-! ## The loop is over -/

/-- **A loop that is over:** it exits before the next turn, the image is not on the map, no session
waits and no layer retires, and every map there ever was has been torn down. -/
structure Over (l : Loop) : Prop where
  exits : l.shouldExit = true
  unrendered : l.viewer.isRendered = false
  idle : l.viewer.draw.state = .idle
  tornDown : WellFormed l.viewer.library.log false

/-- A loop that is over, and from which nothing has been heard since. -/
structure Silent (l l' : Loop) : Prop extends Over l' where
  trace : l'.trace = l.trace

theorem Exited.idle (h : Exited l) : l.viewer.draw.state = .idle := by
  obtain ⟨hactive, hretiring, -⟩ := (Viewer.inOrder_iff_of_none h.unrendered).1 h.inOrder
  simp [DrawMode.state, hactive, hretiring]

theorem Exited.over (h : Exited l) {settings : Settings} {supply : Identity.Supply}
    {drains : DrainOrders} {bus : Bus}
    (hhistory : ∃ ops, l.viewer = (Viewer.fresh settings supply drains bus).run ops) : Over l where
  exits := h.exits
  unrendered := by rw [Viewer.isRendered, h.unrendered, Option.isSome_none]
  idle := h.idle
  tornDown := by
    obtain ⟨ops, hrun⟩ := hhistory
    have hlog := (Viewer.recorded_run settings supply drains bus ops).2.wellFormed
    rw [← hrun, Viewer.isRendered, h.unrendered] at hlog
    exact hlog

/-- What was torn down when the loop was told to exit still is, if nothing has been called since. -/
theorem Exited.silent (h : Exited l') (hover : Over l) (htrace : l'.trace = l.trace) :
    Silent l l' where
  exits := h.exits
  unrendered := by rw [Viewer.isRendered, h.unrendered, Option.isSome_none]
  idle := h.idle
  tornDown := by
    have hlog : l'.viewer.library.log = l.viewer.library.log := congrArg Prod.fst htrace
    rw [hlog]
    exact hover.tornDown
  trace := htrace

/-- **After a shutdown** nothing is called and nothing told, however its turn goes on and whatever
turns come after it, as long as nobody asks for the image. A loop that serves its turns until it
exits is over then, unless the image was asked for behind a shutdown and in the same turn. -/
theorem silent_after_shutdown (settings : Settings) (supply : Identity.Supply)
    (drains : DrainOrders) (bus : Bus)
    (ops : List Operation) (batches : List (List Input)) (earlier later : List Input)
    (rest : List (List Input)) (hlater : .command .render ∉ later)
    (hrest : ∀ inputs ∈ rest, .command .render ∉ inputs) :
    let start : Loop := { viewer := (Viewer.fresh settings supply drains bus).run ops }
    let l := (start.turns batches).handleAll (earlier ++ [.command .shutdown])
    Silent l (l.handleAll later) ∧ Silent l ((l.handleAll later).endTurn.runTasks.turns rest) ∧
      ((∀ inputs ∈ batches, StaysShut inputs) → (start.serve batches).shouldExit = true →
        Over (start.serve batches)) := by
  intro start l
  have hstart : start.viewer.InOrder := (Viewer.inOrder_fresh settings supply drains bus).run ops
  obtain ⟨before, hbefore⟩ := start.turns_viewer batches
  obtain ⟨first, hfirst⟩ := (start.turns batches).handleAll_viewer (earlier ++ [.command .shutdown])
  have hl : l.viewer
      = (Viewer.fresh settings supply drains bus).run (ops ++ (before ++ first)) := by
    rw [hfirst, hbefore, Viewer.run_append, Viewer.run_append]
  have hexited : Exited l := by
    obtain ⟨second, hsecond⟩ := (start.turns batches).handleAll_viewer earlier
    have hinOrder : ((start.turns batches).handleAll earlier).viewer.InOrder := by
      rw [hsecond, hbefore]
      exact (hstart.run before).run second
    show Exited ((start.turns batches).handleAll (earlier ++ [.command .shutdown]))
    rw [handleAll_append]
    exact exited_of_shutdown hinOrder
  have hover : Over l := hexited.over ⟨_, hl⟩
  obtain ⟨hhandled, hhandledTrace⟩ := hexited.handleAll hlater
  obtain ⟨hfinished, hfinishedTrace⟩ := hhandled.finish
  obtain ⟨hended, hendedTrace⟩ := hfinished.turns hrest
  refine ⟨hhandled.silent hover hhandledTrace,
    hended.silent hover (hendedTrace.trans (hfinishedTrace.trans hhandledTrace)), ?_⟩
  intro hbatches hexit
  obtain ⟨served, hserved⟩ := start.serve_viewer batches
  have hrun : (start.serve batches).viewer
      = (Viewer.fresh settings supply drains bus).run (ops ++ served) := by
    rw [hserved, Viewer.run_append]
  exact (serve_exited hstart rfl hbatches hexit).over ⟨_, hrun⟩

/-- A session, a region and a drawing that is done, all of them after a shutdown. -/
def lateInputs : List Input :=
  [.command (.startDrawing .point none), .command (.drawRegion none),
    .event (.annotationChanged ⟨2⟩ { kind := .point, coordinates := [⟨4.0, 9.0⟩] }),
    .command .cancelDrawing]

theorem silent_after_shutdown_of_lateInputs :
    .command .render ∉ lateInputs ∧ (∀ inputs ∈ [lateInputs], .command .render ∉ inputs) ∧
      Silent
        (handleAll { viewer := Viewer.rendered }
          [.command (.startDrawing .point none), .command .shutdown])
        (handleAll
          (handleAll { viewer := Viewer.rendered }
            [.command (.startDrawing .point none), .command .shutdown]) lateInputs) := by
  have hlater : .command .render ∉ lateInputs := by simp [lateInputs]
  have hrest : ∀ inputs ∈ [lateInputs], .command .render ∉ inputs := by simpa using hlater
  exact ⟨hlater, hrest, (silent_after_shutdown {} { bits := fun _ => 0 } (fun _ => .arrival) {}
    Viewer.opening [] [.command (.startDrawing .point none)] lateInputs [lateInputs] hlater
    hrest).1⟩

/-- An image that is asked for behind a shutdown in the same turn is on a new map when the loop
returns, and the application has been told so. -/
theorem rendered_after_shutdown :
    let l : Loop := { viewer := Viewer.rendered, commands := [.shutdown, .render] }
    l.shouldExit = false ∧ l.run.shouldExit = true ∧ l.run.viewer.isRendered = true ∧
      l.run.viewer.library.log
        = (l.handle (.command .shutdown)).viewer.library.log
          ++ [.createMap 4000.0 3000.0 4, .createLayer ⟨1⟩ .tile, .draw] ∧
      l.run.viewer.bus.published
        = (l.handle (.command .shutdown)).viewer.bus.published
          ++ [.imageRendered "item-1" 4000 3000] := by
  decide

end Loop

end ImageOverlay
