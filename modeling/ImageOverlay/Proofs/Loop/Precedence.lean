import ImageOverlay.Proofs.Loop.Tasks
import ImageOverlay.Proofs.Viewer.Pending

set_option autoImplicit false

/-!
# The first session wins

A start would take the place of a session whose request was dropped. In a loop that is driven by
messages alone this does not happen: the request went to a task, and the task waits until the
session is over (`Attended`). So a start finds the request held and is refused, and the loop is
afterwards what it was before, tasks and slots included. The session ends by a drawing on its layer,
a cancellation or a shutdown, and by nothing else (`Input.Ends`).

This depends on who drives the loop. `Step` lets its owner start sessions himself and drop their
requests; `Driven` does not.
-/

namespace ImageOverlay

/-- What ends the session on a layer. -/
def Input.Ends (layer : LayerHandle) : Input → Prop
  | .event (.annotationChanged changed drawn) => changed = layer ∧ drawn.state = .done
  | .command .cancelDrawing => True
  | .command .shutdown => True
  | _ => False

theorem Input.verdict?_eq_none {i : Input} {layer : LayerHandle} {supply : Identity.Supply} :
    i.operation.verdict? layer supply = none ↔ ¬ i.Ends layer := by
  cases i with
  | fault call e => exact iff_of_true rfl id
  | command c =>
      cases c with
      | render | startDrawing | drawRegion => exact iff_of_true rfl id
      | cancelDrawing | shutdown => exact iff_of_false (Option.some_ne_none _) fun h => h trivial
  | event e =>
      cases e with
      | drawPassComplete => exact iff_of_true rfl id
      | annotationChanged changed drawn =>
          rw [Input.operation, Operation.verdict?_annotationChanged, ite_eq_right_iff]
          exact forall_congr' fun _ => iff_of_false (Option.some_ne_none _) id

/-! ## A viewer whose session is in the way -/

namespace Viewer

variable {v : Viewer} {s : DrawSession}

/-- A start is refused as long as somebody holds the request of the session that waits, and the
viewer is as before. -/
theorem startDrawing_busy (h : v.InOrder) (hs : v.draw.active = some s)
    (hheld : v.draw.requests.isHeld s.request = true) (shape : ShapeKind)
    (options : Option DrawOptions) :
    v.startDrawing shape options = (.error .sessionBusy, v) := by
  cases hmap : v.map with
  | none =>
      rw [((inOrder_iff_of_none hmap).1 h).1] at hs
      cases hs
  | some m =>
      simp only [startDrawing, hmap, DrawMode.start_eq_busy hs hheld, withViewport]
      rw [← hmap]

theorem drawRegion_busy (h : v.InOrder) (hs : v.draw.active = some s)
    (hheld : v.draw.requests.isHeld s.request = true) (slot : Option SlotId) :
    v.drawRegion slot = (.error .sessionBusy, v) := by
  simp only [drawRegion, startDrawing_busy h hs hheld]

/-- While its request is held, the session that waits is still there after an operation exactly if
there is no verdict on it. -/
theorem perform_active_of_held (h : v.InOrder) (hs : v.draw.active = some s)
    (hheld : v.draw.requests.isHeld s.request = true) (op : Operation) :
    (v.perform op).draw.active = some s ↔ op.verdict? s.layer v.supply = none := by
  have hissued : op.issued? v = none := by
    cases op with
    | startDrawing shape options =>
        simp [Operation.issued?, startDrawing_busy h hs hheld, Except.toOption]
    | drawRegion slot => simp [Operation.issued?, drawRegion_busy h hs hheld, Except.toOption]
    | attach | setImage | render | addOverlay | removeOverlay | clearOverlays | poll | pollRegion
    | dropRequest | handle | cancelDrawing | retireLayers | destroy | drop | arm => rfl
  rw [perform_active_of_not_issued h hissued, goingOn?, hs, Option.filter_some]
  simp [goesOn, DrawSession.opening, hheld]

/-- A pending request stays pending while tasks look at theirs. -/
theorem pending_look {request : RequestId}
    (hpending : v.draw.requests.known? request = some none) (t : Task) :
    (v.perform t.look).draw.requests.known? request = some none := by
  have hrequests : (v.perform t.look).draw.requests = (v.draw.requests.poll t.request).2 := by
    cases t with
    | shape request => rfl
    | region q =>
        obtain ⟨slots, heq⟩ := pollRegion_eq v q
        exact congrArg (fun w => w.draw.requests) heq
  rw [hrequests, Requests.known?_poll, if_neg fun hpolled => hpolled.2 hpending]
  exact hpending

end Viewer

namespace Loop

open Viewer (Past)

variable {l l' : Loop} {s : DrawSession}

/-! ## A loop at rest -/

/-- No task that waits could go on. -/
def AtRest (l : Loop) : Prop :=
  ∀ t ∈ l.waiting, l.viewer.draw.requests.known? t.request = some none

theorem runTask_atRest {t : Task} (hrest : AtRest l)
    (hheld : l.viewer.draw.requests.known? t.request ≠ none) : AtRest (l.runTask t) := by
  cases hknown : l.viewer.draw.requests.known? t.request with
  | none => exact absurd hknown hheld
  | some a =>
      cases a with
      | none =>
          rw [runTask_of_pending hknown]
          intro u hu
          rcases List.mem_append.1 hu with hu | hu
          · exact hrest u hu
          · rw [List.mem_singleton.1 hu]
            exact hknown
      | some r =>
          rw [runTask_of_answered hknown]
          exact fun u hu => Viewer.pending_look (hrest u hu) t

theorem foldl_runTask_atRest {tasks : List Task} (h : l.viewer.Serves (l.waiting ++ tasks))
    (hrest : AtRest l) : AtRest (tasks.foldl runTask l) := by
  induction tasks generalizing l with
  | nil => exact hrest
  | cons t tasks ih =>
      have hheld := h.held t (List.mem_append_right _ List.mem_cons_self)
      exact ih (runTask_serves h) (runTask_atRest hrest hheld)

/-- When all tasks have looked at their requests, no task that still waits could go on. -/
theorem Sound.runTasks_atRest (h : l.Sound) : AtRest l.runTasks :=
  foldl_runTask_atRest (l := { l with waiting := [] }) h (by simp [AtRest])

theorem foldl_runTask_of_pending {tasks : List Task}
    (hpending : ∀ t ∈ tasks, l.viewer.draw.requests.known? t.request = some none) :
    tasks.foldl runTask l = { l with waiting := l.waiting ++ tasks } := by
  induction tasks generalizing l with
  | nil => rw [List.append_nil, List.foldl_nil]
  | cons t tasks ih =>
      rw [List.foldl_cons, runTask_of_pending (hpending t List.mem_cons_self), ih, List.append_assoc]
      · rfl
      · exact fun u hu => hpending u (List.mem_cons_of_mem _ hu)

/-- Nothing happens while no task can go on. -/
theorem AtRest.runTasks_eq (h : AtRest l) : l.runTasks = l :=
  foldl_runTask_of_pending (l := { l with waiting := [] }) h

/-! ## Every session has a task -/

/-- A task waits for the session. -/
def Attended (l : Loop) : Prop :=
  ∀ s, l.viewer.draw.active = some s → ∃ t ∈ l.waiting, t.request = s.request

/-- Where no session starts, the one that waits has its task already. -/
theorem Attended.perform (h : Attended l) (hinOrder : l.viewer.InOrder) (op : Operation)
    (hop : op.issued? l.viewer = none) :
    Attended { l with viewer := l.viewer.perform op } := by
  intro s hs
  rw [Viewer.perform_active_of_not_issued hinOrder hop] at hs
  exact h s (Option.filter_eq_some_iff.1 hs).1

theorem Attended.runTasks (h : Attended l) (hsound : l.Sound) : Attended l.runTasks := by
  obtain ⟨requests, slots, waiting, finished, heq⟩ := l.runTasks_frame
  intro s hs
  have hbefore : l.viewer.draw.active = some s := by
    rw [heq] at hs
    exact hs
  obtain ⟨t, ht, hrequest⟩ := h s hbefore
  rcases hsound.runTasks_waits ht with hwaits | hover
  · exact ⟨t, hwaits, hrequest⟩
  · exact absurd hrequest.symm (hover.2 s hs)

/-- The request of a session that starts goes to a task. -/
theorem task?_of_issued {c : Command} {v : Viewer} {request : RequestId}
    (h : c.operation.issued? v = some request) : ∃ t, c.task? v = some t ∧ t.request = request := by
  cases c with
  | render | cancelDrawing | shutdown => cases h
  | startDrawing shape options =>
      have hresult : (v.startDrawing shape options).1.toOption = some request := h
      exact ⟨.shape request, by simp [Command.task?, hresult], rfl⟩
  | drawRegion slot =>
      obtain ⟨q, hq, rfl⟩ := Option.map_eq_some_iff.1 h
      exact ⟨.region q, by simp [Command.task?, hq], rfl⟩

theorem Attended.carryOut (h : Attended l) (hsound : l.Sound) (c : Command) :
    Attended (l.carryOut c) := by
  rw [carryOut_eq]
  cases hissued : c.operation.issued? l.viewer with
  | none =>
      intro s hs
      obtain ⟨t, ht, hrequest⟩ := h.perform hsound.inOrder _ hissued s hs
      exact ⟨t, List.mem_append_left _ ht, hrequest⟩
  | some request =>
      -- The session that waits now is the new one, and the command has just started its task.
      obtain ⟨t, htask, hrequest⟩ := task?_of_issued hissued
      obtain ⟨started, hactive, hstarted, -⟩ := Viewer.started_of_issued hsound.inOrder hissued
      intro s hs
      obtain rfl := Option.some.inj (hactive.symm.trans hs)
      refine ⟨t, ?_, hrequest.trans hstarted.symm⟩
      rw [htask]
      exact List.mem_append_right _ List.mem_cons_self

/-! ## A loop that is driven by messages -/

theorem Live.step (h : Live l) (hstep : Step l l') : Live l' := by
  obtain ⟨settings, supply, drains, bus, ops, hsteps⟩ := h
  exact ⟨settings, supply, drains, bus, ops, hsteps.tail hstep⟩

/-- **What messages make of a loop** that took over a viewer without a session, whatever had
happened to the viewer before. The events and commands are handled in any order, the map library
may refuse any of its calls, and turns end. -/
inductive Driven : Loop → Prop
  | start (settings : Settings) (supply : Identity.Supply) (drains : DrainOrders) (bus : Bus)
      (ops : List Operation)
      (hidle : ((Viewer.fresh settings supply drains bus).run ops).draw.active = none) :
      Driven { viewer := (Viewer.fresh settings supply drains bus).run ops }
  | queue {l : Loop} (h : Driven l) (events : List ViewportEvent) (commands : List Command) :
      Driven { l with events, commands }
  | handle {l : Loop} (h : Driven l) (i : Input) : Driven (l.handle i)
  | finish {l : Loop} (h : Driven l) : Driven l.endTurn.runTasks

namespace Driven

theorem live (h : Driven l) : Live l := by
  induction h with
  | start settings supply drains bus ops _ => exact ⟨settings, supply, drains, bus, ops, .refl⟩
  | queue _ events commands ih => exact ih.step (.queue _ events commands)
  | handle _ i ih => exact ih.step (.handle _ i)
  | finish _ ih => exact ih.step (.finish _)

theorem sound (h : Driven l) : l.Sound := h.live.sound

theorem atRest (h : Driven l) : AtRest l := by
  induction h with
  | start => simp [AtRest]
  | queue _ _ _ ih => exact ih
  | finish h _ => exact h.sound.endTurn.runTasks_atRest
  | handle h i ih =>
      cases i with
      | event e => exact (h.sound.afterEvent e).runTasks_atRest
      | command c => exact (h.sound.carryOut c).runTasks_atRest
      | fault call e => exact ih

theorem attended (h : Driven l) : Attended l := by
  induction h with
  | start _ _ _ _ _ hidle =>
      intro s hs
      rw [hidle] at hs
      cases hs
  | queue _ _ _ ih => exact ih
  | finish h ih =>
      refine Attended.runTasks ?_ h.sound.endTurn
      unfold endTurn
      split
      · exact ih.perform h.sound.inOrder .retireLayers rfl
      · exact ih
  | handle h i ih =>
      cases i with
      | event e =>
          exact (ih.perform h.sound.inOrder (.handle e) rfl).runTasks (h.sound.afterEvent e)
      | command c => exact (ih.carryOut h.sound c).runTasks (h.sound.carryOut c)
      | fault call e => exact ih

theorem expected (h : Driven l) : Viewer.Expected l.viewer.draw := by
  obtain ⟨settings, supply, drains, bus, ops, hsteps⟩ := h.live
  obtain ⟨more, hmore⟩ := hsteps.viewer
  rw [hmore, ← Viewer.run_append]
  exact Viewer.expected_run (.fresh settings supply drains bus)
    (Viewer.expected_fresh settings supply drains bus) (ops ++ more)

/-- The task that waits for the session is the only one that waits. -/
theorem waiting_eq (h : Driven l) (hs : l.viewer.draw.active = some s) :
    ∃ t, l.waiting = [t] ∧ t.request = s.request := by
  have hall : ∀ t ∈ l.waiting, t.request = s.request := by
    intro t ht
    obtain ⟨session, hactive, hrequest⟩ := h.expected t.request (h.atRest t ht)
    obtain rfl := Option.some.inj (hs.symm.trans hactive)
    exact hrequest.symm
  have hdistinct := h.sound.distinct
  obtain ⟨t, ht, hrequest⟩ := h.attended s hs
  cases hwaiting : l.waiting with
  | nil =>
      rw [hwaiting] at ht
      cases ht
  | cons first rest =>
      rw [hwaiting] at hall hdistinct
      cases rest with
      | nil => exact ⟨first, rfl, hall first List.mem_cons_self⟩
      | cons second rest =>
          -- Two tasks would wait for one request.
          have hsame : first.request = second.request :=
            (hall first List.mem_cons_self).trans
              (hall second (List.mem_cons_of_mem _ List.mem_cons_self)).symm
          rw [List.map_cons, List.map_cons, List.nodup_cons, hsame] at hdistinct
          exact absurd List.mem_cons_self hdistinct.1

theorem held (h : Driven l) (hs : l.viewer.draw.active = some s) :
    l.viewer.draw.requests.isHeld s.request = true := by
  obtain ⟨t, ht, hrequest⟩ := h.attended s hs
  have hknown := h.sound.held t ht
  rw [hrequest] at hknown
  cases hheld : l.viewer.draw.requests.isHeld s.request with
  | true => rfl
  | false => exact absurd (Requests.isHeld_eq_false.1 hheld) hknown

/-! ## How a session ends -/

/-- A start is refused, and nothing has changed. -/
theorem start_refused (h : Driven l) (hs : l.viewer.draw.active = some s) {c : Command}
    (hstart : c.operation.isStart = true) : l.handle (.command c) = l := by
  have hcarried : l.carryOut c = l := by
    cases c with
    | render | cancelDrawing | shutdown => cases hstart
    | startDrawing shape options =>
        simp only [carryOut, Viewer.startDrawing_busy h.sound.inOrder hs (h.held hs)]
    | drawRegion slot =>
        simp only [carryOut, Viewer.drawRegion_busy h.sound.inOrder hs (h.held hs)]
  show (l.carryOut c).runTasks = l
  rw [hcarried, h.atRest.runTasks_eq]

theorem handle_active (h : Driven l) (hs : l.viewer.draw.active = some s) (i : Input) :
    (l.handle i).viewer.draw.active = some s ↔ ¬ i.Ends s.layer := by
  obtain ⟨requests, slots, waiting, finished, heq⟩ := l.handle_frame i
  rw [heq, ← Input.verdict?_eq_none]
  exact Viewer.perform_active_of_held h.sound.inOrder hs (h.held hs) i.operation

/-- The end of a turn is not the end of a session. -/
theorem finish_active (l : Loop) : l.endTurn.runTasks.viewer.draw.active = l.viewer.draw.active := by
  obtain ⟨requests, slots, waiting, finished, heq⟩ := l.endTurn.runTasks_frame
  rw [heq]
  show l.endTurn.viewer.draw.active = l.viewer.draw.active
  rw [endTurn_viewer]
  split
  · exact Viewer.retireLayers_active l.viewer
  · rfl

/-- A session that is over does not come back. -/
theorem active_of_steps (h : Driven l) (hs : l.viewer.draw.active = some s) {middle : Loop}
    (hsteps : Steps l middle) (hlater : Steps middle l')
    (hs' : l'.viewer.draw.active = some s) : middle.viewer.draw.active = some s := by
  obtain ⟨ops, hops⟩ := hsteps.viewer
  obtain ⟨more, hmore⟩ := hlater.viewer
  rw [hmore] at hs'
  refine Viewer.active_of_run (hsteps.sound h.sound).toRegular hs' ?_
  rw [hops]
  exact Nat.lt_of_lt_of_le (h.sound.unanswered s hs).1 (Viewer.next_le_run h.sound.toRegular ops)

theorem handleAll_active (h : Driven l) (hs : l.viewer.draw.active = some s)
    (inputs : List Input) :
    (l.handleAll inputs).viewer.draw.active = some s ↔ ∀ i ∈ inputs, ¬ i.Ends s.layer := by
  induction inputs generalizing l with
  | nil => exact iff_of_true hs (by simp)
  | cons i inputs ih =>
      rw [handleAll_cons, List.forall_mem_cons, ← h.handle_active hs i]
      by_cases hstays : (l.handle i).viewer.draw.active = some s
      · rw [ih (h.handle i) hstays]
        exact ⟨fun hrest => ⟨hstays, hrest⟩, And.right⟩
      · -- The first input ended the session, and no later one brings it back.
        have hstep : Steps l (l.handle i) := .single (.handle l i)
        refine iff_of_false (fun hlater => ?_) fun hboth => hstays hboth.1
        exact hstays (h.active_of_steps hs hstep (steps_handleAll _ inputs) hlater)

theorem turn_active (h : Driven l) (hs : l.viewer.draw.active = some s) (inputs : List Input) :
    (l.turn inputs).viewer.draw.active = some s ↔ ∀ i ∈ inputs, ¬ i.Ends s.layer := by
  rw [turn, finish_active]
  exact h.handleAll_active hs inputs

theorem handleAll (h : Driven l) (inputs : List Input) : Driven (l.handleAll inputs) := by
  induction inputs generalizing l with
  | nil => exact h
  | cons i inputs ih => exact ih (h.handle i)

theorem turn (h : Driven l) (inputs : List Input) : Driven (l.turn inputs) :=
  (h.handleAll inputs).finish

theorem turns (h : Driven l) (batches : List (List Input)) : Driven (l.turns batches) := by
  induction batches generalizing l with
  | nil => exact h
  | cons inputs batches ih => exact ih (h.turn inputs)

theorem turns_active (h : Driven l) (hs : l.viewer.draw.active = some s)
    (batches : List (List Input)) :
    (l.turns batches).viewer.draw.active = some s
      ↔ ∀ inputs ∈ batches, ∀ i ∈ inputs, ¬ i.Ends s.layer := by
  induction batches generalizing l with
  | nil => exact iff_of_true hs (by simp)
  | cons inputs batches ih =>
      rw [List.forall_mem_cons, ← h.turn_active hs inputs]
      by_cases hstays : (l.turn inputs).viewer.draw.active = some s
      · refine (ih (h.turn inputs) hstays).trans ?_
        exact ⟨fun hrest => ⟨hstays, hrest⟩, And.right⟩
      · refine iff_of_false (fun hlater => ?_) fun hboth => hstays hboth.1
        exact hstays (h.active_of_steps hs (steps_turn l inputs) (steps_turns _ batches) hlater)

/-- What the queues hold is what a dispatch deals with. -/
theorem dispatch_active (h : Driven l) (hs : l.viewer.draw.active = some s) :
    l.dispatch.viewer.draw.active = some s
      ↔ (∀ e ∈ l.events, ¬ (Input.event e).Ends s.layer) ∧
        ∀ c ∈ l.commands, ¬ (Input.command c).Ends s.layer := by
  rw [dispatch_eq_turn, (h.queue [] []).turn_active hs, List.forall_mem_append, List.forall_mem_map,
    List.forall_mem_map]

theorem dispatch (h : Driven l) : Driven l.dispatch := by
  rw [dispatch_eq_turn]
  exact (h.queue [] []).turn _

end Driven

/-- **A session that prevails.** One task waits, and it waits for this session. Whoever asks for
another session is refused, and the loop is what it was. The session is over when its drawing is
done, when it is cancelled and when the loop shuts down, and not before. -/
structure Prevails (l : Loop) (s : DrawSession) : Prop where
  task : ∃ t, l.waiting = [t] ∧ t.request = s.request
  held : l.viewer.draw.requests.isHeld s.request = true
  evict : ∀ p, l.viewer.draw.evict p = (l.viewer.draw, p)
  busy : ∀ shape options, l.viewer.startDrawing shape options = (.error .sessionBusy, l.viewer)
  busyRegion : ∀ slot, l.viewer.drawRegion slot = (.error .sessionBusy, l.viewer)
  refused : ∀ c, c.operation.isStart = true → l.handle (.command c) = l
  stays : ∀ inputs, (l.handleAll inputs).viewer.draw.active = some s ↔
    ∀ i ∈ inputs, ¬ i.Ends s.layer
  staysOverTurns : ∀ batches, (l.turns batches).viewer.draw.active = some s ↔
    ∀ inputs ∈ batches, ∀ i ∈ inputs, ¬ i.Ends s.layer
  dispatched : l.dispatch.viewer.draw.active = some s ↔
    (∀ e ∈ l.events, ¬ (Input.event e).Ends s.layer) ∧
      ∀ c ∈ l.commands, ¬ (Input.command c).Ends s.layer

/-- **The first session wins.** In a loop that is driven by messages, the session that waits stays
until its drawing is done or it is called off, whatever other sessions are asked for. -/
theorem first_prevails (h : Driven l) (hs : l.viewer.draw.active = some s) : Prevails l s where
  task := h.waiting_eq hs
  held := h.held hs
  evict := by
    intro p
    refine DrawMode.evict_eq_self fun session hactive => ?_
    obtain rfl := Option.some.inj (hs.symm.trans hactive)
    exact h.held hs
  busy := Viewer.startDrawing_busy h.sound.inOrder hs (h.held hs)
  busyRegion := Viewer.drawRegion_busy h.sound.inOrder hs (h.held hs)
  refused := fun _ hstart => h.start_refused hs hstart
  stays := h.handleAll_active hs
  staysOverTurns := h.turns_active hs
  dispatched := h.dispatch_active hs

/-- A loop on which a region was asked for while a point is drawn. -/
def overlapping : Loop :=
  turns { viewer := Viewer.rendered }
    [[.command (.startDrawing .point none)], [.command (.drawRegion none)]]

/-- The session for the point. -/
def pointSession : DrawSession where
  shape := .point
  layer := ⟨2⟩
  subscription := ⟨1⟩
  options := Settings.drawOptions {}
  request := ⟨0⟩

theorem first_prevails_of_overlapping :
    Driven overlapping ∧ overlapping.viewer.draw.active = some pointSession ∧
      Prevails overlapping pointSession := by
  have hdriven : Driven overlapping :=
    (Driven.start {} { bits := fun _ => 0 } (fun _ => .arrival) {} Viewer.opening
      (by decide)).turns _
  have hactive : overlapping.viewer.draw.active = some pointSession := by decide
  exact ⟨hdriven, hactive, first_prevails hdriven hactive⟩

end Loop

end ImageOverlay
