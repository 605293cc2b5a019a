import ImageOverlay.Proofs.Loop.Turns
import ImageOverlay.Proofs.Viewer.Sessions
import Mathlib.Logic.Relation

set_option autoImplicit false

/-!
# Tasks and the requests they wait for

A task waits for one request. It looks at it whenever tasks run, goes on waiting while there is no
answer, and is over once it has taken the answer. The request belongs to the task: nobody else looks
at it or drops it, and no other task waits for it (`Viewer.Serves`).

`Loop.Step` is everything that can happen to a loop between two messages or because of one, and also
what its owner can do to the viewer and the tasks in between. Whatever happens, a task waits until
its session is over (`Loop.waits_of_active`).
-/

namespace ImageOverlay

/-- What a task gets from an answer. -/
def Task.result (t : Task) (r : DrawResult) : TaskResult :=
  match t with
  | .shape _ => .shape r
  | .region _ => .region r.region

/-- Whether an operation may take a request away from whoever holds it. -/
def Operation.Takes (request : RequestId) (op : Operation) : Prop :=
  op.polled? = some request ∨ op = .dropRequest request

theorem Task.polled?_look (t : Task) : t.look.polled? = some t.request := by
  cases t <;> rfl

namespace Viewer

variable {v : Viewer} {op : Operation} {tasks : List Task}

/-- A request that is held stays held unless it is taken. -/
theorem Change.held {supply : Identity.Supply} {next : Option LayerHandle} {d d' : DrawMode}
    {request : RequestId} (h : Change op supply next d d') (hbelow : d.requests.Below)
    (hheld : d.requests.known? request ≠ none) (hop : ¬ op.Takes request) :
    d'.requests.known? request ≠ none := by
  cases h with
  | kept _ _ hrequests => rwa [hrequests]
  | evicted _ _ _ _ _ hrequests => rwa [hrequests]
  | started _ _ _ _ _ _ hrequests =>
      rw [hrequests, Requests.known?_create hbelow]
      split
      · simp
      · exact hheld
  | ended _ _ _ _ _ hrequests =>
      rw [hrequests, Requests.known?_answer]
      split
      · simpa using hheld
      · exact hheld
  | polled polled hpolled _ hrequests =>
      have hne : request ≠ polled := fun heq => hop (Or.inl (heq ▸ hpolled))
      rw [hrequests, Requests.known?_poll, if_neg fun heq => hne heq.1]
      exact hheld
  | dropped dropped hdropped _ hrequests =>
      have hne : request ≠ dropped := fun heq => hop (Or.inr (heq ▸ hdropped))
      rw [hrequests, Requests.known?_drop, if_neg hne]
      exact hheld

/-- **Every task has its request.** The requests that tasks wait for are held, and each by one task
only. -/
structure Serves (tasks : List Task) (v : Viewer) : Prop extends Attentive v where
  held : ∀ t ∈ tasks, v.draw.requests.known? t.request ≠ none
  distinct : (tasks.map Task.request).Nodup

/-- An operation that takes no task its request away. -/
theorem Serves.perform (h : v.Serves tasks) (hop : ∀ t ∈ tasks, ¬ op.Takes t.request) :
    (v.perform op).Serves tasks :=
  { h.toAttentive.perform op with
    held := fun t ht => (perform_change h.inOrder op).held h.below (h.held t ht) (hop t ht)
    distinct := h.distinct }

/-- What is asked of a viewer takes nobody's request away. -/
theorem not_takes_of_input (i : Input) (request : RequestId) : ¬ i.operation.Takes request := by
  rintro (hpolled | hdropped)
  · cases i with
    | event | fault => cases hpolled
    | command c => cases c <;> cases hpolled
  · cases i with
    | event | fault => cases hdropped
    | command c => cases c <;> cases hdropped

/-- What is over stays over. -/
theorem Past.run {request : RequestId} (hpast : Past request v.draw) (h : v.InOrder)
    (ops : List Operation) : Past request (v.run ops).draw := by
  induction ops generalizing v with
  | nil => exact hpast
  | cons op ops ih => exact ih ((perform_change h op).past hpast) (perform_step h op).2

/-- Whoever is given a request is given one that nobody has held before. -/
theorem known?_of_issued (h : v.Regular) {request : RequestId}
    (hissued : op.issued? v = some request) :
    v.draw.requests.known? request = none ∧
      (v.perform op).draw.requests.known? request ≠ none := by
  obtain ⟨-, -, -, -, hnew⟩ := started_of_issued h.inOrder hissued
  obtain ⟨s, ⟨-, hpending⟩, hrequest, -⟩ := awaits_of_issued h hissued
  constructor
  · rw [hnew]
    exact h.below _ (Nat.le_refl _)
  · rw [← hrequest, hpending]
    simp

end Viewer

namespace Loop

open Viewer (Past)

variable {l l' : Loop} {t : Task}

/-! ## One task -/

/-- Without an answer a task goes on waiting, behind those that looked before it. -/
theorem runTask_of_pending (h : l.viewer.draw.requests.known? t.request = some none) :
    l.runTask t = { l with waiting := l.waiting ++ [t] } := by
  have hpoll := Requests.poll_of_pending h
  cases t with
  | shape request => simp only [runTask, Viewer.poll, Task.request] at hpoll ⊢; simp only [hpoll]
  | region q =>
      simp only [runTask, Viewer.pollRegion, Viewer.poll, Task.request] at hpoll ⊢
      simp only [hpoll, Poll.map]

/-- With its answer a task is over. -/
theorem runTask_of_answered {r : DrawResult}
    (h : l.viewer.draw.requests.known? t.request = some (some r)) :
    l.runTask t
      = { l with
          viewer := l.viewer.perform t.look
          finished := l.finished ++ [⟨t, l.viewer.library.deletions.length, t.result r⟩] } := by
  have hpoll := Requests.poll_of_answered h
  cases t with
  | shape request =>
      simp only [runTask, Viewer.poll, Task.request, Task.look, Viewer.perform] at hpoll ⊢
      simp only [hpoll]
      rfl
  | region q =>
      simp only [runTask, Viewer.pollRegion, Viewer.poll, Task.request, Task.look, Viewer.perform]
        at hpoll ⊢
      simp only [hpoll, Poll.map]
      cases hregion : r.region <;> simp [Task.result, hregion]

/-- The region of an answer goes into the slot of the request. -/
theorem region?_of_answered {q : RegionRequest} {r : DrawResult} {region : Region}
    (h : l.viewer.draw.requests.known? q.request = some (some r))
    (hregion : r.region = .ok region) :
    (l.runTask (.region q)).viewer.slots.region? q.slot = some region := by
  have hpoll := Requests.poll_of_answered h
  have hslots : (l.viewer.perform (.pollRegion q)).slots = l.viewer.slots.put q.slot region := by
    simp only [Viewer.perform, Viewer.pollRegion, Viewer.poll, hpoll, Poll.map, hregion]
  rw [runTask_of_answered (t := .region q) h]
  show (l.viewer.perform (.pollRegion q)).slots.region? q.slot = some region
  rw [hslots]
  simp [RegionSlots.region?, RegionSlots.put]

/-- What a task has got stays on record. -/
theorem runTask_finished (l : Loop) (t : Task) : l.finished <+: (l.runTask t).finished := by
  cases t with
  | shape request =>
      simp only [runTask]
      generalize l.viewer.poll request = polled
      obtain ⟨answer, viewer⟩ := polled
      cases answer <;> simp
  | region q =>
      simp only [runTask]
      generalize l.viewer.pollRegion q = polled
      obtain ⟨answer, viewer⟩ := polled
      cases answer <;> simp

theorem foldl_runTask_finished (tasks : List Task) (l : Loop) :
    l.finished <+: (tasks.foldl runTask l).finished := by
  induction tasks generalizing l with
  | nil => exact List.prefix_refl _
  | cons t tasks ih => exact (l.runTask_finished t).trans (ih (l.runTask t))

/-! ## Tasks, one after the other -/

/-- A task that looks leaves the others what they have. -/
theorem runTask_serves {rest : List Task} (h : l.viewer.Serves (l.waiting ++ t :: rest)) :
    (l.runTask t).viewer.Serves ((l.runTask t).waiting ++ rest) := by
  have hheld := h.held t (List.mem_append_right _ List.mem_cons_self)
  cases hknown : l.viewer.draw.requests.known? t.request with
  | none => exact absurd hknown hheld
  | some a =>
      cases a with
      | none =>
          rw [runTask_of_pending hknown, List.append_assoc, List.singleton_append]
          exact h
      | some r =>
          -- The request goes with the task, so what counts is that no other task waits for it.
          rw [runTask_of_answered hknown]
          have hperm : (l.waiting ++ t :: rest).Perm (t :: (l.waiting ++ rest)) :=
            List.perm_middle
          have hdistinct := (hperm.map Task.request).nodup_iff.1 h.distinct
          rw [List.map_cons, List.nodup_cons] at hdistinct
          have hothers : l.viewer.Serves (l.waiting ++ rest) :=
            { h with
              held := fun u hu => h.held u (hperm.mem_iff.2 (List.mem_cons_of_mem _ hu))
              distinct := hdistinct.2 }
          refine hothers.perform fun u hu htakes => ?_
          have hsame : u.request = t.request := by
            rcases htakes with hpolled | hdropped
            · exact (Option.some.inj (t.polled?_look.symm.trans hpolled)).symm
            · cases t <;> cases hdropped
          exact hdistinct.1 (hsame ▸ List.mem_map_of_mem hu)

theorem foldl_runTask_serves {tasks : List Task} (h : l.viewer.Serves (l.waiting ++ tasks)) :
    (tasks.foldl runTask l).viewer.Serves (tasks.foldl runTask l).waiting := by
  induction tasks generalizing l with
  | nil =>
      rw [List.append_nil] at h
      exact h
  | cons t tasks ih => exact ih (runTask_serves h)

/-! ## Steps -/

/-- A loop whose tasks have their requests. -/
def Sound (l : Loop) : Prop := l.viewer.Serves l.waiting

theorem Sound.runTasks (h : l.Sound) : l.runTasks.Sound :=
  foldl_runTask_serves (l := { l with waiting := [] }) h

/-- **What can happen to a loop.** Messages come in and are handled in any order, turns end, and in
between the owner of the loop may use the viewer, but not the requests that tasks wait for, and may
start tasks for requests of his own. -/
inductive Step : Loop → Loop → Prop
  | queue (l : Loop) (events : List ViewportEvent) (commands : List Command) :
      Step l { l with events, commands }
  | handle (l : Loop) (i : Input) : Step l (l.handle i)
  | finish (l : Loop) : Step l l.endTurn.runTasks
  | direct (l : Loop) (op : Operation) (hop : ∀ t ∈ l.waiting, ¬ op.Takes t.request) :
      Step l { l with viewer := l.viewer.perform op }
  | spawn (l : Loop) (t : Task) (hheld : l.viewer.draw.requests.isHeld t.request = true)
      (hnew : ∀ u ∈ l.waiting, u.request ≠ t.request) : Step l (l.spawn t)

/-- Any number of steps. -/
abbrev Steps : Loop → Loop → Prop := Relation.ReflTransGen Step

/-- A loop that has come about: it took over a viewer with a history, and went on from there. -/
def Live (l : Loop) : Prop := ∃ settings supply drains bus ops,
  Steps { viewer := (Viewer.fresh settings supply drains bus).run ops } l

theorem Sound.spawn (h : l.Sound) (hheld : l.viewer.draw.requests.known? t.request ≠ none)
    (hnew : ∀ u ∈ l.waiting, u.request ≠ t.request) : (l.spawn t).Sound := by
  have hdistinct : ((l.waiting ++ [t]).map Task.request).Nodup := by
    rw [List.map_append, List.nodup_append]
    refine ⟨h.distinct, List.nodup_singleton _, ?_⟩
    intro request hrequest other hother heq
    obtain ⟨u, hu, rfl⟩ := List.mem_map.1 hrequest
    rw [List.map_singleton, List.mem_singleton] at hother
    exact hnew u hu (heq.trans hother)
  refine { h with held := ?_, distinct := hdistinct }
  intro u hu
  rcases List.mem_append.1 hu with hu | hu
  · exact h.held u hu
  · rw [List.mem_singleton.1 hu]
    exact hheld

/-- The task of a command waits for the request the command was given. -/
theorem issued?_of_task? {c : Command} {v : Viewer} (h : c.task? v = some t) :
    c.operation.issued? v = some t.request := by
  cases c with
  | render | cancelDrawing | shutdown => cases h
  | startDrawing shape options =>
      obtain ⟨request, hrequest, rfl⟩ := Option.map_eq_some_iff.1 h
      exact hrequest
  | drawRegion slot =>
      obtain ⟨q, hq, rfl⟩ := Option.map_eq_some_iff.1 h
      show (v.drawRegion slot).1.toOption.map (·.request) = some q.request
      rw [hq]
      rfl

theorem Sound.carryOut (h : l.Sound) (c : Command) : (l.carryOut c).Sound := by
  have hperformed : Sound { l with viewer := l.viewer.perform c.operation } :=
    Viewer.Serves.perform h fun t _ => Viewer.not_takes_of_input (.command c) t.request
  rw [carryOut_eq]
  cases htask : c.task? l.viewer with
  | none =>
      rw [Option.toList_none, List.append_nil]
      exact hperformed
  | some t =>
      obtain ⟨hfree, hheld⟩ := Viewer.known?_of_issued h.toRegular (issued?_of_task? htask)
      have hspawned : Sound (Loop.spawn t { l with viewer := l.viewer.perform c.operation }) :=
        hperformed.spawn hheld fun u hu heq => h.held u hu (heq ▸ hfree)
      exact hspawned

/-- The loop when the viewer has dealt with an event, before any task goes on. -/
def afterEvent (l : Loop) (e : ViewportEvent) : Loop := { l with viewer := (l.viewer.handle e).2 }

theorem Sound.afterEvent (h : l.Sound) (e : ViewportEvent) : (l.afterEvent e).Sound := by
  have hperformed : (l.viewer.perform (.handle e)).Serves l.waiting :=
    Viewer.Serves.perform h fun t _ => Viewer.not_takes_of_input (.event e) t.request
  exact hperformed

theorem Sound.handle (h : l.Sound) (i : Input) : (l.handle i).Sound := by
  cases i with
  | event e => exact (h.afterEvent e).runTasks
  | command c => exact (h.carryOut c).runTasks
  | fault call e =>
      exact Viewer.Serves.perform h fun t _ => Viewer.not_takes_of_input (.fault call e) t.request

theorem Sound.endTurn (h : l.Sound) : l.endTurn.Sound := by
  have hperformed : (l.viewer.perform .retireLayers).Serves l.waiting := by
    refine Viewer.Serves.perform h fun t _ => ?_
    rintro (hpolled | hdropped)
    · cases hpolled
    · cases hdropped
  unfold Loop.endTurn
  split
  · exact hperformed
  · exact h

theorem Step.sound (hstep : Step l l') (h : l.Sound) : l'.Sound := by
  cases hstep with
  | queue events commands => exact h
  | handle i => exact h.handle i
  | finish => exact h.endTurn.runTasks
  | direct op hop => exact Viewer.Serves.perform h hop
  | spawn t hheld hnew =>
      refine h.spawn (fun hnone => ?_) hnew
      rw [Requests.isHeld_eq_false.2 hnone] at hheld
      cases hheld

theorem Steps.sound (hsteps : Steps l l') (h : l.Sound) : l'.Sound := by
  induction hsteps with
  | refl => exact h
  | tail _ hstep ih => exact hstep.sound ih

theorem Live.sound (h : Live l) : l.Sound := by
  obtain ⟨settings, supply, drains, bus, ops, hsteps⟩ := h
  refine hsteps.sound ?_
  exact { (Viewer.Attentive.fresh settings supply drains bus).run ops with
    held := by simp
    distinct := List.nodup_nil }

/-- Whatever happens to a loop, what becomes of its viewer are operations. -/
theorem Step.viewer (hstep : Step l l') : ∃ ops, l'.viewer = l.viewer.run ops := by
  cases hstep with
  | queue | spawn => exact ⟨[], rfl⟩
  | handle i => exact l.handle_viewer i
  | finish => exact l.finish_viewer
  | direct op hop => exact ⟨[op], rfl⟩

theorem Steps.viewer (hsteps : Steps l l') : ∃ ops, l'.viewer = l.viewer.run ops := by
  induction hsteps with
  | refl => exact ⟨[], rfl⟩
  | tail _ hstep ih =>
      obtain ⟨first, hfirst⟩ := ih
      obtain ⟨last, hlast⟩ := hstep.viewer
      exact ⟨first ++ last, by rw [hlast, hfirst, Viewer.run_append]⟩

/-! ## How long a task waits -/

/-- A task stops waiting only when the session of its request is over. -/
theorem runTask_waits {rest : List Task} (h : l.viewer.Serves (l.waiting ++ t :: rest)) {u : Task}
    (hu : u ∈ l.waiting ++ t :: rest) :
    u ∈ (l.runTask t).waiting ++ rest ∨ Past u.request (l.runTask t).viewer.draw := by
  have hheld := h.held t (List.mem_append_right _ List.mem_cons_self)
  cases hknown : l.viewer.draw.requests.known? t.request with
  | none => exact absurd hknown hheld
  | some a =>
      cases a with
      | none =>
          rw [runTask_of_pending hknown, List.append_assoc, List.singleton_append]
          exact Or.inl hu
      | some r =>
          rw [runTask_of_answered hknown]
          rcases List.mem_cons.1 (List.perm_middle.mem_iff.1 hu) with rfl | hu
          · -- An answered request is not that of the session that waits, which has no answer.
            have hissued : u.request.number < l.viewer.draw.requests.next := by
              by_contra hnot
              exact hheld (h.below _ (Nat.le_of_not_lt hnot))
            have hover : Past u.request l.viewer.draw := by
              refine ⟨hissued, fun s hs hrequest => ?_⟩
              exact (h.unanswered s hs).2 r (hrequest ▸ hknown)
            exact Or.inr ((Viewer.perform_change h.inOrder u.look).past hover)
          · exact Or.inl hu

theorem foldl_runTask_waits {tasks : List Task} (h : l.viewer.Serves (l.waiting ++ tasks))
    {u : Task} (hu : u ∈ l.waiting ++ tasks) :
    u ∈ (tasks.foldl runTask l).waiting ∨ Past u.request (tasks.foldl runTask l).viewer.draw := by
  induction tasks generalizing l with
  | nil =>
      rw [List.append_nil] at hu
      exact Or.inl hu
  | cons t tasks ih =>
      have hnext := runTask_serves h
      rcases runTask_waits h hu with hwaits | hover
      · exact ih hnext hwaits
      · obtain ⟨waiting, finished, heq⟩ := foldl_runTask_eq tasks (l.runTask t)
        rw [List.foldl_cons, heq]
        exact Or.inr (hover.run hnext.inOrder _)

theorem Sound.runTasks_waits (h : l.Sound) (ht : t ∈ l.waiting) :
    t ∈ l.runTasks.waiting ∨ Past t.request l.runTasks.viewer.draw :=
  foldl_runTask_waits (l := { l with waiting := [] }) h ht

/-- One step leaves a task waiting, or ends the session it waits for. -/
theorem Step.waits (hstep : Step l l') (h : l.Sound) (ht : t ∈ l.waiting) :
    t ∈ l'.waiting ∨ Past t.request l'.viewer.draw := by
  cases hstep with
  | queue events commands | direct op hop => exact Or.inl ht
  | spawn u hheld hnew => exact Or.inl (List.mem_append_left _ ht)
  | finish =>
      have hwaiting : l.endTurn.waiting = l.waiting := by
        unfold endTurn
        split <;> rfl
      exact h.endTurn.runTasks_waits (hwaiting ▸ ht)
  | handle i =>
      cases i with
      | event e => exact (h.afterEvent e).runTasks_waits ht
      | command c =>
          have hwaiting : t ∈ (l.carryOut c).waiting := by
            rw [carryOut_eq]
            exact List.mem_append_left _ ht
          exact (h.carryOut c).runTasks_waits hwaiting
      | fault call e => exact Or.inl ht

/-- A task that a command starts waits when the command has been handled. -/
theorem Sound.waits_of_command (h : l.Sound) {c : Command} (htask : c.task? l.viewer = some t) :
    t ∈ (l.handle (.command c)).waiting := by
  have hspawned : t ∈ (l.carryOut c).waiting := by
    rw [carryOut_eq, htask]
    exact List.mem_append_right _ List.mem_cons_self
  rcases (h.carryOut c).runTasks_waits hspawned with hwaits | hover
  · exact hwaits
  · -- The session has only just begun, and no task ends it.
    obtain ⟨s, ⟨hactive, -⟩, hrequest, -⟩ :=
      Viewer.awaits_of_issued h.toRegular (issued?_of_task? htask)
    obtain ⟨requests, slots, waiting, finished, heq⟩ := (l.carryOut c).runTasks_frame
    rw [heq, carryOut_eq] at hover
    exact absurd hrequest (hover.2 s hactive)

/-- **A task waits until its session is over.** -/
theorem waits_of_active (hsteps : Steps l l') (h : l.Sound) (ht : t ∈ l.waiting) {s : DrawSession}
    (hs : l'.viewer.draw.active = some s) (hrequest : t.request = s.request) : t ∈ l'.waiting := by
  have hwaits : t ∈ l'.waiting ∨ Past t.request l'.viewer.draw := by
    clear hs
    induction hsteps with
    | refl => exact Or.inl ht
    | tail hbefore hstep ih =>
        have hsound := Steps.sound hbefore h
        rcases ih with hwaits | hover
        · exact hstep.waits hsound hwaits
        · obtain ⟨ops, hops⟩ := hstep.viewer
          rw [hops]
          exact Or.inr (hover.run hsound.inOrder ops)
  rcases hwaits with hwaits | hover
  · exact hwaits
  · exact absurd hrequest.symm (hover.2 s hs)

/-! ## Turns are steps -/

theorem steps_handleAll (l : Loop) (inputs : List Input) : Steps l (l.handleAll inputs) := by
  induction inputs generalizing l with
  | nil => exact .refl
  | cons i inputs ih => exact (Relation.ReflTransGen.single (.handle l i)).trans (ih (l.handle i))

theorem steps_turn (l : Loop) (inputs : List Input) : Steps l (l.turn inputs) :=
  (steps_handleAll l inputs).tail (.finish _)

theorem steps_turns (l : Loop) (batches : List (List Input)) : Steps l (l.turns batches) := by
  induction batches generalizing l with
  | nil => exact .refl
  | cons inputs batches ih => exact (steps_turn l inputs).trans (ih (l.turn inputs))

/-- A dispatch takes what is queued and is a turn then. -/
theorem steps_dispatch (l : Loop) : Steps l l.dispatch := by
  rw [dispatch_eq_turn]
  exact (Relation.ReflTransGen.single (.queue l [] [])).trans (steps_turn _ _)

end Loop

end ImageOverlay
