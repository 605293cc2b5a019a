import ImageOverlay.Proofs.Viewer.Answers

set_option autoImplicit false

/-!
# Sessions on one map, and on the next

Events name layers by their handles, and that is all a viewer has to tell the drawing of one session
from that of another. On one map this is enough. The map never gives a handle out twice, so the
handles of its sessions increase, and an event for a session that is over, however late it comes,
changes nothing (`Viewer.Since` is the invariant behind that).

The next map numbers its layers from one again. A session may then get the handle that a session of
the map before had, and an event from back then is taken for its own. What counts on any map is
whether the session that waits has the handle the event names (`Viewer.handle_eq_self`).
-/

namespace ImageOverlay

theorem DrawMode.annotationChanged_active {d : DrawMode} {layer : LayerHandle} {drawn : Drawn}
    {session : DrawSession} (h : d.completed? layer drawn = some session) (bus : Bus)
    (supply : Identity.Supply) : (d.annotationChanged layer drawn bus supply).2.1.active = none := by
  unfold annotationChanged
  simp only [h]
  cases convert drawn <;> rfl

namespace Viewer

variable {v : Viewer} {m : MapState} {op : Operation} {s : DrawSession}

/-- A drawing leaves the viewer alone unless it is done and on the layer of the session that
waits. -/
theorem handle_eq_self (v : Viewer) (layer : LayerHandle) (drawn : Drawn) :
    v.handle (.annotationChanged layer drawn) = (false, v)
      ↔ ∀ t ∈ v.draw.active, t.layer = layer → drawn.state ≠ .done := by
  constructor
  · intro hself t ht hlayer hdone
    have hactive := DrawMode.annotationChanged_active
      (DrawMode.completed?_eq_some.2 ⟨ht, hlayer, hdone⟩) v.bus v.supply
    have hsame : (v.handle (.annotationChanged layer drawn)).2.draw = v.draw :=
      congrArg (fun result => result.2.draw) hself
    have hdraw : (v.draw.annotationChanged layer drawn v.bus v.supply).2.1 = v.draw := hsame
    rw [hdraw, ht] at hactive
    cases hactive
  · intro hforeign
    unfold handle
    simp only [DrawMode.annotationChanged_eq_self hforeign]
    rfl

/-! ## The map stays -/

theorem retireLayers_map (hmap : v.map = some m) : ∃ m', v.retireLayers.2.map = some m' := by
  simp only [retireLayers, hmap]
  exact ⟨_, rfl⟩

theorem startDrawing_map (hmap : v.map = some m) (shape : ShapeKind)
    (options : Option DrawOptions) : ∃ m', (v.startDrawing shape options).2.map = some m' := by
  simp only [startDrawing, hmap]
  exact ⟨_, rfl⟩

/-- Nothing takes the map away but the end of the map and the end of the viewer. -/
theorem perform_map (hmap : v.map = some m) (hdestroy : op ≠ .destroy) (hdrop : op ≠ .drop) :
    ∃ m', (v.perform op).map = some m' := by
  cases op with
  | destroy => exact absurd rfl hdestroy
  | drop => exact absurd rfl hdrop
  | attach | setImage | poll | dropRequest | arm => exact ⟨m, hmap⟩
  | render =>
      -- A map that is there is not built again.
      have heq : v.render.2 = v := by
        simp only [render, isRendered, hmap, Option.isSome_some, if_true]
      exact ⟨m, (congrArg _ heq).trans hmap⟩
  | addOverlay d =>
      simp only [perform, Viewer.renderAnnotation, hmap]
      exact ⟨_, rfl⟩
  | removeOverlay id =>
      simp only [perform, Viewer.unrenderAnnotation, hmap]
      exact ⟨_, rfl⟩
  | clearOverlays =>
      simp only [perform, clearAnnotations, hmap]
      exact ⟨_, rfl⟩
  | startDrawing shape options => exact startDrawing_map hmap shape options
  | drawRegion slot =>
      obtain ⟨slots, heq⟩ := drawRegion_eq slot v
      show ∃ m', (v.drawRegion slot).2.map = some m'
      rw [heq]
      exact startDrawing_map hmap _ _
  | pollRegion r =>
      obtain ⟨slots, heq⟩ := pollRegion_eq v r
      show ∃ m', (v.pollRegion r).2.map = some m'
      rw [heq]
      exact ⟨m, hmap⟩
  | handle e =>
      cases e with
      | annotationChanged layer drawn => exact ⟨m, hmap⟩
      | drawPassComplete =>
          simp only [perform, handle]
          split
          · exact retireLayers_map hmap
          · exact ⟨m, hmap⟩
  | cancelDrawing =>
      simp only [perform, cancelDrawing, hmap]
      exact ⟨_, rfl⟩
  | retireLayers => exact retireLayers_map hmap

/-- On one map the number of the next layer only grows. -/
theorem perform_nextLayer {m' : MapState} (h : v.InOrder) (hmap : v.map = some m)
    (hmap' : (v.perform op).map = some m') : m.nextLayer ≤ m'.nextLayer := by
  cases (perform_step h op).1 with
  | idle hnone | failed hnone | built hnone =>
      rw [hmap] at hnone
      cases hnone
  | used before hbefore p hp hcourse =>
      obtain rfl := Option.some.inj (hmap.symm.trans hbefore)
      obtain rfl := Option.some.inj (hmap'.symm.trans hp)
      exact hcourse.nextLayer_le
  | tornDown before hbefore hnone =>
      rw [hmap'] at hnone
      cases hnone

/-- A session that waits has waited before, or it has the next layer of the map. -/
theorem perform_active (h : v.InOrder) (hmap : v.map = some m) {t : DrawSession}
    (ht : (v.perform op).draw.active = some t) :
    v.draw.active = some t ∨ t.layer = m.freshLayer := by
  cases perform_change h op with
  | kept _ hactive | polled _ _ hactive | dropped _ _ hactive => exact Or.inl (hactive ▸ ht)
  | evicted _ _ _ _ hactive' | ended _ _ _ _ hactive' =>
      rw [hactive'] at ht
      cases ht
  | started _ s _ hactive' hlayer =>
      obtain rfl := Option.some.inj (hactive'.symm.trans ht)
      rw [hmap] at hlayer
      exact Or.inr (Option.some.inj hlayer).symm

/-! ## Sessions on one map -/

/-- The map the session was started on is still there, and any session that has come after it has
a layer with a higher number. -/
structure Since (s : DrawSession) (v : Viewer) : Prop where
  passed : ∃ m, v.map = some m ∧ s.layer.number < m.nextLayer
  later : ∀ t ∈ v.draw.active, t = s ∨ s.layer.number < t.layer.number

namespace Since

theorem of_active (h : v.InOrder) (hactive : v.draw.active = some s) : Since s v where
  passed := by
    obtain hmap | ⟨m, hmap⟩ := Option.eq_none_or_eq_some v.map
    · rw [((inOrder_iff_of_none hmap).1 h).1] at hactive
      cases hactive
    · have howned := (inOrder_iff_of_some hmap).1 h
      exact ⟨m, hmap, howned.layersBelow _ (howned.active_mem hactive)⟩
  later := by
    intro t ht
    exact Or.inl (Option.some.inj (ht.symm.trans hactive))

theorem perform (h : Since s v) (hv : v.InOrder) (hdestroy : op ≠ .destroy) (hdrop : op ≠ .drop) :
    Since s (v.perform op) := by
  obtain ⟨m, hmap, hnumber⟩ := h.passed
  obtain ⟨m', hmap'⟩ := perform_map hmap hdestroy hdrop
  refine ⟨⟨m', hmap', Nat.lt_of_lt_of_le hnumber (perform_nextLayer hv hmap hmap')⟩, ?_⟩
  intro t ht
  -- The number `hnumber` is about is that of the next layer, and so of any session that starts now.
  rcases perform_active hv hmap ht with hbefore | hfresh
  · exact h.later t hbefore
  · rw [hfresh]
    exact Or.inr hnumber

theorem run (h : Since s v) (hv : v.InOrder) {ops : List Operation} (hdestroy : .destroy ∉ ops)
    (hdrop : .drop ∉ ops) : Since s (v.run ops) := by
  induction ops generalizing v with
  | nil => exact h
  | cons op ops ih =>
      rw [List.mem_cons, not_or] at hdestroy hdrop
      have hnext := h.perform hv (Ne.symm hdestroy.1) (Ne.symm hdrop.1)
      rw [run_cons]
      exact ih hnext (perform_step hv op).2 hdestroy.2 hdrop.2

end Since

/-- **A session apart from all that come after it:** the next one gets another layer, and once the
session waits no more, drawings on its layer change nothing. -/
structure Isolated (s : DrawSession) (v : Viewer) : Prop where
  distinct : ∀ op request, Operation.issued? v op = some request →
    ∃ t : DrawSession, t.request = request ∧ (v.perform op).draw.active = some t ∧
      s.layer.number < t.layer.number
  ignored : v.draw.active ≠ some s →
    ∀ drawn, v.handle (.annotationChanged s.layer drawn) = (false, v)

theorem Since.isolated (h : Since s v) (hv : v.Regular) : Isolated s v where
  distinct := by
    intro op request hissued
    obtain ⟨t, ht, hrequest, hlayer⟩ := awaits_of_issued hv hissued
    obtain ⟨m, hmap, hnumber⟩ := h.passed
    rw [hmap] at hlayer
    refine ⟨t, hrequest, ht.1, ?_⟩
    rw [← Option.some.inj hlayer]
    exact hnumber
  ignored := by
    intro hover drawn
    rw [handle_eq_self]
    intro t ht hlayer
    rcases h.later t ht with rfl | hnumber
    · exact absurd ht hover
    · rw [hlayer] at hnumber
      exact absurd hnumber (Nat.lt_irrefl _)

/-- **Sessions on one map are isolated.** As long as the map stays on which a session was started,
every later session has another layer, and an event for the layer of a session that is over changes
nothing. On any map, a drawing on the layer with that handle matters only if it is done and the
session that waits has that handle, too. -/
theorem sessions_isolated (settings : Settings) (supply : Identity.Supply)
    (drains : DrainOrders) (bus : Bus) (before : List Operation) (op : Operation)
    (request : RequestId) (after : List Operation)
    (hissued : op.issued? ((fresh settings supply drains bus).run before) = some request)
    (hdestroy : .destroy ∉ after) (hdrop : .drop ∉ after) :
    ∃ s : DrawSession, s.request = request ∧
      (((fresh settings supply drains bus).run before).perform op).draw.active = some s ∧
      Isolated s ((((fresh settings supply drains bus).run before).perform op).run after) ∧
      ∀ (later : List Operation) (drawn : Drawn) (w : Viewer),
        w = (((fresh settings supply drains bus).run before).perform op).run later →
          (w.handle (.annotationChanged s.layer drawn) = (false, w)
            ↔ ∀ t ∈ w.draw.active, t.layer = s.layer → drawn.state ≠ .done) := by
  have hv := (Regular.fresh settings supply drains bus).run before
  obtain ⟨s, hs, rfl, -⟩ := awaits_of_issued hv hissued
  have hsince := (Since.of_active (hv.perform op).inOrder hs.1).run (hv.perform op).inOrder
    hdestroy hdrop
  refine ⟨s, rfl, hs.1, hsince.isolated ((hv.perform op).run after), ?_⟩
  intro later drawn w _
  exact handle_eq_self w s.layer drawn

/-- A session that is cancelled, and the next one on the same map. -/
def cancelled : List Operation := [.cancelDrawing, .startDrawing .point none]

theorem sessions_isolated_of_cancelled :
    (Operation.startDrawing .point none).issued? rendered = some ⟨0⟩ ∧
      .destroy ∉ cancelled ∧ .drop ∉ cancelled ∧
      ∃ s : DrawSession, s.request = ⟨0⟩ ∧
        (rendered.perform (.startDrawing .point none)).draw.active = some s ∧
        Isolated s ((rendered.perform (.startDrawing .point none)).run cancelled) := by
  have hissued : (Operation.startDrawing .point none).issued? rendered = some ⟨0⟩ := by decide
  have hdestroy : .destroy ∉ cancelled := by simp [cancelled]
  have hdrop : .drop ∉ cancelled := by simp [cancelled]
  obtain ⟨s, hrequest, hactive, hisolated, -⟩ := sessions_isolated {} { bits := fun _ => 0 }
    (fun _ => .arrival) {} opening (.startDrawing .point none) ⟨0⟩ cancelled hissued hdestroy hdrop
  exact ⟨hissued, hdestroy, hdrop, s, hrequest, hactive, hisolated⟩

/-- The first session of a map. -/
def firstSession : Viewer := rendered.perform (.startDrawing .point none)

/-- The first session of the next map. -/
def nextSession : Viewer := firstSession.run [.destroy, .render, .startDrawing .point none]

/-- A point on the layer of the first session that arrives late. -/
def lateEvent : ViewportEvent :=
  .annotationChanged ⟨2⟩ { kind := .point, coordinates := [⟨4.0, 9.0⟩] }

/-- **A new map gives old handles out again.** Both sessions have the layer of handle 2, and an event
that was meant for the first is taken for the second: it is over, its layer retires, its request has
an answer and the application is told of an element. -/
theorem handle_reused :
    (firstSession.draw.active.map fun s => (s.request, s.layer)) = some (⟨0⟩, ⟨2⟩) ∧
      (nextSession.draw.active.map fun s => (s.request, s.layer)) = some (⟨1⟩, ⟨2⟩) ∧
      (nextSession.handle lateEvent).1 = true ∧
      (nextSession.handle lateEvent).2.draw.active = none ∧
      (nextSession.handle lateEvent).2.draw.retiring = [⟨⟨2⟩, ⟨1⟩⟩] ∧
      (((nextSession.handle lateEvent).2.poll ⟨1⟩).1.map Except.isOk) = .ready true ∧
      (nextSession.handle lateEvent).2.bus.published.length
        = nextSession.bus.published.length + 1 := by
  decide

end Viewer

end ImageOverlay
