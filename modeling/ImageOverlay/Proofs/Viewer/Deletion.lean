import ImageOverlay.Proofs.Viewer.Isolation
import ImageOverlay.Proofs.Viewer.Record
import ImageOverlay.Proofs.Viewer.Retirement
import ImageOverlay.Proofs.Viewer.Separation
import Mathlib.Data.List.Induction

set_option autoImplicit false

/-!
# From the end of a session to the deletion of its layer

A session that a drawing completes leaves its layer on the map. From then on nothing deletes it but
an operation that is there to delete such layers (`Operation.retires`): the deletion that the owner
of the viewer asks for, the end of the map, and the end of a drawing pass if the settings say so.
Until then the layer is on the map and its subscription goes on, whatever else happens
(`Viewer.Lingers`); the first such operation ends the subscription and deletes the layer, each of
them once, among all the layers that wait for that, in the order in which their sessions ended
(`Viewer.Leaves`).

That a layer is deleted at all is read off the operation. That it is deleted only once is not, since
the layers are deleted by their handles: it follows from the record of the calls to the map, in
which nothing is deleted that is not there.
-/

namespace ImageOverlay

/-! ## The record -/

/-- Where nothing stands behind an equal one, nothing stands twice. -/
theorem count_le_one_of_new {α : Type} [DecidableEq α] {xs : List α} {x : α}
    (h : ∀ before after, xs = before ++ x :: after → x ∉ before) : xs.count x ≤ 1 := by
  by_cases hmem : x ∈ xs
  · obtain ⟨before, after, hxs, hbefore⟩ := List.eq_append_cons_of_mem hmem
    have hafter : x ∉ after := by
      intro hagain
      obtain ⟨between, rest, rfl⟩ := List.append_of_mem hagain
      exact h (before ++ x :: between) rest (by simp [hxs]) (by simp)
    have hnone := List.count_eq_zero.2 hbefore
    have hnone' := List.count_eq_zero.2 hafter
    rw [hxs, List.count_append, List.count_cons_self]
    omega
  · have hnone := List.count_eq_zero.2 hmem
    omega

namespace Sensible

variable {calls : List Call}

theorem count_deleteLayer (h : Sensible calls) (layer : LayerHandle) :
    calls.count (.deleteLayer layer) ≤ 1 :=
  count_le_one_of_new fun before after hcalls => (h.live before _ after layer hcalls rfl).2

theorem count_unsubscribe (h : Sensible calls) (s : SubscriptionId) :
    calls.count (.unsubscribe s) ≤ 1 := by
  refine count_le_one_of_new fun before after hcalls => ?_
  obtain ⟨layer, rest, -, hsub⟩ := h.unsubscribed before s after hcalls
  exact hsub.2.1

end Sensible

/-- The calls of a course, behind those of the same map before it. -/
theorem Viewport.Recorded.since {earlier : List Call} {p q : Viewport} (hp : Recorded earlier p)
    (hcourse : Course p q) : ∃ before calls, q.library.log = p.library.log ++ calls ∧
      Sensible (before ++ calls) ∧ Tracks (before ++ calls) q.map := by
  obtain ⟨all, hall, hsensible, htracks⟩ := hcourse.recorded hp
  obtain ⟨before, hbefore, -, -⟩ := hp
  obtain ⟨calls, hcalls⟩ := hcourse.log_grows
  obtain rfl : all = before ++ calls := by
    rw [← hcalls, hbefore, List.append_assoc] at hall
    exact (List.append_cancel_left hall).symm
  exact ⟨before, calls, hcalls.symm, hsensible, htracks⟩

/-! ## What deletes the layers that retire -/

/-- The layer of the session that waits is none of those that retire. -/
theorem MapState.OwnedBy.active_not_retiring {o : Overlays} {active : Option DrawSession}
    {retiring : List RetiringLayer} {m : MapState} {s : DrawSession}
    (h : m.OwnedBy o active retiring) (hs : s ∈ active) :
    s.layer ∉ retiring.map (·.layer) := by
  obtain rfl := Option.mem_def.1 hs
  have hsessions := (List.nodup_append.1 (List.nodup_cons.1 h.disjoint).2).2.1
  exact (List.nodup_cons.1 hsessions).1

/-- An operation that deletes the layers that retire. The end of a drawing pass does so only where
the settings say so. -/
def Operation.retires (settings : Settings) : Operation → Bool
  | .retireLayers | .destroy | .drop => true
  | .handle .drawPassComplete => settings.draw.retireOn == .drawPass
  | _ => false

namespace Viewer

open Viewport (Course)

variable {v w : Viewer} {op : Operation} {m : MapState} {s : DrawSession}

/-- The session that an operation completes: the one that waits, if the operation is a drawing on
its layer that is done. -/
def completes? (v : Viewer) : Operation → Option DrawSession
  | .handle (.annotationChanged layer drawn) =>
      v.draw.active.filter fun s => s.layer = layer ∧ drawn.state = .done
  | _ => none

/-- What the sessions own that are completed in the course of operations, in the order in which they
are completed. -/
def completions (v : Viewer) : List Operation → List RetiringLayer
  | [] => []
  | op :: ops =>
      (v.completes? op).toList.map DrawSession.holding ++ (v.perform op).completions ops

/-! ## The layers that wait -/

private theorem retiring_of_kept (hretiring : w.draw.retiring = v.draw.retiring)
    (hcompletes : v.completes? op = none) :
    w.draw.retiring = v.draw.retiring ++ (v.completes? op).toList.map DrawSession.holding := by
  rw [hretiring, hcompletes]
  exact (List.append_nil _).symm

/-- Unless the layers that wait are deleted, they stay in their order, and the one of a session that
is completed comes last. -/
theorem perform_retiring (hop : op.retires v.settings = false) :
    (v.perform op).draw.retiring
      = v.draw.retiring ++ (v.completes? op).toList.map DrawSession.holding := by
  cases op with
  | attach | setImage | poll | dropRequest | arm => exact retiring_of_kept rfl rfl
  | render => exact retiring_of_kept (congrArg DrawMode.retiring (render_draw v)) rfl
  | addOverlay d => exact retiring_of_kept (congrArg DrawMode.retiring (addOverlay_draw d v)) rfl
  | removeOverlay id =>
      exact retiring_of_kept (congrArg DrawMode.retiring (removeOverlay_draw id v)) rfl
  | clearOverlays =>
      exact retiring_of_kept (congrArg DrawMode.retiring (clearAnnotations_draw v)) rfl
  | startDrawing shape options =>
      exact retiring_of_kept (startDrawing_retiring shape options v) rfl
  | drawRegion slot =>
      obtain ⟨slots, heq⟩ := drawRegion_eq slot v
      refine retiring_of_kept ?_ rfl
      show (v.drawRegion slot).2.draw.retiring = _
      rw [heq]
      exact startDrawing_retiring _ _ v
  | pollRegion r =>
      obtain ⟨slots, heq⟩ := pollRegion_eq v r
      refine retiring_of_kept ?_ rfl
      show (v.pollRegion r).2.draw.retiring = _
      rw [heq]
      rfl
  | cancelDrawing =>
      refine retiring_of_kept ?_ rfl
      show v.cancelDrawing.2.draw.retiring = _
      unfold cancelDrawing
      cases v.map with
      | none => rfl
      | some m => exact DrawMode.cancel_retiring _ _
  | handle e =>
      cases e with
      | drawPassComplete =>
          have hpass : v.settings.draw.retireOn ≠ .drawPass := by
            simpa [Operation.retires] using hop
          refine retiring_of_kept ?_ rfl
          show (v.handle .drawPassComplete).2.draw.retiring = _
          simp only [handle, if_neg hpass]
      | annotationChanged layer drawn =>
          -- The one operation that lets a layer wait.
          show (v.draw.annotationChanged layer drawn v.bus v.supply).2.1.retiring = _
          cases hcompleted : v.draw.completed? layer drawn with
          | none =>
              rw [DrawMode.annotationChanged_eq_self (DrawMode.completed?_eq_none.1 hcompleted)]
              exact retiring_of_kept (w := v) rfl hcompleted
          | some s =>
              have hcompletes :
                  v.completes? (.handle (.annotationChanged layer drawn)) = some s := hcompleted
              rw [hcompletes]
              exact (DrawMode.annotationChanged_retiring hcompleted v.bus v.supply).2
  | retireLayers | destroy | drop => cases hop

/-- The layers that wait, in the order in which their sessions ended. -/
theorem run_retiring {ops : List Operation} (hops : ∀ op ∈ ops, op.retires v.settings = false) :
    (v.run ops).draw.retiring = v.draw.retiring ++ v.completions ops := by
  induction ops generalizing v with
  | nil => exact (List.append_nil _).symm
  | cons op ops ih =>
      have hrest : ∀ op' ∈ ops, op'.retires (v.perform op).settings = false := by
        intro op' hop'
        rw [perform_settings]
        exact hops op' (List.mem_cons_of_mem _ hop')
      rw [run_cons, ih hrest, perform_retiring (hops op List.mem_cons_self), List.append_assoc]
      rfl

/-! ## The deletion of the layers that wait -/

theorem retireLayers_log (h : v.InOrder) : v.retireLayers.2.library.log
    = v.library.log ++ v.draw.retiring.flatMap RetiringLayer.calls := by
  obtain hmap | ⟨m, hmap⟩ := Option.eq_none_or_eq_some v.map
  · rw [((inOrder_iff_of_none hmap).1 h).2.1]
    simp only [retireLayers, hmap, List.flatMap_nil, List.append_nil]
  · simp only [retireLayers, hmap]
    exact DrawMode.discardAll_log v.draw.retiring { library := v.library, map := m }

theorem retireLayers_count (h : v.InOrder) : v.retireLayers.1 = v.draw.retiring.length := by
  obtain hmap | ⟨m, hmap⟩ := Option.eq_none_or_eq_some v.map
  · rw [((inOrder_iff_of_none hmap).1 h).2.1]
    simp only [retireLayers, hmap, List.length_nil]
  · simp only [retireLayers, hmap]
    rfl

theorem destroy_retiring (h : v.InOrder) : v.destroy.draw.retiring = [] :=
  ((inOrder_iff_of_none (destroy_map v)).1 (destroy_step h).2).2.1

theorem destroy_log_retiring (h : v.InOrder) : ∃ before after, v.destroy.library.log
    = v.library.log ++ before ++ v.draw.retiring.flatMap RetiringLayer.calls ++ after := by
  have hretirement : Retirement .destroy v v.destroy := destroy_retirement h
  cases hretirement with
  | kept hretiring =>
      -- No layer waited, so there was none to delete.
      obtain ⟨calls, hcalls⟩ := perform_log_grows h .destroy
      have hlog : v.destroy.library.log = v.library.log ++ calls := hcalls.symm
      rw [← hretiring, destroy_retiring h]
      exact ⟨calls, [], by simpa using hlog⟩
  | added layer drawn s hop => cases hop
  | emptied before after hretiring hlog => exact ⟨before, after, hlog⟩

/-- What deletes the layers that wait does just that, or it ends the map. -/
theorem perform_of_retires (h : v.InOrder) (hop : op.retires v.settings = true) :
    (op ≠ .destroy ∧ op ≠ .drop ∧ v.perform op = v.retireLayers.2) ∨
      ((op = .destroy ∨ op = .drop) ∧ v.perform op = v.destroy) := by
  cases op with
  | retireLayers => exact Or.inl ⟨by simp, by simp, rfl⟩
  | destroy => exact Or.inr ⟨Or.inl rfl, rfl⟩
  | drop => exact Or.inr ⟨Or.inr rfl, drop_eq_destroy h⟩
  | handle e =>
      cases e with
      | annotationChanged layer drawn => cases hop
      | drawPassComplete =>
          have hpass : v.settings.draw.retireOn = .drawPass := by
            simpa [Operation.retires] using hop
          refine Or.inl ⟨by simp, by simp, ?_⟩
          show (v.handle .drawPassComplete).2 = _
          simp only [handle, if_pos hpass]
  | attach | setImage | render | addOverlay | removeOverlay | clearOverlays | startDrawing
  | drawRegion | poll | pollRegion | dropRequest | cancelDrawing | arm => cases hop

/-! ## The calls to one map -/

/-- Whatever an operation does to a map, it makes orderly calls, and after them at most one that
ends the map. -/
theorem perform_closing (h : v.InOrder) (hmap : v.map = some m) (op : Operation) :
    ∃ q closing, Course { library := v.library, map := m } q ∧
      (v.perform op).library.log = q.library.log ++ closing ∧ (∀ c ∈ closing, c = .teardown) ∧
      ∀ m', (v.perform op).map = some m' →
        q = { library := (v.perform op).library, map := m' } := by
  cases (perform_step h op).1 with
  | idle hnone | failed hnone | built hnone =>
      rw [hmap] at hnone
      cases hnone
  | used before hbefore p hp hcourse hlibrary =>
      obtain rfl := Option.some.inj (hmap.symm.trans hbefore)
      refine ⟨p, [], hcourse, by rw [hlibrary, List.append_nil], by simp, ?_⟩
      intro m' hmap'
      rw [hlibrary, Option.some.inj (hmap'.symm.trans hp)]
  | tornDown before hbefore hnone p hcourse hlibrary =>
      obtain rfl := Option.some.inj (hmap.symm.trans hbefore)
      refine ⟨p, [.teardown], hcourse, by rw [hlibrary]; rfl, by simp, ?_⟩
      intro m' hmap'
      rw [hmap'] at hnone
      cases hnone

/-- An operation that leaves a map there uses it in orderly calls. -/
theorem perform_course (h : v.InOrder) (hmap : v.map = some m) (op : Operation)
    (hdestroy : op ≠ .destroy) (hdrop : op ≠ .drop) : ∃ m', (v.perform op).map = some m' ∧
      Course { library := v.library, map := m }
        { library := (v.perform op).library, map := m' } := by
  obtain ⟨m', hmap'⟩ := perform_map hmap hdestroy hdrop
  obtain ⟨q, -, hcourse, -, -, hsame⟩ := perform_closing h hmap op
  rw [hsame m' hmap'] at hcourse
  exact ⟨m', hmap', hcourse⟩

theorem run_course (h : v.InOrder) (hmap : v.map = some m) (ops : List Operation)
    (hdestroy : .destroy ∉ ops) (hdrop : .drop ∉ ops) : ∃ m', (v.run ops).map = some m' ∧
      Course { library := v.library, map := m } { library := (v.run ops).library, map := m' } := by
  induction ops generalizing v m with
  | nil => exact ⟨m, hmap, .refl _⟩
  | cons op ops ih =>
      obtain ⟨m', hmap', hfirst⟩ := perform_course h hmap op
        (fun heq => hdestroy (heq ▸ List.mem_cons_self))
        (fun heq => hdrop (heq ▸ List.mem_cons_self))
      obtain ⟨m'', hmap'', hrest⟩ := ih (perform_step h op).2 hmap'
        (fun hmem => hdestroy (List.mem_cons_of_mem _ hmem))
        (fun hmem => hdrop (List.mem_cons_of_mem _ hmem))
      exact ⟨m'', hmap'', hfirst.trans hrest⟩

/-! ## Until the layer is deleted -/

/-- The layer of a session is on the map, its subscription goes on, and neither has ended since the
record was `log`. -/
structure Lingers (log : List Call) (s : DrawSession) (v : Viewer) : Prop where
  layer : ∃ m, v.map = some m ∧ m.kind? s.layer = some .annotationDraw ∧
    (s.subscription, s.layer) ∈ m.subscriptions
  record : ∃ calls, v.library.log = log ++ calls ∧ .deleteLayer s.layer ∉ calls ∧
    .unsubscribe s.subscription ∉ calls

/-- Since the record was `log`, the subscription of a session has ended once and its layer has been
deleted once, and neither is on the map. -/
structure Leaves (log : List Call) (s : DrawSession) (v : Viewer) : Prop where
  record : ∃ calls, v.library.log = log ++ calls ∧ calls.count (.deleteLayer s.layer) = 1 ∧
    calls.count (.unsubscribe s.subscription) = 1
  gone : ∀ m, v.map = some m → s.layer ∉ m.handles ∧
    ∀ layer, (s.subscription, layer) ∉ m.subscriptions

theorem lingers_of_retiring {earlier : List Call} {p : Viewport} {m' : MapState}
    (hp : Viewport.Recorded earlier p) (h : w.InOrder) (hmap : w.map = some m')
    (hcourse : Course p { library := w.library, map := m' })
    (hretiring : s.holding ∈ w.draw.retiring) : Lingers p.library.log s w := by
  have howned := (inOrder_iff_of_some hmap).1 h
  have hheld : s.holding ∈ holdings w.draw.active w.draw.retiring :=
    List.mem_append_right _ hretiring
  have hsub : (s.subscription, s.layer) ∈ m'.subscriptions := howned.subscription_mem hheld
  obtain ⟨before, calls, hlog, -, htracks⟩ := hp.since hcourse
  -- Were one of the two calls on record since then, the map would not have the subscription.
  obtain ⟨-, hended, hdeleted⟩ := (htracks.subscriptions _ _).1 hsub
  refine ⟨⟨m', hmap, howned.drawing s.holding hheld, hsub⟩, calls, hlog, ?_, ?_⟩
  · exact fun hmem => hdeleted (List.mem_append_right _ hmem)
  · exact fun hmem => hended (List.mem_append_right _ hmem)

theorem leaves_of_retires {earlier closing : List Call} {p q : Viewport}
    (hp : Viewport.Recorded earlier p) (hcourse : Course p q)
    (hlog : w.library.log = q.library.log ++ closing) (hclosing : ∀ c ∈ closing, c = .teardown)
    (hmap : ∀ m', w.map = some m' → m' = q.map) (hretires : Retires s.holding p.library.log w)
    (hnone : w.draw.retiring = []) : Leaves p.library.log s w := by
  obtain ⟨before, calls, hcalls, hsensible, htracks⟩ := hp.since hcourse
  obtain ⟨all, hall, hdone⟩ := hretires.deleted hnone
  obtain rfl : all = calls ++ closing := by
    rw [hlog, hcalls, List.append_assoc] at hall
    exact (List.append_cancel_left hall).symm
  -- What is on record once in the life of the map and once at least since then is there once.
  have honce : ∀ c ∈ s.holding.calls, (before ++ calls).count c ≤ 1 →
      c ∈ calls ∧ (calls ++ closing).count c = 1 := by
    intro c hc hle
    have hne : c ∉ closing := by
      intro hmem
      rcases List.mem_pair.1 hc with rfl | rfl <;> cases hclosing _ hmem
    have hmem : c ∈ calls := (List.mem_append.1 (hdone.subset hc)).resolve_right hne
    have hpos := List.count_pos_iff.2 hmem
    rw [List.count_append] at hle
    rw [List.count_append, List.count_eq_zero.2 hne]
    exact ⟨hmem, by omega⟩
  obtain ⟨hended, hcount⟩ := honce (.unsubscribe s.subscription) List.mem_cons_self
    (hsensible.count_unsubscribe _)
  obtain ⟨hdeleted, hcount'⟩ := honce (.deleteLayer s.layer)
    (List.mem_cons_of_mem _ List.mem_cons_self) (hsensible.count_deleteLayer _)
  refine ⟨⟨_, hall, hcount', hcount⟩, ?_⟩
  intro m' hm'
  obtain rfl := hmap m' hm'
  constructor
  · intro hmem
    exact ((htracks.layers _).1 hmem).2 (List.mem_append_right _ hdeleted)
  · intro layer hmem
    exact ((htracks.subscriptions _ _).1 hmem).2.1 (List.mem_append_right _ hended)

/-! ## From the end of a session on -/

variable {e : ViewportEvent} {waiting : List Operation}

theorem completes?_eq_some :
    v.completes? (.handle e) = some s ↔ v.draw.active = some s ∧
      ∃ drawn, drawn.state = .done ∧ e = .annotationChanged s.layer drawn := by
  cases e with
  | drawPassComplete => simp [completes?]
  | annotationChanged layer drawn =>
      show v.draw.completed? layer drawn = some s ↔ _
      rw [DrawMode.completed?_eq_some]
      constructor
      · rintro ⟨hactive, rfl, hdone⟩
        exact ⟨hactive, drawn, hdone, rfl⟩
      · rintro ⟨hactive, drawn', hdone, heq⟩
        cases heq
        exact ⟨hactive, rfl, hdone⟩

/-- What completes a session does not delete layers. -/
theorem retires_of_completes (h : v.completes? op = some s) : op.retires v.settings = false := by
  cases op with
  | handle e =>
      cases e with
      | annotationChanged layer drawn => rfl
      | drawPassComplete => cases h
  | attach | setImage | render | addOverlay | removeOverlay | clearOverlays | startDrawing
  | drawRegion | poll | pollRegion | dropRequest | cancelDrawing | retireLayers | destroy | drop
  | arm => cases h

theorem not_mem_of_not_retires {settings : Settings} {ops : List Operation}
    (hops : ∀ op ∈ ops, op.retires settings = false) : .destroy ∉ ops ∧ .drop ∉ ops :=
  ⟨fun hmem => Bool.noConfusion (hops _ hmem), fun hmem => Bool.noConfusion (hops _ hmem)⟩

/-- The layer of a session that is completed is among those that wait, for as long as these are not
deleted. -/
theorem holding_mem_retiring (hcompletes : v.completes? op = some s)
    (hwaiting : ∀ op ∈ waiting, op.retires v.settings = false) :
    s.holding ∈ (v.run (op :: waiting)).draw.retiring := by
  have hops : ∀ op' ∈ op :: waiting, op'.retires v.settings = false := by
    intro op' hop'
    rcases List.mem_cons.1 hop' with rfl | hop'
    · exact retires_of_completes hcompletes
    · exact hwaiting op' hop'
  rw [run_retiring hops, completions, hcompletes]
  simp

/-- The map on which a session is completed, with its record, and what is made of it as long as the
layers that wait are not deleted. -/
theorem completes_course (h : v.InOrder ∧ v.Recorded)
    (hcompletes : v.completes? (.handle e) = some s)
    (hwaiting : ∀ op ∈ waiting, op.retires v.settings = false) :
    ∃ earlier m m', Viewport.Recorded earlier { library := v.library, map := m } ∧
      (v.run (.handle e :: waiting)).map = some m' ∧
      Course { library := v.library, map := m }
        { library := (v.run (.handle e :: waiting)).library, map := m' } := by
  obtain ⟨hactive, -⟩ := completes?_eq_some.1 hcompletes
  obtain hmap | ⟨m, hmap⟩ := Option.eq_none_or_eq_some v.map
  · rw [((inOrder_iff_of_none hmap).1 h.1).1] at hactive
    cases hactive
  · obtain ⟨past, -, width, height, maxLevel, hrecorded⟩ := (recorded_iff_of_some hmap).1 h.2
    obtain ⟨hdestroy, hdrop⟩ := not_mem_of_not_retires hwaiting
    obtain ⟨m', hmap', hcourse⟩ := run_course h.1 hmap (.handle e :: waiting)
      (by simpa using hdestroy) (by simpa using hdrop)
    exact ⟨_, m, m', hrecorded, hmap', hcourse⟩

theorem lingers_of_completes (h : v.InOrder ∧ v.Recorded)
    (hcompletes : v.completes? (.handle e) = some s)
    (hwaiting : ∀ op ∈ waiting, op.retires v.settings = false) :
    Lingers v.library.log s (v.run (.handle e :: waiting)) := by
  obtain ⟨earlier, m, m', hrecorded, hmap', hcourse⟩ := completes_course h hcompletes hwaiting
  exact lingers_of_retiring hrecorded (h.1.run _) hmap' hcourse
    (holding_mem_retiring hcompletes hwaiting)

theorem perform_retired (h : v.InOrder) (hop : op.retires v.settings = true) :
    (v.perform op).draw.retiring = [] := by
  rcases perform_of_retires h hop with ⟨-, -, heq⟩ | ⟨-, heq⟩
  · rw [heq]
    exact retireLayers_retiring h
  · rw [heq]
    exact destroy_retiring h

theorem leaves_of_completes (h : v.InOrder ∧ v.Recorded)
    (hcompletes : v.completes? (.handle e) = some s)
    (hwaiting : ∀ op ∈ waiting, op.retires v.settings = false)
    (hop : op.retires v.settings = true) :
    Leaves v.library.log s ((v.run (.handle e :: waiting)).perform op) := by
  obtain ⟨earlier, m, m', hrecorded, hmap', hcourse⟩ := completes_course h hcompletes hwaiting
  have hw := h.1.run (.handle e :: waiting)
  have hmem := holding_mem_retiring hcompletes hwaiting
  obtain ⟨calls, hcalls⟩ := hcourse.log_grows
  obtain ⟨q, closing, hlast, hlog, hclosing, hmap⟩ := perform_closing hw hmap' op
  have hretires : Retires s.holding v.library.log (v.run (.handle e :: waiting)) :=
    ⟨calls, hcalls.symm, Or.inl hmem⟩
  rw [← run_settings v (.handle e :: waiting)] at hop
  refine leaves_of_retires hrecorded (hcourse.trans hlast) hlog hclosing ?_
    (hretires.perform hw op) (perform_retired hw hop)
  intro m'' hm''
  rw [hmap m'' hm'']

/-! ## The session that waits -/

theorem retireLayers_draw (h : v.InOrder) :
    v.retireLayers.2.draw = { v.draw with retiring := [] } := by
  obtain hmap | ⟨m, hmap⟩ := Option.eq_none_or_eq_some v.map
  · obtain ⟨-, hretiring, -⟩ := (inOrder_iff_of_none hmap).1 h
    simp only [retireLayers, hmap, ← hretiring]
  · simp only [retireLayers, hmap]
    rfl

/-- The session that waits does not lose its layer with those that retire. -/
theorem retireLayers_waits (h : v.InOrder) (hs : s ∈ v.draw.active) (hmap : v.map = some m) :
    ∃ m', v.retireLayers.2.map = some m' ∧ m'.layer? s.layer = m.layer? s.layer ∧
      (s.subscription, s.layer) ∈ m'.subscriptions := by
  have howned := (inOrder_iff_of_some hmap).1 h
  obtain ⟨m', hmap'⟩ := retireLayers_map hmap
  have howned' := (inOrder_iff_of_some hmap').1 (retireLayers_step h).2
  rw [retireLayers_draw h] at howned'
  refine ⟨m', hmap', ?_, howned'.subscription_mem (holding_mem_holdings hs)⟩
  have hretire : v.retireLayers.2.map
      = some (v.draw.retire { library := v.library, map := m }).2.2.map := by
    simp only [retireLayers, hmap]
    rfl
  obtain rfl := Option.some.inj (hmap'.symm.trans hretire)
  exact DrawMode.retire_keeps (fun _ hr => List.mem_map_of_mem hr) _ _ (howned.active_mem hs)
    (howned.active_not_retiring hs)

theorem handle_signal (v : Viewer) (e : ViewportEvent) : (v.handle e).1 = true ↔
    v.settings.draw.retireOn = .nextTurn ∧ ∃ s, v.completes? (.handle e) = some s := by
  cases e with
  | drawPassComplete => simp [handle, completes?]
  | annotationChanged layer drawn =>
      have hanswer : (v.handle (.annotationChanged layer drawn)).1
          = ((v.draw.annotationChanged layer drawn v.bus v.supply).1
            && v.settings.draw.retireOn == .nextTurn) := rfl
      have hcompletes : v.completes? (.handle (.annotationChanged layer drawn))
          = v.draw.completed? layer drawn := rfl
      rw [hanswer, hcompletes]
      cases hcompleted : v.draw.completed? layer drawn with
      | none =>
          rw [DrawMode.annotationChanged_eq_self (DrawMode.completed?_eq_none.1 hcompleted)]
          simp
      | some s =>
          rw [(DrawMode.annotationChanged_retiring hcompleted v.bus v.supply).1]
          simp

/-- **When the layers of sessions that are over are deleted,** as seen from a viewer at any time of
its life. -/
structure DeletesInTime (v : Viewer) : Prop where
  /-- An event calls for a deletion on the next turn exactly if it completes a session and the
  settings say so. -/
  signal : ∀ e, (v.handle e).1 = true ↔
    v.settings.draw.retireOn = .nextTurn ∧ ∃ s, v.completes? (.handle e) = some s
  /-- As long as none is deleted, the layers wait in the order in which their sessions ended. -/
  order : ∀ ops : List Operation, (∀ op ∈ ops, op.retires v.settings = false) →
    (v.run ops).draw.retiring = v.draw.retiring ++ v.completions ops
  /-- All layers that wait are deleted together and in their order. -/
  deletion : ∀ op : Operation, op.retires v.settings = true → (v.perform op).draw.retiring = [] ∧
    ∃ before after, (v.perform op).library.log
        = v.library.log ++ before ++ v.draw.retiring.flatMap RetiringLayer.calls ++ after ∧
      (op ≠ .destroy → op ≠ .drop → before = [] ∧ after = [])
  count : v.retireLayers.1 = v.draw.retiring.length
  lingers : ∀ e s waiting, v.completes? (.handle e) = some s →
    (∀ op ∈ waiting, op.retires v.settings = false) →
    Lingers v.library.log s (v.run (.handle e :: waiting))
  leaves : ∀ e s waiting op, v.completes? (.handle e) = some s →
    (∀ op ∈ waiting, op.retires v.settings = false) → op.retires v.settings = true →
    Leaves v.library.log s ((v.run (.handle e :: waiting)).perform op)
  /-- The session that waits for a shape is left alone, unless the map ends. -/
  waits : ∀ op : Operation, op.retires v.settings = true → op ≠ .destroy → op ≠ .drop →
    (v.perform op).draw = { v.draw with retiring := [] } ∧
      ∀ s m, v.draw.active = some s → v.map = some m → ∃ m', (v.perform op).map = some m' ∧
        m'.layer? s.layer = m.layer? s.layer ∧ (s.subscription, s.layer) ∈ m'.subscriptions

theorem InOrder.deletesInTime (h : v.InOrder) (hrecorded : v.Recorded) : DeletesInTime v where
  signal := handle_signal v
  order := fun ops hops => run_retiring hops
  deletion := by
    intro op hop
    refine ⟨perform_retired h hop, ?_⟩
    rcases perform_of_retires h hop with ⟨-, -, heq⟩ | ⟨hend, heq⟩
    · refine ⟨[], [], ?_, fun _ _ => ⟨rfl, rfl⟩⟩
      rw [heq, retireLayers_log h, List.append_nil, List.append_nil]
    · obtain ⟨before, after, hlog⟩ := destroy_log_retiring h
      refine ⟨before, after, by rw [heq, hlog], fun hdestroy hdrop => ?_⟩
      exact absurd hend (not_or.2 ⟨hdestroy, hdrop⟩)
  count := retireLayers_count h
  lingers := fun e s waiting hcompletes hwaiting =>
    lingers_of_completes ⟨h, hrecorded⟩ hcompletes hwaiting
  leaves := fun e s waiting op hcompletes hwaiting hop =>
    leaves_of_completes ⟨h, hrecorded⟩ hcompletes hwaiting hop
  waits := by
    intro op hop hdestroy hdrop
    obtain ⟨-, -, heq⟩ := (perform_of_retires h hop).resolve_right
      fun hend => absurd hend.1 (not_or.2 ⟨hdestroy, hdrop⟩)
    rw [heq]
    exact ⟨retireLayers_draw h, fun s m hs hmap => retireLayers_waits h hs hmap⟩

/-- In every run there is a moment at which no layer waits, and since which none was deleted that
did: the last deletion, or else the beginning. -/
theorem last_retirement (settings : Settings) (supply : Identity.Supply)
    (drains : DrainOrders) (bus : Bus)
    (ops : List Operation) : ∃ before after, ops = before ++ after ∧
      ((fresh settings supply drains bus).run before).draw.retiring = [] ∧
      ∀ op ∈ after, op.retires settings = false := by
  -- From the end of the run: either its last operation deletes, or the moment lies further back.
  induction ops using List.reverseRecOn with
  | nil => exact ⟨[], [], rfl, rfl, by simp⟩
  | append_singleton ops op ih =>
      cases hop : op.retires settings with
      | true =>
          refine ⟨ops ++ [op], [], (List.append_nil _).symm, ?_, by simp⟩
          rw [run_append]
          refine perform_retired ((inOrder_fresh settings supply drains bus).run ops) ?_
          rw [run_settings]
          exact hop
      | false =>
          obtain ⟨before, after, rfl, hempty, hafter⟩ := ih
          refine ⟨before, after ++ [op], List.append_assoc .., hempty, ?_⟩
          intro op' hop'
          rcases List.mem_append.1 hop' with hop' | hop'
          · exact hafter op' hop'
          · rw [List.mem_singleton.1 hop', hop]

/-- The layers that wait are those of the sessions that were completed since the last deletion, in
their order. -/
theorem run_retiring_since (settings : Settings) (supply : Identity.Supply)
    (drains : DrainOrders) (bus : Bus)
    (ops : List Operation) : ∃ before after, ops = before ++ after ∧
      (∀ op ∈ after, op.retires settings = false) ∧
      ((fresh settings supply drains bus).run ops).draw.retiring
        = ((fresh settings supply drains bus).run before).completions after := by
  obtain ⟨before, after, rfl, hempty, hafter⟩ := last_retirement settings supply drains bus ops
  refine ⟨before, after, rfl, hafter, ?_⟩
  rw [run_append, run_retiring, hempty, List.nil_append]
  rw [run_settings]
  exact hafter

/-- **Layers are deleted in time,** after whatever run and with whatever faults; and those that wait
are the ones of the sessions that were completed since the last deletion. -/
theorem run_deletesInTime (settings : Settings) (supply : Identity.Supply)
    (drains : DrainOrders) (bus : Bus)
    (ops : List Operation) : DeletesInTime ((fresh settings supply drains bus).run ops) ∧
      ∃ before after, ops = before ++ after ∧ (∀ op ∈ after, op.retires settings = false) ∧
        ((fresh settings supply drains bus).run ops).draw.retiring
          = ((fresh settings supply drains bus).run before).completions after := by
  obtain ⟨horder, hrecorded⟩ := recorded_run settings supply drains bus ops
  exact ⟨horder.deletesInTime hrecorded, run_retiring_since settings supply drains bus ops⟩

/-- The layers of two sessions wait while a third session goes on, and they are deleted together. -/
example :
    let done := fun layer : LayerHandle => Operation.handle
      (.annotationChanged layer { kind := .point, coordinates := [⟨4.0, 9.0⟩] })
    let v := rendered.run [.startDrawing .point none, done ⟨2⟩, .startDrawing .point none, done ⟨3⟩,
      .startDrawing .line none]
    v.draw.retiring.map (·.layer) = [⟨2⟩, ⟨3⟩] ∧ v.retireLayers.1 = 2 ∧
      v.retireLayers.2.map.map (·.handles) = some [⟨1⟩, ⟨4⟩] := by
  decide

end Viewer

end ImageOverlay
