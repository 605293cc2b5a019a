import ImageOverlay.Proofs.Draw.Requests
import ImageOverlay.Proofs.Viewer.Layers

set_option autoImplicit false

/-!
# What operations do to sessions

A session is ended by few operations, and each of them has an answer for it. Which operations those
are, and what the answer is, is said by `Operation.verdict?` without regard to what the draw mode
does: a drawing that is done and names the layer of the session, a cancellation, and the end of the
map or of the viewer.

`Viewer.Change` is everything an operation can do to the session that waits and to the requests, in
six cases. That there are no others is `Viewer.perform_change`, and what is true of sessions and
requests over whole runs follows from these cases alone.
-/

namespace ImageOverlay

/-! ## Verdicts -/

/-- The answer an operation gives to the session on a layer, if it ends that session. -/
def Operation.verdict? (layer : LayerHandle) (supply : Identity.Supply) :
    Operation → Option DrawResult
  | .handle (.annotationChanged changed drawn) =>
      if changed = layer ∧ drawn.state = .done then
        match convert drawn with
        | .error e => some (.error (.conversion e))
        | .ok element => some (.ok { element := (element.identified supply).1, drawn })
      else none
  | .cancelDrawing => some (.error .cancelled)
  | .destroy => some (.error .cancelled)
  | .drop => some (.error .cancelled)
  | _ => none

/-- The request an operation looks at. -/
def Operation.polled? : Operation → Option RequestId
  | .poll request => some request
  | .pollRegion request => some request.request
  | _ => none

/-- An operation that neither ends a session nor looks at a request. -/
def Operation.IsQuiet (supply : Identity.Supply) (op : Operation) : Prop :=
  op.polled? = none ∧ ∀ layer, op.verdict? layer supply = none

/-- An operation that tells the application nothing. -/
def Operation.IsMute (op : Operation) : Prop :=
  op ≠ .render ∧ ∀ layer drawn, op ≠ .handle (.annotationChanged layer drawn)

theorem Operation.not_isMute {op : Operation} :
    ¬ op.IsMute ↔ op = .render ∨ ∃ layer drawn, op = .handle (.annotationChanged layer drawn) := by
  simp only [IsMute, not_and_or, not_forall, not_not]

/-- What ends a session does not look at a request. -/
theorem Operation.polled?_eq_none {op : Operation} {layer : LayerHandle} {supply : Identity.Supply}
    {r : DrawResult} (h : op.verdict? layer supply = some r) : op.polled? = none := by
  cases op with
  | poll | pollRegion => cases h
  | attach | setImage | render | addOverlay | removeOverlay | clearOverlays | startDrawing
  | drawRegion | dropRequest | handle | cancelDrawing | retireLayers | destroy | drop | arm => rfl

namespace Viewer

/-! ## What an operation can do to the session that waits -/

/-- What one operation does to the session that waits and to the requests, where `next` is the
handle the map has for the next layer. -/
inductive Change (op : Operation) (supply : Identity.Supply) (next : Option LayerHandle)
    (d d' : DrawMode) : Prop where
  | kept (hop : op.polled? = none) (hactive : d'.active = d.active)
      (hrequests : d'.requests = d.requests)
      (hgoesOn : ∀ s ∈ d.active, op.verdict? s.layer supply = none)
  | evicted (hop : op.polled? = none) (s : DrawSession) (hactive : d.active = some s)
      (hdropped : d.requests.known? s.request = none) (hactive' : d'.active = none)
      (hrequests : d'.requests = d.requests)
  | started (hop : op.polled? = none) (s : DrawSession)
      (hfree : ∀ s ∈ d.active, d.requests.known? s.request = none)
      (hactive' : d'.active = some s) (hlayer : next = some s.layer)
      (hrequest : s.request = d.requests.create.1)
      (hrequests : d'.requests = d.requests.create.2)
  | ended (s : DrawSession) (r : DrawResult) (hactive : d.active = some s)
      (hverdict : op.verdict? s.layer supply = some r) (hactive' : d'.active = none)
      (hrequests : d'.requests = d.requests.answer s.request r)
  | polled (request : RequestId) (hop : op.polled? = some request) (hactive : d'.active = d.active)
      (hrequests : d'.requests = (d.requests.poll request).2)
      (hgoesOn : ∀ s ∈ d.active, op.verdict? s.layer supply = none)
  | dropped (request : RequestId) (hop : op = .dropRequest request)
      (hactive : d'.active = d.active) (hrequests : d'.requests = d.requests.drop request)

/-- The layers that retire do not matter. -/
theorem Change.of_eq {op : Operation} {supply : Identity.Supply} {next : Option LayerHandle}
    {d d₁ d₂ : DrawMode} (h : Change op supply next d d₁) (hactive : d₂.active = d₁.active)
    (hrequests : d₂.requests = d₁.requests) : Change op supply next d d₂ := by
  cases h with
  | kept hop hactive₁ hrequests₁ hgoesOn =>
      exact .kept hop (hactive.trans hactive₁) (hrequests.trans hrequests₁) hgoesOn
  | evicted hop s hs hdropped hactive₁ hrequests₁ =>
      exact .evicted hop s hs hdropped (hactive.trans hactive₁) (hrequests.trans hrequests₁)
  | started hop s hfree hactive₁ hlayer hrequest hrequests₁ =>
      exact .started hop s hfree (hactive.trans hactive₁) hlayer hrequest
        (hrequests.trans hrequests₁)
  | ended s r hs hverdict hactive₁ hrequests₁ =>
      exact .ended s r hs hverdict (hactive.trans hactive₁) (hrequests.trans hrequests₁)
  | polled request hop hactive₁ hrequests₁ hgoesOn =>
      exact .polled request hop (hactive.trans hactive₁) (hrequests.trans hrequests₁) hgoesOn
  | dropped request hop hactive₁ hrequests₁ =>
      exact .dropped request hop (hactive.trans hactive₁) (hrequests.trans hrequests₁)

end Viewer

namespace DrawMode

open Viewer (Change)

variable {d : DrawMode} {supply : Identity.Supply} {next : Option LayerHandle}

theorem openLayer_layer {shape : ShapeKind} {p q : Viewport} {layer : LayerHandle}
    {subscription : SubscriptionId}
    (h : openLayer shape p = (.ok (layer, subscription), q)) : layer = p.map.freshLayer := by
  unfold openLayer at h
  rcases p.createLayer_cases .annotationDraw with ⟨e, library, -, heq⟩ | ⟨-, heq⟩
  · rw [heq] at h
    cases h
  · rw [heq] at h
    generalize p.commit _ _ = created at h
    simp only at h
    split at h
    · cases h
    · split at h
      · cases h
      · cases h
        rfl

theorem evict_freshLayer (d : DrawMode) (p : Viewport) :
    (d.evict p).2.map.freshLayer = p.map.freshLayer := by
  unfold evict
  split
  · rfl
  · split <;> rfl

/-- A start succeeds with a new request and a new layer, or fails and leaves the requests
alone. Either way the session that waited is gone only if its request was dropped. -/
theorem start_cases (shape : ShapeKind) (options : DrawOptions) (d : DrawMode) (p : Viewport) :
    (∃ e, (d.start shape options p).1 = .error e ∧
        (d.start shape options p).2.1.requests = d.requests ∧
        ((d.start shape options p).2.1.active = d.active ∨
          (d.start shape options p).2.1.active = none ∧
            ∃ s, d.active = some s ∧ d.requests.known? s.request = none))
      ∨ ∃ s, (d.start shape options p).1 = .ok s.request ∧
          (d.start shape options p).2.1.active = some s ∧
          (d.start shape options p).2.1.requests = d.requests.create.2 ∧
          s.layer = p.map.freshLayer ∧ s.request = d.requests.create.1 ∧
          ∀ s ∈ d.active, d.requests.known? s.request = none := by
  cases hactive : d.active with
  | none =>
      have hevict : d.evict p = (d, p) := evict_eq_self (by simp [hactive])
      have hidle : (d.evict p).1.active = none := by rw [hevict, hactive]
      rcases hopen : openLayer shape (d.evict p).2 with ⟨e | ⟨layer, subscription⟩, q⟩
      · rw [start_eq_error hidle hopen, hevict]
        exact Or.inl ⟨_, rfl, rfl, Or.inl hactive⟩
      · have hlayer := (openLayer_layer hopen).trans (evict_freshLayer d p)
        rw [start_eq_ok hidle hopen, hevict]
        exact Or.inr ⟨_, rfl, rfl, rfl, hlayer, rfl, by simp⟩
  | some session =>
      -- The session that waits is in the way if its request is held, and gone otherwise, whether
      -- or not the map then lets the new one start.
      by_cases hheld : d.requests.isHeld session.request = true
      · rw [start_eq_busy hactive hheld]
        exact Or.inl ⟨_, rfl, rfl, Or.inl hactive⟩
      · have hevict := evict_eq_discard (p := p) hactive hheld
        have hidle : (d.evict p).1.active = none := by rw [hevict]
        have hdropped := Requests.isHeld_eq_false.1 (Bool.not_eq_true _ ▸ hheld)
        rcases hopen : openLayer shape (d.evict p).2 with ⟨e | ⟨layer, subscription⟩, q⟩
        · rw [start_eq_error hidle hopen, hevict]
          exact Or.inl ⟨_, rfl, rfl, Or.inr ⟨rfl, session, rfl, hdropped⟩⟩
        · have hlayer := (openLayer_layer hopen).trans (evict_freshLayer d p)
          rw [start_eq_ok hidle hopen, hevict]
          exact Or.inr ⟨_, rfl, rfl, rfl, hlayer, rfl, by simpa using hdropped⟩

theorem start_change {op : Operation} (hop : op.IsQuiet supply)
    (shape : ShapeKind) (options : DrawOptions) (d : DrawMode) (p : Viewport) :
    Change op supply (some p.map.freshLayer) d (d.start shape options p).2.1 := by
  rcases start_cases shape options d p with
    ⟨e, -, hrequests, hactive | ⟨hactive', s, hactive, hdropped⟩⟩
    | ⟨s, -, hactive, hrequests, hlayer, hrequest, hfree⟩
  · exact .kept hop.1 hactive hrequests fun s _ => hop.2 s.layer
  · exact .evicted hop.1 s hactive hdropped hactive' hrequests
  · exact .started hop.1 s hfree hactive (congrArg some hlayer.symm) hrequest hrequests

/-- A drawing is a verdict exactly for the session it completes. -/
theorem annotationChanged_change (layer : LayerHandle) (drawn : Drawn) (d : DrawMode) (bus : Bus)
    (supply : Identity.Supply) :
    Change (.handle (.annotationChanged layer drawn)) supply next d
      (d.annotationChanged layer drawn bus supply).2.1 := by
  cases hcompleted : d.completed? layer drawn with
  | none =>
      have hforeign := completed?_eq_none.1 hcompleted
      rw [annotationChanged_eq_self hforeign]
      refine .kept rfl rfl rfl fun s hs => if_neg ?_
      rintro ⟨rfl, hdone⟩
      exact hforeign s hs rfl hdone
  | some session =>
      obtain ⟨hactive, hlayer, hdone⟩ := completed?_eq_some.1 hcompleted
      unfold annotationChanged
      simp only [hcompleted]
      cases hconvert : convert drawn with
      | error e =>
          refine .ended session _ hactive ?_ rfl rfl
          rw [Operation.verdict?, if_pos ⟨hlayer.symm, hdone⟩, hconvert]
      | ok element =>
          refine .ended session _ hactive ?_ rfl rfl
          rw [Operation.verdict?, if_pos ⟨hlayer.symm, hdone⟩, hconvert]

/-- What ends the session that waits without a shape is a verdict. -/
theorem cancel_change {op : Operation}
    (hop : ∀ layer, op.verdict? layer supply = some (.error .cancelled)) (d : DrawMode)
    (p : Viewport) : Change op supply next d (d.cancel p).2.1 := by
  cases hactive : d.active with
  | none =>
      rw [cancel_eq_self hactive]
      exact .kept (Operation.polled?_eq_none (hop tileLayer)) rfl rfl (by simp [hactive])
  | some session =>
      rw [cancel_eq_discard hactive]
      exact .ended session _ hactive (hop _) rfl rfl

end DrawMode

namespace Viewer

variable {v v' : Viewer}

/-! ## The operations, one by one -/

/-- To ask for a region is to ask for a rectangle, but for the slot. -/
theorem drawRegion_eq (slot : Option SlotId) (v : Viewer) :
    ∃ slots, (v.drawRegion slot).2
      = { (v.startDrawing .rectangle (some .silent)).2 with slots } := by
  unfold drawRegion
  generalize v.startDrawing .rectangle (some .silent) = started
  obtain ⟨result, w⟩ := started
  cases result with
  | error e => exact ⟨w.slots, rfl⟩
  | ok request =>
      cases slot with
      | some slot => exact ⟨w.slots, rfl⟩
      | none => exact ⟨w.slots.create.2, rfl⟩

theorem render_draw (v : Viewer) : v.render.2.draw = v.draw := by
  unfold render
  repeat' split
  all_goals rfl

theorem addOverlay_draw (d : Document) (v : Viewer) : (v.perform (.addOverlay d)).draw = v.draw := by
  cases hmap : v.map <;> simp only [perform, Viewer.renderAnnotation, hmap, withViewport]

theorem removeOverlay_draw (id : String) (v : Viewer) :
    (v.perform (.removeOverlay id)).draw = v.draw := by
  cases hmap : v.map <;> simp only [perform, Viewer.unrenderAnnotation, hmap, withViewport]

theorem clearAnnotations_draw (v : Viewer) : v.clearAnnotations.2.draw = v.draw := by
  cases hmap : v.map <;> simp only [clearAnnotations, hmap, withViewport]

variable {op : Operation} {supply : Identity.Supply} {next : Option LayerHandle}

/-- An operation that leaves the draw mode alone. -/
theorem kept_of_draw (hdraw : v'.draw = v.draw) (hop : op.IsQuiet supply) :
    Change op supply next v.draw v'.draw := by
  rw [hdraw]
  exact .kept hop.1 rfl rfl fun s _ => hop.2 s.layer

theorem retireLayers_change (v : Viewer) (hop : op.IsQuiet supply) :
    Change op supply next v.draw v.retireLayers.2.draw := by
  unfold retireLayers
  cases v.map with
  | none => exact kept_of_draw rfl hop
  | some m => exact .kept hop.1 rfl rfl fun s _ => hop.2 s.layer

theorem startDrawing_change (hop : op.IsQuiet supply) (shape : ShapeKind)
    (options : Option DrawOptions) (v : Viewer) :
    Change op supply (v.map.map MapState.freshLayer) v.draw (v.startDrawing shape options).2.draw := by
  unfold startDrawing
  cases v.map with
  | none => exact kept_of_draw rfl hop
  | some m =>
      exact DrawMode.start_change hop shape (options.getD v.settings.drawOptions) v.draw
        { library := v.library, map := m }

/-- The end of a map is a cancellation. Without a map no session waits for one. -/
theorem destroy_change (h : v.InOrder)
    (hop : ∀ layer, op.verdict? layer supply = some (.error .cancelled)) :
    Change op supply next v.draw v.destroy.draw := by
  unfold destroy
  cases hmap : v.map with
  | none =>
      have hactive := ((inOrder_iff_of_none hmap).1 h).1
      exact .kept (Operation.polled?_eq_none (hop tileLayer)) rfl rfl (by simp [hactive])
  | some m =>
      -- The layers that retire go on the way, but nobody waits for those.
      have hcancel : Change op supply next v.draw
          (v.draw.cancel { library := v.library, map := m }).2.1 :=
        DrawMode.cancel_change hop _ _
      exact hcancel.of_eq rfl rfl

/-- **Every operation changes the session that waits and the requests in one of six ways.** -/
theorem perform_change (h : v.InOrder) (op : Operation) :
    Change op v.supply (v.map.map MapState.freshLayer) v.draw (v.perform op).draw := by
  cases op with
  | attach => exact kept_of_draw rfl ⟨rfl, fun _ => rfl⟩
  | setImage item info => exact kept_of_draw rfl ⟨rfl, fun _ => rfl⟩
  | arm call e => exact kept_of_draw rfl ⟨rfl, fun _ => rfl⟩
  | render => exact kept_of_draw (render_draw v) ⟨rfl, fun _ => rfl⟩
  | addOverlay d => exact kept_of_draw (addOverlay_draw d v) ⟨rfl, fun _ => rfl⟩
  | removeOverlay id => exact kept_of_draw (removeOverlay_draw id v) ⟨rfl, fun _ => rfl⟩
  | clearOverlays => exact kept_of_draw (clearAnnotations_draw v) ⟨rfl, fun _ => rfl⟩
  | startDrawing shape options => exact startDrawing_change ⟨rfl, fun _ => rfl⟩ shape options v
  | drawRegion slot =>
      obtain ⟨slots, heq⟩ := drawRegion_eq slot v
      show Change _ _ _ _ (v.drawRegion slot).2.draw
      rw [heq]
      exact startDrawing_change ⟨rfl, fun _ => rfl⟩ _ _ v
  | poll request => exact .polled request rfl rfl rfl fun _ _ => rfl
  | pollRegion r =>
      obtain ⟨slots, heq⟩ := pollRegion_eq v r
      show Change _ _ _ _ (v.pollRegion r).2.draw
      rw [heq]
      exact .polled r.request rfl rfl rfl fun _ _ => rfl
  | dropRequest request => exact .dropped request rfl rfl rfl
  | retireLayers => exact retireLayers_change v ⟨rfl, fun _ => rfl⟩
  | handle e =>
      cases e with
      | annotationChanged layer drawn => exact DrawMode.annotationChanged_change _ _ _ _ _
      | drawPassComplete =>
          show Change _ _ _ _ (v.handle .drawPassComplete).2.draw
          unfold handle
          by_cases hretire : v.settings.draw.retireOn = .drawPass
          · simp only [if_pos hretire]
            exact retireLayers_change v ⟨rfl, fun _ => rfl⟩
          · simp only [if_neg hretire]
            exact kept_of_draw rfl ⟨rfl, fun _ => rfl⟩
  | cancelDrawing =>
      show Change _ _ _ _ v.cancelDrawing.2.draw
      unfold cancelDrawing
      cases hmap : v.map with
      | none =>
          have hactive := ((inOrder_iff_of_none hmap).1 h).1
          exact .kept rfl rfl rfl (by simp [hactive])
      | some m => exact DrawMode.cancel_change (fun _ => rfl) _ _
  | destroy => exact destroy_change h fun _ => rfl
  | drop =>
      show Change _ _ _ _ v.drop.draw
      rw [drop_eq_destroy h]
      exact destroy_change h fun _ => rfl

/-! ## What operations leave alone -/

theorem retireLayers_frame (v : Viewer) :
    v.retireLayers.2.settings = v.settings ∧ v.retireLayers.2.bus = v.bus := by
  unfold retireLayers
  split <;> exact ⟨rfl, rfl⟩

theorem startDrawing_frame (shape : ShapeKind) (options : Option DrawOptions) (v : Viewer) :
    (v.startDrawing shape options).2.settings = v.settings ∧
      (v.startDrawing shape options).2.bus = v.bus := by
  unfold startDrawing
  split <;> exact ⟨rfl, rfl⟩

theorem destroy_frame (v : Viewer) :
    v.destroy.settings = v.settings ∧ v.destroy.bus = v.bus := by
  unfold destroy
  split <;> exact ⟨rfl, rfl⟩

/-- **Only a map that is built and a drawing can be news for the application,** and nothing changes
the settings. -/
theorem perform_frame (hop : op.IsMute) :
    (v.perform op).settings = v.settings ∧ (v.perform op).bus = v.bus := by
  cases op with
  | render => exact absurd rfl hop.1
  | attach | setImage | poll | dropRequest | arm => exact ⟨rfl, rfl⟩
  | addOverlay d =>
      cases hmap : v.map <;>
        simp only [perform, Viewer.renderAnnotation, hmap, withViewport, and_self]
  | removeOverlay id =>
      cases hmap : v.map <;>
        simp only [perform, Viewer.unrenderAnnotation, hmap, withViewport, and_self]
  | clearOverlays =>
      cases hmap : v.map <;> simp only [perform, clearAnnotations, hmap, withViewport, and_self]
  | startDrawing shape options => exact startDrawing_frame shape options v
  | drawRegion slot =>
      obtain ⟨slots, heq⟩ := drawRegion_eq slot v
      rw [perform, heq]
      exact startDrawing_frame _ _ v
  | pollRegion r =>
      obtain ⟨slots, heq⟩ := pollRegion_eq v r
      rw [perform, heq]
      exact ⟨rfl, rfl⟩
  | handle e =>
      cases e with
      | annotationChanged layer drawn => exact absurd rfl (hop.2 layer drawn)
      | drawPassComplete =>
          simp only [perform, handle]
          split
          · exact retireLayers_frame v
          · exact ⟨rfl, rfl⟩
  | cancelDrawing =>
      cases hmap : v.map <;> simp only [perform, cancelDrawing, hmap, withViewport, and_self]
  | retireLayers => exact retireLayers_frame v
  | destroy => exact destroy_frame v
  | drop => exact destroy_frame v

/-- A viewer keeps the settings it was made with. -/
theorem perform_settings (v : Viewer) (op : Operation) :
    (v.perform op).settings = v.settings := by
  by_cases hmute : op.IsMute
  · exact (perform_frame hmute).1
  · rcases Operation.not_isMute.1 hmute with rfl | ⟨layer, drawn, rfl⟩
    · show v.render.2.settings = v.settings
      unfold render
      repeat' split
      all_goals rfl
    · rfl

theorem run_settings (v : Viewer) (ops : List Operation) : (v.run ops).settings = v.settings :=
  run_invariant (P := fun w => w.settings = v.settings)
    (fun w op hw => (perform_settings w op).trans hw) rfl ops

end Viewer

end ImageOverlay
