import ImageOverlay.Proofs.Viewer.Completion

set_option autoImplicit false

/-!
# The sessions of a run

`Viewer.endings` lists the sessions that end in a run, with the operation that ends each of them. It
follows a session from the call that starts it to the first verdict, or to the call whose session
takes its place because nobody waits for it, and it does not look at what the draw mode makes of the
session.

That the draw mode makes the same of it is `Viewer.stillOpen?_eq`: the session that waits is the one
that is open, with the options it was started with. So no session ends twice
(`Viewer.endings_nodup`).
-/

namespace ImageOverlay

/-! ## Openings and endings -/

/-- A session as it was started: its request, its layer and its options. -/
structure Opening where
  request : RequestId
  layer : LayerHandle
  options : DrawOptions

/-- A session as the draw mode has it. -/
def DrawSession.opening (s : DrawSession) : Opening where
  request := s.request
  layer := s.layer
  options := s.options

/-- The options of the session an operation starts: those it names, or those of the settings. -/
def Operation.options (settings : Settings) : Operation → DrawOptions
  | .startDrawing _ options => options.getD settings.drawOptions
  | _ => .silent

/-- The session an operation starts, if the caller is given a request. -/
def Operation.opens? (v : Viewer) (op : Operation) : Option Opening :=
  (op.issued? v).bind fun request => (v.perform op).draw.activeLayer?.map fun layer =>
    { request, layer, options := op.options v.settings }

/-- Whether an operation asks for a session, which takes the place of one that nobody waits for. -/
def Operation.isStart : Operation → Bool
  | .startDrawing _ _ => true
  | .drawRegion _ => true
  | _ => false

/-- The end of a session: the viewer before it, the operation and the answer. -/
structure Ending where
  opening : Opening
  before : Viewer
  op : Operation
  result : DrawResult

namespace Viewer

/-- Whether a session goes on: there is no verdict, and it does not make room for another. -/
def goesOn (v : Viewer) (op : Operation) (o : Opening) : Bool :=
  (op.verdict? o.layer v.supply).isNone && (v.draw.requests.isHeld o.request || !op.isStart)

/-- The session that is open after an operation: the one it starts, or the one that was open, if it
goes on. -/
def stillOpen? (v : Viewer) (open? : Option Opening) (op : Operation) : Option Opening :=
  (op.opens? v).or (open?.filter (v.goesOn op))

/-- The end of the session that is open, if an operation ends it. -/
def ends? (v : Viewer) (open? : Option Opening) (op : Operation) : Option Ending :=
  open?.bind fun o => (op.verdict? o.layer v.supply).map fun r => ⟨o, v, op, r⟩

/-- The sessions that end in a run, in order. -/
def endings (v : Viewer) (open? : Option Opening) : List Operation → List Ending
  | [] => []
  | op :: ops =>
      (v.ends? open? op).toList ++ (v.perform op).endings (v.stillOpen? open? op) ops

end Viewer

/-! ## The session that waits is the one that is open -/

namespace DrawMode

variable {d : DrawMode} {p : Viewport}

theorem evict_requests (d : DrawMode) (p : Viewport) : (d.evict p).1.requests = d.requests := by
  unfold evict
  split
  · rfl
  · split <;> rfl

/-- Once nothing is in its way a start depends on the map alone. -/
theorem start_of_evicted (shape : ShapeKind) (options : DrawOptions)
    (hidle : (d.evict p).1.active = none) :
    (∃ e, (d.start shape options p).1 = .error e ∧ (d.start shape options p).2.1.active = none)
      ∨ ∃ s, (d.start shape options p).1 = .ok s.request ∧
          (d.start shape options p).2.1.active = some s ∧ s.options = options ∧
          s.request = d.requests.create.1 := by
  rcases hopen : openLayer shape (d.evict p).2 with ⟨e | ⟨layer, subscription⟩, q⟩
  · rw [start_eq_error hidle hopen]
    exact Or.inl ⟨_, rfl, hidle⟩
  · rw [start_eq_ok hidle hopen, evict_requests]
    exact Or.inr ⟨_, rfl, rfl, rfl, rfl⟩

/-- A start that fails leaves the session that waits alone exactly if its request is held, and one
that does not gives a new session a new request and its options. -/
theorem start_spec (shape : ShapeKind) (options : DrawOptions) (d : DrawMode) (p : Viewport) :
    (∃ e, (d.start shape options p).1 = .error e ∧ (d.start shape options p).2.1.active
        = d.active.filter fun s => d.requests.isHeld s.request)
      ∨ ∃ s, (d.start shape options p).1 = .ok s.request ∧
          (d.start shape options p).2.1.active = some s ∧ s.options = options ∧
          s.request = d.requests.create.1 := by
  cases hactive : d.active with
  | none =>
      have hidle : (d.evict p).1.active = none := by
        rw [evict_eq_self (by simp [hactive]), hactive]
      exact start_of_evicted shape options hidle
  | some session =>
      by_cases hheld : d.requests.isHeld session.request = true
      · rw [start_eq_busy hactive hheld, Option.filter_some, if_pos hheld]
        exact Or.inl ⟨_, rfl, hactive⟩
      · have hidle : (d.evict p).1.active = none := by rw [evict_eq_discard hactive hheld]
        rw [Option.filter_some, if_neg hheld]
        exact start_of_evicted shape options hidle

end DrawMode

namespace Viewer

variable {v : Viewer} {op : Operation} {s : DrawSession}

/-- The same of a viewer, for which a map that is not there is a failure, too. -/
theorem startDrawing_spec (h : v.InOrder) (shape : ShapeKind) (options : Option DrawOptions) :
    ((v.startDrawing shape options).1.toOption = none ∧
        (v.startDrawing shape options).2.draw.active
          = v.draw.active.filter fun s => v.draw.requests.isHeld s.request)
      ∨ ∃ s, (v.startDrawing shape options).1.toOption = some s.request ∧
          (v.startDrawing shape options).2.draw.active = some s ∧
          s.options = options.getD v.settings.drawOptions ∧
          s.request = v.draw.requests.create.1 := by
  unfold startDrawing
  cases hmap : v.map with
  | none =>
      have hidle := ((inOrder_iff_of_none hmap).1 h).1
      exact Or.inl ⟨rfl, by simp [hidle]⟩
  | some m =>
      rcases DrawMode.start_spec shape (options.getD v.settings.drawOptions) v.draw
          { library := v.library, map := m } with ⟨e, hresult, hactive⟩ | ⟨s, hresult, hstarted⟩
      · simp only [hresult]
        exact Or.inl ⟨rfl, hactive⟩
      · simp only [hresult]
        exact Or.inr ⟨s, rfl, hstarted⟩

/-- **A session that was started** has a new request and the options it was started with. -/
theorem started_of_issued (h : v.InOrder) {request : RequestId}
    (hissued : op.issued? v = some request) :
    ∃ s, (v.perform op).draw.active = some s ∧ s.request = request ∧
      s.options = op.options v.settings ∧ request = v.draw.requests.create.1 := by
  have hstart : ∀ shape options, (v.startDrawing shape options).1.toOption = some request →
      ∃ s, (v.startDrawing shape options).2.draw.active = some s ∧ s.request = request ∧
        s.options = options.getD v.settings.drawOptions ∧
        request = v.draw.requests.create.1 := by
    intro shape options hresult
    rcases startDrawing_spec h shape options with ⟨hfailed, -⟩ | ⟨s, hs, hactive, hoptions, hnew⟩
    · rw [hfailed] at hresult
      cases hresult
    · obtain rfl := Option.some.inj (hs.symm.trans hresult)
      exact ⟨s, hactive, rfl, hoptions, hnew⟩
  cases op with
  | startDrawing shape options => exact hstart shape options hissued
  | drawRegion slot =>
      obtain ⟨slots, heq⟩ := drawRegion_eq slot v
      have hresult := (drawRegion_request slot v).symm.trans hissued
      show ∃ s, (v.drawRegion slot).2.draw.active = some s ∧ _
      rw [heq]
      exact hstart .rectangle (some .silent) hresult
  | attach | setImage | render | addOverlay | removeOverlay | clearOverlays | poll | pollRegion
  | dropRequest | handle | cancelDrawing | retireLayers | destroy | drop | arm => cases hissued

/-- A start that fails takes the session that waits only if nobody else does. -/
theorem startDrawing_active (h : v.InOrder) {shape : ShapeKind} {options : Option DrawOptions}
    (hfailed : (v.startDrawing shape options).1.toOption = none) :
    (v.startDrawing shape options).2.draw.active
      = v.draw.active.filter fun s => v.draw.requests.isHeld s.request := by
  rcases startDrawing_spec h shape options with ⟨-, hactive⟩ | ⟨s, hs, -⟩
  · exact hactive
  · rw [hs] at hfailed
    cases hfailed

theorem retireLayers_active (v : Viewer) : v.retireLayers.2.draw.active = v.draw.active := by
  unfold retireLayers
  split <;> rfl

theorem destroy_active (h : v.InOrder) : v.destroy.draw.active = none :=
  ((inOrder_iff_of_none (destroy_map v)).1 (destroy_step h).2).1

/-- The session that waits, if it goes on. -/
def goingOn? (v : Viewer) (op : Operation) : Option DrawSession :=
  v.draw.active.filter fun s => v.goesOn op s.opening

theorem goingOn?_of_quiet (hop : ∀ layer, op.verdict? layer v.supply = none)
    (hstart : op.isStart = false) : v.goingOn? op = v.draw.active := by
  cases hactive : v.draw.active <;>
    simp [goingOn?, goesOn, hop, hstart, hactive, Option.filter_some]

theorem goingOn?_of_cancelled
    (hop : ∀ layer, op.verdict? layer v.supply = some (.error .cancelled)) :
    v.goingOn? op = none := by
  simp [goingOn?, goesOn, hop]

theorem goingOn?_of_start (hop : ∀ layer, op.verdict? layer v.supply = none)
    (hstart : op.isStart = true) :
    v.goingOn? op = v.draw.active.filter fun s => v.draw.requests.isHeld s.request := by
  simp [goingOn?, goesOn, hop, hstart, DrawSession.opening]

theorem annotationChanged_goingOn? (layer : LayerHandle) (drawn : Drawn) (v : Viewer) :
    (v.perform (.handle (.annotationChanged layer drawn))).draw.active
      = v.goingOn? (.handle (.annotationChanged layer drawn)) := by
  show (v.draw.annotationChanged layer drawn v.bus v.supply).2.1.active = _
  have hgoesOn : ∀ s, v.draw.active = some s →
      v.goesOn (.handle (.annotationChanged layer drawn)) s.opening
        = (v.draw.completed? layer drawn).isNone := by
    intro s hs
    have hverdict := DrawMode.verdict?_eq_completed? hs layer drawn v.supply
    simp [goesOn, DrawSession.opening, Operation.isStart, hverdict]
  cases hcompleted : v.draw.completed? layer drawn with
  | none =>
      rw [DrawMode.annotationChanged_eq_self (DrawMode.completed?_eq_none.1 hcompleted)]
      cases hactive : v.draw.active with
      | none => simp [goingOn?, hactive]
      | some s =>
          have hstays := hgoesOn s hactive
          rw [hcompleted] at hstays
          rw [goingOn?, hactive, Option.filter_some, hstays]
          rfl
  | some s =>
      have hactive := (DrawMode.completed?_eq_some.1 hcompleted).1
      have hover := hgoesOn s hactive
      rw [hcompleted] at hover
      obtain ⟨supply', heq⟩ := DrawMode.annotationChanged_completed hcompleted v.bus v.supply
      rw [heq, goingOn?, hactive, Option.filter_some, hover]
      rfl

/-- **Where no session starts, the one that waits goes on as `goesOn` says.** -/
theorem perform_active_of_not_issued (h : v.InOrder) (hop : op.issued? v = none) :
    (v.perform op).draw.active = v.goingOn? op := by
  have hquiet : ∀ {w : Viewer}, w.draw.active = v.draw.active →
      (∀ layer, op.verdict? layer v.supply = none) → op.isStart = false →
      w.draw.active = v.goingOn? op := by
    intro w hactive hop hstart
    rw [hactive, goingOn?_of_quiet hop hstart]
  cases op with
  | attach | setImage | poll | dropRequest | arm => exact hquiet rfl (fun _ => rfl) rfl
  | render => exact hquiet (congrArg DrawMode.active (render_draw v)) (fun _ => rfl) rfl
  | addOverlay d =>
      exact hquiet (congrArg DrawMode.active (addOverlay_draw d v)) (fun _ => rfl) rfl
  | removeOverlay id =>
      exact hquiet (congrArg DrawMode.active (removeOverlay_draw id v)) (fun _ => rfl) rfl
  | clearOverlays =>
      exact hquiet (congrArg DrawMode.active (clearAnnotations_draw v)) (fun _ => rfl) rfl
  | startDrawing shape options =>
      rw [goingOn?_of_start (fun _ => rfl) rfl]
      exact startDrawing_active h hop
  | drawRegion slot =>
      obtain ⟨slots, heq⟩ := drawRegion_eq slot v
      have hfailed := (drawRegion_request slot v).symm.trans hop
      rw [goingOn?_of_start (fun _ => rfl) rfl, perform, heq]
      exact startDrawing_active h hfailed
  | pollRegion r =>
      obtain ⟨slots, heq⟩ := pollRegion_eq v r
      exact hquiet (congrArg (fun w => w.draw.active) heq) (fun _ => rfl) rfl
  | handle e =>
      cases e with
      | annotationChanged layer drawn => exact annotationChanged_goingOn? layer drawn v
      | drawPassComplete =>
          refine hquiet ?_ (fun _ => rfl) rfl
          simp only [perform, handle]
          split
          · exact retireLayers_active v
          · rfl
  | cancelDrawing =>
      rw [goingOn?_of_cancelled fun _ => rfl]
      simp only [perform, cancelDrawing]
      cases hmap : v.map with
      | none => exact ((inOrder_iff_of_none hmap).1 h).1
      | some m => exact DrawMode.cancel_active
  | retireLayers => exact hquiet (retireLayers_active v) (fun _ => rfl) rfl
  | destroy =>
      rw [goingOn?_of_cancelled fun _ => rfl]
      exact destroy_active h
  | drop =>
      rw [goingOn?_of_cancelled fun _ => rfl, perform, drop_eq_destroy h]
      exact destroy_active h

/-- **The session that waits is the one that is open.** -/
theorem stillOpen?_eq (h : v.Regular) (op : Operation) :
    v.stillOpen? (v.draw.active.map DrawSession.opening) op
      = (v.perform op).draw.active.map DrawSession.opening := by
  unfold stillOpen? Operation.opens? DrawMode.activeLayer?
  cases hissued : op.issued? v with
  | some request =>
      obtain ⟨s, hactive, rfl, hoptions, -⟩ := started_of_issued h.inOrder hissued
      simp [hactive, DrawSession.opening, ← hoptions]
  | none =>
      rw [perform_active_of_not_issued h.inOrder hissued, goingOn?]
      cases hactive : v.draw.active with
      | none => rfl
      | some s => cases hgoesOn : v.goesOn op s.opening <;> simp [hgoesOn, Option.filter_some]

theorem ends?_eq_some {open? : Option Opening} {e : Ending} :
    v.ends? open? op = some e
      ↔ e.before = v ∧ e.op = op ∧ open? = some e.opening ∧
        op.verdict? e.opening.layer v.supply = some e.result := by
  obtain ⟨opening, before, ender, result⟩ := e
  cases open? with
  | none => simp [ends?]
  | some o =>
      simp only [ends?, Option.bind_some, Option.map_eq_some_iff, Ending.mk.injEq,
        Option.some.injEq]
      constructor
      · rintro ⟨r, hverdict, rfl, rfl, rfl, rfl⟩
        exact ⟨rfl, rfl, rfl, hverdict⟩
      · rintro ⟨rfl, rfl, rfl, hverdict⟩
        exact ⟨result, hverdict, rfl, rfl, rfl, rfl⟩

/-- What ends a session is no start of another. -/
theorem issued?_eq_none {layer : LayerHandle} {supply : Identity.Supply} {r : DrawResult}
    (h : op.verdict? layer supply = some r) : op.issued? v = none := by
  cases op with
  | startDrawing | drawRegion => cases h
  | attach | setImage | render | addOverlay | removeOverlay | clearOverlays | poll | pollRegion
  | dropRequest | handle | cancelDrawing | retireLayers | destroy | drop | arm => rfl

/-- A verdict ends the session that waits, whether or not its request is still held. -/
theorem perform_active_of_verdict (h : v.InOrder) (hs : v.draw.active = some s) {r : DrawResult}
    (hverdict : op.verdict? s.layer v.supply = some r) : (v.perform op).draw.active = none := by
  have hover : v.goesOn op s.opening = false := by
    simp [goesOn, DrawSession.opening, hverdict]
  rw [perform_active_of_not_issued h (issued?_eq_none hverdict), goingOn?, hs, Option.filter_some,
    if_neg (by simp [hover])]

/-! ## No session ends twice -/

/-- A session that waits has waited before, or its request is a new one. -/
theorem request_of_active (h : v.InOrder) (hs : (v.perform op).draw.active = some s) :
    v.draw.active = some s ∨ v.draw.requests.next ≤ s.request.number := by
  cases perform_change h op with
  | kept _ hactive | polled _ _ hactive | dropped _ _ hactive => exact Or.inl (hactive ▸ hs)
  | evicted _ _ _ _ hactive | ended _ _ _ _ hactive =>
      rw [hactive] at hs
      cases hs
  | started _ t _ hactive _ hrequest =>
      obtain rfl := Option.some.inj (hactive.symm.trans hs)
      rw [hrequest]
      exact Or.inr (Nat.le_refl _)

theorem next_le_perform (h : v.InOrder) (op : Operation) :
    v.draw.requests.next ≤ (v.perform op).draw.requests.next := by
  cases perform_change h op with
  | kept _ _ hrequests | evicted _ _ _ _ _ hrequests => exact Nat.le_of_eq (by rw [hrequests])
  | started _ _ _ _ _ _ hrequests =>
      rw [hrequests, Requests.next_create]
      exact Nat.le_succ _
  | ended _ _ _ _ _ hrequests => exact Nat.le_of_eq (by rw [hrequests, Requests.next_answer])
  | polled _ _ _ hrequests => exact Nat.le_of_eq (by rw [hrequests, Requests.next_poll])
  | dropped _ _ _ hrequests => exact Nat.le_of_eq (by rw [hrequests, Requests.next_drop])

/-- Every session that ends is the one that waits now or one with a later request. -/
theorem request_of_ending (h : v.Regular) (ops : List Operation) :
    ∀ e ∈ v.endings (v.draw.active.map DrawSession.opening) ops,
      v.draw.active.map DrawSession.opening = some e.opening ∨
        v.draw.requests.next ≤ e.opening.request.number := by
  induction ops generalizing v with
  | nil => simp [endings]
  | cons op ops ih =>
      intro e he
      rw [endings, List.mem_append, Option.mem_toList] at he
      rcases he with he | he
      · exact Or.inl (ends?_eq_some.1 he).2.2.1
      · rw [stillOpen?_eq h] at he
        rcases ih (h.perform op) e he with hopen | hlater
        · obtain ⟨s, hs, hopening⟩ := Option.map_eq_some_iff.1 hopen
          rcases request_of_active h.inOrder hs with hbefore | hnew
          · exact Or.inl (by rw [hbefore, Option.map_some, hopening])
          · rw [← hopening]
            exact Or.inr hnew
        · exact Or.inr (Nat.le_trans (next_le_perform h.inOrder op) hlater)

theorem endings_nodup (h : v.Attentive) (ops : List Operation) :
    ((v.endings (v.draw.active.map DrawSession.opening) ops).map (·.opening.request)).Nodup := by
  induction ops generalizing v with
  | nil => exact List.nodup_nil
  | cons op ops ih =>
      have hrest := ih (h.perform op)
      rw [endings, stillOpen?_eq h.toRegular]
      cases hends : v.ends? (v.draw.active.map DrawSession.opening) op with
      | none => exact hrest
      | some e =>
          obtain ⟨-, -, hopen, hverdict⟩ := ends?_eq_some.1 hends
          obtain ⟨s, hs, hopening⟩ := Option.map_eq_some_iff.1 hopen
          rw [← hopening] at hverdict
          have hgone := perform_active_of_verdict h.inOrder hs hverdict
          rw [Option.toList_some, List.singleton_append, List.map_cons, List.nodup_cons]
          refine ⟨?_, hrest⟩
          -- The sessions that end later have later requests, for none waits in between.
          intro hmem
          obtain ⟨later, hlater, hsame⟩ := List.mem_map.1 hmem
          have hissued := (h.unanswered s hs).1
          rcases request_of_ending (h.toRegular.perform op) ops later hlater with hwaits | hnext
          · rw [hgone] at hwaits
            cases hwaits
          · have hfirst : e.opening.request = s.request := by
              rw [← hopening]
              rfl
            have hle := Nat.le_trans (next_le_perform h.inOrder op) hnext
            rw [hsame, hfirst] at hle
            exact absurd hissued (Nat.not_lt_of_le hle)

/-! ## Which sessions these are -/

/-- Whoever ends was open, and was started in the run unless it was open before. -/
theorem of_mem_endings (h : v.Regular) {ops : List Operation} {e : Ending}
    (he : e ∈ v.endings (v.draw.active.map DrawSession.opening) ops) :
    ∃ earlier later, ops = earlier ++ e.op :: later ∧ e.before = v.run earlier ∧
      (v.run earlier).draw.active.map DrawSession.opening = some e.opening ∧
      e.op.verdict? e.opening.layer (v.run earlier).supply = some e.result ∧
      (v.draw.active.map DrawSession.opening = some e.opening ∨
        ∃ first start middle, earlier = first ++ start :: middle ∧
          start.opens? (v.run first) = some e.opening) := by
  induction ops generalizing v with
  | nil => cases he
  | cons op ops ih =>
      rw [endings, List.mem_append, Option.mem_toList] at he
      rcases he with he | he
      · obtain ⟨hbefore, hop, hopen, hverdict⟩ := ends?_eq_some.1 he
        exact ⟨[], ops, by rw [hop]; rfl, hbefore, hopen, hop ▸ hverdict, Or.inl hopen⟩
      · rw [stillOpen?_eq h] at he
        obtain ⟨earlier, later, hsplit, hbefore, hopen, hverdict, hstarted⟩ := ih (h.perform op) he
        refine ⟨op :: earlier, later, by rw [hsplit]; rfl, hbefore, hopen, hverdict, ?_⟩
        rcases hstarted with hopened | ⟨first, start, middle, hearlier, hopens⟩
        · rw [← stillOpen?_eq h, stillOpen?, Option.or_eq_some_iff] at hopened
          rcases hopened with hopens | ⟨-, hwaits⟩
          · exact Or.inr ⟨[], op, earlier, rfl, hopens⟩
          · exact Or.inl (Option.filter_eq_some_iff.1 hwaits).1
        · exact Or.inr ⟨op :: first, start, middle, by rw [hearlier]; rfl, hopens⟩

end Viewer

end ImageOverlay
