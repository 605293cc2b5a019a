import ImageOverlay.Proofs.Viewer.Ownership
import ImageOverlay.Proofs.Viewport.Orderly

set_option autoImplicit false

/-!
# The layers of sessions

Whatever the draw mode does to a map in order, it does in orderly calls, and it leaves the map in
order. The functions that can fail halfway clean up after themselves: where `DrawMode.openLayer`
fails, the map has the layers and the subscriptions it had before, and at most a number is lost.
-/

namespace ImageOverlay

namespace MapState

theorem put_withoutLayer (m : MapState) (layer : LayerHandle) (entry : Layer) :
    (m.put layer entry).withoutLayer layer = m.withoutLayer layer := by
  unfold put withoutLayer
  simp only [MapState.mk.injEq, and_true]
  induction m.layers with
  | nil => rfl
  | cons e es ih =>
      obtain ⟨l, old⟩ := e
      by_cases hl : l = layer
      · rw [List.map_cons, if_pos hl, List.filter_cons_of_neg (by simpa using hl),
          List.filter_cons_of_neg (by simpa using hl)]
        exact ih
      · rw [List.map_cons, if_neg hl, List.filter_cons_of_pos (by simp [hl]),
          List.filter_cons_of_pos (by simp [hl])]
        exact congrArg _ ih

variable {o : Overlays} {active : Option DrawSession} {retiring : List RetiringLayer}
  {m : MapState}

/-- Numbers may be skipped. -/
theorem OwnedBy.skip (h : m.OwnedBy o active retiring) {next : Nat} (hnext : m.nextLayer ≤ next) :
    MapState.OwnedBy o active retiring { m with nextLayer := next } :=
  { h with layersBelow := fun l hl => Nat.lt_of_lt_of_le (h.layersBelow l hl) hnext }

end MapState

namespace DrawMode

open Viewport (Course)

variable {o : Overlays} {active : Option DrawSession} {retiring : List RetiringLayer}
  {p q : Viewport} {d : DrawMode} {session : DrawSession}

/-! ## The branches of the functions -/

theorem evict_eq_self (hheld : ∀ s ∈ d.active, d.requests.isHeld s.request = true) :
    d.evict p = (d, p) := by
  unfold evict
  cases hactive : d.active with
  | none => rfl
  | some session => exact if_pos (hheld session hactive)

theorem evict_eq_discard (hactive : d.active = some session)
    (hheld : ¬ d.requests.isHeld session.request = true) :
    d.evict p = ({ d with active := none }, discard session.layer session.subscription p) := by
  unfold evict
  rw [hactive]
  exact if_neg hheld

theorem start_eq_busy {shape : ShapeKind} {options : DrawOptions} (hactive : d.active = some session)
    (hheld : d.requests.isHeld session.request = true) :
    d.start shape options p = (.error .sessionBusy, d, p) := by
  unfold start
  rw [evict_eq_self (by rw [hactive]; simpa using hheld)]
  simp only [hactive]

theorem start_eq_error {shape : ShapeKind} {options : DrawOptions} {e : ViewportError}
    (hidle : (d.evict p).1.active = none) (hopen : openLayer shape (d.evict p).2 = (.error e, q)) :
    d.start shape options p = (.error (.viewport e), (d.evict p).1, q) := by
  unfold start
  simp only [hidle, hopen]

theorem start_eq_ok {shape : ShapeKind} {options : DrawOptions} {layer : LayerHandle}
    {subscription : SubscriptionId} (hidle : (d.evict p).1.active = none)
    (hopen : openLayer shape (d.evict p).2 = (.ok (layer, subscription), q)) :
    d.start shape options p
      = (.ok (d.evict p).1.requests.create.1,
          { (d.evict p).1 with
            active := some
              { shape, layer, subscription, options,
                request := (d.evict p).1.requests.create.1 }
            requests := (d.evict p).1.requests.create.2 }, q) := by
  unfold start
  simp only [hidle, hopen]

theorem cancel_eq_self (hactive : d.active = none) : d.cancel p = (false, d, p) := by
  unfold cancel
  rw [hactive]

theorem cancel_eq_discard (hactive : d.active = some session) :
    d.cancel p
      = (true,
          { d with
            active := none
            requests := d.requests.answer session.request (.error .cancelled) },
          discard session.layer session.subscription (p.setInteractionMode session.layer none).2) := by
  unfold cancel
  rw [hactive]

theorem completed?_eq_some {layer : LayerHandle} {drawn : Drawn} :
    d.completed? layer drawn = some session
      ↔ d.active = some session ∧ session.layer = layer ∧ drawn.state = .done := by
  rw [completed?, Option.filter_eq_some_iff]
  simp

theorem completed?_eq_none {layer : LayerHandle} {drawn : Drawn} :
    d.completed? layer drawn = none
      ↔ ∀ s ∈ d.active, s.layer = layer → drawn.state ≠ .done := by
  constructor
  · intro hnone s hs hlayer hdone
    rw [completed?_eq_some.2 ⟨hs, hlayer, hdone⟩] at hnone
    cases hnone
  · intro hforeign
    rw [Option.eq_none_iff_forall_ne_some]
    intro session hsession
    obtain ⟨hactive, hlayer, hdone⟩ := completed?_eq_some.1 hsession
    exact hforeign session hactive hlayer hdone

theorem annotationChanged_eq_self {layer : LayerHandle} {drawn : Drawn} {bus : Bus}
    {supply : Identity.Supply} (hforeign : ∀ s ∈ d.active, s.layer = layer → drawn.state ≠ .done) :
    d.annotationChanged layer drawn bus supply = (false, d, bus, supply) := by
  unfold annotationChanged
  rw [completed?_eq_none.2 hforeign]

theorem cancel_active : (d.cancel p).2.1.active = none := by
  cases hactive : d.active with
  | none =>
      rw [cancel_eq_self hactive]
      exact hactive
  | some session => rw [cancel_eq_discard hactive]

theorem abandon_eq_self (hactive : d.active = none) (hretiring : d.retiring = []) :
    d.abandon = d := by
  obtain ⟨active, retiring, requests⟩ := d
  obtain rfl : active = none := hactive
  obtain rfl : retiring = [] := hretiring
  rfl

/-! ## Deleting layers -/

/-- A session gives back what it owns. -/
theorem discard_owned (xs : List RetiringLayer) (h : p.map.OwnedBy o active retiring)
    {ys : List RetiringLayer} {r : RetiringLayer} (hsplit : holdings active retiring = xs ++ r :: ys)
    {active' : Option DrawSession} {retiring' : List RetiringLayer}
    (hrest : holdings active' retiring' = xs ++ ys) (hactive : ∀ s ∈ active', s ∈ active) :
    Course p (discard r.layer r.subscription p) ∧
      (discard r.layer r.subscription p).map.OwnedBy o active' retiring' := by
  have hr : r ∈ holdings active retiring := by
    rw [hsplit]
    simp
  refine ⟨.single (.discard p _ _ (h.subscription_mem hr) (h.holding_mem hr)), ?_⟩
  show ((p.map.withoutSubscription r.subscription).withoutLayer r.layer).OwnedBy o active' retiring'
  rw [h.withoutSubscription_withoutLayer hr]
  exact h.removeHolding hsplit hrest hactive

/-- The session that waits gives back what it owns. -/
theorem discard_active_owned (h : p.map.OwnedBy o (some session) retiring) :
    Course p (discard session.layer session.subscription p) ∧
      (discard session.layer session.subscription p).map.OwnedBy o none retiring :=
  discard_owned (r := session.holding) [] h rfl rfl (by simp)

/-- The first of the sessions that are over gives back what it owns. -/
theorem discard_head_owned {r : RetiringLayer} (h : p.map.OwnedBy o active (r :: retiring)) :
    Course p (discard r.layer r.subscription p) ∧
      (discard r.layer r.subscription p).map.OwnedBy o active retiring :=
  discard_owned _ h rfl rfl (fun _ hs => hs)

/-- The sessions that are over give back what they own, one after the other. -/
theorem discardAll_owned (h : p.map.OwnedBy o active retiring) :
    Course p (retiring.foldl (fun v r => discard r.layer r.subscription v) p) ∧
      (retiring.foldl (fun v r => discard r.layer r.subscription v) p).map.OwnedBy o active [] := by
  induction retiring generalizing p with
  | nil => exact ⟨.refl p, h⟩
  | cons r rest ih =>
      obtain ⟨hfirst, howned⟩ := discard_head_owned h
      obtain ⟨hrest, hnone⟩ := ih howned
      exact ⟨hfirst.trans hrest, hnone⟩

theorem retire_owned (h : p.map.OwnedBy o d.active d.retiring) :
    Course p (d.retire p).2.2 ∧ (d.retire p).2.2.map.OwnedBy o d.active [] :=
  discardAll_owned h

/-- A session whose request was dropped gives back what it owns. -/
theorem evict_owned (h : p.map.OwnedBy o d.active d.retiring) :
    Course p (d.evict p).2 ∧
      (d.evict p).2.map.OwnedBy o (d.evict p).1.active (d.evict p).1.retiring := by
  by_cases hheld : ∀ s ∈ d.active, d.requests.isHeld s.request = true
  · rw [evict_eq_self hheld]
    exact ⟨.refl p, h⟩
  · push Not at hheld
    obtain ⟨session, hactive, hnot⟩ := hheld
    rw [evict_eq_discard hactive hnot]
    rw [Option.mem_def.1 hactive] at h
    exact discard_active_owned h

/-- While no session waits, the shape a layer lets the user draw is of no importance. -/
theorem setInteractionMode_owned (h : p.map.OwnedBy o none retiring) {layer : LayerHandle}
    (hlayer : layer ∈ p.map.handles) (mode : Option ShapeKind) :
    Course p (p.setInteractionMode layer mode).2 ∧
      (p.setInteractionMode layer mode).2.map.OwnedBy o none retiring := by
  rcases p.setInteractionMode_cases layer mode with ⟨e, library, hlog, heq⟩ | ⟨entry, hentry, heq⟩
  · rw [heq]
    exact ⟨.single (.unrecorded p library hlog), h⟩
  · rw [heq]
    exact ⟨.single (.setInteractionMode p layer _ mode hlayer),
      h.put { entry with mode } hentry rfl (by simp)⟩

/-- The session that waits gives back what it owns, whether or not the map leaves the drawing of
shapes. -/
theorem cancel_owned (h : p.map.OwnedBy o d.active d.retiring) :
    Course p (d.cancel p).2.2 ∧
      (d.cancel p).2.2.map.OwnedBy o (d.cancel p).2.1.active (d.cancel p).2.1.retiring := by
  cases hactive : d.active with
  | none =>
      rw [cancel_eq_self hactive]
      exact ⟨.refl p, h⟩
  | some session =>
      rw [cancel_eq_discard hactive]
      rw [hactive] at h
      -- The mode is cleared first, so the session has to count as over from here on.
      obtain ⟨hmode, hover⟩ := setInteractionMode_owned h.retired (h.active_mem rfl) none
      obtain ⟨hdiscard, howned⟩ := discard_head_owned hover
      exact ⟨hmode.trans hdiscard, howned⟩

/-! ## A new layer -/

/-- Opening a layer either succeeds in full, or nothing is left of it but a number. -/
theorem openLayer_cases (h : p.map.Counted) (shape : ShapeKind) :
    (∃ e q next, openLayer shape p = (.error e, q) ∧ Course p q ∧ p.map.nextLayer ≤ next ∧
        q.map = { p.map with nextLayer := next })
      ∨ ∃ q, openLayer shape p = (.ok (p.map.freshLayer, p.map.freshSubscription), q) ∧
          Course p q ∧ q.map = p.map.addDrawing shape := by
  have hclosed := h.addLayer_withoutLayer .annotationDraw
  unfold openLayer
  -- Three calls, each of which may be refused. From the second on, a refusal takes back the layer
  -- of the first, and `hclosed` says that only its number is lost then.
  rcases p.createLayer_cases .annotationDraw with ⟨e, library, hlog, heq⟩ | ⟨-, heq⟩
  · rw [heq]
    exact Or.inl ⟨e, _, p.map.nextLayer, rfl, .single (.unrecorded p library hlog),
      Nat.le_refl _, rfl⟩
  · rw [heq]
    have hcreate := Course.single (.createLayer p .annotationDraw)
    have hmem : p.map.freshLayer ∈ (p.map.addLayer .annotationDraw).handles := by
      simp
    -- The viewport after a call is known by its map alone; its record is in the course.
    generalize hq : p.commit (p.map.addLayer .annotationDraw)
      (.createLayer p.map.freshLayer .annotationDraw) = q at hcreate
    have hmap : q.map = p.map.addLayer .annotationDraw := by
      rw [← hq]
      rfl
    rw [← hmap] at hmem hclosed
    rcases q.setInteractionMode_cases p.map.freshLayer (some shape) with
      ⟨e, library, hlog, heq⟩ | ⟨entry, hentry, heq⟩
    · simp only [heq]
      exact Or.inl ⟨e, _, _, rfl,
        (hcreate.step (.unrecorded q library hlog)).step (.deleteLayer _ _ hmem),
        Nat.le_succ _, hclosed⟩
    · simp only [heq]
      have hcreated : entry = { kind := .annotationDraw } := by
        rw [hmap, MapState.layer?_addLayer h.fresh_not_mem, if_pos rfl] at hentry
        exact (Option.some.inj hentry).symm
      have hmode := hcreate.step
        (.setInteractionMode q p.map.freshLayer { entry with mode := some shape } (some shape) hmem)
      generalize hr : q.commit (q.map.put p.map.freshLayer { entry with mode := some shape })
        (.setInteractionMode p.map.freshLayer (some shape)) = r at hmode
      have hrmap : r.map = q.map.put p.map.freshLayer { entry with mode := some shape } := by
        rw [← hr]
        rfl
      have hrmem : p.map.freshLayer ∈ r.map.handles := by
        rw [hrmap, MapState.handles_put]
        exact hmem
      rcases r.subscribe_cases p.map.freshLayer with ⟨e, library, hlog, heq⟩ | ⟨-, heq⟩
      · simp only [heq]
        refine Or.inl ⟨e, _, _, rfl,
          (hmode.step (.unrecorded r library hlog)).step (.deleteLayer _ _ hrmem),
          Nat.le_succ _, ?_⟩
        show r.map.withoutLayer p.map.freshLayer = _
        rw [hrmap, MapState.put_withoutLayer]
        exact hclosed
      · simp only [heq]
        have hsame : r.map.freshSubscription = p.map.freshSubscription := by
          rw [hrmap, hmap]
          rfl
        refine Or.inr ⟨_, ?_, hmode.step (.subscribe r _ hrmem), ?_⟩
        · rw [hsame]
        · show r.map.addSubscription p.map.freshLayer = _
          rw [hrmap, hmap, hcreated]
          rfl

/-! ## Starting and ending a session -/

/-- A start leaves the map in order, whether it succeeds or fails at any of its calls. -/
theorem start_owned (h : p.map.OwnedBy o d.active d.retiring) (shape : ShapeKind)
    (options : DrawOptions) :
    Course p (d.start shape options p).2.2 ∧
      (d.start shape options p).2.2.map.OwnedBy o (d.start shape options p).2.1.active
        (d.start shape options p).2.1.retiring := by
  obtain ⟨hevict, howned⟩ := evict_owned h
  cases hidle : (d.evict p).1.active with
  | some session =>
      have hbusy : (d.start shape options p).2 = d.evict p := by
        unfold start
        simp only [hidle]
      rw [hbusy]
      exact ⟨hevict, howned⟩
  | none =>
      rw [hidle] at howned
      rcases openLayer_cases howned.counted shape with
        ⟨e, q, next, heq, hopen, hnext, hmap⟩ | ⟨q, heq, hopen, hmap⟩
      · rw [start_eq_error hidle heq]
        refine ⟨hevict.trans hopen, ?_⟩
        show q.map.OwnedBy o (d.evict p).1.active (d.evict p).1.retiring
        rw [hmap, hidle]
        exact howned.skip hnext
      · rw [start_eq_ok hidle heq]
        refine ⟨hevict.trans hopen, ?_⟩
        show q.map.OwnedBy o _ (d.evict p).1.retiring
        rw [hmap]
        exact howned.addSession shape options _

/-- A drawing changes nothing on the map: the layer of a session that is over stays, and is the
last one to be deleted. -/
theorem annotationChanged_owned {m : MapState} (h : m.OwnedBy o d.active d.retiring)
    (layer : LayerHandle) (drawn : Drawn) (bus : Bus) (supply : Identity.Supply) :
    m.OwnedBy o (d.annotationChanged layer drawn bus supply).2.1.active
      (d.annotationChanged layer drawn bus supply).2.1.retiring := by
  unfold annotationChanged
  cases hcompleted : d.completed? layer drawn with
  | none => exact h
  | some session =>
      have hactive : d.active = some session := (completed?_eq_some.1 hcompleted).1
      rw [hactive] at h
      cases convert drawn with
      | error e => exact h.concluded
      | ok element => exact h.concluded

end DrawMode

end ImageOverlay
