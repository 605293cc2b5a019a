import ImageOverlay.Proofs.Convert.Usable
import ImageOverlay.Proofs.Draw.Likeness
import ImageOverlay.Proofs.Viewer.Completion

set_option autoImplicit false

/-!
# What becomes of a request for a region

A request for a region is a request for a rectangle, but the drawing layer may deliver a shape of
any kind. So there are two places where things can go wrong at the end of the session: the shape may
not convert, and what it converts to may be no rectangle. Both are decided by the operation that
ends the session (`Operation.regionVerdict`), and the answer is there for whoever looks first
(`Viewer.pollRegion_eq_ready`). `Viewer.RegionAnswered` says for each answer when it is given.

A slot is written by a look that finds a region, and by nothing else (`Viewer.pollRegion_slots`).
-/

namespace ImageOverlay

/-! ## Regions of conversions -/

section Conversion

variable {d : Drawn} {e : Element}

/-- What has a region is exactly what was drawn as a rectangle. -/
theorem region_of_convert (h : convert d = .ok e) :
    d.kind = .rectangle ∧ (∃ r, Region.ofElement e = .ok r) ∨
      d.kind ≠ .rectangle ∧ Region.ofElement e = .error (.notARectangle e.shape.typeName) := by
  obtain ⟨-, hshape, -⟩ := Convert.convert_eq_ok h
  unfold Region.ofElement
  cases hkind : d.kind with
  | point =>
      rw [hkind] at hshape
      obtain ⟨p, -, hs⟩ := Convert.point_eq_ok.1 hshape
      rw [hs]
      exact .inr ⟨nofun, rfl⟩
  | line =>
      rw [hkind] at hshape
      rw [(Convert.line_eq_ok.1 hshape).2]
      exact .inr ⟨nofun, rfl⟩
  | polygon =>
      rw [hkind] at hshape
      rw [(Convert.polygon_eq_ok.1 hshape).2.2]
      exact .inr ⟨nofun, rfl⟩
  | rectangle =>
      rw [hkind] at hshape
      obtain ⟨a, -, b, -, c, -, z, -, hcorners⟩ := Convert.rectangle_eq_ok hshape
      rw [(Convert.ofCorners_eq_ok hcorners).2.2]
      exact .inl ⟨rfl, _, rfl⟩

/-- That an element is no rectangle is not for the conversion to say. -/
theorem convert_ne_notARectangle (d : Drawn) (name : String) :
    convert d ≠ .error (.notARectangle name) := by
  have hcorners : ∀ a b c z, Convert.ofCorners a b c z ≠ .error (.notARectangle name) := by
    intro a b c z
    unfold Convert.ofCorners
    simp only
    split <;> simp
  have hshape : Convert.shape d.kind d.coordinates ≠ .error (.notARectangle name) := by
    cases d.kind with
    | point =>
        show Convert.point d.coordinates ≠ _
        unfold Convert.point
        split <;> simp
    | line =>
        show Convert.line d.coordinates ≠ _
        unfold Convert.line
        simp only
        split <;> simp
    | polygon =>
        show Convert.polygon d.coordinates ≠ _
        unfold Convert.polygon
        simp only
        repeat' split
        all_goals simp
    | rectangle =>
        show Convert.rectangle d.coordinates ≠ _
        unfold Convert.rectangle
        split
        · exact hcorners _ _ _ _
        · split
          · exact hcorners _ _ _ _
          · simp
        · simp
  unfold convert
  split
  · intro h
    cases hs : Convert.shape d.kind d.coordinates with
    | ok s =>
        rw [hs] at h
        cases h
    | error err =>
        rw [hs] at h
        cases h
        exact hshape hs
  · simp

end Conversion

theorem DrawResult.region_eq_ok {x : DrawResult} {r : Region} : x.region = .ok r
    ↔ ∃ outcome, x = .ok outcome ∧ Region.ofElement outcome.element = .ok r := by
  unfold region
  cases x with
  | error e => simp
  | ok outcome => cases hregion : Region.ofElement outcome.element <;> simp [hregion]

theorem Poll.map_eq_ready {α β : Type} {f : α → β} {p : Poll α} {b : β} :
    p.map f = .ready b ↔ ∃ a, p = .ready a ∧ f a = b := by
  cases p <;> simp [Poll.map]

/-! ## The operation that ends a session -/

/-- Whether an operation ends the session on a layer. -/
def Operation.Ends (layer : LayerHandle) : Operation → Prop
  | .handle (.annotationChanged changed drawn) => changed = layer ∧ drawn.state = .done
  | .cancelDrawing | .destroy | .drop => True
  | _ => False

/-- What the end of a session means for a request for a region. -/
def Operation.regionVerdict : Operation → Except DrawError Region
  | .handle (.annotationChanged _ drawn) =>
    (convert drawn >>= Region.ofElement).mapError DrawError.conversion
  | _ => .error .cancelled

namespace Operation

variable {op : Operation} {layer : LayerHandle} {supply : Identity.Supply}

theorem ends_iff (supply : Identity.Supply) :
    op.Ends layer ↔ ∃ r, op.verdict? layer supply = some r := by
  cases op with
  | handle e =>
      cases e with
      | annotationChanged changed drawn =>
          rw [verdict?_annotationChanged]
          simp [Ends]
      | drawPassComplete => exact ⟨False.elim, fun ⟨_, h⟩ => nomatch h⟩
  | cancelDrawing | destroy | drop => exact ⟨fun _ => ⟨_, rfl⟩, fun _ => trivial⟩
  | attach | setImage | render | addOverlay | removeOverlay | clearOverlays | startDrawing
  | drawRegion | poll | pollRegion | dropRequest | retireLayers | arm =>
      exact ⟨False.elim, fun ⟨_, h⟩ => nomatch h⟩

theorem verdict?_eq_none (h : ¬ op.Ends layer) : op.verdict? layer supply = none := by
  rw [Option.eq_none_iff_forall_ne_some]
  exact fun r hr => h ((ends_iff supply).2 ⟨r, hr⟩)

theorem region_of_verdict {r : DrawResult} (h : op.verdict? layer supply = some r) :
    r.region = op.regionVerdict := by
  cases op with
  | handle e =>
      cases e with
      | annotationChanged changed drawn =>
          rw [verdict?_annotationChanged, Option.ite_none_right_eq_some] at h
          rw [← Option.some.inj h.2]
          exact drawn.region_answer supply
      | drawPassComplete => cases h
  | cancelDrawing | destroy | drop =>
      cases h
      rfl
  | attach | setImage | render | addOverlay | removeOverlay | clearOverlays | startDrawing
  | drawRegion | poll | pollRegion | dropRequest | retireLayers | arm => cases h

/-- What ends a session is something drawn on its layer, or cancels it. -/
theorem Ends.cases (h : op.Ends layer) :
    (∃ drawn, op = .handle (.annotationChanged layer drawn)) ∨
      op = .cancelDrawing ∨ op = .destroy ∨ op = .drop := by
  cases op with
  | handle e =>
      cases e with
      | annotationChanged changed drawn =>
          obtain ⟨rfl, -⟩ := h
          exact .inl ⟨drawn, rfl⟩
      | drawPassComplete => exact h.elim
  | cancelDrawing | destroy | drop => simp
  | attach | setImage | render | addOverlay | removeOverlay | clearOverlays | startDrawing
  | drawRegion | poll | pollRegion | dropRequest | retireLayers | arm => exact h.elim

section Drawing

variable {d : Drawn}

/-- The verdict of something drawn is its region, if it was drawn as a rectangle, and otherwise says
what is wrong. -/
theorem regionVerdict_cases (layer : LayerHandle) (d : Drawn) :
    (∃ e, convert d = .error e ∧
        (handle (.annotationChanged layer d)).regionVerdict = .error (.conversion e))
      ∨ (∃ e r, convert d = .ok e ∧ d.kind = .rectangle ∧ Region.ofElement e = .ok r ∧
        (handle (.annotationChanged layer d)).regionVerdict = .ok r)
      ∨ ∃ e, convert d = .ok e ∧ d.kind ≠ .rectangle ∧
        (handle (.annotationChanged layer d)).regionVerdict
          = .error (.conversion (.notARectangle e.shape.typeName)) := by
  have hverdict : (handle (.annotationChanged layer d)).regionVerdict
      = (convert d >>= Region.ofElement).mapError DrawError.conversion := rfl
  rw [hverdict]
  cases hconvert : convert d with
  | error e => exact .inl ⟨e, rfl, rfl⟩
  | ok e =>
      have hbind : (Except.ok e >>= Region.ofElement) = Region.ofElement e := rfl
      rw [hbind]
      rcases region_of_convert hconvert with ⟨hkind, r, hr⟩ | ⟨hkind, hr⟩
      · rw [hr]
        exact .inr (.inl ⟨e, r, rfl, hkind, hr, rfl⟩)
      · rw [hr]
        exact .inr (.inr ⟨e, rfl, hkind, rfl⟩)

theorem regionVerdict_eq_ok {r : Region} :
    (handle (.annotationChanged layer d)).regionVerdict = .ok r
      ↔ ∃ e, d.kind = .rectangle ∧ convert d = .ok e ∧ Region.ofElement e = .ok r := by
  rcases regionVerdict_cases layer d with
    ⟨e, hconvert, hverdict⟩ | ⟨e, r', hconvert, hkind, hr, hverdict⟩
    | ⟨e, hconvert, hkind, hverdict⟩
  · simp [hverdict, hconvert]
  · simp [hverdict, hconvert, hkind, hr]
  · simp [hverdict, hkind]

theorem regionVerdict_eq_notARectangle {name : String} :
    (handle (.annotationChanged layer d)).regionVerdict
        = .error (.conversion (.notARectangle name))
      ↔ ∃ e, d.kind ≠ .rectangle ∧ convert d = .ok e ∧ name = e.shape.typeName := by
  rcases regionVerdict_cases layer d with
    ⟨e, hconvert, hverdict⟩ | ⟨e, r', hconvert, hkind, hr, hverdict⟩
    | ⟨e, hconvert, hkind, hverdict⟩
  · have hne : e ≠ .notARectangle name := fun heq =>
      convert_ne_notARectangle d name (heq ▸ hconvert)
    simp [hverdict, hconvert, hne]
  · simp [hverdict, hkind]
  · simp [hverdict, hconvert, hkind, eq_comm]

theorem regionVerdict_eq_error {cause : ConvertError}
    (hcause : ∀ name, cause ≠ .notARectangle name) :
    (handle (.annotationChanged layer d)).regionVerdict = .error (.conversion cause)
      ↔ convert d = .error cause := by
  rcases regionVerdict_cases layer d with
    ⟨e, hconvert, hverdict⟩ | ⟨e, r', hconvert, hkind, hr, hverdict⟩
    | ⟨e, hconvert, hkind, hverdict⟩
  · simp [hverdict, hconvert]
  · simp [hverdict, hconvert]
  · simp [hverdict, hconvert, (hcause _).symm]

theorem regionVerdict_ne_cancelled :
    (handle (.annotationChanged layer d)).regionVerdict ≠ .error .cancelled := by
  rcases regionVerdict_cases layer d with
    ⟨e, -, hverdict⟩ | ⟨e, r', -, -, -, hverdict⟩ | ⟨e, -, -, hverdict⟩ <;> simp [hverdict]

end Drawing

/-- A verdict is a region, the reason why there is none, or a cancellation. -/
theorem regionVerdict_error {e : DrawError} (h : op.regionVerdict = .error e) :
    e = .cancelled ∨ ∃ cause, e = .conversion cause := by
  cases op with
  | handle event =>
      cases event with
      | annotationChanged changed drawn =>
          refine .inr ?_
          rcases regionVerdict_cases changed drawn with
            ⟨cause, -, hverdict⟩ | ⟨_, r', -, -, -, hverdict⟩ | ⟨_, -, -, hverdict⟩
          all_goals
            rw [hverdict] at h
            cases h
          · exact ⟨cause, rfl⟩
          · exact ⟨_, rfl⟩
      | drawPassComplete => exact .inl (Except.error.inj h).symm
  | cancelDrawing | destroy | drop | attach | setImage | render | addOverlay | removeOverlay
  | clearOverlays | startDrawing | drawRegion | poll | pollRegion | dropRequest | retireLayers
  | arm => exact .inl (Except.error.inj h).symm

end Operation

namespace Viewer

variable {v : Viewer} {s : DrawSession} {ops : List Operation} {layer : LayerHandle}

/-- The session on a layer is ended by one of the operations, and nobody looks at its request
afterwards. -/
def EndedBy (layer : LayerHandle) (request : RequestId) (ops : List Operation) (op : Operation) :
    Prop :=
  ∃ earlier later, ops = earlier ++ op :: later ∧ (∀ o ∈ earlier, ¬ o.Ends layer) ∧
    op.Ends layer ∧ ∀ o ∈ later, o.polled? ≠ some request

theorem ending?_eq_none : v.ending? layer ops = none ↔ ∀ op ∈ ops, ¬ op.Ends layer := by
  induction ops generalizing v with
  | nil => simp [ending?]
  | cons op ops ih =>
      rw [ending?, List.forall_mem_cons]
      by_cases hends : op.Ends layer
      · obtain ⟨r, hr⟩ := (Operation.ends_iff v.supply).1 hends
        simp [hr, hends]
      · simp [Operation.verdict?_eq_none hends, hends, ih]

/-- The verdict comes from the first operation that has one. -/
theorem ending?_eq_some {r : DrawResult} {later : List Operation} :
    v.ending? layer ops = some (r, later) ↔ ∃ earlier op, ops = earlier ++ op :: later ∧
      (∀ o ∈ earlier, ¬ o.Ends layer) ∧ op.verdict? layer (v.run earlier).supply = some r := by
  constructor
  · intro h
    induction ops generalizing v with
    | nil => cases h
    | cons op ops ih =>
        rw [ending?] at h
        cases hverdict : op.verdict? layer v.supply with
        | some r' =>
            rw [hverdict] at h
            cases h
            exact ⟨[], op, rfl, List.forall_mem_nil _, hverdict⟩
        | none =>
            rw [hverdict] at h
            obtain ⟨earlier, last, rfl, hnone, hlast⟩ := ih h
            have hends : ¬ op.Ends layer := by
              intro hends
              obtain ⟨r', hr'⟩ := (Operation.ends_iff v.supply).1 hends
              rw [hverdict] at hr'
              cases hr'
            exact ⟨op :: earlier, last, rfl, List.forall_mem_cons.2 ⟨hends, hnone⟩, hlast⟩
  · rintro ⟨earlier, op, rfl, hnone, hop⟩
    induction earlier generalizing v with
    | nil =>
        rw [List.nil_append, ending?]
        rw [run_nil] at hop
        rw [hop]
    | cons first earlier ih =>
        rw [List.forall_mem_cons] at hnone
        rw [List.cons_append, ending?, Operation.verdict?_eq_none hnone.1]
        exact ih hnone.2 hop

/-! ## A look at a request for a region -/

/-- The answer is the verdict of the operation that ended the session, as long as nobody has taken
it. -/
theorem pollRegion_eq_ready (hv : v.Regular) (hs : Awaits s v.draw)
    (hkept : .dropRequest s.request ∉ ops) (slot : SlotId) {x : Except DrawError Region} :
    ((v.run ops).pollRegion ⟨s.request, slot⟩).1 = .ready x
      ↔ ∃ op, EndedBy s.layer s.request ops op ∧ op.regionVerdict = x := by
  rw [pollRegion_fst, poll_run hv hs hkept]
  constructor
  · intro h
    cases hending : v.ending? s.layer ops with
    | none =>
        rw [hending] at h
        cases h
    | some ended =>
        obtain ⟨r, later⟩ := ended
        rw [hending] at h
        obtain ⟨earlier, op, hsplit, hnone, hop⟩ := ending?_eq_some.1 hending
        by_cases hpolled : ∃ o ∈ later, o.polled? = some s.request
        · simp only [if_pos hpolled] at h
          cases h
        · simp only [if_neg hpolled] at h
          have hends : op.Ends s.layer := (Operation.ends_iff _).2 ⟨r, hop⟩
          have hlater : ∀ o ∈ later, o.polled? ≠ some s.request :=
            fun o ho hlook => hpolled ⟨o, ho, hlook⟩
          refine ⟨op, ⟨earlier, later, hsplit, hnone, hends, hlater⟩, ?_⟩
          rw [← Operation.region_of_verdict hop]
          exact Poll.ready.inj h
  · rintro ⟨op, ⟨earlier, later, hsplit, hnone, hends, hlater⟩, rfl⟩
    obtain ⟨r, hop⟩ := (Operation.ends_iff (v.run earlier).supply).1 hends
    have hending : v.ending? s.layer ops = some (r, later) :=
      ending?_eq_some.2 ⟨earlier, op, hsplit, hnone, hop⟩
    have hpolled : ¬ ∃ o ∈ later, o.polled? = some s.request :=
      fun ⟨o, ho, hlook⟩ => hlater o ho hlook
    rw [hending, ← Operation.region_of_verdict hop]
    simp only [if_neg hpolled]
    rfl

/-- **A slot is written by a look that finds a region,** and by no other. -/
theorem pollRegion_slots (v : Viewer) (q : RegionRequest) :
    (∀ r, (v.pollRegion q).1 = .ready (.ok r) → (v.pollRegion q).2.slots = v.slots.put q.slot r) ∧
      ((∀ r, (v.pollRegion q).1 ≠ .ready (.ok r)) → (v.pollRegion q).2.slots = v.slots) := by
  rw [pollRegion_fst]
  unfold pollRegion
  simp only
  cases hanswer : (v.poll q.request).1.map DrawResult.region with
  | notHeld | pending => exact ⟨nofun, fun _ => rfl⟩
  | ready x =>
      cases x with
      | error e => exact ⟨nofun, fun _ => rfl⟩
      | ok region =>
          refine ⟨?_, fun h => absurd rfl (h region)⟩
          rintro r ⟨⟩
          rfl

theorem region?_put (slot : SlotId) (r : Region) (slots : RegionSlots) (other : SlotId) :
    (slots.put slot r).region? other = if other = slot then some r else slots.region? other := by
  show List.lookup other ((slot, r) :: slots.regions.filter (·.1 ≠ slot)) = _
  rw [Table.lookup_cons, Table.lookup_filter_ne]
  by_cases hother : other = slot
  · rw [if_pos hother, if_pos hother]
  · rw [if_neg hother, if_neg hother, if_neg hother]
    rfl

/-- A look at a request that is pending changes nothing. -/
theorem pollRegion_of_awaits (hs : Awaits s v.draw) (slot : SlotId) :
    v.pollRegion ⟨s.request, slot⟩ = (.pending, v) := by
  have hpoll : v.poll s.request = (.pending, v) := by
    unfold poll
    rw [Requests.poll_of_pending hs.2]
  unfold pollRegion
  rw [hpoll]
  rfl

/-- **What the holder of a request for a region can rely on,** over operations that follow the start
of its session. -/
structure RegionAnswered (s : DrawSession) (slot : SlotId) (v : Viewer) (ops : List Operation) :
    Prop where
  /-- The session waits until an operation ends it. -/
  waits : (v.run ops).draw.active = some s ↔ ∀ op ∈ ops, ¬ op.Ends s.layer
  /-- As long as it waits the request is pending, and a look at it changes nothing. -/
  pending : ((v.run ops).pollRegion ⟨s.request, slot⟩).1 = .pending
    ↔ (v.run ops).draw.active = some s
  undisturbed : (v.run ops).draw.active = some s →
    ((v.run ops).pollRegion ⟨s.request, slot⟩).2 = v.run ops
  /-- There is a region if the session was ended by something drawn as a rectangle that converts. -/
  region : ∀ r, ((v.run ops).pollRegion ⟨s.request, slot⟩).1 = .ready (.ok r)
    ↔ ∃ drawn element, EndedBy s.layer s.request ops (.handle (.annotationChanged s.layer drawn)) ∧
        drawn.kind = .rectangle ∧ convert drawn = .ok element ∧ Region.ofElement element = .ok r
  /-- The region is that of the element the session delivered, and goes into the slot. -/
  stored : ∀ r, ((v.run ops).pollRegion ⟨s.request, slot⟩).1 = .ready (.ok r) →
    (∃ outcome, ((v.run ops).poll s.request).1 = .ready (.ok outcome) ∧
      Region.ofElement outcome.element = .ok r) ∧
    ∀ other, ((v.run ops).pollRegion ⟨s.request, slot⟩).2.slots.region? other
      = if other = slot then some r else (v.run ops).slots.region? other
  /-- Where there is no region the slots stay as they are. -/
  untouched : (∀ r, ((v.run ops).pollRegion ⟨s.request, slot⟩).1 ≠ .ready (.ok r)) →
    ((v.run ops).pollRegion ⟨s.request, slot⟩).2.slots = (v.run ops).slots
  /-- What converts but was drawn as something else is no rectangle. -/
  notARectangle : ∀ name,
    ((v.run ops).pollRegion ⟨s.request, slot⟩).1
        = .ready (.error (.conversion (.notARectangle name)))
      ↔ ∃ drawn element,
        EndedBy s.layer s.request ops (.handle (.annotationChanged s.layer drawn)) ∧
        drawn.kind ≠ .rectangle ∧ convert drawn = .ok element ∧ name = element.shape.typeName
  /-- What does not convert is answered with the reason. -/
  unconverted : ∀ e, (∀ name, e ≠ .notARectangle name) →
    (((v.run ops).pollRegion ⟨s.request, slot⟩).1 = .ready (.error (.conversion e))
      ↔ ∃ drawn, EndedBy s.layer s.request ops (.handle (.annotationChanged s.layer drawn)) ∧
        convert drawn = .error e)
  /-- Whatever else ends a session cancels it. -/
  cancelled : ((v.run ops).pollRegion ⟨s.request, slot⟩).1 = .ready (.error .cancelled)
    ↔ EndedBy s.layer s.request ops .cancelDrawing ∨ EndedBy s.layer s.request ops .destroy ∨
      EndedBy s.layer s.request ops .drop
  /-- A draw mode that is given up without the help of its map abandons the session. -/
  abandoned : (v.run ops).draw.active = some s →
    let w := { v.run ops with draw := (v.run ops).draw.abandon }
    (w.pollRegion ⟨s.request, slot⟩).1 = .ready (.error .abandoned) ∧
      (w.pollRegion ⟨s.request, slot⟩).2.slots = w.slots
  /-- There are no other errors. -/
  noOther : ∀ e, ((v.run ops).pollRegion ⟨s.request, slot⟩).1 = .ready (.error e) →
    e = .cancelled ∨ ∃ cause, e = .conversion cause

/-- The session is over when an operation has ended it. -/
theorem active_run_iff (hv : v.Regular) (hs : Awaits s v.draw)
    (hkept : .dropRequest s.request ∉ ops) :
    (v.run ops).draw.active = some s ↔ ∀ op ∈ ops, ¬ op.Ends s.layer := by
  rw [← ending?_eq_none (v := v)]
  have hrun := run_awaits hv hs hkept
  cases hending : v.ending? s.layer ops with
  | none =>
      rw [hending] at hrun
      exact iff_of_true hrun.1 rfl
  | some ended =>
      rw [hending] at hrun
      exact iff_of_false (fun hactive => hrun.1.2 s hactive rfl) nofun

/-- A session whose request is held waits for its answer. -/
theorem awaits_run (hv : v.Regular) (hs : Awaits s v.draw) (hkept : .dropRequest s.request ∉ ops)
    (hactive : (v.run ops).draw.active = some s) : Awaits s (v.run ops).draw := by
  have hrun := run_awaits hv hs hkept
  rw [ending?_eq_none.2 ((active_run_iff hv hs hkept).1 hactive)] at hrun
  exact hrun

/-- Only something drawn can have a verdict that is no cancellation. -/
theorem exists_endedBy_drawing {request : RequestId} {x : Except DrawError Region}
    (hx : x ≠ .error .cancelled) :
    (∃ op, EndedBy layer request ops op ∧ op.regionVerdict = x)
      ↔ ∃ drawn, EndedBy layer request ops (.handle (.annotationChanged layer drawn)) ∧
        (Operation.handle (.annotationChanged layer drawn)).regionVerdict = x := by
  constructor
  · rintro ⟨op, hended, hverdict⟩
    obtain ⟨-, -, -, -, hends, -⟩ := id hended
    rcases hends.cases with ⟨drawn, rfl⟩ | rfl | rfl | rfl
    · exact ⟨drawn, hended, hverdict⟩
    all_goals exact absurd hverdict.symm hx
  · rintro ⟨drawn, hended, hverdict⟩
    exact ⟨_, hended, hverdict⟩

theorem regionAnswered_of_awaits (hv : v.Regular) (hs : Awaits s v.draw)
    (hkept : .dropRequest s.request ∉ ops) (slot : SlotId) : RegionAnswered s slot v ops where
  waits := active_run_iff hv hs hkept
  pending := by
    rw [← poll_run_eq_pending hv hs hkept, pollRegion_fst]
    cases ((v.run ops).poll s.request).1 <;> simp [Poll.map]
  undisturbed := by
    intro hactive
    rw [pollRegion_of_awaits (awaits_run hv hs hkept hactive)]
  region := by
    intro r
    rw [pollRegion_eq_ready hv hs hkept, exists_endedBy_drawing (by simp)]
    simp only [Operation.regionVerdict_eq_ok, exists_and_left]
  stored := by
    intro r hr
    refine ⟨?_, fun other => ?_⟩
    · rw [pollRegion_fst] at hr
      obtain ⟨x, hpoll, hx⟩ := Poll.map_eq_ready.1 hr
      obtain ⟨outcome, rfl, houtcome⟩ := DrawResult.region_eq_ok.1 hx
      exact ⟨outcome, hpoll, houtcome⟩
    · rw [(pollRegion_slots _ _).1 r hr]
      exact region?_put slot r _ other
  untouched := (pollRegion_slots _ _).2
  notARectangle := by
    intro name
    rw [pollRegion_eq_ready hv hs hkept, exists_endedBy_drawing (by simp)]
    simp only [Operation.regionVerdict_eq_notARectangle, exists_and_left]
  unconverted := by
    intro e he
    rw [pollRegion_eq_ready hv hs hkept, exists_endedBy_drawing (by simp)]
    simp only [Operation.regionVerdict_eq_error he]
  cancelled := by
    rw [pollRegion_eq_ready hv hs hkept]
    constructor
    · rintro ⟨op, hended, hverdict⟩
      obtain ⟨-, -, -, -, hends, -⟩ := id hended
      rcases hends.cases with ⟨drawn, rfl⟩ | rfl | rfl | rfl
      · exact absurd hverdict Operation.regionVerdict_ne_cancelled
      · exact .inl hended
      · exact .inr (.inl hended)
      · exact .inr (.inr hended)
    · rintro (hended | hended | hended)
      all_goals exact ⟨_, hended, rfl⟩
  abandoned := by
    intro hactive w
    have hpending := (awaits_run hv hs hkept hactive).2
    have hrequests : w.draw.requests
        = (v.run ops).draw.requests.answer s.request (.error .abandoned) := by
      show (v.run ops).draw.abandon.requests = _
      rw [DrawMode.abandon, hactive]
    have hanswered : w.draw.requests.known? s.request = some (some (.error .abandoned)) := by
      rw [hrequests, Requests.known?_answer, if_pos rfl, hpending]
      rfl
    have hpoll : (w.pollRegion ⟨s.request, slot⟩).1 = .ready (.error .abandoned) := by
      rw [pollRegion_fst]
      show ((w.draw.requests.poll s.request).1).map _ = _
      rw [Requests.poll_of_answered hanswered]
      rfl
    exact ⟨hpoll, (pollRegion_slots w _).2 (by simp [hpoll])⟩
  noOther := by
    intro e he
    obtain ⟨op, -, hverdict⟩ := (pollRegion_eq_ready hv hs hkept slot).1 he
    exact Operation.regionVerdict_error hverdict

/-- **What becomes of a request for a region.** Whatever the slots hold, whatever happened before
the region was asked for and whatever happens afterwards, as long as the holder keeps the request:
it is answered by the operation that ends its session, and a slot is written exactly when there is a
region. -/
theorem region_answered (settings : Settings) (supply : Identity.Supply)
    (drains : DrainOrders) (bus : Bus) (slots : RegionSlots) (before : List Operation)
    (slot : Option SlotId) (q : RegionRequest) (after : List Operation)
    (hissued : ((run { fresh settings supply drains bus with slots } before).drawRegion slot).1
      = .ok q)
    (hkept : .dropRequest q.request ∉ after) :
    let v := (run { fresh settings supply drains bus with slots } before).perform (.drawRegion slot)
    (∀ chosen ∈ slot, q.slot = chosen) ∧
      ∃ s : DrawSession, s.request = q.request ∧ v.draw.active = some s ∧
        RegionAnswered s q.slot v after := by
  intro v
  have hfresh : Regular { fresh settings supply drains bus with slots } :=
    ⟨(inOrder_iff_of_none rfl).2 ⟨rfl, rfl, rfl⟩, Requests.Below.empty⟩
  have hv := hfresh.run before
  have hrequest : (Operation.drawRegion slot).issued?
      (run { fresh settings supply drains bus with slots } before) = some q.request := by
    rw [Operation.issued?, hissued]
    rfl
  obtain ⟨s, hs, hsame, -⟩ := awaits_of_issued hv hrequest
  rw [← hsame] at hkept
  refine ⟨?_, s, hsame, hs.1, regionAnswered_of_awaits (hv.perform _) hs hkept q.slot⟩
  intro chosen hchosen
  obtain rfl := Option.mem_def.1 hchosen
  unfold drawRegion at hissued
  generalize startDrawing .rectangle (some .silent) _ = started at hissued
  obtain ⟨result, w⟩ := started
  cases result with
  | error e => cases hissued
  | ok request =>
      cases hissued
      rfl

/-- A rectangle that is drawn after a line on another layer and a look at its request. -/
def rectangleDrawn : List Operation :=
  [.handle (.annotationChanged ⟨1⟩ { kind := .line, coordinates := [] }), .poll ⟨0⟩,
    .handle (.annotationChanged ⟨2⟩
      { kind := .rectangle
        coordinates := [⟨10.0, 20.0⟩, ⟨110.0, 20.0⟩, ⟨110.0, 70.0⟩, ⟨10.0, 70.0⟩] })]

theorem region_answered_of_rectangleDrawn :
    let slots : RegionSlots := { next := 1, regions := [(⟨0⟩, ⟨1, 2, 3, 4⟩)] }
    let q : RegionRequest := ⟨⟨0⟩, ⟨0⟩⟩
    let start := run { fresh {} { bits := fun _ => 0 } (fun _ => .arrival) {} with slots } opening
    let v := start.perform (.drawRegion (some ⟨0⟩))
    (start.drawRegion (some ⟨0⟩)).1 = .ok q ∧ .dropRequest q.request ∉ rectangleDrawn ∧
      ((v.run rectangleDrawn).pollRegion q).2.slots.region? ⟨0⟩ = some ⟨10, 20, 100, 50⟩ ∧
      ∃ s : DrawSession, s.request = q.request ∧ v.draw.active = some s ∧
        RegionAnswered s q.slot v rectangleDrawn := by
  intro slots q start v
  have hissued : (start.drawRegion (some ⟨0⟩)).1 = .ok q := by decide +kernel
  have hkept : .dropRequest q.request ∉ rectangleDrawn := by simp [rectangleDrawn]
  exact ⟨hissued, hkept, by decide +kernel, (region_answered {} { bits := fun _ => 0 }
    (fun _ => .arrival) {} slots opening (some ⟨0⟩) q rectangleDrawn hissued hkept).2⟩

end Viewer

end ImageOverlay
