import ImageOverlay.Proofs.Viewer.Changes

set_option autoImplicit false

/-!
# What becomes of a request

A request is answered by the operation that ends its session, and by nothing else. Its life has two
halves, as long as its holder keeps it. While its session waits it is pending, and nothing but a
verdict ends the session (`Change.awaits`); afterwards it has the verdict for an answer, and nothing
but a look at it takes the answer away (`Change.known_of_past`).

`Viewer.ending?` finds the verdict in a list of operations, and `Viewer.Answered` is all the holder
can rely on.
-/

namespace ImageOverlay

/-- The request an operation returns to its caller. -/
def Operation.issued? (v : Viewer) : Operation → Option RequestId
  | .startDrawing shape options => (v.startDrawing shape options).1.toOption
  | .drawRegion slot => (v.drawRegion slot).1.toOption.map (·.request)
  | _ => none

namespace Viewer

/-- The verdict that ends the session on a layer, and the operations that come after it. -/
def ending? (layer : LayerHandle) : Viewer → List Operation → Option (DrawResult × List Operation)
  | _, [] => none
  | v, op :: ops =>
      match op.verdict? layer v.supply with
      | some r => some (r, ops)
      | none => ending? layer (v.perform op) ops

variable {v v' : Viewer} {op : Operation} {supply : Identity.Supply} {next : Option LayerHandle}

theorem pollRegion_fst (r : RegionRequest) (v : Viewer) :
    (v.pollRegion r).1 = (v.poll r.request).1.map DrawResult.region := by
  unfold pollRegion
  simp only
  split <;> rfl

/-- A request for a region is a request for a rectangle. -/
theorem drawRegion_request (slot : Option SlotId) (v : Viewer) :
    (v.drawRegion slot).1.toOption.map (·.request)
      = (v.startDrawing .rectangle (some .silent)).1.toOption := by
  unfold drawRegion
  generalize v.startDrawing .rectangle (some .silent) = started
  obtain ⟨result, w⟩ := started
  cases result with
  | error e => rfl
  | ok request => cases slot <;> rfl

/-! ## The two halves of the life of a request -/

/-- The session waits, and its request is held and pending. -/
def Awaits (s : DrawSession) (d : DrawMode) : Prop :=
  d.active = some s ∧ d.requests.known? s.request = some none

/-- The request was given out, and no session waits for it any more. -/
def Past (request : RequestId) (d : DrawMode) : Prop :=
  request.number < d.requests.next ∧ ∀ s ∈ d.active, s.request ≠ request

namespace Change

variable {d d' : DrawMode} {s : DrawSession} {request : RequestId}

theorem below (h : Change op supply next d d') (hd : d.requests.Below) : d'.requests.Below := by
  cases h with
  | kept _ _ hrequests _ => rwa [hrequests]
  | evicted _ _ _ _ _ hrequests => rwa [hrequests]
  | started _ _ _ _ _ _ hrequests =>
      rw [hrequests]
      exact hd.create
  | ended _ _ _ _ _ hrequests =>
      rw [hrequests]
      exact hd.answer _ _
  | polled _ _ _ hrequests _ =>
      rw [hrequests]
      exact hd.poll _
  | dropped _ _ _ hrequests =>
      rw [hrequests]
      exact hd.drop _

/-- **The first half.** A session whose request is kept goes on waiting until there is a verdict,
and then its request has this verdict for an answer. -/
theorem awaits (h : Change op supply next d d') (hd : d.requests.Below) (hs : Awaits s d)
    (hkept : op ≠ .dropRequest s.request) :
    match op.verdict? s.layer supply with
    | none => Awaits s d'
    | some r => Past s.request d' ∧ d'.requests.known? s.request = some (some r) := by
  obtain ⟨hactive, hpending⟩ := hs
  have hissued : s.request.number < d.requests.next := by
    by_contra hnot
    rw [hd _ (Nat.le_of_not_lt hnot)] at hpending
    cases hpending
  cases h with
  | kept hop hactive' hrequests hgoesOn =>
      rw [hgoesOn s hactive]
      exact ⟨hactive'.trans hactive, by rw [hrequests, hpending]⟩
  | evicted hop t ht hdropped =>
      -- Only a session whose request is not held makes room for another.
      obtain rfl := Option.some.inj (ht.symm.trans hactive)
      rw [hdropped] at hpending
      cases hpending
  | started hop t hfree =>
      rw [hfree s hactive] at hpending
      cases hpending
  | ended t r ht hverdict hactive' hrequests =>
      obtain rfl := Option.some.inj (ht.symm.trans hactive)
      rw [hverdict]
      refine ⟨⟨by rwa [hrequests, Requests.next_answer], by simp [hactive']⟩, ?_⟩
      rw [hrequests, Requests.known?_answer, if_pos rfl, hpending]
      rfl
  | polled r hop hactive' hrequests hgoesOn =>
      rw [hgoesOn s hactive]
      refine ⟨hactive'.trans hactive, ?_⟩
      rw [hrequests, Requests.known?_poll, if_neg fun hne => hne.2 hpending, hpending]
  | dropped r hop hactive' hrequests =>
      subst hop
      have hne : s.request ≠ r := fun heq => hkept (heq ▸ rfl)
      refine ⟨hactive'.trans hactive, ?_⟩
      rw [hrequests, Requests.known?_drop, if_neg hne, hpending]

theorem past (h : Change op supply next d d') (hpast : Past request d) : Past request d' := by
  obtain ⟨hissued, hover⟩ := hpast
  cases h with
  | kept hop hactive' hrequests => exact ⟨by rwa [hrequests], by rwa [hactive']⟩
  | evicted hop t ht hdropped hactive' hrequests => exact ⟨by rwa [hrequests], by simp [hactive']⟩
  | started hop t hfree hactive' hlayer hrequest hrequests =>
      refine ⟨by rw [hrequests, Requests.next_create]; omega, ?_⟩
      rw [hactive']
      rintro s hs rfl
      obtain rfl := Option.mem_some.1 hs
      rw [hrequest] at hissued
      exact Nat.lt_irrefl _ hissued
  | ended t r ht hverdict hactive' hrequests =>
      exact ⟨by rwa [hrequests, Requests.next_answer], by simp [hactive']⟩
  | polled r hop hactive' hrequests =>
      exact ⟨by rwa [hrequests, Requests.next_poll], by rwa [hactive']⟩
  | dropped r hop hactive' hrequests =>
      exact ⟨by rwa [hrequests, Requests.next_drop], by rwa [hactive']⟩

/-- **The second half.** What is known of a request that is not pending stays, unless somebody
looks at it. -/
theorem known_of_past (h : Change op supply next d d') (hd : d.requests.Below)
    (hpast : Past request d) (hkept : op ≠ .dropRequest request)
    (hready : d.requests.known? request ≠ some none) :
    d'.requests.known? request
      = if op.polled? = some request then none else d.requests.known? request := by
  cases h with
  | kept hop hactive' hrequests | evicted hop t ht hdropped hactive' hrequests =>
      rw [hrequests, hop, if_neg (by simp)]
  | started hop t hfree hactive' hlayer hrequest hrequests =>
      have hold : request ≠ d.requests.create.1 := by
        rintro rfl
        exact Nat.lt_irrefl _ hpast.1
      rw [hrequests, hop, if_neg (by simp), Requests.known?_create hd, if_neg hold]
  | ended t r ht hverdict hactive' hrequests =>
      have hother : request ≠ t.request := (hpast.2 t ht).symm
      rw [hrequests, Operation.polled?_eq_none hverdict, if_neg (by simp), Requests.known?_answer,
        if_neg hother]
  | polled r hop hactive' hrequests =>
      rw [hrequests, hop, Requests.known?_poll]
      by_cases hr : request = r
      · rw [if_pos ⟨hr, hready⟩, if_pos (by rw [hr])]
      · rw [if_neg fun heq => hr heq.1, if_neg fun heq => hr (Option.some.inj heq).symm]
  | dropped r hop hactive' hrequests =>
      subst hop
      have hne : request ≠ r := fun heq => hkept (heq ▸ rfl)
      rw [hrequests, Requests.known?_drop, if_neg hne]
      rfl

end Change

/-! ## Whole runs -/

/-- What holds of every viewer: it is in order, and no request is held before its time. -/
structure Regular (v : Viewer) : Prop where
  inOrder : v.InOrder
  below : v.draw.requests.Below

namespace Regular

theorem fresh (settings : Settings) (supply : Identity.Supply) (drains : DrainOrders) (bus : Bus) :
    (Viewer.fresh settings supply drains bus).Regular :=
  ⟨inOrder_fresh settings supply drains bus, Requests.Below.empty⟩

theorem perform (h : v.Regular) (op : Operation) : (v.perform op).Regular :=
  ⟨(perform_step h.inOrder op).2, (perform_change h.inOrder op).below h.below⟩

theorem run (h : v.Regular) (ops : List Operation) : (v.run ops).Regular :=
  run_invariant (P := Regular) (fun _ op hw => hw.perform op) h ops

end Regular

variable {s : DrawSession} {request : RequestId} {ops : List Operation}

/-- An answer that is there stays until it is taken. -/
theorem known_run_of_past (hv : v.Regular) (hpast : Past request v.draw)
    (hkept : .dropRequest request ∉ ops) (hready : v.draw.requests.known? request ≠ some none) :
    Past request (v.run ops).draw ∧ (v.run ops).draw.requests.known? request
      = if ∃ op ∈ ops, op.polled? = some request then none
        else v.draw.requests.known? request := by
  induction ops generalizing v with
  | nil => exact ⟨hpast, by simp⟩
  | cons op ops ih =>
      rw [List.mem_cons, not_or] at hkept
      have hchange := perform_change hv.inOrder op
      have hknown := hchange.known_of_past hv.below hpast (Ne.symm hkept.1) hready
      -- Whether the answer was taken or not, the request does not become pending again.
      have hready' : (v.perform op).draw.requests.known? request ≠ some none := by
        rw [hknown]
        split
        · simp
        · exact hready
      rw [run_cons]
      obtain ⟨hpast', hrun⟩ := ih (hv.perform op) (hchange.past hpast) hkept.2 hready'
      refine ⟨hpast', hrun.trans ?_⟩
      rw [hknown]
      by_cases hpolled : op.polled? = some request <;> simp [hpolled]

/-- Up to the verdict the session waits, and after it the verdict is the answer. -/
theorem run_awaits (hv : v.Regular) (hs : Awaits s v.draw)
    (hkept : .dropRequest s.request ∉ ops) :
    match v.ending? s.layer ops with
    | none => Awaits s (v.run ops).draw
    | some (r, later) => Past s.request (v.run ops).draw ∧
        (v.run ops).draw.requests.known? s.request
          = if ∃ op ∈ later, op.polled? = some s.request then none else some (some r) := by
  induction ops generalizing v with
  | nil => exact hs
  | cons op ops ih =>
      rw [List.mem_cons, not_or] at hkept
      have hstep := (perform_change hv.inOrder op).awaits hv.below hs (Ne.symm hkept.1)
      rw [ending?, run_cons]
      cases hverdict : op.verdict? s.layer v.supply with
      | none =>
          rw [hverdict] at hstep
          exact ih (hv.perform op) hstep hkept.2
      | some r =>
          rw [hverdict] at hstep
          -- The first half of the life of the request ends here, and the second begins.
          obtain ⟨hpast, hanswer⟩ := hstep
          have hrun := known_run_of_past (hv.perform op) hpast hkept.2 (by simp [hanswer])
          rw [hanswer] at hrun
          exact hrun

/-- What the holder sees when looking at the request. -/
theorem poll_run (hv : v.Regular) (hs : Awaits s v.draw) (hkept : .dropRequest s.request ∉ ops) :
    ((v.run ops).poll s.request).1
      = match v.ending? s.layer ops with
        | none => .pending
        | some (r, later) =>
            if ∃ op ∈ later, op.polled? = some s.request then .notHeld else .ready r := by
  have hrun := run_awaits hv hs hkept
  refine (Requests.poll_eq s.request (v.run ops).draw.requests).trans ?_
  cases hending : v.ending? s.layer ops with
  | none =>
      rw [hending] at hrun
      rw [hrun.2]
  | some ended =>
      obtain ⟨r, later⟩ := ended
      rw [hending] at hrun
      rw [hrun.2]
      by_cases hpolled : ∃ op ∈ later, op.polled? = some s.request
      · simp only [if_pos hpolled]
      · simp only [if_neg hpolled]

/-- Where the session waits no more, its request is not pending. -/
theorem poll_run_eq_pending (hv : v.Regular) (hs : Awaits s v.draw)
    (hkept : .dropRequest s.request ∉ ops) :
    ((v.run ops).poll s.request).1 = .pending ↔ (v.run ops).draw.active = some s := by
  have hrun := run_awaits hv hs hkept
  rw [poll_run hv hs hkept]
  cases hending : v.ending? s.layer ops with
  | none =>
      rw [hending] at hrun
      simp only [hrun.1]
  | some ended =>
      rw [hending] at hrun
      obtain ⟨⟨-, hover⟩, -⟩ := hrun
      have hnot : (v.run ops).draw.active ≠ some s := fun hactive => hover s hactive rfl
      simp only [hnot, iff_false]
      split_ifs <;> simp

/-- Who is given a request has a session that waits, on a layer the map did not have before. -/
theorem awaits_of_issued (hv : v.Regular) {op : Operation} (h : op.issued? v = some request) :
    ∃ s, Awaits s (v.perform op).draw ∧ s.request = request ∧
      v.map.map MapState.freshLayer = some s.layer := by
  have hstart : ∀ shape options, (v.startDrawing shape options).1.toOption = some request →
      ∃ s, Awaits s (v.startDrawing shape options).2.draw ∧ s.request = request ∧
        v.map.map MapState.freshLayer = some s.layer := by
    intro shape options hresult
    unfold startDrawing at hresult ⊢
    cases hmap : v.map with
    | none =>
        simp only [hmap] at hresult
        cases hresult
    | some m =>
        simp only [hmap] at hresult ⊢
        rcases DrawMode.start_cases shape (options.getD v.settings.drawOptions) v.draw
            { library := v.library, map := m } with
          ⟨e, he, -⟩ | ⟨s, hs, hactive, hrequests, hlayer, hrequest, -⟩
        · rw [he] at hresult
          cases hresult
        · rw [hs] at hresult
          refine ⟨s, ⟨hactive, ?_⟩, Option.some.inj hresult, congrArg some hlayer.symm⟩
          rw [hrequests, Requests.known?_create hv.below, if_pos hrequest]
  cases op with
  | startDrawing shape options => exact hstart shape options h
  | drawRegion slot =>
      obtain ⟨slots, heq⟩ := drawRegion_eq slot v
      show ∃ s, Awaits s (v.drawRegion slot).2.draw ∧ _
      rw [heq]
      exact hstart _ _ ((drawRegion_request slot v).symm.trans h)
  | attach | setImage | render | addOverlay | removeOverlay | clearOverlays | poll | pollRegion
  | dropRequest | handle | cancelDrawing | retireLayers | destroy | drop | arm => cases h

end Viewer

end ImageOverlay
