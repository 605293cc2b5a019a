import ImageOverlay.Proofs.Draw.Layers
import ImageOverlay.Proofs.Viewport.Replay
import Mathlib.Data.List.Induction

set_option autoImplicit false

/-!
# A start that fails

To start a session takes three calls to the map, and each of them may be refused. Before the first
of them a session that was given up may have to go, and behind it there may be layers that retire.
Whatever the combination, a start that fails leaves things as they were (`DrawMode.FailsCleanly`):
while a session waits nothing happens at all, and where the map refuses, the error is the one the
map has for it (`Viewport.openingRefusal?`), nobody waits afterwards, and the map is without the
session that was given up and otherwise the same, but for the number of a layer that came and went.

The reason is the same each time. A layer that is taken back must take nothing with it that was
there before, so its handle has to be new, and the map sees to that as long as it counts its layers
(`MapState.Counted`). Nothing that the draw mode or anybody else asks of a map keeps it from
counting.
-/

namespace ImageOverlay

namespace Viewport

variable {p q r : Viewport}

/-! ## Maps that were asked for something -/

/-- The second map is the first one after it was asked for some things. -/
def Asked (p q : Viewport) : Prop := ∃ ops, q = p.askAll ops

namespace Asked

theorem refl (p : Viewport) : Asked p p := ⟨[], rfl⟩

theorem trans (hpq : Asked p q) (hqr : Asked q r) : Asked p r := by
  obtain ⟨first, rfl⟩ := hpq
  obtain ⟨second, rfl⟩ := hqr
  exact ⟨first ++ second, List.foldl_append.symm⟩

theorem ask (op : MapOperation) (p : Viewport) : Asked p (p.ask op).2 := ⟨[op], rfl⟩

theorem discard (layer : LayerHandle) (subscription : SubscriptionId) (p : Viewport) :
    Asked p (DrawMode.discard layer subscription p) :=
  ⟨[.unsubscribe subscription, .deleteLayer layer], rfl⟩

end Asked

/-- The record since some time before is the map. -/
def OnRecord (p : Viewport) : Prop :=
  ∃ earlier calls, p.library.log = earlier ++ calls ∧ Replayed calls p.map

theorem OnRecord.asked (h : OnRecord p) (hpq : Asked p q) : OnRecord q := by
  obtain ⟨earlier, calls, hlog, hcalls⟩ := h
  obtain ⟨ops, rfl⟩ := hpq
  exact ⟨earlier, askAll_replayed hlog hcalls ops⟩

theorem OnRecord.counted (h : OnRecord p) : p.map.Counted := by
  obtain ⟨earlier, calls, -, hcalls⟩ := h
  exact hcalls.counted

/-! ## Why a layer is not opened -/

/-- Why a map lets nobody draw on a new layer: it does not create one, or a fault is armed for one
of the two calls that follow. -/
def openingRefusal? (p : Viewport) : Option ViewportError :=
  p.creationRefusal?.or ((p.library.armed? .setInteractionMode).or (p.library.armed? .subscribe))

end Viewport

/-! ## What can happen to a draw mode -/

/-- What can happen to a draw mode and to the map it works on. The map is not there for the draw
mode alone: anybody may ask it for anything, and tear it down. -/
inductive DrawOperation where
  | start (shape : ShapeKind) (options : DrawOptions)
  | annotationChanged (layer : LayerHandle) (drawn : Drawn) (bus : Bus) (supply : Identity.Supply)
  | retire
  | cancel
  | abandon
  | poll (request : RequestId)
  | dropRequest (request : RequestId)
  | ask (op : MapOperation)
  | arm (call : FallibleCall) (e : ViewportError)

namespace DrawMode

open Viewport (Asked OnRecord)

/-- Carry out one operation. -/
def perform : DrawMode × Viewport → DrawOperation → DrawMode × Viewport
  | (d, p), .start shape options => (d.start shape options p).2
  | (d, p), .annotationChanged layer drawn bus supply =>
      ((d.annotationChanged layer drawn bus supply).2.1, p)
  | (d, p), .retire => (d.retire p).2
  | (d, p), .cancel => (d.cancel p).2
  | (d, p), .abandon => (d.abandon, p)
  | (d, p), .poll request => ({ d with requests := (d.requests.poll request).2 }, p)
  | (d, p), .dropRequest request => ({ d with requests := d.requests.drop request }, p)
  | (d, p), .ask op => (d, (p.ask op).2)
  | (d, p), .arm call e => (d, { p with library := p.library.arm call e })

/-- Carry out operations, one after the other, from a draw mode and a map that are new. -/
def run (library : MapLibrary) (ops : List DrawOperation) : DrawMode × Viewport :=
  ops.foldl perform ({}, { library })

variable {d : DrawMode} {p : Viewport} {session : DrawSession}

/-! ## The draw mode only asks -/

theorem evict_asked (d : DrawMode) (p : Viewport) : Asked p (d.evict p).2 := by
  unfold evict
  split
  · exact .refl p
  · split
    · exact .refl p
    · exact .discard _ _ p

theorem openLayer_asked (shape : ShapeKind) (p : Viewport) : Asked p (openLayer shape p).2 := by
  have hcreate : Asked p (p.createLayer .annotationDraw).2 := .ask (.createLayer _) p
  unfold openLayer
  generalize p.createLayer .annotationDraw = created at hcreate ⊢
  obtain ⟨_ | layer, q⟩ := created
  · exact hcreate
  · have hmode : Asked p (q.setInteractionMode layer (some shape)).2 :=
      hcreate.trans (.ask (.setInteractionMode _ _) q)
    simp only
    generalize q.setInteractionMode layer (some shape) = moded at hmode ⊢
    obtain ⟨_ | _, r⟩ := moded
    · exact hmode.trans (.ask (.deleteLayer layer) r)
    · have hsubscribe : Asked p (r.subscribe layer).2 := hmode.trans (.ask (.subscribe _) r)
      simp only
      generalize r.subscribe layer = subscribed at hsubscribe ⊢
      obtain ⟨_ | _, s⟩ := subscribed
      · exact hsubscribe.trans (.ask (.deleteLayer layer) s)
      · exact hsubscribe

theorem start_asked (shape : ShapeKind) (options : DrawOptions) (d : DrawMode) (p : Viewport) :
    Asked p (d.start shape options p).2.2 := by
  have hevict := evict_asked d p
  unfold start
  generalize d.evict p = evicted at hevict ⊢
  obtain ⟨d', q⟩ := evicted
  have hopen : Asked p (openLayer shape q).2 := hevict.trans (openLayer_asked shape q)
  simp only
  cases d'.active with
  | some session => exact hevict
  | none =>
      simp only
      generalize openLayer shape q = opened at hopen ⊢
      obtain ⟨_ | _, r⟩ := opened <;> exact hopen

theorem discardAll_asked (retiring : List RetiringLayer) (p : Viewport) :
    Asked p (retiring.foldl (fun v r => discard r.layer r.subscription v) p) := by
  induction retiring generalizing p with
  | nil => exact .refl p
  | cons r rest ih => exact (Asked.discard _ _ p).trans (ih _)

theorem cancel_asked (d : DrawMode) (p : Viewport) : Asked p (d.cancel p).2.2 := by
  cases hactive : d.active with
  | none =>
      rw [cancel_eq_self hactive]
      exact .refl p
  | some session =>
      rw [cancel_eq_discard hactive]
      exact (Asked.ask (.setInteractionMode session.layer none) p).trans (.discard _ _ _)

/-- One step: the record stays the map. -/
theorem perform_onRecord (h : OnRecord p) (op : DrawOperation) :
    OnRecord (perform (d, p) op).2 := by
  cases op with
  | start shape options => exact h.asked (start_asked shape options d p)
  | retire => exact h.asked (discardAll_asked d.retiring p)
  | cancel => exact h.asked (cancel_asked d p)
  | ask op => exact h.asked (.ask op p)
  | annotationChanged | abandon | poll | dropRequest | arm => exact h

theorem run_onRecord (library : MapLibrary) (ops : List DrawOperation) :
    OnRecord (run library ops).2 := by
  induction ops using List.reverseRecOn with
  | nil => exact ⟨library.log, [], (List.append_nil _).symm, .nil⟩
  | append_singleton ops op ih =>
      rw [run, List.foldl_append]
      exact perform_onRecord ih op

/-! ## Opening a layer -/

/-- Where the map counts its layers, it refuses to open one exactly if it has a reason, and then
answers with that. -/
theorem openLayer_answer (h : p.map.Counted) (shape : ShapeKind) :
    (openLayer shape p).1 = match p.openingRefusal? with
      | some e => .error e
      | none => .ok (p.map.freshLayer, p.map.freshSubscription) := by
  unfold openLayer Viewport.openingRefusal?
  cases hcreate : p.creationRefusal? with
  | some e => rw [p.createLayer_of_refused hcreate, Option.some_or]
  | none =>
      rw [p.createLayer_of_granted hcreate, Option.none_or]
      simp only
      -- The calls that follow are about the layer that has just come, so the map has no reason of
      -- its own to refuse them.
      have hstanding : p.map.tornDown = false := by
        simpa using (Option.or_eq_none_iff.1 hcreate).2
      generalize hq : p.commit (p.map.addLayer .annotationDraw)
        (.createLayer p.map.freshLayer .annotationDraw) = q
      have harmed : ∀ call, q.library.armed? call = p.library.armed? call := by
        intro call
        rw [← hq]
        rfl
      have hlayer : q.map.layer? p.map.freshLayer = some { kind := .annotationDraw } := by
        rw [← hq]
        exact (MapState.layer?_addLayer h.fresh_not_mem _ _).trans (if_pos rfl)
      have hentry := Viewport.entry_of_layer? (by rw [← hq]; exact hstanding) hlayer
      cases hmode : p.library.armed? .setInteractionMode with
      | some e =>
          rw [Viewport.setInteractionMode_of_armed ((harmed _).trans hmode)]
          rfl
      | none =>
          rw [Viewport.setInteractionMode_of_granted ((harmed _).trans hmode) hentry rfl,
            Option.none_or]
          simp only
          generalize hr : q.commit _ (.setInteractionMode p.map.freshLayer (some shape)) = r
          have harmed : r.library.armed? .subscribe = p.library.armed? .subscribe := by
            rw [← hr]
            exact harmed _
          cases hsubscribe : p.library.armed? .subscribe with
          | some e => rw [Viewport.subscribe_of_armed (harmed.trans hsubscribe)]
          | none =>
              have hput := (MapState.layer?_put hlayer
                { kind := .annotationDraw, mode := some shape } _).trans (if_pos rfl)
              have hentry : r.map.entry p.map.freshLayer = .ok
                  { kind := .annotationDraw, mode := some shape } := by
                rw [← hr]
                exact Viewport.entry_of_layer? (by rw [← hq]; exact hstanding) hput
              rw [Viewport.subscribe_of_granted (harmed.trans hsubscribe) hentry, ← hr, ← hq]
              rfl

/-! ## Making room -/

/-- A session waits, and somebody holds its request. -/
def isBusy (d : DrawMode) : Bool := d.active.any fun s => d.requests.isHeld s.request

/-- The session that waits although nobody holds its request any more. -/
def forsaken? (d : DrawMode) : Option DrawSession :=
  d.active.filter fun s => !d.requests.isHeld s.request

/-- What is left of a map when a session goes, if one does. -/
def remaining (session? : Option DrawSession) (m : MapState) : MapState :=
  match session? with
  | none => m
  | some s => (m.withoutSubscription s.subscription).withoutLayer s.layer

theorem remaining_nextLayer (session? : Option DrawSession) (m : MapState) :
    (remaining session? m).nextLayer = m.nextLayer := by
  cases session? <;> rfl

/-- Unless a session waits for somebody, room is made by removing the one that was given up. -/
theorem evict_of_free (h : d.isBusy = false) (p : Viewport) :
    (d.evict p).1 = { d with active := none } ∧
      (d.evict p).2.map = remaining d.forsaken? p.map := by
  cases hactive : d.active with
  | none =>
      have hforsaken : d.forsaken? = none := by
        rw [forsaken?, hactive]
        rfl
      rw [evict_eq_self (by simp [hactive]), hforsaken]
      exact ⟨by rw [← hactive], rfl⟩
  | some s =>
      have hfree : d.requests.isHeld s.request = false := by
        simpa [isBusy, hactive] using h
      have hforsaken : d.forsaken? = some s := by
        simp [forsaken?, hactive, hfree]
      rw [evict_eq_discard hactive (by simp [hfree]), hforsaken]
      exact ⟨rfl, rfl⟩

/-- Whether a layer can be opened does not depend on the room that is made for it. -/
theorem evict_openingRefusal? (d : DrawMode) (p : Viewport) :
    (d.evict p).2.openingRefusal? = p.openingRefusal? := by
  unfold evict
  split
  · rfl
  · split <;> rfl

/-! ## Starting a session -/

variable {shape : ShapeKind} {options : DrawOptions} {e : ViewportError}

/-- What whoever starts a session is told. -/
def startAnswer (d : DrawMode) (p : Viewport) : Except DrawError RequestId :=
  if d.isBusy then .error .sessionBusy
  else match p.openingRefusal? with
    | some e => .error (.viewport e)
    | none => .ok d.requests.create.1

theorem startAnswer_eq_busy : d.startAnswer p = .error .sessionBusy ↔ d.isBusy = true := by
  unfold startAnswer
  cases d.isBusy with
  | true => simp
  | false => cases p.openingRefusal? <;> simp

theorem startAnswer_eq_viewport :
    d.startAnswer p = .error (.viewport e) ↔ d.isBusy = false ∧ p.openingRefusal? = some e := by
  unfold startAnswer
  cases d.isBusy with
  | true => simp
  | false => cases p.openingRefusal? <;> simp

theorem start_of_busy (h : d.isBusy = true) (p : Viewport) :
    d.start shape options p = (.error .sessionBusy, d, p) := by
  obtain hactive | ⟨s, hactive⟩ := Option.eq_none_or_eq_some d.active
  · rw [isBusy, hactive] at h
    cases h
  · rw [isBusy, hactive] at h
    exact start_eq_busy hactive h

theorem start_of_refused (hfree : d.isBusy = false) (h : OnRecord p)
    (hrefused : p.openingRefusal? = some e) : ∃ q next,
    d.start shape options p = (.error (.viewport e), { d with active := none }, q) ∧
      p.map.nextLayer ≤ next ∧ q.map = { remaining d.forsaken? p.map with nextLayer := next } := by
  obtain ⟨hidle, hremaining⟩ := evict_of_free hfree p
  have hcounted := (h.asked (evict_asked d p)).counted
  have hanswer := openLayer_answer hcounted shape
  rw [evict_openingRefusal?, hrefused] at hanswer
  -- Of the two things that can come of it, the answer of the map leaves only the first.
  rcases openLayer_cases hcounted shape with ⟨e', q, next, heq, -, hnext, hmap⟩ | ⟨q, heq, -⟩
  · rw [heq] at hanswer
    obtain rfl := Except.error.inj hanswer
    rw [hremaining, remaining_nextLayer] at hnext
    rw [hremaining] at hmap
    rw [start_eq_error (by rw [hidle]) heq, hidle]
    exact ⟨q, next, rfl, hnext, hmap⟩
  · rw [heq] at hanswer
    cases hanswer

theorem start_of_granted (hfree : d.isBusy = false) (h : OnRecord p)
    (hgranted : p.openingRefusal? = none) :
    (d.start shape options p).1 = .ok d.requests.create.1 := by
  obtain ⟨hidle, -⟩ := evict_of_free hfree p
  have hanswer := openLayer_answer (h.asked (evict_asked d p)).counted shape
  rw [evict_openingRefusal?, hgranted] at hanswer
  generalize hopen : openLayer shape (d.evict p).2 = opened at hanswer
  obtain ⟨result, q⟩ := opened
  obtain rfl : result = _ := hanswer
  rw [start_eq_ok (by rw [hidle]) hopen, hidle]

theorem start_answer (h : OnRecord p) : (d.start shape options p).1 = d.startAnswer p := by
  unfold startAnswer
  cases hbusy : d.isBusy with
  | true => rw [start_of_busy hbusy, if_pos rfl]
  | false =>
      rw [if_neg Bool.false_ne_true]
      cases hrefused : p.openingRefusal? with
      | some e =>
          obtain ⟨q, next, heq, -⟩ := start_of_refused hbusy h hrefused
          rw [heq]
      | none => exact start_of_granted hbusy h hrefused

/-- Where no session waits, none is in the way. -/
theorem start_ne_busy (hidle : d.active = none) (p : Viewport) :
    (d.start shape options p).1 ≠ .error .sessionBusy := by
  unfold start
  rw [evict_eq_self (by simp [hidle])]
  simp only [hidle]
  generalize openLayer shape p = opened
  obtain ⟨_ | _, q⟩ := opened <;> simp

/-- **A start that fails cleanly.** Its answer says why it fails. While a session waits for somebody
nothing happens. Where the map refuses, no session waits any more, and nothing else has changed but
that a session that was given up is gone from the map and that numbers of layers may have been used
up; so the next start will not find a session that waits. -/
structure FailsCleanly (shape : ShapeKind) (options : DrawOptions) (d : DrawMode) (p : Viewport) :
    Prop where
  answer : (d.start shape options p).1 = d.startAnswer p
  busy : (d.start shape options p).1 = .error .sessionBusy → (d.start shape options p).2 = (d, p)
  session : ∀ e, (d.start shape options p).1 = .error (.viewport e) →
    (d.start shape options p).2.1 = { d with active := none }
  map : ∀ e, (d.start shape options p).1 = .error (.viewport e) → ∃ next, p.map.nextLayer ≤ next ∧
    (d.start shape options p).2.2.map = { remaining d.forsaken? p.map with nextLayer := next }
  again : ∀ e, (d.start shape options p).1 = .error (.viewport e) → ∀ shape' options' q,
    ((d.start shape options p).2.1.start shape' options' q).1 ≠ .error .sessionBusy

theorem failsCleanly (h : OnRecord p) (shape : ShapeKind) (options : DrawOptions) :
    FailsCleanly shape options d p where
  answer := start_answer h
  busy := by
    intro hfailed
    rw [start_answer h, startAnswer_eq_busy] at hfailed
    rw [start_of_busy hfailed]
  session := by
    intro e hfailed
    rw [start_answer h, startAnswer_eq_viewport] at hfailed
    obtain ⟨q, next, heq, -⟩ := start_of_refused hfailed.1 h hfailed.2
    rw [heq]
  map := by
    intro e hfailed
    rw [start_answer h, startAnswer_eq_viewport] at hfailed
    obtain ⟨q, next, heq, hnext, hmap⟩ := start_of_refused hfailed.1 h hfailed.2
    rw [heq]
    exact ⟨next, hnext, hmap⟩
  again := by
    intro e hfailed shape' options' q
    rw [start_answer h, startAnswer_eq_viewport] at hfailed
    obtain ⟨r, next, heq, -⟩ := start_of_refused hfailed.1 h hfailed.2
    rw [heq]
    exact start_ne_busy rfl q

/-- **Every start that fails fails cleanly,** whatever the draw mode and its map have been through,
whatever fault is armed, and whether or not the map is still there. -/
theorem start_failsCleanly (library : MapLibrary) (ops : List DrawOperation) (shape : ShapeKind)
    (options : DrawOptions) :
    FailsCleanly shape options (run library ops).1 (run library ops).2 :=
  failsCleanly (run_onRecord library ops) shape options

/-- The layer of one session retires, the next session was given up, and a fault waits for the
subscription of the one after that. -/
def givenUp : List DrawOperation :=
  [.start .point {},
    .annotationChanged ⟨1⟩ { kind := .point, coordinates := [⟨4.0, 9.0⟩] } {}
      { bits := fun _ => 0 },
    .start .line {}, .dropRequest ⟨1⟩, .arm .subscribe (.geometry "lost")]

theorem start_failsCleanly_of_givenUp :
    let (d, p) := run {} givenUp
    FailsCleanly .polygon {} d p ∧
      (d.start .polygon {} p).1 = .error (.viewport (.geometry "lost")) ∧
      p.map.handles = [⟨1⟩, ⟨2⟩] ∧
      (d.start .polygon {} p).2.2.map.handles = [⟨1⟩] ∧
      (d.start .polygon {} p).2.2.map.subscriptions = [(⟨1⟩, ⟨1⟩)] ∧
      (d.start .polygon {} p).2.1.retiring = [⟨⟨1⟩, ⟨1⟩⟩] :=
  ⟨start_failsCleanly {} givenUp .polygon {}, rfl, by decide, by decide, by decide, by decide⟩

end DrawMode

end ImageOverlay
