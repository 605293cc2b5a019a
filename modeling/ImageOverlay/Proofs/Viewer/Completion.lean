import ImageOverlay.Proofs.Viewer.Answers

set_option autoImplicit false

/-!
# The end of a session by a drawing

A drawing that is done on the layer of the session that waits is all it takes: the answer is made
from the drawing alone, but for the identity of an element that has none yet (`Drawn.answer`), and
what the application is told is made from the answer and the options of the session
(`DrawResult.notice?`). What becomes of the viewer is `Viewer.handle_completed`.

The answer arrives, because until then the request of the session had none
(`Viewer.Attentive`).
-/

namespace ImageOverlay

/-- The answer to a drawing that is done. -/
def Drawn.answer (drawn : Drawn) (supply : Identity.Supply) : DrawResult :=
  match convert drawn with
  | .error e => .error (.conversion e)
  | .ok element => .ok { element := (element.identified supply).1, drawn }

/-- What the application is told of an answer, if the session wants that. -/
def DrawResult.notice? (options : DrawOptions) (r : DrawResult) : Option Notification :=
  match r with
  | .error _ => none
  | .ok outcome =>
    if options.trigger then some (.annotationCreated outcome.element outcome.drawn) else none

/-- Tell the application, if there is something to tell. -/
def Bus.tell (notice? : Option Notification) (b : Bus) : Bus :=
  match notice? with
  | none => b
  | some notice => b.publish notice

/-- The element of an outcome is the one the drawing stands for, under the identity of the drawing
or under a fresh one. -/
theorem Drawn.answer_eq_ok {drawn : Drawn} {supply : Identity.Supply} {outcome : DrawOutcome} :
    drawn.answer supply = .ok outcome
      ↔ ∃ element, convert drawn = .ok element ∧ outcome
        = { element := { element with id := some (drawn.id.getD supply.next.1) }, drawn } := by
  unfold answer
  cases hconvert : convert drawn with
  | error e => simp
  | ok element =>
      have hid : element.id = drawn.id := by
        unfold convert at hconvert
        split at hconvert
        · cases hshape : Convert.shape drawn.kind drawn.coordinates with
          | error e =>
              rw [hshape] at hconvert
              cases hconvert
          | ok shape =>
              rw [hshape] at hconvert
              cases hconvert
              rfl
        · cases hconvert
      have hidentified : (element.identified supply).1
          = { element with id := some (drawn.id.getD supply.next.1) } := by
        unfold Element.identified
        rw [← hid]
        obtain ⟨id, shape, style⟩ := element
        cases id <;> rfl
      simp [hidentified, eq_comm]

/-- Nothing comes of a drawing that stands for no element. -/
theorem Drawn.answer_eq_error {drawn : Drawn} {supply : Identity.Supply} {e : ConvertError}
    (h : convert drawn = .error e) : drawn.answer supply = .error (.conversion e) := by
  rw [answer, h]

/-- What the application is told of an answer to a drawing. -/
theorem DrawResult.notice?_answer {options : DrawOptions} {drawn : Drawn}
    {supply : Identity.Supply} {n : Notification} :
    notice? options (drawn.answer supply) = some n
      ↔ options.trigger = true ∧ ∃ element, convert drawn = .ok element ∧ n
        = .annotationCreated { element with id := some (drawn.id.getD supply.next.1) } drawn := by
  cases hconvert : convert drawn with
  | error e =>
      rw [Drawn.answer_eq_error hconvert]
      simp [notice?]
  | ok element =>
      have hanswer : drawn.answer supply = .ok
          { element := { element with id := some (drawn.id.getD supply.next.1) }, drawn } :=
        Drawn.answer_eq_ok.2 ⟨element, hconvert, rfl⟩
      rw [hanswer, notice?]
      cases options.trigger
      · simp
      · simp [eq_comm]

theorem Operation.verdict?_annotationChanged (changed layer : LayerHandle) (drawn : Drawn)
    (supply : Identity.Supply) :
    (Operation.handle (.annotationChanged changed drawn)).verdict? layer supply
      = if changed = layer ∧ drawn.state = .done then some (drawn.answer supply) else none := by
  simp only [verdict?, Drawn.answer]
  split
  · cases convert drawn <;> rfl
  · rfl

/-- For the session that waits a drawing is a verdict exactly if it completes the session. -/
theorem DrawMode.verdict?_eq_completed? {d : DrawMode} {s : DrawSession} (hs : d.active = some s)
    (layer : LayerHandle) (drawn : Drawn) (supply : Identity.Supply) :
    (Operation.handle (.annotationChanged layer drawn)).verdict? s.layer supply
      = (d.completed? layer drawn).map fun _ => drawn.answer supply := by
  rw [Operation.verdict?_annotationChanged]
  by_cases hcompleted : s.layer = layer ∧ drawn.state = .done
  · rw [completed?_eq_some.2 ⟨hs, hcompleted⟩, if_pos ⟨hcompleted.1.symm, hcompleted.2⟩]
    rfl
  · have hnone : d.completed? layer drawn = none := by
      rw [completed?_eq_none]
      intro t ht hlayer hdone
      obtain rfl := Option.some.inj (hs.symm.trans ht)
      exact hcompleted ⟨hlayer, hdone⟩
    rw [hnone, if_neg fun h => hcompleted ⟨h.1.symm, h.2⟩]
    rfl

/-- The session ends with the answer, and the application is told of it. -/
theorem DrawMode.annotationChanged_completed {d : DrawMode} {layer : LayerHandle} {drawn : Drawn}
    {s : DrawSession} (h : d.completed? layer drawn = some s) (bus : Bus)
    (supply : Identity.Supply) : ∃ supply',
    d.annotationChanged layer drawn bus supply
      = (true, d.conclude s (drawn.answer supply),
          bus.tell ((drawn.answer supply).notice? s.options), supply') := by
  unfold annotationChanged Drawn.answer
  simp only [h]
  cases convert drawn with
  | error e => exact ⟨supply, rfl⟩
  | ok element =>
      refine ⟨(element.identified supply).2, ?_⟩
      cases htrigger : s.options.trigger <;> simp [DrawResult.notice?, htrigger, Bus.tell]

namespace Viewer

variable {v v' : Viewer} {op : Operation} {supply : Identity.Supply} {next : Option LayerHandle}

/-- **A session that a drawing completes** is over with its answer, which the application is told,
and its layer retires. The map and the record of calls are left alone. -/
theorem handle_completed {s : DrawSession} (h : v.draw.active = some s) {drawn : Drawn}
    (hdone : drawn.state = .done) : ∃ supply',
    v.handle (.annotationChanged s.layer drawn)
      = (v.settings.draw.retireOn == .nextTurn,
          { v with
            draw := v.draw.conclude s (drawn.answer v.supply)
            bus := v.bus.tell ((drawn.answer v.supply).notice? s.options)
            supply := supply' }) := by
  obtain ⟨supply', heq⟩ := DrawMode.annotationChanged_completed
    (DrawMode.completed?_eq_some.2 ⟨h, rfl, hdone⟩) v.bus v.supply
  refine ⟨supply', ?_⟩
  simp only [handle, heq, Bool.true_and]

/-! ## The request of the session that waits -/

/-- The request of the session that waits was given out, and has no answer. -/
def Unanswered (d : DrawMode) : Prop :=
  ∀ s ∈ d.active, s.request.number < d.requests.next ∧
    ∀ r, d.requests.known? s.request ≠ some (some r)

/-- Whoever starts a session is given a new request, and only the end of the session answers it. -/
theorem Change.unanswered {d d' : DrawMode} (h : Change op supply next d d')
    (hbelow : d.requests.Below) (hd : Unanswered d) : Unanswered d' := by
  intro s hs
  cases h with
  | kept hop hactive hrequests =>
      rw [hactive] at hs
      rw [hrequests]
      exact hd s hs
  | evicted hop t ht hdropped hactive | ended t r ht hverdict hactive =>
      rw [hactive] at hs
      cases hs
  | started hop t hfree hactive hlayer hrequest hrequests =>
      obtain rfl := Option.some.inj (hactive.symm.trans hs)
      rw [hrequests, hrequest]
      refine ⟨Nat.lt_succ_self _, fun r => ?_⟩
      rw [Requests.known?_create hbelow, if_pos rfl]
      simp
  | polled request hop hactive hrequests =>
      rw [hactive] at hs
      obtain ⟨hissued, hnone⟩ := hd s hs
      rw [hrequests, Requests.next_poll]
      refine ⟨hissued, fun r => ?_⟩
      rw [Requests.known?_poll]
      split
      · simp
      · exact hnone r
  | dropped request hop hactive hrequests =>
      rw [hactive] at hs
      obtain ⟨hissued, hnone⟩ := hd s hs
      rw [hrequests, Requests.next_drop]
      refine ⟨hissued, fun r => ?_⟩
      rw [Requests.known?_drop]
      split
      · simp
      · exact hnone r

/-- A viewer whose session still waits for its answer, if there is one. -/
structure Attentive (v : Viewer) : Prop extends Regular v where
  unanswered : Unanswered v.draw

namespace Attentive

theorem fresh (settings : Settings) (supply : Identity.Supply) (drains : DrainOrders) (bus : Bus) :
    (Viewer.fresh settings supply drains bus).Attentive :=
  { Regular.fresh settings supply drains bus with unanswered := by rintro s ⟨⟩ }

theorem perform (h : v.Attentive) (op : Operation) : (v.perform op).Attentive :=
  { h.toRegular.perform op with
    unanswered := (perform_change h.inOrder op).unanswered h.below h.unanswered }

theorem run (h : v.Attentive) (ops : List Operation) : (v.run ops).Attentive :=
  run_invariant (P := Attentive) (fun _ op hw => hw.perform op) h ops

end Attentive

/-- Whoever still holds the request of a session finds the verdict there. -/
theorem poll_of_verdict {s : DrawSession} {r : DrawResult} (h : v.Attentive)
    (hs : v.draw.active = some s) (hverdict : op.verdict? s.layer v.supply = some r)
    (hheld : v.draw.requests.known? s.request ≠ none) :
    (v.perform op).draw.requests.known? s.request = some (some r) := by
  have hpending : v.draw.requests.known? s.request = some none := by
    cases hknown : v.draw.requests.known? s.request with
    | none => exact absurd hknown hheld
    | some a =>
        cases a with
        | none => rfl
        | some r => exact absurd hknown ((h.unanswered s hs).2 r)
  have hkept : op ≠ .dropRequest s.request := by
    rintro rfl
    cases hverdict
  have hstep := (perform_change h.inOrder op).awaits h.below ⟨hs, hpending⟩ hkept
  rw [hverdict] at hstep
  exact hstep.2

end Viewer

end ImageOverlay
