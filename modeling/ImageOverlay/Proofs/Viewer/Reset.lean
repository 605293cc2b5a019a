import ImageOverlay.Proofs.Viewer.Likeness
import ImageOverlay.Proofs.Viewer.Pending
import ImageOverlay.Proofs.Viewer.Retirement

set_option autoImplicit false

/-!
# The end of a map is a new beginning

A viewer that is destroyed keeps what was given to it from outside: its settings, the map library
with the faults that are still armed, the image, the slots of the application and the one who
listens to it. Nothing of the map, the sessions or the annotations is left. So whatever comes next,
it does what a viewer would do that has just been made in the same surroundings (`Viewer.twin`), and
what is left of its past is a history: calls on record, notifications, requests.

The two viewers are like each other in the sense of `Viewer.Like`, whose run lemma does the rest. A
viewer without a map is like its twin in any case; that nothing but a history is left then is what
it means for it to be in order (`Viewer.like_twin`).
-/

namespace ImageOverlay.Viewer

variable {v : Viewer}

/-- A viewer that has just been made, in the surroundings of another one. Where it takes the
identities of elements from, and in which order it deletes all layers, is its own business. -/
def twin (v : Viewer) (supply : Identity.Supply) (drains : DrainOrders) : Viewer :=
  { fresh v.settings supply drains { listening := v.bus.listening } with
    library := { faults := v.library.faults }
    attached := v.attached
    image := v.image
    slots := v.slots }

theorem regular_twin (v : Viewer) (supply : Identity.Supply) (drains : DrainOrders) :
    (v.twin supply drains).Regular where
  inOrder := (inOrder_iff_of_none rfl).2 ⟨rfl, rfl, rfl⟩
  below := Requests.Below.empty

/-- **Without a map, nothing but a history sets a viewer apart** from one that was just made. -/
theorem like_twin (h : v.Regular) (hmap : v.map = none) (supply : Identity.Supply)
    (drains : DrainOrders) :
    Like v.draw.requests.next v.bus.published (v.overlays.drains = drains) (v.twin supply drains)
      v := by
  obtain ⟨hactive, hretiring, hoverlays⟩ := (inOrder_iff_of_none hmap).1 h.inOrder
  have hrequests : Requests.Like v.draw.requests.next {} v.draw.requests := by
    refine ⟨rfl, fun request => ?_⟩
    -- The requests that were given out are all in the past, and none of the others is held.
    have hunknown := h.below (request.later v.draw.requests.next) (Nat.le_add_right _ _)
    unfold Requests.seen?
    rw [hunknown]
    rfl
  constructor
  · rfl
  · rfl
  · rfl
  · rfl
  · exact hmap
  · exact ⟨hoverlays, id⟩
  · exact ⟨hactive, hretiring, hrequests⟩
  · exact ⟨rfl, [], (List.append_nil _).symm, rfl⟩
  · rfl

theorem destroy_of_unrendered (hmap : v.map = none) : v.destroy = v := by
  simp only [destroy, hmap]

/-- The last call to a map is its end. -/
theorem destroy_log (h : v.InOrder) {m : MapState} (hmap : v.map = some m) :
    ∃ calls, v.destroy.library.log = v.library.log ++ calls ++ [.teardown] := by
  cases (destroy_step h).1 with
  | idle hnone | failed hnone | built hnone =>
      rw [hmap] at hnone
      cases hnone
  | used _ _ p hsome =>
      rw [destroy_map] at hsome
      cases hsome
  | tornDown map hsome _ p hcourse hlibrary =>
      obtain ⟨calls, hcalls⟩ := hcourse.log_grows
      refine ⟨calls, ?_⟩
      rw [hlibrary, hcalls]
      rfl

/-- **A viewer that `destroy` resets.** -/
structure Resets (v : Viewer) : Prop where
  /-- Whatever comes next is answered as a new viewer would answer it, and leads to the same calls
  and the same notifications. Where all layers are deleted at once the new viewer may do so in
  another order; if it does not, then there is no difference at all between the calls. -/
  resumes : ∀ supply drains ops,
    let twin := v.destroy.twin supply drains
    let earlier := v.destroy.draw.requests.next
    let ops' := ops.map (Operation.later earlier)
    (v.destroy.responses ops').map Response.anonymous
        = (twin.responses ops).map (fun r => (r.later earlier).anonymous) ∧
      List.Forall₂ Reordered (twin.calls ops) (v.destroy.calls ops') ∧
      (v.destroy.overlays.drains = drains → v.destroy.calls ops' = twin.calls ops) ∧
      (twin.run ops).library.log = (twin.calls ops).flatten ∧
      (v.destroy.run ops').library.log
        = v.destroy.library.log ++ (v.destroy.calls ops').flatten ∧
      (v.destroy.run ops').library.submitted
        = v.destroy.library.submitted ++ (twin.run ops).library.submitted ∧
      (∃ news, (v.destroy.run ops').bus.published = v.destroy.bus.published ++ news ∧
        news.map Notification.anonymous
          = (twin.run ops).bus.published.map Notification.anonymous) ∧
      Like earlier v.destroy.bus.published (v.destroy.overlays.drains = drains) (twin.run ops)
        (v.destroy.run ops')
  /-- Whoever waits for a session is told that it was cancelled. -/
  cancels : ∀ request, (v.poll request).1 = .pending →
    (v.destroy.poll request).1 = .ready (.error .cancelled)
  cancelsRegion : ∀ q, (v.pollRegion q).1 = .pending →
    (v.destroy.pollRegion q).1 = .ready (.error .cancelled)
  /-- The map is torn down, and no call to it follows. -/
  tornDown : ∀ m, v.map = some m →
    ∃ calls, v.destroy.library.log = v.library.log ++ calls ++ [.teardown]
  /-- A viewer that has no map any more has nothing to destroy. -/
  again : v.destroy.destroy = v.destroy

/-- A pending request is answered when the map goes. -/
theorem poll_destroy (h : v.Attentive) (hexpected : Expected v.draw) {request : RequestId}
    (hpending : (v.poll request).1 = .pending) :
    (v.destroy.poll request).1 = .ready (.error .cancelled) := by
  have hknown : v.draw.requests.known? request = some none := by
    have hpoll : (v.draw.requests.poll request).1 = .pending := hpending
    rw [Requests.poll_eq] at hpoll
    split at hpoll
    · cases hpoll
    · assumption
    · cases hpoll
  obtain ⟨s, hs, rfl⟩ := hexpected request hknown
  have hverdict : Operation.destroy.verdict? s.layer v.supply = some (.error .cancelled) := rfl
  have hanswered : v.destroy.draw.requests.known? s.request = some (some (.error .cancelled)) :=
    poll_of_verdict h hs hverdict (by rw [hknown]; simp)
  exact congrArg Prod.fst (Requests.poll_of_answered hanswered)

/-- **`destroy` resets a viewer,** whatever it has been through. -/
theorem destroy_resets (settings : Settings) (supply : Identity.Supply)
    (drains : DrainOrders) (bus : Bus)
    (ops : List Operation) : Resets ((fresh settings supply drains bus).run ops) := by
  have hattentive := (Attentive.fresh settings supply drains bus).run ops
  have hexpected := expected_run (.fresh settings supply drains bus)
    (expected_fresh settings supply drains bus) ops
  generalize (fresh settings supply drains bus).run ops = v at hattentive hexpected
  have hdestroyed : v.destroy.Regular := hattentive.toRegular.perform .destroy
  refine ⟨?_, ?_, ?_, ?_, ?_⟩
  · intro supply drains ops
    obtain ⟨hresponses, hcalls, hsame, hfresh, hlog, ⟨handed, htwin, hsubmitted⟩, hlike⟩ :=
      (like_twin hdestroyed (destroy_map v) supply drains).run
        (regular_twin v.destroy supply drains) hdestroyed ops
    obtain rfl : _ = handed := htwin
    exact ⟨hresponses, hcalls, hsame, hfresh, hlog, hsubmitted, hlike.bus.published, hlike⟩
  · exact fun request hpending => poll_destroy hattentive hexpected hpending
  · intro q hpending
    rw [pollRegion_fst] at hpending ⊢
    have hpoll : (v.poll q.request).1 = .pending := by
      cases hanswer : (v.poll q.request).1 with
      | pending => rfl
      | notHeld | ready r =>
          rw [hanswer] at hpending
          cases hpending
    rw [poll_destroy hattentive hexpected hpoll]
    rfl
  · exact fun m hmap => destroy_log hattentive.inOrder hmap
  · exact destroy_of_unrendered (destroy_map v)

end ImageOverlay.Viewer
