import ImageOverlay.Proofs.Viewer.Sessions

set_option autoImplicit false

/-!
# Who a pending request belongs to

A request is pending as long as it is held and has no answer. There is never more than one: it is
the request of the session that waits (`Expected`). Whatever ends a session answers its request or
finds it dropped, and a new request is given out only where no session is in the way.
-/

namespace ImageOverlay

namespace Viewer

variable {v : Viewer} {op : Operation}

/-- A pending request is that of the session that waits. -/
def Expected (d : DrawMode) : Prop := ∀ request, d.requests.known? request = some none →
  ∃ s ∈ d.active, s.request = request

/-- Whatever happens, no session leaves a pending request behind. -/
theorem Change.expected {supply : Identity.Supply} {next : Option LayerHandle} {d d' : DrawMode}
    (h : Change op supply next d d') (hbelow : d.requests.Below) (hd : Expected d) :
    Expected d' := by
  intro request hpending
  cases h with
  | kept _ hactive hrequests =>
      rw [hrequests] at hpending
      rw [hactive]
      exact hd request hpending
  | evicted _ s hs hdropped _ hrequests =>
      rw [hrequests] at hpending
      obtain ⟨t, ht, rfl⟩ := hd request hpending
      obtain rfl := Option.some.inj (hs.symm.trans ht)
      rw [hdropped] at hpending
      cases hpending
  | started _ s hfree hactive _ hrequest hrequests =>
      rw [hrequests, Requests.known?_create hbelow] at hpending
      by_cases hnew : request = d.requests.create.1
      · exact ⟨s, hactive, hrequest.trans hnew.symm⟩
      · rw [if_neg hnew] at hpending
        obtain ⟨t, ht, rfl⟩ := hd request hpending
        rw [hfree t ht] at hpending
        cases hpending
  | ended s r hs _ _ hrequests =>
      rw [hrequests, Requests.known?_answer] at hpending
      by_cases hanswered : request = s.request
      · rw [if_pos hanswered] at hpending
        cases hknown : d.requests.known? request <;> simp [hknown] at hpending
      · rw [if_neg hanswered] at hpending
        obtain ⟨t, ht, rfl⟩ := hd request hpending
        obtain rfl := Option.some.inj (hs.symm.trans ht)
        exact absurd rfl hanswered
  | polled polled _ hactive hrequests =>
      rw [hrequests, Requests.known?_poll] at hpending
      rw [hactive]
      split at hpending
      · cases hpending
      · exact hd request hpending
  | dropped dropped _ hactive hrequests =>
      rw [hrequests, Requests.known?_drop] at hpending
      rw [hactive]
      split at hpending
      · cases hpending
      · exact hd request hpending

theorem expected_run (h : v.Regular) (hv : Expected v.draw) (ops : List Operation) :
    Expected (v.run ops).draw := by
  induction ops generalizing v with
  | nil => exact hv
  | cons op ops ih =>
      exact ih (h.perform op) ((perform_change h.inOrder op).expected h.below hv)

theorem expected_fresh (settings : Settings) (supply : Identity.Supply)
    (drains : DrainOrders) (bus : Bus) :
    Expected (Viewer.fresh settings supply drains bus).draw := by
  rintro request ⟨⟩

/-! ## Sessions do not come back -/

theorem next_le_run (h : v.Regular) (ops : List Operation) :
    v.draw.requests.next ≤ (v.run ops).draw.requests.next := by
  induction ops generalizing v with
  | nil => exact Nat.le_refl _
  | cons op ops ih => exact Nat.le_trans (next_le_perform h.inOrder op) (ih (h.perform op))

/-- A session whose request had been given out by then was waiting then, if it waits now. -/
theorem active_of_run (h : v.Regular) {ops : List Operation} {s : DrawSession}
    (hs : (v.run ops).draw.active = some s) (hissued : s.request.number < v.draw.requests.next) :
    v.draw.active = some s := by
  induction ops generalizing v with
  | nil => exact hs
  | cons op ops ih =>
      have hnext := Nat.lt_of_lt_of_le hissued (next_le_perform h.inOrder op)
      rcases request_of_active h.inOrder (ih (h.perform op) hs hnext) with hwaits | hlater
      · exact hwaits
      · exact absurd hissued (Nat.not_lt_of_le hlater)

end Viewer

end ImageOverlay
