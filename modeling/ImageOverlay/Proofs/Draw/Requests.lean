import ImageOverlay.Draw.Requests
import ImageOverlay.Proofs.Table

set_option autoImplicit false

/-!
# What is known of a request

For its holder a request is pending, or its answer is there, or there is nothing left to hold.
`Requests.known?` is that knowledge without the act of looking, and this module says what each
function does to what is known of every request. Only two of them are about a request that has its
answer already: it can be taken, or dropped with the request.
-/

namespace ImageOverlay.Requests

variable {rs : Requests}

/-- Nothing for a request that is not held, and otherwise its answer, if it is there. -/
def known? (id : RequestId) (rs : Requests) : Option (Option DrawResult) := rs.held.lookup id

/-- No request is held that was not given out yet. -/
def Below (rs : Requests) : Prop := ∀ id : RequestId, rs.next ≤ id.number → rs.known? id = none

theorem isHeld_eq_false {id : RequestId} : rs.isHeld id = false ↔ rs.known? id = none :=
  Option.isSome_eq_false_iff.trans Option.isNone_iff_eq_none

theorem poll_eq (id : RequestId) (rs : Requests) :
    (rs.poll id).1 = match rs.known? id with
      | none => .notHeld
      | some none => .pending
      | some (some r) => .ready r := by
  unfold poll known?
  cases rs.held.lookup id with
  | none => rfl
  | some a => cases a <;> rfl

theorem poll_of_pending {id : RequestId} (h : rs.known? id = some none) :
    rs.poll id = (.pending, rs) := by
  have hlookup : rs.held.lookup id = some none := h
  simp only [poll, hlookup]

theorem poll_of_answered {id : RequestId} {r : DrawResult} (h : rs.known? id = some (some r)) :
    rs.poll id = (.ready r, rs.drop id) := by
  have hlookup : rs.held.lookup id = some (some r) := h
  simp only [poll, hlookup]

theorem poll_of_none {id : RequestId} (h : rs.known? id = none) :
    rs.poll id = (.notHeld, rs) := by
  have hlookup : rs.held.lookup id = none := h
  simp only [poll, hlookup]

/-! ## The next number -/

@[simp] theorem next_create (rs : Requests) : rs.create.2.next = rs.next + 1 := rfl

@[simp] theorem next_answer (id : RequestId) (r : DrawResult) (rs : Requests) :
    (rs.answer id r).next = rs.next := rfl

@[simp] theorem next_drop (id : RequestId) (rs : Requests) : (rs.drop id).next = rs.next := rfl

@[simp] theorem next_poll (id : RequestId) (rs : Requests) : (rs.poll id).2.next = rs.next := by
  unfold poll
  cases rs.held.lookup id with
  | none => rfl
  | some a => cases a <;> rfl

/-! ## What is known afterwards -/

theorem known?_create (hbelow : rs.Below) (id : RequestId) :
    rs.create.2.known? id = if id = rs.create.1 then some none else rs.known? id :=
  Table.lookup_concat (hbelow rs.create.1 (Nat.le_refl _)) _ _

theorem known?_answer (answered : RequestId) (r : DrawResult) (rs : Requests) (id : RequestId) :
    (rs.answer answered r).known? id
      = if id = answered then (rs.known? id).map (fun a => some (a.getD r)) else rs.known? id :=
  Table.lookup_map_if answered (fun a => some (a.getD r)) rs.held id

theorem known?_drop (dropped : RequestId) (rs : Requests) (id : RequestId) :
    (rs.drop dropped).known? id = if id = dropped then none else rs.known? id :=
  Table.lookup_filter_ne dropped rs.held id

/-- To look at a request changes something only if it is this one and has its answer. -/
theorem known?_poll (polled : RequestId) (rs : Requests) (id : RequestId) :
    (rs.poll polled).2.known? id
      = if id = polled ∧ rs.known? id ≠ some none then none else rs.known? id := by
  cases hknown : rs.known? polled with
  | none =>
      have hpoll : (rs.poll polled).2 = rs := by
        have hlookup : rs.held.lookup polled = none := hknown
        simp only [poll, hlookup]
      rw [hpoll]
      by_cases hid : id = polled
      · rw [hid, hknown, ite_self]
      · rw [if_neg fun h => hid h.1]
  | some a =>
      have hlookup : rs.held.lookup polled = some a := hknown
      cases a with
      | none =>
          have hpoll : (rs.poll polled).2 = rs := by
            simp only [poll, hlookup]
          rw [hpoll, if_neg]
          rintro ⟨rfl, hne⟩
          exact hne hknown
      | some r =>
          have hpoll : (rs.poll polled).2 = rs.drop polled := by
            simp only [poll, hlookup]
          rw [hpoll, known?_drop]
          by_cases hid : id = polled
          · rw [if_pos hid, if_pos ⟨hid, by rw [hid, hknown]; simp⟩]
          · rw [if_neg hid, if_neg fun h => hid h.1]

/-! ## No request is held before its time -/

namespace Below

theorem empty : Below {} := fun _ _ => rfl

theorem create (h : rs.Below) : rs.create.2.Below := by
  intro id hid
  have hnew : id ≠ rs.create.1 := by
    rintro rfl
    exact Nat.not_succ_le_self _ hid
  rw [known?_create h, if_neg hnew]
  exact h id (Nat.le_of_succ_le hid)

theorem answer (h : rs.Below) (answered : RequestId) (r : DrawResult) :
    (rs.answer answered r).Below := by
  intro id hid
  rw [known?_answer, h id hid, Option.map_none, ite_self]

theorem drop (h : rs.Below) (dropped : RequestId) : (rs.drop dropped).Below := by
  intro id hid
  rw [known?_drop, h id hid, ite_self]

theorem poll (h : rs.Below) (polled : RequestId) : (rs.poll polled).2.Below := by
  intro id hid
  rw [next_poll] at hid
  rw [known?_poll, h id hid, ite_self]

end Below

end ImageOverlay.Requests
