import ImageOverlay.Proofs.Number.Literal
import ImageOverlay.Json.Decode

set_option autoImplicit false

/-!
# Only finite numbers are read

JSON has no way to write an infinite number or one that is none, and a number too large for a double
stays apart. So every double that can be taken from a text that was read is finite, whatever the
reading of numbers (`Parsed.Finite.of_read`).
-/

namespace ImageOverlay

namespace Parsed

variable {reading : NumberReading}

/-- Every number of a value is finite where a double is asked for. -/
inductive Finite : Parsed → Prop
  | null : Finite .null
  | bool (b : Bool) : Finite (.bool b)
  | text (s : Option String) : Finite (.text s)
  | number {n : JsonNumber} (h : ∀ x, Decode.float (.number n) = some x → x.isFinite = true) :
      Finite (.number n)
  | array {vs : List Parsed} (h : ∀ v ∈ vs, Finite v) : Finite (.array vs)
  | object {ms : List (Option String × Parsed)} (h : ∀ m ∈ ms, Finite m.2) : Finite (.object ms)

/-! ## Numbers -/

theorem finite_number (negative : Bool) (whole fraction : List Char) (e : ℤ) :
    Finite (.number (reading.number negative whole fraction e)) := by
  constructor
  intro x hx
  unfold NumberReading.number at hx
  simp only at hx
  split at hx
  · obtain rfl := Option.some.inj hx
    assumption
  · cases hx

theorem finite_int {n : ℤ} (hn : n.natAbs < 2 ^ 64) : Finite (.number (.int n)) := by
  constructor
  rintro x ⟨⟩
  refine Decimal.isFinite_value_whole ?_ _
  rcases Nat.eq_zero_or_pos n.natAbs with hzero | hpos
  · rw [hzero]
    decide
  · have := (Nat.log2_lt hpos.ne').2 hn
    omega

theorem finite_wholeOf (negative : Bool) (ds : List Char) :
    Finite (.number (wholeOf reading negative ds)) := by
  unfold wholeOf
  simp only
  split
  · split
    · exact finite_number _ _ _ _
    · rename_i h
      refine finite_int ?_
      simp only [Nat.pow_eq, not_or] at h
      omega
  · split
    · exact finite_int (by simpa using ‹_›)
    · exact finite_number _ _ _ _

theorem finite_numberRest? {cs rest : List Char} {n : JsonNumber}
    (h : numberRest? reading cs = some (n, rest)) : Finite (.number n) := by
  unfold numberRest? at h
  split at h
  all_goals
    split at h
    · cases h
    · split at h
      · split at h
        · cases h
        · obtain ⟨_, -, hread⟩ := Option.map_eq_some_iff.1 h
          obtain ⟨rfl, -⟩ := Prod.mk.inj hread
          exact finite_number _ _ _ _
      · obtain ⟨⟨e, _⟩, -, hread⟩ := Option.map_eq_some_iff.1 h
        cases e <;> obtain ⟨rfl, -⟩ := Prod.mk.inj hread
        · exact finite_wholeOf _ _
        · exact finite_number _ _ _ _

/-! ## Values -/

/-- What is made of the outcome of a reader, and what it was made of. -/
theorem of_map {α β : Type} {found : Option (α × List Char)} {f : α → β} {b : β}
    {rest : List Char} (h : (found.map fun (a, rest) => (f a, rest)) = some (b, rest)) :
    ∃ a, found = some (a, rest) ∧ f a = b := by
  obtain ⟨⟨a, _⟩, hfound, hread⟩ := Option.map_eq_some_iff.1 h
  obtain ⟨hb, rfl⟩ := Prod.mk.inj hread
  exact ⟨a, hfound, hb⟩

theorem of_map_word {word cs rest : List Char} {v p : Parsed}
    (h : ((Text.after? word cs).map fun rest => (v, rest)) = some (p, rest)) : v = p := by
  obtain ⟨_, -, hread⟩ := Option.map_eq_some_iff.1 h
  exact (Prod.mk.inj hread).1

/-- The three readers call each other, each with less fuel than it has. -/
theorem finite_value (fuel : ℕ) :
    (∀ {p cs rest}, value reading fuel cs = some (p, rest) → Finite p) ∧
    (∀ {vs cs rest}, items reading fuel cs = some (vs, rest) → ∀ v ∈ vs, Finite v) ∧
    (∀ {ms cs rest}, members reading fuel cs = some (ms, rest) → ∀ m ∈ ms, Finite m.2) := by
  induction fuel with
  | zero => exact ⟨nofun, nofun, nofun⟩
  | succ fuel ih =>
      obtain ⟨hvalue, hitems, hmembers⟩ := ih
      refine ⟨?_, ?_, ?_⟩
      · intro p cs rest h
        rw [value] at h
        split at h
        · obtain ⟨_, -, rfl⟩ := of_map h
          exact .text _
        · split at h
          · cases h
            exact .array nofun
          · obtain ⟨_, hread, rfl⟩ := of_map h
            exact .array (hitems hread)
        · split at h
          · cases h
            exact .object nofun
          · obtain ⟨_, hread, rfl⟩ := of_map h
            exact .object (hmembers hread)
        · obtain rfl := of_map_word h
          exact .null
        · obtain rfl := of_map_word h
          exact .bool true
        · obtain rfl := of_map_word h
          exact .bool false
        · obtain ⟨_, hread, rfl⟩ := of_map h
          exact finite_numberRest? hread
      · intro vs cs rest h
        rw [items] at h
        split at h
        · cases h
        · rename_i hread
          split at h
          · cases h
            simpa using hvalue hread
          · obtain ⟨_, hmore, rfl⟩ := of_map h
            exact List.forall_mem_cons.2 ⟨hvalue hread, hitems hmore⟩
          · cases h
      · intro ms cs rest h
        rw [members] at h
        split at h
        · split at h
          · cases h
          · split at h
            · split at h
              · cases h
              · rename_i hread
                split at h
                · cases h
                  simpa using hvalue hread
                · obtain ⟨_, hmore, rfl⟩ := of_map h
                  exact List.forall_mem_cons.2 ⟨hvalue hread, hmembers hmore⟩
                · cases h
            · cases h
        · cases h

/-- **Whatever is read holds finite numbers only.** -/
theorem Finite.of_read {cs : List Char} {p : Parsed} (h : Parsed.read cs reading = some p) :
    p.Finite := by
  unfold Parsed.read at h
  split at h
  · rename_i hvalue
    split at h
    · obtain rfl := Option.some.inj h
      exact (finite_value _).1 hvalue
    · cases h
  · cases h

end Parsed

end ImageOverlay
