import ImageOverlay.Proofs.Number.Quotient

set_option autoImplicit false

/-!
# The order of doubles

Doubles that are numbers are ordered like the rationals that they are, with an infinity at each end
(`float_le_iff_extended`).
-/

namespace ImageOverlay

open Float.Model Float.Model.UnpackedFloat Rounding

variable {x y z : Float} {q : ℚ}

theorem exactly_positiveZero : Exactly 0.0 0 := exactly_zero .positive

theorem exactly_one : Exactly 1.0 1 := exactly_toFloat 1

theorem float_cases (x : Float) :
    x.isFinite = true ∨ x = 0.0 / 0.0 ∨ x = 1.0 / 0.0 ∨ x = -1.0 / 0.0 := by
  rcases Exact.ofFloat_cases x with
    ⟨-, h⟩ | ⟨negative, -, h⟩ | ⟨negative, h, -⟩ | ⟨negative, m, e, -, h, -⟩
  · exact .inr (.inl h)
  · cases negative with
    | false => exact .inr (.inr (.inl h))
    | true => exact .inr (.inr (.inr h))
  · exact .inl ((Exact.isFinite_iff x).2 ⟨_, _, _, h⟩)
  · exact .inl ((Exact.isFinite_iff x).2 ⟨_, _, _, h⟩)

/-- What a double is that is a number. -/
noncomputable def extended (x : Float) : WithBot (WithTop ℚ) :=
  match x.toModel.unpack with
  | .infinity .positive => ⊤
  | .infinity .negative => ⊥
  | _ => ((rational x : WithTop ℚ) : WithBot (WithTop ℚ))

theorem unpack_infinity : (1.0 / 0.0 : Float).toModel.unpack = .infinity .positive := by
  decide +kernel

theorem unpack_negInfinity : (-1.0 / 0.0 : Float).toModel.unpack = .infinity .negative := by
  decide +kernel

theorem extended_infinity : extended (1.0 / 0.0) = ⊤ := by
  unfold extended
  rw [unpack_infinity]

theorem extended_negInfinity : extended (-1.0 / 0.0) = ⊥ := by
  unfold extended
  rw [unpack_negInfinity]

theorem Exactly.extended (h : Exactly x q) : extended x = ((q : WithTop ℚ) : WithBot _) := by
  unfold ImageOverlay.extended
  rw [h.eq]
  rcases h.cases with ⟨s, hunpack, -⟩ | ⟨s, m, e, hc, hunpack, -⟩ <;> rw [hunpack]

theorem Exactly.lt_infinity (h : Exactly x q) : x < 1.0 / 0.0 := by
  rw [float_lt_iff, unpack_infinity]
  rcases h.cases with ⟨s, hunpack, -⟩ | ⟨s, m, e, hc, hunpack, -⟩ <;> rw [hunpack] <;> cases s <;> rfl

theorem Exactly.negInfinity_lt (h : Exactly x q) : -1.0 / 0.0 < x := by
  rw [float_lt_iff, unpack_negInfinity]
  rcases h.cases with ⟨s, hunpack, -⟩ | ⟨s, m, e, hc, hunpack, -⟩ <;> rw [hunpack] <;> cases s <;> rfl

/-- **Doubles that are numbers are in the order of the numbers they are.** -/
theorem float_le_iff_extended (hx : ¬ x.isNaN = true) (hy : ¬ y.isNaN = true) :
    x ≤ y ↔ extended x ≤ extended y := by
  have hcases : ∀ {u : Float}, ¬ u.isNaN = true →
      Exactly u (rational u) ∨ u = 1.0 / 0.0 ∨ u = -1.0 / 0.0 := by
    intro u hu
    rcases float_cases u with h | rfl | h
    · exact .inl ⟨h, rfl⟩
    · exact absurd (by decide +kernel) hu
    · exact .inr h
  -- A finite number or one of the two infinities, on either side.
  rcases hcases hx with hx | rfl | rfl <;> rcases hcases hy with hy | rfl | rfl
  · rw [hx.le_iff hy, hx.extended, hy.extended, WithBot.coe_le_coe, WithTop.coe_le_coe]
  · rw [extended_infinity]
    exact iff_of_true (float_le_of_lt hx.lt_infinity) le_top
  · rw [hx.extended, extended_negInfinity]
    refine iff_of_false (fun h => float_not_lt_of_le h hx.negInfinity_lt) ?_
    simp
  · rw [hy.extended, extended_infinity]
    refine iff_of_false (fun h => float_not_lt_of_le h hy.lt_infinity) ?_
    simp
  · exact iff_of_true (by decide +kernel) le_rfl
  · rw [extended_infinity, extended_negInfinity]
    exact iff_of_false (by decide +kernel) (by simp)
  · rw [extended_negInfinity]
    exact iff_of_true (float_le_of_lt hy.negInfinity_lt) bot_le
  · rw [extended_negInfinity]
    exact iff_of_true (by decide +kernel) bot_le
  · exact iff_of_true (by decide +kernel) le_rfl

theorem float_le_trans (hxy : x ≤ y) (hyz : y ≤ z) : x ≤ z := by
  obtain ⟨hx, hy⟩ := not_isNaN_of_le hxy
  obtain ⟨-, hz⟩ := not_isNaN_of_le hyz
  rw [float_le_iff_extended hx hy] at hxy
  rw [float_le_iff_extended hy hz] at hyz
  exact (float_le_iff_extended hx hz).2 (hxy.trans hyz)

end ImageOverlay
