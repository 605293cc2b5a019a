import ImageOverlay.Proofs.Number.Packing
import ImageOverlay.Number.Exact

set_option autoImplicit false

/-!
# Numbers that may be infinite

The difference of two finite doubles may be infinite, and so may the length of a vector, but neither
is without a value (`exists_hasSign_sub`, `hasSign_hypotenuse`). A length is not negative, so it is
positive if it is not zero (`pos_of_hasSign`).
-/

namespace ImageOverlay

open Float.Model Float.Model.UnpackedFloat

variable {x y : Float} {s : Sign}

/-- A rounded number has the sign it was rounded with. -/
theorem hasSign_roundWithAccuracy (s : Sign) (M : ℕ) (E : ℤ) (acc : Accuracy) :
    Packed.HasSign s (roundWithAccuracy Format.binary64 s M E acc) := by
  unfold roundWithAccuracy
  simp only
  split <;> rfl

theorem exists_hasSign_normalize (k E : ℤ) :
    ∃ s, Packed.HasSign s (UnpackedFloat.normalize Format.binary64 k E .positive) := by
  unfold UnpackedFloat.normalize
  split
  · exact ⟨_, hasSign_roundWithAccuracy _ _ _ _⟩
  · exact ⟨.positive, rfl⟩
  · exact ⟨_, hasSign_roundWithAccuracy _ _ _ _⟩

/-- The difference of finite doubles may be infinite, but it is a number. -/
theorem exists_hasSign_sub (hx : x.isFinite = true) (hy : y.isFinite = true) :
    ∃ s, Packed.HasSign s (x - y).toModel.unpack := by
  have hsub : ∃ s, Packed.HasSign s
      (UnpackedFloat.sub Format.binary64 x.toModel.unpack y.toModel.unpack) := by
    change x.toModel.unpack.isFinite = true at hx
    change y.toModel.unpack.isFinite = true at hy
    generalize x.toModel.unpack = u at hx ⊢
    generalize y.toModel.unpack = v at hy ⊢
    cases u with
    | notANumber | infinity => cases hx
    | zero s =>
        cases v with
        | notANumber | infinity => cases hy
        | zero s' =>
            simp only [UnpackedFloat.sub]
            split <;> exact ⟨_, rfl⟩
        | finite => exact ⟨_, rfl⟩
    | finite =>
        cases v with
        | notANumber | infinity => cases hy
        | zero => exact ⟨_, rfl⟩
        | finite => exact exists_hasSign_normalize _ _
  obtain ⟨s, hs⟩ := hsub
  exact ⟨s, hs.unpack_pack⟩

/-- A number stands for itself, even if it is infinite. -/
theorem ofFloat_ne_nan (h : Packed.HasSign s x.toModel.unpack) : Exact.ofFloat x ≠ .nan := by
  unfold Exact.ofFloat
  cases hx : x.toModel.unpack with
  | notANumber =>
      rw [hx] at h
      exact h.elim
  | _ => exact nofun

/-- The length of a vector is a number, and not a negative one. -/
theorem hasSign_hypotenuse (hx : Exact.ofFloat x ≠ .nan) (hy : Exact.ofFloat y ≠ .nan) :
    Packed.HasSign .positive (hypotenuse x y).toModel.unpack := by
  have hinfinite : Packed.HasSign .positive (1.0 / 0.0 : Float).toModel.unpack := rfl
  unfold hypotenuse
  split
  · exact hinfinite
  · exact hinfinite
  · exact absurd ‹_› hx
  · exact absurd ‹_› hy
  · exact (hasSign_roundWithAccuracy .positive _ _ _).unpack_pack

/-- A number that is neither negative nor zero is positive. -/
theorem pos_of_hasSign (h : Packed.HasSign .positive x.toModel.unpack) (hx : (x == 0.0) = false) :
    0.0 < x := by
  have hzero : (0.0 : Float).toModel.unpack = .zero .positive := rfl
  change x.toModel.unpack.beq (0.0 : Float).toModel.unpack = false at hx
  show decide ((0.0 : Float).toModel < x.toModel) = true
  refine decide_eq_true ?_
  show UnpackedFloat.lt (0.0 : Float).toModel.unpack x.toModel.unpack = true
  rw [hzero] at hx ⊢
  cases hunpack : x.toModel.unpack with
  | notANumber =>
      rw [hunpack] at h
      exact h.elim
  | zero s' =>
      rw [hunpack] at hx
      cases hx
  | infinity s' | finite s' =>
      rw [hunpack] at h
      obtain rfl : s' = .positive := h
      rfl

end ImageOverlay
