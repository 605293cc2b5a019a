import ImageOverlay.Number.Angle
import ImageOverlay.Proofs.Number.Range

set_option autoImplicit false

/-!
# Angles are finite

The series of the arctangent stays between zero and its first term, so every sum an angle is made of
is a few turns at most (`arctanOfFraction_le`), and the angle of a vector is finite even where the
vector is not (`isFinite_ofVector`).
-/

namespace ImageOverlay.Angle

open Float.Model Float.Model.UnpackedFloat
open Rounding

variable {num den p n d : ℕ} {x y : Float}

/-- An alternating series of falling terms stays between zero and its first term. -/
theorem oddSeries_bounds (h : num ≤ den) (fuel term odd : ℕ) (hodd : 0 < odd) :
    0 ≤ oddSeries num den fuel term odd ∧ oddSeries num den fuel term odd ≤ (term / odd : ℕ) := by
  induction fuel generalizing term odd with
  | zero => exact ⟨le_rfl, Int.natCast_nonneg _⟩
  | succ fuel ih =>
      unfold oddSeries
      split
      · exact ⟨le_rfl, Int.natCast_nonneg _⟩
      · obtain ⟨hlow, hhigh⟩ := ih (term * num / den) (odd + 2) (by omega)
        have hfalls : term * num / den / (odd + 2) ≤ term / odd := by
          have hterm : term * num / den ≤ term :=
            Nat.div_le_of_le_mul (by rw [mul_comm den]; exact Nat.mul_le_mul_left term h)
          exact Nat.div_le_div hterm (by omega) hodd.ne'
        have : ((term * num / den / (odd + 2) : ℕ) : ℤ) ≤ (term / odd : ℕ) := by
          exact_mod_cast hfalls
        constructor <;> omega

/-- The arctangent of a fraction is at most one. -/
theorem arctanScaled_bounds (h : n ≤ d) (p : ℕ) :
    0 ≤ arctanScaled p n d ∧ arctanScaled p n d ≤ (2 ^ p : ℕ) := by
  unfold arctanScaled
  obtain ⟨hlow, hhigh⟩ := oddSeries_bounds (Nat.mul_le_mul h h) (p + 1) (n * Nat.pow 2 p / d) 1
    one_pos
  refine ⟨hlow, hhigh.trans ?_⟩
  rw [Nat.div_one, Nat.pow_eq]
  exact_mod_cast Nat.div_le_of_le_mul (Nat.mul_le_mul_right _ h)

theorem piScaled_le (p : ℕ) : piScaled p ≤ 2 ^ (p + 4) := by
  unfold piScaled
  obtain ⟨-, hhigh⟩ := arctanScaled_bounds (show 1 ≤ 5 by decide) (p + 32)
  obtain ⟨hlow, -⟩ := arctanScaled_bounds (show 1 ≤ 239 by decide) (p + 32)
  have hsum : (16 * arctanScaled (p + 32) 1 5 - 4 * arctanScaled (p + 32) 1 239).toNat
      ≤ 2 ^ 32 * 2 ^ (p + 4) := by
    have hpow : 2 ^ 32 * 2 ^ (p + 4) = 16 * 2 ^ (p + 32) := by
      rw [pow_add, pow_add]
      ring
    rw [hpow]
    omega
  rw [Nat.shiftRight_eq_div_pow]
  exact Nat.div_le_of_le_mul hsum

/-- No sum is greater than `2^5` radians. -/
theorem arctanOfFraction_le (p n d : ℕ) : arctanOfFraction p n d ≤ 2 ^ (p + 5) := by
  have hpi := piScaled_le p
  have hpow : 2 ^ (p + 5) = 32 * 2 ^ p := by
    rw [pow_add]
    ring
  have hpow' : 2 ^ (p + 4) = 16 * 2 ^ p := by
    rw [pow_add]
    ring
  unfold arctanOfFraction
  split
  · split
    · have := arctanScaled_bounds (show n - d ≤ n + d by omega) p
      omega
    · have := arctanScaled_bounds (show d ≤ n by omega) p
      omega
  · split
    · have := arctanScaled_bounds (show d - n ≤ n + d by omega) p
      omega
    · have := arctanScaled_bounds (show n ≤ d by omega) p
      omega

/-- What is at most a few turns is rounded to a finite double. -/
theorem isFinite_rounded {sum : ℕ} (h : sum ≤ 2 ^ (p + 5)) (negative : Bool) :
    (rounded negative p sum).isFinite = true := by
  obtain ⟨v, u, hu, hrounds, hv⟩ := rounds_toNearest (m := max 1 (sum - slack)) (by omega) negative
    (-(p : ℤ)) true
  unfold rounded
  rw [hu]
  have hsum : max 1 (sum - slack) + 1 ≤ 2 ^ (p + 6) := by
    have : 2 ^ (p + 6) = 2 * 2 ^ (p + 5) := by
      rw [pow_succ]
      ring
    have := Nat.two_pow_pos (p + 5)
    omega
  have hscaled : ((2 : ℚ) ^ (p + 6)) * 2 ^ (-(p : ℤ)) = 2 ^ 6 := by
    rw [pow_add, zpow_neg, zpow_natCast, mul_comm ((2 : ℚ) ^ p), mul_assoc,
      mul_inv_cancel₀ (by positivity), mul_one]
  have hlt : v < ((2 ^ 52 : ℕ) + 1 / 2) * 2 ^ (0 : ℤ) := by
    calc v < ((max 1 (sum - slack) : ℕ) + 1) * 2 ^ (-(p : ℤ)) := hv
      _ ≤ 2 ^ (p + 6) * 2 ^ (-(p : ℤ)) := by
          gcongr
          exact_mod_cast hsum
      _ = 2 ^ 6 := hscaled
      _ ≤ ((2 ^ 52 : ℕ) + 1 / 2) * 2 ^ (0 : ℤ) := by norm_num
  exact (hrounds.within le_rfl (by decide) (by decide) (by decide) hlt).isFinite

theorem isFinite_eighths {k : ℕ} (hk : k ≤ 4) (negative : Bool) :
    (eighths negative k).isFinite = true := by
  unfold eighths
  generalize 256 = p
  refine isFinite_rounded ?_ negative
  have hpi := piScaled_le p
  have : k * piScaled p ≤ 4 * piScaled p := Nat.mul_le_mul_right _ hk
  have hpow : 2 ^ (p + 4) ≤ 2 ^ (p + 5) := Nat.pow_le_pow_right (by decide) (by omega)
  omega

/-- **The angle of a vector is finite,** be the vector finite or not. -/
theorem isFinite_ofVector (hy : Exact.ofFloat y ≠ .nan) (hx : Exact.ofFloat x ≠ .nan) :
    (ofVector y x).isFinite = true := by
  have hzero : ∀ below : Bool, (if below then -0.0 else 0.0 : Float).isFinite = true := by
    intro below
    cases below <;> rfl
  unfold ofVector
  simp only
  split
  · exact absurd ‹_› hy
  · exact absurd ‹_› hx
  · exact isFinite_eighths (by split <;> decide) _
  · exact isFinite_eighths (by decide) _
  · split
    · exact isFinite_eighths (by decide) _
    · exact hzero _
  · split
    · split
      · exact isFinite_eighths (by decide) _
      · exact hzero _
    · split
      · exact isFinite_eighths (by decide) _
      · refine isFinite_rounded ?_ _
        generalize precision _ = q
        have hangle := arctanOfFraction_le q
        have hpi := piScaled_le q
        have hpow : 2 ^ (q + 4) ≤ 2 ^ (q + 5) := Nat.pow_le_pow_right (by decide) (by omega)
        split
        · omega
        · exact hangle _ _

end ImageOverlay.Angle
