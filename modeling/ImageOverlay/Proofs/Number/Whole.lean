import ImageOverlay.Proofs.Number.Exactness
import Mathlib.Data.Int.Log

set_option autoImplicit false

/-!
# Whole numbers and powers of two next to a double

What is read off the mantissa and the exponent of a double is what is true of the number it is: the
whole numbers below and above it (`Exactly.floor`, `Exactly.ceil`) and the exponents of the powers
of two next to it (`Exactly.floorLog2`, `Exactly.ceilLog2`). Doubles are in order if the numbers are
(`Exactly.le_iff`), so the greater and the lesser of two doubles are the greater and the lesser
number.
-/

namespace ImageOverlay

open Float.Model Float.Model.UnpackedFloat Rounding

variable {x y : Float} {a b q : ℚ} {m m' : ℕ} {e e' : ℤ}

/-! ## Whole numbers -/

theorem floorScaled_eq (negative : Bool) (m : ℕ) (e : ℤ) :
    floorScaled negative m e = ⌊((signOf negative).apply 1 : ℤ) * (m * 2 ^ e : ℚ)⌋ := by
  have hsigned : (if negative then -(m : ℤ) else m) = (signOf negative).apply (m : ℤ) := by
    cases negative <;> rfl
  unfold floorScaled
  simp only [hsigned, Int.pow_eq]
  rw [← mul_assoc, ← cast_apply]
  generalize (signOf negative).apply (m : ℤ) = k
  by_cases he : 0 ≤ e
  · have hwhole : (k * 2 ^ e : ℚ) = ((k * 2 ^ e.toNat : ℤ) : ℚ) := by
      push_cast
      rw [← zpow_natCast, Int.toNat_of_nonneg he]
    rw [if_pos he, hwhole, Int.floor_intCast]
  · have hfraction : (k * 2 ^ e : ℚ) = k / ((2 ^ (-e).toNat : ℕ) : ℚ) := by
      push_cast
      rw [← zpow_natCast, Int.toNat_of_nonneg (by omega), zpow_neg, div_inv_eq_mul]
    rw [if_neg he, hfraction, Rat.floor_intCast_div_natCast]
    push_cast
    rfl

/-- The whole number below a double. -/
theorem Exactly.floor (hx : Exactly x q) : (Exact.ofFloat x).floor = .int ⌊q⌋ := by
  obtain ⟨negative, m, e, hexact, rfl⟩ := hx.exact
  rw [hexact, Exact.floor, floorScaled_eq]

/-- The whole number above a double. -/
theorem Exactly.ceil (hx : Exactly x q) : (Exact.ofFloat x).ceil = .int ⌈q⌉ := by
  obtain ⟨negative, m, e, hexact, rfl⟩ := hx.exact
  have hflip : (signOf !negative).apply 1 = -(signOf negative).apply 1 := by
    cases negative <;> rfl
  rw [hexact, Exact.ceil, floorScaled_eq, hflip, Int.cast_neg, neg_mul, Int.floor_neg, neg_neg]

/-! ## Powers of two -/

/-- The exact number that a positive double stands for. -/
theorem Exactly.exact_of_pos (hx : Exactly x q) (hq : 0 < q) :
    ∃ m e, m ≠ 0 ∧ Exact.ofFloat x = .finite false m e ∧ q = m * 2 ^ e := by
  obtain ⟨negative, m, e, hexact, rfl⟩ := hx.exact
  have hsize : (0 : ℚ) ≤ m * 2 ^ e := mul_nonneg (Nat.cast_nonneg m) (two_zpow_pos e).le
  cases negative with
  | true =>
      have hsign : (signOf true).apply 1 = -1 := rfl
      rw [hsign, Int.cast_neg, Int.cast_one, neg_one_mul] at hq
      linarith
  | false =>
      have hsign : (signOf false).apply 1 = 1 := rfl
      rw [hsign, Int.cast_one, one_mul] at hq ⊢
      refine ⟨m, e, ?_, hexact, rfl⟩
      rintro rfl
      simp at hq

theorem two_zpow_log2_le (hm : m ≠ 0) (e : ℤ) : (2 : ℚ) ^ (m.log2 + e) ≤ m * 2 ^ e := by
  rw [zpow_add₀ two_ne_zero, zpow_natCast]
  gcongr
  exact two_pow_log2_le hm

theorem lt_two_zpow_log2 (m : ℕ) (e : ℤ) : (m * 2 ^ e : ℚ) < 2 ^ (m.log2 + e + 1) := by
  have hlt : (m : ℚ) < 2 ^ (m.log2 + 1) := by exact_mod_cast Nat.lt_log2_self
  rw [add_right_comm, zpow_add₀ two_ne_zero]
  have hpow : (2 : ℚ) ^ ((m.log2 : ℤ) + 1) = 2 ^ (m.log2 + 1) := by norm_cast
  rw [hpow]
  gcongr

theorem log_scaled (hm : m ≠ 0) (e : ℤ) : Int.log 2 (m * 2 ^ e : ℚ) = m.log2 + e := by
  have hpos : (0 : ℚ) < m * 2 ^ e :=
    mul_pos (by exact_mod_cast Nat.pos_of_ne_zero hm) (two_zpow_pos e)
  have hle := (Int.zpow_le_iff_le_log one_lt_two hpos).1 (by exact_mod_cast two_zpow_log2_le hm e)
  have hlt := (Int.lt_zpow_iff_log_lt one_lt_two hpos).1 (by exact_mod_cast lt_two_zpow_log2 m e)
  omega

theorem clog_scaled (hm : m ≠ 0) (e : ℤ) :
    Int.clog 2 (m * 2 ^ e : ℚ) = (if m = 2 ^ m.log2 then m.log2 else m.log2 + 1 : ℕ) + e := by
  have hpos : (0 : ℚ) < m * 2 ^ e :=
    mul_pos (by exact_mod_cast Nat.pos_of_ne_zero hm) (two_zpow_pos e)
  split
  · rename_i hpower
    have hvalue : (m * 2 ^ e : ℚ) = (2 : ℕ) ^ ((m.log2 : ℤ) + e) := by
      conv_lhs => rw [hpower]
      push_cast
      rw [zpow_add₀ two_ne_zero, zpow_natCast]
    rw [hvalue, Int.clog_zpow one_lt_two]
  · -- A mantissa that is no power of two lies strictly between two of them.
    rename_i hpower
    have hlog : (2 : ℚ) ^ m.log2 < m := by
      have hle := Nat.log2_self_le hm
      exact_mod_cast lt_of_le_of_ne hle (Ne.symm hpower)
    have hlow : ((2 : ℕ) : ℚ) ^ ((m.log2 : ℤ) + e) < m * 2 ^ e := by
      push_cast
      rw [zpow_add₀ two_ne_zero, zpow_natCast]
      gcongr
    have hlt := (Int.zpow_lt_iff_lt_clog one_lt_two hpos).1 hlow
    have hle := (Int.le_zpow_iff_clog_le one_lt_two hpos).1
      (by exact_mod_cast (lt_two_zpow_log2 m e).le)
    push_cast
    omega

/-- The power of two below a positive double. -/
theorem Exactly.floorLog2 (hx : Exactly x q) (hq : 0 < q) :
    (Exact.ofFloat x).floorLog2 = .int (Int.log 2 q) := by
  obtain ⟨m, e, hm, hexact, rfl⟩ := hx.exact_of_pos hq
  rw [hexact, Exact.floorLog2, if_neg hm, if_neg Bool.false_ne_true, log_scaled hm]

/-- The power of two above a positive double. -/
theorem Exactly.ceilLog2 (hx : Exactly x q) (hq : 0 < q) :
    (Exact.ofFloat x).ceilLog2 = .int (Int.clog 2 q) := by
  obtain ⟨m, e, hm, hexact, rfl⟩ := hx.exact_of_pos hq
  rw [hexact, Exact.ceilLog2, if_neg hm, if_neg Bool.false_ne_true, clog_scaled hm, Nat.pow_eq]

/-! ## Order -/

/-- A greater exponent makes a greater number, whatever the digits. -/
theorem Canonical.lt_of_exponent_lt (h : Canonical m e) (h' : Canonical m' e') (he : e < e') :
    (m * 2 ^ e : ℚ) < m' * 2 ^ e' := by
  have hmin := h.min
  have hm : (m : ℚ) < 2 ^ 53 := by exact_mod_cast h.lt
  have hm' : (2 : ℚ) ^ 52 ≤ m' := by exact_mod_cast h'.normal.resolve_right (by omega)
  have hstep : (2 : ℚ) ^ (e + 1) ≤ 2 ^ e' := zpow_le_zpow_right₀ one_le_two (by omega)
  rw [zpow_add_one₀ two_ne_zero] at hstep
  calc (m * 2 ^ e : ℚ) < 2 ^ 53 * 2 ^ e := by gcongr
    _ = 2 ^ 52 * (2 ^ e * 2) := by ring
    _ ≤ m' * 2 ^ e' := by gcongr

theorem Canonical.compare_eq (h : Canonical m e) (h' : Canonical m' e') :
    (compare e e').then (compare m m') = compare (m * 2 ^ e : ℚ) (m' * 2 ^ e') := by
  have hunit := two_zpow_pos e
  rcases lt_trichotomy e e' with he | rfl | he
  · rw [compare_lt_iff_lt.2 he, compare_lt_iff_lt.2 (h.lt_of_exponent_lt h' he)]
    rfl
  · rw [compare_eq_iff_eq.2 rfl, Ordering.eq_then]
    rcases lt_trichotomy m m' with hm | rfl | hm
    · have hlt : (m * 2 ^ e : ℚ) < m' * 2 ^ e := by gcongr
      rw [compare_lt_iff_lt.2 hm, compare_lt_iff_lt.2 hlt]
    · rw [compare_eq_iff_eq.2 rfl, compare_eq_iff_eq.2 rfl]
    · have hlt : (m' * 2 ^ e : ℚ) < m * 2 ^ e := by gcongr
      rw [compare_gt_iff_gt.2 hm, compare_gt_iff_gt.2 hlt]
  · rw [compare_gt_iff_gt.2 he, compare_gt_iff_gt.2 (h'.lt_of_exponent_lt h he)]
    rfl

theorem compare_neg (a b : ℚ) : compare (-a) (-b) = (compare a b).swap := by
  rcases lt_trichotomy a b with h | rfl | h
  · rw [compare_lt_iff_lt.2 h, compare_gt_iff_gt.2 (neg_lt_neg h)]
    rfl
  · rw [compare_eq_iff_eq.2 rfl, compare_eq_iff_eq.2 rfl]
    rfl
  · rw [compare_gt_iff_gt.2 h, compare_lt_iff_lt.2 (neg_lt_neg h)]
    rfl

/-- Doubles that are known exactly are in the order of the numbers they are. -/
theorem Exactly.compare_eq (hx : Exactly x a) (hy : Exactly y b) :
    UnpackedFloat.compare x.toModel.unpack y.toModel.unpack = some (compare a b) := by
  have hpositive : Sign.positive.apply 1 = 1 := rfl
  have hnegative : Sign.negative.apply 1 = -1 := rfl
  rcases hx.cases with ⟨s, hux, rfl⟩ | ⟨s, m, e, h, hux, rfl⟩ <;>
    rcases hy.cases with ⟨s', huy, rfl⟩ | ⟨s', m', e', h', huy, rfl⟩ <;> rw [hux, huy]
  · rw [compare_eq_iff_eq.2 rfl]
    rfl
  · have hsize := size_pos h'
    cases s' with
    | positive =>
        rw [hpositive, Int.cast_one, one_mul, compare_lt_iff_lt.2 hsize]
        rfl
    | negative =>
        rw [hnegative, Int.cast_neg, Int.cast_one, neg_one_mul,
          compare_gt_iff_gt.2 (neg_neg_of_pos hsize)]
        rfl
  · have hsize := size_pos h
    cases s with
    | positive =>
        rw [hpositive, Int.cast_one, one_mul, compare_gt_iff_gt.2 hsize]
        rfl
    | negative =>
        rw [hnegative, Int.cast_neg, Int.cast_one, neg_one_mul,
          compare_lt_iff_lt.2 (neg_neg_of_pos hsize)]
        rfl
  · have hsize := size_pos h
    have hsize' := size_pos h'
    cases s <;> cases s' <;>
      simp only [hpositive, hnegative, Int.cast_neg, Int.cast_one, neg_one_mul, one_mul,
        UnpackedFloat.compare, h.compare_eq h', compare_neg]
    · rw [compare_lt_iff_lt.2 (by linarith)]
    · rw [compare_gt_iff_gt.2 (by linarith)]

theorem Exactly.le_iff (hx : Exactly x a) (hy : Exactly y b) : x ≤ y ↔ a ≤ b := by
  rw [float_le_iff, hx.compare_eq hy, ← not_lt, ← compare_gt_iff_gt]
  cases compare a b <;> simp

theorem Exactly.lt_iff (hx : Exactly x a) (hy : Exactly y b) : x < y ↔ a < b := by
  rw [float_lt_iff, hx.compare_eq hy, Option.some.injEq, compare_lt_iff_lt]

/-- The greater of two doubles. -/
theorem Exactly.max (hx : Exactly x a) (hy : Exactly y b) : Exactly (max x y) (max a b) := by
  show Exactly (if x ≤ y then y else x) _
  rcases le_total a b with h | h
  · rwa [if_pos ((hx.le_iff hy).2 h), max_eq_right h]
  · rw [max_eq_left h]
    split
    · obtain rfl := le_antisymm h ((hx.le_iff hy).1 ‹_›)
      exact hy
    · exact hx

/-- The lesser of two doubles. -/
theorem Exactly.min (hx : Exactly x a) (hy : Exactly y b) : Exactly (min x y) (min a b) := by
  show Exactly (if x ≤ y then x else y) _
  rcases le_total a b with h | h
  · rwa [if_pos ((hx.le_iff hy).2 h), min_eq_left h]
  · rw [min_eq_right h]
    split
    · obtain rfl := le_antisymm h ((hx.le_iff hy).1 ‹_›)
      exact hx
    · exact hy

end ImageOverlay
