import ImageOverlay.Proofs.Number.Rounding
import ImageOverlay.Number.Decimal

set_option autoImplicit false

/-!
# Reading a decimal literal

A literal `M · 10^E` is read as the double it rounds to (`Decimal.magnitude_eq`). There are three
ways there. Short literals are a product or a quotient of two doubles that are exact, by a table of
powers of ten; others are the product or the quotient of whole numbers of any size, rounded once;
and the powers that are cut off before they are formed belong to no number that rounds to a
double.
-/

namespace ImageOverlay

open Float.Model Float.Model.UnpackedFloat

/-! ## Products and quotients -/

namespace Rounding

variable {m m₁ m₂ : ℕ} {e e₁ e₂ : ℤ} {v : ℚ}

/-- What the rest of a division says of the quotient. -/
theorem describes_fraction {a b : ℕ} (hb : 0 < b) :
    Describes (.ofMantissaAndAccuracy (a / b) (accuracyOfFraction (a % b) b)) (a / b) := by
  have hb' : (0 : ℚ) < b := by exact_mod_cast hb
  have hsplit : (a : ℚ) / b = (a / b : ℕ) + (a % b : ℕ) / b := by
    have hsum : (a : ℚ) = b * (a / b : ℕ) + (a % b : ℕ) := by
      exact_mod_cast (Nat.div_add_mod a b).symm
    rw [div_eq_iff hb'.ne', add_mul, div_mul_cancel₀ _ hb'.ne', mul_comm, ← hsum]
  have hlt : ((a % b : ℕ) : ℚ) / b < 1 := by
    rw [div_lt_one hb']
    exact_mod_cast Nat.mod_lt a hb
  rw [hsplit]
  generalize a % b = r at hlt ⊢
  unfold accuracyOfFraction
  by_cases hzero : r = 0
  · simp [hzero, Describes, ExtendedMantissa.ofMantissaAndAccuracy]
  · have hr : (0 : ℚ) < r / b := by
      have : (0 : ℚ) < r := by exact_mod_cast Nat.pos_of_ne_zero hzero
      positivity
    rw [if_neg hzero]
    -- The rest is compared with half of the divisor, and the two bits keep the outcome.
    rcases Nat.lt_trichotomy (2 * r) b with hhalf | hhalf | hhalf
    · have hbelow : (r : ℚ) / b < 1 / 2 := by
        rw [div_lt_iff₀ hb']
        have : (2 : ℚ) * r < b := by exact_mod_cast hhalf
        linarith
      rw [compare_lt_iff_lt.2 hhalf]
      simp only [Describes, ExtendedMantissa.ofMantissaAndAccuracy, reduceIte,
        Bool.false_eq_true]
      constructor <;> linarith
    · have hequal : (r : ℚ) / b = 1 / 2 := by
        rw [div_eq_iff hb'.ne']
        have : (2 : ℚ) * r = b := by exact_mod_cast hhalf
        linarith
      rw [compare_eq_iff_eq.2 hhalf]
      simp only [Describes, ExtendedMantissa.ofMantissaAndAccuracy, reduceIte,
        Bool.false_eq_true]
      linarith
    · have habove : (1 : ℚ) / 2 < r / b := by
        rw [lt_div_iff₀ hb']
        have : (b : ℚ) < 2 * r := by exact_mod_cast hhalf
        linarith
      rw [compare_gt_iff_gt.2 hhalf]
      simp only [Describes, ExtendedMantissa.ofMantissaAndAccuracy, reduceIte]
      constructor <;> linarith

/-- A product is rounded once. -/
theorem rounds_mul (hm₁ : 0 < m₁) (hm₂ : 0 < m₂)
    (hdigits : 2 ^ 52 ≤ m₁ * m₂ ∨ e₁ + e₂ ≤ -1074) (s₁ s₂ : Sign) :
    Rounds (s₁ * s₂) ((m₁ * 2 ^ e₁) * (m₂ * 2 ^ e₂))
      (UnpackedFloat.mul Format.binary64 (.finite s₁ m₁ e₁ hm₁) (.finite s₂ m₂ e₂ hm₂)) := by
  refine ⟨_, _, _, rfl, ?_, ?_⟩
  · have hvalue : (m₁ * 2 ^ e₁ : ℚ) * (m₂ * 2 ^ e₂) / 2 ^ (e₁ + e₂) = (m₁ * m₂ : ℕ) := by
      rw [zpow_add₀ two_ne_zero]
      push_cast
      field_simp
    rw [hvalue]
    exact describes_exact _
  · rw [targetExponent_eq, totalExponent]
    rcases hdigits with hbig | hsmall
    · have hlog : 52 ≤ (m₁ * m₂).log2 := (Nat.le_log2 (by omega)).2 hbig
      omega
    · omega

theorem mul_eq (hc : Canonical m e) (hm₁ : 0 < m₁) (hm₂ : 0 < m₂) (hbig : 2 ^ 52 ≤ m₁ * m₂)
    (hv : RoundsTo ((m₁ * 2 ^ e₁) * (m₂ * 2 ^ e₂)) m e) (s₁ s₂ : Sign) :
    UnpackedFloat.mul Format.binary64 (.finite s₁ m₁ e₁ hm₁) (.finite s₂ m₂ e₂ hm₂)
      = .finite (s₁ * s₂) m e hc.pos :=
  (rounds_mul hm₁ hm₂ (.inl hbig) s₁ s₂).eq hc hv

/-- A quotient is rounded once. -/
theorem rounds_div (hm₁ : 0 < m₁) (hm₂ : 0 < m₂) (e₁ e₂ : ℤ) (s₁ s₂ : Sign) :
    Rounds (s₁ / s₂) ((m₁ * 2 ^ e₁) / (m₂ * 2 ^ e₂))
      (UnpackedFloat.div Format.binary64 (.finite s₁ m₁ e₁ hm₁) (.finite s₂ m₂ e₂ hm₂)) := by
  unfold UnpackedFloat.div divCore
  simp only
  generalize htarget : min (e₁ - e₂)
    (Format.binary64.targetExponent (totalExponent m₁ e₁ - totalExponent m₂ e₂)) = t
  have ht : t ≤ e₁ - e₂ := by omega
  have hdescribes : Describes
      (.ofMantissaAndAccuracy (m₁ <<< (e₁ - e₂ - t).toNat / m₂)
        (accuracyOfFraction (m₁ <<< (e₁ - e₂ - t).toNat % m₂) m₂))
      (m₁ * 2 ^ e₁ / (m₂ * 2 ^ e₂) / 2 ^ t) := by
    have hvalue : (m₁ * 2 ^ e₁ / (m₂ * 2 ^ e₂) / 2 ^ t : ℚ)
        = (m₁ <<< (e₁ - e₂ - t).toNat : ℕ) / m₂ := by
      have hpow : (2 : ℚ) ^ (e₁ - e₂ - t).toNat = 2 ^ e₁ / 2 ^ e₂ / 2 ^ t := by
        rw [← zpow_natCast, Int.toNat_of_nonneg (by omega), zpow_sub₀ two_ne_zero,
          zpow_sub₀ two_ne_zero]
      rw [Nat.shiftLeft_eq]
      push_cast
      rw [hpow]
      field_simp
    rw [hvalue]
    exact describes_fraction hm₂
  refine ⟨_, _, _, rfl, hdescribes, ?_⟩
  -- The length of the quotient is known but for one bit, so there are enough digits to round.
  have hquotient : (2 : ℚ) ^ (totalExponent m₁ e₁ - 1 - totalExponent m₂ e₂)
      ≤ m₁ * 2 ^ e₁ / (m₂ * 2 ^ e₂) := by
    have h₁ : (2 : ℚ) ^ (totalExponent m₁ e₁ - 1) ≤ m₁ * 2 ^ e₁ := by
      refine @two_zpow_totalExponent_le m₁ e₁ _ .exact hm₁.ne' ?_
      rw [mul_div_cancel_right₀ _ (two_zpow_pos e₁).ne']
      exact describes_exact m₁
    have h₂ : (m₂ * 2 ^ e₂ : ℚ) < 2 ^ totalExponent m₂ e₂ := by
      refine @lt_two_zpow_totalExponent m₂ e₂ _ .exact ?_
      rw [mul_div_cancel_right₀ _ (two_zpow_pos e₂).ne']
      exact describes_exact m₂
    rw [zpow_sub₀ two_ne_zero]
    have hpos : (0 : ℚ) < m₂ * 2 ^ e₂ := by positivity
    exact div_le_div₀ (by positivity) h₁ hpos h₂.le
  have htotal := exponent_lt hquotient (lt_two_zpow_totalExponent hdescribes)
  rw [targetExponent_eq] at htarget ⊢
  omega

theorem div_eq (hc : Canonical m e) (hm₁ : 0 < m₁) (hm₂ : 0 < m₂)
    (hv : RoundsTo ((m₁ * 2 ^ e₁) / (m₂ * 2 ^ e₂)) m e) (s₁ s₂ : Sign) :
    UnpackedFloat.div Format.binary64 (.finite s₁ m₁ e₁ hm₁) (.finite s₂ m₂ e₂ hm₂)
      = .finite (s₁ / s₂) m e hc.pos :=
  (rounds_div hm₁ hm₂ e₁ e₂ s₁ s₂).eq hc hv

end Rounding

namespace Decimal

open Rounding

/-! ## Short literals -/

variable {m M : ℕ} {e E : ℤ} {v : ℚ}

theorem powerOfTen_digits (k : Fin 23) :
    Exact.ofFloat Float.exactlyRepresentablePowersOfTen[k]
      = .finite false (5 ^ k.val * 2 ^ (52 - (5 ^ k.val).log2)) ((5 ^ k.val).log2 - 52 + k) := by
  revert k
  decide +kernel

/-- The powers of ten in the table are exact. -/
theorem powerOfTen_eq {k : ℕ} (hk : k < Float.exactlyRepresentablePowersOfTen.size) :
    ∃ m e, ∃ hc : Canonical m e,
      Float.exactlyRepresentablePowersOfTen[k] = hc.double false ∧
        (m * 2 ^ e : ℚ) = 10 ^ k := by
  have hk' : k < 23 := hk
  have hpos : 5 ^ k * 2 ^ (52 - (5 ^ k).log2) ≠ 0 := by positivity
  obtain ⟨hc, hx⟩ := Exact.eq_double (powerOfTen_digits ⟨k, hk⟩) hpos
  have hlog : (5 ^ k).log2 < 53 := by
    have hfive : 5 ^ k ≤ 5 ^ 22 := Nat.pow_le_pow_right (by decide) (by omega)
    rw [Nat.log2_lt (by positivity)]
    omega
  refine ⟨_, _, hc, hx, ?_⟩
  rw [zpow_add₀ two_ne_zero, ← mul_assoc, shifted_value hlog, zpow_natCast]
  push_cast
  rw [← mul_pow]
  norm_num

theorem toFloat_eq {n : ℕ} (hpos : 0 < n) (hlt : n < 2 ^ 53) :
    n.toUInt64.toFloat = (canonical_of_lt hpos hlt).double false := by
  have hnat : n.toUInt64.toNat = n := by
    rw [UInt64.toNat_ofNat']
    omega
  show Float.ofModel (.pack (UnpackedFloat.ofNat Format.binary64 n.toUInt64.toNat)) = _
  rw [hnat, ofNat_eq hpos hlt]
  rfl

theorem ofScientific_fast (hM : 0 < M) (hM' : M < 2 ^ 53) (hE : E.natAbs ≤ 22)
    (hc : Canonical m e) (hv : RoundsTo (M * 10 ^ E) m e) :
    Float.ofScientific M (E < 0) E.natAbs = hc.double false := by
  have hsize : E.natAbs < Float.exactlyRepresentablePowersOfTen.size := Nat.lt_succ_of_le hE
  obtain ⟨m₂, e₂, hc₂, htable, hten⟩ := powerOfTen_eq hsize
  have hc₁ := canonical_of_lt hM hM'
  have hlog : M.log2 < 53 := (Nat.log2_lt hM.ne').2 hM'
  have hdigits := shifted_value hlog
  unfold Float.ofScientific
  rw [dif_pos ⟨hM', hE⟩, toFloat_eq hM hM']
  simp only
  rw [htable]
  by_cases hneg : E < 0
  · have hpow : (10 : ℚ) ^ E = (10 ^ E.natAbs)⁻¹ := by
      rw [← zpow_natCast, ← zpow_neg]
      congr 1
      omega
    rw [hpow, ← hten, ← hdigits, ← div_eq_mul_inv] at hv
    simp only [hneg, decide_true, if_true]
    show Float.ofModel (.pack (UnpackedFloat.div Format.binary64 (Float.Model.unpack (.pack _))
      (Float.Model.unpack (.pack _)))) = _
    rw [Packed.unpack_pack hc₁, Packed.unpack_pack hc₂, div_eq hc hc₁.pos hc₂.pos hv]
    rfl
  · have hpow : (10 : ℚ) ^ E = 10 ^ E.natAbs := by
      rw [← zpow_natCast]
      congr 1
      omega
    rw [hpow, ← hten, ← hdigits] at hv
    simp only [hneg, decide_false, Bool.false_eq_true, if_false]
    show Float.ofModel (.pack (UnpackedFloat.mul Format.binary64 (Float.Model.unpack (.pack _))
      (Float.Model.unpack (.pack _)))) = _
    have hbig : 2 ^ 52 ≤ M * 2 ^ (52 - M.log2) * m₂ := by
      have := Nat.le_mul_of_pos_right (M * 2 ^ (52 - M.log2)) hc₂.pos
      have := hc₁.normal.resolve_right (by omega)
      omega
    rw [Packed.unpack_pack hc₁, Packed.unpack_pack hc₂, mul_eq hc hc₁.pos hc₂.pos hbig hv]
    rfl

/-! ## Long literals -/

/-- A number that rounds to a double is neither too small nor too great for one. -/
theorem two_zpow_le_of_roundsTo (hc : Canonical m e) (hv : RoundsTo v m e) :
    2 ^ (-1075 : ℤ) ≤ v := by
  have hm : (1 : ℚ) ≤ m := by exact_mod_cast hc.pos
  have hlow := hv.sub_le
  have hgap := gapBelow_le m e
  have hhalf : (1 : ℚ) / 2 ≤ v / 2 ^ e := by linarith
  rw [le_div_iff₀ (two_zpow_pos e)] at hhalf
  have hexponent : (2 : ℚ) ^ (-1075 : ℤ) ≤ 2 ^ (e - 1) :=
    zpow_le_zpow_right₀ one_le_two (by have := hc.min; omega)
  rw [zpow_sub_one₀ two_ne_zero] at hexponent
  linarith

theorem lt_two_zpow_of_roundsTo (hc : Canonical m e) (hv : RoundsTo v m e) :
    v < 2 ^ (1024 : ℤ) := by
  have hlog : m.log2 < 53 := (Nat.log2_lt hc.pos.ne').2 hc.lt
  have hmax := hc.max
  exact hv.lt_two_zpow.trans_le (zpow_le_zpow_right₀ one_le_two (by omega))

theorem two_zpow_le_ten_zpow {k : ℤ} (hk : 0 ≤ k) : (2 : ℚ) ^ k ≤ 10 ^ k :=
  zpow_le_zpow_left₀ hk (by norm_num) (by norm_num)

theorem ten_zpow_le_two_zpow {k : ℤ} (hk : k ≤ 0) : (10 : ℚ) ^ k ≤ 2 ^ k := by
  have h := two_zpow_le_ten_zpow (show 0 ≤ -k by omega)
  rw [zpow_neg, zpow_neg] at h
  exact (inv_le_inv₀ (by positivity) (by positivity)).1 h

theorem ofScientific_slow (hM : 0 < M) (h : ¬ (M < 2 ^ 53 ∧ E.natAbs ≤ 22))
    (hc : Canonical m e) (hv : RoundsTo (M * 10 ^ E) m e) :
    Float.ofScientific M (E < 0) E.natAbs = hc.double false := by
  have hM' : (1 : ℚ) ≤ M := by exact_mod_cast hM
  have hlog := lt_two_pow_log2 M
  have hbig : ¬ E > 2 ^ 11 := by
    intro hE
    have hle : (2 : ℚ) ^ E ≤ M * 10 ^ E :=
      (two_zpow_le_ten_zpow (by omega)).trans (le_mul_of_one_le_left (by positivity) hM')
    have := exponent_lt hle (lt_two_zpow_of_roundsTo hc hv)
    omega
  have hsmall : ¬ E < -(2 ^ 11 + (M.log2 : ℤ)) := by
    intro hE
    have hlt : (M : ℚ) * 10 ^ E < 2 ^ ((M.log2 + 1 : ℕ) + E) := by
      rw [zpow_add₀ two_ne_zero, zpow_natCast]
      have := ten_zpow_le_two_zpow (show E ≤ 0 by omega)
      exact mul_lt_mul (by linarith) this (by positivity) (by positivity)
    have := exponent_lt (two_zpow_le_of_roundsTo hc hv) hlt
    omega
  have hsigned :
      (if decide (E < 0) = true then Int.negOfNat E.natAbs else Int.ofNat E.natAbs) = E := by
    simp only [decide_eq_true_eq, Int.ofNat_eq_natCast, Int.negOfNat_eq]
    split <;> omega
  unfold Float.ofScientific
  rw [dif_neg h]
  simp only [hsigned]
  show Float.ofModel (.pack (UnpackedFloat.ofScientific Format.binary64 M E)) = _
  unfold UnpackedFloat.ofScientific
  rw [dif_neg hM.ne', if_neg hbig, if_neg hsmall]
  by_cases hE : 0 ≤ E
  · have hshifted : 2 ^ 52 ≤ (M <<< 53) * 10 ^ E.toNat := by
      rw [Nat.shiftLeft_eq]
      have := Nat.le_mul_of_pos_right (M * 2 ^ 53) (show 0 < 10 ^ E.toNat by positivity)
      omega
    have hvalue : (M : ℚ) * (10 : ℚ) ^ E
        = ((M <<< 53 : ℕ) * 2 ^ (-53 : ℤ)) * ((10 ^ E.toNat : ℕ) * 2 ^ (0 : ℤ)) := by
      have hten : (10 : ℚ) ^ E = 10 ^ E.toNat := by
        rw [← zpow_natCast, Int.toNat_of_nonneg hE]
      rw [hten, Nat.shiftLeft_eq, zpow_zero, mul_one, zpow_neg]
      push_cast
      field_simp
    -- The digits were moved up by 53 bits, so none is missing when the product is rounded.
    rw [hvalue] at hv
    rw [if_pos hE]
    exact congrArg (fun u => Float.ofModel (.pack u))
      (mul_eq hc _ (by positivity) hshifted hv .positive .positive)
  · have hvalue : (M : ℚ) * 10 ^ E
        = (M * 2 ^ (0 : ℤ)) / ((10 ^ (-E).toNat : ℕ) * 2 ^ (0 : ℤ)) := by
      have hten : (10 : ℚ) ^ E = (10 ^ (-E).toNat)⁻¹ := by
        rw [← zpow_natCast, Int.toNat_of_nonneg (by omega), zpow_neg, inv_inv]
      rw [hten]
      push_cast
      norm_num
      rfl
    rw [hvalue] at hv
    rw [if_neg hE, div_eq hc _ _ hv]
    rfl

/-! ## All literals -/

theorem ten_pow_length_le (hM : 0 < M) : 10 ^ (length M - 1) ≤ M ∧ M < 10 ^ length M := by
  have hpos : 0 < (Nat.toDigits 10 M).length := Nat.length_toDigits_pos
  have hlength : length M = (Nat.toDigits 10 M).length := if_neg hM.ne'
  rw [hlength]
  constructor
  · by_cases hone : (Nat.toDigits 10 M).length - 1 = 0
    · rw [hone, pow_zero]
      exact hM
    · by_contra hlt
      have := (Nat.length_toDigits_le_iff (by decide) (Nat.pos_of_ne_zero hone)).2 (not_le.1 hlt)
      omega
  · exact (Nat.length_toDigits_le_iff (by decide) hpos).1 le_rfl

/-- Whatever is read as zero without being formed is below half of the least double. -/
theorem neg_330_le_of_roundsTo (hM : 0 < M) (hc : Canonical m e)
    (hv : RoundsTo (M * 10 ^ E) m e) : -330 ≤ E + length M := by
  have hhigh : (M : ℚ) < 10 ^ length M := by exact_mod_cast (ten_pow_length_le hM).2
  by_contra h
  have hlt : (M : ℚ) * 10 ^ E < 10 ^ (E + length M) := by
    rw [zpow_add₀ (by norm_num), zpow_natCast, mul_comm]
    exact mul_lt_mul_of_pos_left hhigh (by positivity)
  have hle : (10 : ℚ) ^ (E + length M) ≤ 10 ^ (-331 : ℤ) :=
    zpow_le_zpow_right₀ (by norm_num) (by omega)
  have hten : (10 : ℚ) ^ (-331 : ℤ) < 2 ^ (-1075 : ℤ) := by
    have hpow : (2 : ℚ) ^ 1075 < 10 ^ 331 := by
      exact_mod_cast (show 2 ^ 1075 < 10 ^ 331 by decide +kernel)
    rw [zpow_neg, zpow_neg]
    exact (inv_lt_inv₀ (by positivity) (by positivity)).2 hpow
  exact absurd (two_zpow_le_of_roundsTo hc hv) (not_le.2 (hlt.trans_le (hle.trans hten.le)))

/-- Whatever is read as infinity without being formed is above all doubles. -/
theorem le_310_of_roundsTo (hM : 0 < M) (hc : Canonical m e)
    (hv : RoundsTo (M * 10 ^ E) m e) : E + length M ≤ 310 := by
  have hlow : (10 : ℚ) ^ (length M - 1) ≤ M := by exact_mod_cast (ten_pow_length_le hM).1
  by_contra h
  have hle : (10 : ℚ) ^ (E + (length M - 1 : ℕ)) ≤ M * 10 ^ E := by
    rw [zpow_add₀ (by norm_num), zpow_natCast, mul_comm]
    exact mul_le_mul_of_nonneg_right hlow (by positivity)
  have hge : (10 : ℚ) ^ (310 : ℤ) ≤ 10 ^ (E + (length M - 1 : ℕ)) :=
    zpow_le_zpow_right₀ (by norm_num) (by omega)
  have hten : (2 : ℚ) ^ (1024 : ℤ) < 10 ^ (310 : ℤ) := by
    exact_mod_cast (show 2 ^ 1024 < 10 ^ 310 by decide +kernel)
  exact absurd (lt_two_zpow_of_roundsTo hc hv) (not_lt.2 (hten.le.trans (hge.trans hle)))

/-- **A literal is read as the double it rounds to.** -/
theorem magnitude_eq (hc : Canonical m e) (hv : RoundsTo (M * 10 ^ E) m e) :
    magnitude M E = hc.double false := by
  have hM : 0 < M := by
    have hpos := hv.pos hc
    rcases Nat.eq_zero_or_pos M with rfl | hM
    · simp at hpos
    · exact hM
  have hlow := neg_330_le_of_roundsTo hM hc hv
  have hhigh := le_310_of_roundsTo hM hc hv
  unfold magnitude
  simp only
  rw [if_neg (not_or.2 ⟨hM.ne', not_lt.2 hlow⟩), if_neg (not_lt.2 hhigh)]
  by_cases hfast : M < 2 ^ 53 ∧ E.natAbs ≤ 22
  · exact ofScientific_fast hM hfast.1 hfast.2 hc hv
  · exact ofScientific_slow hM hfast hc hv

/-- With a sign, too. -/
theorem value_eq (hc : Canonical m e) (hv : RoundsTo (M * 10 ^ E) m e) (negative : Bool) :
    value negative M E = hc.double negative := by
  unfold value
  rw [magnitude_eq hc hv]
  cases negative with
  | false => rfl
  | true => exact hc.neg_double false

/-- A whole number that is not too great is read as a finite double. -/
theorem isFinite_value_whole {n : ℕ} (hlog : n.log2 < 1023) (negative : Bool) :
    (value negative n 0).isFinite = true := by
  rcases Nat.eq_zero_or_pos n with rfl | hpos
  · cases negative <;> rfl
  · obtain ⟨m, e, hc, hv⟩ := exists_roundsTo hpos hlog
    have hv' : RoundsTo (n * 10 ^ (0 : ℤ)) m e := by
      rwa [zpow_zero, mul_one]
    rw [value_eq hc hv' negative]
    exact (Exact.isFinite_iff _).2 ⟨_, _, _, Exact.ofFloat_double hc negative⟩

end Decimal

end ImageOverlay
