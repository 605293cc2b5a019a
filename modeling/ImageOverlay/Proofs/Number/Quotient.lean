import ImageOverlay.Proofs.Number.Whole

set_option autoImplicit false

/-!
# Quotients of sizes

A quotient of two whole numbers of 32 bits is rounded to a double, and what is off is no more than a
part in `2^53` (`Nearly`). Such a quotient is either a whole number or a power of two itself, or it
is farther away from it than that: two fractions of these sizes that differ do so by more than a
part in `2^33`. So the double lies on the same side of every whole number
(`Nearly.le_natCast_iff`) and of every power of two (`Nearly.side`) as the exact quotient.
-/

namespace ImageOverlay

open Float.Model Float.Model.UnpackedFloat Rounding

/-- A double that a number is rounded to: no more than a part in `2^53` off, and not off at all if
the number is a double. -/
structure Nearly (x : Float) (v : ℚ) : Prop where
  isFinite : x.isFinite = true
  near : |rational x - v| ≤ v / 2 ^ 53
  exact : Representable v → rational x = v

variable {x y : Float} {a b q v : ℚ} {u : UnpackedFloat}

theorem Nearly.exactly (h : Nearly x v) : Exactly x (rational x) := ⟨h.isFinite, rfl⟩

theorem Nearly.le (h : Nearly x v) : rational x ≤ v + v / 2 ^ 53 := by
  have := (abs_le.1 h.near).2
  linarith

theorem Nearly.ge (h : Nearly x v) : v - v / 2 ^ 53 ≤ rational x := by
  have := (abs_le.1 h.near).1
  linarith

theorem Nearly.pos (h : Nearly x v) (hv : 0 < v) : 0 < rational x := by
  have := h.ge
  linarith

/-! ## What is rounded is nearly what it was -/

theorem rational_pack_zero (s : Sign) : rational (.ofModel (.pack (.zero s))) = 0 := by
  unfold rational
  rw [Packed.unpack_pack_zero]
  rfl

/-- The distance to a whole number of units is at most half a unit. -/
theorem Rounding.RoundedAt.abs_sub_le {r : ℕ} {t : ℤ} (h : RoundedAt v r t)
    (hlow : 2 ^ (-1022 : ℤ) ≤ v) : |r * 2 ^ t - v| ≤ v / 2 ^ 53 := by
  have hunit := two_zpow_pos t
  have hunits : v / 2 ^ t * 2 ^ t = v := div_mul_cancel₀ v hunit.ne'
  -- Half a unit is small because there are 53 digits, or because the number is not that small.
  have hhalf : (2 : ℚ) ^ t / 2 ≤ v / 2 ^ 53 := by
    rcases h.normal with hnormal | rfl
    · have hle := mul_le_mul_of_nonneg_right hnormal hunit.le
      rw [hunits] at hle
      linarith
    · have hunit : (2 : ℚ) ^ (-1074 : ℤ) = 2 ^ (-1022 : ℤ) / 2 ^ 52 := by
        rw [← zpow_natCast, ← zpow_sub₀ two_ne_zero]
        rfl
      rw [hunit]
      linarith
  have hadd := mul_le_mul_of_nonneg_right h.le_add hunit.le
  have hsub := mul_le_mul_of_nonneg_right h.sub_le hunit.le
  rw [abs_le]
  constructor <;> nlinarith

theorem Rounding.Rounds.nearly (h : Rounds .positive v u) (hlow : 2 ^ (-1022 : ℤ) ≤ v)
    (hhigh : v ≤ 2 ^ (1000 : ℤ)) : Nearly (.ofModel (.pack u)) v := by
  have hv : 0 < v := (two_zpow_pos _).trans_le hlow
  have hbound : v < ((2 ^ 52 : ℕ) + 1 / 2) * 2 ^ (948 : ℤ) := hhigh.trans_lt (two_zpow_lt_digits 1000)
  obtain ⟨r, t, hr, hsized⟩ := h.sized
  have hle := hr.le_of_lt (le_refl _) (by norm_num) (by norm_num) hbound
  have hvalue : rational (.ofModel (.pack u)) = r * 2 ^ t := by
    cases hsized with
    | zero hq => rw [hq, rational_pack_zero]
    | @finite m e hpos hq hlt hmin hnormal =>
        rw [← hq] at hle ⊢
        have hc := Sized.canonical hpos hlt hmin hnormal (by norm_num) (by norm_num) hle
        show Packed.value (Float.Model.pack (.finite .positive m e hc.pos)).unpack = _
        rw [Packed.unpack_pack hc, value_finite]
        norm_num [Sign.apply]
  refine ⟨?_, ?_, fun hrep => ?_⟩
  · exact (h.within (le_refl _) (by norm_num) (by norm_num) (by norm_num) hbound).isFinite
  · rw [hvalue]
    exact hr.abs_sub_le hlow
  · have hexactly := h.exactly hv hrep
    rw [hexactly.eq]
    norm_num [Sign.apply]

/-- A quotient is rounded once. -/
theorem Exactly.nearly_div (hx : Exactly x a) (hy : Exactly y b) (ha : 0 < a) (hb : 0 < b)
    (hlow : 2 ^ (-1022 : ℤ) ≤ a / b) (hhigh : a / b ≤ 2 ^ (1000 : ℤ)) : Nearly (x / y) (a / b) := by
  have hsign : ∀ {s : Sign} {q : ℚ}, 0 < q → 0 < (s.apply 1 : ℤ) * q → s = .positive := by
    intro s q hq hpos
    cases s with
    | positive => rfl
    | negative =>
        simp only [Sign.apply, Int.cast_neg, Int.cast_one, neg_one_mul] at hpos
        linarith
  show Nearly (.ofModel (.pack
    (UnpackedFloat.div Format.binary64 x.toModel.unpack y.toModel.unpack))) _
  rcases hx.cases with ⟨_, _, rfl⟩ | ⟨s₁, m₁, e₁, h₁, hux, rfl⟩
  · exact absurd ha (lt_irrefl 0)
  rcases hy.cases with ⟨_, _, rfl⟩ | ⟨s₂, m₂, e₂, h₂, huy, rfl⟩
  · exact absurd hb (lt_irrefl 0)
  obtain rfl := hsign (size_pos h₁) ha
  obtain rfl := hsign (size_pos h₂) hb
  simp only [Sign.apply, Int.cast_one, one_mul] at hlow hhigh ⊢
  rw [hux, huy]
  exact (rounds_div h₁.pos h₂.pos e₁ e₂ .positive .positive).nearly hlow hhigh

/-- A whole number of 32 bits as a double. -/
theorem exactly_toFloat (n : UInt32) : Exactly n.toFloat n.toNat := by
  have hlt := n.toNat_lt
  have hrep : Representable (((n.toNat : ℕ) : ℤ) * 2 ^ (0 : ℤ)) :=
    representable_scaled (by rw [Nat.abs_cast]; omega) (by norm_num) (by norm_num)
  have h := exactly_normalize hrep
  rw [zpow_zero, mul_one] at h
  exact_mod_cast h

/-- A whole number that fits into the digits of a double. -/
theorem exactly_natToFloat {n : ℕ} (hn : n < 2 ^ 53) : Exactly n.toFloat n := by
  rcases Nat.eq_zero_or_pos n with rfl | hpos
  · rw [Nat.cast_zero]
    exact exactly_zero .positive
  · have hc := canonical_of_lt hpos hn
    have hvalue := shifted_value ((Nat.log2_lt hpos.ne').2 hn)
    have hrounds : RoundsTo (n * 10 ^ (0 : ℤ)) (n * 2 ^ (52 - n.log2)) (n.log2 - 52) := by
      rw [zpow_zero, mul_one, ← hvalue]
      exact .of_eq _ _
    have hdouble : n.toFloat = hc.double false :=
      Decimal.ofScientific_fast hpos hn (by decide) hc hrounds
    rw [hdouble]
    refine ⟨(within_finite hc .positive (le_refl _)).isFinite, ?_⟩
    show Packed.value (Float.Model.pack (.finite .positive _ _ hc.pos)).unpack = _
    rw [Packed.unpack_pack hc, value_finite, hvalue]
    norm_num [Sign.apply]

/-! ## Which side of a number the quotient lies on -/

/-- Whether a number is a power of two or away from all of them, by a part `δ` of the power. -/
def Apart (δ q : ℚ) : Prop := ∀ k : ℤ, q = 2 ^ k ∨ q ≤ 2 ^ k * (1 - δ) ∨ 2 ^ k * (1 + δ) ≤ q

section Sizes

variable {m n : ℕ}

/-- Fractions that differ do so by a part that is not small, if one numerator is not great. -/
theorem natCast_gap (hn : n ≤ 2 ^ 33) (h : m < n) : (m : ℚ) ≤ n * (1 - 1 / 2 ^ 33) := by
  have hm : (m : ℚ) + 1 ≤ n := by exact_mod_cast h
  have hpart : (n : ℚ) * (1 / 2 ^ 33) ≤ 1 := by
    have : (n : ℚ) ≤ 2 ^ 33 := by exact_mod_cast hn
    linarith
  linarith

theorem natCast_gap_above (hn : n ≤ 2 ^ 33) (h : n < m) : (n : ℚ) * (1 + 1 / 2 ^ 33) ≤ m := by
  have hm : (n : ℚ) + 1 ≤ m := by exact_mod_cast h
  have hpart : (n : ℚ) * (1 / 2 ^ 33) ≤ 1 := by
    have : (n : ℚ) ≤ 2 ^ 33 := by exact_mod_cast hn
    linarith
  linarith

/-- Two whole numbers, one of them of 32 bits, are equal or apart. -/
theorem natCast_apart (h : m < 2 ^ 32 ∨ n < 2 ^ 32) :
    m = n ∨ (m : ℚ) ≤ n * (1 - 1 / 2 ^ 33) ∨ n * (1 + 1 / 2 ^ 33) ≤ (m : ℚ) := by
  by_cases hn : n ≤ 2 ^ 33
  · rcases lt_trichotomy m n with hlt | heq | hgt
    · exact .inr (.inl (natCast_gap hn hlt))
    · exact .inl heq
    · exact .inr (.inr (natCast_gap_above hn hgt))
  · -- The second number is more than twice the first.
    have hm : (m : ℚ) ≤ 2 ^ 32 := by exact_mod_cast (show m ≤ 2 ^ 32 by omega)
    have hn' : (2 : ℚ) ^ 33 ≤ n := by exact_mod_cast (not_le.1 hn).le
    right; left
    linarith

theorem apart_quotient {n d : ℕ} (hn' : n < 2 ^ 32) (hd : 0 < d) (hd' : d < 2 ^ 32) :
    Apart (1 / 2 ^ 33) (n / d) := by
  have hdq : (0 : ℚ) < d := by exact_mod_cast hd
  intro k
  rw [div_eq_iff hdq.ne', div_le_iff₀ hdq, le_div_iff₀ hdq]
  rcases Int.eq_nat_or_neg k with ⟨j, rfl | rfl⟩
  · have h := natCast_apart (m := n) (n := 2 ^ j * d) (.inl hn')
    push_cast at h
    rw [zpow_natCast]
    refine h.imp ?_ (Or.imp ?_ ?_)
    · intro h
      exact_mod_cast h
    · intro h
      linarith
    · intro h
      linarith
  · have hunit : (0 : ℚ) < 2 ^ j := by positivity
    have h := natCast_apart (m := n * 2 ^ j) (n := d) (.inr hd')
    push_cast at h
    rw [zpow_neg, zpow_natCast, mul_assoc, mul_assoc, inv_mul_eq_div, inv_mul_eq_div,
      inv_mul_eq_div, eq_div_iff hunit.ne', le_div_iff₀ hunit, div_le_iff₀ hunit]
    refine h.imp ?_ (Or.imp ?_ ?_)
    · intro h
      exact_mod_cast h
    · intro h
      linarith
    · intro h
      linarith

end Sizes

/-- A double lies on the same side of a power of two as the number it was rounded from. -/
theorem Nearly.side (h : Nearly x v) (hv : Apart (1 / 2 ^ 33) v) (hlow : 2 ^ (-1022 : ℤ) ≤ v)
    (hhigh : v ≤ 2 ^ (971 : ℤ)) (k : ℤ) :
    (v = 2 ^ k ∧ rational x = 2 ^ k) ∨
      (v < 2 ^ k ∧ rational x ≤ 2 ^ k * (1 - 1 / 2 ^ 34)) ∨
      (2 ^ k < v ∧ 2 ^ k * (1 + 1 / 2 ^ 34) ≤ rational x) := by
  have hunit := two_zpow_pos k
  rcases hv k with heq | hlt | hgt
  · rw [heq] at hlow hhigh
    have hmin := (zpow_le_zpow_iff_right₀ one_lt_two).1 hlow
    have hmax := (zpow_le_zpow_iff_right₀ one_lt_two).1 hhigh
    have hrep : Representable v := by
      have hone := representable_scaled (k := 1) (by norm_num) hmin hmax
      rwa [Int.cast_one, one_mul, ← heq] at hone
    exact .inl ⟨heq, (h.exact hrep).trans heq⟩
  · have hle := h.le
    refine .inr (.inl ⟨?_, ?_⟩)
    · linarith
    · calc rational x ≤ v * (1 + 1 / 2 ^ 53) := by linarith
        _ ≤ 2 ^ k * (1 - 1 / 2 ^ 33) * (1 + 1 / 2 ^ 53) :=
            mul_le_mul_of_nonneg_right hlt (by norm_num)
        _ = 2 ^ k * ((1 - 1 / 2 ^ 33) * (1 + 1 / 2 ^ 53)) := by ring
        _ ≤ 2 ^ k * (1 - 1 / 2 ^ 34) := by
            gcongr
            norm_num
  · have hge := h.ge
    refine .inr (.inr ⟨?_, ?_⟩)
    · linarith
    · calc (2 : ℚ) ^ k * (1 + 1 / 2 ^ 34) ≤ 2 ^ k * ((1 + 1 / 2 ^ 33) * (1 - 1 / 2 ^ 53)) := by
            gcongr
            norm_num
        _ = 2 ^ k * (1 + 1 / 2 ^ 33) * (1 - 1 / 2 ^ 53) := by ring
        _ ≤ v * (1 - 1 / 2 ^ 53) := mul_le_mul_of_nonneg_right hgt (by norm_num)
        _ ≤ rational x := by linarith

/-- A quotient of sizes lies on the same side of a whole number as the double it is rounded to. -/
theorem Nearly.le_natCast_iff {n d : ℕ} (h : Nearly x (n / d)) (hn : n < 2 ^ 32) (hd : 0 < d)
    (k : ℕ) : rational x ≤ k ↔ n ≤ k * d := by
  have hdq : (0 : ℚ) < d := by exact_mod_cast hd
  have hnq : (n : ℚ) < 2 ^ 32 := by exact_mod_cast hn
  -- What is off comes to less than one, once the quotient is multiplied by the divisor.
  have hoff : (n / d : ℚ) / 2 ^ 53 < 1 / d := by
    rw [div_div, div_lt_div_iff₀ (by positivity) hdq]
    nlinarith
  constructor
  · intro hle
    by_contra hlt
    have hstep : (k * d : ℚ) + 1 ≤ n := by exact_mod_cast (not_le.1 hlt)
    have hquot : (k : ℚ) + 1 / d ≤ n / d := by
      rw [le_div_iff₀ hdq, add_mul, div_mul_cancel₀ _ hdq.ne']
      exact hstep
    have := h.ge
    linarith
  · intro hle
    rcases hle.lt_or_eq with hlt | heq
    · have hstep : (n : ℚ) + 1 ≤ k * d := by exact_mod_cast hlt
      have hquot : (n / d : ℚ) + 1 / d ≤ k := by
        rw [← add_div, div_le_iff₀ hdq]
        exact hstep
      have := h.le
      linarith
    · have hquot : (n / d : ℚ) = (k : ℤ) := by
        rw [div_eq_iff hdq.ne']
        exact_mod_cast heq
      have hk : k ≤ n := heq ▸ Nat.le_mul_of_pos_right k hd
      have hrep : Representable (n / d : ℚ) := by
        rw [hquot]
        exact representable_int (by rw [Nat.abs_cast]; omega)
      rw [h.exact hrep, hquot, Int.cast_natCast]

/-! ## Sizes of 32 bits -/

section Quotient

variable {n d : UInt32} (hn : n ≠ 0) (hd : d ≠ 0)
include hn hd

omit hd in
theorem toNat_pos : 0 < n.toNat := by
  rw [Nat.pos_iff_ne_zero]
  intro h
  exact hn (UInt32.toNat_inj.1 h)

theorem quotient_bounds :
    (2 : ℚ) ^ (-32 : ℤ) ≤ n.toNat / d.toNat ∧ (n.toNat / d.toNat : ℚ) ≤ 2 ^ (32 : ℤ) := by
  have hn₁ : (1 : ℚ) ≤ n.toNat := by exact_mod_cast toNat_pos hn
  have hd₁ : (1 : ℚ) ≤ d.toNat := by exact_mod_cast toNat_pos hd
  have hn₂ : (n.toNat : ℚ) ≤ 2 ^ 32 := by exact_mod_cast n.toNat_lt.le
  have hd₂ : (d.toNat : ℚ) ≤ 2 ^ 32 := by exact_mod_cast d.toNat_lt.le
  rw [le_div_iff₀ (by linarith), div_le_iff₀ (by linarith), zpow_neg]
  norm_cast at *
  constructor
  · rw [inv_mul_le_iff₀ (by positivity)]
    exact_mod_cast hd₂.trans (Nat.le_mul_of_pos_right _ hn₁)
  · exact hn₂.trans (Nat.le_mul_of_pos_right _ hd₁)

theorem nearly_quotient : Nearly (n.toFloat / d.toFloat) (n.toNat / d.toNat) := by
  obtain ⟨hlow, hhigh⟩ := quotient_bounds hn hd
  refine (exactly_toFloat n).nearly_div (exactly_toFloat d) ?_ ?_ ?_ ?_
  · exact_mod_cast toNat_pos hn
  · exact_mod_cast toNat_pos hd
  · exact (zpow_le_zpow_right₀ one_le_two (by norm_num)).trans hlow
  · exact hhigh.trans (zpow_le_zpow_right₀ one_le_two (by norm_num))

theorem quotient_pos : (0 : ℚ) < n.toNat / d.toNat := (two_zpow_pos _).trans_le (quotient_bounds hn hd).1

/-- The quotient and the double are on the same side of a power of two. -/
theorem quotient_side (k : ℤ) :
    ((n.toNat / d.toNat : ℚ) = 2 ^ k ∧ rational (n.toFloat / d.toFloat) = 2 ^ k) ∨
      ((n.toNat / d.toNat : ℚ) < 2 ^ k ∧
        rational (n.toFloat / d.toFloat) ≤ 2 ^ k * (1 - 1 / 2 ^ 34)) ∨
      ((2 : ℚ) ^ k < n.toNat / d.toNat ∧
        2 ^ k * (1 + 1 / 2 ^ 34) ≤ rational (n.toFloat / d.toFloat)) := by
  obtain ⟨hlow, hhigh⟩ := quotient_bounds hn hd
  have hapart := apart_quotient n.toNat_lt (toNat_pos hd) d.toNat_lt
  refine (nearly_quotient hn hd).side hapart ?_ ?_ k
  · exact (zpow_le_zpow_right₀ one_le_two (by norm_num)).trans hlow
  · exact hhigh.trans (zpow_le_zpow_right₀ one_le_two (by norm_num))

theorem apart_rational_quotient : Apart (1 / 2 ^ 34) (rational (n.toFloat / d.toFloat)) :=
  fun k => (quotient_side hn hd k).imp And.right (Or.imp And.right And.right)

theorem rational_quotient_le_iff (k : ℤ) :
    rational (n.toFloat / d.toFloat) ≤ 2 ^ k ↔ (n.toNat / d.toNat : ℚ) ≤ 2 ^ k := by
  have hunit := two_zpow_pos k
  rcases quotient_side hn hd k with ⟨h, h'⟩ | ⟨h, h'⟩ | ⟨h, h'⟩
  · rw [h, h']
  · exact iff_of_true (by linarith) h.le
  · exact iff_of_false (by linarith) h.not_ge

theorem le_rational_quotient_iff (k : ℤ) :
    2 ^ k ≤ rational (n.toFloat / d.toFloat) ↔ (2 : ℚ) ^ k ≤ n.toNat / d.toNat := by
  have hunit := two_zpow_pos k
  rcases quotient_side hn hd k with ⟨h, h'⟩ | ⟨h, h'⟩ | ⟨h, h'⟩
  · rw [h, h']
  · exact iff_of_false (by linarith) h.not_ge
  · exact iff_of_true (by linarith) h.le

end Quotient

end ImageOverlay
