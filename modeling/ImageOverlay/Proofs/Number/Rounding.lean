import ImageOverlay.Proofs.Number.Packing

set_option autoImplicit false

/-!
# Rounding to the nearest double

Rounding starts from a mantissa, an exponent and what is known of the digits that were cut off. It
shifts the mantissa until it has at most 53 bits, rounds it, and shifts once more, because the
rounded mantissa may have one bit too many. What is shifted out is remembered in two bits, and they
say enough (`Describes`).

`roundWithAccuracy_eq` says that the outcome is the nearest double. A number just below a power of
two is the only one for which the shift does not lead to the exponent of that double: there the
mantissa comes out as `2^53`, one place too deep, and the second shift mends it.
-/

namespace ImageOverlay

open Float.Model Float.Model.UnpackedFloat

namespace Rounding

/-- What a mantissa and the two bits say of a number: the first bit is its first digit after the
mantissa, the second whether any digit after that one is there. -/
def Describes (em : ExtendedMantissa) (u : ℚ) : Prop :=
  let base : ℚ := em.mantissa + if em.roundBit then 1 / 2 else 0
  if em.stickyBit then base < u ∧ u < base + 1 / 2 else u = base

theorem Describes.shiftRightOne {em : ExtendedMantissa} {u : ℚ} (h : Describes em u) :
    Describes em.shiftRightOne (u / 2) := by
  obtain ⟨m, round, sticky⟩ := em
  have hm : (m : ℚ) = 2 * (m / 2 : ℕ) + (m % 2 : ℕ) := by exact_mod_cast (Nat.div_add_mod m 2).symm
  unfold Describes ExtendedMantissa.shiftRightOne at *
  dsimp only at *
  -- The digit that is shifted out becomes the round bit, the old round bit joins the sticky one.
  rcases Nat.mod_two_eq_zero_or_one m with hr | hr <;> rw [hr] at hm ⊢ <;>
    cases round <;> cases sticky <;> simp at *
  all_goals first | linarith | (constructor <;> linarith)

theorem Describes.shiftRight {em : ExtendedMantissa} {u : ℚ} (h : Describes em u) (k : ℕ) :
    Describes (em >>> k) (u / 2 ^ k) := by
  induction k with
  | zero =>
      rw [pow_zero, div_one]
      exact h
  | succ k ih =>
    have := ih.shiftRightOne
    rw [pow_succ, ← div_div]
    exact this

theorem roundedMantissa_eq {em : ExtendedMantissa} {u : ℚ} (h : Describes em u) {n : ℕ}
    (hlow : (n : ℚ) - 1 / 2 ≤ u) (hhigh : u ≤ n + 1 / 2)
    (htie : u = n - 1 / 2 ∨ u = n + 1 / 2 → n % 2 = 0) :
    em.roundedMantissa = n := by
  obtain ⟨m, round, sticky⟩ := em
  unfold Describes at h
  -- The neighbours of `u` are `m` and `m + 1`, and which half it lies in says which one is nearest.
  cases round <;> cases sticky <;>
    simp only [ExtendedMantissa.roundedMantissa, ExtendedMantissa.accuracy,
      Accuracy.roundToNearestEven, reduceIte, Bool.false_eq_true, add_zero] at h ⊢
  · have hle : (m : ℚ) < n + 1 := by linarith
    have hge : (n : ℚ) < m + 1 := by linarith
    norm_cast at hle hge
    omega
  · have hle : (m : ℚ) < n + 1 := by linarith
    have hge : (n : ℚ) < m + 1 := by linarith
    norm_cast at hle hge
    omega
  · have hle : (m : ℚ) ≤ n := by linarith
    have hge : (n : ℚ) ≤ m + 1 := by linarith
    norm_cast at hle hge
    rcases hle.eq_or_lt with rfl | hlt
    · have := htie (.inr h)
      omega
    · obtain rfl : n = m + 1 := by omega
      have heven := htie (.inl (by rw [h]; push_cast; ring))
      omega
  · have hle : (m : ℚ) < n := by linarith
    have hge : (n : ℚ) < m + 2 := by linarith
    norm_cast at hle hge
    omega

/-- How far below a double the halfway point to its lower neighbour is, in units of its last
digit. -/
def gapBelow (m : ℕ) (e : ℤ) : ℚ := if m = 2 ^ 52 ∧ -1074 < e then 1 / 4 else 1 / 2

/-- Whether `m · 2^e` is the double nearest to a number; of two, the one with an even mantissa. -/
structure RoundsTo (v : ℚ) (m : ℕ) (e : ℤ) : Prop where
  low : m - gapBelow m e < v / 2 ^ e ∨ m % 2 = 0 ∧ v / 2 ^ e = m - gapBelow m e
  high : v / 2 ^ e < m + 1 / 2 ∨ m % 2 = 0 ∧ v / 2 ^ e = m + 1 / 2

theorem targetExponent_eq (t : ℤ) : Format.binary64.targetExponent t = max (t - 53) (-1074) := rfl

theorem exponent_lt {a b : ℤ} {v : ℚ} (hlow : 2 ^ a ≤ v) (hhigh : v < 2 ^ b) : a < b :=
  (zpow_lt_zpow_iff_right₀ one_lt_two).1 (hlow.trans_lt hhigh)

variable {m M : ℕ} {e E : ℤ} {v : ℚ} {acc : Accuracy}

theorem RoundsTo.le_add (h : RoundsTo v m e) : v / 2 ^ e ≤ m + 1 / 2 := by
  rcases h.high with h | ⟨-, h⟩ <;> linarith

theorem RoundsTo.sub_le (h : RoundsTo v m e) : m - gapBelow m e ≤ v / 2 ^ e := by
  rcases h.low with h | ⟨-, h⟩ <;> linarith

theorem gapBelow_pos (m : ℕ) (e : ℤ) : 0 < gapBelow m e := by
  unfold gapBelow
  split <;> norm_num

theorem gapBelow_le (m : ℕ) (e : ℤ) : gapBelow m e ≤ 1 / 2 := by
  unfold gapBelow
  split <;> norm_num

theorem describes_bounds (h : Describes (.ofMantissaAndAccuracy M acc) v) : M ≤ v ∧ v < M + 1 := by
  unfold Describes ExtendedMantissa.ofMantissaAndAccuracy at h
  split at h <;> simp at h
  all_goals constructor <;> linarith

theorem lt_two_pow_log2 (m : ℕ) : (m : ℚ) + 1 ≤ 2 ^ (m.log2 + 1) := by
  exact_mod_cast Nat.lt_log2_self

theorem two_pow_log2_le (h : m ≠ 0) : (2 : ℚ) ^ m.log2 ≤ m := by
  exact_mod_cast Nat.log2_self_le h

theorem two_zpow_pos (e : ℤ) : (0 : ℚ) < 2 ^ e := zpow_pos two_pos e

theorem RoundsTo.lt_two_zpow (h : RoundsTo v m e) : v < 2 ^ ((m.log2 : ℤ) + 1 + e) := by
  rw [zpow_add₀ two_ne_zero, ← div_lt_iff₀ (two_zpow_pos e)]
  have hlog := lt_two_pow_log2 m
  have hle := h.le_add
  have : ((2 : ℚ) ^ ((m.log2 : ℤ) + 1)) = 2 ^ (m.log2 + 1) := by norm_cast
  rw [this]
  linarith

theorem lt_two_zpow_totalExponent (h : Describes (.ofMantissaAndAccuracy M acc) (v / 2 ^ E)) :
    v < 2 ^ totalExponent M E := by
  have hlog := lt_two_pow_log2 M
  have hlt := (describes_bounds h).2
  have hpow : ((2 : ℚ) ^ totalExponent M E) = 2 ^ (M.log2 + 1) * 2 ^ E := by
    unfold totalExponent
    rw [zpow_add₀ two_ne_zero]
    norm_cast
  rw [hpow, ← div_lt_iff₀ (two_zpow_pos E)]
  linarith

theorem two_zpow_totalExponent_le (hM : M ≠ 0)
    (h : Describes (.ofMantissaAndAccuracy M acc) (v / 2 ^ E)) :
    2 ^ (totalExponent M E - 1) ≤ v := by
  have hlog := two_pow_log2_le hM
  have hle := (describes_bounds h).1
  have hpow : ((2 : ℚ) ^ (totalExponent M E - 1)) = 2 ^ M.log2 * 2 ^ E := by
    have : totalExponent M E - 1 = M.log2 + E := by
      unfold totalExponent
      ring
    rw [this, zpow_add₀ two_ne_zero]
    norm_cast
  rw [hpow, ← le_div_iff₀ (two_zpow_pos E)]
  linarith

theorem two_zpow_le_iff (k : ℕ) : (2 : ℚ) ^ ((k : ℤ) + e) ≤ v ↔ 2 ^ k ≤ v / 2 ^ e := by
  rw [zpow_add₀ two_ne_zero, zpow_natCast, le_div_iff₀ (two_zpow_pos e)]

theorem lt_two_zpow_iff (k : ℕ) : v < (2 : ℚ) ^ ((k : ℤ) + e) ↔ v / 2 ^ e < 2 ^ k := by
  rw [zpow_add₀ two_ne_zero, zpow_natCast, div_lt_iff₀ (two_zpow_pos e)]

/-- The exponent that is shifted to is that of the nearest double, unless the number lies just below
a power of two. -/
theorem targetExponent_cases (hc : Canonical m e) (hv : RoundsTo v m e)
    (h : Describes (.ofMantissaAndAccuracy M acc) (v / 2 ^ E))
    (hE : E ≤ Format.binary64.targetExponent (totalExponent M E)) :
    Format.binary64.targetExponent (totalExponent M E) = e ∨
      Format.binary64.targetExponent (totalExponent M E) = e - 1 ∧ m = 2 ^ 52 ∧ -1074 < e ∧
        v / 2 ^ e < 2 ^ 52 := by
  have hmin := hc.min
  have hlog : m.log2 < 53 := (Nat.log2_lt hc.pos.ne').2 hc.lt
  have hlow := hv.sub_le
  have hgap := gapBelow_le m e
  have hT := lt_two_zpow_totalExponent h
  rw [targetExponent_eq] at *
  by_cases hM : M = 0
  · -- Nothing is left of a number this small but that it is below the least exponent.
    subst hM
    left
    have htotal : totalExponent 0 E = 1 + E := rfl
    rw [htotal] at hE ⊢
    have hsmall : v < 2 ^ E := by
      have := (describes_bounds h).2
      rw [div_lt_iff₀ (two_zpow_pos E)] at this
      simpa using this
    rcases hc.normal with hm | he
    · have hm' : (2 : ℚ) ^ 52 ≤ m := by exact_mod_cast hm
      have hbig : (2 : ℚ) ^ ((0 : ℕ) + e) ≤ v := (two_zpow_le_iff 0).2 (by linarith)
      have := exponent_lt hbig hsmall
      omega
    · omega
  · have hbelow := exponent_lt (two_zpow_totalExponent_le hM h) hv.lt_two_zpow
    rcases hc.normal with hm | he
    · have hm' : (2 : ℚ) ^ 52 ≤ m := by exact_mod_cast hm
      by_cases hsame : 2 ^ 52 ≤ v / 2 ^ e
      · left
        have := exponent_lt ((two_zpow_le_iff 52).2 hsame) hT
        omega
      · -- It is rounded up to a power of two: it has as many digits as that, less one.
        push Not at hsame
        have hlt : (m : ℚ) < 2 ^ 52 + 1 := by linarith
        norm_cast at hlt
        obtain rfl : m = 2 ^ 52 := by omega
        have hhalf : (2 : ℚ) ^ 51 ≤ v / 2 ^ e := by linarith
        have habove := exponent_lt ((two_zpow_le_iff 51).2 hhalf) hT
        have hbelow' := exponent_lt (two_zpow_totalExponent_le hM h) ((lt_two_zpow_iff 52).2 hsame)
        by_cases he : -1074 < e
        · right
          refine ⟨by omega, rfl, he, hsame⟩
        · left
          omega
    · omega

theorem shiftToExponent_eq (h : Describes (.ofMantissaAndAccuracy M acc) (v / 2 ^ E)) {t : ℤ}
    (ht : E ≤ t) :
    ∃ em, shiftToExponent M E acc t = (em, t) ∧ Describes em (v / 2 ^ t) := by
  have hshift : E + ((t - E).toNat : ℤ) = t := by omega
  refine ⟨ExtendedMantissa.ofMantissaAndAccuracy M acc >>> (t - E).toNat, ?_, ?_⟩
  · unfold shiftToExponent
    simp only [hshift]
  · have hpow : (2 : ℚ) ^ t = 2 ^ E * 2 ^ (t - E).toNat := by
      rw [← zpow_natCast, ← zpow_add₀ two_ne_zero, hshift]
    rw [hpow, ← div_div]
    exact h.shiftRight _

theorem targetExponent_of_canonical (hc : Canonical m e) :
    Format.binary64.targetExponent (totalExponent m e) = e := by
  have hmin := hc.min
  have hlog : m.log2 < 53 := (Nat.log2_lt hc.pos.ne').2 hc.lt
  rw [targetExponent_eq, totalExponent]
  rcases hc.normal with hm | he
  · have : 52 ≤ m.log2 := (Nat.le_log2 hc.pos.ne').2 hm
    omega
  · omega

theorem shiftToTargetExponent_of_canonical (hc : Canonical m e) :
    shiftToTargetExponent Format.binary64 m e .exact = (⟨m, false, false⟩, e) := by
  unfold shiftToTargetExponent shiftToExponent
  rw [targetExponent_of_canonical hc]
  simp only [sub_self, Int.toNat_zero, Nat.cast_zero, add_zero]
  rfl

theorem shiftToTargetExponent_of_carry (he : -1074 < e) :
    shiftToTargetExponent Format.binary64 (2 ^ 53) (e - 1) .exact
      = (⟨2 ^ 52, false, false⟩, e) := by
  have htarget : Format.binary64.targetExponent (totalExponent (2 ^ 53) (e - 1)) = e := by
    rw [targetExponent_eq, totalExponent, Nat.log2_two_pow]
    omega
  have hshift : (e - (e - 1)).toNat = 1 := by omega
  unfold shiftToTargetExponent shiftToExponent
  rw [htarget]
  simp only [hshift]
  rw [Nat.cast_one, sub_add_cancel]
  rfl

/-- **Rounding finds the nearest double.** -/
theorem roundWithAccuracy_eq (hc : Canonical m e) (hv : RoundsTo v m e)
    (h : Describes (.ofMantissaAndAccuracy M acc) (v / 2 ^ E))
    (hE : E ≤ Format.binary64.targetExponent (totalExponent M E)) (s : Sign) :
    roundWithAccuracy Format.binary64 s M E acc = .finite s m e hc.pos := by
  obtain ⟨em, hshift, hem⟩ := shiftToExponent_eq h hE
  have hfirst : shiftToTargetExponent Format.binary64 M E acc
      = (em, Format.binary64.targetExponent (totalExponent M E)) := hshift
  unfold roundWithAccuracy
  rw [hfirst]
  have hgap := gapBelow_le m e
  rcases targetExponent_cases hc hv h hE with ht | ⟨ht, rfl, he, hbelow⟩
  · have hrounded : em.roundedMantissa = m := by
      rw [ht] at hem
      refine roundedMantissa_eq hem ?_ hv.le_add ?_
      · linarith [hv.sub_le]
      · rintro (htie | htie)
        · rcases hv.low with hlow | ⟨heven, -⟩
          · linarith
          · exact heven
        · rcases hv.high with hhigh | ⟨heven, -⟩
          · linarith
          · exact heven
    simp only [ht, hrounded, shiftToTargetExponent_of_canonical hc]
    rw [dif_neg hc.pos.ne']
  · have hrounded : em.roundedMantissa = 2 ^ 53 := by
      have hdouble : v / 2 ^ (e - 1) = 2 * (v / 2 ^ e) := by
        rw [zpow_sub₀ two_ne_zero]
        field_simp
      have hlow := hv.sub_le
      have hquarter : gapBelow (2 ^ 52) e = 1 / 4 := if_pos ⟨rfl, he⟩
      rw [hquarter] at hlow
      rw [ht, hdouble] at hem
      refine roundedMantissa_eq hem ?_ ?_ (fun _ => rfl)
      · push_cast at hlow ⊢
        linarith
      · push_cast
        linarith
    simp only [ht, hrounded, shiftToTargetExponent_of_carry he]
    rfl

theorem RoundsTo.of_eq (m : ℕ) (e : ℤ) : RoundsTo (m * 2 ^ e) m e := by
  have hv : (m : ℚ) * 2 ^ e / 2 ^ e = m := mul_div_cancel_right₀ _ (two_zpow_pos e).ne'
  have hgap := gapBelow_pos m e
  constructor
  · left
    linarith
  · left
    linarith

theorem RoundsTo.pos (hc : Canonical m e) (h : RoundsTo v m e) : 0 < v := by
  have hm : (1 : ℚ) ≤ m := by exact_mod_cast hc.pos
  have hlow := h.sub_le
  have hgap := gapBelow_le m e
  have : 0 < v / 2 ^ e := by linarith
  exact pos_of_mul_pos_left (by rwa [div_eq_mul_inv] at this) (inv_nonneg.2 (two_zpow_pos e).le)

theorem describes_exact (M : ℕ) : Describes (.ofMantissaAndAccuracy M .exact) M := by
  simp [Describes, ExtendedMantissa.ofMantissaAndAccuracy]

theorem log2_shiftLeft (hM : M ≠ 0) (k : ℕ) : (M <<< k).log2 = M.log2 + k := by
  have hlow := Nat.mul_le_mul_right (2 ^ k) (Nat.log2_self_le hM)
  have hhigh := Nat.mul_lt_mul_of_pos_right (@Nat.lt_log2_self M) (Nat.two_pow_pos k)
  rw [← pow_add] at hlow hhigh
  rw [Nat.shiftLeft_eq, Nat.log2_eq_iff (Nat.mul_ne_zero hM (Nat.two_pow_pos k).ne')]
  exact ⟨hlow, by rwa [add_right_comm]⟩

/-- That `u` is the number `v`, rounded, with the sign `s`: the digits it was made of say enough of
`v`, and there are enough of them. -/
def Rounds (s : Sign) (v : ℚ) (u : UnpackedFloat) : Prop :=
  ∃ M E acc, u = roundWithAccuracy Format.binary64 s M E acc ∧
    Describes (.ofMantissaAndAccuracy M acc) (v / 2 ^ E) ∧
    E ≤ Format.binary64.targetExponent (totalExponent M E)

theorem Rounds.eq {s : Sign} {u : UnpackedFloat} (h : Rounds s v u) (hc : Canonical m e)
    (hv : RoundsTo v m e) : u = .finite s m e hc.pos := by
  obtain ⟨M, E, acc, rfl, hdescribes, hE⟩ := h
  exact roundWithAccuracy_eq hc hv hdescribes hE s

/-- Digits are appended before they are rounded, so none is missing. -/
theorem rounds_round (hM : M ≠ 0) (E : ℤ) (s : Sign) :
    Rounds s (M * 2 ^ E) (UnpackedFloat.round Format.binary64 s M E) := by
  unfold UnpackedFloat.round decreaseExponent
  simp only
  generalize hk : (E - Format.binary64.targetExponent (totalExponent M E)).toNat = k
  have htotal : totalExponent (M <<< k) (E - k) = totalExponent M E := by
    unfold totalExponent
    rw [log2_shiftLeft hM]
    omega
  refine ⟨_, _, _, rfl, ?_, ?_⟩
  · have hvalue : (M : ℚ) * 2 ^ E / 2 ^ (E - (k : ℤ)) = (M <<< k : ℕ) := by
      rw [Nat.shiftLeft_eq, mul_div_assoc, ← zpow_sub₀ two_ne_zero]
      push_cast
      rw [sub_sub_cancel, zpow_natCast]
    rw [hvalue]
    exact describes_exact _
  · rw [htotal]
    omega

theorem round_eq (hc : Canonical m e) (hv : RoundsTo (M * 2 ^ E) m e) (s : Sign) :
    UnpackedFloat.round Format.binary64 s M E = .finite s m e hc.pos := by
  have hM : M ≠ 0 := by
    rintro rfl
    have := hv.pos hc
    simp at this
  exact (rounds_round hM E s).eq hc hv

/-- A number of at most 53 bits is a double. -/
theorem canonical_of_lt {n : ℕ} (hpos : 0 < n) (hlt : n < 2 ^ 53) :
    Canonical (n * 2 ^ (52 - n.log2)) (n.log2 - 52) := by
  have hlog : n.log2 < 53 := (Nat.log2_lt hpos.ne').2 hlt
  have hlow : 2 ^ n.log2 ≤ n := Nat.log2_self_le hpos.ne'
  have hhigh : n < 2 ^ (n.log2 + 1) := Nat.lt_log2_self
  have hpow : 2 ^ n.log2 * 2 ^ (52 - n.log2) = 2 ^ 52 := by
    rw [← pow_add]
    congr 1
    omega
  have hmin : 2 ^ 52 ≤ n * 2 ^ (52 - n.log2) := by
    rw [← hpow]
    exact Nat.mul_le_mul_right _ hlow
  have hmax : n * 2 ^ (52 - n.log2) < 2 ^ 53 := by
    calc n * 2 ^ (52 - n.log2) < 2 ^ (n.log2 + 1) * 2 ^ (52 - n.log2) :=
          Nat.mul_lt_mul_of_pos_right hhigh (Nat.two_pow_pos _)
      _ = 2 ^ 53 := by rw [pow_succ, mul_right_comm, hpow, ← pow_succ]
  exact ⟨by omega, hmax, by omega, by omega, .inl hmin⟩

theorem shifted_value {n : ℕ} (hlog : n.log2 < 53) :
    ((n * 2 ^ (52 - n.log2) : ℕ) : ℚ) * 2 ^ ((n.log2 : ℤ) - 52) = n := by
  have hexponent : (n.log2 : ℤ) - 52 = -((52 - n.log2 : ℕ) : ℤ) := by omega
  rw [hexponent, zpow_neg, zpow_natCast]
  push_cast
  field_simp

/-- Such a number is converted to a double exactly. -/
theorem ofNat_eq {n : ℕ} (hpos : 0 < n) (hlt : n < 2 ^ 53) :
    UnpackedFloat.ofNat Format.binary64 n
      = .finite .positive (n * 2 ^ (52 - n.log2)) (n.log2 - 52)
          (canonical_of_lt hpos hlt).pos := by
  have hlog : n.log2 < 53 := (Nat.log2_lt hpos.ne').2 hlt
  have hcompare : compare (n : ℤ) 0 = .gt := by
    rw [compare_gt_iff_gt]
    omega
  unfold UnpackedFloat.ofNat UnpackedFloat.ofInt UnpackedFloat.normalize
  simp only [hcompare, Int.toNat_natCast]
  refine round_eq (canonical_of_lt hpos hlt) ?_ _
  have hvalue : (n : ℚ) * 2 ^ (0 : ℤ)
      = (n * 2 ^ (52 - n.log2) : ℕ) * 2 ^ ((n.log2 : ℤ) - 52) := by
    rw [zpow_zero, mul_one, shifted_value hlog]
  rw [hvalue]
  exact RoundsTo.of_eq _ _

/-! ## Every whole number has a nearest double -/

section Cut

variable {q : ℕ} {t : ℚ}

theorem RoundsTo.of_cut (hv : v / 2 ^ e = q + t) (ht : 0 ≤ t)
    (hdown : t < 1 / 2 ∨ q % 2 = 0 ∧ t = 1 / 2) : RoundsTo v q e := by
  have hgap := gapBelow_pos q e
  constructor
  · rw [hv]
    left
    linarith
  · rw [hv]
    rcases hdown with hlt | ⟨heven, heq⟩
    · left
      linarith
    · exact .inr ⟨heven, by rw [heq]⟩

theorem RoundsTo.of_cut_succ (hv : v / 2 ^ e = q + t) (ht : t < 1) (hq : 2 ^ 52 ≤ q)
    (hup : 1 / 2 < t ∨ (q + 1) % 2 = 0 ∧ t = 1 / 2) : RoundsTo v (q + 1) e := by
  have hgap : gapBelow (q + 1) e = 1 / 2 := if_neg (by omega)
  constructor
  · rw [hv, hgap]
    push_cast
    rcases hup with hlt | ⟨heven, heq⟩
    · left
      linarith
    · exact .inr ⟨heven, by linarith⟩
  · rw [hv]
    left
    push_cast
    linarith

theorem RoundsTo.of_carry (hv : v / 2 ^ e = q + t) (ht : t < 1) (hq : q + 1 = 2 ^ 53)
    (hup : 1 / 2 ≤ t) (he : -1074 ≤ e) : RoundsTo v (2 ^ 52) (e + 1) := by
  have hhalf : v / 2 ^ (e + 1) = (q + t) / 2 := by
    rw [zpow_add_one₀ two_ne_zero, ← div_div, hv]
  have hq' : (q : ℚ) = 2 ^ 53 - 1 := by
    rw [eq_sub_iff_add_eq]
    exact_mod_cast hq
  have hgap : gapBelow (2 ^ 52) (e + 1) = 1 / 4 := if_pos ⟨rfl, by omega⟩
  constructor
  · rw [hhalf, hgap, hq']
    push_cast
    rcases hup.lt_or_eq with hlt | heq
    · left
      linarith
    · exact .inr ⟨by decide, by linarith⟩
  · rw [hhalf, hq']
    left
    push_cast
    linarith

/-- Whichever way the rest after 53 bits is rounded, the outcome is a double again. -/
theorem exists_roundsTo_of_cut (hv : v / 2 ^ e = q + t) (ht : 0 ≤ t) (ht' : t < 1)
    (hq : 2 ^ 52 ≤ q) (hq' : q < 2 ^ 53) (he : -1074 ≤ e) (he' : e + 1 ≤ 971) :
    ∃ m e', Canonical m e' ∧ RoundsTo v m e' := by
  by_cases hdown : t < 1 / 2 ∨ q % 2 = 0 ∧ t = 1 / 2
  · exact ⟨q, e, ⟨by omega, hq', he, by omega, .inl hq⟩, .of_cut hv ht hdown⟩
  · have hup : 1 / 2 < t ∨ (q + 1) % 2 = 0 ∧ t = 1 / 2 := by
      rcases lt_trichotomy t (1 / 2) with hlt | heq | hgt
      · exact absurd (.inl hlt) hdown
      · have hodd : ¬ q % 2 = 0 := fun heven => hdown (.inr ⟨heven, heq⟩)
        exact .inr ⟨by omega, heq⟩
      · exact .inl hgt
    by_cases hcarry : q + 1 = 2 ^ 53
    · have hhalf : 1 / 2 ≤ t := by
        rcases hup with hlt | ⟨-, heq⟩
        · exact hlt.le
        · exact heq.ge
      exact ⟨2 ^ 52, e + 1, ⟨by decide, by decide, by omega, he', .inl le_rfl⟩,
        .of_carry hv ht' hcarry hhalf he⟩
    · exact ⟨q + 1, e, ⟨by omega, by omega, he, by omega, .inl (by omega)⟩,
        .of_cut_succ hv ht' hq hup⟩

end Cut

/-- Every whole number that is not too great has a nearest double. -/
theorem exists_roundsTo {n : ℕ} (hpos : 0 < n) (hlog : n.log2 < 1023) :
    ∃ m e, Canonical m e ∧ RoundsTo n m e := by
  rcases Nat.lt_or_ge n (2 ^ 53) with hsmall | hlarge
  · have hexact := RoundsTo.of_eq (n * 2 ^ (52 - n.log2)) ((n.log2 : ℤ) - 52)
    rw [shifted_value ((Nat.log2_lt hpos.ne').2 hsmall)] at hexact
    exact ⟨_, _, canonical_of_lt hpos hsmall, hexact⟩
  · obtain ⟨k, hk⟩ := Nat.exists_eq_add_of_le
      ((show 52 ≤ 53 by decide).trans ((Nat.le_log2 hpos.ne').2 hlarge))
    have hunit := Nat.two_pow_pos k
    have hlow : 2 ^ k * 2 ^ 52 ≤ n := by
      rw [mul_comm, ← pow_add, ← hk]
      exact Nat.log2_self_le hpos.ne'
    have hhigh : n < 2 ^ k * 2 ^ 53 := by
      have hexponent : 53 + k = n.log2 + 1 := by omega
      rw [mul_comm, ← pow_add, hexponent]
      exact Nat.lt_log2_self
    have hvalue : (n : ℚ) / 2 ^ (k : ℤ) = (n / 2 ^ k : ℕ) + (n % 2 ^ k : ℕ) / 2 ^ k := by
      rw [zpow_natCast, div_eq_iff (by positivity), add_mul, div_mul_cancel₀ _ (by positivity)]
      exact_mod_cast (Nat.div_add_mod' n (2 ^ k)).symm
    have hrest : ((n % 2 ^ k : ℕ) : ℚ) / 2 ^ k < 1 := by
      rw [div_lt_one (by positivity)]
      exact_mod_cast Nat.mod_lt n hunit
    exact exists_roundsTo_of_cut hvalue (by positivity) hrest
      ((Nat.le_div_iff_mul_le hunit).2 (by rwa [mul_comm])) (Nat.div_lt_of_lt_mul hhigh)
      (by omega) (by omega)

/-! ## The size of the outcome -/

theorem roundedMantissa_le (em : ExtendedMantissa) : em.roundedMantissa ≤ em.mantissa + 1 := by
  obtain ⟨m, round, sticky⟩ := em
  cases round <;> cases sticky <;>
    simp only [ExtendedMantissa.roundedMantissa, ExtendedMantissa.accuracy,
      Accuracy.roundToNearestEven] <;> omega

theorem mantissa_ofMantissaAndAccuracy (M : ℕ) (acc : Accuracy) :
    (ExtendedMantissa.ofMantissaAndAccuracy M acc).mantissa = M := by
  unfold ExtendedMantissa.ofMantissaAndAccuracy
  split <;> rfl

theorem mantissa_shiftRight_le (em : ExtendedMantissa) (k : ℕ) :
    (em >>> k).mantissa ≤ em.mantissa := by
  induction k with
  | zero => exact le_refl _
  | succ k ih =>
    have : (em >>> (k + 1)).mantissa = (em >>> k).mantissa / 2 := rfl
    omega

theorem shiftToTargetExponent_bounds {em : ExtendedMantissa} {e' : ℤ}
    (h : shiftToTargetExponent Format.binary64 M E acc = (em, e')) :
    em.mantissa ≤ M ∧ e' = max E (max (totalExponent M E - 53) (-1074)) := by
  obtain ⟨rfl, rfl⟩ := Prod.mk.inj h
  have hshifted := mantissa_shiftRight_le (.ofMantissaAndAccuracy M acc)
    (Format.binary64.targetExponent (totalExponent M E) - E).toNat
  rw [mantissa_ofMantissaAndAccuracy] at hshifted
  refine ⟨hshifted, ?_⟩
  rw [targetExponent_eq]
  omega

/-- Rounding makes no infinite number, and adds little to the exponent. -/
theorem roundWithAccuracy_cases (M : ℕ) (E : ℤ) (acc : Accuracy) (s : Sign) :
    roundWithAccuracy Format.binary64 s M E acc = .zero s ∨
      ∃ m e h, roundWithAccuracy Format.binary64 s M E acc = .finite s m e h ∧
        e ≤ max E (-1074) + 2 * (M.log2 + 1) := by
  unfold roundWithAccuracy
  generalize hfirst : shiftToTargetExponent Format.binary64 M E acc = first
  obtain ⟨em, e₁⟩ := first
  simp only
  generalize hsecond : shiftToTargetExponent Format.binary64 em.roundedMantissa e₁ .exact = second
  obtain ⟨em₂, e₂⟩ := second
  simp only
  by_cases hzero : em₂.mantissa = 0
  · exact .inl (dif_pos hzero)
  · refine .inr ⟨_, _, Nat.pos_of_ne_zero hzero, dif_neg hzero, ?_⟩
    obtain ⟨hle, rfl⟩ := shiftToTargetExponent_bounds hfirst
    obtain ⟨-, rfl⟩ := shiftToTargetExponent_bounds hsecond
    have hrounded := roundedMantissa_le em
    have hlog : em.roundedMantissa.log2 ≤ M.log2 + 1 := by
      have hM : M < 2 ^ (M.log2 + 1) := Nat.lt_log2_self
      have hlt : em.roundedMantissa < 2 ^ (M.log2 + 2) := by
        rw [pow_succ]
        omega
      by_cases hR : em.roundedMantissa = 0
      · simp [hR]
      · have := (Nat.log2_lt hR).2 hlt
        omega
    unfold totalExponent
    omega

theorem unpack_pack_roundWithAccuracy_ne_infinity (s s' : Sign)
    (h : max E (-1074) + 2 * (M.log2 + 1) ≤ 971) :
    (Float.Model.pack (roundWithAccuracy Format.binary64 s M E acc)).unpack ≠ .infinity s' := by
  rcases roundWithAccuracy_cases M E acc s with hzero | ⟨m, e, hpos, hfinite, he⟩
  · rw [hzero, Packed.unpack_pack_zero]
    exact nofun
  · rw [hfinite]
    exact Packed.unpack_pack_ne_infinity hpos (by omega) _ _

end Rounding

end ImageOverlay
