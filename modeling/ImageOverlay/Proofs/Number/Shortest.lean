import ImageOverlay.Proofs.Number.Rounding
import ImageOverlay.Number.Shortest

set_option autoImplicit false

/-!
# The shortest decimal reads back

The decimal that stands for a double is found by a search that accepts a candidate if it lies in the
interval of the numbers that round to the double. The test is one of whole numbers
(`ShortDecimal.compareScaled_eq`); what it says of the numbers themselves is
`ShortDecimal.roundsTo_of_readsBack`. Whichever candidate the search ends with, and also where it
finds none, the decimal rounds to the double it was made from (`ShortDecimal.ofScaled_roundsTo`).
-/

namespace ImageOverlay

namespace ShortDecimal

open Rounding

variable {m : ℕ} {e : ℤ} {d : ShortDecimal}

/-- The number a decimal stands for. -/
def value (d : ShortDecimal) : ℚ := d.digits * 10 ^ d.exp

/-! ## Comparing with whole numbers -/

theorem zpow_mul_pow_neg {b : ℚ} (hb : b ≠ 0) (i : ℤ) : b ^ i * b ^ (-i).toNat = b ^ i.toNat := by
  rw [← zpow_natCast, ← zpow_natCast, ← zpow_add₀ hb]
  congr 1
  omega

/-- Both sides are brought to whole numbers by one factor. -/
theorem compareScaled_eq (a : ℕ) (i : ℤ) (n : ℕ) (j : ℤ) :
    compareScaled a i n j = compare (a * 10 ^ i : ℚ) (n * 2 ^ j) := by
  have hfactor : (0 : ℚ) < 10 ^ (-i).toNat * 2 ^ (-j).toNat := by positivity
  have hleft : ((a * Nat.pow 10 i.toNat * Nat.pow 2 (-j).toNat : ℕ) : ℚ)
      = a * 10 ^ i * (10 ^ (-i).toNat * 2 ^ (-j).toNat) := by
    push_cast [Nat.pow_eq]
    rw [← zpow_mul_pow_neg (by norm_num) i]
    ring
  have hright : ((n * Nat.pow 2 j.toNat * Nat.pow 10 (-i).toNat : ℕ) : ℚ)
      = n * 2 ^ j * (10 ^ (-i).toNat * 2 ^ (-j).toNat) := by
    push_cast [Nat.pow_eq]
    rw [← zpow_mul_pow_neg two_ne_zero j]
    ring
  unfold compareScaled
  generalize a * Nat.pow 10 i.toNat * Nat.pow 2 (-j).toNat = x at hleft
  generalize n * Nat.pow 2 j.toNat * Nat.pow 10 (-i).toNat = y at hright
  rcases lt_trichotomy x y with h | h | h
  · have hlt : (x : ℚ) < y := by exact_mod_cast h
    rw [hleft, hright, mul_lt_mul_iff_of_pos_right hfactor] at hlt
    rw [compare_lt_iff_lt.2 h, compare_lt_iff_lt.2 hlt]
  · have heq : (x : ℚ) = y := by exact_mod_cast h
    rw [hleft, hright, mul_left_inj' hfactor.ne'] at heq
    rw [compare_eq_iff_eq.2 h, compare_eq_iff_eq.2 heq]
  · have hgt : (y : ℚ) < x := by exact_mod_cast h
    rw [hleft, hright, mul_lt_mul_iff_of_pos_right hfactor] at hgt
    rw [compare_gt_iff_gt.2 h, compare_gt_iff_gt.2 hgt]

/-! ## The test -/

/-- A decimal that passes the test rounds to the double. -/
theorem roundsTo_of_readsBack (hm : 0 < m) (h : readsBack m e d = true) :
    RoundsTo d.value m e := by
  have hquarter : (2 : ℚ) ^ (e - 2) = 2 ^ e / 4 := by
    rw [zpow_sub₀ two_ne_zero]
    norm_num
  have hlow : ((if m = Nat.pow 2 52 ∧ -1074 < e then 4 * m - 1 else 4 * m - 2 : ℕ) : ℚ)
      * 2 ^ (e - 2) = (m - gapBelow m e) * 2 ^ e := by
    rw [hquarter]
    unfold gapBelow
    split
    · rw [if_pos ‹_›, Nat.cast_sub (by omega)]
      push_cast
      ring
    · rw [if_neg ‹_›, Nat.cast_sub (by omega)]
      push_cast
      ring
  have hhigh : ((4 * m + 2 : ℕ) : ℚ) * 2 ^ (e - 2) = (m + 1 / 2) * 2 ^ e := by
    rw [hquarter]
    push_cast
    ring
  have hpos := two_zpow_pos e
  unfold readsBack at h
  simp only [compareScaled_eq, hlow, hhigh, compare_gt_iff_gt, compare_eq_iff_eq,
    compare_lt_iff_lt, decide_eq_true_eq] at h
  obtain ⟨hl, hh⟩ := h
  constructor
  · rw [lt_div_iff₀ hpos, div_eq_iff hpos.ne']
    exact hl
  · rw [div_lt_iff₀ hpos, div_eq_iff hpos.ne']
    exact hh

/-! ## The search -/

theorem readsBack_of_onGrid {tie : Tie} {g : ℤ} (h : onGrid tie m e g = some d) :
    readsBack m e d = true := by
  unfold onGrid at h
  generalize neighbours m e g = found at h
  obtain ⟨low, high⟩ := found
  simp only at h
  split at h
  · rename_i hlow hhigh
    split at h
    · cases h
      exact hlow
    · cases h
      exact hhigh
    · split at h <;> cases h
      · exact hlow
      · exact hhigh
  · rename_i hlow _
    cases h
    exact hlow
  · rename_i _ hhigh
    cases h
    exact hhigh
  · cases h

/-- A zero at the end may as well stand in the exponent. -/
theorem strip_value (fuel : ℕ) (d : ShortDecimal) : (strip fuel d).value = d.value := by
  induction fuel generalizing d with
  | zero => rfl
  | succ fuel ih =>
      unfold strip
      split
      · rename_i hzero
        have hdigits : (d.digits : ℚ) = (d.digits / 10 : ℕ) * 10 := by
          have := Nat.div_add_mod d.digits 10
          have hexact : d.digits = d.digits / 10 * 10 := by omega
          exact_mod_cast hexact
        rw [ih, value, value, hdigits, zpow_add_one₀ (by norm_num)]
        ring
      · rfl

/-- The exact value, with a power of ten in place of one of two. -/
theorem exact_value (m : ℕ) (e : ℤ) :
    value ⟨m * Nat.pow 2 e.toNat * Nat.pow 5 (-e).toNat, -((-e).toNat : ℤ)⟩ = m * 2 ^ e := by
  have hten : (10 : ℚ) ^ (-e).toNat = 2 ^ (-e).toNat * 5 ^ (-e).toNat := by
    rw [← mul_pow]
    norm_num
  have hpos : (0 : ℚ) < 5 ^ (-e).toNat := by positivity
  unfold value
  push_cast [Nat.pow_eq]
  rw [← zpow_mul_pow_neg two_ne_zero e, zpow_neg, zpow_natCast, hten]
  field_simp

/-- **The shortest decimal rounds to its double.** -/
theorem ofScaled_roundsTo (tie : Tie) (hc : Canonical m e) :
    RoundsTo (ofScaled tie m e).value m e := by
  unfold ofScaled
  rw [strip_value]
  generalize hsearch : (List.range 17).findSome? _ = found
  cases found with
  | none =>
      rw [Option.getD_none, exact_value]
      exact RoundsTo.of_eq m e
  | some d =>
      obtain ⟨n, -, hgrid⟩ := List.exists_of_findSome?_eq_some hsearch
      exact roundsTo_of_readsBack hc.pos (readsBack_of_onGrid hgrid)

/-- The shortest decimal of a double has a digit that is not zero. -/
theorem ofScaled_digits_ne_zero (tie : Tie) (hc : Canonical m e) :
    (ofScaled tie m e).digits ≠ 0 := by
  intro hzero
  have hpos := (ofScaled_roundsTo tie hc).pos hc
  rw [value, hzero, Nat.cast_zero, zero_mul] at hpos
  exact lt_irrefl 0 hpos

end ShortDecimal

end ImageOverlay
