import ImageOverlay.Proofs.Json.Reading
import ImageOverlay.Proofs.Number.Range

set_option autoImplicit false

/-!
# Numbers that are scaled

The reading that multiplies digits by a power of ten, or divides them, rounds more than once
(`NumberReading.scaled`), so it may miss a double that was written. But it never takes one for too
large (`NumberReading.scaled_accepts`). It takes no more digits than there are (`taken_le`), and a
quotient is no greater than they. A product is finite if its exact value is no more than halfway
between the two greatest doubles, for each of the 309 powers of ten (`isFinite_product`). So it is
for all doubles but the greatest, which is read back.
-/

namespace ImageOverlay.NumberReading

open Decimal (toNat_nil toNat_cons toNat_append)
open Rounding

/-! ## Digits that are taken -/

section Digits

variable {m n : ℕ} {cs rest whole more fraction ignored : List Char}

theorem takeDigits_cons (m : ℕ) (c : Char) (cs : List Char) :
    takeDigits m (c :: cs)
      = if m * 10 + Decimal.toNat [c] < 2 ^ 64 then takeDigits (m * 10 + Decimal.toNat [c]) cs
        else (m, c :: cs) := by
  have hdigit : Decimal.toNat [c] = (Decimal.digit? c).getD 0 := by
    simp [Decimal.toNat, Decimal.ofDigits]
  rw [takeDigits, hdigit]
  rfl

/-- Digits are taken up to one that does not fit any more. -/
theorem takeDigits_eq (h : takeDigits m cs = (n, rest)) :
    ∃ taken, cs = taken ++ rest ∧ n = m * 10 ^ taken.length + Decimal.toNat taken ∧
      ∀ c ∈ rest.head?, 2 ^ 64 ≤ n * 10 + Decimal.toNat [c] := by
  induction cs generalizing m with
  | nil =>
      obtain ⟨rfl, rfl⟩ := Prod.mk.inj h
      exact ⟨[], rfl, by simp [toNat_nil], nofun⟩
  | cons c cs ih =>
      rw [takeDigits_cons] at h
      split at h
      · obtain ⟨taken, rfl, rfl, hrest⟩ := ih h
        refine ⟨c :: taken, rfl, ?_, hrest⟩
        rw [toNat_cons c taken, List.length_cons]
        ring
      · rename_i hfull
        obtain ⟨rfl, rfl⟩ := Prod.mk.inj h
        refine ⟨[], rfl, by simp [toNat_nil], ?_⟩
        rintro _ ⟨⟩
        exact not_lt.1 hfull

theorem takeDigits_lt (h : takeDigits m cs = (n, rest)) (hm : m < 2 ^ 64) : n < 2 ^ 64 := by
  induction cs generalizing m with
  | nil =>
      obtain ⟨rfl, -⟩ := Prod.mk.inj h
      exact hm
  | cons c cs ih =>
      rw [takeDigits_cons] at h
      split at h
      · exact ih h ‹_›
      · obtain ⟨rfl, -⟩ := Prod.mk.inj h
        exact hm

/-- The digits that are taken write no more than all of them, with zeros for the others. -/
theorem taken_le (hwhole : takeDigits 0 whole = (m, more))
    (hfraction : takeDigits m fraction = (n, ignored)) :
    n * 10 ^ (more.length + ignored.length) ≤ Decimal.toNat (whole ++ fraction) := by
  have hn : n < 2 ^ 64 := takeDigits_lt hfraction (takeDigits_lt hwhole (by norm_num))
  obtain ⟨first, rfl, rfl, hfull⟩ := takeDigits_eq hwhole
  obtain ⟨taken, rfl, rfl, -⟩ := takeDigits_eq hfraction
  simp only [zero_mul, zero_add] at hn hfull ⊢
  generalize hvalue : Decimal.toNat first * 10 ^ taken.length + Decimal.toNat taken = n at hn ⊢
  cases more with
  | nil =>
      calc n * 10 ^ ([].length + ignored.length)
          = Decimal.toNat (first ++ taken) * 10 ^ ignored.length := by
            rw [toNat_append, hvalue, List.length_nil, Nat.zero_add]
        _ ≤ Decimal.toNat (first ++ [] ++ (taken ++ ignored)) := by
            rw [List.append_nil, ← List.append_assoc, toNat_append (first ++ taken)]
            exact Nat.le_add_right _ _
  | cons c more =>
      -- The digit that does not fit makes up for all that come after it.
      have hc : 2 ^ 64 ≤ Decimal.toNat (first ++ [c]) := by
        rw [toNat_append]
        exact hfull c rfl
      have hall : Decimal.toNat (first ++ [c]) * 10 ^ (more.length + (taken ++ ignored).length)
          ≤ Decimal.toNat (first ++ c :: more ++ (taken ++ ignored)) := by
        have hsplit : first ++ c :: more ++ (taken ++ ignored)
            = first ++ [c] ++ (more ++ (taken ++ ignored)) := by simp
        rw [hsplit, toNat_append (first ++ [c]), ← List.length_append]
        exact Nat.le_add_right _ _
      refine le_trans ?_ hall
      rw [List.length_cons, List.length_append]
      cases taken with
      | nil =>
          have hten : n * 10 ≤ Decimal.toNat (first ++ [c]) := by
            rw [toNat_append, ← hvalue, toNat_nil, List.length_nil]
            simp
          calc n * 10 ^ (more.length + 1 + ignored.length)
              = n * 10 * 10 ^ (more.length + ([].length + ignored.length)) := by
                rw [List.length_nil]
                ring
            _ ≤ _ := Nat.mul_le_mul_right _ hten
      | cons d taken =>
          refine Nat.mul_le_mul (hn.le.trans hc) (Nat.pow_le_pow_right (by norm_num) ?_)
          rw [List.length_cons]
          omega

end Digits

/-! ## Whole numbers -/

section Whole

open Decimal (magnitude)

variable {n : ℕ}

theorem abs_rational_double {m : ℕ} {e : ℤ} (hc : Canonical m e) (negative : Bool) :
    |rational (hc.double negative)| = m * 2 ^ e := by
  show |Packed.value (Float.Model.pack (.finite (signOf negative) m e hc.pos)).unpack| = _
  rw [Packed.unpack_pack hc, abs_value_finite]

/-- Whole numbers are rounded to no more than a double that they are not half a unit above. -/
theorem within_magnitude {N : ℕ} {e : ℤ} (hN : 2 ^ 52 ≤ N) (hN' : N < 2 ^ 53) (he : -1074 ≤ e)
    (he' : e ≤ 971) (hn : n < 2 ^ 64) (hlt : (n : ℚ) < (N + 1 / 2) * 2 ^ e) :
    Within (magnitude n 0) (N * 2 ^ e) := by
  rcases Nat.eq_zero_or_pos n with rfl | hpos
  · exact within_zero .positive (by positivity)
  · have hlog : n.log2 < 64 := (Nat.log2_lt hpos.ne').2 hn
    obtain ⟨m', e', hc', hrounds'⟩ := exists_roundsTo hpos (by omega)
    have hliteral : RoundsTo (n * 10 ^ (0 : ℤ)) m' e' := by
      rwa [zpow_zero, mul_one]
    have hround := rounds_round hpos.ne' 0 .positive
    rw [zpow_zero, mul_one] at hround
    have hwithin := hround.within hN hN' he he' hlt
    -- There is only one nearest double, so the literal is what the number is rounded to.
    rw [hround.eq hc' hrounds'] at hwithin
    rw [Decimal.magnitude_eq hc' hliteral]
    exact hwithin

/-- Rounding keeps the order of whole numbers. -/
theorem within_magnitude_of_le {top m : ℕ} {e : ℤ} (hc : Canonical m e)
    (hrounds : RoundsTo top m e) (hnormal : 2 ^ 52 ≤ m)
    (hvalue : magnitude top 0 = hc.double false) (htop : top < 2 ^ 64) (hle : n ≤ top) :
    Within (magnitude n 0) (m * 2 ^ e) := by
  rcases hle.eq_or_lt with rfl | hlt
  · rw [hvalue]
    exact within_finite hc _ le_rfl
  · have hn : (n : ℚ) < top := by exact_mod_cast hlt
    have htop' := (div_le_iff₀ (two_zpow_pos e)).1 hrounds.le_add
    exact within_magnitude hnormal hc.lt hc.min hc.max (hlt.trans htop) (hn.trans_le htop')

theorem within_digits (hn : n < 2 ^ 64) : Within (magnitude n 0) (2 ^ (64 : ℤ)) := by
  rw [← digits_mul_two_zpow 64]
  refine within_magnitude le_rfl (by norm_num) (by norm_num) (by norm_num) hn ?_
  refine lt_trans ?_ (two_zpow_lt_digits 64)
  exact_mod_cast hn

end Whole

/-! ## Products -/

section Products

open Decimal (magnitude)

variable {n : ℕ}

/-- Halfway between the two greatest doubles. -/
@[irreducible]
def limit : ℕ := (2 ^ 54 - 3) * 2 ^ 970

/-- It has 309 digits. -/
theorem limit_lt {k : ℕ} (hk : 308 < k) : limit < 10 ^ k := by
  have hlog : Nat.log 10 limit = 308 := by decide +kernel
  exact Nat.lt_pow_of_log_lt (by norm_num) (hlog.trans_lt hk)

theorem cast_limit : (limit : ℚ) = (2 ^ 54 - 3) * 2 ^ (970 : ℤ) := by
  unfold limit
  rw [Nat.cast_mul, Nat.cast_pow, Nat.cast_ofNat, ← zpow_natCast]
  norm_num

/-- The most that 64 bits of digits may write before a power of ten. -/
def top (k : ℕ) : ℕ := min (2 ^ 64 - 1) (limit / 10 ^ k)

/-- The digits and the exponent of the double nearest to a whole number, for `fits` to look up. -/
def rounded (n : ℕ) : ℕ × ℤ :=
  let s := (n <<< 64).log2 - 52
  let m := (n <<< 64) / 2 ^ s
  let rest := (n <<< 64) % 2 ^ s
  let m := if 2 ^ s < 2 * rest ∨ 2 ^ s = 2 * rest ∧ m % 2 = 1 then m + 1 else m
  if m = 2 ^ 53 then (2 ^ 52, s - 63) else (m, s - 64)

/-- Digits and an exponent that a double keeps, and that a decimal is rounded to. -/
def isRounded (d : ShortDecimal) (m : ℕ) (e : ℤ) : Bool :=
  2 ^ 52 ≤ m ∧ m < 2 ^ 53 ∧ -1074 ≤ e ∧ e ≤ 971 ∧ ShortDecimal.readsBack m e d

/-- The power of ten is no less than one, and the greatest product with it is rounded to a finite
double. -/
def fits (k : ℕ) : Bool :=
  let (m, e) := rounded (top k)
  let (m', e') := rounded (10 ^ k)
  isRounded ⟨top k, 0⟩ m e ∧ isRounded ⟨1, k⟩ m' e' ∧
    ShortDecimal.compareScaled 1 0 m' e' ≠ .gt ∧
      ShortDecimal.compareScaled (2 ^ 54 - 1) 0 (m * m') (e + e' - 970) = .gt

theorem fits_of_lt : ∀ k < 309, fits k = true := by decide +kernel

theorem exists_double {d : ShortDecimal} {m : ℕ} {e : ℤ} (h : isRounded d m e = true) :
    ∃ hc : Canonical m e, 2 ^ 52 ≤ m ∧ RoundsTo d.value m e ∧
      magnitude d.digits d.exp = hc.double false := by
  obtain ⟨hlow, hhigh, hmin, hmax, hreads⟩ := of_decide_eq_true h
  have hc : Canonical m e := ⟨by omega, hhigh, hmin, hmax, .inl hlow⟩
  have hrounds := ShortDecimal.roundsTo_of_readsBack hc.pos hreads
  exact ⟨hc, hlow, hrounds, Decimal.magnitude_eq hc hrounds⟩

/-- What the digits and the power of ten are rounded to; their product is still a double. -/
theorem exists_bounds {k : ℕ} (hk : k ≤ 308) : ∃ a b : ℚ,
    (∀ n ≤ top k, Within (magnitude n 0) a) ∧ Within (magnitude 1 k) b ∧
      1 ≤ |rational (magnitude 1 k)| ∧ a * b < ((2 ^ 53 - 1 : ℕ) + 1 / 2) * 2 ^ (971 : ℤ) := by
  have hfits := fits_of_lt k (by omega)
  rcases hm : rounded (top k) with ⟨m, e⟩
  rcases hm' : rounded (10 ^ k) with ⟨m', e'⟩
  rw [fits, hm, hm'] at hfits
  obtain ⟨hdigits, hten, hone, hprod⟩ := of_decide_eq_true hfits
  obtain ⟨hc, hnormal, hrounds, hvalue⟩ := exists_double hdigits
  obtain ⟨hc', -, -, hvalue'⟩ := exists_double hten
  rw [ShortDecimal.compareScaled_eq, Ne, compare_gt_iff_gt, not_lt] at hone
  rw [ShortDecimal.compareScaled_eq, compare_gt_iff_gt] at hprod
  have htop : top k < 2 ^ 64 := by
    have hle : top k ≤ 2 ^ 64 - 1 := min_le_left _ _
    omega
  have hrounds : RoundsTo (top k) m e := by
    simpa [ShortDecimal.value] using hrounds
  -- The order is kept, so what holds of the greatest product holds of all of them.
  refine ⟨m * 2 ^ e, m' * 2 ^ e',
    fun n hn => within_magnitude_of_le hc hrounds hnormal hvalue htop hn, ?_, ?_, ?_⟩
  · rw [hvalue']
    exact within_finite hc' _ le_rfl
  · rw [hvalue', abs_rational_double]
    simpa using hone
  · have hunit := two_zpow_pos 970
    rw [zpow_sub₀ two_ne_zero, zpow_add₀ two_ne_zero, ← mul_div_assoc, div_lt_iff₀ hunit] at hprod
    have hdouble : (2 : ℚ) ^ (971 : ℤ) = 2 * 2 ^ (970 : ℤ) := zpow_one_add₀ two_ne_zero 970
    rw [hdouble]
    generalize (2 : ℚ) ^ (970 : ℤ) = t at hprod ⊢
    push_cast at hprod ⊢
    linarith

/-- The product with a power of ten is finite if it is no more than `limit`. -/
theorem isFinite_product {k : ℕ} (hk : k ≤ 308) (hn : n < 2 ^ 64) (hle : n * 10 ^ k ≤ limit) :
    (magnitude n 0 * magnitude 1 k).isFinite = true := by
  obtain ⟨a, b, hdigits, hten, -, hprod⟩ := exists_bounds hk
  have htop : n ≤ top k := by
    refine le_min (by omega) ?_
    rwa [Nat.le_div_iff_mul_le (by positivity)]
  exact ((hdigits n htop).mul (by norm_num) (by norm_num) (by norm_num) (by norm_num) hten
    hprod).isFinite

end Products

/-! ## Quotients -/

section Quotients

open Decimal (magnitude)

variable {x : Float}

/-- A quotient by a power of ten is no greater. -/
theorem within_quotient {k : ℕ} (hk : k ≤ 308) (hx : Within x (2 ^ (64 : ℤ))) :
    Within (x / magnitude 1 k) (2 ^ (64 : ℤ)) := by
  obtain ⟨a, b, -, hten, hone, -⟩ := exists_bounds hk
  have hbound := two_zpow_lt_digits 64
  rw [← div_one (2 ^ (64 : ℤ))] at hbound
  rw [← digits_mul_two_zpow 64]
  exact hx.div le_rfl (by norm_num) (by norm_num) (by norm_num) hten one_pos hone hbound

theorem within_shrink (times : ℕ) (hx : Within x (2 ^ (64 : ℤ))) :
    Within (shrink times x) (2 ^ (64 : ℤ)) := by
  induction times generalizing x with
  | zero => exact hx
  | succ times ih =>
      unfold shrink
      split
      · exact hx
      · exact ih (within_quotient le_rfl hx)

end Quotients

/-! ## Numbers that are read -/

section Reading

variable {n : ℕ}

/-- Digits times or over a power of ten are finite if their exact value is no more than `limit`. -/
theorem isFinite_scale {e : ℤ} (hn : n < 2 ^ 64) (hle : (n : ℚ) * 10 ^ e ≤ limit) :
    (scale n e).isFinite = true := by
  unfold scale
  simp only
  split
  · -- All divisions but the last are by `10 ^ 308`.
    generalize htimes : (e.natAbs - 1) / 308 = times
    obtain ⟨k, hk⟩ : ∃ k : ℕ, (e.natAbs : ℤ) - 308 * times = k :=
      ⟨e.natAbs - 308 * times, by omega⟩
    rw [hk]
    exact (within_quotient (by omega) (within_shrink times (within_digits hn))).isFinite
  · split
    · obtain ⟨k, rfl⟩ := Int.eq_ofNat_of_zero_le (not_lt.1 ‹_›)
      rw [zpow_natCast] at hle
      exact isFinite_product (by omega) hn (by exact_mod_cast hle)
    · split
      · exact (within_digits hn).isFinite
      · -- There is no such power, unless the digits are all zero.
        exfalso
        obtain ⟨k, rfl⟩ := Int.eq_ofNat_of_zero_le (show 0 ≤ e by omega)
        rw [zpow_natCast] at hle
        have hle : n * 10 ^ k ≤ limit := by exact_mod_cast hle
        have hpow : 10 ^ k ≤ n * 10 ^ k := Nat.le_mul_of_pos_left _ (Nat.pos_of_ne_zero ‹_›)
        have := limit_lt (show 308 < k by omega)
        omega

/-- **A number is read as a finite double if its exact value is no more than `limit`.** -/
theorem isFinite_scaled (negative : Bool) {whole fraction : List Char} {exponent : ℤ}
    (hle : (Decimal.toNat (whole ++ fraction) : ℚ) * 10 ^ (exponent - fraction.length) ≤ limit) :
    (scaled.value negative whole fraction exponent).isFinite = true := by
  rcases hwhole : takeDigits 0 whole with ⟨m, more⟩
  rcases hfraction : takeDigits m fraction with ⟨n, ignored⟩
  have hn : n < 2 ^ 64 := takeDigits_lt hfraction (takeDigits_lt hwhole (by norm_num))
  have hscale : (scale n (exponent + more.length - (fraction.length - ignored.length))).isFinite
      = true := by
    refine isFinite_scale hn (le_trans ?_ hle)
    have hten : (0 : ℚ) < 10 ^ (exponent - fraction.length) := by positivity
    have htaken : (n : ℚ) * 10 ^ (more.length + ignored.length)
        ≤ Decimal.toNat (whole ++ fraction) := by
      exact_mod_cast taken_le hwhole hfraction
    calc (n : ℚ) * 10 ^ (exponent + more.length - (fraction.length - ignored.length))
        = n * 10 ^ (more.length + ignored.length) * 10 ^ (exponent - fraction.length) := by
          rw [mul_assoc, ← zpow_natCast, ← zpow_add₀ (by norm_num)]
          congr 2
          push_cast
          ring
      _ ≤ Decimal.toNat (whole ++ fraction) * 10 ^ (exponent - fraction.length) :=
          mul_le_mul_of_nonneg_right htaken hten.le
  unfold scaled
  simp only [hwhole, hfraction]
  split
  · exact Exact.isFinite_neg hscale
  · exact hscale

/-- What rounds to a double is no more than `limit`, unless the double is the greatest. -/
theorem le_limit {m : ℕ} {e : ℤ} {v : ℚ} (hc : Canonical m e) (hv : RoundsTo v m e)
    (h : ¬ (m = 2 ^ 53 - 1 ∧ e = 971)) : v ≤ limit := by
  refine ((div_le_iff₀ (two_zpow_pos e)).1 hv.le_add).trans ?_
  rw [cast_limit]
  have hm : (m : ℚ) + 1 ≤ 2 ^ 53 := by exact_mod_cast hc.lt
  by_cases he : e = 971
  · subst he
    have hm' : (m : ℚ) + 2 ≤ 2 ^ 53 := by
      have hlt := hc.lt
      have hne : m ≠ 2 ^ 53 - 1 := fun hm => h ⟨hm, rfl⟩
      have hnat : m + 2 ≤ 2 ^ 53 := by omega
      exact_mod_cast hnat
    have hdouble : (2 : ℚ) ^ (971 : ℤ) = 2 * 2 ^ (970 : ℤ) := zpow_one_add₀ two_ne_zero 970
    rw [hdouble, ← mul_assoc]
    refine mul_le_mul_of_nonneg_right ?_ (two_zpow_pos 970).le
    linarith
  · have hle : (2 : ℚ) ^ e ≤ 2 ^ (970 : ℤ) := by
      have := hc.max
      exact zpow_le_zpow_right₀ one_le_two (by omega)
    refine mul_le_mul ?_ hle (two_zpow_pos e).le (by norm_num)
    linarith

/-- The digits and the exponent of the greatest double. -/
theorem canonical_greatest : Canonical (2 ^ 53 - 1) 971 :=
  ⟨by norm_num, by norm_num, by norm_num, by norm_num, .inl (by norm_num)⟩

theorem restores_greatest (negative : Bool) :
    scaled.Restores (canonical_greatest.double negative) := by
  cases negative <;> decide +kernel

/-- **No double is written so that it is read as too large.** -/
theorem scaled_accepts : scaled.Accepts := by
  intro x hx
  obtain ⟨negative, n, -, hrounds, hagain, -⟩ := exists_numeral_again scaled hx
  have hread : (n.digits : ℚ) * 10 ^ n.power ≤ limit →
      ∃ y, scaled.again? x = some (.real y) := by
    intro h
    refine ⟨scaled.value negative n.whole n.fraction (n.exponent.getD 0), ?_⟩
    rw [hagain, number, if_pos (isFinite_scaled negative h)]
  rcases hrounds with hzero | ⟨m, e, hc, rfl, hv⟩
  · refine hread ?_
    rw [hzero, Nat.cast_zero, zero_mul]
    exact Nat.cast_nonneg _
  · by_cases hgreatest : m = 2 ^ 53 - 1 ∧ e = 971
    · -- Its digits write more than `limit`, but they are rounded down first.
      obtain ⟨rfl, rfl⟩ := hgreatest
      exact ⟨_, restores_greatest negative⟩
    · exact hread (le_limit hc hv hgreatest)

end Reading

end ImageOverlay.NumberReading
