import ImageOverlay.Proofs.Number.Equality
import ImageOverlay.Proofs.Number.Literal

set_option autoImplicit false

/-!
# How far arithmetic reaches

A result of arithmetic is rounded, and it may be infinite. What is less than half a unit of the last
digit above a double is rounded to no more than that double (`Rounds.within`), so a bound on the
exact result is a bound on the rounded one. `Within x b` says that `x` is finite and its size at
most `b`; there is one lemma for each operation, and the bounds are doubles `N · 2^e` of 53 digits.
-/

namespace ImageOverlay

open Float.Model Float.Model.UnpackedFloat

namespace Rounding

/-! ## Rounding keeps below a double -/

theorem roundedMantissa_near {em : ExtendedMantissa} {u : ℚ} (h : Describes em u) :
    em.roundedMantissa ≤ u + 1 / 2 ∧ u ≤ em.roundedMantissa + 1 / 2 := by
  obtain ⟨m, round, sticky⟩ := em
  unfold Describes at h
  cases round <;> cases sticky <;>
    simp only [ExtendedMantissa.roundedMantissa, ExtendedMantissa.accuracy,
      Accuracy.roundToNearestEven, reduceIte, Bool.false_eq_true, add_zero] at h ⊢
  · constructor <;> linarith
  · constructor <;> linarith
  · rcases Nat.mod_two_eq_zero_or_one m with hr | hr <;> rw [hr] <;> push_cast <;>
      constructor <;> linarith
  · push_cast
    constructor <;> linarith

/-- How a number is rounded: `r` is a whole number next to `v / 2^t`, and that has 53 digits, or
fewer at the least exponent. -/
structure RoundedAt (v : ℚ) (r : ℕ) (t : ℤ) : Prop where
  min : -1074 ≤ t
  le_add : r ≤ v / 2 ^ t + 1 / 2
  sub_le : v / 2 ^ t ≤ r + 1 / 2
  lt : v / 2 ^ t < 2 ^ 53
  normal : 2 ^ 52 ≤ v / 2 ^ t ∨ t = -1074

/-- A number of a sign and a size, with its digits as doubles keep them. -/
inductive Sized (s : Sign) (q : ℚ) : UnpackedFloat → Prop
  | zero (hq : q = 0) : Sized s q (.zero s)
  | finite {m : ℕ} {e : ℤ} (hpos : 0 < m) (hq : m * 2 ^ e = q) (hlt : m < 2 ^ 53)
      (hmin : -1074 ≤ e) (hnormal : 2 ^ 52 ≤ m ∨ e = -1074) : Sized s q (.finite s m e hpos)

variable {m M r N : ℕ} {e E t e₀ : ℤ} {v q : ℚ} {acc : Accuracy} {s : Sign} {u : UnpackedFloat}

theorem RoundedAt.le (h : RoundedAt v r t) : r ≤ 2 ^ 53 := by
  have hle := h.le_add
  have hlt := h.lt
  have : (r : ℚ) < 2 ^ 53 + 1 := by linarith
  norm_cast at this
  omega

theorem RoundedAt.digits (h : RoundedAt v r t) : 2 ^ 52 ≤ r ∨ t = -1074 := by
  refine h.normal.imp_left fun hnormal => ?_
  have hsub := h.sub_le
  have : (2 : ℚ) ^ 52 < r + 1 := by linarith
  norm_cast at this
  omega

theorem exists_roundedAt (h : Describes (.ofMantissaAndAccuracy M acc) (v / 2 ^ E))
    (hE : E ≤ Format.binary64.targetExponent (totalExponent M E)) :
    ∃ em t r, shiftToTargetExponent Format.binary64 M E acc = (em, t) ∧ em.roundedMantissa = r ∧
      RoundedAt v r t := by
  obtain ⟨em, hshift, hem⟩ := shiftToExponent_eq h hE
  have hnear := roundedMantissa_near hem
  have hlt := lt_two_zpow_totalExponent h
  refine ⟨em, _, _, hshift, rfl, ?_, hnear.1, hnear.2, ?_, ?_⟩
  · rw [targetExponent_eq]
    exact le_max_right _ _
  · rw [← lt_two_zpow_iff]
    refine hlt.trans_le (zpow_le_zpow_right₀ one_le_two ?_)
    rw [targetExponent_eq]
    omega
  · by_cases ht : Format.binary64.targetExponent (totalExponent M E) = -1074
    · exact .inr ht
    · left
      rw [targetExponent_eq] at *
      have hM : M ≠ 0 := by
        rintro rfl
        have : totalExponent 0 E = 1 + E := rfl
        omega
      have hle := two_zpow_totalExponent_le hM h
      rw [← two_zpow_le_iff]
      refine le_trans (zpow_le_zpow_right₀ one_le_two ?_) hle
      push_cast
      omega

theorem shiftToTargetExponent_of_lt (hpos : 0 < r) (hr : r < 2 ^ 53) (ht : -1074 ≤ t) :
    shiftToTargetExponent Format.binary64 r t .exact = (⟨r, false, false⟩, t) := by
  have hlog : r.log2 < 53 := (Nat.log2_lt hpos.ne').2 hr
  have htarget : (Format.binary64.targetExponent (totalExponent r t) - t).toNat = 0 := by
    rw [targetExponent_eq, totalExponent]
    omega
  unfold shiftToTargetExponent shiftToExponent
  simp only [htarget, Nat.cast_zero, add_zero]
  rfl

/-- The double that a rounded number is. -/
theorem roundWithAccuracy_sized (h : Describes (.ofMantissaAndAccuracy M acc) (v / 2 ^ E))
    (hE : E ≤ Format.binary64.targetExponent (totalExponent M E)) (s : Sign) :
    ∃ r t, RoundedAt v r t ∧ Sized s (r * 2 ^ t) (roundWithAccuracy Format.binary64 s M E acc) := by
  obtain ⟨em, t, r, hshift, hem, hr⟩ := exists_roundedAt h hE
  refine ⟨r, t, hr, ?_⟩
  unfold roundWithAccuracy
  simp only [hshift, hem]
  have hmin := hr.min
  rcases Nat.eq_zero_or_pos r with rfl | hpos
  · have hbound := shiftToTargetExponent_bounds
      (Prod.eta (shiftToTargetExponent Format.binary64 0 t .exact)).symm
    rw [dif_pos (Nat.le_zero.1 hbound.1)]
    exact .zero (by simp)
  · rcases hr.le.lt_or_eq with hlt | rfl
    · simp only [shiftToTargetExponent_of_lt hpos hlt hmin, hpos.ne', dite_false]
      exact .finite hpos rfl hlt hmin hr.digits
    · have hcarry := shiftToTargetExponent_of_carry (e := t + 1) (by omega)
      rw [add_sub_cancel_right] at hcarry
      simp only [hcarry]
      refine .finite (by decide) ?_ (by decide) (by omega) (.inl le_rfl)
      rw [zpow_add_one₀ two_ne_zero]
      push_cast
      ring

/-- What is less than half a unit above a double is rounded to no more than that double. -/
theorem RoundedAt.le_of_lt (h : RoundedAt v r t) (hN : 2 ^ 52 ≤ N) (hN' : N < 2 ^ 53)
    (he : -1074 ≤ e₀) (hv : v < (N + 1 / 2) * 2 ^ e₀) : (r : ℚ) * 2 ^ t ≤ N * 2 ^ e₀ := by
  have hunit := two_zpow_pos t
  have hunit₀ := two_zpow_pos e₀
  have hNq : (2 : ℚ) ^ 52 ≤ N := by exact_mod_cast hN
  have hNq' : (N : ℚ) + 1 ≤ 2 ^ 53 := by exact_mod_cast hN'
  rcases lt_trichotomy t e₀ with hlt | rfl | hgt
  · -- Even the carry is no more than the least number of 53 digits at the greater exponent.
    have hr : (r : ℚ) ≤ 2 ^ 53 := by exact_mod_cast h.le
    have hstep : (2 : ℚ) ^ (t + 1) ≤ 2 ^ e₀ := zpow_le_zpow_right₀ one_le_two hlt
    rw [zpow_add_one₀ two_ne_zero] at hstep
    calc (r : ℚ) * 2 ^ t ≤ 2 ^ 53 * 2 ^ t := by gcongr
      _ = 2 ^ 52 * (2 ^ t * 2) := by ring
      _ ≤ N * 2 ^ e₀ := by gcongr
  · have hquot : v / 2 ^ t < N + 1 / 2 := (div_lt_iff₀ hunit).2 hv
    have hle := h.le_add
    have hr : (r : ℚ) < N + 1 := by linarith
    norm_cast at hr
    gcongr
    omega
  · exfalso
    have hlow : 2 ^ 52 * (2 : ℚ) ^ t ≤ v := (le_div_iff₀ hunit).1 (h.normal.resolve_right (by omega))
    have hstep : (2 : ℚ) ^ (e₀ + 1) ≤ 2 ^ t := zpow_le_zpow_right₀ one_le_two hgt
    rw [zpow_add_one₀ two_ne_zero] at hstep
    have : (N + 1 / 2) * (2 : ℚ) ^ e₀ ≤ 2 ^ 52 * 2 ^ t := by
      calc (N + 1 / 2) * (2 : ℚ) ^ e₀ ≤ 2 ^ 53 * 2 ^ e₀ := by gcongr; linarith
        _ = 2 ^ 52 * (2 ^ e₀ * 2) := by ring
        _ ≤ 2 ^ 52 * 2 ^ t := by gcongr
    linarith

theorem Sized.canonical (hpos : 0 < m) (hlt : m < 2 ^ 53) (hmin : -1074 ≤ e)
    (hnormal : 2 ^ 52 ≤ m ∨ e = -1074) (hN : N < 2 ^ 53) (he : e₀ ≤ 971)
    (hle : (m : ℚ) * 2 ^ e ≤ N * 2 ^ e₀) : Canonical m e := by
  refine ⟨hpos, hlt, hmin, ?_, hnormal⟩
  by_contra hmax
  have hm : (2 : ℚ) ^ 52 ≤ m := by exact_mod_cast hnormal.resolve_right (by omega)
  have hNq : (N : ℚ) < 2 ^ 53 := by exact_mod_cast hN
  have hstep : (2 : ℚ) ^ (e₀ + 1) ≤ 2 ^ e := zpow_le_zpow_right₀ one_le_two (by omega)
  rw [zpow_add_one₀ two_ne_zero] at hstep
  have hunit₀ := two_zpow_pos e₀
  have : (N : ℚ) * 2 ^ e₀ < m * 2 ^ e := by
    calc (N : ℚ) * 2 ^ e₀ < 2 ^ 53 * 2 ^ e₀ := by gcongr
      _ = 2 ^ 52 * (2 ^ e₀ * 2) := by ring
      _ ≤ m * 2 ^ e := by gcongr
  linarith

/-- Whatever is rounded is a number with digits as doubles keep them. -/
theorem Rounds.sized (h : Rounds s v u) : ∃ r t, RoundedAt v r t ∧ Sized s (r * 2 ^ t) u := by
  obtain ⟨M, E, acc, rfl, hdescribes, hE⟩ := h
  exact roundWithAccuracy_sized hdescribes hE s

/-- A double is itself, rounded. -/
theorem rounds_canonical (hc : Canonical m e) (s : Sign) :
    Rounds s (m * 2 ^ e) (.finite s m e hc.pos) := by
  have hdigits : (m : ℚ) * 2 ^ e / 2 ^ e = m := mul_div_cancel_right₀ _ (two_zpow_pos e).ne'
  have hdescribes : Describes (.ofMantissaAndAccuracy m .exact) ((m : ℚ) * 2 ^ e / 2 ^ e) := by
    rw [hdigits]
    exact describes_exact m
  have hE : e ≤ Format.binary64.targetExponent (totalExponent m e) :=
    (targetExponent_of_canonical hc).ge
  exact ⟨m, e, .exact, (roundWithAccuracy_eq hc (.of_eq m e) hdescribes hE s).symm, hdescribes, hE⟩

end Rounding

/-! ## Doubles as rationals -/

/-- The number that a double is made of, as a rational; it is zero for what is no number. -/
def Packed.value : UnpackedFloat → ℚ
  | .finite s m e _ => s.apply (m : ℤ) * 2 ^ e
  | .zero _ | .infinity _ | .notANumber => 0

/-- The rational number that a finite double is. -/
def rational (x : Float) : ℚ := Packed.value x.toModel.unpack

/-- A double is finite and no greater than a bound, on either side of zero. -/
structure Within (x : Float) (b : ℚ) : Prop where
  isFinite : x.isFinite = true
  le : |rational x| ≤ b

open Rounding

variable {x y : Float} {a b v : ℚ} {N M : ℕ} {e e₀ E : ℤ} {s : Sign} {u : UnpackedFloat}

theorem abs_value_finite (s : Sign) {m : ℕ} (e : ℤ) (hpos : 0 < m) :
    |Packed.value (.finite s m e hpos)| = m * 2 ^ e := by
  have hsize : (0 : ℚ) ≤ m * 2 ^ e := by positivity
  cases s
  · have hvalue : Packed.value (.finite .negative m e hpos) = -(m * 2 ^ e : ℚ) := by
      simp [Packed.value, Sign.apply]
    rw [hvalue, abs_neg, abs_of_nonneg hsize]
  · have hvalue : Packed.value (.finite .positive m e hpos) = (m * 2 ^ e : ℚ) := by
      simp [Packed.value, Sign.apply]
    rw [hvalue, abs_of_nonneg hsize]

theorem float_sub_eq_add_neg (x y : Float) : x - y = x + -y := by
  show Float.ofModel (.pack (UnpackedFloat.sub Format.binary64 x.toModel.unpack y.toModel.unpack))
    = .ofModel (.pack (UnpackedFloat.add Format.binary64 x.toModel.unpack (-y).toModel.unpack))
  rw [unpack_neg]
  generalize x.toModel.unpack = u
  generalize y.toModel.unpack = v
  cases u with
  | finite s m e hpos =>
      cases v with
      | finite s' m' e' hpos' =>
          have happly : ∀ k : ℤ, (-s').apply k = -s'.apply k := by
            intro k
            cases s'
            · exact (neg_neg k).symm
            · rfl
          simp only [UnpackedFloat.sub, UnpackedFloat.add, UnpackedFloat.neg, happly]
          rfl
      | _ => rfl
  | _ => cases v <;> rfl

theorem Within.neg (h : Within x b) : Within (-x) b := by
  obtain ⟨hfinite, hle⟩ := h
  unfold rational at hle
  refine ⟨Exact.isFinite_neg hfinite, ?_⟩
  unfold rational
  rw [unpack_neg]
  cases hx : x.toModel.unpack with
  | finite s m e hpos =>
      rw [hx, abs_value_finite] at hle
      rw [UnpackedFloat.neg, abs_value_finite]
      exact hle
  | _ =>
      rw [hx] at hle
      exact hle

theorem within_zero (s : Sign) (hb : 0 ≤ b) : Within (.ofModel (.pack (.zero s))) b := by
  constructor
  · show (Float.Model.pack (.zero s)).unpack.isFinite = true
    rw [Packed.unpack_pack_zero]
    rfl
  · show |Packed.value (Float.Model.pack (.zero s)).unpack| ≤ b
    rw [Packed.unpack_pack_zero, Packed.value, abs_zero]
    exact hb

theorem within_finite {m : ℕ} (hc : Canonical m e) (s : Sign) (hb : m * 2 ^ e ≤ b) :
    Within (.ofModel (.pack (.finite s m e hc.pos))) b := by
  constructor
  · show (Float.Model.pack (.finite s m e hc.pos)).unpack.isFinite = true
    rw [Packed.unpack_pack hc]
    rfl
  · show |Packed.value (Float.Model.pack (.finite s m e hc.pos)).unpack| ≤ b
    rw [Packed.unpack_pack hc, abs_value_finite]
    exact hb

/-- What a bounded double is made of. -/
theorem Within.cases (h : Within x b) :
    (∃ s, x.toModel.unpack = .zero s) ∨
      ∃ s m e, ∃ hc : Canonical m e, x.toModel.unpack = .finite s m e hc.pos ∧ m * 2 ^ e ≤ b := by
  have hfinite : x.toModel.unpack.isFinite = true := h.isFinite
  have hle : |Packed.value x.toModel.unpack| ≤ b := h.le
  rcases Packed.unpack_cases x.toModel with ⟨hx, -⟩ | ⟨s, hx, -⟩ | ⟨s, hx, -⟩ | ⟨s, m, e, hc, hx, -⟩
  · rw [hx] at hfinite
    cases hfinite
  · rw [hx] at hfinite
    cases hfinite
  · exact .inl ⟨s, hx⟩
  · rw [hx, abs_value_finite] at hle
    exact .inr ⟨s, m, e, hc, hx, hle⟩

/-- A power of two as a bound with all the digits of a double. -/
theorem digits_mul_two_zpow (k : ℤ) : ((2 ^ 52 : ℕ) : ℚ) * 2 ^ (k - 52) = 2 ^ k := by
  rw [Nat.cast_pow, Nat.cast_ofNat, ← zpow_natCast, ← zpow_add₀ two_ne_zero]
  congr 1
  omega

/-- The greatest double below a power of two. -/
theorem within_of_lt {k : ℤ} (hx : x.isFinite = true) (hlt : |rational x| < 2 ^ (k + 53))
    (hk : -1074 ≤ k) : Within x ((2 ^ 53 - 1 : ℕ) * 2 ^ k) := by
  refine ⟨hx, ?_⟩
  unfold rational at hlt ⊢
  have hself : Within x |rational x| := ⟨hx, le_refl _⟩
  rcases hself.cases with ⟨s, hs⟩ | ⟨s, m, e, hc, hs, -⟩ <;> rw [hs] at hlt ⊢
  · rw [Packed.value, abs_zero]
    positivity
  · rw [abs_value_finite] at hlt ⊢
    have hm : m ≤ 2 ^ 53 - 1 := Nat.le_sub_one_of_lt hc.lt
    rcases le_or_gt e k with he | he
    · gcongr
      exact one_le_two
    · -- A greater unit comes with all digits, and then the number is too great.
      have hdigits : 2 ^ 52 ≤ m := hc.normal.resolve_right (by omega)
      refine absurd hlt (not_lt.2 ?_)
      calc (2 : ℚ) ^ (k + 53) = (2 ^ 52 : ℕ) * 2 ^ (k + 1) := by
            rw [← digits_mul_two_zpow]
            congr 2
            omega
        _ ≤ m * 2 ^ e := by
            gcongr
            · exact one_le_two
            · omega

/-- A mantissa keeps its value if its exponent is decreased. -/
theorem aligned_value {m : ℕ} {e t : ℤ} (ht : t ≤ e) :
    ((m * 2 ^ (e - t).toNat : ℕ) : ℚ) * 2 ^ t = m * 2 ^ e := by
  have hexponent : e = ((e - t).toNat : ℤ) + t := by omega
  conv_rhs => rw [hexponent, zpow_add₀ two_ne_zero, zpow_natCast]
  push_cast
  ring

section Bound

variable (hN : 2 ^ 52 ≤ N) (hN' : N < 2 ^ 53) (he : -1074 ≤ e₀) (he' : e₀ ≤ 971)
include hN hN' he he'

/-- **What is rounded stays within a double** that the exact number is not half a unit above. -/
theorem Rounding.Rounds.within (h : Rounds s v u) (hv : v < (N + 1 / 2) * 2 ^ e₀) :
    Within (.ofModel (.pack u)) (N * 2 ^ e₀) := by
  obtain ⟨r, t, hr, hu⟩ := h.sized
  have hle := hr.le_of_lt hN hN' he hv
  cases hu with
  | zero => exact within_zero s (by positivity)
  | finite hpos hq hlt hmin hnormal =>
      rw [← hq] at hle
      exact within_finite (Sized.canonical hpos hlt hmin hnormal hN' he' hle) s hle

theorem within_normalize {k E : ℤ} (hv : |(k : ℚ)| * 2 ^ E < (N + 1 / 2) * 2 ^ e₀) :
    Within (.ofModel (.pack (UnpackedFloat.normalize Format.binary64 k E .positive)))
      (N * 2 ^ e₀) := by
  unfold UnpackedFloat.normalize
  rcases lt_trichotomy k 0 with hk | rfl | hk
  · have hsize : ((-k).toNat : ℚ) = |(k : ℚ)| := by
      have hcast : (((-k).toNat : ℤ) : ℚ) = -k := by
        rw [Int.toNat_of_nonneg (by omega)]
        push_cast
        rfl
      rw [abs_of_neg (by exact_mod_cast hk), ← hcast, Int.cast_natCast]
    rw [← hsize] at hv
    simp only [compare_lt_iff_lt.2 hk]
    exact (rounds_round (by omega) E .negative).within hN hN' he he' hv
  · exact within_zero .positive (by positivity)
  · have hsize : (k.toNat : ℚ) = |(k : ℚ)| := by
      have hcast : ((k.toNat : ℤ) : ℚ) = k := by rw [Int.toNat_of_nonneg hk.le]
      rw [abs_of_pos (by exact_mod_cast hk), ← hcast, Int.cast_natCast]
    rw [← hsize] at hv
    simp only [compare_gt_iff_gt.2 hk]
    exact (rounds_round (by omega) E .positive).within hN hN' he he' hv

omit hN hN' he he' in
theorem abs_apply_le (s₁ s₂ : Sign) (m₁ m₂ : ℕ) :
    |((s₁.apply (m₁ : ℤ) + s₂.apply (m₂ : ℤ) : ℤ) : ℚ)| ≤ m₁ + m₂ := by
  have habs : ∀ (s : Sign) (m : ℕ), |((s.apply (m : ℤ) : ℤ) : ℚ)| = m := by
    intro s m
    cases s
    · simp [Sign.apply]
    · simp [Sign.apply]
  push_cast
  refine (abs_add_le _ _).trans ?_
  rw [habs, habs]

/-- A sum. -/
theorem Within.add (hx : Within x a) (hy : Within y b) (hsum : a + b < (N + 1 / 2) * 2 ^ e₀) :
    Within (x + y) (N * 2 ^ e₀) := by
  have ha : 0 ≤ a := (abs_nonneg _).trans hx.le
  have hb : 0 ≤ b := (abs_nonneg _).trans hy.le
  show Within (.ofModel (.pack
    (UnpackedFloat.add Format.binary64 x.toModel.unpack y.toModel.unpack))) _
  rcases hx.cases with ⟨s₁, hx⟩ | ⟨s₁, m₁, e₁, h₁, hx, hle₁⟩ <;>
    rcases hy.cases with ⟨s₂, hy⟩ | ⟨s₂, m₂, e₂, h₂, hy, hle₂⟩ <;> rw [hx, hy]
  · simp only [UnpackedFloat.add]
    split <;> exact within_zero _ (by positivity)
  · exact (rounds_canonical h₂ s₂).within hN hN' he he' (by linarith)
  · exact (rounds_canonical h₁ s₁).within hN hN' he he' (by linarith)
  · simp only [UnpackedFloat.add, decreaseExponent]
    refine within_normalize hN hN' he he' ?_
    generalize hmin : min e₁ e₂ = t
    calc _ ≤ (((m₁ <<< (e₁ - t).toNat : ℕ) : ℚ) + (m₂ <<< (e₂ - t).toNat : ℕ)) * 2 ^ t := by
          gcongr
          exact abs_apply_le _ _ _ _
      _ = m₁ * 2 ^ e₁ + m₂ * 2 ^ e₂ := by
          rw [Nat.shiftLeft_eq, Nat.shiftLeft_eq, add_mul, aligned_value (by omega),
            aligned_value (by omega)]
      _ < (N + 1 / 2) * 2 ^ e₀ := by linarith

/-- A difference. -/
theorem Within.sub (hx : Within x a) (hy : Within y b) (hsum : a + b < (N + 1 / 2) * 2 ^ e₀) :
    Within (x - y) (N * 2 ^ e₀) := by
  rw [float_sub_eq_add_neg]
  exact hx.add hN hN' he he' hy.neg hsum

/-- A product. -/
theorem Within.mul (hx : Within x a) (hy : Within y b) (hprod : a * b < (N + 1 / 2) * 2 ^ e₀) :
    Within (x * y) (N * 2 ^ e₀) := by
  have ha : 0 ≤ a := (abs_nonneg _).trans hx.le
  show Within (.ofModel (.pack
    (UnpackedFloat.mul Format.binary64 x.toModel.unpack y.toModel.unpack))) _
  rcases hx.cases with ⟨s₁, hx⟩ | ⟨s₁, m₁, e₁, h₁, hx, hle₁⟩ <;>
    rcases hy.cases with ⟨s₂, hy⟩ | ⟨s₂, m₂, e₂, h₂, hy, hle₂⟩ <;> rw [hx, hy]
  · exact within_zero _ (by positivity)
  · exact within_zero _ (by positivity)
  · exact within_zero _ (by positivity)
  · have hdigits : 2 ^ 52 ≤ m₁ * m₂ ∨ e₁ + e₂ ≤ -1074 := by
      have hpos₁ := h₁.pos
      have hpos₂ := h₂.pos
      rcases h₁.normal with hm₁ | he₁
      · left
        nlinarith
      · rcases h₂.normal with hm₂ | he₂
        · left
          nlinarith
        · right
          omega
    refine (rounds_mul h₁.pos h₂.pos hdigits s₁ s₂).within hN hN' he he' (lt_of_le_of_lt ?_ hprod)
    exact mul_le_mul hle₁ hle₂ (by positivity) ha

/-- A quotient by a number that is not too small. -/
theorem Within.div {c : ℚ} (hx : Within x a) (hy : Within y b) (hc : 0 < c)
    (hlow : c ≤ |rational y|) (hquot : a / c < (N + 1 / 2) * 2 ^ e₀) :
    Within (x / y) (N * 2 ^ e₀) := by
  have ha : 0 ≤ a := (abs_nonneg _).trans hx.le
  unfold rational at hlow
  show Within (.ofModel (.pack
    (UnpackedFloat.div Format.binary64 x.toModel.unpack y.toModel.unpack))) _
  rcases hy.cases with ⟨s₂, hy⟩ | ⟨s₂, m₂, e₂, h₂, hy, -⟩ <;> rw [hy] at hlow ⊢
  · rw [Packed.value, abs_zero] at hlow
    linarith
  · rw [abs_value_finite] at hlow
    rcases hx.cases with ⟨s₁, hx⟩ | ⟨s₁, m₁, e₁, h₁, hx, hle₁⟩ <;> rw [hx]
    · exact within_zero _ (by positivity)
    · refine (rounds_div h₁.pos h₂.pos e₁ e₂ s₁ s₂).within hN hN' he he' (lt_of_le_of_lt ?_ hquot)
      exact div_le_div₀ ha hle₁ hc hlow

end Bound

theorem two_zpow_lt_digits (k : ℤ) : (2 : ℚ) ^ k < ((2 ^ 52 : ℕ) + 1 / 2) * 2 ^ (k - 52) := by
  have hpos := two_zpow_pos (k - 52)
  rw [add_mul, digits_mul_two_zpow]
  linarith

/-- A difference of two doubles below a power of two. -/
theorem Within.sub_two_zpow {k : ℤ} (hx : Within x (2 ^ k)) (hy : Within y (2 ^ k))
    (hk : -1023 ≤ k) (hk' : k < 1023) : Within (x - y) (2 ^ (k + 1)) := by
  rw [← digits_mul_two_zpow]
  refine hx.sub (le_refl _) (by norm_num) (by omega) (by omega) hy ?_
  rw [← two_mul, ← zpow_one_add₀ two_ne_zero, add_comm]
  exact two_zpow_lt_digits (k + 1)

/-- A product of two doubles below powers of two. -/
theorem Within.mul_two_zpow {i j : ℤ} (hx : Within x (2 ^ i)) (hy : Within y (2 ^ j))
    (hij : -1022 ≤ i + j) (hij' : i + j ≤ 1023) : Within (x * y) (2 ^ (i + j)) := by
  rw [← digits_mul_two_zpow]
  refine hx.mul (le_refl _) (by norm_num) (by omega) (by omega) hy ?_
  rw [← zpow_add₀ two_ne_zero]
  exact two_zpow_lt_digits (i + j)

/-! ## The length of a vector -/

theorem describes_below (M : ℕ) :
    Describes (.ofMantissaAndAccuracy M (.inexact .lt)) (M + 1 / 4) := by
  simp only [Describes, ExtendedMantissa.ofMantissaAndAccuracy, if_true, Bool.false_eq_true,
    if_false]
  constructor <;> linarith

/-- Nothing is rounded to nothing. -/
theorem roundWithAccuracy_zero (E : ℤ) (s : Sign) :
    roundWithAccuracy Format.binary64 s 0 E .exact = .zero s := by
  obtain ⟨em, e, hshift⟩ : ∃ em e, shiftToTargetExponent Format.binary64 0 E .exact = (em, e) :=
    ⟨_, _, rfl⟩
  have hdescribes : Describes em 0 := by
    obtain ⟨rfl, -⟩ := Prod.mk.inj hshift
    have := (describes_exact 0).shiftRight (Format.binary64.targetExponent (totalExponent 0 E) - E).toNat
    rwa [Nat.cast_zero, zero_div] at this
  have hrounded : em.roundedMantissa = 0 := by
    have hle := (roundedMantissa_near hdescribes).1
    have : (em.roundedMantissa : ℚ) < 1 := by linarith
    exact Nat.lt_one_iff.1 (by exact_mod_cast this)
  have hsecond := shiftToTargetExponent_bounds
    (Prod.eta (shiftToTargetExponent Format.binary64 0 e .exact)).symm
  unfold roundWithAccuracy
  simp only [hshift, hrounded]
  rw [dif_pos (Nat.le_zero.1 hsecond.1)]

/-- There are always digits enough to round. -/
theorem toNearest_exponent_le {m : ℕ} (hm : m ≠ 0) (e : ℤ) :
    e - 64 ≤ Format.binary64.targetExponent (totalExponent (m <<< 64) (e - 64)) := by
  rw [targetExponent_eq, totalExponent, log2_shiftLeft hm]
  omega

theorem toNearest_value (m : ℕ) (e : ℤ) :
    ((m <<< 64 : ℕ) : ℚ) * 2 ^ (e - 64) = m * 2 ^ e := by
  have hunit : (2 : ℚ) ^ e = 2 ^ (64 : ℕ) * 2 ^ (e - 64) := by
    rw [← zpow_natCast, ← zpow_add₀ two_ne_zero]
    congr 1
    push_cast
    ring
  rw [hunit, Nat.shiftLeft_eq]
  push_cast
  ring

/-- A whole number of units is rounded once. -/
theorem rounds_toNearest_exact {m : ℕ} (hm : m ≠ 0) (negative : Bool) (e : ℤ) :
    ∃ u, Exact.toNearest negative m e false = .ofModel (.pack u) ∧
      Rounds (signOf negative) (m * 2 ^ e) u := by
  refine ⟨_, rfl, _, _, _, rfl, ?_, toNearest_exponent_le hm e⟩
  rw [← toNearest_value, mul_div_cancel_right₀ _ (two_zpow_pos (e - 64)).ne']
  exact describes_exact _

/-- A whole number of units, with or without a rest, is rounded once. -/
theorem rounds_toNearest {m : ℕ} (hm : m ≠ 0) (negative : Bool) (e : ℤ) (more : Bool) :
    ∃ v u, Exact.toNearest negative m e more = .ofModel (.pack u) ∧
      Rounds (signOf negative) v u ∧ v < (m + 1) * 2 ^ e := by
  cases more with
  | false =>
      obtain ⟨u, hu, hrounds⟩ := rounds_toNearest_exact hm negative e
      refine ⟨_, u, hu, hrounds, ?_⟩
      gcongr
      linarith
  | true =>
      have hpos := two_zpow_pos (e - 64)
      refine ⟨((m <<< 64 : ℕ) + 1 / 4) * 2 ^ (e - 64), _, rfl,
        ⟨_, _, _, rfl, ?_, toNearest_exponent_le hm e⟩, ?_⟩
      · rw [mul_div_cancel_right₀ _ hpos.ne']
        exact describes_below _
      · have hnext := toNearest_value (m + 1) e
        rw [Nat.cast_add_one] at hnext
        rw [← hnext]
        gcongr
        rw [Nat.shiftLeft_eq, Nat.shiftLeft_eq]
        push_cast
        linarith [show (1 : ℚ) ≤ 2 ^ (64 : ℕ) by norm_num]

/-- The exact number that a bounded double stands for. -/
theorem Within.exact (h : Within x b) : ∃ negative m e, Exact.ofFloat x = .finite negative m e ∧
    e ≤ 971 ∧ m * 2 ^ e ≤ b := by
  unfold Exact.ofFloat
  rcases h.cases with ⟨s, hx⟩ | ⟨s, m, e, hc, hx, hle⟩
  · have hb : 0 ≤ b := (abs_nonneg _).trans h.le
    rw [hx]
    exact ⟨_, 0, 0, rfl, by decide, by simpa using hb⟩
  · rw [hx]
    exact ⟨_, m, e, rfl, hc.max, hle⟩

theorem sqrt_shiftLeft_le (n k : ℕ) :
    (Nat.sqrt (n <<< (k + k)) : ℚ) * Nat.sqrt (n <<< (k + k)) ≤ n * (2 ^ k * 2 ^ k) := by
  have hle := Nat.sqrt_le (n <<< (k + k))
  rw [Nat.shiftLeft_eq, pow_add] at hle
  rw [Nat.shiftLeft_eq, pow_add]
  exact_mod_cast hle

/-- The root of a sum of squares is less than one and a half times as great as either number may
be; it is taken in units of `2^-k`. -/
theorem sqrt_lt {p q k : ℕ} {e : ℤ} {b : ℚ} (hp : (p : ℚ) * 2 ^ e ≤ b)
    (hq : (q : ℚ) * 2 ^ e ≤ b) (hb : 0 < b) :
    (Nat.sqrt ((p * p + q * q) <<< (k + k)) : ℚ) * 2 ^ (e - k) < 3 / 2 * b := by
  have hunit : (2 : ℚ) ^ (e - k) * 2 ^ k = 2 ^ e := by
    rw [← zpow_natCast, ← zpow_add₀ two_ne_zero, sub_add_cancel]
  have hsquare := sqrt_shiftLeft_le (p * p + q * q) k
  push_cast at hsquare
  generalize (Nat.sqrt ((p * p + q * q) <<< (k + k)) : ℚ) = root at hsquare ⊢
  have hp' : (p : ℚ) * 2 ^ e * (p * 2 ^ e) ≤ b * b := mul_le_mul hp hp (by positivity) hb.le
  have hq' : (q : ℚ) * 2 ^ e * (q * 2 ^ e) ≤ b * b := mul_le_mul hq hq (by positivity) hb.le
  have hroot : root * 2 ^ (e - k) * (root * 2 ^ (e - k)) ≤ 2 * (b * b) := by
    calc root * 2 ^ (e - k) * (root * 2 ^ (e - k))
        = root * root * (2 ^ (e - k) * 2 ^ (e - k)) := by ring
      _ ≤ (p * p + q * q) * (2 ^ k * 2 ^ k) * (2 ^ (e - k) * 2 ^ (e - k)) := by gcongr
      _ = p * 2 ^ e * (p * 2 ^ e) + q * 2 ^ e * (q * 2 ^ e) := by
          rw [← hunit]
          ring
      _ ≤ 2 * (b * b) := by linarith
  by_contra hge
  push Not at hge
  have hsq : 3 / 2 * b * (3 / 2 * b) ≤ root * 2 ^ (e - k) * (root * 2 ^ (e - k)) :=
    mul_le_mul hge hge (by positivity) (le_trans (by positivity) hge)
  nlinarith

/-- The length of a vector; its last digits may be `2^843` off before it is rounded. -/
theorem Within.hypotenuse (hN : 2 ^ 52 ≤ N) (hN' : N < 2 ^ 53) (he : -1074 ≤ e₀) (he' : e₀ ≤ 971)
    (hx : Within x b) (hy : Within y b) (hb : 0 < b)
    (hlength : 3 / 2 * b + 2 ^ (843 : ℤ) ≤ (N + 1 / 2) * 2 ^ e₀) :
    Within (hypotenuse x y) (N * 2 ^ e₀) := by
  obtain ⟨n₁, m₁, e₁, hx, hmax₁, hle₁⟩ := hx.exact
  obtain ⟨n₂, m₂, e₂, hy, hmax₂, hle₂⟩ := hy.exact
  unfold ImageOverlay.hypotenuse
  simp only [hx, hy, Nat.pow_eq]
  generalize hmin : min e₁ e₂ = t
  rw [← aligned_value (show t ≤ e₁ by omega)] at hle₁
  rw [← aligned_value (show t ≤ e₂ by omega)] at hle₂
  generalize m₁ * 2 ^ (e₁ - t).toNat = p at hle₁ ⊢
  generalize m₂ * 2 ^ (e₂ - t).toNat = q at hle₂ ⊢
  have hroot := sqrt_lt (k := 128) hle₁ hle₂ hb
  have hrest : (2 : ℚ) ^ (t - (128 : ℕ)) ≤ 2 ^ (843 : ℤ) :=
    zpow_le_zpow_right₀ one_le_two (by omega)
  change _ * (2 : ℚ) ^ (t - (128 : ℕ)) < _ at hroot
  generalize (p * p + q * q) <<< 256 = n at hroot ⊢
  by_cases hn : n = 0
  · subst hn
    have hnothing : Exact.toNearest false 0 (t - 128) false = .ofModel (.pack (.zero .positive)) :=
      congrArg (fun u => Float.ofModel (.pack u)) (roundWithAccuracy_zero (t - 128 - 64) .positive)
    show Within (Exact.toNearest false 0 (t - 128) false) _
    rw [hnothing]
    exact within_zero .positive (by positivity)
  · have hpos : n.sqrt ≠ 0 := (Nat.sqrt_pos.2 (Nat.pos_of_ne_zero hn)).ne'
    obtain ⟨v, u, hu, hrounds, hv⟩ := rounds_toNearest hpos false (t - 128)
      (n.sqrt * n.sqrt != n)
    rw [hu]
    refine hrounds.within hN hN' he he' ?_
    calc v < (n.sqrt + 1) * 2 ^ (t - 128) := hv
      _ = n.sqrt * 2 ^ (t - 128) + 2 ^ (t - 128) := by ring
      _ ≤ 3 / 2 * b + 2 ^ (843 : ℤ) := add_le_add hroot.le hrest
      _ ≤ (N + 1 / 2) * 2 ^ e₀ := hlength

end ImageOverlay
