import ImageOverlay.Proofs.Number.Quotient
import Mathlib.Analysis.SpecialFunctions.Log.Base
import Mathlib.Analysis.SpecialFunctions.Log.Deriv

set_option autoImplicit false

/-!
# Logarithms of doubles

How the logarithm of a double is rounded differs from machine to machine. All that is asked for here
is that it is exact for powers of two and at most `2^-40` off elsewhere (`Logarithm`). That is
enough to find the power of two above a number and the one below it (`Logarithm.ceil`,
`Logarithm.floor`), if the number is not too near to a power of two without being one: where a
number is off by a part in `2^34`, the logarithm is off by at least `2^-35`.
-/

namespace ImageOverlay

open Float.Model Float.Model.UnpackedFloat Rounding

/-- What is asked of a logarithm to the base two. -/
structure Logarithm (log2 : Float → Float) : Prop where
  exact : ∀ {x : Float} {k : ℤ}, Exactly x (2 ^ k) → Exactly (log2 x) k
  near : ∀ {x : Float}, x.isFinite = true → 0 < rational x →
    (log2 x).isFinite = true ∧ |(rational (log2 x) : ℝ) - Real.logb 2 (rational x)| ≤ 1 / 2 ^ 40

variable {log2 : Float → Float} {x : Float} {q : ℚ} {k : ℤ}

/-! ## Near a power of two -/

theorem log_two_le_one : Real.log 2 ≤ 1 := by
  have := Real.log_two_lt_d9
  linarith

theorem logb_two_zpow (k : ℤ) : Real.logb 2 (2 ^ k) = k := by
  rw [← Real.rpow_intCast, Real.logb_rpow two_pos (by norm_num)]

theorem logb_two_zpow_mul (k : ℤ) {t : ℝ} (ht : 0 < t) :
    Real.logb 2 (2 ^ k * t) = k + Real.log t / Real.log 2 := by
  rw [Real.logb_mul (by positivity) ht.ne', logb_two_zpow, Real.logb]

theorem logb_le_of_le (hq : 0 < q) (h : q ≤ 2 ^ k * (1 - 1 / 2 ^ 34)) :
    Real.logb 2 q ≤ k - 1 / 2 ^ 34 := by
  have hlog : 0 < Real.log 2 := Real.log_pos one_lt_two
  have hpart : (0 : ℝ) < 1 - 1 / 2 ^ 34 := by norm_num
  have hle : (q : ℝ) ≤ 2 ^ k * (1 - 1 / 2 ^ 34) := by
    have := (Rat.cast_le (K := ℝ)).2 h
    push_cast at this
    exact this
  have hbelow : Real.log (1 - 1 / 2 ^ 34) ≤ -(1 / 2 ^ 34) := by
    have := Real.log_le_sub_one_of_pos hpart
    linarith
  have hquot : Real.log (1 - 1 / 2 ^ 34) / Real.log 2 ≤ -(1 / 2 ^ 34) := by
    rw [div_le_iff₀ hlog]
    nlinarith [log_two_le_one]
  calc Real.logb 2 q ≤ Real.logb 2 (2 ^ k * (1 - 1 / 2 ^ 34)) :=
        Real.logb_le_logb_of_le one_lt_two (by exact_mod_cast hq) hle
    _ = k + Real.log (1 - 1 / 2 ^ 34) / Real.log 2 := logb_two_zpow_mul k hpart
    _ ≤ k - 1 / 2 ^ 34 := by linarith

theorem le_logb_of_le (h : 2 ^ k * (1 + 1 / 2 ^ 34) ≤ q) :
    k + 1 / 2 ^ 35 ≤ Real.logb 2 q := by
  have hlog : 0 < Real.log 2 := Real.log_pos one_lt_two
  have hpart : (0 : ℝ) < 1 + 1 / 2 ^ 34 := by norm_num
  have hle : (2 : ℝ) ^ k * (1 + 1 / 2 ^ 34) ≤ q := by
    have := (Rat.cast_le (K := ℝ)).2 h
    push_cast at this
    exact this
  have habove : (1 : ℝ) / 2 ^ 35 ≤ Real.log (1 + 1 / 2 ^ 34) := by
    refine le_trans ?_ (Real.one_sub_inv_le_log_of_pos hpart)
    norm_num
  have hquot : (1 : ℝ) / 2 ^ 35 ≤ Real.log (1 + 1 / 2 ^ 34) / Real.log 2 := by
    rw [le_div_iff₀ hlog]
    nlinarith [log_two_le_one]
  calc (k : ℝ) + 1 / 2 ^ 35 ≤ k + Real.log (1 + 1 / 2 ^ 34) / Real.log 2 := by linarith
    _ = Real.logb 2 (2 ^ k * (1 + 1 / 2 ^ 34)) := (logb_two_zpow_mul k hpart).symm
    _ ≤ Real.logb 2 q := Real.logb_le_logb_of_le one_lt_two (by positivity) hle

/-! ## The powers of two next to a number -/

namespace Logarithm

variable (hlog : Logarithm log2) (hx : Exactly x q) (hq : 0 < q) (hapart : Apart (1 / 2 ^ 34) q)
include hlog hx hq hapart

/-- The rounded logarithm lies on the side of a whole number on which the number lies of the
power. -/
theorem side (k : ℤ) :
    (q = 2 ^ k ∧ rational (log2 x) = k) ∨ (q < 2 ^ k ∧ rational (log2 x) < k) ∨
      (2 ^ k < q ∧ k < rational (log2 x)) := by
  have hunit := two_zpow_pos k
  have hnear := (hlog.near hx.isFinite (by rwa [hx.eq])).2
  rw [hx.eq, abs_le] at hnear
  rcases hapart k with rfl | hlt | hgt
  · exact .inl ⟨rfl, (hlog.exact hx).eq⟩
  · refine .inr (.inl ⟨?_, ?_⟩)
    · nlinarith
    · have hle := logb_le_of_le hq hlt
      have : (rational (log2 x) : ℝ) < k := by linarith
      exact_mod_cast this
  · refine .inr (.inr ⟨?_, ?_⟩)
    · nlinarith
    · have hle := le_logb_of_le hgt
      have : (k : ℝ) < rational (log2 x) := by linarith
      exact_mod_cast this

omit hapart in
theorem exactly : Exactly (log2 x) (rational (log2 x)) :=
  ⟨(hlog.near hx.isFinite (by rwa [hx.eq])).1, rfl⟩

/-- The power of two above a number. -/
theorem ceil : (Exact.ofFloat (log2 x)).ceil = .int (Int.clog 2 q) := by
  rw [(hlog.exactly hx hq).ceil, Whole.int.injEq]
  refine eq_of_forall_ge_iff fun k => ?_
  have hpower := Int.le_zpow_iff_clog_le one_lt_two hq (x := k)
  rw [Int.ceil_le, ← hpower, Nat.cast_ofNat]
  rcases hlog.side hx hq hapart k with h | h | h <;> constructor <;> intro <;> linarith [h.1, h.2]

/-- The power of two below a number. -/
theorem floor : (Exact.ofFloat (log2 x)).floor = .int (Int.log 2 q) := by
  rw [(hlog.exactly hx hq).floor, Whole.int.injEq]
  refine eq_of_forall_le_iff fun k => ?_
  have hpower := Int.zpow_le_iff_le_log one_lt_two hq (x := k)
  rw [Int.le_floor, ← hpower, Nat.cast_ofNat]
  rcases hlog.side hx hq hapart k with h | h | h <;> constructor <;> intro <;> linarith [h.1, h.2]

end Logarithm

/-! ## There is a logarithm -/

/-- The logarithm, cut off after 41 binary places. -/
noncomputable def truncatedLog2 (x : Float) : Float :=
  .ofModel (.pack (UnpackedFloat.normalize Format.binary64
    ⌊Real.logb 2 (rational x) * 2 ^ 41⌋ (-41) .positive))

theorem exactly_truncatedLog2 (hlow : -(2 ^ 11) ≤ Real.logb 2 (rational x))
    (hhigh : Real.logb 2 (rational x) ≤ 2 ^ 11) :
    Exactly (truncatedLog2 x) (⌊Real.logb 2 (rational x) * 2 ^ 41⌋ * 2 ^ (-41 : ℤ)) := by
  refine exactly_normalize (representable_scaled ?_ (by norm_num) (by norm_num))
  rw [abs_lt]
  constructor
  · refine lt_of_lt_of_le (show (-2 ^ 53 : ℤ) < -2 ^ 52 by norm_num) (Int.le_floor.2 ?_)
    push_cast
    nlinarith
  · refine lt_of_le_of_lt (Int.floor_le_iff.2 ?_) (show (2 ^ 52 : ℤ) < 2 ^ 53 by norm_num)
    push_cast
    nlinarith

/-- A positive double is neither too small nor too great for this. -/
theorem logb_bounds (hx : Exactly x q) (hq : 0 < q) :
    -(2 ^ 11) ≤ Real.logb 2 q ∧ Real.logb 2 q ≤ 2 ^ 11 := by
  rcases hx.cases with ⟨_, _, rfl⟩ | ⟨s, m, e, hc, _, hvalue⟩
  · exact absurd hq (lt_irrefl 0)
  have hsize : q = m * 2 ^ e := by
    rw [← abs_of_pos hq, hvalue, abs_sign_mul, abs_of_pos (size_pos hc)]
  have hm : (1 : ℚ) ≤ m := by exact_mod_cast hc.pos
  have hm' : (m : ℚ) ≤ 2 ^ (53 : ℤ) := by exact_mod_cast hc.lt.le
  have hmin := hc.min
  have hmax := hc.max
  have hlow : (2 : ℚ) ^ (-2048 : ℤ) ≤ q := by
    rw [hsize]
    calc (2 : ℚ) ^ (-2048 : ℤ) ≤ 2 ^ e := zpow_le_zpow_right₀ one_le_two (by omega)
      _ ≤ m * 2 ^ e := le_mul_of_one_le_left (two_zpow_pos e).le hm
  have hhigh : q ≤ (2 : ℚ) ^ (2048 : ℤ) := by
    rw [hsize]
    calc (m * 2 ^ e : ℚ) ≤ 2 ^ (53 : ℤ) * 2 ^ e := by gcongr
      _ = 2 ^ (53 + e) := (zpow_add₀ two_ne_zero 53 e).symm
      _ ≤ 2 ^ (2048 : ℤ) := zpow_le_zpow_right₀ one_le_two (by omega)
  have hpos : (0 : ℝ) < q := by exact_mod_cast hq
  have hlow' := (Rat.cast_le (K := ℝ)).2 hlow
  have hhigh' := (Rat.cast_le (K := ℝ)).2 hhigh
  rw [Rat.cast_zpow, Rat.cast_ofNat] at hlow' hhigh'
  have hleft := Real.logb_le_logb_of_le one_lt_two (by positivity) hlow'
  have hright := Real.logb_le_logb_of_le one_lt_two hpos hhigh'
  rw [logb_two_zpow] at hleft hright
  constructor
  · refine le_trans ?_ hleft
    norm_num
  · refine hright.trans ?_
    norm_num

theorem logarithm_truncatedLog2 : Logarithm truncatedLog2 where
  exact := by
    intro x k hx
    have hbounds := logb_bounds hx (two_zpow_pos k)
    have hlogb : Real.logb 2 (rational x) = k := by
      rw [hx.eq]
      push_cast
      exact logb_two_zpow k
    rw [← hx.eq] at hbounds
    have hexactly := exactly_truncatedLog2 hbounds.1 hbounds.2
    have hcast : (k : ℝ) * 2 ^ 41 = (k * 2 ^ 41 : ℤ) := by norm_num
    have hvalue : (k * 2 ^ 41 : ℤ) * (2 : ℚ) ^ (-41 : ℤ) = k := by
      push_cast
      rw [zpow_neg, mul_inv_eq_iff_eq_mul₀ (by positivity)]
      rfl
    rwa [hlogb, hcast, Int.floor_intCast, hvalue] at hexactly
  near := by
    intro x hfinite hpos
    have hbounds := logb_bounds ⟨hfinite, rfl⟩ hpos
    have hexactly := exactly_truncatedLog2 hbounds.1 hbounds.2
    refine ⟨hexactly.isFinite, ?_⟩
    rw [hexactly.eq]
    generalize Real.logb 2 (rational x) = y
    have hle := Int.floor_le (y * 2 ^ 41)
    have hlt := Int.lt_floor_add_one (y * 2 ^ 41)
    generalize ⌊y * 2 ^ 41⌋ = n at hle hlt ⊢
    have hvalue : (((n * 2 ^ (-41 : ℤ) : ℚ)) : ℝ) = n / 2 ^ 41 := by
      push_cast
      rw [zpow_neg, div_eq_mul_inv]
      norm_cast
    rw [hvalue, abs_le]
    constructor <;> linarith

end ImageOverlay
