import ImageOverlay.Proofs.Number.Rounding
import ImageOverlay.CommandLine.Simulation

set_option autoImplicit false

/-!
# Levels of a pyramid

The number of levels follows from a quotient of sizes, found in doubles. The sizes are whole numbers
of 32 bits, which doubles hold exactly, and no quotient of two of them is infinite, so the number of
levels never wraps around: an image with an extent has a usable description
(`Levels.info_isUsable`), and it is no obstacle that its tiles are given a size of zero.
-/

namespace ImageOverlay

open Float.Model Float.Model.UnpackedFloat
open CommandLine (ImageOptions)

namespace Levels

/-- The double of a whole number of 32 bits. -/
theorem unpack_toFloat {n : UInt32} (hn : n ≠ 0) :
    ∃ m e, ∃ h : Canonical m e, n.toFloat.toModel.unpack = .finite .positive m e h.pos ∧
      m.log2 = 52 ∧ -52 ≤ e ∧ e ≤ -21 := by
  have hpos : 0 < n.toNat := by
    rw [Nat.pos_iff_ne_zero]
    intro h
    exact hn (UInt32.toNat_inj.1 h)
  have hlt : n.toNat < 2 ^ 32 := n.toNat_lt
  have hc := Rounding.canonical_of_lt hpos (by omega)
  have hlog : n.toNat.log2 < 32 := (Nat.log2_lt hpos.ne').2 hlt
  refine ⟨_, _, hc, ?_, ?_, by omega, by omega⟩
  · show (Float.Model.pack (UnpackedFloat.ofNat Format.binary64 n.toNat)).unpack = _
    rw [Rounding.ofNat_eq hpos (by omega), Packed.unpack_pack hc]
  · exact Packed.log2_of_normal (hc.normal.resolve_right (by omega)) hc.lt

theorem toFloat_pos {n : UInt32} (hn : n ≠ 0) : ¬ n.toFloat ≤ 0.0 := by
  obtain ⟨m, e, h, hunpack, -⟩ := unpack_toFloat hn
  have hzero : (0.0 : Float).toModel.unpack = .zero .positive :=
    Packed.unpack_pack_zero .positive
  show ¬ (decide (n.toFloat.toModel ≤ (0.0 : Float).toModel) = true)
  rw [decide_eq_true_iff]
  show ¬ (UnpackedFloat.le n.toFloat.toModel.unpack (0.0 : Float).toModel.unpack = true)
  rw [hunpack, hzero]
  exact nofun

theorem log2_div_le (a b : ℕ) : (a / b).log2 ≤ a.log2 := by
  by_cases hzero : a / b = 0
  · simp [hzero]
  · have ha : a ≠ 0 := by
      rintro rfl
      exact hzero (Nat.zero_div b)
    exact (Nat.le_log2 ha).2 ((Nat.log2_self_le hzero).trans (Nat.div_le_self a b))

/-- A quotient of two sizes is not infinite. -/
theorem quotient_ne_infinite {a b : UInt32} (ha : a ≠ 0) (hb : b ≠ 0) (negative : Bool) :
    Exact.ofFloat (a.toFloat / b.toFloat) ≠ .infinite negative := by
  obtain ⟨m₁, e₁, h₁, hunpack₁, hlog₁, hlow₁, hhigh₁⟩ := unpack_toFloat ha
  obtain ⟨m₂, e₂, h₂, hunpack₂, hlog₂, hlow₂, hhigh₂⟩ := unpack_toFloat hb
  have hdiv : ∀ s, (a.toFloat / b.toFloat).toModel.unpack ≠ .infinity s := by
    intro s
    show (Float.Model.pack (UnpackedFloat.div Format.binary64 a.toFloat.toModel.unpack
      b.toFloat.toModel.unpack)).unpack ≠ _
    rw [hunpack₁, hunpack₂]
    unfold UnpackedFloat.div divCore
    simp only
    apply Rounding.unpack_pack_roundWithAccuracy_ne_infinity
    -- Both mantissas have the same length, so the dividend is shifted by 53 bits.
    have htarget : Format.binary64.targetExponent (totalExponent m₁ e₁ - totalExponent m₂ e₂)
        = e₁ - e₂ - 53 := by
      rw [Rounding.targetExponent_eq, totalExponent, totalExponent, hlog₁, hlog₂]
      omega
    have hmin : min (e₁ - e₂) (e₁ - e₂ - 53) = e₁ - e₂ - 53 := by omega
    have hshift : (e₁ - e₂ - (e₁ - e₂ - 53)).toNat = 53 := by omega
    rw [htarget, hmin, hshift]
    have hlog := log2_div_le (m₁ <<< 53) m₂
    rw [Rounding.log2_shiftLeft h₁.pos.ne', hlog₁] at hlog
    omega
  intro h
  unfold Exact.ofFloat at h
  split at h
  · cases h
  · exact hdiv _ ‹_›
  · cases h
  · cases h

theorem ceilLog2_clamp_le {x : Float} (hx : ∀ negative, Exact.ofFloat x ≠ .infinite negative) :
    (Exact.ofFloat x).ceilLog2.clamp 0 (Int.pow 2 32 - 1) ≤ 1024 := by
  rcases Exact.ofFloat_cases x with
    ⟨h, -⟩ | ⟨negative, h, -⟩ | ⟨negative, h, -⟩ | ⟨negative, m, e, hc, h, -⟩
  · rw [h]
    decide
  · exact absurd h (hx negative)
  · rw [h]
    cases negative <;> decide
  · have hlog : m.log2 < 53 := (Nat.log2_lt hc.pos.ne').2 hc.lt
    have hmax := hc.max
    rw [h]
    simp only [Exact.ceilLog2, if_neg hc.pos.ne']
    split
    · decide
    · simp only [Whole.clamp]
      split <;> omega

/-- A number of tiles that is not infinite needs a number of levels with one to spare. -/
theorem levelsAcross_add_one_pos {x : Float}
    (hx : ∀ negative, Exact.ofFloat x ≠ .infinite negative) : 0 < levelsAcross x + 1 := by
  have hle := ceilLog2_clamp_le hx
  unfold levelsAcross Whole.toUInt32
  generalize Whole.clamp 0 (Int.pow 2 32 - 1) _ = k at hle ⊢
  rw [UInt32.lt_iff_toNat_lt, UInt32.toNat_add, UInt32.toNat_ofNat']
  show 0 < (k.toNat % 2 ^ 32 + 1) % 2 ^ 32
  omega

theorem max_cases (x y : Float) : max x y = x ∨ max x y = y := by
  show (if x ≤ y then y else x) = x ∨ (if x ≤ y then y else x) = y
  split
  · exact .inr rfl
  · exact .inl rfl

theorem atLeastOne_ne_zero (n : UInt32) : atLeastOne n ≠ 0 := by
  show (if n ≤ 1 then 1 else n) ≠ 0
  split
  · decide
  · rintro rfl
    contradiction

/-- **What a tile server would say of an image with an extent** is enough to build a map. -/
theorem info_isUsable {image : ImageOptions} (hwidth : image.width ≠ 0)
    (hheight : image.height ≠ 0) : image.info.isUsable = true := by
  have hsize := atLeastOne_ne_zero
  have hlevels : 0 < image.info.levels := by
    apply levelsAcross_add_one_pos
    rcases max_cases (image.width.toFloat / (atLeastOne image.tileWidth).toFloat)
      (image.height.toFloat / (atLeastOne image.tileHeight).toFloat) with h | h
    · rw [tilesAcross, h]
      exact quotient_ne_infinite hwidth (hsize _)
    · rw [tilesAcross, h]
      exact quotient_ne_infinite hheight (hsize _)
  have hpos : ∀ n : UInt32, n ≠ 0 → 0 < n := by
    intro n
    exact UInt32.pos_iff_ne_zero.2
  simp only [TileInfo.isUsable, Bool.and_eq_true, decide_eq_true_eq]
  exact ⟨⟨⟨⟨hlevels, hpos _ hwidth⟩, hpos _ hheight⟩, hpos _ (hsize _)⟩, hpos _ (hsize _)⟩

end Levels

end ImageOverlay
