import ImageOverlay.CommandLine.Simulation
import ImageOverlay.Proofs.Number.Order
import ImageOverlay.Proofs.Tile.Depth

set_option autoImplicit false

/-!
# Levels that are told and levels that are found

How many levels an image has is worked out twice: on the command line, for what a tile server would
say about it, and for the map that shows it. A side of length zero stays zero the first time, so
that its logarithm is infinite, and counts as one pixel the second time. Both ways the side is
covered by the first tile, and that is all that matters: the longer side decides, and where it is
covered by the first tile too there is one level only (`LevelRule.Flat.covering_atLeastOne`). So the
number of levels is one more than the deepest level (`CommandLine.ImageOptions.levels_infoBy`), for
levels found from the exact quotients as well as from any logarithm that is known only by its order
and by where it is not positive.
-/

namespace ImageOverlay

open CommandLine (ImageOptions)
open Float.Model Float.Model.UnpackedFloat Rounding

variable {log2 : Float → Float} {x x' y : Float} {q : ℚ} {rule : LevelRule} {n d : UInt32}

/-! ## What the first tile covers -/

/-- A number of tiles for which the first one is enough. -/
structure Covered (x : Float) : Prop where
  nonneg : 0.0 ≤ x
  le_one : x ≤ 1.0

theorem Covered.exactly (h : Covered x) :
    Exactly x (rational x) ∧ 0 ≤ rational x ∧ rational x ≤ 1 := by
  have hfinite : x.isFinite = true := by
    rcases float_cases x with hx | rfl | rfl | rfl
    · exact hx
    · exact absurd h.le_one (by decide +kernel)
    · exact absurd h.le_one (by decide +kernel)
    · exact absurd h.nonneg (by decide +kernel)
  have hexactly : Exactly x (rational x) := ⟨hfinite, rfl⟩
  exact ⟨hexactly, (exactly_positiveZero.le_iff hexactly).1 h.nonneg,
    (hexactly.le_iff exactly_one).1 h.le_one⟩

theorem Exactly.covered_iff (h : Exactly x q) : Covered x ↔ 0 ≤ q ∧ q ≤ 1 := by
  rw [← exactly_positiveZero.le_iff h, ← h.le_iff exactly_one]
  exact ⟨fun hx => ⟨hx.nonneg, hx.le_one⟩, fun hx => ⟨hx.1, hx.2⟩⟩

theorem zero_quotient (hd : d ≠ 0) : (0 : UInt32).toFloat / d.toFloat = 0.0 := by
  obtain ⟨m, e, h, hunpack, -⟩ := Levels.unpack_toFloat hd
  show Float.ofModel (.pack (UnpackedFloat.div Format.binary64 (0 : UInt32).toFloat.toModel.unpack
    d.toFloat.toModel.unpack)) = _
  rw [hunpack]
  rfl

theorem exactly_quotient (n : UInt32) (hd : d ≠ 0) :
    ∃ q, Exactly (n.toFloat / d.toFloat) q ∧ 0 ≤ q := by
  by_cases hn : n = 0
  · rw [hn, zero_quotient hd]
    exact ⟨0, exactly_positiveZero, le_rfl⟩
  · have hnearly := nearly_quotient hn hd
    exact ⟨_, hnearly.exactly, (hnearly.pos (quotient_pos hn hd)).le⟩

/-- A side of at most one pixel is covered by the first tile. -/
theorem covered_quotient (hn : n.toNat ≤ 1) (hd : d ≠ 0) : Covered (n.toFloat / d.toFloat) := by
  by_cases hzero : n = 0
  · rw [hzero, zero_quotient hd]
    exact exactly_positiveZero.covered_iff.2 ⟨le_rfl, zero_le_one⟩
  · have hnearly := nearly_quotient hzero hd
    have hle := rational_quotient_le_iff hzero hd 0
    rw [zpow_zero, div_le_one (by exact_mod_cast toNat_pos hd)] at hle
    refine hnearly.exactly.covered_iff.2 ⟨(hnearly.pos (quotient_pos hzero hd)).le, hle.2 ?_⟩
    exact_mod_cast hn.trans (toNat_pos hd)

/-! ## Rules that find one level for one tile -/

/-- A rule by which one level is enough if one tile is. -/
structure LevelRule.Flat (rule : LevelRule) : Prop where
  covered : ∀ {x : Float}, Covered x → rule.covering x = 0

/-- What is asked of a logarithm here: that it is monotone, not positive up to one, and minus
infinity at zero. -/
structure Ascending (log2 : Float → Float) : Prop where
  monotone : ∀ {x y : Float}, 0.0 ≤ x → x ≤ y → log2 x ≤ log2 y
  nonpos : ∀ {x : Float}, 0.0 < x → x ≤ 1.0 → ¬ 0.0 < log2 x
  zero : log2 0.0 = -1.0 / 0.0

/-- What is not greater than a whole number is not rounded up to more. -/
theorem ceil_le_of_not_lt {k : ℕ} (hy : Exactly y k) (hx : ¬ y < x) :
    (Exact.ofFloat x).ceil.toUInt32.toNat ≤ k := by
  have hzero : ∀ {n : UInt32}, n = 0 → n.toNat ≤ k := by
    rintro _ rfl
    exact Nat.zero_le k
  rcases float_cases x with hfinite | rfl | rfl | rfl
  · have hexactly : Exactly x (rational x) := ⟨hfinite, rfl⟩
    rw [hy.lt_iff hexactly, not_lt] at hx
    have hceil : ⌈rational x⌉ ≤ k := Int.ceil_le.2 (by exact_mod_cast hx)
    rw [hexactly.ceil, Whole.toNat_toUInt32]
    omega
  · exact hzero (by decide +kernel)
  · exact absurd hy.lt_infinity hx
  · exact hzero (by decide +kernel)

theorem not_pos_of_le_negInfinity (h : x ≤ -1.0 / 0.0) : ¬ 0.0 < x := by
  intro hpos
  exact absurd (float_le_trans (float_le_of_lt hpos) h) (by decide +kernel)

theorem Ascending.flat (hlog : Ascending log2) : (LevelRule.byLog2 log2).Flat := by
  refine ⟨fun {x} hx => ?_⟩
  obtain ⟨hexactly, hnonneg, hle⟩ := hx.exactly
  have hlow : ¬ 0.0 < log2 x := by
    rcases hnonneg.eq_or_lt with hzero | hpos
    · -- A zero of either sign is at most the positive one.
      have hmonotone := hlog.monotone hx.nonneg
        ((hexactly.le_iff exactly_positiveZero).2 hzero.symm.le)
      rw [hlog.zero] at hmonotone
      exact not_pos_of_le_negInfinity hmonotone
    · exact hlog.nonpos ((exactly_positiveZero.lt_iff hexactly).2 hpos) hx.le_one
  have hzero : Exactly 0.0 (0 : ℕ) := exactly_toFloat 0
  rw [← UInt32.toNat_inj]
  exact Nat.le_zero.1 (ceil_le_of_not_lt hzero hlow)

theorem LevelRule.flat_exact : LevelRule.exact.Flat := by
  refine ⟨fun {x} hx => ?_⟩
  obtain ⟨hexactly, hnonneg, hle⟩ := hx.exactly
  rcases hnonneg.eq_or_lt with hzero | hpos
  · rw [← hzero] at hexactly
    rcases hexactly.cases with ⟨s, hunpack, -⟩ | ⟨s, m, e, hc, -, hvalue⟩
    · show (Exact.ofFloat x).ceilLog2.toUInt32 = 0
      unfold Exact.ofFloat
      rw [hunpack]
      cases s <;> rfl
    · have hsize := size_pos hc
      rw [← abs_of_pos hsize, ← abs_sign_mul s, ← hvalue, abs_zero] at hsize
      exact absurd hsize (lt_irrefl 0)
  · have hlevel := (levelsAcross_le_iff hexactly hpos (hle.trans (by norm_num)) 0).2 (by simpa)
    rw [← UInt32.toNat_inj]
    exact Nat.le_zero.1 hlevel

/-- What the first tile covers does not matter beside another side. -/
theorem LevelRule.Flat.covering_max (hrule : rule.Flat) (hx : Covered x) (hx' : Covered x')
    (hy : Exactly y q) (hq : 0 ≤ q) :
    rule.covering (max x y) = rule.covering (max x' y) ∧
      rule.covering (max y x) = rule.covering (max y x') := by
  have hcovered : ∀ {u v : Float}, Covered u → Covered v → rule.covering (max u v) = 0 := by
    intro u v hu hv
    rcases Levels.max_cases u v with h | h
    · rw [h, hrule.covered hu]
    · rw [h, hrule.covered hv]
  have hgreat : ∀ {u : Float}, Covered u → 1 < q → max u y = y ∧ max y u = y := by
    intro u hu hlt
    obtain ⟨hexactly, -, hle⟩ := hu.exactly
    constructor
    · exact if_pos ((hexactly.le_iff hy).2 (by linarith))
    · exact if_neg (fun h => by linarith [(hy.le_iff hexactly).1 h])
  -- Either the first tile covers both sides, or the other side is the longer one.
  rcases le_or_gt q 1 with hle | hlt
  · have hy' := hy.covered_iff.2 ⟨hq, hle⟩
    rw [hcovered hx hy', hcovered hx' hy', hcovered hy' hx, hcovered hy' hx']
    exact ⟨rfl, rfl⟩
  · rw [(hgreat hx hlt).1, (hgreat hx hlt).2, (hgreat hx' hlt).1, (hgreat hx' hlt).2]
    exact ⟨rfl, rfl⟩

section Sides

variable {width height tileWidth tileHeight : UInt32}

theorem atLeastOne_of_ne_zero (hn : n ≠ 0) : atLeastOne n = n := by
  show (if n ≤ 1 then 1 else n) = n
  split
  · rw [← UInt32.toNat_inj]
    exact le_antisymm (toNat_pos hn) (UInt32.le_iff_toNat_le.1 ‹_›)
  · rfl

/-- A side counts as itself, or both it and what it counts as are covered by the first tile. -/
theorem atLeastOne_cases (n : UInt32) :
    atLeastOne n = n ∨ (atLeastOne n).toNat ≤ 1 ∧ n.toNat ≤ 1 := by
  by_cases hn : n = 0
  · subst hn
    exact .inr (by decide)
  · exact .inl (atLeastOne_of_ne_zero hn)

/-- **A side of no length is covered like one of one pixel.** -/
theorem LevelRule.Flat.covering_atLeastOne (hrule : rule.Flat) (hwidth : tileWidth ≠ 0)
    (hheight : tileHeight ≠ 0) :
    rule.covering (tilesAcross (atLeastOne width).toFloat (atLeastOne height).toFloat
        tileWidth.toFloat tileHeight.toFloat)
      = rule.covering (tilesAcross width.toFloat height.toFloat tileWidth.toFloat
        tileHeight.toFloat) := by
  unfold tilesAcross
  -- One side after the other: first the width, beside the height as it counts.
  trans rule.covering (max (width.toFloat / tileWidth.toFloat)
    ((atLeastOne height).toFloat / tileHeight.toFloat))
  · obtain ⟨q, hq, hnonneg⟩ := exactly_quotient (atLeastOne height) hheight
    rcases atLeastOne_cases width with h | ⟨h, h'⟩
    · rw [h]
    · exact (hrule.covering_max (covered_quotient h hwidth) (covered_quotient h' hwidth) hq
        hnonneg).1
  · obtain ⟨q, hq, hnonneg⟩ := exactly_quotient width hwidth
    rcases atLeastOne_cases height with h | ⟨h, h'⟩
    · rw [h]
    · exact (hrule.covering_max (covered_quotient h hheight) (covered_quotient h' hheight) hq
        hnonneg).2

end Sides

/-! ## Levels of an image -/

theorem exactly_two_pow_32 : Exactly 4294967296.0 (2 ^ (32 : ℤ)) := by
  have h := exactly_natToFloat (show 4294967296 < 2 ^ 53 by norm_num)
  norm_num at h ⊢
  exact h

/-- No image is more than `2^32` tiles wide or high. -/
theorem tilesAcross_bounds (width height : UInt32) {tileWidth tileHeight : UInt32}
    (hwidth : tileWidth ≠ 0) (hheight : tileHeight ≠ 0) :
    0.0 ≤ tilesAcross width.toFloat height.toFloat tileWidth.toFloat tileHeight.toFloat ∧
      tilesAcross width.toFloat height.toFloat tileWidth.toFloat tileHeight.toFloat
        ≤ 4294967296.0 := by
  have hquotient : ∀ {n d : UInt32}, d ≠ 0 →
      0.0 ≤ n.toFloat / d.toFloat ∧ n.toFloat / d.toFloat ≤ 4294967296.0 := by
    intro n d hd
    obtain ⟨q, hq, hnonneg⟩ := exactly_quotient n hd
    refine ⟨(exactly_positiveZero.le_iff hq).2 hnonneg, ?_⟩
    by_cases hn : n = 0
    · rw [hn, zero_quotient hd]
      decide +kernel
    · have hle := (rational_quotient_le_iff hn hd 32).2 (quotient_bounds hn hd).2
      exact ((nearly_quotient hn hd).exactly.le_iff exactly_two_pow_32).2 hle
  rcases Levels.max_cases (width.toFloat / tileWidth.toFloat) (height.toFloat / tileHeight.toFloat)
    with h | h
  · rw [tilesAcross, h]
    exact hquotient hwidth
  · rw [tilesAcross, h]
    exact hquotient hheight

theorem LevelRule.Flat.levels_eq (hrule : rule.Flat) (image : ImageOptions)
    (nodeWidth nodeHeight : UInt32) (url : TileAddress) :
    (image.infoBy rule).levels
      = (MapParams.ofImageBy rule nodeWidth nodeHeight (image.infoBy rule) url).maxLevel + 1 := by
  have hsize := Levels.atLeastOne_ne_zero
  show rule.covering _ + 1 = rule.covering (tilesAcross _ _ (atLeastOne (atLeastOne _)).toFloat
    (atLeastOne (atLeastOne _)).toFloat) + 1
  rw [atLeastOne_of_ne_zero (hsize _), atLeastOne_of_ne_zero (hsize _)]
  exact congrArg (· + 1) (hrule.covering_atLeastOne (hsize _) (hsize _)).symm

/-- The number of levels does not wrap around if the deepest one is not that deep. -/
theorem LevelRule.Flat.toNat_levels (hrule : rule.Flat) (image : ImageOptions)
    (nodeWidth nodeHeight : UInt32) (url : TileAddress)
    (hdeep : (MapParams.ofImageBy rule nodeWidth nodeHeight (image.infoBy rule)
      url).maxLevel.toNat ≤ 32) :
    (image.infoBy rule).levels.toNat
      = (MapParams.ofImageBy rule nodeWidth nodeHeight (image.infoBy rule)
          url).maxLevel.toNat + 1 := by
  rw [hrule.levels_eq image nodeWidth nodeHeight url, UInt32.toNat_add, UInt32.toNat_one]
  omega

/-- **The number of levels is one more than the deepest level**, for every image, even one without
an extent or with tiles of size zero, and every element to show it in. It takes nothing but the
order of the logarithm and where it is not positive; that the number does not wrap around takes the
logarithm of `2^32` as well. -/
theorem CommandLine.ImageOptions.levels_infoBy (hlog : Ascending log2) (image : ImageOptions)
    (nodeWidth nodeHeight : UInt32) (url : TileAddress) :
    let info := image.infoBy (.byLog2 log2)
    let params := MapParams.ofImageBy (.byLog2 log2) nodeWidth nodeHeight info url
    info.levels = params.maxLevel + 1 ∧
      (log2 4294967296.0 ≤ 32.0 → info.levels.toNat = params.maxLevel.toNat + 1) ∧
      image.info.levels.toNat
        = (MapParams.ofImage nodeWidth nodeHeight image.info url).maxLevel.toNat + 1 := by
  have hsize := Levels.atLeastOne_ne_zero
  refine ⟨hlog.flat.levels_eq image nodeWidth nodeHeight url, fun hlast => ?_, ?_⟩
  · refine hlog.flat.toNat_levels image nodeWidth nodeHeight url ?_
    have hbounds := tilesAcross_bounds (atLeastOne image.width) (atLeastOne image.height)
      (hsize (atLeastOne image.tileWidth)) (hsize (atLeastOne image.tileHeight))
    have hbelow := float_not_lt_of_le (float_le_trans (hlog.monotone hbounds.1 hbounds.2) hlast)
    exact ceil_le_of_not_lt (exactly_toFloat 32) hbelow
  · refine LevelRule.flat_exact.toNat_levels image nodeWidth nodeHeight url ?_
    exact (MapParams.levelled_ofImage nodeWidth nodeHeight image.info url).maxLevel.2
      ⟨le_two_pow_32 (hsize _), le_two_pow_32 (hsize _)⟩

/-! ## There is such a logarithm -/

/-- The logarithm, cut off after 41 binary places, with the infinities where they belong. -/
noncomputable def extendedLog2 (x : Float) : Float :=
  if x.isFinite then
    if 0 < rational x then truncatedLog2 x
    else if rational x = 0 then -1.0 / 0.0
    else 0.0 / 0.0
  else if 0.0 < x then x
  else 0.0 / 0.0

theorem Exactly.extendedLog2_of_eq_zero (hx : Exactly x 0) : extendedLog2 x = -1.0 / 0.0 := by
  rw [extendedLog2, if_pos hx.isFinite, hx.eq, if_neg (lt_irrefl 0), if_pos rfl]

theorem Exactly.extendedLog2_of_pos (hx : Exactly x q) (hq : 0 < q) :
    Exactly (extendedLog2 x) (⌊Real.logb 2 q * 2 ^ 41⌋ * 2 ^ (-41 : ℤ)) := by
  have hbounds := logb_bounds hx hq
  rw [← hx.eq] at hq hbounds
  rw [extendedLog2, if_pos hx.isFinite, if_pos hq]
  exact hx.eq ▸ exactly_truncatedLog2 hbounds.1 hbounds.2

theorem Exactly.extendedLog2_two_zpow {k : ℤ} (hx : Exactly x (2 ^ k)) :
    Exactly (extendedLog2 x) k := by
  have hpos : 0 < rational x := hx.eq ▸ two_zpow_pos k
  rw [extendedLog2, if_pos hx.isFinite, if_pos hpos]
  exact logarithm_truncatedLog2.exact hx

theorem cases_of_nonneg (hx : 0.0 ≤ x) :
    Exactly x 0 ∨ (∃ q, Exactly x q ∧ 0 < q) ∨ x = 1.0 / 0.0 := by
  rcases float_cases x with hfinite | rfl | h | rfl
  · have hexactly : Exactly x (rational x) := ⟨hfinite, rfl⟩
    rcases ((exactly_positiveZero.le_iff hexactly).1 hx).eq_or_lt with hzero | hpos
    · exact .inl ⟨hfinite, hzero.symm⟩
    · exact .inr (.inl ⟨_, hexactly, hpos⟩)
  · exact absurd hx (by decide +kernel)
  · exact .inr (.inr h)
  · exact absurd hx (by decide +kernel)

theorem ascending_extendedLog2 : Ascending extendedLog2 where
  zero := exactly_positiveZero.extendedLog2_of_eq_zero
  nonpos := by
    intro x hpos hone
    obtain ⟨hexactly, -, hle⟩ := (Covered.mk (float_le_of_lt hpos) hone).exactly
    have hlt := (exactly_positiveZero.lt_iff hexactly).1 hpos
    have hlog : Real.logb 2 (rational x) ≤ 0 :=
      Real.logb_nonpos one_lt_two (by exact_mod_cast hlt.le) (by exact_mod_cast hle)
    have hfloor : ⌊Real.logb 2 (rational x) * 2 ^ 41⌋ ≤ 0 :=
      Int.floor_nonpos (mul_nonpos_of_nonpos_of_nonneg hlog (by positivity))
    rw [exactly_positiveZero.lt_iff (hexactly.extendedLog2_of_pos hlt), not_lt]
    exact mul_nonpos_of_nonpos_of_nonneg (by exact_mod_cast hfloor) (two_zpow_pos _).le
  monotone := by
    intro x y hx hxy
    have hinfinity : extendedLog2 (1.0 / 0.0) = 1.0 / 0.0 := by
      rw [extendedLog2, if_neg (by decide +kernel), if_pos (by decide +kernel)]
    -- Zero, a positive number or infinity, on either side; three of the nine are out of order.
    rcases cases_of_nonneg hx with hx | ⟨q, hx, hq⟩ | rfl <;>
      rcases cases_of_nonneg (float_le_trans ‹0.0 ≤ _› hxy) with hy | ⟨r, hy, hr⟩ | rfl
    · rw [hx.extendedLog2_of_eq_zero, hy.extendedLog2_of_eq_zero]
      decide +kernel
    · rw [hx.extendedLog2_of_eq_zero]
      exact float_le_of_lt (hy.extendedLog2_of_pos hr).negInfinity_lt
    · rw [hx.extendedLog2_of_eq_zero, hinfinity]
      decide +kernel
    · exact absurd ((hx.le_iff hy).1 hxy) hq.not_ge
    · have hle := (hx.le_iff hy).1 hxy
      rw [(hx.extendedLog2_of_pos hq).le_iff (hy.extendedLog2_of_pos hr)]
      have hlog : Real.logb 2 q ≤ Real.logb 2 r :=
        Real.logb_le_logb_of_le one_lt_two (by exact_mod_cast hq) (by exact_mod_cast hle)
      have hfloor : ⌊Real.logb 2 q * 2 ^ 41⌋ ≤ ⌊Real.logb 2 r * 2 ^ 41⌋ :=
        Int.floor_mono (by gcongr)
      exact mul_le_mul_of_nonneg_right (by exact_mod_cast hfloor) (two_zpow_pos _).le
    · rw [hinfinity]
      exact float_le_of_lt (hx.extendedLog2_of_pos hq).lt_infinity
    · exact absurd hy.lt_infinity (float_not_lt_of_le hxy)
    · exact absurd hy.lt_infinity (float_not_lt_of_le hxy)
    · rw [hinfinity]
      decide +kernel

/-- An image with a width only, on tiles that have a width only. -/
def flatImage : ImageOptions :=
  { width := 1024, height := 0, tileWidth := 256, tileHeight := 0 }

theorem CommandLine.ImageOptions.levels_infoBy_of_flatImage :
    Ascending extendedLog2 ∧ extendedLog2 4294967296.0 ≤ 32.0 ∧
      (flatImage.infoBy (.byLog2 extendedLog2)).levels = 3 ∧
      (MapParams.ofImageBy (.byLog2 extendedLog2) 0 600 (flatImage.infoBy (.byLog2 extendedLog2))
        ⟨""⟩).maxLevel.toNat = 2 ∧
      flatImage.info.levels = 3 ∧
      (MapParams.ofImage 0 600 flatImage.info ⟨""⟩).maxLevel.toNat = 2 := by
  obtain ⟨-, hbyLog2, hexact⟩ := levels_infoBy ascending_extendedLog2 flatImage 0 600 ⟨""⟩
  have hlast : extendedLog2 4294967296.0 ≤ 32.0 :=
    (exactly_two_pow_32.extendedLog2_two_zpow.le_iff (exactly_toFloat 32)).2 le_rfl
  have hacross : tilesAcross (1024 : UInt32).toFloat (0 : UInt32).toFloat (256 : UInt32).toFloat
      (1 : UInt32).toFloat = 4.0 := by
    decide +kernel
  have hlog : Exactly (extendedLog2 4.0) (2 : ℤ) :=
    Exactly.extendedLog2_two_zpow (by norm_num; exact exactly_four)
  have hlevels : (flatImage.infoBy (.byLog2 extendedLog2)).levels = 3 := by
    show (Exact.ofFloat (extendedLog2 (tilesAcross (1024 : UInt32).toFloat (0 : UInt32).toFloat
      (256 : UInt32).toFloat (1 : UInt32).toFloat))).ceil.toUInt32 + 1 = 3
    rw [hacross, hlog.ceil, Int.ceil_intCast]
    decide
  have hlevels' : flatImage.info.levels = 3 := by decide +kernel
  have hdeep := hbyLog2 hlast
  rw [hlevels] at hdeep
  rw [hlevels'] at hexact
  exact ⟨ascending_extendedLog2, hlast, hlevels, (Nat.succ.inj hdeep).symm, hlevels',
    (Nat.succ.inj hexact).symm⟩

end ImageOverlay
