import ImageOverlay.Proofs.Number.Logarithm
import ImageOverlay.Proofs.Tile.Levels

set_option autoImplicit false

/-!
# How deep a pyramid is

The levels of a map are found from quotients of sizes, which are rounded, and from logarithms of
those, which are rounded again. Nothing of this shows in the levels (`MapParams.ofImageBy_levels`):
the deepest one is the least at which one tile covers the image along both sides, and the map zooms
out to the greatest one, zero or below, at which the element holds the image. It does not depend on
the logarithm, as long as that is exact for powers of two and off by no more than `2^-40` elsewhere.
-/

namespace ImageOverlay

open Rounding

variable {log2 : Float → Float} {x y : Float} {q : ℚ}

/-! ## Levels of a quotient -/

theorem Whole.clamp_int (lo hi k : ℤ) : (Whole.int k).clamp lo hi = max lo (min hi k) := rfl

theorem Whole.toNat_toUInt32 (k : ℤ) :
    (Whole.int k).toUInt32.toNat = (max 0 (min (2 ^ 32 - 1) k)).toNat := by
  unfold Whole.toUInt32
  rw [Whole.clamp_int, UInt32.toNat_ofNat', Int.pow_eq]
  omega

theorem levelsAcross_le_iff (hx : Exactly x q) (hq : 0 < q) (hhigh : q ≤ 2 ^ (32 : ℤ)) (L : ℕ) :
    (levelsAcross x).toNat ≤ L ↔ q ≤ 2 ^ (L : ℤ) := by
  have hclog : ∀ k : ℤ, q ≤ 2 ^ k ↔ Int.clog 2 q ≤ k := by
    intro k
    exact Int.le_zpow_iff_clog_le one_lt_two hq
  have hle := (hclog 32).1 hhigh
  rw [hclog, levelsAcross, hx.ceilLog2 hq, Whole.toNat_toUInt32]
  omega

theorem le_levelOfFit_iff (hx : Exactly x q) (hq : 0 < q) (hlow : 2 ^ (-32 : ℤ) ≤ q) (L : ℕ) :
    -(L : ℤ) ≤ levelOfFit x ↔ 2 ^ (-(L : ℤ)) ≤ q := by
  have hlog : ∀ k : ℤ, 2 ^ k ≤ q ↔ k ≤ Int.log 2 q := by
    intro k
    exact Int.zpow_le_iff_le_log one_lt_two hq
  have hle := (hlog (-32)).1 hlow
  rw [hlog, levelOfFit, hx.floorLog2 hq, Whole.clamp_int, Int.pow_eq]
  omega

theorem levelOfFit_nonpos (x : Float) : levelOfFit x ≤ 0 := by
  unfold levelOfFit
  generalize (Exact.ofFloat x).floorLog2 = w
  cases w with
  | nan => decide
  | infinite negative => cases negative <;> decide
  | int k =>
      rw [Whole.clamp_int, Int.pow_eq]
      omega

/-! ## Levels from logarithms -/

/-- The levels as they are found from logarithms of quotients. -/
def LevelRule.byLog2 (log2 : Float → Float) : LevelRule where
  covering across := (Exact.ofFloat (log2 across)).ceil.toUInt32
  fitting fit := (Exact.ofFloat (log2 fit)).floor.clamp (-Int.pow 2 31) 0

/-- A double that is positive and not too near to a power of two without being one. -/
structure Clear (x : Float) : Prop where
  isFinite : x.isFinite = true
  pos : 0 < rational x
  apart : Apart (1 / 2 ^ 34) (rational x)

theorem Clear.exactly (h : Clear x) : Exactly x (rational x) := ⟨h.isFinite, rfl⟩

theorem Clear.covering_eq (h : Clear x) (hlog : Logarithm log2) :
    (LevelRule.byLog2 log2).covering x = levelsAcross x := by
  show (Exact.ofFloat (log2 x)).ceil.toUInt32 = (Exact.ofFloat x).ceilLog2.toUInt32
  rw [hlog.ceil h.exactly h.pos h.apart, h.exactly.ceilLog2 h.pos]

theorem Clear.fitting_eq (h : Clear x) (hlog : Logarithm log2) :
    (LevelRule.byLog2 log2).fitting x = levelOfFit x := by
  show (Exact.ofFloat (log2 x)).floor.clamp _ _ = (Exact.ofFloat x).floorLog2.clamp _ _
  rw [hlog.floor h.exactly h.pos h.apart, h.exactly.floorLog2 h.pos]

theorem clear_quotient {n d : UInt32} (hn : n ≠ 0) (hd : d ≠ 0) : Clear (n.toFloat / d.toFloat) where
  isFinite := (nearly_quotient hn hd).isFinite
  pos := (nearly_quotient hn hd).pos (quotient_pos hn hd)
  apart := apart_rational_quotient hn hd

theorem Clear.max (hx : Clear x) (hy : Clear y) : Clear (max x y) := by
  rcases Levels.max_cases x y with h | h <;> rwa [h]

theorem Clear.min (hx : Clear x) (hy : Clear y) : Clear (min x y) := by
  show Clear (if x ≤ y then x else y)
  split <;> assumption

/-! ## Levels of a map -/

/-- The levels of a map of an image of a given size, with tiles and in an element of given sizes. -/
structure MapParams.Levelled (params : MapParams)
    (width height tileWidth tileHeight nodeWidth nodeHeight : UInt32) : Prop where
  maxLevel : IsLeast {L : ℕ | width.toNat ≤ tileWidth.toNat * 2 ^ L ∧
    height.toNat ≤ tileHeight.toNat * 2 ^ L} params.maxLevel.toNat
  unitsPerPixel : Exactly params.unitsPerPixel (2 ^ params.maxLevel.toNat)
  minLevel : IsGreatest {L : ℤ | L ≤ 0 ∧ width.toNat ≤ nodeWidth.toNat * 2 ^ (-L).toNat ∧
    height.toNat ≤ nodeHeight.toNat * 2 ^ (-L).toNat} params.minLevel

theorem quotient_le_two_pow_iff {n d : UInt32} (hd : d ≠ 0) (L : ℕ) :
    (n.toNat / d.toNat : ℚ) ≤ 2 ^ (L : ℤ) ↔ n.toNat ≤ d.toNat * 2 ^ L := by
  have hdq : (0 : ℚ) < d.toNat := by exact_mod_cast toNat_pos hd
  rw [div_le_iff₀ hdq, zpow_natCast, mul_comm]
  norm_cast

theorem two_pow_neg_le_quotient_iff {n d : UInt32} (hd : d ≠ 0) (L : ℕ) :
    (2 : ℚ) ^ (-(L : ℤ)) ≤ n.toNat / d.toNat ↔ d.toNat ≤ n.toNat * 2 ^ L := by
  have hdq : (0 : ℚ) < d.toNat := by exact_mod_cast toNat_pos hd
  rw [le_div_iff₀ hdq, zpow_neg, zpow_natCast, inv_mul_le_iff₀ (by positivity), mul_comm]
  norm_cast

section Sides

variable {width height tileWidth tileHeight nodeWidth nodeHeight : UInt32}
variable (hwidth : width ≠ 0) (hheight : height ≠ 0)
include hwidth hheight

theorem levelsAcross_tilesAcross (htileWidth : tileWidth ≠ 0) (htileHeight : tileHeight ≠ 0) (L : ℕ) :
    (levelsAcross (tilesAcross width.toFloat height.toFloat tileWidth.toFloat
        tileHeight.toFloat)).toNat ≤ L ↔
      width.toNat ≤ tileWidth.toNat * 2 ^ L ∧ height.toNat ≤ tileHeight.toNat * 2 ^ L := by
  have hx := clear_quotient hwidth htileWidth
  have hy := clear_quotient hheight htileHeight
  have hhigh : ∀ {n d : UInt32}, n ≠ 0 → d ≠ 0 → rational (n.toFloat / d.toFloat) ≤ 2 ^ (32 : ℤ) := by
    intro n d hn hd
    exact (rational_quotient_le_iff hn hd 32).2 (quotient_bounds hn hd).2
  have hmax := levelsAcross_le_iff (hx.exactly.max hy.exactly) (lt_max_of_lt_left hx.pos)
    (max_le (hhigh hwidth htileWidth) (hhigh hheight htileHeight)) L
  rw [tilesAcross, hmax, max_le_iff, rational_quotient_le_iff hwidth htileWidth,
    rational_quotient_le_iff hheight htileHeight, quotient_le_two_pow_iff htileWidth,
    quotient_le_two_pow_iff htileHeight]

theorem le_levelOfFit (hnodeWidth : nodeWidth ≠ 0) (hnodeHeight : nodeHeight ≠ 0) (L : ℕ) :
    -(L : ℤ) ≤ levelOfFit (min (nodeWidth.toFloat / width.toFloat)
        (nodeHeight.toFloat / height.toFloat)) ↔
      width.toNat ≤ nodeWidth.toNat * 2 ^ L ∧ height.toNat ≤ nodeHeight.toNat * 2 ^ L := by
  have hx := clear_quotient hnodeWidth hwidth
  have hy := clear_quotient hnodeHeight hheight
  have hlow : ∀ {n d : UInt32}, n ≠ 0 → d ≠ 0 →
      (2 : ℚ) ^ (-32 : ℤ) ≤ rational (n.toFloat / d.toFloat) := by
    intro n d hn hd
    exact (le_rational_quotient_iff hn hd (-32)).2 (quotient_bounds hn hd).1
  have hmin := le_levelOfFit_iff (hx.exactly.min hy.exactly) (lt_min hx.pos hy.pos)
    (le_min (hlow hnodeWidth hwidth) (hlow hnodeHeight hheight)) L
  rw [hmin, le_min_iff, le_rational_quotient_iff hnodeWidth hwidth,
    le_rational_quotient_iff hnodeHeight hheight, two_pow_neg_le_quotient_iff hwidth,
    two_pow_neg_le_quotient_iff hheight]

end Sides

theorem isLeast_of_iff {P : ℕ → Prop} {n : ℕ} (h : ∀ L, n ≤ L ↔ P L) : IsLeast {L | P L} n :=
  ⟨(h n).1 le_rfl, fun L hL => (h L).2 hL⟩

theorem isGreatest_of_iff {P : ℕ → Prop} {k : ℤ} (hk : k ≤ 0) (h : ∀ L : ℕ, -(L : ℤ) ≤ k ↔ P L) :
    IsGreatest {L : ℤ | L ≤ 0 ∧ P (-L).toNat} k := by
  have hneg : ∀ L : ℤ, L ≤ 0 → -((-L).toNat : ℤ) = L := by
    intro L hL
    omega
  refine ⟨⟨hk, (h _).1 (hneg k hk).le⟩, fun L ⟨hL, hP⟩ => ?_⟩
  rw [← hneg L hL]
  exact (h _).2 hP

theorem nodeSide_ne_zero (node : UInt32) {tile : UInt32} (htile : tile ≠ 0) :
    nodeSide node tile ≠ 0 := by
  unfold nodeSide
  split
  · exact htile
  · assumption

/-- A power of two that is not great. -/
theorem exactly_twoPow {k : ℕ} (hk : k ≤ 32) : Exactly (twoPow k) (2 ^ k) := by
  have hrep : Representable ((1 : ℕ) * 2 ^ (k : ℤ)) :=
    representable_scaled (k := 1) (by norm_num) (by omega) (by omega)
  have h := exactly_toNearest hrep
  rw [Nat.cast_one, one_mul, zpow_natCast] at h
  unfold twoPow
  rwa [if_neg (by omega)]

theorem signed32_eq {n : UInt32} (hn : n.toNat < 2 ^ 31) : signed32 n = n.toNat := by
  show n.toBitVec.toInt = n.toBitVec.toNat
  exact BitVec.toInt_eq_toNat_of_lt (by show 2 * n.toNat < 2 ^ 32; omega)

/-- There are never more than 33 levels. -/
theorem le_two_pow_32 {n d : UInt32} (hd : d ≠ 0) : n.toNat ≤ d.toNat * 2 ^ 32 :=
  n.toNat_lt.le.trans (Nat.le_mul_of_pos_left _ (toNat_pos hd))

theorem MapParams.levelled_ofImage (nodeWidth nodeHeight : UInt32) (info : TileInfo)
    (url : TileAddress) :
    (ofImage nodeWidth nodeHeight info url).Levelled (atLeastOne info.sizeX)
      (atLeastOne info.sizeY) (atLeastOne info.tileWidth) (atLeastOne info.tileHeight)
      (nodeSide nodeWidth (atLeastOne info.tileWidth))
      (nodeSide nodeHeight (atLeastOne info.tileHeight)) := by
  have hsize := Levels.atLeastOne_ne_zero
  have hmax := levelsAcross_tilesAcross (hsize info.sizeX) (hsize info.sizeY)
    (hsize info.tileWidth) (hsize info.tileHeight)
  have hmin := le_levelOfFit (hsize info.sizeX) (hsize info.sizeY)
    (nodeSide_ne_zero nodeWidth (hsize info.tileWidth))
    (nodeSide_ne_zero nodeHeight (hsize info.tileHeight))
  have hdepth : (ofImage nodeWidth nodeHeight info url).maxLevel.toNat ≤ 32 :=
    (hmax 32).2 ⟨le_two_pow_32 (hsize _), le_two_pow_32 (hsize _)⟩
  refine ⟨isLeast_of_iff hmax, ?_, isGreatest_of_iff (levelOfFit_nonpos _) hmin⟩
  show Exactly (twoPow (signed32 (ofImage nodeWidth nodeHeight info url).maxLevel)) _
  rw [signed32_eq (by omega)]
  exact exactly_twoPow hdepth

/-- The levels decide all the rest. -/
theorem MapParams.ofImageBy_byLog2 (hlog : Logarithm log2) (nodeWidth nodeHeight : UInt32)
    (info : TileInfo) (url : TileAddress) :
    ofImageBy (.byLog2 log2) nodeWidth nodeHeight info url
      = ofImage nodeWidth nodeHeight info url := by
  have hsize := Levels.atLeastOne_ne_zero
  have hside : ∀ node tile, nodeSide node (atLeastOne tile) ≠ 0 := by
    intro node tile
    exact nodeSide_ne_zero node (hsize tile)
  have hacross : Clear (tilesAcross (atLeastOne info.sizeX).toFloat
      (atLeastOne info.sizeY).toFloat (atLeastOne info.tileWidth).toFloat
      (atLeastOne info.tileHeight).toFloat) :=
    (clear_quotient (hsize _) (hsize _)).max (clear_quotient (hsize _) (hsize _))
  have hfit := (clear_quotient (hside nodeWidth info.tileWidth) (hsize info.sizeX)).min
    (clear_quotient (hside nodeHeight info.tileHeight) (hsize info.sizeY))
  unfold ofImage ofImageBy
  simp only [hacross.covering_eq hlog, hfit.fitting_eq hlog, LevelRule.exact]
  rfl

/-- **Rounding does not show in the levels of a map.** With levels found from logarithms of
quotients, the deepest level is the least at which one tile covers the image, a pixel of it stands
for as many pixels as that power of two, and the map zooms out to the greatest level, zero or below,
at which the image fits into the element. Any logarithm will do that is exact for powers of two and
at most `2^-40` off elsewhere, and so will the exact quotients. -/
theorem MapParams.ofImageBy_levels (hlog : Logarithm log2) (nodeWidth nodeHeight : UInt32)
    (info : TileInfo) (url : TileAddress) :
    (ofImageBy (.byLog2 log2) nodeWidth nodeHeight info url).Levelled (atLeastOne info.sizeX)
        (atLeastOne info.sizeY) (atLeastOne info.tileWidth) (atLeastOne info.tileHeight)
        (nodeSide nodeWidth (atLeastOne info.tileWidth))
        (nodeSide nodeHeight (atLeastOne info.tileHeight)) ∧
      ofImageBy (.byLog2 log2) nodeWidth nodeHeight info url
        = ofImage nodeWidth nodeHeight info url := by
  have hsame := ofImageBy_byLog2 hlog nodeWidth nodeHeight info url
  refine ⟨?_, hsame⟩
  rw [hsame]
  exact levelled_ofImage nodeWidth nodeHeight info url

/-- An image of 40 by 32 tiles, less a little at the right edge. -/
def wideImage : TileInfo :=
  { levels := 7, sizeX := 10000, sizeY := 8000, tileWidth := 256, tileHeight := 256 }

theorem MapParams.ofImageBy_levels_of_wideImage :
    Logarithm truncatedLog2 ∧
      (ofImageBy (.byLog2 truncatedLog2) 800 600 wideImage ⟨""⟩).maxLevel = 6 ∧
      (ofImageBy (.byLog2 truncatedLog2) 800 600 wideImage ⟨""⟩).unitsPerPixel = 64.0 ∧
      (ofImageBy (.byLog2 truncatedLog2) 800 600 wideImage ⟨""⟩).minLevel = -4 ∧
      IsLeast {L : ℕ | 10000 ≤ 256 * 2 ^ L ∧ 8000 ≤ 256 * 2 ^ L} 6 ∧
      IsGreatest {L : ℤ | L ≤ 0 ∧ 10000 ≤ 800 * 2 ^ (-L).toNat ∧ 8000 ≤ 600 * 2 ^ (-L).toNat}
        (-4) := by
  obtain ⟨hlevelled, hsame⟩ := ofImageBy_levels logarithm_truncatedLog2 800 600 wideImage ⟨""⟩
  have hmax : (ofImage 800 600 wideImage ⟨""⟩).maxLevel = 6 := by decide +kernel
  have hunits : (ofImage 800 600 wideImage ⟨""⟩).unitsPerPixel = 64.0 := by decide +kernel
  have hmin : (ofImage 800 600 wideImage ⟨""⟩).minLevel = -4 := by decide +kernel
  have hleast := hlevelled.maxLevel
  have hgreatest := hlevelled.minLevel
  rw [hsame, hmax] at hleast
  rw [hsame, hmin] at hgreatest
  rw [hsame]
  exact ⟨logarithm_truncatedLog2, hmax, hunits, hmin, hleast, hgreatest⟩

end ImageOverlay
