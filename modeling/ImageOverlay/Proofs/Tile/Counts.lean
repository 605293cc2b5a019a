import ImageOverlay.Proofs.Tile.Depth
import Mathlib.Algebra.Order.Floor.Div

set_option autoImplicit false

/-!
# How many tiles a level has

Tiles and pixels of a level are counted in doubles: a side is divided by the side of a tile and by
the scale of the level, and what comes out is rounded to a whole number. The scale is a power of
two, so dividing by it rounds nothing (`Exactly.div_twoPow`), and the division before it cannot push
a quotient of sizes across a whole number (`Nearly.le_natCast_iff`). The counts are therefore those
of integer division (`MapParams.layer_counted`).

The two counts round in different directions: tiles are counted to cover all of the image, but only
whole pixels of a level are counted. So the tiles cover the box of the level, and what they cover of
the image is never nothing; but a last tile with less than a pixel of the image in it starts where
the box ends (`MapParams.layer_tiled`).
-/

namespace ImageOverlay

open Rounding

variable {x : Float} {q : ℚ} {t : TileLayer} {size tile level : UInt32}

/-! ## Scales -/

/-- Dividing by a power of two only changes the exponent. -/
theorem Exactly.div_twoPow (hx : Exactly x q) (hq : 2 ^ (-900 : ℤ) ≤ q) {k : ℕ} (hk : k ≤ 32) :
    Exactly (x / twoPow k) (q / 2 ^ k) := by
  have hunit : (2 : ℚ) ^ k ≠ 0 := by positivity
  refine hx.div (exactly_twoPow hk) hunit ?_
  have hpos : 0 < q := (two_zpow_pos _).trans_le hq
  rcases hx.cases with ⟨_, _, rfl⟩ | ⟨s, m, e, hc, _, hvalue⟩
  · exact absurd hpos (lt_irrefl 0)
  have hsize : |q| = m * 2 ^ e := by
    rw [hvalue, abs_sign_mul, abs_of_pos (size_pos hc)]
  have hlow : (2 : ℚ) ^ (-900 : ℤ) < 2 ^ (53 + e) :=
    calc (2 : ℚ) ^ (-900 : ℤ) ≤ m * 2 ^ e := by rwa [← hsize, abs_of_pos hpos]
      _ < 2 ^ 53 * 2 ^ e := by
          gcongr
          exact_mod_cast hc.lt
      _ = 2 ^ (53 + e) := by
          rw [zpow_add₀ two_ne_zero]
          rfl
  have he := (zpow_lt_zpow_iff_right₀ one_lt_two).1 hlow
  have hmax := hc.max
  refine ⟨m, e - k, hc.lt, by omega, by omega, ?_⟩
  rw [abs_div, hsize, zpow_sub₀ two_ne_zero, zpow_natCast, mul_div_assoc,
    abs_of_pos (by positivity)]

/-- How many levels lie between a level and the deepest one. -/
def TileLayer.above (t : TileLayer) (level : UInt32) : ℕ :=
  t.maxLevel.toNat - min level.toNat t.maxLevel.toNat

/-- A layer with sides, with so many levels that one tile of the first holds the image. -/
structure TileLayer.Pyramid (t : TileLayer) : Prop where
  width : t.width ≠ 0
  height : t.height ≠ 0
  tileWidth : t.tileWidth ≠ 0
  tileHeight : t.tileHeight ≠ 0
  maxLevel : t.maxLevel.toNat ≤ 32
  single : t.width.toNat ≤ t.tileWidth.toNat * 2 ^ t.maxLevel.toNat ∧
    t.height.toNat ≤ t.tileHeight.toNat * 2 ^ t.maxLevel.toNat

theorem MapParams.pyramid_ofImage (nodeWidth nodeHeight : UInt32) (info : TileInfo)
    (url : TileAddress) : (ofImage nodeWidth nodeHeight info url).layer.Pyramid := by
  have hsize := Levels.atLeastOne_ne_zero
  have hleast := (levelled_ofImage nodeWidth nodeHeight info url).maxLevel
  exact
    { width := hsize _
      height := hsize _
      tileWidth := hsize _
      tileHeight := hsize _
      maxLevel := hleast.2 ⟨le_two_pow_32 (hsize _), le_two_pow_32 (hsize _)⟩
      single := hleast.1 }

theorem TileLayer.Pyramid.above_le (h : t.Pyramid) (level : UInt32) : t.above level ≤ 32 :=
  (Nat.sub_le _ _).trans h.maxLevel

theorem TileLayer.Pyramid.scale_eq (h : t.Pyramid) (level : UInt32) :
    t.scale level = twoPow (t.above level) := by
  have hmin : (min level t.maxLevel).toNat = min level.toNat t.maxLevel.toNat := by
    show (if level ≤ t.maxLevel then level else t.maxLevel).toNat = _
    rw [apply_ite UInt32.toNat, Nat.min_def]
    rfl
  have hle : min level t.maxLevel ≤ t.maxLevel := by
    rw [UInt32.le_iff_toNat_le, hmin]
    exact min_le_right _ _
  have habove : (t.maxLevel - min level t.maxLevel).toNat = t.above level := by
    rw [UInt32.toNat_sub_of_le _ _ hle, hmin, above]
  have hsmall := h.above_le level
  rw [scale, signed32_eq (by omega), habove]

theorem TileLayer.above_add_one (hlevel : level < t.maxLevel) :
    t.above level = t.above (level + 1) + 1 := by
  have hlt := UInt32.lt_iff_toNat_lt.1 hlevel
  have hmax := t.maxLevel.toNat_lt
  have hsucc : (level + 1).toNat = level.toNat + 1 := by
    rw [UInt32.toNat_add]
    exact Nat.mod_eq_of_lt (by show level.toNat + 1 < 2 ^ 32; omega)
  rw [above, above, hsucc]
  omega

/-! ## Counts -/

section Side

variable (h : t.Pyramid) (hsize : size ≠ 0)
include h hsize

/-- The tiles along a side of the image are counted as in integer division. -/
theorem TileLayer.Pyramid.tilesAlong_eq (htile : tile ≠ 0) (level : UInt32) :
    t.tilesAlong level size tile
      = .int (size.toNat ⌈/⌉ (tile.toNat * 2 ^ t.above level) : ℕ) := by
  have hquot := nearly_quotient hsize htile
  have hpos : 0 < tile.toNat * 2 ^ t.above level := Nat.mul_pos (toNat_pos htile) (by positivity)
  have hunit : (0 : ℚ) < 2 ^ t.above level := by positivity
  have hlow : (2 : ℚ) ^ (-900 : ℤ) ≤ rational (size.toFloat / tile.toFloat) :=
    (zpow_le_zpow_right₀ one_le_two (by norm_num)).trans
      ((le_rational_quotient_iff hsize htile (-32)).2 (quotient_bounds hsize htile).1)
  have hscaled := hquot.exactly.div_twoPow hlow (h.above_le level)
  rw [tilesAlong, h.scale_eq, hscaled.ceil]
  have hceil : 0 ≤ ⌈rational (size.toFloat / tile.toFloat) / 2 ^ t.above level⌉ :=
    Int.ceil_nonneg (div_nonneg ((two_zpow_pos _).le.trans hlow) hunit.le)
  obtain ⟨n, hn⟩ := Int.eq_ofNat_of_zero_le hceil
  rw [hn]
  congr 2
  -- Both are the least number of tiles that reaches the end of the side.
  refine eq_of_forall_ge_iff fun c => ?_
  have hcast : n ≤ c ↔ rational (size.toFloat / tile.toFloat) / 2 ^ t.above level ≤ (c : ℤ) := by
    rw [← Int.ceil_le, hn, Int.ofNat_le]
  rw [hcast, Int.cast_natCast, div_le_iff₀ hunit, ceilDiv_le_iff_le_mul hpos]
  have hside := hquot.le_natCast_iff size.toNat_lt (toNat_pos htile) (c * 2 ^ t.above level)
  push_cast at hside
  rw [hside]
  ring_nf

/-- The whole pixels along a side of the image are counted as in integer division. -/
theorem TileLayer.Pyramid.pixelsAlong_eq (level : UInt32) :
    t.pixelsAlong level size = .int (size.toNat / 2 ^ t.above level : ℕ) := by
  have hone : (1 : ℚ) ≤ size.toNat := by exact_mod_cast toNat_pos hsize
  have hlow : (2 : ℚ) ^ (-900 : ℤ) ≤ size.toNat :=
    (zpow_le_one_of_nonpos₀ one_le_two (by norm_num)).trans hone
  have hscaled := (exactly_toFloat size).div_twoPow hlow (h.above_le level)
  have hfraction : (size.toNat / 2 ^ t.above level : ℚ)
      = size.toNat / ((2 ^ t.above level : ℕ) : ℚ) := by
    push_cast
    rfl
  rw [pixelsAlong, h.scale_eq, hscaled.floor, hfraction, Rat.floor_natCast_div_natCast]
  rfl

end Side

/-- A count is what it is converted from, as long as it is no greater than a side. -/
theorem Whole.toNat_toUInt32_natCast {n : ℕ} (hn : n ≤ size.toNat) :
    (Whole.int n).toUInt32.toNat = n := by
  have hlt := size.toNat_lt
  rw [toNat_toUInt32]
  omega

theorem ceilDiv_le_self (n : ℕ) {d : ℕ} (hd : 0 < d) : n ⌈/⌉ d ≤ n :=
  (ceilDiv_le_iff_le_mul hd).2 (Nat.le_mul_of_pos_left n hd)

/-- A level has half as many tiles as the next one, and one more if those are odd in number. -/
theorem ceilDiv_mul_two (n : ℕ) {d : ℕ} (hd : 0 < d) : n ⌈/⌉ (d * 2) = n ⌈/⌉ d ⌈/⌉ 2 := by
  refine eq_of_forall_ge_iff fun c => ?_
  rw [ceilDiv_le_iff_le_mul (Nat.mul_pos hd two_pos), ceilDiv_le_iff_le_mul two_pos,
    ceilDiv_le_iff_le_mul hd, mul_assoc]

/-- The tiles and the size of a level, counted with whole numbers only. -/
structure TileLayer.Counted (t : TileLayer) (level : UInt32) : Prop where
  scale : Exactly (t.scale level) (2 ^ t.above level)
  columns : (t.tilesAt level).1.toNat
    = t.width.toNat ⌈/⌉ (t.tileWidth.toNat * 2 ^ t.above level)
  rows : (t.tilesAt level).2.toNat
    = t.height.toNat ⌈/⌉ (t.tileHeight.toNat * 2 ^ t.above level)
  width : (t.sizeAt level).1.toNat = t.width.toNat / 2 ^ t.above level
  height : (t.sizeAt level).2.toNat = t.height.toNat / 2 ^ t.above level
  /-- No count is out of range, so none is cut off when it is converted. -/
  kept : t.tilesAlong level t.width t.tileWidth = .int (t.tilesAt level).1.toNat ∧
    t.tilesAlong level t.height t.tileHeight = .int (t.tilesAt level).2.toNat ∧
    t.pixelsAlong level t.width = .int (t.sizeAt level).1.toNat ∧
    t.pixelsAlong level t.height = .int (t.sizeAt level).2.toNat

theorem TileLayer.Pyramid.counted (h : t.Pyramid) (level : UInt32) : t.Counted level := by
  have htiles : ∀ {size tile}, size ≠ 0 → tile ≠ 0 →
      (t.tilesAlong level size tile).toUInt32.toNat
        = size.toNat ⌈/⌉ (tile.toNat * 2 ^ t.above level) := by
    intro size tile hsize htile
    rw [h.tilesAlong_eq hsize htile]
    exact Whole.toNat_toUInt32_natCast
      (ceilDiv_le_self _ (Nat.mul_pos (toNat_pos htile) (by positivity)))
  have hpixels : ∀ {size}, size ≠ 0 →
      (t.pixelsAlong level size).toUInt32.toNat = size.toNat / 2 ^ t.above level := by
    intro size hsize
    rw [h.pixelsAlong_eq hsize]
    exact Whole.toNat_toUInt32_natCast (Nat.div_le_self _ _)
  have hscale : Exactly (t.scale level) (2 ^ t.above level) := by
    rw [h.scale_eq]
    exact exactly_twoPow (h.above_le level)
  refine
    { scale := hscale
      columns := htiles h.width h.tileWidth
      rows := htiles h.height h.tileHeight
      width := hpixels h.width
      height := hpixels h.height
      kept := ?_ }
  rw [tilesAt, sizeAt, htiles h.width h.tileWidth, htiles h.height h.tileHeight, hpixels h.width,
    hpixels h.height]
  exact ⟨h.tilesAlong_eq h.width h.tileWidth level, h.tilesAlong_eq h.height h.tileHeight level,
    h.pixelsAlong_eq h.width level, h.pixelsAlong_eq h.height level⟩

/-- The first level is one tile. -/
theorem TileLayer.Pyramid.tilesAt_zero (h : t.Pyramid) : t.tilesAt 0 = (1, 1) := by
  have hcount := h.counted 0
  have habove : t.above 0 = t.maxLevel.toNat := by
    rw [above]
    exact Nat.sub_eq_of_eq_add (by simp)
  have hone : ∀ {size tile : UInt32}, size ≠ 0 → tile ≠ 0 →
      size.toNat ≤ tile.toNat * 2 ^ t.maxLevel.toNat →
      size.toNat ⌈/⌉ (tile.toNat * 2 ^ t.maxLevel.toNat) = 1 := by
    intro size tile hsize htile hle
    have hpos : 0 < tile.toNat * 2 ^ t.maxLevel.toNat :=
      Nat.mul_pos (toNat_pos htile) (by positivity)
    apply le_antisymm
    · rwa [ceilDiv_le_iff_le_mul hpos, mul_one]
    · have hzero := (ceilDiv_le_iff_le_mul (b := size.toNat) (c := 0) hpos).1
      have := toNat_pos hsize
      omega
  refine Prod.ext (UInt32.toNat_inj.1 ?_) (UInt32.toNat_inj.1 ?_)
  · rw [hcount.columns, habove, hone h.width h.tileWidth h.single.1]
    rfl
  · rw [hcount.rows, habove, hone h.height h.tileHeight h.single.2]
    rfl

/-- Every level but the deepest halves the next one. -/
theorem TileLayer.Pyramid.tilesAt_halves (h : t.Pyramid) (hlevel : level < t.maxLevel) :
    (t.tilesAt level).1.toNat = (t.tilesAt (level + 1)).1.toNat ⌈/⌉ 2 ∧
      (t.tilesAt level).2.toNat = (t.tilesAt (level + 1)).2.toNat ⌈/⌉ 2 := by
  have hhere := h.counted level
  have hnext := h.counted (level + 1)
  have hpos : ∀ {tile : UInt32}, tile ≠ 0 → 0 < tile.toNat * 2 ^ t.above (level + 1) := by
    intro tile htile
    exact Nat.mul_pos (toNat_pos htile) (by positivity)
  rw [hhere.columns, hhere.rows, hnext.columns, hnext.rows, above_add_one hlevel, pow_succ,
    ← mul_assoc, ← mul_assoc]
  exact ⟨ceilDiv_mul_two _ (hpos h.tileWidth), ceilDiv_mul_two _ (hpos h.tileHeight)⟩

/-- Levels beyond the deepest are the deepest. -/
theorem TileLayer.scale_of_maxLevel_le (hlevel : t.maxLevel ≤ level) :
    t.scale level = t.scale t.maxLevel := by
  have hmin : min level t.maxLevel = t.maxLevel := by
    show (if level ≤ t.maxLevel then level else t.maxLevel) = _
    split
    · exact UInt32.le_antisymm ‹_› hlevel
    · rfl
  rw [scale, scale, hmin]
  congr 3
  show t.maxLevel = if t.maxLevel ≤ t.maxLevel then t.maxLevel else t.maxLevel
  rw [ite_self]

/-- How the levels of a layer grow out of one tile, and where they end. -/
structure TileLayer.Tapers (t : TileLayer) (level : UInt32) : Prop where
  single : t.tilesAt 0 = (1, 1)
  halves : level < t.maxLevel →
    (t.tilesAt level).1.toNat = (t.tilesAt (level + 1)).1.toNat ⌈/⌉ 2 ∧
      (t.tilesAt level).2.toNat = (t.tilesAt (level + 1)).2.toNat ⌈/⌉ 2
  beyond : t.maxLevel ≤ level →
    t.tilesAt level = t.tilesAt t.maxLevel ∧ t.sizeAt level = t.sizeAt t.maxLevel

theorem TileLayer.Pyramid.tapers (h : t.Pyramid) (level : UInt32) : t.Tapers level := by
  refine ⟨h.tilesAt_zero, h.tilesAt_halves, fun hlevel => ?_⟩
  have hscale := scale_of_maxLevel_le hlevel
  simp only [tilesAt, sizeAt, tilesAlong, pixelsAlong, hscale, and_self]

/-- **The levels of a map are counted as in integer division**, with no loss on the way. The first
level is one tile, every level but the deepest halves the next one, and levels beyond the deepest
repeat it. -/
theorem MapParams.layer_counted (nodeWidth nodeHeight : UInt32) (info : TileInfo)
    (url : TileAddress) (level : UInt32) :
    (ofImage nodeWidth nodeHeight info url).layer.Counted level ∧
      (ofImage nodeWidth nodeHeight info url).layer.Tapers level := by
  have h := pyramid_ofImage nodeWidth nodeHeight info url
  exact ⟨h.counted level, h.tapers level⟩

/-! ## Tiles and pixels -/

/-- How tiles lie along a side of the image: so many of them, each `tile` pixels of a level long,
where a pixel of the level is `unit` pixels of the image and `pixels` of them are whole. -/
structure Tiled (size tile unit count pixels : ℕ) : Prop where
  /-- The tiles cover the side, and each covers some of it. -/
  covers : size ≤ count * tile * unit
  overlaps : (count - 1) * tile * unit < size
  /-- The tiles cover the box, and each starts within it or where it ends. -/
  reaches : pixels ≤ count * tile
  starts : (count - 1) * tile ≤ pixels
  /-- The last starts where the box ends if it has less than a pixel of the image. -/
  within : (count - 1) * tile < pixels ↔
    ¬ (0 < size % (tile * unit) ∧ size % (tile * unit) < unit)

theorem tiled {size tile unit : ℕ} (hsize : 0 < size) (htile : 0 < tile) (hunit : 0 < unit) :
    Tiled size tile unit (size ⌈/⌉ (tile * unit)) (size / unit) := by
  have hpos : 0 < tile * unit := Nat.mul_pos htile hunit
  have hcount : ∀ n, size ⌈/⌉ (tile * unit) ≤ n ↔ size ≤ n * (tile * unit) := by
    intro n
    rw [ceilDiv_le_iff_le_mul hpos, mul_comm]
  generalize size ⌈/⌉ (tile * unit) = count at hcount ⊢
  have hcovers := (hcount count).1 le_rfl
  obtain _ | n := count
  · omega
  have hoverlaps : n * (tile * unit) < size := by
    rw [← not_le, ← hcount]
    omega
  -- What is left of the side for the last tile, which is the remainder unless it is a whole tile.
  obtain ⟨rest, rfl⟩ := Nat.exists_eq_add_of_le hoverlaps.le
  have hrest : 0 < rest := by omega
  have hrest' : rest ≤ tile * unit := by
    rw [Nat.succ_mul] at hcovers
    omega
  have hstrict : n * tile < (n * (tile * unit) + rest) / unit ↔ unit ≤ rest := by
    rw [← Nat.add_one_le_iff, Nat.le_div_iff_mul_le hunit, Nat.succ_mul, mul_assoc]
    omega
  refine
    { covers := by rwa [mul_assoc]
      overlaps := by rwa [Nat.add_sub_cancel, mul_assoc]
      reaches := ?_
      starts := ?_
      within := ?_ }
  · exact Nat.div_le_of_le_mul (hcovers.trans_eq (by ring))
  · rw [Nat.add_sub_cancel, Nat.le_div_iff_mul_le hunit, mul_assoc]
    exact hoverlaps.le
  · rw [Nat.add_sub_cancel, hstrict, Nat.mul_add_mod_self_right]
    have hle : unit ≤ tile * unit := Nat.le_mul_of_pos_left unit htile
    rcases hrest'.lt_or_eq with hlt | rfl
    · rw [Nat.mod_eq_of_lt hlt]
      omega
    · rw [Nat.mod_self]
      omega

/-- **Tiles and box of a level belong together.** Along both sides the tiles cover the image, each
some of it, and they cover the box of the level. Each tile overlaps the box, save that the last one
starts where the box ends if there is some of the image left for it, but less than a pixel of the
level. At the deepest level all of them overlap it. -/
theorem MapParams.layer_tiled (nodeWidth nodeHeight : UInt32) (info : TileInfo)
    (url : TileAddress) (level : UInt32) :
    let t := (ofImage nodeWidth nodeHeight info url).layer
    Tiled t.width.toNat t.tileWidth.toNat (2 ^ t.above level) (t.tilesAt level).1.toNat
        (t.sizeAt level).1.toNat ∧
      Tiled t.height.toNat t.tileHeight.toNat (2 ^ t.above level) (t.tilesAt level).2.toNat
        (t.sizeAt level).2.toNat ∧
      (t.maxLevel ≤ level →
        ((t.tilesAt level).1.toNat - 1) * t.tileWidth.toNat < (t.sizeAt level).1.toNat ∧
          ((t.tilesAt level).2.toNat - 1) * t.tileHeight.toNat < (t.sizeAt level).2.toNat) := by
  intro t
  have h : t.Pyramid := pyramid_ofImage nodeWidth nodeHeight info url
  have hcount := h.counted level
  rw [hcount.columns, hcount.rows, hcount.width, hcount.height]
  have hpos : 0 < 2 ^ t.above level := by positivity
  have hcolumns := tiled (toNat_pos h.width) (toNat_pos h.tileWidth) hpos
  have hrows := tiled (toNat_pos h.height) (toNat_pos h.tileHeight) hpos
  refine ⟨hcolumns, hrows, fun hlevel => ?_⟩
  -- No remainder lies strictly between zero and the one pixel of the image.
  have hunit : 2 ^ t.above level = 1 := by
    have hle := UInt32.le_iff_toNat_le.1 hlevel
    rw [TileLayer.above, min_eq_right hle, Nat.sub_self, pow_zero]
  constructor
  · rw [hcolumns.within, hunit]
    omega
  · rw [hrows.within, hunit]
    omega

/-- An image one pixel wider than two of its tiles. -/
def protrudingImage : TileInfo :=
  { levels := 3, sizeX := 513, sizeY := 512, tileWidth := 256, tileHeight := 256 }

/-- Tiles need not overlap the box of their level: here the second column starts where it ends. -/
theorem TileLayer.column_beyond_protrudingImage :
    let t := (MapParams.ofImage 800 600 protrudingImage ⟨""⟩).layer
    ¬ (((t.tilesAt 1).1.toNat - 1) * t.tileWidth.toNat < (t.sizeAt 1).1.toNat) := by
  decide +kernel

end ImageOverlay
