import ImageOverlay.Settings.Limits
import ImageOverlay.Proofs.Number.Equality
import ImageOverlay.Proofs.Text.Pieces

set_option autoImplicit false

/-!
# Settings within their limits

Every field is corrected on its own: a number becomes the nearest one within its limits
(`Nearest`), a text that makes no sense the default one (`OrDefault`). The default texts make sense
themselves, so settings that were corrected are valid (`Settings.Corrected.valid`), and because
what is within its limits is left alone, valid settings are corrected to themselves
(`Settings.Corrected.eq`). Which texts are addresses is left open, but for the default one.
-/

namespace ImageOverlay

open Float.Model Float.Model.UnpackedFloat

/-! ## Numbers -/

/-- What a number becomes that is to be brought between two others. -/
structure Nearest {α : Type} [LE α] [LT α] (lo hi x y : α) : Prop where
  below : x < lo → y = lo
  above : hi < x → y = hi
  within : lo ≤ x → x ≤ hi → y = x

theorem Nearest.bounds {α : Type} [LE α] [LT α] {lo hi x y : α} (h : Nearest lo hi x y)
    (hlo : lo ≤ lo ∧ lo ≤ hi) (hhi : lo ≤ hi ∧ hi ≤ hi)
    (hx : x < lo ∨ hi < x ∨ lo ≤ x ∧ x ≤ hi) : lo ≤ y ∧ y ≤ hi := by
  rcases hx with hx | hx | hx
  · rwa [h.below hx]
  · rwa [h.above hx]
  · rwa [h.within hx.1 hx.2]

theorem nearest_clampNode (n : UInt32) : Nearest 1 16384 n (clampNode n) := by
  have hmax : ∀ a b : UInt32, max a b = if a ≤ b then b else a := fun _ _ => rfl
  have hmin : ∀ a b : UInt32, min a b = if a ≤ b then a else b := fun _ _ => rfl
  unfold clampNode nodeLimits
  rw [hmax, hmin]
  constructor <;> grind

theorem clampNode_bounds (n : UInt32) : 1 ≤ clampNode n ∧ clampNode n ≤ 16384 := by
  refine (nearest_clampNode n).bounds (by decide) (by decide) ?_
  grind

/-- What is above the greatest width is not below the least. -/
theorem not_lt_zero_of_hundred_lt {x : Float} (h : 100.0 < x) : ¬ x < 0.0 := by
  have hzero : (0.0 : Float).toModel.unpack = .zero .positive := by decide +kernel
  have hhundred : (100.0 : Float).toModel.unpack
      = .finite .positive (25 * 2 ^ 48) (-46) (by decide) := by decide +kernel
  rw [float_lt_iff, hhundred] at h
  rw [float_lt_iff, hzero]
  generalize x.toModel.unpack = u at h ⊢
  cases u with
  | notANumber | zero => cases h
  | infinity s | finite s => cases s <;> simp_all [UnpackedFloat.compare]

theorem clampWidth_of_isNaN {x : Float} (hx : x.isNaN = true) : clampWidth x = 0.0 := if_pos hx

theorem nearest_clampWidth (x : Float) : Nearest 0.0 100.0 x (clampWidth x) := by
  by_cases hnan : x.isNaN = true
  · -- What is no number is neither above nor between the limits.
    refine ⟨fun _ => clampWidth_of_isNaN hnan, fun h => ?_, fun h _ => ?_⟩
    · exact absurd hnan (not_isNaN_of_le (float_le_of_lt h)).2
    · exact absurd hnan (not_isNaN_of_le h).2
  unfold clampWidth widthLimits
  rw [if_neg hnan]
  refine ⟨fun h => if_pos h, fun h => ?_, fun hlow hhigh => ?_⟩
  · rw [if_neg (not_lt_zero_of_hundred_lt h), if_pos h]
  · rw [if_neg (float_not_lt_of_le hlow), if_neg (float_not_lt_of_le hhigh)]

theorem clampWidth_bounds (x : Float) : 0.0 ≤ clampWidth x ∧ clampWidth x ≤ 100.0 := by
  have hlimits : ¬ (0.0 : Float).isNaN = true ∧ ¬ (100.0 : Float).isNaN = true := by decide +kernel
  by_cases hnan : x.isNaN = true
  · rw [clampWidth_of_isNaN hnan]
    decide +kernel
  refine (nearest_clampWidth x).bounds (by decide +kernel) (by decide +kernel) ?_
  rcases float_lt_or_le hnan hlimits.1 with hlow | hlow
  · exact .inl hlow
  rcases float_lt_or_le hlimits.2 hnan with hhigh | hhigh
  · exact .inr (.inl hhigh)
  · exact .inr (.inr ⟨hlow, hhigh⟩)

/-! ## Texts -/

/-- What a text becomes that is to make sense. -/
structure OrDefault (valid : String → Prop) (dflt x y : String) : Prop where
  kept : valid x → y = x
  replaced : ¬ valid x → y = dflt

theorem OrDefault.valid {valid : String → Prop} {dflt x y : String} (h : OrDefault valid dflt x y)
    (hdflt : valid dflt) : valid y := by
  by_cases hx : valid x
  · rwa [h.kept hx]
  · rwa [h.replaced hx]

theorem orDefault_orDefaultText {valid : String → Bool} {p : String → Prop}
    (hp : ∀ text, valid text = true ↔ p text) (dflt text : String) :
    OrDefault p dflt text (orDefaultText valid dflt text) :=
  ⟨fun h => if_pos ((hp text).2 h), fun h => if_neg (mt (hp text).1 h)⟩

/-- Whether a path has room for the level and the place of a tile. -/
def HasPlaceholders (path : String) : Prop :=
  ∀ name ∈ ["z", "x", "y"], ("\x7b" ++ name ++ "\x7d").toList <:+: path.toList

/-- Whether a text is a colour. -/
def IsColor (text : String) : Prop := ∃ c, Color.parse? text = some c

theorem hasPlaceholders_iff (path : String) :
    hasPlaceholders path = true ↔ HasPlaceholders path := by
  have hname : ∀ name : String,
      ("\x7b" ++ name ++ "\x7d").toList = TileAddress.placeholder name := by
    intro name
    simp [TileAddress.placeholder]
  unfold hasPlaceholders HasPlaceholders
  simp only [List.all_eq_true, Text.contains_iff, hname]

theorem isColor_iff (text : String) : isColor text = true ↔ IsColor text := Option.isSome_iff_exists

/-! ## Settings -/

namespace Settings

variable {isUrl : String → Bool} {s t : Settings}

/-- Settings all of whose fields are within their limits. -/
structure Valid (isUrl : String → Bool) (s : Settings) : Prop where
  apiRoot : isUrl s.tiles.apiRoot = true
  tilePath : HasPlaceholders s.tiles.tilePath
  nodeWidth : 1 ≤ s.tiles.nodeWidth ∧ s.tiles.nodeWidth ≤ 16384
  nodeHeight : 1 ≤ s.tiles.nodeHeight ∧ s.tiles.nodeHeight ≤ 16384
  lineWidth : 0.0 ≤ s.style.lineWidth ∧ s.style.lineWidth ≤ 100.0
  lineWidth_number : ¬ s.style.lineWidth.isNaN = true
  lineColor : IsColor s.style.lineColor
  fillColor : IsColor s.style.fillColor

/-- What settings become, field by field. -/
structure Corrected (isUrl : String → Bool) (s t : Settings) : Prop where
  apiRoot : OrDefault (isUrl · = true) ({} : TileSettings).apiRoot s.tiles.apiRoot t.tiles.apiRoot
  tilePath :
    OrDefault HasPlaceholders ({} : TileSettings).tilePath s.tiles.tilePath t.tiles.tilePath
  nodeWidth : Nearest 1 16384 s.tiles.nodeWidth t.tiles.nodeWidth
  nodeHeight : Nearest 1 16384 s.tiles.nodeHeight t.tiles.nodeHeight
  lineWidth : Nearest 0.0 100.0 s.style.lineWidth t.style.lineWidth
  lineWidth_nan : s.style.lineWidth.isNaN = true → t.style.lineWidth = 0.0
  lineColor : OrDefault IsColor ({} : FallbackStyle).lineColor s.style.lineColor t.style.lineColor
  fillColor : OrDefault IsColor ({} : FallbackStyle).fillColor s.style.fillColor t.style.fillColor
  draw : t.draw = s.draw

theorem corrected_clampBy (isUrl : String → Bool) (s : Settings) :
    Corrected isUrl s (s.clampBy isUrl) where
  apiRoot := orDefault_orDefaultText (fun _ => Iff.rfl) _ _
  tilePath := orDefault_orDefaultText hasPlaceholders_iff _ _
  nodeWidth := nearest_clampNode _
  nodeHeight := nearest_clampNode _
  lineWidth := nearest_clampWidth _
  lineWidth_nan := clampWidth_of_isNaN
  lineColor := orDefault_orDefaultText isColor_iff _ _
  fillColor := orDefault_orDefaultText isColor_iff _ _
  draw := rfl

theorem valid_clampBy (hurl : isUrl ({} : TileSettings).apiRoot = true) (s : Settings) :
    Valid isUrl (s.clampBy isUrl) := by
  have h := corrected_clampBy isUrl s
  -- The default texts make sense by the same rules as every other text.
  have hpath : HasPlaceholders ({} : TileSettings).tilePath :=
    (hasPlaceholders_iff _).1 (by decide +kernel)
  have hline : IsColor ({} : FallbackStyle).lineColor := (isColor_iff _).1 (by decide +kernel)
  have hfill : IsColor ({} : FallbackStyle).fillColor := (isColor_iff _).1 (by decide +kernel)
  have hwidth := clampWidth_bounds s.style.lineWidth
  exact ⟨h.apiRoot.valid hurl, h.tilePath.valid hpath, clampNode_bounds _, clampNode_bounds _,
    hwidth, (not_isNaN_of_le hwidth.1).2, h.lineColor.valid hline, h.fillColor.valid hfill⟩

/-- Valid settings are corrected to themselves. -/
theorem Corrected.eq (h : Corrected isUrl s t) (hs : Valid isUrl s) : t = s :=
  calc
    t = ⟨⟨t.tiles.apiRoot, t.tiles.tilePath, t.tiles.nodeWidth, t.tiles.nodeHeight⟩, t.draw,
          ⟨t.style.lineColor, t.style.lineWidth, t.style.fillColor⟩⟩ := rfl
    _ = s := by
      rw [h.apiRoot.kept hs.apiRoot, h.tilePath.kept hs.tilePath,
        h.nodeWidth.within hs.nodeWidth.1 hs.nodeWidth.2,
        h.nodeHeight.within hs.nodeHeight.1 hs.nodeHeight.2, h.draw,
        h.lineColor.kept hs.lineColor, h.lineWidth.within hs.lineWidth.1 hs.lineWidth.2,
        h.fillColor.kept hs.fillColor]

theorem clampBy_of_valid (hs : Valid isUrl s) : s.clampBy isUrl = s :=
  (corrected_clampBy isUrl s).eq hs

/-- **Settings are brought within their limits, and no further.** Whatever settings say, they become
valid, field by field and without regard to one another: what was within its limits stays, a number
becomes the nearest one, a text the default one. So it is the valid settings that stay as they are,
and to correct settings again changes nothing. Any texts may count as addresses, if only the default
one does. -/
theorem clampBy_corrects (hurl : isUrl ({} : TileSettings).apiRoot = true) (s : Settings) :
    Valid isUrl (s.clampBy isUrl) ∧ Corrected isUrl s (s.clampBy isUrl) ∧
      (s.clampBy isUrl).clampBy isUrl = s.clampBy isUrl ∧
      (s.clampBy isUrl = s ↔ Valid isUrl s) := by
  have hvalid := valid_clampBy hurl s
  refine ⟨hvalid, corrected_clampBy isUrl s, clampBy_of_valid hvalid, ?_, clampBy_of_valid⟩
  intro hs
  rwa [hs] at hvalid

/-- Settings with no field within its limits. -/
def senseless : Settings where
  tiles :=
    { apiRoot := "not a url", tilePath := "tiles/\x7bz\x7d", nodeWidth := 0, nodeHeight := 100000 }
  draw := { trigger := false, retireOn := .drawPass }
  style := { lineColor := "chartreuse-ish", lineWidth := 0.0 / 0.0, fillColor := "#12" }

theorem clampBy_corrects_of_senseless :
    senseless.style.lineWidth.isNaN = true ∧
      senseless.clamp =
        { tiles := { nodeWidth := 1, nodeHeight := 16384 }
          draw := senseless.draw
          style := { lineWidth := 0.0 } } ∧
      Valid Url.isAbsolute senseless.clamp ∧ senseless.clamp.clamp = senseless.clamp ∧
      ¬ Valid Url.isAbsolute senseless := by
  have hurl : Url.isAbsolute ({} : TileSettings).apiRoot = true := by decide +kernel
  obtain ⟨hvalid, -, hagain, hfixed⟩ := clampBy_corrects hurl senseless
  have hwidth : senseless.clamp.tiles.nodeWidth ≠ senseless.tiles.nodeWidth := by decide +kernel
  refine ⟨by decide +kernel, by decide +kernel, hvalid, hagain, fun h => hwidth ?_⟩
  exact congrArg (·.tiles.nodeWidth) (hfixed.2 h)

end Settings

end ImageOverlay
