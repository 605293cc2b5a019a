import ImageOverlay.Proofs.Toml.Tables
import ImageOverlay.Proofs.Settings.Limits

set_option autoImplicit false

/-!
# Settings are kept

A settings file is written line by line, and each line is read as what it stands for: quoted texts,
whole numbers, truth values, and a width, which is a finite number once it is within its limits. So
settings are read as they were written (`Settings.parse?_render`), only brought within their limits.
Settings that were read are within them already (`Settings.clamp_clamp`), and stay as they are
(`settings_roundTrip`).
-/

namespace ImageOverlay

open Toml

/-! ## Limits -/

theorem isFinite_clampWidth (x : Float) : (clampWidth x).isFinite = true := by
  by_cases hx : x.isFinite = true
  · unfold clampWidth
    split
    · rfl
    split
    · rfl
    split
    · rfl
    · exact hx
  · -- What is no number becomes the least width, and what is infinite one of the limits.
    rcases Exact.ofFloat_cases x with ⟨-, rfl⟩ | ⟨negative, -, rfl⟩ | ⟨_, h, -⟩ | ⟨_, _, _, _, h, -⟩
    · decide +kernel
    · cases negative <;> decide +kernel
    · exact absurd ((Exact.isFinite_iff x).2 ⟨_, _, _, h⟩) hx
    · exact absurd ((Exact.isFinite_iff x).2 ⟨_, _, _, h⟩) hx

/-- **Within their limits settings stay as they are.** -/
theorem Settings.clamp_clamp (s : Settings) : s.clamp.clamp = s.clamp :=
  clampBy_of_valid (valid_clampBy (by decide +kernel) s)

/-! ## The file -/

namespace Settings

/-- The lines of the section of the tiles. -/
def tileLines (s : Settings) : List Line :=
  [⟨"api_root", quoted s.tiles.apiRoot.toList, .text (some s.tiles.apiRoot)⟩,
    ⟨"tile_path", quoted s.tiles.tilePath.toList, .text (some s.tiles.tilePath)⟩,
    ⟨"node_width", Decimal.digits s.tiles.nodeWidth.toNat,
      .number (.int s.tiles.nodeWidth.toNat)⟩,
    ⟨"node_height", Decimal.digits s.tiles.nodeHeight.toNat,
      .number (.int s.tiles.nodeHeight.toNat)⟩]

/-- The lines of the section of draw mode. -/
def drawLines (s : Settings) : List Line :=
  [⟨"trigger_by_default", (if s.draw.trigger then "true" else "false").toList,
      .bool s.draw.trigger⟩,
    ⟨"retire_on", quoted s.draw.retireOn.name.toList, .text (some s.draw.retireOn.name)⟩]

/-- The lines of the section of the style. -/
def styleLines (s : Settings) : List Line :=
  [⟨"line_color", quoted s.style.lineColor.toList, .text (some s.style.lineColor)⟩,
    ⟨"line_width", tomlNumberLayout.text s.style.lineWidth, .number (.real s.style.lineWidth)⟩,
    ⟨"fill_color", quoted s.style.fillColor.toList, .text (some s.style.fillColor)⟩]

theorem render_eq (s : Settings) :
    s.render.toList = tableText "viewer" (fieldsOf s.tileLines) ++
      '\n' :: (tableText "draw" (fieldsOf s.drawLines) ++
        '\n' :: (tableText "style" (fieldsOf s.styleLines) ++ [])) := by
  unfold render
  simp only [String.toList_ofList, List.append_assoc, List.cons_append, List.append_nil]
  rfl

theorem writes_size (n : UInt32) :
    Writes (Decimal.digits n.toNat) (.number (.int n.toNat)) := by
  have hn : n.toNat < 2 ^ 64 := by
    have := n.toNat_lt
    omega
  refine .word (Decimal.digits_ne_nil _) ?_ (ofWord?_digits hn)
  exact fun c hc => isWordChar_of_isDigit (Decimal.isDigit_of_mem_digits hc)

theorem writes_bool (b : Bool) : Writes (if b then "true" else "false").toList (.bool b) := by
  cases b with
  | true => exact .word (by decide) (List.all_eq_true.1 (by decide)) rfl
  | false => exact .word (by decide) (List.all_eq_true.1 (by decide)) rfl

theorem writes_width {x : Float} (hx : x.isFinite = true) :
    Writes (tomlNumberLayout.text x) (.number (.real x)) := by
  obtain ⟨negative, n, hn, htext, rfl, -, hexponent⟩ := tomlNumberLayout.exists_numeral_text hx
  have hnone := hexponent rfl
  rw [htext]
  refine .word ?_ (isWordChar_of_mem_text hn hnone negative) (ofWord?_text hn hnone negative hx)
  have hnil := hn.whole_ne_nil
  simp [Numeral.text, hnil]

theorem tileLines_proper (s : Settings) : ∀ l ∈ s.tileLines, l.Proper := by
  simp only [tileLines, List.forall_mem_cons]
  exact ⟨⟨show IsBareKey "api_root" by decide, .quoted _⟩,
    ⟨show IsBareKey "tile_path" by decide, .quoted _⟩,
    ⟨show IsBareKey "node_width" by decide, writes_size _⟩,
    ⟨show IsBareKey "node_height" by decide, writes_size _⟩, nofun⟩

theorem drawLines_proper (s : Settings) : ∀ l ∈ s.drawLines, l.Proper := by
  simp only [drawLines, List.forall_mem_cons]
  exact ⟨⟨show IsBareKey "trigger_by_default" by decide, writes_bool _⟩,
    ⟨show IsBareKey "retire_on" by decide, .quoted _⟩, nofun⟩

theorem styleLines_proper {s : Settings} (hwidth : s.style.lineWidth.isFinite = true) :
    ∀ l ∈ s.styleLines, l.Proper := by
  simp only [styleLines, List.forall_mem_cons]
  exact ⟨⟨show IsBareKey "line_color" by decide, .quoted _⟩,
    ⟨show IsBareKey "line_width" by decide, writes_width hwidth⟩,
    ⟨show IsBareKey "fill_color" by decide, .quoted _⟩, nofun⟩

/-- The tables of a settings file. -/
def tables (s : Settings) : Toml.Members :=
  [("viewer", .table .header (membersOf s.tileLines)),
    ("draw", .table .header (membersOf s.drawLines)),
    ("style", .table .header (membersOf s.styleLines))]

theorem read_render {s : Settings} (hwidth : s.style.lineWidth.isFinite = true) :
    Toml.read s.render.toList = some (.object (parsedMembers s.tables)) := by
  have hread : LinesRead [] [] s.render.toList s.tables := by
    rw [render_eq]
    have htiles : (s.tileLines.map Line.key).Nodup :=
      show ["api_root", "tile_path", "node_width", "node_height"].Nodup by decide
    have hdraw : (s.drawLines.map Line.key).Nodup :=
      show ["trigger_by_default", "retire_on"].Nodup by decide
    have hstyle : (s.styleLines.map Line.key).Nodup :=
      show ["line_color", "line_width", "fill_color"].Nodup by decide
    refine .table s.tileLines_proper htiles (by decide) rfl (.blank ?_)
    refine .table s.drawLines_proper hdraw (by decide) rfl (.blank ?_)
    refine .table (styleLines_proper hwidth) hstyle (by decide) rfl ?_
    exact .nil _ _
  obtain ⟨cs, hcs⟩ : ∃ cs, s.render.toList = '[' :: cs := by
    rw [render_eq]
    exact ⟨_, rfl⟩
  rw [hcs] at hread ⊢
  exact read_of_linesRead (by decide) hread

theorem uint32_toNat (n : UInt32) : Decode.uint32 (.number (.int n.toNat)) = some n := by
  have hn := n.toNat_lt
  unfold Decode.uint32 Decode.int
  simp only [Int.pow_eq]
  rw [if_pos (by omega)]
  simp

theorem tiles_tileLines (s : Settings) :
    tomlSettings.tiles (.object (parsedMembers (membersOf s.tileLines))) = some s.tiles := by
  have hfields : Decode.fieldsWith tomlSettings.surplus
      [["api_root"], ["tile_path"], ["node_width"], ["node_height"]]
      (.object (parsedMembers (membersOf s.tileLines)))
        = some (s.tileLines.map fun l => some l.value) := rfl
  unfold SettingsNotation.tiles
  rw [hfields]
  simp [tileLines, Decode.orDefault, Decode.string, uint32_toNat]

theorem draw_drawLines (s : Settings) :
    tomlSettings.draw (.object (parsedMembers (membersOf s.drawLines))) = some s.draw := by
  have hfields : Decode.fieldsWith tomlSettings.surplus [["trigger_by_default"], ["retire_on"]]
      (.object (parsedMembers (membersOf s.drawLines)))
        = some (s.drawLines.map fun l => some l.value) := rfl
  have hretire : Decode.choiceWith tomlSettings.nothing RetireOn.names
      (.text (some s.draw.retireOn.name)) = some s.draw.retireOn := by
    cases s.draw.retireOn <;> rfl
  unfold SettingsNotation.draw
  rw [hfields]
  simp [drawLines, Decode.orDefault, Decode.bool, hretire]

theorem style_styleLines (s : Settings) :
    tomlSettings.style (.object (parsedMembers (membersOf s.styleLines))) = some s.style := by
  have hfields : Decode.fieldsWith tomlSettings.surplus
      [["line_color"], ["line_width"], ["fill_color"]]
      (.object (parsedMembers (membersOf s.styleLines)))
        = some (s.styleLines.map fun l => some l.value) := rfl
  have hwidth : tomlSettings.width (.number (.real s.style.lineWidth))
      = some s.style.lineWidth := rfl
  unfold SettingsNotation.style
  rw [hfields]
  simp [styleLines, Decode.orDefault, Decode.string, hwidth]

/-- **Settings are read as they were written,** except that they are brought within their limits. -/
theorem parse?_render {s : Settings} (hwidth : s.style.lineWidth.isFinite = true) :
    parse? s.render = some s.clamp := by
  have hfields : Decode.fieldsWith tomlSettings.surplus [["viewer"], ["draw"], ["style"]]
      (.object (parsedMembers s.tables))
        = some (s.tables.map fun m => some m.2.toParsed) := rfl
  have hdecode : tomlSettings.decoder (.object (parsedMembers s.tables)) = some s := by
    unfold SettingsNotation.decoder
    rw [hfields]
    simp [tables, Node.toParsed, Decode.orDefault, tiles_tileLines, draw_drawLines,
      style_styleLines]
  rw [parse?, read_render hwidth, Option.bind_some, hdecode, Option.map_some]

end Settings

/-- **Settings are kept.** Whatever text settings were read from, they are read again from the text
they are written as. -/
theorem settings_roundTrip {text : String} {s : Settings} (h : Settings.parse? text = some s) :
    Settings.parse? s.render = some s := by
  obtain ⟨t, -, rfl⟩ := Option.map_eq_some_iff.1 h
  have hwidth : t.clamp.style.lineWidth.isFinite = true := isFinite_clampWidth _
  rw [Settings.parse?_render hwidth, Settings.clamp_clamp]

/-- A path with a quote, a backslash and a line end, and a width that is too great. -/
def quotedPath : Settings where
  tiles := { tilePath := "\"\\\n\x7bz\x7d\x7bx\x7d\x7by\x7d" }
  style := { lineWidth := 250.0 }

theorem settings_roundTrip_of_quotedPath :
    let text := "[viewer]\ntile_path = \"\\\"\\\\\\n\x7bz\x7d\x7bx\x7d\x7by\x7d\"\n" ++
      "[style]\nline_width = 2.5e2\n"
    Settings.parse? text = some quotedPath.clamp ∧
      quotedPath.clamp.tiles.tilePath = quotedPath.tiles.tilePath ∧
      quotedPath.clamp.style.lineWidth = 100.0 ∧
      Settings.parse? quotedPath.clamp.render = some quotedPath.clamp := by
  intro text
  have hread : (Toml.read text.toList).bind tomlSettings.decoder = some quotedPath := by
    decide +kernel
  have hparse : Settings.parse? text = some quotedPath.clamp := by
    rw [Settings.parse?, hread, Option.map_some]
  exact ⟨hparse, by decide +kernel, by decide +kernel, settings_roundTrip hparse⟩

end ImageOverlay
