import ImageOverlay.Color
import ImageOverlay.Proofs.Number.Quotient
import ImageOverlay.Proofs.Number.Spelling
import ImageOverlay.Proofs.Text.Pieces
import Mathlib.Tactic.IntervalCases

set_option autoImplicit false

/-!
# How colours are written

The spellings of a colour are written down here (`Color.Spelling`), each with the components it
stands for. A text is read as a colour exactly if it is one of them, blanks at its ends aside, and
then for these components (`Color.parse_spelling`). What stands between the commas of a spelling has
no blanks and no commas of its own, so cutting at commas and taking blanks away finds it. The digits
behind a `#` are slices of the text; they are taken only where all characters are digits, which take
up a byte each, so that the slices are there.
-/

namespace ImageOverlay

open Decimal Text

namespace Color

variable {cs ds body : List Char} {c : Char} {n : ℕ} {x : Float} {v : Rgba}

/-! ## Spellings -/

/-- A hexadecimal digit of either case, and the number it stands for. -/
def HexDigit (c : Char) (n : ℕ) : Prop :=
  "0123456789abcdef".toList[n]? = some c ∨ "0123456789ABCDEF".toList[n]? = some c

/-- A component in decimal digits, with a plus in front of them or without. -/
inductive Channel : List Char → Float → Prop
  | bare {ds : List Char} (hnil : ds ≠ []) (hds : AllDigits ds) (hle : places ds ≤ 255) :
      Channel ds (component (places ds))
  | plus {ds : List Char} (hnil : ds ≠ []) (hds : AllDigits ds) (hle : places ds ≤ 255) :
      Channel ('+' :: ds) (component (places ds))

/-- An opacity: a double between zero and one, in any spelling. -/
structure Opacity (cs : List Char) (a : Float) : Prop where
  literal : Literal cs a
  nonneg : 0.0 ≤ a
  le_one : a ≤ 1.0

/-- A text of some kind with blanks around it. -/
def Padded (P : List Char → Float → Prop) (cs : List Char) (x : Float) : Prop :=
  ∃ before core after, cs = before ++ core ++ after ∧ (∀ c ∈ before, isBlank c = true) ∧
    (∀ c ∈ after, isBlank c = true) ∧ P core x

/-- The spellings of a colour. -/
inductive Spelling : List Char → Rgba → Prop
  | short {r g b : Char} {x y z : ℕ} (hr : HexDigit r x) (hg : HexDigit g y) (hb : HexDigit b z) :
      Spelling ['#', r, g, b]
        ⟨component (16 * x + x), component (16 * y + y), component (16 * z + z), 1.0⟩
  | long {r₁ r₀ g₁ g₀ b₁ b₀ : Char} {x₁ x₀ y₁ y₀ z₁ z₀ : ℕ} (hr₁ : HexDigit r₁ x₁)
      (hr₀ : HexDigit r₀ x₀) (hg₁ : HexDigit g₁ y₁) (hg₀ : HexDigit g₀ y₀) (hb₁ : HexDigit b₁ z₁)
      (hb₀ : HexDigit b₀ z₀) :
      Spelling ['#', r₁, r₀, g₁, g₀, b₁, b₀]
        ⟨component (16 * x₁ + x₀), component (16 * y₁ + y₀), component (16 * z₁ + z₀), 1.0⟩
  | rgb {r g b : List Char} {x y z : Float} (hr : Padded Channel r x) (hg : Padded Channel g y)
      (hb : Padded Channel b z) :
      Spelling ("rgb(".toList ++ (r ++ ',' :: (g ++ ',' :: b)) ++ [')']) ⟨x, y, z, 1.0⟩
  | rgba {r g b a : List Char} {x y z w : Float} (hr : Padded Channel r x)
      (hg : Padded Channel g y) (hb : Padded Channel b z) (ha : Padded Opacity a w) :
      Spelling ("rgba(".toList ++ (r ++ ',' :: (g ++ ',' :: (b ++ ',' :: a))) ++ [')']) ⟨x, y, z, w⟩

/-! ## Digits behind a hash -/

theorem toNat_lt_of_hexDigit? (h : hexDigit? c = some n) : c.toNat < 103 := by
  have hle : ∀ {d : Char}, c ≤ d → d.toNat < 103 → c.toNat < 103 := fun hc hd =>
    (UInt32.le_iff_toNat_le.1 hc).trans_lt hd
  unfold hexDigit? at h
  split at h
  · rename_i hc
    exact hle hc.2 (by decide)
  · split at h
    · rename_i hc
      exact hle hc.2 (by decide)
    · split at h
      · rename_i hc
        exact hle hc.2 (by decide)
      · cases h

theorem hexDigit?_eq_some_iff : hexDigit? c = some n ↔ HexDigit c n := by
  constructor
  · intro h
    have hall : ∀ k < 103, ∀ n ∈ hexDigit? (Char.ofNat k), HexDigit (Char.ofNat k) n := by
      unfold HexDigit
      decide
    have hc := hall c.toNat (toNat_lt_of_hexDigit? h) n
    rw [Char.ofNat_toNat] at hc
    exact hc h
  · rintro (h | h)
    all_goals
      have hn : n < 16 := (List.getElem?_eq_some_iff.1 h).1
      interval_cases n <;> obtain rfl := Option.some.inj h <;> rfl

theorem HexDigit.lt (h : HexDigit c n) : n < 16 :=
  h.elim (fun h => (List.getElem?_eq_some_iff.1 h).1) fun h => (List.getElem?_eq_some_iff.1 h).1

/-- A hexadecimal digit takes up one byte, and it is no sign. -/
theorem HexDigit.ascii (h : HexDigit c n) : c.utf8Size = 1 ∧ c ≠ '+' := by
  have hn := h.lt
  rcases h with h | h <;> interval_cases n <;> obtain rfl := Option.some.inj h <;> decide

theorem isHexDigit_iff : isHexDigit c = true ↔ ∃ n, HexDigit c n := by
  rw [isHexDigit, Option.isSome_iff_exists]
  simp only [hexDigit?_eq_some_iff]

/-- Two hexadecimal digits. -/
theorem hexChannel?_pair {c d : Char} {m n : ℕ} (hc : HexDigit c m) (hd : HexDigit d n) :
    hexChannel? [c, d] = some (component (16 * m + n)) := by
  have hm := hc.lt
  have hn := hd.lt
  have hunsigned : unsigned? 16 hexDigit? [c, d] = some (16 * m + n) := by
    unfold unsigned?
    split
    · rename_i heq
      exact absurd (List.cons.inj heq).1 hc.ascii.2
    · simp [ofDigits, hexDigit?_eq_some_iff.2 hc, hexDigit?_eq_some_iff.2 hd, mul_comm]
  rw [hexChannel?, channel?, hunsigned]
  exact if_pos (by omega)

theorem utf8Size_of_isHexDigit (hds : ds.all isHexDigit = true) : ∀ c ∈ ds, c.utf8Size = 1 := by
  intro c hc
  obtain ⟨n, hn⟩ := isHexDigit_iff.1 (List.all_eq_true.1 hds c hc)
  exact hn.ascii.1

/-- The digits of a spelling are found in its slices. -/
theorem ofSlices?_of_spelling (h : Spelling ('#' :: ds) v) : ofSlices? ds = some (some v) := by
  have hall : ∀ {c : Char} {n : ℕ}, HexDigit c n → isHexDigit c = true := fun hc =>
    isHexDigit_iff.2 ⟨_, hc⟩
  unfold ofSlices?
  cases h with
  | @short r g b x y z hr hg hb =>
      have hdigits : [r, g, b].all isHexDigit = true := by simp [hall hr, hall hg, hall hb]
      have hascii := utf8Size_of_isHexDigit hdigits
      have hlength : byteLength [r, g, b] = 3 := byteLength_of_ascii hascii
      have hslice : ∀ i j, i ≤ j → j ≤ 3 →
          slice? i j [r, g, b] = some (([r, g, b].drop i).take (j - i)) :=
        fun _ _ => slice?_of_ascii hascii
      simp [hdigits, hlength, hslice, hexChannel?_pair hr hr, hexChannel?_pair hg hg,
        hexChannel?_pair hb hb]
  | @long r₁ r₀ g₁ g₀ b₁ b₀ x₁ x₀ y₁ y₀ z₁ z₀ hr₁ hr₀ hg₁ hg₀ hb₁ hb₀ =>
      have hdigits : [r₁, r₀, g₁, g₀, b₁, b₀].all isHexDigit = true := by
        simp [hall hr₁, hall hr₀, hall hg₁, hall hg₀, hall hb₁, hall hb₀]
      have hascii := utf8Size_of_isHexDigit hdigits
      have hlength : byteLength [r₁, r₀, g₁, g₀, b₁, b₀] = 6 := byteLength_of_ascii hascii
      have hslice : ∀ i j, i ≤ j → j ≤ 6 → slice? i j [r₁, r₀, g₁, g₀, b₁, b₀]
          = some (([r₁, r₀, g₁, g₀, b₁, b₀].drop i).take (j - i)) :=
        fun _ _ => slice?_of_ascii hascii
      simp [hdigits, hlength, hslice, hexChannel?_pair hr₁ hr₀, hexChannel?_pair hg₁ hg₀,
        hexChannel?_pair hb₁ hb₀]

/-- Three or six digits are a spelling. -/
theorem spelling_of_isHexDigit (hds : ds.all isHexDigit = true)
    (hlength : ds.length = 3 ∨ ds.length = 6) : ∃ v, Spelling ('#' :: ds) v := by
  have hdigit : ∀ c ∈ ds, ∃ n, HexDigit c n := fun c hc =>
    isHexDigit_iff.1 (List.all_eq_true.1 hds c hc)
  rcases hlength with hlength | hlength
  · obtain ⟨r, g, b, rfl⟩ := List.length_eq_three.1 hlength
    simp only [List.forall_mem_cons] at hdigit
    obtain ⟨⟨x, hr⟩, ⟨y, hg⟩, ⟨z, hb⟩, -⟩ := hdigit
    exact ⟨_, .short hr hg hb⟩
  · match ds, hlength with
    | [r₁, r₀, g₁, g₀, b₁, b₀], _ =>
        simp only [List.forall_mem_cons] at hdigit
        obtain ⟨⟨x₁, hr₁⟩, ⟨x₀, hr₀⟩, ⟨y₁, hg₁⟩, ⟨y₀, hg₀⟩, ⟨z₁, hb₁⟩, ⟨z₀, hb₀⟩, -⟩ := hdigit
        exact ⟨_, .long hr₁ hr₀ hg₁ hg₀ hb₁ hb₀⟩

/-- No slices are taken out of what is no spelling. -/
theorem ofSlices?_of_not_spelling (h : ¬ ∃ v, Spelling ('#' :: ds) v) :
    ofSlices? ds = some none := by
  unfold ofSlices?
  by_cases hds : ds.all isHexDigit = true
  · have hlength := mt (spelling_of_isHexDigit hds) h
    rw [not_or] at hlength
    rw [if_neg (by simp [hds]), byteLength_of_ascii (utf8Size_of_isHexDigit hds)]
    split
    · exact absurd ‹_› hlength.1
    · exact absurd ‹_› hlength.2
    · rfl
  · rw [if_pos (by simpa using hds)]

/-- The slices are there, whatever the text. -/
theorem isSome_ofSlices? (ds : List Char) : (ofSlices? ds).isSome = true := by
  by_cases h : ∃ v, Spelling ('#' :: ds) v
  · obtain ⟨v, hv⟩ := h
    rw [ofSlices?_of_spelling hv]
    rfl
  · rw [ofSlices?_of_not_spelling h]
    rfl

/-- Three bytes need not be three digits. -/
example : ofSlices? "äb".toList = some none := by decide

theorem ofHexDigits?_eq_some_iff : ofHexDigits? ds = some v ↔ Spelling ('#' :: ds) v := by
  unfold ofHexDigits?
  by_cases h : ∃ v, Spelling ('#' :: ds) v
  · obtain ⟨w, hw⟩ := h
    rw [ofSlices?_of_spelling hw, Option.join_some]
    constructor
    · rintro ⟨⟩
      exact hw
    · intro hv
      have hsame := (ofSlices?_of_spelling hw).symm.trans (ofSlices?_of_spelling hv)
      exact Option.some.inj hsame
  · rw [ofSlices?_of_not_spelling h]
    exact iff_of_false nofun fun hv => h ⟨v, hv⟩

/-! ## Parts between commas -/

theorem decimalChannel?_eq_some_iff : decimalChannel? cs = some x ↔ Channel cs x := by
  unfold decimalChannel? channel?
  constructor
  · intro h
    split at h
    · rename_i n hn
      obtain ⟨ds, hcs, hnil, hds, rfl⟩ := unsigned?_eq_some_iff.1 hn
      split at h
      · obtain rfl := Option.some.inj h
        rcases hcs with rfl | rfl
        · exact .bare hnil hds ‹_›
        · exact .plus hnil hds ‹_›
      · cases h
    · cases h
  · intro h
    cases h with
    | bare hnil hds hle =>
        rw [unsigned?_eq_some_iff.2 ⟨_, .inl rfl, hnil, hds, rfl⟩]
        exact if_pos hle
    | plus hnil hds hle =>
        rw [unsigned?_eq_some_iff.2 ⟨_, .inr rfl, hnil, hds, rfl⟩]
        exact if_pos hle

theorem alpha?_eq_some_iff : alpha? cs = some x ↔ Opacity cs x := by
  unfold alpha?
  constructor
  · intro h
    split at h
    · rename_i a ha
      split at h
      · rename_i hle
        obtain rfl := Option.some.inj h
        exact ⟨literal?_eq_some_iff.1 ha, hle.1, hle.2⟩
      · cases h
    · cases h
  · intro h
    rw [literal?_eq_some_iff.2 h.literal]
    exact if_pos ⟨h.nonneg, h.le_one⟩

/-- A part has neither blanks nor commas in it. -/
theorem not_isBlank_of_isPlain (hc : isPlain c = true) : isBlank c = false ∧ c ≠ ',' := by
  refine ⟨?_, by rintro rfl; cases hc⟩
  simp only [isPlain, Bool.or_eq_true, beq_iff_eq] at hc
  rcases hc with ((hc | rfl) | rfl) | rfl
  · have hrange : 48 ≤ c.toNat ∧ c.toNat ≤ 122 := by
      simp [Char.isAlphanum, Char.isAlpha, Char.isUpper, Char.isLower, Char.isDigit,
        UInt32.le_iff_toNat_le] at hc
      omega
    simp only [isBlank]
    simp
    omega
  · rfl
  · rfl
  · rfl

/-- A kind of text without blanks and commas. -/
def Plain (P : List Char → Float → Prop) : Prop := ∀ cs x, P cs x → ∀ c ∈ cs, isPlain c = true

theorem plain_channel : Plain Channel := by
  intro cs x h
  cases h with
  | bare hnil hds => exact fun c hc => isPlain_of_isDigit (hds c hc)
  | plus hnil hds =>
      exact List.forall_mem_cons.2 ⟨rfl, fun c hc => isPlain_of_isDigit (hds c hc)⟩

theorem plain_opacity : Plain Opacity := fun _ _ h => h.literal.plain

section Parts

variable {P Q : List Char → Float → Prop} (hP : Plain P)
include hP

/-- What stands between blanks is found by taking them away. -/
theorem padded_iff : Padded P cs x ↔ P (trim cs) x := by
  constructor
  · rintro ⟨before, core, after, rfl, hbefore, hafter, hcore⟩
    have hplain := hP core x hcore
    have htrim : Trimmed (before ++ core ++ after) core :=
      { around := ⟨before, after, rfl, hbefore, hafter⟩
        head := fun c hc => (not_isBlank_of_isPlain (hplain c (List.mem_of_mem_head? hc))).1
        last := fun c hc => (not_isBlank_of_isPlain (hplain c (List.mem_of_getLast? hc))).1 }
    rwa [htrim.trim_eq]
  · intro h
    obtain ⟨before, after, hcs, hbefore, hafter⟩ := (trimmed_trim cs).around
    exact ⟨before, trim cs, after, hcs, hbefore, hafter, h⟩

theorem Padded.not_mem (h : Padded P cs x) : ',' ∉ cs := by
  obtain ⟨before, core, after, rfl, hbefore, hafter, hcore⟩ := h
  have hcomma : isBlank ',' ≠ true := by decide
  simp only [List.mem_append, not_or]
  exact ⟨⟨fun h => hcomma (hbefore _ h),
    fun h => (not_isBlank_of_isPlain (hP core x hcore _ h)).2 rfl⟩, fun h => hcomma (hafter _ h)⟩

end Parts

/-- A body without its commas and without the blanks next to them. -/
theorem arguments_eq_iff {cores : List (List Char)} (hnil : cores ≠ []) :
    arguments body = cores ↔ ∃ parts, (∀ part ∈ parts, ',' ∉ part) ∧
      [','].intercalate parts = body ∧ parts.map trim = cores := by
  constructor
  · rintro rfl
    have hparts : splitAt ',' body ≠ [] := fun h => hnil (congrArg (List.map trim) h)
    obtain ⟨hfree, hbody⟩ := (splitAt_eq_iff hparts).1 rfl
    exact ⟨_, hfree, hbody, rfl⟩
  · rintro ⟨parts, hfree, hbody, rfl⟩
    have hparts : parts ≠ [] := fun h => hnil (congrArg (List.map trim) h)
    exact congrArg (List.map trim) ((splitAt_eq_iff hparts).2 ⟨hfree, hbody⟩)

theorem ofTriple?_eq_some_iff : ofTriple? body = some v ↔
    ∃ r g b x y z, body = r ++ ',' :: (g ++ ',' :: b) ∧ Padded Channel r x ∧ Padded Channel g y ∧
      Padded Channel b z ∧ v = ⟨x, y, z, 1.0⟩ := by
  constructor
  · intro h
    unfold ofTriple? at h
    split at h
    · rename_i hcores
      obtain ⟨parts, -, hbody, hparts⟩ := (arguments_eq_iff (by simp)).1 hcores
      simp only [List.map_eq_cons_iff, List.map_eq_nil_iff] at hparts
      obtain ⟨r, _, rfl, rfl, g, _, rfl, rfl, b, _, rfl, rfl, rfl⟩ := hparts
      simp only [Option.bind_eq_bind, Option.bind_eq_some_iff, decimalChannel?_eq_some_iff,
        ← padded_iff plain_channel] at h
      obtain ⟨x, hx, y, hy, z, hz, h⟩ := h
      refine ⟨r, g, b, x, y, z, ?_, hx, hy, hz, (Option.some.inj h).symm⟩
      simpa [List.intercalate] using hbody.symm
    · cases h
  · rintro ⟨r, g, b, x, y, z, rfl, hr, hg, hb, rfl⟩
    have hcores : arguments (r ++ ',' :: (g ++ ',' :: b)) = [trim r, trim g, trim b] := by
      refine (arguments_eq_iff (by simp)).2 ⟨[r, g, b], ?_, by simp [List.intercalate], rfl⟩
      simp [hr.not_mem plain_channel, hg.not_mem plain_channel, hb.not_mem plain_channel]
    simp only [padded_iff plain_channel, ← decimalChannel?_eq_some_iff] at hr hg hb
    simp [ofTriple?, hcores, hr, hg, hb]

theorem ofQuadruple?_eq_some_iff : ofQuadruple? body = some v ↔
    ∃ r g b a x y z w, body = r ++ ',' :: (g ++ ',' :: (b ++ ',' :: a)) ∧ Padded Channel r x ∧
      Padded Channel g y ∧ Padded Channel b z ∧ Padded Opacity a w ∧ v = ⟨x, y, z, w⟩ := by
  constructor
  · intro h
    unfold ofQuadruple? at h
    split at h
    · rename_i hcores
      obtain ⟨parts, -, hbody, hparts⟩ := (arguments_eq_iff (by simp)).1 hcores
      simp only [List.map_eq_cons_iff, List.map_eq_nil_iff] at hparts
      obtain ⟨r, _, rfl, rfl, g, _, rfl, rfl, b, _, rfl, rfl, a, _, rfl, rfl, rfl⟩ := hparts
      simp only [Option.bind_eq_bind, Option.bind_eq_some_iff, decimalChannel?_eq_some_iff,
        alpha?_eq_some_iff, ← padded_iff plain_channel, ← padded_iff plain_opacity] at h
      obtain ⟨x, hx, y, hy, z, hz, w, hw, h⟩ := h
      refine ⟨r, g, b, a, x, y, z, w, ?_, hx, hy, hz, hw, (Option.some.inj h).symm⟩
      simpa [List.intercalate] using hbody.symm
    · cases h
  · rintro ⟨r, g, b, a, x, y, z, w, rfl, hr, hg, hb, ha, rfl⟩
    have hcores : arguments (r ++ ',' :: (g ++ ',' :: (b ++ ',' :: a)))
        = [trim r, trim g, trim b, trim a] := by
      refine (arguments_eq_iff (by simp)).2 ⟨[r, g, b, a], ?_, by simp [List.intercalate], rfl⟩
      simp [hr.not_mem plain_channel, hg.not_mem plain_channel, hb.not_mem plain_channel,
        ha.not_mem plain_opacity]
    simp only [padded_iff plain_channel, ← decimalChannel?_eq_some_iff] at hr hg hb
    simp only [padded_iff plain_opacity, ← alpha?_eq_some_iff] at ha
    simp [ofQuadruple?, hcores, hr, hg, hb, ha]

/-! ## Colours -/

/-- The components that are read are those of a spelling. -/
theorem spelling_of_components? (h : components? cs = some v) : Spelling cs v := by
  unfold components? at h
  split at h
  · exact ofHexDigits?_eq_some_iff.1 h
  · split at h
    · rename_i rest hrest
      obtain ⟨body, hbody, hparts⟩ := Option.bind_eq_some_iff.1 h
      obtain ⟨r, g, b, a, x, y, z, w, rfl, hr, hg, hb, ha, rfl⟩ := ofQuadruple?_eq_some_iff.1 hparts
      rw [after?_eq_some_iff.1 hrest, before?_eq_some_iff.1 hbody, ← List.append_assoc]
      exact .rgba hr hg hb ha
    · split at h
      · rename_i rest hrest
        obtain ⟨body, hbody, hparts⟩ := Option.bind_eq_some_iff.1 h
        obtain ⟨r, g, b, x, y, z, rfl, hr, hg, hb, rfl⟩ := ofTriple?_eq_some_iff.1 hparts
        rw [after?_eq_some_iff.1 hrest, before?_eq_some_iff.1 hbody, ← List.append_assoc]
        exact .rgb hr hg hb
      · cases h

theorem components?_rgb (body : List Char) :
    components? ("rgb(".toList ++ body ++ [')']) = ofTriple? body := by
  have hother : after? "rgba(".toList ("rgb(".toList ++ body ++ [')']) = none := rfl
  have hafter : after? "rgb(".toList ("rgb(".toList ++ body ++ [')']) = some (body ++ [')']) :=
    after?_eq_some_iff.2 (List.append_assoc ..)
  have hbefore : before? [')'] (body ++ [')']) = some body := before?_eq_some_iff.2 rfl
  unfold components?
  split
  · rename_i heq
    cases heq
  · rw [hother, hafter]
    simp only [hbefore, Option.bind_some]

theorem components?_rgba (body : List Char) :
    components? ("rgba(".toList ++ body ++ [')']) = ofQuadruple? body := by
  have hafter : after? "rgba(".toList ("rgba(".toList ++ body ++ [')']) = some (body ++ [')']) :=
    after?_eq_some_iff.2 (List.append_assoc ..)
  have hbefore : before? [')'] (body ++ [')']) = some body := before?_eq_some_iff.2 rfl
  unfold components?
  split
  · rename_i heq
    cases heq
  · rw [hafter]
    simp only [hbefore, Option.bind_some]

theorem components?_eq_some_iff : components? cs = some v ↔ Spelling cs v := by
  refine ⟨spelling_of_components?, fun h => ?_⟩
  cases h with
  | short hr hg hb => exact ofHexDigits?_eq_some_iff.2 (.short hr hg hb)
  | long hr₁ hr₀ hg₁ hg₀ hb₁ hb₀ =>
      exact ofHexDigits?_eq_some_iff.2 (.long hr₁ hr₀ hg₁ hg₀ hb₁ hb₀)
  | rgb hr hg hb =>
      rw [components?_rgb]
      exact ofTriple?_eq_some_iff.2 ⟨_, _, _, _, _, _, rfl, hr, hg, hb, rfl⟩
  | rgba hr hg hb ha =>
      rw [components?_rgba]
      exact ofQuadruple?_eq_some_iff.2 ⟨_, _, _, _, _, _, _, _, rfl, hr, hg, hb, ha, rfl⟩

/-! ## Components of a colour -/

theorem exactly_one : Exactly 1.0 (1 : ℕ) := by
  have hsame : (1.0 : Float) = Nat.toFloat 1 := by decide +kernel
  rw [hsame]
  exact exactly_natToFloat (by norm_num)

theorem exactly_most : Exactly 255.0 (255 : ℕ) := by
  have hsame : (255.0 : Float) = Nat.toFloat 255 := by decide +kernel
  rw [hsame]
  exact exactly_natToFloat (by norm_num)

theorem nearly_component (hpos : 0 < n) (hn : n ≤ 255) : Nearly (component n) (n / (255 : ℕ)) := by
  have hone : (1 : ℚ) ≤ n := by exact_mod_cast hpos
  have hmost : (n : ℚ) ≤ 255 := by exact_mod_cast hn
  refine (exactly_natToFloat (by omega)).nearly_div exactly_most (by linarith) (by norm_num) ?_ ?_
  · calc (2 : ℚ) ^ (-1022 : ℤ) ≤ 2 ^ (-8 : ℤ) := zpow_le_zpow_right₀ one_le_two (by norm_num)
      _ ≤ 1 / (255 : ℕ) := by norm_num
      _ ≤ n / (255 : ℕ) := by gcongr
  · calc (n / (255 : ℕ) : ℚ) ≤ 1 := by rwa [div_le_one (by norm_num)]
      _ ≤ 2 ^ (1000 : ℤ) := one_le_zpow₀ one_le_two (by norm_num)

/-- A component lies between zero and one. -/
theorem component_bounds (hn : n ≤ 255) : 0.0 ≤ component n ∧ component n ≤ 1.0 := by
  rcases Nat.eq_zero_or_pos n with rfl | hpos
  · decide +kernel
  have hnear := nearly_component hpos hn
  have hzero : Exactly 0.0 0 := exactly_zero .positive
  constructor
  · rw [hzero.le_iff hnear.exactly]
    exact (hnear.pos (by positivity)).le
  · rw [hnear.exactly.le_iff exactly_one, hnear.le_natCast_iff (by omega) (by norm_num)]
    omega

/-- Components between zero and one. Each of them is a number, and so it is equal to itself. -/
structure InRange (v : Rgba) : Prop where
  bounds : ∀ x ∈ [v.r, v.g, v.b, v.a], 0.0 ≤ x ∧ x ≤ 1.0
  beq_self : ∀ x ∈ [v.r, v.g, v.b, v.a], (x == x) = true

theorem Channel.bounds (h : Channel cs x) : 0.0 ≤ x ∧ x ≤ 1.0 := by
  cases h with
  | bare hnil hds hle => exact component_bounds hle
  | plus hnil hds hle => exact component_bounds hle

theorem Spelling.inRange (h : Spelling cs v) : InRange v := by
  have hone : (0.0 : Float) ≤ 1.0 ∧ (1.0 : Float) ≤ 1.0 := by decide +kernel
  have hpair : ∀ {c d : Char} {m n : ℕ}, HexDigit c m → HexDigit d n →
      0.0 ≤ component (16 * m + n) ∧ component (16 * m + n) ≤ 1.0 := by
    intro c d m n hc hd
    have hm := hc.lt
    have hn := hd.lt
    exact component_bounds (by omega)
  have hpadded : ∀ {P : List Char → Float → Prop} {cs : List Char} {x : Float},
      (∀ {cs x}, P cs x → 0.0 ≤ x ∧ x ≤ 1.0) → Padded P cs x → 0.0 ≤ x ∧ x ≤ 1.0 := by
    rintro P cs x hP ⟨_, _, _, -, -, -, hcore⟩
    exact hP hcore
  have hbounds : ∀ x ∈ [v.r, v.g, v.b, v.a], 0.0 ≤ x ∧ x ≤ 1.0 := by
    simp only [List.forall_mem_cons]
    cases h with
    | short hr hg hb => exact ⟨hpair hr hr, hpair hg hg, hpair hb hb, hone, nofun⟩
    | long hr₁ hr₀ hg₁ hg₀ hb₁ hb₀ =>
        exact ⟨hpair hr₁ hr₀, hpair hg₁ hg₀, hpair hb₁ hb₀, hone, nofun⟩
    | rgb hr hg hb =>
        exact ⟨hpadded Channel.bounds hr, hpadded Channel.bounds hg, hpadded Channel.bounds hb, hone,
          nofun⟩
    | rgba hr hg hb ha =>
        exact ⟨hpadded Channel.bounds hr, hpadded Channel.bounds hg, hpadded Channel.bounds hb,
          hpadded (fun h => ⟨h.nonneg, h.le_one⟩) ha, nofun⟩
  exact ⟨hbounds, fun x hx => float_beq_self (not_isNaN_of_le (hbounds x hx).1).2⟩

theorem parse_eq_ok_iff {text : String} {c : Color} : parse text = .ok c ↔
    Spelling (trim text.toList) c.rgba ∧ c.text = String.ofList (trim text.toList) := by
  unfold parse
  simp only
  rw [← components?_eq_some_iff]
  split
  · rename_i v hv
    rw [hv, Except.ok.injEq]
    constructor
    · rintro rfl
      exact ⟨rfl, rfl⟩
    · rintro ⟨hrgba, htext⟩
      rw [← htext, Option.some.inj hrgba]
  · rename_i hnone
    rw [hnone]
    exact iff_of_false nofun nofun

theorem parse_eq_error_iff {text : String} {e : ColorError} : parse text = .error e ↔
    e.text = text ∧ ¬ ∃ v, Spelling (trim text.toList) v := by
  unfold parse
  simp only [← components?_eq_some_iff]
  split
  · rename_i v hv
    exact iff_of_false nofun fun h => h.2 ⟨v, hv⟩
  · rename_i hnone
    rw [hnone, Except.error.injEq]
    constructor
    · rintro rfl
      exact ⟨rfl, nofun⟩
    · rintro ⟨rfl, -⟩
      rfl

/-- **Which texts are colours, and which colours they are.** A text is read as a colour exactly if
without the blanks at its ends it is a spelling, and then for the components of that spelling; the
colour keeps this text. Any other text is refused, and the refusal names it. The text that is kept
is read as the same colour again, with components that are all equal to themselves. On the way no
slice is taken that the text does not have. -/
theorem parse_spelling (text : String) :
    (∀ c, parse text = .ok c ↔ ∃ core, Trimmed text.toList core ∧ Spelling core c.rgba ∧
        c.text = String.ofList core) ∧
      (∀ e, parse text = .error e ↔ e.text = text ∧
        ∀ core, Trimmed text.toList core → ¬ ∃ v, Spelling core v) ∧
      (∀ c, parse text = .ok c → parse c.text = .ok c ∧ InRange c.rgba) ∧
      ∀ ds, (ofSlices? ds).isSome = true := by
  refine ⟨fun c => ?_, fun e => ?_, fun c hc => ?_, isSome_ofSlices?⟩
  · rw [parse_eq_ok_iff]
    simp only [trimmed_iff, exists_eq_left']
  · rw [parse_eq_error_iff]
    simp only [trimmed_iff, forall_eq']
  · obtain ⟨hspelling, htext⟩ := parse_eq_ok_iff.1 hc
    have hagain : trim c.text.toList = trim text.toList := by
      rw [htext, String.toList_ofList, trim_trim]
    refine ⟨parse_eq_ok_iff.2 ?_, hspelling.inRange⟩
    rw [hagain]
    exact ⟨hspelling, htext⟩

end Color

end ImageOverlay
