import ImageOverlay.Annotation.Identity
import ImageOverlay.Proofs.Text.Pieces
import Mathlib.Data.List.SplitLengths
import Mathlib.Data.Nat.Digits.Lemmas
import Mathlib.Tactic.IntervalCases

set_option autoImplicit false

/-!
# Which texts are identities

The lower-case hyphenated form of 128 bits is described by the parts that hyphens join to it: five
groups of 8, 4, 4, 4 and 12 digits (`Grouped`) that together write the bits in base sixteen
(`Renders`). What is written for 128 bits is this form (`renders_iff`), and a text is taken for an
identity exactly if it is the form of some bits, which are then the only ones
(`isGenerated_exactly`).

Writing counts digits, and recognising counts bytes and cuts at hyphens. The two meet in the digits:
a digit is no hyphen, so the parts are found again by cutting (`Grouped.splitAt_eq`), and it takes
up one byte, so a part that is made of digits has as many bytes as digits (`isGroup_iff`). Every
other text is refused, among them those that look much like an identity (`Misshapen`).
-/

namespace ImageOverlay.Identity

open Text

variable {c : Char} {n : ℕ} {cs ds : List Char} {ns : List ℕ} {parts : List (List Char)}
  {bits bits' : BitVec 128} {text : String}

/-! ## The form of an identity -/

/-- The digits in the order of their values. -/
def alphabet : List Char :=
  ['0', '1', '2', '3', '4', '5', '6', '7', '8', '9', 'a', 'b', 'c', 'd', 'e', 'f']

/-- The number that digits write in base sixteen. -/
def places (ds : List Char) : ℕ := Nat.ofDigits 16 (ds.map fun c => alphabet.idxOf c).reverse

/-- Parts of digits, as long as the groups of an identity. -/
structure Grouped (parts : List (List Char)) : Prop where
  lengths : parts.map List.length = [8, 4, 4, 4, 12]
  digits : ∀ c ∈ parts.flatten, c ∈ alphabet

/-- A text is the lower-case hyphenated form of 128 bits. -/
def Renders (bits : BitVec 128) (text : String) : Prop :=
  ∃ parts, Grouped parts ∧ places parts.flatten = bits.toNat ∧ ['-'].intercalate parts = text.toList

/-- A text that is no identity, however much of it looks like one: it has a letter in upper case or
a character of several bytes, or its hyphens are not the four that there should be. -/
inductive Misshapen (cs : List Char) : Prop
  | uppercase (c : Char) (hc : c ∈ cs) (hupper : c.isUpper = true)
  | multibyte (c : Char) (hc : c ∈ cs) (hsize : c.utf8Size ≠ 1)
  | hyphens (h : cs.idxsOf '-' ≠ [8, 13, 18, 23])

/-! ## Digits -/

theorem isDigit_iff : isDigit c = true ↔ c ∈ alphabet := by
  constructor
  · -- Both ranges of digits end before `g`, which leaves a few characters to look at.
    intro h
    have hall : ∀ k < 103, isDigit (Char.ofNat k) = true → Char.ofNat k ∈ alphabet := by decide
    have hlt : c.toNat < 103 := by
      have hle : ∀ {d : Char}, c ≤ d → d.toNat < 103 → c.toNat < 103 := fun hc hd =>
        (UInt32.le_iff_toNat_le.1 hc).trans_lt hd
      simp only [isDigit, Bool.or_eq_true, Bool.and_eq_true, decide_eq_true_eq] at h
      rcases h with h | h
      · exact hle h.2 (by decide)
      · exact hle h.2 (by decide)
    have hc := hall c.toNat hlt
    rw [Char.ofNat_toNat] at hc
    exact hc h
  · have hall : alphabet.all isDigit = true := by decide
    exact List.all_eq_true.1 hall c

theorem hexDigit_mem (hn : n < 16) : Decimal.hexDigit 'a' n ∈ alphabet := by
  interval_cases n <;> decide

theorem idxOf_hexDigit (hn : n < 16) : alphabet.idxOf (Decimal.hexDigit 'a' n) = n := by
  interval_cases n <;> decide

theorem idxOf_lt (hc : c ∈ alphabet) : alphabet.idxOf c < 16 := List.idxOf_lt_length_iff.2 hc

theorem hexDigit_idxOf (hc : c ∈ alphabet) : Decimal.hexDigit 'a' (alphabet.idxOf c) = c := by
  have hall : alphabet.all (fun c => Decimal.hexDigit 'a' (alphabet.idxOf c) = c) = true := by
    decide
  simpa using List.all_eq_true.1 hall c hc

/-- A digit takes up one byte, and it is neither a letter in upper case nor a hyphen. -/
theorem ascii_of_mem (hc : c ∈ alphabet) : c.utf8Size = 1 ∧ c.isUpper = false ∧ c ≠ '-' := by
  have hall : alphabet.all (fun c => c.utf8Size = 1 ∧ c.isUpper = false ∧ c ≠ '-') = true := by
    decide
  simpa using List.all_eq_true.1 hall c hc

/-! ## The digits of a number -/

theorem length_hex (k n : ℕ) : (hex k n).length = k := by
  induction k generalizing n with
  | zero => rfl
  | succ k ih => rw [hex, List.length_append, ih, List.length_singleton]

theorem hex_mem (k n : ℕ) : ∀ c ∈ hex k n, c ∈ alphabet := by
  induction k generalizing n with
  | zero => exact fun c hc => absurd hc List.not_mem_nil
  | succ k ih =>
      intro c hc
      rcases List.mem_append.1 hc with hc | hc
      · exact ih (n / 16) c hc
      · rw [List.mem_singleton.1 hc]
        exact hexDigit_mem (Nat.mod_lt n (by omega))

theorem places_concat (ds : List Char) (c : Char) :
    places (ds ++ [c]) = alphabet.idxOf c + 16 * places ds := by
  rw [places, List.map_append, List.reverse_append, List.map_singleton, List.reverse_singleton,
    List.singleton_append, Nat.ofDigits_cons]
  rfl

/-- The last digits of a number write what is left of it when the others are cut off. -/
theorem places_hex (k n : ℕ) : places (hex k n) = n % 16 ^ k := by
  induction k generalizing n with
  | zero => exact (Nat.mod_one n).symm
  | succ k ih =>
      calc places (hex (k + 1) n)
          = alphabet.idxOf (Decimal.hexDigit 'a' (n % 16)) + 16 * places (hex k (n / 16)) :=
            places_concat ..
        _ = n % 16 + 16 * (n / 16 % 16 ^ k) := by rw [idxOf_hexDigit (Nat.mod_lt n (by omega)), ih]
        _ = n % 16 ^ (k + 1) := by rw [Nat.pow_succ', Nat.mod_mul]

/-- Digits are the last ones of the number that they write. -/
theorem hex_places (hds : ∀ c ∈ ds, c ∈ alphabet) : hex ds.length (places ds) = ds := by
  induction ds using List.reverseRecOn with
  | nil => rfl
  | append_singleton ds c ih =>
      obtain ⟨hinit, hc⟩ := List.forall_mem_append.1 hds
      have hc : c ∈ alphabet := hc c List.mem_cons_self
      have hlt := idxOf_lt hc
      have hdiv : (alphabet.idxOf c + 16 * places ds) / 16 = places ds := by omega
      have hmod : (alphabet.idxOf c + 16 * places ds) % 16 = alphabet.idxOf c := by omega
      rw [List.length_append, List.length_singleton, places_concat, hex, hdiv, hmod, ih hinit,
        hexDigit_idxOf hc]

theorem places_lt (hds : ∀ c ∈ ds, c ∈ alphabet) : places ds < 16 ^ ds.length := by
  have hrest := places_hex ds.length (places ds)
  rw [hex_places hds] at hrest
  rw [hrest]
  exact Nat.mod_lt _ (Nat.pow_pos (by omega))

/-! ## Parts -/

theorem isGroup_iff : isGroup n cs = true ↔ cs.length = n ∧ ∀ c ∈ cs, c ∈ alphabet := by
  rw [isGroup, Bool.and_eq_true, beq_iff_eq, List.all_eq_true]
  simp only [isDigit_iff]
  refine and_congr_left fun hdigits => ?_
  rw [byteLength_of_ascii fun c hc => (ascii_of_mem (hdigits c hc)).1]

/-- Parts that are groups one by one. -/
theorem all_isGroup_iff : (parts.length = ns.length ∧
      (parts.zip ns).all (fun (part, n) => isGroup n part) = true) ↔
    parts.map List.length = ns ∧ ∀ c ∈ parts.flatten, c ∈ alphabet := by
  induction parts generalizing ns with
  | nil => cases ns <;> simp
  | cons part parts ih =>
      cases ns with
      | nil => simp
      | cons n ns =>
          have ih := @ih ns
          simp only [List.length_cons, Nat.add_right_cancel_iff, List.zip_cons_cons, List.all_cons,
            Bool.and_eq_true, isGroup_iff, List.map_cons, List.cons.injEq, List.flatten_cons,
            List.forall_mem_append]
          tauto

theorem Grouped.ne_nil (h : Grouped parts) : parts ≠ [] := by
  rintro rfl
  exact absurd h.lengths (by simp)

/-- The parts are found again between the hyphens. -/
theorem Grouped.splitAt_eq (h : Grouped parts) : splitAt '-' (['-'].intercalate parts) = parts := by
  refine (splitAt_eq_iff h.ne_nil).2 ⟨fun part hpart hhyphen => ?_, rfl⟩
  exact (ascii_of_mem (h.digits _ (List.mem_flatten_of_mem hpart hhyphen))).2.2 rfl

theorem Grouped.mem (h : Grouped parts) (hc : c ∈ ['-'].intercalate parts) :
    c = '-' ∨ c ∈ alphabet := (mem_intercalate hc).imp_right (h.digits c)

theorem Grouped.length_flatten (h : Grouped parts) : parts.flatten.length = 32 := by
  rw [List.length_flatten, h.lengths]
  rfl

theorem Grouped.layout (h : Grouped parts) : ∃ a b c d e : List Char,
    parts = [a, b, c, d, e] ∧ a.length = 8 ∧ b.length = 4 ∧ c.length = 4 ∧ d.length = 4 ∧
      e.length = 12 := by
  obtain ⟨a, _, rfl, ha, h⟩ := List.map_eq_cons_iff.1 h.lengths
  obtain ⟨b, _, rfl, hb, h⟩ := List.map_eq_cons_iff.1 h
  obtain ⟨c, _, rfl, hc, h⟩ := List.map_eq_cons_iff.1 h
  obtain ⟨d, _, rfl, hd, h⟩ := List.map_eq_cons_iff.1 h
  obtain ⟨e, _, rfl, he, h⟩ := List.map_eq_cons_iff.1 h
  rw [List.map_eq_nil_iff.1 h]
  exact ⟨a, b, c, d, e, rfl, ha, hb, hc, hd, he⟩

theorem Grouped.length_joined (h : Grouped parts) : (['-'].intercalate parts).length = 36 := by
  obtain ⟨a, b, c, d, e, rfl, ha, hb, hc, hd, he⟩ := h.layout
  simp [List.intercalate_cons_cons, List.intercalate_singleton, ha, hb, hc, hd, he]

theorem idxsOf_digits {part : List Char} (h : ∀ c ∈ part, c ∈ alphabet) (n : ℕ) :
    part.idxsOf '-' n = [] :=
  List.idxsOf_eq_nil_iff.2 fun c hc => beq_false_of_ne (ascii_of_mem (h c hc)).2.2

theorem idxsOf_hyphen {part : List Char} (h : ∀ c ∈ part, c ∈ alphabet) (rest : List Char) (n : ℕ) :
    (part ++ '-' :: rest).idxsOf '-' n
      = (n + part.length) :: rest.idxsOf '-' (n + part.length + 1) := by
  rw [List.idxsOf_append, idxsOf_digits h, List.nil_append, List.idxsOf_cons,
    if_pos (beq_self_eq_true '-')]

theorem Grouped.idxsOf_joined (h : Grouped parts) :
    (['-'].intercalate parts).idxsOf '-' = [8, 13, 18, 23] := by
  obtain ⟨a, b, c, d, e, rfl, hlengths⟩ := h.layout
  obtain ⟨ha, hb, hc, hd, -⟩ := hlengths
  have hdigits := h.digits
  simp only [List.flatten_cons, List.flatten_nil, List.forall_mem_append] at hdigits
  obtain ⟨ha', hb', hc', hd', he', -⟩ := hdigits
  simp only [List.intercalate_cons_cons, List.intercalate_singleton, List.append_assoc,
    List.singleton_append]
  rw [idxsOf_hyphen ha', idxsOf_hyphen hb', idxsOf_hyphen hc', idxsOf_hyphen hd',
    idxsOf_digits he', ha, hb, hc, hd]

/-! ## Texts that are identities -/

theorem isGenerated_eq_true_iff : isGenerated text = true ↔
    byteLength text.toList = 36 ∧ Grouped (splitAt '-' text.toList) := by
  have hgroups : Grouped (splitAt '-' text.toList) ↔
      (splitAt '-' text.toList).length = groups.length ∧
        ((splitAt '-' text.toList).zip groups).all (fun (part, n) => isGroup n part) = true := by
    rw [all_isGroup_iff]
    exact ⟨fun h => ⟨h.lengths, h.digits⟩, fun h => ⟨h.1, h.2⟩⟩
  rw [hgroups]
  simp only [isGenerated, Bool.and_eq_true, beq_iff_eq, and_assoc, length]

/-- An identity is made up of groups, and what groups make up is an identity. -/
theorem isGenerated_iff : isGenerated text = true ↔
    ∃ parts, Grouped parts ∧ ['-'].intercalate parts = text.toList := by
  rw [isGenerated_eq_true_iff]
  constructor
  · rintro ⟨-, h⟩
    exact ⟨_, h, ((splitAt_eq_iff h.ne_nil).1 rfl).2⟩
  · rintro ⟨parts, h, hjoined⟩
    have hascii : ∀ c ∈ ['-'].intercalate parts, c.utf8Size = 1 := by
      intro c hc
      rcases h.mem hc with rfl | hc
      · rfl
      · exact (ascii_of_mem hc).1
    rw [← hjoined, byteLength_of_ascii hascii, h.splitAt_eq]
    exact ⟨h.length_joined, h⟩

/-- A misshapen text is not made up of groups. -/
theorem Misshapen.not_isGenerated (h : Misshapen text.toList) : isGenerated text = false := by
  rw [← Bool.not_eq_true, isGenerated_iff]
  rintro ⟨parts, hparts, hjoined⟩
  rw [← hjoined] at h
  cases h with
  | uppercase c hc hupper =>
      rcases hparts.mem hc with rfl | hc
      · cases hupper
      · exact Bool.false_ne_true ((ascii_of_mem hc).2.1.symm.trans hupper)
  | multibyte c hc hsize =>
      rcases hparts.mem hc with rfl | hc
      · exact hsize rfl
      · exact hsize (ascii_of_mem hc).1
  | hyphens h => exact h hparts.idxsOf_joined

/-! ## What is written for 128 bits -/

theorem hyphenate_eq (ns : List ℕ) (ds : List Char) :
    hyphenate ns ds = ['-'].intercalate (ns.splitLengths ds) := by
  fun_induction hyphenate ns ds with
  | case1 ds => rfl
  | case2 n ds => rw [List.splitLengths_cons, List.splitLengths_nil, List.intercalate_singleton]
  | case3 n m ns ds ih =>
      rw [ih]
      simp only [List.splitLengths_cons, List.intercalate_cons_cons, List.append_assoc,
        List.singleton_append]

/-- Parts are cut out again where they were joined. -/
theorem splitLengths_flatten (parts : List (List Char)) :
    (parts.map List.length).splitLengths parts.flatten = parts := by
  induction parts with
  | nil => rfl
  | cons part parts ih =>
      rw [List.map_cons, List.flatten_cons, List.splitLengths_cons, List.take_left, List.drop_left,
        ih]

theorem toList_ofBits (bits : BitVec 128) : (ofBits bits).toList
    = ['-'].intercalate (groups.splitLengths (hex 32 bits.toNat)) := by
  rw [ofBits, String.toList_ofList, hyphenate_eq]

/-- **What is written for 128 bits is their form, and there is no other one.** -/
theorem renders_iff : Renders bits text ↔ ofBits bits = text := by
  have hlength : (hex 32 bits.toNat).length = groups.sum := length_hex 32 bits.toNat
  constructor
  · -- The digits between the hyphens write the bits, so they are the ones that are written.
    rintro ⟨parts, h, hplaces, hjoined⟩
    have hdigits : hex 32 bits.toNat = parts.flatten := by
      rw [← hplaces, ← h.length_flatten, hex_places h.digits]
    have hparts : groups.splitLengths parts.flatten = parts := by
      rw [show groups = parts.map List.length from h.lengths.symm, splitLengths_flatten]
    rw [← String.toList_inj, toList_ofBits, hdigits, hparts, hjoined]
  · -- All digits are there after the cut, since there are as many as the groups take.
    rintro rfl
    have hflatten : (groups.splitLengths (hex 32 bits.toNat)).flatten = hex 32 bits.toNat :=
      List.flatten_splitLengths _ _ hlength.le
    refine ⟨groups.splitLengths (hex 32 bits.toNat), ⟨?_, ?_⟩, ?_, (toList_ofBits bits).symm⟩
    · exact List.map_splitLengths_length _ _ hlength.ge
    · rw [hflatten]
      exact hex_mem 32 bits.toNat
    · rw [hflatten, places_hex]
      exact Nat.mod_eq_of_lt bits.isLt

/-- A text is the form of at most one value. -/
theorem Renders.bits_eq (h : Renders bits text) (h' : Renders bits' text) : bits = bits' := by
  obtain ⟨parts, hparts, hplaces, hjoined⟩ := h
  obtain ⟨parts', hparts', hplaces', hjoined'⟩ := h'
  have hsame : parts = parts' := by
    rw [← hparts.splitAt_eq, ← hparts'.splitAt_eq, hjoined, hjoined']
  exact BitVec.eq_of_toNat_eq (hplaces.symm.trans (hsame ▸ hplaces'))

/-- Digits in groups write a value of 128 bits. -/
theorem Grouped.renders (h : Grouped parts) (hjoined : ['-'].intercalate parts = text.toList) :
    Renders (BitVec.ofNat 128 (places parts.flatten)) text := by
  have hlt : places parts.flatten < 2 ^ 128 := by
    have hplaces := places_lt h.digits
    rwa [h.length_flatten] at hplaces
  refine ⟨parts, h, ?_, hjoined⟩
  rw [BitVec.toNat_ofNat, Nat.mod_eq_of_lt hlt]

/-- **The texts taken for identities are the lower-case hyphenated forms of 128 bits.** Each such
text is the form of one value, each value has one form, which is what is written for it, and so
every identity that a supply gives out is recognised, whatever its bits. Texts that have the wrong
letters, characters or hyphens are refused. -/
theorem isGenerated_exactly :
    (∀ text, isGenerated text = true ↔ ∃! bits, Renders bits text) ∧
      (∀ bits text, Renders bits text ↔ ofBits bits = text) ∧
      (∀ bits, isGenerated (ofBits bits) = true) ∧
      (∀ supply : Supply, isGenerated supply.next.1 = true) ∧
      ∀ text, Misshapen text.toList → isGenerated text = false := by
  have hwritten : ∀ bits, isGenerated (ofBits bits) = true := by
    intro bits
    obtain ⟨parts, h, -, hjoined⟩ := renders_iff.2 (rfl : ofBits bits = ofBits bits)
    exact isGenerated_iff.2 ⟨parts, h, hjoined⟩
  refine ⟨fun text => ⟨fun h => ?_, ?_⟩, fun bits text => renders_iff, hwritten,
    fun supply => hwritten _, fun text => Misshapen.not_isGenerated⟩
  · obtain ⟨parts, hparts, hjoined⟩ := isGenerated_iff.1 h
    exact ⟨_, hparts.renders hjoined, fun bits hbits => hbits.bits_eq (hparts.renders hjoined)⟩
  · rintro ⟨bits, hbits, -⟩
    rw [← renders_iff.1 hbits]
    exact hwritten bits

/-- One hyphen stands a digit too late. -/
theorem isGenerated_exactly_of_lateHyphen :
    Misshapen "0f8fad5bd-9cb-469f-a165-70867728950e".toList ∧
      isGenerated "0f8fad5bd-9cb-469f-a165-70867728950e" = false := by
  have h : Misshapen "0f8fad5bd-9cb-469f-a165-70867728950e".toList := .hyphens (by decide +kernel)
  exact ⟨h, isGenerated_exactly.2.2.2.2 _ h⟩

end ImageOverlay.Identity
