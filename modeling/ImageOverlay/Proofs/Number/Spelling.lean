import ImageOverlay.Proofs.Number.Layout
import Mathlib.Data.Nat.Digits.Defs

set_option autoImplicit false

/-!
# How numbers are spelled

A number in a free text is an optional sign with digits, a point and an exponent behind it, or a
word. The grammar is written down here (`Literal`), with the double that each spelling stands for,
and the reader takes a text for a number exactly if the grammar has it (`literal?_eq_some_iff`).
Digits stand for a number by their places (`places`), so what the reader sums up from the left is
compared with the digits of a number as the library has them, from the right.
-/

namespace ImageOverlay.Decimal

variable {cs ds body : List Char} {negative : Bool} {m : ℕ} {e : ℤ} {x : Float}

/-! ## Digits -/

/-- Digits, and nothing else. -/
def AllDigits (ds : List Char) : Prop := ∀ c ∈ ds, c.isDigit = true

/-- The number that digits write: the last one counts once, and every other one ten times as much
as the next. -/
def places (ds : List Char) : ℕ := Nat.ofDigits 10 (ds.map fun c => c.toNat - '0'.toNat).reverse

/-- Digits are summed up place by place. -/
theorem ofDigits_eq {base : ℕ} {value? : Char → Option ℕ} {v : Char → ℕ}
    (hds : ∀ c ∈ ds, value? c = some (v c)) :
    ofDigits base value? ds = Nat.ofDigits base (ds.map v).reverse := by
  rw [Nat.ofDigits_eq_foldr, List.foldr_reverse, List.foldl_map, ofDigits]
  refine List.foldl_ext _ _ _ fun n c hc => ?_
  rw [hds c hc, Option.getD_some, Nat.cast_id, add_comm, mul_comm]

theorem digit?_of_isDigit {c : Char} (hc : c.isDigit = true) :
    digit? c = some (c.toNat - '0'.toNat) := by
  have hsome := isDigit_iff.2 hc
  unfold isDigit at hsome
  unfold digit? at hsome ⊢
  split at hsome
  · rw [if_pos ‹_›]
  · cases hsome

theorem toNat_eq_places (hds : AllDigits ds) : toNat ds = places ds :=
  ofDigits_eq fun c hc => digit?_of_isDigit (hds c hc)

theorem all_isDigit_iff : ds.all isDigit = true ↔ AllDigits ds := by
  simp only [List.all_eq_true, isDigit_iff, AllDigits]

/-- An unsigned number is digits, with a plus in front of them or without. -/
theorem unsigned?_eq_some_iff {n : ℕ} : unsigned? 10 digit? cs = some n ↔
    ∃ ds, (cs = ds ∨ cs = '+' :: ds) ∧ ds ≠ [] ∧ AllDigits ds ∧ n = places ds := by
  have hdigits : ∀ {ds : List Char}, ds ≠ [] → AllDigits ds →
      (ds.isEmpty || !ds.all fun c => (digit? c).isSome) = false := by
    intro ds hnil hds
    rw [Bool.or_eq_false_iff, Bool.not_eq_false']
    exact ⟨List.isEmpty_eq_false_iff.2 hnil, all_isDigit_iff.2 hds⟩
  constructor
  · intro h
    obtain ⟨ds, hcs, hsplit⟩ : ∃ ds, (cs = ds ∨ cs = '+' :: ds) ∧
        unsigned? 10 digit? cs = if ds.isEmpty || !ds.all fun c => (digit? c).isSome then none
          else some (ofDigits 10 digit? ds) := by
      unfold unsigned?
      split
      · exact ⟨_, .inr rfl, rfl⟩
      · exact ⟨_, .inl rfl, rfl⟩
    rw [hsplit] at h
    split at h
    · cases h
    · rename_i hall
      simp only [Bool.or_eq_true, Bool.not_eq_true', not_or, List.isEmpty_iff,
        Bool.not_eq_false] at hall
      have hds := all_isDigit_iff.1 hall.2
      exact ⟨ds, hcs, hall.1, hds, (Option.some.inj h).symm.trans (toNat_eq_places hds)⟩
  · rintro ⟨ds, hcs, hnil, hds, rfl⟩
    have hread : unsigned? 10 digit? cs = if ds.isEmpty || !ds.all fun c => (digit? c).isSome then
        none else some (ofDigits 10 digit? ds) := by
      rcases hcs with rfl | rfl
      · unfold unsigned?
        split
        · exact absurd (hds '+' List.mem_cons_self) (by decide)
        · rfl
      · rfl
    rw [hread, hdigits hnil hds, ← toNat_eq_places hds]
    rfl

/-! ## Signs -/

/-- A text and what is left of it without a sign, which makes it negative or not. -/
inductive Signed : List Char → Bool → List Char → Prop
  | bare (body : List Char) : Signed body false body
  | plus (body : List Char) : Signed ('+' :: body) false body
  | minus (body : List Char) : Signed ('-' :: body) true body

theorem signed_sign (cs : List Char) : Signed cs (sign cs).1 (sign cs).2 := by
  unfold sign
  split
  · exact .minus _
  · exact .plus _
  · exact .bare _

/-- A body that begins with no sign has none but the one before it. -/
theorem Signed.sign_eq (h : Signed cs negative body)
    (hbody : ∀ c ∈ body.head?, c ≠ '+' ∧ c ≠ '-') : sign cs = (negative, body) := by
  cases h with
  | bare =>
      unfold sign
      split
      · exact absurd rfl (hbody _ rfl).2
      · exact absurd rfl (hbody _ rfl).1
      · rfl
  | plus => rfl
  | minus => rfl

theorem not_sign_of_isDigit {c : Char} (hc : c.isDigit = true) : c ≠ '+' ∧ c ≠ '-' := by
  constructor <;> rintro rfl <;> cases hc

/-! ## Exponents -/

/-- Nothing, or the power of ten behind the letter `e`. -/
inductive Exponent : List Char → ℤ → Prop
  | none : Exponent [] 0
  | power {letter : Char} {cs ds : List Char} {negative : Bool}
      (hletter : letter = 'e' ∨ letter = 'E') (hsign : Signed cs negative ds) (hnil : ds ≠ [])
      (hds : AllDigits ds) :
      Exponent (letter :: cs) (if negative then -(places ds : ℤ) else places ds)

theorem exponent?_eq_some_iff :
    exponent? cs = some e ↔ ∃ negative ds, Signed cs negative ds ∧ ds ≠ [] ∧ AllDigits ds ∧
      e = if negative then -(places ds : ℤ) else places ds := by
  constructor
  · intro h
    simp only [exponent?] at h
    split at h
    · cases h
    · rename_i hdigits
      simp only [Bool.or_eq_true, Bool.not_eq_true', not_or, List.isEmpty_iff,
        Bool.not_eq_false, all_isDigit_iff] at hdigits
      rw [toNat_eq_places hdigits.2] at h
      exact ⟨_, _, signed_sign cs, hdigits.1, hdigits.2, (Option.some.inj h).symm⟩
  · rintro ⟨negative, ds, hsign, hnil, hds, rfl⟩
    have hhead : ∀ c ∈ ds.head?, c ≠ '+' ∧ c ≠ '-' := fun c hc =>
      not_sign_of_isDigit (hds c (List.mem_of_mem_head? hc))
    have hdigits : (ds.isEmpty || !ds.all isDigit) = false := by
      rw [all_isDigit_iff.2 hds, Bool.not_true, Bool.or_false, List.isEmpty_eq_false_iff]
      exact hnil
    simp only [exponent?, hsign.sign_eq hhead, hdigits, toNat_eq_places hds]
    rfl

theorem power?_eq_some_iff : power? cs = some e ↔ Exponent cs e := by
  constructor
  · intro h
    unfold power? at h
    split at h
    · obtain rfl := Option.some.inj h
      exact .none
    · obtain ⟨negative, ds, hsign, hnil, hds, rfl⟩ := exponent?_eq_some_iff.1 h
      exact .power (.inl rfl) hsign hnil hds
    · obtain ⟨negative, ds, hsign, hnil, hds, rfl⟩ := exponent?_eq_some_iff.1 h
      exact .power (.inr rfl) hsign hnil hds
    · cases h
  · intro h
    cases h with
    | none => rfl
    | power hletter hsign hnil hds =>
        have hexponent := exponent?_eq_some_iff.2 ⟨_, _, hsign, hnil, hds, rfl⟩
        rcases hletter with rfl | rfl <;> exact hexponent

/-- What comes after digits and a point is no digit and no point. -/
theorem Exponent.head (h : Exponent cs e) : ∀ c ∈ cs.head?, isDigit c = false ∧ c ≠ '.' := by
  cases h with
  | none => exact nofun
  | power hletter =>
      rintro c ⟨⟩
      rcases hletter with rfl | rfl <;> decide

/-! ## Numbers without a sign -/

/-- Digits, with a point among them or next to them or with none, and an exponent: the digits as a
whole number, and the power of ten that goes with them. -/
inductive Number : List Char → ℕ → ℤ → Prop
  | whole {ds cs : List Char} {e : ℤ} (hnil : ds ≠ []) (hds : AllDigits ds) (he : Exponent cs e) :
      Number (ds ++ cs) (places ds) e
  | pointed {whole fraction cs : List Char} {e : ℤ} (hnil : whole ++ fraction ≠ [])
      (hds : AllDigits (whole ++ fraction)) (he : Exponent cs e) :
      Number (whole ++ '.' :: (fraction ++ cs)) (places (whole ++ fraction)) (e - fraction.length)

theorem AllDigits.isDigit (hds : AllDigits ds) : ∀ c ∈ ds, Decimal.isDigit c = true :=
  fun c hc => isDigit_iff.2 (hds c hc)

theorem span_spec (cs : List Char) : (span cs).1 ++ (span cs).2 = cs ∧ AllDigits (span cs).1 :=
  ⟨List.takeWhile_append_dropWhile, fun _ hc => isDigit_iff.1 (List.mem_takeWhile_imp hc)⟩

theorem fraction_of_head (h : ∀ c ∈ cs.head?, c ≠ '.') : fraction cs = ([], cs) := by
  unfold fraction
  split
  · exact absurd rfl (h _ rfl)
  · rfl

/-- The parts of a number, put together. -/
theorem joined_eq_some_iff {whole fraction rest : List Char} :
    (if (whole.isEmpty && fraction.isEmpty) = true then none
      else (power? rest).map fun k => (toNat (whole ++ fraction), k - (fraction.length : ℤ)))
        = some (m, e) ↔
      whole ++ fraction ≠ [] ∧ ∃ k, Exponent rest k ∧ toNat (whole ++ fraction) = m ∧
        k - fraction.length = e := by
  have hempty : (whole.isEmpty && fraction.isEmpty) = true ↔ whole ++ fraction = [] := by
    rw [Bool.and_eq_true, List.isEmpty_iff, List.isEmpty_iff, List.append_eq_nil_iff]
  by_cases h : whole ++ fraction = []
  · rw [if_pos (hempty.2 h)]
    simp [h]
  · rw [if_neg (mt hempty.1 h), Option.map_eq_some_iff]
    simp only [power?_eq_some_iff, Prod.mk.injEq, ne_eq, h, not_false_eq_true, true_and]

/-- The parts that are read are those of the text. -/
theorem number_of_parts? (h : parts? cs = some (m, e)) : Number cs m e := by
  unfold parts? at h
  obtain ⟨hcs, hwhole⟩ := span_spec cs
  generalize span cs = p at h hcs hwhole
  obtain ⟨whole, rest⟩ := p
  simp only at h hcs hwhole
  subst hcs
  by_cases hpoint : ∃ r, rest = '.' :: r
  · obtain ⟨r, rfl⟩ := hpoint
    obtain ⟨hr, hplaces⟩ := span_spec r
    rw [fraction] at h
    generalize span r = p at h hr hplaces
    obtain ⟨places, rest⟩ := p
    simp only at h hr hplaces
    subst hr
    have hdigits : AllDigits (whole ++ places) := by
      intro c hc
      exact (List.mem_append.1 hc).elim (hwhole c) (hplaces c)
    obtain ⟨hnil, k, hk, rfl, rfl⟩ := joined_eq_some_iff.1 h
    rw [toNat_eq_places hdigits]
    exact .pointed hnil hdigits hk
  · have hhead : ∀ c ∈ rest.head?, c ≠ '.' := by
      rintro c hc rfl
      exact hpoint ⟨rest.tail, (List.cons_head?_tail hc).symm⟩
    rw [fraction_of_head hhead] at h
    obtain ⟨hnil, k, hk, rfl, rfl⟩ := joined_eq_some_iff.1 h
    rw [List.append_nil] at hnil
    rw [List.append_nil, toNat_eq_places hwhole, List.length_nil, Nat.cast_zero, sub_zero]
    exact .whole hnil hwhole hk

theorem parts?_eq_some_iff : parts? cs = some (m, e) ↔ Number cs m e := by
  refine ⟨number_of_parts?, fun h => ?_⟩
  cases h with
  | @whole ds cs e hnil hds he =>
      have hspan := span_append hds.isDigit fun c hc => (he.head c hc).1
      have hfraction := fraction_of_head fun c hc => (he.head c hc).2
      simp only [parts?, hspan, hfraction]
      refine joined_eq_some_iff.2 ⟨by rwa [List.append_nil], e, he, ?_, sub_zero e⟩
      rw [List.append_nil, toNat_eq_places hds]
  | @pointed whole places cs e hnil hds he =>
      have hwhole : ∀ c ∈ whole, isDigit c = true := fun c hc =>
        hds.isDigit c (List.mem_append_left _ hc)
      have hplaces : ∀ c ∈ places, isDigit c = true := fun c hc =>
        hds.isDigit c (List.mem_append_right _ hc)
      have hspan : span (whole ++ '.' :: (places ++ cs)) = (whole, '.' :: (places ++ cs)) :=
        span_append hwhole (by rintro c ⟨⟩; rfl)
      have hfraction := span_append hplaces fun c hc => (he.head c hc).1
      simp only [parts?, hspan, fraction, hfraction]
      exact joined_eq_some_iff.2 ⟨hnil, e, he, toNat_eq_places hds, rfl⟩

/-- A number begins with a digit or a point. -/
theorem Number.head (h : Number cs m e) : ∀ c ∈ cs.head?, c.isDigit = true ∨ c = '.' := by
  cases h with
  | @whole ds cs e hnil hds he =>
      obtain ⟨d, ds, rfl⟩ := List.exists_cons_of_ne_nil hnil
      rintro c ⟨⟩
      exact .inl (hds d List.mem_cons_self)
  | @pointed whole places cs e hnil hds he =>
      cases whole with
      | nil =>
          rintro c ⟨⟩
          exact .inr rfl
      | cons d whole =>
          rintro c ⟨⟩
          exact .inl (hds d List.mem_cons_self)

/-! ## Literals -/

/-- A text that writes a double: a number or one of the words, in any case, with an optional sign. -/
inductive Literal : List Char → Float → Prop
  | infinity {cs body : List Char} {negative : Bool} (hsign : Signed cs negative body)
      (hword : body.map Char.toLower = "inf".toList ∨ body.map Char.toLower = "infinity".toList) :
      Literal cs (if negative then -1.0 / 0.0 else 1.0 / 0.0)
  | nan {cs body : List Char} {negative : Bool} (hsign : Signed cs negative body)
      (hword : body.map Char.toLower = "nan".toList) : Literal cs (0.0 / 0.0)
  | number {cs body : List Char} {negative : Bool} {m : ℕ} {e : ℤ}
      (hsign : Signed cs negative body) (hnumber : Number body m e) :
      Literal cs (value negative m e)

theorem isAlpha_of_isDigit {c : Char} (hc : c.isDigit = true) : c.isAlpha = false := by
  simp only [Char.isDigit, Char.isAlpha, Char.isUpper, Char.isLower, Bool.and_eq_true,
    decide_eq_true_eq, ge_iff_le, UInt32.le_iff_toNat_le, Bool.or_eq_false_iff,
    decide_eq_false_iff_not, not_and] at hc ⊢
  simp at hc ⊢
  omega

/-- A word has letters only, in whatever case. -/
theorem isAlpha_of_word {word : List Char} (hword : body.map Char.toLower = word)
    (hletters : word.all Char.isAlpha = true) : ∀ c ∈ body, c.isAlpha = true := by
  subst hword
  intro c hc
  have hlower := List.all_eq_true.1 hletters c.toLower (List.mem_map_of_mem hc)
  rwa [Char.isAlpha_toLower_eq_isAlpha] at hlower

theorem not_sign_of_isAlpha {c : Char} (hc : c.isAlpha = true) : c ≠ '+' ∧ c ≠ '-' := by
  constructor <;> rintro rfl <;> cases hc

/-- A number is no word. -/
theorem Number.ne_word (h : Number body m e) {word : List Char} (hnil : word ≠ [])
    (hletters : word.all Char.isAlpha = true) : body.map Char.toLower ≠ word := by
  intro hword
  have hbody : body ≠ [] := by
    rintro rfl
    exact hnil hword.symm
  obtain ⟨c, rest, rfl⟩ := List.exists_cons_of_ne_nil hbody
  have halpha := isAlpha_of_word hword hletters c List.mem_cons_self
  rcases h.head c rfl with hdigit | rfl
  · rw [isAlpha_of_isDigit hdigit] at halpha
    cases halpha
  · cases halpha

/-- **The reader takes the texts of the grammar, and no others**, for the doubles they write. -/
theorem literal?_eq_some_iff : literal? cs = some x ↔ Literal cs x := by
  have hinf : "inf".toList.all Char.isAlpha = true := rfl
  have hinfinity : "infinity".toList.all Char.isAlpha = true := rfl
  have hnan : "nan".toList.all Char.isAlpha = true := rfl
  constructor
  · intro h
    have hsign := signed_sign cs
    simp only [literal?] at h
    split at h
    · obtain rfl := Option.some.inj h
      exact .infinity hsign ‹_›
    · split at h
      · obtain rfl := Option.some.inj h
        exact .nan hsign ‹_›
      · obtain ⟨⟨m, e⟩, hparts, rfl⟩ := Option.map_eq_some_iff.1 h
        exact .number hsign (parts?_eq_some_iff.1 hparts)
  · intro h
    cases h with
    | infinity hsign hword =>
        have hletters := hword.elim (isAlpha_of_word · hinf) (isAlpha_of_word · hinfinity)
        have hhead := hsign.sign_eq fun c hc =>
          not_sign_of_isAlpha (hletters c (List.mem_of_mem_head? hc))
        simp only [literal?, hhead]
        rw [if_pos hword]
    | nan hsign hword =>
        have hletters := isAlpha_of_word hword hnan
        have hhead := hsign.sign_eq fun c hc =>
          not_sign_of_isAlpha (hletters c (List.mem_of_mem_head? hc))
        simp only [literal?, hhead, hword]
        rfl
    | number hsign hnumber =>
        have hhead := hsign.sign_eq fun c hc => (hnumber.head c hc).elim not_sign_of_isDigit
          (by rintro rfl; decide)
        have hword := hnumber.ne_word (by decide) hinf
        have hword' := hnumber.ne_word (by decide) hinfinity
        have hword'' := hnumber.ne_word (by decide) hnan
        simp only [literal?, hhead]
        rw [if_neg (not_or.2 ⟨hword, hword'⟩), if_neg hword'', parts?_eq_some_iff.2 hnumber]
        rfl

/-! ## Characters -/

/-- The characters that numbers are made of. -/
def isPlain (c : Char) : Bool := c.isAlphanum || c == '+' || c == '-' || c == '.'

theorem isPlain_of_isDigit {c : Char} (hc : c.isDigit = true) : isPlain c = true := by
  simp [isPlain, Char.isAlphanum, hc]

theorem isPlain_of_isAlpha {c : Char} (hc : c.isAlpha = true) : isPlain c = true := by
  simp [isPlain, Char.isAlphanum, hc]

theorem Signed.plain (h : Signed cs negative body) (hbody : ∀ c ∈ body, isPlain c = true) :
    ∀ c ∈ cs, isPlain c = true := by
  cases h with
  | bare => exact hbody
  | plus | minus => exact List.forall_mem_cons.2 ⟨rfl, hbody⟩

theorem Exponent.plain (h : Exponent cs e) : ∀ c ∈ cs, isPlain c = true := by
  cases h with
  | none => exact nofun
  | power hletter hsign hnil hds =>
      refine List.forall_mem_cons.2 ⟨?_, hsign.plain fun c hc => isPlain_of_isDigit (hds c hc)⟩
      rcases hletter with rfl | rfl <;> rfl

theorem Number.plain (h : Number cs m e) : ∀ c ∈ cs, isPlain c = true := by
  cases h with
  | whole hnil hds he =>
      exact List.forall_mem_append.2 ⟨fun c hc => isPlain_of_isDigit (hds c hc), he.plain⟩
  | pointed hnil hds he =>
      obtain ⟨hwhole, hplaces⟩ := List.forall_mem_append.1 hds
      refine List.forall_mem_append.2 ⟨fun c hc => isPlain_of_isDigit (hwhole c hc), ?_⟩
      refine List.forall_mem_cons.2 ⟨rfl, List.forall_mem_append.2 ⟨?_, he.plain⟩⟩
      exact fun c hc => isPlain_of_isDigit (hplaces c hc)

theorem Literal.plain (h : Literal cs x) : ∀ c ∈ cs, isPlain c = true := by
  cases h with
  | infinity hsign hword =>
      have hletters := hword.elim (isAlpha_of_word · rfl) (isAlpha_of_word · rfl)
      exact hsign.plain fun c hc => isPlain_of_isAlpha (hletters c hc)
  | nan hsign hword =>
      exact hsign.plain fun c hc => isPlain_of_isAlpha (isAlpha_of_word hword rfl c hc)
  | number hsign hnumber => exact hsign.plain hnumber.plain

end ImageOverlay.Decimal
