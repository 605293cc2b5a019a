import ImageOverlay.Proofs.Number.Layout
import ImageOverlay.Proofs.Toml.Quoted
import ImageOverlay.Toml.Reader

set_option autoImplicit false

/-!
# Words of a TOML document

A number is a word, and which kind of number it is depends on all of it: a word with a point is no
whole number (`Toml.integer?_pointed`), and digits alone are no double. What a double is written as,
without an exponent, is read back (`Toml.ofWord?_text`), and so are the digits of a whole number.
-/

namespace ImageOverlay.Toml

/-! ## Digits -/

/-- Digits without underscores are taken as they are. -/
theorem ungrouped?_digits {ds : List Char} (hnil : ds ≠ [])
    (hds : ∀ c ∈ ds, Decimal.isDigit c = true) : ungrouped? Decimal.isDigit ds = some ds := by
  induction ds with
  | nil => exact absurd rfl hnil
  | cons d ds ih =>
      obtain ⟨hd, hds⟩ := List.forall_mem_cons.1 hds
      cases ds with
      | nil => simp [ungrouped?, hd]
      | cons c ds =>
          have hc : c ≠ '_' := by
            rintro rfl
            exact absurd (hds '_' List.mem_cons_self) (by decide)
          rw [ungrouped?]
          · rw [if_pos hd, ih (List.cons_ne_nil c ds) hds]
            rfl
          · nofun
          · rintro rest heq
            exact hc (List.cons.inj heq).1

/-- Only digits and underscores can be digits of a number. -/
theorem forall_mem_of_ungrouped? {cs ds : List Char}
    (h : ungrouped? Decimal.isDigit cs = some ds) :
    ∀ c ∈ cs, Decimal.isDigit c = true ∨ c = '_' := by
  fun_induction ungrouped? Decimal.isDigit cs generalizing ds with
  | case1 | case3 | case5 | case7 => cases h
  | case2 d hd =>
      rintro c ⟨⟩
      · exact .inl hd
      · rename_i hc
        cases hc
  | case4 d rest hd ih =>
      obtain ⟨ds, hread, -⟩ := Option.map_eq_some_iff.1 h
      simpa [hd] using ih hread
  | case6 d rest _ _ hd ih =>
      obtain ⟨ds, hread, -⟩ := Option.map_eq_some_iff.1 h
      simpa [hd] using ih hread

/-- Digits that do not begin with a zero, or a zero alone. -/
theorem whole?_digits {ds : List Char} (hnil : ds ≠ [])
    (hds : ∀ c ∈ ds, Decimal.isDigit c = true) (hfront : ds = ['0'] ∨ ds.head? ≠ some '0') :
    whole? ds = some ds := by
  unfold whole?
  rw [ungrouped?_digits hnil hds]
  split
  · rename_i heq
    obtain rfl := Option.some.inj heq
    rcases hfront with h | h
    · cases h
    · exact absurd rfl h
  · rfl

/-! ## Whole numbers -/

/-- A body that begins with a digit has no sign of its own. -/
theorem sign_signText {body : List Char} (hbody : ∀ c ∈ body.head?, Decimal.isDigit c = true)
    (negative : Bool) : Decimal.sign (Layout.signText negative ++ body) = (negative, body) := by
  cases negative with
  | true => rfl
  | false =>
      unfold Decimal.sign Layout.signText
      simp only [Bool.false_eq_true, if_false, List.nil_append]
      split
      · cases hbody _ rfl
      · cases hbody _ rfl
      · rfl

/-- A word that does not say another base is a number of base ten. -/
theorem integer?_decimal {cs : List Char}
    (h : ∀ c rest, cs = '0' :: c :: rest → c ≠ 'x' ∧ c ≠ 'o' ∧ c ≠ 'b') :
    integer? cs = (whole? (Decimal.sign cs).2).map fun ds =>
      if (Decimal.sign cs).1 then -(Decimal.toNat ds : ℤ) else Decimal.toNat ds := by
  unfold integer?
  simp only
  split
  · exact absurd rfl (h _ _ rfl).1
  · exact absurd rfl (h _ _ rfl).2.1
  · exact absurd rfl (h _ _ rfl).2.2
  · rfl

theorem integer?_digits {ds : List Char} (hnil : ds ≠ [])
    (hds : ∀ c ∈ ds, Decimal.isDigit c = true) (hfront : ds = ['0'] ∨ ds.head? ≠ some '0') :
    integer? ds = some (Decimal.toNat ds : ℤ) := by
  have hsign : Decimal.sign ds = (false, ds) :=
    sign_signText (fun c hc => hds c (List.mem_of_mem_head? hc)) false
  rw [integer?_decimal, hsign, whole?_digits hnil hds hfront]
  · rfl
  · rintro c rest rfl
    have hc := hds c (by simp)
    refine ⟨?_, ?_, ?_⟩ <;>
      · rintro rfl
        cases hc

/-- A word with a point is no whole number. -/
theorem integer?_pointed {n : Numeral} (hn : n.Proper) (negative : Bool) (rest : List Char) :
    integer? (Layout.signText negative ++ (n.whole ++ '.' :: rest)) = none := by
  have hhead : ∀ c ∈ (n.whole ++ '.' :: rest).head?, Decimal.isDigit c = true := by
    rw [List.head?_append_of_ne_nil _ hn.whole_ne_nil]
    exact fun c hc => hn.whole_digits c (List.mem_of_mem_head? hc)
  rw [integer?_decimal, sign_signText hhead]
  · have hnone : ungrouped? Decimal.isDigit (n.whole ++ '.' :: rest) = none := by
      by_contra hsome
      obtain ⟨ds, hds⟩ := Option.ne_none_iff_exists'.1 hsome
      exact absurd (forall_mem_of_ungrouped? hds '.' (by simp)) (by decide)
    rw [whole?, hnone]
    rfl
  · rintro c rest' heq
    cases negative with
    | true => cases heq
    | false =>
        simp only [Layout.signText, Bool.false_eq_true, if_false, List.nil_append] at heq
        rcases hn.front with hwhole | hwhole
        · rw [hwhole] at heq
          obtain rfl := (List.cons.inj (List.cons.inj heq).2).1
          decide
        · have hzero := congrArg List.head? heq
          rw [List.head?_append_of_ne_nil _ hn.whole_ne_nil] at hzero
          exact absurd hzero hwhole

/-- Digits are read as a whole number. -/
theorem ofWord?_digits {n : ℕ} (hn : n < 2 ^ 64) :
    ofWord? (Decimal.digits n) = some (.number (.int n)) := by
  have hnil := Decimal.digits_ne_nil n
  have hds : ∀ c ∈ Decimal.digits n, Decimal.isDigit c = true :=
    fun _ => Decimal.isDigit_of_mem_digits
  have hinteger := integer?_digits hnil hds (Decimal.digits_front n)
  rw [Decimal.toNat_digits] at hinteger
  have hword : ∀ w : String, w.toList.all Decimal.isDigit = false →
      Decimal.digits n ≠ w.toList := by
    rintro w hw heq
    rw [← heq, List.all_eq_true.2 hds] at hw
    cases hw
  unfold ofWord?
  rw [if_neg (hword "true" (by decide)), if_neg (hword "false" (by decide)), hinteger]
  simp only [ofInteger?, Int.pow_eq]
  rw [if_pos (by omega)]

/-! ## Doubles -/

/-- Without an exponent there is a point. -/
theorem text_of_no_exponent {n : Numeral} (hn : n.Proper) (hexponent : n.exponent = none) :
    n.fraction ≠ [] ∧ n.text = n.whole ++ '.' :: n.fraction := by
  have hfraction := hn.real.resolve_right (absurd hexponent)
  refine ⟨hfraction, ?_⟩
  simp [Numeral.text, hfraction, hexponent]

/-- The digits before and after the point, and the places after it. -/
theorem decimal?_text {n : Numeral} (hn : n.Proper) (hexponent : n.exponent = none) :
    decimal? n.text = some (n.digits, n.power) := by
  obtain ⟨hfraction, htext⟩ := text_of_no_exponent hn hexponent
  have hends : ∀ {ds : List Char}, (∀ c ∈ ds, Decimal.isDigit c = true) →
      ∀ c ∈ ds, (!(c == '.' || c == 'e' || c == 'E')) = true := by
    intro ds hds c hc
    have hdigit := hds c hc
    by_contra hend
    simp only [Bool.not_eq_true', Bool.not_eq_false, Bool.or_eq_true, beq_iff_eq] at hend
    rcases hend with (rfl | rfl) | rfl <;> cases hdigit
  have hpoint : ∀ c ∈ ('.' :: n.fraction).head?, (!(c == '.' || c == 'e' || c == 'E')) = false := by
    rintro c ⟨⟩
    rfl
  have htake := @Text.takeWhile_append _ _ [] (hends hn.fraction_digits) nofun
  have hdrop := @Text.dropWhile_append _ _ [] (hends hn.fraction_digits) nofun
  rw [List.append_nil] at htake hdrop
  unfold decimal?
  rw [htext]
  simp only
  rw [Text.takeWhile_append (hends hn.whole_digits) hpoint,
    Text.dropWhile_append (hends hn.whole_digits) hpoint,
    whole?_digits hn.whole_ne_nil hn.whole_digits hn.front]
  simp only [Option.bind_eq_bind, Option.bind_some, htake, hdrop,
    ungrouped?_digits hfraction hn.fraction_digits]
  simp [Numeral.digits, Numeral.power, hexponent]

/-- What a double is written as, without an exponent, is read as the double. -/
theorem ofWord?_text {n : Numeral} (hn : n.Proper) (hexponent : n.exponent = none)
    (negative : Bool) (hfinite : (Decimal.value negative n.digits n.power).isFinite = true) :
    ofWord? (Layout.signText negative ++ n.text)
      = some (.number (.real (Decimal.value negative n.digits n.power))) := by
  obtain ⟨-, htext⟩ := text_of_no_exponent hn hexponent
  have hhead := hn.head_text []
  rw [List.append_nil, htext] at hhead
  have hdecimal := decimal?_text hn hexponent
  rw [htext] at hdecimal ⊢
  have hdouble : double? (Layout.signText negative ++ (n.whole ++ '.' :: n.fraction))
      = some (Decimal.value negative n.digits n.power) := by
    unfold double?
    rw [sign_signText hhead]
    simp only
    rw [if_neg, if_neg, hdecimal]
    · exact if_pos hfinite
    · intro heq
      rw [heq] at hhead
      exact absurd (hhead _ rfl) (by decide)
    · intro heq
      rw [heq] at hhead
      exact absurd (hhead _ rfl) (by decide)
  unfold ofWord?
  have hword : ∀ w : String, '.' ∉ w.toList →
      Layout.signText negative ++ (n.whole ++ '.' :: n.fraction) ≠ w.toList := by
    rintro w hw heq
    rw [← heq] at hw
    simp at hw
  rw [if_neg (hword "true" (by decide)), if_neg (hword "false" (by decide)),
    integer?_pointed hn, hdouble]

/-! ## Words on a line -/

theorem isWordChar_of_isDigit {c : Char} (h : Decimal.isDigit c = true) :
    isWordChar c = true := by
  simp [isWordChar, Char.isAlphanum, Decimal.isDigit_iff.1 h]

/-- A numeral without an exponent is a word. -/
theorem isWordChar_of_mem_text {n : Numeral} (hn : n.Proper) (hexponent : n.exponent = none)
    (negative : Bool) : ∀ c ∈ Layout.signText negative ++ n.text, isWordChar c = true := by
  intro c hc
  simp only [Numeral.text, hexponent, Option.map_none, Option.getD_none, List.append_nil,
    List.mem_append] at hc
  rcases hc with hc | hc | hc
  · cases negative with
    | true =>
        obtain rfl := List.mem_singleton.1 hc
        rfl
    | false => cases hc
  · exact isWordChar_of_isDigit (hn.whole_digits c hc)
  · split at hc
    · cases hc
    · rcases List.mem_cons.1 hc with rfl | hc
      · rfl
      · exact isWordChar_of_isDigit (hn.fraction_digits c hc)

/-- A word ends with its line. -/
theorem word_line {w : List Char} (hw : ∀ c ∈ w, isWordChar c = true) (rest : List Char) :
    word (w ++ '\n' :: rest) = (w, '\n' :: rest) := by
  have hend : ∀ c ∈ ('\n' :: rest).head?, isWordChar c = false := by
    rintro c ⟨⟩
    rfl
  unfold word
  simp only
  rw [Text.takeWhile_append hw hend, Text.dropWhile_append hw hend]
  split
  · rename_i heq
    cases heq
  · rfl

/-- The value of a word that ends with its line. -/
theorem value_word {w : List Char} {p : Parsed} (hnil : w ≠ [])
    (hw : ∀ c ∈ w, isWordChar c = true) (hread : ofWord? w = some p) (fuel depth : ℕ)
    (rest : List Char) :
    value (fuel + 1) depth (w ++ '\n' :: rest) = some (p, '\n' :: rest) := by
  have hword := word_line hw rest
  obtain ⟨c, cs, rfl⟩ := List.exists_cons_of_ne_nil hnil
  have hc := hw c List.mem_cons_self
  rw [List.cons_append] at hword ⊢
  rw [value]
  · rw [hword]
    simp only [hread, Option.map_some]
  all_goals
    rintro cs' heq
    obtain rfl := (List.cons.inj heq).1
    cases hc

theorem quoted_cons (cs rest : List Char) :
    ∃ c cs', quoted cs ++ rest = c :: cs' ∧ (c = '"' ∨ c = '\'') := by
  unfold quoted
  cases Quotes.for cs with
  | basic | multiBasic => exact ⟨_, _, rfl, .inl rfl⟩
  | literal | multiLiteral => exact ⟨_, _, rfl, .inr rfl⟩

/-- The value of a quoted text that ends with its line. -/
theorem value_quoted (s : String) (fuel depth : ℕ) (rest : List Char) :
    value (fuel + 1) depth (quoted s.toList ++ '\n' :: rest)
      = some (.text (some s), '\n' :: rest) := by
  have hread : text? (quoted s.toList ++ '\n' :: rest) = some (s.toList, '\n' :: rest) :=
    text?_quoted s.toList ⟨nofun, nofun⟩
  obtain ⟨c, cs, hquoted, hc⟩ := quoted_cons s.toList ('\n' :: rest)
  rw [hquoted] at hread ⊢
  rcases hc with rfl | rfl <;>
    · rw [value, hread, Option.map_some]
      simp only [String.ofList_toList]

end ImageOverlay.Toml
