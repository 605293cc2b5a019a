import ImageOverlay.Proofs.Number.Layout
import ImageOverlay.Json.Reader

set_option autoImplicit false

/-!
# Strings and numbers of a JSON text

A string in quotes is read as the string, whatever its characters (`Parsed.stringRest_quoted`). A
number is read as far as it goes, so what follows it matters: in a text without blanks that is
nothing, a comma or a closing bracket (`Parsed.Ends`). A numeral with a point or an exponent is
handed to the reading of numbers in its parts, one without is read as a whole number.
-/

namespace ImageOverlay.Parsed

open Json
open Decimal (hexDigit hexDigit?_hexDigit)

/-! ## Strings -/

theorem stringRest_letter (acc : List Char) {e c : Char} (he : e ≠ 'u') (h : escaped? e = some c)
    (rest : List Char) :
    stringRest none acc true ('\\' :: e :: rest) = stringRest none (c :: acc) true rest := by
  rw [stringRest]
  · simp [h]
  · intros
    simp_all

theorem stringRest_unicode (acc : List Char) {a b c d : Char} {n : ℕ}
    (h : hex4? a b c d = some n) (hn : n < 0x20) (rest : List Char) :
    stringRest none acc true ('\\' :: 'u' :: a :: b :: c :: d :: rest)
      = stringRest none (Char.ofNat n :: acc) true rest := by
  have hhigh : isHigh n = false := by
    simp [isHigh]
    omega
  have hlow : isLow n = false := by
    simp [isLow]
    omega
  rw [stringRest]
  simp [h, hhigh, hlow]

theorem stringRest_plain (acc : List Char) {c : Char} (hquote : c ≠ '"') (hback : c ≠ '\\')
    (hprint : ¬ c.toNat < 0x20) (rest : List Char) :
    stringRest none acc true (c :: rest) = stringRest none (c :: acc) true rest := by
  rw [stringRest]
  · simp [hback, hprint]
  all_goals
    intros
    simp_all

/-- An escaped character is read as the character. -/
theorem stringRest_escapeChar (acc : List Char) (c : Char) (rest : List Char) :
    stringRest none acc true (escapeChar c ++ rest) = stringRest none (c :: acc) true rest := by
  by_cases hletter : c ∈ ['"', '\\', '\n', '\r', '\t', '\x08', '\x0c']
  · simp only [List.mem_cons, List.not_mem_nil, or_false] at hletter
    rcases hletter with rfl | rfl | rfl | rfl | rfl | rfl | rfl <;>
      exact stringRest_letter acc (by decide) rfl rest
  · simp only [List.mem_cons, List.not_mem_nil, or_false, not_or] at hletter
    obtain ⟨hquote, hback, hline, hreturn, htab, hbell, hfeed⟩ := hletter
    simp only [escapeChar, hquote, hback, hline, hreturn, htab, hbell, hfeed, if_false]
    split
    · rename_i hcontrol
      have hhex : hex4? '0' '0' (hexDigit 'a' (c.toNat / 16)) (hexDigit 'a' (c.toNat % 16))
          = some c.toNat := by
        have hzero : Decimal.hexDigit? '0' = some 0 := rfl
        have hhigh := hexDigit?_hexDigit (.inl rfl) (show c.toNat / 16 < 16 by omega)
        have hlow := hexDigit?_hexDigit (.inl rfl) (show c.toNat % 16 < 16 by omega)
        have := Nat.div_add_mod c.toNat 16
        simp only [hex4?, hzero, hhigh, hlow, Option.bind_eq_bind, Option.bind_some,
          Option.some.injEq]
        omega
      have h := stringRest_unicode acc hhex hcontrol rest
      rwa [Char.ofNat_toNat] at h
    · exact stringRest_plain acc hquote hback ‹_› rest

/-- **A string is read back from its quotes.** -/
theorem stringRest_quoted (s : String) (rest : List Char) :
    stringRest none [] true (s.toList.flatMap escapeChar ++ ('"' :: rest))
      = some (some s, rest) := by
  have hchars : ∀ (cs acc : List Char),
      stringRest none acc true (cs.flatMap escapeChar ++ ('"' :: rest))
        = some (some (String.ofList (acc.reverse ++ cs)), rest) := by
    intro cs
    induction cs with
    | nil =>
        intro acc
        rw [List.append_nil]
        rfl
    | cons c cs ih =>
        intro acc
        rw [List.flatMap_cons, List.append_assoc, stringRest_escapeChar, ih]
        simp
  rw [hchars, List.reverse_nil, List.nil_append, String.ofList_toList]

/-! ## Numbers -/

/-- What may follow a value in a text without blanks: nothing, a comma or a closing bracket. -/
def Ends (rest : List Char) : Prop :=
  ∀ c ∈ rest.head?, c = ',' ∨ c = ']' ∨ c = '\x7d'

theorem digits1?_append {ds rest : List Char} (hnil : ds ≠ [])
    (hds : ∀ c ∈ ds, Decimal.isDigit c = true)
    (hrest : ∀ c ∈ rest.head?, Decimal.isDigit c = false) :
    digits1? (ds ++ rest) = some (ds, rest) := by
  unfold digits1?
  rw [Decimal.span_append hds hrest]
  cases ds with
  | nil => exact absurd rfl hnil
  | cons d ds => rfl

theorem wholeDigits?_append {ds rest : List Char} (hnil : ds ≠ [])
    (hds : ∀ c ∈ ds, Decimal.isDigit c = true) (hfront : ds = ['0'] ∨ ds.head? ≠ some '0')
    (hrest : ∀ c ∈ rest.head?, Decimal.isDigit c = false) :
    wholeDigits? (ds ++ rest) = some (ds, rest) := by
  unfold wholeDigits?
  rw [digits1?_append hnil hds hrest]
  split
  · rename_i heq
    rcases hfront with rfl | hfront
    · cases heq
    · cases heq
      exact absurd rfl hfront
  · rfl

theorem Ends.not_digit {rest : List Char} (h : Ends rest) :
    ∀ c ∈ rest.head?, Decimal.isDigit c = false := by
  intro c hc
  rcases h c hc with rfl | rfl | rfl <;> rfl

theorem exponentRest?_of_ends {rest : List Char} (h : Ends rest) :
    exponentRest? rest = some (none, rest) := by
  unfold exponentRest?
  split
  · rcases h _ rfl with h | h | h <;> cases h
  · rcases h _ rfl with h | h | h <;> cases h
  · rfl

theorem exponentRest?_exponentText (e : ℤ) {rest : List Char} (h : Ends rest) :
    exponentRest? (Numeral.exponentText e ++ rest) = some (some e, rest) := by
  have hdigits := digits1?_append (Decimal.digits_ne_nil e.natAbs)
    (fun _ => Decimal.isDigit_of_mem_digits) h.not_digit
  unfold Numeral.exponentText exponentRest?
  by_cases he : e < 0
  · simp [he, hdigits, abs_of_neg he]
  · simp [he, hdigits, abs_of_nonneg (not_lt.1 he)]

/-- A body that begins with a digit has no sign of its own. -/
theorem body_cases {body : List Char} (hbody : ∀ c ∈ body.head?, Decimal.isDigit c = true) :
    ∀ r, body ≠ '-' :: r := by
  rintro r rfl
  cases hbody _ rfl

section

variable {reading : NumberReading} {negative : Bool} {body whole fraction r r' : List Char}
  {e : Option ℤ}

/-- Digits with a point. -/
theorem numberRest?_of_point (hbody : ∀ c ∈ body.head?, Decimal.isDigit c = true)
    (hwhole : wholeDigits? body = some (whole, '.' :: r))
    (hfraction : digits1? r = some (fraction, r')) {rest : List Char}
    (hexponent : exponentRest? r' = some (e, rest)) :
    numberRest? reading (Layout.signText negative ++ body)
      = some (reading.number negative whole fraction (e.getD 0), rest) := by
  have hminus := body_cases hbody
  unfold numberRest?
  cases negative with
  | true => simp [Layout.signText, hwhole, hfraction, hexponent]
  | false => simp [Layout.signText, hwhole, hfraction, hexponent]

/-- Digits without a point. -/
theorem numberRest?_of_whole (hbody : ∀ c ∈ body.head?, Decimal.isDigit c = true)
    (hwhole : wholeDigits? body = some (whole, r)) (hpoint : r.head? ≠ some '.') {rest : List Char}
    (hexponent : exponentRest? r = some (e, rest)) :
    numberRest? reading (Layout.signText negative ++ body)
      = some (match e with
          | some e => reading.number negative whole [] e
          | none => wholeOf reading negative whole, rest) := by
  have hminus := body_cases hbody
  have hpoint' : ∀ r', r ≠ '.' :: r' := by
    rintro r' rfl
    exact hpoint rfl
  unfold numberRest?
  cases negative with
  | true => cases e <;> simp [Layout.signText, hwhole, hexponent]
  | false => cases e <;> simp [Layout.signText, hwhole, hexponent]

end

/-- A numeral is read by its parts. -/
theorem numberRest?_text (reading : NumberReading) {n : Numeral} (hn : n.Proper) (negative : Bool)
    {rest : List Char} (h : Ends rest) :
    numberRest? reading (Layout.signText negative ++ (n.text ++ rest))
      = some (reading.number negative n.whole n.fraction (n.exponent.getD 0), rest) := by
  have hbody := hn.head_text rest
  obtain ⟨whole, fraction, e⟩ := n
  have hexponent : exponentRest? ((e.map Numeral.exponentText).getD [] ++ rest)
      = some (e, rest) := by
    cases e with
    | none => exact exponentRest?_of_ends h
    | some e => exact exponentRest?_exponentText e h
  have hletter : ∀ c ∈ ((e.map Numeral.exponentText).getD [] ++ rest).head?,
      Decimal.isDigit c = false ∧ c ≠ '.' := by
    cases e with
    | none =>
        intro c hc
        rcases h c hc with rfl | rfl | rfl <;> exact ⟨rfl, by decide⟩
    | some e =>
        rintro c ⟨⟩
        exact ⟨rfl, by decide⟩
  have hwhole := fun rest' => @wholeDigits?_append whole rest' hn.whole_ne_nil hn.whole_digits
    hn.front
  by_cases hfraction : fraction = []
  · -- There is an exponent then, so the digits are not taken for a whole number.
    subst hfraction
    obtain ⟨e, rfl⟩ := Option.ne_none_iff_exists'.1 (hn.real.resolve_left (absurd rfl))
    simp only [Numeral.text, if_true, List.append_nil, List.append_assoc] at hbody ⊢
    rw [numberRest?_of_whole hbody (hwhole _ fun c hc => (hletter c hc).1)
      (fun hc => (hletter _ hc).2 rfl) hexponent]
    rfl
  · simp only [Numeral.text, if_neg hfraction, List.append_assoc, List.cons_append] at hbody ⊢
    have hpoint : ∀ c ∈ ('.' :: (fraction ++ ((e.map Numeral.exponentText).getD [] ++ rest))).head?,
        Decimal.isDigit c = false := by
      rintro c ⟨⟩
      rfl
    exact numberRest?_of_point hbody (hwhole _ hpoint)
      (digits1?_append hfraction hn.fraction_digits fun c hc => (hletter c hc).1) hexponent

/-- Digits alone are read as a whole number. -/
theorem numberRest?_intText (reading : NumberReading) (n : ℤ) {rest : List Char} (h : Ends rest) :
    numberRest? reading (intText n ++ rest)
      = some (wholeOf reading (n < 0) (Decimal.digits n.natAbs), rest) := by
  have hall : ∀ c ∈ Decimal.digits n.natAbs, Decimal.isDigit c = true :=
    fun _ => Decimal.isDigit_of_mem_digits
  have hnil := Decimal.digits_ne_nil n.natAbs
  have hbody : ∀ c ∈ (Decimal.digits n.natAbs ++ rest).head?, Decimal.isDigit c = true := by
    rw [List.head?_append_of_ne_nil _ hnil]
    exact fun c hc => hall c (List.mem_of_mem_head? hc)
  have hpoint : rest.head? ≠ some '.' := by
    intro hc
    rcases h _ hc with hc | hc | hc <;> cases hc
  have hread := @numberRest?_of_whole reading (decide (n < 0)) _ _ _ none hbody
    (wholeDigits?_append hnil hall (Decimal.digits_front _) h.not_digit) hpoint _
    (exponentRest?_of_ends h)
  simpa [Layout.signText, intText] using hread

end ImageOverlay.Parsed
