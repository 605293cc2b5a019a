import ImageOverlay.Proofs.Number.Shortest
import ImageOverlay.Proofs.Number.Literal

set_option autoImplicit false

/-!
# What a double is written as

A layout writes the shortest decimal of a double with the point where its exponent puts it, or with
one digit before the point and an exponent. Both are numerals of one grammar (`Numeral.Proper`), and
the number they write is the decimal's. A reader of this grammar that takes the digits for a whole
number, and the point and the exponent for a power of ten, gets the double back
(`Layout.exists_numeral_text`).
-/

namespace ImageOverlay

/-! ## Runs of characters -/

namespace Text

variable {p : Char → Bool} {cs rest : List Char}

/-- A run of characters ends where one comes that does not belong to it. -/
theorem takeWhile_append (hcs : ∀ c ∈ cs, p c = true) (hrest : ∀ c ∈ rest.head?, p c = false) :
    (cs ++ rest).takeWhile p = cs := by
  rw [List.takeWhile_append_of_pos hcs]
  cases rest with
  | nil => simp
  | cons c rest => simp [hrest c rfl]

theorem dropWhile_append (hcs : ∀ c ∈ cs, p c = true) (hrest : ∀ c ∈ rest.head?, p c = false) :
    (cs ++ rest).dropWhile p = rest := by
  rw [List.dropWhile_append_of_pos hcs]
  cases rest with
  | nil => simp
  | cons c rest => simp [hrest c rfl]

end Text

namespace Decimal

/-! ## Digits -/

theorem isDigit_iff {c : Char} : isDigit c = true ↔ c.isDigit = true := by
  have hsome : isDigit c = true ↔ '0' ≤ c ∧ c ≤ '9' := by
    unfold isDigit digit?
    split <;> simp_all
  rw [hsome]
  simp only [Char.isDigit, Bool.and_eq_true, decide_eq_true_eq]
  exact Iff.rfl

/-- Digits are taken up to what is none. -/
theorem span_append {ds rest : List Char} (hds : ∀ c ∈ ds, isDigit c = true)
    (hrest : ∀ c ∈ rest.head?, isDigit c = false) : span (ds ++ rest) = (ds, rest) := by
  unfold span
  rw [Text.takeWhile_append hds hrest, Text.dropWhile_append hds hrest]

theorem digit?_digitChar {n : ℕ} (hn : n < 10) : digit? n.digitChar = some n := by
  revert n
  decide

theorem isDigit_of_mem_digits {n : ℕ} {c : Char} (h : c ∈ digits n) : isDigit c = true :=
  isDigit_iff.2 (Nat.isDigit_of_mem_toDigits (by decide) (by decide) h)

theorem digits_eq (n : ℕ) :
    digits n = if n < 10 then [n.digitChar] else digits (n / 10) ++ [(n % 10).digitChar] :=
  Nat.toDigits_eq_if (by decide)

theorem toNat_append (a b : List Char) : toNat (a ++ b) = toNat a * 10 ^ b.length + toNat b := by
  have hfold : ∀ (b : List Char) (n : ℕ),
      b.foldl (fun n c => n * 10 + (digit? c).getD 0) n
        = n * 10 ^ b.length + b.foldl (fun n c => n * 10 + (digit? c).getD 0) 0 := by
    intro b
    induction b with
    | nil => simp
    | cons c b ih =>
        intro n
        rw [List.foldl_cons, List.foldl_cons, ih, ih (0 * 10 + _), List.length_cons, pow_succ]
        ring
  show (a ++ b).foldl _ 0 = _
  rw [List.foldl_append, hfold]
  rfl

theorem toNat_nil : toNat [] = 0 := rfl

theorem toNat_cons (c : Char) (cs : List Char) :
    toNat (c :: cs) = toNat [c] * 10 ^ cs.length + toNat cs :=
  toNat_append [c] cs

@[simp]
theorem toNat_zeros (n : ℕ) : toNat (List.replicate n '0') = 0 := by
  induction n with
  | zero => rfl
  | succ n ih =>
      have hzero : toNat ['0'] = 0 := rfl
      rw [List.replicate_succ, ← List.singleton_append, toNat_append, ih, hzero, Nat.zero_mul]

/-- The digits of a number write it. -/
@[simp]
theorem toNat_digits (n : ℕ) : toNat (digits n) = n := by
  induction n using Nat.strong_induction_on with
  | h n ih =>
      have hdigit : ∀ k < 10, toNat [k.digitChar] = k := by
        intro k hk
        simp [toNat, ofDigits, digit?_digitChar hk]
      rw [digits_eq]
      split
      · exact hdigit n ‹_›
      · rw [toNat_append, ih (n / 10) (by omega), hdigit (n % 10) (by omega)]
        have := Nat.div_add_mod n 10
        simp
        omega

theorem digits_ne_nil (n : ℕ) : digits n ≠ [] := Nat.toDigits_ne_nil

/-- The first digit of a number other than zero is not a zero. -/
theorem head_digits_ne_zero {n : ℕ} (hn : n ≠ 0) : (digits n).head? ≠ some '0' := by
  induction n using Nat.strong_induction_on with
  | h n ih =>
      rw [digits_eq]
      split
      · rename_i hlt
        have hchar : ∀ k < 10, k ≠ 0 → k.digitChar ≠ '0' := by decide
        simpa using hchar n hlt hn
      · rw [List.head?_append_of_ne_nil _ (digits_ne_nil _)]
        exact ih (n / 10) (by omega) (by omega)

/-- There is no zero at the front, unless it is the whole number. -/
theorem digits_front (n : ℕ) : digits n = ['0'] ∨ (digits n).head? ≠ some '0' := by
  by_cases hn : n = 0
  · rw [hn]
    exact .inl rfl
  · exact .inr (head_digits_ne_zero hn)

end Decimal

/-! ## Numerals -/

/-- The parts of a decimal as they are written. -/
structure Numeral where
  whole : List Char
  fraction : List Char
  exponent : Option ℤ

namespace Numeral

/-- The exponent behind its letter. -/
def exponentText (e : ℤ) : List Char :=
  'e' :: (if e < 0 then '-' else '+') :: Decimal.digits e.natAbs

/-- The text: there is a point if there is a fraction. -/
def text (n : Numeral) : List Char :=
  n.whole ++ (if n.fraction = [] then [] else '.' :: n.fraction) ++
    (n.exponent.map exponentText).getD []

/-- All digits as one number. -/
def digits (n : Numeral) : ℕ := Decimal.toNat (n.whole ++ n.fraction)

/-- The power of ten that goes with it. -/
def power (n : Numeral) : ℤ := n.exponent.getD 0 - n.fraction.length

/-- The numerals that a double is written as: digits without a zero at the front, and something
that tells them from a whole number. -/
structure Proper (n : Numeral) : Prop where
  whole_ne_nil : n.whole ≠ []
  whole_digits : ∀ c ∈ n.whole, Decimal.isDigit c = true
  fraction_digits : ∀ c ∈ n.fraction, Decimal.isDigit c = true
  front : n.whole = ['0'] ∨ n.whole.head? ≠ some '0'
  real : n.fraction ≠ [] ∨ n.exponent ≠ none

/-- A numeral begins with a digit. -/
theorem Proper.head_text {n : Numeral} (hn : n.Proper) (rest : List Char) :
    ∀ c ∈ (n.text ++ rest).head?, Decimal.isDigit c = true := by
  obtain ⟨c, ds, hwhole⟩ := List.exists_cons_of_ne_nil hn.whole_ne_nil
  have hc := hn.whole_digits c (by simp [hwhole])
  simp [text, hwhole, hc]

end Numeral

namespace Layout

variable {d : ShortDecimal}

theorem isDigit_of_mem_zeros {k : ℕ} {c : Char} (h : c ∈ List.replicate k '0') :
    Decimal.isDigit c = true := by
  rw [List.eq_of_mem_replicate h]
  rfl

section Pointed

variable {ds : List Char} {exp : ℤ} (hnil : ds ≠ []) (hhead : ds.head? ≠ some '0')
  (hall : ∀ c ∈ ds, Decimal.isDigit c = true)

include hnil hhead hall

/-- A whole number has zeros up to the point, and one behind it. -/
theorem exists_numeral_whole (hexp : 0 ≤ exp) :
    ∃ n : Numeral, n.Proper ∧ pointed ds exp = n.text ∧
      (n.digits * 10 ^ n.power : ℚ) = Decimal.toNat ds * 10 ^ exp ∧ n.exponent = none := by
  refine ⟨⟨ds ++ List.replicate exp.toNat '0', ['0'], none⟩, ⟨?_, ?_, ?_, ?_, ?_⟩, ?_, ?_, rfl⟩
  · simp [hnil]
  · intro c hc
    rcases List.mem_append.1 hc with hc | hc
    · exact hall c hc
    · exact isDigit_of_mem_zeros hc
  · simp only [List.mem_singleton, forall_eq]
    rfl
  · right
    rwa [List.head?_append_of_ne_nil _ hnil]
  · exact .inl (List.cons_ne_nil _ _)
  · simp [pointed, Numeral.text, hexp]
  · have hdigits : Numeral.digits ⟨ds ++ List.replicate exp.toNat '0', ['0'], none⟩
        = Decimal.toNat ds * 10 ^ exp.toNat * 10 := by
      have hzero : Decimal.toNat ['0'] = 0 := rfl
      simp [Numeral.digits, Decimal.toNat_append, hzero, pow_succ, mul_assoc]
    have hpower : Numeral.power ⟨ds ++ List.replicate exp.toNat '0', ['0'], none⟩ = -1 := rfl
    have hten : (10 : ℚ) ^ exp = 10 ^ exp.toNat := by
      rw [← zpow_natCast, Int.toNat_of_nonneg hexp]
    rw [hdigits, hpower, hten, zpow_neg_one]
    push_cast
    field_simp

/-- The point stands among the digits. -/
theorem exists_numeral_split (hexp : ¬ 0 ≤ exp) (hplaces : (-exp).toNat < ds.length) :
    ∃ n : Numeral, n.Proper ∧ pointed ds exp = n.text ∧
      (n.digits * 10 ^ n.power : ℚ) = Decimal.toNat ds * 10 ^ exp ∧ n.exponent = none := by
  have hsplit := List.take_append_drop (ds.length - (-exp).toNat) ds
  have hwhole : ds.take (ds.length - (-exp).toNat) ≠ [] := by
    rw [Ne, List.take_eq_nil_iff, not_or]
    exact ⟨by omega, hnil⟩
  have hlength : (ds.drop (ds.length - (-exp).toNat)).length = (-exp).toNat := by
    rw [List.length_drop]
    omega
  unfold pointed
  rw [if_neg hexp, if_pos hplaces]
  generalize ds.take (ds.length - (-exp).toNat) = whole at *
  generalize ds.drop (ds.length - (-exp).toNat) = fraction at *
  subst hsplit
  have hfraction : fraction ≠ [] := by
    rintro rfl
    rw [List.length_nil] at hlength
    omega
  refine ⟨⟨whole, fraction, none⟩, ⟨hwhole, ?_, ?_, ?_, .inl hfraction⟩, ?_, ?_, rfl⟩
  · intro c hc
    exact hall c (List.mem_append_left _ hc)
  · intro c hc
    exact hall c (List.mem_append_right _ hc)
  · right
    rwa [List.head?_append_of_ne_nil _ hwhole] at hhead
  · simp [Numeral.text, hfraction]
  · have hpower : Numeral.power ⟨whole, fraction, none⟩ = exp := by
      simp only [Numeral.power, Option.getD_none, hlength]
      omega
    rw [Numeral.digits, hpower]

omit hhead in
/-- A small number has zeros between the point and its digits. -/
theorem exists_numeral_small (hexp : ¬ 0 ≤ exp) (hplaces : ¬ (-exp).toNat < ds.length) :
    ∃ n : Numeral, n.Proper ∧ pointed ds exp = n.text ∧
      (n.digits * 10 ^ n.power : ℚ) = Decimal.toNat ds * 10 ^ exp ∧ n.exponent = none := by
  refine ⟨⟨['0'], List.replicate ((-exp).toNat - ds.length) '0' ++ ds, none⟩,
    ⟨?_, ?_, ?_, .inl rfl, ?_⟩, ?_, ?_, rfl⟩
  · exact List.cons_ne_nil _ _
  · simp only [List.mem_singleton, forall_eq]
    rfl
  · intro c hc
    rcases List.mem_append.1 hc with hc | hc
    · exact isDigit_of_mem_zeros hc
    · exact hall c hc
  · left
    simp [hnil]
  · simp [pointed, Numeral.text, hexp, hplaces, hnil]
  · have hdigits : Numeral.digits
        ⟨['0'], List.replicate ((-exp).toNat - ds.length) '0' ++ ds, none⟩ = Decimal.toNat ds := by
      have hzero : Decimal.toNat ['0'] = 0 := rfl
      rw [Numeral.digits, Decimal.toNat_append, Decimal.toNat_append, Decimal.toNat_zeros, hzero,
        Nat.zero_mul, Nat.zero_mul, Nat.zero_add, Nat.zero_add]
    have hpower : Numeral.power
        ⟨['0'], List.replicate ((-exp).toNat - ds.length) '0' ++ ds, none⟩ = exp := by
      simp only [Numeral.power, Option.getD_none, List.length_append, List.length_replicate]
      omega
    rw [hdigits, hpower]

end Pointed

/-- The point stands where the exponent puts it. -/
theorem exists_numeral_pointed (hd : d.digits ≠ 0) :
    ∃ n : Numeral, n.Proper ∧ pointed (Decimal.digits d.digits) d.exp = n.text ∧
      (n.digits * 10 ^ n.power : ℚ) = d.value ∧ n.exponent = none := by
  have hhead := Decimal.head_digits_ne_zero hd
  have hnil := Decimal.digits_ne_nil d.digits
  have hall : ∀ c ∈ Decimal.digits d.digits, Decimal.isDigit c = true :=
    fun _ => Decimal.isDigit_of_mem_digits
  have hvalue : d.value = Decimal.toNat (Decimal.digits d.digits) * 10 ^ d.exp := by
    rw [Decimal.toNat_digits]
    rfl
  rw [hvalue]
  by_cases hexp : 0 ≤ d.exp
  · exact exists_numeral_whole hnil hhead hall hexp
  · by_cases hplaces : (-d.exp).toNat < (Decimal.digits d.digits).length
    · exact exists_numeral_split hnil hhead hall hexp hplaces
    · exact exists_numeral_small hnil hall hexp hplaces

/-- One digit stands before the point. -/
theorem exists_numeral_scientific (hd : d.digits ≠ 0) :
    ∃ n : Numeral, n.Proper ∧
      scientific (Decimal.digits d.digits) (d.exp + (Decimal.digits d.digits).length - 1) = n.text ∧
      (n.digits * 10 ^ n.power : ℚ) = d.value := by
  have hhead := Decimal.head_digits_ne_zero hd
  have hnil := Decimal.digits_ne_nil d.digits
  have hall : ∀ c ∈ Decimal.digits d.digits, Decimal.isDigit c = true :=
    fun _ => Decimal.isDigit_of_mem_digits
  have htoNat := Decimal.toNat_digits d.digits
  unfold ShortDecimal.value
  generalize Decimal.digits d.digits = ds at *
  obtain ⟨c, more, rfl⟩ := List.exists_cons_of_ne_nil hnil
  refine ⟨⟨[c], more, some (d.exp + (c :: more).length - 1)⟩, ⟨?_, ?_, ?_, ?_, ?_⟩, ?_, ?_⟩
  · exact List.cons_ne_nil _ _
  · intro c' hc
    exact hall c' (by simp_all)
  · intro c' hc
    exact hall c' (List.mem_cons_of_mem _ hc)
  · right
    exact hhead
  · exact .inr (Option.some_ne_none _)
  · cases more <;> simp [Numeral.text, Numeral.exponentText, scientific]
  · have hpower : Numeral.power ⟨[c], more, some (d.exp + (c :: more).length - 1)⟩ = d.exp := by
      simp only [Numeral.power, Option.getD_some, List.length_cons]
      omega
    rw [hpower]
    exact congrArg (fun n : ℕ => (n : ℚ) * 10 ^ d.exp) htoNat

/-- A decimal is written as a numeral of the same value. -/
theorem exists_numeral (layout : Layout) (hd : d.digits ≠ 0) :
    ∃ n : Numeral, n.Proper ∧ layout.write d = n.text ∧
      (n.digits * 10 ^ n.power : ℚ) = d.value ∧
      (layout.positional = none → n.exponent = none) := by
  obtain ⟨n, hn, htext, hvalue, hnone⟩ := exists_numeral_pointed hd
  obtain ⟨k, hk, htext', hvalue'⟩ := exists_numeral_scientific hd
  unfold write
  cases hpositional : layout.positional with
  | none => exact ⟨n, hn, htext, hvalue, fun _ => hnone⟩
  | some range =>
      obtain ⟨from_, below⟩ := range
      simp only
      split
      · exact ⟨n, hn, htext, hvalue, nofun⟩
      · exact ⟨k, hk, htext', hvalue', nofun⟩

/-- The sign of a number as it is written. -/
def signText (negative : Bool) : List Char := if negative then ['-'] else []

/-- **What a finite double is written as reads back as the double:** a sign, and a numeral whose
digits and power of ten round to it. -/
theorem exists_numeral_text (layout : Layout) {x : Float} (hx : x.isFinite = true) :
    ∃ negative, ∃ n : Numeral, n.Proper ∧ layout.text x = signText negative ++ n.text ∧
      Decimal.value negative n.digits n.power = x ∧
      (n.digits = 0 ∨ ∃ m e, ∃ hc : Canonical m e, x = hc.double negative ∧
        Rounding.RoundsTo (n.digits * 10 ^ n.power) m e) ∧
      (layout.positional = none → n.exponent = none) := by
  obtain ⟨negative, m, e, hexact⟩ := (Exact.isFinite_iff x).1 hx
  refine ⟨negative, ?_⟩
  unfold text
  simp only [hexact]
  by_cases hm : m = 0
  · -- Zero has no shortest decimal and is written out, with its sign.
    subst hm
    refine ⟨⟨['0'], ['0'], none⟩, ⟨?_, ?_, ?_, .inl rfl, .inl ?_⟩, rfl, ?_, .inl rfl,
      fun _ => rfl⟩
    · exact List.cons_ne_nil _ _
    · simp only [List.mem_singleton, forall_eq]
      rfl
    · simp only [List.mem_singleton, forall_eq]
      rfl
    · exact List.cons_ne_nil _ _
    · rw [Exact.eq_zero hexact]
      cases negative <;> rfl
  · obtain ⟨hc, rfl⟩ := Exact.eq_double hexact hm
    have hrounds := ShortDecimal.ofScaled_roundsTo layout.tie hc
    obtain ⟨n, hn, htext, hvalue, hnone⟩ :=
      exists_numeral layout (ShortDecimal.ofScaled_digits_ne_zero layout.tie hc)
    rw [← hvalue] at hrounds
    refine ⟨n, hn, ?_, Decimal.value_eq hc hrounds negative,
      .inr ⟨m, e, hc, rfl, hrounds⟩, hnone⟩
    rw [if_neg hm, htext]
    rfl

end Layout

end ImageOverlay
