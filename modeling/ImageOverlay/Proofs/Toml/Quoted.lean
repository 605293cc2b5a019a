import ImageOverlay.Toml.Quoted

set_option autoImplicit false

/-!
# Quoted texts read back

Whichever of the four ways to quote a text is taken, it is read as the text (`Toml.text?_quoted`).
Between three quotes up to two quotes may stand as they are. What they mean is only clear when the
run is over: the reader takes three for the end of the text, and up to two behind them for its last
characters. So the induction over the text carries along the run of quotes that are still to be
read.
-/

namespace ImageOverlay.Toml

open Decimal (hexDigit hexDigit?_hexDigit)

/-- A character is read back from its code. -/
theorem codePoint?_control {c : Char} (hc : isControl c = true) :
    codePoint? ['0', '0', hexDigit 'A' (c.toNat / 16), hexDigit 'A' (c.toNat % 16)] = some c := by
  have hlt : c.toNat < 0x80 := by
    simp [isControl] at hc
    omega
  have hhigh := hexDigit?_hexDigit (.inr rfl) (show c.toNat / 16 < 16 by omega)
  have hlow := hexDigit?_hexDigit (.inr rfl) (show c.toNat % 16 < 16 by omega)
  have hzero : Decimal.hexDigit? '0' = some 0 := rfl
  have hnumber : Decimal.ofDigits 16 Decimal.hexDigit?
      ['0', '0', hexDigit 'A' (c.toNat / 16), hexDigit 'A' (c.toNat % 16)] = c.toNat := by
    simp only [Decimal.ofDigits, List.foldl_cons, List.foldl_nil, hhigh, hlow, hzero,
      Option.getD_some]
    omega
  have hall : ['0', '0', hexDigit 'A' (c.toNat / 16), hexDigit 'A' (c.toNat % 16)].all
      Decimal.isHexDigit = true := by
    simp [Decimal.isHexDigit, hhigh, hlow, hzero]
  unfold codePoint?
  rw [if_pos hall, hnumber]
  simp only
  rw [if_pos (by omega), Char.ofNat_toNat]

/-! ## Characters between double quotes -/

/-- The letters that stand for a character behind a backslash. -/
def escapeLetters : List Char := ['"', '\\', 'b', 't', 'n', 'f', 'r']

/-- **The four ways to write a character** between double quotes. -/
theorem escapeChar_cases (multi : Bool) {c : Char} (hc : c ≠ '"') :
    (∃ e ∈ escapeLetters, escapeChar multi c = ['\\', e] ∧ escaped? e = some c) ∨
      (isControl c = true ∧ escapeChar multi c
        = ['\\', 'u', '0', '0', hexDigit 'A' (c.toNat / 16), hexDigit 'A' (c.toNat % 16)]) ∨
      (multi = true ∧ c = '\n' ∧ escapeChar multi c = ['\n']) ∨
      (isControl c = false ∧ c ≠ '\\' ∧ escapeChar multi c = [c]) := by
  unfold escapeChar
  by_cases hback : c = '\\'
  · subst hback
    exact .inl ⟨'\\', by decide, rfl, rfl⟩
  by_cases hbell : c = '\x08'
  · subst hbell
    exact .inl ⟨'b', by decide, rfl, rfl⟩
  by_cases htab : c = '\t'
  · subst htab
    exact .inl ⟨'t', by decide, rfl, rfl⟩
  by_cases hline : c = '\n'
  · subst hline
    cases multi with
    | false => exact .inl ⟨'n', by decide, rfl, rfl⟩
    | true => exact .inr (.inr (.inl ⟨rfl, rfl, rfl⟩))
  by_cases hfeed : c = '\x0c'
  · subst hfeed
    exact .inl ⟨'f', by decide, rfl, rfl⟩
  by_cases hreturn : c = '\r'
  · subst hreturn
    exact .inl ⟨'r', by decide, rfl, rfl⟩
  simp only [hback, hbell, htab, hline, hfeed, hreturn, if_false]
  by_cases hcontrol : isControl c = true
  · exact .inr (.inl ⟨hcontrol, by rw [if_pos hcontrol]⟩)
  · refine .inr (.inr (.inr ⟨Bool.eq_false_iff.2 hcontrol, hback, ?_⟩))
    rw [if_neg hcontrol]

/-- A character does not become a quote. -/
theorem head_escapeChar (multi : Bool) {c : Char} (hc : c ≠ '"') (rest : List Char) :
    (escapeChar multi c ++ rest).head? ≠ some '"' := by
  rcases escapeChar_cases multi hc with ⟨e, -, h, -⟩ | ⟨-, h⟩ | ⟨-, -, h⟩ | ⟨-, -, h⟩ <;> rw [h]
  · nofun
  · nofun
  · nofun
  · simpa using hc

/-! ## One line -/

/-- A letter behind a backslash. -/
theorem basicRest_letter {e c : Char} (he : e ∈ escapeLetters) (h : escaped? e = some c)
    (rest : List Char) : basicRest ('\\' :: e :: rest) = push (some c) (basicRest rest) := by
  rw [basicRest]
  · rw [h]
  all_goals
    intros
    simp_all [escapeLetters]

theorem basicRest_plain {c : Char} (hcontrol : isControl c = false) (hback : c ≠ '\\')
    (hquote : c ≠ '"') (rest : List Char) :
    basicRest (c :: rest) = push (some c) (basicRest rest) := by
  rw [basicRest]
  · simp [hcontrol, hback]
  all_goals
    intros
    simp_all

theorem basicRest_escapeChar {c : Char} (hc : c ≠ '"') (rest : List Char) :
    basicRest (escapeChar false c ++ rest) = push (some c) (basicRest rest) := by
  rcases escapeChar_cases false hc with ⟨e, he, h, hread⟩ | ⟨hcontrol, h⟩ | ⟨h, -⟩ |
    ⟨hcontrol, hback, h⟩
  · rw [h]
    exact basicRest_letter he hread rest
  · rw [h]
    show push (codePoint? _) (basicRest rest) = _
    rw [codePoint?_control hcontrol]
  · cases h
  · rw [h]
    exact basicRest_plain hcontrol hback hc rest

/-- A text between double quotes. -/
theorem basicRest_escapeText (cs rest : List Char) (run : Nat) :
    basicRest (escapeText false run cs ++ '"' :: rest) = some (cs, rest) := by
  induction cs generalizing run with
  | nil => rfl
  | cons c cs ih =>
      rw [escapeText]
      split
      · rename_i hquote
        subst hquote
        simp only [Bool.false_and, Bool.false_eq_true, if_false, List.cons_append]
        rw [basicRest_letter (by decide) rfl, ih]
        rfl
      · rw [List.append_assoc, basicRest_escapeChar ‹_›, ih]
        rfl

/-- A text between single quotes: none of its characters is one of them, or a control. -/
theorem literalRest_append {cs : List Char}
    (hcs : ∀ c ∈ cs, c ≠ '\'' ∧ isControl c = false) (rest : List Char) :
    literalRest (cs ++ '\'' :: rest) = some (cs, rest) := by
  induction cs with
  | nil => rfl
  | cons c cs ih =>
      obtain ⟨⟨hquote, hcontrol⟩, hcs⟩ := List.forall_mem_cons.1 hcs
      rw [List.cons_append, literalRest]
      · rw [hcontrol, ih hcs]
        rfl
      · exact hquote

/-! ## More lines -/

/-- What was closed takes back the quotes that were passed before the end was known. -/
theorem closed_replicate (quote : Char) {run : Nat} (hrun : run ≤ 2) {rest : List Char}
    (hrest : rest.head? ≠ some quote) :
    closed quote (List.replicate run quote ++ rest) = (List.replicate run quote, rest) := by
  have hnone : ∀ c rest', rest = c :: rest' → c ≠ quote := by
    rintro c rest' rfl rfl
    exact hrest rfl
  obtain rfl | rfl | rfl : run = 0 ∨ run = 1 ∨ run = 2 := by omega
  · match rest with
    | [] => rfl
    | [a] => simp [closed, hnone a [] rfl]
    | a :: b :: rest => simp [closed, hnone a _ rfl]
  · match rest with
    | [] => simp [closed, List.replicate]
    | b :: rest => simp [closed, List.replicate, hnone b _ rfl]
  · simp [closed, List.replicate]

theorem multiBasicRest_letter {e c : Char} (he : e ∈ escapeLetters) (h : escaped? e = some c)
    (rest : List Char) :
    multiBasicRest false ('\\' :: e :: rest) = push (some c) (multiBasicRest false rest) := by
  have hline : endsLine (e :: rest) = false := by
    simp only [escapeLetters, List.mem_cons, List.not_mem_nil, or_false] at he
    rcases he with rfl | rfl | rfl | rfl | rfl | rfl | rfl <;> rfl
  rw [multiBasicRest]
  · simp [h, hline]
  all_goals
    intros
    simp_all [escapeLetters]

theorem multiBasicRest_plain {c : Char} (hcontrol : c = '\n' ∨ isControl c = false)
    (hback : c ≠ '\\') {rest : List Char}
    (hquote : ∀ rest', c :: rest ≠ '"' :: '"' :: '"' :: rest') :
    multiBasicRest false (c :: rest) = push (some c) (multiBasicRest false rest) := by
  have hreturn : c ≠ '\r' := by
    rintro rfl
    rcases hcontrol with h | h <;> cases h
  rw [multiBasicRest]
  · rcases hcontrol with rfl | hcontrol
    · rfl
    · simp [hcontrol, hback]
  all_goals
    intros
    simp_all

theorem multiBasicRest_escapeChar {c : Char} (hc : c ≠ '"') (rest : List Char) :
    multiBasicRest false (escapeChar true c ++ rest)
      = push (some c) (multiBasicRest false rest) := by
  rcases escapeChar_cases true hc with ⟨e, he, h, hread⟩ | ⟨hcontrol, h⟩ | ⟨-, rfl, h⟩ |
    ⟨hcontrol, hback, h⟩
  · rw [h]
    exact multiBasicRest_letter he hread rest
  · rw [h]
    show push (codePoint? _) (multiBasicRest false rest) = _
    rw [codePoint?_control hcontrol]
  · rw [h]
    exact multiBasicRest_plain (.inl rfl) (by decide) (fun _ h => by cases h)
  · rw [h]
    refine multiBasicRest_plain (.inr hcontrol) hback ?_
    rintro rest' h
    exact hc (List.cons.inj h).1

/-- Up to two quotes are characters of the text if something else follows them. This is so for
every reader that only stops at three. -/
theorem passes_quotes {read : List Char → Option (List Char × List Char)} {quote : Char}
    (hread : ∀ cs, (∀ cs', quote :: cs ≠ quote :: quote :: quote :: cs') →
      read (quote :: cs) = push (some quote) (read cs))
    {run : Nat} (hrun : run ≤ 2) {cs text rest : List Char} (hcs : cs.head? ≠ some quote)
    (h : read cs = some (text, rest)) :
    read (List.replicate run quote ++ cs) = some (List.replicate run quote ++ text, rest) := by
  induction run with
  | zero => exact h
  | succ run ih =>
      have hquote : ∀ cs',
          quote :: (List.replicate run quote ++ cs) ≠ quote :: quote :: quote :: cs' := by
        rintro cs' heq
        obtain rfl | rfl : run = 0 ∨ run = 1 := by omega
        · obtain rfl : cs = _ := (List.cons.inj heq).2
          exact hcs rfl
        · obtain rfl : cs = _ := (List.cons.inj (List.cons.inj heq).2).2
          exact hcs rfl
      rw [List.replicate_succ, List.cons_append, hread _ hquote, ih (by omega)]
      rfl

theorem replicate_append_cons (quote : Char) (run : Nat) (rest : List Char) :
    List.replicate run quote ++ quote :: rest = quote :: (List.replicate run quote ++ rest) := by
  rw [List.append_cons, ← List.replicate_succ', List.replicate_succ, List.cons_append]

/-- **A text between three double quotes,** behind quotes that were passed already. -/
theorem multiBasicRest_escapeText (cs : List Char) {rest : List Char}
    (hrest : rest.head? ≠ some '"') {run : Nat} (hrun : run ≤ 2) :
    multiBasicRest false
        (List.replicate run '"' ++ (escapeText true run cs ++ '"' :: '"' :: '"' :: rest))
      = some (List.replicate run '"' ++ cs, rest) := by
  induction cs generalizing run with
  | nil =>
      rw [escapeText, List.nil_append, replicate_append_cons, replicate_append_cons,
        replicate_append_cons, List.append_nil]
      show some (closed '"' (List.replicate run '"' ++ rest)) = _
      rw [closed_replicate '"' hrun hrest]
  | cons c cs ih =>
      rw [escapeText]
      split
      · rename_i hquote
        subst hquote
        by_cases hmore : run < 2
        · have h := @ih (run + 1) (by omega)
          rw [List.replicate_succ, List.cons_append, ← replicate_append_cons] at h
          simp only [hmore, decide_true, Bool.and_self, if_true, List.cons_append]
          rw [h, replicate_append_cons, List.cons_append]
        · -- The third quote of a run is written with a backslash, which ends the run.
          simp only [hmore, decide_false, Bool.and_false, Bool.false_eq_true, if_false,
            List.cons_append]
          refine passes_quotes (fun _ => multiBasicRest_plain (.inr rfl) (by decide)) hrun nofun ?_
          rw [multiBasicRest_letter (by decide) rfl]
          have h := @ih 0 (by omega)
          rw [List.replicate_zero, List.nil_append, List.nil_append] at h
          rw [h]
          rfl
      · rename_i hquote
        rw [List.append_assoc]
        refine passes_quotes (fun _ => multiBasicRest_plain (.inr rfl) (by decide)) hrun
          (head_escapeChar true hquote _) ?_
        have h := @ih 0 (by omega)
        rw [List.replicate_zero, List.nil_append, List.nil_append] at h
        rw [multiBasicRest_escapeChar hquote, h]
        rfl

theorem multiLiteralRest_plain {c : Char} (hcontrol : c = '\n' ∨ isControl c = false)
    {rest : List Char} (hquote : ∀ rest', c :: rest ≠ '\'' :: '\'' :: '\'' :: rest') :
    multiLiteralRest (c :: rest) = push (some c) (multiLiteralRest rest) := by
  have hreturn : c ≠ '\r' := by
    rintro rfl
    rcases hcontrol with h | h <;> cases h
  rw [multiLiteralRest]
  · rcases hcontrol with rfl | hcontrol
    · rfl
    · simp [hcontrol]
  all_goals
    intros
    simp_all

/-- **A text between three single quotes,** behind quotes that were passed already. -/
theorem multiLiteralRest_append {cs : List Char}
    (hcs : ∀ c ∈ cs, c = '\n' ∨ isControl c = false) {rest : List Char}
    (hrest : rest.head? ≠ some '\'') {run : Nat} (hrun : longestRun '\'' run cs ≤ 2) :
    multiLiteralRest (List.replicate run '\'' ++ (cs ++ '\'' :: '\'' :: '\'' :: rest))
      = some (List.replicate run '\'' ++ cs, rest) := by
  induction cs generalizing run with
  | nil =>
      rw [longestRun] at hrun
      rw [List.nil_append, replicate_append_cons, replicate_append_cons, replicate_append_cons,
        List.append_nil]
      show some (closed '\'' (List.replicate run '\'' ++ rest)) = _
      rw [closed_replicate '\'' hrun hrest]
  | cons c cs ih =>
      obtain ⟨hc, hrest'⟩ := List.forall_mem_cons.1 hcs
      rw [longestRun] at hrun
      split at hrun
      · rename_i hquote
        subst hquote
        have h := @ih hrest' (run + 1) hrun
        rw [List.replicate_succ, List.cons_append, ← replicate_append_cons] at h
        rw [List.cons_append, h, replicate_append_cons, List.cons_append]
      · rename_i hquote
        refine passes_quotes (fun _ => multiLiteralRest_plain (.inr rfl)) (by omega)
          (by simpa using hquote) ?_
        have h := @ih hrest' 0 (by omega)
        rw [List.replicate_zero, List.nil_append, List.nil_append] at h
        rw [List.cons_append, multiLiteralRest_plain hc, h]
        · rfl
        · rintro rest' heq
          exact hquote (List.cons.inj heq).1

/-! ## All texts -/

theorem le_longestRun (quote : Char) (run : Nat) (cs : List Char) :
    run ≤ longestRun quote run cs := by
  induction cs generalizing run with
  | nil => exact Nat.le_refl run
  | cons c cs ih =>
      rw [longestRun]
      split
      · exact Nat.le_of_succ_le (ih (run + 1))
      · exact Nat.le_max_left ..

/-- No run at all means that there is none of the character. -/
theorem ne_of_longestRun {quote : Char} {cs : List Char} {run : Nat}
    (h : longestRun quote run cs = 0) : ∀ c ∈ cs, c ≠ quote := by
  induction cs generalizing run with
  | nil => nofun
  | cons c cs ih =>
      rw [longestRun] at h
      rw [List.forall_mem_cons]
      split at h
      · have := le_longestRun quote (run + 1) cs
        omega
      · exact ⟨‹_›, @ih 0 (by omega)⟩

/-- **What is known of a text that is quoted one way or another.** -/
theorem Quotes.for_cases (cs : List Char) :
    (Quotes.for cs = .basic ∧ '\n' ∉ cs) ∨
      (Quotes.for cs = .literal ∧ '\n' ∉ cs ∧ ∀ c ∈ cs, c ≠ '\'' ∧ isControl c = false) ∨
      Quotes.for cs = .multiBasic ∨
      (Quotes.for cs = .multiLiteral ∧ longestRun '\'' 0 cs ≤ 2 ∧
        ∀ c ∈ cs, c = '\n' ∨ isControl c = false) := by
  have hcontrols : (cs.any fun c => isControl c && c != '\n') = false →
      ∀ c ∈ cs, c = '\n' ∨ isControl c = false := by
    intro h c hc
    have := List.any_eq_false.1 h c hc
    by_cases hline : c = '\n' <;> simp_all
  have hnewline : cs.contains '\n' = false → '\n' ∉ cs := by
    simp
  -- One test after the other; only the last way to quote is known by a test that failed.
  unfold Quotes.for
  simp only
  split
  · simp_all
  split
  · rename_i h
    simp only [Bool.and_eq_true, Bool.not_eq_true', beq_iff_eq] at h
    obtain ⟨⟨hcontrol, hsingles⟩, hline⟩ := h
    refine .inr (.inl ⟨rfl, hnewline hline, ?_⟩)
    intro c hc
    refine ⟨ne_of_longestRun hsingles c hc, (hcontrols hcontrol c hc).resolve_left ?_⟩
    rintro rfl
    exact hnewline hline hc
  split
  · exact .inr (.inr (.inl rfl))
  split
  · rename_i h
    simp only [Bool.and_eq_true, Bool.not_eq_true', decide_eq_true_eq] at h
    exact .inr (.inr (.inr ⟨rfl, h.2, hcontrols h.1⟩))
  split
  · exact .inr (.inr (.inl rfl))
  · rename_i hnone
    exact .inl ⟨rfl, hnewline (Bool.eq_false_iff.2 hnone)⟩

theorem dropLineEnd_of_head {cs : List Char} (h : ∀ c ∈ cs.head?, c ≠ '\n' ∧ c ≠ '\r') :
    dropLineEnd cs = cs := by
  unfold dropLineEnd
  split
  · exact absurd rfl (h _ rfl).1
  · exact absurd rfl (h _ rfl).2
  · rfl

theorem text?_line {cs : List Char} (h : ∀ quote cs', cs ≠ quote :: quote :: quote :: cs') :
    text? cs = lineText? cs := by
  rw [text?]
  · exact fun cs' heq => h _ cs' heq
  · exact fun cs' heq => h _ cs' heq

/-- What is between the quotes does not begin with a line end, unless one was put there. -/
theorem dropLineEnd_start {cs body : List Char}
    (h : '\n' ∉ cs → ∀ c ∈ body.head?, c ≠ '\n' ∧ c ≠ '\r') :
    dropLineEnd ((if cs.contains '\n' then ['\n'] else []) ++ body) = body := by
  split
  · rfl
  · rename_i hnone
    exact dropLineEnd_of_head (h (by simpa using hnone))

theorem ne_lineEnd_of_not_control {c : Char} (h : isControl c = false) :
    c ≠ '\n' ∧ c ≠ '\r' := by
  constructor
  · rintro rfl
    cases h
  · rintro rfl
    cases h

theorem head_escapeText (multi : Bool) (run : Nat) {cs : List Char} (hline : '\n' ∉ cs)
    (rest : List Char) :
    ∀ c ∈ (escapeText multi run cs ++ '"' :: rest).head?, c ≠ '\n' ∧ c ≠ '\r' := by
  cases cs with
  | nil =>
      rintro c ⟨⟩
      decide
  | cons d cs =>
      rw [escapeText]
      split
      · split
        · rintro c ⟨⟩
          decide
        · rintro c ⟨⟩
          decide
      · rcases escapeChar_cases multi ‹_› with ⟨e, -, h, -⟩ | ⟨-, h⟩ | ⟨-, rfl, -⟩ | ⟨hd, -, h⟩
        · rw [h]
          rintro c ⟨⟩
          decide
        · rw [h]
          rintro c ⟨⟩
          decide
        · exact absurd List.mem_cons_self hline
        · rw [h]
          rintro c ⟨⟩
          exact ne_lineEnd_of_not_control hd

/-- On one line a quote is always behind a backslash, so three of them never begin it. -/
theorem escapeText_ne_quotes {cs rest : List Char} (hrest : rest.head? ≠ some '"') (quote : Char)
    (cs' : List Char) :
    '"' :: (escapeText false 0 cs ++ '"' :: rest) ≠ quote :: quote :: quote :: cs' := by
  intro heq
  obtain ⟨rfl, heq⟩ := List.cons.inj heq
  cases cs with
  | nil =>
      obtain rfl := (List.cons.inj heq).2
      exact hrest rfl
  | cons c cs =>
      rw [escapeText] at heq
      split at heq
      · cases heq
      · have hhead := head_escapeChar false ‹_› (escapeText false 0 cs ++ '"' :: rest)
        rw [← List.append_assoc, heq] at hhead
        exact hhead rfl

theorem literal_ne_quotes {cs rest : List Char} (hcs : ∀ c ∈ cs, c ≠ '\'')
    (hrest : rest.head? ≠ some '\'') (quote : Char) (cs' : List Char) :
    '\'' :: (cs ++ '\'' :: rest) ≠ quote :: quote :: quote :: cs' := by
  intro heq
  obtain ⟨rfl, heq⟩ := List.cons.inj heq
  cases cs with
  | nil =>
      obtain rfl := (List.cons.inj heq).2
      exact hrest rfl
  | cons c cs =>
      obtain ⟨rfl, -⟩ := List.cons.inj heq
      exact hcs _ List.mem_cons_self rfl

/-- **A quoted text is read as the text,** whatever its characters. -/
theorem text?_quoted (cs : List Char) {rest : List Char}
    (hrest : rest.head? ≠ some '"' ∧ rest.head? ≠ some '\'') :
    text? (quoted cs ++ rest) = some (cs, rest) := by
  have hstart : '\n' ∉ cs → (if cs.contains '\n' then ['\n'] else []) = [] :=
    fun hline => if_neg (by simpa using hline)
  unfold quoted
  rcases Quotes.for_cases cs with ⟨h, hline⟩ | ⟨h, hline, hcs⟩ | h | ⟨h, hsingles, hcs⟩
  · simp only [h, hstart hline, Quotes.delimiter, List.append_nil, List.append_assoc,
      List.cons_append, List.nil_append]
    rw [text?_line (escapeText_ne_quotes hrest.1)]
    exact basicRest_escapeText cs rest 0
  · simp only [h, hstart hline, Quotes.delimiter, List.append_nil, List.append_assoc,
      List.cons_append, List.nil_append]
    rw [text?_line (literal_ne_quotes (fun c hc => (hcs c hc).1) hrest.2)]
    exact literalRest_append hcs rest
  · simp only [h, Quotes.delimiter, List.append_assoc, List.cons_append, List.nil_append]
    show multiBasicRest false (dropLineEnd _) = _
    rw [dropLineEnd_start fun hline => head_escapeText true 0 hline _]
    have hread := multiBasicRest_escapeText cs hrest.1 (Nat.zero_le 2)
    rwa [List.replicate_zero, List.nil_append, List.nil_append] at hread
  · have hhead : '\n' ∉ cs → ∀ c ∈ (cs ++ '\'' :: '\'' :: '\'' :: rest).head?,
        c ≠ '\n' ∧ c ≠ '\r' := by
      intro hline
      cases cs with
      | nil =>
          rintro c ⟨⟩
          decide
      | cons c cs =>
          rintro _ ⟨⟩
          refine ne_lineEnd_of_not_control ((hcs c List.mem_cons_self).resolve_left ?_)
          rintro rfl
          exact hline List.mem_cons_self
    simp only [h, Quotes.delimiter, List.append_assoc, List.cons_append, List.nil_append]
    show multiLiteralRest (dropLineEnd _) = _
    rw [dropLineEnd_start hhead]
    have hread := multiLiteralRest_append hcs hrest.2 hsingles
    rwa [List.replicate_zero, List.nil_append, List.nil_append] at hread

end ImageOverlay.Toml
