import ImageOverlay.Proofs.Json.Reading

set_option autoImplicit false

/-!
# Compact text reads back

What a value becomes when its compact text is read is said by recursion on the value
(`Json.parsed`): a double becomes what its own text is read as, and a whole number that does not fit
in 64 bits becomes a double. Nothing else changes. The reader's fuel is spent along the text and
never runs out, so every value is read back (`Json.read_render`), with anything behind it that may
stand behind a value.
-/

namespace ImageOverlay

namespace Json

open Parsed

variable {reading : NumberReading}

/-! ## What a value is read as -/

section

variable (reading : NumberReading)

mutual

/-- What the compact text of a value is read as. -/
def parsed : Json → Parsed
  | .null => .null
  | .bool b => .bool b
  | .int n => .number (wholeOf reading (n < 0) (Decimal.digits n.natAbs))
  | .real x => match reading.again? x with
    | some n => .number n
    | none => .null
  | .str s => .text (some s)
  | .arr vs => .array (parsedItems vs)
  | .obj ms => .object (parsedMembers ms)

/-- The items of an array as they are read. -/
def parsedItems : List Json → List Parsed
  | [] => []
  | v :: rest => parsed v :: parsedItems rest

/-- The members of an object as they are read. -/
def parsedMembers : List (String × Json) → List (Option String × Parsed)
  | [] => []
  | (k, v) :: rest => (some k, parsed v) :: parsedMembers rest

end

theorem parsedItems_eq (vs : List Json) : parsedItems reading vs = vs.map (parsed reading) := by
  induction vs with
  | nil => rfl
  | cons v vs ih => rw [parsedItems, ih, List.map_cons]

theorem parsedMembers_eq (ms : List (String × Json)) :
    parsedMembers reading ms = ms.map fun m => (some m.1, parsed reading m.2) := by
  induction ms with
  | nil => rfl
  | cons m ms ih => rw [parsedMembers, ih, List.map_cons]

end

theorem parsed_real {x : Float} (h : reading.Restores x) :
    (Json.real x).parsed reading = .number (.real x) := by
  rw [parsed, h]

/-! ## Scalars -/

theorem skip_cons {c : Char} (hc : isSpace c = false) (cs : List Char) :
    skip (c :: cs) = c :: cs := by
  simp [skip, hc]

/-- A minus or a digit begins a number. -/
theorem value_of_number {c : Char} (hc : c = '-' ∨ Decimal.isDigit c = true) (fuel : ℕ)
    (cs : List Char) :
    value reading (fuel + 1) (c :: cs)
      = (numberRest? reading (c :: cs)).map fun (n, rest) => (.number n, rest) := by
  have hspace : isSpace c = false := by
    by_contra h
    simp only [isSpace, Bool.not_eq_false, Bool.or_eq_true, beq_iff_eq] at h
    rcases h with ((rfl | rfl) | rfl) | rfl <;> exact absurd hc (by decide)
  rw [value, skip_cons hspace]
  split
  all_goals
    first
    | rfl
    | rename_i heq
      cases heq
      exact absurd hc (by decide)

/-- A double is read as its own text says, and as `null` if that is no number. -/
theorem value_realText (x : Float) (fuel : ℕ) {rest : List Char} (h : Ends rest) :
    value reading (fuel + 1) (realText x ++ rest) = some ((Json.real x).parsed reading, rest) := by
  by_cases hx : x.isFinite = true
  · obtain ⟨_, _, -, -, hagain, hread⟩ := NumberReading.exists_numeral_again reading hx
    obtain ⟨negative, n, hn, htext, -⟩ := numberLayout.exists_numeral_text hx
    have hhead : ∀ c ∈ (realText x ++ rest).head?, c = '-' ∨ Decimal.isDigit c = true := by
      rw [NumberReading.realText_of_finite hx, htext]
      cases negative with
      | true =>
          rintro c ⟨⟩
          exact .inl rfl
      | false => exact fun c hc => .inr (hn.head_text rest c hc)
    have hread := hread h
    rw [parsed, hagain]
    generalize realText x ++ rest = text at *
    cases text with
    | nil => cases hread
    | cons c cs => rw [value_of_number (hhead c rfl), hread, Option.map_some]
  · rw [parsed, NumberReading.again?_of_not_finite hx, NumberReading.realText_of_not_finite hx]
    rfl

/-- A whole number is read by its sign and its digits. -/
theorem value_intText (n : ℤ) (fuel : ℕ) {rest : List Char} (h : Ends rest) :
    value reading (fuel + 1) (intText n ++ rest) = some ((Json.int n).parsed reading, rest) := by
  have hread := numberRest?_intText reading n h
  have hhead : ∀ c ∈ (intText n ++ rest).head?, c = '-' ∨ Decimal.isDigit c = true := by
    unfold intText
    split
    · rintro c ⟨⟩
      exact .inl rfl
    · rw [List.nil_append, List.head?_append_of_ne_nil _ (Decimal.digits_ne_nil _)]
      exact fun c hc => .inr (Decimal.isDigit_of_mem_digits (List.mem_of_mem_head? hc))
  generalize intText n ++ rest = text at *
  cases text with
  | nil => cases hread
  | cons c cs => rw [value_of_number (hhead c rfl), hread, Option.map_some, parsed]

/-! ## Values -/

theorem Ends.cons {c : Char} (hc : c = ',' ∨ c = ']' ∨ c = '\x7d') (rest : List Char) :
    Ends (c :: rest) := by
  rintro c' ⟨⟩
  exact hc

theorem skip_skip (cs : List Char) : skip (skip cs) = skip cs :=
  List.dropWhile_idempotent isSpace cs

theorem items_skip (fuel : ℕ) (cs : List Char) :
    items reading fuel (skip cs) = items reading fuel cs := by
  have hvalue : ∀ fuel, value reading fuel (skip cs) = value reading fuel cs := by
    rintro (_ | fuel)
    · rfl
    · rw [value, value, skip_skip]
  cases fuel with
  | zero => rfl
  | succ fuel => rw [items, items, hvalue]

theorem members_skip (fuel : ℕ) (cs : List Char) :
    members reading fuel (skip cs) = members reading fuel cs := by
  cases fuel with
  | zero => rfl
  | succ fuel => rw [members, members, skip_skip]

section

variable {fuel : ℕ} {text rest : List Char}

/-- An array of the items that follow its bracket. They cannot begin with what closes it. -/
theorem value_array {vs : List Parsed} (h : items reading fuel text = some (vs, rest)) :
    value reading (fuel + 1) ('[' :: text) = some (.array vs, rest) := by
  rw [value, skip_cons rfl]
  rw [← items_skip] at h
  simp only
  split
  · rename_i heq
    rw [heq] at h
    rcases fuel with _ | _ | fuel <;> cases h
  · rw [h, Option.map_some]

/-- An object of the members that follow its bracket. -/
theorem value_object {ms : List (Option String × Parsed)}
    (h : members reading fuel text = some (ms, rest)) :
    value reading (fuel + 1) ('\x7b' :: text) = some (.object ms, rest) := by
  rw [value, skip_cons rfl]
  rw [← members_skip] at h
  simp only
  split
  · rename_i heq
    rw [heq] at h
    cases fuel <;> cases h
  · rw [h, Option.map_some]

theorem items_last {v : Parsed} (h : value reading fuel text = some (v, ']' :: rest)) :
    items reading (fuel + 1) text = some ([v], rest) := by
  rw [items, h]
  rfl

theorem items_more {v : Parsed} {vs : List Parsed} {text' : List Char}
    (h : value reading fuel text = some (v, ',' :: text'))
    (hmore : items reading fuel text' = some (vs, rest)) :
    items reading (fuel + 1) text = some (v :: vs, rest) := by
  rw [items, h]
  show (items reading fuel text').map _ = _
  rw [hmore, Option.map_some]

theorem members_last {v : Parsed} (k : String)
    (h : value reading fuel text = some (v, '\x7d' :: rest)) :
    members reading (fuel + 1) (quoted k ++ ':' :: text) = some ([(some k, v)], rest) := by
  rw [quoted, List.cons_append, List.append_assoc, List.singleton_append, members, skip_cons rfl]
  simp only
  rw [stringRest_quoted]
  simp only [skip_cons (c := ':') rfl, h]
  rfl

theorem members_more {v : Parsed} {ms : List (Option String × Parsed)} {text' : List Char}
    (k : String) (h : value reading fuel text = some (v, ',' :: text'))
    (hmore : members reading fuel text' = some (ms, rest)) :
    members reading (fuel + 1) (quoted k ++ ':' :: text) = some ((some k, v) :: ms, rest) := by
  rw [quoted, List.cons_append, List.append_assoc, List.singleton_append, members, skip_cons rfl]
  simp only
  rw [stringRest_quoted]
  simp only [skip_cons (c := ':') rfl, h, skip_cons (c := ',') rfl, hmore, Option.map_some]

end

mutual

/-- The compact text of a value is read as the value, whatever ends it. -/
theorem value_compact : ∀ (v : Json) (fuel : ℕ), 2 * v.compact.length < fuel →
    ∀ {rest : List Char}, Ends rest →
      value reading fuel (v.compact ++ rest) = some (v.parsed reading, rest)
  | .null, fuel + 1, _, _, _ => rfl
  | .bool true, fuel + 1, _, _, _ => rfl
  | .bool false, fuel + 1, _, _, _ => rfl
  | .int n, fuel + 1, _, _, h => value_intText n fuel h
  | .real x, fuel + 1, _, _, h => value_realText x fuel h
  | .str s, fuel + 1, _, rest, _ => by
      rw [compact, quoted, List.cons_append, List.append_assoc, value, skip_cons rfl]
      simp only
      rw [List.singleton_append, stringRest_quoted]
      rfl
  | .arr [], fuel + 1, _, _, _ => rfl
  | .arr (v :: vs), fuel + 1, hfuel, rest, _ => by
      rw [compact, List.length_cons] at hfuel
      exact value_array (items_compact v vs fuel (by omega) rest)
  | .obj [], fuel + 1, _, _, _ => rfl
  | .obj (m :: ms), fuel + 1, hfuel, rest, _ => by
      rw [compact, List.length_cons] at hfuel
      exact value_object (members_compact m ms fuel (by omega) rest)

theorem items_compact : ∀ (v : Json) (vs : List Json) (fuel : ℕ),
    2 * (compactItems (v :: vs)).length ≤ fuel → ∀ rest : List Char,
      items reading fuel (compactItems (v :: vs) ++ rest)
        = some (parsedItems reading (v :: vs), rest)
  | v, [], fuel + 1, hfuel, rest => by
      rw [compactItems, List.length_append, List.length_singleton] at hfuel
      rw [compactItems, List.append_assoc]
      exact items_last (value_compact v fuel (by omega) (Ends.cons (by simp) rest))
  | v, w :: vs, fuel + 1, hfuel, rest => by
      rw [compactItems, List.length_append, List.length_cons] at hfuel
      rw [compactItems, List.append_assoc]
      exact items_more (value_compact v fuel (by omega) (Ends.cons (by simp) _))
        (items_compact w vs fuel (by omega) rest)
  | v, [], 0, hfuel, _ => by simp [compactItems] at hfuel
  | v, w :: vs, 0, hfuel, _ => by simp [compactItems] at hfuel

theorem members_compact : ∀ (m : String × Json) (ms : List (String × Json)) (fuel : ℕ),
    2 * (compactMembers (m :: ms)).length ≤ fuel → ∀ rest : List Char,
      members reading fuel (compactMembers (m :: ms) ++ rest)
        = some (parsedMembers reading (m :: ms), rest)
  | (k, v), [], fuel + 1, hfuel, rest => by
      simp only [compactMembers, List.length_append, List.length_cons] at hfuel
      simp only [compactMembers, List.append_assoc, List.cons_append]
      exact members_last k (value_compact v fuel (by omega) (Ends.cons (by simp) rest))
  | (k, v), m :: ms, fuel + 1, hfuel, rest => by
      simp only [compactMembers, List.length_append, List.length_cons] at hfuel
      simp only [compactMembers, List.append_assoc, List.cons_append]
      exact members_more k (value_compact v fuel (by omega) (Ends.cons (by simp) _))
        (members_compact m ms fuel (by omega) rest)
  | (k, v), [], 0, hfuel, _ => by simp [compactMembers] at hfuel
  | (k, v), m :: ms, 0, hfuel, _ => by simp [compactMembers] at hfuel

end

/-- **The compact text of a value reads back.** -/
theorem read_render (reading : NumberReading) (v : Json) :
    Parsed.read v.render.toList reading = some (v.parsed reading) := by
  have hvalue : value reading (2 * v.compact.length + 2) (v.compact ++ [])
      = some (v.parsed reading, []) :=
    value_compact v _ (by omega) nofun
  rw [List.append_nil] at hvalue
  rw [Parsed.read, render, String.toList_ofList, hvalue]
  rfl

end Json

end ImageOverlay
