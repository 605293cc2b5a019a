import ImageOverlay.Proofs.Number.Layout
import ImageOverlay.Text.Blank
import ImageOverlay.Text.Substitute
import Mathlib.Data.List.DropRight

set_option autoImplicit false

/-!
# Pieces and the texts they make up

A function that takes a text apart is described by how its pieces make up the text: a fixed
beginning or end by what it is put next to (`after?_eq_some_iff`, `before?_eq_some_iff`), the parts
between separators by joining them again (`splitAt_eq_iff`), and a text without the blanks at its
ends by putting blanks back (`trimmed_iff`). Slices are counted in bytes, and as long as each
character takes up one byte they are counted in characters too (`slice?_of_ascii`).
-/

namespace ImageOverlay.Text

variable {cs core : List Char} {parts : List (List Char)}

/-! ## Beginnings and ends -/

theorem after?_eq_some_iff {start cs rest : List Char} :
    after? start cs = some rest ↔ cs = start ++ rest := by
  induction start generalizing cs with
  | nil => simp [after?]
  | cons s start ih =>
      cases cs with
      | nil => simp [after?]
      | cons c cs =>
          rw [after?, List.cons_append, List.cons.injEq]
          by_cases h : s = c
          · simp only [h, if_true, true_and, ih]
          · simp [h, Ne.symm h]

theorem isSome_after? (word cs : List Char) : (after? word cs).isSome = true ↔ word <+: cs := by
  rw [Option.isSome_iff_exists]
  simp only [after?_eq_some_iff]
  exact exists_congr fun rest => eq_comm

theorem contains_iff (word cs : List Char) : contains word cs = true ↔ word <:+: cs := by
  induction cs with
  | nil => rw [contains, List.isEmpty_iff, List.infix_nil]
  | cons c cs ih => rw [contains, Bool.or_eq_true, isSome_after?, ih, List.infix_cons_iff]

theorem before?_eq_some_iff {ending cs front : List Char} :
    before? ending cs = some front ↔ cs = front ++ ending := by
  rw [before?, Option.map_eq_some_iff]
  constructor
  · rintro ⟨rest, h, rfl⟩
    have hcs := congrArg List.reverse (after?_eq_some_iff.1 h)
    simpa using hcs
  · rintro rfl
    exact ⟨front.reverse, after?_eq_some_iff.2 (List.reverse_append ..), List.reverse_reverse front⟩

/-! ## Parts -/

theorem splitAt_eq_splitOn (separator : Char) (cs : List Char) :
    splitAt separator cs = cs.splitOn separator := by
  induction cs with
  | nil => rfl
  | cons c cs ih =>
      have hcons : (c :: cs).splitOn separator
          = if c = separator then [] :: cs.splitOn separator
            else (cs.splitOn separator).modifyHead (c :: ·) := by
        have h := List.splitOnP_cons_eq_if_modifyHead (p := (· == separator)) c cs
        simp only [beq_iff_eq] at h
        exact h
      rw [splitAt, hcons, ih]
      obtain ⟨part, parts, hparts⟩ := List.exists_cons_of_ne_nil (List.splitOn_ne_nil separator cs)
      rw [hparts]
      rfl

theorem not_mem_of_mem_splitAt {separator : Char} {part : List Char}
    (hpart : part ∈ splitAt separator cs) : separator ∉ part := by
  induction cs generalizing part with
  | nil =>
      obtain rfl := List.mem_singleton.1 hpart
      exact List.not_mem_nil
  | cons c cs ih =>
      rw [splitAt] at hpart
      split at hpart
      · rcases List.mem_cons.1 hpart with rfl | hpart
        · exact List.not_mem_nil
        · exact ih hpart
      · rename_i hc
        split at hpart
        · obtain rfl := List.mem_singleton.1 hpart
          simpa using Ne.symm hc
        · rename_i first rest hrest
          rw [hrest] at ih
          rcases List.mem_cons.1 hpart with rfl | hpart
          · rw [List.mem_cons, not_or]
            exact ⟨Ne.symm hc, ih List.mem_cons_self⟩
          · exact ih (List.mem_cons_of_mem _ hpart)

/-- The parts of a text make it up again, and no separator is left in them. -/
theorem splitAt_eq_iff {separator : Char} (hparts : parts ≠ []) :
    splitAt separator cs = parts ↔
      (∀ part ∈ parts, separator ∉ part) ∧ [separator].intercalate parts = cs := by
  constructor
  · rintro rfl
    refine ⟨fun part => not_mem_of_mem_splitAt, ?_⟩
    rw [splitAt_eq_splitOn]
    exact List.intercalate_splitOn separator
  · rintro ⟨hfree, rfl⟩
    rw [splitAt_eq_splitOn]
    exact List.splitOn_intercalate separator hfree hparts

/-- What is in a joined text is a separator or in one of the parts. -/
theorem mem_intercalate {separator c : Char} (hc : c ∈ [separator].intercalate parts) :
    c = separator ∨ c ∈ parts.flatten := by
  induction parts with
  | nil => exact absurd hc List.not_mem_nil
  | cons part parts ih =>
      rw [List.flatten_cons, List.mem_append]
      cases parts with
      | nil =>
          rw [List.intercalate_singleton] at hc
          exact .inr (.inl hc)
      | cons next parts =>
          rw [List.intercalate_cons_cons, List.append_assoc, List.mem_append] at hc
          rcases hc with hc | hc
          · exact .inr (.inl hc)
          rcases List.mem_cons.1 hc with hc | hc
          · exact .inl hc
          · exact (ih hc).imp_right .inr

/-! ## Blanks -/

/-- What is left of a text without the blanks at its ends. -/
structure Trimmed (cs core : List Char) : Prop where
  around : ∃ before after, cs = before ++ core ++ after ∧ (∀ c ∈ before, isBlank c = true) ∧
    ∀ c ∈ after, isBlank c = true
  head : ∀ c ∈ core.head?, isBlank c = false
  last : ∀ c ∈ core.getLast?, isBlank c = false

theorem head?_dropWhile (cs : List Char) : ∀ c ∈ (cs.dropWhile isBlank).head?, isBlank c = false := by
  have hhead := List.head?_dropWhile_not isBlank cs
  intro c hc
  rwa [Option.mem_def.1 hc] at hhead

theorem trimmed_trim (cs : List Char) : Trimmed cs (trim cs) := by
  have hrest : trim cs ++ (cs.dropWhile isBlank).rtakeWhile isBlank = cs.dropWhile isBlank :=
    List.rdropWhile_append_rtakeWhile
  refine ⟨⟨cs.takeWhile isBlank, (cs.dropWhile isBlank).rtakeWhile isBlank, ?_, ?_, ?_⟩, ?_, ?_⟩
  · rw [List.append_assoc, hrest, List.takeWhile_append_dropWhile]
  · exact fun c => List.mem_takeWhile_imp
  · exact fun c => List.mem_rtakeWhile_imp
  · -- What is cut off at the end leaves the front as it is.
    intro c hc
    apply head?_dropWhile cs c
    rw [← hrest, List.head?_append, Option.mem_def.1 hc]
    rfl
  · intro c hc
    apply head?_dropWhile (cs.dropWhile isBlank).reverse c
    rwa [trim, dropEndWhile, List.getLast?_reverse] at hc

theorem Trimmed.trim_eq (h : Trimmed cs core) : trim cs = core := by
  obtain ⟨before, after, rfl, hbefore, hafter⟩ := h.around
  have hcut : ∀ {front rest : List Char}, (∀ c ∈ front, isBlank c = true) →
      (∀ c ∈ rest.head?, isBlank c = false) → (front ++ rest).dropWhile isBlank = rest :=
    fun hfront hrest => dropWhile_append hfront hrest
  rw [trim, dropEndWhile, List.append_assoc]
  rcases List.eq_nil_or_concat' core with rfl | ⟨front, last, rfl⟩
  · have hblank : ∀ c ∈ before ++ after, isBlank c = true := by
      intro c hc
      exact (List.mem_append.1 hc).elim (hbefore c) (hafter c)
    rw [List.nil_append, List.dropWhile_eq_nil_iff.2 hblank]
    rfl
  · have hhead : ∀ c ∈ (front ++ [last] ++ after).head?, isBlank c = false := by
      intro c hc
      apply h.head c
      rwa [List.head?_append_of_ne_nil _ (by simp)] at hc
    have hlast : ∀ c ∈ (front ++ [last]).reverse.head?, isBlank c = false := by
      rw [List.head?_reverse]
      exact h.last
    rw [hcut hbefore hhead, List.reverse_append, hcut (by simpa using hafter) hlast,
      List.reverse_reverse]

theorem trimmed_iff : Trimmed cs core ↔ trim cs = core :=
  ⟨Trimmed.trim_eq, fun h => h ▸ trimmed_trim cs⟩

/-- A text without blanks at its ends. -/
theorem trimmed_self (hhead : ∀ c ∈ core.head?, isBlank c = false)
    (hlast : ∀ c ∈ core.getLast?, isBlank c = false) : Trimmed core core :=
  ⟨⟨[], [], by simp, by simp, by simp⟩, hhead, hlast⟩

theorem trim_trim (cs : List Char) : trim (trim cs) = trim cs :=
  (trimmed_self (trimmed_trim cs).head (trimmed_trim cs).last).trim_eq

/-! ## Slices -/

section Ascii

variable (hcs : ∀ c ∈ cs, c.utf8Size = 1)
include hcs

theorem byteLength_of_ascii : byteLength cs = cs.length := by
  induction cs with
  | nil => rfl
  | cons c cs ih =>
      rw [byteLength, hcs c (by simp), ih fun c hc => hcs c (by simp [hc]), List.length_cons,
        Nat.add_comm]

theorem takeBytes?_of_ascii {n : ℕ} (hn : n ≤ cs.length) : takeBytes? n cs = some (cs.take n) := by
  induction cs generalizing n with
  | nil =>
      obtain rfl : n = 0 := Nat.le_zero.1 hn
      rfl
  | cons c cs ih =>
      cases n with
      | zero => rfl
      | succ n =>
          have hc := hcs c (by simp)
          have ih := ih (fun c hc => hcs c (by simp [hc])) (Nat.le_of_succ_le_succ hn)
          rw [takeBytes?, hc, if_pos (Nat.le_add_left 1 n), Nat.add_sub_cancel, ih]
          rfl

theorem dropBytes?_of_ascii {n : ℕ} (hn : n ≤ cs.length) : dropBytes? n cs = some (cs.drop n) := by
  induction cs generalizing n with
  | nil =>
      obtain rfl : n = 0 := Nat.le_zero.1 hn
      rfl
  | cons c cs ih =>
      cases n with
      | zero => rfl
      | succ n =>
          have hc := hcs c (by simp)
          have ih := ih (fun c hc => hcs c (by simp [hc])) (Nat.le_of_succ_le_succ hn)
          rw [dropBytes?, hc, if_pos (Nat.le_add_left 1 n), Nat.add_sub_cancel, ih]
          rfl

/-- A slice of a text of single bytes. -/
theorem slice?_of_ascii {first last : ℕ} (hle : first ≤ last) (hlast : last ≤ cs.length) :
    slice? first last cs = some ((cs.drop first).take (last - first)) := by
  rw [slice?, if_pos hle, dropBytes?_of_ascii hcs (hle.trans hlast), Option.bind_some]
  refine takeBytes?_of_ascii (fun c hc => hcs c (List.mem_of_mem_drop hc)) ?_
  rw [List.length_drop]
  omega

end Ascii

end ImageOverlay.Text
