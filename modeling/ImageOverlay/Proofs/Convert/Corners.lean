import Mathlib.Data.List.Destutter
import Mathlib.Data.List.Rotate

set_option autoImplicit false

/-!
# Corners of a closed path

A closed path is given as the list of its points, which may or may not repeat the first one at the
end. Its `corners` are the points that are left when every run of equal points becomes one point,
also the run across the ends.

They belong to the path and not to the list: where the list starts does not matter
(`corners_rotate`), a list read backwards has its corners backwards (`corners_reverse`), and closing
the corners again brings no run back (`isChain_unclosed`).
-/

namespace ImageOverlay

open List

variable {α : Type} [DecidableEq α]

/-- A path without its last point if that repeats the first. -/
def unclosed (l : List α) : List α :=
  if 1 < l.length ∧ l.head? = l.getLast? then l.dropLast else l

/-- The corners of a closed path: a run of equal points is one corner, also across the ends. -/
def corners (l : List α) : List α := unclosed (l.destutter (· ≠ ·))

theorem destutter_cons (a : α) (l : List α) :
    (a :: l).destutter (· ≠ ·)
      = if l.head? = some a then l.destutter (· ≠ ·) else a :: l.destutter (· ≠ ·) := by
  cases l with
  | nil => rfl
  | cons b l =>
      rw [List.destutter_cons_cons]
      by_cases h : a = b
      · rw [List.head?_cons, if_neg (not_not.2 h), if_pos (congrArg some h.symm), h]
        rfl
      · rw [List.head?_cons, if_pos h, if_neg fun hb => h (Option.some.inj hb).symm]
        rfl

theorem head?_destutter (l : List α) : (l.destutter (· ≠ ·)).head? = l.head? := by
  induction l with
  | nil => rfl
  | cons a l ih =>
      rw [destutter_cons]
      split
      · rw [ih, List.head?_cons]
        assumption
      · rfl

theorem getLast?_destutter (l : List α) : (l.destutter (· ≠ ·)).getLast? = l.getLast? := by
  induction l with
  | nil => rfl
  | cons a l ih =>
      rw [destutter_cons]
      split
      · rw [ih, List.getLast?_cons]
        cases l with
        | nil => simp at *
        | cons b l => simp [List.getLast?_cons]
      · rw [List.getLast?_cons, List.getLast?_cons, ih]

theorem destutter_concat (l : List α) (a : α) :
    (l ++ [a]).destutter (· ≠ ·)
      = if l.getLast? = some a then l.destutter (· ≠ ·) else l.destutter (· ≠ ·) ++ [a] := by
  induction l with
  | nil => rfl
  | cons b l ih =>
      rw [List.cons_append, destutter_cons, destutter_cons, ih]
      cases l with
      | nil =>
          by_cases h : b = a
          · subst h
            simp
          · simp [h, Ne.symm h]
      | cons c l =>
          simp only [List.cons_append, List.head?_cons, List.getLast?_cons_cons]
          by_cases h : c = b
          · simp [h]
          · simp only [Option.some.injEq, h, if_false]
            split <;> rfl

theorem destutter_reverse (l : List α) :
    l.reverse.destutter (· ≠ ·) = (l.destutter (· ≠ ·)).reverse := by
  induction l with
  | nil => rfl
  | cons a l ih =>
      rw [List.reverse_cons, destutter_concat, destutter_cons, ih, List.getLast?_reverse]
      split
      · rfl
      · rw [List.reverse_cons]

theorem unclosed_eq_self {l : List α} (h : l.head? ≠ l.getLast?) : unclosed l = l :=
  if_neg fun hclosed => h hclosed.2

theorem unclosed_eq_dropLast {l : List α} (hlength : 1 < l.length) (h : l.head? = l.getLast?) :
    unclosed l = l.dropLast := if_pos ⟨hlength, h⟩

omit [DecidableEq α] in
/-- Closing a path adds no point that was not there. -/
theorem forall_mem_closed {P : α → Prop} {a : α} {l : List α} (h : ∀ b ∈ a :: l, P b) :
    ∀ b ∈ a :: (l ++ [a]), P b := by
  intro b hb
  refine h b ?_
  simpa [or_comm, or_assoc] using hb

theorem unclosed_closed (a : α) (l : List α) : unclosed (a :: (l ++ [a])) = a :: l := by
  have hlast : (a :: (l ++ [a])).getLast? = some a := by
    rw [← List.cons_append, List.getLast?_concat]
  rw [unclosed_eq_dropLast (by simp) (by rw [hlast, List.head?_cons]), ← List.cons_append,
    List.dropLast_concat]

/-- A path without runs that was made to end before its first point has none either when it is
closed again. -/
theorem isChain_unclosed {l rest : List α} {a : α} (hchain : l.IsChain (· ≠ ·))
    (h : unclosed l = a :: rest) (hne : rest ≠ []) : (a :: (rest ++ [a])).IsChain (· ≠ ·) := by
  by_cases hclosed : 1 < l.length ∧ l.head? = l.getLast?
  · -- The point that was taken away is the one that is put back.
    rw [unclosed_eq_dropLast hclosed.1 hclosed.2] at h
    have hhead : l.head? = some a := by
      have hfirst : l.dropLast.head? = _ := List.head?_dropLast
      rw [if_pos hclosed.1, h, List.head?_cons] at hfirst
      exact hfirst.symm
    have hself : l = a :: (rest ++ [a]) := by
      rw [← List.cons_append, ← h]
      exact (List.dropLast_append_getLast? a (hclosed.2 ▸ hhead)).symm
    rwa [hself] at hchain
  · rw [unclosed, if_neg hclosed] at h
    subst h
    have hends : (a :: rest).head? ≠ (a :: rest).getLast? := by
      intro hends
      refine hclosed ⟨?_, hends⟩
      rw [List.length_cons]
      have := List.length_pos_iff.2 hne
      omega
    rw [← List.cons_append]
    refine hchain.append (.singleton a) fun x hx y hy => ?_
    obtain rfl : a = y := by simpa using hy
    rintro rfl
    exact hends hx.symm

/-- Where a closed path starts does not matter. -/
theorem corners_concat (a : α) (l : List α) : corners (l ++ [a]) ~r corners (a :: l) := by
  unfold corners
  rw [destutter_concat, destutter_cons, ← head?_destutter, ← getLast?_destutter]
  generalize l.destutter (· ≠ ·) = d
  rcases List.eq_nil_or_concat' d with rfl | ⟨init, last, hinit⟩
  · exact .refl _
  obtain ⟨first, rest, hrest⟩ : ∃ first rest, d = first :: rest :=
    List.exists_cons_of_ne_nil (by simp [hinit])
  have hhead : d.head? = some first := by rw [hrest, List.head?_cons]
  have hlast : d.getLast? = some last := by rw [hinit, List.getLast?_concat]
  simp only [hhead, hlast, Option.some.injEq]
  -- Either end of the rest may be equal to the point, and so join it to a run.
  by_cases hfirst : first = a <;> by_cases hend : last = a
  · rw [if_pos hfirst, if_pos hend]
  · -- The point joins the run at the front, and at the back it closes the path.
    have hself : unclosed d = d := by
      refine unclosed_eq_self ?_
      rw [hhead, hlast, hfirst]
      simpa using Ne.symm hend
    have hclosed : unclosed (d ++ [a]) = d := by
      rw [hrest, hfirst]
      exact unclosed_closed a rest
    rw [if_pos hfirst, if_neg hend, hself, hclosed]
  · -- Now it is the other way round, and the corners start one further.
    have hself : unclosed d = d := by
      refine unclosed_eq_self ?_
      rw [hhead, hlast, hend]
      simpa using hfirst
    have hclosed : unclosed (a :: d) = a :: init := by
      rw [hinit, hend]
      exact unclosed_closed a init
    rw [if_neg hfirst, if_pos hend, hself, hclosed, hinit, hend]
    exact isRotated_concat a init
  · have hback : unclosed (d ++ [a]) = d ++ [a] := by
      refine unclosed_eq_self ?_
      rw [hrest, List.getLast?_concat]
      simpa using hfirst
    have hfront : unclosed (a :: d) = a :: d := by
      refine unclosed_eq_self ?_
      rw [List.getLast?_cons, hlast]
      simpa using Ne.symm hend
    rw [if_neg hfirst, if_neg hend, hback, hfront]
    exact isRotated_concat a d

theorem corners_rotate (l : List α) (n : ℕ) : corners (l.rotate n) ~r corners l := by
  induction n generalizing l with
  | zero => rw [List.rotate_zero]
  | succ n ih =>
      cases l with
      | nil => rw [List.rotate_nil]
      | cons a l =>
          rw [List.rotate_cons_succ]
          exact (ih (l ++ [a])).trans (corners_concat a l)

/-- Which of the two equal ends is taken away turns the path. -/
theorem unclosed_reverse (l : List α) : unclosed l.reverse ~r (unclosed l).reverse := by
  have hends : l.reverse.head? = l.reverse.getLast? ↔ l.head? = l.getLast? := by
    rw [List.head?_reverse, List.getLast?_reverse, eq_comm]
  by_cases hclosed : 1 < l.length ∧ l.head? = l.getLast?
  · have hne : l ≠ [] := List.ne_nil_of_length_pos (by omega)
    have hsame : l.head hne = l.getLast hne := by
      rw [List.head?_eq_some_head hne, List.getLast?_eq_some_getLast hne] at hclosed
      exact Option.some.inj hclosed.2
    rw [unclosed_eq_dropLast (by simpa using hclosed.1) (hends.2 hclosed.2),
      unclosed_eq_dropLast hclosed.1 hclosed.2, List.dropLast_reverse]
    exact (IsRotated.dropLast_tail hne hsame).symm.reverse
  · have hopen : ¬ (1 < l.reverse.length ∧ l.reverse.head? = l.reverse.getLast?) := by
      rwa [hends, List.length_reverse]
    rw [unclosed, if_neg hopen, unclosed, if_neg hclosed]

/-- A closed path that is followed the other way round has its corners the other way round. -/
theorem corners_reverse (l : List α) : corners l.reverse ~r (corners l).reverse := by
  unfold corners
  rw [destutter_reverse]
  exact unclosed_reverse _

end ImageOverlay
