import Mathlib.Data.List.Nodup

set_option autoImplicit false

/-!
# Tables

Layers, subscriptions, overlays and requests are all kept in lists of pairs of a key and a value,
and all of them are changed in the same few ways: a pair is added at the end, the pairs of a key
are taken out, or the value of a key is changed in place. What `List.lookup` finds afterwards is
said here once for all of them.
-/

namespace ImageOverlay.Table

variable {α β γ : Type} [BEq α] [LawfulBEq α] [DecidableEq α]

theorem lookup_cons (key k : α) (b : β) (es : List (α × β)) :
    ((k, b) :: es).lookup key = if key = k then some b else es.lookup key := by
  rw [List.lookup_cons]
  by_cases hk : key = k
  · simp [hk]
  · rw [beq_eq_false_iff_ne.2 hk, if_neg hk]

theorem lookup_concat {k : α} {es : List (α × β)} (hk : es.lookup k = none) (b : β) (key : α) :
    (es ++ [(k, b)]).lookup key = if key = k then some b else es.lookup key := by
  rw [List.lookup_append, lookup_cons]
  by_cases hkey : key = k
  · rw [if_pos hkey, if_pos hkey, hkey, hk]
    rfl
  · rw [if_neg hkey, if_neg hkey, List.lookup_nil, Option.or_none]

theorem lookup_filter_ne (k : α) (es : List (α × β)) (key : α) :
    (es.filter (·.1 ≠ k)).lookup key = if key = k then none else es.lookup key := by
  induction es with
  | nil => simp
  | cons e es ih =>
      obtain ⟨l, b⟩ := e
      rw [lookup_cons]
      by_cases hl : l = k
      · rw [List.filter_cons_of_neg (by simp [hl]), ih]
        by_cases hkey : key = k
        · simp [hkey]
        · simp [hkey, hl]
      · rw [List.filter_cons_of_pos (by simp [hl]), lookup_cons, ih]
        by_cases hkey : key = l
        · rw [if_pos hkey, if_pos hkey, if_neg (by rw [hkey]; exact hl)]
        · rw [if_neg hkey, if_neg hkey]

theorem lookup_map_if (k : α) (f : β → β) (es : List (α × β)) (key : α) :
    (es.map fun (l, b) => if l = k then (l, f b) else (l, b)).lookup key
      = if key = k then (es.lookup key).map f else es.lookup key := by
  induction es with
  | nil => simp
  | cons e es ih =>
      obtain ⟨l, b⟩ := e
      simp only [List.map_cons]
      by_cases hl : l = k
      · rw [if_pos hl, lookup_cons, lookup_cons, ih]
        by_cases hkey : key = l
        · simp [hkey, hl]
        · simp [hkey]
      · rw [if_neg hl, lookup_cons, lookup_cons, ih]
        by_cases hkey : key = l
        · rw [if_pos hkey, if_pos hkey, if_neg (by rw [hkey]; exact hl)]
        · rw [if_neg hkey, if_neg hkey]

theorem mem_keys_iff {es : List (α × β)} {key : α} :
    key ∈ es.map (·.1) ↔ ∃ b, es.lookup key = some b := by
  induction es with
  | nil => simp
  | cons e es ih =>
      obtain ⟨l, b⟩ := e
      rw [List.map_cons, List.mem_cons, ih, lookup_cons]
      by_cases hkey : key = l <;> simp [hkey]

theorem lookup_eq_none {es : List (α × β)} {key : α} :
    es.lookup key = none ↔ key ∉ es.map (·.1) := by
  rw [mem_keys_iff, Option.eq_none_iff_forall_ne_some, not_exists]

omit [DecidableEq α] in
theorem mem_of_lookup {es : List (α × β)} {key : α} {b : β} (h : es.lookup key = some b) :
    (key, b) ∈ es := by
  obtain ⟨xs, ys, hsplit, -⟩ := List.lookup_eq_some_iff.1 h
  rw [hsplit]
  exact List.mem_append_right _ List.mem_cons_self

/-- Where no key occurs twice, an entry is what its key is looked up as. -/
theorem lookup_of_mem {es : List (α × β)} (hnodup : (es.map (·.1)).Nodup) {key : α} {b : β}
    (hmem : (key, b) ∈ es) : es.lookup key = some b := by
  obtain ⟨c, hc⟩ := mem_keys_iff.1 (List.mem_map_of_mem (f := (·.1)) hmem)
  have hsame : (key, b) = (key, c) :=
    List.inj_on_of_nodup_map hnodup hmem (mem_of_lookup hc) rfl
  rw [hc, (Prod.mk.inj hsame).2]

omit [BEq α] [LawfulBEq α] in
/-- Where no key occurs twice, taking out the entries of a key takes out one entry. -/
theorem filter_ne_eq {f : γ → α} {xs ys : List γ} {c : γ}
    (h : ((xs ++ c :: ys).map f).Nodup) :
    (xs ++ c :: ys).filter (fun e => f e ≠ f c) = xs ++ ys := by
  rw [List.map_append, List.map_cons, List.nodup_append, List.nodup_cons] at h
  obtain ⟨-, ⟨hys, -⟩, hxs⟩ := h
  have hleft : xs.filter (fun e => f e ≠ f c) = xs := by
    rw [List.filter_eq_self]
    intro e he
    simpa using hxs (f e) (List.mem_map_of_mem he) (f c) List.mem_cons_self
  have hright : ys.filter (fun e => f e ≠ f c) = ys := by
    rw [List.filter_eq_self]
    intro e he
    have hne : f e ≠ f c := fun heq => hys (heq ▸ List.mem_map_of_mem he)
    simpa using hne
  rw [List.filter_append, List.filter_cons_of_neg (by simp), hleft, hright]

omit [BEq α] [LawfulBEq α] in
theorem filter_ne_self {xs ys : List α} {c : α} (h : (xs ++ c :: ys).Nodup) :
    (xs ++ c :: ys).filter (· ≠ c) = xs ++ ys :=
  filter_ne_eq (f := id) (by rwa [List.map_id])

end ImageOverlay.Table
