import ImageOverlay.Proofs.Json.Fields
import ImageOverlay.Proofs.Table
import Mathlib.Data.String.Basic

set_option autoImplicit false

/-!
# Members in the order of their keys

Where members are put one by one, each where the order of the keys wants it, no key occurs twice,
and a member is found under its key whatever else was put. Members that are in that order already
stay as they are when they are written and kept (`Json.Kept.object`).
-/

namespace ImageOverlay.Json

variable {ms : List (String × Json)} {key : String} {v : Json}

/-- Members in the order of their keys; no key occurs twice. -/
def Ordered (ms : List (String × Json)) : Prop := (ms.map (·.1)).Pairwise (· < ·)

@[simp]
theorem lookup_member? (k : String) (v : Option Json) (key : String) :
    (member? k v).lookup key = if key = k then v else none := by
  cases v with
  | none => simp [member?]
  | some v => simp [member?, Table.lookup_cons]

theorem keys_member? (k : String) (v : Option Json) : ((member? k v).map (·.1)).Sublist [k] := by
  cases v with
  | none => exact List.nil_sublist _
  | some v => exact List.Sublist.refl _

theorem lookup_insertMember (key : String) (v : Json) (ms : List (String × Json)) (key' : String) :
    (insertMember key v ms).lookup key' = if key' = key then some v else ms.lookup key' := by
  induction ms with
  | nil => rw [insertMember, Table.lookup_cons]
  | cons m ms ih =>
      obtain ⟨k, w⟩ := m
      by_cases hsame : key = k
      · rw [insertMember, if_pos hsame, Table.lookup_cons, Table.lookup_cons, hsame]
        split_ifs <;> rfl
      · rw [insertMember, if_neg hsame]
        by_cases hbefore : key < k
        · rw [if_pos hbefore, Table.lookup_cons]
        · rw [if_neg hbefore, Table.lookup_cons, Table.lookup_cons, ih]
          by_cases hkey : key' = k
          · rw [if_pos hkey, if_pos hkey, if_neg (by rw [hkey]; exact Ne.symm hsame)]
          · rw [if_neg hkey, if_neg hkey]

theorem mem_keys_insertMember {key' : String} (h : key' ∈ (insertMember key v ms).map (·.1)) :
    key' = key ∨ key' ∈ ms.map (·.1) := by
  rw [Table.mem_keys_iff] at h ⊢
  obtain ⟨w, hw⟩ := h
  rw [lookup_insertMember] at hw
  by_cases hkey : key' = key
  · exact .inl hkey
  · rw [if_neg hkey] at hw
    exact .inr ⟨w, hw⟩

theorem Ordered.insertMember (h : Ordered ms) (key : String) (v : Json) :
    Ordered (insertMember key v ms) := by
  induction ms with
  | nil => exact List.pairwise_singleton _ _
  | cons m ms ih =>
      obtain ⟨k, w⟩ := m
      obtain ⟨hfirst, hrest⟩ := List.pairwise_cons.1 h
      rw [Json.insertMember]
      split_ifs with hsame hbefore
      · exact List.pairwise_cons.2 ⟨hsame ▸ hfirst, hrest⟩
      · refine List.pairwise_cons.2 ⟨fun key' hkey' => ?_, h⟩
        rcases List.mem_cons.1 hkey' with rfl | hkey'
        · exact hbefore
        · exact hbefore.trans (hfirst key' hkey')
      · refine List.pairwise_cons.2 ⟨fun key' hkey' => ?_, ih hrest⟩
        rcases mem_keys_insertMember hkey' with rfl | hkey'
        · exact lt_of_le_of_ne (not_lt.1 hbefore) (Ne.symm hsame)
        · exact hfirst key' hkey'

theorem insertMember_of_forall_lt (h : ∀ m ∈ ms, m.1 < key) :
    Json.insertMember key v ms = ms ++ [(key, v)] := by
  induction ms with
  | nil => rfl
  | cons m ms ih =>
      obtain ⟨hfirst, hrest⟩ := List.forall_mem_cons.1 h
      rw [Json.insertMember, if_neg hfirst.ne', if_neg hfirst.not_gt, ih hrest, List.cons_append]

/-! ## Members that are kept -/

variable {reading : NumberReading} {depth : ℕ}

/-- A value that is kept as it was written, if so many levels are allowed. -/
def Kept (reading : NumberReading) (depth : ℕ) (v : Json) : Prop :=
  Parsed.keep? depth (v.parsed reading) = some v

theorem kept_real_iff {x : Float} : Kept reading depth (.real x) ↔ reading.Restores x := by
  unfold Kept NumberReading.Restores
  rw [parsed]
  cases reading.again? x with
  | none => simp [Parsed.keep?]
  | some n => cases n <;> simp [Parsed.keep?]

/-- The number a value is, if it is a double. -/
def real? : Json → Option Float
  | .real x => some x
  | _ => none

/-- A value without levels is kept unless it is a number that is not read back. -/
theorem Shallow.kept_iff (h : Shallow 0 v) :
    Kept reading depth v ↔ ∀ x ∈ v.real?, reading.Restores x := by
  cases h with
  | null | bool | str => exact iff_of_true rfl nofun
  | real _ x => simp [kept_real_iff, real?]

/-- Members in their order are kept one after another. -/
theorem Ordered.keepMembers? {sorted : List (String × Json)} (hordered : Ordered (sorted ++ ms)) :
    Parsed.keepMembers? depth sorted (parsedMembers reading ms)
      = (ms.mapM fun m => (Parsed.keep? depth (m.2.parsed reading)).map (m.1, ·)).map
          (sorted ++ ·) := by
  induction ms generalizing sorted with
  | nil => simp [parsedMembers, Parsed.keepMembers?]
  | cons m ms ih =>
      obtain ⟨k, v⟩ := m
      -- The key comes after all the keys that are there already.
      have hlast : ∀ n ∈ sorted, n.1 < k := by
        intro n hn
        rw [Ordered, List.map_append, List.pairwise_append] at hordered
        exact hordered.2.2 n.1 (List.mem_map_of_mem hn) k (by simp)
      rw [parsedMembers, Parsed.keepMembers?, List.mapM_cons]
      cases Parsed.keep? depth (v.parsed reading) with
      | none => rfl
      | some w =>
          have hordered' : Ordered (sorted ++ [(k, w)] ++ ms) := by
            simpa [Ordered] using hordered
          simp only [Option.map_some, insertMember_of_forall_lt hlast, ih hordered']
          cases ms.mapM fun m => (Parsed.keep? depth (m.2.parsed reading)).map (m.1, ·) with
          | none => rfl
          | some ws => simp

/-- **An object in the order of its keys is kept if and only if its values are.** -/
theorem Ordered.kept_iff (hordered : Ordered ms) :
    Kept reading (depth + 1) (.obj ms) ↔ ∀ m ∈ ms, Kept reading depth m.2 := by
  have hordered : Ordered ([] ++ ms) := hordered
  rw [Kept, parsed, Parsed.keep?, if_neg (Nat.succ_ne_zero depth), Nat.add_sub_cancel,
    hordered.keepMembers?]
  simp only [List.nil_append, Option.map_id', Option.map_eq_some_iff, Json.obj.injEq,
    exists_eq_right, Decode.mapM_eq_some_self_iff]
  refine forall₂_congr fun m _ => ?_
  obtain ⟨k, v⟩ := m
  simp [Kept]

end ImageOverlay.Json
