import ImageOverlay.Proofs.Json.Compact
import ImageOverlay.Proofs.Json.Finite

set_option autoImplicit false

/-!
# Decoders of values that were written

A decoder is asked for two things. It gives back a value whose text it reads (`Decode.Reads`), for
records by the one member each field finds (`Decode.field?_of_select`). And what it gives for a text
that was read is made of finite numbers (`Decode.Yields`). Both are said of the combinators once,
and follow for a record from its fields. What was written is also kept whole by whoever asks for
that, if it is not nested too deeply (`Json.Shallow.keep?`).
-/

namespace ImageOverlay

/-! ## Members by name -/

namespace Json

/-- The members of any of the names. -/
def select (names : List String) (ms : List (String × Json)) : List (String × Json) :=
  ms.filter fun m => names.contains m.1

variable {names : List String}

@[simp]
theorem select_nil : select names [] = [] := rfl

@[simp]
theorem select_cons (m : String × Json) (ms : List (String × Json)) :
    select names (m :: ms) = if names.contains m.1 then m :: select names ms else select names ms :=
  List.filter_cons

@[simp]
theorem select_append (ms ns : List (String × Json)) :
    select names (ms ++ ns) = select names ms ++ select names ns :=
  List.filter_append ..

@[simp]
theorem select_member? (k : String) (v : Option Json) :
    select names (member? k v) = if names.contains k then member? k v else [] := by
  cases v with
  | none => simp [member?]
  | some v => rw [member?, select_cons, select_nil]

end Json

namespace Decode

open Json

variable {reading : NumberReading}

/-- All keys are proper strings. -/
theorem properKeys_parsedMembers (ms : List (String × Json)) :
    properKeys (parsedMembers reading ms) = true := by
  rw [parsedMembers_eq]
  simp [properKeys]

theorem ofMembers_parsedMembers (names : List (List String)) (ms : List (String × Json)) :
    ofMembers names (parsedMembers reading ms)
      = names.mapM fun n => field? n (parsedMembers reading ms) :=
  if_pos (properKeys_parsedMembers ms)

/-- An object that was written is a record of any fields. -/
theorem fields_parsed (names : List (List String)) (ms : List (String × Json)) :
    fields names ((obj ms).parsed reading)
      = names.mapM fun n => field? n (parsedMembers reading ms) :=
  ofMembers_parsedMembers names ms

/-- A field finds the one member that has its name, if there is one. -/
theorem field?_of_select {names : List String} {ms : List (String × Json)} {k : String}
    {v : Option Json} (h : select names ms = member? k v) :
    field? names (parsedMembers reading ms) = some (v.map (parsed reading)) := by
  have hfilter : (parsedMembers reading ms).filter (fun m => names.any fun n => m.1 == some n)
      = (select names ms).map fun m => (some m.1, parsed reading m.2) := by
    rw [parsedMembers_eq, List.filter_map, select]
    congr 2
    funext m
    exact List.contains_eq_any_beq.symm
  unfold field?
  rw [hfilter, h]
  cases v <;> rfl

theorem field?_of_select_one {names : List String} {ms : List (String × Json)} {k : String}
    {v : Json} (h : select names ms = [(k, v)]) :
    field? names (parsedMembers reading ms) = some (some (v.parsed reading)) :=
  field?_of_select (v := some v) h

/-! ## Reading what was written -/

variable {α β : Type}

/-- A decoder gives back `a` from the value it was written as, which is never `null`. -/
structure Reads (reading : NumberReading) (d : Decoder α) (v : Json) (a : α) : Prop where
  read : d (v.parsed reading) = some a
  notNull : v.parsed reading ≠ .null

theorem Reads.string (s : String) : Reads reading string (.str s) s := ⟨rfl, nofun⟩

theorem Reads.bool (b : Bool) : Reads reading bool (.bool b) b := ⟨rfl, nofun⟩

/-- A double is read back if and only if its text says so. -/
theorem float_parsed_iff {x : Float} :
    float ((Json.real x).parsed reading) = some x ↔ reading.Restores x := by
  unfold NumberReading.Restores
  rw [parsed]
  cases hagain : reading.again? x with
  | none => simp [Decode.float]
  | some n =>
      cases n with
      | int n => exact absurd hagain (NumberReading.again?_ne_int n)
      | real y => simp [Decode.float]
      | tooLarge => simp [Decode.float]

theorem Reads.float {x : Float} (hx : reading.Restores x) : Reads reading float (.real x) x := by
  refine ⟨float_parsed_iff.2 hx, ?_⟩
  rw [parsed_real hx]
  nofun

theorem Reads.required {d : Decoder α} {v : Json} {a : α} (h : Reads reading d v a) :
    required d (some (v.parsed reading)) = some a := h.read

theorem Reads.orDefault {d : Decoder α} {v : Json} {a : α} (h : Reads reading d v a) (dflt : α) :
    orDefault dflt d (some (v.parsed reading)) = some a := h.read

/-- A value that may be missing. -/
theorem Reads.optional {d : Decoder α} {f : α → Json} {o : Option α}
    (h : ∀ a ∈ o, Reads reading d (f a) a) :
    optional d ((o.map f).map (parsed reading)) = some o := by
  cases o with
  | none => rfl
  | some a =>
      obtain ⟨hread, hnull⟩ := h a rfl
      show nullable d ((f a).parsed reading) = some (some a)
      unfold nullable
      split
      · exact absurd ‹_› hnull
      · rw [hread, Option.map_some]

/-- A string that may be missing. -/
theorem optional_string (o : Option String) :
    optional string ((o.map .str).map (parsed reading)) = some o :=
  Reads.optional fun s _ => Reads.string s

/-- Every item is what its list is made of again. -/
theorem mapM_eq_some_self_iff {f : α → Option α} {as : List α} :
    as.mapM f = some as ↔ ∀ a ∈ as, f a = some a := by
  induction as with
  | nil => simp
  | cons a as ih =>
      rw [List.mapM_cons, List.forall_mem_cons, ← ih]
      cases f a <;> cases as.mapM f <;> simp

/-- A list is read back if and only if its items are. -/
theorem list_parsed_iff {d : Decoder α} {f : α → Json} {as : List α} :
    list d ((arr (as.map f)).parsed reading) = some as
      ↔ ∀ a ∈ as, d ((f a).parsed reading) = some a := by
  rw [parsed, list, parsedItems_eq, List.map_map, List.mapM_map]
  exact mapM_eq_some_self_iff

theorem Reads.list {d : Decoder α} {f : α → Json} {as : List α}
    (h : ∀ a ∈ as, Reads reading d (f a) a) : Reads reading (list d) (.arr (as.map f)) as :=
  ⟨list_parsed_iff.2 fun a ha => (h a ha).read, nofun⟩

/-- A pair is read back if and only if its parts are. -/
theorem pair_parsed_iff {d : Decoder α} {v w : Json} {a b : α} :
    pair d ((arr [v, w]).parsed reading) = some (a, b)
      ↔ d (v.parsed reading) = some a ∧ d (w.parsed reading) = some b := by
  show (do return (← d (v.parsed reading), ← d (w.parsed reading)) : Option (α × α)) = some (a, b)
    ↔ _
  cases d (v.parsed reading) <;> cases d (w.parsed reading) <;> simp

theorem Reads.pair {d : Decoder α} {v w : Json} {a b : α} (ha : Reads reading d v a)
    (hb : Reads reading d w b) : Reads reading (pair d) (.arr [v, w]) (a, b) :=
  ⟨pair_parsed_iff.2 ⟨ha.read, hb.read⟩, nofun⟩

theorem Reads.triple {d : Decoder α} {u v w : Json} {a b c : α} (ha : Reads reading d u a)
    (hb : Reads reading d v b) (hc : Reads reading d w c) :
    Reads reading (triple d) (.arr [u, v, w]) (a, b, c) := by
  refine ⟨?_, nofun⟩
  show (do return (← d (u.parsed reading), ← d (v.parsed reading), ← d (w.parsed reading)) :
    Option (α × α × α)) = some (a, b, c)
  rw [ha.read, hb.read, hc.read]
  rfl

/-- **A decoder reads the text of what it gives back.** -/
theorem Reads.render {d : Decoder α} {v : Json} {a : α} (h : Reads reading d v a) :
    d.read v.render reading = some a := by
  rw [Decoder.read, read_render]
  exact h.read

/-! ## What is read from a text -/

/-- What a decoder gives, if the numbers it is given are finite. -/
def Yields (d : Decoder α) (P : α → Prop) : Prop :=
  ∀ (p : Parsed) (a : α), p.Finite → d p = some a → P a

/-- A field that is there holds finite numbers. -/
def Found (v : Option Parsed) : Prop := ∀ p ∈ v, p.Finite

theorem yields_float : Yields float fun x => x.isFinite = true := by
  intro p x hp hx
  cases hp with
  | number h => exact h x hx
  | null | bool | text | array | object => cases hx

variable {d : Decoder α} {P : α → Prop} {v : Option Parsed}

theorem Yields.map (h : Yields d P) {g : α → β} {Q : β → Prop} (hg : ∀ a, P a → Q (g a)) :
    Yields (fun p => (d p).map g) Q := by
  intro p b hp hb
  obtain ⟨a, ha, rfl⟩ := Option.map_eq_some_iff.1 hb
  exact hg a (h p a hp ha)

theorem Yields.required {a : α} (h : Yields d P) (hv : Found v) (ha : required d v = some a) :
    P a := by
  obtain ⟨p, rfl, hp⟩ := Option.bind_eq_some_iff.1 ha
  exact h p a (hv p rfl) hp

theorem Yields.orDefault {dflt a : α} (h : Yields d P) (hdflt : P dflt) (hv : Found v)
    (ha : orDefault dflt d v = some a) : P a := by
  cases v with
  | none =>
      obtain rfl := Option.some.inj ha
      exact hdflt
  | some p => exact h p a (hv p rfl) ha

theorem Yields.nullable (h : Yields d P) : Yields (nullable d) fun o => ∀ a ∈ o, P a := by
  intro p o hp ho
  unfold Decode.nullable at ho
  split at ho
  · obtain rfl := Option.some.inj ho
    nofun
  · obtain ⟨a, ha, rfl⟩ := Option.map_eq_some_iff.1 ho
    rintro _ ⟨⟩
    exact h p a hp ha

theorem Yields.optional {o : Option α} (h : Yields d P) (hv : Found v)
    (ho : optional d v = some o) : ∀ a ∈ o, P a :=
  h.nullable.orDefault (fun _ ha => by cases ha) hv ho

/-- Each of the results was made of something. -/
theorem exists_of_mem_mapM {f : α → Option β} {as : List α} {bs : List β}
    (h : as.mapM f = some bs) : ∀ b ∈ bs, ∃ a ∈ as, f a = some b := by
  induction as generalizing bs with
  | nil =>
      obtain rfl := Option.some.inj h
      nofun
  | cons a as ih =>
      simp only [List.mapM_cons, Option.bind_eq_bind, Option.bind_eq_some_iff] at h
      obtain ⟨b, hb, bs, hbs, hcons⟩ := h
      obtain rfl := Option.some.inj hcons
      rw [List.forall_mem_cons]
      refine ⟨⟨a, List.mem_cons_self, hb⟩, ?_⟩
      intro b' hb'
      obtain ⟨a', ha', hread⟩ := ih hbs b' hb'
      exact ⟨a', List.mem_cons_of_mem a ha', hread⟩

theorem Yields.list (h : Yields d P) : Yields (list d) fun as => ∀ a ∈ as, P a := by
  intro p as hp has a ha
  cases hp with
  | array hvs =>
      obtain ⟨v, hv, hread⟩ := exists_of_mem_mapM has a ha
      exact h v a (hvs v hv) hread
  | null | bool | text | number | object => cases has

theorem Yields.pair (h : Yields d P) : Yields (pair d) fun (a, b) => P a ∧ P b := by
  intro p ab hp hab
  unfold Decode.pair at hab
  split at hab
  · cases hp with
    | array hvs =>
        simp only [Option.bind_eq_bind, Option.bind_eq_some_iff] at hab
        obtain ⟨a, ha, b, hb, hpair⟩ := hab
        obtain rfl := Option.some.inj hpair
        exact ⟨h _ a (hvs _ (by simp)) ha, h _ b (hvs _ (by simp)) hb⟩
  · cases hab

theorem Yields.triple (h : Yields d P) : Yields (triple d) fun (a, b, c) => P a ∧ P b ∧ P c := by
  intro p abc hp habc
  unfold Decode.triple at habc
  split at habc
  · cases hp with
    | array hvs =>
        simp only [Option.bind_eq_bind, Option.bind_eq_some_iff] at habc
        obtain ⟨a, ha, b, hb, c, hc, htriple⟩ := habc
        obtain rfl := Option.some.inj htriple
        exact ⟨h _ a (hvs _ (by simp)) ha, h _ b (hvs _ (by simp)) hb,
          h _ c (hvs _ (by simp)) hc⟩
  · cases habc

/-- **What a decoder gives for a text is made of finite numbers.** -/
theorem Yields.of_read {text : String} {a : α} (h : Yields d P)
    (ha : d.read text reading = some a) : P a := by
  obtain ⟨p, hp, hread⟩ := Option.bind_eq_some_iff.1 ha
  exact h p a (.of_read hp) hread

/-! ## Fields of a text -/

theorem found_of_field? {names : List String} {ms : List (Option String × Parsed)}
    (hms : ∀ m ∈ ms, m.2.Finite) (h : field? names ms = some v) : Found v := by
  unfold field? at h
  split at h
  · obtain rfl := Option.some.inj h
    nofun
  · rename_i hfilter
    obtain rfl := Option.some.inj h
    rintro _ ⟨⟩
    exact hms (_, _) (List.mem_of_mem_filter (hfilter ▸ List.mem_singleton_self _))
  · cases h

theorem found_of_ofMembers {names : List (List String)} {ms : List (Option String × Parsed)}
    {vs : List (Option Parsed)} (hms : ∀ m ∈ ms, m.2.Finite) (h : ofMembers names ms = some vs) :
    ∀ v ∈ vs, Found v := by
  unfold ofMembers at h
  split at h
  · intro v hv
    obtain ⟨_, -, hread⟩ := exists_of_mem_mapM h v hv
    exact found_of_field? hms hread
  · cases h

theorem found_of_fields {names : List (List String)} {p : Parsed} {vs : List (Option Parsed)}
    (hp : p.Finite) (h : fields names p = some vs) : ∀ v ∈ vs, Found v := by
  unfold fields fieldsWith at h
  split at h
  · cases hp with
    | object hms => exact found_of_ofMembers hms h
  · split at h
    · cases h
    · obtain rfl := Option.some.inj h
      cases hp with
      | array hvs =>
          intro v hv
          rcases List.mem_append.1 hv with hv | hv
          · obtain ⟨p, hp, rfl⟩ := List.mem_map.1 (List.mem_of_mem_take hv)
            rintro _ ⟨⟩
            exact hvs p hp
          · rw [List.eq_of_mem_replicate hv]
            nofun
  · cases h

end Decode

/-! ## Values kept whole -/

namespace Json

open Parsed

variable {reading : NumberReading}

/-- A value without whole numbers, with no more than so many levels of arrays and objects. -/
inductive Shallow : ℕ → Json → Prop
  | null (n : ℕ) : Shallow n .null
  | bool (n : ℕ) (b : Bool) : Shallow n (.bool b)
  | real (n : ℕ) (x : Float) : Shallow n (.real x)
  | str (n : ℕ) (s : String) : Shallow n (.str s)
  | arr {n : ℕ} {vs : List Json} (h : ∀ v ∈ vs, Shallow n v) : Shallow (n + 1) (.arr vs)
  | obj {n : ℕ} {ms : List (String × Json)} (h : ∀ m ∈ ms, Shallow n m.2) :
      Shallow (n + 1) (.obj ms)

/-- The values of all members are such values. -/
def AllShallow (n : ℕ) (ms : List (String × Json)) : Prop := ∀ m ∈ ms, Shallow n m.2

@[simp]
theorem allShallow_nil (n : ℕ) : AllShallow n [] := nofun

@[simp]
theorem allShallow_cons {n : ℕ} {m : String × Json} {ms : List (String × Json)} :
    AllShallow n (m :: ms) ↔ Shallow n m.2 ∧ AllShallow n ms :=
  List.forall_mem_cons

@[simp]
theorem allShallow_append {n : ℕ} {ms ns : List (String × Json)} :
    AllShallow n (ms ++ ns) ↔ AllShallow n ms ∧ AllShallow n ns :=
  List.forall_mem_append

@[simp]
theorem allShallow_member? {n : ℕ} {k : String} {v : Option Json} :
    AllShallow n (member? k v) ↔ ∀ w ∈ v, Shallow n w := by
  cases v <;> simp [member?]

theorem keepItems?_parsedItems {depth : ℕ} {vs : List Json}
    (h : ∀ v ∈ vs, ∃ w, keep? depth (v.parsed reading) = some w) :
    ∃ ws, keepItems? depth (parsedItems reading vs) = some ws := by
  induction vs with
  | nil => exact ⟨[], rfl⟩
  | cons v vs ih =>
      obtain ⟨hv, hvs⟩ := List.forall_mem_cons.1 h
      obtain ⟨w, hw⟩ := hv
      obtain ⟨ws, hws⟩ := ih hvs
      exact ⟨w :: ws, by rw [parsedItems, keepItems?, hw, hws]⟩

theorem keepMembers?_parsedMembers {depth : ℕ} {ms : List (String × Json)}
    (h : ∀ m ∈ ms, ∃ w, keep? depth (m.2.parsed reading) = some w) (sorted : List (String × Json)) :
    ∃ ws, keepMembers? depth sorted (parsedMembers reading ms) = some ws := by
  induction ms generalizing sorted with
  | nil => exact ⟨sorted, rfl⟩
  | cons m ms ih =>
      obtain ⟨hm, hms⟩ := List.forall_mem_cons.1 h
      obtain ⟨w, hw⟩ := hm
      obtain ⟨ws, hws⟩ := ih hms (insertMember m.1 w sorted)
      refine ⟨ws, ?_⟩
      rw [parsedMembers, keepMembers?, hw]
      exact hws

/-- **A value that is nested no deeper than allowed is kept,** if its numbers are read back. -/
theorem Shallow.keep? (hreading : reading.Faithful) {n : ℕ} {v : Json} (h : Shallow n v)
    {depth : ℕ} (hdepth : n ≤ depth) :
    ∃ w, Parsed.keep? depth (v.parsed reading) = some w := by
  induction h generalizing depth with
  | null n => exact ⟨_, rfl⟩
  | bool n b => exact ⟨_, rfl⟩
  | real n x =>
      by_cases hx : x.isFinite = true
      · rw [parsed_real (hreading x hx)]
        exact ⟨_, rfl⟩
      · rw [parsed, NumberReading.again?_of_not_finite hx]
        exact ⟨_, rfl⟩
  | str n s => exact ⟨_, rfl⟩
  | @arr n vs _ ih =>
      obtain ⟨ws, hws⟩ := keepItems?_parsedItems fun v hv =>
        @ih v hv (depth - 1) (by omega)
      refine ⟨.arr ws, ?_⟩
      rw [parsed, Parsed.keep?, if_neg (by omega), hws, Option.map_some]
  | @obj n ms _ ih =>
      obtain ⟨ws, hws⟩ := keepMembers?_parsedMembers (fun m hm =>
        @ih m hm (depth - 1) (by omega)) []
      refine ⟨.obj ws, ?_⟩
      rw [parsed, Parsed.keep?, if_neg (by omega), hws, Option.map_some]

end Json

end ImageOverlay
