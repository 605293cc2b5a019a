import ImageOverlay.Proofs.Toml.Words
import ImageOverlay.Settings.File

set_option autoImplicit false

/-!
# Documents of tables

A settings file is a list of tables, each a header and lines of keys and values. Read line by line,
a table that is written becomes the last table of the document (`Toml.LinesRead.table`). Every line
takes away at least one character, so the fuel is no matter: `Toml.LinesRead` says what the lines of
a text come to whenever there is more fuel than text.
-/

namespace ImageOverlay.Toml

/-! ## Lines -/

/-- What the lines of a text make of the tables so far, whatever fuel there is. -/
def LinesRead (header : List String) (root : Members) (cs : List Char) (out : Members) : Prop :=
  ∀ fuel, cs.length < fuel → lines fuel header root cs = some out

/-- A key that needs no quotes. -/
def IsBareKey (key : String) : Prop := key.toList ≠ [] ∧ key.toList.all isKeyChar = true

instance (key : String) : Decidable (IsBareKey key) := inferInstanceAs (Decidable (_ ∧ _))

/-- A text that is the value `p` at the end of a line, and begins with no blank. -/
structure Writes (v : List Char) (p : Parsed) : Prop where
  read : ∀ fuel depth rest, value (fuel + 1) depth (v ++ '\n' :: rest) = some (p, '\n' :: rest)
  notBlank : ∀ rest, skip (v ++ '\n' :: rest) = v ++ '\n' :: rest

theorem Writes.word {w : List Char} {p : Parsed} (hnil : w ≠ [])
    (hw : ∀ c ∈ w, isWordChar c = true) (hread : ofWord? w = some p) : Writes w p := by
  refine ⟨value_word hnil hw hread, ?_⟩
  intro rest
  obtain ⟨c, w, rfl⟩ := List.exists_cons_of_ne_nil hnil
  have hc := hw c List.mem_cons_self
  have hblank : (c == ' ' || c == '\t') = false := by
    by_contra h
    simp only [Bool.not_eq_false, Bool.or_eq_true, beq_iff_eq] at h
    rcases h with rfl | rfl <;> cases hc
  rw [List.cons_append, skip, List.dropWhile_cons_of_neg (by simp [hblank])]

theorem Writes.quoted (s : String) : Writes (quoted s.toList) (.text (some s)) := by
  refine ⟨value_quoted s, ?_⟩
  intro rest
  obtain ⟨c, cs, hquoted, hc⟩ := quoted_cons s.toList ('\n' :: rest)
  rw [hquoted]
  rcases hc with rfl | rfl <;> rfl

section

variable {header : List String} {root out : Members} {cs : List Char}

/-- The end of the text. -/
theorem LinesRead.nil (header : List String) (root : Members) : LinesRead header root [] root := by
  intro fuel hfuel
  cases fuel with
  | zero => cases hfuel
  | succ fuel => rfl

/-- An empty line. -/
theorem LinesRead.blank (h : LinesRead header root cs out) :
    LinesRead header root ('\n' :: cs) out := by
  intro fuel hfuel
  cases fuel with
  | zero => cases hfuel
  | succ fuel =>
      have hread := h (fuel + 1) (Nat.lt_of_succ_lt hfuel)
      rw [lines] at hread ⊢
      rw [gap]
      exact hread

theorem ne_of_isKeyChar {c d : Char} (hc : isKeyChar c = true) (hd : isKeyChar d = false) :
    c ≠ d := by
  rintro rfl
  rw [hc] at hd
  cases hd

theorem skip_keyChar {c : Char} (hc : isKeyChar c = true) (cs : List Char) :
    skip (c :: cs) = c :: cs := by
  simp [skip, ne_of_isKeyChar hc (show isKeyChar ' ' = false from rfl),
    ne_of_isKeyChar hc (show isKeyChar '\t' = false from rfl)]

theorem gap_keyChar {c : Char} (hc : isKeyChar c = true) (cs : List Char) :
    gap false (c :: cs) = some (c :: cs) := by
  have hline := ne_of_isKeyChar hc (show isKeyChar '\n' = false from rfl)
  have hreturn := ne_of_isKeyChar hc (show isKeyChar '\r' = false from rfl)
  have hspace := ne_of_isKeyChar hc (show isKeyChar ' ' = false from rfl)
  have htab := ne_of_isKeyChar hc (show isKeyChar '\t' = false from rfl)
  have hhash := ne_of_isKeyChar hc (show isKeyChar '#' = false from rfl)
  rw [gap]
  · simp [hspace, htab, hhash]
  · exact hline
  · exact fun _ heq => absurd heq hreturn

theorem IsBareKey.cons {key : String} (hkey : IsBareKey key) :
    ∃ c k, key.toList = c :: k ∧ isKeyChar c = true := by
  obtain ⟨c, k, hlist⟩ := List.exists_cons_of_ne_nil hkey.1
  exact ⟨c, k, hlist, List.all_eq_true.1 hkey.2 c (by simp [hlist])⟩

/-- A key without quotes, and what follows it. -/
theorem path?_bareKey {key : String} (hkey : IsBareKey key) (limit : ℕ)
    (hcs : ∀ c ∈ cs.head?, isKeyChar c = false) (hdot : (skip cs).head? ≠ some '.') :
    path? (limit + 1) (key.toList ++ cs) = some ([key], skip cs) := by
  obtain ⟨c, k, hlist, hc⟩ := hkey.cons
  have hread : key? (key.toList ++ cs) = some (key, cs) := by
    have hall := List.all_eq_true.1 hkey.2
    have htake := Text.takeWhile_append hall hcs
    have hdrop := Text.dropWhile_append hall hcs
    have hofList : String.ofList key.toList = key := String.ofList_toList
    rw [hlist] at htake hdrop hofList ⊢
    rw [List.cons_append] at htake hdrop ⊢
    unfold key?
    split
    · rename_i heq
      exact absurd (List.cons.inj heq).1 (ne_of_isKeyChar hc rfl)
    · rename_i heq
      exact absurd (List.cons.inj heq).1 (ne_of_isKeyChar hc rfl)
    · simp only [htake, hdrop, hofList]
      rfl
  have hskip : skip (key.toList ++ cs) = key.toList ++ cs := by
    rw [hlist]
    exact skip_keyChar hc _
  rw [path?, hskip, hread]
  simp only
  split
  · rename_i heq
    rw [heq] at hdot
    exact absurd rfl hdot
  · rfl

/-- A line that gives a value. -/
theorem LinesRead.assigned {key : String} (hkey : IsBareKey key) {v : List Char} {p : Parsed}
    (hv : Writes v p) {root' : Members} (hassign : assign header [key] p root = some root')
    (h : LinesRead header root' cs out) :
    LinesRead header root (Settings.field key v ++ cs) out := by
  have hfield : Settings.field key v ++ cs
      = key.toList ++ (' ' :: '=' :: ' ' :: (v ++ '\n' :: cs)) := by
    simp [Settings.field]
  have hpath : assigned? (some ∘ skip) (Settings.field key v ++ cs)
      = some ([key], v ++ '\n' :: cs) := by
    have hhead : ∀ c ∈ (' ' :: '=' :: ' ' :: (v ++ '\n' :: cs)).head?, isKeyChar c = false := by
      rintro c ⟨⟩
      rfl
    rw [hfield, assigned?, keyLimit, path?_bareKey hkey _ hhead nofun]
    show some ([key], skip (v ++ '\n' :: cs)) = _
    rw [hv.notBlank]
  obtain ⟨c, k, hlist, hc⟩ := hkey.cons
  intro fuel hfuel
  cases fuel with
  | zero => cases hfuel
  | succ fuel =>
      have hrest := h fuel (by simp [hfield, hlist] at hfuel; omega)
      obtain ⟨more, htext⟩ : ∃ more, Settings.field key v ++ cs = c :: more := by
        rw [hfield, hlist]
        exact ⟨_, rfl⟩
      rw [htext] at hpath ⊢
      rw [lines, gap_keyChar hc]
      -- A line that begins with a character of a key is neither empty nor a header.
      split
      · rename_i heq
        cases heq
      · rename_i heq
        cases heq
      · rename_i heq
        exact absurd (List.cons.inj (Option.some.inj heq)).1 (ne_of_isKeyChar hc rfl)
      · rename_i heq
        exact absurd (List.cons.inj (Option.some.inj heq)).1 (ne_of_isKeyChar hc rfl)
      · rename_i heq
        obtain rfl := Option.some.inj heq
        simp only [hpath, hv.read, hassign, Option.bind_eq_bind, Option.bind_some]
        exact hrest

/-- The line of a header. -/
theorem LinesRead.opened {name : String} (hname : IsBareKey name) {root' : Members}
    (hopen : openTable [name] root = some root') (h : LinesRead [name] root' cs out) :
    LinesRead header root ('[' :: (name.toList ++ ']' :: '\n' :: cs)) out := by
  have hheader : headerRest? [']'] (name.toList ++ ']' :: '\n' :: cs) = some ([name], cs) := by
    have hhead : ∀ c ∈ (']' :: '\n' :: cs).head?, isKeyChar c = false := by
      rintro c ⟨⟩
      rfl
    rw [headerRest?, keyLimit, path?_bareKey hname _ hhead nofun]
    rfl
  obtain ⟨c, k, hlist, hc⟩ := hname.cons
  intro fuel hfuel
  cases fuel with
  | zero => cases hfuel
  | succ fuel =>
      have hrest := h fuel (by simp [hlist] at hfuel; omega)
      have hbracket : c ≠ '[' := ne_of_isKeyChar hc rfl
      have hgap : gap false ('[' :: (c :: k ++ ']' :: '\n' :: cs))
          = some ('[' :: (c :: k ++ ']' :: '\n' :: cs)) := rfl
      rw [hlist] at hheader ⊢
      rw [lines, hgap]
      -- The name does not begin with a bracket, so the header is that of a single table.
      split
      · rename_i heq
        cases heq
      · rename_i heq
        cases heq
      · rename_i heq
        have heq' := (List.cons.inj (Option.some.inj heq)).2
        exact absurd (List.cons.inj heq').1 hbracket
      · rename_i heq
        obtain rfl := (List.cons.inj (Option.some.inj heq)).2
        simp only [hheader, hopen, Option.bind_eq_bind, Option.bind_some]
        exact hrest
      · rename_i hother heq
        obtain rfl := Option.some.inj heq
        exact absurd rfl (hother _)

end

/-! ## Tables -/

theorem replaceMember_of_lookup {ms : Members} {key : String} (h : ms.lookup key = none)
    (node : Node) : replaceMember key node ms = ms := by
  refine (List.map_congr_left ?_).trans (List.map_id ms)
  rintro ⟨k, n⟩ hm
  have hne : key ≠ k := by simpa using List.lookup_eq_none_iff.1 h (k, n) hm
  exact if_neg hne.symm

theorem lookup_last {root : Members} {name : String} (h : root.lookup name = none) (node : Node) :
    (root ++ [(name, node)]).lookup name = some node := by
  rw [List.lookup_append, h]
  simp

section

variable {root ms : Members} {name key : String}

/-- Below a header the table that was opened last is changed. -/
theorem changeAt_last (hname : root.lookup name = none) (origin : Origin)
    (change : Origin → Members → Option (Origin × Members)) :
    changeAt false change [name] origin (root ++ [(name, .table .header ms)])
      = (change .header ms).map fun (o, inner) => (origin, root ++ [(name, .table o inner)]) := by
  have hreplace : ∀ node, replaceMember name node (root ++ [(name, .table .header ms)])
      = root ++ [(name, node)] := by
    intro node
    rw [replaceMember, List.map_append]
    exact congrArg₂ _ (replaceMember_of_lookup hname node) (by simp)
  rw [changeAt, lookup_last hname]
  simp only [Bool.false_eq_true, false_and, if_false, changeAt, hreplace]
  cases change .header ms <;> rfl

theorem assign_last (hname : root.lookup name = none) (hkey : ms.lookup key = none) (v : Parsed) :
    assign [name] [key] v (root ++ [(name, .table .header ms)])
      = some (root ++ [(name, .table .header (ms ++ [(key, .leaf v)]))]) := by
  have hadd : addMember false key v .header ms = some (.header, ms ++ [(key, .leaf v)]) := by
    simp [addMember, hkey]
  unfold assign
  simp only [List.getLast?_singleton, List.dropLast_singleton, Option.bind_eq_bind,
    Option.bind_some]
  rw [changeAt_last hname, changeAt]
  simp [hadd]

theorem openTable_new (hname : root.lookup name = none) :
    openTable [name] root = some (root ++ [(name, .table .header [])]) := by
  unfold openTable
  simp [changeAt, hname]

end

/-- A line of a table: its key, its text and its value. -/
structure Line where
  key : String
  text : List Char
  value : Parsed

/-- A line that is read as what it stands for. -/
structure Line.Proper (l : Line) : Prop where
  key : IsBareKey l.key
  writes : Writes l.text l.value

/-- Lines as they are written. -/
def fieldsOf (ls : List Line) : List (String × List Char) := ls.map fun l => (l.key, l.text)

/-- Lines as members of a table. -/
def membersOf (ls : List Line) : Members := ls.map fun l => (l.key, .leaf l.value)

variable {root out : Members} {cs : List Char} {name : String}

/-- Lines add their members to the table that was opened last. -/
theorem LinesRead.fields {ls : List Line} (hls : ∀ l ∈ ls, l.Proper)
    (hnodup : (ls.map Line.key).Nodup) (hname : root.lookup name = none) {ms : Members}
    (hms : ∀ l ∈ ls, ms.lookup l.key = none)
    (h : LinesRead [name] (root ++ [(name, .table .header (ms ++ membersOf ls))]) cs out) :
    LinesRead [name] (root ++ [(name, .table .header ms)])
      ((fieldsOf ls).flatMap (fun (key, v) => Settings.field key v) ++ cs) out := by
  induction ls generalizing ms with
  | nil => simpa [membersOf, fieldsOf] using h
  | cons l ls ih =>
      obtain ⟨hl, hls⟩ := List.forall_mem_cons.1 hls
      obtain ⟨hkey, hms⟩ := List.forall_mem_cons.1 hms
      rw [List.map_cons, List.nodup_cons] at hnodup
      have hrest := @ih hls hnodup.2 (ms ++ [(l.key, .leaf l.value)]) ?_
        (by simpa [membersOf] using h)
      · simpa [fieldsOf] using hrest.assigned hl.key hl.writes (assign_last hname hkey l.value)
      · intro l' hl'
        have hne : l'.key ≠ l.key := by
          intro heq
          exact hnodup.1 (heq ▸ List.mem_map_of_mem hl')
        rw [List.lookup_append, hms l' hl']
        simp [hne]

/-- **A table that is written is read.** -/
theorem LinesRead.table {ls : List Line} (hls : ∀ l ∈ ls, l.Proper)
    (hnodup : (ls.map Line.key).Nodup) (hbare : IsBareKey name) (hname : root.lookup name = none)
    {header : List String}
    (h : LinesRead [name] (root ++ [(name, .table .header (membersOf ls))]) cs out) :
    LinesRead header root (Settings.tableText name (fieldsOf ls) ++ cs) out := by
  have hfields := @LinesRead.fields root out cs name ls hls hnodup hname [] (fun _ _ => rfl) h
  have hopened := @LinesRead.opened header _ _ _ _ hbare _ (openTable_new hname) hfields
  simpa [Settings.tableText] using hopened

/-- A document without a mark is what its lines make of no tables at all. -/
theorem read_of_linesRead {c : Char} (hc : c ≠ '\ufeff') (h : LinesRead [] [] (c :: cs) out) :
    read (c :: cs) = some (.object (parsedMembers out)) := by
  have hmark : dropMark (c :: cs) = c :: cs := by
    unfold dropMark
    split
    · rename_i heq
      exact absurd (List.cons.inj heq).1 hc
    · rfl
  unfold read
  simp only [hmark]
  rw [h _ (Nat.lt_succ_self _), Option.map_some]

end ImageOverlay.Toml
