import ImageOverlay.Proofs.Convert.Direction
import ImageOverlay.Proofs.Convert.Export

set_option autoImplicit false

/-!
# The runs of a drawn line

Where the pointer rests while a line is drawn, the path has equal vertices one after the other. A
path of finite vertices falls into maximal runs of numerically equal ones (`Runs`), and what is left
of it when a line is made of it is the first vertex of each run, the vertex as it was drawn
(`runs_collapse`).

So the number of vertices is the number of runs. It is two or more exactly if two vertices of the
path differ, wherever in the path they are (`two_le_length_collapse`), and otherwise it only says
whether there was a vertex at all (`length_collapse`). `convert_line_runs` puts this together, and
adds how a line meets the other ways to get at its vertices: converting them a second time, and
drawing the path backwards. Backwards, a run is kept by its other end, so the vertices are the same
up to the signs of zeros.
-/

namespace ImageOverlay

open List

variable {p q : Position} {ps run : List Position} {runs : List (List Position)}

namespace Convert

/-- The maximal runs of equal vertices that make up a path. -/
structure Runs (ps : List Position) (runs : List (List Position)) : Prop where
  joined : runs.flatten = ps
  inhabited : [] ∉ runs
  alike : ∀ run ∈ runs, ∀ p ∈ run, ∀ q ∈ run, p.equal q = true
  apart : runs.IsChain fun run next => ∀ p ∈ run, ∀ q ∈ next, p.equal q = false

/-- Two vertices of a path are at different places. -/
def Varied (ps : List Position) : Prop := ∃ p ∈ ps, ∃ q ∈ ps, p.equal q = false

/-- A path and what is left of it when each run becomes its first vertex. -/
structure Collapsed (ps vs : List Position) : Prop where
  heads : ∃ runs, Runs ps runs ∧ Forall₂ (fun run v => run.head? = some v) runs vs
  apart : vs.IsChain fun p q => p.equal q = false
  order : vs.Sublist ps
  first : vs.head? = ps.head?
  last : ∀ q ∈ ps.getLast?, ∃ p ∈ vs.getLast?, p.equal q = true

/-! ## Runs, from the end of the path to its beginning -/

theorem Runs.mem (hruns : Runs ps runs) (hrun : run ∈ runs) (hp : p ∈ run) : p ∈ ps := by
  rw [← hruns.joined]
  exact List.mem_flatten_of_mem hrun hp

/-- A vertex that differs from the next one is a run of its own. -/
theorem Runs.start (h : ∀ r ∈ p :: q :: ps, r.Storable)
    (hruns : Runs (q :: ps) ((q :: run) :: runs)) (hpq : q.equal p = false) :
    Runs (p :: q :: ps) ([p] :: (q :: run) :: runs) := by
  obtain ⟨hp, hrest⟩ := List.forall_mem_cons.1 h
  have hq : q.Storable := hrest q List.mem_cons_self
  refine ⟨?_, ?_, ?_, ?_⟩
  · rw [List.flatten_cons, hruns.joined, List.singleton_append]
  · simpa using hruns.inhabited
  · refine List.forall_mem_cons.2 ⟨fun a ha b hb => ?_, hruns.alike⟩
    rw [List.mem_singleton.1 ha, List.mem_singleton.1 hb]
    exact Position.equal_self hp
  · refine List.isChain_cons_cons.2 ⟨fun a ha b hb => ?_, hruns.apart⟩
    rw [List.mem_singleton.1 ha]
    have hb' : b.Storable := hrest b (hruns.mem List.mem_cons_self hb)
    have hsame : b.equal q = true := hruns.alike _ List.mem_cons_self b hb q List.mem_cons_self
    rw [Position.equal_comm hp hb', Position.equal_congr hb' hq hp hsame, hpq]

/-- A vertex that equals the first one of the next run joins it. -/
theorem Runs.join (h : ∀ r ∈ p :: q :: ps, r.Storable)
    (hruns : Runs (p :: ps) ((p :: run) :: runs)) (hpq : q.equal p = true) :
    Runs (p :: q :: ps) ((p :: q :: run) :: runs) := by
  obtain ⟨hp, hq, hps⟩ : p.Storable ∧ q.Storable ∧ ∀ r ∈ ps, r.Storable := by simpa using h
  have hkept : ∀ r ∈ p :: ps, r.Storable := List.forall_mem_cons.2 ⟨hp, hps⟩
  have htail : run ++ runs.flatten = ps := (List.cons.inj hruns.joined).2
  -- All vertices of the longer run equal its first one.
  have hhome : ∀ r ∈ p :: q :: run, r.Storable ∧ r.equal p = true := by
    intro r hr
    rcases List.mem_cons.1 hr with rfl | hr
    · exact ⟨hp, Position.equal_self hp⟩
    rcases List.mem_cons.1 hr with rfl | hr
    · exact ⟨hq, hpq⟩
    · have hr' : r ∈ p :: run := List.mem_cons_of_mem p hr
      exact ⟨hkept r (hruns.mem List.mem_cons_self hr'),
        hruns.alike _ List.mem_cons_self r hr' p List.mem_cons_self⟩
  refine ⟨?_, ?_, ?_, ?_⟩
  · rw [List.flatten_cons, List.cons_append, List.cons_append, htail]
  · simpa using hruns.inhabited
  · refine List.forall_mem_cons.2 ⟨fun a ha b hb => ?_, (List.forall_mem_cons.1 hruns.alike).2⟩
    obtain ⟨ha, hap⟩ := hhome a ha
    obtain ⟨hb, hbp⟩ := hhome b hb
    rw [Position.equal_congr ha hp hb hap, Position.equal_comm hp hb, hbp]
  · obtain ⟨hnext, hothers⟩ := List.isChain_cons.1 hruns.apart
    refine List.isChain_cons.2 ⟨fun next hmem a ha b hb => ?_, hothers⟩
    obtain ⟨ha, hap⟩ := hhome a ha
    have hb' : b.Storable :=
      hkept b (hruns.mem (List.mem_cons_of_mem _ (List.mem_of_mem_head? hmem)) hb)
    rw [Position.equal_congr ha hp hb' hap]
    exact hnext next hmem p List.mem_cons_self b hb

/-- By induction on the path behind the vertex that was kept last. -/
theorem runs_collapseFrom (h : ∀ r ∈ p :: ps, r.Storable) :
    ∃ run runs, Runs (p :: ps) ((p :: run) :: runs) ∧
      Forall₂ (fun run v => run.head? = some v) runs (collapseFrom p ps) := by
  induction ps generalizing p with
  | nil =>
      refine ⟨[], [], ⟨rfl, by simp, ?_, .singleton _⟩, .nil⟩
      have hself : p.equal p = true := Position.equal_self (h p List.mem_cons_self)
      simpa using hself
  | cons q ps ih =>
      obtain ⟨hp, hrest⟩ := List.forall_mem_cons.1 h
      by_cases hpq : q.equal p = true
      · have hkept : ∀ r ∈ p :: ps, r.Storable :=
          List.forall_mem_cons.2 ⟨hp, fun r hr => hrest r (List.mem_cons_of_mem q hr)⟩
        obtain ⟨run, runs, hruns, hheads⟩ := ih hkept
        refine ⟨q :: run, runs, hruns.join h hpq, ?_⟩
        rw [collapseFrom, if_pos (show (q.x == p.x && q.y == p.y) = true from hpq)]
        exact hheads
      · obtain ⟨run, runs, hruns, hheads⟩ := ih hrest
        refine ⟨[], (q :: run) :: runs, hruns.start h (Bool.eq_false_iff.2 hpq), ?_⟩
        rw [collapseFrom, if_neg (show ¬ (q.x == p.x && q.y == p.y) = true from hpq)]
        exact .cons rfl hheads

/-- The vertices that are left are the first ones of the runs. -/
theorem runs_collapse (h : ∀ p ∈ ps, p.Storable) :
    ∃ runs, Runs ps runs ∧ Forall₂ (fun run v => run.head? = some v) runs (collapse ps) := by
  cases ps with
  | nil => exact ⟨[], ⟨rfl, List.not_mem_nil, by simp, .nil⟩, .nil⟩
  | cons p ps =>
      obtain ⟨run, runs, hruns, hheads⟩ := runs_collapseFrom h
      exact ⟨(p :: run) :: runs, hruns, .cons rfl hheads⟩

/-! ## What is left of a path -/

theorem collapse_storable (h : ∀ p ∈ ps, p.Storable) : ∀ p ∈ collapse ps, p.Storable :=
  fun p hp => h p ((collapse_sublist ps).subset hp)

theorem reverse_storable (h : ∀ p ∈ ps, p.Storable) : ∀ p ∈ ps.reverse, p.Storable :=
  fun p hp => h p (List.mem_reverse.1 hp)

theorem isChain_collapse (h : ∀ p ∈ ps, p.Storable) :
    (collapse ps).IsChain fun p q => p.equal q = false := by
  rw [isChain_iff_places (collapse_storable h), places_collapse h]
  exact List.isChain_destutter _ _

theorem head?_collapse (ps : List Position) : (collapse ps).head? = ps.head? := by
  cases ps with
  | nil => rfl
  | cons p ps => rfl

/-- The last vertex that is kept is where the path ends. -/
theorem exists_getLast?_collapse (h : ∀ p ∈ ps, p.Storable) :
    ∀ q ∈ ps.getLast?, ∃ p ∈ (collapse ps).getLast?, p.equal q = true := by
  intro q hq
  have hplaces : (collapse ps).getLast?.map Position.place = some q.place := by
    rw [← List.getLast?_map, places_collapse h, getLast?_destutter, List.getLast?_map,
      Option.mem_def.1 hq, Option.map_some]
  obtain ⟨p, hp, hpq⟩ := Option.map_eq_some_iff.1 hplaces
  have hp' : p.Storable := collapse_storable h p (List.mem_of_getLast? hp)
  exact ⟨p, hp, (Position.equal_iff_place hp' (h q (List.mem_of_getLast? hq))).2 hpq⟩

theorem collapsed_collapse (h : ∀ p ∈ ps, p.Storable) : Collapsed ps (collapse ps) where
  heads := runs_collapse h
  apart := isChain_collapse h
  order := collapse_sublist ps
  first := head?_collapse ps
  last := exists_getLast?_collapse h

/-- A path that is followed backwards leaves the same vertices backwards. -/
theorem samePlaces_collapse_reverse (h : ∀ p ∈ ps, p.Storable) :
    SamePlaces ((collapse ps.reverse).map flat) ((collapse ps).reverse.map flat) := by
  refine samePlaces_of_places (collapse_storable (reverse_storable h))
    (reverse_storable (collapse_storable h)) ?_
  rw [places_collapse (reverse_storable h), List.map_reverse, destutter_reverse, List.map_reverse,
    places_collapse h]

/-! ## How many vertices are left -/

/-- Different vertices are in different runs. -/
theorem Runs.two_le_length (hruns : Runs ps runs) (h : Varied ps) : 2 ≤ runs.length := by
  obtain ⟨p, hp, q, hq, hpq⟩ := h
  rw [← hruns.joined, List.mem_flatten] at hp hq
  obtain ⟨run, hrun, hp⟩ := hp
  obtain ⟨run', hrun', hq⟩ := hq
  by_contra hcount
  obtain ⟨only, honly⟩ : ∃ only, runs = [only] := by
    have := List.length_pos_of_mem hrun
    exact List.length_eq_one_iff.1 (by omega)
  rw [honly, List.mem_singleton] at hrun hrun'
  rw [hrun] at hp
  rw [hrun'] at hq
  have hsame : p.equal q = true := hruns.alike only (by simp [honly]) p hp q hq
  exact Bool.false_ne_true (hpq.symm.trans hsame)

theorem two_le_length_collapse (h : ∀ p ∈ ps, p.Storable) :
    2 ≤ (collapse ps).length ↔ Varied ps := by
  constructor
  · intro hcount
    obtain ⟨p, q, rest, hcollapse⟩ : ∃ p q rest, collapse ps = p :: q :: rest := by
      match hcollapse : collapse ps, hcount with
      | p :: q :: rest, _ => exact ⟨p, q, rest, rfl⟩
    have hchain := isChain_collapse h
    rw [hcollapse, List.isChain_cons_cons] at hchain
    have hmem : ∀ r ∈ p :: q :: rest, r ∈ ps := by
      rw [← hcollapse]
      exact fun r hr => (collapse_sublist ps).subset hr
    exact ⟨p, hmem p (by simp), q, hmem q (by simp), hchain.1⟩
  · intro hvaried
    obtain ⟨runs, hruns, hheads⟩ := runs_collapse h
    rw [← hheads.length_eq]
    exact hruns.two_le_length hvaried

theorem Varied.collapsed (h : ∀ p ∈ ps, p.Storable) (hvaried : Varied ps) :
    Varied (collapse ps) := by
  rw [← two_le_length_collapse (collapse_storable h), collapse_collapse]
  exact (two_le_length_collapse h).2 hvaried

theorem Varied.reversed (hvaried : Varied ps) : Varied ps.reverse := by
  obtain ⟨p, hp, q, hq, hpq⟩ := hvaried
  exact ⟨p, List.mem_reverse.2 hp, q, List.mem_reverse.2 hq, hpq⟩

/-- Without different vertices there is one run or none. -/
theorem length_collapse (h : ∀ p ∈ ps, p.Storable) (huniform : ¬ Varied ps) :
    (collapse ps).length = if ps.isEmpty then 0 else 1 := by
  rw [← two_le_length_collapse h] at huniform
  cases ps with
  | nil => rfl
  | cons p ps =>
      have hcount : (collapse (p :: ps)).length = (collapseFrom p ps).length + 1 := rfl
      rw [List.isEmpty_cons, if_neg Bool.false_ne_true]
      omega

/-! ## Lines -/

variable {d : Drawn} {e : Element}

theorem convert_of_varied (hd : d.kind = .line) (h : ∀ p ∈ d.coordinates, p.Storable)
    (hvaried : Varied d.coordinates) : convert d = .ok
      { id := d.id, shape := .polyline ((collapse d.coordinates).map flat) false,
        style := style d } := by
  refine convert_of_shape h ?_
  rw [hd]
  exact line_eq_ok.2 ⟨(two_le_length_collapse h).2 hvaried, rfl⟩

theorem convert_of_not_varied (hd : d.kind = .line) (h : ∀ p ∈ d.coordinates, p.Storable)
    (huniform : ¬ Varied d.coordinates) :
    convert d = .error (.vertexCount .line (if d.coordinates.isEmpty then 0 else 1)) := by
  have hcount : (collapse d.coordinates).length < 2 :=
    Nat.lt_of_not_le (mt (two_le_length_collapse h).1 huniform)
  have hline : line d.coordinates
      = .error (.vertexCount .line (collapse d.coordinates).length) := if_pos hcount
  rw [convert, if_pos (all_isFinite.2 h), hd, ← length_collapse h huniform]
  exact congrArg (Except.map _) hline

/-- Going from one zero to the other is no way at all. -/
example : convert { kind := .line, coordinates := [⟨0.0, 4.0⟩, ⟨-0.0, 4.0⟩] }
    = .error (.vertexCount .line 1) := by decide +kernel

/-- **A line is a path of which every run of equal vertices has become its first vertex.** It takes
two different vertices to make one. Its vertices are converted to the same line, and drawing the
path backwards gives them backwards. A path without different vertices is refused, and what is
counted is whether it has a vertex. -/
theorem convert_line_runs (hd : d.kind = .line) (h : ∀ p ∈ d.coordinates, p.Storable) :
    ((∃ e, convert d = .ok e) ↔ Varied d.coordinates) ∧
      (∀ e, convert d = .ok e → ∃ vs, e.shape = .polyline (vs.map flat) false ∧
        Collapsed d.coordinates vs ∧ convert { d with coordinates := vs } = .ok e ∧
        ∃ e' ws, convert { d with coordinates := d.coordinates.reverse } = .ok e' ∧
          e'.shape = .polyline ws false ∧ SamePlaces ws (vs.reverse.map flat)) ∧
      (¬ Varied d.coordinates →
        convert d = .error (.vertexCount .line (if d.coordinates.isEmpty then 0 else 1))) := by
  have hiff : (∃ e, convert d = .ok e) ↔ Varied d.coordinates := by
    refine ⟨fun ⟨e, he⟩ => ?_, fun hvaried => ⟨_, convert_of_varied hd h hvaried⟩⟩
    by_contra huniform
    rw [convert_of_not_varied hd h huniform] at he
    cases he
  refine ⟨hiff, fun e he => ?_, convert_of_not_varied hd h⟩
  have hvaried : Varied d.coordinates := hiff.1 ⟨e, he⟩
  obtain rfl : _ = e := Except.ok.inj ((convert_of_varied hd h hvaried).symm.trans he)
  refine ⟨collapse d.coordinates, rfl, collapsed_collapse h, ?_, ?_⟩
  · -- What is left of a path has no runs, so nothing more is dropped from it.
    have hagain := convert_of_varied (d := { d with coordinates := collapse d.coordinates }) hd
      (collapse_storable h) (hvaried.collapsed h)
    simp only [collapse_collapse] at hagain
    exact hagain
  · have hback := convert_of_varied (d := { d with coordinates := d.coordinates.reverse }) hd
      (reverse_storable h) hvaried.reversed
    exact ⟨_, _, hback, rfl, samePlaces_collapse_reverse h⟩

/-- A line with a run at its beginning, in its middle and at its end, the first two of vertices that
differ in the sign of a zero, and a place to which it comes back. -/
def haltingLine : Drawn where
  kind := .line
  coordinates := [⟨0.0, 0.0⟩, ⟨-0.0, 0.0⟩, ⟨4.0, -0.0⟩, ⟨4.0, 0.0⟩, ⟨0.0, 0.0⟩, ⟨4.0, 3.0⟩,
    ⟨4.0, 3.0⟩]

/-- What it is converted to. -/
def steadyLine : Element where
  shape := .polyline [⟨0.0, 0.0, 0.0⟩, ⟨4.0, -0.0, 0.0⟩, ⟨0.0, 0.0, 0.0⟩, ⟨4.0, 3.0, 0.0⟩] false

theorem convert_line_runs_of_halting : haltingLine.kind = .line ∧
    (∀ p ∈ haltingLine.coordinates, p.Storable) ∧ convert haltingLine = .ok steadyLine ∧
      ∃ vs, steadyLine.shape = .polyline (vs.map flat) false ∧
        Collapsed haltingLine.coordinates vs ∧
        convert { haltingLine with coordinates := vs } = .ok steadyLine ∧
        ∃ e' ws,
          convert { haltingLine with coordinates := haltingLine.coordinates.reverse } = .ok e' ∧
          e'.shape = .polyline ws false ∧ SamePlaces ws (vs.reverse.map flat) := by
  have hfinite : ∀ p ∈ haltingLine.coordinates, p.Storable := all_isFinite.1 (by decide +kernel)
  have h : convert haltingLine = .ok steadyLine := by decide +kernel
  exact ⟨rfl, hfinite, h, (convert_line_runs rfl hfinite).2.1 _ h⟩

end Convert

end ImageOverlay
