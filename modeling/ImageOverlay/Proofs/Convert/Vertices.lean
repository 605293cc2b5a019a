import ImageOverlay.Proofs.Annotation.Elements
import ImageOverlay.Proofs.Convert.Corners
import ImageOverlay.Proofs.Number.Equality
import ImageOverlay.Convert
import ImageOverlay.Annotation.Feature

set_option autoImplicit false

/-!
# The vertices of a drawn line and of a drawn ring

A conversion drops every vertex that is numerically equal to the one before it, and for a ring the
last one too if it equals the first. The `place` of a position is its coordinates without the sign
of a zero; finite positions are numerically equal if their places are equal
(`Position.equal_iff_place`). Seen through places, a line becomes its list without runs
(`places_collapse`) and a ring becomes the corners of the path (`places_ringOf`).

What a conversion gives is said once for each kind of shape (`point_eq_ok`, `line_eq_ok`,
`polygon_eq_ok`, `polygon_eq_vertexCount`) and once for all of them (`convert_eq_ok`,
`convert_of_shape`).
-/

namespace ImageOverlay

open List

/-! ## Places -/

variable {p q : Position} {ps rest : List Position}

/-- A position without the signs of zeros. -/
def Position.place (p : Position) : Float.Model.UnpackedFloat × Float.Model.UnpackedFloat :=
  (plain p.x, plain p.y)

/-- Finite positions are numerically equal if they are at one place. -/
theorem Position.equal_iff_place (hp : p.Storable) (hq : q.Storable) :
    p.equal q = true ↔ p.place = q.place := by
  unfold Position.equal Position.place
  rw [Bool.and_eq_true, beq_iff_plain_eq hp.x hq.x, beq_iff_plain_eq hp.y hq.y, Prod.mk.injEq]

theorem Position.equal_self (hp : p.Storable) : p.equal p = true :=
  (Position.equal_iff_place hp hp).2 rfl

theorem Position.equal_comm (hp : p.Storable) (hq : q.Storable) : p.equal q = q.equal p := by
  rw [Bool.eq_iff_iff, Position.equal_iff_place hp hq, Position.equal_iff_place hq hp, eq_comm]

/-- What is equal to a vertex differs from all that this one differs from. -/
theorem Position.equal_congr {r : Position} (hp : p.Storable) (hq : q.Storable) (hr : r.Storable)
    (h : p.equal q = true) : p.equal r = q.equal r := by
  have hplace : p.place = q.place := (Position.equal_iff_place hp hq).1 h
  rw [Bool.eq_iff_iff, Position.equal_iff_place hp hr, Position.equal_iff_place hq hr, hplace]

namespace Convert

theorem isFinite_iff : isFinite p = true ↔ p.Storable := by
  unfold isFinite
  rw [Bool.and_eq_true]
  exact ⟨fun h => ⟨h.1, h.2⟩, fun h => ⟨h.x, h.y⟩⟩

theorem all_isFinite : ps.all isFinite = true ↔ ∀ p ∈ ps, p.Storable := by
  rw [List.all_eq_true]
  exact forall₂_congr fun p _ => isFinite_iff

/-! ## Runs of equal vertices -/

theorem cons_collapseFrom (last : Position) (ps : List Position) :
    last :: collapseFrom last ps = ps.destutter' (fun p q => ¬ q.equal p = true) last := by
  induction ps generalizing last with
  | nil => rfl
  | cons p ps ih =>
      unfold collapseFrom List.destutter'
      by_cases h : p.equal last = true
      · rw [if_pos (show (p.x == last.x && p.y == last.y) = true from h), if_neg (not_not.2 h),
          ih last]
      · rw [if_neg (show ¬ (p.x == last.x && p.y == last.y) = true from h), if_pos h, ih p]

theorem collapse_eq_destutter (ps : List Position) :
    collapse ps = ps.destutter fun p q => ¬ q.equal p = true := by
  cases ps with
  | nil => rfl
  | cons p ps => exact cons_collapseFrom p ps

theorem collapse_sublist (ps : List Position) : (collapse ps).Sublist ps := by
  rw [collapse_eq_destutter]
  exact List.destutter_sublist _ ps

/-- In places, the vertices of a line have no two equal neighbours. -/
theorem places_collapse (h : ∀ p ∈ ps, p.Storable) :
    (collapse ps).map Position.place = (ps.map Position.place).destutter (· ≠ ·) := by
  rw [collapse_eq_destutter]
  refine List.map_destutter fun p hp q hq => ?_
  rw [Position.equal_iff_place (h q hq) (h p hp), ne_comm]

/-! ## Vertices of a ring -/

/-- The vertices a ring is made of. -/
def ringOf (ps : List Position) : List Position := dropClosing (collapse ps)

theorem dropClosing_sublist (ps : List Position) : (dropClosing ps).Sublist ps := by
  unfold dropClosing
  split
  · split
    · exact List.dropLast_sublist ps
    · exact .refl ps
  · exact .refl ps

theorem ringOf_sublist (ps : List Position) : (ringOf ps).Sublist ps :=
  (dropClosing_sublist _).trans (collapse_sublist ps)

theorem ringOf_storable (h : ∀ p ∈ ps, p.Storable) : ∀ p ∈ ringOf ps, p.Storable :=
  fun p hp => h p ((ringOf_sublist ps).subset hp)

theorem places_dropClosing (h : ∀ p ∈ ps, p.Storable) :
    (dropClosing ps).map Position.place = unclosed (ps.map Position.place) := by
  rcases List.eq_nil_or_concat' ps with rfl | ⟨init, last, hlast⟩
  · rfl
  obtain ⟨first, rest, hfirst⟩ : ∃ first rest, ps = first :: rest :=
    List.exists_cons_of_ne_nil (by simp [hlast])
  have hhead : ps.head? = some first := by rw [hfirst, List.head?_cons]
  have hend : ps.getLast? = some last := by rw [hlast, List.getLast?_concat]
  have hiff : first.equal last = true ↔ first.place = last.place :=
    Position.equal_iff_place (h first (by simp [hfirst])) (h last (by simp [hlast]))
  have hcondition : 1 < (ps.map Position.place).length ∧
      (ps.map Position.place).head? = (ps.map Position.place).getLast?
        ↔ 1 < ps.length ∧ first.equal last = true := by
    rw [List.length_map, List.head?_map, List.getLast?_map, hhead, hend, Option.map_some,
      Option.map_some, Option.some.injEq, hiff]
  have hdrop : dropClosing ps
      = if 1 < ps.length ∧ first.equal last = true then ps.dropLast else ps := by
    unfold dropClosing
    rw [hhead, hend]
    rfl
  unfold unclosed
  rw [hdrop]
  by_cases hclosed : 1 < ps.length ∧ first.equal last = true
  · rw [if_pos hclosed, if_pos (hcondition.2 hclosed), List.map_dropLast]
  · rw [if_neg hclosed, if_neg (mt hcondition.1 hclosed)]

/-- In places, the vertices of a ring are the corners of the path. -/
theorem places_ringOf (h : ∀ p ∈ ps, p.Storable) :
    (ringOf ps).map Position.place = corners (ps.map Position.place) := by
  unfold ringOf corners
  rw [places_dropClosing fun p hp => h p ((collapse_sublist ps).subset hp), places_collapse h]

theorem isChain_iff_places (h : ∀ p ∈ ps, p.Storable) :
    ps.IsChain (fun p q => p.equal q = false) ↔ (ps.map Position.place).IsChain (· ≠ ·) := by
  rw [List.isChain_map]
  refine List.IsChain.iff_of_mem_imp fun p q hp hq => ?_
  rw [← Bool.not_eq_true, Position.equal_iff_place (h p hp) (h q hq)]

/-- No two neighbours of a ring are equal, also not the last vertex and the first. -/
theorem isChain_ringOf (h : ∀ p ∈ ps, p.Storable) (hring : ringOf ps = p :: rest)
    (hne : rest ≠ []) : (p :: (rest ++ [p])).IsChain fun p q => p.equal q = false := by
  have hmem : ∀ q ∈ p :: rest, q.Storable := hring ▸ ringOf_storable h
  rw [isChain_iff_places (forall_mem_closed hmem), List.map_cons, List.map_append]
  -- The places of the ring are what is left of a list without runs.
  refine isChain_unclosed (List.isChain_destutter _ (ps.map Position.place)) ?_ (by simpa using hne)
  change corners (ps.map Position.place) = _
  rw [← places_ringOf h, hring]
  rfl

/-! ## What a conversion gives -/

variable {d : Drawn} {e : Element} {s : Shape} {n : ℕ}

theorem point_eq_ok : point ps = .ok s ↔ ∃ p, ps = [p] ∧ s = .point (flat p) := by
  unfold point
  split
  · simp [eq_comm]
  · rename_i hps
    exact ⟨nofun, fun ⟨p, hp, _⟩ => absurd hp (hps p)⟩

theorem line_eq_ok :
    line ps = .ok s ↔ 2 ≤ (collapse ps).length ∧ s = .polyline ((collapse ps).map flat) false := by
  unfold line
  by_cases hcount : (collapse ps).length < 2
  · simp only [hcount, if_true]
    exact ⟨nofun, fun h => absurd h.1 (by omega)⟩
  · simp only [hcount, if_false, Except.ok.injEq]
    exact ⟨fun h => ⟨by omega, h.symm⟩, fun h => h.2.symm⟩

theorem polygon_eq (ps : List Position) : polygon ps =
    if (ringOf ps).length < 3 then .error (.vertexCount .polygon (ringOf ps).length)
    else if area (ringOf ps) == 0.0 then .error (.zeroExtent .polygon)
    else .ok (.polyline ((ringOf ps).map flat) true) := rfl

theorem polygon_eq_ok : polygon ps = .ok s ↔ 3 ≤ (ringOf ps).length ∧
    (area (ringOf ps) == 0.0) = false ∧ s = .polyline ((ringOf ps).map flat) true := by
  rw [polygon_eq]
  by_cases hcount : (ringOf ps).length < 3
  · rw [if_pos hcount]
    exact ⟨nofun, fun h => absurd h.1 (by omega)⟩
  rw [if_neg hcount]
  by_cases harea : (area (ringOf ps) == 0.0) = true
  · rw [if_pos harea]
    exact ⟨nofun, fun h => absurd harea (by simp [h.2.1])⟩
  · rw [if_neg harea]
    refine ⟨fun h => ⟨by omega, by simpa using harea, (Except.ok.inj h).symm⟩, fun h => ?_⟩
    rw [h.2.2]

theorem polygon_eq_vertexCount :
    polygon ps = .error (.vertexCount .polygon n) ↔ (ringOf ps).length = n ∧ n < 3 := by
  rw [polygon_eq]
  by_cases hcount : (ringOf ps).length < 3
  · rw [if_pos hcount]
    simp only [Except.error.injEq, ConvertError.vertexCount.injEq, true_and]
    exact ⟨fun h => ⟨h, h ▸ hcount⟩, fun h => h.1⟩
  · rw [if_neg hcount]
    refine ⟨fun h => ?_, fun h => absurd (h.1 ▸ h.2) hcount⟩
    split at h <;> cases h

theorem convert_eq_ok (h : convert d = .ok e) :
    (∀ p ∈ d.coordinates, p.Storable) ∧ shape d.kind d.coordinates = .ok e.shape ∧
      e.style = style d := by
  unfold convert at h
  by_cases hfinite : d.coordinates.all isFinite = true
  · rw [if_pos hfinite] at h
    cases hshape : shape d.kind d.coordinates with
    | error err =>
        rw [hshape] at h
        cases h
    | ok s =>
        rw [hshape] at h
        cases h
        exact ⟨all_isFinite.1 hfinite, rfl, rfl⟩
  · rw [if_neg hfinite] at h
    cases h

theorem convert_of_shape (hfinite : ∀ p ∈ d.coordinates, p.Storable)
    (h : shape d.kind d.coordinates = .ok s) :
    convert d = .ok { id := d.id, shape := s, style := style d } := by
  unfold convert
  rw [if_pos (all_isFinite.2 hfinite), h]
  rfl

theorem convert_eq_vertexCount (hd : d.kind = .polygon) :
    convert d = .error (.vertexCount .polygon n)
      ↔ (∀ p ∈ d.coordinates, p.Storable) ∧ (ringOf d.coordinates).length = n ∧ n < 3 := by
  unfold convert
  rw [← all_isFinite, ← polygon_eq_vertexCount, hd]
  by_cases hfinite : d.coordinates.all isFinite = true
  · rw [if_pos hfinite]
    change Except.map _ (polygon d.coordinates) = _ ↔ _
    cases polygon d.coordinates with
    | error err => simp [Except.map, hfinite]
    | ok s => simp [Except.map]
  · rw [if_neg hfinite]
    simp [hfinite]

end Convert

end ImageOverlay
