import ImageOverlay.Proofs.Convert.Vertices

set_option autoImplicit false

/-!
# Where a ring starts and in which direction it is drawn

A polygon that is drawn from another of its vertices, or the other way round, has as many vertices
as before, and they are at the same places in the same cyclic order (`convert_along`). The list of
vertices itself may begin elsewhere: which vertex of a run is kept, and whether the run across the
ends counts at the front or at the back, depends on where the drawing starts.

That a polygon is refused because it covers nothing does depend on where it starts, since the area
is a sum of rounded products.
-/

namespace ImageOverlay

open List

/-- In which direction a list is followed. -/
inductive Direction where
  | forward
  | backward
deriving DecidableEq, Repr

namespace Direction

section

variable {α β : Type} (dir : Direction)

/-- A list in the order in which it is followed. -/
def along : Direction → List α → List α
  | .forward, l => l
  | .backward, l => l.reverse

theorem map_along (f : α → β) (l : List α) : (dir.along l).map f = dir.along (l.map f) := by
  cases dir with
  | forward => rfl
  | backward => exact List.map_reverse

theorem length_along (l : List α) : (dir.along l).length = l.length := by
  cases dir with
  | forward => rfl
  | backward => exact List.length_reverse

theorem mem_along {a : α} {l : List α} : a ∈ dir.along l ↔ a ∈ l := by
  cases dir with
  | forward => rfl
  | backward => exact List.mem_reverse

theorem corners_along [DecidableEq α] (l : List α) :
    corners (dir.along l) ~r dir.along (corners l) := by
  cases dir with
  | forward => exact .refl _
  | backward => exact corners_reverse l

end

end Direction

/-- Vertices that are numerically equal one by one. -/
def SamePlaces (vs ws : List Coordinate) : Prop :=
  Forall₂ (fun v w => v.position.equal w.position = true) vs ws

/-- Two conversions of a polygon find the same ring, the second one followed in a direction: they
count equally many vertices if these are too few, and otherwise the vertices are the same except
for where they start. -/
structure SameRing (dir : Direction) (r r' : Except ConvertError Element) : Prop where
  count : ∀ n, r = .error (.vertexCount .polygon n) ↔ r' = .error (.vertexCount .polygon n)
  vertices : ∀ e e', r = .ok e → r' = .ok e' → ∃ vs vs' ws, e.shape = .polyline vs true ∧
    e'.shape = .polyline vs' true ∧ dir.along vs ~r ws ∧ SamePlaces ws vs'

namespace Convert

variable {d d' : Drawn} {ps qs : List Position} {dir : Direction}

theorem samePlaces_of_places (hps : ∀ p ∈ ps, p.Storable) (hqs : ∀ q ∈ qs, q.Storable)
    (h : ps.map Position.place = qs.map Position.place) :
    SamePlaces (ps.map flat) (qs.map flat) := by
  induction ps generalizing qs with
  | nil =>
      obtain rfl : qs = [] := List.map_eq_nil_iff.1 h.symm
      exact .nil
  | cons p ps ih =>
      cases qs with
      | nil => cases h
      | cons q qs =>
          obtain ⟨hhead, htail⟩ := List.cons.inj h
          rw [List.forall_mem_cons] at hps hqs
          exact .cons ((Position.equal_iff_place hps.1 hqs.1).2 hhead) (ih hps.2 hqs.2 htail)

/-- In places, the vertices of two drawings of one ring differ in where they start. -/
theorem places_along (hps : ∀ p ∈ ps, p.Storable) (hqs : ∀ q ∈ qs, q.Storable)
    (h : dir.along ps ~r qs) :
    (dir.along (ringOf ps)).map Position.place ~r (ringOf qs).map Position.place := by
  rw [dir.map_along, places_ringOf hps, places_ringOf hqs]
  have hturned : dir.along (ps.map Position.place) ~r qs.map Position.place := by
    rw [← dir.map_along]
    exact h.map Position.place
  obtain ⟨k, hk⟩ := hturned
  -- The second drawing is the first one, followed in the direction and started elsewhere.
  have hstart := corners_rotate (dir.along (ps.map Position.place)) k
  rw [hk] at hstart
  exact (hstart.trans (dir.corners_along _)).symm

/-- A polygon does not depend on where its drawing starts and in which direction it goes. -/
theorem convert_along (hd : d.kind = .polygon) (hd' : d'.kind = .polygon)
    (h : dir.along d.coordinates ~r d'.coordinates) :
    SameRing dir (convert d) (convert d') := by
  have hfinite : (∀ p ∈ d.coordinates, p.Storable) ↔ ∀ p ∈ d'.coordinates, p.Storable :=
    forall_congr' fun p => by rw [← h.mem_iff, dir.mem_along]
  constructor
  · intro n
    rw [convert_eq_vertexCount hd, convert_eq_vertexCount hd', hfinite]
    refine and_congr_right fun hps' => ?_
    have hplaces := (places_along (hfinite.2 hps') hps' h).perm.length_eq
    rw [List.length_map, List.length_map, dir.length_along] at hplaces
    rw [hplaces]
  · intro e e' he he'
    obtain ⟨hps, hshape, -⟩ := convert_eq_ok he
    obtain ⟨hps', hshape', -⟩ := convert_eq_ok he'
    rw [hd] at hshape
    rw [hd'] at hshape'
    obtain ⟨k, hk⟩ := places_along hps hps' h
    refine ⟨_, _, ((dir.along (ringOf d.coordinates)).rotate k).map flat,
      (polygon_eq_ok.1 hshape).2.2, (polygon_eq_ok.1 hshape').2.2, ?_, ?_⟩
    · rw [← dir.map_along, List.map_rotate]
      exact ⟨k, rfl⟩
    · refine samePlaces_of_places ?_ (ringOf_storable hps') (by rw [List.map_rotate, hk])
      intro p hp
      rw [List.mem_rotate, dir.mem_along] at hp
      exact ringOf_storable hps p hp

/-- A triangle that ends where it starts, except for the sign of a zero. -/
def closedTriangle : Drawn where
  kind := .polygon
  coordinates := [⟨0.0, 0.0⟩, ⟨4.0, 0.0⟩, ⟨4.0, 3.0⟩, ⟨0.0, -0.0⟩]

/-- The same triangle, drawn backwards from another corner. -/
def retracedTriangle : Drawn where
  kind := .polygon
  coordinates := [⟨4.0, 0.0⟩, ⟨0.0, 0.0⟩, ⟨0.0, -0.0⟩, ⟨4.0, 3.0⟩]

theorem convert_along_of_triangle :
    (convert closedTriangle).isOk = true ∧ (convert retracedTriangle).isOk = true ∧
      Direction.backward.along closedTriangle.coordinates ~r retracedTriangle.coordinates ∧
      SameRing .backward (convert closedTriangle) (convert retracedTriangle) :=
  ⟨by decide +kernel, by decide +kernel, ⟨2, rfl⟩, convert_along rfl rfl ⟨2, rfl⟩⟩

end Convert

end ImageOverlay
