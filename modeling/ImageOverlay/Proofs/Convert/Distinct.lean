import ImageOverlay.Proofs.Convert.Vertices
import ImageOverlay.Proofs.Number.Range

set_option autoImplicit false

/-!
# At how many places the vertices of a polygon are

A drawn path that goes back and forth between two places keeps as many vertices as one likes when
its repetitions are dropped, so the number of vertices does not refuse it. What stands in the way
is the area. The terms it sums are by turns `cross p q` and `cross q p`, and rounding treats a
number and its negative alike: after every vertex the sum so far is zero or `cross p q`
(`plain_foldl_cross`), and zero at the end. So a polygon has vertices at three places
(`convert_polygon_distinct`).

This is the case if `cross p q` is a number. The products of two finite doubles may leave the range
of doubles; then the sum is no number, it is not equal to zero either, and the path is accepted
(`convert_backAndForth`). As long as no coordinate exceeds `2 ^ 511` that cannot happen.
-/

namespace ImageOverlay

/-- Three of the vertices are at different places. -/
def ThreePlaces (vs : List Coordinate) : Prop :=
  ∃ u ∈ vs, ∃ v ∈ vs, ∃ w ∈ vs, u.position.equal v.position = false ∧
    u.position.equal w.position = false ∧ v.position.equal w.position = false

instance (vs : List Coordinate) : Decidable (ThreePlaces vs) :=
  inferInstanceAs (Decidable (∃ u ∈ vs, ∃ v ∈ vs, ∃ w ∈ vs,
    u.position.equal v.position = false ∧ u.position.equal w.position = false ∧
      v.position.equal w.position = false))

namespace Convert

/-- All vertices are at two places, and what these span with the origin is no finite number. -/
def Overflows (vs : List Coordinate) : Prop :=
  ∃ u ∈ vs, ∃ v ∈ vs, (∀ w ∈ vs, w.position.equal u.position = true ∨
    w.position.equal v.position = true) ∧ (cross u.position v.position).isFinite = false

variable {d : Drawn} {e : Element} {ps l : List Position} {p q a b z : Position} {s : Float}

/-! ## The area of a path between two places -/

theorem plain_cross_congr (hp : p.place = a.place) (hq : q.place = b.place) :
    plain (cross p q) = plain (cross a b) := by
  obtain ⟨hpx, hpy⟩ := Prod.mk.inj hp
  obtain ⟨hqx, hqy⟩ := Prod.mk.inj hq
  exact plain_sub_congr (plain_mul_congr hpx hqy) (plain_mul_congr hqx hpy)

theorem plain_cross_swap (p q : Position) : plain (cross q p) = plain (-cross p q) :=
  plain_sub_swap (p.x * q.y) (q.x * p.y)

/-- What the terms up to a vertex add up to on a path that starts at `p`, in turns with `q`. -/
def swing (p q r : Position) : Float := if r.place = p.place then 0.0 else cross p q

/-- One step of the path. -/
theorem plain_add_cross (hfinite : (cross p q).isFinite = true)
    (ha : a.place = p.place ∨ a.place = q.place) (hb : b.place = p.place ∨ b.place = q.place)
    (hab : a.place ≠ b.place) (hs : plain s = plain (swing p q a)) :
    plain (s + cross a b) = plain (swing p q b) := by
  unfold swing at hs ⊢
  by_cases hhome : a.place = p.place
  · -- From `p` to `q`, with nothing summed up so far.
    have hback : b.place ≠ p.place := fun h => hab (hhome.trans h.symm)
    have hthere : b.place = q.place := hb.resolve_left hback
    rw [if_pos hhome] at hs
    rw [if_neg hback, plain_zero_add hs, plain_cross_congr hhome hthere]
  · -- From `q` to `p`, which takes away what the step before has added.
    have hthere : a.place = q.place := ha.resolve_left hhome
    have hback : b.place = p.place := hb.resolve_right fun h => hab (hthere.trans h.symm)
    rw [if_neg hhome] at hs
    rw [if_pos hback]
    calc plain (s + cross a b)
        = plain (cross p q + -cross p q) := by
          refine plain_add_congr hs ?_
          rw [plain_cross_congr hthere hback, plain_cross_swap]
      _ = plain 0.0 := plain_add_neg hfinite

/-- The whole path, by induction on what is left of it. -/
theorem plain_foldl_cross (hfinite : (cross p q).isFinite = true)
    (hplaces : ∀ r ∈ a :: (l ++ [z]), r.place = p.place ∨ r.place = q.place)
    (hchain : ((a :: (l ++ [z])).map Position.place).IsChain (· ≠ ·))
    (hs : plain s = plain (swing p q a)) :
    plain ((List.zipWith cross (a :: l) (l ++ [z])).foldl (· + ·) s) = plain (swing p q z) := by
  induction l generalizing a s with
  | nil =>
      have hab : a.place ≠ z.place := List.isChain_pair.1 hchain
      exact plain_add_cross hfinite (hplaces a (by simp)) (hplaces z (by simp)) hab hs
  | cons b l ih =>
      obtain ⟨hab, hrest⟩ := List.isChain_cons_cons.1 hchain
      have hstep := plain_add_cross hfinite (hplaces a (by simp)) (hplaces b (by simp)) hab hs
      exact ih (fun r hr => hplaces r (List.mem_cons_of_mem a hr)) hrest hstep

/-- Half of a zero is a zero. -/
theorem abs_half_eq_zero (h : plain s = plain 0.0) : ((s / 2.0).abs == 0.0) = true := by
  obtain ⟨sign, hsign⟩ : ∃ sign, s.toModel.unpack = .zero sign := by
    rcases Packed.plain_eq_plain h with hzero | ⟨sign, _, hzero, -⟩
    · exact ⟨.positive, hzero⟩
    · exact ⟨sign, hzero⟩
  have hexact : Exact.ofFloat s = .finite (sign == .negative) 0 0 := by
    unfold Exact.ofFloat
    rw [hsign]
  rw [Exact.eq_zero hexact]
  cases sign <;> decide

theorem area_eq_zero (hfinite : (cross p q).isFinite = true)
    (hplaces : ∀ r ∈ p :: l, r.place = p.place ∨ r.place = q.place)
    (hchain : ((p :: (l ++ [p])).map Position.place).IsChain (· ≠ ·)) :
    (area (p :: l) == 0.0) = true := by
  refine abs_half_eq_zero ?_
  -- The sum starts with minus zero, which is what is due at the first vertex.
  have hstart : plain (-0.0) = plain (swing p q p) := by
    rw [swing, if_pos rfl]
    decide
  have hend := plain_foldl_cross hfinite (forall_mem_closed hplaces) hchain hstart
  rwa [swing, if_pos rfl] at hend

/-! ## Polygons that are accepted -/

/-- A ring between two places has an area only if what they span with the origin is infinite or no
number. -/
theorem cross_not_finite (h : ∀ p ∈ ps, p.Storable) (hring : ringOf ps = p :: q :: l)
    (harea : (area (ringOf ps) == 0.0) = false)
    (htwo : ∀ r ∈ ringOf ps, r.equal p = true ∨ r.equal q = true) :
    (cross p q).isFinite = false := by
  rw [hring] at harea htwo
  have hmem : ∀ r ∈ p :: q :: l, r.Storable := hring ▸ ringOf_storable h
  have hchain := (isChain_iff_places (forall_mem_closed hmem)).1
    (isChain_ringOf h hring (List.cons_ne_nil q l))
  have hplaces : ∀ r ∈ p :: q :: l, r.place = p.place ∨ r.place = q.place := by
    intro r hr
    have hp := Position.equal_iff_place (hmem r hr) (hmem p (by simp))
    have hq := Position.equal_iff_place (hmem r hr) (hmem q (by simp))
    exact (htwo r hr).imp hp.1 hq.1
  rw [← Bool.not_eq_true]
  intro hfinite
  have hzero : (area (p :: q :: l) == 0.0) = true := area_eq_zero hfinite hplaces hchain
  exact Bool.false_ne_true (harea.symm.trans hzero)

/-- A ring with an area has vertices at three places, unless its area is no number. -/
theorem threePlaces_or_overflows (h : ∀ p ∈ ps, p.Storable) (hcount : 3 ≤ (ringOf ps).length)
    (harea : (area (ringOf ps) == 0.0) = false) :
    ThreePlaces ((ringOf ps).map flat) ∨ Overflows ((ringOf ps).map flat) := by
  obtain ⟨p, q, rest, hring⟩ : ∃ p q rest, ringOf ps = p :: q :: rest := by
    match hring : ringOf ps, hcount with
    | p :: q :: rest, _ => exact ⟨p, q, rest, rfl⟩
  have hp : p ∈ ringOf ps := by simp [hring]
  have hq : q ∈ ringOf ps := by simp [hring]
  have hmem := ringOf_storable h
  have hpq : p.equal q = false :=
    (List.isChain_cons_cons.1 (isChain_ringOf h hring (List.cons_ne_nil q rest))).1
  by_cases hthird : ∃ r ∈ ringOf ps, p.equal r = false ∧ q.equal r = false
  · obtain ⟨r, hr, hpr, hqr⟩ := hthird
    exact .inl ⟨flat p, List.mem_map_of_mem hp, flat q, List.mem_map_of_mem hq,
      flat r, List.mem_map_of_mem hr, hpq, hpr, hqr⟩
  · have htwo : ∀ r ∈ ringOf ps, r.equal p = true ∨ r.equal q = true := by
      intro r hr
      rw [Position.equal_comm (hmem r hr) (hmem p hp), Position.equal_comm (hmem r hr) (hmem q hq)]
      by_contra hboth
      simp only [not_or, Bool.not_eq_true] at hboth
      exact hthird ⟨r, hr, hboth⟩
    exact .inr ⟨flat p, List.mem_map_of_mem hp, flat q, List.mem_map_of_mem hq,
      List.forall_mem_map.2 htwo, cross_not_finite h hring harea htwo⟩

/-- A position whose coordinates have products far below the greatest double. -/
def Moderate (p : Position) : Prop := Within p.x (2 ^ (511 : ℤ)) ∧ Within p.y (2 ^ (511 : ℤ))

/-- Moderate positions span a number with the origin. -/
theorem isFinite_cross (hp : Moderate p) (hq : Moderate q) : (cross p q).isFinite = true := by
  have hthere : Within (p.x * q.y) (2 ^ (511 + 511 : ℤ)) :=
    hp.1.mul_two_zpow hq.2 (by norm_num) (by norm_num)
  have hback : Within (q.x * p.y) (2 ^ (511 + 511 : ℤ)) :=
    hq.1.mul_two_zpow hp.2 (by norm_num) (by norm_num)
  exact (hthere.sub_two_zpow hback (by norm_num) (by norm_num)).isFinite

/-- **A polygon that is accepted has vertices at three places,** unless its vertices are at two
only and the products of their coordinates are too great for a double. -/
theorem convert_polygon_distinct (h : convert d = .ok e) (hd : d.kind = .polygon) :
    ∃ vs, e.shape = .polyline vs true ∧ (ThreePlaces vs ∨ Overflows vs) ∧
      ((∀ p ∈ d.coordinates, Moderate p) → ThreePlaces vs) := by
  obtain ⟨hfinite, hshape, -⟩ := convert_eq_ok h
  rw [hd] at hshape
  obtain ⟨hcount, harea, hs⟩ := polygon_eq_ok.1 hshape
  have hcases := threePlaces_or_overflows hfinite hcount harea
  refine ⟨_, hs, hcases, fun hmoderate => hcases.resolve_right ?_⟩
  rintro ⟨u, hu, v, hv, -, hinfinite⟩
  obtain ⟨p, hp, rfl⟩ := List.mem_map.1 hu
  obtain ⟨q, hq, rfl⟩ := List.mem_map.1 hv
  have hcross := isFinite_cross (hmoderate p ((ringOf_sublist _).subset hp))
    (hmoderate q ((ringOf_sublist _).subset hq))
  exact Bool.false_ne_true (hinfinite.symm.trans hcross)

/-- A triangle of which one corner was drawn twice. -/
def doubledTriangle : Drawn where
  kind := .polygon
  coordinates := [⟨0.0, 0.0⟩, ⟨4.0, 0.0⟩, ⟨4.0, 0.0⟩, ⟨0.0, 3.0⟩]

/-- What it is converted to. -/
def simpleTriangle : Element where
  shape := .polyline [⟨0.0, 0.0, 0.0⟩, ⟨4.0, 0.0, 0.0⟩, ⟨0.0, 3.0, 0.0⟩] true

theorem convert_polygon_distinct_of_triangle :
    convert doubledTriangle = .ok simpleTriangle ∧
      ∃ vs, simpleTriangle.shape = .polyline vs true ∧ (ThreePlaces vs ∨ Overflows vs) ∧
        ((∀ p ∈ doubledTriangle.coordinates, Moderate p) → ThreePlaces vs) := by
  have h : convert doubledTriangle = .ok simpleTriangle := by decide +kernel
  exact ⟨h, convert_polygon_distinct h rfl⟩

/-- A path that goes back and forth between two places so far out that their products are
infinite. -/
def backAndForth : Drawn where
  kind := .polygon
  coordinates := [⟨1e200, 0.0⟩, ⟨0.0, 1e200⟩, ⟨1e200, 0.0⟩, ⟨0.0, 1e200⟩]

/-- It is accepted as a polygon. -/
theorem convert_backAndForth : ∃ e vs, convert backAndForth = .ok e ∧
    e.shape = .polyline vs true ∧ ¬ ThreePlaces vs := by
  refine ⟨{ shape := .polyline (backAndForth.coordinates.map flat) true },
    backAndForth.coordinates.map flat, ?_, rfl, ?_⟩
  · decide +kernel
  · decide +kernel

end Convert

end ImageOverlay
