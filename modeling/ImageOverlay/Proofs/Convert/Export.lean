import ImageOverlay.Proofs.Convert.Vertices

set_option autoImplicit false

/-!
# Drawing what was exported

The feature of a converted point, line or polygon is a geometry of the same kind, and the positions
it lists convert to the shape they came from (`convert_exported`). For a point and a line this is
so because collapsing runs a second time changes nothing.

A polygon is exported as a ring that ends where it starts, and the conversion takes the last
position of such a ring away again. Both look at the ends of a list only, so it matters that no two
neighbours of the ring are equal, also across the ends (`isChain_ringOf`): otherwise the conversion
would take more away than the export has added.
-/

namespace ImageOverlay

/-- The positions of a geometry, for a polygon those of its only ring. -/
def Geometry.outline? : Geometry → Option (List Position)
  | .point p => some [p]
  | .lineString ps => some ps
  | .polygon [ring] => some ring
  | .polygon _ => none

/-- A ring of `n` vertices with the first one repeated at the end. -/
structure ClosedRing (n : ℕ) (ring : List Position) : Prop where
  length : ring.length = n + 1
  enough : 4 ≤ ring.length
  closed : ring.getLast? = ring.head?
  apart : ring.IsChain fun p q => p.equal q = false

namespace Convert

variable {d : Drawn} {e : Element} {s : Shape} {ps rest : List Position} {p : Position}

theorem map_position_flat (ps : List Position) : (ps.map flat).map Coordinate.position = ps := by
  rw [List.map_map]
  exact List.map_id ps

theorem geometry_closed (ps : List Position) :
    (Shape.polyline (ps.map flat) true).geometry = .polygon [closeRing ps] :=
  congrArg (fun qs => Geometry.polygon [closeRing qs]) (map_position_flat ps)

theorem geometry_open (ps : List Position) :
    (Shape.polyline (ps.map flat) false).geometry = .lineString ps :=
  congrArg Geometry.lineString (map_position_flat ps)

theorem collapse_collapse (ps : List Position) : collapse (collapse ps) = collapse ps := by
  rw [collapse_eq_destutter, collapse_eq_destutter]
  exact List.destutter_idem ..

/-! ## The ring of a polygon -/

/-- Exporting a ring repeats its first vertex. -/
theorem closeRing_of_isChain (hchain : (p :: (rest ++ [p])).IsChain fun p q => p.equal q = false)
    (h : ∀ q ∈ p :: rest, q.Storable) : closeRing (p :: rest) = p :: (rest ++ [p]) := by
  obtain ⟨last, hlast⟩ : ∃ last, (p :: rest).getLast? = some last :=
    ⟨_, List.getLast?_eq_some_getLast (List.cons_ne_nil p rest)⟩
  -- The last vertex stands before the first one in the closed ring, so they differ.
  have hends : p.equal last = false := by
    rw [← List.cons_append, List.isChain_append] at hchain
    rw [Position.equal_comm (h p List.mem_cons_self) (h last (List.mem_of_getLast? hlast))]
    exact hchain.2.2 last hlast p rfl
  unfold closeRing
  rw [List.head?_cons, hlast]
  simp only [hends, Bool.false_eq_true, if_false, List.cons_append]

/-- Converting an exported ring takes the repeated vertex away again. -/
theorem ringOf_closed (hchain : (p :: (rest ++ [p])).IsChain fun p q => p.equal q = false)
    (h : ∀ q ∈ p :: (rest ++ [p]), q.Storable) : ringOf (p :: (rest ++ [p])) = p :: rest := by
  -- There is no run to collapse, and the ends are equal.
  have hcollapse : collapse (p :: (rest ++ [p])) = p :: (rest ++ [p]) := by
    rw [collapse_eq_destutter]
    refine List.destutter_of_isChain _ _ (hchain.imp_of_mem_imp fun q r hq hr hqr => ?_)
    rw [Position.equal_comm (h r hr) (h q hq), hqr]
    exact Bool.false_ne_true
  have hlast : (p :: (rest ++ [p])).getLast? = some p := by
    rw [← List.cons_append, List.getLast?_concat]
  have hself : (p.x == p.x && p.y == p.y) = true := Position.equal_self (h p List.mem_cons_self)
  unfold ringOf dropClosing
  rw [hcollapse, List.head?_cons, hlast]
  simp only [hself, and_true]
  rw [if_pos (by simp), ← List.cons_append, List.dropLast_concat]

/-! ## Export and conversion -/

/-- A shape is exported as a geometry of the same kind whose positions are converted to the shape
again. -/
structure Reconverted (kind : ShapeKind) (s : Shape) (ps : List Position) : Prop where
  name : s.geometry.primitiveName = kind.name
  outline : s.geometry.outline? = some ps
  storable : ∀ p ∈ ps, p.Storable
  shape : shape kind ps = .ok s

theorem point_reconverted (h : ∀ p ∈ ps, p.Storable) (hs : point ps = .ok s) :
    Reconverted .point s ps := by
  obtain ⟨p, rfl, rfl⟩ := point_eq_ok.1 hs
  exact ⟨rfl, rfl, h, hs⟩

theorem line_reconverted (h : ∀ p ∈ ps, p.Storable) (hs : line ps = .ok s) :
    Reconverted .line s (collapse ps) := by
  obtain ⟨hcount, rfl⟩ := line_eq_ok.1 hs
  refine ⟨rfl, ?_, fun p hp => h p ((collapse_sublist ps).subset hp), line_eq_ok.2 ?_⟩
  · rw [geometry_open]
    rfl
  · rw [collapse_collapse]
    exact ⟨hcount, rfl⟩

theorem polygon_reconverted (h : ∀ p ∈ ps, p.Storable) (hs : polygon ps = .ok s) :
    ∃ ring, Reconverted .polygon s ring ∧ s.geometry = .polygon [ring] ∧
      ClosedRing (ringOf ps).length ring := by
  obtain ⟨hcount, harea, rfl⟩ := polygon_eq_ok.1 hs
  obtain ⟨p, rest, hring⟩ : ∃ p rest, ringOf ps = p :: rest :=
    List.exists_cons_of_length_pos (by omega)
  have hne : rest ≠ [] := by
    rintro rfl
    rw [hring, List.length_singleton] at hcount
    omega
  have hmem : ∀ q ∈ p :: rest, q.Storable := hring ▸ ringOf_storable h
  have hchain := isChain_ringOf h hring hne
  have hgeometry : (Shape.polyline ((ringOf ps).map flat) true).geometry
      = .polygon [p :: (rest ++ [p])] := by
    rw [geometry_closed, hring, closeRing_of_isChain hchain hmem]
  refine ⟨p :: (rest ++ [p]), ⟨?_, ?_, forall_mem_closed hmem, ?_⟩, hgeometry, ?_⟩
  · rw [hgeometry]
    rfl
  · rw [hgeometry]
    rfl
  · -- The vertices are the same list again, and so is their area.
    refine polygon_eq_ok.2 ?_
    rw [ringOf_closed hchain (forall_mem_closed hmem), ← hring]
    exact ⟨hcount, harea, rfl⟩
  · have hlength : (p :: (rest ++ [p])).length = (ringOf ps).length + 1 := by
      rw [hring]
      simp
    refine ⟨hlength, by omega, ?_, hchain⟩
    rw [← List.cons_append, List.getLast?_concat, List.cons_append, List.head?_cons]

/-- The positions a converted shape is exported with are converted to the same shape. -/
theorem convert_exported (h : convert d = .ok e) (hd : d.kind ≠ .rectangle) :
    e.feature.geometry.primitiveName = d.kind.name ∧
      (∃ ps, e.feature.geometry.outline? = some ps ∧
        ∀ d' : Drawn, d'.kind = d.kind → d'.coordinates = ps →
          ∃ e', convert d' = .ok e' ∧ e'.shape = e.shape) ∧
      (d.kind = .polygon → ∃ vs ring, e.shape = .polyline vs true ∧
        e.feature.geometry = .polygon [ring] ∧ ClosedRing vs.length ring) := by
  obtain ⟨hfinite, hshape, -⟩ := convert_eq_ok h
  have hreconverted : ∃ ps, Reconverted d.kind e.shape ps ∧
      (d.kind = .polygon → ∃ vs, e.shape = .polyline vs true ∧
        e.shape.geometry = .polygon [ps] ∧ ClosedRing vs.length ps) := by
    cases hkind : d.kind with
    | point =>
        rw [hkind] at hshape
        exact ⟨_, point_reconverted hfinite hshape, nofun⟩
    | line =>
        rw [hkind] at hshape
        exact ⟨_, line_reconverted hfinite hshape, nofun⟩
    | polygon =>
        rw [hkind] at hshape
        obtain ⟨ring, hring, hgeometry, hclosed⟩ := polygon_reconverted hfinite hshape
        refine ⟨ring, hring, fun _ => ⟨_, (polygon_eq_ok.1 hshape).2.2, hgeometry, ?_⟩⟩
        rwa [List.length_map]
    | rectangle => exact absurd hkind hd
  obtain ⟨ps, hps, hpolygon⟩ := hreconverted
  refine ⟨hps.name, ⟨ps, hps.outline, fun d' hd' hcoordinates => ?_⟩, fun hkind => ?_⟩
  · refine ⟨_, convert_of_shape (s := e.shape) ?_ ?_, rfl⟩
    · rw [hcoordinates]
      exact hps.storable
    · rw [hcoordinates, hd']
      exact hps.shape
  · obtain ⟨vs, hvs, hgeometry, hclosed⟩ := hpolygon hkind
    exact ⟨vs, ps, hvs, hgeometry, hclosed⟩

/-- A triangle with a run across its ends, which differ in the sign of a zero. -/
def seamedTriangle : Drawn where
  kind := .polygon
  coordinates := [⟨0.0, 0.0⟩, ⟨0.0, -0.0⟩, ⟨4.0, 0.0⟩, ⟨4.0, 3.0⟩, ⟨-0.0, 0.0⟩, ⟨0.0, 0.0⟩]

/-- What it is converted to. -/
def seamlessTriangle : Element where
  shape := .polyline [⟨0.0, 0.0, 0.0⟩, ⟨4.0, 0.0, 0.0⟩, ⟨4.0, 3.0, 0.0⟩] true

theorem convert_exported_of_triangle :
    convert seamedTriangle = .ok seamlessTriangle ∧ seamedTriangle.kind ≠ .rectangle ∧
      seamlessTriangle.feature.geometry.primitiveName = seamedTriangle.kind.name ∧
      (∃ ps, seamlessTriangle.feature.geometry.outline? = some ps ∧
        ∀ d' : Drawn, d'.kind = seamedTriangle.kind → d'.coordinates = ps →
          ∃ e', convert d' = .ok e' ∧ e'.shape = seamlessTriangle.shape) ∧
      (seamedTriangle.kind = .polygon → ∃ vs ring, seamlessTriangle.shape = .polyline vs true ∧
        seamlessTriangle.feature.geometry = .polygon [ring] ∧ ClosedRing vs.length ring) := by
  have h : convert seamedTriangle = .ok seamlessTriangle := by decide +kernel
  exact ⟨h, nofun, convert_exported h nofun⟩

end Convert

end ImageOverlay
