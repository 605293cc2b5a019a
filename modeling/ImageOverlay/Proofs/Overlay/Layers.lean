import ImageOverlay.Proofs.Viewer.Ownership
import ImageOverlay.Proofs.Viewport.Orderly

set_option autoImplicit false

/-!
# The layers of annotations

Whatever the overlays do to a map in order, they do in orderly calls, and they leave the map in
order. An annotation that is shown again gets its new layer before its old one is deleted, so for
the length of one call there is a layer that nobody owns; the order of the two makes no difference
to the map (`MapState.addLayer_withoutLayer_comm`).
-/

namespace ImageOverlay

/-- A layer may come before another one goes or after that. -/
theorem MapState.addLayer_withoutLayer_comm {m : MapState} {layer : LayerHandle}
    (hne : layer ≠ m.freshLayer) (kind : LayerKind) :
    (m.addLayer kind).withoutLayer layer = (m.withoutLayer layer).addLayer kind := by
  unfold addLayer withoutLayer freshLayer at *
  simp [List.filter_append, Ne.symm hne]

/-- In which order layers go makes no difference to the map. -/
theorem MapState.withoutLayer_comm (m : MapState) (layer other : LayerHandle) :
    (m.withoutLayer layer).withoutLayer other = (m.withoutLayer other).withoutLayer layer := by
  unfold withoutLayer
  simp only [List.filter_filter, Bool.and_comm]

namespace Overlays

open Viewport (Course)

variable {o : Overlays} {active : Option DrawSession} {retiring : List RetiringLayer}
  {p : Viewport}

theorem mem_handles_of_layer? {id : String} {layer : LayerHandle} (h : o.layer? id = some layer) :
    layer ∈ o.handles :=
  List.mem_map.2 ⟨_, Table.mem_of_lookup h, rfl⟩

/-- In overlays that show no annotation twice, the layer of an annotation has one place. -/
theorem layer?_split {id : String} {layer : LayerHandle} (hid : o.layer? id = some layer)
    (hnodup : (o.layers.map (·.1)).Nodup) :
    ∃ xs ys, o.layers = xs ++ (id, layer) :: ys ∧ (o.erase id).layers = xs ++ ys ∧
      id ∉ (xs ++ ys).map (·.1) := by
  obtain ⟨xs, ys, hsplit, -⟩ := List.lookup_eq_some_iff.1 hid
  rw [hsplit] at hnodup
  refine ⟨xs, ys, hsplit, ?_, ?_⟩
  · show o.layers.filter (·.1 ≠ id) = xs ++ ys
    rw [hsplit]
    exact Table.filter_ne_eq hnodup
  · rw [List.map_append, List.map_cons] at hnodup
    rw [List.map_append]
    exact (List.nodup_middle.1 hnodup).notMem

/-- An annotation that is not shown need not be forgotten. -/
theorem erase_of_none {id : String} (hid : o.layer? id = none) : o.erase id = o := by
  have hkeys : id ∉ o.layers.map (·.1) := Table.lookup_eq_none.1 hid
  refine congrArg (Overlays.mk · o.drains) (List.filter_eq_self.2 ?_)
  intro e he
  have hne : e.1 ≠ id := fun heq => hkeys (heq ▸ List.mem_map_of_mem he)
  simpa using hne

/-! ## Deleting layers -/

theorem remove_owned (h : p.map.OwnedBy o active retiring) (id : String) :
    Course p (o.remove id p).2.2 ∧
      (o.remove id p).2.2.map.OwnedBy (o.remove id p).2.1 active retiring := by
  unfold remove
  cases hid : o.layer? id with
  | none => exact ⟨.refl p, h⟩
  | some layer =>
      obtain ⟨xs, ys, hsplit, herase, -⟩ := layer?_split hid h.identities
      have hlayer : layer ∈ p.map.handles := h.overlay_mem (mem_handles_of_layer? hid)
      exact ⟨.single (.deleteLayer p layer hlayer), h.removeOverlay hsplit herase⟩

/-- What is left of the map once layers were deleted. -/
theorem deleteAll_map (layers : List (String × LayerHandle)) (p : Viewport) :
    (layers.foldl (fun v (_, layer) => v.deleteLayer layer) p).map
      = layers.foldl (fun m (_, layer) => m.withoutLayer layer) p.map :=
  (List.foldl_hom Viewport.map fun _ _ => rfl).symm

/-- Every deletion is on record. -/
theorem deleteAll_library (layers : List (String × LayerHandle)) (p : Viewport) :
    (layers.foldl (fun v (_, layer) => v.deleteLayer layer) p).library
      = { p.library with log := p.library.log ++ (layers.map (·.2)).map .deleteLayer } := by
  induction layers generalizing p with
  | nil => simp
  | cons e rest ih =>
      rw [List.foldl_cons, ih]
      simp [Viewport.deleteLayer, Viewport.commit, MapLibrary.record]

/-- All annotations lose their layers, one after the other. -/
theorem deleteAll_owned {layers : List (String × LayerHandle)}
    (h : p.map.OwnedBy { layers } active retiring) :
    Course p (layers.foldl (fun v (_, layer) => v.deleteLayer layer) p) ∧
      (layers.foldl (fun v (_, layer) => v.deleteLayer layer) p).map.OwnedBy {} active retiring := by
  induction layers generalizing p with
  | nil => exact ⟨.refl p, h⟩
  | cons e rest ih =>
      obtain ⟨id, layer⟩ := e
      have hlayer : layer ∈ p.map.handles := h.overlay_mem List.mem_cons_self
      have hrest : (p.deleteLayer layer).map.OwnedBy { layers := rest } active retiring :=
        h.removeOverlay (List.nil_append _).symm (List.nil_append _).symm
      obtain ⟨hcourse, howned⟩ := ih hrest
      exact ⟨(Course.single (.deleteLayer p layer hlayer)).trans hcourse, howned⟩

theorem clear_owned (h : p.map.OwnedBy o active retiring) :
    Course p (o.clear p).2.2 ∧ (o.clear p).2.2.map.OwnedBy o.emptied active retiring := by
  have hdrained : p.map.OwnedBy { layers := o.drained } active retiring :=
    h.of_perm o.drained_perm
  obtain ⟨hcourse, howned⟩ := deleteAll_owned hdrained
  exact ⟨hcourse, howned.of_perm (.refl _)⟩

/-! ## Showing an annotation -/

/-- A layer that has just come is given to an annotation, whether or not it had one. -/
theorem install_owned {m : MapState} (h : m.OwnedBy o active retiring)
    (hp : p.map = m.addLayer .feature) (id : String) :
    Course p (o.install id m.freshLayer p).2 ∧
      (o.install id m.freshLayer p).2.map.OwnedBy (o.install id m.freshLayer p).1 active retiring := by
  unfold install
  cases hid : o.layer? id with
  | none =>
      have hkeys : id ∉ o.layers.map (·.1) := Table.lookup_eq_none.1 hid
      refine ⟨.refl p, ?_⟩
      rw [hp]
      refine h.addOverlay hkeys ?_
      show (o.erase id).layers ++ [(id, m.freshLayer)] = o.layers ++ [(id, m.freshLayer)]
      rw [erase_of_none hid]
  | some previous =>
      obtain ⟨xs, ys, hsplit, herase, hkeys⟩ := layer?_split hid h.identities
      have hprevious : previous ∈ m.handles := h.overlay_mem (mem_handles_of_layer? hid)
      have hne : previous ≠ m.freshLayer := fun heq => h.fresh_not_mem (heq ▸ hprevious)
      simp only [if_neg hne]
      -- For a moment the annotation has two layers. No list of owners fits that, so the two calls
      -- are taken in the other order.
      refine ⟨.single (.deleteLayer p previous ?_), ?_⟩
      · rw [hp, MapState.handles_addLayer]
        exact List.mem_append_left _ hprevious
      · show (p.map.withoutLayer previous).OwnedBy _ active retiring
        rw [hp, MapState.addLayer_withoutLayer_comm hne]
        exact (h.removeOverlay hsplit herase).addOverlay (herase ▸ hkeys) rfl

/-- Geometry does not change what a layer is for. -/
theorem readGeometry_owned (h : p.map.OwnedBy o active retiring) (layer : LayerHandle)
    (geometry : FeatureCollection) :
    Course p (p.readGeometry layer geometry).2 ∧
      (p.readGeometry layer geometry).2.map.OwnedBy o active retiring := by
  rcases p.readGeometry_cases layer geometry with
    ⟨e, library, hlog, heq⟩ | ⟨entry, library, hlog, hentry, heq⟩
  · rw [heq]
    exact ⟨.single (.unrecorded p library hlog), h⟩
  · rw [heq]
    have hlayer : layer ∈ p.map.handles := MapState.mem_handles.2 ⟨entry, hentry⟩
    exact ⟨(Course.single (.unrecorded p library hlog)).step (.readGeometry _ layer _ _ hlayer),
      h.put _ hentry rfl (fun _ _ => rfl)⟩

/-- Showing an annotation leaves the map in order, whether it succeeds or fails at any of its
calls. -/
theorem render_owned (h : p.map.OwnedBy o active retiring) (style : FallbackStyle) (d : Document) :
    Course p (o.render style d p).2.2 ∧
      (o.render style d p).2.2.map.OwnedBy (o.render style d p).2.1 active retiring := by
  unfold render
  rcases p.createLayer_cases .feature with ⟨e, library, hlog, heq⟩ | ⟨-, heq⟩
  · simp only [heq]
    exact ⟨.single (.unrecorded p library hlog), h⟩
  · simp only [heq]
    -- `h` is about the map before the call: the new layer has no owner until it is installed.
    obtain ⟨hinstall, hinstalled⟩ := install_owned h (p := p.commit (p.map.addLayer .feature)
      (.createLayer p.map.freshLayer .feature)) rfl d.id
    generalize o.install d.id p.map.freshLayer _ = installed at hinstall hinstalled ⊢
    obtain ⟨o', q⟩ := installed
    obtain ⟨hread, howned⟩ :=
      readGeometry_owned hinstalled p.map.freshLayer (style.apply d.features)
    have hcourse := ((Course.single (.createLayer p .feature)).trans hinstall).trans hread
    cases hr : q.readGeometry p.map.freshLayer (style.apply d.features) with
    | mk result r =>
        rw [hr] at hcourse howned
        simp only
        cases result with
        | error e => exact ⟨hcourse, howned⟩
        | ok _ => exact ⟨hcourse.step (.draw r), howned⟩

end Overlays

end ImageOverlay
