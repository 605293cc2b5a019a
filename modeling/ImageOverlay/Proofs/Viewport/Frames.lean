import ImageOverlay.Proofs.Draw.Layers
import ImageOverlay.Proofs.Overlay.Layers

set_option autoImplicit false

/-!
# What is left alone

Layers are deleted and changed by their bare handles, so who leaves what alone is a matter of the
handles that are used. `MapState.Keeps` says of two states of a map that every layer that was there
before is as it was, unless its handle is one of those given. A call keeps all layers but the one it
names, and a new layer is nobody else's as long as the map counts its layers.

From the calls it follows for the functions of the draw mode and of the overlays: the draw mode only
touches the layers of its sessions, and the overlays only touch those they know.
-/

namespace ImageOverlay

namespace MapState

variable {touched : List LayerHandle} {m m' m'' : MapState}

/-- Every layer of the first map is the same on the second one, but for those given. -/
def Keeps (touched : List LayerHandle) (m m' : MapState) : Prop :=
  ∀ layer ∈ m.handles, layer ∉ touched → m'.layer? layer = m.layer? layer

namespace Keeps

theorem refl (m : MapState) : Keeps touched m m := fun _ _ _ => rfl

theorem trans (h : Keeps touched m m') (h' : Keeps touched m' m'') : Keeps touched m m'' := by
  intro layer hlayer hnot
  have hsame := h layer hlayer hnot
  obtain ⟨entry, hentry⟩ := mem_handles.1 hlayer
  exact (h' layer (mem_handles.2 ⟨entry, hsame.trans hentry⟩) hnot).trans hsame

/-- A handle that was new is not one of those that were there. -/
theorem of_fresh (hm : m.Counted) (h : Keeps (m.freshLayer :: touched) m m') :
    Keeps touched m m' := by
  intro layer hlayer hnot
  exact h layer hlayer (by simp [hm.ne_fresh hlayer, hnot])

theorem addLayer (hm : m.Counted) (kind : LayerKind) : Keeps touched m (m.addLayer kind) := by
  intro layer hlayer _
  rw [layer?_addLayer hm.fresh_not_mem, if_neg (hm.ne_fresh hlayer)]

theorem addDrawing (hm : m.Counted) (shape : ShapeKind) : Keeps touched m (m.addDrawing shape) := by
  intro layer hlayer _
  rw [layer?_addDrawing hm.fresh_not_mem, if_neg (hm.ne_fresh hlayer)]

theorem withoutLayer {removed : LayerHandle} (h : removed ∈ touched) (m : MapState) :
    Keeps touched m (m.withoutLayer removed) := by
  intro layer _ hnot
  rw [layer?_withoutLayer, if_neg (ne_of_mem_of_not_mem h hnot).symm]

theorem put {changed : LayerHandle} (h : changed ∈ touched) {old : Layer}
    (hold : m.layer? changed = some old) (entry : Layer) :
    Keeps touched m (m.put changed entry) := by
  intro layer _ hnot
  rw [layer?_put hold, if_neg (ne_of_mem_of_not_mem h hnot).symm]

end Keeps

end MapState

open MapState (Keeps)

variable {touched : List LayerHandle}

/-! ## The draw mode -/

namespace DrawMode

variable {o : Overlays} {p : Viewport} {d : DrawMode} {layer : LayerHandle}

theorem discard_keeps (h : layer ∈ touched) (s : SubscriptionId) (p : Viewport) :
    Keeps touched p.map (discard layer s p).map :=
  Keeps.withoutLayer h (p.map.withoutSubscription s)

theorem discardAll_keeps {retiring : List RetiringLayer} (h : ∀ r ∈ retiring, r.layer ∈ touched)
    (p : Viewport) :
    Keeps touched p.map (retiring.foldl (fun v r => discard r.layer r.subscription v) p).map := by
  induction retiring generalizing p with
  | nil => exact .refl p.map
  | cons r rest ih =>
      have hfirst := discard_keeps (h r List.mem_cons_self) r.subscription p
      exact hfirst.trans (ih (fun r' hr' => h r' (List.mem_cons_of_mem _ hr')) _)

theorem retire_keeps (h : ∀ r ∈ d.retiring, r.layer ∈ touched) (p : Viewport) :
    Keeps touched p.map (d.retire p).2.2.map :=
  discardAll_keeps h p

theorem setInteractionMode_keeps (h : layer ∈ touched) (mode : Option ShapeKind) (p : Viewport) :
    Keeps touched p.map (p.setInteractionMode layer mode).2.map := by
  rcases p.setInteractionMode_cases layer mode with ⟨e, library, -, heq⟩ | ⟨entry, hentry, heq⟩
  · rw [heq]
    exact .refl p.map
  · rw [heq]
    exact .put h hentry _

theorem cancel_keeps (h : ∀ s ∈ d.active, s.layer ∈ touched) (p : Viewport) :
    Keeps touched p.map (d.cancel p).2.2.map := by
  cases hactive : d.active with
  | none =>
      rw [cancel_eq_self hactive]
      exact .refl p.map
  | some s =>
      rw [cancel_eq_discard hactive]
      have hs : s.layer ∈ touched := h s hactive
      exact (setInteractionMode_keeps hs none p).trans (discard_keeps hs _ _)

theorem evict_keeps (h : ∀ s ∈ d.active, s.layer ∈ touched) (p : Viewport) :
    Keeps touched p.map (d.evict p).2.map := by
  by_cases hheld : ∀ s ∈ d.active, d.requests.isHeld s.request = true
  · rw [evict_eq_self hheld]
    exact .refl p.map
  · push Not at hheld
    obtain ⟨s, hactive, hnot⟩ := hheld
    rw [evict_eq_discard hactive hnot]
    exact discard_keeps (h s hactive) _ p

/-- A layer that is opened is new, and nothing is left of one that is not. -/
theorem openLayer_keeps (hp : p.map.Counted) (shape : ShapeKind) :
    Keeps touched p.map (openLayer shape p).2.map := by
  rcases openLayer_cases hp shape with ⟨e, q, next, heq, -, -, hmap⟩ | ⟨q, heq, -, hmap⟩
  · rw [heq, hmap]
    exact fun _ _ _ => rfl
  · rw [heq, hmap]
    exact .addDrawing hp shape

theorem start_keeps (hp : p.map.OwnedBy o d.active d.retiring)
    (h : ∀ s ∈ d.active, s.layer ∈ touched) (shape : ShapeKind) (options : DrawOptions) :
    Keeps touched p.map (d.start shape options p).2.2.map := by
  -- Only the session that was given up can be touched: a layer that is taken back is a new one.
  have hevict := evict_keeps h p
  have hopen := hevict.trans (openLayer_keeps (evict_owned hp).2.counted shape)
  unfold start
  generalize d.evict p = evicted at hevict hopen ⊢
  obtain ⟨d', q⟩ := evicted
  simp only at hevict hopen ⊢
  cases d'.active with
  | some s => exact hevict
  | none =>
      simp only
      generalize openLayer shape q = opened at hopen ⊢
      obtain ⟨_ | _, r⟩ := opened <;> exact hopen

end DrawMode

/-! ## The overlays -/

namespace Overlays

variable {o : Overlays} {p : Viewport}

theorem remove_keeps (h : ∀ layer ∈ o.handles, layer ∈ touched) (id : String) (p : Viewport) :
    Keeps touched p.map (o.remove id p).2.2.map := by
  unfold remove
  cases hid : o.layer? id with
  | none => exact .refl p.map
  | some layer => exact .withoutLayer (h layer (mem_handles_of_layer? hid)) p.map

theorem deleteAll_keeps {layers : List (String × LayerHandle)}
    (h : ∀ e ∈ layers, e.2 ∈ touched) (p : Viewport) :
    Keeps touched p.map (layers.foldl (fun v (_, layer) => v.deleteLayer layer) p).map := by
  induction layers generalizing p with
  | nil => exact .refl p.map
  | cons e rest ih =>
      have hfirst : Keeps touched p.map (p.deleteLayer e.2).map :=
        .withoutLayer (h e List.mem_cons_self) p.map
      exact hfirst.trans (ih (fun e' he' => h e' (List.mem_cons_of_mem _ he')) _)

theorem clear_keeps (h : ∀ layer ∈ o.handles, layer ∈ touched) (p : Viewport) :
    Keeps touched p.map (o.clear p).2.2.map :=
  deleteAll_keeps (fun _ he => h _ (List.mem_map_of_mem (o.drained_perm.mem_iff.1 he))) p

theorem install_keeps (h : ∀ layer ∈ o.handles, layer ∈ touched) (id : String)
    (layer : LayerHandle) (p : Viewport) :
    Keeps touched p.map (o.install id layer p).2.map := by
  unfold install
  cases hid : o.layer? id with
  | none => exact .refl p.map
  | some previous =>
      simp only
      split
      · exact .refl p.map
      · exact .withoutLayer (h previous (mem_handles_of_layer? hid)) p.map

theorem readGeometry_keeps {layer : LayerHandle} (h : layer ∈ touched)
    (geometry : FeatureCollection) (p : Viewport) :
    Keeps touched p.map (p.readGeometry layer geometry).2.map := by
  rcases p.readGeometry_cases layer geometry with
    ⟨e, library, -, heq⟩ | ⟨entry, library, -, hentry, heq⟩
  · rw [heq]
    exact .refl p.map
  · rw [heq]
    exact .put h hentry _

/-- The geometry goes to the new layer, and at most the earlier layer of the annotation goes. -/
theorem render_keeps (hp : p.map.Counted) (h : ∀ layer ∈ o.handles, layer ∈ touched)
    (style : FallbackStyle) (d : Document) :
    Keeps touched p.map (o.render style d p).2.2.map := by
  -- The new layer may be touched as well, since it was not there before.
  refine Keeps.of_fresh hp ?_
  unfold render
  rcases p.createLayer_cases .feature with ⟨e, library, -, heq⟩ | ⟨-, heq⟩
  · rw [heq]
    exact .refl p.map
  · rw [heq]
    have hcreate : Keeps (p.map.freshLayer :: touched) p.map (p.map.addLayer .feature) :=
      .addLayer hp _
    have hinstall := hcreate.trans (install_keeps
      (fun layer hlayer => List.mem_cons_of_mem p.map.freshLayer (h layer hlayer)) d.id
      p.map.freshLayer
      (p.commit (p.map.addLayer .feature) (.createLayer p.map.freshLayer .feature)))
    simp only
    generalize o.install d.id p.map.freshLayer _ = installed at hinstall ⊢
    obtain ⟨o', q⟩ := installed
    have hread := hinstall.trans
      (readGeometry_keeps List.mem_cons_self (style.apply d.features) q)
    simp only
    generalize q.readGeometry p.map.freshLayer (style.apply d.features) = read at hread ⊢
    obtain ⟨_ | _, r⟩ := read <;> exact hread

end Overlays

end ImageOverlay
