import ImageOverlay.Proofs.Viewport.Calls
import ImageOverlay.Viewer.Basic

set_option autoImplicit false

/-!
# A library with a history

Nothing that is asked of a map depends on what is on record. The same library with more calls before
(`MapLibrary.after`) answers every call in the same way, and keeps the calls before in front of the
new ones. Here this is said of every function that works on a map, from the single calls to the
sessions and the annotations: it does not matter whether the history comes before the call or after
it.
-/

namespace ImageOverlay

/-- The library when other calls had been carried out before. The armed faults are its own. -/
def MapLibrary.after (l earlier : MapLibrary) : MapLibrary where
  log := earlier.log ++ l.log
  submitted := earlier.submitted ++ l.submitted
  faults := l.faults

/-- The library without its history. -/
def MapLibrary.blank (l : MapLibrary) : MapLibrary := { faults := l.faults }

@[simp]
theorem MapLibrary.blank_after (l : MapLibrary) : l.blank.after l = l := by
  simp [blank, after]

/-- The map in use, when other calls had been carried out before. -/
def Viewport.after (p : Viewport) (earlier : MapLibrary) : Viewport where
  library := p.library.after earlier
  map := p.map

namespace Viewport

variable (p : Viewport) (earlier : MapLibrary)

/-! ## The calls -/

theorem commit_after (m : MapState) (c : Call) :
    (p.after earlier).commit m c = (p.commit m c).after earlier := by
  simp [commit, after, MapLibrary.record, MapLibrary.after, List.append_assoc]

theorem attempt_after {α : Type} {call : FallibleCall}
    {act : Viewport → Except ViewportError α × Viewport}
    (hact : act (p.after earlier) = (act p).map id (·.after earlier)) :
    attempt call act (p.after earlier) = (attempt call act p).map id (·.after earlier) := by
  have hfaults : (p.after earlier).library.faults = p.library.faults := rfl
  unfold attempt MapLibrary.fault?
  rw [hfaults]
  cases p.library.faults.lookup call with
  | none => exact hact
  | some e => rfl

theorem createLayer_after (kind : LayerKind) :
    (p.after earlier).createLayer kind = (p.createLayer kind).map id (·.after earlier) := by
  refine attempt_after p earlier ?_
  have hmap : (p.after earlier).map = p.map := rfl
  simp only [hmap]
  split
  · rfl
  · simp only [commit_after, Prod.map, id]

theorem setInteractionMode_after (layer : LayerHandle) (mode : Option ShapeKind) :
    (p.after earlier).setInteractionMode layer mode
      = (p.setInteractionMode layer mode).map id (·.after earlier) := by
  refine attempt_after p earlier ?_
  have hmap : (p.after earlier).map = p.map := rfl
  simp only [hmap]
  split
  · rfl
  · split
    · simp only [commit_after, Prod.map, id]
    · rfl

theorem subscribe_after (layer : LayerHandle) :
    (p.after earlier).subscribe layer = (p.subscribe layer).map id (·.after earlier) := by
  refine attempt_after p earlier ?_
  have hmap : (p.after earlier).map = p.map := rfl
  simp only [hmap]
  split
  · rfl
  · simp only [commit_after, Prod.map, id]

theorem readGeometry_after (layer : LayerHandle) (geometry : FeatureCollection) :
    (p.after earlier).readGeometry layer geometry
      = (p.readGeometry layer geometry).map id (·.after earlier) := by
  have hsubmitted : { p.after earlier with library :=
        { (p.after earlier).library with
          submitted := (p.after earlier).library.submitted ++ [geometry] } }
      = Viewport.after { p with
          library := { p.library with submitted := p.library.submitted ++ [geometry] } } earlier := by
    simp [after, MapLibrary.after, List.append_assoc]
  unfold readGeometry
  simp only [hsubmitted]
  refine attempt_after _ earlier ?_
  have hmap : ∀ q : Viewport, (q.after earlier).map = q.map := fun _ => rfl
  simp only [hmap]
  split
  · rfl
  · split
    · simp only [commit_after, Prod.map, id]
    · rfl

theorem deleteLayer_after (layer : LayerHandle) :
    (p.after earlier).deleteLayer layer = (p.deleteLayer layer).after earlier :=
  commit_after p earlier _ _

theorem unsubscribe_after (subscription : SubscriptionId) :
    (p.after earlier).unsubscribe subscription = (p.unsubscribe subscription).after earlier :=
  commit_after p earlier _ _

theorem draw_after : (p.after earlier).draw = p.draw.after earlier := commit_after p earlier _ _

theorem teardown_after : (p.after earlier).teardown = p.teardown.after earlier :=
  commit_after p earlier _ _

/-! ## Drawing layers -/

theorem openLayer_after (shape : ShapeKind) :
    DrawMode.openLayer shape (p.after earlier)
      = (DrawMode.openLayer shape p).map id (·.after earlier) := by
  unfold DrawMode.openLayer
  rw [createLayer_after]
  rcases p.createLayer .annotationDraw with ⟨e | layer, q⟩
  · rfl
  · simp only [Prod.map, id, setInteractionMode_after]
    rcases q.setInteractionMode layer (some shape) with ⟨e | _, q⟩
    · simp only [deleteLayer_after]
    · simp only [subscribe_after]
      rcases q.subscribe layer with ⟨e | subscription, q⟩
      · simp only [Prod.map, id, deleteLayer_after]
      · rfl

theorem discard_after (layer : LayerHandle) (subscription : SubscriptionId) :
    DrawMode.discard layer subscription (p.after earlier)
      = (DrawMode.discard layer subscription p).after earlier := by
  unfold DrawMode.discard
  rw [unsubscribe_after, deleteLayer_after]

theorem evict_after (d : DrawMode) :
    d.evict (p.after earlier) = (d.evict p).map id (·.after earlier) := by
  unfold DrawMode.evict
  cases d.active with
  | none => rfl
  | some s =>
      simp only [discard_after]
      split <;> rfl

theorem start_after (shape : ShapeKind) (options : DrawOptions) (d : DrawMode) :
    d.start shape options (p.after earlier)
      = ((d.start shape options p).1, (d.start shape options p).2.1,
          (d.start shape options p).2.2.after earlier) := by
  unfold DrawMode.start
  rw [evict_after]
  generalize d.evict p = evicted
  obtain ⟨d, q⟩ := evicted
  simp only [Prod.map, id, openLayer_after]
  cases d.active with
  | some s => rfl
  | none => rcases DrawMode.openLayer shape q with ⟨e | ⟨layer, subscription⟩, r⟩ <;> rfl

theorem cancel_after (d : DrawMode) :
    d.cancel (p.after earlier)
      = ((d.cancel p).1, (d.cancel p).2.1, (d.cancel p).2.2.after earlier) := by
  unfold DrawMode.cancel
  cases d.active with
  | none => rfl
  | some s => simp only [setInteractionMode_after, Prod.map, discard_after]

theorem retire_after (d : DrawMode) :
    d.retire (p.after earlier)
      = ((d.retire p).1, (d.retire p).2.1, (d.retire p).2.2.after earlier) := by
  unfold DrawMode.retire
  rw [List.foldl_hom (Viewport.after · earlier)
    fun q r => discard_after q earlier r.layer r.subscription]

/-! ## Annotations -/

theorem install_after (o : Overlays) (id : String) (layer : LayerHandle) :
    o.install id layer (p.after earlier)
      = ((o.install id layer p).1, (o.install id layer p).2.after earlier) := by
  unfold Overlays.install
  cases o.layer? id with
  | none => rfl
  | some previous =>
      by_cases hprevious : previous = layer
      · simp only [if_pos hprevious]
      · simp only [if_neg hprevious, deleteLayer_after]

theorem remove_after (o : Overlays) (id : String) :
    o.remove id (p.after earlier)
      = ((o.remove id p).1, (o.remove id p).2.1, (o.remove id p).2.2.after earlier) := by
  unfold Overlays.remove
  cases o.layer? id with
  | none => rfl
  | some layer => simp only [deleteLayer_after]

theorem clear_after (o : Overlays) :
    o.clear (p.after earlier)
      = ((o.clear p).1, (o.clear p).2.1, (o.clear p).2.2.after earlier) := by
  unfold Overlays.clear
  rw [List.foldl_hom (Viewport.after · earlier) fun q e => deleteLayer_after q earlier e.2]

theorem render_after (o : Overlays) (style : FallbackStyle) (d : Document) :
    o.render style d (p.after earlier)
      = ((o.render style d p).1, (o.render style d p).2.1,
          (o.render style d p).2.2.after earlier) := by
  unfold Overlays.render
  rw [createLayer_after]
  rcases p.createLayer .feature with ⟨e | layer, q⟩
  · rfl
  · simp only [Prod.map, id, install_after, readGeometry_after]
    generalize (o.install d.id layer q).2 = q
    rcases q.readGeometry layer (style.apply d.features) with ⟨e | _, q⟩
    · rfl
    · simp only [draw_after]

end Viewport

/-! ## Maps -/

theorem MapLibrary.createMap_after (params : MapParams) (l earlier : MapLibrary) :
    (l.after earlier).createMap params = (l.createMap params).map id (·.after earlier) := by
  have hfaults : (l.after earlier).faults = l.faults := rfl
  unfold createMap fault?
  rw [hfaults]
  cases l.faults.lookup .createMap with
  | some e => rfl
  | none =>
      simp only [Option.map_none]
      split
      · rfl
      · simp [Prod.map, record, after, List.append_assoc]

theorem Viewer.build_after (params : MapParams) (l earlier : MapLibrary) :
    build params (l.after earlier) = (build params l).map id (·.after earlier) := by
  unfold build
  rw [MapLibrary.createMap_after]
  rcases l.createMap params with ⟨e | m, l⟩
  · rfl
  · have hopened : ({ library := l.after earlier, map := m } : Viewport)
        = Viewport.after { library := l, map := m } earlier := rfl
    simp only [Prod.map, id, hopened, Viewport.createLayer_after]
    rcases Viewport.createLayer .tile { library := l, map := m } with ⟨e | layer, q⟩
    · simp only [Viewport.teardown_after]
      rfl
    · simp only [Viewport.draw_after]
      rfl

end ImageOverlay
