import ImageOverlay.Proofs.Overlay.Layers
import ImageOverlay.Proofs.Viewport.History

set_option autoImplicit false

/-!
# Layers that are deleted in another order

Where all layers of annotations are deleted at once, it is open which one goes first. Overlays that
differ in that alone (`Overlays.Like`) do the same to a map: it is left in the same state, since
deletions commute (`MapState.withoutLayer_comm`), and it is asked the same, but for the order of the
deletions (`MapLibrary.Alike`). Where the orders agree as well, it is asked exactly the same.
-/

namespace ImageOverlay

/-! ## Records of calls -/

/-- The same calls, but for the order of deletions that follow one another. -/
def Reordered (calls calls' : List Call) : Prop :=
  ∃ (first last : List Call) (layers layers' : List LayerHandle), layers.Perm layers' ∧
    calls = first ++ layers.map .deleteLayer ++ last ∧
    calls' = first ++ layers'.map .deleteLayer ++ last

theorem Reordered.refl (calls : List Call) : Reordered calls calls :=
  ⟨calls, [], [], [], .refl _, by simp, by simp⟩

theorem Reordered.append {calls calls' : List Call} (h : Reordered calls calls')
    (more : List Call) : Reordered (calls ++ more) (calls' ++ more) := by
  obtain ⟨first, last, layers, layers', hperm, rfl, rfl⟩ := h
  exact ⟨first, last ++ more, layers, layers', hperm, List.append_assoc .., List.append_assoc ..⟩

/-- **Two libraries that were asked the same,** but for the order of deletions; and for nothing at
all if the orders agree. -/
structure MapLibrary.Alike (agree : Prop) (l l' : MapLibrary) : Prop where
  faults : l'.faults = l.faults
  submitted : l'.submitted = l.submitted
  log : Reordered l.log l'.log
  same : agree → l'.log = l.log

namespace MapLibrary.Alike

variable {agree : Prop} {l l' : MapLibrary}

theorem refl (l : MapLibrary) : Alike agree l l := ⟨rfl, rfl, .refl _, fun _ => rfl⟩

theorem blank (h : l'.faults = l.faults) : Alike agree l.blank l'.blank :=
  ⟨h, rfl, .refl _, fun _ => rfl⟩

theorem record (h : Alike agree l l') (c : Call) : Alike agree (l.record c) (l'.record c) where
  faults := h.faults
  submitted := h.submitted
  log := h.log.append [c]
  same := fun hagree => congrArg (· ++ [c]) (h.same hagree)

end MapLibrary.Alike

/-- What two libraries are asked for on the way to the next ones is the same, but for the order of
deletions. -/
def MapLibrary.Abreast (agree : Prop) (l l' next next' : MapLibrary) : Prop :=
  ∃ more more' : MapLibrary, next = more.after l ∧ next' = more'.after l' ∧ more.Alike agree more'

namespace MapLibrary.Abreast

variable {agree : Prop} {l l' next next' : MapLibrary}

theorem log (h : Abreast agree l l' next next') :
    next.log = l.log ++ next.log.drop l.log.length ∧
      next'.log = l'.log ++ next'.log.drop l'.log.length ∧
      Reordered (next.log.drop l.log.length) (next'.log.drop l'.log.length) ∧
      (agree → next'.log.drop l'.log.length = next.log.drop l.log.length) := by
  obtain ⟨more, more', rfl, rfl, halike⟩ := h
  simpa [after] using ⟨halike.log, halike.same⟩

theorem submitted (h : Abreast agree l l' next next') : ∃ handed,
    next.submitted = l.submitted ++ handed ∧ next'.submitted = l'.submitted ++ handed := by
  obtain ⟨more, more', rfl, rfl, halike⟩ := h
  exact ⟨more.submitted, rfl, congrArg (l'.submitted ++ ·) halike.submitted⟩

end MapLibrary.Abreast

/-! ## Overlays that differ in the order of deletions -/

namespace Overlays

variable {o : Overlays}

/-- Overlays that show the same. In which order the layers are deleted all at once is only the same
if the orders agree. -/
structure Like (agree : Prop) (o o' : Overlays) : Prop where
  layers : o'.layers = o.layers
  drains : agree → o'.drains = o.drains

namespace Like

variable {agree : Prop} {o' : Overlays}

theorem eq_redrained (h : Like agree o o') : o' = { o with drains := o'.drains } := by
  cases o'
  exact congrArg (Overlays.mk · _) h.layers

theorem install (h : Like agree o o') (id : String) (layer : LayerHandle) (p : Viewport) :
    Like agree (o.install id layer p).1 (o'.install id layer p).1 ∧
      (o'.install id layer p).2 = (o.install id layer p).2 := by
  rw [h.eq_redrained]
  exact ⟨⟨rfl, h.drains⟩, rfl⟩

theorem remove (h : Like agree o o') (id : String) (p : Viewport) :
    (o'.remove id p).1 = (o.remove id p).1 ∧
      Like agree (o.remove id p).2.1 (o'.remove id p).2.1 ∧
      (o'.remove id p).2.2 = (o.remove id p).2.2 := by
  have hlayer : o'.layer? id = o.layer? id := congrArg (List.lookup id) h.layers
  unfold Overlays.remove
  rw [hlayer]
  cases o.layer? id with
  | none => exact ⟨rfl, h, rfl⟩
  | some layer => exact ⟨rfl, ⟨congrArg (List.filter _) h.layers, h.drains⟩, rfl⟩

theorem render (h : Like agree o o') (style : FallbackStyle) (d : Document) (p : Viewport) :
    (o'.render style d p).1 = (o.render style d p).1 ∧
      Like agree (o.render style d p).2.1 (o'.render style d p).2.1 ∧
      (o'.render style d p).2.2 = (o.render style d p).2.2 := by
  unfold Overlays.render
  rcases p.createLayer .feature with ⟨e | layer, q⟩
  · exact ⟨rfl, h, rfl⟩
  · obtain ⟨hinstall, hviewport⟩ := h.install d.id layer q
    simp only [hviewport]
    rcases (o.install d.id layer q).2.readGeometry layer (style.apply d.features) with ⟨e | _, r⟩
    · exact ⟨rfl, hinstall, rfl⟩
    · exact ⟨rfl, hinstall, rfl⟩

/-- **The same layers are deleted,** in whatever order. -/
theorem clear (h : Like agree o o') (p : Viewport) :
    (o'.clear p).1 = (o.clear p).1 ∧ Like agree (o.clear p).2.1 (o'.clear p).2.1 ∧
      (o'.clear p).2.2.map = (o.clear p).2.2.map ∧
      MapLibrary.Alike agree (o.clear p).2.2.library (o'.clear p).2.2.library := by
  have hperm : o.drained.Perm o'.drained :=
    o.drained_perm.trans ((List.Perm.of_eq h.layers.symm).trans o'.drained_perm.symm)
  refine ⟨congrArg List.length h.layers, ⟨rfl, fun hagree => ?_⟩, ?_, ?_⟩
  · exact congrArg (fun drains : DrainOrders => fun n => drains (n + 1)) (h.drains hagree)
  · show (o'.drained.foldl _ p).map = (o.drained.foldl _ p).map
    rw [deleteAll_map, deleteAll_map]
    exact hperm.symm.foldl_eq' (fun e _ e' _ m => m.withoutLayer_comm e.2 e'.2) _
  · show MapLibrary.Alike agree (o.drained.foldl _ p).library (o'.drained.foldl _ p).library
    rw [deleteAll_library, deleteAll_library]
    have hlayers : (o.drained.map (·.2)).Perm (o'.drained.map (·.2)) := hperm.map _
    refine ⟨rfl, rfl, ⟨p.library.log, [], _, _, hlayers, ?_, ?_⟩, fun hagree => ?_⟩
    · exact (List.append_nil _).symm
    · exact (List.append_nil _).symm
    · simp only [drained, h.layers, h.drains hagree]

end Like

end Overlays

end ImageOverlay
