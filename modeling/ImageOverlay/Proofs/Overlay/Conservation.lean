import ImageOverlay.Proofs.Overlay.Layers
import ImageOverlay.Proofs.Viewport.Record
import Mathlib.Data.List.Dedup
import Mathlib.Data.Set.Card

set_option autoImplicit false

/-!
# No layer of an annotation is lost

A layer that was installed for an annotation is the layer of that annotation or has been deleted,
and nothing is deleted twice. What one operation does is said in two equations, one for the layers
that are known (`Overlays.layer?_serve`) and one for those that come and go
(`Overlays.serve_conserves`); what a sequence of operations does follows from them
(`Overlays.conserved`).

This needs some care of whoever installs the layers. A layer that is installed for two annotations
is deleted with either of them, and a layer that is installed after it was deleted is deleted once
more. `OverlayOperation.Careful` excludes both.
-/

namespace ImageOverlay

/-! ## What is asked of the overlays -/

/-- What the overlays can be asked for. -/
inductive OverlayOperation where
  | install (id : String) (layer : LayerHandle)
  | remove (id : String)
  | clear
deriving DecidableEq, Repr

namespace OverlayOperation

/-- The layer an operation installs. -/
def installed? : OverlayOperation → Option LayerHandle
  | .install _ layer => some layer
  | _ => none

/-- The operation decides whether an annotation has a layer, and which one. -/
def Concerns (id : String) : OverlayOperation → Prop
  | .install other _ => other = id
  | .remove other => other = id
  | .clear => True

/-- The layer that was installed last for an annotation, if nothing has happened to the annotation
since. -/
def LastInstalled (ops : List OverlayOperation) (id : String) (layer : LayerHandle) : Prop :=
  ∃ before after, ops = before ++ .install id layer :: after ∧ ∀ op ∈ after, ¬ op.Concerns id

end OverlayOperation

namespace Overlays

/-- Do one thing. -/
def serve (o : Overlays) (p : Viewport) : OverlayOperation → Overlays × Viewport
  | .install id layer => o.install id layer p
  | .remove id => (o.remove id p).2
  | .clear => (o.clear p).2

/-- Do one thing after the other, from overlays that show nothing. -/
def serveAll (drains : DrainOrders) (p : Viewport) (ops : List OverlayOperation) :
    Overlays × Viewport :=
  ops.foldl (fun (o, p) op => o.serve p op) ({ drains }, p)

/-- The layers that are deleted on the way. -/
def deletedBy (drains : DrainOrders) (p : Viewport) (ops : List OverlayOperation) :
    List LayerHandle :=
  (serveAll drains p ops).2.library.deletions.drop p.library.deletions.length

/-- The layer that comes to those the overlays know. To install a layer for the annotation that has
it already adds nothing. -/
def arriving (o : Overlays) : OverlayOperation → List LayerHandle
  | .install id layer => if o.layer? id = some layer then [] else [layer]
  | _ => []

end Overlays

/-- No layer is installed for two annotations, and none is installed once it was deleted. -/
structure OverlayOperation.Careful (drains : DrainOrders) (p : Viewport)
    (ops : List OverlayOperation) : Prop where
  exclusive : ∀ id other layer, .install id layer ∈ ops → .install other layer ∈ ops → id = other
  undeleted : ∀ n id layer, ops[n]? = some (.install id layer) →
    layer ∉ Overlays.deletedBy drains p (ops.take n)

/-! ## What was installed last -/

namespace OverlayOperation

variable {ops : List OverlayOperation} {id : String} {layer : LayerHandle}

theorem LastInstalled.mem (h : LastInstalled ops id layer) : .install id layer ∈ ops := by
  obtain ⟨before, after, rfl, -⟩ := h
  simp

theorem lastInstalled_concat (op : OverlayOperation) :
    LastInstalled (ops ++ [op]) id layer ↔
      op = .install id layer ∨ LastInstalled ops id layer ∧ ¬ op.Concerns id := by
  constructor
  · rintro ⟨before, after, heq, hafter⟩
    rcases concat_eq_append_cons heq with ⟨-, hop, -⟩ | ⟨rest, rfl, hops⟩
    · exact Or.inl hop.symm
    · refine Or.inr ⟨⟨before, rest, hops, ?_⟩, ?_⟩
      · intro op' hop'
        exact hafter op' (List.mem_append_left _ hop')
      · exact hafter op (List.mem_append_right _ List.mem_cons_self)
  · rintro (rfl | ⟨⟨before, after, rfl, hafter⟩, hop⟩)
    · exact ⟨ops, [], rfl, by simp⟩
    · refine ⟨before, after ++ [op], by simp, ?_⟩
      intro op' hop'
      rcases List.mem_append.1 hop' with h | h
      · exact hafter op' h
      · rw [List.mem_singleton.1 h]
        exact hop

end OverlayOperation

namespace Overlays

variable {o : Overlays} {p : Viewport}

/-! ## One operation -/

theorem remove_layers (o : Overlays) (id : String) (p : Viewport) :
    (o.remove id p).2.1 = o.erase id := by
  unfold remove
  cases hid : o.layer? id with
  | none => exact (erase_of_none hid).symm
  | some layer => rfl

theorem layer?_erase (o : Overlays) (erased id : String) :
    (o.erase erased).layer? id = if id = erased then none else o.layer? id :=
  Table.lookup_filter_ne _ _ _

theorem layer?_install (o : Overlays) (installed : String) (layer : LayerHandle) (p : Viewport)
    (id : String) :
    (o.install installed layer p).1.layer? id
      = if id = installed then some layer else o.layer? id := by
  have hnone : (o.erase installed).layers.lookup installed = none :=
    (layer?_erase o installed installed).trans (if_pos rfl)
  refine (Table.lookup_concat hnone layer id).trans ?_
  by_cases hid : id = installed
  · rw [if_pos hid, if_pos hid]
  · rw [if_neg hid, if_neg hid]
    exact (layer?_erase o installed id).trans (if_neg hid)

/-- An annotation has the layer it is given, or the one it had if the operation does not concern
it. -/
theorem layer?_serve (o : Overlays) (p : Viewport) (op : OverlayOperation) (id : String)
    (layer : LayerHandle) :
    (o.serve p op).1.layer? id = some layer ↔
      op = .install id layer ∨ o.layer? id = some layer ∧ ¬ op.Concerns id := by
  cases op with
  | install installed new =>
      rw [serve, layer?_install]
      by_cases hid : id = installed
      · simp [hid, OverlayOperation.Concerns]
      · simp [hid, Ne.symm hid, OverlayOperation.Concerns]
  | remove removed =>
      rw [serve, remove_layers, layer?_erase]
      by_cases hid : id = removed
      · simp [hid, OverlayOperation.Concerns]
      · simp [hid, Ne.symm hid, OverlayOperation.Concerns]
  | clear => simp [serve, clear, emptied, layer?, OverlayOperation.Concerns]

theorem identities_serve (hnodup : (o.layers.map (·.1)).Nodup) (p : Viewport)
    (op : OverlayOperation) : ((o.serve p op).1.layers.map (·.1)).Nodup := by
  have herase : ∀ id, ((o.erase id).layers.map (·.1)).Nodup := fun id =>
    hnodup.sublist (List.Sublist.map _ List.filter_sublist)
  cases op with
  | install id layer =>
      have hnone : (o.erase id).layer? id = none := (layer?_erase o id id).trans (if_pos rfl)
      show (((o.erase id).layers ++ [(id, layer)]).map (·.1)).Nodup
      rw [List.map_append]
      exact List.nodup_append'.2 ⟨herase id, List.nodup_singleton _,
        List.disjoint_singleton.2 (Table.lookup_eq_none.1 hnone)⟩
  | remove id =>
      rw [serve, remove_layers]
      exact herase id
  | clear => exact List.nodup_nil

theorem deletions_deleteLayer (p : Viewport) (layer : LayerHandle) :
    (p.deleteLayer layer).library.deletions = p.library.deletions ++ [layer] :=
  List.filterMap_append

theorem deletions_deleteAll (layers : List (String × LayerHandle)) (p : Viewport) :
    (layers.foldl (fun v (_, layer) => v.deleteLayer layer) p).library.deletions
      = p.library.deletions ++ layers.map (·.2) := by
  have hdeleted : ((layers.map (·.2)).map Call.deleteLayer).filterMap Call.deleted?
      = layers.map (·.2) := by
    rw [List.filterMap_map]
    exact List.filterMap_some
  rw [deleteAll_library, MapLibrary.deletions, List.filterMap_append, hdeleted]
  rfl

/-- The layer of an annotation is known once, and to forget the annotation is to forget the
layer. -/
theorem handles_perm {id : String} {layer : LayerHandle} (hid : o.layer? id = some layer)
    (hnodup : (o.layers.map (·.1)).Nodup) : o.handles.Perm (layer :: (o.erase id).handles) := by
  obtain ⟨xs, ys, hsplit, herase, -⟩ := layer?_split hid hnodup
  unfold handles
  rw [herase, hsplit, List.map_append, List.map_append, List.map_cons]
  exact List.perm_middle

/-- **Nothing is lost and nothing is deleted twice.** The layers that one operation deletes and
those the overlays know after it are the layers they knew before and the one that comes. -/
theorem serve_conserves (hnodup : (o.layers.map (·.1)).Nodup) (p : Viewport)
    (op : OverlayOperation) : ∃ deleted,
    (o.serve p op).2.library.deletions = p.library.deletions ++ deleted ∧
      (deleted ++ (o.serve p op).1.handles).Perm (o.handles ++ o.arriving op) := by
  cases op with
  | install id layer =>
      have hhandles : (o.serve p (.install id layer)).1.handles = (o.erase id).handles ++ [layer] :=
        List.map_append
      rw [hhandles]
      cases hid : o.layer? id with
      | none =>
          refine ⟨[], by simp [serve, install, hid], ?_⟩
          simp [arriving, hid, erase_of_none hid]
      | some previous =>
          have hperm := handles_perm hid hnodup
          by_cases hprevious : previous = layer
          · -- The same layer again: it moves to the end of the list, and that is all.
            refine ⟨[], by simp [serve, install, hid, hprevious], ?_⟩
            have harriving : o.arriving (.install id layer) = [] :=
              if_pos (hid.trans (congrArg some hprevious))
            rw [harriving, List.append_nil, List.nil_append, ← hprevious]
            exact (List.perm_append_singleton _ _).trans hperm.symm
          · refine ⟨[previous], by simp [serve, install, hid, hprevious, deletions_deleteLayer], ?_⟩
            have harriving : o.arriving (.install id layer) = [layer] :=
              if_neg fun heq => hprevious (Option.some.inj (hid.symm.trans heq))
            rw [harriving]
            exact hperm.symm.append_right [layer]
  | remove id =>
      cases hid : o.layer? id with
      | none => exact ⟨[], by simp [serve, remove, hid], by simp [serve, remove, hid, arriving]⟩
      | some layer =>
          refine ⟨[layer], by simp [serve, remove, hid, deletions_deleteLayer], ?_⟩
          rw [serve, remove_layers]
          exact (handles_perm hid hnodup).symm.trans (.of_eq (List.append_nil _).symm)
  | clear =>
      refine ⟨_, deletions_deleteAll o.drained p, ?_⟩
      simpa [serve, clear, emptied, arriving, handles] using o.drained_perm.map (·.2)

theorem mem_arriving {op : OverlayOperation} {layer : LayerHandle} :
    layer ∈ o.arriving op ↔ ∃ id, op = .install id layer ∧ o.layer? id ≠ some layer := by
  cases op with
  | remove | clear => simp [arriving]
  | install id new =>
      by_cases hnew : o.layer? id = some new
      · simp only [arriving, if_pos hnew, List.not_mem_nil, false_iff]
        rintro ⟨other, heq, hother⟩
        obtain ⟨rfl, rfl⟩ := OverlayOperation.install.inj heq
        exact hother hnew
      · simp only [arriving, if_neg hnew, List.mem_singleton]
        constructor
        · rintro rfl
          exact ⟨id, rfl, hnew⟩
        · rintro ⟨other, heq, -⟩
          exact (OverlayOperation.install.inj heq).2.symm

theorem arriving_nodup (o : Overlays) (op : OverlayOperation) : (o.arriving op).Nodup := by
  cases op with
  | remove | clear => exact List.nodup_nil
  | install id layer =>
      by_cases hnew : o.layer? id = some layer <;> simp [arriving, hnew]

/-! ## A sequence of operations -/

theorem serveAll_concat (drains : DrainOrders) (p : Viewport) (ops : List OverlayOperation)
    (op : OverlayOperation) :
    serveAll drains p (ops ++ [op])
      = (serveAll drains p ops).1.serve (serveAll drains p ops).2 op :=
  List.foldl_append

theorem identities_serveAll (drains : DrainOrders) (p : Viewport) (ops : List OverlayOperation) :
    ((serveAll drains p ops).1.layers.map (·.1)).Nodup := by
  induction ops using List.reverseRecOn with
  | nil => exact List.nodup_nil
  | append_singleton ops op ih =>
      rw [serveAll_concat]
      exact identities_serve ih _ op

theorem layer?_serveAll (drains : DrainOrders) (p : Viewport) (ops : List OverlayOperation)
    (id : String) (layer : LayerHandle) :
    (serveAll drains p ops).1.layer? id = some layer
      ↔ OverlayOperation.LastInstalled ops id layer := by
  induction ops using List.reverseRecOn with
  | nil => simp [serveAll, layer?, OverlayOperation.LastInstalled]
  | append_singleton ops op ih =>
      rw [serveAll_concat, layer?_serve, ih, OverlayOperation.lastInstalled_concat]

/-- The overlays know a layer that was installed for one of the annotations last. -/
theorem mem_handles_serveAll (drains : DrainOrders) (p : Viewport) (ops : List OverlayOperation)
    (layer : LayerHandle) :
    layer ∈ (serveAll drains p ops).1.handles
      ↔ ∃ id, OverlayOperation.LastInstalled ops id layer := by
  simp only [← layer?_serveAll drains p]
  constructor
  · intro hmem
    obtain ⟨⟨id, l⟩, he, rfl⟩ := List.mem_map.1 hmem
    exact ⟨id, Table.lookup_of_mem (identities_serveAll drains p ops) he⟩
  · rintro ⟨id, hid⟩
    exact mem_handles_of_layer? hid

theorem deletions_serveAll (drains : DrainOrders) (p : Viewport) (ops : List OverlayOperation) :
    (serveAll drains p ops).2.library.deletions
      = p.library.deletions ++ deletedBy drains p ops := by
  induction ops using List.reverseRecOn with
  | nil => simp [deletedBy, serveAll]
  | append_singleton ops op ih =>
      obtain ⟨deleted, hdeleted, -⟩ :=
        serve_conserves (identities_serveAll drains p ops) (serveAll drains p ops).2 op
      unfold deletedBy
      rw [serveAll_concat, hdeleted, ih, List.append_assoc, List.drop_left]

theorem deletedBy_concat {drains : DrainOrders} {p : Viewport} {ops : List OverlayOperation}
    {op : OverlayOperation} {deleted : List LayerHandle}
    (h : (serveAll drains p (ops ++ [op])).2.library.deletions
      = (serveAll drains p ops).2.library.deletions ++ deleted) :
    deletedBy drains p (ops ++ [op]) = deletedBy drains p ops ++ deleted := by
  rw [deletions_serveAll, deletions_serveAll, List.append_assoc] at h
  exact List.append_cancel_left h

end Overlays

namespace OverlayOperation.Careful

variable {drains : DrainOrders} {p : Viewport} {ops : List OverlayOperation}
  {op : OverlayOperation}

theorem initial (h : Careful drains p (ops ++ [op])) : Careful drains p ops where
  exclusive := fun id other layer hid hother =>
    h.exclusive id other layer (List.mem_append_left _ hid) (List.mem_append_left _ hother)
  undeleted := by
    intro n id layer hn
    have hlt : n < ops.length := (List.getElem?_eq_some_iff.1 hn).1
    have hlater := h.undeleted n id layer ((List.getElem?_append_left hlt).trans hn)
    rwa [List.take_append_of_le_length hlt.le] at hlater

/-- A layer that comes was never installed before: it would be deleted by now, or it would be known
as the layer of the same annotation. -/
theorem not_installed (h : Careful drains p (ops ++ [op]))
    (hperm : (Overlays.deletedBy drains p ops ++ (Overlays.serveAll drains p ops).1.handles).Perm
      (ops.filterMap installed?).dedup)
    {layer : LayerHandle} (hlayer : layer ∈ (Overlays.serveAll drains p ops).1.arriving op) :
    layer ∉ ops.filterMap installed? := by
  intro hinstalled
  obtain ⟨id, rfl, hnew⟩ := Overlays.mem_arriving.1 hlayer
  have hmem := hperm.mem_iff.2 (List.mem_dedup.2 hinstalled)
  rcases List.mem_append.1 hmem with hdeleted | hhandle
  · have hundeleted := h.undeleted ops.length id layer (by simp)
    rw [List.take_left' rfl] at hundeleted
    exact hundeleted hdeleted
  · obtain ⟨other, hother⟩ := (Overlays.mem_handles_serveAll drains p ops layer).1 hhandle
    obtain rfl := h.exclusive other id layer (List.mem_append_left _ hother.mem)
      (List.mem_append_right _ List.mem_cons_self)
    exact hnew ((Overlays.layer?_serveAll drains p ops other layer).2 hother)

end OverlayOperation.Careful

namespace Overlays

variable {drains : DrainOrders} {p : Viewport} {ops : List OverlayOperation}

/-- A layer that is installed comes, or it has been installed before. -/
theorem mem_installed_concat (drains : DrainOrders) (p : Viewport) (ops : List OverlayOperation)
    (op : OverlayOperation) (layer : LayerHandle) :
    layer ∈ (ops ++ [op]).filterMap OverlayOperation.installed? ↔
      layer ∈ ops.filterMap OverlayOperation.installed? ∨
        layer ∈ (serveAll drains p ops).1.arriving op := by
  rw [List.filterMap_append, List.mem_append, mem_arriving]
  constructor
  · rintro (hearlier | hlast)
    · exact Or.inl hearlier
    · cases op with
      | remove | clear => cases hlast
      | install id new =>
          obtain rfl := List.mem_singleton.1 hlast
          by_cases hknown : (serveAll drains p ops).1.layer? id = some layer
          · have hmem := ((layer?_serveAll drains p ops id layer).1 hknown).mem
            exact Or.inl (List.mem_filterMap.2 ⟨_, hmem, rfl⟩)
          · exact Or.inr ⟨id, rfl, hknown⟩
  · rintro (hearlier | ⟨id, rfl, -⟩)
    · exact Or.inl hearlier
    · exact Or.inr List.mem_cons_self

/-- The layers deleted and the layers known are the layers that were installed, every one of them
once. -/
theorem conserved_handles (h : OverlayOperation.Careful drains p ops) :
    (deletedBy drains p ops ++ (serveAll drains p ops).1.handles).Perm
      (ops.filterMap OverlayOperation.installed?).dedup := by
  induction ops using List.reverseRecOn with
  | nil => simp [deletedBy, serveAll, handles]
  | append_singleton ops op ih =>
      have hperm := ih h.initial
      obtain ⟨deleted, hdeleted, hstep⟩ :=
        serve_conserves (identities_serveAll drains p ops) (serveAll drains p ops).2 op
      rw [← serveAll_concat] at hdeleted hstep
      -- What comes was never installed before, so it stands beside what was, and not among it.
      have hnodup : ((ops.filterMap OverlayOperation.installed?).dedup
          ++ (serveAll drains p ops).1.arriving op).Nodup := by
        refine List.nodup_append'.2 ⟨List.nodup_dedup _, arriving_nodup _ _, ?_⟩
        intro layer hinstalled harriving
        exact h.not_installed hperm harriving (List.mem_dedup.1 hinstalled)
      have hinstalled : ((ops.filterMap OverlayOperation.installed?).dedup
          ++ (serveAll drains p ops).1.arriving op).Perm
            ((ops ++ [op]).filterMap OverlayOperation.installed?).dedup := by
        refine (List.perm_ext_iff_of_nodup hnodup (List.nodup_dedup _)).2 fun layer => ?_
        rw [List.mem_append, List.mem_dedup, List.mem_dedup, mem_installed_concat drains p]
      rw [deletedBy_concat hdeleted, List.append_assoc]
      refine (hstep.append_left _).trans ?_
      rw [← List.append_assoc]
      exact (hperm.append_right _).trans hinstalled

/-- **What the overlays are after a sequence of operations:** a table of what was installed last,
and no layer out of account. -/
structure Conserved (drains : DrainOrders) (p : Viewport) (ops : List OverlayOperation) : Prop where
  layer : ∀ id layer, (serveAll drains p ops).1.layer? id = some layer ↔
    OverlayOperation.LastInstalled ops id layer
  count : (serveAll drains p ops).1.count
    = {id | ∃ layer, OverlayOperation.LastInstalled ops id layer}.ncard
  removes : ∀ id, ((serveAll drains p ops).1.remove id (serveAll drains p ops).2).1 = true ↔
    ∃ layer, OverlayOperation.LastInstalled ops id layer
  clears : ((serveAll drains p ops).1.clear (serveAll drains p ops).2).1
    = (serveAll drains p ops).1.count
  deletions : (serveAll drains p ops).2.library.deletions
    = p.library.deletions ++ deletedBy drains p ops
  handles : (deletedBy drains p ops ++ (serveAll drains p ops).1.handles).Perm
    (ops.filterMap OverlayOperation.installed?).dedup
  known : ∀ id layer, OverlayOperation.LastInstalled ops id layer → layer ∉ deletedBy drains p ops
  deletedOnce : ∀ layer ∈ ops.filterMap OverlayOperation.installed?,
    (∀ id, ¬ OverlayOperation.LastInstalled ops id layer) → (deletedBy drains p ops).count layer = 1

theorem count_serveAll (drains : DrainOrders) (p : Viewport) (ops : List OverlayOperation) :
    (serveAll drains p ops).1.count
      = {id | ∃ layer, OverlayOperation.LastInstalled ops id layer}.ncard := by
  have hset : {id | ∃ layer, OverlayOperation.LastInstalled ops id layer}
      = ↑((serveAll drains p ops).1.layers.map (·.1)).toFinset := by
    ext id
    rw [Finset.mem_coe, List.mem_toFinset, Table.mem_keys_iff, Set.mem_ofPred_eq]
    exact exists_congr fun layer => (layer?_serveAll drains p ops id layer).symm
  rw [hset, Set.ncard_coe_finset, List.toFinset_card_of_nodup (identities_serveAll drains p ops),
    List.length_map]
  rfl

/-- An annotation is removed if it is there. -/
theorem remove_iff (o : Overlays) (id : String) (p : Viewport) :
    (o.remove id p).1 = true ↔ ∃ layer, o.layer? id = some layer := by
  unfold remove
  cases o.layer? id <;> simp

/-- **No layer is lost.** After any careful sequence of operations, on whatever map, the overlays
know for every annotation the layer that was installed last, and every other layer that was ever
installed has been deleted, and deleted once. -/
theorem conserved (h : OverlayOperation.Careful drains p ops) : Conserved drains p ops := by
  have hperm := conserved_handles h
  have hnodup := hperm.nodup_iff.2 (List.nodup_dedup _)
  have hdisjoint := (List.nodup_append'.1 hnodup).2.2
  constructor
  · exact layer?_serveAll drains p ops
  · exact count_serveAll drains p ops
  · intro id
    rw [remove_iff]
    exact exists_congr fun layer => layer?_serveAll drains p ops id layer
  · rfl
  · exact deletions_serveAll drains p ops
  · exact hperm
  · intro id layer hlast hdeleted
    exact hdisjoint hdeleted ((mem_handles_serveAll drains p ops layer).2 ⟨id, hlast⟩)
  · intro layer hinstalled hnone
    refine List.count_eq_one_of_mem (List.nodup_append'.1 hnodup).1 ?_
    have hmem := hperm.mem_iff.2 (List.mem_dedup.2 hinstalled)
    refine (List.mem_append.1 hmem).resolve_right ?_
    intro hhandle
    obtain ⟨id, hid⟩ := (mem_handles_serveAll drains p ops layer).1 hhandle
    exact hnone id hid

/-- An annotation is shown twice on one layer and then on another one, an annotation beside it comes
and goes, and then all layers go, the last one first, before an annotation is shown again. -/
theorem conserved_of_shownAgain :
    let ops : List OverlayOperation := [.install "a" ⟨1⟩, .install "b" ⟨2⟩, .install "a" ⟨1⟩,
      .install "a" ⟨3⟩, .remove "b", .remove "c", .install "b" ⟨4⟩, .clear, .install "a" ⟨5⟩]
    let drains : DrainOrders := fun _ => ⟨List.reverse, List.reverse_perm⟩
    OverlayOperation.Careful drains {} ops ∧ Conserved drains {} ops ∧
      deletedBy drains {} ops = [⟨1⟩, ⟨2⟩, ⟨4⟩, ⟨3⟩] ∧
      (serveAll drains {} ops).1.handles = [⟨5⟩] := by
  intro ops drains
  have hcareful : OverlayOperation.Careful drains {} ops := by
    constructor
    · intro id other layer hid hother
      simp only [ops, List.mem_cons, OverlayOperation.install.injEq] at hid hother
      grind
    · intro n id layer hn
      have hundeleted : ∀ n < 9, ∀ op ∈ ops[n]?, ∀ layer ∈ op.installed?,
          layer ∉ deletedBy drains {} (ops.take n) := by decide
      exact hundeleted n (List.getElem?_eq_some_iff.1 hn).1 _ hn layer rfl
  exact ⟨hcareful, conserved hcareful, by decide, by decide⟩

end Overlays

end ImageOverlay
