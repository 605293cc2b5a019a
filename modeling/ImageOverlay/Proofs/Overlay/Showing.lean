import ImageOverlay.Proofs.Overlay.Conservation
import ImageOverlay.Proofs.Viewport.Replay

set_option autoImplicit false

/-!
# Showing annotations one after the other

To show an annotation takes three steps: a new layer is created, it takes the place of the layer the
annotation had, and the geometry is put on it. The first step and the last may be refused, and then
the annotation is left as it was, or with a layer that shows nothing (`Overlays.Outcome`). Either
way an annotation has one layer at most, and the layers that were created to show something are on
the map exactly as long as they are the layer of an annotation (`Overlays.Accounted`).

Nobody else is supposed to touch the map meanwhile. What was done to it before does not matter: it
may have layers of any kind, and it may have been torn down.
-/

namespace ImageOverlay

/-! ## What is asked of the overlays -/

/-- What the overlays can be asked for by those who show annotations, and the faults that are armed
in between. -/
inductive ShowOperation where
  | render (style : FallbackStyle) (d : Document)
  | remove (id : String)
  | arm (call : FallibleCall) (e : ViewportError)

namespace Overlays

/-- Carry out one operation. -/
def perform : Overlays × Viewport → ShowOperation → Overlays × Viewport
  | (o, p), .render style d => (o.render style d p).2
  | (o, p), .remove id => (o.remove id p).2
  | (o, p), .arm call e => (o, { p with library := p.library.arm call e })

/-- Carry out operations, one after the other, from overlays that show nothing. -/
def run (drains : DrainOrders) (p : Viewport) (ops : List ShowOperation) : Overlays × Viewport :=
  ops.foldl perform ({ drains }, p)

variable {o : Overlays} {p : Viewport} {m : MapState} {id : String} {e : ViewportError}

/-! ## A layer in place of another one -/

/-- The overlays with a layer for an annotation. -/
def assign (id : String) (layer : LayerHandle) (o : Overlays) : Overlays :=
  { o with layers := (o.erase id).layers ++ [(id, layer)] }

/-- The map with a new layer in place of the one of an annotation. -/
def replaced (id : String) (o : Overlays) (m : MapState) : MapState :=
  match o.layer? id with
  | none => m.addLayer .feature
  | some previous => (m.addLayer .feature).withoutLayer previous

/-- The calls that put a new layer in the place of the one of an annotation. -/
def replacing (id : String) (o : Overlays) (m : MapState) : List Call :=
  .createLayer m.freshLayer .feature :: (o.layer? id).toList.map .deleteLayer

/-- All layers of annotations are on the map. -/
def On (o : Overlays) (m : MapState) : Prop :=
  ∀ id layer, o.layer? id = some layer → layer ∈ m.handles

theorem layer?_assign (o : Overlays) (assigned : String) (layer : LayerHandle) (id : String) :
    (o.assign assigned layer).layer? id = if id = assigned then some layer else o.layer? id :=
  layer?_install o assigned layer {} id

theorem layer?_replaced (hm : m.Counted) (ho : o.On m) (id : String) (layer : LayerHandle) :
    (o.replaced id m).layer? layer
      = if layer = m.freshLayer then some { kind := .feature }
        else if o.layer? id = some layer then none else m.layer? layer := by
  unfold replaced
  cases hid : o.layer? id with
  | none => simp [MapState.layer?_addLayer hm.fresh_not_mem]
  | some previous =>
      -- The layer that goes is not the one that has just come.
      have hne : previous ≠ m.freshLayer := hm.ne_fresh (ho id previous hid)
      simp only [MapState.layer?_withoutLayer, MapState.layer?_addLayer hm.fresh_not_mem,
        Option.some.injEq]
      by_cases hlayer : layer = previous
      · rw [if_pos hlayer, if_neg (hlayer ▸ hne), if_pos hlayer.symm]
      · rw [if_neg hlayer, if_neg (Ne.symm hlayer)]

theorem counted_replaced (hm : m.Counted) (id : String) : (o.replaced id m).Counted := by
  unfold replaced
  cases o.layer? id with
  | none => exact hm.addLayer _
  | some previous => exact (hm.addLayer _).withoutLayer previous

theorem replaced_nextLayer (id : String) (o : Overlays) (m : MapState) :
    (o.replaced id m).nextLayer = m.nextLayer + 1 := by
  unfold replaced
  cases o.layer? id <;> rfl

theorem replaced_tornDown (id : String) (o : Overlays) (m : MapState) :
    (o.replaced id m).tornDown = m.tornDown := by
  unfold replaced
  cases o.layer? id <;> rfl

/-- The map after these calls. -/
def replace (id : String) (o : Overlays) (p : Viewport) : Viewport where
  library := { p.library with log := p.library.log ++ o.replacing id p.map }
  map := o.replaced id p.map

/-- A layer that has just come is put in the place of the one of an annotation. -/
theorem install_fresh (hm : p.map.Counted) (ho : o.On p.map) (id : String) :
    o.install id p.map.freshLayer
        (p.commit (p.map.addLayer .feature) (.createLayer p.map.freshLayer .feature))
      = (o.assign id p.map.freshLayer, o.replace id p) := by
  unfold install replace replaced replacing
  cases hid : o.layer? id with
  | none => rfl
  | some previous =>
      have hne : previous ≠ p.map.freshLayer := hm.ne_fresh (ho id previous hid)
      simp only [if_neg hne]
      simp [Viewport.deleteLayer, Viewport.commit, MapLibrary.record, MapState.withoutLayer, assign]

/-! ## What comes of showing an annotation -/

variable {style : FallbackStyle} {d : Document}

/-- Every element is a feature, in whatever style. -/
theorem length_features (style : FallbackStyle) (d : Document) :
    (style.apply d.features).features.length = d.elements.length := by
  simp [FallbackStyle.apply, Document.features, FeatureCollection.ofElements]

theorem render_of_refused (h : p.creationRefusal? = some e) :
    o.render style d p = (.error e, o, { p with library := p.library.disarm .createLayer }) := by
  rw [render, p.createLayer_of_refused h]

theorem render_of_rejected (hm : p.map.Counted) (ho : o.On p.map)
    (hgranted : p.creationRefusal? = none) (harmed : p.library.armed? .readGeometry = some e) :
    ∃ q, o.render style d p = (.error e, o.assign d.id p.map.freshLayer, q) ∧
      q.map = o.replaced d.id p.map ∧
      q.library.log = p.library.log ++ o.replacing d.id p.map := by
  rw [render, p.createLayer_of_granted hgranted]
  simp only
  rw [install_fresh hm ho]
  simp only
  rw [Viewport.readGeometry_of_armed (p := o.replace d.id p) harmed]
  exact ⟨_, rfl, rfl, rfl⟩

/-- The layer takes the geometry, because it is new and one for features. -/
theorem render_of_taken (hm : p.map.Counted) (ho : o.On p.map)
    (hgranted : p.creationRefusal? = none) (harmed : p.library.armed? .readGeometry = none) :
    ∃ q, o.render style d p = (.ok p.map.freshLayer, o.assign d.id p.map.freshLayer, q) ∧
      q.map = (o.replaced d.id p.map).put p.map.freshLayer
        { kind := .feature, features := d.elements.length } ∧
      q.library.log = p.library.log ++ o.replacing d.id p.map
        ++ [.readGeometry p.map.freshLayer d.elements.length, .draw] := by
  have hstanding : p.map.tornDown = false := by
    simpa using (Option.or_eq_none_iff.1 hgranted).2
  have hnew : (o.replaced d.id p.map).layer? p.map.freshLayer = some { kind := .feature } := by
    rw [layer?_replaced hm ho, if_pos rfl]
  have hentry := Viewport.entry_of_layer? ((replaced_tornDown d.id o p.map).trans hstanding) hnew
  rw [render, p.createLayer_of_granted hgranted]
  simp only
  rw [install_fresh hm ho]
  simp only
  rw [Viewport.readGeometry_of_granted (p := o.replace d.id p) harmed hentry rfl, length_features]
  refine ⟨_, rfl, ?_, ?_⟩
  · simp [Viewport.draw, Viewport.commit, replace]
  · simp [Viewport.draw, Viewport.commit, MapLibrary.record, MapLibrary.submit, replace]

/-- **An annotation on a new layer.** It has the layer with so many features, the layer it had
before is gone, and everything else is as it was. -/
structure Shown (d : Document) (features : Nat) (o : Overlays) (m : MapState) (o' : Overlays)
    (m' : MapState) : Prop where
  layer : o'.layer? d.id = some m.freshLayer
  entry : m'.layer? m.freshLayer = some { kind := .feature, features }
  previous : ∀ layer, o.layer? d.id = some layer → m'.layer? layer = none
  others : ∀ id, id ≠ d.id → o'.layer? id = o.layer? id ∧
    ∀ layer, o.layer? id = some layer → m'.layer? layer = m.layer? layer
  rest : ∀ layer, layer ≠ m.freshLayer → o.layer? d.id ≠ some layer →
    m'.layer? layer = m.layer? layer

/-- **What comes of showing an annotation.** Where no layer is created, nothing changes but that the
fault is used up; where the geometry is not taken, the annotation has an empty layer and nothing is
drawn; otherwise the layer has the features and is drawn. -/
structure Outcome (style : FallbackStyle) (d : Document) (o : Overlays) (p : Viewport) : Prop where
  refused : ∀ e, p.creationRefusal? = some e →
    o.render style d p = (.error e, o, { p with library := p.library.disarm .createLayer })
  rejected : ∀ e, p.creationRefusal? = none → p.library.armed? .readGeometry = some e →
    ∃ o' q, o.render style d p = (.error e, o', q) ∧ Shown d 0 o p.map o' q.map ∧
      q.library.log = p.library.log ++ o.replacing d.id p.map
  taken : p.creationRefusal? = none → p.library.armed? .readGeometry = none →
    ∃ o' q, o.render style d p = (.ok p.map.freshLayer, o', q) ∧
      Shown d d.elements.length o p.map o' q.map ∧
      q.library.log = p.library.log ++ o.replacing d.id p.map
        ++ [.readGeometry p.map.freshLayer d.elements.length, .draw]

/-! ## Layers that are accounted for -/

/-- **Layers that are accounted for,** where `before` is the record when nothing was shown yet.
Every annotation has a layer for features on the map, no two of them have the same, and the layers
for features that were created since then are on the map if and only if an annotation has them. -/
structure Accounted (before : List Call) (o : Overlays) (p : Viewport) : Prop where
  live : ∀ id layer, o.layer? id = some layer → p.map.kind? layer = some .feature
  distinct : ∀ id id' layer, o.layer? id = some layer → o.layer? id' = some layer → id = id'
  created : ∃ calls, p.library.log = before ++ calls ∧
    (∀ id layer, o.layer? id = some layer → .createLayer layer .feature ∈ calls) ∧
    ∀ layer, .createLayer layer .feature ∈ calls →
      (layer ∈ p.map.handles ↔ ∃ id, o.layer? id = some layer)

/-- What is accounted for, and in addition what a map needs for the next layer to be a new one. -/
structure Kept (before : List Call) (o : Overlays) (p : Viewport) : Prop extends
    Accounted before o p where
  counted : p.map.Counted
  below : ∀ calls, p.library.log = before ++ calls → ∀ layer kind, .createLayer layer kind ∈ calls →
    layer.number < p.map.nextLayer

variable {before : List Call} {o' : Overlays} {q : Viewport} {m' : MapState} {features : Nat}

theorem Accounted.on (h : Accounted before o p) : o.On p.map := fun id layer hid =>
  MapState.mem_handles_of_kind (h.live id layer hid)

/-- The layer of one annotation is not the layer of another one. -/
theorem Accounted.layer?_ne (h : Accounted before o p) {id id' : String} (hne : id' ≠ id)
    {layer : LayerHandle} (hlayer : o.layer? id' = some layer) : o.layer? id ≠ some layer :=
  fun heq => hne (h.distinct id' id layer hlayer heq)

theorem shown_of_entries (h : Kept before o p)
    (hentries : ∀ layer, m'.layer? layer
      = if layer = p.map.freshLayer then some { kind := .feature, features }
        else if o.layer? d.id = some layer then none else p.map.layer? layer) :
    Shown d features o p.map (o.assign d.id p.map.freshLayer) m' where
  layer := by rw [layer?_assign, if_pos rfl]
  entry := by rw [hentries, if_pos rfl]
  previous := by
    intro layer hlayer
    rw [hentries, if_neg (h.counted.ne_fresh (h.on _ _ hlayer)), if_pos hlayer]
  others := by
    intro id hid
    refine ⟨by rw [layer?_assign, if_neg hid], fun layer hlayer => ?_⟩
    rw [hentries, if_neg (h.counted.ne_fresh (h.on _ _ hlayer)),
      if_neg (h.layer?_ne hid hlayer)]
  rest := by
    intro layer hfresh hother
    rw [hentries, if_neg hfresh, if_neg hother]

theorem Shown.layer?_iff (h : Shown d features o m o' m') {id : String} {layer : LayerHandle} :
    o'.layer? id = some layer
      ↔ id = d.id ∧ layer = m.freshLayer ∨ id ≠ d.id ∧ o.layer? id = some layer := by
  by_cases hid : id = d.id
  · rw [hid, h.layer]
    simp [eq_comm]
  · rw [(h.others id hid).1]
    simp [hid]

theorem Shown.mem_handles_iff (h : Shown d features o m o' m') {layer : LayerHandle}
    (hne : layer ≠ m.freshLayer) :
    layer ∈ m'.handles ↔ o.layer? d.id ≠ some layer ∧ layer ∈ m.handles := by
  by_cases hprevious : o.layer? d.id = some layer
  · simp [MapState.mem_handles, h.previous layer hprevious, hprevious]
  · simp [MapState.mem_handles, h.rest layer hne hprevious, hprevious]

/-- The only layer that is created when one is put in the place of another is the new one. -/
theorem created_replacing {layer : LayerHandle} {kind : LayerKind} {rest : List Call}
    (hrest : ∀ layer kind, .createLayer layer kind ∉ rest)
    (h : .createLayer layer kind ∈ o.replacing id m ++ rest) : layer = m.freshLayer := by
  rcases List.mem_append.1 h with h | h
  · rcases List.mem_cons.1 h with heq | h
    · exact (Call.createLayer.inj heq).1
    · simp at h
  · exact absurd h (hrest layer kind)

theorem Kept.shown_live (h : Kept before o p) (hshown : Shown d features o p.map o' m')
    {id : String} {layer : LayerHandle} (hlayer : o'.layer? id = some layer) :
    m'.kind? layer = some .feature := by
  rcases hshown.layer?_iff.1 hlayer with ⟨-, rfl⟩ | ⟨hid, hold⟩
  · rw [MapState.kind?, hshown.entry, Option.map_some]
  · rw [MapState.kind?, (hshown.others id hid).2 layer hold]
    exact h.live id layer hold

/-- The new layer was nobody's, and the others have kept theirs. -/
theorem Kept.shown_distinct (h : Kept before o p) (hshown : Shown d features o p.map o' m')
    {id id' : String} {layer : LayerHandle} (hlayer : o'.layer? id = some layer)
    (hlayer' : o'.layer? id' = some layer) : id = id' := by
  have hnew : ∀ id, o.layer? id ≠ some p.map.freshLayer := fun id hold =>
    h.counted.ne_fresh (h.on _ _ hold) rfl
  rcases hshown.layer?_iff.1 hlayer with ⟨rfl, rfl⟩ | ⟨-, hold⟩
  · rcases hshown.layer?_iff.1 hlayer' with ⟨rfl, -⟩ | ⟨-, hold⟩
    · rfl
    · exact absurd hold (hnew id')
  · rcases hshown.layer?_iff.1 hlayer' with ⟨-, rfl⟩ | ⟨-, hold'⟩
    · exact absurd hold (hnew id)
    · exact h.distinct id id' layer hold hold'

/-- An older layer is still on the map exactly if an annotation still has it. -/
theorem Kept.shown_handles (h : Kept before o p) (hshown : Shown d features o p.map o' m')
    {layer : LayerHandle} (hne : layer ≠ p.map.freshLayer)
    (hold : layer ∈ p.map.handles ↔ ∃ id, o.layer? id = some layer) :
    layer ∈ m'.handles ↔ ∃ id, o'.layer? id = some layer := by
  constructor
  · intro hmem
    obtain ⟨hother, hmem⟩ := (hshown.mem_handles_iff hne).1 hmem
    obtain ⟨id, hlayer⟩ := hold.1 hmem
    have hid : id ≠ d.id := by
      rintro rfl
      exact hother hlayer
    exact ⟨id, hshown.layer?_iff.2 (Or.inr ⟨hid, hlayer⟩)⟩
  · rintro ⟨id, hlayer⟩
    exact MapState.mem_handles_of_kind (h.shown_live hshown hlayer)

/-- What was accounted for is so after an annotation has been shown on a new layer. -/
theorem Kept.shown (h : Kept before o p) (hshown : Shown d features o p.map o' q.map)
    (hcounted : q.map.Counted) (hnext : q.map.nextLayer = p.map.nextLayer + 1) {rest : List Call}
    (hlog : q.library.log = p.library.log ++ (o.replacing d.id p.map ++ rest))
    (hrest : ∀ layer kind, .createLayer layer kind ∉ rest) : Kept before o' q := by
  obtain ⟨calls, hcalls, hregistered, hcreated⟩ := h.created
  rw [hcalls, List.append_assoc] at hlog
  refine
    { live := fun id layer hlayer => h.shown_live hshown hlayer
      distinct := fun id id' layer hlayer hlayer' => h.shown_distinct hshown hlayer hlayer'
      created := ⟨_, hlog, ?_, ?_⟩
      counted := hcounted
      below := ?_ }
  · intro id layer hlayer
    rcases hshown.layer?_iff.1 hlayer with ⟨-, rfl⟩ | ⟨-, hold⟩
    · exact List.mem_append_right _ (List.mem_append_left _ List.mem_cons_self)
    · exact List.mem_append_left _ (hregistered id layer hold)
  · intro layer hmem
    rcases List.mem_append.1 hmem with hmem | hmem
    · -- A layer that was created earlier has a smaller number than the new one.
      have hne : layer ≠ p.map.freshLayer := by
        rintro rfl
        exact Nat.lt_irrefl _ (h.below calls hcalls _ _ hmem)
      exact h.shown_handles hshown hne (hcreated layer hmem)
    · obtain rfl := created_replacing hrest hmem
      exact ⟨fun _ => ⟨d.id, hshown.layer⟩, fun _ => MapState.mem_handles.2 ⟨_, hshown.entry⟩⟩
  · intro all hall layer kind hmem
    rw [hlog] at hall
    obtain rfl := List.append_cancel_left hall
    rw [hnext]
    rcases List.mem_append.1 hmem with hmem | hmem
    · exact Nat.lt_succ_of_lt (h.below calls hcalls layer kind hmem)
    · obtain rfl := created_replacing hrest hmem
      exact Nat.lt_succ_self _

/-- An annotation whose geometry is not taken has a layer that shows nothing. -/
theorem Kept.rejected (h : Kept before o p) (hgranted : p.creationRefusal? = none)
    (harmed : p.library.armed? .readGeometry = some e) (style : FallbackStyle) (d : Document) :
    ∃ o' q, o.render style d p = (.error e, o', q) ∧ Shown d 0 o p.map o' q.map ∧
      q.library.log = p.library.log ++ o.replacing d.id p.map ∧ Kept before o' q := by
  obtain ⟨q, heq, hmap, hlog⟩ := render_of_rejected h.counted h.on hgranted harmed
  have hshown : Shown d 0 o p.map (o.assign d.id p.map.freshLayer) q.map := by
    rw [hmap]
    exact shown_of_entries h (layer?_replaced h.counted h.on d.id)
  have hlog' : q.library.log = p.library.log ++ (o.replacing d.id p.map ++ []) := by
    rw [List.append_nil, hlog]
  refine ⟨_, q, heq, hshown, hlog, h.shown hshown ?_ ?_ hlog' ?_⟩
  · rw [hmap]
    exact counted_replaced h.counted d.id
  · rw [hmap, replaced_nextLayer]
  · simp

/-- An annotation whose geometry is taken has a layer that shows its elements. -/
theorem Kept.taken (h : Kept before o p) (hgranted : p.creationRefusal? = none)
    (harmed : p.library.armed? .readGeometry = none) (style : FallbackStyle) (d : Document) :
    ∃ o' q, o.render style d p = (.ok p.map.freshLayer, o', q) ∧
      Shown d d.elements.length o p.map o' q.map ∧
      q.library.log = p.library.log ++ o.replacing d.id p.map
        ++ [.readGeometry p.map.freshLayer d.elements.length, .draw] ∧
      Kept before o' q := by
  obtain ⟨q, heq, hmap, hlog⟩ := render_of_taken h.counted h.on hgranted harmed
  have hshown : Shown d d.elements.length o p.map (o.assign d.id p.map.freshLayer) q.map := by
    rw [hmap]
    have hnew : (o.replaced d.id p.map).layer? p.map.freshLayer = some { kind := .feature } := by
      rw [layer?_replaced h.counted h.on, if_pos rfl]
    refine shown_of_entries h fun layer => ?_
    rw [MapState.layer?_put hnew, layer?_replaced h.counted h.on]
    split <;> rfl
  refine ⟨_, q, heq, hshown, hlog, h.shown hshown ?_ ?_ (by rw [← List.append_assoc, hlog]) ?_⟩
  · rw [hmap]
    exact (counted_replaced h.counted d.id).put _ _
  · rw [hmap]
    exact replaced_nextLayer d.id o p.map
  · simp

theorem Kept.outcome (h : Kept before o p) (style : FallbackStyle) (d : Document) :
    Outcome style d o p where
  refused := fun e hrefused => render_of_refused hrefused
  rejected := by
    intro e hgranted harmed
    obtain ⟨o', q, heq, hshown, hlog, -⟩ := h.rejected hgranted harmed style d
    exact ⟨o', q, heq, hshown, hlog⟩
  taken := by
    intro hgranted harmed
    obtain ⟨o', q, heq, hshown, hlog, -⟩ := h.taken hgranted harmed style d
    exact ⟨o', q, heq, hshown, hlog⟩

/-- A change of the library that leaves no record is of no importance. -/
theorem Kept.unrecorded (h : Kept before o p) {library : MapLibrary}
    (hlog : library.log = p.library.log) : Kept before o { p with library } where
  live := h.live
  distinct := h.distinct
  created := by
    rw [hlog]
    exact h.created
  counted := h.counted
  below := by
    rw [hlog]
    exact h.below

theorem layer?_erase_iff {id' : String} {layer : LayerHandle} :
    (o.erase id).layer? id' = some layer ↔ id' ≠ id ∧ o.layer? id' = some layer := by
  rw [layer?_erase]
  by_cases hid : id' = id <;> simp [hid]

/-- What was accounted for is so after an annotation has been taken off the map. -/
theorem Kept.removed (h : Kept before o p) {removed : LayerHandle}
    (hremoved : o.layer? id = some removed) :
    Kept before (o.erase id) (p.deleteLayer removed) := by
  obtain ⟨calls, hcalls, hregistered, hcreated⟩ := h.created
  have hlog : (p.deleteLayer removed).library.log
      = before ++ (calls ++ [.deleteLayer removed]) := by
    rw [← List.append_assoc, ← hcalls]
    rfl
  have hmap : (p.deleteLayer removed).map = p.map.withoutLayer removed := rfl
  have hlive : ∀ id' layer, (o.erase id).layer? id' = some layer →
      (p.deleteLayer removed).map.kind? layer = some .feature := by
    intro id' layer hlayer
    obtain ⟨hid, hlayer⟩ := layer?_erase_iff.1 hlayer
    have hne : layer ≠ removed := by
      rintro rfl
      exact h.layer?_ne hid hlayer hremoved
    rw [hmap, MapState.kind?_withoutLayer hne]
    exact h.live id' layer hlayer
  refine
    { live := hlive
      distinct := ?_
      created := ⟨_, hlog, ?_, ?_⟩
      counted := h.counted.withoutLayer removed
      below := ?_ }
  · intro id' id'' layer hlayer hlayer'
    exact h.distinct id' id'' layer (layer?_erase_iff.1 hlayer).2 (layer?_erase_iff.1 hlayer').2
  · intro id' layer hlayer
    exact List.mem_append_left _ (hregistered id' layer (layer?_erase_iff.1 hlayer).2)
  · intro layer hmem
    constructor
    · intro hhandle
      rw [hmap, MapState.handles_withoutLayer, List.mem_filter, decide_eq_true_iff] at hhandle
      obtain ⟨hold, hne⟩ := hhandle
      have hmem : Call.createLayer layer .feature ∈ calls := by simpa using hmem
      obtain ⟨id', hlayer⟩ := (hcreated layer hmem).1 hold
      have hid : id' ≠ id := by
        rintro rfl
        exact hne (Option.some.inj (hlayer.symm.trans hremoved))
      exact ⟨id', layer?_erase_iff.2 ⟨hid, hlayer⟩⟩
    · rintro ⟨id', hlayer⟩
      exact MapState.mem_handles_of_kind (hlive id' layer hlayer)
  · intro all hall layer kind hmem
    rw [hlog] at hall
    obtain rfl := List.append_cancel_left hall
    exact h.below calls hcalls layer kind (by simpa using hmem)

/-- **Every operation keeps account of the layers,** whichever step of it fails. -/
theorem Kept.perform (h : Kept before o p) (op : ShowOperation) :
    Kept before (perform (o, p) op).1 (perform (o, p) op).2 := by
  cases op with
  | render style d =>
      show Kept before (o.render style d p).2.1 (o.render style d p).2.2
      cases hcreate : p.creationRefusal? with
      | some e =>
          rw [render_of_refused hcreate]
          exact h.unrecorded rfl
      | none =>
          cases harmed : p.library.armed? .readGeometry with
          | some e =>
              obtain ⟨o', q, heq, -, -, hkept⟩ := h.rejected hcreate harmed style d
              rw [heq]
              exact hkept
          | none =>
              obtain ⟨o', q, heq, -, -, hkept⟩ := h.taken hcreate harmed style d
              rw [heq]
              exact hkept
  | remove id =>
      show Kept before (o.remove id p).2.1 (o.remove id p).2.2
      unfold remove
      cases hid : o.layer? id with
      | none => exact h
      | some layer => exact h.removed hid
  | arm call e => exact h.unrecorded rfl

theorem Kept.run (drains : DrainOrders) {p : Viewport} (hp : p.map.Counted)
    (ops : List ShowOperation) :
    Kept p.library.log (run drains p ops).1 (run drains p ops).2 := by
  induction ops using List.reverseRecOn with
  | nil =>
      refine
        { live := by simp [Overlays.run, layer?]
          distinct := by simp [Overlays.run, layer?]
          created := ⟨[], (List.append_nil _).symm, by simp [Overlays.run, layer?], by simp⟩
          counted := hp
          below := ?_ }
      intro calls hcalls layer kind hmem
      obtain rfl : calls = [] := by simpa [Overlays.run] using hcalls
      cases hmem
  | append_singleton ops op ih =>
      rw [Overlays.run, List.foldl_append]
      exact ih.perform op

/-- **One layer for each annotation.** On a map that has been asked for anything before, annotations
are shown and taken off, and whatever is refused on the way, the layers of annotations are accounted
for after each of them; and so is what comes of showing the next one. -/
theorem run_accounted (drains : DrainOrders) (library : MapLibrary) (earlier : List MapOperation)
    (ops : List ShowOperation) :
    let p := Viewport.askAll { library } earlier
    Accounted p.library.log (run drains p ops).1 (run drains p ops).2 ∧
      ∀ style d, Outcome style d (run drains p ops).1 (run drains p ops).2 := by
  intro p
  obtain ⟨calls, -, hcalls⟩ := Viewport.askAll_replayed (p := { library })
    (List.append_nil _).symm .nil earlier
  have hkept : Kept p.library.log (run drains p ops).1 (run drains p ops).2 :=
    Kept.run drains hcalls.counted ops
  exact ⟨hkept.toAccounted, hkept.outcome⟩

/-- An annotation is shown again, and its geometry is not taken. -/
example :
    let d : Document :=
      { id := "a", elements := [{ shape := .point { x := 4.0, y := 9.0, z := 0.0 } }] }
    let (o, p) := run (fun _ => .arrival) {}
      [.render {} d, .arm .readGeometry (.geometry "lost"), .render {} d]
    o.layers = [("a", ⟨2⟩)] ∧ p.map.layers = [(⟨2⟩, { kind := .feature })] := by
  decide

end Overlays

end ImageOverlay
