import ImageOverlay.Overlay.Basic
import ImageOverlay.Proofs.Viewport.Calls

set_option autoImplicit false

/-!
# Who owns the layers of a map

Every layer of a map belongs to somebody: the tiles to the viewer itself, a layer for features to
the annotation it shows, and a drawing layer to a session, whether it still waits for its shape or
only for the deletion of its layer. A session also owns one subscription, to its own layer.
`MapState.OwnedBy` says that the layers and the subscriptions of a map are exactly those that are
owned, each by one owner only, and that every layer is of the kind its owner needs.

The map and its owners change hand in hand. There are few ways to do so, and each of them has its
lemma here: a layer comes and is given to an annotation (`addOverlay`) or to a session
(`addSession`), a layer goes together with what made it somebody's (`removeOverlay`,
`removeHolding`), a layer is changed in place (`put`), or a session is over and keeps its layer for
a while (`regroup`).
-/

namespace ImageOverlay

/-- The layer of the tiles, which is the first one of every map. -/
def tileLayer : LayerHandle := ⟨1⟩

/-- The layers of the annotations. -/
def Overlays.handles (o : Overlays) : List LayerHandle := o.layers.map (·.2)

/-- What a session owns on the map. -/
def DrawSession.holding (s : DrawSession) : RetiringLayer := ⟨s.layer, s.subscription⟩

/-- What the sessions own on the map, the one that waits and those that are over. -/
def holdings (active : Option DrawSession) (retiring : List RetiringLayer) : List RetiringLayer :=
  active.toList.map DrawSession.holding ++ retiring

theorem holding_mem_holdings {active : Option DrawSession} {retiring : List RetiringLayer}
    {s : DrawSession} (hs : s ∈ active) : s.holding ∈ holdings active retiring :=
  List.mem_append_left _ (List.mem_map_of_mem (Option.mem_toList.2 hs))

/-- All layers that are owned. -/
def ownedLayers (o : Overlays) (active : Option DrawSession) (retiring : List RetiringLayer) :
    List LayerHandle :=
  tileLayer :: (o.handles ++ (holdings active retiring).map (·.layer))

/-- **A map in order.** Its layers are those of the tiles, of the annotations and of the sessions,
and no layer has two owners; its subscriptions are those of the sessions. -/
structure MapState.OwnedBy (o : Overlays) (active : Option DrawSession)
    (retiring : List RetiringLayer) (m : MapState) : Prop where
  standing : m.tornDown = false
  layers : m.handles.Perm (ownedLayers o active retiring)
  disjoint : (ownedLayers o active retiring).Nodup
  identities : (o.layers.map (·.1)).Nodup
  tile : m.kind? tileLayer = some .tile
  features : ∀ l ∈ o.handles, m.kind? l = some .feature
  drawing : ∀ h ∈ holdings active retiring, m.kind? h.layer = some .annotationDraw
  mode : ∀ s ∈ active, m.mode? s.layer = some s.shape
  subscriptions :
    m.subscriptions.Perm ((holdings active retiring).map fun h => (h.subscription, h.layer))
  subscribed : ((holdings active retiring).map (·.subscription)).Nodup
  layersBelow : ∀ l ∈ m.handles, l.number < m.nextLayer
  subscriptionsBelow : ∀ e ∈ m.subscriptions, e.1.number < m.nextSubscription

namespace MapState.OwnedBy

variable {o : Overlays} {active : Option DrawSession} {retiring : List RetiringLayer}
  {m : MapState}

/-- A new map with its layer of tiles is owned by the viewer alone. -/
theorem initial : (MapState.addLayer .tile {}).OwnedBy {} none [] where
  standing := rfl
  layers := List.Perm.refl _
  disjoint := List.nodup_singleton _
  identities := List.nodup_nil
  tile := rfl
  features := by simp [Overlays.handles]
  drawing := by simp [holdings]
  mode := by simp
  subscriptions := List.Perm.refl _
  subscribed := List.nodup_nil
  layersBelow := by simp [handles, addLayer, freshLayer]
  subscriptionsBelow := by simp [addLayer]

/-- In which order the annotations are listed makes no difference. -/
theorem of_perm (h : m.OwnedBy o active retiring) {o' : Overlays}
    (hperm : o'.layers.Perm o.layers) : m.OwnedBy o' active retiring := by
  have hhandles : o'.handles.Perm o.handles := hperm.map _
  have howned : (ownedLayers o' active retiring).Perm (ownedLayers o active retiring) :=
    (hhandles.append_right _).cons _
  exact
    { h with
      layers := h.layers.trans howned.symm
      disjoint := howned.nodup_iff.2 h.disjoint
      identities := (hperm.map _).nodup_iff.2 h.identities
      features := fun l hl => h.features l (hhandles.mem_iff.1 hl) }

/-! ## What is owned is there -/

theorem mem_iff (h : m.OwnedBy o active retiring) {l : LayerHandle} :
    l ∈ m.handles ↔ l ∈ ownedLayers o active retiring :=
  h.layers.mem_iff

theorem overlay_mem (h : m.OwnedBy o active retiring) {l : LayerHandle} (hl : l ∈ o.handles) :
    l ∈ m.handles :=
  h.mem_iff.2 (List.mem_cons_of_mem _ (List.mem_append_left _ hl))

theorem holding_mem (h : m.OwnedBy o active retiring) {r : RetiringLayer}
    (hr : r ∈ holdings active retiring) : r.layer ∈ m.handles :=
  h.mem_iff.2 (List.mem_cons_of_mem _ (List.mem_append_right _ (List.mem_map_of_mem hr)))

theorem active_mem (h : m.OwnedBy o active retiring) {s : DrawSession} (hs : s ∈ active) :
    s.layer ∈ m.handles :=
  h.holding_mem (holding_mem_holdings hs)

theorem subscription_mem (h : m.OwnedBy o active retiring) {r : RetiringLayer}
    (hr : r ∈ holdings active retiring) : (r.subscription, r.layer) ∈ m.subscriptions :=
  h.subscriptions.mem_iff.2 (List.mem_map_of_mem hr)

/-- A subscription is always to a layer on the map. -/
theorem subscribed_layer_mem (h : m.OwnedBy o active retiring)
    {e : SubscriptionId × LayerHandle} (he : e ∈ m.subscriptions) : e.2 ∈ m.handles := by
  obtain ⟨r, hr, rfl⟩ := List.mem_map.1 (h.subscriptions.mem_iff.1 he)
  exact h.holding_mem hr

theorem counted (h : m.OwnedBy o active retiring) : m.Counted :=
  ⟨h.layersBelow, fun _ he => h.subscribed_layer_mem he⟩

theorem fresh_not_mem (h : m.OwnedBy o active retiring) : m.freshLayer ∉ m.handles :=
  h.counted.fresh_not_mem

/-! ## A session is over -/

/-- Ownership does not depend on how the holdings are spread over the session that waits and those
that are over. -/
theorem regroup (h : m.OwnedBy o active retiring) {active' : Option DrawSession}
    {retiring' : List RetiringLayer}
    (hperm : (holdings active retiring).Perm (holdings active' retiring'))
    (hactive : ∀ s ∈ active', s ∈ active) : m.OwnedBy o active' retiring' := by
  have howned : (ownedLayers o active retiring).Perm (ownedLayers o active' retiring') :=
    ((hperm.map _).append_left _).cons _
  exact
    { h with
      layers := h.layers.trans howned
      disjoint := howned.nodup_iff.1 h.disjoint
      drawing := fun r hr => h.drawing r (hperm.mem_iff.2 hr)
      mode := fun s hs => h.mode s (hactive s hs)
      subscriptions := h.subscriptions.trans (hperm.map _)
      subscribed := (hperm.map _).nodup_iff.1 h.subscribed }

/-- The session that waits is over; its layer is the next to go. -/
theorem retired {session : DrawSession} (h : m.OwnedBy o (some session) retiring) :
    m.OwnedBy o none (session.holding :: retiring) :=
  h.regroup (List.Perm.refl _) (by simp)

/-- The session that waits is over; its layer is the last to go. -/
theorem concluded {session : DrawSession} (h : m.OwnedBy o (some session) retiring) :
    m.OwnedBy o none (retiring ++ [session.holding]) :=
  h.regroup List.perm_append_comm (by simp)

/-! ## A layer changes in place -/

/-- Ownership does not depend on what a layer shows, and on the shape it lets the user draw only
as long as a session waits. -/
theorem put (h : m.OwnedBy o active retiring) {layer : LayerHandle} {old : Layer} (entry : Layer)
    (hold : m.layer? layer = some old) (hkind : entry.kind = old.kind)
    (hmode : ∀ s ∈ active, entry.mode = old.mode) :
    (m.put layer entry).OwnedBy o active retiring where
  standing := h.standing
  layers := by
    rw [handles_put]
    exact h.layers
  disjoint := h.disjoint
  identities := h.identities
  tile := by
    rw [kind?_put hold hkind]
    exact h.tile
  features := by
    intro l hl
    rw [kind?_put hold hkind]
    exact h.features l hl
  drawing := by
    intro r hr
    rw [kind?_put hold hkind]
    exact h.drawing r hr
  mode := by
    intro s hs
    have hshape := h.mode s hs
    unfold mode? at hshape ⊢
    rw [layer?_put hold]
    by_cases hlayer : s.layer = layer
    · rw [hlayer, hold] at hshape
      rw [if_pos hlayer, Option.bind_some, hmode s hs]
      exact hshape
    · rw [if_neg hlayer]
      exact hshape
  subscriptions := h.subscriptions
  subscribed := h.subscribed
  layersBelow := by
    rw [handles_put]
    exact h.layersBelow
  subscriptionsBelow := h.subscriptionsBelow

/-! ## A layer goes -/

/-- What is left after a layer has gone is owned by those who owned it before. -/
private theorem withoutLayer (h : m.OwnedBy o active retiring) {layer : LayerHandle}
    {o' : Overlays} {active' : Option DrawSession} {retiring' : List RetiringLayer}
    (howned : ownedLayers o' active' retiring' = (ownedLayers o active retiring).filter (· ≠ layer))
    (hoverlays : o'.layers.Sublist o.layers)
    (hactive : ∀ s ∈ active', s ∈ active)
    (hholdings : (holdings active' retiring').Sublist (holdings active retiring))
    (hsubscriptions : (m.withoutLayer layer).subscriptions.Perm
      ((holdings active' retiring').map fun r => (r.subscription, r.layer))) :
    (m.withoutLayer layer).OwnedBy o' active' retiring' := by
  have hne : ∀ l ∈ ownedLayers o' active' retiring', l ≠ layer := by
    intro l hl
    rw [howned, List.mem_filter] at hl
    simpa using hl.2
  refine
    { standing := h.standing
      layers := ?_
      disjoint := ?_
      identities := (hoverlays.map _).nodup h.identities
      tile := ?_
      features := ?_
      drawing := ?_
      mode := ?_
      subscriptions := hsubscriptions
      subscribed := (hholdings.map _).nodup h.subscribed
      layersBelow := ?_
      subscriptionsBelow := ?_ }
  · rw [handles_withoutLayer, howned]
    exact h.layers.filter _
  · rw [howned]
    exact h.disjoint.filter _
  · rw [kind?_withoutLayer (hne _ List.mem_cons_self)]
    exact h.tile
  · intro l hl
    rw [kind?_withoutLayer (hne l (List.mem_cons_of_mem _ (List.mem_append_left _ hl)))]
    exact h.features l ((hoverlays.map _).mem hl)
  · intro r hr
    rw [kind?_withoutLayer
      (hne r.layer (List.mem_cons_of_mem _ (List.mem_append_right _ (List.mem_map_of_mem hr))))]
    exact h.drawing r (hholdings.mem hr)
  · intro s hs
    have hlayer : s.layer ≠ layer :=
      hne _ (List.mem_cons_of_mem _
        (List.mem_append_right _ (List.mem_map_of_mem (holding_mem_holdings hs))))
    unfold mode?
    rw [layer?_withoutLayer, if_neg hlayer]
    exact h.mode s (hactive s hs)
  · intro l hl
    rw [handles_withoutLayer, List.mem_filter] at hl
    exact h.layersBelow l hl.1
  · intro e he
    exact h.subscriptionsBelow e (List.mem_of_mem_filter he)

/-- An annotation loses its layer. -/
theorem removeOverlay (h : m.OwnedBy o active retiring) {xs ys : List (String × LayerHandle)}
    {id : String} {layer : LayerHandle} (hsplit : o.layers = xs ++ (id, layer) :: ys)
    {o' : Overlays} (hrest : o'.layers = xs ++ ys) :
    (m.withoutLayer layer).OwnedBy o' active retiring := by
  have howned : ownedLayers o active retiring
      = (tileLayer :: xs.map (·.2))
        ++ layer :: (ys.map (·.2) ++ (holdings active retiring).map (·.layer)) := by
    simp [ownedLayers, Overlays.handles, hsplit]
  have hnodup := h.disjoint
  rw [howned] at hnodup
  refine h.withoutLayer ?_ ?_ (fun _ hs => hs) (List.Sublist.refl _) ?_
  · rw [howned, Table.filter_ne_self hnodup]
    simp [ownedLayers, Overlays.handles, hrest]
  · rw [hsplit, hrest]
    exact (List.sublist_cons_self _ _).append_left _
  · -- No session has a subscription to the layer of an annotation.
    have hkeep : (m.withoutLayer layer).subscriptions = m.subscriptions := by
      unfold MapState.withoutLayer
      rw [List.filter_eq_self]
      intro e he
      obtain ⟨r, hr, rfl⟩ := List.mem_map.1 (h.subscriptions.mem_iff.1 he)
      have hlayer : r.layer ≠ layer := by
        intro heq
        obtain ⟨-, hright, -⟩ := List.nodup_append.1 hnodup
        exact (List.nodup_cons.1 hright).1
          (List.mem_append_right _ (heq ▸ List.mem_map_of_mem hr))
      simpa using hlayer
    rw [hkeep]
    exact h.subscriptions

/-- A session that has lost its subscription loses nothing more with it than its layer. -/
theorem withoutSubscription_withoutLayer (h : m.OwnedBy o active retiring) {r : RetiringLayer}
    (hr : r ∈ holdings active retiring) :
    (m.withoutSubscription r.subscription).withoutLayer r.layer = m.withoutLayer r.layer := by
  unfold MapState.withoutSubscription MapState.withoutLayer
  simp only [List.filter_filter, MapState.mk.injEq, true_and, and_true]
  apply List.filter_congr
  intro e he
  obtain ⟨q, hq, rfl⟩ := List.mem_map.1 (h.subscriptions.mem_iff.1 he)
  by_cases hsub : q.subscription = r.subscription
  · have hqr : q = r := List.inj_on_of_nodup_map h.subscribed hq hr hsub
    simp [hqr]
  · simp [hsub]

/-- A session loses its layer. -/
theorem removeHolding (h : m.OwnedBy o active retiring) {xs ys : List RetiringLayer}
    {r : RetiringLayer} (hsplit : holdings active retiring = xs ++ r :: ys)
    {active' : Option DrawSession} {retiring' : List RetiringLayer}
    (hrest : holdings active' retiring' = xs ++ ys) (hactive : ∀ s ∈ active', s ∈ active) :
    (m.withoutLayer r.layer).OwnedBy o active' retiring' := by
  have howned : ownedLayers o active retiring
      = (tileLayer :: (o.handles ++ xs.map (·.layer))) ++ r.layer :: ys.map (·.layer) := by
    simp [ownedLayers, hsplit]
  have hnodup := h.disjoint
  rw [howned] at hnodup
  have hlayers : ((xs ++ r :: ys).map (·.layer)).Nodup := by
    rw [← hsplit]
    exact (List.nodup_append.1 (List.nodup_cons.1 h.disjoint).2).2.1
  refine h.withoutLayer ?_ (List.Sublist.refl _) hactive ?_ ?_
  · rw [howned, Table.filter_ne_self hnodup]
    simp [ownedLayers, hrest]
  · rw [hsplit, hrest]
    exact (List.sublist_cons_self _ _).append_left _
  · have hsubs := h.subscriptions.filter (fun e => e.2 ≠ r.layer)
    rw [hsplit, List.filter_map] at hsubs
    rw [hrest, ← Table.filter_ne_eq hlayers]
    exact hsubs

/-! ## A layer comes -/

/-- What was owned before a layer has come is what it was. -/
private theorem layer?_addLayer_of_mem (h : m.OwnedBy o active retiring) (kind : LayerKind)
    {l : LayerHandle} (hl : l ∈ m.handles) : (m.addLayer kind).layer? l = m.layer? l := by
  have hne : l ≠ m.freshLayer := by
    intro heq
    exact h.fresh_not_mem (heq ▸ hl)
  rw [layer?_addLayer h.fresh_not_mem, if_neg hne]

/-- A new layer belongs to nobody else. -/
private theorem fresh_owned (h : m.OwnedBy o active retiring) {owned : List LayerHandle}
    (hperm : (ownedLayers o active retiring ++ [m.freshLayer]).Perm owned) :
    (m.handles ++ [m.freshLayer]).Perm owned ∧ owned.Nodup := by
  refine ⟨(h.layers.append_right _).trans hperm, hperm.nodup_iff.1 ?_⟩
  rw [List.nodup_append_comm, List.singleton_append, List.nodup_cons]
  exact ⟨fun hmem => h.fresh_not_mem (h.mem_iff.2 hmem), h.disjoint⟩

private theorem below_succ (h : m.OwnedBy o active retiring) :
    ∀ l ∈ m.handles ++ [m.freshLayer], l.number < m.nextLayer + 1 := by
  intro l hl
  rcases List.mem_append.1 hl with hl | hl
  · have := h.layersBelow l hl
    omega
  · rw [List.mem_singleton.1 hl]
    exact Nat.lt_succ_self _

/-- A new layer is given to an annotation that has none. -/
theorem addOverlay (h : m.OwnedBy o active retiring) {id : String}
    (hid : id ∉ o.layers.map (·.1)) {o' : Overlays}
    (hmore : o'.layers = o.layers ++ [(id, m.freshLayer)]) :
    (m.addLayer .feature).OwnedBy o' active retiring := by
  have hperm : (ownedLayers o active retiring ++ [m.freshLayer]).Perm
      (ownedLayers o' active retiring) := by
    simp only [ownedLayers, Overlays.handles, hmore, List.map_append, List.map_cons, List.map_nil,
      List.cons_append, List.append_assoc]
    exact (List.perm_append_comm.append_left _).cons _
  obtain ⟨hlayers, hnodup⟩ := h.fresh_owned hperm
  refine
    { standing := h.standing
      layers := by
        rw [handles_addLayer]
        exact hlayers
      disjoint := hnodup
      identities := ?_
      tile := ?_
      features := ?_
      drawing := ?_
      mode := ?_
      subscriptions := h.subscriptions
      subscribed := h.subscribed
      layersBelow := by
        rw [handles_addLayer]
        exact h.below_succ
      subscriptionsBelow := h.subscriptionsBelow }
  · rw [hmore, List.map_append, List.nodup_append_comm]
    exact List.nodup_cons.2 ⟨hid, h.identities⟩
  · unfold kind?
    rw [h.layer?_addLayer_of_mem _ (mem_handles_of_kind h.tile)]
    exact h.tile
  · intro l hl
    rw [Overlays.handles, hmore, List.map_append, List.mem_append] at hl
    rcases hl with hl | hl
    · unfold kind?
      rw [h.layer?_addLayer_of_mem _ (h.overlay_mem hl)]
      exact h.features l hl
    · rw [List.mem_singleton.1 hl, kind?_addLayer h.fresh_not_mem, if_pos rfl]
  · intro r hr
    unfold kind?
    rw [h.layer?_addLayer_of_mem _ (h.holding_mem hr)]
    exact h.drawing r hr
  · intro s hs
    unfold mode?
    rw [h.layer?_addLayer_of_mem _ (h.active_mem hs)]
    exact h.mode s hs

/-- A new drawing layer is given to a session. -/
theorem addSession (h : m.OwnedBy o none retiring) (shape : ShapeKind) (options : DrawOptions)
    (request : RequestId) :
    (m.addDrawing shape).OwnedBy o
      (some
        { shape, layer := m.freshLayer, subscription := m.freshSubscription, options, request })
      retiring := by
  have hperm : (ownedLayers o none retiring ++ [m.freshLayer]).Perm
      (ownedLayers o
        (some
          { shape, layer := m.freshLayer, subscription := m.freshSubscription, options, request })
        retiring) := by
    simp only [ownedLayers, holdings, Option.toList_none, Option.toList_some, List.map_nil,
      List.map_cons, List.nil_append, List.cons_append, List.append_assoc]
    exact ((List.perm_append_singleton _ _).append_left _).cons _
  obtain ⟨hlayers, hnodup⟩ := h.fresh_owned hperm
  have hkeep : ∀ l ∈ m.handles, (m.addDrawing shape).layer? l = m.layer? l := by
    intro l hl
    rw [layer?_addDrawing h.fresh_not_mem, if_neg]
    intro heq
    exact h.fresh_not_mem (heq ▸ hl)
  have hnew : (m.addDrawing shape).layer? m.freshLayer
      = some { kind := .annotationDraw, mode := some shape } := by
    rw [layer?_addDrawing h.fresh_not_mem, if_pos rfl]
  refine
    { standing := h.standing
      layers := by
        rw [handles_addDrawing]
        exact hlayers
      disjoint := hnodup
      identities := h.identities
      tile := ?_
      features := ?_
      drawing := ?_
      mode := ?_
      subscriptions := ?_
      subscribed := ?_
      layersBelow := by
        rw [handles_addDrawing]
        exact h.below_succ
      subscriptionsBelow := ?_ }
  · unfold kind?
    rw [hkeep _ (mem_handles_of_kind h.tile)]
    exact h.tile
  · intro l hl
    unfold kind?
    rw [hkeep l (h.overlay_mem hl)]
    exact h.features l hl
  · intro r hr
    unfold kind?
    rcases List.mem_cons.1 hr with rfl | hr
    · exact congrArg (Option.map Layer.kind) hnew
    · rw [hkeep _ (h.holding_mem hr)]
      exact h.drawing r hr
  · intro s hs
    obtain rfl := Option.mem_some.1 hs
    exact congrArg (Option.bind · Layer.mode) hnew
  · exact (h.subscriptions.append_right _).trans (List.perm_append_singleton _ _)
  · refine List.nodup_cons.2 ⟨?_, h.subscribed⟩
    intro hmem
    obtain ⟨r, hr, hsub⟩ := List.mem_map.1 hmem
    have hlt := h.subscriptionsBelow _ (h.subscription_mem hr)
    rw [hsub] at hlt
    exact Nat.lt_irrefl _ hlt
  · intro e he
    rcases List.mem_append.1 he with he | he
    · exact Nat.lt_succ_of_lt (h.subscriptionsBelow e he)
    · rw [List.mem_singleton.1 he]
      exact Nat.lt_succ_self _

end MapState.OwnedBy

end ImageOverlay
