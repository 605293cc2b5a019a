import ImageOverlay.Proofs.Viewport.Orderly

set_option autoImplicit false

/-!
# The record of calls to one map

A map does not mind if a layer is deleted twice or a subscription ends that nobody has: such calls
go on record like any other. Whether the calls of a record make sense has to be read off the record
itself, and this is done here without a look at the map. `Live` and `Subscribed` say what the calls
so far have left on the map, and `Sensible` says that every call is about something that is left.

The other side is the state of the map. `Tracks` ties the two together, and `Recorded` is the
invariant: the calls made so far are sensible, and what they have left is what the map has. Orderly
calls keep it.
-/

namespace ImageOverlay

/-! ## Reading a record -/

/-- The layer a call uses. -/
def Call.used? : Call → Option LayerHandle
  | .deleteLayer layer => some layer
  | .setInteractionMode layer _ => some layer
  | .subscribe layer _ => some layer
  | .readGeometry layer _ => some layer
  | _ => none

/-- Whether a call builds a map or tears it down. -/
def Call.isBoundary : Call → Bool
  | .createMap _ _ _ => true
  | .teardown => true
  | _ => false

/-- Whether a call leaves the layers and the subscriptions of a map as they are. -/
def Call.isQuiet : Call → Bool
  | .setInteractionMode _ _ => true
  | .readGeometry _ _ => true
  | .draw => true
  | _ => false

/-- A call uses the layer it deletes. -/
theorem Call.used?_of_deleted? {c : Call} {layer : LayerHandle} (h : c.deleted? = some layer) :
    c.used? = some layer := by
  cases c with
  | deleteLayer => exact h
  | createMap | createLayer | setInteractionMode | subscribe | unsubscribe | readGeometry | draw
  | teardown => cases h

theorem Call.isBoundary_eq_false {c : Call} (h : c.isQuiet = true) : c.isBoundary = false := by
  cases c with
  | setInteractionMode | readGeometry | draw => rfl
  | createMap | createLayer | deleteLayer | subscribe | unsubscribe | teardown => cases h

/-- A layer that was created and not deleted. -/
def Live (layer : LayerHandle) (calls : List Call) : Prop :=
  (∃ kind, Call.createLayer layer kind ∈ calls) ∧ Call.deleteLayer layer ∉ calls

/-- A subscription that was made and did not end, neither by itself nor with its layer. -/
def Subscribed (s : SubscriptionId) (layer : LayerHandle) (calls : List Call) : Prop :=
  Call.subscribe layer s ∈ calls ∧ Call.unsubscribe s ∉ calls ∧ Call.deleteLayer layer ∉ calls

/-- **Calls to one map that make sense.** Between the building of the map and its end, every layer
that is used is live, no layer is deleted twice, and a subscription that ends is one that is there
and ends right before its layer is deleted. -/
structure Sensible (calls : List Call) : Prop where
  inside : ∀ c ∈ calls, c.isBoundary = false
  live : ∀ before c after layer,
    calls = before ++ c :: after → c.used? = some layer → Live layer before
  deletedOnce : (calls.filterMap Call.deleted?).Nodup
  unsubscribed : ∀ before s after, calls = before ++ .unsubscribe s :: after →
    ∃ layer rest, after = .deleteLayer layer :: rest ∧ Subscribed s layer before

theorem mem_deletions {calls : List Call} {layer : LayerHandle} :
    layer ∈ calls.filterMap Call.deleted? ↔ Call.deleteLayer layer ∈ calls := by
  rw [List.mem_filterMap]
  constructor
  · rintro ⟨c, hc, hdeleted⟩
    cases c with
    | deleteLayer l =>
        obtain rfl := Option.some.inj hdeleted
        exact hc
    | createMap | createLayer | setInteractionMode | subscribe | unsubscribe | readGeometry
    | draw | teardown => cases hdeleted
  · intro hmem
    exact ⟨_, hmem, rfl⟩

/-- Where a list with one element more is cut in two, the cut is before that element or in the list
itself. -/
theorem concat_eq_append_cons {α : Type} {xs before after : List α} {x c : α}
    (h : xs ++ [x] = before ++ c :: after) :
    (before = xs ∧ c = x ∧ after = []) ∨ ∃ rest, after = rest ++ [x] ∧ xs = before ++ c :: rest := by
  rcases List.eq_nil_or_concat after with rfl | ⟨rest, z, rfl⟩
  · obtain ⟨hxs, hx⟩ := List.append_inj' h rfl
    exact Or.inl ⟨hxs.symm, (List.cons.inj hx).1.symm, rfl⟩
  · rw [List.concat_eq_append, ← List.cons_append, ← List.append_assoc] at h
    obtain ⟨hxs, hx⟩ := List.append_inj' h rfl
    obtain rfl := (List.cons.inj hx).1
    exact Or.inr ⟨rest, List.concat_eq_append, hxs⟩

namespace Sensible

variable {calls : List Call}

theorem nil : Sensible [] where
  inside := by simp
  live := by simp
  deletedOnce := List.nodup_nil
  unsubscribed := by simp

/-- A call that uses a live layer, or none, makes sense. The end of a subscription only does
together with what follows. -/
theorem concat (h : Sensible calls) {c : Call} (hinside : c.isBoundary = false)
    (hused : ∀ layer, c.used? = some layer → Live layer calls)
    (hkeep : ∀ s, c ≠ .unsubscribe s) : Sensible (calls ++ [c]) where
  inside := by
    intro d hd
    rcases List.mem_append.1 hd with hd | hd
    · exact h.inside d hd
    · rw [List.mem_singleton.1 hd]
      exact hinside
  live := by
    intro before d after layer hsplit hd
    rcases concat_eq_append_cons hsplit with ⟨rfl, rfl, -⟩ | ⟨rest, -, hcalls⟩
    · exact hused layer hd
    · exact h.live before d rest layer hcalls hd
  deletedOnce := by
    rw [List.filterMap_append, List.nodup_append_comm]
    cases hdeleted : c.deleted? with
    | none => simpa [hdeleted] using h.deletedOnce
    | some layer =>
        -- The layer is used by its deletion, so it is live and not among the deleted ones.
        have hlive : Live layer calls := hused layer (Call.used?_of_deleted? hdeleted)
        simp only [List.filterMap_cons, hdeleted, List.filterMap_nil, List.singleton_append]
        exact List.nodup_cons.2 ⟨fun hmem => hlive.2 (mem_deletions.1 hmem), h.deletedOnce⟩
  unsubscribed := by
    intro before s after hsplit
    rcases concat_eq_append_cons hsplit with ⟨-, hc, -⟩ | ⟨rest, rfl, hcalls⟩
    · exact absurd hc.symm (hkeep s)
    · obtain ⟨layer, rest', rfl, hsub⟩ := h.unsubscribed before s rest hcalls
      exact ⟨layer, rest' ++ [c], rfl, hsub⟩

/-- A subscription may end if its layer goes with it. -/
theorem release (h : Sensible calls) {s : SubscriptionId} {layer : LayerHandle}
    (hsub : Subscribed s layer calls) (hlive : Live layer calls) :
    Sensible (calls ++ [.unsubscribe s] ++ [.deleteLayer layer]) where
  inside := by
    intro d hd
    rw [List.append_assoc] at hd
    rcases List.mem_append.1 hd with hd | hd
    · exact h.inside d hd
    · rcases List.mem_pair.1 hd with rfl | rfl <;> rfl
  live := by
    intro before d after l hsplit hd
    -- Of the two new calls only the deletion uses a layer, and what comes before it is `calls` and
    -- the end of the subscription.
    rcases concat_eq_append_cons hsplit with ⟨rfl, rfl, -⟩ | ⟨rest, -, hrest⟩
    · obtain rfl := Option.some.inj hd
      refine ⟨?_, ?_⟩
      · obtain ⟨kind, hkind⟩ := hlive.1
        exact ⟨kind, List.mem_append_left _ hkind⟩
      · simpa using hlive.2
    · rcases concat_eq_append_cons hrest with ⟨-, rfl, -⟩ | ⟨rest', -, hcalls⟩
      · cases hd
      · exact h.live before d rest' l hcalls hd
  deletedOnce := by
    simp only [List.filterMap_append, List.filterMap_cons, List.filterMap_nil, Call.deleted?,
      List.append_nil]
    rw [List.nodup_append_comm]
    exact List.nodup_cons.2 ⟨fun hmem => hlive.2 (mem_deletions.1 hmem), h.deletedOnce⟩
  unsubscribed := by
    intro before s' after hsplit
    rcases concat_eq_append_cons hsplit with ⟨-, hc, -⟩ | ⟨rest, rfl, hrest⟩
    · cases hc
    · -- The end of the subscription is the last call but one, or one of the calls before.
      rcases concat_eq_append_cons hrest with ⟨rfl, hc, rfl⟩ | ⟨rest', rfl, hcalls⟩
      · obtain rfl := Call.unsubscribe.inj hc
        exact ⟨layer, [], rfl, hsub⟩
      · obtain ⟨l, rest, rfl, hsub'⟩ := h.unsubscribed before s' rest' hcalls
        exact ⟨l, _, rfl, hsub'⟩

/-- What is deleted was created. -/
theorem created_of_deleted (h : Sensible calls) {layer : LayerHandle}
    (hmem : .deleteLayer layer ∈ calls) : ∃ kind, .createLayer layer kind ∈ calls := by
  obtain ⟨before, after, rfl⟩ := List.append_of_mem hmem
  obtain ⟨kind, hkind⟩ := (h.live before _ after layer rfl rfl).1
  exact ⟨kind, List.mem_append_left _ hkind⟩

/-- What ends was there. -/
theorem subscribed_of_unsubscribed (h : Sensible calls) {s : SubscriptionId}
    (hmem : .unsubscribe s ∈ calls) : ∃ layer, .subscribe layer s ∈ calls := by
  obtain ⟨before, after, rfl⟩ := List.append_of_mem hmem
  obtain ⟨layer, -, -, hsub⟩ := h.unsubscribed before s after rfl
  exact ⟨layer, List.mem_append_left _ hsub.1⟩

end Sensible

/-! ## The record and the map -/

/-- What is on the map is what the calls have left there, and the numbers the map gives out next
are not in the record yet. -/
structure Tracks (calls : List Call) (m : MapState) : Prop where
  layers : ∀ layer, layer ∈ m.handles ↔ Live layer calls
  subscriptions : ∀ s layer, (s, layer) ∈ m.subscriptions ↔ Subscribed s layer calls
  layersBelow : ∀ layer kind, .createLayer layer kind ∈ calls → layer.number < m.nextLayer
  subscriptionsBelow : ∀ layer s, .subscribe layer s ∈ calls → s.number < m.nextSubscription

namespace Tracks

variable {calls : List Call} {m : MapState}

theorem nil : Tracks [] {} where
  layers := by simp [MapState.handles, Live]
  subscriptions := by simp [Subscribed]
  layersBelow := by simp
  subscriptionsBelow := by simp

theorem freshLayer_not_deleted (h : Tracks calls m) (hs : Sensible calls) :
    .deleteLayer m.freshLayer ∉ calls := by
  intro hmem
  obtain ⟨kind, hkind⟩ := hs.created_of_deleted hmem
  exact Nat.lt_irrefl _ (h.layersBelow _ kind hkind)

theorem freshSubscription_not_ended (h : Tracks calls m) (hs : Sensible calls) :
    .unsubscribe m.freshSubscription ∉ calls := by
  intro hmem
  obtain ⟨layer, hlayer⟩ := hs.subscribed_of_unsubscribed hmem
  exact Nat.lt_irrefl _ (h.subscriptionsBelow layer _ hlayer)

theorem addLayer (h : Tracks calls m) (hs : Sensible calls) (kind : LayerKind) :
    Tracks (calls ++ [.createLayer m.freshLayer kind]) (m.addLayer kind) where
  layers := by
    intro layer
    have hfresh := h.freshLayer_not_deleted hs
    rw [MapState.handles_addLayer, List.mem_append, List.mem_singleton, h.layers]
    unfold Live
    constructor
    · rintro (⟨⟨k, hk⟩, hdeleted⟩ | rfl)
      · exact ⟨⟨k, List.mem_append_left _ hk⟩, by simpa using hdeleted⟩
      · exact ⟨⟨kind, by simp⟩, by simpa using hfresh⟩
    · rintro ⟨⟨k, hk⟩, hdeleted⟩
      rcases List.mem_append.1 hk with hk | hk
      · exact Or.inl ⟨⟨k, hk⟩, by simpa using hdeleted⟩
      · exact Or.inr (Call.createLayer.inj (List.mem_singleton.1 hk)).1
  subscriptions := by
    intro s layer
    refine (h.subscriptions s layer).trans ?_
    simp [Subscribed]
  layersBelow := by
    intro layer k hmem
    rcases List.mem_append.1 hmem with hmem | hmem
    · exact Nat.lt_succ_of_lt (h.layersBelow layer k hmem)
    · obtain ⟨rfl, -⟩ := Call.createLayer.inj (List.mem_singleton.1 hmem)
      exact Nat.lt_succ_self _
  subscriptionsBelow := by
    intro layer s hmem
    exact h.subscriptionsBelow layer s (by simpa using hmem)

theorem addSubscription (h : Tracks calls m) (hs : Sensible calls) {layer : LayerHandle}
    (hlayer : layer ∈ m.handles) :
    Tracks (calls ++ [.subscribe layer m.freshSubscription]) (m.addSubscription layer) where
  layers := by
    intro l
    refine (h.layers l).trans ?_
    simp [Live]
  subscriptions := by
    intro s l
    have hfresh := h.freshSubscription_not_ended hs
    have hkept := ((h.layers layer).1 hlayer).2
    show (s, l) ∈ m.subscriptions ++ [(m.freshSubscription, layer)] ↔ _
    rw [List.mem_append, List.mem_singleton, h.subscriptions]
    unfold Subscribed
    constructor
    · rintro (⟨hsub, hended, hdeleted⟩ | hnew)
      · exact ⟨List.mem_append_left _ hsub, by simpa using hended, by simpa using hdeleted⟩
      · obtain ⟨rfl, rfl⟩ := Prod.mk.inj hnew
        exact ⟨by simp, by simpa using hfresh, by simpa using hkept⟩
    · rintro ⟨hsub, hended, hdeleted⟩
      rcases List.mem_append.1 hsub with hsub | hsub
      · exact Or.inl ⟨hsub, by simpa using hended, by simpa using hdeleted⟩
      · obtain ⟨rfl, rfl⟩ := Call.subscribe.inj (List.mem_singleton.1 hsub)
        exact Or.inr rfl
  layersBelow := by
    intro l kind hmem
    exact h.layersBelow l kind (by simpa using hmem)
  subscriptionsBelow := by
    intro l s hmem
    rcases List.mem_append.1 hmem with hmem | hmem
    · exact Nat.lt_succ_of_lt (h.subscriptionsBelow l s hmem)
    · obtain ⟨-, rfl⟩ := Call.subscribe.inj (List.mem_singleton.1 hmem)
      exact Nat.lt_succ_self _

theorem withoutLayer (h : Tracks calls m) (layer : LayerHandle) :
    Tracks (calls ++ [.deleteLayer layer]) (m.withoutLayer layer) where
  layers := by
    intro l
    rw [MapState.handles_withoutLayer, List.mem_filter, decide_eq_true_iff, h.layers]
    simp [Live, and_assoc]
  subscriptions := by
    intro s l
    show (s, l) ∈ m.subscriptions.filter (·.2 ≠ layer) ↔ _
    rw [List.mem_filter, decide_eq_true_iff, h.subscriptions]
    simp [Subscribed, and_assoc]
  layersBelow := by
    intro l kind hmem
    exact h.layersBelow l kind (by simpa using hmem)
  subscriptionsBelow := by
    intro l s hmem
    exact h.subscriptionsBelow l s (by simpa using hmem)

theorem withoutSubscription (h : Tracks calls m) (s : SubscriptionId) :
    Tracks (calls ++ [.unsubscribe s]) (m.withoutSubscription s) where
  layers := by
    intro l
    rw [MapState.handles_withoutSubscription, h.layers]
    simp [Live]
  subscriptions := by
    intro s' l
    show (s', l) ∈ m.subscriptions.filter (·.1 ≠ s) ↔ _
    rw [List.mem_filter, decide_eq_true_iff, h.subscriptions]
    simp only [Subscribed, List.mem_append, List.mem_singleton, not_or, reduceCtorEq, or_false,
      Call.unsubscribe.injEq]
    tauto
  layersBelow := by
    intro l kind hmem
    exact h.layersBelow l kind (by simpa using hmem)
  subscriptionsBelow := by
    intro l s' hmem
    exact h.subscriptionsBelow l s' (by simpa using hmem)

theorem quiet (h : Tracks calls m) {c : Call} (hc : c.isQuiet = true) {m' : MapState}
    (hlayers : m'.handles = m.handles) (hsubscriptions : m'.subscriptions = m.subscriptions)
    (hnextLayer : m'.nextLayer = m.nextLayer)
    (hnextSubscription : m'.nextSubscription = m.nextSubscription) :
    Tracks (calls ++ [c]) m' := by
  have hmem : ∀ d : Call, d.isQuiet = false → (d ∈ calls ++ [c] ↔ d ∈ calls) := by
    intro d hd
    rw [List.mem_append, List.mem_singleton, or_iff_left]
    rintro rfl
    rw [hc] at hd
    cases hd
  constructor
  · intro layer
    rw [hlayers, h.layers, Live, Live, hmem _ rfl]
    exact and_congr_left fun _ => exists_congr fun kind => (hmem _ rfl).symm
  · intro s layer
    rw [hsubscriptions, h.subscriptions, Subscribed, Subscribed, hmem _ rfl, hmem _ rfl, hmem _ rfl]
  · intro layer kind hcreate
    rw [hnextLayer]
    exact h.layersBelow layer kind ((hmem _ rfl).1 hcreate)
  · intro layer s hsub
    rw [hnextSubscription]
    exact h.subscriptionsBelow layer s ((hmem _ rfl).1 hsub)

end Tracks

namespace Viewport

variable {earlier : List Call} {p q : Viewport}

/-- The calls since an earlier record are calls to this map, make sense and say what is on it. -/
def Recorded (earlier : List Call) (p : Viewport) : Prop :=
  ∃ calls, p.library.log = earlier ++ calls ∧ Sensible calls ∧ Tracks calls p.map

/-- A map that was just built has seen no call. -/
theorem recorded_of_new {library : MapLibrary} (hlog : library.log = earlier) :
    Recorded earlier { library } :=
  ⟨[], by rw [List.append_nil]; exact hlog, .nil, .nil⟩

/-- A call that leaves the layers as they are can be about any layer on the map. -/
theorem Recorded.quiet (h : Recorded earlier p) {c : Call} (hc : c.isQuiet = true)
    (hused : ∀ layer, c.used? = some layer → layer ∈ p.map.handles) {m : MapState}
    (hlayers : m.handles = p.map.handles) (hsubscriptions : m.subscriptions = p.map.subscriptions)
    (hnextLayer : m.nextLayer = p.map.nextLayer)
    (hnextSubscription : m.nextSubscription = p.map.nextSubscription) :
    Recorded earlier (p.commit m c) := by
  obtain ⟨calls, hlog, hs, ht⟩ := h
  refine ⟨calls ++ [c], ?_, ?_, ht.quiet hc hlayers hsubscriptions hnextLayer hnextSubscription⟩
  · rw [← List.append_assoc, ← hlog]
    rfl
  · refine hs.concat (Call.isBoundary_eq_false hc) ?_ ?_
    · exact fun layer hlayer => (ht.layers layer).1 (hused layer hlayer)
    · rintro s rfl
      cases hc

/-- Orderly calls make sense. -/
theorem Orderly.recorded (h : Orderly p q) (hp : Recorded earlier p) : Recorded earlier q := by
  obtain ⟨calls, hlog, hs, ht⟩ := hp
  -- `hp` as a whole is for the calls that leave the layers alone; for the others the record and
  -- the map change together.
  have hp : Recorded earlier p := ⟨calls, hlog, hs, ht⟩
  have hrecord : ∀ c : Call, (p.library.record c).log = earlier ++ (calls ++ [c]) := by
    intro c
    rw [← List.append_assoc, ← hlog]
    rfl
  cases h with
  | unrecorded library hlibrary => exact ⟨calls, hlibrary.trans hlog, hs, ht⟩
  | createLayer kind =>
      exact ⟨_, hrecord _, hs.concat rfl (by simp [Call.used?]) (by simp), ht.addLayer hs kind⟩
  | deleteLayer layer hlayer =>
      refine ⟨_, hrecord _, hs.concat rfl ?_ (by simp), ht.withoutLayer layer⟩
      intro l hl
      obtain rfl := Option.some.inj hl
      exact (ht.layers layer).1 hlayer
  | discard layer s hsub hlayer =>
      refine ⟨calls ++ [.unsubscribe s] ++ [.deleteLayer layer], ?_, ?_, ?_⟩
      · show p.library.log ++ [.unsubscribe s] ++ [.deleteLayer layer] = _
        rw [hlog, List.append_assoc, List.append_assoc, List.append_assoc]
      · exact hs.release ((ht.subscriptions s layer).1 hsub) ((ht.layers layer).1 hlayer)
      · exact (ht.withoutSubscription s).withoutLayer layer
  | subscribe layer hlayer =>
      refine ⟨_, hrecord _, hs.concat rfl ?_ (by simp), ht.addSubscription hs hlayer⟩
      intro l hl
      obtain rfl := Option.some.inj hl
      exact (ht.layers layer).1 hlayer
  | setInteractionMode layer entry mode hlayer =>
      refine hp.quiet rfl ?_ (MapState.handles_put _ _ _) rfl rfl rfl
      intro l hl
      obtain rfl := Option.some.inj hl
      exact hlayer
  | readGeometry layer entry count hlayer =>
      refine hp.quiet rfl ?_ (MapState.handles_put _ _ _) rfl rfl rfl
      intro l hl
      obtain rfl := Option.some.inj hl
      exact hlayer
  | draw =>
      refine hp.quiet rfl ?_ rfl rfl rfl rfl
      intro l hl
      cases hl

theorem Course.recorded (h : Course p q) (hp : Recorded earlier p) : Recorded earlier q :=
  Course.invariant (P := Recorded earlier) (fun _ _ => Orderly.recorded) h hp

end Viewport

end ImageOverlay
