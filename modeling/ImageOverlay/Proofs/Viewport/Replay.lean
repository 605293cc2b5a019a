import ImageOverlay.Proofs.Viewport.Calls

set_option autoImplicit false

/-!
# A map is what its record says

A map changes its layers and its subscriptions, and whatever it does goes on record. Whoever only
has the record can work out the map from it: `MapState.replay` says what one call on record makes
of a map, and to replay the calls one after the other, from a map without layers, gives the map as
it is (`Viewport.replay_record`). The refused calls are not on record, and they have not changed
anything either.

The record is read without a look at the map, so a call that changes a layer in place changes
whatever stands under its handle (`MapState.adjust`). The map itself looks the layer up first and
puts another one there. That this is the same depends on the handles: no two layers have the same
one, because the map counts them (`Numbered`, `Replayed`).
-/

namespace ImageOverlay

/-! ## Asking a map -/

/-- What a map can be asked for. -/
inductive MapOperation where
  | createLayer (kind : LayerKind)
  | deleteLayer (layer : LayerHandle)
  | setInteractionMode (layer : LayerHandle) (mode : Option ShapeKind)
  | subscribe (layer : LayerHandle)
  | unsubscribe (subscription : SubscriptionId)
  | readGeometry (layer : LayerHandle) (geometry : FeatureCollection)
  | draw
  | teardown

/-- What a map answers if it does as it is asked. -/
inductive MapAnswer where
  | done
  | layer (layer : LayerHandle)
  | subscription (subscription : SubscriptionId)
deriving DecidableEq, Repr

namespace Viewport

/-- Ask for one thing. -/
def ask (p : Viewport) : MapOperation → Except ViewportError MapAnswer × Viewport
  | .createLayer kind => ((p.createLayer kind).1.map .layer, (p.createLayer kind).2)
  | .deleteLayer layer => (.ok .done, p.deleteLayer layer)
  | .setInteractionMode layer mode =>
      ((p.setInteractionMode layer mode).1.map fun _ => .done, (p.setInteractionMode layer mode).2)
  | .subscribe layer => ((p.subscribe layer).1.map .subscription, (p.subscribe layer).2)
  | .unsubscribe subscription => (.ok .done, p.unsubscribe subscription)
  | .readGeometry layer geometry =>
      ((p.readGeometry layer geometry).1.map fun _ => .done, (p.readGeometry layer geometry).2)
  | .draw => (.ok .done, p.draw)
  | .teardown => (.ok .done, p.teardown)

/-- Ask for one thing after the other, whether or not it is refused. -/
def askAll (p : Viewport) (ops : List MapOperation) : Viewport :=
  ops.foldl (fun p op => (p.ask op).2) p

end Viewport

namespace MapOperation

/-- The call on record when a map does as it is asked. -/
def call (m : MapState) : MapOperation → Call
  | .createLayer kind => .createLayer m.freshLayer kind
  | .deleteLayer layer => .deleteLayer layer
  | .setInteractionMode layer mode => .setInteractionMode layer mode
  | .subscribe layer => .subscribe layer m.freshSubscription
  | .unsubscribe subscription => .unsubscribe subscription
  | .readGeometry layer geometry => .readGeometry layer geometry.features.length
  | .draw => .draw
  | .teardown => .teardown

/-- The answer when a map does as it is asked: a new handle or a new number, if there is one. -/
def answer (m : MapState) : MapOperation → MapAnswer
  | .createLayer _ => .layer m.freshLayer
  | .subscribe _ => .subscription m.freshSubscription
  | _ => .done

end MapOperation

/-! ## Reading a record -/

namespace MapState

/-- The map with a change to whatever stands under a handle. -/
def adjust (layer : LayerHandle) (change : Layer → Layer) (m : MapState) : MapState :=
  { m with layers := m.layers.map fun (h, e) => if h = layer then (h, change e) else (h, e) }

/-- **What one call on record makes of a map.** -/
def replay (m : MapState) : Call → MapState
  | .createMap _ _ _ => {}
  | .createLayer layer kind =>
      { m with layers := m.layers ++ [(layer, { kind })], nextLayer := layer.number + 1 }
  | .deleteLayer layer =>
      { m with
        layers := m.layers.filter (·.1 ≠ layer)
        subscriptions := m.subscriptions.filter (·.2 ≠ layer) }
  | .setInteractionMode layer mode => m.adjust layer fun e => { e with mode }
  | .subscribe layer subscription =>
      { m with
        subscriptions := m.subscriptions ++ [(subscription, layer)]
        nextSubscription := subscription.number + 1 }
  | .unsubscribe subscription =>
      { m with subscriptions := m.subscriptions.filter (·.1 ≠ subscription) }
  | .readGeometry layer count => m.adjust layer fun e => { e with features := e.features + count }
  | .draw => m
  | .teardown => { m with layers := [], subscriptions := [], tornDown := true }

/-- Why a map refuses a call that only one kind of layer takes: it was torn down, it does not have
the layer, or the layer is of another kind. -/
def refusalOf? (layer : LayerHandle) (kind : LayerKind) (feature : LayerFeature) (m : MapState) :
    Option ViewportError :=
  if m.tornDown then some .tornDown
  else match m.kind? layer with
    | none => some (.unknownLayer layer)
    | some other => if other = kind then none else some (.unsupported layer other feature)

/-- Why a map refuses what it is asked for. -/
def refusal? (m : MapState) : MapOperation → Option ViewportError
  | .createLayer _ => if m.tornDown then some .tornDown else none
  | .setInteractionMode layer _ => m.refusalOf? layer .annotationDraw .interactionModes
  | .subscribe layer =>
      if m.tornDown then some .tornDown
      else match m.kind? layer with
        | none => some (.unknownLayer layer)
        | some _ => none
  | .readGeometry layer _ => m.refusalOf? layer .feature .geometryImport
  | _ => none

/-- Where no handle stands twice, to change what stands under a handle is to put another layer
there. -/
theorem adjust_eq_put {m : MapState} (hnodup : m.handles.Nodup) {layer : LayerHandle}
    {entry : Layer} (hentry : m.layer? layer = some entry) (change : Layer → Layer) :
    m.adjust layer change = m.put layer (change entry) := by
  have hlookup : m.layers.lookup layer = some entry := hentry
  unfold adjust put
  congr 1
  apply List.map_congr_left
  rintro ⟨h, e⟩ hmem
  by_cases hh : h = layer
  · have hother : (layer, entry) ∈ m.layers := Table.mem_of_lookup hlookup
    have hsame : (h, e) = (layer, entry) := List.inj_on_of_nodup_map hnodup hmem hother hh
    obtain ⟨rfl, rfl⟩ := Prod.mk.inj hsame
    rfl
  · simp only [if_neg hh]

end MapState

/-- The number of the layer a call creates. -/
def Call.created? : Call → Option Nat
  | .createLayer layer _ => some layer.number
  | _ => none

/-- The number of the subscription a call makes. -/
def Call.subscribed? : Call → Option Nat
  | .subscribe _ subscription => some subscription.number
  | _ => none

/-! ## What a map does when asked -/

namespace Viewport

variable {p : Viewport}

/-- **A map refuses and is as before, or it does as it is asked** and is what the call on record
makes of it. -/
theorem ask_cases (hnodup : p.map.handles.Nodup) (op : MapOperation) :
    ∃ library, library.log = p.library.log ∧
      ((∃ e, p.ask op = (.error e, { p with library })) ∨
        (∀ layer, op = .subscribe layer → layer ∈ p.map.handles) ∧
          p.ask op = (.ok (op.answer p.map),
            commit { p with library } (p.map.replay (op.call p.map)) (op.call p.map))) := by
  cases op with
  | deleteLayer | unsubscribe | draw | teardown => exact ⟨p.library, rfl, Or.inr ⟨by simp, rfl⟩⟩
  | createLayer kind =>
      simp only [ask]
      rcases p.createLayer_cases kind with ⟨e, library, hlog, heq⟩ | ⟨-, heq⟩
      · rw [heq]
        exact ⟨library, hlog, Or.inl ⟨e, rfl⟩⟩
      · rw [heq]
        exact ⟨p.library, rfl, Or.inr ⟨by simp, rfl⟩⟩
  | setInteractionMode layer mode =>
      simp only [ask]
      rcases p.setInteractionMode_cases layer mode with
        ⟨e, library, hlog, heq⟩ | ⟨entry, hentry, heq⟩
      · rw [heq]
        exact ⟨library, hlog, Or.inl ⟨e, rfl⟩⟩
      · rw [heq]
        refine ⟨p.library, rfl, Or.inr ⟨by simp, ?_⟩⟩
        -- The map has put the changed layer there; the record only says what has changed.
        rw [MapOperation.call, MapState.replay, MapState.adjust_eq_put hnodup hentry]
        rfl
  | subscribe layer =>
      simp only [ask]
      rcases p.subscribe_cases layer with ⟨e, library, hlog, heq⟩ | ⟨hlayer, heq⟩
      · rw [heq]
        exact ⟨library, hlog, Or.inl ⟨e, rfl⟩⟩
      · rw [heq]
        refine ⟨p.library, rfl, Or.inr ⟨?_, rfl⟩⟩
        intro l hl
        obtain rfl := MapOperation.subscribe.inj hl
        exact hlayer
  | readGeometry layer geometry =>
      simp only [ask]
      rcases p.readGeometry_cases layer geometry with
        ⟨e, library, hlog, heq⟩ | ⟨entry, library, hlog, hentry, heq⟩
      · rw [heq]
        exact ⟨library, hlog, Or.inl ⟨e, rfl⟩⟩
      · rw [heq]
        refine ⟨library, hlog, Or.inr ⟨by simp, ?_⟩⟩
        rw [MapOperation.call, MapState.replay, MapState.adjust_eq_put hnodup hentry]
        rfl

theorem attempt_of_unarmed {α : Type} {call : FallibleCall}
    {act : Viewport → Except ViewportError α × Viewport} (hfaults : p.library.faults = []) :
    attempt call act p = act p := by
  simp [attempt, MapLibrary.fault?, hfaults]

theorem readGeometry_of_unarmed (hfaults : p.library.faults = []) (layer : LayerHandle)
    (geometry : FeatureCollection) :
    p.readGeometry layer geometry =
      let library := { p.library with submitted := p.library.submitted ++ [geometry] }
      match p.map.entry layer with
      | .error e => (.error e, { p with library })
      | .ok entry =>
        if entry.kind = .feature then
          let features := entry.features + geometry.features.length
          (.ok (), commit { p with library } (p.map.put layer { entry with features })
            (.readGeometry layer geometry.features.length))
        else (.error (.unsupported layer entry.kind .geometryImport), { p with library }) := by
  unfold readGeometry
  exact attempt_of_unarmed hfaults

/-- Where no fault is armed a map refuses what it has a reason to refuse, and nothing else. -/
theorem ask_of_unarmed (hfaults : p.library.faults = []) (op : MapOperation) :
    (p.ask op).1 = match p.map.refusal? op with
      | some e => .error e
      | none => .ok (op.answer p.map) := by
  cases op with
  | deleteLayer | unsubscribe | draw | teardown => rfl
  | createLayer kind =>
      simp only [ask, createLayer, attempt_of_unarmed hfaults, MapState.refusal?]
      cases p.map.tornDown <;> rfl
  | setInteractionMode layer mode =>
      simp only [ask, setInteractionMode, attempt_of_unarmed hfaults, MapState.refusal?,
        MapState.refusalOf?, MapState.entry, MapState.kind?]
      cases p.map.tornDown with
      | true => rfl
      | false =>
          cases p.map.layer? layer with
          | none => rfl
          | some entry =>
              obtain ⟨kind, old, features⟩ := entry
              cases kind <;> rfl
  | subscribe layer =>
      simp only [ask, subscribe, attempt_of_unarmed hfaults, MapState.refusal?, MapState.entry,
        MapState.kind?]
      cases p.map.tornDown with
      | true => rfl
      | false => cases p.map.layer? layer <;> rfl
  | readGeometry layer geometry =>
      simp only [ask, readGeometry_of_unarmed hfaults, MapState.refusal?, MapState.refusalOf?,
        MapState.entry, MapState.kind?]
      cases p.map.tornDown with
      | true => rfl
      | false =>
          cases p.map.layer? layer with
          | none => rfl
          | some entry =>
              obtain ⟨kind, mode, features⟩ := entry
              cases kind <;> rfl

end Viewport

/-! ## The record and the map -/

/-- Numbers that were given out in increasing order, all of them before the next one. -/
structure Numbered (given : List Nat) (next : Nat) : Prop where
  increasing : given.Pairwise (· < ·)
  below : ∀ n ∈ given, n < next

theorem Numbered.concat {given : List Nat} {next : Nat} (h : Numbered given next) :
    Numbered (given ++ [next]) (next + 1) where
  increasing := by
    refine List.pairwise_append.2 ⟨h.increasing, List.pairwise_singleton _ _, ?_⟩
    intro n hn last hlast
    rw [List.mem_singleton.1 hlast]
    exact h.below n hn
  below := by
    intro n hn
    rcases List.mem_append.1 hn with hn | hn
    · exact Nat.lt_succ_of_lt (h.below n hn)
    · rw [List.mem_singleton.1 hn]
      exact Nat.lt_succ_self next

/-- **A record that is the map.** Replayed from a map without layers it gives the map, every
subscription on the map is to a layer on it, and the numbers of the layers and of the subscriptions
on record increase, so that none stands there twice. -/
structure Replayed (calls : List Call) (m : MapState) : Prop where
  state : calls.foldl MapState.replay {} = m
  owned : ∀ e ∈ m.subscriptions, e.2 ∈ m.handles
  listed : (m.handles.map (·.number)).Sublist (calls.filterMap Call.created?)
  layers : Numbered (calls.filterMap Call.created?) m.nextLayer
  subscriptions : Numbered (calls.filterMap Call.subscribed?) m.nextSubscription

namespace Replayed

variable {calls : List Call} {m : MapState}

theorem nil : Replayed [] {} where
  state := rfl
  owned := by simp
  listed := List.Sublist.refl _
  layers := ⟨List.Pairwise.nil, by simp⟩
  subscriptions := ⟨List.Pairwise.nil, by simp⟩

/-- No two layers of the map have the same handle. -/
theorem nodup (h : Replayed calls m) : m.handles.Nodup := by
  have hnumbers : (m.handles.map (·.number)).Nodup :=
    (h.layers.increasing.imp fun hlt => Nat.ne_of_lt hlt).sublist h.listed
  exact List.Nodup.of_map _ hnumbers

/-- The numbers of the layers on the map are on record, and those are all smaller than the next
one. -/
theorem counted (h : Replayed calls m) : m.Counted where
  below := fun _ hlayer => h.layers.below _ (h.listed.mem (List.mem_map_of_mem hlayer))
  owned := h.owned

/-- One call more on record. -/
theorem concat (h : Replayed calls m) {c : Call}
    (howned : ∀ e ∈ (m.replay c).subscriptions, e.2 ∈ (m.replay c).handles)
    (hlisted : ((m.replay c).handles.map (·.number)).Sublist
      (calls.filterMap Call.created? ++ c.created?.toList))
    (hlayers : Numbered (calls.filterMap Call.created? ++ c.created?.toList)
      (m.replay c).nextLayer)
    (hsubscriptions : Numbered (calls.filterMap Call.subscribed? ++ c.subscribed?.toList)
      (m.replay c).nextSubscription) :
    Replayed (calls ++ [c]) (m.replay c) := by
  have hconcat : ∀ f : Call → Option Nat,
      (calls ++ [c]).filterMap f = calls.filterMap f ++ (f c).toList := by
    intro f
    rw [List.filterMap_append]
    cases hf : f c <;> simp [hf]
  constructor
  · rw [List.foldl_append, h.state]
    rfl
  · exact howned
  · rw [hconcat]
    exact hlisted
  · rw [hconcat]
    exact hlayers
  · rw [hconcat]
    exact hsubscriptions

/-- A call that gives out no number, and after which there are no new layers. -/
theorem quiet (h : Replayed calls m) {c : Call} (hcreated : c.created? = none)
    (hsubscribed : c.subscribed? = none)
    (howned : ∀ e ∈ (m.replay c).subscriptions, e.2 ∈ (m.replay c).handles)
    (hhandles : (m.replay c).handles.Sublist m.handles)
    (hnextLayer : (m.replay c).nextLayer = m.nextLayer)
    (hnextSubscription : (m.replay c).nextSubscription = m.nextSubscription) :
    Replayed (calls ++ [c]) (m.replay c) := by
  refine h.concat howned ?_ ?_ ?_
  · rw [hcreated, Option.toList_none, List.append_nil]
    exact (hhandles.map _).trans h.listed
  · rw [hcreated, Option.toList_none, List.append_nil, hnextLayer]
    exact h.layers
  · rw [hsubscribed, Option.toList_none, List.append_nil, hnextSubscription]
    exact h.subscriptions

theorem createLayer (h : Replayed calls m) (kind : LayerKind) :
    Replayed (calls ++ [.createLayer m.freshLayer kind])
      (m.replay (.createLayer m.freshLayer kind)) := by
  have hhandles : (m.replay (.createLayer m.freshLayer kind)).handles
      = m.handles ++ [m.freshLayer] := m.handles_addLayer kind
  refine h.concat ?_ ?_ h.layers.concat ?_
  · intro e he
    rw [hhandles]
    exact List.mem_append_left _ (h.owned e he)
  · rw [hhandles, List.map_append]
    exact h.listed.append_right _
  · exact (List.append_nil _).symm ▸ h.subscriptions

theorem subscribe (h : Replayed calls m) {layer : LayerHandle} (hlayer : layer ∈ m.handles) :
    Replayed (calls ++ [.subscribe layer m.freshSubscription])
      (m.replay (.subscribe layer m.freshSubscription)) := by
  refine h.concat ?_ ?_ ?_ h.subscriptions.concat
  · intro e he
    rcases List.mem_append.1 he with he | he
    · exact h.owned e he
    · rw [List.mem_singleton.1 he]
      exact hlayer
  · exact (List.append_nil _).symm ▸ h.listed
  · exact (List.append_nil _).symm ▸ h.layers

/-- A subscription goes with the layer it is a subscription to. -/
theorem deleteLayer (h : Replayed calls m) (layer : LayerHandle) :
    Replayed (calls ++ [.deleteLayer layer]) (m.replay (.deleteLayer layer)) := by
  have hhandles : (m.replay (.deleteLayer layer)).handles = m.handles.filter (· ≠ layer) :=
    m.handles_withoutLayer layer
  refine h.quiet rfl rfl ?_ ?_ rfl rfl
  · intro e he
    obtain ⟨hmem, hne⟩ := List.mem_filter.1 he
    rw [hhandles]
    exact List.mem_filter.2 ⟨h.owned e hmem, hne⟩
  · rw [hhandles]
    exact List.filter_sublist

/-- What a layer shows, and how it is drawn on, has nothing to do with the handles. -/
theorem adjust (h : Replayed calls m) {c : Call} (layer : LayerHandle) (change : Layer → Layer)
    (hcreated : c.created? = none) (hsubscribed : c.subscribed? = none)
    (hreplay : m.replay c = m.adjust layer change) : Replayed (calls ++ [c]) (m.replay c) := by
  have hhandles : (m.replay c).handles = m.handles := by
    rw [hreplay]
    unfold MapState.handles MapState.adjust
    rw [List.map_map]
    apply List.map_congr_left
    rintro ⟨l, e⟩ -
    by_cases hl : l = layer <;> simp [hl]
  refine h.quiet hcreated hsubscribed ?_ ?_ (by rw [hreplay]; rfl) (by rw [hreplay]; rfl)
  · rw [hhandles, hreplay]
    exact h.owned
  · rw [hhandles]

/-- **Whatever a map does when asked,** the record stays the map. -/
theorem call (h : Replayed calls m) {op : MapOperation}
    (hop : ∀ layer, op = .subscribe layer → layer ∈ m.handles) :
    Replayed (calls ++ [op.call m]) (m.replay (op.call m)) := by
  cases op with
  | createLayer kind => exact h.createLayer kind
  | deleteLayer layer => exact h.deleteLayer layer
  | setInteractionMode layer mode =>
      exact h.adjust layer (fun e => { e with mode }) rfl rfl rfl
  | subscribe layer => exact h.subscribe (hop layer rfl)
  | unsubscribe subscription =>
      exact h.quiet rfl rfl (fun e he => h.owned e (List.mem_of_mem_filter he))
        (List.Sublist.refl _) rfl rfl
  | readGeometry layer geometry =>
      exact h.adjust layer
        (fun e => { e with features := e.features + geometry.features.length }) rfl rfl rfl
  | draw => exact h.quiet rfl rfl h.owned (List.Sublist.refl _) rfl rfl
  | teardown =>
      refine h.quiet rfl rfl ?_ (List.nil_sublist _) rfl rfl
      intro e he
      cases he

end Replayed

namespace Viewport

variable {p : Viewport} {calls : List Call}

/-- **A map that answers for its record:** what it refuses has changed nothing and is not on record,
and what it does is on record under the handle or the number of its answer. -/
structure AnswersFor (p : Viewport) : Prop where
  refused : ∀ op e, (p.ask op).1 = .error e →
    (p.ask op).2.map = p.map ∧ (p.ask op).2.library.log = p.library.log
  done : ∀ op answer, (p.ask op).1 = .ok answer →
    answer = op.answer p.map ∧ (p.ask op).2.library.log = p.library.log ++ [op.call p.map]

theorem answersFor (hnodup : p.map.handles.Nodup) : AnswersFor p where
  refused := by
    intro op e he
    obtain ⟨library, hlog, ⟨e', heq⟩ | ⟨-, heq⟩⟩ := ask_cases hnodup op
    · rw [heq]
      exact ⟨rfl, hlog⟩
    · rw [heq] at he
      cases he
  done := by
    intro op answer hanswer
    obtain ⟨library, hlog, ⟨e', heq⟩ | ⟨-, heq⟩⟩ := ask_cases hnodup op
    · rw [heq] at hanswer
      cases hanswer
    · rw [heq] at hanswer ⊢
      refine ⟨(Except.ok.inj hanswer).symm, ?_⟩
      show library.log ++ [op.call p.map] = _
      rw [hlog]

/-- One step: the record is the map before and after. -/
theorem ask_replayed {earlier : List Call} (hlog : p.library.log = earlier ++ calls)
    (h : Replayed calls p.map) (op : MapOperation) : ∃ calls',
    (p.ask op).2.library.log = earlier ++ calls' ∧ Replayed calls' (p.ask op).2.map := by
  obtain ⟨library, hsame, ⟨e, heq⟩ | ⟨hop, heq⟩⟩ := ask_cases h.nodup op
  · rw [heq]
    exact ⟨calls, hsame.trans hlog, h⟩
  · rw [heq]
    refine ⟨calls ++ [op.call p.map], ?_, h.call hop⟩
    show library.log ++ [op.call p.map] = _
    rw [hsame, hlog, List.append_assoc]

theorem askAll_replayed {earlier : List Call} (hlog : p.library.log = earlier ++ calls)
    (h : Replayed calls p.map) (ops : List MapOperation) : ∃ calls',
    (p.askAll ops).library.log = earlier ++ calls' ∧ Replayed calls' (p.askAll ops).map := by
  induction ops generalizing p calls with
  | nil => exact ⟨calls, hlog, h⟩
  | cons op ops ih =>
      obtain ⟨calls', hlog', h'⟩ := ask_replayed hlog h op
      exact ih hlog' h'

/-- A map that is asked for something arms no fault. -/
theorem ask_unarmed (hfaults : p.library.faults = []) (op : MapOperation) :
    (p.ask op).2.library.faults = [] := by
  cases op with
  | deleteLayer | unsubscribe | draw | teardown => exact hfaults
  | createLayer kind =>
      simp only [ask, createLayer, attempt_of_unarmed hfaults]
      split <;> exact hfaults
  | setInteractionMode layer mode =>
      simp only [ask, setInteractionMode, attempt_of_unarmed hfaults]
      split
      · exact hfaults
      · split <;> exact hfaults
  | subscribe layer =>
      simp only [ask, subscribe, attempt_of_unarmed hfaults]
      split <;> exact hfaults
  | readGeometry layer geometry =>
      simp only [ask, readGeometry_of_unarmed hfaults]
      split
      · exact hfaults
      · split <;> exact hfaults

theorem askAll_unarmed (hfaults : p.library.faults = []) (ops : List MapOperation) :
    (p.askAll ops).library.faults = [] := by
  induction ops generalizing p with
  | nil => exact hfaults
  | cons op ops ih => exact ih (ask_unarmed hfaults op)

/-- **The record is the map.** Whatever a new map is asked for, and however often it refuses, the
calls on record since then are those it has carried out, and to replay them gives the map. Where no
fault is armed it refuses only what it has a reason to refuse. -/
theorem replay_record (library : MapLibrary) (ops : List MapOperation) :
    let p := askAll { library } ops
    ∃ calls, p.library.log = library.log ++ calls ∧ Replayed calls p.map ∧ AnswersFor p ∧
      (library.faults = [] → ∀ op, (p.ask op).1 = match p.map.refusal? op with
        | some e => .error e
        | none => .ok (op.answer p.map)) := by
  intro p
  obtain ⟨calls, hlog, hreplayed⟩ :=
    askAll_replayed (p := { library }) (List.append_nil _).symm .nil ops
  refine ⟨calls, hlog, hreplayed, answersFor hreplayed.nodup, ?_⟩
  intro hfaults op
  exact ask_of_unarmed (askAll_unarmed hfaults ops) op

end Viewport

end ImageOverlay
