import ImageOverlay.Draw.Mode
import ImageOverlay.Proofs.Table

set_option autoImplicit false

/-!
# What calls do to a map

Every function that works on a map is a sequence of calls, and a call either does nothing but use
up a fault or changes the map and goes on record. This module says once and for all what each call
can do (`createLayer_cases` and its companions).

The functions of the map look up layers in a list of pairs. Everything about that list is said in
terms of what `MapState.layer?` finds in it and of its keys, `MapState.handles`.
-/

namespace ImageOverlay

/-! ## The layers of a map -/

namespace MapState

/-- The layers on the map. -/
def handles (m : MapState) : List LayerHandle := m.layers.map (·.1)

/-- The handle of the next layer. -/
def freshLayer (m : MapState) : LayerHandle := ⟨m.nextLayer⟩

/-- The number of the next subscription. -/
def freshSubscription (m : MapState) : SubscriptionId := ⟨m.nextSubscription⟩

/-- The kind of a layer. -/
def kind? (layer : LayerHandle) (m : MapState) : Option LayerKind :=
  (m.layer? layer).map (·.kind)

/-- The shape a layer lets the user draw. -/
def mode? (layer : LayerHandle) (m : MapState) : Option ShapeKind :=
  (m.layer? layer).bind (·.mode)

/-- The map with one layer more. -/
def addLayer (kind : LayerKind) (m : MapState) : MapState :=
  { m with layers := m.layers ++ [(m.freshLayer, { kind })], nextLayer := m.nextLayer + 1 }

/-- The map with one subscription more. -/
def addSubscription (layer : LayerHandle) (m : MapState) : MapState :=
  { m with
    subscriptions := m.subscriptions ++ [(m.freshSubscription, layer)]
    nextSubscription := m.nextSubscription + 1 }

/-- The map with one layer more on which the user draws, and a subscription to it. -/
def addDrawing (shape : ShapeKind) (m : MapState) : MapState :=
  ((m.addLayer .annotationDraw).put m.freshLayer
    { kind := .annotationDraw, mode := some shape }).addSubscription m.freshLayer

/-- The map without a layer and the subscriptions to it. -/
def withoutLayer (layer : LayerHandle) (m : MapState) : MapState :=
  { m with
    layers := m.layers.filter (·.1 ≠ layer)
    subscriptions := m.subscriptions.filter (·.2 ≠ layer) }

/-- The map without a subscription. -/
def withoutSubscription (subscription : SubscriptionId) (m : MapState) : MapState :=
  { m with subscriptions := m.subscriptions.filter (·.1 ≠ subscription) }

theorem mem_handles {m : MapState} {layer : LayerHandle} :
    layer ∈ m.handles ↔ ∃ entry, m.layer? layer = some entry :=
  Table.mem_keys_iff

theorem mem_handles_of_kind {m : MapState} {layer : LayerHandle} {kind : LayerKind}
    (h : m.kind? layer = some kind) : layer ∈ m.handles := by
  obtain ⟨entry, hentry, -⟩ := Option.map_eq_some_iff.1 h
  exact mem_handles.2 ⟨entry, hentry⟩

/-! ## What is on the map after a change -/

@[simp] theorem handles_addLayer (m : MapState) (kind : LayerKind) :
    (m.addLayer kind).handles = m.handles ++ [m.freshLayer] := by
  simp [handles, addLayer]

@[simp] theorem handles_withoutLayer (m : MapState) (layer : LayerHandle) :
    (m.withoutLayer layer).handles = m.handles.filter (· ≠ layer) := by
  simp [handles, withoutLayer, List.filter_map, Function.comp_def]

@[simp] theorem handles_put (m : MapState) (layer : LayerHandle) (entry : Layer) :
    (m.put layer entry).handles = m.handles := by
  unfold handles put
  rw [List.map_map]
  apply List.map_congr_left
  rintro ⟨l, e⟩ -
  by_cases hl : l = layer <;> simp [hl]

@[simp] theorem handles_addDrawing (m : MapState) (shape : ShapeKind) :
    (m.addDrawing shape).handles = m.handles ++ [m.freshLayer] :=
  (handles_put _ _ _).trans (handles_addLayer m _)

@[simp] theorem handles_withoutSubscription (m : MapState) (s : SubscriptionId) :
    (m.withoutSubscription s).handles = m.handles := rfl

theorem layer?_addLayer {m : MapState} (hfresh : m.freshLayer ∉ m.handles) (kind : LayerKind)
    (layer : LayerHandle) :
    (m.addLayer kind).layer? layer
      = if layer = m.freshLayer then some { kind } else m.layer? layer :=
  Table.lookup_concat (Table.lookup_eq_none.2 hfresh) _ _

theorem layer?_withoutLayer (m : MapState) (removed layer : LayerHandle) :
    (m.withoutLayer removed).layer? layer
      = if layer = removed then none else m.layer? layer :=
  Table.lookup_filter_ne _ _ _

theorem layer?_put {m : MapState} {changed : LayerHandle} {old : Layer}
    (hold : m.layer? changed = some old) (entry : Layer) (layer : LayerHandle) :
    (m.put changed entry).layer? layer
      = if layer = changed then some entry else m.layer? layer := by
  have h := Table.lookup_map_if changed (fun _ => entry) m.layers layer
  by_cases hlayer : layer = changed
  · rw [if_pos hlayer, hlayer]
    rw [if_pos hlayer, hlayer] at h
    have hold' : m.layers.lookup changed = some old := hold
    rw [hold'] at h
    exact h
  · rw [if_neg hlayer]
    rw [if_neg hlayer] at h
    exact h

theorem layer?_addDrawing {m : MapState} (hfresh : m.freshLayer ∉ m.handles) (shape : ShapeKind)
    (layer : LayerHandle) :
    (m.addDrawing shape).layer? layer
      = if layer = m.freshLayer then some { kind := .annotationDraw, mode := some shape }
        else m.layer? layer := by
  have hnew : (m.addLayer .annotationDraw).layer? m.freshLayer = some { kind := .annotationDraw } := by
    rw [layer?_addLayer hfresh, if_pos rfl]
  have hput := layer?_put hnew { kind := .annotationDraw, mode := some shape } layer
  rw [layer?_addLayer hfresh] at hput
  refine hput.trans ?_
  split <;> rfl

theorem kind?_addLayer {m : MapState} (hfresh : m.freshLayer ∉ m.handles) (kind : LayerKind)
    (layer : LayerHandle) :
    (m.addLayer kind).kind? layer = if layer = m.freshLayer then some kind else m.kind? layer := by
  unfold kind?
  rw [layer?_addLayer hfresh]
  split <;> rfl

theorem kind?_withoutLayer {m : MapState} {removed layer : LayerHandle} (hne : layer ≠ removed) :
    (m.withoutLayer removed).kind? layer = m.kind? layer := by
  unfold kind?
  rw [layer?_withoutLayer, if_neg hne]

theorem kind?_put {m : MapState} {changed : LayerHandle} {old entry : Layer}
    (hold : m.layer? changed = some old) (hkind : entry.kind = old.kind) (layer : LayerHandle) :
    (m.put changed entry).kind? layer = m.kind? layer := by
  unfold kind?
  rw [layer?_put hold]
  by_cases hlayer : layer = changed
  · rw [if_pos hlayer, hlayer, hold, Option.map_some, hkind, Option.map_some]
  · rw [if_neg hlayer]

/-! ## A map that counts its layers -/

/-- The numbers of the layers on the map were all given out before, and no subscription is to a
layer that is not there. -/
structure Counted (m : MapState) : Prop where
  below : ∀ l ∈ m.handles, l.number < m.nextLayer
  owned : ∀ e ∈ m.subscriptions, e.2 ∈ m.handles

namespace Counted

variable {m : MapState}

theorem fresh_not_mem (h : m.Counted) : m.freshLayer ∉ m.handles := by
  intro hmem
  exact Nat.lt_irrefl _ (h.below _ hmem)

theorem ne_fresh (h : m.Counted) {layer : LayerHandle} (hlayer : layer ∈ m.handles) :
    layer ≠ m.freshLayer := by
  rintro rfl
  exact h.fresh_not_mem hlayer

/-- A layer that goes as soon as it has come leaves nothing behind but its number. -/
theorem addLayer_withoutLayer (h : m.Counted) (kind : LayerKind) :
    (m.addLayer kind).withoutLayer m.freshLayer = { m with nextLayer := m.nextLayer + 1 } := by
  have hlayers : m.layers.filter (·.1 ≠ m.freshLayer) = m.layers := by
    rw [List.filter_eq_self]
    intro e he
    simpa using h.ne_fresh (List.mem_map_of_mem he)
  have hsubs : m.subscriptions.filter (·.2 ≠ m.freshLayer) = m.subscriptions := by
    rw [List.filter_eq_self]
    intro e he
    simpa using h.ne_fresh (h.owned e he)
  unfold addLayer withoutLayer
  simp only [List.filter_append, hlayers, hsubs]
  simp

theorem addLayer (h : m.Counted) (kind : LayerKind) : (m.addLayer kind).Counted where
  below := by
    intro layer hlayer
    rw [handles_addLayer] at hlayer
    rcases List.mem_append.1 hlayer with hlayer | hlayer
    · exact Nat.lt_succ_of_lt (h.below layer hlayer)
    · rw [List.mem_singleton.1 hlayer]
      exact Nat.lt_succ_self _
  owned := by
    intro e he
    rw [handles_addLayer]
    exact List.mem_append_left _ (h.owned e he)

theorem withoutLayer (h : m.Counted) (layer : LayerHandle) : (m.withoutLayer layer).Counted where
  below := by
    intro l hl
    rw [handles_withoutLayer] at hl
    exact h.below l (List.mem_of_mem_filter hl)
  owned := by
    intro e he
    obtain ⟨hmem, hne⟩ := List.mem_filter.1 he
    rw [handles_withoutLayer]
    exact List.mem_filter.2 ⟨h.owned e hmem, hne⟩

theorem put (h : m.Counted) (layer : LayerHandle) (entry : Layer) :
    (m.put layer entry).Counted where
  below := by
    rw [handles_put]
    exact h.below
  owned := by
    rw [handles_put]
    exact h.owned

end Counted

end MapState

/-! ## Armed faults -/

namespace MapLibrary

/-- The fault that is armed for a kind of call. -/
def armed? (call : FallibleCall) (l : MapLibrary) : Option ViewportError := l.faults.lookup call

/-- The library without a fault for a kind of call. -/
def disarm (call : FallibleCall) (l : MapLibrary) : MapLibrary :=
  { l with faults := l.faults.filter (·.1 ≠ call) }

/-- The library with one geometry more that was handed over. -/
def submit (geometry : FeatureCollection) (l : MapLibrary) : MapLibrary :=
  { l with submitted := l.submitted ++ [geometry] }

theorem disarm_eq_self {call : FallibleCall} {l : MapLibrary} (h : l.armed? call = none) :
    l.disarm call = l := by
  have hkeys : call ∉ l.faults.map (·.1) := Table.lookup_eq_none.1 h
  have hfaults : l.faults.filter (·.1 ≠ call) = l.faults := by
    rw [List.filter_eq_self]
    intro fault hfault
    have hne : fault.1 ≠ call := fun heq => hkeys (heq ▸ List.mem_map_of_mem hfault)
    simpa using hne
  rw [disarm, hfaults]

end MapLibrary

namespace Viewport

/-! ## What a call answers -/

/-- An armed fault answers in place of the map. -/
theorem attempt_of_armed {α : Type} {call : FallibleCall}
    {act : Viewport → Except ViewportError α × Viewport} {p : Viewport} {e : ViewportError}
    (h : p.library.armed? call = some e) :
    attempt call act p = (.error e, { p with library := p.library.disarm call }) := by
  have hlookup : p.library.faults.lookup call = some e := h
  simp only [attempt, MapLibrary.fault?, hlookup, Option.map_some]
  rfl

theorem attempt_of_not_armed {α : Type} {call : FallibleCall}
    {act : Viewport → Except ViewportError α × Viewport} {p : Viewport}
    (h : p.library.armed? call = none) : attempt call act p = act p := by
  have hlookup : p.library.faults.lookup call = none := h
  simp only [attempt, MapLibrary.fault?, hlookup, Option.map_none]

theorem entry_of_layer? {m : MapState} {layer : LayerHandle} {entry : Layer}
    (hstanding : m.tornDown = false) (h : m.layer? layer = some entry) :
    m.entry layer = .ok entry := by
  simp only [MapState.entry, hstanding, Bool.false_eq_true, if_false, h]

/-- Why a map creates no layer: a fault is armed for that, or the map was torn down. -/
def creationRefusal? (p : Viewport) : Option ViewportError :=
  (p.library.armed? .createLayer).or (if p.map.tornDown then some .tornDown else none)

theorem createLayer_of_refused {p : Viewport} {e : ViewportError}
    (h : p.creationRefusal? = some e) (kind : LayerKind) :
    p.createLayer kind = (.error e, { p with library := p.library.disarm .createLayer }) := by
  cases harmed : p.library.armed? .createLayer with
  | some armed =>
      rw [creationRefusal?, harmed, Option.some_or] at h
      rw [createLayer, attempt_of_armed harmed, Option.some.inj h]
  | none =>
      rw [creationRefusal?, harmed, Option.none_or] at h
      rw [createLayer, attempt_of_not_armed harmed, MapLibrary.disarm_eq_self harmed]
      by_cases htorn : p.map.tornDown
      · rw [if_pos htorn] at h
        rw [if_pos htorn, Option.some.inj h]
      · rw [if_neg htorn] at h
        cases h

theorem createLayer_of_granted {p : Viewport} (h : p.creationRefusal? = none)
    (kind : LayerKind) :
    p.createLayer kind
      = (.ok p.map.freshLayer,
          p.commit (p.map.addLayer kind) (.createLayer p.map.freshLayer kind)) := by
  obtain ⟨harmed, htorn⟩ := Option.or_eq_none_iff.1 h
  rw [createLayer, attempt_of_not_armed harmed, if_neg (by simpa using htorn)]
  rfl

theorem setInteractionMode_of_armed {p : Viewport} {e : ViewportError}
    (h : p.library.armed? .setInteractionMode = some e) (layer : LayerHandle)
    (mode : Option ShapeKind) :
    p.setInteractionMode layer mode
      = (.error e, { p with library := p.library.disarm .setInteractionMode }) :=
  attempt_of_armed h

theorem subscribe_of_armed {p : Viewport} {e : ViewportError}
    (h : p.library.armed? .subscribe = some e) (layer : LayerHandle) :
    p.subscribe layer = (.error e, { p with library := p.library.disarm .subscribe }) :=
  attempt_of_armed h

theorem readGeometry_of_armed {p : Viewport} {e : ViewportError}
    (h : p.library.armed? .readGeometry = some e) (layer : LayerHandle)
    (geometry : FeatureCollection) :
    p.readGeometry layer geometry
      = (.error e, { p with library := (p.library.submit geometry).disarm .readGeometry }) := by
  unfold readGeometry
  exact attempt_of_armed (p := { p with library := p.library.submit geometry }) h

theorem readGeometry_of_granted {p : Viewport} {layer : LayerHandle} {entry : Layer}
    (harmed : p.library.armed? .readGeometry = none) (hentry : p.map.entry layer = .ok entry)
    (hkind : entry.kind = .feature) (geometry : FeatureCollection) :
    p.readGeometry layer geometry
      = (.ok (), commit { p with library := p.library.submit geometry }
          (p.map.put layer { entry with features := entry.features + geometry.features.length })
          (.readGeometry layer geometry.features.length)) := by
  unfold readGeometry
  refine (attempt_of_not_armed (p := { p with library := p.library.submit geometry })
    harmed).trans ?_
  simp only [hentry]
  exact if_pos hkind

theorem setInteractionMode_of_granted {p : Viewport} {layer : LayerHandle} {entry : Layer}
    (harmed : p.library.armed? .setInteractionMode = none) (hentry : p.map.entry layer = .ok entry)
    (hkind : entry.kind = .annotationDraw) (mode : Option ShapeKind) :
    p.setInteractionMode layer mode
      = (.ok (), p.commit (p.map.put layer { entry with mode })
          (.setInteractionMode layer mode)) := by
  rw [setInteractionMode, attempt_of_not_armed harmed, hentry]
  exact if_pos hkind

theorem subscribe_of_granted {p : Viewport} {layer : LayerHandle} {entry : Layer}
    (harmed : p.library.armed? .subscribe = none) (hentry : p.map.entry layer = .ok entry) :
    p.subscribe layer
      = (.ok p.map.freshSubscription, p.commit (p.map.addSubscription layer)
          (.subscribe layer p.map.freshSubscription)) := by
  rw [subscribe, attempt_of_not_armed harmed, hentry]
  rfl

/-! ## What a call can do -/

theorem attempt_cases {α : Type} (call : FallibleCall)
    (act : Viewport → Except ViewportError α × Viewport) (p : Viewport) :
    (∃ e library, library.log = p.library.log ∧
        attempt call act p = (.error e, { p with library }))
      ∨ attempt call act p = act p := by
  cases h : p.library.armed? call with
  | none => exact Or.inr (attempt_of_not_armed h)
  | some e =>
      refine Or.inl ⟨e, _, ?_, attempt_of_armed h⟩
      rfl

/-- A new layer has the next number and is of the kind that was asked for. -/
theorem createLayer_cases (kind : LayerKind) (p : Viewport) :
    (∃ e library, library.log = p.library.log ∧
        p.createLayer kind = (.error e, { p with library }))
      ∨ (p.map.tornDown = false ∧ p.createLayer kind
          = (.ok p.map.freshLayer,
              p.commit (p.map.addLayer kind) (.createLayer p.map.freshLayer kind))) := by
  cases h : p.creationRefusal? with
  | some e =>
      refine Or.inl ⟨e, _, ?_, createLayer_of_refused h kind⟩
      rfl
  | none =>
      have htorn := (Option.or_eq_none_iff.1 h).2
      exact Or.inr ⟨by simpa using htorn, createLayer_of_granted h kind⟩

theorem entry_cases (layer : LayerHandle) (m : MapState) :
    (∃ e, m.entry layer = .error e)
      ∨ ∃ entry, m.layer? layer = some entry ∧ m.entry layer = .ok entry := by
  unfold MapState.entry
  cases m.tornDown with
  | true => exact Or.inl ⟨_, rfl⟩
  | false =>
      cases hentry : m.layer? layer with
      | none => exact Or.inl ⟨_, rfl⟩
      | some entry => exact Or.inr ⟨entry, rfl, rfl⟩

/-- Only a drawing layer takes a mode. -/
theorem setInteractionMode_cases (layer : LayerHandle) (mode : Option ShapeKind) (p : Viewport) :
    (∃ e library, library.log = p.library.log ∧
        p.setInteractionMode layer mode = (.error e, { p with library }))
      ∨ ∃ entry, p.map.layer? layer = some entry ∧ p.setInteractionMode layer mode
          = (.ok (), p.commit (p.map.put layer { entry with mode })
              (.setInteractionMode layer mode)) := by
  rcases attempt_cases .setInteractionMode _ p with h | h
  · exact Or.inl h
  · rw [setInteractionMode, h]
    rcases entry_cases layer p.map with ⟨e, he⟩ | ⟨entry, hlayer, hentry⟩
    · rw [he]
      exact Or.inl ⟨e, p.library, rfl, rfl⟩
    · rw [hentry]
      by_cases hkind : entry.kind = .annotationDraw
      · exact Or.inr ⟨entry, hlayer, if_pos hkind⟩
      · exact Or.inl ⟨_, p.library, rfl, if_neg hkind⟩

theorem subscribe_cases (layer : LayerHandle) (p : Viewport) :
    (∃ e library, library.log = p.library.log ∧
        p.subscribe layer = (.error e, { p with library }))
      ∨ (layer ∈ p.map.handles ∧ p.subscribe layer
          = (.ok p.map.freshSubscription, p.commit (p.map.addSubscription layer)
              (.subscribe layer p.map.freshSubscription))) := by
  rcases attempt_cases .subscribe _ p with h | h
  · exact Or.inl h
  · rw [subscribe, h]
    rcases entry_cases layer p.map with ⟨e, he⟩ | ⟨entry, hlayer, hentry⟩
    · rw [he]
      exact Or.inl ⟨e, p.library, rfl, rfl⟩
    · rw [hentry]
      exact Or.inr ⟨MapState.mem_handles.2 ⟨entry, hlayer⟩, rfl⟩

/-- The geometry goes on top of what the layer shows already. -/
theorem readGeometry_cases (layer : LayerHandle) (geometry : FeatureCollection) (p : Viewport) :
    (∃ e library, library.log = p.library.log ∧
        p.readGeometry layer geometry = (.error e, { p with library }))
      ∨ ∃ entry library, library.log = p.library.log ∧ p.map.layer? layer = some entry ∧
          p.readGeometry layer geometry
            = (.ok (), commit { p with library }
                (p.map.put layer { entry with features := entry.features + geometry.features.length })
                (.readGeometry layer geometry.features.length)) := by
  unfold readGeometry
  rcases attempt_cases .readGeometry _
    { p with library := { p.library with submitted := p.library.submitted ++ [geometry] } }
    with ⟨e, library, hlog, h⟩ | h
  · exact Or.inl ⟨e, library, hlog, h⟩
  · rw [h]
    rcases entry_cases layer p.map with ⟨e, he⟩ | ⟨entry, hlayer, hentry⟩
    · rw [he]
      refine Or.inl ⟨e, _, ?_, rfl⟩
      rfl
    · rw [hentry]
      by_cases hkind : entry.kind = .feature
      · refine Or.inr ⟨entry, _, ?_, hlayer, if_pos hkind⟩
        rfl
      · refine Or.inl ⟨_, _, ?_, if_neg hkind⟩
        rfl

end Viewport

end ImageOverlay
