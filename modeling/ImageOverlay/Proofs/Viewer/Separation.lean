import ImageOverlay.Proofs.Viewer.Changes
import ImageOverlay.Proofs.Viewport.Frames

set_option autoImplicit false

/-!
# Drawing and annotations stay apart

The draw mode and the overlays share one map and delete its layers by their handles. Neither ever
touches what is the other's (`Viewer.Separate`): whatever the user draws and whatever becomes of the
sessions, the tiles and the annotations that are shown stay as they are, and whatever annotations
come and go, the sessions, their requests, their layers and their subscriptions stay as they are.

For a single operation this takes two things. The operation keeps all layers but those of its own
side, and no layer is on both sides, because a viewer in order has one owner for every layer. That
the other side does not get any layers either follows from the order of the viewer afterwards.
-/

namespace ImageOverlay

/-! ## The two sides of a map -/

namespace MapState

variable {o : Overlays} {active : Option DrawSession} {retiring : List RetiringLayer}
  {m m' : MapState} {layer : LayerHandle} {entry : Layer}

/-- The layers of the tiles and of the annotations. -/
def shownLayers (o : Overlays) : List LayerHandle := tileLayer :: o.handles

/-- The layers of the sessions. -/
def sessionLayers (active : Option DrawSession) (retiring : List RetiringLayer) :
    List LayerHandle :=
  (holdings active retiring).map (·.layer)

/-- What is shown is the same on both maps: the tiles, every annotation, and whatever else is no
drawing layer. -/
structure SameShown (o : Overlays) (m m' : MapState) : Prop where
  tile : m'.layer? tileLayer = m.layer? tileLayer
  annotations : ∀ layer ∈ o.handles, m'.layer? layer = m.layer? layer
  others : ∀ layer entry, entry.kind ≠ .annotationDraw →
    (m'.layer? layer = some entry ↔ m.layer? layer = some entry)

/-- What the user draws on is the same on both maps. -/
structure SameDrawn (m m' : MapState) : Prop where
  layers : ∀ layer entry, entry.kind = .annotationDraw →
    (m'.layer? layer = some entry ↔ m.layer? layer = some entry)
  subscriptions : m'.subscriptions.Perm m.subscriptions

namespace OwnedBy

theorem kind_of_shown (h : m.OwnedBy o active retiring) (hlayer : layer ∈ shownLayers o)
    (hentry : m.layer? layer = some entry) : entry.kind ≠ .annotationDraw := by
  have hkind : m.kind? layer = some entry.kind := by rw [kind?, hentry, Option.map_some]
  intro hdrawing
  rw [hdrawing] at hkind
  rcases List.mem_cons.1 hlayer with rfl | hoverlay
  · rw [h.tile] at hkind
    cases hkind
  · rw [h.features layer hoverlay] at hkind
    cases hkind

theorem kind_of_session (h : m.OwnedBy o active retiring)
    (hlayer : layer ∈ sessionLayers active retiring) (hentry : m.layer? layer = some entry) :
    entry.kind = .annotationDraw := by
  obtain ⟨r, hr, rfl⟩ := List.mem_map.1 hlayer
  have hkind := h.drawing r hr
  rw [kind?, hentry, Option.map_some] at hkind
  exact Option.some.inj hkind

/-- A layer on the map is on one side or on the other. -/
theorem side (h : m.OwnedBy o active retiring) (hentry : m.layer? layer = some entry) :
    layer ∈ shownLayers o ∨ layer ∈ sessionLayers active retiring := by
  have hmem := h.mem_iff.1 (mem_handles.2 ⟨entry, hentry⟩)
  rw [ownedLayers, ← List.cons_append, List.mem_append] at hmem
  exact hmem

theorem shown_of_kind (h : m.OwnedBy o active retiring) (hentry : m.layer? layer = some entry)
    (hkind : entry.kind ≠ .annotationDraw) : layer ∈ shownLayers o :=
  (h.side hentry).resolve_right fun hsession => hkind (h.kind_of_session hsession hentry)

theorem session_of_kind (h : m.OwnedBy o active retiring) (hentry : m.layer? layer = some entry)
    (hkind : entry.kind = .annotationDraw) : layer ∈ sessionLayers active retiring :=
  (h.side hentry).resolve_left fun hshown => h.kind_of_shown hshown hentry hkind

theorem shown_mem (h : m.OwnedBy o active retiring) (hlayer : layer ∈ shownLayers o) :
    layer ∈ m.handles :=
  h.mem_iff.2 (List.mem_append_left (sessionLayers active retiring) hlayer)

theorem session_mem (h : m.OwnedBy o active retiring)
    (hlayer : layer ∈ sessionLayers active retiring) : layer ∈ m.handles :=
  h.mem_iff.2 (List.mem_append_right (shownLayers o) hlayer)

theorem not_session (h : m.OwnedBy o active retiring) (hlayer : layer ∈ shownLayers o) :
    layer ∉ sessionLayers active retiring := by
  obtain ⟨entry, hentry⟩ := mem_handles.1 (h.shown_mem hlayer)
  exact fun hsession => h.kind_of_shown hlayer hentry (h.kind_of_session hsession hentry)

/-- Who touches only the layers of sessions leaves what is shown alone. -/
theorem sameShown (h : m.OwnedBy o active retiring) {active' : Option DrawSession}
    {retiring' : List RetiringLayer} (h' : m'.OwnedBy o active' retiring')
    (hkeeps : Keeps (sessionLayers active retiring) m m') : SameShown o m m' := by
  have hshown : ∀ layer ∈ shownLayers o, m'.layer? layer = m.layer? layer := fun layer hlayer =>
    hkeeps layer (h.shown_mem hlayer) (h.not_session hlayer)
  refine ⟨hshown _ List.mem_cons_self, fun l hl => hshown l (List.mem_cons_of_mem _ hl), ?_⟩
  -- What is no drawing layer on either map belongs to the overlays, which have not changed.
  intro layer entry hkind
  constructor
  · intro hentry
    rw [← hshown layer (h'.shown_of_kind hentry hkind), hentry]
  · intro hentry
    rw [hshown layer (h.shown_of_kind hentry hkind), hentry]

/-- Who touches only the layers of annotations leaves the drawing layers alone. -/
theorem sameDrawn (h : m.OwnedBy o active retiring) {o' : Overlays}
    (h' : m'.OwnedBy o' active retiring) (hkeeps : Keeps o.handles m m') : SameDrawn m m' := by
  have hsession : ∀ layer ∈ sessionLayers active retiring, m'.layer? layer = m.layer? layer := by
    intro layer hlayer
    refine hkeeps layer (h.session_mem hlayer) fun hoverlay => ?_
    exact h.not_session (List.mem_cons_of_mem _ hoverlay) hlayer
  refine ⟨?_, h'.subscriptions.trans h.subscriptions.symm⟩
  intro layer entry hkind
  constructor
  · intro hentry
    rw [← hsession layer (h'.session_of_kind hentry hkind), hentry]
  · intro hentry
    rw [hsession layer (h.session_of_kind hentry hkind), hentry]

end OwnedBy

end MapState

/-! ## The two sides of a viewer -/

/-- An operation of the draw mode, or an event of the map. -/
def Operation.isDrawing : Operation → Bool
  | .startDrawing _ _ | .drawRegion _ | .handle _ | .cancelDrawing | .retireLayers => true
  | _ => false

/-- An operation of the overlays. -/
def Operation.isAnnotating : Operation → Bool
  | .addOverlay _ | .removeOverlay _ | .clearOverlays => true
  | _ => false

namespace Viewer

open MapState (Keeps SameShown SameDrawn sessionLayers)

variable {v v' : Viewer} {op : Operation} {m : MapState}

/-- The layers of the sessions of a viewer. -/
def drawnOn (v : Viewer) : List LayerHandle := sessionLayers v.draw.active v.draw.retiring

theorem active_drawnOn {s : DrawSession} (hs : s ∈ v.draw.active) : s.layer ∈ v.drawnOn :=
  List.mem_map_of_mem (f := fun r : RetiringLayer => r.layer) (holding_mem_holdings hs)

theorem retiring_drawnOn {r : RetiringLayer} (hr : r ∈ v.draw.retiring) : r.layer ∈ v.drawnOn :=
  List.mem_map_of_mem (List.mem_append_right _ hr)

/-- The viewer still has its map if it had one, with all layers but those given as they were. -/
def Spares (touched : List LayerHandle) (v v' : Viewer) : Prop :=
  Option.Rel (Keeps touched) v.map v'.map

theorem spares_of_map_eq {touched : List LayerHandle} (hmap : v'.map = v.map) :
    Spares touched v v' := by
  rw [Spares, hmap]
  cases v.map with
  | none => exact .none
  | some m => exact .some (.refl m)

theorem spares_of_some {touched : List LayerHandle} {m' : MapState} (hmap : v.map = some m)
    (hmap' : v'.map = some m') (h : Keeps touched m m') : Spares touched v v' := by
  rw [Spares, hmap, hmap']
  exact .some h

/-- What is true of maps of which one keeps the layers of the other is true of the two maps of the
viewer, if there are any. -/
theorem Spares.rel {touched : List LayerHandle} {R : MapState → MapState → Prop}
    (hs : Spares touched v v')
    (hR : ∀ m m', v.map = some m → v'.map = some m' → Keeps touched m m' → R m m') :
    Option.Rel R v.map v'.map := by
  unfold Spares at hs
  generalize v.map = before at hs hR ⊢
  generalize v'.map = after at hs hR ⊢
  cases hs with
  | none => exact .none
  | some hkeeps => exact .some (hR _ _ rfl rfl hkeeps)

/-! ## Drawing -/

/-- Everything but the draw mode is spared: the overlays are the same, and on the map only the
layers of the sessions have been touched. -/
def SparesOverlays (v v' : Viewer) : Prop := v'.overlays = v.overlays ∧ Spares v.drawnOn v v'

theorem startDrawing_spares (h : v.InOrder) (shape : ShapeKind) (options : Option DrawOptions) :
    SparesOverlays v (v.startDrawing shape options).2 := by
  obtain hmap | ⟨m, hmap⟩ := Option.eq_none_or_eq_some v.map
  · simp only [startDrawing, hmap]
    exact ⟨rfl, spares_of_map_eq rfl⟩
  · have hkeeps := DrawMode.start_keeps (p := { library := v.library, map := m })
      ((inOrder_iff_of_some hmap).1 h) (fun _ => active_drawnOn) shape
      (options.getD v.settings.drawOptions)
    simp only [startDrawing, hmap]
    exact ⟨rfl, spares_of_some hmap rfl hkeeps⟩

theorem cancelDrawing_spares (v : Viewer) : SparesOverlays v v.cancelDrawing.2 := by
  obtain hmap | ⟨m, hmap⟩ := Option.eq_none_or_eq_some v.map
  · simp only [cancelDrawing, hmap]
    exact ⟨rfl, spares_of_map_eq rfl⟩
  · have hkeeps := DrawMode.cancel_keeps (fun _ => active_drawnOn (v := v))
      { library := v.library, map := m }
    simp only [cancelDrawing, hmap]
    exact ⟨rfl, spares_of_some hmap rfl hkeeps⟩

theorem retireLayers_spares (v : Viewer) : SparesOverlays v v.retireLayers.2 := by
  obtain hmap | ⟨m, hmap⟩ := Option.eq_none_or_eq_some v.map
  · simp only [retireLayers, hmap]
    exact ⟨rfl, spares_of_map_eq rfl⟩
  · have hkeeps := DrawMode.retire_keeps (fun _ => retiring_drawnOn (v := v))
      { library := v.library, map := m }
    simp only [retireLayers, hmap]
    exact ⟨rfl, spares_of_some hmap rfl hkeeps⟩

/-- The draw mode does not know of the overlays, and it touches only the layers of its sessions. -/
theorem drawing_spares (h : v.InOrder) (hop : op.isDrawing = true) :
    SparesOverlays v (v.perform op) := by
  cases op with
  | startDrawing shape options => exact startDrawing_spares h shape options
  | drawRegion slot =>
      obtain ⟨slots, heq⟩ := drawRegion_eq slot v
      show SparesOverlays v (v.drawRegion slot).2
      rw [heq]
      exact startDrawing_spares h _ _
  | handle e =>
      cases e with
      | annotationChanged layer drawn =>
          -- A session ends without a call to the map: its layer waits to be deleted.
          exact ⟨rfl, spares_of_map_eq rfl⟩
      | drawPassComplete =>
          show SparesOverlays v (v.handle .drawPassComplete).2
          unfold handle
          by_cases hretire : v.settings.draw.retireOn = .drawPass
          · simp only [if_pos hretire]
            exact retireLayers_spares v
          · simp only [if_neg hretire]
            exact ⟨rfl, spares_of_map_eq rfl⟩
  | cancelDrawing => exact cancelDrawing_spares v
  | retireLayers => exact retireLayers_spares v
  | attach | setImage | render | addOverlay | removeOverlay | clearOverlays | poll | pollRegion
  | dropRequest | destroy | drop | arm => cases hop

/-! ## Annotations -/

/-- Everything but the overlays is spared: the draw mode is the same, and on the map only the
layers of annotations have been touched. -/
def SparesDrawing (v v' : Viewer) : Prop :=
  v'.draw = v.draw ∧ Spares v.overlays.handles v v'

/-- The overlays do not know of the draw mode, and they touch only the layers they know. -/
theorem annotating_spares (h : v.InOrder) (hop : op.isAnnotating = true) :
    SparesDrawing v (v.perform op) := by
  obtain hmap | ⟨m, hmap⟩ := Option.eq_none_or_eq_some v.map
  · cases op with
    | addOverlay | removeOverlay | clearOverlays =>
        simp only [perform, Viewer.renderAnnotation, Viewer.unrenderAnnotation, clearAnnotations,
          hmap]
        exact ⟨rfl, spares_of_map_eq rfl⟩
    | attach | setImage | render | startDrawing | drawRegion | poll | pollRegion | dropRequest
    | handle | cancelDrawing | retireLayers | destroy | drop | arm => cases hop
  · have hcounted : m.Counted := ((inOrder_iff_of_some hmap).1 h).counted
    cases op with
    | addOverlay d =>
        have hkeeps := Overlays.render_keeps (o := v.overlays)
          (p := { library := v.library, map := m }) hcounted (fun _ hl => hl) v.settings.style d
        simp only [perform, Viewer.renderAnnotation, hmap]
        exact ⟨rfl, spares_of_some hmap rfl hkeeps⟩
    | removeOverlay id =>
        have hkeeps := Overlays.remove_keeps (o := v.overlays) (fun _ hl => hl) id
          { library := v.library, map := m }
        simp only [perform, Viewer.unrenderAnnotation, hmap]
        exact ⟨rfl, spares_of_some hmap rfl hkeeps⟩
    | clearOverlays =>
        have hkeeps := Overlays.clear_keeps (o := v.overlays) (fun _ hl => hl)
          { library := v.library, map := m }
        simp only [perform, clearAnnotations, hmap]
        exact ⟨rfl, spares_of_some hmap rfl hkeeps⟩
    | attach | setImage | render | startDrawing | drawRegion | poll | pollRegion | dropRequest
    | handle | cancelDrawing | retireLayers | destroy | drop | arm => cases hop

/-! ## Every operation, and every run -/

/-- **The two sides of a viewer.** What the draw mode does leaves the overlays and what is shown as
it is; what the overlays do leaves the draw mode with its sessions and its requests, and what the
user draws on, as it is. -/
structure Separate (v : Viewer) : Prop where
  drawing : ∀ op : Operation, op.isDrawing = true →
    (v.perform op).overlays = v.overlays ∧
      Option.Rel (SameShown v.overlays) v.map (v.perform op).map
  annotating : ∀ op : Operation, op.isAnnotating = true →
    (v.perform op).draw = v.draw ∧ Option.Rel SameDrawn v.map (v.perform op).map

theorem InOrder.separate (h : v.InOrder) : Separate v where
  drawing := by
    intro op hop
    obtain ⟨hoverlays, hspares⟩ := drawing_spares h hop
    refine ⟨hoverlays, hspares.rel ?_⟩
    intro m m' hmap hmap' hkeeps
    have h' := (inOrder_iff_of_some hmap').1 (perform_step h op).2
    rw [hoverlays] at h'
    exact ((inOrder_iff_of_some hmap).1 h).sameShown h' hkeeps
  annotating := by
    intro op hop
    obtain ⟨hdraw, hspares⟩ := annotating_spares h hop
    refine ⟨hdraw, hspares.rel ?_⟩
    intro m m' hmap hmap' hkeeps
    have h' := (inOrder_iff_of_some hmap').1 (perform_step h op).2
    rw [hdraw] at h'
    exact ((inOrder_iff_of_some hmap).1 h).sameDrawn h' hkeeps

/-- **Drawing and annotations do not interfere,** after whatever run and with whatever faults. -/
theorem run_separate (settings : Settings) (supply : Identity.Supply)
    (drains : DrainOrders) (bus : Bus)
    (ops : List Operation) : Separate ((fresh settings supply drains bus).run ops) :=
  ((inOrder_fresh settings supply drains bus).run ops).separate

end Viewer

end ImageOverlay
