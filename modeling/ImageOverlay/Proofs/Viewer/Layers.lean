import ImageOverlay.Proofs.Draw.Layers
import ImageOverlay.Proofs.Overlay.Layers
import ImageOverlay.Proofs.Viewer.Operations

set_option autoImplicit false

/-!
# The layers of a viewer

A viewer in order (`Viewer.InOrder`) owns exactly what is on its map, and owns nothing while it has
no map. Every operation keeps it in order, whatever call of the map library fails on the way
(`Viewer.perform_step`), so a viewer is in order after every run.

The same case analysis says what an operation can do to the map and to the record of calls
(`Viewer.Step`): nothing, build a map, use it in orderly calls, or tear it down.
-/

namespace ImageOverlay.Viewer

open Viewport (Course)

variable {v v' : Viewer} {m : MapState}

/-- **A viewer in order.** Without a map there is no session, no layer that retires and no
annotation that is shown; with a map, they own its layers and its subscriptions. -/
def InOrder (v : Viewer) : Prop :=
  match v.map with
  | none => v.draw.active = none ∧ v.draw.retiring = [] ∧ v.overlays.layers = []
  | some m => m.OwnedBy v.overlays v.draw.active v.draw.retiring

theorem inOrder_iff_of_none (hmap : v.map = none) :
    v.InOrder ↔ v.draw.active = none ∧ v.draw.retiring = [] ∧ v.overlays.layers = [] := by
  rw [InOrder, hmap]

theorem inOrder_iff_of_some (hmap : v.map = some m) :
    v.InOrder ↔ m.OwnedBy v.overlays v.draw.active v.draw.retiring := by
  rw [InOrder, hmap]

/-! ## What an operation can do -/

/-- What one operation does to the map of a viewer and to the record of calls. -/
inductive Step (v v' : Viewer) : Prop where
  | idle (hmap : v.map = none) (hmap' : v'.map = none) (hlog : v'.library.log = v.library.log)
  | failed (hmap : v.map = none) (hmap' : v'.map = none) (p : Viewport) (library : MapLibrary)
      (width height : Float) (maxLevel : UInt32)
      (hlog : library.log = v.library.log ++ [.createMap width height maxLevel])
      (hcourse : Course { library } p) (hlibrary : v'.library = p.teardown.library)
  | built (hmap : v.map = none) (p : Viewport) (hmap' : v'.map = some p.map) (library : MapLibrary)
      (width height : Float) (maxLevel : UInt32)
      (hlog : library.log = v.library.log ++ [.createMap width height maxLevel])
      (hcourse : Course { library } p) (hlibrary : v'.library = p.library)
  | used (m : MapState) (hmap : v.map = some m) (p : Viewport) (hmap' : v'.map = some p.map)
      (hcourse : Course { library := v.library, map := m } p) (hlibrary : v'.library = p.library)
  | tornDown (m : MapState) (hmap : v.map = some m) (hmap' : v'.map = none) (p : Viewport)
      (hcourse : Course { library := v.library, map := m } p)
      (hlibrary : v'.library = p.teardown.library)

/-- An operation that leaves the map and the record alone. -/
private theorem step_of_quiet (hmap : v'.map = v.map) (hlog : v'.library.log = v.library.log) :
    Step v v' := by
  cases hm : v.map with
  | none => exact .idle hm (hmap.trans hm) hlog
  | some m =>
      exact .used m hm { library := v'.library, map := m } (hmap.trans hm)
        (.single (.unrecorded _ _ hlog)) rfl

/-- An operation that leaves the owners of the layers alone, too. -/
private theorem step_of_same (h : v.InOrder) (hmap : v'.map = v.map)
    (hlog : v'.library.log = v.library.log) (hoverlays : v'.overlays = v.overlays)
    (hactive : v'.draw.active = v.draw.active) (hretiring : v'.draw.retiring = v.draw.retiring) :
    Step v v' ∧ v'.InOrder := by
  refine ⟨step_of_quiet hmap hlog, ?_⟩
  rw [InOrder, hmap, hoverlays, hactive, hretiring]
  exact h

private theorem step_refl (h : v.InOrder) : Step v v ∧ v.InOrder :=
  step_of_same h rfl rfl rfl rfl rfl

/-- An operation that uses the map. -/
private theorem step_of_course (hmap : v.map = some m) {p : Viewport} (hmap' : v'.map = some p.map)
    (hlibrary : v'.library = p.library)
    (h : Course { library := v.library, map := m } p ∧
      p.map.OwnedBy v'.overlays v'.draw.active v'.draw.retiring) :
    Step v v' ∧ v'.InOrder :=
  ⟨.used m hmap p hmap' h.1 hlibrary, (inOrder_iff_of_some hmap').2 h.2⟩

/-! ## The operations, one by one -/

/-- Building a map fails without a trace, or fails and tears the map down, or succeeds. -/
theorem build_cases (params : MapParams) (library : MapLibrary) :
    (∃ e failed, build params library = (.error e, failed) ∧ failed.log = library.log)
      ∨ (∃ e p opened width height maxLevel, build params library = (.error e, p.teardown.library) ∧
          opened.log = library.log ++ [Call.createMap width height maxLevel] ∧
          Course { library := opened } p)
      ∨ ∃ p opened width height maxLevel, build params library = (.ok p.map, p.library) ∧
          opened.log = library.log ++ [Call.createMap width height maxLevel] ∧
          Course { library := opened } p ∧ p.map.OwnedBy {} none [] := by
  unfold build MapLibrary.createMap MapLibrary.fault?
  cases library.faults.lookup .createMap with
  | some e => exact Or.inl ⟨e, _, rfl, rfl⟩
  | none =>
      simp only [Option.map_none]
      by_cases hextent : params.maxBounds.right ≤ 0.0 ∨ params.maxBounds.bottom ≤ 0.0
      · rw [if_pos hextent]
        exact Or.inl ⟨_, _, rfl, rfl⟩
      · rw [if_neg hextent]
        have hlog : (library.record (.createMap params.maxBounds.right params.maxBounds.bottom
              params.maxLevel)).log
            = library.log ++ [.createMap params.maxBounds.right params.maxBounds.bottom
              params.maxLevel] := rfl
        generalize library.record (.createMap params.maxBounds.right params.maxBounds.bottom
          params.maxLevel) = opened at hlog
        rcases Viewport.createLayer_cases .tile { library := opened } with
          ⟨e, refused, hrefused, heq⟩ | ⟨-, heq⟩
        · simp only [heq]
          exact Or.inr (Or.inl ⟨e, _, opened, _, _, _, rfl, hlog,
            .single (.unrecorded _ refused hrefused)⟩)
        · simp only [heq]
          exact Or.inr (Or.inr ⟨Viewport.draw _, opened, _, _, _, rfl, hlog,
            (Course.single (.createLayer _ .tile)).step (.draw _), .initial⟩)

theorem render_step (h : v.InOrder) : Step v v.render.2 ∧ v.render.2.InOrder := by
  have hsame := step_refl h
  unfold render isRendered
  cases hmap : v.map with
  | some m => exact hsame
  | none =>
      simp only [Option.isSome_none, Bool.false_eq_true, if_false]
      cases v.image.filter (·.info.isUsable) with
      | none => exact hsame
      | some image =>
          by_cases hattached : v.attached
          · simp only [hattached, if_true]
            rcases build_cases (v.settings.mapParams image.item image.info) v.library with
              ⟨e, failed, heq, hlog⟩
              | ⟨e, p, opened, width, height, maxLevel, heq, hlog, hcourse⟩
              | ⟨p, opened, width, height, maxLevel, heq, hlog, hcourse, howned⟩
            · simp only [heq]
              exact step_of_same h hmap.symm hlog rfl rfl rfl
            · simp only [heq]
              exact ⟨.failed hmap rfl p opened width height maxLevel hlog hcourse rfl,
                (inOrder_iff_of_none rfl).2 ((inOrder_iff_of_none hmap).1 h)⟩
            · simp only [heq]
              refine ⟨.built hmap p rfl opened width height maxLevel hlog hcourse rfl, ?_⟩
              obtain ⟨hactive, hretiring, hoverlays⟩ := (inOrder_iff_of_none hmap).1 h
              refine (inOrder_iff_of_some rfl).2 ?_
              show p.map.OwnedBy v.overlays v.draw.active v.draw.retiring
              rw [hactive, hretiring]
              exact howned.of_perm (.of_eq hoverlays)
          · simp only [hattached]
            exact hsame

theorem addOverlay_step (h : v.InOrder) (d : Document) :
    Step v (v.perform (.addOverlay d)) ∧ (v.perform (.addOverlay d)).InOrder := by
  obtain hmap | ⟨m, hmap⟩ := Option.eq_none_or_eq_some v.map
  · have heq : v.perform (.addOverlay d) = v := by
      simp only [perform, Viewer.renderAnnotation, hmap]
    rw [heq]
    exact step_refl h
  · have howned := Overlays.render_owned (p := { library := v.library, map := m })
      ((inOrder_iff_of_some hmap).1 h) v.settings.style d
    unfold perform Viewer.renderAnnotation
    rw [hmap]
    exact step_of_course hmap rfl rfl howned

theorem removeOverlay_step (h : v.InOrder) (id : String) :
    Step v (v.perform (.removeOverlay id)) ∧ (v.perform (.removeOverlay id)).InOrder := by
  obtain hmap | ⟨m, hmap⟩ := Option.eq_none_or_eq_some v.map
  · have heq : v.perform (.removeOverlay id) = v := by
      simp only [perform, Viewer.unrenderAnnotation, hmap]
    rw [heq]
    exact step_refl h
  · have howned := Overlays.remove_owned (p := { library := v.library, map := m })
      ((inOrder_iff_of_some hmap).1 h) id
    unfold perform Viewer.unrenderAnnotation
    rw [hmap]
    exact step_of_course hmap rfl rfl howned

theorem clearAnnotations_step (h : v.InOrder) :
    Step v v.clearAnnotations.2 ∧ v.clearAnnotations.2.InOrder := by
  obtain hmap | ⟨m, hmap⟩ := Option.eq_none_or_eq_some v.map
  · have heq : v.clearAnnotations.2 = v := by
      simp only [clearAnnotations, hmap]
    rw [heq]
    exact step_refl h
  · have howned := Overlays.clear_owned (p := { library := v.library, map := m })
      ((inOrder_iff_of_some hmap).1 h)
    unfold clearAnnotations
    rw [hmap]
    exact step_of_course hmap rfl rfl howned

theorem startDrawing_step (h : v.InOrder) (shape : ShapeKind) (options : Option DrawOptions) :
    Step v (v.startDrawing shape options).2 ∧ (v.startDrawing shape options).2.InOrder := by
  obtain hmap | ⟨m, hmap⟩ := Option.eq_none_or_eq_some v.map
  · have heq : (v.startDrawing shape options).2 = v := by
      simp only [startDrawing, hmap]
    rw [heq]
    exact step_refl h
  · have howned := DrawMode.start_owned (p := { library := v.library, map := m })
      ((inOrder_iff_of_some hmap).1 h) shape (options.getD v.settings.drawOptions)
    unfold startDrawing
    rw [hmap]
    exact step_of_course hmap rfl rfl howned

/-- The slot of a region has nothing to do with the map. -/
private theorem Step.withSlots {slots : RegionSlots} (h : Step v v' ∧ v'.InOrder) :
    Step v { v' with slots } ∧ InOrder { v' with slots } := by
  refine ⟨?_, h.2⟩
  cases h.1 with
  | idle hmap hmap' hlog => exact .idle hmap hmap' hlog
  | failed hmap hmap' p library width height maxLevel hlog hcourse hlibrary =>
      exact .failed hmap hmap' p library width height maxLevel hlog hcourse hlibrary
  | built hmap p hmap' library width height maxLevel hlog hcourse hlibrary =>
      exact .built hmap p hmap' library width height maxLevel hlog hcourse hlibrary
  | used m hmap p hmap' hcourse hlibrary => exact .used m hmap p hmap' hcourse hlibrary
  | tornDown m hmap hmap' p hcourse hlibrary => exact .tornDown m hmap hmap' p hcourse hlibrary

theorem drawRegion_step (h : v.InOrder) (slot : Option SlotId) :
    Step v (v.drawRegion slot).2 ∧ (v.drawRegion slot).2.InOrder := by
  have hstart := startDrawing_step h .rectangle (some .silent)
  unfold drawRegion
  generalize v.startDrawing .rectangle (some .silent) = started at hstart ⊢
  obtain ⟨result, w⟩ := started
  cases result with
  | error e => exact hstart
  | ok request =>
      cases slot with
      | some slot => exact hstart
      | none => exact Step.withSlots hstart

/-- A look at a request for a region is a look at the request, but for the slot. -/
theorem pollRegion_eq (v : Viewer) (r : RegionRequest) :
    ∃ slots, (v.pollRegion r).2 = { (v.poll r.request).2 with slots } := by
  unfold pollRegion
  simp only
  split
  · exact ⟨_, rfl⟩
  · exact ⟨_, rfl⟩

theorem cancelDrawing_step (h : v.InOrder) :
    Step v v.cancelDrawing.2 ∧ v.cancelDrawing.2.InOrder := by
  obtain hmap | ⟨m, hmap⟩ := Option.eq_none_or_eq_some v.map
  · have heq : v.cancelDrawing.2 = v := by
      simp only [cancelDrawing, hmap]
    rw [heq]
    exact step_refl h
  · have howned := DrawMode.cancel_owned (p := { library := v.library, map := m })
      ((inOrder_iff_of_some hmap).1 h)
    unfold cancelDrawing
    rw [hmap]
    exact step_of_course hmap rfl rfl howned

theorem retireLayers_step (h : v.InOrder) :
    Step v v.retireLayers.2 ∧ v.retireLayers.2.InOrder := by
  obtain hmap | ⟨m, hmap⟩ := Option.eq_none_or_eq_some v.map
  · have heq : v.retireLayers.2 = v := by
      simp only [retireLayers, hmap]
    rw [heq]
    exact step_refl h
  · have howned := DrawMode.retire_owned (p := { library := v.library, map := m })
      ((inOrder_iff_of_some hmap).1 h)
    unfold retireLayers
    rw [hmap]
    exact step_of_course hmap rfl rfl howned

theorem handle_step (h : v.InOrder) (e : ViewportEvent) :
    Step v (v.handle e).2 ∧ (v.handle e).2.InOrder := by
  cases e with
  | drawPassComplete =>
      unfold handle
      by_cases hretire : v.settings.draw.retireOn = .drawPass
      · simp only [if_pos hretire]
        exact retireLayers_step h
      · simp only [if_neg hretire]
        exact step_refl h
  | annotationChanged layer drawn =>
      refine ⟨step_of_quiet rfl rfl, ?_⟩
      obtain hmap | ⟨m, hmap⟩ := Option.eq_none_or_eq_some v.map
      · -- Without a map no session waits, so there is nothing a drawing could complete.
        obtain ⟨hactive, hretiring, hoverlays⟩ := (inOrder_iff_of_none hmap).1 h
        have hsame : (v.draw.annotationChanged layer drawn v.bus v.supply).2.1 = v.draw := by
          rw [DrawMode.annotationChanged_eq_self (by simp [hactive])]
        have hmap' : (v.handle (.annotationChanged layer drawn)).2.map = none := hmap
        refine (inOrder_iff_of_none hmap').2 ?_
        show (v.draw.annotationChanged layer drawn v.bus v.supply).2.1.active = none ∧
          (v.draw.annotationChanged layer drawn v.bus v.supply).2.1.retiring = [] ∧
          v.overlays.layers = []
        rw [hsame]
        exact ⟨hactive, hretiring, hoverlays⟩
      · have hmap' : (v.handle (.annotationChanged layer drawn)).2.map = some m := hmap
        exact (inOrder_iff_of_some hmap').2
          (DrawMode.annotationChanged_owned ((inOrder_iff_of_some hmap).1 h) layer drawn _ _)

/-- What is torn down was in order until the end, and nothing is left that needs a map. -/
theorem destroy_step (h : v.InOrder) : Step v v.destroy ∧ v.destroy.InOrder := by
  obtain hmap | ⟨m, hmap⟩ := Option.eq_none_or_eq_some v.map
  · have heq : v.destroy = v := by
      simp only [destroy, hmap]
    rw [heq]
    exact step_refl h
  · -- First the session that waits, then those that are over, then the annotations: after each
    -- step the map is in order with one kind of owner less.
    have hcancel := DrawMode.cancel_owned (p := { library := v.library, map := m })
      ((inOrder_iff_of_some hmap).1 h)
    have hactive := DrawMode.cancel_active (d := v.draw) (p := { library := v.library, map := m })
    have hretire := DrawMode.retire_owned hcancel.2
    have hclear := Overlays.clear_owned hretire.2
    unfold destroy
    rw [hmap]
    exact ⟨.tornDown m hmap rfl _ ((hcancel.1.trans hretire.1).trans hclear.1) rfl,
      (inOrder_iff_of_none rfl).2 ⟨hactive, rfl, rfl⟩⟩

@[simp] theorem destroy_map (v : Viewer) : v.destroy.map = none := by
  unfold destroy
  cases hmap : v.map with
  | none => exact hmap
  | some m => rfl

@[simp] theorem drop_map (v : Viewer) : v.drop.map = none := destroy_map v

/-- Without a map there is nothing to abandon. -/
theorem drop_eq_destroy (h : v.InOrder) : v.drop = v.destroy := by
  obtain ⟨hactive, hretiring, -⟩ :=
    (inOrder_iff_of_none (destroy_map v)).1 (destroy_step h).2
  unfold drop
  simp only [DrawMode.abandon_eq_self hactive hretiring]

/-! ## Every operation, and every run -/

/-- **Every operation keeps a viewer in order.** -/
theorem perform_step (h : v.InOrder) (op : Operation) :
    Step v (v.perform op) ∧ (v.perform op).InOrder := by
  cases op with
  | attach => exact step_of_same h rfl rfl rfl rfl rfl
  | setImage item info => exact step_of_same h rfl rfl rfl rfl rfl
  | poll request => exact step_of_same h rfl rfl rfl rfl rfl
  | pollRegion request =>
      obtain ⟨slots, heq⟩ := pollRegion_eq v request
      show Step v (v.pollRegion request).2 ∧ (v.pollRegion request).2.InOrder
      rw [heq]
      exact Step.withSlots (step_of_same h rfl rfl rfl rfl rfl)
  | dropRequest request => exact step_of_same h rfl rfl rfl rfl rfl
  | arm call e => exact step_of_same h rfl rfl rfl rfl rfl
  | render => exact render_step h
  | addOverlay d => exact addOverlay_step h d
  | removeOverlay id => exact removeOverlay_step h id
  | clearOverlays => exact clearAnnotations_step h
  | startDrawing shape options => exact startDrawing_step h shape options
  | drawRegion slot => exact drawRegion_step h slot
  | handle e => exact handle_step h e
  | cancelDrawing => exact cancelDrawing_step h
  | retireLayers => exact retireLayers_step h
  | destroy => exact destroy_step h
  | drop =>
      show Step v v.drop ∧ v.drop.InOrder
      rw [drop_eq_destroy h]
      exact destroy_step h

theorem inOrder_fresh (settings : Settings) (supply : Identity.Supply)
    (drains : DrainOrders) (bus : Bus) :
    (fresh settings supply drains bus).InOrder :=
  (inOrder_iff_of_none rfl).2 ⟨rfl, rfl, rfl⟩

theorem InOrder.run (h : v.InOrder) (ops : List Operation) : (v.run ops).InOrder :=
  run_invariant (P := InOrder) (fun _ op hw => (perform_step hw op).2) h ops

/-- **A viewer is in order after every run.** -/
theorem run_inOrder (settings : Settings) (supply : Identity.Supply)
    (drains : DrainOrders) (bus : Bus)
    (ops : List Operation) : ((fresh settings supply drains bus).run ops).InOrder :=
  run_invariant (P := InOrder) (fun _ op h => (perform_step h op).2)
    (inOrder_fresh settings supply drains bus) ops

end ImageOverlay.Viewer
