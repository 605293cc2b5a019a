import ImageOverlay.Proofs.Loop.Turns
import ImageOverlay.Proofs.Viewer.Retirement

set_option autoImplicit false

/-!
# Layers are deleted within their turn

If layers retire on the next turn, then a turn that ends sessions deletes their layers before it is
over. One deletion is scheduled for the whole turn, by the first session that ends in it, and what
must not happen is that a layer begins to retire while none is scheduled (`Loop.Scheduled`). A
shutdown in the same turn may have deleted the layers before; then the deletion that is scheduled
finds those of sessions that came later, or none.

So between turns no layer retires, and the only drawing layer there can be on the map is that of
the session that waits.
-/

namespace ImageOverlay

namespace MapState

/-- The layers of a map on which the user draws. -/
def drawingLayers (m : MapState) : List LayerHandle :=
  m.handles.filter fun l => m.kind? l = some .annotationDraw

/-- The drawing layers of a map in order are those of its sessions. -/
theorem OwnedBy.drawingLayers_perm {o : Overlays} {active : Option DrawSession}
    {retiring : List RetiringLayer} {m : MapState} (h : m.OwnedBy o active retiring) :
    m.drawingLayers.Perm ((holdings active retiring).map (·.layer)) := by
  have hfeatures : o.handles.filter (fun l => m.kind? l = some .annotationDraw) = [] := by
    rw [List.filter_eq_nil_iff]
    intro l hl
    simp [h.features l hl]
  have hsessions : ((holdings active retiring).map (·.layer)).filter
      (fun l => m.kind? l = some .annotationDraw) = (holdings active retiring).map (·.layer) := by
    rw [List.filter_eq_self]
    intro l hl
    obtain ⟨r, hr, rfl⟩ := List.mem_map.1 hl
    simp [h.drawing r hr]
  have howned : (ownedLayers o active retiring).filter
      (fun l => m.kind? l = some .annotationDraw) = (holdings active retiring).map (·.layer) := by
    rw [ownedLayers, List.filter_cons_of_neg (by simp [h.tile]), List.filter_append, hfeatures,
      hsessions, List.nil_append]
  have hperm := h.layers.filter fun l => decide (m.kind? l = some .annotationDraw)
  rw [howned] at hperm
  exact hperm

/-- While no layer retires there is at most one drawing layer. -/
theorem OwnedBy.drawingLayers_eq {o : Overlays} {active : Option DrawSession} {m : MapState}
    (h : m.OwnedBy o active []) : m.drawingLayers = active.toList.map (·.layer) := by
  have hperm := h.drawingLayers_perm
  cases active with
  | none => exact hperm.eq_nil
  | some s => exact List.perm_singleton.1 hperm

end MapState

namespace Loop

variable {l : Loop}

/-- If layers retire on the next turn, then a layer only retires while its deletion is
scheduled. -/
structure Scheduled (l : Loop) : Prop where
  inOrder : l.viewer.InOrder
  nextTurn : l.viewer.settings.draw.retireOn = .nextTurn
  scheduled : l.viewer.draw.retiring ≠ [] → l.retireScheduled = true

/-- An input that completes a session schedules the deletion of its layer. -/
theorem retires_of_completed {v : Viewer} {i : Input} {layer : LayerHandle} {drawn : Drawn}
    {s : DrawSession} (hnextTurn : v.settings.draw.retireOn = .nextTurn)
    (hi : i.operation = .handle (.annotationChanged layer drawn))
    (hcompleted : v.draw.completed? layer drawn = some s) : i.retires v = true := by
  cases i with
  | event e =>
      obtain rfl := Operation.handle.inj hi
      have hresolved := (DrawMode.annotationChanged_retiring hcompleted v.bus v.supply).1
      simp [Input.retires, Viewer.handle, hresolved, hnextTurn]
  | command c => cases c <;> cases hi
  | fault call e => cases hi

theorem Scheduled.handle (h : Scheduled l) (i : Input) : Scheduled (l.handle i) := by
  obtain ⟨requests, slots, waiting, finished, heq⟩ := l.handle_frame i
  rw [heq]
  refine ⟨?_, (Viewer.perform_settings _ _).symm ▸ h.nextTurn, ?_⟩
  · exact (Viewer.perform_step h.inOrder i.operation).2
  · -- The tasks leave the layers alone, so what counts is the operation itself.
    show (l.viewer.perform i.operation).draw.retiring ≠ [] →
      (l.retireScheduled || i.retires l.viewer) = true
    intro hretiring
    cases Viewer.perform_retirement h.inOrder i.operation with
    | kept hkept =>
        rw [hkept] at hretiring
        rw [h.scheduled hretiring, Bool.true_or]
    | added layer drawn s hi hcompleted =>
        rw [retires_of_completed h.nextTurn hi hcompleted, Bool.or_true]
    | emptied before after hnone => exact absurd hnone hretiring

theorem Scheduled.handleAll (h : Scheduled l) (inputs : List Input) :
    Scheduled (l.handleAll inputs) := by
  induction inputs generalizing l with
  | nil => exact h
  | cons i inputs ih => exact ih (h.handle i)

/-- The end of the turn deletes what retires and forgets that this was scheduled. -/
theorem Scheduled.finish (h : Scheduled l) :
    Scheduled l.endTurn.runTasks ∧ l.endTurn.runTasks.viewer.draw.retiring = [] ∧
      l.endTurn.runTasks.retireScheduled = false := by
  obtain ⟨requests, slots, waiting, finished, heq⟩ := l.endTurn.runTasks_frame
  have hend : l.endTurn.viewer.InOrder ∧ l.endTurn.viewer.settings.draw.retireOn = .nextTurn ∧
      l.endTurn.viewer.draw.retiring = [] ∧ l.endTurn.retireScheduled = false := by
    unfold endTurn
    by_cases hscheduled : l.retireScheduled = true
    · rw [if_pos hscheduled]
      refine ⟨(Viewer.retireLayers_step h.inOrder).2, ?_,
        Viewer.retireLayers_retiring h.inOrder, rfl⟩
      rw [(Viewer.retireLayers_frame l.viewer).1]
      exact h.nextTurn
    · rw [if_neg hscheduled]
      refine ⟨h.inOrder, h.nextTurn, ?_, Bool.not_eq_true _ ▸ hscheduled⟩
      by_contra hretiring
      exact hscheduled (h.scheduled hretiring)
  obtain ⟨hinOrder, hnextTurn, hretiring, hflag⟩ := hend
  rw [heq]
  exact ⟨⟨hinOrder, hnextTurn, fun hne => absurd hretiring hne⟩, hretiring, hflag⟩

/-- **A loop between turns:** no layer retires, no deletion is scheduled, and the only drawing layer
on the map is that of the session that waits. -/
structure Settled (l : Loop) : Prop where
  retired : l.viewer.draw.retiring = []
  unscheduled : l.retireScheduled = false
  drawingLayers : ∀ m, l.viewer.map = some m →
    m.drawingLayers = l.viewer.draw.active.toList.map (·.layer)

theorem Scheduled.settled (h : Scheduled l) (hretired : l.viewer.draw.retiring = [])
    (hunscheduled : l.retireScheduled = false) : Settled l where
  retired := hretired
  unscheduled := hunscheduled
  drawingLayers := by
    intro m hmap
    have howned := (Viewer.inOrder_iff_of_some hmap).1 h.inOrder
    rw [hretired] at howned
    exact howned.drawingLayers_eq

/-- Whatever a turn has to deal with, it settles. -/
theorem Scheduled.turn (h : Scheduled l) (inputs : List Input) :
    Scheduled (l.turn inputs) ∧ Settled (l.turn inputs) := by
  obtain ⟨hscheduled, hretired, hunscheduled⟩ := (h.handleAll inputs).finish
  exact ⟨hscheduled, hscheduled.settled hretired hunscheduled⟩

theorem Scheduled.turns (h : Scheduled l) (hsettled : Settled l) (batches : List (List Input)) :
    Scheduled (l.turns batches) ∧ Settled (l.turns batches) := by
  induction batches generalizing l with
  | nil => exact ⟨h, hsettled⟩
  | cons inputs batches ih =>
      obtain ⟨hnext, hnextSettled⟩ := h.turn inputs
      exact ih hnext hnextSettled

/-- **Between turns nothing is left of sessions that are over.** A loop takes over a viewer none of
whose layers retires. If layers retire on the next turn, then the loop is settled after any number
of turns, whatever each of them has to deal with, and also after a dispatch of what is queued then.
-/
theorem turns_settled (settings : Settings) (supply : Identity.Supply)
    (drains : DrainOrders) (bus : Bus)
    (ops : List Operation) (batches : List (List Input)) (events : List ViewportEvent)
    (commands : List Command) (hnextTurn : settings.draw.retireOn = .nextTurn)
    (hretired : ((Viewer.fresh settings supply drains bus).run ops).draw.retiring = []) :
    Settled (turns { viewer := (Viewer.fresh settings supply drains bus).run ops } batches) ∧
      Settled (dispatch
        { turns { viewer := (Viewer.fresh settings supply drains bus).run ops } batches with
          events, commands }) := by
  have hstart : Scheduled { viewer := (Viewer.fresh settings supply drains bus).run ops } :=
    { inOrder := ((Viewer.Regular.fresh settings supply drains bus).run ops).inOrder
      nextTurn := by
        rw [Viewer.run_settings]
        exact hnextTurn
      scheduled := fun hne => absurd hretired hne }
  obtain ⟨hscheduled, hsettled⟩ := hstart.turns (hstart.settled hretired rfl) batches
  refine ⟨hsettled, ?_⟩
  rw [dispatch_eq_turn]
  have hqueued : Scheduled
      { turns { viewer := (Viewer.fresh settings supply drains bus).run ops } batches with
        events := [], commands := [] } :=
    { hscheduled with }
  exact (hqueued.turn _).2

/-- A point on a layer, drawn to the end. -/
def pointOn (layer : Nat) : ViewportEvent :=
  .annotationChanged ⟨layer⟩ { kind := .point, coordinates := [⟨4.0, 9.0⟩] }

/-- Two sessions are over in the second turn, whose map is gone and built anew before a third one
starts. -/
def busyTurns : List (List Input) :=
  [[.command .render, .command (.startDrawing .point none)],
    [.event (pointOn 2), .command (.startDrawing .point none), .event (pointOn 3),
      .command .shutdown, .command .render, .command (.startDrawing .point none)]]

theorem turns_settled_of_busyTurns :
    (({} : Settings).draw.retireOn = .nextTurn) ∧
      Viewer.rendered.draw.retiring = [] ∧
      Settled (turns { viewer := Viewer.rendered } busyTurns) ∧
      (turns { viewer := Viewer.rendered } busyTurns).viewer.map.map MapState.drawingLayers
        = some [⟨2⟩] := by
  have hnextTurn : ({} : Settings).draw.retireOn = .nextTurn := rfl
  have hretired : Viewer.rendered.draw.retiring = [] := by decide
  refine ⟨hnextTurn, hretired, ?_, by decide⟩
  exact (turns_settled {} { bits := fun _ => 0 } (fun _ => .arrival) {} Viewer.opening busyTurns
    [] [] hnextTurn hretired).1

end Loop

end ImageOverlay
