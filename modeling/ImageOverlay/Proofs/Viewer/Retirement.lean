import ImageOverlay.Proofs.Viewer.Answers

set_option autoImplicit false

/-!
# The layers that retire

A layer begins to retire when a drawing completes its session, and it does so behind the layers
that retire already. From then on it is there until all layers that retire are deleted at once, each
of them together with its subscription, and in the order in which their sessions ended.

`Viewer.Retirement` is everything an operation can do to these layers, in three cases.
-/

namespace ImageOverlay

/-- The calls that delete the layer of a session that is over. -/
def RetiringLayer.calls (r : RetiringLayer) : List Call :=
  [.unsubscribe r.subscription, .deleteLayer r.layer]

namespace DrawMode

variable {d : DrawMode} {p : Viewport} {layer : LayerHandle} {drawn : Drawn} {s : DrawSession}

/-- The calls of the layers that retire, one layer after the other. -/
theorem discardAll_log (retiring : List RetiringLayer) (p : Viewport) :
    (retiring.foldl (fun v r => discard r.layer r.subscription v) p).library.log
      = p.library.log ++ retiring.flatMap RetiringLayer.calls := by
  induction retiring generalizing p with
  | nil => simp
  | cons r rest ih =>
      have hfirst : (discard r.layer r.subscription p).library.log = p.library.log ++ r.calls := by
        show p.library.log ++ [.unsubscribe r.subscription] ++ [.deleteLayer r.layer] = _
        rw [List.append_assoc]
        rfl
      rw [List.foldl_cons, ih, hfirst, List.append_assoc, List.flatMap_cons]

theorem start_retiring (shape : ShapeKind) (options : DrawOptions) (d : DrawMode) (p : Viewport) :
    (d.start shape options p).2.1.retiring = d.retiring := by
  have hevict : (d.evict p).1.retiring = d.retiring := by
    unfold evict
    split
    · rfl
    · split <;> rfl
  unfold start
  generalize d.evict p = evicted at hevict ⊢
  obtain ⟨d', q⟩ := evicted
  simp only at hevict ⊢
  split
  · exact hevict
  · split <;> exact hevict

theorem cancel_retiring (d : DrawMode) (p : Viewport) :
    (d.cancel p).2.1.retiring = d.retiring := by
  unfold cancel
  split <;> rfl

/-- What a drawing completes is over, and its layer is the last to go. -/
theorem annotationChanged_retiring (h : d.completed? layer drawn = some s) (bus : Bus)
    (supply : Identity.Supply) :
    (d.annotationChanged layer drawn bus supply).1 = true ∧
      (d.annotationChanged layer drawn bus supply).2.1.retiring = d.retiring ++ [s.holding] := by
  unfold annotationChanged
  simp only [h]
  cases convert drawn <;> exact ⟨rfl, rfl⟩

end DrawMode

namespace Viewer

variable {v v' : Viewer} {op : Operation}

/-- What one operation does to the layers that retire. -/
inductive Retirement (op : Operation) (v v' : Viewer) : Prop where
  | kept (hretiring : v'.draw.retiring = v.draw.retiring)
  | added (layer : LayerHandle) (drawn : Drawn) (s : DrawSession)
      (hop : op = .handle (.annotationChanged layer drawn))
      (hcompleted : v.draw.completed? layer drawn = some s)
      (hretiring : v'.draw.retiring = v.draw.retiring ++ [s.holding])
  | emptied (before after : List Call) (hretiring : v'.draw.retiring = [])
      (hlog : v'.library.log
        = v.library.log ++ before ++ v.draw.retiring.flatMap RetiringLayer.calls ++ after)

/-! ## The record -/

/-- What is on record stays there, whatever happens to the viewer. -/
theorem perform_log_grows (h : v.InOrder) (op : Operation) :
    v.library.log <+: (v.perform op).library.log := by
  cases (perform_step h op).1 with
  | idle hmap hmap' hlog => exact ⟨[], by rw [hlog, List.append_nil]⟩
  | failed hmap hmap' p library width height maxLevel hlog hcourse hlibrary =>
      rw [hlibrary]
      have hopen : v.library.log <+: library.log := by
        rw [hlog]
        exact List.prefix_append _ _
      exact (hopen.trans hcourse.log_grows).trans (List.prefix_append _ _)
  | built hmap p hmap' library width height maxLevel hlog hcourse hlibrary =>
      rw [hlibrary]
      have hopen : v.library.log <+: library.log := by
        rw [hlog]
        exact List.prefix_append _ _
      exact hopen.trans hcourse.log_grows
  | used m hmap p hmap' hcourse hlibrary =>
      rw [hlibrary]
      exact hcourse.log_grows
  | tornDown m hmap hmap' p hcourse hlibrary =>
      rw [hlibrary]
      exact hcourse.log_grows.trans (List.prefix_append _ _)

/-! ## The operations, one by one -/

private theorem kept_of_draw_eq (h : v'.draw = v.draw) : Retirement op v v' :=
  .kept (congrArg DrawMode.retiring h)

theorem retireLayers_retirement (v : Viewer) : Retirement op v v.retireLayers.2 := by
  unfold retireLayers
  cases hmap : v.map with
  | none => exact .kept rfl
  | some m =>
      refine .emptied [] [] rfl ?_
      simp only [List.append_nil]
      exact DrawMode.discardAll_log v.draw.retiring { library := v.library, map := m }

theorem startDrawing_retiring (shape : ShapeKind) (options : Option DrawOptions) (v : Viewer) :
    (v.startDrawing shape options).2.draw.retiring = v.draw.retiring := by
  unfold startDrawing
  cases v.map with
  | none => rfl
  | some m => exact DrawMode.start_retiring _ _ _ _

/-- Between the cancellation and the deletion of the annotations all layers that retire go. -/
theorem destroy_retirement (h : v.InOrder) : Retirement op v v.destroy := by
  obtain hmap | ⟨m, hmap⟩ := Option.eq_none_or_eq_some v.map
  · have heq : v.destroy = v := by
      simp only [destroy, hmap]
    rw [heq]
    exact .kept rfl
  · -- From the first call to the last: the session, the layers that retire, the annotations.
    generalize hp : ({ library := v.library, map := m } : Viewport) = p
    have howned : p.map.OwnedBy v.overlays v.draw.active v.draw.retiring := by
      rw [← hp]
      exact (inOrder_iff_of_some hmap).1 h
    have hcancel := DrawMode.cancel_owned howned
    have hretire := DrawMode.retire_owned hcancel.2
    have hclear := Overlays.clear_owned hretire.2
    obtain ⟨before, hbefore⟩ := hcancel.1.log_grows
    obtain ⟨after, hafter⟩ := hclear.1.log_grows
    have hmiddle : ((v.draw.cancel p).2.1.retire (v.draw.cancel p).2.2).2.2.library.log
        = v.library.log ++ before ++ v.draw.retiring.flatMap RetiringLayer.calls := by
      have hlog : p.library.log = v.library.log := by rw [← hp]
      rw [← hlog, hbefore, ← DrawMode.cancel_retiring v.draw p]
      exact DrawMode.discardAll_log _ _
    refine .emptied before (after ++ [.teardown]) ?_ ?_
    · simp only [destroy, hmap]
      rfl
    · have hdestroy : v.destroy.library.log
          = (v.overlays.clear
              ((v.draw.cancel p).2.1.retire (v.draw.cancel p).2.2).2.2).2.2.library.log
            ++ [.teardown] := by
        simp only [destroy, hmap, hp]
        rfl
      rw [hdestroy, ← hafter, hmiddle]
      simp only [List.append_assoc]

/-- **Every operation changes the layers that retire in one of three ways.** -/
theorem perform_retirement (h : v.InOrder) (op : Operation) : Retirement op v (v.perform op) := by
  cases op with
  | attach | setImage | poll | dropRequest | arm => exact .kept rfl
  | render => exact kept_of_draw_eq (render_draw v)
  | addOverlay d => exact kept_of_draw_eq (addOverlay_draw d v)
  | removeOverlay id => exact kept_of_draw_eq (removeOverlay_draw id v)
  | clearOverlays => exact kept_of_draw_eq (clearAnnotations_draw v)
  | startDrawing shape options => exact .kept (startDrawing_retiring shape options v)
  | drawRegion slot =>
      obtain ⟨slots, heq⟩ := drawRegion_eq slot v
      show Retirement _ v (v.drawRegion slot).2
      rw [heq]
      exact .kept (startDrawing_retiring _ _ v)
  | pollRegion r =>
      obtain ⟨slots, heq⟩ := pollRegion_eq v r
      show Retirement _ v (v.pollRegion r).2
      rw [heq]
      exact .kept rfl
  | handle e =>
      cases e with
      | annotationChanged layer drawn =>
          cases hcompleted : v.draw.completed? layer drawn with
          | none =>
              refine .kept ?_
              show (v.draw.annotationChanged layer drawn v.bus v.supply).2.1.retiring = _
              unfold DrawMode.annotationChanged
              simp only [hcompleted]
          | some s =>
              exact .added layer drawn s rfl hcompleted
                (DrawMode.annotationChanged_retiring hcompleted v.bus v.supply).2
      | drawPassComplete =>
          show Retirement _ v (v.handle .drawPassComplete).2
          unfold handle
          by_cases hretire : v.settings.draw.retireOn = .drawPass
          · simp only [if_pos hretire]
            exact retireLayers_retirement v
          · simp only [if_neg hretire]
            exact .kept rfl
  | cancelDrawing =>
      show Retirement _ v v.cancelDrawing.2
      unfold cancelDrawing
      cases v.map with
      | none => exact .kept rfl
      | some m => exact .kept (DrawMode.cancel_retiring _ _)
  | retireLayers => exact retireLayers_retirement v
  | destroy => exact destroy_retirement h
  | drop =>
      show Retirement _ v v.drop
      rw [drop_eq_destroy h]
      exact destroy_retirement h

/-- After the layers that retire were deleted there are none. -/
theorem retireLayers_retiring (h : v.InOrder) : v.retireLayers.2.draw.retiring = [] := by
  obtain hmap | ⟨m, hmap⟩ := Option.eq_none_or_eq_some v.map
  · have heq : v.retireLayers.2 = v := by
      simp only [retireLayers, hmap]
    rw [heq]
    exact ((inOrder_iff_of_none hmap).1 h).2.1
  · simp only [retireLayers, hmap]
    rfl

/-! ## Until it is deleted -/

/-- What is known of a layer that began to retire when the record was `log`: it retires still, or
its subscription and the layer itself have been deleted since. -/
def Retires (r : RetiringLayer) (log : List Call) (v : Viewer) : Prop :=
  ∃ calls, v.library.log = log ++ calls ∧ (r ∈ v.draw.retiring ∨ r.calls <:+: calls)

variable {r : RetiringLayer} {log : List Call}

theorem Retires.perform (hr : Retires r log v) (h : v.InOrder) (op : Operation) :
    Retires r log (v.perform op) := by
  obtain ⟨calls, hlog, hretires⟩ := hr
  obtain ⟨new, hnew⟩ := perform_log_grows h op
  rw [hlog] at hnew
  have hgrown : (v.perform op).library.log = log ++ (calls ++ new) := by
    rw [← hnew, List.append_assoc]
  rcases hretires with hmem | hgone
  · cases perform_retirement h op with
    | kept hretiring => exact ⟨_, hgrown, Or.inl (hretiring ▸ hmem)⟩
    | added layer drawn s hop hcompleted hretiring =>
        refine ⟨_, hgrown, Or.inl ?_⟩
        rw [hretiring]
        exact List.mem_append_left _ hmem
    | emptied before after hretiring hcalls =>
        -- The layer is one of those deleted, so its calls are among the new ones.
        obtain ⟨earlier, later, hsplit⟩ := List.append_of_mem hmem
        refine ⟨calls ++ before ++ v.draw.retiring.flatMap RetiringLayer.calls ++ after, ?_,
          Or.inr ?_⟩
        · rw [hcalls, hlog]
          simp only [List.append_assoc]
        · refine ⟨calls ++ before ++ earlier.flatMap RetiringLayer.calls,
            later.flatMap RetiringLayer.calls ++ after, ?_⟩
          rw [hsplit]
          simp only [List.flatMap_append, List.flatMap_cons, List.append_assoc]
  · exact ⟨_, hgrown, Or.inr (hgone.trans (List.prefix_append _ _).isInfix)⟩

theorem Retires.run (hr : Retires r log v) (h : v.InOrder) (ops : List Operation) :
    Retires r log (v.run ops) := by
  induction ops generalizing v with
  | nil => exact hr
  | cons op ops ih => exact ih (hr.perform h op) (perform_step h op).2

/-- A layer that retired and does no more has been deleted. -/
theorem Retires.deleted (h : Retires r log v) (hnone : v.draw.retiring = []) :
    ∃ calls, v.library.log = log ++ calls ∧ r.calls <:+: calls := by
  obtain ⟨calls, hlog, hretires | hgone⟩ := h
  · rw [hnone] at hretires
    cases hretires
  · exact ⟨calls, hlog, hgone⟩

end Viewer

end ImageOverlay
