import ImageOverlay.Proofs.Viewer.Layers
import ImageOverlay.Proofs.Viewport.Record

set_option autoImplicit false

/-!
# The record of calls of a viewer

Over a run a viewer builds and tears down any number of maps, all of them on one record. The record
is *well formed* (`WellFormed`) if it is the lives of these maps one after the other: each life
starts with the building of its map and ends with its end, and in between are sensible calls to
that map and to no other. Only the last map may still be there.

The numbers of layers start anew with every map, so that what a number means depends on the life
it stands in. This is why `Sensible` is said of the calls of one life and not of the whole record.
-/

namespace ImageOverlay

/-- The life of a map: how it was built, and the calls to it. -/
structure MapLife where
  width : Float
  height : Float
  maxLevel : UInt32
  calls : List Call

namespace MapLife

/-- The record of a map that is still there. -/
def opening (life : MapLife) : List Call :=
  .createMap life.width life.height life.maxLevel :: life.calls

/-- The record of a map that was torn down. -/
def whole (life : MapLife) : List Call := life.opening ++ [.teardown]

end MapLife

/-- **A well formed record:** lives of maps, one after the other, in which every call makes sense.
The last map is still there if the record `goesOn`, and none is otherwise. -/
def WellFormed (log : List Call) (goesOn : Bool) : Prop :=
  ∃ (past : List MapLife) (now : Option MapLife),
    log = past.flatMap MapLife.whole ++ now.toList.flatMap MapLife.opening ∧
    (∀ life ∈ past ++ now.toList, Sensible life.calls) ∧
    now.isSome = goesOn

namespace Viewer

variable {v v' : Viewer}

/-- The lives of the maps that are gone make sense, and so do the calls to the map that is there;
what they have left is what that map has. -/
def Recorded (v : Viewer) : Prop :=
  ∃ past : List MapLife, (∀ life ∈ past, Sensible life.calls) ∧
    match v.map with
    | none => v.library.log = past.flatMap MapLife.whole
    | some m => ∃ width height maxLevel,
        Viewport.Recorded (past.flatMap MapLife.whole ++ [.createMap width height maxLevel])
          { library := v.library, map := m }

theorem recorded_iff_of_none (hmap : v.map = none) :
    v.Recorded ↔ ∃ past : List MapLife, (∀ life ∈ past, Sensible life.calls) ∧
      v.library.log = past.flatMap MapLife.whole := by
  simp only [Recorded, hmap]

theorem recorded_iff_of_some {m : MapState} (hmap : v.map = some m) :
    v.Recorded ↔ ∃ past : List MapLife, (∀ life ∈ past, Sensible life.calls) ∧
      ∃ width height maxLevel,
        Viewport.Recorded (past.flatMap MapLife.whole ++ [.createMap width height maxLevel])
          { library := v.library, map := m } := by
  simp only [Recorded, hmap]

/-- A map that is torn down leaves one life more. -/
private theorem teardown_recorded {past : List MapLife} (hpast : ∀ life ∈ past, Sensible life.calls)
    {width height : Float} {maxLevel : UInt32} {p : Viewport}
    (hp : Viewport.Recorded (past.flatMap MapLife.whole ++ [.createMap width height maxLevel]) p) :
    ∃ past : List MapLife, (∀ life ∈ past, Sensible life.calls) ∧
      p.teardown.library.log = past.flatMap MapLife.whole := by
  obtain ⟨calls, hlog, hs, -⟩ := hp
  refine ⟨past ++ [⟨width, height, maxLevel, calls⟩], ?_, ?_⟩
  · intro life hlife
    rcases List.mem_append.1 hlife with hlife | hlife
    · exact hpast life hlife
    · rw [List.mem_singleton.1 hlife]
      exact hs
  · show p.library.log ++ [.teardown] = _
    rw [hlog, List.flatMap_append, List.flatMap_singleton, List.append_assoc, List.append_assoc]
    rfl

/-- One operation adds to the record what keeps it well formed. -/
theorem Step.recorded (h : Step v v') (hv : v.Recorded) : v'.Recorded := by
  cases h with
  | idle hmap hmap' hlog =>
      rw [recorded_iff_of_none hmap', hlog]
      exact (recorded_iff_of_none hmap).1 hv
  | failed hmap hmap' p library width height maxLevel hlog hcourse hlibrary =>
      obtain ⟨past, hpast, hbefore⟩ := (recorded_iff_of_none hmap).1 hv
      rw [recorded_iff_of_none hmap', hlibrary]
      rw [hbefore] at hlog
      exact teardown_recorded hpast (hcourse.recorded (Viewport.recorded_of_new hlog))
  | built hmap p hmap' library width height maxLevel hlog hcourse hlibrary =>
      obtain ⟨past, hpast, hbefore⟩ := (recorded_iff_of_none hmap).1 hv
      rw [hbefore] at hlog
      have hp := hcourse.recorded (Viewport.recorded_of_new hlog)
      rw [recorded_iff_of_some hmap', hlibrary]
      exact ⟨past, hpast, width, height, maxLevel, hp⟩
  | used m hmap p hmap' hcourse hlibrary =>
      obtain ⟨past, hpast, width, height, maxLevel, hm⟩ := (recorded_iff_of_some hmap).1 hv
      rw [recorded_iff_of_some hmap', hlibrary]
      exact ⟨past, hpast, width, height, maxLevel, hcourse.recorded hm⟩
  | tornDown m hmap hmap' p hcourse hlibrary =>
      obtain ⟨past, hpast, width, height, maxLevel, hm⟩ := (recorded_iff_of_some hmap).1 hv
      rw [recorded_iff_of_none hmap', hlibrary]
      exact teardown_recorded hpast (hcourse.recorded hm)

theorem Recorded.wellFormed (h : v.Recorded) : WellFormed v.library.log v.isRendered := by
  obtain hmap | ⟨m, hmap⟩ := Option.eq_none_or_eq_some v.map
  · obtain ⟨past, hpast, hlog⟩ := (recorded_iff_of_none hmap).1 h
    refine ⟨past, none, ?_, ?_, ?_⟩
    · rw [hlog]
      exact (List.append_nil _).symm
    · rwa [Option.toList_none, List.append_nil]
    · rw [isRendered, hmap]
      rfl
  · obtain ⟨past, hpast, width, height, maxLevel, calls, hlog, hs, -⟩ :=
      (recorded_iff_of_some hmap).1 h
    refine ⟨past, some ⟨width, height, maxLevel, calls⟩, ?_, ?_, ?_⟩
    · refine hlog.trans ?_
      rw [List.append_assoc, Option.toList_some, List.flatMap_singleton]
      rfl
    · intro life hlife
      rcases List.mem_append.1 hlife with hlife | hlife
      · exact hpast life hlife
      · rw [List.mem_singleton.1 hlife]
        exact hs
    · rw [isRendered, hmap]
      rfl

/-- What an operation adds to the record is only known of a viewer in order, so the two invariants go
together. -/
theorem recorded_run (settings : Settings) (supply : Identity.Supply)
    (drains : DrainOrders) (bus : Bus) (ops : List Operation) :
    ((fresh settings supply drains bus).run ops).InOrder ∧
      ((fresh settings supply drains bus).run ops).Recorded := by
  refine run_invariant (P := fun v => v.InOrder ∧ v.Recorded) ?_ ⟨inOrder_fresh .., ?_⟩ ops
  · rintro v op ⟨hv, hrecorded⟩
    obtain ⟨hstep, hv'⟩ := perform_step hv op
    exact ⟨hv', hstep.recorded hrecorded⟩
  · exact (recorded_iff_of_none rfl).2 ⟨[], by simp, rfl⟩

/-- **The record of calls is well formed after every run,** whatever call the map library refuses,
and no map is left once the viewer is given up. -/
theorem run_log_wellFormed (settings : Settings) (supply : Identity.Supply)
    (drains : DrainOrders) (bus : Bus) (ops : List Operation) :
    WellFormed ((fresh settings supply drains bus).run ops).library.log
        ((fresh settings supply drains bus).run ops).isRendered ∧
      WellFormed ((fresh settings supply drains bus).run ops).drop.library.log false := by
  refine ⟨(recorded_run settings supply drains bus ops).2.wellFormed, ?_⟩
  -- To give the viewer up is one operation more, after which it has no map.
  have hdropped := (recorded_run settings supply drains bus (ops ++ [.drop])).2.wellFormed
  rw [run_append, isRendered] at hdropped
  have hmap : (((fresh settings supply drains bus).run ops).run [.drop]).map = none := drop_map _
  rw [hmap] at hdropped
  exact hdropped

end Viewer

end ImageOverlay
