import ImageOverlay.Proofs.Viewport.Calls
import Mathlib.Logic.Relation

set_option autoImplicit false

/-!
# Orderly use of a map

A call is *orderly* if the layer it names is on the map, and a subscription ends in an orderly way
only together with the layer it is a subscription to. The map itself does not insist on that: it
takes the deletion of a layer that is long gone without a word.

`Viewport.Orderly` is one orderly call and `Viewport.Course` any number of them. The functions of
the draw mode and of the overlays are shown to be courses of orderly calls, given that they own
what they think they own; what is true of the record of calls, or of the numbers a map gives out,
then follows from the eight kinds of orderly calls alone.
-/

namespace ImageOverlay.Viewport

/-- One orderly call, or a change of the library that leaves no record. -/
inductive Orderly : Viewport → Viewport → Prop where
  | unrecorded (p : Viewport) (library : MapLibrary) (hlog : library.log = p.library.log) :
      Orderly p { p with library }
  | createLayer (p : Viewport) (kind : LayerKind) :
      Orderly p (p.commit (p.map.addLayer kind) (.createLayer p.map.freshLayer kind))
  | deleteLayer (p : Viewport) (layer : LayerHandle) (hlayer : layer ∈ p.map.handles) :
      Orderly p (p.deleteLayer layer)
  | discard (p : Viewport) (layer : LayerHandle) (s : SubscriptionId)
      (hs : (s, layer) ∈ p.map.subscriptions) (hlayer : layer ∈ p.map.handles) :
      Orderly p (DrawMode.discard layer s p)
  | setInteractionMode (p : Viewport) (layer : LayerHandle) (entry : Layer)
      (mode : Option ShapeKind) (hlayer : layer ∈ p.map.handles) :
      Orderly p (p.commit (p.map.put layer entry) (.setInteractionMode layer mode))
  | subscribe (p : Viewport) (layer : LayerHandle) (hlayer : layer ∈ p.map.handles) :
      Orderly p (p.commit (p.map.addSubscription layer) (.subscribe layer p.map.freshSubscription))
  | readGeometry (p : Viewport) (layer : LayerHandle) (entry : Layer) (count : Nat)
      (hlayer : layer ∈ p.map.handles) :
      Orderly p (p.commit (p.map.put layer entry) (.readGeometry layer count))
  | draw (p : Viewport) : Orderly p p.draw

/-- Any number of orderly calls, one after the other. -/
def Course : Viewport → Viewport → Prop := Relation.ReflTransGen Orderly

namespace Course

@[refl] theorem refl (p : Viewport) : Course p p := Relation.ReflTransGen.refl

theorem single {p q : Viewport} (h : Orderly p q) : Course p q := Relation.ReflTransGen.single h

theorem trans {p q r : Viewport} (hpq : Course p q) (hqr : Course q r) : Course p r :=
  Relation.ReflTransGen.trans hpq hqr

theorem step {p q r : Viewport} (hpq : Course p q) (hqr : Orderly q r) : Course p r :=
  Relation.ReflTransGen.tail hpq hqr

/-- **Invariants of courses.** What every orderly call preserves holds after every course. -/
theorem invariant {P : Viewport → Prop} (hstep : ∀ p q, Orderly p q → P p → P q)
    {p q : Viewport} (h : Course p q) (hp : P p) : P q := by
  induction h with
  | refl => exact hp
  | tail _ hlast ih => exact hstep _ _ hlast ih

end Course

/-- A map never gives a number out twice: the next one only grows. -/
theorem Course.nextLayer_le {p q : Viewport} (h : Course p q) :
    p.map.nextLayer ≤ q.map.nextLayer := by
  refine Course.invariant (P := fun r => p.map.nextLayer ≤ r.map.nextLayer) ?_ h (Nat.le_refl _)
  intro q r hqr hle
  cases hqr with
  | createLayer => exact Nat.le_succ_of_le hle
  | unrecorded | deleteLayer | discard | setInteractionMode | subscribe | readGeometry | draw =>
      exact hle

/-- What is on record stays there. -/
theorem Course.log_grows {p q : Viewport} (h : Course p q) :
    p.library.log <+: q.library.log := by
  refine Course.invariant (P := fun r => p.library.log <+: r.library.log) ?_ h
    (List.prefix_refl _)
  intro q r hqr hgrows
  cases hqr with
  | unrecorded library hlog =>
      show p.library.log <+: library.log
      rw [hlog]
      exact hgrows
  | discard =>
      -- Two calls in one: the end of the subscription and the deletion of its layer.
      exact (hgrows.trans (List.prefix_append _ _)).trans (List.prefix_append _ _)
  | createLayer | deleteLayer | setInteractionMode | subscribe | readGeometry | draw =>
      exact hgrows.trans (List.prefix_append _ _)

end ImageOverlay.Viewport
