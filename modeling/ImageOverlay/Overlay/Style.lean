import ImageOverlay.Annotation.Feature

set_option autoImplicit false

/-!
# Fallback style

A feature is drawn in the colours and the width of its own element; where the element says
nothing, the fallback style counts. The fallback is filled in before the features reach the map,
so the map never has to know of it.
-/

namespace ImageOverlay

/-- The style of features whose elements have none. -/
structure FallbackStyle where
  lineColor : String := "#000000"
  lineWidth : Float := 2.0
  fillColor : String := "rgba(0, 0, 0, 0)"
deriving DecidableEq, Repr

namespace FallbackStyle

/-- A property that is only put where there is none of that name. -/
def fill (key : String) (v : Json) (properties : List (String × Json)) : List (String × Json) :=
  if (properties.lookup key).isSome then properties else Json.insertMember key v properties

/-- The properties with the style filled in. -/
def complete (s : FallbackStyle) (properties : List (String × Json)) : List (String × Json) :=
  fill "fillColor" (.str s.fillColor)
    (fill "lineWidth" (realProperty s.lineWidth)
      (fill "lineColor" (.str s.lineColor) properties))

/-- The features with the style filled in. -/
def apply (s : FallbackStyle) (c : FeatureCollection) : FeatureCollection :=
  ⟨c.features.map fun f => { f with properties := s.complete f.properties }⟩

end FallbackStyle

end ImageOverlay
