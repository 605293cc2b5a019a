import ImageOverlay.Overlay.Basic
import ImageOverlay.Proofs.Annotation.Export
import ImageOverlay.Proofs.Viewport.Calls

set_option autoImplicit false

/-!
# The style of what is shown

Before an annotation reaches the map, every feature of it is given the colours and the width that it
lacks. What a feature has after that is what it had before, and the rest of the style
(`FallbackStyle.lookup_complete`); so a style that comes second finds nothing left to give
(`FallbackStyle.apply_apply`). Nothing else about the features is changed, and there is one of them
for each element (`Overlays.render_styled`).
-/

namespace ImageOverlay

variable {style : FallbackStyle} {properties : List (String × Json)}

/-! ## Filling in -/

namespace FallbackStyle

/-- The names of what a style has to give. -/
def names : List String := ["lineColor", "lineWidth", "fillColor"]

/-- What a style has to give. -/
def members (s : FallbackStyle) : List (String × Json) :=
  [("lineColor", .str s.lineColor), ("lineWidth", realProperty s.lineWidth),
    ("fillColor", .str s.fillColor)]

theorem keys_members (s : FallbackStyle) : s.members.map (·.1) = names := rfl

theorem lookup_fill (key : String) (v : Json) (properties : List (String × Json)) (key' : String) :
    (fill key v properties).lookup key'
      = (properties.lookup key').or (if key' = key then some v else none) := by
  unfold fill
  split_ifs with hpresent hkey hkey
  · rw [hkey, Option.or_of_isSome hpresent]
  · rw [Option.or_none]
  · rw [Json.lookup_insertMember, if_pos hkey, hkey]
    rw [Option.not_isSome_iff_eq_none] at hpresent
    rw [hpresent, Option.none_or]
  · rw [Json.lookup_insertMember, if_neg hkey, Option.or_none]

theorem fill_of_isSome {key : String} {v : Json} (h : (properties.lookup key).isSome) :
    fill key v properties = properties :=
  if_pos h

/-- **What a feature has, and the rest of the style.** -/
theorem lookup_complete (s : FallbackStyle) (properties : List (String × Json)) (key : String) :
    (s.complete properties).lookup key
      = (properties.lookup key).or (s.members.lookup key) := by
  simp only [complete, lookup_fill, members, Table.lookup_cons, List.lookup_nil, Option.or_assoc]
  congr 1
  -- The names differ, so the order in which they are filled in is that of the list.
  by_cases hcolor : key = "lineColor"
  · simp [hcolor]
  · by_cases hwidth : key = "lineWidth"
    · simp [hwidth]
    · simp [hcolor, hwidth]

theorem complete_of_isSome (s : FallbackStyle)
    (h : ∀ key ∈ names, (properties.lookup key).isSome) : s.complete properties = properties := by
  have hfill : ∀ {key}, key ∈ names → ∀ v, fill key v properties = properties :=
    fun hkey _ => fill_of_isSome (h _ hkey)
  rw [complete, hfill (by decide), hfill (by decide), hfill (by decide)]

/-- A style that comes second has nothing to give. -/
theorem complete_complete (s s' : FallbackStyle) (properties : List (String × Json)) :
    s'.complete (s.complete properties) = s.complete properties := by
  refine s'.complete_of_isSome fun key hkey => ?_
  rw [← s.keys_members] at hkey
  obtain ⟨v, hv⟩ := Table.mem_keys_iff.1 hkey
  rw [lookup_complete, hv]
  cases properties.lookup key <;> rfl

theorem apply_apply (s s' : FallbackStyle) (c : FeatureCollection) :
    s'.apply (s.apply c) = s.apply c := by
  simp only [apply, List.map_map, Function.comp_def, complete_complete]

theorem ordered_complete (s : FallbackStyle) (h : Json.Ordered properties) :
    Json.Ordered (s.complete properties) := by
  have hfill : ∀ {key v properties}, Json.Ordered properties →
      Json.Ordered (fill key v properties) := by
    intro key v properties h
    unfold fill
    split
    · exact h
    · exact h.insertMember key v
  exact hfill (hfill (hfill h))

end FallbackStyle

/-! ## Features of elements -/

/-- The properties of an element, one by one. -/
theorem Element.lookup_properties (e : Element) (key : String) :
    e.properties.lookup key
      = if key = "element" then some (.str e.shape.typeName)
        else (if key = "fillColor" then e.style.fillColor.map Color.toJson else none).or <|
          (if key = "id" then e.id.map .str else none).or <|
          (if key = "label" then e.style.label.map fun l => .str l.value else none).or <|
          (if key = "lineColor" then e.style.lineColor.map Color.toJson else none).or <|
          if key = "lineWidth" then e.style.lineWidth.map realProperty else none := by
  simp only [properties, Table.lookup_cons, List.lookup_append, Json.lookup_member?,
    Option.or_assoc]

/-- **A feature in the style of its element,** and in the fallback style where the element has
none. -/
structure Styled (style : FallbackStyle) (e : Element) (f : Feature) : Prop where
  geometry : f.geometry = e.shape.geometry
  lineColor : f.properties.lookup "lineColor"
    = some ((e.style.lineColor.map Color.toJson).getD (.str style.lineColor))
  lineWidth : f.properties.lookup "lineWidth"
    = some (realProperty (e.style.lineWidth.getD style.lineWidth))
  fillColor : f.properties.lookup "fillColor"
    = some ((e.style.fillColor.map Color.toJson).getD (.str style.fillColor))
  shape : f.properties.lookup "element" = some (.str e.shape.typeName)
  id : f.properties.lookup "id" = e.id.map .str
  label : f.properties.lookup "label" = e.style.label.map fun l => .str l.value
  others : ∀ key ∉ FallbackStyle.names,
    f.properties.lookup key = e.feature.properties.lookup key
  known : ∀ key ∈ f.properties.map (·.1), key ∈ propertyNames
  ordered : Json.Ordered f.properties

theorem styled_complete (style : FallbackStyle) (e : Element) :
    Styled style e { e.feature with properties := style.complete e.properties } where
  geometry := rfl
  lineColor := by
    rw [FallbackStyle.lookup_complete, e.lookup_properties]
    cases e.style.lineColor <;> rfl
  lineWidth := by
    rw [FallbackStyle.lookup_complete, e.lookup_properties]
    cases e.style.lineWidth <;> rfl
  fillColor := by
    rw [FallbackStyle.lookup_complete, e.lookup_properties]
    cases e.style.fillColor <;> rfl
  shape := by
    rw [FallbackStyle.lookup_complete, e.lookup_properties]
    rfl
  id := by
    rw [FallbackStyle.lookup_complete, e.lookup_properties]
    cases e.id <;> rfl
  label := by
    rw [FallbackStyle.lookup_complete, e.lookup_properties]
    cases e.style.label <;> rfl
  others := by
    intro key hkey
    have hnone : style.members.lookup key = none := Table.lookup_eq_none.2 hkey
    rw [FallbackStyle.lookup_complete, hnone, Option.or_none]
    rfl
  known := by
    intro key hkey
    obtain ⟨v, hv⟩ := Table.mem_keys_iff.1 hkey
    rw [FallbackStyle.lookup_complete, Option.or_eq_some_iff] at hv
    rcases hv with hv | ⟨-, hv⟩
    · exact e.keys_properties.subset (Table.mem_keys_iff.2 ⟨v, hv⟩)
    · have hmem : key ∈ style.members.map (·.1) := Table.mem_keys_iff.2 ⟨v, hv⟩
      exact (show FallbackStyle.names ⊆ propertyNames by decide) hmem
  ordered := style.ordered_complete e.ordered_properties

/-! ## What the map is given -/

section Submitted

variable (p : Viewport)

/-- Geometry counts as handed over whatever becomes of it. -/
theorem Viewport.submitted_readGeometry (layer : LayerHandle) (c : FeatureCollection) :
    (p.readGeometry layer c).2.library.submitted = p.library.submitted ++ [c] := by
  cases harmed : p.library.armed? .readGeometry with
  | some e =>
      rw [readGeometry_of_armed harmed]
      rfl
  | none =>
      have hlookup : p.library.faults.lookup .readGeometry = none := harmed
      simp only [readGeometry, attempt, MapLibrary.fault?, hlookup, Option.map_none]
      split
      · rfl
      · split <;> rfl

theorem Overlays.submitted_install (o : Overlays) (id : String) (layer : LayerHandle) :
    (o.install id layer p).2.library.submitted = p.library.submitted := by
  unfold install
  split
  · split <;> rfl
  · rfl

theorem Overlays.submitted_render (style : FallbackStyle) (d : Document) (o : Overlays) :
    (o.render style d p).2.2.library.submitted
      = if p.creationRefusal?.isSome then p.library.submitted
        else p.library.submitted ++ [style.apply d.features] := by
  cases hrefusal : p.creationRefusal? with
  | some e =>
      rw [render, p.createLayer_of_refused hrefusal]
      rfl
  | none =>
      rw [render, p.createLayer_of_granted hrefusal]
      simp only
      -- Between the new layer and its geometry, nothing is handed over.
      have hinstalled := submitted_install (p.commit (p.map.addLayer .feature)
        (.createLayer p.map.freshLayer .feature)) o d.id p.map.freshLayer
      generalize o.install d.id p.map.freshLayer _ = installed at hinstalled ⊢
      have hread := installed.2.submitted_readGeometry p.map.freshLayer (style.apply d.features)
      rw [hinstalled] at hread
      generalize installed.2.readGeometry p.map.freshLayer _ = answer at hread ⊢
      obtain ⟨_ | _, q⟩ := answer <;> exact hread

end Submitted

/-- **Every feature has the style of its element, and the rest of the fallback style.** What an
annotation gives to the map, whenever there is a layer for it, is one feature for each element, in
their order; nothing but missing colours and widths is put to what the elements say, and no other
style could put anything after that. -/
theorem Overlays.render_styled (style : FallbackStyle) (d : Document) (o : Overlays)
    (p : Viewport) :
    (o.render style d p).2.2.library.submitted
        = (if p.creationRefusal?.isSome then p.library.submitted
            else p.library.submitted ++ [style.apply d.features]) ∧
      List.Forall₂ (Styled style) d.elements (style.apply d.features).features ∧
      ∀ (style' : FallbackStyle) (c : FeatureCollection),
        style'.apply (style.apply c) = style.apply c := by
  refine ⟨o.submitted_render p style d, ?_, fun style' c => style.apply_apply style' c⟩
  rw [FallbackStyle.apply, Document.features, FeatureCollection.ofElements, List.map_map,
    List.forall₂_map_right_iff, List.forall₂_same]
  exact fun e _ => styled_complete style e

end ImageOverlay
