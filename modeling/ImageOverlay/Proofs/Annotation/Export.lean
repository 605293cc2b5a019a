import ImageOverlay.Annotation.Document
import ImageOverlay.Proofs.Annotation.Rereading
import ImageOverlay.Proofs.Convert.Vertices
import ImageOverlay.Proofs.Json.Members
import ImageOverlay.Proofs.Json.Scaled

set_option autoImplicit false

/-!
# Features of a document

A document is exported as one feature for each element. A ring is the vertices of the element, and
the first one again unless the last one equals it; what is closed already is not closed twice
(`closeRing_closes`). Positions are equal if they are numerically equal, so both zeros are one, and
a position that is no number does not even equal itself: everything here is about finite positions.

The text of the collection is read as the collection of the numbers that are read for its own
(`FeatureCollection.Plain.reread`), so it is read back if every number of it is
(`FeatureCollection.Plain.parsed_iff`). The properties of a feature are kept whole by the reader,
which sorts them by their names, and that is the order in which they are written
(`Element.ordered_properties`). So a width that has no text is no obstacle; but a point on a curve
may be read as its neighbour.
-/

namespace ImageOverlay

open Decode Json

/-! ## Rings -/

/-- Vertices the last of which equals the first, if there are any. -/
def EndsClosed (vertices : List Position) : Prop :=
  ∀ first ∈ vertices.head?, ∀ last ∈ vertices.getLast?, last.equal first = true

/-- **A ring of given vertices.** It is the vertices with at most one position after them, which is
the first of them again, and is not there if and only if the last of them equals it already. -/
structure Closes (vertices ring : List Position) : Prop where
  parts : ring = vertices ∨ ∃ first ∈ vertices.head?, ring = vertices ++ [first]
  same_iff : ring = vertices ↔ EndsClosed vertices
  closed : EndsClosed ring
  again : closeRing ring = ring

section Rings

variable {vertices : List Position}

theorem ends_comm (h : ∀ p ∈ vertices, p.Storable) {first last : Position}
    (hfirst : first ∈ vertices.head?) (hlast : last ∈ vertices.getLast?) :
    first.equal last = last.equal first :=
  Position.equal_comm (h first (List.mem_of_head? hfirst)) (h last (List.mem_of_getLast? hlast))

theorem closeRing_of_endsClosed (h : ∀ p ∈ vertices, p.Storable) (hclosed : EndsClosed vertices) :
    closeRing vertices = vertices := by
  unfold closeRing
  split
  · rename_i first last hfirst hlast
    rw [if_pos ((ends_comm h hfirst hlast).trans (hclosed first hfirst last hlast))]
  · rfl

theorem closeRing_of_not_endsClosed (h : ∀ p ∈ vertices, p.Storable)
    (hopen : ¬ EndsClosed vertices) :
    ∃ first ∈ vertices.head?, closeRing vertices = vertices ++ [first] := by
  simp only [EndsClosed, not_forall] at hopen
  obtain ⟨first, hfirst, last, hlast, hdiffer⟩ := hopen
  refine ⟨first, hfirst, ?_⟩
  rw [← ends_comm h hfirst hlast] at hdiffer
  rw [Option.mem_def] at hfirst hlast
  unfold closeRing
  rw [hfirst, hlast]
  simp only
  rw [if_neg hdiffer]

/-- Where the first position is put at the end, the ends are equal. -/
theorem endsClosed_append {first : Position} (hfirst : first ∈ vertices.head?)
    (h : first.Storable) : EndsClosed (vertices ++ [first]) := by
  intro p hp q hq
  rw [List.head?_append, Option.mem_def.1 hfirst] at hp
  rw [List.getLast?_concat] at hq
  cases hp
  cases hq
  exact Position.equal_self h

theorem closeRing_closes (h : ∀ p ∈ vertices, p.Storable) :
    Closes vertices (closeRing vertices) := by
  by_cases hclosed : EndsClosed vertices
  · have hsame := closeRing_of_endsClosed h hclosed
    rw [hsame]
    exact
      { parts := .inl rfl
        same_iff := iff_of_true rfl hclosed
        closed := hclosed
        again := hsame }
  · obtain ⟨first, hfirst, hring⟩ := closeRing_of_not_endsClosed h hclosed
    have hstorable := h first (List.mem_of_head? hfirst)
    have hclosed' := endsClosed_append hfirst hstorable
    -- The ring is finite as well, so closing it again leaves it alone.
    have hall : ∀ p ∈ vertices ++ [first], p.Storable :=
      List.forall_mem_append.2 ⟨h, List.forall_mem_singleton.2 hstorable⟩
    rw [hring]
    exact
      { parts := .inr ⟨first, hfirst, rfl⟩
        same_iff := iff_of_false (by simp) hclosed
        closed := hclosed'
        again := closeRing_of_endsClosed hall hclosed' }

theorem mem_closeRing {p : Position} (h : p ∈ vertices) : p ∈ closeRing vertices := by
  unfold closeRing
  split
  · split
    · exact h
    · exact List.mem_append_left _ h
  · exact h

end Rings

/-! ## Geometries -/

/-- All positions of a geometry. -/
def Geometry.positions : Geometry → List Position
  | .point p => [p]
  | .lineString ps => ps
  | .polygon rings => rings.flatten

/-- **What a shape is exported as.** -/
inductive Exported : Shape → Geometry → Prop
  | point (center : Coordinate) : Exported (.point center) (.point center.position)
  | line (points : List Coordinate) :
      Exported (.polyline points false) (.lineString (points.map Coordinate.position))
  | arrow (head tail : Coordinate) :
      Exported (.arrow head tail) (.lineString [head.position, tail.position])
  | polygon {points : List Coordinate} {ring : List Position}
      (h : Closes (points.map Coordinate.position) ring) :
      Exported (.polyline points true) (.polygon [ring])
  | rectangle {center : Coordinate} {width height rotation : Float} {ring : List Position}
      (hcount : (rectangleCorners center width height rotation).length = 4)
      (h : Closes (rectangleCorners center width height rotation) ring) :
      Exported (.rectangle center width height rotation) (.polygon [ring])
  | circle {center : Coordinate} {radius : Float} {ring : List Position}
      (hcount : (ellipsePoints center (radius * 2.0) (radius * 2.0) 0.0).length = 32)
      (h : Closes (ellipsePoints center (radius * 2.0) (radius * 2.0) 0.0) ring) :
      Exported (.circle center radius) (.polygon [ring])
  | ellipse {center : Coordinate} {width height rotation : Float} {ring : List Position}
      (hcount : (ellipsePoints center width height rotation).length = 32)
      (h : Closes (ellipsePoints center width height rotation) ring) :
      Exported (.ellipse center width height rotation) (.polygon [ring])

theorem length_ellipsePoints (center : Coordinate) (width height rotation : Float) :
    (ellipsePoints center width height rotation).length = 32 := by
  rw [ellipsePoints, List.length_map, List.length_range]
  rfl

theorem Shape.exported {s : Shape} (h : ∀ p ∈ s.geometry.positions, p.Storable) :
    Exported s s.geometry := by
  have hring : ∀ {vertices}, (∀ p ∈ (Geometry.polygon [closeRing vertices]).positions,
      p.Storable) → Closes vertices (closeRing vertices) := by
    intro vertices h
    refine closeRing_closes fun p hp => h p ?_
    rw [Geometry.positions, List.flatten_singleton]
    exact mem_closeRing hp
  cases s with
  | point center => exact .point center
  | polyline points closed =>
      cases closed with
      | false => exact .line points
      | true => exact .polygon (hring h)
  | rectangle center width height rotation => exact .rectangle rfl (hring h)
  | circle center radius => exact .circle (length_ellipsePoints ..) (hring h)
  | ellipse center width height rotation =>
      exact .ellipse (length_ellipsePoints ..) (hring h)
  | arrow head tail => exact .arrow head tail

/-! ## Numbers -/

/-- The numbers of a geometry. -/
def Geometry.numbers (g : Geometry) : List Float := g.positions.flatMap fun p => [p.x, p.y]

/-- The numbers of a feature. -/
def Feature.numbers (f : Feature) : List Float :=
  f.geometry.numbers ++ f.properties.filterMap (·.2.real?)

/-- The numbers of a collection. -/
def FeatureCollection.numbers (c : FeatureCollection) : List Float :=
  c.features.flatMap Feature.numbers

section Numbers

variable {reading : NumberReading}

theorem positions_parsed_iff {ps : List Position} :
    list Position.decoder ((positionsJson ps).parsed reading) = some ps
      ↔ ∀ p ∈ ps, reading.Restores p.x ∧ reading.Restores p.y := by
  simp only [positionsJson, list_parsed_iff, Position.parsed_iff]

/-- The reader of a geometry's coordinates is found by its name. -/
theorem Geometry.coordinates_parsed_iff (reading : NumberReading) (g : Geometry) :
    ∃ reader, choice readers (.text (some g.tag)) = some reader ∧
      (reader (g.coordinates.parsed reading) = some g
        ↔ ∀ p ∈ g.positions, reading.Restores p.x ∧ reading.Restores p.y) := by
  cases g with
  | point p =>
      refine ⟨_, rfl, ?_⟩
      simp [coordinates, positions, Option.map_eq_some_iff, Position.parsed_iff]
  | lineString ps =>
      refine ⟨_, rfl, ?_⟩
      simp [coordinates, positions, Option.map_eq_some_iff, positions_parsed_iff]
  | polygon rings =>
      refine ⟨_, rfl, ?_⟩
      simp only [coordinates, positions, Option.map_eq_some_iff, Geometry.polygon.injEq,
        exists_eq_right, list_parsed_iff, positions_parsed_iff, List.forall_mem_flatten]

theorem Geometry.parsed_iff {g : Geometry} : decoder (g.toJson.parsed reading) = some g
    ↔ ∀ x ∈ g.numbers, reading.Restores x := by
  obtain ⟨reader, hreader, hread⟩ := g.coordinates_parsed_iff reading
  have hnumbers : (∀ x ∈ g.numbers, reading.Restores x)
      ↔ ∀ p ∈ g.positions, reading.Restores p.x ∧ reading.Restores p.y := by
    rw [numbers, List.forall_mem_flatMap]
    simp
  unfold Geometry.toJson Geometry.decoder
  simp only [fields_parsed, List.mapM_cons, List.mapM_nil]
  rw [field?_of_select_one (k := "type") (v := .str g.tag) (by simp),
    field?_of_select_one (k := "coordinates") (v := g.coordinates) (by simp), hnumbers,
    ← hread]
  simp only [Option.bind_eq_bind, Option.bind_some, Option.pure_def, Decode.required, parsed,
    hreader]

/-! ## Properties -/

/-- The names of properties, in their order. -/
def propertyNames : List String :=
  ["element", "fillColor", "id", "label", "lineColor", "lineWidth"]

theorem Element.keys_properties (e : Element) :
    (e.properties.map (·.1)).Sublist propertyNames := by
  unfold Element.properties
  simp only [List.map_cons, List.map_append, List.append_assoc]
  exact ((Json.keys_member? _ _).append <| (Json.keys_member? _ _).append <|
    (Json.keys_member? _ _).append <| (Json.keys_member? _ _).append
      (Json.keys_member? _ _)).cons_cons _

theorem Element.ordered_properties (e : Element) : Json.Ordered e.properties :=
  List.Pairwise.sublist e.keys_properties (by decide)

theorem shallow_realProperty (x : Float) : Shallow 0 (realProperty x) := by
  unfold realProperty
  split
  · exact .real 0 x
  · exact .null 0

theorem Element.shallow_properties (e : Element) : AllShallow 0 e.properties := by
  simp [Element.properties, Shallow.str, Color.shallow, shallow_realProperty]

theorem Json.mem_member? {k : String} {v : Option Json} {m : String × Json} (hm : m ∈ member? k v) :
    ∃ w ∈ v, m = (k, w) := by
  cases v with
  | none => cases hm
  | some w => exact ⟨w, rfl, List.mem_singleton.1 hm⟩

theorem isFinite_of_realProperty {x y : Float} (h : x ∈ (realProperty y).real?) :
    x.isFinite = true := by
  unfold realProperty at h
  split at h
  · obtain rfl := Option.some.inj h
    assumption
  · cases h

/-- A width that is not finite is no number of the properties. -/
theorem Element.isFinite_properties (e : Element) :
    ∀ m ∈ e.properties, ∀ x ∈ m.2.real?, x.isFinite = true := by
  intro m hm x hx
  simp only [Element.properties, List.mem_cons, List.mem_append] at hm
  rcases hm with rfl | (((hm | hm) | hm) | hm) | hm
  · cases hx
  all_goals
    obtain ⟨w, hw, rfl⟩ := mem_member? hm
    obtain ⟨y, -, rfl⟩ := Option.mem_map.1 hw
  · cases hx
  · cases hx
  · cases hx
  · cases hx
  · exact isFinite_of_realProperty hx

theorem Feature.properties_parsed_iff {ms : List (String × Json)} (outer : ℕ) :
    propertiesDecoder outer ((Json.obj ms).parsed reading) = some ms
      ↔ Kept reading (Parsed.depthLimit - outer) (.obj ms) := by
  unfold propertiesDecoder Kept
  split <;> simp_all

/-- Properties that the reader keeps as they are, but for the numbers. -/
structure Feature.Plain (f : Feature) : Prop where
  ordered : Ordered f.properties
  flat : AllShallow 0 f.properties

theorem Element.plain_feature (e : Element) : e.feature.Plain :=
  ⟨e.ordered_properties, e.shallow_properties⟩

theorem Feature.Plain.properties_parsed_iff {f : Feature} (h : f.Plain) :
    propertiesDecoder 3 ((Json.obj f.properties).parsed reading) = some f.properties
      ↔ ∀ x ∈ f.properties.filterMap (·.2.real?), reading.Restores x := by
  rw [Feature.properties_parsed_iff, List.forall_mem_filterMap]
  exact h.ordered.kept_iff.trans (forall₂_congr fun m hm => (h.flat m hm).kept_iff)

/-! ## Features -/

theorem Feature.parsed_iff {f : Feature} : decoder (f.toJson.parsed reading) = some f
    ↔ Geometry.decoder (f.geometry.toJson.parsed reading) = some f.geometry ∧
      propertiesDecoder 3 ((Json.obj f.properties).parsed reading) = some f.properties := by
  obtain ⟨geometry, properties⟩ := f
  unfold toJson decoder
  simp only [fields_parsed, List.mapM_cons, List.mapM_nil]
  rw [field?_of_select_one (k := "geometry") (v := geometry.toJson) (by simp),
    field?_of_select_one (k := "properties") (v := .obj properties) (by simp)]
  simp only [Option.bind_eq_bind, Option.bind_some, Option.pure_def, required, orDefault]
  cases Geometry.decoder (geometry.toJson.parsed reading) <;>
    cases propertiesDecoder 3 ((Json.obj properties).parsed reading) <;> simp

theorem Feature.Plain.parsed_iff {f : Feature} (h : f.Plain) :
    decoder (f.toJson.parsed reading) = some f ↔ ∀ x ∈ f.numbers, reading.Restores x := by
  rw [Feature.parsed_iff, Feature.numbers, List.forall_mem_append, Geometry.parsed_iff]
  exact and_congr_right fun _ => h.properties_parsed_iff

theorem FeatureCollection.parsed_iff {c : FeatureCollection} :
    decoder (c.toJson.parsed reading) = some c
      ↔ ∀ f ∈ c.features, Feature.decoder (f.toJson.parsed reading) = some f := by
  obtain ⟨features⟩ := c
  unfold toJson decoder
  simp only [fields_parsed, List.mapM_cons, List.mapM_nil]
  rw [field?_of_select_one (k := "features") (v := .arr (features.map Feature.toJson)) (by simp),
    ← list_parsed_iff]
  simp only [Option.bind_eq_bind, Option.bind_some, Option.pure_def, required]
  cases list Feature.decoder ((Json.arr (features.map Feature.toJson)).parsed reading) <;> simp

/-- Its properties are kept whole. -/
def FeatureCollection.Plain (c : FeatureCollection) : Prop := ∀ f ∈ c.features, f.Plain

theorem Document.plain_features (d : Document) : d.features.Plain :=
  List.forall_mem_map.2 fun e _ => e.plain_feature

/-- **A collection is read back if and only if its numbers are.** -/
theorem FeatureCollection.Plain.parsed_iff {c : FeatureCollection} (h : c.Plain) :
    decoder (c.toJson.parsed reading) = some c ↔ ∀ x ∈ c.numbers, reading.Restores x := by
  rw [FeatureCollection.parsed_iff, numbers, List.forall_mem_flatMap]
  exact forall₂_congr fun f hf => (h f hf).parsed_iff

end Numbers

/-! ## Other numbers -/

section Other

variable {f : Float → Float}

theorem Json.real?_mapReals (v : Json) : (v.mapReals f).real? = v.real?.map f := by
  cases v <;> rfl

theorem Feature.properties_mapNumbers (feature : Feature) :
    (feature.mapNumbers f).properties = feature.properties.map fun m => (m.1, m.2.mapReals f) :=
  mapRealsMembers_eq feature.properties

theorem Geometry.positions_mapNumbers (g : Geometry) :
    (g.mapNumbers f).positions = g.positions.map (Position.mapNumbers f) := by
  cases g with
  | point p => rfl
  | lineString ps => rfl
  | polygon rings => exact List.map_flatten.symm

theorem Geometry.numbers_mapNumbers (g : Geometry) :
    (g.mapNumbers f).numbers = g.numbers.map f := by
  rw [numbers, numbers, positions_mapNumbers, List.flatMap_map, List.map_flatMap]
  rfl

theorem Feature.numbers_mapNumbers (feature : Feature) :
    (feature.mapNumbers f).numbers = feature.numbers.map f := by
  have hreals : (feature.mapNumbers f).properties.filterMap (·.2.real?)
      = (feature.properties.filterMap (·.2.real?)).map f := by
    rw [properties_mapNumbers, List.filterMap_map, List.map_filterMap]
    exact List.filterMap_congr fun m _ => real?_mapReals m.2
  rw [numbers, numbers, List.map_append, hreals]
  exact congrArg (· ++ _) feature.geometry.numbers_mapNumbers

theorem FeatureCollection.numbers_mapNumbers (c : FeatureCollection) :
    (c.mapNumbers f).numbers = c.numbers.map f := by
  rw [numbers, numbers, List.map_flatMap, mapNumbers, List.flatMap_map]
  exact congrArg (List.flatMap · c.features) (funext Feature.numbers_mapNumbers)

theorem Json.Shallow.mapReals {v : Json} (h : Shallow 0 v) : Shallow 0 (v.mapReals f) := by
  cases h with
  | null => exact .null 0
  | bool _ b => exact .bool 0 b
  | real _ x => exact .real 0 (f x)
  | str _ s => exact .str 0 s

theorem Feature.Plain.mapNumbers {feature : Feature} (h : feature.Plain) :
    (feature.mapNumbers f).Plain := by
  constructor
  · rw [Ordered, Feature.properties_mapNumbers, List.map_map]
    exact h.ordered
  · rw [AllShallow, Feature.properties_mapNumbers, List.forall_mem_map]
    exact fun m hm => (h.flat m hm).mapReals

theorem FeatureCollection.Plain.mapNumbers {c : FeatureCollection} (h : c.Plain) :
    (c.mapNumbers f).Plain :=
  List.forall_mem_map.2 fun feature hfeature => (h feature hfeature).mapNumbers

theorem Position.shallow (p : Position) (n : ℕ) : Shallow (n + 1) p.toJson :=
  .arr (by simp [Shallow.real])

theorem positionsJson_shallow (ps : List Position) (n : ℕ) : Shallow (n + 2) (positionsJson ps) :=
  .arr (List.forall_mem_map.2 fun p _ => p.shallow n)

theorem Geometry.shallow (g : Geometry) (n : ℕ) : Shallow (n + 4) g.toJson := by
  have hcoordinates : Shallow (n + 3) g.coordinates := by
    cases g with
    | point p => exact p.shallow (n + 2)
    | lineString ps => exact positionsJson_shallow ps (n + 1)
    | polygon rings => exact .arr (List.forall_mem_map.2 fun ps _ => positionsJson_shallow ps n)
  exact .obj (by simp [Shallow.str, hcoordinates])

theorem Json.Shallow.of_zero {v : Json} (h : Shallow 0 v) (n : ℕ) : Shallow n v := by
  cases h with
  | null => exact .null n
  | bool _ b => exact .bool n b
  | real _ x => exact .real n x
  | str _ s => exact .str n s

theorem Feature.Plain.shallow {feature : Feature} (h : feature.Plain) :
    Shallow 5 feature.toJson := by
  have hproperties : Shallow 4 (.obj feature.properties) :=
    .obj fun m hm => (h.flat m hm).of_zero 3
  exact .obj (by simp [Shallow.str, feature.geometry.shallow 0, hproperties])

theorem FeatureCollection.Plain.shallow {c : FeatureCollection} (h : c.Plain) :
    Shallow 7 c.toJson := by
  have hfeatures : Shallow 6 (.arr (c.features.map Feature.toJson)) :=
    .arr (List.forall_mem_map.2 fun feature hfeature => (h feature hfeature).shallow)
  exact .obj (by simp [Shallow.str, hfeatures])

/-- **A collection is read as the collection of the numbers that are read instead.** -/
theorem FeatureCollection.Plain.reread {c : FeatureCollection} (h : c.Plain)
    (hfinite : ∀ x ∈ c.numbers, x.isFinite = true) {reading : NumberReading}
    (hreading : reading.Accepts) :
    decoder.read c.toJson.render reading = some (c.mapNumbers reading.reread) := by
  have hnumbers : ∀ x ∈ (c.mapNumbers reading.reread).numbers,
      NumberReading.nearest.Restores x := by
    rw [numbers_mapNumbers, List.forall_mem_map]
    exact fun x hx => NumberReading.nearest_faithful _ (hreading.isFinite_reread (hfinite x hx))
  have hread := h.mapNumbers.parsed_iff.2 hnumbers
  rw [toJson_mapNumbers, h.shallow.parsed_mapReals hreading] at hread
  rw [Decoder.read, read_render, Option.bind_some]
  exact hread

end Other

/-- The numbers of an exported collection are finite if the positions are: a width that is not is
no number of it. -/
theorem Document.isFinite_numbers {d : Document}
    (hfinite : ∀ e ∈ d.elements, ∀ p ∈ e.feature.geometry.positions, p.Storable) :
    ∀ x ∈ d.features.numbers, x.isFinite = true := by
  simp only [features, FeatureCollection.numbers, FeatureCollection.ofElements, List.flatMap_map,
    List.forall_mem_flatMap, Feature.numbers, List.forall_mem_append, Geometry.numbers]
  refine fun e he => ⟨fun p hp => ?_, ?_⟩
  · obtain ⟨hx, hy⟩ := hfinite e he p hp
    simp [hx, hy]
  · exact List.forall_mem_filterMap.2 e.isFinite_properties

/-- **A document is exported as one feature for each element,** in their order, provided that all
exported positions are finite. The text of the collection is read as the collection of the numbers
that are read for its own, so it is read back exactly if every number is. -/
theorem Document.features_exported {d : Document}
    (hfinite : ∀ e ∈ d.elements, ∀ p ∈ e.feature.geometry.positions, p.Storable) :
    List.Forall₂ (fun e f => Exported e.shape f.geometry) d.elements d.features.features ∧
      FeatureCollection.decoder.read d.features.toJson.render
        = some (d.features.mapNumbers NumberReading.scaled.reread) ∧
      ∀ reading : NumberReading,
        FeatureCollection.decoder.read d.features.toJson.render reading = some d.features ↔
          ∀ x ∈ d.features.numbers, reading.Restores x := by
  refine ⟨?_, ?_, fun reading => ?_⟩
  · rw [Document.features, FeatureCollection.ofElements, List.forall₂_map_right_iff,
      List.forall₂_same]
    exact fun e he => Shape.exported (hfinite e he)
  · exact d.plain_features.reread (isFinite_numbers hfinite) NumberReading.scaled_accepts
  · rw [Decoder.read, read_render]
    exact d.plain_features.parsed_iff

/-- A ring that is closed but for the sign of a zero, a turned rectangle, and an arrow with a width
that is no number. -/
def threeShapes : Document where
  id := "slide"
  elements :=
    [{ shape := .polyline [⟨0.0, 1.0, 0.0⟩, ⟨2.0, 1.0, 0.0⟩, ⟨2.0, 3.0, 0.0⟩, ⟨-0.0, 1.0, 0.0⟩]
        true },
      { id := some "box", shape := .rectangle ⟨5.0, 5.0, 0.0⟩ 4.0 2.0 0.5 },
      { shape := .arrow ⟨0.0, 0.1, 0.0⟩ ⟨1.0e22, 0.0, 0.0⟩,
        style := { lineWidth := some (0.0 / 0.0) } }]

/-- The ring is left as it is, the rectangle has a fifth position, and all numbers are read back. -/
theorem Document.features_exported_of_threeShapes :
    (∀ e ∈ threeShapes.elements, ∀ p ∈ e.feature.geometry.positions, p.Storable) ∧
      threeShapes.features.features.map (fun f => f.geometry.positions.length) = [4, 5, 2] ∧
      List.Forall₂ (fun e f => Exported e.shape f.geometry) threeShapes.elements
        threeShapes.features.features ∧
      (∀ x ∈ threeShapes.features.numbers, NumberReading.scaled.Restores x) ∧
      FeatureCollection.decoder.read threeShapes.features.toJson.render
        = some threeShapes.features := by
  have hall : (threeShapes.elements.all fun e =>
      e.feature.geometry.positions.all Convert.isFinite) = true := by
    decide +kernel
  have hfinite : ∀ e ∈ threeShapes.elements, ∀ p ∈ e.feature.geometry.positions, p.Storable :=
    fun e he => Convert.all_isFinite.1 (List.all_eq_true.1 hall e he)
  have hnumbers : ∀ x ∈ threeShapes.features.numbers, NumberReading.scaled.Restores x := by
    decide +kernel
  obtain ⟨hexported, -, hread⟩ := features_exported hfinite
  exact ⟨hfinite, by decide +kernel, hexported, hnumbers, (hread .scaled).2 hnumbers⟩

/-- A circle around the origin. -/
def unitCircle : Document where
  id := "slide"
  elements := [{ shape := .circle ⟨0.0, 0.0, 0.0⟩ 1.0 }]

/-- **A point on the curve is read as its neighbour,** so the collection is not read back. -/
theorem Document.features_readOtherwise :
    (∀ e ∈ unitCircle.elements, ∀ p ∈ e.feature.geometry.positions, p.Storable) ∧
      unitCircle.features.numbers[4]? = some 0.9238795325112867 ∧
      NumberReading.scaled.again? 0.9238795325112867 = some (.real 0.9238795325112868) ∧
      FeatureCollection.decoder.read unitCircle.features.toJson.render
        ≠ some unitCircle.features := by
  have hall : (unitCircle.elements.all fun e =>
      e.feature.geometry.positions.all Convert.isFinite) = true := by
    decide +kernel
  have hnumber : unitCircle.features.numbers[4]? = some 0.9238795325112867 := by decide +kernel
  have hagain : NumberReading.scaled.again? 0.9238795325112867
      = some (.real 0.9238795325112868) := by
    decide +kernel
  refine ⟨fun e he => Convert.all_isFinite.1 (List.all_eq_true.1 hall e he), hnumber, hagain, ?_⟩
  intro hread
  rw [Decoder.read, read_render, Option.bind_some] at hread
  have hrestores := unitCircle.plain_features.parsed_iff.1 hread _ (List.mem_of_getElem? hnumber)
  rw [NumberReading.Restores, hagain] at hrestores
  exact absurd hrestores (by decide +kernel)

end ImageOverlay
