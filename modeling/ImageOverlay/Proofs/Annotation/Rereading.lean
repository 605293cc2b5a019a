import ImageOverlay.Annotation.Feature
import ImageOverlay.Proofs.Annotation.Elements
import ImageOverlay.Proofs.Json.Rereading

set_option autoImplicit false

/-!
# Elements that are read with other numbers

An element with other numbers has a text with other numbers (`Element.toJson_mapNumbers`), and it
can be stored if these are finite. So an element that can be stored is always read from its text
where no double is read as too large; it may come back with other numbers (`Element.reread`).
-/

namespace ImageOverlay

open Json

/-- The same coordinate, with other numbers. -/
def Coordinate.mapNumbers (f : Float → Float) (c : Coordinate) : Coordinate := ⟨f c.x, f c.y, f c.z⟩

/-- The same label, with another size. -/
def Label.mapNumbers (f : Float → Float) (l : Label) : Label :=
  { l with fontSize := l.fontSize.map f }

/-- The same shape, with other numbers. -/
def Shape.mapNumbers (f : Float → Float) : Shape → Shape
  | .point center => .point (center.mapNumbers f)
  | .polyline points closed => .polyline (points.map (Coordinate.mapNumbers f)) closed
  | .rectangle center width height rotation =>
    .rectangle (center.mapNumbers f) (f width) (f height) (f rotation)
  | .circle center radius => .circle (center.mapNumbers f) (f radius)
  | .ellipse center width height rotation =>
    .ellipse (center.mapNumbers f) (f width) (f height) (f rotation)
  | .arrow head tail => .arrow (head.mapNumbers f) (tail.mapNumbers f)

/-- The same style, with other numbers. -/
def ElementStyle.mapNumbers (f : Float → Float) (s : ElementStyle) : ElementStyle :=
  { s with label := s.label.map (Label.mapNumbers f), lineWidth := s.lineWidth.map f }

/-- The same element, with other numbers. -/
def Element.mapNumbers (f : Float → Float) (e : Element) : Element :=
  { e with shape := e.shape.mapNumbers f, style := e.style.mapNumbers f }

section Writing

variable (f : Float → Float)

theorem Label.toJson_mapNumbers (l : Label) : (l.mapNumbers f).toJson = l.toJson.mapReals f := by
  obtain ⟨value, visibility, fontSize, color⟩ := l
  cases visibility <;> cases fontSize <;> cases color <;> rfl

theorem Shape.members_mapNumbers (s : Shape) :
    (s.mapNumbers f).members = s.members.map fun m => (m.1, m.2.mapReals f) := by
  cases s with
  | polyline points closed =>
      simp only [mapNumbers, members, List.map_cons, List.map_nil, mapReals, mapRealsItems_eq,
        List.map_map]
      rfl
  | point | rectangle | circle | ellipse | arrow => rfl

theorem ElementStyle.members_mapNumbers (s : ElementStyle) :
    (s.mapNumbers f).members = s.members.map fun m => (m.1, m.2.mapReals f) := by
  obtain ⟨label, lineColor, lineWidth, fillColor⟩ := s
  cases label <;> cases lineColor <;> cases lineWidth <;> cases fillColor <;>
    simp [mapNumbers, members, member?, Label.toJson_mapNumbers, Color.toJson, mapReals]

theorem Element.toJson_mapNumbers (e : Element) :
    (e.mapNumbers f).toJson = e.toJson.mapReals f := by
  obtain ⟨id, shape, style⟩ := e
  rw [toJson, toJson, mapReals, mapRealsMembers_eq, List.map_append, List.map_append,
    ← Shape.members_mapNumbers, ← ElementStyle.members_mapNumbers]
  cases id <;> rfl

end Writing

section Storable

variable {f : Float → Float} (hf : ∀ x : Float, x.isFinite = true → (f x).isFinite = true)
include hf

theorem Coordinate.Storable.mapNumbers {c : Coordinate} (h : c.Storable) :
    (c.mapNumbers f).Storable :=
  ⟨hf _ h.x, hf _ h.y, hf _ h.z⟩

theorem Shape.Storable.mapNumbers {s : Shape} (h : s.Storable) : (s.mapNumbers f).Storable := by
  cases s with
  | point center => exact Coordinate.Storable.mapNumbers hf h
  | polyline points closed =>
      exact List.forall_mem_map.2 fun c hc => (h c hc).mapNumbers hf
  | rectangle center width height rotation | ellipse center width height rotation =>
      obtain ⟨hcenter, hwidth, hheight, hrotation⟩ := h
      exact ⟨hcenter.mapNumbers hf, hf _ hwidth, hf _ hheight, hf _ hrotation⟩
  | circle center radius => exact ⟨h.1.mapNumbers hf, hf _ h.2⟩
  | arrow head tail => exact ⟨h.1.mapNumbers hf, h.2.mapNumbers hf⟩

theorem forall_mem_map_finite {o : Option Float} (h : ∀ x ∈ o, x.isFinite = true) :
    ∀ x ∈ o.map f, x.isFinite = true := by
  intro y hy
  obtain ⟨x, hx, rfl⟩ := Option.mem_map.1 hy
  exact hf x (h x hx)

theorem ElementStyle.Storable.mapNumbers {s : ElementStyle} (h : s.Storable) :
    (s.mapNumbers f).Storable := by
  refine ⟨?_, h.lineColor, forall_mem_map_finite hf h.lineWidth, h.fillColor⟩
  intro l' hl'
  obtain ⟨l, hl, rfl⟩ := Option.mem_map.1 hl'
  obtain ⟨hsize, hcolor⟩ := h.label l hl
  exact ⟨forall_mem_map_finite hf hsize, hcolor⟩

theorem Element.Storable.mapNumbers {e : Element} (h : e.Storable) : (e.mapNumbers f).Storable :=
  ⟨h.shape.mapNumbers hf, h.style.mapNumbers hf⟩

end Storable

/-- **The text of an element is read as the element of the numbers that are read instead.** -/
theorem Element.reread {reading : NumberReading} (hreading : reading.Accepts) {e : Element}
    (h : e.Storable) :
    Element.decoder.read e.toJson.render reading = some (e.mapNumbers reading.reread) := by
  have hstorable := h.mapNumbers fun _ hx => hreading.isFinite_reread hx
  have hread := (Element.reads NumberReading.nearest_faithful hstorable 0 (by decide)).read
  -- The element of the other numbers is read back from what the text of this one is read as.
  rw [toJson_mapNumbers, e.shallow.parsed_mapReals hreading] at hread
  rw [Decoder.read, read_render, Option.bind_some]
  exact hread

/-! ## Features -/

/-- The same position, with other numbers. -/
def Position.mapNumbers (f : Float → Float) (p : Position) : Position := ⟨f p.x, f p.y⟩

/-- The same geometry, with other numbers. -/
def Geometry.mapNumbers (f : Float → Float) : Geometry → Geometry
  | .point p => .point (p.mapNumbers f)
  | .lineString ps => .lineString (ps.map (Position.mapNumbers f))
  | .polygon rings => .polygon (rings.map (List.map (Position.mapNumbers f)))

/-- The same feature, with other numbers. -/
def Feature.mapNumbers (f : Float → Float) (feature : Feature) : Feature :=
  ⟨feature.geometry.mapNumbers f, mapRealsMembers f feature.properties⟩

/-- The same collection, with other numbers. -/
def FeatureCollection.mapNumbers (f : Float → Float) (c : FeatureCollection) : FeatureCollection :=
  ⟨c.features.map (Feature.mapNumbers f)⟩

section Writing

variable (f : Float → Float)

theorem positionsJson_mapNumbers (ps : List Position) :
    positionsJson (ps.map (Position.mapNumbers f)) = (positionsJson ps).mapReals f := by
  rw [positionsJson, positionsJson, mapReals, mapRealsItems_eq, List.map_map, List.map_map]
  rfl

theorem Geometry.toJson_mapNumbers (g : Geometry) :
    (g.mapNumbers f).toJson = g.toJson.mapReals f := by
  cases g with
  | point p => rfl
  | lineString ps =>
      simp only [mapNumbers, toJson, tag, coordinates, positionsJson_mapNumbers]
      rfl
  | polygon rings =>
      have hrings : (rings.map (List.map (Position.mapNumbers f))).map positionsJson
          = mapRealsItems f (rings.map positionsJson) := by
        rw [mapRealsItems_eq, List.map_map, List.map_map]
        exact List.map_congr_left fun ps _ => positionsJson_mapNumbers f ps
      simp only [mapNumbers, toJson, tag, coordinates, hrings]
      rfl

theorem Feature.toJson_mapNumbers (feature : Feature) :
    (feature.mapNumbers f).toJson = feature.toJson.mapReals f := by
  unfold mapNumbers toJson
  rw [Geometry.toJson_mapNumbers]
  rfl

theorem FeatureCollection.toJson_mapNumbers (c : FeatureCollection) :
    (c.mapNumbers f).toJson = c.toJson.mapReals f := by
  have hfeatures : (c.features.map (Feature.mapNumbers f)).map Feature.toJson
      = mapRealsItems f (c.features.map Feature.toJson) := by
    rw [mapRealsItems_eq, List.map_map, List.map_map]
    exact List.map_congr_left fun feature _ => Feature.toJson_mapNumbers f feature
  unfold mapNumbers toJson
  rw [hfeatures]
  rfl

end Writing

end ImageOverlay
