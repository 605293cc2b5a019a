import ImageOverlay.Proofs.Json.Fields
import ImageOverlay.Proofs.Text.Pieces
import ImageOverlay.Annotation.Element

set_option autoImplicit false

/-!
# Elements that are stored

What JSON can hold of an element: finite numbers, and colours that are the colour of some text
(`Element.Storable`). Such an element is read back from what it is written as (`Element.reads`), and
every element that is read is of this kind (`Element.yields`).

The members of the shape and those of the style stand in one object beside the identity. That each
field finds its own member depends on the names alone: none of them is used twice.
-/

namespace ImageOverlay

open Decode Json

variable {reading : NumberReading}

/-! ## Colours -/

/-- The colour of some text. -/
def Color.OfText (c : Color) : Prop := ∃ text, Color.parse? text = some c

theorem Color.ofText_of_mem (text : String) : ∀ c ∈ Color.parse? text, c.OfText :=
  fun _ hc => ⟨text, hc⟩

/-- A colour is the colour of the text it keeps. -/
theorem Color.parse?_text {c : Color} (h : c.OfText) : Color.parse? c.text = some c := by
  obtain ⟨text, h⟩ := h
  unfold parse? parse at h ⊢
  simp only at h ⊢
  split at h
  · rename_i hcomponents
    obtain rfl := Option.some.inj h
    simp only [String.toList_ofList, Text.trim_trim, hcomponents]
    rfl
  · cases h

theorem Color.reads {c : Color} (h : c.OfText) : Reads reading Color.decoder c.toJson c :=
  ⟨Color.parse?_text h, nofun⟩

theorem Color.yields : Yields Color.decoder Color.OfText := by
  intro p c _ hc
  obtain ⟨text, -, hparse⟩ := Option.bind_eq_some_iff.1 hc
  exact ⟨text, hparse⟩

/-! ## Coordinates -/

/-- A coordinate of finite numbers. -/
structure Coordinate.Storable (c : Coordinate) : Prop where
  x : c.x.isFinite = true
  y : c.y.isFinite = true
  z : c.z.isFinite = true

theorem Coordinate.reads (hreading : reading.Faithful) {c : Coordinate} (h : c.Storable) :
    Reads reading Coordinate.decoder c.toJson c := by
  refine ⟨?_, nofun⟩
  unfold Coordinate.decoder Coordinate.toJson
  rw [(Reads.triple (.float (hreading _ h.x)) (.float (hreading _ h.y))
    (.float (hreading _ h.z))).read]
  rfl

theorem Coordinate.yields : Yields Coordinate.decoder Coordinate.Storable :=
  yields_float.triple.map fun _ ⟨hx, hy, hz⟩ => ⟨hx, hy, hz⟩

/-- A position of finite numbers. -/
structure Position.Storable (p : Position) : Prop where
  x : p.x.isFinite = true
  y : p.y.isFinite = true

/-- A position is read back if and only if its numbers are. -/
theorem Position.parsed_iff {p : Position} : decoder (p.toJson.parsed reading) = some p
    ↔ reading.Restores p.x ∧ reading.Restores p.y := by
  obtain ⟨x, y⟩ := p
  rw [← float_parsed_iff, ← float_parsed_iff, ← pair_parsed_iff]
  unfold decoder toJson
  simp [Option.map_eq_some_iff]

theorem Position.reads (hreading : reading.Faithful) {p : Position} (h : p.Storable) :
    Reads reading Position.decoder p.toJson p :=
  ⟨parsed_iff.2 ⟨hreading _ h.x, hreading _ h.y⟩, nofun⟩

theorem Position.yields : Yields Position.decoder Position.Storable :=
  yields_float.pair.map fun _ ⟨hx, hy⟩ => ⟨hx, hy⟩

/-! ## Labels -/

theorem LabelVisibility.reads (v : LabelVisibility) :
    Reads reading LabelVisibility.decoder (.str v.name) v := by
  cases v <;> exact ⟨rfl, nofun⟩

/-- A label with a finite size and the colour of some text. -/
structure Label.Storable (l : Label) : Prop where
  fontSize : ∀ x ∈ l.fontSize, x.isFinite = true
  color : ∀ c ∈ l.color, c.OfText

theorem Label.reads (hreading : reading.Faithful) {l : Label} (h : l.Storable) :
    Reads reading Label.decoder l.toJson l := by
  refine ⟨?_, nofun⟩
  unfold Label.toJson Label.decoder
  simp only [fields_parsed, List.mapM_cons, List.mapM_nil]
  rw [field?_of_select_one (k := "value") (v := .str l.value) (by simp)]
  rw [field?_of_select (k := "visibility") (v := l.visibility.map fun v => .str v.name) (by simp)]
  rw [field?_of_select (k := "fontSize") (v := l.fontSize.map .real) (by simp)]
  rw [field?_of_select (k := "color") (v := l.color.map Color.toJson) (by simp)]
  have hfontSize := Reads.optional fun x hx => Reads.float (hreading x (h.fontSize x hx))
  simp only [Option.bind_eq_bind, Option.bind_some, Option.pure_def]
  rw [(Reads.string l.value).required,
    Reads.optional (o := l.visibility) fun v _ => LabelVisibility.reads v, hfontSize,
    Reads.optional fun c hc => Color.reads (h.color c hc)]
  rfl

theorem Label.yields : Yields Label.decoder Label.Storable := by
  intro p l hp hl
  simp only [Label.decoder, Option.bind_eq_bind, Option.bind_eq_some_iff] at hl
  obtain ⟨vs, hvs, hl⟩ := hl
  have hfound := found_of_fields hp hvs
  split at hl
  · simp only [Option.bind_eq_some_iff] at hl
    obtain ⟨_, -, _, -, fontSize, hfontSize, color, hcolor, hl⟩ := hl
    obtain rfl := Option.some.inj hl
    exact ⟨yields_float.optional (hfound _ (by simp)) hfontSize,
      Color.yields.optional (hfound _ (by simp)) hcolor⟩
  · cases hl

/-! ## Styles -/

/-- A style with a finite width and colours of some text. -/
structure ElementStyle.Storable (s : ElementStyle) : Prop where
  label : ∀ l ∈ s.label, l.Storable
  lineColor : ∀ c ∈ s.lineColor, c.OfText
  lineWidth : ∀ x ∈ s.lineWidth, x.isFinite = true
  fillColor : ∀ c ∈ s.fillColor, c.OfText

theorem ElementStyle.storable_of_ofMembers {ms : Members} {s : ElementStyle}
    (hms : ∀ m ∈ ms, m.2.Finite) (h : ElementStyle.ofMembers ms = some s) : s.Storable := by
  simp only [ElementStyle.ofMembers, Option.bind_eq_bind, Option.bind_eq_some_iff] at h
  obtain ⟨vs, hvs, h⟩ := h
  have hfound := found_of_ofMembers hms hvs
  split at h
  · simp only [Option.bind_eq_some_iff] at h
    obtain ⟨_, hlabel, _, hline, _, hwidth, _, hfill, h⟩ := h
    obtain rfl := Option.some.inj h
    exact ⟨Label.yields.optional (hfound _ (by simp)) hlabel,
      Color.yields.optional (hfound _ (by simp)) hline,
      yields_float.optional (hfound _ (by simp)) hwidth,
      Color.yields.optional (hfound _ (by simp)) hfill⟩
  · cases h

/-! ## Shapes -/

/-- A shape of finite numbers. -/
def Shape.Storable : Shape → Prop
  | .point center => center.Storable
  | .polyline points _ => ∀ c ∈ points, c.Storable
  | .rectangle center width height rotation | .ellipse center width height rotation =>
    center.Storable ∧ width.isFinite = true ∧ height.isFinite = true ∧ rotation.isFinite = true
  | .circle center radius => center.Storable ∧ radius.isFinite = true
  | .arrow head tail => head.Storable ∧ tail.Storable

namespace Shape

variable {ms : List (String × Json)}

theorem pointOf_members (hreading : reading.Faithful) {center : Coordinate} (h : center.Storable)
    (hcenter : select ["center"] ms = [("center", center.toJson)]) :
    pointOf (parsedMembers reading ms) = some (.point center) := by
  simp only [pointOf, field?_of_select_one hcenter, Option.bind_eq_bind, Option.bind_some,
    (Coordinate.reads hreading h).required]

theorem polylineOf_members (hreading : reading.Faithful) {points : List Coordinate} {closed : Bool}
    (h : ∀ c ∈ points, c.Storable)
    (hpoints : select ["points"] ms = [("points", .arr (points.map Coordinate.toJson))])
    (hclosed : select ["closed"] ms = [("closed", .bool closed)]) :
    polylineOf (parsedMembers reading ms) = some (.polyline points closed) := by
  have hread := Reads.list fun c hc => Coordinate.reads hreading (h c hc)
  simp only [polylineOf, field?_of_select_one hpoints, field?_of_select_one hclosed,
    Option.bind_eq_bind, Option.bind_some, hread.required, (Reads.bool closed).orDefault]

theorem boxOf_members (hreading : reading.Faithful)
    (make : Coordinate → Float → Float → Float → Shape) {center : Coordinate}
    {width height rotation : Float} (h : (Shape.rectangle center width height rotation).Storable)
    (hcenter : select ["center"] ms = [("center", center.toJson)])
    (hwidth : select ["width"] ms = [("width", .real width)])
    (hheight : select ["height"] ms = [("height", .real height)])
    (hrotation : select ["rotation"] ms = [("rotation", .real rotation)]) :
    boxOf make (parsedMembers reading ms) = some (make center width height rotation) := by
  obtain ⟨hc, hw, hh, hr⟩ := h
  simp only [boxOf, field?_of_select_one hcenter, field?_of_select_one hwidth,
    field?_of_select_one hheight, field?_of_select_one hrotation, Option.bind_eq_bind,
    Option.bind_some, (Coordinate.reads hreading hc).required,
    (Reads.float (hreading _ hw)).required, (Reads.float (hreading _ hh)).required,
    (Reads.float (hreading _ hr)).orDefault]

theorem circleOf_members (hreading : reading.Faithful) {center : Coordinate} {radius : Float}
    (h : (Shape.circle center radius).Storable)
    (hcenter : select ["center"] ms = [("center", center.toJson)])
    (hradius : select ["radius"] ms = [("radius", .real radius)]) :
    circleOf (parsedMembers reading ms) = some (.circle center radius) := by
  obtain ⟨hc, hr⟩ := h
  simp only [circleOf, field?_of_select_one hcenter, field?_of_select_one hradius,
    Option.bind_eq_bind, Option.bind_some, (Coordinate.reads hreading hc).required,
    (Reads.float (hreading _ hr)).required]

theorem arrowOf_members (hreading : reading.Faithful) {head tail : Coordinate}
    (h : (Shape.arrow head tail).Storable)
    (hpoints : select ["points"] ms = [("points", .arr [head.toJson, tail.toJson])]) :
    arrowOf (parsedMembers reading ms) = some (.arrow head tail) := by
  obtain ⟨hh, ht⟩ := h
  have hread := Reads.pair (Coordinate.reads hreading hh) (Coordinate.reads hreading ht)
  simp only [arrowOf, field?_of_select_one hpoints, Option.bind_eq_bind, Option.bind_some,
    hread.required]

/-- The shape is found among the members of its element. -/
theorem ofMembers_members (hreading : reading.Faithful) {s : Shape} (h : s.Storable)
    (id : Option Json) (style : ElementStyle) :
    ofMembers (parsedMembers reading (member? "id" id ++ s.members ++ style.members)) = some s := by
  -- No member of the identity or the style has the name of one of the shape.
  have hfind : ∀ k ∈ ["type", "center", "points", "closed", "width", "height", "rotation",
      "radius"], ∀ v, select [k] s.members = [(k, v)] →
        select [k] (member? "id" id ++ s.members ++ style.members) = [(k, v)] := by
    simp +contextual [ElementStyle.members]
  generalize member? "id" id ++ s.members ++ style.members = ms at hfind ⊢
  unfold ofMembers
  have htype : select ["type"] s.members = [("type", .str s.typeName)] := by
    cases s <;> simp [members]
  rw [field?_of_select_one (hfind "type" (by simp) _ htype)]
  cases s with
  | point center =>
      exact pointOf_members hreading h (hfind _ (by simp) _ (by simp [members]))
  | polyline points closed =>
      exact polylineOf_members hreading h (hfind _ (by simp) _ (by simp [members]))
        (hfind _ (by simp) _ (by simp [members]))
  | rectangle center width height rotation =>
      exact boxOf_members hreading .rectangle h (hfind _ (by simp) _ (by simp [members]))
        (hfind _ (by simp) _ (by simp [members])) (hfind _ (by simp) _ (by simp [members]))
        (hfind _ (by simp) _ (by simp [members]))
  | circle center radius =>
      exact circleOf_members hreading h (hfind _ (by simp) _ (by simp [members]))
        (hfind _ (by simp) _ (by simp [members]))
  | ellipse center width height rotation =>
      exact boxOf_members hreading .ellipse h (hfind _ (by simp) _ (by simp [members]))
        (hfind _ (by simp) _ (by simp [members])) (hfind _ (by simp) _ (by simp [members]))
        (hfind _ (by simp) _ (by simp [members]))
  | arrow head tail =>
      exact arrowOf_members hreading h (hfind _ (by simp) _ (by simp [members]))

variable {fields : Members} {s : Shape}

theorem storable_of_boxOf (make : Coordinate → Float → Float → Float → Shape)
    (hmake : ∀ center width height rotation,
      (Shape.rectangle center width height rotation).Storable →
        (make center width height rotation).Storable)
    (hfields : ∀ m ∈ fields, m.2.Finite) (h : boxOf make fields = some s) : s.Storable := by
  simp only [boxOf, Option.bind_eq_bind, Option.bind_eq_some_iff] at h
  obtain ⟨_, hc, _, hw, _, hh, _, hr, center, hcenter, width, hwidth, height, hheight, rotation,
    hrotation, h⟩ := h
  obtain rfl := Option.some.inj h
  exact hmake _ _ _ _ ⟨Coordinate.yields.required (found_of_field? hfields hc) hcenter,
    yields_float.required (found_of_field? hfields hw) hwidth,
    yields_float.required (found_of_field? hfields hh) hheight,
    yields_float.orDefault rfl (found_of_field? hfields hr) hrotation⟩

/-- Whichever reader a shape is read by, its numbers are finite. -/
theorem storable_of_mem_readers {reader : Members → Option Shape}
    (hreader : reader ∈ readers.map (·.2)) (hfields : ∀ m ∈ fields, m.2.Finite)
    (h : reader fields = some s) : s.Storable := by
  simp only [readers, List.map_cons, List.map_nil, List.mem_cons, List.not_mem_nil, or_false]
    at hreader
  rcases hreader with rfl | rfl | rfl | rfl | rfl | rfl
  · simp only [pointOf, Option.bind_eq_bind, Option.bind_eq_some_iff] at h
    obtain ⟨_, hc, center, hcenter, h⟩ := h
    obtain rfl := Option.some.inj h
    exact Coordinate.yields.required (found_of_field? hfields hc) hcenter
  · simp only [polylineOf, Option.bind_eq_bind, Option.bind_eq_some_iff] at h
    obtain ⟨_, hp, _, -, points, hpoints, closed, -, h⟩ := h
    obtain rfl := Option.some.inj h
    exact Coordinate.yields.list.required (found_of_field? hfields hp) hpoints
  · exact storable_of_boxOf .rectangle (fun _ _ _ _ h => h) hfields h
  · simp only [circleOf, Option.bind_eq_bind, Option.bind_eq_some_iff] at h
    obtain ⟨_, hc, _, hr, center, hcenter, radius, hradius, h⟩ := h
    obtain rfl := Option.some.inj h
    exact ⟨Coordinate.yields.required (found_of_field? hfields hc) hcenter,
      yields_float.required (found_of_field? hfields hr) hradius⟩
  · exact storable_of_boxOf .ellipse (fun _ _ _ _ h => h) hfields h
  · simp only [arrowOf, Option.bind_eq_bind, Option.bind_eq_some_iff] at h
    obtain ⟨_, hp, ⟨head, tail⟩, hpoints, h⟩ := h
    obtain rfl := Option.some.inj h
    exact Coordinate.yields.pair.required (found_of_field? hfields hp) hpoints

/-- What a `type` asks for is one of the readers. -/
theorem mem_readers_of_reader? {p : Parsed} {reader : Members → Option Shape}
    (h : reader? p = some reader) : reader ∈ readers.map (·.2) := by
  unfold reader? at h
  split at h
  · obtain ⟨entry, hentry, rfl⟩ := Option.map_eq_some_iff.1 h
    exact List.mem_map_of_mem (List.mem_of_find?_eq_some hentry)
  · split at h
    · obtain ⟨entry, hentry, rfl⟩ := Option.map_eq_some_iff.1 h
      exact List.mem_map_of_mem (List.mem_of_getElem? hentry)
    · cases h
  · cases h

theorem storable_of_ofMembers (hfields : ∀ m ∈ fields, m.2.Finite)
    (h : ofMembers fields = some s) : s.Storable := by
  simp only [ofMembers, Option.bind_eq_bind, Option.bind_eq_some_iff] at h
  obtain ⟨tag, -, reader, htag, h⟩ := h
  obtain ⟨p, -, hreader⟩ := Option.bind_eq_some_iff.1 htag
  exact storable_of_mem_readers (mem_readers_of_reader? hreader) hfields h

end Shape

/-! ## Levels -/

theorem Coordinate.shallow (c : Coordinate) (n : ℕ) : Shallow (n + 1) c.toJson :=
  .arr (by simp [Shallow.real])

theorem Color.shallow (c : Color) (n : ℕ) : Shallow n c.toJson := .str n c.text

theorem Label.shallow (l : Label) (n : ℕ) : Shallow (n + 1) l.toJson := by
  refine .obj (show AllShallow n _ from ?_)
  simp [Shallow.str, Shallow.real, Color.shallow]

theorem Shape.shallow (s : Shape) (n : ℕ) : AllShallow (n + 2) s.members := by
  cases s with
  | polyline points closed =>
      have hpoints : Shallow (n + 2) (.arr (points.map Coordinate.toJson)) :=
        .arr (by simp [Coordinate.shallow])
      simp [Shape.members, hpoints, Shallow.str, Shallow.bool]
  | arrow head tail =>
      have hpoints : Shallow (n + 2) (.arr [head.toJson, tail.toJson]) :=
        .arr (by simp [Coordinate.shallow])
      simp [Shape.members, hpoints, Shallow.str]
  | point | rectangle | circle | ellipse =>
      simp [Shape.members, Coordinate.shallow, Shallow.str, Shallow.real]

/-- An element has no more than three levels. -/
theorem Element.shallow (e : Element) : Shallow 3 e.toJson := by
  refine .obj (show AllShallow 2 _ from ?_)
  simp [Shape.shallow, ElementStyle.members, Label.shallow, Color.shallow, Shallow.str,
    Shallow.real]

/-! ## Elements -/

/-- The style is found among the members of its element. -/
theorem ElementStyle.ofMembers_members (hreading : reading.Faithful) {s : ElementStyle}
    (h : s.Storable) (id : Option Json) (shape : Shape) :
    ElementStyle.ofMembers (parsedMembers reading (member? "id" id ++ shape.members ++ s.members))
      = some s := by
  -- Neither the identity nor a member of a shape has the name of one of the style.
  have hshape : ∀ k ∈ ["label", "lineColor", "lineWidth", "fillColor"],
      select [k] shape.members = [] := by
    cases shape <;> simp [Shape.members]
  have hfind : ∀ k v, k ∈ ["label", "lineColor", "lineWidth", "fillColor"] →
      select [k] s.members = member? k v →
        select [k] (member? "id" id ++ shape.members ++ s.members) = member? k v := by
    intro k v hk hs
    have hid : "id" ≠ k := by
      rintro rfl
      exact absurd hk (by decide)
    rw [select_append, select_append, hshape k hk, hs]
    simp [hid]
  generalize member? "id" id ++ shape.members ++ s.members = ms at hfind ⊢
  unfold ElementStyle.ofMembers
  simp only [ofMembers_parsedMembers, List.mapM_cons, List.mapM_nil]
  rw [field?_of_select (hfind "label" (s.label.map Label.toJson) (by simp) (by simp [members])),
    field?_of_select
      (hfind "lineColor" (s.lineColor.map Color.toJson) (by simp) (by simp [members])),
    field?_of_select (hfind "lineWidth" (s.lineWidth.map .real) (by simp) (by simp [members])),
    field?_of_select
      (hfind "fillColor" (s.fillColor.map Color.toJson) (by simp) (by simp [members]))]
  have hlabel := Reads.optional fun l hl => Label.reads hreading (h.label l hl)
  have hwidth := Reads.optional fun x hx => Reads.float (hreading x (h.lineWidth x hx))
  simp only [Option.bind_eq_bind, Option.bind_some, Option.pure_def, hlabel, hwidth,
    Reads.optional fun c hc => Color.reads (h.lineColor c hc),
    Reads.optional fun c hc => Color.reads (h.fillColor c hc)]

/-- An element whose shape and style can be stored. -/
structure Element.Storable (e : Element) : Prop where
  shape : e.shape.Storable
  style : e.style.Storable

theorem Element.reads (hreading : reading.Faithful) {e : Element} (h : e.Storable) (outer : ℕ)
    (houter : outer + 3 ≤ Parsed.depthLimit) :
    Reads reading (Element.decoderIn outer) e.toJson e := by
  refine ⟨?_, nofun⟩
  have hdepth : 3 ≤ Parsed.depthLimit - outer := by omega
  obtain ⟨w, hkept⟩ := (Element.shallow e).keep? hreading hdepth
  have hid : field? ["id"] (parsedMembers reading (member? "id" (e.id.map .str) ++ e.shape.members
      ++ e.style.members)) = some ((e.id.map .str).map (parsed reading)) := by
    refine field?_of_select (k := "id") ?_
    cases hshape : e.shape <;> simp [Shape.members, ElementStyle.members]
  unfold Element.decoderIn
  rw [Element.toJson, parsed] at hkept ⊢
  simp only [hkept, hid, optional_string, Shape.ofMembers_members hreading h.shape,
    ElementStyle.ofMembers_members hreading h.style, Option.bind_eq_bind, Option.bind_some]

theorem Element.yields (outer : ℕ) : Yields (Element.decoderIn outer) Element.Storable := by
  intro p e hp he
  unfold Element.decoderIn at he
  split at he
  · cases hp with
    | object hms =>
        simp only [Option.bind_eq_bind, Option.bind_eq_some_iff] at he
        obtain ⟨_, -, _, -, _, -, shape, hshape, style, hstyle, he⟩ := he
        obtain rfl := Option.some.inj he
        exact ⟨Shape.storable_of_ofMembers hms hshape,
          ElementStyle.storable_of_ofMembers hms hstyle⟩
  · cases he

end ImageOverlay
