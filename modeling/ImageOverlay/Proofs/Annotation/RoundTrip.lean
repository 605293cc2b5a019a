import ImageOverlay.Proofs.Annotation.Elements
import ImageOverlay.Annotation.Document
import ImageOverlay.Annotation.Drawn

set_option autoImplicit false

/-!
# The interchange format

Documents and drawn shapes are the two records that come in as JSON and go out as JSON. Decoding
undoes encoding on both (`interchange_roundTrip`): on everything that can be stored, and therefore
on everything that was ever read.
-/

namespace ImageOverlay

open Decode Json

variable {reading : NumberReading}

/-! ## Documents -/

/-- A document of elements that can be stored. -/
def Document.Storable (d : Document) : Prop := ∀ e ∈ d.elements, e.Storable

theorem Document.reads (hreading : reading.Faithful) {d : Document} (h : d.Storable) :
    Reads reading Document.decoder d.toJson d := by
  refine ⟨?_, nofun⟩
  unfold Document.toJson Document.decoder
  simp only [fields_parsed, List.mapM_cons, List.mapM_nil]
  rw [field?_of_select_one (k := "id") (v := .str d.id) (by simp),
    field?_of_select_one (k := "name") (v := .str d.name) (by simp),
    field?_of_select (k := "description") (v := d.description.map .str) (by simp),
    field?_of_select_one (k := "elements") (v := .arr (d.elements.map Element.toJson)) (by simp)]
  have helements := Reads.list fun e he => Element.reads hreading (h e he) 2 (by decide)
  simp only [Option.bind_eq_bind, Option.bind_some, Option.pure_def, optional_string,
    (Reads.string d.id).required, (Reads.string d.name).orDefault, helements.orDefault]

theorem Document.yields : Yields Document.decoder Document.Storable := by
  intro p d hp hd
  simp only [Document.decoder, Option.bind_eq_bind, Option.bind_eq_some_iff] at hd
  obtain ⟨vs, hvs, hd⟩ := hd
  have hfound := found_of_fields hp hvs
  split at hd
  · simp only [Option.bind_eq_some_iff] at hd
    obtain ⟨_, -, _, -, _, -, elements, helements, hd⟩ := hd
    obtain rfl := Option.some.inj hd
    exact (Element.yields 2).list.orDefault (fun _ he => by cases he) (hfound _ (by simp)) helements
  · cases hd

/-! ## Drawn shapes -/

/-- A drawn shape of finite numbers. -/
structure Drawn.Storable (d : Drawn) : Prop where
  coordinates : ∀ p ∈ d.coordinates, p.Storable
  strokeWidth : ∀ x ∈ d.strokeWidth, x.isFinite = true

theorem ShapeKind.reads (k : ShapeKind) : Reads reading ShapeKind.decoder (.str k.name) k := by
  cases k <;> exact ⟨rfl, nofun⟩

theorem DrawingState.reads (s : DrawingState) :
    Reads reading DrawingState.decoder (.str s.name) s := by
  cases s <;> exact ⟨rfl, nofun⟩

theorem Drawn.reads (hreading : reading.Faithful) {d : Drawn} (h : d.Storable) :
    Reads reading Drawn.decoder d.toJson d := by
  refine ⟨?_, nofun⟩
  unfold Drawn.toJson Drawn.decoder Drawn.decoderWith
  simp only [fields_parsed, List.mapM_cons, List.mapM_nil]
  rw [field?_of_select (k := "id") (v := d.id.map .str) (by simp),
    field?_of_select_one (k := "type") (v := .str d.kind.name) (by simp),
    field?_of_select_one (k := "state") (v := .str d.state.name) (by simp),
    field?_of_select_one (k := "coordinates")
      (v := .arr (d.coordinates.map Position.toJson)) (by simp),
    field?_of_select (k := "label") (v := d.label.map .str) (by simp),
    field?_of_select (k := "strokeColor") (v := d.strokeColor.map .str) (by simp),
    field?_of_select (k := "strokeWidth") (v := d.strokeWidth.map .real) (by simp),
    field?_of_select (k := "fillColor") (v := d.fillColor.map .str) (by simp)]
  have hcoordinates := Reads.list fun p hp => Position.reads hreading (h.coordinates p hp)
  have hwidth := Reads.optional fun x hx => Reads.float (hreading x (h.strokeWidth x hx))
  simp only [Option.bind_eq_bind, Option.bind_some, Option.pure_def, optional_string, hwidth,
    (ShapeKind.reads d.kind).required, (DrawingState.reads d.state).orDefault,
    hcoordinates.required]

theorem Drawn.yields : Yields Drawn.decoder Drawn.Storable := by
  intro p d hp hd
  simp only [Drawn.decoder, Drawn.decoderWith, Option.bind_eq_bind, Option.bind_eq_some_iff] at hd
  obtain ⟨vs, hvs, hd⟩ := hd
  have hfound := found_of_fields hp hvs
  split at hd
  · simp only [Option.bind_eq_some_iff] at hd
    obtain ⟨_, -, _, -, _, -, _, hcoordinates, _, -, _, -, _, hwidth, _, -, hd⟩ := hd
    obtain rfl := Option.some.inj hd
    exact ⟨Position.yields.list.required (hfound _ (by simp)) hcoordinates,
      yields_float.optional (hfound _ (by simp)) hwidth⟩
  · cases hd

/-! ## The interchange format -/

/-- **Decoding undoes encoding,** where finite doubles are written so that they are read back. Every
document and every drawn shape that can be stored is read back from its compact text. What a text is
accepted as can be stored, so it is read back, too. -/
theorem interchange_roundTrip {reading : NumberReading} (hreading : reading.Faithful) :
    (∀ d : Document, d.Storable → Document.decoder.read d.toJson.render reading = some d) ∧
    (∀ d : Drawn, d.Storable → Drawn.decoder.read d.toJson.render reading = some d) ∧
    (∀ (text : String) (d : Document), Document.decoder.read text reading = some d →
      Document.decoder.read d.toJson.render reading = some d) ∧
    (∀ (text : String) (d : Drawn), Drawn.decoder.read text reading = some d →
      Drawn.decoder.read d.toJson.render reading = some d) := by
  have hdocument : ∀ d : Document, d.Storable →
      Document.decoder.read d.toJson.render reading = some d :=
    fun d h => (Document.reads hreading h).render
  have hdrawn : ∀ d : Drawn, d.Storable → Drawn.decoder.read d.toJson.render reading = some d :=
    fun d h => (Drawn.reads hreading h).render
  refine ⟨hdocument, hdrawn, ?_, ?_⟩
  · intro text d h
    exact hdocument d (Document.yields.of_read h)
  · intro text d h
    exact hdrawn d (Drawn.yields.of_read h)

/-- A circle with a marked label. -/
def markedCircle : Element where
  shape := .circle ⟨12.5, -0.0, 0.0⟩ 0.1
  style :=
    { label := some
        { value := "\"a\\b\"\n", visibility := some .onHover, fontSize := some 1.0e22,
          color := Color.parse? " #f80" }
      fillColor := Color.parse? "rgba(1, 2, 3, 0.5)" }

/-- A line that is still being drawn. -/
def openLine : Drawn where
  kind := .line
  state := .create
  coordinates := [⟨0.0, 0.3⟩, ⟨1.0e-7, 1.0e17⟩]
  strokeWidth := some 2.5

/-- A document of the circle, and the line; and a text in which the identity goes by another
name. -/
theorem interchange_roundTrip_of_markedCircle :
    let document : Document := { id := "slide", elements := [markedCircle] }
    let text := "\x7b \"_id\": \"slide\", \"elements\": [] \x7d"
    let reading := NumberReading.nearest
    reading.Faithful ∧
      (document.Storable ∧ Document.decoder.read document.toJson.render reading = some document) ∧
      (openLine.Storable ∧ Drawn.decoder.read openLine.toJson.render reading = some openLine) ∧
      ∃ d, Document.decoder.read text reading = some d ∧
        Document.decoder.read d.toJson.render reading = some d := by
  intro document text reading
  obtain ⟨hdocument, hdrawn, hagain, -⟩ := interchange_roundTrip NumberReading.nearest_faithful
  have hlabel : ∀ l ∈ markedCircle.style.label, l.Storable := by
    rintro _ ⟨⟩
    refine ⟨?_, Color.ofText_of_mem " #f80"⟩
    rintro _ ⟨⟩
    rfl
  have hstyle : markedCircle.style.Storable := by
    refine ⟨hlabel, ?_, ?_, Color.ofText_of_mem "rgba(1, 2, 3, 0.5)"⟩
    · rintro _ ⟨⟩
    · rintro _ ⟨⟩
  have hstorable : document.Storable := by
    intro e he
    obtain rfl := List.mem_singleton.1 he
    exact ⟨⟨⟨rfl, rfl, rfl⟩, rfl⟩, hstyle⟩
  have hline : openLine.Storable := by
    constructor
    · intro p hp
      simp only [openLine, List.mem_cons, List.not_mem_nil, or_false] at hp
      rcases hp with rfl | rfl <;> exact ⟨rfl, rfl⟩
    · rintro _ ⟨⟩
      rfl
  have htext : Document.decoder.read text reading = some { id := "slide" } := by decide +kernel
  exact ⟨NumberReading.nearest_faithful, ⟨hstorable, hdocument _ hstorable⟩,
    ⟨hline, hdrawn _ hline⟩, _, htext, hagain _ _ htext⟩

end ImageOverlay
