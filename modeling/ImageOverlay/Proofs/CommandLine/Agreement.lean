import ImageOverlay.Proofs.CommandLine.Simulation
import ImageOverlay.Proofs.Tile.Levels

set_option autoImplicit false

/-!
# A simulation and the commands that only compute

There are two ways from a drawing to an element or a region. The commands `convert` and `region`
compute them at once; a simulation has a viewer draw the shape, and what it tells has gone through a
session, its request and a task. `simulate_agrees` says that both ways lead to the same place, for
every image with an extent.
-/

namespace ImageOverlay

open CommandLine (ImageOptions Environment regionOf printed execute)

namespace Simulation

variable {image : ImageOptions} {drawn : Drawn} {supply : Identity.Supply}

/-- An image with an extent can be put on a map. -/
theorem shown_of_extent (hwidth : image.width ≠ 0) (hheight : image.height ≠ 0) : Shown image := by
  refine ⟨Levels.info_isUsable hwidth hheight, not_or.2 ⟨?_, ?_⟩⟩
  · exact Levels.toFloat_pos (Levels.atLeastOne_ne_zero _)
  · exact Levels.toFloat_pos (Levels.atLeastOne_ne_zero _)

/-- The element a drawing becomes, if it is done and stands for one. -/
def created? (drawn : Drawn) (supply : Identity.Supply) : Option Element :=
  if drawn.state = .done then
    (convert drawn).toOption.map fun element =>
      { element with id := some (drawn.id.getD supply.next.1) }
  else none

theorem told?_eq (drawn : Drawn) (supply : Identity.Supply) :
    told? drawn supply = (created? drawn supply).map (.annotationCreated · drawn) := by
  unfold told? created?
  split
  · cases hconvert : convert drawn with
    | error e =>
        rw [Drawn.answer_eq_error hconvert]
        rfl
    | ok element =>
        rw [Drawn.answer_eq_ok.2 ⟨element, hconvert, rfl⟩]
        rfl
  · rfl

theorem created?_eq_some {element : Element} :
    created? drawn supply = some element ↔ drawn.state = .done ∧
      ∃ converted, convert drawn = .ok converted ∧
        element = { converted with id := some (drawn.id.getD supply.next.1) } := by
  unfold created?
  split
  · cases convert drawn <;> simp_all [Except.toOption, eq_comm]
  · simp_all

theorem identified_of_convert {element : Element} (h : convert drawn = .ok element)
    (supply : Identity.Supply) :
    (element.identified supply).1 = { element with id := some (drawn.id.getD supply.next.1) } := by
  have hanswer : drawn.answer supply = .ok
      { element := { element with id := some (drawn.id.getD supply.next.1) }, drawn } :=
    Drawn.answer_eq_ok.2 ⟨element, h, rfl⟩
  rw [Drawn.answer, h] at hanswer
  exact congrArg DrawOutcome.element (Except.ok.inj hanswer)

/-- What the command `convert` prints if it is asked for an identity. -/
theorem execute_convert {env : Environment} {file : Option String} (path : String)
    (settings : Settings) (hread : env.drawn file = .ok drawn) :
    (execute env path settings (.convert file true)).toOption
      = (convert drawn).toOption.map fun element => printed
          (Element.toJson { element with id := some (drawn.id.getD env.supply.next.1) }) := by
  simp only [execute, hread]
  show ((convert drawn).mapError CommandLine.RunError.conversion >>= _).toOption = _
  cases hconvert : convert drawn with
  | error e => rfl
  | ok element =>
      show some (printed (element.identified env.supply).1.toJson) = _
      rw [identified_of_convert hconvert]
      rfl

/-- What the command `region` prints. -/
theorem execute_region {env : Environment} {file : Option String} (path : String)
    (settings : Settings) (hread : env.drawn file = .ok drawn) (hkind : drawn.kind = .rectangle) :
    (execute env path settings (.region file)).toOption
      = (regionOf drawn).toOption.map fun region => printed region.toJson := by
  simp only [execute, hread]
  show (if drawn.kind = .rectangle then _ else _ : Except _ _).toOption = _
  rw [if_pos hkind]
  cases regionOf drawn <;> rfl

/-- **A simulation agrees with the commands that only compute.** Of an image with an extent the
application is told that it is there. Then, without a region, it is told of the element that the
drawing is converted to, if the drawing is done and can be converted, under the identity of the
drawing or a fresh one: it is the element that the command `convert` prints. With a region of a
rectangle it is told nothing more, and the region is there if the drawing is done and has one: it
is the region that the command `region` prints. -/
theorem simulate_agrees (settings : Settings) (image : ImageOptions) (drawn : Drawn)
    (supply : Identity.Supply) (hwidth : image.width ≠ 0) (hheight : image.height ≠ 0) :
    (∃ report created, simulate settings image drawn false supply = .ok report ∧
      report.region = none ∧
      report.events = .imageRendered image.item image.width image.height ::
        (created.map (Notification.annotationCreated · drawn)).toList ∧
      (∀ element, created = some element ↔ drawn.state = .done ∧
        ∃ converted, convert drawn = .ok converted ∧
          element = { converted with id := some (drawn.id.getD supply.next.1) }) ∧
      ∀ env path file, env.drawn file = .ok drawn → env.supply = supply →
        created.map (fun element => printed element.toJson)
          = if drawn.state = .done then
              (execute env path settings (.convert file true)).toOption
            else none) ∧
      (drawn.kind = .rectangle →
        ∃ report, simulate settings image drawn true supply = .ok report ∧
          report.events = [.imageRendered image.item image.width image.height] ∧
          (∀ region, report.region = some region ↔
            drawn.state = .done ∧ regionOf drawn = .ok region) ∧
          ∀ env path file, env.drawn file = .ok drawn →
            report.region.map (fun region => printed region.toJson)
              = if drawn.state = .done then
                  (execute env path settings (.region file)).toOption
                else none) := by
  have hshown := shown_of_extent hwidth hheight
  constructor
  · refine ⟨_, created? drawn supply, simulate_of_shown settings supply hshown, rfl, ?_, ?_, ?_⟩
    · rw [← told?_eq]
      rfl
    · intro element
      exact created?_eq_some
    · rintro env path file hread rfl
      rw [execute_convert path settings hread, created?]
      split
      · rw [Option.map_map]
        rfl
      · rfl
  · intro hkind
    refine ⟨_, simulate_region_of_shown settings supply hshown hkind, rfl, ?_, ?_⟩
    · intro region
      show region? drawn = some region ↔ _
      unfold region?
      split
      · cases regionOf drawn <;> simp_all [Except.toOption]
      · simp_all
    · intro env path file hread
      show (region? drawn).map _ = _
      rw [execute_region path settings hread hkind, region?]
      split <;> rfl

/-- A square of ten pixels. -/
def square : Drawn :=
  { kind := .rectangle, coordinates := [⟨0.0, 0.0⟩, ⟨10.0, 0.0⟩, ⟨10.0, 10.0⟩, ⟨0.0, 10.0⟩] }

/-- On an image of 1000 by 700 pixels a simulation finds the region of the square. -/
theorem simulate_agrees_of_square :
    let image : ImageOptions := { width := 1000, height := 700 }
    (image.width ≠ 0 ∧ image.height ≠ 0) ∧ square.kind = .rectangle ∧
      ∃ report, simulate {} image square true ⟨fun _ => 0, 0⟩ = .ok report ∧
        report.events = [.imageRendered "image" 1000 700] ∧
        report.region = some ⟨0, 0, 10, 10⟩ := by
  intro image
  have hwidth : image.width ≠ 0 := by decide
  have hheight : image.height ≠ 0 := by decide
  obtain ⟨report, hreport, hevents, hregion, -⟩ :=
    (simulate_agrees {} image square ⟨fun _ => 0, 0⟩ hwidth hheight).2 rfl
  have hsquare : regionOf square = .ok ⟨0, 0, 10, 10⟩ := by decide +kernel
  exact ⟨⟨hwidth, hheight⟩, rfl, report, hreport, hevents, (hregion _).2 ⟨rfl, hsquare⟩⟩

end Simulation

end ImageOverlay
