import ImageOverlay.Proofs.Draw.Likeness
import ImageOverlay.CommandLine.Run

set_option autoImplicit false

/-!
# What a simulation reports

A simulation is a session from end to end: the image is put on a map, one session starts, a shape is
drawn, and everything is shut down. There are two ways through it, according to the drawing. One
that is done ends the session with an answer, and the layer of the session is deleted at the end
of the turn or at the shutdown, as the settings say; any other drawing is ignored, and the session
is cancelled at the shutdown. Either way the report can be told beforehand: `simulate_of_shown` and
`simulate_region_of_shown` give it as a function of the image and the drawing.

The settings do not occur in it. `simulate_settings` says so for two runs of the same drawing.
-/

namespace ImageOverlay

open CommandLine (ImageOptions)

/-- A report without an identity that was made up. -/
def SimulationReport.anonymous (r : SimulationReport) : SimulationReport :=
  { r with events := r.events.map Notification.anonymous }

namespace Simulation

variable (settings : Settings) (image : ImageOptions) (supply : Identity.Supply)
variable (shape : ShapeKind) (options : DrawOptions) (task : Task) (slots : RegionSlots)
variable (drawn : Drawn)

/-! ## The stations of a simulation -/

/-- The call that builds the map of an image. -/
def mapCall : Call :=
  let params := MapParams.ofImage 1 1 image.info ⟨""⟩
  .createMap params.maxBounds.right params.maxBounds.bottom params.maxLevel

/-- A map with its tiles, before anything is drawn on it. -/
def tiles : MapState := { layers := [(⟨1⟩, { kind := .tile })], nextLayer := 2 }

/-- What the application is told of the image. -/
def shown : Notification := .imageRendered image.item image.width image.height

/-- The viewer with the image on its map. -/
def mapped : Viewer :=
  { settings
    library := { log := [mapCall image, .createLayer ⟨1⟩ .tile, .draw] }
    attached := true
    image := some ⟨image.item, image.info⟩
    map := some tiles
    bus := { published := [shown image] }
    supply }

/-- The only session. -/
def session : DrawSession :=
  { shape, layer := ⟨2⟩, subscription := ⟨1⟩, options, request := ⟨0⟩ }

/-- The viewer while the session waits. -/
def drawing : Viewer :=
  { mapped settings image supply with
    library.log := (mapped settings image supply).library.log ++
      [.createLayer ⟨2⟩ .annotationDraw, .setInteractionMode ⟨2⟩ (some shape), .subscribe ⟨2⟩ ⟨1⟩]
    map := some (tiles.addDrawing shape)
    draw :=
      { active := some (session shape options)
        requests := { next := 1, held := [(⟨0⟩, none)] } }
    slots }

/-- The loop while the session waits, and a task for its answer. -/
def awaiting : Loop :=
  { viewer := drawing settings image supply shape options slots, waiting := [task] }

/-- The loop after the drawing and the end of everything. -/
def ending (l : Loop) : Loop :=
  ((l.sendEvent (.annotationChanged ⟨2⟩ drawn)).dispatch.sendCommand .shutdown).run

/-- Every call to the map, from its construction to its end. A drawing that is done leaves no shape
to be cancelled. -/
def calls : List Call :=
  [mapCall image, .createLayer ⟨1⟩ .tile, .draw, .createLayer ⟨2⟩ .annotationDraw,
    .setInteractionMode ⟨2⟩ (some shape), .subscribe ⟨2⟩ ⟨1⟩] ++
  (if drawn.state = .done then [] else [.setInteractionMode ⟨2⟩ none]) ++
  [.unsubscribe ⟨1⟩, .deleteLayer ⟨2⟩, .teardown]

/-- The slots after a task has got its answer. -/
def delivered (r : DrawResult) : RegionSlots :=
  match task, r.region with
  | .region q, .ok region => slots.put q.slot region
  | _, _ => slots

variable {drawn task}

theorem dispatch_start :
    ((Loop.sendCommand (.startDrawing shape (some options))
      { viewer := mapped settings image supply }).dispatch)
    = awaiting settings image supply shape options (.shape ⟨0⟩) {} := by
  rfl

theorem dispatch_region (slot : SlotId) :
    ((Loop.sendCommand (.drawRegion (some slot))
      { viewer := { mapped settings image supply with slots } }).dispatch)
    = awaiting settings image supply .rectangle .silent (.region ⟨⟨0⟩, slot⟩) slots := by
  rfl

theorem drawn?_awaiting :
    drawn? drawn (awaiting settings image supply shape options task slots)
      = some (ending drawn (awaiting settings image supply shape options task slots)) := by
  rfl

/-- A turn with one event and no command. -/
theorem dispatch_event {l : Loop} (hevents : l.events = []) (hcommands : l.commands = [])
    {e : ViewportEvent} {retire : Bool} {viewer : Viewer}
    (h : l.viewer.handle e = (retire, viewer)) :
    (l.sendEvent e).dispatch =
      (Loop.endTurn
        { Loop.runTasks { l with viewer } with
          retireScheduled :=
            (Loop.runTasks { l with viewer }).retireScheduled || retire }).runTasks := by
  obtain ⟨v, events, commands, waiting, finished, retireScheduled, shouldExit⟩ := l
  obtain rfl : events = [] := hevents
  obtain rfl : commands = [] := hcommands
  have h' : v.handle e = (retire, viewer) := h
  simp only [Loop.dispatch, Loop.sendEvent, List.nil_append, List.foldl_cons, List.foldl_nil,
    Loop.handleEvent]
  rw [h']

/-! ## A drawing that is done -/

/-- The requests with one answer that nobody has taken. -/
def answered (r : DrawResult) : Requests := { next := 1, held := [(⟨0⟩, some r)] }

theorem poll_answered {v : Viewer} {r : DrawResult} (h : v.draw.requests = answered r) :
    v.poll ⟨0⟩ = (.ready r, { v with draw.requests := { next := 1 } }) := by
  unfold Viewer.poll
  rw [h]
  rfl

theorem pollRegion_answered {v : Viewer} {r : DrawResult} (h : v.draw.requests = answered r)
    (slot : SlotId) :
    v.pollRegion ⟨⟨0⟩, slot⟩
      = (.ready r.region,
          { v with
            draw.requests := { next := 1 }
            slots := delivered (.region ⟨⟨0⟩, slot⟩) v.slots r }) := by
  unfold Viewer.pollRegion delivered
  rw [poll_answered h]
  simp only [Poll.map]
  cases r.region <;> rfl

/-- The one task takes the answer to the one request. -/
theorem runTasks_answered {l : Loop} {r : DrawResult} (hwaiting : l.waiting = [task])
    (htask : task.request = ⟨0⟩) (hrequests : l.viewer.draw.requests = answered r) :
    ∃ finished, l.runTasks
      = { l with
          viewer :=
            { l.viewer with
              draw.requests := { next := 1 }
              slots := delivered task l.viewer.slots r }
          waiting := []
          finished } := by
  unfold Loop.runTasks
  rw [hwaiting, List.foldl_cons, List.foldl_nil]
  unfold Loop.runTask
  cases task with
  | shape request =>
      obtain rfl : request = ⟨0⟩ := htask
      simp only [poll_answered hrequests]
      exact ⟨_, rfl⟩
  | region q =>
      obtain ⟨request, slot⟩ := q
      obtain rfl : request = ⟨0⟩ := htask
      simp only [pollRegion_answered hrequests]
      exact ⟨_, rfl⟩

/-- The viewer when the drawing has ended the session. -/
def concluded (drawn : Drawn) (supply' : Identity.Supply) : Viewer :=
  { drawing settings image supply shape options slots with
    draw := { retiring := [⟨⟨2⟩, ⟨1⟩⟩], requests := answered (drawn.answer supply) }
    bus := (mapped settings image supply).bus.tell ((drawn.answer supply).notice? options)
    supply := supply' }

theorem handle_done (hdone : drawn.state = .done) : ∃ supply',
    (drawing settings image supply shape options slots).handle (.annotationChanged ⟨2⟩ drawn)
      = (settings.draw.retireOn == .nextTurn,
          concluded settings image supply shape options slots drawn supply') :=
  Viewer.handle_completed (v := drawing settings image supply shape options slots)
    (s := session shape options) rfl hdone

/-- The layer of the session goes at the end of the turn or at the shutdown, but it goes. -/
theorem report_ending_done (hdone : drawn.state = .done) (htask : task.request = ⟨0⟩)
    (slot : Option SlotId) :
    report slot (ending drawn (awaiting settings image supply shape options task slots))
      = { events := shown image :: ((drawn.answer supply).notice? options).toList
          region := slot.bind fun s => (delivered task slots (drawn.answer supply)).region? s
          calls := calls image shape drawn } := by
  obtain ⟨supply', h⟩ := handle_done settings image supply shape options slots hdone
  have hturn := dispatch_event
    (l := awaiting settings image supply shape options task slots) rfl rfl h
  obtain ⟨finished, hanswered⟩ := runTasks_answered
    (l := { awaiting settings image supply shape options task slots with
      viewer := concluded settings image supply shape options slots drawn supply' }) rfl htask rfl
  rw [ending, hturn, hanswered, calls, if_pos hdone]
  unfold concluded
  -- When the layer goes depends on the settings; what was told in between only has a length.
  generalize (drawn.answer supply).notice? options = notice
  cases settings.draw.retireOn <;> cases notice <;> rfl

/-! ## A drawing that is not done -/

theorem handle_undone (hundone : drawn.state ≠ .done) :
    (drawing settings image supply shape options slots).handle (.annotationChanged ⟨2⟩ drawn)
      = (false, drawing settings image supply shape options slots) := by
  simp only [Viewer.handle]
  rw [DrawMode.annotationChanged_eq_self fun _ _ _ => hundone]
  rfl

/-- A task does not go on without an answer. -/
theorem runTasks_awaiting (htask : task.request = ⟨0⟩) :
    (awaiting settings image supply shape options task slots).runTasks
      = awaiting settings image supply shape options task slots := by
  cases task with
  | shape request =>
      obtain rfl : request = ⟨0⟩ := htask
      rfl
  | region q =>
      obtain ⟨request, slot⟩ := q
      obtain rfl : request = ⟨0⟩ := htask
      rfl

/-- So the turn leaves everything as it was. -/
theorem dispatch_undone (hundone : drawn.state ≠ .done) (htask : task.request = ⟨0⟩) :
    ((awaiting settings image supply shape options task slots).sendEvent
      (.annotationChanged ⟨2⟩ drawn)).dispatch
        = awaiting settings image supply shape options task slots := by
  have h := handle_undone settings image supply shape options slots hundone
  rw [dispatch_event (l := awaiting settings image supply shape options task slots) rfl rfl h]
  have hwaits := runTasks_awaiting settings image supply shape options slots htask
  show (Loop.endTurn
    { Loop.runTasks (awaiting settings image supply shape options task slots) with
      retireScheduled := (Loop.runTasks
        (awaiting settings image supply shape options task slots)).retireScheduled || false
    }).runTasks = _
  rw [hwaits]
  exact hwaits

/-- The session is cancelled at the shutdown. -/
theorem report_ending_undone (hundone : drawn.state ≠ .done) (htask : task.request = ⟨0⟩)
    (slot : Option SlotId) :
    report slot (ending drawn (awaiting settings image supply shape options task slots))
      = { events := [shown image]
          region := slot.bind fun s => slots.region? s
          calls := calls image shape drawn } := by
  rw [ending, dispatch_undone settings image supply shape options slots hundone htask, calls,
    if_neg hundone]
  cases task with
  | shape request =>
      obtain rfl : request = ⟨0⟩ := htask
      rfl
  | region q =>
      obtain ⟨request, slot⟩ := q
      obtain rfl : request = ⟨0⟩ := htask
      rfl

/-! ## The image on its map -/

/-- Whether an image can be put on a map: a tile server could serve it, and it has an extent. -/
def Shown (image : ImageOptions) : Prop :=
  image.info.isUsable = true ∧
    ¬ ((atLeastOne image.width).toFloat ≤ 0.0 ∨ (atLeastOne image.height).toFloat ≤ 0.0)

theorem build_eq :
    Viewer.build (settings.mapParams image.item image.info) {}
      = if (atLeastOne image.width).toFloat ≤ 0.0 ∨ (atLeastOne image.height).toFloat ≤ 0.0 then
          (.error (.mapConstruction "image has no extent"), {})
        else (.ok tiles, { log := [mapCall image, .createLayer ⟨1⟩ .tile, .draw] }) := by
  have hmap : MapLibrary.createMap (settings.mapParams image.item image.info) {}
      = if (atLeastOne image.width).toFloat ≤ 0.0 ∨ (atLeastOne image.height).toFloat ≤ 0.0 then
          (.error (.mapConstruction "image has no extent"), {})
        else (.ok {}, { log := [mapCall image] }) := rfl
  unfold Viewer.build
  rw [hmap]
  by_cases hextent :
      (atLeastOne image.width).toFloat ≤ 0.0 ∨ (atLeastOne image.height).toFloat ≤ 0.0
  · simp only [if_pos hextent]
  · simp only [if_neg hextent]
    rfl

variable {image}

/-- The viewer that is asked to show the image. -/
def asked (settings : Settings) (image : ImageOptions) (supply : Identity.Supply) : Viewer :=
  { settings, attached := true, image := some ⟨image.item, image.info⟩, supply }

theorem rendered_viewer :
    rendered settings image supply = { viewer := (asked settings image supply).render.2 } := by
  rfl

theorem rendered_of_shown (h : Shown image) :
    rendered settings image supply = { viewer := mapped settings image supply } := by
  obtain ⟨husable, hextent⟩ := h
  have hfilter : (asked settings image supply).image.filter (·.info.isUsable)
      = some ⟨image.item, image.info⟩ := if_pos husable
  rw [rendered_viewer, Viewer.render, hfilter]
  simp only [asked, build_eq, if_neg hextent]
  rfl

theorem not_rendered_of_hidden (h : ¬ Shown image) :
    (rendered settings image supply).viewer.isRendered = false := by
  rw [rendered_viewer, Viewer.render]
  by_cases husable : image.info.isUsable = true
  · have hextent := Decidable.not_not.1 fun hextent => h ⟨husable, hextent⟩
    have hfilter : (asked settings image supply).image.filter (·.info.isUsable)
        = some ⟨image.item, image.info⟩ := if_pos husable
    rw [hfilter]
    simp only [asked, build_eq, if_pos hextent]
    rfl
  · have hfilter : (asked settings image supply).image.filter (·.info.isUsable) = none :=
      if_neg husable
    rw [hfilter]
    rfl

/-! ## The whole simulation -/

/-- What the application is told of a drawing, if it is done and stands for an element. -/
def told? (drawn : Drawn) (supply : Identity.Supply) : Option Notification :=
  if drawn.state = .done then (drawn.answer supply).notice? {} else none

/-- The region of a drawing, if it is done and has one. -/
def region? (drawn : Drawn) : Option Region :=
  if drawn.state = .done then (CommandLine.regionOf drawn).toOption else none

theorem region?_delivered (slot : SlotId) :
    (delivered (.region ⟨⟨0⟩, slot⟩) { next := 1 } (drawn.answer supply)).region? slot
      = (CommandLine.regionOf drawn).toOption := by
  have hanswer : (drawn.answer supply).region
      = (CommandLine.regionOf drawn).mapError DrawError.conversion := drawn.region_answer supply
  unfold delivered
  rw [hanswer]
  cases CommandLine.regionOf drawn with
  | error e => rfl
  | ok region =>
      show List.lookup slot ((slot, region) :: _) = some region
      rw [List.lookup_cons_self]

/-- What a simulation reports of an image and a drawing, whatever the settings are. -/
def foretold (image : ImageOptions) (drawn : Drawn) (supply : Identity.Supply) :
    (region : Bool) → SimulationReport
  | false =>
    { events := shown image :: (told? drawn supply).toList
      region := none
      calls := calls image drawn.kind drawn }
  | true =>
    { events := [shown image]
      region := region? drawn
      calls := calls image drawn.kind drawn }

/-- The image cannot be put on a map. -/
theorem simulate_of_hidden (h : ¬ Shown image) (region : Bool) :
    simulate settings image drawn region supply = .error .notRendered := by
  unfold simulate
  rw [if_neg]
  rw [not_rendered_of_hidden settings supply h]
  exact Bool.false_ne_true

/-- A region is only asked for where a rectangle is drawn. -/
theorem simulate_region_of_other (h : Shown image) (hkind : drawn.kind ≠ .rectangle) :
    simulate settings image drawn true supply = .error (.regionOfOther drawn.kind) := by
  unfold simulate
  rw [rendered_of_shown settings supply h]
  unfold request
  simp only [if_neg hkind]
  rfl

theorem simulate_of_shown (h : Shown image) :
    simulate settings image drawn false supply = .ok (foretold image drawn supply false) := by
  have hrequest : request false drawn { viewer := mapped settings image supply }
      = .ok (.startDrawing drawn.kind (some {}), none,
          { viewer := mapped settings image supply }) := rfl
  unfold simulate
  rw [rendered_of_shown settings supply h]
  simp only [hrequest, dispatch_start, drawn?_awaiting]
  by_cases hdone : drawn.state = .done
  · have htold : told? drawn supply = (drawn.answer supply).notice? {} := if_pos hdone
    rw [report_ending_done settings image supply _ _ _ hdone rfl, foretold, htold]
    rfl
  · have htold : told? drawn supply = none := if_neg hdone
    rw [report_ending_undone settings image supply _ _ _ hdone rfl, foretold, htold]
    rfl

theorem simulate_region_of_shown (h : Shown image) (hkind : drawn.kind = .rectangle) :
    simulate settings image drawn true supply = .ok (foretold image drawn supply true) := by
  have hrequest : request true drawn { viewer := mapped settings image supply }
      = .ok (.drawRegion (some ⟨0⟩), some ⟨0⟩,
          { viewer := { mapped settings image supply with slots := { next := 1 } } }) :=
    if_pos hkind
  unfold simulate
  rw [rendered_of_shown settings supply h]
  simp only [hrequest, dispatch_region, drawn?_awaiting]
  by_cases hdone : drawn.state = .done
  · have hregion : region? drawn = (CommandLine.regionOf drawn).toOption := if_pos hdone
    have hmute : ∀ r : DrawResult, r.notice? .silent = none := by
      rintro (e | outcome) <;> rfl
    rw [report_ending_done settings image supply _ _ _ hdone rfl, foretold, hregion, hkind, hmute,
      Option.bind_some, region?_delivered]
    rfl
  · have hregion : region? drawn = none := if_neg hdone
    rw [report_ending_undone settings image supply _ _ _ hdone rfl, foretold, hregion, hkind]
    rfl

/-- Either there is an error, or there is the report that was foretold, and it is the same for all
settings and all identities. -/
theorem simulate_cases (image : ImageOptions) (drawn : Drawn) (region : Bool) :
    (∃ e, ∀ settings supply, simulate settings image drawn region supply = .error e) ∨
      ∀ settings supply, simulate settings image drawn region supply
        = .ok (foretold image drawn supply region) := by
  by_cases hshown : Shown image
  · cases region with
    | false => exact .inr fun settings supply => simulate_of_shown settings supply hshown
    | true =>
        by_cases hkind : drawn.kind = .rectangle
        · exact .inr fun settings supply =>
            simulate_region_of_shown settings supply hshown hkind
        · exact .inl ⟨_, fun settings supply =>
            simulate_region_of_other settings supply hshown hkind⟩
  · exact .inl ⟨_, fun settings supply => simulate_of_hidden settings supply hshown region⟩

/-! ## Two simulations -/

theorem foretold_anonymous (image : ImageOptions) (drawn : Drawn) (region : Bool)
    (supply other : Identity.Supply) :
    (foretold image drawn supply region).anonymous
      = (foretold image drawn other region).anonymous := by
  have htold : (told? drawn supply).map Notification.anonymous
      = (told? drawn other).map Notification.anonymous := by
    unfold told?
    split
    · rw [DrawResult.notice?_anonymous, DrawResult.notice?_anonymous,
        Drawn.answer_anonymous drawn supply other]
    · rfl
  have hevents : (told? drawn supply).toList.map Notification.anonymous
      = (told? drawn other).toList.map Notification.anonymous := by
    rw [← Option.toList_map, htold, Option.toList_map]
  cases region with
  | false =>
      unfold foretold SimulationReport.anonymous
      simp only [List.map_cons, hevents]
  | true => rfl

end Simulation

/-- **The settings have no part in a simulation.** With the same bits for identities two
simulations of the same drawing are equal, with different ones they are equal but for an identity
that was made up, errors included. The calls to the map are the same in every simulation that
reports anything, but for the kind of the shape; whether the layer of the session goes at the end
of a turn, at the shutdown or by being cancelled leaves no trace but the call that ends the
drawing of a shape. -/
theorem simulate_settings (settings other : Settings) (image : ImageOptions) (drawn : Drawn)
    (region : Bool) (supply later : Identity.Supply) :
    simulate settings image drawn region supply = simulate other image drawn region supply ∧
      (simulate settings image drawn region supply).map SimulationReport.anonymous
        = (simulate other image drawn region later).map SimulationReport.anonymous ∧
      ∀ report, simulate settings image drawn region supply = .ok report →
        report.calls =
          [Simulation.mapCall image, .createLayer ⟨1⟩ .tile, .draw,
            .createLayer ⟨2⟩ .annotationDraw, .setInteractionMode ⟨2⟩ (some drawn.kind),
            .subscribe ⟨2⟩ ⟨1⟩] ++
          (if drawn.state = .done then [] else [.setInteractionMode ⟨2⟩ none]) ++
          [.unsubscribe ⟨1⟩, .deleteLayer ⟨2⟩, .teardown] := by
  rcases Simulation.simulate_cases image drawn region with ⟨e, herror⟩ | hok
  · simp only [herror]
    exact ⟨trivial, trivial, nofun⟩
  · simp only [hok]
    refine ⟨trivial, ?_, ?_⟩
    · exact congrArg Except.ok (Simulation.foretold_anonymous image drawn region supply later)
    · intro report hreport
      obtain rfl := Except.ok.inj hreport
      cases region <;> rfl

/-- A line that is left unfinished is reported the same whenever layers go: its session is cancelled
at the shutdown. -/
theorem simulate_settings_of_unfinished :
    let supply : Identity.Supply := ⟨fun _ => 0, 0⟩
    let image : ImageOptions := { width := 1000, height := 700 }
    let line : Drawn := { kind := .line, state := .create, coordinates := [⟨3.0, 4.0⟩] }
    let late : Settings := { draw := { retireOn := .drawPass } }
    ∃ report, simulate {} image line false supply = .ok report ∧
      simulate late image line false supply = .ok report ∧
      report.calls =
        [.createMap 1000.0 700.0 2, .createLayer ⟨1⟩ .tile, .draw,
          .createLayer ⟨2⟩ .annotationDraw, .setInteractionMode ⟨2⟩ (some .line),
          .subscribe ⟨2⟩ ⟨1⟩, .setInteractionMode ⟨2⟩ none, .unsubscribe ⟨1⟩, .deleteLayer ⟨2⟩,
          .teardown] := by
  intro supply image line late
  have hshown : Simulation.Shown image := ⟨by decide +kernel, by decide +kernel⟩
  have hok : simulate {} image line false supply
      = .ok (Simulation.foretold image line supply false) :=
    Simulation.simulate_of_shown {} supply hshown
  obtain ⟨hsame, -, hcalls⟩ := simulate_settings {} late image line false supply supply
  have hmap : Simulation.mapCall image = .createMap 1000.0 700.0 2 := by decide +kernel
  have hlist := hcalls _ hok
  rw [hmap] at hlist
  exact ⟨_, hok, hsame ▸ hok, hlist⟩

end ImageOverlay
