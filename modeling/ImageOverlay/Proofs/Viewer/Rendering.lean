import ImageOverlay.Proofs.Tile.Levels
import ImageOverlay.Proofs.Viewer.Completion

set_option autoImplicit false

/-!
# Putting the image on the map

To render is to build a map, unless there is one already, something is still missing, or the map
library refuses. `Viewer.Rendering` says what a call comes to in each of these cases. In all but one
of them the library is all that can have changed, and a map that was begun is torn down again.

The application is told of the image when it gets onto the map. A run may render many times, in vain
or again after the end of a map, and with another image each time; what the application is told are
the images of exactly those operations that take the viewer from having no map to having one
(`Viewer.run_images`), which are read off the viewers before and after (`Viewer.appearances`).
-/

namespace ImageOverlay

/-! ## What is told of images -/

/-- What the application is told when an image is on the map. -/
def ImageSource.notice (image : ImageSource) : Notification :=
  .imageRendered image.item image.info.sizeX image.info.sizeY

/-- Whether a notification is about an image. -/
def Notification.isImage : Notification → Bool
  | .annotationCreated _ _ => false
  | .imageRendered _ _ _ => true

/-- The images the application was told of. -/
def Bus.images (b : Bus) : List Notification := b.published.filter (·.isImage)

/-- What is told of an answer is not about an image. -/
theorem Bus.tell_images (b : Bus) (options : DrawOptions) (r : DrawResult) :
    (b.tell (r.notice? options)).listening = b.listening ∧
      (b.tell (r.notice? options)).images = b.images := by
  have hpublish : ∀ element drawn,
      (b.publish (.annotationCreated element drawn)).listening = b.listening ∧
        (b.publish (.annotationCreated element drawn)).images = b.images := by
    intro element drawn
    unfold Bus.publish Bus.images
    cases hlistening : b.listening <;> simp [hlistening, Notification.isImage]
  cases r with
  | error e => exact ⟨rfl, rfl⟩
  | ok outcome =>
      rw [DrawResult.notice?]
      cases options.trigger with
      | false => exact ⟨rfl, rfl⟩
      | true => exact hpublish outcome.element outcome.drawn

theorem Bus.publish_images (b : Bus) (image : ImageSource) :
    (b.publish image.notice).listening = b.listening ∧
      (b.publish image.notice).images
        = b.images ++ if b.listening then [image.notice] else [] := by
  unfold Bus.publish Bus.images
  cases hlistening : b.listening <;> simp [hlistening, ImageSource.notice, Notification.isImage]

/-! ## Maps of images -/

/-- **A map of an image is refused only where a fault is armed.** No side of an image counts as
less than one pixel, so no such map is without an extent. -/
theorem MapLibrary.createMap_ofImage (nodeWidth nodeHeight : UInt32) (info : TileInfo)
    (url : TileAddress) (l : MapLibrary) :
    (∃ e, l.armed? .createMap = some e ∧
        l.createMap (.ofImage nodeWidth nodeHeight info url) = (.error e, l.disarm .createMap))
      ∨ (l.armed? .createMap = none ∧ ∃ width height maxLevel,
          l.createMap (.ofImage nodeWidth nodeHeight info url)
            = (.ok {}, l.record (.createMap width height maxLevel))) := by
  unfold createMap fault?
  cases harmed : l.armed? .createMap with
  | some e =>
      have hlookup : l.faults.lookup .createMap = some e := harmed
      rw [hlookup]
      exact .inl ⟨e, rfl, rfl⟩
  | none =>
      have hlookup : l.faults.lookup .createMap = none := harmed
      have hextent : ¬ ((MapParams.ofImage nodeWidth nodeHeight info url).maxBounds.right ≤ 0.0 ∨
          (MapParams.ofImage nodeWidth nodeHeight info url).maxBounds.bottom ≤ 0.0) := by
        rintro (h | h)
        · exact Levels.toFloat_pos (Levels.atLeastOne_ne_zero info.sizeX) h
        · exact Levels.toFloat_pos (Levels.atLeastOne_ne_zero info.sizeY) h
      rw [hlookup, Option.map_none]
      simp only [if_neg hextent]
      exact .inr ⟨trivial, _, _, _, rfl⟩

namespace Viewer

variable {v : Viewer}

/-- Calls that leave no map behind: none at all, or the beginning and the end of a map. -/
def Undone (calls : List Call) : Prop :=
  calls = [] ∨ ∃ width height maxLevel, calls = [.createMap width height maxLevel, .teardown]

/-- The map of an image is not built only where one of the two calls it takes is refused. -/
theorem build_ofImage (nodeWidth nodeHeight : UInt32) (info : TileInfo) (url : TileAddress)
    (l : MapLibrary) :
    (∃ e library calls, build (.ofImage nodeWidth nodeHeight info url) l = (.error e, library) ∧
        (l.armed? .createMap = some e ∨ l.armed? .createLayer = some e) ∧
        library.log = l.log ++ calls ∧ Undone calls)
      ∨ ∃ map library,
        build (.ofImage nodeWidth nodeHeight info url) l = (.ok map, library) := by
  unfold build
  rcases l.createMap_ofImage nodeWidth nodeHeight info url with
    ⟨e, harmed, heq⟩ | ⟨-, width, height, maxLevel, heq⟩
  · rw [heq]
    exact .inl ⟨e, _, [], rfl, .inl harmed, (List.append_nil _).symm, .inl rfl⟩
  · rw [heq]
    simp only
    -- A fault for the layer that was armed before the map was built is still armed then.
    cases harmed : l.armed? .createLayer with
    | some e =>
        have hrefusal : Viewport.creationRefusal?
            { library := l.record (.createMap width height maxLevel) } = some e := by
          show (l.armed? .createLayer).or none = some e
          rw [harmed, Option.some_or]
        rw [Viewport.createLayer_of_refused hrefusal]
        refine .inl ⟨e, _, _, rfl, .inr rfl, ?_, .inr ⟨width, height, maxLevel, rfl⟩⟩
        show (l.log ++ [.createMap width height maxLevel]) ++ [.teardown] = _
        rw [List.append_assoc]
        rfl
    | none =>
        have hgranted : Viewport.creationRefusal?
            { library := l.record (.createMap width height maxLevel) } = none := by
          show (l.armed? .createLayer).or none = none
          rw [harmed, Option.none_or]
        rw [Viewport.createLayer_of_granted hgranted]
        exact .inr ⟨_, _, rfl⟩

/-! ## One call -/

/-- What a call of `render` comes to. -/
inductive Rendering (v : Viewer) : Prop where
  | there (hmap : v.isRendered = true) (heq : v.render = (.ok true, v))
  | deferred (hmap : v.isRendered = false)
      (hmissing : v.attached = false ∨ v.image.filter (·.info.isUsable) = none)
      (heq : v.render = (.ok false, v))
  | refused (hmap : v.isRendered = false) (e : ViewportError) (library : MapLibrary)
      (calls : List Call) (heq : v.render = (.error e, { v with library }))
      (harmed : v.library.armed? .createMap = some e ∨ v.library.armed? .createLayer = some e)
      (hlog : library.log = v.library.log ++ calls) (hundone : Undone calls)
  | built (hmap : v.isRendered = false) (image : ImageSource) (himage : v.image = some image)
      (map : MapState) (library : MapLibrary)
      (heq : v.render
        = (.ok true, { v with library, map := some map, bus := v.bus.publish image.notice }))

theorem render_rendering (v : Viewer) : Rendering v := by
  cases hmap : v.isRendered with
  | true => exact .there hmap (by rw [render, if_pos hmap])
  | false =>
      cases hsource : v.image.filter (·.info.isUsable) with
      | none =>
          refine .deferred hmap (.inr hsource) ?_
          rw [render, hmap, if_neg Bool.false_ne_true]
          simp only [hsource]
      | some image =>
          have himage : v.image = some image := (Option.filter_eq_some_iff.1 hsource).1
          by_cases hattached : v.attached = true
          · rcases build_ofImage v.settings.tiles.nodeWidth v.settings.tiles.nodeHeight image.info
              (v.settings.tileAddress image.item) v.library with
              ⟨e, library, calls, heq, harmed, hlog, hundone⟩ | ⟨map, library, heq⟩
            · refine .refused hmap e library calls ?_ harmed hlog hundone
              rw [render, hmap, if_neg Bool.false_ne_true]
              simp only [hsource, if_pos hattached, Settings.mapParams, heq]
            · refine .built hmap image himage map library ?_
              rw [render, hmap, if_neg Bool.false_ne_true]
              simp only [hsource, if_pos hattached, Settings.mapParams, heq]
              rfl
          · refine .deferred hmap (.inl (Bool.not_eq_true _ ▸ hattached)) ?_
            rw [render, hmap, if_neg Bool.false_ne_true]
            simp only [hsource, if_neg hattached]

/-- **A viewer that renders all or nothing.** -/
structure Renders (v : Viewer) : Prop where
  /-- There is a map afterwards, or the library is all that can have changed, and nothing is left
  of a map that was begun. -/
  outcome : v.render.1 = .ok true ∧ v.render.2.isRendered = true ∨
    v.render.1 ≠ .ok true ∧ v.render.2.isRendered = false ∧
      v.render.2 = { v with library := v.render.2.library } ∧
      ∃ calls, v.render.2.library.log = v.library.log ++ calls ∧ Undone calls
  /-- The application is told of the image that gets onto the map, and of nothing otherwise. -/
  told : v.isRendered = false ∧ v.render.2.isRendered = true ∧
      (∃ image, v.image = some image ∧ v.render.2.bus = v.bus.publish image.notice) ∨
    v.render.2.isRendered = v.isRendered ∧ v.render.2.bus = v.bus
  /-- A map that is there stays, whatever was attached or chosen since. -/
  stays : v.isRendered = true → ∀ library attached image,
    render { v with library, attached, image } = (.ok true, { v with library, attached, image })
  /-- No error is the map library's own. -/
  armed : ∀ e, v.render.1 = .error e →
    v.library.armed? .createMap = some e ∨ v.library.armed? .createLayer = some e
  /-- With a map library, an image that can be used and no fault armed there is a map. -/
  succeeds : v.attached = true → v.image.filter (·.info.isUsable) ≠ none →
    v.library.armed? .createMap = none → v.library.armed? .createLayer = none →
      v.render.1 = .ok true

theorem renders (v : Viewer) : Renders v := by
  have hstays : v.isRendered = true → ∀ library attached image,
      render { v with library, attached, image }
        = (.ok true, { v with library, attached, image }) :=
    fun hmap _ _ _ => if_pos hmap
  cases render_rendering v with
  | there hmap heq =>
      refine ⟨.inl ?_, .inr ?_, hstays, ?_, fun _ _ _ _ => by rw [heq]⟩
      · rw [heq]
        exact ⟨rfl, hmap⟩
      · rw [heq]
        exact ⟨rfl, rfl⟩
      · rw [heq]
        exact nofun
  | deferred hmap hmissing heq =>
      refine ⟨.inr ?_, .inr ?_, hstays, ?_, ?_⟩
      · rw [heq]
        exact ⟨nofun, hmap, rfl, [], (List.append_nil _).symm, .inl rfl⟩
      · rw [heq]
        exact ⟨rfl, rfl⟩
      · rw [heq]
        exact nofun
      · intro hattached hsource _ _
        rcases hmissing with hmissing | hmissing
        · rw [hattached] at hmissing
          cases hmissing
        · exact absurd hmissing hsource
  | refused hmap e library calls heq harmed hlog hundone =>
      refine ⟨.inr ?_, .inr ?_, hstays, ?_, ?_⟩
      · rw [heq]
        exact ⟨nofun, hmap, rfl, calls, hlog, hundone⟩
      · rw [heq]
        exact ⟨rfl, rfl⟩
      · rw [heq]
        intro e' he'
        cases he'
        exact harmed
      · intro _ _ hmap' hlayer'
        rw [hmap', hlayer'] at harmed
        rcases harmed with harmed | harmed <;> cases harmed
  | built hmap image himage map library heq =>
      refine ⟨.inl ?_, .inl ?_, hstays, ?_, fun _ _ _ _ => by rw [heq]⟩
      · rw [heq]
        exact ⟨rfl, rfl⟩
      · rw [heq]
        exact ⟨hmap, rfl, image, himage, rfl⟩
      · rw [heq]
        exact nofun

/-! ## Every operation, and every run -/

variable {op : Operation}

/-- Only `render` builds a map. -/
theorem perform_isRendered (hop : op ≠ .render) (hmap : v.isRendered = false) :
    (v.perform op).isRendered = false := by
  have hnone : v.map = none := Option.isSome_eq_false_iff.1 hmap |> Option.isNone_iff_eq_none.1
  have hstart : ∀ shape options, (v.startDrawing shape options).2.map = none := by
    intro shape options
    simp only [startDrawing, hnone]
  have hretire : v.retireLayers.2.map = none := by simp only [retireLayers, hnone]
  refine Option.isSome_eq_false_iff.2 (Option.isNone_iff_eq_none.2 ?_)
  cases op with
  | render => exact absurd rfl hop
  | attach | setImage | poll | dropRequest | arm => exact hnone
  | addOverlay d => simp only [perform, Viewer.renderAnnotation, hnone]
  | removeOverlay id => simp only [perform, Viewer.unrenderAnnotation, hnone]
  | clearOverlays => simp only [perform, clearAnnotations, hnone]
  | startDrawing shape options => exact hstart shape options
  | drawRegion slot =>
      obtain ⟨slots, heq⟩ := drawRegion_eq slot v
      rw [perform, heq]
      exact hstart _ _
  | pollRegion r =>
      obtain ⟨slots, heq⟩ := pollRegion_eq v r
      rw [perform, heq]
      exact hnone
  | handle e =>
      cases e with
      | annotationChanged layer drawn => exact hnone
      | drawPassComplete =>
          simp only [perform, handle]
          split
          · exact hretire
          · exact hnone
  | cancelDrawing => simp only [perform, cancelDrawing, hnone]
  | retireLayers => exact hretire
  | destroy => exact destroy_map v
  | drop => exact drop_map v

/-- Only `render` tells the application of images. -/
theorem perform_images (hop : op ≠ .render) :
    (v.perform op).bus.listening = v.bus.listening ∧ (v.perform op).bus.images = v.bus.images := by
  by_cases hmute : op.IsMute
  · rw [(perform_frame hmute).2]
    exact ⟨rfl, rfl⟩
  · obtain ⟨layer, drawn, rfl⟩ := (Operation.not_isMute.1 hmute).resolve_left hop
    show (v.draw.annotationChanged layer drawn v.bus v.supply).2.2.1.listening = v.bus.listening ∧
      (v.draw.annotationChanged layer drawn v.bus v.supply).2.2.1.images = v.bus.images
    cases hcompleted : v.draw.completed? layer drawn with
    | none =>
        rw [DrawMode.annotationChanged_eq_self (DrawMode.completed?_eq_none.1 hcompleted)]
        exact ⟨rfl, rfl⟩
    | some s =>
        obtain ⟨supply', heq⟩ := DrawMode.annotationChanged_completed hcompleted v.bus v.supply
        rw [heq]
        exact v.bus.tell_images s.options (drawn.answer v.supply)

/-- Whether the image gets onto the map with an operation. -/
def Appears (v : Viewer) (op : Operation) : Prop :=
  v.isRendered = false ∧ (v.perform op).isRendered = true

instance (v : Viewer) (op : Operation) : Decidable (v.Appears op) :=
  inferInstanceAs (Decidable (_ ∧ _))

/-- The viewers of a run whose image gets onto the map with the next operation. -/
def appearances (v : Viewer) : List Operation → List Viewer
  | [] => []
  | op :: ops => (if v.Appears op then [v] else []) ++ (v.perform op).appearances ops

/-- Two maps, one after the other, and calls in vain before, between and after them. -/
example : (appearances { supply := { bits := fun _ => 0 } } (.render :: opening ++
    [.arm .createLayer .tornDown, .destroy, .render, .render, .render])).length = 2 := by
  decide +kernel

/-- What is told of the image of a viewer. -/
def notice? (v : Viewer) : Option Notification := v.image.map ImageSource.notice

/-- **One operation** tells the application of the image it puts on the map, and of no other. -/
theorem perform_appears (v : Viewer) (op : Operation) :
    (v.Appears op → ∃ notice, v.notice? = some notice) ∧
      (v.perform op).bus.listening = v.bus.listening ∧
      (v.perform op).bus.images = v.bus.images ++
        if v.bus.listening then (if v.Appears op then [v] else []).filterMap notice? else [] := by
  by_cases hop : op = .render
  · subst hop
    show (v.Appears .render → _) ∧ v.render.2.bus.listening = _ ∧ v.render.2.bus.images = _
    rcases (renders v).told with ⟨hmap, hmap', image, himage, hbus⟩ | ⟨hmap, hbus⟩
    · have hnotice : v.notice? = some image.notice := by
        rw [notice?, himage, Option.map_some]
      obtain ⟨hlistening, himages⟩ := v.bus.publish_images image
      have happears : v.Appears .render := ⟨hmap, hmap'⟩
      rw [hbus, if_pos happears, List.filterMap_cons_some hnotice]
      exact ⟨fun _ => ⟨_, hnotice⟩, hlistening, himages⟩
    · have hnot : ¬ v.Appears .render := by
        rintro ⟨hbefore, hafter⟩
        rw [show (v.perform .render).isRendered = v.isRendered from hmap, hbefore] at hafter
        cases hafter
      rw [hbus, if_neg hnot]
      exact ⟨fun h => absurd h hnot, rfl, by simp⟩
  · have hnot : ¬ v.Appears op := by
      rintro ⟨hbefore, hafter⟩
      rw [perform_isRendered hop hbefore] at hafter
      cases hafter
    obtain ⟨hlistening, himages⟩ := perform_images (v := v) hop
    rw [if_neg hnot, himages]
    exact ⟨fun h => absurd h hnot, hlistening, by simp⟩

/-- **What a run tells the application of images** are the images that get onto the map in it. -/
theorem run_images (v : Viewer) (ops : List Operation) :
    (v.run ops).bus.images
      = v.bus.images ++ if v.bus.listening then (v.appearances ops).filterMap notice? else [] := by
  induction ops generalizing v with
  | nil => simp [appearances]
  | cons op ops ih =>
      obtain ⟨-, hlistening, himages⟩ := perform_appears v op
      rw [run_cons, ih, himages, hlistening, appearances, List.filterMap_append]
      cases v.bus.listening <;> simp

theorem exists_notice_of_mem_appearances {ops : List Operation} {w : Viewer}
    (hw : w ∈ v.appearances ops) : ∃ notice, w.notice? = some notice := by
  induction ops generalizing v with
  | nil => cases hw
  | cons op ops ih =>
      rw [appearances, List.mem_append] at hw
      rcases hw with hw | hw
      · rw [List.mem_ite_nil_right, List.mem_singleton] at hw
        obtain ⟨happears, rfl⟩ := hw
        exact (perform_appears w op).1 happears
      · exact ih hw

/-- As many images are told of as get onto the map. -/
theorem length_notices (v : Viewer) (ops : List Operation) :
    ((v.appearances ops).filterMap notice?).length = (v.appearances ops).length := by
  rw [List.filterMap_length_eq_length]
  intro w hw
  obtain ⟨notice, hnotice⟩ := exists_notice_of_mem_appearances hw
  rw [hnotice]
  rfl

/-- **Images are put on the map all or nothing, and told of once for each time.** At any time of any
run, a call of `render` leads to a map or leaves nothing behind, whatever image was chosen and
whatever faults are armed. What the application has been told of images are those that got onto the
map, one for one and in order. Nothing but `render` puts an image on the map or tells of one. -/
theorem rendered_run (settings : Settings) (supply : Identity.Supply)
    (drains : DrainOrders) (bus : Bus) (ops : List Operation) :
    let v := fresh settings supply drains bus
    Renders (v.run ops) ∧
      (v.run ops).bus.images
        = bus.images ++ (if bus.listening then (v.appearances ops).filterMap notice? else []) ∧
      (v.run ops).bus.images.length
        = bus.images.length + (if bus.listening then (v.appearances ops).length else 0) ∧
      (∀ (w : Viewer) (op : Operation), op ≠ .render →
        ¬ w.Appears op ∧ (w.perform op).bus.images = w.bus.images) ∧
      ∀ (nodeWidth nodeHeight : UInt32) (info : TileInfo) (url : TileAddress) (l : MapLibrary) e,
        (l.createMap (.ofImage nodeWidth nodeHeight info url)).1 = .error e →
          l.armed? .createMap = some e := by
  intro v
  have himages := run_images v ops
  refine ⟨renders _, himages, ?_, ?_, ?_⟩
  · rw [himages, List.length_append]
    show _ = bus.images.length + _
    have hlistening : v.bus.listening = bus.listening := rfl
    rw [hlistening, ← length_notices]
    cases bus.listening <;> rfl
  · intro w op hop
    refine ⟨?_, (perform_images hop).2⟩
    rintro ⟨hbefore, hafter⟩
    rw [perform_isRendered hop hbefore] at hafter
    cases hafter
  · intro nodeWidth nodeHeight info url l e he
    rcases l.createMap_ofImage nodeWidth nodeHeight info url with
      ⟨e', harmed, heq⟩ | ⟨-, width, height, maxLevel, heq⟩
    · rw [heq] at he
      cases he
      exact harmed
    · rw [heq] at he
      cases he

end Viewer

end ImageOverlay
