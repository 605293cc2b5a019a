import ImageOverlay.Proofs.Draw.Likeness
import ImageOverlay.Proofs.Viewport.Reordering

set_option autoImplicit false

/-!
# Viewers that cannot be told apart

Two viewers are like each other (`Viewer.Like`) if one of them has a history that the other one does
not have: calls on record, notifications, requests that were given out. In which order all layers of
annotations are deleted at once may be another one, too. Everything else is the same. Whatever is
asked of both, they give the same answers (`Viewer.response`), but for the numbers of requests and
for identities that are made up; they ask the same of the map (`Viewer.calls`), but for the order of
deletions; and they are like each other afterwards (`Viewer.Like.perform`, `Viewer.Like.run`).
-/

namespace ImageOverlay

/-! ## What a viewer answers -/

/-- What whoever asks something of a viewer gets for it. -/
inductive Response where
  | nothing
  | rendered (r : Except ViewportError Bool)
  | shown (r : Except ViewportError (Option LayerHandle))
  | flag (b : Bool)
  | count (n : Nat)
  | request (r : Except DrawError RequestId)
  | regionRequest (r : Except DrawError RegionRequest)
  | answer (a : Poll DrawResult)
  | region (a : Poll (Except DrawError Region))

/-- The same request for a region where other requests had been given out before. -/
def RegionRequest.later (earlier : Nat) (q : RegionRequest) : RegionRequest :=
  { q with request := q.request.later earlier }

/-- The same response. -/
def Response.later (earlier : Nat) : Response → Response
  | .request r => .request (r.map (·.later earlier))
  | .regionRequest r => .regionRequest (r.map (·.later earlier))
  | other => other

/-- The response without identities that were made up. -/
def Response.anonymous : Response → Response
  | .answer a => .answer (a.map DrawResult.anonymous)
  | other => other

/-- The same operation, on the requests that correspond. -/
def Operation.later (earlier : Nat) : Operation → Operation
  | .poll request => .poll (request.later earlier)
  | .pollRegion q => .pollRegion (q.later earlier)
  | .dropRequest request => .dropRequest (request.later earlier)
  | other => other

/-- Identities do not matter for a region. -/
theorem Poll.map_region_anonymous (a : Poll DrawResult) :
    (a.map DrawResult.anonymous).map DrawResult.region = a.map DrawResult.region := by
  cases a with
  | notHeld | pending => rfl
  | ready r => exact congrArg Poll.ready r.region_anonymous

namespace Viewer

/-- What a viewer answers to an operation. -/
def response (v : Viewer) : Operation → Response
  | .attach => .nothing
  | .setImage _ _ => .nothing
  | .render => .rendered v.render.1
  | .addOverlay d => .shown (v.renderAnnotation d).1
  | .removeOverlay id => .flag (v.unrenderAnnotation id).1
  | .clearOverlays => .count v.clearAnnotations.1
  | .startDrawing shape options => .request (v.startDrawing shape options).1
  | .drawRegion slot => .regionRequest (v.drawRegion slot).1
  | .poll request => .answer (v.poll request).1
  | .pollRegion q => .region (v.pollRegion q).1
  | .dropRequest _ => .nothing
  | .handle e => .flag (v.handle e).1
  | .cancelDrawing => .flag v.cancelDrawing.1
  | .retireLayers => .count v.retireLayers.1
  | .destroy => .nothing
  | .drop => .nothing
  | .arm _ _ => .nothing

/-- What a viewer answers to one operation after the other. -/
def responses (v : Viewer) : List Operation → List Response
  | [] => []
  | op :: ops => v.response op :: (v.perform op).responses ops

/-- What a viewer asks of the map library, operation by operation. -/
def calls (v : Viewer) : List Operation → List (List Call)
  | [] => []
  | op :: ops =>
    (v.perform op).library.log.drop v.library.log.length :: (v.perform op).calls ops

/-- **Viewers that cannot be told apart.** The second has a history of its own: the calls and the
notifications before the first began, and the requests it had given out by then. Where both delete
all layers in the same order, they `agree`. -/
structure Like (earlier : Nat) (told : List Notification) (agree : Prop) (v v' : Viewer) :
    Prop where
  settings : v'.settings = v.settings
  faults : v'.library.faults = v.library.faults
  attached : v'.attached = v.attached
  image : v'.image = v.image
  map : v'.map = v.map
  overlays : Overlays.Like agree v.overlays v'.overlays
  draw : DrawMode.Like earlier v.draw v'.draw
  bus : Bus.Like told v.bus v'.bus
  slots : v'.slots = v.slots

namespace Like

variable {earlier : Nat} {told : List Notification} {agree : Prop} {v v' : Viewer}

theorem blank (h : Like earlier told agree v v') : v'.library.blank = v.library.blank :=
  congrArg (fun faults => ({ faults } : MapLibrary)) h.faults

/-- The same map in use, with two histories. -/
theorem viewport (h : Like earlier told agree v v') (m : MapState) : ∃ q : Viewport,
    ({ library := v.library, map := m } : Viewport) = q.after v.library ∧
      ({ library := v'.library, map := m } : Viewport) = q.after v'.library := by
  refine ⟨{ library := v.library.blank, map := m }, ?_, ?_⟩
  · rw [Viewport.after, v.library.blank_after]
  · rw [Viewport.after, ← h.blank, v'.library.blank_after]

/-- Nothing is asked of the library. -/
theorem abreast (h : Like earlier told agree v v') :
    MapLibrary.Abreast agree v.library v'.library v.library v'.library := by
  refine ⟨v.library.blank, v'.library.blank, ?_, ?_, .blank h.faults⟩
  · exact v.library.blank_after.symm
  · exact v'.library.blank_after.symm

/-- The map is used, and what is on it changes hands. -/
theorem used (h : Like earlier told agree v v') {p p' : Viewport} (hmap : p'.map = p.map)
    (hlibrary : p.library.Alike agree p'.library) {o o' : Overlays} (ho : o.Like agree o')
    {d d' : DrawMode} (hd : DrawMode.Like earlier d d') :
    Like earlier told agree { v.withViewport (p.after v.library) with overlays := o, draw := d }
        { v'.withViewport (p'.after v'.library) with overlays := o', draw := d' } ∧
      MapLibrary.Abreast agree v.library v'.library (p.after v.library).library
        (p'.after v'.library).library :=
  ⟨{ h with
      faults := hlibrary.faults
      map := congrArg some hmap
      overlays := ho
      draw := hd },
    p.library, p'.library, rfl, rfl, hlibrary⟩

theorem render (h : Like earlier told agree v v') :
    v'.render.1 = v.render.1 ∧ Like earlier told agree v.render.2 v'.render.2 ∧
      MapLibrary.Abreast agree v.library v'.library v.render.2.library v'.render.2.library := by
  have hbuild : ∀ params, build params v.library
      = (build params v.library.blank).map id (·.after v.library) := fun params => by
    rw [← build_after, v.library.blank_after]
  have hbuild' : ∀ params, build params v'.library
      = (build params v.library.blank).map id (·.after v'.library) := fun params => by
    rw [← build_after, ← h.blank, v'.library.blank_after]
  unfold Viewer.render isRendered
  simp only [h.map, h.image, h.attached, h.settings, hbuild, hbuild']
  split
  · exact ⟨rfl, h, h.abreast⟩
  · split
    · exact ⟨rfl, h, h.abreast⟩
    · split
      · rename_i image _ _
        rcases build (v.settings.mapParams image.item image.info) v.library.blank
          with ⟨e | m, library⟩
        · exact ⟨rfl, ⟨rfl, rfl, rfl, rfl, rfl, h.overlays, h.draw, h.bus, h.slots⟩,
            library, library, rfl, rfl, .refl library⟩
        · exact ⟨rfl, ⟨rfl, rfl, rfl, rfl, rfl, h.overlays, h.draw, h.bus.publish rfl, h.slots⟩,
            library, library, rfl, rfl, .refl library⟩
      · exact ⟨rfl, h, h.abreast⟩

theorem renderAnnotation (h : Like earlier told agree v v') (d : Document) :
    (v'.renderAnnotation d).1 = (v.renderAnnotation d).1 ∧
      Like earlier told agree (v.renderAnnotation d).2 (v'.renderAnnotation d).2 ∧
      MapLibrary.Abreast agree v.library v'.library (v.renderAnnotation d).2.library
        (v'.renderAnnotation d).2.library := by
  unfold Viewer.renderAnnotation
  rw [h.map]
  cases v.map with
  | none => exact ⟨rfl, h, h.abreast⟩
  | some m =>
      obtain ⟨q, hq, hq'⟩ := h.viewport m
      obtain ⟨hresult, hoverlays, hviewport⟩ := h.overlays.render v.settings.style d q
      simp only [hq, hq', h.settings, Viewport.render_after, hresult, hviewport]
      exact ⟨trivial, h.used rfl (.refl _) hoverlays h.draw⟩

theorem unrenderAnnotation (h : Like earlier told agree v v') (id : String) :
    (v'.unrenderAnnotation id).1 = (v.unrenderAnnotation id).1 ∧
      Like earlier told agree (v.unrenderAnnotation id).2 (v'.unrenderAnnotation id).2 ∧
      MapLibrary.Abreast agree v.library v'.library (v.unrenderAnnotation id).2.library
        (v'.unrenderAnnotation id).2.library := by
  unfold Viewer.unrenderAnnotation
  rw [h.map]
  cases v.map with
  | none => exact ⟨rfl, h, h.abreast⟩
  | some m =>
      obtain ⟨q, hq, hq'⟩ := h.viewport m
      obtain ⟨hresult, hoverlays, hviewport⟩ := h.overlays.remove id q
      simp only [hq, hq', Viewport.remove_after, hresult, hviewport]
      exact ⟨trivial, h.used rfl (.refl _) hoverlays h.draw⟩

theorem clearAnnotations (h : Like earlier told agree v v') :
    v'.clearAnnotations.1 = v.clearAnnotations.1 ∧
      Like earlier told agree v.clearAnnotations.2 v'.clearAnnotations.2 ∧
      MapLibrary.Abreast agree v.library v'.library v.clearAnnotations.2.library
        v'.clearAnnotations.2.library := by
  unfold Viewer.clearAnnotations
  rw [h.map]
  cases v.map with
  | none => exact ⟨rfl, h, h.abreast⟩
  | some m =>
      obtain ⟨q, hq, hq'⟩ := h.viewport m
      obtain ⟨hcount, hoverlays, hmap, hlibrary⟩ := h.overlays.clear q
      simp only [hq, hq', Viewport.clear_after]
      exact ⟨hcount, h.used hmap hlibrary hoverlays h.draw⟩

theorem startDrawing (h : Like earlier told agree v v') (hv : v.draw.requests.Below)
    (hv' : v'.draw.requests.Below) (shape : ShapeKind) (options : Option DrawOptions) :
    (v'.startDrawing shape options).1 = (v.startDrawing shape options).1.map (·.later earlier) ∧
      Like earlier told agree (v.startDrawing shape options).2
        (v'.startDrawing shape options).2 ∧
      MapLibrary.Abreast agree v.library v'.library (v.startDrawing shape options).2.library
        (v'.startDrawing shape options).2.library := by
  unfold Viewer.startDrawing
  rw [h.map]
  cases v.map with
  | none => exact ⟨rfl, h, h.abreast⟩
  | some m =>
      obtain ⟨q, hq, hq'⟩ := h.viewport m
      obtain ⟨hresult, hdraw, hviewport⟩ := h.draw.start hv hv' shape
        (options.getD v.settings.drawOptions) q
      simp only [hq, hq', h.settings, Viewport.start_after, hresult, hviewport]
      exact ⟨trivial, h.used rfl (.refl _) h.overlays hdraw⟩

theorem drawRegion (h : Like earlier told agree v v') (hv : v.draw.requests.Below)
    (hv' : v'.draw.requests.Below) (slot : Option SlotId) :
    (v'.drawRegion slot).1 = (v.drawRegion slot).1.map (·.later earlier) ∧
      Like earlier told agree (v.drawRegion slot).2 (v'.drawRegion slot).2 ∧
      MapLibrary.Abreast agree v.library v'.library (v.drawRegion slot).2.library
        (v'.drawRegion slot).2.library := by
  obtain ⟨hresult, hlike, habreast⟩ := h.startDrawing hv hv' .rectangle (some .silent)
  unfold Viewer.drawRegion
  generalize v'.startDrawing .rectangle (some .silent) = started' at *
  generalize v.startDrawing .rectangle (some .silent) = started at *
  obtain ⟨result, w⟩ := started
  obtain ⟨result', w'⟩ := started'
  obtain rfl : result' = result.map (·.later earlier) := hresult
  cases result with
  | error e => exact ⟨rfl, hlike, habreast⟩
  | ok request =>
      cases slot with
      | some slot => exact ⟨rfl, hlike, habreast⟩
      | none =>
          have hslots : w'.slots = w.slots := hlike.slots
          simp only [Except.map, hslots]
          exact ⟨rfl, { hlike with slots := rfl }, habreast⟩

theorem poll (h : Like earlier told agree v v') (request : RequestId) :
    (v'.poll (request.later earlier)).1.map DrawResult.anonymous
        = (v.poll request).1.map DrawResult.anonymous ∧
      Like earlier told agree (v.poll request).2 (v'.poll (request.later earlier)).2 :=
  ⟨h.draw.requests.poll_fst request,
    { h with draw := { h.draw with requests := h.draw.requests.poll request } }⟩

theorem pollRegion (h : Like earlier told agree v v') (q : RegionRequest) :
    (v'.pollRegion (q.later earlier)).1 = (v.pollRegion q).1 ∧
      Like earlier told agree (v.pollRegion q).2 (v'.pollRegion (q.later earlier)).2 ∧
      MapLibrary.Abreast agree v.library v'.library (v.pollRegion q).2.library
        (v'.pollRegion (q.later earlier)).2.library := by
  obtain ⟨hanswer, hlike⟩ := h.poll q.request
  have hregion : (v'.poll (q.request.later earlier)).1.map DrawResult.region
      = (v.poll q.request).1.map DrawResult.region := by
    rw [← Poll.map_region_anonymous, hanswer, Poll.map_region_anonymous]
  have hslots := hlike.slots
  simp only [Viewer.pollRegion, RegionRequest.later, hregion]
  generalize (v.poll q.request).1.map DrawResult.region = answer
  cases answer with
  | notHeld | pending => exact ⟨rfl, hlike, h.abreast⟩
  | ready r =>
      cases r with
      | error e => exact ⟨rfl, hlike, h.abreast⟩
      | ok region =>
          simp only [hslots]
          exact ⟨trivial, { hlike with slots := rfl }, h.abreast⟩

theorem cancelDrawing (h : Like earlier told agree v v') :
    v'.cancelDrawing.1 = v.cancelDrawing.1 ∧
      Like earlier told agree v.cancelDrawing.2 v'.cancelDrawing.2 ∧
      MapLibrary.Abreast agree v.library v'.library v.cancelDrawing.2.library
        v'.cancelDrawing.2.library := by
  unfold Viewer.cancelDrawing
  rw [h.map]
  cases v.map with
  | none => exact ⟨rfl, h, h.abreast⟩
  | some m =>
      obtain ⟨q, hq, hq'⟩ := h.viewport m
      obtain ⟨hresult, hdraw, hviewport⟩ := h.draw.cancel q
      simp only [hq, hq', Viewport.cancel_after, hresult, hviewport]
      exact ⟨trivial, h.used rfl (.refl _) h.overlays hdraw⟩

theorem retireLayers (h : Like earlier told agree v v') :
    v'.retireLayers.1 = v.retireLayers.1 ∧
      Like earlier told agree v.retireLayers.2 v'.retireLayers.2 ∧
      MapLibrary.Abreast agree v.library v'.library v.retireLayers.2.library
        v'.retireLayers.2.library := by
  unfold Viewer.retireLayers
  rw [h.map]
  cases v.map with
  | none => exact ⟨rfl, h, h.abreast⟩
  | some m =>
      obtain ⟨q, hq, hq'⟩ := h.viewport m
      obtain ⟨hresult, hdraw, hviewport⟩ := h.draw.retire q
      simp only [hq, hq', Viewport.retire_after, hresult, hviewport]
      exact ⟨trivial, h.used rfl (.refl _) h.overlays hdraw⟩

theorem handle (h : Like earlier told agree v v') (e : ViewportEvent) :
    (v'.handle e).1 = (v.handle e).1 ∧ Like earlier told agree (v.handle e).2 (v'.handle e).2 ∧
      MapLibrary.Abreast agree v.library v'.library (v.handle e).2.library
        (v'.handle e).2.library := by
  cases e with
  | annotationChanged layer drawn =>
      obtain ⟨hresult, hdraw, hbus⟩ :=
        h.draw.annotationChanged layer drawn h.bus v.supply v'.supply
      exact ⟨by simp only [Viewer.handle, hresult, h.settings],
        { h with draw := hdraw, bus := hbus }, h.abreast⟩
  | drawPassComplete =>
      refine ⟨rfl, ?_⟩
      simp only [Viewer.handle, h.settings]
      split
      · exact h.retireLayers.2
      · exact ⟨h, h.abreast⟩

theorem destroy (h : Like earlier told agree v v') :
    Like earlier told agree v.destroy v'.destroy ∧
      MapLibrary.Abreast agree v.library v'.library v.destroy.library v'.destroy.library := by
  unfold Viewer.destroy
  rw [h.map]
  cases v.map with
  | none => exact ⟨h, h.abreast⟩
  | some m =>
      obtain ⟨q, hq, hq'⟩ := h.viewport m
      obtain ⟨-, hcancelled, hcancel⟩ := h.draw.cancel q
      obtain ⟨-, hretired, hretire⟩ := hcancelled.retire (v.draw.cancel q).2.2
      obtain ⟨-, hoverlays, -, hlibrary⟩ :=
        h.overlays.clear ((v.draw.cancel q).2.1.retire (v.draw.cancel q).2.2).2.2
      simp only [hq, hq', Viewport.cancel_after, Viewport.retire_after, Viewport.clear_after,
        Viewport.teardown_after, hcancel, hretire]
      exact ⟨{ h with
          faults := hlibrary.faults
          map := rfl
          overlays := hoverlays
          draw := hretired },
        _, _, rfl, rfl, hlibrary.record .teardown⟩

/-- **What is asked of both is answered alike,** the same is asked of the map, and they are like
each other afterwards. -/
theorem perform (h : Like earlier told agree v v') (hv : v.Regular) (hv' : v'.Regular)
    (op : Operation) :
    (v'.response (op.later earlier)).anonymous = ((v.response op).later earlier).anonymous ∧
      Like earlier told agree (v.perform op) (v'.perform (op.later earlier)) ∧
      MapLibrary.Abreast agree v.library v'.library (v.perform op).library
        (v'.perform (op.later earlier)).library := by
  cases op with
  | attach => exact ⟨rfl, { h with attached := rfl }, h.abreast⟩
  | setImage item info => exact ⟨rfl, { h with image := rfl }, h.abreast⟩
  | render => exact ⟨congrArg Response.rendered h.render.1, h.render.2⟩
  | addOverlay d =>
      exact ⟨congrArg Response.shown (h.renderAnnotation d).1, (h.renderAnnotation d).2⟩
  | removeOverlay id =>
      exact ⟨congrArg Response.flag (h.unrenderAnnotation id).1, (h.unrenderAnnotation id).2⟩
  | clearOverlays => exact ⟨congrArg Response.count h.clearAnnotations.1, h.clearAnnotations.2⟩
  | startDrawing shape options =>
      obtain ⟨hresult, hlike⟩ := h.startDrawing hv.below hv'.below shape options
      exact ⟨congrArg Response.request hresult, hlike⟩
  | drawRegion slot =>
      obtain ⟨hresult, hlike⟩ := h.drawRegion hv.below hv'.below slot
      exact ⟨congrArg Response.regionRequest hresult, hlike⟩
  | poll request =>
      exact ⟨congrArg Response.answer (h.poll request).1, (h.poll request).2, h.abreast⟩
  | pollRegion q => exact ⟨congrArg Response.region (h.pollRegion q).1, (h.pollRegion q).2⟩
  | dropRequest request =>
      exact ⟨rfl, { h with draw := { h.draw with requests := h.draw.requests.drop request } },
        h.abreast⟩
  | handle e => exact ⟨congrArg Response.flag (h.handle e).1, (h.handle e).2⟩
  | cancelDrawing => exact ⟨congrArg Response.flag h.cancelDrawing.1, h.cancelDrawing.2⟩
  | retireLayers => exact ⟨congrArg Response.count h.retireLayers.1, h.retireLayers.2⟩
  | destroy => exact ⟨rfl, h.destroy⟩
  | drop =>
      refine ⟨rfl, ?_⟩
      show Like earlier told agree v.drop v'.drop ∧
        MapLibrary.Abreast agree v.library v'.library v.drop.library v'.drop.library
      rw [drop_eq_destroy hv.inOrder, drop_eq_destroy hv'.inOrder]
      exact h.destroy
  | arm call e =>
      have hfaults : (v'.library.arm call e).faults = (v.library.arm call e).faults := by
        rw [MapLibrary.arm, MapLibrary.arm, h.faults]
      have harm : ∀ l : MapLibrary, l.arm call e = (l.arm call e).blank.after l := by
        simp [MapLibrary.arm, MapLibrary.blank, MapLibrary.after]
      exact ⟨rfl, { h with faults := hfaults }, _, _, harm v.library, harm v'.library,
        .blank hfaults⟩

/-- The same of one operation after the other. -/
theorem run (h : Like earlier told agree v v') (hv : v.Regular) (hv' : v'.Regular)
    (ops : List Operation) :
    let ops' := ops.map (·.later earlier)
    (v'.responses ops').map Response.anonymous
        = (v.responses ops).map (fun r => (r.later earlier).anonymous) ∧
      List.Forall₂ Reordered (v.calls ops) (v'.calls ops') ∧
      (agree → v'.calls ops' = v.calls ops) ∧
      (v.run ops).library.log = v.library.log ++ (v.calls ops).flatten ∧
      (v'.run ops').library.log = v'.library.log ++ (v'.calls ops').flatten ∧
      (∃ handed, (v.run ops).library.submitted = v.library.submitted ++ handed ∧
        (v'.run ops').library.submitted = v'.library.submitted ++ handed) ∧
      Like earlier told agree (v.run ops) (v'.run ops') := by
  induction ops generalizing v v' with
  | nil =>
      exact ⟨rfl, .nil, fun _ => rfl, (List.append_nil _).symm, (List.append_nil _).symm,
        ⟨[], (List.append_nil _).symm, (List.append_nil _).symm⟩, h⟩
  | cons op ops ih =>
      obtain ⟨hresponse, hnext, habreast⟩ := h.perform hv hv' op
      obtain ⟨hlog, hlog', hreordered, hsame⟩ := habreast.log
      obtain ⟨first, hfirst, hfirst'⟩ := habreast.submitted
      obtain ⟨hlater, hcalls, hagree, hrun, hrun', ⟨rest, hrest, hrest'⟩, hlike⟩ :=
        ih hnext (hv.perform op) (hv'.perform _)
      refine ⟨?_, .cons hreordered hcalls, fun h => ?_, ?_, ?_, ⟨first ++ rest, ?_, ?_⟩, hlike⟩
      · simp only [List.map_cons, responses, hresponse, hlater]
      · exact congrArg₂ List.cons (hsame h) (hagree h)
      · refine hrun.trans ?_
        rw [calls, List.flatten_cons, ← List.append_assoc, ← hlog]
      · refine hrun'.trans ?_
        rw [List.map_cons, calls, List.flatten_cons, ← List.append_assoc, ← hlog']
      · exact hrest.trans (by rw [hfirst, List.append_assoc])
      · exact hrest'.trans (by rw [hfirst', List.append_assoc])

end Like

end Viewer

end ImageOverlay
