import ImageOverlay.Proofs.Loop.Tasks
import ImageOverlay.Proofs.Viewer.Retirement

set_option autoImplicit false

/-!
# From the drawing to the deletion of its layer

When a drawing completes a session three things happen, in this order: the application is told of
the element, the task that waits for the session goes on and is over, and the layer of the session
is deleted together with its subscription. The first two happen while the event is handled, and no
call is made to the map library meanwhile; the third belongs to the end of the turn, to a draw pass
or to the end of the map, whichever comes first.

The order of the first two is that of `Loop.handleEvent`: the viewer comes before the tasks
(`Loop.afterEvent`), and among the tasks each has its place (`Loop.resume`). That the layer is still
there when they are over is the invariant `Viewer.Retires`.
-/

namespace ImageOverlay

namespace Loop

variable {l : Loop} {s : DrawSession} {drawn : Drawn} {t : Task}

/-- The loop when it is the turn of the task that waits behind others. -/
def resume (l : Loop) (earlier : List Task) : Loop := earlier.foldl runTask { l with waiting := [] }

/-- **A task goes on and is over** while the tasks of a loop run. When its turn comes nothing has
been told and nothing called but what was when the tasks began to run. -/
structure Resumes (l : Loop) (r : DrawResult) (earlier : List Task) (t : Task) (later : List Task) :
    Prop where
  place : l.runTasks = later.foldl runTask ((l.resume earlier).runTask t)
  bus : (l.resume earlier).viewer.bus = l.viewer.bus
  library : (l.resume earlier).viewer.library = l.viewer.library
  finishes : ((l.resume earlier).runTask t).finished = (l.resume earlier).finished ++
    [⟨t, l.viewer.library.deletions.length, t.result r⟩]
  region : ∀ q region, t = .region q → r.region = .ok region →
    ((l.resume earlier).runTask t).viewer.slots.region? q.slot = some region
  finished : ⟨t, l.viewer.library.deletions.length, t.result r⟩ ∈ l.runTasks.finished
  done : t ∉ l.runTasks.waiting

/-- The layer of a session is on the map, and so is its subscription. -/
def Holds (l : Loop) (s : DrawSession) : Prop := ∃ m, l.viewer.map = some m ∧
  m.kind? s.layer = some .annotationDraw ∧ (s.subscription, s.layer) ∈ m.subscriptions

/-- The layer of a session has been deleted since the record was `log`, right after its
subscription. -/
def Deleted (l : Loop) (s : DrawSession) (log : List Call) : Prop :=
  ∃ calls, l.viewer.library.log = log ++ calls ∧ s.holding.calls <:+: calls

/-- **What a drawing brings about** that completes the session of a loop. -/
structure HandedOver (l : Loop) (s : DrawSession) (drawn : Drawn) : Prop where
  /-- First the application is told, and nothing is called. -/
  told : let after := l.afterEvent (.annotationChanged s.layer drawn)
    after.viewer.bus = l.viewer.bus.tell ((drawn.answer l.viewer.supply).notice? s.options) ∧
      after.viewer.library = l.viewer.library
  /-- Whatever task was started for the session waits for it. -/
  commanded : ∀ l₀ c t, Live l₀ → c.task? l₀.viewer = some t →
    Steps (l₀.handle (.command c)) l → t.request = s.request → t ∈ l.waiting
  spawned : ∀ l₀ t, Live l₀ → t ∈ l₀.waiting → Steps l₀ l → t.request = s.request → t ∈ l.waiting
  /-- Then it goes on and is over. -/
  resumed : ∀ earlier t later, l.waiting = earlier ++ t :: later → t.request = s.request →
    Resumes (l.afterEvent (.annotationChanged s.layer drawn)) (drawn.answer l.viewer.supply)
      earlier t later
  /-- All this is the handling of the event, after which the layer is still there. -/
  handled : let after := l.handleEvent (.annotationChanged s.layer drawn)
    after.viewer = (l.afterEvent (.annotationChanged s.layer drawn)).runTasks.viewer ∧
      after.viewer.library = l.viewer.library ∧ Holds after s
  /-- Whatever happens next, the layer retires until it is deleted. -/
  retires : ∀ l', Steps (l.handleEvent (.annotationChanged s.layer drawn)) l' →
    s.holding ∈ l'.viewer.draw.retiring ∨ Deleted l' s l.viewer.library.log
  /-- It is deleted in this turn, or by the next draw pass. -/
  nextTurn : l.viewer.settings.draw.retireOn = .nextTurn → ∀ inputs,
    Deleted ((l.handleEvent (.annotationChanged s.layer drawn)).turn inputs) s l.viewer.library.log
  drawPass : l.viewer.settings.draw.retireOn = .drawPass → ∀ l',
    Steps (l.handleEvent (.annotationChanged s.layer drawn)) l' →
      Deleted (l'.handleEvent .drawPassComplete) s l.viewer.library.log

/-! ## While the tasks run -/

/-- To look at other requests leaves the answer of this one where it is. -/
theorem known?_resume {request : RequestId} {r : DrawResult} {earlier : List Task}
    (h : l.viewer.Regular) (hover : Viewer.Past request l.viewer.draw)
    (hanswered : l.viewer.draw.requests.known? request = some (some r))
    (hothers : ∀ u ∈ earlier, u.request ≠ request) :
    (l.resume earlier).viewer.draw.requests.known? request = some (some r) := by
  obtain ⟨waiting, finished, heq⟩ := foldl_runTask_eq earlier { l with waiting := [] }
  have hkept : .dropRequest request ∉ earlier.map Task.look := by
    intro hmem
    obtain ⟨u, -, hu⟩ := List.mem_map.1 hmem
    cases u <;> cases hu
  have hunpolled : ¬ ∃ op ∈ earlier.map Task.look, op.polled? = some request := by
    rintro ⟨op, hop, hpolled⟩
    obtain ⟨u, hu, rfl⟩ := List.mem_map.1 hop
    exact hothers u hu (Option.some.inj (u.polled?_look.symm.trans hpolled))
  have hknown := (Viewer.known_run_of_past h hover hkept (by simp [hanswered])).2
  rw [if_neg hunpolled, hanswered] at hknown
  rw [resume, heq]
  exact hknown

/-- A task that has looked at its answer has nothing left to wait for. -/
theorem not_mem_runTasks {r : DrawResult} (h : l.Sound) (ht : t ∈ l.waiting)
    (hover : Viewer.Past t.request l.viewer.draw)
    (hanswered : l.viewer.draw.requests.known? t.request = some (some r)) :
    t ∉ l.runTasks.waiting := by
  obtain ⟨waiting, finished, heq⟩ := l.runTasks_eq
  have hkept : .dropRequest t.request ∉ l.waiting.map Task.look := by
    intro hmem
    obtain ⟨u, -, hu⟩ := List.mem_map.1 hmem
    cases u <;> cases hu
  have hpolled : ∃ op ∈ l.waiting.map Task.look, op.polled? = some t.request :=
    ⟨t.look, List.mem_map_of_mem ht, t.polled?_look⟩
  have hknown := (Viewer.known_run_of_past h.toRegular hover hkept (by simp [hanswered])).2
  rw [if_pos hpolled] at hknown
  intro hmem
  have hheld := h.runTasks.held t hmem
  rw [heq] at hheld
  exact hheld hknown

/-- **The answer reaches its task.** -/
theorem Sound.resumes {r : DrawResult} {earlier later : List Task} (h : l.Sound)
    (hwaiting : l.waiting = earlier ++ t :: later)
    (hover : Viewer.Past t.request l.viewer.draw)
    (hanswered : l.viewer.draw.requests.known? t.request = some (some r)) :
    Resumes l r earlier t later := by
  have hothers : ∀ u ∈ earlier, u.request ≠ t.request := by
    have hdistinct := h.distinct
    rw [hwaiting, List.map_append, List.nodup_append] at hdistinct
    intro u hu
    exact hdistinct.2.2 _ (List.mem_map_of_mem hu) _ (List.mem_map_of_mem List.mem_cons_self)
  have hknown := known?_resume h.toRegular hover hanswered hothers
  obtain ⟨requests, slots, waiting, finished, heq⟩ :=
    foldl_runTask_frame earlier { l with waiting := [] }
  have hviewer : (l.resume earlier).viewer
      = { l.viewer with draw := { l.viewer.draw with requests }, slots } := by
    rw [resume, heq]
  have hplace : l.runTasks = later.foldl runTask ((l.resume earlier).runTask t) := by
    show l.waiting.foldl runTask { l with waiting := [] } = _
    rw [hwaiting, List.foldl_append, List.foldl_cons]
    rfl
  have hfinishes : ((l.resume earlier).runTask t).finished = (l.resume earlier).finished ++
      [⟨t, l.viewer.library.deletions.length, t.result r⟩] := by
    rw [runTask_of_answered hknown, hviewer]
  refine ⟨hplace, by rw [hviewer], by rw [hviewer], hfinishes, ?_, ?_, ?_⟩
  · rintro q region rfl hregion
    exact region?_of_answered hknown hregion
  · rw [hplace]
    refine (foldl_runTask_finished later _).subset ?_
    rw [hfinishes]
    exact List.mem_append_right _ List.mem_cons_self
  · refine not_mem_runTasks h ?_ hover hanswered
    rw [hwaiting]
    exact List.mem_append_right _ List.mem_cons_self

/-! ## After the event -/

/-- The session is over with the answer of the drawing, its layer is the last that retires, and the
application has been told. -/
theorem afterEvent_completed (hs : l.viewer.draw.active = some s) (hdone : drawn.state = .done) :
    ∃ supply, (l.afterEvent (.annotationChanged s.layer drawn)).viewer
      = { l.viewer with
          draw := l.viewer.draw.conclude s (drawn.answer l.viewer.supply)
          bus := l.viewer.bus.tell ((drawn.answer l.viewer.supply).notice? s.options)
          supply } := by
  obtain ⟨supply, heq⟩ := Viewer.handle_completed hs hdone
  exact ⟨supply, congrArg Prod.snd heq⟩

/-- The tasks leave everything but requests and slots as the viewer left it. -/
theorem handleEvent_viewer (l : Loop) (e : ViewportEvent) : ∃ requests slots,
    (l.handleEvent e).viewer
      = { (l.afterEvent e).viewer with
          draw := { (l.afterEvent e).viewer.draw with requests }, slots } := by
  obtain ⟨requests, slots, waiting, finished, heq⟩ := (l.afterEvent e).runTasks_frame
  refine ⟨requests, slots, ?_⟩
  show (l.afterEvent e).runTasks.viewer = _
  rw [heq]

/-- The layer is not gone when the event has been handled. -/
theorem holds_of_retiring (h : l.viewer.InOrder) (hretiring : s.holding ∈ l.viewer.draw.retiring) :
    Holds l s := by
  obtain hmap | ⟨m, hmap⟩ := Option.eq_none_or_eq_some l.viewer.map
  · rw [((Viewer.inOrder_iff_of_none hmap).1 h).2.1] at hretiring
    cases hretiring
  · have howned := (Viewer.inOrder_iff_of_some hmap).1 h
    have hheld : s.holding ∈ holdings l.viewer.draw.active l.viewer.draw.retiring :=
      List.mem_append_right _ hretiring
    exact ⟨m, hmap, howned.drawing s.holding hheld, howned.subscription_mem hheld⟩

/-- Once the deletion is scheduled it stays so until the end of the turn. -/
theorem handleAll_scheduled (inputs : List Input) (h : l.retireScheduled = true) :
    (l.handleAll inputs).retireScheduled = true := by
  induction inputs generalizing l with
  | nil => exact h
  | cons i inputs ih =>
      obtain ⟨requests, slots, waiting, finished, heq⟩ := l.handle_frame i
      refine ih ?_
      rw [heq, h, Bool.true_or]

/-- A turn at whose end the deletion is scheduled leaves no layer that retires. -/
theorem finish_retiring (h : l.viewer.InOrder) (hscheduled : l.retireScheduled = true) :
    l.endTurn.runTasks.viewer.draw.retiring = [] := by
  obtain ⟨requests, slots, waiting, finished, heq⟩ := l.endTurn.runTasks_frame
  rw [heq, endTurn_viewer, if_pos hscheduled]
  exact Viewer.retireLayers_retiring h

/-- A draw pass leaves no layer that retires, if that is when they go. -/
theorem drawPass_retiring (h : l.viewer.InOrder)
    (hdrawPass : l.viewer.settings.draw.retireOn = .drawPass) :
    (l.handleEvent .drawPassComplete).viewer.draw.retiring = [] := by
  obtain ⟨requests, slots, heq⟩ := l.handleEvent_viewer .drawPassComplete
  have hafter : (l.afterEvent .drawPassComplete).viewer = l.viewer.retireLayers.2 := by
    simp only [afterEvent, Viewer.handle, if_pos hdrawPass]
  rw [heq, hafter]
  exact Viewer.retireLayers_retiring h

/-- The layer of the session retires from the event on. -/
theorem retires_handleEvent (hs : l.viewer.draw.active = some s) (hdone : drawn.state = .done) :
    s.holding ∈ (l.handleEvent (.annotationChanged s.layer drawn)).viewer.draw.retiring ∧
      (l.handleEvent (.annotationChanged s.layer drawn)).viewer.library = l.viewer.library := by
  obtain ⟨requests, slots, heq⟩ := l.handleEvent_viewer (.annotationChanged s.layer drawn)
  obtain ⟨supply, hafter⟩ := afterEvent_completed hs hdone
  rw [heq, hafter]
  exact ⟨List.mem_append_right _ List.mem_cons_self, rfl⟩

/-- The task of the session finds the answer of the drawing. -/
theorem Sound.resumes_completed {earlier later : List Task} (h : l.Sound)
    (hs : l.viewer.draw.active = some s) (hdone : drawn.state = .done)
    (hwaiting : l.waiting = earlier ++ t :: later) (hrequest : t.request = s.request) :
    Resumes (l.afterEvent (.annotationChanged s.layer drawn)) (drawn.answer l.viewer.supply)
      earlier t later := by
  have ht : t ∈ l.waiting := by
    rw [hwaiting]
    exact List.mem_append_right _ List.mem_cons_self
  have hverdict : (Operation.handle (.annotationChanged s.layer drawn)).verdict? s.layer
      l.viewer.supply = some (drawn.answer l.viewer.supply) := by
    rw [Operation.verdict?_annotationChanged, if_pos ⟨rfl, hdone⟩]
  have hanswered := Viewer.poll_of_verdict h.toAttentive hs hverdict (hrequest ▸ h.held t ht)
  have hover : Viewer.Past t.request
      (l.afterEvent (.annotationChanged s.layer drawn)).viewer.draw := by
    obtain ⟨supply, hafter⟩ := afterEvent_completed hs hdone
    rw [hafter, hrequest]
    exact ⟨(h.unanswered s hs).1, by simp [DrawMode.conclude]⟩
  rw [← hrequest] at hanswered
  exact (h.afterEvent _).resumes hwaiting hover hanswered

/-- **From the drawing to the deletion of its layer.** In every loop that can come about, a drawing
that completes the session is told first, then reaches the task that waits for it, and only then is
the layer of the session deleted. -/
theorem handed_over (h : Live l) (hs : l.viewer.draw.active = some s)
    (hdone : drawn.state = .done) : HandedOver l s drawn := by
  have hsound := h.sound
  obtain ⟨supply, hafter⟩ := afterEvent_completed hs hdone
  obtain ⟨hretiring, hlibrary⟩ := retires_handleEvent hs hdone
  have hnext : (l.handleEvent (.annotationChanged s.layer drawn)).Sound :=
    hsound.handle (.event (.annotationChanged s.layer drawn))
  -- From here on the layer retires or is deleted, whatever happens.
  have hretires : ∀ l', Steps (l.handleEvent (.annotationChanged s.layer drawn)) l' →
      Viewer.Retires s.holding l.viewer.library.log l'.viewer := by
    intro l' hsteps
    obtain ⟨ops, hops⟩ := hsteps.viewer
    rw [hops]
    refine Viewer.Retires.run ⟨[], ?_, Or.inl hretiring⟩ hnext.inOrder ops
    rw [hlibrary, List.append_nil]
  refine ⟨⟨by rw [hafter], by rw [hafter]⟩, ?_, ?_, ?_, ⟨rfl, hlibrary, ?_⟩, ?_, ?_, ?_⟩
  · intro l₀ c t h₀ htask hsteps hrequest
    have h₁ : (l₀.handle (.command c)).Sound := h₀.sound.handle (.command c)
    exact waits_of_active hsteps h₁ (h₀.sound.waits_of_command htask) hs hrequest
  · intro l₀ t h₀ ht hsteps hrequest
    exact waits_of_active hsteps h₀.sound ht hs hrequest
  · intro earlier t later hwaiting hrequest
    exact hsound.resumes_completed hs hdone hwaiting hrequest
  · exact holds_of_retiring hnext.inOrder hretiring
  · intro l' hsteps
    obtain ⟨calls, hlog, hwaits | hgone⟩ := hretires l' hsteps
    · exact Or.inl hwaits
    · exact Or.inr ⟨calls, hlog, hgone⟩
  · intro hnextTurn inputs
    have hscheduled :
        (l.handleEvent (.annotationChanged s.layer drawn)).retireScheduled = true := by
      obtain ⟨supply', heq⟩ := Viewer.handle_completed hs hdone
      simp [handleEvent, heq, hnextTurn]
    have hturn := steps_handleAll (l.handleEvent (.annotationChanged s.layer drawn)) inputs
    exact (hretires _ (hturn.tail (.finish _))).deleted
      (finish_retiring (hturn.sound hnext).inOrder (handleAll_scheduled inputs hscheduled))
  · intro hdrawPass l' hsteps
    have hsettings : l'.viewer.settings.draw.retireOn = .drawPass := by
      obtain ⟨ops, hops⟩ := hsteps.viewer
      obtain ⟨more, hmore⟩ := l.handle_viewer (.event (.annotationChanged s.layer drawn))
      have hhandled : (l.handleEvent (.annotationChanged s.layer drawn)).viewer
          = l.viewer.run more := hmore
      rw [hops, Viewer.run_settings, hhandled, Viewer.run_settings]
      exact hdrawPass
    exact (hretires _ (hsteps.tail (.handle l' (.event .drawPassComplete)))).deleted
      (drawPass_retiring (hsteps.sound hnext).inOrder hsettings)

/-- A region that is asked for. -/
def regionAsked : Loop :=
  turns { viewer := Viewer.rendered } [[.command (.drawRegion (some ⟨0⟩))]]

/-- Its session. -/
def regionSession : DrawSession where
  shape := .rectangle
  layer := ⟨2⟩
  subscription := ⟨1⟩
  options := .silent
  request := ⟨0⟩

/-- The rectangle that is drawn. -/
def rectangleDrawn : Drawn where
  kind := .rectangle
  coordinates := [⟨0.0, 0.0⟩, ⟨4.0, 0.0⟩, ⟨4.0, 2.0⟩, ⟨0.0, 2.0⟩]

theorem handed_over_of_regionAsked :
    Live regionAsked ∧ regionAsked.viewer.draw.active = some regionSession ∧
      rectangleDrawn.state = .done ∧ HandedOver regionAsked regionSession rectangleDrawn ∧
      regionAsked.waiting = [.region { request := regionSession.request, slot := ⟨0⟩ }] := by
  have hlive : Live regionAsked :=
    ⟨{}, { bits := fun _ => 0 }, fun _ => .arrival, {}, Viewer.opening, steps_turns _ _⟩
  have hactive : regionAsked.viewer.draw.active = some regionSession := by decide
  have hdone : rectangleDrawn.state = .done := rfl
  exact ⟨hlive, hactive, hdone, handed_over hlive hactive hdone, by decide⟩

end Loop

end ImageOverlay
