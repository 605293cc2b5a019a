import ImageOverlay.Proofs.Viewer.Sessions

set_option autoImplicit false

/-!
# What the application is told of sessions

The application is told of an element at the end of a session that was started with the trigger set
and completed by a drawing that converts, and at no other time. The announcements of a run are
therefore the notices of the sessions that end in it (`Viewer.announced_run`). What they are worth
is said for each of these sessions (`Viewer.EndsIn`): what the holder of its request is given is
what the application is told.
-/

namespace ImageOverlay

/-- Whether a notification is about an element. -/
def Notification.isCreated : Notification → Bool
  | .annotationCreated _ _ => true
  | .imageRendered _ _ _ => false

/-- The elements the application was told of. -/
def Bus.announced (b : Bus) : List Notification := b.published.filter (·.isCreated)

namespace Bus

/-- A bus some time later, with all the elements the application was told of since. -/
structure Extends (b b' : Bus) (news : List Notification) : Prop where
  listening : b'.listening = b.listening
  announced : b'.announced = b.announced ++ if b.listening then news else []

namespace Extends

variable {b b' b'' : Bus} {first second : List Notification}

theorem refl (b : Bus) : Extends b b [] := ⟨rfl, by simp⟩

theorem trans (h : Extends b b' first) (h' : Extends b' b'' second) :
    Extends b b'' (first ++ second) where
  listening := h'.listening.trans h.listening
  announced := by
    rw [h'.announced, h.announced, h.listening]
    cases b.listening <;> simp

/-- Every notification is on the bus, but only some of them are about elements. -/
theorem publish (b : Bus) (n : Notification) :
    Extends b (b.publish n) ([n].filter (·.isCreated)) := by
  unfold Bus.publish
  cases hlistening : b.listening with
  | false => exact ⟨rfl, by simp [hlistening]⟩
  | true => exact ⟨by simp [hlistening], by simp [Bus.announced, hlistening]⟩

/-- What is told of an answer is about its element. -/
theorem tell (b : Bus) (options : DrawOptions) (r : DrawResult) :
    Extends b (b.tell (r.notice? options)) (r.notice? options).toList := by
  cases hnotice : r.notice? options with
  | none => exact refl b
  | some n =>
      have hcreated : n.isCreated = true := by
        unfold DrawResult.notice? at hnotice
        split at hnotice
        · cases hnotice
        · split at hnotice
          · cases hnotice
            rfl
          · cases hnotice
      have hpublish := publish b n
      rw [List.filter_cons_of_pos hcreated] at hpublish
      exact hpublish

end Extends

end Bus

/-- What the application is told of the end of a session. -/
def Ending.notice? (e : Ending) : Option Notification := e.result.notice? e.opening.options

namespace Viewer

variable {v : Viewer} {op : Operation}

/-! ## What is published -/

/-- Where a mute operation ends a session there is nothing to tell. -/
theorem notice?_of_mute {layer : LayerHandle} {supply : Identity.Supply} {r : DrawResult}
    (hop : op.IsMute) (hverdict : op.verdict? layer supply = some r) (options : DrawOptions) :
    r.notice? options = none := by
  have hcancelled : r = .error .cancelled := by
    cases op with
    | cancelDrawing | destroy | drop => exact (Option.some.inj hverdict).symm
    | handle e =>
        cases e with
        | annotationChanged layer drawn => exact absurd rfl (hop.2 layer drawn)
        | drawPassComplete => cases hverdict
    | attach | setImage | render | addOverlay | removeOverlay | clearOverlays | startDrawing
    | drawRegion | poll | pollRegion | dropRequest | retireLayers | arm => cases hverdict
  rw [hcancelled]
  rfl

/-- The map that is built is no element. -/
theorem render_extends (v : Viewer) : v.bus.Extends v.render.2.bus [] := by
  have hsame : v.bus.Extends v.bus [] := .refl _
  unfold render
  split
  · exact hsame
  · split
    · exact hsame
    · split
      · split
        · exact hsame
        · exact .publish _ _
      · exact hsame

/-- A drawing is news if it completes the session that waits. -/
theorem annotationChanged_extends (layer : LayerHandle) (drawn : Drawn) (v : Viewer) :
    v.bus.Extends (v.perform (.handle (.annotationChanged layer drawn))).bus
      ((v.ends? (v.draw.active.map DrawSession.opening)
        (.handle (.annotationChanged layer drawn))).bind Ending.notice?).toList := by
  show v.bus.Extends (v.draw.annotationChanged layer drawn v.bus v.supply).2.2.1 _
  cases hcompleted : v.draw.completed? layer drawn with
  | none =>
      have hnone : v.ends? (v.draw.active.map DrawSession.opening)
          (.handle (.annotationChanged layer drawn)) = none := by
        rw [Option.eq_none_iff_forall_ne_some]
        intro e he
        obtain ⟨-, -, hopen, hverdict⟩ := ends?_eq_some.1 he
        obtain ⟨s, hs, hopening⟩ := Option.map_eq_some_iff.1 hopen
        have hgoesOn := DrawMode.verdict?_eq_completed? hs layer drawn v.supply
        rw [hcompleted] at hgoesOn
        rw [← hopening] at hverdict
        cases hgoesOn.symm.trans hverdict
      rw [hnone, DrawMode.annotationChanged_eq_self (DrawMode.completed?_eq_none.1 hcompleted)]
      exact .refl _
  | some s =>
      have hs := (DrawMode.completed?_eq_some.1 hcompleted).1
      have hverdict := DrawMode.verdict?_eq_completed? hs layer drawn v.supply
      rw [hcompleted] at hverdict
      have hends : v.ends? (v.draw.active.map DrawSession.opening)
          (.handle (.annotationChanged layer drawn))
          = some ⟨s.opening, v, .handle (.annotationChanged layer drawn), drawn.answer v.supply⟩ :=
        ends?_eq_some.2 ⟨rfl, rfl, by rw [hs]; rfl, hverdict⟩
      obtain ⟨supply', heq⟩ := DrawMode.annotationChanged_completed hcompleted v.bus v.supply
      rw [hends, heq]
      exact .tell _ _ _

/-- **One operation** tells the application of the session it ends, and of no other element. -/
theorem perform_extends (v : Viewer) (op : Operation) :
    v.bus.Extends (v.perform op).bus
      ((v.ends? (v.draw.active.map DrawSession.opening) op).bind Ending.notice?).toList := by
  by_cases hmute : op.IsMute
  · have hnone :
        (v.ends? (v.draw.active.map DrawSession.opening) op).bind Ending.notice? = none := by
      rw [Option.bind_eq_none_iff]
      intro e he
      exact notice?_of_mute hmute (ends?_eq_some.1 he).2.2.2 e.opening.options
    rw [hnone, (perform_frame hmute).2]
    exact .refl _
  · rw [Operation.not_isMute] at hmute
    rcases hmute with rfl | ⟨layer, drawn, rfl⟩
    · have hnone : v.ends? (v.draw.active.map DrawSession.opening) .render = none := by
        cases v.draw.active <;> rfl
      rw [hnone]
      exact render_extends v
    · exact annotationChanged_extends layer drawn v

/-- **What a run tells the application of elements** are the notices of the sessions that end. -/
theorem run_extends (h : v.Regular) (ops : List Operation) :
    v.bus.Extends (v.run ops).bus
      ((v.endings (v.draw.active.map DrawSession.opening) ops).filterMap Ending.notice?) := by
  induction ops generalizing v with
  | nil => exact .refl _
  | cons op ops ih =>
      have hrun := (perform_extends v op).trans (ih (h.perform op))
      rw [endings, stillOpen?_eq h, List.filterMap_append]
      cases hends : v.ends? (v.draw.active.map DrawSession.opening) op with
      | none =>
          rw [hends] at hrun
          exact hrun
      | some e =>
          rw [hends] at hrun
          have hfirst : (some e).toList.filterMap Ending.notice?
              = ((some e).bind Ending.notice?).toList := by
            cases hnotice : e.notice? <;> simp [hnotice]
          rw [hfirst]
          exact hrun

/-- **The end of a session in a run:** one operation starts the session and a later one has a
verdict for it. The application is told exactly if the trigger was set and the verdict is a drawing
that converts, and it is told of the same outcome as the holder of the request. -/
structure EndsIn (v : Viewer) (ops : List Operation) (e : Ending) : Prop where
  occurs : ∃ first start middle later, ops = first ++ start :: (middle ++ e.op :: later) ∧
    start.opens? (v.run first) = some e.opening ∧ e.before = v.run (first ++ start :: middle)
  verdict : e.op.verdict? e.opening.layer e.before.supply = some e.result
  notice : ∀ n, e.notice? = some n ↔ e.opening.options.trigger = true ∧ ∃ drawn element,
    e.op = .handle (.annotationChanged e.opening.layer drawn) ∧ drawn.state = .done ∧
    convert drawn = .ok element ∧ n = .annotationCreated
      { element with id := some (drawn.id.getD e.before.supply.next.1) } drawn
  answered : ∀ element drawn, e.notice? = some (.annotationCreated element drawn) →
    (e.before.poll e.opening.request).1 ≠ .notHeld →
    ((e.before.perform e.op).poll e.opening.request).1 = .ready (.ok { element, drawn })

theorem notice?_of_verdict {e : Ending}
    (hverdict : e.op.verdict? e.opening.layer e.before.supply = some e.result) (n : Notification) :
    e.notice? = some n ↔ e.opening.options.trigger = true ∧ ∃ drawn element,
      e.op = .handle (.annotationChanged e.opening.layer drawn) ∧ drawn.state = .done ∧
      convert drawn = .ok element ∧ n = .annotationCreated
        { element with id := some (drawn.id.getD e.before.supply.next.1) } drawn := by
  constructor
  · intro hnotice
    by_cases hmute : e.op.IsMute
    · rw [Ending.notice?, notice?_of_mute hmute hverdict] at hnotice
      cases hnotice
    · rcases Operation.not_isMute.1 hmute with hop | ⟨layer, drawn, hop⟩
      · rw [hop] at hverdict
        cases hverdict
      · rw [hop, Operation.verdict?_annotationChanged, Option.ite_none_right_eq_some] at hverdict
        obtain ⟨⟨rfl, hdone⟩, hanswer⟩ := hverdict
        rw [Ending.notice?, ← Option.some.inj hanswer, DrawResult.notice?_answer] at hnotice
        obtain ⟨htrigger, element, hconvert, hn⟩ := hnotice
        exact ⟨htrigger, drawn, element, hop, hdone, hconvert, hn⟩
  · rintro ⟨htrigger, drawn, element, hop, hdone, hconvert, hn⟩
    rw [hop, Operation.verdict?_annotationChanged, if_pos ⟨rfl, hdone⟩] at hverdict
    rw [Ending.notice?, ← Option.some.inj hverdict, DrawResult.notice?_answer]
    exact ⟨htrigger, element, hconvert, hn⟩

/-- What is told of an answer is the outcome it brings. -/
theorem result_of_notice? {r : DrawResult} {options : DrawOptions} {element : Element}
    {drawn : Drawn} (h : r.notice? options = some (.annotationCreated element drawn)) :
    r = .ok { element, drawn } := by
  cases r with
  | error e => cases h
  | ok outcome =>
      rw [DrawResult.notice?] at h
      split at h
      · cases h
        rfl
      · cases h

theorem endsIn_of_mem (h : v.Attentive) (hidle : v.draw.active = none) {ops : List Operation}
    {e : Ending} (he : e ∈ v.endings none ops) : EndsIn v ops e := by
  have hmem : e ∈ v.endings (v.draw.active.map DrawSession.opening) ops := by
    rw [hidle]
    exact he
  obtain ⟨earlier, later, hsplit, hbefore, hopen, hverdict, hstarted⟩ :=
    of_mem_endings h.toRegular hmem
  rw [← hbefore] at hopen hverdict
  refine ⟨?_, hverdict, notice?_of_verdict hverdict, ?_⟩
  · rcases hstarted with hwaits | ⟨first, start, middle, hearlier, hopens⟩
    · rw [hidle] at hwaits
      cases hwaits
    · refine ⟨first, start, middle, later, ?_, hopens, by rw [hbefore, hearlier]⟩
      rw [hsplit, hearlier, List.append_assoc, List.cons_append]
  · intro element drawn hnotice hheld
    obtain ⟨s, hs, hopening⟩ := Option.map_eq_some_iff.1 hopen
    rw [← hopening] at hverdict hheld ⊢
    have hattentive : e.before.Attentive := by
      rw [hbefore]
      exact h.run earlier
    have hknown : e.before.draw.requests.known? s.request ≠ none := by
      intro hnone
      exact hheld (congrArg Prod.fst (Requests.poll_of_none hnone))
    have hanswer := poll_of_verdict hattentive hs hverdict hknown
    rw [result_of_notice? hnotice] at hanswer
    exact congrArg Prod.fst (Requests.poll_of_answered hanswer)

/-- **What the application is told of.** The elements it is told of in a run are, one for one and in
order, those of the sessions that were started with the trigger set and ended by a drawing that
converts, each with the drawing and under the identity that the holder of the request is given. No
session ends twice, and nothing but the building of a map and a drawing is news at all. -/
theorem announced_run (settings : Settings) (supply : Identity.Supply)
    (drains : DrainOrders) (bus : Bus) (ops : List Operation) :
    let v := fresh settings supply drains bus
    bus.Extends (v.run ops).bus ((v.endings none ops).filterMap Ending.notice?) ∧
      ((v.endings none ops).map (·.opening.request)).Nodup ∧
      (∀ e ∈ v.endings none ops, EndsIn v ops e) ∧
      ∀ (w : Viewer) (op : Operation), op.IsMute → (w.perform op).bus = w.bus := by
  intro v
  have hv : v.Attentive := .fresh settings supply drains bus
  refine ⟨run_extends hv.toRegular ops, endings_nodup hv ops, ?_, ?_⟩
  · intro e he
    exact endsIn_of_mem hv rfl he
  · intro w op hop
    exact (perform_frame hop).2

end Viewer

end ImageOverlay
