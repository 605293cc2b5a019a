import ImageOverlay.Proofs.Viewer.Sessions

set_option autoImplicit false

/-!
# Draw modes that cannot be told apart

Two things in the draw mode are made up as it goes: the numbers of requests, which depend on how
many were given out before, and the identities of elements that came without one. `DrawMode.Like`
says that two draw modes differ in these alone. One has given out so many requests more than the
other, before the other began, and the answers to the requests that correspond are the same but for
identities that were made up (`DrawResult.anonymous`).

Whatever is asked of two such draw modes on the same map, they give corresponding answers, ask the
same of the map and are like each other afterwards.
-/

namespace ImageOverlay

/-! ## What is made up -/

/-- The same request where others had been given out before. -/
def RequestId.later (earlier : Nat) (request : RequestId) : RequestId := ⟨earlier + request.number⟩

/-- The same session. -/
def DrawSession.later (earlier : Nat) (s : DrawSession) : DrawSession :=
  { s with request := s.request.later earlier }

/-- The outcome without an identity that the drawing did not have. -/
def DrawOutcome.anonymous (outcome : DrawOutcome) : DrawOutcome :=
  { outcome with element := { outcome.element with id := outcome.drawn.id } }

/-- The answer without an identity that was made up. -/
def DrawResult.anonymous (r : DrawResult) : DrawResult := r.map DrawOutcome.anonymous

/-- The notification without an identity that was made up. -/
def Notification.anonymous : Notification → Notification
  | .annotationCreated element drawn => .annotationCreated { element with id := drawn.id } drawn
  | .imageRendered item width height => .imageRendered item width height

theorem RequestId.later_inj {earlier : Nat} {request other : RequestId} :
    request.later earlier = other.later earlier ↔ request = other := by
  constructor
  · intro h
    exact congrArg RequestId.mk (Nat.add_left_cancel (RequestId.mk.inj h))
  · exact congrArg _

/-- An element is given an identity and is otherwise left alone. -/
theorem Element.identified_shape (supply : Identity.Supply) (e : Element) :
    (e.identified supply).1.shape = e.shape ∧ (e.identified supply).1.style = e.style := by
  unfold identified
  cases e.id <;> exact ⟨rfl, rfl⟩

/-- Where the identity comes from makes no other difference to an answer. -/
theorem Drawn.answer_anonymous (drawn : Drawn) (supply other : Identity.Supply) :
    (drawn.answer supply).anonymous = (drawn.answer other).anonymous := by
  unfold answer
  cases convert drawn with
  | error e => rfl
  | ok element =>
      have hsupply := element.identified_shape supply
      have hother := element.identified_shape other
      simp only [DrawResult.anonymous, Except.map, DrawOutcome.anonymous, hsupply, hother]

theorem DrawResult.notice?_anonymous (options : DrawOptions) (r : DrawResult) :
    (r.notice? options).map Notification.anonymous = r.anonymous.notice? options := by
  cases r with
  | error e => rfl
  | ok outcome =>
      unfold notice? anonymous
      cases options.trigger <;> rfl

/-- A region is that of the shape. -/
theorem DrawResult.region_anonymous (r : DrawResult) : r.anonymous.region = r.region := by
  cases r <;> rfl

/-- The region of an answer is that of the drawing; the identity of the element does not count. -/
theorem Drawn.region_answer (drawn : Drawn) (supply : Identity.Supply) :
    (drawn.answer supply).region
      = (convert drawn >>= Region.ofElement).mapError DrawError.conversion := by
  unfold Drawn.answer DrawResult.region
  cases convert drawn with
  | error e => rfl
  | ok element =>
      have hregion : Region.ofElement (element.identified supply).1 = Region.ofElement element := by
        unfold Region.ofElement
        rw [(element.identified_shape supply).1]
      simp only [hregion]
      show _ = (Region.ofElement element).mapError DrawError.conversion
      cases Region.ofElement element <;> rfl

/-! ## Requests -/

namespace Requests

variable {earlier : Nat} {rs rs' : Requests}

/-- What is known of a request, but for identities that were made up. -/
def seen? (request : RequestId) (rs : Requests) : Option (Option DrawResult) :=
  (rs.known? request).map (Option.map DrawResult.anonymous)

theorem seen?_eq_pending {request : RequestId} :
    rs.seen? request = some none ↔ rs.known? request = some none := by
  unfold seen?
  cases rs.known? request with
  | none => simp
  | some a => cases a <;> simp

theorem isHeld_eq_seen? (request : RequestId) (rs : Requests) :
    rs.isHeld request = (rs.seen? request).isSome :=
  (Option.isSome_map ..).symm

theorem poll_anonymous (request : RequestId) (rs : Requests) :
    (rs.poll request).1.map DrawResult.anonymous = match rs.seen? request with
      | none => .notHeld
      | some none => .pending
      | some (some r) => .ready r := by
  rw [poll_eq, seen?]
  cases rs.known? request with
  | none => rfl
  | some a => cases a <;> rfl

theorem seen?_create (hbelow : rs.Below) (request : RequestId) :
    rs.create.2.seen? request = if request = rs.create.1 then some none else rs.seen? request := by
  unfold seen?
  rw [known?_create hbelow]
  split <;> rfl

theorem seen?_answer (answered : RequestId) (r : DrawResult) (rs : Requests)
    (request : RequestId) :
    (rs.answer answered r).seen? request
      = if request = answered then (rs.seen? request).map (fun a => some (a.getD r.anonymous))
        else rs.seen? request := by
  unfold seen?
  rw [known?_answer]
  split
  · cases rs.known? request with
    | none => rfl
    | some a => cases a <;> rfl
  · rfl

theorem seen?_drop (dropped : RequestId) (rs : Requests) (request : RequestId) :
    (rs.drop dropped).seen? request = if request = dropped then none else rs.seen? request := by
  unfold seen?
  rw [known?_drop]
  split <;> rfl

theorem seen?_poll (polled : RequestId) (rs : Requests) (request : RequestId) :
    (rs.poll polled).2.seen? request
      = if request = polled then if rs.seen? request = some none then some none else none
        else rs.seen? request := by
  by_cases hrequest : request = polled
  · rw [if_pos hrequest]
    by_cases hpending : rs.known? request = some none
    · rw [if_pos (seen?_eq_pending.2 hpending), seen?, known?_poll, if_neg fun h => h.2 hpending,
        hpending]
      rfl
    · rw [if_neg fun h => hpending (seen?_eq_pending.1 h), seen?, known?_poll,
        if_pos ⟨hrequest, hpending⟩]
      rfl
  · rw [if_neg hrequest, seen?, known?_poll, if_neg fun h => hrequest h.1]
    rfl

/-- Requests of which some were given out before the others, and the others are the same. -/
structure Like (earlier : Nat) (rs rs' : Requests) : Prop where
  next : rs'.next = earlier + rs.next
  seen : ∀ request : RequestId, rs'.seen? (request.later earlier) = rs.seen? request

namespace Like

theorem created (h : Like earlier rs rs') : rs'.create.1 = rs.create.1.later earlier :=
  congrArg RequestId.mk h.next

theorem isHeld (h : Like earlier rs rs') (request : RequestId) :
    rs'.isHeld (request.later earlier) = rs.isHeld request := by
  rw [isHeld_eq_seen?, isHeld_eq_seen?, h.seen]

/-- To look at a request shows the same answer. -/
theorem poll_fst (h : Like earlier rs rs') (request : RequestId) :
    (rs'.poll (request.later earlier)).1.map DrawResult.anonymous
      = (rs.poll request).1.map DrawResult.anonymous := by
  rw [poll_anonymous, poll_anonymous, h.seen]

/-- What is done about one request leaves the others as they are. -/
theorem update (h : Like earlier rs rs') {changed changed' : Requests} (target : RequestId)
    (hnext : changed'.next = earlier + changed.next)
    (htarget : changed'.seen? (target.later earlier) = changed.seen? target)
    (hothers : ∀ request, request ≠ target → changed.seen? request = rs.seen? request)
    (hothers' : ∀ request, request ≠ target.later earlier →
      changed'.seen? request = rs'.seen? request) :
    Like earlier changed changed' where
  next := hnext
  seen := by
    intro request
    by_cases hrequest : request = target
    · rw [hrequest, htarget]
    · rw [hothers request hrequest,
        hothers' _ fun heq => hrequest (RequestId.later_inj.1 heq), h.seen]

theorem create (h : Like earlier rs rs') (hbelow : rs.Below) (hbelow' : rs'.Below) :
    Like earlier rs.create.2 rs'.create.2 := by
  refine h.update rs.create.1 ?_ ?_ ?_ ?_
  · rw [next_create, next_create, h.next, Nat.add_assoc]
  · rw [seen?_create hbelow, seen?_create hbelow', if_pos rfl, if_pos h.created.symm]
  · intro request hrequest
    rw [seen?_create hbelow, if_neg hrequest]
  · intro request hrequest
    rw [seen?_create hbelow', if_neg (h.created ▸ hrequest)]

theorem answer (h : Like earlier rs rs') (answered : RequestId) {r r' : DrawResult}
    (hr : r'.anonymous = r.anonymous) :
    Like earlier (rs.answer answered r) (rs'.answer (answered.later earlier) r') := by
  refine h.update answered h.next ?_ ?_ ?_
  · rw [seen?_answer, seen?_answer, if_pos rfl, if_pos rfl, h.seen, hr]
  · exact fun request hrequest => (seen?_answer _ _ _ _).trans (if_neg hrequest)
  · exact fun request hrequest => (seen?_answer _ _ _ _).trans (if_neg hrequest)

theorem drop (h : Like earlier rs rs') (dropped : RequestId) :
    Like earlier (rs.drop dropped) (rs'.drop (dropped.later earlier)) := by
  refine h.update dropped h.next ?_ ?_ ?_
  · rw [seen?_drop, seen?_drop, if_pos rfl, if_pos rfl]
  · exact fun request hrequest => (seen?_drop _ _ _).trans (if_neg hrequest)
  · exact fun request hrequest => (seen?_drop _ _ _).trans (if_neg hrequest)

theorem poll (h : Like earlier rs rs') (polled : RequestId) :
    Like earlier (rs.poll polled).2 (rs'.poll (polled.later earlier)).2 := by
  refine h.update polled ?_ ?_ ?_ ?_
  · rw [next_poll, next_poll, h.next]
  · rw [seen?_poll, seen?_poll, if_pos rfl, if_pos rfl, h.seen]
  · exact fun request hrequest => (seen?_poll _ _ _).trans (if_neg hrequest)
  · exact fun request hrequest => (seen?_poll _ _ _).trans (if_neg hrequest)

end Like

end Requests

/-! ## The bus -/

/-- A bus that told the application something before the other did, and the same since. -/
structure Bus.Like (told : List Notification) (b b' : Bus) : Prop where
  listening : b'.listening = b.listening
  published : ∃ news, b'.published = told ++ news ∧
    news.map Notification.anonymous = b.published.map Notification.anonymous

theorem Bus.Like.publish {told : List Notification} {b b' : Bus} (h : Like told b b')
    {n n' : Notification} (hn : n'.anonymous = n.anonymous) :
    Like told (b.publish n) (b'.publish n') := by
  obtain ⟨news, hpublished, hsame⟩ := h.published
  unfold Bus.publish
  rw [h.listening]
  split
  · refine ⟨rfl, news ++ [n'], ?_, ?_⟩
    · simp only [hpublished, List.append_assoc]
    · simp only [List.map_append, hsame, List.map_cons, hn, List.map_nil]
  · exact h

theorem Bus.Like.tell {told : List Notification} {b b' : Bus} (h : Like told b b')
    {n? n'? : Option Notification}
    (hn : n'?.map Notification.anonymous = n?.map Notification.anonymous) :
    Like told (b.tell n?) (b'.tell n'?) := by
  cases n? with
  | none =>
      obtain rfl := Option.map_eq_none_iff.1 hn
      exact h
  | some n =>
      obtain ⟨n', rfl, hsame⟩ := Option.map_eq_some_iff.1 hn
      exact h.publish hsame

/-! ## The draw mode -/

namespace DrawMode

variable {earlier : Nat} {d d' : DrawMode}

/-- **Draw modes that cannot be told apart,** where the second has given out requests before the
first began. -/
structure Like (earlier : Nat) (d d' : DrawMode) : Prop where
  active : d'.active = d.active.map (·.later earlier)
  retiring : d'.retiring = d.retiring
  requests : Requests.Like earlier d.requests d'.requests

namespace Like

theorem evict (h : Like earlier d d') (p : Viewport) :
    Like earlier (d.evict p).1 (d'.evict p).1 ∧ (d'.evict p).2 = (d.evict p).2 := by
  unfold DrawMode.evict
  rw [h.active]
  cases d.active with
  | none => exact ⟨h, rfl⟩
  | some s =>
      simp only [Option.map_some, DrawSession.later, h.requests.isHeld]
      split
      · exact ⟨h, rfl⟩
      · exact ⟨⟨rfl, h.retiring, h.requests⟩, rfl⟩

/-- A session that starts gets the same layer and the request that corresponds. -/
theorem start (h : Like earlier d d') (hbelow : d.requests.Below) (hbelow' : d'.requests.Below)
    (shape : ShapeKind) (options : DrawOptions) (p : Viewport) :
    (d'.start shape options p).1 = (d.start shape options p).1.map (·.later earlier) ∧
      Like earlier (d.start shape options p).2.1 (d'.start shape options p).2.1 ∧
      (d'.start shape options p).2.2 = (d.start shape options p).2.2 := by
  -- What is in the way goes first, in both or in neither; from there on both start from idle draw
  -- modes that are like each other, or refuse.
  obtain ⟨hevict, hviewport⟩ := h.evict p
  rw [← evict_requests d p] at hbelow
  rw [← evict_requests d' p] at hbelow'
  unfold DrawMode.start
  generalize d'.evict p = evicted' at *
  generalize d.evict p = evicted at *
  obtain ⟨e, q⟩ := evicted
  obtain ⟨e', q'⟩ := evicted'
  obtain rfl : q' = q := hviewport
  simp only at hevict hbelow hbelow' ⊢
  rw [hevict.active]
  cases hactive : e.active with
  | some s => exact ⟨rfl, hevict, rfl⟩
  | none =>
      simp only [Option.map_none]
      rcases openLayer shape q' with ⟨error | ⟨layer, subscription⟩, r⟩
      · exact ⟨rfl, hevict, rfl⟩
      · refine ⟨congrArg Except.ok hevict.requests.created, ⟨?_, hevict.retiring, ?_⟩, rfl⟩
        · simp only [Option.map_some, DrawSession.later, hevict.requests.created]
        · exact hevict.requests.create hbelow hbelow'

theorem cancel (h : Like earlier d d') (p : Viewport) :
    (d'.cancel p).1 = (d.cancel p).1 ∧ Like earlier (d.cancel p).2.1 (d'.cancel p).2.1 ∧
      (d'.cancel p).2.2 = (d.cancel p).2.2 := by
  have hactive' := h.active
  cases hactive : d.active with
  | none =>
      rw [hactive, Option.map_none] at hactive'
      rw [cancel_eq_self hactive, cancel_eq_self hactive']
      exact ⟨rfl, h, rfl⟩
  | some s =>
      rw [hactive, Option.map_some] at hactive'
      rw [cancel_eq_discard hactive, cancel_eq_discard hactive']
      exact ⟨rfl, ⟨rfl, h.retiring, h.requests.answer s.request rfl⟩, rfl⟩

theorem retire (h : Like earlier d d') (p : Viewport) :
    (d'.retire p).1 = (d.retire p).1 ∧ Like earlier (d.retire p).2.1 (d'.retire p).2.1 ∧
      (d'.retire p).2.2 = (d.retire p).2.2 := by
  unfold DrawMode.retire
  rw [h.retiring]
  exact ⟨rfl, ⟨h.active, rfl, h.requests⟩, rfl⟩

theorem completed? (h : Like earlier d d') (layer : LayerHandle) (drawn : Drawn) :
    d'.completed? layer drawn = (d.completed? layer drawn).map (·.later earlier) := by
  unfold DrawMode.completed?
  rw [h.active, Option.filter_map]
  rfl

/-- A drawing completes the session in both or in neither. -/
theorem annotationChanged (h : Like earlier d d') (layer : LayerHandle) (drawn : Drawn)
    {told : List Notification} {bus bus' : Bus} (hbus : Bus.Like told bus bus')
    (supply supply' : Identity.Supply) :
    (d'.annotationChanged layer drawn bus' supply').1
        = (d.annotationChanged layer drawn bus supply).1 ∧
      Like earlier (d.annotationChanged layer drawn bus supply).2.1
        (d'.annotationChanged layer drawn bus' supply').2.1 ∧
      Bus.Like told (d.annotationChanged layer drawn bus supply).2.2.1
        (d'.annotationChanged layer drawn bus' supply').2.2.1 := by
  have hcompleted' := h.completed? layer drawn
  cases hcompleted : d.completed? layer drawn with
  | none =>
      rw [hcompleted, Option.map_none] at hcompleted'
      rw [annotationChanged_eq_self (completed?_eq_none.1 hcompleted),
        annotationChanged_eq_self (completed?_eq_none.1 hcompleted')]
      exact ⟨rfl, h, hbus⟩
  | some s =>
      rw [hcompleted, Option.map_some] at hcompleted'
      obtain ⟨next, heq⟩ := annotationChanged_completed hcompleted bus supply
      obtain ⟨next', heq'⟩ := annotationChanged_completed hcompleted' bus' supply'
      have hanswer := drawn.answer_anonymous supply' supply
      rw [heq, heq']
      refine ⟨rfl, ⟨rfl, ?_, h.requests.answer s.request hanswer⟩, hbus.tell ?_⟩
      · show d'.retiring ++ _ = d.retiring ++ _
        rw [h.retiring]
        rfl
      · rw [DrawResult.notice?_anonymous, DrawResult.notice?_anonymous, hanswer]
        rfl

end Like

end DrawMode

end ImageOverlay
