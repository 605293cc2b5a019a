import ImageOverlay.Draw.Requests
import ImageOverlay.Viewport.Basic

set_option autoImplicit false

/-!
# Draw mode

At most one session waits for a shape at a time. It owns a drawing layer of the map and a
subscription to the shapes drawn there. When the shape is done the session is over, but its layer
has to outlive the event that said so, because the map still draws with it: the layer retires,
and is deleted when the owner of the draw mode says so. A new session may start before that.

A session whose request was dropped is abandoned: the next session to start takes its place.
-/

namespace ImageOverlay

/-- The session that waits for a shape. -/
structure DrawSession where
  shape : ShapeKind
  layer : LayerHandle
  subscription : SubscriptionId
  options : DrawOptions
  request : RequestId
deriving DecidableEq, Repr

/-- The layer of a session that is over. -/
structure RetiringLayer where
  layer : LayerHandle
  subscription : SubscriptionId
deriving DecidableEq, Repr

/-- The session that waits, the layers that retire, in the order their sessions ended, and the
requests. -/
structure DrawMode where
  active : Option DrawSession := none
  retiring : List RetiringLayer := []
  requests : Requests := {}

/-- What an outsider sees of the draw mode. -/
inductive DrawState where
  | idle
  | awaiting (shape : ShapeKind)
  | resolved
deriving DecidableEq, Repr

namespace DrawMode

/-- Nothing to do, a session that waits, or only layers to delete. -/
def state (d : DrawMode) : DrawState :=
  match d.active with
  | some session => .awaiting session.shape
  | none => if d.retiring.isEmpty then .idle else .resolved

/-- The layer the user draws on. -/
def activeLayer? (d : DrawMode) : Option LayerHandle := d.active.map (·.layer)

/-! ## Layers of sessions -/

/-- Delete the layer of a session. -/
def discard (layer : LayerHandle) (subscription : SubscriptionId) (v : Viewport) : Viewport :=
  (v.unsubscribe subscription).deleteLayer layer

/-- A new layer that lets the user draw one kind of shape, and a subscription to it. If the map
refuses halfway, the layer is deleted again. -/
def openLayer (shape : ShapeKind) (v : Viewport) :
    Except ViewportError (LayerHandle × SubscriptionId) × Viewport :=
  match v.createLayer .annotationDraw with
  | (.error e, v) => (.error e, v)
  | (.ok layer, v) =>
    match v.setInteractionMode layer (some shape) with
    | (.error e, v) => (.error e, v.deleteLayer layer)
    | (.ok (), v) =>
      match v.subscribe layer with
      | (.error e, v) => (.error e, v.deleteLayer layer)
      | (.ok subscription, v) => (.ok (layer, subscription), v)

/-- Remove a session whose request was dropped. -/
def evict (d : DrawMode) (v : Viewport) : DrawMode × Viewport :=
  match d.active with
  | none => (d, v)
  | some session =>
    if d.requests.isHeld session.request then (d, v)
    else ({ d with active := none }, discard session.layer session.subscription v)

/-! ## The life of a session -/

/-- Start a session, unless one is waiting. -/
def start (shape : ShapeKind) (options : DrawOptions) (d : DrawMode) (v : Viewport) :
    Except DrawError RequestId × DrawMode × Viewport :=
  let (d, v) := d.evict v
  match d.active with
  | some _ => (.error .sessionBusy, d, v)
  | none =>
    match openLayer shape v with
    | (.error e, v) => (.error (.viewport e), d, v)
    | (.ok (layer, subscription), v) =>
      let (request, requests) := d.requests.create
      let session : DrawSession := { shape, layer, subscription, options, request }
      (.ok request, { d with active := some session, requests }, v)

/-- The session that a drawing on a layer completes: the one that waits, if the layer is its own
and the drawing is done. -/
def completed? (layer : LayerHandle) (drawn : Drawn) (d : DrawMode) : Option DrawSession :=
  d.active.filter fun session => session.layer = layer ∧ drawn.state = .done

/-- A session ends with an answer; its layer retires. -/
def conclude (session : DrawSession) (r : DrawResult) (d : DrawMode) : DrawMode :=
  { active := none
    retiring := d.retiring ++ [⟨session.layer, session.subscription⟩]
    requests := d.requests.answer session.request r }

/-- The user has changed a drawing on a layer. If that completes the session, the answer is `true`,
the element or the error goes to its request, and the element is published first, if the session
wants that. Anything else is ignored. -/
def annotationChanged (layer : LayerHandle) (drawn : Drawn) (d : DrawMode) (bus : Bus)
    (supply : Identity.Supply) : Bool × DrawMode × Bus × Identity.Supply :=
  match d.completed? layer drawn with
  | none => (false, d, bus, supply)
  | some session =>
    match convert drawn with
    | .error e => (true, d.conclude session (.error (.conversion e)), bus, supply)
    | .ok element =>
      let (element, supply) := element.identified supply
      let bus :=
        if session.options.trigger then bus.publish (.annotationCreated element drawn) else bus
      (true, d.conclude session (.ok { element, drawn }), bus, supply)

/-- Delete the layers that retire; the number says how many they were. -/
def retire (d : DrawMode) (v : Viewport) : Nat × DrawMode × Viewport :=
  (d.retiring.length, { d with retiring := [] },
    d.retiring.foldl (fun v r => discard r.layer r.subscription v) v)

/-- End the session that waits without a shape and delete its layer; `false` if none waits. The
map is asked to leave the drawing of shapes first, but it does not matter if it refuses. -/
def cancel (d : DrawMode) (v : Viewport) : Bool × DrawMode × Viewport :=
  match d.active with
  | none => (false, d, v)
  | some session =>
    let (_, v) := v.setInteractionMode session.layer none
    let requests := d.requests.answer session.request (.error .cancelled)
    (true, { d with active := none, requests }, discard session.layer session.subscription v)

/-- Give up the draw mode without the help of a map: a request that waits is answered, and what
was on the map stays there. -/
def abandon (d : DrawMode) : DrawMode :=
  match d.active with
  | none => { d with retiring := [] }
  | some session =>
    { active := none
      retiring := []
      requests := d.requests.answer session.request (.error .abandoned) }

end DrawMode

end ImageOverlay
