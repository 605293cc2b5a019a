import ImageOverlay.Bus
import ImageOverlay.Convert
import ImageOverlay.Viewport.Call

set_option autoImplicit false

/-!
# Draw sessions

A session asks the user for one shape. It ends with an outcome, the shape as it was drawn and the
element it became, or with an error; either way exactly one answer goes to whoever started it.
-/

namespace ImageOverlay

/-- How a session behaves: whether the application is told of its element. -/
structure DrawOptions where
  trigger : Bool := true
deriving DecidableEq, Repr

/-- Options that keep the element from the application. -/
def DrawOptions.silent : DrawOptions := { trigger := false }

/-- Options are a record. -/
def DrawOptions.decoder : Decoder DrawOptions := fun p => do
  match ← Decode.fields [["trigger"]] p with
  | [trigger] => some { trigger := ← Decode.orDefault true Decode.bool trigger }
  | _ => none

/-- Options as an object. -/
def DrawOptions.toJson (o : DrawOptions) : Json := .obj [("trigger", .bool o.trigger)]

/-- What a session has produced. The element always has an identity. -/
structure DrawOutcome where
  element : Element
  drawn : Drawn
deriving DecidableEq, Repr

/-- Why there is no outcome. -/
inductive DrawError where
  | missingViewport
  | sessionBusy
  | cancelled
  | abandoned
  | conversion (cause : ConvertError)
  | viewport (cause : ViewportError)
deriving DecidableEq, Repr

/-- The error in words. -/
def DrawError.message : DrawError → String
  | .missingViewport => "draw mode requires an active viewport"
  | .sessionBusy => "a draw-mode session is already awaiting a shape"
  | .cancelled => "draw-mode session was cancelled"
  | .abandoned => "draw-mode session was dropped before a shape was produced"
  | .conversion cause => "drawn shape could not be converted: " ++ cause.message
  | .viewport cause => "viewport error: " ++ cause.message

/-- The answer to whoever started a session. -/
abbrev DrawResult := Except DrawError DrawOutcome

/-- The region of an answer. -/
def DrawResult.region (r : DrawResult) : Except DrawError Region :=
  match r with
  | .error e => .error e
  | .ok outcome =>
    match Region.ofElement outcome.element with
    | .ok region => .ok region
    | .error e => .error (.conversion e)

end ImageOverlay
