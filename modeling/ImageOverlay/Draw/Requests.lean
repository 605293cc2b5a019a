import ImageOverlay.Draw.Session

set_option autoImplicit false

/-!
# Requests

Whoever starts a session holds a request for its answer. The request is pending until the session
answers it, and gone as soon as the answer is taken or its holder drops it. An answer to a request
that nobody holds any more is lost, and a request is answered at most once.
-/

namespace ImageOverlay

/-- A request for the answer of a session. -/
structure RequestId where
  number : Nat
deriving DecidableEq, Repr

/-- What there is to know about a request. -/
inductive Poll (α : Type) where
  | notHeld
  | pending
  | ready (answer : α)
deriving DecidableEq, Repr

/-- The same knowledge about a value made from the answer. -/
def Poll.map {α β : Type} (f : α → β) : Poll α → Poll β
  | .notHeld => .notHeld
  | .pending => .pending
  | .ready a => .ready (f a)

/-- The requests that are held, with the answers that are there. -/
structure Requests where
  next : Nat := 0
  held : List (RequestId × Option DrawResult) := []

namespace Requests

/-- A new request, held and pending. -/
def create (rs : Requests) : RequestId × Requests :=
  let id : RequestId := ⟨rs.next⟩
  (id, { next := rs.next + 1, held := rs.held ++ [(id, none)] })

/-- Whether somebody still waits for the answer, or has not taken it yet. -/
def isHeld (id : RequestId) (rs : Requests) : Bool := (rs.held.lookup id).isSome

/-- Answer a request; the first answer stays. -/
def answer (id : RequestId) (r : DrawResult) (rs : Requests) : Requests :=
  { rs with held := rs.held.map fun (i, a) => if i = id then (i, some (a.getD r)) else (i, a) }

/-- Drop a request. -/
def drop (id : RequestId) (rs : Requests) : Requests :=
  { rs with held := rs.held.filter (·.1 ≠ id) }

/-- Look at a request and take the answer, if it is there. -/
def poll (id : RequestId) (rs : Requests) : Poll DrawResult × Requests :=
  match rs.held.lookup id with
  | none => (.notHeld, rs)
  | some none => (.pending, rs)
  | some (some r) => (.ready r, rs.drop id)

end Requests

end ImageOverlay
