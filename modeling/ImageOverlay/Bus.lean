import ImageOverlay.Annotation.Drawn
import ImageOverlay.Region

set_option autoImplicit false

/-!
# The bus

The application around a viewer is told of two things: that an image is on the map, and that a
drawing has become an element. A bus carries these notifications in order; once its listener is
gone they are dropped.

A region the application asked for is not told over the bus but put into a slot that the
application chose, or that was made for the purpose.
-/

namespace ImageOverlay

/-! ## Notifications -/

/-- What the application is told. -/
inductive Notification where
  | annotationCreated (element : Element) (drawn : Drawn)
  | imageRendered (item : String) (width height : UInt32)
deriving DecidableEq, Repr

/-- A notification as an object. -/
def Notification.toJson : Notification → Json
  | .annotationCreated element drawn =>
    .obj [("event", .str "annotationCreated"), ("element", element.toJson),
      ("raw", drawn.toJson)]
  | .imageRendered item width height =>
    .obj [("event", .str "imageRendered"), ("item", .str item), ("width", .int width.toNat),
      ("height", .int height.toNat)]

/-- The notifications that reached the application, and whether it still listens. -/
structure Bus where
  published : List Notification := []
  listening : Bool := true
deriving DecidableEq, Repr

namespace Bus

/-- Tell the application, if it listens. -/
def publish (n : Notification) (b : Bus) : Bus :=
  if b.listening then { b with published := b.published ++ [n] } else b

/-- The application stops listening. -/
def close (b : Bus) : Bus := { b with listening := false }

end Bus

/-! ## Slots for regions -/

/-- A slot for a region. -/
structure SlotId where
  number : Nat
deriving DecidableEq, Repr

/-- The slots made so far, and the regions in those that are not empty. -/
structure RegionSlots where
  next : Nat := 0
  regions : List (SlotId × Region) := []
deriving DecidableEq, Repr

namespace RegionSlots

/-- Make an empty slot. -/
def create (s : RegionSlots) : SlotId × RegionSlots := (⟨s.next⟩, { s with next := s.next + 1 })

/-- The region in a slot. -/
def region? (slot : SlotId) (s : RegionSlots) : Option Region := s.regions.lookup slot

/-- Put a region into a slot in place of the one that is there. -/
def put (slot : SlotId) (r : Region) (s : RegionSlots) : RegionSlots :=
  { s with regions := (slot, r) :: s.regions.filter (·.1 ≠ slot) }

end RegionSlots

end ImageOverlay
