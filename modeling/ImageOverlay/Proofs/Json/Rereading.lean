import ImageOverlay.Proofs.Json.Fields

set_option autoImplicit false

/-!
# Values that are read with other numbers

A reading that misses some doubles makes another value of a text: the numbers are the ones it reads
instead (`NumberReading.reread`), and nothing else is different. What it makes of the text is what
the nearest doubles are read from, if these numbers are written (`Json.Shallow.parsed_mapReals`). So
where no double is read as too large, all that holds of texts with the nearest doubles carries over.
-/

namespace ImageOverlay

open Json

variable {reading : NumberReading}

/-! ## Numbers -/

namespace NumberReading

variable {x y : Float}

/-- The double that is read for one that was written. -/
def reread (reading : NumberReading) (x : Float) : Float :=
  match reading.again? x with
  | some (.real y) => y
  | _ => x

/-- Only finite doubles are read. -/
theorem isFinite_of_again? (h : reading.again? x = some (.real y)) : y.isFinite = true := by
  by_cases hx : x.isFinite = true
  · obtain ⟨_, _, -, -, hagain, -⟩ := exists_numeral_again reading hx
    rw [hagain, number] at h
    split at h
    · obtain rfl := JsonNumber.real.inj (Option.some.inj h)
      assumption
    · cases h
  · rw [again?_of_not_finite hx] at h
    cases h

theorem Accepts.again? (h : reading.Accepts) (hx : x.isFinite = true) :
    reading.again? x = some (.real (reading.reread x)) := by
  obtain ⟨y, hy⟩ := h x hx
  rw [reread, hy]

theorem Accepts.isFinite_reread (h : reading.Accepts) (hx : x.isFinite = true) :
    (reading.reread x).isFinite = true :=
  isFinite_of_again? (h.again? hx)

/-- What is read for a double is what the nearest double is read from. -/
theorem Accepts.parsed_real (h : reading.Accepts) (x : Float) :
    (Json.real (reading.reread x)).parsed nearest = (Json.real x).parsed reading := by
  by_cases hx : x.isFinite = true
  · rw [Json.parsed_real (nearest_faithful _ (h.isFinite_reread hx)), parsed, h.again? hx]
  · have hnone : reading.again? x = none := again?_of_not_finite hx
    have hsame : reading.reread x = x := by rw [reread, hnone]
    rw [hsame, parsed, parsed, hnone, again?_of_not_finite hx]

end NumberReading

/-! ## Values -/

namespace Json

variable {f : Float → Float}

section

variable (f)

mutual

/-- The same value, with other doubles. -/
def mapReals : Json → Json
  | .real x => .real (f x)
  | .arr vs => .arr (mapRealsItems vs)
  | .obj ms => .obj (mapRealsMembers ms)
  | .null => .null
  | .bool b => .bool b
  | .int n => .int n
  | .str s => .str s

/-- The items of an array, with other doubles. -/
def mapRealsItems : List Json → List Json
  | [] => []
  | v :: rest => mapReals v :: mapRealsItems rest

/-- The members of an object, with other doubles. -/
def mapRealsMembers : List (String × Json) → List (String × Json)
  | [] => []
  | (k, v) :: rest => (k, mapReals v) :: mapRealsMembers rest

end

end

theorem mapRealsItems_eq (vs : List Json) : mapRealsItems f vs = vs.map (mapReals f) := by
  induction vs with
  | nil => rfl
  | cons v vs ih => rw [mapRealsItems, ih, List.map_cons]

theorem mapRealsMembers_eq (ms : List (String × Json)) :
    mapRealsMembers f ms = ms.map fun m => (m.1, m.2.mapReals f) := by
  induction ms with
  | nil => rfl
  | cons m ms ih => rw [mapRealsMembers, ih, List.map_cons]

/-- **A value is read as the value of the doubles that are read instead.** It has no whole numbers;
a great one of these would be read as a double, too. -/
theorem Shallow.parsed_mapReals {n : ℕ} {v : Json} (h : reading.Accepts) (hv : Shallow n v) :
    (v.mapReals reading.reread).parsed .nearest = v.parsed reading := by
  induction hv with
  | null | bool | str => rfl
  | real _ x => exact h.parsed_real x
  | arr _ ih =>
      rw [mapReals, parsed, parsed, mapRealsItems_eq, parsedItems_eq, parsedItems_eq,
        List.map_map]
      exact congrArg Parsed.array (List.map_congr_left ih)
  | obj _ ih =>
      rw [mapReals, parsed, parsed, mapRealsMembers_eq, parsedMembers_eq, parsedMembers_eq,
        List.map_map]
      refine congrArg Parsed.object (List.map_congr_left fun m hm => ?_)
      exact congrArg (Prod.mk _) (ih m hm)

end Json

end ImageOverlay
