set_option autoImplicit false

/-!
# Ranges of characters

Properties of characters are kept as lists of ranges of code points, ends included.
-/

namespace ImageOverlay.Text

/-- Whether a code point lies in one of the ranges. -/
def inRanges (ranges : List (Nat × Nat)) (n : Nat) : Bool :=
  ranges.any fun (first, last) => first ≤ n && n ≤ last

end ImageOverlay.Text
