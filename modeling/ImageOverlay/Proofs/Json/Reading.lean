import ImageOverlay.Proofs.Json.Tokens

set_option autoImplicit false

/-!
# Doubles that are read back

A double is written with digits of which it is the nearest double. So it is read back by a reading
that takes the nearest double (`NumberReading.nearest_faithful`). One that rounds more than once may
miss it: what the text of a double is read as (`NumberReading.again?`) is then another double, or is
too large for one, but it is never a whole number.
-/

namespace ImageOverlay.NumberReading

open Parsed Json

variable {reading : NumberReading} {x : Float}

/-- What the text of a double is read as. -/
def again? (reading : NumberReading) (x : Float) : Option JsonNumber :=
  (numberRest? reading (realText x)).map (·.1)

/-- A double is read back from its text. -/
def Restores (reading : NumberReading) (x : Float) : Prop := reading.again? x = some (.real x)

instance (reading : NumberReading) (x : Float) : Decidable (reading.Restores x) :=
  inferInstanceAs (Decidable (_ = _))

/-- Finite doubles are written so that they are read back. -/
def Faithful (reading : NumberReading) : Prop := ∀ x : Float, x.isFinite = true → reading.Restores x

/-- Finite doubles are written so that they are read as finite doubles, if not as the same ones. -/
def Accepts (reading : NumberReading) : Prop :=
  ∀ x : Float, x.isFinite = true → ∃ y, reading.again? x = some (.real y)

theorem realText_of_finite (hx : x.isFinite = true) : realText x = numberLayout.text x := by
  obtain ⟨_, _, _, hexact⟩ := (Exact.isFinite_iff x).1 hx
  unfold realText
  rw [hexact]

theorem realText_of_not_finite (hx : ¬ x.isFinite = true) : realText x = "null".toList := by
  unfold realText
  split
  · exact absurd ((Exact.isFinite_iff x).2 ⟨_, _, _, ‹_›⟩) hx
  · rfl

/-- **The text of a finite double is read by its parts,** of which the double is the nearest one.
What follows the text makes no difference. -/
theorem exists_numeral_again (reading : NumberReading) (hx : x.isFinite = true) :
    ∃ negative, ∃ n : Numeral, Decimal.value negative n.digits n.power = x ∧
      (n.digits = 0 ∨ ∃ m e, ∃ hc : Canonical m e, x = hc.double negative ∧
        Rounding.RoundsTo (n.digits * 10 ^ n.power) m e) ∧
      reading.again? x
        = some (reading.number negative n.whole n.fraction (n.exponent.getD 0)) ∧
      ∀ {rest}, Ends rest → numberRest? reading (realText x ++ rest)
        = some (reading.number negative n.whole n.fraction (n.exponent.getD 0), rest) := by
  obtain ⟨negative, n, hn, htext, hvalue, hrounds, -⟩ := numberLayout.exists_numeral_text hx
  have hread : ∀ {rest}, Ends rest → numberRest? reading (realText x ++ rest)
      = some (reading.number negative n.whole n.fraction (n.exponent.getD 0), rest) := by
    intro rest hrest
    rw [realText_of_finite hx, htext, List.append_assoc]
    exact numberRest?_text reading hn negative hrest
  refine ⟨negative, n, hvalue, hrounds, ?_, hread⟩
  rw [again?, ← List.append_nil (realText x), hread (show Ends [] from nofun), Option.map_some]

/-- What is not finite has no text that is a number. -/
theorem again?_of_not_finite (hx : ¬ x.isFinite = true) : reading.again? x = none := by
  rw [again?, realText_of_not_finite hx]
  rfl

theorem number_ne_int (negative : Bool) (whole fraction : List Char) (e n : ℤ) :
    reading.number negative whole fraction e ≠ .int n := by
  unfold number
  simp only
  split <;> nofun

theorem again?_ne_int (n : ℤ) : reading.again? x ≠ some (.int n) := by
  by_cases hx : x.isFinite = true
  · obtain ⟨negative, _, -, -, hagain, -⟩ := exists_numeral_again reading hx
    rw [hagain]
    exact fun h => number_ne_int _ _ _ _ _ (Option.some.inj h)
  · rw [again?_of_not_finite hx]
    nofun

theorem Restores.isFinite (h : reading.Restores x) : x.isFinite = true := by
  by_contra hx
  rw [Restores, again?_of_not_finite hx] at h
  cases h

/-- **The nearest double is the one that was written.** -/
theorem nearest_faithful : nearest.Faithful := by
  intro x hx
  obtain ⟨negative, n, hvalue, -, hagain, -⟩ := exists_numeral_again nearest hx
  have hread : nearest.value negative n.whole n.fraction (n.exponent.getD 0) = x := hvalue
  rw [Restores, hagain, number, hread, if_pos hx]

end ImageOverlay.NumberReading
