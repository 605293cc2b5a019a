import ImageOverlay.Proofs.Annotation.Rereading
import ImageOverlay.Proofs.Convert.Vertices
import ImageOverlay.Proofs.Json.Scaled
import ImageOverlay.Proofs.Number.Angle
import ImageOverlay.Proofs.Number.Exactness
import ImageOverlay.Proofs.Number.Sign

set_option autoImplicit false

/-!
# What a converted element is good for

The coordinates of a drawn shape are finite, and a point or a polyline is made of these. Then the
element is `Usable`: all its numbers are finite, its JSON has no null in it, and an element is read
from its text (`Element.usable_of_storable`).

A rectangle is made of numbers that are computed. Its sides are longer than zero, and it is turned
by a finite angle, however far out the corners are. Its center and the lengths of its sides are
finite as long as every coordinate is below `2 ^ 1022`: the sum of four such numbers, and the length
of a vector of two differences of them, stay in the range of doubles (`isFinite_mean`,
`isFinite_side`). Beyond that they may be infinite or no number at all, and the rectangle is still
accepted (`convert_endless`).
-/

namespace ImageOverlay

open Json Rounding

/-! ## JSON without null -/

namespace Json

/-- A value that is written without a null; a double that is not finite is written as one. -/
inductive WithoutNull : Json → Prop
  | bool (b : Bool) : WithoutNull (.bool b)
  | int (n : ℤ) : WithoutNull (.int n)
  | real {x : Float} (hx : x.isFinite = true) : WithoutNull (.real x)
  | str (s : String) : WithoutNull (.str s)
  | arr {vs : List Json} (h : ∀ v ∈ vs, WithoutNull v) : WithoutNull (.arr vs)
  | obj {ms : List (String × Json)} (h : ∀ m ∈ ms, WithoutNull m.2) : WithoutNull (.obj ms)

/-- No member has a null in its value. -/
def AllWithoutNull (ms : List (String × Json)) : Prop := ∀ m ∈ ms, WithoutNull m.2

variable {ms ns : List (String × Json)}

@[simp]
theorem allWithoutNull_cons {m : String × Json} :
    AllWithoutNull (m :: ms) ↔ WithoutNull m.2 ∧ AllWithoutNull ms :=
  List.forall_mem_cons

@[simp]
theorem allWithoutNull_append :
    AllWithoutNull (ms ++ ns) ↔ AllWithoutNull ms ∧ AllWithoutNull ns :=
  List.forall_mem_append

@[simp]
theorem allWithoutNull_nil : AllWithoutNull [] := nofun

@[simp]
theorem allWithoutNull_member? {k : String} {v : Option Json} :
    AllWithoutNull (member? k v) ↔ ∀ w ∈ v, WithoutNull w := by
  cases v <;> simp [member?]

end Json

theorem Coordinate.withoutNull {c : Coordinate} (h : c.Storable) : c.toJson.WithoutNull :=
  .arr (by simp [WithoutNull.real h.x, WithoutNull.real h.y, WithoutNull.real h.z])

theorem Label.withoutNull {l : Label} (h : l.Storable) : l.toJson.WithoutNull := by
  have hsize : ∀ x ∈ l.fontSize, WithoutNull (.real x) := fun x hx => .real (h.fontSize x hx)
  refine .obj (show AllWithoutNull _ from ?_)
  simp_all [WithoutNull.str, Color.toJson]

theorem Shape.withoutNull {s : Shape} (h : s.Storable) : AllWithoutNull s.members := by
  cases s with
  | point center => simp [Shape.members, WithoutNull.str, Coordinate.withoutNull h]
  | polyline points closed =>
      have hpoints : (Json.arr (points.map Coordinate.toJson)).WithoutNull :=
        .arr (List.forall_mem_map.2 fun c hc => Coordinate.withoutNull (h c hc))
      simp [Shape.members, WithoutNull.str, WithoutNull.bool, hpoints]
  | rectangle center width height rotation | ellipse center width height rotation =>
      obtain ⟨hcenter, hwidth, hheight, hrotation⟩ := h
      simp [Shape.members, WithoutNull.str, Coordinate.withoutNull hcenter,
        WithoutNull.real hwidth, WithoutNull.real hheight, WithoutNull.real hrotation]
  | circle center radius =>
      simp [Shape.members, WithoutNull.str, Coordinate.withoutNull h.1, WithoutNull.real h.2]
  | arrow head tail =>
      have hpoints : (Json.arr [head.toJson, tail.toJson]).WithoutNull :=
        .arr (by simp [Coordinate.withoutNull h.1, Coordinate.withoutNull h.2])
      simp [Shape.members, WithoutNull.str, hpoints]

theorem ElementStyle.withoutNull {s : ElementStyle} (h : s.Storable) :
    AllWithoutNull s.members := by
  have hlabel : ∀ l ∈ s.label, l.toJson.WithoutNull := fun l hl => Label.withoutNull (h.label l hl)
  have hwidth : ∀ x ∈ s.lineWidth, WithoutNull (.real x) := fun x hx => .real (h.lineWidth x hx)
  simp_all [ElementStyle.members, WithoutNull.str, Color.toJson]

/-- The numbers of an element are finite, its JSON has no null in it, and that is read: as the
element, with the numbers that are read for its own; which are the same where finite doubles are
read back. -/
structure Element.Usable (e : Element) : Prop where
  finite : e.Storable
  noNull : e.toJson.WithoutNull
  read : Element.decoder.read e.toJson.render = some (e.mapNumbers NumberReading.scaled.reread)
  readBack (reading : NumberReading) (hreading : reading.Faithful) :
    Element.decoder.read e.toJson.render reading = some e

theorem Element.usable_of_storable {e : Element} (h : e.Storable) : e.Usable := by
  refine ⟨h, .obj (show AllWithoutNull _ from ?_), Element.reread NumberReading.scaled_accepts h,
    fun _ hreading => (Element.reads hreading h 0 (by decide)).render⟩
  simp [Shape.withoutNull h.shape, ElementStyle.withoutNull h.style, WithoutNull.str]

namespace Convert

variable {d : Drawn} {e : Element} {s : Shape} {ps : List Position} {p q a b c z : Position}

/-! ## Sizes and centers -/

/-- One of the coordinates is `2 ^ 1022` or more, on either side of zero. -/
def Far (p : Position) : Prop :=
  2 ^ (1022 : ℤ) ≤ |rational p.x| ∨ 2 ^ (1022 : ℤ) ≤ |rational p.y|

/-- Both coordinates are finite and below `2 ^ 1022`. -/
structure Near (p : Position) : Prop extends Position.Storable p where
  below_x : |rational p.x| < 2 ^ (1022 : ℤ)
  below_y : |rational p.y| < 2 ^ (1022 : ℤ)

theorem near_of_not_far (hp : p.Storable) (h : ¬ Far p) : Near p := by
  rw [Far, not_or, not_le, not_le] at h
  exact ⟨hp, h.1, h.2⟩

/-- The mean of four numbers is finite if their sum cannot leave the range of doubles. -/
theorem isFinite_mean {w x y z : Float} {k : ℤ} (hk : -1074 ≤ k) (hk' : k + 2 ≤ 971)
    (hw : Within w ((2 ^ 53 - 1 : ℕ) * 2 ^ k)) (hx : Within x ((2 ^ 53 - 1 : ℕ) * 2 ^ k))
    (hy : Within y ((2 ^ 53 - 1 : ℕ) * 2 ^ k)) (hz : Within z ((2 ^ 53 - 1 : ℕ) * 2 ^ k)) :
    (sum [w, x, y, z] / 4.0).isFinite = true := by
  have hpos := two_zpow_pos k
  have htwice : (2 : ℚ) ^ (k + 1) = 2 * 2 ^ k := by
    rw [zpow_add_one₀ two_ne_zero, mul_comm]
  have hfour : (2 : ℚ) ^ (k + 2) = 4 * 2 ^ k := by
    rw [zpow_add₀ two_ne_zero, mul_comm]
    norm_num
  have hzero : Within (-0.0) 0 := within_zero .negative le_rfl
  have hone : Within (-0.0 + w) ((2 ^ 53 - 1 : ℕ) * 2 ^ k) :=
    hzero.add (by norm_num) (by norm_num) hk (by omega) hw (by norm_num; linarith)
  have htwo : Within (-0.0 + w + x) ((2 ^ 53 - 1 : ℕ) * 2 ^ (k + 1)) :=
    hone.add (by norm_num) (by norm_num) (by omega) (by omega) hx (by
      rw [htwice]
      norm_num
      linarith)
  -- From here on the sum of two bounds is no bound of the same form: it is rounded up.
  have hthree : Within (-0.0 + w + x + y) ((3 * 2 ^ 51 - 1 : ℕ) * 2 ^ (k + 2)) :=
    htwo.add (by norm_num) (by norm_num) (by omega) (by omega) hy (by
      rw [htwice, hfour]
      norm_num
      linarith)
  have hsum : Within (-0.0 + w + x + y + z) ((2 ^ 53 - 1 : ℕ) * 2 ^ (k + 2)) :=
    hthree.add (by norm_num) (by norm_num) (by omega) (by omega) hz (by
      rw [hfour]
      norm_num
      linarith)
  have hrational : |rational 4.0| = 4 := by
    rw [exactly_four.eq]
    norm_num
  have hmean : Within ((-0.0 + w + x + y + z) / 4.0) ((2 ^ 53 - 1 : ℕ) * 2 ^ (k + 2)) :=
    hsum.div (by norm_num) (by norm_num) (by omega) (by omega) ⟨rfl, le_rfl⟩ four_pos
      hrational.ge (by
        rw [hfour]
        norm_num
        linarith)
  exact hmean.isFinite

/-- The side between two corners is a number. -/
theorem ofFloat_side_ne_nan (hp : p.Storable) (hq : q.Storable) :
    Exact.ofFloat (q.x - p.x) ≠ .nan ∧ Exact.ofFloat (q.y - p.y) ≠ .nan := by
  obtain ⟨_, hx⟩ := exists_hasSign_sub hq.x hp.x
  obtain ⟨_, hy⟩ := exists_hasSign_sub hq.y hp.y
  exact ⟨ofFloat_ne_nan hx, ofFloat_ne_nan hy⟩

/-- The length of a side, as it is computed. -/
def side (p q : Position) : Float := hypotenuse (q.x - p.x) (q.y - p.y)

theorem side_pos (hp : p.Storable) (hq : q.Storable) (h : (side p q == 0.0) = false) :
    0.0 < side p q := by
  obtain ⟨hx, hy⟩ := ofFloat_side_ne_nan hp hq
  exact pos_of_hasSign (hasSign_hypotenuse hx hy) h

theorem isFinite_side (hp : Near p) (hq : Near q) : (side p q).isFinite = true := by
  have hx : Within (q.x - p.x) (2 ^ (1022 + 1 : ℤ)) :=
    Within.sub_two_zpow ⟨hq.x, hq.below_x.le⟩ ⟨hp.x, hp.below_x.le⟩ (by norm_num) (by norm_num)
  have hy : Within (q.y - p.y) (2 ^ (1022 + 1 : ℤ)) :=
    Within.sub_two_zpow ⟨hq.y, hq.below_y.le⟩ ⟨hp.y, hp.below_y.le⟩ (by norm_num) (by norm_num)
  -- The length is below one and a half times `2 ^ 1023`, which leaves room for its last digits.
  have hlength : 3 / 2 * (2 : ℚ) ^ (1022 + 1 : ℤ) + 2 ^ (843 : ℤ)
      ≤ ((2 ^ 53 - 1 : ℕ) + 1 / 2) * 2 ^ (971 : ℤ) := by
    have hrest : (2 : ℚ) ^ (843 : ℤ) ≤ 2 ^ (971 : ℤ) :=
      zpow_le_zpow_right₀ one_le_two (by norm_num)
    have hsize := digits_mul_two_zpow (1022 + 1)
    rw [show (1022 + 1 - 52 : ℤ) = 971 from rfl] at hsize
    rw [← hsize]
    have hpos := two_zpow_pos 971
    generalize (2 : ℚ) ^ (971 : ℤ) = t at hrest hpos ⊢
    generalize (2 : ℚ) ^ (843 : ℤ) = r at hrest ⊢
    norm_num
    linarith
  exact (hx.hypotenuse (by norm_num) (by norm_num) (by norm_num) (by norm_num) hy
    (two_zpow_pos _) hlength).isFinite

/-! ## Rectangles -/

theorem ofCorners_eq_ok (h : ofCorners a b c z = .ok s) :
    (side a b == 0.0) = false ∧ (side b c == 0.0) = false ∧
      s = .rectangle ⟨sum [a.x, b.x, c.x, z.x] / 4.0, sum [a.y, b.y, c.y, z.y] / 4.0, 0.0⟩
        (side a b) (side b c) (Angle.ofVector (b.y - a.y) (b.x - a.x)) := by
  unfold ofCorners at h
  simp only at h
  split at h
  · cases h
  · rename_i hextent
    change ¬ (side a b == 0.0 || side b c == 0.0) = true at hextent
    rw [Bool.not_eq_true, Bool.or_eq_false_iff] at hextent
    exact ⟨hextent.1, hextent.2, (Except.ok.inj h).symm⟩

/-- A rectangle is made of four of the drawn positions. -/
theorem rectangle_eq_ok (h : rectangle ps = .ok s) :
    ∃ a ∈ ps, ∃ b ∈ ps, ∃ c ∈ ps, ∃ z ∈ ps, ofCorners a b c z = .ok s := by
  unfold rectangle at h
  split at h
  · exact ⟨_, by simp, _, by simp, _, by simp, _, by simp, h⟩
  · split at h
    · exact ⟨_, by simp, _, by simp, _, by simp, _, by simp, h⟩
    · cases h
  · cases h

/-- The sides of a rectangle are longer than zero, and its angle is finite. -/
def Proper : Shape → Prop
  | .rectangle _ width height rotation => 0.0 < width ∧ 0.0 < height ∧ rotation.isFinite = true
  | _ => True

theorem ofCorners_proper (ha : a.Storable) (hb : b.Storable) (hc : c.Storable)
    (h : ofCorners a b c z = .ok s) : Proper s := by
  obtain ⟨hwidth, hheight, rfl⟩ := ofCorners_eq_ok h
  obtain ⟨hx, hy⟩ := ofFloat_side_ne_nan ha hb
  exact ⟨side_pos ha hb hwidth, side_pos hb hc hheight, Angle.isFinite_ofVector hy hx⟩

theorem isFinite_zero : (0.0 : Float).isFinite = true := by decide

theorem ofCorners_storable (ha : Near a) (hb : Near b) (hc : Near c) (hz : Near z)
    (h : ofCorners a b c z = .ok s) : s.Storable := by
  obtain ⟨-, -, rfl⟩ := ofCorners_eq_ok h
  obtain ⟨hx, hy⟩ := ofFloat_side_ne_nan ha.toStorable hb.toStorable
  have hbelow : ∀ {x : Float}, x.isFinite = true → |rational x| < 2 ^ (1022 : ℤ) →
      Within x ((2 ^ 53 - 1 : ℕ) * 2 ^ (969 : ℤ)) :=
    fun hx hlt => within_of_lt hx hlt (by norm_num)
  refine ⟨⟨?_, ?_, isFinite_zero⟩, isFinite_side ha hb, isFinite_side hb hc,
    Angle.isFinite_ofVector hy hx⟩
  · exact isFinite_mean (by norm_num) (by norm_num) (hbelow ha.x ha.below_x)
      (hbelow hb.x hb.below_x) (hbelow hc.x hc.below_x) (hbelow hz.x hz.below_x)
  · exact isFinite_mean (by norm_num) (by norm_num) (hbelow ha.y ha.below_y)
      (hbelow hb.y hb.below_y) (hbelow hc.y hc.below_y) (hbelow hz.y hz.below_y)

/-! ## Elements -/

theorem flat_storable (hp : p.Storable) : (flat p).Storable := ⟨hp.x, hp.y, isFinite_zero⟩

theorem polyline_storable (h : ∀ p ∈ ps, p.Storable) (closed : Bool) :
    (Shape.polyline (ps.map flat) closed).Storable :=
  List.forall_mem_map.2 fun p hp => flat_storable (h p hp)

/-- What a drawing layer suggests is kept if it can be stored. -/
theorem style_storable (d : Drawn) : (style d).Storable where
  label := by
    intro l hl
    obtain ⟨value, -, rfl⟩ := Option.map_eq_some_iff.1 hl
    exact ⟨nofun, nofun⟩
  lineColor := by
    intro c hc
    obtain ⟨text, -, hparse⟩ := Option.bind_eq_some_iff.1 hc
    exact ⟨text, hparse⟩
  lineWidth := by
    intro x hx
    have hwidth := (Option.filter_eq_some_iff.1 hx).2
    rw [Bool.and_eq_true] at hwidth
    exact hwidth.1
  fillColor := by
    intro c hc
    obtain ⟨text, -, hparse⟩ := Option.bind_eq_some_iff.1 hc
    exact ⟨text, hparse⟩

/-- **A converted element is usable,** unless it is a rectangle with a corner too far out. The
sides of a rectangle are longer than zero and its angle is finite in any case. -/
theorem convert_usable (h : convert d = .ok e) :
    Proper e.shape ∧ (e.Usable ∨ d.kind = .rectangle ∧ ∃ p ∈ d.coordinates, Far p) := by
  obtain ⟨hfinite, hshape, hstyle⟩ := convert_eq_ok h
  have husable : e.shape.Storable → e.Usable := fun hs =>
    Element.usable_of_storable ⟨hs, hstyle ▸ style_storable d⟩
  cases hkind : d.kind with
  | point =>
      rw [hkind] at hshape
      obtain ⟨p, hp, hs⟩ := point_eq_ok.1 hshape
      rw [hs] at husable ⊢
      exact ⟨trivial, .inl (husable (flat_storable (hfinite p (by simp [hp]))))⟩
  | line =>
      rw [hkind] at hshape
      obtain ⟨-, hs⟩ := line_eq_ok.1 hshape
      rw [hs] at husable ⊢
      refine ⟨trivial, .inl (husable (polyline_storable ?_ _))⟩
      exact fun p hp => hfinite p ((collapse_sublist _).subset hp)
  | polygon =>
      rw [hkind] at hshape
      obtain ⟨-, -, hs⟩ := polygon_eq_ok.1 hshape
      rw [hs] at husable ⊢
      exact ⟨trivial, .inl (husable (polyline_storable (ringOf_storable hfinite) _))⟩
  | rectangle =>
      rw [hkind] at hshape
      obtain ⟨a, ha, b, hb, c, hc, z, hz, hcorners⟩ := rectangle_eq_ok hshape
      refine ⟨ofCorners_proper (hfinite a ha) (hfinite b hb) (hfinite c hc) hcorners, ?_⟩
      by_cases hfar : ∃ p ∈ d.coordinates, Far p
      · exact .inr ⟨rfl, hfar⟩
      · have hnear : ∀ p ∈ d.coordinates, Near p := fun p hp =>
          near_of_not_far (hfinite p hp) fun hpfar => hfar ⟨p, hp, hpfar⟩
        exact .inl (husable (ofCorners_storable (hnear a ha) (hnear b hb) (hnear c hc)
          (hnear z hz) hcorners))

/-- A square that stands on a corner. -/
def slantedSquare : Drawn where
  kind := .rectangle
  coordinates := [⟨0.0, 0.0⟩, ⟨3.0, 4.0⟩, ⟨-1.0, 7.0⟩, ⟨-4.0, 3.0⟩]
  strokeColor := some "#f80"
  strokeWidth := some 2.5

/-- What it is converted to. -/
def turnedSquare : Element where
  shape := .rectangle ⟨-0.5, 3.5, 0.0⟩ 5.0 5.0 0.9272952180016122
  style := { lineColor := Color.parse? "#f80", lineWidth := some 2.5 }

theorem convert_usable_of_square :
    convert slantedSquare = .ok turnedSquare ∧ Proper turnedSquare.shape ∧
      (turnedSquare.Usable ∨
        slantedSquare.kind = .rectangle ∧ ∃ p ∈ slantedSquare.coordinates, Far p) := by
  have h : convert slantedSquare = .ok turnedSquare := by decide +kernel
  exact ⟨h, convert_usable h⟩

/-- A square whose side is longer than any double. -/
def endlessSquare : Drawn where
  kind := .rectangle
  coordinates := [⟨-1e308, -1e308⟩, ⟨1e308, -1e308⟩, ⟨1e308, 1e308⟩, ⟨-1e308, 1e308⟩]

/-- It is accepted as a rectangle without a center and without an end. -/
theorem convert_endless : ∃ e center width height rotation, convert endlessSquare = .ok e ∧
    e.shape = .rectangle center width height rotation ∧ center.y.isFinite = false ∧
      width.isFinite = false ∧ height.isFinite = false := by
  refine ⟨{ shape := .rectangle ⟨0.0, -(1.0 / 0.0), 0.0⟩ (1.0 / 0.0) (1.0 / 0.0) 0.0 },
    ⟨0.0, -(1.0 / 0.0), 0.0⟩, 1.0 / 0.0, 1.0 / 0.0, 0.0, ?_, rfl, ?_, ?_, ?_⟩
  · decide +kernel
  · decide
  · decide
  · decide

end Convert

end ImageOverlay
