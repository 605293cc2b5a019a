import ImageOverlay.Region
import ImageOverlay.Proofs.Convert.Usable
import Mathlib.Data.List.Rotate

set_option autoImplicit false

/-!
# Boxes dragged on the map

A user draws a box from any of its corners in either direction, and the drawing layer may repeat
the corner it began with. If the corners are whole pixels no arithmetic is rounded, so the region
of the box is known to the pixel: `region_of_drag`.

A drag counts in one way. The first edge is the width and the second one the height, and a region
does not see how they are turned. So a box whose first edge goes up or down has its sides exchanged
about its middle (`Box.around`).
-/

namespace ImageOverlay

open List

/-! ## Boxes and ways round them -/

section EitherOrder

/-- Two numbers in either order. -/
def EitherOrder (k l x x' : ℤ) : Prop := (x, x') = (k, l) ∨ (x, x') = (l, k)

variable {k l x x' : ℤ}

theorem EitherOrder.symm (h : EitherOrder k l x x') : EitherOrder k l x' x := by
  rcases h with h | h <;> cases h
  · exact .inr rfl
  · exact .inl rfl

theorem EitherOrder.sub_mul_self (h : EitherOrder k l x x') :
    (x' - x) * (x' - x) = (l - k) * (l - k) := by
  rcases h with h | h <;> cases h
  · rfl
  · ring

theorem EitherOrder.add_eq (h : EitherOrder k l x x') : x + x' = k + l := by
  rcases h with h | h <;> cases h
  · rfl
  · exact add_comm _ _

theorem EitherOrder.ne (h : EitherOrder k l x x') (hne : k ≠ l) : x ≠ x' := by
  rcases h with h | h <;> cases h
  · exact hne
  · exact hne.symm

/-- What is known of four corners along one axis, between the edges `k` and `l`: how far the first
two sides go, and where the middle is. -/
structure Along (k l u v a b c d : ℤ) : Prop where
  first : (b - a) * (b - a) = u * u
  second : (c - b) * (c - b) = v * v
  middle : a + b + c + d = 2 * (k + l)
  near : ∀ i ∈ [a, b, c, d], |i| ≤ 2 ^ 30

theorem EitherOrder.near (h : EitherOrder k l x x') (hk : |k| ≤ 2 ^ 30) (hl : |l| ≤ 2 ^ 30) :
    |x| ≤ 2 ^ 30 ∧ |x'| ≤ 2 ^ 30 := by
  rcases h with h | h <;> cases h
  · exact ⟨hk, hl⟩
  · exact ⟨hl, hk⟩

/-- The first side leads from edge to edge, and the third one back. -/
theorem EitherOrder.crosses (h : EitherOrder k l x x') (hk : |k| ≤ 2 ^ 30) (hl : |l| ≤ 2 ^ 30) :
    Along k l (l - k) 0 x x' x' x := by
  have hsum := h.add_eq
  obtain ⟨hx, hx'⟩ := h.near hk hl
  refine ⟨h.sub_mul_self, by rw [sub_self], by omega, ?_⟩
  simp only [List.forall_mem_cons]
  exact ⟨hx, hx', hx', hx, nofun⟩

/-- The first side stays on an edge, and the second one leads to the other. -/
theorem EitherOrder.rests (h : EitherOrder k l x x') (hk : |k| ≤ 2 ^ 30) (hl : |l| ≤ 2 ^ 30) :
    Along k l 0 (l - k) x x x' x' := by
  have hsum := h.add_eq
  obtain ⟨hx, hx'⟩ := h.near hk hl
  refine ⟨by rw [sub_self], h.sub_mul_self, by omega, ?_⟩
  simp only [List.forall_mem_cons]
  exact ⟨hx, hx, hx', hx', nofun⟩

end EitherOrder

/-- A box of whole pixels, none of them far out. -/
structure Box where
  left : ℤ
  top : ℤ
  right : ℤ
  bottom : ℤ
  wide : left < right
  high : top < bottom
  near : ∀ k ∈ [left, top, right, bottom], |k| ≤ 2 ^ 30

/-- Whether the first edge of a path neither rises nor falls. -/
def startsLevel : List (ℤ × ℤ) → Bool
  | p :: q :: _ => p.2 == q.2
  | _ => false

namespace Box

def width (B : Box) : ℤ := B.right - B.left

def height (B : Box) : ℤ := B.bottom - B.top

/-- The corners from the upper left one to the right. -/
def corners (B : Box) : List (ℤ × ℤ) :=
  [(B.left, B.top), (B.right, B.top), (B.right, B.bottom), (B.left, B.bottom)]

/-- Once round the box, from any corner in either direction. -/
def GoesRound (B : Box) (path : List (ℤ × ℤ)) : Prop :=
  B.corners ~r path ∨ B.corners.reverse ~r path

/-- The region with sides of these lengths about the middle of the box. -/
def around (B : Box) (w h : ℤ) : Region where
  left := roundAway ((B.left + B.right - w : ℤ) / 2)
  top := roundAway ((B.top + B.bottom - h : ℤ) / 2)
  width := w
  height := h

/-- The ways round the box by their first edge. -/
inductive Way (B : Box) : List (ℤ × ℤ) → Prop
  | level {x x' y y' : ℤ} (hx : EitherOrder B.left B.right x x')
      (hy : EitherOrder B.top B.bottom y y') :
    Way B [(x, y), (x', y), (x', y'), (x, y')]
  | upright {x x' y y' : ℤ} (hx : EitherOrder B.left B.right x x')
      (hy : EitherOrder B.top B.bottom y y') :
    Way B [(x, y), (x, y'), (x', y'), (x', y)]

theorem width_pos (B : Box) : 0 < B.width := Int.sub_pos.2 B.wide

theorem height_pos (B : Box) : 0 < B.height := Int.sub_pos.2 B.high

theorem edges_near (B : Box) :
    |B.left| ≤ 2 ^ 30 ∧ |B.top| ≤ 2 ^ 30 ∧ |B.right| ≤ 2 ^ 30 ∧ |B.bottom| ≤ 2 ^ 30 := by
  simpa using B.near

theorem width_le (B : Box) : B.width ≤ 2 ^ 31 := by
  have hnear := B.near
  simp only [List.forall_mem_cons, abs_le] at hnear
  unfold width
  omega

theorem height_le (B : Box) : B.height ≤ 2 ^ 31 := by
  have hnear := B.near
  simp only [List.forall_mem_cons, abs_le] at hnear
  unfold height
  omega

/-- The lengths of the first two edges of a way round a box. -/
def edges (B : Box) (path : List (ℤ × ℤ)) : ℤ × ℤ :=
  if startsLevel path then (B.width, B.height) else (B.height, B.width)

theorem edges_bounds (B : Box) (path : List (ℤ × ℤ)) :
    0 < (B.edges path).1 ∧ (B.edges path).1 ≤ 2 ^ 31 ∧
      0 < (B.edges path).2 ∧ (B.edges path).2 ≤ 2 ^ 31 := by
  unfold edges
  split
  · exact ⟨B.width_pos, B.width_le, B.height_pos, B.height_le⟩
  · exact ⟨B.height_pos, B.height_le, B.width_pos, B.width_le⟩

/-- With its own sides it is the box. -/
theorem around_self (B : Box) : B.around B.width B.height = ⟨B.left, B.top, B.width, B.height⟩ := by
  have hhalf : ∀ k l : ℤ, ((k + l - (l - k) : ℤ) : ℚ) / 2 = k := by
    intro k l
    push_cast
    ring
  simp only [around, width, height, hhalf, roundAway_intCast]

variable {B : Box} {path : List (ℤ × ℤ)}

/-- One corner further on. -/
theorem Way.rotate_one (hway : B.Way path) : B.Way (path.rotate 1) := by
  cases hway with
  | level hx hy => exact .upright hx.symm hy
  | upright hx hy => exact .level hx hy.symm

/-- The other way round. -/
theorem Way.reverse (hway : B.Way path) : B.Way path.reverse := by
  cases hway with
  | level hx hy => exact .level hx hy.symm
  | upright hx hy => exact .upright hx.symm hy

/-- From any corner. -/
theorem Way.rotate (hway : B.Way path) (n : ℕ) : B.Way (path.rotate n) := by
  induction n with
  | zero => rwa [List.rotate_zero]
  | succ n ih =>
      rw [← List.rotate_rotate]
      exact ih.rotate_one

theorem GoesRound.way (hround : B.GoesRound path) : B.Way path := by
  have hcorners : B.Way B.corners := .level (.inl rfl) (.inl rfl)
  rcases hround with ⟨n, rfl⟩ | ⟨n, rfl⟩
  · exact hcorners.rotate n
  · exact hcorners.reverse.rotate n

end Box

/-! ## Whole pixels -/

/-- A position on a whole pixel. A coordinate of zero may have either sign. -/
structure Position.LiesAt (p : Position) (c : ℤ × ℤ) : Prop where
  x : Exactly p.x c.1
  y : Exactly p.y c.2

/-- The positions of a drag along a path, with the first corner repeated at the end or not. -/
def Follows (ps : List Position) (path : List (ℤ × ℤ)) : Prop :=
  Forall₂ Position.LiesAt ps path ∨ Forall₂ Position.LiesAt ps (path ++ path.take 1)

section Pixels

variable {x : Float} {xs : List Float} {ks : List ℤ} {q : ℚ}

theorem Position.LiesAt.storable {p : Position} {c : ℤ × ℤ} (h : p.LiesAt c) : p.Storable :=
  ⟨h.x.isFinite, h.y.isFinite⟩

theorem Follows.storable {ps : List Position} {path : List (ℤ × ℤ)} (hps : Follows ps path) :
    ∀ p ∈ ps, p.Storable := by
  have hlie : ∀ {corners : List (ℤ × ℤ)}, Forall₂ Position.LiesAt ps corners →
      ∀ p ∈ ps, p.Storable :=
    fun h => ((forall₂_and_left _ _).1 (h.imp fun _ _ hp => ⟨hp.storable, hp⟩)).1
  exact hps.elim hlie hlie

theorem Convert.exactly_sum (hxs : Forall₂ (fun (x : Float) (k : ℤ) => Exactly x k) xs ks)
    (hsmall : (ks.map fun k => |k|).sum < 2 ^ 53) : Exactly (Convert.sum xs) ks.sum := by
  have hzero : Exactly (-0.0) (0 : ℤ) := by
    rw [Int.cast_zero]
    exact exactly_zero .negative
  have hsum := exactly_foldl hxs hzero (by rwa [abs_zero, zero_add])
  rwa [zero_add] at hsum

/-- The pixel next to a number that is in range. -/
theorem Region.pixels_eq (hx : Exactly x q) (hq : |q| ≤ 2 ^ 62) :
    Region.pixels x = roundAway q := by
  have hround : |roundAway q| < 2 ^ 63 := by
    have hle := abs_roundAway_le q
    rw [← Int.cast_abs] at hle
    have hlt : ((|roundAway q| : ℤ) : ℚ) < (2 ^ 63 : ℤ) := by
      push_cast at hle ⊢
      linarith
    exact_mod_cast hlt
  rw [abs_lt] at hround
  rw [Region.pixels, hx.nearest, Whole.toInt64Range, Whole.clamp]
  simp only [Int.pow_eq]
  omega

end Pixels

/-! ## From four corners to a region -/

namespace Convert

/-- What is read off four corners that lie on whole pixels: the lengths of the first edge and of
the second, and where the middle of the box is. -/
structure Fixes (B : Box) (w h : ℤ) (p q r s : ℤ × ℤ) : Prop where
  first : (q.1 - p.1) * (q.1 - p.1) + (q.2 - p.2) * (q.2 - p.2) = w * w
  second : (r.1 - q.1) * (r.1 - q.1) + (r.2 - q.2) * (r.2 - q.2) = h * h
  across : p.1 + q.1 + r.1 + s.1 = 2 * (B.left + B.right)
  down : p.2 + q.2 + r.2 + s.2 = 2 * (B.top + B.bottom)
  near_x : ∀ k ∈ [p.1, q.1, r.1, s.1], |k| ≤ 2 ^ 30
  near_y : ∀ k ∈ [p.2, q.2, r.2, s.2], |k| ≤ 2 ^ 30

variable {B : Box} {a b c z : Position} {p q r s : ℤ × ℤ} {w h m k₁ k₂ k₃ k₄ : ℤ}
  {x₁ x₂ x₃ x₄ : Float}

theorem exactly_side (ha : a.LiesAt p) (hb : b.LiesAt q) (hx : |q.1 - p.1| < 2 ^ 53)
    (hy : |q.2 - p.2| < 2 ^ 53) (hw : 0 ≤ w) (hsmall : w < 2 ^ 53)
    (hlength : (q.1 - p.1) * (q.1 - p.1) + (q.2 - p.2) * (q.2 - p.2) = w * w) :
    Exactly (side a b) w := by
  have hsquares : ((q.1 - p.1 : ℤ) : ℚ) * (q.1 - p.1 : ℤ) + (q.2 - p.2 : ℤ) * (q.2 - p.2 : ℤ)
      = w * w := by exact_mod_cast hlength
  exact (hb.x.sub_int ha.x hx).hypotenuse (hb.y.sub_int ha.y hy) (by exact_mod_cast hw) hsquares
    (representable_int (by rwa [abs_of_nonneg hw]))

/-- The middle of four numbers is half of what two opposite ones add up to. -/
theorem exactly_middle
    (hxs : Forall₂ (fun (x : Float) (k : ℤ) => Exactly x k) [x₁, x₂, x₃, x₄] [k₁, k₂, k₃, k₄])
    (hsmall : ∀ k ∈ [k₁, k₂, k₃, k₄], |k| ≤ 2 ^ 30) (hsum : k₁ + k₂ + k₃ + k₄ = 2 * m) :
    Exactly (sum [x₁, x₂, x₃, x₄] / 4.0) (m / 2) := by
  simp only [List.forall_mem_cons] at hsmall
  have hbound : ([k₁, k₂, k₃, k₄].map fun k => |k|).sum < 2 ^ 53 := by
    simp only [List.map_cons, List.map_nil, List.sum_cons, List.sum_nil]
    omega
  have hwhole := exactly_sum hxs hbound
  simp only [abs_le] at hsmall
  have htwice : [k₁, k₂, k₃, k₄].sum = 2 * m := by
    simp only [List.sum_cons, List.sum_nil]
    omega
  -- A quarter of an even number is a whole number of halves.
  have hhalf : (((2 * m : ℤ) : ℚ)) / 4 = m / 2 := by
    push_cast
    ring
  rw [htwice] at hwhole
  rw [← hhalf]
  refine hwhole.div exactly_four four_ne_zero ?_
  rw [hhalf]
  exact representable_half (by rw [abs_lt]; omega)

/-- The side of a region. -/
theorem pixels_side {x : Float} (hx : Exactly x w) (hw : |w| ≤ 2 ^ 32) : Region.pixels x = w := by
  have hsmall : |w| ≤ 2 ^ 62 := hw.trans (by norm_num)
  rw [Region.pixels_eq hx (by exact_mod_cast hsmall), roundAway_intCast]

theorem ofCorners_of_sides (hwidth : (side a b == 0.0) = false)
    (hheight : (side b c == 0.0) = false) : ofCorners a b c z = .ok
      (.rectangle ⟨sum [a.x, b.x, c.x, z.x] / 4.0, sum [a.y, b.y, c.y, z.y] / 4.0, 0.0⟩
        (side a b) (side b c) (Angle.ofVector (b.y - a.y) (b.x - a.x))) := by
  change (if (side a b == 0.0 || side b c == 0.0) = true then _ else _) = _
  rw [hwidth, hheight]
  rfl

/-- The edge of a region that is half of a side away from the middle. -/
theorem pixels_edge {x y : Float} (hx : Exactly x (m / 2)) (hy : Exactly y w)
    (hm : |m| ≤ 2 ^ 32) (hw : |w| ≤ 2 ^ 32) :
    Region.pixels (x - y / 2.0) = roundAway ((m - w : ℤ) / 2) := by
  rw [abs_le] at hm hw
  have hdiff : ((m : ℚ) / 2 - w / 2) = ((m - w : ℤ) : ℚ) / 2 := by
    push_cast
    ring
  have hrep := representable_half (k := m - w) (by rw [abs_lt]; omega)
  have hhalf := hy.div exactly_two two_ne_zero (representable_half (by rw [abs_lt]; omega))
  rw [← hdiff] at hrep
  have hedge := hx.sub hhalf hrep
  rw [hdiff] at hedge
  refine Region.pixels_eq hedge ?_
  rw [abs_div, abs_two, div_le_iff₀ two_pos]
  have hsmall : |m - w| ≤ 2 ^ 62 * 2 := by
    rw [abs_le]
    omega
  exact_mod_cast hsmall

theorem region_of_fixes (hfixes : Fixes B w h p q r s) (hw : 0 < w) (hw' : w ≤ 2 ^ 31)
    (hh : 0 < h) (hh' : h ≤ 2 ^ 31) (ha : a.LiesAt p) (hb : b.LiesAt q) (hc : c.LiesAt r)
    (hz : z.LiesAt s) : ∃ shape, ofCorners a b c z = .ok shape ∧
      ∀ e : Element, e.shape = shape → Region.ofElement e = .ok (B.around w h) := by
  have hnear_x := hfixes.near_x
  have hnear_y := hfixes.near_y
  simp only [List.forall_mem_cons, abs_le] at hnear_x hnear_y
  have hwidth : Exactly (side a b) w :=
    exactly_side ha hb (by rw [abs_lt]; omega) (by rw [abs_lt]; omega) hw.le (by omega)
      hfixes.first
  have hheight : Exactly (side b c) h :=
    exactly_side hb hc (by rw [abs_lt]; omega) (by rw [abs_lt]; omega) hh.le (by omega)
      hfixes.second
  have hcenter_x : Exactly (sum [a.x, b.x, c.x, z.x] / 4.0) ((B.left + B.right : ℤ) / 2) :=
    exactly_middle (.cons ha.x (.cons hb.x (.cons hc.x (.cons hz.x .nil)))) hfixes.near_x
      hfixes.across
  have hcenter_y : Exactly (sum [a.y, b.y, c.y, z.y] / 4.0) ((B.top + B.bottom : ℤ) / 2) :=
    exactly_middle (.cons ha.y (.cons hb.y (.cons hc.y (.cons hz.y .nil)))) hfixes.near_y
      hfixes.down
  -- Only now something is rounded: each number of the region, once.
  refine ⟨_, ofCorners_of_sides (hwidth.beq_zero hw.ne') (hheight.beq_zero hh.ne'), ?_⟩
  intro e he
  rw [Region.ofElement, he, Box.around]
  have hacross := hfixes.across
  have hdown := hfixes.down
  simp only [Except.ok.injEq, Region.mk.injEq]
  refine ⟨pixels_edge hcenter_x hwidth ?_ ?_, pixels_edge hcenter_y hheight ?_ ?_,
    pixels_side hwidth ?_, pixels_side hheight ?_⟩
  all_goals
    rw [abs_le]
    omega

end Convert

/-! ## Drags -/

section Drags

variable {B : Box} {path : List (ℤ × ℤ)} {x x' y y' : ℤ} {d : Drawn}

/-- The sides are made up of what they are along each axis. -/
theorem Convert.fixes_of_along {p q r s : ℤ × ℤ} {w h u v u' v' : ℤ}
    (hx : Along B.left B.right u v p.1 q.1 r.1 s.1)
    (hy : Along B.top B.bottom u' v' p.2 q.2 r.2 s.2)
    (hfirst : u * u + u' * u' = w * w) (hsecond : v * v + v' * v' = h * h) :
    Convert.Fixes B w h p q r s where
  first := by rw [hx.first, hy.first, hfirst]
  second := by rw [hx.second, hy.second, hsecond]
  across := hx.middle
  down := hy.middle
  near_x := hx.near
  near_y := hy.near

theorem Convert.fixes_level (hx : EitherOrder B.left B.right x x')
    (hy : EitherOrder B.top B.bottom y y') :
    Convert.Fixes B B.width B.height (x, y) (x', y) (x', y') (x, y') := by
  obtain ⟨hleft, htop, hright, hbottom⟩ := B.edges_near
  refine Convert.fixes_of_along (hx.crosses hleft hright) (hy.rests htop hbottom) ?_ ?_
  · rw [mul_zero, add_zero]
    rfl
  · rw [mul_zero, zero_add]
    rfl

theorem Convert.fixes_upright (hx : EitherOrder B.left B.right x x')
    (hy : EitherOrder B.top B.bottom y y') :
    Convert.Fixes B B.height B.width (x, y) (x, y') (x', y') (x', y) := by
  obtain ⟨hleft, htop, hright, hbottom⟩ := B.edges_near
  refine Convert.fixes_of_along (hx.rests hleft hright) (hy.crosses htop hbottom) ?_ ?_
  · rw [mul_zero, zero_add]
    rfl
  · rw [mul_zero, add_zero]
    rfl

theorem Box.Way.fixes (hway : B.Way path) : ∃ p q r s, path = [p, q, r, s] ∧
    Convert.Fixes B (B.edges path).1 (B.edges path).2 p q r s := by
  cases hway with
  | @level x x' y y' hx hy =>
      have hedges : B.edges [(x, y), (x', y), (x', y'), (x, y')] = (B.width, B.height) :=
        if_pos (beq_self_eq_true y)
      rw [hedges]
      exact ⟨_, _, _, _, rfl, Convert.fixes_level hx hy⟩
  | @upright x x' y y' hx hy =>
      have hedges : B.edges [(x, y), (x, y'), (x', y'), (x', y)] = (B.height, B.width) :=
        if_neg (by simpa [startsLevel] using hy.ne B.high.ne)
      rw [hedges]
      exact ⟨_, _, _, _, rfl, Convert.fixes_upright hx hy⟩

/-- A corner that comes back to where the drag began is dropped. -/
theorem Convert.rectangle_of_follows {ps : List Position} {p q r s : ℤ × ℤ}
    (hps : Follows ps [p, q, r, s]) : ∃ a b c z, rectangle ps = ofCorners a b c z ∧
      a.LiesAt p ∧ b.LiesAt q ∧ c.LiesAt r ∧ z.LiesAt s := by
  rcases hps with hps | hps
  · obtain _ | ⟨ha, _ | ⟨hb, _ | ⟨hc, _ | ⟨hz, _ | _⟩⟩⟩⟩ := hps
    exact ⟨_, _, _, _, rfl, ha, hb, hc, hz⟩
  · obtain _ | ⟨ha, _ | ⟨hb, _ | ⟨hc, _ | ⟨hz, _ | ⟨he, _ | _⟩⟩⟩⟩⟩ := hps
    refine ⟨_, _, _, _, if_pos ?_, ha, hb, hc, hz⟩
    -- The fifth position need not be the first one: zeros may differ in their signs.
    rw [Bool.and_eq_true, ha.x.beq_iff he.x, ha.y.beq_iff he.y]
    exact ⟨rfl, rfl⟩

/-- **The region of a dragged box** is the box if the first edge is level or the box is a square.
Otherwise it is what the box with its sides exchanged is. -/
theorem region_of_drag (B : Box) (hround : B.GoesRound path) (hkind : d.kind = .rectangle)
    (hdrawn : Follows d.coordinates path) : ∃ e, convert d = .ok e ∧ Region.ofElement e = .ok
      (if startsLevel path ∨ B.width = B.height then ⟨B.left, B.top, B.width, B.height⟩
        else B.around B.height B.width) := by
  obtain ⟨p, q, r, s, rfl, hfixes⟩ := hround.way.fixes
  obtain ⟨hw, hw', hh, hh'⟩ := B.edges_bounds [p, q, r, s]
  obtain ⟨a, b, c, z, hrectangle, ha, hb, hc, hz⟩ := Convert.rectangle_of_follows hdrawn
  obtain ⟨shape, hcorners, hregion⟩ :=
    Convert.region_of_fixes hfixes hw hw' hh hh' ha hb hc hz
  have hshape : Convert.shape d.kind d.coordinates = .ok shape := by
    rw [hkind]
    exact hrectangle.trans hcorners
  refine ⟨_, Convert.convert_of_shape hdrawn.storable hshape, ?_⟩
  rw [hregion _ rfl, Box.edges]
  by_cases hlevel : startsLevel [p, q, r, s] = true
  · rw [if_pos hlevel, if_pos (.inl hlevel), B.around_self]
  · rw [if_neg hlevel]
    -- A square has no other sides to exchange.
    by_cases hsquare : B.width = B.height
    · rw [if_pos (.inr hsquare), ← B.around_self, hsquare]
    · rw [if_neg (not_or.2 ⟨hlevel, hsquare⟩)]

end Drags

/-- Four pixels wide and two pixels high. -/
def flatBox : Box := ⟨0, 0, 4, 2, by decide, by decide, by decide⟩

/-- The box drawn downwards from the upper left corner, with that corner repeated. -/
def uprightDrag : Drawn where
  kind := .rectangle
  coordinates := [⟨0.0, 0.0⟩, ⟨0.0, 2.0⟩, ⟨4.0, 2.0⟩, ⟨4.0, 0.0⟩, ⟨0.0, 0.0⟩]

/-- The corners it goes through. -/
def uprightPath : List (ℤ × ℤ) := [(0, 0), (0, 2), (4, 2), (4, 0)]

theorem uprightDrag_follows : Follows uprightDrag.coordinates uprightPath := by
  have hzero : Exactly 0.0 ((0 : ℤ) : ℚ) := by
    rw [Int.cast_zero]
    exact exactly_zero .positive
  have htwo : Exactly 2.0 ((2 : ℤ) : ℚ) := exactly_two
  have hfour : Exactly 4.0 ((4 : ℤ) : ℚ) := exactly_four
  exact .inr (.cons ⟨hzero, hzero⟩ (.cons ⟨hzero, htwo⟩ (.cons ⟨hfour, htwo⟩
    (.cons ⟨hfour, hzero⟩ (.cons ⟨hzero, hzero⟩ .nil)))))

theorem uprightPath_goesRound : flatBox.GoesRound uprightPath := .inr ⟨3, rfl⟩

theorem region_of_drag_of_upright : flatBox.GoesRound uprightPath ∧
    uprightDrag.kind = .rectangle ∧ Follows uprightDrag.coordinates uprightPath ∧
      ∃ e, convert uprightDrag = .ok e ∧ Region.ofElement e = .ok
        (if startsLevel uprightPath ∨ flatBox.width = flatBox.height then
            ⟨flatBox.left, flatBox.top, flatBox.width, flatBox.height⟩
          else flatBox.around flatBox.height flatBox.width) :=
  ⟨uprightPath_goesRound, rfl, uprightDrag_follows,
    region_of_drag flatBox uprightPath_goesRound rfl uprightDrag_follows⟩

/-- It is a region two pixels wide and four pixels high, and not the box. -/
theorem uprightDrag_region : flatBox.GoesRound uprightPath ∧
    Follows uprightDrag.coordinates uprightPath ∧
      (convert uprightDrag >>= Region.ofElement) = .ok ⟨1, -1, 2, 4⟩ ∧
      (convert uprightDrag >>= Region.ofElement)
        ≠ .ok ⟨flatBox.left, flatBox.top, flatBox.width, flatBox.height⟩ := by
  have hregion : (convert uprightDrag >>= Region.ofElement) = .ok ⟨1, -1, 2, 4⟩ := by
    decide +kernel
  refine ⟨uprightPath_goesRound, uprightDrag_follows, hregion, ?_⟩
  rw [hregion]
  decide

end ImageOverlay
