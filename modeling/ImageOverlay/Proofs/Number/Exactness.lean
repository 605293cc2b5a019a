import ImageOverlay.Proofs.Number.Range

set_option autoImplicit false

/-!
# Arithmetic without rounding

A result of arithmetic is rounded only if it has to be. Where the exact result has no more digits
than a double (`Representable`), it is the result: `Exactly x q` says that `x` is a finite double
and is `q`, and there is one lemma for each operation. Of a double that is known exactly it is known
what it is compared to be (`Exactly.beq_iff`) and to which whole number it is rounded
(`Exactly.nearest`).
-/

namespace ImageOverlay

open Float.Model Float.Model.UnpackedFloat Rounding

/-- A number that a double can be: it has no more than 53 digits, and they are neither too small nor
too great. -/
def Representable (q : ℚ) : Prop :=
  ∃ (n : ℕ) (e : ℤ), n < 2 ^ 53 ∧ -1022 ≤ e ∧ e ≤ 971 ∧ |q| = n * 2 ^ e

/-- A finite double that is a given number. Zero may have either sign. -/
structure Exactly (x : Float) (q : ℚ) : Prop where
  isFinite : x.isFinite = true
  eq : rational x = q

variable {x y : Float} {a b c q v : ℚ} {s : Sign} {u : UnpackedFloat} {k l : ℤ}

/-! ## Numbers that are doubles -/

theorem representable_scaled {k e : ℤ} (hk : |k| < 2 ^ 53) (he : -1022 ≤ e) (he' : e ≤ 971) :
    Representable (k * 2 ^ e) := by
  have hsize : k.natAbs < 2 ^ 53 := by
    have := Int.abs_eq_natAbs k
    omega
  refine ⟨k.natAbs, e, hsize, he, he', ?_⟩
  rw [abs_mul, abs_of_pos (two_zpow_pos e), Nat.cast_natAbs, Int.cast_abs]

theorem representable_int {k : ℤ} (hk : |k| < 2 ^ 53) : Representable k := by
  have h := representable_scaled hk (e := 0) (by norm_num) (by norm_num)
  rwa [zpow_zero, mul_one] at h

theorem representable_half (hk : |k| < 2 ^ 53) : Representable ((k : ℚ) / 2) := by
  have h := representable_scaled hk (e := -1) (by norm_num) (by norm_num)
  rwa [zpow_neg_one, ← div_eq_mul_inv] at h

/-- Only the size of a number counts. -/
theorem Representable.of_abs_eq (h : Representable a) (hb : |b| = |a|) : Representable b := by
  obtain ⟨n, e, hn, he, he', ha⟩ := h
  exact ⟨n, e, hn, he, he', hb.trans ha⟩

/-- The digits as a double keeps them. -/
theorem Representable.exists_canonical (h : Representable q) (hq : q ≠ 0) :
    ∃ m e, Canonical m e ∧ (m : ℚ) * 2 ^ e = |q| := by
  obtain ⟨n, e, hlt, he, he', hvalue⟩ := h
  have hpos : 0 < n := by
    rw [Nat.pos_iff_ne_zero]
    rintro rfl
    rw [Nat.cast_zero, zero_mul, abs_eq_zero] at hvalue
    exact hq hvalue
  have hlog : n.log2 < 53 := (Nat.log2_lt hpos.ne').2 hlt
  have hc := canonical_of_lt hpos hlt
  refine ⟨n * 2 ^ (52 - n.log2), e + (n.log2 - 52),
    ⟨hc.pos, hc.lt, by omega, by omega, .inl ?_⟩, ?_⟩
  · exact hc.normal.resolve_right (by omega)
  · rw [zpow_add₀ two_ne_zero, mul_left_comm, shifted_value hlog, hvalue, mul_comm]

/-! ## Values -/

theorem size_pos {m : ℕ} {e : ℤ} (hc : Canonical m e) : (0 : ℚ) < m * 2 ^ e :=
  mul_pos (by exact_mod_cast hc.pos) (two_zpow_pos e)

/-- A number with a sign. -/
theorem value_finite (s : Sign) {m : ℕ} (e : ℤ) (hpos : 0 < m) :
    Packed.value (.finite s m e hpos) = (s.apply 1 : ℤ) * (m * 2 ^ e : ℚ) := by
  cases s <;> simp [Packed.value, Sign.apply]

theorem exactly_zero (s : Sign) : Exactly (.ofModel (.pack (.zero s))) 0 := by
  have h := within_zero s (le_refl 0)
  exact ⟨h.isFinite, abs_nonpos_iff.1 h.le⟩

theorem Exactly.cases (h : Exactly x q) :
    (∃ s, x.toModel.unpack = .zero s ∧ q = 0) ∨
      ∃ s m e, ∃ hc : Canonical m e, x.toModel.unpack = .finite s m e hc.pos ∧
        q = (s.apply 1 : ℤ) * (m * 2 ^ e : ℚ) := by
  have hself : Within x |rational x| := ⟨h.isFinite, le_refl _⟩
  have hq := h.eq
  unfold rational at hq
  rcases hself.cases with ⟨s, hs⟩ | ⟨s, m, e, hc, hs, -⟩
  · rw [hs] at hq
    exact .inl ⟨s, hs, hq.symm⟩
  · rw [hs, value_finite] at hq
    exact .inr ⟨s, m, e, hc, hs, hq.symm⟩

theorem cast_apply (s : Sign) (m : ℕ) : ((s.apply (m : ℤ) : ℤ) : ℚ) = (s.apply 1 : ℤ) * m := by
  cases s <;> simp [Sign.apply]

theorem abs_sign_mul (s : Sign) (v : ℚ) : |(s.apply 1 : ℤ) * v| = |v| := by
  cases s <;> simp [Sign.apply]

/-- **What is representable is not rounded.** -/
theorem Rounding.Rounds.exactly (h : Rounds s v u) (hv : 0 < v) (hrep : Representable v) :
    Exactly (.ofModel (.pack u)) ((s.apply 1 : ℤ) * v) := by
  obtain ⟨m, e, hc, hvalue⟩ := hrep.exists_canonical hv.ne'
  rw [abs_of_pos hv] at hvalue
  rw [← hvalue] at h ⊢
  rw [h.eq hc (.of_eq m e)]
  refine ⟨(within_finite hc s (le_refl _)).isFinite, ?_⟩
  show Packed.value (Float.Model.pack (.finite s m e hc.pos)).unpack = _
  rw [Packed.unpack_pack hc, value_finite]

theorem exactly_two : Exactly 2.0 2 := by
  refine ⟨by decide, ?_⟩
  have hunpack : (2.0 : Float).toModel.unpack
      = .finite .positive 4503599627370496 (-51) (by norm_num) := by decide +kernel
  rw [rational, hunpack, value_finite]
  norm_num [Sign.apply]

theorem exactly_four : Exactly 4.0 4 := by
  refine ⟨by decide, ?_⟩
  have hunpack : (4.0 : Float).toModel.unpack
      = .finite .positive 4503599627370496 (-50) (by norm_num) := by decide +kernel
  rw [rational, hunpack, value_finite]
  norm_num [Sign.apply]

/-! ## Sums and differences -/

theorem exactly_normalize {k e : ℤ} (hrep : Representable (k * 2 ^ e)) :
    Exactly (.ofModel (.pack (UnpackedFloat.normalize Format.binary64 k e .positive)))
      (k * 2 ^ e) := by
  have hunit := two_zpow_pos e
  unfold UnpackedFloat.normalize
  -- It is the size that is rounded; the sign is put back afterwards.
  rcases lt_trichotomy k 0 with hk | rfl | hk
  · have hsize : ((-k).toNat : ℚ) = -k := by
      exact_mod_cast Int.toNat_of_nonneg (show 0 ≤ -k by omega)
    have hneg : Representable (-k * 2 ^ e : ℚ) := hrep.of_abs_eq (by rw [neg_mul, abs_neg])
    have hround := rounds_round (M := (-k).toNat) (by omega) e .negative
    rw [hsize] at hround
    have hpos : (0 : ℚ) < -k * 2 ^ e := mul_pos (by exact_mod_cast neg_pos.2 hk) hunit
    have hexactly := hround.exactly hpos hneg
    simp only [compare_lt_iff_lt.2 hk]
    simpa [Sign.apply] using hexactly
  · rw [Int.cast_zero, zero_mul]
    exact exactly_zero .positive
  · have hsize : (k.toNat : ℚ) = k := by exact_mod_cast Int.toNat_of_nonneg hk.le
    have hround := rounds_round (M := k.toNat) (by omega) e .positive
    rw [hsize] at hround
    have hpos : (0 : ℚ) < k * 2 ^ e := mul_pos (by exact_mod_cast hk) hunit
    have hexactly := hround.exactly hpos hrep
    simp only [compare_gt_iff_gt.2 hk]
    simpa [Sign.apply] using hexactly

theorem exactly_of_unpack {x : Float} (h : x.toModel.unpack = u) (hu : Exactly x q) :
    Exactly (.ofModel (.pack u)) q := by
  have hx : Float.ofModel (.pack u) = x := by
    rw [← h, pack_unpack]
  rwa [hx]

/-- A sum. -/
theorem Exactly.add (hx : Exactly x a) (hy : Exactly y b) (hrep : Representable (a + b)) :
    Exactly (x + y) (a + b) := by
  show Exactly (.ofModel (.pack
    (UnpackedFloat.add Format.binary64 x.toModel.unpack y.toModel.unpack))) _
  rcases hx.cases with ⟨s₁, hux, rfl⟩ | ⟨s₁, m₁, e₁, h₁, hux, ha⟩ <;>
    rcases hy.cases with ⟨s₂, huy, rfl⟩ | ⟨s₂, m₂, e₂, h₂, huy, hb⟩ <;> rw [hux, huy]
  · simp only [UnpackedFloat.add, add_zero]
    split <;> exact exactly_zero _
  · rw [zero_add]
    exact exactly_of_unpack huy hy
  · rw [add_zero]
    exact exactly_of_unpack hux hx
  · simp only [UnpackedFloat.add, decreaseExponent]
    generalize hmin : min e₁ e₂ = t
    have hsum : a + b = (s₁.apply (m₁ <<< (e₁ - t).toNat : ℕ)
        + s₂.apply (m₂ <<< (e₂ - t).toNat : ℕ) : ℤ) * 2 ^ t := by
      rw [Int.cast_add, cast_apply, cast_apply, Nat.shiftLeft_eq, Nat.shiftLeft_eq, add_mul,
        mul_assoc, mul_assoc, aligned_value (by omega), aligned_value (by omega), ha, hb]
    rw [hsum] at hrep ⊢
    exact exactly_normalize hrep

theorem Exactly.neg (hx : Exactly x a) : Exactly (-x) (-a) := by
  refine ⟨Exact.isFinite_neg hx.isFinite, ?_⟩
  unfold rational
  rw [unpack_neg]
  rcases hx.cases with ⟨s, hs, rfl⟩ | ⟨s, m, e, hc, hs, ha⟩
  · rw [hs]
    exact neg_zero.symm
  · rw [hs, UnpackedFloat.neg, value_finite, ha]
    have hsign : (-s).apply 1 = -s.apply 1 := by cases s <;> rfl
    rw [hsign, Int.cast_neg, neg_mul]

/-- A difference. -/
theorem Exactly.sub (hx : Exactly x a) (hy : Exactly y b) (hrep : Representable (a - b)) :
    Exactly (x - y) (a - b) := by
  rw [sub_eq_add_neg] at hrep ⊢
  rw [float_sub_eq_add_neg]
  exact hx.add hy.neg hrep

/-- A difference of whole numbers. -/
theorem Exactly.sub_int (hx : Exactly x k) (hy : Exactly y l) (hsmall : |k - l| < 2 ^ 53) :
    Exactly (x - y) (k - l : ℤ) := by
  have hrep := representable_int hsmall
  rw [Int.cast_sub] at hrep ⊢
  exact hx.sub hy hrep

/-- The size of the numbers bounds what the sum comes to on the way. -/
theorem exactly_foldl {xs : List Float} {ks : List ℤ}
    (hxs : List.Forall₂ (fun (x : Float) (k : ℤ) => Exactly x k) xs ks) :
    ∀ {x : Float} {k : ℤ}, Exactly x k → |k| + (ks.map fun k => |k|).sum < 2 ^ 53 →
      Exactly (xs.foldl (· + ·) x) (k + ks.sum : ℤ) := by
  induction hxs with
  | nil =>
      intro x k hx _
      rwa [List.foldl_nil, List.sum_nil, add_zero]
  | @cons y l ys ls hy _ ih =>
      intro x k hx hsmall
      rw [List.map_cons, List.sum_cons] at hsmall
      -- What is summed up so far and what is still to come share the bound.
      have hstep : |k + l| ≤ |k| + |l| := abs_add_le k l
      have hrest : (0 : ℤ) ≤ (ls.map fun k => |k|).sum :=
        List.sum_nonneg fun k hk => by
          obtain ⟨i, -, rfl⟩ := List.mem_map.1 hk
          exact abs_nonneg i
      have hrep : Representable ((k : ℚ) + l) := by
        rw [← Int.cast_add]
        exact representable_int (by omega)
      have hsum := hx.add hy hrep
      rw [← Int.cast_add] at hsum
      rw [List.foldl_cons, List.sum_cons, ← add_assoc]
      exact ih hsum (by omega)

theorem sign_div_eq_mul (s₁ s₂ : Sign) : s₁ / s₂ = s₁ * s₂ := rfl

/-- A quotient. -/
theorem Exactly.div (hx : Exactly x a) (hy : Exactly y b) (hb : b ≠ 0)
    (hrep : Representable (a / b)) : Exactly (x / y) (a / b) := by
  show Exactly (.ofModel (.pack
    (UnpackedFloat.div Format.binary64 x.toModel.unpack y.toModel.unpack))) _
  rcases hy.cases with ⟨s₂, huy, rfl⟩ | ⟨s₂, m₂, e₂, h₂, huy, hb'⟩
  · exact absurd rfl hb
  rcases hx.cases with ⟨s₁, hux, rfl⟩ | ⟨s₁, m₁, e₁, h₁, hux, ha⟩ <;> rw [hux, huy]
  · rw [zero_div]
    exact exactly_zero _
  · have hsign : (((s₁ / s₂).apply 1 : ℤ) : ℚ) = (s₁.apply 1 : ℤ) / (s₂.apply 1 : ℤ) := by
      cases s₁ <;> cases s₂ <;> norm_num [Sign.apply, sign_div_eq_mul]
    have hpos : (0 : ℚ) < m₁ * 2 ^ e₁ / (m₂ * 2 ^ e₂) := div_pos (size_pos h₁) (size_pos h₂)
    have hquot : a / b = ((s₁ / s₂).apply 1 : ℤ) * (m₁ * 2 ^ e₁ / (m₂ * 2 ^ e₂) : ℚ) := by
      rw [ha, hb', hsign, mul_div_mul_comm]
    rw [hquot] at hrep ⊢
    exact (rounds_div h₁.pos h₂.pos e₁ e₂ s₁ s₂).exactly hpos
      (hrep.of_abs_eq (abs_sign_mul _ _).symm)

/-! ## The length of a vector -/

/-- The exact number that a double stands for. -/
theorem Exactly.exact (h : Exactly x q) : ∃ negative m e,
    Exact.ofFloat x = .finite negative m e ∧
      q = ((signOf negative).apply 1 : ℤ) * (m * 2 ^ e : ℚ) := by
  unfold Exact.ofFloat
  rcases h.cases with ⟨s, hs, rfl⟩ | ⟨s, m, e, hc, hs, hq⟩
  · rw [hs]
    exact ⟨_, 0, 0, rfl, by simp⟩
  · rw [hs]
    refine ⟨_, m, e, rfl, ?_⟩
    rw [hq]
    cases s <;> rfl

/-- A whole number of units. -/
theorem exactly_toNearest {m : ℕ} {e : ℤ} (hrep : Representable (m * 2 ^ e)) :
    Exactly (Exact.toNearest false m e false) (m * 2 ^ e) := by
  rcases Nat.eq_zero_or_pos m with rfl | hpos
  · have hnothing : Exact.toNearest false 0 e false = .ofModel (.pack (.zero .positive)) :=
      congrArg (fun u => Float.ofModel (.pack u)) (roundWithAccuracy_zero (e - 64) .positive)
    rw [hnothing, Nat.cast_zero, zero_mul]
    exact exactly_zero .positive
  · obtain ⟨u, hu, hrounds⟩ := rounds_toNearest_exact hpos.ne' false e
    have hvalue : (0 : ℚ) < m * 2 ^ e :=
      mul_pos (by exact_mod_cast hpos) (two_zpow_pos e)
    have hexactly := hrounds.exactly hvalue hrep
    rw [hu]
    simpa [signOf, Sign.apply] using hexactly

/-- A number whose square is whole is whole. -/
theorem exists_nat_of_mul_self (hq : 0 ≤ q) {k : ℕ} (h : q * q = k) : ∃ n : ℕ, q = n := by
  have hden : q.den = 1 := by
    have hsquare : q.den * q.den = 1 := by
      rw [← Rat.mul_self_den, h]
      exact Rat.den_natCast k
    exact Nat.eq_one_of_mul_eq_one_left hsquare
  refine ⟨q.num.toNat, ?_⟩
  have hnum : (q.num : ℚ) = q := Rat.coe_int_num_of_den_eq_one hden
  rw [← hnum]
  exact_mod_cast (Int.toNat_of_nonneg (Rat.num_nonneg.2 hq)).symm

/-- A length. -/
theorem Exactly.hypotenuse (hx : Exactly x a) (hy : Exactly y b) (hc : 0 ≤ c)
    (hlength : a * a + b * b = c * c) (hrep : Representable c) :
    Exactly (hypotenuse x y) c := by
  obtain ⟨n₁, m₁, e₁, hux, ha⟩ := hx.exact
  obtain ⟨n₂, m₂, e₂, huy, hb⟩ := hy.exact
  unfold ImageOverlay.hypotenuse
  simp only [hux, huy, Nat.pow_eq]
  generalize hmin : min e₁ e₂ = t
  rw [← aligned_value (show t ≤ e₁ by omega)] at ha
  rw [← aligned_value (show t ≤ e₂ by omega)] at hb
  generalize m₁ * 2 ^ (e₁ - t).toNat = p at ha ⊢
  generalize m₂ * 2 ^ (e₂ - t).toNat = r at hb ⊢
  have hunit := two_zpow_pos t
  have hsign : ∀ s : Sign, (s.apply 1 : ℚ) * s.apply 1 = 1 := by
    intro s
    cases s <;> norm_num [Sign.apply]
  -- In units of `2^t` the legs are whole, so the square of the length is, and then the length.
  have hsquare : c / 2 ^ t * (c / 2 ^ t) = (p * p + r * r : ℕ) := by
    rw [div_mul_div_comm, ← hlength, div_eq_iff (mul_pos hunit hunit).ne', ha, hb]
    push_cast
    linear_combination ((p : ℚ) * 2 ^ t) ^ 2 * hsign (signOf n₁) +
      ((r : ℚ) * 2 ^ t) ^ 2 * hsign (signOf n₂)
  obtain ⟨n, hn⟩ := exists_nat_of_mul_self (div_nonneg hc hunit.le) hsquare
  rw [hn] at hsquare
  rw [div_eq_iff hunit.ne'] at hn
  have hshifted : ∃ root, (p * p + r * r) <<< 256 = root * root ∧
      (root : ℚ) * 2 ^ (t - 128) = c := by
    have hnat : n * n = p * p + r * r := by exact_mod_cast hsquare
    refine ⟨n * 2 ^ 128, ?_, ?_⟩
    · rw [← hnat, Nat.shiftLeft_eq]
      ring
    · have hsplit : (2 : ℚ) ^ t = 2 ^ (128 : ℕ) * 2 ^ (t - 128) := by
        rw [← zpow_natCast, ← zpow_add₀ two_ne_zero]
        congr 1
        push_cast
        ring
      rw [hn, hsplit]
      push_cast
      ring
  obtain ⟨root, hroot, hvalue⟩ := hshifted
  simp only [hroot, Nat.sqrt_eq, bne_self_eq_false]
  rw [← hvalue] at hrep ⊢
  exact exactly_toNearest hrep

/-! ## Comparing -/

theorem sign_mul_ne_zero (s : Sign) {m : ℕ} {e : ℤ} (hc : Canonical m e) :
    (s.apply 1 : ℤ) * (m * 2 ^ e : ℚ) ≠ 0 := by
  rw [← abs_ne_zero, abs_sign_mul]
  exact (abs_pos.2 (size_pos hc).ne').ne'

/-- A number other than zero has one sign and one size. -/
theorem sign_mul_inj {s s' : Sign} {v v' : ℚ} (hv : 0 < v) (hv' : 0 < v')
    (h : (s.apply 1 : ℤ) * v = (s'.apply 1 : ℤ) * v') : s = s' ∧ v = v' := by
  cases s <;> cases s' <;> simp only [Sign.apply, Int.cast_neg, Int.cast_one] at h <;>
    first
    | exact ⟨rfl, by linarith⟩
    | linarith

theorem Canonical.eq_of_value_eq {m m' : ℕ} {e e' : ℤ} (hc : Canonical m e)
    (hc' : Canonical m' e') (h : (m : ℚ) * 2 ^ e = m' * 2 ^ e') (s : Sign) :
    UnpackedFloat.finite s m e hc.pos = .finite s m' e' hc'.pos := by
  have hrounds := rounds_canonical hc s
  rw [h] at hrounds
  exact hrounds.eq hc' (.of_eq m' e')

/-- The same number is the same double but for the sign of a zero. -/
theorem Exactly.plain_eq (hx : Exactly x q) (hy : Exactly y q) : plain x = plain y := by
  unfold plain
  rcases hx.cases with ⟨s₁, hux, hq⟩ | ⟨s₁, m₁, e₁, h₁, hux, hq⟩ <;>
    rcases hy.cases with ⟨s₂, huy, hq'⟩ | ⟨s₂, m₂, e₂, h₂, huy, hq'⟩ <;> rw [hux, huy]
  · rfl
  · exact absurd (hq'.symm.trans hq) (sign_mul_ne_zero s₂ h₂)
  · exact absurd (hq.symm.trans hq') (sign_mul_ne_zero s₁ h₁)
  · obtain ⟨rfl, hsize⟩ := sign_mul_inj (size_pos h₁) (size_pos h₂) (hq.symm.trans hq')
    exact congrArg Packed.plain (h₁.eq_of_value_eq h₂ hsize s₁)

/-- Doubles that are known exactly are compared as the numbers they are. -/
theorem Exactly.beq_iff (hx : Exactly x a) (hy : Exactly y b) : (x == y) = true ↔ a = b := by
  rw [beq_iff_plain_eq hx.isFinite hy.isFinite]
  constructor
  · intro h
    rw [← hx.eq, ← hy.eq]
    unfold rational
    rcases Packed.plain_eq_plain h with heq | ⟨s, s', hs, hs'⟩
    · rw [heq]
    · rw [hs, hs']
      rfl
  · rintro rfl
    exact hx.plain_eq hy

theorem Exactly.beq_zero (hx : Exactly x k) (hk : k ≠ 0) : (x == 0.0) = false := by
  have hzero : Exactly 0.0 0 := exactly_zero .positive
  rw [← Bool.not_eq_true, hx.beq_iff hzero]
  exact_mod_cast hk

/-! ## Rounding to a whole number -/

/-- The nearest whole number, a half away from zero. -/
def roundAway (q : ℚ) : ℤ := if q < 0 then -⌊-q + 1 / 2⌋ else ⌊q + 1 / 2⌋

theorem floor_add_half (k : ℤ) : ⌊(k : ℚ) + 1 / 2⌋ = k := by
  rw [Int.floor_intCast_add, show ⌊(1 / 2 : ℚ)⌋ = 0 by norm_num, add_zero]

theorem roundAway_of_nonneg (hq : 0 ≤ q) : roundAway q = ⌊q + 1 / 2⌋ := if_neg hq.not_gt

theorem roundAway_neg (hq : 0 ≤ q) : roundAway (-q) = -roundAway q := by
  rw [roundAway_of_nonneg hq]
  rcases hq.eq_or_lt with rfl | hpos
  · norm_num [roundAway]
  · rw [roundAway, if_pos (neg_neg_iff_pos.2 hpos), neg_neg]

theorem roundAway_intCast (k : ℤ) : roundAway k = k := by
  unfold roundAway
  split
  · rw [← Int.cast_neg, floor_add_half, neg_neg]
  · exact floor_add_half k

/-- Half a unit up, and the fraction dropped. -/
theorem nearestScaled_false (m : ℕ) (e : ℤ) :
    nearestScaled false m e = ⌊(m * 2 ^ e : ℚ) + 1 / 2⌋ := by
  unfold nearestScaled
  by_cases he : 0 ≤ e
  · have hwhole : (m * 2 ^ e : ℚ) = ((m * 2 ^ e.toNat : ℕ) : ℤ) := by
      push_cast
      rw [← zpow_natCast, Int.toNat_of_nonneg he]
    simp only [if_pos he, Nat.pow_eq, hwhole, floor_add_half, Bool.false_eq_true, if_false]
  · have hfraction : (m * 2 ^ e : ℚ) + 1 / 2 =
        ((2 * m + 2 ^ (-e).toNat : ℕ) : ℚ) / ((2 ^ ((-e).toNat + 1) : ℕ) : ℚ) := by
      have hunit : (2 : ℚ) ^ e = (2 ^ (-e).toNat)⁻¹ := by
        rw [← zpow_natCast, Int.toNat_of_nonneg (by omega), zpow_neg, inv_inv]
      rw [hunit]
      push_cast
      rw [pow_succ]
      field_simp
    simp only [if_neg he, Nat.pow_eq, hfraction, Rat.floor_natCast_div_natCast,
      Int.natCast_ediv, Bool.false_eq_true, if_false]

theorem abs_roundAway_le (q : ℚ) : |(roundAway q : ℚ)| ≤ |q| + 1 / 2 := by
  have hfloor : ∀ v : ℚ, 0 ≤ v → |(⌊v + 1 / 2⌋ : ℚ)| ≤ v + 1 / 2 := by
    intro v hv
    have hnonneg : (0 : ℤ) ≤ ⌊v + 1 / 2⌋ := Int.floor_nonneg.2 (by linarith)
    rw [abs_of_nonneg (by exact_mod_cast hnonneg)]
    exact Int.floor_le _
  rcases le_or_gt 0 q with hq | hq
  · rw [roundAway_of_nonneg hq, abs_of_nonneg hq]
    exact hfloor q hq
  · rw [roundAway, if_pos hq, Int.cast_neg, abs_neg, abs_of_neg hq]
    exact hfloor (-q) (by linarith)

theorem nearestScaled_true (m : ℕ) (e : ℤ) :
    nearestScaled true m e = -nearestScaled false m e := by
  simp only [nearestScaled, Bool.false_eq_true, if_false, if_true]

theorem nearestScaled_eq (negative : Bool) (m : ℕ) (e : ℤ) :
    nearestScaled negative m e = roundAway ((signOf negative).apply 1 * (m * 2 ^ e : ℚ)) := by
  have hsize : (0 : ℚ) ≤ m * 2 ^ e := mul_nonneg (Nat.cast_nonneg m) (two_zpow_pos e).le
  have hround : nearestScaled false m e = roundAway (m * 2 ^ e) := by
    rw [nearestScaled_false, roundAway_of_nonneg hsize]
  cases negative with
  | false =>
      have hsign : (signOf false).apply 1 = 1 := rfl
      rw [hround, hsign, Int.cast_one, one_mul]
  | true =>
      have hsign : (signOf true).apply 1 = -1 := rfl
      rw [nearestScaled_true, hround, hsign, Int.cast_neg, Int.cast_one, neg_one_mul,
        roundAway_neg hsize]

/-- A double that is known exactly is rounded as the number it is. -/
theorem Exactly.nearest (hx : Exactly x q) : (Exact.ofFloat x).nearest = .int (roundAway q) := by
  obtain ⟨negative, m, e, hexact, rfl⟩ := hx.exact
  rw [hexact, Exact.nearest, nearestScaled_eq]

end ImageOverlay
