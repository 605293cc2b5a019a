import ImageOverlay.Proofs.Number.Packing

set_option autoImplicit false

/-!
# Numerical equality and order

Two finite doubles are numerically equal if they are the same double or zeros of whatever sign.
`plain` forgets the sign of a zero, so that numerical equality becomes equality
(`beq_iff_plain_eq`). Of sums, differences and products the sign of a zero decides no more than
the sign of a zero (`plain_add_congr`, `plain_sub_congr`, `plain_mul_congr`), and a difference
taken the other way round is the negative (`plain_sub_swap`). Any two doubles that are numbers,
infinite ones included, are in order one way or the other (`float_lt_or_le`).
-/

namespace ImageOverlay

open Float.Model Float.Model.UnpackedFloat

instance decidableEqSign : DecidableEq Sign
  | .negative, .negative | .positive, .positive => isTrue rfl
  | .negative, .positive | .positive, .negative => isFalse (by simp)

instance decidableEqUnpackedFloat : DecidableEq UnpackedFloat
  | .notANumber, .notANumber => isTrue rfl
  | .infinity s, .infinity s' => decidable_of_iff (s = s') (by simp)
  | .zero s, .zero s' => decidable_of_iff (s = s') (by simp)
  | .finite s m e _, .finite s' m' e' _ =>
    decidable_of_iff (s = s' ∧ m = m' ∧ e = e') (by simp)
  | .notANumber, .infinity _ | .notANumber, .zero _ | .notANumber, .finite .. => isFalse (by simp)
  | .infinity _, .notANumber | .infinity _, .zero _ | .infinity _, .finite .. => isFalse (by simp)
  | .zero _, .notANumber | .zero _, .infinity _ | .zero _, .finite .. => isFalse (by simp)
  | .finite .., .notANumber | .finite .., .infinity _ | .finite .., .zero _ => isFalse (by simp)

namespace Packed

/-- What a double is made of, without the sign of a zero. -/
def plain : UnpackedFloat → UnpackedFloat
  | .zero _ => .zero .positive
  | u => u

theorem plain_eq_plain {u v : UnpackedFloat} (h : plain u = plain v) :
    u = v ∨ ∃ s s', u = .zero s ∧ v = .zero s' := by
  cases u with
  | zero s =>
      cases v with
      | zero s' => exact .inr ⟨s, s', rfl, rfl⟩
      | _ => cases h
  | _ =>
      cases v with
      | zero => cases h
      | _ => exact .inl h

/-- Packing a zero keeps it one. -/
theorem plain_unpack_pack {u v : UnpackedFloat} (h : plain u = plain v) :
    plain (Float.Model.pack u).unpack = plain (Float.Model.pack v).unpack := by
  rcases plain_eq_plain h with rfl | ⟨s, s', rfl, rfl⟩
  · rfl
  · rw [unpack_pack_zero, unpack_pack_zero]
    rfl

theorem plain_add (u v : UnpackedFloat) :
    plain (UnpackedFloat.add Format.binary64 (plain u) (plain v))
      = plain (UnpackedFloat.add Format.binary64 u v) := by
  cases u with
  | zero s =>
      cases v with
      | zero s' => cases s <;> cases s' <;> rfl
      | _ => rfl
  | _ => cases v <;> rfl

theorem plain_sub (u v : UnpackedFloat) :
    plain (UnpackedFloat.sub Format.binary64 (plain u) (plain v))
      = plain (UnpackedFloat.sub Format.binary64 u v) := by
  cases u with
  | zero s =>
      cases v with
      | zero s' => cases s <;> cases s' <;> rfl
      | _ => rfl
  | _ => cases v <;> rfl

theorem plain_mul (u v : UnpackedFloat) :
    plain (UnpackedFloat.mul Format.binary64 (plain u) (plain v))
      = plain (UnpackedFloat.mul Format.binary64 u v) := by
  cases u <;> cases v <;> rfl

/-! ## The other side of zero -/

/-- Rounding does not look at the sign. -/
theorem roundWithAccuracy_neg (s : Sign) (M : Nat) (E : Int) (acc : Accuracy) :
    roundWithAccuracy Format.binary64 (-s) M E acc
      = UnpackedFloat.neg (roundWithAccuracy Format.binary64 s M E acc) := by
  unfold roundWithAccuracy
  simp only
  split <;> rfl

theorem plain_normalize_neg (M E : Int) :
    plain (UnpackedFloat.normalize Format.binary64 (-M) E .positive)
      = plain (UnpackedFloat.neg (UnpackedFloat.normalize Format.binary64 M E .positive)) := by
  unfold UnpackedFloat.normalize
  rcases lt_trichotomy M 0 with hM | rfl | hM
  · have hneg : compare (-M) 0 = .gt := compare_gt_iff_gt.2 (by omega)
    simp only [compare_lt_iff_lt.2 hM, hneg]
    exact congrArg plain (roundWithAccuracy_neg .negative _ _ _)
  · rfl
  · have hneg : compare (-M) 0 = .lt := compare_lt_iff_lt.2 (by omega)
    simp only [compare_gt_iff_gt.2 hM, hneg, neg_neg]
    exact congrArg plain (roundWithAccuracy_neg .positive _ _ _)

theorem plain_sub_swap (u v : UnpackedFloat) :
    plain (UnpackedFloat.sub Format.binary64 v u)
      = plain (UnpackedFloat.neg (UnpackedFloat.sub Format.binary64 u v)) := by
  cases u with
  | notANumber => cases v <;> rfl
  | infinity s =>
      cases v with
      | infinity s' => cases s <;> cases s' <;> rfl
      | _ => rfl
  | zero s =>
      cases v with
      | notANumber => rfl
      | infinity s' | zero s' | finite s' => cases s <;> cases s' <;> rfl
  | finite s m e hpos =>
      cases v with
      | infinity s' => cases s' <;> rfl
      | finite s' m' e' hpos' =>
          simp only [UnpackedFloat.sub]
          rw [← plain_normalize_neg, min_comm, neg_sub]
      | _ => rfl

/-- A number and its negative cancel out. -/
theorem plain_add_neg {u : UnpackedFloat} (hu : u.isFinite = true) :
    plain (UnpackedFloat.add Format.binary64 u (UnpackedFloat.neg u)) = .zero .positive := by
  cases u with
  | notANumber | infinity => cases hu
  | zero s => cases s <;> rfl
  | finite s m e hpos =>
      simp only [UnpackedFloat.add, UnpackedFloat.neg, min_self]
      generalize ((decreaseExponent m e e).1 : Int) = k
      have hcancel : s.apply k + (-s).apply k = 0 := by
        cases s
        · exact neg_add_cancel k
        · exact add_neg_cancel k
      rw [hcancel]
      rfl

/-! ## The order of numbers -/

/-- Comparing the other way round. -/
theorem compare_swap (u v : UnpackedFloat) :
    UnpackedFloat.compare v u = (UnpackedFloat.compare u v).map Ordering.swap := by
  have hsign : ∀ s s' : Sign, compare s' s = (compare s s').swap := by
    intro s s'
    cases s <;> cases s' <;> rfl
  cases u with
  | notANumber => cases v <;> rfl
  | infinity s =>
      cases v with
      | infinity s' => exact congrArg some (hsign s s')
      | _ => cases s <;> rfl
  | zero s =>
      cases v with
      | notANumber | zero => rfl
      | infinity s' | finite s' => cases s' <;> rfl
  | finite s m e hpos =>
      cases v with
      | notANumber | zero => cases s <;> rfl
      | infinity s' => cases s <;> cases s' <;> rfl
      | finite s' m' e' hpos' =>
          have hthen : (compare e' e).then (compare m' m)
              = ((compare e e').then (compare m m')).swap := by
            rw [Ordering.swap_then, Int.compare_swap, Nat.compare_swap]
          cases s <;> cases s' <;> simp [UnpackedFloat.compare, hthen]

/-- Numbers can be compared. -/
theorem exists_compare {u v : UnpackedFloat} (hu : u ≠ .notANumber) (hv : v ≠ .notANumber) :
    ∃ o, UnpackedFloat.compare u v = some o := by
  cases u with
  | notANumber => exact absurd rfl hu
  | infinity s =>
      cases v with
      | notANumber => exact absurd rfl hv
      | _ => cases s <;> exact ⟨_, rfl⟩
  | zero s =>
      cases v with
      | notANumber => exact absurd rfl hv
      | zero => exact ⟨_, rfl⟩
      | infinity s' | finite s' => cases s' <;> exact ⟨_, rfl⟩
  | finite s =>
      cases v with
      | notANumber => exact absurd rfl hv
      | zero => cases s <;> exact ⟨_, rfl⟩
      | infinity s' | finite s' => cases s <;> cases s' <;> exact ⟨_, rfl⟩

end Packed

/-! ## Doubles -/

/-- What a double is made of, but for the sign of a zero. -/
def plain (x : Float) : UnpackedFloat := Packed.plain x.toModel.unpack

variable {x x' y y' : Float}

theorem pack_unpack (x : Float) : Float.Model.pack x.toModel.unpack = x.toModel :=
  (Packed.eq_pack_of_bits (pack_unpack_of_valid x.toModel.valid).symm).symm

theorem unpack_neg (x : Float) : (-x).toModel.unpack = UnpackedFloat.neg x.toModel.unpack := by
  show (Float.Model.pack (UnpackedFloat.neg x.toModel.unpack)).unpack = _
  rw [Packed.unpack_pack_neg, pack_unpack]

theorem plain_add_congr (hx : plain x = plain x') (hy : plain y = plain y') :
    plain (x + y) = plain (x' + y') := by
  refine Packed.plain_unpack_pack ?_
  unfold plain at hx hy
  rw [← Packed.plain_add, hx, hy, Packed.plain_add]

theorem plain_sub_congr (hx : plain x = plain x') (hy : plain y = plain y') :
    plain (x - y) = plain (x' - y') := by
  refine Packed.plain_unpack_pack ?_
  unfold plain at hx hy
  rw [← Packed.plain_sub, hx, hy, Packed.plain_sub]

theorem plain_mul_congr (hx : plain x = plain x') (hy : plain y = plain y') :
    plain (x * y) = plain (x' * y') := by
  refine Packed.plain_unpack_pack ?_
  unfold plain at hx hy
  rw [← Packed.plain_mul, hx, hy, Packed.plain_mul]

/-- A difference taken the other way round is the negative. -/
theorem plain_sub_swap (x y : Float) : plain (y - x) = plain (-(x - y)) := by
  have hneg : plain (-(x - y)) = Packed.plain (Float.Model.pack (UnpackedFloat.neg
      (UnpackedFloat.sub Format.binary64 x.toModel.unpack y.toModel.unpack))).unpack := by
    unfold plain
    rw [unpack_neg, Packed.unpack_pack_neg]
    rfl
  rw [hneg]
  exact Packed.plain_unpack_pack (Packed.plain_sub_swap _ _)

/-- Adding zero changes nothing. -/
theorem plain_zero_add (hx : plain x = plain 0.0) (y : Float) : plain (x + y) = plain y := by
  have hzero : plain (0.0 + y) = plain y := by
    have hself : plain y = Packed.plain (Float.Model.pack y.toModel.unpack).unpack := by
      rw [pack_unpack]
      rfl
    rw [hself]
    refine Packed.plain_unpack_pack ?_
    have hunpack : (0.0 : Float).toModel.unpack = .zero .positive := rfl
    rw [hunpack]
    cases y.toModel.unpack with
    | zero s => cases s <;> rfl
    | _ => rfl
  rw [plain_add_congr hx rfl, hzero]

/-- A finite double and its negative cancel out. -/
theorem plain_add_neg (hx : x.isFinite = true) : plain (x + -x) = plain 0.0 := by
  refine Packed.plain_unpack_pack (v := .zero .positive) ?_
  rw [unpack_neg]
  exact Packed.plain_add_neg hx

/-! ## Comparing -/

/-- **Finite doubles are numerically equal if they are equal but for the sign of a zero.** -/
theorem beq_iff_plain_eq (hx : x.isFinite = true) (hy : y.isFinite = true) :
    (x == y) = true ↔ plain x = plain y := by
  show x.toModel.unpack.beq y.toModel.unpack = true ↔ _
  unfold plain UnpackedFloat.beq
  change x.toModel.unpack.isFinite = true at hx
  change y.toModel.unpack.isFinite = true at hy
  generalize x.toModel.unpack = u at hx ⊢
  generalize y.toModel.unpack = v at hy ⊢
  cases u with
  | notANumber | infinity => cases hx
  | zero s =>
      cases v with
      | notANumber | infinity => cases hy
      | zero s' => exact iff_of_true rfl rfl
      | finite s' m' e' hpos' =>
          cases s' <;> exact iff_of_false Bool.false_ne_true nofun
  | finite s m e hpos =>
      cases v with
      | notANumber | infinity => cases hy
      | zero s' => cases s <;> exact iff_of_false Bool.false_ne_true nofun
      | finite s' m' e' hpos' =>
          simp only [Packed.plain, UnpackedFloat.finite.injEq]
          cases s <;> cases s' <;> simp [UnpackedFloat.compare, Ordering.then_eq_eq, and_comm]

theorem float_lt_iff :
    x < y ↔ UnpackedFloat.compare x.toModel.unpack y.toModel.unpack = some .lt := by
  have hlt : x < y ↔ x.toModel < y.toModel := decide_eq_true_iff
  exact hlt.trans beq_iff_eq

theorem float_le_iff :
    x ≤ y ↔ ∃ o, UnpackedFloat.compare x.toModel.unpack y.toModel.unpack = some o ∧
      o.isLE = true := by
  have hle : x ≤ y ↔ x.toModel ≤ y.toModel := decide_eq_true_iff
  exact hle.trans (Option.any_eq_true _ _)

theorem float_le_of_lt (h : x < y) : x ≤ y :=
  float_le_iff.2 ⟨.lt, float_lt_iff.1 h, rfl⟩

theorem float_not_lt_of_le (h : x ≤ y) : ¬ y < x := by
  obtain ⟨o, ho, hle⟩ := float_le_iff.1 h
  rw [float_lt_iff, Packed.compare_swap, ho]
  cases o <;> simp_all

theorem isNaN_iff : x.isNaN = true ↔ x.toModel.unpack = .notANumber := by
  show x.toModel.unpack.isNaN = true ↔ _
  cases x.toModel.unpack <;> simp [UnpackedFloat.isNaN]

/-- What is in order with something is a number. -/
theorem not_isNaN_of_le (h : x ≤ y) : ¬ x.isNaN = true ∧ ¬ y.isNaN = true := by
  obtain ⟨o, ho, -⟩ := float_le_iff.1 h
  rw [isNaN_iff, isNaN_iff]
  constructor
  · intro hx
    rw [hx] at ho
    cases ho
  · intro hy
    rw [Packed.compare_swap y.toModel.unpack, hy] at ho
    cases ho

theorem float_lt_or_le (hx : ¬ x.isNaN = true) (hy : ¬ y.isNaN = true) : x < y ∨ y ≤ x := by
  rw [isNaN_iff] at hx hy
  obtain ⟨o, ho⟩ := Packed.exists_compare hx hy
  rw [float_lt_iff, float_le_iff, Packed.compare_swap x.toModel.unpack, ho]
  cases o <;> simp

/-- A number is equal to itself. -/
theorem float_beq_self (hx : ¬ x.isNaN = true) : (x == x) = true := by
  rw [isNaN_iff] at hx
  obtain ⟨o, ho⟩ := Packed.exists_compare hx hx
  have hswap := Packed.compare_swap x.toModel.unpack x.toModel.unpack
  rw [ho] at hswap
  show (UnpackedFloat.compare x.toModel.unpack x.toModel.unpack == some .eq) = true
  rw [ho]
  cases o with
  | eq => rfl
  | lt | gt => cases hswap

end ImageOverlay
