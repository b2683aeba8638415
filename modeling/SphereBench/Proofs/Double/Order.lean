import Mathlib
import SphereBench.Scalar.Double
/-!
# The order of the doubles

Two doubles are compared by their signs, then by their exponents and then by their mantissas. This
is a linear order of places, in which both zeros have the same place and the infinities have the
outermost ones. A value that is not a number has no place, and every comparison with it fails.
-/

namespace SphereBench.Double
open Float.Model

/-- Places, by the kind of magnitude, then the exponent, then the mantissa, each with the sign of
the number. -/
abbrev Place : Type := ℤ ×ₗ ℤ ×ₗ ℤ

/-- A place on the side of the sign. -/
def onSide (s : UnpackedFloat.Sign) (p : Place) : Place :=
  match s with
  | .positive => p
  | .negative => -p

/-- The place of a number in its parts. -/
def placeOfParts? : UnpackedFloat → Option Place
  | .notANumber => none
  | .zero _ => some 0
  | .finite s m e _ => some (onSide s (toLex (1, toLex (e, (m : ℤ)))))
  | .infinity s => some (onSide s (toLex (2, 0)))

/-- The place of a double in the order of all doubles. -/
def place? (x : Float) : Option Place := placeOfParts? x.toModel.unpack

theorem compare_finite (e f : ℤ) (m n : ℕ) :
    compare (toLex (1, toLex (e, (m : ℤ))) : Place) (toLex (1, toLex (f, (n : ℤ)))) =
      (compare e f).then (compare m n) := by
  have hcast : compare (m : ℤ) (n : ℤ) = compare m n := by
    simp [compare, compareOfLessAndEq]
  simp only [Prod.Lex.compare_def, compareLex, compareOn, ofLex_toLex, hcast]
  rfl

theorem compare_neg_neg (p q : Place) : compare (-p) (-q) = compare q p := by
  rcases lt_trichotomy q p with h | rfl | h
  · rw [compare_lt_iff_lt.mpr h, compare_lt_iff_lt.mpr (neg_lt_neg h)]
  · rw [compare_eq_iff_eq.mpr rfl, compare_eq_iff_eq.mpr rfl]
  · rw [compare_gt_iff_gt.mpr h, compare_gt_iff_gt.mpr (neg_lt_neg h)]

/-- Doubles compare as their places do, if they have any. -/
theorem compare_eq (x y : UnpackedFloat) :
    x.compare y = (placeOfParts? x).bind fun p => (placeOfParts? y).map fun q => compare p q := by
  rcases x with s | _ | s | ⟨s, m, e, hm⟩ <;> rcases y with t | _ | t | ⟨t, n, f, hn⟩
  case finite.finite =>
    cases s <;> cases t
    case negative.negative =>
      show some ((compare e f).then (compare m n)).swap = some (compare (-_) (-_))
      rw [compare_neg_neg, compare_finite, Ordering.swap_then, ← Std.OrientedOrd.eq_swap,
        ← Std.OrientedOrd.eq_swap]
    case positive.positive =>
      exact congrArg some (compare_finite e f m n).symm
    -- Of two signs the kind of the magnitude decides.
    all_goals rfl
  all_goals try cases s
  all_goals try cases t
  all_goals rfl

variable {x y z : Float}

theorem lt_iff : x < y ↔ ∃ p q, place? x = some p ∧ place? y = some q ∧ p < q := by
  have hlt : x < y ↔ x.toModel.unpack.compare y.toModel.unpack = some .lt := by
    show Float.lt x y = true ↔ _
    rw [Float.lt, decide_eq_true_iff]
    exact beq_iff_eq
  rw [hlt, compare_eq, ← place?, ← place?]
  cases place? x <;> cases place? y <;> simp [compare_lt_iff_lt]

theorem le_iff : x ≤ y ↔ ∃ p q, place? x = some p ∧ place? y = some q ∧ p ≤ q := by
  have hle : x ≤ y ↔ (x.toModel.unpack.compare y.toModel.unpack).any (·.isLE) := by
    show Float.le x y = true ↔ _
    rw [Float.le, decide_eq_true_iff]
    rfl
  rw [hle, compare_eq, ← place?, ← place?]
  cases place? x <;> cases place? y <;> simp [Ordering.isLE_iff_ne_gt, compare_le_iff_le]

theorem beq_self_iff : x == x ↔ ¬ x.isNaN := by
  rw [Float.beq_self_iff, Float.isNaN_eq_decide_eq_nan, decide_eq_true_iff]

theorem isNaN_iff : x.isNaN ↔ place? x = none := by
  show x.toModel.unpack.isNaN ↔ placeOfParts? x.toModel.unpack = none
  cases x.toModel.unpack <;> simp [UnpackedFloat.isNaN, placeOfParts?]

/-- To clear the sign bit is to take the absolute value. -/
theorem unpack_clear_sign (spec : Format) (b : BitVec spec.numBits) :
    UnpackedFloat.unpack spec (UnpackedFloat.packComponents spec .positive
      (UnpackedFloat.unpackExponent b) (UnpackedFloat.unpackMantissa b)) =
      (UnpackedFloat.unpack spec b).abs := by
  simp only [UnpackedFloat.unpack, UnpackedFloat.unpackMantissa_packComponents,
    UnpackedFloat.unpackExponent_packComponents, UnpackedFloat.unpackSign_packComponents,
    UnpackedFloat.Sign.ofBitVec_toBitVec]
  split_ifs <;> rfl

theorem valid_clear_sign {spec : Format} {b : BitVec spec.numBits} (h : spec.Valid b) :
    spec.Valid (UnpackedFloat.packComponents spec .positive
      (UnpackedFloat.unpackExponent b) (UnpackedFloat.unpackMantissa b)) := by
  constructor
  intro hexponent hmantissa
  rw [UnpackedFloat.unpackExponent_packComponents] at hexponent
  rw [UnpackedFloat.unpackMantissa_packComponents] at hmantissa
  rw [h.eq_packedNaN hexponent hmantissa, UnpackedFloat.packedNaN,
    UnpackedFloat.unpackExponent_packComponents, UnpackedFloat.unpackMantissa_packComponents]

theorem unpack_abs (x : Float) : x.abs.toModel.unpack = x.toModel.unpack.abs := by
  show UnpackedFloat.unpack _ (UnpackedFloat.pack _ (UnpackedFloat.unpack _ _).abs) =
    (UnpackedFloat.unpack _ _).abs
  rw [← unpack_clear_sign, UnpackedFloat.pack_unpack_of_valid (valid_clear_sign x.toModel.valid)]

theorem finite_pos (e : ℤ) (m : ℕ) : (0 : Place) < toLex (1, toLex (e, (m : ℤ))) :=
  Prod.Lex.toLex_lt_toLex.mpr (.inl zero_lt_one)

theorem infinity_pos : (0 : Place) < toLex (2, 0) :=
  Prod.Lex.toLex_lt_toLex.mpr (.inl zero_lt_two)

/-- The absolute value has the absolute place. -/
theorem place?_abs (x : Float) : place? x.abs = (place? x).map (|·|) := by
  rw [place?, unpack_abs, place?]
  cases x.toModel.unpack with
  | notANumber => rfl
  | zero s => simp [UnpackedFloat.abs, placeOfParts?]
  | finite s m e hm =>
    cases s <;> simp [UnpackedFloat.abs, placeOfParts?, onSide, abs_of_pos (finite_pos e m)]
  | infinity s =>
    cases s <;> simp [UnpackedFloat.abs, placeOfParts?, onSide, abs_of_pos infinity_pos]

/-! ### Numbers -/

theorem exists_place (h : ¬ x.isNaN) : ∃ p, place? x = some p :=
  Option.ne_none_iff_exists'.mp (mt isNaN_iff.mpr h)

theorem not_isNaN_of_le (h : x ≤ y) : ¬ x.isNaN ∧ ¬ y.isNaN := by
  obtain ⟨p, q, hp, hq, -⟩ := le_iff.mp h
  rw [isNaN_iff, isNaN_iff, hp, hq]
  exact ⟨Option.some_ne_none p, Option.some_ne_none q⟩

theorem self_le (h : ¬ x.isNaN) : x ≤ x := by
  obtain ⟨p, hp⟩ := exists_place h
  exact le_iff.mpr ⟨p, p, hp, hp, le_refl p⟩

theorem le_trans (h : x ≤ y) (h' : y ≤ z) : x ≤ z := by
  obtain ⟨p, q, hp, hq, hle⟩ := le_iff.mp h
  obtain ⟨q', r, hq', hr, hle'⟩ := le_iff.mp h'
  cases hq.symm.trans hq'
  exact le_iff.mpr ⟨p, r, hp, hr, hle.trans hle'⟩

theorem le_of_lt (h : x < y) : x ≤ y := by
  obtain ⟨p, q, hp, hq, hlt⟩ := lt_iff.mp h
  exact le_iff.mpr ⟨p, q, hp, hq, hlt.le⟩

/-- Of two numbers, one that is not less is at least the other. -/
theorem le_of_not_lt (hx : ¬ x.isNaN) (hy : ¬ y.isNaN) (h : ¬ x < y) : y ≤ x := by
  obtain ⟨p, hp⟩ := exists_place hx
  obtain ⟨q, hq⟩ := exists_place hy
  refine le_iff.mpr ⟨q, p, hq, hp, not_lt.mp ?_⟩
  intro hlt
  exact h (lt_iff.mpr ⟨p, q, hp, hq, hlt⟩)

@[simp] theorem isNaN_abs (x : Float) : x.abs.isNaN = x.isNaN := by
  rw [Bool.eq_iff_iff, isNaN_iff, isNaN_iff, place?_abs, Option.map_eq_none_iff]

/-- Between two numbers, no absolute value exceeds those of both. -/
theorem abs_le_abs_or (h : x ≤ y) (h' : y ≤ z) : y.abs ≤ x.abs ∨ y.abs ≤ z.abs := by
  obtain ⟨p, q, hp, hq, hle⟩ := le_iff.mp h
  obtain ⟨q', r, hq', hr, hle'⟩ := le_iff.mp h'
  cases hq.symm.trans hq'
  have habs : |q| ≤ |p| ∨ |q| ≤ |r| := le_max_iff.mp (abs_le_max_abs_abs hle hle')
  simp only [le_iff, place?_abs, hp, hq, hr, Option.map_some, Option.some.injEq, exists_and_left,
    exists_eq_left']
  exact habs

theorem abs_eq_of_placeOfParts?_eq {u v : UnpackedFloat}
    (h : placeOfParts? u.abs = placeOfParts? v.abs) : u.abs = v.abs := by
  have hfinite (e : ℤ) (m : ℕ) := (finite_pos e m).ne
  have hinfinity := infinity_pos.ne
  cases u <;> cases v <;>
    simp_all [UnpackedFloat.abs, placeOfParts?, onSide, Prod.ext_iff, eq_comm]

/-- Absolute values are in one place only if they are the same, as none of them is a negative
zero. -/
theorem abs_antisymm (h : x.abs ≤ y.abs) (h' : y.abs ≤ x.abs) : x.abs = y.abs := by
  obtain ⟨p, q, hp, hq, hle⟩ := le_iff.mp h
  obtain ⟨q', p', hq', hp', hle'⟩ := le_iff.mp h'
  cases hp.symm.trans hp'
  cases hq.symm.trans hq'
  have hplace : place? x.abs = place? y.abs := by rw [hp, hq, le_antisymm hle hle']
  rw [place?, place?, unpack_abs, unpack_abs] at hplace
  have hunpack : x.abs.toModel.unpack = y.abs.toModel.unpack := by
    rw [unpack_abs, unpack_abs, abs_eq_of_placeOfParts?_eq hplace]
  have hbits :=
    (UnpackedFloat.unpack_inj_of_valid x.abs.toModel.valid y.abs.toModel.valid).mp hunpack
  exact Float.toBits_inj.mp (UInt64.toBitVec_inj.mp hbits)

/-- Nothing but a zero has an absolute value of at most zero. -/
theorem abs_eq_zero (h : x.abs ≤ 0) : x.abs = 0 := by
  have hzero : (0 : Float).abs = 0 := rfl
  have hplace : place? 0 = some 0 := rfl
  obtain ⟨p, hp⟩ := exists_place ((isNaN_abs x) ▸ (not_isNaN_of_le h).1)
  have hnonneg : 0 ≤ x.abs := by
    rw [le_iff, place?_abs, hp, hplace]
    exact ⟨0, |p|, rfl, rfl, abs_nonneg p⟩
  rw [← hzero] at h hnonneg
  rw [abs_antisymm h hnonneg, hzero]

/-! ### Choices -/

/-- A choice between two doubles by an order `r` of the numbers: a number is preferred to anything
else, and of two numbers the later one. -/
structure IsPreference (r : Float → Float → Prop) (choose : Float → Float → Float) : Prop where
  number : ∀ {x y}, r x y → ¬ y.isNaN
  self : ∀ {x}, ¬ x.isNaN → r x x
  trans : ∀ {x y z}, r x y → r y z → r x z
  eq_or : ∀ x y, choose x y = x ∨ choose x y = y
  left : ∀ {x} y, ¬ x.isNaN → r x (choose x y)
  right : ∀ x {y}, ¬ y.isNaN → r y (choose x y)

/-- A choice that takes the second operand if it comes after the first one or if the first one is
not a number. -/
theorem isPreference_ite {r : Float → Float → Prop} (before : Float → Float → Prop)
    [DecidableRel before]
    (number : ∀ {x y}, r x y → ¬ y.isNaN) (self : ∀ {x}, ¬ x.isNaN → r x x)
    (trans : ∀ {x y z}, r x y → r y z → r x z) (of_before : ∀ {x y}, before x y → r x y)
    (of_not_before : ∀ {x y}, ¬ x.isNaN → ¬ y.isNaN → ¬ before x y → r y x) :
    IsPreference r fun x y => if before x y then y else if x == x then x else y where
  number := number
  self := self
  trans := trans
  eq_or x y := by split_ifs <;> simp
  left {x} y hx := by
    split_ifs with hbefore hself
    · exact of_before hbefore
    · exact self hx
    · exact absurd (beq_self_iff.mpr hx) hself
  right x {y} hy := by
    split_ifs with hbefore hself
    · exact self hy
    · exact of_not_before (beq_self_iff.mp hself) hy hbefore
    · exact self hy

theorem isPreference_maxNum : IsPreference (· ≤ ·) Scalar.maxNum :=
  isPreference_ite (· < ·) (fun h => (not_isNaN_of_le h).2) self_le le_trans le_of_lt le_of_not_lt

theorem isPreference_minNum : IsPreference (· ≥ ·) Scalar.minNum :=
  isPreference_ite (fun x y => y < x) (fun h => (not_isNaN_of_le h).1) self_le
    (fun h h' => le_trans h' h) le_of_lt fun hx hy => le_of_not_lt hy hx

end SphereBench.Double
