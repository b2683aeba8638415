import Mathlib.Algebra.Module.Basic
import Mathlib.Tactic.Module
import SphereBench.Proofs.Exact.Scalar
import SphereBench.Space.Vector
/-!
# Exact vectors

With exact scalars the vectors of space form a real vector space, and length and scalar product
obey the laws of Euclidean geometry.
-/

namespace SphereBench.Vec3
noncomputable section

instance : Neg (Vec3 ℝ) := ⟨fun v => ⟨-v.x, -v.y, -v.z⟩⟩
instance : SMul ℝ (Vec3 ℝ) := ⟨fun r v => v * r⟩

@[simp] theorem neg_x (v : Vec3 ℝ) : (-v).x = -v.x := rfl
@[simp] theorem neg_y (v : Vec3 ℝ) : (-v).y = -v.y := rfl
@[simp] theorem neg_z (v : Vec3 ℝ) : (-v).z = -v.z := rfl
@[simp] theorem smul_x (r : ℝ) (v : Vec3 ℝ) : (r • v).x = v.x * r := rfl
@[simp] theorem smul_y (r : ℝ) (v : Vec3 ℝ) : (r • v).y = v.y * r := rfl
@[simp] theorem smul_z (r : ℝ) (v : Vec3 ℝ) : (r • v).z = v.z * r := rfl

instance : AddCommGroup (Vec3 ℝ) where
  add_assoc u v w := by ext <;> simp [add_assoc]
  zero_add v := by ext <;> simp
  add_zero v := by ext <;> simp
  add_comm v w := by ext <;> simp [add_comm]
  neg_add_cancel v := by ext <;> simp
  sub_eq_add_neg v w := by ext <;> simp [sub_eq_add_neg]
  nsmul := nsmulRec
  zsmul := zsmulRec

instance : Module ℝ (Vec3 ℝ) where
  one_smul v := by ext <;> simp
  mul_smul r s v := by ext <;> simp only [smul_x, smul_y, smul_z] <;> ring
  smul_zero r := by ext <;> simp
  smul_add r v w := by ext <;> simp [add_mul]
  add_smul r s v := by ext <;> simp [mul_add]
  zero_smul v := by ext <;> simp

end

theorem mul_eq_smul (v : Vec3 ℝ) (r : ℝ) : v * r = r • v := rfl

theorem mul_mul (v : Vec3 ℝ) (r s : ℝ) : v * (r * s) = v * r * s := by
  ext <;> simp [mul_assoc]

@[simp] theorem zero_mul (r : ℝ) : (0 : Vec3 ℝ) * r = 0 := by
  ext <;> simp

@[simp] theorem zero_div (r : ℝ) : (0 : Vec3 ℝ) / r = 0 := by
  ext <;> simp

@[simp] theorem zero_cross (v : Vec3 ℝ) : (0 : Vec3 ℝ).cross v = 0 := by
  ext <;> simp [cross]

/-- A vector has no product with a multiple of itself. -/
theorem cross_mul_self (v : Vec3 ℝ) (r : ℝ) : v.cross (v * r) = 0 := by
  ext <;> simp only [cross, mul_x, mul_y, mul_z, zero_x, zero_y, zero_z] <;> ring

@[simp] theorem alongZ_x (s : ℝ) : (alongZ s).x = 0 := rfl
@[simp] theorem alongZ_y (s : ℝ) : (alongZ s).y = 0 := rfl
@[simp] theorem alongZ_z (s : ℝ) : (alongZ s).z = s := rfl

theorem lengthSq_real (v : Vec3 ℝ) : v.lengthSq = v.x ^ 2 + v.y ^ 2 + v.z ^ 2 := by
  simp only [lengthSq, dot]
  ring

theorem lengthSq_nonneg (v : Vec3 ℝ) : 0 ≤ v.lengthSq := by
  rw [lengthSq_real]
  positivity

theorem lengthSq_eq_zero_iff {v : Vec3 ℝ} : v.lengthSq = 0 ↔ v = 0 := by
  constructor
  · intro h
    rw [lengthSq_real] at h
    have hx := sq_nonneg v.x
    have hy := sq_nonneg v.y
    have hz := sq_nonneg v.z
    ext
    · exact pow_eq_zero_iff two_ne_zero |>.mp (by linarith)
    · exact pow_eq_zero_iff two_ne_zero |>.mp (by linarith)
    · exact pow_eq_zero_iff two_ne_zero |>.mp (by linarith)
  · rintro rfl
    simp [lengthSq_real]

theorem length_nonneg (v : Vec3 ℝ) : 0 ≤ v.length := Real.sqrt_nonneg _

theorem sq_length (v : Vec3 ℝ) : v.length ^ 2 = v.lengthSq := Real.sq_sqrt v.lengthSq_nonneg

theorem length_eq_zero_iff {v : Vec3 ℝ} : v.length = 0 ↔ v = 0 := by
  rw [← lengthSq_eq_zero_iff, ← sq_length, sq_eq_zero_iff]

theorem lengthSq_div (v : Vec3 ℝ) (r : ℝ) : (v / r).lengthSq = v.lengthSq / r ^ 2 := by
  simp only [lengthSq_real, div_x, div_y, div_z]
  ring

/-- A vector over its length is a unit vector, unless it is zero. -/
theorem lengthSq_div_length {v : Vec3 ℝ} (h : v.length ≠ 0) : (v / v.length).lengthSq = 1 := by
  rw [lengthSq_div, ← sq_length, div_self (pow_ne_zero 2 h)]

theorem length_mul (v : Vec3 ℝ) (r : ℝ) : (v * r).length = |r| * v.length := by
  have hsq : (v * r).lengthSq = r ^ 2 * v.lengthSq := by
    simp only [lengthSq_real, mul_x, mul_y, mul_z]
    ring
  rw [length, hsq, Scalar.sqrt_real, Real.sqrt_mul (sq_nonneg r), Real.sqrt_sq_eq_abs]
  rfl

theorem length_neg (v : Vec3 ℝ) : (-v).length = v.length := by
  simp [length, lengthSq_real]

theorem length_of_lengthSq_eq_one {n : Vec3 ℝ} (hn : n.lengthSq = 1) : n.length = 1 := by
  rw [length, hn, Scalar.sqrt_real, Real.sqrt_one]

/-- A unit vector times a length has that length. -/
theorem length_unit_mul {n : Vec3 ℝ} (hn : n.lengthSq = 1) {r : ℝ} (hr : 0 ≤ r) :
    (n * r).length = r := by
  rw [length_mul, length_of_lengthSq_eq_one hn, abs_of_nonneg hr, mul_one]

/-- The part of a vector across a direction, given by a unit vector. -/
noncomputable def across (v n : Vec3 ℝ) : Vec3 ℝ := v - n * v.dot n

theorem dot_add_mul {n : Vec3 ℝ} (hn : n.lengthSq = 1) (v : Vec3 ℝ) (r : ℝ) :
    (v + n * r).dot n = v.dot n + r := by
  rw [lengthSq_real] at hn
  simp only [dot, add_x, add_y, add_z, mul_x, mul_y, mul_z]
  linear_combination r * hn

theorem across_add_mul {n : Vec3 ℝ} (hn : n.lengthSq = 1) (v : Vec3 ℝ) (r : ℝ) :
    (v + n * r).across n = v.across n := by
  rw [across, dot_add_mul hn, across]
  simp only [mul_eq_smul]
  module

@[simp] theorem length_zero : (0 : Vec3 ℝ).length = 0 := by
  simp [length, lengthSq_real]

@[simp] theorem length_alongZ (s : ℝ) : (alongZ s).length = |s| := by
  simp [length, lengthSq_real, Real.sqrt_sq_eq_abs]

/-- A common offset does not show in a difference. -/
theorem add_sub_add_right (v w c : Vec3 ℝ) : (v + c) - (w + c) = v - w := by
  ext <;> simp

/-- If a vector is shorter than `r`, so is each of its components. -/
theorem abs_lt_of_lengthSq_lt {v : Vec3 ℝ} {r : ℝ} (hr : 0 ≤ r) (h : v.lengthSq < r ^ 2) :
    |v.x| < r ∧ |v.y| < r ∧ |v.z| < r := by
  rw [lengthSq_real] at h
  refine ⟨?_, ?_, ?_⟩
  · exact abs_lt_of_sq_lt_sq (by nlinarith [sq_nonneg v.y, sq_nonneg v.z]) hr
  · exact abs_lt_of_sq_lt_sq (by nlinarith [sq_nonneg v.x, sq_nonneg v.z]) hr
  · exact abs_lt_of_sq_lt_sq (by nlinarith [sq_nonneg v.x, sq_nonneg v.y]) hr

end SphereBench.Vec3
