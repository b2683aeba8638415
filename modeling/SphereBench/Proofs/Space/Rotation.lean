import SphereBench.Proofs.Exact.Vector
import SphereBench.Space.Quaternion
/-!
# Exact rotations

In exact arithmetic the norm of quaternions is multiplicative and a rotation vector gives a unit
quaternion, so that products of rotations stay rotations. The matrix of a unit quaternion is
orthogonal: a multiple of the unit matrix looks the same in every rotated frame.
-/

namespace SphereBench

namespace Quaternion

theorem normSq_mul (p q : Quaternion ℝ) : (p * q).normSq = p.normSq * q.normSq := by
  show (mul p q).normSq = _
  simp only [normSq, mul]
  ring

theorem normSq_nonneg (q : Quaternion ℝ) : 0 ≤ q.normSq := by
  have hx := mul_self_nonneg q.x
  have hy := mul_self_nonneg q.y
  have hz := mul_self_nonneg q.z
  have hw := mul_self_nonneg q.w
  simp only [normSq]
  linarith

/-- A rotation vector gives a unit quaternion. -/
theorem normSq_ofRotationVector (v : Vec3 ℝ) : (ofRotationVector v).normSq = 1 := by
  by_cases h : v.length = 0
  · rw [ofRotationVector, if_pos (beq_iff_eq.mpr h)]
    simp [normSq, identity]
  · have haxis := Vec3.lengthSq_div_length h
    have hcircle := Real.sin_sq_add_cos_sq (v.length * 0.5)
    rw [Vec3.lengthSq_real] at haxis
    rw [ofRotationVector, if_neg (mt beq_iff_eq.mp h)]
    simp only [normSq, Scalar.sin_real, Scalar.cos_real]
    linear_combination Real.sin (v.length * 0.5) ^ 2 * haxis + hcircle

theorem normSq_normalize {q : Quaternion ℝ} (h : q.normSq ≠ 0) : q.normalize.normSq = 1 := by
  have hsq := Real.mul_self_sqrt q.normSq_nonneg
  have hne : Real.sqrt q.normSq ≠ 0 := fun h0 => h (by rw [← hsq, h0, mul_zero])
  have hscale : q.normalize.normSq = q.normSq / (Real.sqrt q.normSq * Real.sqrt q.normSq) := by
    simp only [normalize, Scalar.sqrt_real]
    generalize Real.sqrt q.normSq = r at hne
    simp only [normSq]
    field_simp
  rw [hscale, hsq, div_self h]

/-- One rotation after another, scaled to unit norm, is a rotation again. -/
theorem normSq_turn {q : Quaternion ℝ} (h : q.normSq = 1) (v : Vec3 ℝ) :
    (ofRotationVector v * q).normalize.normSq = 1 := by
  apply normSq_normalize
  rw [normSq_mul, normSq_ofRotationVector, h, mul_one]
  exact one_ne_zero

end Quaternion

namespace Mat3

/-- A multiple of the unit matrix. -/
noncomputable def scalar (c : ℝ) : Mat3 ℝ := .diagonal (.const c)

theorem scalar_mul (c : ℝ) (v : Vec3 ℝ) : scalar c * v = v * c := by
  show (scalar c).mulVec v = v * c
  ext <;> simp [scalar, mulVec, diagonal, Vec3.const, mul_comm]

/-- The inverse of a multiple of the unit matrix. -/
theorem inverse_scalar {c : ℝ} (h : c ≠ 0) : (scalar c).inverse = scalar (1 / c) := by
  ext <;> simp [scalar, inverse, diagonal, transpose, det, Vec3.const, Vec3.dot, Vec3.cross] <;>
    field_simp

theorem det_mul (m n : Mat3 ℝ) : (m * n).det = m.det * n.det := by
  show (m.mul n).det = _
  simp only [det, mul, mulVec, Vec3.dot, Vec3.cross, Vec3.add_x, Vec3.add_y, Vec3.add_z,
    Vec3.mul_x, Vec3.mul_y, Vec3.mul_z]
  ring

theorem det_diagonal (d : Vec3 ℝ) : (diagonal d).det = d.x * d.y * d.z := by
  simp only [det, diagonal, Vec3.dot, Vec3.cross]
  ring

end Mat3

/-- A rotation keeps volumes. -/
theorem Quaternion.det_toMatrix {q : Quaternion ℝ} (h : q.normSq = 1) : q.toMatrix.det = 1 := by
  simp only [normSq] at h
  simp only [Mat3.det, toMatrix, Vec3.dot, Vec3.cross]
  linear_combination 4 * (q.x * q.x + q.y * q.y + q.z * q.z) * h

/-- A multiple of the unit matrix is the same in every rotated frame. -/
theorem Quaternion.toMatrix_mul_scalar {q : Quaternion ℝ} (h : q.normSq = 1) (c : ℝ) :
    q.toMatrix * Mat3.scalar c * q.toMatrix.transpose = Mat3.scalar c := by
  simp only [normSq] at h
  show (q.toMatrix.mul (Mat3.scalar c)).mul q.toMatrix.transpose = Mat3.scalar c
  ext <;> simp only [Mat3.mul, Mat3.mulVec, Mat3.scalar, Mat3.diagonal, Mat3.transpose, toMatrix,
    Vec3.const, Vec3.add_x, Vec3.add_y, Vec3.add_z, Vec3.mul_x, Vec3.mul_y, Vec3.mul_z]
  · linear_combination 4 * c * (q.y * q.y + q.z * q.z) * h
  · linear_combination -4 * c * (q.x * q.y) * h
  · linear_combination -4 * c * (q.x * q.z) * h
  · linear_combination -4 * c * (q.x * q.y) * h
  · linear_combination 4 * c * (q.x * q.x + q.z * q.z) * h
  · linear_combination -4 * c * (q.y * q.z) * h
  · linear_combination -4 * c * (q.x * q.z) * h
  · linear_combination -4 * c * (q.y * q.z) * h
  · linear_combination 4 * c * (q.x * q.x + q.y * q.y) * h

end SphereBench
