import SphereBench.Proofs.Space.Rotation
/-!
# Orthogonal matrices

Exact matrices are a monoid under their product, in which the inverse by cofactors is the inverse on
both sides. An orthogonal matrix carries a matrix into another frame, and what does not depend on
the frame stays: determinant, trace, symmetry, products and inverses.
-/

namespace SphereBench

namespace Mat3
noncomputable section

/-- Sum of the diagonal. -/
def trace (m : Mat3 ℝ) : ℝ := m.colX.x + m.colY.y + m.colZ.z

/-- A matrix seen from another frame. -/
def conjugate (r m : Mat3 ℝ) : Mat3 ℝ := r * m * r.transpose

variable (m n : Mat3 ℝ) (v w : Vec3 ℝ)

theorem mul_mulVec : m * n * v = m * (n * v) := by
  show (m.mul n).mulVec v = m.mulVec (n.mulVec v)
  ext <;> simp only [mul, mulVec, Vec3.add_x, Vec3.add_y, Vec3.add_z, Vec3.mul_x, Vec3.mul_y,
    Vec3.mul_z] <;> ring

instance : One (Mat3 ℝ) := ⟨scalar 1⟩

theorem one_mulVec : (1 : Mat3 ℝ) * v = v := by
  show scalar 1 * v = v
  rw [scalar_mul, Vec3.mul_eq_smul, one_smul]

theorem mulVec_zero : m * (0 : Vec3 ℝ) = 0 := by
  show m.mulVec 0 = 0
  ext <;> simp [mulVec]

instance : Monoid (Mat3 ℝ) where
  mul_assoc m n p := by
    show Mat3.mk ((m * n) * p.colX) ((m * n) * p.colY) ((m * n) * p.colZ) =
      ⟨m * (n * p.colX), m * (n * p.colY), m * (n * p.colZ)⟩
    rw [mul_mulVec, mul_mulVec, mul_mulVec]
  one_mul m := by
    show Mat3.mk ((1 : Mat3 ℝ) * m.colX) ((1 : Mat3 ℝ) * m.colY) ((1 : Mat3 ℝ) * m.colZ) = m
    rw [one_mulVec, one_mulVec, one_mulVec]
  mul_one m := by
    show m.mul (scalar 1) = m
    ext <;> simp [mul, mulVec, scalar, diagonal, Vec3.const]

end

variable (m n : Mat3 ℝ) (v w : Vec3 ℝ)

theorem mulVec_mul (t : ℝ) : m * (v * t) = m * v * t := by
  show m.mulVec (v * t) = m.mulVec v * t
  ext <;> simp only [mulVec, Vec3.add_x, Vec3.add_y, Vec3.add_z, Vec3.mul_x, Vec3.mul_y,
    Vec3.mul_z] <;> ring

theorem transpose_mul : (m * n).transpose = n.transpose * m.transpose := by
  show (m.mul n).transpose = n.transpose.mul m.transpose
  ext <;> simp only [mul, mulVec, transpose, Vec3.add_x, Vec3.add_y, Vec3.add_z, Vec3.mul_x,
    Vec3.mul_y, Vec3.mul_z] <;> ring

@[simp] theorem transpose_transpose : m.transpose.transpose = m := rfl

@[simp] theorem transpose_diagonal (d : Vec3 ℝ) : (diagonal d).transpose = diagonal d := rfl

/-- In a scalar product a matrix may be moved to the other side. -/
theorem dot_mulVec : v.dot (m * w) = (m.transpose * v).dot w := by
  show v.dot (m.mulVec w) = (m.transpose.mulVec v).dot w
  simp only [mulVec, transpose, Vec3.dot, Vec3.add_x, Vec3.add_y, Vec3.add_z, Vec3.mul_x,
    Vec3.mul_y, Vec3.mul_z]
  ring

theorem dot_diagonal_mulVec (d : Vec3 ℝ) :
    v.dot (diagonal d * v) = d.x * v.x ^ 2 + d.y * v.y ^ 2 + d.z * v.z ^ 2 := by
  show v.dot ((diagonal d).mulVec v) = _
  simp only [mulVec, diagonal, Vec3.dot, Vec3.add_x, Vec3.add_y, Vec3.add_z, Vec3.mul_x,
    Vec3.mul_y, Vec3.mul_z]
  ring

theorem trace_mul_comm : (m * n).trace = (n * m).trace := by
  show (m.mul n).trace = (n.mul m).trace
  simp only [trace, mul, mulVec, Vec3.add_x, Vec3.add_y, Vec3.add_z, Vec3.mul_x, Vec3.mul_y,
    Vec3.mul_z]
  ring

theorem diagonal_mul_diagonal (d e : Vec3 ℝ) :
    diagonal d * diagonal e = diagonal ⟨d.x * e.x, d.y * e.y, d.z * e.z⟩ := by
  show (diagonal d).mul (diagonal e) = _
  ext <;> simp [mul, mulVec, diagonal]

theorem det_one : (1 : Mat3 ℝ).det = 1 := by
  show (diagonal (.const 1)).det = 1
  rw [det_diagonal]
  simp [Vec3.const]

variable {m n}

/-- Each row of the inverse is across two of the columns. -/
theorem mul_inverse (h : m.det ≠ 0) : m * m.inverse = 1 := by
  have hr : m.det * (1 / m.det) = 1 := mul_one_div_cancel h
  show m.mul m.inverse = scalar 1
  simp only [inverse]
  generalize 1 / m.det = r at hr
  simp only [det, Vec3.dot, Vec3.cross] at hr
  ext <;> simp only [mul, mulVec, transpose, scalar, diagonal, Vec3.const, Vec3.cross, Vec3.add_x,
    Vec3.add_y, Vec3.add_z, Vec3.mul_x, Vec3.mul_y, Vec3.mul_z]
  · linear_combination hr
  · ring
  · ring
  · ring
  · linear_combination hr
  · ring
  · ring
  · ring
  · linear_combination hr

theorem inverse_mul (h : m.det ≠ 0) : m.inverse * m = 1 := by
  have hdet : m.det * m.inverse.det = 1 := by rw [← det_mul, mul_inverse h, det_one]
  -- The inverse has an inverse as well, which can only be the matrix itself.
  have hinverse := mul_inverse (right_ne_zero_of_mul_eq_one hdet)
  have htwice : m = m.inverse.inverse := left_inv_eq_right_inv (mul_inverse h) hinverse
  rw [← htwice] at hinverse
  exact hinverse

/-- What is an inverse on one side is the inverse by cofactors. -/
theorem inverse_eq_of_mul_eq_one (h : m * n = 1) : m.inverse = n := by
  have hdet : m.det * n.det = 1 := by rw [← det_mul, h, det_one]
  exact left_inv_eq_right_inv (inverse_mul (left_ne_zero_of_mul_eq_one hdet)) h

/-- A matrix whose transpose is its inverse. -/
structure IsOrthogonal (r : Mat3 ℝ) : Prop where
  mul_transpose_self : r * r.transpose = 1
  transpose_mul_self : r.transpose * r = 1

namespace IsOrthogonal

variable {r : Mat3 ℝ}

theorem of_mul_transpose_self (h : r * r.transpose = 1) : r.IsOrthogonal where
  mul_transpose_self := h
  transpose_mul_self := by
    have hdet : r.det * r.transpose.det = 1 := by rw [← det_mul, h, det_one]
    rw [← inverse_eq_of_mul_eq_one h, inverse_mul (left_ne_zero_of_mul_eq_one hdet)]

theorem transpose_mulVec_eq_zero_iff (hr : r.IsOrthogonal) {v : Vec3 ℝ} :
    r.transpose * v = 0 ↔ v = 0 := by
  constructor
  · intro h
    rw [← one_mulVec v, ← hr.mul_transpose_self, mul_mulVec, h, mulVec_zero]
  · rintro rfl
    exact mulVec_zero _

/-- Both factors may be seen from the other frame. -/
theorem conjugate_mul (hr : r.IsOrthogonal) (m n : Mat3 ℝ) :
    conjugate r (m * n) = conjugate r m * conjugate r n := by
  -- Between the two factors the frame is left and entered again.
  calc r * (m * n) * r.transpose
      = r * m * 1 * (n * r.transpose) := by simp only [mul_assoc, one_mul]
    _ = r * m * (r.transpose * r) * (n * r.transpose) := by rw [hr.transpose_mul_self]
    _ = r * m * r.transpose * (r * n * r.transpose) := by simp only [mul_assoc]

theorem conjugate_one (hr : r.IsOrthogonal) : conjugate r 1 = 1 := by
  rw [conjugate, mul_one, hr.mul_transpose_self]

theorem trace_conjugate (hr : r.IsOrthogonal) (m : Mat3 ℝ) : (conjugate r m).trace = m.trace := by
  rw [conjugate, trace_mul_comm, ← mul_assoc, hr.transpose_mul_self, one_mul]

theorem det_conjugate (hr : r.IsOrthogonal) (m : Mat3 ℝ) : (conjugate r m).det = m.det := by
  have hdet : r.transpose.det * r.det = 1 := by rw [← det_mul, hr.transpose_mul_self, det_one]
  rw [conjugate, det_mul, det_mul]
  linear_combination m.det * hdet

theorem inverse_conjugate (hr : r.IsOrthogonal) {m n : Mat3 ℝ} (h : m * n = 1) :
    (conjugate r m).inverse = conjugate r n := by
  apply inverse_eq_of_mul_eq_one
  rw [← hr.conjugate_mul, h, hr.conjugate_one]

end IsOrthogonal

theorem transpose_conjugate (r m : Mat3 ℝ) :
    (conjugate r m).transpose = conjugate r m.transpose := by
  rw [conjugate, conjugate, transpose_mul, transpose_mul, transpose_transpose, mul_assoc]

/-- The quadratic form of a matrix, seen from another frame. -/
theorem dot_conjugate_mulVec (r m : Mat3 ℝ) (v : Vec3 ℝ) :
    v.dot (conjugate r m * v) = (r.transpose * v).dot (m * (r.transpose * v)) := by
  rw [conjugate, mul_mulVec, mul_mulVec, dot_mulVec]

end Mat3

/-- The matrix of a rotation is orthogonal. -/
theorem Quaternion.isOrthogonal_toMatrix {q : Quaternion ℝ} (h : q.normSq = 1) :
    q.toMatrix.IsOrthogonal := by
  apply Mat3.IsOrthogonal.of_mul_transpose_self
  have hone := toMatrix_mul_scalar h 1
  rwa [show Mat3.scalar 1 = 1 from rfl, mul_one] at hone

end SphereBench
