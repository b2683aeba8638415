import SphereBench.Proofs.Space.Orthogonal
import SphereBench.Proofs.Body.Isotropic
/-!
# Inertia in the frame of the world

The inertia of a sphere in the frame of the world is that of its principal moments, seen from a
rotated frame. Whatever the orientation, it is symmetric, it has the determinant and the trace of
the moments, its quadratic form weighs the components of the spin along the axes of the body, and
its inverse is that of the reciprocal moments. A step of rotation therefore solves the equation of
Euler, with the momentum of the spin before the step.
-/

namespace SphereBench.Sphere

/-- The spin in the frame of the body. -/
noncomputable def bodySpin (s : Sphere ℝ) : Vec3 ℝ := s.orientation.toMatrix.transpose * s.spin

variable {s : Sphere ℝ}

theorem worldInertia_eq_conjugate (s : Sphere ℝ) :
    s.worldInertia = .conjugate s.orientation.toMatrix (.diagonal s.inertia) := rfl

theorem transpose_worldInertia (s : Sphere ℝ) : s.worldInertia.transpose = s.worldInertia := by
  rw [worldInertia_eq_conjugate, Mat3.transpose_conjugate, Mat3.transpose_diagonal]

/-- The inertia tensor of an oriented sphere spans the product of the moments. -/
theorem det_worldInertia (h : s.orientation.normSq = 1) :
    s.worldInertia.det = s.inertia.x * s.inertia.y * s.inertia.z := by
  rw [worldInertia_eq_conjugate, (Quaternion.isOrthogonal_toMatrix h).det_conjugate,
    Mat3.det_diagonal]

theorem trace_worldInertia (h : s.orientation.normSq = 1) :
    s.worldInertia.trace = s.inertia.x + s.inertia.y + s.inertia.z := by
  rw [worldInertia_eq_conjugate, (Quaternion.isOrthogonal_toMatrix h).trace_conjugate]
  rfl

/-- The inverse of the inertia is that of the moments, in the rotated frame. -/
theorem inverse_worldInertia (h : s.orientation.normSq = 1) (hx : s.inertia.x ≠ 0)
    (hy : s.inertia.y ≠ 0) (hz : s.inertia.z ≠ 0) :
    s.worldInertia.inverse = .conjugate s.orientation.toMatrix
      (.diagonal ⟨1 / s.inertia.x, 1 / s.inertia.y, 1 / s.inertia.z⟩) := by
  apply (Quaternion.isOrthogonal_toMatrix h).inverse_conjugate
  rw [Mat3.diagonal_mul_diagonal, mul_one_div_cancel hx, mul_one_div_cancel hy,
    mul_one_div_cancel hz]
  rfl

/-- The equation of Euler: torque and gyroscopic torque change the spin as the inertia allows. -/
theorem worldInertia_mul_turn (h : s.worldInertia.det ≠ 0) (dt : ℝ) :
    s.worldInertia * ((s.turn dt).spin - s.spin) =
      (s.torque - s.spin.cross s.angularMomentum) * dt := by
  have hspin : (s.turn dt).spin - s.spin =
      s.worldInertia.inverse * (s.torque - s.spin.cross s.angularMomentum) * dt :=
    add_sub_cancel_left _ _
  rw [hspin, Mat3.mulVec_mul, ← Mat3.mul_mulVec, Mat3.mul_inverse h, Mat3.one_mulVec]

/-- Each moment weighs the spin about its own axis of the body. -/
theorem spin_dot_angularMomentum (s : Sphere ℝ) :
    s.spin.dot s.angularMomentum = s.inertia.x * s.bodySpin.x ^ 2 +
      s.inertia.y * s.bodySpin.y ^ 2 + s.inertia.z * s.bodySpin.z ^ 2 := by
  rw [angularMomentum, worldInertia_eq_conjugate, Mat3.dot_conjugate_mulVec,
    Mat3.dot_diagonal_mulVec]
  rfl

theorem bodySpin_eq_zero_iff (h : s.orientation.normSq = 1) : s.bodySpin = 0 ↔ s.spin = 0 :=
  (Quaternion.isOrthogonal_toMatrix h).transpose_mulVec_eq_zero_iff

theorem spinEnergy_nonneg (hx : 0 ≤ s.inertia.x) (hy : 0 ≤ s.inertia.y) (hz : 0 ≤ s.inertia.z) :
    0 ≤ s.spinEnergy := by
  rw [spinEnergy, spin_dot_angularMomentum]
  positivity

theorem spinEnergy_eq_zero_iff (h : s.orientation.normSq = 1) (hx : 0 < s.inertia.x)
    (hy : 0 < s.inertia.y) (hz : 0 < s.inertia.z) : s.spinEnergy = 0 ↔ s.spin = 0 := by
  have hhalf : (0.5 : ℝ) ≠ 0 := by norm_num
  rw [spinEnergy, mul_eq_zero_iff_left hhalf, spin_dot_angularMomentum, ← bodySpin_eq_zero_iff h]
  constructor
  · intro hsum
    have hxx : 0 ≤ s.inertia.x * s.bodySpin.x ^ 2 := by positivity
    have hyy : 0 ≤ s.inertia.y * s.bodySpin.y ^ 2 := by positivity
    have hzz : 0 ≤ s.inertia.z * s.bodySpin.z ^ 2 := by positivity
    have hpart {c w : ℝ} (hc : 0 < c) (h : c * w ^ 2 = 0) : w = 0 :=
      pow_eq_zero_iff two_ne_zero |>.mp ((mul_eq_zero_iff_left hc.ne').mp h)
    ext
    · exact hpart hx (by linarith)
    · exact hpart hy (by linarith)
    · exact hpart hz (by linarith)
  · intro hzero
    simp [hzero]

theorem kineticEnergy_nonneg (hmass : 0 ≤ s.mass) (hx : 0 ≤ s.inertia.x) (hy : 0 ≤ s.inertia.y)
    (hz : 0 ≤ s.inertia.z) : 0 ≤ s.kineticEnergy := by
  rw [kineticEnergy_eq]
  exact add_nonneg (linearEnergy_nonneg hmass) (spinEnergy_nonneg hx hy hz)

/-- With positive mass and moments only a sphere at rest has no energy. -/
theorem kineticEnergy_eq_zero_iff (h : s.orientation.normSq = 1) (hmass : 0 < s.mass)
    (hx : 0 < s.inertia.x) (hy : 0 < s.inertia.y) (hz : 0 < s.inertia.z) :
    s.kineticEnergy = 0 ↔ s.velocity = 0 ∧ s.spin = 0 := by
  rw [kineticEnergy_eq, add_eq_zero_iff_of_nonneg (linearEnergy_nonneg hmass.le)
    (spinEnergy_nonneg hx.le hy.le hz.le), linearEnergy_eq_zero_iff hmass,
    spinEnergy_eq_zero_iff h hx hy hz]

/-- With equal moments every orientation gives the same inertia. -/
theorem worldInertia_eq_of_inertia_eq (h : s.orientation.normSq = 1)
    (hxy : s.inertia.x = s.inertia.y) (hyz : s.inertia.y = s.inertia.z) {q : Quaternion ℝ}
    (hq : q.normSq = 1) : { s with orientation := q }.worldInertia = s.worldInertia := by
  have hinertia : s.inertia = .const s.inertia.z := Vec3.ext (hxy.trans hyz) hyz rfl
  have hhere : s.IsIsotropic s.inertia.z := ⟨hinertia, h⟩
  have hthere : { s with orientation := q }.IsIsotropic s.inertia.z := ⟨hinertia, hq⟩
  rw [hthere.worldInertia_eq, hhere.worldInertia_eq]

/-- **Inertia in the frame of the world.** A unit orientation is a rotation, and sees the diagonal
matrix of the moments as a symmetric matrix with the same determinant and trace. The moments weigh
the spin in the frame of the body, so that the kinetic energy is not negative unless the mass or a
moment is, and if these are positive, it is zero only at rest. If no moment is zero the inverse by
cofactors is the inverse on both sides and that of the reciprocal moments in the rotated frame, and
a step of rotation solves the equation of Euler. If the moments are equal, every rotation sees the
same matrix. -/
theorem congruent_worldInertia (h : s.orientation.normSq = 1) :
    let rotation := s.orientation.toMatrix
    let moments := s.inertia
    let inertia := s.worldInertia
    (rotation.IsOrthogonal ∧ rotation.det = 1 ∧
      inertia = rotation * .diagonal moments * rotation.transpose ∧
      inertia.transpose = inertia ∧
      inertia.det = moments.x * moments.y * moments.z ∧
      inertia.trace = moments.x + moments.y + moments.z) ∧
    s.spin.dot s.angularMomentum = moments.x * s.bodySpin.x ^ 2 + moments.y * s.bodySpin.y ^ 2 +
      moments.z * s.bodySpin.z ^ 2 ∧
    (0 ≤ s.mass → 0 ≤ moments.x → 0 ≤ moments.y → 0 ≤ moments.z → 0 ≤ s.kineticEnergy) ∧
    (0 < s.mass → 0 < moments.x → 0 < moments.y → 0 < moments.z →
      (s.kineticEnergy = 0 ↔ s.velocity = 0 ∧ s.spin = 0)) ∧
    (moments.x ≠ 0 → moments.y ≠ 0 → moments.z ≠ 0 →
      inertia * inertia.inverse = 1 ∧ inertia.inverse * inertia = 1 ∧
      inertia.inverse =
        rotation * .diagonal ⟨1 / moments.x, 1 / moments.y, 1 / moments.z⟩ * rotation.transpose ∧
      ∀ dt, inertia * ((s.turn dt).spin - s.spin) =
        (s.torque - s.spin.cross s.angularMomentum) * dt) ∧
    (moments.x = moments.y → moments.y = moments.z → ∀ q : Quaternion ℝ, q.normSq = 1 →
      { s with orientation := q }.worldInertia = inertia) := by
  intro rotation moments inertia
  refine ⟨⟨Quaternion.isOrthogonal_toMatrix h, Quaternion.det_toMatrix h, rfl,
    transpose_worldInertia s, det_worldInertia h, trace_worldInertia h⟩,
    spin_dot_angularMomentum s, kineticEnergy_nonneg, kineticEnergy_eq_zero_iff h, ?_,
    fun hxy hyz q hq => worldInertia_eq_of_inertia_eq h hxy hyz hq⟩
  intro hx hy hz
  have hdet : inertia.det ≠ 0 := by
    rw [det_worldInertia h]
    exact mul_ne_zero (mul_ne_zero hx hy) hz
  exact ⟨Mat3.mul_inverse hdet, Mat3.inverse_mul hdet, inverse_worldInertia h hx hy hz,
    worldInertia_mul_turn hdet⟩

/-- A sphere that is turned about the first axis, with moments about its own axes. -/
noncomputable def tilted (moments : Vec3 ℝ) : Sphere ℝ :=
  { Sphere.solid "tilted" 0 1 2.0 with
    orientation := ⟨0.6, 0, 0, 0.8⟩
    spin := ⟨0, 5.0, 0⟩
    inertia := moments }

/-- A spin about the second axis of the world, of a sphere whose second axis is turned: what the
moments weigh are its parts along both axes of the body. A homogeneous sphere looks the same from
every frame. -/
theorem congruent_worldInertia_tilted :
    let s := tilted ⟨1, 2, 3⟩
    s.orientation.normSq = 1 ∧
      s.worldInertia.det = 6 ∧ s.worldInertia.trace = 6 ∧
      s.spin.dot s.angularMomentum = 2 * 1.4 ^ 2 + 3 * (-4.8) ^ 2 ∧
      0 ≤ s.kineticEnergy ∧ s.kineticEnergy ≠ 0 ∧
      s.worldInertia * s.worldInertia.inverse = 1 ∧
      (tilted (.const 2)).worldInertia =
        { tilted (.const 2) with orientation := .identity }.worldInertia := by
  have hunit (moments : Vec3 ℝ) : (tilted moments).orientation.normSq = 1 := by
    norm_num [tilted, Quaternion.normSq]
  have hspin : (tilted ⟨1, 2, 3⟩).bodySpin = ⟨0, 1.4, -4.8⟩ := by
    show (tilted ⟨1, 2, 3⟩).orientation.toMatrix.transpose.mulVec _ = _
    ext <;> norm_num [tilted, Quaternion.toMatrix, Mat3.transpose, Mat3.mulVec]
  obtain ⟨⟨-, -, -, -, hdet, htrace⟩, hdot, hnonneg, hzero, hinverse, -⟩ :=
    congruent_worldInertia (hunit ⟨1, 2, 3⟩)
  obtain ⟨-, -, -, -, -, hsame⟩ := congruent_worldInertia (hunit (.const 2))
  refine ⟨hunit _, ?_, ?_, ?_, ?_, ?_, ?_, ?_⟩
  · rw [hdet]
    norm_num [tilted]
  · rw [htrace]
    norm_num [tilted]
  · rw [hdot, hspin]
    norm_num [tilted]
  · exact hnonneg (by norm_num [tilted, solid]) (by norm_num [tilted]) (by norm_num [tilted])
      (by norm_num [tilted])
  · rw [Ne, hzero (by norm_num [tilted, solid]) (by norm_num [tilted]) (by norm_num [tilted])
      (by norm_num [tilted])]
    rintro ⟨-, hrest⟩
    have hy : (5.0 : ℝ) = 0 := congrArg Vec3.y hrest
    norm_num at hy
  · exact (hinverse (by norm_num [tilted]) (by norm_num [tilted]) (by norm_num [tilted])).1
  · exact (hsame rfl rfl .identity (by simp [Quaternion.normSq, Quaternion.identity])).symm

end SphereBench.Sphere
