import SphereBench.Proofs.Exact.Vector
import SphereBench.Body.Motion
/-!
# Bodies at rest

A sphere that neither moves nor turns, and on which nothing acts, stays exactly as it is as long as
there is no gravity.
-/

namespace SphereBench

namespace Quaternion

/-- The zero vector gives the rotation that leaves everything in place. -/
theorem ofRotationVector_zero : ofRotationVector (0 : Vec3 ℝ) = identity := by
  rw [ofRotationVector, Vec3.length_zero]
  exact if_pos (beq_self_eq_true (0 : ℝ))

theorem identity_mul (q : Quaternion ℝ) : identity * q = q := by
  show mul identity q = q
  ext <;> simp [mul, identity]

theorem normalize_identity : normalize (identity : Quaternion ℝ) = identity := by
  simp [normalize, normSq, identity]

end Quaternion

@[simp] theorem Mat3.mul_zero (m : Mat3 ℝ) : m * (0 : Vec3 ℝ) = 0 := by
  show m.mulVec 0 = 0
  ext <;> simp [Mat3.mulVec]

namespace Sphere

theorem angularMomentum_eq_zero {s : Sphere ℝ} (h : s.spin = 0) : s.angularMomentum = 0 := by
  rw [angularMomentum, h, Mat3.mul_zero]

/-- A sphere that neither moves nor turns, in its first orientation, with nothing acting on it. -/
structure AtRest (s : Sphere ℝ) : Prop where
  orientation : s.orientation = .identity
  velocity : s.velocity = 0
  spin : s.spin = 0
  force : s.force = 0
  torque : s.torque = 0

theorem atRest_solid (name : String) (position : Vec3 ℝ) (radius mass : ℝ) :
    AtRest (.solid name position radius mass) := ⟨rfl, rfl, rfl, rfl, rfl⟩

namespace AtRest

variable {s : Sphere ℝ}

/-- Without gravity a sphere at rest stays as it is. -/
theorem advance_zero (h : s.AtRest) (dt : ℝ) : s.advance 0 dt = s := by
  have hv : (s.advance 0 dt).velocity = s.velocity := by
    simp [advance_velocity, h.velocity, h.force]
  have hp : (s.advance 0 dt).position = s.position := by
    rw [advance_position, hv, h.velocity, Vec3.zero_mul, add_zero]
  have hspin : (s.advance 0 dt).spin = s.spin := by
    simp [advance, turn, h.spin, h.torque]
  have hq : (s.advance 0 dt).orientation = s.orientation := by
    have hturn : (s.advance 0 dt).orientation =
        (Quaternion.ofRotationVector ((s.advance 0 dt).spin * dt) * s.orientation).normalize := rfl
    rw [hturn, hspin, h.spin, h.orientation, Vec3.zero_mul, Quaternion.ofRotationVector_zero,
      Quaternion.identity_mul, Quaternion.normalize_identity]
  exact Sphere.ext rfl hp hq hv hspin rfl rfl rfl h.force.symm h.torque.symm

end AtRest

end Sphere

end SphereBench
