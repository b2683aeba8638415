import SphereBench.Proofs.Space.Rotation
import SphereBench.Proofs.Body.Energy
import SphereBench.Body.Motion
/-!
# Isotropic bodies

A body with three equal principal moments has the same inertia about every axis, however it is
oriented. Its angular momentum is then a fixed multiple of its spin, the gyroscopic torque vanishes,
and a step changes the angular momentum by the impulse of the pending torque and by nothing else.
-/

namespace SphereBench.Sphere

/-- A sphere whose principal moments are all `c`, in an orientation of unit norm. -/
structure IsIsotropic (c : ℝ) (s : Sphere ℝ) : Prop where
  inertia : s.inertia = .const c
  orientation : s.orientation.normSq = 1

namespace IsIsotropic

variable {c : ℝ} {s : Sphere ℝ}

/-- The orientation does not show in the inertia. -/
theorem worldInertia_eq (h : s.IsIsotropic c) : s.worldInertia = .scalar c := by
  rw [worldInertia, h.inertia]
  exact Quaternion.toMatrix_mul_scalar h.orientation c

theorem angularMomentum_eq (h : s.IsIsotropic c) : s.angularMomentum = s.spin * c := by
  rw [angularMomentum, h.worldInertia_eq, Mat3.scalar_mul]

theorem spin_eq (h : s.IsIsotropic c) (hc : c ≠ 0) : s.spin = s.angularMomentum * (1 / c) := by
  rw [h.angularMomentum_eq, ← Vec3.mul_mul, mul_one_div_cancel hc]
  ext <;> simp

/-- Only the pending torque changes the spin: there is no gyroscopic torque. -/
theorem spin_advance (h : s.IsIsotropic c) (hc : c ≠ 0) (gravity : Vec3 ℝ) (dt : ℝ) :
    (s.advance gravity dt).spin = s.spin + s.torque * (1 / c) * dt := by
  have hspin : (s.advance gravity dt).spin =
      s.spin + s.worldInertia.inverse *
        (s.torque - s.spin.cross (s.worldInertia * s.spin)) * dt := rfl
  rw [hspin, h.worldInertia_eq, Mat3.scalar_mul, Vec3.cross_mul_self, sub_zero,
    Mat3.inverse_scalar hc, Mat3.scalar_mul]

theorem advance (h : s.IsIsotropic c) (gravity : Vec3 ℝ) (dt : ℝ) :
    (s.advance gravity dt).IsIsotropic c where
  inertia := h.inertia
  orientation := Quaternion.normSq_turn h.orientation _

/-- A step adds the impulse of the pending torque to the angular momentum. -/
theorem angularMomentum_advance (h : s.IsIsotropic c) (hc : c ≠ 0) (gravity : Vec3 ℝ) (dt : ℝ) :
    (s.advance gravity dt).angularMomentum = s.angularMomentum + s.torque * dt := by
  rw [(h.advance gravity dt).angularMomentum_eq, h.angularMomentum_eq, h.spin_advance hc]
  ext <;> simp only [Vec3.add_x, Vec3.add_y, Vec3.add_z, Vec3.mul_x, Vec3.mul_y, Vec3.mul_z] <;>
    field_simp

end IsIsotropic

end SphereBench.Sphere
