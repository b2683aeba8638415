import SphereBench.Proofs.Exact.Vector
import SphereBench.Body.Sphere
/-!
# Parts of the kinetic energy

The kinetic energy of a sphere is that of its linear motion and that of its rotation. Contacts act
on the first part only, torques on the second.
-/

namespace SphereBench
noncomputable section

/-- Kinetic energy of the linear motion of a sphere. -/
def Sphere.linearEnergy (s : Sphere ℝ) : ℝ := 0.5 * s.mass * s.velocity.lengthSq

/-- Kinetic energy of the rotation of a sphere. -/
def Sphere.spinEnergy (s : Sphere ℝ) : ℝ := 0.5 * s.spin.dot s.angularMomentum

/-- Kinetic energy of the linear motion of all spheres. -/
def Bodies.linearEnergy (spheres : List (Sphere ℝ)) : ℝ :=
  (spheres.map Sphere.linearEnergy).sum

end

namespace Sphere
variable {s : Sphere ℝ}

theorem kineticEnergy_eq (s : Sphere ℝ) : s.kineticEnergy = s.linearEnergy + s.spinEnergy := rfl

theorem linearEnergy_nonneg (hmass : 0 ≤ s.mass) : 0 ≤ s.linearEnergy := by
  have hsq := s.velocity.lengthSq_nonneg
  rw [linearEnergy]
  positivity

theorem linearEnergy_eq_zero_iff (hmass : 0 < s.mass) : s.linearEnergy = 0 ↔ s.velocity = 0 := by
  have hfactor : 0.5 * s.mass ≠ 0 := by positivity
  rw [linearEnergy, mul_eq_zero_iff_left hfactor, Vec3.lengthSq_eq_zero_iff]

end Sphere

end SphereBench
