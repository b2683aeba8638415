import SphereBench.Space.Quaternion
/-!
# Spheres

The bodies of a simulation: rigid spheres with position, orientation and their rates of change,
and what mechanics derives from them.
-/

namespace SphereBench

/-- A rigid sphere. -/
@[ext] structure Sphere (K : Type) where
  name : String
  /-- Position of the centre. -/
  position : Vec3 K
  /-- Rotation from the frame of the body to the frame of the world. -/
  orientation : Quaternion K
  /-- Velocity of the centre. -/
  velocity : Vec3 K
  /-- Angular velocity in the frame of the world. -/
  spin : Vec3 K
  radius : K
  mass : K
  /-- Principal moments of inertia, in the frame of the body. -/
  inertia : Vec3 K
  /-- External force to act during the next step. -/
  force : Vec3 K
  /-- External torque to act during the next step. -/
  torque : Vec3 K

/-- An axis-aligned box. -/
@[ext] structure Box (K : Type) where
  /-- The corner with the least coordinates. -/
  least : Vec3 K
  /-- The corner with the greatest coordinates. -/
  greatest : Vec3 K

variable {K : Type} [Scalar K]

/-- Whether two boxes have a point in common; to touch is enough. -/
def Box.overlaps (a b : Box K) : Bool :=
  decide (a.least.x ≤ b.greatest.x) && decide (b.least.x ≤ a.greatest.x) &&
    decide (a.least.y ≤ b.greatest.y) && decide (b.least.y ≤ a.greatest.y) &&
    decide (a.least.z ≤ b.greatest.z) && decide (b.least.z ≤ a.greatest.z)

namespace Sphere

/-- Principal moments of a homogeneous solid sphere. -/
@[inline] def solidInertia (mass radius : K) : Vec3 K := .const (0.4 * mass * radius * radius)

/-- A homogeneous sphere at rest, with nothing acting on it. -/
def solid (name : String) (position : Vec3 K) (radius mass : K) : Sphere K where
  name := name
  position := position
  orientation := .identity
  velocity := 0
  spin := 0
  radius := radius
  mass := mass
  inertia := solidInertia mass radius
  force := 0
  torque := 0

/-- Reciprocal of the mass. -/
@[inline] def invMass (s : Sphere K) : K := 1 / s.mass

/-- Inertia tensor in the frame of the world. -/
@[inline] def worldInertia (s : Sphere K) : Mat3 K :=
  let rotation := s.orientation.toMatrix
  rotation * .diagonal s.inertia * rotation.transpose

/-- Angular momentum about the centre. -/
@[inline] def angularMomentum (s : Sphere K) : Vec3 K := s.worldInertia * s.spin

/-- Kinetic energy of linear motion and of rotation. -/
@[inline] def kineticEnergy (s : Sphere K) : K :=
  0.5 * s.mass * s.velocity.lengthSq + 0.5 * s.spin.dot s.angularMomentum

/-- Kinetic energy and the potential energy in a uniform gravity. -/
@[inline] def energy (s : Sphere K) (gravity : Vec3 K) : K :=
  s.kineticEnergy - s.mass * gravity.dot s.position

/-- The smallest box around the sphere. -/
@[inline] def bounds (s : Sphere K) : Box K :=
  ⟨s.position - .const s.radius, s.position + .const s.radius⟩

end Sphere

end SphereBench
