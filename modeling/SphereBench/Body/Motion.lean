import SphereBench.Body.Sphere
/-!
# Motion without contacts

One step of motion under gravity and the pending force and torque. The velocity is updated first
and the new velocity moves the centre; the same order holds for the rotation, whose equation
includes the gyroscopic torque.
-/

namespace SphereBench.Sphere
variable {K : Type} [Scalar K]

/-- The sphere after its rotation for a time `dt` under the pending torque. -/
@[specialize] def turn (s : Sphere K) (dt : K) : Sphere K :=
  let inertia := s.worldInertia
  let gyroscopic := s.spin.cross (inertia * s.spin)
  let spin := s.spin + inertia.inverse * (s.torque - gyroscopic) * dt
  { s with
    spin := spin
    orientation := (Quaternion.ofRotationVector (spin * dt) * s.orientation).normalize }

/-- The sphere after a time `dt` under gravity and what is pending, with nothing pending any
more. -/
@[specialize] def advance (gravity : Vec3 K) (dt : K) (s : Sphere K) : Sphere K :=
  let velocity := s.velocity + (gravity + s.force / s.mass) * dt
  let moved := { s with velocity := velocity, position := s.position + velocity * dt }
  { moved.turn dt with force := 0, torque := 0 }

variable (gravity : Vec3 K) (dt : K) (s : Sphere K)

@[simp] theorem advance_name : (s.advance gravity dt).name = s.name := rfl
@[simp] theorem advance_radius : (s.advance gravity dt).radius = s.radius := rfl
@[simp] theorem advance_mass : (s.advance gravity dt).mass = s.mass := rfl
@[simp] theorem advance_inertia : (s.advance gravity dt).inertia = s.inertia := rfl
@[simp] theorem advance_force : (s.advance gravity dt).force = 0 := rfl
@[simp] theorem advance_torque : (s.advance gravity dt).torque = 0 := rfl

theorem advance_velocity :
    (s.advance gravity dt).velocity = s.velocity + (gravity + s.force / s.mass) * dt := rfl

theorem advance_position :
    (s.advance gravity dt).position = s.position + (s.advance gravity dt).velocity * dt := rfl

end SphereBench.Sphere
