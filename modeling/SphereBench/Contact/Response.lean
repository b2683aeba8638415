import SphereBench.Contact.Basic
/-!
# Response to a single contact

The immediate response to a contact: an impulse along the normal if the spheres approach, and a
shift that takes out most of the penetration beyond a small allowance. Impulse and shift are
shared out by the reciprocals of the masses.
-/

namespace SphereBench.Contact
variable {K : Type} [Scalar K]

/-- Penetration that is left alone. -/
@[inline] def allowance : K := 0.01

/-- Fraction of the further penetration that one response takes out. -/
@[inline] def correctedFraction : K := 0.8

/-- Two spheres after an impulse that reverses their approach, times the restitution. Spheres that
separate are left alone. -/
@[inline] def push (c : Contact K) (restitution : K) (a b : Sphere K) : Sphere K × Sphere K :=
  let invMassSum := a.invMass + b.invMass
  let speed := c.separation a b
  if speed < 0 then
    let size : K := -(1 + restitution) * speed / invMassSum
    let impulse : Vec3 K := c.normal * size
    ({ a with velocity := a.velocity - impulse * a.invMass },
      { b with velocity := b.velocity + impulse * b.invMass })
  else (a, b)

/-- Two spheres shifted apart along the normal. -/
@[inline] def separate (c : Contact K) (a b : Sphere K) : Sphere K × Sphere K :=
  let invMassSum := a.invMass + b.invMass
  let size : K := Scalar.maxNum (c.depth - allowance) 0 / invMassSum * correctedFraction
  let shift : Vec3 K := c.normal * size
  ({ a with position := a.position - shift * a.invMass },
    { b with position := b.position + shift * b.invMass })

/-- Two spheres after the response to their contact. -/
@[specialize] def respond (c : Contact K) (restitution : K) (a b : Sphere K) :
    Sphere K × Sphere K :=
  let (a, b) := c.push restitution a b
  c.separate a b

end SphereBench.Contact
