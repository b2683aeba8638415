import SphereBench.Body.Sphere
/-!
# Contacts

A contact records that two spheres of a list, given by their indices, penetrate each other.
-/

namespace SphereBench

/-- A penetration of two spheres. -/
@[ext] structure Contact (K : Type) where
  /-- Index of the first sphere, the smaller one. -/
  bodyA : Nat
  /-- Index of the second sphere. -/
  bodyB : Nat
  /-- Point on the surface of the first sphere. -/
  point : Vec3 K
  /-- Direction from the first to the second sphere. -/
  normal : Vec3 K
  /-- Depth of the penetration. -/
  depth : K

namespace Contact
variable {K : Type} [Scalar K]

/-- The list with the two spheres of a contact changed together. A contact whose bodies are not in
the list changes nothing. -/
@[specialize] def updateBodies (c : Contact K) (spheres : List (Sphere K))
    (change : Sphere K → Sphere K → Sphere K × Sphere K) : List (Sphere K) :=
  match spheres[c.bodyA]?, spheres[c.bodyB]? with
  | some a, some b =>
    let (a', b') := change a b
    (spheres.set c.bodyA a').set c.bodyB b'
  | _, _ => spheres

/-- The velocity of the second sphere relative to the first along the normal of a contact, negative
while they approach. -/
@[inline] def separation (c : Contact K) (a b : Sphere K) : K :=
  (b.velocity - a.velocity).dot c.normal

/-- The separation of the two spheres of a contact in a list. -/
@[specialize] def normalVelocity (c : Contact K) (spheres : List (Sphere K)) : K :=
  match spheres[c.bodyA]?, spheres[c.bodyB]? with
  | some a, some b => c.separation a b
  | _, _ => 0

end Contact

end SphereBench
