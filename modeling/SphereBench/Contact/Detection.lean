import SphereBench.Contact.Basic
/-!
# Detection of contacts

Contacts are found in two phases: the pairs whose boxes overlap, and among these the pairs whose
centres are nearer than the sum of the radii. Contacts are listed in the order of their indices.
-/

namespace SphereBench.Contact
variable {K : Type} [Scalar K]

/-- The pairs of overlapping boxes, when the first box of the list has index `i`. -/
@[specialize] def overlapsFrom (i : Nat) : List (Box K) → List (Nat × Nat)
  | [] => []
  | a :: rest =>
    (rest.zipIdx (i + 1)).filterMap (fun (b, j) => if a.overlaps b then some (i, j) else none) ++
      overlapsFrom (i + 1) rest

/-- The pairs of indices, the smaller one first, whose boxes overlap. -/
def candidates (spheres : List (Sphere K)) : List (Nat × Nat) :=
  overlapsFrom 0 (spheres.map Sphere.bounds)

/-- The direction between two centres. Centres that coincide, nearly at least, have none, and the
z axis is taken. -/
@[inline] def direction (offset : Vec3 K) (distance : K) : Vec3 K :=
  if 1e-9 < distance then offset / distance else .alongZ 1

/-- The contact between two spheres, if their centres are nearer than the sum of the radii. Spheres
that only touch have none. -/
@[specialize] def between? (i : Nat) (a : Sphere K) (j : Nat) (b : Sphere K) :
    Option (Contact K) :=
  let offset := b.position - a.position
  let distanceSq := offset.lengthSq
  let reach := a.radius + b.radius
  if reach * reach ≤ distanceSq then none
  else
    let distance := Scalar.sqrt distanceSq
    let normal := direction offset distance
    some
      { bodyA := i
        bodyB := j
        point := a.position + normal * a.radius
        normal := normal
        depth := reach - distance }

/-- The contact between the spheres with two indices. -/
def at? (spheres : List (Sphere K)) (i j : Nat) : Option (Contact K) :=
  match spheres[i]?, spheres[j]? with
  | some a, some b => between? i a j b
  | _, _ => none

/-- All contacts, in the lexicographic order of their indices. -/
def detect (spheres : List (Sphere K)) : List (Contact K) :=
  (candidates spheres).filterMap fun (i, j) => at? spheres i j

end SphereBench.Contact
