import SphereBench.Proofs.Exact.Vector
import SphereBench.Body.Motion
import SphereBench.Contact.Detection
import SphereBench.Contact.Response
/-!
# Frames of reference

The same spheres seen from a frame that is displaced and moves uniformly. Detection and response
look at positions and velocities relative to each other only, so in exact arithmetic they commute
with the change of frame. The free motion commutes with it as well, if the frame may accelerate as
gravity does.

## Main definitions

* `Boost` — a change of frame.
* `Boost.sphere`, `Boost.contact` — a sphere and a contact seen from the other frame.
* `Boost.later` — the change of frame after some steps.
-/

namespace SphereBench

/-- A change to a frame of reference in which everything is displaced and has a further
velocity. -/
@[ext] structure Boost where
  shift : Vec3 ℝ
  velocity : Vec3 ℝ

namespace Boost
noncomputable section

/-- A sphere seen from the other frame. -/
def sphere (f : Boost) (s : Sphere ℝ) : Sphere ℝ :=
  { s with position := s.position + f.shift, velocity := s.velocity + f.velocity }

/-- A box seen from the other frame. -/
def box (f : Boost) (b : Box ℝ) : Box ℝ := ⟨b.least + f.shift, b.greatest + f.shift⟩

/-- A contact seen from the other frame. -/
def contact (f : Boost) (c : Contact ℝ) : Contact ℝ := { c with point := c.point + f.shift }

/-- The change of frame after `n` steps of length `dt`, if gravity in the other frame is stronger by
`d`. -/
def later (f : Boost) (d : Vec3 ℝ) (dt : ℝ) (n : Nat) : Boost where
  shift := f.shift + f.velocity * (n * dt : ℝ) + d * (dt ^ 2 * triangle n)
  velocity := f.velocity + d * (n * dt : ℝ)

end

variable (f : Boost)

@[simp] theorem sphere_position (s : Sphere ℝ) :
    (f.sphere s).position = s.position + f.shift := rfl

@[simp] theorem sphere_velocity (s : Sphere ℝ) :
    (f.sphere s).velocity = s.velocity + f.velocity := rfl

@[simp] theorem sphere_radius (s : Sphere ℝ) : (f.sphere s).radius = s.radius := rfl
@[simp] theorem sphere_invMass (s : Sphere ℝ) : (f.sphere s).invMass = s.invMass := rfl

@[simp] theorem contact_bodyA (c : Contact ℝ) : (f.contact c).bodyA = c.bodyA := rfl
@[simp] theorem contact_bodyB (c : Contact ℝ) : (f.contact c).bodyB = c.bodyB := rfl
@[simp] theorem contact_normal (c : Contact ℝ) : (f.contact c).normal = c.normal := rfl
@[simp] theorem contact_depth (c : Contact ℝ) : (f.contact c).depth = c.depth := rfl

@[simp] theorem later_zero (d : Vec3 ℝ) (dt : ℝ) : f.later d dt 0 = f := by
  ext <;> simp [later]

theorem later_later (d : Vec3 ℝ) (dt : ℝ) (m n : Nat) :
    (f.later d dt m).later d dt n = f.later d dt (m + n) := by
  ext <;> simp only [later, triangle_add, Vec3.add_x, Vec3.add_y, Vec3.add_z, Vec3.mul_x,
    Vec3.mul_y, Vec3.mul_z] <;> push_cast <;> ring

/-- Free motion in a stronger gravity is free motion seen from a frame that gains velocity. -/
theorem advance_sphere (gravity d : Vec3 ℝ) (dt : ℝ) (s : Sphere ℝ) :
    (f.sphere s).advance (gravity + d) dt =
      (f.later d dt 1).sphere (s.advance gravity dt) := by
  have hv : ((f.sphere s).advance (gravity + d) dt).velocity =
      (s.advance gravity dt).velocity + (f.later d dt 1).velocity := by
    simp only [Sphere.advance_velocity, later, sphere, Vec3.mul_eq_smul]
    push_cast
    module
  have hp : ((f.sphere s).advance (gravity + d) dt).position =
      (s.advance gravity dt).position + (f.later d dt 1).shift := by
    rw [Sphere.advance_position, Sphere.advance_position, hv]
    simp only [later, sphere, triangle_one, Vec3.mul_eq_smul]
    push_cast
    module
  -- The rotation reads neither position nor velocity.
  exact Sphere.ext rfl hp rfl hv rfl rfl rfl rfl rfl rfl

@[simp] theorem separation_sphere (c : Contact ℝ) (a b : Sphere ℝ) :
    (f.contact c).separation (f.sphere a) (f.sphere b) = c.separation a b := by
  simp only [Contact.separation, sphere_velocity, contact_normal, Vec3.add_sub_add_right]

theorem bounds_sphere (s : Sphere ℝ) : (f.sphere s).bounds = f.box s.bounds := by
  simp only [Sphere.bounds, box, sphere_position, sphere_radius, Box.mk.injEq]
  exact ⟨add_sub_right_comm _ _ _, add_right_comm _ _ _⟩

theorem overlaps_box (a b : Box ℝ) : (f.box a).overlaps (f.box b) = a.overlaps b := by
  simp only [Box.overlaps, box, Vec3.add_x, Vec3.add_y, Vec3.add_z, add_le_add_iff_right]

theorem overlapsFrom_map_box (i : Nat) (boxes : List (Box ℝ)) :
    Contact.overlapsFrom i (boxes.map f.box) = Contact.overlapsFrom i boxes := by
  induction boxes generalizing i with
  | nil => rfl
  | cons a rest ih =>
    rw [List.map_cons, Contact.overlapsFrom, Contact.overlapsFrom, ih, List.zipIdx_map,
      List.filterMap_map]
    simp only [Function.comp_def, Prod.map, overlaps_box, id]

theorem candidates_map_sphere (spheres : List (Sphere ℝ)) :
    Contact.candidates (spheres.map f.sphere) = Contact.candidates spheres := by
  have hboxes :
      (spheres.map f.sphere).map Sphere.bounds = (spheres.map Sphere.bounds).map f.box := by
    simp only [List.map_map, Function.comp_def, bounds_sphere]
  rw [Contact.candidates, hboxes, overlapsFrom_map_box]
  rfl

theorem between?_sphere (i : Nat) (a : Sphere ℝ) (j : Nat) (b : Sphere ℝ) :
    Contact.between? i (f.sphere a) j (f.sphere b) =
      (Contact.between? i a j b).map f.contact := by
  simp only [Contact.between?, sphere_radius, sphere_position, Vec3.add_sub_add_right]
  split
  · rfl
  · simp only [Option.map_some, contact, Option.some.injEq, Contact.mk.injEq, true_and, and_true]
    exact add_right_comm _ _ _

theorem at?_map_sphere (spheres : List (Sphere ℝ)) (i j : Nat) :
    Contact.at? (spheres.map f.sphere) i j = (Contact.at? spheres i j).map f.contact := by
  simp only [Contact.at?, List.getElem?_map]
  cases spheres[i]? with
  | none => rfl
  | some a =>
    cases spheres[j]? with
    | none => rfl
    | some b => exact f.between?_sphere i a j b

/-- Both frames see the same contacts. -/
theorem detect_map_sphere (spheres : List (Sphere ℝ)) :
    Contact.detect (spheres.map f.sphere) = (Contact.detect spheres).map f.contact := by
  simp only [Contact.detect, candidates_map_sphere, at?_map_sphere, List.map_filterMap]

theorem push_sphere (c : Contact ℝ) (restitution : ℝ) (a b : Sphere ℝ) :
    (f.contact c).push restitution (f.sphere a) (f.sphere b) =
      (f.sphere (c.push restitution a b).1, f.sphere (c.push restitution a b).2) := by
  simp only [Contact.push, separation_sphere]
  split
  · simp only [contact_normal, Sphere.invMass, sphere, add_sub_right_comm, add_right_comm]
  · rfl

theorem separate_sphere (c : Contact ℝ) (a b : Sphere ℝ) :
    (f.contact c).separate (f.sphere a) (f.sphere b) =
      (f.sphere (c.separate a b).1, f.sphere (c.separate a b).2) := by
  simp only [Contact.separate, contact_normal, contact_depth, Sphere.invMass, sphere,
    add_sub_right_comm, add_right_comm]

/-- A response commutes with the change of frame. -/
theorem respond_sphere (c : Contact ℝ) (restitution : ℝ) (a b : Sphere ℝ) :
    (f.contact c).respond restitution (f.sphere a) (f.sphere b) =
      (f.sphere (c.respond restitution a b).1, f.sphere (c.respond restitution a b).2) := by
  simp only [Contact.respond, push_sphere, separate_sphere]

end Boost

end SphereBench
