import SphereBench.Proofs.Contact.Normal
import SphereBench.Contact.Response
/-!
# Geometry of a contact

The second phase of detection compares the squares of two lengths, and takes a square root only for
spheres that penetrate each other. In exact arithmetic this is a comparison of the distance of the
centres with the sum of the radii, and the contact that is found is the one of Euclidean geometry.
Where the centres are far enough from each other to give a direction, the contact does not depend on
which sphere is named first, but for its orientation, and its response does not at all.
-/

namespace SphereBench

/-- The distance of the centres of two spheres. -/
noncomputable def Sphere.distance (a b : Sphere ℝ) : ℝ := (b.position - a.position).length

theorem Sphere.distance_nonneg (a b : Sphere ℝ) : 0 ≤ a.distance b := Vec3.length_nonneg _

theorem Sphere.distance_comm (a b : Sphere ℝ) : b.distance a = a.distance b := by
  rw [distance, distance, ← neg_sub, Vec3.length_neg]

namespace Contact

/-- The direction of an offset times its length is the offset, unless the offset is too short for a
direction of its own. An offset of no length has no need of one. -/
theorem direction_mul_length {v : Vec3 ℝ} (h : 1e-9 < v.length ∨ v.length = 0) :
    direction v v.length * v.length = v := by
  rcases h with h | h
  · have hpos : 0 < v.length := lt_trans (by norm_num) h
    rw [direction, if_pos h]
    ext <;> simp [hpos.ne']
  · rw [h, Vec3.length_eq_zero_iff.mp h]
    simp [Vec3.mul_eq_smul]

/-- An offset and its opposite have opposite directions, unless they are too short. -/
theorem direction_neg {v : Vec3 ℝ} (h : 1e-9 < v.length) :
    direction (-v) v.length = -direction v v.length := by
  rw [direction, direction, if_pos h, if_pos h]
  ext <;> simp [neg_div]

variable {a b : Sphere ℝ} {i j : Nat}

/-- The contact of two spheres that penetrate each other. -/
noncomputable def meeting (i : Nat) (a : Sphere ℝ) (j : Nat) (b : Sphere ℝ) : Contact ℝ where
  bodyA := i
  bodyB := j
  point := a.position + direction (b.position - a.position) (a.distance b) * a.radius
  normal := direction (b.position - a.position) (a.distance b)
  depth := a.radius + b.radius - a.distance b

/-- Two spheres have a contact exactly if their centres are nearer than the sum of the radii. -/
theorem between?_eq (h : 0 ≤ a.radius + b.radius) (i j : Nat) :
    between? i a j b =
      if a.distance b < a.radius + b.radius then some (meeting i a j b) else none := by
  have hfar : (a.radius + b.radius) * (a.radius + b.radius) ≤ (b.position - a.position).lengthSq ↔
      ¬ a.distance b < a.radius + b.radius := by
    rw [not_lt, ← sq, ← Vec3.sq_length]
    exact sq_le_sq₀ h (a.distance_nonneg b)
  by_cases hnear : a.distance b < a.radius + b.radius
  · rw [if_pos hnear, between?, if_neg (hfar.not.mpr (not_not.mpr hnear))]
    rfl
  · rw [if_neg hnear, between?, if_pos (hfar.mpr hnear)]

/-- The offset of the centres is their distance along the normal. -/
theorem normal_mul_distance (h : 1e-9 < a.distance b ∨ a.distance b = 0) :
    (meeting i a j b).normal * a.distance b = b.position - a.position :=
  direction_mul_length h

theorem lengthSq_normal_meeting (i : Nat) (a : Sphere ℝ) (j : Nat) (b : Sphere ℝ) :
    (meeting i a j b).normal.lengthSq = 1 :=
  lengthSq_direction (b.position - a.position)

/-- A contact with the geometry of two spheres. -/
structure Describes (c : Contact ℝ) (a b : Sphere ℝ) : Prop where
  normal : c.normal.length = 1
  depth : c.depth = a.radius + b.radius - a.distance b
  depth_pos : 0 < c.depth
  depth_le : c.depth ≤ a.radius + b.radius
  /-- The point is on the surface of the first sphere. -/
  point : (c.point - a.position).length = a.radius
  /-- Moved out by the depth, the second sphere just touches the first. -/
  touch : 1e-9 < a.distance b ∨ a.distance b = 0 →
    a.distance { b with position := b.position + c.normal * c.depth } = a.radius + b.radius

theorem describes_meeting (ha : 0 ≤ a.radius) (hb : 0 ≤ b.radius)
    (h : a.distance b < a.radius + b.radius) : (meeting i a j b).Describes a b := by
  have hn := lengthSq_normal_meeting i a j b
  -- From the first centre, both the point and the moved centre are at some length along the normal.
  refine ⟨Vec3.length_of_lengthSq_eq_one hn, rfl, sub_pos.mpr h,
    sub_le_self _ (a.distance_nonneg b), ?_, ?_⟩
  · have hpoint : (meeting i a j b).point - a.position = (meeting i a j b).normal * a.radius :=
      add_sub_cancel_left _ _
    rw [hpoint, Vec3.length_unit_mul hn ha]
  · intro hdirected
    have hmoved : b.position + (meeting i a j b).normal * (meeting i a j b).depth - a.position =
        (meeting i a j b).normal * (a.radius + b.radius) := by
      rw [add_sub_right_comm, ← normal_mul_distance (i := i) (j := j) hdirected]
      simp only [meeting, Vec3.mul_eq_smul]
      module
    rw [Sphere.distance, hmoved, Vec3.length_unit_mul hn (add_nonneg ha hb)]

/-- A contact with its bodies named in the other order. Its point is on the surface of the body that
is now the first. -/
noncomputable def flip (c : Contact ℝ) : Contact ℝ where
  bodyA := c.bodyB
  bodyB := c.bodyA
  point := c.point - c.normal * c.depth
  normal := -c.normal
  depth := c.depth

@[simp] theorem flip_normal (c : Contact ℝ) : c.flip.normal = -c.normal := rfl
@[simp] theorem flip_depth (c : Contact ℝ) : c.flip.depth = c.depth := rfl

theorem meeting_flip (h : 1e-9 < a.distance b) : meeting j b i a = (meeting i a j b).flip := by
  have hnormal : (meeting j b i a).normal = -(meeting i a j b).normal := by
    simp only [meeting]
    rw [Sphere.distance_comm, ← neg_sub]
    exact direction_neg h
  have hdepth : (meeting j b i a).depth = (meeting i a j b).depth := by
    simp only [meeting]
    rw [Sphere.distance_comm, add_comm b.radius]
  have hpoint : (meeting j b i a).point =
      (meeting i a j b).point - (meeting i a j b).normal * (meeting i a j b).depth := by
    have hb : b.position = a.position + (meeting i a j b).normal * a.distance b := by
      rw [normal_mul_distance (.inl h), add_sub_cancel]
    calc (meeting j b i a).point = b.position + (meeting j b i a).normal * b.radius := rfl
      _ = (meeting i a j b).point - (meeting i a j b).normal * (meeting i a j b).depth := by
        rw [hnormal, hb]
        simp only [meeting, Vec3.mul_eq_smul]
        module
  exact Contact.ext rfl rfl hpoint hnormal hdepth

/-- Detection in the other order finds the same contact, named in the other order. -/
theorem between?_flip (hreach : 0 ≤ a.radius + b.radius) (h : 1e-9 < a.distance b) (i j : Nat) :
    between? j b i a = (between? i a j b).map flip := by
  rw [between?_eq hreach, between?_eq (by rwa [add_comm]), a.distance_comm b, add_comm b.radius,
    meeting_flip h]
  split
  · rfl
  · rfl

theorem separation_flip (c : Contact ℝ) (a b : Sphere ℝ) :
    c.flip.separation b a = c.separation a b := by
  simp only [separation, flip_normal, Vec3.dot, Vec3.sub_x, Vec3.sub_y, Vec3.sub_z, Vec3.neg_x,
    Vec3.neg_y, Vec3.neg_z]
  ring

/-- The impulse does not depend on which body is named first. -/
theorem push_flip (c : Contact ℝ) (restitution : ℝ) (a b : Sphere ℝ) :
    c.flip.push restitution b a = (c.push restitution a b).swap := by
  simp only [push, separation_flip, add_comm b.invMass, flip_normal]
  split
  · simp only [Prod.swap_prod_mk, Prod.mk.injEq, Vec3.mul_eq_smul]
    refine ⟨?_, ?_⟩
    · congr 1
      module
    · congr 1
      module
  · rfl

/-- The shift does not depend on which body is named first. -/
theorem separate_flip (c : Contact ℝ) (a b : Sphere ℝ) :
    c.flip.separate b a = (c.separate a b).swap := by
  simp only [separate, add_comm b.invMass, flip_normal, flip_depth, Prod.swap_prod_mk,
    Prod.mk.injEq, Vec3.mul_eq_smul]
  refine ⟨?_, ?_⟩
  · congr 1
    module
  · congr 1
    module

/-- Nor does the response. -/
theorem respond_flip (c : Contact ℝ) (restitution : ℝ) (a b : Sphere ℝ) :
    c.flip.respond restitution b a = (c.respond restitution a b).swap := by
  simp only [respond, push_flip]
  exact separate_flip c _ _

/-- Two spheres after the response to their contact, if they have one. -/
noncomputable def collide (restitution : ℝ) (i j : Nat) (pair : Sphere ℝ × Sphere ℝ) :
    Sphere ℝ × Sphere ℝ :=
  match between? i pair.1 j pair.2 with
  | some c => c.respond restitution pair.1 pair.2
  | none => pair

theorem collide_of_between? {c : Contact ℝ} {pair : Sphere ℝ × Sphere ℝ}
    (h : between? i pair.1 j pair.2 = some c) (restitution : ℝ) :
    collide restitution i j pair = c.respond restitution pair.1 pair.2 := by
  rw [collide, h]

/-- To detect and to respond in the other order ends with the same spheres. -/
theorem collide_flip (hreach : 0 ≤ a.radius + b.radius) (h : 1e-9 < a.distance b)
    (restitution : ℝ) (i j : Nat) :
    collide restitution j i (b, a) = (collide restitution i j (a, b)).swap := by
  simp only [collide, between?_flip hreach h]
  cases between? i a j b with
  | none => rfl
  | some c => exact respond_flip c restitution a b

/-- **Geometry of a contact.** Two spheres have a contact exactly if the distance of their centres
is less than the sum of the radii, and it has the geometry of the two spheres. If the centres are
far enough from each other for a direction, the order in which the spheres are given changes only
how the contact is named, and nothing of what comes out of the response. -/
theorem between?_geometry (ha : 0 ≤ a.radius) (hb : 0 ≤ b.radius) (i j : Nat) :
    ((between? i a j b).isSome ↔ a.distance b < a.radius + b.radius) ∧
      (∀ c, between? i a j b = some c → c.Describes a b) ∧
      (1e-9 < a.distance b → between? j b i a = (between? i a j b).map flip ∧
        ∀ restitution, collide restitution j i (b, a) =
          (collide restitution i j (a, b)).swap) := by
  have hreach := add_nonneg ha hb
  refine ⟨?_, ?_, ?_⟩
  · rw [between?_eq hreach]
    split
    · rename_i h
      simp [h]
    · rename_i h
      simp [h]
  · intro c hc
    rw [between?_eq hreach] at hc
    split at hc
    · rename_i h
      cases hc
      exact describes_meeting ha hb h
    · cases hc
  · intro h
    exact ⟨between?_flip hreach h i j, fun restitution => collide_flip hreach h restitution i j⟩

/-- A sphere that moves towards another, which is half a radius deep in it. -/
noncomputable def mover : Sphere ℝ :=
  { Sphere.solid "mover" 0 1 1 with velocity := ⟨1, 1, 0⟩ }

/-- The other sphere. -/
noncomputable def obstacle : Sphere ℝ := .solid "obstacle" ⟨0.9, 1.2, 0⟩ 1 3.0

theorem distance_mover_obstacle : mover.distance obstacle = 1.5 := by
  have hsq : (1.5 : ℝ) ^ 2 = (obstacle.position - mover.position).lengthSq := by
    norm_num [mover, obstacle, Sphere.solid, Vec3.lengthSq_real]
  rw [Sphere.distance, Vec3.length, ← hsq]
  exact Real.sqrt_sq (by norm_num)

/-- The contact of the two has half a radius of depth; in the other order it is the same one, and
its response the same. -/
theorem geometry_mover_obstacle : 0 ≤ mover.radius ∧ 0 ≤ obstacle.radius ∧
    1e-9 < mover.distance obstacle ∧ ∃ c,
      between? 0 mover 1 obstacle = some c ∧ c.depth = 0.5 ∧
      mover.distance { obstacle with position := obstacle.position + c.normal * c.depth } = 2 ∧
      between? 1 obstacle 0 mover = some c.flip ∧
      c.flip.respond 0.5 obstacle mover = (c.respond 0.5 mover obstacle).swap := by
  have hm : mover.radius = 1 := rfl
  have ho : obstacle.radius = 1 := rfl
  have hdistance := distance_mover_obstacle
  have hfar : 1e-9 < mover.distance obstacle := by norm_num [hdistance]
  have hma : 0 ≤ mover.radius := by norm_num [hm]
  have hoa : 0 ≤ obstacle.radius := by norm_num [ho]
  obtain ⟨hsome, hdescribes, hflip⟩ := between?_geometry hma hoa 0 1
  obtain ⟨c, hc⟩ := Option.isSome_iff_exists.mp (hsome.mpr (by norm_num [hdistance, hm, ho]))
  obtain ⟨hbetween, hcollide⟩ := hflip hfar
  rw [hc, Option.map_some] at hbetween
  refine ⟨hma, hoa, hfar, c, hc, ?_, ?_, hbetween, ?_⟩
  · rw [(hdescribes c hc).depth, hdistance, hm, ho]
    norm_num
  · rw [(hdescribes c hc).touch (.inl hfar), hm, ho]
    norm_num
  · have h := hcollide 0.5
    rwa [collide_of_between? hbetween, collide_of_between? hc] at h

end Contact

end SphereBench
