import SphereBench.Proofs.Simulation.Momentum
import SphereBench.Proofs.Solver.Descent
/-!
# The law of restitution

What the direct response does to the two spheres of a contact. If they approach, the impulse turns
the speed of approach around and takes the restitution off it; it has no part across the normal, and
the energy that it costs is the part of the energy of approach that is not restored. If they do not
approach, there is no impulse. The shift moves the spheres apart by a fixed share of the penetration
beyond the allowance, whatever their masses. Impulse and shift are shared out so that neither
momentum nor centre of mass notices.
-/

namespace SphereBench

namespace ContactRow

variable (row : ContactRow ℝ) (impulse : ℝ) (a b : Sphere ℝ)

/-- An impulse changes the relative velocity along the normal only. -/
theorem velocity_sub_kick :
    (row.kick impulse a b).2.velocity - (row.kick impulse a b).1.velocity =
      b.velocity - a.velocity + row.contact.normal * (impulse * (a.invMass + b.invMass)) := by
  simp only [kick, Vec3.mul_eq_smul]
  module

/-- An impulse along a unit normal changes the speed of separation by its size over the masses. -/
theorem separation_kick (hn : row.contact.normal.lengthSq = 1) :
    row.contact.separation (row.kick impulse a b).1 (row.kick impulse a b).2 =
      row.contact.separation a b + impulse * (a.invMass + b.invMass) := by
  rw [Contact.separation, velocity_sub_kick, Vec3.dot_add_mul hn, Contact.separation]

end ContactRow

namespace Contact

variable {c : Contact ℝ} {restitution : ℝ} {a b : Sphere ℝ}

/-- The impulse of a direct response is a kick along its normal. -/
theorem push_eq_kick (c : Contact ℝ) (restitution : ℝ) {a b : Sphere ℝ}
    (h : c.separation a b < 0) :
    c.push restitution a b =
      (⟨c, 0, 0⟩ : ContactRow ℝ).kick
        (-(1 + restitution) * c.separation a b / (a.invMass + b.invMass)) a b := by
  simp only [push, if_pos h, ContactRow.kick, Vec3.mul_mul]

theorem linearEnergy_separate (c : Contact ℝ) (a b : Sphere ℝ) :
    (c.separate a b).1.linearEnergy + (c.separate a b).2.linearEnergy =
      a.linearEnergy + b.linearEnergy := rfl

/-- The response to an approach takes out of its energy the part that is not restored. -/
theorem linearEnergy_respond {c : Contact ℝ} (hn : c.normal.lengthSq = 1) (restitution : ℝ)
    {a b : Sphere ℝ} (ha : 0 < a.mass) (hb : 0 < b.mass) (h : c.separation a b < 0) :
    (c.respond restitution a b).1.linearEnergy + (c.respond restitution a b).2.linearEnergy =
      a.linearEnergy + b.linearEnergy -
        (1 - restitution ^ 2) / 2 * (c.separation a b ^ 2 / (a.invMass + b.invMass)) := by
  have hinv : a.invMass + b.invMass ≠ 0 :=
    (add_pos (Sphere.invMass_pos ha) (Sphere.invMass_pos hb)).ne'
  rw [respond, linearEnergy_separate, push_eq_kick c restitution h,
    linearEnergy_kick ⟨c, 0, 0⟩ hn _ ha hb]
  field_simp
  ring

/-- Spheres that do not approach get no impulse. -/
theorem push_of_not_approaching (restitution : ℝ) (h : ¬ c.separation a b < 0) :
    c.push restitution a b = (a, b) := if_neg h

/-- The speed of an approach is turned around, times the restitution, and any other is kept. -/
theorem separation_respond (hn : c.normal.lengthSq = 1) (restitution : ℝ) (ha : 0 < a.mass)
    (hb : 0 < b.mass) :
    c.separation (c.respond restitution a b).1 (c.respond restitution a b).2 =
      if c.separation a b < 0 then -restitution * c.separation a b else c.separation a b := by
  have hinv : a.invMass + b.invMass ≠ 0 :=
    (add_pos (Sphere.invMass_pos ha) (Sphere.invMass_pos hb)).ne'
  -- The shift leaves the velocities as the impulse has made them.
  have hpush : c.separation (c.respond restitution a b).1 (c.respond restitution a b).2 =
      c.separation (c.push restitution a b).1 (c.push restitution a b).2 := rfl
  by_cases h : c.separation a b < 0
  · have hkick := ContactRow.separation_kick ⟨c, 0, 0⟩
      (-(1 + restitution) * c.separation a b / (a.invMass + b.invMass)) a b hn
    rw [if_pos h, hpush, push_eq_kick c restitution h, hkick, div_mul_cancel₀ _ hinv]
    ring
  · rw [if_neg h, hpush, push_of_not_approaching restitution h]

/-- Across the normal a response changes nothing of the relative velocity. -/
theorem across_respond (hn : c.normal.lengthSq = 1) (restitution : ℝ) (a b : Sphere ℝ) :
    ((c.respond restitution a b).2.velocity - (c.respond restitution a b).1.velocity).across
      c.normal = (b.velocity - a.velocity).across c.normal := by
  have hpush : (c.respond restitution a b).2.velocity - (c.respond restitution a b).1.velocity =
      (c.push restitution a b).2.velocity - (c.push restitution a b).1.velocity := rfl
  by_cases h : c.separation a b < 0
  · rw [hpush, push_eq_kick c restitution h, ContactRow.velocity_sub_kick]
    exact Vec3.across_add_mul hn _ _
  · rw [hpush, push_of_not_approaching restitution h]

/-- The impulse does not move the spheres, and the shift does not depend on it. -/
theorem position_respond (c : Contact ℝ) (restitution : ℝ) (a b : Sphere ℝ) :
    (c.respond restitution a b).1.position = (c.separate a b).1.position ∧
      (c.respond restitution a b).2.position = (c.separate a b).2.position := by
  simp only [respond, push]
  split
  · exact ⟨rfl, rfl⟩
  · exact ⟨rfl, rfl⟩

/-- The shift moves the centres apart along the normal, by a share of the penetration beyond the
allowance that does not depend on the masses. -/
theorem offset_respond (c : Contact ℝ) (restitution : ℝ) (ha : 0 < a.mass) (hb : 0 < b.mass) :
    (c.respond restitution a b).2.position - (c.respond restitution a b).1.position =
      b.position - a.position + c.normal * (0.8 * max (c.depth - 0.01) 0) := by
  have hinv : a.invMass + b.invMass ≠ 0 :=
    (add_pos (Sphere.invMass_pos ha) (Sphere.invMass_pos hb)).ne'
  have hshare : 0.8 * max (c.depth - 0.01) 0 =
      max (c.depth - 0.01) 0 / (a.invMass + b.invMass) * 0.8 * (a.invMass + b.invMass) := by
    field_simp
  obtain ⟨hA, hB⟩ := position_respond c restitution a b
  rw [hA, hB, hshare]
  simp only [separate, Scalar.maxNum_real, allowance, correctedFraction, Vec3.mul_eq_smul]
  module

/-- Nothing but position and velocity is changed. -/
theorem respond_frame (c : Contact ℝ) (restitution : ℝ) (a b : Sphere ℝ) :
    let after := c.respond restitution a b
    after.1 = { a with position := after.1.position, velocity := after.1.velocity } ∧
      after.2 = { b with position := after.2.position, velocity := after.2.velocity } := by
  simp only [respond, push]
  split
  · exact ⟨rfl, rfl⟩
  · exact ⟨rfl, rfl⟩

/-- The law of restitution for two spheres `a` and `b` with a contact, which are `a'` and `b'` after
the response to it. -/
structure Restores (c : Contact ℝ) (restitution : ℝ) (a b a' b' : Sphere ℝ) : Prop where
  /-- An approach is turned around, times the restitution. -/
  separation : c.separation a' b' =
    if c.separation a b < 0 then -restitution * c.separation a b else c.separation a b
  /-- Across the normal the relative velocity stays what it was. -/
  across : (b'.velocity - a'.velocity).across c.normal =
    (b.velocity - a.velocity).across c.normal
  /-- What an approach costs of the energy of the linear motion. -/
  energy : a'.linearEnergy + b'.linearEnergy - (a.linearEnergy + b.linearEnergy) =
    if c.separation a b < 0 then
      -(1 / 2) * (1 - restitution ^ 2) * c.separation a b ^ 2 / (1 / a.mass + 1 / b.mass)
    else 0
  /-- Most of the penetration beyond the allowance is taken out, along the normal. -/
  offset : b'.position - a'.position - (b.position - a.position) =
    c.normal * (0.8 * max (c.depth - 0.01) 0)
  momentum : a'.velocity * a.mass + b'.velocity * b.mass = a.velocity * a.mass + b.velocity * b.mass
  moment : a'.position * a.mass + b'.position * b.mass = a.position * a.mass + b.position * b.mass
  /-- Nothing else is changed. -/
  frameA : a' = { a with position := a'.position, velocity := a'.velocity }
  frameB : b' = { b with position := b'.position, velocity := b'.velocity }

/-- **The law of restitution.** The direct response to a contact with a unit normal obeys it, for
any positive masses, any depth and any restitution. -/
theorem restores_respond (hn : c.normal.lengthSq = 1) (restitution : ℝ) (ha : 0 < a.mass)
    (hb : 0 < b.mass) :
    c.Restores restitution a b (c.respond restitution a b).1 (c.respond restitution a b).2 where
  separation := separation_respond hn restitution ha hb
  across := across_respond hn restitution a b
  energy := by
    by_cases h : c.separation a b < 0
    · rw [if_pos h, linearEnergy_respond hn restitution ha hb h]
      simp only [Sphere.invMass]
      ring
    · rw [if_neg h, respond, linearEnergy_separate, push_of_not_approaching restitution h, sub_self]
  offset := by rw [offset_respond c restitution ha hb, add_sub_cancel_left]
  momentum := (balanced_respond c restitution).momentum a b ha hb
  moment := (balanced_respond c restitution).moment a b ha hb
  frameA := (respond_frame c restitution a b).1
  frameB := (respond_frame c restitution a b).2

/-- A light sphere that runs into a heavy one, at an angle. -/
noncomputable def runner : Sphere ℝ :=
  { Sphere.solid "runner" 0 1 1 with velocity := ⟨5, 0, 0⟩ }

/-- The heavy sphere. -/
noncomputable def block : Sphere ℝ := .solid "block" ⟨1.134, 1.512, 0⟩ 1 3.0

/-- The contact of the two. -/
noncomputable def glance : Contact ℝ := ⟨0, 1, ⟨0.6, 0.8, 0⟩, ⟨0.6, 0.8, 0⟩, 0.11⟩

/-- With half of the approach restored, the two separate at half the speed of approach, keep the
relative velocity across the normal, and lose three quarters of the energy of approach. -/
theorem respond_glance : glance.normal.lengthSq = 1 ∧ 0 < runner.mass ∧ 0 < block.mass ∧
    let after := glance.respond 0.5 runner block
    glance.separation runner block = -3 ∧ glance.separation after.1 after.2 = 1.5 ∧
      (after.2.velocity - after.1.velocity).across glance.normal = ⟨-3.2, 2.4, 0⟩ ∧
      after.1.linearEnergy + after.2.linearEnergy = 12.5 - 81 / 32 ∧
      after.2.position - after.1.position = ⟨1.182, 1.576, 0⟩ := by
  have hn : glance.normal.lengthSq = 1 := by norm_num [glance, Vec3.lengthSq_real]
  have ha : 0 < runner.mass := by norm_num [runner, Sphere.solid]
  have hb : 0 < block.mass := by norm_num [block, Sphere.solid]
  have hbefore : glance.separation runner block = -3 := by
    norm_num [separation, glance, runner, block, Sphere.solid, Vec3.dot]
  have hlaw := restores_respond hn 0.5 ha hb
  refine ⟨hn, ha, hb, hbefore, ?_, ?_, ?_, ?_⟩
  · rw [hlaw.separation, hbefore]
    norm_num
  · rw [hlaw.across]
    ext <;> norm_num [glance, runner, block, Sphere.solid, Vec3.across, Vec3.dot]
  · have henergy := hlaw.energy
    rw [hbefore] at henergy
    norm_num [runner, block, Sphere.solid, Sphere.linearEnergy, Vec3.lengthSq_real] at henergy ⊢
    linarith
  · rw [sub_eq_iff_eq_add.mp hlaw.offset]
    ext <;> norm_num [glance, runner, block, Sphere.solid]

end Contact

end SphereBench
