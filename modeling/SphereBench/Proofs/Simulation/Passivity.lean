import SphereBench.Proofs.Contact.Normal
import SphereBench.Proofs.Contact.Restitution
/-!
# Passivity of the solvers

A contact can only take energy out of the motion of the spheres. The direct response takes out a
fixed part of the energy of approach, and the sequential solver moves the impulse of a row towards
the one that minimizes the energy, but not past it. Both hold of a single response, whatever other
contacts its spheres have, and so they hold of a solution, of a step and of a run.
-/

namespace SphereBench

/-- Parameters with which no solver adds energy to the motion: a direct response that reverses at
most the approach, or a sequential solution that corrects no penetration and reverses nothing. -/
inductive SolverParameters.IsPassive (params : SolverParameters ℝ) : Prop where
  | direct (kind : params.kind = .direct) (nonneg : 0 ≤ params.restitution)
      (le_one : params.restitution ≤ 1)
  | sequential (kind : params.kind = .sequential) (correction : params.correction = 0)
      (restitution : params.restitution = 0)

namespace Contact

theorem linearEnergy_respond_le {c : Contact ℝ} (hn : c.normal.lengthSq = 1) {restitution : ℝ}
    (h0 : 0 ≤ restitution) (h1 : restitution ≤ 1) {a b : Sphere ℝ} (ha : 0 < a.mass)
    (hb : 0 < b.mass) :
    (c.respond restitution a b).1.linearEnergy + (c.respond restitution a b).2.linearEnergy ≤
      a.linearEnergy + b.linearEnergy := by
  by_cases h : c.separation a b < 0
  · have hinv := add_pos (Sphere.invMass_pos ha) (Sphere.invMass_pos hb)
    have hpart : 0 ≤ 1 - restitution ^ 2 := sub_nonneg.mpr (pow_le_one₀ h0 h1)
    rw [linearEnergy_respond hn restitution ha hb h]
    exact sub_le_self _ (mul_nonneg (by positivity) (by positivity))
  · rw [respond, linearEnergy_separate, push, if_neg h]

end Contact

/-- A row along a unit normal that has no target and does not pull. -/
structure ContactRow.IsBraking (row : ContactRow ℝ) : Prop where
  bodies_ne : row.contact.bodyA ≠ row.contact.bodyB
  normal : row.contact.normal.lengthSq = 1
  target : row.target = 0
  impulse : 0 ≤ row.impulse

namespace ContactRow.IsBraking

variable {row : ContactRow ℝ} {a b : Sphere ℝ}

/-- A change of impulse moves towards the impulse that stops the approach, and not past it. -/
theorem descent (h : row.IsBraking) (ha : 0 < a.mass) (hb : 0 < b.mass) :
    (row.proposed a b - row.impulse) *
      (row.contact.separation a b +
        (row.proposed a b - row.impulse) * (a.invMass + b.invMass)) ≤ 0 := by
  have hdescent := ContactRow.descent h.impulse ha hb
  rwa [h.target, sub_zero] at hdescent

/-- A change of impulse takes out at least the energy that its own size costs. -/
theorem linearEnergy_le (h : row.IsBraking) (ha : 0 < a.mass) (hb : 0 < b.mass) :
    (row.kick (row.proposed a b - row.impulse) a b).1.linearEnergy +
        (row.kick (row.proposed a b - row.impulse) a b).2.linearEnergy ≤
      a.linearEnergy + b.linearEnergy -
        (row.proposed a b - row.impulse) ^ 2 * (a.invMass + b.invMass) / 2 := by
  have hdescent := h.descent ha hb
  rw [linearEnergy_kick row h.normal _ ha hb]
  linarith

/-- A row stays so when it is brought to its proposed impulse. -/
theorem withProposed (h : row.IsBraking) (a b : Sphere ℝ) :
    IsBraking { row with impulse := row.proposed a b } where
  bodies_ne := h.bodies_ne
  normal := h.normal
  target := h.target
  impulse := by
    simp only [proposed, Scalar.maxNum_real]
    exact le_max_right _ _

end ContactRow.IsBraking

namespace Bodies

/-- The energy of all spheres does not grow if that of the two bodies does not. -/
theorem linearEnergy_updateBodies_le {c : Contact ℝ} {spheres : List (Sphere ℝ)}
    {change : Sphere ℝ → Sphere ℝ → Sphere ℝ × Sphere ℝ} (hne : c.bodyA ≠ c.bodyB)
    (le : ∀ a b, spheres[c.bodyA]? = some a → spheres[c.bodyB]? = some b →
      (change a b).1.linearEnergy + (change a b).2.linearEnergy ≤
        a.linearEnergy + b.linearEnergy) :
    linearEnergy (c.updateBodies spheres change) ≤ linearEnergy spheres := by
  apply Contact.updateBodies_cases (P := fun l => linearEnergy l ≤ linearEnergy spheres)
  · exact le_refl _
  · intro a b ha hb
    have hpair := le a b ha hb
    rw [linearEnergy, Contact.sum_map_set_set _ hne ha hb]
    exact add_le_of_nonpos_right (sub_nonpos.mpr hpair)

/-- A direct solution adds no energy if no response restores more than the approach. -/
theorem linearEnergy_respondEach_le {spheres : List (Sphere ℝ)} {contacts : List (Contact ℝ)}
    {params : SolverParameters ℝ} (hmass : ∀ b ∈ spheres, 0 < b.mass)
    (hcontacts : ∀ c ∈ contacts, c.bodyA ≠ c.bodyB ∧ c.normal.lengthSq = 1)
    (h0 : 0 ≤ params.restitution) (h1 : params.restitution ≤ 1) :
    linearEnergy (Contact.respondEach spheres contacts params) ≤ linearEnergy spheres := by
  have hboth : (∀ b ∈ Contact.respondEach spheres contacts params, 0 < b.mass) ∧
      linearEnergy (Contact.respondEach spheres contacts params) ≤ linearEnergy spheres := by
    apply Contact.respondEach_induction
      (P := fun l => (∀ b ∈ l, 0 < b.mass) ∧ linearEnergy l ≤ linearEnergy spheres)
    · exact ⟨hmass, le_refl _⟩
    · intro c l hc h
      obtain ⟨hmass', hle⟩ := h
      obtain ⟨hne, hn⟩ := hcontacts c hc
      refine ⟨(balanced_respond c params.restitution).mass_pos hmass' c, ?_⟩
      refine (linearEnergy_updateBodies_le hne ?_).trans hle
      intro a b ha hb
      exact Contact.linearEnergy_respond_le hn h0 h1 (hmass' a (List.mem_of_getElem? ha))
        (hmass' b (List.mem_of_getElem? hb))
  exact hboth.2

end Bodies

/-- A state between two changes of impulse of which none adds energy, and in which there is no more
than a given energy. -/
structure Relaxation.IsDissipative (limit : ℝ) (s : Relaxation ℝ) : Prop where
  mass_pos : ∀ b ∈ s.spheres, 0 < b.mass
  braking : ∀ r ∈ s.rows, r.IsBraking
  energy_le : Bodies.linearEnergy s.spheres ≤ limit

namespace Relaxation.IsDissipative

/-- Without correction and restitution no row has a target at the start. -/
theorem start {spheres : List (Sphere ℝ)} {contacts : List (Contact ℝ)}
    {params : SolverParameters ℝ} (hmass : ∀ b ∈ spheres, 0 < b.mass)
    (hcontacts : ∀ c ∈ contacts, c.bodyA ≠ c.bodyB ∧ c.normal.lengthSq = 1)
    (hcorrection : params.correction = 0) (hrestitution : params.restitution = 0) (dt : ℝ) :
    (Relaxation.start spheres contacts params dt).IsDissipative (Bodies.linearEnergy spheres) where
  mass_pos := hmass
  braking := by
    intro r hr
    obtain ⟨c, hc, rfl⟩ := List.mem_map.mp hr
    obtain ⟨hne, hn⟩ := hcontacts c hc
    have htarget : c.target params dt spheres = 0 := by
      simp [Contact.target, hcorrection, hrestitution]
    exact ⟨hne, hn, htarget, le_refl _⟩
  energy_le := le_refl _

theorem relax {limit : ℝ} {s : Relaxation ℝ} (h : s.IsDissipative limit) (k : ℕ) :
    (s.relax k).1.IsDissipative limit := by
  rcases relax_cases s k with heq | ⟨row, a, b, hrow, ha, hb, heq⟩
  · rw [heq]
    exact h
  · have hbraking := h.braking row (List.mem_of_getElem? hrow)
    have hposA := h.mass_pos a (List.mem_of_getElem? ha)
    have hposB := h.mass_pos b (List.mem_of_getElem? hb)
    have hinv := add_pos (Sphere.invMass_pos hposA) (Sphere.invMass_pos hposB)
    have henergy : Bodies.linearEnergy (row.contact.updateBodies s.spheres
        (row.kick (row.proposed a b - row.impulse))) ≤ Bodies.linearEnergy s.spheres := by
      apply Bodies.linearEnergy_updateBodies_le hbraking.bodies_ne
      intro a' b' ha' hb'
      cases ha.symm.trans ha'
      cases hb.symm.trans hb'
      refine (hbraking.linearEnergy_le hposA hposB).trans (sub_le_self _ ?_)
      positivity
    rw [heq]
    refine ⟨(balanced_kick row _).mass_pos h.mass_pos row.contact, ?_, henergy.trans h.energy_le⟩
    intro r hr
    rcases List.mem_or_eq_of_mem_set hr with hr | rfl
    · exact h.braking r hr
    · exact hbraking.withProposed a b

end Relaxation.IsDissipative

namespace Simulation
open Bodies

variable {s : Simulation ℝ}

/-- The solution of the contacts of a step adds no energy. -/
theorem linearEnergy_solveContacts_le {spheres : List (Sphere ℝ)} {params : SolverParameters ℝ}
    (hmass : ∀ b ∈ spheres, 0 < b.mass) (hparams : params.IsPassive) (dt : ℝ) :
    linearEnergy (solveContacts params dt spheres).1 ≤ linearEnergy spheres := by
  have hcontacts : ∀ c ∈ Contact.detect spheres, c.bodyA ≠ c.bodyB ∧ c.normal.lengthSq = 1 := by
    intro c hc
    exact ⟨(Contact.bodyA_lt_bodyB hc).ne, Contact.lengthSq_normal hc⟩
  cases hparams with
  | direct kind nonneg le_one =>
    simp only [solveContacts, kind]
    exact linearEnergy_respondEach_le hmass hcontacts nonneg le_one
  | sequential kind correction restitution =>
    simp only [solveContacts, kind]
    obtain ⟨t, ht, heq⟩ := Relaxation.exists_solve_eq params dt
      (Relaxation.IsDissipative.start hmass hcontacts correction restitution dt)
      (fun _ k h => h.relax k)
    rw [heq]
    exact ht.energy_le

/-- Without gravity and pending forces the spheres keep their velocities until they meet. -/
theorem linearEnergy_moved (hgravity : s.params.gravity = 0)
    (hforce : ∀ b ∈ s.spheres, b.force = 0) : linearEnergy s.moved = linearEnergy s.spheres := by
  rw [linearEnergy, linearEnergy, moved, List.map_map]
  refine congrArg List.sum (List.map_congr_left ?_)
  intro b hb
  have hvelocity : (b.advance s.params.gravity s.params.dt).velocity = b.velocity := by
    rw [Sphere.advance_velocity, hgravity, hforce b hb, Vec3.zero_div, add_zero, Vec3.zero_mul,
      add_zero]
  rw [Function.comp_apply, Sphere.linearEnergy, hvelocity, Sphere.advance_mass]
  rfl

/-- A step leaves no force pending. -/
theorem force_advance (s : Simulation ℝ) : ∀ b ∈ s.advance.spheres, b.force = 0 := by
  intro b hb
  have hframe := map_solveContacts Sphere.force (fun _ _ _ => rfl) s.params.solver s.params.dt
    s.moved
  rw [← advance_spheres] at hframe
  have hmem : b.force ∈ s.moved.map Sphere.force := hframe ▸ List.mem_map_of_mem hb
  obtain ⟨a, ha, heq⟩ := List.mem_map.mp hmem
  obtain ⟨_, _, rfl⟩ := List.mem_map.mp ha
  exact heq.symm

/-- As long as nothing pushes, no force is pending. -/
theorem force_after (hforce : ∀ b ∈ s.spheres, b.force = 0) {c : Call ℝ}
    (hc : ∀ i force, c ≠ .push i force) : ∀ b ∈ (s.after c).spheres, b.force = 0 := by
  cases c with
  | push i force => exact absurd rfl (hc i force)
  | twist i torque =>
    rw [after_twist]
    apply Contact.forall_mem_modify hforce
    intro b hb
    exact hb
  | step =>
    rw [after_step]
    split
    · exact s.force_advance
    · exact hforce

/-- What a run without gravity needs in order to lose energy only. -/
structure IsPassive (s : Simulation ℝ) : Prop where
  mass_pos : ∀ b ∈ s.spheres, 0 < b.mass
  gravity : s.params.gravity = 0
  force : ∀ b ∈ s.spheres, b.force = 0
  solver : s.params.solver.IsPassive

namespace IsPassive

theorem after (h : s.IsPassive) {c : Call ℝ} (hc : ∀ i force, c ≠ .push i force) :
    (s.after c).IsPassive where
  mass_pos := mass_pos_after h.mass_pos c
  gravity := by rw [params_after, h.gravity]
  force := force_after h.force hc
  solver := by rw [params_after]; exact h.solver

theorem perform (h : s.IsPassive) {calls : List (Call ℝ)}
    (hcalls : ∀ i force, Call.push i force ∉ calls) : (s.perform calls).IsPassive := by
  refine perform_induction ?_ h
  intro t c hc ht
  apply ht.after
  intro i force heq
  exact hcalls i force (heq ▸ hc)

/-- A step adds no energy. -/
theorem linearEnergy_advance_le (h : s.IsPassive) :
    linearEnergy s.advance.spheres ≤ linearEnergy s.spheres := by
  have hmass : ∀ b ∈ s.moved, 0 < b.mass := by
    intro b hb
    obtain ⟨a, ha, rfl⟩ := List.mem_map.mp hb
    exact h.mass_pos a ha
  rw [advance_spheres, ← linearEnergy_moved h.gravity h.force]
  exact linearEnergy_solveContacts_le hmass h.solver _

theorem linearEnergy_after_step_le (h : s.IsPassive) :
    linearEnergy (s.after .step).spheres ≤ linearEnergy s.spheres := by
  rw [after_step]
  split
  · exact h.linearEnergy_advance_le
  · exact le_refl _

end IsPassive

/-- Without gravity and pending forces, no step of a run adds energy to the motion of the spheres,
whatever contacts it meets, if the direct solver reverses at most the approach of two spheres or the
sequential one neither reverses it nor corrects their penetration. Torques may act at any time. -/
theorem run_passive (hmass : ∀ b ∈ s.spheres, 0 < b.mass) (hgravity : s.params.gravity = 0)
    (hforce : ∀ b ∈ s.spheres, b.force = 0) (hsolver : s.params.solver.IsPassive)
    {calls : List (Call ℝ)} (hcalls : ∀ i force, Call.push i force ∉ calls) :
    (∀ u, (s.perform calls).step = .ok u →
      linearEnergy u.spheres ≤ linearEnergy (s.perform calls).spheres) ∧
    Antitone fun n => linearEnergy ((s.perform calls).run n).2.spheres := by
  have hstart : s.IsPassive := ⟨hmass, hgravity, hforce, hsolver⟩
  have h := hstart.perform hcalls
  constructor
  · intro u hu
    obtain ⟨_, _, rfl⟩ := step_eq_ok_iff.mp hu
    exact h.linearEnergy_advance_le
  · refine antitone_nat_of_succ_le ?_
    intro n
    have hsteps : ∀ i force, Call.push i force ∉ List.replicate n (.step : Call ℝ) := by
      simp [List.mem_replicate]
    rw [run_snd, run_snd, List.replicate_succ', perform_append, perform_cons, perform_nil]
    exact (h.perform hsteps).linearEnergy_after_step_le

/-- Two spheres that penetrate and approach each other, without gravity, and a solver that reverses
half of their approach. -/
noncomputable def bouncingPair : Simulation ℝ where
  spheres :=
    [{ Sphere.solid "light" 0 1 1 with velocity := ⟨1, 0, 0⟩ }, .solid "heavy" ⟨1.5, 0, 0⟩ 1 3.0]
  params :=
    { gravity := 0
      dt := 0.5
      solver := { SolverParameters.default with kind := .direct, restitution := 0.5 } }
  time := 0
  diagnostics := none

/-- However long the pair moves, also if one of its spheres is set spinning, it has no more than the
energy with which it started. -/
theorem linearEnergy_run_bouncingPair : (∀ b ∈ bouncingPair.spheres, 0 < b.mass) ∧
    bouncingPair.params.gravity = 0 ∧ (∀ b ∈ bouncingPair.spheres, b.force = 0) ∧
    bouncingPair.params.solver.IsPassive ∧
    (∀ i force, Call.push i force ∉ [(.twist 0 ⟨0, 0, 1⟩ : Call ℝ)]) ∧
    ∀ n, linearEnergy ((bouncingPair.perform [.twist 0 ⟨0, 0, 1⟩]).run n).2.spheres ≤ 1 / 2 := by
  have hmass : ∀ b ∈ bouncingPair.spheres, 0 < b.mass := by norm_num [bouncingPair, Sphere.solid]
  have hforce : ∀ b ∈ bouncingPair.spheres, b.force = 0 := by simp [bouncingPair, Sphere.solid]
  have hsolver : bouncingPair.params.solver.IsPassive := by
    refine .direct rfl ?_ ?_
    · norm_num [bouncingPair]
    · norm_num [bouncingPair]
  have hcalls : ∀ i force, Call.push i force ∉ [(.twist 0 ⟨0, 0, 1⟩ : Call ℝ)] := by simp
  refine ⟨hmass, rfl, hforce, hsolver, hcalls, ?_⟩
  intro n
  obtain ⟨_, hrun⟩ := run_passive hmass rfl hforce hsolver hcalls
  have hstart : linearEnergy (bouncingPair.perform [.twist 0 ⟨0, 0, 1⟩]).spheres = 1 / 2 := by
    rw [perform_cons, perform_nil, after_twist]
    norm_num [bouncingPair, linearEnergy, Sphere.linearEnergy, Sphere.solid, Vec3.lengthSq_real]
  exact (hrun (Nat.zero_le n)).trans hstart.le

end Simulation

end SphereBench
