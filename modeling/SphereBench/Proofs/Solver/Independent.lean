import SphereBench.Proofs.Exact.Vector
import SphereBench.Proofs.Contact.Independent
import SphereBench.Proofs.Solver.Certificate
/-!
# Solutions of independent contacts

When no sphere has two contacts, nothing that happens to another contact shows in the speed at which
a pair separates. It is the first speed and what the impulse so far has added to it. A row therefore
proposes the same impulse whenever it is visited, the one that meets its target from the first
speed, or none if the pair is faster already. The first sweep brings every row there, the second one
changes nothing, and no later one is needed.
-/

namespace SphereBench

namespace Contact

/-- An impulse does nothing to a sphere that is not a body of the contact. -/
theorem impulseOn_of_not_involves {c : Contact ℝ} {i : ℕ} (h : ¬ c.Involves i) (impulse : ℝ) :
    c.impulseOn impulse i = 0 := by
  obtain ⟨hA, hB⟩ := not_or.mp h
  rw [impulseOn, if_neg hB, if_neg hA, sub_zero]

/-- The impulse that brings the two bodies of a contact to a target, or none if they separate faster
already. -/
noncomputable def meetingImpulse (c : Contact ℝ) (target : ℝ) (spheres : List (Sphere ℝ)) : ℝ :=
  max ((target - c.normalVelocity spheres) / c.invMassSum spheres) 0

/-- With this impulse the bodies separate at the target, or as fast as they did. -/
theorem normalVelocity_add_meetingImpulse {c : Contact ℝ} {spheres : List (Sphere ℝ)}
    (h : 0 < c.invMassSum spheres) (target : ℝ) :
    c.normalVelocity spheres + c.meetingImpulse target spheres * c.invMassSum spheres =
      max (c.normalVelocity spheres) target := by
  rw [meetingImpulse, max_mul_of_nonneg _ _ h.le, div_mul_cancel₀ _ h.ne', zero_mul,
    ← max_add_add_left, add_sub_cancel, add_zero, max_comm]

end Contact

/-- The impulse of a row is the one that meets its target. -/
def ContactRow.HasMet (r : ContactRow ℝ) (spheres : List (Sphere ℝ)) : Prop :=
  r.impulse = r.contact.meetingImpulse r.target spheres

namespace Relaxation

variable {first s : Relaxation ℝ} {row : ContactRow ℝ}

/-- On a body of a row, no other row acts. -/
theorem netImpulse_eq_impulseOn {rows : List (ContactRow ℝ)}
    (h : rows.Pairwise fun r r' => r.contact.Apart r'.contact) {i : ℕ} (hrow : row ∈ rows)
    (hi : row.contact.Involves i) : netImpulse rows i = row.contact.impulseOn row.impulse i := by
  induction rows with
  | nil => exact absurd hrow List.not_mem_nil
  | cons r rows ih =>
    obtain ⟨hhead, htail⟩ := List.pairwise_cons.mp h
    rw [netImpulse, List.map_cons, List.sum_cons, ← netImpulse]
    rcases List.mem_cons.mp hrow with rfl | hmem
    · have hnone : netImpulse rows i = 0 := by
        apply List.sum_eq_zero
        intro p hp
        obtain ⟨r', hr', rfl⟩ := List.mem_map.mp hp
        exact Contact.impulseOn_of_not_involves (hhead r' hr' i hi) _
      rw [hnone, add_zero]
    · have hnot : ¬ r.contact.Involves i := (hhead row hmem).symm i hi
      rw [Contact.impulseOn_of_not_involves hnot, zero_add, ih htail hmem]

/-- A start of which every row can be relaxed, along unit normals, and no two rows share a
sphere. -/
structure IsIndependent (first : Relaxation ℝ) : Prop where
  mass_pos : ∀ b ∈ first.spheres, 0 < b.mass
  inRange : first.InRange
  normal : ∀ r ∈ first.rows, r.contact.normal.lengthSq = 1
  apart : first.rows.Pairwise fun r r' => r.contact.Apart r'.contact

theorem isIndependent_start {spheres : List (Sphere ℝ)} {contacts : List (Contact ℝ)}
    (hmass : ∀ b ∈ spheres, 0 < b.mass)
    (hcontacts : ∀ c ∈ contacts,
      c.bodyA < c.bodyB ∧ c.bodyB < spheres.length ∧ c.normal.lengthSq = 1)
    (hindependent : Contact.Independent contacts) (params : SolverParameters ℝ) (dt : ℝ) :
    (start spheres contacts params dt).IsIndependent where
  mass_pos := hmass
  inRange := inRange_start (fun c hc => ⟨(hcontacts c hc).1, (hcontacts c hc).2.1⟩) params dt
  normal := by
    intro r hr
    obtain ⟨c, hc, rfl⟩ := List.mem_map.mp hr
    exact (hcontacts c hc).2.2
  apart := List.pairwise_map.mpr hindependent

/-- The speed at which a pair separates is the first one and what the impulse so far has added. -/
theorem IsPartial.normalVelocity_eq (hs : first.IsPartial s) (h : first.IsIndependent)
    (hrow : row ∈ s.rows) :
    row.contact.normalVelocity s.spheres = row.contact.normalVelocity first.spheres +
      row.impulse * row.contact.invMassSum first.spheres := by
  have hfirst := hs.mem_first hrow
  obtain ⟨hA, hB⟩ := h.inRange _ hfirst
  have hn := h.normal _ hfirst
  have hne := hs.bodies_ne row hrow
  have hapart : s.rows.Pairwise fun r r' => r.contact.Apart r'.contact := by
    have hmap := h.apart
    rwa [← hs.rows_eq, List.pairwise_map] at hmap
  have hvelocityA := hs.velocityAt_eq (List.getElem?_eq_getElem hA)
  have hvelocityB := hs.velocityAt_eq (List.getElem?_eq_getElem hB)
  rw [netImpulse_eq_impulseOn hapart hrow row.contact.involves_bodyA] at hvelocityA
  rw [netImpulse_eq_impulseOn hapart hrow row.contact.involves_bodyB] at hvelocityB
  rw [Contact.normalVelocity_eq (hA.trans_eq hs.length_spheres.symm)
      (hB.trans_eq hs.length_spheres.symm), hvelocityA, hvelocityB,
    Contact.invMassSum_eq (List.getElem?_eq_getElem hA) (List.getElem?_eq_getElem hB)]
  simp only [Contact.normalVelocity, List.getElem?_eq_getElem hA, List.getElem?_eq_getElem hB,
    Contact.separation, Contact.impulseOn, if_true, if_neg hne, if_neg hne.symm, sub_zero, zero_sub]
  rw [Vec3.lengthSq_real] at hn
  simp only [Vec3.dot, Vec3.sub_x, Vec3.sub_y, Vec3.sub_z, Vec3.add_x, Vec3.add_y, Vec3.add_z,
    Vec3.mul_x, Vec3.mul_y, Vec3.mul_z, Vec3.neg_x, Vec3.neg_y, Vec3.neg_z]
  linear_combination (row.impulse * (first.spheres[row.contact.bodyA].invMass +
    first.spheres[row.contact.bodyB].invMass)) * hn

theorem IsIndependent.invMassSum_pos (h : first.IsIndependent) (hrow : row ∈ first.rows) :
    0 < row.contact.invMassSum first.spheres :=
  Contact.invMassSum_pos h.mass_pos (h.inRange row hrow).1 (h.inRange row hrow).2

/-- Whatever impulse a row has already, it proposes the one that meets its target. -/
theorem IsPartial.proposed_eq_meetingImpulse (hs : first.IsPartial s) (h : first.IsIndependent)
    (hrow : row ∈ s.rows) {a b : Sphere ℝ} (ha : s.spheres[row.contact.bodyA]? = some a)
    (hb : s.spheres[row.contact.bodyB]? = some b) :
    row.proposed a b = row.contact.meetingImpulse row.target first.spheres := by
  have hinv : a.invMass + b.invMass = row.contact.invMassSum first.spheres := by
    rw [← Contact.invMassSum_eq ha hb, hs.spheres_eq, Contact.invMassSum_impel]
  have hpos := h.invMassSum_pos (hs.mem_first hrow)
  have hspeed : row.contact.separation a b = row.contact.normalVelocity first.spheres +
      row.impulse * row.contact.invMassSum first.spheres := by
    rw [← hs.normalVelocity_eq h hrow, Contact.normalVelocity_eq_separation ha hb]
  rw [ContactRow.proposed, Scalar.maxNum_real, hspeed, hinv, Contact.meetingImpulse]
  congr 1
  field_simp
  ring

/-- Partway through a sweep, the rows so far have met their targets. -/
theorem IsPartial.hasMet_partway (hs : first.IsPartial s) (h : first.IsIndependent) (k : ℕ) :
    ∀ j < k, ∀ r, (s.partway k).rows[j]? = some r → r.HasMet first.spheres := by
  intro j hj r hr
  have hpartway := hs.partway j
  rw [getElem?_rows_partway, if_pos hj] at hr
  cases hrow : (s.partway j).rows[j]? with
  | none =>
    rw [Relaxation.relax, hrow] at hr
    cases hrow.symm.trans hr
  | some row =>
    obtain ⟨a, b, ha, hb, -, -, hrelax⟩ :=
      (hpartway.isFeasible h.mass_pos h.inRange).exists_relax_eq hrow
    rw [hrelax, List.getElem?_set_self (List.getElem?_eq_some_iff.mp hrow).1] at hr
    cases hr
    exact hpartway.proposed_eq_meetingImpulse h (List.mem_of_getElem? hrow) ha hb

/-- The state in which every row has met its target. -/
noncomputable def met (first : Relaxation ℝ) : Relaxation ℝ :=
  let rows := first.rows.map fun r =>
    { r with impulse := r.contact.meetingImpulse r.target first.spheres }
  ⟨Bodies.impel (netImpulse rows) first.spheres, rows⟩

/-- There is only one state in which every row has met its target. -/
theorem IsPartial.eq_met (hs : first.IsPartial s) (hmet : ∀ r ∈ s.rows, r.HasMet first.spheres) :
    s = first.met := by
  have hrows : s.rows = first.met.rows := by
    calc s.rows
        = s.rows.map fun r =>
            { r with impulse := r.contact.meetingImpulse r.target first.spheres } := by
          refine (List.map_id s.rows).symm.trans (List.map_congr_left ?_)
          intro r hr
          rw [← hmet r hr, id]
      _ = first.met.rows := by
          rw [met, ← hs.rows_eq, List.map_map]
          rfl
  have hspheres : s.spheres = first.met.spheres := by
    rw [hs.spheres_eq, hrows]
    rfl
  exact Relaxation.ext hspheres hrows

/-- A sweep leads there from any state of the solution. -/
theorem IsPartial.sweep_fst_eq_met (hs : first.IsPartial s) (h : first.IsIndependent) :
    s.sweep.1 = first.met := by
  refine IsPartial.eq_met (hs.partway s.rows.length) ?_
  intro r hr
  obtain ⟨j, hj, rfl⟩ := List.mem_iff_getElem.mp hr
  have hlength := (hs.partway s.rows.length).length_rows.trans hs.length_rows.symm
  exact hs.hasMet_partway h s.rows.length j (hlength ▸ hj) _ (List.getElem?_eq_getElem hj)

namespace IsIndependent

variable (h : first.IsIndependent) (hfirst : first.IsPartial first)
include h hfirst

/-- After the first sweep, further ones make no difference. -/
theorem sweeps_succ_eq_met (n : ℕ) : first.sweeps (n + 1) = first.met :=
  (hfirst.sweeps n).sweep_fst_eq_met h

theorem isPartial_met : first.IsPartial first.met :=
  h.sweeps_succ_eq_met hfirst 0 ▸ hfirst.sweeps 1

/-- In the end each pair separates at its target, or as fast as at first. -/
theorem normalVelocity_met (hrow : row ∈ first.rows) :
    row.contact.normalVelocity first.met.spheres =
      max (row.contact.normalVelocity first.spheres) row.target := by
  have hmem : ({ row with
      impulse := row.contact.meetingImpulse row.target first.spheres } : ContactRow ℝ) ∈
        first.met.rows := List.mem_map_of_mem hrow
  rw [← Contact.normalVelocity_add_meetingImpulse (h.invMassSum_pos hrow)]
  exact (h.isPartial_met hfirst).normalVelocity_eq h hmem

theorem isConverged_met : first.met.IsConverged := by
  intro r hr
  obtain ⟨row, hrow, rfl⟩ := List.mem_map.mp hr
  have hspeed := h.normalVelocity_met hfirst hrow
  rw [ContactRow.violation_eq_zero_iff ((h.isPartial_met hfirst).impulse_nonneg _ hr)]
  refine ⟨?_, ?_⟩
  · -- A positive impulse is one that lifts the speed to the target.
    intro hpos
    have hgap : 0 < (row.target - row.contact.normalVelocity first.spheres) /
        row.contact.invMassSum first.spheres := (lt_max_iff.mp hpos).resolve_right (lt_irrefl 0)
    have hlt := sub_pos.mp ((div_pos_iff_of_pos_right (h.invMassSum_pos hrow)).mp hgap)
    exact hspeed.trans (max_eq_right hlt.le)
  · intro _
    exact (le_max_right _ _).trans_eq hspeed.symm

/-- The second sweep changes no impulse. -/
theorem change_one : first.change 1 = 0 := by
  have hfeasible := (h.isPartial_met hfirst).isFeasible h.mass_pos h.inRange
  rw [change, h.sweeps_succ_eq_met hfirst 0]
  exact hfeasible.sweep_snd_eq_zero_iff_isConverged.mpr (h.isConverged_met hfirst)

end IsIndependent

/-- A solution of independent contacts ends in the state in which every row has met its target. -/
theorem solve_fst_eq_met {spheres : List (Sphere ℝ)} {contacts : List (Contact ℝ)}
    (hmass : ∀ b ∈ spheres, 0 < b.mass)
    (hcontacts : ∀ c ∈ contacts,
      c.bodyA < c.bodyB ∧ c.bodyB < spheres.length ∧ c.normal.lengthSq = 1)
    (hindependent : Contact.Independent contacts) (params : SolverParameters ℝ) (dt : ℝ) :
    (solve spheres contacts params dt).1 = (start spheres contacts params dt).met.spheres := by
  have h := isIndependent_start hmass hcontacts hindependent params dt
  have hfirst := isPartial_start spheres (fun c hc => (hcontacts c hc).1.ne) params dt
  by_cases hempty : contacts = []
  · subst hempty
    exact (Bodies.impel_zero spheres).symm
  · obtain ⟨n, -, heq, -⟩ := exists_solve_eq_sweeps spheres hempty params dt
    rw [heq, h.sweeps_succ_eq_met hfirst]

/-- **Independent contacts.** If no sphere has two contacts, then after a solution each contact
separates at its target, or as fast as it did before if that is faster. Neither the limit to the
sweeps nor the tolerance makes a difference to the spheres, no residual is left, and two sweeps are
enough for any tolerance that is not negative. -/
theorem solve_independent {spheres : List (Sphere ℝ)} {contacts : List (Contact ℝ)}
    (hmass : ∀ b ∈ spheres, 0 < b.mass)
    (hcontacts : ∀ c ∈ contacts,
      c.bodyA < c.bodyB ∧ c.bodyB < spheres.length ∧ c.normal.lengthSq = 1)
    (hindependent : Contact.Independent contacts) (params : SolverParameters ℝ) (dt : ℝ) :
    let solution := solve spheres contacts params dt
    (∀ c ∈ contacts, c.normalVelocity solution.1 =
      max (c.normalVelocity spheres) (max (params.correction * c.depth / dt)
        (-params.restitution * c.normalVelocity spheres))) ∧
    (∀ iterations tolerance, (solve spheres contacts
        { params with iterations := iterations, tolerance := tolerance } dt).1 = solution.1) ∧
    solution.2.residual = .zero ∧
    (0 ≤ params.tolerance → solution.2.iterations ≤ 2) := by
  intro solution
  have h := isIndependent_start hmass hcontacts hindependent params dt
  have hfirst := isPartial_start spheres (fun c hc => (hcontacts c hc).1.ne) params dt
  have hsolve := solve_fst_eq_met hmass hcontacts hindependent
  refine ⟨?_, ?_, ?_, ?_⟩
  · intro c hc
    have hspeed := h.normalVelocity_met hfirst (List.mem_map_of_mem hc)
    simp only [Contact.target, Scalar.maxNum_real] at hspeed
    rw [hsolve params dt]
    exact hspeed
  · intro iterations tolerance
    rw [hsolve, hsolve params dt]
    rfl
  · by_cases hempty : contacts = []
    · subst hempty
      rfl
    · obtain ⟨n, -, heq, -⟩ := exists_solve_eq_sweeps spheres hempty params dt
      have hzero := (residual_eq_zero_iff _).mpr (h.isConverged_met hfirst)
      simp only [solution, heq, h.sweeps_succ_eq_met hfirst, hzero]
      simp [ContactError.ofParts, ContactError.zero, Scalar.hypot]
  · intro htolerance
    by_cases hempty : contacts = []
    · subst hempty
      exact Nat.zero_le 2
    · obtain ⟨n, -, heq, hbefore, -⟩ := exists_solve_eq_sweeps spheres hempty params dt
      -- A third sweep would mean that the second one was not within the tolerance.
      have hn : n ≤ 1 := by
        by_contra hlt
        exact hbefore 1 (not_le.mp hlt) ((h.change_one hfirst).trans_le htolerance)
      simp only [solution, heq]
      omega

end Relaxation

noncomputable section

/-- Two pairs of spheres, of which the first one approaches and the second one separates. -/
def Bodies.twoPairs : List (Sphere ℝ) :=
  [{ Sphere.solid "runner" 0 1 1 with velocity := ⟨1, 0, 0⟩ }, .solid "target" ⟨1.5, 0, 0⟩ 1 3.0,
    .solid "rear" 0 1 1, { Sphere.solid "front" ⟨0, 1.5, 0⟩ 1 1 with velocity := ⟨0, 1, 0⟩ }]

/-- The contacts of the two pairs. -/
def Contact.ofTwoPairs : List (Contact ℝ) :=
  [⟨0, 1, 0, ⟨1, 0, 0⟩, 0.5⟩, ⟨2, 3, 0, ⟨0, 1, 0⟩, 0.5⟩]

end

theorem Bodies.mass_pos_twoPairs : ∀ b ∈ twoPairs, 0 < b.mass := by
  norm_num [twoPairs, Sphere.solid]

theorem Contact.ofTwoPairs_valid : ∀ c ∈ ofTwoPairs,
    c.bodyA < c.bodyB ∧ c.bodyB < Bodies.twoPairs.length ∧ c.normal.lengthSq = 1 := by
  simp [ofTwoPairs, Bodies.twoPairs, Vec3.lengthSq_real]

theorem Contact.independent_ofTwoPairs : Independent ofTwoPairs := by
  simp only [Independent, ofTwoPairs, List.pairwise_cons, List.mem_singleton, forall_eq,
    List.not_mem_nil, false_imp_iff, implies_true, List.Pairwise.nil, and_true, Apart, Involves]
  omega

namespace Relaxation

/-- Half of the approach of the first pair is reversed, and the second pair separates fast enough as
it is, whatever the limit to the sweeps. -/
theorem solve_twoPairs :
    let params (iterations : ℕ) (tolerance : ℝ) : SolverParameters ℝ :=
      ⟨.sequential, iterations, tolerance, 0.5, 0.2⟩
    let solution := solve Bodies.twoPairs Contact.ofTwoPairs (params 50 0) 1
    (∀ b ∈ Bodies.twoPairs, 0 < b.mass) ∧
    (∀ c ∈ Contact.ofTwoPairs,
      c.bodyA < c.bodyB ∧ c.bodyB < Bodies.twoPairs.length ∧ c.normal.lengthSq = 1) ∧
    Contact.Independent Contact.ofTwoPairs ∧
    Contact.ofTwoPairs.map (·.normalVelocity solution.1) = [1 / 2, 1] ∧
    (∀ iterations tolerance, (solve Bodies.twoPairs Contact.ofTwoPairs
      (params iterations tolerance) 1).1 = solution.1) ∧
    solution.2.residual = .zero ∧ solution.2.iterations ≤ 2 := by
  intro params solution
  obtain ⟨hspeed, hsame, hresidual, hcount⟩ := solve_independent Bodies.mass_pos_twoPairs
    Contact.ofTwoPairs_valid Contact.independent_ofTwoPairs (params 50 0) 1
  refine ⟨Bodies.mass_pos_twoPairs, Contact.ofTwoPairs_valid, Contact.independent_ofTwoPairs, ?_,
    hsame, hresidual, hcount le_rfl⟩
  rw [List.map_congr_left hspeed]
  norm_num [Contact.ofTwoPairs, Bodies.twoPairs, params, Contact.normalVelocity,
    Contact.separation, Sphere.solid, Vec3.dot]

end Relaxation

end SphereBench
