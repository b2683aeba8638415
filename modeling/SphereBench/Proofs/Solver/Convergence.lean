import Mathlib.Algebra.Order.BigOperators.Group.Finset
import Mathlib.Algebra.Order.BigOperators.Group.List
import SphereBench.Proofs.Solver.Impulse
/-!
# Converged solutions

A sequential solution without residual satisfies the conditions of all contacts: no pair of spheres
separates more slowly than its target, and only those exactly at their target push. Two such
solutions of the same contacts leave the spheres alike, in whatever order the contacts are visited
and whenever the sweeps end. The impulses need not agree. Along the difference of the two outcomes
the difference of the impulses does as much work as there is kinetic energy in it, twice over, and
complementarity lets it do none.
-/

namespace SphereBench

/-- The velocity of the sphere with an index; zero where there is none. -/
noncomputable def Bodies.velocityAt (spheres : List (Sphere ℝ)) (i : ℕ) : Vec3 ℝ :=
  (spheres[i]?.map (·.velocity)).getD 0

theorem Bodies.velocityAt_eq {spheres : List (Sphere ℝ)} {i : ℕ} {b : Sphere ℝ}
    (h : spheres[i]? = some b) : velocityAt spheres i = b.velocity := by
  rw [velocityAt, h]
  rfl

theorem Bodies.velocityAt_impel {p : ℕ → Vec3 ℝ} {spheres : List (Sphere ℝ)} {i : ℕ}
    {b : Sphere ℝ} (h : spheres[i]? = some b) :
    velocityAt (impel p spheres) i = b.velocity + p i * b.invMass := by
  rw [velocityAt, getElem?_impel, h]
  rfl

theorem Contact.normalVelocity_eq {c : Contact ℝ} {spheres : List (Sphere ℝ)}
    (hA : c.bodyA < spheres.length) (hB : c.bodyB < spheres.length) :
    c.normalVelocity spheres =
      (Bodies.velocityAt spheres c.bodyB - Bodies.velocityAt spheres c.bodyA).dot c.normal := by
  simp only [normalVelocity, Bodies.velocityAt, List.getElem?_eq_getElem hA,
    List.getElem?_eq_getElem hB, Option.map_some, Option.getD_some, separation]

namespace ContactRow

variable {r : ContactRow ℝ} {spheres : List (Sphere ℝ)}

/-- No row in order separates more slowly than its target. -/
theorem target_le_of_violation (h : r.violation spheres = 0) :
    r.target ≤ r.contact.normalVelocity spheres := by
  simp only [violation, Scalar.minNum_real] at h
  split at h
  · exact (sub_eq_zero.mp h).ge
  · exact sub_nonneg.mp (min_eq_right_iff.mp h)

/-- A row in order that pushes is exactly at its target. -/
theorem impulse_mul_of_violation (hr : 0 ≤ r.impulse) (h : r.violation spheres = 0) :
    r.impulse * (r.contact.normalVelocity spheres - r.target) = 0 := by
  simp only [violation] at h
  split at h
  · rw [h, mul_zero]
  · rename_i hpush
    rw [le_antisymm (not_lt.mp hpush) hr, zero_mul]

end ContactRow

namespace Relaxation

variable {first first' s s' : Relaxation ℝ}

/-- Every row meets its condition. -/
def IsConverged (s : Relaxation ℝ) : Prop := ∀ r ∈ s.rows, r.violation s.spheres = 0

/-- There is no residual exactly if all rows meet their conditions. -/
theorem residual_eq_zero_iff (s : Relaxation ℝ) : s.residual = 0 ↔ s.IsConverged := by
  have hnonneg : ∀ x ∈ s.rows.map fun r => r.violation s.spheres * r.violation s.spheres,
      0 ≤ x := by
    intro x hx
    obtain ⟨r, _, rfl⟩ := List.mem_map.mp hx
    exact mul_self_nonneg _
  simp only [residual, rootMean, Scalar.sqrt_real, Scalar.sum_real, Real.sqrt_eq_zero']
  constructor
  · intro h r hr
    have hlength : (0 : ℝ) < s.rows.length := by
      exact_mod_cast List.length_pos_of_mem hr
    rw [div_le_iff₀ hlength, zero_mul] at h
    have hzero := List.all_zero_of_le_zero_le_of_sum_eq_zero hnonneg
      (le_antisymm h (List.sum_nonneg hnonneg)) (List.mem_map.mpr ⟨r, hr, rfl⟩)
    exact mul_self_eq_zero.mp hzero
  · intro h
    rw [List.sum_eq_zero, zero_div]
    intro x hx
    obtain ⟨r, hr, rfl⟩ := List.mem_map.mp hx
    rw [h r hr, mul_zero]

/-- Two solutions that start from the same spheres and, in some order, from the same rows. -/
structure IsReordering (first first' : Relaxation ℝ) : Prop where
  spheres_eq : first.spheres = first'.spheres
  rows_perm : first.rows.Perm first'.rows

/-- The bodies of all rows are there. -/
def InRange (s : Relaxation ℝ) : Prop :=
  ∀ r ∈ s.rows, r.contact.bodyA < s.spheres.length ∧ r.contact.bodyB < s.spheres.length

theorem IsReordering.symm (h : first.IsReordering first') : first'.IsReordering first :=
  ⟨h.spheres_eq.symm, h.rows_perm.symm⟩

theorem IsReordering.inRange (h : first.IsReordering first') (hrange : first.InRange) :
    first'.InRange := by
  intro r hr
  rw [← h.spheres_eq]
  exact hrange r (h.rows_perm.mem_iff.mpr hr)

namespace IsPartial

theorem mem_first (h : first.IsPartial s) {r : ContactRow ℝ} (hr : r ∈ s.rows) :
    ({ r with impulse := 0 } : ContactRow ℝ) ∈ first.rows := by
  rw [← h.rows_eq]
  exact List.mem_map_of_mem hr

theorem inRange (h : first.IsPartial s) (hrange : first.InRange) : s.InRange := by
  intro r hr
  rw [h.length_spheres]
  exact hrange { r with impulse := 0 } (h.mem_first hr)

theorem velocityAt_eq (h : first.IsPartial s) {i : ℕ} {b : Sphere ℝ}
    (hb : first.spheres[i]? = some b) :
    Bodies.velocityAt s.spheres i = b.velocity + netImpulse s.rows i * b.invMass := by
  rw [h.spheres_eq, Bodies.velocityAt_impel hb]

/-- In another converged solution a row separates at its target or faster. -/
theorem target_le (h : first.IsPartial s) (h' : first'.IsPartial s')
    (hfirst : first.IsReordering first') (hs' : s'.IsConverged) {r : ContactRow ℝ}
    (hr : r ∈ s.rows) : r.target ≤ r.contact.normalVelocity s'.spheres := by
  have hmem := hfirst.rows_perm.mem_iff.mp (h.mem_first hr)
  rw [← h'.rows_eq] at hmem
  obtain ⟨r', hr', heq⟩ := List.mem_map.mp hmem
  obtain ⟨hcontact, htarget, _⟩ := ContactRow.mk.inj heq
  rw [← hcontact, ← htarget]
  exact ContactRow.target_le_of_violation (hs' r' hr')

/-- On the way from a converged solution to another one, the impulses of the first do no negative
work: a row that pushes is at its target here, and at its target or faster there. -/
theorem sum_work_nonneg (h : first.IsPartial s) (h' : first'.IsPartial s')
    (hfirst : first.IsReordering first') (hrange : first.InRange) (hs : s.IsConverged)
    (hs' : s'.IsConverged) :
    0 ≤ ∑ i ∈ Finset.range first.spheres.length, (netImpulse s.rows i).dot
      (Bodies.velocityAt s'.spheres i - Bodies.velocityAt s.spheres i) := by
  have hlength : s'.spheres.length = s.spheres.length := by
    rw [h'.length_spheres, h.length_spheres, hfirst.spheres_eq]
  rw [← h.length_spheres, sum_dot_netImpulse (h.inRange hrange)]
  apply List.sum_nonneg
  intro x hx
  obtain ⟨r, hr, rfl⟩ := List.mem_map.mp hx
  obtain ⟨hA, hB⟩ := h.inRange hrange r hr
  have hhere := ContactRow.impulse_mul_of_violation (h.impulse_nonneg r hr) (hs r hr)
  have hthere := mul_nonneg (h.impulse_nonneg r hr)
    (sub_nonneg.mpr (h.target_le h' hfirst hs' hr))
  have hn := Contact.normalVelocity_eq hA hB
  have hn' := Contact.normalVelocity_eq (hA.trans_eq hlength.symm) (hB.trans_eq hlength.symm)
  have hwork : r.impulse * (((Bodies.velocityAt s'.spheres r.contact.bodyB -
        Bodies.velocityAt s.spheres r.contact.bodyB) -
      (Bodies.velocityAt s'.spheres r.contact.bodyA -
        Bodies.velocityAt s.spheres r.contact.bodyA)).dot r.contact.normal) =
      r.impulse * (r.contact.normalVelocity s'.spheres - r.target) -
        r.impulse * (r.contact.normalVelocity s.spheres - r.target) := by
    rw [hn, hn']
    simp only [Vec3.dot, Vec3.sub_x, Vec3.sub_y, Vec3.sub_z]
    ring
  rw [hwork, hhere, sub_zero]
  exact hthere

/-- Going from one solution to another and back, the impulses at each end do as much work as there
is kinetic energy in the difference, twice over, with the sign turned. -/
theorem work_add_work (h : first.IsPartial s) (h' : first'.IsPartial s') {i : ℕ} {b : Sphere ℝ}
    (hb : first.spheres[i]? = some b) (hb' : first'.spheres[i]? = some b) :
    (netImpulse s.rows i).dot
        (Bodies.velocityAt s'.spheres i - Bodies.velocityAt s.spheres i) +
      (netImpulse s'.rows i).dot
        (Bodies.velocityAt s.spheres i - Bodies.velocityAt s'.spheres i) =
      -((netImpulse s.rows i - netImpulse s'.rows i).lengthSq * b.invMass) := by
  rw [h.velocityAt_eq hb, h'.velocityAt_eq hb']
  simp only [Vec3.lengthSq, Vec3.dot, Vec3.sub_x, Vec3.sub_y, Vec3.sub_z, Vec3.add_x,
    Vec3.add_y, Vec3.add_z, Vec3.mul_x, Vec3.mul_y, Vec3.mul_z]
  ring

/-- Two converged solutions of the same rows, in whatever order, give the same to each sphere: on
the way there and back the impulses do no negative work, and every difference would cost some. -/
theorem netImpulse_eq (h : first.IsPartial s) (h' : first'.IsPartial s')
    (hfirst : first.IsReordering first') (hmass : ∀ b ∈ first.spheres, 0 < b.mass)
    (hrange : first.InRange) (hs : s.IsConverged) (hs' : s'.IsConverged) :
    ∀ i < first.spheres.length, netImpulse s.rows i = netImpulse s'.rows i := by
  have hinvMass : ∀ i (hi : i < first.spheres.length), 0 < first.spheres[i].invMass := fun i hi =>
    one_div_pos.mpr (hmass _ (List.getElem_mem hi))
  have hcost : ∀ i (hi : i < first.spheres.length),
      (netImpulse s.rows i).dot
          (Bodies.velocityAt s'.spheres i - Bodies.velocityAt s.spheres i) +
        (netImpulse s'.rows i).dot
          (Bodies.velocityAt s.spheres i - Bodies.velocityAt s'.spheres i) =
        -((netImpulse s.rows i - netImpulse s'.rows i).lengthSq * first.spheres[i].invMass) := by
    intro i hi
    have hb := List.getElem?_eq_getElem hi
    exact h.work_add_work h' hb (hfirst.spheres_eq ▸ hb)
  have hnonpos : ∀ i ∈ Finset.range first.spheres.length,
      (netImpulse s.rows i).dot
          (Bodies.velocityAt s'.spheres i - Bodies.velocityAt s.spheres i) +
        (netImpulse s'.rows i).dot
          (Bodies.velocityAt s.spheres i - Bodies.velocityAt s'.spheres i) ≤ 0 := by
    intro i hi
    have hi := Finset.mem_range.mp hi
    rw [hcost i hi, neg_nonpos]
    exact mul_nonneg (Vec3.lengthSq_nonneg _) (hinvMass i hi).le
  have hthere := h.sum_work_nonneg h' hfirst hrange hs hs'
  have hback := h'.sum_work_nonneg h hfirst.symm (hfirst.inRange hrange) hs' hs
  rw [← hfirst.spheres_eq] at hback
  have hsum := add_nonneg hthere hback
  rw [← Finset.sum_add_distrib] at hsum
  have hzero := (Finset.sum_eq_zero_iff_of_nonpos hnonpos).mp
    (le_antisymm (Finset.sum_nonpos hnonpos) hsum)
  intro i hi
  have hi_zero := hzero i (Finset.mem_range.mpr hi)
  rw [hcost i hi, neg_eq_zero, mul_eq_zero, or_iff_left (hinvMass i hi).ne',
    Vec3.lengthSq_eq_zero_iff, sub_eq_zero] at hi_zero
  exact hi_zero

end IsPartial

/-- A solution without residual ends in a converged state. -/
theorem exists_isConverged_of_residual (spheres : List (Sphere ℝ)) {contacts : List (Contact ℝ)}
    (hne : ∀ c ∈ contacts, c.bodyA ≠ c.bodyB) (params : SolverParameters ℝ) (dt : ℝ)
    (hresidual : (solve spheres contacts params dt).2.residual.normal = 0) :
    ∃ s, (start spheres contacts params dt).IsPartial s ∧ s.IsConverged ∧
      (solve spheres contacts params dt).1 = s.spheres := by
  obtain ⟨s, hs, hspheres, hreport⟩ := exists_isPartial_solve_eq spheres hne params dt
  refine ⟨s, hs, ?_, hspheres⟩
  by_cases hempty : contacts = []
  · -- Without contacts the report is idle, and there is no row that could miss its condition.
    subst hempty
    intro r hr
    exact absurd (hs.mem_first hr) List.not_mem_nil
  · rw [hreport hempty] at hresidual
    exact s.residual_eq_zero_iff.mp hresidual

/-- **Converged solutions agree.** If two solutions of the same contacts, visited in any two orders
and with any limits to the sweeps, both report that no residual is left, then both leave the same
spheres. -/
theorem solve_perm {spheres : List (Sphere ℝ)} {contacts contacts' : List (Contact ℝ)}
    {params params' : SolverParameters ℝ} {dt : ℝ} (hmass : ∀ b ∈ spheres, 0 < b.mass)
    (hbodies : ∀ c ∈ contacts, c.bodyA < c.bodyB ∧ c.bodyB < spheres.length)
    (hperm : contacts.Perm contacts') (hcorrection : params'.correction = params.correction)
    (hrestitution : params'.restitution = params.restitution)
    (hresidual : (solve spheres contacts params dt).2.residual.normal = 0)
    (hresidual' : (solve spheres contacts' params' dt).2.residual.normal = 0) :
    (solve spheres contacts params dt).1 = (solve spheres contacts' params' dt).1 := by
  have hne : ∀ c ∈ contacts, c.bodyA ≠ c.bodyB := fun c hc => (hbodies c hc).1.ne
  obtain ⟨s, hpartial, hs, heq⟩ := exists_isConverged_of_residual spheres hne params dt hresidual
  obtain ⟨s', hpartial', hs', heq'⟩ := exists_isConverged_of_residual spheres
    (fun c hc => hne c (hperm.mem_iff.mpr hc)) params' dt hresidual'
  have hfirst : (start spheres contacts params dt).IsReordering
      (start spheres contacts' params' dt) := by
    refine ⟨rfl, ?_⟩
    simp only [start, Contact.target, hcorrection, hrestitution]
    exact hperm.map _
  have hrange : (start spheres contacts params dt).InRange := by
    intro r hr
    obtain ⟨c, hc, rfl⟩ := List.mem_map.mp hr
    obtain ⟨hAB, hB⟩ := hbodies c hc
    exact ⟨hAB.trans hB, hB⟩
  rw [heq, heq', hpartial.spheres_eq, hpartial'.spheres_eq, ← hfirst.spheres_eq]
  exact Bodies.impel_congr (hpartial.netImpulse_eq hpartial' hfirst hmass hrange hs hs')

/-- With at most one sweep, the residual is that of the state after it. -/
theorem residual_solve_of_iterations_le_one (spheres : List (Sphere ℝ))
    {contacts : List (Contact ℝ)} (hcontacts : contacts ≠ []) {params : SolverParameters ℝ}
    (hiterations : params.iterations ≤ 1) (dt : ℝ) :
    (solve spheres contacts params dt).2.residual.normal =
      (start spheres contacts params dt).sweep.1.residual := by
  rw [solve, if_neg (by simpa using hcontacts), Nat.max_eq_left hiterations, ← Nat.zero_add 1,
    iterate_succ]
  by_cases hchange : (start spheres contacts params dt).sweep.2 ≤ params.tolerance
  · rw [if_pos hchange]
    rfl
  · rw [if_neg hchange]
    rfl

end Relaxation

noncomputable section

/-- Three unit masses with given velocities, around a corner. -/
def Bodies.corner (u v w : Vec3 ℝ) : List (Sphere ℝ) :=
  [{ Sphere.solid "first" 0 1 1 with velocity := u },
    { Sphere.solid "middle" 0 1 1 with velocity := v },
    { Sphere.solid "last" 0 1 1 with velocity := w }]

/-- The contact of the first two spheres around the corner. -/
def Contact.alongX : Contact ℝ := ⟨0, 1, 0, ⟨1, 0, 0⟩, 0⟩

/-- The contact of the last two spheres around the corner. -/
def Contact.alongY : Contact ℝ := ⟨1, 2, 0, ⟨0, 1, 0⟩, 0⟩

end

namespace Relaxation

/-- Both outer spheres run into the middle one. As the contacts are at right angles, a single sweep
converges in either order. -/
theorem isConverged_sweep_corner {contacts : List (Contact ℝ)}
    (h : contacts = [.alongX, .alongY] ∨ contacts = [.alongY, .alongX])
    {params : SolverParameters ℝ} (hcorrection : params.correction = 0)
    (hrestitution : params.restitution = 0) :
    (start (Bodies.corner ⟨1, 0, 0⟩ 0 ⟨0, -1, 0⟩) contacts params 1).sweep.1.IsConverged := by
  rcases h with rfl | rfl
  all_goals
    simp only [start, Contact.target, hcorrection, hrestitution, zero_mul, zero_div, neg_zero,
      Scalar.maxNum_real, max_self, List.map_cons, List.map_nil, sweep, relaxEach,
      List.length_cons, List.length_nil, List.range, List.range.loop]
    norm_num [relax, Bodies.corner, Contact.alongX, Contact.alongY, Sphere.solid, Sphere.invMass,
      Contact.separation, ContactRow.proposed, Contact.updateBodies, ContactRow.kick, Vec3.dot,
      IsConverged, ContactRow.violation, Contact.normalVelocity]

/-- Whichever of the outer spheres hits the middle one first, the outcomes agree. -/
theorem solve_corner :
    (solve (Bodies.corner ⟨1, 0, 0⟩ 0 ⟨0, -1, 0⟩) [.alongX, .alongY]
        ⟨.sequential, 1, 0, 0, 0⟩ 1).1 =
      (solve (Bodies.corner ⟨1, 0, 0⟩ 0 ⟨0, -1, 0⟩) [.alongY, .alongX]
        ⟨.sequential, 0, 0.5, 0, 0⟩ 1).1 := by
  have hmass : ∀ b ∈ Bodies.corner ⟨1, 0, 0⟩ 0 ⟨0, -1, 0⟩, 0 < b.mass := by
    simp [Bodies.corner, Sphere.solid]
  have hbodies : ∀ c ∈ [Contact.alongX, Contact.alongY], c.bodyA < c.bodyB ∧
      c.bodyB < (Bodies.corner ⟨1, 0, 0⟩ 0 ⟨0, -1, 0⟩).length := by
    simp [Contact.alongX, Contact.alongY, Bodies.corner]
  refine solve_perm hmass hbodies (List.Perm.swap _ _ _) rfl rfl ?_ ?_
  · rw [residual_solve_of_iterations_le_one _ (List.cons_ne_nil _ _) le_rfl, residual_eq_zero_iff]
    exact isConverged_sweep_corner (.inl rfl) rfl rfl
  · rw [residual_solve_of_iterations_le_one _ (List.cons_ne_nil _ _) zero_le_one,
      residual_eq_zero_iff]
    exact isConverged_sweep_corner (.inr rfl) rfl rfl

end Relaxation

end SphereBench
