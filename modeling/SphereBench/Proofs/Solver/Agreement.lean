import SphereBench.Proofs.Solver.Independent
/-!
# Agreement of the two solvers

Both solvers answer a contact with an impulse along its normal. The direct one computes it from the
approach alone, and the sequential one from a target that also takes out the penetration, with an
account of what it has given already. Where no sphere has two contacts and no penetration is to be
corrected, the two impulses are the same: an approach is reversed, times the restitution, and a pair
that rests or separates is left alone. The spheres then differ only by the shifts of the direct
solver.
-/

namespace SphereBench

namespace Bodies

/-- An impulse changes a velocity by itself over the mass. -/
theorem velocityAt_impel_eq (p : ℕ → Vec3 ℝ) (spheres : List (Sphere ℝ)) (i : ℕ) :
    velocityAt (impel p spheres) i = velocityAt spheres i + p i * invMassAt spheres i := by
  cases hi : spheres[i]? with
  | none =>
    -- Without a sphere both velocities and the reciprocal mass count as zero.
    rw [velocityAt, velocityAt, invMassAt, getElem?_impel, hi]
    simp [Vec3.mul_eq_smul]
  | some b => rw [velocityAt_impel hi, velocityAt_eq hi, invMassAt_eq hi]

/-- The velocities of two lists of spheres agree if they do at each index. -/
theorem map_velocity_congr {spheres spheres' : List (Sphere ℝ)}
    (hlength : spheres.length = spheres'.length)
    (h : ∀ i, velocityAt spheres i = velocityAt spheres' i) :
    spheres.map (·.velocity) = spheres'.map (·.velocity) := by
  apply List.ext_getElem
  · rw [List.length_map, List.length_map, hlength]
  · intro i hi hi'
    rw [List.length_map] at hi hi'
    rw [List.getElem_map, List.getElem_map, ← velocityAt_eq (List.getElem?_eq_getElem hi),
      ← velocityAt_eq (List.getElem?_eq_getElem hi'), h i]

end Bodies

namespace Contact

open Bodies (velocityAt invMassAt)

variable {c : Contact ℝ} {spheres : List (Sphere ℝ)} {a b : Sphere ℝ}

/-- The impulse of a direct response: it reverses an approach, times the restitution, and there is
none without an approach. -/
noncomputable def bounceImpulse (c : Contact ℝ) (restitution : ℝ) (spheres : List (Sphere ℝ)) : ℝ :=
  if c.normalVelocity spheres < 0 then
    -(1 + restitution) * c.normalVelocity spheres / c.invMassSum spheres
  else 0

/-- What a direct response does to the velocities of its bodies. -/
theorem velocity_respond (ha : spheres[c.bodyA]? = some a) (hb : spheres[c.bodyB]? = some b)
    (restitution : ℝ) :
    (c.respond restitution a b).1.velocity =
        a.velocity - c.normal * c.bounceImpulse restitution spheres * a.invMass ∧
      (c.respond restitution a b).2.velocity =
        b.velocity + c.normal * c.bounceImpulse restitution spheres * b.invMass := by
  simp only [respond, separate, push, bounceImpulse, normalVelocity_eq_separation ha hb,
    invMassSum_eq ha hb]
  split
  · exact ⟨rfl, rfl⟩
  · simp [Vec3.mul_eq_smul]

/-- No response changes how easily a sphere is moved. -/
theorem invMassAt_updateBodies_respond (c : Contact ℝ) (restitution : ℝ)
    (spheres : List (Sphere ℝ)) (i : ℕ) :
    invMassAt (c.updateBodies spheres (c.respond restitution)) i = invMassAt spheres i := by
  have hmap : (c.updateBodies spheres (c.respond restitution)).map Sphere.invMass =
      spheres.map Sphere.invMass := by
    apply map_updateBodies
    intro a b
    simp only [respond, separate, push]
    split <;> exact ⟨rfl, rfl⟩
  rw [invMassAt, ← List.getElem?_map, hmap, List.getElem?_map, invMassAt]

/-- The velocities after a direct response. -/
theorem velocityAt_updateBodies_respond (hne : c.bodyA ≠ c.bodyB) (hA : c.bodyA < spheres.length)
    (hB : c.bodyB < spheres.length) (restitution : ℝ) (i : ℕ) :
    velocityAt (c.updateBodies spheres (c.respond restitution)) i =
      velocityAt spheres i +
        c.impulseOn (c.bounceImpulse restitution spheres) i * invMassAt spheres i := by
  have ha := List.getElem?_eq_getElem hA
  have hb := List.getElem?_eq_getElem hB
  obtain ⟨hrespondA, hrespondB⟩ := velocity_respond ha hb restitution
  by_cases hi : c.Involves i
  · rcases hi with rfl | rfl
    · rw [Bodies.velocityAt_eq (getElem?_updateBodies_bodyA hne ha hb _), hrespondA,
        Bodies.velocityAt_eq ha, Bodies.invMassAt_eq ha, impulseOn, if_neg hne.symm, if_pos rfl]
      simp only [Vec3.mul_eq_smul]
      module
    · rw [Bodies.velocityAt_eq (getElem?_updateBodies_bodyB ha hb _), hrespondB,
        Bodies.velocityAt_eq hb, Bodies.invMassAt_eq hb, impulseOn, if_pos rfl, if_neg hne,
        sub_zero]
  · rw [velocityAt, getElem?_updateBodies_of_not_involves hi, ← velocityAt,
      impulseOn_of_not_involves hi, Vec3.zero_mul, add_zero]

/-- A contact does not see the response to another one with which it shares no sphere. -/
theorem bounceImpulse_updateBodies_respond {d : Contact ℝ} (h : c.Apart d) (restitution : ℝ) :
    d.bounceImpulse restitution (c.updateBodies spheres (c.respond restitution)) =
      d.bounceImpulse restitution spheres := by
  simp only [bounceImpulse, normalVelocity_updateBodies h, invMassSum,
    invMassAt_updateBodies_respond]

/-- The velocities after the responses to independent contacts: each sphere gets the impulses of its
contacts as they would be at the beginning. -/
theorem velocityAt_respondEach {contacts : List (Contact ℝ)} (params : SolverParameters ℝ)
    (hbodies : ∀ c ∈ contacts, c.bodyA < c.bodyB ∧ c.bodyB < spheres.length)
    (hindependent : Independent contacts) (i : ℕ) :
    velocityAt (respondEach spheres contacts params) i =
      velocityAt spheres i +
        (contacts.map fun c => c.impulseOn (c.bounceImpulse params.restitution spheres) i).sum *
          invMassAt spheres i := by
  induction contacts generalizing spheres with
  | nil => simp [respondEach]
  | cons c contacts ih =>
    obtain ⟨hapart, htail⟩ := List.pairwise_cons.mp hindependent
    obtain ⟨hAB, hB⟩ := hbodies c List.mem_cons_self
    have hrange : ∀ d ∈ contacts, d.bodyA < d.bodyB ∧
        d.bodyB < (c.updateBodies spheres (c.respond params.restitution)).length := by
      intro d hd
      rw [length_updateBodies]
      exact hbodies d (List.mem_cons_of_mem c hd)
    have hrest := ih hrange htail
    have hsum : (contacts.map fun d => d.impulseOn (d.bounceImpulse params.restitution
          (c.updateBodies spheres (c.respond params.restitution))) i) =
        contacts.map fun d => d.impulseOn (d.bounceImpulse params.restitution spheres) i :=
      List.map_congr_left fun d hd => by rw [bounceImpulse_updateBodies_respond (hapart d hd)]
    rw [hsum, velocityAt_updateBodies_respond hAB.ne (hAB.trans hB) hB,
      invMassAt_updateBodies_respond] at hrest
    rw [List.map_cons, List.sum_cons]
    refine hrest.trans ?_
    simp only [Vec3.mul_eq_smul]
    module

/-- With nothing to correct and a restitution that is not negative, the impulse that meets the
target is that of the direct response. -/
theorem meetingImpulse_eq_bounceImpulse (hinv : 0 < c.invMassSum spheres) {restitution : ℝ}
    (h : 0 ≤ restitution) :
    c.meetingImpulse (max 0 (-restitution * c.normalVelocity spheres)) spheres =
      c.bounceImpulse restitution spheres := by
  rw [meetingImpulse, bounceImpulse]
  by_cases happroach : c.normalVelocity spheres < 0
  · have htarget : 0 ≤ -restitution * c.normalVelocity spheres := by nlinarith
    have hgap : 0 ≤ -restitution * c.normalVelocity spheres - c.normalVelocity spheres := by
      linarith
    rw [if_pos happroach, max_eq_right htarget, max_eq_left (div_nonneg hgap hinv.le)]
    ring
  · have htarget : -restitution * c.normalVelocity spheres ≤ 0 := by nlinarith
    have hgap : 0 - c.normalVelocity spheres ≤ 0 := by linarith
    rw [if_neg happroach, max_eq_left htarget, max_eq_right (div_nonpos_of_nonpos_of_nonneg hgap
      hinv.le)]

end Contact

namespace Relaxation

/-- **Agreement.** If no sphere has two contacts, the sequential solver without correction of the
penetration leaves every sphere with the velocity with which the direct solver leaves it, at the
same restitution, whatever the limit to the sweeps and the tolerance. -/
theorem solve_agrees_respondEach {spheres : List (Sphere ℝ)} {contacts : List (Contact ℝ)}
    (hmass : ∀ b ∈ spheres, 0 < b.mass)
    (hcontacts : ∀ c ∈ contacts,
      c.bodyA < c.bodyB ∧ c.bodyB < spheres.length ∧ c.normal.lengthSq = 1)
    (hindependent : Contact.Independent contacts) (params : SolverParameters ℝ)
    (hrestitution : 0 ≤ params.restitution) (iterations : ℕ) (tolerance dt : ℝ) :
    (solve spheres contacts
        { params with iterations := iterations, tolerance := tolerance, correction := 0 }
        dt).1.map (·.velocity) =
      (Contact.respondEach spheres contacts params).map (·.velocity) := by
  have hbodies : ∀ c ∈ contacts, c.bodyA < c.bodyB ∧ c.bodyB < spheres.length :=
    fun c hc => ⟨(hcontacts c hc).1, (hcontacts c hc).2.1⟩
  let sequential : SolverParameters ℝ :=
    { params with iterations := iterations, tolerance := tolerance, correction := 0 }
  have h := isIndependent_start hmass hcontacts hindependent sequential dt
  have himpulse : ∀ c ∈ contacts,
      c.meetingImpulse (c.target sequential dt spheres) spheres =
        c.bounceImpulse params.restitution spheres := by
    intro c hc
    have hpos : 0 < c.invMassSum spheres := h.invMassSum_pos (List.mem_map_of_mem hc)
    rw [← Contact.meetingImpulse_eq_bounceImpulse hpos hrestitution, Contact.target,
      Scalar.maxNum_real, zero_mul, zero_div]
  rw [solve_fst_eq_met hmass hcontacts hindependent]
  apply Bodies.map_velocity_congr
  · have hdirect : (Contact.respondEach spheres contacts params).length = spheres.length :=
      Contact.respondEach_induction (P := fun l => l.length = spheres.length) params rfl
        fun c l _ hl => (Contact.length_updateBodies c l _).trans hl
    rw [met, Bodies.length_impel, hdirect]
    rfl
  · intro i
    have hnet : netImpulse (start spheres contacts sequential dt).met.rows i =
        (contacts.map fun c =>
          c.impulseOn (c.bounceImpulse params.restitution spheres) i).sum := by
      simp only [netImpulse, met, start, List.map_map]
      refine congrArg List.sum (List.map_congr_left ?_)
      intro c hc
      rw [← himpulse c hc]
      rfl
    rw [Contact.velocityAt_respondEach params hbodies hindependent, ← hnet]
    exact Bodies.velocityAt_impel_eq _ spheres i

/-- Of two pairs the first one is thrown back with half of its speed, by either solver, and the
second one goes on as before. -/
theorem velocities_twoPairs :
    let params : SolverParameters ℝ := ⟨.direct, 50, 0, 0.5, 0.2⟩
    (∀ b ∈ Bodies.twoPairs, 0 < b.mass) ∧
    (∀ c ∈ Contact.ofTwoPairs,
      c.bodyA < c.bodyB ∧ c.bodyB < Bodies.twoPairs.length ∧ c.normal.lengthSq = 1) ∧
    Contact.Independent Contact.ofTwoPairs ∧ 0 ≤ params.restitution ∧
    ∀ iterations tolerance, (solve Bodies.twoPairs Contact.ofTwoPairs
        { params with iterations := iterations, tolerance := tolerance, correction := 0 }
        1).1.map (·.velocity) = [⟨-1 / 8, 0, 0⟩, ⟨3 / 8, 0, 0⟩, 0, ⟨0, 1, 0⟩] := by
  intro params
  have hrestitution : 0 ≤ params.restitution := by norm_num [params]
  refine ⟨Bodies.mass_pos_twoPairs, Contact.ofTwoPairs_valid, Contact.independent_ofTwoPairs,
    hrestitution, ?_⟩
  intro iterations tolerance
  rw [solve_agrees_respondEach Bodies.mass_pos_twoPairs Contact.ofTwoPairs_valid
    Contact.independent_ofTwoPairs params hrestitution]
  norm_num [params, Contact.respondEach, Contact.ofTwoPairs, Bodies.twoPairs, Contact.updateBodies,
    Contact.respond, Contact.separate, Contact.push, Contact.separation, Sphere.solid,
    Sphere.invMass, Vec3.dot, Vec3.ext_iff]

end Relaxation

end SphereBench
