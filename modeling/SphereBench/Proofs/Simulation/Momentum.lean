import SphereBench.Proofs.Exact.Vector
import SphereBench.Proofs.Contact.Bodies
import SphereBench.Proofs.Simulation.Calls
/-!
# Momentum and centre of mass

In exact arithmetic the spheres of a simulation move, as a whole, like a single body under gravity
and the pending forces. Contacts have no part in it: what a response gives to one sphere it takes
from the other, in both solvers.
-/

namespace SphereBench

/-- Sum of the forces that some calls put on a list of `n` spheres. -/
noncomputable def Call.load (n : Nat) : List (Call ℝ) → Vec3 ℝ
  | [] => 0
  | .push i force :: cs => (if i < n then force else 0) + load n cs
  | _ :: cs => load n cs

theorem Call.load_cons (n : Nat) (c : Call ℝ) (cs : List (Call ℝ)) :
    load n (c :: cs) = load n [c] + load n cs := by
  cases c <;> simp [load]

namespace Bodies
noncomputable section

/-- Sum of the masses. -/
def totalMass (spheres : List (Sphere ℝ)) : ℝ := (spheres.map (·.mass)).sum

/-- Sum of the linear momenta. -/
def momentum (spheres : List (Sphere ℝ)) : Vec3 ℝ := (spheres.map fun s => s.velocity * s.mass).sum

/-- Sum of the positions, weighted by mass; the centre of mass is this over the total mass. -/
def massMoment (spheres : List (Sphere ℝ)) : Vec3 ℝ :=
  (spheres.map fun s => s.position * s.mass).sum

/-- Sum of the forces that act during the next step. -/
def pendingForce (spheres : List (Sphere ℝ)) : Vec3 ℝ := (spheres.map (·.force)).sum

end

section modify
variable {change : Sphere ℝ → Sphere ℝ}

/-- A change of one sphere that keeps its mass does not show in the total mass. -/
theorem totalMass_modify (hmass : ∀ b, (change b).mass = b.mass) (spheres : List (Sphere ℝ))
    (i : Nat) : totalMass (spheres.modify i change) = totalMass spheres := by
  have h : ∀ b, (change b).mass = b.mass + 0 := by simpa using hmass
  rw [totalMass, Contact.sum_map_modify (·.mass) h, ite_self, add_zero]
  rfl

theorem momentum_modify (h : ∀ b, (change b).velocity * (change b).mass = b.velocity * b.mass)
    (spheres : List (Sphere ℝ)) (i : Nat) :
    momentum (spheres.modify i change) = momentum spheres := by
  have h' : ∀ b, (change b).velocity * (change b).mass = b.velocity * b.mass + 0 := by simpa using h
  rw [momentum, Contact.sum_map_modify (fun b => b.velocity * b.mass) h', ite_self, add_zero]
  rfl

/-- A load on one sphere is a load on all. -/
theorem pendingForce_modify {d : Vec3 ℝ} (h : ∀ b, (change b).force = b.force + d)
    (spheres : List (Sphere ℝ)) (i : Nat) :
    pendingForce (spheres.modify i change) =
      pendingForce spheres + if i < spheres.length then d else 0 :=
  Contact.sum_map_modify (·.force) h spheres i

end modify

/-- Newton's law for one sphere: its momentum changes by the impulse of its weight and of the
pending force. -/
theorem mass_mul_advance_velocity (gravity : Vec3 ℝ) (dt : ℝ) {s : Sphere ℝ} (hmass : 0 < s.mass) :
    (s.advance gravity dt).velocity * s.mass =
      s.velocity * s.mass + (gravity * s.mass + s.force) * dt := by
  rw [Sphere.advance_velocity]
  ext <;> simp only [Vec3.add_x, Vec3.add_y, Vec3.add_z, Vec3.mul_x, Vec3.mul_y, Vec3.mul_z,
    Vec3.div_x, Vec3.div_y, Vec3.div_z] <;> field_simp

/-- Free motion adds the impulse of gravity and of the pending forces. -/
theorem momentum_advance (gravity : Vec3 ℝ) (dt : ℝ) {spheres : List (Sphere ℝ)}
    (hmass : ∀ s ∈ spheres, 0 < s.mass) :
    momentum (spheres.map (Sphere.advance gravity dt)) =
      momentum spheres + (gravity * totalMass spheres + pendingForce spheres) * dt := by
  induction spheres with
  | nil => simp [momentum, totalMass, pendingForce, Vec3.mul_eq_smul]
  | cons s spheres ih =>
    have hhead := mass_mul_advance_velocity gravity dt (hmass s List.mem_cons_self)
    have htail := ih fun b hb => hmass b (List.mem_cons_of_mem s hb)
    simp only [momentum, totalMass, pendingForce, List.map_cons, List.sum_cons] at htail ⊢
    rw [htail, Sphere.advance_mass, hhead]
    simp only [Vec3.mul_eq_smul]
    module

/-- Free motion moves the centre of mass with the new momentum. -/
theorem massMoment_advance (gravity : Vec3 ℝ) (dt : ℝ) (spheres : List (Sphere ℝ)) :
    massMoment (spheres.map (Sphere.advance gravity dt)) =
      massMoment spheres + momentum (spheres.map (Sphere.advance gravity dt)) * dt := by
  induction spheres with
  | nil => simp [momentum, massMoment, Vec3.mul_eq_smul]
  | cons s spheres ih =>
    simp only [momentum, massMoment, List.map_cons, List.sum_cons] at ih ⊢
    rw [ih, Sphere.advance_position, Sphere.advance_mass]
    simp only [Vec3.mul_eq_smul]
    module

end Bodies

/-- A change of two spheres that keeps their masses and forces, and what the two together contribute
to the momentum and to the moment of mass. -/
structure Balanced (change : Sphere ℝ → Sphere ℝ → Sphere ℝ × Sphere ℝ) : Prop where
  massA : ∀ a b, (change a b).1.mass = a.mass
  massB : ∀ a b, (change a b).2.mass = b.mass
  forceA : ∀ a b, (change a b).1.force = a.force
  forceB : ∀ a b, (change a b).2.force = b.force
  momentum : ∀ a b, 0 < a.mass → 0 < b.mass →
    (change a b).1.velocity * a.mass + (change a b).2.velocity * b.mass =
      a.velocity * a.mass + b.velocity * b.mass
  moment : ∀ a b, 0 < a.mass → 0 < b.mass →
    (change a b).1.position * a.mass + (change a b).2.position * b.mass =
      a.position * a.mass + b.position * b.mass

/-- One balanced change after another is balanced. -/
theorem Balanced.comp {f g : Sphere ℝ → Sphere ℝ → Sphere ℝ × Sphere ℝ} (hf : Balanced f)
    (hg : Balanced g) : Balanced fun a b => g (f a b).1 (f a b).2 where
  massA a b := (hg.massA _ _).trans (hf.massA a b)
  massB a b := (hg.massB _ _).trans (hf.massB a b)
  forceA a b := (hg.forceA _ _).trans (hf.forceA a b)
  forceB a b := (hg.forceB _ _).trans (hf.forceB a b)
  momentum a b ha hb := by
    have h := hg.momentum (f a b).1 (f a b).2 (by rwa [hf.massA]) (by rwa [hf.massB])
    rw [hf.massA, hf.massB] at h
    rw [h, hf.momentum a b ha hb]
  moment a b ha hb := by
    have h := hg.moment (f a b).1 (f a b).2 (by rwa [hf.massA]) (by rwa [hf.massB])
    rw [hf.massA, hf.massB] at h
    rw [h, hf.moment a b ha hb]

/-- What is shared out by the reciprocals of the masses cancels in a weighted sum. -/
theorem weighted_exchange (v w p : Vec3 ℝ) {a b : Sphere ℝ} (ha : 0 < a.mass) (hb : 0 < b.mass) :
    (v - p * a.invMass) * a.mass + (w + p * b.invMass) * b.mass = v * a.mass + w * b.mass := by
  ext <;> simp only [Sphere.invMass, Vec3.add_x, Vec3.add_y, Vec3.add_z, Vec3.sub_x, Vec3.sub_y,
    Vec3.sub_z, Vec3.mul_x, Vec3.mul_y, Vec3.mul_z] <;> field_simp <;> ring

theorem balanced_kick (row : ContactRow ℝ) (applied : ℝ) : Balanced (row.kick applied) where
  massA _ _ := rfl
  massB _ _ := rfl
  forceA _ _ := rfl
  forceB _ _ := rfl
  momentum a b ha hb := by
    simp only [ContactRow.kick, Vec3.mul_mul]
    exact weighted_exchange a.velocity b.velocity (row.contact.normal * applied) ha hb
  moment _ _ _ _ := rfl

theorem balanced_push (c : Contact ℝ) (restitution : ℝ) : Balanced (c.push restitution) where
  massA a b := by simp only [Contact.push]; split <;> rfl
  massB a b := by simp only [Contact.push]; split <;> rfl
  forceA a b := by simp only [Contact.push]; split <;> rfl
  forceB a b := by simp only [Contact.push]; split <;> rfl
  momentum a b ha hb := by
    simp only [Contact.push]
    split
    · exact weighted_exchange a.velocity b.velocity _ ha hb
    · rfl
  moment a b _ _ := by simp only [Contact.push]; split <;> rfl

theorem balanced_separate (c : Contact ℝ) : Balanced c.separate where
  massA _ _ := rfl
  massB _ _ := rfl
  forceA _ _ := rfl
  forceB _ _ := rfl
  momentum _ _ _ _ := rfl
  moment a b ha hb := weighted_exchange a.position b.position _ ha hb

theorem balanced_respond (c : Contact ℝ) (restitution : ℝ) : Balanced (c.respond restitution) :=
  (balanced_push c restitution).comp (balanced_separate c)

/-- A balanced change keeps the masses positive. -/
theorem Balanced.mass_pos {change : Sphere ℝ → Sphere ℝ → Sphere ℝ × Sphere ℝ}
    (hc : Balanced change) {spheres : List (Sphere ℝ)} (h : ∀ s ∈ spheres, 0 < s.mass)
    (c : Contact ℝ) : ∀ s ∈ c.updateBodies spheres change, 0 < s.mass := by
  apply Contact.forall_mem_updateBodies h
  intro a b ha hb
  rw [hc.massA, hc.massB]
  exact ⟨ha, hb⟩

namespace Bodies

/-- Spheres with positive masses and the same sums as others. -/
structure SameTotals (before spheres : List (Sphere ℝ)) : Prop where
  mass_pos : ∀ s ∈ spheres, 0 < s.mass
  totalMass_eq : totalMass spheres = totalMass before
  momentum_eq : momentum spheres = momentum before
  massMoment_eq : massMoment spheres = massMoment before
  pendingForce_eq : pendingForce spheres = pendingForce before

theorem SameTotals.refl {spheres : List (Sphere ℝ)} (hmass : ∀ s ∈ spheres, 0 < s.mass) :
    SameTotals spheres spheres := ⟨hmass, rfl, rfl, rfl, rfl⟩

/-- A balanced change of the two bodies of a contact keeps the sums. -/
theorem SameTotals.updateBodies {before spheres : List (Sphere ℝ)} (h : SameTotals before spheres)
    {c : Contact ℝ} (hne : c.bodyA ≠ c.bodyB)
    {change : Sphere ℝ → Sphere ℝ → Sphere ℝ × Sphere ℝ} (hc : Balanced change) :
    SameTotals before (c.updateBodies spheres change) where
  mass_pos := hc.mass_pos h.mass_pos c
  totalMass_eq := by
    rw [← h.totalMass_eq]
    refine Contact.sum_updateBodies _ hne ?_
    intro a _ b _
    rw [hc.massA, hc.massB]
  momentum_eq := by
    rw [← h.momentum_eq]
    refine Contact.sum_updateBodies _ hne ?_
    intro a ha b hb
    rw [hc.massA, hc.massB]
    exact hc.momentum a b (h.mass_pos a ha) (h.mass_pos b hb)
  massMoment_eq := by
    rw [← h.massMoment_eq]
    refine Contact.sum_updateBodies _ hne ?_
    intro a ha b hb
    rw [hc.massA, hc.massB]
    exact hc.moment a b (h.mass_pos a ha) (h.mass_pos b hb)
  pendingForce_eq := by
    rw [← h.pendingForce_eq]
    refine Contact.sum_updateBodies _ hne ?_
    intro a _ b _
    rw [hc.forceA, hc.forceB]

/-- Whatever the contacts, their solution keeps the sums. -/
theorem sameTotals_solveContacts {spheres : List (Sphere ℝ)} (hmass : ∀ s ∈ spheres, 0 < s.mass)
    (params : SolverParameters ℝ) (dt : ℝ) :
    SameTotals spheres (Simulation.solveContacts params dt spheres).1 := by
  apply Simulation.solveContacts_induction params dt (SameTotals.refl hmass)
  · intro row applied spheres' hrow h
    exact h.updateBodies (Contact.bodyA_lt_bodyB hrow).ne (balanced_kick row applied)
  · intro c spheres' hc h
    exact h.updateBodies (Contact.bodyA_lt_bodyB hc).ne (balanced_respond c params.restitution)

end Bodies

namespace Simulation
open Bodies

variable {s t : Simulation ℝ}

/-- The contacts of a step take no part in the sums. -/
theorem sameTotals_advance (hmass : ∀ b ∈ s.spheres, 0 < b.mass) :
    SameTotals s.moved s.advance.spheres := by
  refine sameTotals_solveContacts ?_ s.params.solver s.params.dt
  intro b hb
  obtain ⟨a, ha, rfl⟩ := List.mem_map.mp hb
  exact hmass a ha

/-- A step keeps the total mass, gives the spheres as a whole the impulse of gravity and of the
pending forces, moves them with their new momentum, and leaves no force pending. -/
theorem totals_advance (hmass : ∀ b ∈ s.spheres, 0 < b.mass) :
    totalMass s.advance.spheres = totalMass s.spheres ∧
      momentum s.advance.spheres = momentum s.spheres +
        (s.params.gravity * totalMass s.spheres + pendingForce s.spheres) * s.params.dt ∧
      massMoment s.advance.spheres =
        massMoment s.spheres + momentum s.advance.spheres * s.params.dt ∧
      pendingForce s.advance.spheres = 0 := by
  have h := sameTotals_advance hmass
  refine ⟨h.totalMass_eq.trans ?_, h.momentum_eq.trans ?_, h.massMoment_eq.trans ?_,
    h.pendingForce_eq.trans ?_⟩
  · simp [totalMass, moved, Function.comp_def]
  · exact momentum_advance _ _ hmass
  · rw [h.momentum_eq]
    exact massMoment_advance _ _ _
  · simp [pendingForce, moved, Function.comp_def]

/-- A call keeps the masses positive. -/
theorem mass_pos_after (hmass : ∀ b ∈ s.spheres, 0 < b.mass) (c : Call ℝ) :
    ∀ b ∈ (s.after c).spheres, 0 < b.mass := by
  cases c with
  | push i force =>
    rw [after_push]
    refine Contact.forall_mem_modify hmass ?_ i
    intro b hb
    exact hb
  | twist i torque =>
    rw [after_twist]
    refine Contact.forall_mem_modify hmass ?_ i
    intro b hb
    exact hb
  | step =>
    rw [after_step]
    split
    · exact (sameTotals_advance hmass).mass_pos
    · exact hmass

theorem totalMass_after (hmass : ∀ b ∈ s.spheres, 0 < b.mass) (c : Call ℝ) :
    totalMass (s.after c).spheres = totalMass s.spheres := by
  cases c with
  | push i force => simp only [after_push, totalMass_modify, implies_true]
  | twist i torque => simp only [after_twist, totalMass_modify, implies_true]
  | step =>
    rw [after_step]
    split
    · exact (totals_advance hmass).1
    · rfl

/-- A step lets gravity and the pending forces act, any other call adds its load to what is
pending. -/
theorem momentum_after (hmass : ∀ b ∈ s.spheres, 0 < b.mass) (hdt : 0 < s.params.dt)
    (c : Call ℝ) :
    momentum (s.after c).spheres + pendingForce (s.after c).spheres * s.params.dt =
      momentum s.spheres + pendingForce s.spheres * s.params.dt +
        (s.params.gravity * ((Call.steps [c] : ℝ) * totalMass s.spheres) +
          Call.load s.spheres.length [c]) * s.params.dt := by
  cases c with
  | push i force =>
    simp only [after_push, momentum_modify, pendingForce_modify (d := force), implies_true,
      Call.steps, Call.load, Vec3.mul_eq_smul, Nat.cast_zero]
    module
  | twist i torque =>
    simp only [after_twist, momentum_modify, pendingForce_modify (d := 0), implies_true,
      add_zero, ite_self, Call.steps, Call.load, Vec3.mul_eq_smul, Nat.cast_zero]
    module
  | step =>
    rw [after_step_of_isPositiveFinite (by simpa using hdt)]
    by_cases hs : s.spheres = []
    · rw [if_pos hs]
      simp [hs, momentum, pendingForce, totalMass, Call.load, Vec3.mul_eq_smul]
    · obtain ⟨_, hmomentum, _, hpending⟩ := totals_advance hmass
      rw [if_neg hs, hmomentum, hpending]
      simp only [Call.steps, Call.load, Vec3.mul_eq_smul]
      push_cast
      module

/-- What every call keeps of the masses, a sequence of calls keeps. -/
theorem mass_perform (hmass : ∀ b ∈ s.spheres, 0 < b.mass) (calls : List (Call ℝ)) :
    (∀ b ∈ (s.perform calls).spheres, 0 < b.mass) ∧
      totalMass (s.perform calls).spheres = totalMass s.spheres := by
  refine perform_induction (P := fun t => (∀ b ∈ t.spheres, 0 < b.mass) ∧
    totalMass t.spheres = totalMass s.spheres) ?_ ⟨hmass, rfl⟩
  intro t c _ h
  obtain ⟨hmass', htotal⟩ := h
  exact ⟨mass_pos_after hmass' c, (totalMass_after hmass' c).trans htotal⟩

/-- Over any sequence of calls gravity acts once in every step, and each force that was added acts
once: what has not acted yet is still pending. -/
theorem momentum_perform (hmass : ∀ b ∈ s.spheres, 0 < b.mass) (hdt : 0 < s.params.dt)
    (calls : List (Call ℝ)) :
    momentum (s.perform calls).spheres + pendingForce (s.perform calls).spheres * s.params.dt =
      momentum s.spheres + pendingForce s.spheres * s.params.dt +
        (s.params.gravity * ((Call.steps calls : ℝ) * totalMass s.spheres) +
          Call.load s.spheres.length calls) * s.params.dt := by
  induction calls generalizing s with
  | nil =>
    simp only [perform_nil, Call.steps, Call.load, Vec3.mul_eq_smul, Nat.cast_zero]
    module
  | cons c cs ih =>
    have hhead := momentum_after hmass hdt c
    have htail := ih (mass_pos_after hmass c) (by rwa [params_after])
    rw [params_after, totalMass_after hmass, length_spheres_after, hhead] at htail
    rw [perform_cons, htail, Call.steps_cons c cs, Call.load_cons _ c cs]
    simp only [Vec3.mul_eq_smul]
    push_cast
    module

/-- At any point of a run, whatever contacts the next step meets, it gives the spheres as a whole
the impulse of gravity and of the pending forces, and moves their centre of mass with the new
momentum. The contacts themselves change neither sum. -/
theorem step_momentum {s t u : Simulation ℝ} {calls : List (Call ℝ)}
    (hmass : ∀ b ∈ s.spheres, 0 < b.mass) (ht : t = s.perform calls) (hstep : t.step = .ok u) :
    momentum u.spheres = momentum t.spheres +
        (s.params.gravity * totalMass t.spheres + pendingForce t.spheres) * s.params.dt ∧
      massMoment u.spheres = massMoment t.spheres + momentum u.spheres * s.params.dt ∧
      momentum u.spheres = momentum t.moved ∧ massMoment u.spheres = massMoment t.moved ∧
      totalMass t.spheres = totalMass s.spheres ∧ totalMass u.spheres = totalMass s.spheres := by
  subst ht
  obtain ⟨hmass', htotal⟩ := mass_perform hmass calls
  obtain ⟨_, _, rfl⟩ := step_eq_ok_iff.mp hstep
  obtain ⟨htotal', hmomentum, hmoment, _⟩ := totals_advance hmass'
  have hsame := sameTotals_advance hmass'
  rw [params_perform] at hmomentum hmoment
  exact ⟨hmomentum, hmoment, hsame.momentum_eq, hsame.massMoment_eq, htotal, htotal'.trans htotal⟩

/-- Two spheres that penetrate each other, of which the lighter one approaches the other. -/
noncomputable def unequalPair : Simulation ℝ where
  spheres :=
    [{ Sphere.solid "light" 0 1 1 with velocity := ⟨1, 0, 0⟩ }, .solid "heavy" ⟨1.5, 0, 0⟩ 1 3.0]
  params := { SimulationParameters.default with gravity := .alongZ (-1), dt := 0.5 }
  time := 0
  diagnostics := none

/-- After a push across the line of centres and a step, the momentum and the moment of mass of the
pair are those of free motion. -/
theorem momentum_unequalPair : (∀ b ∈ unequalPair.spheres, 0 < b.mass) ∧
    ∃ t u, t = unequalPair.perform [.push 0 ⟨0, 4, 0⟩] ∧ t.step = .ok u ∧
      momentum u.spheres = ⟨1, 2, -2⟩ ∧ massMoment u.spheres = ⟨5, 1, -1⟩ := by
  have hmass : ∀ b ∈ unequalPair.spheres, 0 < b.mass := by norm_num [unequalPair, Sphere.solid]
  obtain ⟨t, ht⟩ : ∃ t, t = unequalPair.perform [.push 0 ⟨0, 4, 0⟩] := ⟨_, rfl⟩
  have hstep : t.step = .ok t.advance := by
    rw [step_eq_ok_iff, ht, perform_cons, perform_nil, after_push]
    refine ⟨List.cons_ne_nil _ _, ?_, rfl⟩
    norm_num [unequalPair]
  obtain ⟨hmomentum, hmoment, _⟩ := step_momentum hmass ht hstep
  have hp : momentum t.advance.spheres = ⟨1, 2, -2⟩ := by
    rw [hmomentum, ht, perform_cons, perform_nil, after_push]
    ext <;> norm_num [unequalPair, momentum, totalMass, pendingForce, Sphere.solid]
  refine ⟨hmass, t, t.advance, ht, hstep, hp, ?_⟩
  rw [hmoment, hp, ht, perform_cons, perform_nil, after_push]
  ext <;> norm_num [unequalPair, massMoment, Sphere.solid]

end Simulation

end SphereBench
