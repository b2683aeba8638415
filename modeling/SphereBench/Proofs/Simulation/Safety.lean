import Mathlib.Data.Sym.Sym2
import SphereBench.Proofs.Contact.Located
import SphereBench.Proofs.Simulation.Calls
import SphereBench.Proofs.Solver.Guarded
/-!
# Safety of a step

A step looks up spheres by the indices of its contacts. These come from its own detection, which
reports pairs in order and within the list whatever the comparisons of its numbers come out as, so
that no access ever fails. In double precision it also reports no sphere without a place, so that no
contact comes from a comparison with a value that is not a number.
-/

namespace SphereBench

namespace Guarded

variable {K : Type} [Scalar K]

/-- The contacts of some spheres resolved by the solver of the parameters. -/
def solveContacts (params : SolverParameters K) (dt : K) (spheres : List (Sphere K)) :
    Except Fault (List (Sphere K) × Option (Diagnostics K)) := do
  let contacts ← detect spheres
  match params.kind with
  | .sequential =>
    let (spheres, report) ← solve spheres contacts params dt
    return (spheres, some report)
  | .direct =>
    let spheres ← respondEach params.restitution spheres contacts
    return (spheres, none)

/-- A step that is possible. -/
def advance (s : Simulation K) : Except Fault (Simulation K) := do
  let (spheres, report) ← solveContacts s.params.solver s.params.dt s.moved
  return { s with spheres := spheres, time := s.time + s.params.dt, diagnostics := report }

/-- A step, which may be refused, with a guard at each access. -/
def step (s : Simulation K) : Except Fault (Except (SimulationError K) (Simulation K)) :=
  match s.checkStep with
  | .error e => return .error e
  | .ok _ => do
    let t ← advance s
    return .ok t

theorem solveContacts_eq (params : SolverParameters K) (dt : K) (spheres : List (Sphere K)) :
    solveContacts params dt spheres = .ok (Simulation.solveContacts params dt spheres) := by
  have hordered := ordered_detect spheres
  simp only [solveContacts, detect_eq, Simulation.solveContacts, bind, Except.bind]
  cases params.kind with
  | sequential =>
    simp only [solve_eq hordered]
    rfl
  | direct =>
    simp only [respondEach_eq hordered]
    rfl

/-- No guard stops a step. -/
theorem step_eq (s : Simulation K) : step s = .ok s.step := by
  have hadvance : advance s = .ok s.advance := by
    rw [advance, solveContacts_eq]
    rfl
  rw [step]
  cases hcheck : s.checkStep with
  | error e =>
    rw [Simulation.step_of_error hcheck]
    rfl
  | ok u =>
    rw [Simulation.step_of_ok hcheck]
    simp only [hadvance]
    rfl

end Guarded

/-- No two spheres have two contacts with each other, in whichever order they are named. -/
theorem Contact.nodup_unordered {K : Type} [Scalar K] (spheres : List (Sphere K)) :
    ((detect spheres).map fun c => s(c.bodyA, c.bodyB)).Nodup := by
  rw [List.Nodup, List.pairwise_map]
  refine (pairwise_detect spheres).imp_of_mem ?_
  intro c d hc hd hlex hsame
  have hcAB := bodyA_lt_bodyB hc
  have hdAB := bodyA_lt_bodyB hd
  simp only [bodies, Prod.lex_def] at hlex
  rcases Sym2.eq_iff.mp hsame with ⟨hA, hB⟩ | ⟨hA, hB⟩
  · omega
  · omega

/-- **Safety of contact handling.** Whatever doubles are in the fields of the spheres, the contacts
found among them come in the strictly increasing order of their indices, with the smaller index
first and both of them in range, and so no two spheres are paired twice. No body of a contact has a
position or a radius that is not a number, although the second phase alone reports every pair with
such a sphere. From any state a step, be it made or refused, has all its accesses in range and all
its pairs in order. -/
theorem Simulation.contacts_safe (spheres : List (Sphere Float)) (s : Simulation Float) :
    ((Contact.detect spheres).Pairwise fun c d =>
      c.bodyA < d.bodyA ∨ c.bodyA = d.bodyA ∧ c.bodyB < d.bodyB) ∧
    (∀ c ∈ Contact.detect spheres, c.bodyA < c.bodyB ∧ c.bodyB < spheres.length) ∧
    ((Contact.detect spheres).map fun c => s(c.bodyA, c.bodyB)).Nodup ∧
    (∀ c ∈ Contact.detect spheres, ∀ b,
      spheres[c.bodyA]? = some b ∨ spheres[c.bodyB]? = some b → b.IsLocated) ∧
    (∀ i a j b, ¬ (a.IsLocated ∧ b.IsLocated) → (Contact.between? i a j b).isSome) ∧
    Guarded.detect spheres = .ok (Contact.detect spheres) ∧
    Guarded.step s = .ok s.step := by
  refine ⟨?_, Guarded.ordered_detect spheres, Contact.nodup_unordered spheres, ?_, ?_,
    Guarded.detect_eq spheres, Guarded.step_eq s⟩
  · refine (Contact.pairwise_detect spheres).imp ?_
    intro c d h
    simpa only [Contact.bodies, Prod.lex_def] using h
  · intro c hc b hb
    obtain ⟨a', b', ha', hb', hlocatedA, hlocatedB⟩ := Contact.isLocated_of_mem_detect hc
    rcases hb with hb | hb
    · cases ha'.symm.trans hb
      exact hlocatedA
    · cases hb'.symm.trans hb
      exact hlocatedB
  · intro i a j b h
    exact Contact.isSome_between?_of_not_isLocated h i j

/-- Two spheres that penetrate each other, and one whose position has been lost. -/
def Simulation.withLost : Simulation Float :=
  { empty with
    spheres :=
      [.solid "a" ⟨0, 0, 0⟩ 1 1, .solid "b" ⟨1.5, 0, 0⟩ 1 1, .solid "lost" ⟨0 / 0, 0, 0⟩ 1 1] }

/-- The lost sphere touches both others if only the second phase is asked, but it has no contact,
and a step is made without a fault. -/
theorem Simulation.contacts_withLost :
    (∃ c ∈ Contact.detect withLost.spheres, c.bodyA = 0 ∧ c.bodyB = 1 ∧
      ∀ b, withLost.spheres[0]? = some b → b.IsLocated) ∧
    (∀ a b, withLost.spheres[0]? = some a → withLost.spheres[2]? = some b →
      (Contact.between? 0 a 2 b).isSome) ∧
    (∀ c ∈ Contact.detect withLost.spheres, c.bodyA ≠ 2 ∧ c.bodyB ≠ 2) ∧
    ∃ t, Guarded.step withLost = .ok (.ok t) := by
  obtain ⟨-, -, -, hlocated, hreported, -, hstep⟩ := contacts_safe withLost.spheres withLost
  have hlost : ∀ b, withLost.spheres[2]? = some b → ¬ b.IsLocated := by
    intro b hb
    cases hb
    exact Sphere.not_isLocated_iff.mpr (.inl (.inl (by decide)))
  refine ⟨?_, ?_, ?_, ?_⟩
  · have hbodies : (Contact.detect withLost.spheres).map Contact.bodies = [(0, 1)] := by
      decide +kernel
    obtain ⟨c, hc, hcbodies⟩ := List.mem_map.mp (hbodies ▸ List.mem_singleton_self (0, 1))
    obtain ⟨hA, hB⟩ := Prod.mk.inj hcbodies
    exact ⟨c, hc, hA, hB, fun b hb => hlocated c hc b (.inl (hA ▸ hb))⟩
  · intro a b _ hb
    exact hreported 0 a 2 b fun h => hlost b hb h.2
  · intro c hc
    constructor
    · intro hA
      exact hlost _ rfl (hlocated c hc _ (.inl (by rw [hA]; rfl)))
    · intro hB
      exact hlost _ rfl (hlocated c hc _ (.inr (by rw [hB]; rfl)))
  · have hcheck : withLost.checkStep = .ok () := by
      rw [checkStep, if_neg (by decide), if_pos (by decide)]
    exact ⟨_, by rw [hstep, step_of_ok hcheck]⟩

end SphereBench
