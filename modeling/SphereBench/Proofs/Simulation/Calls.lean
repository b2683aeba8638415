import SphereBench.Proofs.Contact.Bodies
import SphereBench.Proofs.Contact.Detection
import SphereBench.Proofs.Solver.Induction
import SphereBench.Simulation.Step
/-!
# Calls on a simulation

A user of a simulation acts on its spheres and steps it, in any order, and may go on after a call
that was refused. What one call does is said once, by an equation for each kind; a property of
states that every call keeps then holds after any number of them. Nothing here depends on the
scalars.

## Main definitions

* `Call`, `Simulation.call` — a call and its outcome.
* `Simulation.after`, `Simulation.perform` — the state after a call, and after several.
* `Simulation.moved`, `Simulation.contacts` — the two halves of a step before its solution.
-/

namespace SphereBench

/-- A call on a simulation. -/
inductive Call (K : Type) where
  /-- A force on a sphere during the next step. -/
  | push (i : Nat) (force : Vec3 K)
  /-- A torque on a sphere during the next step. -/
  | twist (i : Nat) (torque : Vec3 K)
  | step

/-- The number of steps in a sequence of calls. -/
def Call.steps {K : Type} : List (Call K) → Nat
  | [] => 0
  | .step :: cs => steps cs + 1
  | _ :: cs => steps cs

theorem Call.steps_cons {K : Type} (c : Call K) (cs : List (Call K)) :
    steps (c :: cs) = steps [c] + steps cs := by
  cases c <;> simp [steps, Nat.add_comm]

theorem Call.steps_append {K : Type} (cs ds : List (Call K)) :
    steps (cs ++ ds) = steps cs + steps ds := by
  induction cs with
  | nil => simp [steps]
  | cons c cs ih =>
    rw [List.cons_append, steps_cons, steps_cons c cs, ih]
    omega

@[simp] theorem Call.steps_replicate {K : Type} (n : Nat) :
    steps (List.replicate n (.step : Call K)) = n := by
  induction n with
  | zero => rfl
  | succ n ih => simp [List.replicate_succ, steps, ih]

variable {K : Type} [Scalar K]

namespace Simulation

/-- A call, which may be refused. -/
def call (s : Simulation K) : Call K → Except (SimulationError K) (Simulation K)
  | .push i force => s.push i force
  | .twist i torque => s.twist i torque
  | .step => s.step

/-- The state after a call. A refused call leaves the state as it was. -/
def after (s : Simulation K) (c : Call K) : Simulation K :=
  match s.call c with
  | .ok t => t
  | .error _ => s

/-- The state after several calls. -/
def perform (s : Simulation K) (calls : List (Call K)) : Simulation K := calls.foldl after s

@[simp] theorem perform_nil (s : Simulation K) : s.perform [] = s := rfl

@[simp] theorem perform_cons (s : Simulation K) (c : Call K) (cs : List (Call K)) :
    s.perform (c :: cs) = (s.after c).perform cs := rfl

theorem perform_append (s : Simulation K) (cs ds : List (Call K)) :
    s.perform (cs ++ ds) = (s.perform cs).perform ds := List.foldl_append

/-- The spheres as a step moves them, before it looks for contacts. -/
def moved (s : Simulation K) : List (Sphere K) :=
  s.spheres.map (Sphere.advance s.params.gravity s.params.dt)

/-- The contacts that a step finds. -/
def contacts (s : Simulation K) : List (Contact K) := Contact.detect s.moved

theorem advance_spheres (s : Simulation K) :
    s.advance.spheres = (solveContacts s.params.solver s.params.dt s.moved).1 := rfl

theorem advance_diagnostics (s : Simulation K) :
    s.advance.diagnostics = (solveContacts s.params.solver s.params.dt s.moved).2 := rfl

@[simp] theorem advance_params (s : Simulation K) : s.advance.params = s.params := rfl
@[simp] theorem advance_time (s : Simulation K) : s.advance.time = s.time + s.params.dt := rfl

omit [Scalar K] in
/-- A change of a sphere is refused exactly if there is none with the index. -/
theorem modify_eq (s : Simulation K) (i : Nat) (change : Sphere K → Sphere K) :
    s.modify i change =
      if i < s.spheres.length then .ok { s with spheres := s.spheres.modify i change }
      else .error (.indexOutOfRange i) := by
  by_cases hi : i < s.spheres.length
  · have hset : s.spheres.set i (change s.spheres[i]) = s.spheres.modify i change := by
      apply List.ext_getElem (by simp)
      intro j _ _
      rw [List.getElem_set, List.getElem_modify]
      split
      · rename_i hij
        subst hij
        rfl
      · rfl
    simp only [modify, sphere, List.getElem?_eq_getElem hi, Except.map, hset, if_pos hi]
  · simp only [modify, sphere, List.getElem?_eq_none (Nat.le_of_not_lt hi), Except.map, if_neg hi]

/-- A change of a sphere that does not exist is refused, and the state stays as it was. -/
theorem after_of_modify {s : Simulation K} {c : Call K} {i : Nat} {change : Sphere K → Sphere K}
    (h : s.call c = s.modify i change) :
    s.after c = { s with spheres := s.spheres.modify i change } := by
  simp only [after, h, modify_eq]
  by_cases hi : i < s.spheres.length
  · simp only [if_pos hi]
  · simp only [if_neg hi, List.modify_eq_self (Nat.le_of_not_lt hi)]

theorem after_push (s : Simulation K) (i : Nat) (force : Vec3 K) :
    s.after (.push i force) =
      { s with spheres := s.spheres.modify i fun b => { b with force := b.force + force } } :=
  after_of_modify rfl

theorem after_twist (s : Simulation K) (i : Nat) (torque : Vec3 K) :
    s.after (.twist i torque) =
      { s with spheres := s.spheres.modify i fun b => { b with torque := b.torque + torque } } :=
  after_of_modify rfl

/-- A step that passes its check is made. -/
theorem step_of_ok {s : Simulation K} {u : Unit} (h : s.checkStep = .ok u) :
    s.step = .ok s.advance := by
  rw [step, h, Except.map]

theorem step_of_error {s : Simulation K} {e : SimulationError K} (h : s.checkStep = .error e) :
    s.step = .error e := by
  rw [step, h, Except.map]

theorem after_step_of_ok {s : Simulation K} {u : Unit} (h : s.checkStep = .ok u) :
    s.after .step = s.advance := by
  simp only [after, call, step_of_ok h]

theorem after_step_of_error {s : Simulation K} {e : SimulationError K}
    (h : s.checkStep = .error e) : s.after .step = s := by
  simp only [after, call, step_of_error h]

/-- A step is accepted if there is a sphere and the time step is positive and finite. -/
theorem step_eq_ok_iff {s t : Simulation K} :
    s.step = .ok t ↔ s.spheres ≠ [] ∧ Scalar.isPositiveFinite s.params.dt ∧ t = s.advance := by
  simp only [step, checkStep]
  cases hs : s.spheres with
  | nil => simp [Except.map]
  | cons b bs =>
    cases hdt : Scalar.isPositiveFinite s.params.dt with
    | false => simp [Except.map]
    | true => simp [Except.map, eq_comm]

theorem after_step (s : Simulation K) :
    s.after .step =
      if s.spheres ≠ [] ∧ Scalar.isPositiveFinite s.params.dt then s.advance else s := by
  simp only [after, call]
  cases hstep : s.step with
  | ok t =>
    obtain ⟨hs, hdt, rfl⟩ := step_eq_ok_iff.mp hstep
    rw [if_pos ⟨hs, hdt⟩]
  | error e =>
    rw [if_neg]
    intro h
    rw [step_eq_ok_iff.mpr ⟨h.1, h.2, rfl⟩] at hstep
    cases hstep

/-- With a good time step, only a simulation without spheres refuses to step. -/
theorem after_step_of_isPositiveFinite {s : Simulation K}
    (hdt : Scalar.isPositiveFinite s.params.dt) :
    s.after .step = if s.spheres = [] then s else s.advance := by
  rw [after_step]
  by_cases hs : s.spheres = []
  · rw [if_pos hs, if_neg fun h => h.1 hs]
  · rw [if_neg hs, if_pos ⟨hs, hdt⟩]

/-- What each of several calls keeps, all of them keep. -/
theorem perform_induction {P : Simulation K → Prop} {calls : List (Call K)}
    (keep : ∀ s, ∀ c ∈ calls, P s → P (s.after c)) {s : Simulation K} (h : P s) :
    P (s.perform calls) := by
  induction calls generalizing s with
  | nil => exact h
  | cons c cs ih =>
    exact ih (fun s d hd => keep s d (List.mem_cons_of_mem c hd)) (keep s c List.mem_cons_self h)

/-- A run is a sequence of steps. It stops at a step that is refused, and so would be all further
ones. -/
theorem run_snd (s : Simulation K) (n : Nat) :
    (s.run n).2 = s.perform (List.replicate n .step) := by
  induction n generalizing s with
  | zero => rfl
  | succ n ih =>
    rw [List.replicate_succ, perform_cons, run]
    cases hstep : s.step with
    | error e =>
      have hsame : s.after .step = s := by simp only [after, call, hstep]
      rw [hsame]
      refine (perform_induction (P := (· = s)) ?_ rfl).symm
      intro t c hc ht
      rw [ht, List.eq_of_mem_replicate hc, hsame]
    | ok s' =>
      have hafter : s.after .step = s' := by simp only [after, call, hstep]
      rw [hafter]
      exact ih s'

/-- What both responses to each of the contacts keep, the solution of a step keeps. -/
theorem solveContacts_induction {P : List (Sphere K) → Prop} {spheres : List (Sphere K)}
    (params : SolverParameters K) (dt : K) (h : P spheres)
    (kick : ∀ (row : ContactRow K) (applied : K) (spheres' : List (Sphere K)),
      row.contact ∈ Contact.detect spheres → P spheres' →
        P (row.contact.updateBodies spheres' (row.kick applied)))
    (respond : ∀ (c : Contact K) (spheres' : List (Sphere K)), c ∈ Contact.detect spheres →
      P spheres' → P (c.updateBodies spheres' (c.respond params.restitution))) :
    P (solveContacts params dt spheres).1 := by
  simp only [solveContacts]
  cases params.kind with
  | sequential => exact Relaxation.solve_induction params dt h kick
  | direct => exact Contact.respondEach_induction params h respond

/-- The solution of a step changes nothing of the spheres but positions and velocities. -/
theorem map_solveContacts {α : Type} (g : Sphere K → α)
    (hg : ∀ b p v, g { b with position := p, velocity := v } = g b) (params : SolverParameters K)
    (dt : K) (spheres : List (Sphere K)) :
    (solveContacts params dt spheres).1.map g = spheres.map g := by
  simp only [solveContacts]
  cases params.kind with
  | sequential => exact Relaxation.map_solve g (fun b v => hg b b.position v) spheres _ params dt
  | direct => exact Contact.map_respondEach g hg spheres _ params

/-- Spheres without contacts stay as they are. -/
theorem solveContacts_of_no_contact {spheres : List (Sphere K)}
    (h : Contact.detect spheres = []) (params : SolverParameters K) (dt : K) :
    (solveContacts params dt spheres).1 = spheres := by
  apply solveContacts_induction (P := fun l => l = spheres) params dt rfl
  · intro row applied l hrow _
    rw [h] at hrow
    cases hrow
  · intro c l hc _
    rw [h] at hc
    cases hc

/-- A step moves a sphere freely, and its contacts change no more than position and velocity. -/
theorem getElem?_advance {s : Simulation K} {i : Nat} {b : Sphere K} (hb : s.spheres[i]? = some b) :
    ∃ p v, s.advance.spheres[i]? =
      some { b.advance s.params.gravity s.params.dt with position := p, velocity := v } := by
  have hframe := map_solveContacts (fun b => { b with position := 0, velocity := 0 })
    (fun _ _ _ => rfl) s.params.solver s.params.dt s.moved
  rw [← advance_spheres] at hframe
  have hi := congrArg (·[i]?) hframe
  simp only [moved, List.getElem?_map, hb, Option.map_some, Option.map_eq_some_iff] at hi
  obtain ⟨b', hb', heq⟩ := hi
  refine ⟨b'.position, b'.velocity, ?_⟩
  rw [hb', Option.some.injEq]
  simp only [Sphere.mk.injEq] at heq
  obtain ⟨hname, _, horientation, _, hrest⟩ := heq
  exact Sphere.ext_iff.mpr ⟨hname, rfl, horientation, rfl, hrest⟩

/-- No call adds or removes a sphere. -/
@[simp] theorem length_spheres_after (s : Simulation K) (c : Call K) :
    (s.after c).spheres.length = s.spheres.length := by
  cases c with
  | push i force => simp [after_push]
  | twist i torque => simp [after_twist]
  | step =>
    rw [after_step]
    split
    · rw [advance_spheres]
      apply solveContacts_induction (P := fun l => l.length = s.spheres.length)
      · simp [moved]
      · intro row applied spheres _ h
        simpa using h
      · intro c spheres _ h
        simpa using h
    · rfl

@[simp] theorem params_after (s : Simulation K) (c : Call K) : (s.after c).params = s.params := by
  cases c with
  | push i force => rw [after_push]
  | twist i torque => rw [after_twist]
  | step =>
    rw [after_step]
    split
    · rfl
    · rfl

@[simp] theorem params_perform (s : Simulation K) (calls : List (Call K)) :
    (s.perform calls).params = s.params :=
  perform_induction (P := fun t => t.params = s.params)
    (fun t c _ ht => (params_after t c).trans ht) rfl

/-- What one step needs is the same before and after any call. -/
theorem checkStep_after (s : Simulation K) (c : Call K) :
    (s.after c).checkStep = s.checkStep := by
  simp only [checkStep, params_after, List.isEmpty_iff_length_eq_zero, length_spheres_after]

/-- A step that is made leaves the next one possible. -/
theorem checkStep_advance {s : Simulation K} {u : Unit} (h : s.checkStep = .ok u) :
    s.advance.checkStep = .ok u := by
  rw [← after_step_of_ok h, checkStep_after, h]

/-- A run fails at its first step or not at all. -/
theorem run_fst (s : Simulation K) (n : Nat) :
    (s.run n).1 = if n = 0 then .ok () else s.checkStep := by
  induction n generalizing s with
  | zero => rfl
  | succ n ih =>
    rw [if_neg (Nat.succ_ne_zero n)]
    cases hcheck : s.checkStep with
    | error e => simp only [run, step_of_error hcheck]
    | ok u =>
      simp only [run, step_of_ok hcheck, ih, checkStep_advance hcheck]
      split
      · rfl
      · rfl

end Simulation

end SphereBench
