import Mathlib.Logic.Function.Iterate
import SphereBench.Proofs.Simulation.Calls
/-!
# Runs are all or nothing

A step is refused for want of spheres or of a good time step, and no step brings either of them
about: it keeps the number of spheres and the parameters, whatever the spheres hold. A run is
therefore refused at its start or not at all, although it looks at every step. Nothing here depends
on the scalars.
-/

namespace SphereBench.Simulation
variable {K : Type} [Scalar K]

/-- Several steps as a whole, each made on the state that the one before it has returned. -/
def stepped (s : Simulation K) (n : ℕ) : Except (SimulationError K) (Simulation K) :=
  (fun result => result.bind step)^[n] (.ok s)

variable {s : Simulation K}

theorem stepped_succ (n : ℕ) : s.stepped (n + 1) = (s.stepped n).bind step :=
  Function.iterate_succ_apply' _ n _

/-- A step is refused for want of spheres before its length is looked at. -/
theorem checkStep_eq (s : Simulation K) :
    s.checkStep =
      if s.spheres = [] then .error .noSpheres
      else if Scalar.isFinite s.params.dt ∧ 0 < s.params.dt then .ok ()
      else .error (.invalidTimeStep s.params.dt) := by
  simp only [checkStep, List.isEmpty_iff, Scalar.isPositiveFinite, Bool.and_eq_true,
    decide_eq_true_eq]

/-- A first step that is possible leaves all further ones possible. -/
theorem checkStep_iterate_advance {u : Unit} (h : s.checkStep = .ok u) (n : ℕ) :
    (advance^[n] s).checkStep = .ok u := by
  induction n with
  | zero => exact h
  | succ n ih =>
    rw [Function.iterate_succ_apply']
    exact checkStep_advance ih

theorem stepped_of_ok {u : Unit} (h : s.checkStep = .ok u) (n : ℕ) :
    s.stepped n = .ok (advance^[n] s) := by
  induction n with
  | zero => rfl
  | succ n ih =>
    rw [stepped_succ, ih, Function.iterate_succ_apply']
    exact step_of_ok (checkStep_iterate_advance h n)

theorem stepped_succ_of_error {e : SimulationError K} (h : s.checkStep = .error e) (n : ℕ) :
    s.stepped (n + 1) = .error e := by
  induction n with
  | zero => exact step_of_error h
  | succ n ih =>
    rw [stepped_succ, ih]
    rfl

theorem run_of_ok {u : Unit} (h : s.checkStep = .ok u) (n : ℕ) :
    s.run n = (.ok (), advance^[n] s) := by
  induction n generalizing s with
  | zero => rfl
  | succ n ih =>
    simp only [run, step_of_ok h]
    exact ih (checkStep_advance h)

theorem run_succ_of_error {e : SimulationError K} (h : s.checkStep = .error e) (n : ℕ) :
    s.run (n + 1) = (.error e, s) := by
  simp only [run, step_of_error h]

theorem params_run (s : Simulation K) (n : ℕ) : (s.run n).2.params = s.params := by
  rw [run_snd, params_perform]

theorem length_spheres_perform (s : Simulation K) (calls : List (Call K)) :
    (s.perform calls).spheres.length = s.spheres.length := by
  refine perform_induction (P := fun t => t.spheres.length = s.spheres.length) ?_ rfl
  intro t c _ ht
  exact (length_spheres_after t c).trans ht

theorem length_spheres_run (s : Simulation K) (n : ℕ) :
    (s.run n).2.spheres.length = s.spheres.length := by
  rw [run_snd, length_spheres_perform]

/-- A run, which stops at the first step that is refused, ends as if its steps were one. -/
theorem run_eq_stepped (s : Simulation K) (n : ℕ) :
    s.run n =
      match s.stepped n with
      | .ok t => (.ok (), t)
      | .error e => (.error e, s) := by
  cases n with
  | zero => rfl
  | succ n =>
    cases hcheck : s.checkStep with
    | ok u => rw [run_of_ok hcheck, stepped_of_ok hcheck]
    | error e => rw [run_succ_of_error hcheck, stepped_succ_of_error hcheck]

/-- A run takes all its steps or none. It fails exactly if there is a step to take and either no
sphere, whatever the time step is, or a time step that is not positive and finite; the whole state
is then what it was. All along a run the parameters and the number of spheres stay what they
were. -/
theorem run_all_or_nothing (s : Simulation K) (n : ℕ) :
    (s.run n =
      match s.stepped n with
      | .ok t => (.ok (), t)
      | .error e => (.error e, s)) ∧
    ((s.run n).1 = .ok () ↔
      n = 0 ∨ s.spheres ≠ [] ∧ Scalar.isFinite s.params.dt ∧ 0 < s.params.dt) ∧
    ((s.run n).1 = .error .noSpheres ↔ n ≠ 0 ∧ s.spheres = []) ∧
    ((s.run n).1 = .error (.invalidTimeStep s.params.dt) ↔
      n ≠ 0 ∧ s.spheres ≠ [] ∧ ¬ (Scalar.isFinite s.params.dt ∧ 0 < s.params.dt)) ∧
    (s.run n).2.params = s.params ∧ (s.run n).2.spheres.length = s.spheres.length := by
  refine ⟨run_eq_stepped s n, ?_, ?_, ?_, params_run s n, length_spheres_run s n⟩
  all_goals
    rw [run_fst, checkStep_eq]
    by_cases hn : n = 0
    · simp [hn]
    · by_cases hs : s.spheres = []
      · simp [hn, hs]
      · by_cases hdt : Scalar.isFinite s.params.dt ∧ 0 < s.params.dt
        · simp [hn, hs, hdt]
        · simp [hn, hs, hdt]

end SphereBench.Simulation
