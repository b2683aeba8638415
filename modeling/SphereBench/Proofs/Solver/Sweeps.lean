import SphereBench.Proofs.Solver.Induction
/-!
# Sweeps of a sequential solution

A sequential solution makes sweeps until one of them changes little enough, or until the limit is
reached. Its result is therefore that of a number of full sweeps, and the number is the one that it
reports. Within a sweep the rows are relaxed one after the other. Nothing here depends on the
scalars.

## Main definitions

* `Relaxation.sweeps`, `Relaxation.change` — the state after a number of sweeps, and the change that
  the next one makes.
* `Relaxation.partway`, `Relaxation.applied` — the state after the first rows of a sweep, and the
  change of impulse that the next row makes.
* `Relaxation.impulses` — the impulses that the rows have given so far.
-/

namespace SphereBench.Relaxation
variable {K : Type} [Scalar K]

/-- The state after a number of sweeps over all rows, however small their changes are. -/
def sweeps (s : Relaxation K) : Nat → Relaxation K
  | 0 => s
  | n + 1 => (s.sweeps n).sweep.1

/-- The root mean square of the changes of impulse in the sweep with index `n`. -/
def change (s : Relaxation K) (n : Nat) : K := (s.sweeps n).sweep.2

/-- The state after the first `k` rows of a sweep. -/
def partway (s : Relaxation K) (k : Nat) : Relaxation K := (s.relaxEach 0 (List.range k)).1

/-- The change of impulse of the row with index `k` in a sweep. -/
def applied (s : Relaxation K) (k : Nat) : K := ((s.partway k).relax k).2

/-- The sum of the squared changes of impulse of the first `k` rows in a sweep. -/
def sumSquares (s : Relaxation K) (k : Nat) : K := (s.relaxEach 0 (List.range k)).2

/-- The impulse so far of each row. -/
def impulses (s : Relaxation K) : List K := s.rows.map (·.impulse)

@[simp] theorem sweeps_zero (s : Relaxation K) : s.sweeps 0 = s := rfl

theorem sweeps_succ (s : Relaxation K) (n : Nat) : s.sweeps (n + 1) = (s.sweeps n).sweep.1 := rfl

/-- The first sweep may be counted apart. -/
theorem sweeps_sweep (s : Relaxation K) (n : Nat) : s.sweep.1.sweeps n = s.sweeps (n + 1) := by
  induction n with
  | zero => rfl
  | succ n ih => rw [sweeps_succ, ih, sweeps_succ s (n + 1)]

theorem relaxEach_append (s : Relaxation K) (sumSq : K) (ks js : List Nat) :
    s.relaxEach sumSq (ks ++ js) =
      (s.relaxEach sumSq ks).1.relaxEach (s.relaxEach sumSq ks).2 js := by
  induction ks generalizing s sumSq with
  | nil => rfl
  | cons k ks ih => exact ih _ _

@[simp] theorem partway_zero (s : Relaxation K) : s.partway 0 = s := rfl
@[simp] theorem sumSquares_zero (s : Relaxation K) : s.sumSquares 0 = 0 := rfl

theorem partway_succ (s : Relaxation K) (k : Nat) :
    s.partway (k + 1) = ((s.partway k).relax k).1 := by
  rw [partway, List.range_succ, relaxEach_append]
  rfl

theorem sumSquares_succ (s : Relaxation K) (k : Nat) :
    s.sumSquares (k + 1) = s.sumSquares k + s.applied k * s.applied k := by
  rw [sumSquares, List.range_succ, relaxEach_append]
  rfl

/-- A sweep is all of its rows. -/
theorem sweep_eq (s : Relaxation K) :
    s.sweep = (s.partway s.rows.length, s.rootMean (s.sumSquares s.rows.length)) := rfl

section Induction
variable {P : Relaxation K → Prop} (step : ∀ s k, P s → P (s.relax k).1) {s : Relaxation K}
include step

/-- What every change of impulse keeps, holds partway through a sweep. -/
theorem partway_induction (h : P s) (k : Nat) : P (s.partway k) := relaxEach_induction step h 0 _

/-- What every change of impulse keeps, holds after any number of sweeps. -/
theorem sweeps_induction (h : P s) (n : Nat) : P (s.sweeps n) := by
  induction n with
  | zero => exact h
  | succ n ih => exact partway_induction step ih _

end Induction

/-- Relaxing leaves the contacts of the rows as they are. -/
theorem map_contact_relax (s : Relaxation K) (k : Nat) :
    (s.relax k).1.rows.map (·.contact) = s.rows.map (·.contact) := by
  rcases relax_cases s k with heq | ⟨row, a, b, hrow, -, -, heq⟩
  · rw [heq]
  · rw [heq]
    exact Contact.map_set_of_eq _ hrow rfl

theorem map_contact_sweeps (s : Relaxation K) (n : Nat) :
    (s.sweeps n).rows.map (·.contact) = s.rows.map (·.contact) :=
  sweeps_induction (P := fun t => t.rows.map (·.contact) = s.rows.map (·.contact))
    (fun t k h => (t.map_contact_relax k).trans h) rfl n

theorem length_rows_sweeps (s : Relaxation K) (n : Nat) :
    (s.sweeps n).rows.length = s.rows.length := by
  simpa using congrArg List.length (s.map_contact_sweeps n)

/-- All that one change of impulse does if the bodies of the row are there. -/
theorem relax_eq {s : Relaxation K} {k : Nat} {row : ContactRow K} {a b : Sphere K}
    (hrow : s.rows[k]? = some row) (ha : s.spheres[row.contact.bodyA]? = some a)
    (hb : s.spheres[row.contact.bodyB]? = some b) :
    s.relax k =
      (⟨row.contact.updateBodies s.spheres (row.kick (row.proposed a b - row.impulse)),
        s.rows.set k { row with impulse := row.proposed a b }⟩,
      row.proposed a b - row.impulse) := by
  simp only [relax, hrow, ha, hb]

theorem getElem?_rows_relax_of_ne (s : Relaxation K) {j k : Nat} (h : j ≠ k) :
    (s.relax k).1.rows[j]? = s.rows[j]? := by
  rcases relax_cases s k with heq | ⟨row, a, b, -, -, -, heq⟩
  · rw [heq]
  · rw [heq, List.getElem?_set_ne h.symm]

/-- In a sweep each row is touched only when its turn comes. -/
theorem getElem?_rows_partway (s : Relaxation K) (k j : Nat) :
    (s.partway k).rows[j]? =
      if j < k then ((s.partway j).relax j).1.rows[j]? else s.rows[j]? := by
  induction k with
  | zero => rfl
  | succ k ih =>
    rw [partway_succ]
    by_cases hj : j = k
    · rw [hj, if_pos k.lt_succ_self]
    · have hlt : j < k + 1 ↔ j < k := by omega
      rw [getElem?_rows_relax_of_ne _ hj, ih]
      simp only [hlt]

/-- The loop ends with the first sweep whose change is within the tolerance, or else with the last
one. -/
theorem exists_iterate_eq (tolerance : K) (limit : Nat) (s : Relaxation K) (c : K) (done : Nat) :
    ∃ n ≤ limit, iterate tolerance (limit + 1) s c done =
        (s.sweeps (n + 1), s.change n, done + (n + 1)) ∧
      (∀ m < n, ¬ s.change m ≤ tolerance) ∧ (n < limit → s.change n ≤ tolerance) := by
  induction limit generalizing s c done with
  | zero =>
    refine ⟨0, Nat.le_refl 0, ?_, fun m hm => absurd hm m.not_lt_zero, fun h => absurd h (by simp)⟩
    rw [iterate_succ]
    split <;> rfl
  | succ limit ih =>
    rw [iterate_succ]
    by_cases hchange : s.sweep.2 ≤ tolerance
    · rw [if_pos hchange]
      exact ⟨0, Nat.zero_le _, rfl, fun m hm => absurd hm m.not_lt_zero, fun _ => hchange⟩
    · -- The remaining sweeps start from the state after the first one.
      rw [if_neg hchange]
      obtain ⟨n, hn, heq, hbefore, hend⟩ := ih s.sweep.1 s.sweep.2 (done + 1)
      have hshift (m : Nat) : s.sweep.1.change m = s.change (m + 1) := by
        rw [change, sweeps_sweep, change]
      refine ⟨n + 1, Nat.succ_le_succ hn, ?_, ?_, ?_⟩
      · have hcount : done + 1 + (n + 1) = done + (n + 1 + 1) := by omega
        rw [heq, sweeps_sweep, hshift, hcount]
      · intro m hm
        cases m with
        | zero => exact hchange
        | succ m =>
          rw [← hshift]
          exact hbefore m (Nat.lt_of_succ_lt_succ hm)
      · intro hlt
        rw [← hshift]
        exact hend (Nat.lt_of_succ_lt_succ hlt)

/-- The result and the report of a solution with contacts are those of a number of sweeps, which is
the number reported: the least after which the change is within the tolerance, or else the limit. -/
theorem exists_solve_eq_sweeps (spheres : List (Sphere K)) {contacts : List (Contact K)}
    (hcontacts : contacts ≠ []) (params : SolverParameters K) (dt : K) :
    let s := start spheres contacts params dt
    ∃ n, n + 1 ≤ max 1 params.iterations ∧
      solve spheres contacts params dt =
        ((s.sweeps (n + 1)).spheres,
          { change := .ofParts (s.change n) 0
            residual := .ofParts (s.sweeps (n + 1)).residual 0
            iterations := n + 1
            contacts := contacts.length }) ∧
      (∀ m < n, ¬ s.change m ≤ params.tolerance) ∧
      (n + 1 < max 1 params.iterations → s.change n ≤ params.tolerance) := by
  intro s
  obtain ⟨limit, hlimit⟩ : ∃ limit, max 1 params.iterations = limit + 1 :=
    Nat.exists_eq_add_one.mpr (by omega)
  obtain ⟨n, hn, heq, hbefore, hend⟩ := exists_iterate_eq params.tolerance limit s 0 0
  refine ⟨n, by omega, ?_, hbefore, fun hlt => hend (by omega)⟩
  rw [solve, if_neg (by simpa using hcontacts), hlimit, heq, Nat.zero_add]

/-- The spheres are left as the reported number of sweeps leaves them. -/
theorem solve_fst_eq_sweeps (spheres : List (Sphere K)) (contacts : List (Contact K))
    (params : SolverParameters K) (dt : K) :
    (solve spheres contacts params dt).1 =
      ((start spheres contacts params dt).sweeps
        (solve spheres contacts params dt).2.iterations).spheres := by
  by_cases hcontacts : contacts = []
  · subst hcontacts
    rfl
  · obtain ⟨n, -, heq, -⟩ := exists_solve_eq_sweeps spheres hcontacts params dt
    rw [heq]

end SphereBench.Relaxation
