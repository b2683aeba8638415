import SphereBench.Proofs.Double.Order
import SphereBench.Proofs.Solver.Sweeps
/-!
# The early exit of the sweeps

A sequential solution stops sweeping as soon as a sweep changes little enough. What it returns and
what it reports belong to one and the same sweep: the first one within the tolerance, or the last
one allowed where there is none. A tolerance or a change that is not a number is within nothing, and
then every allowed sweep is made. Because the state before a sweep does not depend on how many more
there may be, a solution that stopped early has the same result under any larger limit. All this
holds with any scalars.
-/

namespace SphereBench
variable {K : Type} [Scalar K]

/-- The root of the mean of the squares of some values. The squares are added up in the order of the
values, beginning with `first`, which is a zero of either sign. -/
def Scalar.rootMeanSquare (first : K) (xs : List K) : K :=
  Scalar.sqrt (xs.foldl (fun sum x => sum + x * x) first / (xs.length : K))

namespace Relaxation

/-- The numbers of sweeps, up to a limit, of which the last one changes the impulses by no more than
the tolerance. -/
def endings (s : Relaxation K) (tolerance : K) (limit : Nat) : Set Nat :=
  {k | 1 ≤ k ∧ k ≤ limit ∧ s.change (k - 1) ≤ tolerance}

theorem mem_endings {s : Relaxation K} {tolerance : K} {limit n : Nat} :
    n + 1 ∈ s.endings tolerance limit ↔ n < limit ∧ s.change n ≤ tolerance := by
  simp only [endings, Set.mem_ofPred_eq, Nat.add_sub_cancel, Nat.succ_le_iff, n.succ_pos, true_and]

/-- The number of sweeps of a solution: the least one at which it may stop early, or else the
limit. -/
theorem exists_isLeast_endings (spheres : List (Sphere K)) {contacts : List (Contact K)}
    (hcontacts : contacts ≠ []) (params : SolverParameters K) (dt : K) :
    let s := start spheres contacts params dt
    let limit := max 1 params.iterations
    ∃ n, solve spheres contacts params dt =
        ((s.sweeps (n + 1)).spheres,
          { change := .ofParts (s.change n) 0
            residual := .ofParts (s.sweeps (n + 1)).residual 0
            iterations := n + 1
            contacts := contacts.length }) ∧
      (IsLeast (s.endings params.tolerance limit) (n + 1) ∨
        s.endings params.tolerance limit = ∅ ∧ n + 1 = limit) := by
  intro s limit
  obtain ⟨n, hn, heq, hbefore, hend⟩ := exists_solve_eq_sweeps spheres hcontacts params dt
  refine ⟨n, heq, ?_⟩
  have hleast : ∀ k ∈ s.endings params.tolerance limit, n + 1 ≤ k := by
    rintro k ⟨hk, -, hchange⟩
    by_contra hlt
    exact hbefore (k - 1) (by omega) hchange
  by_cases hchange : s.change n ≤ params.tolerance
  · exact .inl ⟨mem_endings.mpr ⟨hn, hchange⟩, hleast⟩
  · -- Then this sweep is the last one allowed, and no earlier one has been within the tolerance.
    have hlast : n + 1 = limit := by
      by_contra hne
      exact hchange (hend (lt_of_le_of_ne hn hne))
    refine .inr ⟨Set.eq_empty_iff_forall_notMem.mpr ?_, hlast⟩
    intro k hk
    have hkn : k = n + 1 := le_antisymm (hlast ▸ hk.2.1) (hleast k hk)
    subst hkn
    exact hchange (mem_endings.mp hk).2

end Relaxation

end SphereBench
