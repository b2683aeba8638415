import SphereBench.Contact.Basic
import SphereBench.Solver.Basic
/-!
# The sequential solver

Every contact has a target for the velocity at which its spheres separate. A sweep visits the
contacts in order and changes the impulse of each so that its own target is met, but never so far
that the impulse would pull. Sweeps are repeated until the changes are small or the limit is
reached. There is no friction.

## Main definitions

* `ContactRow` — a contact with its target and its impulse so far.
* `Relaxation` — the spheres and rows between two changes.
* `Relaxation.relax`, `Relaxation.sweep`, `Relaxation.iterate` — a change, a sweep, all sweeps.
* `Relaxation.solve` — the spheres after the sweeps, and the report.
-/

namespace SphereBench

/-- A contact during the solution. -/
@[ext] structure ContactRow (K : Type) where
  contact : Contact K
  /-- The least separation to reach. -/
  target : K
  /-- The impulse given so far. -/
  impulse : K

/-- The state between two changes of impulse. -/
@[ext] structure Relaxation (K : Type) where
  spheres : List (Sphere K)
  /-- The contacts in the order in which they are visited. -/
  rows : List (ContactRow K)

variable {K : Type} [Scalar K]

/-- The separation that a contact has to reach: what takes out its share of the penetration in one
step, or what reverses its share of the approach, whichever is more. -/
@[specialize] def Contact.target (c : Contact K) (params : SolverParameters K) (dt : K)
    (spheres : List (Sphere K)) : K :=
  Scalar.maxNum (params.correction * c.depth / dt) (-params.restitution * c.normalVelocity spheres)

namespace ContactRow

/-- The impulse that meets the target of a row, or zero if that would pull. -/
@[inline] def proposed (r : ContactRow K) (a b : Sphere K) : K :=
  Scalar.maxNum
    (r.impulse + (r.target - r.contact.separation a b) / (a.invMass + b.invMass)) 0

/-- Two spheres after an impulse along the normal of a row. -/
@[inline] def kick (r : ContactRow K) (applied : K) (a b : Sphere K) : Sphere K × Sphere K :=
  ({ a with velocity := a.velocity - r.contact.normal * (applied * a.invMass) },
    { b with velocity := b.velocity + r.contact.normal * (applied * b.invMass) })

/-- By how much a row misses its condition: one that pushes has to meet its target exactly, another
one may only separate faster. -/
@[specialize] def violation (r : ContactRow K) (spheres : List (Sphere K)) : K :=
  let gap := r.contact.normalVelocity spheres - r.target
  if 0 < r.impulse then gap else Scalar.minNum gap 0

end ContactRow

namespace Relaxation

/-- The state before the first sweep. -/
@[specialize] def start (spheres : List (Sphere K)) (contacts : List (Contact K))
    (params : SolverParameters K) (dt : K) : Relaxation K :=
  ⟨spheres, contacts.map fun c => ⟨c, c.target params dt spheres, 0⟩⟩

/-- The state after the row with index `k` is brought to its target, and the change of its
impulse. -/
@[specialize] def relax (s : Relaxation K) (k : Nat) : Relaxation K × K :=
  match s.rows[k]? with
  | none => (s, 0)
  | some row =>
    match s.spheres[row.contact.bodyA]?, s.spheres[row.contact.bodyB]? with
    | some a, some b =>
      let impulse := row.proposed a b
      let applied := impulse - row.impulse
      (⟨row.contact.updateBodies s.spheres (row.kick applied),
        s.rows.set k { row with impulse := impulse }⟩, applied)
    | _, _ => (s, 0)

/-- The state after the rows with the given indices are relaxed in turn, and the sum of the squared
changes added to `sumSq`. -/
@[specialize] def relaxEach (s : Relaxation K) (sumSq : K) : List Nat → Relaxation K × K
  | [] => (s, sumSq)
  | k :: ks =>
    let (s', applied) := s.relax k
    s'.relaxEach (sumSq + applied * applied) ks

/-- Root of a sum of squares over the number of rows. -/
@[inline] def rootMean (s : Relaxation K) (sumSq : K) : K :=
  Scalar.sqrt (sumSq / (s.rows.length : K))

/-- The state after one sweep over all rows, and the root mean square of the changes. -/
@[specialize] def sweep (s : Relaxation K) : Relaxation K × K :=
  let (s', sumSq) := s.relaxEach 0 (List.range s.rows.length)
  (s', s.rootMean sumSq)

/-- Sweeps until the change is within the tolerance, at most `limit` of them. The result is the
last state, the change of the last sweep and the number of sweeps, counted on from `done`. -/
@[specialize] def iterate (tolerance : K) :
    (limit : Nat) → Relaxation K → (change : K) → (done : Nat) → Relaxation K × K × Nat
  | 0, s, change, done => (s, change, done)
  | limit + 1, s, _, done =>
    let (s', change) := s.sweep
    if change ≤ tolerance then (s', change, done + 1)
    else iterate tolerance limit s' change (done + 1)

/-- Root mean square by which the rows miss their conditions. -/
@[specialize] def residual (s : Relaxation K) : K :=
  s.rootMean <| Scalar.sum <| s.rows.map fun r =>
    let v := r.violation s.spheres
    v * v

end Relaxation

/-- The spheres after a sequential solution of their contacts, and the report on it. There is at
least one sweep if there is a contact. -/
@[specialize] def Relaxation.solve (spheres : List (Sphere K)) (contacts : List (Contact K))
    (params : SolverParameters K) (dt : K) : List (Sphere K) × Diagnostics K :=
  if contacts.isEmpty then (spheres, .idle)
  else
    let (s, change, iterations) :=
      Relaxation.iterate params.tolerance (max 1 params.iterations)
        (.start spheres contacts params dt) 0 0
    (s.spheres,
      { change := .ofParts change 0
        residual := .ofParts s.residual 0
        iterations := iterations
        contacts := contacts.length })

end SphereBench
