import SphereBench.Proofs.Contact.Bodies
import SphereBench.Proofs.Contact.Detection
import SphereBench.Proofs.Outcome
import SphereBench.Proofs.Solver.Sweeps
/-!
# Guarded access

The solvers look up spheres, targets and impulses by index, and where there is nothing at an index
they go on without it. A program with mutable arrays stops there. Here is the contact handling once
more with a guard at each access: two bodies to be changed together are to be given in order, the
list is cut in front of the second one, and every index has to be that of a member. Targets and
impulses are lists of their own, next to that of the contacts. No guard ever stops it, as long as
the contacts are those of a detection, and it has the result of the contact handling without guards.
Nothing here depends on the scalars.

## Main definitions

* `Fault` — what a guard reports.
* `Guarded.member`, `Guarded.replace`, `Guarded.pair` — guarded access.
* `Guarded.detect`, `Guarded.solve`, `Guarded.respondEach` — guarded contact handling.
-/

namespace SphereBench

/-- Why a guard does not give access. -/
inductive Fault where
  /-- There is no member with the index. -/
  | outside (index length : Nat)
  /-- The first one of two bodies does not come first. -/
  | unordered (first second : Nat)

namespace Guarded

section Access
variable {α : Type}

/-- The member with an index. -/
def member (xs : List α) (i : Nat) : Except Fault α :=
  match xs[i]? with
  | some x => .ok x
  | none => .error (.outside i xs.length)

/-- The list with another member at an index. -/
def replace (xs : List α) (i : Nat) (x : α) : Except Fault (List α) :=
  if i < xs.length then .ok (xs.set i x) else .error (.outside i xs.length)

/-- Two members to be changed together. The list is cut in front of the second one, which is then
the first member behind the cut. -/
def pair (xs : List α) (i j : Nat) : Except Fault (α × α) :=
  if i < j then
    if j ≤ xs.length then do
      let a ← member (xs.take j) i
      let b ← member (xs.drop j) 0
      return (a, b)
    else .error (.outside j xs.length)
  else .error (.unordered i j)

variable {xs : List α} {i j : Nat} {a b : α}

theorem member_eq_ok_iff : member xs i = .ok a ↔ xs[i]? = some a := by
  rw [member]
  cases xs[i]? with
  | none => simp
  | some x => simp

theorem member_eq (h : xs[i]? = some a) : member xs i = .ok a := member_eq_ok_iff.mpr h

theorem replace_eq (h : xs[i]? = some a) (x : α) : replace xs i x = .ok (xs.set i x) :=
  if_pos (List.getElem?_eq_some_iff.mp h).1

/-- Two members are given exactly if they are there and come in order. -/
theorem pair_eq_ok_iff :
    pair xs i j = .ok (a, b) ↔ i < j ∧ xs[i]? = some a ∧ xs[j]? = some b := by
  constructor
  · intro h
    rw [pair] at h
    split at h
    · rename_i hij
      split at h
      · obtain ⟨a', ha, h⟩ := bind_eq_ok_iff.mp h
        obtain ⟨b', hb, h⟩ := bind_eq_ok_iff.mp h
        cases h
        rw [member_eq_ok_iff, List.getElem?_take_of_lt hij] at ha
        rw [member_eq_ok_iff, List.getElem?_drop, Nat.add_zero] at hb
        exact ⟨hij, ha, hb⟩
      · cases h
    · cases h
  · rintro ⟨hij, ha, hb⟩
    have hlength := (List.getElem?_eq_some_iff.mp hb).1
    have hfirst : (xs.take j)[i]? = some a := by rw [List.getElem?_take_of_lt hij, ha]
    have hsecond : (xs.drop j)[0]? = some b := by rw [List.getElem?_drop, Nat.add_zero, hb]
    rw [pair, if_pos hij, if_pos hlength.le, member_eq hfirst, member_eq hsecond]
    rfl

end Access

variable {K : Type} [Scalar K]

/-! ### Detection -/

/-- The contact of a candidate, with a guard at its two spheres. -/
def contact? (spheres : List (Sphere K)) (p : Nat × Nat) : Except Fault (Option (Contact K)) := do
  let a ← member spheres p.1
  let b ← member spheres p.2
  return Contact.between? p.1 a p.2 b

/-- All contacts. -/
def detect (spheres : List (Sphere K)) : Except Fault (List (Contact K)) := do
  let found ← (Contact.candidates spheres).mapM (contact? spheres)
  return found.filterMap id

theorem detect_eq (spheres : List (Sphere K)) : detect spheres = .ok (Contact.detect spheres) := by
  have hfound : (Contact.candidates spheres).mapM (contact? spheres) =
      .ok ((Contact.candidates spheres).map fun p => Contact.at? spheres p.1 p.2) := by
    rw [mapM_eq_ok_iff, List.map_map]
    refine List.map_congr_left ?_
    intro p hp
    obtain ⟨-, a, b, ha, hb, -⟩ := Contact.mem_candidates.mp hp
    rw [contact?, member_eq ha, member_eq hb, Function.comp_apply, Contact.at?, ha, hb]
    rfl
  have hfilter : ((Contact.candidates spheres).map fun p => Contact.at? spheres p.1 p.2).filterMap
      id = Contact.detect spheres := List.filterMap_map
  rw [detect, hfound, ← hfilter]
  rfl

/-! ### The direct solver -/

/-- Two spheres changed together. -/
def change (c : Contact K) (spheres : List (Sphere K))
    (change : Sphere K → Sphere K → Sphere K × Sphere K) : Except Fault (List (Sphere K)) := do
  let (a, b) ← pair spheres c.bodyA c.bodyB
  return (spheres.set c.bodyA (change a b).1).set c.bodyB (change a b).2

/-- The response to each contact, in order. -/
def respondEach (restitution : K) :
    List (Sphere K) → List (Contact K) → Except Fault (List (Sphere K))
  | spheres, [] => .ok spheres
  | spheres, c :: contacts => do
    let spheres' ← change c spheres (c.respond restitution)
    respondEach restitution spheres' contacts

/-- The bodies of each contact are in the list, the first one first. -/
def Ordered (contacts : List (Contact K)) (spheres : List (Sphere K)) : Prop :=
  ∀ c ∈ contacts, c.bodyA < c.bodyB ∧ c.bodyB < spheres.length

variable {spheres spheres' : List (Sphere K)} {contacts : List (Contact K)} {c : Contact K}

omit [Scalar K] in
theorem Ordered.of_length (h : Ordered contacts spheres)
    (hlength : spheres'.length = spheres.length) : Ordered contacts spheres' := by
  intro c hc
  rw [hlength]
  exact h c hc

omit [Scalar K] in
theorem Ordered.exists_bodies (h : Ordered contacts spheres) (hc : c ∈ contacts) :
    ∃ a b, spheres[c.bodyA]? = some a ∧ spheres[c.bodyB]? = some b ∧
      pair spheres c.bodyA c.bodyB = .ok (a, b) := by
  obtain ⟨hAB, hB⟩ := h c hc
  have ha := List.getElem?_eq_getElem (hAB.trans hB)
  have hb := List.getElem?_eq_getElem hB
  exact ⟨_, _, ha, hb, pair_eq_ok_iff.mpr ⟨hAB, ha, hb⟩⟩

theorem ordered_detect (spheres : List (Sphere K)) : Ordered (Contact.detect spheres) spheres := by
  intro c hc
  obtain ⟨i, j, a, b, hij, -, hb, -, hbetween⟩ := Contact.mem_detect.mp hc
  obtain ⟨rfl, rfl⟩ := Prod.mk.inj (Contact.bodies_of_between? hbetween)
  exact ⟨hij, (List.getElem?_eq_some_iff.mp hb).1⟩

omit [Scalar K] in
theorem change_eq (h : Ordered contacts spheres) (hc : c ∈ contacts)
    (f : Sphere K → Sphere K → Sphere K × Sphere K) :
    change c spheres f = .ok (c.updateBodies spheres f) := by
  obtain ⟨a, b, ha, hb, hpair⟩ := h.exists_bodies hc
  simp only [change, hpair, Contact.updateBodies, ha, hb]
  rfl

/-- No guard stops the direct solver. -/
theorem respondEach_eq (h : Ordered contacts spheres) (params : SolverParameters K) :
    respondEach params.restitution spheres contacts =
      .ok (Contact.respondEach spheres contacts params) := by
  induction contacts generalizing spheres with
  | nil => rfl
  | cons c contacts ih =>
    have htail : Ordered contacts
        (c.updateBodies spheres (c.respond params.restitution)) :=
      Ordered.of_length (fun d hd => h d (List.mem_cons_of_mem c hd))
        (Contact.length_updateBodies c spheres _)
    rw [respondEach, change_eq h List.mem_cons_self]
    exact ih htail

/-! ### The sequential solver -/

/-- The state between two changes of impulse. -/
structure State (K : Type) where
  spheres : List (Sphere K)
  /-- The impulses so far, one for each contact. -/
  impulses : List K

/-- The separation of the two spheres of a contact. -/
def separation (c : Contact K) (spheres : List (Sphere K)) : Except Fault K := do
  let b ← member spheres c.bodyB
  let a ← member spheres c.bodyA
  return c.separation a b

/-- The separation that a contact has to reach. -/
def target (params : SolverParameters K) (dt : K) (spheres : List (Sphere K)) (c : Contact K) :
    Except Fault K := do
  let approach ← separation c spheres
  return Scalar.maxNum (params.correction * c.depth / dt) (-params.restitution * approach)

/-- One change of impulse, of the contact with index `k`. -/
def relax (targets : List K) (s : State K) (c : Contact K) (k : Nat) :
    Except Fault (State K × K) := do
  let (a, b) ← pair s.spheres c.bodyA c.bodyB
  let impulse ← member s.impulses k
  let target ← member targets k
  let row : ContactRow K := ⟨c, target, impulse⟩
  let applied := row.proposed a b - impulse
  let impulses ← replace s.impulses k (row.proposed a b)
  return (⟨(s.spheres.set c.bodyA (row.kick applied a b).1).set c.bodyB (row.kick applied a b).2,
    impulses⟩, applied)

/-- A change of impulse of each of the contacts, which come with their indices. -/
def relaxEach (targets : List K) :
    State K → (sumSq : K) → List (Contact K × Nat) → Except Fault (State K × K)
  | s, sumSq, [] => .ok (s, sumSq)
  | s, sumSq, (c, k) :: rest => do
    let (s', applied) ← relax targets s c k
    relaxEach targets s' (sumSq + applied * applied) rest

/-- Sweeps until the change is within the tolerance, at most `limit` of them. -/
def iterate (contacts : List (Contact K)) (targets : List K) (tolerance : K) :
    (limit : Nat) → State K → (change : K) → (done : Nat) → Except Fault (State K × K × Nat)
  | 0, s, change, done => .ok (s, change, done)
  | limit + 1, s, _, done => do
    let (s', sumSq) ← relaxEach targets s 0 contacts.zipIdx
    let change := Scalar.sqrt (sumSq / (contacts.length : K))
    if change ≤ tolerance then return (s', change, done + 1)
    else iterate contacts targets tolerance limit s' change (done + 1)

/-- By how much a contact with its target and its impulse misses its condition. -/
def violation (spheres : List (Sphere K)) (p : (Contact K × K) × K) : Except Fault K := do
  let speed ← separation p.1.1 spheres
  let gap := speed - p.1.2
  return if 0 < p.2 then gap else Scalar.minNum gap 0

/-- Root mean square by which the contacts miss their conditions. -/
def residual (contacts : List (Contact K)) (targets : List K) (s : State K) : Except Fault K := do
  let violations ← ((contacts.zip targets).zip s.impulses).mapM (violation s.spheres)
  return Scalar.sqrt (Scalar.sum (violations.map fun v => v * v) / (contacts.length : K))

/-- The spheres after a sequential solution of their contacts, and the report on it. -/
def solve (spheres : List (Sphere K)) (contacts : List (Contact K)) (params : SolverParameters K)
    (dt : K) : Except Fault (List (Sphere K) × Diagnostics K) :=
  if contacts.isEmpty then .ok (spheres, .idle)
  else do
    let targets ← contacts.mapM (target params dt spheres)
    let (s, change, iterations) ←
      iterate contacts targets params.tolerance (max 1 params.iterations)
        ⟨spheres, List.replicate contacts.length 0⟩ 0 0
    let residual ← residual contacts targets s
    return (s.spheres,
      { change := .ofParts change 0
        residual := .ofParts residual 0
        iterations := iterations
        contacts := contacts.length })

/-- What the guarded solver holds of a state. -/
def State.ofRelaxation (s : Relaxation K) : State K := ⟨s.spheres, s.rows.map (·.impulse)⟩

/-- A state whose rows have the given contacts and targets, and whose spheres are all there. -/
structure Fits (contacts : List (Contact K)) (targets : List K) (s : Relaxation K) : Prop where
  contacts_eq : s.rows.map (·.contact) = contacts
  targets_eq : s.rows.map (·.target) = targets
  ordered : Ordered contacts s.spheres

variable {targets : List K} {s : Relaxation K} {k : Nat} {row : ContactRow K}

theorem separation_eq (h : Ordered contacts spheres) (hc : c ∈ contacts) :
    separation c spheres = .ok (c.normalVelocity spheres) := by
  obtain ⟨a, b, ha, hb, -⟩ := h.exists_bodies hc
  rw [separation, member_eq hb, member_eq ha, Contact.normalVelocity_eq_separation ha hb]
  rfl

theorem target_eq (h : Ordered contacts spheres) (hc : c ∈ contacts) (params : SolverParameters K)
    (dt : K) : target params dt spheres c = .ok (c.target params dt spheres) := by
  rw [target, separation_eq h hc]
  rfl

namespace Fits

omit [Scalar K] in
theorem length_rows (h : Fits contacts targets s) : s.rows.length = contacts.length := by
  rw [← h.contacts_eq, List.length_map]

omit [Scalar K] in
theorem exists_row (h : Fits contacts targets s) (hc : contacts[k]? = some c) :
    ∃ row, s.rows[k]? = some row ∧ row.contact = c := by
  rw [← h.contacts_eq, List.getElem?_map] at hc
  exact Option.map_eq_some_iff.mp hc

/-- A change of impulse leaves contacts and targets alone. -/
theorem relax (h : Fits contacts targets s) (k : Nat) : Fits contacts targets (s.relax k).1 := by
  rcases Relaxation.relax_cases s k with heq | ⟨row, a, b, hrow, -, -, heq⟩
  · rw [heq]
    exact h
  · rw [heq]
    refine ⟨?_, ?_, ?_⟩
    · rw [← h.contacts_eq]
      exact Contact.map_set_of_eq _ hrow rfl
    · rw [← h.targets_eq]
      exact Contact.map_set_of_eq _ hrow rfl
    · refine h.ordered.of_length ?_
      rw [Contact.length_updateBodies]

/-- No guard stops a change of impulse. -/
theorem relax_eq (h : Fits contacts targets s) (hc : contacts[k]? = some c) :
    Guarded.relax targets (.ofRelaxation s) c k =
      .ok (.ofRelaxation (s.relax k).1, (s.relax k).2) := by
  obtain ⟨row, hrow, rfl⟩ := h.exists_row hc
  obtain ⟨a, b, ha, hb, hpair⟩ := h.ordered.exists_bodies (List.mem_of_getElem? hc)
  have himpulse : (s.rows.map (·.impulse))[k]? = some row.impulse := by
    rw [List.getElem?_map, hrow, Option.map_some]
  have htarget : targets[k]? = some row.target := by
    rw [← h.targets_eq, List.getElem?_map, hrow, Option.map_some]
  have hreplace := replace_eq himpulse (row.proposed a b)
  simp only [Guarded.relax, State.ofRelaxation, hpair, member_eq himpulse, member_eq htarget,
    Relaxation.relax, hrow, ha, hb, Contact.updateBodies, List.map_set]
  simp only [bind, Except.bind, hreplace]
  rfl

/-- No guard stops a number of changes, and after them the state still fits. -/
theorem relaxEach_eq (h : Fits contacts targets s) (sumSq : K) (ps : List (Contact K × Nat))
    (hps : ∀ p ∈ ps, contacts[p.2]? = some p.1) :
    Guarded.relaxEach targets (.ofRelaxation s) sumSq ps =
        .ok (.ofRelaxation (s.relaxEach sumSq (ps.map Prod.snd)).1,
          (s.relaxEach sumSq (ps.map Prod.snd)).2) ∧
      Fits contacts targets (s.relaxEach sumSq (ps.map Prod.snd)).1 := by
  induction ps generalizing s sumSq with
  | nil => exact ⟨rfl, h⟩
  | cons p ps ih =>
    obtain ⟨c, k⟩ := p
    have htail := ih (h.relax k) (sumSq + (s.relax k).2 * (s.relax k).2)
      fun p hp => hps p (List.mem_cons_of_mem _ hp)
    rw [Guarded.relaxEach, h.relax_eq (hps _ List.mem_cons_self)]
    exact htail

/-- No guard stops a sweep. -/
theorem sweep_eq (h : Fits contacts targets s) :
    Guarded.relaxEach targets (.ofRelaxation s) 0 contacts.zipIdx =
        .ok (.ofRelaxation s.sweep.1, s.sumSquares s.rows.length) ∧
      Fits contacts targets s.sweep.1 := by
  have hindices : contacts.zipIdx.map Prod.snd = List.range s.rows.length := by
    rw [List.zipIdx_map_snd, h.length_rows, List.range_eq_range']
  have hsweep := h.relaxEach_eq 0 contacts.zipIdx fun p hp => List.mem_zipIdx_iff_getElem?.mp hp
  rw [hindices] at hsweep
  exact hsweep

/-- No guard stops the sweeps. -/
theorem iterate_eq (h : Fits contacts targets s) (tolerance : K) (limit : Nat) (change : K)
    (done : Nat) :
    let result := Relaxation.iterate tolerance limit s change done
    Guarded.iterate contacts targets tolerance limit (.ofRelaxation s) change done =
        .ok (.ofRelaxation result.1, result.2) ∧ Fits contacts targets result.1 := by
  induction limit generalizing s change done with
  | zero => exact ⟨rfl, h⟩
  | succ limit ih =>
    obtain ⟨hsweep, hfits⟩ := h.sweep_eq
    have hchange :
        Scalar.sqrt (s.sumSquares s.rows.length / (contacts.length : K)) = s.sweep.2 := by
      rw [← h.length_rows]
      rfl
    simp only [Guarded.iterate, hsweep, Relaxation.iterate_succ, bind, Except.bind, hchange]
    by_cases hle : s.sweep.2 ≤ tolerance
    · rw [if_pos hle, if_pos hle]
      exact ⟨rfl, hfits⟩
    · rw [if_neg hle, if_neg hle]
      exact ih hfits _ _

/-- No guard stops the measurement of the residual. -/
theorem residual_eq (h : Fits contacts targets s) :
    Guarded.residual contacts targets (.ofRelaxation s) = .ok s.residual := by
  have hzip : (contacts.zip targets).zip (State.ofRelaxation s).impulses =
      s.rows.map fun r => ((r.contact, r.target), r.impulse) := by
    rw [← h.contacts_eq, ← h.targets_eq, State.ofRelaxation, List.zip_map', List.zip_map']
  have hviolations : (s.rows.map fun r => ((r.contact, r.target), r.impulse)).mapM
      (violation (State.ofRelaxation s).spheres) = .ok (s.rows.map (·.violation s.spheres)) := by
    rw [mapM_eq_ok_iff, List.map_map, List.map_map]
    refine List.map_congr_left ?_
    intro r hr
    have hc : r.contact ∈ contacts := h.contacts_eq ▸ List.mem_map_of_mem hr
    rw [Function.comp_apply, violation, State.ofRelaxation, separation_eq h.ordered hc]
    rfl
  have hsquares : (s.rows.map (·.violation s.spheres)).map (fun v => v * v) =
      s.rows.map fun r => r.violation s.spheres * r.violation s.spheres := List.map_map
  rw [Guarded.residual, hzip, hviolations, Relaxation.residual, ← hsquares, Relaxation.rootMean,
    h.length_rows]
  rfl

end Fits

/-- No guard stops the sequential solver. -/
theorem solve_eq (h : Ordered contacts spheres) (params : SolverParameters K) (dt : K) :
    solve spheres contacts params dt = .ok (Relaxation.solve spheres contacts params dt) := by
  by_cases hempty : contacts.isEmpty
  · rw [solve, if_pos hempty, Relaxation.solve, if_pos hempty]
  · have htargets : contacts.mapM (target params dt spheres) =
        .ok (contacts.map fun c => c.target params dt spheres) := by
      rw [mapM_eq_ok_iff, List.map_map]
      exact List.map_congr_left fun c hc => target_eq h hc params dt
    have hstart : Fits contacts (contacts.map fun c => c.target params dt spheres)
        (.start spheres contacts params dt) := by
      refine ⟨?_, ?_, h⟩
      · simp [Relaxation.start, Function.comp_def]
      · simp [Relaxation.start]
    have hstate : (⟨spheres, List.replicate contacts.length 0⟩ : State K) =
        .ofRelaxation (.start spheres contacts params dt) := by
      simp [State.ofRelaxation, Relaxation.start, Function.comp_def]
    obtain ⟨hiterate, hfits⟩ := hstart.iterate_eq params.tolerance (max 1 params.iterations) 0 0
    rw [solve, if_neg hempty, htargets, hstate, Relaxation.solve, if_neg hempty]
    simp only [bind, Except.bind, hiterate, hfits.residual_eq]
    rfl

end Guarded

end SphereBench
