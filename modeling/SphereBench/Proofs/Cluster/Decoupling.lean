import SphereBench.Proofs.Exact.Vector
import SphereBench.Proofs.Contact.AllPairs
import SphereBench.Proofs.Cluster.Members
import SphereBench.Proofs.Simulation.Run
/-!
# Clusters that are decoupled

A cluster of spheres that no contact connects to the others moves as if it were alone: whatever the
others do, its spheres end with the same numbers bit for bit. With the sequential solver the
contacts of all spheres share their sweeps, so that there the members must not be in contact at all.
-/

namespace SphereBench
variable {K : Type} [Scalar K] (A : ℕ → Prop) [DecidablePred A]

omit [Scalar K] in
/-- What a call is to a cluster. A force or a torque on another sphere is nothing to it. -/
def Call.within : Call K → Option (Call K)
  | .push i force => if A i then some (.push (Nat.count A i) force) else none
  | .twist i torque => if A i then some (.twist (Nat.count A i) torque) else none
  | .step => some .step

namespace Simulation

omit [Scalar K] in
/-- The spheres of a cluster alone, with all that is not about spheres as it is. -/
def cluster (s : Simulation K) : Simulation K := { s with spheres := Cluster.members A s.spheres }

/-- The next step does not connect a cluster to the other spheres: it meets no contact of a member
with another sphere or, if the contacts are solved together, none of a member at all. -/
inductive Decouples (s : Simulation K) : Prop where
  | direct (kind : s.params.solver.kind = .direct)
      (apart : ∀ c ∈ s.contacts, A c.bodyA ↔ A c.bodyB)
  | sequential (kind : s.params.solver.kind = .sequential)
      (alone : ∀ c ∈ s.contacts, ¬ A c.bodyA ∧ ¬ A c.bodyB)

/-- A simulation of a cluster alone, beside one of all spheres. -/
structure IsCluster (s t : Simulation K) : Prop where
  spheres_eq : t.spheres = Cluster.members A s.spheres
  params_eq : t.params = s.params
  time_eq : t.time = s.time
  /-- Only the sequential solver reports, and it reports on all contacts. -/
  diagnostics_eq : s.params.solver.kind = .direct → t.diagnostics = s.diagnostics

variable {A}

/-- The solution of a step leaves a cluster as it is whose members are in no contact. -/
theorem members_solveContacts_of_alone {spheres : List (Sphere K)}
    (h : ∀ c ∈ Contact.detect spheres, ¬ A c.bodyA ∧ ¬ A c.bodyB) (params : SolverParameters K)
    (dt : K) :
    Cluster.members A (solveContacts params dt spheres).1 = Cluster.members A spheres := by
  apply solveContacts_induction
    (P := fun l => Cluster.members A l = Cluster.members A spheres) params dt rfl
  · intro row applied l hrow hl
    obtain ⟨hA, hB⟩ := h row.contact hrow
    rw [Cluster.members_updateBodies_of_not hA hB, hl]
  · intro c l hc hl
    obtain ⟨hA, hB⟩ := h c hc
    rw [Cluster.members_updateBodies_of_not hA hB, hl]

/-- The solution of a step that decouples a cluster is that of the cluster alone. -/
theorem members_solveContacts {s : Simulation K} (h : s.Decouples A) :
    (solveContacts s.params.solver s.params.dt (Cluster.members A s.moved)).1 =
      Cluster.members A (solveContacts s.params.solver s.params.dt s.moved).1 := by
  cases h with
  | direct kind apart =>
    simp only [solveContacts, kind]
    rw [Cluster.detect_members]
    exact Cluster.respondEach_members s.moved apart s.params.solver
  | sequential kind alone =>
    rw [solveContacts_of_no_contact (Cluster.detect_members_eq_nil alone),
      members_solveContacts_of_alone alone]

namespace IsCluster
variable {s t : Simulation K}

omit [Scalar K] in
theorem cluster (s : Simulation K) : IsCluster A s (s.cluster A) := ⟨rfl, rfl, rfl, fun _ => rfl⟩

theorem moved_eq (h : IsCluster A s t) : t.moved = Cluster.members A s.moved := by
  rw [moved, moved, h.spheres_eq, h.params_eq, Cluster.members_map]

/-- A cluster that is not empty accepts the same steps as the whole. -/
theorem checkStep_eq (h : IsCluster A s t) (hA : ∃ i, A i ∧ i < s.spheres.length) :
    t.checkStep = s.checkStep := by
  obtain ⟨i, hi, hlt⟩ := hA
  have hs : s.spheres ≠ [] := List.ne_nil_of_length_pos (by omega)
  have ht : t.spheres ≠ [] := h.spheres_eq ▸ Cluster.members_ne_nil hi hlt
  simp only [checkStep, h.params_eq, List.isEmpty_iff, hs, ht]

theorem advance (h : IsCluster A s t) (hs : s.Decouples A) : IsCluster A s.advance t.advance where
  spheres_eq := by
    rw [advance_spheres, advance_spheres, h.moved_eq, h.params_eq, members_solveContacts hs]
  params_eq := h.params_eq
  time_eq := by rw [advance_time, advance_time, h.time_eq, h.params_eq]
  diagnostics_eq := by
    intro kind
    rw [advance_params] at kind
    simp only [advance_diagnostics, solveContacts, h.params_eq, kind]

omit [Scalar K] in
/-- A change of one sphere is one of the cluster if the sphere is a member. -/
theorem modify (h : IsCluster A s t) (change : Sphere K → Sphere K) (i : ℕ) :
    IsCluster A { s with spheres := s.spheres.modify i change }
      (if A i then { t with spheres := t.spheres.modify (Nat.count A i) change } else t) := by
  by_cases hi : A i
  · rw [if_pos hi]
    refine ⟨?_, h.params_eq, h.time_eq, h.diagnostics_eq⟩
    rw [Cluster.members_modify, if_pos hi, h.spheres_eq]
  · rw [if_neg hi]
    refine ⟨?_, h.params_eq, h.time_eq, h.diagnostics_eq⟩
    rw [Cluster.members_modify, if_neg hi, h.spheres_eq]

/-- A call that changes one sphere, and what it is to the cluster. -/
theorem after_of_modify (h : IsCluster A s t) {c d : Call K} {change : Sphere K → Sphere K} {i : ℕ}
    (hc : s.after c = { s with spheres := s.spheres.modify i change })
    (hd : t.after d = { t with spheres := t.spheres.modify (Nat.count A i) change }) :
    IsCluster A (s.after c) (t.perform (if A i then some d else none).toList) := by
  have hmodify := h.modify change i
  rw [hc]
  by_cases hi : A i
  · rw [if_pos hi] at hmodify ⊢
    rw [Option.toList_some, perform_cons, perform_nil, hd]
    exact hmodify
  · rw [if_neg hi] at hmodify ⊢
    exact hmodify

/-- A call on the whole, and what it is to the cluster. -/
theorem after (h : IsCluster A s t) (hA : ∃ i, A i ∧ i < s.spheres.length) {c : Call K}
    (hs : c = .step → s.Decouples A) : IsCluster A (s.after c) (t.perform (c.within A).toList) := by
  cases c with
  | push i force => exact h.after_of_modify (after_push s i force) (after_push t _ force)
  | twist i torque => exact h.after_of_modify (after_twist s i torque) (after_twist t _ torque)
  | step =>
    have hcheck := h.checkStep_eq hA
    rw [Call.within, Option.toList_some, perform_cons, perform_nil]
    cases hstep : s.checkStep with
    | ok u =>
      rw [after_step_of_ok hstep, after_step_of_ok (hcheck.trans hstep)]
      exact h.advance (hs rfl)
    | error e =>
      rw [after_step_of_error hstep, after_step_of_error (hcheck.trans hstep)]
      exact h

/-- Calls on the whole, and what they are to the cluster, as long as no step connects it to the
others. -/
theorem perform (h : IsCluster A s t) (hA : ∃ i, A i ∧ i < s.spheres.length) {calls : List (Call K)}
    (hs : ∀ before rest, calls = before ++ .step :: rest → (s.perform before).Decouples A) :
    IsCluster A (s.perform calls) (t.perform (calls.filterMap (Call.within A))) := by
  induction calls generalizing s t with
  | nil => exact h
  | cons c cs ih =>
    have hhead := h.after hA (c := c) fun hc => hs [] cs (by rw [hc, List.nil_append])
    have htail := ih hhead (by rwa [length_spheres_after]) fun before rest hcs =>
      hs (c :: before) rest (by rw [hcs, List.cons_append])
    rw [← perform_append] at htail
    have hcalls : (c :: cs).filterMap (Call.within A) =
        (c.within A).toList ++ cs.filterMap (Call.within A) := by
      cases hc : c.within A <;> simp [hc]
    rw [hcalls]
    exact htail

end IsCluster

/-- A cluster that no step of a run connects to the other spheres moves as if it were alone. With
the direct solver this asks for no contact between a member and another sphere, and with the
sequential one for no contact of a member at all. At any point of the run the spheres of the cluster
are then those of a simulation of the cluster alone, with the same parameters and the forces and
torques on its members; it has the same time, accepts the same steps, and with the direct solver it
is the same in everything. -/
theorem perform_cluster {s : Simulation K} (hA : ∃ i, A i ∧ i < s.spheres.length)
    {calls : List (Call K)}
    (hs : ∀ before rest, calls = before ++ .step :: rest → (s.perform before).Decouples A)
    {before : List (Call K)} (hbefore : before <+: calls) :
    let s' := s.perform before
    let t' := (s.cluster A).perform (before.filterMap (Call.within A))
    t'.spheres = Cluster.members A s'.spheres ∧ t'.params = s'.params ∧ t'.time = s'.time ∧
      t'.checkStep = s'.checkStep ∧ (s.params.solver.kind = .direct → t' = s'.cluster A) := by
  intro s' t'
  obtain ⟨later, rfl⟩ := hbefore
  have h : IsCluster A s' t' := by
    refine (IsCluster.cluster s).perform hA ?_
    intro first rest hfirst
    refine hs first (rest ++ later) ?_
    rw [hfirst, List.append_assoc, List.cons_append]
  have hlength : s'.spheres.length = s.spheres.length := length_spheres_perform s before
  refine ⟨h.spheres_eq, h.params_eq, h.time_eq, h.checkStep_eq (by rwa [hlength]), ?_⟩
  intro kind
  have hkind : s'.params.solver.kind = .direct := by rw [params_perform, kind]
  exact Simulation.ext h.spheres_eq h.params_eq h.time_eq (h.diagnostics_eq hkind)

/-- Two spheres that penetrate each other, and between them in the list a third one far away. -/
noncomputable def scattered (kind : Solver) : Simulation ℝ where
  spheres :=
    [.solid "left" 0 1 1, .solid "far" ⟨0, 8.0, 0⟩ 1 1, .solid "right" ⟨1.5, 0, 0⟩ 1 1]
  params :=
    { gravity := 0
      dt := 0.5
      solver := { SolverParameters.default with kind := kind } }
  time := 0
  diagnostics := none

/-- A push of the one far away, and one of the last towards the first. -/
noncomputable def pushes : List (Call ℝ) := [.push 1 ⟨0, 1, 0⟩, .push 2 ⟨-1, 0, 0⟩]

/-- The only step is the one after the pushes. -/
theorem eq_pushes {before rest : List (Call ℝ)} (h : pushes ++ [.step] = before ++ .step :: rest) :
    before = pushes := by
  rw [pushes] at h
  match before with
  | [] => simp at h
  | [_] => simp at h
  | [_, _] => simp_all [pushes]
  | _ :: _ :: _ :: _ => simp at h

/-- Spheres in contact are no further apart along the second axis than their radii. -/
theorem abs_sub_lt_of_between? {i j : ℕ} {a b : Sphere ℝ} {c : Contact ℝ}
    (hr : 0 ≤ a.radius + b.radius) (h : Contact.between? i a j b = some c) :
    |b.position.y - a.position.y| < a.radius + b.radius := by
  have hnear := (Contact.isSome_between? i a j b).mp (by rw [h, Option.isSome_some])
  exact (Vec3.abs_lt_of_lengthSq_lt hr hnear).2.1

/-- After the pushes, the next step meets no contact but that of the outer ones. -/
theorem bodies_contacts_scattered (kind : Solver) :
    ∀ c ∈ ((scattered kind).perform pushes).contacts, c.bodies = (0, 2) := by
  intro c hc
  obtain ⟨i, j, a, b, hij, ha, hb, _, hc⟩ := Contact.mem_detect.mp hc
  rw [Contact.bodies_of_between? hc]
  let height : Sphere ℝ → ℝ × ℝ := fun b => (b.position.y, b.radius)
  have hheights : ((scattered kind).perform pushes).moved.map height =
      [(0, 1), (8.25, 1), (0, 1)] := by
    simp [height, pushes, perform_cons, after_push, moved, scattered, Sphere.solid,
      Sphere.advance_position, Sphere.advance_velocity]
    norm_num
  have ha' := congrArg (Option.map height) ha
  have hb' := congrArg (Option.map height) hb
  rw [← List.getElem?_map, hheights] at ha' hb'
  have hj : j < 3 := (List.getElem?_eq_some_iff.mp hb').1
  obtain ⟨rfl, rfl⟩ | ⟨rfl, rfl⟩ | ⟨rfl, rfl⟩ :
      i = 0 ∧ j = 1 ∨ i = 0 ∧ j = 2 ∨ i = 1 ∧ j = 2 := by omega
  · obtain ⟨hya, hra⟩ : 0 = a.position.y ∧ 1 = a.radius := by simpa [height] using ha'
    obtain ⟨hyb, hrb⟩ : 8.25 = b.position.y ∧ 1 = b.radius := by simpa [height] using hb'
    have hlt := abs_sub_lt_of_between? (by norm_num [← hra, ← hrb]) hc
    norm_num [← hya, ← hra, ← hyb, ← hrb] at hlt
  · rfl
  · obtain ⟨hya, hra⟩ : 8.25 = a.position.y ∧ 1 = a.radius := by simpa [height] using ha'
    obtain ⟨hyb, hrb⟩ : 0 = b.position.y ∧ 1 = b.radius := by simpa [height] using hb'
    have hlt := abs_sub_lt_of_between? (by norm_num [← hra, ← hrb]) hc
    norm_num [← hya, ← hra, ← hyb, ← hrb] at hlt

/-- The outer two with the direct solver, and the one between them with the sequential solver. -/
theorem perform_cluster_scattered :
    ((scattered .direct).cluster (· ≠ 1)).perform [.push 1 ⟨-1, 0, 0⟩, .step] =
        ((scattered .direct).perform (pushes ++ [.step])).cluster (· ≠ 1) ∧
      (((scattered .sequential).cluster (· = 1)).perform [.push 0 ⟨0, 1, 0⟩, .step]).spheres =
        Cluster.members (· = 1) ((scattered .sequential).perform (pushes ++ [.step])).spheres := by
  constructor
  · have hs : ∀ before rest, pushes ++ [.step] = before ++ .step :: rest →
        ((scattered .direct).perform before).Decouples (· ≠ 1) := by
      intro before rest hcalls
      rw [eq_pushes hcalls]
      refine .direct ?_ ?_
      · rw [params_perform]
        rfl
      · intro c hc
        obtain ⟨hA, hB⟩ := Prod.mk.inj (bodies_contacts_scattered .direct c hc)
        simp [hA, hB]
    exact (perform_cluster ⟨0, by simp [scattered]⟩ hs List.prefix_rfl).2.2.2.2 rfl
  · have hs : ∀ before rest, pushes ++ [.step] = before ++ .step :: rest →
        ((scattered .sequential).perform before).Decouples (· = 1) := by
      intro before rest hcalls
      rw [eq_pushes hcalls]
      refine .sequential ?_ ?_
      · rw [params_perform]
        rfl
      · intro c hc
        obtain ⟨hA, hB⟩ := Prod.mk.inj (bodies_contacts_scattered .sequential c hc)
        simp [hA, hB]
    exact (perform_cluster ⟨1, by simp [scattered]⟩ hs List.prefix_rfl).1

end Simulation

end SphereBench
