import Mathlib.Data.List.Sort
import Mathlib.Data.Nat.Count
import SphereBench.Proofs.Contact.Bodies
import SphereBench.Proofs.Contact.Detection
import SphereBench.Solver.Direct
/-!
# Clusters of spheres

Some spheres of a list, taken out of it in their order. Each of them gets a new index, the number of
members before it, and their contacts are those of the whole list among them, in the same order.
What a contact does to the list can be seen on the cluster: a contact of two members does the same
there, and a contact of two others does nothing. Nothing here depends on the scalars.

## Main definitions

* `Cluster.members` — the entries of a list with indices in a set, in order.
* `Contact.within` — a contact with the indices that its bodies have in a cluster.
-/

namespace SphereBench

namespace Cluster
variable {α β : Type} (A : ℕ → Prop) [DecidablePred A]

/-- The entries of a list whose indices are in `A`, in order. -/
def members (l : List α) : List α := (l.zipIdx.filter fun x => A x.2).map Prod.fst

@[simp] theorem members_nil : members A ([] : List α) = [] := rfl

/-- Behind the head of a list, its indices count from one. -/
theorem members_cons (b : α) (l : List α) :
    members A (b :: l) =
      if A 0 then b :: members (fun i => A (i + 1)) l else members (fun i => A (i + 1)) l := by
  have htail : ((l.zipIdx 1).filter fun x => A x.2).map Prod.fst =
      members (fun i => A (i + 1)) l := by
    rw [List.zipIdx_succ, List.filter_map, List.map_map]
    rfl
  rw [members, List.zipIdx_cons, List.filter_cons, ← htail]
  by_cases h : A 0
  · simp [h]
  · simp [h]

theorem members_map (f : α → β) (l : List α) : members A (l.map f) = (members A l).map f := by
  rw [members, members, List.zipIdx_map, List.filter_map, List.map_map, List.map_map]
  rfl

variable {A}

/-- A member has as its index in the cluster the number of members before it. -/
theorem getElem?_members_count {i : ℕ} (h : A i) (l : List α) :
    (members A l)[Nat.count A i]? = l[i]? := by
  induction l generalizing A i with
  | nil => simp
  | cons b l ih =>
    rw [members_cons]
    cases i with
    | zero => simp [h]
    | succ i =>
      have htail := ih (A := fun i => A (i + 1)) h
      rw [Nat.count_succ', List.getElem?_cons_succ]
      by_cases h0 : A 0
      · simp only [h0, if_true, List.getElem?_cons_succ, htail]
      · simp only [h0, if_false, Nat.add_zero, htail]

/-- Every entry of a cluster is a member of the list. -/
theorem getElem?_members {l : List α} {j : ℕ} {b : α} :
    (members A l)[j]? = some b ↔ ∃ i, A i ∧ Nat.count A i = j ∧ l[i]? = some b := by
  constructor
  · intro hj
    induction l generalizing A j with
    | nil => simp at hj
    | cons a l ih =>
      rw [members_cons] at hj
      by_cases h0 : A 0
      · rw [if_pos h0] at hj
        cases j with
        | zero => exact ⟨0, h0, Nat.count_zero A, hj⟩
        | succ j =>
          obtain ⟨i, hi, rfl, hb⟩ := ih (A := fun i => A (i + 1)) hj
          exact ⟨i + 1, hi, by simp [Nat.count_succ', h0], hb⟩
      · rw [if_neg h0] at hj
        obtain ⟨i, hi, rfl, hb⟩ := ih (A := fun i => A (i + 1)) hj
        exact ⟨i + 1, hi, by simp [Nat.count_succ', h0], hb⟩
  · intro hex
    obtain ⟨i, hi, rfl, hb⟩ := hex
    rw [getElem?_members_count hi, hb]

/-- A change of one entry is one of the cluster if the entry is a member. -/
theorem members_modify (f : α → α) (l : List α) (i : ℕ) :
    members A (l.modify i f) =
      if A i then (members A l).modify (Nat.count A i) f else members A l := by
  induction l generalizing A i with
  | nil => simp
  | cons b l ih =>
    cases i with
    | zero =>
      rw [List.modify_zero_cons, members_cons, members_cons]
      by_cases h0 : A 0
      · simp [h0]
      · simp [h0]
    | succ i =>
      have htail := ih (A := fun i => A (i + 1)) i
      rw [List.modify_succ_cons, members_cons, members_cons, htail, Nat.count_succ']
      by_cases h0 : A 0 <;> by_cases hi : A (i + 1) <;> simp [h0, hi]

theorem members_set (l : List α) (i : ℕ) (b : α) :
    members A (l.set i b) = if A i then (members A l).set (Nat.count A i) b else members A l := by
  rw [List.set_eq_modify, members_modify, List.set_eq_modify]

theorem members_ne_nil {l : List α} {i : ℕ} (h : A i) (hi : i < l.length) : members A l ≠ [] := by
  intro hnil
  have hentry := getElem?_members_count h l
  rw [hnil, List.getElem?_eq_getElem hi] at hentry
  cases hentry

end Cluster

namespace Contact
variable {K : Type} (A : ℕ → Prop) [DecidablePred A]

/-- The contact with the indices that its bodies have in a cluster. -/
def within (c : Contact K) : Contact K :=
  { c with bodyA := Nat.count A c.bodyA, bodyB := Nat.count A c.bodyB }

theorem between?_count [Scalar K] (i : ℕ) (a : Sphere K) (j : ℕ) (b : Sphere K) :
    between? (Nat.count A i) a (Nat.count A j) b = (between? i a j b).map (within A) := by
  simp only [between?]
  split
  · rfl
  · rfl

end Contact

namespace Cluster
open Contact
variable {K : Type} {A : ℕ → Prop} [DecidablePred A]

/-- A contact of two members changes the cluster as it changes the list. -/
theorem members_updateBodies {c : Contact K} (hA : A c.bodyA) (hB : A c.bodyB)
    (spheres : List (Sphere K)) (change : Sphere K → Sphere K → Sphere K × Sphere K) :
    members A (c.updateBodies spheres change) =
      (c.within A).updateBodies (members A spheres) change := by
  simp only [updateBodies, within, getElem?_members_count hA, getElem?_members_count hB]
  split
  · rw [members_set, if_pos hB, members_set, if_pos hA]
  · rfl

/-- A contact of two spheres that are no members does not change the cluster. -/
theorem members_updateBodies_of_not {c : Contact K} (hA : ¬ A c.bodyA) (hB : ¬ A c.bodyB)
    (spheres : List (Sphere K)) (change : Sphere K → Sphere K → Sphere K × Sphere K) :
    members A (c.updateBodies spheres change) = members A spheres := by
  apply updateBodies_cases (P := fun l => members A l = members A spheres)
  · rfl
  · intro a b _ _
    rw [members_set, if_neg hB, members_set, if_neg hA]

variable [Scalar K]

/-- The contacts of a cluster are those among its members, with new indices. -/
theorem mem_detect_members {spheres : List (Sphere K)} {c : Contact K} :
    c ∈ detect (members A spheres) ↔
      ∃ d ∈ detect spheres, A d.bodyA ∧ A d.bodyB ∧ d.within A = c := by
  rw [mem_detect]
  constructor
  · intro hmem
    obtain ⟨_, _, a, b, hlt, ha, hb, ho, hc⟩ := hmem
    obtain ⟨i, hi, rfl, ha'⟩ := getElem?_members.mp ha
    obtain ⟨j, hj, rfl, hb'⟩ := getElem?_members.mp hb
    rw [between?_count, Option.map_eq_some_iff] at hc
    obtain ⟨d, hd, rfl⟩ := hc
    have hbodies := bodies_of_between? hd
    simp only [bodies, Prod.mk.injEq] at hbodies
    obtain ⟨rfl, rfl⟩ := hbodies
    have hlt' := Nat.lt_of_count_lt_count hlt
    exact ⟨d, mem_detect.mpr ⟨_, _, a, b, hlt', ha', hb', ho, hd⟩, hi, hj, rfl⟩
  · intro hex
    obtain ⟨d, hd, hA, hB, rfl⟩ := hex
    obtain ⟨i, j, a, b, hlt, ha, hb, ho, hc⟩ := mem_detect.mp hd
    have hbodies := bodies_of_between? hc
    simp only [bodies, Prod.mk.injEq] at hbodies
    obtain ⟨rfl, rfl⟩ := hbodies
    refine ⟨_, _, a, b, Nat.count_strict_mono hA hlt, ?_, ?_, ho, ?_⟩
    · rw [getElem?_members_count hA, ha]
    · rw [getElem?_members_count hB, hb]
    · rw [between?_count, hc, Option.map_some]

/-- The contacts of a cluster are those of the list among its members, in the same order. -/
theorem detect_members (spheres : List (Sphere K)) :
    detect (members A spheres) =
      ((detect spheres).filter fun c => A c.bodyA ∧ A c.bodyB).map (within A) := by
  -- Both lists increase strictly, so that only their members have to be compared.
  have hanti : Std.Antisymm fun c d : Contact K => Prod.Lex (· < ·) (· < ·) c.bodies d.bodies :=
    ⟨fun c d h h' => (asymm_of (Prod.Lex (· < ·) (· < ·)) h h').elim⟩
  have hirrefl : Std.Irrefl fun c d : Contact K => Prod.Lex (· < ·) (· < ·) c.bodies d.bodies :=
    ⟨fun c h => irrefl_of (Prod.Lex (· < ·) (· < ·)) c.bodies h⟩
  refine (pairwise_detect _).eq_of_mem_iff ?_ ?_
  · rw [List.pairwise_map]
    refine ((pairwise_detect spheres).filter _).imp_of_mem ?_
    intro c d hc hd hlex
    obtain ⟨_, hc⟩ := List.mem_filter.mp hc
    obtain ⟨_, hd⟩ := List.mem_filter.mp hd
    simp only [decide_eq_true_eq] at hc hd
    rw [Prod.lex_def] at hlex ⊢
    rcases hlex with hlt | ⟨heq, hlt⟩
    · exact .inl (Nat.count_strict_mono hc.1 hlt)
    · exact .inr ⟨congrArg (Nat.count A) heq, Nat.count_strict_mono hc.2 hlt⟩
  · intro c
    simp only [mem_detect_members, List.mem_map, List.mem_filter, decide_eq_true_eq, and_assoc]

/-- A cluster whose members are in no contact has no contacts. -/
theorem detect_members_eq_nil {spheres : List (Sphere K)}
    (h : ∀ c ∈ detect spheres, ¬ A c.bodyA ∧ ¬ A c.bodyB) : detect (members A spheres) = [] := by
  rw [List.eq_nil_iff_forall_not_mem]
  intro c hc
  obtain ⟨d, hd, hA, _⟩ := mem_detect_members.mp hc
  exact (h d hd).1 hA

/-- Contacts of members and contacts of others take no notice of each other, in whatever order they
come: the direct solver does to the cluster what the contacts of members do. -/
theorem respondEach_members {contacts : List (Contact K)} (spheres : List (Sphere K))
    (h : ∀ c ∈ contacts, A c.bodyA ↔ A c.bodyB) (params : SolverParameters K) :
    respondEach (members A spheres)
        ((contacts.filter fun c => A c.bodyA ∧ A c.bodyB).map (within A)) params =
      members A (respondEach spheres contacts params) := by
  induction contacts generalizing spheres with
  | nil => rfl
  | cons c contacts ih =>
    have htail := ih (c.updateBodies spheres (c.respond params.restitution)) fun d hd =>
      h d (List.mem_cons_of_mem c hd)
    have hc := h c List.mem_cons_self
    by_cases hA : A c.bodyA
    · have hB : A c.bodyB := hc.mp hA
      rw [members_updateBodies hA hB] at htail
      rw [List.filter_cons_of_pos (by simp [hA, hB])]
      exact htail
    · have hB : ¬ A c.bodyB := mt hc.mpr hA
      rw [members_updateBodies_of_not hA hB] at htail
      rw [List.filter_cons_of_neg (by simp [hA])]
      exact htail

end Cluster

end SphereBench
