import SphereBench.Proofs.Contact.Exchange
import SphereBench.Proofs.Solver.EarlyExit
/-!
# Solutions of contacts in another order

A row reads and writes the two spheres of its contact and its own impulse. Rows whose contacts share
no sphere may therefore be relaxed in either order, and a sweep over contacts in another order does
the same if no two contacts with a common sphere have changed places. The rows come out in the other
order, which is the order in which the next sweep finds them. What may differ between the two
solutions is the number of sweeps: the changes of impulse are added up in the order of the rows, and
with rounding the two sums need not meet the tolerance at the same time. If neither ever does, the
spheres agree bit for bit.
-/

namespace SphereBench
variable {K : Type} [Scalar K]

namespace ContactRow

/-- Two spheres after a row has kicked them to its target. -/
def meet (r : ContactRow K) (a b : Sphere K) : Sphere K × Sphere K :=
  r.kick (r.proposed a b - r.impulse) a b

/-- The row once its two spheres have been kicked to its target. -/
def relaxed (r : ContactRow K) (spheres : List (Sphere K)) : ContactRow K :=
  match spheres[r.contact.bodyA]?, spheres[r.contact.bodyB]? with
  | some a, some b => { r with impulse := r.proposed a b }
  | _, _ => r

@[simp] theorem relaxed_contact (r : ContactRow K) (spheres : List (Sphere K)) :
    (r.relaxed spheres).contact = r.contact := by
  rw [relaxed]
  split
  · rfl
  · rfl

/-- A row does not see what happens to contacts with which it shares no sphere. -/
theorem relaxed_updateBodies {r : ContactRow K} {c : Contact K} (h : c.Apart r.contact)
    (spheres : List (Sphere K)) (change : Sphere K → Sphere K → Sphere K × Sphere K) :
    r.relaxed (c.updateBodies spheres change) = r.relaxed spheres := by
  rw [relaxed, Contact.getElem?_updateBodies_of_not_involves (h.symm _ r.contact.involves_bodyA),
    Contact.getElem?_updateBodies_of_not_involves (h.symm _ r.contact.involves_bodyB), relaxed]

end ContactRow

namespace Relaxation
variable {s t : Relaxation K} {k : ℕ} {r : ContactRow K}

theorem relax_of_none (h : s.rows[k]? = none) : (s.relax k).1 = s := by
  rw [relax, h]

/-- All that relaxing a row does to the state. -/
theorem relax_of_some (h : s.rows[k]? = some r) :
    (s.relax k).1 =
      ⟨r.contact.updateBodies s.spheres r.meet, s.rows.set k (r.relaxed s.spheres)⟩ := by
  obtain ⟨hk, hr⟩ := List.getElem?_eq_some_iff.mp h
  have hsame : s.rows.set k r = s.rows := by rw [← hr, List.set_getElem_self]
  simp only [relax, h, ContactRow.relaxed, Contact.updateBodies]
  cases s.spheres[r.contact.bodyA]? with
  | none => simp only [hsame]
  | some a =>
    cases s.spheres[r.contact.bodyB]? with
    | none => simp only [hsame]
    | some b => rfl

/-- Rows whose contacts share no sphere may be relaxed in either order. -/
theorem relax_comm {j : ℕ} {r' : ContactRow K} (hj : s.rows[j]? = some r)
    (hk : s.rows[k]? = some r') (h : r.contact.Apart r'.contact) :
    ((s.relax j).1.relax k).1 = ((s.relax k).1.relax j).1 := by
  have hjk : j ≠ k := by
    rintro rfl
    cases hj.symm.trans hk
    exact h _ r.contact.involves_bodyA r.contact.involves_bodyA
  have hk' : (s.relax j).1.rows[k]? = some r' := by rw [getElem?_rows_relax_of_ne _ hjk.symm, hk]
  have hj' : (s.relax k).1.rows[j]? = some r := by rw [getElem?_rows_relax_of_ne _ hjk, hj]
  rw [relax_of_some hk', relax_of_some hj', relax_of_some hj, relax_of_some hk]
  simp only [ContactRow.relaxed_updateBodies h, ContactRow.relaxed_updateBodies h.symm]
  rw [Contact.updateBodies_comm h, List.set_comm _ _ hjk]

theorem relaxEach_fst (s : Relaxation K) (sumSq : K) (ks : List ℕ) :
    (s.relaxEach sumSq ks).1 = ks.foldl (fun s k => (s.relax k).1) s := by
  induction ks generalizing s sumSq with
  | nil => rfl
  | cons k ks ih => exact ih _ _

/-- A sweep relaxes all rows in their order. -/
theorem sweep_fst_eq_foldl {n : ℕ} (h : s.rows.length = n) :
    s.sweep.1 = (List.finRange n).foldl (fun s (i : Fin n) => (s.relax i).1) s := by
  have hsweep : s.sweep.1 = (s.relaxEach 0 (List.range s.rows.length)).1 := rfl
  rw [hsweep, relaxEach_fst, h, ← List.map_coe_finRange_eq_range, List.foldl_map]

/-- Two states that agree but for the order of their rows, which `place` tells. -/
structure Matches {m n : ℕ} (place : Fin m ≃ Fin n) (s t : Relaxation K) : Prop where
  spheres_eq : t.spheres = s.spheres
  row_eq : ∀ i, t.rows[(place i).val]? = s.rows[i.val]?

namespace Matches
variable {m n : ℕ} {place : Fin m ≃ Fin n}

/-- To relax the same row in both states keeps them matched. -/
theorem relax (h : Matches place s t) (i : Fin m) :
    Matches place (s.relax i).1 (t.relax (place i)).1 := by
  cases hrow : s.rows[i.val]? with
  | none => rwa [relax_of_none hrow, relax_of_none ((h.row_eq i).trans hrow)]
  | some r =>
    have hrow' := (h.row_eq i).trans hrow
    rw [relax_of_some hrow, relax_of_some hrow']
    refine ⟨congrArg (r.contact.updateBodies · r.meet) h.spheres_eq, ?_⟩
    intro j
    rw [h.spheres_eq]
    by_cases hij : i = j
    · subst hij
      rw [List.getElem?_set_self (List.getElem?_eq_some_iff.mp hrow).1,
        List.getElem?_set_self (List.getElem?_eq_some_iff.mp hrow').1]
    · have hplace : (place i).val ≠ (place j).val :=
        fun heq => hij (place.injective (Fin.ext heq))
      rw [List.getElem?_set_ne hplace, List.getElem?_set_ne fun heq => hij (Fin.ext heq), h.row_eq]

/-- So does relaxing several rows, if they are the same rows in both. -/
theorem foldl (h : Matches place s t) (ps : List (Fin n)) :
    Matches place ((ps.map place.symm).foldl (fun s (i : Fin m) => (s.relax i).1) s)
      (ps.foldl (fun t (p : Fin n) => (t.relax p).1) t) := by
  induction ps generalizing s t with
  | nil => exact h
  | cons p ps ih =>
    have hp := h.relax (place.symm p)
    rw [place.apply_symm_apply] at hp
    exact ih hp

variable {contacts contacts' : List (Contact K)}
  {place : Fin contacts.length ≃ Fin contacts'.length}

/-- A sweep keeps states matched, although it visits their rows in different orders. -/
theorem sweep (horder : Contact.KeepsOrder contacts contacts' place) (h : Matches place s t)
    (hs : s.rows.map (·.contact) = contacts) (ht : t.rows.map (·.contact) = contacts') :
    Matches place s.sweep.1 t.sweep.1 := by
  have hcomm : ∀ i j, i < j → place j < place i → ∀ s : Relaxation K,
      s.rows.map (·.contact) = contacts →
        ((s.relax i).1.relax j).1 = ((s.relax j).1.relax i).1 := by
    intro i j hij hplace s hs
    have hrow (i : Fin contacts.length) :
        ∃ r, s.rows[i.val]? = some r ∧ r.contact = contacts.get i := by
      have hi : (s.rows.map (·.contact))[i.val]? = some (contacts.get i) := by
        rw [hs]
        exact List.getElem?_eq_getElem i.isLt
      rw [List.getElem?_map, Option.map_eq_some_iff] at hi
      exact hi
    obtain ⟨r, hr, hrc⟩ := hrow i
    obtain ⟨r', hr', hrc'⟩ := hrow j
    exact relax_comm hr hr' (hrc ▸ hrc' ▸ horder.apart hij hplace)
  have hlength : s.rows.length = contacts.length := by rw [← hs, List.length_map]
  have hlength' : t.rows.length = contacts'.length := by rw [← ht, List.length_map]
  -- The sweep of the second state, in terms of the rows of the first one, may be sorted.
  have hsorted := foldl_map_symm (P := fun s : Relaxation K => s.rows.map (·.contact) = contacts)
    (fun s i hs => (s.map_contact_relax i).trans hs) hcomm hs
  rw [sweep_fst_eq_foldl hlength, sweep_fst_eq_foldl hlength', ← hsorted]
  exact h.foldl _

theorem sweeps (horder : Contact.KeepsOrder contacts contacts' place) (h : Matches place s t)
    (hs : s.rows.map (·.contact) = contacts) (ht : t.rows.map (·.contact) = contacts') (n : ℕ) :
    Matches place (s.sweeps n) (t.sweeps n) := by
  induction n with
  | zero => exact h
  | succ n ih =>
    exact sweep horder ih ((s.map_contact_sweeps n).trans hs) ((t.map_contact_sweeps n).trans ht)

theorem start (horder : Contact.KeepsOrder contacts contacts' place) (spheres : List (Sphere K))
    (params : SolverParameters K) (dt : K) :
    Matches place (start spheres contacts params dt) (start spheres contacts' params dt) := by
  refine ⟨rfl, ?_⟩
  intro i
  have hget := horder.get_place i
  simp only [List.get_eq_getElem] at hget
  simp only [Relaxation.start, List.getElem?_map, List.getElem?_eq_getElem (place i).isLt,
    List.getElem?_eq_getElem i.isLt, hget]

end Matches

section Exchange
variable {contacts contacts' : List (Contact K)}
  {place : Fin contacts.length ≃ Fin contacts'.length}

/-- Two solutions with as many sweeps leave the same spheres. -/
theorem solve_fst_eq_of_iterations_eq (h : Contact.KeepsOrder contacts contacts' place)
    {spheres : List (Sphere K)} {params : SolverParameters K} {dt : K}
    (hcount : (solve spheres contacts' params dt).2.iterations =
      (solve spheres contacts params dt).2.iterations) :
    (solve spheres contacts' params dt).1 = (solve spheres contacts params dt).1 := by
  have hrows (contacts : List (Contact K)) :
      (start spheres contacts params dt).rows.map (·.contact) = contacts := by
    rw [start, List.map_map]
    exact List.map_id contacts
  rw [solve_fst_eq_sweeps, solve_fst_eq_sweeps, hcount]
  exact ((Matches.start h spheres params dt).sweeps h (hrows _) (hrows _) _).spheres_eq

theorem endings_eq_empty_iff {s : Relaxation K} {tolerance : K} {limit : ℕ} :
    s.endings tolerance limit = ∅ ↔ ∀ n < limit, ¬ s.change n ≤ tolerance := by
  constructor
  · intro h n hn hchange
    exact Set.eq_empty_iff_forall_notMem.mp h (n + 1) (mem_endings.mpr ⟨hn, hchange⟩)
  · intro h
    refine Set.eq_empty_iff_forall_notMem.mpr ?_
    rintro k ⟨hk, hlimit, hchange⟩
    exact h (k - 1) (by omega) hchange

/-- Without a sweep within the tolerance all sweeps are made. -/
theorem iterations_of_endings_eq_empty {spheres : List (Sphere K)} (hcontacts : contacts ≠ [])
    {params : SolverParameters K} {dt : K}
    (h : (start spheres contacts params dt).endings params.tolerance (max 1 params.iterations) =
      ∅) : (solve spheres contacts params dt).2.iterations = max 1 params.iterations := by
  obtain ⟨n, heq, hleast | ⟨-, hlast⟩⟩ := exists_isLeast_endings spheres hcontacts params dt
  · exact absurd hleast.1 (h ▸ Set.notMem_empty (n + 1))
  · rw [heq, hlast]

/-- **Contacts in another order.** Let a list of contacts be permuted so that any two which share a
sphere keep their order. The direct solver then leaves exactly the same spheres, and so does the
sequential solver if no sweep of either solution is within the tolerance, in which case both make
all sweeps that are allowed. Apart from that, a sphere in no contact comes back as it was; the
sequential solver changes only velocities, and the direct solver only positions and velocities. -/
theorem solve_keepsOrder (h : Contact.KeepsOrder contacts contacts' place)
    (spheres : List (Sphere K)) (params : SolverParameters K) (dt : K) :
    let limit := max 1 params.iterations
    let solution := solve spheres contacts params dt
    let solution' := solve spheres contacts' params dt
    let responses := Contact.respondEach spheres contacts params
    Contact.respondEach spheres contacts' params = responses ∧
      ((start spheres contacts params dt).endings params.tolerance limit = ∅ →
        (start spheres contacts' params dt).endings params.tolerance limit = ∅ →
          (contacts ≠ [] → solution.2.iterations = limit ∧ solution'.2.iterations = limit) ∧
            solution'.1 = solution.1) ∧
      (∀ i, (∀ c ∈ contacts, ¬ c.Involves i) →
        solution.1[i]? = spheres[i]? ∧ responses[i]? = spheres[i]?) ∧
      solution.1.map (fun b => { b with velocity := 0 }) =
        spheres.map (fun b => { b with velocity := 0 }) ∧
      responses.map (fun b => { b with position := 0, velocity := 0 }) =
        spheres.map fun b => { b with position := 0, velocity := 0 } := by
  intro limit solution solution' responses
  refine ⟨h.respondEach_eq spheres params, ?_, ?_, ?_, ?_⟩
  · intro hnone hnone'
    have hlength : contacts.length = contacts'.length := Fin.equiv_iff_eq.mp ⟨place⟩
    by_cases hempty : contacts = []
    · subst hempty
      have hempty' : contacts' = [] := List.length_eq_zero_iff.mp hlength.symm
      subst hempty'
      exact ⟨fun hne => absurd rfl hne, rfl⟩
    · have hempty' : contacts' ≠ [] := by
        rintro rfl
        exact hempty (List.length_eq_zero_iff.mp hlength)
      have hcount := iterations_of_endings_eq_empty hempty hnone
      have hcount' := iterations_of_endings_eq_empty hempty' hnone'
      exact ⟨fun _ => ⟨hcount, hcount'⟩,
        solve_fst_eq_of_iterations_eq h (hcount'.trans hcount.symm)⟩
  · intro i hi
    exact ⟨solve_of_not_involves hi params dt, Contact.respondEach_of_not_involves hi params⟩
  · exact map_solve _ (fun _ _ => rfl) spheres contacts params dt
  · exact Contact.map_respondEach _ (fun _ _ _ => rfl) spheres contacts params

end Exchange

/-- Four spheres in a row, the outer two of which move inwards, and one far away. -/
def clatter : List (Sphere Float) :=
  [{ Sphere.solid "left" 0 0.5 1 with velocity := ⟨3, 0, 0⟩ },
    Sphere.solid "left middle" ⟨0.9, 0, 0⟩ 0.5 2,
    Sphere.solid "right middle" ⟨1.85, 0, 0⟩ 0.5 1,
    { Sphere.solid "right" ⟨2.75, 0, 0⟩ 0.5 3.0 with velocity := ⟨-1, 0, 0⟩ },
    Sphere.solid "bystander" ⟨0, 7, 0⟩ 0.5 1]

/-- The contact of neighbours in the row. -/
def clatterContact (i : ℕ) : Contact Float := ⟨i, i + 1, 0, ⟨1, 0, 0⟩, 0.1⟩

/-- The two outer contacts change places. -/
theorem keepsOrder_clatter :
    Contact.KeepsOrder [clatterContact 0, clatterContact 2, clatterContact 1]
      [clatterContact 2, clatterContact 0, clatterContact 1] (Equiv.swap (0 : Fin 3) 1) where
  get_place i := by fin_cases i <;> rfl
  lt_place i j hij hshare := by
    by_cases hout : i = (0 : Fin 3) ∧ j = (1 : Fin 3)
    · obtain ⟨rfl, rfl⟩ := hout
      refine absurd ?_ hshare
      intro k hk
      simp [Contact.Involves, clatterContact] at hk ⊢
      omega
    · clear hshare
      revert i j
      decide

/-- In double precision, both solvers leave the same spheres if the outer two of three contacts
change places, and the one that is far away as it was. With the middle contact before one of the
others, which shares a sphere with it, the direct solver leaves other velocities. -/
theorem solve_clatter :
    let params : SolverParameters Float := ⟨.sequential, 2, 0, 0.5, 0.2⟩
    let contacts := [clatterContact 0, clatterContact 2, clatterContact 1]
    let contacts' := [clatterContact 2, clatterContact 0, clatterContact 1]
    Contact.KeepsOrder contacts contacts' (Equiv.swap (0 : Fin 3) 1) ∧
      (start clatter contacts params 0.01).endings params.tolerance 2 = ∅ ∧
      (start clatter contacts' params 0.01).endings params.tolerance 2 = ∅ ∧
      (solve clatter contacts' params 0.01).1 = (solve clatter contacts params 0.01).1 ∧
      (solve clatter contacts params 0.01).2.iterations = 2 ∧
      (solve clatter contacts params 0.01).1[4]? = clatter[4]? ∧
      Contact.respondEach clatter contacts' params = Contact.respondEach clatter contacts params ∧
      (Contact.respondEach clatter [clatterContact 0, clatterContact 1, clatterContact 2]
          params).map (·.velocity.x) ≠
        (Contact.respondEach clatter contacts params).map (·.velocity.x) := by
  intro params contacts contacts'
  obtain ⟨hdirect, hsequential, hframe, -, -⟩ :=
    solve_keepsOrder keepsOrder_clatter clatter params 0.01
  have hnone : (start clatter contacts params 0.01).endings params.tolerance 2 = ∅ := by
    rw [endings_eq_empty_iff]
    decide +kernel
  have hnone' : (start clatter contacts' params 0.01).endings params.tolerance 2 = ∅ := by
    rw [endings_eq_empty_iff]
    decide +kernel
  obtain ⟨hcount, hsame⟩ := hsequential hnone hnone'
  have hfar : ∀ c ∈ contacts, ¬ c.Involves 4 := by
    simp [contacts, Contact.Involves, clatterContact]
  refine ⟨keepsOrder_clatter, hnone, hnone', hsame, (hcount (List.cons_ne_nil _ _)).1,
    (hframe 4 hfar).1, hdirect, ?_⟩
  decide +kernel

end Relaxation

end SphereBench
