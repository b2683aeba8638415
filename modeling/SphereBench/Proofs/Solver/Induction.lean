import SphereBench.Proofs.Contact.Independent
import SphereBench.Solver.Direct
import SphereBench.Solver.Sequential
/-!
# Induction over a solution

Both solvers change the spheres only through responses to single contacts, one after the other. A
property of the spheres that every such change keeps is therefore kept by the whole solution,
however many sweeps it takes and wherever it stops.
-/

namespace SphereBench
variable {K : Type} [Scalar K]

namespace Relaxation

/-- All that one change of impulse can do: nothing, or a kick of two spheres that brings the row to
its proposed impulse. -/
theorem relax_cases (s : Relaxation K) (k : Nat) :
    s.relax k = (s, 0) ∨
      ∃ row a b, s.rows[k]? = some row ∧ s.spheres[row.contact.bodyA]? = some a ∧
        s.spheres[row.contact.bodyB]? = some b ∧
        s.relax k =
          (⟨row.contact.updateBodies s.spheres (row.kick (row.proposed a b - row.impulse)),
            s.rows.set k { row with impulse := row.proposed a b }⟩,
          row.proposed a b - row.impulse) := by
  rw [relax]
  split
  · exact .inl rfl
  · rename_i row hrow
    split
    · rename_i a b ha hb
      exact .inr ⟨row, a, b, hrow, ha, hb, rfl⟩
    · exact .inl rfl

theorem relaxEach_induction {P : Relaxation K → Prop} (step : ∀ s k, P s → P (s.relax k).1)
    {s : Relaxation K} (h : P s) (sumSq : K) (ks : List Nat) : P (s.relaxEach sumSq ks).1 := by
  induction ks generalizing s sumSq with
  | nil => exact h
  | cons k ks ih => exact ih (step s k h) _

theorem iterate_succ (tolerance : K) (limit : Nat) (s : Relaxation K) (change : K) (done : Nat) :
    iterate tolerance (limit + 1) s change done =
      if s.sweep.2 ≤ tolerance then (s.sweep.1, s.sweep.2, done + 1)
      else iterate tolerance limit s.sweep.1 s.sweep.2 (done + 1) := rfl

theorem iterate_induction {P : Relaxation K → Prop} (step : ∀ s k, P s → P (s.relax k).1)
    (tolerance : K) (limit : Nat) {s : Relaxation K} (h : P s) (change : K) (done : Nat) :
    P (iterate tolerance limit s change done).1 := by
  induction limit generalizing s change done with
  | zero => exact h
  | succ limit ih =>
    have hsweep : P s.sweep.1 := relaxEach_induction step h 0 _
    rw [iterate_succ]
    split
    · exact hsweep
    · exact ih hsweep _ _

/-- A sequential solution ends in a state with every property that each change of impulse keeps. -/
theorem exists_solve_eq {P : Relaxation K → Prop} {spheres : List (Sphere K)}
    {contacts : List (Contact K)} (params : SolverParameters K) (dt : K)
    (h : P (.start spheres contacts params dt)) (step : ∀ s k, P s → P (s.relax k).1) :
    ∃ s, P s ∧ (solve spheres contacts params dt).1 = s.spheres := by
  rw [solve]
  split
  · exact ⟨_, h, rfl⟩
  · exact ⟨_, iterate_induction step _ _ h _ _, rfl⟩

/-- What every kick along one of the contacts keeps, a sequential solution keeps. -/
theorem solve_induction {P : List (Sphere K) → Prop} {spheres : List (Sphere K)}
    {contacts : List (Contact K)} (params : SolverParameters K) (dt : K) (h : P spheres)
    (kick : ∀ (row : ContactRow K) (applied : K) (spheres : List (Sphere K)),
      row.contact ∈ contacts → P spheres →
        P (row.contact.updateBodies spheres (row.kick applied))) :
    P (solve spheres contacts params dt).1 := by
  have hstart : ∀ r ∈ (start spheres contacts params dt).rows, r.contact ∈ contacts := by
    intro r hr
    obtain ⟨c, hc, rfl⟩ := List.mem_map.mp hr
    exact hc
  have hstep : ∀ (s : Relaxation K) (k : Nat),
      ((∀ r ∈ s.rows, r.contact ∈ contacts) ∧ P s.spheres) →
        (∀ r ∈ (s.relax k).1.rows, r.contact ∈ contacts) ∧ P (s.relax k).1.spheres := by
    -- A change of impulse leaves the contact of its row as it was.
    intro s k h'
    obtain ⟨hrows, hs⟩ := h'
    rcases relax_cases s k with heq | ⟨row, a, b, hrow, _, _, heq⟩
    · rw [heq]
      exact ⟨hrows, hs⟩
    · have hmem := hrows row (List.mem_of_getElem? hrow)
      rw [heq]
      refine ⟨?_, kick row _ s.spheres hmem hs⟩
      intro r hr
      rcases List.mem_or_eq_of_mem_set hr with hr | rfl
      · exact hrows r hr
      · exact hmem
  obtain ⟨s, ⟨_, hs⟩, heq⟩ := exists_solve_eq params dt ⟨hstart, h⟩ hstep
  rw [heq]
  exact hs

section Frame
variable {spheres : List (Sphere K)} {contacts : List (Contact K)}

/-- A solution leaves the spheres alone that are in no contact. -/
theorem solve_of_not_involves {i : ℕ} (h : ∀ c ∈ contacts, ¬ c.Involves i)
    (params : SolverParameters K) (dt : K) :
    (solve spheres contacts params dt).1[i]? = spheres[i]? := by
  apply solve_induction (P := fun l => l[i]? = spheres[i]?) params dt rfl
  intro row applied l hrow hl
  exact (Contact.getElem?_updateBodies_of_not_involves (h _ hrow) l _).trans hl

/-- A sequential solution changes nothing but velocities. -/
theorem map_solve {α : Type} (g : Sphere K → α)
    (hg : ∀ b v, g { b with velocity := v } = g b) (spheres : List (Sphere K))
    (contacts : List (Contact K)) (params : SolverParameters K) (dt : K) :
    (solve spheres contacts params dt).1.map g = spheres.map g := by
  apply solve_induction (P := fun l => l.map g = spheres.map g) params dt rfl
  intro row applied l _ hl
  exact (Contact.map_updateBodies g fun a b => ⟨hg a _, hg b _⟩).trans hl

end Frame

end Relaxation

namespace Contact

/-- What every response to one of the contacts keeps, a direct solution keeps. -/
theorem respondEach_induction {P : List (Sphere K) → Prop} {spheres : List (Sphere K)}
    {contacts : List (Contact K)} (params : SolverParameters K) (h : P spheres)
    (respond : ∀ (c : Contact K) (spheres : List (Sphere K)), c ∈ contacts → P spheres →
      P (c.updateBodies spheres (c.respond params.restitution))) :
    P (respondEach spheres contacts params) := by
  rw [respondEach]
  induction contacts generalizing spheres with
  | nil => exact h
  | cons c contacts ih =>
    refine ih (respond c spheres List.mem_cons_self h) ?_
    intro d spheres hd hs
    exact respond d spheres (List.mem_cons_of_mem c hd) hs

theorem respondEach_of_not_involves {spheres : List (Sphere K)} {contacts : List (Contact K)}
    {i : ℕ} (h : ∀ c ∈ contacts, ¬ c.Involves i) (params : SolverParameters K) :
    (respondEach spheres contacts params)[i]? = spheres[i]? := by
  apply respondEach_induction (P := fun l => l[i]? = spheres[i]?) params rfl
  intro c l hc hl
  exact (getElem?_updateBodies_of_not_involves (h c hc) l _).trans hl

/-- A direct solution changes nothing but positions and velocities. -/
theorem map_respondEach {α : Type} (g : Sphere K → α)
    (hg : ∀ b p v, g { b with position := p, velocity := v } = g b) (spheres : List (Sphere K))
    (contacts : List (Contact K)) (params : SolverParameters K) :
    (respondEach spheres contacts params).map g = spheres.map g := by
  apply respondEach_induction (P := fun l => l.map g = spheres.map g) params rfl
  intro c l _ hl
  refine (map_updateBodies g ?_).trans hl
  intro a b
  simp only [respond, push]
  split
  · exact ⟨hg a _ _, hg b _ _⟩
  · exact ⟨hg a _ a.velocity, hg b _ b.velocity⟩

end Contact

end SphereBench
