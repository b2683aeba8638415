import SphereBench.Proofs.Body.Inertia
import SphereBench.Proofs.Simulation.Operations
import SphereBench.Scalar.Double
/-!
# Where inertia comes from

Principal moments are checked when they are set, but not when a sphere is added: a solid sphere gets
those of its mass, which is checked, and of its radius, which is not. A sphere without extent is
therefore accepted and has no inertia, until moments are set for it. Its inertia tensor is singular,
and the next step divides by the determinant. In exact arithmetic such spheres are the only ones
without inertia.
-/

namespace SphereBench

section Moments
variable {K : Type} [Scalar K]

namespace Simulation
variable {s : Simulation K} {i : ℕ} {b : Sphere K} {op : Operation K} {ops : List (Operation K)}

/-- Among the operations there is one that has set the moments of the sphere with index `i`, and was
accepted. -/
def SetsInertia (s : Simulation K) (i : ℕ) (ops : List (Operation K)) : Prop :=
  ∃ before inertia after, ops = before ++ .setInertia i inertia :: after ∧
    ((s.operateAll before).operate (.setInertia i inertia)).1 = .ok ()

theorem not_setsInertia_nil : ¬ s.SetsInertia i [] := by
  rintro ⟨before, inertia, after, hops, -⟩
  simp at hops

theorem setsInertia_concat :
    s.SetsInertia i (ops ++ [op]) ↔ s.SetsInertia i ops ∨
      ∃ inertia, op = .setInertia i inertia ∧
        ((s.operateAll ops).operate (.setInertia i inertia)).1 = .ok () := by
  constructor
  · rintro ⟨before, inertia, after, hops, hok⟩
    rcases List.eq_nil_or_concat after with rfl | ⟨after, last, rfl⟩
    · obtain ⟨rfl, hop⟩ := List.append_inj' hops rfl
      exact .inr ⟨inertia, List.singleton_inj.mp hop, hok⟩
    · rw [List.concat_eq_append, ← List.cons_append, ← List.append_assoc] at hops
      obtain ⟨rfl, -⟩ := List.append_inj' hops rfl
      exact .inl ⟨before, inertia, after, rfl, hok⟩
  · rintro (⟨before, inertia, after, rfl, hok⟩ | ⟨inertia, rfl, hok⟩)
    · exact ⟨before, inertia, after ++ [op], by simp, hok⟩
    · exact ⟨ops, inertia, [], rfl, hok⟩

theorem setInertia_of_ok {inertia : Vec3 K} (h : (s.operate (.setInertia i inertia)).1 = .ok ()) :
    checkInertia inertia = .ok () ∧ i < s.spheres.length ∧
      (s.operate (.setInertia i inertia)).2.spheres =
        s.spheres.modify i ({ · with inertia := inertia }) := by
  have heffect := effect_of_ok h
  generalize (s.operate (.setInertia i inertia)).2 = t at heffect ⊢
  cases heffect with
  | setInertia hinertia hi => exact ⟨hinertia, hi, rfl⟩

/-- Moments are set only for a sphere that is there, and it stays there. -/
theorem lt_length_of_setsInertia (h : s.SetsInertia i ops) :
    i < (s.operateAll ops).spheres.length := by
  obtain ⟨before, inertia, after, rfl, hok⟩ := h
  obtain ⟨-, hi, -⟩ := setInertia_of_ok hok
  rw [operateAll_append]
  refine operateAll_induction (P := fun t => i < t.spheres.length) ?_ hi _
  intro t op ht
  obtain ⟨b', hb', -⟩ := exists_kept (List.getElem?_eq_getElem ht) op
  exact (List.getElem?_eq_some_iff.mp hb').1

/-- Where the moments of a sphere come from: if moments have been set they were checked, and if not
they are those of a solid sphere with an accepted mass. -/
structure Moments (wasSet : Prop) (b : Sphere K) : Prop where
  checked : wasSet → checkInertia b.inertia = .ok ()
  solid : ¬ wasSet →
    ∃ mass, Scalar.isPositiveFinite mass ∧ b.inertia = Sphere.solidInertia mass b.radius

end Simulation

open Simulation in
/-- The moments of every sphere that can come about. Nobody has checked the radius from which those
of a solid sphere are made. -/
theorem Origin.moments_operateAll (hone : Scalar.isPositiveFinite (1 : K)) (origin : Origin K)
    (ops : List (Operation K)) {i : ℕ} {b : Sphere K}
    (hb : (origin.simulation.operateAll ops).spheres[i]? = some b) :
    Moments (origin.simulation.SetsInertia i ops) b := by
  -- From the end, so that the last operation decides.
  induction ops using List.reverseRecOn generalizing b with
  | nil =>
    obtain ⟨name, position, radius, rfl⟩ := origin.exists_solid (List.mem_of_getElem? hb)
    exact ⟨fun h => absurd h not_setsInertia_nil, fun _ => ⟨1, hone, rfl⟩⟩
  | append_singleton ops op ih =>
    rw [operateAll_append, operateAll_cons, operateAll_nil] at hb
    rw [setsInertia_concat]
    by_cases hset : ∃ inertia, op = .setInertia i inertia ∧
        ((origin.simulation.operateAll ops).operate (.setInertia i inertia)).1 = .ok ()
    · refine ⟨fun _ => ?_, fun hnot => absurd (.inr hset) hnot⟩
      obtain ⟨inertia, rfl, hok⟩ := hset
      obtain ⟨hcheck, hi, hspheres⟩ := setInertia_of_ok hok
      rw [hspheres, List.getElem?_modify, List.getElem?_eq_getElem hi] at hb
      simp only [if_true, Option.map_eq_map, Option.map_some, Option.some.injEq] at hb
      rw [← hb]
      exact hcheck
    · rw [or_iff_left hset]
      rcases kept_or_added hb with ⟨b₀, hb₀, hkept⟩ | ⟨hi, _, _, _, mass, -, hmass, rfl⟩
      · have hsame : b.inertia = b₀.inertia := by
          refine hkept.inertia.resolve_right ?_
          rintro ⟨inertia, rfl, hok, -⟩
          exact hset ⟨inertia, rfl, hok⟩
        obtain ⟨hchecked, hsolid⟩ := ih hb₀
        exact ⟨by rwa [hsame], by rwa [hsame, hkept.radius]⟩
      · refine ⟨fun hbefore => ?_, fun _ => ⟨mass, hmass, rfl⟩⟩
        exact absurd (lt_length_of_setsInertia hbefore) (Nat.not_lt.mpr hi)

end Moments

theorem Simulation.checkInertia_eq_ok_iff {inertia : Vec3 ℝ} :
    checkInertia inertia = .ok () ↔ 0 < inertia.x ∧ 0 < inertia.y ∧ 0 < inertia.z := by
  have hfinite : inertia.isFinite = true := rfl
  simp [checkInertia, hfinite, Vec3.minComponent]

/-- Orientations are rotations and stay so. -/
theorem Simulation.stable_normSq_orientation :
    Stable fun b : Sphere ℝ => b.orientation.normSq = 1 where
  solid _ _ _ _ _ := by simp [Sphere.solid, Quaternion.normSq, Quaternion.identity]
  setMass _ _ _ h := h
  setInertia _ _ _ h := h
  load _ _ _ h := h
  advance _ _ _ _ _ h := Quaternion.normSq_turn h _

/-- Moments that were set, and those of a solid sphere with an extent, are positive. -/
theorem Simulation.Moments.pos {wasSet : Prop} {b : Sphere ℝ} (h : Moments wasSet b)
    (hgood : b.radius ≠ 0 ∨ wasSet) : 0 < b.inertia.x ∧ 0 < b.inertia.y ∧ 0 < b.inertia.z := by
  by_cases hset : wasSet
  · exact checkInertia_eq_ok_iff.mp (h.checked hset)
  · obtain ⟨mass, hmass, hinertia⟩ := h.solid hset
    have hradius := mul_self_pos.mpr (hgood.resolve_right hset)
    rw [Scalar.isPositiveFinite_real, decide_eq_true_eq] at hmass
    have hpos : 0 < 0.4 * mass * b.radius * b.radius := by
      rw [mul_assoc]
      positivity
    rw [hinertia]
    exact ⟨hpos, hpos, hpos⟩

/-- A solid sphere without an extent has no moments. -/
theorem Simulation.Moments.eq_zero {wasSet : Prop} {b : Sphere ℝ} (h : Moments wasSet b)
    (hbad : ¬ (b.radius ≠ 0 ∨ wasSet)) : b.inertia = 0 := by
  obtain ⟨hradius, hset⟩ := not_or.mp hbad
  obtain ⟨mass, -, hinertia⟩ := h.solid hset
  rw [hinertia, not_not.mp hradius]
  ext <;> simp [Sphere.solidInertia, Vec3.const]

/-- **Which spheres have positive moments.** Exactly those with an extent, whatever the sign of
their radius, and those for which moments have been set. The others have no inertia at all, and only
for them a step divides by a determinant of zero. This is the condition of exact arithmetic. In
double precision it does not suffice: the square of a tiny radius underflows, and the moments are
zero although the sphere has an extent. -/
theorem Origin.inertia_pos_iff (origin : Origin ℝ) (ops : List (Operation ℝ)) {i : ℕ}
    {b : Sphere ℝ} (hb : (origin.simulation.operateAll ops).spheres[i]? = some b) :
    (0 < b.inertia.x ∧ 0 < b.inertia.y ∧ 0 < b.inertia.z ↔
      b.radius ≠ 0 ∨ origin.simulation.SetsInertia i ops) ∧
    (b.worldInertia.det ≠ 0 ↔ b.radius ≠ 0 ∨ origin.simulation.SetsInertia i ops) ∧
    (¬ (b.radius ≠ 0 ∨ origin.simulation.SetsInertia i ops) → b.inertia = 0) := by
  have hone : Scalar.isPositiveFinite (1 : ℝ) := by simp
  have hmoments := origin.moments_operateAll hone ops hb
  have hunit := origin.forall_mem_operateAll hone ops Simulation.stable_normSq_orientation b
    (List.mem_of_getElem? hb)
  rw [Sphere.det_worldInertia hunit]
  by_cases hgood : b.radius ≠ 0 ∨ origin.simulation.SetsInertia i ops
  · obtain ⟨hx, hy, hz⟩ := hmoments.pos hgood
    exact ⟨iff_of_true ⟨hx, hy, hz⟩ hgood, iff_of_true (by positivity) hgood,
      fun hbad => absurd hgood hbad⟩
  · have hzero := hmoments.eq_zero hgood
    rw [hzero]
    exact ⟨iff_of_false (by simp) hgood, iff_of_false (by simp) hgood, fun _ => rfl⟩

/-- The lowest sphere of a stack has an extent and needs no moments to be set; a point that is added
has none. -/
theorem Origin.inertia_pos_stack :
    (∃ b, ((Origin.stack 1 0.5 : Origin ℝ).simulation.operateAll []).spheres[0]? = some b ∧
      0 < b.inertia.x ∧ b.worldInertia.det ≠ 0) ∧
    ∃ b, ((Origin.empty : Origin ℝ).simulation.operateAll [.add "point" 0 0 1]).spheres[0]? =
      some b ∧ b.inertia = 0 ∧ b.worldInertia.det = 0 := by
  constructor
  · have hb : ((Origin.stack 1 0.5 : Origin ℝ).simulation.operateAll []).spheres[0]? =
        some (Simulation.stackSphere (0.5 : ℝ) 0) := rfl
    have hradius : (Simulation.stackSphere (0.5 : ℝ) 0).radius ≠ 0 := by
      norm_num [Simulation.stackSphere, Sphere.solid]
    obtain ⟨hpos, hdet, -⟩ := inertia_pos_iff (.stack 1 0.5) [] hb
    exact ⟨_, hb, (hpos.mpr (.inl hradius)).1, hdet.mpr (.inl hradius)⟩
  · have hb : ((Origin.empty : Origin ℝ).simulation.operateAll [.add "point" 0 0 1]).spheres[0]? =
        some (.solid "point" 0 0 1) := by
      simp [Simulation.operate, Simulation.add, Simulation.checkMass, Except.map,
        Simulation.settle, simulation, Simulation.empty]
    obtain ⟨-, hdet, hzero⟩ := inertia_pos_iff .empty [.add "point" 0 0 1] hb
    have hunset : ¬ ((Sphere.solid "point" 0 0 1 : Sphere ℝ).radius ≠ 0 ∨
        (Origin.empty : Origin ℝ).simulation.SetsInertia 0 [.add "point" 0 0 1]) := by
      rintro (hradius | hset)
      · exact hradius rfl
      · rw [← List.nil_append [_], Simulation.setsInertia_concat] at hset
        rcases hset with hset | ⟨inertia, hop, -⟩
        · exact Simulation.not_setsInertia_nil hset
        · cases hop
    exact ⟨_, hb, hzero hunset, not_not.mp (mt hdet.mp hunset)⟩

/-- In double precision a sphere without extent is accepted, although its moments would be refused
if they were set. Its inertia tensor is singular, and after the next step its spin is not a
number. -/
theorem Origin.singular_point :
    let s := (Origin.empty : Origin Float).simulation.operateAll [.add "point" 0 0 1]
    (∃ b ∈ s.spheres, ¬ 0 < b.inertia.minComponent ∧ b.worldInertia.det == 0) ∧
      ∃ b ∈ (s.operate (.call .step)).2.spheres, (b.spin.x == b.spin.x) = false := by
  decide +kernel

end SphereBench
