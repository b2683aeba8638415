import Mathlib.Data.List.Nodup
import SphereBench.Simulation.Basic
/-!
# Names of spheres

A name is looked up from the lowest index on, so of several spheres with one name the first is
found. Where no two share a name, every sphere is found under its own. The spheres of a stack are
numbered from one, and no two numbers are written alike. None of this depends on the scalars.
-/

namespace SphereBench
variable {K : Type}

/-! ## Look-up -/

namespace Simulation

variable {s : Simulation K} {i : ℕ} {name : String}

/-- The index of a name is that of the first sphere that has it. -/
theorem indexOf_eq_ok_iff :
    s.indexOf name = .ok i ↔
      (∃ b, s.spheres[i]? = some b ∧ b.name = name) ∧
        ∀ j < i, ∀ b, s.spheres[j]? = some b → b.name ≠ name := by
  have hfind : s.indexOf name = .ok i ↔ s.spheres.findIdx? (·.name == name) = some i := by
    rw [indexOf]
    cases s.spheres.findIdx? (·.name == name) <;> simp
  rw [hfind, List.findIdx?_eq_some_iff_getElem]
  constructor
  · rintro ⟨hi, hname, hbefore⟩
    refine ⟨⟨_, List.getElem?_eq_getElem hi, eq_of_beq hname⟩, ?_⟩
    intro j hj b hb
    obtain ⟨_, rfl⟩ := List.getElem?_eq_some_iff.mp hb
    exact fun h => hbefore j hj (beq_iff_eq.mpr h)
  · rintro ⟨⟨b, hb, hname⟩, hbefore⟩
    obtain ⟨hi, rfl⟩ := List.getElem?_eq_some_iff.mp hb
    refine ⟨hi, beq_iff_eq.mpr hname, ?_⟩
    intro j hj h
    exact hbefore j hj _ (List.getElem?_eq_getElem (Nat.lt_trans hj hi)) (eq_of_beq h)

/-- A look-up fails for a name that no sphere has, and the error tells which. -/
theorem indexOf_eq_error_iff {e : SimulationError K} :
    s.indexOf name = .error e ↔ (∀ b ∈ s.spheres, b.name ≠ name) ∧ e = .unknownBody name := by
  have hnone : s.spheres.findIdx? (·.name == name) = none ↔ ∀ b ∈ s.spheres, b.name ≠ name := by
    simp only [List.findIdx?_eq_none_iff, beq_eq_false_iff_ne]
  rw [← hnone, indexOf]
  cases s.spheres.findIdx? (·.name == name) <;> simp [eq_comm]

/-- Where no two spheres share a name, each is found under its own. -/
theorem indexOf_of_nodup (h : (s.spheres.map (·.name)).Nodup) {b : Sphere K}
    (hb : s.spheres[i]? = some b) : s.indexOf b.name = .ok i := by
  rw [indexOf_eq_ok_iff]
  refine ⟨⟨b, hb, rfl⟩, ?_⟩
  intro j hj a ha hname
  have hlength : j < (s.spheres.map (·.name)).length := by
    rw [List.length_map]
    exact (List.getElem?_eq_some_iff.mp ha).1
  have hsame : (s.spheres.map (·.name))[j]? = (s.spheres.map (·.name))[i]? := by
    rw [List.getElem?_map, List.getElem?_map, ha, hb, Option.map_some, Option.map_some, hname]
  exact Nat.ne_of_lt hj ((List.getElem?_inj hlength h).mp hsame)

end Simulation

/-! ## Numbers as names -/

/-- The name of the sphere with a number in a stack; the lowest sphere has number one. -/
def stackName (k : ℕ) : String := "sphere_" ++ toString k

/-- No two numbers are written alike. -/
theorem stackName_injective : Function.Injective stackName := by
  intro k l h
  rw [stackName, stackName, String.append_right_inj, Nat.toString_eq_ofList_toDigits,
    Nat.toString_eq_ofList_toDigits, String.ofList_inj] at h
  -- A number can be read back from its digits.
  rw [← Nat.ofDigitChars_ten_toDigits (n := k), h, Nat.ofDigitChars_ten_toDigits]

/-- The spheres have the names of their numbers, which are their indices counted from one. -/
def IsNumbered (spheres : List (Sphere K)) : Prop :=
  ∀ (i : ℕ) (b : Sphere K), spheres[i]? = some b → b.name = stackName (i + 1)

/-- The names of a simulation are those with the numbers up to `count`, in their order and each of
them once. A look-up finds the sphere with each number, and no other name. -/
structure Simulation.FindsByNumber (s : Simulation K) (count : ℕ) : Prop where
  names : s.spheres.map (·.name) = (List.range' 1 count).map stackName
  nodup : (s.spheres.map (·.name)).Nodup
  found : ∀ k, 1 ≤ k → k ≤ count → s.indexOf (stackName k) = .ok (k - 1)
  unknown : ∀ name, (∀ k, 1 ≤ k → k ≤ count → name ≠ stackName k) →
    s.indexOf name = .error (.unknownBody name)

namespace IsNumbered

variable {spheres : List (Sphere K)} {s : Simulation K} {k : ℕ}

/-- The spheres of a new stack. -/
theorem stack [Scalar K] (count : ℕ) (radius : K) :
    IsNumbered (Simulation.stack count radius).spheres := by
  intro i b hb
  obtain ⟨_, rfl⟩ := Simulation.getElem?_stack_eq_some.mp hb
  rfl

theorem map_name (h : IsNumbered spheres) :
    spheres.map (·.name) = (List.range' 1 spheres.length).map stackName := by
  refine List.ext_getElem (by simp) ?_
  intro i hi _
  rw [List.length_map] at hi
  rw [List.getElem_map, List.getElem_map, List.getElem_range', h i _ (List.getElem?_eq_getElem hi),
    Nat.one_mul, Nat.add_comm]

theorem nodup (h : IsNumbered spheres) : (spheres.map (·.name)).Nodup := by
  rw [h.map_name]
  exact (List.nodup_range' 1).map stackName_injective

theorem indexOf_stackName (h : IsNumbered s.spheres) (hk : 1 ≤ k) (hle : k ≤ s.spheres.length) :
    s.indexOf (stackName k) = .ok (k - 1) := by
  have hb : s.spheres[k - 1]? = some _ := List.getElem?_eq_getElem (by omega)
  have hname := h (k - 1) _ hb
  rw [Nat.sub_add_cancel hk] at hname
  rw [← hname]
  exact Simulation.indexOf_of_nodup h.nodup hb

theorem indexOf_of_ne (h : IsNumbered s.spheres) {name : String}
    (hname : ∀ k, 1 ≤ k → k ≤ s.spheres.length → name ≠ stackName k) :
    s.indexOf name = .error (.unknownBody name) := by
  rw [Simulation.indexOf_eq_error_iff]
  refine ⟨?_, rfl⟩
  intro b hb
  obtain ⟨i, hi⟩ := List.mem_iff_getElem?.mp hb
  have hlength := (List.getElem?_eq_some_iff.mp hi).1
  rw [h i b hi]
  exact (hname (i + 1) (by omega) hlength).symm

/-- Numbered spheres are found by their numbers. -/
theorem findsByNumber (h : IsNumbered s.spheres) : s.FindsByNumber s.spheres.length where
  names := h.map_name
  nodup := h.nodup
  found _ hk hle := h.indexOf_stackName hk hle
  unknown _ hname := h.indexOf_of_ne hname

end IsNumbered

end SphereBench
