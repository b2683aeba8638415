import Mathlib.Analysis.SpecificLimits.Basic
import SphereBench.Proofs.Contact.Geometry
import SphereBench.Proofs.Contact.Restitution
/-!
# How a penetration is taken out

The shift of a response takes out a fraction of the penetration beyond the allowance, and the next
round has to find the contact anew, from positions that were moved by shares of the two masses. In
exact arithmetic the rounds do not disturb each other: the line of centres stays the same, and the
depth runs down to the allowance as a geometric sequence, without ever passing it. A penetration
within the allowance stays as it is.
-/

namespace SphereBench.Contact
open Filter Topology

/-- What one response leaves of a depth. -/
noncomputable def corrected (depth : ℝ) : ℝ := depth - 0.8 * max (depth - 0.01) 0

theorem corrected_of_le {d : ℝ} (h : d ≤ 0.01) : corrected d = d := by
  rw [corrected, max_eq_right (by linarith), mul_zero, sub_zero]

theorem corrected_of_ge {d : ℝ} (h : 0.01 ≤ d) : corrected d = 0.01 + (d - 0.01) * 0.2 := by
  rw [corrected, max_eq_left (by linarith)]
  ring

/-- A response never takes out all of a penetration. -/
theorem corrected_pos {d : ℝ} (h : 0 < d) : 0 < corrected d := by
  rcases le_total d 0.01 with hd | hd
  · rwa [corrected_of_le hd]
  · rw [corrected_of_ge hd]
    linarith

theorem corrected_le (d : ℝ) : corrected d ≤ d :=
  sub_le_self d (mul_nonneg (by norm_num) (le_max_right _ _))

/-- Each response leaves a fifth of what is beyond the allowance. -/
theorem iterate_corrected (d : ℝ) (k : ℕ) :
    corrected^[k] d = if d ≤ 0.01 then d else 0.01 + (d - 0.01) * 0.2 ^ k := by
  split
  · rename_i h
    exact Function.iterate_fixed (corrected_of_le h) k
  · rename_i h
    induction k with
    | zero => simp
    | succ k ih =>
      -- The depth so far is still beyond the allowance, so that this response corrects it as well.
      have hpow : 0 ≤ (d - 0.01) * 0.2 ^ k := mul_nonneg (by linarith) (by positivity)
      rw [Function.iterate_succ_apply', ih, corrected_of_ge (by linarith)]
      ring

/-- The depth never grows. -/
theorem antitone_iterate_corrected (d : ℝ) : Antitone fun k => corrected^[k] d := by
  refine antitone_nat_of_succ_le ?_
  intro k
  rw [Function.iterate_succ_apply']
  exact corrected_le _

/-- The depth runs down to the allowance, unless it was within it. -/
theorem tendsto_iterate_corrected (d : ℝ) :
    Tendsto (fun k => corrected^[k] d) atTop (𝓝 (min d 0.01)) := by
  by_cases h : d ≤ 0.01
  · simp only [iterate_corrected, if_pos h, min_eq_left h]
    exact tendsto_const_nhds
  · simp only [iterate_corrected, if_neg h, min_eq_right (not_le.mp h).le]
    have hpow : Tendsto (fun k : ℕ => (0.2 : ℝ) ^ k) atTop (𝓝 0) :=
      tendsto_pow_atTop_nhds_zero_of_lt_one (by norm_num) (by norm_num)
    simpa using (hpow.const_mul (d - 0.01)).const_add 0.01

/-- Two spheres whose centres are far enough from each other for a direction, with their masses,
their reach and the depth of their penetration along a normal. -/
structure Aligned (normal : Vec3 ℝ) (reach depth : ℝ) (pair : Sphere ℝ × Sphere ℝ) : Prop where
  massA : 0 < pair.1.mass
  massB : 0 < pair.2.mass
  unit : normal.lengthSq = 1
  reach_eq : pair.1.radius + pair.2.radius = reach
  offset : pair.2.position - pair.1.position = normal * (reach - depth)
  far : 1e-9 < reach - depth
  depth_pos : 0 < depth

namespace Aligned

variable {normal : Vec3 ℝ} {reach depth : ℝ} {pair : Sphere ℝ × Sphere ℝ}

theorem distance_pos (h : Aligned normal reach depth pair) : 0 < reach - depth :=
  lt_trans (by norm_num) h.far

theorem distance (h : Aligned normal reach depth pair) :
    pair.1.distance pair.2 = reach - depth := by
  rw [Sphere.distance, h.offset, Vec3.length_unit_mul h.unit h.distance_pos.le]

/-- Detection finds the normal and the depth. -/
theorem between? (h : Aligned normal reach depth pair) (i j : Nat) :
    ∃ c, Contact.between? i pair.1 j pair.2 = some c ∧ c.normal = normal ∧ c.depth = depth := by
  have hreach : 0 ≤ pair.1.radius + pair.2.radius := by
    rw [h.reach_eq]
    linarith [h.depth_pos, h.distance_pos]
  have hnear : pair.1.distance pair.2 < pair.1.radius + pair.2.radius := by
    rw [h.distance, h.reach_eq]
    linarith [h.depth_pos]
  refine ⟨meeting i pair.1 j pair.2, by rw [between?_eq hreach, if_pos hnear], ?_, ?_⟩
  · simp only [meeting, h.distance, h.offset, direction, if_pos h.far]
    ext <;> simp [h.distance_pos.ne']
  · simp only [meeting, h.distance, h.reach_eq, sub_sub_cancel]

/-- One round of detection and response corrects the depth and keeps everything else. -/
theorem collide (h : Aligned normal reach depth pair) (restitution : ℝ) (i j : Nat) :
    Aligned normal reach (corrected depth) (Contact.collide restitution i j pair) := by
  obtain ⟨c, hc, hnormal, hdepth⟩ := h.between? i j
  have hbalanced := balanced_respond c restitution
  obtain ⟨hA, hB⟩ := respond_frame c restitution pair.1 pair.2
  rw [collide_of_between? hc]
  refine ⟨?_, ?_, h.unit, ?_, ?_, ?_, corrected_pos h.depth_pos⟩
  · rw [hbalanced.massA]
    exact h.massA
  · rw [hbalanced.massB]
    exact h.massB
  · rw [hA, hB]
    exact h.reach_eq
  · -- The centres move apart by just what the response takes out of the depth.
    rw [offset_respond c restitution h.massA h.massB, h.offset, hnormal, hdepth, corrected]
    simp only [Vec3.mul_eq_smul]
    module
  · linarith [h.far, corrected_le depth]

theorem iterate_collide (h : Aligned normal reach depth pair) (restitution : ℝ) (i j k : Nat) :
    Aligned normal reach (corrected^[k] depth) ((Contact.collide restitution i j)^[k] pair) := by
  induction k with
  | zero => exact h
  | succ k ih =>
    rw [Function.iterate_succ_apply', Function.iterate_succ_apply']
    exact ih.collide restitution i j

end Aligned

/-- Two spheres that penetrate each other are aligned to the normal of their contact. -/
theorem aligned_meeting {a b : Sphere ℝ} (ha : 0 < a.mass) (hb : 0 < b.mass)
    (hfar : 1e-9 < a.distance b) (hnear : a.distance b < a.radius + b.radius) (i j : Nat) :
    Aligned (meeting i a j b).normal (a.radius + b.radius) (a.radius + b.radius - a.distance b)
      (a, b) where
  massA := ha
  massB := hb
  unit := lengthSq_normal_meeting i a j b
  reach_eq := rfl
  offset := by rw [sub_sub_cancel, normal_mul_distance (.inl hfar)]
  far := by rwa [sub_sub_cancel]
  depth_pos := sub_pos.mpr hnear

/-- **How a penetration is taken out.** In each of any number of rounds of detection and response
without motion in between, the two spheres still have a contact, its normal is the one they started
with, and its depth is within the allowance or decreases to it as a geometric sequence. -/
theorem penetration_collide {a b : Sphere ℝ} (ha : 0 < a.mass) (hb : 0 < b.mass)
    (hfar : 1e-9 < a.distance b) (hnear : a.distance b < a.radius + b.radius)
    (restitution : ℝ) (i j : Nat) :
    let d := a.radius + b.radius - a.distance b
    ∃ c : ℕ → Contact ℝ,
      (∀ k,
        let pair := (collide restitution i j)^[k] (a, b)
        between? i pair.1 j pair.2 = some (c k) ∧ (c k).normal = (c 0).normal ∧
          (c k).depth = if d ≤ 0.01 then d else 0.01 + (d - 0.01) * 0.2 ^ k) ∧
      Antitone (fun k => (c k).depth) ∧
        Tendsto (fun k => (c k).depth) atTop (𝓝 (min d 0.01)) := by
  intro d
  have haligned : Aligned (meeting i a j b).normal (a.radius + b.radius) d (a, b) :=
    aligned_meeting ha hb hfar hnear i j
  have hround := fun k => (haligned.iterate_collide restitution i j k).between? i j
  choose c hc hnormal hdepth using hround
  refine ⟨c, ?_, ?_, ?_⟩
  · intro k
    refine ⟨hc k, (hnormal k).trans (hnormal 0).symm, ?_⟩
    rw [hdepth, iterate_corrected]
  · simp only [hdepth]
    exact antitone_iterate_corrected d
  · simp only [hdepth]
    exact tendsto_iterate_corrected d

/-- Two rounds leave a twenty-fifth of what the one sphere is too deep in the other. -/
theorem penetration_mover_obstacle : 0 < mover.mass ∧ 0 < obstacle.mass ∧
    1e-9 < mover.distance obstacle ∧
    mover.distance obstacle < mover.radius + obstacle.radius ∧
    let pair := (collide 0.5 0 1)^[2] (mover, obstacle)
    ∃ c c', between? 0 mover 1 obstacle = some c ∧ c.depth = 0.01 + 0.49 ∧
      between? 0 pair.1 1 pair.2 = some c' ∧ c'.depth = 0.01 + 0.49 / 25 ∧
      c'.normal = c.normal := by
  have hdistance := distance_mover_obstacle
  have hm : mover.radius = 1 := rfl
  have ho : obstacle.radius = 1 := rfl
  have hmass : 0 < mover.mass := by norm_num [mover, Sphere.solid]
  have hmass' : 0 < obstacle.mass := by norm_num [obstacle, Sphere.solid]
  have hfar : 1e-9 < mover.distance obstacle := by norm_num [hdistance]
  have hnear : mover.distance obstacle < mover.radius + obstacle.radius := by
    norm_num [hdistance, hm, ho]
  obtain ⟨c, hround, _, _⟩ := penetration_collide hmass hmass' hfar hnear 0.5 0 1
  obtain ⟨hfirst, _, hdepth⟩ := hround 0
  obtain ⟨hlast, hnormal, hdepth'⟩ := hround 2
  refine ⟨hmass, hmass', hfar, hnear, c 0, c 2, hfirst, ?_, hlast, ?_, hnormal⟩
  · norm_num [hdepth, hdistance, hm, ho]
  · norm_num [hdepth', hdistance, hm, ho]

end SphereBench.Contact
