import SphereBench.Proofs.Galilean.Frame
import SphereBench.Proofs.Contact.Bodies
import SphereBench.Simulation.Step
/-!
# Solvers in another frame

Both solvers give the same impulses in every frame of reference. For the sequential solver this
includes the targets, the measure of the change by which the sweeps end, and the report.
-/

namespace SphereBench.Boost
noncomputable section

/-- A row seen from the other frame. -/
def row (f : Boost) (r : ContactRow ℝ) : ContactRow ℝ := { r with contact := f.contact r.contact }

/-- A state between two changes of impulse seen from the other frame. -/
def relaxation (f : Boost) (s : Relaxation ℝ) : Relaxation ℝ :=
  ⟨s.spheres.map f.sphere, s.rows.map f.row⟩

end

variable (f : Boost)

@[simp] theorem row_contact (r : ContactRow ℝ) : (f.row r).contact = f.contact r.contact := rfl
@[simp] theorem row_target (r : ContactRow ℝ) : (f.row r).target = r.target := rfl
@[simp] theorem row_impulse (r : ContactRow ℝ) : (f.row r).impulse = r.impulse := rfl

@[simp] theorem length_rows_relaxation (s : Relaxation ℝ) :
    (f.relaxation s).rows.length = s.rows.length := by
  simp [relaxation]

theorem normalVelocity_map_sphere (c : Contact ℝ) (spheres : List (Sphere ℝ)) :
    (f.contact c).normalVelocity (spheres.map f.sphere) = c.normalVelocity spheres := by
  simp only [Contact.normalVelocity, contact_bodyA, contact_bodyB, List.getElem?_map]
  cases spheres[c.bodyA]? with
  | none => rfl
  | some a =>
    cases spheres[c.bodyB]? with
    | none => rfl
    | some b => exact f.separation_sphere c a b

theorem target_map_sphere (c : Contact ℝ) (params : SolverParameters ℝ) (dt : ℝ)
    (spheres : List (Sphere ℝ)) :
    (f.contact c).target params dt (spheres.map f.sphere) = c.target params dt spheres := by
  simp only [Contact.target, contact_depth, normalVelocity_map_sphere]

theorem violation_map_sphere (r : ContactRow ℝ) (spheres : List (Sphere ℝ)) :
    (f.row r).violation (spheres.map f.sphere) = r.violation spheres := by
  simp only [ContactRow.violation, row_contact, row_target, row_impulse,
    normalVelocity_map_sphere]

theorem proposed_sphere (r : ContactRow ℝ) (a b : Sphere ℝ) :
    (f.row r).proposed (f.sphere a) (f.sphere b) = r.proposed a b := by
  simp only [ContactRow.proposed, row_contact, row_target, row_impulse, separation_sphere,
    sphere_invMass]

theorem kick_sphere (r : ContactRow ℝ) (applied : ℝ) (a b : Sphere ℝ) :
    (f.row r).kick applied (f.sphere a) (f.sphere b) =
      (f.sphere (r.kick applied a b).1, f.sphere (r.kick applied a b).2) := by
  simp only [ContactRow.kick, row_contact, contact_normal, Sphere.invMass, sphere,
    add_sub_right_comm, add_right_comm]

theorem start_map_sphere (spheres : List (Sphere ℝ)) (contacts : List (Contact ℝ))
    (params : SolverParameters ℝ) (dt : ℝ) :
    Relaxation.start (spheres.map f.sphere) (contacts.map f.contact) params dt =
      f.relaxation (.start spheres contacts params dt) := by
  simp only [Relaxation.start, relaxation, List.map_map, Function.comp_def, target_map_sphere, row]

/-- A change of impulse is the same in both frames. -/
theorem relax_relaxation (s : Relaxation ℝ) (k : Nat) :
    (f.relaxation s).relax k = (f.relaxation (s.relax k).1, (s.relax k).2) := by
  simp only [Relaxation.relax, relaxation, List.getElem?_map]
  cases hrow : s.rows[k]? with
  | none => rfl
  | some r =>
    simp only [Option.map_some, row_contact, contact_bodyA, contact_bodyB]
    cases ha : s.spheres[r.contact.bodyA]? with
    | none => rfl
    | some a =>
      cases hb : s.spheres[r.contact.bodyB]? with
      | none => rfl
      | some b =>
        have hkick := Contact.updateBodies_map f.sphere (c := r.contact) (d := f.contact r.contact)
          s.spheres rfl rfl (f.kick_sphere r (r.proposed a b - r.impulse))
        simp only [Option.map_some, proposed_sphere, row_impulse, hkick, List.map_set]
        rfl

theorem relaxEach_relaxation (s : Relaxation ℝ) (sumSq : ℝ) (ks : List Nat) :
    (f.relaxation s).relaxEach sumSq ks =
      (f.relaxation (s.relaxEach sumSq ks).1, (s.relaxEach sumSq ks).2) := by
  induction ks generalizing s sumSq with
  | nil => rfl
  | cons k ks ih => simp only [Relaxation.relaxEach, relax_relaxation, ih]

theorem rootMean_relaxation (s : Relaxation ℝ) (sumSq : ℝ) :
    (f.relaxation s).rootMean sumSq = s.rootMean sumSq := by
  simp only [Relaxation.rootMean, length_rows_relaxation]

theorem sweep_relaxation (s : Relaxation ℝ) :
    (f.relaxation s).sweep = (f.relaxation s.sweep.1, s.sweep.2) := by
  simp only [Relaxation.sweep, relaxEach_relaxation, rootMean_relaxation, length_rows_relaxation]

/-- Sweeps end at the same point in both frames. -/
theorem iterate_relaxation (tolerance : ℝ) (limit : Nat) (s : Relaxation ℝ) (change : ℝ)
    (done : Nat) :
    Relaxation.iterate tolerance limit (f.relaxation s) change done =
      (f.relaxation (Relaxation.iterate tolerance limit s change done).1,
        (Relaxation.iterate tolerance limit s change done).2) := by
  induction limit generalizing s change done with
  | zero => rfl
  | succ limit ih =>
    simp only [Relaxation.iterate, sweep_relaxation, ih]
    split
    · rfl
    · rfl

theorem residual_relaxation (s : Relaxation ℝ) : (f.relaxation s).residual = s.residual := by
  simp only [Relaxation.residual, rootMean_relaxation]
  simp only [relaxation, List.map_map, Function.comp_def, violation_map_sphere]

theorem solve_map_sphere (spheres : List (Sphere ℝ)) (contacts : List (Contact ℝ))
    (params : SolverParameters ℝ) (dt : ℝ) :
    Relaxation.solve (spheres.map f.sphere) (contacts.map f.contact) params dt =
      ((Relaxation.solve spheres contacts params dt).1.map f.sphere,
        (Relaxation.solve spheres contacts params dt).2) := by
  simp only [Relaxation.solve, List.isEmpty_map, List.length_map, start_map_sphere,
    iterate_relaxation, residual_relaxation]
  split
  · rfl
  · rfl

theorem respondEach_map_sphere (spheres : List (Sphere ℝ)) (contacts : List (Contact ℝ))
    (params : SolverParameters ℝ) :
    Contact.respondEach (spheres.map f.sphere) (contacts.map f.contact) params =
      (Contact.respondEach spheres contacts params).map f.sphere := by
  simp only [Contact.respondEach]
  induction contacts generalizing spheres with
  | nil => rfl
  | cons c contacts ih =>
    have hrespond := Contact.updateBodies_map f.sphere (c := c) (d := f.contact c) spheres rfl rfl
      (f.respond_sphere c params.restitution)
    rw [List.map_cons, List.foldl_cons, List.foldl_cons, hrespond, ih]

/-- Both solvers change the spheres alike in both frames, and report the same. -/
theorem solveContacts_map_sphere (params : SolverParameters ℝ) (dt : ℝ)
    (spheres : List (Sphere ℝ)) :
    Simulation.solveContacts params dt (spheres.map f.sphere) =
      ((Simulation.solveContacts params dt spheres).1.map f.sphere,
        (Simulation.solveContacts params dt spheres).2) := by
  simp only [Simulation.solveContacts, detect_map_sphere, solve_map_sphere,
    respondEach_map_sphere]
  cases params.kind with
  | sequential => rfl
  | direct => rfl

end SphereBench.Boost
