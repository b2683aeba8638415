import Mathlib.Logic.Function.Iterate
import SphereBench.Proofs.Body.Energy
import SphereBench.Proofs.Galilean.Frame
import SphereBench.Proofs.Simulation.Calls
/-!
# Motion under constant forces

Between contacts a sphere moves as its own mass and forces tell, whatever the other spheres do and
however it turns. Because the velocity is updated first and moves the centre afterwards, the `k`-th
step moves it by the velocity after `k` steps, so that positions add up in triangular numbers, where
a smooth motion would have half a square. A constant force is a gravity of its own. A force that is
there for one step only changes the frame in which the rest of the motion is seen. The energy of the
centre is not kept: every step loses the same amount, whichever way the sphere moves.
-/

namespace SphereBench

namespace Sphere

/-- A sphere with a further pending force. -/
noncomputable def pushed (force : Vec3 ℝ) (s : Sphere ℝ) : Sphere ℝ :=
  { s with force := s.force + force }

/-- The energy of the motion of the centre and of its height. -/
noncomputable def centreEnergy (gravity : Vec3 ℝ) (s : Sphere ℝ) : ℝ :=
  s.linearEnergy - s.mass * gravity.dot s.position

theorem energy_eq (gravity : Vec3 ℝ) (s : Sphere ℝ) :
    s.energy gravity = s.centreEnergy gravity + s.spinEnergy := by
  rw [energy, kineticEnergy_eq, centreEnergy]
  ring

variable (gravity : Vec3 ℝ) (dt : ℝ) {s : Sphere ℝ}

@[simp] theorem iterate_advance_mass (s : Sphere ℝ) (n : ℕ) :
    ((advance gravity dt)^[n] s).mass = s.mass := by
  induction n with
  | zero => rfl
  | succ n ih => rw [Function.iterate_succ_apply', advance_mass, ih]

theorem iterate_advance_force (hforce : s.force = 0) (n : ℕ) :
    ((advance gravity dt)^[n] s).force = 0 := by
  cases n with
  | zero => exact hforce
  | succ n => rw [Function.iterate_succ_apply', advance_force]

/-- With nothing pending, the velocity grows in proportion to the number of steps. -/
theorem iterate_advance_velocity (hforce : s.force = 0) (n : ℕ) :
    ((advance gravity dt)^[n] s).velocity = s.velocity + gravity * (n * dt : ℝ) := by
  induction n with
  | zero => simp [Vec3.mul_eq_smul]
  | succ n ih =>
    rw [Function.iterate_succ_apply', advance_velocity, iterate_advance_force gravity dt hforce, ih,
      Vec3.zero_div, add_zero]
    simp only [Vec3.mul_eq_smul]
    push_cast
    module

/-- The `k`-th step moves the centre by the velocity after `k` steps. -/
theorem iterate_advance_position (hforce : s.force = 0) (n : ℕ) :
    ((advance gravity dt)^[n] s).position =
      s.position + s.velocity * (n * dt : ℝ) + gravity * (dt ^ 2 * triangle n) := by
  induction n with
  | zero => simp [Vec3.mul_eq_smul]
  | succ n ih =>
    have hvelocity := iterate_advance_velocity gravity dt hforce (n + 1)
    rw [Function.iterate_succ_apply'] at hvelocity ⊢
    rw [advance_position, hvelocity, ih, triangle_succ]
    simp only [Vec3.mul_eq_smul]
    push_cast
    module

/-- Every step loses the same amount of energy, however the sphere moves. -/
theorem centreEnergy_iterate_advance (hforce : s.force = 0) (n : ℕ) :
    ((advance gravity dt)^[n] s).centreEnergy gravity =
      s.centreEnergy gravity - n * (1 / 2 * s.mass * gravity.lengthSq * dt ^ 2) := by
  rw [centreEnergy, linearEnergy, iterate_advance_velocity gravity dt hforce,
    iterate_advance_position gravity dt hforce, iterate_advance_mass, centreEnergy, linearEnergy,
    triangle]
  simp only [Vec3.lengthSq, Vec3.dot, Vec3.add_x, Vec3.add_y, Vec3.add_z, Vec3.mul_x, Vec3.mul_y,
    Vec3.mul_z]
  ring

/-- A pending force acts on the centre as a gravity, and on nothing else. -/
theorem advance_pushed (hforce : s.force = 0) (force : Vec3 ℝ) :
    (s.pushed force).advance gravity dt = s.advance (gravity + force / s.mass) dt := by
  have hvelocity : ((s.pushed force).advance gravity dt).velocity =
      (s.advance (gravity + force / s.mass) dt).velocity := by
    simp only [advance_velocity, pushed, hforce, zero_add, Vec3.zero_div, add_zero]
  have hposition : ((s.pushed force).advance gravity dt).position =
      (s.advance (gravity + force / s.mass) dt).position := by
    rw [advance_position, advance_position, hvelocity]
    rfl
  exact Sphere.ext rfl hposition rfl hvelocity rfl rfl rfl rfl rfl rfl

/-- So does a force that is added again before each step. -/
theorem iterate_advance_pushed (hforce : s.force = 0) (force : Vec3 ℝ) (n : ℕ) :
    (fun s => (pushed force s).advance gravity dt)^[n] s =
      (advance (gravity + force / s.mass) dt)^[n] s := by
  induction n with
  | zero => rfl
  | succ n ih =>
    have hquiet := iterate_advance_force (gravity + force / s.mass) dt hforce n
    rw [Function.iterate_succ_apply', ih, advance_pushed gravity dt hquiet, iterate_advance_mass]
    exact (Function.iterate_succ_apply' _ n s).symm

end Sphere

/-- Motion in the same gravity looks the same from a frame that moves uniformly. -/
theorem Boost.iterate_advance_sphere (f : Boost) (gravity : Vec3 ℝ) (dt : ℝ) (s : Sphere ℝ)
    (n : ℕ) :
    (Sphere.advance gravity dt)^[n] (f.sphere s) =
      (f.later 0 dt n).sphere ((Sphere.advance gravity dt)^[n] s) := by
  induction n with
  | zero => rw [later_zero]; rfl
  | succ n ih =>
    have hstep := (f.later 0 dt n).advance_sphere gravity 0 dt ((Sphere.advance gravity dt)^[n] s)
    rw [add_zero, later_later] at hstep
    rw [Function.iterate_succ_apply', ih, hstep, Function.iterate_succ_apply']

/-- A force that is pending for one step gives the rest of the motion a further velocity. -/
theorem Sphere.advance_pushed_eq_boost (gravity : Vec3 ℝ) (dt : ℝ) (s : Sphere ℝ)
    (force : Vec3 ℝ) :
    (s.pushed force).advance gravity dt =
      (Boost.mk (force / s.mass * dt * dt) (force / s.mass * dt)).sphere
        (s.advance gravity dt) := by
  have hvelocity : ((s.pushed force).advance gravity dt).velocity =
      (s.advance gravity dt).velocity + force / s.mass * dt := by
    ext <;> simp only [advance_velocity, pushed, Vec3.add_x, Vec3.add_y, Vec3.add_z, Vec3.mul_x,
      Vec3.mul_y, Vec3.mul_z, Vec3.div_x, Vec3.div_y, Vec3.div_z] <;> ring
  have hposition : ((s.pushed force).advance gravity dt).position =
      (s.advance gravity dt).position + force / s.mass * dt * dt := by
    rw [advance_position, advance_position, hvelocity]
    simp only [pushed, Vec3.mul_eq_smul]
    module
  exact Sphere.ext rfl hposition rfl hvelocity rfl rfl rfl rfl rfl rfl

namespace Bodies
noncomputable section

/-- The spheres after a step without contacts. -/
def move (gravity : Vec3 ℝ) (dt : ℝ) (spheres : List (Sphere ℝ)) : List (Sphere ℝ) :=
  spheres.map (Sphere.advance gravity dt)

/-- The spheres with a further force on each of them, given by its index. -/
def pushEach (force : ℕ → Vec3 ℝ) (spheres : List (Sphere ℝ)) : List (Sphere ℝ) :=
  spheres.mapIdx fun i => Sphere.pushed (force i)

/-- The spheres after a step before which the forces have been added. -/
def drive (gravity : Vec3 ℝ) (dt : ℝ) (force : ℕ → Vec3 ℝ) (spheres : List (Sphere ℝ)) :
    List (Sphere ℝ) :=
  move gravity dt (pushEach force spheres)

end

variable (gravity : Vec3 ℝ) (dt : ℝ) (force : ℕ → Vec3 ℝ) (spheres : List (Sphere ℝ)) (i n : ℕ)

/-- No sphere sees the others. -/
theorem getElem?_iterate_move :
    ((move gravity dt)^[n] spheres)[i]? = spheres[i]?.map (Sphere.advance gravity dt)^[n] := by
  induction n with
  | zero => simp
  | succ n ih =>
    rw [Function.iterate_succ_apply', move, List.getElem?_map, ih, Option.map_map,
      ← Function.iterate_succ']

theorem getElem?_iterate_drive :
    ((drive gravity dt force)^[n] spheres)[i]? =
      spheres[i]?.map (fun s => (s.pushed (force i)).advance gravity dt)^[n] := by
  induction n with
  | zero => simp
  | succ n ih =>
    rw [Function.iterate_succ_apply', drive, move, pushEach, List.getElem?_map,
      List.getElem?_mapIdx, ih, Option.map_map, Option.map_map, Function.iterate_succ']
    rfl

variable {spheres i} {b : Sphere ℝ}

/-- A force that is pending at the first step only adds to all later velocities what it gave to the
first one, and moves the centre accordingly. -/
theorem getElem?_iterate_move_pushEach (hb : spheres[i]? = some b) :
    ∃ b', ((move gravity dt)^[n + 1] spheres)[i]? = some b' ∧
      ((move gravity dt)^[n + 1] (pushEach force spheres))[i]? =
        some { b' with
          velocity := b'.velocity + force i / b.mass * dt
          position := b'.position + force i / b.mass * dt * ((n + 1 : ℕ) * dt : ℝ) } := by
  have hpushed : (pushEach force spheres)[i]? = some (b.pushed (force i)) := by
    rw [pushEach, List.getElem?_mapIdx, hb, Option.map_some]
  -- The first step puts the sphere into a moving frame, in which the others take place.
  refine ⟨(Sphere.advance gravity dt)^[n + 1] b, ?_, ?_⟩
  · rw [getElem?_iterate_move, hb, Option.map_some]
  · rw [getElem?_iterate_move, hpushed, Option.map_some, Function.iterate_succ_apply,
      Sphere.advance_pushed_eq_boost, Boost.iterate_advance_sphere, ← Function.iterate_succ_apply,
      Option.some.injEq]
    refine Sphere.ext rfl ?_ rfl ?_ rfl rfl rfl rfl rfl rfl
    · simp only [Boost.sphere_position, Boost.later, Vec3.mul_eq_smul]
      push_cast
      module
    · simp only [Boost.sphere_velocity, Boost.later, Vec3.zero_mul, add_zero]

/-- A step of a simulation that finds no contacts is free motion. -/
theorem spheres_advance_of_no_contact {s : Simulation ℝ} (h : s.contacts = []) :
    s.advance.spheres = move s.params.gravity s.params.dt s.spheres :=
  Simulation.solveContacts_of_no_contact h s.params.solver s.params.dt

/-- **Motion without contacts.** Let no force be pending on a sphere of a list. If a constant force
is added to it again before each of `n` steps, its velocity has grown by `n` times the acceleration
of gravity and force over `dt`, and its centre has moved by `n` times the first velocity over `dt`
and by the triangular number of `n` times the acceleration over the square of `dt`. If it is added
before the first step only, all velocities are greater by what it gave at that step, the centre
moves accordingly, and nothing else is different. Without any force, each step takes the same amount
out of the energy of the centre. -/
theorem motion_iterate_drive (hb : spheres[i]? = some b) (hforce : b.force = 0) :
    (∃ b', ((drive gravity dt force)^[n] spheres)[i]? = some b' ∧
      b'.velocity = b.velocity + (gravity + force i / b.mass) * (n * dt : ℝ) ∧
      b'.position = b.position + b.velocity * (n * dt : ℝ) +
        (gravity + force i / b.mass) * (dt ^ 2 * (n * (n + 1) / 2) : ℝ)) ∧
    (∃ b', ((move gravity dt)^[n + 1] spheres)[i]? = some b' ∧
      ((move gravity dt)^[n + 1] (pushEach force spheres))[i]? =
        some { b' with
          velocity := b'.velocity + force i / b.mass * dt
          position := b'.position + force i / b.mass * dt * ((n + 1 : ℕ) * dt : ℝ) }) ∧
    (∃ b', ((move gravity dt)^[n] spheres)[i]? = some b' ∧
      b'.centreEnergy gravity =
        b.centreEnergy gravity - n * (1 / 2 * b.mass * gravity.lengthSq * dt ^ 2)) := by
  refine ⟨?_, getElem?_iterate_move_pushEach gravity dt force n hb, ?_⟩
  · refine ⟨(Sphere.advance (gravity + force i / b.mass) dt)^[n] b, ?_, ?_, ?_⟩
    · rw [getElem?_iterate_drive, hb, Option.map_some, Sphere.iterate_advance_pushed _ _ hforce]
    · exact Sphere.iterate_advance_velocity _ _ hforce n
    · exact Sphere.iterate_advance_position _ _ hforce n
  · refine ⟨(Sphere.advance gravity dt)^[n] b, ?_, Sphere.centreEnergy_iterate_advance _ _ hforce n⟩
    rw [getElem?_iterate_move, hb, Option.map_some]

/-- A sphere that is thrown along the first axis and spins, with three different moments. -/
noncomputable def thrown : Sphere ℝ :=
  { Sphere.solid "thrown" 0 1 2.0 with
    velocity := ⟨1, 0, 0⟩
    spin := ⟨1, 0, 4.0⟩
    inertia := ⟨1, 2.0, 3.0⟩ }

/-- Three steps of a tenth, with and without a force along the second axis. -/
theorem motion_thrown :
    let spheres := [Sphere.solid "other" ⟨9, 0, 0⟩ 1 5, thrown]
    let gravity : Vec3 ℝ := .alongZ (-10)
    let force : ℕ → Vec3 ℝ := fun i => ⟨0, 4 * i, 0⟩
    spheres[1]? = some thrown ∧ thrown.force = 0 ∧
      (∃ b', ((drive gravity 0.1 force)^[3] spheres)[1]? = some b' ∧
        b'.velocity = ⟨1, 0.6, -3⟩ ∧ b'.position = ⟨0.3, 0.12, -0.6⟩) ∧
      (∃ b', ((move gravity 0.1)^[3] (pushEach force spheres))[1]? = some b' ∧
        b'.velocity = ⟨1, 0.2, -3⟩ ∧ b'.position = ⟨0.3, 0.06, -0.6⟩) ∧
      (∃ b', ((move gravity 0.1)^[3] spheres)[1]? = some b' ∧
        b'.centreEnergy gravity = thrown.centreEnergy gravity - 3) := by
  intro spheres gravity force
  have hget : spheres[1]? = some thrown := rfl
  have hforce : thrown.force = 0 := rfl
  obtain ⟨⟨b₁, hb₁, hvelocity, hposition⟩, -, ⟨b₃, hb₃, henergy⟩⟩ :=
    motion_iterate_drive gravity 0.1 force 3 hget hforce
  obtain ⟨-, ⟨b₂, hb₂, hpushed⟩, -⟩ := motion_iterate_drive gravity 0.1 force 2 hget hforce
  have hfree : b₂ = (Sphere.advance gravity 0.1)^[3] thrown := by
    rw [getElem?_iterate_move, hget, Option.map_some, Option.some.injEq] at hb₂
    exact hb₂.symm
  refine ⟨hget, hforce, ⟨b₁, hb₁, ?_, ?_⟩, ⟨_, hpushed, ?_, ?_⟩, ⟨b₃, hb₃, ?_⟩⟩
  · rw [hvelocity]
    ext <;> norm_num [gravity, force, thrown, Sphere.solid, Vec3.alongZ]
  · rw [hposition]
    ext <;> norm_num [gravity, force, thrown, Sphere.solid, Vec3.alongZ]
  · rw [hfree, Sphere.iterate_advance_velocity gravity 0.1 hforce]
    ext <;> norm_num [gravity, force, thrown, Sphere.solid, Vec3.alongZ]
  · rw [hfree, Sphere.iterate_advance_position gravity 0.1 hforce]
    ext <;> norm_num [gravity, force, thrown, Sphere.solid, Vec3.alongZ, triangle]
  · rw [henergy]
    norm_num [gravity, thrown, Sphere.solid, Vec3.alongZ, Vec3.lengthSq, Vec3.dot]

end Bodies

end SphereBench
