import SphereBench.Body.Sphere
import SphereBench.Simulation.Error
/-!
# Simulations

A simulation is a list of spheres with global parameters, the time that has passed and the report
of the last step. Spheres are addressed by index, or by name through `Simulation.indexOf`, and
their mass properties are checked when they are set.

## Main definitions

* `Simulation` — the state; `Simulation.empty` and `Simulation.stack` are the ones to start from.
* `Simulation.add`, `Simulation.setMass`, `Simulation.setInertia` — checked changes.
* `Simulation.push`, `Simulation.twist` — what acts during the next step.
-/

namespace SphereBench

/-- Parameters of a whole simulation. -/
@[ext] structure SimulationParameters (K : Type) where
  /-- Acceleration of free fall. -/
  gravity : Vec3 K
  /-- Time step. -/
  dt : K
  solver : SolverParameters K

/-- The state of a simulation. -/
@[ext] structure Simulation (K : Type) where
  spheres : List (Sphere K)
  params : SimulationParameters K
  /-- Sum of the time steps so far. -/
  time : K
  /-- Report of the last step, if its solver makes one. -/
  diagnostics : Option (Diagnostics K)

variable {K : Type} [Scalar K]

/-- The parameters of a new simulation: the gravity of the earth and a time step of a
millisecond. -/
def SimulationParameters.default : SimulationParameters K := ⟨.alongZ (-9.81), 0.001, .default⟩

namespace Simulation

/-- A simulation without spheres. -/
def empty : Simulation K := ⟨[], .default, 0, none⟩

/-- The sphere with index `i` of a stack, the lowest one having index zero. -/
def stackSphere (radius : K) (i : Nat) : Sphere K :=
  .solid ("sphere_" ++ toString (i + 1)) (.alongZ (radius * ((2 * i + 1 : Nat) : K))) radius 1

/-- A stack of spheres of unit mass along the z axis, each touching its neighbours. There is no
ground below it. -/
def stack (count : Nat) (radius : K) : Simulation K :=
  { empty with spheres := (List.range count).map (stackSphere radius) }

theorem length_stack (count : Nat) (radius : K) : (stack count radius).spheres.length = count := by
  simp [stack]

theorem getElem?_stack_eq_some {count : Nat} {radius : K} {i : Nat} {b : Sphere K} :
    (stack count radius).spheres[i]? = some b ↔ i < count ∧ stackSphere radius i = b := by
  simp only [stack, List.getElem?_map, Option.map_eq_some_iff, List.getElem?_eq_some_iff,
    List.getElem_range, List.length_range, exists_prop]
  constructor
  · rintro ⟨_, ⟨hi, rfl⟩, hb⟩
    exact ⟨hi, hb⟩
  · rintro ⟨hi, hb⟩
    exact ⟨i, ⟨hi, rfl⟩, hb⟩

/-- The first sphere with a name. -/
def indexOf (s : Simulation K) (name : String) : Except (SimulationError K) Nat :=
  match s.spheres.findIdx? (·.name == name) with
  | some i => .ok i
  | none => .error (.unknownBody name)

/-- The sphere with an index. -/
def sphere (s : Simulation K) (i : Nat) : Except (SimulationError K) (Sphere K) :=
  match s.spheres[i]? with
  | some b => .ok b
  | none => .error (.indexOutOfRange i)

/-- A change of the sphere with an index. -/
def modify (s : Simulation K) (i : Nat) (change : Sphere K → Sphere K) :
    Except (SimulationError K) (Simulation K) :=
  (s.sphere i).map fun b => { s with spheres := s.spheres.set i (change b) }

/-- A mass has to be positive and finite. -/
def checkMass (mass : K) : Except (SimulationError K) Unit :=
  if Scalar.isPositiveFinite mass then .ok () else .error (.invalidMass mass)

/-- Principal moments have to be positive and finite. -/
def checkInertia (inertia : Vec3 K) : Except (SimulationError K) Unit :=
  if inertia.isFinite && decide (0 < inertia.minComponent) then .ok ()
  else .error (.invalidInertia inertia)

/-- One more solid sphere at rest, and its index. -/
def add (s : Simulation K) (name : String) (position : Vec3 K) (radius mass : K) :
    Except (SimulationError K) (Nat × Simulation K) :=
  (checkMass mass).map fun _ =>
    (s.spheres.length, { s with spheres := s.spheres ++ [.solid name position radius mass] })

/-- Another mass for a sphere, whose moments of inertia are kept. The mass is checked before the
index. -/
def setMass (s : Simulation K) (i : Nat) (mass : K) :
    Except (SimulationError K) (Simulation K) :=
  (checkMass mass).bind fun _ => s.modify i ({ · with mass := mass })

/-- Other principal moments for a sphere. The moments are checked before the index. -/
def setInertia (s : Simulation K) (i : Nat) (inertia : Vec3 K) :
    Except (SimulationError K) (Simulation K) :=
  (checkInertia inertia).bind fun _ => s.modify i ({ · with inertia := inertia })

/-- A further force on a sphere during the next step. -/
def push (s : Simulation K) (i : Nat) (force : Vec3 K) :
    Except (SimulationError K) (Simulation K) :=
  s.modify i fun b => { b with force := b.force + force }

/-- A further torque on a sphere during the next step. -/
def twist (s : Simulation K) (i : Nat) (torque : Vec3 K) :
    Except (SimulationError K) (Simulation K) :=
  s.modify i fun b => { b with torque := b.torque + torque }

/-- Inertia tensor of a sphere in the frame of the world. -/
def worldInertia (s : Simulation K) (i : Nat) : Except (SimulationError K) (Mat3 K) :=
  (s.sphere i).map Sphere.worldInertia

/-- Energy of a sphere. -/
def energy (s : Simulation K) (i : Nat) : Except (SimulationError K) K :=
  (s.sphere i).map (·.energy s.params.gravity)

/-- Energy of all spheres. -/
def totalEnergy (s : Simulation K) : K :=
  Scalar.sum (s.spheres.map (·.energy s.params.gravity))

end Simulation

end SphereBench
