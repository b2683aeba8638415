import SphereBench.Experiment.Logbook
import SphereBench.Experiment.World
import SphereBench.Statistic.VectorSignal
/-!
# Trials

A run drives a world for the duration of its configuration. After every step the tracked body is
compared with what it was before the first one, and the differences are taken into signals. The
values to compare with are read before the world gets its settings.

## Main definitions

* `Reference` — the values before the first step.
* `Traces` — the signals of one run.
* `World.observe` — the run itself.
* `World.conclude` — the check of the clock, the report and the logbook.
* `World.conduct` — both.
-/

namespace SphereBench

/-- The tracked body before the first step. -/
@[ext] structure Reference (K : Type) where
  position : Vec3 K
  velocity : Vec3 K
  angularMomentum : Vec3 K
  energy : K

/-- The differences observed in one run. -/
@[ext] structure Traces (K : Type) where
  /-- Offset from the first position. -/
  position : VectorSignal K
  /-- Change of the velocity. -/
  velocity : VectorSignal K
  /-- Change of the angular momentum, relative to its size. -/
  angularMomentum : VectorSignal K
  /-- Change of the energy, relative to its value. -/
  energy : Signal K
  /-- Changes of impulse, where the solver reports them. -/
  change : Signal K
  /-- Errors left in the contacts, where the solver reports them. -/
  residual : Signal K

/-- A completed run, before its conclusion. -/
structure Observation (K : Type) where
  /-- The clock before the first step. -/
  start : K
  reference : Reference K
  traces : Traces K

/-- Report on one run. -/
structure Report (K : Type) where
  steps : Nat
  /-- Seconds that the computation took. -/
  wallTime : K
  /-- Seconds that were simulated. -/
  simTime : K
  /-- Ratio of the two. -/
  timeRatio : K
  /-- Energy before the first step. -/
  energy0 : K
  /-- Size of the angular momentum before the first step. -/
  angularMomentum0 : K
  traces : Traces K

variable {K σ ε : Type} [Scalar K]

/-- The difference to a reference as a fraction of it; the plain difference if the reference is
zero. -/
@[inline] def relativeChange (x reference : K) : K :=
  if reference == 0 then x - reference else (x - reference) / reference

/-- The difference of two vectors as a fraction of a size; the plain difference if the size is
zero. -/
@[inline] def relativeOffset (v reference : Vec3 K) (size : K) : Vec3 K :=
  if size == 0 then v - reference else (v - reference) / size

/-- The names of the statistics that a run reports. -/
def reportedNames : String := "MaxAbs,Variance,Mean"

/-- The statistics that a run reports: those that `reportedNames` stands for. -/
def reportedStatistics : List Statistic := [.maxAbs, .variance, .mean]

namespace Traces

/-- Signals without samples, with the statistics that a run reports. -/
def start : Traces K :=
  let signal : Signal K := Signal.empty.enableKinds reportedStatistics
  let vector : VectorSignal K := VectorSignal.empty.enableKinds reportedStatistics
  ⟨vector, vector, vector, signal, signal, signal⟩

/-- The traces with the report of the solver on one step, if there is one. -/
def addDiagnostics (t : Traces K) : Option (Convergence K) → Traces K
  | none => t
  | some d =>
    { t with
      change := t.change.insert d.change
      residual := t.residual.insert d.residual }

/-- The traces with one more step, given what is observed after it. -/
def add (t : Traces K) (r : Reference K) (velocity position angularMomentum : Vec3 K) (energy : K)
    (diagnostics : Option (Convergence K)) : Traces K :=
  { t with
    velocity := t.velocity.insert (velocity - r.velocity)
    position := t.position.insert (position - r.position)
    angularMomentum :=
      t.angularMomentum.insert
        (relativeOffset angularMomentum r.angularMomentum r.angularMomentum.length)
    energy := t.energy.insert (relativeChange energy r.energy) }.addDiagnostics diagnostics

end Traces

namespace Instrument

/-- The values to compare with, read in this order. -/
def reference (i : Instrument K σ) (s : σ) : Except (RunError K ε) (Reference K) := do
  let position ← i.vector s .position
  let velocity ← i.vector s .linearVelocity
  let angularMomentum ← i.vector s .angularMomentum
  let energy ← i.scalar s .energy
  return ⟨position, velocity, angularMomentum, energy⟩

/-- The traces with what is observed after a step, read in this order. -/
def addTo (i : Instrument K σ) (r : Reference K) (t : Traces K) (s : σ) :
    Except (RunError K ε) (Traces K) := do
  let velocity ← i.vector s .linearVelocity
  let position ← i.vector s .position
  let angularMomentum ← i.vector s .angularMomentum
  let energy ← i.scalar s .energy
  return t.add r velocity position angularMomentum energy (i.diagnostics s)

end Instrument

namespace Config

/-- What a world is told before its first step. -/
def settings (c : Config K) : StepSettings K := ⟨c.dt, c.iterations, c.tolerance⟩

/-- The force on the tracked body in every step. -/
def push (c : Config K) : Vec3 K := .alongZ c.force

end Config

namespace World

/-- One step under a force: the traces with what is observed after it, or the first failure, and
the state in either case. -/
def stepOnce (w : World K σ ε) (force : Vec3 K) (r : Reference K) (t : Traces K) (s : σ) :
    Except (RunError K ε) (Traces K) × σ :=
  match w.applyForce force s with
  | (.error e, s) => (.error (.world e), s)
  | (.ok (), s) =>
    match w.step s with
    | (.error e, s) => (.error (.world e), s)
    | (.ok (), s) => (w.addTo r t s, s)

/-- A number of steps, up to the first failure. -/
def stepMany (w : World K σ ε) (force : Vec3 K) (r : Reference K) :
    Nat → Traces K → σ → Except (RunError K ε) (Traces K) × σ
  | 0, t, s => (.ok t, s)
  | n + 1, t, s =>
    match w.stepOnce force r t s with
    | (.error e, s) => (.error e, s)
    | (.ok t, s) => w.stepMany force r n t s

/-- A run of a configuration, up to the first failure. A configuration that is refused leaves the
world untouched. -/
def observe (w : World K σ ε) (c : Config K) (s : σ) :
    Except (RunError K ε) (Observation K) × σ :=
  match c.check with
  | .error fault => (.error (.invalidConfig fault), s)
  | .ok () =>
    let start := w.time s
    match w.reference s with
    | .error e => (.error e, s)
    | .ok r =>
      match w.configure c.settings s with
      | (.error e, s) => (.error (.world e), s)
      | (.ok (), s) =>
        match w.stepMany c.push r c.stepCount .start s with
        | (.error e, s) => (.error e, s)
        | (.ok t, s) => (.ok ⟨start, r, t⟩, s)

end World

namespace Report

/-- The entries that a report makes in a logbook; the computing time is entered apart. -/
def entries (r : Report K) : List (String × Entry K) :=
  [("simTime", .value r.simTime), ("timeRatio", .value r.timeRatio),
    ("energy0", .value r.energy0), ("energyError", .ofSignal r.traces.energy),
    ("angMomentum0", .value r.angularMomentum0),
    ("angMomentumErr", .ofSignal r.traces.angularMomentum.magnitude),
    ("linPositionErr", .ofSignal r.traces.position.magnitude),
    ("linVelocityErr", .ofSignal r.traces.velocity.magnitude),
    ("rmsErrorTotal", .ofSignal r.traces.change),
    ("constraintResidualTotal", .ofSignal r.traces.residual)]

/-- The report as an object. -/
def toJson (r : Report Float) : Json :=
  .object
    [("steps", .count r.steps), ("wall_time", .number r.wallTime),
      ("sim_time", .number r.simTime), ("time_ratio", .number r.timeRatio),
      ("energy0", .number r.energy0), ("ang_momentum0", .number r.angularMomentum0),
      ("lin_position", r.traces.position.toJson), ("lin_velocity", r.traces.velocity.toJson),
      ("ang_momentum", r.traces.angularMomentum.toJson), ("energy", r.traces.energy.toJson),
      ("rms_error", r.traces.change.toJson), ("constraint_residual", r.traces.residual.toJson)]

end Report

namespace World

/-- How far the clock may be from the duration, in time steps. -/
@[inline] def allowedDrift : K := 1.1

/-- The end of a completed run that took `wallTime`: the report, unless the clock is too far from
the duration, and the logbook. The computing time is entered in either case. -/
def conclude (c : Config K) (wallTime clock : K) (o : Observation K) (book : Logbook K) :
    Except (RunError K ε) (Report K) × Logbook K :=
  let book := book.insert "wallTime" (.value wallTime)
  let simTime := clock - o.start
  let tolerance := c.dt * allowedDrift
  if tolerance < Scalar.abs (simTime - c.duration) then
    (.error (.drift c.duration simTime tolerance), book)
  else
    let report : Report K :=
      { steps := c.stepCount
        wallTime := wallTime
        simTime := simTime
        timeRatio := wallTime / simTime
        energy0 := o.reference.energy
        angularMomentum0 := o.reference.angularMomentum.length
        traces := o.traces }
    (.ok report, book.insertAll report.entries)

/-- What a run leaves behind. -/
structure Outcome (K σ ε : Type) where
  result : Except (RunError K ε) (Report K)
  book : Logbook K
  /-- The world as the run left it. -/
  state : σ

/-- A run of a configuration that takes `wallTime`, entered into a logbook. A run that fails
before its last step leaves the logbook as it was. -/
def conduct (w : World K σ ε) (c : Config K) (wallTime : K) (book : Logbook K) (s : σ) :
    Outcome K σ ε :=
  match w.observe c s with
  | (.error e, s) => ⟨.error e, book, s⟩
  | (.ok o, s) =>
    let (result, book) := conclude c wallTime (w.time s) o book
    ⟨result, book, s⟩

end World

end SphereBench
