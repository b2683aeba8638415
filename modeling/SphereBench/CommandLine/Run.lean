import SphereBench.CommandLine.Options
import SphereBench.Experiment.Stack
/-!
# The command

The command makes the runs that its arguments ask for and writes their logbooks as JSON: one object
for one run, an array for several. All runs are made before anything is written, and the first one
that fails ends the command.

What the command needs from its surroundings is a clock and a place for files. It is written for
any monad that offers them.
-/

namespace SphereBench

/-- The surroundings of the command. -/
structure Host (m : Type → Type) where
  /-- Computes a value and tells how many seconds it took. -/
  timed : {α : Type} → (Unit → α) → m (α × Float)
  /-- Writes a text to the file with a path, or tells why it cannot. -/
  write : (path text : String) → m (Except String Unit)

/-- What the command leaves behind. -/
structure Response where
  code : Nat
  /-- For the standard output. -/
  output : String
  /-- For the standard error. -/
  errors : String
  deriving DecidableEq, Repr

/-- A failure with what it happened to and its chain of causes. -/
structure Failure where
  context : String
  causes : List String
  deriving DecidableEq, Repr

namespace Failure

/-- The causes in the order of the chain, numbered if there are several. -/
def causeLines (causes : List String) : List String :=
  match causes with
  | [cause] => ["    " ++ cause]
  | causes => causes.zipIdx.map fun (cause, i) => "    " ++ toString i ++ ": " ++ cause

/-- The text shown to the user. -/
def message (f : Failure) : String :=
  "Error: " ++ f.context ++ "\n\nCaused by:\n" ++ "\n".intercalate (causeLines f.causes)

end Failure

/-- An error of a run with the error of the world behind it. -/
def RunError.causes (e : RunError Float (SimulationError Float)) : List String :=
  e.message SimulationError.message ::
    match e with
    | .world cause => [cause.message]
    | _ => []

namespace Command
variable {m : Type → Type} [Monad m]

/-- The name and the version of the command. -/
def versionText : String := "sphere_stack 0.1.0"

/-- A short description of the command and its options. -/
def helpText : String :=
  "\n".intercalate
    ["Momentum and energy accuracy of a five-sphere stack",
      "",
      "Usage: sphere_stack [OPTIONS]",
      "",
      "Options:",
      "      --solver <SOLVER>          Contact solver (sequential or direct) " ++
        "[default: sequential]",
      "      --iterations <ITERATIONS>  Solver iterations per step [default: 50]",
      "      --dt <DT>                  Time step in seconds [default: 0.001]",
      "      --mass <MASS>              Top-sphere masses, comma separated [default: 1.0]",
      "      --gravity <GRAVITY>        z component of gravity [default: -1]",
      "      --force <FORCE>            z force applied to the top sphere every step [default: 0]",
      "      --tolerance <TOLERANCE>    Solver convergence tolerance [default: 0]",
      "      --duration <DURATION>      Simulated seconds per run [default: 10]",
      "      --suite <SUITE>            Predefined runs (mass-sweep or high-gravity)",
      "  -o, --output <OUTPUT>          Write the JSON report here instead of stdout",
      "  -h, --help                     Print help",
      "  -V, --version                  Print version"]

/-- The text for arguments that are refused. -/
def usageText (e : UsageError) : String :=
  "error: " ++ e.message ++ "\n\nUsage: sphere_stack [OPTIONS]\n\n" ++
    "For more information, try '--help'.\n"

/-- The logbook of one run. -/
def runOne (host : Host m) (c : Config Float) : m (Except Failure (Logbook Float)) := do
  let failure (e : RunError Float (SimulationError Float)) : Failure :=
    ⟨c.solver.name ++ " run with mass " ++ Decimal.Style.plain.text c.mass ++ " failed", e.causes⟩
  let (observed, seconds) ← host.timed fun _ => observeStack c
  match observed with
  | .error e => return .error (failure e)
  | .ok (o, t) =>
    match World.conclude c seconds t.simulation.time o (c.enterIn .empty) with
    | (.error e, _) => return .error (failure e)
    | (.ok _, book) => return .ok book

/-- The logbooks of several runs, or the first failure. -/
def runAll (host : Host m) : List (Config Float) → m (Except Failure (List (Logbook Float)))
  | [] => return .ok []
  | c :: cs => do
    match ← runOne host c with
    | .error e => return .error e
    | .ok r =>
      match ← runAll host cs with
      | .error e => return .error e
      | .ok rs => return .ok (r :: rs)

/-- The JSON text of some logbooks. -/
def reportText : List (Logbook Float) → String
  | [r] => r.toJson.pretty
  | rs => (Json.array (rs.map Logbook.toJson)).pretty

/-- A report on a failure. -/
def failed (f : Failure) : Response := ⟨1, "", f.message ++ "\n"⟩

/-- Makes the runs of some settings and writes their logbooks. -/
def run (host : Host m) (o : Options) : m Response := do
  match ← runAll host o.configs with
  | .error f => return failed f
  | .ok books =>
    let text := reportText books
    match o.output with
    | none => return ⟨0, text ++ "\n", ""⟩
    | some path =>
      match ← host.write path text with
      | .ok () => return ⟨0, "", ""⟩
      | .error cause => return failed ⟨"Failed to write report to " ++ path, [cause]⟩

/-- Does what the arguments ask for. -/
def execute (host : Host m) (args : List String) : m Response :=
  match Request.ofArguments args with
  | .error e => return ⟨2, "", usageText e⟩
  | .ok .version => return ⟨0, versionText ++ "\n", ""⟩
  | .ok .help => return ⟨0, helpText ++ "\n", ""⟩
  | .ok (.run o) => run host o

end Command

end SphereBench
