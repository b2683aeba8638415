import SphereBench.Decimal.Reader
import SphereBench.Experiment.Config
import SphereBench.Scalar.Double
import SphereBench.Text.Pieces
/-!
# Options of the command line

The arguments are read from left to right. An option is a word after two hyphens, or one of a few
letters after one, and takes its value from the same argument or from the next one. The first
argument that is wrong, or that asks for the version or for help, decides the result.

## Main definitions

* `Flag` — the options that take a value.
* `Argument.read` — what one argument is.
* `Options` — the settings chosen so far; `Options.set` changes one.
* `Request.ofArguments` — what the arguments ask for.
* `Options.configs` — the runs to be made.
-/

namespace SphereBench

/-- An option that takes a value. -/
inductive Flag where
  | solver
  | iterations
  | dt
  | mass
  | gravity
  | force
  | tolerance
  | duration
  | suite
  | output
  deriving DecidableEq, Repr

namespace Flag

/-- Every option that takes a value. -/
def all : List Flag :=
  [solver, iterations, dt, mass, gravity, force, tolerance, duration, suite, output]

/-- The word of an option. -/
def name : Flag → String
  | solver => "solver"
  | iterations => "iterations"
  | dt => "dt"
  | mass => "mass"
  | gravity => "gravity"
  | force => "force"
  | tolerance => "tolerance"
  | duration => "duration"
  | suite => "suite"
  | output => "output"

/-- Whether the option may be given more than once. -/
def repeatable (f : Flag) : Bool := f = mass

/-- Whether a negative number may stand in an argument of its own. -/
def takesNegative (f : Flag) : Bool := f = gravity || f = force

/-- The option with a word; abbreviations are not understood. -/
def ofName? (cs : List Char) : Option Flag := all.find? fun f => f.name.toList == cs

end Flag

/-- What one argument is. -/
inductive Argument where
  /-- An option whose value is the next argument. -/
  | opening (flag : Flag)
  /-- An option with its value. -/
  | complete (flag : Flag) (value : String)
  | version
  | help
  /-- The mark after which no argument is an option. -/
  | endOfOptions
  /-- Anything else. -/
  | unknown
  deriving DecidableEq, Repr

namespace Argument

/-- An argument that starts with two hyphens, without them. A value follows the first equals sign;
the words that take no value must not have one. -/
def readWord (cs : List Char) : Argument :=
  let word := cs.takeWhile (· ≠ '=')
  let value := cs.dropWhile (· ≠ '=')
  match Flag.ofName? word with
  | some f => if value = [] then opening f else complete f (String.ofList (value.drop 1))
  | none =>
    if cs = "version".toList then version
    else if cs = "help".toList then help
    else unknown

/-- An argument that starts with one hyphen, without it. -/
def readLetters : List Char → Argument
  | 'o' :: '=' :: value => complete .output (String.ofList value)
  | ['o'] => opening .output
  | 'o' :: value => complete .output (String.ofList value)
  | 'V' :: _ => version
  | 'h' :: _ => help
  | _ => unknown

/-- What an argument is, where no value is expected. -/
def read (arg : String) : Argument :=
  match arg.toList with
  | ['-', '-'] => endOfOptions
  | '-' :: '-' :: cs => readWord cs
  | '-' :: cs => readLetters cs
  | _ => unknown

end Argument

/-- Digits, with a point and with a power of ten that has no sign, where the first character has to
be a digit: what is taken for a number after a hyphen. -/
def looksLikeNumber (cs : List Char) : Bool :=
  let (whole, rest) := Decimal.spanDigits cs
  let (_, power) := Decimal.takeFraction rest
  decide (whole ≠ []) &&
    match power with
    | [] => true
    | c :: ds => (c = 'e' || c = 'E') && (Decimal.natOfText? ds).isSome

/-- Whether an argument can be the value of an option that precedes it. An argument with a hyphen in
front cannot, apart from the hyphen alone and from negative numbers where they are expected. -/
def Flag.acceptsNext (f : Flag) (arg : String) : Bool :=
  match arg.toList with
  | ['-'] => true
  | '-' :: cs => f.takesNegative && looksLikeNumber cs
  | _ => true

/-- A predefined set of runs. -/
inductive Suite where
  /-- Every solver with every mass of the standard sweep. -/
  | masses
  /-- Every solver with small steps in strong gravity. -/
  | strongGravity
  deriving DecidableEq, Repr

namespace Suite

/-- Every suite. -/
def all : List Suite := [masses, strongGravity]

/-- The name of a suite. -/
def name : Suite → String
  | masses => "mass-sweep"
  | strongGravity => "high-gravity"

/-- The suite with exactly this name. -/
def ofName? (s : String) : Option Suite := all.find? fun suite => suite.name == s

end Suite

/-- The settings of the command line. -/
structure Options where
  solver : Solver := .sequential
  iterations : Nat := 50
  dt : Float := 0.001
  /-- Masses of the top sphere in the order given; if there are none, one run has unit mass. -/
  masses : List Float := []
  gravity : Float := -1.0
  force : Float := 0.0
  tolerance : Float := 0.0
  duration : Float := 10.0
  /-- Replaces all settings but the duration. -/
  suite : Option Suite := none
  /-- Where the report is written instead of the standard output. -/
  output : Option String := none

/-- Why the arguments are refused. -/
inductive UsageError where
  | unexpected (arg : String)
  | missingValue (flag : Flag)
  | invalidValue (flag : Flag) (value : String)
  | repeated (flag : Flag)
  deriving DecidableEq, Repr

namespace UsageError

/-- The sentence shown to the user. -/
def message : UsageError → String
  | unexpected arg => "unexpected argument '" ++ arg ++ "' found"
  | missingValue flag =>
    "a value is required for '--" ++ flag.name ++ "' but none was supplied"
  | invalidValue flag value =>
    "invalid value '" ++ value ++ "' for '--" ++ flag.name ++ "'"
  | repeated flag => "the argument '--" ++ flag.name ++ "' cannot be used multiple times"

end UsageError

namespace Options

/-- The number of sweeps that a text denotes: a whole number of 32 bits without a sign of its
own. -/
def readIterations? (s : String) : Option Nat := do
  let n ← Decimal.readInt? s
  if 0 ≤ n ∧ n.toNat < UInt32.size then some n.toNat else none

/-- The settings with another value for an option, if the value can be read. -/
def set? (o : Options) (f : Flag) (value : String) : Option Options :=
  match f with
  | .solver => (Solver.ofName? value).map fun k => { o with solver := k }
  | .iterations => (readIterations? value).map fun n => { o with iterations := n }
  | .dt => (Decimal.readFloat? value).map fun x => { o with dt := x }
  | .mass =>
    ((Text.pieces ',' value).mapM Decimal.readFloat?).map fun xs =>
      { o with masses := o.masses ++ xs }
  | .gravity => (Decimal.readFloat? value).map fun x => { o with gravity := x }
  | .force => (Decimal.readFloat? value).map fun x => { o with force := x }
  | .tolerance => (Decimal.readFloat? value).map fun x => { o with tolerance := x }
  | .duration => (Decimal.readFloat? value).map fun x => { o with duration := x }
  | .suite => (Suite.ofName? value).map fun s => { o with suite := some s }
  | .output => if value = "" then none else some { o with output := some value }

/-- The runs to be made, in order. -/
def configs (o : Options) : List (Config Float) :=
  match o.suite with
  | some .masses =>
    Solver.all.flatMap fun k =>
      ({ Config.default with solver := k, duration := o.duration } : Config Float).acrossMasses
  | some .strongGravity =>
    Solver.all.map fun k => { Config.strongGravity k with duration := o.duration }
  | none =>
    (if o.masses = [] then [1.0] else o.masses).map fun mass =>
      { solver := o.solver
        iterations := o.iterations
        dt := o.dt
        mass := mass
        gravity := o.gravity
        force := o.force
        tolerance := o.tolerance
        duration := o.duration }

end Options

/-- What the arguments ask for. -/
inductive Request where
  | run (options : Options)
  | version
  | help

namespace Request

/-- The settings with another value for an option that has not been given before, unless it may be
repeated. -/
def assign (o : Options) (seen : List Flag) (f : Flag) (value : String) :
    Except UsageError Options :=
  if f ∈ seen ∧ ¬ f.repeatable then .error (.repeated f)
  else
    match o.set? f value with
    | some o => .ok o
    | none => .error (.invalidValue f value)

/-- What the arguments ask for, after some that chose the settings `o` by the options `seen`. -/
def read (o : Options) (seen : List Flag) : List String → Except UsageError Request
  | [] => .ok (.run o)
  | arg :: rest =>
    match Argument.read arg with
    | .version => .ok .version
    | .help => .ok .help
    | .unknown => .error (.unexpected arg)
    | .endOfOptions =>
      match rest with
      | [] => .ok (.run o)
      | extra :: _ => .error (.unexpected extra)
    | .complete f value =>
      match assign o seen f value with
      | .error e => .error e
      | .ok o => read o (f :: seen) rest
    | .opening f =>
      match rest with
      | [] => .error (.missingValue f)
      | value :: rest =>
        if f.acceptsNext value then
          match assign o seen f value with
          | .error e => .error e
          | .ok o => read o (f :: seen) rest
        else .error (.missingValue f)

/-- What the arguments ask for. -/
def ofArguments (args : List String) : Except UsageError Request := read {} [] args

end Request

end SphereBench
