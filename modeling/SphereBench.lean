import SphereBench.Body.Motion
import SphereBench.Body.Sphere
import SphereBench.CommandLine.Memory
import SphereBench.CommandLine.Options
import SphereBench.CommandLine.Run
import SphereBench.Contact.Basic
import SphereBench.Contact.Detection
import SphereBench.Contact.Response
import SphereBench.Decimal.Reader
import SphereBench.Decimal.Shortest
import SphereBench.Decimal.Style
import SphereBench.Experiment.Config
import SphereBench.Experiment.Logbook
import SphereBench.Experiment.Stack
import SphereBench.Experiment.Trial
import SphereBench.Experiment.World
import SphereBench.FileTree
import SphereBench.Json.Literal
import SphereBench.Json.Value
import SphereBench.Scalar
import SphereBench.Scalar.Double
import SphereBench.Scalar.Hypot
import SphereBench.Simulation.Basic
import SphereBench.Simulation.Error
import SphereBench.Simulation.Step
import SphereBench.Solver.Basic
import SphereBench.Solver.Direct
import SphereBench.Solver.Sequential
import SphereBench.Space.Matrix
import SphereBench.Space.Quaternion
import SphereBench.Space.Vector
import SphereBench.Statistic.Json
import SphereBench.Statistic.Kind
import SphereBench.Statistic.Signal
import SphereBench.Statistic.Tally
import SphereBench.Statistic.VectorSignal
import SphereBench.Text.Blank
import SphereBench.Text.Caseless
import SphereBench.Text.Pieces
import SphereBench.Main
import SphereBench.Proofs.Exact.Scalar
import SphereBench.Proofs.Exact.Vector
import SphereBench.Proofs.Contact.AllPairs
import SphereBench.Proofs.Contact.Bodies
import SphereBench.Proofs.Contact.Normal
import SphereBench.Proofs.Body.Energy
import SphereBench.Proofs.Space.Rotation
import SphereBench.Proofs.Body.Isotropic
import SphereBench.Proofs.Simulation.Calls
import SphereBench.Proofs.Simulation.Momentum
import SphereBench.Proofs.Simulation.Passivity
import SphereBench.Proofs.Simulation.Rotation
import SphereBench.Proofs.Simulation.Run
import SphereBench.Proofs.Solver.Impulse
import SphereBench.Proofs.Solver.Convergence
import SphereBench.Proofs.Solver.Sweeps
import SphereBench.Proofs.Solver.Feasible
import SphereBench.Proofs.Solver.Descent
import SphereBench.Proofs.Solver.Certificate
import SphereBench.Proofs.Solver.EarlyExit
import SphereBench.Proofs.Solver.Ledger
import SphereBench.Proofs.Contact.Independent
import SphereBench.Proofs.Solver.Independent
import SphereBench.Proofs.Solver.Agreement
import SphereBench.Proofs.Simulation.Operations
import SphereBench.Proofs.Simulation.Inertia
import SphereBench.Proofs.Cluster.Members
import SphereBench.Proofs.Cluster.Decoupling
import SphereBench.Proofs.Galilean.Frame
import SphereBench.Proofs.Galilean.Solver
import SphereBench.Proofs.Galilean.Run
import SphereBench.Proofs.Body.Rest
import SphereBench.Proofs.Simulation.Stack
import SphereBench.Proofs.Statistic.Exact
import SphereBench.Proofs.Statistic.Names
import SphereBench.Proofs.Statistic.Calls
import SphereBench.Proofs.Statistic.Lockstep
import SphereBench.Proofs.Statistic.Signal
import SphereBench.Proofs.Statistic.TwoPass
import SphereBench.Proofs.Double.Order
import SphereBench.Proofs.Statistic.Extrema
import SphereBench.Proofs.Simulation.Naming
import SphereBench.Proofs.Simulation.Layout
import SphereBench.Proofs.Experiment.Trial
import SphereBench.Proofs.Experiment.Stack
import SphereBench.Proofs.Experiment.FreeFall
import SphereBench.Proofs.Experiment.Interaction
import SphereBench.Proofs.Experiment.Batch
import SphereBench.Proofs.Experiment.Logbook
import SphereBench.Proofs.Experiment.Ending
import SphereBench.Proofs.Experiment.Clock
import SphereBench.Proofs.Simulation.Reachable
import SphereBench.Proofs.Contact.Located
import SphereBench.Proofs.Solver.Guarded
import SphereBench.Proofs.Simulation.Safety
import SphereBench.Proofs.Contact.Geometry
import SphereBench.Proofs.Contact.Penetration
import SphereBench.Proofs.Contact.Exchange
import SphereBench.Proofs.Solver.Exchange
import SphereBench.Proofs.Body.ConstantForce
import SphereBench.Proofs.Space.Orthogonal
import SphereBench.Proofs.Body.Inertia
import SphereBench.Proofs.Text.Parts
