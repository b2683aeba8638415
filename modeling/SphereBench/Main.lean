import SphereBench.CommandLine.Run
import SphereBench.FileTree
/-!
# The program

The command in a process: it is timed by the clock of the system and writes its files there.
-/

namespace SphereBench

/-- What the system says about a file that cannot be written, with the number of the error if there
is one. -/
def systemErrorText : IO.Error → String
  | .alreadyExists _ code details
  | .interrupted _ code details
  | .noFileOrDirectory _ code details
  | .invalidArgument _ code details
  | .permissionDenied _ code details
  | .resourceExhausted _ code details
  | .inappropriateType _ code details
  | .noSuchThing _ code details
  | .otherError code details
  | .resourceBusy code details
  | .resourceVanished code details
  | .unsupportedOperation code details
  | .hardwareFault code details
  | .unsatisfiedConstraints code details
  | .illegalOperation code details
  | .protocolError code details
  | .timeExpired code details => FileError.withCode details code.toNat
  | .unexpectedEof => "unexpected end of file"
  | .userError text => text

/-- The process as the surroundings of the command. -/
def processHost : Host IO where
  timed compute := do
    let before ← IO.monoNanosNow
    let a ← IO.lazyPure compute
    let after ← IO.monoNanosNow
    return (a, (after - before).toFloat / 1e9)
  write path text := do
    try
      IO.FS.withFile path .write fun file => do
        file.putStr text
        file.flush
      return .ok ()
    catch e => return .error (systemErrorText e)

end SphereBench

/-- Runs the command and prints what it leaves behind. -/
def main (args : List String) : IO UInt32 := do
  let r ← SphereBench.Command.execute SphereBench.processHost args
  IO.print r.output
  IO.eprint r.errors
  return r.code.toUInt32
