import SphereBench.CommandLine.Run
import SphereBench.FileTree
/-!
# The command in memory

The command as a function of its arguments and a tree of files. It takes no time.
-/

namespace SphereBench

/-- A tree of files as the surroundings of the command. -/
def FileTree.host : Host (StateM FileTree) where
  timed compute := return (compute (), 0.0)
  write path text := do
    match (← get).write path text with
    | .error e => return .error e.message
    | .ok t =>
      set t
      return .ok ()

/-- What the command leaves behind on a tree of files. What it writes to the standard output by way
of a file comes first there. -/
def Command.runIn (t : FileTree) (args : List String) : Response × FileTree :=
  let (r, t) := (execute FileTree.host args).run t
  ({ r with output := t.printed ++ r.output }, t)

end SphereBench
