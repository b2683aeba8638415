import SphereBench.Text.Pieces
/-!
# Trees of files

Files and directories under their names, and what becomes of a text that is written to a path. A
path is followed name by name from the root or from the current directory. Whatever stops the walk
first is the error: a name that is missing, a node on the way that is no directory, a name that is
too long. There are no links, and nobody is refused access.

## Main definitions

* `FileError` — why a text cannot be written, with its message.
* `FileTree` — the tree.
* `FileTree.target` — where a path leads.
* `FileTree.write` — the tree after a text is written.
-/

namespace SphereBench

/-- Why a text cannot be written. -/
inductive FileError where
  | notFound
  /-- The file is a device that answers nobody. -/
  | noDevice
  /-- A node on the way is no directory. -/
  | notDirectory
  /-- The path leads to a directory, or it ends as only that of a directory may. -/
  | isDirectory
  | noSpace
  | nameTooLong
  deriving DecidableEq, Repr

namespace FileError

/-- The number of an error. -/
def code : FileError → Nat
  | notFound => 2
  | noDevice => 6
  | notDirectory => 20
  | isDirectory => 21
  | noSpace => 28
  | nameTooLong => 36

/-- An error in words. -/
def description : FileError → String
  | notFound => "No such file or directory"
  | noDevice => "No such device or address"
  | notDirectory => "Not a directory"
  | isDirectory => "Is a directory"
  | noSpace => "No space left on device"
  | nameTooLong => "File name too long"

/-- A description of an error with its number. -/
def withCode (description : String) (code : Nat) : String :=
  description ++ " (os error " ++ toString code ++ ")"

/-- The text shown to the user. -/
def message (e : FileError) : String := withCode e.description e.code

end FileError

/-- What a path can lead to. -/
inductive FileNode where
  /-- A directory; whether files can be made in it. -/
  | directory (grows : Bool)
  | file (text : String)
  /-- A device that takes every text and keeps none. -/
  | sink
  /-- A device that refuses every text. -/
  | refusal (cause : FileError)
  /-- The standard output. -/
  | output
  deriving DecidableEq, Repr

/-- The place of a node: the names that lead to it from the root. -/
abbrev Place := List String

/-- Files and directories under their places. -/
@[ext] structure FileTree where
  /-- The nodes below the root; of two at one place the first counts. -/
  nodes : List (Place × FileNode)
  /-- The directory that a path without a leading slash starts from. -/
  current : Place
  /-- What was written to the standard output. -/
  printed : String
  deriving Repr

namespace FileTree

/-- The number of bytes that a name may have. -/
def nameLimit : Nat := 255

/-- The number of bytes that a path has to stay below. -/
def pathLimit : Nat := 4096

/-- The node at a place. The root is a directory. -/
def node? (t : FileTree) (p : Place) : Option FileNode :=
  if p = [] then some (.directory true) else t.nodes.lookup p

/-- The tree with a node at a place, in place of what was there. -/
def put (t : FileTree) (p : Place) (n : FileNode) : FileTree :=
  { t with nodes := (p, n) :: t.nodes }

/-- The place that one name of a path leads to from another place. -/
def step (t : FileTree) (p : Place) (name : String) : Except FileError Place :=
  match t.node? p with
  | some (.directory _) =>
    if name = "." then .ok p
    else if name = ".." then .ok p.dropLast
    else if nameLimit < name.utf8ByteSize then .error .nameTooLong
    else if (t.node? (p ++ [name])).isNone then .error .notFound
    else .ok (p ++ [name])
  | _ => .error .notDirectory

/-- The place that the last name of a path leads to from the place before it. The place may be free,
if the directory before it grows. -/
def lastStep (t : FileTree) (p : Place) (name : String) (slashAfter : Bool) :
    Except FileError Place :=
  match t.node? p with
  | some (.directory grows) =>
    if name = "." ∨ name = ".." ∨ slashAfter then .error .isDirectory
    else if nameLimit < name.utf8ByteSize then .error .nameTooLong
    else
      match t.node? (p ++ [name]) with
      | some (.directory _) => .error .isDirectory
      | some _ => .ok (p ++ [name])
      | none => if grows then .ok (p ++ [name]) else .error .notFound
  | _ => .error .notDirectory

/-- Where a text that is written to a path goes: the place of a file or device, or a free place. -/
def target (t : FileTree) (path : String) : Except FileError Place :=
  let start := if path.toList.head? = some '/' then [] else t.current
  let names := (Text.pieces '/' path).filter (· ≠ "")
  if path = "" then .error .notFound
  else if pathLimit ≤ path.utf8ByteSize then .error .nameTooLong
  else
    match names.getLast? with
    | none => .error .isDirectory
    | some name =>
      match names.dropLast.foldlM t.step start with
      | .error e => .error e
      | .ok p => t.lastStep p name (path.toList.getLast? = some '/')

/-- The tree after a text is written to a path. A file keeps that text only. -/
def write (t : FileTree) (path text : String) : Except FileError FileTree :=
  match t.target path with
  | .error e => .error e
  | .ok p =>
    match t.node? p with
    | some .sink => .ok t
    | some (.refusal cause) => .error cause
    | some .output => .ok { t with printed := t.printed ++ text }
    | _ => .ok (t.put p (.file text))

/-- The text of the file at a place. -/
def text? (t : FileTree) (p : Place) : Option String :=
  match t.node? p with
  | some (.file text) => some text
  | _ => none

/-- The usual directories and devices, with nothing written yet. -/
def fresh : FileTree :=
  let directories := ["bin", "boot", "dev", "etc", "home", "lib", "media", "mnt", "opt", "root",
    "run", "sbin", "srv", "tmp", "usr", "var"]
  let sinks := ["null", "zero", "random", "urandom", "stderr"]
  { nodes :=
      directories.map (fun name => ([name], .directory true)) ++
      sinks.map (fun name => (["dev", name], .sink)) ++
      [(["proc"], .directory false), (["proc", "self"], .directory false),
        (["sys"], .directory false), (["dev", "stdout"], .output),
        (["dev", "full"], .refusal .noSpace), (["dev", "tty"], .refusal .noDevice),
        (["etc", "passwd"], .file ""), (["etc", "hosts"], .file "")]
    current := ["tmp"]
    printed := "" }

end FileTree

end SphereBench
