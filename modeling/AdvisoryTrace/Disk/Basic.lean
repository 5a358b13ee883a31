import AdvisoryTrace.Disk.Path

/-!
# Disks

A directory tree held in memory. Each file or directory is listed by its path (its names from
the root) in the order it was made; the root directory is always there and is not listed.

A disk is reached under an absolute name, `root`, which stands for its root directory; a path
text starting with that name is read from the root, and any other path text is read from the
root as the working directory.

Changes follow the rules of a file system: a directory is made with all directories above it
and fails where a file is in the way; a file is written only into an existing directory and
never over a directory.
-/

namespace AdvisoryTrace

/-- What a path of a disk holds. -/
inductive Node where
  | file (bytes : List UInt8)
  | dir
  deriving BEq, Repr

/-- A directory tree: the absolute name of its root, and each path below the root with what it
holds. -/
structure Disk where
  root : String
  nodes : List (List String × Node)
  deriving Repr

namespace Disk

/-- A disk with nothing but its root directory. -/
def empty (root : String) : Disk := ⟨root, []⟩

/-- What a path holds; the root is a directory. -/
def node? (d : Disk) (path : List String) : Option Node :=
  if path.isEmpty then some .dir else (d.nodes.find? (·.1 == path)).map (·.2)

/-- Whether a path is a directory. -/
def isDir (d : Disk) (path : List String) : Bool := d.node? path == some .dir

/-- The bytes of a file, if the path is one. -/
def read? (d : Disk) (path : List String) : Option (List UInt8) :=
  match d.node? path with
  | some (.file bytes) => some bytes
  | _ => none

/-- The path a text names on this disk: read from the root when it starts with the disk's
name (followed by a `/` or nothing), and from the root as working directory otherwise. -/
def locate (d : Disk) (text : String) : List String :=
  let rest := text.toList.drop d.root.length
  if d.root.toList.isPrefixOf text.toList && (rest.isEmpty || rest.head? == some '/') then
    Path.steps (String.ofList rest)
  else Path.steps text

/-- Makes a directory and every missing directory above it, in order from the top; fails if a
file stands on the way. -/
def makeDirs (d : Disk) (path : List String) : Option Disk :=
  (List.range path.length).foldlM (fun d k =>
    let here := path.take (k + 1)
    match d.node? here with
    | some .dir => some d
    | some (.file _) => none
    | none => some { d with nodes := d.nodes ++ [(here, .dir)] }) d

/-- Writes a file, replacing a file already there. Fails for the root, for a directory, and
when the directory to hold it is missing. -/
def write (d : Disk) (path : List String) (bytes : List UInt8) : Option Disk :=
  if path.isEmpty || !d.isDir path.dropLast then none
  else
    match d.node? path with
    | some .dir => none
    | some (.file _) =>
      some { d with nodes := d.nodes.map fun e => if e.1 == path then (path, .file bytes) else e }
    | none => some { d with nodes := d.nodes ++ [(path, .file bytes)] }

/-- Lays out a file with the directories above it; where a directory is asked for, only the
directories. -/
def place (d : Disk) (path : List String) (node : Node) : Option Disk :=
  match node with
  | .dir => d.makeDirs path
  | .file bytes => do (← d.makeDirs path.dropLast).write path bytes

/-- Removes a path and everything below it. -/
def removeTree (d : Disk) (path : List String) : Disk :=
  { d with nodes := d.nodes.filter fun e => !path.isPrefixOf e.1 }

/-- Makes a directory and the missing directories above it, as the system call would, with its
refusal: a file where the directory should be exists already, and a file above it is not a
directory. -/
def createDirAll (d : Disk) (path : List String) : Except String Disk :=
  match d.node? path with
  | some .dir => .ok d
  | some (.file _) => .error "File exists (os error 17)"
  | none =>
    match d.makeDirs path with
    | some d => .ok d
    | none => .error "Not a directory (os error 20)"

/-- Removes a directory with everything below it; a file in its place is not a directory, and
nothing there is not found. -/
def removeDirAll (d : Disk) (path : List String) : Except String Disk :=
  match d.node? path with
  | some .dir => .ok (d.removeTree path)
  | some (.file _) => .error "Not a directory (os error 20)"
  | none => .error "No such file or directory (os error 2)"

/-- Reads a whole file as the system call would, with its refusal: a file above the path is
not a directory, a directory cannot be read as a file, and nothing there is not found. -/
def fileBytes (d : Disk) (path : List String) : Except String (List UInt8) :=
  match d.node? path with
  | some (.file bytes) => .ok bytes
  | some .dir => .error "Is a directory (os error 21)"
  | none =>
    if (List.range path.length).any fun k => (d.node? (path.take k)).any (· != .dir) then
      .error "Not a directory (os error 20)"
    else .error "No such file or directory (os error 2)"

/-- The files below a directory that a walk reaches, with their paths from that directory: it
goes into every directory except those of the given names below the start. -/
def filesBelow (d : Disk) (start : List String) (skipped : List String) :
    List (List String × List UInt8) :=
  d.nodes.filterMap fun (path, node) =>
    match node with
    | .file bytes =>
      if start.isPrefixOf path then
        let rel := path.drop start.length
        if rel.dropLast.any skipped.contains then none else some (rel, bytes)
      else none
    | .dir => none

end Disk

end AdvisoryTrace
