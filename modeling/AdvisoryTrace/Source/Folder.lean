import AdvisoryTrace.Source.CallGraph
import AdvisoryTrace.Disk.Basic
import AdvisoryTrace.Failure
import AdvisoryTrace.Text.Quoted

/-!
# Call chains of a source folder

The static step of an analysis: the call graph of every Rust file in a folder, and the chain
from the function a test names.

A walk of the folder reaches every file except those inside a `target` or `.git` directory
below the folder. Of those, a file counts if its extension is exactly `rs` and its bytes are
UTF-8 text; a file that is too deep or does not parse adds nothing, and the others are added
in turn.
-/

namespace AdvisoryTrace.Source

/-- Directories that a walk of a source folder does not enter: build output and history. -/
def skippedDirectories : List String := ["target", ".git"]

/-- Whether a file (by its path) is Rust source. -/
def isRustFile (path : List String) : Bool :=
  match path.getLast? with
  | some name => Disk.Path.extension? name == some "rs"
  | none => false

/-- Adds a file (by its path and bytes) to a graph: a Rust file that is UTF-8 text and is
accepted as a source; any other file adds nothing. -/
def addFile (g : CallGraph) (file : List String × List UInt8) : CallGraph :=
  if !isRustFile file.1 then g
  else
    match String.fromUTF8? (ByteArray.mk file.2.toArray) with
    | none => g
    | some src =>
      match g.addSource src with
      | .ok g' => g'
      | .error _ => g

/-- The call graph of the Rust files below a directory of a disk. -/
def folderGraph (d : Disk) (folder : List String) : CallGraph :=
  (d.filesBelow folder skippedDirectories).foldl addFile CallGraph.empty

/-- The chain of calls from the function that `testId` names, over the Rust files of the
folder at `location`, at most `maxDepth` levels deep. An empty function name, a location
that is no directory, and a function with no body in the folder are failures of the
analysis. -/
def traceFolder (d : Disk) (location testId : String) (maxDepth : Nat) : Except Failure Chain :=
  let entry := entryFunction testId
  let folder := d.locate location
  if entry.isEmpty then .error (.analysis ("invalid test identifier " ++ Text.quoted testId))
  else if !d.isDir folder then
    .error (.analysis ("repository path " ++ location ++ " is not a directory"))
  else
    let g := folderGraph d folder
    if g.contains entry then .ok (g.chainFrom entry maxDepth)
    else .error (.analysis ("entry function " ++ Text.quoted entry ++ " not found in " ++ location))

end AdvisoryTrace.Source
