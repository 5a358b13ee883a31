import AdvisoryTrace.Export.Render
import AdvisoryTrace.Disk.Basic

/-!
# Export files

Records are exported to a new file in a directory: the directory is made first (with the
directories above it), then a file named `tracer-export-` and six characters, with the
format's extension, is made beside any that are there and never over one.

A single chain can also be saved to a given path, with its confidence on a line below it; the
directory above the path is made first, and a file already there is replaced.

A failure names the step that failed and the path, as given.
-/

namespace AdvisoryTrace.Export

/-- The six characters that tell export files apart: the digits of `n` in base 36, padded. -/
def nameTag (n : Nat) : String :=
  let digits := (Nat.toDigits 36 (n % Nat.pow 36 6)).reverse
  String.ofList ((digits ++ List.replicate 6 '0').take 6).reverse

/-- The name of the `n`-th export file of a format. -/
def fileName (fmt : Format) (n : Nat) : String :=
  "tracer-export-" ++ nameTag n ++ "." ++ fmt.extension

/-- The first export file name not yet taken in a directory. -/
def freshName (d : Disk) (dir : List String) (fmt : Format) : String :=
  let taken (n : Nat) := (d.node? (dir ++ [fileName fmt n])).isSome
  fileName fmt (((List.range (d.nodes.length + 1)).find? (!taken ·)).getD 0)

/-- Writes the records in a format to a new file in `dir`: the disk after it, and the path of
the file. -/
def exportTo (d : Disk) (records : List Record) (fmt : Format) (dir : String) :
    Except String (Disk × String) := do
  let folder := d.locate dir
  let some d := d.makeDirs folder | throw ("creating export dir " ++ dir)
  let name := freshName d folder fmt
  let some d := d.write (folder ++ [name]) (render records fmt).toUTF8.toList
    | throw "creating export file"
  return (d, Disk.Path.join dir name)

/-- The text a saved chain is written as: the chain, then its confidence. -/
def savedChainText (chain : String) (confidence : UInt8) : String :=
  chain ++ "\nConfidence: " ++ toString confidence.toNat ++ "\n"

/-- Saves one chain and its confidence to `path`, replacing what is there. -/
def saveChain (d : Disk) (path chain : String) (confidence : UInt8) : Except String Disk := do
  let d ← match Disk.Path.parent? path with
    | some parent =>
      if parent.isEmpty then pure d
      else match d.makeDirs (d.locate parent) with
        | some d => pure d
        | none => throw ("creating " ++ parent)
    | none => pure d
  match d.write (d.locate path) (savedChainText chain confidence).toUTF8.toList with
  | some d => return d
  | none => throw ("writing " ++ path)

end AdvisoryTrace.Export
