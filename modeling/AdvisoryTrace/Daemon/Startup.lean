import AdvisoryTrace.Daemon.Config
import AdvisoryTrace.Daemon.Database
import AdvisoryTrace.Daemon.Service
import AdvisoryTrace.Repository.Cache
import AdvisoryTrace.Model.Chat
import AdvisoryTrace.Model.Reply
import AdvisoryTrace.Program

/-!
# Starting the daemon

From its settings the daemon wires its pipeline and opens its task store:

* the catalog is read from its file, when one is named (else it is empty); the file must be
  there, be a file, and hold UTF-8 text that reads as a catalog;
* clones are kept in the repository cache directory, made with the named git program;
* the chat model is asked when an API key is set, and otherwise the model is disabled;
* the validator weighs score and agreement equally;
* exports go to the named directory, or to the system's temporary directory (`/tmp`);
* a task store is kept in memory unless a database URL is named, which must name a database
  this build can open.

An error carries the chain of its causes, outermost first.
-/

namespace AdvisoryTrace.Daemon

/-- The system's temporary directory. -/
def tempDir : String := "/tmp"

/-- Reads the catalog file at a path. -/
def loadCatalog (d : Disk) (path : String) : Except Trouble Catalog := do
  let context := "read advisory catalog " ++ path
  let bytes ← (d.fileBytes (d.locate path)).mapError fun e => ⟨context, [e]⟩
  let some text := String.fromUTF8? (ByteArray.mk bytes.toArray)
    | throw ⟨context, ["stream did not contain valid UTF-8"]⟩
  (Catalog.ofToml text).mapError fun e => ⟨e.message, e.causes⟩

/-- Opens the task store a database URL names; none keeps tasks in memory. -/
def openStore (url : Option String) : Except Trouble TaskStore :=
  match url with
  | none => .ok (TaskStore.empty .memory)
  | some u =>
    match connectDatabase u with
    | .ok () => .ok (TaskStore.empty .database)
    | .error e => .error ⟨"connect task store " ++ u, [e.message, e.message]⟩

/-- Checks out a commit through the repository cache, on the daemon's machine. -/
def cacheCheckout (cache : Repository.RepoCache) (url commit : String) : Stage World WorkingCopy := do
  let w ← get
  let (r, machine) := (cache.ensure url commit).run w.machine
  set { w with machine }
  match r with
  | .ok path => pure ⟨machine.disk, path⟩
  | .error f => throw (.failure f)

/-- Wires the daemon from its settings, reading the catalog from a disk. -/
def Setup.ofConfig (c : Config) (d : Disk) : Except Trouble Setup := do
  let catalog ← match c.advisoryCatalog with
    | some path => loadCatalog d path
    | none => pure Catalog.empty
  let cache : Repository.RepoCache := ⟨c.repoCacheDir, c.gitBin, c.gitTimeoutSecs⟩
  let answer := match c.model.apiKey with
    | some key => Model.askChat ⟨key, c.model.baseUrl, c.model.model, c.model.timeoutSecs⟩
    | none => Model.disabled
  let pipeline : Pipeline World :=
    { catalog, checkout := cacheCheckout cache, maxDepth := c.maxChainDepth,
      model := fun _ _ _ => pure answer, validator := Validator.standard,
      allowStaticOnly := c.allowStaticOnly }
  return { pipeline, exportDir := c.exportDir.getD tempDir, debugSavePath := c.debugSavePath }

/-- The daemon's world when it starts: an empty store, an empty queue, and the machine. -/
def World.start (c : Config) (store : TaskStore) (machine : Git.Machine) : World :=
  { store, queue := JobQueue.bounded c.queueCapacity, machine }

end AdvisoryTrace.Daemon
