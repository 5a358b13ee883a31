import Mathlib
import AdvisoryTrace.Proofs.CallTreeWalk
import AdvisoryTrace.Proofs.WalkShape
import AdvisoryTrace.Source.Folder

/-!
# Tracing a folder

The static analysis of a folder walks its files, skipping `target` and `.git` directories below
it, and adds the files it accepts to one call graph: the Rust files whose bytes are UTF-8 text
within the nesting limit that read as call trees (`Source.acceptedSource`). Whether a file is
accepted depends on the file alone, and a file that is not accepted leaves the graph as it was
(`Source.addFile_of_acceptedSource_none`), so the folder's graph is the accepted sources added
in walk order (`Source.foldlM_addSource_accepted`), and it defines exactly the functions of
their call trees (`Source.mem_defined_foldl_addFile`).

Writing a new file that the walk does not reach or that is not accepted leaves the walk's
accepted sources, the directories and so the whole analysis as they were
(`Source.traceFolder_write`).
-/

namespace AdvisoryTrace.Source

/-- The source text the analysis reads from a file (its path and bytes): a Rust file whose bytes
are UTF-8 text within the nesting limit that reads as call trees. Any other file gives none. -/
def acceptedSource (file : List String × List UInt8) : Option String :=
  if isRustFile file.1 then
    match String.fromUTF8? (ByteArray.mk file.2.toArray) with
    | some src =>
      if maxNesting src ≤ nestingLimit ∧ (callForest src).toBool = true then some src else none
    | none => none
  else none

theorem toBool_callForest_iff (src : String) :
    (callForest src).toBool = true ↔ ∃ ts, callForest src = .ok ts := by
  cases callForest src <;> simp [Except.toBool]

section Files

/-- A file that is not accepted adds nothing. -/
theorem addFile_of_acceptedSource_none (g : CallGraph) {file : List String × List UInt8}
    (h : acceptedSource file = none) : addFile g file = g := by
  unfold acceptedSource at h
  unfold addFile
  by_cases hrust : isRustFile file.1
  · rw [if_pos hrust] at h
    simp only [hrust, Bool.not_true, Bool.false_eq_true, ↓reduceIte]
    cases hsrc : String.fromUTF8? (ByteArray.mk file.2.toArray) with
    | none => rfl
    | some src =>
      rw [hsrc] at h
      dsimp only at h ⊢
      have hrefused : ¬ ∃ g', g.addSource src = .ok g' := by
        rw [CallGraph.addSource_ok_iff, ← toBool_callForest_iff]
        intro hok
        rw [if_pos hok] at h
        cases h
      cases hadd : g.addSource src with
      | error _ => rfl
      | ok g' => exact absurd ⟨g', hadd⟩ hrefused
  · simp [hrust]

/-- An accepted file's source is added to every graph, as the file. -/
theorem addSource_of_acceptedSource (g : CallGraph) {file : List String × List UInt8}
    {src : String} (h : acceptedSource file = some src) : g.addSource src = .ok (addFile g file) := by
  unfold acceptedSource at h
  by_cases hrust : isRustFile file.1
  · rw [if_pos hrust] at h
    cases hsrc : String.fromUTF8? (ByteArray.mk file.2.toArray) with
    | none =>
      rw [hsrc] at h
      cases h
    | some text =>
      rw [hsrc] at h
      dsimp only at h
      by_cases hok : maxNesting text ≤ nestingLimit ∧ (callForest text).toBool = true
      · rw [if_pos hok] at h
        cases h
        obtain ⟨g', hadd⟩ := (CallGraph.addSource_ok_iff g _).mpr
          ⟨hok.1, (toBool_callForest_iff _).mp hok.2⟩
        simp [addFile, hrust, hsrc, hadd]
      · rw [if_neg hok] at h
        cases h
  · rw [if_neg hrust] at h
    cases h

/-- Adding files one after another adds the accepted sources in turn, and nothing else. -/
theorem foldlM_addSource_accepted (files : List (List String × List UInt8)) (g : CallGraph) :
    (files.filterMap acceptedSource).foldlM CallGraph.addSource g = .ok (files.foldl addFile g) := by
  induction files generalizing g with
  | nil => rfl
  | cons file rest ih =>
    cases hfile : acceptedSource file with
    | none =>
      rw [List.filterMap_cons_none hfile, List.foldl_cons, addFile_of_acceptedSource_none g hfile,
        ih]
    | some src =>
      rw [List.filterMap_cons_some hfile, List.foldlM_cons, List.foldl_cons,
        addSource_of_acceptedSource g hfile]
      exact ih _

/-- Adding a source defines the functions of its call trees. -/
theorem mem_defined_addSource {g g' : CallGraph} {src : String} (hadd : g.addSource src = .ok g')
    (x : String) : x ∈ g'.defined ↔
      x ∈ g.defined ∨ ∃ ts, callForest src = .ok ts ∧ x ∈ CallTree.forestFunctionNames ts := by
  obtain ⟨hdepth, ts, hread⟩ := (CallGraph.addSource_ok_iff g src).mp ⟨g', hadd⟩
  rw [CallGraph.addSource_of_callForest g hdepth hread] at hadd
  cases hadd
  rw [CallGraph.mem_defined_forestEvents]
  simp [hread]

/-- Files added in turn define exactly the functions of the call trees of the accepted ones. -/
theorem mem_defined_foldl_addFile (files : List (List String × List UInt8)) (g : CallGraph)
    (x : String) : x ∈ (files.foldl addFile g).defined ↔ x ∈ g.defined ∨
      ∃ src ∈ files.filterMap acceptedSource, ∃ ts, callForest src = .ok ts ∧
        x ∈ CallTree.forestFunctionNames ts := by
  induction files generalizing g with
  | nil => simp
  | cons file rest ih =>
    rw [List.foldl_cons, ih]
    cases hfile : acceptedSource file with
    | none =>
      rw [addFile_of_acceptedSource_none g hfile, List.filterMap_cons_none hfile]
    | some src =>
      rw [List.filterMap_cons_some hfile, mem_defined_addSource (addSource_of_acceptedSource g hfile)]
      simp only [List.mem_cons, exists_eq_or_imp, or_assoc]

end Files

/-- The folder's graph depends only on the sources its walk accepts. -/
theorem folderGraph_eq_of_sources {d₁ d₂ : Disk} {folder : List String}
    (h : (d₁.filesBelow folder skippedDirectories).filterMap acceptedSource =
      (d₂.filesBelow folder skippedDirectories).filterMap acceptedSource) :
    folderGraph d₁ folder = folderGraph d₂ folder := by
  have h₁ := foldlM_addSource_accepted (d₁.filesBelow folder skippedDirectories) .empty
  have h₂ := foldlM_addSource_accepted (d₂.filesBelow folder skippedDirectories) .empty
  rw [h, h₂] at h₁
  exact (Except.ok.inj h₁).symm

/-- The folder's graph defines exactly the functions of the call trees of the accepted files. -/
theorem contains_folderGraph (d : Disk) (folder : List String) (name : String) :
    (folderGraph d folder).contains name = true ↔
      ∃ src ∈ (d.filesBelow folder skippedDirectories).filterMap acceptedSource,
        ∃ ts, callForest src = .ok ts ∧ name ∈ CallTree.forestFunctionNames ts := by
  rw [CallGraph.contains, List.contains_iff_mem, folderGraph, mem_defined_foldl_addFile]
  simp [CallGraph.empty]

section Writes

variable {d d' : Disk} {path : List String} {bytes : List UInt8}

/-- Writing a new file appends it to the disk's files. -/
theorem write_of_new (h : d.write path bytes = some d') (hnew : d.node? path = none) :
    d' = { d with nodes := d.nodes ++ [(path, .file bytes)] } := by
  unfold Disk.write at h
  split at h
  · cases h
  · rw [hnew] at h
    cases h
    rfl

/-- A write keeps the disk's name, so every path text names the same path. -/
theorem locate_write (h : d.write path bytes = some d') (text : String) :
    d'.locate text = d.locate text := by
  unfold Disk.write at h
  split at h
  · cases h
  · split at h <;> cases h <;> rfl

/-- A new file is walked after the files already there. -/
theorem filesBelow_write (h : d.write path bytes = some d') (hnew : d.node? path = none)
    (start skipped : List String) :
    d'.filesBelow start skipped =
      d.filesBelow start skipped ++ (Disk.mk d.root [(path, .file bytes)]).filesBelow start skipped := by
  rw [write_of_new h hnew]
  simp [Disk.filesBelow, List.filterMap_append]

/-- A new file makes no directory. -/
theorem isDir_write (h : d.write path bytes = some d') (hnew : d.node? path = none)
    (q : List String) : d'.isDir q = d.isDir q := by
  rw [write_of_new h hnew]
  unfold Disk.isDir Disk.node? at *
  split
  · rfl
  · rw [List.find?_append]
    cases hfound : d.nodes.find? (·.1 == q) with
    | some e => rfl
    | none =>
      -- the new file is not a directory, whether or not it stands at `q`
      simp only [Option.none_or, List.find?_cons, List.find?_nil]
      split <;> rfl

/-- A walk names a lone file by its path below the start. -/
theorem mem_filesBelow_single {root : String} {start skipped : List String}
    {file : List String × List UInt8}
    (h : file ∈ (Disk.mk root [(path, .file bytes)]).filesBelow start skipped) :
    file = (path.drop start.length, bytes) := by
  simp only [Disk.filesBelow, List.filterMap_cons, List.filterMap_nil] at h
  split_ifs at h <;> simp_all

/-- A file that is not Rust source is never accepted, wherever a walk starts. -/
theorem acceptedSource_filesBelow_of_not_rust (hrust : isRustFile path = false) (root : String)
    (start skipped : List String) :
    ∀ file ∈ (Disk.mk root [(path, .file bytes)]).filesBelow start skipped,
      acceptedSource file = none := by
  intro file hfile
  have hnot : isRustFile (path.drop start.length) = false := by
    unfold isRustFile at *
    rw [List.getLast?_drop]
    split_ifs <;> simp_all
  simp [mem_filesBelow_single hfile, acceptedSource, hnot]

/-- A file whose bytes are not UTF-8 text is never accepted, wherever a walk starts. -/
theorem acceptedSource_filesBelow_of_not_utf8
    (hbytes : String.fromUTF8? (ByteArray.mk bytes.toArray) = none) (root : String)
    (start skipped : List String) :
    ∀ file ∈ (Disk.mk root [(path, .file bytes)]).filesBelow start skipped,
      acceptedSource file = none := by
  intro file hfile
  simp [mem_filesBelow_single hfile, acceptedSource, hbytes]

end Writes

section Trace

variable (d : Disk) (location testId : String) (maxDepth : Nat)

theorem traceFolder_error_analysis (f : Failure)
    (h : traceFolder d location testId maxDepth = .error f) : ∃ m, f = .analysis m := by
  simp only [traceFolder] at h
  split_ifs at h <;> cases h <;> exact ⟨_, rfl⟩

theorem traceFolder_fails_iff : (∃ f, traceFolder d location testId maxDepth = .error f) ↔
    entryFunction testId = "" ∨ d.isDir (d.locate location) = false ∨
      (folderGraph d (d.locate location)).contains (entryFunction testId) = false := by
  simp only [traceFolder]
  split_ifs with hentry hdir hcontains <;> simp_all

theorem traceFolder_of_not_fails (h : ¬ ∃ f, traceFolder d location testId maxDepth = .error f) :
    traceFolder d location testId maxDepth =
      .ok ((folderGraph d (d.locate location)).chainFrom (entryFunction testId) maxDepth) := by
  simp only [traceFolder] at h ⊢
  split_ifs at h ⊢ <;> simp_all

end Trace

/-- The static analysis of a folder, for every disk, location and test: it fails only with an
analysis failure, and exactly when the test names no function, the location is no directory, or
no accepted file of the walk defines the function. Otherwise it gives the chain from that
function in the graph of the accepted files' sources added in walk order. Writing a new file
that the walk does not reach or that is not accepted changes nothing. -/
theorem tracing_folder_reads_accepted_files (d : Disk) (location testId : String)
    (maxDepth : Nat) :
    (∀ f, traceFolder d location testId maxDepth = .error f → ∃ m, f = .analysis m) ∧
    ((∃ f, traceFolder d location testId maxDepth = .error f) ↔
      entryFunction testId = "" ∨ d.isDir (d.locate location) = false ∨
      ¬ ∃ src ∈ (d.filesBelow (d.locate location) skippedDirectories).filterMap acceptedSource,
        ∃ ts, callForest src = .ok ts ∧ entryFunction testId ∈ CallTree.forestFunctionNames ts) ∧
    (∃ G, ((d.filesBelow (d.locate location) skippedDirectories).filterMap acceptedSource).foldlM
        CallGraph.addSource .empty = .ok G ∧
      ((¬ ∃ f, traceFolder d location testId maxDepth = .error f) →
        traceFolder d location testId maxDepth = .ok (G.chainFrom (entryFunction testId) maxDepth))) ∧
    (∀ (path : List String) (bytes : List UInt8) (d' : Disk), d.write path bytes = some d' →
      d.node? path = none →
      (∀ file ∈ (Disk.mk d.root [(path, .file bytes)]).filesBelow (d.locate location)
        skippedDirectories, acceptedSource file = none) →
      traceFolder d' location testId maxDepth = traceFolder d location testId maxDepth) := by
  refine ⟨traceFolder_error_analysis d location testId maxDepth, ?_,
    ⟨_, foldlM_addSource_accepted _ .empty, traceFolder_of_not_fails d location testId maxDepth⟩, ?_⟩
  · rw [traceFolder_fails_iff, ← contains_folderGraph, Bool.not_eq_true]
  · intro path bytes d' hwrite hnew hrefused
    have hsources : (d'.filesBelow (d.locate location) skippedDirectories).filterMap acceptedSource =
        (d.filesBelow (d.locate location) skippedDirectories).filterMap acceptedSource := by
      rw [filesBelow_write hwrite hnew, List.filterMap_append,
        List.filterMap_eq_nil_iff.mpr hrefused, List.append_nil]
    simp only [traceFolder, locate_write hwrite, isDir_write hwrite hnew,
      folderGraph_eq_of_sources hsources]

/-- A Rust file whose bytes are not UTF-8 text, written next to the sources, leaves the trace
of `t` as it was. -/
theorem tracing_folder_ignores_new_binary_file :
    ∃ d', (Disk.mk "/r" [(["src"], .dir),
        (["src", "lib.rs"], .file "fn t() { u(); } fn u() {}".toUTF8.toList)]).write
        ["src", "blob.rs"] [0xFF] = some d' ∧
      traceFolder d' "/r" "tests::t" 8 =
        traceFolder (Disk.mk "/r" [(["src"], .dir),
          (["src", "lib.rs"], .file "fn t() { u(); } fn u() {}".toUTF8.toList)]) "/r" "tests::t" 8 := by
  obtain ⟨d', hwrite⟩ := Option.isSome_iff_exists.mp (by decide +kernel :
    ((Disk.mk "/r" [(["src"], .dir),
        (["src", "lib.rs"], .file "fn t() { u(); } fn u() {}".toUTF8.toList)]).write
        ["src", "blob.rs"] [0xFF]).isSome)
  exact ⟨d', hwrite, (tracing_folder_reads_accepted_files _ "/r" "tests::t" 8).2.2.2 _ _ d' hwrite
    (Option.isNone_iff_eq_none.mp (by decide +kernel))
    (acceptedSource_filesBelow_of_not_utf8 (Option.isNone_iff_eq_none.mp (by decide +kernel)) _ _ _)⟩

end AdvisoryTrace.Source
