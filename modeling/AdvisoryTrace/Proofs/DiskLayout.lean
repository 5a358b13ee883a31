import AdvisoryTrace.Proofs.GitConfinement

/-!
# Laying out directories and files

What making directories, writing a file and placing one leave at every path of a disk, when
no file stands in the way: the directories on the way down are there, the file is at its path,
and every other path holds what it held. From these, what a new `.git` directory holds.

* `Disk.makeDirs_eq_some`, `Disk.place_file_eq_some`: the disk after making directories or
  placing a file, path by path;
* `Disk.createDirAll_of_noFileOn`: the cache's root can be made where no file is in the way;
* `Git.Machine.makeGitDir_fresh`: a new `.git` in a fresh directory is a git directory;
* `Git.Machine.writeTree_eq`: writing a tree lays out its files below the directory
  (`Disk.layOut`), each where it is asked for, or not at all where that fails.
-/

namespace AdvisoryTrace.Disk

/-- No file stands at a path or anywhere on the way down to it. -/
def NoFileOn (d : Disk) (p : List String) : Prop :=
  ∀ q, q <+: p → ∀ bytes, d.node? q ≠ some (.file bytes)

theorem NoFileOn.mono {d : Disk} {p p' : List String} (h : NoFileOn d p) (hp : p' <+: p) :
    NoFileOn d p' :=
  fun q hq => h q (hq.trans hp)

@[simp]
theorem node?_nil (d : Disk) : d.node? [] = some .dir := rfl

theorem not_prefix_dropLast {p : List String} (hp : p ≠ []) : ¬ p <+: p.dropLast := fun h => by
  have hle := h.length_le
  have hpos := List.length_pos_of_ne_nil hp
  rw [List.length_dropLast] at hle
  omega

/-- One step of `makeDirs`: the directory at a path, made where nothing is. -/
def makeDir (here : List String) (d : Disk) : Option Disk :=
  match d.node? here with
  | some .dir => some d
  | some (.file _) => none
  | none => some { d with nodes := d.nodes ++ [(here, .dir)] }

theorem makeDirs_eq (d : Disk) (p : List String) :
    d.makeDirs p = (List.range p.length).foldlM (fun d k => makeDir (p.take (k + 1)) d) d :=
  rfl

theorem foldlM_congr {α β : Type} {f g : β → α → Option β} :
    ∀ (l : List α) (b : β), (∀ a ∈ l, ∀ b, f b a = g b a) → l.foldlM f b = l.foldlM g b
  | [], _, _ => rfl
  | a :: l, b, h => by
    rw [List.foldlM_cons, List.foldlM_cons, h a List.mem_cons_self b]
    exact congrArg _ (funext fun b' => foldlM_congr l b' fun a' ha' => h a' (List.mem_cons_of_mem a ha'))

/-- Making the directories of a path one part longer makes those of the path, then the last. -/
theorem makeDirs_concat (d : Disk) (p : List String) (x : String) :
    d.makeDirs (p ++ [x]) = (d.makeDirs p).bind (makeDir (p ++ [x])) := by
  have hsteps : ∀ k ∈ List.range p.length, ∀ e : Disk,
      makeDir ((p ++ [x]).take (k + 1)) e = makeDir (p.take (k + 1)) e := by
    intro k hk e
    rw [List.take_append_of_le_length (by rw [List.mem_range] at hk; omega)]
  rw [makeDirs_eq, makeDirs_eq, List.length_append, List.length_singleton, List.range_succ,
    List.foldlM_append, foldlM_congr _ _ hsteps]
  simp [List.take_of_length_le]

theorem makeDir_eq_some {here : List String} {d d' : Disk} (h : makeDir here d = some d') :
    (∀ bytes, d.node? here ≠ some (.file bytes)) ∧ d'.root = d.root ∧
      ∀ q, d'.node? q = (d.node? q).or (if q = here then some .dir else none) := by
  unfold makeDir at h
  split at h
  · rename_i hdir
    cases h
    refine ⟨fun bytes => by simp [hdir], rfl, fun q => ?_⟩
    by_cases hq : q = here
    · subst hq
      simp [hdir]
    · simp [hq]
  · cases h
  · rename_i hnone
    cases h
    refine ⟨fun bytes => by simp [hnone], rfl, fun q => ?_⟩
    by_cases hq : q = here
    · subst hq
      simp [hnone, node?_push_self d q .dir hnone]
    · simp [hq, node?_push d here .dir q hq]

/-- Making the directories of a path succeeds exactly where no file stands on the way; every
path keeps what it held, and the starts of the path where nothing was become directories. -/
theorem makeDirs_eq_some {d d' : Disk} {p : List String} (h : d.makeDirs p = some d') :
    NoFileOn d p ∧ d'.root = d.root ∧
      ∀ q, d'.node? q = (d.node? q).or (if q <+: p then some .dir else none) := by
  induction p using List.reverseRecOn generalizing d' with
  | nil =>
    cases h
    refine ⟨fun q hq bytes => ?_, rfl, fun q => ?_⟩
    · rw [List.prefix_nil.mp hq]
      simp
    · by_cases hq : q = []
      · subst hq
        simp
      · simp [List.prefix_nil, hq]
  | append_singleton p x ih =>
    rw [makeDirs_concat] at h
    obtain ⟨d₁, h₁, h₂⟩ := Option.bind_eq_some_iff.mp h
    obtain ⟨hno, hroot, hnode⟩ := ih h₁
    obtain ⟨hfile, hroot₂, hnode₂⟩ := makeDir_eq_some h₂
    have hlast : ¬ p ++ [x] <+: p := fun hp => by simpa using hp.length_le
    have hx : d₁.node? (p ++ [x]) = d.node? (p ++ [x]) := by simp [hnode, hlast]
    refine ⟨fun q hq bytes => ?_, hroot₂.trans hroot, fun q => ?_⟩
    · rcases List.prefix_concat_iff.mp hq with rfl | hq
      · rw [← hx]
        exact hfile bytes
      · exact hno q hq bytes
    · rw [hnode₂, hnode]
      by_cases hq : q = p ++ [x]
      · subst hq
        simp [hlast, List.prefix_rfl]
      · have hpre : q <+: p ++ [x] ↔ q <+: p := by
          rw [List.prefix_concat_iff]
          exact ⟨fun h => h.resolve_left hq, Or.inr⟩
        simp only [hq, if_false, Option.or_none, hpre]

theorem makeDirs_isSome {d : Disk} {p : List String} (h : NoFileOn d p) : (d.makeDirs p).isSome := by
  induction p using List.reverseRecOn with
  | nil => rfl
  | append_singleton p x ih =>
    obtain ⟨d₁, h₁⟩ := Option.isSome_iff_exists.mp (ih (h.mono (List.prefix_append _ _)))
    obtain ⟨-, -, hnode⟩ := makeDirs_eq_some h₁
    have hlast : ¬ p ++ [x] <+: p := fun hp => by simpa using hp.length_le
    rw [makeDirs_concat, h₁, Option.bind_some, makeDir, hnode, if_neg hlast, Option.or_none]
    cases hx : d.node? (p ++ [x]) with
    | none => rfl
    | some n =>
      cases n with
      | dir => rfl
      | file bytes => exact absurd hx (h _ List.prefix_rfl bytes)

/-- Making directories puts no file anywhere. -/
theorem noFileOn_makeDirs {d d' : Disk} {p q : List String} (h : d.makeDirs p = some d')
    (hno : NoFileOn d q) : NoFileOn d' q := fun r hr bytes hfile => by
  obtain ⟨-, -, hnode⟩ := makeDirs_eq_some h
  rw [hnode] at hfile
  cases hd : d.node? r with
  | none => rw [hd] at hfile; split at hfile <;> cases hfile
  | some n => rw [hd] at hfile; exact hno r hr bytes (hd.trans hfile)

/-- Where no file is in the way, the directories of a path are made. -/
theorem makeDirs_of_noFileOn {d : Disk} {p : List String} (h : NoFileOn d p) :
    ∃ d', d.makeDirs p = some d' ∧ d'.root = d.root ∧
      ∀ q, d'.node? q = (d.node? q).or (if q <+: p then some .dir else none) := by
  obtain ⟨d', h'⟩ := Option.isSome_iff_exists.mp (makeDirs_isSome h)
  obtain ⟨-, hroot, hnode⟩ := makeDirs_eq_some h'
  exact ⟨d', h', hroot, hnode⟩

/-- Placing a file where nothing is, with no file on the way down to it, makes the directories
above it and writes it. -/
theorem place_file_eq_some {d : Disk} {p : List String} {b : List UInt8} (hp : p ≠ [])
    (hno : NoFileOn d p.dropLast) (hnone : d.node? p = none) :
    ∃ d', d.place p (.file b) = some d' ∧ d'.root = d.root ∧
      ∀ q, d'.node? q = if q = p then some (.file b)
        else (d.node? q).or (if q <+: p.dropLast then some .dir else none) := by
  obtain ⟨d₁, h₁, hroot₁, hnode₁⟩ := makeDirs_of_noFileOn hno
  have hdir : d₁.isDir p.dropLast := by
    unfold isDir
    rw [hnode₁, if_pos List.prefix_rfl]
    cases hd : d.node? p.dropLast with
    | none => rfl
    | some n =>
      cases n with
      | dir => rfl
      | file c => exact absurd hd (hno _ List.prefix_rfl c)
  have hnone₁ : d₁.node? p = none := by
    rw [hnode₁, hnone, if_neg (not_prefix_dropLast hp)]
    rfl
  have hwrite : d₁.write p b = some { d₁ with nodes := d₁.nodes ++ [(p, .file b)] } := by
    unfold write
    simp [hp, hdir, hnone₁]
  refine ⟨{ d₁ with nodes := d₁.nodes ++ [(p, .file b)] }, by simp [place, h₁, hwrite], hroot₁,
    fun q => ?_⟩
  by_cases hq : q = p
  · subst hq
    rw [if_pos rfl]
    exact node?_push_self d₁ q _ hnone₁
  · rw [if_neg hq, node?_push d₁ p _ q hq, hnode₁]

/-- Placing something keeps every other path's node. -/
theorem place_keeps {d d' : Disk} {p q : List String} {node n : Node} (h : d.place p node = some d')
    (hq : q ≠ p) (hn : d.node? q = some n) : d'.node? q = some n := by
  unfold place at h
  split at h
  · obtain ⟨-, -, hnode⟩ := makeDirs_eq_some h
    rw [hnode, hn]
    rfl
  · obtain ⟨d₁, h₁, h₂⟩ := Option.bind_eq_some_iff.mp h
    obtain ⟨-, -, hnode⟩ := makeDirs_eq_some h₁
    rw [node?_write_ne h₂ hq, hnode, hn]
    rfl

/-- Placing something changes no path that does not lead to it. -/
theorem place_only {d d' : Disk} {p q : List String} {node : Node} (h : d.place p node = some d')
    (hq : ¬ q <+: p) : d'.node? q = d.node? q := by
  unfold place at h
  split at h
  · obtain ⟨-, -, hnode⟩ := makeDirs_eq_some h
    simp [hnode, hq]
  · obtain ⟨d₁, h₁, h₂⟩ := Option.bind_eq_some_iff.mp h
    obtain ⟨-, -, hnode⟩ := makeDirs_eq_some h₁
    have hq' : ¬ q <+: p.dropLast := fun h => hq (h.trans (List.dropLast_prefix p))
    rw [node?_write_ne h₂ fun e => hq (e ▸ List.prefix_rfl), hnode]
    simp [hq']

/-- A file after placing something was there already, or is the one placed. -/
theorem file_of_place {d d' : Disk} {p q : List String} {node : Node} {bytes : List UInt8}
    (h : d.place p node = some d') (hq : d'.node? q = some (.file bytes)) :
    d.node? q = some (.file bytes) ∨ q = p := by
  by_cases hqp : q = p
  · exact .inr hqp
  refine .inl ?_
  unfold place at h
  split at h
  · obtain ⟨-, -, hnode⟩ := makeDirs_eq_some h
    rw [hnode] at hq
    cases hd : d.node? q with
    | some n => rw [hd] at hq; exact hq
    | none => rw [hd] at hq; split at hq <;> cases hq
  · obtain ⟨d₁, h₁, h₂⟩ := Option.bind_eq_some_iff.mp h
    obtain ⟨-, -, hnode⟩ := makeDirs_eq_some h₁
    rw [node?_write_ne h₂ hqp, hnode] at hq
    cases hd : d.node? q with
    | some n => rw [hd] at hq; exact hq
    | none => rw [hd] at hq; split at hq <;> cases hq

section PlaceGetD

variable {d : Disk} {p q : List String} {node : Node}

theorem keeps_place_getD {n : Node} (hq : q ≠ p) (hn : d.node? q = some n) :
    ((d.place p node).getD d).node? q = some n := by
  cases h : d.place p node with
  | none => exact hn
  | some d' => exact place_keeps h hq hn

theorem dir_place_getD (hn : d.node? q = some .dir) : ((d.place p node).getD d).node? q = some .dir := by
  by_cases hq : q = p
  · subst hq
    cases h : d.place q node with
    | none => exact hn
    | some d' =>
      rw [Option.getD_some]
      unfold place at h
      split at h
      · obtain ⟨-, -, hnode⟩ := makeDirs_eq_some h
        rw [hnode, hn]
        rfl
      · obtain ⟨d₁, h₁, h₂⟩ := Option.bind_eq_some_iff.mp h
        obtain ⟨-, -, hnode⟩ := makeDirs_eq_some h₁
        -- a file is never written over a directory
        have hd₁ : d₁.node? q = some .dir := by rw [hnode, hn]; rfl
        unfold write at h₂
        rw [hd₁] at h₂
        split at h₂ <;> cases h₂
  · exact keeps_place_getD hq hn

theorem only_place_getD (hq : ¬ q <+: p) : ((d.place p node).getD d).node? q = d.node? q := by
  cases h : d.place p node with
  | none => rfl
  | some d' => exact place_only h hq

theorem file_of_place_getD {bytes : List UInt8} (hq : ((d.place p node).getD d).node? q = some (.file bytes)) :
    d.node? q = some (.file bytes) ∨ q = p := by
  cases h : d.place p node with
  | none => rw [h] at hq; exact .inl hq
  | some d' => rw [h] at hq; exact file_of_place h hq

theorem root_place_getD : ((d.place p node).getD d).root = d.root := by
  cases h : d.place p node with
  | none => rfl
  | some d' => exact (place_within List.prefix_rfl h).root_eq

end PlaceGetD

/-- The root of a cache, with no file in the way, is made or found as a directory; nothing but
the start of its path changes. -/
theorem createDirAll_of_noFileOn {d : Disk} {p : List String} (h : NoFileOn d p) :
    ∃ d', d.createDirAll p = .ok d' ∧ d'.root = d.root ∧ d'.isDir p ∧ NoFileOn d' p ∧
      ∀ q, ¬ q <+: p → d'.node? q = d.node? q := by
  unfold createDirAll
  split
  · rename_i hdir
    exact ⟨d, rfl, rfl, by unfold isDir; rw [hdir]; rfl, h, fun _ _ => rfl⟩
  · rename_i bytes hfile
    exact absurd hfile (h p List.prefix_rfl bytes)
  · obtain ⟨d', h', hroot, hnode⟩ := makeDirs_of_noFileOn h
    rw [h']
    refine ⟨d', rfl, hroot, ?_, fun q hq bytes => ?_, fun q hq => by simp [hnode, hq]⟩
    · unfold isDir
      rw [hnode, ‹d.node? p = none›, if_pos List.prefix_rfl]
      rfl
    · rw [hnode, if_pos hq]
      cases hd : d.node? q with
      | none => exact fun h => by cases h
      | some n => exact fun h' => h q hq bytes (by rw [hd]; exact h')

/-- Laying out entries below a directory, each where it is asked for, or not at all where that
fails. -/
def layOut (g : List String) (es : List (List String × Node)) (d : Disk) : Disk :=
  es.foldl (fun d e => (d.place (g ++ e.1) e.2).getD d) d

section LayOut

variable {g q : List String} {es : List (List String × Node)} {d : Disk}

theorem layOut_append (es' : List (List String × Node)) :
    layOut g (es ++ es') d = layOut g es' (layOut g es d) :=
  List.foldl_append

@[simp]
theorem layOut_nil : layOut g [] d = d := rfl

theorem layOut_cons (e : List String × Node) :
    layOut g (e :: es) d = layOut g es ((d.place (g ++ e.1) e.2).getD d) :=
  rfl

theorem root_layOut : (layOut g es d).root = d.root :=
  List.foldlRecOn (motive := fun d' : Disk => d'.root = d.root) es _ rfl fun _ hd _ _ => root_place_getD.trans hd

/-- A path no entry is laid out at keeps its node. -/
theorem keeps_layOut {n : Node} (hq : ∀ e ∈ es, q ≠ g ++ e.1) (hn : d.node? q = some n) :
    (layOut g es d).node? q = some n :=
  List.foldlRecOn (motive := fun d' : Disk => d'.node? q = some n) es _ hn fun _ hd e he =>
    keeps_place_getD (hq e he) hd

theorem dir_layOut (hn : d.node? q = some .dir) : (layOut g es d).node? q = some .dir :=
  List.foldlRecOn (motive := fun d' : Disk => d'.node? q = some .dir) es _ hn fun _ hd _ _ => dir_place_getD hd

/-- A path leading to no entry holds what it held. -/
theorem only_layOut (hq : ∀ e ∈ es, ¬ q <+: g ++ e.1) : (layOut g es d).node? q = d.node? q :=
  List.foldlRecOn (motive := fun d' : Disk => d'.node? q = d.node? q) es _ rfl fun _ hd e he =>
    (only_place_getD (hq e he)).trans hd

/-- No file comes where no entry is laid out. -/
theorem noFile_layOut (hq : ∀ e ∈ es, q ≠ g ++ e.1) (hn : ∀ bytes, d.node? q ≠ some (.file bytes)) :
    ∀ bytes, (layOut g es d).node? q ≠ some (.file bytes) :=
  List.foldlRecOn (motive := fun d' : Disk => ∀ bytes, d'.node? q ≠ some (.file bytes)) es _ hn
    fun _ hd e he bytes hfile => (file_of_place_getD hfile).elim (hd bytes) (hq e he)

/-- No file comes on the way to a path that no entry is laid out on the way to. -/
theorem noFileOn_layOut {p : List String} (hp : ∀ e ∈ es, ¬ g ++ e.1 <+: p) (hno : NoFileOn d p) :
    NoFileOn (layOut g es d) p :=
  fun q hq => noFile_layOut (fun e he hqe => hp e he (hqe ▸ hq)) (hno q hq)

end LayOut

end AdvisoryTrace.Disk

namespace AdvisoryTrace.Git.Machine

open Disk

theorem isHeadText_main : isHeadText "ref: refs/heads/main\n".toUTF8.toList = true := by
  rw [String.toUTF8_eq_toByteArray, ← String.ofList_toList (s := "ref: refs/heads/main\n"),
    String.toByteArray_ofList]
  simp only [isHeadText, String.contains_char_eq]
  decide +kernel

/-- The skeleton of a new `.git`, laid out in a fresh directory, makes it a git directory. -/
theorem isGitDir_layOut_gitSkeleton {m : Machine} {g : List String} (hno : NoFileOn m.disk g)
    (hfresh : ∀ s, s ≠ [] → m.disk.node? (g ++ s) = none) :
    ({ m with disk := layOut g gitSkeleton m.disk } : Machine).isGitDir g = true := by
  have hnone : ∀ s, s ≠ [] → ∀ bytes, m.disk.node? (g ++ s) ≠ some (.file bytes) :=
    fun s hs bytes h => by rw [hfresh s hs] at h; cases h
  have hdir : ∀ (pre post : List (List String × Node)) (x y : String),
      gitSkeleton = pre ++ [([x, y], .dir)] ++ post → (∀ e ∈ pre, ¬ g ++ e.1 <+: g ++ [x, y]) →
      (layOut g gitSkeleton m.disk).node? (g ++ [x]) = some .dir := by
    intro pre post x y hsk hpre
    have hno' : NoFileOn (layOut g pre m.disk) (g ++ [x, y]) := by
      refine noFileOn_layOut hpre fun q hq bytes => ?_
      rcases List.prefix_or_prefix_of_prefix hq (List.prefix_append g [x, y]) with hq | ⟨t, rfl⟩
      · exact hno q hq bytes
      · rcases t with _ | ⟨a, t⟩
        · simpa using hno g List.prefix_rfl bytes
        · exact hnone _ (List.cons_ne_nil a t) bytes
    have hxy : g ++ [x] <+: g ++ [x, y] := (List.prefix_append_right_inj g).mpr (by simp)
    obtain ⟨d₂, h₂, -, hnode₂⟩ := makeDirs_of_noFileOn hno'
    rw [hsk, layOut_append, layOut_append, layOut_cons, layOut_nil,
      show Disk.place _ _ Node.dir = _ from h₂, Option.getD_some]
    refine dir_layOut ?_
    rw [hnode₂, if_pos hxy]
    cases hx : (layOut g pre m.disk).node? (g ++ [x]) with
    | none => rfl
    | some n =>
      cases n with
      | dir => rfl
      | file bytes => exact absurd hx (hno' _ hxy bytes)
  have hobjects := hdir
    [(["HEAD"], .file "ref: refs/heads/main\n".toUTF8.toList),
      (["config"], .file "[core]\n\trepositoryformatversion = 0\n".toUTF8.toList),
      (["description"], .file "Unnamed repository.\n".toUTF8.toList),
      (["hooks"], .dir), (["info", "exclude"], .file "# exclude\n".toUTF8.toList)]
    [(["objects", "pack"], .dir), (["refs", "heads"], .dir), (["refs", "tags"], .dir)]
    "objects" "info" rfl (by simp)
  have hrefs := hdir
    [(["HEAD"], .file "ref: refs/heads/main\n".toUTF8.toList),
      (["config"], .file "[core]\n\trepositoryformatversion = 0\n".toUTF8.toList),
      (["description"], .file "Unnamed repository.\n".toUTF8.toList),
      (["hooks"], .dir), (["info", "exclude"], .file "# exclude\n".toUTF8.toList),
      (["objects", "info"], .dir), (["objects", "pack"], .dir)]
    [(["refs", "tags"], .dir)] "refs" "heads" rfl (by simp)
  have hhead : (layOut g gitSkeleton m.disk).node? (g ++ ["HEAD"]) =
      some (.file "ref: refs/heads/main\n".toUTF8.toList) := by
    obtain ⟨d₁, hplace, -, hnode₁⟩ := place_file_eq_some (b := "ref: refs/heads/main\n".toUTF8.toList)
      (p := g ++ ["HEAD"]) (by simp) (by simpa using hno) (hfresh _ (by simp))
    rw [gitSkeleton, layOut_cons, hplace, Option.getD_some]
    exact keeps_layOut (by simp) ((hnode₁ _).trans (if_pos rfl))
  simp only [isGitDir, Disk.isDir, Disk.read?, hobjects, hrefs, hhead, Option.map_some,
    isHeadText_main, Option.getD_some]
  rfl

theorem makeGitDir_eq (m : Machine) (dir : List String) :
    m.makeGitDir dir = (m.disk.makeDirs (dir ++ [".git"])).map fun d =>
      { m with disk := layOut (dir ++ [".git"]) gitSkeleton d } := by
  unfold makeGitDir
  cases m.disk.makeDirs (dir ++ [".git"]) with
  | none => rfl
  | some d => rfl

/-- A new `.git` in a directory where nothing is, with no file on the way down to it: the
directory is made, its `.git` is a git directory, nothing else is below it, and nothing outside
it changes but directories made on the way down. -/
theorem makeGitDir_fresh {m : Machine} {dir : List String} (hno : NoFileOn m.disk dir)
    (hfresh : ∀ q, dir <+: q → m.disk.node? q = none) :
    ∃ m', m.makeGitDir dir = some m' ∧ m'.repos = m.repos ∧ m'.isGitDir (dir ++ [".git"]) ∧
      m'.disk.isDir dir ∧ NoFileOn m'.disk dir ∧ m.Within dir m' ∧
      ∀ s, (∃ x ∈ s.head?, x ≠ ".git") → m'.disk.node? (dir ++ s) = none := by
  have hnog : NoFileOn m.disk (dir ++ [".git"]) := fun q hq bytes => by
    rcases List.prefix_concat_iff.mp hq with rfl | hq
    · rw [hfresh _ (List.prefix_append _ _)]
      exact fun h => by cases h
    · exact hno q hq bytes
  obtain ⟨d₁, h₁, hroot₁, hnode₁⟩ := makeDirs_of_noFileOn hnog
  have hbelow : ∀ s, s ≠ [] → d₁.node? (dir ++ [".git"] ++ s) = none := fun s hs => by
    have hnot : ¬ dir ++ [".git"] ++ s <+: dir ++ [".git"] := fun h => by
      have := h.length_le
      simp only [List.length_append] at this
      have := List.length_pos_of_ne_nil hs
      omega
    rw [hnode₁, hfresh _ ((List.prefix_append _ _).trans (List.prefix_append _ _)), if_neg hnot]
    rfl
  have hdir₁ : d₁.node? dir = some .dir := by
    rw [hnode₁, hfresh _ List.prefix_rfl, if_pos (List.prefix_append _ _)]
    rfl
  let m₁ : Machine := { m with disk := d₁ }
  have hgit := isGitDir_layOut_gitSkeleton (m := m₁) (g := dir ++ [".git"])
    (noFileOn_makeDirs h₁ hnog) hbelow
  have hmade : m.makeGitDir dir = some { m with disk := layOut (dir ++ [".git"]) gitSkeleton d₁ } := by
    rw [makeGitDir_eq, h₁]
    rfl
  refine ⟨_, hmade, rfl, hgit, ?_, fun q hq bytes => ?_, makeGitDir_within List.prefix_rfl hmade,
    fun s ⟨x, hx, hne⟩ => ?_⟩
  · unfold Disk.isDir
    rw [dir_layOut hdir₁]
    rfl
  · refine noFile_layOut (fun e _ he => ?_) (fun bytes h => ?_) bytes
    · have := congrArg List.length he
      have := hq.length_le
      simp only [List.length_append, List.length_singleton] at *
      omega
    · exact noFileOn_makeDirs h₁ hno q hq bytes h
  · obtain ⟨s', rfl⟩ : ∃ s', s = x :: s' := by
      cases s with
      | nil => cases hx
      | cons y s' => exact ⟨s', by cases hx; rfl⟩
    rw [only_layOut fun e _ he => hne ?_, hnode₁, hfresh _ (List.prefix_append _ _)]
    · rw [if_neg fun h => hne ?_]
      · rfl
      · exact (List.cons_prefix_cons.mp ((List.prefix_append_right_inj dir).mp h)).1
    · have := (List.prefix_append_right_inj dir).mp (by simpa only [List.append_assoc] using he)
      exact (List.cons_prefix_cons.mp (by simpa using this)).1

theorem writeTree_eq (m : Machine) (dir : List String) (tree : Tree) :
    m.writeTree dir tree =
      { m with disk := layOut dir (tree.map fun f => (Disk.Path.steps f.1, .file f.2)) m.disk } := by
  unfold writeTree layOut
  rw [List.foldl_map]

end AdvisoryTrace.Git.Machine
