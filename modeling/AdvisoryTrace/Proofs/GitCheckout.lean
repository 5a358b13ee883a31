import AdvisoryTrace.Proofs.DiskLayout
import AdvisoryTrace.Proofs.GitRevisions
import AdvisoryTrace.Proofs.CacheConfinement

/-!
# Clone, fetch and checkout

What the git commands of the repository cache leave behind where they succeed, and when they
succeed. Git keeps no `.git` in a tree, so every repository on the machine has the files of its
commits in the work tree (`Machine.TreesInWorkTree`), and every command keeps that so
(`Machine.run_trees`). Then:

* `Machine.checkout_fullId_of_code`: a checkout of a commit named in full that succeeded leaves
  `HEAD` at the commit as `rev-parse` reads it (`Machine.HeadIs`), the origin as it was, and the
  `.git` and the directories above the work tree in place;
* `Machine.detachAt_code_of_clean`: checkout succeeds where the work tree holds the files of
  `HEAD`'s tree and nothing stands where a new file comes;
* `Machine.fetch_of_code`: a fetch that succeeded keeps `HEAD` and the origin and adds the
  origin's commits;
* `Machine.clone_of_code`, `Machine.clone_fresh`: a clone keeps the absolute address it was given
  as the origin, and into a fresh directory writes the files of `HEAD`'s tree, each at its path
  (`Machine.writeTree_files`);
* `Machine.clone_freshClone`, `Machine.fetch_freshClone`, `Machine.checkout_freshClone`: such a
  clone is a fresh one (`Machine.FreshClone`); a fetch in it from its origin succeeds and keeps it
  fresh, and a checkout in it of a commit the origin has succeeds.

What `rev-parse` reads in a directory depends on the disk on the way down to it and below it and on
the repository recorded for it only (`Machine.SameAt.revParse_eq`).
-/

namespace AdvisoryTrace.Disk

/-- A path below a list, cut at the list: on the way down to it, or the list and more. -/
theorem prefix_append_cases {q g t : List String} (h : q <+: g ++ t) :
    q <+: g ∨ ∃ s, s ≠ [] ∧ s <+: t ∧ q = g ++ s := by
  rcases List.prefix_or_prefix_of_prefix h (List.prefix_append g t) with hq | hg
  · exact .inl hq
  · obtain ⟨s, rfl⟩ := hg
    by_cases hs : s = []
    · subst hs
      exact .inl (by simp)
    · exact .inr ⟨s, hs, (List.prefix_append_right_inj g).mp h, rfl⟩

/-- A list that starts another starts with the same element. -/
theorem head?_eq_of_starts {s l : List String} (hs : s ≠ []) (h : s <+: l) : s.head? = l.head? := by
  obtain ⟨t, rfl⟩ := h
  obtain ⟨y, s', rfl⟩ := List.exists_cons_of_ne_nil hs
  rfl

section LayOutFiles

variable {g : List String} {es : List (List String × List UInt8)} {d : Disk}

/-- Laying out files whose paths keep apart, below a directory with no file on the way down and
nothing where they go, puts each file at its path. -/
theorem layOut_files (hapart : es.Pairwise fun e e' => ¬ e.1 <+: e'.1 ∧ ¬ e'.1 <+: e.1)
    (hne : ∀ e ∈ es, e.1 ≠ []) (hno : NoFileOn d g)
    (hfresh : ∀ e ∈ es, ∀ s, s ≠ [] → s <+: e.1 → d.node? (g ++ s) = none) :
    ∀ e ∈ es, (layOut g (es.map fun e => (e.1, .file e.2)) d).node? (g ++ e.1) = some (.file e.2) := by
  intro e he
  obtain ⟨pre, post, rfl⟩ := List.append_of_mem he
  rw [List.pairwise_append, List.pairwise_cons] at hapart
  obtain ⟨-, ⟨hfirst, -⟩, hcross⟩ := hapart
  have hpre : ∀ a ∈ pre, ¬ a.1 <+: e.1 ∧ ¬ e.1 <+: a.1 := fun a ha =>
    hcross a ha e List.mem_cons_self
  have hpost : ∀ b ∈ post, ¬ e.1 <+: b.1 := fun b hb => (hfirst b hb).1
  have he1 : e.1 ≠ [] := hne e he
  rw [List.map_append, List.map_cons, layOut_append, layOut_cons]
  have hnone : (layOut g (pre.map fun e => (e.1, .file e.2)) d).node? (g ++ e.1) = none := by
    rw [only_layOut]
    · exact hfresh e he e.1 he1 List.prefix_rfl
    · simp only [List.mem_map]
      rintro _ ⟨a, ha, rfl⟩ hpa
      exact (hpre a ha).2 ((List.prefix_append_right_inj g).mp hpa)
  have hway : NoFileOn (layOut g (pre.map fun e => (e.1, .file e.2)) d) (g ++ e.1).dropLast := by
    intro q hq
    rw [List.dropLast_append_of_ne_nil he1] at hq
    rcases prefix_append_cases hq with hqg | ⟨s, hs, hse, rfl⟩
    · refine noFile_layOut (fun x hx hqx => ?_) (hno q hqg)
      obtain ⟨a, ha, rfl⟩ := List.mem_map.mp hx
      have hlen : (g ++ a.1).length ≤ g.length := hqx ▸ hqg.length_le
      rw [List.length_append] at hlen
      exact hne a (List.mem_append_left _ ha) (List.length_eq_zero_iff.mp (by omega))
    · have hsE : s <+: e.1 := hse.trans (List.dropLast_prefix _)
      refine noFile_layOut (fun x hx hsx => ?_) (fun bytes h => ?_)
      · obtain ⟨a, ha, rfl⟩ := List.mem_map.mp hx
        exact (hpre a ha).1 (List.append_cancel_left hsx ▸ hsE)
      · rw [hfresh e he s hs hsE] at h
        cases h
  obtain ⟨d₁, hplace, -, hnode₁⟩ := @place_file_eq_some _ _ e.2 (by simp [he1]) hway hnone
  rw [hplace, Option.getD_some]
  refine keeps_layOut (fun x hx hbe => ?_) ((hnode₁ _).trans (if_pos rfl))
  obtain ⟨b, hb, rfl⟩ := List.mem_map.mp hx
  exact hpost b hb (List.append_cancel_left hbe ▸ List.prefix_rfl)

end LayOutFiles

end AdvisoryTrace.Disk

namespace AdvisoryTrace.Disk

/-- A disk keeps the `.git` directory of a work tree and the directories on the way down to it:
the same name, the same nodes below `.git`, and each directory above the work tree still one. -/
structure KeepsGit (dir : List String) (d d' : Disk) : Prop where
  root_eq : d'.root = d.root
  git : ∀ q, dir ++ [".git"] <+: q → d'.node? q = d.node? q
  dirs : ∀ q, q <+: dir → d.node? q = some .dir → d'.node? q = some .dir

namespace KeepsGit

variable {dir : List String} {d₁ d₂ d₃ : Disk}

theorem refl (dir : List String) (d : Disk) : d.KeepsGit dir d :=
  ⟨rfl, fun _ _ => rfl, fun _ _ h => h⟩

theorem trans (h₁ : d₁.KeepsGit dir d₂) (h₂ : d₂.KeepsGit dir d₃) : d₁.KeepsGit dir d₃ :=
  ⟨h₂.root_eq.trans h₁.root_eq, fun q hq => (h₂.git q hq).trans (h₁.git q hq),
    fun q hq h => h₂.dirs q hq (h₁.dirs q hq h)⟩

end KeepsGit

/-- A change within one entry of a work tree other than `.git` keeps the `.git` directory. -/
theorem Within.keepsGit {dir : List String} {x : String} {d d' : Disk} (hx : x ≠ ".git")
    (h : d.Within (dir ++ [x]) d') : d.KeepsGit dir d' := by
  have hsame : ∀ q, dir ++ [".git"] <+: q → dir ++ [x] <+: q → False := fun q hg hq => by
    have := List.prefix_of_prefix_length_le hq hg (by simp)
    exact hx (List.cons_prefix_cons.mp ((List.prefix_append_right_inj dir).mp this)).1
  refine ⟨h.root_eq, fun q hq => ?_, fun q hq hdir => ?_⟩
  · rcases h.node?_eq q (hsame q hq) with hn | ⟨hqt, -⟩
    · exact hn
    · exact (hsame _ (hq.trans hqt) List.prefix_rfl).elim
  · have hnot : ¬ dir ++ [x] <+: q := fun hxq => by
      have := hxq.length_le.trans hq.length_le
      simp at this
    rcases h.node?_eq q hnot with hn | ⟨-, -, hd⟩
    · rw [hn, hdir]
    · exact hd

/-- A path is a directory where the disk holds a directory there. -/
theorem isDir_iff {d : Disk} {p : List String} : d.isDir p = true ↔ d.node? p = some .dir := by
  unfold isDir
  cases d.node? p with
  | none => exact ⟨fun h => (by cases h), fun h => (by cases h)⟩
  | some n =>
    cases n with
    | file b => exact ⟨fun h => (by cases h), fun h => (by cases h)⟩
    | dir => exact ⟨fun _ => rfl, fun _ => rfl⟩

/-- Making a directory with those above it, where it succeeded: the path is a directory, and
nothing off the way down to it changed. -/
theorem createDirAll_eq_ok {d d' : Disk} {p : List String} (h : d.createDirAll p = .ok d') :
    d'.root = d.root ∧ d'.isDir p = true ∧ ∀ q, ¬ q <+: p → d'.node? q = d.node? q := by
  unfold createDirAll at h
  split at h
  · rename_i hdir
    cases h
    exact ⟨rfl, by unfold isDir; rw [hdir]; rfl, fun _ _ => rfl⟩
  · cases h
  · rename_i hnone
    split at h
    · rename_i d₁ h₁
      cases h
      obtain ⟨-, hroot, hnode⟩ := makeDirs_eq_some h₁
      refine ⟨hroot, ?_, fun q hq => by simp [hnode, hq]⟩
      unfold isDir
      rw [hnode, hnone, if_pos List.prefix_rfl]
      rfl
    · cases h

theorem node?_removeTree_below {d : Disk} {path q : List String} (hp : path ≠ []) (hq : path <+: q) :
    (d.removeTree path).node? q = none := by
  have hne : q ≠ [] := fun h => hp (List.prefix_nil.mp (h ▸ hq))
  unfold removeTree Disk.node?
  rw [if_neg (by simpa using hne), Option.map_eq_none_iff, List.find?_eq_none]
  intro e he heq
  have hkept := (List.mem_filter.mp he).2
  rw [beq_iff_eq.mp heq, List.isPrefixOf_iff_prefix.mpr hq] at hkept
  cases hkept

/-- Removing a directory with everything below it, where it succeeded: nothing is left there or
below, and nothing else changed. -/
theorem removeDirAll_eq_ok {d d' : Disk} {p : List String} (hp : p ≠ []) (h : d.removeDirAll p = .ok d') :
    d'.root = d.root ∧ (∀ q, p <+: q → d'.node? q = none) ∧ ∀ q, ¬ p <+: q → d'.node? q = d.node? q := by
  unfold removeDirAll at h
  split at h
  · cases h
    exact ⟨rfl, fun q hq => node?_removeTree_below hp hq, fun q hq => node?_removeTree hq⟩
  · cases h
  · cases h

end AdvisoryTrace.Disk

namespace AdvisoryTrace.Git

open Disk

namespace Tree

/-- Every file of a tree lies in the work tree: its path has a first part, and that part is
not `.git`. -/
def InWorkTree (t : Tree) : Prop :=
  ∀ f ∈ t, ∃ x ∈ (Disk.Path.steps f.1).head?, x ≠ ".git"

/-- No path of a tree is another's, or a directory on the way down to another. -/
def Apart (t : Tree) : Prop :=
  t.Pairwise fun f g => ¬ Disk.Path.steps f.1 <+: Disk.Path.steps g.1 ∧
    ¬ Disk.Path.steps g.1 <+: Disk.Path.steps f.1

theorem InWorkTree.nil : InWorkTree [] := fun _ h => absurd h List.not_mem_nil

end Tree

namespace Repo

@[simp]
theorem commits_addLog (r : Repo) (name : String) (e : LogEntry) : (r.addLog name e).commits = r.commits := by
  unfold addLog
  split <;> rfl

@[simp]
theorem head_addLog (r : Repo) (name : String) (e : LogEntry) : (r.addLog name e).head = r.head := by
  unfold addLog
  split <;> rfl

@[simp]
theorem refs_addLog (r : Repo) (name : String) (e : LogEntry) : (r.addLog name e).refs = r.refs := by
  unfold addLog
  split <;> rfl

@[simp]
theorem commits_setRef (r : Repo) (name id : String) : (r.setRef name id).commits = r.commits := by
  unfold setRef
  split <;> rfl

@[simp]
theorem head_setRef (r : Repo) (name id : String) : (r.setRef name id).head = r.head := by
  unfold setRef
  split <;> rfl

/-- Pointing one ref at a commit leaves every other ref where it was. -/
theorem lookup_setRef_ne (r : Repo) {name key : String} (id : String) (h : key ≠ name) :
    (r.setRef name id).refs.lookup key = r.refs.lookup key := by
  have hkey : (key == name) = false := beq_false_of_ne h
  unfold setRef
  split
  · dsimp only
    induction r.refs with
    | nil => rfl
    | cons e es ih =>
      obtain ⟨k, v⟩ := e
      simp only [List.map_cons]
      split
      · rename_i hk
        obtain rfl : k = name := beq_iff_eq.mp hk
        simp only [List.lookup_cons, hkey]
        exact ih
      · simp only [List.lookup_cons]
        cases key == k
        · exact ih
        · rfl
  · simp [List.lookup_append, hkey]

@[simp]
theorem headId?_addLog (r : Repo) (name : String) (e : LogEntry) : (r.addLog name e).headId? = r.headId? := by
  simp only [headId?, head_addLog, refs_addLog]

end Repo

/-- A local branch is no remote-tracking branch. -/
theorem heads_ne_remote (b x : String) : "refs/heads/" ++ b ≠ "refs/remotes/origin/" ++ x := by
  intro h
  have := congrArg (fun t : String => t.toList[5]?) h
  simp only [String.toList_append] at this
  rw [List.getElem?_append_left (by decide +kernel), List.getElem?_append_left (by decide +kernel)] at this
  revert this
  decide +kernel

/-- A local branch is no tag. -/
theorem heads_ne_of_tag {name : String} (b : String) (h : name.startsWith "refs/tags/" = true) :
    "refs/heads/" ++ b ≠ name := by
  rintro rfl
  rw [String.startsWith_string_iff] at h
  obtain ⟨t, ht⟩ := h
  have := congrArg (fun l : List Char => l[5]?) ht
  simp only [String.toList_append] at this
  rw [List.getElem?_append_left (by decide +kernel), List.getElem?_append_left (by decide +kernel)] at this
  revert this
  decide +kernel

theorem Repo.treeOf_inWorkTree {r : Repo} (h : ∀ cm ∈ r.commits, cm.tree.InWorkTree)
    (id : Option String) : (r.treeOf id).InWorkTree := by
  unfold Repo.treeOf
  cases hc : id.bind r.commit? with
  | none => exact Tree.InWorkTree.nil
  | some cm =>
    obtain ⟨i, -, hfind⟩ := Option.bind_eq_some_iff.mp hc
    exact h cm (List.mem_of_find?_eq_some hfind)

/-- Pointing a ref other than a local branch at a commit leaves `HEAD` where it was. -/
theorem Repo.headId?_setRef (r : Repo) {name : String} (id : String)
    (h : ∀ b, "refs/heads/" ++ b ≠ name) : (r.setRef name id).headId? = r.headId? := by
  unfold Repo.headId?
  rw [Repo.head_setRef]
  split
  · exact r.lookup_setRef_ne id (h _)
  · rfl

/-- Commits the repository has already add nothing. -/
theorem Repo.addCommits_of_mem {r : Repo} {cs : List Commit} (h : ∀ cm ∈ cs, cm ∈ r.commits) :
    (r.addCommits cs).commits = r.commits := by
  unfold addCommits
  rw [List.filter_eq_nil_iff.mpr fun cm hcm => ?_, List.append_nil]
  have hsome : (r.commit? cm.id).isSome := by
    rw [commit?, List.find?_isSome]
    exact ⟨cm, h cm hcm, by simp⟩
  simpa [Option.isSome_iff_ne_none] using hsome

/-- The tree `HEAD` is at depends on the commits and on `HEAD` only. -/
theorem Repo.treeOf_headId?_congr {r r' : Repo} (hc : r'.commits = r.commits) (hh : r'.headId? = r.headId?) :
    r'.treeOf r'.headId? = r.treeOf r.headId? := by
  have hcommit : r'.commit? = r.commit? := by
    funext id
    simp only [commit?, hc]
  simp only [treeOf, hcommit, hh]

namespace Machine

/-- Writing a tree whose paths keep apart and stay out of `.git`, into a directory with no file on
the way down and nothing in it outside `.git`, puts each file of the tree at its path. -/
theorem writeTree_files {m : Machine} {dir : List String} {tree : Tree} (hapart : tree.Apart)
    (hwork : tree.InWorkTree) (hno : NoFileOn m.disk dir)
    (hfresh : ∀ s, (∃ x ∈ s.head?, x ≠ ".git") → m.disk.node? (dir ++ s) = none) :
    ∀ f ∈ tree, (m.writeTree dir tree).disk.node? (dir ++ Disk.Path.steps f.1) = some (.file f.2) := by
  intro f hf
  have hpairs : (tree.map fun f => (Disk.Path.steps f.1, f.2)).Pairwise
      fun e e' => ¬ e.1 <+: e'.1 ∧ ¬ e'.1 <+: e.1 :=
    List.pairwise_map.mpr hapart
  have hne : ∀ e ∈ tree.map (fun f => (Disk.Path.steps f.1, f.2)), e.1 ≠ [] := by
    intro e he
    obtain ⟨f, hf, rfl⟩ := List.mem_map.mp he
    obtain ⟨x, hx, -⟩ := hwork f hf
    intro hnil
    dsimp only at hnil
    rw [hnil] at hx
    cases hx
  have hfresh' : ∀ e ∈ tree.map (fun f => (Disk.Path.steps f.1, f.2)), ∀ s, s ≠ [] → s <+: e.1 →
      m.disk.node? (dir ++ s) = none := by
    intro e he s hs hse
    obtain ⟨f, hf, rfl⟩ := List.mem_map.mp he
    obtain ⟨x, hx, hgit⟩ := hwork f hf
    exact hfresh s ⟨x, (head?_eq_of_starts hs hse).symm ▸ hx, hgit⟩
  have hlay : (layOut dir ((tree.map fun f => (Disk.Path.steps f.1, f.2)).map fun e => (e.1, Node.file e.2))
      m.disk).node? (dir ++ Disk.Path.steps f.1) = some (.file f.2) :=
    layOut_files hpairs hne hno hfresh' _ (List.mem_map_of_mem hf)
  rw [List.map_map] at hlay
  rw [writeTree_eq]
  exact hlay

/-- A path of a work tree, the part of it checkout changes: its first part is not `.git`. -/
theorem within_of_head {dir : List String} {p : String} {x : String}
    (hx : x ∈ (Disk.Path.steps p).head?) :
    dir ++ [x] <+: dir ++ Disk.Path.steps p := by
  obtain ⟨rest, hrest⟩ := List.head?_eq_some_iff.mp hx
  rw [hrest]
  exact (List.prefix_append_right_inj dir).mpr (List.cons_prefix_cons.mpr ⟨rfl, List.nil_prefix⟩)

/-- A fold of steps that each keep the `.git` directory, over paths of the work tree, keeps it. -/
theorem foldl_keepsGit {dir : List String} {f : Disk → String → Disk} (ps : List String)
    (hps : ∀ p ∈ ps, ∃ x ∈ (Disk.Path.steps p).head?, x ≠ ".git")
    (hf : ∀ (d : Disk) p, (∃ x ∈ (Disk.Path.steps p).head?, x ≠ ".git") → d.KeepsGit dir (f d p))
    (d : Disk) :
    d.KeepsGit dir (ps.foldl f d) :=
  List.foldlRecOn (motive := fun d' : Disk => d.KeepsGit dir d') ps _ (.refl dir d)
    fun _ hd p hp => hd.trans (hf _ p (hps p hp))

/-- Checkout changes a work tree only outside its `.git`, when the two trees it moves between
keep out of `.git`. -/
theorem detachAt_keepsGit {m : Machine} {dir : List String} {r : Repo} {id target before : String}
    {force : Bool} (hold : (r.treeOf r.headId?).InWorkTree) (hnew : (r.treeOf (some id)).InWorkTree) :
    m.disk.KeepsGit dir (m.detachAt dir r id target before force).2.disk := by
  unfold detachAt
  dsimp only
  split
  · exact .refl dir m.disk
  · have hpaths : ∀ p ∈ ((r.treeOf r.headId?).map (·.1) ++ (r.treeOf (some id)).map (·.1)),
        ∃ x ∈ (Disk.Path.steps p).head?, x ≠ ".git" := by
      intro p hp
      rcases List.mem_append.mp hp with hp | hp <;> obtain ⟨f, hf, rfl⟩ := List.mem_map.mp hp
      · exact hold f hf
      · exact hnew f hf
    refine (foldl_keepsGit _ (fun p hp => ?_) (fun d p hx => ?_) _).trans
      (foldl_keepsGit _ (fun p hp => ?_) (fun d p hx => ?_) _)
    · exact hpaths p (List.mem_eraseDups.mp (List.mem_mergeSort.mp (List.mem_filter.mp hp).1))
    · obtain ⟨x, hx, hgit⟩ := hx
      refine Within.keepsGit hgit ?_
      split
      · exact (removeTree_within (within_of_head hx) d).trans
          (pruneFrom_within (within_of_head hx) (by simp) _ _ _ (List.dropLast_prefix _))
      · exact .refl _ d
    · exact hpaths p (List.mem_eraseDups.mp (List.mem_mergeSort.mp (List.mem_filter.mp hp).1))
    · obtain ⟨x, hx, hgit⟩ := hx
      refine Within.keepsGit hgit ?_
      split
      · rename_i bytes _
        cases hplace : (d.removeTree (dir ++ Disk.Path.steps p)).place (dir ++ Disk.Path.steps p)
            (.file bytes) with
        | none => exact .refl _ d
        | some d' => exact (removeTree_within (within_of_head hx) d).trans (place_within (within_of_head hx) hplace)
      · exact .refl _ d

/-- A checkout that succeeded recorded the repository again, with `HEAD` detached at the commit
and its commits and origin as they were, on the disk it left. -/
theorem detachAt_of_code {m : Machine} {dir : List String} {r : Repo} {id target before : String}
    {force : Bool} (h : (m.detachAt dir r id target before force).1.code = 0) :
    ∃ r', (m.detachAt dir r id target before force).2 =
        ({ m with disk := (m.detachAt dir r id target before force).2.disk } : Machine).setRepo dir r' ∧
      r'.head = .detached id ∧ r'.commits = r.commits ∧ r'.origin = r.origin := by
  unfold detachAt at h ⊢
  dsimp only at h ⊢
  split at h
  · simp at h
  · rename_i hc
    simp only [if_neg hc]
    exact ⟨_, rfl, rfl, by split <;> simp, by split <;> simp⟩

/-- Where every tracked file of the work tree is as the commit `HEAD` is at has it, and nothing
stands where a file comes that was not tracked, checkout succeeds. -/
theorem detachAt_code_of_clean {m : Machine} {dir : List String} {r : Repo} {id target before : String}
    (hold : ∀ p bytes, (r.treeOf r.headId?).lookup p = some bytes →
      m.disk.node? (dir ++ Disk.Path.steps p) = some (.file bytes))
    (hnew : ∀ p, (r.treeOf r.headId?).lookup p = none → ((r.treeOf (some id)).lookup p).isSome →
      m.disk.node? (dir ++ Disk.Path.steps p) = none) :
    (m.detachAt dir r id target before).1.code = 0 := by
  unfold detachAt
  dsimp only
  rw [if_neg]
  · rfl
  simp only [Bool.not_false, Bool.true_and, Bool.false_and, Bool.or_false, Bool.or_eq_true,
    Bool.not_eq_true', List.isEmpty_eq_false_iff, ne_eq, not_or, not_not, List.filter_eq_nil_iff]
  refine ⟨fun p _ => ?_, fun p hp => ?_⟩
  · -- a tracked file is as `HEAD` has it
    cases hold' : (r.treeOf r.headId?).lookup p with
    | none => simp
    | some bytes => simp [hold p bytes hold']
  · -- a path that was not tracked, and changes, comes with the new commit: nothing is there
    have hchanged := (List.mem_filter.mp hp).2
    cases hold' : (r.treeOf r.headId?).lookup p with
    | some _ => simp
    | none =>
      rw [hold'] at hchanged
      have hsome : ((r.treeOf (some id)).lookup p).isSome = true := by
        cases hl : (r.treeOf (some id)).lookup p
        · rw [hl] at hchanged
          cases hchanged
        · rfl
      simp [hnew p hold' hsome]

/-- Git stops with status 128 where it cannot reach a repository. -/
theorem reach_error_code {m : Machine} {cwd : List String} {url : String} {run : Run}
    (h : m.reach cwd url = .error run) : run.code = 128 := by
  unfold reach at h
  split at h
  · split at h
    · unfold Served.open at h
      split at h <;> cases h <;> rfl
    · cases h
      rfl
  · unfold Served.open at h
    split at h <;> cases h <;> rfl
  · cases h
    rfl

/-- A fetch that succeeded found the repository and its origin, and recorded the repository again
with the origin's commits added, `HEAD` where it stood and its origin kept. -/
theorem fetch_of_code {m : Machine} {cwd : List String} (h : (m.fetch cwd).1.code = 0) :
    ∃ r o r', m.repoAt? cwd = some r ∧
      (∃ url, r.origin = some url ∧ (m.reach cwd url).toOption.bind m.repoAt? = some o) ∧
      (m.fetch cwd).2 = m.setRepo cwd r' ∧ r'.origin = r.origin ∧ r'.headId? = r.headId? ∧
      r'.commits = (r.addCommits o.commits).commits := by
  unfold fetch at h ⊢
  cases hr : m.repoAt? cwd with
  | none => simp [hr, Run.fatal] at h
  | some r =>
    simp only [hr] at h ⊢
    cases hu : r.origin with
    | none => simp [hu, unreadable] at h
    | some url =>
      simp only [hu] at h ⊢
      cases ho : (m.reach cwd url).toOption.bind m.repoAt? with
      | none =>
        simp only [ho] at h
        split at h
        · rename_i _ heq
          cases heq
        · rw [reach_error_code ‹_›] at h
          cases h
        · simp [unreachable, unreadable] at h
      | some o =>
        simp only
        refine ⟨r, o, _, rfl, ⟨url, hu, ho⟩, rfl, ?_, ?_, ?_⟩
        -- each ref of the origin moves a remote-tracking branch or adds a tag, with a log entry
        · refine (List.foldlRecOn (motive := fun r' : Repo => r'.origin = r.origin) o.refs _ rfl
            fun r' h e _ => ?_)
          obtain ⟨name, id⟩ := e
          dsimp only
          split
          · split
            · split <;> simp [h]
            · simp [h]
          · split <;> simp [h]
        · refine (List.foldlRecOn (motive := fun r' : Repo => r'.headId? = r.headId?) o.refs _ rfl
            fun r' h e _ => ?_)
          obtain ⟨name, id⟩ := e
          dsimp only
          split
          · split
            · split
              · exact h
              · rw [Repo.headId?_addLog, Repo.headId?_setRef _ _ fun b => heads_ne_remote b _, h]
            · rw [Repo.headId?_addLog, Repo.headId?_setRef _ _ fun b => heads_ne_remote b _, h]
          · split
            · rename_i htag
              rw [Repo.headId?_setRef _ _ fun b => heads_ne_of_tag b (Bool.and_eq_true_iff.mp htag).1, h]
            · exact h
        · refine (List.foldlRecOn (motive := fun r' : Repo => r'.commits = (r.addCommits o.commits).commits)
            o.refs _ rfl fun r' h e _ => ?_)
          obtain ⟨name, id⟩ := e
          dsimp only
          split
          · split
            · split <;> simp [h]
            · simp [h]
          · split <;> simp [h]

/-- Whether a directory is a git directory depends on the disk below it only. -/
theorem isGitDir_congr {m m' : Machine} {g : List String}
    (h : ∀ q, g <+: q → m'.disk.node? q = m.disk.node? q) : m'.isGitDir g = m.isGitDir g := by
  simp only [isGitDir, Disk.isDir, Disk.read?, h _ (List.prefix_append _ _)]

/-- The repository of a work tree depends on its `.git` and on the record of it only. -/
theorem repoAt?_congr {m m' : Machine} {dir : List String}
    (hg : ∀ q, dir ++ [".git"] <+: q → m'.disk.node? q = m.disk.node? q)
    (hl : m'.repos.lookup dir = m.repos.lookup dir) : m'.repoAt? dir = m.repoAt? dir := by
  simp only [repoAt?, isGitDir_congr hg, hl]

/-- A repository recorded again for a work tree whose `.git` is kept is its repository. -/
theorem repoAt?_setRepo {m : Machine} {dir : List String} {r r' : Repo} {disk : Disk}
    (hr : m.repoAt? dir = some r) (hg : ∀ q, dir ++ [".git"] <+: q → disk.node? q = m.disk.node? q) :
    (({ m with disk } : Machine).setRepo dir r').repoAt? dir = some r' := by
  unfold repoAt? at hr ⊢
  rw [isGitDir_congr (m := m) (fun q hq => hg q hq)]
  split at hr
  · rw [if_pos ‹_›, lookup_setRepo, if_pos rfl]
  · cases hr

/-- `HEAD` of the repository in a directory is the commit a revision names there: `rev-parse`
reads both, and reads them alike. -/
structure HeadIs (m : Machine) (dir : List String) (rev : String) : Prop where
  head_code : (m.revParse dir "HEAD" false).code = 0
  rev_code : (m.revParse dir (rev ++ "^\x7bcommit\x7d") true).code = 0
  same : Text.trim (m.revParse dir "HEAD" false).out =
    Text.trim (m.revParse dir (rev ++ "^\x7bcommit\x7d") true).out

/-- `HEAD` detached at a commit the repository has is that commit, named in full. -/
theorem headIs_of_detached {m : Machine} {dir : List String} {r : Repo} {s : String}
    (hr : m.repoAt? dir = some r) (hh : r.head = .detached s) (hc : (r.commit? s).isSome)
    (hs : FullId s) : m.HeadIs dir s := by
  have hid : r.headId? = some s := by simp [Repo.headId?, hh]
  refine ⟨?_, ?_, ?_⟩ <;>
    simp only [revParse_head false hr hid hc, revParse_peel_commit true hr hs hc] <;> rfl

end Machine

/-- Every commit of a repository has its files in the work tree. -/
def Repo.TreesInWorkTree (r : Repo) : Prop :=
  ∀ cm ∈ r.commits, cm.tree.InWorkTree

namespace Machine

/-- Every repository of a machine has its commits' files in the work tree: git keeps no `.git`
in a tree. -/
def TreesInWorkTree (m : Machine) : Prop :=
  ∀ e ∈ m.repos, e.2.TreesInWorkTree

namespace TreesInWorkTree

variable {m : Machine}

theorem lookup (h : m.TreesInWorkTree) {dir : List String} {r : Repo}
    (hl : m.repos.lookup dir = some r) : r.TreesInWorkTree := by
  obtain ⟨l₁, l₂, he, -⟩ := List.lookup_eq_some_iff.mp hl
  exact h (dir, r) (he ▸ List.mem_append_right l₁ List.mem_cons_self)

theorem repoAt? (h : m.TreesInWorkTree) {dir : List String} {r : Repo}
    (hr : m.repoAt? dir = some r) : r.TreesInWorkTree :=
  h.lookup (lookup_of_repoAt? hr)

theorem of_repos {m' : Machine} (hrepos : m'.repos = m.repos) (h : m.TreesInWorkTree) :
    m'.TreesInWorkTree := by
  unfold TreesInWorkTree
  rw [hrepos]
  exact h

theorem writeTree (h : m.TreesInWorkTree) (dir : List String) (tree : Tree) :
    (m.writeTree dir tree).TreesInWorkTree :=
  h

theorem setRepo (h : m.TreesInWorkTree) {dir : List String} {r : Repo} (hr : r.TreesInWorkTree) :
    (m.setRepo dir r).TreesInWorkTree := by
  intro e he
  rcases List.mem_cons.mp he with rfl | he
  · exact hr
  · exact h e (List.mem_filter.mp he).1

end TreesInWorkTree

theorem detachAt_trees {m : Machine} {dir : List String} {r : Repo} (h : m.TreesInWorkTree)
    (hr : r.TreesInWorkTree) (id target before : String) (force : Bool) :
    (m.detachAt dir r id target before force).2.TreesInWorkTree := by
  unfold detachAt
  dsimp only
  split
  · exact h
  · refine TreesInWorkTree.setRepo (m := { m with disk := _ }) h fun cm hcm => hr cm ?_
    split at hcm <;> simpa using hcm

theorem checkoutWord_trees {m : Machine} {cwd : List String} {r : Repo} (h : m.TreesInWorkTree)
    (hr : r.TreesInWorkTree) (arg : String) : (m.checkoutWord cwd r arg).2.TreesInWorkTree := by
  unfold checkoutWord
  dsimp only
  split
  · exact h
  · exact detachAt_trees h hr _ _ _ _
  all_goals exact h

theorem checkout_trees {m : Machine} (h : m.TreesInWorkTree) (cwd : List String) (args : List String) :
    (m.checkout cwd args).2.TreesInWorkTree := by
  unfold checkout
  split
  · exact h
  · rename_i r hr
    dsimp only
    repeat' split
    all_goals first
      | exact h
      | exact checkoutWord_trees h (h.repoAt? hr) _
      | exact detachAt_trees h (h.repoAt? hr) _ _ _ _

/-- A fetch from a repository whose origin it reaches succeeds. -/
theorem fetch_code_of_reach {m : Machine} {cwd : List String} {r o : Repo} {url : String}
    (hr : m.repoAt? cwd = some r) (hu : r.origin = some url)
    (ho : (m.reach cwd url).toOption.bind m.repoAt? = some o) : (m.fetch cwd).1.code = 0 := by
  unfold fetch
  simp only [hr, hu, ho]
  rfl

/-- A fetch that failed changed nothing. -/
theorem fetch_of_code_ne {m : Machine} {cwd : List String} (h : (m.fetch cwd).1.code ≠ 0) :
    (m.fetch cwd).2 = m := by
  unfold fetch at h ⊢
  cases hr : m.repoAt? cwd with
  | none => rfl
  | some r =>
    simp only [hr] at h ⊢
    cases hu : r.origin with
    | none => rfl
    | some url =>
      simp only [hu] at h ⊢
      cases ho : (m.reach cwd url).toOption.bind m.repoAt? with
      | none =>
        split
        · rename_i _ heq
          cases heq
        · rfl
        · rfl
      | some o =>
        simp only [ho] at h
        exact absurd rfl h

theorem fetch_trees {m : Machine} (h : m.TreesInWorkTree) (cwd : List String) :
    (m.fetch cwd).2.TreesInWorkTree := by
  by_cases hcode : (m.fetch cwd).1.code = 0
  · obtain ⟨r, o, r', hr, ⟨url, -, ho⟩, hfetch, -, -, hcommits⟩ := fetch_of_code hcode
    obtain ⟨src, -, hsrc⟩ := Option.bind_eq_some_iff.mp ho
    rw [hfetch]
    refine h.setRepo fun cm hcm => ?_
    rw [hcommits] at hcm
    rcases List.mem_append.mp hcm with hcm | hcm
    · exact h.repoAt? hr cm hcm
    · exact h.repoAt? hsrc cm (List.mem_filter.mp hcm).1
  · rw [fetch_of_code_ne hcode]
    exact h

theorem makeGitDir_repos {m m' : Machine} {dir : List String} (h : m.makeGitDir dir = some m') :
    m'.repos = m.repos := by
  rw [makeGitDir_eq] at h
  obtain ⟨d, -, rfl⟩ := Option.map_eq_some_iff.mp h
  rfl

theorem clone_trees {m : Machine} (h : m.TreesInWorkTree) (cwd : List String) (url destText : String) :
    (m.clone cwd url destText).2.TreesInWorkTree := by
  unfold clone
  split
  · exact h
  · exact h
  · split
    · exact h
    · rename_i origin horigin
      dsimp only
      repeat' split
      all_goals first
        | exact h
        | (refine TreesInWorkTree.writeTree (TreesInWorkTree.setRepo
            (TreesInWorkTree.of_repos (makeGitDir_repos ‹_›) h) ?_) _ _
           exact fun cm hcm => h.repoAt? horigin cm hcm)

theorem run_trees {m : Machine} (h : m.TreesInWorkTree) (cwd : List String) (args : List String) :
    (m.run cwd args).2.TreesInWorkTree := by
  unfold run
  split
  · unfold cloneCommand
    repeat' split
    all_goals first
      | exact h
      | exact clone_trees h _ _ _
  · exact fetch_trees h cwd
  · exact checkout_trees h cwd _
  all_goals exact h

/-- A checkout of a commit named in full that succeeded found the repository, which has the
commit; it left `HEAD` at the commit, the repository's origin as it was, and the `.git` and the
directories above the work tree in place. -/
theorem checkout_fullId_of_code {m : Machine} {cwd : List String} {s : String} (hs : FullId s)
    (htrees : m.TreesInWorkTree) (h : (m.checkout cwd ["--quiet", "--detach", s]).1.code = 0) :
    ∃ r r', m.repoAt? cwd = some r ∧
      (m.checkout cwd ["--quiet", "--detach", s]).2.repoAt? cwd = some r' ∧ r'.origin = r.origin ∧
      m.disk.KeepsGit cwd (m.checkout cwd ["--quiet", "--detach", s]).2.disk ∧
      (m.checkout cwd ["--quiet", "--detach", s]).2.HeadIs cwd s := by
  cases hr : m.repoAt? cwd with
  | none =>
    unfold checkout at h
    rw [hr] at h
    simp [Run.fatal] at h
  | some r =>
    rw [checkout_fullId hr hs] at h ⊢
    split at h
    · rename_i hc
      rw [if_pos hc]
      have hwork := Repo.treeOf_inWorkTree (htrees.repoAt? hr)
      have hkeep : m.disk.KeepsGit cwd (m.detachAt cwd r s s "").2.disk :=
        detachAt_keepsGit (hwork _) (hwork _)
      obtain ⟨r', hres, hhead, hcommits, horigin⟩ := detachAt_of_code h
      have hrepo : (m.detachAt cwd r s s "").2.repoAt? cwd = some r' := by
        rw [hres]
        exact repoAt?_setRepo hr hkeep.git
      refine ⟨r, r', rfl, hrepo, horigin, hkeep, headIs_of_detached hrepo hhead ?_ hs⟩
      rw [Repo.commit?, hcommits]
      exact hc
    · simp at h

end Machine

/-- `.git` is a name of one step. -/
theorem isCacheName_git : Repository.IsCacheName ".git" := by
  have hl : ".git".toList = ['.', 'g', 'i', 't'] := by decide +kernel
  refine ⟨fun h => by simp [h] at hl, fun c hc => ?_, fun h => by simp [h] at hl,
    fun h => by simp [h] at hl⟩
  rw [hl] at hc
  simp only [List.mem_cons, List.not_mem_nil, or_false] at hc
  rcases hc with rfl | rfl | rfl | rfl <;> decide

/-- Where an absolute text leads, the text with `/` and a name of one step after it leads one step
further. -/
theorem locateFrom_append_slash {d : Disk} {text n : String} {p : List String}
    (hn : Repository.IsCacheName n) (habs : Disk.Path.isAbsolute text = true)
    (hp : locateFrom d [] text = some p) (cwd : List String) :
    locateFrom d cwd (text ++ "/" ++ n) = some (p ++ [n]) := by
  unfold locateFrom at hp ⊢
  dsimp only at hp ⊢
  split at hp
  · rename_i hcond
    obtain rfl := Option.some.inj hp
    simp only [Bool.and_eq_true, List.isPrefixOf_iff_prefix] at hcond
    obtain ⟨hpre, hrest⟩ := hcond
    have hk : d.root.length ≤ text.toList.length := by
      rw [← String.length_toList]
      exact hpre.length_le
    have htext : (text ++ "/" ++ n).toList = text.toList ++ '/' :: n.toList := by simp
    rw [if_pos, htext, List.drop_append_of_le_length hk, Disk.Path.steps_ofList_slash_name _ hn,
      normalize_append_step _ hn.ne_dotDot]
    rw [htext, List.drop_append_of_le_length hk]
    simp only [Bool.and_eq_true, List.isPrefixOf_iff_prefix]
    refine ⟨hpre.trans (List.prefix_append _ _), ?_⟩
    cases hr : List.drop d.root.length text.toList with
    | nil => simp
    | cons c cs =>
      rw [hr] at hrest
      simpa using hrest
  · simp at hp

/-- On a disk whose name does not end in `/`, an absolute text joined with a safe name leads one
step further than the text. -/
theorem locateFrom_join_of_root {d : Disk} {base n : String} {root : List String}
    (h : Repository.IsCacheName n) (habs : Disk.Path.isAbsolute base = true)
    (hname : d.root.toList.getLast? ≠ some '/') (hroot : locateFrom d [] base = some root)
    (cwd : List String) : locateFrom d cwd (Disk.Path.join base n) = some (root ++ [n]) := by
  refine (locateFrom_join h habs hroot cwd).resolve_left fun hnone => ?_
  unfold locateFrom at hroot hnone
  dsimp only at hroot hnone
  split at hroot
  · rename_i hcond
    simp only [Bool.and_eq_true, List.isPrefixOf_iff_prefix, Bool.or_eq_true, List.isEmpty_iff,
      beq_iff_eq] at hcond
    obtain ⟨hpre, hrest⟩ := hcond
    have hk : d.root.length ≤ base.toList.length := by
      rw [← String.length_toList]
      exact hpre.length_le
    rw [if_pos] at hnone
    · cases hnone
    simp only [Bool.and_eq_true, List.isPrefixOf_iff_prefix, Bool.or_eq_true, List.isEmpty_iff, beq_iff_eq]
    rcases Disk.Path.toList_join base h with hj | ⟨hlast, hj⟩ <;>
      rw [hj, List.drop_append_of_le_length hk] <;> refine ⟨hpre.trans (List.prefix_append _ _), ?_⟩
    · cases hb : base.toList.drop d.root.length with
      | nil => simp
      | cons x xs =>
        rw [hb] at hrest
        simpa using hrest
    · cases hb : base.toList.drop d.root.length with
      | nil =>
        -- the text is the disk's name, which would end in `/`
        exfalso
        have hlen : base.toList.length ≤ d.root.toList.length := by
          rw [String.length_toList]
          exact List.drop_eq_nil_iff.mp hb
        have heq : d.root.toList = base.toList := hpre.eq_of_length (le_antisymm hpre.length_le hlen)
        rcases hlast with hlast | rfl
        · exact hname (heq ▸ hlast)
        · revert habs
          decide +kernel
      | cons x xs =>
        rw [hb] at hrest
        simpa using hrest
  · cases hroot

/-- An absolute path is read from the disk. -/
theorem route_of_isAbsolute {url : String} (h : Disk.Path.isAbsolute url = true) :
    Remote.route url = .localPath := by
  unfold Disk.Path.isAbsolute at h
  rw [String.startsWith_string_iff] at h
  obtain ⟨rest, hrest⟩ := h
  have hcs : url.toList = '/' :: rest := by simpa using hrest.symm
  have hrsync : url.startsWith "rsync:" = false := by
    rw [String.startsWith_string_eq_false_iff]
    rintro ⟨t, ht⟩
    rw [hcs] at ht
    simp at ht
  -- a `/` comes before any `:`
  have hlocal : Remote.isLocalPath ('/' :: rest) = true := by
    unfold Remote.isLocalPath
    rw [List.findIdx?_cons, List.findIdx?_cons]
    simp only [show ('/' == ':') = false from rfl, show ('/' == '/') = true from rfl]
    cases List.findIdx? (fun x => x == ':') rest <;> simp
  unfold Remote.route
  simp only [hcs, Remote.urlScheme?, Remote.helperPrefix?, Remote.schemeSplit, Remote.isSchemeChar,
    hrsync]
  simp [hlocal]

namespace Machine

/-- Clone takes an address for the work tree whose `.git` it leads to. -/
theorem findLocal_of_repo {m : Machine} {cwd src : List String} {url : String}
    (hsrc : locateFrom m.disk cwd (url ++ "/.git") = some (src ++ [".git"]))
    (ho : (m.repoAt? src).isSome) : m.findLocal cwd url = .repo src := by
  unfold findLocal
  simp [repoSuffixes, hsrc, gitDirOf?, ho]

/-- A fetch reaches, at an absolute path, the repository whose `.git` the path leads to. -/
theorem reach_of_repo {m : Machine} {cwd src : List String} {url : String}
    (habs : Disk.Path.isAbsolute url = true)
    (hsrc : locateFrom m.disk cwd (url ++ "/.git") = some (src ++ [".git"]))
    (ho : (m.repoAt? src).isSome) : m.reach cwd url = .ok src := by
  unfold reach
  rw [route_of_isAbsolute habs]
  simp [serve, repoSuffixes, hsrc, gitDirOf?, ho, Served.open]

/-- The source of a clone that is a work tree is kept by its absolute address. -/
theorem cloneSource_of_repo {m : Machine} {cwd src : List String} {url : String}
    (hlocal : m.findLocal cwd url = .repo src) (hrooted : isRooted m.disk url = true) :
    m.cloneSource cwd url = .ok (src, url) := by
  simp [cloneSource, hlocal, hrooted]

/-- A clone keeps an absolute address as it is given. -/
theorem cloneSource_stored {m : Machine} {cwd src : List String} {url stored : String}
    (h : m.cloneSource cwd url = .ok (src, stored)) (hrooted : isRooted m.disk url = true) :
    stored = url := by
  unfold cloneSource at h
  dsimp only at h
  split at h
  · simp only [hrooted, if_true, Except.ok.injEq, Prod.mk.injEq] at h
    exact h.2.symm
  · simp at h
  · split at h
    · cases hr : m.reach cwd url with
      | error e => simp [hr, Except.map] at h
      | ok dir =>
        simp only [hr, Except.map, Except.ok.injEq, Prod.mk.injEq] at h
        exact h.2.symm
    · simp at h

/-- Git stops with status 128 where a clone has no source. -/
theorem cloneSource_error_code {m : Machine} {cwd : List String} {url : String} {run : Run}
    (h : m.cloneSource cwd url = .error run) : run.code = 128 := by
  unfold cloneSource at h
  dsimp only at h
  split at h
  · simp at h
  · simp only [Except.error.injEq] at h
    rw [← h]
  · split at h
    · cases hr : m.reach cwd url with
      | error e =>
        simp only [hr, Except.map, Except.error.injEq] at h
        rw [← h]
        exact reach_error_code hr
      | ok dir => simp [hr, Except.map] at h
    · simp only [Except.error.injEq] at h
      rw [← h]
      rfl

/-- A new `.git` keeps every directory, and is one. -/
theorem makeGitDir_dir {m made : Machine} {dir q : List String} (h : m.makeGitDir dir = some made)
    (hq : m.disk.node? q = some .dir) : made.disk.node? q = some .dir := by
  rw [makeGitDir_eq] at h
  obtain ⟨d, hd, rfl⟩ := Option.map_eq_some_iff.mp h
  obtain ⟨-, -, hnode⟩ := makeDirs_eq_some hd
  refine dir_layOut ?_
  rw [hnode, hq]
  rfl

theorem makeGitDir_git {m made : Machine} {dir : List String} (h : m.makeGitDir dir = some made) :
    made.disk.node? (dir ++ [".git"]) = some .dir := by
  rw [makeGitDir_eq] at h
  obtain ⟨d, hd, rfl⟩ := Option.map_eq_some_iff.mp h
  obtain ⟨hno, -, hnode⟩ := makeDirs_eq_some hd
  refine dir_layOut ?_
  rw [hnode, if_pos List.prefix_rfl]
  cases hn : m.disk.node? (dir ++ [".git"]) with
  | none => rfl
  | some n =>
    cases n with
    | dir => rfl
    | file b => exact absurd hn (hno _ List.prefix_rfl b)

/-- A clone keeps every directory. -/
theorem clone_dirs (m : Machine) (cwd : List String) (url destText : String) {q : List String}
    (hq : m.disk.node? q = some .dir) : (m.clone cwd url destText).2.disk.node? q = some .dir := by
  unfold clone
  dsimp only
  repeat' split
  all_goals first
    | exact hq
    | (rw [writeTree_eq]
       refine dir_layOut ?_
       dsimp only [setRepo]
       exact makeGitDir_dir ‹_› hq)

/-- A clone into a fresh directory of a work tree it finds makes the `.git`, records the
repository with the origin's commits, `HEAD` where the origin's stands and the address as its
origin, and writes the files of `HEAD`'s tree. -/
theorem clone_fresh {m : Machine} {cwd dest src : List String} {url destText : String} {o : Repo}
    (hsource : m.cloneSource cwd url = .ok (src, url)) (ho : m.repoAt? src = some o)
    (hdest : locateFrom m.disk cwd destText = some dest) (hno : NoFileOn m.disk dest)
    (hfresh : ∀ q, dest <+: q → m.disk.node? q = none) :
    ∃ made r, m.makeGitDir dest = some made ∧
      m.clone cwd url destText = (Run.ok "", (made.setRepo dest r).writeTree dest (o.treeOf o.headId?)) ∧
      r.origin = some url ∧ r.commits = o.commits ∧ r.headId? = o.headId? := by
  obtain ⟨made, hmade, -⟩ := makeGitDir_fresh hno hfresh
  have hempty : m.disk.node? dest = none := hfresh dest List.prefix_rfl
  unfold clone
  simp only [hsource, hdest, ho, hempty, hmade, Bool.false_eq_true, if_false]
  refine ⟨made, _, rfl, rfl, rfl, rfl, ?_⟩
  have hnone : ∀ b : String, ((o.refs.filterMap fun x => Option.map
      (fun b => ("refs/remotes/origin/" ++ b.toString, x.2)) (x.1.dropPrefix? "refs/heads/")) ++
      o.refs.filter fun x => x.1.startsWith "refs/tags/").lookup ("refs/heads/" ++ b) = none := by
    intro b
    rw [List.lookup_eq_none_iff]
    intro p hp
    rcases List.mem_append.mp hp with hp | hp
    · obtain ⟨x, -, hx⟩ := List.mem_filterMap.mp hp
      obtain ⟨y, -, rfl⟩ := Option.map_eq_some_iff.mp hx
      exact bne_iff_ne.mpr (heads_ne_remote b _)
    · exact bne_iff_ne.mpr (heads_ne_of_tag b (List.mem_filter.mp hp).2)
  cases hb : o.currentBranch? with
  | some b =>
    cases hh : o.headId? with
    | some id => simp [Repo.headId?]
    | none => simpa [Repo.headId?] using hnone b
  | none =>
    cases hh : o.headId? with
    | some id => simp [Repo.headId?]
    | none => simpa [Repo.headId?] using hnone "main"

/-- A clone that succeeded recorded a repository at the place its destination names, with the
address it was given as its origin when that address is absolute. -/
theorem clone_of_code {m : Machine} {cwd : List String} {url destText : String}
    (h : (m.clone cwd url destText).1.code = 0) :
    ∃ dest r, locateFrom m.disk cwd destText = some dest ∧
      (m.clone cwd url destText).2.repos.lookup dest = some r ∧
      (isRooted m.disk url = true → r.origin = some url) ∧
      (m.clone cwd url destText).2.disk.node? (dest ++ [".git"]) = some .dir := by
  unfold clone at h ⊢
  cases hsrc : m.cloneSource cwd url with
  | error run =>
    simp only [hsrc] at h
    rw [cloneSource_error_code hsrc] at h
    cases h
  | ok p =>
    obtain ⟨src, stored⟩ := p
    cases hd : locateFrom m.disk cwd destText with
    | none => simp [hsrc, hd, Run.fatal] at h
    | some dest =>
      simp only [hsrc, hd] at h ⊢
      cases ho : m.repoAt? src with
      | none => simp [ho, unreachable, unreadable] at h
      | some o =>
        simp only [ho] at h ⊢
        cases hn : m.disk.node? dest with
        | some n =>
          cases n with
          | file b => simp [hn, Run.fatal] at h
          | dir =>
            simp only [hn] at h ⊢
            split at h
            · simp [Run.fatal] at h
            · rename_i hocc
              rw [if_neg hocc]
              cases hmade : m.makeGitDir dest with
              | none => simp [hmade, Run.fatal] at h
              | some made =>
                refine ⟨dest, _, rfl, (lookup_setRepo made dest _ dest).trans (if_pos rfl), fun hr => ?_, ?_⟩
                · rw [← cloneSource_stored hsrc hr]
                · have hgit := makeGitDir_git hmade
                  dsimp only
                  rw [writeTree_eq]
                  exact dir_layOut hgit
        | none =>
          simp only [hn, Bool.false_eq_true, if_false] at h ⊢
          cases hmade : m.makeGitDir dest with
          | none => simp [hmade, Run.fatal] at h
          | some made =>
            refine ⟨dest, _, rfl, (lookup_setRepo made dest _ dest).trans (if_pos rfl), fun hr => ?_, ?_⟩
            · rw [← cloneSource_stored hsrc hr]
            · have hgit := makeGitDir_git hmade
              dsimp only
              rw [writeTree_eq]
              exact dir_layOut hgit

/-- Writing a tree that keeps out of `.git` keeps the `.git` of the directory it writes into. -/
theorem writeTree_keepsGit {m : Machine} {dir : List String} {tree : Tree} (hwork : tree.InWorkTree) :
    m.disk.KeepsGit dir (m.writeTree dir tree).disk := by
  rw [writeTree_eq]
  refine ⟨root_layOut, fun q hq => only_layOut fun e he hqe => ?_, fun q _ hq => dir_layOut hq⟩
  obtain ⟨f, hf, rfl⟩ := List.mem_map.mp he
  obtain ⟨x, hx, hgit⟩ := hwork f hf
  -- `q` runs through `.git`, the file's path through `x`
  have hpre := List.prefix_of_prefix_length_le (hq.trans hqe) (within_of_head hx) (by simp)
  exact hgit (List.cons_prefix_cons.mp ((List.prefix_append_right_inj dir).mp hpre)).1.symm

/-- Changes within a directory keep every repository whose `.git` lies apart from it. -/
theorem Within.repoAt?_eq {t dir : List String} {m m' : Machine} (h : m.Within t m')
    (hapart : ¬ t <+: dir ++ [".git"] ∧ ¬ dir ++ [".git"] <+: t) : m'.repoAt? dir = m.repoAt? dir := by
  have hout : ∀ q, dir ++ [".git"] <+: q → ¬ t <+: q := fun q hq htq =>
    (List.prefix_or_prefix_of_prefix htq hq).elim hapart.1 hapart.2
  refine repoAt?_congr (fun q hq => ?_) (h.2 dir fun htd => hout _ List.prefix_rfl
    (htd.trans (List.prefix_append _ _)))
  rcases h.1.node?_eq q (hout q hq) with hn | ⟨hqt, -, -⟩
  · exact hn
  · exact absurd (hq.trans hqt) hapart.2

/-- A fetch records repositories only: the disk stays as it was. -/
theorem fetch_disk (m : Machine) (cwd : List String) : (m.fetch cwd).2.disk = m.disk := by
  unfold fetch
  repeat' split
  all_goals rfl

/-- Checkout keeps the repository of the work tree it runs in, and its origin. -/
theorem detachAt_repoAt? {m : Machine} {dir : List String} {r : Repo} {id target before : String}
    {force : Bool} (hr : m.repoAt? dir = some r) (htrees : m.TreesInWorkTree) :
    ∃ r', (m.detachAt dir r id target before force).2.repoAt? dir = some r' ∧ r'.origin = r.origin := by
  have hwork := Repo.treeOf_inWorkTree (htrees.repoAt? hr)
  have hkeep : m.disk.KeepsGit dir (m.detachAt dir r id target before force).2.disk :=
    detachAt_keepsGit (hwork _) (hwork _)
  unfold detachAt at hkeep ⊢
  dsimp only at hkeep ⊢
  split
  · exact ⟨r, hr, rfl⟩
  · rename_i hc
    rw [if_neg hc] at hkeep
    exact ⟨_, repoAt?_setRepo hr hkeep.git, by split <;> simp⟩

theorem checkoutWord_repoAt? {m : Machine} {cwd : List String} {r : Repo} (hr : m.repoAt? cwd = some r)
    (htrees : m.TreesInWorkTree) (arg : String) :
    ∃ r', (m.checkoutWord cwd r arg).2.repoAt? cwd = some r' ∧ r'.origin = r.origin := by
  unfold checkoutWord
  dsimp only
  split
  · exact ⟨r, hr, rfl⟩
  · exact detachAt_repoAt? hr htrees
  all_goals exact ⟨r, hr, rfl⟩

theorem checkout_repoAt? {m : Machine} {cwd : List String} {r : Repo} (hr : m.repoAt? cwd = some r)
    (htrees : m.TreesInWorkTree) (args : List String) :
    ∃ r', (m.checkout cwd args).2.repoAt? cwd = some r' ∧ r'.origin = r.origin := by
  unfold checkout
  rw [hr]
  dsimp only
  split
  · exact ⟨r, hr, rfl⟩
  · split
    · exact ⟨r, hr, rfl⟩
    · exact checkoutWord_repoAt? hr htrees _
    · split
      · exact ⟨r, hr, rfl⟩
      · split
        · exact detachAt_repoAt? hr htrees
        · exact ⟨r, hr, rfl⟩

/-- Two machines agree on a directory: the disk has the same name, every path on the way down to
the directory or below it holds the same, and the same repository is recorded for it. -/
structure SameAt (dir : List String) (m m' : Machine) : Prop where
  root_eq : m'.disk.root = m.disk.root
  node?_eq : ∀ q, q <+: dir ∨ dir <+: q → m'.disk.node? q = m.disk.node? q
  lookup_eq : m'.repos.lookup dir = m.repos.lookup dir

namespace SameAt

variable {dir : List String} {m m' : Machine}

theorem refl (dir : List String) (m : Machine) : m.SameAt dir m := ⟨rfl, fun _ _ => rfl, rfl⟩

theorem repoAt?_eq (h : m.SameAt dir m') : m'.repoAt? dir = m.repoAt? dir :=
  repoAt?_congr (fun q hq => h.node?_eq q (.inr ((List.prefix_append _ _).trans hq))) h.lookup_eq

theorem revParse_eq (h : m.SameAt dir m') (rev : String) (quiet : Bool) :
    m'.revParse dir rev quiet = m.revParse dir rev quiet := by
  simp only [revParse, h.repoAt?_eq, dirText, h.root_eq]

/-- Where two machines agree on a clone, its `HEAD` is what it was, under every name `rev-parse`
reads as the commit's. -/
theorem headIs {s s' : String} (h : m.SameAt dir m') (hh : m.HeadIs dir s)
    (hrev : m.revParse dir (s' ++ "^\x7bcommit\x7d") true = m.revParse dir (s ++ "^\x7bcommit\x7d") true) :
    m'.HeadIs dir s' :=
  ⟨by rw [h.revParse_eq]; exact hh.head_code, by rw [h.revParse_eq, hrev]; exact hh.rev_code,
    by rw [h.revParse_eq, h.revParse_eq, hrev]; exact hh.same⟩

end SameAt

/-- A fresh clone of a repository in a directory: the repository recorded there has the origin's
commits, `HEAD` and address, and the work tree holds the files of `HEAD`'s tree and nothing off the
way to them. -/
structure FreshClone (m : Machine) (dir : List String) (o : Repo) (url : String) : Prop where
  repo : ∃ r, m.repoAt? dir = some r ∧ r.origin = some url ∧ r.commits = o.commits ∧ r.headId? = o.headId?
  dir_isDir : m.disk.isDir dir = true
  files : ∀ f ∈ o.treeOf o.headId?, m.disk.node? (dir ++ Disk.Path.steps f.1) = some (.file f.2)
  only : ∀ s, (∃ x ∈ s.head?, x ≠ ".git") → (∀ f ∈ o.treeOf o.headId?, ¬ s <+: Disk.Path.steps f.1) →
    m.disk.node? (dir ++ s) = none

/-- A clone into a fresh directory, of a work tree whose `HEAD` tree keeps its paths apart and out
of `.git`, is a fresh clone, and changes nothing outside the directory but directories made on the
way down to it. -/
theorem clone_freshClone {m : Machine} {cwd dest src : List String} {url destText : String} {o : Repo}
    (hsource : m.cloneSource cwd url = .ok (src, url)) (ho : m.repoAt? src = some o)
    (hdest : locateFrom m.disk cwd destText = some dest) (hno : NoFileOn m.disk dest)
    (hfresh : ∀ q, dest <+: q → m.disk.node? q = none)
    (hapart : (o.treeOf o.headId?).Apart) (hwork : (o.treeOf o.headId?).InWorkTree) :
    ∃ m₂, m.clone cwd url destText = (Run.ok "", m₂) ∧ m₂.FreshClone dest o url ∧ m.Within dest m₂ := by
  obtain ⟨made, r, hmade, hclone, horigin, hcommits, hhead⟩ := clone_fresh hsource ho hdest hno hfresh
  obtain ⟨made', hmade', -, hgitdir, hdir, hno', hwithin, hfresh'⟩ := makeGitDir_fresh hno hfresh
  obtain rfl : made = made' := Option.some.inj (hmade.symm.trans hmade')
  have hkeep := @writeTree_keepsGit (made.setRepo dest r) dest _ hwork
  refine ⟨_, hclone, ⟨⟨r, ?_, horigin, hcommits, hhead⟩, ?_, ?_, fun s hs hoff => ?_⟩, ?_⟩
  · unfold repoAt?
    rw [isGitDir_congr hkeep.git]
    have hset : (made.setRepo dest r).isGitDir (dest ++ [".git"]) = true := hgitdir
    rw [hset, if_pos rfl]
    exact (lookup_setRepo made dest r dest).trans (if_pos rfl)
  · rw [writeTree_eq, Disk.isDir_iff]
    exact dir_layOut (Disk.isDir_iff.mp hdir)
  · exact writeTree_files (m := made.setRepo dest r) hapart hwork hno' hfresh'
  · rw [writeTree_eq, only_layOut fun e he hse => ?_]
    · exact hfresh' s hs
    · obtain ⟨f, hf, rfl⟩ := List.mem_map.mp he
      exact hoff f hf ((List.prefix_append_right_inj dest).mp hse)
  · exact hwithin.trans ((within_setRepo List.prefix_rfl made r).trans (writeTree_within List.prefix_rfl _ _))

/-- A fetch in a fresh clone, from its absolute address that still leads to the origin, succeeds
and leaves a fresh clone: the origin has no commit the clone lacks. -/
theorem fetch_freshClone {m : Machine} {dest src : List String} {url : String} {o : Repo}
    (h : m.FreshClone dest o url) (hu : Disk.Path.isAbsolute url = true)
    (hsrc : locateFrom m.disk [] url = some src) (ho : m.repoAt? src = some o) :
    (m.fetch dest).1.code = 0 ∧ (m.fetch dest).2.FreshClone dest o url := by
  obtain ⟨r, hr, horigin, hcommits, hhead⟩ := h.repo
  have hgit : locateFrom m.disk dest (url ++ "/.git") = some (src ++ [".git"]) := by
    have := locateFrom_append_slash isCacheName_git hu hsrc dest
    rwa [String.append_assoc] at this
  have hreach : m.reach dest url = .ok src := reach_of_repo hu hgit (by rw [ho]; rfl)
  have ho' : (m.reach dest url).toOption.bind m.repoAt? = some o := by
    rw [hreach]
    exact ho
  have hcode := fetch_code_of_reach hr horigin ho'
  obtain ⟨r₁, o₁, r', hr₁, ⟨url', hu', ho₁⟩, hfetch, horigin', hhead', hcommits'⟩ := fetch_of_code hcode
  obtain rfl : r₁ = r := Option.some.inj (hr₁.symm.trans hr)
  obtain rfl : url' = url := Option.some.inj (hu'.symm.trans horigin)
  obtain rfl : o₁ = o := Option.some.inj (ho₁.symm.trans ho')
  have hdisk := fetch_disk m dest
  refine ⟨hcode, ⟨⟨r', ?_, horigin'.trans horigin, ?_, hhead'.trans hhead⟩, ?_, ?_, ?_⟩⟩
  · rw [hfetch]
    exact @repoAt?_setRepo _ _ _ _ m.disk hr fun _ _ => rfl
  · rw [hcommits', Repo.addCommits_of_mem fun cm hcm => hcommits ▸ hcm, hcommits]
  · rw [hdisk]
    exact h.dir_isDir
  · rw [hdisk]
    exact h.files
  · rw [hdisk]
    exact h.only

/-- Checking out, in a fresh clone, a commit named in full that the origin has succeeds, where no
file of the commit's tree stands where `HEAD`'s tree has a directory. -/
theorem checkout_freshClone {m : Machine} {dest : List String} {url s : String} {o : Repo}
    (h : m.FreshClone dest o url) (hs : FullId s) (hc : (o.commit? s).isSome)
    (hwork : (o.treeOf (some s)).InWorkTree)
    (hover : ∀ f ∈ o.treeOf (some s), ∀ g ∈ o.treeOf o.headId?,
      Disk.Path.steps f.1 <+: Disk.Path.steps g.1 → f.1 = g.1) :
    (m.checkout dest ["--quiet", "--detach", s]).1.code = 0 := by
  obtain ⟨r, hr, -, hcommits, hhead⟩ := h.repo
  have hc' : (r.commit? s).isSome := by
    rw [Repo.commit?, hcommits]
    exact hc
  have hold : r.treeOf r.headId? = o.treeOf o.headId? := Repo.treeOf_headId?_congr hcommits hhead
  have hnew : r.treeOf (some s) = o.treeOf (some s) := by simp [Repo.treeOf, Repo.commit?, hcommits]
  rw [checkout_fullId hr hs, if_pos hc']
  refine detachAt_code_of_clean (fun p bytes hp => ?_) (fun p hp hq => ?_)
  · rw [hold] at hp
    obtain ⟨l₁, l₂, hl, -⟩ := List.lookup_eq_some_iff.mp hp
    exact h.files (p, bytes) (by rw [hl]; simp)
  · rw [hold] at hp
    rw [hnew] at hq
    obtain ⟨g, hg, hpg⟩ := List.lookup_isSome_iff.mp hq
    obtain rfl : p = g.1 := beq_iff_eq.mp hpg
    refine h.only _ (hwork g hg) fun f hf hpre => ?_
    have hsame := hover g hg f hf hpre
    have hne := (List.lookup_eq_none_iff.mp hp) f hf
    rw [hsame] at hne
    simp at hne

end Machine

end AdvisoryTrace.Git
