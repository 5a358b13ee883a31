import Mathlib
import AdvisoryTrace.Repository.Cache

/-!
# Reusing a repository's clone

The cache keeps one clone per directory, named after the last two segments of a URL's path, so
URLs that end alike share a directory: `/srv/a/o/r` and `/srv/b/o/r` both land in `o__r`.
Whichever of them is asked for, the cache works on the clone it finds there.

* `Machine.run_sameOrigins`: every git command but `clone` leaves the origin of every repository
  as it was;
* `RepoCache.ensure_path`: the directory the cache gives back is its root joined with the URL's
  name;
* `RepoCache.ensure_sameOrigins`: when that directory already holds a `.git`, nothing is cloned
  and every repository keeps its origin, whatever URL was asked for;
* `RepoCache.ensure_of_atCommit`: when the clone's `HEAD` already is the commit asked for, the
  cache gives the directory and leaves the machine as it was: only `rev-parse` ran.
-/

namespace AdvisoryTrace.Disk

/-- A disk grows into another when the other lists its nodes and more after them. -/
def Grows (d d' : Disk) : Prop := ∃ extra, d'.nodes = d.nodes ++ extra

theorem Grows.refl (d : Disk) : d.Grows d := ⟨[], (List.append_nil _).symm⟩

theorem Grows.trans {d₁ d₂ d₃ : Disk} (h₁ : d₁.Grows d₂) (h₂ : d₂.Grows d₃) : d₁.Grows d₃ := by
  obtain ⟨e₁, h₁⟩ := h₁
  obtain ⟨e₂, h₂⟩ := h₂
  exact ⟨e₁ ++ e₂, by rw [h₂, h₁, List.append_assoc]⟩

/-- What a path holds stays as the disk grows. -/
theorem Grows.node? {d d' : Disk} (h : d.Grows d') {path : List String} {n : Node}
    (hn : d.node? path = some n) : d'.node? path = some n := by
  obtain ⟨extra, he⟩ := h
  unfold Disk.node? at hn ⊢
  split
  · rwa [if_pos ‹_›] at hn
  · rw [if_neg ‹_›] at hn
    obtain ⟨e, hfind, rfl⟩ := Option.map_eq_some_iff.mp hn
    rw [he, List.find?_append, hfind]
    rfl

/-- A fold of steps that each grow the disk grows it. -/
theorem grows_foldlM {f : Disk → Nat → Option Disk} (hf : ∀ d k d', f d k = some d' → d.Grows d') :
    ∀ (ks : List Nat) (d d' : Disk), ks.foldlM f d = some d' → d.Grows d'
  | [], d, d', h => by
    cases h
    exact .refl d
  | k :: ks, d, d', h => by
    rw [List.foldlM_cons] at h
    obtain ⟨d₁, h₁, h₂⟩ := Option.bind_eq_some_iff.mp h
    exact (hf d k d₁ h₁).trans (grows_foldlM hf ks d₁ d' h₂)

theorem grows_makeDirs {d d' : Disk} {path : List String} (h : d.makeDirs path = some d') :
    d.Grows d' := by
  unfold makeDirs at h
  refine grows_foldlM (fun d k d' hk => ?_) _ _ _ h
  dsimp only at hk
  split at hk
  · cases hk
    exact .refl d
  · cases hk
  · cases hk
    exact ⟨_, rfl⟩

theorem grows_createDirAll {d d' : Disk} {path : List String} (h : d.createDirAll path = .ok d') :
    d.Grows d' := by
  unfold createDirAll at h
  split at h
  · cases h
    exact .refl d
  · cases h
  · split at h
    · cases h
      exact grows_makeDirs ‹_›
    · cases h

theorem createDirAll_of_isDir {d : Disk} {path : List String} (h : d.isDir path) :
    d.createDirAll path = .ok d := by
  unfold isDir at h
  unfold createDirAll
  split
  · rfl
  all_goals rename_i hn; rw [hn] at h; cases h

end AdvisoryTrace.Disk

namespace AdvisoryTrace.Git

namespace Repo

@[simp]
theorem origin_setRef (r : Repo) (name id : String) : (r.setRef name id).origin = r.origin := by
  unfold setRef
  split <;> rfl

@[simp]
theorem origin_addLog (r : Repo) (name : String) (e : LogEntry) : (r.addLog name e).origin = r.origin := by
  unfold addLog
  split <;> rfl

@[simp]
theorem origin_addCommits (r : Repo) (cs : List Commit) : (r.addCommits cs).origin = r.origin :=
  rfl

/-- A fold of updates that each keep the origin keeps it. -/
theorem origin_foldl {β : Type} (f : Repo → β → Repo) (hf : ∀ r b, (f r b).origin = r.origin) :
    ∀ (bs : List β) (r : Repo), (bs.foldl f r).origin = r.origin
  | [], _ => rfl
  | b :: bs, r => by rw [List.foldl_cons, origin_foldl f hf bs, hf]

end Repo

theorem lookup_filter_ne {β : Type} (l : List (List String × β)) {dir d : List String}
    (h : d ≠ dir) : (l.filter (·.1 != dir)).lookup d = l.lookup d := by
  induction l with
  | nil => rfl
  | cons e l ih =>
    obtain ⟨k, v⟩ := e
    by_cases hk : k = dir
    · subst hk
      have hne : (d == k) = false := beq_false_of_ne h
      simp [List.lookup, hne, ih]
    · by_cases hd : d = k
      · subst hd
        simp [List.lookup, hk]
      · simp [List.lookup, hk, beq_false_of_ne hd, ih]

namespace Machine

theorem lookup_setRepo (m : Machine) (dir : List String) (r : Repo) (d : List String) :
    (m.setRepo dir r).repos.lookup d = if d = dir then some r else m.repos.lookup d := by
  by_cases h : d = dir
  · subst h
    simp [setRepo]
  · simp [setRepo, List.lookup, beq_false_of_ne h, lookup_filter_ne _ h, h]

theorem lookup_of_repoAt? {m : Machine} {dir : List String} {r : Repo} (h : m.repoAt? dir = some r) :
    m.repos.lookup dir = some r := by
  unfold repoAt? at h
  split at h
  · exact h
  · cases h

/-- Two machines record the same origin for every repository. -/
def SameOrigins (m m' : Machine) : Prop :=
  ∀ dir, (m'.repos.lookup dir).map Repo.origin = (m.repos.lookup dir).map Repo.origin

theorem SameOrigins.refl (m : Machine) : m.SameOrigins m := fun _ => rfl

theorem SameOrigins.trans {m₁ m₂ m₃ : Machine} (h₁ : m₁.SameOrigins m₂) (h₂ : m₂.SameOrigins m₃) :
    m₁.SameOrigins m₃ := fun dir => (h₂ dir).trans (h₁ dir)

/-- Recording a repository again, on any disk, with the origin it had. -/
theorem sameOrigins_setRepo {m : Machine} {dir : List String} {r r' : Repo}
    (h : m.repos.lookup dir = some r) (ho : r'.origin = r.origin) (disk : Disk) :
    m.SameOrigins (({ m with disk } : Machine).setRepo dir r') := by
  intro d
  rw [lookup_setRepo]
  by_cases hd : d = dir
  · subst hd
    simp [h, ho]
  · simp [hd]

theorem fetch_sameOrigins (m : Machine) (cwd : List String) : m.SameOrigins (m.fetch cwd).2 := by
  unfold fetch
  split
  · exact .refl m
  · rename_i r hr
    split
    · exact .refl m
    · split
      · refine sameOrigins_setRepo (lookup_of_repoAt? hr) ?_ m.disk
        simp only
        refine Repo.origin_foldl _ (fun r e => ?_) _ _
        obtain ⟨name, id⟩ := e
        simp only
        split
        · split
          · split <;> simp
          · simp
        · split <;> simp
      · exact .refl m
      · exact .refl m

theorem detachAt_sameOrigins {m : Machine} {dir : List String} {r : Repo} (h : m.repos.lookup dir = some r)
    (id target before : String) (force : Bool) :
    m.SameOrigins (m.detachAt dir r id target before force).2 := by
  unfold detachAt
  dsimp only
  split_ifs
  · exact .refl m
  all_goals exact sameOrigins_setRepo h (by simp) _

theorem checkoutWord_sameOrigins {m : Machine} {cwd : List String} {r : Repo}
    (h : m.repos.lookup cwd = some r) (arg : String) : m.SameOrigins (m.checkoutWord cwd r arg).2 := by
  unfold checkoutWord
  dsimp only
  split
  · exact .refl m
  · exact detachAt_sameOrigins h _ _ _ _
  all_goals exact .refl m

theorem checkout_sameOrigins (m : Machine) (cwd : List String) (args : List String) :
    m.SameOrigins (m.checkout cwd args).2 := by
  unfold checkout
  split
  · exact .refl m
  · rename_i r hr
    -- each end of checkout leaves the machine, or detaches `HEAD` of the repository in `cwd`
    dsimp only
    repeat' split
    all_goals first
      | exact .refl m
      | exact checkoutWord_sameOrigins (lookup_of_repoAt? hr) _
      | exact detachAt_sameOrigins (lookup_of_repoAt? hr) _ _ _ _

/-- Every git command but `clone` leaves the origin of every repository as it was. -/
theorem run_sameOrigins (m : Machine) (cwd : List String) {args : List String}
    (h : args.head? ≠ some "clone") : m.SameOrigins (m.run cwd args).2 := by
  unfold run
  split
  · exact absurd rfl h
  · exact fetch_sameOrigins m cwd
  · exact checkout_sameOrigins m cwd _
  all_goals exact .refl m

theorem run_revParse_verify (m : Machine) (cwd : List String) (rev : String) :
    m.run cwd ["rev-parse", "--verify", "--quiet", rev] = (m.revParse cwd rev true, m) :=
  rfl

theorem run_revParse (m : Machine) (cwd : List String) (rev : String) :
    m.run cwd ["rev-parse", rev] = (m.revParse cwd rev false, m) := by
  -- not by `rfl`: the word after `rev-parse` is read against `--verify` first
  simp [run]

instance : Std.Refl SameOrigins := ⟨SameOrigins.refl⟩

instance : IsTrans Machine SameOrigins := ⟨fun _ _ _ => SameOrigins.trans⟩

end Machine

theorem run_bind_of {σ α β : Type} {x : StateM σ α} {f : α → StateM σ β} {s s' : σ} {a : α}
    (h : x.run s = (a, s')) : (x >>= f).run s = (f a).run s' := by
  rw [StateT.run_bind, h]
  rfl

/-- Every run of a computation on machines relates the machine it starts from to the one it
leaves. -/
def Keeps (R : Machine → Machine → Prop) {α : Type} (x : StateM Machine α) : Prop :=
  ∀ m, R m (x.run m).2

section Keeps

variable {R : Machine → Machine → Prop} {α β : Type}

theorem Keeps.pure [Std.Refl R] (a : α) : Keeps R (Pure.pure a) := fun m => refl_of R m

theorem Keeps.bind [IsTrans Machine R] {x : StateM Machine α} {f : α → StateM Machine β} (hx : Keeps R x)
    (hf : ∀ a, Keeps R (f a)) : Keeps R (x >>= f) :=
  fun m => trans_of R (hx m) (hf _ _)

end Keeps

end AdvisoryTrace.Git

namespace AdvisoryTrace.Repository.RepoCache

open Git

variable (c : RepoCache)

/-- A run of git through the cache leaves the machine as it was, or as git leaves it. -/
theorem git_state (cwd : List String) (args : List String) (m : Machine) :
    ((c.git cwd args).run m).2 = m ∨ ((c.git cwd args).run m).2 = (m.run cwd args).2 := by
  unfold RepoCache.git
  simp only [StateT.run, bind, StateT.bind, get, getThe, MonadStateOf.get, StateT.get, pure, set]
  split
  · exact .inl rfl
  · split
    · exact .inl rfl
    -- past the checks, the machine the run leaves is set, whether the run failed or not: git's
    -- own, or the same machine for a program that does nothing
    · cases programOf c.program
      all_goals
        dsimp only
        split
      · exact .inr rfl
      · exact .inr rfl
      all_goals exact .inl rfl

/-- A run of git that succeeds gives its trimmed output and the machine git leaves. -/
theorem git_of_code {cwd : List String} {args : List String} {m : Machine}
    (hgit : programOf c.program = .git) (hdir : m.disk.isDir cwd) (htime : c.timeoutSecs ≠ 0)
    (hcode : (m.run cwd args).1.code = 0) :
    (c.git cwd args).run m = (.ok (Text.trim (m.run cwd args).1.out), (m.run cwd args).2) := by
  have htime' : (c.timeoutSecs == 0) = false := beq_false_of_ne htime
  unfold RepoCache.git
  simp only [StateT.run, bind, StateT.bind, get, getThe, MonadStateOf.get, StateT.get, pure, set,
    hgit, hdir, htime', hcode]
  rfl

section Keeps

variable {R : Machine → Machine → Prop} [Std.Refl R]

theorem keeps_git {cwd : List String} {args : List String} (h : ∀ m, R m (m.run cwd args).2) :
    Keeps R (c.git cwd args) := by
  intro m
  rcases c.git_state cwd args m with h' | h'
  · rw [h']
    exact refl_of R m
  · rw [h']
    exact h m

/-- Looking whether `HEAD` is at a commit only runs `rev-parse`, which changes nothing. -/
theorem keeps_atCommit [IsTrans Machine R] (repo : List String) (commit : String) :
    Keeps R (c.atCommit repo commit) := by
  unfold atCommit
  refine Keeps.bind (c.keeps_git fun m => ?_) fun r => ?_
  · rw [Machine.run_revParse_verify]
    exact refl_of R m
  · split
    · exact Keeps.pure _
    · refine Keeps.bind (c.keeps_git fun m => ?_) fun r => ?_
      · rw [Machine.run_revParse]
        exact refl_of R m
      · split <;> exact Keeps.pure _

end Keeps

/-- Every success a computation gives is `p`. -/
def SucceedsWith (p : String) (x : StateM Machine (Except Failure String)) : Prop :=
  ∀ m q, (x.run m).1 = .ok q → q = p

theorem succeedsWith_error (p : String) (f : Failure) : SucceedsWith p (pure (.error f)) := by
  intro m q h
  cases h

theorem succeedsWith_ok (p : String) : SucceedsWith p (pure (.ok p)) := by
  intro m q h
  cases h
  rfl

theorem SucceedsWith.bind {α : Type} {p : String} {x : StateM Machine α}
    {f : α → StateM Machine (Except Failure String)} (hf : ∀ a, SucceedsWith p (f a)) :
    SucceedsWith p (x >>= f) := by
  intro m q h
  rw [StateT.run_bind] at h
  exact hf _ _ _ h

/-- Whatever happens on the way, the only directory the cache gives is its root joined with the
URL's name. -/
theorem ensure_succeedsWith {u s name : String} (hname : cacheDirName u = .ok name) :
    SucceedsWith (Disk.Path.join c.root name) (c.ensure u s) := by
  unfold RepoCache.ensure
  rw [hname]
  dsimp only
  rw [pure_bind]
  -- every way through ends in a failure or in the directory: take the steps and split the
  -- branches until one of the two is reached
  repeat' first
    | with_reducible exact succeedsWith_error _ _
    | with_reducible exact succeedsWith_ok _
    | with_reducible refine SucceedsWith.bind fun _ => ?_
    | split

/-- A directory the cache gives back is its root joined with the URL's name. -/
theorem ensure_path {u s p : String} {m m' : Machine} (h : (c.ensure u s).run m = (.ok p, m')) :
    ∃ name, cacheDirName u = .ok name ∧ p = Disk.Path.join c.root name := by
  cases hname : cacheDirName u with
  | error f =>
    unfold RepoCache.ensure at h
    rw [hname] at h
    cases h
  | ok name => exact ⟨name, rfl, c.ensure_succeedsWith hname m p (by rw [h])⟩

/-- Where the URL's directory already holds a `.git`, the cache clones nothing: every repository
keeps the origin it had, whatever URL was asked for. -/
theorem ensure_sameOrigins {u s name : String} {root : List String} {m : Machine}
    (hname : cacheDirName u = .ok name) (hroot : locateFrom m.disk [] c.root = some root)
    (hgit : (m.disk.node? (root ++ [name, ".git"])).isSome) :
    m.SameOrigins ((c.ensure u s).run m).2 := by
  unfold RepoCache.ensure
  rw [hname]
  dsimp only
  rw [pure_bind, run_bind_of (show (get : StateM Machine Machine).run m = (m, m) from rfl)]
  simp only [hroot]
  split
  · exact .refl m
  · rename_i d hd
    -- making the root only adds directories, so the `.git` is still there
    have hclone : (d.node? (root ++ [name] ++ [".git"])).isNone = false := by
      obtain ⟨n, hn⟩ := Option.isSome_iff_exists.mp hgit
      rw [List.append_assoc, List.singleton_append, (Disk.grows_createDirAll hd).node? hn]
      rfl
    let m₁ : Machine := { disk := d, repos := m.repos }
    have hm₁ : m.SameOrigins m₁ := fun _ => rfl
    rw [run_bind_of (show (set m₁ : StateM Machine Unit).run m = ((), m₁) from rfl),
      run_bind_of (show (get : StateM Machine Machine).run m₁ = (m₁, m₁) from rfl)]
    simp only [m₁, hclone, Bool.false_eq_true, if_false]
    refine hm₁.trans (Keeps.bind (c.keeps_atCommit _ _) (fun b => ?_) m₁)
    split
    · exact Keeps.pure _
    · refine Keeps.bind (c.keeps_git fun m => m.run_sameOrigins _ (by simp)) fun r => ?_
      split
      · exact Keeps.pure _
      · refine Keeps.bind (c.keeps_git fun m => m.run_sameOrigins _ (by simp)) fun r => ?_
        split <;> exact Keeps.pure _

/-- Where the root is there and the URL's directory holds a clone already at the commit, the
cache gives the directory and leaves the machine as it was. -/
theorem ensure_of_atCommit {u s name : String} {root : List String} {m : Machine}
    (hname : cacheDirName u = .ok name) (hroot : locateFrom m.disk [] c.root = some root)
    (hdir : m.disk.isDir root) (hgit : (m.disk.node? (root ++ [name, ".git"])).isSome)
    (hat : (c.atCommit (root ++ [name]) s).run m = (true, m)) :
    (c.ensure u s).run m = (.ok (Disk.Path.join c.root name), m) := by
  have hclone : (m.disk.node? (root ++ [name] ++ [".git"])).isNone = false := by
    rw [List.append_assoc, List.singleton_append, ← Option.not_isSome, hgit]
    rfl
  unfold RepoCache.ensure
  rw [hname]
  dsimp only
  rw [pure_bind, run_bind_of (show (get : StateM Machine Machine).run m = (m, m) from rfl)]
  simp only [hroot, Disk.createDirAll_of_isDir hdir]
  -- the root is there already, so the machine after making it is the same
  rw [run_bind_of (show (set ({ disk := m.disk, repos := m.repos } : Machine) : StateM Machine Unit).run m =
      ((), m) from rfl),
    run_bind_of (show (get : StateM Machine Machine).run m = (m, m) from rfl)]
  simp only [hclone, Bool.false_eq_true, if_false]
  rw [run_bind_of hat]
  rfl

end AdvisoryTrace.Repository.RepoCache
