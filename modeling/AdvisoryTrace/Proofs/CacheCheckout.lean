import AdvisoryTrace.Proofs.GitCheckout

/-!
# Clones through the cache

What `RepoCache.ensure` leaves where it gives its directory, and when it gives it. After making
the root, a call that gives its directory went one of three ways (`RepoCache.Reached`): it found the
clone at the commit; or it fetched and checked out the commit in the clone it found; or, with no
clone there, it cleared the directory, cloned, fetched and checked out. `RepoCache.ensure_ok_reached`
and `RepoCache.ensure_of_reached` say so both ways. From them, for an absolute URL under an
absolute root:

* `RepoCache.ensure_checkedOut`: for a commit named in full, the clone is left at the commit
  (`Machine.CheckedOut`);
* `RepoCache.ensure_origin`: the clone is one of the URL, where any clone found there was;
* `RepoCache.ensure_reuses`: a later call for any name of that commit, on a machine that agrees on
  the directory, gives the directory again and changes nothing;
* `RepoCache.ensure_of_fresh`: with no clone there, a URL that leads to a repository with the
  commit gives the directory.
-/

namespace AdvisoryTrace.Git.Machine

/-- A clone in a directory of a root, with `HEAD` at a commit: the root and the directory are
directories, the clone's `.git` is there, and `rev-parse` reads `HEAD` as the commit. -/
structure CheckedOut (m : Machine) (root : List String) (name rev : String) : Prop where
  root_dir : m.disk.isDir root = true
  repo_dir : m.disk.isDir (root ++ [name]) = true
  git : (m.disk.node? (root ++ [name, ".git"])).isSome
  head : m.HeadIs (root ++ [name]) rev

/-- A clone at a commit stays at it, under every name `rev-parse` reads as that commit, on a
machine that agrees on its directory. -/
theorem CheckedOut.sameAt {m m' : Machine} {root : List String} {name s s' : String}
    (h : m.CheckedOut root name s) (hm : m.SameAt (root ++ [name]) m')
    (hrev : m.revParse (root ++ [name]) (s' ++ "^\x7bcommit\x7d") true =
      m.revParse (root ++ [name]) (s ++ "^\x7bcommit\x7d") true) :
    m'.CheckedOut root name s' where
  root_dir := by
    rw [Disk.isDir_iff, hm.node?_eq root (.inl (List.prefix_append _ _)), ← Disk.isDir_iff]
    exact h.root_dir
  repo_dir := by
    rw [Disk.isDir_iff, hm.node?_eq _ (.inl List.prefix_rfl), ← Disk.isDir_iff]
    exact h.repo_dir
  git := by
    rw [hm.node?_eq _ (.inr ⟨[".git"], by simp⟩)]
    exact h.git
  head := hm.headIs h.head hrev

/-- What stands in a directory about to be cloned into is cleared: an empty place is left as it
is, a directory is removed. Nothing is left at or below it, and the rest of the disk stays. -/
theorem cleared_of_left (m : Machine) {d : Disk} {p : List String} (hp : p ≠ [])
    (hleft : d.node? p = some .dir ∨ ∀ q, p <+: q → d.node? q = none) :
    ∃ m' : Machine, (m' = { m with disk := d } ∧ d.node? p = none ∨
        ∃ disk, d.removeDirAll p = .ok disk ∧ m' = { m with disk }) ∧
      (∀ q, p <+: q → m'.disk.node? q = none) ∧ (∀ q, ¬ p <+: q → m'.disk.node? q = d.node? q) ∧
      m'.disk.root = d.root ∧ m'.repos = m.repos := by
  rcases hleft with hdir | hempty
  · have hrem : d.removeDirAll p = .ok (d.removeTree p) := by
      unfold Disk.removeDirAll
      rw [hdir]
    obtain ⟨hroot, hbelow, hother⟩ := Disk.removeDirAll_eq_ok hp hrem
    exact ⟨{ m with disk := d.removeTree p }, .inr ⟨_, hrem, rfl⟩, hbelow, hother, hroot, rfl⟩
  · exact ⟨{ m with disk := d }, .inl ⟨rfl, hempty p List.prefix_rfl⟩, hempty, fun _ _ => rfl, rfl,
      rfl⟩

end AdvisoryTrace.Git.Machine

namespace AdvisoryTrace.Repository.RepoCache

open Git Disk

variable (c : RepoCache)

/-- A run of git through the cache that gave an output ran git in a directory that is there,
within its time, and git succeeded: the output is git's, trimmed, and the machine is git's. -/
theorem git_eq_ok {cwd : List String} {args : List String} {m m' : Machine} {out : String}
    (hgit : programOf c.program = .git) (h : (c.git cwd args).run m = (.ok out, m')) :
    m.disk.isDir cwd = true ∧ c.timeoutSecs ≠ 0 ∧ (m.run cwd args).1.code = 0 ∧
      out = Text.trim (m.run cwd args).1.out ∧ m' = (m.run cwd args).2 := by
  unfold RepoCache.git at h
  simp only [StateT.run, bind, StateT.bind, get, getThe, MonadStateOf.get, StateT.get, pure, set,
    hgit] at h
  split at h
  · cases h
  · rename_i hdir
    split at h
    · cases h
    · rename_i htime
      simp only [StateT.bind, StateT.set] at h
      split at h
      · cases h
      · rename_i hcode
        cases h
        exact ⟨(by simpa using hdir : _ ∧ _).2, by simpa using htime, by simpa using hcode, rfl, rfl⟩

/-- A step that gave an output, followed by what stops at a failure of it, that gave an output. -/
theorem run_bind_ok {x : StateM Machine (Except Failure String)}
    {k : Except Failure String → StateM Machine (Except Failure String)} {m m' : Machine} {p : String}
    (h : (x >>= k).run m = (.ok p, m')) (hk : ∀ e, k (.error e) = pure (.error e)) :
    ∃ o m₂, x.run m = (.ok o, m₂) ∧ (k (.ok o)).run m₂ = (.ok p, m') := by
  cases hx : x.run m with
  | mk r m₂ =>
    rw [run_bind_of hx] at h
    cases r with
    | error e =>
      rw [hk] at h
      cases h
    | ok o => exact ⟨o, m₂, rfl, h⟩

/-- How a call of `ensure` that gave its directory went after making the root: it found the clone
at the commit; or it fetched and checked out the commit in the clone it found; or, with no clone
there, it cleared the directory, cloned, fetched and checked out. -/
inductive Reached (u s : String) (root : List String) (name : String) (m₁ : Machine) : Machine → Prop
  | atCommit (hgit : (m₁.disk.node? (root ++ [name, ".git"])).isSome)
      (hat : (c.atCommit (root ++ [name]) s).run m₁ = (true, m₁)) :
      Reached u s root name m₁ m₁
  | fetched {m₃ m' : Machine} {o₁ o₂ : String} (hgit : (m₁.disk.node? (root ++ [name, ".git"])).isSome)
      (hat : (c.atCommit (root ++ [name]) s).run m₁ = (false, m₁))
      (hfetch : (c.git (root ++ [name]) ["fetch", "--quiet", "--all", "--tags"]).run m₁ = (.ok o₁, m₃))
      (hcheckout : (c.git (root ++ [name]) ["checkout", "--quiet", "--detach", s]).run m₃ = (.ok o₂, m')) :
      Reached u s root name m₁ m'
  | cloned {m₁' m₂ m₃ m' : Machine} {o₀ o₁ o₂ : String}
      (hnone : m₁.disk.node? (root ++ [name, ".git"]) = none)
      (hclear : m₁' = m₁ ∧ m₁.disk.node? (root ++ [name]) = none ∨
        ∃ disk, m₁.disk.removeDirAll (root ++ [name]) = .ok disk ∧ m₁' = { m₁ with disk })
      (hclone : (c.git root ["clone", "--quiet", u, Disk.Path.join c.root name]).run m₁' = (.ok o₀, m₂))
      (hfetch : (c.git (root ++ [name]) ["fetch", "--quiet", "--all", "--tags"]).run m₂ = (.ok o₁, m₃))
      (hcheckout : (c.git (root ++ [name]) ["checkout", "--quiet", "--detach", s]).run m₃ = (.ok o₂, m')) :
      Reached u s root name m₁ m'

/-- A call of `ensure` that gave a directory made the root, gave the root joined with the URL's
name, and went one of the three ways. -/
theorem ensure_ok_reached {u s name p : String} {root : List String} {m m' : Machine}
    (hname : cacheDirName u = .ok name) (hroot : locateFrom m.disk [] c.root = some root)
    (h : (c.ensure u s).run m = (.ok p, m')) :
    ∃ d₁, m.disk.createDirAll root = .ok d₁ ∧ p = Disk.Path.join c.root name ∧
      c.Reached u s root name { m with disk := d₁ } m' := by
  unfold RepoCache.ensure at h
  rw [hname] at h
  dsimp only at h
  rw [pure_bind, run_bind_of (show (get : StateM Machine Machine).run m = (m, m) from rfl)] at h
  simp only [hroot] at h
  split at h
  · cases h
  · rename_i d₁ hd₁
    let m₁ : Machine := { disk := d₁, repos := m.repos }
    rw [run_bind_of (show (set m₁ : StateM Machine Unit).run m = ((), m₁) from rfl),
      run_bind_of (show (get : StateM Machine Machine).run m₁ = (m₁, m₁) from rfl)] at h
    refine ⟨d₁, hd₁, ?_⟩
    have hgit : root ++ [name] ++ [".git"] = root ++ [name, ".git"] := by simp
    rw [hgit] at h
    split at h
    · rename_i hnone
      have hnone' : m₁.disk.node? (root ++ [name, ".git"]) = none := Option.isNone_iff_eq_none.mp hnone
      split at h
      · split at h
        · cases h
        · rename_i disk hdisk
          rw [run_bind_of (show (set ({ disk, repos := m₁.repos } : Machine) : StateM Machine Unit).run m₁ =
            ((), { disk, repos := m₁.repos }) from rfl)] at h
          obtain ⟨o₀, m₂, hclone, h⟩ := run_bind_ok h fun e => rfl
          obtain ⟨o₁, m₃, hfetch, h⟩ := run_bind_ok h fun e => rfl
          obtain ⟨o₂, m₄, hcheckout, h⟩ := run_bind_ok h fun e => rfl
          cases h
          exact ⟨rfl, .cloned hnone' (.inr ⟨disk, hdisk, rfl⟩) hclone hfetch hcheckout⟩
      · rename_i hempty
        obtain ⟨o₀, m₂, hclone, h⟩ := run_bind_ok h fun e => rfl
        obtain ⟨o₁, m₃, hfetch, h⟩ := run_bind_ok h fun e => rfl
        obtain ⟨o₂, m₄, hcheckout, h⟩ := run_bind_ok h fun e => rfl
        cases h
        exact ⟨rfl, .cloned hnone' (.inl ⟨rfl, by simpa using hempty⟩) hclone hfetch hcheckout⟩
    · rename_i hsome
      have hsome' : (m₁.disk.node? (root ++ [name, ".git"])).isSome := by
        rw [Option.isSome_iff_ne_none]
        simpa using hsome
      have hkeep : ((c.atCommit (root ++ [name]) s).run m₁).2 = m₁ :=
        (c.keeps_atCommit (R := Eq) (root ++ [name]) s m₁).symm
      cases hat : (c.atCommit (root ++ [name]) s).run m₁ with
      | mk b m₁' =>
        rw [hat] at hkeep
        dsimp only at hkeep
        subst hkeep
        rw [run_bind_of hat] at h
        cases b with
        | true =>
          obtain ⟨hp, rfl⟩ := Prod.mk.inj h
          cases hp
          exact ⟨rfl, .atCommit hsome' hat⟩
        | false =>
          obtain ⟨o₁, m₃, hfetch, h⟩ := run_bind_ok h fun e => rfl
          obtain ⟨o₂, m₄, hcheckout, h⟩ := run_bind_ok h fun e => rfl
          cases h
          exact ⟨rfl, .fetched hsome' hat hfetch hcheckout⟩

/-- Every way `ensure` can go after making the root gives its directory. -/
theorem ensure_of_reached {u s name : String} {root : List String} {d₁ : Disk} {m m' : Machine}
    (hname : cacheDirName u = .ok name) (hroot : locateFrom m.disk [] c.root = some root)
    (hd₁ : m.disk.createDirAll root = .ok d₁) (h : c.Reached u s root name { m with disk := d₁ } m') :
    (c.ensure u s).run m = (.ok (Disk.Path.join c.root name), m') := by
  unfold RepoCache.ensure
  rw [hname]
  dsimp only
  rw [pure_bind, run_bind_of (show (get : StateM Machine Machine).run m = (m, m) from rfl)]
  simp only [hroot, hd₁]
  rw [run_bind_of (show (set ({ m with disk := d₁ } : Machine) : StateM Machine Unit).run m =
      ((), { m with disk := d₁ }) from rfl),
    run_bind_of (show (get : StateM Machine Machine).run { m with disk := d₁ } =
      ({ m with disk := d₁ }, { m with disk := d₁ }) from rfl)]
  have hgitpath : root ++ [name] ++ [".git"] = root ++ [name, ".git"] := by simp
  rw [hgitpath]
  cases h with
  | atCommit hclone hat =>
    have hc : (d₁.node? (root ++ [name, ".git"])).isNone = false := by
      rw [← Option.not_isSome]
      simpa using hclone
    simp only [hc, Bool.false_eq_true, if_false]
    exact (run_bind_of hat).trans rfl
  | fetched hclone hat hfetch hcheckout =>
    have hc : (d₁.node? (root ++ [name, ".git"])).isNone = false := by
      rw [← Option.not_isSome]
      simpa using hclone
    simp only [hc, Bool.false_eq_true, if_false]
    refine (run_bind_of hat).trans ?_
    refine (run_bind_of hfetch).trans ?_
    exact (run_bind_of hcheckout).trans rfl
  | cloned hnone hclear hclone hfetch hcheckout =>
    simp only [hnone, Option.isNone_none, if_true]
    rcases hclear with ⟨rfl, hempty⟩ | ⟨disk, hdisk, rfl⟩
    · simp only [hempty, Option.isSome_none, Bool.false_eq_true, if_false]
      refine (run_bind_of hclone).trans ?_
      refine (run_bind_of hfetch).trans ?_
      exact (run_bind_of hcheckout).trans rfl
    · have hsome : (d₁.node? (root ++ [name])).isSome = true := by
        unfold Disk.removeDirAll at hdisk
        split at hdisk
        · rename_i hdir
          rw [hdir]
          rfl
        · cases hdisk
        · cases hdisk
      simp only [hsome, if_true, hdisk]
      refine (run_bind_of (show (set ({ m with disk } : Machine) : StateM Machine Unit).run
        { m with disk := d₁ } = ((), { m with disk }) from rfl)).trans ?_
      refine (run_bind_of hclone).trans ?_
      refine (run_bind_of hfetch).trans ?_
      exact (run_bind_of hcheckout).trans rfl

/-- Looking whether `HEAD` is at a commit answers yes only where the clone's directory is there,
git runs within its time, and `HEAD` is the commit. -/
theorem headIs_of_atCommit {repo : List String} {s : String} {m m' : Machine}
    (hgit : programOf c.program = .git) (h : (c.atCommit repo s).run m = (true, m')) :
    m.disk.isDir repo = true ∧ m.HeadIs repo s ∧ c.timeoutSecs ≠ 0 := by
  unfold atCommit at h
  cases h₁ : (c.git repo ["rev-parse", "--verify", "--quiet", s ++ "^\x7bcommit\x7d"]).run m with
  | mk r₁ m₁ =>
    rw [run_bind_of h₁] at h
    cases r₁ with
    | error e => cases h
    | ok target =>
      obtain ⟨hdir, htime, hcode₁, hout₁, hm₁⟩ := c.git_eq_ok hgit h₁
      rw [Machine.run_revParse_verify] at hcode₁ hout₁ hm₁
      subst m₁
      dsimp only at h
      cases h₂ : (c.git repo ["rev-parse", "HEAD"]).run m with
      | mk r₂ m₂ =>
        rw [run_bind_of h₂] at h
        cases r₂ with
        | error e => cases h
        | ok head =>
          obtain ⟨-, -, hcode₂, hout₂, -⟩ := c.git_eq_ok hgit h₂
          rw [Machine.run_revParse] at hcode₂ hout₂
          have hsame : head = target := by
            have : (head == target) = true := congrArg Prod.fst h
            simpa using this
          exact ⟨hdir, ⟨hcode₂, hcode₁, by rw [← hout₂, ← hout₁, hsame]⟩, htime⟩

/-- Where `HEAD` is the commit, looking answers yes and changes nothing. -/
theorem atCommit_of_headIs {repo : List String} {s : String} {m : Machine}
    (hgit : programOf c.program = .git) (htime : c.timeoutSecs ≠ 0) (hdir : m.disk.isDir repo)
    (hh : m.HeadIs repo s) : (c.atCommit repo s).run m = (true, m) := by
  have hpeeled : (c.git repo ["rev-parse", "--verify", "--quiet", s ++ "^\x7bcommit\x7d"]).run m =
      (.ok (Text.trim (m.revParse repo (s ++ "^\x7bcommit\x7d") true).out), m) := by
    rw [c.git_of_code hgit hdir htime (by rw [Machine.run_revParse_verify]; exact hh.rev_code),
      Machine.run_revParse_verify]
  have hhead : (c.git repo ["rev-parse", "HEAD"]).run m =
      (.ok (Text.trim (m.revParse repo "HEAD" false).out), m) := by
    rw [c.git_of_code hgit hdir htime (by rw [Machine.run_revParse]; exact hh.head_code),
      Machine.run_revParse]
  unfold atCommit
  rw [run_bind_of hpeeled]
  dsimp only
  rw [run_bind_of hhead, hh.same]
  simp only [beq_self_eq_true]
  rfl

theorem git_trees {cwd : List String} {args : List String} {m : Machine} (h : m.TreesInWorkTree) :
    ((c.git cwd args).run m).2.TreesInWorkTree := by
  rcases c.git_state cwd args m with h' | h' <;> rw [h']
  · exact h
  · exact Machine.run_trees h cwd args

theorem Reached.timeout {u s name : String} {root : List String} {m₁ m' : Machine}
    (hgit : programOf c.program = .git) (h : c.Reached u s root name m₁ m') : c.timeoutSecs ≠ 0 := by
  cases h with
  | atCommit _ hat => exact (c.headIs_of_atCommit hgit hat).2.2
  | fetched _ _ _ hcheckout => exact (c.git_eq_ok hgit hcheckout).2.1
  | cloned _ _ _ _ hcheckout => exact (c.git_eq_ok hgit hcheckout).2.1

/-- Where the cache has the root of a clone and its `.git`, a fetch and a checkout of a commit
named in full that succeed leave the clone at the commit. -/
theorem checkedOut_of_fetch_checkout {root : List String} {name s o₁ o₂ : String} {m₂ m₃ m' : Machine}
    (hgit : programOf c.program = .git) (hs : FullId s) (htrees : m₂.TreesInWorkTree)
    (hroot : m₂.disk.isDir root = true) (hclone : (m₂.disk.node? (root ++ [name, ".git"])).isSome)
    (hfetch : (c.git (root ++ [name]) ["fetch", "--quiet", "--all", "--tags"]).run m₂ = (.ok o₁, m₃))
    (hcheckout : (c.git (root ++ [name]) ["checkout", "--quiet", "--detach", s]).run m₃ = (.ok o₂, m')) :
    m'.CheckedOut root name s := by
  obtain ⟨-, -, -, -, hm₃⟩ := c.git_eq_ok hgit hfetch
  obtain ⟨hdir, -, hcode, -, hm'⟩ := c.git_eq_ok hgit hcheckout
  change m₃ = (m₂.fetch (root ++ [name])).2 at hm₃
  change m' = (m₃.checkout (root ++ [name]) ["--quiet", "--detach", s]).2 at hm'
  change (m₃.checkout (root ++ [name]) ["--quiet", "--detach", s]).1.code = 0 at hcode
  subst hm₃ hm'
  have hdisk : (m₂.fetch (root ++ [name])).2.disk = m₂.disk := Machine.fetch_disk m₂ _
  have htrees₃ : (m₂.fetch (root ++ [name])).2.TreesInWorkTree := Machine.fetch_trees htrees _
  obtain ⟨-, -, -, -, -, hkeep, hhead⟩ := Machine.checkout_fullId_of_code hs htrees₃ hcode
  refine ⟨?_, ?_, ?_, hhead⟩
  · rw [Disk.isDir_iff] at hroot ⊢
    exact hkeep.dirs root (List.prefix_append _ _) (by rw [hdisk]; exact hroot)
  · rw [Disk.isDir_iff] at hdir ⊢
    exact hkeep.dirs _ List.prefix_rfl hdir
  · have hgitpath : root ++ [name, ".git"] = root ++ [name] ++ [".git"] := by simp
    rw [hgitpath, hkeep.git _ List.prefix_rfl, hdisk, ← hgitpath]
    exact hclone

/-- A clone through the cache into the URL's directory, of an absolute URL under an absolute root,
after clearing the directory: it kept the root, made the `.git`, recorded the URL as the origin,
and kept the trees of every repository out of `.git`. -/
theorem clone_facts {u name o₀ : String} {root : List String} {m₁ m₁' m₂ : Machine}
    (hgit : programOf c.program = .git) (habs : Disk.Path.isAbsolute c.root = true)
    (hu : Disk.Path.isAbsolute u = true) (hname : IsCacheName name)
    (hroot : locateFrom m₁.disk [] c.root = some root) (hrootdir : m₁.disk.isDir root = true)
    (htrees : m₁.TreesInWorkTree)
    (hclear : m₁' = m₁ ∧ m₁.disk.node? (root ++ [name]) = none ∨
        ∃ disk, m₁.disk.removeDirAll (root ++ [name]) = .ok disk ∧ m₁' = { m₁ with disk })
    (hclone : (c.git root ["clone", "--quiet", u, Disk.Path.join c.root name]).run m₁' = (.ok o₀, m₂)) :
    m₂.disk.isDir root = true ∧ (m₂.disk.node? (root ++ [name, ".git"])).isSome ∧ m₂.TreesInWorkTree ∧
      ∃ r, m₂.repos.lookup (root ++ [name]) = some r ∧ r.origin = some u := by
  have hcleared : m₁'.disk.isDir root = true ∧ m₁'.disk.root = m₁.disk.root ∧ m₁'.repos = m₁.repos := by
    rcases hclear with ⟨rfl, -⟩ | ⟨disk, hdisk, rfl⟩
    · exact ⟨hrootdir, rfl, rfl⟩
    · obtain ⟨hname', -, hframe⟩ := Disk.removeDirAll_eq_ok (by simp) hdisk
      refine ⟨?_, hname', rfl⟩
      rw [Disk.isDir_iff] at hrootdir ⊢
      rw [hframe root fun h => by simpa using h.length_le]
      exact hrootdir
  obtain ⟨hroot₁, hdiskname, hrepos⟩ := hcleared
  obtain ⟨-, -, hcode, -, hm₂⟩ := c.git_eq_ok hgit hclone
  have hrun : m₁'.run root ["clone", "--quiet", u, Disk.Path.join c.root name] =
      m₁'.clone root u (Disk.Path.join c.root name) :=
    Machine.cloneCommand_quiet m₁' root (startsWith_dash_of_isAbsolute hu)
      (startsWith_dash_of_isAbsolute (isAbsolute_join hname habs))
  rw [hrun] at hcode hm₂
  subst hm₂
  obtain ⟨dest, r, hdest, hlookup, horigin, hgitdir⟩ := Machine.clone_of_code hcode
  have hroot' : locateFrom m₁'.disk [] c.root = some root := by
    rw [locateFrom_of_root_eq hdiskname]
    exact hroot
  have hdest' : dest = root ++ [name] := by
    rcases locateFrom_join hname habs hroot' root with hnone | hsome
    · rw [hnone] at hdest
      cases hdest
    · rw [hsome] at hdest
      exact (Option.some.inj hdest).symm
  subst hdest'
  refine ⟨?_, ?_, ?_, r, hlookup, horigin (by simp [isRooted, hu])⟩
  · rw [Disk.isDir_iff] at hroot₁ ⊢
    exact Machine.clone_dirs _ _ _ _ hroot₁
  · rw [show root ++ [name, ".git"] = root ++ [name] ++ [".git"] by simp, hgitdir]
    rfl
  · exact Machine.clone_trees (htrees.of_repos hrepos) _ _ _

/-- A call of `ensure` that gave its directory, for a commit named in full, of an absolute URL
under an absolute root, left the clone at the commit. -/
theorem ensure_checkedOut {u s name p : String} {root : List String} {m m' : Machine}
    (hname : cacheDirName u = .ok name) (hroot : locateFrom m.disk [] c.root = some root)
    (hgit : programOf c.program = .git) (habs : Disk.Path.isAbsolute c.root = true)
    (hu : Disk.Path.isAbsolute u = true) (htrees : m.TreesInWorkTree) (hs : FullId s)
    (h : (c.ensure u s).run m = (.ok p, m')) : m'.CheckedOut root name s := by
  obtain ⟨d₁, hd₁, -, hreach⟩ := c.ensure_ok_reached hname hroot h
  obtain ⟨hname₁, hrootdir, -⟩ := Disk.createDirAll_eq_ok hd₁
  have htrees₁ : ({ m with disk := d₁ } : Machine).TreesInWorkTree := htrees.of_repos rfl
  cases hreach with
  | atCommit hclone hat =>
    obtain ⟨hrepo, hhead, -⟩ := c.headIs_of_atCommit hgit hat
    exact ⟨hrootdir, hrepo, hclone, hhead⟩
  | fetched hclone _ hfetch hcheckout =>
    exact c.checkedOut_of_fetch_checkout hgit hs htrees₁ hrootdir hclone hfetch hcheckout
  | cloned _ hclear hclone hfetch hcheckout =>
    have hroot₁ : locateFrom d₁ [] c.root = some root := by
      rw [locateFrom_of_root_eq hname₁]
      exact hroot
    obtain ⟨hrootdir₂, hclone₂, htrees₂, -⟩ := c.clone_facts hgit habs hu
      (isCacheName_of_cacheDirName hname) hroot₁ hrootdir htrees₁ hclear hclone
    exact c.checkedOut_of_fetch_checkout hgit hs htrees₂ hrootdir₂ hclone₂ hfetch hcheckout

/-- A fetch and a checkout through the cache that succeeded keep the repository of the directory
they run in, and its origin. -/
theorem origin_of_fetch_checkout {repo : List String} {s o₁ o₂ : String} {m₂ m₃ m' : Machine}
    (hgit : programOf c.program = .git) (htrees : m₂.TreesInWorkTree)
    (hfetch : (c.git repo ["fetch", "--quiet", "--all", "--tags"]).run m₂ = (.ok o₁, m₃))
    (hcheckout : (c.git repo ["checkout", "--quiet", "--detach", s]).run m₃ = (.ok o₂, m')) :
    ∃ r r', m₂.repoAt? repo = some r ∧ m'.repoAt? repo = some r' ∧ r'.origin = r.origin := by
  obtain ⟨-, -, hcode, -, hm₃⟩ := c.git_eq_ok hgit hfetch
  obtain ⟨-, -, -, -, hm'⟩ := c.git_eq_ok hgit hcheckout
  change (m₂.fetch repo).1.code = 0 at hcode
  change m₃ = (m₂.fetch repo).2 at hm₃
  change m' = (m₃.checkout repo ["--quiet", "--detach", s]).2 at hm'
  obtain ⟨r, -, r', hr, -, hfetched, horigin, -, -⟩ := Machine.fetch_of_code hcode
  have hr₃ : m₃.repoAt? repo = some r' := by
    rw [hm₃, hfetched]
    exact @Machine.repoAt?_setRepo _ _ _ _ m₂.disk hr fun _ _ => rfl
  have htrees₃ : m₃.TreesInWorkTree := hm₃ ▸ Machine.fetch_trees htrees repo
  obtain ⟨r'', hr'', horigin''⟩ := Machine.checkout_repoAt? hr₃ htrees₃ ["--quiet", "--detach", s]
  exact ⟨r, r'', hr, hm' ▸ hr'', horigin''.trans horigin⟩

/-- A call of `ensure` that gave its directory, of an absolute URL under an absolute root, leaves a
clone of the URL there, where any clone found there was one of it. -/
theorem ensure_origin {u s name p : String} {root : List String} {m m' : Machine}
    (hname : cacheDirName u = .ok name) (hroot : locateFrom m.disk [] c.root = some root)
    (hgit : programOf c.program = .git) (habs : Disk.Path.isAbsolute c.root = true)
    (hu : Disk.Path.isAbsolute u = true) (htrees : m.TreesInWorkTree)
    (hprior : ∀ r, m.repoAt? (root ++ [name]) = some r → r.origin = some u)
    (h : (c.ensure u s).run m = (.ok p, m')) :
    ∃ r, m'.repoAt? (root ++ [name]) = some r ∧ r.origin = some u := by
  obtain ⟨d₁, hd₁, -, hreach⟩ := c.ensure_ok_reached hname hroot h
  obtain ⟨hname₁, hrootdir, hframe⟩ := Disk.createDirAll_eq_ok hd₁
  have htrees₁ : ({ m with disk := d₁ } : Machine).TreesInWorkTree := htrees.of_repos rfl
  have hsame : ({ m with disk := d₁ } : Machine).repoAt? (root ++ [name]) = m.repoAt? (root ++ [name]) :=
    Machine.repoAt?_congr (fun q hq => hframe q fun hqr => by
      simpa using ((hq.trans hqr).length_le)) rfl
  cases hreach with
  | atCommit _ hat =>
    obtain ⟨-, hhead, -⟩ := c.headIs_of_atCommit hgit hat
    obtain ⟨r, hr⟩ := Option.isSome_iff_exists.mp (Machine.repoAt?_of_revParse hhead.head_code)
    exact ⟨r, hr, hprior r (hsame ▸ hr)⟩
  | fetched _ _ hfetch hcheckout =>
    obtain ⟨r, r', hr, hr', horigin⟩ := c.origin_of_fetch_checkout hgit htrees₁ hfetch hcheckout
    exact ⟨r', hr', horigin.trans (hprior r (hsame ▸ hr))⟩
  | cloned _ hclear hclone hfetch hcheckout =>
    have hroot₁ : locateFrom d₁ [] c.root = some root := by
      rw [locateFrom_of_root_eq hname₁]
      exact hroot
    obtain ⟨-, -, htrees₂, r₀, hlookup, horigin₀⟩ := c.clone_facts hgit habs hu
      (isCacheName_of_cacheDirName hname) hroot₁ hrootdir htrees₁ hclear hclone
    obtain ⟨r, r', hr, hr', horigin⟩ := c.origin_of_fetch_checkout hgit htrees₂ hfetch hcheckout
    have hr₀ : r = r₀ := Option.some.inj ((Machine.lookup_of_repoAt? hr).symm.trans hlookup)
    exact ⟨r', hr', horigin.trans (hr₀ ▸ horigin₀)⟩

/-- Where the clone is at the commit, `ensure` gives its directory and changes nothing. -/
theorem ensure_of_checkedOut {u s name : String} {root : List String} {m : Machine}
    (hname : cacheDirName u = .ok name) (hroot : locateFrom m.disk [] c.root = some root)
    (hgit : programOf c.program = .git) (htime : c.timeoutSecs ≠ 0) (h : m.CheckedOut root name s) :
    (c.ensure u s).run m = (.ok (Disk.Path.join c.root name), m) :=
  c.ensure_of_atCommit hname hroot h.root_dir h.git (c.atCommit_of_headIs hgit htime h.repo_dir h.head)

/-- After a call of `ensure` that gave its directory for a commit named in full, a later call for
any name `rev-parse` reads as that commit, on a machine that agrees on the directory, gives the
same directory and changes nothing. -/
theorem ensure_reuses {u s name p : String} {root : List String} {m m' : Machine}
    (hname : cacheDirName u = .ok name) (hroot : locateFrom m.disk [] c.root = some root)
    (hgit : programOf c.program = .git) (habs : Disk.Path.isAbsolute c.root = true)
    (hu : Disk.Path.isAbsolute u = true) (htrees : m.TreesInWorkTree) (hs : FullId s)
    (h : (c.ensure u s).run m = (.ok p, m')) {s' : String} {m'' : Machine}
    (hsame : m'.SameAt (root ++ [name]) m'')
    (hrev : m'.revParse (root ++ [name]) (s' ++ "^\x7bcommit\x7d") true =
      m'.revParse (root ++ [name]) (s ++ "^\x7bcommit\x7d") true) :
    (c.ensure u s').run m'' = (.ok p, m'') := by
  obtain ⟨d₁, -, rfl, hreach⟩ := c.ensure_ok_reached hname hroot h
  have hco := (c.ensure_checkedOut hname hroot hgit habs hu htrees hs h).sameAt hsame hrev
  have hdiskname : m''.disk.root = m.disk.root := by
    have hwithin := (c.ensure_within (s := s) hname hroot habs (startsWith_dash_of_isAbsolute hu)).1.root_eq
    rw [h] at hwithin
    exact hsame.root_eq.trans hwithin
  have hroot'' : locateFrom m''.disk [] c.root = some root := by
    rw [locateFrom_of_root_eq hdiskname]
    exact hroot
  exact c.ensure_of_checkedOut hname hroot'' hgit (Reached.timeout c hgit hreach) hco

/-- With an absolute root on a disk whose name does not end in `/`, no file on the way to the root
and no clone in the URL's directory (a directory left there is cleared), `ensure` of an absolute URL
that leads to a repository, lying apart from the directory, clones, fetches and checks out any
commit of it named in full: it gives the directory. -/
theorem ensure_of_fresh {u s name : String} {root src : List String} {m : Machine} {o : Repo}
    (hname : cacheDirName u = .ok name) (hroot : locateFrom m.disk [] c.root = some root)
    (hgit : programOf c.program = .git) (htime : c.timeoutSecs ≠ 0)
    (habs : Disk.Path.isAbsolute c.root = true) (hu : Disk.Path.isAbsolute u = true)
    (htrees : m.TreesInWorkTree) (hdiskname : m.disk.root.toList.getLast? ≠ some '/')
    (hno : NoFileOn m.disk root) (hnone : m.disk.node? (root ++ [name, ".git"]) = none)
    (hleft : m.disk.node? (root ++ [name]) = some .dir ∨ ∀ q, root ++ [name] <+: q → m.disk.node? q = none)
    (hsrc : locateFrom m.disk [] u = some src) (ho : m.repoAt? src = some o)
    (hapart : ¬ root ++ [name] <+: src ++ [".git"] ∧ ¬ src ++ [".git"] <+: root ++ [name])
    (hs : FullId s) (hc : (o.commit? s).isSome) (htree : (o.treeOf o.headId?).Apart)
    (hover : ∀ f ∈ o.treeOf (some s), ∀ g ∈ o.treeOf o.headId?,
      Disk.Path.steps f.1 <+: Disk.Path.steps g.1 → f.1 = g.1) :
    ∃ m', (c.ensure u s).run m = (.ok (Disk.Path.join c.root name), m') := by
  have hsafe := isCacheName_of_cacheDirName hname
  have hwork := Repo.treeOf_inWorkTree (htrees.repoAt? ho)
  obtain ⟨d₁, hd₁, hname₁, hrootdir, hno₁, hframe⟩ := createDirAll_of_noFileOn hno
  have hlong : ∀ q, root ++ [name] <+: q → ¬ q <+: root := fun q hq hqr => by
    simpa using (hq.trans hqr).length_le
  have hleft₁ : d₁.node? (root ++ [name]) = some .dir ∨
      ∀ q, root ++ [name] <+: q → d₁.node? q = none := by
    rcases hleft with hdir | hempty
    · exact .inl ((hframe _ (hlong _ List.prefix_rfl)).trans hdir)
    · exact .inr fun q hq => (hframe q (hlong q hq)).trans (hempty q hq)
  obtain ⟨m₁', hclear, hfresh₁, hkept₁, hname₁', hrepos₁⟩ :=
    Machine.cleared_of_left m (by simp) hleft₁
  have hno₁' : NoFileOn m₁'.disk (root ++ [name]) := fun q hq bytes => by
    rcases List.prefix_concat_iff.mp hq with rfl | hq
    · rw [hfresh₁ _ List.prefix_rfl]
      exact fun h => by cases h
    · rw [hkept₁ q fun h => by simpa using (h.trans hq).length_le]
      exact hno₁ q hq bytes
  have hrootdir₁ : m₁'.disk.isDir root = true := by
    rw [Disk.isDir_iff, hkept₁ root fun h => by simpa using h.length_le, ← Disk.isDir_iff]
    exact hrootdir
  have hdiskname₁ : m₁'.disk.root = m.disk.root := hname₁'.trans hname₁
  have ho₁ : m₁'.repoAt? src = some o := by
    rw [← ho]
    refine Machine.repoAt?_congr (fun q hq => ?_) (by rw [hrepos₁])
    have hq' : ¬ root ++ [name] <+: q := fun h =>
      (List.prefix_or_prefix_of_prefix h hq).elim hapart.1 hapart.2
    rw [hkept₁ q hq', hframe q fun hqr => hapart.2 (hq.trans (hqr.trans (List.prefix_append _ _)))]
  have hsrc₁ : locateFrom m₁'.disk [] u = some src := by
    rw [locateFrom_of_root_eq hdiskname₁]
    exact hsrc
  have hroot₁ : locateFrom m₁'.disk [] c.root = some root := by
    rw [locateFrom_of_root_eq hdiskname₁]
    exact hroot
  have hsource : m₁'.cloneSource root u = .ok (src, u) := by
    have hgitdir : locateFrom m₁'.disk root (u ++ "/.git") = some (src ++ [".git"]) := by
      have := locateFrom_append_slash isCacheName_git hu hsrc₁ root
      rwa [String.append_assoc] at this
    exact Machine.cloneSource_of_repo (Machine.findLocal_of_repo hgitdir (by rw [ho₁]; rfl))
      (by simp [isRooted, hu])
  have hdest : locateFrom m₁'.disk root (Disk.Path.join c.root name) = some (root ++ [name]) :=
    locateFrom_join_of_root hsafe habs (by rw [hdiskname₁]; exact hdiskname) hroot₁ root
  obtain ⟨m₂, hcloned, hfc₂, hwithin₂⟩ :=
    Machine.clone_freshClone hsource ho₁ hdest hno₁' hfresh₁ htree (hwork _)
  have hrun : m₁'.run root ["clone", "--quiet", u, Disk.Path.join c.root name] = (Run.ok "", m₂) := by
    rw [← hcloned]
    exact Machine.cloneCommand_quiet m₁' root (startsWith_dash_of_isAbsolute hu)
      (startsWith_dash_of_isAbsolute (isAbsolute_join hsafe habs))
  have hclone := c.git_of_code hgit hrootdir₁ htime (by rw [hrun]; rfl)
  rw [hrun] at hclone
  have ho₂ : m₂.repoAt? src = some o := (Machine.Within.repoAt?_eq hwithin₂ hapart).trans ho₁
  have hsrc₂ : locateFrom m₂.disk [] u = some src := by
    rw [locateFrom_of_root_eq hwithin₂.1.root_eq]
    exact hsrc₁
  obtain ⟨hcode₃, hfc₃⟩ := Machine.fetch_freshClone hfc₂ hu hsrc₂ ho₂
  have hfetch := @RepoCache.git_of_code c _ ["fetch", "--quiet", "--all", "--tags"] _ hgit
    hfc₂.dir_isDir htime hcode₃
  have hcode₄ := Machine.checkout_freshClone hfc₃ hs hc (hwork _) hover
  have hcheckout := @RepoCache.git_of_code c _ ["checkout", "--quiet", "--detach", s] _ hgit
    hfc₃.dir_isDir htime hcode₄
  exact ⟨_, c.ensure_of_reached hname hroot hd₁
    (.cloned (by rw [hframe _ fun h => by simpa using h.length_le]; exact hnone) hclear hclone hfetch
      hcheckout)⟩

/-- A commit id written in full. -/
def firstCommitId : String := String.ofList (List.replicate 40 'c')

/-- A repository with one commit, of one file `f.rs`, on `main`. -/
def firstCommitRepo : Repo where
  commits := [{ id := firstCommitId, parent := none, tree := [("f.rs", [])], message := "commit 0" }]
  refs := [("refs/heads/main", firstCommitId)]
  head := .branch "main"

/-- A disk named `/srv` that holds that repository, at `o`. -/
def oneCommitOrigin : Machine :=
  ⟨⟨"/srv", [(["o"], .dir), (["o", ".git"], .dir), (["o", ".git", "objects"], .dir),
    (["o", ".git", "refs"], .dir), (["o", ".git", "HEAD"], .file (List.replicate 40 48)),
    (["o", "f.rs"], .file [])]⟩, [(["o"], firstCommitRepo)]⟩

end AdvisoryTrace.Repository.RepoCache
