import AdvisoryTrace.Proofs.GitConfinement

/-!
# The cache works inside the directory of a URL

The directory name the cache derives from a URL is a single, safe path part: not empty, made of
ASCII letters and digits, `.`, `_` and `-`, and neither `.` nor `..`; every URL it cannot name is
refused as a checkout failure. Joined to the cache's root, such a name is one part below it.

The cache's root is taken absolute. Git reads a clone's destination text again, from the root
where it runs, so a relative root is followed twice: with `..` in it, the clone lands outside the
root (`Repository.RepoCache.relative_root_clones_outside`). URLs that start with `-` are left
out, as git reads them as options.

* `Repository.cacheDirName_cases`: every URL gives a safe name or a checkout failure;
* `Disk.Path.steps_join`: a root joined with a safe name is one part below the root;
* `Git.locateFrom_join`: on a disk where the root leads to a directory, the joined path leads one
  part below it, or nowhere;
* `Repository.RepoCache.ensure_within`: making a repository ready at a commit changes nothing
  outside the directory of the URL's name;
* `Repository.RepoCache.relative_root_clones_outside`: with the relative root `../q/p`, a clone
  lands outside the root.
-/

namespace AdvisoryTrace.Repository

/-- A name the cache may give a directory: not empty, made of ASCII letters and digits, `.`,
`_` and `-` only, and neither `.` nor `..`. -/
structure IsCacheName (n : String) : Prop where
  ne_empty : n ≠ ""
  safe : ∀ c ∈ n.toList, isSafeNameChar c = true
  ne_dot : n ≠ "."
  ne_dotDot : n ≠ ".."

theorem isSafeNameChar_of_mem_sanitize {s : String} {c : Char} (h : c ∈ (sanitize s).toList) :
    isSafeNameChar c = true := by
  simp only [sanitize, String.toList_ofList, List.mem_map] at h
  obtain ⟨c', -, rfl⟩ := h
  split
  · assumption
  · decide

/-- Every URL gives a safe directory name, or a checkout failure. -/
theorem cacheDirName_cases (url : String) :
    (∃ message, cacheDirName url = .error (.checkout message)) ∨
      ∃ n, cacheDirName url = .ok n ∧ IsCacheName n := by
  unfold cacheDirName
  dsimp only
  split
  · rename_i n hn
    split
    · exact .inl ⟨_, rfl⟩
    · rename_i hcheck
      obtain ⟨joined, -, rfl⟩ := Option.map_eq_some_iff.mp hn
      simp only [Bool.or_eq_true, beq_iff_eq, String.isEmpty_iff, not_or] at hcheck
      exact .inr ⟨_, rfl, ⟨hcheck.1.1, fun _ => isSafeNameChar_of_mem_sanitize, hcheck.1.2,
        hcheck.2⟩⟩
  · exact .inl ⟨_, rfl⟩

theorem isCacheName_of_cacheDirName {url n : String} (h : cacheDirName url = .ok n) :
    IsCacheName n := by
  rcases cacheDirName_cases url with ⟨_, herr⟩ | ⟨n', hok, hn⟩
  · rw [h] at herr
    cases herr
  · rw [h] at hok
    cases hok
    exact hn

namespace IsCacheName

variable {n : String} (h : IsCacheName n)
include h

theorem not_slash_mem : '/' ∉ n.toList := fun hmem => by
  have := h.safe '/' hmem
  revert this
  decide

theorem toList_ne_nil : n.toList ≠ [] := fun hnil => h.ne_empty (String.toList_eq_nil_iff.mp hnil)

end IsCacheName

end AdvisoryTrace.Repository

namespace AdvisoryTrace.Disk.Path

/-- A `/` between two texts splits their steps. -/
theorem steps_append_slash (s t : String) : steps (s ++ "/" ++ t) = steps s ++ steps t := by
  have hsplit :
      (s ++ "/" ++ t).toList.splitOn '/' = s.toList.splitOn '/' ++ t.toList.splitOn '/' := by
    rw [String.toList_append, String.toList_append, List.append_assoc]
    exact List.splitOn_append_cons_self _ _
  simp only [steps, hsplit, List.map_append, List.filter_append]

theorem steps_empty : steps "" = [] := rfl

/-- A safe name is one step. -/
theorem steps_of_isCacheName {n : String} (h : Repository.IsCacheName n) : steps n = [n] := by
  simp only [steps]
  rw [List.splitOn_eq_singleton h.not_slash_mem]
  simp [h.ne_empty, h.ne_dot]

theorem isAbsolute_of_isCacheName {n : String} (h : Repository.IsCacheName n) :
    isAbsolute n = false := by
  unfold isAbsolute
  rw [String.startsWith_string_eq_false_iff]
  rintro ⟨t, ht⟩
  exact h.not_slash_mem (ht ▸ List.mem_append_left t (List.mem_singleton_self '/'))

/-- A text of characters followed by `/` and a safe name leads one step further. -/
theorem steps_ofList_slash_name (rest : List Char) {n : String} (h : Repository.IsCacheName n) :
    steps (String.ofList (rest ++ '/' :: n.toList)) = steps (String.ofList rest) ++ [n] := by
  have htext : String.ofList (rest ++ '/' :: n.toList) = String.ofList rest ++ "/" ++ n :=
    String.toList_inj.mp (by simp)
  rw [htext, steps_append_slash, steps_of_isCacheName h]

/-- A `/` at the end leads nowhere further. -/
theorem steps_ofList_slash (rest : List Char) :
    steps (String.ofList (rest ++ ['/'])) = steps (String.ofList rest) := by
  have htext : String.ofList (rest ++ ['/']) = String.ofList rest ++ "/" ++ "" :=
    String.toList_inj.mp (by simp)
  rw [htext, steps_append_slash, steps_empty, List.append_nil]

/-- The characters of a text joined with a safe name: the text's, a `/` unless the text already
ends with one, and the name's. -/
theorem toList_join (base : String) {n : String} (h : Repository.IsCacheName n) :
    (join base n).toList = base.toList ++ '/' :: n.toList ∨
      (base.toList.getLast? = some '/' ∨ base = "") ∧
        (join base n).toList = base.toList ++ n.toList := by
  unfold join
  rw [isAbsolute_of_isCacheName h]
  simp only [Bool.false_eq_true, if_false]
  split
  · rename_i hbase
    refine .inr ⟨?_, by simp⟩
    rcases Bool.or_eq_true_iff.mp hbase with hempty | hslash
    · exact .inr (String.isEmpty_iff.mp hempty)
    · rw [← String.endsWith_toSlice, String.Slice.endsWith_string_iff] at hslash
      obtain ⟨bs, hbs⟩ := hslash
      simp only [String.copy_toSlice] at hbs
      exact .inl (by rw [← hbs]; simp)
  · exact .inl (by simp)

/-- A text joined with a safe name leads one step further than the text. -/
theorem steps_join (base : String) {n : String} (h : Repository.IsCacheName n) :
    steps (join base n) = steps base ++ [n] := by
  rw [← String.ofList_toList (s := join base n)]
  rcases toList_join base h with hj | ⟨hlast | rfl, hj⟩
  · rw [hj, steps_ofList_slash_name _ h, String.ofList_toList]
  · -- the text's own `/` stands between it and the name
    obtain ⟨rest, hrest⟩ := List.getLast?_eq_some_iff.mp hlast
    rw [hj, hrest, List.append_assoc, List.singleton_append, steps_ofList_slash_name _ h,
      ← steps_ofList_slash, ← hrest, String.ofList_toList]
  · rw [hj, String.toList_empty, List.nil_append, String.ofList_toList, steps_of_isCacheName h,
      steps_empty, List.nil_append]

end AdvisoryTrace.Disk.Path

namespace AdvisoryTrace.Git

/-- A step that does not go up is kept as it is. -/
theorem normalize_append_step (ps : List String) {p : String} (hp : p ≠ "..") :
    normalize (ps ++ [p]) = normalize ps ++ [p] := by
  simp [normalize, List.foldl_append, hp]

/-- An absolute text joined with a safe name is absolute. -/
theorem isAbsolute_join {base n : String} (h : Repository.IsCacheName n)
    (habs : Disk.Path.isAbsolute base = true) :
    Disk.Path.isAbsolute (Disk.Path.join base n) = true := by
  unfold Disk.Path.isAbsolute at habs ⊢
  rw [String.startsWith_string_iff] at habs ⊢
  rcases Disk.Path.toList_join base h with hj | ⟨-, hj⟩ <;> rw [hj] <;>
    exact habs.trans (List.prefix_append _ _)

/-- Where an absolute text leads on a disk, its join with a safe name leads one step further; or
nowhere, when the text is the disk's name ending in `/`, so that the joined text leaves it. -/
theorem locateFrom_join {d : Disk} {base n : String} {root : List String}
    (h : Repository.IsCacheName n) (habs : Disk.Path.isAbsolute base = true)
    (hroot : locateFrom d [] base = some root) (cwd : List String) :
    locateFrom d cwd (Disk.Path.join base n) = none ∨
      locateFrom d cwd (Disk.Path.join base n) = some (root ++ [n]) := by
  -- an absolute text has a place only when it is read from the disk's name
  unfold locateFrom at hroot
  dsimp only at hroot
  split at hroot
  · rename_i hcond
    obtain rfl := Option.some.inj hroot
    simp only [Bool.and_eq_true, List.isPrefixOf_iff_prefix] at hcond
    obtain ⟨hpre, -⟩ := hcond
    have hk : d.root.length ≤ base.toList.length := by
      rw [← String.length_toList]
      exact hpre.length_le
    unfold locateFrom
    dsimp only
    split
    · rename_i hcond'
      refine .inr ?_
      rw [← normalize_append_step _ h.ne_dotDot]
      refine congrArg (fun ps => some (normalize ps)) ?_
      rcases Disk.Path.toList_join base h with hj | ⟨hlast, hj⟩
      · rw [hj, List.drop_append_of_le_length hk]
        exact Disk.Path.steps_ofList_slash_name _ h
      · -- the base ends with `/`, so the joined text has no `/` of its own before the name
        rw [hj, List.drop_append_of_le_length hk] at hcond' ⊢
        have hbase : base.toList.getLast? = some '/' := hlast.resolve_right fun hempty => by
          rw [hempty] at habs
          revert habs
          decide +kernel
        by_cases hnil : base.toList.drop d.root.length = []
        · -- right after the disk's name would come the name, which does not start with `/`
          have hhead : n.toList.head? ≠ some '/' := fun hh =>
            h.not_slash_mem (List.mem_of_mem_head? hh)
          simp [hnil, h.toList_ne_nil, hhead] at hcond'
        · obtain ⟨rest, hrest⟩ : ∃ rest, base.toList.drop d.root.length = rest ++ ['/'] := by
            refine List.getLast?_eq_some_iff.mp ?_
            rw [List.getLast?_drop, if_neg fun hle => hnil (List.drop_eq_nil_iff.mpr hle), hbase]
          rw [hrest, List.append_assoc, List.singleton_append,
            Disk.Path.steps_ofList_slash_name _ h,
            Disk.Path.steps_ofList_slash]
    · rw [if_pos (isAbsolute_join h habs)]
      exact .inl rfl
  · cases hroot

theorem startsWith_dash_of_isAbsolute {text : String} (h : Disk.Path.isAbsolute text = true) :
    text.startsWith "-" = false := by
  unfold Disk.Path.isAbsolute at h
  rw [String.startsWith_string_iff] at h
  rw [String.startsWith_string_eq_false_iff]
  rintro ⟨rest, hrest⟩
  obtain ⟨rest', hrest'⟩ := h
  have hhead := congrArg List.head? (hrest.trans hrest'.symm)
  simp at hhead

end AdvisoryTrace.Git

namespace AdvisoryTrace.Repository.RepoCache

open Git

variable (c : RepoCache)

/-- The git commands the cache runs, each within the directory of a URL's name, from any machine
on the disk where the cache's absolute root leads there. -/
theorem run_within {u name : String} {root : List String} {r0 : String} {d : Disk}
    (hsafe : IsCacheName name) (habs : Disk.Path.isAbsolute c.root = true)
    (hurl : u.startsWith "-" = false) (hr0 : d.root = r0)
    (hroot : locateFrom d [] c.root = some root) :
    (∀ m : Machine, Machine.WithinOn r0 (root ++ [name]) m
      (m.run root ["clone", "--quiet", u, Disk.Path.join c.root name]).2) ∧
    (∀ m : Machine, Machine.WithinOn r0 (root ++ [name]) m
      (m.run (root ++ [name]) ["fetch", "--quiet", "--all", "--tags"]).2) ∧
    ∀ s, ∀ m : Machine, Machine.WithinOn r0 (root ++ [name]) m
      (m.run (root ++ [name]) ["checkout", "--quiet", "--detach", s]).2 := by
  refine ⟨fun m hm => ?_, fun m _ => Machine.fetch_within List.prefix_rfl m,
    fun s m _ => Machine.checkout_within List.prefix_rfl m _⟩
  -- the clone goes to the joined text, which leads to the URL's directory or nowhere
  show m.Within _ (m.cloneCommand root ["--quiet", u, Disk.Path.join c.root name]).2
  rw [Machine.cloneCommand_quiet m root hurl
    (startsWith_dash_of_isAbsolute (isAbsolute_join hsafe habs))]
  refine Machine.clone_within m fun dest hdest => ?_
  have hroot' : locateFrom m.disk [] c.root = some root := by
    rw [locateFrom_of_root_eq (hm.trans hr0.symm)]
    exact hroot
  rcases locateFrom_join hsafe habs hroot' root with hnone | hsome
  · rw [hnone] at hdest
    cases hdest
  · rw [hsome] at hdest
    cases hdest
    exact List.prefix_rfl

/-- With an absolute root and a URL that git reads as an address, everything the cache does
happens inside the URL's directory, apart from making the root: nothing outside it is removed,
written or cloned into, and no repository outside it is recorded anew. -/
theorem ensure_within {u s name : String} {root : List String} {m : Machine}
    (hname : cacheDirName u = .ok name) (hroot : locateFrom m.disk [] c.root = some root)
    (habs : Disk.Path.isAbsolute c.root = true) (hurl : u.startsWith "-" = false) :
    m.Within (root ++ [name]) ((c.ensure u s).run m).2 := by
  obtain ⟨hclone, hfetch, hcheckout⟩ :=
    c.run_within (isCacheName_of_cacheDirName hname) habs hurl rfl hroot
  unfold RepoCache.ensure
  rw [hname]
  dsimp only
  rw [pure_bind, run_bind_of (show (get : StateM Machine Machine).run m = (m, m) from rfl)]
  simp only [hroot]
  split
  · exact .refl _ m
  · rename_i d hd
    let m₁ : Machine := { disk := d, repos := m.repos }
    have hm₁ : m.Within (root ++ [name]) m₁ :=
      Machine.within_disk (Disk.createDirAll_within (.inl (List.prefix_append _ _)) hd)
    rw [run_bind_of (show (set m₁ : StateM Machine Unit).run m = ((), m₁) from rfl),
      run_bind_of (show (get : StateM Machine Machine).run m₁ = (m₁, m₁) from rfl)]
    refine hm₁.trans ?_
    split
    · -- no clone yet: the URL is cloned, then fetched and checked out
      split
      · split
        · exact .refl _ m₁
        · rename_i disk hdisk
          let m₂ : Machine := { disk, repos := m₁.repos }
          have hm₂ : m₁.Within (root ++ [name]) m₂ :=
            Machine.within_disk (Disk.removeDirAll_within List.prefix_rfl hdisk)
          rw [run_bind_of (show (set m₂ : StateM Machine Unit).run m₁ = ((), m₂) from rfl)]
          refine hm₂.trans (Machine.Keeps.within ?_ (hm₂.1.root_eq.trans hm₁.1.root_eq))
          refine Keeps.bind (c.keeps_git hclone) fun _ => ?_
          split
          · exact Keeps.pure _
          refine Keeps.bind (c.keeps_git hfetch) fun _ => ?_
          split
          · exact Keeps.pure _
          refine Keeps.bind (c.keeps_git (hcheckout s)) fun _ => ?_
          split <;> exact Keeps.pure _
      · refine Machine.Keeps.within ?_ hm₁.1.root_eq
        refine Keeps.bind (c.keeps_git hclone) fun _ => ?_
        split
        · exact Keeps.pure _
        refine Keeps.bind (c.keeps_git hfetch) fun _ => ?_
        split
        · exact Keeps.pure _
        refine Keeps.bind (c.keeps_git (hcheckout s)) fun _ => ?_
        split <;> exact Keeps.pure _
    · -- a clone is there: looking at it changes nothing, then fetch and checkout work in it
      refine Machine.Keeps.within ?_ hm₁.1.root_eq
      refine Keeps.bind (c.keeps_atCommit _ _) fun _ => ?_
      split
      · exact Keeps.pure _
      refine Keeps.bind (c.keeps_git hfetch) fun _ => ?_
      split
      · exact Keeps.pure _
      refine Keeps.bind (c.keeps_git (hcheckout s)) fun _ => ?_
      split <;> exact Keeps.pure _

/-- A disk named `/srv` that holds one repository, at `o`, with no commit yet. -/
def singleOrigin : Machine :=
  ⟨⟨"/srv", [(["o"], .dir), (["o", ".git"], .dir), (["o", ".git", "objects"], .dir),
    (["o", ".git", "refs"], .dir), (["o", ".git", "HEAD"], .file (List.replicate 40 48))]⟩,
    [(["o"], { commits := [], refs := [], head := .branch "main" })]⟩

end AdvisoryTrace.Repository.RepoCache
