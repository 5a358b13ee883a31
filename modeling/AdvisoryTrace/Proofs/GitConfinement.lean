import AdvisoryTrace.Proofs.CacheReuse

/-!
# Git works below the directory it is given

What a git command of the machine changes stays below the directory it works in. A checkout
rewrites the work tree of the repository in its directory and records the repository there; a
fetch only records it; a clone writes below the directory it clones into and makes the
directories above it, where nothing was.

* `Disk.Within t d d'`: from `d` to `d'` nothing changed outside the directory `t`, but
  directories made on the way down to it; each operation of a disk gets its lemma
  (`Disk.makeDirs_within`, `Disk.place_within`, `Disk.removeTree_within`, ...);
* `Git.Machine.Within`: the same of a machine, with no repository recorded anew outside `t`;
* `Git.Machine.checkout_within`, `Git.Machine.fetch_within`, `Git.Machine.clone_within`: each
  command stays within its directory;
* `Git.Machine.cloneCommand_quiet`: `git clone --quiet URL DIR`, for words that git takes for no
  options, clones `URL` into `DIR`.
-/

namespace AdvisoryTrace.Disk

/-- Between two states of one disk nothing changed outside the directory `t`, except that
directories may have been made, where nothing was, on the way down to it. -/
structure Within (t : List String) (d d' : Disk) : Prop where
  root_eq : d'.root = d.root
  node?_eq : ∀ q, ¬ t <+: q →
    d'.node? q = d.node? q ∨ q <+: t ∧ d.node? q = none ∧ d'.node? q = some .dir

namespace Within

variable {t : List String} {d₁ d₂ d₃ : Disk}

theorem refl (t : List String) (d : Disk) : d.Within t d := ⟨rfl, fun _ _ => .inl rfl⟩

theorem trans (h₁ : d₁.Within t d₂) (h₂ : d₂.Within t d₃) : d₁.Within t d₃ := by
  refine ⟨h₂.root_eq.trans h₁.root_eq, fun q hq => ?_⟩
  rcases h₁.node?_eq q hq with e₁ | ⟨hpre, hnone, hdir⟩ <;>
    rcases h₂.node?_eq q hq with e₂ | ⟨hpre₂, hnone₂, hdir₂⟩
  · exact .inl (e₂.trans e₁)
  · exact .inr ⟨hpre₂, e₁ ▸ hnone₂, hdir₂⟩
  · exact .inr ⟨hpre, hnone, e₂.trans hdir⟩
  · -- a directory made in the first step is there in the second
    rw [hdir] at hnone₂
    cases hnone₂

/-- What stays outside a directory stays outside every directory above it. -/
theorem mono {t' : List String} (ht : t' <+: t) (h : d₁.Within t d₂) : d₁.Within t' d₂ := by
  refine ⟨h.root_eq, fun q hq => ?_⟩
  rcases h.node?_eq q (fun htq => hq (ht.trans htq)) with e | ⟨hpre, hnone, hdir⟩
  · exact .inl e
  · rcases List.prefix_or_prefix_of_prefix hpre ht with hq' | hq'
    · exact .inr ⟨hq', hnone, hdir⟩
    · exact absurd hq' hq

end Within

/-- A change at one path, or a directory made where nothing was, stays within every directory
the path is below or above. -/
theorem within_of_change {t here : List String} {d d' : Disk} (hroot : d'.root = d.root)
    (ht : here <+: t ∨ t <+: here) (h : ∀ q, q ≠ here → d'.node? q = d.node? q)
    (hhere : ¬ t <+: here →
      d'.node? here = d.node? here ∨ d.node? here = none ∧ d'.node? here = some .dir) :
    d.Within t d' := by
  refine ⟨hroot, fun q hq => ?_⟩
  by_cases hqh : q = here
  · subst hqh
    have hpre : q <+: t := ht.resolve_right hq
    rcases hhere hq with e | ⟨hnone, hdir⟩
    · exact .inl e
    · exact .inr ⟨hpre, hnone, hdir⟩
  · exact .inl (h q hqh)

/-- The node a path holds after an entry is added behind the others: the one it held, if any. -/
theorem node?_push (d : Disk) (here : List String) (node : Node) (q : List String)
    (hne : q ≠ here) :
    ({ d with nodes := d.nodes ++ [(here, node)] } : Disk).node? q = d.node? q := by
  unfold Disk.node?
  split
  · rfl
  · rw [List.find?_append]
    cases hfind : d.nodes.find? (·.1 == q) with
    | some e => rfl
    | none =>
      simp only [Option.none_or, List.find?_cons, List.find?_nil]
      have : (here == q) = false := beq_false_of_ne (Ne.symm hne)
      simp [this]

theorem node?_push_self (d : Disk) (here : List String) (node : Node)
    (hnone : d.node? here = none) :
    ({ d with nodes := d.nodes ++ [(here, node)] } : Disk).node? here = some node := by
  unfold Disk.node? at hnone ⊢
  split
  · rename_i hempty
    rw [if_pos hempty] at hnone
    cases hnone
  · rename_i hempty
    rw [if_neg hempty] at hnone
    rw [List.find?_append]
    have hfind : d.nodes.find? (·.1 == here) = none := Option.map_eq_none_iff.mp hnone
    simp [hfind]

/-- A fold of steps that each stay within a directory stays within it. -/
theorem within_foldlM {t : List String} {β : Type} {f : Disk → β → Option Disk}
    (hf : ∀ d b d', f d b = some d' → d.Within t d') :
    ∀ (bs : List β) (d d' : Disk), bs.foldlM f d = some d' → d.Within t d'
  | [], d, d', h => by
    cases h
    exact .refl t d
  | b :: bs, d, d', h => by
    rw [List.foldlM_cons] at h
    obtain ⟨d₁, h₁, h₂⟩ := Option.bind_eq_some_iff.mp h
    exact (hf d b d₁ h₁).trans (within_foldlM hf bs d₁ d' h₂)

/-- Making the directories of a path only makes directories, where nothing was, on the way down
to it: so it stays within every directory the path is below or above. -/
theorem makeDirs_within {t path : List String} {d d' : Disk} (ht : path <+: t ∨ t <+: path)
    (h : d.makeDirs path = some d') : d.Within t d' := by
  unfold makeDirs at h
  refine within_foldlM (fun e k e' hk => ?_) _ _ _ h
  dsimp only at hk
  split at hk
  · cases hk
    exact .refl t e
  · cases hk
  · rename_i hnone
    cases hk
    have hpre : path.take (k + 1) <+: path := List.take_prefix _ _
    refine within_of_change rfl ?_ (fun q hq => node?_push e _ _ q hq) fun _ =>
      .inr ⟨hnone, node?_push_self e _ _ hnone⟩
    rcases ht with ht | ht
    · exact .inl (hpre.trans ht)
    · exact List.prefix_or_prefix_of_prefix hpre ht

/-- Rewriting entries in place, keeping their paths, keeps what every other path holds. -/
theorem find?_map_of_keeps {f : List String × Node → List String × Node} {q : List String}
    (hpath : ∀ e, (f e).1 = e.1) (hkeep : ∀ e, e.1 = q → f e = e) :
    ∀ l : List (List String × Node), (l.map f).find? (·.1 == q) = l.find? (·.1 == q)
  | [] => rfl
  | e :: l => by
    by_cases he : e.1 = q
    · simp [he, hkeep e he]
    · simp [he, hpath, find?_map_of_keeps hpath hkeep l]

/-- Writing a file changes what its path holds, and nothing else. -/
theorem node?_write_ne {path q : List String} {bytes : List UInt8} {d d' : Disk}
    (h : d.write path bytes = some d') (hq : q ≠ path) : d'.node? q = d.node? q := by
  unfold write at h
  split at h
  · cases h
  · split at h
    · cases h
    · cases h
      unfold Disk.node?
      split
      · rfl
      · -- the file at the path is replaced; every entry keeps its path
        rw [find?_map_of_keeps (fun e => by split <;> simp_all) (fun e he => by simp [he, hq])]
    · cases h
      exact node?_push d path _ q hq

theorem root_write {path : List String} {bytes : List UInt8} {d d' : Disk}
    (h : d.write path bytes = some d') : d'.root = d.root := by
  unfold write at h
  split at h
  · cases h
  · split at h <;> cases h <;> rfl

theorem write_within {t path : List String} {bytes : List UInt8} {d d' : Disk} (ht : t <+: path)
    (h : d.write path bytes = some d') : d.Within t d' :=
  within_of_change (root_write h) (.inr ht) (fun _ hq => node?_write_ne h hq) fun hn => absurd ht hn

theorem place_within {t path : List String} {node : Node} {d d' : Disk} (ht : t <+: path)
    (h : d.place path node = some d') : d.Within t d' := by
  unfold place at h
  split at h
  · exact makeDirs_within (.inr ht) h
  · obtain ⟨d₁, h₁, h₂⟩ := Option.bind_eq_some_iff.mp h
    have hdirs :=
      makeDirs_within (List.prefix_or_prefix_of_prefix (List.dropLast_prefix path) ht) h₁
    exact hdirs.trans (write_within ht h₂)

/-- Laying out a path, or leaving the disk as it was where that fails. -/
theorem place_getD_within {t path : List String} {node : Node} (ht : t <+: path) (d : Disk) :
    d.Within t ((d.place path node).getD d) := by
  cases h : d.place path node with
  | none => exact .refl t d
  | some d' => exact place_within ht h

/-- A fold of steps that each stay within a directory stays within it. -/
theorem within_foldl {t : List String} {β : Type} {f : Disk → β → Disk}
    (hf : ∀ (d : Disk) b, d.Within t (f d b)) :
    ∀ (bs : List β) (d : Disk), d.Within t (bs.foldl f d)
  | [], d => .refl t d
  | b :: bs, d => (hf d b).trans (within_foldl hf bs (f d b))

/-- Dropping entries that no path `q` names keeps what `q` holds. -/
theorem find?_filter_of_keeps {p : List String × Node → Bool} {q : List String}
    (hkeep : ∀ e : List String × Node, e.1 = q → p e = true) :
    ∀ l : List (List String × Node), (l.filter p).find? (·.1 == q) = l.find? (·.1 == q)
  | [] => rfl
  | e :: l => by
    by_cases he : e.1 = q
    · simp [he, hkeep e he]
    · by_cases hp : p e = true <;> simp [he, hp, find?_filter_of_keeps hkeep l]

/-- Removing a path and what is below it keeps what every other path holds. -/
theorem node?_removeTree {d : Disk} {path q : List String} (hq : ¬ path <+: q) :
    (d.removeTree path).node? q = d.node? q := by
  unfold removeTree Disk.node?
  split
  · rfl
  · refine congrArg _ (find?_filter_of_keeps (fun e he => ?_) _)
    rw [he]
    cases hb : path.isPrefixOf q
    · rfl
    · exact absurd (List.isPrefixOf_iff_prefix.mp hb) hq

theorem removeTree_within {t path : List String} (ht : t <+: path) (d : Disk) :
    d.Within t (d.removeTree path) :=
  ⟨rfl, fun _ hq => .inl (node?_removeTree fun hpq => hq (ht.trans hpq))⟩

theorem createDirAll_within {t path : List String} {d d' : Disk} (ht : path <+: t ∨ t <+: path)
    (h : d.createDirAll path = .ok d') : d.Within t d' := by
  unfold createDirAll at h
  split at h
  · cases h
    exact .refl t d
  · cases h
  · split at h
    · cases h
      exact makeDirs_within ht ‹_›
    · cases h

theorem removeDirAll_within {t path : List String} {d d' : Disk} (ht : t <+: path)
    (h : d.removeDirAll path = .ok d') : d.Within t d' := by
  unfold removeDirAll at h
  split at h
  · cases h
    exact removeTree_within ht d
  · cases h
  · cases h

/-- Pruning the directories left empty above a removed file removes only directories below the
top, and so stays within every start of the file's path at most one part longer than the top:
the walk up stops at the top's length. -/
theorem pruneFrom_within {top full t : List String} (ht : t <+: full) (hlen : t.length ≤ top.length + 1) :
    ∀ (fuel : Nat) (d : Disk) (p : List String), p <+: full →
      d.Within t (Git.Machine.pruneFrom d top fuel p)
  | 0, d, _, _ => .refl t d
  | fuel + 1, d, p, hp => by
    unfold Git.Machine.pruneFrom
    split
    · exact .refl t d
    · rename_i hplen
      split
      · exact .refl t d
      · have hbelow : t <+: p := List.prefix_of_prefix_length_le ht hp (by omega)
        exact (removeTree_within hbelow d).trans
          (pruneFrom_within ht hlen fuel _ p.dropLast ((List.dropLast_prefix p).trans hp))

end AdvisoryTrace.Disk

namespace AdvisoryTrace.Git

namespace Options

/-- Reading `--quiet` among the options of `clone`: a switch, whatever follows it. -/
theorem read_clone_quiet (fuel : Nat) (rest : List String) (given : List Given)
    (words : List String) :
    read Commands.cloneSpecs Commands.cloneHeads false (fuel + 1) ("--quiet" :: rest) given words =
      read Commands.cloneSpecs Commands.cloneHeads false fuel rest
        (given ++ [⟨"quiet", false, none⟩]) words := by
  have hname : ("--quiet".drop 2).toString = "quiet" := by decide +kernel
  have hlong : matchLong "quiet".toList Commands.cloneSpecs none none =
      .found Commands.cloneSpecs[1] false none := rfl
  rw [read]
  simp only [show ("--quiet" == "--") = false by decide +kernel,
    show "--quiet".startsWith "-" = true by decide +kernel,
    show ("--quiet" == "-") = false by decide +kernel,
    show "--quiet".startsWith "--" = true by decide +kernel, hname, hlong]
  rfl

/-- A word that does not start with `-` is one of the command's words. -/
theorem read_word (specs : List Spec) (heads : List String) (keepDashDash : Bool) (fuel : Nat)
    {arg : String} (rest : List String) (given : List Given) (words : List String)
    (h : arg.startsWith "-" = false) :
    read specs heads keepDashDash (fuel + 1) (arg :: rest) given words =
      read specs heads keepDashDash fuel rest given (words ++ [arg]) := by
  have hdash : (arg == "--") = false := by
    rw [beq_eq_false_iff_ne]
    rintro rfl
    revert h
    decide +kernel
  rw [read]
  simp [hdash, h]

end Options

namespace Machine

/-- With a quiet switch, an address and a directory that git takes for no options, `clone` clones
that address into that directory. -/
theorem cloneCommand_quiet (m : Machine) (cwd : List String) {url dest : String}
    (hurl : url.startsWith "-" = false) (hdest : dest.startsWith "-" = false) :
    m.cloneCommand cwd ["--quiet", url, dest] = m.clone cwd url dest := by
  unfold cloneCommand Options.readAll
  rw [Options.read_clone_quiet, show ["--quiet", url, dest].length = 2 + 1 from rfl,
    Options.read_word _ _ _ _ _ _ _ hurl, Options.read_word _ _ _ _ _ _ _ hdest]
  rfl

/-- Between two machines nothing changed outside the directory `t`: the disk only as
`Disk.Within` allows, and no repository is recorded anew outside it. -/
def Within (t : List String) (m m' : Machine) : Prop :=
  m.disk.Within t m'.disk ∧ ∀ q, ¬ t <+: q → m'.repos.lookup q = m.repos.lookup q

namespace Within

variable {t : List String}

theorem refl (t : List String) (m : Machine) : m.Within t m := ⟨.refl t m.disk, fun _ _ => rfl⟩

theorem trans {m₁ m₂ m₃ : Machine} (h₁ : m₁.Within t m₂) (h₂ : m₂.Within t m₃) : m₁.Within t m₃ :=
  ⟨h₁.1.trans h₂.1, fun q hq => (h₂.2 q hq).trans (h₁.2 q hq)⟩

end Within

variable {t : List String}

theorem within_disk {m : Machine} {disk : Disk} (h : m.disk.Within t disk) :
    m.Within t { m with disk } :=
  ⟨h, fun _ _ => rfl⟩

theorem within_setRepo {dir : List String} (ht : t <+: dir) (m : Machine) (r : Repo) :
    m.Within t (m.setRepo dir r) :=
  ⟨.refl t m.disk, fun q hq => by rw [lookup_setRepo, if_neg fun (hqd : q = dir) => hq (hqd ▸ ht)]⟩

theorem makeGitDir_within {dir : List String} (ht : t <+: dir) {m m' : Machine}
    (h : m.makeGitDir dir = some m') : m.Within t m' := by
  unfold makeGitDir at h
  obtain ⟨disk, hdirs, h⟩ := Option.bind_eq_some_iff.mp h
  cases h
  have hgit : t <+: dir ++ [".git"] := ht.trans (List.prefix_append _ _)
  refine within_disk ((Disk.makeDirs_within (.inr hgit) hdirs).trans ?_)
  exact Disk.within_foldl
    (fun d ⟨p, _⟩ => Disk.place_getD_within (hgit.trans (List.prefix_append _ p)) d) _ _

theorem writeTree_within {dir : List String} (ht : t <+: dir) (m : Machine) (tree : Tree) :
    m.Within t (m.writeTree dir tree) :=
  within_disk (Disk.within_foldl (fun d ⟨path, _⟩ =>
    Disk.place_getD_within (ht.trans (List.prefix_append _ (Disk.Path.steps path))) d) _ _)

theorem fetch_within {cwd : List String} (ht : t <+: cwd) (m : Machine) :
    m.Within t (m.fetch cwd).2 := by
  unfold fetch
  split
  · exact .refl t m
  · split
    · exact .refl t m
    · split
      · exact within_setRepo ht m _
      · exact .refl t m
      · exact .refl t m

theorem detachAt_within {dir : List String} (ht : t <+: dir) (m : Machine) (r : Repo)
    (id target before : String) (force : Bool) :
    m.Within t (m.detachAt dir r id target before force).2 := by
  unfold detachAt
  dsimp only
  split
  · exact .refl t m
  · -- the files that go are removed with the directories they leave empty, then the files that
    -- come are written: all below the work tree
    refine (within_disk ((Disk.within_foldl (fun d p => ?_) _ _).trans
      (Disk.within_foldl (fun d p => ?_) _ _))).trans (within_setRepo ht _ _)
    · have hfull : dir <+: dir ++ Disk.Path.steps p := List.prefix_append _ _
      split
      · exact (Disk.removeTree_within (ht.trans hfull) d).trans
          ((Disk.pruneFrom_within hfull (Nat.le_succ _) _ _ _ (List.dropLast_prefix _)).mono ht)
      · exact .refl t d
    · have hfull : t <+: dir ++ Disk.Path.steps p := ht.trans (List.prefix_append _ _)
      split
      · rename_i bytes _
        cases hplace : (d.removeTree (dir ++ Disk.Path.steps p)).place (dir ++ Disk.Path.steps p)
            (.file bytes) with
        | none => exact .refl t d
        | some d' => exact (Disk.removeTree_within hfull d).trans (Disk.place_within hfull hplace)
      · exact .refl t d

theorem checkoutWord_within {cwd : List String} (ht : t <+: cwd) (m : Machine) (r : Repo)
    (arg : String) : m.Within t (m.checkoutWord cwd r arg).2 := by
  unfold checkoutWord
  dsimp only
  split
  · exact .refl t m
  · exact detachAt_within ht m r _ _ _ _
  all_goals exact .refl t m

theorem checkout_within {cwd : List String} (ht : t <+: cwd) (m : Machine) (args : List String) :
    m.Within t (m.checkout cwd args).2 := by
  unfold checkout
  split
  · exact .refl t m
  · rename_i r _
    -- each end of checkout leaves the machine, or detaches `HEAD` of the work tree in `cwd`
    dsimp only
    repeat' split
    all_goals first
      | exact .refl t m
      | exact checkoutWord_within ht m r _
      | exact detachAt_within ht m r _ _ _ _

/-- A clone changes the machine only below the directory it clones into, and by making the
directories above it. -/
theorem clone_within {cwd : List String} {url destText : String} (m : Machine)
    (hdest : ∀ dest, locateFrom m.disk cwd destText = some dest → t <+: dest) :
    m.Within t (m.clone cwd url destText).2 := by
  unfold clone
  split
  · exact .refl t m
  · exact .refl t m
  · rename_i dest _ hdest'
    have ht := hdest dest hdest'
    -- every refusal leaves the machine; a clone makes its `.git`, records it and writes its files
    split
    · exact .refl t m
    dsimp only
    repeat' split
    all_goals first
      | exact .refl t m
      | exact (makeGitDir_within ht ‹m.makeGitDir dest = some _›).trans
          ((within_setRepo ht _ _).trans (writeTree_within ht _ _))

/-- From a machine whose disk has the name `r0`, nothing changed outside the directory `t`. -/
def WithinOn (r0 : String) (t : List String) (m m' : Machine) : Prop :=
  m.disk.root = r0 → m.Within t m'

instance (r0 : String) (t : List String) : Std.Refl (WithinOn r0 t) :=
  ⟨fun m _ => Within.refl t m⟩

instance (r0 : String) (t : List String) : IsTrans Machine (WithinOn r0 t) :=
  ⟨fun _ _ _ h₁ h₂ hr => (h₁ hr).trans (h₂ ((h₁ hr).1.root_eq.trans hr))⟩

theorem Keeps.within {r0 : String} {α : Type} {x : StateM Machine α} (hx : Keeps (WithinOn r0 t) x)
    {m : Machine} (hm : m.disk.root = r0) : m.Within t (x.run m).2 :=
  hx m hm

end Machine

/-- Where a text leads depends on the disk only through its name. -/
theorem locateFrom_of_root_eq {d d' : Disk} (h : d'.root = d.root) (cwd : List String)
    (text : String) :
    locateFrom d' cwd text = locateFrom d cwd text := by
  unfold locateFrom
  rw [h]

end AdvisoryTrace.Git
