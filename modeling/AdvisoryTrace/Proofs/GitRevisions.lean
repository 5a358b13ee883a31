import AdvisoryTrace.Proofs.GitConfinement

/-!
# Full ids, `HEAD` and the checkout of a commit

What git reads for the revisions the cache gives it, when the commit is named by its full id:

* `Git.FullId`: forty lower-case hexadecimal digits;
* `Git.Repo.lookup_fullId`, `Git.Repo.lookup_peel_commit`: a full id names the commit of that
  id, and peeled with `^{commit}` it names the same commit when the repository has it;
* `Git.Repo.lookup_head`: `HEAD` names the commit `HEAD` stands at;
* `Git.Machine.checkout_fullId`: `git checkout --quiet --detach ID` detaches `HEAD` at the
  commit, or refuses an id the repository lacks.
-/

namespace AdvisoryTrace.Git

/-- The digits of a commit id as git writes them. -/
def lowerHexDigits : List Char :=
  ['0', '1', '2', '3', '4', '5', '6', '7', '8', '9', 'a', 'b', 'c', 'd', 'e', 'f']

/-- A commit id written in full: forty lower-case hexadecimal digits. -/
structure FullId (s : String) : Prop where
  length_eq : s.length = 40
  lowerHex : ∀ ch ∈ s.toList, ch ∈ lowerHexDigits

namespace FullId

variable {s : String} (h : FullId s)
include h

/-- A property of every digit holds of every character of a full id. -/
theorem all {p : Char → Bool} (hp : lowerHexDigits.all p = true) : ∀ ch ∈ s.toList, p ch = true :=
  fun ch hch => List.all_eq_true.mp hp ch (h.lowerHex ch hch)

theorem length_toList : s.toList.length = 40 := by
  rw [String.length_toList]
  exact h.length_eq

theorem isHex : Git.isHex s = true :=
  List.all_eq_true.mpr (h.all (by decide))

theorem toLower_eq : s.toLower = s := by
  rw [String.toLower, ← String.toList_inj, String.toList_map]
  conv => rhs; rw [← List.map_id s.toList]
  exact List.map_congr_left fun ch hch => by simpa using h.all (p := fun c => c.toLower == c) (by decide) ch hch

theorem ne_of_mem {ch c : Char} (hc : lowerHexDigits.all (· != c) = true) (hch : ch ∈ s.toList) :
    ch ≠ c := by
  simpa using h.all hc ch hch

theorem ne_dash : s ≠ "-" := fun he => by
  have := h.length_eq
  rw [he] at this
  cases this

theorem startsWith_dash : s.startsWith "-" = false := by
  rw [String.startsWith_string_eq_false_iff]
  rintro ⟨rest, hrest⟩
  exact h.ne_of_mem (c := '-') (by decide) (hrest ▸ List.mem_cons_self) rfl

theorem ne_dashDash : s ≠ "--" := fun he => by
  have := h.length_eq
  rw [he] at this
  cases this

end FullId

theorem stepSuffix?_eq_none {cs : List Char} (h : ∀ ch ∈ cs, ch ≠ '~' ∧ ch ≠ '^') :
    stepSuffix? cs = none := by
  unfold stepSuffix?
  dsimp only
  split
  · rename_i ch restRev hch
    have hmem : ch ∈ cs := List.mem_reverse.mp (List.mem_of_mem_drop (hch ▸ List.mem_cons_self))
    simp [(h ch hmem).1, (h ch hmem).2]
  · rfl

theorem stepSuffix?_concat (cs : List Char) {x : Char} (hd : x.isDigit = false) (h1 : x ≠ '~')
    (h2 : x ≠ '^') : stepSuffix? (cs ++ [x]) = none := by
  simp [stepSuffix?, hd, h1, h2]

theorem peelSuffix?_eq_none {cs : List Char} (h : cs.getLast? ≠ some '\x7d') :
    peelSuffix? cs = none := by
  simp [peelSuffix?, h]

/-- `^{commit}` at the end of a name is read as peeling what comes before it. -/
theorem peelSuffix?_commit (cs : List Char) :
    peelSuffix? (cs ++ "^\x7bcommit\x7d".toList) = some (cs, "commit".toList) := by
  have hL : "^\x7bcommit\x7d".toList = ['^', '\x7b', 'c', 'o', 'm', 'm', 'i', 't', '\x7d'] := by
    decide +kernel
  have hC : "commit".toList = ['c', 'o', 'm', 'm', 'i', 't'] := by decide +kernel
  rw [hL, hC]
  simp [peelSuffix?, List.range_succ]
  rw [Nat.add_assoc, List.drop_append]
  simp

theorem priorMark?_of_head {cs : List Char} (h : cs.head? ≠ some '@') : priorMark? cs = none := by
  unfold priorMark?
  split
  · simp at h
  · rfl

namespace Repo

theorem substituteMarks_eq_none (r : Repo) (q : Bool) (cs : List Char) :
    ∀ (i : Nat) (rest : List Char), (∀ ch ∈ rest, ch ≠ '@') → r.substituteMarks q cs i rest = .ok none
  | _, [], _ => rfl
  | i, c :: rest, h => by
    rw [substituteMarks, if_pos (by simpa using h c List.mem_cons_self)]
    exact substituteMarks_eq_none r q cs (i + 1) rest fun ch hch => h ch (List.mem_cons_of_mem c hch)

theorem substitute_eq_none (r : Repo) (q : Bool) {s : String} (h : ∀ ch ∈ s.toList, ch ≠ '@') :
    r.substitute q s = .ok none := by
  have hprior : priorMark? s.toList = none := priorMark?_of_head fun hh =>
    h '@' (List.mem_of_mem_head? hh) rfl
  simp only [substitute, hprior]
  exact substituteMarks_eq_none r q _ 0 _ h

theorem dwimRef_head (r : Repo) (q : Bool) {h : String} (hh : r.headId? = some h) :
    r.dwimRef q "HEAD" = .ok (some (r.resolvedName "HEAD", h)) := by
  have hsub : r.substitute q "HEAD" = .ok none :=
    r.substitute_eq_none q (by simp [show "HEAD".toList = ['H', 'E', 'A', 'D'] by decide +kernel])
  simp [dwimRef, hsub, dwimNames, nameValue?, hh]

theorem basic_head (r : Repo) (q : Bool) {h : String} (hh : r.headId? = some h) :
    r.basic q "HEAD".toList = pure (some (r.objectOf h)) := by
  simp only [basic, String.ofList_toList, dwimRef_head r q hh]
  rfl

theorem lookupOne_head (r : Repo) (q : Bool) (fuel : Nat) {h : String} (hh : r.headId? = some h) :
    r.lookupOne q (fuel + 1) "HEAD".toList = pure (some (r.objectOf h)) := by
  have hstep : stepSuffix? "HEAD".toList = none := by decide +kernel
  have hpeel : peelSuffix? "HEAD".toList = none := by decide +kernel
  simp only [lookupOne, hstep, hpeel, basic_head r q hh]
  rfl

/-- `HEAD` names the commit `HEAD` stands at. -/
theorem lookup_head (r : Repo) (worktree : String) (q : Bool) {h : String} (hh : r.headId? = some h) :
    r.lookup worktree q "HEAD" = pure (some (r.objectOf h)) := by
  simp only [lookup, lookupOne_head r q _ hh]
  rfl

theorem basic_fullId (r : Repo) (q : Bool) {s : String} (hs : FullId s) :
    r.basic q s.toList = pure (some (r.objectOf s)) := by
  simp only [basic, String.ofList_toList, hs.length_toList, hs.isHex, hs.toLower_eq]
  rfl

theorem lookupOne_fullId (r : Repo) (q : Bool) {fuel : Nat} (hfuel : fuel ≠ 0) {s : String}
    (hs : FullId s) : r.lookupOne q fuel s.toList = pure (some (r.objectOf s)) := by
  obtain ⟨fuel, rfl⟩ := Nat.exists_eq_succ_of_ne_zero hfuel
  have hstep : stepSuffix? s.toList = none :=
    stepSuffix?_eq_none fun ch hch => ⟨hs.ne_of_mem (by decide) hch, hs.ne_of_mem (by decide) hch⟩
  have hpeel : peelSuffix? s.toList = none := peelSuffix?_eq_none fun hl =>
    hs.ne_of_mem (c := '\x7d') (by decide) (List.mem_of_getLast? hl) rfl
  simp only [lookupOne, hstep, hpeel, basic_fullId r q hs]
  rfl

/-- A full id names the commit of that id, or a missing object. -/
theorem lookup_fullId (r : Repo) (worktree : String) (q : Bool) {s : String} (hs : FullId s) :
    r.lookup worktree q s = pure (some (r.objectOf s)) := by
  simp only [lookup, lookupOne_fullId r q (Nat.succ_ne_zero _) hs]
  rfl

/-- A full id peeled with `^{commit}` names its commit, where the repository has it. -/
theorem lookup_peel_commit (r : Repo) (worktree : String) (q : Bool) {s : String} (hs : FullId s)
    (hc : (r.commit? s).isSome) :
    r.lookup worktree q (s ++ "^\x7bcommit\x7d") = pure (some (.commit s)) := by
  have hstep : stepSuffix? (s.toList ++ "^\x7bcommit\x7d".toList) = none := by
    have hsplit : s.toList ++ "^\x7bcommit\x7d".toList = (s.toList ++ "^\x7bcommit".toList) ++ ['\x7d'] := by
      rw [List.append_assoc]
      rfl
    rw [hsplit]
    exact stepSuffix?_concat _ (by decide) (by decide) (by decide)
  have hobj : r.objectOf s = .commit s := by simp [objectOf, hc]
  have hpeeling : peeling? "commit".toList = some (.toKind .commit) := rfl
  have hfuel : s.toList.length + "^\x7bcommit\x7d".toList.length ≠ 0 := by
    rw [hs.length_toList]
    omega
  simp only [lookup, String.toList_append, List.length_append, lookupOne, hstep, peelSuffix?_commit,
    hpeeling, lookupOne_fullId r q hfuel hs, hobj]
  rfl

end Repo

/-- A text with no `.` holds no `...`. -/
theorem splitAtFirst_eq_none {cs : List Char} (h : '.' ∉ cs) :
    Text.splitAtFirst "...".toList cs = none := by
  induction cs with
  | nil => rfl
  | cons c rest ih =>
    have hc : c ≠ '.' := fun hc => h (hc ▸ List.mem_cons_self)
    have hprefix : "...".toList.isPrefixOf (c :: rest) = false := by
      rw [show "...".toList = ['.', '.', '.'] by decide +kernel]
      simp [List.isPrefixOf, Ne.symm hc]
    rw [Text.splitAtFirst, hprefix, Bool.and_false, if_neg Bool.false_ne_true,
      ih fun hmem => h (List.mem_cons_of_mem c hmem)]
    rfl

theorem Repo.lookupForCheckout_fullId (r : Repo) (worktree : String) {s : String} (hs : FullId s) :
    r.lookupForCheckout worktree s = pure (some (r.objectOf s)) := by
  simp only [Repo.lookupForCheckout, splitAtFirst_eq_none fun hmem => hs.ne_of_mem (c := '.') (by decide) hmem rfl]
  exact r.lookup_fullId worktree false hs

namespace Machine

/-- `git rev-parse HEAD` prints the commit `HEAD` stands at. -/
theorem revParse_head {m : Machine} {cwd : List String} {r : Repo} {h : String} (q : Bool)
    (hr : m.repoAt? cwd = some r) (hh : r.headId? = some h) (hc : (r.commit? h).isSome) :
    m.revParse cwd "HEAD" q = Run.ok (h ++ "\n") := by
  simp only [revParse, hr, Repo.lookup_head r _ q hh, Repo.objectOf, hc, if_true]
  rfl

/-- `git rev-parse ID^{commit}` prints a full id the repository has. -/
theorem revParse_peel_commit {m : Machine} {cwd : List String} {r : Repo} {s : String} (q : Bool)
    (hr : m.repoAt? cwd = some r) (hs : FullId s) (hc : (r.commit? s).isSome) :
    m.revParse cwd (s ++ "^\x7bcommit\x7d") q = Run.ok (s ++ "\n") := by
  simp only [revParse, hr, Repo.lookup_peel_commit r _ q hs hc]
  rfl

/-- A successful `rev-parse` ran in a repository. -/
theorem repoAt?_of_revParse {m : Machine} {cwd : List String} {rev : String} {q : Bool}
    (h : (m.revParse cwd rev q).code = 0) : (m.repoAt? cwd).isSome := by
  unfold revParse at h
  split at h
  · cases h
  · rename_i r hr
    rw [hr]
    rfl

end Machine

namespace Options

/-- A long switch, given by its whole name, is read as given, whatever follows it. -/
theorem read_long_switch {specs : List Spec} {heads : List String} {keep : Bool} (fuel : Nat)
    {arg : String} {s : Spec} (rest : List String) (given : List Given) (words : List String)
    (hdash : arg.startsWith "--" = true) (hnot : (arg == "--") = false)
    (hhelp : ((arg.drop 2).toString == "help-all") = false ∧ ((arg.drop 2).toString == "help") = false)
    (hfound : matchLong (arg.drop 2).toString.toList specs none none = .found s false none)
    (hswitch : s.takes = .nothing) :
    read specs heads keep (fuel + 1) (arg :: rest) given words =
      read specs heads keep fuel rest (given ++ [⟨s.key, false, none⟩]) words := by
  have hone : arg.startsWith "-" = true := by
    rw [String.startsWith_string_iff] at hdash ⊢
    obtain ⟨t, ht⟩ := hdash
    exact ⟨'-' :: t, by rw [← ht]; rfl⟩
  have hsingle : (arg == "-") = false := by
    rw [beq_eq_false_iff_ne]
    rintro rfl
    revert hdash
    decide +kernel
  have hget : getValue s false false none rest = .ok (⟨s.key, false, none⟩, rest) := by
    unfold getValue
    rw [hswitch]
    rfl
  rw [read]
  simp only [hnot, hone, hsingle, hdash, hhelp, hfound, hget, Bool.false_eq_true, if_false, Bool.not_true,
    Bool.false_or, if_true]

end Options

namespace Machine

/-- `checkout --quiet --detach REV` is read as two switches and the revision. -/
theorem readAll_checkout {rev : String} (h : rev.startsWith "-" = false) :
    Options.readAll Commands.checkoutSpecs Commands.checkoutHeads true ["--quiet", "--detach", rev] =
      .read [⟨"quiet", false, none⟩, ⟨"detach", false, none⟩] [rev] := by
  unfold Options.readAll
  rw [show ["--quiet", "--detach", rev].length + 1 = 3 + 1 from rfl,
    Options.read_long_switch _ _ _ _ (by decide +kernel) (by decide +kernel) (by decide +kernel) rfl rfl,
    Options.read_long_switch _ _ _ _ (by decide +kernel) (by decide +kernel) (by decide +kernel) rfl rfl,
    Options.read_word _ _ _ _ _ _ _ h]
  rfl

/-- `git checkout --quiet --detach ID` in a repository: `HEAD` is detached at the commit of a
full id the repository has; an id it lacks names no tree. -/
theorem checkout_fullId {m : Machine} {cwd : List String} {r : Repo} {s : String}
    (hr : m.repoAt? cwd = some r) (hs : FullId s) :
    m.checkout cwd ["--quiet", "--detach", s] =
      if (r.commit? s).isSome then m.detachAt cwd r s s ""
      else (⟨128, "", "fatal: reference is not a tree: " ++ s ++ "\n"⟩, m) := by
  have hsub : r.substitute false s = .ok none :=
    r.substitute_eq_none false fun ch hch => hs.ne_of_mem (by decide) hch
  have hhead : (([s] : List String).head? == some "--") = false := by
    simp [hs.ne_dashDash]
  simp only [checkout, hr, readAll_checkout hs.startsWith_dash, hhead, Bool.false_eq_true, if_false]
  have hrefusal : checkoutRefusal r [⟨"quiet", false, none⟩, ⟨"detach", false, none⟩] [s] = none := rfl
  simp only [hrefusal, checkoutWord, beq_false_of_ne hs.ne_dash, Bool.false_eq_true, if_false,
    Repo.lookupForCheckout_fullId r _ hs]
  by_cases hc : (r.commit? s).isSome
  · simp only [Repo.objectOf, hc, if_true]
    simp [hsub]
    rfl
  · simp only [Repo.objectOf, hc, if_false, Bool.false_eq_true]
    rfl

end Machine

end AdvisoryTrace.Git
