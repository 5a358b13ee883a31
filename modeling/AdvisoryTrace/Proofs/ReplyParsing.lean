import Mathlib
import AdvisoryTrace.Model.Reply
import AdvisoryTrace.Proofs.ChainRoundTrip
import AdvisoryTrace.Proofs.Agreement

/-!
# Reading a model's reply

A reply is read in three steps. Its JSON text is found: the text inside a fenced block when the
trimmed reply is one, else the whole reply, trimmed. That text is decoded as a chain reply, a
list of names and a confidence. The names are then made bare, trimmed and stripped of every
trailing `()`, empty ones are dropped, and the confidence becomes a score of at most 100.

* `Model.isBareOf_iff`: the bare form of a name, said without the code (`Model.IsBareOf`), is
  exactly what `bareName` gives;
* `Model.scoreOf_le`: every confidence gives a score of at most 100;
* `Model.replyBody_fenced`: a reply wrapped in a fenced block, with blanks inside and around the
  fence, has the JSON text of the reply itself, unless the trimmed reply opens like a fence or
  like the `json` tag;
* `Model.replies_read_as_bare_names`: a reply is refused only as the model being unavailable; a
  reply read gives the decoded names made bare, in order and without the empty ones, and a
  score of at most 100; and the fence makes no difference.
-/

namespace AdvisoryTrace.Text

section Trim

theorem dropBlanksRight_append_blanks {l suf : List Char} (h : ∀ c ∈ suf, isBlank c = true) :
    dropBlanksRight (l ++ suf) = dropBlanksRight l := by
  simp only [dropBlanksRight, List.reverse_append]
  rw [List.dropWhile_append_of_pos (by simpa using h)]

theorem dropBlanksRight_of_getLast {l : List Char} (h : ∀ c ∈ l.getLast?, isBlank c = false) :
    dropBlanksRight l = l := by
  rcases List.eq_nil_or_concat l with rfl | ⟨init, c, rfl⟩
  · rfl
  · rw [List.concat_eq_append] at h ⊢
    exact dropBlanksRight_concat (h c (by simp))

theorem dropWhile_of_head {l : List Char} (h : ∀ c ∈ l.head?, isBlank c = false) :
    l.dropWhile isBlank = l := by
  cases l with
  | nil => rfl
  | cons c rest => exact List.dropWhile_cons_of_neg (by simp [h c rfl])

theorem getLast?_dropBlanksRight (l : List Char) :
    ∀ c ∈ (dropBlanksRight l).getLast?, isBlank c = false := by
  rw [dropBlanksRight, List.getLast?_reverse]
  exact head?_dropWhile isBlank l.reverse

/-- Blanks around a text make no difference to its trim, also when the text is blanks only. -/
theorem dropBlanksRight_dropWhile_blanks {pre l suf : List Char}
    (hpre : ∀ c ∈ pre, isBlank c = true) (hsuf : ∀ c ∈ suf, isBlank c = true) :
    dropBlanksRight ((pre ++ l ++ suf).dropWhile isBlank) = dropBlanksRight (l.dropWhile isBlank) := by
  rw [List.append_assoc, List.dropWhile_append_of_pos hpre, List.dropWhile_append]
  split
  · rename_i hl
    rw [List.isEmpty_iff.mp hl, List.dropWhile_eq_nil_iff.mpr hsuf]
  · exact dropBlanksRight_append_blanks hsuf

theorem head?_trim (s : String) : ∀ c ∈ (trim s).toList.head?, isBlank c = false := by
  simp only [trim, String.toList_ofList]
  have htrim := dropBlanksRight_prefix (s.toList.dropWhile isBlank)
  exact head?_of_prefix htrim (head?_dropWhile isBlank s.toList)

theorem getLast?_trim (s : String) : ∀ c ∈ (trim s).toList.getLast?, isBlank c = false := by
  simp only [trim, String.toList_ofList]
  exact getLast?_dropBlanksRight _

/-- A text is its leading blanks, its trim and its trailing blanks. -/
theorem trim_split (s : String) : ∃ pre suf : List Char,
    s.toList = pre ++ (trim s).toList ++ suf ∧ (∀ c ∈ pre, isBlank c = true) ∧
      ∀ c ∈ suf, isBlank c = true := by
  refine ⟨s.toList.takeWhile isBlank, ((s.toList.dropWhile isBlank).reverse.takeWhile isBlank).reverse,
    ?_, fun c hc => List.mem_takeWhile_imp hc,
    fun c hc => List.mem_takeWhile_imp (List.mem_reverse.mp hc)⟩
  have hrest : s.toList.dropWhile isBlank = dropBlanksRight (s.toList.dropWhile isBlank) ++
      ((s.toList.dropWhile isBlank).reverse.takeWhile isBlank).reverse := by
    conv_lhs => rw [← List.reverse_reverse (s.toList.dropWhile isBlank),
      ← @List.takeWhile_append_dropWhile _ isBlank (s.toList.dropWhile isBlank).reverse]
    rw [List.reverse_append]
    rfl
  simp only [trim, String.toList_ofList]
  rw [List.append_assoc, ← hrest, List.takeWhile_append_dropWhile]

/-- The trim keeps a text that starts and ends with no blank. -/
theorem trim_of_ends {s : String} (hhead : ∀ c ∈ s.toList.head?, isBlank c = false)
    (hlast : ∀ c ∈ s.toList.getLast?, isBlank c = false) : trim s = s := by
  apply String.ext
  simp only [trim, String.toList_ofList]
  rw [dropWhile_of_head hhead, dropBlanksRight_of_getLast hlast]

theorem trim_trim (s : String) : trim (trim s) = trim s :=
  trim_of_ends (head?_trim s) (getLast?_trim s)

/-- Blanks around a text make no difference to its trim. -/
theorem trim_blanks_around {a s b : String} (ha : isBlankText a = true) (hb : isBlankText b = true) :
    trim (a ++ s ++ b) = trim s := by
  apply String.ext
  simp only [trim, String.toList_ofList, String.toList_append]
  exact dropBlanksRight_dropWhile_blanks (List.all_eq_true.mp ha) (List.all_eq_true.mp hb)

theorem trimEnd_of_getLast {s : String} (h : ∀ c ∈ s.toList.getLast?, isBlank c = false) :
    trimEnd s = s := by
  apply String.ext
  simp only [trimEnd, String.toList_ofList]
  exact dropBlanksRight_of_getLast h

end Trim

section Strip

theorem stripPrefix?_append (pre rest : String) : stripPrefix? (pre ++ rest) pre = some rest := by
  have hpre : pre.toList.isPrefixOf (pre.toList ++ rest.toList) = true :=
    List.isPrefixOf_iff_prefix.mpr (List.prefix_append _ _)
  rw [stripPrefix?, String.toList_append, if_pos hpre, ← String.length_toList, List.drop_left,
    String.ofList_toList]

theorem stripPrefix?_eq_none {s pre : String} (h : ¬ pre.toList <+: s.toList) :
    stripPrefix? s pre = none := by
  simp [stripPrefix?, List.isPrefixOf_iff_prefix, h]

theorem stripSuffix?_append (rest suf : String) : stripSuffix? (rest ++ suf) suf = some rest := by
  have hsuf : suf.toList.isSuffixOf (rest.toList ++ suf.toList) = true :=
    List.isSuffixOf_iff_suffix.mpr (List.suffix_append _ _)
  have hlen : (rest ++ suf).length - suf.length = rest.toList.length := by
    simp only [← String.length_toList, String.toList_append, List.length_append]
    omega
  rw [stripSuffix?, String.toList_append, if_pos hsuf, hlen, List.take_left, String.ofList_toList]

end Strip

section Suffixes

variable {suffix : List Char}

/-- What is left after removing trailing copies of `suffix`, followed by the copies removed. -/
theorem dropSuffixes_go_append (n : Nat) (cs : List Char) :
    ∃ k, cs = dropSuffixes.go suffix n cs ++ (List.replicate k suffix).flatten := by
  induction n generalizing cs with
  | zero => exact ⟨0, by simp [dropSuffixes.go]⟩
  | succ n ih =>
    simp only [dropSuffixes.go]
    split
    · rename_i h
      obtain ⟨k, hk⟩ := ih (cs.take (cs.length - suffix.length))
      refine ⟨k + 1, ?_⟩
      rw [List.replicate_succ', List.flatten_append, List.flatten_singleton, ← List.append_assoc,
        ← hk]
      exact (List.suffix_iff_eq_append.mp (List.isSuffixOf_iff_suffix.mp h.2)).symm
    · exact ⟨0, by simp⟩

/-- A text that does not end with `suffix`, followed by copies of it, is split one way only. -/
theorem eq_of_append_replicate {r₁ r₂ : List Char} (h₁ : ¬ suffix <:+ r₁) (h₂ : ¬ suffix <:+ r₂) :
    ∀ {k₁ k₂ : Nat}, r₁ ++ (List.replicate k₁ suffix).flatten = r₂ ++ (List.replicate k₂ suffix).flatten →
      r₁ = r₂
  | 0, 0, h => by simpa using h
  | 0, k₂ + 1, h => by
    -- `r₁` would end with a copy
    refine absurd ?_ h₁
    rw [List.replicate_zero, List.flatten_nil, List.append_nil] at h
    rw [h, List.replicate_succ', List.flatten_append, List.flatten_singleton, ← List.append_assoc]
    exact List.suffix_append _ _
  | k₁ + 1, 0, h => by
    refine absurd ?_ h₂
    rw [List.replicate_zero, List.flatten_nil, List.append_nil] at h
    rw [← h, List.replicate_succ', List.flatten_append, List.flatten_singleton, ← List.append_assoc]
    exact List.suffix_append _ _
  | k₁ + 1, k₂ + 1, h => by
    simp only [List.replicate_succ', List.flatten_append, List.flatten_singleton,
      ← List.append_assoc] at h
    exact eq_of_append_replicate h₁ h₂ (List.append_cancel_right h)

theorem dropSuffixes_append_replicate (cs : List Char) :
    ∃ k, cs = dropSuffixes suffix cs ++ (List.replicate k suffix).flatten :=
  dropSuffixes_go_append cs.length cs

end Suffixes

end AdvisoryTrace.Text

namespace AdvisoryTrace.Model

open Text

/-- `name` is `entry` trimmed and stripped of every trailing `()`: the entry is blanks, then
`name` followed by `()` some number of times, then blanks, where that middle part starts and
ends with no blank and `name` does not end with `()`. -/
def IsBareOf (entry name : String) : Prop :=
  ∃ (pre suf : List Char) (k : Nat),
    entry.toList = pre ++ (name.toList ++ (List.replicate k "()".toList).flatten) ++ suf ∧
    (∀ c ∈ pre, isBlank c = true) ∧ (∀ c ∈ suf, isBlank c = true) ∧
    (∀ c ∈ (name.toList ++ (List.replicate k "()".toList).flatten).head?, isBlank c = false) ∧
    (∀ c ∈ (name.toList ++ (List.replicate k "()".toList).flatten).getLast?, isBlank c = false) ∧
    ¬ "()".toList <:+ name.toList

section Names

theorem toList_bareName (entry : String) :
    (bareName entry).toList = dropSuffixes "()".toList (trim entry).toList := by
  simp [bareName, trimEndMatches]

theorem head?_bareName (entry : String) :
    ∀ c ∈ (bareName entry).toList.head?, isBlank c = false := by
  rw [toList_bareName]
  have hname : dropSuffixes "()".toList (trim entry).toList <+: (trim entry).toList :=
    dropSuffixes_go_prefix _ _
  exact head?_of_prefix hname (head?_trim entry)

theorem not_suffix_bareName (entry : String) : ¬ "()".toList <:+ (bareName entry).toList := by
  rw [toList_bareName]
  exact not_suffix_dropSuffixes (by simp) _

theorem isBareOf_bareName (entry : String) : IsBareOf entry (bareName entry) := by
  obtain ⟨pre, suf, hsplit, hpre, hsuf⟩ := trim_split entry
  obtain ⟨k, hk⟩ : ∃ k, (trim entry).toList =
      dropSuffixes "()".toList (trim entry).toList ++ (List.replicate k "()".toList).flatten :=
    dropSuffixes_append_replicate _
  have hmid : (bareName entry).toList ++ (List.replicate k "()".toList).flatten =
      (trim entry).toList := by
    rw [toList_bareName]
    exact hk.symm
  refine ⟨pre, suf, k, by rw [hmid]; exact hsplit, hpre, hsuf, ?_, ?_, not_suffix_bareName entry⟩
  · rw [hmid]
    exact head?_trim entry
  · rw [hmid]
    exact getLast?_trim entry

/-- A bare form of an entry is the one `bareName` gives. -/
theorem IsBareOf.eq_bareName {entry name : String} (h : IsBareOf entry name) :
    name = bareName entry := by
  obtain ⟨pre, suf, k, hsplit, hpre, hsuf, hhead, hlast, hname⟩ := h
  have htrim : (trim entry).toList = name.toList ++ (List.replicate k "()".toList).flatten := by
    simp only [trim, String.toList_ofList]
    rw [hsplit, dropBlanksRight_dropWhile_blanks hpre hsuf, dropWhile_of_head hhead,
      dropBlanksRight_of_getLast hlast]
  obtain ⟨k', hk'⟩ : ∃ k, (trim entry).toList =
      dropSuffixes "()".toList (trim entry).toList ++ (List.replicate k "()".toList).flatten :=
    dropSuffixes_append_replicate _
  apply String.ext
  rw [← toList_bareName, htrim] at hk'
  exact eq_of_append_replicate hname (not_suffix_bareName entry) hk'

theorem isBareOf_iff {entry name : String} : IsBareOf entry name ↔ name = bareName entry :=
  ⟨IsBareOf.eq_bareName, fun h => h ▸ isBareOf_bareName entry⟩

end Names

/-- Every confidence, not-a-number and the infinities included, gives a score of at most
`100`. -/
theorem scoreOf_le (confidence : Float) : scoreOf confidence ≤ 100 := by
  unfold scoreOf
  dsimp only
  exact Double.toUInt8_cut_le _

section Fences

/-- A list whose every character passes a test, followed by one whose first character does,
starts with a character that passes it. -/
theorem head?_append_of_all {P : Char → Prop} {a b : List Char} (ha : ∀ c ∈ a, P c)
    (hb : ∀ c ∈ b.head?, P c) : ∀ c ∈ (a ++ b).head?, P c := by
  cases a with
  | nil => simpa using hb
  | cons x rest => simpa using ha x List.mem_cons_self

/-- A word that a text does not start with is not at the start of the text followed by a
character the word does not hold. -/
theorem not_prefix_append {w t r : List Char} (hw : ¬ w <+: t) (hr : ∀ c ∈ r.head?, c ∉ w) :
    ¬ w <+: t ++ r := by
  intro hwr
  rcases List.prefix_or_prefix_of_prefix hwr (List.prefix_append t r) with h | ⟨u, rfl⟩
  · exact hw h
  · -- the word goes on past the text, with the character after it
    rw [List.prefix_append_right_inj] at hwr
    cases u with
    | nil => exact hw (by simp)
    | cons c u =>
      obtain ⟨v, hv⟩ := hwr
      exact hr c (by simp [← hv]) (by simp)

/-- What a reply whose trimmed form opens like neither a fence nor its tag holds: its trim. -/
theorem replyBody_of_not_fenced {j : String} (hfence : ¬ fence.toList <+: (trim j).toList) :
    replyBody j = trim j := by
  have hjson : ¬ (fence ++ "json").toList <+: (trim j).toList := fun h =>
    hfence ((String.toList_append ▸ List.prefix_append _ _).trans h)
  simp [replyBody, stripPrefix?_eq_none hjson, stripPrefix?_eq_none hfence, trim_trim]

/-- After a fence, text with blanks around it and a closing fence does not open with the `json`
tag, unless the trimmed text does. -/
theorem not_json_prefix {j ws₂ ws₃ : String} (h₂ : isBlankText ws₂ = true)
    (h₃ : isBlankText ws₃ = true) (hjson : ¬ "json".toList <+: (trim j).toList) :
    ¬ "json".toList <+: (ws₂ ++ j ++ ws₃ ++ fence).toList := by
  obtain ⟨pre, suf, hsplit, hpre, hsuf⟩ := trim_split j
  have hws₂ := List.all_eq_true.mp h₂
  have hws₃ := List.all_eq_true.mp h₃
  have hafter : ∀ c ∈ (suf ++ ws₃.toList ++ fence.toList).head?, c ∉ "json".toList := by
    have hnot : ∀ c, (isBlank c = true ∨ c = '\x60') → c ∉ "json".toList := by
      intro c hc hmem
      have hc' : c = 'j' ∨ c = 's' ∨ c = 'o' ∨ c = 'n' := by simpa using hmem
      rcases hc' with rfl | rfl | rfl | rfl <;> simp at hc <;> exact absurd hc (by decide)
    intro c hc
    refine hnot c ?_
    refine head?_append_of_all (P := fun c => isBlank c = true ∨ c = '\x60')
      (fun c hc => ?_) ?_ c hc
    · rcases List.mem_append.mp hc with hc | hc
      · exact .inl (hsuf c hc)
      · exact .inl (hws₃ c hc)
    · intro c hc
      exact .inr (by simpa [fence, eq_comm] using hc)
  rw [String.toList_append, String.toList_append, String.toList_append, hsplit]
  cases hlead : ws₂.toList ++ pre with
  | nil =>
    rw [List.append_eq_nil_iff] at hlead
    rw [hlead.1, hlead.2]
    simp only [List.nil_append, List.append_assoc]
    rw [← List.append_assoc suf]
    exact not_prefix_append hjson (by simpa [List.append_assoc] using hafter)
  | cons c rest =>
    -- the text opens with a blank, and the tag does not
    have hc : isBlank c = true := by
      have hmem : c ∈ ws₂.toList ++ pre := by rw [hlead]; exact List.mem_cons_self
      rcases List.mem_append.mp hmem with hmem | hmem
      · exact hws₂ c hmem
      · exact hpre c hmem
    rintro ⟨t, ht⟩
    have hopen : ws₂.toList ++ (pre ++ (trim j).toList ++ suf) ++ ws₃.toList ++ fence.toList =
        c :: (rest ++ ((trim j).toList ++ suf ++ ws₃.toList ++ fence.toList)) := by
      rw [← List.cons_append, ← hlead]
      simp only [List.append_assoc]
    rw [hopen, show "json".toList = ['j', 's', 'o', 'n'] from rfl, List.cons_append,
      List.cons.injEq] at ht
    rw [← ht.1] at hc
    exact absurd hc (by decide)

/-- A reply wrapped in a fenced block, tagged `json` or not, with blanks inside and around the
fence, has the JSON text the reply itself has, when the trimmed reply opens neither like a fence
nor like the tag. -/
theorem replyBody_fenced {j ws₁ ws₂ ws₃ ws₄ tag : String} (h₁ : isBlankText ws₁ = true)
    (h₂ : isBlankText ws₂ = true) (h₃ : isBlankText ws₃ = true) (h₄ : isBlankText ws₄ = true)
    (htag : tag = fence ++ "json" ∨ tag = fence) (hfence : ¬ fence.toList <+: (trim j).toList)
    (hjson : ¬ "json".toList <+: (trim j).toList) :
    replyBody (ws₁ ++ tag ++ ws₂ ++ j ++ ws₃ ++ fence ++ ws₄) = replyBody j := by
  rw [replyBody_of_not_fenced hfence]
  have htrim : trim (ws₁ ++ tag ++ ws₂ ++ j ++ ws₃ ++ fence ++ ws₄) =
      tag ++ (ws₂ ++ j ++ ws₃ ++ fence) := by
    have hsplit : ws₁ ++ tag ++ ws₂ ++ j ++ ws₃ ++ fence ++ ws₄ =
        ws₁ ++ (tag ++ (ws₂ ++ j ++ ws₃ ++ fence)) ++ ws₄ := by simp only [String.append_assoc]
    rw [hsplit, trim_blanks_around h₁ h₄]
    apply trim_of_ends
    · rcases htag with rfl | rfl <;> simp [fence] <;> decide
    · simp [fence]
      decide
  have hopened : (stripPrefix? (tag ++ (ws₂ ++ j ++ ws₃ ++ fence)) (fence ++ "json")).orElse
      (fun _ => stripPrefix? (tag ++ (ws₂ ++ j ++ ws₃ ++ fence)) fence) =
        some (ws₂ ++ j ++ ws₃ ++ fence) := by
    rcases htag with rfl | rfl
    · rw [stripPrefix?_append]
      rfl
    · rw [stripPrefix?_eq_none, stripPrefix?_append]
      · rfl
      rw [String.toList_append, String.toList_append, List.prefix_append_right_inj]
      exact not_json_prefix h₂ h₃ hjson
  have hclosed : trimEnd (ws₂ ++ j ++ ws₃ ++ fence) = ws₂ ++ j ++ ws₃ ++ fence :=
    trimEnd_of_getLast (by simp [fence]; decide)
  simp only [replyBody, htrim, hopened, Option.bind_some, hclosed, stripSuffix?_append,
    Option.getD_some]
  exact trim_blanks_around h₂ h₃

end Fences

section Replies

theorem parseReply_eq_ok_iff {content : String} {m : ModelChain} :
    parseReply content = .ok m ↔
      ∃ reply, decodeReply (replyBody content) = .ok reply ∧ m = reply.toModelChain := by
  unfold parseReply
  split
  · rename_i f hf
    simp [hf]
  · rename_i reply hr
    simp [hr, eq_comm]

theorem parseReply_error {content : String} {f : Failure} (h : parseReply content = .error f) :
    ∃ message, f = .unavailable message := by
  unfold parseReply at h
  split at h
  · cases h
    exact ⟨_, rfl⟩
  · cases h

/-- The names of a reply read: each decoded name made bare, in order, without the empty ones. -/
theorem functions_toModelChain (reply : ChainReply) :
    List.Forall₂ IsBareOf reply.callChain (reply.callChain.map bareName) ∧
      ∀ name ∈ reply.toModelChain.functions, name ≠ "" ∧
        (∀ c ∈ name.toList.head?, isBlank c = false) ∧ ¬ "()".toList <:+ name.toList := by
  refine ⟨List.forall₂_map_right_iff.mpr (List.forall₂_same.mpr fun e _ => isBareOf_bareName e),
    fun name hname => ?_⟩
  obtain ⟨hmem, hne⟩ := List.mem_filter.mp hname
  obtain ⟨entry, -, rfl⟩ := List.mem_map.mp hmem
  refine ⟨fun h => ?_, head?_bareName entry, not_suffix_bareName entry⟩
  rw [h] at hne
  exact absurd hne (by decide)

end Replies

/-- For every reply text: it is refused only as the model being unavailable, and read exactly
when its JSON text decodes as a chain reply; a reply read gives a score of at most 100 and, as
functions, the decoded names in order, each trimmed and stripped of every trailing `()`, without
the empty ones, so no function is empty, starts with a blank or ends with `()`. Wrapping a reply
in a fenced block, tagged `json` or not, with blanks inside and around the fence, changes
nothing, unless the trimmed reply opens like a fence or like the tag. -/
theorem replies_read_as_bare_names :
    (∀ content f, parseReply content = .error f → ∃ message, f = .unavailable message) ∧
    (∀ content, (∃ m, parseReply content = .ok m) ↔
      ∃ reply, decodeReply (replyBody content) = .ok reply) ∧
    (∀ content m, parseReply content = .ok m → m.score ≤ 100 ∧
      (∃ reply bare, decodeReply (replyBody content) = .ok reply ∧
        List.Forall₂ IsBareOf reply.callChain bare ∧ m.functions = bare.filter (!·.isEmpty)) ∧
      ∀ name ∈ m.functions, name ≠ "" ∧ (∀ c ∈ name.toList.head?, isBlank c = false) ∧
        ¬ "()".toList <:+ name.toList) ∧
    (∀ entry name, IsBareOf entry name ↔ name = bareName entry) ∧
    (∀ j ws₁ ws₂ ws₃ ws₄ tag : String, isBlankText ws₁ = true → isBlankText ws₂ = true →
      isBlankText ws₃ = true → isBlankText ws₄ = true → (tag = fence ++ "json" ∨ tag = fence) →
      ¬ fence.toList <+: (trim j).toList → ¬ "json".toList <+: (trim j).toList →
      parseReply (ws₁ ++ tag ++ ws₂ ++ j ++ ws₃ ++ fence ++ ws₄) = parseReply j) := by
  refine ⟨fun _ _ => parseReply_error, fun content => ?_, fun content m h => ?_,
    fun _ _ => isBareOf_iff, fun j ws₁ ws₂ ws₃ ws₄ tag h₁ h₂ h₃ h₄ htag hfence hjson => ?_⟩
  · constructor
    · rintro ⟨m, h⟩
      obtain ⟨reply, hr, -⟩ := parseReply_eq_ok_iff.mp h
      exact ⟨reply, hr⟩
    · rintro ⟨reply, hr⟩
      exact ⟨_, parseReply_eq_ok_iff.mpr ⟨reply, hr, rfl⟩⟩
  · obtain ⟨reply, hr, rfl⟩ := parseReply_eq_ok_iff.mp h
    obtain ⟨hbare, hnames⟩ := functions_toModelChain reply
    exact ⟨scoreOf_le _, ⟨reply, _, hr, hbare, rfl⟩, hnames⟩
  · unfold parseReply
    rw [replyBody_fenced h₁ h₂ h₃ h₄ htag hfence hjson]

end AdvisoryTrace.Model
