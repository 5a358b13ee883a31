import Mathlib
import AdvisoryTrace.Chain.Basic
import AdvisoryTrace.Text.Identifier

/-!
# Reading a chain back from its text

A step's line is read back as the step exactly when its name survives the reading
(`Chain.Readable`): the name holds no line feed, which would cut its line in two; it does not
start with a blank, which the trim drops (and a leading space would be counted as indent); and
it does not end with `()`, since the reading strips every trailing `()`. Main statements:

* `Chain.ofLine_line`: a readable name's line reads back as its step;
* `Chain.readable_ofRendered`: every name read from any text is readable;
* `Chain.round_trip_iff_readable`: a chain is read back from its text exactly when all its names are
  readable, so reading a text, writing it and reading it again gives what the first reading
  gave, and a chain of Rust identifiers is always read back.
-/

namespace AdvisoryTrace

namespace Text

section Lines

theorem linesFrom_append {l : List Char} (hl : '\n' ∉ l) (rest acc : List Char) :
    linesFrom (l ++ rest) acc = linesFrom rest (l.reverse ++ acc) := by
  induction l generalizing acc with
  | nil => rfl
  | cons c l ih =>
    have hc : c ≠ '\n' := fun h => hl (h ▸ List.mem_cons_self)
    simp [linesFrom, ih (fun h => hl (List.mem_cons_of_mem c h))]

theorem lineBody_of_getLast {l : List Char} (h : l.getLast? ≠ some '\r') : lineBody l = l := by
  unfold lineBody
  split
  · rename_i rest hrev
    exact absurd (by rw [← List.head?_reverse, hrev]; rfl) h
  · rfl

theorem mem_of_mem_lineBody {l : List Char} {x : Char} (hx : x ∈ lineBody l) : x ∈ l := by
  unfold lineBody at hx
  split at hx
  · rename_i rest hrev
    rw [← List.reverse_reverse l, hrev]
    simp_all
  · exact hx

/-- Lines given one after another with line feeds between them are read back as they were,
when none is empty, holds a line feed or ends with a carriage return. -/
theorem linesFrom_intercalate {ls : List (List Char)} (hne : ∀ l ∈ ls, l ≠ [])
    (hnl : ∀ l ∈ ls, '\n' ∉ l) (hcr : ∀ l ∈ ls, lineBody l = l) :
    linesFrom (['\n'].intercalate ls) [] = ls := by
  induction ls with
  | nil => rfl
  | cons l ls ih =>
    have hl := hnl l List.mem_cons_self
    cases ls with
    | nil =>
      have h := linesFrom_append hl [] []
      rw [List.append_nil, List.append_nil] at h
      simp [h, linesFrom, hne l List.mem_cons_self]
    | cons l' ls =>
      rw [List.intercalate_cons_cons, List.append_assoc, linesFrom_append hl]
      simp only [List.singleton_append, linesFrom, List.append_nil, List.reverse_reverse,
        hcr l List.mem_cons_self]
      rw [ih (fun x hx => hne x (List.mem_cons_of_mem l hx))
        (fun x hx => hnl x (List.mem_cons_of_mem l hx))
        (fun x hx => hcr x (List.mem_cons_of_mem l hx))]

/-- No line read from a text holds a line feed. -/
theorem not_mem_of_mem_linesFrom {cs acc : List Char} (ha : '\n' ∉ acc) {l : List Char}
    (hl : l ∈ linesFrom cs acc) : '\n' ∉ l := by
  fun_induction linesFrom cs acc with
  | case1 => cases hl
  | case2 acc _ =>
    obtain rfl := List.mem_singleton.mp hl
    simpa using ha
  | case3 rest acc ih =>
    rcases List.mem_cons.mp hl with rfl | hl
    · exact fun h => ha (by simpa using mem_of_mem_lineBody h)
    · exact ih (List.not_mem_nil) hl
  | case4 c rest acc hc ih =>
    exact ih (by simp [ha, Ne.symm hc]) hl

end Lines

section Trim

theorem head?_dropWhile {α : Type} (p : α → Bool) (l : List α) :
    ∀ c ∈ (l.dropWhile p).head?, p c = false := by
  induction l with
  | nil => simp
  | cons a l ih =>
    by_cases ha : p a
    · simpa [List.dropWhile_cons_of_pos ha] using ih
    · simp [List.dropWhile_cons_of_neg ha, ha]

theorem head?_of_prefix {α : Type} {P : α → Prop} {m l : List α} (hm : m <+: l)
    (hl : ∀ c ∈ l.head?, P c) : ∀ c ∈ m.head?, P c := by
  obtain ⟨t, rfl⟩ := hm
  cases m with
  | nil => simp
  | cons a m => simpa using hl

theorem dropBlanksRight_prefix (l : List Char) : dropBlanksRight l <+: l := by
  have h := List.reverse_prefix.mpr (List.dropWhile_suffix isBlank (l := l.reverse))
  rwa [List.reverse_reverse] at h

theorem dropBlanksRight_concat {l : List Char} {c : Char} (hc : isBlank c = false) :
    dropBlanksRight (l ++ [c]) = l ++ [c] := by
  simp [dropBlanksRight, hc]

theorem dropWhile_blank_spaces (k : Nat) (l : List Char) :
    (List.replicate k ' ' ++ l).dropWhile isBlank = l.dropWhile isBlank := by
  induction k with
  | zero => rfl
  | succ k ih => rw [List.replicate_succ, List.cons_append, List.dropWhile_cons_of_pos rfl, ih]

end Trim

section Suffixes

variable {suffix : List Char}

theorem dropSuffixes_go_prefix (n : Nat) (cs : List Char) : dropSuffixes.go suffix n cs <+: cs := by
  induction n generalizing cs with
  | zero => exact List.prefix_refl cs
  | succ n ih =>
    simp only [dropSuffixes.go]
    split
    · exact (ih _).trans (List.take_prefix _ cs)
    · exact List.prefix_refl cs

/-- With a step of fuel for every character, no trailing `suffix` is left. -/
theorem not_suffix_dropSuffixes_go (hs : suffix ≠ []) {n : Nat} {cs : List Char}
    (hn : cs.length ≤ n) : ¬ suffix <:+ dropSuffixes.go suffix n cs := by
  induction n generalizing cs with
  | zero =>
    obtain rfl : cs = [] := List.eq_nil_of_length_eq_zero (by omega)
    exact fun h => hs (List.eq_nil_of_suffix_nil h)
  | succ n ih =>
    simp only [dropSuffixes.go]
    split
    · rename_i h
      have hlen : 0 < suffix.length := List.length_pos_iff.mpr hs
      exact ih (by simp only [List.length_take]; omega)
    · rename_i h
      exact fun hsuf => h ⟨hs, List.isSuffixOf_iff_suffix.mpr hsuf⟩

theorem dropSuffixes_go_of_not_suffix {cs : List Char} (h : ¬ suffix <:+ cs) (n : Nat) :
    dropSuffixes.go suffix n cs = cs := by
  cases n with
  | zero => rfl
  | succ n =>
    simp only [dropSuffixes.go]
    rw [if_neg fun h' => h (List.isSuffixOf_iff_suffix.mp h'.2)]

theorem not_suffix_dropSuffixes (hs : suffix ≠ []) (cs : List Char) :
    ¬ suffix <:+ dropSuffixes suffix cs :=
  not_suffix_dropSuffixes_go hs le_rfl

/-- One trailing `suffix` after a text that does not end with it is all that is removed. -/
theorem dropSuffixes_append (hs : suffix ≠ []) {l : List Char} (h : ¬ suffix <:+ l) :
    dropSuffixes suffix (l ++ suffix) = l := by
  obtain ⟨n, hn⟩ : ∃ n, (l ++ suffix).length = n + 1 :=
    ⟨l.length + suffix.length - 1, by simp; have := List.length_pos_iff.mpr hs; omega⟩
  simp only [dropSuffixes, hn, dropSuffixes.go]
  rw [if_pos ⟨hs, List.isSuffixOf_iff_suffix.mpr (List.suffix_append l suffix)⟩]
  have htake : (l ++ suffix).take ((l ++ suffix).length - suffix.length) = l := by simp
  rw [← hn, htake, dropSuffixes_go_of_not_suffix h]

end Suffixes

end Text

namespace Chain

open Text

/-- A name that its line gives back: it holds no line feed, does not start with a blank, and
does not end with `()`. -/
def Readable (name : String) : Prop :=
  '\n' ∉ name.toList ∧ (∀ c ∈ name.toList.head?, isBlank c = false) ∧
    ¬ "()".toList <:+ name.toList

theorem toList_line (s : Step) :
    (Step.line s).toList = List.replicate (2 * s.depth) ' ' ++ (s.function.toList ++ ['(', ')']) := by
  simp [Step.line]

theorem toList_ofLine_function (l : String) :
    (Step.ofLine l).function.toList =
      dropSuffixes ['(', ')'] (dropBlanksRight (l.toList.dropWhile isBlank)) := by
  simp [Step.ofLine, trimEndMatches, trim]

/-- A readable name's line reads back as its step. -/
theorem ofLine_line {s : Step} (hs : Readable s.function) : Step.ofLine (Step.line s) = s := by
  obtain ⟨-, hhead, hsuf⟩ := hs
  have hfirst : ∀ c ∈ (s.function.toList ++ ['(', ')']).head?, isBlank c = false := by
    cases h : s.function.toList with
    | nil => simp; decide
    | cons c cs => simpa [h] using hhead
  have htrim : dropBlanksRight (((Step.line s).toList).dropWhile isBlank) = s.function.toList ++ ['(', ')'] := by
    have hsplit : s.function.toList ++ ['(', ')'] = (s.function.toList ++ ['(']) ++ [')'] := by simp
    rw [toList_line, dropWhile_blank_spaces, List.dropWhile_eq_self_iff.mpr ?_, hsplit,
      dropBlanksRight_concat rfl]
    cases h : s.function.toList ++ ['(', ')'] with
    | nil => simp at h
    | cons c cs => simpa [h] using hfirst
  have hname : (Step.ofLine (Step.line s)).function = s.function := by
    apply String.ext
    rw [toList_ofLine_function, htrim]
    exact dropSuffixes_append (by simp) hsuf
  have hindent : ((Step.line s).toList.takeWhile (· == ' ')).length = 2 * s.depth := by
    rw [toList_line, List.takeWhile_append_of_pos (by simp)]
    have hnil : (s.function.toList ++ ['(', ')']).takeWhile (· == ' ') = [] := by
      cases h : s.function.toList ++ ['(', ')'] with
      | nil => rfl
      | cons c cs =>
        have hc : isBlank c = false := by simpa [h] using hfirst
        have hne : c ≠ ' ' := fun hc' => by rw [hc'] at hc; cases hc
        simp [hne]
    simp [hnil]
  cases s with
  | mk function depth =>
    simp only [Step.ofLine, Step.mk.injEq]
    refine ⟨hname, ?_⟩
    simp only at hindent
    rw [hindent]
    omega

/-- Every name read from a line without a line feed is readable. -/
theorem readable_ofLine {l : String} (hl : '\n' ∉ l.toList) : Readable (Step.ofLine l).function := by
  rw [Readable, toList_ofLine_function]
  -- the name is a prefix of the trimmed line, which is a prefix of a suffix of the line
  have htrim := dropBlanksRight_prefix (l.toList.dropWhile isBlank)
  have hname : dropSuffixes ['(', ')'] (dropBlanksRight (l.toList.dropWhile isBlank)) <+:
      dropBlanksRight (l.toList.dropWhile isBlank) :=
    dropSuffixes_go_prefix _ _
  refine ⟨fun h => hl ?_, ?_, not_suffix_dropSuffixes (by simp) _⟩
  · exact (List.dropWhile_suffix isBlank).subset (htrim.subset (hname.subset h))
  · exact head?_of_prefix (hname.trans htrim) (head?_dropWhile isBlank l.toList)

/-- Lines of names without line feeds are the lines of the text. -/
theorem lines_render (c : Chain) (h : ∀ s ∈ c.steps, '\n' ∉ s.function.toList) :
    Text.lines c.render = c.steps.map Step.line := by
  have hlines : linesFrom c.render.toList [] = c.steps.map fun s => (Step.line s).toList := by
    rw [render, String.toList_intercalate, List.map_map]
    apply linesFrom_intercalate
    · simp [toList_line]
    · intro l hl
      obtain ⟨s, hs, rfl⟩ := List.mem_map.mp hl
      simp [toList_line, h s hs]
    · intro l hl
      obtain ⟨s, -, rfl⟩ := List.mem_map.mp hl
      apply lineBody_of_getLast
      simp [toList_line]
  simp [Text.lines, hlines]

/-- A chain whose names are all readable is read back from its text. -/
theorem ofRendered_render (c : Chain) (h : ∀ s ∈ c.steps, Readable s.function) :
    ofRendered c.render = c := by
  have hblank : ∀ s ∈ c.steps, (!isBlankText (Step.line s)) = true := fun s _ => by
    have hmem : ')' ∈ (Step.line s).toList := by simp [toList_line]
    have hnot : ¬ (Step.line s).toList.all isBlank = true := fun hall =>
      absurd (List.all_eq_true.mp hall ')' hmem) (by decide)
    simpa [isBlankText] using hnot
  have hmap : c.steps.map (Step.ofLine ∘ Step.line) = c.steps :=
    (List.map_congr_left fun s hs => ofLine_line (h s hs)).trans (List.map_id _)
  rw [ofRendered, lines_render c (fun s hs => (h s hs).1), List.filter_map,
    List.filter_eq_self.mpr fun s hs => by simpa using hblank s hs, List.map_map, hmap]

/-- Every name read from any text is readable. -/
theorem readable_ofRendered (t : String) : ∀ s ∈ (ofRendered t).steps, Readable s.function := by
  intro s hs
  obtain ⟨l, hl, rfl⟩ := List.mem_map.mp hs
  obtain ⟨cs, hcs, rfl⟩ := List.mem_map.mp (List.mem_filter.mp hl).1
  exact readable_ofLine (by simpa using not_mem_of_mem_linesFrom List.not_mem_nil hcs)

section Identifiers

/-- A Rust identifier, raw (`r#name`) or not: a character that may start one, then characters
that may continue one. -/
def IsIdentifier (name : String) : Prop :=
  ∃ c cs, (name.toList = c :: cs ∨ name.toList = 'r' :: '#' :: c :: cs) ∧
    isIdentStart c = true ∧ ∀ d ∈ cs, isIdentContinue d = true

/-- No blank starts an identifier. -/
theorem isIdentStart_of_isBlank {c : Char} (h : isBlank c = true) : isIdentStart c = false := by
  -- the blanks are twenty-five code points, and none of them starts an identifier
  have hcode : c.toNat ∈ List.range' 9 5 ++ [0x20, 0x85, 0xA0, 0x1680] ++ List.range' 0x2000 11 ++
      [0x2028, 0x2029, 0x202F, 0x205F, 0x3000] := by
    simp only [isBlank, Bool.or_eq_true, Bool.and_eq_true, decide_eq_true_eq, beq_iff_eq] at h
    simp only [List.mem_append, List.mem_range'_1, List.mem_cons, List.not_mem_nil]
    omega
  have hall : ((List.range' 9 5 ++ [0x20, 0x85, 0xA0, 0x1680] ++ List.range' 0x2000 11 ++
      [0x2028, 0x2029, 0x202F, 0x205F, 0x3000]).all fun n => !isIdentStart (Char.ofNat n)) = true := by
    decide +kernel
  have hc := List.all_eq_true.mp hall _ hcode
  rw [Char.ofNat_toNat] at hc
  simpa using hc

/-- Every Rust identifier is a readable name. -/
theorem readable_of_isIdentifier {name : String} (h : IsIdentifier name) : Readable name := by
  obtain ⟨c, cs, hname, hc, hcs⟩ := h
  have hchars : ∀ d ∈ c :: cs, d ≠ '\n' ∧ d ≠ ')' := by
    intro d hd
    rcases List.mem_cons.mp hd with rfl | hd
    · exact ⟨fun h => by subst h; exact absurd hc (by decide),
        fun h => by subst h; exact absurd hc (by decide)⟩
    · have hd' := hcs d hd
      exact ⟨fun h => by subst h; exact absurd hd' (by decide),
        fun h => by subst h; exact absurd hd' (by decide)⟩
  have hlast : name.toList.getLast? = (c :: cs).getLast? := by
    rcases hname with hname | hname <;> simp [hname]
  refine ⟨fun hmem => ?_, fun d hd => ?_, fun hsuf => ?_⟩
  · rcases hname with hname | hname <;> rw [hname] at hmem
    · exact (hchars _ hmem).1 rfl
    · simp only [List.mem_cons] at hmem
      rcases hmem with h | h | h
      · cases h
      · cases h
      · exact (hchars _ (List.mem_cons.mpr h)).1 rfl
  · -- the name starts with a character that starts an identifier, or with the `r` of `r#`
    rcases hname with hname | hname <;> rw [hname] at hd <;> simp only [List.head?_cons,
      Option.mem_def, Option.some.injEq] at hd <;> subst hd
    · cases hb : isBlank c
      · rfl
      · rw [isIdentStart_of_isBlank hb] at hc
        cases hc
    · decide
  · -- the name would end with `)`, which no identifier character is
    obtain ⟨t, ht⟩ := hsuf
    have hend : name.toList.getLast? = some ')' := by rw [← ht]; simp
    rw [hlast] at hend
    exact (hchars _ (List.mem_of_getLast? hend)).2 rfl

end Identifiers

/-- A chain is read back from its text exactly when every name is readable. So reading a text,
writing what was read and reading that gives what the first reading gave, and every chain of
Rust identifiers is read back. -/
theorem round_trip_iff_readable :
    (∀ c : Chain, ofRendered c.render = c ↔ ∀ s ∈ c.steps, Readable s.function) ∧
    (∀ t : String, ofRendered (ofRendered t).render = ofRendered t) ∧
    (∀ c : Chain, (∀ s ∈ c.steps, IsIdentifier s.function) → ofRendered c.render = c) := by
  refine ⟨fun c => ⟨fun h => ?_, ofRendered_render c⟩, fun t => ?_, fun c h => ?_⟩
  · rw [← h]
    exact readable_ofRendered c.render
  · exact ofRendered_render _ (readable_ofRendered t)
  · exact ofRendered_render c fun s hs => readable_of_isIdentifier (h s hs)

end Chain

end AdvisoryTrace
