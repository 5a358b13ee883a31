import Mathlib
import AdvisoryTrace.Source.CallGraph

/-!
# The nesting scan reads delimiters as the lexer does

`maxNesting` scans bytes, passing over comments and literals by a few byte rules. This module
states what it is meant to find, on text split into lexemes (`Nesting.Lexeme`): delimiters,
identifier words and lifetimes (also raw ones, `r#name` and `'r#name`), other punctuation and
blanks, line and nested block comments, quoted strings with escapes (also with a `b` or `c`
before them), raw strings with any number of `#` (also after `b`), and character literals of one
byte or an escape. Lexemes follow one another as the lexer splits text (`Nesting.Lexed`): nothing
joins an identifier or a lifetime (a character beyond ASCII, such as a blank of Unicode, may follow
one), a lone `/` is not followed by `/` or `*`, and a line comment ends at a line feed.

On such text the scan reads each lexeme whole (`Nesting.run_lexeme`), so it finds exactly the
deepest nesting of the delimiter lexemes (`Nesting.deepest`). The rules are about bytes, and
two literals of Rust fall outside them: a character literal of a character beyond ASCII has
more than one byte between its quotes, which the scan takes for a lifetime, and a raw C string
`cr"…"` is read as a quoted string with escapes.

* `Nesting.scan_fuel`: any fuel above the number of bytes gives the same result, so the scan
  ends by reaching the end of its text;
* `maxNesting_reads_delimiters`: the scan of any source ends at the end of its text, and on
  lexed text it finds the deepest nesting of the delimiters, so a source that a graph accepts
  nests them at most `nestingLimit` deep.
-/

namespace AdvisoryTrace.Source

namespace Nesting

/-! ### Every step takes at least one byte -/

theorem lineRest_suffix (l : List UInt8) : lineRest l <:+ l := by
  fun_induction lineRest l with
  | case1 => exact List.suffix_refl _
  | case2 rest => exact List.suffix_refl _
  | case3 b rest _ ih => exact ih.trans (List.suffix_cons b rest)

theorem blockRest_suffix (n : Nat) (l : List UInt8) : blockRest n l <:+ l := by
  fun_induction blockRest n l with
  | case1 => exact List.suffix_refl _
  | case2 => exact List.suffix_refl _
  | case3 n rest ih => exact ih.trans ((List.suffix_cons _ _).trans (List.suffix_cons _ _))
  | case4 n rest ih => exact ih.trans ((List.suffix_cons _ _).trans (List.suffix_cons _ _))
  | case5 n b rest _ _ ih => exact ih.trans (List.suffix_cons b rest)

theorem quotedRest_suffix (l : List UInt8) : quotedRest l <:+ l := by
  fun_induction quotedRest l with
  | case1 => exact List.suffix_refl _
  | case2 rest => exact List.suffix_cons _ _
  | case3 c rest ih => exact ih.trans ((List.suffix_cons _ _).trans (List.suffix_cons _ _))
  | case4 => exact List.nil_suffix
  | case5 b rest _ _ _ ih => exact ih.trans (List.suffix_cons b rest)

theorem rawRest_suffix (hashes : Nat) (l : List UInt8) : rawRest hashes l <:+ l := by
  fun_induction rawRest hashes l with
  | case1 => exact List.suffix_refl _
  | case2 rest _ => exact (List.drop_suffix _ _).trans (List.suffix_cons _ _)
  | case3 rest _ ih => exact ih.trans (List.suffix_cons _ _)
  | case4 b rest _ ih => exact ih.trans (List.suffix_cons b rest)

theorem charRest_suffix (l : List UInt8) : charRest l <:+ l := by
  fun_induction charRest l with
  | case1 => exact List.suffix_refl _
  | case2 rest => exact List.suffix_cons _ _
  | case3 b rest _ ih => exact ih.trans (List.suffix_cons b rest)

/-- A step leaves a suffix of the bytes after its byte. -/
theorem step_rest_suffix (b : UInt8) (rest : List UInt8) (wordBefore : Bool) (depth deepest : Nat) :
    (step b rest wordBefore depth deepest).rest <:+ rest := by
  fun_cases step b rest wordBefore depth deepest with
  | case1 | case2 | case9 | case10 => exact List.suffix_refl _
  | case3 => exact lineRest_suffix rest
  | case4 => exact (blockRest_suffix 1 _).trans (List.drop_suffix 1 rest)
  | case5 => exact (rawRest_suffix _ _).trans (List.drop_suffix _ rest)
  | case6 => exact quotedRest_suffix rest
  | case7 => exact (charRest_suffix _).trans (List.drop_suffix 2 rest)
  | case8 => exact List.drop_suffix 2 rest

/-- Fuel beyond the number of bytes left never runs out: the scan ends at the end of its
text, whatever fuel above that it is given. -/
theorem scan_fuel {f₁ f₂ : Nat} {s : State} (h₁ : s.rest.length < f₁) (h₂ : s.rest.length < f₂) :
    scan f₁ s = scan f₂ s := by
  induction f₁ generalizing f₂ s with
  | zero => omega
  | succ k ih =>
    obtain ⟨rest, wordBefore, depth, deepest⟩ := s
    obtain _ | j := f₂
    · omega
    cases rest with
    | nil => rfl
    | cons b rest =>
      -- the step leaves at most the bytes after `b`, fewer than either fuel
      have hle := (step_rest_suffix b rest wordBefore depth deepest).length_le
      simp only [List.length_cons] at h₁ h₂
      exact ih (by omega) (by omega)

/-- The scan with the fuel its bytes need. -/
def run (s : State) : Nat := scan (s.rest.length + 1) s

theorem run_nil (wordBefore : Bool) (depth deepest : Nat) :
    run ⟨[], wordBefore, depth, deepest⟩ = deepest := rfl

theorem run_cons (b : UInt8) (rest : List UInt8) (wordBefore : Bool) (depth deepest : Nat) :
    run ⟨b :: rest, wordBefore, depth, deepest⟩ = run (step b rest wordBefore depth deepest) := by
  have hle := (step_rest_suffix b rest wordBefore depth deepest).length_le
  show scan (rest.length + 1) (step b rest wordBefore depth deepest) = run _
  exact scan_fuel (by omega) (by omega)

/-! ### What a step does at each kind of byte -/

/-- A byte that may stand in an identifier: an ASCII letter, digit or underscore, or a byte of
a character beyond ASCII. -/
def isIdentByte (b : UInt8) : Bool := isWordByte b || 128 ≤ b

/-- A byte of punctuation or blank space that stands alone: ASCII, not in an identifier, and
not a delimiter or a quote. -/
def isPlainByte (b : UInt8) : Bool :=
  b < 128 && !isWordByte b && !([40, 41, 91, 93, 123, 125, 34, 39] : List UInt8).contains b

/-- A byte that starts nothing when the scan meets it: no delimiter and no quote. -/
structure Inert (b : UInt8) : Prop where
  opening : b ≠ 40 ∧ b ≠ 91 ∧ b ≠ 123
  closing : b ≠ 41 ∧ b ≠ 93 ∧ b ≠ 125
  quote : b ≠ 34 ∧ b ≠ 39

/-- An identifier byte starts nothing, and it is no `/`, `#` or backslash. -/
theorem inert_of_isIdentByte {b : UInt8} (h : isIdentByte b = true) :
    Inert b ∧ b ≠ 47 ∧ b ≠ 35 ∧ b ≠ 92 := by
  simp only [isIdentByte, isWordByte] at h
  simp [UInt8.ext_iff, UInt8.le_iff_toNat_le] at h
  refine ⟨⟨⟨?_, ?_, ?_⟩, ⟨?_, ?_, ?_⟩, ?_, ?_⟩, ?_, ?_, ?_⟩ <;> simp [UInt8.ext_iff] <;> omega

/-- A plain byte starts nothing, and it is no word byte, so no `r`. -/
theorem inert_of_isPlainByte {b : UInt8} (h : isPlainByte b = true) :
    Inert b ∧ b ≠ 114 ∧ isWordByte b = false := by
  simp only [isPlainByte, isWordByte] at h ⊢
  simp [UInt8.ext_iff, UInt8.le_iff_toNat_le, UInt8.lt_iff_toNat_lt] at h
  refine ⟨⟨⟨?_, ?_, ?_⟩, ⟨?_, ?_, ?_⟩, ?_, ?_⟩, ?_, ?_⟩ <;>
    simp [UInt8.ext_iff, UInt8.le_iff_toNat_le] <;> omega

/-- Any byte that opens nothing: it is passed alone, and it joins an identifier after it when it
is a word byte other than `b`. -/
theorem step_other {b : UInt8} {rest : List UInt8} {wordBefore : Bool} (depth deepest : Nat)
    (hb : Inert b) (hslash : b = 47 → rest.head? ≠ some 47 ∧ rest.head? ≠ some 42)
    (hraw : b = 114 → wordBefore = false → opensRaw rest = false) :
    step b rest wordBefore depth deepest = ⟨rest, isWordByte b && b != 98, depth, deepest⟩ := by
  obtain ⟨⟨h40, h91, h123⟩, ⟨h41, h93, h125⟩, h34, h39⟩ := hb
  unfold step
  rw [if_neg (by simp [h40, h91, h123]), if_neg (by simp [h41, h93, h125])]
  rw [if_neg, if_neg, if_neg, if_neg (by simpa using h34), if_neg (by simpa using h39)]
  · intro h
    simp only [Bool.and_eq_true, beq_iff_eq, Bool.not_eq_true'] at h
    obtain ⟨⟨rfl, hw⟩, hopen⟩ := h
    simp [hraw rfl hw] at hopen
  · intro h
    simp only [Bool.and_eq_true, beq_iff_eq] at h
    exact (hslash h.1).2 h.2
  · intro h
    simp only [Bool.and_eq_true, beq_iff_eq] at h
    exact (hslash h.1).1 h.2

/-- A kind of delimiter. -/
inductive Delim where
  | paren
  | bracket
  | brace
  deriving DecidableEq, Repr

/-- The byte that opens a delimiter. -/
def Delim.opening : Delim → UInt8
  | .paren => 40
  | .bracket => 91
  | .brace => 123

/-- The byte that closes a delimiter. -/
def Delim.closing : Delim → UInt8
  | .paren => 41
  | .bracket => 93
  | .brace => 125

theorem step_opening (d : Delim) (rest : List UInt8) (wordBefore : Bool) (depth deepest : Nat) :
    step d.opening rest wordBefore depth deepest =
      ⟨rest, false, depth + 1, max deepest (depth + 1)⟩ := by
  cases d <;> rfl

theorem step_closing (d : Delim) (rest : List UInt8) (wordBefore : Bool) (depth deepest : Nat) :
    step d.closing rest wordBefore depth deepest = ⟨rest, false, depth - 1, deepest⟩ := by
  cases d <;> rfl

theorem step_lineComment (rest : List UInt8) (wordBefore : Bool) (depth deepest : Nat) :
    step 47 (47 :: rest) wordBefore depth deepest =
      ⟨lineRest (47 :: rest), false, depth, deepest⟩ := rfl

theorem step_blockComment (rest : List UInt8) (wordBefore : Bool) (depth deepest : Nat) :
    step 47 (42 :: rest) wordBefore depth deepest = ⟨blockRest 1 rest, false, depth, deepest⟩ :=
  rfl

theorem step_raw {rest : List UInt8} (h : opensRaw rest = true) (depth deepest : Nat) :
    step 114 rest false depth deepest =
      ⟨rawRest (hashCount rest) (rest.drop (hashCount rest + 1)), false, depth, deepest⟩ := by
  simp [step, h]

theorem step_quoted (rest : List UInt8) (wordBefore : Bool) (depth deepest : Nat) :
    step 34 rest wordBefore depth deepest = ⟨quotedRest rest, false, depth, deepest⟩ := rfl

/-- A single quote starts a literal or a lifetime: a backslash after it starts an escape, a
quote two bytes on closes a one-byte literal, and anything else is a lifetime. -/
theorem step_quote (rest : List UInt8) (wordBefore : Bool) (depth deepest : Nat) :
    step 39 rest wordBefore depth deepest =
      if rest.head? == some 92 then ⟨charRest (rest.drop 2), false, depth, deepest⟩
      else if rest[1]? == some 39 then ⟨rest.drop 2, false, depth, deepest⟩
      else ⟨rest, false, depth, deepest⟩ := rfl

/-- No raw string opens before a byte that is neither `#` nor a quote. -/
theorem opensRaw_eq_false {rest : List UInt8} (h : ∀ c ∈ rest.head?, c ≠ 35 ∧ c ≠ 34) :
    opensRaw rest = false := by
  cases rest with
  | nil => rfl
  | cons c rest =>
    obtain ⟨h35, h34⟩ := h c rfl
    simp [opensRaw, hashCount, h35, h34]

/-- A byte that may come right after an identifier or a lifetime without joining it: no ASCII
letter, digit or underscore, and no double quote or `#` that would make the name a literal's
prefix. -/
structure Separates (c : UInt8) : Prop where
  notWord : isWordByte c = false
  notDouble : c ≠ 34
  notHash : c ≠ 35

theorem separates_of {c : UInt8} (h : (!isWordByte c && c != 34 && c != 35) = true) :
    Separates c := by
  simp only [Bool.and_eq_true, Bool.not_eq_true', bne_iff_ne, ne_eq] at h
  exact ⟨h.1.1, h.1.2, h.2⟩

/-- After a lifetime no single quote stands either, which would close a character literal. -/
theorem separates_of_lifetime {c : UInt8}
    (h : (!isWordByte c && c != 34 && c != 35 && c != 39) = true) : Separates c ∧ c ≠ 39 := by
  rw [Bool.and_eq_true, bne_iff_ne] at h
  exact ⟨separates_of h.1, h.2⟩

/-- Identifier bytes are passed one at a time, up to a byte that separates them from what
follows. -/
theorem run_idents {name rest : List UInt8} (hname : ∀ b ∈ name, isIdentByte b = true)
    (hrest : ∀ c ∈ rest.head?, Separates c) (wordBefore : Bool) (depth deepest : Nat) :
    ∃ w, run ⟨name ++ rest, wordBefore, depth, deepest⟩ = run ⟨rest, w, depth, deepest⟩ := by
  induction name generalizing wordBefore with
  | nil => exact ⟨wordBefore, rfl⟩
  | cons b name ih =>
    obtain ⟨hinert, h47, -, -⟩ := inert_of_isIdentByte (hname b List.mem_cons_self)
    have hnext : ∀ c ∈ (name ++ rest).head?, c ≠ 35 ∧ c ≠ 34 := by
      cases name with
      | nil => exact fun c hc => ⟨(hrest c hc).notHash, (hrest c hc).notDouble⟩
      | cons c name =>
        intro c' hc'
        obtain rfl : c = c' := by simpa using hc'
        obtain ⟨hc, -, h35, -⟩ := inert_of_isIdentByte (hname c (by simp))
        exact ⟨h35, hc.quote.1⟩
    rw [List.cons_append, run_cons, step_other depth deepest hinert (fun h => absurd h h47)
      (fun _ _ => opensRaw_eq_false hnext)]
    exact ih (fun c hc => hname c (List.mem_cons_of_mem b hc)) _

/-- An identifier's bytes are passed up to the byte after them, which joins none of them. -/
theorem run_word {name rest : List UInt8} (ident : ∀ b ∈ name, isIdentByte b = true)
    (hrest : ∀ c ∈ rest.head?, Separates c) (wordBefore : Bool) (depth deepest : Nat) :
    ∃ w, (w = true → ∀ c ∈ rest.head?, isWordByte c = false) ∧
      run ⟨name ++ rest, wordBefore, depth, deepest⟩ = run ⟨rest, w, depth, deepest⟩ := by
  obtain ⟨w, hrun⟩ := run_idents ident hrest wordBefore depth deepest
  exact ⟨w, fun _ c hc => (hrest c hc).notWord, hrun⟩

/-- The `r#` of a raw identifier is passed byte by byte: the name after the `#` keeps the
`r` from opening a raw string, and the `#` joins nothing to the name. -/
theorem run_rawMark {name rest : List UInt8} (nonempty : name ≠ [])
    (ident : ∀ b ∈ name, isIdentByte b = true) (wordBefore : Bool) (depth deepest : Nat) :
    run ⟨114 :: 35 :: (name ++ rest), wordBefore, depth, deepest⟩ =
      run ⟨name ++ rest, false, depth, deepest⟩ := by
  obtain ⟨b, name', rfl⟩ := List.exists_cons_of_ne_nil nonempty
  obtain ⟨hb, -, h35, -⟩ := inert_of_isIdentByte (ident b List.mem_cons_self)
  have hopen : opensRaw (35 :: (b :: name' ++ rest)) = false := by
    simp [opensRaw, hashCount, h35, hb.quote.1]
  rw [run_cons, step_other depth deepest ⟨by decide, by decide, by decide⟩
    (fun h => absurd h (by decide)) (fun _ _ => hopen), run_cons,
    step_other depth deepest ⟨by decide, by decide, by decide⟩
      (fun h => absurd h (by decide)) (fun h => absurd h (by decide))]
  rfl

/-! ### Comments and literals -/

theorem lineRest_append {body rest : List UInt8} (hbody : 10 ∉ body)
    (hrest : ∀ c ∈ rest.head?, c = 10) : lineRest (body ++ rest) = rest := by
  induction body with
  | nil =>
    cases rest with
    | nil => rfl
    | cons c rest =>
      obtain rfl := hrest c rfl
      rfl
  | cons b body ih =>
    have hb : b ≠ 10 := fun h => hbody (h ▸ List.mem_cons_self)
    rw [List.cons_append, lineRest.eq_3 _ _ hb]
    exact ih (fun h => hbody (List.mem_cons_of_mem b h))

/-- The inside of a block comment: a `/*` opens a nested comment, which its own `*/` closes;
no other `/` is followed by `*` (nor ends the inside), and no other `*` is followed by `/`. -/
inductive CommentBody : List UInt8 → Prop
  | nil : CommentBody []
  | byte {b : UInt8} {body : List UInt8} (hslash : b = 47 → body.head? ≠ some 42 ∧ body ≠ [])
      (hstar : b = 42 → body.head? ≠ some 47) : CommentBody body → CommentBody (b :: body)
  | nested {inner body : List UInt8} :
      CommentBody inner → CommentBody body → CommentBody (47 :: 42 :: inner ++ 42 :: 47 :: body)

/-- A comment's inside and its `*/` close one open comment. -/
theorem blockRest_append {body : List UInt8} (hbody : CommentBody body) (n : Nat)
    (rest : List UInt8) : blockRest (n + 1) (body ++ 42 :: 47 :: rest) = blockRest n rest := by
  induction hbody generalizing n rest with
  | nil => rfl
  | @byte b body hslash hstar _ ih =>
    obtain ⟨c, l, hcl⟩ : ∃ c l, body ++ 42 :: 47 :: rest = c :: l := by
      cases body with
      | nil => exact ⟨42, 47 :: rest, rfl⟩
      | cons c l => exact ⟨c, l ++ 42 :: 47 :: rest, rfl⟩
    have hc : body.head? = some c ∨ (body = [] ∧ c = 42) := by
      cases body with
      | nil => exact .inr ⟨rfl, (List.cons.inj hcl).1.symm⟩
      | cons d l' => exact .inl (by simpa using (List.cons.inj hcl).1)
    have hopen : b = 47 → c ≠ 42 := by
      intro hb hc42
      rcases hc with hc | ⟨hnil, -⟩
      · exact (hslash hb).1 (hc42 ▸ hc)
      · exact (hslash hb).2 hnil
    have hclose : b = 42 → c ≠ 47 := by
      intro hb hc47
      rcases hc with hc | ⟨-, hc⟩
      · exact hstar hb (hc47 ▸ hc)
      · simp [hc] at hc47
    rw [List.cons_append, hcl, blockRest.eq_5 n b (c :: l)
      (fun _ hb h => hopen hb (List.cons.inj h).1) (fun _ hb h => hclose hb (List.cons.inj h).1),
      ← hcl, ih]
  | @nested inner body _ _ ihi ihb =>
    simp only [List.cons_append, List.append_assoc]
    rw [blockRest.eq_3, ihi, ihb]

/-- The inside of a quoted literal: bytes other than a quote or a backslash, and escapes, each a
backslash and any byte. -/
inductive QuotedBody : List UInt8 → Prop
  | nil : QuotedBody []
  | byte {b : UInt8} {body : List UInt8} :
      b ≠ 34 → b ≠ 92 → QuotedBody body → QuotedBody (b :: body)
  | escape (e : UInt8) {body : List UInt8} : QuotedBody body → QuotedBody (92 :: e :: body)

theorem quotedRest_append {body : List UInt8} (hbody : QuotedBody body) (rest : List UInt8) :
    quotedRest (body ++ 34 :: rest) = rest := by
  induction hbody with
  | nil => rfl
  | @byte b body h34 h92 _ ih =>
    rw [List.cons_append, quotedRest.eq_5 b _ h34 (fun _ _ hb _ => h92 hb) (fun hb _ => h92 hb)]
    exact ih
  | escape e _ ih => exact ih

/-- The inside of a raw string opened with `hashes` of `#`: no quote in it is followed by as
many `#`. -/
def RawBody (hashes : Nat) (body : List UInt8) : Prop :=
  ∀ pre post, body = pre ++ 34 :: post → ¬ List.replicate hashes 35 <+: post

/-- The scan's test for a raw string's end: the next `hashes` bytes are all `#`. -/
theorem closesRaw_iff (hashes : Nat) (l : List UInt8) :
    (((l.take hashes).filter (· == 35)).length == hashes) = true ↔
      List.replicate hashes 35 <+: l := by
  rw [beq_iff_eq, List.prefix_iff_eq_take]
  constructor
  · intro h
    have hle := (List.take hashes l).length_filter_le (· == 35)
    have hlen : (l.take hashes).length = hashes := by
      have := List.length_take_le hashes l
      omega
    have hall : ∀ a ∈ l.take hashes, (a == 35) = true :=
      List.length_filter_eq_length_iff.mp (h.trans hlen.symm)
    rw [List.length_replicate]
    exact (List.eq_replicate_iff.mpr ⟨hlen, fun a ha => by simpa using hall a ha⟩).symm
  · intro h
    rw [List.length_replicate] at h
    rw [← h]
    simp

theorem rawRest_append {hashes : Nat} {body : List UInt8} (hbody : RawBody hashes body)
    (rest : List UInt8) :
    rawRest hashes (body ++ 34 :: (List.replicate hashes 35 ++ rest)) = rest := by
  induction body with
  | nil =>
    rw [List.nil_append, rawRest, if_pos ((closesRaw_iff _ _).mpr (List.prefix_append _ _))]
    simp
  | cons b body ih =>
    have htail : RawBody hashes body := fun pre post h =>
      hbody (b :: pre) post (by rw [h, List.cons_append])
    rw [List.cons_append]
    by_cases hb : b = 34
    · subst hb
      -- a quote inside is not followed by the closing `#`s, even running into the closing quote
      have hopen :
          ¬ List.replicate hashes 35 <+: body ++ 34 :: (List.replicate hashes 35 ++ rest) := by
        intro hpre
        have hquote : body ++ [34] <+: body ++ 34 :: (List.replicate hashes 35 ++ rest) :=
          (List.prefix_append_right_inj body).mpr (by simp)
        have hnot34 : (34 : UInt8) ∉ List.replicate hashes 35 := by simp
        rcases List.prefix_or_prefix_of_prefix hpre hquote with h | h
        · rcases List.prefix_concat_iff.mp h with h | h
          · exact hnot34 (h ▸ by simp)
          · exact hbody [] body rfl h
        · exact hnot34 (h.subset (by simp))
      rw [rawRest, if_neg (fun h => hopen ((closesRaw_iff _ _).mp h))]
      exact ih htail
    · rw [rawRest.eq_3 _ _ _ hb]
      exact ih htail

theorem charRest_append {body : List UInt8} (hbody : 39 ∉ body) (rest : List UInt8) :
    charRest (body ++ 39 :: rest) = rest := by
  induction body with
  | nil => rfl
  | cons b body ih =>
    have hb : b ≠ 39 := fun h => hbody (h ▸ List.mem_cons_self)
    rw [List.cons_append, charRest.eq_3 _ _ hb]
    exact ih (fun h => hbody (List.mem_cons_of_mem b h))

theorem hashCount_replicate (hashes : Nat) (rest : List UInt8) :
    hashCount (List.replicate hashes 35 ++ 34 :: rest) = hashes := by
  induction hashes with
  | zero => rfl
  | succ k ih => rw [List.replicate_succ, List.cons_append, hashCount, ih]

theorem drop_replicate_quote (hashes : Nat) (rest : List UInt8) :
    (List.replicate hashes 35 ++ 34 :: rest).drop (hashes + 1) = rest := by
  induction hashes with
  | zero => rfl
  | succ k ih => rw [List.replicate_succ, List.cons_append, List.drop_succ_cons, ih]

/-! ### Lexemes -/

/-- What stands before a literal's opening quote or `r`: nothing, `b`, or `c`. -/
inductive Prefix where
  | none
  | byte
  | cstr
  deriving DecidableEq, Repr

/-- A prefix's bytes. -/
def Prefix.bytes : Prefix → List UInt8
  | .none => []
  | .byte => [98]
  | .cstr => [99]

/-- A lexeme of source text, with the conditions that make its bytes one lexeme. -/
inductive Lexeme where
  | opening (d : Delim)
  | closing (d : Delim)
  | word (name : List UInt8) (nonempty : name ≠ []) (ident : ∀ b ∈ name, isIdentByte b = true)
  | lifetime (name : List UInt8) (nonempty : name ≠ [])
      (ident : ∀ b ∈ name, isIdentByte b = true)
  | rawWord (name : List UInt8) (nonempty : name ≠ [])
      (ident : ∀ b ∈ name, isIdentByte b = true)
  | rawLifetime (name : List UInt8) (nonempty : name ≠ [])
      (ident : ∀ b ∈ name, isIdentByte b = true)
  | plain (b : UInt8) (alone : isPlainByte b = true)
  | lineComment (body : List UInt8) (oneLine : 10 ∉ body)
  | blockComment (body : List UInt8) (nests : CommentBody body)
  | quoted (pre : Prefix) (body : List UInt8) (escaped : QuotedBody body)
  | raw (pre : Prefix) (notC : pre ≠ .cstr) (hashes : Nat) (body : List UInt8)
      (closes : RawBody hashes body)
  | char (pre : Prefix) (notC : pre ≠ .cstr) (c : UInt8) (notEscape : c ≠ 92)
  | escapedChar (pre : Prefix) (notC : pre ≠ .cstr) (e : UInt8) (body : List UInt8)
      (unquoted : 39 ∉ body)

namespace Lexeme

/-- A lexeme's bytes. -/
def bytes : Lexeme → List UInt8
  | .opening d => [d.opening]
  | .closing d => [d.closing]
  | .word name .. => name
  | .lifetime name .. => 39 :: name
  | .rawWord name .. => 114 :: 35 :: name
  | .rawLifetime name .. => 39 :: 114 :: 35 :: name
  | .plain b _ => [b]
  | .lineComment body _ => 47 :: 47 :: body
  | .blockComment body _ => 47 :: 42 :: body ++ [42, 47]
  | .quoted pre body _ => pre.bytes ++ 34 :: body ++ [34]
  | .raw pre _ hashes body _ =>
    pre.bytes ++ 114 :: List.replicate hashes 35 ++ 34 :: body ++ 34 :: List.replicate hashes 35
  | .char pre _ c _ => pre.bytes ++ [39, c, 39]
  | .escapedChar pre _ e body _ => pre.bytes ++ 39 :: 92 :: e :: body ++ [39]

/-- Whether a byte may come right after the lexeme, as the lexer splits text: nothing joins an
identifier or a lifetime (no ASCII letter, digit or underscore) or makes it a literal's prefix
(no double quote or `#`), no single quote closes a lifetime, a lone `/` is not followed by `/` or
`*`, and a line comment ends at a line feed. A character beyond ASCII may follow a name, as a
blank of Unicode does. -/
def admits : Lexeme → UInt8 → Bool
  | .word .., c | .rawWord .., c => !isWordByte c && c != 34 && c != 35
  | .lifetime .., c | .rawLifetime .., c => !isWordByte c && c != 34 && c != 35 && c != 39
  | .plain b _, c => b != 47 || (c != 47 && c != 42)
  | .lineComment .., c => c == 10
  | _, _ => true

/-- The depth after the lexeme and the deepest so far: an opening delimiter goes one level
deeper, and a closing one back up, staying at zero. -/
def move : Lexeme → Nat × Nat → Nat × Nat
  | .opening _, (depth, deepest) => (depth + 1, max deepest (depth + 1))
  | .closing _, (depth, deepest) => (depth - 1, deepest)
  | _, dm => dm

end Lexeme

/-- The text of lexemes. -/
def text (ls : List Lexeme) : List UInt8 := ls.flatMap Lexeme.bytes

/-- Lexemes that follow one another as the lexer splits text. -/
def Lexed (ls : List Lexeme) : Prop :=
  ls.IsChain fun t u => ∀ c ∈ u.bytes.head?, t.admits c = true

instance : DecidablePred Lexed := fun ls =>
  inferInstanceAs (Decidable (ls.IsChain fun t u => ∀ c ∈ u.bytes.head?, t.admits c = true))

/-- The deepest nesting of the delimiter lexemes, from a depth and a deepest so far. -/
def deepest (ls : List Lexeme) (depth deepest : Nat) : Nat :=
  (ls.foldl (fun dm t => t.move dm) (depth, deepest)).2

/-! ### The scan reads each lexeme whole -/

theorem run_prefix (pre : Prefix) (rest : List UInt8) (wordBefore : Bool) (depth deepest : Nat) :
    ∃ w, (pre = .none → w = wordBefore) ∧ (pre = .byte → w = false) ∧
      run ⟨pre.bytes ++ rest, wordBefore, depth, deepest⟩ = run ⟨rest, w, depth, deepest⟩ := by
  cases pre with
  | none => exact ⟨wordBefore, fun _ => rfl, nofun, rfl⟩
  | byte =>
    refine ⟨false, nofun, fun _ => rfl, ?_⟩
    rw [Prefix.bytes, List.singleton_append, run_cons,
      step_other depth deepest ⟨by decide, by decide, by decide⟩
        (fun h => absurd h (by decide)) (fun h => absurd h (by decide))]
    rfl
  | cstr =>
    refine ⟨true, nofun, nofun, ?_⟩
    rw [Prefix.bytes, List.singleton_append, run_cons,
      step_other depth deepest ⟨by decide, by decide, by decide⟩
        (fun h => absurd h (by decide)) (fun h => absurd h (by decide))]
    rfl

/-- The scan passes over a lexeme whole, moving the depth as the lexeme does. It leaves an
identifier joinable only where the lexeme admits no identifier byte next. -/
theorem run_lexeme (t : Lexeme) {rest : List UInt8} (hnext : ∀ c ∈ rest.head?, t.admits c = true)
    {wordBefore : Bool} (hw : wordBefore = true → ∀ c ∈ t.bytes.head?, isWordByte c = false)
    (depth deepest : Nat) :
    ∃ w, (w = true → ∀ c ∈ rest.head?, isWordByte c = false) ∧
      run ⟨t.bytes ++ rest, wordBefore, depth, deepest⟩ =
        run ⟨rest, w, (t.move (depth, deepest)).1, (t.move (depth, deepest)).2⟩ := by
  cases t with
  | opening d =>
    refine ⟨false, by simp, ?_⟩
    rw [Lexeme.bytes, List.singleton_append, run_cons, step_opening]
    rfl
  | closing d =>
    refine ⟨false, by simp, ?_⟩
    rw [Lexeme.bytes, List.singleton_append, run_cons, step_closing]
    rfl
  | word name _ ident =>
    exact run_word ident (fun c hc => separates_of (hnext c hc)) wordBefore depth deepest
  | lifetime name nonempty ident =>
    have hrest : ∀ c ∈ rest.head?, Separates c ∧ c ≠ 39 := fun c hc =>
      separates_of_lifetime (hnext c hc)
    obtain ⟨b, name', rfl⟩ := List.exists_cons_of_ne_nil nonempty
    obtain ⟨-, -, -, h92⟩ := inert_of_isIdentByte (ident b List.mem_cons_self)
    have hsecond : (b :: name' ++ rest)[1]? ≠ some 39 := by
      cases name' with
      | nil =>
        cases rest with
        | nil => simp
        | cons c rest => simpa using (hrest c rfl).2
      | cons c name' =>
        simpa using (inert_of_isIdentByte (ident c (by simp))).1.quote.2
    rw [Lexeme.bytes, List.cons_append, run_cons, step_quote, if_neg (by simpa using h92),
      if_neg (by simpa using hsecond)]
    exact run_word ident (fun c hc => (hrest c hc).1) false depth deepest
  | rawWord name nonempty ident =>
    rw [Lexeme.bytes, List.cons_append, List.cons_append, run_rawMark nonempty ident]
    exact run_word ident (fun c hc => separates_of (hnext c hc)) false depth deepest
  | rawLifetime name nonempty ident =>
    -- the byte after the `r` is `#`, so the quote starts a lifetime
    rw [Lexeme.bytes, List.cons_append, List.cons_append, List.cons_append, run_cons, step_quote,
      if_neg (by simp), if_neg (by simp), run_rawMark nonempty ident]
    exact run_word ident (fun c hc => (separates_of_lifetime (hnext c hc)).1) false depth deepest
  | plain b alone =>
    obtain ⟨hinert, h114, hword⟩ := inert_of_isPlainByte alone
    have hslash : b = 47 → rest.head? ≠ some 47 ∧ rest.head? ≠ some 42 := by
      rintro rfl
      cases rest with
      | nil => simp
      | cons c rest => simpa [Lexeme.admits] using hnext c rfl
    refine ⟨false, by simp, ?_⟩
    rw [Lexeme.bytes, List.singleton_append, run_cons,
      step_other depth deepest hinert hslash (fun h => absurd h h114), hword]
    rfl
  | lineComment body oneLine =>
    have hrest : ∀ c ∈ rest.head?, c = 10 := fun c hc => by
      simpa [Lexeme.admits] using hnext c hc
    refine ⟨false, by simp, ?_⟩
    simp only [Lexeme.bytes, List.cons_append]
    rw [run_cons, step_lineComment, lineRest.eq_3 _ _ (by decide), lineRest_append oneLine hrest]
    rfl
  | blockComment body nests =>
    refine ⟨false, by simp, ?_⟩
    simp only [Lexeme.bytes, List.cons_append, List.append_assoc, List.nil_append]
    rw [run_cons, step_blockComment, blockRest_append nests 0 rest, blockRest.eq_1]
    rfl
  | quoted pre body escaped =>
    refine ⟨false, by simp, ?_⟩
    obtain ⟨w, -, -, hpre⟩ := run_prefix pre (34 :: (body ++ 34 :: rest)) wordBefore depth deepest
    simp only [Lexeme.bytes, List.append_assoc, List.cons_append, List.nil_append]
    rw [hpre, run_cons, step_quoted, quotedRest_append escaped rest]
    rfl
  | raw pre notC hashes body closes =>
    refine ⟨false, by simp, ?_⟩
    obtain ⟨w, hnone, hbyte, hpre⟩ := run_prefix pre
      (114 :: (List.replicate hashes 35 ++ 34 :: (body ++ 34 :: (List.replicate hashes 35 ++ rest))))
      wordBefore depth deepest
    -- the `r` opens the raw string: nothing before it joins it into an identifier
    have hw0 : w = false := by
      cases pre with
      | none =>
        rw [hnone rfl]
        cases wordBefore with
        | false => rfl
        | true =>
          have h114 := hw rfl 114 (by simp [Lexeme.bytes, Prefix.bytes])
          exact absurd h114 (by decide)
      | byte => exact hbyte rfl
      | cstr => exact absurd rfl notC
    subst hw0
    have hopens : opensRaw (List.replicate hashes 35 ++ 34 :: (body ++ 34 ::
        (List.replicate hashes 35 ++ rest))) = true := by
      simp [opensRaw, hashCount_replicate]
    simp only [Lexeme.bytes, List.append_assoc, List.cons_append]
    rw [hpre, run_cons, step_raw hopens, hashCount_replicate, drop_replicate_quote,
      rawRest_append closes rest]
    rfl
  | char pre notC c notEscape =>
    refine ⟨false, by simp, ?_⟩
    obtain ⟨w, -, -, hpre⟩ := run_prefix pre (39 :: c :: 39 :: rest) wordBefore depth deepest
    simp only [Lexeme.bytes, List.append_assoc, List.cons_append, List.nil_append]
    rw [hpre, run_cons, step_quote, if_neg (by simpa using notEscape), if_pos (by simp)]
    rfl
  | escapedChar pre notC e body unquoted =>
    refine ⟨false, by simp, ?_⟩
    obtain ⟨w, -, -, hpre⟩ := run_prefix pre (39 :: 92 :: e :: (body ++ 39 :: rest)) wordBefore
      depth deepest
    simp only [Lexeme.bytes, List.append_assoc, List.cons_append, List.nil_append]
    rw [hpre, run_cons, step_quote, if_pos (by simp), List.drop_succ_cons, List.drop_succ_cons,
      List.drop_zero, charRest_append unquoted rest]
    rfl

theorem Lexeme.bytes_ne_nil (t : Lexeme) : t.bytes ≠ [] := by
  cases t with
  | word _ nonempty _ => exact nonempty
  | _ => simp [Lexeme.bytes]

theorem text_cons (t : Lexeme) (ls : List Lexeme) : text (t :: ls) = t.bytes ++ text ls :=
  List.flatMap_cons

theorem head?_text_cons (t : Lexeme) (ls : List Lexeme) :
    (text (t :: ls)).head? = t.bytes.head? := by
  rw [text_cons, List.head?_append_of_ne_nil _ t.bytes_ne_nil]

/-- Lexed text is scanned one lexeme at a time, so the scan finds the deepest nesting of the
delimiter lexemes. Along the induction the byte before may join an identifier only where the
next lexeme starts with no identifier byte. -/
theorem run_text {ls : List Lexeme} (hl : Lexed ls) {wordBefore : Bool}
    (hw : wordBefore = true → ∀ c ∈ (text ls).head?, isWordByte c = false) (depth deepest : Nat) :
    run ⟨text ls, wordBefore, depth, deepest⟩ = Nesting.deepest ls depth deepest := by
  induction ls generalizing wordBefore depth deepest with
  | nil => rfl
  | cons t ls ih =>
    have hnext : ∀ c ∈ (text ls).head?, t.admits c = true := by
      cases ls with
      | nil => simp [text]
      | cons u ls =>
        rw [head?_text_cons]
        exact (List.isChain_cons_cons.mp hl).1
    obtain ⟨w, hw', hrun⟩ := run_lexeme t hnext (by rwa [← head?_text_cons t ls]) depth deepest
    rw [text_cons, hrun]
    exact ih hl.tail hw' _ _

end Nesting

/-- A source that a graph accepts is nested at most `nestingLimit` deep, as the scan reads it. -/
theorem CallGraph.maxNesting_le_of_addSource {g g' : CallGraph} {src : String}
    (h : g.addSource src = .ok g') : maxNesting src ≤ nestingLimit := by
  simp only [CallGraph.addSource] at h
  split at h
  · cases h
  · omega

open Nesting in
/-- The scan of any source ends at the end of its text: any fuel above the number of bytes gives
its result. On a source split into lexemes it finds exactly the deepest nesting of the delimiter
lexemes, so a graph that accepts the source sees its delimiters nested at most `nestingLimit`
deep. -/
theorem maxNesting_reads_delimiters (src : String) :
    (∀ fuel, src.toUTF8.toList.length < fuel →
      scan fuel ⟨src.toUTF8.toList, false, 0, 0⟩ = maxNesting src) ∧
    ∀ ls : List Lexeme, src.toUTF8.toList = text ls → Lexed ls →
      maxNesting src = deepest ls 0 0 ∧
        ∀ g g' : CallGraph, g.addSource src = .ok g' → deepest ls 0 0 ≤ nestingLimit := by
  refine ⟨fun fuel hfuel => scan_fuel hfuel (Nat.lt_succ_self _), fun ls hs hl => ?_⟩
  have hreads : maxNesting src = deepest ls 0 0 := by
    show run ⟨src.toUTF8.toList, false, 0, 0⟩ = _
    rw [hs]
    exact @run_text ls hl false nofun 0 0
  refine ⟨hreads, fun g g' hadd => ?_⟩
  rw [← hreads]
  exact CallGraph.maxNesting_le_of_addSource hadd

open Nesting in
theorem maxNesting_reads_call_with_comment :
    ∃ ls : List Lexeme, "f(\"(\" /* [ */)".toUTF8.toList = text ls ∧ Lexed ls ∧
      maxNesting "f(\"(\" /* [ */)" = deepest ls 0 0 ∧ deepest ls 0 0 = 1 := by
  let ls : List Lexeme := [.word [102] (by decide) (by decide +kernel), .opening .paren,
    .quoted .none [40] (.byte (by decide) (by decide) .nil), .plain 32 (by decide +kernel),
    .blockComment [32, 91, 32] (.byte (by decide) (by decide) (.byte (by decide) (by decide)
      (.byte (by decide) (by decide) .nil))), .closing .paren]
  have hs : "f(\"(\" /* [ */)".toUTF8.toList = text ls := by decide +kernel
  have hl : Lexed ls := by decide +kernel
  exact ⟨ls, hs, hl, ((maxNesting_reads_delimiters _).2 ls hs hl).1, by decide⟩

/-- A character literal of a character beyond ASCII holds two bytes between its quotes: the
scan takes its opening quote for a lifetime and its closing quote for the start of another
literal, which swallows the parenthesis after it. That parenthesis is one level deep. -/
theorem wide_char_literal_hides_delimiter : maxNesting "'é'('a')" = 0 := by
  decide +kernel

end AdvisoryTrace.Source
