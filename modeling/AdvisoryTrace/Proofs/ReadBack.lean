import Mathlib
import AdvisoryTrace.Proofs.ReadScalars

/-!
# Values read back

`Reads act v w fuel depth`: the bytes `w`, wherever they stand after blanks and up to a byte that
ends a value, are read as `v` by the reader `act` given at least `fuel` steps and `depth` levels
of nesting. `ReadsBack sh` is that for the reader of the shape `sh`, and `Parses` for the reader
of any value.

Scalars read back one by one; an object of members in the order of a record's fields reads back
by the record's shape (`readsBack_record`) and parses as the object (`parses_obj`); an array of
items reads back as their list (`readsBack_list`). The parts of an object or array may be laid
out with any blanks (`layout`). Bytes read back as a value are read as that value when they are
a whole text (`readAs_of_readsBack`, `parse_of_parses`).
-/

namespace AdvisoryTrace.Json.Read

variable {b : ByteArray}

/-- The bytes `w` are read as `v` by a reader of values `act` (given the nesting and the steps
allowed): wherever they stand after blanks, with at least `fuel` steps and `depth` levels of
nesting allowed, and up to a byte that ends a value. -/
structure Reads (act : Nat → Nat → Read Value) (v : Value) (w : List UInt8) (fuel depth : Nat) :
    Prop where
  yields : ∀ {b : ByteArray} {i : Nat} {ws : List UInt8} {f d : Nat}, fuel ≤ f → depth ≤ d →
    Blanks ws → Ahead b i (ws ++ w) → Ends b (i + ws.length + w.length) →
    Yields (act d f) b i v (i + ws.length + w.length)

/-- Read back by the reader of a shape. -/
abbrev ReadsBack (sh : Shape) : Value → List UInt8 → Nat → Nat → Prop :=
  Reads fun d f => shaped d f sh

/-- Read back by the reader of any value. -/
abbrev Parses : Value → List UInt8 → Nat → Nat → Prop := Reads anyValue

theorem Reads.mono {act : Nat → Nat → Read Value} {v : Value} {w : List UInt8}
    {fuel depth fuel' depth' : Nat} (h : Reads act v w fuel depth) (hf : fuel ≤ fuel')
    (hd : depth ≤ depth') : Reads act v w fuel' depth' :=
  ⟨fun hf' hd' => h.yields (hf.trans hf') (hd.trans hd')⟩

/-- Reading with no blanks before the bytes. -/
theorem Reads.here {act : Nat → Nat → Read Value} {v : Value} {w : List UInt8} {fuel depth : Nat}
    (h : Reads act v w fuel depth) {i f d : Nat} (hf : fuel ≤ f) (hd : depth ≤ d)
    (ha : Ahead b i w) (he : Ends b (i + w.length)) : Yields (act d f) b i v (i + w.length) := by
  simpa using h.yields hf hd blanks_nil (by simpa using ha) (by simpa using he)

/-- A string literal, read as a string. -/
theorem readsBack_text (s : String) : ReadsBack .text (.str s) (bytesOf (quote s).toList) 1 0 := by
  constructor
  intro b i ws f d hf _ hw h _
  obtain ⟨f, rfl⟩ : ∃ g, f = g + 1 := ⟨f - 1, by omega⟩
  have hq : Ahead b (i + ws.length) (bytesOf (quote s).toList ++ []) := by
    rw [List.append_nil]
    exact (ahead_append_iff.mp h).2
  rw [bytesOf_quote, List.cons_append] at h
  rw [shaped.eq_2]
  exact Yields.mark ((yields_skipBlanks_to h hw rfl).bind (yields_quoted Value.str hq))

theorem yields_variantName {s : String} {variants : List String} (hs : s ∈ variants) {i : Nat}
    (h : Ahead b i (34 :: bytesOf (s.toList.flatMap escapeChar) ++ [34])) :
    Yields (variantName variants) b i s (i + (bytesOf (s.toList.flatMap escapeChar)).length + 2) := by
  unfold variantName
  have hq := yields_skipBlanks_at (ahead_cons_iff.mp h).1 rfl
  refine hq.bind ?_
  refine (yields_eat b _).bind ((yields_stringBody (ahead_cons_iff.mp h).2).bind ?_)
  rw [if_pos (List.contains_iff_mem.mpr hs)]
  convert yields_pure s b _ using 1
  omega

/-- A string literal naming one of the variants, read as that name. -/
theorem readsBack_choice {s name : String} {variants : List String} (hs : s ∈ variants) :
    ReadsBack (.choice name variants) (.str s) (bytesOf (quote s).toList) 1 0 := by
  constructor
  intro b i ws f d hf _ hw h _
  obtain ⟨f, rfl⟩ : ∃ g, f = g + 1 := ⟨f - 1, by omega⟩
  rw [bytesOf_quote] at h ⊢
  rw [shaped.eq_9]
  refine Yields.mark ((yields_skipBlanks_to h hw rfl).bind ?_)
  obtain ⟨-, hq⟩ := ahead_append_iff.mp h
  refine (yields_variantName hs hq).bind ?_
  convert yields_pure (Value.str s) b _ using 1
  simp only [List.length_cons, List.length_append, List.length_nil]
  omega

/-- A value followed by a comma, a closing bracket or brace, or a blank ends there. -/
theorem ends_of_getElem? {j : Nat} {x : UInt8} (h : b[j]? = some x)
    (hx : x = 44 ∨ x = 93 ∨ x = 125 ∨ blank x = true) : Ends b j := by
  intro y hy
  rw [h] at hy
  obtain rfl := Option.some.inj hy
  rcases hx with rfl | rfl | rfl | hb
  · exact ⟨rfl, by decide, by decide, by decide⟩
  · exact ⟨rfl, by decide, by decide, by decide⟩
  · exact ⟨rfl, by decide, by decide, by decide⟩
  · simp only [blank, Bool.or_eq_true, beq_iff_eq] at hb
    rcases hb with ((rfl | rfl) | rfl) | rfl <;> exact ⟨rfl, by decide, by decide, by decide⟩

/-- The literal `null`. -/
theorem yields_null {i : Nat} {rest : List UInt8} (h : Ahead b i ([110, 117, 108, 108] ++ rest)) :
    Yields (do eat; keyword [117, 108, 108]; pure Value.null) b i .null (i + 4) :=
  (yields_eat b i).bind ((yields_keyword (ahead_append_iff.mp (ahead_cons_iff.mp h).2).1).bind
    (yields_pure _ _ _))

/-- The literal `null`, read as an optional value. -/
theorem readsBack_null (sh : Shape) : ReadsBack (.optional sh) .null [110, 117, 108, 108] 1 0 := by
  constructor
  intro b i ws f d hf _ hw h _
  obtain ⟨f, rfl⟩ : ∃ g, f = g + 1 := ⟨f - 1, by omega⟩
  rw [shaped.eq_7]
  exact Yields.mark ((yields_skipBlanks_to h hw rfl).bind
    (yields_null (by simpa using (ahead_append_iff.mp h).2)))

/-- A present optional value is read as the value itself. -/
theorem ReadsBack.optional {sh : Shape} {v : Value} {x : UInt8} {rest : List UInt8} {fuel depth : Nat}
    (h : ReadsBack sh v (x :: rest) fuel depth) (hx : blank x = false) (h110 : x ≠ 110) :
    ReadsBack (.optional sh) v (x :: rest) (fuel + 1) depth := by
  constructor
  intro b i ws f d hf hd hw ha he
  obtain ⟨f, rfl⟩ : ∃ g, f = g + 1 := ⟨f - 1, by omega⟩
  rw [shaped.eq_7]
  refine Yields.mark ((yields_skipBlanks_to ha hw hx).bind ?_)
  split
  next heq => exact absurd (Option.some.inj heq) h110
  next =>
    obtain ⟨-, hv⟩ := ahead_append_iff.mp ha
    simpa [Nat.add_assoc] using h.here (f := f) (by omega) hd hv (by simpa [Nat.add_assoc] using he)

/-- The decimal digits of a number up to 255, read as a byte. -/
theorem readsBack_byte {n : Nat} (hn : n ≤ 255) :
    ReadsBack .byte (.num (.nat n)) (bytesOf (Nat.toDigits 10 n)) 1 0 := by
  constructor
  intro b i ws f d hf _ hw ha he
  obtain ⟨f, rfl⟩ : ∃ g, f = g + 1 := ⟨f - 1, by omega⟩
  obtain ⟨x, rest, hxs, hx⟩ := digits_head n
  have hv := (ahead_append_iff.mp ha).2
  rw [length_bytesOf_digits] at he ⊢
  rw [hxs] at ha
  rw [shaped.eq_4]
  refine Yields.mark ((yields_skipBlanks_to ha hw (blank_of_digit hx)).bind ?_)
  split
  next heq => cases heq
  next heq => exact absurd (Option.some.inj heq) (ne_of_digit hx (by decide))
  next =>
    rename_i heq
    obtain rfl := Option.some.inj heq
    rw [if_pos (isDigit_of_toNat hx)]
    refine (yields_number_nat (hn.trans (by decide)) hv he).bind (Yields.placing ?_)
    simp only [numberAs, if_pos hn]
    exact yields_pure _ _ _

/-- A string literal, parsed as a string. -/
theorem parses_str (s : String) : Parses (.str s) (bytesOf (quote s).toList) 1 0 := by
  constructor
  intro b i ws f d hf _ hw h _
  obtain ⟨f, rfl⟩ : ∃ g, f = g + 1 := ⟨f - 1, by omega⟩
  have hq : Ahead b (i + ws.length) (bytesOf (quote s).toList ++ []) := by
    rw [List.append_nil]
    exact (ahead_append_iff.mp h).2
  rw [bytesOf_quote, List.cons_append] at h
  rw [anyValue.eq_2]
  exact Yields.placing ((yields_skipBlanks_to h hw rfl).bind (yields_quoted Value.str hq))

/-- The literal `null`, parsed as null. -/
theorem parses_null : Parses .null [110, 117, 108, 108] 1 0 := by
  constructor
  intro b i ws f d hf _ hw h _
  obtain ⟨f, rfl⟩ : ∃ g, f = g + 1 := ⟨f - 1, by omega⟩
  rw [anyValue.eq_2]
  exact Yields.placing ((yields_skipBlanks_to h hw rfl).bind
    (yields_null (by simpa using (ahead_append_iff.mp h).2)))

/-- The decimal digits of a number up to `2^64 - 1`, parsed as the number. -/
theorem parses_nat {n : Nat} (hn : n ≤ u64Max) :
    Parses (.num (.nat n)) (bytesOf (Nat.toDigits 10 n)) 1 0 := by
  constructor
  intro b i ws f d hf _ hw ha he
  obtain ⟨f, rfl⟩ : ∃ g, f = g + 1 := ⟨f - 1, by omega⟩
  obtain ⟨x, rest, hxs, hx⟩ := digits_head n
  have hv := (ahead_append_iff.mp ha).2
  rw [length_bytesOf_digits] at he ⊢
  rw [hxs] at ha
  rw [anyValue.eq_2]
  refine Yields.placing ((yields_skipBlanks_to ha hw (blank_of_digit hx)).bind ?_)
  -- a digit is none of the bytes that open the other kinds of values
  split
  next heq => cases heq
  next heq => exact absurd (Option.some.inj heq) (ne_of_digit hx (by decide))
  next heq => exact absurd (Option.some.inj heq) (ne_of_digit hx (by decide))
  next heq => exact absurd (Option.some.inj heq) (ne_of_digit hx (by decide))
  next heq => exact absurd (Option.some.inj heq) (ne_of_digit hx (by decide))
  next heq => exact absurd (Option.some.inj heq) (ne_of_digit hx (by decide))
  next heq => exact absurd (Option.some.inj heq) (ne_of_digit hx (by decide))
  next heq => exact absurd (Option.some.inj heq) (ne_of_digit hx (by decide))
  next =>
    rename_i heq
    obtain rfl := Option.some.inj heq
    rw [if_pos (isDigit_of_toNat hx)]
    exact (yields_number_nat hn hv he).bind (yields_pure _ _ _)

/-- The parts of an array or an object after its opening bracket: `gap` before each part and a
comma before all but the first. -/
def layout (gap : List UInt8) : Bool → List (List UInt8) → List UInt8
  | _, [] => []
  | first, p :: ps => (if first then gap else 44 :: gap) ++ p ++ layout gap false ps

/-- A value ends before what follows it in a layout: a comma, blanks or the closing bracket. -/
theorem ends_layout {gap close rest : List UInt8} {ps : List (List UInt8)} {x : UInt8} {j : Nat}
    (hclose : Blanks close) (hx : x = 93 ∨ x = 125)
    (h : Ahead b j (layout gap false ps ++ close ++ x :: rest)) : Ends b j := by
  cases ps with
  | cons p ps =>
    simp only [layout, Bool.false_eq_true, if_false, List.cons_append, List.append_assoc] at h
    exact ends_of_getElem? (ahead_cons_iff.mp h).1 (Or.inl rfl)
  | nil =>
    cases close with
    | nil =>
      exact ends_of_getElem? (ahead_cons_iff.mp h).1 (by rcases hx with rfl | rfl <;> simp)
    | cons c close =>
      exact ends_of_getElem? (ahead_cons_iff.mp h).1
        (Or.inr (Or.inr (Or.inr (hclose c List.mem_cons_self))))

/-- The next key, after blanks and, unless it is the first, a comma. -/
theorem yields_nextKey {first : Bool} {i : Nat} {gap rest : List UInt8} {k : String}
    (hgap : Blanks gap)
    (h : Ahead b i ((if first then gap else 44 :: gap) ++ bytesOf (quote k).toList ++ rest)) :
    Yields (nextKey first) b i (some k)
      (i + (if first then gap else 44 :: gap).length + (bytesOf (quote k).toList).length) := by
  rw [List.append_assoc] at h
  obtain ⟨hlead, hq⟩ := ahead_append_iff.mp h
  have hkey := yields_quoted some hq
  have hquote : b[i + (if first then gap else 44 :: gap).length]? = some 34 := by
    rw [bytesOf_quote] at hq
    exact (ahead_cons_iff.mp hq).1
  unfold nextKey
  cases first with
  | true =>
    simp only [if_true] at hlead hkey hquote ⊢
    have hy := yields_skipBlanks hlead hgap (fun y hy => by rw [hquote] at hy; cases hy; rfl)
    rw [hquote] at hy
    refine hy.bind ?_
    split
    next heq => cases heq
    next heq => cases heq
    next heq =>
      obtain rfl := Option.some.inj heq
      exact (yields_pure _ _ _).bind hkey
    next heq => cases heq
  | false =>
    simp only [Bool.false_eq_true, if_false, List.length_cons] at hlead hkey hquote ⊢
    obtain ⟨h44, hrest⟩ := ahead_cons_iff.mp hlead
    have hpos : i + (gap.length + 1) = i + 1 + gap.length := by omega
    rw [hpos] at hquote hkey ⊢
    have hy := yields_skipBlanks hrest hgap (fun y hy => by rw [hquote] at hy; cases hy; rfl)
    rw [hquote] at hy
    refine (yields_skipBlanks_at h44 rfl).bind ?_
    split
    next heq => cases heq
    next =>
      refine (yields_eat b i).bind (hy.bind ?_)
      split
      next => exact hkey
      next heq => cases heq
      next =>
        rename_i h34 _ heq
        exact absurd (Option.some.inj heq).symm h34
      next heq => cases heq
    next =>
      rename_i _ h44' heq
      exact absurd (Option.some.inj heq).symm h44'
    next heq => cases heq

/-- Before `}` there is no further key. -/
theorem yields_nextKey_end {i : Nat} {ws rest : List UInt8} (first : Bool)
    (h : Ahead b i (ws ++ 125 :: rest)) (hw : Blanks ws) :
    Yields (nextKey first) b i none (i + ws.length) :=
  (yields_skipBlanks_to h hw rfl).bind (yields_pure _ _ _)

/-- A record field as written: its name, shape and default flag, its value and the value's
bytes. -/
structure Member where
  key : String
  shape : Shape
  defaulted : Bool
  value : Value
  bytes : List UInt8

namespace Member

/-- The field the member fills. -/
def field (m : Member) : String × Shape × Bool := (m.key, m.shape, m.defaulted)

/-- The entry the member is read as. -/
def entry (m : Member) : String × Value := (m.key, m.value)

/-- The member's bytes after the gap: its key, a colon, `sep` and the value. -/
def part (sep : List UInt8) (m : Member) : List UInt8 :=
  bytesOf (quote m.key).toList ++ 58 :: sep ++ m.bytes

theorem find?_field {ms : List Member} (hnd : (ms.map key).Nodup) {m : Member} (hm : m ∈ ms) :
    (ms.map field).find? (fun f => f.1 == m.key) = some m.field := by
  induction ms with
  | nil => cases hm
  | cons m' ms ih =>
    rw [List.map_cons, List.nodup_cons] at hnd
    rw [List.map_cons, List.find?_cons]
    rcases List.mem_cons.mp hm with rfl | hm
    · simp [field]
    · have hne : m'.key ≠ m.key := fun he => hnd.1 (he ▸ List.mem_map_of_mem hm)
      simp [field, beq_false_of_ne hne, ih hnd.2 hm]

theorem lookup_entry {ms : List Member} (hnd : (ms.map key).Nodup) {m : Member} (hm : m ∈ ms) :
    (ms.map entry).lookup m.key = some m.value := by
  induction ms with
  | nil => cases hm
  | cons m' ms ih =>
    rw [List.map_cons, List.nodup_cons] at hnd
    rw [List.map_cons, List.lookup_cons]
    rcases List.mem_cons.mp hm with rfl | hm
    · simp [entry]
    · have hne : m'.key ≠ m.key := fun he => hnd.1 (he ▸ List.mem_map_of_mem hm)
      simp [entry, beq_false_of_ne (Ne.symm hne), ih hnd.2 hm]

end Member

open Member

theorem length_part (sep : List UInt8) (m : Member) :
    (part sep m).length = (bytesOf (quote m.key).toList).length + 1 + sep.length + m.bytes.length := by
  simp only [part, List.length_append, List.length_cons]
  omega

/-- One member of an object: its key after the lead, the colon, and its value after `sep`. -/
theorem yields_member {act : Nat → Nat → Read Value} {gap sep rest : List UInt8}
    (hgap : Blanks gap) (hsep : Blanks sep) {m : Member} {F D d f : Nat}
    (hread : Reads act m.value m.bytes F D) (hf : F ≤ f) (hd : D ≤ d) {first : Bool} {i : Nat}
    (h : Ahead b i ((if first then gap else 44 :: gap) ++ part sep m ++ rest))
    (hend : Ends b (i + (if first then gap else 44 :: gap).length + (part sep m).length)) :
    Yields (nextKey first) b i (some m.key)
        (i + (if first then gap else 44 :: gap).length + (bytesOf (quote m.key).toList).length) ∧
      Yields colon b
        (i + (if first then gap else 44 :: gap).length + (bytesOf (quote m.key).toList).length) ()
        (i + (if first then gap else 44 :: gap).length + (bytesOf (quote m.key).toList).length + 1) ∧
      Yields (act d f) b
        (i + (if first then gap else 44 :: gap).length + (bytesOf (quote m.key).toList).length + 1)
        m.value (i + (if first then gap else 44 :: gap).length + (part sep m).length) := by
  have hpos : i + (if first then gap else 44 :: gap).length + (bytesOf (quote m.key).toList).length +
      1 + sep.length + m.bytes.length =
      i + (if first then gap else 44 :: gap).length + (part sep m).length := by
    rw [length_part]
    omega
  simp only [part, List.append_assoc, List.cons_append] at h
  obtain ⟨-, h₁⟩ := ahead_append_iff.mp h
  obtain ⟨-, h₂⟩ := ahead_append_iff.mp h₁
  obtain ⟨h58, h₃⟩ := ahead_cons_iff.mp h₂
  rw [← List.append_assoc] at h₃
  refine ⟨yields_nextKey hgap (by rw [List.append_assoc]; exact h), yields_colon h58, ?_⟩
  rw [← hpos] at hend ⊢
  exact hread.yields hf hd hsep (ahead_append_iff.mp h₃).1 hend

/-- After a member is read, the keys still to come are not among those found. -/
theorem lookup_after {found : List (String × Value)} {m : Member} {ms : List Member}
    (hnd : ((m :: ms).map key).Nodup) (hnew : ∀ m' ∈ m :: ms, found.lookup m'.key = none) :
    ∀ m' ∈ ms, (found ++ [m.entry]).lookup m'.key = none := by
  intro m' hm'
  rw [List.map_cons, List.nodup_cons] at hnd
  have hne : m.key ≠ m'.key := fun he => hnd.1 (he ▸ List.mem_map_of_mem hm')
  simp [List.lookup_append, hnew m' (List.mem_cons_of_mem m hm'), entry, Ne.symm hne]

/-- The members of an object are read in order, each under its key, up to the closing brace. -/
theorem yields_members {fields : List (String × Shape × Bool)} {gap sep close rest : List UInt8}
    (hgap : Blanks gap) (hsep : Blanks sep) (hclose : Blanks close) {F D d : Nat} (hd : D ≤ d)
    {ms : List Member}
    (hms : ∀ m ∈ ms, fields.find? (fun f => f.1 == m.key) = some m.field ∧
      ReadsBack m.shape m.value m.bytes F D)
    (hnd : (ms.map key).Nodup) :
    ∀ {found : List (String × Value)} (first : Bool) {i fuel : Nat},
      (∀ m ∈ ms, found.lookup m.key = none) → F + ms.length < fuel →
      Ahead b i (layout gap first (ms.map (part sep)) ++ close ++ 125 :: rest) →
      Yields (members d fuel fields first found) b i (found ++ ms.map entry)
        (i + (layout gap first (ms.map (part sep))).length + close.length) := by
  induction ms with
  | nil =>
    intro found first i fuel _ hfuel h
    obtain ⟨fuel, rfl⟩ : ∃ g, fuel = g + 1 := ⟨fuel - 1, by omega⟩
    rw [members.eq_2]
    simp only [List.map_nil, layout, List.nil_append, List.append_nil, List.length_nil,
      Nat.add_zero] at h ⊢
    exact (yields_nextKey_end first h hclose).bind (yields_pure _ _ _)
  | cons m ms ih =>
    intro found first i fuel hnew hfuel h
    obtain ⟨fuel, rfl⟩ : ∃ g, fuel = g + 1 := ⟨fuel - 1, by omega⟩
    obtain ⟨hfind, hread⟩ := hms m List.mem_cons_self
    simp only [List.map_cons, layout, List.append_assoc] at h
    obtain ⟨-, hnext⟩ := ahead_append_iff.mp (ahead_append_iff.mp h).2
    rw [← List.append_assoc] at h hnext
    obtain ⟨hkey, hcolon, hvalue⟩ := yields_member hgap hsep hread (f := fuel)
      (by simp at hfuel; omega) hd h (ends_layout hclose (Or.inr rfl) hnext)
    have hrest : Yields (members d fuel fields false (found ++ [m.entry])) b _ _ _ :=
      ih (fun m' hm' => hms m' (List.mem_cons_of_mem m hm')) (List.nodup_cons.mp hnd).2 false
        (lookup_after hnd hnew) (by simp at hfuel; omega) hnext
    rw [members.eq_2]
    refine hkey.bind ?_
    dsimp only
    rw [hfind]
    dsimp only [field]
    rw [hnew m List.mem_cons_self]
    simp only [Option.isSome_none, Bool.false_eq_true, if_false]
    refine hcolon.bind (hvalue.under.bind ?_)
    have hlen : (layout gap first ((m :: ms).map (part sep))).length =
        (if first then gap else 44 :: gap).length + (part sep m).length +
          (layout gap false (ms.map (part sep))).length := by
      simp only [List.map_cons, layout, List.length_append]
    rw [hlen, List.map_cons,
      show found ++ m.entry :: ms.map entry = found ++ [m.entry] ++ ms.map entry by simp]
    convert hrest using 1
    · rfl
    · omega

/-- Fields all found are completed, in their declared order, to the values found. -/
theorem yields_complete {found : List (String × Value)} {ms : List Member}
    (h : ∀ m ∈ ms, found.lookup m.key = some m.value) (i : Nat) :
    Yields (complete (ms.map field) found) b i (ms.map entry) i := by
  unfold complete
  induction ms with
  | nil => exact yields_pure _ _ _
  | cons m ms ih =>
    rw [List.map_cons, List.mapM_cons]
    refine Yields.bind (?_ : Yields _ b i m.entry i)
      ((ih fun m' hm' => h m' (List.mem_cons_of_mem m hm')).bind (yields_pure _ _ _))
    simp only [field, h m List.mem_cons_self]
    exact yields_pure _ _ _

/-- An object of a record's members, in the order of its fields, read as the record. -/
theorem readsBack_record {name : String} {ms : List Member} (hnd : (ms.map key).Nodup)
    {F D : Nat} (hms : ∀ m ∈ ms, ReadsBack m.shape m.value m.bytes F D)
    {gap sep close : List UInt8} (hgap : Blanks gap) (hsep : Blanks sep) (hclose : Blanks close) :
    ReadsBack (.record name (ms.map field)) (.obj (ms.map entry))
      (123 :: layout gap true (ms.map (part sep)) ++ close ++ [125]) (F + ms.length + 2)
      (D + 2) := by
  constructor
  intro b i ws f d hf hd hw ha he
  obtain ⟨f, rfl⟩ : ∃ g, f = g + 1 := ⟨f - 1, by omega⟩
  obtain ⟨-, hobj⟩ := ahead_append_iff.mp ha
  rw [List.cons_append, List.cons_append] at hobj
  obtain ⟨-, hbody⟩ := ahead_cons_iff.mp hobj
  have hmembers : Yields (members (d - 1) f (ms.map field) true []) b (i + ws.length + 1)
      ([] ++ ms.map entry)
      (i + ws.length + 1 + (layout gap true (ms.map (part sep))).length + close.length) :=
    yields_members hgap hsep hclose (by omega) (fun m hm => ⟨find?_field hnd hm, hms m hm⟩) hnd
      true (fun _ _ => rfl) (by omega) (by simpa using hbody)
  have hclosing : Yields closeObject b
      (i + ws.length + 1 + (layout gap true (ms.map (part sep))).length + close.length) ()
      (i + ws.length + 1 + (layout gap true (ms.map (part sep))).length + close.length + 1) := by
    have h125 := (ahead_cons_iff.mp (ahead_append_iff.mp hbody).2).1
    rw [List.length_append, ← Nat.add_assoc] at h125
    exact yields_closeObject h125
  rw [List.nil_append] at hmembers
  rw [shaped.eq_10]
  refine Yields.mark ((yields_skipBlanks_to ha hw rfl).bind ?_)
  refine (yields_enter (by omega) _).bind ?_
  have hcontents : Yields (do
      let found ← members (d - 1) f (ms.map field) true []
      let x ← complete (ms.map field) found
      pure (Value.obj x)) b (i + ws.length + 1) (.obj (ms.map entry)) _ :=
    hmembers.bind ((yields_complete (fun m hm => lookup_entry hnd hm) _).bind (yields_pure _ _ _))
  convert Yields.container hcontents hclosing using 1
  simp only [List.length_cons, List.length_append, List.length_nil]
  omega

/-- The members of an object of any values are read in order up to the closing brace; with
no key repeated, each is added after those found. -/
theorem yields_anyMembers {gap sep close rest : List UInt8} (hgap : Blanks gap) (hsep : Blanks sep)
    (hclose : Blanks close) {F D d : Nat} (hd : D ≤ d) {ms : List Member}
    (hms : ∀ m ∈ ms, Parses m.value m.bytes F D) (hnd : (ms.map key).Nodup) :
    ∀ {found : List (String × Value)} (first : Bool) {i fuel : Nat},
      (∀ m ∈ ms, found.lookup m.key = none) → F + ms.length < fuel →
      Ahead b i (layout gap first (ms.map (part sep)) ++ close ++ 125 :: rest) →
      Yields (anyMembers d fuel first found) b i (found ++ ms.map entry)
        (i + (layout gap first (ms.map (part sep))).length + close.length) := by
  induction ms with
  | nil =>
    intro found first i fuel _ hfuel h
    obtain ⟨fuel, rfl⟩ : ∃ g, fuel = g + 1 := ⟨fuel - 1, by omega⟩
    rw [anyMembers.eq_2]
    simp only [List.map_nil, layout, List.nil_append, List.append_nil, List.length_nil,
      Nat.add_zero] at h ⊢
    exact (yields_nextKey_end first h hclose).bind (yields_pure _ _ _)
  | cons m ms ih =>
    intro found first i fuel hnew hfuel h
    obtain ⟨fuel, rfl⟩ : ∃ g, fuel = g + 1 := ⟨fuel - 1, by omega⟩
    simp only [List.map_cons, layout, List.append_assoc] at h
    obtain ⟨-, hnext⟩ := ahead_append_iff.mp (ahead_append_iff.mp h).2
    rw [← List.append_assoc] at h hnext
    obtain ⟨hkey, hcolon, hvalue⟩ := yields_member hgap hsep (hms m List.mem_cons_self) (f := fuel)
      (by simp at hfuel; omega) hd h (ends_layout hclose (Or.inr rfl) hnext)
    have hrest : Yields (anyMembers d fuel false (found ++ [m.entry])) b _ _ _ :=
      ih (fun m' hm' => hms m' (List.mem_cons_of_mem m hm')) (List.nodup_cons.mp hnd).2 false
        (lookup_after hnd hnew) (by simp at hfuel; omega) hnext
    rw [anyMembers.eq_2]
    refine hkey.bind ?_
    dsimp only
    refine hcolon.bind (hvalue.bind ?_)
    rw [hnew m List.mem_cons_self]
    simp only [Option.isSome_none, Bool.false_eq_true, if_false]
    have hlen : (layout gap first ((m :: ms).map (part sep))).length =
        (if first then gap else 44 :: gap).length + (part sep m).length +
          (layout gap false (ms.map (part sep))).length := by
      simp only [List.map_cons, layout, List.length_append]
    rw [hlen, List.map_cons,
      show found ++ m.entry :: ms.map entry = found ++ [m.entry] ++ ms.map entry by simp]
    convert hrest using 1
    · rfl
    · omega

/-- An object of members with distinct keys, parsed as the object. -/
theorem parses_obj {ms : List Member} (hnd : (ms.map key).Nodup) {F D : Nat}
    (hms : ∀ m ∈ ms, Parses m.value m.bytes F D) {gap sep close : List UInt8}
    (hgap : Blanks gap) (hsep : Blanks sep) (hclose : Blanks close) :
    Parses (.obj (ms.map entry)) (123 :: layout gap true (ms.map (part sep)) ++ close ++ [125])
      (F + ms.length + 2) (D + 2) := by
  constructor
  intro b i ws f d hf hd hw ha he
  obtain ⟨f, rfl⟩ : ∃ g, f = g + 1 := ⟨f - 1, by omega⟩
  obtain ⟨-, hobj⟩ := ahead_append_iff.mp ha
  rw [List.cons_append, List.cons_append] at hobj
  obtain ⟨-, hbody⟩ := ahead_cons_iff.mp hobj
  have hmembers : Yields (anyMembers (d - 1) f true []) b (i + ws.length + 1)
      ([] ++ ms.map entry)
      (i + ws.length + 1 + (layout gap true (ms.map (part sep))).length + close.length) :=
    yields_anyMembers hgap hsep hclose (by omega) hms hnd true (fun _ _ => rfl) (by omega)
      (by simpa using hbody)
  rw [List.nil_append] at hmembers
  have hclosing : Yields closeObject b
      (i + ws.length + 1 + (layout gap true (ms.map (part sep))).length + close.length) ()
      (i + ws.length + 1 + (layout gap true (ms.map (part sep))).length + close.length + 1) := by
    have h125 := (ahead_cons_iff.mp (ahead_append_iff.mp hbody).2).1
    rw [List.length_append, ← Nat.add_assoc] at h125
    exact yields_closeObject h125
  have hcontents : Yields (do
      let x ← anyMembers (d - 1) f true []
      pure (Value.obj x)) b (i + ws.length + 1) (.obj (ms.map entry)) _ :=
    hmembers.bind (yields_pure _ _ _)
  rw [anyValue.eq_2]
  refine Yields.placing ((yields_skipBlanks_to ha hw rfl).bind ?_)
  refine (yields_enter (by omega) _).bind ?_
  convert Yields.container hcontents hclosing using 1
  simp only [List.length_cons, List.length_append, List.length_nil]
  omega

/-- An item as written starts at a byte that is neither blank nor a comma nor a closing
bracket. -/
def Opens (w : List UInt8) : Prop := ∃ x rest, w = x :: rest ∧ blank x = false ∧ x ≠ 93 ∧ x ≠ 44

/-- The items of an array are read in order, each under its index, up to the closing bracket. -/
theorem yields_items {item : Shape} {gap close rest : List UInt8} (hgap : Blanks gap)
    (hclose : Blanks close) {F D d : Nat} (hd : D ≤ d) {vs : List (Value × List UInt8)}
    (hvs : ∀ p ∈ vs, ReadsBack item p.1 p.2 F D ∧ Opens p.2) :
    ∀ (index : Nat) {i fuel : Nat}, F + vs.length < fuel →
      Ahead b i (layout gap (index == 0) (vs.map Prod.snd) ++ close ++ 93 :: rest) →
      Yields (items d fuel item index) b i (vs.map Prod.fst)
        (i + (layout gap (index == 0) (vs.map Prod.snd)).length + close.length) := by
  induction vs with
  | nil =>
    intro index i fuel hfuel h
    obtain ⟨fuel, rfl⟩ : ∃ g, fuel = g + 1 := ⟨fuel - 1, by omega⟩
    rw [items.eq_2]
    simp only [List.map_nil, layout, List.nil_append, List.length_nil, Nat.add_zero] at h ⊢
    exact (yields_nextItem_end _ h hclose).bind (yields_pure _ _ _)
  | cons p vs ih =>
    intro index i fuel hfuel h
    obtain ⟨fuel, rfl⟩ : ∃ g, fuel = g + 1 := ⟨fuel - 1, by omega⟩
    obtain ⟨hread, x, w, hw, hx, h93, h44⟩ := hvs p List.mem_cons_self
    simp only [List.map_cons, layout, List.append_assoc] at h
    obtain ⟨-, h₁⟩ := ahead_append_iff.mp h
    obtain ⟨-, h₂⟩ := ahead_append_iff.mp h₁
    have hlead := h
    rw [hw, List.cons_append] at hlead
    have hnext := yields_nextItem hgap hlead hx h93 h44
    have hvalue := hread.here (f := fuel) (by simp at hfuel; omega) hd (ahead_append_iff.mp h₁).1
      (ends_layout hclose (Or.inl rfl) (by simpa [List.append_assoc] using h₂))
    have hrest : Yields (items d fuel item (index + 1)) b
        (i + (if index == 0 then gap else 44 :: gap).length + p.2.length) (vs.map Prod.fst) _ :=
      ih (fun p hp => hvs p (List.mem_cons_of_mem _ hp)) (index + 1) (by simp at hfuel; omega)
        (by simpa [List.append_assoc] using h₂)
    rw [show (index + 1 == 0) = false by simp] at hrest
    rw [items.eq_2]
    refine hnext.bind ?_
    refine hvalue.under.bind (hrest.bind ?_)
    have hlen : (layout gap (index == 0) ((p :: vs).map Prod.snd)).length =
        (if index == 0 then gap else 44 :: gap).length + p.2.length +
          (layout gap false (vs.map Prod.snd)).length := by
      simp only [List.map_cons, layout, List.length_append]
    rw [hlen]
    convert yields_pure _ b _ using 1
    · rfl
    · omega

/-- An array of items, read as the list of their values. -/
theorem readsBack_list {item : Shape} {vs : List (Value × List UInt8)} {F D : Nat}
    (hvs : ∀ p ∈ vs, ReadsBack item p.1 p.2 F D ∧ Opens p.2) {gap close : List UInt8}
    (hgap : Blanks gap) (hclose : Blanks close) :
    ReadsBack (.list item) (.arr (vs.map Prod.fst))
      (91 :: layout gap true (vs.map Prod.snd) ++ close ++ [93]) (F + vs.length + 2) (D + 2) := by
  constructor
  intro b i ws f d hf hd hw ha he
  obtain ⟨f, rfl⟩ : ∃ g, f = g + 1 := ⟨f - 1, by omega⟩
  obtain ⟨-, harr⟩ := ahead_append_iff.mp ha
  rw [List.cons_append, List.cons_append] at harr
  obtain ⟨-, hbody⟩ := ahead_cons_iff.mp harr
  have hitems : Yields (items (d - 1) f item 0) b (i + ws.length + 1) (vs.map Prod.fst)
      (i + ws.length + 1 + (layout gap true (vs.map Prod.snd)).length + close.length) :=
    yields_items hgap hclose (by omega) hvs 0 (by omega) (by simpa using hbody)
  have hclosing : Yields closeArray b
      (i + ws.length + 1 + (layout gap true (vs.map Prod.snd)).length + close.length) ()
      (i + ws.length + 1 + (layout gap true (vs.map Prod.snd)).length + close.length + 1) := by
    have h93 := (ahead_cons_iff.mp (ahead_append_iff.mp hbody).2).1
    rw [List.length_append, ← Nat.add_assoc] at h93
    exact yields_closeArray h93
  rw [shaped.eq_8]
  refine Yields.mark ((yields_skipBlanks_to ha hw rfl).bind ?_)
  refine (yields_enter (by omega) _).bind ?_
  have hcontents : Yields (do
      let x ← items (d - 1) f item 0
      pure (Value.arr x)) b (i + ws.length + 1) (.arr (vs.map Prod.fst)) _ :=
    hitems.bind (yields_pure _ _ _)
  convert Yields.container hcontents hclosing using 1
  simp only [List.length_cons, List.length_append, List.length_nil]
  omega

/-- Parts that are not empty are at most as many as the bytes of their layout. -/
theorem length_le_layout {gap : List UInt8} (first : Bool) {ps : List (List UInt8)}
    (hps : ∀ p ∈ ps, p ≠ []) : ps.length ≤ (layout gap first ps).length := by
  induction ps generalizing first with
  | nil => exact Nat.zero_le _
  | cons p ps ih =>
    have hp : 1 ≤ p.length := List.length_pos_iff.mpr (hps p List.mem_cons_self)
    have := ih false (fun q hq => hps q (List.mem_cons_of_mem p hq))
    simp only [layout, List.length_append, List.length_cons]
    omega

/-- Bytes read as a value, as the whole input, within the bounds a whole text is given. -/
theorem runRead_whole {act : Nat → Nat → Read Value} {v : Value} {w : List UInt8}
    {fuel depth : Nat} (h : Reads act v w fuel depth) (hf : fuel ≤ 4 * w.length + 16)
    (hd : depth ≤ depthLimit) :
    runRead w.toByteArray (do
      let v ← act depthLimit (4 * w.toByteArray.size + 16)
      finish
      return v) = .ok v := by
  have hsize : w.toByteArray.size = w.length := List.size_toByteArray
  have hend : w.toByteArray[w.length]? = none := getElem?_neg _ _ (by omega)
  have hread := h.here (f := 4 * w.toByteArray.size + 16) (by omega) hd (ahead_toByteArray w)
    (fun x hx => by rw [Nat.zero_add, hend] at hx; cases hx)
  have hfinish : Yields finish w.toByteArray (0 + w.length) () (0 + w.length) := by
    have hskip : Yields skipBlanks w.toByteArray (0 + w.length) none
        (0 + w.length + ([] : List UInt8).length) :=
      yields_skipBlanks_end (ahead_nil _ _) blanks_nil (by simp [hsize])
    rw [List.length_nil, Nat.add_zero] at hskip
    exact hskip.bind (yields_pure _ _ _)
  exact runRead_of_yields (hread.bind (hfinish.bind (yields_pure _ _ _)))

theorem readBytesAs_of_readsBack {sh : Shape} {v : Value} {w : List UInt8} {fuel depth : Nat}
    (h : ReadsBack sh v w fuel depth) (hf : fuel ≤ 4 * w.length + 16) (hd : depth ≤ depthLimit) :
    readBytesAs w.toByteArray sh = .ok v :=
  runRead_whole h hf hd

theorem parseBytes_of_parses {v : Value} {w : List UInt8} {fuel depth : Nat}
    (h : Parses v w fuel depth) (hf : fuel ≤ 4 * w.length + 16) (hd : depth ≤ depthLimit) :
    parseBytes w.toByteArray = .ok v :=
  runRead_whole h hf hd

theorem toUTF8_eq (s : String) : s.toUTF8 = (bytesOf s.toList).toByteArray := by
  rw [String.toUTF8_eq_toByteArray, toByteArray_eq_utf8Encode]
  rfl

/-- A text whose bytes read back as a value is read as that value. -/
theorem readAs_of_readsBack {sh : Shape} {v : Value} {text : String} {fuel depth : Nat}
    (h : ReadsBack sh v (bytesOf text.toList) fuel depth)
    (hf : fuel ≤ 4 * (bytesOf text.toList).length + 16) (hd : depth ≤ depthLimit) :
    readAs text sh = .ok v := by
  rw [readAs, toUTF8_eq]
  exact readBytesAs_of_readsBack h hf hd

/-- A text whose bytes parse as a value is parsed as that value. -/
theorem parse_of_parses {v : Value} {text : String} {fuel depth : Nat}
    (h : Parses v (bytesOf text.toList) fuel depth)
    (hf : fuel ≤ 4 * (bytesOf text.toList).length + 16) (hd : depth ≤ depthLimit) :
    parse text = .ok v := by
  rw [parse, toUTF8_eq]
  exact parseBytes_of_parses h hf hd

end AdvisoryTrace.Json.Read
