import Mathlib
import AdvisoryTrace.Json.Reader

/-!
# Reading JSON step by step

The reader runs over the bytes of a text, with the index of the next byte as its state.
`Yields act b i a j` says that `act`, started at index `i` of the bytes `b`, succeeds with `a`
and stops at index `j`. The lemmas below give that for each step the reader takes (a byte, a run
of blanks, a keyword, the punctuation around items) from the bytes that lie ahead
(`Ahead b i l`), and compose along `bind`, so that a proof about a reader follows its `do` block.
-/

namespace AdvisoryTrace.Json.Read

variable {α β : Type} {b : ByteArray}

/-- Run on the bytes `b` from index `i`, the reader gives `a` and stops at index `j`. -/
def Yields (act : Read α) (b : ByteArray) (i : Nat) (a : α) (j : Nat) : Prop :=
  act b i = (.ok a, j)

theorem yields_pure (a : α) (b : ByteArray) (i : Nat) : Yields (pure a) b i a i := rfl

theorem Yields.bind {x : Read α} {f : α → Read β} {i j k : Nat} {a : α} {c : β}
    (hx : Yields x b i a j) (hf : Yields (f a) b j c k) : Yields (x >>= f) b i c k := by
  change (ExceptT.bind (x b) (fun a => f a b)) i = _
  simp only [ExceptT.bind, ExceptT.mk]
  change (StateT.bind (x b) _) i = _
  simp only [StateT.bind, show x b i = (.ok a, j) from hx]
  exact hf

theorem Yields.map {x : Read α} {f : α → β} {i j : Nat} {a : α} (hx : Yields x b i a j) :
    Yields (f <$> x) b i (f a) j := by
  rw [← bind_pure_comp]
  exact hx.bind (yields_pure _ _ _)

theorem yields_read (b : ByteArray) (i : Nat) : Yields read b i b i := rfl

theorem yields_get (b : ByteArray) (i : Nat) : Yields get b i i i := rfl

theorem yields_set (b : ByteArray) (i j : Nat) : Yields (set j) b i () j := rfl

theorem yields_peek (b : ByteArray) (i : Nat) : Yields peek b i b[i]? i := rfl

theorem yields_eat (b : ByteArray) (i : Nat) : Yields eat b i () (i + 1) := rfl

theorem yields_next {i : Nat} {x : UInt8} (h : b[i]? = some x) : Yields next b i (some x) (i + 1) := by
  unfold next
  refine (yields_peek b i).bind ?_
  rw [h]
  exact (yields_eat b i).bind (yields_pure _ _ _)

/-- A handler is not run when the reader succeeds. -/
theorem Yields.tryCatch {act : Read α} {h : Fault → Read α} {i j : Nat} {a : α}
    (ha : Yields act b i a j) : Yields (tryCatch act h) b i a j := by
  change (ExceptT.tryCatch (act b) (fun f => h f b)) i = _
  simp only [ExceptT.tryCatch, ExceptT.mk]
  change (StateT.bind (act b) _) i = _
  simp only [StateT.bind, show act b i = (.ok a, j) from ha]
  rfl

theorem Yields.mark {act : Read α} {i j : Nat} {a : α} (ha : Yields act b i a j) :
    Yields (mark act) b i a j := ha.tryCatch

theorem Yields.under {act : Read α} {step : Segment} {i j : Nat} {a : α}
    (ha : Yields act b i a j) : Yields (under step act) b i a j := ha.tryCatch

theorem Yields.placing {act : Read α} {i j : Nat} {a : α} (ha : Yields act b i a j) :
    Yields (placing act) b i a j := ha.tryCatch

theorem Yields.attempt {act : Read α} {i j : Nat} {a : α} (ha : Yields act b i a j) :
    Yields (attempt act) b i (.ok a) j := ha.map.tryCatch

/-- A container whose contents and closing both read gives the contents. -/
theorem Yields.container {contents : Read α} {close : Read Unit} {i j k : Nat} {a : α}
    (hc : Yields contents b i a j) (hk : Yields close b j () k) :
    Yields (container contents close) b i a k :=
  hc.attempt.bind (hk.attempt.bind (yields_pure _ _ _))

theorem getElem?_eq_data (b : ByteArray) (i : Nat) : b[i]? = b.data[i]? := by
  by_cases h : i < b.size
  · rw [getElem?_pos b i h, getElem?_pos b.data i h]
    rfl
  · rw [getElem?_neg b i h, getElem?_neg b.data i h]

/-- The bytes from index `i` on start with `l`. -/
def Ahead (b : ByteArray) (i : Nat) (l : List UInt8) : Prop :=
  ∀ k (hk : k < l.length), b[i + k]? = some l[k]

theorem ahead_nil (b : ByteArray) (i : Nat) : Ahead b i [] := fun _ hk => absurd hk (by simp)

theorem ahead_cons_iff {i : Nat} {x : UInt8} {l : List UInt8} :
    Ahead b i (x :: l) ↔ b[i]? = some x ∧ Ahead b (i + 1) l := by
  constructor
  · intro h
    have h0 := h 0 (by simp)
    rw [Nat.add_zero, List.getElem_cons_zero] at h0
    refine ⟨h0, fun k hk => ?_⟩
    have := h (k + 1) (by simp; omega)
    simpa [Nat.add_assoc, Nat.add_comm 1 k] using this
  · rintro ⟨hx, hl⟩ k hk
    cases k with
    | zero => simpa using hx
    | succ k =>
      have := hl k (by simp at hk; omega)
      simpa [Nat.add_assoc, Nat.add_comm 1 k] using this

theorem ahead_append_iff {i : Nat} {l₁ l₂ : List UInt8} :
    Ahead b i (l₁ ++ l₂) ↔ Ahead b i l₁ ∧ Ahead b (i + l₁.length) l₂ := by
  induction l₁ generalizing i with
  | nil => simp [ahead_nil]
  | cons x l ih =>
    rw [List.cons_append, ahead_cons_iff, ahead_cons_iff, ih]
    simp only [List.length_cons, Nat.add_assoc, Nat.add_comm 1 l.length, and_assoc]

theorem Ahead.lt_size {i : Nat} {l : List UInt8} (h : Ahead b i l) {k : Nat} (hk : k < l.length) :
    i + k < b.size := by
  have := h k hk
  rw [getElem?_eq_some_iff] at this
  exact this.1

/-- The bytes `skipBlanks` passes over: space, tab, line feed and carriage return. -/
def blank (x : UInt8) : Bool := x == 32 || x == 9 || x == 10 || x == 13

/-- Nothing at index `j` is a blank. -/
def Unblank (b : ByteArray) (j : Nat) : Prop := ∀ x, b[j]? = some x → blank x = false

theorem skipBlanks_go {i fuel : Nat} {ws : List UInt8} (hw : Ahead b i ws) (hbl : ∀ x ∈ ws, blank x)
    (hst : Unblank b (i + ws.length)) (hf : ws.length < fuel) :
    skipBlanks.go b i fuel = i + ws.length := by
  induction ws generalizing i fuel with
  | nil =>
    cases fuel with
    | zero => simp at hf
    | succ fuel =>
      rw [skipBlanks.go]
      cases hx : b[i]? with
      | none => rfl
      | some x =>
        have := hst x (by simpa using hx)
        simp only [blank] at this
        simp [this]
  | cons x ws ih =>
    obtain ⟨hx, hw'⟩ := ahead_cons_iff.mp hw
    cases fuel with
    | zero => simp at hf
    | succ fuel =>
      have hbx : blank x = true := hbl x List.mem_cons_self
      simp only [blank] at hbx
      rw [skipBlanks.go, hx]
      simp only [hbx, if_true]
      rw [ih hw' (fun y hy => hbl y (List.mem_cons_of_mem x hy))
        (by simpa [Nat.add_assoc, Nat.add_comm 1 ws.length] using hst) (by simp at hf; omega)]
      simp [Nat.add_assoc, Nat.add_comm 1 ws.length]

/-- `skipBlanks` passes over a run of blanks and shows what follows. -/
theorem yields_skipBlanks {i : Nat} {ws : List UInt8} (hw : Ahead b i ws) (hbl : ∀ x ∈ ws, blank x)
    (hst : Unblank b (i + ws.length)) :
    Yields skipBlanks b i b[i + ws.length]? (i + ws.length) := by
  have hf : ws.length < b.size - i + 1 := by
    cases ws with
    | nil => simp
    | cons x ws =>
      have := hw.lt_size (k := ws.length) (by simp)
      simp only [List.length_cons]
      omega
  unfold skipBlanks
  refine (yields_read b i).bind ((yields_get b i).bind ?_)
  rw [skipBlanks_go hw hbl hst hf]
  exact (yields_set b i _).bind (yields_peek b _)

/-- Every byte of the list is a blank. -/
def Blanks (ws : List UInt8) : Prop := ∀ x ∈ ws, blank x = true

/-- `skipBlanks` passes over blanks to the byte after them. -/
theorem yields_skipBlanks_to {i : Nat} {ws rest : List UInt8} {x : UInt8}
    (h : Ahead b i (ws ++ x :: rest)) (hw : Blanks ws) (hx : blank x = false) :
    Yields skipBlanks b i (some x) (i + ws.length) := by
  obtain ⟨hws, hxr⟩ := ahead_append_iff.mp h
  have hget : b[i + ws.length]? = some x := (ahead_cons_iff.mp hxr).1
  have hy := yields_skipBlanks hws hw (fun y hy => by rw [hget] at hy; cases hy; exact hx)
  rwa [hget] at hy

theorem blanks_nil : Blanks [] := fun _ h => absurd h List.not_mem_nil

/-- `skipBlanks` stays at a byte that is not blank. -/
theorem yields_skipBlanks_at {i : Nat} {x : UInt8} (h : b[i]? = some x) (hx : blank x = false) :
    Yields skipBlanks b i (some x) i := by
  have hy := yields_skipBlanks (ahead_nil b i) (fun _ h => absurd h List.not_mem_nil)
    (fun y hy => by rw [List.length_nil, Nat.add_zero, h] at hy; cases hy; exact hx)
  simpa [h] using hy

/-- `skipBlanks` passes over blanks to the end of the bytes. -/
theorem yields_skipBlanks_end {i : Nat} {ws : List UInt8} (h : Ahead b i ws) (hw : Blanks ws)
    (hend : i + ws.length = b.size) : Yields skipBlanks b i none (i + ws.length) := by
  have hget : b[i + ws.length]? = none := getElem?_neg b _ (by omega)
  have hy := yields_skipBlanks h hw (fun y hy => by rw [hget] at hy; cases hy)
  rwa [hget] at hy

theorem yields_keyword {i : Nat} {rest : List UInt8} (h : Ahead b i rest) :
    Yields (keyword rest) b i () (i + rest.length) := by
  unfold keyword
  refine Yields.bind (a := PUnit.unit) ?_ (yields_pure _ _ _)
  -- the loop, one expected byte at a time
  induction rest generalizing i with
  | nil => exact yields_pure _ _ _
  | cons x rest ih =>
    obtain ⟨hx, hr⟩ := ahead_cons_iff.mp h
    rw [List.forIn_cons]
    refine Yields.bind (?_ : Yields _ b i (ForInStep.yield PUnit.unit) (i + 1)) ?_
    · refine (yields_next hx).bind ?_
      simp only [bne_self_eq_false, Bool.false_eq_true, if_false]
      exact yields_pure _ _ _
    · have := ih hr
      simp only [List.length_cons]
      rwa [Nat.add_assoc, Nat.add_comm 1] at this

theorem yields_enter {depth : Nat} (hd : 2 ≤ depth) (i : Nat) :
    Yields (enter depth) b i (depth - 1) (i + 1) := by
  unfold enter
  rw [if_neg (by omega)]
  exact (yields_eat b i).bind (yields_pure _ _ _)

/-- A byte that a closing or separating step expects, right where the reader stands. -/
theorem yields_expect {i : Nat} {x : UInt8} (h : b[i]? = some x) (hx : blank x = false)
    {step : Option UInt8 → Read Unit} (hstep : step (some x) = eat) :
    Yields (skipBlanks >>= step) b i () (i + 1) :=
  (yields_skipBlanks_at h hx).bind (hstep ▸ yields_eat b i)

theorem yields_colon {i : Nat} (h : b[i]? = some 58) : Yields colon b i () (i + 1) :=
  yields_expect h rfl rfl

theorem yields_closeArray {i : Nat} (h : b[i]? = some 93) : Yields closeArray b i () (i + 1) :=
  yields_expect h rfl rfl

theorem yields_closeObject {i : Nat} (h : b[i]? = some 125) : Yields closeObject b i () (i + 1) :=
  yields_expect h rfl rfl

/-- Before `]` there is no further item. -/
theorem yields_nextItem_end {i : Nat} {ws rest : List UInt8} (first : Bool)
    (h : Ahead b i (ws ++ 93 :: rest)) (hw : Blanks ws) :
    Yields (nextItem first) b i none (i + ws.length) :=
  (yields_skipBlanks_to h hw rfl).bind (yields_pure _ _ _)

/-- The first item starts at the first byte after blanks that is not `]` or `,`. -/
theorem yields_nextItem_first {i : Nat} {ws rest : List UInt8} {x : UInt8}
    (h : Ahead b i (ws ++ x :: rest)) (hw : Blanks ws) (hx : blank x = false) (h93 : x ≠ 93)
    (h44 : x ≠ 44) : Yields (nextItem true) b i (some ()) (i + ws.length) := by
  refine (yields_skipBlanks_to h hw hx).bind ?_
  split
  next heq => exact absurd (Option.some.inj heq) h93
  next heq => exact absurd (Option.some.inj heq) h44
  next y _ _ heq =>
    obtain rfl := Option.some.inj heq
    refine (yields_pure _ _ _).bind ?_
    beta_reduce
    split
    next heq' => exact absurd (Option.some.inj heq') h93
    next => exact yields_pure _ _ _
    next heq' => cases heq'
  next heq => cases heq

/-- The next item, after blanks and, unless it is the first, a comma: it starts at a byte that
neither closes the array nor separates items. -/
theorem yields_nextItem {first : Bool} {i : Nat} {gap rest : List UInt8} {x : UInt8}
    (hgap : Blanks gap) (h : Ahead b i ((if first then gap else 44 :: gap) ++ x :: rest))
    (hx : blank x = false) (h93 : x ≠ 93) (h44 : x ≠ 44) :
    Yields (nextItem first) b i (some ()) (i + (if first then gap else 44 :: gap).length) := by
  cases first with
  | true =>
    simp only [if_true] at h ⊢
    exact yields_nextItem_first h hgap hx h93 h44
  | false =>
    simp only [Bool.false_eq_true, if_false, List.cons_append, List.length_cons] at h ⊢
    obtain ⟨h44', hrest⟩ := ahead_cons_iff.mp h
    have hpos : i + (gap.length + 1) = i + 1 + gap.length := by omega
    rw [hpos]
    refine (yields_skipBlanks_at h44' rfl).bind ?_
    split
    next heq => cases heq
    next =>
      refine (yields_eat b i).bind ((yields_skipBlanks_to hrest hgap hx).bind ?_)
      beta_reduce
      split
      next heq => exact absurd (Option.some.inj heq) h93
      next => exact yields_pure _ _ _
      next heq => cases heq
    next =>
      rename_i _ h44'' heq
      exact absurd (Option.some.inj heq).symm h44''
    next heq => cases heq

theorem runRead_of_yields {act : Read α} {a : α} {j : Nat}
    (h : Yields act b 0 a j) : runRead b act = .ok a := by
  change (act b 0).1 = _
  rw [show act b 0 = (.ok a, j) from h]

theorem ahead_toByteArray (w : List UInt8) : Ahead w.toByteArray 0 w := by
  intro k hk
  rw [getElem?_eq_data, List.data_toByteArray, Nat.zero_add]
  simp [hk]

end AdvisoryTrace.Json.Read
