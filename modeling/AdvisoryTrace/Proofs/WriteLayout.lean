import Mathlib
import AdvisoryTrace.Proofs.ReadBack

/-!
# The layouts the writer puts down

The bytes of a compact or pretty text, as a `layout` of parts: an object's members, each its key,
a colon and the value, separated by commas; in the pretty text each part on a line of its own,
indented one level deeper, and the closing bracket on a line at the level.
-/

namespace AdvisoryTrace.Json

theorem compactFields_eq (fields : List (String × Value)) :
    compactFields fields = fields.map fun f => quote f.1 ++ ":" ++ f.2.compact := by
  induction fields with
  | nil => rfl
  | cons f fields ih => rw [compactFields, ih]; rfl

theorem prettyFields_eq (level : Nat) (fields : List (String × Value)) :
    prettyFields level fields =
      fields.map fun f => indent level ++ quote f.1 ++ ": " ++ f.2.pretty level := by
  induction fields with
  | nil => rfl
  | cons f fields ih => rw [prettyFields, ih]; rfl

theorem prettyItems_eq (level : Nat) (vs : List Value) :
    prettyItems level vs = vs.map fun v => indent level ++ v.pretty level := by
  induction vs with
  | nil => rfl
  | cons v vs ih => rw [prettyItems, ih]; rfl

namespace Read

/-- Parts joined by a comma and `g₁`, each after `g₂`, are the layout with the gap `g₁ ++ g₂`
past its first `g₁`. -/
theorem intercalate_eq_layout (g₁ g₂ p : List UInt8) (ps : List (List UInt8)) :
    g₁ ++ (44 :: g₁).intercalate ((p :: ps).map (g₂ ++ ·)) = layout (g₁ ++ g₂) true (p :: ps) := by
  suffices h : ∀ p, (44 :: g₁).intercalate ((p :: ps).map (g₂ ++ ·)) =
      g₂ ++ p ++ layout (g₁ ++ g₂) false ps by
    rw [h]
    simp [layout]
  induction ps with
  | nil => intro p; simp [layout]
  | cons q ps ih =>
    intro p
    rw [List.map_cons, List.map_cons, List.intercalate_cons_cons, ← List.map_cons, ih q]
    simp [layout]

theorem bytesOf_intercalate (sep : List Char) (ls : List (List Char)) :
    bytesOf (sep.intercalate ls) = (bytesOf sep).intercalate (ls.map bytesOf) := by
  induction ls with
  | nil => rfl
  | cons l ls ih =>
    cases ls with
    | nil => simp
    | cons l' ls => rw [List.intercalate_cons_cons, bytesOf_append, bytesOf_append, ih]; simp

theorem bytesOf_toList_append (s t : String) :
    bytesOf (s ++ t).toList = bytesOf s.toList ++ bytesOf t.toList := by
  rw [String.toList_append, bytesOf_append]

theorem bytesOf_indent (level : Nat) :
    bytesOf (indent level).toList = List.replicate (2 * level) 32 := by
  rw [indent, String.toList_ofList]
  induction 2 * level with
  | zero => rfl
  | succ n ih => rw [List.replicate_succ, bytesOf_cons, ih]; rfl

theorem blanks_indent (level : Nat) : Blanks (10 :: bytesOf (indent level).toList) := by
  intro x hx
  rw [bytesOf_indent, List.mem_cons] at hx
  rcases hx with rfl | hx
  · rfl
  · rw [List.eq_of_mem_replicate hx]; rfl

theorem intercalate_comma (ps : List (List UInt8)) : [44].intercalate ps = layout [] true ps := by
  cases ps with
  | nil => rfl
  | cons p ps => simpa using intercalate_eq_layout [] [] p ps

/-- The compact text of an object: its members, each a key, a colon and the value's compact
text, with no blanks. -/
theorem bytesOf_compact_obj (fields : List (String × Value)) :
    bytesOf (Value.obj fields).compact.toList =
      123 :: layout [] true (fields.map fun f =>
        bytesOf (quote f.1).toList ++ 58 :: [] ++ bytesOf f.2.compact.toList) ++ [] ++ [125] := by
  rw [Value.compact.eq_6, compactFields_eq]
  simp only [bytesOf_toList_append, String.toList_intercalate, bytesOf_intercalate, List.map_map]
  rw [← intercalate_comma]
  simp [Function.comp_def, bytesOf_cons, bytesOf_append, bytesOf_nil, utf8EncodeChar_of_lt]

theorem layout_newline (ind : List UInt8) {ps : List (List UInt8)} (hps : ps ≠ []) :
    layout (10 :: ind) true ps = 10 :: [44, 10].intercalate (ps.map (ind ++ ·)) := by
  obtain ⟨p, ps, rfl⟩ := List.exists_cons_of_ne_nil hps
  simpa using (intercalate_eq_layout [10] ind p ps).symm

/-- The pretty text of an object at a level: its members on lines of their own one level
deeper, each a key, a colon, a space and the value's pretty text, and the closing brace on a
line of its own at the level. -/
theorem bytesOf_pretty_obj (level : Nat) (fields : List (String × Value)) :
    ∃ close, Blanks close ∧ bytesOf ((Value.obj fields).pretty level).toList =
      123 :: layout (10 :: bytesOf (indent (level + 1)).toList) true (fields.map fun f =>
        bytesOf (quote f.1).toList ++ 58 :: [32] ++ bytesOf (f.2.pretty (level + 1)).toList) ++
        close ++ [125] := by
  cases fields with
  | nil =>
    refine ⟨[], blanks_nil, ?_⟩
    rw [Value.pretty.eq_2]
    simp only [List.map_nil, layout]
    decide
  | cons f fields =>
    refine ⟨10 :: bytesOf (indent level).toList, blanks_indent level, ?_⟩
    rw [Value.pretty.eq_4 _ _ (List.cons_ne_nil _ _), prettyFields_eq]
    simp only [bytesOf_toList_append, String.toList_intercalate, bytesOf_intercalate, List.map_map]
    rw [layout_newline _ (by simp)]
    simp [Function.comp_def, bytesOf_cons, bytesOf_append, utf8EncodeChar_of_lt]

/-- The pretty text of an array at a level: its items on lines of their own one level deeper,
and the closing bracket on a line of its own at the level. -/
theorem bytesOf_pretty_arr (level : Nat) (vs : List Value) :
    ∃ close, Blanks close ∧ bytesOf ((Value.arr vs).pretty level).toList =
      91 :: layout (10 :: bytesOf (indent (level + 1)).toList) true
        (vs.map fun v => bytesOf (v.pretty (level + 1)).toList) ++ close ++ [93] := by
  cases vs with
  | nil =>
    refine ⟨[], blanks_nil, ?_⟩
    rw [Value.pretty.eq_1]
    simp only [List.map_nil, layout]
    decide
  | cons v vs =>
    refine ⟨10 :: bytesOf (indent level).toList, blanks_indent level, ?_⟩
    rw [Value.pretty.eq_3 _ _ (List.cons_ne_nil _ _), prettyItems_eq]
    simp only [bytesOf_toList_append, String.toList_intercalate, bytesOf_intercalate, List.map_map]
    rw [layout_newline _ (by simp)]
    simp [Function.comp_def, bytesOf_cons, bytesOf_append, utf8EncodeChar_of_lt]

theorem compact_str (s : String) : (Value.str s).compact = quote s := by rw [Value.compact]

theorem bytesOf_compact_null : bytesOf Value.null.compact.toList = [110, 117, 108, 108] := by
  rw [Value.compact]
  decide

theorem bytesOf_compact_nat (n : Nat) :
    bytesOf (Value.num (.nat n)).compact.toList = bytesOf (Nat.toDigits 10 n) := by
  rw [Value.compact, Number.text]
  show bytesOf (String.ofList (Nat.toDigits 10 n)).toList = _
  rw [String.toList_ofList]

/-- The members' entries written with their bytes are the members' parts. -/
theorem map_entry_eq_part {ms : List Member} {sep : List UInt8} {g : Value → List UInt8}
    (h : ∀ m ∈ ms, m.bytes = g m.value) :
    (ms.map Member.entry).map (fun f => bytesOf (quote f.1).toList ++ 58 :: sep ++ g f.2) =
      ms.map (Member.part sep) := by
  rw [List.map_map]
  apply List.map_congr_left
  intro m hm
  simp only [Function.comp_apply, Member.entry, Member.part, h m hm]

end Read

end AdvisoryTrace.Json
