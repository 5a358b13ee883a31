import Mathlib
import AdvisoryTrace.Export.Render
import AdvisoryTrace.Proofs.WriteLayout

/-!
# Records read back from their JSON

A record's wire object has five members, in the order of the record's fields: the id, the
status by name, the confidence (a byte, or null), the call chain and the error (texts, or
null). Each member's value reads back by its field's shape and parses as itself, so that

* `Record.readAs_compact`: a record's compact text reads back, by the record's shape, as its
  value, and `Record.parse_compact`: read as any JSON it is that value too;
* `Record.readAs_render`: the JSON export, where the records stand pretty one level into an
  array, reads back as the list of their values;
* `Record.ofValue_toValue`: a record's value decodes to the record.
-/

namespace AdvisoryTrace

open Json Json.Read

namespace Record

/-- The confidence on the wire: its number, or null. -/
def confidenceValue : Option UInt8 → Json.Value
  | some c => .ofNat c.toNat
  | none => .null

/-- A member of a record's wire object, with its value's compact bytes. -/
def wireMember (key : String) (shape : Shape) (v : Json.Value) : Member :=
  ⟨key, shape, false, v, bytesOf v.compact.toList⟩

/-- The members of a record's wire object, in the order of its fields. -/
def wireMembers (r : Record) : List Member :=
  [wireMember "id" .text (.str r.id), wireMember "status" Status.shape (.str r.status.name),
    wireMember "confidence" (.optional .byte) (confidenceValue r.confidence),
    wireMember "call_chain" (.optional .text) (.ofOption r.chain),
    wireMember "error" (.optional .text) (.ofOption r.error)]

theorem toValue_eq_wire (r : Record) : r.toValue = .obj (r.wireMembers.map Member.entry) := by
  obtain ⟨id, status, confidence, chain, error⟩ := r
  cases confidence <;> rfl

theorem nodup_wire_keys (r : Record) : (r.wireMembers.map Member.key).Nodup := by
  show ["id", "status", "confidence", "call_chain", "error"].Nodup
  decide

theorem name_mem_variants (st : Status) : st.name ∈ ["pending", "done", "failed"] := by
  cases st <;> decide

theorem bytes_wireMember (key : String) (sh : Shape) (v : Json.Value) :
    (wireMember key sh v).bytes = bytesOf (wireMember key sh v).value.compact.toList :=
  rfl

theorem bytes_wireMembers (r : Record) :
    ∀ m ∈ r.wireMembers, m.bytes = bytesOf m.value.compact.toList := by
  simp only [wireMembers, List.mem_cons, List.not_mem_nil, or_false]
  rintro m (rfl | rfl | rfl | rfl | rfl) <;> exact bytes_wireMember _ _ _

theorem pretty_wireMembers (r : Record) (level : Nat) :
    ∀ m ∈ r.wireMembers, m.value.pretty level = m.value.compact := by
  simp only [wireMembers, List.mem_cons, List.not_mem_nil, or_false]
  rintro m (rfl | rfl | rfl | rfl | rfl)
  · rfl
  · rfl
  · show (confidenceValue r.confidence).pretty level = _
    cases r.confidence <;> rfl
  · show (Value.ofOption r.chain).pretty level = _
    cases r.chain <;> rfl
  · show (Value.ofOption r.error).pretty level = _
    cases r.error <;> rfl

/-! ### Each member read back and parsed -/

theorem readsBack_str (s : String) :
    ReadsBack .text (.str s) (bytesOf (Value.str s).compact.toList) 2 0 := by
  rw [compact_str]
  exact (readsBack_text s).mono (by omega) le_rfl

theorem readsBack_status (st : Status) :
    ReadsBack Status.shape (.str st.name) (bytesOf (Value.str st.name).compact.toList) 2 0 := by
  rw [compact_str]
  exact (readsBack_choice (name_mem_variants st)).mono (by omega) le_rfl

theorem readsBack_ofOption (s : Option String) :
    ReadsBack (.optional .text) (.ofOption s) (bytesOf (Value.ofOption s).compact.toList) 2 0 := by
  cases s with
  | none => exact bytesOf_compact_null ▸ (readsBack_null .text).mono (by omega) le_rfl
  | some s =>
    -- a string literal opens with a quote, which no blank and no `null` starts with
    have h := readsBack_text s
    rw [bytesOf_quote, List.cons_append] at h
    rw [Value.ofOption, compact_str, bytesOf_quote, List.cons_append]
    exact h.optional rfl (by decide)

theorem readsBack_confidenceValue (c : Option UInt8) :
    ReadsBack (.optional .byte) (confidenceValue c) (bytesOf (confidenceValue c).compact.toList)
      2 0 := by
  cases c with
  | none => exact bytesOf_compact_null ▸ (readsBack_null .byte).mono (by omega) le_rfl
  | some c =>
    obtain ⟨x, rest, hxs, hx⟩ := digits_head c.toNat
    have h := readsBack_byte (Nat.le_of_lt_succ c.toNat_lt)
    rw [hxs] at h
    rw [confidenceValue, Value.ofNat, bytesOf_compact_nat, hxs]
    exact h.optional (blank_of_digit hx) (ne_of_digit hx (by decide))

theorem readsBack_wireMember {key : String} {sh : Shape} {v : Json.Value}
    (h : ReadsBack sh v (bytesOf v.compact.toList) 2 0) :
    ReadsBack (wireMember key sh v).shape (wireMember key sh v).value (wireMember key sh v).bytes
      2 0 :=
  h

/-- Each wire member reads back by its field's shape. -/
theorem readsBack_wireMembers (r : Record) :
    ∀ m ∈ r.wireMembers, ReadsBack m.shape m.value m.bytes 2 0 := by
  simp only [wireMembers, List.mem_cons, List.not_mem_nil, or_false]
  rintro m (rfl | rfl | rfl | rfl | rfl)
  · exact readsBack_wireMember (readsBack_str r.id)
  · exact readsBack_wireMember (readsBack_status r.status)
  · exact readsBack_wireMember (readsBack_confidenceValue r.confidence)
  · exact readsBack_wireMember (readsBack_ofOption r.chain)
  · exact readsBack_wireMember (readsBack_ofOption r.error)

theorem parses_strValue (s : String) :
    Parses (.str s) (bytesOf (Value.str s).compact.toList) 1 0 := by
  rw [compact_str]
  exact parses_str s

theorem parses_ofOption (s : Option String) :
    Parses (.ofOption s) (bytesOf (Value.ofOption s).compact.toList) 1 0 := by
  cases s with
  | none => exact bytesOf_compact_null ▸ parses_null
  | some s => exact parses_strValue s

theorem parses_confidenceValue (c : Option UInt8) :
    Parses (confidenceValue c) (bytesOf (confidenceValue c).compact.toList) 1 0 := by
  cases c with
  | none => exact bytesOf_compact_null ▸ parses_null
  | some c =>
    rw [confidenceValue, Value.ofNat, bytesOf_compact_nat]
    exact parses_nat ((Nat.le_of_lt_succ c.toNat_lt).trans (by decide))

theorem parses_wireMember {key : String} {sh : Shape} {v : Json.Value}
    (h : Parses v (bytesOf v.compact.toList) 1 0) :
    Parses (wireMember key sh v).value (wireMember key sh v).bytes 1 0 :=
  h

/-- Each wire member parses as its value. -/
theorem parses_wireMembers (r : Record) : ∀ m ∈ r.wireMembers, Parses m.value m.bytes 1 0 := by
  simp only [wireMembers, List.mem_cons, List.not_mem_nil, or_false]
  rintro m (rfl | rfl | rfl | rfl | rfl)
  · exact parses_wireMember (parses_strValue r.id)
  · exact parses_wireMember (parses_strValue r.status.name)
  · exact parses_wireMember (parses_confidenceValue r.confidence)
  · exact parses_wireMember (parses_ofOption r.chain)
  · exact parses_wireMember (parses_ofOption r.error)

/-! ### Whole records -/

/-- A record's wire object, laid out with any blanks, read back by the record's shape. -/
theorem readsBack_toValue (r : Record) {gap sep close : List UInt8} (hgap : Blanks gap)
    (hsep : Blanks sep) (hclose : Blanks close) :
    ReadsBack shape r.toValue
      (123 :: layout gap true (r.wireMembers.map (Member.part sep)) ++ close ++ [125]) 9 2 := by
  rw [toValue_eq_wire]
  exact readsBack_record (nodup_wire_keys r) (readsBack_wireMembers r) hgap hsep hclose

theorem parses_toValue (r : Record) {gap sep close : List UInt8} (hgap : Blanks gap)
    (hsep : Blanks sep) (hclose : Blanks close) :
    Parses r.toValue
      (123 :: layout gap true (r.wireMembers.map (Member.part sep)) ++ close ++ [125]) 8 2 := by
  rw [toValue_eq_wire]
  exact parses_obj (nodup_wire_keys r) (parses_wireMembers r) hgap hsep hclose

/-- The compact text of a record: its wire members with no blanks. -/
theorem bytesOf_compact (r : Record) :
    bytesOf r.compact.toList =
      123 :: layout [] true (r.wireMembers.map (Member.part [])) ++ [] ++ [125] := by
  rw [compact, toValue_eq_wire, bytesOf_compact_obj,
    ← map_entry_eq_part (g := fun v => bytesOf v.compact.toList) (bytes_wireMembers r)]

/-- The pretty text of a record at a level: its wire members on lines of their own. -/
theorem bytesOf_pretty (r : Record) (level : Nat) :
    ∃ close, Blanks close ∧ bytesOf (r.toValue.pretty level).toList =
      123 :: layout (10 :: bytesOf (indent (level + 1)).toList) true
        (r.wireMembers.map (Member.part [32])) ++ close ++ [125] := by
  obtain ⟨close, hclose, h⟩ := bytesOf_pretty_obj level (r.wireMembers.map Member.entry)
  refine ⟨close, hclose, ?_⟩
  have hbytes : ∀ m ∈ r.wireMembers, m.bytes = bytesOf (m.value.pretty (level + 1)).toList :=
    fun m hm => by rw [pretty_wireMembers r _ m hm]; exact bytes_wireMembers r m hm
  rw [toValue_eq_wire, h,
    ← map_entry_eq_part (g := fun v => bytesOf (v.pretty (level + 1)).toList) hbytes]

theorem ofName?_name (st : Status) : Status.ofName? st.name = some st := by
  cases st <;> rfl

theorem asString?_ofOption (s : Option String) : (Value.ofOption s).asString? = s := by
  cases s <;> rfl

/-- A record's value decodes to the record. -/
theorem ofValue_toValue (r : Record) : ofValue r.toValue = r := by
  have hconf : ((confidenceValue r.confidence).asNat?).map Nat.toUInt8 = r.confidence := by
    cases r.confidence with
    | none => rfl
    | some c => simp [confidenceValue, Value.ofNat, Value.asNat?]
  have hget : ∀ m ∈ r.wireMembers, r.toValue.get? m.key = some m.value := fun m hm => by
    rw [toValue_eq_wire, Value.get?]
    exact Member.lookup_entry (nodup_wire_keys r) hm
  have hid := hget _ (List.mem_cons_self)
  have hstatus := hget _ (List.mem_cons_of_mem _ List.mem_cons_self)
  have hconfidence := hget _ (List.mem_cons_of_mem _ (List.mem_cons_of_mem _ List.mem_cons_self))
  have hchain := hget _ (List.mem_cons_of_mem _ (List.mem_cons_of_mem _
    (List.mem_cons_of_mem _ List.mem_cons_self)))
  have herror := hget _ (List.mem_cons_of_mem _ (List.mem_cons_of_mem _
    (List.mem_cons_of_mem _ (List.mem_cons_of_mem _ List.mem_cons_self))))
  have hstr : ∀ s, (Value.str s).asString? = some s := fun _ => rfl
  simp only [wireMember] at hid hstatus hconfidence hchain herror
  simp only [ofValue, hid, hstatus, hconfidence, hchain, herror, Option.bind_some, hstr,
    ofName?_name, asString?_ofOption, hconf, Option.getD_some]

/-! ### Texts read back -/

theorem blanks_space : Blanks [32] := by
  intro x hx
  rw [List.mem_singleton] at hx
  subst hx
  rfl

/-- A record's compact text reads back, by the record's shape, as its value. -/
theorem readAs_compact (r : Record) : readAs r.compact shape = .ok r.toValue := by
  have h := readsBack_toValue r blanks_nil blanks_nil blanks_nil
  rw [← bytesOf_compact] at h
  exact readAs_of_readsBack h (by omega) (by decide)

/-- A record's compact text parses, as any value, as the record's value. -/
theorem parse_compact (r : Record) : Json.parse r.compact = .ok r.toValue := by
  have h := parses_toValue r blanks_nil blanks_nil blanks_nil
  rw [← bytesOf_compact] at h
  exact parse_of_parses h (by omega) (by decide)

/-- The JSON export of records, read as a list of records, is the list of their values. -/
theorem readAs_render (rs : List Record) :
    readAs (Export.render rs .json) (.list shape) = .ok (.arr (rs.map toValue)) := by
  have hitem : ∀ p ∈ rs.map (fun r => (r.toValue, bytesOf (r.toValue.pretty 1).toList)),
      ReadsBack shape p.1 p.2 9 2 ∧ Opens p.2 := by
    intro p hp
    obtain ⟨r, -, rfl⟩ := List.mem_map.mp hp
    obtain ⟨close, hclose, hbytes⟩ := bytesOf_pretty r 1
    refine ⟨?_, 123, _, by rw [hbytes, List.cons_append, List.cons_append], rfl, by decide,
      by decide⟩
    rw [hbytes]
    exact readsBack_toValue r (blanks_indent 2) blanks_space hclose
  obtain ⟨close, hclose, hbytes⟩ := bytesOf_pretty_arr 0 (rs.map toValue)
  have hlist := readsBack_list hitem (blanks_indent (0 + 1)) hclose
  have hfst : (rs.map fun r => (r.toValue, bytesOf (r.toValue.pretty 1).toList)).map Prod.fst =
      rs.map toValue := by
    simp [List.map_map, Function.comp_def]
  have hsnd : (rs.map fun r => (r.toValue, bytesOf (r.toValue.pretty 1).toList)).map Prod.snd =
      (rs.map toValue).map fun v => bytesOf (v.pretty (0 + 1)).toList := by
    simp [List.map_map, Function.comp_def]
  rw [hfst, hsnd, ← hbytes, List.length_map] at hlist
  have hne : ∀ p ∈ (rs.map toValue).map (fun v => bytesOf (v.pretty (0 + 1)).toList), p ≠ [] := by
    intro p hp
    obtain ⟨v, hv, rfl⟩ := List.mem_map.mp hp
    obtain ⟨r, -, rfl⟩ := List.mem_map.mp hv
    obtain ⟨close, -, h⟩ := bytesOf_pretty r (0 + 1)
    rw [h]
    exact List.cons_ne_nil _ _
  have hlen : rs.length ≤ (bytesOf ((Value.arr (rs.map toValue)).pretty 0).toList).length := by
    have hle : ((rs.map toValue).map fun v => bytesOf (v.pretty (0 + 1)).toList).length ≤
        (layout (10 :: bytesOf (indent (0 + 1)).toList) true
          ((rs.map toValue).map fun v => bytesOf (v.pretty (0 + 1)).toList)).length :=
      length_le_layout true hne
    rw [hbytes]
    simp only [List.length_map, List.length_cons, List.length_append] at hle ⊢
    omega
  rw [show Export.render rs .json = (Value.arr (rs.map toValue)).pretty 0 from rfl]
  exact readAs_of_readsBack hlist (by omega) (by decide)

end Record

/-- Records survive their JSON form. The JSON export, read as a list of records, gives their
values, which decode to the records themselves; a record's compact text reads back the same
way; and parsed as any JSON, the compact text is an object of exactly the five keys, in order,
whose status is one of the three spellings. -/
theorem records_read_back (rs : List Record) :
    readAs (Export.render rs .json) (.list Record.shape) = .ok (.arr (rs.map Record.toValue)) ∧
      (rs.map Record.toValue).map Record.ofValue = rs ∧
      ∀ r : Record, readAs r.compact Record.shape = .ok r.toValue ∧
        Record.ofValue r.toValue = r ∧
        ∃ fields, Json.parse r.compact = .ok (.obj fields) ∧
          fields.map Prod.fst = ["id", "status", "confidence", "call_chain", "error"] ∧
          ∃ name ∈ ["pending", "done", "failed"], fields.lookup "status" = some (.str name) := by
  refine ⟨Record.readAs_render rs, ?_, fun r => ?_⟩
  · rw [List.map_map]
    exact List.map_id'' Record.ofValue_toValue rs
  · have hparse := Record.parse_compact r
    rw [Record.toValue_eq_wire] at hparse
    exact ⟨Record.readAs_compact r, Record.ofValue_toValue r, _, hparse, rfl, r.status.name,
      Record.name_mem_variants r.status, rfl⟩

end AdvisoryTrace
