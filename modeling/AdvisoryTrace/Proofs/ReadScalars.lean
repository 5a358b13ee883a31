import Mathlib
import AdvisoryTrace.Json.Writer
import AdvisoryTrace.Proofs.ReadSteps

/-!
# Reading strings and numbers back

What the writer puts down for a string or a number the reader takes back to the same thing:

* `yields_stringBody`: the body of a string whose characters were escaped as `escapeChar` does
  (the quote, the backslash, the short control escapes, `\u00XX` for the other controls, and
  every other character as its UTF-8 bytes) is read back as the string;
* `yields_number_nat`: the decimal digits of a number up to `2^64 - 1` are read as that number,
  up to a byte that ends a number (`Ends`).
-/

namespace AdvisoryTrace.Json.Read

variable {b : ByteArray}

/-- The UTF-8 bytes of characters. -/
def bytesOf (cs : List Char) : List UInt8 := cs.flatMap String.utf8EncodeChar

@[simp] theorem bytesOf_nil : bytesOf [] = [] := rfl

theorem bytesOf_append (l₁ l₂ : List Char) : bytesOf (l₁ ++ l₂) = bytesOf l₁ ++ bytesOf l₂ :=
  List.flatMap_append

theorem bytesOf_cons (c : Char) (l : List Char) :
    bytesOf (c :: l) = String.utf8EncodeChar c ++ bytesOf l := List.flatMap_cons

/-- A byte a string holds as it is: not a control, a quote or a backslash. -/
def Plain (x : UInt8) : Prop := 32 ≤ x.toNat ∧ x.toNat ≠ 34 ∧ x.toNat ≠ 92

/-- Plain bytes are taken one by one into the string. -/
theorem stringBody_go_plain {xs : List UInt8} {acc R : ByteArray} {i j fuel : Nat}
    (h : Ahead b i xs) (hp : ∀ x ∈ xs, Plain x)
    (hk : Yields (stringBody.go (acc ++ xs.toByteArray) fuel) b (i + xs.length) R j) :
    Yields (stringBody.go acc (fuel + xs.length)) b i R j := by
  induction xs generalizing acc i with
  | nil => simpa using hk
  | cons x xs ih =>
    obtain ⟨hx, hxs⟩ := ahead_cons_iff.mp h
    obtain ⟨h32, h34, h92⟩ := hp x List.mem_cons_self
    replace h32 : ¬ x < 32 := by rw [UInt8.lt_iff_toNat_lt]; simpa using h32
    replace h34 : x ≠ 34 := fun h => h34 (by simp [h])
    replace h92 : x ≠ 92 := fun h => h92 (by simp [h])
    have hnext : Yields (stringBody.go (acc.push x) (fuel + xs.length)) b (i + 1) R j := by
      refine ih hxs (fun y hy => hp y (List.mem_cons_of_mem x hy)) ?_
      have hacc : acc.push x ++ xs.toByteArray = acc ++ (x :: xs).toByteArray := by
        rw [← ByteArray.append_toByteArray_singleton, ByteArray.append_assoc,
          ← List.toByteArray_append, List.singleton_append]
      rw [hacc, Nat.add_assoc, Nat.add_comm 1]
      simpa using hk
    rw [List.length_cons, ← Nat.add_assoc, stringBody.go]
    refine (yields_peek b i).bind ?_
    rw [hx]
    split
    next heq => cases heq
    next heq => exact absurd (Option.some.inj heq) h34
    next heq => exact absurd (Option.some.inj heq) h92
    next y _ _ heq =>
      obtain rfl := Option.some.inj heq
      refine (yields_eat b i).bind ?_
      rw [if_neg h32]
      exact hnext

theorem utf8EncodeChar_of_lt {c : Char} (h : c.toNat < 128) :
    String.utf8EncodeChar c = [c.toNat.toUInt8] := by
  have hv : c.val.toNat ≤ 127 := by simp only [Char.toNat] at h; omega
  unfold String.utf8EncodeChar
  rw [if_pos hv]
  rfl

/-- Every byte of a character that is not a control, a quote or a backslash is plain. -/
theorem plain_of_mem_utf8EncodeChar {c : Char} (h32 : ¬ c.toNat < 32) (h34 : c ≠ '"')
    (h92 : c ≠ '\\') {x : UInt8} (hx : x ∈ String.utf8EncodeChar c) : Plain x := by
  have hq : c.toNat ≠ 34 := fun h => h34 (Char.toNat_inj.mp h)
  have hb : c.toNat ≠ 92 := fun h => h92 (Char.toNat_inj.mp h)
  unfold String.utf8EncodeChar at hx
  dsimp only at hx
  split_ifs at hx <;> simp only [List.mem_cons, List.not_mem_nil, or_false] at hx <;>
    rcases hx with rfl | rfl | rfl | rfl <;> simp [Plain, UInt8.toNat_add] at * <;> omega

theorem append_utf8Encode_of_lt (acc : ByteArray) {c : Char} (h : c.toNat < 128) :
    acc ++ [c].utf8Encode = acc.push c.toNat.toUInt8 := by
  rw [List.utf8Encode_singleton, utf8EncodeChar_of_lt h, ByteArray.append_toByteArray_singleton]

/-- The escapes of two bytes: a character, and the byte after the backslash that stands for it. -/
def shortEscapes : List (Char × UInt8) :=
  [('"', 34), ('\\', 92), ('\n', 110), ('\r', 114), ('\t', 116), ('\x08', 98), ('\x0c', 102)]

theorem yields_escape_short {c : Char} {e : UInt8} (hce : (c, e) ∈ shortEscapes) {acc : ByteArray}
    {i : Nat} (h : b[i]? = some e) : Yields (escape acc) b i (acc ++ [c].utf8Encode) (i + 1) := by
  simp only [shortEscapes, List.mem_cons, Prod.mk.injEq, List.not_mem_nil, or_false] at hce
  rcases hce with ⟨rfl, rfl⟩ | ⟨rfl, rfl⟩ | ⟨rfl, rfl⟩ | ⟨rfl, rfl⟩ | ⟨rfl, rfl⟩ | ⟨rfl, rfl⟩ |
    ⟨rfl, rfl⟩ <;>
    exact (yields_next h).bind (by rw [append_utf8Encode_of_lt acc (by decide)]; exact yields_pure _ _ _)

/-- A two-byte escape is read in one step of the string loop. -/
theorem stringBody_go_short {c : Char} {e : UInt8} (hce : (c, e) ∈ shortEscapes) {acc R : ByteArray}
    {i j fuel : Nat} (h : Ahead b i [92, e])
    (hk : Yields (stringBody.go (acc ++ [c].utf8Encode) fuel) b (i + 2) R j) :
    Yields (stringBody.go acc (fuel + 1)) b i R j := by
  obtain ⟨h92, he⟩ := ahead_cons_iff.mp h
  rw [stringBody.go]
  refine (yields_peek b i).bind ?_
  rw [h92]
  exact (yields_eat b i).bind ((yields_escape_short hce (ahead_cons_iff.mp he).1).bind hk)

theorem yields_hexQuad {i : Nat} {x₁ x₂ : UInt8} {v₁ v₂ : Nat} (h : Ahead b i [48, 48, x₁, x₂])
    (h₁ : hexValue x₁ = some v₁) (h₂ : hexValue x₂ = some v₂) :
    Yields hexQuad b i (v₁ * 16 + v₂) (i + 4) := by
  have hsize : i + 4 ≤ b.size := h.lt_size (k := 3) (by simp)
  have h0 : b[i]? = some 48 := by simpa using h 0 (by simp)
  have h1 : b[i + 1]? = some 48 := by simpa using h 1 (by simp)
  have h2 : b[i + 2]? = some x₁ := by simpa using h 2 (by simp)
  have h3 : b[i + 3]? = some x₂ := by simpa using h 3 (by simp)
  unfold hexQuad
  refine (yields_read b i).bind ((yields_get b i).bind ?_)
  rw [if_pos hsize]
  refine (yields_set b i _).bind ?_
  have h48 : hexValue 48 = some 0 := rfl
  have hm : List.mapM (fun d => d.bind hexValue) [b[i]?, b[i + 1]?, b[i + 2]?, b[i + 3]?] =
      some [0, 0, v₁, v₂] := by
    simp [h0, h1, h2, h3, h₁, h₂, h48]
  dsimp only
  rw [hm]
  convert yields_pure _ b (i + 4) using 2
  simp

theorem hexDigit_bytes : ∀ k < 16, ∃ x, String.utf8EncodeChar (hexDigit k) = [x] ∧ hexValue x = some k := by
  decide

theorem utf8_ofNat_toNat (c : Char) : utf8 c.toNat = [c].utf8Encode := by
  rw [utf8, Char.ofNat_toNat, String.toUTF8_eq_toByteArray, String.toByteArray_singleton]

/-- A control character's `\u00XX` escape, after the `\u`, is read back as the character. -/
theorem yields_unicodeEscape_control {c : Char} (hc : c.toNat < 32) {acc : ByteArray} {i : Nat}
    (h : Ahead b i (bytesOf ['0', '0', hexDigit (c.toNat / 16), hexDigit (c.toNat % 16)])) :
    Yields (unicodeEscape acc) b i (acc ++ [c].utf8Encode) (i + 4) := by
  obtain ⟨x₁, hx₁, hv₁⟩ := hexDigit_bytes (c.toNat / 16) (by omega)
  obtain ⟨x₂, hx₂, hv₂⟩ := hexDigit_bytes (c.toNat % 16) (by omega)
  have hbytes : bytesOf ['0', '0', hexDigit (c.toNat / 16), hexDigit (c.toNat % 16)] = [48, 48, x₁, x₂] := by
    simp only [bytesOf, List.flatMap_cons, List.flatMap_nil, hx₁, hx₂, List.append_nil]
    rfl
  have hq := yields_hexQuad (hbytes ▸ h) hv₁ hv₂
  rw [Nat.mul_comm, Nat.div_add_mod] at hq
  unfold unicodeEscape
  refine hq.bind ?_
  rw [if_neg (by simp only [Bool.and_eq_true, decide_eq_true_eq]; omega)]
  dsimp only
  rw [if_pos (by simp only [Bool.or_eq_true, decide_eq_true_eq]; omega), utf8_ofNat_toNat]
  exact yields_pure _ _ _

/-- A control character's six-byte escape is read in one step of the string loop. -/
theorem stringBody_go_control {c : Char} (hc : c.toNat < 32) {acc R : ByteArray} {i j fuel : Nat}
    (h : Ahead b i (bytesOf ['\\', 'u', '0', '0', hexDigit (c.toNat / 16), hexDigit (c.toNat % 16)]))
    (hk : Yields (stringBody.go (acc ++ [c].utf8Encode) fuel) b (i + 6) R j) :
    Yields (stringBody.go acc (fuel + 1)) b i R j := by
  have hsplit : bytesOf ['\\', 'u', '0', '0', hexDigit (c.toNat / 16), hexDigit (c.toNat % 16)] =
      92 :: 117 :: bytesOf ['0', '0', hexDigit (c.toNat / 16), hexDigit (c.toNat % 16)] := rfl
  rw [hsplit] at h
  obtain ⟨h92, h'⟩ := ahead_cons_iff.mp h
  obtain ⟨h117, hrest⟩ := ahead_cons_iff.mp h'
  rw [stringBody.go]
  refine (yields_peek b i).bind ?_
  rw [h92]
  refine (yields_eat b i).bind (Yields.bind ?_ hk)
  exact (yields_next h117).bind (yields_unicodeEscape_control hc hrest)

/-- Each character's escaped bytes are read in at least one and at most as many steps of the
string loop as they have bytes, adding the character's own bytes to the string. -/
theorem stringBody_go_char (c : Char) : ∃ k, 1 ≤ k ∧ k ≤ (bytesOf (escapeChar c)).length ∧
    ∀ {acc R : ByteArray} {i j fuel : Nat}, Ahead b i (bytesOf (escapeChar c)) →
      Yields (stringBody.go (acc ++ [c].utf8Encode) fuel) b (i + (bytesOf (escapeChar c)).length) R j →
      Yields (stringBody.go acc (fuel + k)) b i R j := by
  unfold escapeChar
  split
  · exact ⟨1, le_refl 1, by decide, fun h hk => stringBody_go_short (by decide) h hk⟩
  · exact ⟨1, le_refl 1, by decide, fun h hk => stringBody_go_short (by decide) h hk⟩
  · exact ⟨1, le_refl 1, by decide, fun h hk => stringBody_go_short (by decide) h hk⟩
  · exact ⟨1, le_refl 1, by decide, fun h hk => stringBody_go_short (by decide) h hk⟩
  · exact ⟨1, le_refl 1, by decide, fun h hk => stringBody_go_short (by decide) h hk⟩
  · exact ⟨1, le_refl 1, by decide, fun h hk => stringBody_go_short (by decide) h hk⟩
  · exact ⟨1, le_refl 1, by decide, fun h hk => stringBody_go_short (by decide) h hk⟩
  · rename_i h34 h92 _ _ _ _ _
    split
    · rename_i hc
      obtain ⟨x₁, hx₁, -⟩ := hexDigit_bytes (c.toNat / 16) (by omega)
      obtain ⟨x₂, hx₂, -⟩ := hexDigit_bytes (c.toNat % 16) (by omega)
      have hlen : (bytesOf ['\\', 'u', '0', '0', hexDigit (c.toNat / 16),
          hexDigit (c.toNat % 16)]).length = 6 := by
        simp only [bytesOf, List.flatMap_cons, List.flatMap_nil, hx₁, hx₂, List.append_nil]
        rfl
      refine ⟨1, le_refl 1, by omega, fun h hk => stringBody_go_control hc h ?_⟩
      rwa [hlen] at hk
    · rename_i hc
      have hbytes : bytesOf [c] = String.utf8EncodeChar c := by simp [bytesOf]
      refine ⟨(String.utf8EncodeChar c).length, ?_, by rw [hbytes], fun h hk => ?_⟩
      · exact List.length_pos_iff.mpr String.utf8EncodeChar_ne_nil
      · rw [hbytes] at h hk
        refine stringBody_go_plain h (fun x hx => plain_of_mem_utf8EncodeChar hc ?_ ?_ hx) ?_
        · exact fun h => h34 h
        · exact fun h => h92 h
        · rwa [← List.utf8Encode_singleton]

/-- The loop reads escaped characters up to the closing quote, and gives their bytes. -/
theorem stringBody_go_chars (cs : List Char) {acc : ByteArray} {i fuel : Nat}
    (h : Ahead b i (bytesOf (cs.flatMap escapeChar) ++ [34]))
    (hf : (bytesOf (cs.flatMap escapeChar)).length < fuel) :
    Yields (stringBody.go acc fuel) b i (acc ++ cs.utf8Encode)
      (i + (bytesOf (cs.flatMap escapeChar)).length + 1) := by
  induction cs generalizing acc i fuel with
  | nil =>
    obtain ⟨fuel, rfl⟩ : ∃ f, fuel = f + 1 := ⟨fuel - 1, by simp at hf; omega⟩
    have h34 : b[i]? = some 34 := by simpa [bytesOf] using (ahead_cons_iff.mp h).1
    rw [stringBody.go]
    refine (yields_peek b i).bind ?_
    rw [h34, List.utf8Encode_nil, ByteArray.append_empty]
    exact (yields_eat b i).bind (yields_pure acc b (i + 1))
  | cons c cs ih =>
    obtain ⟨k, hk1, hkle, step⟩ := stringBody_go_char (b := b) c
    rw [List.flatMap_cons, bytesOf_append, List.append_assoc] at h
    rw [List.flatMap_cons, bytesOf_append, List.length_append] at hf ⊢
    obtain ⟨hc, hrest⟩ := ahead_append_iff.mp h
    obtain ⟨fuel, rfl⟩ : ∃ f, fuel = f + k := ⟨fuel - k, by omega⟩
    refine step hc ?_
    have hnext : Yields (stringBody.go (acc ++ [c].utf8Encode) fuel) b
        (i + (bytesOf (escapeChar c)).length) (acc ++ [c].utf8Encode ++ cs.utf8Encode)
        (i + (bytesOf (escapeChar c)).length + (bytesOf (cs.flatMap escapeChar)).length + 1) :=
      ih hrest (by omega)
    rwa [ByteArray.append_assoc, ← List.utf8Encode_cons, Nat.add_assoc i] at hnext

theorem toByteArray_eq_utf8Encode (s : String) : s.toByteArray = s.toList.utf8Encode := by
  rw [← String.toByteArray_ofList, String.ofList_toList]

theorem fromUTF8?_toByteArray (s : String) : String.fromUTF8? s.toByteArray = some s := by
  simp [String.fromUTF8?, s.isValidUTF8, String.fromUTF8]

/-- The body of a string written with its characters escaped is read back as the string. -/
theorem yields_stringBody {s : String} {i : Nat}
    (h : Ahead b i (bytesOf (s.toList.flatMap escapeChar) ++ [34])) :
    Yields stringBody b i s (i + (bytesOf (s.toList.flatMap escapeChar)).length + 1) := by
  have hlt := h.lt_size (k := (bytesOf (s.toList.flatMap escapeChar)).length) (by simp)
  unfold stringBody
  refine (yields_read b i).bind ((stringBody_go_chars s.toList h (by omega)).bind ?_)
  rw [ByteArray.empty_append, ← toByteArray_eq_utf8Encode, fromUTF8?_toByteArray]
  exact yields_pure _ _ _

/-- The UTF-8 bytes of a string literal: the quotes around the escaped characters. -/
theorem bytesOf_quote (s : String) :
    bytesOf (quote s).toList = 34 :: bytesOf (s.toList.flatMap escapeChar) ++ [34] := by
  simp only [quote, String.toList_ofList, bytesOf_cons, bytesOf_append]
  rfl

/-- A string literal: the opening quote, then the escaped text read as the string. -/
theorem yields_quoted {α : Type} (g : String → α) {s : String} {i : Nat} {rest : List UInt8}
    (h : Ahead b i (bytesOf (quote s).toList ++ rest)) :
    Yields (do eat; let t ← stringBody; pure (g t)) b i (g s)
      (i + (bytesOf (quote s).toList).length) := by
  rw [bytesOf_quote] at h ⊢
  have hq := (ahead_append_iff.mp h).1
  refine (yields_eat b i).bind ((yields_stringBody (ahead_cons_iff.mp hq).2).bind ?_)
  convert yields_pure (g s) b _ using 1
  simp only [List.length_cons, List.length_append, List.length_nil]
  omega

/-- Nothing at index `j` continues a number: no digit, point or exponent mark. -/
def Ends (b : ByteArray) (j : Nat) : Prop :=
  ∀ x, b[j]? = some x → isDigit x = false ∧ x ≠ 46 ∧ x ≠ 101 ∧ x ≠ 69

/-- The value of decimal digit characters read after a value `s`. -/
def digitsValue (s : Nat) (cs : List Char) : Nat := cs.foldl (fun n c => n * 10 + (c.toNat - 48)) s

theorem digitsValue_le (s : Nat) (cs : List Char) : s ≤ digitsValue s cs := by
  induction cs generalizing s with
  | nil => exact le_refl s
  | cons c cs ih => exact le_trans (by omega) (ih (s * 10 + (c.toNat - 48)))

theorem digitsValue_toDigits (n : Nat) : digitsValue 0 (Nat.toDigits 10 n) = n := by
  induction n using Nat.strong_induction_on with
  | _ n ih =>
    rw [Nat.toDigits_eq_if (by decide)]
    split
    · rename_i hn
      simp [digitsValue, Nat.toNat_digitChar_sub_48_of_lt_ten hn]
    · rename_i hn
      have hq := ih (n / 10) (by omega)
      simp only [digitsValue, List.foldl_append, List.foldl_cons, List.foldl_nil] at hq ⊢
      rw [hq, Nat.toNat_digitChar_sub_48_of_lt_ten (Nat.mod_lt n (by decide))]
      omega

theorem toNat_of_mem_toDigits {n : Nat} {c : Char} (hc : c ∈ Nat.toDigits 10 n) :
    48 ≤ c.toNat ∧ c.toNat ≤ 57 := by
  have := Char.isDigit_iff_toNat.mp (Nat.isDigit_of_mem_toDigits (by decide) (by decide) hc)
  simpa using this

/-- A positive number's first digit is not `0`. -/
theorem toDigits_of_pos {n : Nat} (hn : 0 < n) :
    ∃ c cs, Nat.toDigits 10 n = c :: cs ∧ 49 ≤ c.toNat := by
  induction n using Nat.strong_induction_on with
  | _ n ih =>
    rw [Nat.toDigits_eq_if (by decide)]
    split
    · rename_i hlt
      refine ⟨_, [], rfl, ?_⟩
      rw [Nat.toNat_digitChar_of_lt_ten hlt]
      omega
    · obtain ⟨c, cs, hcs, hc⟩ := ih (n / 10) (by omega) (by omega)
      exact ⟨c, cs ++ [Nat.digitChar (n % 10)], by rw [hcs]; rfl, hc⟩

/-- The byte of a decimal digit character. -/
theorem bytesOf_digits {cs : List Char} (hd : ∀ c ∈ cs, 48 ≤ c.toNat ∧ c.toNat ≤ 57) :
    bytesOf cs = cs.map fun c => c.toNat.toUInt8 := by
  induction cs with
  | nil => rfl
  | cons c cs ih =>
    rw [bytesOf_cons, utf8EncodeChar_of_lt (by have := hd c List.mem_cons_self; omega),
      ih (fun x hx => hd x (List.mem_cons_of_mem c hx))]
    rfl

theorem overflows_iff {n d limit : Nat} (hd : d < 10) :
    overflows n d limit = true ↔ limit < n * 10 + d := by
  simp only [overflows, Bool.and_eq_true, Bool.or_eq_true, decide_eq_true_eq]
  omega

theorem yields_numberRest {s i : Nat} (hend : Ends b i) :
    Yields (numberRest true s) b i (.nat s) i := by
  unfold numberRest
  refine (yields_peek b i).bind ?_
  cases hx : b[i]? with
  | none => exact yields_pure _ _ _
  | some x =>
    obtain ⟨-, h46, h101, h69⟩ := hend x hx
    split
    next heq => exact absurd (Option.some.inj heq) h46
    next heq => exact absurd (Option.some.inj heq) h101
    next heq => exact absurd (Option.some.inj heq) h69
    next => exact yields_pure _ _ _

/-- The digit loop reads digits up to what ends the number. -/
theorem number_go_digits {cs : List Char} (hd : ∀ c ∈ cs, 48 ≤ c.toNat ∧ c.toNat ≤ 57)
    {s i fuel : Nat} (h : Ahead b i (bytesOf cs)) (hend : Ends b (i + cs.length))
    (hmax : digitsValue s cs ≤ u64Max) (hf : cs.length < fuel) :
    Yields (number.go true s fuel) b i (.nat (digitsValue s cs)) (i + cs.length) := by
  induction cs generalizing s i fuel with
  | nil =>
    obtain ⟨fuel, rfl⟩ : ∃ f, fuel = f + 1 := ⟨fuel - 1, by simp at hf; omega⟩
    rw [number.go]
    refine (yields_peek b i).bind ?_
    cases hx : b[i]? with
    | none => exact yields_numberRest hend
    | some x =>
      have hnd := (hend x (by simpa using hx)).1
      dsimp only
      rw [if_neg (by simp [hnd])]
      exact yields_numberRest hend
  | cons c cs ih =>
    obtain ⟨fuel, rfl⟩ : ∃ f, fuel = f + 1 := ⟨fuel - 1, by simp at hf; omega⟩
    have hc := hd c List.mem_cons_self
    rw [bytesOf_digits hd, List.map_cons] at h
    obtain ⟨hx, hrest⟩ := ahead_cons_iff.mp h
    have hbyte : (c.toNat.toUInt8).toNat = c.toNat := by simp; omega
    have hdigit : isDigit c.toNat.toUInt8 = true := by
      simp only [isDigit, Bool.and_eq_true, decide_eq_true_eq, UInt8.le_iff_toNat_le, hbyte]
      simp
      omega
    have hnext : digitsValue (s * 10 + (c.toNat - 48)) cs ≤ u64Max := hmax
    rw [number.go]
    refine (yields_peek b i).bind ?_
    rw [hx]
    dsimp only
    rw [if_pos hdigit, hbyte]
    rw [if_neg (by
      rw [overflows_iff (by omega)]
      have := digitsValue_le (s * 10 + (c.toNat - 48)) cs
      omega)]
    refine (yields_eat b i).bind ?_
    have hrest' : Ahead b (i + 1) (bytesOf cs) := by
      rwa [bytesOf_digits (fun x hx => hd x (List.mem_cons_of_mem c hx))]
    have := ih (fun x hx => hd x (List.mem_cons_of_mem c hx)) hrest'
      (by simpa [Nat.add_assoc, Nat.add_comm 1] using hend) hnext (by simp at hf; omega)
    simpa [Nat.add_assoc, Nat.add_comm 1, digitsValue] using this

/-- The decimal digits of a number up to `2^64 - 1` are read back as the number. -/
theorem yields_number_nat {n i : Nat} (hn : n ≤ u64Max) (h : Ahead b i (bytesOf (Nat.toDigits 10 n)))
    (hend : Ends b (i + (Nat.toDigits 10 n).length)) :
    Yields (number true) b i (.nat n) (i + (Nat.toDigits 10 n).length) := by
  have hd := fun c (hc : c ∈ Nat.toDigits 10 n) => toNat_of_mem_toDigits hc
  rw [bytesOf_digits hd] at h
  unfold number
  rcases Nat.eq_zero_or_pos n with rfl | hpos
  · rw [Nat.toDigits_zero] at h hend ⊢
    obtain ⟨h48, -⟩ := ahead_cons_iff.mp h
    refine (yields_next h48).bind ?_
    refine (yields_peek b (i + 1)).bind ?_
    cases hx : b[i + 1]? with
    | none => exact yields_numberRest hend
    | some x =>
      dsimp only
      rw [if_neg (by simp [(hend x hx).1])]
      exact yields_numberRest hend
  · obtain ⟨c, cs, hcs, hc⟩ := toDigits_of_pos hpos
    rw [hcs] at h hend hd ⊢
    rw [List.map_cons] at h
    obtain ⟨hx, hrest⟩ := ahead_cons_iff.mp h
    have hc57 := (hd c List.mem_cons_self).2
    have hbyte : (c.toNat.toUInt8).toNat = c.toNat := by simp; omega
    have hvalue : digitsValue (c.toNat - 48) cs = n := by
      have := digitsValue_toDigits n
      rw [hcs] at this
      simpa [digitsValue] using this
    have hlt := h.lt_size (k := cs.length) (by simp)
    refine (yields_next hx).bind ?_
    split
    next heq => cases heq
    next heq =>
      have := congrArg UInt8.toNat (Option.some.inj heq)
      rw [hbyte] at this
      simp at this
      omega
    next heq =>
      rw [← Option.some.inj heq, if_pos (by
        simp only [Bool.and_eq_true, decide_eq_true_eq, UInt8.le_iff_toNat_le, hbyte]
        simp
        omega)]
      refine (yields_read b i.succ).bind ?_
      have hgo : Yields (number.go true (c.toNat - 48) (b.size + 1)) b (i + 1)
          (.nat (digitsValue (c.toNat - 48) cs)) (i + 1 + cs.length) :=
        number_go_digits (fun x hx => hd x (List.mem_cons_of_mem c hx))
          (by rwa [bytesOf_digits (fun x hx => hd x (List.mem_cons_of_mem c hx))])
          (by simpa [Nat.add_assoc, Nat.add_comm 1] using hend) (by omega) (by omega)
      rw [hvalue] at hgo
      rw [hbyte]
      simpa [Nat.add_assoc, Nat.add_comm 1] using hgo


theorem length_bytesOf_digits (n : Nat) :
    (bytesOf (Nat.toDigits 10 n)).length = (Nat.toDigits 10 n).length := by
  rw [bytesOf_digits fun _ hc => toNat_of_mem_toDigits hc, List.length_map]

/-- The decimal digits of a number start with a digit byte. -/
theorem digits_head (n : Nat) :
    ∃ x rest, bytesOf (Nat.toDigits 10 n) = x :: rest ∧ 48 ≤ x.toNat ∧ x.toNat ≤ 57 := by
  obtain ⟨c, cs, hcs⟩ := List.exists_cons_of_ne_nil (Nat.toDigits_ne_nil (b := 10) (n := n))
  have hc := toNat_of_mem_toDigits (hcs ▸ List.mem_cons_self : c ∈ Nat.toDigits 10 n)
  refine ⟨c.toNat.toUInt8, _,
    by rw [bytesOf_digits fun _ hc => toNat_of_mem_toDigits hc, hcs, List.map_cons], ?_⟩
  have hbyte : (c.toNat.toUInt8).toNat = c.toNat := by simp; omega
  omega

theorem isDigit_of_toNat {x : UInt8} (hx : 48 ≤ x.toNat ∧ x.toNat ≤ 57) : isDigit x = true := by
  simp [isDigit, UInt8.le_iff_toNat_le]
  omega

theorem blank_of_digit {x : UInt8} (hx : 48 ≤ x.toNat ∧ x.toNat ≤ 57) : blank x = false := by
  simp [blank, ← UInt8.toNat_inj]
  omega

theorem ne_of_digit {x : UInt8} (hx : 48 ≤ x.toNat ∧ x.toNat ≤ 57) {y : UInt8}
    (hy : y.toNat < 48 ∨ 57 < y.toNat) : x ≠ y := by
  rintro rfl
  omega

end AdvisoryTrace.Json.Read
