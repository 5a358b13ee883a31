import Mathlib
import AdvisoryTrace.Double

/-!
# When double arithmetic is exact

A rational is *representable* when it is `±m · 2^e` with a significand of at most 53 bits and an
exponent in the format's range; those are exactly the values of finite doubles. Rounding leaves
them alone, so every operation whose exact result is representable gives that result:

* `Double.toRat?_ofRat`: rounding keeps a representable rational;
* `Double.toRat?_add`, `toRat?_sub`, `toRat?_mul`, `toRat?_div`: the four operations;
* `Double.lt_iff_of_toRat?`, `toRat?_round`, `toNat_toUInt8`: comparison, rounding to an integer
  and the byte cast read the values of finite doubles;
* `Double.ofNat_finite`, `ofNat_nonzero`: a positive count is a double other than a zero, and
  a finite one below `2^1023`;
* `Double.ZeroOrNaN`: a product with a zero factor is a zero or not-a-number, sums and rounding
  keep that, and its byte is `0`.
-/

namespace AdvisoryTrace.Double

/-- `±m · 2^e` with a significand of at most 53 bits and an exponent in the format's range. -/
def Representable (q : ℚ) : Prop :=
  ∃ (m : ℕ) (e : ℤ), m < 2 ^ 53 ∧ -1074 ≤ e ∧ e ≤ 971 ∧ |q| = m * 2 ^ e

section Rounding

theorem floor_eq (a : ℚ) : a.floor = ⌊a⌋ := rfl

theorem floor_le_roundHalfEven (a : ℚ) : ⌊a⌋₊ ≤ roundHalfEven a := by
  unfold roundHalfEven
  dsimp only
  rw [floor_eq, Int.floor_toNat]
  split_ifs <;> omega

theorem roundHalfEven_natCast (n : ℕ) : roundHalfEven n = n := by
  have hn : (n : ℚ).floor.toNat = n := by simp [floor_eq]
  simp [roundHalfEven, hn]

/-- The leading bit of a positive rational: `2^(log2 a) ≤ a < 2^(log2 a + 1)`. -/
theorem log2_spec {a : ℚ} (ha : 0 < a) : (2 : ℚ) ^ log2 a ≤ a ∧ a < 2 ^ (log2 a + 1) := by
  have hnum : 0 < a.num := Rat.num_pos.mpr ha
  have hn0 : a.num.natAbs ≠ 0 := by omega
  have hd0 : a.den ≠ 0 := a.den_nz
  have hval : a = (a.num.natAbs : ℚ) / a.den := by
    rw [Nat.cast_natAbs, Int.cast_abs, abs_of_pos (by exact_mod_cast hnum)]
    exact (Rat.num_div_den a).symm
  have hn1 : (2 : ℚ) ^ a.num.natAbs.log2 ≤ a.num.natAbs := by
    exact_mod_cast Nat.log2_self_le hn0
  have hn2 : (a.num.natAbs : ℚ) < 2 ^ (a.num.natAbs.log2 + 1) := by
    exact_mod_cast Nat.lt_log2_self
  have hd1 : (2 : ℚ) ^ a.den.log2 ≤ a.den := by exact_mod_cast Nat.log2_self_le hd0
  have hd2 : (a.den : ℚ) < 2 ^ (a.den.log2 + 1) := by exact_mod_cast Nat.lt_log2_self
  have hdpos : (0 : ℚ) < a.den := by exact_mod_cast Nat.pos_of_ne_zero hd0
  set k : ℤ := (a.num.natAbs.log2 : ℤ) - a.den.log2 with hk
  have hupper : a < 2 ^ (k + 1) := by
    rw [hval, div_lt_iff₀ hdpos]
    calc (a.num.natAbs : ℚ) < 2 ^ (a.num.natAbs.log2 + 1) := hn2
      _ = 2 ^ (k + 1) * 2 ^ a.den.log2 := by
        rw [← zpow_natCast, ← zpow_natCast, ← zpow_add₀ two_ne_zero]
        congr 1
        omega
      _ ≤ 2 ^ (k + 1) * a.den := by gcongr
  have hlower : 2 ^ (k - 1) < a := by
    rw [hval, lt_div_iff₀ hdpos]
    calc 2 ^ (k - 1) * (a.den : ℚ) < 2 ^ (k - 1) * 2 ^ (a.den.log2 + 1) := by gcongr
      _ = 2 ^ a.num.natAbs.log2 := by
        rw [← zpow_natCast, ← zpow_natCast, ← zpow_add₀ two_ne_zero]
        congr 1
        omega
      _ ≤ a.num.natAbs := hn1
  unfold log2
  dsimp only
  split_ifs with h
  · exact ⟨h, hupper⟩
  · exact ⟨hlower.le, by simpa using not_le.mp h⟩

theorem Finite.normalize_negative (s : Bool) (m : ℕ) (e : ℤ) (hm : m < 2 ^ 53)
    (hlo : -1074 ≤ e) (hhi : e ≤ 971) : (Finite.normalize s m e hm hlo hhi).negative = s := by
  fun_induction Finite.normalize s m e hm hlo hhi with
  | case1 => rfl
  | case2 _ _ _ _ _ _ ih => exact ih

/-- Bringing a finite double to its normal form keeps its value. -/
theorem Finite.magnitude_normalize (s : Bool) (m : ℕ) (e : ℤ) (hm : m < 2 ^ 53)
    (hlo : -1074 ≤ e) (hhi : e ≤ 971) :
    (Finite.normalize s m e hm hlo hhi).magnitude = m * 2 ^ e := by
  fun_induction Finite.normalize s m e hm hlo hhi with
  | case1 => rfl
  | case2 m e _ _ _ _ ih =>
    rw [ih, zpow_sub_one₀ two_ne_zero]
    push_cast
    ring

theorem Finite.toRat_eq (x : Finite) :
    x.toRat = if x.negative then -x.magnitude else x.magnitude := rfl

theorem Finite.magnitude_nonneg (x : Finite) : 0 ≤ x.magnitude := by
  unfold Finite.magnitude
  positivity

theorem Finite.magnitude_eq_zero (x : Finite) : x.magnitude = 0 ↔ x.significand = 0 := by
  have h2 : (2 : ℚ) ^ x.exponent ≠ 0 := zpow_ne_zero _ two_ne_zero
  rw [Finite.magnitude, mul_eq_zero]
  simp [h2]

theorem Finite.toRat_eq_zero (x : Finite) : x.toRat = 0 ↔ x.significand = 0 := by
  rw [← Finite.magnitude_eq_zero, Finite.toRat_eq]
  split <;> simp

/-- A positive `m · 2^e` within the format's range rounds to itself. -/
theorem roundPositive_exact (s : Bool) {m : ℕ} {e : ℤ} (hm0 : 0 < m) (hm : m < 2 ^ 53)
    (hlo : -1074 ≤ e) (hhi : e ≤ 971) :
    (roundPositive s ((m : ℚ) * 2 ^ e)).toRat? =
      some (if s then -((m : ℚ) * 2 ^ e) else (m : ℚ) * 2 ^ e) := by
  set a : ℚ := m * 2 ^ e with ha_def
  have ha : 0 < a := by positivity
  obtain ⟨hL1, hL2⟩ := log2_spec ha
  have hL : log2 a ≤ e + 52 := by
    by_contra h
    have hge : (2 : ℚ) ^ (e + 53) ≤ a :=
      (zpow_le_zpow_right₀ one_le_two (by omega)).trans hL1
    have hlt : a < 2 ^ (e + 53) := by
      rw [ha_def, zpow_add₀ two_ne_zero, mul_comm]
      gcongr
      exact_mod_cast hm
    linarith
  set E := quantum a with hE_def
  have hE : E ≤ e := max_le hlo (by omega)
  have hE' : log2 a - 52 ≤ E := le_max_right _ _
  obtain ⟨j, hj⟩ : ∃ j : ℕ, e = E + j := ⟨(e - E).toNat, by omega⟩
  have hscaled : a / 2 ^ E = ((m * 2 ^ j : ℕ) : ℚ) := by
    rw [ha_def, hj, zpow_add₀ two_ne_zero, zpow_natCast]
    push_cast
    field_simp
  have hN : m * 2 ^ j < 0x20000000000000 := by
    have hlt : a / 2 ^ E < 2 ^ (53 : ℤ) := by
      rw [div_lt_iff₀ (zpow_pos two_pos _), ← zpow_add₀ two_ne_zero]
      exact hL2.trans_le (zpow_le_zpow_right₀ one_le_two (by omega))
    rw [hscaled] at hlt
    exact_mod_cast hlt
  have hround : roundHalfEven (a / 2 ^ E) = m * 2 ^ j := by
    rw [hscaled, roundHalfEven_natCast]
  have hvalue : ((m * 2 ^ j : ℕ) : ℚ) * 2 ^ E = a := by
    rw [← hscaled, div_mul_cancel₀ _ (zpow_ne_zero _ two_ne_zero)]
  simp only [roundPositive, ← hE_def, hround, dif_pos hN, dif_pos (hE.trans hhi), toRat?,
    Finite.toRat_eq, Finite.normalize_negative, Finite.magnitude_normalize, hvalue]

/-- Rounding keeps a representable rational. -/
theorem toRat?_ofRat {q : ℚ} (h : Representable q) (z : Bool) : (ofRat q z).toRat? = some q := by
  obtain ⟨m, e, hm, hlo, hhi, habs⟩ := h
  unfold ofRat
  split_ifs with hneg hpos
  · have hm0 : 0 < m := by
      rcases Nat.eq_zero_or_pos m with rfl | h
      · simp at habs; linarith
      · exact h
    rw [abs_of_neg hneg] at habs
    rw [habs, roundPositive_exact true hm0 hm hlo hhi]
    simp [← habs]
  · have hm0 : 0 < m := by
      rcases Nat.eq_zero_or_pos m with rfl | h
      · simp at habs; linarith
      · exact h
    rw [abs_of_pos hpos] at habs
    rw [habs, roundPositive_exact false hm0 hm hlo hhi]
    simp
  · have hq : q = 0 := by linarith [not_lt.mp hneg, not_lt.mp hpos]
    simp [toRat?, Finite.toRat_eq, Finite.zero, Finite.magnitude, hq]

/-- From `1` up, a rational rounds to an infinity or to a finite double of positive magnitude,
and below `2^1023` to a finite one. -/
theorem roundPositive_of_one_le (s : Bool) {a : ℚ} (h1 : 1 ≤ a) :
    (roundPositive s a = .infinity s ∨
      ∃ x : Finite, roundPositive s a = .finite x ∧ 0 < x.magnitude) ∧
    (a < 2 ^ (1023 : ℤ) → ∃ x : Finite, roundPositive s a = .finite x ∧ 0 < x.magnitude) := by
  have ha : 0 < a := by linarith
  obtain ⟨hL1, hL2⟩ := log2_spec ha
  -- from `1` up the leading bit is at least the units' bit, so the subnormals play no part
  have hL0 : 0 ≤ log2 a := by
    have : (2 : ℚ) ^ (0 : ℤ) < 2 ^ (log2 a + 1) := by simpa using h1.trans_lt hL2
    have := (zpow_lt_zpow_iff_right₀ one_lt_two).mp this
    omega
  have hE : quantum a = log2 a - 52 := max_eq_right (by omega)
  have hscaled : (1 : ℚ) ≤ a / 2 ^ quantum a := by
    rw [le_div_iff₀ (zpow_pos two_pos _), one_mul]
    exact (zpow_le_zpow_right₀ one_le_two (by omega)).trans hL1
  have hN : 0 < roundHalfEven (a / 2 ^ quantum a) :=
    lt_of_lt_of_le (Nat.floor_pos.mpr hscaled) (floor_le_roundHalfEven _)
  have hsmall : a < 2 ^ (1023 : ℤ) → quantum a ≤ 970 := fun h2 => by
    have : log2 a < 1023 := (zpow_lt_zpow_iff_right₀ one_lt_two).mp (hL1.trans_lt h2)
    omega
  unfold roundPositive
  dsimp only
  split_ifs with hm hfin hcarry
  · have hpos : 0 < (Finite.normalize s _ _ hm (quantum_ge a) hfin).magnitude := by
      rw [Finite.magnitude_normalize]
      exact mul_pos (by exact_mod_cast hN) (zpow_pos two_pos _)
    exact ⟨.inr ⟨_, rfl, hpos⟩, fun _ => ⟨_, rfl, hpos⟩⟩
  · exact ⟨.inl rfl, fun h2 => absurd (hsmall h2) (by omega)⟩
  · have hpos : (0 : ℚ) < (2 ^ 52 : ℕ) * 2 ^ (quantum a + 1) := by positivity
    exact ⟨.inr ⟨_, rfl, hpos⟩, fun _ => ⟨_, rfl, hpos⟩⟩
  · exact ⟨.inl rfl, fun h2 => absurd (hsmall h2) (by omega)⟩

end Rounding

section Representable

theorem representable_natCast {n : ℕ} (h : n < 2 ^ 53) : Representable n :=
  ⟨n, 0, h, by norm_num, by norm_num, by simp⟩

/-- A half of a natural number below `2^53`. -/
theorem representable_half {n : ℕ} (h : n < 2 ^ 53) : Representable (n / 2) :=
  ⟨n, -1, h, by norm_num, by norm_num, by rw [abs_of_nonneg (by positivity)]; simp [zpow_neg]; ring⟩

end Representable

section Operations

variable {x y : Double} {p q : ℚ}

@[simp] theorem toRat?_eq_some : x.toRat? = some p ↔ ∃ a, x = .finite a ∧ a.toRat = p := by
  cases x <;> simp [toRat?]

theorem toRat?_ofNat {n : ℕ} (h : n < 2 ^ 53) : (ofNat n).toRat? = some (n : ℚ) :=
  toRat?_ofRat (representable_natCast h) false

theorem toRat?_add (hx : x.toRat? = some p) (hy : y.toRat? = some q)
    (h : Representable (p + q)) : (x + y).toRat? = some (p + q) := by
  obtain ⟨a, rfl, rfl⟩ := toRat?_eq_some.mp hx
  obtain ⟨b, rfl, rfl⟩ := toRat?_eq_some.mp hy
  exact toRat?_ofRat h _

theorem toRat?_mul (hx : x.toRat? = some p) (hy : y.toRat? = some q)
    (h : Representable (p * q)) : (x * y).toRat? = some (p * q) := by
  obtain ⟨a, rfl, rfl⟩ := toRat?_eq_some.mp hx
  obtain ⟨b, rfl, rfl⟩ := toRat?_eq_some.mp hy
  exact toRat?_ofRat h _

theorem toRat?_neg (hx : x.toRat? = some p) : (-x).toRat? = some (-p) := by
  obtain ⟨a, rfl, rfl⟩ := toRat?_eq_some.mp hx
  show (neg (.finite a)).toRat? = _
  cases ha : a.negative <;> simp [neg, toRat?, Finite.toRat_eq, Finite.magnitude, ha]

theorem toRat?_sub (hx : x.toRat? = some p) (hy : y.toRat? = some q)
    (h : Representable (p - q)) : (x - y).toRat? = some (p - q) := by
  rw [sub_eq_add_neg] at h ⊢
  exact toRat?_add hx (toRat?_neg hy) h

theorem toRat?_div (hx : x.toRat? = some p) (hy : y.toRat? = some q) (hq : q ≠ 0)
    (h : Representable (p / q)) : (x / y).toRat? = some (p / q) := by
  obtain ⟨a, rfl, rfl⟩ := toRat?_eq_some.mp hx
  obtain ⟨b, rfl, rfl⟩ := toRat?_eq_some.mp hy
  have hb : b.significand ≠ 0 := fun h0 => hq ((Finite.toRat_eq_zero b).mpr h0)
  show (div (.finite a) (.finite b)).toRat? = _
  simp only [div, hb, if_false]
  exact toRat?_ofRat h _

/-- Comparison of finite doubles is comparison of their values. -/
theorem lt_iff_of_toRat? (hx : x.toRat? = some p) (hy : y.toRat? = some q) : x < y ↔ p < q := by
  obtain ⟨a, rfl, rfl⟩ := toRat?_eq_some.mp hx
  obtain ⟨b, rfl, rfl⟩ := toRat?_eq_some.mp hy
  show lt (.finite a) (.finite b) = true ↔ _
  simp [lt]

/-- Rounding a non-negative value below `2^52` to an integer adds a half and takes the floor. -/
theorem toRat?_round {v : ℚ} (hx : x.toRat? = some v) (h0 : 0 ≤ v) (h1 : v < 2 ^ 52) :
    x.round.toRat? = some (⌊v + 1 / 2⌋₊ : ℚ) := by
  obtain ⟨a, rfl, rfl⟩ := toRat?_eq_some.mp hx
  have hmag : a.magnitude = a.toRat := by
    rw [Finite.toRat_eq]
    split
    · have := a.magnitude_nonneg
      rw [Finite.toRat_eq, if_pos ‹_›] at h0
      linarith
    · rfl
  have hfloor : ⌊a.toRat + 1 / 2⌋₊ < 2 ^ 53 := by
    have : (⌊a.toRat + 1 / 2⌋₊ : ℚ) ≤ a.toRat + 1 / 2 := Nat.floor_le (by positivity)
    have : (⌊a.toRat + 1 / 2⌋₊ : ℚ) < 2 ^ 53 := by linarith
    exact_mod_cast this
  show (ofRat _ a.negative).toRat? = _
  rw [hmag, floor_eq, ← Int.floor_toNat]
  split
  · -- a negative zero: its value is `0`, and so is the rounded value
    have hz : a.toRat = 0 := by
      have := a.magnitude_nonneg
      rw [Finite.toRat_eq, if_pos ‹_›] at h0 ⊢
      linarith
    have hhalf : ⌊a.toRat + 1 / 2⌋.toNat = 0 := by
      rw [hz, Int.floor_eq_zero_iff.mpr ⟨by norm_num, by norm_num⟩]
      rfl
    rw [hhalf]
    simpa using toRat?_ofRat (representable_natCast (n := 0) (by norm_num)) a.negative
  · exact toRat?_ofRat (representable_natCast hfloor) _

/-- The byte of a finite double from `0` up to below `256` is the floor of its value. -/
theorem toNat_toUInt8 {v : ℚ} (hx : x.toRat? = some v) (h0 : 0 ≤ v) (h1 : v < 256) :
    x.toUInt8.toNat = ⌊v⌋₊ := by
  obtain ⟨a, rfl, rfl⟩ := toRat?_eq_some.mp hx
  have hlt : ⌊a.toRat⌋₊ < 256 := by
    rw [Nat.floor_lt h0]
    exact_mod_cast h1
  show (toUInt8 (.finite a)).toNat = _
  simp only [toUInt8]
  split
  · have := a.magnitude_nonneg
    rw [Finite.toRat_eq, if_pos ‹_›] at h0 ⊢
    have hz : a.magnitude = 0 := by linarith
    simp [hz]
  · rw [Finite.toRat_eq, if_neg ‹_›] at hlt ⊢
    rw [floor_eq, Int.floor_toNat, Nat.min_eq_left (by omega)]
    simp only [UInt8.toNat_ofNat', Nat.toUInt8]
    omega

theorem toRat?_zero : (0 : Double).toRat? = some 0 := by
  have h := toRat?_ofNat (n := 0) (by norm_num)
  rw [Nat.cast_zero] at h
  exact h

theorem toRat?_one : (1 : Double).toRat? = some 1 := by
  have h := toRat?_ofNat (n := 1) (by norm_num)
  rw [Nat.cast_one] at h
  exact h

theorem toRat?_hundred : (100 : Double).toRat? = some 100 := by
  have h := toRat?_ofNat (n := 100) (by norm_num)
  rw [Nat.cast_ofNat] at h
  exact h

/-- A positive count is a double other than not-a-number and the zeros. -/
theorem ofNat_nonzero {n : ℕ} (hn : 0 < n) : ofNat n ≠ .nan ∧ (ofNat n).toRat? ≠ some 0 := by
  have h1 : (1 : ℚ) ≤ n := by exact_mod_cast hn
  have hpos : ¬ (n : ℚ) < 0 := not_lt.mpr (Nat.cast_nonneg n)
  have hpos' : (0 : ℚ) < n := by positivity
  unfold ofNat ofRat
  rw [if_neg hpos, if_pos hpos']
  rcases (roundPositive_of_one_le false h1).1 with h | ⟨x, h, hx⟩ <;> rw [h]
  · simp [toRat?]
  · refine ⟨by simp, ?_⟩
    have hne : x.toRat ≠ 0 := by
      rw [Finite.toRat_eq]
      split <;> simp [hx.ne']
    simp [toRat?, hne]

/-- A count below `2^64` is a finite double other than the zeros. -/
theorem ofNat_finite {n : ℕ} (hn : 0 < n) (h64 : n < 2 ^ 64) :
    ∃ p, (ofNat n).toRat? = some p ∧ p ≠ 0 := by
  have h1 : (1 : ℚ) ≤ n := by exact_mod_cast hn
  have h2 : (n : ℚ) < 2 ^ (1023 : ℤ) := by
    have : (n : ℚ) < 2 ^ (64 : ℕ) := by exact_mod_cast h64
    exact this.trans_le (by rw [← zpow_natCast]; exact zpow_le_zpow_right₀ one_le_two (by norm_num))
  have hpos : ¬ (n : ℚ) < 0 := not_lt.mpr (Nat.cast_nonneg n)
  have hpos' : (0 : ℚ) < n := by positivity
  obtain ⟨x, h, hx⟩ := (roundPositive_of_one_le false h1).2 h2
  refine ⟨x.toRat, ?_, ?_⟩
  · unfold ofNat ofRat
    rw [if_neg hpos, if_pos hpos', h]
    rfl
  · rw [Finite.toRat_eq]
    split <;> simp [hx.ne']

/-- A zero over a double that is neither not-a-number nor a zero is a zero. -/
theorem toRat?_div_of_zero (hx : x.toRat? = some 0) (hy : y ≠ .nan) (hy0 : y.toRat? ≠ some 0) :
    (x / y).toRat? = some 0 := by
  obtain ⟨a, rfl, ha⟩ := toRat?_eq_some.mp hx
  cases y with
  | nan => exact absurd rfl hy
  | infinity t => simp [HDiv.hDiv, Div.div, div, toRat?, Finite.toRat_eq, Finite.zero,
      Finite.magnitude]
  | finite b =>
    have hb : b.toRat ≠ 0 := fun h => hy0 (by simp [toRat?, h])
    exact zero_div b.toRat ▸ ha ▸ toRat?_div rfl rfl hb (by
      rw [ha, zero_div]
      exact representable_natCast (n := 0) (by norm_num) |>.imp fun _ h => by simpa using h)

end Operations

section ZeroOrNaN

variable {x y : Double}

/-- A zero of either sign, or not-a-number. -/
def ZeroOrNaN (d : Double) : Prop := d = .nan ∨ d.toRat? = some 0

/-- Whatever is multiplied by a zero gives a zero or not-a-number. -/
theorem zeroOrNaN_mul (x : Double) (hy : y.toRat? = some 0) : (x * y).ZeroOrNaN := by
  obtain ⟨b, rfl, hb⟩ := toRat?_eq_some.mp hy
  have hb0 : b.significand = 0 := (Finite.toRat_eq_zero b).mp hb
  cases x with
  | nan => exact .inl rfl
  | infinity s => exact .inl (by simp [HMul.hMul, Mul.mul, mul, hb0])
  | finite a =>
    right
    show (ofRat (a.toRat * b.toRat) _).toRat? = _
    rw [hb, mul_zero]
    simpa using toRat?_ofRat (representable_natCast (n := 0) (by norm_num)) _

theorem ZeroOrNaN.add (hx : x.ZeroOrNaN) (hy : y.ZeroOrNaN) : (x + y).ZeroOrNaN := by
  rcases hx with rfl | hx
  · exact .inl rfl
  rcases hy with rfl | hy
  · left
    cases x <;> rfl
  right
  have := toRat?_add hx hy (by simpa using representable_natCast (n := 0) (by norm_num))
  simpa using this

theorem ZeroOrNaN.round (hx : x.ZeroOrNaN) : x.round.ZeroOrNaN := by
  rcases hx with rfl | hx
  · exact .inl rfl
  have h := toRat?_round hx le_rfl (by norm_num)
  rw [zero_add, Nat.floor_eq_zero.mpr (by norm_num), Nat.cast_zero] at h
  exact .inr h

/-- A zero or not-a-number is below no double of value at most zero. -/
theorem ZeroOrNaN.not_lt_of_nonpos {c : Double} {q : ℚ} (hx : x.ZeroOrNaN)
    (hc : c.toRat? = some q) (hq : q ≤ 0) : ¬ x < c := by
  rcases hx with rfl | hx
  · intro h
    cases h
  · rw [lt_iff_of_toRat? hx hc]
    exact not_lt.mpr hq

/-- A zero or not-a-number is above no double of value at least zero. -/
theorem ZeroOrNaN.not_gt_of_nonneg {c : Double} {q : ℚ} (hx : x.ZeroOrNaN)
    (hc : c.toRat? = some q) (hq : 0 ≤ q) : ¬ c < x := by
  rcases hx with rfl | hx
  · intro h
    obtain ⟨b, rfl, -⟩ := toRat?_eq_some.mp hc
    cases h
  · rw [lt_iff_of_toRat? hc hx]
    exact not_lt.mpr hq

theorem ZeroOrNaN.toUInt8 (hx : x.ZeroOrNaN) : x.toUInt8 = 0 := by
  rcases hx with rfl | hx
  · rfl
  · apply UInt8.toNat_inj.mp
    rw [toNat_toUInt8 hx le_rfl (by norm_num)]
    simp

end ZeroOrNaN

end AdvisoryTrace.Double
