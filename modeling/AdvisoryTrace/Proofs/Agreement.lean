import Mathlib
import AdvisoryTrace.Verdict
import AdvisoryTrace.Proofs.ExactDoubles

/-!
# What a verdict depends on

The validator's verdict on a static chain and a model's answer, for every weight: one that is
not a number and the two infinities included.

The validator keeps names as sorted lists without repeats (`Chain.sortedNames`). As sets these
are the names the steps and the answer carry (`Chain.nameSet`), and the Jaccard index computed
from list lengths is that of the two name sets (`Validator.agreement_eq`). So the order of the
steps, their depths and repeated names never change the confidence
(`Validator.confidence_congr`).

The confidence is cut to `0..100` whatever the blend gives (`Validator.confidence_le`). When
the blend is exact the confidence is the blend rounded half up
(`Validator.confidence_toNat_of_blend`); with the standard weight of one half it is exact when
the two name sets agree completely or not at all (`Validator.standard_confidence_of_agreement`).
An answer with score zero that shares no name with the static chain gives confidence zero for
every weight (`Validator.confidence_of_unrelated`): each term of the blend is a zero or not a
number.
-/

namespace AdvisoryTrace

namespace Chain

/-- The names the steps of a chain carry, as a set. -/
def nameSet (c : Chain) : Finset String := (c.steps.map (·.function)).toFinset

theorem nodup_eraseDups (l : List String) : l.eraseDups.Nodup := by
  cases l with
  | nil => simp
  | cons a as =>
    rw [List.eraseDups_cons, List.nodup_cons]
    exact ⟨by simp, nodup_eraseDups (as.filter fun b => !b == a)⟩
termination_by l.length
decreasing_by exact Nat.lt_succ_of_le (List.length_filter_le _ _)

@[simp] theorem mem_sortedNames {x : String} {l : List String} :
    x ∈ sortedNames l ↔ x ∈ l := by
  simp [sortedNames, List.mem_mergeSort]

@[simp] theorem toFinset_sortedNames (l : List String) :
    (sortedNames l).toFinset = l.toFinset := by
  ext x
  simp

theorem nodup_sortedNames (l : List String) : (sortedNames l).Nodup := nodup_eraseDups _

theorem length_sortedNames (l : List String) : (sortedNames l).length = l.toFinset.card := by
  rw [← toFinset_sortedNames, List.toFinset_card_of_nodup (nodup_sortedNames l)]

theorem toFinset_functions (c : Chain) : c.functions.toFinset = c.nameSet :=
  toFinset_sortedNames _

theorem nameSet_nonempty {c : Chain} (h : c.steps ≠ []) : c.nameSet.Nonempty := by
  obtain ⟨s, hs⟩ := List.exists_mem_of_ne_nil _ h
  exact ⟨s.function, List.mem_toFinset.mpr (List.mem_map_of_mem hs)⟩

theorem card_nameSet_le (c : Chain) : c.nameSet.card ≤ c.steps.length :=
  (List.toFinset_card_le _).trans (List.length_map _).le

end Chain

namespace Double

theorem toUInt8_hundred : (100 : Double).toUInt8 = 100 := by
  apply UInt8.toNat_inj.mp
  rw [toNat_toUInt8 toRat?_hundred (by norm_num) (by norm_num)]
  rfl

/-- A byte cast from a double not above `100` is at most `100`; not-a-number and the negative
values cast to `0`. -/
theorem toUInt8_le_hundred {x : Double} (h : ¬ 100 < x) : x.toUInt8 ≤ 100 := by
  obtain ⟨c, hc, -⟩ := toRat?_eq_some.mp toRat?_hundred
  cases x with
  | nan => decide
  | infinity s =>
    cases s with
    | true => decide
    | false => exact absurd (by rw [hc]; rfl) h
  | finite y =>
    by_cases hy : y.negative
    · simp [toUInt8, hy]
    have hle : y.toRat ≤ 100 := not_lt.mp fun hlt => h ((lt_iff_of_toRat? toRat?_hundred rfl).mpr hlt)
    have hy0 : 0 ≤ y.toRat := by simp [Finite.toRat_eq, hy, Finite.magnitude_nonneg]
    have hn := toNat_toUInt8 (x := .finite y) rfl hy0 (by linarith)
    have hfloor : ⌊y.toRat⌋₊ ≤ 100 := Nat.floor_le_of_le (by exact_mod_cast hle)
    exact UInt8.le_iff_toNat_le.mpr (by rw [hn]; exact hfloor)

/-- What the cut to `100` leaves casts to at most `100`. -/
theorem toUInt8_cut_le (r : Double) : (if r > 100 then 100 else r).toUInt8 ≤ 100 := by
  split_ifs with h
  · rw [toUInt8_hundred]
    decide
  · exact toUInt8_le_hundred h

end Double

namespace Validator

open Double

section Weight

theorem clampUnit_of_mem {w : Double} {p : ℚ} (hw : w.toRat? = some p) (h0 : 0 ≤ p)
    (h1 : p ≤ 1) : clampUnit w = w := by
  have hlo : ¬ w < 0 := by rw [lt_iff_of_toRat? hw toRat?_zero]; exact not_lt.mpr h0
  have hhi : ¬ w > 1 := by rw [gt_iff_lt, lt_iff_of_toRat? toRat?_one hw]; exact not_lt.mpr h1
  simp only [clampUnit, hlo, hhi, if_false]

theorem half_toRat? : (0.5 : Double).toRat? = some (1 / 2) := by
  have h := toRat?_ofRat (representable_half (n := 1) (by norm_num)) false
  have hq : ((1 : ℕ) : ℚ) / 2 = (5 : ℚ) / 10 ^ 1 := by norm_num
  rw [hq] at h
  rw [show (1 / 2 : ℚ) = (5 : ℚ) / 10 ^ 1 by norm_num]
  exact h

/-- The standard weight is exactly one half. -/
theorem standard_weight : standard.weight.toRat? = some (1 / 2) := by
  show (clampUnit 0.5).toRat? = _
  rw [clampUnit_of_mem half_toRat? (by norm_num) (by norm_num)]
  exact half_toRat?

end Weight

variable (static : Chain) (model : ModelChain)

/-- The validator's agreement is the Jaccard index of the two name sets, computed in doubles. -/
theorem agreement_eq :
    agreement static model =
      if (static.nameSet ∪ model.functions.toFinset).card = 0 then 0
      else .ofNat (static.nameSet ∩ model.functions.toFinset).card /
        .ofNat (static.nameSet ∪ model.functions.toFinset).card := by
  have hunion : (Chain.sortedNames (static.functions ++ Chain.sortedNames model.functions)).length =
      (static.nameSet ∪ model.functions.toFinset).card := by
    rw [Chain.length_sortedNames, List.toFinset_append, Chain.toFinset_functions,
      Chain.toFinset_sortedNames]
  have hcommon : (static.functions.filter (Chain.sortedNames model.functions).contains).length =
      (static.nameSet ∩ model.functions.toFinset).card := by
    have hnodup : (static.functions.filter (Chain.sortedNames model.functions).contains).Nodup :=
      (Chain.nodup_sortedNames _).filter _
    rw [← List.toFinset_card_of_nodup hnodup, List.toFinset_filter,
      Chain.toFinset_functions, ← Finset.filter_mem_eq_inter]
    congr 1
    ext x
    simp
  simp only [agreement, hunion, hcommon, beq_iff_eq]

/-- The confidence depends on the chains only through the sizes of the intersection and the
union of their name sets, and on the model's score only up to `100`. -/
theorem confidence_congr (v : Validator) {static' : Chain} {model' : ModelChain}
    (hcommon : (static.nameSet ∩ model.functions.toFinset).card =
      (static'.nameSet ∩ model'.functions.toFinset).card)
    (hunion : (static.nameSet ∪ model.functions.toFinset).card =
      (static'.nameSet ∪ model'.functions.toFinset).card)
    (hscore : min model.score 100 = min model'.score 100) :
    v.confidence static model = v.confidence static' model' := by
  simp only [confidence, agreement_eq, hcommon, hunion, hscore]

/-- The cut to `0..100` holds whatever the blend gives. -/
theorem confidence_le (v : Validator) : v.confidence static model ≤ 100 := by
  unfold confidence
  dsimp only
  exact toUInt8_cut_le _

/-- An exact blend within `0..100` is rounded half up, and nothing else changes it. -/
theorem confidence_toNat_of_blend (v : Validator) {q : ℚ}
    (h : (v.weight * .ofNat (min model.score 100).toNat +
      (1 - v.weight) * 100 * agreement static model).toRat? = some q)
    (h0 : 0 ≤ q) (h1 : q ≤ 100) : (v.confidence static model).toNat = ⌊q + 1 / 2⌋₊ := by
  have hr := toRat?_round h h0 (by linarith)
  have hn : ⌊q + 1 / 2⌋₊ ≤ 100 := by
    have : ⌊q + 1 / 2⌋₊ < 101 := (Nat.floor_lt (by linarith)).mpr (by push_cast; linarith)
    omega
  have hlo : ¬ (v.weight * .ofNat (min model.score 100).toNat +
      (1 - v.weight) * 100 * agreement static model).round < 0 := by
    rw [lt_iff_of_toRat? hr toRat?_zero]
    exact not_lt.mpr (Nat.cast_nonneg _)
  have hhi : ¬ (v.weight * .ofNat (min model.score 100).toNat +
      (1 - v.weight) * 100 * agreement static model).round > 100 := by
    rw [gt_iff_lt, lt_iff_of_toRat? toRat?_hundred hr]
    exact not_lt.mpr (by exact_mod_cast hn)
  unfold confidence
  dsimp only
  rw [if_neg hlo, if_neg hhi, toNat_toUInt8 hr (Nat.cast_nonneg _) (by exact_mod_cast (by omega))]
  exact Nat.floor_natCast _

/-- The agreement of chains with no name in common is zero. -/
theorem agreement_of_disjoint (h : Disjoint static.nameSet model.functions.toFinset) :
    (agreement static model).toRat? = some 0 := by
  rw [agreement_eq, Finset.disjoint_iff_inter_eq_empty.mp h, Finset.card_empty]
  split_ifs with hu
  · exact toRat?_zero
  · obtain ⟨hnan, hzero⟩ := ofNat_nonzero (Nat.pos_of_ne_zero hu)
    exact toRat?_div_of_zero toRat?_zero hnan hzero

/-- The agreement of a chain with an answer naming exactly its functions is one, for chains
of fewer than `2^64` steps. -/
theorem agreement_of_eq (h : static.nameSet = model.functions.toFinset)
    (hne : static.steps ≠ []) (hlen : static.steps.length < 2 ^ 64) :
    (agreement static model).toRat? = some 1 := by
  have hpos : 0 < static.nameSet.card := Finset.card_pos.mpr (Chain.nameSet_nonempty hne)
  obtain ⟨p, hp, hp0⟩ := ofNat_finite hpos (by linarith [Chain.card_nameSet_le static])
  rw [agreement_eq, ← h, Finset.union_self, Finset.inter_self, if_neg hpos.ne',
    toRat?_div hp hp hp0 (by rw [div_self hp0]; exact representable_natCast (n := 1) (by norm_num)),
    div_self hp0]

/-- With a score of zero and no name in common, the confidence is zero for every weight: both
terms of the blend are zeros or not a number, and so is what rounding and the cut leave. -/
theorem confidence_of_unrelated (v : Validator) (hscore : model.score = 0)
    (h : Disjoint static.nameSet model.functions.toFinset) : v.confidence static model = 0 := by
  have hs : (Double.ofNat (min model.score 100).toNat).toRat? = some 0 := by
    rw [hscore]
    exact toRat?_zero
  have hagree := agreement_of_disjoint static model h
  have hblend := ((zeroOrNaN_mul v.weight hs).add (zeroOrNaN_mul ((1 - v.weight) * 100) hagree)).round
  unfold confidence
  dsimp only
  rw [if_neg (hblend.not_lt_of_nonpos toRat?_zero le_rfl),
    if_neg (hblend.not_gt_of_nonneg toRat?_hundred (by norm_num))]
  exact hblend.toUInt8

section Standard

theorem ceil_half_eq (n : ℕ) : ⌈(n : ℚ) / 2⌉₊ = (n + 1) / 2 := by
  obtain ⟨k, rfl | rfl⟩ := Nat.even_or_odd' n
  · have h : ((2 * k : ℕ) : ℚ) / 2 = k := by push_cast; ring
    rw [h, Nat.ceil_natCast]
    omega
  · rw [show (2 * k + 1 + 1) / 2 = k + 1 by omega, Nat.ceil_eq_iff (by omega),
      Nat.add_sub_cancel]
    push_cast
    constructor <;> linarith

theorem floor_half_add_half (n : ℕ) : ⌊(n : ℚ) / 2 + 1 / 2⌋₊ = (n + 1) / 2 := by
  have h := Nat.floor_div_eq_div (K := ℚ) (n + 1) 2
  push_cast at h
  rw [← h, add_div]

/-- With the standard weight, a score `s ≤ 100` and an agreement of `0` or `1`, every
operation of the blend is exact: it is `(s + 100 j) / 2`. -/
theorem standard_blend {s j : ℕ} (hs : s ≤ 100) (hj : j ≤ 1) {J : Double}
    (hJ : J.toRat? = some j) :
    (standard.weight * .ofNat s + (1 - standard.weight) * 100 * J).toRat? =
      some (((s + 100 * j : ℕ) : ℚ) / 2) := by
  have hscore := toRat?_ofNat (n := s) (by omega)
  have hmodel : (standard.weight * .ofNat s).toRat? = some ((s : ℚ) / 2) := by
    have h := toRat?_mul standard_weight hscore
      (by rw [one_div_mul_eq_div]; exact representable_half (by omega))
    rwa [one_div_mul_eq_div] at h
  have hrest : (1 - standard.weight).toRat? = some (1 / 2) := by
    have h := toRat?_sub toRat?_one standard_weight
      (by rw [show (1 : ℚ) - 1 / 2 = ((1 : ℕ) : ℚ) / 2 by norm_num]
          exact representable_half (by norm_num))
    rwa [show (1 : ℚ) - 1 / 2 = 1 / 2 by norm_num] at h
  have hfifty : ((1 - standard.weight) * 100).toRat? = some 50 := by
    have h := toRat?_mul hrest toRat?_hundred
      (by rw [show (1 / 2 : ℚ) * 100 = ((50 : ℕ) : ℚ) by norm_num]
          exact representable_natCast (by norm_num))
    rwa [show (1 / 2 : ℚ) * 100 = 50 by norm_num] at h
  have hagree : ((1 - standard.weight) * 100 * J).toRat? = some ((50 * j : ℕ) : ℚ) := by
    have h := toRat?_mul hfifty hJ (by exact_mod_cast representable_natCast (by omega))
    exact_mod_cast h
  have hsum : ((s : ℚ) / 2 + ((50 * j : ℕ) : ℚ)) = ((s + 100 * j : ℕ) : ℚ) / 2 := by
    push_cast
    ring
  rw [← hsum]
  exact toRat?_add hmodel hagree (by rw [hsum]; exact representable_half (by omega))

/-- With the standard weight and a full or empty agreement `j`, the confidence is
`⌈(min(score, 100) + 100 j) / 2⌉`. -/
theorem standard_confidence_of_agreement {j : ℕ} (hj : j ≤ 1)
    (hJ : (agreement static model).toRat? = some j) :
    (standard.confidence static model).toNat =
      ⌈(((min model.score 100).toNat + 100 * j : ℕ) : ℚ) / 2⌉₊ := by
  have hs : (min model.score 100).toNat ≤ 100 := by
    rw [UInt8.toNat_min]
    exact min_le_right _ _
  have h := standard_blend hs hj hJ
  rw [confidence_toNat_of_blend static model standard h (by positivity)
    (by rw [div_le_iff₀ (by norm_num)]; exact_mod_cast (by omega)), floor_half_add_half,
    ceil_half_eq]

/-- With the standard weight, an answer naming exactly the functions of a chain with steps gets
`⌈(min(score, 100) + 100) / 2⌉`. -/
theorem standard_confidence_of_eq (h : static.nameSet = model.functions.toFinset)
    (hne : static.steps ≠ []) (hlen : static.steps.length < 2 ^ 64) :
    (standard.confidence static model).toNat =
      ⌈(((min model.score 100).toNat + 100 : ℕ) : ℚ) / 2⌉₊ := by
  have hJ : (agreement static model).toRat? = some ((1 : ℕ) : ℚ) := by
    rw [Nat.cast_one]
    exact agreement_of_eq static model h hne hlen
  rw [standard_confidence_of_agreement static model le_rfl hJ, Nat.mul_one]

/-- With the standard weight, an answer sharing no name with the chain gets
`⌈min(score, 100) / 2⌉`. -/
theorem standard_confidence_of_disjoint (h : Disjoint static.nameSet model.functions.toFinset) :
    (standard.confidence static model).toNat = ⌈((min model.score 100).toNat : ℚ) / 2⌉₊ := by
  have hJ : (agreement static model).toRat? = some ((0 : ℕ) : ℚ) := by
    rw [Nat.cast_zero]
    exact agreement_of_disjoint static model h
  rw [standard_confidence_of_agreement static model (Nat.zero_le 1) hJ, Nat.mul_zero,
    Nat.add_zero]

end Standard

section Judge

variable (v : Validator)

/-- A verdict on a static chain with steps holds that chain's text, whatever the model says. -/
theorem judge_of_steps {static : Chain} (h : static.steps ≠ []) (v : Validator)
    (model : ModelChain) :
    v.judge static model = .ok ⟨static.render, v.confidence static model⟩ := by
  have hne : static.isEmpty = false := by simpa [Chain.isEmpty] using h
  simp [Validator.judge, hne]

/-- A verdict carries the blended confidence. -/
theorem confidence_of_judge_ok {verdict : Verdict} (h : v.judge static model = .ok verdict) :
    verdict.confidence = v.confidence static model := by
  unfold judge at h
  split at h
  · cases h
  · cases h
    rfl

/-- Unless both chains are empty the verdict is given: the static chain's text when it has
steps, else the model's names as a flat chain. -/
theorem judge_of_not_both_empty (h : ¬ (static.steps = [] ∧ model.functions = [])) :
    v.judge static model =
      .ok ⟨if static.steps = [] then (Chain.flat model.functions).render else static.render,
        v.confidence static model⟩ := by
  by_cases hs : static.steps = []
  · have hm : model.functions.isEmpty = false := by simpa [hs] using h
    simp [judge, Chain.isEmpty, hs, hm]
  · rw [if_neg hs]
    exact judge_of_steps hs v model

/-- The judge fails exactly on two empty chains, and then with a validation failure. -/
theorem judge_error_iff :
    (∃ m, v.judge static model = .error (.validation m)) ↔
      static.steps = [] ∧ model.functions = [] := by
  constructor
  · rintro ⟨m, hm⟩
    by_contra h
    rw [judge_of_not_both_empty static model v h] at hm
    cases hm
  · rintro ⟨hs, hm⟩
    exact ⟨"static and model call chains are both empty", by simp [judge, Chain.isEmpty, hs, hm]⟩

/-- Without the model's answer (no names, score zero) a chain with steps is kept with
confidence zero, for every weight; two empty chains are refused. -/
theorem judge_without_model :
    v.judge static ⟨[], 0⟩ =
      if static.steps = [] then .error (.validation "static and model call chains are both empty")
      else .ok ⟨static.render, 0⟩ := by
  by_cases hs : static.steps = []
  · simp [judge, Chain.isEmpty, hs]
  · rw [if_neg hs, judge_of_steps hs v,
      confidence_of_unrelated static _ v rfl (by simp)]

/-- A judged chain whose names are the answer's has steps: two empty chains are refused. -/
theorem steps_ne_nil_of_judge_ok {verdict : Verdict} (h : v.judge static model = .ok verdict)
    (hset : static.nameSet = model.functions.toFinset) : static.steps ≠ [] := by
  intro hnil
  have hm : model.functions = [] := by
    rw [← List.toFinset_eq_empty_iff, ← hset, Chain.nameSet, hnil, List.map_nil,
      List.toFinset_nil]
  have hboth : ¬ (static.steps = [] ∧ model.functions = []) := by
    rintro hboth
    obtain ⟨m, hm⟩ := (judge_error_iff static model v).mpr hboth
    rw [hm] at h
    cases h
  exact hboth ⟨hnil, hm⟩

end Judge

end Validator

end AdvisoryTrace
