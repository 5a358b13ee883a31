import Mathlib
import AdvisoryTrace.Worker
import AdvisoryTrace.Proofs.Agreement
import AdvisoryTrace.Proofs.WalkShape

/-!
# Runs of the analysis pipeline

An analysis runs its five stages one after another on an environment. For every behaviour of
the stages, its run is the stepwise one (`Stages.run_analyze`): each stage is given what the
stages before it gave and the environment they left, and the first stage that halts gives the
result, unchanged, except that an unavailable model counts as an empty answer with score zero
when the static chain may stand alone. Every halt of a run is therefore a halt of one of its
stages (`Stages.stepwise_error`).

With the agreement validator, an unavailable model in static-only mode leaves the static chain
with confidence zero, or refuses a static chain without steps (`Stages.analyze_without_model`).
The wired pipeline traces its static chain from a function the sources define, so the chain
always has steps and the validator always gives a verdict (`Pipeline.run_analyze_judged`): a run
fails validation only when the checkout or the model does (`Pipeline.analyze_ne_validation`).
Every verdict is cut to `0..100`, so every outcome a worker records as done is too
(`Workers.settle_done_le`).
-/

namespace AdvisoryTrace

variable {σ : Type}

namespace Stage

theorem run_bind {α β : Type} (x : Stage σ α) (f : α → Stage σ β) (s : σ) :
    (x >>= f).run.run s = match x.run.run s with
      | (.ok a, s') => (f a).run.run s'
      | (.error h, s') => (.error h, s') := by
  simp only [ExceptT.run_bind, StateT.run_bind]
  rcases x.run.run s with ⟨_ | _, s'⟩ <;> rfl

theorem run_tryCatch {α : Type} (x : Stage σ α) (handler : Halt → Stage σ α) (s : σ) :
    (tryCatch x handler).run.run s = match x.run.run s with
      | (.ok a, s') => (.ok a, s')
      | (.error h, s') => (handler h).run.run s' := by
  show (ExceptT.tryCatch x handler).run.run s = _
  simp only [ExceptT.tryCatch, ExceptT.run_mk, StateT.run_bind]
  dsimp only [ExceptT.run]
  rcases StateT.run x s with ⟨_ | _, s'⟩ <;> rfl

@[simp] theorem run_lift {α : Type} (r : Except Failure α) (s : σ) :
    (Stage.lift r : Stage σ α).run.run s = (r.mapError .failure, s) := by
  cases r <;> rfl

end Stage

namespace Stages

/-- The analysis as its stages run one after another: each stage is given what the stages
before it gave and the environment they left, and the first halt is the result. A model that
is unavailable counts as an empty answer with score zero when the static chain may stand
alone. -/
def stepwise (p : Stages σ) (id : String) (s₀ : σ) : Except Halt Verdict × σ :=
  match (p.resolve id).run.run s₀ with
  | (.error h, s₁) => (.error h, s₁)
  | (.ok res, s₁) =>
    match (p.ensure res.repoUrl res.commit).run.run s₁ with
    | (.error h, s₂) => (.error h, s₂)
    | (.ok copy, s₂) =>
      match (p.staticChain copy res.testId).run.run s₂ with
      | (.error h, s₃) => (.error h, s₃)
      | (.ok static, s₃) =>
        match (p.generate copy res.testId static).run.run s₃ with
        | (.ok model, s₄) => (p.crossValidate static model).run.run s₄
        | (.error (.failure (.unavailable message)), s₄) =>
          if p.allowStaticOnly then (p.crossValidate static ⟨[], 0⟩).run.run s₄
          else (.error (.failure (.unavailable message)), s₄)
        | (.error h, s₄) => (.error h, s₄)

theorem run_analyze (p : Stages σ) (id : String) (s₀ : σ) :
    (p.analyze id).run.run s₀ = p.stepwise id s₀ := by
  simp only [analyze, stepwise, Stage.run_bind, modelChain, Stage.run_tryCatch]
  -- one stage at a time: a halt ends both sides alike, a result is passed on
  rcases (p.resolve id).run.run s₀ with ⟨_ | res, s₁⟩
  · rfl
  dsimp only
  rcases (p.ensure res.repoUrl res.commit).run.run s₁ with ⟨_ | copy, s₂⟩
  · rfl
  dsimp only
  rcases (p.staticChain copy res.testId).run.run s₂ with ⟨_ | static, s₃⟩
  · rfl
  dsimp only
  rcases (p.generate copy res.testId static).run.run s₃ with
    ⟨((_ | _ | _ | message | _) | _) | model, s₄⟩
  all_goals try rfl
  dsimp only
  cases p.allowStaticOnly <;> rfl

/-- Stages that judge alike every chain the static stage can give run alike. -/
theorem stepwise_crossValidate (p : Stages σ) (f : Chain → ModelChain → Stage σ Verdict)
    (h : ∀ copy testId s static s', (p.staticChain copy testId).run.run s = (.ok static, s') →
      f static = p.crossValidate static) (id : String) (s₀ : σ) :
    { p with crossValidate := f }.stepwise id s₀ = p.stepwise id s₀ := by
  unfold stepwise
  dsimp only
  rcases (p.resolve id).run.run s₀ with ⟨_ | res, s₁⟩
  · rfl
  dsimp only
  rcases (p.ensure res.repoUrl res.commit).run.run s₁ with ⟨_ | copy, s₂⟩
  · rfl
  dsimp only
  rcases hs : (p.staticChain copy res.testId).run.run s₂ with ⟨_ | static, s₃⟩
  · rfl
  dsimp only
  rw [h copy res.testId s₂ static s₃ hs]

/-- Every halt of a run is the halt of one of its stages, the model's unavailability when the
static chain may not stand alone included. -/
theorem stepwise_error (p : Stages σ) (id : String) (s₀ s' : σ) (h : Halt)
    (hrun : p.stepwise id s₀ = (.error h, s')) :
    (∃ s, ((p.resolve id).run.run s).1 = .error h) ∨
    (∃ url commit s, ((p.ensure url commit).run.run s).1 = .error h) ∨
    (∃ copy testId s, ((p.staticChain copy testId).run.run s).1 = .error h) ∨
    (∃ copy testId static s, ((p.generate copy testId static).run.run s).1 = .error h) ∨
    (∃ static model s, ((p.crossValidate static model).run.run s).1 = .error h) := by
  unfold stepwise at hrun
  split at hrun
  next heq => cases hrun; exact .inl ⟨s₀, by rw [heq]⟩
  split at hrun
  next heq => cases hrun; exact .inr (.inl ⟨_, _, _, by rw [heq]⟩)
  split at hrun
  next heq => cases hrun; exact .inr (.inr (.inl ⟨_, _, _, by rw [heq]⟩))
  split at hrun
  next => exact .inr (.inr (.inr (.inr ⟨_, _, _, congrArg Prod.fst hrun⟩)))
  next heq =>
    split at hrun
    next => exact .inr (.inr (.inr (.inr ⟨_, _, _, congrArg Prod.fst hrun⟩)))
    next => cases hrun; exact .inr (.inr (.inr (.inl ⟨_, _, _, _, by rw [heq]⟩)))
  next heq => cases hrun; exact .inr (.inr (.inr (.inl ⟨_, _, _, _, by rw [heq]⟩)))

/-- Whatever holds of every verdict the last stage gives holds of the verdict of a run. -/
theorem stepwise_ok (p : Stages σ) (P : Verdict → Prop)
    (hP : ∀ static model s v s', (p.crossValidate static model).run.run s = (.ok v, s') → P v)
    (id : String) (s₀ s' : σ) (v : Verdict) (hrun : p.stepwise id s₀ = (.ok v, s')) : P v := by
  unfold stepwise at hrun
  split at hrun
  next => cases hrun
  split at hrun
  next => cases hrun
  split at hrun
  next => cases hrun
  split at hrun
  next => exact hP _ _ _ _ _ hrun
  next =>
    split at hrun
    next => exact hP _ _ _ _ _ hrun
    next => cases hrun
  next => cases hrun

/-- With the agreement validator, an unavailable model in static-only mode leaves a static
chain with steps at confidence zero, whatever the validator's weight, and refuses one
without steps. -/
theorem analyze_without_model (p : Stages σ) (v : Validator) (hstatic : p.allowStaticOnly = true)
    (hv : ∀ static model, p.crossValidate static model = .lift (v.judge static model))
    {id message : String} {s₀ s₁ s₂ s₃ s₄ : σ} {res : Resolution} {copy : WorkingCopy}
    {static : Chain}
    (h1 : (p.resolve id).run.run s₀ = (.ok res, s₁))
    (h2 : (p.ensure res.repoUrl res.commit).run.run s₁ = (.ok copy, s₂))
    (h3 : (p.staticChain copy res.testId).run.run s₂ = (.ok static, s₃))
    (h4 : (p.generate copy res.testId static).run.run s₃ =
      (.error (.failure (.unavailable message)), s₄)) :
    (p.analyze id).run.run s₀ =
      (if static.steps = [] then
        .error (.failure (.validation "static and model call chains are both empty"))
      else .ok ⟨static.render, 0⟩, s₄) := by
  rw [run_analyze]
  unfold stepwise
  simp only [h1, h2, h3, h4, hstatic, if_true, hv, Stage.run_lift, Validator.judge_without_model]
  split_ifs <;> rfl

end Stages

theorem Except.mapError_failure_eq_error {α : Type} {r : Except Failure α} {f : Failure} :
    r.mapError Halt.failure = .error (.failure f) ↔ r = .error f := by
  cases r <;> simp [Except.mapError]

theorem Catalog.resolve_ne_validation (c : Catalog) (id m : String) :
    c.resolve id ≠ .error (.validation m) := by
  unfold Catalog.resolve
  split <;> intro h <;> cases h

namespace Source

theorem traceFolder_ne_validation (d : Disk) (location testId : String) (maxDepth : Nat)
    (m : String) : traceFolder d location testId maxDepth ≠ .error (.validation m) := by
  unfold traceFolder
  dsimp only
  split_ifs <;> intro h <;> cases h

/-- A traced chain starts with its entry, so it has steps. -/
theorem traceFolder_steps_ne_nil {d : Disk} {location testId : String} {maxDepth : Nat}
    {c : Chain} (h : traceFolder d location testId maxDepth = .ok c) : c.steps ≠ [] := by
  unfold traceFolder at h
  dsimp only at h
  split_ifs at h
  cases h
  intro hnil
  have hstart := CallGraph.chainFrom_starts (g := folderGraph d (d.locate location))
    (entryFunction testId) maxDepth
  rw [hnil] at hstart
  cases hstart

end Source

namespace Pipeline

theorem run_generate (p : Pipeline σ) (copy : WorkingCopy) (testId : String) (static : Chain)
    (s : σ) : (p.generate copy testId static).run.run s =
      ((p.model copy testId static s).1.mapError .failure, (p.model copy testId static s).2) := by
  have hrun : StateT.run (p.model copy testId static) s = p.model copy testId static s := rfl
  rcases h : p.model copy testId static s with ⟨_ | m, s'⟩ <;>
    simp [generate, hrun, h, Except.mapError] <;> rfl

theorem run_staticChain (p : Pipeline σ) (copy : WorkingCopy) (testId : String) (s : σ) :
    (p.stages.staticChain copy testId).run.run s =
      ((Source.traceFolder copy.disk copy.path testId p.maxDepth).mapError .failure, s) := by
  simp only [stages, Stage.run_lift]

/-- The wired validator never refuses: the static chain it is given always has steps, so every
run is the run of stages whose last one keeps the static chain's text with the blended
confidence. -/
theorem run_analyze_judged (p : Pipeline σ) (id : String) (s : σ) :
    (p.analyze id).run.run s =
      ({ p.stages with
          crossValidate static model := pure ⟨static.render, p.validator.confidence static model⟩
        }.analyze id).run.run s := by
  rw [analyze, Stages.run_analyze, Stages.run_analyze]
  refine (Stages.stepwise_crossValidate p.stages _ ?_ id s).symm
  intro copy testId s static s' h
  rw [run_staticChain] at h
  have hc : Source.traceFolder copy.disk copy.path testId p.maxDepth = .ok static := by
    cases ht : Source.traceFolder copy.disk copy.path testId p.maxDepth <;> rw [ht] at h <;>
      cases h
    rfl
  funext model
  show pure _ = Stage.lift (p.validator.judge static model)
  rw [Validator.judge_of_steps (Source.traceFolder_steps_ne_nil hc)]
  rfl

/-- A run fails validation only when the checkout or the model does. -/
theorem analyze_ne_validation (p : Pipeline σ)
    (hcheckout : ∀ url commit s m, ((p.checkout url commit).run.run s).1 ≠
      .error (.failure (.validation m)))
    (hmodel : ∀ copy testId static s m, (p.model copy testId static s).1 ≠
      .error (.validation m))
    (id : String) (s s' : σ) (m : String) :
    (p.analyze id).run.run s ≠ (.error (.failure (.validation m)), s') := by
  intro hrun
  rw [run_analyze_judged, Stages.run_analyze] at hrun
  -- the halt is one stage's; none of them fails validation
  rcases Stages.stepwise_error _ _ _ _ _ hrun with
    ⟨s₁, h⟩ | ⟨url, commit, s₁, h⟩ | ⟨copy, testId, s₁, h⟩ | ⟨copy, testId, static, s₁, h⟩ |
      ⟨static, model, s₁, h⟩
  · exact p.catalog.resolve_ne_validation id m
      (Except.mapError_failure_eq_error.mp (by simpa [stages] using h))
  · exact hcheckout url commit s₁ m h
  · exact Source.traceFolder_ne_validation _ _ _ _ m
      (Except.mapError_failure_eq_error.mp (by simpa [run_staticChain] using h))
  · exact hmodel copy testId static s₁ m
      (Except.mapError_failure_eq_error.mp (by simpa [stages, run_generate] using h))
  · cases h

end Pipeline

theorem Workers.settle_outcome (w : Workers σ) (id : String) (s : σ) :
    ((w.settle id).run s).1 = Outcome.ofAnalysis ((w.pipeline.analyze id).run.run s).1 := by
  simp only [Workers.settle, StateT.run_bind]
  rcases (w.pipeline.analyze id).run.run s with ⟨_ | v, s₁⟩
  · rfl
  · show (StateT.run ((fun _ => Outcome.ofAnalysis (.ok v)) <$> w.save v) s₁).1 = _
    rw [StateT.run_map]
    rfl

/-- Every outcome a worker records as done has a confidence of at most `100`. -/
theorem Workers.settle_done_le (w : Workers σ) (id : String) (s s' : σ) (chain : String)
    (c : UInt8) (h : (w.settle id).run s = (.done chain c, s')) : c ≤ 100 := by
  have hout := w.settle_outcome id s
  rw [h] at hout
  rcases hrun : (w.pipeline.analyze id).run.run s with ⟨_ | v, s₁⟩ <;> rw [hrun] at hout
  · cases hout
  cases hout
  rw [Pipeline.analyze, Stages.run_analyze] at hrun
  refine Stages.stepwise_ok _ (fun v => v.confidence ≤ 100) ?_ _ _ _ _ hrun
  intro static model s v s' hv
  have hj : w.pipeline.validator.judge static model = .ok v := by
    simp only [Pipeline.stages, Stage.run_lift] at hv
    cases hj : w.pipeline.validator.judge static model <;> rw [hj] at hv <;> cases hv
    rfl
  rw [Validator.confidence_of_judge_ok _ _ _ hj]
  exact Validator.confidence_le _ _ _

/-- An analysis runs resolve, checkout, the static analysis, the model and the validator in
order, each on what the stages before it gave; the first halt is the result, unchanged, except
that an unavailable model in static-only mode is an empty answer with score zero. So with the
agreement validator, whatever its weight, an unavailable model leaves a static chain with steps
at confidence zero and refuses one without; and in the wired pipeline, whose static chains
always have steps, the validator never refuses, so a run fails validation only when the
checkout or the model does. -/
theorem analysis_runs_stages_in_order :
    (∀ {σ : Type} (p : Stages σ) (id : String) (s₀ : σ),
      (p.analyze id).run.run s₀ = p.stepwise id s₀) ∧
    (∀ {σ : Type} (p : Stages σ) (v : Validator), p.allowStaticOnly = true →
      (∀ static model, p.crossValidate static model = .lift (v.judge static model)) →
      ∀ (id message : String) (s₀ s₁ s₂ s₃ s₄ : σ) (res : Resolution) (copy : WorkingCopy)
        (static : Chain),
        (p.resolve id).run.run s₀ = (.ok res, s₁) →
        (p.ensure res.repoUrl res.commit).run.run s₁ = (.ok copy, s₂) →
        (p.staticChain copy res.testId).run.run s₂ = (.ok static, s₃) →
        (p.generate copy res.testId static).run.run s₃ =
          (.error (.failure (.unavailable message)), s₄) →
        (p.analyze id).run.run s₀ =
          (if static.steps = [] then
            .error (.failure (.validation "static and model call chains are both empty"))
          else .ok ⟨static.render, 0⟩, s₄)) ∧
    (∀ {σ : Type} (p : Pipeline σ) (id : String) (s : σ),
      (p.analyze id).run.run s =
        ({ p.stages with
            crossValidate static model := pure ⟨static.render, p.validator.confidence static model⟩
          }.analyze id).run.run s) ∧
    (∀ {σ : Type} (p : Pipeline σ),
      (∀ url commit s m,
        ((p.checkout url commit).run.run s).1 ≠ .error (.failure (.validation m))) →
      (∀ copy testId static s m, (p.model copy testId static s).1 ≠ .error (.validation m)) →
      ∀ (id : String) (s s' : σ) (m : String),
        (p.analyze id).run.run s ≠ (.error (.failure (.validation m)), s')) :=
  ⟨Stages.run_analyze,
    fun p v hstatic hv _ _ _ _ _ _ _ _ _ _ h1 h2 h3 h4 =>
      Stages.analyze_without_model p v hstatic hv h1 h2 h3 h4,
    Pipeline.run_analyze_judged, Pipeline.analyze_ne_validation⟩

/-- The two-step chain `entry`, `decode` with the model disabled in static-only mode is kept
with confidence zero. -/
theorem static_only_keeps_static_chain :
    (({ resolve := fun _ => pure ⟨"https://example.com/o/r", "c0ffee", "tests::entry"⟩
        ensure := fun _ _ => pure ⟨Disk.empty ".", "."⟩
        staticChain := fun _ _ => pure (Chain.flat ["entry", "decode"])
        generate := fun _ _ _ => throw (.failure (.unavailable "no model API key configured"))
        crossValidate := fun static model => .lift (Validator.standard.judge static model)
        allowStaticOnly := true } : Stages Unit).analyze "RUSTSEC-2024-0001").run.run () =
      (.ok ⟨"entry()\ndecode()", 0⟩, ()) := by
  rw [analysis_runs_stages_in_order.2.1 _ Validator.standard rfl (fun _ _ => rfl)
    "RUSTSEC-2024-0001" _ () () () () () _ _ _ rfl rfl rfl rfl]
  rfl

/-- The verdict of the agreement validator, for every weight (not a number and the
infinities included): two empty chains are refused with a validation failure, and otherwise
the verdict keeps the static chain's text, or the model's names as a flat chain when the static
chain has no steps. Its confidence is at most `100` and depends only on the weight, the model's
score up to `100` and the sizes of the intersection and union of the two name sets. With the
standard weight it is `⌈(min(score, 100) + 100) / 2⌉` for equal name sets (on chains of fewer
than `2^64` steps) and `⌈min(score, 100) / 2⌉` for disjoint ones. So every outcome a worker
records as done has a confidence of at most `100`. -/
theorem verdict_blends_score_and_agreement :
    (∀ (v : Validator) (static : Chain) (model : ModelChain),
      ((∃ m, v.judge static model = .error (.validation m)) ↔
        static.steps = [] ∧ model.functions = []) ∧
      (¬ (static.steps = [] ∧ model.functions = []) →
        v.judge static model =
          .ok ⟨if static.steps = [] then (Chain.flat model.functions).render else static.render,
            v.confidence static model⟩) ∧
      v.confidence static model ≤ 100) ∧
    (∀ (v v' : Validator) (static static' : Chain) (model model' : ModelChain),
      v.weight = v'.weight → min model.score 100 = min model'.score 100 →
      (static.nameSet ∩ model.functions.toFinset).card =
        (static'.nameSet ∩ model'.functions.toFinset).card →
      (static.nameSet ∪ model.functions.toFinset).card =
        (static'.nameSet ∪ model'.functions.toFinset).card →
      v.confidence static model = v'.confidence static' model') ∧
    (∀ (static : Chain) (model : ModelChain) (verdict : Verdict),
      Validator.standard.judge static model = .ok verdict → static.steps.length < 2 ^ 64 →
      static.nameSet = model.functions.toFinset →
      verdict.confidence.toNat = ⌈(((min model.score 100).toNat + 100 : ℕ) : ℚ) / 2⌉₊) ∧
    (∀ (static : Chain) (model : ModelChain) (verdict : Verdict),
      Validator.standard.judge static model = .ok verdict →
      Disjoint static.nameSet model.functions.toFinset →
      verdict.confidence.toNat = ⌈((min model.score 100).toNat : ℚ) / 2⌉₊) ∧
    (∀ {σ : Type} (w : Workers σ) (id : String) (s s' : σ) (chain : String) (c : UInt8),
      (w.settle id).run s = (.done chain c, s') → c ≤ 100) := by
  refine ⟨fun v static model => ⟨Validator.judge_error_iff static model v,
    Validator.judge_of_not_both_empty static model v, Validator.confidence_le static model v⟩,
    ?_, ?_, ?_, Workers.settle_done_le⟩
  · rintro ⟨w⟩ ⟨w'⟩ static static' model model' hw hscore hcommon hunion
    cases hw
    exact Validator.confidence_congr static model _ hcommon hunion hscore
  · intro static model verdict hj hlen hset
    rw [Validator.confidence_of_judge_ok static model _ hj]
    exact Validator.standard_confidence_of_eq static model hset
      (Validator.steps_ne_nil_of_judge_ok static model _ hj hset) hlen
  · intro static model verdict hj hdisjoint
    rw [Validator.confidence_of_judge_ok static model _ hj]
    exact Validator.standard_confidence_of_disjoint static model hdisjoint

/-- Both functions named at score 80 under the standard weight give confidence 90. -/
theorem standard_confidence_of_full_agreement :
    (Validator.standard.confidence ⟨[⟨"entry", 0⟩, ⟨"decode", 1⟩]⟩
      ⟨["entry", "decode"], 80⟩).toNat = 90 := by
  have h := verdict_blends_score_and_agreement.2.2.1 ⟨[⟨"entry", 0⟩, ⟨"decode", 1⟩]⟩
    ⟨["entry", "decode"], 80⟩ _ rfl (by norm_num) rfl
  rw [show (min (80 : UInt8) 100).toNat = 80 by decide] at h
  norm_num at h
  exact h

end AdvisoryTrace
