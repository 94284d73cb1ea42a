import ExoBrain.Lib.Checks
import ExoBrain.Lib.Run
import Mathlib.Order.Lattice

/-!
# Scaling up the workers of the background runtime

`AgentScaler.evaluate` (`agent_scaler.py`) looks at the jobs that wait and at those that run, and says
how many workers there should be.  It keeps two numbers between its calls: the evaluations for which
it still rests after a scale-up, and the target of the last one.

* `init` checks a configuration, `evaluate` is one evaluation.
* `evaluate_spec` says once what an evaluation can do.
* `scaler_disciplined`: after a scale-up the scaler rests as long as it is told to, its targets keep
  to their bounds, and a pool that is not above the last target needs more of a backlog.

Floats are a parameter: of the threshold for running jobs only `ratio <= 0` and `ceil(n * ratio)`
count.
-/

set_option autoImplicit false

namespace ExoBrain
namespace Core

open Checks (check check_eq_ok bind_eq_ok)
open Run (Along exec trace trace_invariant forall_mem_trace along_of_forall trace_eq_append_cons)

/-- What the scaler does with floats: `ratio <= 0`, and `ceil(n * ratio)`, which raises if the
product is not a finite number. -/
structure Floats (ρ : Type) where
  nonPositive : ρ → Bool
  ceilMul : Int → ρ → Option Int

/-- `AgentScalerConfig`. -/
structure AgentScalerConfig (ρ : Type) where
  enabled : Bool := false
  minConcurrency : Int := 1
  maxConcurrency : Int := 8
  scaleUpBacklogThreshold : Int := 2
  scaleUpStep : Int := 1
  scaleUpCooldownEvaluations : Int := 0
  scaleUpHysteresisBacklogDelta : Int := 0
  backpressureBacklogThreshold : Int := 8
  backpressureActiveRatioThreshold : ρ
deriving Repr

/-- `reason_code`. -/
inductive ScalerReason
  | scalerDisabled
  | ok
  | scalerCooldownActive
  | backpressureThresholdExceeded
  | scaleUpThresholdReached
deriving DecidableEq, Repr

/-- `diagnostics`.  A scaler that is switched off says nothing of the cooldown. -/
structure ScalerDiagnostics where
  effectiveScaleUpThreshold : Int
  activeThreshold : Int
  cooldownRemaining : Int
  cooldownApplied : Option Bool
deriving DecidableEq, Repr

/-- `AgentScalerDecision`. -/
structure AgentScalerDecision where
  targetConcurrency : Int
  scaleUp : Bool
  backpressure : Bool
  reasonCode : ScalerReason
  diagnostics : ScalerDiagnostics
deriving DecidableEq, Repr

/-- The arguments of `evaluate`. -/
structure EvaluateCall where
  activeJobs : Int
  pendingJobs : Int
  currentConcurrency : Int
deriving DecidableEq, Repr

/-- `AgentScaler`, without the configuration. -/
structure AgentScaler where
  cooldownRemaining : Int := 0
  lastScaleUpTarget : Int := 0
deriving DecidableEq, Repr

variable {ρ : Type} (F : Floats ρ) (config : AgentScalerConfig ρ)

namespace AgentScaler

/-- `__init__`, with the text of the `ValueError`. -/
def init : Except String AgentScaler := do
  check (1 ≤ config.minConcurrency) "min_concurrency must be >= 1"
  check (config.minConcurrency ≤ config.maxConcurrency) "max_concurrency must be >= min_concurrency"
  check (0 ≤ config.scaleUpBacklogThreshold) "scale_up_backlog_threshold must be >= 0"
  check (1 ≤ config.scaleUpStep) "scale_up_step must be >= 1"
  check (0 ≤ config.scaleUpCooldownEvaluations) "scale_up_cooldown_evaluations must be >= 0"
  check (0 ≤ config.scaleUpHysteresisBacklogDelta) "scale_up_hysteresis_backlog_delta must be >= 0"
  check (1 ≤ config.backpressureBacklogThreshold) "backpressure_backlog_threshold must be >= 1"
  check (F.nonPositive config.backpressureActiveRatioThreshold = false)
    "backpressure_active_ratio_threshold must be > 0"
  return {}

/-- `normalized`. -/
def normalized (call : EvaluateCall) : Int := max call.currentConcurrency config.minConcurrency

/-- `effective_scale_up_threshold`. -/
def effectiveThreshold (call : EvaluateCall) (s : AgentScaler) : Int :=
  if 0 < config.scaleUpHysteresisBacklogDelta ∧ normalized config call ≤ s.lastScaleUpTarget ∧
      config.minConcurrency < normalized config call then
    config.scaleUpBacklogThreshold + config.scaleUpHysteresisBacklogDelta
  else config.scaleUpBacklogThreshold

/-- `evaluate`.  If it raises, it answers nothing. -/
def evaluate (s : AgentScaler) (call : EvaluateCall) : Option AgentScalerDecision × AgentScaler :=
  let normalized := normalized config call
  if config.enabled = false then
    (some ⟨normalized, false, false, .scalerDisabled,
      ⟨config.scaleUpBacklogThreshold, 0, s.cooldownRemaining, none⟩⟩, s)
  else
    match F.ceilMul normalized config.backpressureActiveRatioThreshold with
    | none => (none, s)
    | some activeThreshold =>
      let effective := effectiveThreshold config call s
      let cooldownApplied := decide (0 < s.cooldownRemaining)
      let cooldown := if cooldownApplied then s.cooldownRemaining - 1 else s.cooldownRemaining
      let wanted := decide (effective ≤ call.pendingJobs ∧ normalized < config.maxConcurrency)
      let target :=
        if wanted && !cooldownApplied then
          min config.maxConcurrency (normalized + config.scaleUpStep)
        else normalized
      let scaleUp := wanted && !cooldownApplied && decide (normalized < target)
      let next : AgentScaler :=
        if scaleUp then ⟨config.scaleUpCooldownEvaluations, target⟩
        else ⟨cooldown, s.lastScaleUpTarget⟩
      let backpressure := decide (config.backpressureBacklogThreshold ≤ call.pendingJobs) &&
        decide (activeThreshold ≤ call.activeJobs)
      let reasonCode : ScalerReason :=
        if backpressure then .backpressureThresholdExceeded
        else if scaleUp then .scaleUpThresholdReached
        else if cooldownApplied && wanted then .scalerCooldownActive
        else .ok
      (some ⟨target, scaleUp, backpressure, reasonCode,
        ⟨effective, activeThreshold, next.cooldownRemaining, some cooldownApplied⟩⟩, next)

end AgentScaler

/-! ## What an evaluation can do -/

/-- A configuration that the constructor accepts. -/
structure AgentScalerConfig.Valid : Prop where
  one_le_min : 1 ≤ config.minConcurrency
  min_le_max : config.minConcurrency ≤ config.maxConcurrency
  threshold_nonneg : 0 ≤ config.scaleUpBacklogThreshold
  one_le_step : 1 ≤ config.scaleUpStep
  cooldown_nonneg : 0 ≤ config.scaleUpCooldownEvaluations
  delta_nonneg : 0 ≤ config.scaleUpHysteresisBacklogDelta
  one_le_backpressure : 1 ≤ config.backpressureBacklogThreshold
  ratio_pos : F.nonPositive config.backpressureActiveRatioThreshold = false

/-- A target between its bounds, and above the workers there are, by no more than a step, exactly
for a scale-up. -/
structure AgentScalerDecision.Bounded (call : EvaluateCall) (d : AgentScalerDecision) : Prop where
  ge : AgentScaler.normalized config call ≤ d.targetConcurrency
  le : d.targetConcurrency ≤ max call.currentConcurrency config.maxConcurrency
  by_step : d.targetConcurrency ≤ AgentScaler.normalized config call + config.scaleUpStep
  iff_scaleUp : AgentScaler.normalized config call < d.targetConcurrency ↔ d.scaleUp = true

namespace AgentScaler

variable {F config}

theorem valid_of_init {s : AgentScaler} (h : init F config = .ok s) :
    config.Valid F ∧ s = {} := by
  simp only [init, bind_eq_ok, check_eq_ok (u := ()), exists_const, pure, Except.pure,
    Except.ok.injEq] at h
  obtain ⟨h₁, h₂, h₃, h₄, h₅, h₆, h₇, h₈, hs⟩ := h
  exact ⟨⟨h₁, h₂, h₃, h₄, h₅, h₆, h₇, h₈⟩, hs.symm⟩

/-- What an evaluation has answered and done, from a state `s` to a state `s'`. -/
structure Evaluated (config : AgentScalerConfig ρ) (s : AgentScaler) (call : EvaluateCall)
    (d : AgentScalerDecision) (s' : AgentScaler) : Prop where
  bounded : d.Bounded config call
  of_scaleUp : d.scaleUp = true →
    s.cooldownRemaining ≤ 0 ∧ effectiveThreshold config call s ≤ call.pendingJobs ∧
      s' = ⟨config.scaleUpCooldownEvaluations, d.targetConcurrency⟩
  of_not_scaleUp : d.scaleUp = false →
    s.cooldownRemaining - 1 ≤ s'.cooldownRemaining ∧ s'.lastScaleUpTarget = s.lastScaleUpTarget

/-- Every evaluation either raises and changes nothing, or is as `Evaluated` says. -/
theorem evaluate_spec (hvalid : config.Valid F) (s : AgentScaler) (call : EvaluateCall) :
    evaluate F config s call = (none, s) ∨
      ∃ d s', evaluate F config s call = (some d, s') ∧ Evaluated config s call d s' := by
  have hmin := hvalid.min_le_max
  have hstep := hvalid.one_le_step
  have hnormalized : normalized config call ≤ max call.currentConcurrency config.maxConcurrency := by
    rw [normalized]
    omega
  rw [evaluate]
  split
  · refine .inr ⟨_, _, rfl, ⟨le_rfl, hnormalized, by simp only; omega, ?_⟩, nofun, fun _ ↦ ?_⟩
    · exact iff_of_false (lt_irrefl _) nofun
    · exact ⟨by omega, rfl⟩
  · split
    · exact .inl rfl
    · by_cases hup : (effectiveThreshold config call s ≤ call.pendingJobs ∧
          normalized config call < config.maxConcurrency) ∧ ¬0 < s.cooldownRemaining
      · have habove : normalized config call <
            min config.maxConcurrency (normalized config call + config.scaleUpStep) := by omega
        refine .inr ⟨_, _, rfl, ?_⟩
        simp only [hup.1, hup.2, habove, and_self, decide_true, decide_false, Bool.not_false,
          Bool.and_self, if_true]
        exact ⟨⟨habove.le, by simp only; omega, by simp only; omega, iff_of_true habove rfl⟩,
          fun _ ↦ ⟨not_lt.mp hup.2, hup.1.1, rfl⟩, nofun⟩
      · have hstays : (decide (effectiveThreshold config call s ≤ call.pendingJobs ∧
            normalized config call < config.maxConcurrency) &&
              !decide (0 < s.cooldownRemaining)) = false := by
          simpa only [Bool.and_eq_false_iff, decide_eq_false_iff_not, Bool.not_eq_false',
            decide_eq_true_eq, not_and_or, not_not] using hup
        refine .inr ⟨_, _, rfl, ?_⟩
        simp only [hstays, Bool.false_and, Bool.false_eq_true, if_false]
        refine ⟨⟨le_rfl, hnormalized, by simp only; omega, iff_of_false (lt_irrefl _) nofun⟩, nofun,
          fun _ ↦ ⟨?_, rfl⟩⟩
        simp only
        split <;> omega

end AgentScaler

/-! ## Whole runs -/

/-- A call of `evaluate` with what it answered; one that raised answered nothing. -/
abbrev Evaluation := EvaluateCall × Option AgentScalerDecision

/-- The evaluation reports `scale_up`. -/
def Evaluation.scaleUp (e : Evaluation) : Bool := e.2.any AgentScalerDecision.scaleUp

/-- The target of the last scale-up that was reported. -/
def lastTarget (log : List Evaluation) : Option Int :=
  log.foldl (fun last e ↦ (e.2.bind fun d ↦ if d.scaleUp then some d.targetConcurrency else none).or
    last) none

/-- What holds of a scaler all along its evaluations. -/
structure Disciplined (log : List Evaluation) : Prop where
  /-- After a scale-up the scaler rests. -/
  rests : ∀ before e after, log = before ++ e :: after → Evaluation.scaleUp e = true →
    ∀ f ∈ after.take config.scaleUpCooldownEvaluations.toNat, Evaluation.scaleUp f = false
  /-- Targets keep to their bounds. -/
  bounded : ∀ e ∈ log, ∀ d, e.2 = some d → d.Bounded config e.1
  /-- A pool that is not above the last target needs more of a backlog. -/
  hysteresis : ∀ before e after, log = before ++ e :: after →
    ∀ last, lastTarget before = some last →
      config.minConcurrency < AgentScaler.normalized config e.1 →
      AgentScaler.normalized config e.1 ≤ last → Evaluation.scaleUp e = true →
        config.scaleUpBacklogThreshold + config.scaleUpHysteresisBacklogDelta ≤ e.1.pendingJobs

variable {F config}

theorem lastTarget_concat (log : List Evaluation) (call : EvaluateCall)
    (answer : Option AgentScalerDecision) :
    lastTarget (log ++ [(call, answer)]) =
      (answer.bind fun d ↦ if d.scaleUp then some d.targetConcurrency else none).or
        (lastTarget log) := by
  rw [lastTarget, List.foldl_append]
  rfl

/-- The scaler remembers the last target. -/
theorem lastScaleUpTarget_exec (hvalid : config.Valid F) (calls : List EvaluateCall) :
    (lastTarget (trace (AgentScaler.evaluate F config) {} calls)).getD 0 =
      (exec (AgentScaler.evaluate F config) {} calls).lastScaleUpTarget := by
  have hany : Along (AgentScaler.evaluate F config) (fun _ _ ↦ True) {} calls :=
    along_of_forall (fun _ _ ↦ trivial) _ _
  refine trace_invariant (h := [])
    (P := fun log (s : AgentScaler) ↦ (lastTarget log).getD 0 = s.lastScaleUpTarget)
    (fun log s call _ hlast ↦ ?_) hany rfl
  rw [lastTarget_concat]
  rcases AgentScaler.evaluate_spec hvalid s call with h | ⟨d, s', h, hd⟩
  · rw [h]
    exact hlast
  · rw [h]
    cases hup : d.scaleUp with
    | true => simp [hup, (hd.of_scaleUp hup).2.2]
    | false => simp [hup, (hd.of_not_scaleUp hup).2, hlast]

/-- While a scaler rests it does not scale up. -/
theorem rests_of_cooldown (hvalid : config.Valid F) (s : AgentScaler) (calls : List EvaluateCall) :
    ∀ f ∈ (trace (AgentScaler.evaluate F config) s calls).take s.cooldownRemaining.toNat,
      Evaluation.scaleUp f = false := by
  induction calls generalizing s with
  | nil => simp [trace]
  | cons call calls ih =>
    cases hrest : s.cooldownRemaining.toNat with
    | zero => simp
    | succ n =>
      rw [trace, List.take_succ_cons, List.forall_mem_cons]
      rcases AgentScaler.evaluate_spec hvalid s call with h | ⟨d, s', h, hd⟩
      · rw [h]
        refine ⟨rfl, fun f hf ↦ ih s f (List.take_subset_take_left _ ?_ hf)⟩
        omega
      · rw [h]
        have hdown : d.scaleUp = false := by
          by_contra hup
          have hrested := (hd.of_scaleUp (by simpa using hup)).1
          omega
        have hcooldown := (hd.of_not_scaleUp hdown).1
        refine ⟨hdown, fun f hf ↦ ih s' f (List.take_subset_take_left _ ?_ hf)⟩
        omega

/-- **The discipline of the scaler.**  Whatever a scaler is asked, it rests after a scale-up as long
as it is told to, its targets keep to their bounds, and a pool that is not above the last target
needs more of a backlog. -/
theorem scaler_disciplined (F : Floats ρ) (config : AgentScalerConfig ρ) (scaler : AgentScaler)
    (hinit : AgentScaler.init F config = .ok scaler) (calls : List EvaluateCall) :
    Disciplined config (trace (AgentScaler.evaluate F config) scaler calls) := by
  obtain ⟨hvalid, rfl⟩ := AgentScaler.valid_of_init hinit
  refine ⟨fun before e after hlog hup ↦ ?_, ?_, fun before e after hlog last hlast hmin hle hup ↦ ?_⟩
  · obtain ⟨js, call, ks, -, -, rfl, rfl⟩ := trace_eq_append_cons hlog
    rcases AgentScaler.evaluate_spec hvalid
      (exec (AgentScaler.evaluate F config) {} js) call with h | ⟨d, s', h, hd⟩
    · rw [h] at hup
      cases hup
    · rw [h] at hup ⊢
      have hrest := rests_of_cooldown hvalid s' ks
      rwa [(hd.of_scaleUp hup).2.2] at hrest ⊢
  · have hany : Along (AgentScaler.evaluate F config) (fun _ _ ↦ True) {} calls :=
      along_of_forall (fun _ _ ↦ trivial) _ _
    refine forall_mem_trace (P := fun _ ↦ True)
      (Q := fun e : Evaluation ↦ ∀ d, e.2 = some d → d.Bounded config e.1)
      (fun s call _ _ ↦ ⟨trivial, ?_⟩) hany trivial
    rcases AgentScaler.evaluate_spec hvalid s call with h | ⟨d, s', h, hd⟩
    · rw [h]
      exact nofun
    · rw [h]
      rintro _ ⟨⟩
      exact hd.bounded
  · obtain ⟨js, call, ks, -, rfl, rfl, -⟩ := trace_eq_append_cons hlog
    have hremembered := lastScaleUpTarget_exec hvalid js
    rw [hlast, Option.getD_some] at hremembered
    rcases AgentScaler.evaluate_spec hvalid
      (exec (AgentScaler.evaluate F config) {} js) call with h | ⟨d, s', h, hd⟩
    · rw [h] at hup
      cases hup
    · rw [h] at hup
      have hbacklog := (hd.of_scaleUp hup).2.1
      have hdelta := hvalid.delta_nonneg
      rw [AgentScaler.effectiveThreshold, ← hremembered] at hbacklog
      split at hbacklog
      · exact hbacklog
      · simp only at hmin hle ⊢
        omega

/-- Ratios that are whole numbers. -/
def wholeRatios : Floats Int := ⟨fun ratio ↦ decide (ratio ≤ 0), fun n ratio ↦ some (n * ratio)⟩

/-- A scaler that rests for two evaluations. -/
def restingConfig : AgentScalerConfig Int where
  enabled := true
  maxConcurrency := 4
  scaleUpBacklogThreshold := 1
  scaleUpCooldownEvaluations := 2
  backpressureBacklogThreshold := 50
  backpressureActiveRatioThreshold := 1

/-- It scales up, rests twice, and scales up again. -/
theorem scaler_disciplined_resting :
    Disciplined restingConfig (trace (AgentScaler.evaluate wholeRatios restingConfig) {}
        [⟨1, 2, 1⟩, ⟨1, 2, 2⟩, ⟨1, 2, 2⟩, ⟨1, 2, 2⟩]) ∧
      (trace (AgentScaler.evaluate wholeRatios restingConfig) {}
        [⟨1, 2, 1⟩, ⟨1, 2, 2⟩, ⟨1, 2, 2⟩, ⟨1, 2, 2⟩]).map Evaluation.scaleUp =
          [true, false, false, true] :=
  ⟨scaler_disciplined wholeRatios restingConfig {} rfl _, by decide⟩

end Core
end ExoBrain
