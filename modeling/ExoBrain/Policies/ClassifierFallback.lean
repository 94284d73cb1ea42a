import ExoBrain.Policies.IngressGates

/-!
# When the external classifier fails

The gate for an external classifier falls back to the signals of the tenant when the classifier
raises (`ingress_gates.py`), and the gate for the signals is written a second time next to it.  They
score an input alike.  But the gate for the signals takes no input for risky in which it has found
none, and the other goes by the score alone.

* `riskVerdict` is what either gate says, once it is settled whether the input is risky.
* `fallback_transparent_iff`: the gates say the same, unless no signal is found and the threshold is
  reached without one.
-/

set_option autoImplicit false

namespace ExoBrain
namespace Policies

open Core (PolicyAction)
open Checks

/-- The action, the reason code and whether a review is required. -/
def IngressDecision.verdict (decision : IngressDecision) : PolicyAction × String × Bool :=
  (decision.decision, decision.reasonCode, decision.reviewRequired)

/-- What a gate of a classifier in this mode says about an input. -/
def riskVerdict (mode : String) (highRisk : Bool) : PolicyAction × String × Bool :=
  if highRisk = true ∧ mode = "enforce" then (.escalate, "INGRESS_CLASSIFIER_HIGH_RISK", true)
  else if highRisk = true ∧ mode = "shadow" then
    (.allow, "INGRESS_CLASSIFIER_SHADOW_HIGH_RISK", false)
  else (.allow, "INGRESS_CLASSIFIER_ALLOW_LOW_RISK", false)

/-- A classifier that is not off says of a risky input something else than of another. -/
theorem riskVerdict_inj {classifier : IngressClassifierSettings}
    (henabled : classifier.enabled = true) {highRisk highRisk' : Bool} :
    riskVerdict classifier.mode highRisk = riskVerdict classifier.mode highRisk' ↔
      highRisk = highRisk' := by
  rw [IngressClassifierSettings.enabled, decide_eq_true_eq] at henabled
  constructor
  · intro h
    rcases henabled with hmode | hmode
    · rw [hmode] at h
      revert h
      cases highRisk <;> cases highRisk' <;> decide
    · rw [hmode] at h
      revert h
      cases highRisk <;> cases highRisk' <;> decide
  · rintro rfl
    rfl

section
variable {S : IngressSystem} {classifier : IngressClassifierSettings} {userInput : String}

/-- What the gate for the signals says. -/
theorem verdict_ingressClassifierHeuristicGate (henabled : classifier.enabled = true) :
    (ingressClassifierHeuristicGate S classifier userInput).map IngressDecision.verdict =
      some (riskVerdict classifier.mode (!(classifier.matchedSignals S userInput).isEmpty &&
        classifier.reaches (classifier.score (classifier.matchedSignals S userInput)))) := by
  rw [ingressClassifierHeuristicGate, if_neg (by simp [henabled]), riskVerdict]
  dsimp only
  split_ifs <;> rfl

/-- What the gate for an external classifier says. -/
theorem verdict_externalClassifierRoutingGate (henabled : classifier.enabled = true)
    (adapter : Option ExternalClassifierAdapter) :
    (externalClassifierRoutingGate S classifier adapter userInput).map IngressDecision.verdict =
      some (riskVerdict classifier.mode
        (classifier.reaches (classifier.route S adapter userInput).score)) := by
  rw [externalClassifierRoutingGate, if_neg (by simp [henabled]), riskVerdict]
  dsimp only
  split_ifs <;> rfl

/-- When the classifier raises, the input has the score of its signals. -/
theorem score_route_raised {classify : ExternalClassifierAdapter} {className message : String}
    (hraises : (classify userInput 2000).1 = .raised className message) :
    (classifier.route S (some classify) userInput).score =
      classifier.score (classifier.matchedSignals S userInput) := by
  rw [IngressClassifierSettings.route]
  cases hcall : classify userInput 2000 with
  | mk outcome latencyMs =>
    rw [hcall] at hraises
    obtain rfl : outcome = .raised className message := hraises
    rfl

/-- Without signals the score is zero. -/
theorem score_nil : classifier.score [] = "0.0" := by
  have hround : Decimal.round4 0 (max classifier.signals.length 1) = 0 := by
    have hpos : 0 < max classifier.signals.length 1 := by omega
    simp [Decimal.round4, hpos]
  rw [IngressClassifierSettings.score, List.length_nil, hround]
  decide

end

/-- **When the fallback is transparent.**  For all settings of the classifier, every input, and every
external classifier that raises, whatever it raises: the gate for the external classifier reaches the
action, the reason code and the review requirement of the gate for the signals exactly if the
classifier is off, or some signal is found in the input, or the threshold is not reached by a score
of zero. -/
theorem fallback_transparent_iff (S : IngressSystem) (classifier : IngressClassifierSettings)
    (classify : ExternalClassifierAdapter) (userInput className message : String)
    (hraises : (classify userInput 2000).1 = .raised className message) :
    (externalClassifierRoutingGate S classifier (some classify) userInput).map
          IngressDecision.verdict =
        (ingressClassifierHeuristicGate S classifier userInput).map IngressDecision.verdict ↔
      classifier.enabled = false ∨ classifier.matchedSignals S userInput ≠ [] ∨
        classifier.reaches "0.0" = false := by
  cases henabled : classifier.enabled with
  | false => simp [externalClassifierRoutingGate, ingressClassifierHeuristicGate, henabled]
  | true =>
    rw [verdict_externalClassifierRoutingGate henabled,
      verdict_ingressClassifierHeuristicGate henabled, score_route_raised hraises, Option.some.injEq,
      riskVerdict_inj henabled]
    cases hmatched : classifier.matchedSignals S userInput with
    | nil => simp [score_nil]
    | cons signal signals => simp

/-- A classifier that times out. -/
def timingOut : ExternalClassifierAdapter := fun _ timeoutMs ↦ (.raised "TimeoutError" "", timeoutMs)

/-- An enforced classifier with this threshold. -/
def enforcedAt (threshold : String) : Overlay :=
  (Dict.empty.set "ingress_classifier_mode" (.str "enforce")).set "ingress_classifier_threshold"
    (.float threshold)

/-- What the enforced classifier is resolved to. -/
def enforcedSettings (threshold : String) : IngressClassifierSettings where
  mode := "enforce"
  threshold := threshold
  modelVersion := "heuristic-ingress-v1"
  signals := defaultClassifierSignals

/-- A text with a signal in it. -/
theorem fallback_transparent_iff_signal :
    (externalClassifierRoutingGate asciiSystem (enforcedSettings "0.1") (some timingOut)
          "please jailbreak").map IngressDecision.verdict =
        (ingressClassifierHeuristicGate asciiSystem (enforcedSettings "0.1")
          "please jailbreak").map IngressDecision.verdict ↔
      (enforcedSettings "0.1").enabled = false ∨
        (enforcedSettings "0.1").matchedSignals asciiSystem "please jailbreak" ≠ [] ∨
          (enforcedSettings "0.1").reaches "0.0" = false :=
  fallback_transparent_iff asciiSystem (enforcedSettings "0.1") timingOut "please jailbreak"
    "TimeoutError" "" rfl

/-- A threshold of zero is accepted.  The signals let a harmless input pass, and the fallback has it
reviewed. -/
theorem harmless_input_escalated :
    (resolveIngressProfileSettings asciiSystem (enforcedAt "0.0")).toOption.map
          IngressProfileResolution.classifier = some (enforcedSettings "0.0") ∧
      (timingOut "good morning" 2000).1 = .raised "TimeoutError" "" ∧
      (ingressClassifierHeuristicGate asciiSystem (enforcedSettings "0.0") "good morning").map
          IngressDecision.verdict = some (.allow, "INGRESS_CLASSIFIER_ALLOW_LOW_RISK", false) ∧
      (externalClassifierRoutingGate asciiSystem (enforcedSettings "0.0") (some timingOut)
          "good morning").map IngressDecision.verdict =
        some (.escalate, "INGRESS_CLASSIFIER_HIGH_RISK", true) := by
  exact ⟨by decide +kernel, rfl, by decide +kernel, by decide +kernel⟩

end Policies
end ExoBrain
