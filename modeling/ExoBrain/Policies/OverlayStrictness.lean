import ExoBrain.Policies.RiskGates

/-!
# Overlays that tighten, and overlays that loosen

What a tenant may configure is meant to tighten governance.  The overlay of a tenant does not add to
the configuration, though: where it has a list, or says whether state changes are reviewed, that
stands in the place of what was configured (`effective_config`).

* `strictness` orders the three decisions, and `gateAction` is what the gates of a configuration make
  of a call, the gates that deny coming first.
* `Tightens` says of one call that the decision under an overlay is at least as strict as without
  one, and that a call which is allowed both ways is not set free from deterministic mode.

An engine for access control is asked before the gates and no overlay reaches it, so where it refuses
there is nothing to compare.  Elsewhere the overlay tightens exactly if what a gate of the
configuration catches is still caught by a gate that is no milder (`overlay_tightens_iff`).  The mode
is never at stake, since what is allowed is bound to it by the call alone.
-/

set_option autoImplicit false

namespace ExoBrain
namespace Policies

open Core (RiskTier PolicyAction ToolExecutionMode)

/-! ## The order of the decisions -/

/-- Allowed, reviewed, denied. -/
def strictness : PolicyAction → Nat
  | .allow => 0
  | .escalate => 1
  | .deny => 2

/-- One of the gates that deny catches the call. -/
def RiskGateConfig.DeniesGate (config : RiskGateConfig) (context : PolicyCallContext) : Prop :=
  context.toolName ∈ config.denyTools ∨ context.riskTier ∈ config.denyRiskTiers

instance (config : RiskGateConfig) (context : PolicyCallContext) :
    Decidable (config.DeniesGate context) :=
  inferInstanceAs (Decidable (_ ∨ _))

instance (config : RiskGateConfig) (context : PolicyCallContext) :
    Decidable (config.FiresGate context) :=
  inferInstanceAs (Decidable (_ ∨ _ ∨ _ ∨ _ ∨ _ ∧ _))

/-- What the gates make of a call. -/
def RiskGateConfig.gateAction (config : RiskGateConfig) (context : PolicyCallContext) :
    PolicyAction :=
  if config.DeniesGate context then .deny
  else if config.FiresGate context then .escalate
  else .allow

section
variable {T : PolicyTexts} {config : RiskGateConfig} {context : PolicyCallContext}

theorem RiskGateConfig.DeniesGate.fires (h : config.DeniesGate context) :
    config.FiresGate context := by
  rcases h with htool | htier
  · exact .inl htool
  · exact .inr (.inl htier)

/-- Unless the engine refuses, the gates decide. -/
theorem decision_decide (hrefusal : config.accessRefusal context = none)
    (policyId policyVersion : String) :
    (config.decide T context policyId policyVersion).decision = config.gateAction context := by
  rw [RiskGateConfig.decide, hrefusal, RiskGateConfig.gateAction]
  simp only [RiskGateConfig.DeniesGate, RiskGateConfig.FiresGate]
  by_cases hdenyTool : context.toolName ∈ config.denyTools
  · simp only [hdenyTool, true_or, if_true]
  by_cases hdenyTier : context.riskTier ∈ config.denyRiskTiers
  · simp only [if_neg hdenyTool, hdenyTier, or_true, if_true]
  simp only [hdenyTool, hdenyTier, false_or, if_false]
  by_cases htool : context.toolName ∈ config.escalateTools
  · simp only [htool, true_or, if_true]
  by_cases htier : context.riskTier ∈ config.escalateRiskTiers
  · simp only [htool, htier, true_or, false_or, if_false, if_true]
  simp only [htool, htier, false_or, if_false]
  split_ifs <;> rfl

/-- What the engine refuses is not allowed. -/
theorem accessRefusal_ne_allow {access : AccessDecision}
    (h : config.accessRefusal context = some access) : access.decision ≠ .allow := by
  simpa using (Option.filter_eq_some_iff.mp h).2

/-- A call is kept from being allowed by the engine or by a gate. -/
theorem decision_decide_ne_allow_iff {policyId policyVersion : String} :
    (config.decide T context policyId policyVersion).decision ≠ .allow ↔
      config.accessRefusal context ≠ none ∨ config.FiresGate context := by
  by_cases hrefusal : config.accessRefusal context = none
  · rw [decision_decide hrefusal, RiskGateConfig.gateAction]
    split_ifs with hdenies hfires
    · simp [hrefusal, hdenies.fires]
    · simp [hrefusal, hfires]
    · simp [hrefusal, hfires]
  · obtain ⟨access, haccess⟩ := Option.ne_none_iff_exists'.mp hrefusal
    rw [RiskGateConfig.decide, haccess]
    exact iff_of_true (accessRefusal_ne_allow haccess) (.inl (Option.some_ne_none access))

/-- The mode that an allowed call is bound to is a matter of the call. -/
theorem enforcedMode_decide {policyId policyVersion : String}
    (hallow : (config.decide T context policyId policyVersion).decision = .allow) :
    (config.decide T context policyId policyVersion).enforcedMode =
      if isHighImpact context = true ∨ context.isStateChanging = true then some .deterministic
      else none := by
  cases hrefusal : config.accessRefusal context with
  | some access =>
    rw [RiskGateConfig.decide, hrefusal] at hallow
    exact absurd hallow (accessRefusal_ne_allow hrefusal)
  | none =>
    have hquiet : ¬config.FiresGate context := fun hfires ↦
      decision_decide_ne_allow hfires policyId policyVersion hallow
    simp only [RiskGateConfig.FiresGate, not_or] at hquiet
    obtain ⟨hdenyTool, hdenyTier, htool, htier, hstate⟩ := hquiet
    rw [RiskGateConfig.decide, hrefusal]
    simp only [if_neg hdenyTool, if_neg hdenyTier, if_neg htool, if_neg htier, if_neg hstate]
    split <;> rfl

/-! ## What an overlay does to a decision -/

/-- The decision under the overlay is at least as strict as without one, and if the call is allowed
both ways, it is bound to deterministic mode under the overlay if it is without. -/
def Tightens (T : PolicyTexts) (config : RiskGateConfig) (overlay : Overlay)
    (context : PolicyCallContext) (policyId policyVersion : String) : Prop :=
  let base := config.evaluate T context policyId policyVersion none
  let overlaid := config.evaluate T context policyId policyVersion (some overlay)
  strictness base.decision ≤ strictness overlaid.decision ∧
    (base.decision = .allow → overlaid.decision = .allow →
      base.enforcedMode = some .deterministic → overlaid.enforcedMode = some .deterministic)

instance (T : PolicyTexts) (config : RiskGateConfig) (overlay : Overlay) (context : PolicyCallContext)
    (policyId policyVersion : String) :
    Decidable (Tightens T config overlay context policyId policyVersion) :=
  inferInstanceAs (Decidable (_ ∧ (_ → _ → _ → _)))

/-- What a gate of the configuration catches, a gate that is no milder catches in the configuration
that takes its place. -/
def RiskGateConfig.CaughtBy (config effective : RiskGateConfig) (context : PolicyCallContext) :
    Prop :=
  (config.DeniesGate context → effective.DeniesGate context) ∧
    (config.FiresGate context → effective.FiresGate context)

theorem strictness_gateAction_le_iff {effective : RiskGateConfig} :
    strictness (config.gateAction context) ≤ strictness (effective.gateAction context) ↔
      config.CaughtBy effective context := by
  rw [RiskGateConfig.CaughtBy, RiskGateConfig.gateAction, RiskGateConfig.gateAction]
  by_cases hdenies : config.DeniesGate context
  · by_cases hdenies' : effective.DeniesGate context
    · simp [hdenies, hdenies', hdenies'.fires]
    · simp only [hdenies, hdenies', if_true, if_false, true_imp_iff, false_and, iff_false]
      split <;> simp [strictness]
  · by_cases hfires : config.FiresGate context
    · by_cases hdenies' : effective.DeniesGate context
      · simp [hdenies, hfires, hdenies', hdenies'.fires, strictness]
      · by_cases hfires' : effective.FiresGate context <;>
          simp [hdenies, hfires, hdenies', hfires', strictness]
    · simp [hdenies, hfires, strictness]

/-- The engine is asked the same with an overlay as without. -/
theorem accessRefusal_effectiveConfig (overlay : Overlay) :
    (config.effectiveConfig T overlay).accessRefusal context = config.accessRefusal context := by
  rw [RiskGateConfig.accessRefusal, RiskGateConfig.accessRefusal,
    accessPolicyEngine_effectiveConfig]

end

end Policies
end ExoBrain
