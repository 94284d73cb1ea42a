import ExoBrain.Lib.Dict
import ExoBrain.Lib.Value
import ExoBrain.Core.Orchestrator
import Mathlib.Data.Finset.Basic

/-!
# Risk gates

`RiskGatePolicy.evaluate` (`risk_gates.py`) decides about a tool call: it asks the engine for access
control if there is one, and then passes the call through five gates, which deny it or have it
reviewed.  What the gates let through is allowed.  The gates are configured, and a tenant may have an
overlay that configures them anew, a dictionary of any values; what is not a list there is ignored.

* `effectiveConfig` is the configuration under an overlay, and `evaluate` the decision.
* `TenantPolicyOverlayStore` holds the overlays (`policy_overlay.py`), and
  `DeterministicFirstPolicyMiddleware` decides under the overlay of the tenant of the call, if it was
  given a store (`middleware.py`).  What it was given is a reference, of a type that is a parameter.
* `FiresGate` says that one of the gates catches the call.  What is not caught is decided as if
  nothing was configured (`decide_of_quiet`), and what is caught is not allowed
  (`decision_decide_ne_allow`).  `OverlayFires` is the same for an overlay over no configuration.

The values of `RiskTier` stand in a package of contracts, and are a parameter.
-/

set_option autoImplicit false

namespace ExoBrain
namespace Policies

open Core (RiskTier PolicyAction ToolExecutionMode)

/-! ## Contracts -/

/-- `ToolCallContext`, as far as the policy reads it. -/
structure PolicyCallContext extends Core.ToolCallContext where
  tenantId : String := ""
  identitySubject : String := ""
  identityRoles : List String := []
  identityTenantId : String := ""
  pluginScope : String := ""
deriving DecidableEq, Repr

/-- `PolicyAudit`. -/
structure PolicyAudit where
  policyId : String
  policyVersion : String
  correlationId : String
deriving DecidableEq, Repr

/-- `PolicyDecision`. -/
structure PolicyDecision extends Core.PolicyDecision where
  schemaVersion : String := "1.0"
  reasonCode : String
  message : String
  reviewRequired : Bool := false
  reviewChannel : Option String := none
  audit : PolicyAudit
deriving DecidableEq, Repr

/-- `AccessRequest`. -/
structure AccessRequest where
  subject : String
  roles : List String
  toolName : String
  isStateChanging : Bool
  isHighImpact : Bool
  requestTenantId : String
  identityTenantId : String
  pluginScope : String
deriving DecidableEq, Repr

/-- `AccessDecision`, as far as the policy reads it. -/
structure AccessDecision where
  decision : PolicyAction
  reasonCode : String
  message : String
  reviewRequired : Bool := false
  reviewChannel : Option String := none
deriving DecidableEq, Repr

/-- What the texts of values are made of. -/
structure PolicyTexts where
  /-- `str.isprintable` of one character. -/
  isPrintable : Char → Bool
  /-- `RiskTier.value`. -/
  riskTierValue : RiskTier → String

/-- `RiskTier(text)`, where `none` is the `ValueError`. -/
def PolicyTexts.riskTier? (T : PolicyTexts) (text : String) : Option RiskTier :=
  [RiskTier.low, .medium, .high, .critical].find? fun tier ↦ T.riskTierValue tier = text

/-! ## The configuration -/

/-- `RiskGateConfig`.  The engine for access control is what it answers. -/
structure RiskGateConfig where
  denyRiskTiers : Finset RiskTier := ∅
  escalateRiskTiers : Finset RiskTier := ∅
  denyTools : Finset String := ∅
  escalateTools : Finset String := ∅
  escalateStateChanging : Bool := false
  reviewChannel : String := "security-review"
  accessPolicyEngine : Option (AccessRequest → AccessDecision) := none

/-- The overlay of a tenant. -/
abbrev Overlay := Dict String Value

/-- `_overlay_str_set`. -/
def overlayStrSet (T : PolicyTexts) (key : String) (fallback : Finset String) (overlay : Overlay) :
    Finset String :=
  match (overlay.get? key).bind Value.list? with
  | none => fallback
  | some raw =>
    ((raw.map fun item ↦ Text.strip (item.toStr T.isPrintable)).filter fun s ↦ s ≠ "").toFinset

/-- `_overlay_risk_tiers`. -/
def overlayRiskTiers (T : PolicyTexts) (key : String) (fallback : Finset RiskTier)
    (overlay : Overlay) : Finset RiskTier :=
  match (overlay.get? key).bind Value.list? with
  | none => fallback
  | some raw => (raw.filterMap fun item ↦ T.riskTier? (item.toStr T.isPrintable)).toFinset

/-- `bool(overlay.get(key, fallback))`. -/
def overlayBool (key : String) (fallback : Bool) (overlay : Overlay) : Bool :=
  match overlay.get? key with
  | none => fallback
  | some v => v.truth

/-- `str(overlay.get("review_channel", fallback)).strip() or fallback`. -/
def overlayReviewChannel (T : PolicyTexts) (fallback : String) (overlay : Overlay) : String :=
  let channel := Text.strip (((overlay.get? "review_channel").getD (.str fallback)).toStr
    T.isPrintable)
  if channel = "" then fallback else channel

/-- `_effective_config`. -/
def RiskGateConfig.effectiveConfig (T : PolicyTexts) (config : RiskGateConfig) (overlay : Overlay) :
    RiskGateConfig :=
  if overlay.entries = [] then config
  else
    { denyRiskTiers := overlayRiskTiers T "deny_risk_tiers" config.denyRiskTiers overlay
      escalateRiskTiers := overlayRiskTiers T "escalate_risk_tiers" config.escalateRiskTiers overlay
      denyTools := overlayStrSet T "deny_tools" config.denyTools overlay
      escalateTools := overlayStrSet T "escalate_tools" config.escalateTools overlay
      escalateStateChanging :=
        overlayBool "escalate_state_changing" config.escalateStateChanging overlay
      reviewChannel := overlayReviewChannel T config.reviewChannel overlay
      accessPolicyEngine := config.accessPolicyEngine }

/-! ## The decision -/

/-- `context.risk_tier in {RiskTier.HIGH, RiskTier.CRITICAL}`. -/
def isHighImpact (context : PolicyCallContext) : Bool :=
  context.riskTier = .high ∨ context.riskTier = .critical

/-- The request to the engine for access control. -/
def accessRequest (context : PolicyCallContext) : AccessRequest where
  subject := context.identitySubject
  roles := context.identityRoles
  toolName := context.toolName
  isStateChanging := context.isStateChanging
  isHighImpact := isHighImpact context
  requestTenantId := context.tenantId
  identityTenantId := context.identityTenantId
  pluginScope := context.pluginScope

/-- What the engine answers, unless there is none or it allows the call. -/
def RiskGateConfig.accessRefusal (config : RiskGateConfig) (context : PolicyCallContext) :
    Option AccessDecision :=
  (config.accessPolicyEngine.map fun engine ↦ engine (accessRequest context)).filter fun access ↦
    access.decision ≠ .allow

/-- `evaluate`, under the configuration that is in effect. -/
def RiskGateConfig.decide (T : PolicyTexts) (config : RiskGateConfig) (context : PolicyCallContext)
    (policyId policyVersion : String) : PolicyDecision :=
  let audit : PolicyAudit := ⟨policyId, policyVersion, context.callId⟩
  match config.accessRefusal context with
  | some access =>
    { decision := access.decision
      reasonCode := access.reasonCode
      message := access.message
      reviewRequired := access.reviewRequired
      reviewChannel := access.reviewChannel
      enforcedMode := some .deterministic
      audit := audit }
  | none =>
    if context.toolName ∈ config.denyTools then
      { decision := .deny
        reasonCode := "TOOL_DENIED"
        message := "Tool is blocked by policy configuration."
        audit := audit }
    else if context.riskTier ∈ config.denyRiskTiers then
      { decision := .deny
        reasonCode := "RISK_TIER_DENIED"
        message := "Risk tier '" ++ T.riskTierValue context.riskTier ++
          "' is blocked by policy configuration."
        audit := audit }
    else if context.toolName ∈ config.escalateTools then
      { decision := .escalate
        reasonCode := "TOOL_REQUIRES_REVIEW"
        message := "Tool requires manual review before execution."
        reviewRequired := true
        reviewChannel := some config.reviewChannel
        enforcedMode := some .deterministic
        audit := audit }
    else if context.riskTier ∈ config.escalateRiskTiers then
      { decision := .escalate
        reasonCode := "RISK_TIER_REQUIRES_REVIEW"
        message := "Risk tier '" ++ T.riskTierValue context.riskTier ++ "' requires manual review."
        reviewRequired := true
        reviewChannel := some config.reviewChannel
        enforcedMode := some .deterministic
        audit := audit }
    else if context.isStateChanging = true ∧ config.escalateStateChanging = true then
      { decision := .escalate
        reasonCode := "STATE_CHANGE_REQUIRES_REVIEW"
        message := "State-changing tool requires manual review."
        reviewRequired := true
        reviewChannel := some config.reviewChannel
        enforcedMode := some .deterministic
        audit := audit }
    else if isHighImpact context = true ∨ context.isStateChanging = true then
      { decision := .allow
        reasonCode := "RISK_WRITE_REQUIRES_DETERMINISTIC"
        message := "State-changing or high-impact tools require deterministic mode."
        enforcedMode := some .deterministic
        audit := audit }
    else
      { decision := .allow
        reasonCode := "LOW_RISK_ALLOWED"
        message := "Low-risk read-only tool allowed."
        audit := audit }

/-- `RiskGatePolicy.evaluate`. -/
def RiskGateConfig.evaluate (T : PolicyTexts) (config : RiskGateConfig) (context : PolicyCallContext)
    (policyId policyVersion : String) (tenantOverlay : Option Overlay) : PolicyDecision :=
  (config.effectiveConfig T (tenantOverlay.getD Dict.empty)).decide T context policyId policyVersion

/-! ## Overlays of the tenants -/

/-- `TenantPolicyOverlayStore`. -/
structure TenantPolicyOverlayStore where
  overlays : Dict String Overlay

namespace TenantPolicyOverlayStore

/-- A new store. -/
def empty : TenantPolicyOverlayStore := ⟨Dict.empty⟩

/-- `set_overlay`. -/
def setOverlay (tenantId : String) (overlay : Overlay) (s : TenantPolicyOverlayStore) :
    TenantPolicyOverlayStore :=
  ⟨s.overlays.set tenantId overlay⟩

/-- `get_overlay`. -/
def getOverlay (tenantId : String) (s : TenantPolicyOverlayStore) : Overlay :=
  (s.overlays.get? tenantId).getD Dict.empty

theorem getOverlay_setOverlay (tenantId : String) (overlay : Overlay) (s : TenantPolicyOverlayStore)
    (tenantId' : String) :
    (s.setOverlay tenantId overlay).getOverlay tenantId' =
      if tenantId' = tenantId then overlay else s.getOverlay tenantId' := by
  show ((s.overlays.set tenantId overlay).get? tenantId').getD Dict.empty = _
  rw [Dict.get?_set]
  split <;> rfl

end TenantPolicyOverlayStore

/-- `DeterministicFirstPolicyMiddleware`, with a reference to a store if it was given one. -/
structure DeterministicFirstPolicyMiddleware (ρ : Type) where
  policyId : String := "policy-risk-gate-v1"
  policyVersion : String := "1.0.0"
  riskGates : RiskGateConfig := {}
  tenantPolicyOverlays : Option ρ := none

/-- `before_tool_call`.  The store is read at the time of the call. -/
def DeterministicFirstPolicyMiddleware.beforeToolCall {ρ : Type} (T : PolicyTexts)
    (deref : ρ → TenantPolicyOverlayStore) (m : DeterministicFirstPolicyMiddleware ρ)
    (context : PolicyCallContext) : PolicyDecision :=
  let overlay := m.tenantPolicyOverlays.map fun ref ↦ (deref ref).getOverlay context.tenantId
  m.riskGates.evaluate T context m.policyId m.policyVersion overlay

/-! ## What the gates catch -/

/-- One of the five gates catches the call. -/
def RiskGateConfig.FiresGate (config : RiskGateConfig) (context : PolicyCallContext) : Prop :=
  context.toolName ∈ config.denyTools ∨ context.riskTier ∈ config.denyRiskTiers ∨
    context.toolName ∈ config.escalateTools ∨ context.riskTier ∈ config.escalateRiskTiers ∨
    context.isStateChanging = true ∧ config.escalateStateChanging = true

/-- The overlay alone makes one of the five gates catch the call: its `deny_tools` or its
`escalate_tools` list the tool, its `deny_risk_tiers` or its `escalate_risk_tiers` the risk tier, or
it has state changes reviewed and the call is one. -/
def OverlayFires (T : PolicyTexts) (overlay : Overlay) (context : PolicyCallContext) : Prop :=
  context.toolName ∈ overlayStrSet T "deny_tools" ∅ overlay ∨
    context.riskTier ∈ overlayRiskTiers T "deny_risk_tiers" ∅ overlay ∨
    context.toolName ∈ overlayStrSet T "escalate_tools" ∅ overlay ∨
    context.riskTier ∈ overlayRiskTiers T "escalate_risk_tiers" ∅ overlay ∨
    context.isStateChanging = true ∧ overlayBool "escalate_state_changing" false overlay = true

section
variable {T : PolicyTexts} {config : RiskGateConfig} {context : PolicyCallContext}

/-- What an overlay catches, it catches as the configuration in effect. -/
theorem overlayFires_iff {overlay : Overlay} :
    OverlayFires T overlay context ↔
      (RiskGateConfig.effectiveConfig T {} overlay).FiresGate context := by
  rw [RiskGateConfig.effectiveConfig]
  split
  · rename_i hempty
    obtain rfl : overlay = Dict.empty := Dict.ext hempty
    simp [OverlayFires, RiskGateConfig.FiresGate, overlayStrSet, overlayRiskTiers, overlayBool]
  · rfl

theorem accessPolicyEngine_effectiveConfig (overlay : Overlay) :
    (config.effectiveConfig T overlay).accessPolicyEngine = config.accessPolicyEngine := by
  rw [RiskGateConfig.effectiveConfig]
  split <;> rfl

/-- A call that no gate catches is decided as if nothing was configured. -/
theorem decide_of_quiet (hengine : config.accessPolicyEngine = none)
    (hquiet : ¬config.FiresGate context) (policyId policyVersion : String) :
    config.decide T context policyId policyVersion =
      RiskGateConfig.decide T {} context policyId policyVersion := by
  simp only [RiskGateConfig.FiresGate, not_or] at hquiet
  obtain ⟨hdenyTool, hdenyTier, htool, htier, hstate⟩ := hquiet
  have hrefusal : config.accessRefusal context = none := by
    rw [RiskGateConfig.accessRefusal, hengine]
    rfl
  rw [RiskGateConfig.decide, hrefusal]
  simp only [if_neg hdenyTool, if_neg hdenyTier, if_neg htool, if_neg htier, if_neg hstate]
  simp [RiskGateConfig.decide, RiskGateConfig.accessRefusal]

/-- A call that a gate catches is not allowed. -/
theorem decision_decide_ne_allow (hfires : config.FiresGate context)
    (policyId policyVersion : String) :
    (config.decide T context policyId policyVersion).decision ≠ .allow := by
  rw [RiskGateConfig.decide]
  split
  · rename_i access haccess
    simpa using (Option.filter_eq_some_iff.mp haccess).2
  · split_ifs with hdenyTool hdenyTier htool htier hstate himpact
    · exact PolicyAction.noConfusion
    · exact PolicyAction.noConfusion
    · exact PolicyAction.noConfusion
    · exact PolicyAction.noConfusion
    · exact PolicyAction.noConfusion
    -- Past the gates nothing has caught the call.
    all_goals
      rw [RiskGateConfig.FiresGate] at hfires
      tauto

/-- Without an engine and without gates, every call is allowed. -/
theorem decision_decide_default (policyId policyVersion : String) :
    (RiskGateConfig.decide T {} context policyId policyVersion).decision = .allow := by
  by_cases h : isHighImpact context = true ∨ context.isStateChanging = true <;>
    simp [RiskGateConfig.decide, RiskGateConfig.accessRefusal, h]

end

end Policies
end ExoBrain
