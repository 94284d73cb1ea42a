import ExoBrain.Policies.IngressProfiles
import ExoBrain.Policies.OverlayStrictness

/-!
# Packaged templates, and the risk tiers they name

A packaged template is an overlay under a name (`policy_templates.py`).  It is compiled into the
overlay of a tenant: over what the tenant had, without the settings of the ingress, come the template
and then what the request adds.

An overlay names risk tiers by texts, and `_overlay_risk_tiers` reads a text as the tier with that
very value, skipping what is the value of none.

* `namedTiers` are the texts under a key, and `NamesTier` reads them without regard to case.
* `mem_overlayRiskTiers_iff` says which tiers are read.
* A call whose tier is named is kept from being allowed exactly if its tier is spelled as the value
  of the tier, or something else catches the call (`named_tier_enforced_iff`).
* The templates spell the tiers in capital letters.  Where the values have none, no tier that a
  template has reviewed is read (`not_spelled_of_template`).
-/

set_option autoImplicit false

namespace ExoBrain
namespace Policies

open Checks
open Core (RiskTier PolicyAction)

/-! ## Templates -/

/-- `PolicyTemplateDefinition`. -/
structure PolicyTemplateDefinition where
  templateId : String
  packagedRiskProfileId : String
  title : String
  description : String
  minimumTier : String
  overlay : Overlay

/-- `_LOCKED_TEMPLATE_KEYS`. -/
def lockedTemplateKeys : List String :=
  ["ingress_profile", "ingress_max_input_chars", "ingress_prompt_injection_phrases",
    "ingress_custom_rules", "ingress_classifier_mode", "ingress_classifier_threshold",
    "ingress_classifier_model_version", "ingress_classifier_signals",
    "ingress_classifier_review_channel", "signed_gate_plugin_ref", "signed_gate_plugin_version",
    "signed_gate_plugin_signer", "signed_gate_plugin_signature_sha256",
    "signed_gate_plugin_sandbox_mode", "ingress_profile_compatibility_mode"]

/-- A list of texts. -/
def texts (l : List String) : Value := .list (l.map .str)

/-- The template for the integrity of protocols. -/
def protocolGuard : PolicyTemplateDefinition where
  templateId := "template://governance/protocol-guard-v1"
  packagedRiskProfileId := "risk://packaged/protocol-guard-v1"
  title := "Protocol Guard"
  description := "Strict protocol-integrity profile with classifier shadow telemetry and " ++
    "escalation on policy-bypass intent."
  minimumTier := "pro"
  overlay :=
    { entries :=
        [("deny_tools", .list []),
          ("escalate_risk_tiers", texts ["HIGH"]),
          ("escalate_state_changing", .bool true),
          ("ingress_profile", .str "strict"),
          ("ingress_custom_rules", .list
            [.dict
              [("rule_id", .str "template-protocol-bypass-escalate"),
                ("action", .str "escalate"),
                ("match_type", .str "regex_any"),
                ("patterns",
                  texts ["(?:ignore|bypass|override)\\s+(?:protocol|policy|guardrail)s?"]),
                ("reason_code", .str "INGRESS_TEMPLATE_PROTOCOL_BYPASS_ESCALATE"),
                ("message", .str
                  "Protocol-guard template escalated potential policy-bypass phrasing.")]]),
          ("ingress_classifier_mode", .str "shadow"),
          ("ingress_classifier_threshold", .float "0.35"),
          ("ingress_classifier_model_version", .str "template-protocol-guard-v1"),
          ("ingress_classifier_signals",
            texts ["ignore protocol", "bypass policy", "skip guardrails", "disable moderation"]),
          ("ingress_classifier_review_channel", .str "security-review")]
      nodup_keys := by simp }

/-- The template for the protection of data. -/
def dataPerimeter : PolicyTemplateDefinition where
  templateId := "template://governance/data-perimeter-v1"
  packagedRiskProfileId := "risk://packaged/data-perimeter-v1"
  title := "Data Perimeter"
  description := "Hardened data-protection profile with classifier enforce mode and packaged " ++
    "deny/escalate rules for secret export prompts."
  minimumTier := "pro"
  overlay :=
    { entries :=
        [("deny_tools", texts ["delete_records"]),
          ("escalate_risk_tiers", texts ["MEDIUM", "HIGH"]),
          ("escalate_state_changing", .bool true),
          ("ingress_profile", .str "hardened"),
          ("ingress_custom_rules", .list
            [.dict
              [("rule_id", .str "template-deny-secret-export"),
                ("action", .str "deny"),
                ("match_type", .str "contains_any"),
                ("patterns",
                  texts ["export secrets", "dump credentials", "reveal private key"]),
                ("reason_code", .str "INGRESS_TEMPLATE_DENY_SECRET_EXPORT"),
                ("message", .str
                  "Data-perimeter template denied explicit secret-export request.")],
              .dict
              [("rule_id", .str "template-escalate-tenant-data-exfil"),
                ("action", .str "escalate"),
                ("match_type", .str "regex_any"),
                ("patterns",
                  texts ["(?:exfiltrate|extract)\\s+(?:tenant|customer|internal)\\s+data"]),
                ("reason_code", .str "INGRESS_TEMPLATE_ESCALATE_DATA_EXFIL"),
                ("message", .str
                  "Data-perimeter template escalated potential data-exfiltration intent.")]]),
          ("ingress_classifier_mode", .str "enforce"),
          ("ingress_classifier_threshold", .float "0.28"),
          ("ingress_classifier_model_version", .str "template-data-perimeter-v1"),
          ("ingress_classifier_signals",
            texts ["export secrets", "dump credentials", "extract customer data",
              "bypass compliance controls"]),
          ("ingress_classifier_review_channel", .str "security-review")]
      nodup_keys := by simp }

/-- `_POLICY_TEMPLATES`. -/
def policyTemplates : List PolicyTemplateDefinition := [protocolGuard, dataPerimeter]

/-- `resolve_policy_template`. -/
def resolvePolicyTemplate (templateId : String) : Except IngressError PolicyTemplateDefinition := do
  let normalized := Text.strip templateId
  check (normalized ≠ "")
    (.valueError "POLICY_TEMPLATE_REF_INVALID: template_id cannot be empty.")
  let allowed := ", ".intercalate
    (Text.sortedTexts (policyTemplates.map PolicyTemplateDefinition.templateId))
  require (policyTemplates.find? fun template ↦ template.templateId = normalized)
    (.valueError ("POLICY_TEMPLATE_UNKNOWN: unknown template_id '" ++ normalized ++
      "'. Allowed template IDs: [" ++ allowed ++ "]."))

/-- `_normalize_overlay_fragment`.  No value of a document is a tuple. -/
def normalizeOverlayFragment (fragment : Overlay) : Overlay :=
  match fragment.get? "escalate_state_changing" with
  | none => fragment
  | some v => fragment.set "escalate_state_changing" (.bool v.truth)

/-- `_validate_template_extra_keys`. -/
def validateTemplateExtraKeys (extraFragment : Overlay) : Except IngressError Unit :=
  let locked := Text.sortedTexts (extraFragment.keys.filter fun key ↦ key ∈ lockedTemplateKeys)
  check (locked = [])
    (.valueError ("POLICY_TEMPLATE_EXTRA_LOCKED_FIELDS: extra cannot override template-governed " ++
      "ingress fields [" ++ ", ".intercalate locked ++ "]."))

/-- What a template is compiled to. -/
structure CompiledTemplate where
  template : PolicyTemplateDefinition
  overlay : Overlay
  ingressResolution : IngressProfileResolution

/-- `compile_policy_template_overlay`. -/
def compilePolicyTemplateOverlay (S : IngressSystem) (templateId : String)
    (mergeWithOverlay overlayExtra : Option Overlay) : Except IngressError CompiledTemplate := do
  let template ← resolvePolicyTemplate templateId
  let merged := (normalizeOverlayFragment (mergeWithOverlay.getD Dict.empty)).filter fun key _ ↦
    key ∉ lockedTemplateKeys
  let extraFragment := normalizeOverlayFragment (overlayExtra.getD Dict.empty)
  validateTemplateExtraKeys extraFragment
  let compiled := (merged.update (normalizeOverlayFragment template.overlay)).update extraFragment
  let overlay := ((compiled.setDefault "deny_tools" (.list [])).setDefault "escalate_risk_tiers"
    (.list [])).setDefault "escalate_state_changing" (.bool false)
  let ingressResolution ← resolveIngressProfileSettings S overlay
  return ⟨template, ingressResolution.patched overlay, ingressResolution⟩

/-! ## The names of risk tiers -/

/-- The texts that are listed under a key. -/
def namedTiers (T : PolicyTexts) (key : String) (overlay : Overlay) : List String :=
  (((overlay.get? key).bind Value.list?).getD []).map fun item ↦ item.toStr T.isPrintable

/-- The keys under which an overlay lists risk tiers. -/
def riskTierKeys : List String := ["deny_risk_tiers", "escalate_risk_tiers"]

/-- The overlay names the tier, in whatever case. -/
def NamesTier (T : IngressTexts) (overlay : Overlay) (tier : RiskTier) : Prop :=
  ∃ key ∈ riskTierKeys, ∃ name ∈ namedTiers T.toPolicyTexts key overlay,
    T.lower name = T.lower (T.riskTierValue tier)

instance (T : IngressTexts) (overlay : Overlay) (tier : RiskTier) :
    Decidable (NamesTier T overlay tier) :=
  inferInstanceAs (Decidable (∃ key ∈ _, ∃ name ∈ _, _))

/-- The overlay names the tier by its value. -/
def SpellsTier (T : PolicyTexts) (overlay : Overlay) (tier : RiskTier) : Prop :=
  ∃ key ∈ riskTierKeys, T.riskTierValue tier ∈ namedTiers T key overlay

instance (T : PolicyTexts) (overlay : Overlay) (tier : RiskTier) :
    Decidable (SpellsTier T overlay tier) :=
  inferInstanceAs (Decidable (∃ key ∈ _, _))

section
variable {T : PolicyTexts}

/-- A text is read as the tier that has it for its value. -/
theorem riskTier?_eq_some_iff (hvalues : Function.Injective T.riskTierValue) {text : String}
    {tier : RiskTier} : T.riskTier? text = some tier ↔ T.riskTierValue tier = text := by
  constructor
  · intro h
    simpa using List.find?_some h
  · rintro rfl
    have hmem : tier ∈ [RiskTier.low, .medium, .high, .critical] := by cases tier <;> decide
    cases hfind : T.riskTier? (T.riskTierValue tier) with
    | none => simpa using List.find?_eq_none.mp hfind tier hmem
    | some found =>
      have hfound : T.riskTierValue found = T.riskTierValue tier := by
        simpa using List.find?_some hfind
      rw [hvalues hfound]

/-- The tiers that are read: those that are listed by their values, or the ones of the configuration
where the overlay has no list. -/
theorem mem_overlayRiskTiers_iff (hvalues : Function.Injective T.riskTierValue) {key : String}
    {fallback : Finset RiskTier} {overlay : Overlay} {tier : RiskTier} :
    tier ∈ overlayRiskTiers T key fallback overlay ↔
      T.riskTierValue tier ∈ namedTiers T key overlay ∨
        (overlay.get? key).bind Value.list? = none ∧ tier ∈ fallback := by
  rw [overlayRiskTiers, namedTiers]
  cases (overlay.get? key).bind Value.list? with
  | none => simp
  | some raw =>
    simp only [List.mem_toFinset, List.mem_filterMap, riskTier?_eq_some_iff hvalues, Option.getD_some,
      List.mem_map, reduceCtorEq, false_and, or_false]
    exact exists_congr fun item ↦ and_congr_right fun _ ↦ eq_comm

/-! ## When the names are enforced -/

/-- Something else keeps the call from being allowed: the engine for access control, a tool that is
listed, a change of state, or a tier of the configuration, where the overlay has no list of them. -/
def CaughtOtherwise (T : PolicyTexts) (config : RiskGateConfig) (overlay : Overlay)
    (context : PolicyCallContext) : Prop :=
  config.accessRefusal context ≠ none ∨
    context.toolName ∈ overlayStrSet T "deny_tools" config.denyTools overlay ∨
    context.toolName ∈ overlayStrSet T "escalate_tools" config.escalateTools overlay ∨
    context.isStateChanging = true ∧
      overlayBool "escalate_state_changing" config.escalateStateChanging overlay = true ∨
    (overlay.get? "deny_risk_tiers").bind Value.list? = none ∧
      context.riskTier ∈ config.denyRiskTiers ∨
    (overlay.get? "escalate_risk_tiers").bind Value.list? = none ∧
      context.riskTier ∈ config.escalateRiskTiers

/-- An overlay that lists anything is not empty. -/
theorem entries_ne_nil_of_named {key name : String} {overlay : Overlay}
    (h : name ∈ namedTiers T key overlay) : overlay.entries ≠ [] := by
  intro hempty
  obtain rfl : overlay = Dict.empty := Dict.ext hempty
  simp [namedTiers] at h

end

/-- **When a tier that is named is enforced.**  For every configuration, every overlay, wherever it
comes from, and every call: if the overlay names the tier of the call, in whatever case, the call is
not allowed, exactly if in that case it names the tier by its value or something else catches the
call.  The values of an enumeration are distinct. -/
theorem named_tier_enforced_iff (T : IngressTexts) (hvalues : Function.Injective T.riskTierValue)
    (config : RiskGateConfig) (overlay : Overlay) (context : PolicyCallContext)
    (policyId policyVersion : String) :
    (NamesTier T overlay context.riskTier →
        (config.evaluate T.toPolicyTexts context policyId policyVersion
          (some overlay)).decision ≠ .allow) ↔
      (NamesTier T overlay context.riskTier →
        SpellsTier T.toPolicyTexts overlay context.riskTier ∨
          CaughtOtherwise T.toPolicyTexts config overlay context) := by
  refine imp_congr_right fun hnamed ↦ ?_
  obtain ⟨key, -, name, hname, -⟩ := hnamed
  have hrefusal : (config.effectiveConfig T.toPolicyTexts overlay).accessRefusal context =
      config.accessRefusal context := accessRefusal_effectiveConfig overlay
  rw [RiskGateConfig.evaluate, Option.getD_some, decision_decide_ne_allow_iff, hrefusal,
    RiskGateConfig.FiresGate, RiskGateConfig.effectiveConfig,
    if_neg (entries_ne_nil_of_named hname), CaughtOtherwise, SpellsTier, riskTierKeys]
  simp only [mem_overlayRiskTiers_iff hvalues, List.mem_cons, List.not_mem_nil, or_false,
    exists_eq_or_imp, exists_eq_left]
  tauto

/-- The values in lower case are distinct, and a tier that is spelled by its value is reviewed. -/
theorem named_tier_enforced_iff_ascii :
    let overlay : Overlay := Dict.empty.set "escalate_risk_tiers" (texts ["high"])
    let context : PolicyCallContext := { callId := "call-1", toolName := "read", riskTier := .high }
    (RiskGateConfig.evaluate asciiSystem.toPolicyTexts {} context "policy-risk-gate-v1" "1.0.0"
      (some overlay)).decision ≠ .allow := by
  intro overlay context
  have hvalues : Function.Injective asciiSystem.riskTierValue := by
    intro tier tier'
    cases tier <;> cases tier' <;> decide
  exact (named_tier_enforced_iff asciiSystem.toIngressTexts hvalues {} overlay context
    "policy-risk-gate-v1" "1.0.0").mpr (fun _ ↦ .inl (by decide)) (by decide)

/-! ## The templates -/

section
variable {S : IngressSystem} {templateId : String} {mergeWithOverlay overlayExtra : Option Overlay}
  {compiled : CompiledTemplate}

theorem get?_normalizeOverlayFragment {key : String} (hkey : key ≠ "escalate_state_changing")
    (fragment : Overlay) : (normalizeOverlayFragment fragment).get? key = fragment.get? key := by
  rw [normalizeOverlayFragment]
  split
  · rfl
  · rw [Dict.get?_set, if_neg hkey]

/-- Unless the request lists tiers to be reviewed, they are the ones of the template. -/
theorem get?_escalateRiskTiers_compiled
    (h : compilePolicyTemplateOverlay S templateId mergeWithOverlay overlayExtra = .ok compiled)
    (hextra : (overlayExtra.getD Dict.empty).get? "escalate_risk_tiers" = none) :
    compiled.overlay.get? "escalate_risk_tiers" = some (texts ["HIGH"]) ∨
      compiled.overlay.get? "escalate_risk_tiers" = some (texts ["MEDIUM", "HIGH"]) := by
  simp only [compilePolicyTemplateOverlay, bind_eq_ok] at h
  obtain ⟨template, htemplate, -, -, resolution, hresolution, h⟩ := h
  obtain rfl := Except.ok.inj h
  simp only [resolvePolicyTemplate, bind_eq_ok, require_eq_ok] at htemplate
  obtain ⟨-, -, htemplate⟩ := htemplate
  have hmem : template ∈ policyTemplates := List.mem_of_find?_eq_some htemplate
  have hpatch : resolution.toOverlayPatch.get? "escalate_risk_tiers" = none := rfl
  simp only [IngressProfileResolution.patched, Dict.get?_update, Dict.get?_setDefault, hpatch,
    get?_normalizeOverlayFragment (by decide : "escalate_risk_tiers" ≠ "escalate_state_changing"),
    hextra, Option.none_or]
  simp only [policyTemplates, List.mem_cons, List.not_mem_nil, or_false] at hmem
  rcases hmem with rfl | rfl
  · exact .inl rfl
  · exact .inr rfl

/-- **No packaged template has a tier reviewed.**  Where the values of the tiers are in lower case,
none of the tiers that a template names is spelled, unless the request lists others in their place. -/
theorem not_spelled_of_template
    (h : compilePolicyTemplateOverlay S templateId mergeWithOverlay overlayExtra = .ok compiled)
    (hextra : (overlayExtra.getD Dict.empty).get? "escalate_risk_tiers" = none)
    (hlower : ∀ tier, S.lower (S.riskTierValue tier) = S.riskTierValue tier) (tier : RiskTier) :
    S.riskTierValue tier ∉ namedTiers S.toPolicyTexts "escalate_risk_tiers" compiled.overlay := by
  have hcapital {name : String} (hascii : ∀ c ∈ name.toList, c.toNat < 128)
      (hname : Text.lower name ≠ name) : S.riskTierValue tier ≠ name := by
    intro heq
    have := hlower tier
    rw [heq, S.lower_ascii name hascii] at this
    exact hname this
  have hhigh : S.riskTierValue tier ≠ "HIGH" := hcapital (by decide) (by decide)
  have hmedium : S.riskTierValue tier ≠ "MEDIUM" := hcapital (by decide) (by decide)
  rcases get?_escalateRiskTiers_compiled h hextra with hget | hget
  · simp [namedTiers, hget, texts, Value.list?, Value.toStr, hhigh]
  · simp [namedTiers, hget, texts, Value.list?, Value.toStr, hhigh, hmedium]

end

/-- The template names the tier of the call, which only reads, and the call is allowed. -/
theorem template_tier_not_enforced :
    let context : PolicyCallContext := { callId := "call-1", toolName := "read", riskTier := .high }
    (compilePolicyTemplateOverlay asciiSystem "template://governance/protocol-guard-v1" none
        none).map (fun compiled ↦
          (decide (NamesTier asciiSystem.toIngressTexts compiled.overlay context.riskTier),
            (RiskGateConfig.evaluate asciiSystem.toPolicyTexts {} context "policy-risk-gate-v1"
              "1.0.0" (some compiled.overlay)).decision)) =
      .ok (true, .allow) := by
  decide +kernel

end Policies
end ExoBrain
