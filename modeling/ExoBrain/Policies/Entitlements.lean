import ExoBrain.Policies.IngressProfiles

/-!
# Entitlements

What a tenant may configure depends on its tier (`entitlements.py`).  A tier is read out of the roles
of an identity, every feature needs a tier, and `evaluateFeatureEntitlement` compares the two.

`requiredFeatureForGovernanceOverlay` finds the feature that an overlay needs, the first of a list
that the overlay makes use of.  It is asked about the overlay of a request when a policy is set, and
about the overlay in the store when a turn begins.
-/

set_option autoImplicit false

namespace ExoBrain
namespace Policies

open Checks
open Core (PolicyAction)

/-! ## Tiers and features -/

/-- `EntitlementTier`. -/
inductive EntitlementTier
  | foundation
  | pro
  | enterprise
deriving DecidableEq, Repr

/-- `EntitlementTier.value`. -/
def EntitlementTier.value : EntitlementTier → String
  | foundation => "foundation"
  | pro => "pro"
  | enterprise => "enterprise"

/-- `_TIER_ORDER`. -/
def EntitlementTier.order : EntitlementTier → Nat
  | foundation => 0
  | pro => 1
  | enterprise => 2

/-- `EntitledFeature`. -/
inductive EntitledFeature
  | governanceIngressBaseline
  | governanceIngressProfile
  | governanceIngressCustomRules
  | governanceIngressClassifier
  | governanceIngressSignedPlugins
  | governancePolicyTemplates
  | governanceRuntimeAdminControls
  | governanceAgentRoutingAdvanced
  | governanceByocGovernanceAnalytics
  | governanceAuditSignedExportVerify
deriving DecidableEq, Repr

namespace EntitledFeature

/-- `EntitledFeature.value`. -/
def value : EntitledFeature → String
  | governanceIngressBaseline => "governance.ingress.baseline"
  | governanceIngressProfile => "governance.ingress.profile"
  | governanceIngressCustomRules => "governance.ingress.custom_rules"
  | governanceIngressClassifier => "governance.ingress.classifier"
  | governanceIngressSignedPlugins => "governance.ingress.signed_plugins"
  | governancePolicyTemplates => "governance.policy.templates"
  | governanceRuntimeAdminControls => "governance.runtime.admin_controls"
  | governanceAgentRoutingAdvanced => "governance.agent_routing.advanced"
  | governanceByocGovernanceAnalytics => "governance.byoc.governance_analytics"
  | governanceAuditSignedExportVerify => "governance.audit.signed_export_verify"

/-- `min_tier_for_feature`. -/
def minTier : EntitledFeature → EntitlementTier
  | governanceIngressBaseline => .foundation
  | governanceIngressSignedPlugins => .enterprise
  | governanceAuditSignedExportVerify => .enterprise
  | _ => .pro

end EntitledFeature

/-- `tier_satisfies`. -/
def tierSatisfies (required current : EntitlementTier) : Bool := required.order ≤ current.order

/-- `resolve_tier_from_roles`. -/
def resolveTierFromRoles (T : IngressTexts) (roles : List String) : EntitlementTier :=
  let normalized := (roles.filter fun role ↦ Text.strip role ≠ "").map fun role ↦
    T.lower (Text.strip role)
  if ∃ role ∈ normalized, role ∈ ["enterprise", "entitlement_enterprise",
      "entitlement:enterprise", "tier_enterprise", "plan_enterprise"] then .enterprise
  else if ∃ role ∈ normalized, role ∈ ["pro", "entitlement_pro", "entitlement:pro", "tier_pro",
      "plan_pro"] then .pro
  else .foundation

/-! ## Decisions -/

/-- `IdentityContext`, as far as entitlements read it. -/
structure IdentityContext where
  roles : List String := []
deriving DecidableEq, Repr

/-- `EntitlementDecision`. -/
structure EntitlementDecision where
  schemaVersion : String := "1.0"
  decision : PolicyAction
  reasonCode : String
  message : String
  feature : EntitledFeature
  requiredTier : EntitlementTier
  currentTier : EntitlementTier
deriving DecidableEq, Repr

/-- `evaluate_feature_entitlement`. -/
def evaluateFeatureEntitlement (T : IngressTexts) (identity : IdentityContext)
    (feature : EntitledFeature) : EntitlementDecision :=
  let requiredTier := feature.minTier
  let currentTier := resolveTierFromRoles T identity.roles
  if tierSatisfies requiredTier currentTier = true then
    { decision := .allow
      reasonCode := "ENTITLEMENT_ALLOWED"
      message := "Entitlement requirements satisfied for requested governance feature."
      feature := feature
      requiredTier := requiredTier
      currentTier := currentTier }
  else
    { decision := .deny
      reasonCode := "ENTITLEMENT_TIER_REQUIRED"
      message := "Feature '" ++ feature.value ++ "' requires tier '" ++ requiredTier.value ++
        "' but caller tier is '" ++ currentTier.value ++ "'."
      feature := feature
      requiredTier := requiredTier
      currentTier := currentTier }

/-! ## The feature that an overlay needs -/

/-- A list or a dictionary with something in it. -/
def hasItems : Value → Bool
  | .list items => !items.isEmpty
  | .dict entries => !entries.isEmpty
  | _ => false

/-- `str(overlay.get("ingress_profile", "")).strip().lower()`. -/
def profileText (S : IngressSystem) (overlay : Overlay) : String :=
  S.lower (S.textOf (overlay.get? "ingress_profile") "")

/-- `required_feature_for_governance_overlay`. -/
def requiredFeatureForGovernanceOverlay (S : IngressSystem) (overlay : Overlay) : EntitledFeature :=
  if S.textOf (overlay.get? "signed_gate_plugin_ref") "" ≠ "" then .governanceIngressSignedPlugins
  else if rawClassifierMode S overlay "" ∈ ["shadow", "enforce"] then .governanceIngressClassifier
  else if hasItems (overlay.get "ingress_custom_rules") = true then .governanceIngressCustomRules
  else if profileText S overlay ∉ ["", "baseline", "default"] then .governanceIngressProfile
  else if (inputLimit? (overlay.get "ingress_max_input_chars")).isSome = true then
    .governanceIngressProfile
  else if ((overlay.get "ingress_prompt_injection_phrases").list?.any fun phrases ↦
      !phrases.isEmpty) = true then .governanceIngressProfile
  else .governanceIngressBaseline

/-! ## What an overlay needs, and what it is resolved to -/

section
variable {S : IngressSystem} {overlay : Overlay} {resolution : IngressProfileResolution}

theorem hasItems_iff_of_resolve {rawRules : Value} {rules : List IngressRule}
    (h : resolveCustomRules S rawRules = .ok rules) : hasItems rawRules = true ↔ rules ≠ [] := by
  cases rawRules with
  | none =>
    obtain rfl := Except.ok.inj h
    simp [hasItems]
  | list raw =>
    simp only [resolveCustomRules, bind_eq_ok, require_eq_ok] at h
    obtain ⟨raw', hraw, -, -, h⟩ := h
    obtain rfl : raw = raw' := Option.some.inj hraw
    have hlength := length_resolveCustomRulesFrom h
    rw [← List.length_pos_iff, hlength, hasItems]
    cases raw <;> simp
  | _ =>
    simp only [resolveCustomRules, bind_eq_ok, require_eq_ok] at h
    obtain ⟨raw, hraw, -⟩ := h
    cases hraw

theorem isSome_inputLimit?_of_resolve {rawValue : Value} {baseline limit : InputLimit}
    (hgiven : rawValue ≠ .none) (h : resolveMaxInputChars rawValue baseline = .ok limit) :
    (inputLimit? rawValue).isSome = true := by
  unfold resolveMaxInputChars at h
  split at h
  · exact absurd rfl hgiven
  · simp only [bind_eq_ok, require_eq_ok] at h
    obtain ⟨found, hfound, -⟩ := h
    rw [hfound, Option.isSome_some]

theorem phrases_of_resolve {rawPhrases : Value} {baselinePhrases phrases : List String}
    (hgiven : rawPhrases ≠ .none)
    (h : resolvePromptInjectionPhrases S rawPhrases baselinePhrases = .ok phrases) :
    (rawPhrases.list?.any fun raw ↦ !raw.isEmpty) = true := by
  unfold resolvePromptInjectionPhrases at h
  split at h
  · exact absurd rfl hgiven
  · simp only [bind_eq_ok, require_eq_ok, check_eq_ok] at h
    obtain ⟨raw, hraw, normalized, hnormalized, -, hne, -⟩ := h
    rw [hraw]
    cases raw with
    | nil =>
      obtain rfl := Except.ok.inj hnormalized
      exact absurd rfl hne
    | cons item raw => rfl

/-- The classifier is on exactly if the overlay calls its mode one of three names. -/
theorem enabled_iff_of_resolve {classifier : IngressClassifierSettings}
    (h : resolveClassifierSettings S overlay = .ok classifier) :
    classifier.enabled = true ↔ rawClassifierMode S overlay "" ∈ ["shadow", "enforce"] ∨
      rawClassifierMode S overlay "" = "monitor" := by
  have hmode := (mode_of_resolve h).1
  rw [IngressClassifierSettings.enabled, hmode]
  cases hfound : overlay.get? "ingress_classifier_mode" with
  | none =>
    have hoff : rawClassifierMode S overlay "off" = "off" := by
      rw [rawClassifierMode, hfound, IngressTexts.textOf_none,
        S.lower_strip_eq_self (by decide) (by decide)]
    have hempty : rawClassifierMode S overlay "" = "" := by
      rw [rawClassifierMode, hfound, IngressTexts.textOf_none,
        S.lower_strip_eq_self (by decide) (by decide)]
    rw [hoff, hempty]
    decide
  | some v =>
    have hsame : rawClassifierMode S overlay "off" = rawClassifierMode S overlay "" := by
      rw [rawClassifierMode, rawClassifierMode, hfound]
      rfl
    rw [hsame, classifierModeAlias]
    generalize rawClassifierMode S overlay "" = mode
    split_ifs with hoff hmonitor
    · rcases hoff with rfl | rfl <;> decide
    · subst hmonitor
      decide
    · simp [hmonitor]

/-- A plugin that an overlay names is there for the entitlement too. -/
theorem textOf_of_textOr_ne {found : Option Value} (h : S.textOr found "" ≠ "") :
    S.textOf found "" ≠ "" := by
  cases found with
  | none => exact h
  | some v =>
    rw [IngressTexts.textOr] at h
    rw [IngressTexts.textOf]
    by_cases htruth : v.truth = true
    · simpa [htruth] using h
    · exact absurd (by decide : Text.strip "" = "") (by simpa [htruth] using h)

/-- What an overlay needs once the resolved settings are written into it. -/
theorem requiredFeature_patched (h : resolveIngressProfileSettings S overlay = .ok resolution) :
    requiredFeatureForGovernanceOverlay S (resolution.patched overlay) =
      if resolution.signedPlugin.isSome = true then .governanceIngressSignedPlugins
      else if resolution.classifier.enabled = true then .governanceIngressClassifier
      else if resolution.customRules ≠ [] then .governanceIngressCustomRules
      else .governanceIngressProfile := by
  obtain ⟨profile, -, -, -, -, -, hclassifier, hplugin, -⟩ := resolve_eq_ok h
  have hget {key : String} {v : Value} (hv : resolution.toOverlayPatch.get? key = some v) :
      (resolution.patched overlay).get? key = some v := by
    rw [IngressProfileResolution.patched, Dict.get?_update, hv]
    rfl
  have hmode : rawClassifierMode S (resolution.patched overlay) "" =
      resolution.classifier.mode := by
    have hstored : (resolution.patched overlay).get? "ingress_classifier_mode" =
        some (.str resolution.classifier.mode) := hget rfl
    have hmem := (mode_of_resolve hclassifier).2
    simp only [List.mem_cons, List.not_mem_nil, or_false] at hmem
    rw [rawClassifierMode, hstored]
    change S.lower (Text.strip resolution.classifier.mode) = resolution.classifier.mode
    rcases hmem with hmem | hmem | hmem <;> rw [hmem] <;>
      exact S.lower_strip_eq_self (by decide) (by decide)
  have hrules : (resolution.patched overlay).get "ingress_custom_rules" =
      .list (resolution.customRules.map IngressRule.toOverlayPayload) := by
    rw [Overlay.get, hget rfl]
    rfl
  have hlimit : (resolution.patched overlay).get "ingress_max_input_chars" =
      resolution.maxInputChars.value := by
    rw [Overlay.get, hget rfl]
    rfl
  have href : (resolution.patched overlay).get? "signed_gate_plugin_ref" =
      some (resolution.pluginText fun manifest ↦ manifest.pluginRef) := hget rfl
  have htext : S.textOf (some (resolution.pluginText fun manifest ↦ manifest.pluginRef)) "" ≠ "" ↔
      resolution.signedPlugin.isSome = true := by
    rcases resolveOptional_cases hplugin with ⟨-, hnone⟩ | ⟨-, plugin, hsome, hne⟩
    · rw [IngressProfileResolution.pluginText, hnone]
      exact iff_of_false (not_not_intro (by decide : Text.strip "" = "")) Bool.false_ne_true
    · rw [IngressProfileResolution.pluginText, hsome]
      exact iff_of_true hne rfl
  have henabled : resolution.classifier.mode ∈ ["shadow", "enforce"] ↔
      resolution.classifier.enabled = true := by simp [IngressClassifierSettings.enabled]
  have hitems : hasItems (.list (resolution.customRules.map IngressRule.toOverlayPayload)) = true ↔
      resolution.customRules ≠ [] := by simp [hasItems]
  rw [requiredFeatureForGovernanceOverlay, href, hmode, hrules, hlimit]
  simp only [htext, henabled, hitems, isSome_inputLimit?, if_true, ite_self]

/-- The overlay asks for what it gets: it names a signed plugin; or what stands in the place of one
is a blank text or nothing at all, its classifier does not go by the name of `monitor`, and it has a
classifier, a rule, a profile other than the baseline, a limit or phrases. -/
def AsksForWhatItGets (S : IngressSystem) (overlay : Overlay) : Prop :=
  S.textOr (overlay.get? "signed_gate_plugin_ref") "" ≠ "" ∨
    S.textOf (overlay.get? "signed_gate_plugin_ref") "" = "" ∧
      rawClassifierMode S overlay "" ≠ "monitor" ∧
      (rawClassifierMode S overlay "" ∈ ["shadow", "enforce"] ∨
        hasItems (overlay.get "ingress_custom_rules") = true ∨
        profileText S overlay ∉ ["", "baseline", "default"] ∨
        overlay.get "ingress_max_input_chars" ≠ .none ∨
        overlay.get "ingress_prompt_injection_phrases" ≠ .none)

/-- **When an overlay needs as much before as after.** -/
theorem requiredFeature_patched_iff (h : resolveIngressProfileSettings S overlay = .ok resolution) :
    requiredFeatureForGovernanceOverlay S overlay =
        requiredFeatureForGovernanceOverlay S (resolution.patched overlay) ↔
      AsksForWhatItGets S overlay := by
  obtain ⟨profile, -, -, -, hlimit, hphrases, hclassifier, hplugin, hrules⟩ := resolve_eq_ok h
  have hitems := hasItems_iff_of_resolve hrules
  have henabled := enabled_iff_of_resolve hclassifier
  rw [requiredFeature_patched h, AsksForWhatItGets, requiredFeatureForGovernanceOverlay]
  rcases resolveOptional_cases hplugin with ⟨hunnamed, hnone⟩ | ⟨hnamed, plugin, hsome, -⟩
  swap
  · simp [textOf_of_textOr_ne hnamed, hnamed, hsome]
  -- No plugin is in effect, so the request must not look as if it named one.
  by_cases htext : S.textOf (overlay.get? "signed_gate_plugin_ref") "" = ""
  swap
  · simp only [hunnamed, hnone, htext]
    split_ifs <;> simp_all
  by_cases hmonitor : rawClassifierMode S overlay "" = "monitor"
  · rw [hmonitor] at henabled ⊢
    simp only [hunnamed, hnone, htext, henabled.mpr (.inr rfl)]
    split_ifs <;> simp_all
  by_cases hmode : rawClassifierMode S overlay "" ∈ ["shadow", "enforce"]
  · simp [hnone, htext, hmode, hmonitor, henabled.mpr (.inl hmode)]
  have hdisabled : ¬resolution.classifier.enabled = true := by
    rw [henabled]
    exact not_or_intro hmode hmonitor
  by_cases hcustom : hasItems (overlay.get "ingress_custom_rules") = true
  · simp [hnone, htext, hmode, hmonitor, hdisabled, hcustom, hitems.mp hcustom]
  -- What is left is a profile, as the limit is always written into the overlay.
  have hnorules : resolution.customRules = [] := by simpa [hitems] using hcustom
  have hunplugged : ¬resolution.signedPlugin.isSome = true := by simp [hnone]
  rw [if_neg (not_not_intro htext), if_neg hmode, if_neg hcustom, if_neg hunplugged,
    if_neg hdisabled, if_neg (not_not_intro hnorules)]
  simp only [hunnamed, htext, hmode, hmonitor, hcustom, ne_eq, not_true_eq_false, not_false_eq_true,
    true_and, false_or]
  by_cases hprofile : profileText S overlay ∉ ["", "baseline", "default"]
  · simp [hprofile]
  rw [if_neg hprofile]
  by_cases hgivenLimit : overlay.get "ingress_max_input_chars" = .none
  · have hunlimited : ¬(inputLimit? (overlay.get "ingress_max_input_chars")).isSome = true := by
      rw [hgivenLimit]
      exact Bool.false_ne_true
    rw [if_neg hunlimited]
    by_cases hgivenPhrases : overlay.get "ingress_prompt_injection_phrases" = .none
    · simpa [hgivenLimit, hgivenPhrases, Value.list?] using hprofile
    · simp [hgivenPhrases, phrases_of_resolve hgivenPhrases hphrases]
  · simp [hgivenLimit, isSome_inputLimit?_of_resolve hgivenLimit hlimit]

end

end Policies
end ExoBrain
