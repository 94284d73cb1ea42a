import ExoBrain.Policies.PolicyTemplates

/-!
# What a template locks

The settings of the ingress come from the template alone (`policy_templates.py`): the locked keys are
taken out of the overlay that the tenant had, and a request that adds one of them is refused.

What is resolved is read from the locked keys and from two more, which say where an external
classifier is and how long it may take.

* `resolve_congr`: of overlays with the same locked keys, the one is resolved like the other, but for
  the external classifier.
* `template_locked_iff`: a compiled template is resolved like the template, exactly if neither the
  old overlay nor the request says anything of the external classifier.
-/

set_option autoImplicit false

namespace ExoBrain
namespace Policies

open Checks

/-! ## What is read of an overlay -/

/-- The key for where the external classifier is. -/
def externalEndpointKey : String := "ingress_classifier_external_endpoint"

/-- The key for how long the external classifier may take. -/
def externalTimeoutKey : String := "ingress_classifier_external_timeout_ms"

/-- The settings with another external classifier. -/
def IngressProfileResolution.withExternal (resolution : IngressProfileResolution)
    (external : String × Int) : IngressProfileResolution :=
  { resolution with
    classifier :=
      { resolution.classifier with
        externalEndpoint := external.1
        externalTimeoutMs := external.2 } }

section
variable {S : IngressSystem} {overlay overlay' : Overlay} {resolution : IngressProfileResolution}

/-- The overlays have the same locked keys. -/
def SameLocked (overlay overlay' : Overlay) : Prop :=
  ∀ key ∈ lockedTemplateKeys, overlay'.get? key = overlay.get? key

theorem SameLocked.resolveClassifierSettings (h : SameLocked overlay overlay')
    {classifier : IngressClassifierSettings}
    (hclassifier : Policies.resolveClassifierSettings S overlay = .ok classifier)
    {external : String × Int} (hexternal : resolveExternalClassifierConfig S overlay' = .ok external) :
    Policies.resolveClassifierSettings S overlay' =
      .ok { classifier with externalEndpoint := external.1, externalTimeoutMs := external.2 } := by
  have hmode := h "ingress_classifier_mode" (by decide)
  have hthreshold := h "ingress_classifier_threshold" (by decide)
  have hversion := h "ingress_classifier_model_version" (by decide)
  have hchannel := h "ingress_classifier_review_channel" (by decide)
  have hsignals := h "ingress_classifier_signals" (by decide)
  simp only [Policies.resolveClassifierSettings, rawClassifierMode, Overlay.get, bind_eq_ok,
    hmode, hthreshold, hversion, hchannel, hsignals] at hclassifier ⊢
  obtain ⟨u₁, hmode, threshold, hthreshold, u₂, hversion, u₃, hchannel, signals, hsignals, external',
    -, heq⟩ := hclassifier
  obtain rfl := Except.ok.inj heq
  refine ⟨u₁, hmode, threshold, hthreshold, u₂, hversion, u₃, hchannel, signals, hsignals, external,
    hexternal, ?_⟩
  simp only [pure, Except.pure]

/-- **The external classifier is all that an overlay can add to the locked keys.** -/
theorem resolve_congr (h : SameLocked overlay overlay')
    (hresolution : resolveIngressProfileSettings S overlay = .ok resolution)
    {external : String × Int} (hexternal : resolveExternalClassifierConfig S overlay' = .ok external) :
    resolveIngressProfileSettings S overlay' = .ok (resolution.withExternal external) := by
  have hprofile := h "ingress_profile" (by decide)
  have hlimit := h "ingress_max_input_chars" (by decide)
  have hphrases := h "ingress_prompt_injection_phrases" (by decide)
  have hplugin := h "signed_gate_plugin_ref" (by decide)
  have hrules := h "ingress_custom_rules" (by decide)
  simp only [resolveIngressProfileSettings, Overlay.get, bind_eq_ok, hprofile, hlimit, hphrases,
    hplugin, hrules] at hresolution ⊢
  obtain ⟨profile, hprofile, limit, hlimit, phrases, hphrases, classifier, hclassifier, plugin,
    hplugin, rules, hrules, heq⟩ := hresolution
  obtain rfl := Except.ok.inj heq
  exact ⟨profile, hprofile, limit, hlimit, phrases, hphrases, _,
    h.resolveClassifierSettings hclassifier hexternal, plugin, hplugin, rules, hrules, rfl⟩

/-- The external classifier is what the overlay says of it. -/
theorem external_of_resolve (h : resolveIngressProfileSettings S overlay = .ok resolution) :
    resolveExternalClassifierConfig S overlay =
      .ok (resolution.classifier.externalEndpoint, resolution.classifier.externalTimeoutMs) := by
  simp only [resolveIngressProfileSettings, Policies.resolveClassifierSettings, bind_eq_ok] at h
  obtain ⟨profile, -, limit, -, phrases, -, classifier, hclassifier, plugin, -, rules, -, h⟩ := h
  obtain rfl := Except.ok.inj h
  obtain ⟨-, -, threshold, -, -, -, -, -, signals, -, external, hexternal, h⟩ := hclassifier
  obtain rfl := Except.ok.inj h
  exact hexternal

theorem resolveExternalClassifierConfig_congr
    (hendpoint : overlay'.get? externalEndpointKey = overlay.get? externalEndpointKey)
    (htimeout : overlay'.get? externalTimeoutKey = overlay.get? externalTimeoutKey) :
    resolveExternalClassifierConfig S overlay' = resolveExternalClassifierConfig S overlay := by
  rw [externalEndpointKey] at hendpoint
  rw [externalTimeoutKey] at htimeout
  rw [resolveExternalClassifierConfig, resolveExternalClassifierConfig, hendpoint, htimeout]

/-- Where it is, and how long it may take, as the overlay says. -/
theorem external_eq_of_resolve (h : resolveIngressProfileSettings S overlay = .ok resolution) :
    resolution.classifier.externalEndpoint = S.textOr (overlay.get? externalEndpointKey) "" ∧
      ((overlay.get? externalTimeoutKey).getD (.int 2000)).int? =
        some resolution.classifier.externalTimeoutMs := by
  have hexternal := external_of_resolve h
  simp only [resolveExternalClassifierConfig, bind_eq_ok, require_eq_ok] at hexternal
  obtain ⟨-, -, -, -, timeoutMs, htimeout, -, -, heq⟩ := hexternal
  obtain ⟨hendpoint, hms⟩ := Prod.mk.inj (Except.ok.inj heq)
  exact ⟨hendpoint.symm, htimeout.trans (congrArg some hms)⟩

/-! ## What a template is compiled to -/

variable {templateId : String} {mergeWithOverlay overlayExtra : Option Overlay}
  {compiled : CompiledTemplate}

/-- What the request, or else the old overlay, has under a key. -/
def suppliedValue (mergeWithOverlay overlayExtra : Option Overlay) (key : String) : Option Value :=
  ((overlayExtra.getD Dict.empty).get? key).or ((mergeWithOverlay.getD Dict.empty).get? key)

/-- No template says anything of the external classifier. -/
theorem external_of_template {template : PolicyTemplateDefinition}
    (h : template ∈ policyTemplates) :
    template.overlay.get? externalEndpointKey = none ∧
      template.overlay.get? externalTimeoutKey = none := by
  simp only [policyTemplates, List.mem_cons, List.not_mem_nil, or_false] at h
  rcases h with rfl | rfl
  · exact ⟨rfl, rfl⟩
  · exact ⟨rfl, rfl⟩

/-- What is resolved has the locked keys of the template, and of the external classifier what was
supplied. -/
theorem compile_spec
    (h : compilePolicyTemplateOverlay S templateId mergeWithOverlay overlayExtra = .ok compiled) :
    compiled.template ∈ policyTemplates ∧
      ∃ overlay, resolveIngressProfileSettings S overlay = .ok compiled.ingressResolution ∧
        SameLocked overlay compiled.template.overlay ∧
        ∀ key ∈ [externalEndpointKey, externalTimeoutKey],
          overlay.get? key = suppliedValue mergeWithOverlay overlayExtra key := by
  simp only [compilePolicyTemplateOverlay, bind_eq_ok] at h
  obtain ⟨template, htemplate, passed, hextra, resolution, hresolution, h⟩ := h
  obtain rfl := Except.ok.inj h
  simp only [resolvePolicyTemplate, bind_eq_ok, require_eq_ok] at htemplate
  obtain ⟨-, -, htemplate⟩ := htemplate
  have hmem : template ∈ policyTemplates := List.mem_of_find?_eq_some htemplate
  refine ⟨hmem, _, hresolution, fun key hkey ↦ ?_, fun key hkey ↦ ?_⟩
  · -- the request has no locked key, and of the old overlay they are taken out
    have hother : key ≠ "escalate_state_changing" ∧ key ≠ "escalate_risk_tiers" ∧
        key ≠ "deny_tools" := by
      revert key
      decide
    have hadded : (normalizeOverlayFragment (overlayExtra.getD Dict.empty)).get? key = none := by
      rw [validateTemplateExtraKeys, check_eq_ok, Text.sortedTexts_eq_nil,
        List.filter_eq_nil_iff] at hextra
      refine Dict.get?_eq_none_iff.mpr fun hin ↦ hextra key hin ?_
      exact decide_eq_true hkey
    simp only [Dict.get?_setDefault, Dict.get?_update, Dict.get?_filter, hadded, hkey,
      get?_normalizeOverlayFragment hother.1]
    simp [hother]
  · have hother : key ≠ "escalate_state_changing" ∧ key ≠ "escalate_risk_tiers" ∧
        key ≠ "deny_tools" ∧ key ∉ lockedTemplateKeys := by
      revert key
      decide
    have htemplate : template.overlay.get? key = none := by
      obtain ⟨hendpoint, htimeout⟩ := external_of_template hmem
      simp only [List.mem_cons, List.not_mem_nil, or_false] at hkey
      rcases hkey with rfl | rfl
      · exact hendpoint
      · exact htimeout
    have hkept : ((mergeWithOverlay.getD Dict.empty).get? key).filter
        (fun _ ↦ decide (key ∉ lockedTemplateKeys)) =
          (mergeWithOverlay.getD Dict.empty).get? key := by
      cases (mergeWithOverlay.getD Dict.empty).get? key <;> simp [hother]
    simp only [Dict.get?_setDefault, Dict.get?_update, Dict.get?_filter, htemplate, hkept,
      get?_normalizeOverlayFragment hother.1, suppliedValue]
    simp [hother]

end

/-- **When a template locks the ingress.**  For every packaged template, every old overlay and every
request for which the template is compiled: what is resolved is what the template's own overlay is
resolved to, exactly if the endpoint that the request or else the old overlay supplies for the
external classifier is blank, and the timeout is the default. -/
theorem template_locked_iff (S : IngressSystem) (templateId : String)
    (mergeWithOverlay overlayExtra : Option Overlay) (compiled : CompiledTemplate)
    (h : compilePolicyTemplateOverlay S templateId mergeWithOverlay overlayExtra = .ok compiled) :
    resolveIngressProfileSettings S compiled.template.overlay = .ok compiled.ingressResolution ↔
      S.textOr (suppliedValue mergeWithOverlay overlayExtra externalEndpointKey) "" = "" ∧
        ((suppliedValue mergeWithOverlay overlayExtra externalTimeoutKey).getD (.int 2000)).int? =
          some 2000 := by
  obtain ⟨hmem, overlay, hresolution, hlocked, hsupplied⟩ := compile_spec h
  obtain ⟨hendpoint, htimeout⟩ := external_eq_of_resolve hresolution
  obtain ⟨hnoEndpoint, hnoTimeout⟩ := external_of_template hmem
  have htemplate : resolveExternalClassifierConfig S compiled.template.overlay = .ok ("", 2000) :=
    (resolveExternalClassifierConfig_congr hnoEndpoint hnoTimeout).trans
      resolveExternalClassifierConfig_empty
  rw [resolve_congr hlocked hresolution htemplate, ← hsupplied externalEndpointKey (by decide),
    ← hsupplied externalTimeoutKey (by decide), ← hendpoint, htimeout, Except.ok.injEq]
  constructor
  · intro hsame
    rw [← hsame]
    exact ⟨rfl, rfl⟩
  · rintro ⟨hnone, hdefault⟩
    rw [IngressProfileResolution.withExternal, ← hnone, ← Option.some.inj hdefault]

/-- The template over an overlay that has a tool denied. -/
theorem template_locked_iff_denied :
    ∃ compiled, compilePolicyTemplateOverlay asciiSystem "template://governance/data-perimeter-v1"
        (some (Dict.empty.set "deny_tools" (texts ["delete_records"]))) none = .ok compiled ∧
      (resolveIngressProfileSettings asciiSystem compiled.template.overlay =
          .ok compiled.ingressResolution ↔
        asciiSystem.textOr (suppliedValue
            (some (Dict.empty.set "deny_tools" (texts ["delete_records"]))) none
            externalEndpointKey) "" = "" ∧
          ((suppliedValue (some (Dict.empty.set "deny_tools" (texts ["delete_records"]))) none
            externalTimeoutKey).getD (.int 2000)).int? = some 2000) := by
  obtain ⟨compiled, hcompiled⟩ := exists_eq_ok
    (show (compilePolicyTemplateOverlay asciiSystem "template://governance/data-perimeter-v1"
      (some (Dict.empty.set "deny_tools" (texts ["delete_records"]))) none).isOk = true by
        decide +kernel)
  exact ⟨compiled, hcompiled, template_locked_iff asciiSystem _ _ _ compiled hcompiled⟩

/-- An endpoint in the old overlay stays, and it is the endpoint of no template. -/
theorem endpoint_survives_template :
    (compilePolicyTemplateOverlay asciiSystem "template://governance/data-perimeter-v1"
        (some (Dict.empty.set externalEndpointKey (.str "https://collect.example"))) none).map
          (fun compiled ↦ (compiled.ingressResolution.classifier.externalEndpoint,
            (resolveIngressProfileSettings asciiSystem compiled.template.overlay).toOption.map
              fun resolution ↦ resolution.classifier.externalEndpoint)) =
      .ok ("https://collect.example", some "") := by
  decide +kernel

end Policies
end ExoBrain
