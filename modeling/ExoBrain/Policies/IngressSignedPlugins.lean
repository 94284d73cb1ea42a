import ExoBrain.Lib.Checks
import ExoBrain.Policies.RiskGates

/-!
# Signed plugins of the ingress

A plugin of the ingress is a list of rules with a signed manifest (`ingress_signed_plugins.py`).
There is a registry of trusted plugins, an overlay names one of them, and before it is used its core
version, its signer, its sandbox and its signature are checked.

* `IngressTexts` is what the ingress needs of texts and regular expressions beyond `PolicyTexts`.
* `IngressRule` is a rule, of a plugin or of an overlay, and `IngressRule.matches` says whether it
  matches an input; the two kinds of rules are the same but for their names.
* `resolveOptionalSignedIngressPlugin` finds the plugin that an overlay names.
* `classifySignedPluginLifecycleTransition` says what changing the plugin amounts to, and raises if
  it would take a plugin away from active runs.
-/

set_option autoImplicit false

namespace ExoBrain
namespace Policies

open Checks

/-! ## Texts -/

/-- What the ingress does with texts. -/
structure IngressTexts extends PolicyTexts where
  /-- `str.lower`. -/
  lower : String → String
  /-- On texts in ASCII, only the capital letters change. -/
  lower_ascii : ∀ s : String, (∀ c ∈ s.toList, c.toNat < 128) → lower s = Text.lower s
  /-- `str.upper`. -/
  upper : String → String
  /-- `str.isalnum` of one character. -/
  isAlnum : Char → Bool
  /-- `re.compile` raises nothing. -/
  compiles : (pattern : String) → Bool
  /-- `re.search`. -/
  search : (ignoreCase : Bool) → (pattern input : String) → Bool

/-- A text in ASCII without capital letters is left as it is. -/
theorem IngressTexts.lower_eq_self (T : IngressTexts) {s : String}
    (h : ∀ c ∈ s.toList, c.toNat < 128 ∧ c.toLower = c) : T.lower s = s := by
  have hmap : s.toList.map Char.toLower = s.toList :=
    (List.map_congr_left fun c hc ↦ (h c hc).2).trans (List.map_id _)
  rw [T.lower_ascii s fun c hc ↦ (h c hc).1, Text.lower, hmap, String.ofList_toList]

theorem IngressTexts.lower_strip_eq_self (T : IngressTexts) {s : String} (hstrip : Text.strip s = s)
    (h : ∀ c ∈ s.toList, c.toNat < 128 ∧ c.toLower = c) : T.lower (Text.strip s) = s := by
  rw [hstrip, T.lower_eq_self h]

/-- `str(mapping.get(key, default)).strip()`, for what was found under the key. -/
def IngressTexts.textOf (T : IngressTexts) (found : Option Value) (default : String) : String :=
  Text.strip ((found.getD (.str default)).toStr T.isPrintable)

/-- `str(x or default).strip()`, for what was found under the key. -/
def IngressTexts.textOr (T : IngressTexts) (found : Option Value) (default : String) : String :=
  Text.strip (match found with
    | none => default
    | some v => if v.truth then v.toStr T.isPrintable else default)

@[simp] theorem IngressTexts.textOf_none (T : IngressTexts) (default : String) :
    T.textOf none default = Text.strip default := rfl

@[simp] theorem IngressTexts.textOr_none (T : IngressTexts) (default : String) :
    T.textOr none default = Text.strip default := rfl

/-! ## Errors -/

/-- What the ingress raises. -/
inductive IngressError
  | valueError (message : String)
  | overflowError (message : String)
deriving DecidableEq, Repr

/-! ## Rules -/

/-- `IngressCustomRule` and `SignedIngressPluginRule`. -/
structure IngressRule where
  ruleId : String
  action : String
  matchType : String
  patterns : List String
  reasonCode : String
  message : String
  caseSensitive : Bool := false
  reviewChannel : String := "security-review"
deriving DecidableEq, Repr

/-- `matches`. -/
def IngressRule.matches (T : IngressTexts) (rule : IngressRule) (userInput : String) : Bool :=
  let haystack := if rule.caseSensitive then userInput else T.lower userInput
  rule.patterns.any fun pattern ↦
    if rule.matchType = "contains_any" then
      let needle := if rule.caseSensitive then pattern else T.lower pattern
      needle ≠ "" && Text.contains needle haystack
    else T.search (!rule.caseSensitive) pattern userInput

/-! ## Plugins -/

/-- `_SANDBOX_MODE_DECLARATIVE_ONLY`. -/
def sandboxModeDeclarativeOnly : String := "declarative_rules_only"

/-- `_TRUSTED_SIGNERS`. -/
def trustedSigners : List String := ["exo-security"]

/-- `SignedIngressPluginManifest`. -/
structure SignedIngressPluginManifest where
  pluginRef : String
  version : String
  compatibleCoreMajor : Int
  signer : String
  signatureSha256 : String
  sandboxMode : String := sandboxModeDeclarativeOnly
deriving DecidableEq, Repr

/-- `SignedIngressPlugin`. -/
structure SignedIngressPlugin where
  manifest : SignedIngressPluginManifest
  rules : List IngressRule
deriving DecidableEq, Repr

/-- What a signature is made for. -/
structure SignaturePayload where
  pluginRef : String
  version : String
  compatibleCoreMajor : Int
  signer : String
  sandboxMode : String
  rules : List IngressRule
deriving DecidableEq, Repr

/-- `_signature_payload`. -/
def SignedIngressPlugin.signaturePayload (plugin : SignedIngressPlugin) : SignaturePayload where
  pluginRef := plugin.manifest.pluginRef
  version := plugin.manifest.version
  compatibleCoreMajor := plugin.manifest.compatibleCoreMajor
  signer := plugin.manifest.signer
  sandboxMode := plugin.manifest.sandboxMode
  rules := plugin.rules

/-- The texts, and `_signature_digest`, the SHA-256 of a payload as JSON. -/
structure IngressSystem extends IngressTexts where
  signatureDigest : SignaturePayload → String

/-- Texts of ASCII, where every regular expression compiles and matches nothing. -/
def asciiSystem : IngressSystem where
  isPrintable _ := true
  riskTierValue
    | .low => "low"
    | .medium => "medium"
    | .high => "high"
    | .critical => "critical"
  lower := Text.lower
  lower_ascii _ _ := rfl
  upper s := String.ofList (s.toList.map Char.toUpper)
  isAlnum := Char.isAlphanum
  compiles _ := true
  search _ _ _ := false
  signatureDigest _ := "0"

/-- `_build_signed_plugin`. -/
def buildSignedPlugin (S : IngressSystem) (pluginRef version : String) (compatibleCoreMajor : Int)
    (signer : String) (rules : List IngressRule) : SignedIngressPlugin :=
  let manifest : SignedIngressPluginManifest :=
    { pluginRef := pluginRef
      version := version
      compatibleCoreMajor := compatibleCoreMajor
      signer := signer
      signatureSha256 := "" }
  let unsigned : SignedIngressPlugin := ⟨manifest, rules⟩
  ⟨{ manifest with signatureSha256 := S.signatureDigest unsigned.signaturePayload }, rules⟩

/-- `_SIGNED_INGRESS_PLUGINS`. -/
def signedIngressPlugins (S : IngressSystem) : List SignedIngressPlugin :=
  [buildSignedPlugin S "plugin://trusted/signed-v1" "1.0.0" 1 "exo-security"
      [{ ruleId := "signed-deny-credential-exfil"
         action := "deny"
         matchType := "contains_any"
         patterns := ["private key", "seed phrase", "api key"]
         reasonCode := "INGRESS_SIGNED_PLUGIN_DENY_CREDENTIAL_EXFIL"
         message := "Signed ingress plugin denied potential credential exfiltration pattern." },
       { ruleId := "signed-escalate-system-bypass"
         action := "escalate"
         matchType := "regex_any"
         patterns :=
           ["(?:disable|bypass)\\s+(?:all\\s+)?(?:security|safety)\\s+(?:controls|checks)"]
         reasonCode := "INGRESS_SIGNED_PLUGIN_ESCALATE_BYPASS_PATTERN"
         message :=
           "Signed ingress plugin escalated potential security-control bypass request." }],
    buildSignedPlugin S "plugin://trusted/signed-v2" "1.1.0" 1 "exo-security"
      [{ ruleId := "signed-v2-deny-secret-export"
         action := "deny"
         matchType := "contains_any"
         patterns := ["export secrets", "dump credentials", "reveal private key"]
         reasonCode := "INGRESS_SIGNED_PLUGIN_DENY_SECRET_EXPORT"
         message := "Signed ingress plugin denied explicit secret export intent." },
       { ruleId := "signed-v2-escalate-data-exfil"
         action := "escalate"
         matchType := "regex_any"
         patterns := ["(?:exfiltrate|extract)\\s+(?:customer|tenant|internal)\\s+data"]
         reasonCode := "INGRESS_SIGNED_PLUGIN_ESCALATE_DATA_EXFIL"
         message := "Signed ingress plugin escalated potential data exfiltration intent." }]]

/-- `_SIGNED_INGRESS_PLUGIN_REGISTRY.get(ref)`. -/
def signedIngressPlugin? (S : IngressSystem) (pluginRef : String) : Option SignedIngressPlugin :=
  (signedIngressPlugins S).find? fun plugin ↦ plugin.manifest.pluginRef = pluginRef

/-- `list_signed_ingress_plugins`. -/
def listSignedIngressPlugins (S : IngressSystem) : List String :=
  Text.sortedTexts ((signedIngressPlugins S).map fun plugin ↦ plugin.manifest.pluginRef)

/-! ## Checks of a plugin -/

/-- `_validate_plugin_compatibility`. -/
def validatePluginCompatibility (plugin : SignedIngressPlugin) (coreMajorVersion : Int) :
    Except IngressError Unit :=
  check (plugin.manifest.compatibleCoreMajor = coreMajorVersion)
    (.valueError ("INGRESS_SIGNED_PLUGIN_INCOMPATIBLE_CORE: plugin '" ++ plugin.manifest.pluginRef ++
      "' requires core major " ++ toString plugin.manifest.compatibleCoreMajor ++ ", expected " ++
      toString coreMajorVersion ++ "."))

/-- `_validate_plugin_signer`. -/
def validatePluginSigner (plugin : SignedIngressPlugin) : Except IngressError Unit :=
  check (Text.strip plugin.manifest.signer ∈ trustedSigners)
    (.valueError ("INGRESS_SIGNED_PLUGIN_SIGNER_UNTRUSTED: plugin signer '" ++
      Text.strip plugin.manifest.signer ++ "' is not trusted."))

/-- `_validate_plugin_sandbox_policy`. -/
def validatePluginSandboxPolicy (S : IngressSystem) (plugin : SignedIngressPlugin) :
    Except IngressError Unit :=
  let sandboxMode := S.lower (Text.strip plugin.manifest.sandboxMode)
  check (sandboxMode = sandboxModeDeclarativeOnly)
    (.valueError ("INGRESS_SIGNED_PLUGIN_SANDBOX_POLICY_INVALID: plugin '" ++
      plugin.manifest.pluginRef ++ "' uses unsupported sandbox_mode '" ++ sandboxMode ++ "'."))

/-- `_validate_plugin_signature`. -/
def validatePluginSignature (S : IngressSystem) (plugin : SignedIngressPlugin) :
    Except IngressError Unit :=
  check (S.signatureDigest plugin.signaturePayload =
      S.lower (Text.strip plugin.manifest.signatureSha256))
    (.valueError ("INGRESS_SIGNED_PLUGIN_SIGNATURE_INVALID: signature check failed for plugin '" ++
      plugin.manifest.pluginRef ++ "'."))

/-- `resolve_signed_ingress_plugin`. -/
def resolveSignedIngressPlugin (S : IngressSystem) (pluginRef : String) (coreMajorVersion : Int) :
    Except IngressError SignedIngressPlugin := do
  let normalizedRef := Text.strip pluginRef
  check (normalizedRef ≠ "")
    (.valueError "INGRESS_SIGNED_PLUGIN_REF_INVALID: signed_gate_plugin_ref cannot be empty.")
  let plugin ← require (signedIngressPlugin? S normalizedRef)
    (.valueError ("INGRESS_SIGNED_PLUGIN_UNKNOWN: unknown signed_gate_plugin_ref '" ++
      normalizedRef ++ "'. Allowed refs: [" ++ ", ".intercalate (listSignedIngressPlugins S) ++
      "]."))
  validatePluginCompatibility plugin coreMajorVersion
  validatePluginSigner plugin
  validatePluginSandboxPolicy S plugin
  validatePluginSignature S plugin
  return plugin

/-- `resolve_optional_signed_ingress_plugin`. -/
def resolveOptionalSignedIngressPlugin (S : IngressSystem) (pluginRef : Option Value)
    (coreMajorVersion : Int) : Except IngressError (Option SignedIngressPlugin) :=
  let normalizedRef := S.textOr pluginRef ""
  if normalizedRef = "" then .ok none
  else some <$> resolveSignedIngressPlugin S normalizedRef coreMajorVersion

/-! ## Changing the plugin -/

/-- `SignedIngressPluginLifecycleTransition`. -/
structure SignedIngressPluginLifecycleTransition where
  action : String
  previousPluginRef : String
  newPluginRef : String
deriving DecidableEq, Repr

/-- `classify_signed_plugin_lifecycle_transition`. -/
def classifySignedPluginLifecycleTransition (previousPluginRef newPluginRef : String)
    (activeRunCount : Int) : Except IngressError SignedIngressPluginLifecycleTransition := do
  let previousRef := Text.strip previousPluginRef
  let newRef := Text.strip newPluginRef
  let action :=
    if previousRef = newRef then "none"
    else if previousRef = "" ∧ newRef ≠ "" then "load"
    else if previousRef ≠ "" ∧ newRef = "" then "unload"
    else "reload"
  check (¬((action = "unload" ∨ action = "reload") ∧ 0 < activeRunCount))
    (.valueError ("INGRESS_SIGNED_PLUGIN_LIFECYCLE_BLOCKED_ACTIVE_RUNS: cannot unload or reload " ++
      "signed ingress plugin while active runs exist."))
  return ⟨action, previousRef, newRef⟩

/-! ## What is resolved -/

section
variable {S : IngressSystem}

/-- A plugin is found by its own reference, and none has an empty one. -/
theorem strip_pluginRef_ne_empty {pluginRef : String} {plugin : SignedIngressPlugin}
    (h : signedIngressPlugin? S pluginRef = some plugin) :
    Text.strip plugin.manifest.pluginRef ≠ "" := by
  have hmem : plugin ∈ signedIngressPlugins S := List.mem_of_find?_eq_some h
  simp only [signedIngressPlugins, List.mem_cons, List.not_mem_nil, or_false] at hmem
  rcases hmem with rfl | rfl
  · change Text.strip "plugin://trusted/signed-v1" ≠ ""
    decide
  · change Text.strip "plugin://trusted/signed-v2" ≠ ""
    decide

/-- No plugin is resolved exactly if the overlay names none. -/
theorem resolveOptional_cases {pluginRef : Option Value} {coreMajorVersion : Int}
    {resolved : Option SignedIngressPlugin}
    (h : resolveOptionalSignedIngressPlugin S pluginRef coreMajorVersion = .ok resolved) :
    S.textOr pluginRef "" = "" ∧ resolved = none ∨
      S.textOr pluginRef "" ≠ "" ∧ ∃ plugin, resolved = some plugin ∧
        Text.strip plugin.manifest.pluginRef ≠ "" := by
  rw [resolveOptionalSignedIngressPlugin] at h
  by_cases hempty : S.textOr pluginRef "" = ""
  · rw [if_pos hempty] at h
    exact .inl ⟨hempty, (Except.ok.inj h).symm⟩
  · rw [if_neg hempty] at h
    cases hresolved : resolveSignedIngressPlugin S (S.textOr pluginRef "") coreMajorVersion with
    | error e =>
      rw [hresolved] at h
      cases h
    | ok plugin =>
      rw [hresolved] at h
      simp only [resolveSignedIngressPlugin, bind_eq_ok, check_eq_ok, require_eq_ok] at hresolved
      obtain ⟨-, -, found, hfound, -, -, -, -, -, -, -, -, hplugin⟩ := hresolved
      obtain rfl := Except.ok.inj hplugin
      exact .inr ⟨hempty, found, (Except.ok.inj h).symm, strip_pluginRef_ne_empty hfound⟩

end

end Policies
end ExoBrain
