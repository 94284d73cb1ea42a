import ExoBrain.Lib.Decimal
import ExoBrain.Policies.IngressSignedPlugins

/-!
# Profiles of the ingress

The overlay of a tenant configures the gates that a turn passes before the model sees it
(`ingress_profiles.py`): a profile, a limit on the length of the input, phrases, a classifier, rules
and a signed plugin.  `resolveIngressProfileSettings` reads these out of an overlay or raises, and
what it read is written back to the overlay as a patch, with every default filled in.

A threshold is a floating-point number, and handled by the text that shows it.

* `resolve_eq_ok` says of an accepted overlay what each of its parts was resolved to.
* The limit is none above the profile's (`chars_le_of_resolve`), the phrases are none short of the
  profile's (`mem_of_resolve`), and the mode of the classifier is what the overlay calls it, up to
  names for the same thing (`mode_of_resolve`).
* No profile is laxer than the baseline, so nothing accepted is (`baseline_of_resolve`).
* The empty overlay is resolved to the baseline itself (`resolve_empty`).
-/

set_option autoImplicit false

namespace ExoBrain
namespace Policies

open Checks

/-! ## Profiles -/

/-- `_BASELINE_PROMPT_INJECTION_PHRASES`. -/
def baselinePromptInjectionPhrases : List String :=
  ["ignore previous instructions", "reveal system prompt", "developer instructions", "jailbreak"]

/-- A limit on the length of the input: an instance of `int` that is positive. -/
structure InputLimit where
  value : Value
  chars : Int
  int?_value : value.int? = some chars
  pos : 0 < chars

/-- The limit that a number is. -/
def InputLimit.ofPos (chars : Int) (pos : 0 < chars) : InputLimit := ⟨.int chars, chars, rfl, pos⟩

/-- A value of `_INGRESS_PROFILE_BASELINES`. -/
structure IngressProfileBaseline where
  maxInputChars : InputLimit
  promptInjectionPhrases : List String

/-- `_INGRESS_PROFILE_BASELINES`. -/
def ingressProfileBaselines : List (String × IngressProfileBaseline) :=
  [("baseline", ⟨.ofPos 8000 (by decide), baselinePromptInjectionPhrases⟩),
    ("strict", ⟨.ofPos 4000 (by decide),
      baselinePromptInjectionPhrases ++ ["disregard safety policy", "prompt leak"]⟩),
    ("hardened", ⟨.ofPos 2000 (by decide), baselinePromptInjectionPhrases ++
      ["override compliance controls", "disable moderation", "simulate unrestricted mode"]⟩)]

/-- `_PROFILE_ALIASES.get(name, name)`. -/
def profileAlias (name : String) : String := if name = "default" then "baseline" else name

/-- `_CLASSIFIER_MODE_ALIASES.get(mode, mode)`. -/
def classifierModeAlias (mode : String) : String :=
  if mode = "disabled" ∨ mode = "none" then "off"
  else if mode = "monitor" then "shadow"
  else mode

/-- `_DEFAULT_CLASSIFIER_SIGNALS`. -/
def defaultClassifierSignals : List String :=
  ["ignore previous instructions", "reveal system prompt", "developer instructions", "jailbreak",
    "bypass safety", "disable moderation", "exfiltrate data", "reveal secrets"]

/-! ## What is resolved -/

/-- `IngressClassifierSettings`. -/
structure IngressClassifierSettings where
  mode : String
  threshold : String
  modelVersion : String
  signals : List String
  reviewChannel : String := "security-review"
  externalEndpoint : String := ""
  externalTimeoutMs : Int := 2000
deriving DecidableEq, Repr

/-- `enabled`. -/
def IngressClassifierSettings.enabled (classifier : IngressClassifierSettings) : Bool :=
  classifier.mode = "shadow" ∨ classifier.mode = "enforce"

/-- `IngressProfileResolution`. -/
structure IngressProfileResolution where
  profileName : String
  maxInputChars : InputLimit
  promptInjectionPhrases : List String
  classifier : IngressClassifierSettings
  signedPlugin : Option SignedIngressPlugin := none
  customRules : List IngressRule := []
  compatibilityMode : String := "strict"

/-- `to_overlay_payload`. -/
def IngressRule.toOverlayPayload (rule : IngressRule) : Value :=
  .dict
    [("rule_id", .str rule.ruleId),
      ("action", .str rule.action),
      ("match_type", .str rule.matchType),
      ("patterns", .list (rule.patterns.map .str)),
      ("reason_code", .str rule.reasonCode),
      ("message", .str rule.message),
      ("case_sensitive", .bool rule.caseSensitive),
      ("review_channel", .str rule.reviewChannel)]

/-- `self.signed_plugin.manifest.field if self.signed_plugin else ""`. -/
def IngressProfileResolution.pluginText (resolution : IngressProfileResolution)
    (field : SignedIngressPluginManifest → String) : Value :=
  .str ((resolution.signedPlugin.map fun plugin ↦ field plugin.manifest).getD "")

/-- `to_overlay_patch`. -/
def IngressProfileResolution.toOverlayPatch (resolution : IngressProfileResolution) : Overlay where
  entries :=
    [("ingress_profile", .str resolution.profileName),
      ("ingress_max_input_chars", resolution.maxInputChars.value),
      ("ingress_prompt_injection_phrases", .list (resolution.promptInjectionPhrases.map .str)),
      ("ingress_custom_rules", .list (resolution.customRules.map IngressRule.toOverlayPayload)),
      ("ingress_classifier_mode", .str resolution.classifier.mode),
      ("ingress_classifier_threshold", .float resolution.classifier.threshold),
      ("ingress_classifier_model_version", .str resolution.classifier.modelVersion),
      ("ingress_classifier_signals", .list (resolution.classifier.signals.map .str)),
      ("ingress_classifier_review_channel", .str resolution.classifier.reviewChannel),
      ("ingress_classifier_external_endpoint", .str resolution.classifier.externalEndpoint),
      ("ingress_classifier_external_timeout_ms", .int resolution.classifier.externalTimeoutMs),
      ("signed_gate_plugin_ref", resolution.pluginText fun manifest ↦ manifest.pluginRef),
      ("signed_gate_plugin_version", resolution.pluginText fun manifest ↦ manifest.version),
      ("signed_gate_plugin_signer", resolution.pluginText fun manifest ↦ manifest.signer),
      ("signed_gate_plugin_signature_sha256",
        resolution.pluginText fun manifest ↦ manifest.signatureSha256),
      ("signed_gate_plugin_sandbox_mode",
        resolution.pluginText fun manifest ↦ manifest.sandboxMode),
      ("ingress_profile_compatibility_mode", .str resolution.compatibilityMode)]
  nodup_keys := by simp

/-- The overlay with the patch written into it. -/
def IngressProfileResolution.patched (resolution : IngressProfileResolution) (overlay : Overlay) :
    Overlay :=
  overlay.update resolution.toOverlayPatch

/-! ## Reading an overlay -/

section Resolve

variable (S : IngressSystem)

/-- `overlay.get(key)`. -/
def Overlay.get (overlay : Overlay) (key : String) : Value := (overlay.get? key).getD .none

/-- `_normalize_profile_name`, with the baseline of the profile. -/
def normalizeProfileName (rawProfile : Option Value) :
    Except IngressError (String × IngressProfileBaseline) :=
  let normalized := profileAlias (S.lower (S.textOr rawProfile "baseline"))
  require (ingressProfileBaselines.find? fun profile ↦ profile.1 = normalized)
    (.valueError ("INGRESS_PROFILE_UNSUPPORTED: ingress_profile must be one of " ++
      "[baseline, hardened, strict], got '" ++ normalized ++ "'."))

/-- The positive number, for an instance of `int`. -/
def inputLimit? (v : Value) : Option InputLimit :=
  match h : v.int? with
  | none => none
  | some n => if hpos : 0 < n then some ⟨v, n, h, hpos⟩ else none

theorem isSome_inputLimit? (limit : InputLimit) : (inputLimit? limit.value).isSome = true := by
  unfold inputLimit?
  split
  · rename_i h
    rw [limit.int?_value] at h
    cases h
  · rename_i n h
    rw [limit.int?_value, Option.some.injEq] at h
    rw [dif_pos (h ▸ limit.pos)]
    rfl

/-- `_resolve_max_input_chars`. -/
def resolveMaxInputChars (rawValue : Value) (baseline : InputLimit) :
    Except IngressError InputLimit :=
  match rawValue with
  | .none => .ok baseline
  | rawValue => do
    let limit ← require (inputLimit? rawValue)
      (.valueError ("INGRESS_PROFILE_MAX_INPUT_INVALID: ingress_max_input_chars must be a positive " ++
        "integer."))
    check (limit.chars ≤ baseline.chars)
      (.valueError ("INGRESS_PROFILE_COMPATIBILITY_MAX_INPUT_RELAXATION_NOT_ALLOWED: " ++
        "ingress_max_input_chars cannot exceed the selected ingress profile baseline."))
    return limit

/-- The loop over phrases or signals: in lower case, without blank and repeated ones. -/
def normalizeEntries (tooLong : IngressError) (raw : List Value) :
    Except IngressError (List String) :=
  raw.foldlM (fun normalized item ↦
    let value := S.lower (Text.strip (item.toStr S.isPrintable))
    if value = "" then .ok normalized
    else if 160 < value.length then .error tooLong
    else if value ∈ normalized then .ok normalized
    else .ok (normalized ++ [value])) []

/-- `_resolve_prompt_injection_phrases`. -/
def resolvePromptInjectionPhrases (rawPhrases : Value) (baselinePhrases : List String) :
    Except IngressError (List String) :=
  match rawPhrases with
  | .none => .ok baselinePhrases
  | rawPhrases => do
    let raw ← require rawPhrases.list?
      (.valueError ("INGRESS_PROFILE_PHRASES_INVALID: ingress_prompt_injection_phrases must be a " ++
        "list of strings."))
    let normalized ← normalizeEntries S
      (.valueError "INGRESS_PROFILE_PHRASES_INVALID: phrase entries must be <=160 characters.") raw
    check (normalized ≠ [])
      (.valueError ("INGRESS_PROFILE_PHRASES_INVALID: ingress_prompt_injection_phrases cannot be " ++
        "empty."))
    check (∀ phrase ∈ baselinePhrases, phrase ∈ normalized)
      (.valueError ("INGRESS_PROFILE_COMPATIBILITY_BASELINE_PHRASES_REQUIRED: " ++
        "custom phrase lists must include baseline prompt-injection phrases."))
    check (normalized.length ≤ 64)
      (.valueError ("INGRESS_PROFILE_PHRASES_INVALID: ingress_prompt_injection_phrases supports at " ++
        "most 64 entries."))
    return normalized

/-- `_resolve_classifier_signals`. -/
def resolveClassifierSignals (rawSignals : Value) : Except IngressError (List String) :=
  match rawSignals with
  | .none => .ok defaultClassifierSignals
  | rawSignals => do
    let raw ← require rawSignals.list?
      (.valueError ("INGRESS_CLASSIFIER_SIGNALS_INVALID: ingress_classifier_signals must be a " ++
        "list."))
    let normalized ← normalizeEntries S
      (.valueError "INGRESS_CLASSIFIER_SIGNALS_INVALID: signal entries must be <=160 characters.")
      raw
    check (normalized ≠ [])
      (.valueError ("INGRESS_CLASSIFIER_SIGNALS_INVALID: ingress_classifier_signals cannot be " ++
        "empty."))
    check (normalized.length ≤ 64)
      (.valueError ("INGRESS_CLASSIFIER_SIGNALS_INVALID: ingress_classifier_signals supports at " ++
        "most 64 entries."))
    return normalized

/-- `float` of the threshold, which has to be a number. -/
def readThreshold (rawThreshold : Value) : Except IngressError String :=
  match rawThreshold with
  | .float text => .ok text
  | rawThreshold => do
    let n ← require rawThreshold.int?
      (.valueError ("INGRESS_CLASSIFIER_THRESHOLD_INVALID: ingress_classifier_threshold must be " ++
        "a number in [0,1]."))
    -- The largest number below is the largest floating-point number and half a unit more.
    check (n.natAbs < 2 ^ 1024 - 2 ^ 970) (.overflowError "int too large to convert to float")
    return toString n ++ ".0"

/-- The threshold. -/
def resolveThreshold (rawThreshold : Value) : Except IngressError String := do
  let threshold ← readThreshold rawThreshold
  check (¬((Decimal.ofText threshold).lt (Decimal.ofText "0.0") = true ∨
      (Decimal.ofText "1.0").lt (Decimal.ofText threshold) = true))
    (.valueError ("INGRESS_CLASSIFIER_THRESHOLD_INVALID: ingress_classifier_threshold must be in " ++
      "[0,1]."))
  return threshold

/-- `_resolve_external_classifier_config`. -/
def resolveExternalClassifierConfig (overlay : Overlay) : Except IngressError (String × Int) := do
  let endpoint := S.textOr (overlay.get? "ingress_classifier_external_endpoint") ""
  check (endpoint = "" ∨ endpoint.startsWith "https://" = true)
    (.valueError ("INGRESS_CLASSIFIER_EXTERNAL_ENDPOINT_INVALID: " ++
      "ingress_classifier_external_endpoint must start with 'https://'."))
  check (endpoint.length ≤ 512)
    (.valueError ("INGRESS_CLASSIFIER_EXTERNAL_ENDPOINT_INVALID: " ++
      "ingress_classifier_external_endpoint must be <=512 characters."))
  let timeoutMs ← require
    ((overlay.get? "ingress_classifier_external_timeout_ms").getD (.int 2000)).int?
    (.valueError ("INGRESS_CLASSIFIER_EXTERNAL_TIMEOUT_INVALID: " ++
      "ingress_classifier_external_timeout_ms must be an integer."))
  check (100 ≤ timeoutMs ∧ timeoutMs ≤ 10000)
    (.valueError ("INGRESS_CLASSIFIER_EXTERNAL_TIMEOUT_INVALID: " ++
      "ingress_classifier_external_timeout_ms must be in [100, 10000]."))
  return (endpoint, timeoutMs)

/-- The mode that an overlay gives the classifier, in lower case. -/
def rawClassifierMode (overlay : Overlay) (default : String) : String :=
  S.lower (S.textOf (overlay.get? "ingress_classifier_mode") default)

/-- `_resolve_classifier_settings`. -/
def resolveClassifierSettings (overlay : Overlay) :
    Except IngressError IngressClassifierSettings := do
  let mode := classifierModeAlias (rawClassifierMode S overlay "off")
  check (mode ∈ ["off", "shadow", "enforce"])
    (.valueError ("INGRESS_CLASSIFIER_MODE_INVALID: ingress_classifier_mode must be one of " ++
      "['off', 'shadow', 'enforce']."))
  let threshold ← resolveThreshold
    ((overlay.get? "ingress_classifier_threshold").getD (.float "0.65"))
  let rawModelVersion :=
    S.textOf (overlay.get? "ingress_classifier_model_version") "heuristic-ingress-v1"
  let modelVersion := if rawModelVersion = "" then "heuristic-ingress-v1" else rawModelVersion
  check (modelVersion.length ≤ 80)
    (.valueError ("INGRESS_CLASSIFIER_MODEL_VERSION_INVALID: ingress_classifier_model_version " ++
      "must be <=80 chars."))
  let rawReviewChannel :=
    S.textOf (overlay.get? "ingress_classifier_review_channel") "security-review"
  let reviewChannel := if rawReviewChannel = "" then "security-review" else rawReviewChannel
  check (reviewChannel.length ≤ 80)
    (.valueError ("INGRESS_CLASSIFIER_REVIEW_CHANNEL_INVALID: ingress_classifier_review_channel " ++
      "must be <=80 chars."))
  let signals ← resolveClassifierSignals S (overlay.get "ingress_classifier_signals")
  let external ← resolveExternalClassifierConfig S overlay
  return {
    mode := mode
    threshold := threshold
    modelVersion := modelVersion
    signals := signals
    reviewChannel := reviewChannel
    externalEndpoint := external.1
    externalTimeoutMs := external.2 }

/-! ## Custom rules -/

/-- `_default_custom_rule_reason_code`. -/
def defaultCustomRuleReasonCode (ruleId action : String) : String :=
  let fragment := (S.upper ruleId).toList.map fun c ↦ if S.isAlnum c then c else '_'
  let parts := (fragment.splitOn '_').filter fun part ↦ part ≠ []
  let joined := ['_'].intercalate parts
  let code := if joined = [] then "RULE".toList else joined
  "INGRESS_CUSTOM_RULE_" ++ String.ofList (code.take 48) ++ "_" ++ S.upper action

/-- The loop over the patterns of a rule. -/
def normalizePatterns (tooLong : IngressError) (raw : List Value) :
    Except IngressError (List String) :=
  raw.foldlM (fun normalized item ↦
    let value := Text.strip (item.toStr S.isPrintable)
    if value = "" then .ok normalized
    else if 256 < value.length then .error tooLong
    else .ok (normalized ++ [value])) []

/-- `_validate_regex_patterns`. -/
def validateRegexPatterns (ruleId : String) (patterns : List String) : Except IngressError Unit :=
  patterns.forM fun pattern ↦ check (S.compiles pattern = true)
    (.valueError ("INGRESS_CUSTOM_RULE_REGEX_INVALID: rule '" ++ ruleId ++
      "' contains invalid regex pattern '" ++ pattern ++ "'."))

/-- `INGRESS_CUSTOM_RULES_INVALID`. -/
def customRulesInvalid (message : String) : IngressError :=
  .valueError ("INGRESS_CUSTOM_RULES_INVALID: " ++ message)

/-- One turn of the loop of `_resolve_custom_rules`. -/
def resolveCustomRule (index : Nat) (seenRuleIds : List String) (rulePayload : Value) :
    Except IngressError IngressRule := do
  let entries ← require rulePayload.dict?
    (customRulesInvalid ("rule at index " ++ toString index ++ " must be an object."))
  let field (key default : String) := S.textOf (Value.lookup key entries) default
  let ruleId := field "rule_id" ""
  check (ruleId ≠ "")
    (customRulesInvalid ("rule at index " ++ toString index ++ " requires non-empty rule_id."))
  check (ruleId ∉ seenRuleIds)
    (customRulesInvalid ("duplicate rule_id '" ++ ruleId ++ "' is not allowed."))
  let action := S.lower (field "action" "")
  check (action ∈ ["deny", "escalate"])
    (customRulesInvalid ("rule '" ++ ruleId ++ "' action must be 'deny' or 'escalate'."))
  let matchType := S.lower (field "match_type" "")
  check (matchType ∈ ["contains_any", "regex_any"])
    (customRulesInvalid
      ("rule '" ++ ruleId ++ "' match_type must be 'contains_any' or 'regex_any'."))
  let rawPatterns ← require ((Value.lookup "patterns" entries).bind Value.list?)
    (customRulesInvalid ("rule '" ++ ruleId ++ "' patterns must be a list."))
  let patterns ← normalizePatterns S
    (customRulesInvalid ("rule '" ++ ruleId ++ "' pattern entries must be <=256 characters."))
    rawPatterns
  check (patterns ≠ [])
    (customRulesInvalid ("rule '" ++ ruleId ++ "' must include at least one pattern."))
  check (patterns.length ≤ 20)
    (customRulesInvalid ("rule '" ++ ruleId ++ "' supports at most 20 patterns."))
  if matchType = "regex_any" then validateRegexPatterns S ruleId patterns
  let reasonCode := field "reason_code" ""
  let message := field "message" ""
  let reviewChannel := field "review_channel" "security-review"
  return {
    ruleId := ruleId
    action := action
    matchType := matchType
    patterns := patterns
    reasonCode :=
      if reasonCode = "" then defaultCustomRuleReasonCode S ruleId action else reasonCode
    message :=
      if message = "" then "Ingress custom rule '" ++ ruleId ++ "' matched input content."
      else message
    caseSensitive := ((Value.lookup "case_sensitive" entries).getD (.bool false)).truth
    reviewChannel := if reviewChannel = "" then "security-review" else reviewChannel }

/-- The loop of `_resolve_custom_rules`. -/
def resolveCustomRulesFrom : (index : Nat) → (seenRuleIds : List String) → List Value →
    Except IngressError (List IngressRule)
  | _, _, [] => .ok []
  | index, seenRuleIds, rulePayload :: rest => do
    let rule ← resolveCustomRule S index seenRuleIds rulePayload
    let rules ← resolveCustomRulesFrom (index + 1) (rule.ruleId :: seenRuleIds) rest
    return rule :: rules

/-- `_resolve_custom_rules`. -/
def resolveCustomRules (rawRules : Value) : Except IngressError (List IngressRule) :=
  match rawRules with
  | .none => .ok []
  | rawRules => do
    let raw ← require rawRules.list? (customRulesInvalid "ingress_custom_rules must be a list.")
    check (raw.length ≤ 20) (customRulesInvalid "at most 20 ingress_custom_rules are allowed.")
    resolveCustomRulesFrom S 0 [] raw

/-! ## Everything together -/

/-- `resolve_ingress_profile_settings`. -/
def resolveIngressProfileSettings (overlay : Overlay) :
    Except IngressError IngressProfileResolution := do
  let profile ← normalizeProfileName S (overlay.get? "ingress_profile")
  let baselinePhrases :=
    profile.2.promptInjectionPhrases.map fun phrase ↦ S.lower (Text.strip phrase)
  let maxInputChars ←
    resolveMaxInputChars (overlay.get "ingress_max_input_chars") profile.2.maxInputChars
  let promptInjectionPhrases ←
    resolvePromptInjectionPhrases S (overlay.get "ingress_prompt_injection_phrases") baselinePhrases
  let classifier ← resolveClassifierSettings S overlay
  let signedPlugin ←
    resolveOptionalSignedIngressPlugin S (overlay.get? "signed_gate_plugin_ref") 1
  let customRules ← resolveCustomRules S (overlay.get "ingress_custom_rules")
  return {
    profileName := profile.1
    maxInputChars := maxInputChars
    promptInjectionPhrases := promptInjectionPhrases
    classifier := classifier
    signedPlugin := signedPlugin
    customRules := customRules }

end Resolve

/-! ## What an accepted overlay is resolved to -/

section
variable {S : IngressSystem} {overlay : Overlay} {resolution : IngressProfileResolution}

/-- What is resolved one by one. -/
theorem resolve_eq_ok (h : resolveIngressProfileSettings S overlay = .ok resolution) :
    ∃ profile ∈ ingressProfileBaselines,
      profile.1 = profileAlias (S.lower (S.textOr (overlay.get? "ingress_profile") "baseline")) ∧
      resolution.profileName = profile.1 ∧
      resolveMaxInputChars (overlay.get "ingress_max_input_chars") profile.2.maxInputChars =
        .ok resolution.maxInputChars ∧
      resolvePromptInjectionPhrases S (overlay.get "ingress_prompt_injection_phrases")
        (profile.2.promptInjectionPhrases.map fun phrase ↦ S.lower (Text.strip phrase)) =
        .ok resolution.promptInjectionPhrases ∧
      resolveClassifierSettings S overlay = .ok resolution.classifier ∧
      resolveOptionalSignedIngressPlugin S (overlay.get? "signed_gate_plugin_ref") 1 =
        .ok resolution.signedPlugin ∧
      resolveCustomRules S (overlay.get "ingress_custom_rules") = .ok resolution.customRules := by
  simp only [resolveIngressProfileSettings, bind_eq_ok] at h
  obtain ⟨profile, hprofile, limit, hlimit, phrases, hphrases, classifier, hclassifier, plugin,
    hplugin, rules, hrules, h⟩ := h
  obtain rfl := Except.ok.inj h
  rw [normalizeProfileName, require_eq_ok] at hprofile
  refine ⟨profile, List.mem_of_find?_eq_some hprofile, ?_, rfl, hlimit, hphrases, hclassifier,
    hplugin, hrules⟩
  simpa using List.find?_some hprofile

/-- The limit is none above the profile's. -/
theorem chars_le_of_resolve {rawValue : Value} {baseline limit : InputLimit}
    (h : resolveMaxInputChars rawValue baseline = .ok limit) : limit.chars ≤ baseline.chars := by
  unfold resolveMaxInputChars at h
  split at h
  · obtain rfl := Except.ok.inj h
    exact le_refl _
  · simp only [bind_eq_ok, check_eq_ok] at h
    obtain ⟨found, -, -, hle, h⟩ := h
    obtain rfl := Except.ok.inj h
    exact hle

/-- The phrases are none short of the profile's. -/
theorem mem_of_resolve {rawPhrases : Value} {baselinePhrases phrases : List String}
    (h : resolvePromptInjectionPhrases S rawPhrases baselinePhrases = .ok phrases) :
    ∀ phrase ∈ baselinePhrases, phrase ∈ phrases := by
  unfold resolvePromptInjectionPhrases at h
  split at h
  · obtain rfl := Except.ok.inj h
    exact fun phrase hphrase ↦ hphrase
  · simp only [bind_eq_ok, check_eq_ok] at h
    obtain ⟨raw, -, normalized, -, -, -, -, hsubset, -, -, h⟩ := h
    obtain rfl := Except.ok.inj h
    exact hsubset

/-- The mode of the classifier is what the overlay calls it. -/
theorem mode_of_resolve {classifier : IngressClassifierSettings}
    (h : resolveClassifierSettings S overlay = .ok classifier) :
    classifier.mode = classifierModeAlias (rawClassifierMode S overlay "off") ∧
      classifier.mode ∈ ["off", "shadow", "enforce"] := by
  simp only [resolveClassifierSettings, bind_eq_ok, check_eq_ok] at h
  obtain ⟨-, hmode, threshold, -, -, -, -, -, signals, -, external, -, h⟩ := h
  obtain rfl := Except.ok.inj h
  exact ⟨rfl, hmode⟩

/-- There is a rule for every rule of the overlay. -/
theorem length_resolveCustomRulesFrom {index : Nat} {seenRuleIds : List String} {raw : List Value}
    {rules : List IngressRule} (h : resolveCustomRulesFrom S index seenRuleIds raw = .ok rules) :
    rules.length = raw.length := by
  induction raw generalizing index seenRuleIds rules with
  | nil =>
    obtain rfl := Except.ok.inj h
    rfl
  | cons rulePayload raw ih =>
    rw [resolveCustomRulesFrom] at h
    simp only [bind_eq_ok] at h
    obtain ⟨rule, -, rest, hrest, h⟩ := h
    obtain rfl := Except.ok.inj h
    rw [List.length_cons, List.length_cons, ih hrest]

/-- No profile allows more than the baseline. -/
theorem baseline_of_mem {profile : String × IngressProfileBaseline} :
    profile ∈ ingressProfileBaselines → profile.2.maxInputChars.chars ≤ 8000 ∧
      ∀ phrase ∈ baselinePromptInjectionPhrases, phrase ∈ profile.2.promptInjectionPhrases := by
  simp only [ingressProfileBaselines, List.mem_cons, List.not_mem_nil, or_false]
  rintro (rfl | rfl | rfl)
  · exact ⟨le_refl _, fun phrase hphrase ↦ hphrase⟩
  · exact ⟨by decide, fun phrase hphrase ↦ List.mem_append_left _ hphrase⟩
  · exact ⟨by decide, fun phrase hphrase ↦ List.mem_append_left _ hphrase⟩

/-- **What is accepted is no laxer than the baseline.** -/
theorem baseline_of_resolve (h : resolveIngressProfileSettings S overlay = .ok resolution) :
    resolution.maxInputChars.chars ≤ 8000 ∧
      ∀ phrase ∈ baselinePromptInjectionPhrases,
        S.lower (Text.strip phrase) ∈ resolution.promptInjectionPhrases := by
  obtain ⟨profile, hmem, -, -, hlimit, hphrases, -⟩ := resolve_eq_ok h
  obtain ⟨hle, hsubset⟩ := baseline_of_mem hmem
  refine ⟨(chars_le_of_resolve hlimit).trans hle, fun phrase hphrase ↦ ?_⟩
  exact mem_of_resolve hphrases _ (List.mem_map_of_mem (hsubset phrase hphrase))

/-! ## The empty overlay -/

/-- What nothing is resolved to. -/
def defaultResolution (S : IngressSystem) : IngressProfileResolution where
  profileName := "baseline"
  maxInputChars := .ofPos 8000 (by decide)
  promptInjectionPhrases :=
    baselinePromptInjectionPhrases.map fun phrase ↦ S.lower (Text.strip phrase)
  classifier :=
    { mode := "off"
      threshold := "0.65"
      modelVersion := "heuristic-ingress-v1"
      signals := defaultClassifierSignals }

theorem resolveThreshold_default : resolveThreshold (.float "0.65") = .ok "0.65" := by
  have hrange : ¬((Decimal.ofText "0.65").lt (Decimal.ofText "0.0") = true ∨
      (Decimal.ofText "1.0").lt (Decimal.ofText "0.65") = true) := by decide +kernel
  simp only [resolveThreshold, bind_eq_ok, check_eq_ok]
  exact ⟨"0.65", rfl, (), hrange, rfl⟩

theorem resolveExternalClassifierConfig_empty :
    resolveExternalClassifierConfig S Dict.empty = .ok ("", 2000) := by
  have hendpoint : Text.strip "" = "" := by decide
  simp only [resolveExternalClassifierConfig, Dict.get?_empty, IngressTexts.textOr_none, hendpoint,
    bind_eq_ok, check_eq_ok, require_eq_ok]
  exact ⟨(), .inl trivial, (), by decide, 2000, rfl, (), by decide, rfl⟩

theorem resolveClassifierSettings_empty :
    resolveClassifierSettings S Dict.empty = .ok (defaultResolution S).classifier := by
  have hmode : classifierModeAlias (rawClassifierMode S Dict.empty "off") = "off" := by
    rw [rawClassifierMode, Dict.get?_empty, IngressTexts.textOf_none,
      S.lower_strip_eq_self (by decide) (by decide)]
    decide
  have hversion : Text.strip "heuristic-ingress-v1" = "heuristic-ingress-v1" := by decide
  have hchannel : Text.strip "security-review" = "security-review" := by decide
  simp only [resolveClassifierSettings, hmode, Dict.get?_empty, IngressTexts.textOf_none, hversion,
    hchannel, bind_eq_ok, check_eq_ok]
  exact ⟨(), by decide, "0.65", resolveThreshold_default, (), by decide, (), by decide,
    defaultClassifierSignals, rfl, ("", 2000), resolveExternalClassifierConfig_empty, rfl⟩

/-- Nothing is resolved to the baseline. -/
theorem resolve_empty : resolveIngressProfileSettings S Dict.empty = .ok (defaultResolution S) := by
  have hprofile : normalizeProfileName S none =
      .ok ("baseline", ⟨.ofPos 8000 (by decide), baselinePromptInjectionPhrases⟩) := by
    have hname : S.lower (Text.strip "baseline") = "baseline" :=
      S.lower_strip_eq_self (by decide) (by decide)
    simp [normalizeProfileName, hname, profileAlias, ingressProfileBaselines, require]
  have hplugin : resolveOptionalSignedIngressPlugin S none 1 = .ok none := by
    have hempty : Text.strip "" = "" := by decide
    simp [resolveOptionalSignedIngressPlugin, hempty]
  simp only [resolveIngressProfileSettings, Overlay.get, Dict.get?_empty, bind_eq_ok]
  exact ⟨_, hprofile, _, rfl, _, rfl, _, resolveClassifierSettings_empty, _, hplugin, _, rfl, rfl⟩

end

end Policies
end ExoBrain
