import ExoBrain.Policies.IngressProfiles

/-!
# The gates of the ingress

Before the model sees the input of a turn, the input passes a chain of gates (`ingress_gates.py`),
which is made from the overlay of the tenant.  A gate has nothing to say, allows the input, denies it
or has it reviewed; the chain ends at the first gate that does not let the input pass.  What a gate
that allows it has measured is kept for the decision.

* `IngressDecision` is a decision, with what a classifier and a signed plugin have measured.
* The six gates are functions from the input; an external classifier is one that may also fail.
* `IngressGateChain.evaluate` is the chain, and `buildIngressGateChainFromOverlay` makes it.

An input is blocked exactly if some gate blocks it (`decision_evaluate_ne_allow_iff`), wherever the
gate stands and whatever the others say, and every gate of the baseline has a gate in the chain of an
accepted overlay that blocks at least as much.  So no overlay lets an input pass that the baseline
blocks (`overlay_never_weakens`).
-/

set_option autoImplicit false

namespace ExoBrain
namespace Policies

open Core (PolicyAction)
open Checks

/-! ## Decisions -/

/-- What a decision says about the classifier. -/
structure ClassifierTelemetry where
  classifierMode : String := ""
  classifierModelVersion : String := ""
  classifierScore : String := "0.0"
  classifierThreshold : String := "0.0"
  classifierSignalCount : Nat := 0
  classifierSignalsMatched : List String := []
  classifierShadowTriggered : Bool := false
  classifierRoutingUsed : String := ""
  classifierFallbackReason : String := ""
  classifierExternalLatencyMs : Int := 0
  classifierLabels : List String := []
deriving DecidableEq, Repr

/-- What a decision says about a signed plugin. -/
structure SignedPluginTelemetry where
  signedPluginRef : String := ""
  signedPluginVersion : String := ""
  signedPluginSigner : String := ""
  signedPluginRuleId : String := ""
  signedPluginRuleAction : String := ""
  signedPluginSandboxMode : String := ""
  signedPluginMatched : Bool := false
deriving DecidableEq, Repr

/-- `IngressDecision`. -/
structure IngressDecision extends ClassifierTelemetry, SignedPluginTelemetry where
  schemaVersion : String := "1.0"
  decision : PolicyAction
  reasonCode : String
  message : String
  gateId : String
  gateVersion : String := "1.0.0"
  reviewRequired : Bool := false
  reviewChannel : String := ""
deriving DecidableEq, Repr

/-- `IngressGate`: what `evaluate` makes of the input. -/
abbrev IngressGate := (userInput : String) → Option IngressDecision

/-! ## Gates that look at the input -/

/-- `EmptyInputGate.evaluate`. -/
def emptyInputGate : IngressGate := fun userInput ↦
  if Text.strip userInput ≠ "" then none
  else some
    { decision := .deny
      reasonCode := "INGRESS_INPUT_EMPTY"
      message := "Turn input is empty after normalization."
      gateId := "ingress-empty-input" }

section
variable (S : IngressSystem)

/-- `MaxInputCharsGate.evaluate`. -/
def maxInputCharsGate (maxChars : InputLimit) : IngressGate := fun userInput ↦
  if (userInput.length : Int) ≤ max maxChars.chars 1 then none
  else some
    { decision := .deny
      reasonCode := "INGRESS_INPUT_TOO_LARGE"
      message := "Turn input exceeds max allowed characters (" ++
        maxChars.value.toStr S.isPrintable ++ ")."
      gateId := "ingress-max-input-chars" }

/-- `PromptInjectionHeuristicGate.evaluate`. -/
def promptInjectionHeuristicGate (escalationPhrases : List String) : IngressGate := fun userInput ↦
  let normalizedInput := S.lower userInput
  match escalationPhrases.find? fun phrase ↦ phrase ≠ "" && Text.contains phrase normalizedInput with
  | none => none
  | some matchedPhrase => some
    { decision := .escalate
      reasonCode := "INGRESS_PROMPT_INJECTION_SUSPECTED"
      message := "Turn input matched suspicious phrase '" ++ matchedPhrase ++ "'."
      gateId := "ingress-prompt-injection-heuristic"
      reviewRequired := true
      reviewChannel := "security-review" }

/-- `CustomIngressRulesGate.evaluate`. -/
def customIngressRulesGate (customRules : List IngressRule) : IngressGate := fun userInput ↦
  (customRules.find? fun rule ↦ rule.matches S.toIngressTexts userInput).map fun rule ↦
    if rule.action = "deny" then
      { decision := .deny
        reasonCode := rule.reasonCode
        message := rule.message
        gateId := "ingress-custom-rules" }
    else
      { decision := .escalate
        reasonCode := rule.reasonCode
        message := rule.message
        gateId := "ingress-custom-rules"
        reviewRequired := true
        reviewChannel := rule.reviewChannel }

/-- What a plugin says of itself in a decision. -/
def SignedIngressPluginManifest.telemetry (manifest : SignedIngressPluginManifest) :
    SignedPluginTelemetry where
  signedPluginRef := manifest.pluginRef
  signedPluginVersion := manifest.version
  signedPluginSigner := manifest.signer
  signedPluginSandboxMode := manifest.sandboxMode

/-- `SignedPluginIngressGate.evaluate`. -/
def signedPluginIngressGate (plugin : Option SignedIngressPlugin) : IngressGate := fun userInput ↦
  plugin.map fun plugin ↦
    match plugin.rules.find? fun rule ↦ rule.matches S.toIngressTexts userInput with
    | none =>
      { plugin.manifest.telemetry with
        decision := .allow
        reasonCode := "INGRESS_SIGNED_PLUGIN_ALLOW_NO_MATCH"
        message := "Signed ingress plugin evaluated input with no matching rule."
        gateId := "ingress-signed-plugin" }
    | some rule =>
      let telemetry : SignedPluginTelemetry :=
        { plugin.manifest.telemetry with
          signedPluginRuleId := rule.ruleId
          signedPluginRuleAction := rule.action
          signedPluginMatched := true }
      if rule.action = "deny" then
        { telemetry with
          decision := .deny
          reasonCode := rule.reasonCode
          message := rule.message
          gateId := "ingress-signed-plugin" }
      else
        { telemetry with
          decision := .escalate
          reasonCode := rule.reasonCode
          message := rule.message
          gateId := "ingress-signed-plugin"
          reviewRequired := true
          reviewChannel := rule.reviewChannel }

/-! ## Classifiers -/

/-- The signals that the input shows. -/
def IngressClassifierSettings.matchedSignals (classifier : IngressClassifierSettings)
    (userInput : String) : List String :=
  classifier.signals.filter fun signal ↦
    signal ≠ "" && Text.contains signal (S.lower userInput)

/-- `round(min(1.0, len(matched_signals) / signal_count), 4)`.  There are no more signals matched
than there are signals. -/
def IngressClassifierSettings.score (classifier : IngressClassifierSettings)
    (matchedSignals : List String) : String :=
  Decimal.text4 (Decimal.round4 matchedSignals.length (max classifier.signals.length 1))

/-- `score >= threshold`. -/
def IngressClassifierSettings.reaches (classifier : IngressClassifierSettings) (score : String) :
    Bool :=
  (Decimal.ofText classifier.threshold).le (Decimal.ofText score)

/-- `IngressClassifierHeuristicGate.evaluate`. -/
def ingressClassifierHeuristicGate (classifier : IngressClassifierSettings) : IngressGate :=
  fun userInput ↦
    if classifier.enabled = false then none
    else
      let matchedSignals := classifier.matchedSignals S userInput
      let score := classifier.score matchedSignals
      let highRisk := !matchedSignals.isEmpty && classifier.reaches score
      let telemetry : ClassifierTelemetry :=
        { classifierMode := classifier.mode
          classifierModelVersion := classifier.modelVersion
          classifierScore := score
          classifierThreshold := classifier.threshold
          classifierSignalCount := classifier.signals.length
          classifierSignalsMatched := matchedSignals }
      if highRisk = true ∧ classifier.mode = "enforce" then some
        { telemetry with
          decision := .escalate
          reasonCode := "INGRESS_CLASSIFIER_HIGH_RISK"
          message := "Ingress classifier marked input as high-risk in enforce mode (score=" ++
            score ++ ", threshold=" ++ classifier.threshold ++ ")."
          gateId := "ingress-classifier-heuristic"
          reviewRequired := true
          reviewChannel := classifier.reviewChannel }
      else if highRisk = true ∧ classifier.mode = "shadow" then some
        { telemetry with
          classifierShadowTriggered := true
          decision := .allow
          reasonCode := "INGRESS_CLASSIFIER_SHADOW_HIGH_RISK"
          message := "Ingress classifier flagged high-risk input in shadow mode; decision " ++
            "recorded without blocking."
          gateId := "ingress-classifier-heuristic" }
      else some
        { telemetry with
          decision := .allow
          reasonCode := "INGRESS_CLASSIFIER_ALLOW_LOW_RISK"
          message := "Ingress classifier evaluated input as low-risk."
          gateId := "ingress-classifier-heuristic" }

/-- `ExternalClassifierResult`, which can only be made with a score in `[0, 1]`. -/
structure ExternalClassifierResult where
  score : String
  score_mem : (Decimal.ofText "0.0").le (Decimal.ofText score) = true ∧
    (Decimal.ofText score).le (Decimal.ofText "1.0") = true
  labels : List String := []
  modelVersion : String := ""

/-- What comes of a call of an external classifier: a result, or an exception of a class and with a
message. -/
inductive ClassifyOutcome
  | returned (result : ExternalClassifierResult)
  | raised (className message : String)

/-- `ExternalClassifierAdapter`: what comes of `classify`, and how many milliseconds it takes. -/
abbrev ExternalClassifierAdapter := (userInput : String) → (timeoutMs : Int) → ClassifyOutcome × Int

/-- `ClassifierRoutingResult`. -/
structure ClassifierRoutingResult where
  score : String
  modelVersion : String
  routingUsed : String
  labels : List String := []
  fallbackReason : String := ""
  externalLatencyMs : Int := 0
  signalsMatched : List String := []
  signalCount : Nat := 0
deriving DecidableEq, Repr

/-- `_heuristic_result`. -/
def IngressClassifierSettings.heuristicResult (classifier : IngressClassifierSettings)
    (userInput fallbackReason : String) (externalLatencyMs : Int) : ClassifierRoutingResult :=
  let matchedSignals := classifier.matchedSignals S userInput
  { score := classifier.score matchedSignals
    modelVersion := classifier.modelVersion
    routingUsed := "heuristic"
    fallbackReason := fallbackReason
    externalLatencyMs := externalLatencyMs
    signalsMatched := matchedSignals
    signalCount := classifier.signals.length }

/-- `_route`. -/
def IngressClassifierSettings.route (classifier : IngressClassifierSettings)
    (adapter : Option ExternalClassifierAdapter) (userInput : String) : ClassifierRoutingResult :=
  match adapter with
  | none => classifier.heuristicResult S userInput "" 0
  | some classify =>
    match classify userInput 2000 with
    | (.returned result, latencyMs) =>
      { score := result.score
        modelVersion :=
          if result.modelVersion = "" then classifier.modelVersion else result.modelVersion
        routingUsed := "external"
        labels := result.labels
        externalLatencyMs := latencyMs }
    | (.raised className message, latencyMs) =>
      classifier.heuristicResult S userInput (className ++ ": " ++ message) latencyMs

/-- `_build_decision`. -/
def IngressClassifierSettings.buildDecision (classifier : IngressClassifierSettings)
    (action : PolicyAction) (reasonCode message : String) (routing : ClassifierRoutingResult)
    (reviewRequired shadowTriggered : Bool) : IngressDecision where
  decision := action
  reasonCode := reasonCode
  message := message
  gateId := "ingress-external-classifier-routing"
  reviewRequired := reviewRequired
  reviewChannel := if reviewRequired then classifier.reviewChannel else ""
  classifierMode := classifier.mode
  classifierModelVersion := routing.modelVersion
  classifierScore := routing.score
  classifierThreshold := classifier.threshold
  classifierSignalCount := routing.signalCount
  classifierSignalsMatched := routing.signalsMatched
  classifierShadowTriggered := shadowTriggered
  classifierRoutingUsed := routing.routingUsed
  classifierFallbackReason := routing.fallbackReason
  classifierExternalLatencyMs := routing.externalLatencyMs
  classifierLabels := routing.labels

/-- `ExternalClassifierRoutingGate.evaluate`. -/
def externalClassifierRoutingGate (classifier : IngressClassifierSettings)
    (adapter : Option ExternalClassifierAdapter) : IngressGate := fun userInput ↦
  if classifier.enabled = false then none
  else
    let routing := classifier.route S adapter userInput
    let highRisk := classifier.reaches routing.score
    if highRisk = true ∧ classifier.mode = "enforce" then
      some (classifier.buildDecision .escalate "INGRESS_CLASSIFIER_HIGH_RISK"
        ("Ingress classifier marked input as high-risk in enforce mode (score=" ++ routing.score ++
          ", threshold=" ++ classifier.threshold ++ ", routing=" ++ routing.routingUsed ++ ").")
        routing true false)
    else if highRisk = true ∧ classifier.mode = "shadow" then
      some (classifier.buildDecision .allow "INGRESS_CLASSIFIER_SHADOW_HIGH_RISK"
        ("Ingress classifier flagged high-risk input in shadow mode; decision recorded without " ++
          "blocking.")
        routing false true)
    else
      some (classifier.buildDecision .allow "INGRESS_CLASSIFIER_ALLOW_LOW_RISK"
        "Ingress classifier evaluated input as low-risk." routing false false)

end

/-! ## The chain -/

/-- What the gates that allow the input have measured. -/
structure AllowTelemetry where
  classifier : Option ClassifierTelemetry := none
  signedPlugin : Option SignedPluginTelemetry := none

/-- `_extract_allow_telemetry`. -/
def IngressDecision.allowTelemetry (decision : IngressDecision) : AllowTelemetry where
  classifier := if decision.classifierMode = "" then none else some decision.toClassifierTelemetry
  signedPlugin :=
    if decision.signedPluginRef = "" then none else some decision.toSignedPluginTelemetry

/-- `_merge_allow_telemetry`. -/
def AllowTelemetry.merge (existing incoming : AllowTelemetry) : AllowTelemetry where
  classifier := incoming.classifier.or existing.classifier
  signedPlugin := incoming.signedPlugin.or existing.signedPlugin

/-- `_apply_allow_telemetry`. -/
def AllowTelemetry.apply (telemetry : AllowTelemetry) (decision : IngressDecision) :
    IngressDecision :=
  { decision with
    toClassifierTelemetry :=
      if decision.classifierMode = "" then
        telemetry.classifier.getD decision.toClassifierTelemetry
      else decision.toClassifierTelemetry
    toSignedPluginTelemetry :=
      if decision.signedPluginRef = "" then
        telemetry.signedPlugin.getD decision.toSignedPluginTelemetry
      else decision.toSignedPluginTelemetry }

/-- `IngressGateChain`. -/
structure IngressGateChain where
  gates : List IngressGate

/-- The loop of `evaluate`. -/
def evaluateFrom (userInput : String) : AllowTelemetry → List IngressGate → IngressDecision
  | telemetry, [] =>
    telemetry.apply
      { decision := .allow
        reasonCode := "INGRESS_ALLOW_DEFAULT"
        message := "Turn allowed by ingress gate chain."
        gateId := "ingress-gate-chain" }
  | telemetry, gate :: gates =>
    match gate userInput with
    | none => evaluateFrom userInput telemetry gates
    | some decision =>
      if decision.decision = .allow then
        evaluateFrom userInput (telemetry.merge decision.allowTelemetry) gates
      else telemetry.apply decision

/-- `evaluate`. -/
def IngressGateChain.evaluate (chain : IngressGateChain) (userInput : String) : IngressDecision :=
  evaluateFrom userInput {} chain.gates

section
variable (S : IngressSystem)

/-- The gate of the classifier: an external one, if there is an adapter for it. -/
def classifierGate (classifier : IngressClassifierSettings) :
    (externalClassifierAdapter : Option ExternalClassifierAdapter) → IngressGate
  | none => ingressClassifierHeuristicGate S classifier
  | some adapter => externalClassifierRoutingGate S classifier (some adapter)

/-- The chain for what an overlay was resolved to. -/
def IngressProfileResolution.chain (resolution : IngressProfileResolution)
    (externalClassifierAdapter : Option ExternalClassifierAdapter) : IngressGateChain where
  gates :=
    [emptyInputGate,
      maxInputCharsGate S resolution.maxInputChars,
      classifierGate S resolution.classifier externalClassifierAdapter,
      promptInjectionHeuristicGate S resolution.promptInjectionPhrases,
      customIngressRulesGate S resolution.customRules,
      signedPluginIngressGate S resolution.signedPlugin]

/-- `build_ingress_gate_chain_from_overlay`. -/
def buildIngressGateChainFromOverlay (overlay : Overlay)
    (externalClassifierAdapter : Option ExternalClassifierAdapter) :
    Except IngressError IngressGateChain := do
  let resolution ← resolveIngressProfileSettings S overlay
  return resolution.chain S externalClassifierAdapter

/-- `build_default_ingress_gate_chain`. -/
def buildDefaultIngressGateChain : Except IngressError IngressGateChain :=
  buildIngressGateChainFromOverlay S Dict.empty none

end

/-! ## What blocks an input -/

/-- The gate denies the input or has it reviewed. -/
def IngressGate.Blocks (gate : IngressGate) (userInput : String) : Prop :=
  ∃ decision, gate userInput = some decision ∧ decision.decision ≠ .allow

theorem decision_apply (telemetry : AllowTelemetry) (decision : IngressDecision) :
    (telemetry.apply decision).decision = decision.decision := rfl

theorem decision_evaluateFrom_ne_allow_iff {userInput : String} {gates : List IngressGate}
    (telemetry : AllowTelemetry) :
    (evaluateFrom userInput telemetry gates).decision ≠ .allow ↔
      ∃ gate ∈ gates, IngressGate.Blocks gate userInput := by
  induction gates generalizing telemetry with
  | nil => simp [evaluateFrom, decision_apply]
  | cons gate gates ih =>
    simp only [evaluateFrom, List.mem_cons, exists_eq_or_imp]
    cases hgate : gate userInput with
    | none =>
      have hpasses : ¬IngressGate.Blocks gate userInput := by
        rintro ⟨decision, hdecision, -⟩
        rw [hgate] at hdecision
        cases hdecision
      rw [or_iff_right hpasses]
      exact ih telemetry
    | some decision =>
      have hblocks : IngressGate.Blocks gate userInput ↔ decision.decision ≠ .allow := by
        simp [IngressGate.Blocks, hgate]
      by_cases hallow : decision.decision = .allow
      · rw [or_iff_right (by rw [hblocks]; exact not_not_intro hallow)]
        simp only [if_pos hallow]
        exact ih _
      · simp only [if_neg hallow, decision_apply]
        exact iff_of_true hallow (.inl (hblocks.mpr hallow))

/-- **A chain blocks what one of its gates blocks.** -/
theorem decision_evaluate_ne_allow_iff (chain : IngressGateChain) (userInput : String) :
    (chain.evaluate userInput).decision ≠ .allow ↔
      ∃ gate ∈ chain.gates, IngressGate.Blocks gate userInput :=
  decision_evaluateFrom_ne_allow_iff {}

section
variable {S : IngressSystem} {userInput : String}

theorem blocks_maxInputCharsGate_iff {maxChars : InputLimit} :
    IngressGate.Blocks (maxInputCharsGate S maxChars) userInput ↔
      maxChars.chars < userInput.length := by
  have hmax : max maxChars.chars 1 = maxChars.chars := max_eq_left maxChars.pos
  rw [← not_le, IngressGate.Blocks, maxInputCharsGate, hmax]
  by_cases h : (userInput.length : Int) ≤ maxChars.chars <;> simp [h]

theorem blocks_promptInjectionHeuristicGate_iff {phrases : List String} :
    IngressGate.Blocks (promptInjectionHeuristicGate S phrases) userInput ↔
      ∃ phrase ∈ phrases, phrase ≠ "" ∧ Text.contains phrase (S.lower userInput) = true := by
  rw [IngressGate.Blocks, promptInjectionHeuristicGate]
  cases hfind : phrases.find? fun phrase ↦
      phrase ≠ "" && Text.contains phrase (S.lower userInput) with
  | none =>
    rw [List.find?_eq_none] at hfind
    simpa using hfind
  | some phrase =>
    have hmatches := List.find?_some hfind
    simp only [Bool.and_eq_true, decide_eq_true_eq] at hmatches
    exact iff_of_true ⟨_, rfl, PolicyAction.noConfusion⟩
      ⟨phrase, List.mem_of_find?_eq_some hfind, hmatches⟩

/-- What the baseline blocks: nothing, too much, and the phrases of the baseline. -/
theorem default_blocks_iff {baseline : IngressGateChain}
    (hbaseline : buildDefaultIngressGateChain S = .ok baseline) :
    (baseline.evaluate userInput).decision ≠ .allow ↔
      IngressGate.Blocks emptyInputGate userInput ∨ 8000 < (userInput.length : Int) ∨
        ∃ phrase ∈ baselinePromptInjectionPhrases, S.lower (Text.strip phrase) ≠ "" ∧
          Text.contains (S.lower (Text.strip phrase)) (S.lower userInput) = true := by
  simp only [buildDefaultIngressGateChain, buildIngressGateChainFromOverlay, resolve_empty,
    bind_eq_ok] at hbaseline
  obtain ⟨resolution, hresolution, hbaseline⟩ := hbaseline
  obtain rfl := Except.ok.inj hresolution
  obtain rfl := Except.ok.inj hbaseline
  have hclassifier : ¬IngressGate.Blocks
      (classifierGate S (defaultResolution S).classifier none) userInput := by
    rintro ⟨decision, hdecision, -⟩
    simp [classifierGate, ingressClassifierHeuristicGate, IngressClassifierSettings.enabled,
      defaultResolution] at hdecision
  have hrules : ¬IngressGate.Blocks
      (customIngressRulesGate S (defaultResolution S).customRules) userInput := by
    simp [IngressGate.Blocks, customIngressRulesGate, defaultResolution]
  have hplugin : ¬IngressGate.Blocks
      (signedPluginIngressGate S (defaultResolution S).signedPlugin) userInput := by
    simp [IngressGate.Blocks, signedPluginIngressGate, defaultResolution]
  rw [decision_evaluate_ne_allow_iff]
  simp only [IngressProfileResolution.chain, List.mem_cons, List.not_mem_nil, or_false,
    exists_eq_or_imp, exists_eq_left, hclassifier, hrules, hplugin, blocks_maxInputCharsGate_iff,
    blocks_promptInjectionHeuristicGate_iff, false_or]
  simp [defaultResolution, InputLimit.ofPos]

/-- **Overlays never weaken the baseline.**  For every overlay that is accepted, every external
classifier, whatever it returns or raises, and every input: what the chain without an overlay denies
or has reviewed, the chain of the overlay denies or has reviewed too. -/
theorem overlay_never_weakens (overlay : Overlay)
    (externalClassifierAdapter : Option ExternalClassifierAdapter) (userInput : String)
    {baseline chain : IngressGateChain} (hbaseline : buildDefaultIngressGateChain S = .ok baseline)
    (hchain : buildIngressGateChainFromOverlay S overlay externalClassifierAdapter = .ok chain)
    (hblocks : (baseline.evaluate userInput).decision ≠ .allow) :
    (chain.evaluate userInput).decision ≠ .allow := by
  rw [buildIngressGateChainFromOverlay, bind_eq_ok] at hchain
  obtain ⟨resolution, hresolution, hchain⟩ := hchain
  obtain rfl := Except.ok.inj hchain
  obtain ⟨hlimit, hphrases⟩ := baseline_of_resolve hresolution
  rw [decision_evaluate_ne_allow_iff]
  -- Each gate of the baseline that can block has its own successor in the chain.
  rcases (default_blocks_iff hbaseline).mp hblocks with hempty | hlong | ⟨phrase, hphrase, hshown⟩
  · exact ⟨emptyInputGate, by simp [IngressProfileResolution.chain], hempty⟩
  · refine ⟨maxInputCharsGate S resolution.maxInputChars,
      by simp [IngressProfileResolution.chain], ?_⟩
    exact blocks_maxInputCharsGate_iff.mpr (hlimit.trans_lt hlong)
  · refine ⟨promptInjectionHeuristicGate S resolution.promptInjectionPhrases,
      by simp [IngressProfileResolution.chain], ?_⟩
    exact blocks_promptInjectionHeuristicGate_iff.mpr ⟨_, hphrases phrase hphrase, hshown⟩

end

/-- The strict profile with a shorter limit and a classifier that only watches. -/
def strictOverlay : Overlay :=
  ((Dict.empty.set "ingress_profile" (.str "Strict")).set "ingress_max_input_chars"
    (.int 100)).set "ingress_classifier_mode" (.str "monitor")

/-- A text with a phrase of the baseline in it is reviewed under the overlay, though the external
classifier fails. -/
theorem overlay_never_weakens_strict :
    ∃ chain, buildIngressGateChainFromOverlay asciiSystem strictOverlay
        (some fun _ _ ↦ (.raised "TimeoutError" "", 2000)) = .ok chain ∧
      (chain.evaluate "Please jailbreak").decision ≠ .allow := by
  obtain ⟨baseline, hbaseline⟩ := exists_eq_ok
    (show (buildDefaultIngressGateChain asciiSystem).isOk = true by decide +kernel)
  obtain ⟨chain, hchain⟩ := exists_eq_ok
    (show (buildIngressGateChainFromOverlay asciiSystem strictOverlay
      (some fun _ _ ↦ (.raised "TimeoutError" "", 2000))).isOk = true by decide +kernel)
  refine ⟨chain, hchain, overlay_never_weakens _ _ _ hbaseline hchain ?_⟩
  rw [default_blocks_iff hbaseline]
  exact .inr (.inr ⟨"jailbreak", by decide, by decide +kernel⟩)

end Policies
end ExoBrain
