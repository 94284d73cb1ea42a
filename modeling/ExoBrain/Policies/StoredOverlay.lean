import ExoBrain.Policies.IngressGates

/-!
# What is stored is what was accepted

The settings of the ingress are resolved when a policy is set, and written into the overlay that is
stored (`ingress_profiles.py`).  Every turn resolves them again out of that.  So the second reading
has to find what the first one has made: texts that are trimmed, in lower case and without
repetitions, names instead of their aliases, and every default filled in.

For each kind of setting there is a form that the first reading leaves it in, and a text, a list or
a rule in this form is read as it is.

* `Settled` texts are trimmed and not empty, `NormalEntries` and `NormalPatterns` are lists.
* `NormalRule.resolveCustomRule_eq` is the same for a rule, with its default reason code and message.
* `resolve_patched`: what was accepted is resolved to the same settings again.
* `stored_overlay_enforced`: so the chain of a turn is the chain that was validated.

What `str.lower` and `str.upper` do beyond ASCII is a hypothesis, `LawfulCase`.
-/

set_option autoImplicit false

namespace ExoBrain
namespace Policies

open Checks

/-! ## Texts -/

/-- What is in lower case stays so, no blank comes to the ends of a text, and the letters of ASCII
have their capitals. -/
structure LawfulCase (T : IngressTexts) : Prop where
  lower_lower : ∀ s, T.lower (T.lower s) = T.lower s
  strip_lower : ∀ s, Text.strip s = s → Text.strip (T.lower s) = T.lower s
  upper_ascii : ∀ s : String, (∀ c ∈ s.toList, c.toNat < 128) →
    T.upper s = String.ofList (s.toList.map Char.toUpper)

theorem lawfulCase_asciiSystem : LawfulCase asciiSystem.toIngressTexts where
  lower_lower := Text.lower_lower
  strip_lower _ h := Text.strip_lower h
  upper_ascii _ _ := rfl

/-- A text without blanks at its ends that is not empty. -/
def Settled (s : String) : Prop := Text.strip s = s ∧ s ≠ ""

instance (s : String) : Decidable (Settled s) := inferInstanceAs (Decidable (_ ∧ _))

/-- Nothing has to be filled in for a text that is settled. -/
theorem Settled.ite_eq {s : String} (h : Settled s) (default : String) :
    (if Text.strip s = "" then default else Text.strip s) = s := by
  rw [h.1, if_neg h.2]

/-- A default that is settled settles a text. -/
theorem settled_ite {s default : String} (hs : Text.strip s = s) (h : Settled default) :
    Settled (if s = "" then default else s) := by
  split
  · exact h
  · rename_i hne
    exact ⟨hs, hne⟩

/-- Whatever stands between two settled texts. -/
theorem Settled.append {s t : String} (hs : Settled s) (ht : Settled t) (between : String) :
    Settled (s ++ between ++ t) := by
  obtain ⟨hstrip, hne⟩ := hs
  obtain ⟨hstrip', hne'⟩ := ht
  have hchars : s.toList ≠ [] := mt (fun h ↦ String.toList_inj.mp h) hne
  have hchars' : t.toList ≠ [] := mt (fun h ↦ String.toList_inj.mp h) hne'
  rw [Text.strip_eq_self_iff] at hstrip hstrip'
  constructor
  · rw [Text.strip_eq_self_iff, String.toList_append, String.toList_append]
    constructor
    · rw [List.append_assoc, List.head?_append_of_ne_nil _ hchars]
      exact hstrip.1
    · rw [List.getLast?_append_of_ne_nil _ hchars']
      exact hstrip'.2
  · intro hempty
    have hnil := congrArg String.toList hempty
    rw [String.toList_append, String.toList_append] at hnil
    exact hchars' (List.append_eq_nil_iff.mp hnil).2

section
variable {S : IngressSystem}

theorem textOf_str (s default : String) : S.textOf (some (.str s)) default = Text.strip s := rfl

theorem textOr_str {s : String} (h : s ≠ "") (default : String) :
    S.textOr (some (.str s)) default = Text.strip s := by
  rw [IngressTexts.textOr]
  simp [Value.truth, h, Value.toStr]

theorem strip_textOf (found : Option Value) (default : String) :
    Text.strip (S.textOf found default) = S.textOf found default :=
  Text.strip_strip _

theorem strip_textOr (found : Option Value) (default : String) :
    Text.strip (S.textOr found default) = S.textOr found default :=
  Text.strip_strip _

/-! ## Lists of texts -/

/-- Entries as the loop over phrases or signals leaves them. -/
structure NormalEntries (S : IngressSystem) (l : List String) : Prop where
  nodup : l.Nodup
  entry : ∀ value ∈ l, S.lower (Text.strip value) = value ∧ value ≠ "" ∧ value.length ≤ 160

/-- The loop leaves its entries in this form. -/
theorem normalEntries_of_normalizeEntries (hS : LawfulCase S.toIngressTexts)
    {tooLong : IngressError} {raw : List Value} {l : List String}
    (h : normalizeEntries S tooLong raw = .ok l) : NormalEntries S l := by
  refine foldlM_invariant ?_ h ⟨List.nodup_nil, by simp⟩
  intro normalized item next hnormal hnext
  dsimp only at hnext
  split_ifs at hnext with hblank hlong hrepeated
  · obtain rfl := Except.ok.inj hnext
    exact hnormal
  · obtain rfl := Except.ok.inj hnext
    exact hnormal
  · obtain rfl := Except.ok.inj hnext
    constructor
    · rw [← List.concat_eq_append, List.nodup_concat]
      exact ⟨hrepeated, hnormal.nodup⟩
    · intro value hvalue
      rcases List.mem_append.mp hvalue with hold | hnew
      · exact hnormal.entry value hold
      · obtain rfl := List.mem_singleton.mp hnew
        refine ⟨?_, hblank, Nat.not_lt.mp hlong⟩
        rw [hS.strip_lower _ (Text.strip_strip _), hS.lower_lower]

/-- Entries in this form are read as they are. -/
theorem NormalEntries.normalizeEntries_eq {l : List String} (h : NormalEntries S l)
    (tooLong : IngressError) : normalizeEntries S tooLong (l.map .str) = .ok l := by
  refine foldlM_collect fun before value after hl ↦ ?_
  obtain ⟨hlower, hne, hlength⟩ := h.entry value (hl ▸ List.mem_append_cons_self)
  have hfresh : value ∉ before := fun hmem ↦
    List.disjoint_of_nodup_append (hl ▸ h.nodup) hmem List.mem_cons_self
  dsimp only [Value.toStr]
  rw [hlower, if_neg hne, if_neg (Nat.not_lt.mpr hlength), if_neg hfresh]

/-- Different texts of ASCII in lower case are in this form. -/
theorem normalEntries_of_ascii {l : List String} (hnodup : l.Nodup)
    (h : ∀ s ∈ l, Settled s ∧ s.length ≤ 160 ∧ ∀ c ∈ s.toList, c.toNat < 128 ∧ c.toLower = c) :
    NormalEntries S l := by
  refine ⟨hnodup, fun value hvalue ↦ ?_⟩
  obtain ⟨⟨hstrip, hne⟩, hlength, hascii⟩ := h value hvalue
  exact ⟨S.lower_strip_eq_self hstrip hascii, hne, hlength⟩

/-- Patterns as the loop over the patterns of a rule leaves them. -/
def NormalPatterns (l : List String) : Prop := ∀ pattern ∈ l, Settled pattern ∧ pattern.length ≤ 256

theorem normalPatterns_of_normalizePatterns {tooLong : IngressError} {raw : List Value}
    {l : List String} (h : normalizePatterns S tooLong raw = .ok l) : NormalPatterns l := by
  refine foldlM_invariant ?_ h (by simp [NormalPatterns])
  intro normalized item next hnormal hnext
  dsimp only at hnext
  split_ifs at hnext with hblank hlong
  · obtain rfl := Except.ok.inj hnext
    exact hnormal
  · obtain rfl := Except.ok.inj hnext
    intro pattern hpattern
    rcases List.mem_append.mp hpattern with hold | hnew
    · exact hnormal pattern hold
    · obtain rfl := List.mem_singleton.mp hnew
      exact ⟨⟨Text.strip_strip _, hblank⟩, Nat.not_lt.mp hlong⟩

theorem NormalPatterns.normalizePatterns_eq {l : List String} (h : NormalPatterns l)
    (tooLong : IngressError) : normalizePatterns S tooLong (l.map .str) = .ok l := by
  refine foldlM_collect fun before pattern after hl ↦ ?_
  obtain ⟨⟨hstrip, hne⟩, hlength⟩ := h pattern (hl ▸ List.mem_append_cons_self)
  dsimp only [Value.toStr]
  rw [hstrip, if_neg hne, if_neg (Nat.not_lt.mpr hlength)]

/-! ## Rules -/

/-- The names that may stand for an action, a way to match, a mode or a profile. -/
def settingNames : List String :=
  ["deny", "escalate", "contains_any", "regex_any", "off", "shadow", "enforce", "baseline", "strict",
    "hardened"]

theorem settingNames_plain : ∀ s ∈ settingNames,
    Text.strip s = s ∧ ∀ c ∈ s.toList, c.toNat < 128 ∧ c.toLower = c := by
  decide +kernel

/-- They are read as they are. -/
theorem lower_strip_of_mem {names : List String} (hnames : names ⊆ settingNames) {s : String}
    (hs : s ∈ names) : S.lower (Text.strip s) = s := by
  obtain ⟨hstrip, hlower⟩ := settingNames_plain s (hnames hs)
  exact S.lower_strip_eq_self hstrip hlower

/-- The defaults, and what other defaults begin and end with, are settled. -/
theorem settled_defaults : ∀ s ∈ ["security-review", "heuristic-ingress-v1",
    "INGRESS_CUSTOM_RULE_", "Ingress custom rule '", "' matched input content."], Settled s := by
  decide +kernel

theorem settled_securityReview : Settled "security-review" := settled_defaults _ (by simp)

theorem settled_upper (hS : LawfulCase S.toIngressTexts) {action : String}
    (haction : action ∈ ["deny", "escalate"]) : Settled ("_" ++ S.upper action) := by
  simp only [List.mem_cons, List.not_mem_nil, or_false] at haction
  rcases haction with rfl | rfl
  · rw [hS.upper_ascii "deny" (by decide)]
    decide
  · rw [hS.upper_ascii "escalate" (by decide)]
    decide

/-- The default reason code is settled, whatever the rule is called. -/
theorem settled_defaultCustomRuleReasonCode (hS : LawfulCase S.toIngressTexts) (ruleId : String)
    {action : String} (haction : action ∈ ["deny", "escalate"]) :
    Settled (defaultCustomRuleReasonCode S ruleId action) := by
  have hfirst : Settled "INGRESS_CUSTOM_RULE_" := settled_defaults _ (by simp)
  unfold defaultCustomRuleReasonCode
  dsimp only
  rw [String.append_assoc]
  exact hfirst.append (settled_upper hS haction) _

/-- So is the default message. -/
theorem settled_defaultMessage (ruleId : String) :
    Settled ("Ingress custom rule '" ++ ruleId ++ "' matched input content.") := by
  have hfirst : Settled "Ingress custom rule '" := settled_defaults _ (by simp)
  have hlast : Settled "' matched input content." := settled_defaults _ (by simp)
  exact hfirst.append hlast ruleId

/-- A rule as it is resolved. -/
structure NormalRule (S : IngressSystem) (rule : IngressRule) : Prop where
  ruleId : Settled rule.ruleId
  action : rule.action ∈ ["deny", "escalate"]
  matchType : rule.matchType ∈ ["contains_any", "regex_any"]
  patterns : NormalPatterns rule.patterns
  patterns_ne_nil : rule.patterns ≠ []
  patterns_le : rule.patterns.length ≤ 20
  regex : rule.matchType = "regex_any" →
    validateRegexPatterns S rule.ruleId rule.patterns = .ok ()
  reasonCode : Settled rule.reasonCode
  message : Settled rule.message
  reviewChannel : Settled rule.reviewChannel

/-- Every rule that is resolved is in this form, and is called like none before it. -/
theorem normalRule_of_resolveCustomRule (hS : LawfulCase S.toIngressTexts) {index : Nat}
    {seenRuleIds : List String} {rulePayload : Value} {rule : IngressRule}
    (h : resolveCustomRule S index seenRuleIds rulePayload = .ok rule) :
    NormalRule S rule ∧ rule.ruleId ∉ seenRuleIds := by
  simp only [resolveCustomRule, bind_eq_ok, check_eq_ok, require_eq_ok] at h
  obtain ⟨entries, -, -, hne, -, hfresh, -, haction, -, hmatch, rawPatterns, -, patterns, hpatterns,
    -, hpatternsNe, -, hcount, h⟩ := h
  have hruleId := strip_textOf (S := S) (Value.lookup "rule_id" entries) ""
  have hreason := strip_textOf (S := S) (Value.lookup "reason_code" entries) ""
  have hmessage := strip_textOf (S := S) (Value.lookup "message" entries) ""
  have hchannel := strip_textOf (S := S) (Value.lookup "review_channel" entries) "security-review"
  have hnormal := normalPatterns_of_normalizePatterns hpatterns
  -- from here on it does not matter where the texts were found
  generalize S.textOf (Value.lookup "rule_id" entries) "" = ruleId at *
  generalize S.lower (S.textOf (Value.lookup "action" entries) "") = action at *
  generalize S.lower (S.textOf (Value.lookup "match_type" entries) "") = matchType at *
  generalize S.textOf (Value.lookup "reason_code" entries) "" = reasonCode at *
  generalize S.textOf (Value.lookup "message" entries) "" = message at *
  generalize S.textOf (Value.lookup "review_channel" entries) "security-review" = channel at *
  have hreason := settled_ite hreason (settled_defaultCustomRuleReasonCode hS ruleId haction)
  have hmessage := settled_ite hmessage (settled_defaultMessage ruleId)
  have hchannel := settled_ite hchannel settled_securityReview
  split at h
  · rw [bind_eq_ok] at h
    obtain ⟨checked, hregex, h⟩ := h
    obtain rfl := Except.ok.inj h
    exact ⟨⟨⟨hruleId, hne⟩, haction, hmatch, hnormal, hpatternsNe, hcount, fun _ ↦ hregex, hreason,
      hmessage, hchannel⟩, hfresh⟩
  · rename_i hcontains
    obtain rfl := Except.ok.inj h
    exact ⟨⟨⟨hruleId, hne⟩, haction, hmatch, hnormal, hpatternsNe, hcount,
      fun hregex ↦ absurd hregex hcontains, hreason, hmessage, hchannel⟩, hfresh⟩

/-- **A rule in this form is read as it was written.** -/
theorem NormalRule.resolveCustomRule_eq {rule : IngressRule} (h : NormalRule S rule) (index : Nat)
    {seenRuleIds : List String} (hfresh : rule.ruleId ∉ seenRuleIds) :
    resolveCustomRule S index seenRuleIds rule.toOverlayPayload = .ok rule := by
  have haction : S.lower (Text.strip rule.action) = rule.action :=
    lower_strip_of_mem (by simp [settingNames]) h.action
  have hmatch : S.lower (Text.strip rule.matchType) = rule.matchType :=
    lower_strip_of_mem (by simp [settingNames]) h.matchType
  obtain ⟨entries, hpayload, hruleId, hactionEntry, hmatchEntry, hpatterns, hreason, hmessage, hcase,
    hchannel⟩ : ∃ entries, rule.toOverlayPayload = .dict entries ∧
      Value.lookup "rule_id" entries = some (.str rule.ruleId) ∧
      Value.lookup "action" entries = some (.str rule.action) ∧
      Value.lookup "match_type" entries = some (.str rule.matchType) ∧
      Value.lookup "patterns" entries = some (.list (rule.patterns.map .str)) ∧
      Value.lookup "reason_code" entries = some (.str rule.reasonCode) ∧
      Value.lookup "message" entries = some (.str rule.message) ∧
      Value.lookup "case_sensitive" entries = some (.bool rule.caseSensitive) ∧
      Value.lookup "review_channel" entries = some (.str rule.reviewChannel) :=
    ⟨_, rfl, rfl, rfl, rfl, rfl, rfl, rfl, rfl, rfl⟩
  have hid : Text.strip rule.ruleId = rule.ruleId := h.ruleId.1
  simp only [resolveCustomRule, hpayload, bind_eq_ok, check_eq_ok, require_eq_ok]
  refine ⟨entries, rfl, ?_⟩
  simp only [hruleId, hactionEntry, hmatchEntry, hpatterns, hreason, hmessage, hcase, hchannel,
    textOf_str, hid, haction, hmatch, h.reasonCode.ite_eq, h.message.ite_eq, h.reviewChannel.ite_eq,
    Option.getD_some, Value.truth]
  refine ⟨(), h.ruleId.2, (), hfresh, (), h.action, (), h.matchType, _, rfl, _,
    h.patterns.normalizePatterns_eq _, (), h.patterns_ne_nil, (), h.patterns_le, ?_⟩
  split
  · rename_i hregex
    exact bind_eq_ok.mpr ⟨(), h.regex hregex, rfl⟩
  · rfl

theorem resolveCustomRulesFrom_payload (hS : LawfulCase S.toIngressTexts) {index : Nat}
    {seenRuleIds : List String} {raw : List Value} {rules : List IngressRule}
    (h : resolveCustomRulesFrom S index seenRuleIds raw = .ok rules) :
    resolveCustomRulesFrom S index seenRuleIds (rules.map IngressRule.toOverlayPayload) =
      .ok rules := by
  induction raw generalizing index seenRuleIds rules with
  | nil =>
    obtain rfl := Except.ok.inj h
    rfl
  | cons rulePayload raw ih =>
    simp only [resolveCustomRulesFrom, bind_eq_ok] at h
    obtain ⟨rule, hrule, rest, hrest, h⟩ := h
    obtain rfl := Except.ok.inj h
    obtain ⟨hnormal, hfresh⟩ := normalRule_of_resolveCustomRule hS hrule
    simp only [List.map_cons, resolveCustomRulesFrom, bind_eq_ok]
    exact ⟨rule, hnormal.resolveCustomRule_eq index hfresh, rest, ih hrest, rfl⟩

/-- The rules are read as they were written. -/
theorem resolveCustomRules_payload (hS : LawfulCase S.toIngressTexts) {rawRules : Value}
    {rules : List IngressRule} (h : resolveCustomRules S rawRules = .ok rules) :
    resolveCustomRules S (.list (rules.map IngressRule.toOverlayPayload)) = .ok rules := by
  unfold resolveCustomRules at h
  split at h
  · obtain rfl := Except.ok.inj h
    rfl
  · simp only [bind_eq_ok, check_eq_ok, require_eq_ok] at h
    obtain ⟨raw, -, -, hcount, h⟩ := h
    simp only [resolveCustomRules, bind_eq_ok, check_eq_ok, require_eq_ok]
    refine ⟨_, rfl, (), ?_, resolveCustomRulesFrom_payload hS h⟩
    rw [List.length_map, length_resolveCustomRulesFrom h]
    exact hcount

/-! ## The other settings -/

/-- A list of phrases or signals that is accepted. -/
structure AcceptedEntries (S : IngressSystem) (l : List String) : Prop
    extends NormalEntries S l where
  ne_nil : l ≠ []
  length_le : l.length ≤ 64

theorem resolvePromptInjectionPhrases_list (hS : LawfulCase S.toIngressTexts) {rawPhrases : Value}
    {baselinePhrases phrases : List String} (hbaseline : AcceptedEntries S baselinePhrases)
    (h : resolvePromptInjectionPhrases S rawPhrases baselinePhrases = .ok phrases) :
    resolvePromptInjectionPhrases S (.list (phrases.map .str)) baselinePhrases = .ok phrases := by
  have haccepted : AcceptedEntries S phrases ∧ ∀ phrase ∈ baselinePhrases, phrase ∈ phrases := by
    unfold resolvePromptInjectionPhrases at h
    split at h
    · obtain rfl := Except.ok.inj h
      exact ⟨hbaseline, fun phrase hphrase ↦ hphrase⟩
    · simp only [bind_eq_ok, check_eq_ok] at h
      obtain ⟨raw, -, normalized, hnormalized, -, hne, -, hsubset, -, hlength, h⟩ := h
      obtain rfl := Except.ok.inj h
      exact ⟨⟨normalEntries_of_normalizeEntries hS hnormalized, hne, hlength⟩, hsubset⟩
  obtain ⟨haccepted, hsubset⟩ := haccepted
  simp only [resolvePromptInjectionPhrases, bind_eq_ok, check_eq_ok, require_eq_ok]
  exact ⟨_, rfl, phrases, haccepted.normalizeEntries_eq _, (), haccepted.ne_nil, (), hsubset, (),
    haccepted.length_le, rfl⟩

/-- The phrases of the profiles and the signals are read as they are. -/
theorem defaultPhrases_plain : ∀ l ∈ defaultClassifierSignals ::
    ingressProfileBaselines.map fun profile ↦ profile.2.promptInjectionPhrases,
    l.Nodup ∧ l ≠ [] ∧ l.length ≤ 64 ∧ ∀ s ∈ l, Settled s ∧ s.length ≤ 160 ∧
      ∀ c ∈ s.toList, c.toNat < 128 ∧ c.toLower = c := by
  decide +kernel

theorem acceptedEntries_defaultClassifierSignals : AcceptedEntries S defaultClassifierSignals := by
  obtain ⟨hnodup, hne, hlength, hascii⟩ := defaultPhrases_plain _ List.mem_cons_self
  exact ⟨normalEntries_of_ascii hnodup hascii, hne, hlength⟩

theorem resolveClassifierSignals_list (hS : LawfulCase S.toIngressTexts) {rawSignals : Value}
    {signals : List String} (h : resolveClassifierSignals S rawSignals = .ok signals) :
    resolveClassifierSignals S (.list (signals.map .str)) = .ok signals := by
  have haccepted : AcceptedEntries S signals := by
    unfold resolveClassifierSignals at h
    split at h
    · obtain rfl := Except.ok.inj h
      exact acceptedEntries_defaultClassifierSignals
    · simp only [bind_eq_ok, check_eq_ok] at h
      obtain ⟨raw, -, normalized, hnormalized, -, hne, -, hlength, h⟩ := h
      obtain rfl := Except.ok.inj h
      exact ⟨normalEntries_of_normalizeEntries hS hnormalized, hne, hlength⟩
  simp only [resolveClassifierSignals, bind_eq_ok, check_eq_ok, require_eq_ok]
  exact ⟨_, rfl, signals, haccepted.normalizeEntries_eq _, (), haccepted.ne_nil, (),
    haccepted.length_le, rfl⟩

/-- A threshold is read as the number it was read as before. -/
theorem resolveThreshold_float {rawThreshold : Value} {threshold : String}
    (h : resolveThreshold rawThreshold = .ok threshold) :
    resolveThreshold (.float threshold) = .ok threshold := by
  simp only [resolveThreshold, bind_eq_ok, check_eq_ok] at h ⊢
  obtain ⟨text, -, -, hrange, h⟩ := h
  obtain rfl := Except.ok.inj h
  exact ⟨text, rfl, (), hrange, rfl⟩

/-- The limit is read as the value it was read from. -/
theorem resolveMaxInputChars_value {rawValue : Value} {baseline limit : InputLimit}
    (h : resolveMaxInputChars rawValue baseline = .ok limit) :
    resolveMaxInputChars limit.value baseline = .ok limit := by
  have hread : inputLimit? limit.value = some limit := by
    unfold inputLimit?
    split
    · rename_i hnone
      rw [limit.int?_value] at hnone
      cases hnone
    · rename_i n hn
      have hchars : limit.chars = n := Option.some.inj (limit.int?_value.symm.trans hn)
      subst hchars
      rw [dif_pos limit.pos]
  unfold resolveMaxInputChars
  split
  · rename_i hnone
    have hvalue := limit.int?_value
    rw [hnone] at hvalue
    cases hvalue
  · simp only [bind_eq_ok, check_eq_ok, require_eq_ok]
    exact ⟨limit, hread, (), chars_le_of_resolve h, rfl⟩

/-- The plugin is found under its own reference. -/
theorem resolveOptionalSignedIngressPlugin_ref {pluginRef : Option Value} {coreMajorVersion : Int}
    {resolved : Option SignedIngressPlugin}
    (h : resolveOptionalSignedIngressPlugin S pluginRef coreMajorVersion = .ok resolved) :
    resolveOptionalSignedIngressPlugin S
        (some (.str ((resolved.map fun plugin ↦ plugin.manifest.pluginRef).getD "")))
        coreMajorVersion = .ok resolved := by
  have href := strip_textOr (S := S) pluginRef ""
  rw [resolveOptionalSignedIngressPlugin] at h ⊢
  generalize S.textOr pluginRef "" = normalizedRef at *
  split at h
  · obtain rfl := Except.ok.inj h
    rfl
  · rename_i hne
    cases hresolved : resolveSignedIngressPlugin S normalizedRef coreMajorVersion with
    | error error =>
      rw [hresolved] at h
      cases h
    | ok plugin =>
      rw [hresolved] at h
      obtain rfl := Except.ok.inj h
      have hsame : plugin.manifest.pluginRef = normalizedRef := by
        simp only [resolveSignedIngressPlugin, bind_eq_ok, require_eq_ok] at hresolved
        obtain ⟨-, -, found, hfound, -, -, -, -, -, -, -, -, hplugin⟩ := hresolved
        obtain rfl := Except.ok.inj hplugin
        have hfoundRef := List.find?_some hfound
        rw [decide_eq_true_eq, href] at hfoundRef
        exact hfoundRef
      rw [Option.map_some, Option.getD_some, hsame, textOr_str hne, href, if_neg hne, hresolved]
      rfl

/-- The mode is one of three, and none of these is a name for another. -/
theorem classifierModeAlias_of_mem {mode : String} (h : mode ∈ ["off", "shadow", "enforce"]) :
    classifierModeAlias (S.lower (Text.strip mode)) = mode := by
  rw [lower_strip_of_mem (by simp [settingNames]) h]
  simp only [List.mem_cons, List.not_mem_nil, or_false] at h
  rcases h with rfl | rfl | rfl <;> decide

/-- A profile is found under its name. -/
theorem normalizeProfileName_of_mem {profile : String × IngressProfileBaseline}
    (h : profile ∈ ingressProfileBaselines) :
    normalizeProfileName S (some (.str profile.1)) = .ok profile := by
  have hname : profile.1 ∈ ["baseline", "strict", "hardened"] := List.mem_map_of_mem (f := Prod.fst) h
  have hne : profile.1 ≠ "" := by
    intro hempty
    rw [hempty] at hname
    revert hname
    decide
  unfold normalizeProfileName
  dsimp only
  rw [textOr_str hne, lower_strip_of_mem (by simp [settingNames]) hname, require_eq_ok]
  simp only [ingressProfileBaselines, List.mem_cons, List.not_mem_nil, or_false] at h
  rcases h with rfl | rfl | rfl
  · rfl
  · rfl
  · rfl

/-- The phrases of a profile are accepted as they are. -/
theorem acceptedEntries_of_mem {profile : String × IngressProfileBaseline}
    (h : profile ∈ ingressProfileBaselines) :
    AcceptedEntries S
      (profile.2.promptInjectionPhrases.map fun phrase ↦ S.lower (Text.strip phrase)) := by
  obtain ⟨hnodup, hne, hlength, hascii⟩ := defaultPhrases_plain _ (List.mem_cons_of_mem _
    (List.mem_map_of_mem (f := fun profile ↦ profile.2.promptInjectionPhrases) h))
  have hmap : (profile.2.promptInjectionPhrases.map fun phrase ↦ S.lower (Text.strip phrase)) =
      profile.2.promptInjectionPhrases := by
    refine (List.map_congr_left fun phrase hphrase ↦ ?_).trans (List.map_id _)
    obtain ⟨⟨hstrip, -⟩, -, hlower⟩ := hascii phrase hphrase
    exact S.lower_strip_eq_self hstrip hlower
  rw [hmap]
  exact ⟨normalEntries_of_ascii hnodup hascii, hne, hlength⟩

/-! ## Everything together -/

variable {overlay stored : Overlay}

/-- The endpoint and the timeout are read as they were written. -/
theorem resolveExternalClassifierConfig_stored {external : String × Int}
    (h : resolveExternalClassifierConfig S overlay = .ok external)
    (hendpoint : stored.get? "ingress_classifier_external_endpoint" = some (.str external.1))
    (htimeout : stored.get? "ingress_classifier_external_timeout_ms" = some (.int external.2)) :
    resolveExternalClassifierConfig S stored = .ok external := by
  have hstrip := strip_textOr (S := S) (overlay.get? "ingress_classifier_external_endpoint") ""
  simp only [resolveExternalClassifierConfig, bind_eq_ok, check_eq_ok] at h ⊢
  generalize S.textOr (overlay.get? "ingress_classifier_external_endpoint") "" = endpoint at *
  obtain ⟨-, hhttps, -, hlength, timeoutMs, -, -, hrange, h⟩ := h
  obtain rfl := Except.ok.inj h
  have hread : S.textOr (some (.str endpoint)) "" = endpoint := by
    by_cases hne : endpoint = ""
    · subst hne
      rfl
    · rw [textOr_str hne, hstrip]
  rw [hendpoint, htimeout, hread]
  exact ⟨(), hhttps, (), hlength, timeoutMs, rfl, (), hrange, rfl⟩

/-- The settings of the classifier are read as they were written. -/
theorem resolveClassifierSettings_stored (hS : LawfulCase S.toIngressTexts)
    {classifier : IngressClassifierSettings}
    (h : resolveClassifierSettings S overlay = .ok classifier)
    (hmode : stored.get? "ingress_classifier_mode" = some (.str classifier.mode))
    (hthreshold : stored.get? "ingress_classifier_threshold" = some (.float classifier.threshold))
    (hversion : stored.get? "ingress_classifier_model_version" =
      some (.str classifier.modelVersion))
    (hsignals : stored.get? "ingress_classifier_signals" =
      some (.list (classifier.signals.map .str)))
    (hchannel : stored.get? "ingress_classifier_review_channel" =
      some (.str classifier.reviewChannel))
    (hendpoint : stored.get? "ingress_classifier_external_endpoint" =
      some (.str classifier.externalEndpoint))
    (htimeout : stored.get? "ingress_classifier_external_timeout_ms" =
      some (.int classifier.externalTimeoutMs)) :
    resolveClassifierSettings S stored = .ok classifier := by
  have hsettledVersion := settled_ite (strip_textOf (S := S)
    (overlay.get? "ingress_classifier_model_version") "heuristic-ingress-v1")
    (settled_defaults "heuristic-ingress-v1" (by simp))
  have hsettledChannel := settled_ite (strip_textOf (S := S)
    (overlay.get? "ingress_classifier_review_channel") "security-review") settled_securityReview
  simp only [resolveClassifierSettings, bind_eq_ok, check_eq_ok] at h
  generalize classifierModeAlias (rawClassifierMode S overlay "off") = mode at *
  generalize (if S.textOf (overlay.get? "ingress_classifier_model_version") "heuristic-ingress-v1" =
      "" then "heuristic-ingress-v1"
    else S.textOf (overlay.get? "ingress_classifier_model_version") "heuristic-ingress-v1") =
      version at *
  generalize (if S.textOf (overlay.get? "ingress_classifier_review_channel") "security-review" = ""
      then "security-review"
    else S.textOf (overlay.get? "ingress_classifier_review_channel") "security-review") =
      channel at *
  obtain ⟨-, hmem, threshold, hreadThreshold, -, hversionLength, -, hchannelLength, signals,
    hreadSignals, external, hexternal, h⟩ := h
  obtain rfl := Except.ok.inj h
  simp only [resolveClassifierSettings, rawClassifierMode, hmode, hthreshold, hversion, hchannel,
    Overlay.get, hsignals, textOf_str, Option.getD_some, hsettledVersion.ite_eq,
    hsettledChannel.ite_eq, classifierModeAlias_of_mem hmem, bind_eq_ok, check_eq_ok]
  exact ⟨(), hmem, threshold, resolveThreshold_float hreadThreshold, (), hversionLength, (),
    hchannelLength, signals, resolveClassifierSignals_list hS hreadSignals, external,
    resolveExternalClassifierConfig_stored hexternal hendpoint htimeout, rfl⟩

/-- **A stored overlay is resolved to what it was made of.** -/
theorem resolve_patched (hS : LawfulCase S.toIngressTexts) {resolution : IngressProfileResolution}
    (h : resolveIngressProfileSettings S overlay = .ok resolution) :
    resolveIngressProfileSettings S (resolution.patched overlay) = .ok resolution := by
  have hread {key : String} {v : Value} (hv : resolution.toOverlayPatch.get? key = some v) :
      (resolution.patched overlay).get? key = some v := by
    rw [IngressProfileResolution.patched, Dict.get?_update, hv]
    rfl
  have hget {key : String} {v : Value} (hv : resolution.toOverlayPatch.get? key = some v) :
      (resolution.patched overlay).get key = v := by
    rw [Overlay.get, hread hv]
    rfl
  simp only [resolveIngressProfileSettings, bind_eq_ok] at h ⊢
  obtain ⟨profile, hprofile, limit, hlimit, phrases, hphrases, classifier, hclassifier, plugin,
    hplugin, rules, hrules, h⟩ := h
  obtain rfl := Except.ok.inj h
  have hmem : profile ∈ ingressProfileBaselines := by
    rw [normalizeProfileName, require_eq_ok] at hprofile
    exact List.mem_of_find?_eq_some hprofile
  refine ⟨profile, ?_, limit, ?_, phrases, ?_, classifier, ?_, plugin, ?_, rules, ?_, rfl⟩
  · rw [hread rfl]
    exact normalizeProfileName_of_mem hmem
  · rw [hget rfl]
    exact resolveMaxInputChars_value hlimit
  · rw [hget rfl]
    exact resolvePromptInjectionPhrases_list hS (acceptedEntries_of_mem hmem) hphrases
  · exact resolveClassifierSettings_stored hS hclassifier (hread rfl) (hread rfl) (hread rfl)
      (hread rfl) (hread rfl) (hread rfl) (hread rfl)
  · rw [hread rfl]
    exact resolveOptionalSignedIngressPlugin_ref hplugin
  · rw [hget rfl]
    exact resolveCustomRules_payload hS hrules

/-- **What is accepted is what is enforced.**  For every overlay that is accepted: the overlay that
is stored for it, with its settings written back, is accepted as well and resolved to the same
settings, so a turn passes the very gates that were made when the policy was set. -/
theorem stored_overlay_enforced (hS : LawfulCase S.toIngressTexts)
    {resolution : IngressProfileResolution}
    (h : resolveIngressProfileSettings S overlay = .ok resolution) :
    resolveIngressProfileSettings S (resolution.patched overlay) = .ok resolution ∧
      ∀ externalClassifierAdapter,
        buildIngressGateChainFromOverlay S (resolution.patched overlay) externalClassifierAdapter =
          buildIngressGateChainFromOverlay S overlay externalClassifierAdapter := by
  have hstored := resolve_patched hS h
  refine ⟨hstored, fun externalClassifierAdapter ↦ ?_⟩
  rw [buildIngressGateChainFromOverlay, buildIngressGateChainFromOverlay, hstored, h]

end

/-- Aliases, blanks and capitals, a phrase too many, and a rule without a reason code. -/
def untidyOverlay : Overlay :=
  ((((Dict.empty.set "ingress_profile" (.str " Default ")).set "ingress_classifier_mode"
    (.str "Monitor")).set "ingress_classifier_signals" (.list [.str " Leak ", .str "leak"])).set
    "signed_gate_plugin_ref" (.str "plugin://trusted/signed-v1 ")).set "ingress_custom_rules"
    (.list [.dict [("rule_id", .str "no exports"), ("action", .str "DENY"),
      ("match_type", .str "contains_any"), ("patterns", .list [.str " export "])]])

/-- All of it is resolved, and found again. -/
theorem stored_overlay_enforced_untidy :
    ∃ resolution, resolveIngressProfileSettings asciiSystem untidyOverlay = .ok resolution ∧
      resolveIngressProfileSettings asciiSystem (resolution.patched untidyOverlay) =
        .ok resolution ∧
      ∀ externalClassifierAdapter,
        buildIngressGateChainFromOverlay asciiSystem (resolution.patched untidyOverlay)
            externalClassifierAdapter =
          buildIngressGateChainFromOverlay asciiSystem untidyOverlay externalClassifierAdapter := by
  obtain ⟨resolution, hresolution⟩ := exists_eq_ok
    (show (resolveIngressProfileSettings asciiSystem untidyOverlay).isOk = true by decide +kernel)
  exact ⟨resolution, hresolution, stored_overlay_enforced lawfulCase_asciiSystem hresolution⟩

end Policies
end ExoBrain
