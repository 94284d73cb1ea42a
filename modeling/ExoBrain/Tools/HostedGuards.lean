import ExoBrain.Tools.Executor

/-!
# Guards of the two ways to run a tool

A tool may require arguments, forbid calls that change state, and have keys of its output redacted.
When the handler is called in the process of the executor, its decorators see to that.  The hosted
runtime has no decorators, and the executor takes the result of its adapter as it is.

* `Guarded` says of a result that it respects what the metadata of the tool ask for.
* `in_process_guarded`: all results of the first way do.
* `hosted_guarded_iff`: those of the second way do, whatever the adapter returns, only if there is
  nothing to see to.  `mapped_guarded_iff` says the same of the one adapter that returns what a
  worker has sent, `_map_result` in `connector_runtime.py`.
-/

set_option autoImplicit false

namespace ExoBrain
namespace Tools

open Byoc (ByocToolResultEnvelope)
open Policies (PolicyDecision)
open Raising Raising.Comp

variable {σ η : Type}

/-! ## Guards -/

/-- A result respects the metadata of a tool. -/
structure GuardedBy (X : DeterministicToolExecutor σ η) (descriptor : ToolDescriptor η)
    (call : ToolCallContext) (result : ToolResult) : Prop where
  arguments : result.status = .success →
    ∀ requiredArgs, X.metadataList descriptor "required_args" = .ok requiredArgs →
      HasArguments requiredArgs (DeterministicToolExecutor.kwargs call)
  authorized : result.status = .success →
    Authorized (DeterministicToolExecutor.allowStateChanging descriptor) call.isStateChanging
  redacted : ∀ redactKeys, X.metadataList descriptor "redact_keys" = .ok redactKeys →
    ∀ value, result.result.get? "value" = some value → Redacted redactKeys value

/-- **A result respects the metadata of the tool that was called.** -/
def Guarded (X : DeterministicToolExecutor σ η) (call : ToolCallContext) (result : ToolResult) :
    Prop :=
  ∀ descriptor, X.registry.get? call.toolName = some descriptor →
    GuardedBy X descriptor call result

/-- There is nothing to see to when the tool is called. -/
structure Harmless (X : DeterministicToolExecutor σ η) (descriptor : ToolDescriptor η)
    (call : ToolCallContext) : Prop where
  arguments : ∀ requiredArgs, X.metadataList descriptor "required_args" = .ok requiredArgs →
    HasArguments requiredArgs (DeterministicToolExecutor.kwargs call)
  authorized :
    Authorized (DeterministicToolExecutor.allowStateChanging descriptor) call.isStateChanging
  noRedaction : ∀ redactKeys, X.metadataList descriptor "redact_keys" = .ok redactKeys →
    ∀ key, Value.str key ∉ redactKeys

/-- A result that is no success and has no payload. -/
def Plain (result : ToolResult) : Prop := result.status ≠ .success ∧ result.result = .none

/-- A call gets as far as to a tool. -/
def Admitted (beforeToolCall : ToolCallContext → Comp σ Raised PolicyDecision)
    (call : ToolCallContext) (s : ExecutorState σ) : Prop :=
  DeterministicToolExecutor.validateCall call = none ∧
    ∃ decision env, beforeToolCall call s.env = (.ok decision, env) ∧ decision.decision = .allow

variable {X : DeterministicToolExecutor σ η} {descriptor : ToolDescriptor η}
  {call : ToolCallContext} {result : ToolResult}
  {beforeToolCall : ToolCallContext → Comp σ Raised PolicyDecision}

theorem Plain.guardedBy (h : Plain result) : GuardedBy X descriptor call result := by
  refine ⟨fun hsuccess ↦ absurd hsuccess h.1, fun hsuccess ↦ absurd hsuccess h.1,
    fun redactKeys _ value hvalue ↦ ?_⟩
  rw [h.2] at hvalue
  cases hvalue

/-- Without anything to see to, every result is in order. -/
theorem Harmless.guardedBy (h : Harmless X descriptor call) : GuardedBy X descriptor call result :=
  ⟨fun _ ↦ h.arguments, fun _ ↦ h.authorized,
    fun redactKeys hkeys _ _ key hmem ↦ absurd hmem (h.noRedaction redactKeys hkeys key)⟩

/-! ## The policy after a call -/

/-- The policy lets a result pass, or makes a plain one of it. -/
theorem afterToolCall_eq (result : ToolResult) :
    afterToolCall result = result ∨ Plain (afterToolCall result) := by
  have hplain (reason : String) : Plain (postcheckError result reason) := ⟨nofun, rfl⟩
  rw [afterToolCall]
  split
  · exact .inr (hplain _)
  · split
    · exact .inr (hplain _)
    · split
      · exact .inr (hplain _)
      · split
        · exact .inr (hplain _)
        · exact .inl rfl

theorem afterToolCall_of_plain (h : Plain result) : Plain (afterToolCall result) := by
  rcases afterToolCall_eq result with heq | hplain
  · rw [heq]
    exact h
  · exact hplain

theorem yields_afterPolicy (hpolicy : X.policy = deterministicFirst beforeToolCall)
    (result : ToolResult) : Yields (X.afterPolicy result) (· = afterToolCall result) := by
  rw [DeterministicToolExecutor.afterPolicy, hpolicy]
  exact yields_zoom (yields_pure rfl)

theorem yields_postchecked (hpolicy : X.policy = deterministicFirst beforeToolCall)
    (result : ToolResult) : Yields (X.postchecked result) (· = afterToolCall result) := by
  refine yields_bind yields_true fun _ _ ↦ ?_
  refine yields_bind (yields_afterPolicy hpolicy result) fun postchecked hpostchecked ↦ ?_
  refine yields_bind yields_true fun _ _ ↦ yields_bind yields_true fun _ _ ↦ ?_
  exact yields_pure hpostchecked

theorem yields_recover (hpolicy : X.policy = deterministicFirst beforeToolCall)
    (decision : PolicyDecision) (exc : Raised) : Yields (X.recover call decision exc) Plain := by
  refine yields_bind yields_true fun _ _ ↦ (yields_afterPolicy hpolicy _).mono fun result h ↦ ?_
  rw [h]
  exact afterToolCall_of_plain ⟨nofun, rfl⟩

/-! ## What is returned -/

/-- **What is returned** is plain, or was returned for an admitted call by its tool. -/
theorem execute_eq_ok (hpolicy : X.policy = deterministicFirst beforeToolCall)
    {s t : ExecutorState σ} (h : X.execute call s = (.ok result, t)) :
    Plain result ∨ Admitted beforeToolCall call s ∧
      ∃ decision s', X.runTool call decision s' = (.ok result, t) := by
  obtain ⟨_, s₁, hinc, h⟩ := bind_eq_ok.mp h
  have henv : s₁.env = s.env := by
    have h₁ : (X.inc "tool.call.total" s).2 = s₁ := congrArg Prod.snd hinc
    rw [← h₁, DeterministicToolExecutor.env_inc]
  cases herror : DeterministicToolExecutor.validateCall call with
  | some error =>
    rw [herror] at h
    refine .inl (yields_bind yields_true (fun _ _ ↦ ?_) s₁ result t h)
    refine (yields_afterPolicy hpolicy error).mono fun result heq ↦ ?_
    rw [heq]
    refine afterToolCall_of_plain ?_
    rw [DeterministicToolExecutor.validateCall] at herror
    split at herror
    · obtain rfl := Option.some.inj herror
      exact ⟨nofun, rfl⟩
    · split at herror
      · obtain rfl := Option.some.inj herror
        exact ⟨nofun, rfl⟩
      · split at herror
        · cases herror
        · obtain rfl := Option.some.inj herror
          exact ⟨nofun, rfl⟩
  | none =>
    rw [herror] at h
    obtain ⟨decision, s₂, hdecision, h⟩ := bind_eq_ok.mp h
    by_cases hallowed : decision.decision = .allow
    · rw [if_neg (not_not_intro hallowed)] at h
      rcases rescue_eq_ok.mp h with h | ⟨exc, s', -, h⟩
      · obtain ⟨env, hbefore, -⟩ := zoom_eq_ok.mp hdecision
        rw [hpolicy, henv] at hbefore
        exact .inr ⟨⟨herror, decision, env, hbefore, hallowed⟩, decision, s₂, h⟩
      · exact .inl (yields_recover hpolicy decision exc s' result t h)
    · rw [if_pos hallowed] at h
      refine .inl (yields_bind yields_true (fun _ _ ↦ ?_) s₂ result t h)
      refine (yields_afterPolicy hpolicy _).mono fun result heq ↦ ?_
      rw [heq]
      refine afterToolCall_of_plain ⟨?_, X.contracts.blockedResult_result ..⟩
      rw [X.contracts.blockedResult_status]
      nofun

/-! ## In the process of the executor -/

/-- The executor with the policy of the platform and without hosted runtime. -/
def DeterministicToolExecutor.inProcess (X : DeterministicToolExecutor σ η)
    (beforeToolCall : ToolCallContext → Comp σ Raised PolicyDecision) :
    DeterministicToolExecutor σ η :=
  { X with
    policy := deterministicFirst beforeToolCall
    enableHostedRuntime := false }

theorem yields_runInProcess (hpolicy : X.policy = deterministicFirst beforeToolCall)
    (decision : PolicyDecision) :
    Yields (X.runInProcess call decision descriptor) (GuardedBy X descriptor call) := by
  refine yields_bind (yields_ofExcept fun requiredArgs h ↦ h) fun requiredArgs hrequired ↦ ?_
  refine yields_bind yields_true fun maxAttempts _ ↦ ?_
  refine yields_bind (yields_ofExcept fun redactKeys h ↦ h) fun redactKeys hredact ↦ ?_
  refine yields_bind (yields_zoom (yields_applyExecutionDecorators _ _ _ _ _ _ _)) fun output houtput ↦ ?_
  refine (yields_postchecked hpolicy _).mono fun result hresult ↦ ?_
  obtain ⟨⟨harguments, hauthorized⟩, hredacted⟩ := houtput
  rw [hresult]
  rcases afterToolCall_eq _ with heq | hplain
  · rw [heq]
    refine ⟨fun _ requiredArgs' h ↦ ?_, fun _ ↦ hauthorized, fun redactKeys' h value hvalue ↦ ?_⟩
    · obtain rfl := Except.ok.inj (hrequired.symm.trans h)
      exact harguments
    · obtain rfl := Except.ok.inj (hredact.symm.trans h)
      obtain rfl := Option.some.inj hvalue
      exact hredacted
  · exact hplain.guardedBy

/-- **In its own process** the executor returns only what respects the metadata of the tool. -/
theorem in_process_guarded (X : DeterministicToolExecutor σ η)
    (beforeToolCall : ToolCallContext → Comp σ Raised PolicyDecision) (call : ToolCallContext) :
    Yields ((X.inProcess beforeToolCall).execute call) (Guarded X call) := by
  intro s result t h descriptor hfound
  rcases execute_eq_ok (X := X.inProcess beforeToolCall) rfl h with hplain | ⟨-, decision, s', h⟩
  · exact hplain.guardedBy
  · obtain ⟨descriptor', _, hresolve, h⟩ := bind_eq_ok.mp h
    obtain ⟨hresolve, -⟩ := ofExcept_eq_ok.mp hresolve
    rw [DeterministicToolExecutor.resolve, DeterministicToolExecutor.inProcess, hfound] at hresolve
    obtain rfl := Except.ok.inj hresolve
    have hguarded : GuardedBy (X.inProcess beforeToolCall) descriptor call result :=
      yields_runInProcess rfl decision _ result t h
    exact ⟨hguarded.arguments, hguarded.authorized, hguarded.redacted⟩

/-! ## In the hosted runtime -/

/-- The executor with the policy of the platform and the adapter of a hosted runtime. -/
def DeterministicToolExecutor.hosted (X : DeterministicToolExecutor σ η)
    (beforeToolCall : ToolCallContext → Comp σ Raised PolicyDecision)
    (adapter : ToolExecutionAdapter σ η) : DeterministicToolExecutor σ η :=
  { X with
    policy := deterministicFirst beforeToolCall
    executionAdapter := some adapter
    enableHostedRuntime := true }

theorem yields_runHosted {adapter : ToolExecutionAdapter σ η} {P : ToolResult → Prop}
    (hpolicy : X.policy = deterministicFirst beforeToolCall)
    (h : Yields (adapter call descriptor) P) :
    Yields (X.runHosted call adapter descriptor) fun result ↦ ∃ r, P r ∧
      result = afterToolCall { r with
        result := DeterministicToolExecutor.withRuntime (X.runtimeProjection descriptor)
          r.result } :=
  yields_bind (yields_zoom h) fun r hr ↦
    (yields_postchecked hpolicy _).mono fun _ heq ↦ ⟨r, hr, heq⟩

theorem postchecked_fst (hpolicy : X.policy = deterministicFirst beforeToolCall)
    (s : ExecutorState σ) : (X.postchecked result s).1 = .ok (afterToolCall result) := by
  refine fst_bind (congrArg Prod.fst (X.incIf_eq _ _ s)) (fst_bind (a := afterToolCall result) ?_ ?_)
  · rw [DeterministicToolExecutor.afterPolicy, hpolicy]
    rfl
  · exact fst_bind (congrArg Prod.fst (X.incIf_eq _ _ _))
      (fst_bind (congrArg Prod.fst (X.incIf_eq _ _ _)) rfl)

/-- What the adapter returns for an admitted call is returned, up to the policy. -/
theorem execute_hosted {adapter : ToolExecutionAdapter σ η} {s : ExecutorState σ}
    (hadmitted : Admitted beforeToolCall call s)
    (hfound : X.registry.get? call.toolName = some descriptor)
    (hadapter : ∀ env, (adapter call descriptor env).1 = .ok result) :
    ((X.hosted beforeToolCall adapter).execute call s).1 = .ok (afterToolCall { result with
      result := DeterministicToolExecutor.withRuntime (X.runtimeProjection descriptor)
        result.result }) := by
  obtain ⟨hvalid, decision, env, hbefore, hallowed⟩ := hadmitted
  refine fst_bind rfl ?_
  rw [hvalid]
  refine fst_bind (a := decision) ?_ ?_
  · rw [onEnv, zoom, DeterministicToolExecutor.env_inc]
    exact congrArg Prod.fst hbefore
  · rw [if_neg (not_not_intro hallowed)]
    refine fst_rescue (fst_bind (a := descriptor) ?_ ?_)
    · rw [DeterministicToolExecutor.resolve, DeterministicToolExecutor.hosted, hfound]
      rfl
    · exact fst_bind (hadapter _) (postchecked_fst (X := X.hosted beforeToolCall adapter) rfl _)

/-- The entry `value` of a result is not touched. -/
theorem get?_withRuntime (projection : List (String × Value)) (entries : List (String × Value)) :
    ∃ entries', DeterministicToolExecutor.withRuntime projection (.dict entries) = .dict entries' ∧
      Value.lookup "value" entries' = Value.lookup "value" entries := by
  unfold DeterministicToolExecutor.withRuntime
  split
  · exact ⟨entries, rfl, rfl⟩
  · rename_i entries' _ heq
    obtain rfl := Value.dict.inj heq
    have hkept : Value.lookup "value" (Value.setDefault "runtime" (.dict []) entries) =
        Value.lookup "value" entries := by
      rw [Value.lookup_setDefault, if_neg (by decide)]
    dsimp only
    split
    · exact ⟨_, rfl, by rw [Value.lookup_assign, if_neg (by decide), hkept]⟩
    · exact ⟨_, rfl, hkept⟩
  · rename_i hnot
    exact absurd rfl (hnot entries)

/-- A successful result with an entry. -/
structure Leaks (key : String) (result : ToolResult) : Prop where
  success : result.status = .success
  deterministic : result.modeUsed = .deterministic
  audited : ∃ audit, result.audit = some audit ∧ Text.strip audit.correlationId ≠ ""
  payload : ∃ entries value v, result.result = .dict entries ∧
    Value.lookup "value" entries = some value ∧ value.get? key = some v ∧ v ≠ redactionMarker

theorem Leaks.withRuntime {key : String} (h : Leaks key result)
    (projection : List (String × Value)) : Leaks key { result with
      result := DeterministicToolExecutor.withRuntime projection result.result } := by
  obtain ⟨entries, value, v, hentries, hvalue, hv, hne⟩ := h.payload
  obtain ⟨entries', heq, hkept⟩ := get?_withRuntime projection entries
  refine ⟨h.success, h.deterministic, h.audited, entries', value, v, ?_, hkept.trans hvalue, hv, hne⟩
  rw [hentries]
  exact heq

theorem Leaks.afterToolCall_eq {key : String} (h : Leaks key result) :
    afterToolCall result = result := by
  obtain ⟨audit, haudit, hnonblank⟩ := h.audited
  obtain ⟨entries, -, -, hentries, -⟩ := h.payload
  rw [afterToolCall, haudit]
  dsimp only
  rw [if_neg hnonblank, if_neg (not_not_intro h.deterministic), h.success, hentries]

/-- **What leaks** under any key is returned by the hosted runtime as it is, so there has to be
nothing to see to. -/
theorem harmless_of_leaks (adapter : String → ToolExecutionAdapter σ η) {s : ExecutorState σ}
    (hadmitted : Admitted beforeToolCall call s)
    (hfound : X.registry.get? call.toolName = some descriptor)
    (hadapter : ∀ key, ∃ result, (∀ env, (adapter key call descriptor env).1 = .ok result) ∧
      Leaks key result)
    (hguarded : ∀ key result, ((X.hosted beforeToolCall (adapter key)).execute call s).1 =
      .ok result → Guarded X call result) : Harmless X descriptor call := by
  have hreturned (key : String) : ∃ result, Leaks key result ∧ GuardedBy X descriptor call result := by
    obtain ⟨result, hresult, hleaks⟩ := hadapter key
    have hexecute := execute_hosted hadmitted hfound hresult
    have hkept := hleaks.withRuntime (X.runtimeProjection descriptor)
    rw [hkept.afterToolCall_eq] at hexecute
    exact ⟨_, hkept, hguarded key _ hexecute descriptor hfound⟩
  obtain ⟨result, hleaks, hby⟩ := hreturned ""
  refine ⟨hby.arguments hleaks.success, hby.authorized hleaks.success, fun redactKeys hkeys key ↦ ?_⟩
  obtain ⟨result, hleaks, hby⟩ := hreturned key
  obtain ⟨entries, value, v, hentries, hvalue, hv, hne⟩ := hleaks.payload
  intro hmem
  refine hne (hby.redacted redactKeys hkeys value ?_ key hmem v hv)
  rw [hentries]
  exact hvalue

/-- A successful result with the entry `key`. -/
def leakedResult (key : String) : ToolResult where
  callId := ""
  toolName := ""
  status := .success
  result := .dict [("value", .dict [(key, .str "secret")])]
  audit := some { correlationId := "call" }

theorem leaks_leakedResult (key : String) : Leaks key (leakedResult key) := by
  refine ⟨rfl, rfl, ⟨_, rfl, by decide⟩, _, .dict [(key, .str "secret")], .str "secret", rfl, rfl, ?_,
    ?_⟩
  · exact (Value.lookup_cons key (key, .str "secret") []).trans (if_pos rfl)
  · exact fun h ↦ absurd (Value.str.inj h) (by decide)

/-- **In the hosted runtime** all that an executor may return respects the metadata of the tool
exactly if there is nothing to see to, or the call does not get as far as to a tool. -/
theorem hosted_guarded_iff (X : DeterministicToolExecutor σ η)
    (beforeToolCall : ToolCallContext → Comp σ Raised PolicyDecision) (call : ToolCallContext)
    (s : ExecutorState σ) :
    (∀ adapter result, ((X.hosted beforeToolCall adapter).execute call s).1 = .ok result →
        Guarded X call result) ↔
      (Admitted beforeToolCall call s →
        ∀ descriptor, X.registry.get? call.toolName = some descriptor →
          Harmless X descriptor call) := by
  constructor
  · intro hguarded hadmitted descriptor hfound
    exact harmless_of_leaks (fun key _ _ ↦ pure (leakedResult key)) hadmitted hfound
      (fun key ↦ ⟨leakedResult key, fun _ ↦ rfl, leaks_leakedResult key⟩) fun _ ↦ hguarded _
  · intro hharmless adapter result h descriptor hfound
    rcases execute_eq_ok (X := X.hosted beforeToolCall adapter) rfl (Prod.ext h rfl) with
      hplain | ⟨hadmitted, -⟩
    · exact hplain.guardedBy
    · exact (hharmless hadmitted descriptor hfound).guardedBy

/-! ## What a worker has sent -/

/-- `_map_result`, for the output that a worker has sent. -/
def mapResult (call : ToolCallContext) (tenantId : String) (result : ByocToolResultEnvelope)
    (output : List (String × Value)) : ToolResult where
  callId := call.callId
  toolName := call.toolName
  status := Byoc.toolStatus result.status
  result :=
    if Byoc.toolStatus result.status = .success then .dict [
      ("value", .dict output),
      ("runtime", .dict [
        ("backend_id", .str "byoc_pull_worker_runtime"),
        ("job_id", .str result.jobId),
        ("idempotency_key", .str result.idempotencyKey),
        ("tenant_id", .str tenantId),
        ("tool_version", .str result.toolVersion),
        ("artifact_bundle_hash_sha256", .str result.artifactBundleHashSha256),
        ("artifact_bundle_signature_hmac_sha256", .str result.artifactBundleSignatureHmacSha256),
        ("artifact_signature_version", .str result.artifactSignatureVersion)])]
    else .none
  error :=
    if Byoc.toolStatus result.status = .success then {}
    else
      { code := result.errorCode
        category := "tool_runtime"
        message := result.errorMessage
        retryable := result.retryable }
  audit := some { correlationId := call.callId }

/-- **What a worker has sent** respects the metadata of the tool, whatever it is, exactly if there
is nothing to see to.  A call without an identifier is stopped by the policy. -/
theorem mapped_guarded_iff (X : DeterministicToolExecutor σ η)
    (beforeToolCall : ToolCallContext → Comp σ Raised PolicyDecision) (call : ToolCallContext)
    (tenantId : String) (s : ExecutorState σ) :
    (∀ sent output result, ((X.hosted beforeToolCall fun call _ ↦
          pure (mapResult call tenantId sent output)).execute call s).1 = .ok result →
        Guarded X call result) ↔
      (Admitted beforeToolCall call s → Text.strip call.callId ≠ "" →
        ∀ descriptor, X.registry.get? call.toolName = some descriptor →
          Harmless X descriptor call) := by
  constructor
  · intro hguarded hadmitted hcall descriptor hfound
    let sent : ByocToolResultEnvelope := ⟨"", "", "", "", "", "success", "", "", "", false, "", "", "",
      "", "", ""⟩
    refine harmless_of_leaks (fun key call _ ↦
      pure (mapResult call tenantId sent [(key, .str "secret")])) hadmitted hfound
      (fun key ↦ ⟨_, fun _ ↦ rfl, rfl, rfl, ⟨_, rfl, hcall⟩, _, .dict [(key, .str "secret")],
        .str "secret", rfl, rfl, ?_, ?_⟩) fun key ↦ hguarded sent [(key, .str "secret")]
    · exact (Value.lookup_cons key (key, .str "secret") []).trans (if_pos rfl)
    · exact fun h ↦ absurd (Value.str.inj h) (by decide)
  · intro hharmless sent output result h descriptor hfound
    rcases execute_eq_ok (X := X.hosted beforeToolCall _) rfl (Prod.ext h rfl) with
      hplain | ⟨hadmitted, decision, s', htool⟩
    · exact hplain.guardedBy
    · by_cases hcall : Text.strip call.callId = ""
      · obtain ⟨descriptor', s₁, -, htool⟩ := bind_eq_ok.mp htool
        obtain ⟨mapped, haudit, rfl⟩ := yields_runHosted (X := X.hosted beforeToolCall _) rfl
          (yields_pure (P := fun r ↦ r.audit = some { correlationId := call.callId }) rfl) s₁ result _
          htool
        refine Plain.guardedBy ?_
        rw [afterToolCall, haudit]
        dsimp only
        rw [if_pos hcall]
        exact ⟨nofun, rfl⟩
      · exact (hharmless hadmitted hcall descriptor hfound).guardedBy

/-- A policy that allows every call. -/
def allowEvery (call : ToolCallContext) : Comp Unit Raised PolicyDecision :=
  pure {
    decision := .allow
    reasonCode := "LOW_RISK_ALLOWED"
    message := "Low-risk read-only tool allowed."
    audit := ⟨"policy-risk-gate-v1", "1.0.0", call.callId⟩ }

/-- An executor with the tool `greet`, which requires a name and redacts the token. -/
def greetExecutor : DeterministicToolExecutor Unit Unit where
  texts := asciiTools
  contracts := plainContracts
  listObject _ := .ok []
  callHandler _ _ := pure .none
  registry := Dict.empty.set "greet" {
    name := "greet"
    handler := ()
    metadata := (Dict.empty.set "required_args" (.list [.str "name"])).set "redact_keys"
      (.list [.str "token"]) }
  policy := deterministicFirst allowEvery

/-- A call of `greet` without a name. -/
def greetCall : ToolCallContext where
  callId := "call-1"
  toolName := "greet"

/-- The result of a worker. -/
def greetResult : ByocToolResultEnvelope where
  jobId := "job-1"
  tenantId := "acme"
  runId := "run-1"
  callId := "call-1"
  toolName := "greet"

/-- The token that a worker sends is returned, and no name is asked for. -/
theorem worker_output_unguarded :
    ∃ result, ((greetExecutor.hosted allowEvery fun call _ ↦ pure
        (mapResult call "acme" greetResult [("token", .str "s3cr3t")])).execute greetCall
          { env := () }).1 = .ok result ∧ ¬Guarded greetExecutor greetCall result := by
  refine ⟨_, execute_hosted ⟨rfl, _, _, rfl, rfl⟩ rfl fun _ ↦ rfl, fun h ↦ ?_⟩
  have hredacted := (h _ rfl).redacted [.str "token"] rfl (.dict [("token", .str "s3cr3t")]) rfl
    "token" (List.mem_singleton.mpr rfl) (.str "s3cr3t") rfl
  exact absurd (Value.str.inj hredacted) (by decide)

end Tools
end ExoBrain
