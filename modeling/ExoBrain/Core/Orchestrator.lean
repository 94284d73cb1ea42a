import ExoBrain.Lib.Effects

/-!
# One turn of the orchestrator

`Orchestrator.run_turn` (`orchestrator.py`) stands between three parties: the runtime adapter, which
streams the events of a turn and a further stream of events for every batch of tool results it is
given; the policy middleware; and the tool executor.  None of them is part of the model.  A
`TurnHost` is any implementation of what `run_turn` calls of them, over one state that they all may
share, so it may answer in any way, and differently every time; it may also raise.

`runTurn` is the method as a program of that environment.  What it does is logged as a list of
`TurnAction`s: the events as the adapter emits them, what is asked of the policy, and what is
yielded to the caller.  An endless stream is cut off after a number of events that is a parameter.

The types of the events and of the tool calls come from a package of contracts
(`exo_brain_core_contracts`), and only the fields that `run_turn` reads are modelled; `Contracts`
holds the factories of that package, with what is relied on of them.
-/

set_option autoImplicit false

namespace ExoBrain
namespace Core

open Effects Effects.Prog

/-! ## Contracts -/

/-- `RuntimeEventType`. -/
inductive RuntimeEventType
  | assistantMessage
  | outputDelta
  | toolIntent
  | toolProgress
  | runComplete
  | error
deriving DecidableEq, Repr

/-- `RiskTier`. -/
inductive RiskTier
  | low
  | medium
  | high
  | critical
deriving DecidableEq, Repr

/-- `PolicyAction`. -/
inductive PolicyAction
  | allow
  | deny
  | escalate
deriving DecidableEq, Repr

/-- `ToolExecutionMode`. -/
inductive ToolExecutionMode
  | deterministic
  | providerNative
deriving DecidableEq, Repr

/-- `ToolStatus`. -/
inductive ToolStatus
  | success
  | error
  | timeout
  | cancelled
  | blocked
deriving DecidableEq, Repr

/-- The value of the enumeration. -/
def ToolStatus.value : ToolStatus → String
  | .success => "success"
  | .error => "error"
  | .timeout => "timeout"
  | .cancelled => "cancelled"
  | .blocked => "blocked"

/-- `ToolCallContext`, as far as a turn reads it. -/
structure ToolCallContext where
  callId : String
  toolName : String
  isStateChanging : Bool := false
  riskTier : RiskTier := .low
  requestedMode : Option ToolExecutionMode := none
deriving DecidableEq, Repr

/-- `PolicyDecision`, as far as a turn reads it. -/
structure PolicyDecision where
  decision : PolicyAction
  enforcedMode : Option ToolExecutionMode := none
deriving DecidableEq, Repr

/-- `ProviderCapabilityMap`, as far as a turn reads it. -/
structure ProviderCapabilityMap where
  /-- `should_force_deterministic()`. -/
  shouldForceDeterministic : Bool
deriving DecidableEq, Repr

/-- `ToolResult`, as far as a turn reads it. -/
structure ToolResult where
  callId : String
  status : ToolStatus
  errorCode : String := ""
deriving DecidableEq, Repr

/-- `RuntimeEvent`, as far as a turn reads it.  The payload is JSON text. -/
structure RuntimeEvent where
  eventType : RuntimeEventType
  runId : String := ""
  correlationId : String := ""
  toolCall : Option ToolCallContext := none
  payload : String := "\x7b\x7d"
deriving DecidableEq, Repr

/-- The tool call of an event that is an intent to make one. -/
def RuntimeEvent.intent? (event : RuntimeEvent) : Option ToolCallContext :=
  if event.eventType = .toolIntent then event.toolCall else none

/-- The fields of a progress event that differ from one to the next. -/
structure ToolProgress where
  callId : String
  toolName : String
  state : String
  toolStatus : String := ""
  errorCode : String := ""
  jobId : String := ""
  leaseToken : String := ""
  leaseExpiresAtEpoch : String := ""
  claimAttempt : String := ""
deriving DecidableEq, Repr

/-- The factories of the contracts package that `run_turn` uses. -/
structure Contracts where
  /-- `RuntimeEvent.tool_progress`. -/
  toolProgress : (sessionId runId correlationId : String) → ToolProgress → RuntimeEvent
  /-- `RuntimeEvent.error`. -/
  error : (sessionId runId code message correlationId : String) → RuntimeEvent
  /-- `blocked_result`. -/
  blockedResult : ToolCallContext → (reasonCode message : String) → ToolResult
  toolProgress_type : ∀ sessionId runId correlationId progress,
    (toolProgress sessionId runId correlationId progress).eventType = .toolProgress
  error_type : ∀ sessionId runId code message correlationId,
    (error sessionId runId code message correlationId).eventType = .error

/-! ## `mode_selector.py` -/

/-- `_requires_deterministic_envelope`, also spelled out in `select_execution_mode`. -/
def requiresDeterministicEnvelope (toolCall : ToolCallContext) : Bool :=
  toolCall.isStateChanging || toolCall.riskTier = .high || toolCall.riskTier = .critical

/-- `select_execution_mode`. -/
def selectExecutionMode (toolCall : ToolCallContext) (capabilityMap : ProviderCapabilityMap)
    (policyDecision : PolicyDecision) : ToolExecutionMode :=
  if policyDecision.decision ≠ .allow then .deterministic
  else if policyDecision.enforcedMode = some .deterministic then .deterministic
  else if requiresDeterministicEnvelope toolCall then .deterministic
  else if capabilityMap.shouldForceDeterministic then .deterministic
  else
    match policyDecision.enforcedMode with
    | some mode => mode
    | none =>
      if toolCall.requestedMode = some .deterministic then .deterministic else .providerNative

/-! ## The parties of a turn -/

/-- What `run_turn` calls of the adapter, the policy, the executor and the agent registry.  An
operation without an answer raises; a stream without a next event has ended. -/
structure TurnHost (σ : Type) where
  /-- `_apply_agent_handoff`: the code and the message of an error, if there is one. -/
  applyAgentHandoff : σ → Option (Option (String × String)) × σ
  startSession : σ → Option Unit × σ
  /-- The stream of `run_turn` of the adapter. -/
  nextEvent : σ → Option (Option RuntimeEvent) × σ
  submitToolResults : List ToolResult → σ → Option Unit × σ
  /-- The stream of the last `submit_tool_results`. -/
  nextFollowUp : σ → Option (Option RuntimeEvent) × σ
  getCapabilities : σ → Option ProviderCapabilityMap × σ
  beforeToolCall : ToolCallContext → σ → Option PolicyDecision × σ
  beforeOutput : String → σ → Option String × σ
  execute : ToolCallContext → σ → Option ToolResult × σ
  /-- `adapter_manages_progress_events(self._tool_executor.execution_adapter())`. -/
  adapterManagesProgressEvents : σ → Bool × σ
  /-- `drain_progress_events`, as `_emit_adapter_progress` renders it. -/
  drainProgressEvents : (callId : String) → σ → Option (List ToolProgress) × σ

/-- What a turn does, as far as it can be seen. -/
inductive TurnAction
  /-- The adapter emits an event, in the stream of the turn or in a follow-up stream. -/
  | emitted (followUp : Bool) (event : RuntimeEvent)
  /-- A tool call is passed to `before_tool_call`. -/
  | beforeToolCall (call : ToolCallContext)
  /-- What `before_tool_call` answered. -/
  | decided (call : ToolCallContext) (decision : PolicyDecision)
  /-- What `get_capabilities` answered. -/
  | capabilities (capabilityMap : ProviderCapabilityMap)
  /-- A tool call is passed to the executor. -/
  | executed (call : ToolCallContext)
  /-- Results are given back to the adapter. -/
  | submitted (results : List ToolResult)
  /-- An event is yielded to the caller. -/
  | yielded (event : RuntimeEvent)
deriving DecidableEq, Repr

/-! ## `Orchestrator` -/

namespace Orchestrator

variable {σ : Type} (contracts : Contracts) (host : TurnHost σ) (sessionId : String) (fuel : Nat)

/-- `_apply_output_policy`. -/
def applyOutputPolicy (event : RuntimeEvent) : Prog σ TurnAction RuntimeEvent :=
  if event.eventType = .outputDelta ∨ event.eventType = .runComplete then do
    let payload ← call (host.beforeOutput event.payload)
    pure { event with payload := payload }
  else pure event

/-- Give results back to the adapter, and yield what it has to say to them. -/
def relayFollowUps (results : List ToolResult) : Prog σ TurnAction Unit := do
  act (.submitted results)
  call (host.submitToolResults results)
  repeatUntil (do
    match ← call host.nextFollowUp with
    | none => pure (some ())
    | some followUp =>
      act (.emitted true followUp)
      let event ← applyOutputPolicy host followUp
      act (.yielded event)
      pure none) fuel

/-- Yield a progress event of a tool call. -/
def yieldProgress (event : RuntimeEvent) (progress : ToolProgress) : Prog σ TurnAction Unit :=
  act (.yielded (contracts.toolProgress sessionId event.runId event.correlationId progress))

/-- `_terminal_tool_state`. -/
def terminalToolState (status : ToolStatus) : String :=
  match status with
  | .success => "completed"
  | .timeout => "timed_out"
  | .cancelled => "cancelled"
  | _ => "failed"

/-- The branch for a tool call that the policy did not allow. -/
def handleDenied (event : RuntimeEvent) (toolCall : ToolCallContext) (useAdapterProgress : Bool) :
    Prog σ TurnAction Unit := do
  act (.executed toolCall)
  let blocked ← call (host.execute toolCall)
  if !useAdapterProgress then
    yieldProgress contracts sessionId event ⟨toolCall.callId, toolCall.toolName, "failed",
      blocked.status.value, blocked.errorCode, "", "", "", ""⟩
  relayFollowUps host fuel [blocked]

/-- The branch for deterministic execution. -/
def handleDeterministic (event : RuntimeEvent) (toolCall : ToolCallContext)
    (useAdapterProgress : Bool) : Prog σ TurnAction Unit := do
  if !useAdapterProgress then
    yieldProgress contracts sessionId event
      ⟨toolCall.callId, toolCall.toolName, "running", "", "", "", "", "", ""⟩
  act (.executed toolCall)
  let result ← call (host.execute toolCall)
  let drained ← if useAdapterProgress then call (host.drainProgressEvents toolCall.callId)
    else pure []
  drained.forM fun progress ↦ yieldProgress contracts sessionId event progress
  if drained = [] then
    yieldProgress contracts sessionId event ⟨toolCall.callId, toolCall.toolName,
      terminalToolState result.status, result.status.value, result.errorCode, "", "", "", ""⟩
  relayFollowUps host fuel [result]

/-- The branch for provider-native execution. -/
def handleProviderNative (event : RuntimeEvent) (toolCall : ToolCallContext) :
    Prog σ TurnAction Unit :=
  if requiresDeterministicEnvelope toolCall then
    relayFollowUps host fuel [contracts.blockedResult toolCall
      "PROVIDER_NATIVE_STATE_CHANGE_BLOCKED"
      ("Provider-native execution is blocked for state-changing or high-impact operations; " ++
        "a deterministic envelope is enforced.")]
  else do
    let event ← applyOutputPolicy host event
    act (.yielded event)

/-- The body of the main loop for an event that carries a tool call. -/
def handleIntent (event : RuntimeEvent) (toolCall : ToolCallContext) :
    Prog σ TurnAction Unit := do
  let useAdapterProgress ← call fun s ↦
    (some (host.adapterManagesProgressEvents s).1, (host.adapterManagesProgressEvents s).2)
  if !useAdapterProgress then
    yieldProgress contracts sessionId event
      ⟨toolCall.callId, toolCall.toolName, "queued", "", "", "", "", "", ""⟩
  act (.beforeToolCall toolCall)
  let decision ← call (host.beforeToolCall toolCall)
  act (.decided toolCall decision)
  if decision.decision ≠ .allow then
    handleDenied contracts host sessionId fuel event toolCall useAdapterProgress
  else
    let capabilityMap ← call host.getCapabilities
    act (.capabilities capabilityMap)
    if selectExecutionMode toolCall capabilityMap decision = .deterministic then
      handleDeterministic contracts host sessionId fuel event toolCall useAdapterProgress
    else handleProviderNative contracts host fuel event toolCall

/-- The body of the main loop. -/
def handleEvent (event : RuntimeEvent) : Prog σ TurnAction Unit := do
  act (.emitted false event)
  match event.intent? with
  | none =>
    let event ← applyOutputPolicy host event
    act (.yielded event)
  | some toolCall => handleIntent contracts host sessionId fuel event toolCall

/-- `run_turn`. -/
def runTurn (runId correlationId : String) : Prog σ TurnAction Unit := do
  match ← call host.applyAgentHandoff with
  | some (code, message) =>
    act (.yielded (contracts.error sessionId runId code message correlationId))
  | none =>
    call host.startSession
    repeatUntil (do
      match ← call host.nextEvent with
      | none => pure (some ())
      | some event =>
        handleEvent contracts host sessionId fuel event
        pure none) fuel

end Orchestrator

end Core
end ExoBrain
