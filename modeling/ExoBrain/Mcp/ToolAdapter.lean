import ExoBrain.Lib.Run
import ExoBrain.Tools.Executor

/-!
# Tools of MCP servers

`McpToolAdapter.execute` (`mcp_tool_adapter.py`) takes a tool call through the policy, a circuit
breaker, the registry of servers, a health check and the rules of the server's trust tier to the
client.  It waits twice, for the health check and for the tool, and other calls run meanwhile.

* An `Effect` is something that a call does to what all calls share, or to the outside;
  `McpState.apply` is what it changes.
* A call runs from one wait to the next: `execute`, `healthAnswered` and `toolAnswered` are the
  effects of each part, and the call as it goes on waiting, if it does.
* `step` is the machine of all calls.  What the client answers and what the policy decides are
  inputs.

The logger and the times of an execution are left out.  Compensation hooks are an effect, and what
they raise is dropped.
-/

set_option autoImplicit false

namespace ExoBrain
namespace Mcp

open Core (PolicyAction ToolStatus)
open Policies (PolicyDecision)
open Tools (ToolCallContext ToolContracts ToolResult ToolTexts)

/-! ## Exceptions -/

/-- An exception, with its text `str(exc)`, by the clauses that catch it. -/
inductive McpRaised
  | keyError (text : String)
  | valueError (text : String)
  | timeoutError (text : String)
  /-- An exception of another class. -/
  | exception (text : String)
deriving DecidableEq, Repr

/-- `str(exc)`. -/
def McpRaised.text : McpRaised → String
  | keyError text => text
  | valueError text => text
  | timeoutError text => text
  | exception text => text

/-! ## The registry of servers -/

/-- `McpTrustTier`. -/
inductive McpTrustTier
  | trusted
  | restricted
  | sandboxed
deriving DecidableEq, Repr

/-- The value of the enumeration. -/
def McpTrustTier.value : McpTrustTier → String
  | .trusted => "trusted"
  | .restricted => "restricted"
  | .sandboxed => "sandboxed"

/-- `McpHealthState`. -/
inductive McpHealthState
  | healthy
  | degraded
  | unavailable
deriving DecidableEq, Repr

/-- `McpServerRecord`, without the endpoint. -/
structure McpServerRecord where
  serverId : String
  trustTier : McpTrustTier
  enabled : Bool := true
  timeoutMs : Int := 30000
  metadata : List (String × Value) := []
deriving Repr

/-- `McpServerHealth`. -/
structure McpServerHealth where
  state : McpHealthState := .healthy
  reason : String := ""
deriving DecidableEq, Repr

/-- `McpRegistry`. -/
structure McpRegistry where
  servers : Dict String McpServerRecord := Dict.empty
  health : Dict String McpServerHealth := Dict.empty

namespace McpRegistry

/-- `register_server`. -/
def registerServer (record : McpServerRecord) (r : McpRegistry) : McpRegistry where
  servers := r.servers.set record.serverId record
  health := r.health.setDefault record.serverId {}

/-- The `KeyError` of a server that is not registered. -/
def notRegistered (isPrintable : Char → Bool) (serverId : String) : McpRaised :=
  .keyError (Value.reprStr isPrintable ("MCP server '" ++ serverId ++ "' is not registered"))

/-- `get_server`. -/
def getServer (isPrintable : Char → Bool) (serverId : String) (r : McpRegistry) :
    Except McpRaised McpServerRecord :=
  match r.servers.get? serverId with
  | none => .error (notRegistered isPrintable serverId)
  | some record =>
    if record.enabled = false then
      .error (.valueError ("MCP server '" ++ serverId ++ "' is disabled"))
    else
      let health := (r.health.get? serverId).getD {}
      if health.state = .unavailable then
        let reason := if health.reason ≠ "" then ": " ++ health.reason else ""
        .error (.valueError ("MCP server '" ++ serverId ++ "' is unavailable" ++ reason))
      else .ok record

/-- `set_server_health`, of a server that is registered. -/
def setServerHealth (serverId : String) (health : McpServerHealth) (r : McpRegistry) :
    McpRegistry :=
  { r with health := r.health.set serverId health }

end McpRegistry

/-! ## The circuit breaker -/

/-- `CircuitState`. -/
structure CircuitState where
  failures : Nat := 0
  isOpen : Bool := false
deriving DecidableEq, Repr

/-- `CircuitBreaker`.  A circuit is open once its failures have reached the threshold. -/
structure CircuitBreaker where
  failureThreshold : Nat
  states : Dict String CircuitState
  failureThreshold_pos : 0 < failureThreshold
  isOpen_iff : ∀ {key state}, states.get? key = some state →
    (state.isOpen = true ↔ failureThreshold ≤ state.failures)

namespace CircuitBreaker

/-- `__init__`. -/
def init (failureThreshold : Int := 3) : CircuitBreaker where
  failureThreshold := (max 1 failureThreshold).toNat
  states := Dict.empty
  failureThreshold_pos := by omega
  isOpen_iff h := nomatch h

/-- `allow`. -/
def allow (key : String) (b : CircuitBreaker) : Bool :=
  match b.states.get? key with
  | none => true
  | some state => !state.isOpen

/-- `record_success`. -/
def recordSuccess (key : String) (b : CircuitBreaker) : CircuitBreaker where
  failureThreshold := b.failureThreshold
  states := b.states.set key {}
  failureThreshold_pos := b.failureThreshold_pos
  isOpen_iff {key' state} h := by
    rw [Dict.get?_set] at h
    split at h
    · obtain rfl := Option.some.inj h
      have hpos := b.failureThreshold_pos
      simp only [Bool.false_eq_true, false_iff]
      omega
    · exact b.isOpen_iff h

/-- The failures that were recorded since the last success. -/
def failures (key : String) (b : CircuitBreaker) : Nat :=
  ((b.states.get? key).getD {}).failures

/-- `record_failure`. -/
def recordFailure (key : String) (b : CircuitBreaker) : CircuitBreaker where
  failureThreshold := b.failureThreshold
  states :=
    let state := (b.states.get? key).getD {}
    let failures := state.failures + 1
    b.states.set key
      { failures := failures
        isOpen := if b.failureThreshold ≤ failures then true else state.isOpen }
  failureThreshold_pos := b.failureThreshold_pos
  isOpen_iff {key' state} h := by
    dsimp only at h
    rw [Dict.get?_set] at h
    split at h
    · obtain rfl := Option.some.inj h
      cases hstate : b.states.get? key with
      | none => simp
      | some state =>
        have hopen := b.isOpen_iff hstate
        simp only [Option.getD_some]
        split
        · simp only [*]
        · rename_i hlt
          rw [hopen]
          omega
    · exact b.isOpen_iff h

end CircuitBreaker

/-! ## What a call does -/

/-- `DlqRecord`. -/
structure DlqRecord where
  correlationId : String
  reasonCode : String
  payload : List (String × Value)
deriving Repr

/-- `ToolResult`, with the fields that the adapter fills in besides. -/
structure McpToolResult extends ToolResult where
  /-- `error.details`. -/
  details : List (String × Value) := []
  /-- `execution.timeout_ms`. -/
  timeoutMs : Option Int := none
  /-- `execution.attempt`. -/
  attempt : Option Nat := none

/-- Something that a call does to what all calls share, or to the outside. -/
inductive Effect
  /-- `self._client.healthcheck` is invoked. -/
  | healthcheck (serverId : String)
  /-- `self._client.call_tool` is invoked. -/
  | callTool (serverId toolName : String) (arguments : Value)
  | setServerHealth (serverId : String) (health : McpServerHealth)
  | recordSuccess (key : String)
  | recordFailure (key : String)
  | push (record : DlqRecord)
  /-- The compensation hook of the reason is run, if there is one. -/
  | runHook (reasonCode : String) (payload : List (String × Value))
  | returned (result : McpToolResult)

/-- What all calls share. -/
structure McpState where
  registry : McpRegistry := {}
  circuitBreaker : CircuitBreaker := .init
  dlq : List DlqRecord := []

/-- What an effect changes. -/
def McpState.apply (s : McpState) : Effect → McpState
  | .setServerHealth serverId health =>
    { s with registry := s.registry.setServerHealth serverId health }
  | .recordSuccess key => { s with circuitBreaker := s.circuitBreaker.recordSuccess key }
  | .recordFailure key => { s with circuitBreaker := s.circuitBreaker.recordFailure key }
  | .push record => { s with dlq := s.dlq ++ [record] }
  | .healthcheck _ | .callTool _ _ _ | .runHook _ _ | .returned _ => s

/-- The state after some effects. -/
def McpState.applyAll (s : McpState) (effects : List Effect) : McpState :=
  effects.foldl McpState.apply s

/-- What a call waits for. -/
inductive Wait
  | healthcheck
  | callTool
deriving DecidableEq, Repr

/-- A call, with its local variables. -/
structure McpCall where
  serverId : String
  toolName : String
  context : ToolCallContext
  decisionReasonCode : String
  trustTier : McpTrustTier := .trusted
  serverTimeoutMs : Int := 30000
  maxRetries : Nat := 0
  attempt : Nat := 1
  waitsFor : Wait := .healthcheck

/-- The arguments of `execute`, and what the policy decides about them. -/
structure McpRequest where
  serverId : String
  toolName : String
  context : ToolCallContext
  decision : PolicyDecision

/-- `circuit_key`. -/
def circuitKey (serverId toolName : String) : String := serverId ++ ":" ++ toolName

/-- `circuit_key`, of a call. -/
def McpCall.key (call : McpCall) : String := circuitKey call.serverId call.toolName

/-- The policy of the platform looks at the result of a tool. -/
def afterToolCall (result : McpToolResult) : McpToolResult :=
  let postchecked := Tools.afterToolCall result.toToolResult
  if postchecked.status = result.status then { result with toToolResult := postchecked }
  else { toToolResult := postchecked }

namespace McpCall

variable (call : McpCall)

/-- The result with an error. -/
def errorResult (status : ToolStatus) (code message : String) (retryable : Bool) :
    McpToolResult where
  callId := call.context.callId
  toolName := call.context.toolName
  status := status
  error := ⟨code, "mcp_adapter", message, retryable⟩
  audit := some ⟨call.context.callId, call.decisionReasonCode⟩

/-- The two clauses at the end of `execute`. -/
def failWith (reasonCode : String) (exc : McpRaised) : List Effect :=
  let payload := [("server_id", Value.str call.serverId), ("tool_name", .str call.toolName),
    ("error", .str exc.text)]
  [.recordFailure call.key,
    .push ⟨call.context.callId, reasonCode, payload⟩,
    .runHook reasonCode (payload ++ [("correlation_id", .str call.context.callId)]),
    .returned { call.errorResult .error reasonCode exc.text false with
      timeoutMs := some call.serverTimeoutMs
      attempt := some call.attempt }]

/-- The clause that catches an exception. -/
def onException (exc : McpRaised) : List Effect :=
  match exc with
  | .keyError _ | .valueError _ => call.failWith "MCP_VALIDATION_ERROR" exc
  | .timeoutError _ | .exception _ => call.failWith "MCP_EXECUTION_ERROR" exc

/-- The tool has returned. -/
def success (output : Value) : McpToolResult where
  callId := call.context.callId
  toolName := call.context.toolName
  status := .success
  result := .dict [("value", output), ("mcp_observability", .dict [
    ("server_id", .str call.serverId), ("trust_tier", .str call.trustTier.value),
    ("attempt", .int call.attempt), ("max_retries", .int call.maxRetries)])]
  audit := some ⟨call.context.callId, call.decisionReasonCode⟩
  timeoutMs := some call.serverTimeoutMs
  attempt := some call.attempt

/-- The tool has timed out for the last time. -/
def timedOut : List Effect :=
  let payload := [("server_id", Value.str call.serverId), ("tool_name", .str call.toolName),
    ("attempt", .int call.attempt), ("max_retries", .int call.maxRetries)]
  [.push ⟨call.context.callId, "MCP_TIMEOUT", payload⟩,
    .runHook "MCP_TIMEOUT" (payload ++ [("correlation_id", .str call.context.callId)]),
    .returned { call.errorResult .timeout "MCP_TIMEOUT"
        ("MCP call timed out after " ++ toString call.attempt ++ " attempt(s) for server '" ++
          call.serverId ++ "' and tool '" ++ call.toolName ++ "'") true with
      details := [("attempt", .int call.attempt), ("max_retries", .int call.maxRetries),
        ("timeout_ms", .int call.serverTimeoutMs)]
      timeoutMs := some call.serverTimeoutMs
      attempt := some call.attempt }]

/-- `self._client.call_tool(...)`. -/
def invoke : Effect := .callTool call.serverId call.toolName call.context.arguments

end McpCall

/-! ## From one wait to the next -/

/-- `_enforce_trust_tier`: what it raises. -/
def enforceTrustTier (trustTier : McpTrustTier) (context : ToolCallContext) : Option McpRaised :=
  match trustTier with
  | .trusted => none
  | .restricted =>
    if context.isStateChanging = true then
      some (.valueError "Restricted MCP tier blocks state-changing tool calls")
    else none
  | .sandboxed =>
    if context.isStateChanging = true ∨ context.riskTier = .high ∨ context.riskTier = .critical then
      some (.valueError "Sandboxed MCP tier blocks high-impact or state-changing calls")
    else none

/-- `McpToolAdapter`, with what it uses of the platform. -/
structure McpToolAdapter where
  texts : ToolTexts
  contracts : ToolContracts

namespace McpToolAdapter

variable (adapter : McpToolAdapter)

/-- `_resolve_max_retries`. -/
def resolveMaxRetries (metadata : List (String × Value)) : Except McpRaised Nat :=
  match Tools.intOf? adapter.texts ((Value.lookup "max_retries" metadata).getD (.int 0)) with
  | .ok (some n) => .ok (max 0 n).toNat
  | .ok none | .error (.valueError _) => .ok 0
  | .error (.other message) => .error (.exception message)

/-- What `_sync_server_health` reads from the answer of a health check. -/
def readHealth (response : List (String × Value)) : McpServerHealth :=
  let textOf (key default : String) :=
    Text.strip (((Value.lookup key response).getD (.str default)).toStr adapter.texts.isPrintable)
  let rawState := adapter.texts.lower (textOf "state" "healthy")
  { state :=
      if rawState = "healthy" then .healthy
      else if rawState = "degraded" then .degraded
      else if rawState = "unavailable" then .unavailable
      else .degraded
    reason := textOf "reason" "" }

/-- The call of a request, as long as nothing is known of its server. -/
def callOf (request : McpRequest) : McpCall where
  serverId := request.serverId
  toolName := request.toolName
  context := request.context
  decisionReasonCode := request.decision.reasonCode

/-- The result of a call that the policy does not allow. -/
def blocked (request : McpRequest) : McpToolResult where
  toToolResult := adapter.contracts.blockedResult request.context request.decision.reasonCode
    request.decision.message

/-- The result of a call whose circuit is open. -/
def circuitOpen (call : McpCall) : McpToolResult :=
  call.errorResult .error "MCP_CIRCUIT_OPEN" ("Circuit is open for '" ++ call.key ++ "'") true

/-- `execute`, up to the health check. -/
def execute (s : McpState) (request : McpRequest) : List Effect × Option McpCall :=
  let call := callOf request
  if request.decision.decision ≠ .allow then ([.returned (adapter.blocked request)], none)
  else if s.circuitBreaker.allow call.key = false then ([.returned (circuitOpen call)], none)
  else
    match s.registry.getServer adapter.texts.isPrintable request.serverId with
    | .error exc => (call.onException exc, none)
    | .ok server =>
      let call := { call with
        trustTier := server.trustTier
        serverTimeoutMs := server.timeoutMs }
      match adapter.resolveMaxRetries server.metadata with
      | .error exc => (call.onException exc, none)
      | .ok maxRetries => ([.healthcheck request.serverId],
          some { call with maxRetries := maxRetries })

/-- What is left of `_sync_server_health` when the health check is over, and `execute` up to the
call of the tool. -/
def healthAnswered (s : McpState) (call : McpCall)
    (answer : Except McpRaised (List (String × Value))) : List Effect × Option McpCall :=
  match answer with
  | .error exc => (call.onException exc, none)
  | .ok response =>
    let health := adapter.readHealth response
    if call.serverId ∉ s.registry.servers.keys then
      (call.onException (McpRegistry.notRegistered adapter.texts.isPrintable call.serverId), none)
    else
      let updated := Effect.setServerHealth call.serverId health
      if health.state = .unavailable then
        let reason := if health.reason ≠ "" then health.reason else "healthcheck failed"
        (updated :: call.onException (.valueError
          ("MCP server '" ++ call.serverId ++ "' is unavailable: " ++ reason)), none)
      else
        match enforceTrustTier call.trustTier call.context with
        | some exc => (updated :: call.onException exc, none)
        | none => ([updated, call.invoke], some { call with waitsFor := .callTool })

/-- One turn of the loop, when the tool has answered. -/
def toolAnswered (call : McpCall) (answer : Except McpRaised Value) :
    List Effect × Option McpCall :=
  match answer with
  | .ok output => ([.recordSuccess call.key, .returned (afterToolCall (call.success output))], none)
  | .error (.timeoutError _) =>
    if call.attempt ≤ call.maxRetries then
      ([.recordFailure call.key, call.invoke], some { call with attempt := call.attempt + 1 })
    else (.recordFailure call.key :: call.timedOut, none)
  | .error exc => (call.onException exc, none)

end McpToolAdapter

/-! ## All calls -/

/-- What happens next. -/
inductive Input
  | execute (id : Nat) (request : McpRequest)
  | healthAnswered (id : Nat) (answer : Except McpRaised (List (String × Value)))
  | toolAnswered (id : Nat) (answer : Except McpRaised Value)
  /-- The task of a call is cancelled. -/
  | cancelled (id : Nat)
  /-- `register_server`. -/
  | registerServer (record : McpServerRecord)
  /-- `set_server_health`, from outside. -/
  | setServerHealth (serverId : String) (health : McpServerHealth)

/-- The call that an input belongs to. -/
def Input.call? : Input → Option Nat
  | .execute id _ => some id
  | .healthAnswered id _ => some id
  | .toolAnswered id _ => some id
  | .cancelled id => some id
  | .registerServer _ => none
  | .setServerHealth _ _ => none

/-- What all calls share, and the calls that wait. -/
structure Running where
  shared : McpState
  calls : Dict Nat McpCall := Dict.empty

namespace Running

/-- A call waits. -/
def waiting (s : Running) (id : Nat) (wait : Wait) : Option McpCall :=
  (s.calls.get? id).filter fun call ↦ call.waitsFor = wait

/-- A call has run, and goes on waiting or is over. -/
def ran (s : Running) (id : Nat) (did : List Effect × Option McpCall) : List Effect × Running :=
  (did.1,
    { shared := s.shared.applyAll did.1
      calls := match did.2 with
        | none => s.calls.erase id
        | some call => s.calls.set id call })

/-- The next thing happens.  An answer that no call waits for does not get anywhere. -/
def step (adapter : McpToolAdapter) (s : Running) : Input → List Effect × Running
  | .execute id request =>
    if id ∈ s.calls.keys then ([], s) else s.ran id (adapter.execute s.shared request)
  | .healthAnswered id answer =>
    match s.waiting id .healthcheck with
    | none => ([], s)
    | some call => s.ran id (adapter.healthAnswered s.shared call answer)
  | .toolAnswered id answer =>
    match s.waiting id .callTool with
    | none => ([], s)
    | some call => s.ran id (McpToolAdapter.toolAnswered call answer)
  | .cancelled id => ([], { s with calls := s.calls.erase id })
  | .registerServer record =>
    ([], { s with shared := { s.shared with
      registry := s.shared.registry.registerServer record } })
  | .setServerHealth serverId health =>
    if serverId ∈ s.shared.registry.servers.keys then
      ([.setServerHealth serverId health],
        { s with shared := s.shared.apply (.setServerHealth serverId health) })
    else ([], s)

end Running

/-! ## A small deployment -/

/-- An adapter over texts in ASCII. -/
def asciiAdapter : McpToolAdapter where
  texts := Tools.asciiTools
  contracts := Tools.plainContracts

/-- The server `files` has been registered, and nothing has been called. -/
def filesServer (trustTier : McpTrustTier) (maxRetries : Int) : Running where
  shared :=
    { registry := ({} : McpRegistry).registerServer
        { serverId := "files"
          trustTier := trustTier
          metadata := [("max_retries", .int maxRetries)] } }

/-- A call of the tool `lookup` on it, which the policy allows. -/
def lookupRequest (tenantId : String) (isStateChanging : Bool) : McpRequest where
  serverId := "files"
  toolName := "lookup"
  context :=
    { callId := "call-of-" ++ tenantId
      toolName := "lookup"
      isStateChanging := isStateChanging
      tenantId := tenantId }
  decision :=
    { decision := .allow
      reasonCode := "LOW_RISK_ALLOWED"
      message := "Low-risk read-only tool allowed."
      audit := ⟨"policy-risk-gate-v1", "1.0.0", "call-of-" ++ tenantId⟩ }

end Mcp
end ExoBrain
