import ExoBrain.Byoc.Execute
import ExoBrain.Policies.RiskGates
import ExoBrain.Tools.Decorators
import ExoBrain.Tools.PackagePolicy
import ExoBrain.Tools.VersionProjection

/-!
# The executor of tools

`DeterministicToolExecutor.execute` (`executor.py`) takes a tool call through the policy to the
tool, and its result through the policy again.  A tool is run in one of two ways: its handler is
called under the decorators, or the call is given to an adapter for the hosted runtime.  All that
the executor calls shares a state of any type and may raise; the executor counts what happens.

* `execute` is the executor, `runTool` its `try` block, and `deterministicFirst` is the policy of
  the platform (`middleware.py`) over any way to decide about a call.

The contracts of results stand in a package of their own: `blocked_result` is a parameter.  The
times of an execution are left out.
-/

set_option autoImplicit false

namespace ExoBrain
namespace Tools

open Byoc (NormalizedError)
open Core (PolicyAction ToolExecutionMode ToolStatus)
open Policies (PolicyDecision)
open Raising Raising.Comp

/-! ## Contracts -/

/-- `ToolCallContext`, as far as the executor reads it. -/
structure ToolCallContext extends Policies.PolicyCallContext where
  schemaVersion : String := "1.0"
  arguments : Value := .dict []

/-- `ToolAudit`. -/
structure ToolAudit where
  correlationId : String
  decisionReasonCode : String := ""
deriving DecidableEq, Repr

/-- `ToolResult`. -/
structure ToolResult where
  schemaVersion : String := "1.0"
  callId : String
  toolName : String
  status : ToolStatus
  result : Value := .none
  error : NormalizedError := {}
  /-- `execution.mode_used`. -/
  modeUsed : ToolExecutionMode := .deterministic
  audit : Option ToolAudit

/-- The function of the contracts package that the executor uses. -/
structure ToolContracts where
  /-- `blocked_result`. -/
  blockedResult : ToolCallContext → (reasonCode message : String) → ToolResult
  blockedResult_status : ∀ call reasonCode message,
    (blockedResult call reasonCode message).status = .blocked
  blockedResult_result : ∀ call reasonCode message,
    (blockedResult call reasonCode message).result = .none

/-- A blocked result that names the reason. -/
def plainContracts : ToolContracts where
  blockedResult call reasonCode _ :=
    { callId := call.callId
      toolName := call.toolName
      status := .blocked
      audit := some ⟨call.callId, reasonCode⟩ }
  blockedResult_status _ _ _ := rfl
  blockedResult_result _ _ _ := rfl

/-- `PolicyMiddleware`, over the states `σ` of everything around the executor. -/
structure PolicyMiddleware (σ : Type) where
  beforeToolCall : ToolCallContext → Comp σ Raised PolicyDecision
  afterToolCall : ToolResult → Comp σ Raised ToolResult

/-- `ToolExecutionAdapter.execute`. -/
abbrev ToolExecutionAdapter (σ η : Type) := ToolCallContext → ToolDescriptor η →
  Comp σ Raised ToolResult

/-! ## The policy of the platform -/

/-- `_postcheck_error`. -/
def postcheckError (result : ToolResult) (reason : String) : ToolResult where
  schemaVersion := result.schemaVersion
  callId := result.callId
  toolName := result.toolName
  status := .error
  error :=
    { code := "POLICY_POSTCHECK_FAILED"
      category := "policy"
      message := "Policy post-check failed: " ++ reason }
  audit := result.audit

/-- `after_tool_call`. -/
def afterToolCall (result : ToolResult) : ToolResult :=
  match result.audit with
  | none => postcheckError result "missing audit correlation_id"
  | some audit =>
    if Text.strip audit.correlationId = "" then
      postcheckError result "missing audit correlation_id"
    else if result.modeUsed ≠ .deterministic then
      postcheckError result "non-deterministic execution metadata"
    else
      match result.status, result.result with
      | .success, .none => postcheckError result "success result is missing payload"
      | _, _ => result

/-- `DeterministicFirstPolicyMiddleware`, over any way to decide about a call. -/
def deterministicFirst {σ : Type} (beforeToolCall : ToolCallContext → Comp σ Raised PolicyDecision) :
    PolicyMiddleware σ where
  beforeToolCall := beforeToolCall
  afterToolCall result := pure (afterToolCall result)

/-! ## The executor -/

/-- `DeterministicToolExecutor`. -/
structure DeterministicToolExecutor (σ η : Type) where
  texts : ToolTexts
  contracts : ToolContracts
  /-- `list(v)`, for an object that is of none of the built-in classes. -/
  listObject : Value → Except Raised (List Value)
  /-- `handler(**kwargs)`. -/
  callHandler : η → ToolHandler σ
  registry : Dict String (ToolDescriptor η)
  policy : PolicyMiddleware σ
  auditSink : Option (AuditSink σ) := none
  hasMetrics : Bool := false
  executionAdapter : Option (ToolExecutionAdapter σ η) := none
  enableHostedRuntime : Bool := false

/-- The state of everything around the executor, and its counters. -/
structure ExecutorState (σ : Type) where
  env : σ
  counters : Dict String Nat := Dict.empty

/-- Run what the executor calls. -/
def onEnv {σ α : Type} (m : Comp σ Raised α) : Comp (ExecutorState σ) Raised α :=
  zoom ExecutorState.env (fun env s ↦ { s with env := env }) m

/-- `list(v)`. -/
def listOf (listObject : Value → Except Raised (List Value)) : Value → Except Raised (List Value)
  | .list items => .ok items
  | .str s => .ok (s.toList.map fun c ↦ .str (String.singleton c))
  | .dict entries => .ok (entries.map fun e ↦ .str e.1)
  | .object className text reprText truthValue =>
    listObject (.object className text reprText truthValue)
  | v => .error (.exception ("'" ++ v.typeName ++ "' object is not iterable"))

/-- `int(v)`. -/
def intOf (T : ToolTexts) (v : Value) : Except Raised Int :=
  match intOf? T v with
  | .ok (some n) => .ok n
  | .ok none =>
    match v with
    | .str s => .error (.exception ("invalid literal for int() with base 10: " ++
        Value.reprStr T.isPrintable s))
    | .float _ => .error (.exception "cannot convert float NaN to integer")
    | _ => .error (.exception
        ("int() argument must be a string, a bytes-like object or a real number, not '" ++
          v.typeName ++ "'"))
  | .error (.valueError message) => .error (.exception message)
  | .error (.other message) => .error (.exception message)

namespace DeterministicToolExecutor

variable {σ η : Type} (X : DeterministicToolExecutor σ η) (call : ToolCallContext)

/-- `self._metrics.inc(key)`, if there are metrics. -/
def inc (key : String) : Comp (ExecutorState σ) Raised Unit :=
  modify fun s ↦
    if X.hasMetrics = true then
      { s with counters := s.counters.set key ((s.counters.get? key).getD 0 + 1) }
    else s

/-- The same, if a condition holds. -/
def incIf (condition : Prop) [Decidable condition] (key : String) :
    Comp (ExecutorState σ) Raised Unit :=
  if condition then X.inc key else pure ()

/-- `_after_policy`. -/
def afterPolicy (result : ToolResult) : Comp (ExecutorState σ) Raised ToolResult :=
  onEnv (X.policy.afterToolCall result)

/-- `_validation_error`. -/
def validationError (message : String) : ToolResult where
  callId := call.callId
  toolName := call.toolName
  status := .error
  error :=
    { code := "TOOL_CALL_VALIDATION_ERROR"
      category := "tool_runtime"
      message := message }
  audit := some { correlationId := call.callId }

/-- `_validate_call`. -/
def validateCall : Option ToolResult :=
  if call.schemaVersion ≠ "1.0" then
    some (validationError call "schema_version must be '1.0'")
  else if Text.strip call.toolName = "" then some (validationError call "tool_name is required")
  else
    match call.arguments with
    | .dict _ => none
    | _ => some (validationError call "arguments must be an object")

/-- `_registry.resolve`. -/
def resolve (toolName : String) : Except Raised (ToolDescriptor η) :=
  match X.registry.get? toolName with
  | none => .error (.keyError (Value.reprStr X.texts.isPrintable ("Tool '" ++ toolName ++
      "' not found")))
  | some descriptor => .ok descriptor

/-- `runtime_projection`. -/
def runtimeProjection (descriptor : ToolDescriptor η) : List (String × Value) :=
  (["tool_version", "package_ref", "handler_ref"].map fun key ↦
    (key, Value.str (((descriptor.metadata.get? key).getD (.str "")).toStr
      X.texts.isPrintable))).filter fun e ↦ e.2.truth

/-- The projection is added to what the adapter has put into the result. -/
def withRuntime (projection : List (String × Value)) (result : Value) : Value :=
  match projection, result with
  | [], _ => result
  | _, .dict entries =>
    let entries := Value.setDefault "runtime" (.dict []) entries
    match Value.lookup "runtime" entries with
    | some (.dict runtimePayload) =>
      .dict (Value.assign "runtime" (.dict (projection.foldl
        (fun payload e ↦ Value.setDefault e.1 e.2 payload) runtimePayload)) entries)
    | _ => .dict entries
  | _, _ => result

/-- The result of a tool, after the policy has looked at it. -/
def postchecked (result : ToolResult) : Comp (ExecutorState σ) Raised ToolResult := do
  X.incIf (result.status = .success) "tool.call.success"
  let postchecked ← X.afterPolicy result
  X.incIf (postchecked.status = .error) "tool.call.failed"
  X.incIf (postchecked.status = .error) "tool.call.postcheck_failed"
  return postchecked

/-- The call is given to the adapter. -/
def runHosted (adapter : ToolExecutionAdapter σ η) (descriptor : ToolDescriptor η) :
    Comp (ExecutorState σ) Raised ToolResult := do
  let result ← onEnv (adapter call descriptor)
  X.postchecked { result with result := withRuntime (X.runtimeProjection descriptor) result.result }

/-- `list(descriptor.metadata.get(key, []))`. -/
def metadataList (descriptor : ToolDescriptor η) (key : String) : Except Raised (List Value) :=
  listOf X.listObject ((descriptor.metadata.get? key).getD (.list []))

/-- `bool(descriptor.metadata.get("allow_state_changing", True))`. -/
def allowStateChanging (descriptor : ToolDescriptor η) : Bool :=
  ((descriptor.metadata.get? "allow_state_changing").getD (.bool true)).truth

/-- `call.arguments`, once they were validated. -/
def kwargs : Arguments := call.arguments.dict?.getD []

/-- The handler is called under its decorators. -/
def runInProcess (decision : PolicyDecision) (descriptor : ToolDescriptor η) :
    Comp (ExecutorState σ) Raised ToolResult := do
  let requiredArgs ← ofExcept (X.metadataList descriptor "required_args")
  let maxAttempts ← ofExcept (intOf X.texts
    ((descriptor.metadata.get? "max_retries").getD (.int 1)))
  let redactKeys ← ofExcept (X.metadataList descriptor "redact_keys")
  let output ← onEnv (applyExecutionDecorators X.texts.isPrintable
    (X.callHandler descriptor.handler) requiredArgs (allowStateChanging descriptor)
    call.isStateChanging maxAttempts redactKeys X.auditSink ("tool." ++ call.toolName) (kwargs call))
  let runtime : List (String × Value) :=
    match X.runtimeProjection descriptor with
    | [] => []
    | projection => [("runtime", .dict projection)]
  X.postchecked {
    callId := call.callId
    toolName := call.toolName
    status := .success
    result := .dict (("value", output) :: runtime)
    audit := some { correlationId := call.callId, decisionReasonCode := decision.reasonCode } }

/-- The `try` block. -/
def runTool (decision : PolicyDecision) : Comp (ExecutorState σ) Raised ToolResult := do
  let descriptor ← ofExcept (X.resolve call.toolName)
  match X.enableHostedRuntime, X.executionAdapter with
  | true, some adapter => X.runHosted call adapter descriptor
  | _, _ => X.runInProcess call decision descriptor

/-- The result for an exception. -/
def errorResult (decision : PolicyDecision) (exc : Raised) : ToolResult where
  callId := call.callId
  toolName := call.toolName
  status := .error
  error :=
    match exc with
    | .keyError text =>
      { code := "TOOL_NOT_FOUND"
        category := "tool_registry"
        message := text }
    | .exception text =>
      { code := "TOOL_EXECUTION_ERROR"
        category := "tool_runtime"
        message := text }
  audit := some { correlationId := call.callId, decisionReasonCode := decision.reasonCode }

/-- The `except` blocks. -/
def recover (decision : PolicyDecision) (exc : Raised) :
    Comp (ExecutorState σ) Raised ToolResult := do
  X.inc "tool.call.failed"
  X.afterPolicy (errorResult call decision exc)

/-- `execute`. -/
def execute : Comp (ExecutorState σ) Raised ToolResult := do
  X.inc "tool.call.total"
  match validateCall call with
  | some error => do
    X.inc "tool.call.failed"
    X.afterPolicy error
  | none => do
    let decision ← onEnv (X.policy.beforeToolCall call)
    if decision.decision ≠ .allow then
      X.inc "tool.call.blocked"
      X.afterPolicy (X.contracts.blockedResult call decision.reasonCode decision.message)
    else rescue (X.runTool call decision) (X.recover call decision)

/-! ## Counters -/

theorem env_inc (key : String) (s : ExecutorState σ) : (X.inc key s).2.env = s.env := by
  change (if X.hasMetrics = true then _ else s).env = s.env
  split <;> rfl

/-- Counting does not raise. -/
theorem inc_eq (key : String) (s : ExecutorState σ) : X.inc key s = (.ok (), (X.inc key s).2) := rfl

theorem incIf_eq (condition : Prop) [Decidable condition] (key : String) (s : ExecutorState σ) :
    X.incIf condition key s = (.ok (), (X.incIf condition key s).2) := by
  rw [incIf]
  split
  · rfl
  · rfl

theorem env_incIf (condition : Prop) [Decidable condition] (key : String) (s : ExecutorState σ) :
    (X.incIf condition key s).2.env = s.env := by
  rw [incIf]
  split
  · exact X.env_inc key s
  · rfl

end DeterministicToolExecutor

end Tools
end ExoBrain
