import ExoBrain.Lib.Journal
import ExoBrain.Lib.Run
import ExoBrain.Tools.Executor
import ExoBrain.Tools.SandboxPool
import Mathlib.Data.Finset.Card

/-!
# The hosted runtime

`TenantSandboxToolRuntime` (`runtime.py`) runs the handlers of tools in the worker of a tenant, or in a
process of their own, within the budgets that their manifests give them.  Any number of threads share
one runtime: while one of them waits for a handler, others ask for cancellations or execute other calls.
So a call of `execute` is two events, one up to the handler (`begin`) and one after it (`handled`), and
the events of a run come in any order.

* `control_accounts`: the counters of the runtime count what was answered, and every token of a
  cancellation is still there, was taken back, or has cancelled one call.
* `call_cancelled_iff`: a call is cancelled exactly if a cancellation was asked for under its name, and since
  then neither taken back nor used up.
* `answered_once`: a call that has reached its handler waits, or was answered, once.
* `success_within_limits`: what is answered as a success has kept to all limits.

The worker is acquired on the way to the handler (`SandboxPool.lean`); what goes wrong with it is a way
in which the handler fails.  Outputs are the values that `model_dump` gives.
-/

set_option autoImplicit false

namespace ExoBrain
namespace Tools

open Core (ToolStatus)
open Checks
open Journal (Lasting lasting_concat)

/-! ## Limits -/

/-- `SandboxRuntimePolicy`. -/
structure SandboxRuntimePolicy where
  minTimeoutMs : Int := 100
  maxTimeoutMs : Int := 300000

namespace SandboxRuntimePolicy

/-- `resolve_tenant_id`. -/
def resolveTenantId (call : ToolCallContext) : String :=
  if Text.strip call.tenantId = "" then "default" else Text.strip call.tenantId

/-- `resolve_timeout_ms`. -/
def resolveTimeoutMs {η : Type} (T : ToolTexts) (policy : SandboxRuntimePolicy)
    (descriptor : ToolDescriptor η) : Except ToolError Int := do
  let rawTimeout := (descriptor.metadata.get? "sandbox_timeout_ms").getD (.int descriptor.timeoutMs)
  let parsed := (← intOf? T rawTimeout).getD descriptor.timeoutMs
  return max policy.minTimeoutMs (min parsed policy.maxTimeoutMs)

theorem bounds_of_resolve {η : Type} {T : ToolTexts} {policy : SandboxRuntimePolicy}
    {descriptor : ToolDescriptor η} {timeoutMs : Int}
    (h : policy.resolveTimeoutMs T descriptor = .ok timeoutMs) :
    policy.minTimeoutMs ≤ timeoutMs ∧ timeoutMs ≤ max policy.minTimeoutMs policy.maxTimeoutMs := by
  rw [resolveTimeoutMs] at h
  obtain ⟨parsed, -, h⟩ := bind_eq_ok.mp h
  cases h
  exact ⟨Int.le_max_left _ _, by omega⟩

end SandboxRuntimePolicy

/-- `SandboxResourceDecision`. -/
structure SandboxResourceDecision where
  allow : Bool := true
  reasonCode : String := "ALLOW"
  message : String := ""
  details : List (String × Value) := []

/-- `ManifestBudgetResourceHooks`. -/
structure ManifestBudgetResourceHooks where
  platformCpuBudgetMs : Int := 600000
  platformMemoryBudgetMb : Int := 4096

namespace ManifestBudgetResourceHooks

variable {η : Type} (T : ToolTexts) (hooks : ManifestBudgetResourceHooks)

/-- `_limits_for_descriptor`. -/
def limitsForDescriptor (descriptor : ToolDescriptor η) : Except ToolError SandboxLimits := do
  return (← parseSandboxLimits T descriptor.metadata).getD {}

/-- The decision about a descriptor, if its limits are valid.  Only a `ValueError` is caught. -/
def withLimits (descriptor : ToolDescriptor η) (decide : SandboxLimits → SandboxResourceDecision) :
    Except ToolError SandboxResourceDecision :=
  match limitsForDescriptor T descriptor with
  | .ok limits => .ok (decide limits)
  | .error (.valueError message) =>
    .ok { allow := false, reasonCode := "SANDBOX_LIMITS_INVALID", message }
  | .error error => .error error

/-- `before_execute`. -/
def beforeExecute (descriptor : ToolDescriptor η) : Except ToolError SandboxResourceDecision :=
  withLimits T descriptor fun limits ↦
    if limits.memoryBudgetMb.any fun memory ↦ hooks.platformMemoryBudgetMb < memory then
      { allow := false
        reasonCode := "MEMORY_BUDGET_EXCEEDED"
        message := "memory_budget_mb=" ++ toString (limits.memoryBudgetMb.getD 0) ++
          " exceeds platform limit " ++ toString hooks.platformMemoryBudgetMb ++ "."
        details := [("memory_budget_mb", optionalInt limits.memoryBudgetMb)] }
    else if limits.cpuBudgetMs.any fun cpu ↦ hooks.platformCpuBudgetMs < cpu then
      { allow := false
        reasonCode := "CPU_BUDGET_EXCEEDED"
        message := "cpu_budget_ms=" ++ toString (limits.cpuBudgetMs.getD 0) ++
          " exceeds platform limit " ++ toString hooks.platformCpuBudgetMs ++ "."
        details := [("cpu_budget_ms", optionalInt limits.cpuBudgetMs)] }
    else {}

/-- `after_execute`. -/
def afterExecute (descriptor : ToolDescriptor η) (durationMs : Int) :
    Except ToolError SandboxResourceDecision :=
  withLimits T descriptor fun limits ↦
    if limits.cpuBudgetMs.any fun cpu ↦ cpu < durationMs then
      { allow := false
        reasonCode := "CPU_BUDGET_RUNTIME_EXCEEDED"
        message := "execution duration " ++ toString durationMs ++ "ms exceeded cpu_budget_ms " ++
          toString (limits.cpuBudgetMs.getD 0) ++ "."
        details := [("cpu_budget_ms", optionalInt limits.cpuBudgetMs), ("duration_ms", .int durationMs)] }
    else {}

variable {T} {hooks} {descriptor : ToolDescriptor η}

/-- A decision to allow needs valid limits. -/
theorem limits_of_allow {decide : SandboxLimits → SandboxResourceDecision}
    {decision : SandboxResourceDecision} (h : withLimits T descriptor decide = .ok decision)
    (hallow : decision.allow = true) :
    ∃ limits, limitsForDescriptor T descriptor = .ok limits ∧ (decide limits).allow = true := by
  rw [withLimits] at h
  split at h
  · next limits hlimits =>
    cases h
    exact ⟨limits, hlimits, hallow⟩
  · cases h
    cases hallow
  · cases h

/-- What is allowed to begin asks for no more than the platform has. -/
theorem budgets_of_before {decision : SandboxResourceDecision}
    (h : hooks.beforeExecute T descriptor = .ok decision) (hallow : decision.allow = true) :
    ∃ limits, limitsForDescriptor T descriptor = .ok limits ∧
      (∀ memory ∈ limits.memoryBudgetMb, memory ≤ hooks.platformMemoryBudgetMb) ∧
        ∀ cpu ∈ limits.cpuBudgetMs, cpu ≤ hooks.platformCpuBudgetMs := by
  obtain ⟨limits, hlimits, hbudgets⟩ := limits_of_allow h hallow
  refine ⟨limits, hlimits, ?_⟩
  split at hbudgets
  · cases hbudgets
  · next hmemory =>
    split at hbudgets
    · cases hbudgets
    · next hcpu =>
      rw [Option.any_eq_true] at hmemory hcpu
      exact ⟨fun memory hmem ↦ Int.not_lt.mp fun hlt ↦ hmemory ⟨memory, hmem, decide_eq_true hlt⟩,
        fun cpu hmem ↦ Int.not_lt.mp fun hlt ↦ hcpu ⟨cpu, hmem, decide_eq_true hlt⟩⟩

/-- What is allowed to succeed took no longer than its budget. -/
theorem budget_of_after {decision : SandboxResourceDecision} {durationMs : Int}
    (h : afterExecute T descriptor durationMs = .ok decision) (hallow : decision.allow = true) :
    ∃ limits, limitsForDescriptor T descriptor = .ok limits ∧
      ∀ cpu ∈ limits.cpuBudgetMs, durationMs ≤ cpu := by
  obtain ⟨limits, hlimits, hbudget⟩ := limits_of_allow h hallow
  refine ⟨limits, hlimits, ?_⟩
  split at hbudget
  · cases hbudget
  · next hcpu =>
    rw [Option.any_eq_true] at hcpu
    exact fun cpu hmem ↦ Int.not_lt.mp fun hlt ↦ hcpu ⟨cpu, hmem, decide_eq_true hlt⟩

end ManifestBudgetResourceHooks

/-! ## Results -/

/-- A `ToolResult`, with the details of its error and the times of its execution. -/
structure HostedResult extends ToolResult where
  details : List (String × Value) := []
  durationMs : Int
  timeoutMs : Int

/-- How the handler of a call ends. -/
inductive HandlerOutcome
  | output (value : Value)
  /-- A `TimeoutError`, after `timeout_ms` or by the handler. -/
  | timedOut
  | raised (message : String)

/-- `_normalize_output`. -/
def normalizeOutput : Value → Value
  | .dict entries => .dict entries
  | value => .dict [("value", value)]

/-- `TenantSandboxToolRuntime`, with its resource hooks. -/
structure TenantSandboxToolRuntime where
  texts : ToolTexts
  hooks : ManifestBudgetResourceHooks := {}
  policy : SandboxRuntimePolicy := {}
  enableProcessIsolation : Bool := false

/-- A call that waits for its handler. -/
structure Running (η : Type) where
  call : ToolCallContext
  descriptor : ToolDescriptor η
  timeoutMs : Int

/-- What the threads share, and the calls that wait, by their numbers. -/
structure SandboxState (η : Type) where
  pendingCancellations : Finset String := ∅
  cancelRequestedTotal : Nat := 0
  cancelConsumedTotal : Nat := 0
  timeoutTotal : Nat := 0
  running : Dict Nat (Running η) := Dict.empty
  calls : Nat := 0

/-- What happens to a runtime.  `answeredMs` is how long a call has taken when it is answered. -/
inductive SandboxEvent (η : Type)
  | requestCancellation (callId : String)
  | clearCancellation (callId : String)
  | controlStats
  /-- A thread calls `execute`, and gets as far as the handler. -/
  | begin (call : ToolCallContext) (descriptor : ToolDescriptor η) (answeredMs : Int)
  /-- The handler of the `n`-th call ends, and the call is answered. -/
  | handled (n : Nat) (outcome : HandlerOutcome) (durationMs answeredMs : Int)

/-- What is answered. -/
inductive SandboxAnswer
  | accepted (done : Bool)
  /-- `cancel_requested_total`, `cancel_consumed_total`, `timeout_total`, `pending_cancellations`. -/
  | stats (requested consumed timeouts pending : Nat)
  | started (n : Nat)
  | result (result : HostedResult)
  | raised (error : ToolError)
  /-- No such call is waiting. -/
  | nothing

/-- The status of a result. -/
def SandboxAnswer.status? : SandboxAnswer → Option ToolStatus
  | .result r => some r.status
  | _ => none

namespace TenantSandboxToolRuntime

/-- `backend_id`. -/
def backendId : String := "hosted_sandbox_runtime"

variable {η : Type} (X : TenantSandboxToolRuntime)

/-- `isolation_mode`. -/
def isolationMode : String := if X.enableProcessIsolation then "process" else "thread_pool"

/-- `_cancelled_result`. -/
def cancelledResult (call : ToolCallContext) (timeoutMs durationMs : Int) : HostedResult where
  callId := call.callId
  toolName := call.toolName
  status := .cancelled
  error :=
    { code := "HOSTED_RUNTIME_CANCELLED"
      category := "tool_runtime"
      message := "Hosted runtime call cancelled before execution dispatch."
      retryable := true }
  audit := some { correlationId := call.callId }
  details := [("backend_id", .str backendId),
    ("tenant_id", .str (SandboxRuntimePolicy.resolveTenantId call)),
    ("isolation_mode", .str X.isolationMode), ("reason_code", .str "CANCEL_TOKEN_PRE_DISPATCH")]
  durationMs := durationMs
  timeoutMs := timeoutMs

/-- `_blocked_for_resources`. -/
def blockedForResources (call : ToolCallContext) (timeoutMs durationMs : Int)
    (decision : SandboxResourceDecision) : HostedResult where
  callId := call.callId
  toolName := call.toolName
  status := .blocked
  error :=
    { code := "HOSTED_RUNTIME_RESOURCE_BLOCKED"
      category := "tool_runtime"
      message := if decision.message = "" then "Hosted runtime resource hooks blocked execution."
        else decision.message }
  audit := some { correlationId := call.callId }
  details := decision.details.foldl (fun details e ↦ Value.assign e.1 e.2 details)
    [("backend_id", .str backendId), ("reason_code", .str decision.reasonCode),
      ("tenant_id", .str (SandboxRuntimePolicy.resolveTenantId call))]
  durationMs := durationMs
  timeoutMs := timeoutMs

/-- The result of a call whose handler has timed out. -/
def timeoutResult (call : ToolCallContext) (timeoutMs durationMs : Int) : HostedResult where
  callId := call.callId
  toolName := call.toolName
  status := .timeout
  error :=
    { code := "HOSTED_RUNTIME_TIMEOUT"
      category := "tool_runtime"
      message := "Hosted runtime timed out after " ++ toString timeoutMs ++ "ms."
      retryable := true }
  audit := some { correlationId := call.callId }
  details := [("backend_id", .str backendId), ("timeout_ms", .int timeoutMs),
    ("tenant_id", .str (SandboxRuntimePolicy.resolveTenantId call))] ++
      if X.enableProcessIsolation then [("isolation_mode", .str "process")] else []
  durationMs := durationMs
  timeoutMs := timeoutMs

/-- The result of a call that has raised something else. -/
def errorResult (call : ToolCallContext) (timeoutMs durationMs : Int) (message : String) :
    HostedResult where
  callId := call.callId
  toolName := call.toolName
  status := .error
  error :=
    { code := "HOSTED_RUNTIME_EXECUTION_ERROR"
      category := "tool_runtime"
      message := message }
  audit := some { correlationId := call.callId }
  details := [("backend_id", .str backendId),
    ("tenant_id", .str (SandboxRuntimePolicy.resolveTenantId call))]
  durationMs := durationMs
  timeoutMs := timeoutMs

/-- The result of a call whose handler has an output. -/
def successResult (call : ToolCallContext) (timeoutMs durationMs : Int) (value : Value) :
    HostedResult where
  callId := call.callId
  toolName := call.toolName
  status := .success
  result := .dict [("value", normalizeOutput value), ("runtime", .dict
    [("backend_id", .str backendId), ("timeout_ms", .int timeoutMs),
      ("tenant_id", .str (SandboxRuntimePolicy.resolveTenantId call)),
      ("isolation_mode", .str X.isolationMode)])]
  audit := some { correlationId := call.callId }
  durationMs := durationMs
  timeoutMs := timeoutMs

/-! ## Cancellations -/

/-- `request_cancellation`. -/
def requestCancellation (callId : String) (s : SandboxState η) : Bool × SandboxState η :=
  if Text.strip callId = "" ∨ Text.strip callId ∈ s.pendingCancellations then (false, s)
  else (true, { s with
    pendingCancellations := insert (Text.strip callId) s.pendingCancellations
    cancelRequestedTotal := s.cancelRequestedTotal + 1 })

/-- `clear_cancellation`. -/
def clearCancellation (callId : String) (s : SandboxState η) : Bool × SandboxState η :=
  if Text.strip callId = "" ∨ Text.strip callId ∉ s.pendingCancellations then (false, s)
  else (true, { s with pendingCancellations := s.pendingCancellations.erase (Text.strip callId) })

/-- `_consume_cancellation`. -/
def consumeCancellation (callId : String) (s : SandboxState η) : Bool × SandboxState η :=
  if Text.strip callId = "" ∨ Text.strip callId ∉ s.pendingCancellations then (false, s)
  else (true, { s with
    pendingCancellations := s.pendingCancellations.erase (Text.strip callId)
    cancelConsumedTotal := s.cancelConsumedTotal + 1 })

/-! ## Execution -/

/-- `execute`, up to the handler. -/
def begin (call : ToolCallContext) (descriptor : ToolDescriptor η) (answeredMs : Int)
    (s : SandboxState η) : SandboxAnswer × SandboxState η :=
  match X.policy.resolveTimeoutMs X.texts descriptor with
  | .error error => (.raised error, s)
  | .ok timeoutMs =>
    match consumeCancellation call.callId s with
    | (true, s) => (.result (X.cancelledResult call timeoutMs answeredMs), s)
    | (false, s) =>
      match X.hooks.beforeExecute X.texts descriptor with
      | .error error => (.raised error, s)
      | .ok decision =>
        if decision.allow then
          (.started s.calls, { s with
            running := s.running.set s.calls ⟨call, descriptor, timeoutMs⟩
            calls := s.calls + 1 })
        else (.result (blockedForResources call timeoutMs answeredMs decision), s)

/-- What is answered when the handler has ended. -/
def answerTo (c : Running η) (outcome : HandlerOutcome) (durationMs answeredMs : Int) : HostedResult :=
  match outcome with
  | .output value =>
    match ManifestBudgetResourceHooks.afterExecute X.texts c.descriptor durationMs with
    | .error (.valueError message) | .error (.other message) =>
      errorResult c.call c.timeoutMs answeredMs message
    | .ok decision =>
      if decision.allow then X.successResult c.call c.timeoutMs durationMs value
      else blockedForResources c.call c.timeoutMs answeredMs decision
  | .timedOut => X.timeoutResult c.call c.timeoutMs answeredMs
  | .raised message => errorResult c.call c.timeoutMs answeredMs message

/-- `execute`, after the handler; `_record_timeout` counts the timeouts. -/
def handled (n : Nat) (outcome : HandlerOutcome) (durationMs answeredMs : Int) (s : SandboxState η) :
    SandboxAnswer × SandboxState η :=
  match s.running.get? n with
  | none => (.nothing, s)
  | some c =>
    let result := X.answerTo c outcome durationMs answeredMs
    (.result result, { s with
      running := s.running.erase n
      timeoutTotal := s.timeoutTotal + if result.status = .timeout then 1 else 0 })

/-- One event. -/
def step (s : SandboxState η) : SandboxEvent η → SandboxAnswer × SandboxState η
  | .requestCancellation callId =>
    (.accepted (requestCancellation callId s).1, (requestCancellation callId s).2)
  | .clearCancellation callId => (.accepted (clearCancellation callId s).1, (clearCancellation callId s).2)
  | .controlStats => (.stats s.cancelRequestedTotal s.cancelConsumedTotal s.timeoutTotal
      s.pendingCancellations.card, s)
  | .begin call descriptor answeredMs => X.begin call descriptor answeredMs s
  | .handled n outcome durationMs answeredMs => X.handled n outcome durationMs answeredMs s

/-! ## What an event does -/

variable {X} {s : SandboxState η}

/-- There is a token under the name of a call. -/
def HasToken (callId : String) (s : SandboxState η) : Prop :=
  Text.strip callId ≠ "" ∧ Text.strip callId ∈ s.pendingCancellations

theorem not_hasToken {callId : String} :
    ¬HasToken callId s ↔ Text.strip callId = "" ∨ Text.strip callId ∉ s.pendingCancellations := by
  rw [HasToken, not_and_or, not_not]

theorem requestCancellation_of_fresh {callId : String} (hne : Text.strip callId ≠ "")
    (hfresh : Text.strip callId ∉ s.pendingCancellations) :
    requestCancellation callId s = (true, { s with
      pendingCancellations := insert (Text.strip callId) s.pendingCancellations
      cancelRequestedTotal := s.cancelRequestedTotal + 1 }) :=
  if_neg (not_or.mpr ⟨hne, hfresh⟩)

theorem clearCancellation_of_hasToken {callId : String} (h : HasToken callId s) :
    clearCancellation callId s = (true, { s with
      pendingCancellations := s.pendingCancellations.erase (Text.strip callId) }) :=
  if_neg (not_or.mpr ⟨h.1, not_not.mpr h.2⟩)

theorem consumeCancellation_of_hasToken {callId : String} (h : HasToken callId s) :
    consumeCancellation callId s = (true, { s with
      pendingCancellations := s.pendingCancellations.erase (Text.strip callId)
      cancelConsumedTotal := s.cancelConsumedTotal + 1 }) :=
  if_neg (not_or.mpr ⟨h.1, not_not.mpr h.2⟩)

/-- A call that can go on to its handler. -/
structure Admitted (X : TenantSandboxToolRuntime) (c : Running η) : Prop where
  timeoutMs : X.policy.resolveTimeoutMs X.texts c.descriptor = .ok c.timeoutMs
  decision : ∃ decision, X.hooks.beforeExecute X.texts c.descriptor = .ok decision ∧
    decision.allow = true

/-- **What a call does up to its handler.**  It uses up a token; or it leaves the tokens and the counters,
and is answered at once, or waits. -/
theorem begin_cases (call : ToolCallContext) (descriptor : ToolDescriptor η) (answeredMs : Int)
    (s : SandboxState η) :
    (∃ timeoutMs, X.policy.resolveTimeoutMs X.texts descriptor = .ok timeoutMs ∧
      HasToken call.callId s ∧ X.begin call descriptor answeredMs s =
        (.result (X.cancelledResult call timeoutMs answeredMs), { s with
          pendingCancellations := s.pendingCancellations.erase (Text.strip call.callId)
          cancelConsumedTotal := s.cancelConsumedTotal + 1 })) ∨
    (¬((X.policy.resolveTimeoutMs X.texts descriptor).isOk = true ∧ HasToken call.callId s) ∧
      ((∃ answer, X.begin call descriptor answeredMs s = (answer, s) ∧
          (answer.status? = none ∨ answer.status? = some .blocked) ∧ ∀ n, answer ≠ .started n) ∨
        ∃ timeoutMs, Admitted X ⟨call, descriptor, timeoutMs⟩ ∧
          X.begin call descriptor answeredMs s = (.started s.calls, { s with
            running := s.running.set s.calls ⟨call, descriptor, timeoutMs⟩
            calls := s.calls + 1 }))) := by
  cases htimeout : X.policy.resolveTimeoutMs X.texts descriptor with
  | error error =>
    refine .inr ⟨fun h ↦ Bool.false_ne_true h.1, .inl ⟨.raised error, ?_, .inl rfl, fun n heq ↦ ?_⟩⟩
    · rw [begin, htimeout]
    · cases heq
  | ok timeoutMs =>
    by_cases htoken : HasToken call.callId s
    · refine .inl ⟨timeoutMs, rfl, htoken, ?_⟩
      rw [begin, htimeout]
      simp only [consumeCancellation_of_hasToken htoken]
    · have hconsume : consumeCancellation call.callId s = (false, s) := if_pos (not_hasToken.mp htoken)
      refine .inr ⟨fun h ↦ htoken h.2, ?_⟩
      simp only [begin, htimeout, hconsume]
      cases hdecision : X.hooks.beforeExecute X.texts descriptor with
      | error error => exact .inl ⟨.raised error, rfl, .inl rfl, fun n heq ↦ by cases heq⟩
      | ok decision =>
        by_cases hallow : decision.allow = true
        · refine .inr ⟨timeoutMs, ⟨htimeout, decision, hdecision, hallow⟩, ?_⟩
          simp only [if_pos hallow]
        · refine .inl ⟨.result (blockedForResources call timeoutMs answeredMs decision), ?_, .inr rfl,
            fun n heq ↦ by cases heq⟩
          simp only [if_neg hallow]

/-- No handler makes its call cancelled. -/
theorem status_answerTo (c : Running η) (outcome : HandlerOutcome) (durationMs answeredMs : Int) :
    (X.answerTo c outcome durationMs answeredMs).status ≠ .cancelled := by
  cases outcome with
  | output value =>
    rw [answerTo]
    cases ManifestBudgetResourceHooks.afterExecute X.texts c.descriptor durationMs with
    | error error => cases error <;> exact ToolStatus.noConfusion
    | ok decision =>
      dsimp only
      split <;> exact ToolStatus.noConfusion
  | timedOut => exact ToolStatus.noConfusion
  | raised message => exact ToolStatus.noConfusion

/-! ## The counters -/

/-- A request for a cancellation that is accepted. -/
def grants : SandboxEvent η × SandboxAnswer → Bool
  | (.requestCancellation _, .accepted true) => true
  | _ => false

/-- A cancellation that is taken back. -/
def withdraws : SandboxEvent η × SandboxAnswer → Bool
  | (.clearCancellation _, .accepted true) => true
  | _ => false

/-- An answer with a status. -/
def answers (status : ToolStatus) (e : SandboxEvent η × SandboxAnswer) : Bool :=
  e.2.status? = some status

theorem countP_concat {α : Type} (p : α → Bool) (l : List α) (a : α) :
    (l ++ [a]).countP p = l.countP p + (p a).toNat := by
  rw [List.countP_append, List.countP_singleton]
  cases p a <;> rfl

/-- **What an event adds to the counters.** -/
theorem step_counters (event : SandboxEvent η) (s : SandboxState η) :
    let e := (event, (X.step s event).1)
    let s' := (X.step s event).2
    s'.cancelRequestedTotal = s.cancelRequestedTotal + (grants e).toNat ∧
      s'.cancelConsumedTotal = s.cancelConsumedTotal + (answers .cancelled e).toNat ∧
      s'.timeoutTotal = s.timeoutTotal + (answers .timeout e).toNat ∧
      s'.pendingCancellations.card + (answers .cancelled e).toNat + (withdraws e).toNat =
        s.pendingCancellations.card + (grants e).toNat := by
  cases event with
  | requestCancellation callId =>
    by_cases hfresh : Text.strip callId = "" ∨ Text.strip callId ∈ s.pendingCancellations
    · have hrefused : requestCancellation callId s = (false, s) := if_pos hfresh
      rw [step, hrefused]
      exact ⟨rfl, rfl, rfl, rfl⟩
    · obtain ⟨hne, hfresh⟩ := not_or.mp hfresh
      rw [step, requestCancellation_of_fresh hne hfresh]
      exact ⟨rfl, rfl, rfl, Finset.card_insert_of_notMem hfresh⟩
  | clearCancellation callId =>
    by_cases htoken : HasToken callId s
    · rw [step, clearCancellation_of_hasToken htoken]
      exact ⟨rfl, rfl, rfl, Finset.card_erase_add_one htoken.2⟩
    · have hrefused : clearCancellation callId s = (false, s) := if_pos (not_hasToken.mp htoken)
      rw [step, hrefused]
      exact ⟨rfl, rfl, rfl, rfl⟩
  | controlStats => exact ⟨rfl, rfl, rfl, rfl⟩
  | «begin» call descriptor answeredMs =>
    rw [step]
    rcases X.begin_cases call descriptor answeredMs s with
      ⟨timeoutMs, -, htoken, hbegin⟩ | ⟨-, ⟨answer, hbegin, hstatus, -⟩ | ⟨timeoutMs, -, hbegin⟩⟩
    · rw [hbegin]
      exact ⟨rfl, rfl, rfl, Finset.card_erase_add_one htoken.2⟩
    · rw [hbegin]
      have hnot {status : ToolStatus} (h : status ≠ .blocked) :
          answers status (.begin call descriptor answeredMs, answer) = false := by
        rw [answers, decide_eq_false_iff_not]
        rcases hstatus with hnone | hblocked
        · rw [hnone]
          exact nofun
        · rw [hblocked]
          exact fun heq ↦ h (Option.some.inj heq).symm
      simp [grants, withdraws, hnot]
    · rw [hbegin]
      exact ⟨rfl, rfl, rfl, rfl⟩
  | handled n outcome durationMs answeredMs =>
    rw [step, handled]
    cases s.running.get? n with
    | none => exact ⟨rfl, rfl, rfl, rfl⟩
    | some c =>
      have hstatus := status_answerTo (X := X) c outcome durationMs answeredMs
      refine ⟨rfl, ?_, ?_, ?_⟩ <;> simp [answers, grants, withdraws, SandboxAnswer.status?, hstatus]
      split <;> rename_i htimeout <;> simp [htimeout]

/-- **The books of a runtime.**  Whatever the threads do and in whatever order: the counters count the
requests that were accepted, the calls that were cancelled and those that timed out, and each accepted
request has cancelled one call, was taken back, or is pending. -/
theorem control_accounts (X : TenantSandboxToolRuntime) (events : List (SandboxEvent η)) :
    let s := Run.exec X.step {} events
    let history := Run.trace X.step {} events
    s.cancelRequestedTotal = history.countP grants ∧
      s.cancelConsumedTotal = history.countP (answers .cancelled) ∧
      s.timeoutTotal = history.countP (answers .timeout) ∧
      s.cancelRequestedTotal =
        s.cancelConsumedTotal + history.countP withdraws + s.pendingCancellations.card := by
  have hany : Run.Along X.step (fun _ _ ↦ True) ({} : SandboxState η) events :=
    Run.along_of_forall (fun _ _ ↦ trivial) _ _
  refine Run.trace_invariant (h := []) (P := fun history (s : SandboxState η) ↦
    s.cancelRequestedTotal = history.countP grants ∧
      s.cancelConsumedTotal = history.countP (answers .cancelled) ∧
      s.timeoutTotal = history.countP (answers .timeout) ∧
      s.cancelRequestedTotal =
        s.cancelConsumedTotal + history.countP withdraws + s.pendingCancellations.card)
    (fun history s event _ h ↦ ?_) hany ⟨rfl, rfl, rfl, rfl⟩
  obtain ⟨hrequested, hconsumed, htimeouts, htokens⟩ := X.step_counters event s
  simp only [countP_concat]
  omega

/-! ## Which calls are cancelled -/

/-- A request that leaves a token for the call, be it accepted or not. -/
def Requests (callId : String) : SandboxEvent η → Prop
  | .requestCancellation id => Text.strip id = Text.strip callId
  | _ => False

/-- An event after which there is no token for the call: a token is taken back, or a call of the same name
begins.  A call whose timeout cannot be read fails before it looks for a token. -/
def Settles (X : TenantSandboxToolRuntime) (callId : String) : SandboxEvent η → Prop
  | .clearCancellation id => Text.strip id = Text.strip callId
  | .begin call descriptor _ =>
    Text.strip call.callId = Text.strip callId ∧
      (X.policy.resolveTimeoutMs X.texts descriptor).isOk = true
  | _ => False

/-- An event that keeps the tokens, for a call that the event does not settle. -/
theorem hasToken_of_kept {callId : String} {event : SandboxEvent η} {t : SandboxState η}
    (hkept : t.pendingCancellations = s.pendingCancellations) (hrequests : ¬Requests callId event)
    (hsettles : Settles X callId event → ¬HasToken callId s) :
    HasToken callId t ↔
      Text.strip callId ≠ "" ∧ (Requests callId event ∨ HasToken callId s ∧ ¬Settles X callId event) := by
  rw [HasToken, hkept]
  constructor
  · exact fun h ↦ ⟨h.1, .inr ⟨h, fun hsettled ↦ hsettles hsettled h⟩⟩
  · rintro ⟨-, hrequested | ⟨h, -⟩⟩
    · exact absurd hrequested hrequests
    · exact h

/-- The same, where the token of one call is removed. -/
theorem hasToken_of_erased {callId id : String} {event : SandboxEvent η} {t : SandboxState η}
    (herased : t.pendingCancellations = s.pendingCancellations.erase (Text.strip id))
    (hrequests : ¬Requests callId event)
    (hsettles : Settles X callId event ↔ Text.strip id = Text.strip callId) :
    HasToken callId t ↔
      Text.strip callId ≠ "" ∧ (Requests callId event ∨ HasToken callId s ∧ ¬Settles X callId event) := by
  rw [HasToken, herased, Finset.mem_erase, hsettles]
  constructor
  · exact fun ⟨hne, hother, hmem⟩ ↦ ⟨hne, .inr ⟨⟨hne, hmem⟩, fun heq ↦ hother heq.symm⟩⟩
  · rintro ⟨hne, hrequested | ⟨⟨-, hmem⟩, hother⟩⟩
    · exact absurd hrequested hrequests
    · exact ⟨hne, fun heq ↦ hother heq.symm, hmem⟩

/-- **What an event does to the token of a call.** -/
theorem hasToken_step (callId : String) (event : SandboxEvent η) (s : SandboxState η) :
    HasToken callId (X.step s event).2 ↔
      Text.strip callId ≠ "" ∧ (Requests callId event ∨ HasToken callId s ∧ ¬Settles X callId event) := by
  cases event with
  | requestCancellation id =>
    by_cases hsame : Text.strip id = Text.strip callId
    · have hleft : HasToken callId (X.step s (.requestCancellation id)).2 ↔ Text.strip callId ≠ "" := by
        refine ⟨And.left, fun hne ↦ ⟨hne, ?_⟩⟩
        rw [step, requestCancellation]
        split
        · next hrefused => exact hsame ▸ hrefused.resolve_left fun heq ↦ hne (hsame ▸ heq)
        · exact hsame ▸ Finset.mem_insert_self _ _
      rw [hleft]
      exact (and_iff_left (.inl hsame)).symm
    · have hother : Text.strip callId ∈ (X.step s (.requestCancellation id)).2.pendingCancellations ↔
          Text.strip callId ∈ s.pendingCancellations := by
        rw [step, requestCancellation]
        split
        · exact Iff.rfl
        · exact Finset.mem_insert.trans (or_iff_right fun heq ↦ hsame heq.symm)
      rw [HasToken, hother]
      exact ⟨fun h ↦ ⟨h.1, .inr ⟨h, fun hsettled ↦ hsettled⟩⟩, fun h ↦ (h.2.resolve_left hsame).1⟩
  | clearCancellation id =>
    by_cases htoken : HasToken id s
    · rw [step, clearCancellation_of_hasToken htoken]
      exact hasToken_of_erased rfl (fun h ↦ h) Iff.rfl
    · have hrefused : clearCancellation id s = (false, s) := if_pos (not_hasToken.mp htoken)
      rw [step, hrefused]
      refine hasToken_of_kept rfl (fun h ↦ h) fun hsame h ↦ htoken ?_
      rwa [HasToken, show Text.strip id = Text.strip callId from hsame]
  | controlStats => exact hasToken_of_kept rfl (fun h ↦ h) False.elim
  | «begin» call descriptor answeredMs =>
    rw [step]
    rcases X.begin_cases call descriptor answeredMs s with
      ⟨timeoutMs, htimeout, htoken, hbegin⟩ | ⟨hnot, hkept⟩
    · rw [hbegin]
      refine hasToken_of_erased rfl (fun h ↦ h) (and_iff_left ?_)
      rw [htimeout]
      rfl
    · have hpending : (X.begin call descriptor answeredMs s).2.pendingCancellations =
          s.pendingCancellations := by
        rcases hkept with ⟨answer, hbegin, -⟩ | ⟨timeoutMs, -, hbegin⟩ <;> rw [hbegin]
      refine hasToken_of_kept hpending (fun h ↦ h) fun ⟨hsame, hok⟩ h ↦ hnot ⟨hok, ?_⟩
      rwa [HasToken, hsame]
  | handled n outcome durationMs answeredMs =>
    have hpending : (X.step s (.handled n outcome durationMs answeredMs)).2.pendingCancellations =
        s.pendingCancellations := by
      rw [step, handled]
      split <;> rfl
    exact hasToken_of_kept hpending (fun h ↦ h) False.elim

/-- There is a token for a call exactly if one was asked for and nothing since has settled it. -/
theorem hasToken_exec (callId : String) (events : List (SandboxEvent η)) :
    HasToken callId (Run.exec X.step {} events) ↔
      Text.strip callId ≠ "" ∧ Lasting (Requests callId) (Settles X callId) events := by
  induction events using List.reverseRecOn with
  | nil =>
    refine ⟨fun h ↦ absurd h.2 (Finset.notMem_empty _), ?_⟩
    rintro ⟨-, before, event, after, heq, -⟩
    cases before <;> cases heq
  | append_singleton events event ih =>
    rw [Run.exec_append, lasting_concat]
    refine (hasToken_step callId event _).trans ?_
    rw [ih]
    exact and_congr_right fun hne ↦ or_congr_right (and_congr_left' (and_iff_right hne))

/-- **Which calls are cancelled.**  A call that begins is cancelled exactly if its timeout can be read and
a cancellation was asked for under its name, and since then none was taken back and no other call of that
name has begun whose timeout could be read. -/
theorem call_cancelled_iff (X : TenantSandboxToolRuntime) (events : List (SandboxEvent η))
    (call : ToolCallContext) (descriptor : ToolDescriptor η) (answeredMs : Int) :
    (X.begin call descriptor answeredMs (Run.exec X.step {} events)).1.status? = some .cancelled ↔
      (X.policy.resolveTimeoutMs X.texts descriptor).isOk = true ∧ Text.strip call.callId ≠ "" ∧
        Lasting (Requests call.callId) (Settles X call.callId) events := by
  rw [← hasToken_exec]
  rcases X.begin_cases call descriptor answeredMs (Run.exec X.step {} events) with
    ⟨timeoutMs, htimeout, htoken, hbegin⟩ |
      ⟨hnot, ⟨answer, hbegin, hstatus, -⟩ | ⟨timeoutMs, -, hbegin⟩⟩
  · rw [hbegin, htimeout]
    exact ⟨fun _ ↦ ⟨rfl, htoken⟩, fun _ ↦ rfl⟩
  · rw [hbegin]
    refine ⟨fun hcancelled ↦ ?_, fun h ↦ absurd h hnot⟩
    rcases hstatus with hnone | hblocked
    · cases hnone.symm.trans hcancelled
    · cases hblocked.symm.trans hcancelled
  · rw [hbegin]
    exact ⟨fun h ↦ (Option.some_ne_none _ h.symm).elim, fun h ↦ absurd h hnot⟩

/-! ## Which calls succeed -/

/-- The `n`-th call is on its way to the handler. -/
def starts (n : Nat) : SandboxEvent η × SandboxAnswer → Bool
  | (_, .started m) => m = n
  | _ => false

/-- The `n`-th call is answered. -/
def ends (n : Nat) : SandboxEvent η × SandboxAnswer → Bool
  | (.handled m _ _ _, .result _) => m = n
  | _ => false

/-- A success that has kept to the limits: those of the platform when it began, its own budget when it was
answered. -/
def WithinLimits (X : TenantSandboxToolRuntime) (history : List (SandboxEvent η × SandboxAnswer))
    (event : SandboxEvent η) (result : HostedResult) : Prop :=
  ∃ n value durationMs answeredMs call descriptor begunMs limits,
    event = .handled n (.output value) durationMs answeredMs ∧
    (.begin call descriptor begunMs, .started n) ∈ history ∧
    result = X.successResult call result.timeoutMs durationMs value ∧
    (X.policy.minTimeoutMs ≤ result.timeoutMs ∧
      result.timeoutMs ≤ max X.policy.minTimeoutMs X.policy.maxTimeoutMs) ∧
    ManifestBudgetResourceHooks.limitsForDescriptor X.texts descriptor = .ok limits ∧
    (∀ memory ∈ limits.memoryBudgetMb, memory ≤ X.hooks.platformMemoryBudgetMb) ∧
    ∀ cpu ∈ limits.cpuBudgetMs, durationMs ≤ cpu ∧ cpu ≤ X.hooks.platformCpuBudgetMs

/-- What a runtime knows about its calls. -/
structure Coherent (X : TenantSandboxToolRuntime) (history : List (SandboxEvent η × SandboxAnswer))
    (s : SandboxState η) : Prop where
  running : ∀ n c, s.running.get? n = some c → Admitted X c ∧
    ∃ begunMs, (.begin c.call c.descriptor begunMs, .started n) ∈ history
  begun : ∀ n, history.countP (starts n) = (decide (n < s.calls)).toNat
  answered : ∀ n, history.countP (starts n) =
    history.countP (ends n) + (s.running.get? n).isSome.toNat
  success : ∀ event result, (event, .result result) ∈ history → result.status = .success →
    WithinLimits X history event result

theorem WithinLimits.append {history : List (SandboxEvent η × SandboxAnswer)} {event : SandboxEvent η}
    {result : HostedResult} (h : WithinLimits X history event result)
    (later : List (SandboxEvent η × SandboxAnswer)) : WithinLimits X (history ++ later) event result := by
  obtain ⟨n, value, durationMs, answeredMs, call, descriptor, begunMs, limits, hevent, hbegun, h⟩ := h
  exact ⟨n, value, durationMs, answeredMs, call, descriptor, begunMs, limits, hevent,
    List.mem_append_left _ hbegun, h⟩

/-- An output that is accepted was within the limits. -/
theorem withinLimits_answerTo {history : List (SandboxEvent η × SandboxAnswer)} {n : Nat} {c : Running η}
    {outcome : HandlerOutcome} {durationMs answeredMs begunMs : Int} (hadmitted : Admitted X c)
    (hbegun : (.begin c.call c.descriptor begunMs, .started n) ∈ history)
    (hsuccess : (X.answerTo c outcome durationMs answeredMs).status = .success) :
    WithinLimits X history (.handled n outcome durationMs answeredMs)
      (X.answerTo c outcome durationMs answeredMs) := by
  cases outcome with
  | timedOut => cases hsuccess
  | raised message => cases hsuccess
  | output value =>
    rw [answerTo] at hsuccess ⊢
    cases hafter : ManifestBudgetResourceHooks.afterExecute X.texts c.descriptor durationMs with
    | error error =>
      rw [hafter] at hsuccess
      cases error <;> cases hsuccess
    | ok decision =>
      rw [hafter] at hsuccess
      by_cases hallow : decision.allow = true
      · obtain ⟨before, hbefore, hbeforeAllow⟩ := hadmitted.decision
        obtain ⟨earlier, hearlier, hmemory, hcpu⟩ :=
          ManifestBudgetResourceHooks.budgets_of_before hbefore hbeforeAllow
        obtain ⟨limits, hlimits, hbudget⟩ := ManifestBudgetResourceHooks.budget_of_after hafter hallow
        obtain rfl : earlier = limits := Except.ok.inj (hearlier.symm.trans hlimits)
        simp only [if_pos hallow]
        exact ⟨n, value, durationMs, answeredMs, c.call, c.descriptor, begunMs, earlier, rfl, hbegun, rfl,
          SandboxRuntimePolicy.bounds_of_resolve hadmitted.timeoutMs, hlimits, hmemory,
          fun cpu hmem ↦ ⟨hbudget cpu hmem, hcpu cpu hmem⟩⟩
      · simp only [if_neg hallow] at hsuccess
        cases hsuccess

/-- What happens beside the calls. -/
theorem Coherent.quiet {history : List (SandboxEvent η × SandboxAnswer)} {t : SandboxState η}
    {e : SandboxEvent η × SandboxAnswer} (h : Coherent X history s) (hrunning : t.running = s.running)
    (hcalls : t.calls = s.calls) (hstarts : ∀ n, starts n e = false) (hends : ∀ n, ends n e = false)
    (hsuccess : e.2.status? ≠ some .success) : Coherent X (history ++ [e]) t := by
  refine ⟨fun n c hc ↦ ?_, fun n ↦ ?_, fun n ↦ ?_, fun event result hmem hstatus ↦ ?_⟩
  · obtain ⟨hadmitted, begunMs, hbegun⟩ := h.running n c (hrunning ▸ hc)
    exact ⟨hadmitted, begunMs, List.mem_append_left _ hbegun⟩
  · rw [countP_concat, hstarts, hcalls]
    exact h.begun n
  · rw [countP_concat, countP_concat, hstarts, hends, hrunning]
    exact h.answered n
  · rcases List.mem_append.mp hmem with hmem | hmem
    · exact (h.success event result hmem hstatus).append _
    · obtain rfl := List.mem_singleton.mp hmem
      exact absurd (congrArg some hstatus) hsuccess

/-- A call waits for its handler. -/
theorem Coherent.started {history : List (SandboxEvent η × SandboxAnswer)} (h : Coherent X history s)
    {call : ToolCallContext} {descriptor : ToolDescriptor η} {timeoutMs : Int}
    (hadmitted : Admitted X ⟨call, descriptor, timeoutMs⟩) (answeredMs : Int) :
    Coherent X (history ++ [(.begin call descriptor answeredMs, .started s.calls)]) { s with
      running := s.running.set s.calls ⟨call, descriptor, timeoutMs⟩
      calls := s.calls + 1 } := by
  have hnone : history.countP (starts s.calls) = 0 := by
    rw [h.begun, decide_eq_false (Nat.lt_irrefl _)]
    rfl
  refine ⟨fun n c hc ↦ ?_, fun n ↦ ?_, fun n ↦ ?_, fun event result hmem hstatus ↦ ?_⟩
  · rw [Dict.get?_set] at hc
    split at hc
    · next hn =>
      cases hc
      exact ⟨hadmitted, answeredMs, List.mem_append_right _ (hn ▸ List.mem_cons_self)⟩
    · obtain ⟨hold, begunMs, hbegun⟩ := h.running n c hc
      exact ⟨hold, begunMs, List.mem_append_left _ hbegun⟩
  · rw [countP_concat, h.begun]
    change _ + (decide (s.calls = n)).toNat = _
    by_cases hn : s.calls = n
    · simp [hn]
    · have hiff : n < s.calls ↔ n < s.calls + 1 := by omega
      simp [hn, hiff]
  · rw [countP_concat, countP_concat, Dict.get?_set]
    change _ + (decide (s.calls = n)).toNat = _ + 0 + _
    have hold := h.answered n
    by_cases hn : s.calls = n
    · subst hn
      have hended : history.countP (ends s.calls) = 0 := by omega
      rw [if_pos rfl, hnone, hended, decide_eq_true rfl]
      rfl
    · rw [if_neg (Ne.symm hn), decide_eq_false hn]
      exact hold
  · rcases List.mem_append.mp hmem with hmem | hmem
    · exact (h.success event result hmem hstatus).append _
    · cases List.mem_singleton.mp hmem

/-- A call is answered. -/
theorem Coherent.ended {history : List (SandboxEvent η × SandboxAnswer)} (h : Coherent X history s)
    {n : Nat} {c : Running η} (hc : s.running.get? n = some c) (outcome : HandlerOutcome)
    (durationMs answeredMs : Int) (timeouts : Nat) :
    Coherent X (history ++ [(.handled n outcome durationMs answeredMs,
      .result (X.answerTo c outcome durationMs answeredMs))])
      { s with running := s.running.erase n, timeoutTotal := timeouts } := by
  obtain ⟨hadmitted, begunMs, hbegun⟩ := h.running n c hc
  refine ⟨fun m d hd ↦ ?_, fun m ↦ ?_, fun m ↦ ?_, fun event result hmem hstatus ↦ ?_⟩
  · rw [Dict.get?_erase] at hd
    split at hd
    · cases hd
    · obtain ⟨hold, begunMs, hbegun⟩ := h.running m d hd
      exact ⟨hold, begunMs, List.mem_append_left _ hbegun⟩
  · rw [countP_concat]
    exact h.begun m
  · rw [countP_concat, countP_concat, Dict.get?_erase, h.answered m]
    change _ + 0 = _ + (decide (n = m)).toNat + _
    by_cases hm : n = m
    · subst hm
      rw [if_pos rfl, hc, decide_eq_true rfl]
      rfl
    · rw [if_neg (Ne.symm hm), decide_eq_false hm]
      rfl
  · rcases List.mem_append.mp hmem with hmem | hmem
    · exact (h.success event result hmem hstatus).append _
    · cases List.mem_singleton.mp hmem
      exact (withinLimits_answerTo hadmitted hbegun hstatus).append _

/-- **Every event keeps the runtime coherent.** -/
theorem coherent_step {history : List (SandboxEvent η × SandboxAnswer)} (h : Coherent X history s)
    (event : SandboxEvent η) :
    Coherent X (history ++ [(event, (X.step s event).1)]) (X.step s event).2 := by
  cases event with
  | requestCancellation callId =>
    refine h.quiet ?_ ?_ (fun _ ↦ rfl) (fun _ ↦ rfl) (fun heq ↦ by cases heq) <;>
      rw [step, requestCancellation] <;> split <;> rfl
  | clearCancellation callId =>
    refine h.quiet ?_ ?_ (fun _ ↦ rfl) (fun _ ↦ rfl) (fun heq ↦ by cases heq) <;>
      rw [step, clearCancellation] <;> split <;> rfl
  | controlStats => exact h.quiet rfl rfl (fun _ ↦ rfl) (fun _ ↦ rfl) (fun heq ↦ by cases heq)
  | «begin» call descriptor answeredMs =>
    rw [step]
    rcases X.begin_cases call descriptor answeredMs s with
      ⟨timeoutMs, -, -, hbegin⟩ | ⟨-, ⟨answer, hbegin, hstatus, hnot⟩ | ⟨timeoutMs, hadmitted, hbegin⟩⟩
    · rw [hbegin]
      exact h.quiet rfl rfl (fun _ ↦ rfl) (fun _ ↦ rfl) (fun heq ↦ by cases heq)
    · rw [hbegin]
      refine h.quiet rfl rfl (fun n ↦ ?_) (fun _ ↦ rfl) fun hsuccess ↦ ?_
      · cases answer with
        | started m => exact absurd rfl (hnot m)
        | _ => rfl
      · rcases hstatus with hnone | hblocked
        · cases hnone.symm.trans hsuccess
        · cases hblocked.symm.trans hsuccess
    · rw [hbegin]
      exact h.started hadmitted answeredMs
  | handled n outcome durationMs answeredMs =>
    rw [step, handled]
    cases hc : s.running.get? n with
    | none => exact h.quiet rfl rfl (fun _ ↦ rfl) (fun _ ↦ rfl) (fun heq ↦ by cases heq)
    | some c => exact h.ended hc outcome durationMs answeredMs _

theorem coherent_exec (X : TenantSandboxToolRuntime) (events : List (SandboxEvent η)) :
    Coherent X (Run.trace X.step {} events) (Run.exec X.step {} events) := by
  have hany : Run.Along X.step (fun _ _ ↦ True) ({} : SandboxState η) events :=
    Run.along_of_forall (fun _ _ ↦ trivial) _ _
  have hinitial : Coherent X [] ({} : SandboxState η) :=
    ⟨fun n c hc ↦ (Option.some_ne_none c hc.symm).elim, fun n ↦ rfl, fun n ↦ rfl,
      fun event result hmem ↦ absurd hmem List.not_mem_nil⟩
  exact Run.trace_invariant (h := []) (P := Coherent X)
    (fun history s event _ h ↦ coherent_step h event) hany hinitial

/-- **No call is lost, none is answered twice.**  A number is given to at most one call; that call waits or
was answered, once. -/
theorem answered_once (X : TenantSandboxToolRuntime) (events : List (SandboxEvent η)) (n : Nat) :
    let s := Run.exec X.step {} events
    let history := Run.trace X.step {} events
    history.countP (starts n) = (decide (n < s.calls)).toNat ∧
      history.countP (starts n) = history.countP (ends n) + (s.running.get? n).isSome.toNat :=
  ⟨(coherent_exec X events).begun n, (coherent_exec X events).answered n⟩

/-- **Successes keep to the limits.**  In every run, what is answered as a success is the output of a call
that had begun, had valid limits within those of the platform, and took no longer than its budget. -/
theorem success_within_limits (X : TenantSandboxToolRuntime) (events : List (SandboxEvent η)) :
    ∀ e ∈ Run.trace X.step {} events, ∀ result, e.2 = .result result → result.status = .success →
      WithinLimits X (Run.trace X.step {} events) e.1 result := by
  rintro ⟨event, answer⟩ hmem result rfl hsuccess
  exact (coherent_exec X events).success event result hmem hsuccess

/-- A runtime as it is built, on ASCII texts. -/
def plainSandbox : TenantSandboxToolRuntime where
  texts := asciiTools

/-- A tool that may take a second. -/
def echoDescriptor : ToolDescriptor Unit where
  name := "echo"
  handler := ()
  metadata := Dict.empty.set "sandbox_limits" (.dict [("cpu_budget_ms", .int 1000)])

/-- One call of it. -/
def echoCall : ToolCallContext where
  callId := "call"
  toolName := "echo"

/-- The call begins, and its handler has an output after 5 ms. -/
def echoEvents : List (SandboxEvent Unit) :=
  [.begin echoCall echoDescriptor 0, .handled 0 (.output (.int 7)) 5 6]

theorem success_within_limits_echo :
    WithinLimits plainSandbox (Run.trace plainSandbox.step {} echoEvents)
      (.handled 0 (.output (.int 7)) 5 6) (plainSandbox.successResult echoCall 30000 5 (.int 7)) :=
  success_within_limits plainSandbox echoEvents
    (.handled 0 (.output (.int 7)) 5 6, .result (plainSandbox.successResult echoCall 30000 5 (.int 7)))
    (List.mem_cons_of_mem _ List.mem_cons_self) _ rfl rfl

end TenantSandboxToolRuntime

end Tools
end ExoBrain
