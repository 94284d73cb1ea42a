import ExoBrain.Byoc.ConnectorRuntime
import ExoBrain.Core.Orchestrator
import ExoBrain.Lib.Effects
import ExoBrain.Policies.FairAdmission

/-!
# A call of `execute`, from its first check to its last exit

`execute` is the one method of the runtime with a `try` in it.  It may take a slot of fair
admission; from then on every way out has to give the slot back: the queued answer of a runtime
that does not wait, the mapped result, the timeout, and an exception from any of the stores.

Here it is a program of an environment.  An `ExecuteHost` is anything that offers what `execute`
calls, over one state that the other threads share, so it may answer differently every time; the
operations of the stores may also raise.  What matters afterwards is logged: slots taken and given
back, and what the tenant is charged.

The `try` begins one line too late: the periodic cleanup stands between the slot and the `try`.
`CleanupSafe` is the condition that it does not raise there, and `slots_given_back_iff` says that
it is exactly what decides whether the slot is given back.
-/

set_option autoImplicit false

namespace ExoBrain
namespace Byoc

open Core (ToolStatus)
open Effects Effects.Prog
open Policies (FairAdmissionToken)

/-! ## Results of tools -/

/-- The fields of a `NormalizedError`, without its details. -/
structure NormalizedError where
  code : String := ""
  category : String := ""
  message : String := ""
  retryable : Bool := false
deriving DecidableEq, Repr

/-- What a `ToolResult` of the runtime carries in its `result`. -/
inductive ToolPayload
  | none
  /-- The answer of a runtime that does not wait. -/
  | queued (jobId : String)
  /-- The output of a worker, and the identity of its artifact. -/
  | mapped (result : ByocToolResultEnvelope)
deriving DecidableEq, Repr

/-- The fields of a `ToolResult` that differ between the ways out of `execute`. -/
structure ToolResult where
  callId : String
  toolName : String
  status : ToolStatus
  result : ToolPayload := .none
  error : NormalizedError := {}
deriving DecidableEq, Repr

/-- `status_map.get(result.status, ToolStatus.ERROR)`. -/
def toolStatus (status : String) : ToolStatus :=
  if status = "success" then .success
  else if status = "timeout" then .timeout
  else if status = "cancelled" then .cancelled
  else .error

/-- `_cost_limit_result`. -/
def costLimitResult (call : ToolCallContext) (reasonCode : String) : ToolResult where
  callId := call.callId
  toolName := call.toolName
  status := .error
  error :=
    { code := if Text.strip reasonCode = "" then "BYOC_COST_LIMIT_EXCEEDED" else Text.strip reasonCode
      category := "policy"
      message := "BYOC tenant cost limit exceeded." }

/-- `_fair_admission_timeout_result`. -/
def fairAdmissionTimeoutResult (call : ToolCallContext) : ToolResult where
  callId := call.callId
  toolName := call.toolName
  status := .error
  error :=
    { code := "BYOC_FAIR_ADMISSION_TIMEOUT"
      category := "policy"
      message := "BYOC fair admission wait timeout exceeded."
      retryable := true }

/-- `_queued_result`. -/
def queuedResult (call : ToolCallContext) (jobId : String) : ToolResult where
  callId := call.callId
  toolName := call.toolName
  status := .success
  result := .queued jobId

/-- `_timeout_result`. -/
def timeoutResult (call : ToolCallContext) (timeoutMs : Int) : ToolResult where
  callId := call.callId
  toolName := call.toolName
  status := .timeout
  error :=
    { code := "BYOC_RUNTIME_TIMEOUT"
      category := "tool_runtime"
      message := "BYOC worker result not received before timeout (" ++ toString timeoutMs ++ "ms)."
      retryable := true }

/-- `_map_result`, without the charge. -/
def mappedResult (call : ToolCallContext) (result : ByocToolResultEnvelope) : ToolResult where
  callId := call.callId
  toolName := call.toolName
  status := toolStatus result.status
  result := if toolStatus result.status = .success then .mapped result else .none
  error :=
    if toolStatus result.status = .success then {}
    else
      { code := result.errorCode
        category := "tool_runtime"
        message := result.errorMessage
        retryable := result.retryable }

/-! ## Settings -/

/-- The arguments of `__init__`, with those that only `execute` reads. -/
structure ExecuteSettings extends ByocRuntimeSettings where
  enforceCostLimit : Bool := false
  costSuccessMicrounits : Int := 100
  costErrorMicrounits : Int := 40
  costTimeoutMicrounits : Int := 60
  costCancelledMicrounits : Int := 20
  fairAdmissionEnabled : Bool := false
deriving DecidableEq, Repr

/-- The attributes `__init__` stores. -/
def ExecuteSettings.attributes (raw : ExecuteSettings) : ExecuteSettings :=
  { raw with
    toByocRuntimeSettings := raw.toByocRuntimeSettings.attributes
    costSuccessMicrounits := max raw.costSuccessMicrounits 0
    costErrorMicrounits := max raw.costErrorMicrounits 0
    costTimeoutMicrounits := max raw.costTimeoutMicrounits 0
    costCancelledMicrounits := max raw.costCancelledMicrounits 0 }

/-- `_cost_for_status`. -/
def ExecuteSettings.costForStatus (settings : ExecuteSettings) (status : ToolStatus) : Int :=
  match status with
  | .success => settings.attributes.costSuccessMicrounits
  | .timeout => settings.attributes.costTimeoutMicrounits
  | .cancelled => settings.attributes.costCancelledMicrounits
  | .error | .blocked => settings.attributes.costErrorMicrounits

/-! ## The program -/

/-- What `execute` calls, over the states `σ` of everything around it.  The operations of the
stores answer `none` when they raise. -/
structure ExecuteHost (σ : Type) where
  /-- `_cost_limit_exceeded`: the reason code, if the limit is exceeded. -/
  costLimitExceeded : (tenantId providerId toolName : String) → σ → Option String × σ
  /-- `_acquire_fair_admission`. -/
  acquireFairAdmission : (tenantId : String) → σ → Option FairAdmissionToken × σ
  /-- `release` of the coordinator. -/
  release : FairAdmissionToken → σ → Unit × σ
  /-- `_run_periodic_cleanup`. -/
  runPeriodicCleanup : (tenantId : String) → σ → Option Unit × σ
  /-- `uuid4`. -/
  newJobId : σ → String × σ
  /-- `enqueue` of the job store. -/
  enqueue : ByocToolJobEnvelope → σ → Option Unit × σ
  /-- `_requeue_expired_leases`. -/
  requeueExpiredLeases : (tenantId : String) → σ → Option Unit × σ
  /-- `consume` of the result store. -/
  consume : (jobId : String) → σ → Option (Option ByocToolResultEnvelope) × σ
  /-- `remaining <= 0`, and the wait until the next turn when it is not. -/
  deadlinePassed : (timeoutMs : Int) → σ → Bool × σ
  /-- `_record_tenant_cost`. -/
  recordTenantCost : (tenantId providerId toolName : String) → (amount : Int) → σ → Unit × σ

/-- What `execute` is seen to do. -/
inductive ExecuteAction
  | granted (token : FairAdmissionToken)
  | released (token : FairAdmissionToken)
  | charged (tenantId : String) (amount : Int)
deriving DecidableEq, Repr

section Program

variable {σ : Type} (host : ExecuteHost σ) (settings : ExecuteSettings) (call : ToolCallContext)
  (descriptor : ToolDescriptor)

/-- Charge the tenant of the call. -/
def charge (toolName : String) (amount : Int) : Prog σ ExecuteAction Unit := do
  perform (host.recordTenantCost (executeTenant call.tenantId) call.providerId toolName amount)
  act (.charged (executeTenant call.tenantId) amount)

/-- One turn of the loop that waits: the result, `none` when time is up, or another turn. -/
def pollTurn (jobId : String) :
    Prog σ ExecuteAction (Option (Option ByocToolResultEnvelope)) := do
  Prog.call (host.requeueExpiredLeases (executeTenant call.tenantId))
  match ← Prog.call (host.consume jobId) with
  | some result => pure (some (some result))
  | none =>
    if ← perform (host.deadlinePassed (max descriptor.timeoutMs 1)) then pure (some none)
    else pure none

/-- The body of the `try`. -/
def executeBody (turns : Nat) : Prog σ ExecuteAction ToolResult := do
  let jobId ← perform host.newJobId
  Prog.call (host.enqueue (jobOfCall call descriptor jobId))
  if settings.nonBlockingExecute then pure (queuedResult call jobId)
  else
    match ← repeatUntil (pollTurn host call descriptor jobId) turns with
    | none =>
      charge host call descriptor.name settings.attributes.costTimeoutMicrounits
      pure (timeoutResult call (max descriptor.timeoutMs 1))
    | some result =>
      charge host call call.toolName (settings.costForStatus (toolStatus result.status))
      pure (mappedResult call result)

/-- The body of the `finally`. -/
def giveBackSlot (fairToken : Option FairAdmissionToken) : Prog σ ExecuteAction Unit :=
  match fairToken with
  | none => pure ()
  | some token => do
    perform (host.release token)
    act (.released token)

/-- `execute`, once the call is admitted. -/
def executeAdmitted (turns : Nat) (fairToken : Option FairAdmissionToken) :
    Prog σ ExecuteAction ToolResult := do
  Prog.call (host.runPeriodicCleanup (executeTenant call.tenantId))
  tryFinally (executeBody host settings call descriptor turns) (giveBackSlot host fairToken)

/-- `execute`, once the cost limit let the call pass. -/
def executeWithinBudget (turns : Nat) : Prog σ ExecuteAction ToolResult :=
  if settings.fairAdmissionEnabled then do
    match ← perform (host.acquireFairAdmission (executeTenant call.tenantId)) with
    | none => pure (fairAdmissionTimeoutResult call)
    | some token =>
      act (.granted token)
      executeAdmitted host settings call descriptor turns (some token)
  else executeAdmitted host settings call descriptor turns none

/-- `execute`. -/
def execute (turns : Nat) : Prog σ ExecuteAction ToolResult :=
  if settings.enforceCostLimit then do
    match ← perform (host.costLimitExceeded (executeTenant call.tenantId) call.providerId
        descriptor.name) with
    | some reasonCode => pure (costLimitResult call reasonCode)
    | none => executeWithinBudget host settings call descriptor turns
  else executeWithinBudget host settings call descriptor turns

end Program

/-! ## Slots -/

/-- The slots that were taken. -/
def grants (l : List ExecuteAction) : List FairAdmissionToken :=
  l.filterMap fun
    | .granted token => some token
    | _ => none

/-- The slots that were given back. -/
def releases (l : List ExecuteAction) : List FairAdmissionToken :=
  l.filterMap fun
    | .released token => some token
    | _ => none

/-- Up to here no slot was taken or given back after `l`. -/
def SameSlots {α σ : Type} (l : List ExecuteAction) (_ : Ending α) (l' : List ExecuteAction)
    (_ : σ) : Prop :=
  grants l' = grants l ∧ releases l' = releases l

section Slots

variable {σ : Type} (host : ExecuteHost σ) (settings : ExecuteSettings) (call : ToolCallContext)
  (descriptor : ToolDescriptor)

theorem wp_charge (toolName : String) (amount : Int) {α : Type} {f : Unit → Prog σ ExecuteAction α}
    {Q : Ending α → List ExecuteAction → σ → Prop} {l : List ExecuteAction} {s : σ}
    (h : ∀ s, wp (f ()) Q (l ++ [.charged (executeTenant call.tenantId) amount]) s) :
    wp (charge host call toolName amount >>= f) Q l s := by
  rw [wp_bind, charge, wp_bind_perform, wp_act]
  exact h _

/-- What happens inside the `try` leaves the slots alone. -/
theorem wp_executeBody (turns : Nat) (l : List ExecuteAction) (s : σ) :
    wp (executeBody host settings call descriptor turns) (SameSlots l) l s := by
  have hcharged (amount : Int) :
      grants (l ++ [.charged (executeTenant call.tenantId) amount]) = grants l ∧
        releases (l ++ [.charged (executeTenant call.tenantId) amount]) = releases l := by
    simp [grants, releases]
  rw [executeBody, wp_bind_perform]
  refine wp_bind_call (fun _ s ↦ ?_) (fun _ ↦ ⟨rfl, rfl⟩)
  split
  · exact (wp_pure _).mpr ⟨rfl, rfl⟩
  · rw [wp_bind]
    refine wp_repeatUntil (I := fun l' _ ↦ l' = l) (fun l' s hl ↦ ?_) (fun l' s hl ↦ ?_) turns rfl
    · subst hl
      rw [pollTurn]
      refine wp_bind_call (fun _ s ↦ ?_) (fun _ ↦ ⟨rfl, rfl⟩)
      refine wp_bind_call (fun result s ↦ ?_) (fun _ ↦ ⟨rfl, rfl⟩)
      cases result with
      | some result =>
        rw [wp_pure]
        exact wp_charge host call _ _ fun s ↦ (wp_pure _).mpr (hcharged _)
      | none =>
        simp only
        rw [wp_bind_perform]
        split
        · rw [wp_pure]
          exact wp_charge host call _ _ fun s ↦ (wp_pure _).mpr (hcharged _)
        · exact (wp_pure _).mpr rfl
    · subst hl
      exact ⟨rfl, rfl⟩

/-- The end of an admitted call: nothing was taken, and what it holds was given back, unless the
cleanup raised before the `try`. -/
theorem wp_executeAdmitted (turns : Nat) (fairToken : Option FairAdmissionToken)
    (l : List ExecuteAction) (s : σ) :
    wp (executeAdmitted host settings call descriptor turns fairToken)
      (fun ended l' _ ↦ ended = .running ∨ grants l' = grants l ∧ releases l' = releases l ++
        if (host.runPeriodicCleanup (executeTenant call.tenantId) s).1 = none then []
        else fairToken.toList) l s := by
  rw [executeAdmitted, wp_bind, wp_call]
  cases hcleanup : (host.runPeriodicCleanup (executeTenant call.tenantId) s).1 with
  | none => exact .inr ⟨rfl, by simp⟩
  | some _ =>
    simp only [reduceCtorEq, if_false]
    rw [wp_tryFinally]
    refine wp_mono (wp_executeBody host settings call descriptor turns l _) fun ended l' s hl ↦ ?_
    obtain ⟨hgrants, hreleases⟩ := hl
    by_cases hrunning : ended = .running
    · exact .inl ⟨hrunning, .inl rfl⟩
    · refine .inr ⟨hrunning, ?_⟩
      cases fairToken with
      | none =>
        rw [giveBackSlot, wp_pure]
        exact .inr ⟨hgrants, by simpa using hreleases⟩
      | some token =>
        rw [giveBackSlot, wp_bind_perform, wp_act]
        refine .inr ⟨?_, ?_⟩
        · rw [← hgrants]
          simp [grants]
        · rw [← hreleases]
          simp [releases]

/-- The state in which a call asks for a slot, if the cost limit lets it pass. -/
def withinBudget (s : σ) : Option σ :=
  if settings.enforceCostLimit then
    match host.costLimitExceeded (executeTenant call.tenantId) call.providerId descriptor.name s with
    | (some _, _) => none
    | (none, s) => some s
  else some s

/-- **The periodic cleanup does not raise** where the call has a slot already. -/
def CleanupSafe (s : σ) : Prop :=
  ∀ s' ∈ withinBudget host settings call descriptor s, settings.fairAdmissionEnabled = true →
    ∀ token s'', host.acquireFairAdmission (executeTenant call.tenantId) s' = (some token, s'') →
      (host.runPeriodicCleanup (executeTenant call.tenantId) s'').1 ≠ none

theorem wp_executeWithinBudget (turns : Nat) (s : σ) :
    wp (executeWithinBudget host settings call descriptor turns)
      (fun ended l _ ↦ ended = .running ∨ (releases l = grants l ↔
        (settings.fairAdmissionEnabled = true → ∀ token s'',
          host.acquireFairAdmission (executeTenant call.tenantId) s = (some token, s'') →
            (host.runPeriodicCleanup (executeTenant call.tenantId) s'').1 ≠ none))) [] s := by
  rw [executeWithinBudget]
  by_cases henabled : settings.fairAdmissionEnabled = true
  · rw [if_pos henabled, wp_bind_perform]
    rcases hacquired : host.acquireFairAdmission (executeTenant call.tenantId) s with ⟨_ | token, s'⟩
    · rw [wp_pure]
      exact .inr ⟨fun _ _ token s'' h ↦ (nomatch h), fun _ ↦ rfl⟩
    · simp only
      rw [wp_bind_act]
      refine wp_mono (wp_executeAdmitted host settings call descriptor turns (some token) _ s')
        fun ended l s h ↦ h.imp id fun ⟨hgrants, hreleases⟩ ↦ ?_
      rw [hgrants, hreleases]
      have hiff : (settings.fairAdmissionEnabled = true → ∀ token' s'',
          (some token, s') = (some token', s'') →
            (host.runPeriodicCleanup (executeTenant call.tenantId) s'').1 ≠ none) ↔
          (host.runPeriodicCleanup (executeTenant call.tenantId) s').1 ≠ none := by
        constructor
        · exact fun h ↦ h henabled token s' rfl
        · rintro h - token' s'' heq
          obtain ⟨-, rfl⟩ := Prod.mk.inj heq
          exact h
      rw [hiff]
      by_cases hraised : (host.runPeriodicCleanup (executeTenant call.tenantId) s').1 = none
      · simp [hraised, grants, releases]
      · simp [hraised, grants, releases]
  · rw [if_neg henabled]
    refine wp_mono (wp_executeAdmitted host settings call descriptor turns none _ s)
      fun ended l s h ↦ h.imp id fun ⟨hgrants, hreleases⟩ ↦ ?_
    rw [hgrants, hreleases]
    simp [grants, releases, henabled]

/-- **When slots are given back.**  By the time `execute` returns or raises, it has given back the
slots it took, once each, if and only if the periodic cleanup did not raise between taking a slot
and the `try`. -/
theorem slots_given_back_iff (turns : Nat) (s : σ)
    (hended : (execute host settings call descriptor turns).ending s ≠ .running) :
    releases ((execute host settings call descriptor turns).log s) =
        grants ((execute host settings call descriptor turns).log s) ↔
      CleanupSafe host settings call descriptor s := by
  have hwp : wp (execute host settings call descriptor turns)
      (fun ended l _ ↦ ended = .running ∨ (releases l = grants l ↔
        CleanupSafe host settings call descriptor s)) [] s := by
    rw [execute]
    by_cases hlimit : settings.enforceCostLimit = true
    · rw [if_pos hlimit, wp_bind_perform]
      rcases hexceeded : host.costLimitExceeded (executeTenant call.tenantId) call.providerId
        descriptor.name s with ⟨_ | reasonCode, s'⟩
      · refine wp_mono (wp_executeWithinBudget host settings call descriptor turns s')
          fun ended l _ h ↦ h.imp id fun h ↦ h.trans ?_
        simp [CleanupSafe, withinBudget, hlimit, hexceeded]
      · rw [wp_pure]
        exact .inr (by simp [CleanupSafe, withinBudget, hlimit, hexceeded, grants, releases])
    · rw [if_neg hlimit]
      refine wp_mono (wp_executeWithinBudget host settings call descriptor turns s)
        fun ended l _ h ↦ h.imp id fun h ↦ h.trans ?_
      simp [CleanupSafe, withinBudget, hlimit]
  exact hwp.resolve_left hended

end Slots

/-- Surroundings in which a slot is free and the worker answers at once; the cleanup may raise. -/
def promptHost (cleanup : Option Unit) : ExecuteHost Unit where
  costLimitExceeded := fun _ _ _ s ↦ (none, s)
  acquireFairAdmission := fun tenantId s ↦ (some ⟨tenantId, 1⟩, s)
  release := fun _ s ↦ ((), s)
  runPeriodicCleanup := fun _ s ↦ (cleanup, s)
  newJobId := fun s ↦ ("j", s)
  enqueue := fun _ s ↦ (some (), s)
  requeueExpiredLeases := fun _ s ↦ (some (), s)
  consume := fun jobId s ↦ (some (some ⟨jobId, "t", "r", "c", "n", "success", "", "", "", false, "", "",
    "", "", "", ""⟩), s)
  deadlinePassed := fun _ s ↦ (false, s)
  recordTenantCost := fun _ _ _ _ s ↦ ((), s)

/-- A runtime with fair admission. -/
def promptSettings : ExecuteSettings := { workerJwtSecret := "s", fairAdmissionEnabled := true }

/-- The call waits for its result, and gives its slot back. -/
theorem slots_given_back_iff_prompt :
    releases ((execute (promptHost (some ())) promptSettings { callId := "c" }
        { name := "n" } 1).log ()) =
      grants ((execute (promptHost (some ())) promptSettings { callId := "c" }
        { name := "n" } 1).log ()) :=
  (slots_given_back_iff (promptHost (some ())) promptSettings { callId := "c" }
    { name := "n" } 1 () (by decide)).mpr fun _ _ _ _ _ _ ↦ nofun

/-- The cleanup raises: the call is over, and its slot is lost. -/
theorem slot_lost_in_cleanup :
    ¬∀ cleanup, (execute (promptHost cleanup) promptSettings { callId := "c" }
        { name := "n" } 1).ending () ≠ .running →
      releases ((execute (promptHost cleanup) promptSettings { callId := "c" }
          { name := "n" } 1).log ()) =
        grants ((execute (promptHost cleanup) promptSettings { callId := "c" }
          { name := "n" } 1).log ()) := by
  intro h
  have hraised : (execute (promptHost none) promptSettings { callId := "c" }
      { name := "n" } 1).ending () = .raised := by decide
  exact absurd (h none (by rw [hraised]; exact nofun)) (by decide)

end Byoc
end ExoBrain
