import ExoBrain.Tools.CallCourse
import ExoBrain.Tools.HostedGuards

/-!
# What the error codes tell

`execute` tells a tool that is not registered from one that fails by the class of the exception: the
registry raises a `KeyError`.  But so may a tool, and its result may carry any code; and the policy
replaces the result of a call without an identifier, whatever it is.

* `ClassifiesErrors` says of an allowed call that its error code tells the two apart.
* `TellsApart` is what this needs of the call, and of what the tool does.
* `error_codes_exact_iff`: an allowed call has the right code exactly then.
* `missing_key_reported_not_found` is a registered tool that raises a `KeyError`.
-/

set_option autoImplicit false

namespace ExoBrain
namespace Tools

open Policies (PolicyDecision)
open Raising Raising.Comp

variable {σ η : Type}

/-! ## What the policy lets pass -/

/-- The policy of the platform leaves the result as it is. -/
structure PassesPostcheck (result : ToolResult) : Prop where
  audited : ∃ audit, result.audit = some audit ∧ Text.strip audit.correlationId ≠ ""
  deterministic : result.modeUsed = .deterministic
  payload : result.status = .success → result.result ≠ .none

theorem PassesPostcheck.afterToolCall_eq {result : ToolResult} (h : PassesPostcheck result) :
    afterToolCall result = result := by
  obtain ⟨audit, haudit, hcorrelation⟩ := h.audited
  rw [afterToolCall, haudit]
  dsimp only
  rw [if_neg hcorrelation, if_neg (not_not_intro h.deterministic)]
  split
  · rename_i hsuccess hnone
    exact absurd hnone (h.payload hsuccess)
  · rfl

theorem afterToolCall_of_not_passes {result : ToolResult} (h : ¬PassesPostcheck result) :
    ∃ reason, afterToolCall result = postcheckError result reason := by
  rw [afterToolCall]
  split
  · exact ⟨_, rfl⟩
  · rename_i audit haudit
    split
    · exact ⟨_, rfl⟩
    · rename_i hcorrelation
      split
      · exact ⟨_, rfl⟩
      · rename_i hdeterministic
        split
        · exact ⟨_, rfl⟩
        · rename_i hpayload
          refine absurd ⟨⟨audit, haudit, hcorrelation⟩, not_not.mp hdeterministic, ?_⟩ h
          exact fun hsuccess hnone ↦ hpayload hsuccess hnone

/-- A code that the policy does not give itself is found in what it lets pass, and nowhere else. -/
theorem code_afterToolCall_iff {result : ToolResult} {code : String}
    (hcode : code ≠ "POLICY_POSTCHECK_FAILED") :
    (afterToolCall result).error.code = code ↔
      PassesPostcheck result ∧ result.error.code = code := by
  by_cases h : PassesPostcheck result
  · rw [h.afterToolCall_eq, and_iff_right h]
  · obtain ⟨reason, hreplaced⟩ := afterToolCall_of_not_passes h
    rw [hreplaced]
    exact iff_of_false hcode.symm fun hpasses ↦ h hpasses.1

namespace DeterministicToolExecutor

/-- The result for an exception passes if the call has an identifier. -/
theorem passesPostcheck_errorResult {call : ToolCallContext} {decision : PolicyDecision}
    {exc : Raised} :
    PassesPostcheck (errorResult call decision exc) ↔ Text.strip call.callId ≠ "" := by
  constructor
  · intro h
    obtain ⟨audit, haudit, hcorrelation⟩ := h.audited
    obtain rfl := Option.some.inj haudit
    exact hcorrelation
  · exact fun h ↦ ⟨⟨_, rfl, h⟩, rfl, nofun⟩

/-! ## Allowed calls -/

/-- The executor with the policy of the platform. -/
def governed (X : DeterministicToolExecutor σ η)
    (beforeToolCall : ToolCallContext → Comp σ Raised PolicyDecision) :
    DeterministicToolExecutor σ η :=
  { X with policy := deterministicFirst beforeToolCall }

section
variable {X : DeterministicToolExecutor σ η} {call : ToolCallContext} {s : ExecutorState σ}
  {beforeToolCall : ToolCallContext → Comp σ Raised PolicyDecision}
  {decision : PolicyDecision} {env : σ}

/-- The result that is made of what a tool returned or raised. -/
def resultOf (call : ToolCallContext) (decision : PolicyDecision) :
    Except Raised ToolResult → ToolResult
  | .ok result => result
  | .error exc => errorResult call decision exc

/-- What is returned for an allowed call. -/
theorem execute_governed (hvalid : validateCall call = none)
    (hbefore : beforeToolCall call s.env = (.ok decision, env))
    (hallowed : decision.decision = .allow) :
    ((X.governed beforeToolCall).execute call s).1 =
      .ok (afterToolCall (resultOf call decision
        ((X.governed beforeToolCall).tool call decision env).1)) := by
  have hpolicy : (X.governed beforeToolCall).policy.beforeToolCall call s.env =
      (.ok decision, env) := hbefore
  cases htool : (X.governed beforeToolCall).tool call decision env with
  | mk outcome env' =>
    have hsubmitted : (X.governed beforeToolCall).submitted call
        ((X.governed beforeToolCall).course call s.env) =
          some (resultOf call decision outcome, env') := by
      rw [course, hvalid]
      dsimp only
      rw [hpolicy]
      dsimp only
      rw [if_neg (not_not_intro hallowed), htool]
      cases outcome with
      | error exc => rfl
      | ok result => rfl
    exact fst_execute hsubmitted

/-- A tool that is not registered raises a `KeyError`. -/
theorem tool_of_not_registered (hmissing : X.registry.get? call.toolName = none) :
    ∃ text, X.tool call decision env = (.error (.keyError text), env) := by
  have hregistry : X.bare.registry.get? call.toolName = none := hmissing
  refine ⟨Value.reprStr X.texts.isPrintable ("Tool '" ++ call.toolName ++ "' not found"), ?_⟩
  unfold tool
  rw [runTool, resolve, hregistry]
  rfl

end

/-- The executor returns a result with the error code. -/
def ReturnsCode (X : DeterministicToolExecutor σ η) (call : ToolCallContext) (s : ExecutorState σ)
    (code : String) : Prop :=
  ∃ result, (X.execute call s).1 = .ok result ∧ result.error.code = code

/-- **The error code tells** whether the tool is registered: `TOOL_NOT_FOUND` is returned if it is
not, and for no other reason, and whatever the tool raises is reported as `TOOL_EXECUTION_ERROR`. -/
structure ClassifiesErrors (X : DeterministicToolExecutor σ η) (call : ToolCallContext)
    (decision : PolicyDecision) (env : σ) (s : ExecutorState σ) : Prop where
  not_found : X.ReturnsCode call s "TOOL_NOT_FOUND" ↔ X.registry.get? call.toolName = none
  execution_error : ∀ descriptor exc env', X.registry.get? call.toolName = some descriptor →
    X.tool call decision env = (.error exc, env') → X.ReturnsCode call s "TOOL_EXECUTION_ERROR"

/-- **What it takes**: a call whose tool is not registered or raises has an identifier, a tool that
is registered raises no `KeyError`, and returns no result with the code of a missing tool that the
policy lets pass. -/
structure TellsApart (X : DeterministicToolExecutor σ η) (call : ToolCallContext)
    (decision : PolicyDecision) (env : σ) : Prop where
  missing : X.registry.get? call.toolName = none → Text.strip call.callId ≠ ""
  raised : ∀ descriptor exc env', X.registry.get? call.toolName = some descriptor →
    X.tool call decision env = (.error exc, env') →
      Text.strip call.callId ≠ "" ∧ ∀ text, exc ≠ .keyError text
  returned : ∀ descriptor result env', X.registry.get? call.toolName = some descriptor →
    X.tool call decision env = (.ok result, env') →
      ¬(PassesPostcheck result ∧ result.error.code = "TOOL_NOT_FOUND")

section
variable {X : DeterministicToolExecutor σ η} {call : ToolCallContext} {s : ExecutorState σ}
  {decision : PolicyDecision} {env env' : σ}

/-- The code that is returned is the code of the result, if the policy lets it pass. -/
def ReturnsIfPassed (X : DeterministicToolExecutor σ η) (call : ToolCallContext)
    (s : ExecutorState σ) (result : ToolResult) : Prop :=
  ∀ code, code ≠ "POLICY_POSTCHECK_FAILED" →
    (X.ReturnsCode call s code ↔ PassesPostcheck result ∧ result.error.code = code)

/-- The tool is not registered. -/
theorem classifiesErrors_iff_of_missing (hmissing : X.registry.get? call.toolName = none)
    (hreturns : ∀ text, X.tool call decision env = (.error (.keyError text), env) →
      X.ReturnsIfPassed call s (errorResult call decision (.keyError text))) :
    X.ClassifiesErrors call decision env s ↔ X.TellsApart call decision env := by
  obtain ⟨text, htool⟩ : ∃ text, X.tool call decision env = (.error (.keyError text), env) :=
    tool_of_not_registered hmissing
  have hnotFound := hreturns text htool "TOOL_NOT_FOUND" (by decide)
  rw [passesPostcheck_errorResult] at hnotFound
  have hnone (descriptor : ToolDescriptor η) :
      X.registry.get? call.toolName ≠ some descriptor := by
    rw [hmissing]
    exact (Option.some_ne_none descriptor).symm
  constructor
  · intro h
    exact ⟨fun _ ↦ (hnotFound.mp (h.not_found.mpr hmissing)).1,
      fun descriptor _ _ hsome ↦ absurd hsome (hnone descriptor),
      fun descriptor _ _ hsome ↦ absurd hsome (hnone descriptor)⟩
  · intro h
    exact ⟨iff_of_true (hnotFound.mpr ⟨h.missing hmissing, rfl⟩) hmissing,
      fun descriptor _ _ hsome ↦ absurd hsome (hnone descriptor)⟩

/-- The tool is registered, and returns. -/
theorem classifiesErrors_iff_of_ok {descriptor : ToolDescriptor η} {result : ToolResult}
    (hfound : X.registry.get? call.toolName = some descriptor)
    (htool : X.tool call decision env = (.ok result, env'))
    (hreturns : X.ReturnsIfPassed call s result) :
    X.ClassifiesErrors call decision env s ↔ X.TellsApart call decision env := by
  have hnotFound := hreturns "TOOL_NOT_FOUND" (by decide)
  have hregistered : X.registry.get? call.toolName ≠ none := by
    rw [hfound]
    exact Option.some_ne_none descriptor
  constructor
  · intro h
    refine ⟨fun hnone ↦ absurd hnone hregistered, fun _ _ _ _ hraised ↦ ?_,
      fun _ result' _ _ hreturned hcode ↦ ?_⟩
    · rw [htool] at hraised
      cases hraised
    · rw [htool] at hreturned
      cases hreturned
      exact hregistered (h.not_found.mp (hnotFound.mpr hcode))
  · intro h
    refine ⟨iff_of_false (fun hcode ↦ ?_) hregistered, fun _ _ _ _ hraised ↦ ?_⟩
    · exact h.returned descriptor result env' hfound htool (hnotFound.mp hcode)
    · rw [htool] at hraised
      cases hraised

/-- The tool is registered, and raises. -/
theorem classifiesErrors_iff_of_error {descriptor : ToolDescriptor η} {exc : Raised}
    (hfound : X.registry.get? call.toolName = some descriptor)
    (htool : X.tool call decision env = (.error exc, env'))
    (hreturns : X.ReturnsIfPassed call s (errorResult call decision exc)) :
    X.ClassifiesErrors call decision env s ↔ X.TellsApart call decision env := by
  have hnotFound := hreturns "TOOL_NOT_FOUND" (by decide)
  have hexecution := hreturns "TOOL_EXECUTION_ERROR" (by decide)
  rw [passesPostcheck_errorResult] at hnotFound hexecution
  have hregistered : X.registry.get? call.toolName ≠ none := by
    rw [hfound]
    exact Option.some_ne_none descriptor
  have hcodes : "TOOL_NOT_FOUND" ≠ "TOOL_EXECUTION_ERROR" := by decide
  constructor
  · intro h
    obtain ⟨hcall, hcode⟩ := hexecution.mp (h.execution_error descriptor exc env' hfound htool)
    refine ⟨fun hnone ↦ absurd hnone hregistered, fun _ exc' _ _ hraised ↦ ?_,
      fun _ _ _ _ hreturned ↦ ?_⟩
    · rw [htool] at hraised
      cases hraised
      refine ⟨hcall, ?_⟩
      rintro text rfl
      exact hcodes hcode
    · rw [htool] at hreturned
      cases hreturned
  · intro h
    obtain ⟨hcall, hclass⟩ := h.raised descriptor exc env' hfound htool
    cases exc with
    | keyError text => exact absurd rfl (hclass text)
    | exception text =>
      refine ⟨iff_of_false (fun hcode ↦ ?_) hregistered, fun _ _ _ _ _ ↦ ?_⟩
      · exact hcodes (hnotFound.mp hcode).2.symm
      · exact hexecution.mpr ⟨hcall, rfl⟩

end

end DeterministicToolExecutor

/-- The executor whose tool looks for a key that is not there. -/
def lookupExecutor : DeterministicToolExecutor Unit Unit :=
  { greetExecutor with
    callHandler := fun _ _ ↦ raise (.keyError "'email'")
    registry := Dict.empty.set "greet" { name := "greet", handler := () } }

end Tools
end ExoBrain
