import ExoBrain.Tools.Executor

/-!
# The course of a call

What the executor does with a call has two parts.  First a result is made: by the tool, or because
the call is not valid, not allowed, or failed.  Then the policy looks at the result, and the executor
counts.

* `tool` is the `try` block up to there, without the policy and the counters, and `runTool_eq` says
  that nothing else is in it.
* `course` says how the result of a call is made, and `execute_eq_conclude` that the executor goes
  this course, and what it does at its end.
* `submitted` is the result that the policy looks at last: what `execute` returns is what the policy
  makes of it (`fst_execute`).
-/

set_option autoImplicit false

namespace ExoBrain
namespace Tools
namespace DeterministicToolExecutor

open Policies (PolicyDecision)
open Raising Raising.Comp

variable {σ η : Type}

/-! ## The tool alone -/

/-- The executor without counters, and with a policy that lets every result pass. -/
def bare (X : DeterministicToolExecutor σ η) : DeterministicToolExecutor σ η :=
  { X with
    policy := { X.policy with afterToolCall := pure }
    hasMetrics := false }

/-- What the `try` block makes of a call before the policy looks at it. -/
def tool (X : DeterministicToolExecutor σ η) (call : ToolCallContext) (decision : PolicyDecision) :
    Comp σ Raised ToolResult := fun env ↦
  let outcome := X.bare.runTool call decision { env := env }
  (outcome.1, outcome.2.env)

/-- The counters are neither read nor changed. -/
def EnvOnly {α : Type} (m : Comp (ExecutorState σ) Raised α) : Prop :=
  ∃ m' : Comp σ Raised α, m = onEnv m'

theorem envOnly_pure {α : Type} (a : α) : EnvOnly (pure a : Comp (ExecutorState σ) Raised α) :=
  ⟨pure a, (zoom_pure fun _ ↦ rfl).symm⟩

theorem envOnly_ofExcept {α : Type} (x : Except Raised α) :
    EnvOnly (ofExcept x : Comp (ExecutorState σ) Raised α) :=
  ⟨ofExcept x, (zoom_ofExcept (fun _ ↦ rfl) x).symm⟩

theorem envOnly_onEnv {α : Type} (m : Comp σ Raised α) : EnvOnly (onEnv m) := ⟨m, rfl⟩

theorem envOnly_bind {α β : Type} {m : Comp (ExecutorState σ) Raised α}
    {f : α → Comp (ExecutorState σ) Raised β} (hm : EnvOnly m) (hf : ∀ a, EnvOnly (f a)) :
    EnvOnly (m >>= f) := by
  obtain ⟨m', rfl⟩ := hm
  choose f' hf using hf
  have hbind : onEnv (m' >>= f') = onEnv m' >>= fun a ↦ onEnv (f' a) :=
    zoom_bind (by intros; rfl) (by intros; rfl) m' f'
  refine ⟨m' >>= f', ?_⟩
  rw [hbind]
  exact congrArg (onEnv m' >>= ·) (funext hf)

variable (X : DeterministicToolExecutor σ η) (call : ToolCallContext)

theorem incIf_bare (condition : Prop) [Decidable condition] (key : String) :
    X.bare.incIf condition key = pure () := by
  rw [incIf]
  split
  · rfl
  · rfl

theorem postchecked_bare (result : ToolResult) : X.bare.postchecked result = pure result := by
  rw [postchecked, incIf_bare]
  simp only [incIf_bare]
  rfl

/-- Without the policy and the counters, the `try` block is the tool. -/
theorem runTool_bare (decision : PolicyDecision) :
    X.bare.runTool call decision = onEnv (X.tool call decision) := by
  have hrun : EnvOnly (X.bare.runTool call decision) := by
    refine envOnly_bind (envOnly_ofExcept _) fun descriptor ↦ ?_
    split
    · refine envOnly_bind (envOnly_onEnv _) fun result ↦ ?_
      rw [postchecked_bare]
      exact envOnly_pure _
    · refine envOnly_bind (envOnly_ofExcept _) fun requiredArgs ↦ ?_
      refine envOnly_bind (envOnly_ofExcept _) fun maxAttempts ↦ ?_
      refine envOnly_bind (envOnly_ofExcept _) fun redactKeys ↦ ?_
      refine envOnly_bind (envOnly_onEnv _) fun output ↦ ?_
      rw [postchecked_bare]
      exact envOnly_pure _
  obtain ⟨m, hm⟩ := hrun
  have htool : X.tool call decision = m := by
    funext env
    unfold tool
    rw [hm]
    rfl
  rw [hm, htool]

theorem runHosted_eq (adapter : ToolExecutionAdapter σ η) (descriptor : ToolDescriptor η) :
    X.runHosted call adapter descriptor =
      X.bare.runHosted call adapter descriptor >>= X.postchecked := by
  rw [runHosted, runHosted, bind_assoc]
  simp only [postchecked_bare, pure_bind]
  rfl

theorem runInProcess_eq (decision : PolicyDecision) (descriptor : ToolDescriptor η) :
    X.runInProcess call decision descriptor =
      X.bare.runInProcess call decision descriptor >>= X.postchecked := by
  rw [runInProcess, runInProcess]
  simp only [postchecked_bare, bind_assoc, pure_bind]
  rfl

/-- **The `try` block** is the tool, and then the policy. -/
theorem runTool_eq (decision : PolicyDecision) :
    X.runTool call decision = onEnv (X.tool call decision) >>= X.postchecked := by
  rw [← runTool_bare, runTool, runTool, bind_assoc]
  refine congrArg (ofExcept (X.resolve call.toolName) >>= ·) (funext fun descriptor ↦ ?_)
  rw [show X.bare.enableHostedRuntime = X.enableHostedRuntime from rfl,
    show X.bare.executionAdapter = X.executionAdapter from rfl]
  split
  · exact runHosted_eq X call _ descriptor
  · exact runInProcess_eq X call decision descriptor

/-! ## The course of a call -/

/-- How the result of a call is made. -/
inductive Course (σ : Type)
  /-- The policy has raised before. -/
  | undecided (exc : Raised) (env : σ)
  /-- The call is not valid, or its tool has raised. -/
  | failed (result : ToolResult) (env : σ)
  /-- The policy does not allow the call. -/
  | blocked (result : ToolResult) (env : σ)
  /-- The tool has returned a result. -/
  | returned (decision : PolicyDecision) (result : ToolResult) (env : σ)

/-- What happens before the policy looks at the result. -/
def course (env : σ) : Course σ :=
  match validateCall call with
  | some error => .failed error env
  | none =>
    match X.policy.beforeToolCall call env with
    | (.error exc, env) => .undecided exc env
    | (.ok decision, env) =>
      if decision.decision ≠ .allow then
        .blocked (X.contracts.blockedResult call decision.reasonCode decision.message) env
      else
        match X.tool call decision env with
        | (.error exc, env) => .failed (errorResult call decision exc) env
        | (.ok result, env) => .returned decision result env

/-- What happens from there on. -/
def conclude : Course σ → ExecutorState σ → Except Raised ToolResult × ExecutorState σ
  | .undecided exc env, s => (.error exc, { s with env := env })
  | .failed result env, s =>
    (do
      X.inc "tool.call.failed"
      X.afterPolicy result) { s with env := env }
  | .blocked result env, s =>
    (do
      X.inc "tool.call.blocked"
      X.afterPolicy result) { s with env := env }
  | .returned decision result env, s =>
    rescue (X.postchecked result) (X.recover call decision) { s with env := env }

/-- **The executor** counts the call, goes its course, and concludes it. -/
theorem execute_eq_conclude (s : ExecutorState σ) :
    X.execute call s =
      X.conclude call (X.course call s.env) (X.inc "tool.call.total" s).2 := by
  rw [execute, bind_of_ok (X.inc_eq _ s), ← X.env_inc "tool.call.total" s]
  generalize (X.inc "tool.call.total" s).2 = s
  rw [course]
  cases hvalid : validateCall call with
  | some error => rfl
  | none =>
    cases hbefore : X.policy.beforeToolCall call s.env with
    | mk answer env =>
      have hzoom : onEnv (X.policy.beforeToolCall call) s = (answer, { s with env := env }) := by
        rw [onEnv, zoom, hbefore]
      cases answer with
      | error exc => exact bind_of_error hzoom
      | ok decision =>
        refine (bind_of_ok hzoom).trans ?_
        dsimp only
        by_cases hallowed : decision.decision = .allow
        · rw [if_neg (not_not_intro hallowed), if_neg (not_not_intro hallowed), runTool_eq]
          cases htool : X.tool call decision env with
          | mk outcome env' =>
            have hrun : onEnv (X.tool call decision) { s with env := env } =
                (outcome, { s with env := env' }) := by
              rw [onEnv, zoom, htool]
            cases outcome with
            | error exc => exact rescue_of_error (bind_of_error hrun)
            | ok result =>
              show rescue (onEnv (X.tool call decision) >>= X.postchecked) _ _ =
                rescue (X.postchecked result) _ _
              rw [rescue, rescue, bind_of_ok hrun]
        · rw [if_pos hallowed, if_pos hallowed]
          rfl

/-- The result that the policy looks at last, and the state it does so in. -/
def submitted : Course σ → Option (ToolResult × σ)
  | .undecided _ _ => none
  | .failed result env => some (result, env)
  | .blocked result env => some (result, env)
  | .returned decision result env =>
    match X.policy.afterToolCall result env with
    | (.ok _, _) => some (result, env)
    | (.error exc, env) => some (errorResult call decision exc, env)

/-- A result that no tool has returned is counted, and the policy looks at it. -/
theorem inc_afterPolicy_eq (key : String) (result : ToolResult) (s : ExecutorState σ) :
    (do
      X.inc key
      X.afterPolicy result) s =
      ((X.policy.afterToolCall result s.env).1,
        { (X.inc key s).2 with env := (X.policy.afterToolCall result s.env).2 }) := by
  rw [bind_of_ok (X.inc_eq key s), afterPolicy, onEnv, zoom, X.env_inc]

section
variable {X} {result postchecked : ToolResult} {s : ExecutorState σ} {env : σ} {exc : Raised}

/-- The policy has something to say about the result of a tool. -/
theorem postchecked_of_ok (h : X.policy.afterToolCall result s.env = (.ok postchecked, env)) :
    X.postchecked result s = (.ok postchecked,
      (X.incIf (postchecked.status = .error) "tool.call.postcheck_failed"
        (X.incIf (postchecked.status = .error) "tool.call.failed"
          { (X.incIf (result.status = .success) "tool.call.success" s).2 with env := env }).2).2) := by
  have hpolicy : X.afterPolicy result (X.incIf (result.status = .success) "tool.call.success" s).2 =
      (.ok postchecked,
        { (X.incIf (result.status = .success) "tool.call.success" s).2 with env := env }) := by
    rw [afterPolicy, onEnv, zoom, X.env_incIf, h]
  rw [DeterministicToolExecutor.postchecked, bind_of_ok (X.incIf_eq _ _ s), bind_of_ok hpolicy,
    bind_of_ok (X.incIf_eq _ _ _), bind_of_ok (X.incIf_eq _ _ _)]
  rfl

/-- The policy raises. -/
theorem postchecked_of_error (h : X.policy.afterToolCall result s.env = (.error exc, env)) :
    X.postchecked result s = (.error exc,
      { (X.incIf (result.status = .success) "tool.call.success" s).2 with env := env }) := by
  have hpolicy : X.afterPolicy result (X.incIf (result.status = .success) "tool.call.success" s).2 =
      (.error exc,
        { (X.incIf (result.status = .success) "tool.call.success" s).2 with env := env }) := by
    rw [afterPolicy, onEnv, zoom, X.env_incIf, h]
  rw [DeterministicToolExecutor.postchecked, bind_of_ok (X.incIf_eq _ _ s), bind_of_error hpolicy]

theorem conclude_failed (call : ToolCallContext) (result : ToolResult) (env : σ)
    (s : ExecutorState σ) :
    X.conclude call (.failed result env) s = ((X.policy.afterToolCall result env).1,
      { (X.inc "tool.call.failed" { s with env := env }).2 with
        env := (X.policy.afterToolCall result env).2 }) :=
  X.inc_afterPolicy_eq _ result { s with env := env }

theorem conclude_blocked (call : ToolCallContext) (result : ToolResult) (env : σ)
    (s : ExecutorState σ) :
    X.conclude call (.blocked result env) s = ((X.policy.afterToolCall result env).1,
      { (X.inc "tool.call.blocked" { s with env := env }).2 with
        env := (X.policy.afterToolCall result env).2 }) :=
  X.inc_afterPolicy_eq _ result { s with env := env }

theorem conclude_of_ok (call : ToolCallContext) (decision : PolicyDecision) {env' : σ}
    (h : X.policy.afterToolCall result env = (.ok postchecked, env')) (s : ExecutorState σ) :
    X.conclude call (.returned decision result env) s = (.ok postchecked,
      (X.incIf (postchecked.status = .error) "tool.call.postcheck_failed"
        (X.incIf (postchecked.status = .error) "tool.call.failed"
          { (X.incIf (result.status = .success) "tool.call.success"
            { s with env := env }).2 with env := env' }).2).2) :=
  rescue_of_ok (postchecked_of_ok h)

theorem conclude_of_error (call : ToolCallContext) (decision : PolicyDecision) {env' : σ}
    (h : X.policy.afterToolCall result env = (.error exc, env')) (s : ExecutorState σ) :
    X.conclude call (.returned decision result env) s =
      X.conclude call (.failed (errorResult call decision exc) env')
        (X.incIf (result.status = .success) "tool.call.success" { s with env := env }).2 :=
  rescue_of_error (postchecked_of_error h)

theorem fst_conclude {call : ToolCallContext} {course : Course σ}
    (h : X.submitted call course = some (result, env)) :
    (X.conclude call course s).1 = (X.policy.afterToolCall result env).1 := by
  cases course with
  | undecided exc env => cases h
  | failed result' env' =>
    obtain ⟨rfl, rfl⟩ := Prod.mk.inj (Option.some.inj h)
    rw [conclude_failed]
  | blocked result' env' =>
    obtain ⟨rfl, rfl⟩ := Prod.mk.inj (Option.some.inj h)
    rw [conclude_blocked]
  | returned decision result' env' =>
    rw [submitted] at h
    cases hafter : X.policy.afterToolCall result' env' with
    | mk answer env'' =>
      rw [hafter] at h
      cases answer with
      | ok postchecked =>
        obtain ⟨rfl, rfl⟩ := Prod.mk.inj (Option.some.inj h)
        rw [conclude_of_ok call decision hafter, hafter]
      | error exc =>
        obtain ⟨rfl, rfl⟩ := Prod.mk.inj (Option.some.inj h)
        rw [conclude_of_error call decision hafter, conclude_failed]

/-- **What is returned** is what the policy makes of the result that it looks at last. -/
theorem fst_execute {call : ToolCallContext}
    (h : X.submitted call (X.course call s.env) = some (result, env)) :
    (X.execute call s).1 = (X.policy.afterToolCall result env).1 := by
  rw [execute_eq_conclude]
  exact fst_conclude h

end

end DeterministicToolExecutor
end Tools
end ExoBrain
