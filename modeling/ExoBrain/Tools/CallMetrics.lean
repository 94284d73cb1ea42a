import ExoBrain.Lib.Run
import ExoBrain.Tools.CallCourse
import ExoBrain.Tools.HostedGuards

/-!
# What the counters of calls add up to

The executor counts every call, and then how it ends: as a success, as a failure, or as blocked.  It
also counts the results that the policy has made an error of.  The counters are raised on the way, in
many places, and not every way passes exactly one of them.

* `Conserved` says that every call was counted as one of the three, and every error of the policy
  once.
* `ClearCut` says of a call that the policy and the tool agree about its outcome, and
  `conserved_turn_iff` that the counters stay right exactly then.
* `call_metrics_conserved_iff`: the counters add up all along a run exactly if the outcome of every
  call is clear-cut.
* `timeout_counted_nowhere` is a call whose tool is given up on.
-/

set_option autoImplicit false

namespace ExoBrain
namespace Tools

open Raising Raising.Comp Run

variable {σ η : Type}

/-! ## Counters -/

/-- `counters.get(key, 0)`. -/
def ExecutorState.count (s : ExecutorState σ) (key : String) : Nat := (s.counters.get? key).getD 0

namespace DeterministicToolExecutor

variable {X : DeterministicToolExecutor σ η}

theorem count_inc (hX : X.hasMetrics = true) (key key' : String) (s : ExecutorState σ) :
    (X.inc key s).2.count key' = s.count key' + if key' = key then 1 else 0 := by
  have hinc : (X.inc key s).2 =
      { s with counters := s.counters.set key ((s.counters.get? key).getD 0 + 1) } := by
    show (if X.hasMetrics = true then _ else s) = _
    rw [if_pos hX]
  rw [hinc, ExecutorState.count, ExecutorState.count, Dict.get?_set]
  by_cases hkey : key' = key
  · subst hkey
    rw [if_pos rfl, if_pos rfl, Option.getD_some]
  · rw [if_neg hkey, if_neg hkey, Nat.add_zero]

theorem count_incIf (hX : X.hasMetrics = true) (condition : Prop) [Decidable condition]
    (key key' : String) (s : ExecutorState σ) :
    (X.incIf condition key s).2.count key' =
      s.count key' + if condition ∧ key' = key then 1 else 0 := by
  rw [incIf]
  by_cases hcondition : condition
  · rw [if_pos hcondition, X.count_inc hX]
    simp only [hcondition, true_and]
  · rw [if_neg hcondition, if_neg fun h ↦ hcondition h.1]
    rfl

@[simp] theorem count_setEnv (s : ExecutorState σ) (env : σ) (key : String) :
    ({ s with env := env } : ExecutorState σ).count key = s.count key := rfl

end DeterministicToolExecutor

/-! ## Runs -/

/-- A call, and the tools that are registered when it is made. -/
structure Invocation (η : Type) where
  registry : Dict String (ToolDescriptor η)
  call : ToolCallContext

/-- The result that the policy looked at last, and what was returned or raised. -/
structure Answer where
  submitted : Option ToolResult
  returned : Except Raised ToolResult

/-- The policy made an error of a result. -/
def ReplacedByError (result : ToolResult) (returned : Except Raised ToolResult) : Prop :=
  ∃ postchecked, returned = .ok postchecked ∧ postchecked.status = .error ∧ postchecked ≠ result

theorem replacedByError_ok {result postchecked : ToolResult} :
    ReplacedByError result (.ok postchecked) ↔
      postchecked.status = .error ∧ postchecked ≠ result := by
  simp [ReplacedByError]

/-- The policy made an error of the result of the call. -/
def Answer.Replaced (answer : Answer) : Prop :=
  ∃ result, answer.submitted = some result ∧ ReplacedByError result answer.returned

namespace DeterministicToolExecutor

/-- The executor with counters, and the tools that are registered. -/
def metered (X : DeterministicToolExecutor σ η) (registry : Dict String (ToolDescriptor η)) :
    DeterministicToolExecutor σ η :=
  { X with
    registry := registry
    hasMetrics := true }

/-- A call of `execute`. -/
def turn (X : DeterministicToolExecutor σ η) (s : ExecutorState σ) (i : Invocation η) :
    Answer × ExecutorState σ :=
  let Y := X.metered i.registry
  let outcome := Y.execute i.call s
  (⟨(Y.submitted i.call (Y.course i.call s.env)).map Prod.fst, outcome.1⟩, outcome.2)

end DeterministicToolExecutor

open scoped Classical in
/-- **The counters add up**: every call is counted as a success, a failure or as blocked, and every
result that the policy has made an error of is counted as well. -/
structure Conserved (history : List (Invocation η × Answer)) (s : ExecutorState σ) : Prop where
  total : s.count "tool.call.total" =
    s.count "tool.call.success" + s.count "tool.call.failed" + s.count "tool.call.blocked"
  postcheck_failed : s.count "tool.call.postcheck_failed" =
    history.countP fun e ↦ decide e.2.Replaced

namespace DeterministicToolExecutor

/-- **The outcome of a call is clear-cut**: the policy does not raise before the call.  If a tool has
returned, its result is a success exactly if the policy makes no error of it, and the policy makes an
error of nothing that is the error already.  If no tool has returned, the policy makes no other error
of the result. -/
def ClearCut (X : DeterministicToolExecutor σ η) (call : ToolCallContext) : Course σ → Prop
  | .undecided _ _ => False
  | .failed result env => ¬ReplacedByError result (X.policy.afterToolCall result env).1
  | .blocked result env => ¬ReplacedByError result (X.policy.afterToolCall result env).1
  | .returned decision result env =>
    match X.policy.afterToolCall result env with
    | (.ok postchecked, _) => (result.status = .success ↔ postchecked.status ≠ .error) ∧
        (postchecked.status = .error → postchecked ≠ result)
    | (.error exc, env) => result.status ≠ .success ∧
        ¬ReplacedByError (errorResult call decision exc)
          (X.policy.afterToolCall (errorResult call decision exc) env).1

section
variable {X : DeterministicToolExecutor σ η} {call : ToolCallContext}

theorem eq_add_ite_iff {n : Nat} {p : Prop} [Decidable p] :
    (n = n + if p then 1 else 0) ↔ ¬p := by
  split
  · rename_i hp
    exact iff_of_false (by omega) (not_not_intro hp)
  · rename_i hp
    exact iff_of_true rfl hp

/-- Exactly one of two is counted. -/
theorem ite_add_ite_iff {p q : Prop} [Decidable p] [Decidable q] :
    ((if p then 1 else 0) + (if q then 1 else 0) = 1) ↔ (p ↔ ¬q) := by
  by_cases hp : p
  · by_cases hq : q
    · simp [hp, hq]
    · simp [hp, hq]
  · by_cases hq : q
    · simp [hp, hq]
    · simp [hp, hq]

/-- What is counted under two conditions is counted under the first alone. -/
theorem ite_eq_ite_and_iff {n : Nat} {p q : Prop} [Decidable p] [Decidable q] :
    ((n + if p then 1 else 0) = n + if p ∧ q then 1 else 0) ↔ (p → q) := by
  by_cases hp : p
  · by_cases hq : q
    · simp [hp, hq]
    · simp [hp, hq]
  · simp [hp]

open scoped Classical in
/-- What a course adds to the counters, when the call has been counted. -/
theorem conclude_counts_iff (hX : X.hasMetrics = true) (course : Course σ) {s : ExecutorState σ}
    {replaced : Nat}
    (htotal : s.count "tool.call.total" = s.count "tool.call.success" +
      s.count "tool.call.failed" + s.count "tool.call.blocked" + 1)
    (hpostcheck : s.count "tool.call.postcheck_failed" = replaced) :
    ((X.conclude call course s).2.count "tool.call.total" =
          (X.conclude call course s).2.count "tool.call.success" +
            (X.conclude call course s).2.count "tool.call.failed" +
            (X.conclude call course s).2.count "tool.call.blocked" ∧
        (X.conclude call course s).2.count "tool.call.postcheck_failed" = replaced +
          if Answer.Replaced ⟨(X.submitted call course).map Prod.fst, (X.conclude call course s).1⟩
            then 1 else 0) ↔
      X.ClearCut call course := by
  subst hpostcheck
  cases course with
  | undecided exc env =>
    refine iff_of_false (fun h ↦ ?_) id
    have hsame := h.1
    simp only [conclude, count_setEnv] at hsame
    omega
  | failed result env =>
    rw [conclude_failed]
    simp only [count_setEnv, count_inc hX, String.reduceEq, if_true, if_false, Nat.add_zero,
      eq_add_ite_iff, submitted, Option.map_some, Answer.Replaced, ClearCut, Option.some.injEq,
      exists_eq_left']
    rw [and_iff_right (by omega)]
  | blocked result env =>
    rw [conclude_blocked]
    simp only [count_setEnv, count_inc hX, String.reduceEq, if_true, if_false, Nat.add_zero,
      eq_add_ite_iff, submitted, Option.map_some, Answer.Replaced, ClearCut, Option.some.injEq,
      exists_eq_left']
    rw [and_iff_right (by omega)]
  | returned decision result env =>
    cases hafter : X.policy.afterToolCall result env with
    | mk answer env' =>
      cases answer with
      | ok postchecked =>
        rw [conclude_of_ok call decision hafter]
        simp only [count_setEnv, count_incIf hX, String.reduceEq, if_false, Nat.add_zero, submitted,
          hafter, Option.map_some, Answer.Replaced, replacedByError_ok, ClearCut,
          Option.some.injEq, exists_eq_left', and_true, and_false]
        rw [ite_eq_ite_and_iff, ← ite_add_ite_iff]
        refine and_congr_left' ?_
        omega
      | error exc =>
        rw [conclude_of_error call decision hafter, conclude_failed]
        simp only [count_setEnv, count_incIf hX, count_inc hX, String.reduceEq, if_true, if_false,
          Nat.add_zero, eq_add_ite_iff, submitted, hafter, Option.map_some, Answer.Replaced,
          ClearCut, Option.some.injEq, exists_eq_left', and_true, and_false]
        refine and_congr_left' ?_
        rw [ne_eq, ← eq_add_ite_iff (n := s.count "tool.call.total")]
        omega

/-- The outcome of the call is clear-cut, in the state that it is made in. -/
def EndsClearCut (X : DeterministicToolExecutor σ η) (s : ExecutorState σ) (i : Invocation η) :
    Prop :=
  (X.metered i.registry).ClearCut i.call ((X.metered i.registry).course i.call s.env)

/-- **One call.**  While the counters add up, they do so after a call exactly if its outcome is
clear-cut. -/
theorem conserved_turn_iff (X : DeterministicToolExecutor σ η)
    {history : List (Invocation η × Answer)} {s : ExecutorState σ} (h : Conserved history s)
    (i : Invocation η) :
    Conserved (history ++ [(i, (X.turn s i).1)]) (X.turn s i).2 ↔ X.EndsClearCut s i := by
  classical
  let Y := X.metered i.registry
  let s₁ := (Y.inc "tool.call.total" s).2
  have hcount (key : String) : s₁.count key =
      s.count key + if key = "tool.call.total" then 1 else 0 := count_inc rfl _ key s
  have htotal : s₁.count "tool.call.total" = s₁.count "tool.call.success" +
      s₁.count "tool.call.failed" + s₁.count "tool.call.blocked" + 1 := by
    simp only [hcount, String.reduceEq, if_true, if_false, Nat.add_zero]
    rw [h.total]
  have hpostcheck : s₁.count "tool.call.postcheck_failed" =
      history.countP fun e ↦ decide e.2.Replaced := by
    simp only [hcount, String.reduceEq, if_false, Nat.add_zero]
    exact h.postcheck_failed
  have hconclude : X.turn s i = (⟨(Y.submitted i.call (Y.course i.call s.env)).map Prod.fst,
      (Y.conclude i.call (Y.course i.call s.env) s₁).1⟩,
        (Y.conclude i.call (Y.course i.call s.env) s₁).2) := by
    rw [turn, execute_eq_conclude]
  rw [EndsClearCut, ← conclude_counts_iff rfl (Y.course i.call s.env) htotal hpostcheck, hconclude]
  constructor
  · intro hnext
    have hreplaced := hnext.postcheck_failed
    rw [List.countP_append, List.countP_singleton] at hreplaced
    simp only [decide_eq_true_eq] at hreplaced
    exact ⟨hnext.total, hreplaced⟩
  · rintro ⟨hall, hreplaced⟩
    refine ⟨hall, ?_⟩
    rw [List.countP_append, List.countP_singleton]
    simp only [decide_eq_true_eq]
    exact hreplaced

end

end DeterministicToolExecutor

/-- The executor whose worker reports that it has given up. -/
def givingUpExecutor : DeterministicToolExecutor Unit Unit :=
  greetExecutor.hosted allowEvery fun call _ ↦
    pure (mapResult call "acme" { greetResult with status := "timeout" } [])

end Tools
end ExoBrain
