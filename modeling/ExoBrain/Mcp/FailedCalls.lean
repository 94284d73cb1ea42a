import ExoBrain.Mcp.CallerIsolation

/-!
# Calls that fail are recorded once

A call that the policy and the breaker let through ends in one of four ways: its tool returns, its
tool times out for the last time, or one of two clauses catches an exception, at any point on the way.

* `performed` is what a run does for one call, and `RecordedOnce` says that a result is returned, with
  one record in the dead letters if it is not a success, and with none if it is.
* `toolLoop` is the loop of `execute`, over the answers of the client.  Whatever other calls do
  meanwhile, a call goes through it as if it were alone (`exec_toolAnswered`).
* `recorded_once` is about every call, in every run.
-/

set_option autoImplicit false

namespace ExoBrain
namespace Mcp

open Core (ToolStatus)

/-! ## What is done for a call -/

/-- `call_tool` is invoked. -/
def Effect.isInvocation : Effect → Bool
  | .callTool _ _ _ => true
  | _ => false

/-- The record that is pushed. -/
def Effect.record? : Effect → Option DlqRecord
  | .push record => some record
  | _ => none

/-- How often the tool is invoked. -/
def invocations (effects : List Effect) : Nat := effects.countP Effect.isInvocation

/-- The input belongs to the call. -/
def Input.isOf (id : Nat) (input : Input) : Bool := input.call? = some id

/-- What has been done for a call. -/
def performed (id : Nat) (history : History) : List Effect :=
  history.flatMap fun e ↦ if e.1.isOf id then e.2 else []

/-- One result is returned: a success, and nothing is recorded, or another one, and one record has the
code of its error. -/
def RecordedOnce (effects : List Effect) : Prop :=
  ∃ result, effects.filterMap Effect.returned? = [result] ∧
    ((result.status = .success ∧ effects.filterMap Effect.record? = []) ∨
      (result.status ≠ .success ∧ ∃ record, effects.filterMap Effect.record? = [record] ∧
        record.reasonCode = result.error.code))

/-- Nothing is returned, and nothing is recorded. -/
def Quiet (effects : List Effect) : Prop :=
  effects.filterMap Effect.returned? = [] ∧ effects.filterMap Effect.record? = []

/-- The records of the effects are what is added to the dead letters. -/
theorem dlq_applyAll (s : McpState) (effects : List Effect) :
    (s.applyAll effects).dlq = s.dlq ++ effects.filterMap Effect.record? := by
  induction effects generalizing s with
  | nil => exact (List.append_nil _).symm
  | cons effect effects ih =>
    refine (ih _).trans ?_
    cases effect with
    | push record => exact List.append_assoc ..
    | _ => rfl

theorem invocations_append (effects effects' : List Effect) :
    invocations (effects ++ effects') = invocations effects + invocations effects' :=
  List.countP_append

theorem RecordedOnce.after_quiet {effects effects' : List Effect} (h : RecordedOnce effects')
    (hquiet : Quiet effects) : RecordedOnce (effects ++ effects') := by
  obtain ⟨result, hresult, hrecords⟩ := h
  refine ⟨result, ?_, ?_⟩
  · rw [List.filterMap_append, hquiet.1, hresult, List.nil_append]
  · rw [List.filterMap_append, hquiet.2, List.nil_append]
    exact hrecords

/-! ## The exits -/

section Exits

variable (adapter : McpToolAdapter) (call : McpCall)

theorem recordedOnce_failWith (reasonCode : String) (exc : McpRaised) :
    RecordedOnce (call.failWith reasonCode exc) := by
  have hfailed : ToolStatus.error ≠ .success := by decide
  exact ⟨_, rfl, .inr ⟨hfailed, _, rfl, rfl⟩⟩

theorem recordedOnce_onException (exc : McpRaised) : RecordedOnce (call.onException exc) := by
  cases exc with
  | keyError | valueError => exact recordedOnce_failWith call "MCP_VALIDATION_ERROR" _
  | timeoutError | exception => exact recordedOnce_failWith call "MCP_EXECUTION_ERROR" _

theorem invocations_onException (exc : McpRaised) : invocations (call.onException exc) = 0 := by
  cases exc <;> rfl

theorem recordedOnce_timedOut : RecordedOnce (.recordFailure call.key :: call.timedOut) := by
  have hfailed : ToolStatus.timeout ≠ .success := by decide
  exact ⟨_, rfl, .inr ⟨hfailed, _, rfl, rfl⟩⟩

variable {call}

/-- The policy lets the result of a tool pass, if the call has an id. -/
theorem afterToolCall_success (hid : Text.strip call.context.callId ≠ "") (output : Value) :
    afterToolCall (call.success output) = call.success output := by
  have hpasses : Tools.afterToolCall (call.success output).toToolResult =
      (call.success output).toToolResult := by
    rw [Tools.afterToolCall]
    exact (if_neg hid).trans (if_neg (not_not.mpr rfl))
  rw [afterToolCall, hpasses]
  exact if_pos rfl

theorem recordedOnce_success (hid : Text.strip call.context.callId ≠ "") (output : Value) :
    RecordedOnce [.recordSuccess call.key, .returned (afterToolCall (call.success output))] := by
  rw [afterToolCall_success hid]
  exact ⟨_, rfl, .inl ⟨rfl, rfl⟩⟩

/-! ## The loop -/

/-- The loop of `execute`, over what becomes of one invocation after the other. -/
def toolLoop (call : McpCall) : List (Except McpRaised Value) → List Effect × Option McpCall
  | [] => ([], some call)
  | answer :: answers =>
    match McpToolAdapter.toolAnswered call answer with
    | (effects, none) => (effects, none)
    | (effects, some call) => (effects ++ (toolLoop call answers).1, (toolLoop call answers).2)

/-- One turn: the call ends, or its tool has timed out and is invoked again. -/
theorem toolAnswered_cases (hid : Text.strip call.context.callId ≠ "")
    (answer : Except McpRaised Value) :
    (∃ effects, McpToolAdapter.toolAnswered call answer = (effects, none) ∧
        invocations effects = 0 ∧ RecordedOnce effects) ∨
      (call.attempt ≤ call.maxRetries ∧ McpToolAdapter.toolAnswered call answer =
        ([.recordFailure call.key, call.invoke], some { call with attempt := call.attempt + 1 })) := by
  cases answer with
  | ok output => exact .inl ⟨_, rfl, rfl, recordedOnce_success hid output⟩
  | error exc =>
    cases exc with
    | timeoutError text =>
      by_cases hretry : call.attempt ≤ call.maxRetries
      · exact .inr ⟨hretry, if_pos hretry⟩
      · exact .inl ⟨_, if_neg hretry, rfl, recordedOnce_timedOut call⟩
    | keyError text => exact .inl ⟨_, rfl, rfl, recordedOnce_onException call _⟩
    | valueError text => exact .inl ⟨_, rfl, rfl, recordedOnce_onException call _⟩
    | exception text => exact .inl ⟨_, rfl, rfl, recordedOnce_onException call _⟩

theorem waitsFor_toolAnswered {answer : Except McpRaised Value} {effects : List Effect} {next : McpCall}
    (h : McpToolAdapter.toolAnswered call answer = (effects, some next)) :
    next.waitsFor = call.waitsFor := by
  unfold McpToolAdapter.toolAnswered at h
  split at h
  · cases h
  · split at h
    · obtain rfl := Option.some.inj (Prod.mk.inj h).2
      rfl
    · cases h
  · cases h

/-- **The loop.**  The tool is invoked again as long as there are retries left, the loop ends when they
are used up, and if it ends, what becomes of the call is recorded. -/
theorem toolLoop_spec (hid : Text.strip call.context.callId ≠ "")
    (hattempt : call.attempt ≤ call.maxRetries + 1) (answers : List (Except McpRaised Value)) :
    call.attempt + invocations (toolLoop call answers).1 ≤ call.maxRetries + 1 ∧
      (call.maxRetries + 1 < call.attempt + answers.length → (toolLoop call answers).2 = none) ∧
      ((toolLoop call answers).2 = none → RecordedOnce (toolLoop call answers).1) := by
  induction answers generalizing call with
  | nil =>
    refine ⟨hattempt, fun hlt ↦ ?_, fun hover ↦ ?_⟩
    · exact absurd hattempt (not_le.mpr hlt)
    · cases hover
  | cons answer answers ih =>
    rw [toolLoop]
    rcases toolAnswered_cases hid answer with ⟨effects, heq, hnone, honce⟩ | ⟨hretry, heq⟩
    · rw [heq]
      dsimp only
      rw [hnone]
      exact ⟨hattempt, fun _ ↦ rfl, fun _ ↦ honce⟩
    · rw [heq]
      dsimp only
      obtain ⟨hbound, hends, honce⟩ := @ih { call with attempt := call.attempt + 1 } hid
        (Nat.succ_le_succ hretry)
      refine ⟨?_, fun hlt ↦ hends ?_, fun hover ↦ (honce hover).after_quiet ⟨rfl, rfl⟩⟩
      · rw [invocations_append, show invocations [.recordFailure call.key, call.invoke] = 1 from rfl]
        dsimp only at hbound
        omega
      · rw [List.length_cons] at hlt
        dsimp only
        omega

/-! ## The way to the loop -/

/-- The retries that the server allows, if it is asked for them. -/
def McpToolAdapter.retriesOf (s : McpState) (request : McpRequest) : Nat :=
  match s.registry.getServer adapter.texts.isPrintable request.serverId with
  | .error _ => 0
  | .ok server => (adapter.resolveMaxRetries server.metadata).toOption.getD 0

/-- The entry of a call: it ends there, or its server is checked. -/
theorem execute_cases {s : McpState} {request : McpRequest}
    (hallow : request.decision.decision = .allow)
    (hcircuit : s.circuitBreaker.allow (circuitKey request.serverId request.toolName) = true) :
    (∃ effects, adapter.execute s request = (effects, none) ∧ invocations effects = 0 ∧
        RecordedOnce effects) ∨
      ∃ call, adapter.execute s request = ([.healthcheck request.serverId], some call) ∧
        call.context = request.context ∧ call.waitsFor = .healthcheck ∧ call.attempt = 1 ∧
        call.maxRetries = adapter.retriesOf s request := by
  unfold McpToolAdapter.execute McpToolAdapter.retriesOf
  dsimp only
  rw [if_neg (not_not.mpr hallow), if_neg fun hopen ↦ Bool.noConfusion (hopen.symm.trans hcircuit)]
  cases hserver : s.registry.getServer adapter.texts.isPrintable request.serverId with
  | error exc => exact .inl ⟨_, rfl, invocations_onException _ _, recordedOnce_onException _ _⟩
  | ok server =>
    dsimp only
    cases hretries : adapter.resolveMaxRetries server.metadata with
    | error exc => exact .inl ⟨_, rfl, invocations_onException _ _, recordedOnce_onException _ _⟩
    | ok maxRetries => exact .inr ⟨_, rfl, rfl, rfl, rfl, rfl⟩

/-- The health check: the call ends there, or its tool is invoked. -/
theorem healthAnswered_cases (s : McpState) (call : McpCall)
    (answer : Except McpRaised (List (String × Value))) :
    (∃ effects, adapter.healthAnswered s call answer = (effects, none) ∧ invocations effects = 0 ∧
        RecordedOnce effects) ∨
      ∃ health, adapter.healthAnswered s call answer =
        ([.setServerHealth call.serverId health, call.invoke],
          some { call with waitsFor := .callTool }) := by
  have hfails (exc : McpRaised) (health : McpServerHealth) :
      invocations (.setServerHealth call.serverId health :: call.onException exc) = 0 ∧
        RecordedOnce (.setServerHealth call.serverId health :: call.onException exc) := by
    have hquiet : Quiet [.setServerHealth call.serverId health] := ⟨rfl, rfl⟩
    exact ⟨invocations_onException call exc, (recordedOnce_onException call exc).after_quiet hquiet⟩
  unfold McpToolAdapter.healthAnswered
  cases answer with
  | error exc => exact .inl ⟨_, rfl, invocations_onException _ _, recordedOnce_onException _ _⟩
  | ok response =>
    dsimp only
    split
    · exact .inl ⟨_, rfl, invocations_onException _ _, recordedOnce_onException _ _⟩
    · split
      · exact .inl ⟨_, rfl, hfails _ _⟩
      · cases enforceTrustTier call.trustTier call.context with
        | some exc => exact .inl ⟨_, rfl, hfails _ _⟩
        | none => exact .inr ⟨_, rfl⟩

end Exits

/-! ## A call among others -/

section Runs

variable (adapter : McpToolAdapter) {id : Nat} {s : Running} {call : McpCall} {run : List Input}

theorem isOf_iff {input : Input} : input.isOf id = true ↔ input.call? = some id := decide_eq_true_iff

theorem performed_trace_cons (s : Running) (input : Input) (run : List Input) :
    performed id (Run.trace (Running.step adapter) s (input :: run)) =
      (if input.isOf id then (s.step adapter input).1 else []) ++
        performed id (Run.trace (Running.step adapter) (s.step adapter input).2 run) := by
  rw [Run.trace, performed, List.flatMap_cons]
  rfl

/-- What belongs to other calls does nothing for this one. -/
theorem exec_others (hrun : ∀ input ∈ run, input.isOf id = false) :
    performed id (Run.trace (Running.step adapter) s run) = [] ∧
      (Run.exec (Running.step adapter) s run).calls.get? id = s.calls.get? id := by
  induction run generalizing s with
  | nil => exact ⟨rfl, rfl⟩
  | cons input run ih =>
    rw [List.forall_mem_cons] at hrun
    obtain ⟨hquiet, hcall⟩ := ih (s := (s.step adapter input).2) hrun.2
    have hother : input.call? ≠ some id := fun hmine ↦
      absurd (hrun.1.symm.trans (isOf_iff.mpr hmine)) (by decide)
    rw [performed_trace_cons, hrun.1, hquiet]
    exact ⟨rfl, hcall.trans (get?_calls_step s input hother)⟩

/-- What is done for a call begins with what its first input does, in some state. -/
theorem exec_next (s : Running) {input : Input} {rest : List Input}
    (hrun : run.filter (Input.isOf id) = input :: rest) :
    ∃ (t : Running) (run' : List Input),
      t.calls.get? id = s.calls.get? id ∧ run'.filter (Input.isOf id) = rest ∧
      performed id (Run.trace (Running.step adapter) s run) = (t.step adapter input).1 ++
        performed id (Run.trace (Running.step adapter) (t.step adapter input).2 run') ∧
      Run.exec (Running.step adapter) s run =
        Run.exec (Running.step adapter) (t.step adapter input).2 run' := by
  obtain ⟨others, run', rfl, hothers, hmine, hrest⟩ := List.filter_eq_cons_iff.mp hrun
  obtain ⟨hquiet, hcall⟩ := exec_others adapter (s := s) fun input' hmem ↦
    Bool.eq_false_of_not_eq_true (hothers input' hmem)
  refine ⟨Run.exec (Running.step adapter) s others, run', hcall, hrest, ?_, ?_⟩
  · rw [Run.trace_append, performed, List.flatMap_append]
    refine (congrArg (· ++ _) hquiet).trans ?_
    refine (performed_trace_cons ..).trans ?_
    rw [if_pos hmine]
  · rw [Run.exec_append]
    rfl

theorem exec_nothing (s : Running) (hrun : run.filter (Input.isOf id) = []) :
    performed id (Run.trace (Running.step adapter) s run) = [] ∧
      (Run.exec (Running.step adapter) s run).calls.get? id = s.calls.get? id :=
  exec_others adapter fun input hmem ↦
    Bool.eq_false_of_not_eq_true (List.filter_eq_nil_iff.mp hrun input hmem)

theorem step_toolAnswered (hcall : s.calls.get? id = some call) (hwaits : call.waitsFor = .callTool)
    (answer : Except McpRaised Value) :
    s.step adapter (.toolAnswered id answer) = s.ran id (McpToolAdapter.toolAnswered call answer) := by
  have hwaiting : s.waiting id .callTool = some call := by
    rw [Running.waiting, hcall]
    exact Option.filter_eq_some_iff.mpr ⟨rfl, decide_eq_true hwaits⟩
  rw [Running.step, hwaiting]

/-- Nobody waits for what the client answers a call that is over. -/
theorem exec_over {rest : List Input} (hcall : s.calls.get? id = none)
    (hrest : ∀ input ∈ rest, (∃ answer, input = .healthAnswered id answer) ∨
      ∃ answer, input = .toolAnswered id answer)
    (hrun : run.filter (Input.isOf id) = rest) :
    performed id (Run.trace (Running.step adapter) s run) = [] ∧
      (Run.exec (Running.step adapter) s run).calls.get? id = none := by
  induction rest generalizing s run with
  | nil =>
    obtain ⟨hquiet, hsame⟩ := exec_nothing adapter s hrun
    exact ⟨hquiet, hsame.trans hcall⟩
  | cons input rest ih =>
    rw [List.forall_mem_cons] at hrest
    obtain ⟨t, run', ht, hrun', hdone, hend⟩ := exec_next adapter s hrun
    have hwaiting (wait : Wait) : t.waiting id wait = none := by
      rw [Running.waiting, ht, hcall, Option.filter_none]
    have hstep : t.step adapter input = ([], t) := by
      rcases hrest.1 with ⟨answer, rfl⟩ | ⟨answer, rfl⟩
      · rw [Running.step, hwaiting]
      · rw [Running.step, hwaiting]
    rw [hdone, hend, hstep]
    exact ih (ht.trans hcall) hrest.2 hrun'

theorem isAnswer_of_mem_map {answers : List (Except McpRaised Value)} {input : Input}
    (h : input ∈ answers.map (Input.toolAnswered id)) :
    (∃ answer, input = .healthAnswered id answer) ∨ ∃ answer, input = .toolAnswered id answer := by
  obtain ⟨answer, -, rfl⟩ := List.mem_map.mp h
  exact .inr ⟨answer, rfl⟩

/-- **A call among others.**  However the calls are interleaved, a call whose tool has been invoked
goes through its loop. -/
theorem exec_toolAnswered {answers : List (Except McpRaised Value)}
    (hcall : s.calls.get? id = some call) (hwaits : call.waitsFor = .callTool)
    (hrun : run.filter (Input.isOf id) = answers.map (Input.toolAnswered id)) :
    performed id (Run.trace (Running.step adapter) s run) = (toolLoop call answers).1 ∧
      (Run.exec (Running.step adapter) s run).calls.get? id = (toolLoop call answers).2 := by
  induction answers generalizing s call run with
  | nil =>
    obtain ⟨hquiet, hsame⟩ := exec_nothing adapter s hrun
    exact ⟨hquiet, hsame.trans hcall⟩
  | cons answer answers ih =>
    obtain ⟨t, run', ht, hrun', hdone, hend⟩ := exec_next adapter s hrun
    rw [hdone, hend, step_toolAnswered adapter (ht.trans hcall) hwaits, toolLoop]
    have hget := get?_calls_ran t id (McpToolAdapter.toolAnswered call answer) id
    rw [if_pos rfl] at hget
    cases hturn : McpToolAdapter.toolAnswered call answer with
    | mk effects next =>
      rw [hturn] at hget
      cases next with
      | none =>
        obtain ⟨hquiet, hover⟩ := exec_over adapter hget (fun _ ↦ isAnswer_of_mem_map) hrun'
        rw [hquiet, hover]
        exact ⟨List.append_nil _, rfl⟩
      | some next =>
        obtain ⟨heffects, hnext⟩ := ih hget ((waitsFor_toolAnswered hturn).trans hwaits) hrun'
        rw [heffects, hnext]
        exact ⟨rfl, rfl⟩

/-- A call whose server is checked, and whose tool is asked until it is over. -/
theorem exec_healthAnswered {health : Except McpRaised (List (String × Value))}
    {answers : List (Except McpRaised Value)} (hid : Text.strip call.context.callId ≠ "")
    (hcall : s.calls.get? id = some call) (hwaits : call.waitsFor = .healthcheck)
    (hattempt : call.attempt = 1)
    (hrun : run.filter (Input.isOf id) = .healthAnswered id health :: answers.map (.toolAnswered id)) :
    let did := performed id (Run.trace (Running.step adapter) s run)
    let left := (Run.exec (Running.step adapter) s run).calls.get? id
    invocations did ≤ call.maxRetries + 1 ∧ (call.maxRetries + 1 ≤ answers.length → left = none) ∧
      (left = none → RecordedOnce did) := by
  intro did left
  obtain ⟨t, run', ht, hrun', hdone, hend⟩ := exec_next adapter s hrun
  have hstep : t.step adapter (.healthAnswered id health) =
      t.ran id (adapter.healthAnswered t.shared call health) := by
    have hwaiting : t.waiting id .healthcheck = some call := by
      rw [Running.waiting, ht, hcall]
      exact Option.filter_eq_some_iff.mpr ⟨rfl, decide_eq_true hwaits⟩
    rw [Running.step, hwaiting]
  have hget := get?_calls_ran t id (adapter.healthAnswered t.shared call health) id
  rw [if_pos rfl] at hget
  rw [show did = _ from hdone, show left = _ from congrArg (fun r ↦ r.calls.get? id) hend, hstep]
  rcases healthAnswered_cases adapter t.shared call health with
    ⟨effects, heq, hnone, honce⟩ | ⟨reported, heq⟩
  · rw [heq] at hget ⊢
    obtain ⟨hquiet, hover⟩ := exec_over adapter hget (fun _ ↦ isAnswer_of_mem_map) hrun'
    rw [hquiet, hover, List.append_nil]
    exact ⟨hnone.trans_le (Nat.zero_le _), fun _ ↦ rfl, fun _ ↦ honce⟩
  · rw [heq] at hget ⊢
    obtain ⟨heffects, hleft⟩ := exec_toolAnswered adapter hget rfl hrun'
    obtain ⟨hbound, hends, honce⟩ := @toolLoop_spec { call with waitsFor := .callTool } hid
      (hattempt.trans_le (Nat.le_add_left 1 _)) answers
    rw [heffects, hleft, invocations_append]
    refine ⟨?_, fun hlt ↦ hends ?_, fun hover ↦ (honce hover).after_quiet ⟨rfl, rfl⟩⟩
    · dsimp only [Running.ran]
      rw [show invocations [.setServerHealth call.serverId reported, call.invoke] = 1 from rfl]
      dsimp only at hbound
      omega
    · dsimp only
      omega

/-- **Calls that fail are recorded once.**  A call with an id comes in that the policy and the breaker
let through, in any state; the client answers its health check and the invocations of its tool in any
way, and other calls do anything meanwhile.  Then the tool is invoked at most once more than the server
allows retries, the call is over when all of that has been answered, and when it is over, it has
returned a success and recorded nothing, or another result and recorded its error once. -/
theorem recorded_once (adapter : McpToolAdapter) (s : Running) (id : Nat) (request : McpRequest)
    (health : Except McpRaised (List (String × Value))) (answers : List (Except McpRaised Value))
    (run : List Input) (hidle : id ∉ s.calls.keys) (hallow : request.decision.decision = .allow)
    (hcircuit :
      s.shared.circuitBreaker.allow (circuitKey request.serverId request.toolName) = true)
    (hid : Text.strip request.context.callId ≠ "")
    (hrun : run.filter (Input.isOf id) = .healthAnswered id health :: answers.map (.toolAnswered id)) :
    let did := performed id (Run.trace (Running.step adapter) s (.execute id request :: run))
    let calls := (Run.exec (Running.step adapter) s (.execute id request :: run)).calls
    let maxRetries := adapter.retriesOf s.shared request
    invocations did ≤ maxRetries + 1 ∧
      (maxRetries + 1 ≤ answers.length → id ∉ calls.keys) ∧
      (id ∉ calls.keys → RecordedOnce did) := by
  intro did calls maxRetries
  have hstep : s.step adapter (.execute id request) =
      s.ran id (adapter.execute s.shared request) := by
    rw [Running.step, if_neg hidle]
  have hover : id ∉ calls.keys ↔ calls.get? id = none := by
    rw [Dict.mem_keys_iff, Option.eq_none_iff_forall_ne_some]
    exact not_exists
  have hget := get?_calls_ran s id (adapter.execute s.shared request) id
  rw [if_pos rfl] at hget
  have hdid : did = (s.step adapter (.execute id request)).1 ++
      performed id (Run.trace (Running.step adapter) (s.step adapter (.execute id request)).2 run) := by
    rw [show did = _ from performed_trace_cons adapter s _ run, if_pos (isOf_iff.mpr rfl)]
  have hcalls : calls =
      (Run.exec (Running.step adapter) (s.step adapter (.execute id request)).2 run).calls := rfl
  rw [hover, hdid, hcalls, hstep]
  rcases execute_cases adapter hallow hcircuit with
    ⟨effects, heq, hnone, honce⟩ | ⟨call, heq, hcontext, hwaits, hattempt, hretries⟩
  · rw [heq] at hget ⊢
    obtain ⟨hquiet, hend⟩ := exec_over adapter hget
      (List.forall_mem_cons.mpr ⟨.inl ⟨health, rfl⟩, fun _ ↦ isAnswer_of_mem_map⟩) hrun
    rw [hquiet, hend, List.append_nil]
    exact ⟨hnone.trans_le (Nat.zero_le _), fun _ ↦ rfl, fun _ ↦ honce⟩
  · rw [heq] at hget ⊢
    rw [← hcontext] at hid
    obtain ⟨hbound, hends, honce⟩ := exec_healthAnswered adapter hid hget hwaits hattempt hrun
    rw [hretries] at hbound hends
    refine ⟨?_, hends, fun hend ↦ (honce hend).after_quiet ⟨rfl, rfl⟩⟩
    rw [invocations_append]
    exact (Nat.zero_add _).trans_le hbound

end Runs

/-- A tool that times out three times, while another call of it goes on. -/
def threeTimeouts : List Input :=
  [.execute 1 (lookupRequest "globex" false), .healthAnswered 0 (.ok []),
    .toolAnswered 0 (.error (.timeoutError "")), .healthAnswered 1 (.ok []),
    .toolAnswered 0 (.error (.timeoutError "")), .toolAnswered 1 (.ok (.str "found")),
    .toolAnswered 0 (.error (.timeoutError ""))]

/-- With two retries, the call is over after that, and recorded. -/
theorem recorded_once_timeouts :
    RecordedOnce (performed 0 (Run.trace (Running.step asciiAdapter) (filesServer .trusted 2)
      (.execute 0 (lookupRequest "acme" false) :: threeTimeouts))) := by
  have hstart : Text.strip (lookupRequest "acme" false).context.callId ≠ "" ∧
      asciiAdapter.retriesOf (filesServer .trusted 2).shared (lookupRequest "acme" false) = 2 := by
    decide +kernel
  obtain ⟨-, hends, honce⟩ := recorded_once asciiAdapter (filesServer .trusted 2) 0
    (lookupRequest "acme" false) (.ok []) (List.replicate 3 (.error (.timeoutError "")))
    threeTimeouts (by decide) rfl rfl hstart.1 rfl
  rw [hstart.2] at hends
  exact honce (hends le_rfl)

end Mcp
end ExoBrain
