import ExoBrain.Mcp.ToolAdapter

/-!
# Calls that are rejected on the way to a server

A call can be turned away before its tool is invoked, because nobody knows the server or because of
the server's trust tier.  The breaker counts that as a failure of the tool, for everybody, and the
health check that such a call has made may take a mark off the server.

* `RejectedLocally` says of the steps of a call that this is what happens to it.
* A run is compared with others that have other calls in their place.  `outcomes` are the results of
  the calls that they have in common.
* `Unaffected` compares what the breaker and the registry say to such a call when it comes in with
  what they would say if the others had not been made (`othersState`).
* `isolated_iff`: if the common calls are unaffected in one of two runs, they have the same outcomes
  in the other exactly if they are unaffected there, too.
* `rejections_open_circuit` closes a tool to a tenant by three rejected calls of another one.
-/

set_option autoImplicit false

namespace ExoBrain
namespace Mcp

/-! ## Runs with and without some calls -/

/-- The input belongs to none of the omitted calls. -/
def Input.isCommon (omitted : Nat → Bool) (input : Input) : Bool := !input.call?.any omitted

/-- What the registry raises for the server, if anything. -/
def McpRegistry.refuses (isPrintable : Char → Bool) (serverId : String) (r : McpRegistry) :
    Option McpRaised :=
  match r.getServer isPrintable serverId with
  | .error exc => some exc
  | .ok _ => none

/-- The step belongs to a call of the tenant that is rejected because its server is not registered or
because of the trust tier. -/
def RejectedLocally (adapter : McpToolAdapter) (tenantId : String) (s : Running) : Input → Prop
  | .execute _ request =>
    request.context.tenantId = tenantId ∧ request.decision.decision = .allow ∧
      s.shared.circuitBreaker.allow (circuitKey request.serverId request.toolName) = true ∧
      (request.serverId ∉ s.shared.registry.servers.keys ∨
        (adapter.execute s.shared request).2.isSome)
  | .healthAnswered id (.ok response) => ∀ call ∈ s.waiting id .healthcheck,
      call.serverId ∈ s.shared.registry.servers.keys ∧
        (adapter.readHealth response).state ≠ .unavailable ∧
        (enforceTrustTier call.trustTier call.context).isSome
  | _ => False

instance (adapter : McpToolAdapter) (tenantId : String) (s : Running) :
    (input : Input) → Decidable (RejectedLocally adapter tenantId s input)
  | .execute _ _ => inferInstanceAs (Decidable (_ ∧ _ ∧ _ ∧ (_ ∨ _)))
  | .healthAnswered id (.ok response) =>
    inferInstanceAs (Decidable (∀ call ∈ s.waiting id .healthcheck,
      call.serverId ∈ s.shared.registry.servers.keys ∧
        (adapter.readHealth response).state ≠ .unavailable ∧
        (enforceTrustTier call.trustTier call.context).isSome))
  | .healthAnswered _ (.error _) | .toolAnswered _ _ | .cancelled _ | .registerServer _
  | .setServerHealth _ _ => isFalse id

/-- What has happened, with the effects. -/
abbrev History := List (Input × List Effect)

/-- The result that is returned. -/
def Effect.returned? : Effect → Option McpToolResult
  | .returned result => some result
  | _ => none

/-- What somebody who waits for a call sees of a step. -/
def seen (e : Input × List Effect) : Input × List McpToolResult :=
  (e.1, e.2.filterMap Effect.returned?)

/-- The results of all calls but the omitted ones. -/
def outcomes (omitted : Nat → Bool) (history : History) : List (Input × List McpToolResult) :=
  (history.filter fun e ↦ e.1.isCommon omitted).map seen

/-- What a step has changed. -/
def McpState.after (s : McpState) (e : Input × List Effect) : McpState :=
  match e.1 with
  | .registerServer record => { s with registry := s.registry.registerServer record }
  | _ => s.applyAll e.2

/-- What all calls would share if the omitted ones had not been made. -/
def othersState (omitted : Nat → Bool) (s : McpState) (history : History) : McpState :=
  (history.filter fun e ↦ e.1.isCommon omitted).foldl McpState.after s

/-- A request that comes in finds the circuit of its tool open in both states or in neither, and if
in neither, the registry refuses its server alike. -/
def SameEntry (adapter : McpToolAdapter) (request : McpRequest) (s t : McpState) : Prop :=
  let key := (McpToolAdapter.callOf request).key
  s.circuitBreaker.allow key = t.circuitBreaker.allow key ∧
    (t.circuitBreaker.allow key = true →
      s.registry.refuses adapter.texts.isPrintable request.serverId =
        t.registry.refuses adapter.texts.isPrintable request.serverId)

/-- A call that is not one of the omitted ones, and that the policy allows, comes in as it would if
those had not been made. -/
def Unaffected (adapter : McpToolAdapter) (omitted : Nat → Bool) (s : McpState)
    (p : History × Running) : Input → Prop
  | .execute id request =>
    omitted id = false → id ∉ p.2.calls.keys → request.decision.decision = .allow →
      SameEntry adapter request p.2.shared (othersState omitted s p.1)
  | _ => True

instance (adapter : McpToolAdapter) (request : McpRequest) (s t : McpState) :
    Decidable (SameEntry adapter request s t) := inferInstanceAs (Decidable (_ ∧ (_ → _)))

instance (adapter : McpToolAdapter) (omitted : Nat → Bool) (s : McpState) (p : History × Running) :
    (input : Input) → Decidable (Unaffected adapter omitted s p input)
  | .execute _ _ => inferInstanceAs (Decidable (_ → _ → _ → _))
  | .healthAnswered _ _ | .toolAnswered _ _ | .cancelled _ | .registerServer _
  | .setServerHealth _ _ => isTrue trivial

/-! ## Steps -/

section Steps

variable {adapter : McpToolAdapter} {s t : McpState} {call : McpCall}

theorem servers_applyAll (effects : List Effect) :
    (s.applyAll effects).registry.servers = s.registry.servers := by
  induction effects generalizing s with
  | nil => rfl
  | cons effect effects ih => exact ih.trans (by cases effect <;> rfl)

/-- What a step changes can be read off what has happened. -/
theorem shared_step (s : Running) (input : Input) :
    (s.step adapter input).2.shared = s.shared.after (input, (s.step adapter input).1) := by
  cases input with
  | execute id request =>
    rw [Running.step]
    split <;> rfl
  | healthAnswered id answer =>
    rw [Running.step]
    split <;> rfl
  | toolAnswered id answer =>
    rw [Running.step]
    split <;> rfl
  | cancelled id => rfl
  | registerServer record => rfl
  | setServerHealth serverId health =>
    rw [Running.step]
    split <;> rfl

theorem othersState_concat (omitted : Nat → Bool) (history : History) (e : Input × List Effect) :
    othersState omitted s (history ++ [e]) =
      if e.1.isCommon omitted = true then (othersState omitted s history).after e
      else othersState omitted s history := by
  rw [othersState, List.filter_append, List.foldl_append]
  cases hof : e.1.isCommon omitted with
  | false => simp [hof, othersState]
  | true => simp [hof, othersState]

/-! ### The entry of a call -/

/-- What is said of the errors of the results. -/
def errorsOf (effects : List Effect) : List (String × String) :=
  (effects.filterMap Effect.returned?).map fun r ↦ (r.error.code, r.error.message)

theorem errorsOf_onException_exception (text : String) :
    errorsOf (call.onException (.exception text)) = [("MCP_EXECUTION_ERROR", text)] := rfl

theorem getServer_of_mem {isPrintable : Char → Bool} {serverId : String} {r : McpRegistry}
    {record : McpServerRecord} (h : r.servers.get? serverId = some record) :
    r.getServer isPrintable serverId = .ok record ∨
      ∃ text, r.getServer isPrintable serverId = .error (.valueError text) := by
  rw [McpRegistry.getServer, h]
  dsimp only
  split
  · exact .inr ⟨_, rfl⟩
  · split
    · exact .inr ⟨_, rfl⟩
    · exact .inl rfl

/-- A server that is registered is refused with a `ValueError`, if at all. -/
theorem refuses_cases (isPrintable : Char → Bool) (serverId : String) (r : McpRegistry) :
    (r.servers.get? serverId = none ∧
        r.refuses isPrintable serverId = some (McpRegistry.notRegistered isPrintable serverId)) ∨
      ∃ record, r.servers.get? serverId = some record ∧
        ((r.refuses isPrintable serverId = none ∧ r.getServer isPrintable serverId = .ok record) ∨
          ∃ text, r.refuses isPrintable serverId = some (.valueError text) ∧
            r.getServer isPrintable serverId = .error (.valueError text)) := by
  unfold McpRegistry.refuses
  cases hrecord : r.servers.get? serverId with
  | none =>
    have hget : r.getServer isPrintable serverId =
        .error (McpRegistry.notRegistered isPrintable serverId) := by
      rw [McpRegistry.getServer, hrecord]
    rw [hget]
    exact .inl ⟨rfl, rfl⟩
  | some record =>
    refine .inr ⟨record, rfl, ?_⟩
    rcases getServer_of_mem hrecord with hget | ⟨text, hget⟩
    · rw [hget]
      exact .inl ⟨rfl, rfl⟩
    · rw [hget]
      exact .inr ⟨text, rfl, rfl⟩

/-- Registries with the same servers that refuse alike return alike. -/
theorem getServer_congr {isPrintable : Char → Bool} {serverId : String} {r r' : McpRegistry}
    (hservers : r.servers = r'.servers)
    (h : r.refuses isPrintable serverId = r'.refuses isPrintable serverId) :
    r.getServer isPrintable serverId = r'.getServer isPrintable serverId := by
  rcases refuses_cases isPrintable serverId r with ⟨hnone, -⟩ | ⟨record, hrecord, hr⟩
  · rw [McpRegistry.getServer, McpRegistry.getServer, ← hservers, hnone]
  · rcases refuses_cases isPrintable serverId r' with ⟨hnone, -⟩ | ⟨record', hrecord', hr'⟩
    · rw [← hservers, hrecord] at hnone
      cases hnone
    · rw [← hservers, hrecord] at hrecord'
      obtain rfl := Option.some.inj hrecord'
      rcases hr with ⟨hrefuses, hget⟩ | ⟨text, hrefuses, hget⟩ <;>
        rcases hr' with ⟨hrefuses', hget'⟩ | ⟨text', hrefuses', hget'⟩ <;>
        rw [hrefuses, hrefuses'] at h
      · rw [hget, hget']
      · cases h
      · cases h
      · rw [hget, hget', McpRaised.valueError.inj (Option.some.inj h)]

/-- Such registries refuse alike if they refuse with the same text. -/
theorem refuses_congr {isPrintable : Char → Bool} {serverId : String} {r r' : McpRegistry}
    (hservers : r.servers = r'.servers)
    (h : (r.refuses isPrintable serverId).map McpRaised.text =
      (r'.refuses isPrintable serverId).map McpRaised.text) :
    r.refuses isPrintable serverId = r'.refuses isPrintable serverId := by
  rcases refuses_cases isPrintable serverId r with ⟨hnone, hrefuses⟩ | ⟨record, hrecord, hr⟩
  · rw [McpRegistry.refuses, McpRegistry.refuses, McpRegistry.getServer, McpRegistry.getServer,
      ← hservers, hnone]
  · rcases refuses_cases isPrintable serverId r' with ⟨hnone, -⟩ | ⟨record', hrecord', hr'⟩
    · rw [← hservers, hrecord] at hnone
      cases hnone
    · rcases hr with ⟨hrefuses, -⟩ | ⟨text, hrefuses, -⟩ <;>
        rcases hr' with ⟨hrefuses', -⟩ | ⟨text', hrefuses', -⟩ <;>
        rw [hrefuses, hrefuses'] at h ⊢
      · cases h
      · cases h
      · exact congrArg (fun text ↦ some (McpRaised.valueError text)) (Option.some.inj h)

theorem McpToolAdapter.resolveMaxRetries_cases (adapter : McpToolAdapter)
    (metadata : List (String × Value)) :
    (∃ n, adapter.resolveMaxRetries metadata = .ok n) ∨
      ∃ text, adapter.resolveMaxRetries metadata = .error (.exception text) := by
  unfold McpToolAdapter.resolveMaxRetries
  split
  · exact .inl ⟨_, rfl⟩
  · exact .inl ⟨_, rfl⟩
  · exact .inl ⟨_, rfl⟩
  · exact .inr ⟨_, rfl⟩

/-- What a call that the policy allows is answered at once. -/
theorem errorsOf_execute (adapter : McpToolAdapter) (s : McpState) {request : McpRequest}
    (hallow : request.decision.decision = .allow) :
    let key := (McpToolAdapter.callOf request).key
    (s.circuitBreaker.allow key = false ∧ ∃ message,
        errorsOf (adapter.execute s request).1 = [("MCP_CIRCUIT_OPEN", message)]) ∨
      (s.circuitBreaker.allow key = true ∧
        ((∃ exc, s.registry.refuses adapter.texts.isPrintable request.serverId = some exc ∧
            errorsOf (adapter.execute s request).1 = [("MCP_VALIDATION_ERROR", exc.text)]) ∨
          s.registry.refuses adapter.texts.isPrintable request.serverId = none ∧
            ∀ message, errorsOf (adapter.execute s request).1 ≠ [("MCP_CIRCUIT_OPEN", message)] ∧
              errorsOf (adapter.execute s request).1 ≠ [("MCP_VALIDATION_ERROR", message)])) := by
  unfold McpToolAdapter.execute
  dsimp only
  rw [if_neg (not_not.mpr hallow)]
  by_cases hopen : s.circuitBreaker.allow (McpToolAdapter.callOf request).key = false
  · rw [if_pos hopen]
    exact .inl ⟨hopen, _, rfl⟩
  · rw [if_neg hopen]
    refine .inr ⟨Bool.eq_true_of_not_eq_false hopen, ?_⟩
    rcases refuses_cases adapter.texts.isPrintable request.serverId s.registry with
      ⟨hnone, hrefuses⟩ | ⟨record, hrecord, ⟨hrefuses, hget⟩ | ⟨text, hrefuses, hget⟩⟩
    · refine .inl ⟨_, hrefuses, ?_⟩
      rw [McpRegistry.getServer, hnone]
      rfl
    · refine .inr ⟨hrefuses, fun message ↦ ?_⟩
      rw [hget]
      dsimp only
      rcases adapter.resolveMaxRetries_cases record.metadata with ⟨n, hn⟩ | ⟨text, htext⟩
      · rw [hn]
        exact ⟨nofun, nofun⟩
      · rw [htext]
        dsimp only
        rw [errorsOf_onException_exception]
        exact ⟨by simp, by simp⟩
    · refine .inl ⟨_, hrefuses, ?_⟩
      rw [hget]
      rfl

theorem execute_congr {request : McpRequest} (hservers : s.registry.servers = t.registry.servers)
    (h : request.decision.decision = .allow → SameEntry adapter request s t) :
    adapter.execute s request = adapter.execute t request := by
  unfold McpToolAdapter.execute
  dsimp only
  by_cases hallow : request.decision.decision = .allow
  · obtain ⟨hcircuit, hrefuses⟩ := h hallow
    rw [if_neg (not_not.mpr hallow), if_neg (not_not.mpr hallow), hcircuit]
    split
    · rfl
    · rename_i hclosed
      rw [getServer_congr hservers (hrefuses (Bool.eq_true_of_not_eq_false hclosed))]
  · rw [if_pos hallow, if_pos hallow]

/-- **The entry of a call.**  States with the same servers answer a request alike, as far as one can
see, exactly if it comes in alike. -/
theorem returned?_execute_iff {request : McpRequest}
    (hallow : request.decision.decision = .allow)
    (hservers : s.registry.servers = t.registry.servers) :
    (adapter.execute s request).1.filterMap Effect.returned? =
        (adapter.execute t request).1.filterMap Effect.returned? ↔
      SameEntry adapter request s t := by
  constructor
  · intro heq
    have herrors : errorsOf (adapter.execute s request).1 = errorsOf (adapter.execute t request).1 :=
      congrArg (List.map _) heq
    rcases errorsOf_execute adapter s hallow with
      ⟨hs, message, hes⟩ | ⟨hs, ⟨exc, hrs, hes⟩ | ⟨hrs, hes⟩⟩ <;>
      rcases errorsOf_execute adapter t hallow with
        ⟨ht, message', het⟩ | ⟨ht, ⟨exc', hrt, het⟩ | ⟨hrt, het⟩⟩
    · exact ⟨hs.trans ht.symm, fun hclosed ↦ absurd (ht.symm.trans hclosed) (by decide)⟩
    · exact absurd (hes.symm.trans (herrors.trans het)) (by simp)
    · exact absurd (herrors.symm.trans hes) (het message).1
    · exact absurd (hes.symm.trans (herrors.trans het)) (by simp)
    · have htext : exc.text = exc'.text := by simpa using hes.symm.trans (herrors.trans het)
      refine ⟨hs.trans ht.symm, fun _ ↦ refuses_congr hservers ?_⟩
      rw [hrs, hrt, Option.map_some, Option.map_some, htext]
    · exact absurd (herrors.symm.trans hes) (het exc.text).2
    · exact absurd (herrors.trans het) (hes message').1
    · exact absurd (herrors.trans het) (hes exc'.text).2
    · exact ⟨hs.trans ht.symm, fun _ ↦ hrs.trans hrt.symm⟩
  · intro h
    rw [execute_congr hservers fun _ ↦ h]

/-! ### One step with and without -/

theorem healthAnswered_congr (hservers : s.registry.servers = t.registry.servers)
    (answer : Except McpRaised (List (String × Value))) :
    adapter.healthAnswered s call answer = adapter.healthAnswered t call answer := by
  unfold McpToolAdapter.healthAnswered
  rw [hservers]

theorem servers_after (e : Input × List Effect)
    (hservers : s.registry.servers = t.registry.servers) :
    (s.after e).registry.servers = (t.after e).registry.servers := by
  unfold McpState.after
  split
  · exact congrArg (Dict.set _ _) hservers
  · rw [servers_applyAll, servers_applyAll, hservers]

theorem get?_calls_ran (s : Running) (id : Nat) (did : List Effect × Option McpCall) (id' : Nat) :
    (s.ran id did).2.calls.get? id' = if id' = id then did.2 else s.calls.get? id' := by
  rw [Running.ran]
  cases did.2 with
  | none => exact Dict.get?_erase ..
  | some call => exact Dict.get?_set ..

/-- A step of one call leaves the other calls alone. -/
theorem get?_calls_step (s : Running) (input : Input) {id : Nat} (h : input.call? ≠ some id) :
    (s.step adapter input).2.calls.get? id = s.calls.get? id := by
  have hran {id' : Nat} (did : List Effect × Option McpCall) (hne : some id' ≠ some id) :
      (s.ran id' did).2.calls.get? id = s.calls.get? id := by
    rw [get?_calls_ran, if_neg fun heq ↦ hne (congrArg some heq.symm)]
  cases input with
  | execute id' request =>
    rw [Running.step]
    split
    · rfl
    · exact hran _ h
  | healthAnswered id' answer =>
    rw [Running.step]
    split
    · rfl
    · exact hran _ h
  | toolAnswered id' answer =>
    rw [Running.step]
    split
    · rfl
    · exact hran _ h
  | cancelled id' =>
    rw [Running.step]
    exact (Dict.get?_erase ..).trans (if_neg fun heq ↦ h (congrArg some heq.symm))
  | registerServer record => rfl
  | setServerHealth serverId health =>
    rw [Running.step]
    split <;> rfl

end Steps

/-- A run with some calls in it, and the same without them. -/
structure Without (omitted : Nat → Bool) (s₀ : McpState) (p : History × Running) (t : Running) :
    Prop where
  servers : p.2.shared.registry.servers = t.shared.registry.servers
  shared : t.shared = othersState omitted s₀ p.1
  calls : ∀ {id}, omitted id = false → p.2.calls.get? id = t.calls.get? id

namespace Without

variable {adapter : McpToolAdapter} {omitted : Nat → Bool} {s₀ : McpState}
  {p : History × Running} {t : Running}

theorem waiting (h : Without omitted s₀ p t) {id : Nat} (hid : omitted id = false) (wait : Wait) :
    p.2.waiting id wait = t.waiting id wait :=
  congrArg (Option.filter _) (h.calls hid)

/-- A step of a call that is left out. -/
theorem skip (h : Without omitted s₀ p t) {input : Input} (hof : input.isCommon omitted = false) :
    Without omitted s₀ (Run.recorded (Running.step adapter) p input).2 t where
  servers := by
    rw [Run.recorded, shared_step]
    cases input with
    | registerServer record => cases hof
    | _ => exact (servers_applyAll _).trans h.servers
  shared := by
    rw [Run.recorded, othersState_concat, if_neg (by simp [hof])]
    exact h.shared
  calls {id} hid := by
    refine (get?_calls_step p.2 input fun hcall ↦ ?_).trans (h.calls hid)
    rw [Input.isCommon, hcall, Option.any_some, hid] at hof
    cases hof

/-- Another step that does the same. -/
theorem keep (h : Without omitted s₀ p t) {input : Input} (hof : input.isCommon omitted = true)
    (heq : (p.2.step adapter input).1 = (t.step adapter input).1)
    (hcalls : ∀ {id}, omitted id = false →
      (p.2.step adapter input).2.calls.get? id = (t.step adapter input).2.calls.get? id) :
    Without omitted s₀ (Run.recorded (Running.step adapter) p input).2
      (t.step adapter input).2 where
  servers := by
    rw [Run.recorded, shared_step, shared_step, heq]
    exact servers_after _ h.servers
  shared := by
    rw [Run.recorded, shared_step, othersState_concat, if_pos hof, heq, h.shared]
  calls := hcalls

/-- A part of a call that does the same in both runs. -/
theorem calls_ran (h : Without omitted s₀ p t) {id : Nat} (did : List Effect × Option McpCall)
    {id' : Nat} (hid' : omitted id' = false) :
    (p.2.ran id did).2.calls.get? id' = (t.ran id did).2.calls.get? id' := by
  rw [get?_calls_ran, get?_calls_ran, h.calls hid']

/-- Everything but the entry of a call does the same with and without the others. -/
theorem step_of_ne_execute (adapter : McpToolAdapter) (h : Without omitted s₀ p t) {input : Input}
    (hof : input.isCommon omitted = true) (hne : ∀ id request, input ≠ .execute id request) :
    (p.2.step adapter input).1 = (t.step adapter input).1 ∧
      Without omitted s₀ (Run.recorded (Running.step adapter) p input).2
        (t.step adapter input).2 := by
  suffices hsame : (p.2.step adapter input).1 = (t.step adapter input).1 ∧
      ∀ {id}, omitted id = false →
        (p.2.step adapter input).2.calls.get? id = (t.step adapter input).2.calls.get? id from
    ⟨hsame.1, h.keep hof hsame.1 hsame.2⟩
  cases input with
  | execute id request => exact absurd rfl (hne id request)
  | healthAnswered id answer =>
    rw [Running.step, Running.step, h.waiting ((Bool.not_eq_true' ..).mp hof)]
    cases t.waiting id .healthcheck with
    | none => exact ⟨rfl, h.calls⟩
    | some call =>
      dsimp only
      rw [healthAnswered_congr h.servers]
      exact ⟨rfl, h.calls_ran _⟩
  | toolAnswered id answer =>
    rw [Running.step, Running.step, h.waiting ((Bool.not_eq_true' ..).mp hof)]
    cases t.waiting id .callTool with
    | none => exact ⟨rfl, h.calls⟩
    | some call => exact ⟨rfl, h.calls_ran _⟩
  | cancelled id =>
    refine ⟨rfl, fun {id'} hid' ↦ ?_⟩
    rw [Running.step, Running.step, Dict.get?_erase, Dict.get?_erase, h.calls hid']
  | registerServer record => exact ⟨rfl, h.calls⟩
  | setServerHealth serverId health =>
    rw [Running.step, Running.step, h.servers]
    split
    · exact ⟨rfl, h.calls⟩
    · exact ⟨rfl, h.calls⟩

/-- **One step.**  A step of another call is seen to do the same in both runs exactly if the call is
unaffected, and then it does. -/
theorem step (h : Without omitted s₀ p t) {input : Input} (hof : input.isCommon omitted = true) :
    (seen (input, (p.2.step adapter input).1) = seen (input, (t.step adapter input).1) ↔
        Unaffected adapter omitted s₀ p input) ∧
      (Unaffected adapter omitted s₀ p input →
        Without omitted s₀ (Run.recorded (Running.step adapter) p input).2
          (t.step adapter input).2) := by
  cases input with
  | execute id request =>
    have hid : omitted id = false := (Bool.not_eq_true' ..).mp hof
    have hkeys : id ∈ p.2.calls.keys ↔ id ∈ t.calls.keys := by
      rw [Dict.mem_keys_iff, Dict.mem_keys_iff, h.calls hid]
    by_cases hbusy : id ∈ t.calls.keys
    · have hsame : (p.2.step adapter (.execute id request)) = ([], p.2) ∧
          t.step adapter (.execute id request) = ([], t) := by
        rw [Running.step, Running.step, if_pos (hkeys.mpr hbusy), if_pos hbusy]
        exact ⟨rfl, rfl⟩
      have heq : (p.2.step adapter (.execute id request)).1 =
          (t.step adapter (.execute id request)).1 := by rw [hsame.1, hsame.2]
      refine ⟨iff_of_true (congrArg (fun effects ↦ seen (_, effects)) heq)
        fun _ hidle ↦ absurd (hkeys.mpr hbusy) hidle, fun _ ↦ h.keep hof heq ?_⟩
      rw [hsame.1, hsame.2]
      exact h.calls
    · have hidle : id ∉ p.2.calls.keys := fun hmem ↦ hbusy (hkeys.mp hmem)
      have hstep : p.2.step adapter (.execute id request) =
            p.2.ran id (adapter.execute p.2.shared request) ∧
          t.step adapter (.execute id request) = t.ran id (adapter.execute t.shared request) := by
        rw [Running.step, Running.step, if_neg hidle, if_neg hbusy]
        exact ⟨rfl, rfl⟩
      have hunaffected : Unaffected adapter omitted s₀ p (.execute id request) ↔
          (request.decision.decision = .allow → SameEntry adapter request p.2.shared t.shared) := by
        rw [Unaffected, ← h.shared]
        exact ⟨fun hall ↦ hall hid hidle, fun hentry _ _ ↦ hentry⟩
      rw [hunaffected, hstep.1, hstep.2]
      constructor
      · show (_, (adapter.execute p.2.shared request).1.filterMap Effect.returned?) =
          (_, (adapter.execute t.shared request).1.filterMap Effect.returned?) ↔ _
        rw [Prod.mk.injEq, and_iff_right rfl]
        by_cases hallow : request.decision.decision = .allow
        · rw [returned?_execute_iff hallow h.servers]
          exact ⟨fun hentry _ ↦ hentry, fun hentry ↦ hentry hallow⟩
        · refine iff_of_true ?_ fun hallow' ↦ absurd hallow' hallow
          rw [execute_congr h.servers fun hallow' ↦ absurd hallow' hallow]
      · intro hentry
        have hexecute := execute_congr h.servers hentry
        rw [← hstep.2]
        refine h.keep hof ?_ ?_
        · rw [hstep.1, hstep.2, hexecute]
          rfl
        · rw [hstep.1, hstep.2, hexecute]
          exact h.calls_ran _
  | healthAnswered | toolAnswered | cancelled | registerServer | setServerHealth =>
    obtain ⟨heq, hnext⟩ := h.step_of_ne_execute adapter hof fun _ _ ↦ nofun
    rw [heq]
    exact ⟨iff_of_true rfl trivial, fun _ ↦ hnext⟩

end Without

/-! ## Runs -/

theorem outcomes_eq_iff (adapter : McpToolAdapter) (omitted : Nat → Bool) (s : Running)
    (run : List Input) :
    outcomes omitted (Run.trace (Running.step adapter) s run) =
        (Run.trace (Running.step adapter) s (run.filter (Input.isCommon omitted))).map seen ↔
      Run.Along (Run.recorded (Running.step adapter)) (Unaffected adapter omitted s.shared) ([], s)
        run := by
  have hinitial : Without omitted s.shared ([], s) s := ⟨rfl, rfl, fun _ ↦ rfl⟩
  rw [outcomes, ← Run.trace_recorded []]
  refine Run.map_trace_filter_iff_along (R := Without omitted s.shared) (D := fun _ _ ↦ True)
    (fun p t input _ h hof ↦ ?_) (fun p t input _ h hof ↦ ?_)
    (Run.along_of_forall (fun _ _ ↦ trivial) _ _) hinitial
  · refine ⟨h.skip hof, ?_⟩
    cases input with
    | execute id request =>
      have hid : omitted id = true := (Bool.not_eq_false' ..).mp hof
      exact fun hcommon ↦ absurd (hcommon.symm.trans hid) (by decide)
    | _ => trivial
  · exact h.step hof

/-- **Calls do not get in the way of others, and when they do.**  Two runs differ in some calls only;
they may be rejected ones, or any others, and all calls may be interleaved in any way.  If the common
calls are unaffected in the one run, as they are if it has no other calls, then they have the same
outcomes in the other exactly if they are unaffected there. -/
theorem isolated_iff (adapter : McpToolAdapter) (omitted₁ omitted₂ : Nat → Bool) (s : Running)
    (run₁ run₂ : List Input)
    (hsame : run₁.filter (Input.isCommon omitted₁) = run₂.filter (Input.isCommon omitted₂))
    (hunaffected : Run.Along (Run.recorded (Running.step adapter))
      (Unaffected adapter omitted₂ s.shared) ([], s) run₂) :
    outcomes omitted₁ (Run.trace (Running.step adapter) s run₁) =
        outcomes omitted₂ (Run.trace (Running.step adapter) s run₂) ↔
      Run.Along (Run.recorded (Running.step adapter)) (Unaffected adapter omitted₁ s.shared) ([], s)
        run₁ := by
  rw [(outcomes_eq_iff adapter omitted₂ s run₂).mpr hunaffected, ← hsame]
  exact outcomes_eq_iff adapter omitted₁ s run₁

/-- Some calls of `acme` that the trust tier rejects, and a call of `globex` that it does not. -/
def acmeThenGlobex (rejections : List Nat) : List Input :=
  (rejections.flatMap fun id ↦
    [.execute id (lookupRequest "acme" true), .healthAnswered id (.ok [])]) ++
  [.execute 3 (lookupRequest "globex" false), .healthAnswered 3 (.ok []),
    .toolAnswered 3 (.ok (.str "found"))]

/-- The calls of `acme` in it. -/
def ofAcme (id : Nat) : Bool := id < 3

/-- Two rejections are not enough to reach the threshold. -/
theorem isolated_iff_two_rejections :
    outcomes ofAcme (Run.trace (Running.step asciiAdapter) (filesServer .restricted 0)
        (acmeThenGlobex [0, 1])) =
      outcomes ofAcme (Run.trace (Running.step asciiAdapter) (filesServer .restricted 0)
        (acmeThenGlobex [])) :=
  (isolated_iff asciiAdapter ofAcme ofAcme (filesServer .restricted 0) (acmeThenGlobex [0, 1])
    (acmeThenGlobex []) rfl (by decide +kernel)).mpr (by decide +kernel)

/-- The statuses that the common calls end with. -/
def statuses (results : List (Input × List McpToolResult)) : List Core.ToolStatus :=
  results.flatMap fun e ↦ e.2.map (·.status)

/-- All calls of `acme` are rejected by the trust tier of the server.  The call of `globex` to the
same tool gets an error, and without them it succeeds. -/
theorem rejections_open_circuit :
    Run.Along (Running.step asciiAdapter)
        (fun s i ↦ i.isCommon ofAcme = false → RejectedLocally asciiAdapter "acme" s i)
        (filesServer .restricted 0) (acmeThenGlobex [0, 1, 2]) ∧
      statuses (outcomes ofAcme (Run.trace (Running.step asciiAdapter) (filesServer .restricted 0)
        (acmeThenGlobex [0, 1, 2]))) = [.error] ∧
      statuses (outcomes ofAcme (Run.trace (Running.step asciiAdapter) (filesServer .restricted 0)
        ((acmeThenGlobex [0, 1, 2]).filter (Input.isCommon ofAcme)))) = [.success] := by
  decide +kernel

end Mcp
end ExoBrain
