import ExoBrain.Lib.Checks
import ExoBrain.Lib.Run
import ExoBrain.Lib.Text
import ExoBrain.Providers.Registry

/-!
# Registering and unregistering providers

`register_provider` and `unregister_provider` (`provider_management/service.py`) are coroutines.
Each runs until it awaits something, and then others run: `registerBegin` and `registerTurn` are the
parts of the one, `unregisterBegin` and `unregisterTurn` those of the other.
`ProviderManagementService.step` is one part of one call, so that a list of events is a schedule of
any calls.

* What is awaited is an input of the step that goes on after it: the health of an adapter, the
  sessions that were counted, or an exception, before which a store may have written or not.
* A step answers with its write to the registry (`ProviderNotice.write`), and with what the call
  returns or raises in it.
* The import of a class and its constructor are parameters (`AdapterFactory`), as `str.lower` is.
* `step_cases` says what a step can do, and `RegisterTurn` what a turn of `register_provider` can.
-/

set_option autoImplicit false

namespace ExoBrain
namespace Providers

open Checks Text

/-! ## Exceptions -/

/-- What a call raises. -/
inductive ProviderError
  /-- `IdentityAccessError`. -/
  | identityAccess (statusCode : Nat) (detail : String)
  /-- `ProviderManagementError`. -/
  | management (statusCode : Nat) (detail : String)
  | valueError (message : String)
  | keyError (message : String)
  /-- What an adapter or a store has raised. -/
  | other (message : String)
deriving DecidableEq, Repr

/-! ## Adapters -/

/-- What the import of a class or its constructor raises. -/
inductive ImportFailure
  /-- `ImportError` or `ValueError`. -/
  | unloadable (message : String)
  | other (message : String)
deriving DecidableEq, Repr

/-- What `load_adapter` calls. -/
structure AdapterFactory where
  /-- `repr` of a text. -/
  repr : String → String
  /-- `_load_adapter_class`. -/
  loadAdapterClass : (ref : String) → Except ImportFailure Unit
  /-- `cls(provider_id=provider_id)`. -/
  construct : (ref providerId : String) → Except ImportFailure Unit

/-- `OPENAI_ADAPTER_CANONICAL_CLASS_REF`. -/
def openaiAdapterCanonicalClassRef : String :=
  "exo_adapter_openai.runtime.OpenAIAgentsRuntimeAdapter"

/-- `ECHO_ADAPTER_CANONICAL_CLASS_REF`. -/
def echoAdapterCanonicalClassRef : String := "exo_adapter_echo.runtime.EchoRuntimeAdapter"

/-- `canonicalize_adapter_class_ref`, with the message of its `ValueError`. -/
def canonicalizeAdapterClassRef (adapterClassRef : String) : Except String String :=
  let ref := strip adapterClassRef
  if ref = "" then .error "adapter_class_ref cannot be empty"
  else if ref ∈ ["EchoRuntimeAdapter", echoAdapterCanonicalClassRef] then
    .ok echoAdapterCanonicalClassRef
  else if ref ∈ ["OpenAIAgentsRuntimeAdapter", "exo_adapter_openai.OpenAIAgentsRuntimeAdapter",
      openaiAdapterCanonicalClassRef] then
    .ok openaiAdapterCanonicalClassRef
  else .ok ref

/-- `load_adapter`. -/
def AdapterFactory.loadAdapter (F : AdapterFactory) (adapterClassRef providerId : String) :
    Except ImportFailure Unit := do
  let canonicalRef ← (canonicalizeAdapterClassRef adapterClassRef).mapError .unloadable
  (F.loadAdapterClass canonicalRef).mapError fun
    | .unloadable _ => .unloadable ("Could not load adapter class for " ++ F.repr adapterClassRef ++
        " (canonical=" ++ F.repr canonicalRef ++ "). Install adapter packages: " ++
        "pip install -r requirements.txt " ++
        "or bash scripts/dev/install_adapter_dependencies.sh")
    | .other message => .other message
  F.construct canonicalRef providerId

/-- `HealthStatus`, as far as it is read. -/
structure HealthStatus where
  /-- `state == HealthState.HEALTHY`. -/
  healthy : Bool
  /-- `state.value`. -/
  stateValue : String
  reason : Option String
deriving DecidableEq, Repr

/-! ## Requests -/

/-- The arguments of `register_provider`, with the roles of the identity. -/
structure RegisterProvider where
  roles : List String
  providerId : String
  displayName : String
  adapterClassRef : String
  apiKeyEnvVar : String
  baseUrl : String
  model : String
  profile : String
  apiType : String
deriving DecidableEq, Repr

/-- A session store. -/
structure SessionStore where
  /-- It has `deactivate_sessions_by_provider`. -/
  supportsDrain : Bool
deriving DecidableEq, Repr

/-- The arguments of `unregister_provider`.  The factory of the tenants is left out: what is evicted
there is no part of the registry. -/
structure UnregisterProvider where
  roles : List String
  providerId : String
  sessionStore : Option SessionStore
  forceDrain : Bool
  drainEnabled : Bool
deriving DecidableEq, Repr

/-- A call. -/
inductive ProviderRequest
  | register (arguments : RegisterProvider)
  | unregister (arguments : UnregisterProvider)
deriving DecidableEq, Repr

/-- Where a call is. -/
inductive CallPhase
  /-- `register_provider` awaits the health check. -/
  | checkingHealth (canonicalRef : String)
  /-- It awaits `save_provider`. -/
  | saving (record : ProviderRecord)
  /-- `unregister_provider` awaits the number of active sessions. -/
  | counting
  /-- It awaits the drain. -/
  | draining
  /-- It awaits the number of active sessions that remain. -/
  | recounting
  /-- It awaits `get_provider`, and the provider was registered before or not. -/
  | reading (inRegistry : Bool)
  /-- It awaits `delete_provider`. -/
  | deleting
  | returned (record : Option ProviderRecord)
  | raised (error : ProviderError)
deriving DecidableEq, Repr

/-- What is returned or raised, if the call is over. -/
def CallPhase.answer : CallPhase → Option (Except ProviderError (Option ProviderRecord))
  | .returned record => some (.ok record)
  | .raised error => some (.error error)
  | _ => none

/-- A call, and where it is. -/
structure ProviderCall where
  request : ProviderRequest
  phase : CallPhase
deriving DecidableEq, Repr

/-- What comes of what is awaited. -/
inductive Arrival
  /-- The health check. -/
  | health (status : HealthStatus)
  /-- A count of sessions. -/
  | sessions (count : Nat)
  /-- A drain, or an operation of the provider store. -/
  | completed
  /-- An exception; a store may have `written` before it is raised. -/
  | raised (message : String) (written : Bool)
deriving DecidableEq, Repr

/-! ## The service -/

/-- `ProviderManagementService`, without its registry. -/
structure ProviderManagementService where
  /-- There is a provider store. -/
  hasStore : Bool
  factory : AdapterFactory
  /-- `str.lower`. -/
  lower : String → String

/-- The registry, the rows of the provider store, and the calls by their number. -/
structure ProviderState where
  registry : ProviderRegistry
  store : Dict String PersistedProviderRecord := Dict.empty
  calls : Dict Nat ProviderCall := Dict.empty

/-- What happens next. -/
inductive ProviderEvent
  /-- A call, with a number of its own, runs until it awaits something. -/
  | call (n : Nat) (request : ProviderRequest)
  /-- What a call awaits arrives, and the call runs until it awaits something else. -/
  | resume (n : Nat) (arrival : Arrival)
deriving DecidableEq, Repr

/-- The number of the call. -/
def ProviderEvent.number : ProviderEvent → Nat
  | .call n _ | .resume n _ => n

/-- What a step has written to the registry, and what its call returns or raises in it. -/
structure ProviderNotice where
  write : Option RegistryWrite := none
  answer : Option (Except ProviderError (Option ProviderRecord)) := none
deriving DecidableEq

/-- What a step has done to the registry. -/
def ProviderNotice.effect (x : ProviderNotice) (r : ProviderRegistry) : ProviderRegistry :=
  match x.write with
  | some write => r.apply write
  | none => r

/-- A part of a call: where the call is then, and what it has written. -/
structure Turn where
  phase : CallPhase
  write : Option RegistryWrite := none
  store : Dict String PersistedProviderRecord

/-- `require_platform_admin`. -/
def requirePlatformAdmin (roles : List String) (surface : String) : Except ProviderError Unit :=
  check (∃ role ∈ roles, strip role ∈ ["platform_admin", "super_admin"])
    (.identityAccess 403 ("PLATFORM_ADMIN_REQUIRED: '" ++ surface ++
      "' requires one of the platform admin roles ['platform_admin', 'super_admin']."))

/-- Where a call is that raises, or goes on. -/
def phaseOf : Except ProviderError CallPhase → CallPhase
  | .ok phase => phase
  | .error error => .raised error

namespace ProviderManagementService

variable (S : ProviderManagementService)

/-- `_require_provider_store`. -/
def requireProviderStore : Except ProviderError Unit :=
  check (S.hasStore = true)
    (.management 503 "Provider store is not configured (memory backend).")

/-- `_parse_api_type`. -/
def parseApiType (apiType : String) : Except ProviderError EndpointApiType :=
  let normalized := S.lower (strip apiType)
  if normalized = "" then .error (.management 422 "api_type is required.")
  else require (EndpointApiType.ofValue? normalized)
    (.management 422 ("Unsupported api_type '" ++ apiType ++ "'."))

/-! ## `register_provider` -/

/-- `register_provider`, up to the health check. -/
def registerBegin (a : RegisterProvider) (registry : ProviderRegistry) :
    Except ProviderError CallPhase := do
  requirePlatformAdmin a.roles "providers:register"
  S.requireProviderStore
  check (a.providerId ∉ registry.providers.keys)
    (.management 409 ("Provider '" ++ a.providerId ++ "' is already registered."))
  let canonicalRef ← (canonicalizeAdapterClassRef a.adapterClassRef).mapError .valueError
  (S.factory.loadAdapter canonicalRef a.providerId).mapError fun
    | .unloadable message => .management 422 message
    | .other message => .other message
  return .checkingHealth canonicalRef

/-- The record that `register_provider` makes. -/
def registeredRecord (a : RegisterProvider) (canonicalRef : String) (apiType : EndpointApiType) :
    ProviderRecord where
  providerId := a.providerId
  displayName := a.displayName
  adapterClass := canonicalRef
  enabled := true
  profile := (ProviderProfile.ofValue? a.profile).getD .managedVendor
  priority := 100
  endpoint := ⟨a.baseUrl, apiType⟩
  auth := ⟨"api_key", a.apiKeyEnvVar⟩
  modelDefaults := { model := a.model }

/-- `register_provider` after the health check: the record that is registered, or what is raised. -/
def registerChecked (a : RegisterProvider) (canonicalRef : String) (health : HealthStatus) :
    Except ProviderError ProviderRecord := do
  check (health.healthy = true) (.management 422 ("Adapter healthcheck failed: " ++
    match health.reason with
    | some reason => if reason = "" then health.stateValue else reason
    | none => health.stateValue))
  let apiType ← S.parseApiType a.apiType
  return registeredRecord a canonicalRef apiType

/-- The record that `save_provider` is given. -/
def persistedRecord (record : ProviderRecord) : PersistedProviderRecord where
  providerId := record.providerId
  displayName := record.displayName
  adapterClass := record.adapterClass
  enabled := true
  profile := record.profile.value
  priority := 100
  endpointBaseUrl := record.endpoint.baseUrl
  endpointApiType := record.endpoint.apiType.value
  authType := "api_key"
  authApiKeyEnvVar := record.auth.apiKeyEnvVar
  model := record.modelDefaults.model

/-- One turn of call `n` of `register_provider`, if it awaits what has arrived. -/
def registerTurn (n : Nat) (a : RegisterProvider) (phase : CallPhase) (arrival : Arrival)
    (s : ProviderState) : Option Turn :=
  match phase, arrival with
  | .checkingHealth canonicalRef, .health status =>
    match S.registerChecked a canonicalRef status with
    | .ok record =>
      some
        { phase := .saving record
          write := some (.register record (.loaded n))
          store := s.store }
    | .error error => some { phase := .raised error, store := s.store }
  | .checkingHealth _, .raised message _ =>
    some { phase := .raised (.other message), store := s.store }
  | .saving record, .completed =>
    some
      { phase := .returned (some record)
        store := s.store.set record.providerId (persistedRecord record) }
  | .saving record, .raised message written =>
    some
      { phase := .raised (.other message)
        store := if written then s.store.set record.providerId (persistedRecord record)
          else s.store }
  | _, _ => none

/-! ## `unregister_provider` -/

/-- `unregister_provider` where nothing keeps it any more, up to `get_provider`. -/
def unregisterRead (a : UnregisterProvider) (registry : ProviderRegistry) : CallPhase :=
  .reading (a.providerId ∈ registry.providers.keys)

/-- `unregister_provider`, up to what it awaits first. -/
def unregisterBegin (a : UnregisterProvider) (registry : ProviderRegistry) :
    Except ProviderError CallPhase := do
  requirePlatformAdmin a.roles "providers:delete"
  S.requireProviderStore
  if a.sessionStore.isSome then return .counting
  else return unregisterRead a registry

/-- `unregister_provider` after the first count. -/
def unregisterCounted (a : UnregisterProvider) (count : Nat) (registry : ProviderRegistry) :
    Except ProviderError CallPhase := do
  if 0 < count then
    check (a.forceDrain = true) (.management 409 ("Cannot delete provider '" ++ a.providerId ++
      "': " ++ toString count ++ " active session(s) depend on it."))
    check (a.drainEnabled = true) (.management 403
      ("Graceful drain is disabled or caller lacks admin role required " ++
        "for provider-drain override."))
    check (a.sessionStore.any SessionStore.supportsDrain = true)
      (.management 422 "Session store does not support provider-drain operation.")
    return .draining
  else return unregisterRead a registry

/-- `unregister_provider` after the second count. -/
def unregisterRecounted (a : UnregisterProvider) (count : Nat) (registry : ProviderRegistry) :
    Except ProviderError CallPhase := do
  check (count = 0) (.management 409 ("Cannot delete provider '" ++ a.providerId ++ "': " ++
    toString count ++ " active session(s) remain after attempted drain."))
  return unregisterRead a registry

/-- `unregister_provider` after `get_provider`. -/
def unregisterFound (a : UnregisterProvider) (inRegistry : Bool) (s : ProviderState) : Turn :=
  let persisted := a.providerId ∈ s.store.keys
  let next : CallPhase := if persisted then .deleting else .returned none
  if inRegistry = false ∧ ¬persisted then
    { phase := .raised (.management 404 ("Provider '" ++ a.providerId ++ "' not found"))
      store := s.store }
  else if inRegistry then
    if a.providerId ∈ s.registry.providers.keys then
      { phase := next, write := some (.unregister a.providerId), store := s.store }
    else
      { phase := .raised (.keyError ("Provider '" ++ a.providerId ++ "' is not registered"))
        store := s.store }
  else { phase := next, store := s.store }

/-- One turn of a call of `unregister_provider`, if it awaits what has arrived. -/
def unregisterTurn (a : UnregisterProvider) (phase : CallPhase) (arrival : Arrival)
    (s : ProviderState) : Option Turn :=
  match phase, arrival with
  | .counting, .sessions count =>
    some { phase := phaseOf (unregisterCounted a count s.registry), store := s.store }
  | .draining, .completed => some { phase := .recounting, store := s.store }
  | .recounting, .sessions count =>
    some { phase := phaseOf (unregisterRecounted a count s.registry), store := s.store }
  | .reading inRegistry, .completed => some (unregisterFound a inRegistry s)
  | .deleting, .completed => some { phase := .returned none, store := s.store.erase a.providerId }
  | .deleting, .raised message written =>
    some
      { phase := .raised (.other message)
        store := if written then s.store.erase a.providerId else s.store }
  | .counting, .raised message _ | .draining, .raised message _ | .recounting, .raised message _
  | .reading _, .raised message _ => some { phase := .raised (.other message), store := s.store }
  | _, _ => none

/-! ## Schedules -/

/-- Where a call is when it awaits something for the first time. -/
def beginPhase (request : ProviderRequest) (registry : ProviderRegistry) : CallPhase :=
  match request with
  | .register a => phaseOf (S.registerBegin a registry)
  | .unregister a => phaseOf (S.unregisterBegin a registry)

/-- One turn of call `n`, if it awaits what has arrived. -/
def turn (n : Nat) (c : ProviderCall) (arrival : Arrival) (s : ProviderState) : Option Turn :=
  match c.request with
  | .register a => S.registerTurn n a c.phase arrival s
  | .unregister a => unregisterTurn a c.phase arrival s

/-- What is left of a turn of call `n`. -/
def afterTurn (n : Nat) (t : Turn) (s : ProviderState) : ProviderState where
  registry :=
    match t.write with
    | some write => s.registry.apply write
    | none => s.registry
  store := t.store
  calls := s.calls.modify n fun c ↦ { c with phase := t.phase }

/-- One step. -/
def step (s : ProviderState) (e : ProviderEvent) : ProviderNotice × ProviderState :=
  match e with
  | .call n request =>
    if n ∈ s.calls.keys then ({}, s)
    else
      let phase := S.beginPhase request s.registry
      ({ answer := phase.answer }, { s with calls := s.calls.setDefault n ⟨request, phase⟩ })
  | .resume n arrival =>
    match (s.calls.get? n).bind fun c ↦ S.turn n c arrival s with
    | none => ({}, s)
    | some t => (⟨t.write, t.phase.answer⟩, afterTurn n t s)

/-! ## What a step can do -/

variable {S} {n : Nat} {s : ProviderState} {e : ProviderEvent} {phase : CallPhase}
  {arrival : Arrival}

/-- A step begins a call, goes on with one, or does nothing. -/
theorem step_cases (S : ProviderManagementService) (s : ProviderState) (e : ProviderEvent) :
    S.step s e = ({}, s) ∨
      (∃ n request, e = .call n request ∧ n ∉ s.calls.keys ∧
        S.step s e = ({ answer := (S.beginPhase request s.registry).answer },
          { s with calls := s.calls.setDefault n ⟨request, S.beginPhase request s.registry⟩ })) ∨
      ∃ n arrival c t, e = .resume n arrival ∧ s.calls.get? n = some c ∧
        S.turn n c arrival s = some t ∧
        S.step s e = (⟨t.write, t.phase.answer⟩, afterTurn n t s) := by
  cases e with
  | call n request =>
    by_cases hn : n ∈ s.calls.keys
    · exact .inl (if_pos hn)
    · exact .inr (.inl ⟨n, request, rfl, hn, if_neg hn⟩)
  | resume n arrival =>
    rw [step]
    cases hturn : (s.calls.get? n).bind fun c ↦ S.turn n c arrival s with
    | none => exact .inl rfl
    | some t =>
      obtain ⟨c, hc, ht⟩ := Option.bind_eq_some_iff.mp hturn
      exact .inr (.inr ⟨n, arrival, c, t, rfl, hc, ht, rfl⟩)

/-- The registry changes by what is written. -/
theorem registry_step (S : ProviderManagementService) (s : ProviderState) (e : ProviderEvent) :
    (S.step s e).2.registry = (S.step s e).1.effect s.registry := by
  rcases S.step_cases s e with h | ⟨n, request, -, -, h⟩ | ⟨n, arrival, c, t, -, -, -, h⟩ <;>
    rw [h] <;> rfl

/-- A call changes only itself. -/
theorem get?_calls_step (hne : e.number ≠ n) :
    (S.step s e).2.calls.get? n = s.calls.get? n := by
  rcases S.step_cases s e with h | ⟨m, request, rfl, -, h⟩ | ⟨m, arrival, c, t, rfl, -, -, h⟩
  · rw [h]
  · have hnm : n ≠ m := Ne.symm hne
    rw [h, Dict.get?_setDefault, if_neg hnm]
  · have hnm : n ≠ m := Ne.symm hne
    rw [h, afterTurn, Dict.get?_modify, if_neg hnm]

theorem mem_keys_calls_step (h : n ∈ s.calls.keys) : n ∈ (S.step s e).2.calls.keys := by
  rcases S.step_cases s e with hstep | ⟨m, request, -, -, hstep⟩ |
    ⟨m, arrival, c, t, -, -, -, hstep⟩
  · rwa [hstep]
  · rw [hstep]
    exact Dict.mem_keys_setDefault.mpr (.inr h)
  · rwa [hstep, afterTurn, Dict.keys_modify]

theorem providerId_of_registerChecked {a : RegisterProvider} {canonicalRef : String}
    {status : HealthStatus} {record : ProviderRecord}
    (h : S.registerChecked a canonicalRef status = .ok record) :
    status.healthy = true ∧ (S.parseApiType a.apiType).isOk = true ∧
      record.providerId = a.providerId := by
  obtain ⟨_, hhealthy, h⟩ := bind_eq_ok.mp h
  obtain ⟨apiType, hparse, h⟩ := bind_eq_ok.mp h
  refine ⟨check_eq_ok.mp hhealthy, by rw [hparse]; rfl, ?_⟩
  rw [← Except.ok.inj h]
  rfl

/-- `register_provider` awaits the health check, or has raised. -/
theorem registerBegin_cases (S : ProviderManagementService) (a : RegisterProvider)
    (registry : ProviderRegistry) :
    (∃ canonicalRef, phaseOf (S.registerBegin a registry) = .checkingHealth canonicalRef) ∨
      ∃ error, phaseOf (S.registerBegin a registry) = .raised error := by
  cases h : S.registerBegin a registry with
  | error error => exact .inr ⟨error, rfl⟩
  | ok phase =>
    obtain ⟨_, -, h⟩ := bind_eq_ok.mp h
    obtain ⟨_, -, h⟩ := bind_eq_ok.mp h
    obtain ⟨_, -, h⟩ := bind_eq_ok.mp h
    obtain ⟨canonicalRef, -, h⟩ := bind_eq_ok.mp h
    obtain ⟨_, -, h⟩ := bind_eq_ok.mp h
    exact .inl ⟨canonicalRef, (Except.ok.inj h).symm⟩

/-- A turn of `register_provider`: it registers after a good health check, returns after its record
is saved, or raises. -/
inductive RegisterTurn (S : ProviderManagementService) (n : Nat) (a : RegisterProvider) :
    CallPhase → Arrival → CallPhase → Option RegistryWrite → Prop
  | registers {canonicalRef : String} {status : HealthStatus} {record : ProviderRecord}
    (hchecked : S.registerChecked a canonicalRef status = .ok record) :
    RegisterTurn S n a (.checkingHealth canonicalRef) (.health status) (.saving record)
      (some (.register record (.loaded n)))
  | returns (record : ProviderRecord) :
    RegisterTurn S n a (.saving record) .completed (.returned (some record)) none
  | fails (canonicalRef : String) (arrival : Arrival) (error : ProviderError) :
    RegisterTurn S n a (.checkingHealth canonicalRef) arrival (.raised error) none
  | strands (record : ProviderRecord) (message : String) (written : Bool) :
    RegisterTurn S n a (.saving record) (.raised message written) (.raised (.other message)) none

theorem registerTurn_cases {a : RegisterProvider} {t : Turn}
    (h : S.registerTurn n a phase arrival s = some t) :
    RegisterTurn S n a phase arrival t.phase t.write := by
  unfold registerTurn at h
  split at h
  · split at h
    · rename_i hchecked
      rw [← Option.some.inj h]
      exact .registers hchecked
    · rw [← Option.some.inj h]
      exact .fails _ _ _
  · rw [← Option.some.inj h]
    exact .fails _ _ _
  · rw [← Option.some.inj h]
    exact .returns _
  · rw [← Option.some.inj h]
    exact .strands _ _ _
  · exact nomatch h

/-- `unregister_provider` writes nothing else than that its provider is gone. -/
theorem write_unregisterTurn {a : UnregisterProvider} {t : Turn}
    (h : unregisterTurn a phase arrival s = some t) :
    t.write = none ∨ t.write = some (.unregister a.providerId) := by
  unfold unregisterTurn at h
  split at h <;> try (rw [← Option.some.inj h]; exact .inl rfl)
  · rw [← Option.some.inj h]
    simp only [unregisterFound]
    split
    · exact .inl rfl
    · split
      · split
        · exact .inr rfl
        · exact .inl rfl
      · exact .inl rfl
  · exact nomatch h

/-- A step that registers a provider goes on after a good health check. -/
theorem step_registers {record : ProviderRecord} {adapter : RuntimeAdapter}
    (hwrite : (S.step s e).1.write = some (.register record adapter)) :
    ∃ n a canonicalRef status, e = .resume n (.health status) ∧ adapter = .loaded n ∧
      s.calls.get? n = some ⟨.register a, .checkingHealth canonicalRef⟩ ∧
      S.registerChecked a canonicalRef status = .ok record := by
  rcases S.step_cases s e with h | ⟨n, request, -, -, h⟩ | ⟨n, arrival, c, t, rfl, hc, hturn, h⟩
  · rw [h] at hwrite
    exact nomatch hwrite
  · rw [h] at hwrite
    exact nomatch hwrite
  · have hwrite : t.write = some (.register record adapter) := by rwa [h] at hwrite
    obtain ⟨request, phase⟩ := c
    cases request with
    | unregister a =>
      rcases write_unregisterTurn hturn with hnone | hgone
      · exact nomatch hnone.symm.trans hwrite
      · exact nomatch hgone.symm.trans hwrite
    | register a =>
      have hcases := registerTurn_cases hturn
      rw [hwrite] at hcases
      generalize t.phase = next at hcases
      cases hcases with
      | registers hchecked => exact ⟨n, a, _, _, rfl, rfl, hc, hchecked⟩

/-- What a call of `register_provider` does in a step of its own, if anything. -/
theorem step_own {a : RegisterProvider} (hc : s.calls.get? n = some ⟨.register a, phase⟩)
    (hn : e.number = n) :
    S.step s e = ({}, s) ∨ ∃ arrival next, e = .resume n arrival ∧
      RegisterTurn S n a phase arrival next (S.step s e).1.write ∧
      (S.step s e).2.calls.get? n = some ⟨.register a, next⟩ := by
  rcases S.step_cases s e with h | ⟨m, request, rfl, hnew, -⟩ |
    ⟨m, arrival, c, t, rfl, hc', hturn, h⟩
  · exact .inl h
  · obtain rfl : m = n := hn
    exact absurd (Dict.mem_keys_iff.mpr ⟨_, hc⟩) hnew
  · obtain rfl : m = n := hn
    obtain rfl := Option.some.inj (hc'.symm.trans hc)
    refine .inr ⟨arrival, t.phase, rfl, ?_, ?_⟩
    · rw [h]
      exact registerTurn_cases hturn
    · rw [h, afterTurn, Dict.get?_modify, if_pos rfl, hc]
      rfl

/-- Where a call of `register_provider` is after a step: where it was, at its first pause, or after
a turn. -/
theorem register_call_step {a : RegisterProvider}
    (hc : (S.step s e).2.calls.get? n = some ⟨.register a, phase⟩) :
    s.calls.get? n = some ⟨.register a, phase⟩ ∨
      (e = .call n (.register a) ∧ n ∉ s.calls.keys ∧
        phase = S.beginPhase (.register a) s.registry) ∨
      ∃ arrival before, e.number = n ∧ s.calls.get? n = some ⟨.register a, before⟩ ∧
        RegisterTurn S n a before arrival phase (S.step s e).1.write := by
  by_cases hn : e.number = n
  · rcases S.step_cases s e with h | ⟨m, request, rfl, hnew, h⟩ |
      ⟨m, arrival, c, t, rfl, hc', hturn, h⟩
    · rw [h] at hc
      exact .inl hc
    · obtain rfl : m = n := hn
      rw [h, Dict.get?_setDefault, if_pos rfl, Dict.get?_eq_none_iff.mpr hnew, Option.getD_none,
        Option.some_inj, ProviderCall.mk.injEq] at hc
      obtain ⟨rfl, hphase⟩ := hc
      exact .inr (.inl ⟨rfl, hnew, hphase.symm⟩)
    · obtain rfl : m = n := hn
      rw [h, afterTurn, Dict.get?_modify, if_pos rfl, hc', Option.map_some, Option.some_inj,
        ProviderCall.mk.injEq] at hc
      obtain ⟨request, before⟩ := c
      obtain ⟨rfl, rfl⟩ := hc
      refine .inr (.inr ⟨arrival, before, rfl, hc', ?_⟩)
      rw [h]
      exact registerTurn_cases hturn
  · rw [get?_calls_step hn] at hc
    exact .inl hc

end ProviderManagementService

end Providers
end ExoBrain
