import ExoBrain.Lib.Dict
import ExoBrain.Lib.Run

/-!
# Tenant contexts and session runtimes

`TenantRuntimeFactory` (`tenant_runtime.py`) caches one context for each tenant and one runtime for
each session.  The runtimes of all tenants are in one dictionary, under the id of the session alone;
whose session it is stands in a dictionary of its own, `_session_tenant`.  Entries go away in four
ways: after a time without access, to make room for a new session, with the context of their tenant,
which may itself have to make room for another, and with their provider.

`time.monotonic()` is read up to twice by a call: where the idle sessions are evicted and where an
access is noted.  The two readings are inputs of the call, and nothing is assumed about them.
Whether the assembler can build an adapter, which depends on the registered agents and providers, is
an input of `create_session_runtime`, and so is the context, which the caller got from
`get_or_create` at some time before.
-/

set_option autoImplicit false

namespace ExoBrain
namespace Runtime

/-! ## Data -/

/-- `TenantRuntimeContext`, as far as the factory reads it. -/
structure TenantRuntimeContext where
  tenantId : String
deriving DecidableEq, Repr

/-- `RuntimeAdapter`, as far as the factory reads it: `_provider_id`, without the white space around
it. -/
structure RuntimeAdapter where
  providerId : String
deriving DecidableEq, Repr

/-- `OrchestratorHostAdapter`: what the assembler built the session with. -/
structure HostAdapter where
  tenantContext : TenantRuntimeContext
  agentId : String
  sessionId : String
deriving DecidableEq, Repr

/-- The settings the factory reads; zero and below means no limit. -/
structure RuntimeSettings where
  sessionRuntimeIdleTtlSeconds : Int := 0
  sessionRuntimeMaxCachedSessions : Int := 0
  tenantRuntimeMaxCachedContexts : Int := 0
deriving DecidableEq, Repr

/-- The readings of `time.monotonic()` in a call. -/
structure Readings where
  evict : Rat
  touch : Rat
deriving DecidableEq, Repr

/-- The caches of `TenantRuntimeFactory`. -/
structure TenantRuntimeFactory where
  contexts : Dict String TenantRuntimeContext
  tenantLastTouch : Dict String Rat
  sessionRuntimes : Dict String HostAdapter
  sessionAdapters : Dict String RuntimeAdapter
  sessionTenant : Dict String String
  sessionLastAccess : Dict String Rat

namespace TenantRuntimeFactory

/-- The empty caches. -/
def initial : TenantRuntimeFactory :=
  ⟨Dict.empty, Dict.empty, Dict.empty, Dict.empty, Dict.empty, Dict.empty⟩

/-! ## Eviction -/

/-- A session is taken out of all four caches. -/
def evict (s : TenantRuntimeFactory) (sid : String) : TenantRuntimeFactory :=
  { s with
    sessionRuntimes := s.sessionRuntimes.erase sid
    sessionAdapters := s.sessionAdapters.erase sid
    sessionTenant := s.sessionTenant.erase sid
    sessionLastAccess := s.sessionLastAccess.erase sid }

/-- `_evict_idle_sessions_only`. -/
def evictIdleSessionsOnly (settings : RuntimeSettings) (now : Rat) (s : TenantRuntimeFactory) :
    TenantRuntimeFactory :=
  let ttl := settings.sessionRuntimeIdleTtlSeconds
  if ttl ≤ 0 then s
  else
    let stale := s.sessionLastAccess.filter fun _ ts ↦ (ttl : Rat) < now - ts
    stale.keys.foldl evict s

/-- The loop of `_evict_lru_until_under_cap`. -/
def evictUntilUnder (maxSess : Int) : List String → TenantRuntimeFactory → TenantRuntimeFactory
  | [], s => s
  | sid :: sids, s =>
    if (s.sessionRuntimes.keys.length : Int) < maxSess then s
    else evictUntilUnder maxSess sids (if sid ∈ s.sessionRuntimes.keys then s.evict sid else s)

/-- `_evict_lru_until_under_cap`. -/
def evictLruUntilUnderCap (settings : RuntimeSettings) (s : TenantRuntimeFactory) :
    TenantRuntimeFactory :=
  let maxSess := settings.sessionRuntimeMaxCachedSessions
  if maxSess ≤ 0 then s
  else
    let sorted := s.sessionLastAccess.entries.mergeSort fun a b ↦ a.2 ≤ b.2
    evictUntilUnder maxSess (sorted.map Prod.fst) s

/-- `_touch_session`. -/
def touchSession (sid : String) (now : Rat) (s : TenantRuntimeFactory) : TenantRuntimeFactory :=
  { s with sessionLastAccess := s.sessionLastAccess.set sid now }

/-- `destroy`.  Each session of the tenant has a runtime (`FilesOwners`), so that the `del` of it
does not fail. -/
def destroy (tenantId : String) (s : TenantRuntimeFactory) : TenantRuntimeFactory :=
  let sessionsToRemove := (s.sessionTenant.filter fun _ tid ↦ tid = tenantId).keys
  let s := sessionsToRemove.foldl evict s
  { s with
    contexts := s.contexts.erase tenantId
    tenantLastTouch := s.tenantLastTouch.erase tenantId }

/-- `min(self._contexts.keys(), key=..)`: the first of the tenants that were touched least
recently. -/
def leastTouched (s : TenantRuntimeFactory) : List String → Option String
  | [] => none
  | tid :: tids =>
    match leastTouched s tids with
    | none => some tid
    | some other =>
      if (s.tenantLastTouch.get? other).getD 0 < (s.tenantLastTouch.get? tid).getD 0 then some other
      else some tid

/-- The loop of `_evict_tenant_contexts_over_capacity`.  Each turn takes one context away, so there
are no more turns than contexts. -/
def destroyUntilUnder (cap : Int) : (turns : Nat) → TenantRuntimeFactory → TenantRuntimeFactory
  | 0, s => s
  | turns + 1, s =>
    if cap ≤ s.contexts.keys.length then
      match s.leastTouched s.contexts.keys with
      | none => s
      | some victim => destroyUntilUnder cap turns (s.destroy victim)
    else s

/-- `_evict_tenant_contexts_over_capacity`. -/
def evictTenantContextsOverCapacity (settings : RuntimeSettings) (incomingTenantId : String)
    (s : TenantRuntimeFactory) : TenantRuntimeFactory :=
  let cap := settings.tenantRuntimeMaxCachedContexts
  if cap ≤ 0 then s
  else if incomingTenantId ∈ s.contexts.keys then s
  else destroyUntilUnder cap s.contexts.keys.length s

/-! ## Contexts and sessions -/

/-- `get_or_create`. -/
def getOrCreate (settings : RuntimeSettings) (clock : Readings) (tenantId : String)
    (s : TenantRuntimeFactory) : TenantRuntimeContext × TenantRuntimeFactory :=
  let s := s.evictIdleSessionsOnly settings clock.evict
  let s := s.evictTenantContextsOverCapacity settings tenantId
  let context := (s.contexts.get? tenantId).getD ⟨tenantId⟩
  (context,
    { s with
      contexts := s.contexts.set tenantId context
      tenantLastTouch := s.tenantLastTouch.set tenantId clock.touch })

/-- The end of `create_session_runtime`: the new runtime is filed. -/
def file (host : HostAdapter) (adapter : RuntimeAdapter) (now : Rat) (s : TenantRuntimeFactory) :
    TenantRuntimeFactory :=
  touchSession host.sessionId now
    { s with
      sessionRuntimes := s.sessionRuntimes.set host.sessionId host
      sessionAdapters := s.sessionAdapters.set host.sessionId adapter
      sessionTenant := s.sessionTenant.set host.sessionId host.tenantContext.tenantId }

/-- `create_session_runtime`.  There is no adapter if the assembler raises, as it does for an agent
or a provider that is not registered. -/
def createSessionRuntime (settings : RuntimeSettings) (clock : Readings)
    (tenantContext : TenantRuntimeContext) (agentId sessionId : String)
    (adapter : Option RuntimeAdapter) (s : TenantRuntimeFactory) :
    Option HostAdapter × TenantRuntimeFactory :=
  let s := s.evictIdleSessionsOnly settings clock.evict
  let s := s.evictLruUntilUnderCap settings
  match adapter with
  | none => (none, s)
  | some adapter =>
    let host : HostAdapter := ⟨tenantContext, agentId, sessionId⟩
    (some host, s.file host adapter clock.touch)

/-- `get_session_adapter`, where `none` is the `KeyError`. -/
def getSessionAdapter (settings : RuntimeSettings) (clock : Readings) (sessionId : String)
    (s : TenantRuntimeFactory) : Option RuntimeAdapter × TenantRuntimeFactory :=
  let s := s.evictIdleSessionsOnly settings clock.evict
  match s.sessionAdapters.get? sessionId with
  | none => (none, s)
  | some adapter => (some adapter, s.touchSession sessionId clock.touch)

/-- `get_session_runtime`, where `none` is the `KeyError`. -/
def getSessionRuntime (settings : RuntimeSettings) (clock : Readings) (sessionId : String)
    (s : TenantRuntimeFactory) : Option HostAdapter × TenantRuntimeFactory :=
  let s := s.evictIdleSessionsOnly settings clock.evict
  match s.sessionRuntimes.get? sessionId with
  | none => (none, s)
  | some host => (some host, s.touchSession sessionId clock.touch)

/-- `evict_sessions_for_provider`. -/
def evictSessionsForProvider (providerId : String) (s : TenantRuntimeFactory) :
    Nat × TenantRuntimeFactory :=
  let sessionsToRemove := (s.sessionAdapters.filter fun _ adapter ↦
    adapter.providerId = providerId).keys
  (sessionsToRemove.length, sessionsToRemove.foldl evict s)

end TenantRuntimeFactory

/-! ## The factory as a machine -/

/-- A call of the factory. -/
inductive FactoryCall
  | getOrCreate (clock : Readings) (tenantId : String)
  | createSessionRuntime (clock : Readings) (tenantContext : TenantRuntimeContext)
      (agentId sessionId : String) (adapter : Option RuntimeAdapter)
  | getSessionAdapter (clock : Readings) (sessionId : String)
  | getSessionRuntime (clock : Readings) (sessionId : String)
  | destroy (tenantId : String)
  | evictSessionsForProvider (providerId : String)
deriving DecidableEq, Repr

/-- What it answers. -/
inductive FactoryAnswer
  | context (answer : TenantRuntimeContext)
  | host (answer : Option HostAdapter)
  | adapter (answer : Option RuntimeAdapter)
  | done
  | removed (count : Nat)
deriving DecidableEq, Repr

namespace TenantRuntimeFactory

/-- One call. -/
def step (settings : RuntimeSettings) (s : TenantRuntimeFactory) :
    FactoryCall → FactoryAnswer × TenantRuntimeFactory
  | .getOrCreate clock tenantId =>
    let r := s.getOrCreate settings clock tenantId
    (.context r.1, r.2)
  | .createSessionRuntime clock tenantContext agentId sessionId adapter =>
    let r := s.createSessionRuntime settings clock tenantContext agentId sessionId adapter
    (.host r.1, r.2)
  | .getSessionAdapter clock sessionId =>
    let r := s.getSessionAdapter settings clock sessionId
    (.adapter r.1, r.2)
  | .getSessionRuntime clock sessionId =>
    let r := s.getSessionRuntime settings clock sessionId
    (.host r.1, r.2)
  | .destroy tenantId => (.done, s.destroy tenantId)
  | .evictSessionsForProvider providerId =>
    let r := s.evictSessionsForProvider providerId
    (.removed r.1, r.2)

end TenantRuntimeFactory
end Runtime
end ExoBrain
