import ExoBrain.Agents.Registry
import ExoBrain.Providers.Management
import ExoBrain.Runtime.SessionCache

/-!
# Sessions that cannot be created

`create_session_runtime` evicts sessions, lets the assembler build an adapter, and files the new
runtime (`tenant_runtime.py`).  The assembler raises for an agent or a provider that is not registered,
where no adapter can be constructed, and, when no event loop is running, for what `start_session`
raises.  By then room has been made for the session.

* `SessionRuntimeAssembler.create` is the assembler.  The import of a class, its constructor and
  `start_session` are parameters.
* `createSessionRuntimeOrRaise` is the call as it is written, and `createSessionRuntime_eq` says that
  it is the one of `TenantRuntime`, where whether the assembler raises is an input.
* `SparesSessions` says of a call that no session goes that has been accessed within its time, and
  `failed_creation_spares_iff` when it does.
-/

set_option autoImplicit false

namespace ExoBrain
namespace Runtime

open Providers (ProviderRegistry ProviderRecord canonicalizeAdapterClassRef)

/-! ## The assembler -/

/-- An exception, by the clauses that catch it. -/
inductive AssemblyRaised
  | keyError (text : String)
  | typeError (text : String)
  | importError (text : String)
  | valueError (text : String)
  /-- An exception of another class. -/
  | other (text : String)
deriving DecidableEq, Repr

/-- How a class of adapters is called. -/
inductive ConstructorCall
  /-- With the registry and the executor of the tools. -/
  | withTools (providerId : String)
  | withProvider (providerId : String)
  | bare
deriving DecidableEq, Repr

/-- The arguments of `start_session`. -/
structure SessionStart where
  sessionId : String
  instructions : String
  agentId : String
  model : Value
  tenantId : String

/-- The classes of adapters, and what becomes of calling them. -/
structure AdapterClasses (κ : Type) where
  /-- `_load_adapter_class`. -/
  loadAdapterClass : (ref : String) → Except AssemblyRaised κ
  /-- `type(registered_adapter)`. -/
  typeOf : Providers.RuntimeAdapter → κ
  construct : κ → ConstructorCall → Except AssemblyRaised RuntimeAdapter
  /-- `asyncio.run(adapter.start_session(..))`. -/
  startSession : RuntimeAdapter → SessionStart → Except AssemblyRaised Unit
  /-- `repr` of a text. -/
  repr : String → String

variable {κ : Type}

namespace AdapterClasses

variable (classes : AdapterClasses κ)

/-- `load_adapter`. -/
def loadAdapter (adapterClassRef : String) (call : ConstructorCall) :
    Except AssemblyRaised RuntimeAdapter := do
  let canonicalRef ← (canonicalizeAdapterClassRef adapterClassRef).mapError .valueError
  let cls ← (classes.loadAdapterClass canonicalRef).mapError fun
    | .importError _ | .valueError _ =>
      .importError ("Could not load adapter class for " ++ classes.repr adapterClassRef ++
        " (canonical=" ++ classes.repr canonicalRef ++ "). Install adapter packages: " ++
        "pip install -r requirements.txt " ++
        "or bash scripts/dev/install_adapter_dependencies.sh")
    | raised => raised
  classes.construct cls call

/-- The end of `resolve`: the class of the registered adapter is called with fewer and fewer
arguments, as long as it does not take them. -/
def constructLike (cls : κ) (providerId : String) : Except AssemblyRaised RuntimeAdapter :=
  match classes.construct cls (.withTools providerId) with
  | .error (.typeError _) =>
    match classes.construct cls (.withProvider providerId) with
    | .error (.typeError _) => classes.construct cls .bare
    | constructed => constructed
  | constructed => constructed

end AdapterClasses

/-- `ProviderRegistry.get`. -/
def getProvider (providerId : String) (registry : ProviderRegistry) :
    Except AssemblyRaised ProviderRecord :=
  match registry.providers.get? providerId with
  | none => .error (.keyError ("Provider '" ++ providerId ++ "' is not registered"))
  | some provider => .ok provider

/-- `ProviderRegistry.get_adapter`. -/
def getAdapter (providerId : String) (registry : ProviderRegistry) :
    Except AssemblyRaised Providers.RuntimeAdapter :=
  match registry.adapters.get? providerId with
  | none => .error (.keyError ("No adapter bound for provider '" ++ providerId ++ "'"))
  | some adapter => .ok adapter

/-- `AgentRegistry.get`. -/
def getAgent (agentId : String) (registry : Agents.AgentRegistry) :
    Except AssemblyRaised Agents.AgentSpec :=
  match registry.agents.get? agentId with
  | none => .error (.keyError ("Unknown agent_id '" ++ agentId ++ "'"))
  | some spec => .ok spec

/-- `SessionRuntimeAssembler`, with its resolver. -/
structure SessionRuntimeAssembler (κ : Type) where
  providerRegistry : ProviderRegistry
  classes : AdapterClasses κ
  /-- `asyncio.get_running_loop()` does not raise. -/
  loopRunning : Bool

namespace SessionRuntimeAssembler

variable (assembler : SessionRuntimeAssembler κ)

/-- `SessionAdapterResolver.resolve`. -/
def resolve (providerId : String) : Except AssemblyRaised RuntimeAdapter := do
  let provider ← getProvider providerId assembler.providerRegistry
  let adapterClassRef := Text.strip provider.adapterClass
  match assembler.classes.loadAdapter adapterClassRef (.withTools providerId) with
  | .error (.typeError _) =>
    assembler.classes.loadAdapter adapterClassRef (.withProvider providerId)
  | .error (.importError _) | .error (.valueError _) =>
    let registeredAdapter ← getAdapter providerId assembler.providerRegistry
    assembler.classes.constructLike (assembler.classes.typeOf registeredAdapter) providerId
  | loaded => loaded

/-- `_schedule_start_session`.  What a task of the event loop raises is logged. -/
def scheduleStartSession (adapter : RuntimeAdapter) (start : SessionStart) :
    Except AssemblyRaised Unit :=
  if assembler.loopRunning then .ok () else assembler.classes.startSession adapter start

/-- `create`, where `agentRegistry` is the one of the context. -/
def create (agentRegistry : Agents.AgentRegistry) (tenantContext : TenantRuntimeContext)
    (agentId providerId sessionId : String) :
    Except AssemblyRaised (HostAdapter × RuntimeAdapter) := do
  let spec ← getAgent agentId agentRegistry
  let adapter ← assembler.resolve providerId
  assembler.scheduleStartSession adapter
    { sessionId := sessionId
      instructions := spec.instructions
      agentId := spec.agentId
      model := (Value.lookup "model" spec.metadata).getD (.str "gpt-4o-mini")
      tenantId := tenantContext.tenantId }
  return (⟨tenantContext, agentId, sessionId⟩, adapter)

end SessionRuntimeAssembler

namespace TenantRuntimeFactory

/-! ## The call -/

/-- `create_session_runtime`, as it is written. -/
def createSessionRuntimeOrRaise (settings : RuntimeSettings) (clock : Readings)
    (assembler : SessionRuntimeAssembler κ) (agentRegistry : Agents.AgentRegistry)
    (tenantContext : TenantRuntimeContext) (agentId providerId sessionId : String)
    (s : TenantRuntimeFactory) : Except AssemblyRaised HostAdapter × TenantRuntimeFactory :=
  let s := s.evictIdleSessionsOnly settings clock.evict
  let s := s.evictLruUntilUnderCap settings
  match assembler.create agentRegistry tenantContext agentId providerId sessionId with
  | .error raised => (.error raised, s)
  | .ok (host, adapter) => (.ok host, s.file host adapter clock.touch)

/-- The session has not been accessed for longer than its time. -/
def IdleAt (settings : RuntimeSettings) (now : Rat) (s : TenantRuntimeFactory) (sid : String) : Prop :=
  0 < settings.sessionRuntimeIdleTtlSeconds ∧
    ∃ ts ∈ s.sessionLastAccess.get? sid, (settings.sessionRuntimeIdleTtlSeconds : Rat) < now - ts

instance (settings : RuntimeSettings) (now : Rat) (s : TenantRuntimeFactory) (sid : String) :
    Decidable (s.IdleAt settings now sid) :=
  inferInstanceAs (Decidable (_ ∧ _))

/-- The sessions that are cached and have been accessed within their time. -/
def freshSessions (settings : RuntimeSettings) (now : Rat) (s : TenantRuntimeFactory) : List String :=
  s.sessionRuntimes.keys.filter fun sid ↦ ¬s.IdleAt settings now sid

/-- There is room for another session, next to those. -/
def RoomForAnother (settings : RuntimeSettings) (now : Rat) (s : TenantRuntimeFactory) : Prop :=
  settings.sessionRuntimeMaxCachedSessions ≤ 0 ∨
    ((s.freshSessions settings now).length : Int) < settings.sessionRuntimeMaxCachedSessions

instance (settings : RuntimeSettings) (now : Rat) (s : TenantRuntimeFactory) :
    Decidable (s.RoomForAnother settings now) :=
  inferInstanceAs (Decidable (_ ∨ _))

/-- What was cached before, and has been accessed within its time, is cached after with the same
runtime. -/
def SparesSessions (settings : RuntimeSettings) (now : Rat) (s s' : TenantRuntimeFactory) : Prop :=
  ∀ sid host, s.sessionRuntimes.get? sid = some host → ¬s.IdleAt settings now sid →
    s'.sessionRuntimes.get? sid = some host

variable {settings : RuntimeSettings} {s s' : TenantRuntimeFactory}

theorem snd_createSessionRuntimeOrRaise {clock : Readings} {assembler : SessionRuntimeAssembler κ}
    {agentRegistry : Agents.AgentRegistry} {tenantContext : TenantRuntimeContext}
    {agentId providerId sessionId : String} {raised : AssemblyRaised}
    (h : assembler.create agentRegistry tenantContext agentId providerId sessionId = .error raised) :
    s.createSessionRuntimeOrRaise settings clock assembler agentRegistry tenantContext agentId
        providerId sessionId =
      (.error raised,
        (s.evictIdleSessionsOnly settings clock.evict).evictLruUntilUnderCap settings) := by
  rw [createSessionRuntimeOrRaise, h]

/-- The assembler gives the runtime its own arguments. -/
theorem fst_of_create {assembler : SessionRuntimeAssembler κ} {agentRegistry : Agents.AgentRegistry}
    {tenantContext : TenantRuntimeContext} {agentId providerId sessionId : String}
    {host : HostAdapter} {adapter : RuntimeAdapter}
    (h : assembler.create agentRegistry tenantContext agentId providerId sessionId =
      .ok (host, adapter)) : host = ⟨tenantContext, agentId, sessionId⟩ := by
  simp only [SessionRuntimeAssembler.create, Checks.bind_eq_ok] at h
  obtain ⟨spec, -, built, -, started, -, heq⟩ := h
  exact (Prod.mk.inj (Except.ok.inj heq)).1.symm

/-- **The call is the one whose input is whether the assembler raises.** -/
theorem createSessionRuntime_eq (settings : RuntimeSettings) (clock : Readings)
    (assembler : SessionRuntimeAssembler κ) (agentRegistry : Agents.AgentRegistry)
    (tenantContext : TenantRuntimeContext) (agentId providerId sessionId : String)
    (s : TenantRuntimeFactory) :
    let r := s.createSessionRuntimeOrRaise settings clock assembler agentRegistry tenantContext agentId
      providerId sessionId
    s.createSessionRuntime settings clock tenantContext agentId sessionId
        ((assembler.create agentRegistry tenantContext agentId providerId sessionId).toOption.map
          Prod.snd) = (r.1.toOption, r.2) := by
  intro r
  rw [show r = _ from createSessionRuntimeOrRaise.eq_def ..]
  cases hcreate : assembler.create agentRegistry tenantContext agentId providerId sessionId with
  | error raised => rfl
  | ok built =>
    obtain ⟨host, adapter⟩ := built
    obtain rfl := fst_of_create hcreate
    rfl

/-! ## What is evicted -/

theorem mem_keys_evictIdle {now : Rat} {sid : String} :
    sid ∈ (s.evictIdleSessionsOnly settings now).sessionRuntimes.keys ↔
      sid ∈ s.sessionRuntimes.keys ∧ ¬s.IdleAt settings now sid := by
  rw [evictIdleSessionsOnly]
  split
  · rename_i hoff
    exact (and_iff_left fun hidle ↦ absurd hidle.1 (not_lt.mpr hoff)).symm
  · rename_i hon
    rw [mem_foldl_evict]
    refine and_congr_right' (not_congr ?_)
    rw [Dict.mem_keys_iff, IdleAt, and_iff_right (not_le.mp hon)]
    simp only [Dict.get?_filter, Option.filter_eq_some_iff, decide_eq_true_eq, Option.mem_def]

/-- A session that is not idle is cached as before. -/
theorem get?_evictIdle {now : Rat} {sid : String} (h : ¬s.IdleAt settings now sid) :
    (s.evictIdleSessionsOnly settings now).sessionRuntimes.get? sid = s.sessionRuntimes.get? sid := by
  rw [evictIdleSessionsOnly]
  split
  · rfl
  · rename_i hon
    refine (get?_foldl_evict _ s fun hstale ↦ h ⟨not_le.mp hon, ?_⟩).1
    obtain ⟨ts, hts⟩ := Dict.mem_keys_iff.mp hstale
    rw [Dict.get?_filter, Option.filter_eq_some_iff, decide_eq_true_eq] at hts
    exact ⟨ts, hts⟩

theorem length_freshSessions (settings : RuntimeSettings) (now : Rat) (s : TenantRuntimeFactory) :
    (s.freshSessions settings now).length =
      (s.evictIdleSessionsOnly settings now).sessionRuntimes.keys.length := by
  refine List.Perm.length_eq ((List.perm_ext_iff_of_nodup ?_ ?_).mpr fun sid ↦ ?_)
  · exact s.sessionRuntimes.keys_nodup.filter _
  · exact (s.evictIdleSessionsOnly settings now).sessionRuntimes.keys_nodup
  · rw [mem_keys_evictIdle, freshSessions, List.mem_filter, decide_eq_true_eq]

/-- Where there is room, none is made. -/
theorem evictLru_eq_self (h : settings.sessionRuntimeMaxCachedSessions ≤ 0 ∨
    (s.sessionRuntimes.keys.length : Int) < settings.sessionRuntimeMaxCachedSessions) :
    s.evictLruUntilUnderCap settings = s := by
  rw [evictLruUntilUnderCap]
  split
  · rfl
  · rename_i hon
    have hroom := h.resolve_left hon
    dsimp only
    cases (s.sessionLastAccess.entries.mergeSort fun a b ↦ a.2 ≤ b.2).map Prod.fst with
    | nil => rfl
    | cons sid sids => rw [evictUntilUnder, if_pos hroom]

/-- Where there is none, a session goes. -/
theorem SameKeys.exists_evicted (h : s.SameKeys)
    (hmax : 0 < settings.sessionRuntimeMaxCachedSessions)
    (hfull : settings.sessionRuntimeMaxCachedSessions ≤ s.sessionRuntimes.keys.length) :
    ∃ sid ∈ s.sessionRuntimes.keys, sid ∉ (s.evictLruUntilUnderCap settings).sessionRuntimes.keys := by
  obtain ⟨-, -, -, -, hroom⟩ := h.evictLru hmax
  by_contra hnone
  push Not at hnone
  have hle := (s.sessionRuntimes.keys_nodup.subperm hnone).length_le
  omega

/-! ## Calls that raise -/

theorem SameKeys.spares_iff (h : s.SameKeys) (now : Rat) :
    SparesSessions settings now s
        ((s.evictIdleSessionsOnly settings now).evictLruUntilUnderCap settings) ↔
      s.RoomForAnother settings now := by
  rw [RoomForAnother, length_freshSessions]
  constructor
  · intro hspares
    by_contra hroom
    rw [not_or, not_le, not_lt] at hroom
    obtain ⟨sid, hthere, hgone⟩ := SameKeys.exists_evicted
      (sameKeys_evictionKeeps.evictIdle settings h now) hroom.1 hroom.2
    obtain ⟨hcached, hfresh⟩ := mem_keys_evictIdle.mp hthere
    obtain ⟨host, hhost⟩ := Dict.mem_keys_iff.mp hcached
    exact hgone (Dict.mem_keys_iff.mpr ⟨host, hspares sid host hhost hfresh⟩)
  · intro hroom sid host hhost hfresh
    rw [evictLru_eq_self hroom, get?_evictIdle hfresh]
    exact hhost

/-- **When a failed creation costs nobody a session.**  In every state that is reached, and whatever
the assembler raises: every session that was cached and has been accessed within its time is cached
afterwards with the same runtime, exactly if there is no limit, or the sessions that have been
accessed within their time are fewer than it allows. -/
theorem failed_creation_spares_iff (settings : RuntimeSettings) (calls : List FactoryCall)
    (clock : Readings) (assembler : SessionRuntimeAssembler κ) (agentRegistry : Agents.AgentRegistry)
    (tenantContext : TenantRuntimeContext) (agentId providerId sessionId : String)
    (raised : AssemblyRaised)
    (h : assembler.create agentRegistry tenantContext agentId providerId sessionId = .error raised) :
    let s := Run.exec (stepOrRaise settings) initial calls
    SparesSessions settings clock.evict s
        (s.createSessionRuntimeOrRaise settings clock assembler agentRegistry tenantContext agentId
          providerId sessionId).2 ↔
      s.RoomForAnother settings clock.evict := by
  intro s
  have hsame : s.SameKeys := by
    obtain ⟨heq, hsame⟩ := exec_stepOrRaise settings sameKeys_initial calls
    rw [show s = _ from heq]
    exact hsame
  rw [snd_createSessionRuntimeOrRaise h]
  exact hsame.spares_iff clock.evict

/-- No provider is registered. -/
def noProviders : SessionRuntimeAssembler Unit where
  providerRegistry := {}
  classes :=
    { loadAdapterClass := fun _ ↦ .ok ()
      typeOf := fun _ ↦ ()
      construct := fun _ _ ↦ .ok ⟨"provider"⟩
      startSession := fun _ _ ↦ .ok ()
      repr := id }
  loopRunning := true

/-- A session of one tenant. -/
def sessionOfAcme : List FactoryCall :=
  [.createSessionRuntime ⟨0, 0⟩ ⟨"acme"⟩ "agent" "sess-acme" (some ⟨"provider"⟩)]

/-- With room for another session, an agent that is not registered costs nothing. -/
theorem failed_creation_spares_iff_room :
    let settings : RuntimeSettings := { sessionRuntimeMaxCachedSessions := 2 }
    let s := Run.exec (stepOrRaise settings) initial sessionOfAcme
    SparesSessions settings 1 s (s.createSessionRuntimeOrRaise settings ⟨1, 1⟩ noProviders .initial
      ⟨"globex"⟩ "nobody" "provider" "sess-globex").2 := by
  intro settings s
  have hroom : s.RoomForAnother settings 1 := by decide +kernel
  exact (failed_creation_spares_iff settings sessionOfAcme ⟨1, 1⟩ noProviders .initial ⟨"globex"⟩
    "nobody" "provider" "sess-globex" (.keyError "Unknown agent_id 'nobody'") rfl).mpr hroom

/-- Without, it costs another tenant its session. -/
theorem failed_creation_evicts :
    let settings : RuntimeSettings := { sessionRuntimeMaxCachedSessions := 1 }
    let s := Run.exec (stepOrRaise settings) initial sessionOfAcme
    let r := s.createSessionRuntimeOrRaise settings ⟨1, 1⟩ noProviders .initial ⟨"globex"⟩ "nobody"
      "provider" "sess-globex"
    r.1 = .error (.keyError "Unknown agent_id 'nobody'") ∧
      s.sessionRuntimes.get? "sess-acme" = some ⟨⟨"acme"⟩, "agent", "sess-acme"⟩ ∧
      r.2.sessionRuntimes.get? "sess-acme" = none ∧ ¬SparesSessions settings 1 s r.2 := by
  intro settings s r
  have hruns : s.sessionRuntimes.get? "sess-acme" = some ⟨⟨"acme"⟩, "agent", "sess-acme"⟩ ∧
      r.2.sessionRuntimes.get? "sess-acme" = none := by
    decide +kernel
  obtain ⟨hcached, hgone⟩ := hruns
  refine ⟨rfl, hcached, hgone, fun hspares ↦ ?_⟩
  have hkept := hspares "sess-acme" _ hcached (by decide)
  rw [hgone] at hkept
  cases hkept

end TenantRuntimeFactory
end Runtime
end ExoBrain
