import ExoBrain.Agents.Handoffs
import ExoBrain.Api.TenantPolicies
import ExoBrain.Persistence.AgentStore

/-!
# The endpoints for agents, and the start of the application

The agents of a tenant are in the registry of its context, and registering or unregistering one through
the API (`routers/agents.py`) is written through to the store.  Routes and fallback policies are in the
registry only.  A context that is evicted is forgotten, and built anew without agents when the tenant
comes back; only a start of the application reads the store (`hydrate_tenant_registries`).

`AgentPlatform.step` is a request, an eviction or a restart, and `restart_eq` says what is there after a
restart.  Contexts that are evicted while the application starts are evicted after it.  The gate of the
entitlements before the routes is left out, and the store is not the one of tests, which is none.
-/

set_option autoImplicit false

namespace ExoBrain
namespace Api

open Agents Persistence

/-- `AgentRegisterRequest`. -/
structure AgentRegisterRequest where
  agentId : String
  role : String
  capabilityTags : List String := []
  instructions : String := ""
  metadata : List (String × Value) := []

/-- `AgentCapabilityTag(value)`, if there is one. -/
def capabilityTag? (value : String) : Option AgentCapabilityTag :=
  AgentCapabilityTag.all.find? fun tag ↦ tag.value = value

/-- `_parse_capability_tags`. -/
def parseCapabilityTags (tagValues : List String) : Finset AgentCapabilityTag :=
  (tagValues.filterMap capabilityTag?).toFinset

/-- What the application depends on. -/
structure AgentPlatform where
  /-- `repr(float(text))`. -/
  showFloat : (text : String) → String
  /-- The order in which a set is gone through. -/
  tagsOf : Finset AgentCapabilityTag → List AgentCapabilityTag
  mem_tagsOf : ∀ tags tag, tag ∈ tagsOf tags ↔ tag ∈ tags

/-- The contexts that are cached, as far as agents go, and the store. -/
structure AgentSystem where
  contexts : Dict String AgentRegistry
  table : AgentTable

/-- An application on an empty database. -/
def AgentSystem.initial : AgentSystem := ⟨Dict.empty, Dict.empty⟩

/-- The registry of a context, which is built when there is none. -/
def AgentSystem.registry (tenantId : String) (s : AgentSystem) : AgentRegistry :=
  (s.contexts.get? tenantId).getD .initial

/-- The registry of a context has changed. -/
def AgentSystem.put (tenantId : String) (r : AgentRegistry) (s : AgentSystem) : AgentSystem :=
  { s with contexts := s.contexts.set tenantId r }

/-- The body of a request, as a spec. -/
def AgentRegisterRequest.spec (body : AgentRegisterRequest) : AgentSpec where
  agentId := body.agentId
  role := body.role
  capabilityTags := parseCapabilityTags body.capabilityTags
  instructions := body.instructions
  metadata := body.metadata

/-- `_agent_record_to_spec`. -/
def agentRecordToSpec (record : PersistedAgentRecord) : AgentSpec where
  agentId := record.agentId
  role := record.role
  capabilityTags := parseCapabilityTags record.capabilityTags
  instructions := record.instructions
  metadata := record.metadata

/-- What is asked for, and what else may happen. -/
inductive AgentCall
  | registerAgent (tenantId : String) (body : AgentRegisterRequest)
  | listAgents (tenantId : String)
  | getAgent (tenantId agentId : String)
  | unregisterAgent (tenantId agentId : String)
  | addHandoffRoute (tenantId : String) (route : HandoffRoute)
  | listHandoffRoutes (tenantId : String)
  | setFallbackPolicy (tenantId : String) (policy : HandoffFallbackPolicy)
  | listFallbackPolicies (tenantId : String)
  /-- The context of the tenant is evicted from the cache. -/
  | evict (tenantId : String)
  | restart

/-- What is answered.  The tags of an agent are listed in some order. -/
inductive AgentAnswer
  | agent (spec : AgentSpec)
  | agents (specs : List AgentSpec)
  | unregistered
  | route (route : HandoffRoute)
  | routes (routes : List HandoffRoute)
  | policy (policy : HandoffFallbackPolicy)
  | policies (policies : List HandoffFallbackPolicy)
  | refused (error : HttpException)
  /-- Nobody has asked. -/
  | nothing

/-- What is answered to an exception of the registry, if it is a `ValueError`. -/
def ofRegistryError (statusCode : Nat) : RegistryError → HttpException
  | .valueError message => ⟨statusCode, message⟩
  | .keyError _ => ⟨500, "Internal Server Error"⟩

namespace AgentPlatform

variable (P : AgentPlatform)

/-- The record of an agent. -/
def record (tenantId : String) (spec : AgentSpec) : PersistedAgentRecord where
  agentId := spec.agentId
  role := spec.role
  tenantId := tenantId
  capabilityTags := (P.tagsOf spec.capabilityTags).map AgentCapabilityTag.value
  instructions := spec.instructions
  metadata := spec.metadata

/-- `register_agent`.  What the store raises is raised when the agent is registered already. -/
def registerAgent (tenantId : String) (body : AgentRegisterRequest) (s : AgentSystem) :
    AgentAnswer × AgentSystem :=
  match (s.registry tenantId).register body.spec with
  | (some error, r) => (.refused (ofRegistryError 409 error), s.put tenantId r)
  | (none, r) =>
    match SQLiteAgentStore.saveAgent P.showFloat tenantId (P.record tenantId body.spec) s.table with
    | some table => (.agent body.spec, { s.put tenantId r with table := table })
    | none => (.refused ⟨500, "Internal Server Error"⟩, s.put tenantId r)

/-- `unregister_agent`. -/
def unregisterAgent (tenantId agentId : String) (s : AgentSystem) : AgentAnswer × AgentSystem :=
  match (s.registry tenantId).unregister agentId with
  | (some _, r) => (.refused ⟨404, "Agent '" ++ agentId ++ "' not found"⟩, s.put tenantId r)
  | (none, r) =>
    (.unregistered,
      { s.put tenantId r with table := SQLiteAgentStore.deleteAgent tenantId agentId s.table })

/-- `get_agent`. -/
def getAgent (agentId : String) (r : AgentRegistry) : AgentAnswer :=
  match r.get agentId with
  | .ok spec => .agent spec
  | .error _ => .refused ⟨404, "Agent '" ++ agentId ++ "' not found"⟩

/-- `add_handoff_route`. -/
def addHandoffRoute (route : HandoffRoute) (r : AgentRegistry) : AgentAnswer × AgentRegistry :=
  match r.addHandoffRoute route with
  | (some error, r) => (.refused (ofRegistryError 422 error), r)
  | (none, r) => (.route route, r)

/-- `set_fallback_policy`. -/
def setFallbackPolicy (policy : HandoffFallbackPolicy) (r : AgentRegistry) :
    AgentAnswer × AgentRegistry :=
  match r.setHandoffFallbackPolicy policy with
  | (some error, r) => (.refused (ofRegistryError 422 error), r)
  | (none, r) => (.policy policy, r)

/-! ## The start of the application -/

/-- One record of a tenant. -/
def hydrateAgent (r : AgentRegistry) (record : PersistedAgentRecord) : AgentRegistry :=
  match r.get record.agentId with
  | .ok _ => r
  | .error _ => (r.register (agentRecordToSpec record)).2

/-- The agents of one tenant. -/
def hydrateTenant (table : AgentTable) (contexts : Dict String AgentRegistry) (tenantId : String) :
    Option (Dict String AgentRegistry) := do
  let records ← SQLiteAgentStore.listAgents P.showFloat tenantId table
  return contexts.set tenantId
    (records.foldl hydrateAgent ((contexts.get? tenantId).getD .initial))

/-- `hydrate_tenant_registries`, as far as agents go. -/
def hydrateTenantRegistries (table : AgentTable) : Option (Dict String AgentRegistry) :=
  (SQLiteAgentStore.listTenantIds table).foldlM (P.hydrateTenant table) Dict.empty

/-- A restart.  If a row cannot be read, the application does not start. -/
def restart (s : AgentSystem) : AgentAnswer × AgentSystem :=
  match P.hydrateTenantRegistries s.table with
  | some contexts => (.nothing, ⟨contexts, s.table⟩)
  | none => (.refused ⟨500, "Internal Server Error"⟩, ⟨Dict.empty, s.table⟩)

/-- One call. -/
def step (s : AgentSystem) : AgentCall → AgentAnswer × AgentSystem
  | .registerAgent tenantId body => P.registerAgent tenantId body s
  | .listAgents tenantId =>
    (.agents (s.registry tenantId).listAgents, s.put tenantId (s.registry tenantId))
  | .getAgent tenantId agentId =>
    (getAgent agentId (s.registry tenantId), s.put tenantId (s.registry tenantId))
  | .unregisterAgent tenantId agentId => unregisterAgent tenantId agentId s
  | .addHandoffRoute tenantId route =>
    let result := addHandoffRoute route (s.registry tenantId)
    (result.1, s.put tenantId result.2)
  | .listHandoffRoutes tenantId =>
    (.routes (s.registry tenantId).listRoutes, s.put tenantId (s.registry tenantId))
  | .setFallbackPolicy tenantId policy =>
    let result := setFallbackPolicy policy (s.registry tenantId)
    (result.1, s.put tenantId result.2)
  | .listFallbackPolicies tenantId =>
    (.policies (s.registry tenantId).listFallbackPolicies, s.put tenantId (s.registry tenantId))
  | .evict tenantId => (.nothing, { s with contexts := s.contexts.erase tenantId })
  | .restart => P.restart s

end AgentPlatform

section
variable {P : AgentPlatform} {s : AgentSystem} {table : AgentTable}

theorem registry_put (tenantId tid : String) (r : AgentRegistry) (s : AgentSystem) :
    (s.put tenantId r).registry tid = if tid = tenantId then r else s.registry tid := by
  rw [AgentSystem.registry, AgentSystem.put, Dict.get?_set]
  split <;> rfl

theorem registry_put_self (tenantId tid : String) (s : AgentSystem) :
    (s.put tenantId (s.registry tenantId)).registry tid = s.registry tid := by
  rw [registry_put]
  split
  · rename_i heq
    rw [heq]
  · rfl

theorem registry_evict (tenantId tid : String) (s : AgentSystem) :
    AgentSystem.registry tid { s with contexts := s.contexts.erase tenantId } =
      if tid = tenantId then .initial else s.registry tid := by
  rw [AgentSystem.registry, Dict.get?_erase]
  split <;> rfl

theorem foldlM_hydrateTenant (h : SQLiteAgentStore.Readable P.showFloat table) {tids : List String}
    (hnodup : tids.Nodup) {contexts : Dict String AgentRegistry}
    (hnew : ∀ tid ∈ tids, contexts.get? tid = none) :
    ∃ contexts', tids.foldlM (P.hydrateTenant table) contexts = some contexts' ∧
      ∀ tid, (tid ∉ tids → contexts'.get? tid = contexts.get? tid) ∧
        (tid ∈ tids → ∃ records, SQLiteAgentStore.listAgents P.showFloat tid table = some records ∧
          contexts'.get? tid = some (records.foldl AgentPlatform.hydrateAgent .initial)) := by
  induction tids generalizing contexts with
  | nil => exact ⟨contexts, rfl, fun _ ↦ ⟨fun _ ↦ rfl, fun hmem ↦ absurd hmem List.not_mem_nil⟩⟩
  | cons first tids ih =>
    obtain ⟨hfresh, hnodup⟩ := List.nodup_cons.mp hnodup
    obtain ⟨hfirst, hnew⟩ := List.forall_mem_cons.mp hnew
    obtain ⟨records, hlist⟩ := h.listAgents first
    have hstep : P.hydrateTenant table contexts first =
        some (contexts.set first (records.foldl AgentPlatform.hydrateAgent .initial)) := by
      rw [AgentPlatform.hydrateTenant, hlist, hfirst]
      rfl
    have hstill : ∀ tid ∈ tids, (contexts.set first
        (records.foldl AgentPlatform.hydrateAgent .initial)).get? tid = none := by
      intro tid htid
      have hother : tid ≠ first := fun heq ↦ hfresh (heq ▸ htid)
      rw [Dict.get?_set, if_neg hother, hnew tid htid]
    obtain ⟨contexts', hrest, hcontexts⟩ := ih hnodup hstill
    refine ⟨contexts', ?_, fun tid ↦ ⟨fun hnot ↦ ?_, fun hmem ↦ ?_⟩⟩
    · rw [List.foldlM_cons, hstep]
      exact hrest
    · obtain ⟨hother, hnot⟩ := not_or.mp (List.mem_cons.not.mp hnot)
      rw [(hcontexts tid).1 hnot, Dict.get?_set, if_neg hother]
    · by_cases hlater : tid ∈ tids
      · exact (hcontexts tid).2 hlater
      · obtain rfl := (List.mem_cons.mp hmem).resolve_right hlater
        refine ⟨records, hlist, ?_⟩
        rw [(hcontexts tid).1 hlater, Dict.get?_set, if_pos rfl]

/-- **What a restart does**, when the store can be read: the context of each tenant has what the store has
of the tenant. -/
theorem restart_eq (h : SQLiteAgentStore.Readable P.showFloat s.table) :
    (P.restart s).1 = .nothing ∧ (P.restart s).2.table = s.table ∧
      ∀ tid, ∃ records, SQLiteAgentStore.listAgents P.showFloat tid s.table = some records ∧
        (P.restart s).2.registry tid = records.foldl AgentPlatform.hydrateAgent .initial := by
  have hnodup : (SQLiteAgentStore.listTenantIds s.table).Nodup :=
    (List.mergeSort_perm _ _).nodup_iff.mpr (List.nodup_dedup _)
  have hnone : ∀ tid ∈ SQLiteAgentStore.listTenantIds s.table,
      (Dict.empty : Dict String AgentRegistry).get? tid = none := fun _ _ ↦ rfl
  obtain ⟨contexts, hcontexts, hall⟩ := foldlM_hydrateTenant h hnodup hnone
  have hrestart : P.restart s = (.nothing, ⟨contexts, s.table⟩) := by
    rw [AgentPlatform.restart, AgentPlatform.hydrateTenantRegistries, hcontexts]
  rw [hrestart]
  refine ⟨rfl, rfl, fun tid ↦ ?_⟩
  by_cases hlisted : tid ∈ SQLiteAgentStore.listTenantIds s.table
  · obtain ⟨records, hlist, hget⟩ := (hall tid).2 hlisted
    refine ⟨records, hlist, ?_⟩
    rw [AgentSystem.registry, hget, Option.getD_some]
  · -- a tenant that is not listed has no rows
    have hrows : SQLiteAgentStore.rowsOf tid s.table = [] := by
      refine List.eq_nil_iff_forall_not_mem.mpr fun entry hentry ↦ hlisted ?_
      obtain ⟨rfl, hrow⟩ := SQLiteAgentStore.mem_rowsOf.mp hentry
      exact SQLiteAgentStore.mem_listTenantIds.mpr ⟨_, Dict.mem_keys_iff.mpr ⟨_, hrow⟩⟩
    refine ⟨[], by rw [SQLiteAgentStore.listAgents, hrows]; rfl, ?_⟩
    rw [AgentSystem.registry, (hall tid).1 hlisted, Dict.get?_empty, Option.getD_none]
    rfl

end
end Api
end ExoBrain
