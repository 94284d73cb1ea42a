import ExoBrain.Api.Agents
import ExoBrain.Lib.Simulation
import Mathlib.Data.String.Basic

/-!
# Agents and restarts

What the endpoints for agents answer, before and after a restart.

* `Synced` says that the store has the agents of the registries.  Every request keeps it, and so does a
  restart (`Synced.restart`), which forgets all routes and fallback policies (`routes_restart`).
* `agents_survive_iff`: after every request of a run a restart would leave the lists of agents as they
  are exactly if no context with agents in it is evicted.
* `restarts_unnoticed`: in such a run the requests for agents are answered as if there were no restarts,
  no evictions and no routing.
-/

set_option autoImplicit false

namespace ExoBrain
namespace Api

open Agents Persistence

section
variable {P : AgentPlatform} {s t : AgentSystem} {tenantId tid agentId : String} {spec : AgentSpec}
  {r r' : AgentRegistry}

/-! ## Records -/

theorem capabilityTag?_value (tag : AgentCapabilityTag) : capabilityTag? tag.value = some tag := by
  cases tag <;> decide

theorem parseCapabilityTags_values (tags : Finset AgentCapabilityTag) :
    parseCapabilityTags ((P.tagsOf tags).map AgentCapabilityTag.value) = tags := by
  ext tag
  simp [parseCapabilityTags, capabilityTag?_value, P.mem_tagsOf]

/-- An agent is made of its record again. -/
theorem agentRecordToSpec_record (tenantId : String) (spec : AgentSpec) :
    agentRecordToSpec (P.record tenantId spec) = spec := by
  rw [agentRecordToSpec, AgentPlatform.record, parseCapabilityTags_values]

/-- The row of an agent. -/
def AgentPlatform.row (P : AgentPlatform) (spec : AgentSpec) : AgentRow := (P.record "" spec).row

/-- An agent that can be registered and written. -/
structure Fit (P : AgentPlatform) (spec : AgentSpec) : Prop where
  agentId : Text.strip spec.agentId ≠ ""
  role : Text.strip spec.role ≠ ""
  metadata : Json.isJson P.showFloat (.dict spec.metadata) = true

/-- **The store has the agents of the registries.** -/
structure Synced (P : AgentPlatform) (s : AgentSystem) : Prop where
  inv : ∀ tid, (s.registry tid).Inv
  fit : ∀ tid agentId spec, (s.registry tid).agents.get? agentId = some spec → Fit P spec
  table : ∀ tid agentId, s.table.get? (tid, agentId) =
    ((s.registry tid).agents.get? agentId).map P.row

/-- The registries have the same agents. -/
def SameAgents (s t : AgentSystem) : Prop :=
  ∀ tid agentId, (s.registry tid).agents.get? agentId = (t.registry tid).agents.get? agentId

theorem synced_initial : Synced P AgentSystem.initial where
  inv _ := AgentRegistry.Inv.initial
  fit _ _ _ h := nomatch h
  table _ _ := rfl

/-- The records of a tenant are those of its agents. -/
theorem Synced.listAgents (h : Synced P s) (tenantId : String) :
    ∃ specs : List AgentSpec, SQLiteAgentStore.listAgents P.showFloat tenantId s.table =
        some (specs.map (P.record tenantId)) ∧ (specs.map AgentSpec.agentId).Nodup ∧
      ∀ spec, spec ∈ specs ↔ (s.registry tenantId).agents.get? spec.agentId = some spec := by
  have hrow {entry : (String × String) × AgentRow}
      (hentry : entry ∈ SQLiteAgentStore.rowsOf tenantId s.table) :
      ∃ spec, (s.registry tenantId).agents.get? entry.1.2 = some spec ∧ spec.agentId = entry.1.2 ∧
        entry.2.record P.showFloat tenantId entry.1.2 = some (P.record tenantId spec) := by
    obtain ⟨htenant, hget⟩ := SQLiteAgentStore.mem_rowsOf.mp hentry
    have hkey : entry.1 = (tenantId, entry.1.2) := Prod.ext htenant rfl
    rw [hkey, h.table] at hget
    obtain ⟨spec, hspec, hsame⟩ := Option.map_eq_some_iff.mp hget
    have hid := (h.inv tenantId).agentId_eq hspec
    refine ⟨spec, hspec, hid, ?_⟩
    have hread : (P.record tenantId spec).row.record P.showFloat tenantId spec.agentId =
        some (P.record tenantId spec) := record_agentRow (h.fit tenantId _ spec hspec).metadata
    rw [← hsame, ← hid]
    exact hread
  let found (entry : (String × String) × AgentRow) : AgentSpec :=
    ((s.registry tenantId).agents.get? entry.1.2).getD ⟨"", "", ∅, "", []⟩
  have hfound {entry : (String × String) × AgentRow}
      (hentry : entry ∈ SQLiteAgentStore.rowsOf tenantId s.table) :
      (s.registry tenantId).agents.get? entry.1.2 = some (found entry) ∧
        (found entry).agentId = entry.1.2 ∧
          entry.2.record P.showFloat tenantId entry.1.2 = some (P.record tenantId (found entry)) := by
    obtain ⟨spec, hspec, hid, hrecord⟩ := hrow hentry
    have hsame : found entry = spec := by simp [found, hspec]
    rw [hsame]
    exact ⟨hspec, hid, hrecord⟩
  refine ⟨(SQLiteAgentStore.rowsOf tenantId s.table).map found, ?_, ?_, fun spec ↦ ?_⟩
  · refine Journal.mapM_eq_some ?_
    rw [List.map_map, List.map_map]
    exact List.map_congr_left fun entry hentry ↦ (hfound hentry).2.2
  · have hids : ((SQLiteAgentStore.rowsOf tenantId s.table).map found).map AgentSpec.agentId =
        (SQLiteAgentStore.rowsOf tenantId s.table).map fun entry ↦ entry.1.2 := by
      rw [List.map_map]
      exact List.map_congr_left fun entry hentry ↦ (hfound hentry).2.1
    rw [hids]
    exact SQLiteAgentStore.nodup_rowsOf
  · rw [List.mem_map]
    constructor
    · rintro ⟨entry, hentry, rfl⟩
      obtain ⟨hspec, hid, -⟩ := hfound hentry
      rw [hid, hspec]
    · intro hspec
      have hentry : ((tenantId, spec.agentId), P.row spec) ∈
          SQLiteAgentStore.rowsOf tenantId s.table := by
        refine SQLiteAgentStore.mem_rowsOf.mpr ⟨rfl, ?_⟩
        rw [h.table, hspec]
        rfl
      exact ⟨_, hentry, Option.some.inj ((hfound hentry).1.symm.trans hspec)⟩

/-! ## The start of the application -/

/-- The roles that are taken are those of the agents. -/
theorem mem_roles_keys (h : r.Inv) {role : String} :
    role ∈ r.roles.keys ↔ ∃ agentId spec, r.agents.get? agentId = some spec ∧ spec.role = role := by
  rw [Dict.mem_keys_iff]
  exact exists_congr fun agentId ↦ h.roles_iff

theorem hydrateAgent_record (hnew : r.agents.get? spec.agentId = none) :
    AgentPlatform.hydrateAgent r (P.record tenantId spec) = (r.register spec).2 := by
  have hget : r.agents.get? (P.record tenantId spec).agentId = none := hnew
  rw [AgentPlatform.hydrateAgent, AgentRegistry.get, hget, agentRecordToSpec_record]

/-- What a registry holds besides its agents. -/
def SameRouting (r r' : AgentRegistry) : Prop :=
  r.routes = r'.routes ∧ r.fallbackRoles = r'.fallbackRoles ∧
    r.fallbackRolePriorities = r'.fallbackRolePriorities

theorem get?_put (id : String) :
    (r.put spec).agents.get? id = if id = spec.agentId then some spec else r.agents.get? id :=
  Dict.get?_set ..

variable (tenantId) in
/-- Agents that are new, in their identifiers and in their roles, are all registered. -/
theorem foldl_hydrateAgent {specs : List AgentSpec} (hr : r.Inv)
    (hfit : ∀ spec ∈ specs, Fit P spec) (hids : (specs.map AgentSpec.agentId).Nodup)
    (hroles : (specs.map AgentSpec.role).Nodup)
    (hnewIds : ∀ spec ∈ specs, r.agents.get? spec.agentId = none)
    (hnewRoles : ∀ spec ∈ specs, spec.role ∉ r.roles.keys) :
    ((specs.map (P.record tenantId)).foldl AgentPlatform.hydrateAgent r).Inv ∧
      SameRouting ((specs.map (P.record tenantId)).foldl AgentPlatform.hydrateAgent r) r ∧
      ∀ agentId spec, ((specs.map (P.record tenantId)).foldl AgentPlatform.hydrateAgent r).agents.get?
        agentId = some spec ↔
          r.agents.get? agentId = some spec ∨ spec ∈ specs ∧ spec.agentId = agentId := by
  induction specs generalizing r with
  | nil => exact ⟨hr, ⟨rfl, rfl, rfl⟩, by simp⟩
  | cons first specs ih =>
    obtain ⟨hfirst, hfit⟩ := List.forall_mem_cons.mp hfit
    obtain ⟨hid, hnewIds⟩ := List.forall_mem_cons.mp hnewIds
    obtain ⟨hrole, hnewRoles⟩ := List.forall_mem_cons.mp hnewRoles
    obtain ⟨hfreshId, hids⟩ := List.nodup_cons.mp hids
    obtain ⟨hfreshRole, hroles⟩ := List.nodup_cons.mp hroles
    have haccepted : r.registerError? first = none := AgentRegistry.registerError?_eq_none.mpr
      ⟨hfirst.agentId, hfirst.role, Dict.get?_eq_none_iff.mp hid, hrole⟩
    have hstep : AgentPlatform.hydrateAgent r (P.record tenantId first) = r.put first := by
      rw [hydrateAgent_record hid, AgentRegistry.register, haccepted]
    obtain ⟨hinv, hrouting, hagents⟩ := ih (hr.put haccepted) hfit hids hroles
      (fun spec hspec ↦ by
        have hother : spec.agentId ≠ first.agentId := fun heq ↦
          hfreshId (heq ▸ List.mem_map_of_mem hspec)
        rw [get?_put, if_neg hother]
        exact hnewIds spec hspec)
      (fun spec hspec hmem ↦ by
        rcases Dict.mem_keys_set.mp hmem with heq | hmem
        · exact hfreshRole (heq ▸ List.mem_map_of_mem hspec)
        · exact hnewRoles spec hspec hmem)
    rw [List.map_cons, List.foldl_cons, hstep]
    refine ⟨hinv, hrouting, fun agentId spec ↦ ?_⟩
    rw [hagents, get?_put, List.mem_cons]
    constructor
    · rintro (hput | ⟨hmem, heq⟩)
      · split at hput
        · rename_i heq
          obtain rfl := Option.some.inj hput
          exact .inr ⟨.inl rfl, heq.symm⟩
        · exact .inl hput
      · exact .inr ⟨.inr hmem, heq⟩
    · rintro (hold | ⟨rfl | hmem, heq⟩)
      · have hother : agentId ≠ first.agentId := by
          rintro rfl
          cases hid.symm.trans hold
        exact .inl ((if_neg hother).trans hold)
      · exact .inl (if_pos heq.symm)
      · exact .inr ⟨hmem, heq⟩

/-- No two agents have one role. -/
theorem nodup_roles {specs : List AgentSpec} (hr : r.Inv)
    (hids : (specs.map AgentSpec.agentId).Nodup)
    (hspecs : ∀ spec, spec ∈ specs ↔ r.agents.get? spec.agentId = some spec) :
    (specs.map AgentSpec.role).Nodup := by
  refine List.Nodup.map_on ?_ hids.of_map
  intro a ha b hb hrole
  have h1 := hr.roles_iff.mpr ⟨a, (hspecs a).mp ha, rfl⟩
  have h2 := hr.roles_iff.mpr ⟨b, (hspecs b).mp hb, rfl⟩
  rw [hrole, h2] at h1
  exact List.inj_on_of_nodup_map hids ha hb (Option.some.inj h1).symm

/-- **A tenant is hydrated with its agents.** -/
theorem Synced.hydrate (h : Synced P s) (tenantId : String) :
    ∃ records, SQLiteAgentStore.listAgents P.showFloat tenantId s.table = some records ∧
      (records.foldl AgentPlatform.hydrateAgent .initial).Inv ∧
      SameRouting (records.foldl AgentPlatform.hydrateAgent .initial) .initial ∧
      ∀ agentId, (records.foldl AgentPlatform.hydrateAgent .initial).agents.get? agentId =
        (s.registry tenantId).agents.get? agentId := by
  obtain ⟨specs, hlist, hids, hspecs⟩ := h.listAgents tenantId
  obtain ⟨hinv, hrouting, hagents⟩ := foldl_hydrateAgent tenantId AgentRegistry.Inv.initial
    (fun spec hspec ↦ h.fit tenantId _ spec ((hspecs spec).mp hspec)) hids
    (nodup_roles (h.inv tenantId) hids hspecs) (fun _ _ ↦ rfl) (fun _ _ ↦ List.not_mem_nil)
  refine ⟨_, hlist, hinv, hrouting, fun agentId ↦ Option.ext fun spec ↦ ?_⟩
  rw [hagents, hspecs]
  constructor
  · rintro (hnone | ⟨hspec, rfl⟩)
    · cases hnone
    · exact hspec
  · intro hspec
    obtain rfl := (h.inv tenantId).agentId_eq hspec
    exact .inr ⟨hspec, rfl⟩

/-- A registry after a restart: the agents of one before, and nothing else. -/
structure Hydrated (r r' : AgentRegistry) : Prop where
  inv : r'.Inv
  routing : SameRouting r' .initial
  agents : ∀ agentId, r'.agents.get? agentId = r.agents.get? agentId

theorem Synced.readable (h : Synced P s) : SQLiteAgentStore.Readable P.showFloat s.table := by
  intro tid agentId row hrow
  rw [h.table] at hrow
  obtain ⟨spec, hspec, rfl⟩ := Option.map_eq_some_iff.mp hrow
  obtain rfl := (h.inv tid).agentId_eq hspec
  have hread : (P.record tid spec).row.record P.showFloat tid spec.agentId =
      some (P.record tid spec) := record_agentRow (h.fit tid _ spec hspec).metadata
  exact ⟨_, hread⟩

/-- **What a restart does**: all tenants have the agents they had, and no routing. -/
theorem Synced.hydrated (h : Synced P s) :
    (P.restart s).1 = .nothing ∧ (P.restart s).2.table = s.table ∧
      ∀ tid, Hydrated (s.registry tid) ((P.restart s).2.registry tid) := by
  obtain ⟨hanswer, htable, hregistry⟩ := restart_eq h.readable
  refine ⟨hanswer, htable, fun tid ↦ ?_⟩
  obtain ⟨records, hlist, hsame⟩ := hregistry tid
  obtain ⟨records', hlist', hinv, hrouting, hagents⟩ := h.hydrate tid
  obtain rfl := Option.some.inj (hlist.symm.trans hlist')
  rw [hsame]
  exact ⟨hinv, hrouting, hagents⟩

theorem Synced.of_sameAgents (h : Synced P s) (hinv : ∀ tid, (t.registry tid).Inv)
    (hagents : SameAgents t s) (htable : t.table = s.table) : Synced P t where
  inv := hinv
  fit tid agentId spec hspec := h.fit tid agentId spec ((hagents tid agentId).symm.trans hspec)
  table tid agentId := by rw [htable, h.table, hagents]

theorem Synced.restart (h : Synced P s) :
    Synced P (P.restart s).2 ∧ SameAgents (P.restart s).2 s := by
  obtain ⟨-, htable, hhydrated⟩ := h.hydrated
  have hagents : SameAgents (P.restart s).2 s := fun tid ↦ (hhydrated tid).agents
  exact ⟨h.of_sameAgents (fun tid ↦ (hhydrated tid).inv) hagents htable, hagents⟩

/-- The routes and the fallback policies of a tenant are gone after a restart. -/
theorem routes_restart (h : Synced P s) (tenantId : String) :
    (P.step (P.step s .restart).2 (.listHandoffRoutes tenantId)).1 = .routes [] ∧
      (P.step (P.step s .restart).2 (.listFallbackPolicies tenantId)).1 = .policies [] := by
  obtain ⟨-, -, hhydrated⟩ := h.hydrated
  obtain ⟨hroutes, hfallbacks, hpriorities⟩ := (hhydrated tenantId).routing
  simp only [AgentPlatform.step, AgentRegistry.listRoutes, AgentRegistry.listFallbackPolicies, hroutes,
    hfallbacks, hpriorities]
  exact ⟨rfl, rfl⟩

/-! ## Requests -/

/-- A request about agents. -/
def AgentCall.isAboutAgents : AgentCall → Bool
  | .registerAgent _ _ | .listAgents _ | .getAgent _ _ | .unregisterAgent _ _ => true
  | _ => false

/-- What is in a body is JSON. -/
def AgentCall.HasJson (P : AgentPlatform) : AgentCall → Prop
  | .registerAgent _ body => Json.isJson P.showFloat (.dict body.metadata) = true
  | _ => True

/-- No context with agents in it is evicted. -/
def SparesAgents (s : AgentSystem) : AgentCall → Prop
  | .evict tenantId => ∀ agentId, (s.registry tenantId).agents.get? agentId = none
  | _ => True

theorem Synced.put (h : Synced P s) (hr : r.Inv)
    (hagents : ∀ agentId, r.agents.get? agentId = (s.registry tenantId).agents.get? agentId) :
    Synced P (s.put tenantId r) ∧ SameAgents (s.put tenantId r) s := by
  have hsame : SameAgents (s.put tenantId r) s := by
    intro tid agentId
    rw [registry_put]
    split
    · rename_i heq
      rw [hagents, heq]
    · rfl
  refine ⟨h.of_sameAgents (fun tid ↦ ?_) hsame rfl, hsame⟩
  rw [registry_put]
  split
  · exact hr
  · exact h.inv tid

theorem Synced.put_self (h : Synced P s) (tenantId : String) :
    Synced P (s.put tenantId (s.registry tenantId)) ∧
      SameAgents (s.put tenantId (s.registry tenantId)) s :=
  h.put (h.inv tenantId) fun _ ↦ rfl

theorem registerAgent_of_error {body : AgentRegisterRequest} {error : RegistryError}
    (herror : (s.registry tenantId).registerError? body.spec = some error) :
    P.registerAgent tenantId body s =
      (.refused (ofRegistryError 409 error), s.put tenantId (s.registry tenantId)) := by
  rw [AgentPlatform.registerAgent, AgentRegistry.register, herror]

/-- **Registering an agent** that the registry accepts: it is in the registry and in the store. -/
theorem Synced.registerAgent (h : Synced P s) {body : AgentRegisterRequest}
    (hjson : Json.isJson P.showFloat (.dict body.metadata) = true)
    (haccepted : (s.registry tenantId).registerError? body.spec = none) :
    (P.registerAgent tenantId body s).1 = .agent body.spec ∧
      Synced P (P.registerAgent tenantId body s).2 ∧
        ∀ tid agentId, ((P.registerAgent tenantId body s).2.registry tid).agents.get? agentId =
          if tid = tenantId ∧ agentId = body.agentId then some body.spec
          else (s.registry tid).agents.get? agentId := by
  obtain ⟨hid, hrole, -, -⟩ := AgentRegistry.registerError?_eq_none.mp haccepted
  have hwritten : Json.isJson P.showFloat (P.record tenantId body.spec).data = true :=
    (isJson_data _).trans hjson
  have hstep : P.registerAgent tenantId body s = (.agent body.spec,
      { s.put tenantId ((s.registry tenantId).put body.spec) with
        table := s.table.set (tenantId, body.agentId) (P.row body.spec) }) := by
    rw [AgentPlatform.registerAgent, AgentRegistry.register, haccepted]
    simp only [SQLiteAgentStore.saveAgent, if_pos hwritten]
    rfl
  have hagents (tid agentId : String) :
      ((s.put tenantId ((s.registry tenantId).put body.spec)).registry tid).agents.get? agentId =
        if tid = tenantId ∧ agentId = body.agentId then some body.spec
        else (s.registry tid).agents.get? agentId := by
    rw [registry_put]
    by_cases htid : tid = tenantId
    · rw [if_pos htid, get?_put, htid]
      simp only [true_and]
      rfl
    · rw [if_neg htid, if_neg fun hboth ↦ htid hboth.1]
  rw [hstep]
  refine ⟨rfl, ⟨fun tid ↦ ?_, fun tid agentId spec hspec ↦ ?_, fun tid agentId ↦ ?_⟩, hagents⟩
  · change ((s.put tenantId ((s.registry tenantId).put body.spec)).registry tid).Inv
    rw [registry_put]
    split
    · exact (h.inv tenantId).put haccepted
    · exact h.inv tid
  · change ((s.put tenantId _).registry tid).agents.get? agentId = some spec at hspec
    rw [hagents] at hspec
    split at hspec
    · obtain rfl := Option.some.inj hspec
      exact ⟨hid, hrole, hjson⟩
    · exact h.fit tid agentId spec hspec
  · change (s.table.set (tenantId, body.agentId) (P.row body.spec)).get? (tid, agentId) =
      (((s.put tenantId _).registry tid).agents.get? agentId).map P.row
    simp only [hagents, Dict.get?_set, Prod.mk.injEq, h.table]
    split <;> rfl

theorem unregisterAgent_of_none (hnone : (s.registry tenantId).agents.get? agentId = none) :
    AgentPlatform.unregisterAgent tenantId agentId s =
      (.refused ⟨404, "Agent '" ++ agentId ++ "' not found"⟩,
        s.put tenantId (s.registry tenantId)) := by
  rw [AgentPlatform.unregisterAgent, AgentRegistry.unregister, hnone]

/-- **Unregistering an agent** that is there: it is neither in the registry nor in the store. -/
theorem Synced.unregisterAgent (h : Synced P s)
    (hspec : (s.registry tenantId).agents.get? agentId = some spec) :
    (AgentPlatform.unregisterAgent tenantId agentId s).1 = .unregistered ∧
      Synced P (AgentPlatform.unregisterAgent tenantId agentId s).2 ∧
        ∀ tid id, ((AgentPlatform.unregisterAgent tenantId agentId s).2.registry tid).agents.get? id =
          if tid = tenantId ∧ id = agentId then none else (s.registry tid).agents.get? id := by
  have hinv := (h.inv tenantId).unregister agentId
  rw [AgentRegistry.unregister, hspec] at hinv
  have hstep : AgentPlatform.unregisterAgent tenantId agentId s = (.unregistered,
      { s.put tenantId ((s.registry tenantId).drop [agentId] [spec.role]) with
        table := s.table.erase (tenantId, agentId) }) := by
    rw [AgentPlatform.unregisterAgent, AgentRegistry.unregister, hspec]
    rfl
  have hagents (tid id : String) : ((s.put tenantId
      ((s.registry tenantId).drop [agentId] [spec.role])).registry tid).agents.get? id =
        if tid = tenantId ∧ id = agentId then none else (s.registry tid).agents.get? id := by
    rw [registry_put]
    by_cases htid : tid = tenantId
    · rw [if_pos htid, AgentRegistry.drop, Dict.get?_filter, htid]
      cases (s.registry tenantId).agents.get? id <;> by_cases hid : id = agentId <;>
        simp [Option.filter, hid]
    · rw [if_neg htid, if_neg fun hboth ↦ htid hboth.1]
  rw [hstep]
  refine ⟨rfl, ⟨fun tid ↦ ?_, fun tid id found hfound ↦ ?_, fun tid id ↦ ?_⟩, hagents⟩
  · change ((s.put tenantId _).registry tid).Inv
    rw [registry_put]
    split
    · exact hinv
    · exact h.inv tid
  · change ((s.put tenantId _).registry tid).agents.get? id = some found at hfound
    rw [hagents] at hfound
    split at hfound
    · cases hfound
    · exact h.fit tid id found hfound
  · change (s.table.erase (tenantId, agentId)).get? (tid, id) =
      (((s.put tenantId _).registry tid).agents.get? id).map P.row
    simp only [hagents, Dict.get?_erase, Prod.mk.injEq, h.table]
    split <;> rfl

/-! ## Registries with the same agents -/

theorem registerError?_congr (hr : r.Inv) (hr' : r'.Inv)
    (hsame : ∀ agentId, r.agents.get? agentId = r'.agents.get? agentId) (spec : AgentSpec) :
    r.registerError? spec = r'.registerError? spec := by
  have hids : spec.agentId ∈ r.agents.keys ↔ spec.agentId ∈ r'.agents.keys := by
    rw [Dict.mem_keys_iff, Dict.mem_keys_iff, hsame]
  have hroles : spec.role ∈ r.roles.keys ↔ spec.role ∈ r'.roles.keys := by
    rw [mem_roles_keys hr, mem_roles_keys hr']
    simp only [hsame]
  simp only [AgentRegistry.registerError?, hids, hroles]

theorem listAgents_congr (hsame : ∀ agentId, r.agents.get? agentId = r'.agents.get? agentId) :
    r.listAgents = r'.listAgents := by
  have hkeys : Text.sortedTexts r.agents.keys = Text.sortedTexts r'.agents.keys := by
    have hperm : r.agents.keys.Perm r'.agents.keys := (Dict.perm_entries hsame).map Prod.fst
    exact @Journal.mergeSort_eq_of_perm _ _ _ id _ _ hperm (by simpa using r.agents.keys_nodup)
  rw [AgentRegistry.listAgents, AgentRegistry.listAgents, hkeys]
  exact List.filterMap_congr fun agentId _ ↦ hsame agentId

/-- **Requests about agents are answered alike**, and leave the same agents. -/
theorem Synced.alike (hs : Synced P s) (ht : Synced P t) (hsame : SameAgents s t) {call : AgentCall}
    (habout : call.isAboutAgents = true) (hjson : call.HasJson P) :
    (P.step s call).1 = (P.step t call).1 ∧ Synced P (P.step s call).2 ∧
      Synced P (P.step t call).2 ∧ SameAgents (P.step s call).2 (P.step t call).2 := by
  -- nothing is changed
  have hkeep (tenantId : String) :
      Synced P (s.put tenantId (s.registry tenantId)) ∧
        Synced P (t.put tenantId (t.registry tenantId)) ∧
          SameAgents (s.put tenantId (s.registry tenantId)) (t.put tenantId (t.registry tenantId)) := by
    obtain ⟨hs', hsameS⟩ := hs.put_self tenantId
    obtain ⟨ht', hsameT⟩ := ht.put_self tenantId
    exact ⟨hs', ht', fun tid agentId ↦
      (hsameS tid agentId).trans ((hsame tid agentId).trans (hsameT tid agentId).symm)⟩
  cases call with
  | registerAgent tenantId body =>
    have herror := registerError?_congr (hs.inv tenantId) (ht.inv tenantId) (hsame tenantId) body.spec
    simp only [AgentPlatform.step]
    cases hs' : (s.registry tenantId).registerError? body.spec with
    | some error =>
      rw [registerAgent_of_error hs', registerAgent_of_error (herror ▸ hs')]
      exact ⟨rfl, hkeep tenantId⟩
    | none =>
      obtain ⟨hanswer, hsynced, hagents⟩ := hs.registerAgent hjson hs'
      obtain ⟨hanswer', hsynced', hagents'⟩ := ht.registerAgent hjson (herror ▸ hs')
      refine ⟨hanswer.trans hanswer'.symm, hsynced, hsynced', fun tid agentId ↦ ?_⟩
      rw [hagents, hagents', hsame]
  | listAgents tenantId =>
    exact ⟨congrArg AgentAnswer.agents (listAgents_congr (hsame tenantId)), hkeep tenantId⟩
  | getAgent tenantId agentId =>
    refine ⟨?_, hkeep tenantId⟩
    simp only [AgentPlatform.step, AgentPlatform.getAgent, AgentRegistry.get, hsame tenantId agentId]
  | unregisterAgent tenantId agentId =>
    simp only [AgentPlatform.step]
    cases hspec : (s.registry tenantId).agents.get? agentId with
    | none =>
      rw [unregisterAgent_of_none hspec,
        unregisterAgent_of_none ((hsame tenantId agentId).symm.trans hspec)]
      exact ⟨rfl, hkeep tenantId⟩
    | some spec =>
      obtain ⟨hanswer, hsynced, hagents⟩ := hs.unregisterAgent hspec
      obtain ⟨hanswer', hsynced', hagents'⟩ :=
        ht.unregisterAgent ((hsame tenantId agentId).symm.trans hspec)
      refine ⟨hanswer.trans hanswer'.symm, hsynced, hsynced', fun tid id ↦ ?_⟩
      rw [hagents, hagents', hsame]
  | addHandoffRoute | listHandoffRoutes | setFallbackPolicy | listFallbackPolicies | evict | restart =>
    cases habout

/-! ## Everything else -/

theorem addHandoffRoute_agents (route : HandoffRoute) (r : AgentRegistry) :
    (AgentPlatform.addHandoffRoute route r).2 = (r.addHandoffRoute route).2 ∧
      (r.addHandoffRoute route).2.agents = r.agents := by
  rw [AgentPlatform.addHandoffRoute, AgentRegistry.addHandoffRoute]
  cases r.routeError? route <;> exact ⟨rfl, rfl⟩

theorem setFallbackPolicy_agents (policy : HandoffFallbackPolicy) (r : AgentRegistry) :
    (AgentPlatform.setFallbackPolicy policy r).2 = (r.setHandoffFallbackPolicy policy).2 ∧
      (r.setHandoffFallbackPolicy policy).2.agents = r.agents := by
  rw [AgentPlatform.setFallbackPolicy, AgentRegistry.setHandoffFallbackPolicy]
  cases r.fallbackError? policy with
  | some error => exact ⟨rfl, rfl⟩
  | none =>
    dsimp only
    cases (r.putFallback policy).priorityError? policy <;> exact ⟨rfl, rfl⟩

/-- **Routing, restarts and evictions leave the agents**, if no context with agents is evicted. -/
theorem Synced.others (h : Synced P s) {call : AgentCall} (habout : call.isAboutAgents = false)
    (hspares : SparesAgents s call) :
    Synced P (P.step s call).2 ∧ SameAgents (P.step s call).2 s := by
  cases call with
  | registerAgent | listAgents | getAgent | unregisterAgent => cases habout
  | addHandoffRoute tenantId route =>
    obtain ⟨hresult, hagents⟩ := addHandoffRoute_agents route (s.registry tenantId)
    refine h.put ?_ fun agentId ↦ ?_
    · rw [hresult]
      exact (h.inv tenantId).addHandoffRoute route
    · rw [hresult, hagents]
  | listHandoffRoutes tenantId => exact h.put_self tenantId
  | setFallbackPolicy tenantId policy =>
    obtain ⟨hresult, hagents⟩ := setFallbackPolicy_agents policy (s.registry tenantId)
    refine h.put ?_ fun agentId ↦ ?_
    · rw [hresult]
      exact (h.inv tenantId).setHandoffFallbackPolicy policy
    · rw [hresult, hagents]
  | listFallbackPolicies tenantId => exact h.put_self tenantId
  | evict tenantId =>
    have hsame : SameAgents { s with contexts := s.contexts.erase tenantId } s := by
      intro tid agentId
      rw [registry_evict]
      split
      · rename_i heq
        rw [heq, hspares agentId]
        rfl
      · rfl
    refine ⟨h.of_sameAgents (fun tid ↦ ?_) hsame rfl, hsame⟩
    change (AgentSystem.registry tid { s with contexts := s.contexts.erase tenantId }).Inv
    rw [registry_evict]
    split
    · exact AgentRegistry.Inv.initial
    · exact h.inv tid
  | restart => exact h.restart

/-- **Every call keeps the store and the registries together**, if no context with agents is evicted. -/
theorem Synced.step (h : Synced P s) {call : AgentCall} (hjson : call.HasJson P)
    (hspares : SparesAgents s call) : Synced P (P.step s call).2 := by
  cases habout : call.isAboutAgents with
  | true => exact (h.alike h (fun _ _ ↦ rfl) habout hjson).2.1
  | false => exact (h.others habout hspares).1

theorem eq_none_of_listAgents (h : r.listAgents = []) (agentId : String) :
    r.agents.get? agentId = none := by
  by_contra hsome
  obtain ⟨spec, hspec⟩ := Option.ne_none_iff_exists'.mp hsome
  have hmem : spec ∈ r.listAgents := List.mem_filterMap.mpr
    ⟨agentId, List.mem_mergeSort.mpr (Dict.mem_keys_iff.mpr ⟨spec, hspec⟩), hspec⟩
  rw [h] at hmem
  cases hmem

end

/-! ## Runs -/

/-- A restart would leave the lists of agents as they are. -/
def Survives (P : AgentPlatform) (s : AgentSystem) : Prop :=
  ∀ tenantId, (P.step (P.step s .restart).2 (.listAgents tenantId)).1 =
    (P.step s (.listAgents tenantId)).1

section
variable {P : AgentPlatform} {s : AgentSystem}

theorem Synced.survives (h : Synced P s) : Survives P s := by
  obtain ⟨hrestart, hsame⟩ := h.restart
  intro tenantId
  have habout : (AgentCall.listAgents tenantId).isAboutAgents = true := rfl
  exact (hrestart.alike h hsame habout trivial).1

theorem Synced.survives_step (h : Synced P s) {call : AgentCall} (hjson : call.HasJson P) :
    Survives P (P.step s call).2 ↔ SparesAgents s call := by
  refine ⟨fun hsurvives ↦ ?_, fun hspares ↦ (h.step hjson hspares).survives⟩
  cases call with
  | evict tenantId =>
    intro agentId
    -- the context is built anew, and after a restart it has the agents that it had
    have hempty : (AgentSystem.registry tenantId
        { s with contexts := s.contexts.erase tenantId }).listAgents = [] := by
      rw [AgentSystem.registry, Dict.get?_erase, if_pos rfl]
      simp [AgentRegistry.listAgents, AgentRegistry.initial, Dict.keys, Dict.empty, Text.sortedTexts]
    have hlist := AgentAnswer.agents.inj (hsurvives tenantId)
    obtain ⟨-, -, hhydrated⟩ := h.hydrated
    have hbefore := listAgents_congr (hhydrated tenantId).agents
    refine eq_none_of_listAgents ?_ agentId
    exact hbefore.symm.trans (hlist.trans hempty)
  | _ => trivial

end

/-- **When agents survive.**  In every run of requests with JSON bodies, evictions and restarts, from an
empty database: after each of its steps a restart would leave the lists of agents of all tenants as they
are, exactly if no step evicts a context with agents in it. -/
theorem agents_survive_iff (P : AgentPlatform) (calls : List AgentCall)
    (hjson : ∀ call ∈ calls, call.HasJson P) :
    (∀ before, before <+: calls → Survives P (Run.exec P.step .initial before)) ↔
      Run.Along P.step SparesAgents .initial calls := by
  have hstep (s : AgentSystem) (call : AgentCall) (hcall : call.HasJson P) (h : Synced P s) :
      (Survives P (P.step s call).2 ↔ SparesAgents s call) ∧
        (SparesAgents s call → Synced P (P.step s call).2) :=
    ⟨h.survives_step hcall, h.step hcall⟩
  exact Run.forall_exec_iff_along_of_kept (fun _ h ↦ h.survives) hstep hjson synced_initial

/-- Sets are gone through in the order of the enumeration. -/
def plainPlatform : AgentPlatform where
  showFloat := id
  tagsOf tags := AgentCapabilityTag.all.filter (· ∈ tags)
  mem_tagsOf tags tag := by
    rw [List.mem_filter, decide_eq_true_iff, and_iff_right_iff_imp]
    exact fun _ ↦ by cases tag <;> decide

/-- An agent whose context is evicted is not listed before the next restart. -/
theorem agents_survive_iff_evicted : ¬∀ before,
    before <+: [.registerAgent "t1" ⟨"a1", "reviewer", ["review"], "", []⟩, .evict "t1"] →
      Survives plainPlatform (Run.exec plainPlatform.step .initial before) := by
  rw [agents_survive_iff plainPlatform
    [.registerAgent "t1" ⟨"a1", "reviewer", ["review"], "", []⟩, .evict "t1"]
    (List.forall_mem_cons.mpr ⟨rfl, List.forall_mem_cons.mpr ⟨trivial, List.forall_mem_nil _⟩⟩)]
  rintro ⟨-, hspares, -⟩
  exact absurd (congrArg Option.isNone (hspares "a1")) (by decide +kernel)

/-- **Restarts are not noticed.**  As long as no context with agents in it is evicted, the requests about
agents are answered as if nothing else had happened: no restart, no eviction, and no request about
routes. -/
theorem restarts_unnoticed (P : AgentPlatform) (calls : List AgentCall)
    (hjson : ∀ call ∈ calls, call.HasJson P)
    (hspares : Run.Along P.step SparesAgents .initial calls) :
    (Run.trace P.step .initial calls).filter (fun e ↦ e.1.isAboutAgents) =
      Run.trace P.step .initial (calls.filter AgentCall.isAboutAgents) := by
  have hallowed : Run.Along P.step (fun s call ↦ call.HasJson P ∧ SparesAgents s call) .initial calls :=
    Run.along_and (Run.along_of_forall_mem (fun call hcall _ ↦ hjson call hcall) _) hspares
  have hskip (s t : AgentSystem) (call : AgentCall) (hcall : call.HasJson P ∧ SparesAgents s call)
      (h : Synced P s ∧ Synced P t ∧ SameAgents s t) (habout : call.isAboutAgents = false) :
      (Synced P (P.step s call).2 ∧ Synced P t ∧ SameAgents (P.step s call).2 t) ∧ True := by
    obtain ⟨hs, ht, hsame⟩ := h
    obtain ⟨hs', hsame'⟩ := hs.others habout hcall.2
    exact ⟨⟨hs', ht, fun tid agentId ↦ (hsame' tid agentId).trans (hsame tid agentId)⟩, trivial⟩
  have hkeep (s t : AgentSystem) (call : AgentCall) (hcall : call.HasJson P ∧ SparesAgents s call)
      (h : Synced P s ∧ Synced P t ∧ SameAgents s t) (habout : call.isAboutAgents = true) :
      (id (call, (P.step s call).1) = id (call, (P.step t call).1) ↔ True) ∧
        (True → Synced P (P.step s call).2 ∧ Synced P (P.step t call).2 ∧
          SameAgents (P.step s call).2 (P.step t call).2) := by
    obtain ⟨hs, ht, hsame⟩ := h
    obtain ⟨hanswer, hnext⟩ := hs.alike ht hsame habout hcall.1
    exact ⟨iff_of_true (congrArg (Prod.mk call) hanswer) trivial, fun _ ↦ hnext⟩
  have hruns := (Run.map_trace_filter_iff_along hskip hkeep hallowed
    ⟨synced_initial, synced_initial, fun _ _ ↦ rfl⟩).mpr (Run.along_of_forall (fun _ _ ↦ trivial) _ _)
  simpa using hruns

/-- An agent, a restart, and a second agent with the same role. -/
theorem restarts_unnoticed_two :
    (Run.trace plainPlatform.step .initial [.registerAgent "t1" ⟨"a1", "reviewer", ["review"], "", []⟩,
      .evict "t2", .restart, .registerAgent "t1" ⟨"a2", "reviewer", [], "", []⟩]).filter
        (fun e ↦ e.1.isAboutAgents) =
      Run.trace plainPlatform.step .initial
        [.registerAgent "t1" ⟨"a1", "reviewer", ["review"], "", []⟩,
          .registerAgent "t1" ⟨"a2", "reviewer", [], "", []⟩] :=
  restarts_unnoticed plainPlatform
    [.registerAgent "t1" ⟨"a1", "reviewer", ["review"], "", []⟩, .evict "t2", .restart,
      .registerAgent "t1" ⟨"a2", "reviewer", [], "", []⟩]
    (List.forall_mem_cons.mpr ⟨rfl, List.forall_mem_cons.mpr ⟨trivial, List.forall_mem_cons.mpr
      ⟨trivial, List.forall_mem_cons.mpr ⟨rfl, List.forall_mem_nil _⟩⟩⟩⟩)
    ⟨trivial, fun _ ↦ rfl, trivial, trivial, trivial⟩

end Api
end ExoBrain
