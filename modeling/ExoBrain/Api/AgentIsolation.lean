import ExoBrain.Api.Agents
import ExoBrain.Lib.Simulation

/-!
# Tenants and the agents of others

The agents of all tenants are in one table, their contexts in one cache, and one application is
restarted for all of them.  None of this lets a tenant notice another one: `tenants_apart` says that the
requests of a tenant are answered as if nobody else had ever asked for anything, whatever the others do
and however often contexts are evicted and the application is restarted.

`Alike` is what a tenant sees of two states.  A call of another tenant keeps it, since it `Spares`
everybody else, and so does a call of the tenant, or a restart, in both states (`Alike.step`,
`Alike.restart`).
-/

set_option autoImplicit false

namespace ExoBrain
namespace Api

open Agents Persistence

/-- The tenant that a call is about; a restart is about all. -/
def AgentCall.tenant? : AgentCall → Option String
  | .registerAgent tenantId _ | .listAgents tenantId | .getAgent tenantId _
  | .unregisterAgent tenantId _ | .addHandoffRoute tenantId _ | .listHandoffRoutes tenantId
  | .setFallbackPolicy tenantId _ | .listFallbackPolicies tenantId | .evict tenantId => some tenantId
  | .restart => none

/-- The call is about the tenant, or about all. -/
def AgentCall.concerns (tenantId : String) (call : AgentCall) : Bool :=
  call.tenant?.all fun tid ↦ tid = tenantId

section
variable {P : AgentPlatform} {s t : AgentSystem} {tenantId tid : String} {call : AgentCall}

/-! ## Calls of others -/

/-- What a call about one tenant leaves as it was. -/
structure Spares (P : AgentPlatform) (tid : String) (s s' : AgentSystem) : Prop where
  registry : ∀ other, other ≠ tid → s'.registry other = s.registry other
  rows : ∀ other, other ≠ tid → ∀ agentId, s'.table.get? (other, agentId) = s.table.get? (other, agentId)
  readable : SQLiteAgentStore.Readable P.showFloat s.table →
    SQLiteAgentStore.Readable P.showFloat s'.table

variable (P) in
theorem spares_put (tid : String) (r : AgentRegistry) (s : AgentSystem) : Spares P tid s (s.put tid r) where
  registry other hother := by rw [registry_put, if_neg hother]
  rows _ _ _ := rfl
  readable h := h

theorem spares_registerAgent (tid : String) (body : AgentRegisterRequest) (s : AgentSystem) :
    Spares P tid s (P.registerAgent tid body s).2 := by
  rw [AgentPlatform.registerAgent]
  rcases (s.registry tid).register body.spec with ⟨error | _, r⟩
  · rw [SQLiteAgentStore.saveAgent]
    by_cases hjson : Json.isJson P.showFloat (P.record tid body.spec).data = true
    · rw [if_pos hjson]
      refine ⟨(spares_put P tid r s).registry, fun other hother agentId ↦ ?_, fun h ↦ h.saveAgent hjson⟩
      exact (Dict.get?_set ..).trans (if_neg fun heq ↦ hother (Prod.mk.inj heq).1)
    · rw [if_neg hjson]
      exact spares_put P tid r s
  · exact spares_put P tid r s

theorem spares_unregisterAgent (tid agentId : String) (s : AgentSystem) :
    Spares P tid s (AgentPlatform.unregisterAgent tid agentId s).2 := by
  rw [AgentPlatform.unregisterAgent]
  rcases (s.registry tid).unregister agentId with ⟨error | _, r⟩
  · refine ⟨(spares_put P tid r s).registry, fun other hother id ↦ ?_, fun h ↦ h.deleteAgent tid agentId⟩
    exact (Dict.get?_erase ..).trans (if_neg fun heq ↦ hother (Prod.mk.inj heq).1)
  · exact spares_put P tid r s

/-- **A call about a tenant leaves the others as they are.** -/
theorem spares_step (h : call.tenant? = some tid) (s : AgentSystem) :
    Spares P tid s (P.step s call).2 := by
  cases call with
  | restart => cases h
  | registerAgent tenantId body =>
    obtain rfl := Option.some.inj h
    exact spares_registerAgent tenantId body s
  | unregisterAgent tenantId agentId =>
    obtain rfl := Option.some.inj h
    exact spares_unregisterAgent tenantId agentId s
  | evict tenantId =>
    obtain rfl := Option.some.inj h
    refine ⟨fun other hother ↦ ?_, fun _ _ _ ↦ rfl, fun hreadable ↦ hreadable⟩
    exact (registry_evict ..).trans (if_neg hother)
  | _ =>
    obtain rfl := Option.some.inj h
    exact spares_put P _ _ s

/-! ## What a tenant sees -/

/-- **What a tenant sees of two states.**  The rows of all tenants can be read, or the application would
not start again. -/
structure Alike (P : AgentPlatform) (tenantId : String) (s t : AgentSystem) : Prop where
  registry : s.registry tenantId = t.registry tenantId
  rows : ∀ agentId, s.table.get? (tenantId, agentId) = t.table.get? (tenantId, agentId)
  readable : SQLiteAgentStore.Readable P.showFloat s.table
  readable' : SQLiteAgentStore.Readable P.showFloat t.table

theorem alike_initial (P : AgentPlatform) (tenantId : String) : Alike P tenantId .initial .initial :=
  ⟨rfl, fun _ ↦ rfl, fun _ _ _ h ↦ (nomatch h), fun _ _ _ h ↦ (nomatch h)⟩

theorem Alike.skip (h : Alike P tenantId s t) {s' : AgentSystem} (hspares : Spares P tid s s')
    (hother : tenantId ≠ tid) : Alike P tenantId s' t where
  registry := (hspares.registry tenantId hother).trans h.registry
  rows agentId := (hspares.rows tenantId hother agentId).trans (h.rows agentId)
  readable := hspares.readable h.readable
  readable' := h.readable'

/-- A call about the tenant is answered alike, and leaves what the tenant sees alike. -/
theorem Alike.answer (h : Alike P tenantId s t) (habout : call.tenant? = some tenantId) :
    (P.step s call).1 = (P.step t call).1 ∧
      (P.step s call).2.registry tenantId = (P.step t call).2.registry tenantId ∧
        ∀ agentId, (P.step s call).2.table.get? (tenantId, agentId) =
          (P.step t call).2.table.get? (tenantId, agentId) := by
  have hput (r : AgentRegistry) : (s.put tenantId r).registry tenantId = (t.put tenantId r).registry
      tenantId := by rw [registry_put, registry_put, if_pos rfl, if_pos rfl]
  cases call with
  | restart => cases habout
  | registerAgent tid body =>
    obtain rfl := Option.some.inj habout
    simp only [AgentPlatform.step, AgentPlatform.registerAgent, h.registry]
    rcases (t.registry tid).register body.spec with ⟨error | _, r⟩
    · rw [SQLiteAgentStore.saveAgent, SQLiteAgentStore.saveAgent]
      by_cases hjson : Json.isJson P.showFloat (P.record tid body.spec).data = true
      · rw [if_pos hjson, if_pos hjson]
        refine ⟨rfl, hput r, fun agentId ↦ ?_⟩
        simp only [Dict.get?_set, h.rows agentId]
      · rw [if_neg hjson, if_neg hjson]
        exact ⟨rfl, hput r, h.rows⟩
    · exact ⟨rfl, hput r, h.rows⟩
  | unregisterAgent tid agentId =>
    obtain rfl := Option.some.inj habout
    simp only [AgentPlatform.step, AgentPlatform.unregisterAgent, h.registry]
    rcases (t.registry tid).unregister agentId with ⟨error | _, r⟩
    · refine ⟨rfl, hput r, fun id ↦ ?_⟩
      simp only [SQLiteAgentStore.deleteAgent, Dict.get?_erase, h.rows id]
    · exact ⟨rfl, hput r, h.rows⟩
  | evict tid =>
    obtain rfl := Option.some.inj habout
    refine ⟨rfl, ?_, h.rows⟩
    exact ((registry_evict ..).trans (if_pos rfl)).trans ((registry_evict ..).trans (if_pos rfl)).symm
  | _ =>
    obtain rfl := Option.some.inj habout
    refine ⟨?_, ?_, h.rows⟩
    · simp only [AgentPlatform.step, h.registry]
    · simp only [AgentPlatform.step, h.registry]
      exact hput _

/-- After a restart a tenant has what its rows say. -/
theorem Alike.restart (h : Alike P tenantId s t) :
    (P.step s .restart).1 = (P.step t .restart).1 ∧
      Alike P tenantId (P.step s .restart).2 (P.step t .restart).2 := by
  obtain ⟨hanswer, htable, hregistry⟩ := restart_eq h.readable
  obtain ⟨hanswer', htable', hregistry'⟩ := restart_eq h.readable'
  refine ⟨hanswer.trans hanswer'.symm, ?_, fun agentId ↦ ?_, ?_, ?_⟩
  · obtain ⟨records, hlist, hsame⟩ := hregistry tenantId
    obtain ⟨records', hlist', hsame'⟩ := hregistry' tenantId
    rw [SQLiteAgentStore.listAgents, SQLiteAgentStore.rowsOf_congr h.rows] at hlist
    obtain rfl := Option.some.inj (hlist.symm.trans hlist')
    exact hsame.trans hsame'.symm
  · rw [AgentPlatform.step, AgentPlatform.step, htable, htable']
    exact h.rows agentId
  · rw [AgentPlatform.step, htable]
    exact h.readable
  · rw [AgentPlatform.step, htable']
    exact h.readable'

end

/-- **Tenants do not notice each other.**  In every run of requests, evictions and restarts, what is
answered to the calls about a tenant, and to the restarts, is what would be answered had there been no
other tenant. -/
theorem tenants_apart (P : AgentPlatform) (calls : List AgentCall) (tenantId : String) :
    (Run.trace P.step .initial calls).filter (fun e ↦ e.1.concerns tenantId) =
      Run.trace P.step .initial (calls.filter fun call ↦ call.concerns tenantId) := by
  refine Run.filter_trace_eq (R := Alike P tenantId) (fun s t call h hother ↦ ?_)
    (fun s t call h habout ↦ ?_) (alike_initial P tenantId) calls
  · rw [AgentCall.concerns] at hother
    cases htenant : call.tenant? with
    | none => rw [htenant] at hother; cases hother
    | some tid =>
      rw [htenant, Option.all_some, decide_eq_false_iff_not] at hother
      exact h.skip (spares_step htenant s) (Ne.symm hother)
  · rw [AgentCall.concerns] at habout
    cases htenant : call.tenant? with
    | none =>
      cases call with
      | restart => exact h.restart
      | _ => cases htenant
    | some tid =>
      rw [htenant, Option.all_some, decide_eq_true_eq] at habout
      obtain rfl := habout
      obtain ⟨hanswer, hregistry, hrows⟩ := h.answer htenant
      exact ⟨hanswer, hregistry, hrows, (spares_step htenant s).readable h.readable,
        (spares_step htenant t).readable h.readable'⟩

end Api
end ExoBrain
