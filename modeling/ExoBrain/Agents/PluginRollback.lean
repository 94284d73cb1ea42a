import ExoBrain.Agents.PluginManager

/-!
# What a load writes, and what a rollback leaves

`load_plugin` undoes a failed load by unregistering the agents it has registered.  What it has
written between the roles of others stays, and what others had configured for the new roles goes.
`reload_plugin` adds to this that the old version is unloaded before and loaded after.

* `AgentPlugin.declared` is what a load writes until it is refused.  Refusals depend on agents and
  roles only, so this can be read off the registry before the load (`declare_eq`).
* `unregisterAll_eq` turns the rollback into one `AgentRegistry.drop`.
* `Stands` says when one entry of a table is in the end what it was, and `Restored` says so of the
  three tables of roles (`restored_iff`).
-/

set_option autoImplicit false

namespace ExoBrain
namespace Agents

/-! ## What is written -/

/-- Entries of a registry. -/
structure Declared where
  agents : List AgentSpec := []
  routes : List HandoffRoute := []
  fallbacks : List HandoffFallbackPolicy := []
  priorities : List HandoffFallbackPolicy := []

namespace Declared

/-- The ids of the agents. -/
def agentIds (d : Declared) : List String := d.agents.map AgentSpec.agentId

/-- The roles of the agents. -/
def roles (d : Declared) : List String := d.agents.map AgentSpec.role

/-- A registry in which the entries have been filed one after the other. -/
def writeTo (d : Declared) (r : AgentRegistry) : AgentRegistry where
  agents := d.agents.foldl (fun agents agent ↦ agents.set agent.agentId agent) r.agents
  roles := d.agents.foldl (fun roles agent ↦ roles.set agent.role agent.agentId) r.roles
  routes := d.routes.foldl (fun routes route ↦ routes.set route.key route) r.routes
  fallbackRoles := d.fallbacks.foldl
    (fun fallbackRoles policy ↦ fallbackRoles.set policy.key policy.normalizedRoles)
    r.fallbackRoles
  fallbackRolePriorities := d.priorities.foldl
    (fun priorities policy ↦ priorities.set policy.key policy.normalizedPriorities)
    r.fallbackRolePriorities

end Declared

namespace AgentRegistry

/-- The agents that are registered until one is refused. -/
def admitted : List AgentSpec → AgentRegistry → List AgentSpec
  | [], _ => []
  | agent :: agents, r =>
    if r.registerError? agent = none then agent :: admitted agents (r.put agent) else []

/-- The policies whose roles are filed until one is refused. -/
def fallbacksWritten : List HandoffFallbackPolicy → AgentRegistry → List HandoffFallbackPolicy
  | [], _ => []
  | policy :: policies, r =>
    if r.fallbackError? policy ≠ none then []
    -- The roles of a policy are filed before its priorities are refused.
    else if r.priorityError? policy ≠ none then [policy]
    else policy :: fallbacksWritten policies r

/-! What is refused depends on agents and roles only. -/

theorem registerError?_congr {r r' : AgentRegistry} (hagents : r'.agents = r.agents)
    (hroles : r'.roles = r.roles) (agent : AgentSpec) :
    r'.registerError? agent = r.registerError? agent := by
  rw [registerError?, registerError?, hagents, hroles]

theorem routeError?_congr {r r' : AgentRegistry} (hagents : r'.agents = r.agents)
    (hroles : r'.roles = r.roles) (route : HandoffRoute) :
    r'.routeError? route = r.routeError? route := by
  rw [routeError?, routeError?, getByRole, getByRole, hagents, hroles]

theorem fallbackError?_congr {r r' : AgentRegistry} (hroles : r'.roles = r.roles)
    (policy : HandoffFallbackPolicy) : r'.fallbackError? policy = r.fallbackError? policy := by
  rw [fallbackError?, fallbackError?, hroles]

theorem priorityError?_congr {r r' : AgentRegistry} (hroles : r'.roles = r.roles)
    (policy : HandoffFallbackPolicy) : r'.priorityError? policy = r.priorityError? policy := by
  rw [priorityError?, priorityError?, hroles]

theorem fallbacksWritten_congr {r r' : AgentRegistry} (hroles : r'.roles = r.roles)
    (policies : List HandoffFallbackPolicy) :
    r'.fallbacksWritten policies = r.fallbacksWritten policies := by
  induction policies with
  | nil => rfl
  | cons policy policies ih =>
    rw [fallbacksWritten, fallbacksWritten, fallbackError?_congr hroles,
      priorityError?_congr hroles, ih]

theorem admitted_congr {r r' : AgentRegistry} (hagents : r'.agents = r.agents)
    (hroles : r'.roles = r.roles) (agents : List AgentSpec) :
    r'.admitted agents = r.admitted agents := by
  induction agents generalizing r r' with
  | nil => rfl
  | cons agent agents ih =>
    have hlater : (r'.put agent).admitted agents = (r.put agent).admitted agents :=
      ih (by rw [put, put, hagents]) (by rw [put, put, hroles])
    rw [admitted, admitted, registerError?_congr hagents hroles, hlater]

/-- Nothing is raised for the policy. -/
def Accepts (policy : HandoffFallbackPolicy) (r : AgentRegistry) : Prop :=
  r.fallbackError? policy = none ∧ r.priorityError? policy = none

instance (policy : HandoffFallbackPolicy) (r : AgentRegistry) : Decidable (r.Accepts policy) :=
  inferInstanceAs (Decidable (_ ∧ _))

theorem accepts_congr {r r' : AgentRegistry} (hroles : r'.roles = r.roles)
    (policy : HandoffFallbackPolicy) : r'.Accepts policy ↔ r.Accepts policy := by
  rw [Accepts, Accepts, fallbackError?_congr hroles, priorityError?_congr hroles]

end AgentRegistry

namespace AgentPlugin

/-- Everything that a plugin brings. -/
def all (plugin : AgentPlugin) : Declared :=
  ⟨plugin.agents, plugin.routes, plugin.fallbackPolicies, plugin.fallbackPolicies⟩

/-- The registry once the agents of a plugin are in it, as far as they are admitted. -/
def withAgents (plugin : AgentPlugin) (r : AgentRegistry) : AgentRegistry :=
  { agents := r.admitted plugin.agents : Declared }.writeTo r

/-- All agents of a plugin are admitted. -/
def AgentsFit (plugin : AgentPlugin) (r : AgentRegistry) : Prop :=
  (r.admitted plugin.agents).length = plugin.agents.length

/-- And so are all its routes. -/
def RoutesFit (plugin : AgentPlugin) (r : AgentRegistry) : Prop :=
  plugin.AgentsFit r ∧ ∀ route ∈ plugin.routes, (plugin.withAgents r).routeError? route = none

/-- Nothing of a plugin is refused. -/
def Fits (plugin : AgentPlugin) (r : AgentRegistry) : Prop :=
  plugin.RoutesFit r ∧ ∀ policy ∈ plugin.fallbackPolicies, (plugin.withAgents r).Accepts policy

section Decidable

variable (plugin : AgentPlugin) (r : AgentRegistry)

instance : Decidable (plugin.AgentsFit r) := inferInstanceAs (Decidable (_ = _))
instance : Decidable (plugin.RoutesFit r) := inferInstanceAs (Decidable (_ ∧ _))
instance : Decidable (plugin.Fits r) := inferInstanceAs (Decidable (_ ∧ _))

end Decidable

/-- What a plugin has written when something of it is refused, or nothing is. -/
def declared (plugin : AgentPlugin) (r : AgentRegistry) : Declared where
  agents := r.admitted plugin.agents
  routes :=
    if plugin.AgentsFit r then
      plugin.routes.takeWhile fun route ↦ (plugin.withAgents r).routeError? route = none
    else []
  fallbacks :=
    if plugin.RoutesFit r then (plugin.withAgents r).fallbacksWritten plugin.fallbackPolicies
    else []
  priorities :=
    if plugin.RoutesFit r then
      plugin.fallbackPolicies.takeWhile fun policy ↦ (plugin.withAgents r).Accepts policy
    else []

end AgentPlugin

theorem fits_congr {r r' : AgentRegistry} (hagents : r'.agents = r.agents)
    (hroles : r'.roles = r.roles) (plugin : AgentPlugin) : plugin.Fits r' ↔ plugin.Fits r := by
  have hadmitted := AgentRegistry.admitted_congr hagents hroles plugin.agents
  have hagents' : (plugin.withAgents r').agents = (plugin.withAgents r).agents := by
    simp only [AgentPlugin.withAgents, Declared.writeTo, hadmitted, hagents]
  have hroles' : (plugin.withAgents r').roles = (plugin.withAgents r).roles := by
    simp only [AgentPlugin.withAgents, Declared.writeTo, hadmitted, hroles]
  simp only [AgentPlugin.Fits, AgentPlugin.RoutesFit, AgentPlugin.AgentsFit, hadmitted,
    AgentRegistry.routeError?_congr hagents' hroles', AgentRegistry.accepts_congr hroles']

/-! ### One table after the other -/

theorem registerAll_eq (agents : List AgentSpec) (r : AgentRegistry) :
    ((registerAll agents r).1 = none ↔ (r.admitted agents).length = agents.length) ∧
      (registerAll agents r).2 =
        ({ agents := r.admitted agents : Declared }.agentIds,
          { agents := r.admitted agents : Declared }.writeTo r) := by
  induction agents generalizing r with
  | nil => exact ⟨by simp [registerAll, AgentRegistry.admitted], rfl⟩
  | cons agent agents ih =>
    cases hagent : r.registerError? agent with
    | some error =>
      simp only [registerAll, AgentRegistry.register, AgentRegistry.admitted, hagent]
      exact ⟨by simp, rfl⟩
    | none =>
      obtain ⟨herror, hrest⟩ := ih (r.put agent)
      simp only [registerAll, AgentRegistry.register, AgentRegistry.admitted, hagent, if_pos]
      refine ⟨by rw [herror, List.length_cons, List.length_cons, Nat.add_right_cancel_iff], ?_⟩
      change (agent.agentId :: (registerAll agents (r.put agent)).2.1,
        (registerAll agents (r.put agent)).2.2) = _
      rw [hrest]
      rfl

theorem declareAll_addHandoffRoute (routes : List HandoffRoute) (r : AgentRegistry) :
    ((declareAll AgentRegistry.addHandoffRoute routes r).1 = none ↔
        ∀ route ∈ routes, r.routeError? route = none) ∧
      (declareAll AgentRegistry.addHandoffRoute routes r).2 =
        { routes := routes.takeWhile fun route ↦ r.routeError? route = none : Declared }.writeTo
          r := by
  induction routes generalizing r with
  | nil => exact ⟨by simp [declareAll], rfl⟩
  | cons route routes ih =>
    cases hroute : r.routeError? route with
    | some error =>
      simp only [declareAll, AgentRegistry.addHandoffRoute, hroute]
      refine ⟨by simp [hroute], ?_⟩
      rw [List.takeWhile_cons_of_neg (by simp [hroute])]
      rfl
    | none =>
      -- Filing a route changes neither agents nor roles, so later routes fare as before.
      obtain ⟨herror, hrest⟩ := ih (r.putRoute route)
      simp only [declareAll, AgentRegistry.addHandoffRoute, hroute]
      refine ⟨by rw [herror, List.forall_mem_cons, and_iff_right hroute]; rfl, ?_⟩
      rw [hrest, List.takeWhile_cons_of_pos (by simp [hroute])]
      rfl

theorem declareAll_setHandoffFallbackPolicy (policies : List HandoffFallbackPolicy)
    (r : AgentRegistry) :
    ((declareAll AgentRegistry.setHandoffFallbackPolicy policies r).1 = none ↔
        ∀ policy ∈ policies, r.Accepts policy) ∧
      (declareAll AgentRegistry.setHandoffFallbackPolicy policies r).2 =
        { fallbacks := r.fallbacksWritten policies
          priorities := policies.takeWhile fun policy ↦ r.Accepts policy : Declared }.writeTo
          r := by
  induction policies generalizing r with
  | nil => exact ⟨by simp [declareAll], rfl⟩
  | cons policy policies ih =>
    rw [AgentRegistry.fallbacksWritten, List.forall_mem_cons]
    cases hfallback : r.fallbackError? policy with
    | some error =>
      have hnot : ¬r.Accepts policy := by simp [AgentRegistry.Accepts, hfallback]
      simp only [declareAll, AgentRegistry.setHandoffFallbackPolicy, hfallback]
      refine ⟨by simp [hnot], ?_⟩
      rw [List.takeWhile_cons_of_neg (by simp [hnot])]
      rfl
    | none =>
      cases hpriority : r.priorityError? policy with
      | some error =>
        have hnot : ¬r.Accepts policy := by simp [AgentRegistry.Accepts, hpriority]
        have hwritten : (r.putFallback policy).priorityError? policy = some error := hpriority
        simp only [declareAll, AgentRegistry.setHandoffFallbackPolicy, hfallback, hwritten]
        refine ⟨by simp [hnot], ?_⟩
        rw [List.takeWhile_cons_of_neg (by simp [hnot])]
        rfl
      | none =>
        have hyes : r.Accepts policy := ⟨hfallback, hpriority⟩
        have hwritten : (r.putFallback policy).priorityError? policy = none := hpriority
        obtain ⟨herror, hrest⟩ := ih ((r.putFallback policy).putPriorities policy)
        simp only [declareAll, AgentRegistry.setHandoffFallbackPolicy, hfallback, hwritten]
        refine ⟨by rw [herror, and_iff_right hyes]; rfl, ?_⟩
        have hlater : ((r.putFallback policy).putPriorities policy).fallbacksWritten policies =
            r.fallbacksWritten policies := AgentRegistry.fallbacksWritten_congr (by rfl) policies
        rw [hrest, List.takeWhile_cons_of_pos (by simp [hyes]), hlater]
        rfl

/-- **A load writes what is declared**, and raises unless that is everything. -/
theorem declare_eq (plugin : AgentPlugin) (r : AgentRegistry) :
    ((plugin.declare r).1 = none ↔ plugin.Fits r) ∧
      (plugin.declare r).2 =
        ((plugin.declared r).agentIds, (plugin.declared r).writeTo r) := by
  obtain ⟨hagents, hregistered⟩ := registerAll_eq plugin.agents r
  obtain ⟨hroutes, hrouted⟩ := declareAll_addHandoffRoute plugin.routes (plugin.withAgents r)
  rw [AgentPlugin.Fits, AgentPlugin.declared, AgentPlugin.declare]
  rcases hregister : registerAll plugin.agents r with ⟨_ | error, registeredIds, r'⟩
  · rw [hregister] at hagents hregistered
    have hfit : plugin.AgentsFit r := hagents.mp rfl
    obtain ⟨rfl, hr'⟩ := Prod.mk.inj hregistered
    obtain rfl : r' = plugin.withAgents r := hr'
    have hiff : plugin.RoutesFit r ↔ _ := and_iff_right hfit
    rcases hdeclare : declareAll AgentRegistry.addHandoffRoute plugin.routes (plugin.withAgents r)
      with ⟨_ | error, r'⟩
    · rw [hdeclare] at hroutes hrouted
      have hroutesFit : plugin.RoutesFit r := hiff.mpr (hroutes.mp rfl)
      change r' = _ at hrouted
      have hroles : r'.roles = (plugin.withAgents r).roles := by rw [hrouted]; rfl
      obtain ⟨hpolicies, hconfigured⟩ :=
        declareAll_setHandoffFallbackPolicy plugin.fallbackPolicies r'
      rw [if_pos hfit, if_pos hroutesFit, if_pos hroutesFit, and_iff_right hroutesFit]
      simp only [hdeclare]
      constructor
      · rw [hpolicies]
        simp only [AgentRegistry.accepts_congr hroles]
      · rw [hconfigured, AgentRegistry.fallbacksWritten_congr hroles, hrouted]
        rfl
    · rw [hdeclare] at hroutes hrouted
      have hnot : ¬plugin.RoutesFit r := fun hroutesFit ↦ nomatch hroutes.mpr (hiff.mp hroutesFit)
      simp only [hdeclare, hfit, hnot, if_true, if_false, false_and]
      exact ⟨⟨fun h ↦ (nomatch h), False.elim⟩, congrArg _ hrouted⟩
  · rw [hregister] at hagents hregistered
    have hnot : ¬plugin.AgentsFit r := fun hfit ↦ nomatch hagents.mpr hfit
    simp only [AgentPlugin.RoutesFit, hnot, if_false, false_and]
    exact ⟨⟨fun h ↦ (nomatch h), False.elim⟩, hregistered⟩

/-! ### Everything is written -/

theorem admitted_isPrefix (agents : List AgentSpec) (r : AgentRegistry) :
    r.admitted agents <+: agents := by
  induction agents generalizing r with
  | nil => exact List.nil_prefix
  | cons agent agents ih =>
    rw [AgentRegistry.admitted]
    split
    · exact List.cons_prefix_cons.mpr ⟨rfl, ih _⟩
    · exact List.nil_prefix

theorem fallbacksWritten_eq_self {policies : List HandoffFallbackPolicy} {r : AgentRegistry}
    (h : ∀ policy ∈ policies, r.Accepts policy) : r.fallbacksWritten policies = policies := by
  induction policies with
  | nil => rfl
  | cons policy policies ih =>
    obtain ⟨⟨hfallback, hpriority⟩, hrest⟩ := List.forall_mem_cons.mp h
    rw [AgentRegistry.fallbacksWritten, if_neg (not_not.mpr hfallback),
      if_neg (not_not.mpr hpriority), ih hrest]

/-- A plugin of which nothing is refused writes everything. -/
theorem AgentPlugin.Fits.declared_eq {plugin : AgentPlugin} {r : AgentRegistry}
    (h : plugin.Fits r) : plugin.declared r = plugin.all := by
  obtain ⟨hroutes, hpolicies⟩ := h
  have hagents : r.admitted plugin.agents = plugin.agents :=
    (admitted_isPrefix plugin.agents r).eq_of_length hroutes.1
  rw [AgentPlugin.declared, if_pos hroutes.1, if_pos hroutes, if_pos hroutes, hagents,
    List.takeWhile_eq_self_iff.mpr fun route hroute ↦ decide_eq_true (hroutes.2 route hroute),
    List.takeWhile_eq_self_iff.mpr fun policy hpolicy ↦ decide_eq_true (hpolicies policy hpolicy),
    fallbacksWritten_eq_self hpolicies]
  rfl

/-! ## What is undone -/

namespace AgentRegistry

/-- The roles of agents, as far as they are there. -/
def rolesOf (agentIds : List String) (r : AgentRegistry) : List String :=
  agentIds.filterMap fun agentId ↦ (r.agents.get? agentId).map AgentSpec.role

theorem mem_rolesOf {agentIds : List String} {r : AgentRegistry} {role : String} :
    role ∈ r.rolesOf agentIds ↔
      ∃ agentId ∈ agentIds, ∃ agent, r.agents.get? agentId = some agent ∧ agent.role = role := by
  simp only [rolesOf, List.mem_filterMap, Option.map_eq_some_iff]

theorem drop_congr {ids ids' dropped dropped' : List String} (hids : ∀ x, x ∈ ids ↔ x ∈ ids')
    (hdropped : ∀ x, x ∈ dropped ↔ x ∈ dropped') (r : AgentRegistry) :
    r.drop ids dropped = r.drop ids' dropped' := by
  simp only [drop, hids, hdropped]

/-- Dropping twice is dropping everything at once. -/
theorem drop_drop (ids ids' dropped dropped' : List String) (r : AgentRegistry) :
    (r.drop ids dropped).drop ids' dropped' = r.drop (ids ++ ids') (dropped ++ dropped') := by
  simp only [drop, mk.injEq]
  refine ⟨?_, ?_, ?_, ?_, ?_⟩
  · rw [Dict.filter_filter]
    refine Dict.filter_congr fun agentId _ _ ↦ ?_
    simp
  · rw [Dict.filter_filter]
    refine Dict.filter_congr fun role _ _ ↦ ?_
    simp
  · rw [Dict.filter_filter]
    refine Dict.filter_congr fun key _ _ ↦ ?_
    simp only [List.mem_append, Bool.and_eq_decide, decide_eq_true_eq]
    refine decide_eq_decide.mpr ?_
    tauto
  · rw [Dict.filter_mapVals, Dict.mapVals_mapVals, Dict.filter_filter]
    congr 1
    · funext _ roles
      rw [List.filter_filter]
      exact List.filter_congr fun role _ ↦ by simp [Bool.and_comm]
    · exact Dict.filter_congr fun key _ _ ↦ by simp
  · rw [Dict.filter_mapVals, Dict.mapVals_mapVals, Dict.filter_filter]
    congr 1
    · funext _ priorities
      rw [Dict.filter_filter]
      exact Dict.filter_congr fun role _ _ ↦ by simp
    · exact Dict.filter_congr fun key _ _ ↦ by simp

theorem drop_nil (r : AgentRegistry) : r.drop [] [] = r := by
  simp only [drop, List.not_mem_nil, not_false_eq_true, decide_true, and_self, List.filter_true,
    Dict.filter_eq_self (fun _ _ _ ↦ rfl), Dict.mapVals_eq_self (fun _ _ _ ↦ rfl)]

/-- An agent that is not there need not be dropped. -/
theorem drop_of_get?_eq_none {agentId : String} {r : AgentRegistry}
    (h : r.agents.get? agentId = none) (agentIds dropped : List String) :
    r.drop (agentId :: agentIds) dropped = r.drop agentIds dropped := by
  simp only [drop, mk.injEq, and_true]
  refine Dict.filter_congr fun found agent hfound ↦ ?_
  have hne : found ≠ agentId := by
    rintro rfl
    rw [h] at hfound
    cases hfound
  simp [hne]

/-- **Unregistering agents one after the other** is dropping them with their roles. -/
theorem unregisterAll_eq (agentIds : List String) (r : AgentRegistry) :
    unregisterAll agentIds r = r.drop agentIds (r.rolesOf agentIds) := by
  induction agentIds generalizing r with
  | nil => exact r.drop_nil.symm
  | cons agentId agentIds ih =>
    change unregisterAll agentIds (r.unregister agentId).2 = _
    rw [rolesOf, List.filterMap_cons]
    cases hagent : r.agents.get? agentId with
    | none =>
      simp only [unregister, hagent]
      rw [ih, drop_of_get?_eq_none hagent]
      rfl
    | some agent =>
      simp only [unregister, hagent]
      rw [ih, drop_drop]
      refine drop_congr (fun _ ↦ Iff.rfl) (fun role ↦ ?_) r
      -- The role of an agent that is listed twice is not found the second time.
      change role ∈ agent.role :: (r.drop [agentId] [agent.role]).rolesOf agentIds ↔
        role ∈ agent.role :: r.rolesOf agentIds
      rw [List.mem_cons, List.mem_cons, mem_rolesOf, mem_rolesOf]
      constructor
      · rintro (rfl | ⟨other, hother, found, hfound, rfl⟩)
        · exact .inl rfl
        · simp only [drop, Dict.get?_filter, Option.filter_eq_some_iff] at hfound
          exact .inr ⟨other, hother, found, hfound.1, rfl⟩
      · rintro (rfl | ⟨other, hother, found, hfound, rfl⟩)
        · exact .inl rfl
        · by_cases hsame : other = agentId
          · subst hsame
            rw [hagent, Option.some.injEq] at hfound
            exact .inl (congrArg AgentSpec.role hfound.symm)
          · refine .inr ⟨other, hother, found, ?_, rfl⟩
            simp only [drop, Dict.get?_filter, Option.filter_eq_some_iff]
            exact ⟨hfound, by simpa using hsame⟩

end AgentRegistry

/-! ### The agents of a load are new -/

/-- The ids and roles of agents that are admitted are free, and no id repeats. -/
theorem admitted_fresh (agents : List AgentSpec) (r : AgentRegistry) :
    ((r.admitted agents).map AgentSpec.agentId).Nodup ∧
      ∀ agent ∈ r.admitted agents, agent.agentId ∉ r.agents.keys ∧ agent.role ∉ r.roles.keys := by
  induction agents generalizing r with
  | nil => exact ⟨List.nodup_nil, fun agent h ↦ nomatch h⟩
  | cons agent agents ih =>
    rw [AgentRegistry.admitted]
    split
    · rename_i hagent
      obtain ⟨-, -, hid, hrole⟩ := AgentRegistry.registerError?_eq_none.mp hagent
      obtain ⟨hnodup, hfree⟩ := ih (r.put agent)
      have hlater : ∀ later ∈ (r.put agent).admitted agents, later.agentId ≠ agent.agentId ∧
          later.agentId ∉ r.agents.keys ∧ later.role ∉ r.roles.keys := by
        intro later hmem
        obtain ⟨hid', hrole'⟩ := hfree later hmem
        rw [AgentRegistry.put, Dict.mem_keys_set, not_or] at hid' hrole'
        exact ⟨hid'.1, hid'.2, hrole'.2⟩
      refine ⟨?_, List.forall_mem_cons.mpr ⟨⟨hid, hrole⟩, fun later hmem ↦ (hlater later hmem).2⟩⟩
      rw [List.map_cons, List.nodup_cons]
      refine ⟨fun hmem ↦ ?_, hnodup⟩
      obtain ⟨later, hmem, heq⟩ := List.mem_map.mp hmem
      exact (hlater later hmem).1 heq
    · exact ⟨List.nodup_nil, fun agent h ↦ nomatch h⟩

namespace Declared

variable {d : Declared} {r : AgentRegistry}

/-- The agents are new to a registry. -/
structure Fresh (d : Declared) (r : AgentRegistry) : Prop where
  nodup : d.agentIds.Nodup
  agentId_free : ∀ agent ∈ d.agents, agent.agentId ∉ r.agents.keys
  role_free : ∀ agent ∈ d.agents, agent.role ∉ r.roles.keys

theorem fresh_declared (plugin : AgentPlugin) (r : AgentRegistry) : (plugin.declared r).Fresh r where
  nodup := (admitted_fresh plugin.agents r).1
  agentId_free agent h := ((admitted_fresh plugin.agents r).2 agent h).1
  role_free agent h := ((admitted_fresh plugin.agents r).2 agent h).2

theorem get?_agents_writeTo (h : d.agentIds.Nodup) {agent : AgentSpec} (hagent : agent ∈ d.agents) :
    (d.writeTo r).agents.get? agent.agentId = some agent := by
  rw [writeTo, Dict.get?_foldl_set]
  cases hlast : Dict.lastWritten AgentSpec.agentId (fun agent ↦ agent) d.agents agent.agentId with
  | none => exact absurd rfl (Dict.lastWritten_eq_none.mp hlast agent hagent)
  | some found =>
    obtain ⟨found, hfound, hid, rfl⟩ := Dict.lastWritten_eq_some hlast
    rw [List.inj_on_of_nodup_map h hfound hagent hid]
    rfl

/-- What is left of the entries when their agents are dropped again. -/
def undo (d : Declared) (r : AgentRegistry) : AgentRegistry :=
  (d.writeTo r).drop d.agentIds d.roles

/-- **The rollback.** -/
theorem unregisterAll_writeTo (h : d.agentIds.Nodup) :
    unregisterAll d.agentIds.reverse (d.writeTo r) = d.undo r := by
  rw [AgentRegistry.unregisterAll_eq]
  refine AgentRegistry.drop_congr (fun _ ↦ List.mem_reverse) (fun role ↦ ?_) _
  rw [AgentRegistry.mem_rolesOf, roles, List.mem_map]
  constructor
  · rintro ⟨agentId, hmem, found, hfound, rfl⟩
    obtain ⟨agent, hagent, rfl⟩ := List.mem_map.mp (List.mem_reverse.mp hmem)
    rw [get?_agents_writeTo h hagent, Option.some.injEq] at hfound
    exact ⟨found, hfound ▸ hagent, rfl⟩
  · rintro ⟨agent, hagent, rfl⟩
    exact ⟨agent.agentId, List.mem_reverse.mpr (List.mem_map_of_mem hagent), agent,
      get?_agents_writeTo h hagent, rfl⟩

theorem agents_undo (h : d.Fresh r) : (d.undo r).agents = r.agents := by
  calc (d.undo r).agents
      = (d.agents.foldl (fun agents agent ↦ agents.set agent.agentId agent) r.agents).filter
          fun agentId _ ↦ agentId ∉ d.agentIds := rfl
    _ = r.agents.filter fun agentId _ ↦ agentId ∉ d.agentIds := by
        refine Dict.filter_foldl_set_of_false (fun agent hagent _ ↦ ?_) _
        exact decide_eq_false (not_not.mpr (List.mem_map_of_mem hagent))
    _ = r.agents := by
        refine Dict.filter_eq_self fun agentId agent hfound ↦ decide_eq_true fun hmem ↦ ?_
        obtain ⟨agent', hagent', rfl⟩ := List.mem_map.mp hmem
        exact h.agentId_free agent' hagent' (Dict.mem_keys_iff.mpr ⟨agent, hfound⟩)

theorem roles_undo (h : d.Fresh r) : (d.undo r).roles = r.roles := by
  calc (d.undo r).roles
      = (d.agents.foldl (fun roles agent ↦ roles.set agent.role agent.agentId) r.roles).filter
          fun role _ ↦ role ∉ d.roles := rfl
    _ = r.roles.filter fun role _ ↦ role ∉ d.roles := by
        refine Dict.filter_foldl_set_of_false (fun agent hagent _ ↦ ?_) _
        exact decide_eq_false (not_not.mpr (List.mem_map_of_mem hagent))
    _ = r.roles := by
        refine Dict.filter_eq_self fun role agentId hfound ↦ decide_eq_true fun hmem ↦ ?_
        obtain ⟨agent, hagent, rfl⟩ := List.mem_map.mp hmem
        exact h.role_free agent hagent (Dict.mem_keys_iff.mpr ⟨agentId, hfound⟩)

end Declared

/-! ## One entry -/

/-- What is left of an entry when it may be dropped, and is cleaned if it is not. -/
def leave {ν : Type} (dropped : Prop) [Decidable dropped] (clean : ν → ν) (entry : Option ν) :
    Option ν :=
  if dropped then none else entry.map clean

theorem leave_eq {ν : Type} {dropped : Prop} [Decidable dropped] {kept : ν → Bool} {clean : ν → ν}
    (hkept : ∀ x, kept x = decide ¬dropped) (entry : Option ν) :
    (entry.filter kept).map clean = leave dropped clean entry := by
  cases entry with
  | none => simp [leave]
  | some x => by_cases h : dropped <;> simp [leave, Option.filter, hkept, h]

/-- Between its old value and the end, an entry is dropped or cleaned, may be written by a load that
fails, is dropped or cleaned by the rollback, and may be written again.  In the end it stands. -/
structure Stands {ν : Type} (old : Option ν) (dropped : Prop) (clean : ν → ν)
    (written : Option ν) (undone : Prop) (purge : ν → ν) (again : Option ν) : Prop where
  /-- What is written again was there before. -/
  again_eq : ∀ {x}, again = some x → old = some x
  /-- What the rollback drops was not. -/
  undone_eq : again = none → undone → old = none
  /-- What is left of what the failed load has written was there before. -/
  written_eq : again = none → ¬undone → ∀ {x}, written = some x → old = some (purge x)
  /-- What was dropped in the beginning was not there. -/
  dropped_eq : again = none → ¬undone → written = none → dropped → old = none
  /-- What was cleaned was clean. -/
  clean_eq : again = none → ¬undone → written = none → ¬dropped →
    ∀ {x}, old = some x → purge (clean x) = x

theorem stands_iff {ν : Type} {old : Option ν} {dropped : Prop} [Decidable dropped] {clean : ν → ν}
    {written : Option ν} {undone : Prop} [Decidable undone] {purge : ν → ν} {again : Option ν} :
    again.or (leave undone purge (written.or (leave dropped clean old))) = old ↔
      Stands old dropped clean written undone purge again := by
  constructor
  · intro h
    refine ⟨?_, ?_, ?_, ?_, ?_⟩
    · rintro x rfl
      exact h.symm
    · rintro rfl hundone
      rw [← h, Option.none_or, leave, if_pos hundone]
    · rintro rfl hundone x rfl
      rw [← h, Option.none_or, leave, if_neg hundone]
      rfl
    · rintro rfl hundone rfl hdropped
      rw [← h, Option.none_or, Option.none_or, leave, if_neg hundone, leave, if_pos hdropped]
      rfl
    · rintro rfl hundone rfl hdropped x rfl
      rw [Option.none_or, Option.none_or, leave, if_neg hundone, leave, if_neg hdropped] at h
      exact Option.some.inj h
  · intro h
    cases hagain : again with
    | some x => exact (h.again_eq hagain).symm
    | none =>
      rw [Option.none_or, leave]
      split
      · exact (h.undone_eq hagain ‹_›).symm
      · rename_i hundone
        cases hwritten : written with
        | some x => exact (h.written_eq hagain hundone hwritten).symm
        | none =>
          rw [Option.none_or, leave]
          split
          · exact (h.dropped_eq hagain hundone hwritten ‹_›).symm
          · rename_i hdropped
            cases hold : old with
            | none => rfl
            | some x => exact congrArg some (h.clean_eq hagain hundone hwritten hdropped hold)

/-! ## The tables of roles -/

/-- The names of a key are not both known to be others. -/
def Touches (names : List String) (key : String × String) : Prop := key.1 ∈ names ∨ key.2 ∈ names

instance (names : List String) (key : String × String) : Decidable (Touches names key) :=
  inferInstanceAs (Decidable (_ ∨ _))

/-- Roles, without some of them. -/
def withoutRoles (names roles : List String) : List String := roles.filter fun role ↦ role ∉ names

/-- Priorities as they are looked up, without those of some roles. -/
def withoutPriorities (names : List String) (priority : String → Option Int) (role : String) :
    Option Int :=
  if role ∈ names then none else priority role

namespace AgentRegistry

/-- The priorities under a key, as they are looked up. -/
def priorities (r : AgentRegistry) (key : String × String) : Option (String → Option Int) :=
  (r.fallbackRolePriorities.get? key).map Dict.get?

variable (ids names : List String) (r : AgentRegistry) (key : String × String)

theorem get?_routes_drop :
    (r.drop ids names).routes.get? key = leave (Touches names key) id (r.routes.get? key) := by
  rw [drop, Dict.get?_filter, ← leave_eq fun _ ↦ ?_, Option.map_id, id]
  exact decide_eq_decide.mpr not_or.symm

theorem get?_fallbackRoles_drop : (r.drop ids names).fallbackRoles.get? key =
    leave (key.1 ∈ names) (withoutRoles names) (r.fallbackRoles.get? key) := by
  rw [drop, Dict.get?_mapVals, Dict.get?_filter, ← leave_eq fun _ ↦ rfl]
  rfl

theorem get?_without_roles (priorities : Dict String Int) :
    (priorities.filter fun role _ ↦ role ∉ names).get? = withoutPriorities names priorities.get? := by
  funext role
  rw [Dict.get?_filter, withoutPriorities]
  by_cases h : role ∈ names <;> cases priorities.get? role <;> simp [h, Option.filter]

theorem priorities_drop : (r.drop ids names).priorities key =
    leave (key.1 ∈ names) (withoutPriorities names) (r.priorities key) := by
  have hget : ((r.drop ids names).fallbackRolePriorities.get? key) =
      leave (key.1 ∈ names) (fun priorities ↦ priorities.filter fun role _ ↦ role ∉ names)
        (r.fallbackRolePriorities.get? key) := by
    rw [drop, Dict.get?_mapVals, Dict.get?_filter, ← leave_eq fun _ ↦ rfl]
  rw [priorities, priorities, hget, leave, leave]
  split
  · rfl
  · rw [Option.map_map, Option.map_map]
    exact congrArg (Option.map · _) (funext (get?_without_roles names))

end AgentRegistry

/-- Registries in which everything is looked up alike. -/
structure AgentRegistry.Same (r r' : AgentRegistry) : Prop where
  agents_eq : ∀ agentId, r'.agents.get? agentId = r.agents.get? agentId
  roles_eq : ∀ role, r'.roles.get? role = r.roles.get? role
  routes_eq : ∀ key, r'.routes.get? key = r.routes.get? key
  fallbackRoles_eq : ∀ key, r'.fallbackRoles.get? key = r.fallbackRoles.get? key
  priorities_eq : ∀ key, r'.priorities key = r.priorities key

/-- What `previous` has declared is dropped, `d` is declared and undone, and `previous` is declared
again: every entry of the tables of roles stands. -/
structure Restored (r : AgentRegistry) (d previous : Declared) : Prop where
  routes : ∀ key, Stands (r.routes.get? key) (Touches previous.roles key) id
    (Dict.lastWritten HandoffRoute.key (fun route ↦ route) d.routes key) (Touches d.roles key) id
    (Dict.lastWritten HandoffRoute.key (fun route ↦ route) previous.routes key)
  fallbacks : ∀ key, Stands (r.fallbackRoles.get? key) (key.1 ∈ previous.roles)
    (withoutRoles previous.roles)
    (Dict.lastWritten HandoffFallbackPolicy.key HandoffFallbackPolicy.normalizedRoles
      d.fallbacks key)
    (key.1 ∈ d.roles) (withoutRoles d.roles)
    (Dict.lastWritten HandoffFallbackPolicy.key HandoffFallbackPolicy.normalizedRoles
      previous.fallbacks key)
  priorities : ∀ key, Stands (r.priorities key) (key.1 ∈ previous.roles)
    (withoutPriorities previous.roles)
    (Dict.lastWritten HandoffFallbackPolicy.key (fun policy ↦ policy.normalizedPriorities.get?)
      d.priorities key)
    (key.1 ∈ d.roles) (withoutPriorities d.roles)
    (Dict.lastWritten HandoffFallbackPolicy.key (fun policy ↦ policy.normalizedPriorities.get?)
      previous.priorities key)

namespace Declared

variable {d previous : Declared} {r : AgentRegistry}

theorem priorities_writeTo (d : Declared) (r : AgentRegistry) (key : String × String) :
    (d.writeTo r).priorities key =
      (Dict.lastWritten HandoffFallbackPolicy.key (fun policy ↦ policy.normalizedPriorities.get?)
        d.priorities key).or (r.priorities key) := by
  rw [AgentRegistry.priorities, writeTo, Dict.get?_foldl_set, Option.map_or, Dict.lastWritten,
    Option.map_map]
  rfl

/-- The registry after `previous` has been dropped, `d` declared and undone, and `previous` declared
again. -/
def replay (d previous : Declared) (r : AgentRegistry) : AgentRegistry :=
  previous.writeTo (d.undo (r.drop previous.agentIds previous.roles))

theorem routes_replay (key : String × String) :
    (replay d previous r).routes.get? key = r.routes.get? key ↔
      Stands (r.routes.get? key) (Touches previous.roles key) id
        (Dict.lastWritten HandoffRoute.key (fun route ↦ route) d.routes key)
        (Touches d.roles key) id
        (Dict.lastWritten HandoffRoute.key (fun route ↦ route) previous.routes key) := by
  rw [← stands_iff, replay, writeTo, Dict.get?_foldl_set, undo, AgentRegistry.get?_routes_drop,
    writeTo, Dict.get?_foldl_set, AgentRegistry.get?_routes_drop]

theorem fallbacks_replay (key : String × String) :
    (replay d previous r).fallbackRoles.get? key = r.fallbackRoles.get? key ↔
      Stands (r.fallbackRoles.get? key) (key.1 ∈ previous.roles) (withoutRoles previous.roles)
        (Dict.lastWritten HandoffFallbackPolicy.key HandoffFallbackPolicy.normalizedRoles
          d.fallbacks key)
        (key.1 ∈ d.roles) (withoutRoles d.roles)
        (Dict.lastWritten HandoffFallbackPolicy.key HandoffFallbackPolicy.normalizedRoles
          previous.fallbacks key) := by
  rw [← stands_iff, replay, writeTo, Dict.get?_foldl_set, undo,
    AgentRegistry.get?_fallbackRoles_drop, writeTo, Dict.get?_foldl_set,
    AgentRegistry.get?_fallbackRoles_drop]

theorem priorities_replay (key : String × String) :
    (replay d previous r).priorities key = r.priorities key ↔
      Stands (r.priorities key) (key.1 ∈ previous.roles) (withoutPriorities previous.roles)
        (Dict.lastWritten HandoffFallbackPolicy.key
          (fun policy ↦ policy.normalizedPriorities.get?) d.priorities key)
        (key.1 ∈ d.roles) (withoutPriorities d.roles)
        (Dict.lastWritten HandoffFallbackPolicy.key
          (fun policy ↦ policy.normalizedPriorities.get?) previous.priorities key) := by
  rw [← stands_iff, replay, priorities_writeTo, undo, AgentRegistry.priorities_drop,
    priorities_writeTo, AgentRegistry.priorities_drop]

/-- **The tables of roles**, after everything that may happen in a call that fails. -/
theorem restored_iff : Restored r d previous ↔
    (∀ key, (replay d previous r).routes.get? key = r.routes.get? key) ∧
      (∀ key, (replay d previous r).fallbackRoles.get? key = r.fallbackRoles.get? key) ∧
      ∀ key, (replay d previous r).priorities key = r.priorities key := by
  simp only [routes_replay, fallbacks_replay, priorities_replay]
  exact ⟨fun h ↦ ⟨h.routes, h.fallbacks, h.priorities⟩, fun ⟨h1, h2, h3⟩ ↦ ⟨h1, h2, h3⟩⟩

/-- **The agents**, when those of `d` are new. -/
theorem agents_replay (h : d.Fresh (r.drop previous.agentIds previous.roles))
    (hnodup : previous.agentIds.Nodup) :
    (∀ agentId, (replay d previous r).agents.get? agentId = r.agents.get? agentId) ↔
      ∀ agent ∈ previous.agents, r.agents.get? agent.agentId = some agent := by
  constructor
  · intro hsame agent hagent
    rw [← hsame, replay, get?_agents_writeTo hnodup hagent]
  · intro hthere agentId
    rw [replay, writeTo, Dict.get?_foldl_set, agents_undo h, AgentRegistry.drop, Dict.get?_filter]
    cases hlast : Dict.lastWritten AgentSpec.agentId (fun agent ↦ agent) previous.agents agentId with
    | some found =>
      obtain ⟨agent, hagent, rfl, rfl⟩ := Dict.lastWritten_eq_some hlast
      exact (hthere agent hagent).symm
    | none =>
      have hother : agentId ∉ previous.agentIds := by
        rintro hmem
        obtain ⟨agent, hagent, rfl⟩ := List.mem_map.mp hmem
        exact Dict.lastWritten_eq_none.mp hlast agent hagent rfl
      cases r.agents.get? agentId <;> simp [Option.filter, hother]

end Declared

/-- Where agents and roles belong together, the roles go with the agents. -/
theorem AgentRegistry.Inv.roles_eq {r r' : AgentRegistry} (h : r.Inv) (h' : r'.Inv)
    (hagents : ∀ agentId, r'.agents.get? agentId = r.agents.get? agentId) (role : String) :
    r'.roles.get? role = r.roles.get? role := by
  refine Option.ext fun agentId ↦ ?_
  rw [h'.roles_iff, h.roles_iff, hagents]

end Agents
end ExoBrain
