import ExoBrain.Agents.Registry
import ExoBrain.Lib.Run

/-!
# Handing over

Who may hand over to whom is read off the routes of the registry: `can_handoff` asks for two agents,
`handoff_targets` for all targets of one.  Both look up roles and agents that the tables name, and
what they find is worth something only as long as the tables agree.

* `Capable` adds to `AgentRegistry.Inv` that a route is filed for the roles it joins, and that the
  agent it leads to can do what it asks for.  An agent that takes over a role does not inherit its
  routes, since they have gone with the agent before.
* `registry_in_order`: every registry that is reached is `Capable`, and a question about it fails
  only for a name that the caller has made up.
-/

set_option autoImplicit false

namespace ExoBrain
namespace Agents
namespace AgentRegistry

/-! ## Questions -/

/-- `get`. -/
def get (agentId : String) (r : AgentRegistry) : Except RegistryError AgentSpec :=
  match r.agents.get? agentId with
  | none => .error (.keyError ("Unknown agent_id '" ++ agentId ++ "'"))
  | some agent => .ok agent

/-- `list_agents`. -/
def listAgents (r : AgentRegistry) : List AgentSpec :=
  (Text.sortedTexts r.agents.keys).filterMap r.agents.get?

/-- `list_routes`. -/
def listRoutes (r : AgentRegistry) : List HandoffRoute := r.routes.entries.map Prod.snd

/-- `list_fallback_policies`. -/
def listFallbackPolicies (r : AgentRegistry) : List HandoffFallbackPolicy :=
  r.fallbackRoles.entries.map fun entry ↦
    { sourceRole := entry.1.1
      targetRole := entry.1.2
      fallbackTargetRoles := entry.2
      targetRolePriorities := (r.fallbackRolePriorities.get? entry.1).getD Dict.empty }

/-- `can_handoff`. -/
def canHandoff (sourceAgentId targetAgentId : String) (r : AgentRegistry) :
    Except RegistryError Bool := do
  let source ← r.get sourceAgentId
  let target ← r.get targetAgentId
  match r.routes.get? (source.role, target.role) with
  | none => return false
  | some route => return decide (route.requiredTargetCapabilities ⊆ target.capabilityTags)

/-- An agent has the capability that is asked for, if one is. -/
def Offers (requiredCapability : Option AgentCapabilityTag) (agent : AgentSpec) : Prop :=
  ∀ capability ∈ requiredCapability, capability ∈ agent.capabilityTags

instance (requiredCapability : Option AgentCapabilityTag) (agent : AgentSpec) :
    Decidable (Offers requiredCapability agent) :=
  inferInstanceAs (Decidable (∀ capability ∈ requiredCapability, _))

/-- The loop of `handoff_targets` over the routes. -/
def targetsAlong (sourceRole : String) (requiredCapability : Option AgentCapabilityTag)
    (r : AgentRegistry) :
    List ((String × String) × HandoffRoute) → Except RegistryError (List AgentSpec)
  | [] => return []
  | (key, route) :: routes =>
    if key.1 ≠ sourceRole then targetsAlong sourceRole requiredCapability r routes
    else do
      let target ← r.getByRole key.2
      let targets ← targetsAlong sourceRole requiredCapability r routes
      if Offers requiredCapability target ∧
          route.requiredTargetCapabilities ⊆ target.capabilityTags then
        return target :: targets
      else return targets

/-- `handoff_targets`. -/
def handoffTargets (sourceAgentId : String) (requiredCapability : Option AgentCapabilityTag)
    (r : AgentRegistry) : Except RegistryError (List AgentSpec) := do
  let source ← r.get sourceAgentId
  let targets ← r.targetsAlong source.role requiredCapability r.routes.entries
  return targets.mergeSort fun a b ↦ a.agentId ≤ b.agentId

/-! ## The invariant -/

/-- A registry in order, in which every route is filed for the roles it joins and leads to an agent
that can do what it asks for. -/
structure Capable (r : AgentRegistry) : Prop extends r.Inv where
  key_eq : ∀ {key : String × String} {route : HandoffRoute},
    r.routes.get? key = some route → route.key = key
  capable : ∀ {key : String × String} {route : HandoffRoute} {target : AgentSpec},
    r.routes.get? key = some route → r.getByRole key.2 = .ok target →
      route.requiredTargetCapabilities ⊆ target.capabilityTags

/-- Who is found under a role is registered with it. -/
theorem getByRole_eq_ok {role : String} {agent : AgentSpec} {r : AgentRegistry} :
    r.getByRole role = .ok agent ↔
      ∃ agentId, r.roles.get? role = some agentId ∧ r.agents.get? agentId = some agent := by
  rw [getByRole]
  cases r.roles.get? role with
  | none => simp
  | some agentId => cases hagent : r.agents.get? agentId <;> simp [hagent]

theorem missingCapabilities_eq_nil {route : HandoffRoute} {target : AgentSpec} :
    missingCapabilities route target = [] ↔
      route.requiredTargetCapabilities ⊆ target.capabilityTags := by
  have hall (capability : AgentCapabilityTag) : capability ∈ AgentCapabilityTag.all := by
    cases capability <;> decide
  simp [missingCapabilities, List.filter_eq_nil_iff, hall, Finset.subset_iff]

/-- A route that is admitted leads to an agent that can do what it asks for. -/
theorem routeError?_capable {route : HandoffRoute} {r : AgentRegistry} {target : AgentSpec}
    (h : r.routeError? route = none) (htarget : r.getByRole route.targetRole = .ok target) :
    route.requiredTargetCapabilities ⊆ target.capabilityTags := by
  rw [routeError?] at h
  split_ifs at h
  rw [htarget] at h
  dsimp only at h
  split_ifs at h with hmissing
  exact missingCapabilities_eq_nil.mp hmissing

namespace Capable

variable {r : AgentRegistry}

theorem initial : AgentRegistry.initial.Capable where
  toInv := Inv.initial
  key_eq h := nomatch h
  capable h := nomatch h

/-- No route is new, and behind a role that was there is who was there. -/
theorem keep (h : r.Capable) {r' : AgentRegistry} (hinv : r'.Inv)
    (hroutes : ∀ {key route}, r'.routes.get? key = some route → r.routes.get? key = some route)
    (hbehind : ∀ {role target}, role ∈ r.roles.keys → r'.getByRole role = .ok target →
      r.getByRole role = .ok target) : r'.Capable where
  toInv := hinv
  key_eq hroute := h.key_eq (hroutes hroute)
  capable hroute htarget :=
    have hold := hroutes hroute
    h.capable hold (hbehind (h.routes_known hold).2 htarget)

theorem put (h : r.Capable) {agent : AgentSpec} (hagent : r.registerError? agent = none) :
    (r.put agent).Capable := by
  refine h.keep (h.toInv.put hagent) id fun {role target} hrole htarget ↦ ?_
  obtain ⟨-, -, hfreeId, hfreeRole⟩ := registerError?_eq_none.mp hagent
  obtain ⟨agentId, hid, hfound⟩ := getByRole_eq_ok.mp htarget
  have hother : role ≠ agent.role := fun heq ↦ hfreeRole (heq ▸ hrole)
  change (r.roles.set agent.role agent.agentId).get? role = some agentId at hid
  rw [Dict.get?_set, if_neg hother] at hid
  -- The agent who had the role is not the new one.
  obtain ⟨found, hthere, -⟩ := h.roles_iff.mp hid
  have hotherId : agentId ≠ agent.agentId :=
    fun heq ↦ hfreeId (heq ▸ Dict.mem_keys_iff.mpr ⟨found, hthere⟩)
  change (r.agents.set agent.agentId agent).get? agentId = some target at hfound
  rw [Dict.get?_set, if_neg hotherId] at hfound
  exact getByRole_eq_ok.mpr ⟨agentId, hid, hfound⟩

/-! Every operation keeps it, whether it raises or not. -/

theorem register (h : r.Capable) (agent : AgentSpec) : (r.register agent).2.Capable := by
  rw [AgentRegistry.register]
  cases hagent : r.registerError? agent with
  | some error => exact h
  | none => exact h.put hagent

theorem unregister (h : r.Capable) (agentId : String) : (r.unregister agentId).2.Capable := by
  have hinv := h.toInv.unregister agentId
  rw [AgentRegistry.unregister] at hinv ⊢
  cases hagent : r.agents.get? agentId with
  | none => exact h
  | some agent =>
    rw [hagent] at hinv
    refine h.keep hinv (fun {key route} hroute ↦ ?_) fun {role target} _ htarget ↦ ?_
    · simp only [drop, Dict.get?_filter, Option.filter_eq_some_iff] at hroute
      exact hroute.1
    · obtain ⟨behindId, hid, hfound⟩ := getByRole_eq_ok.mp htarget
      simp only [drop, Dict.get?_filter, Option.filter_eq_some_iff] at hid hfound
      exact getByRole_eq_ok.mpr ⟨behindId, hid.1, hfound.1⟩

theorem addHandoffRoute (h : r.Capable) (route : HandoffRoute) :
    (r.addHandoffRoute route).2.Capable := by
  have hinv := h.toInv.addHandoffRoute route
  rw [AgentRegistry.addHandoffRoute] at hinv ⊢
  cases hroute : r.routeError? route with
  | some error => exact h
  | none =>
    rw [hroute] at hinv
    refine ⟨hinv, fun {key found} hfound ↦ ?_, fun {key found target} hfound htarget ↦ ?_⟩
    · change (r.routes.set route.key route).get? key = some found at hfound
      rw [Dict.get?_set] at hfound
      split at hfound
      · rename_i hkey
        obtain rfl := Option.some.inj hfound
        exact hkey.symm
      · exact h.key_eq hfound
    · change (r.routes.set route.key route).get? key = some found at hfound
      rw [Dict.get?_set] at hfound
      split at hfound
      · rename_i hkey
        obtain rfl := Option.some.inj hfound
        subst hkey
        exact routeError?_capable hroute htarget
      · exact h.capable hfound htarget

theorem setHandoffFallbackPolicy (h : r.Capable) (policy : HandoffFallbackPolicy) :
    (r.setHandoffFallbackPolicy policy).2.Capable := by
  have hinv := h.toInv.setHandoffFallbackPolicy policy
  rw [AgentRegistry.setHandoffFallbackPolicy] at hinv ⊢
  cases hpolicy : r.fallbackError? policy with
  | some error => exact h
  | none =>
    rw [hpolicy] at hinv
    dsimp only at hinv ⊢
    cases hpriorities : (r.putFallback policy).priorityError? policy with
    | some error =>
      rw [hpriorities] at hinv
      exact h.keep hinv id fun _ ↦ id
    | none =>
      rw [hpriorities] at hinv
      exact h.keep hinv id fun _ ↦ id

/-! ### What is looked up is there -/

/-- A role that is taken is the role of the agent found under it. -/
theorem getByRole_ok (h : r.Capable) {role : String} (hrole : role ∈ r.roles.keys) :
    ∃ agent, r.getByRole role = .ok agent ∧ agent.role = role := by
  obtain ⟨agentId, hid⟩ := Dict.mem_keys_iff.mp hrole
  obtain ⟨agent, hagent, heq⟩ := h.roles_iff.mp hid
  exact ⟨agent, getByRole_eq_ok.mpr ⟨agentId, hid, hagent⟩, heq⟩

/-- The loop over the routes looks up roles that are taken. -/
theorem targetsAlong_ok (h : r.Capable) (sourceRole : String)
    (requiredCapability : Option AgentCapabilityTag)
    {routes : List ((String × String) × HandoffRoute)} (hroutes : ∀ e ∈ routes, e ∈ r.routes.entries) :
    ∃ targets, r.targetsAlong sourceRole requiredCapability routes = .ok targets := by
  induction routes with
  | nil => exact ⟨[], rfl⟩
  | cons e routes ih =>
    obtain ⟨hroute, hrest⟩ := List.forall_mem_cons.mp hroutes
    obtain ⟨targets, htargets⟩ := ih hrest
    obtain ⟨target, htarget, -⟩ :=
      h.getByRole_ok (h.routes_known (Dict.mem_entries_iff.mp hroute)).2
    rw [targetsAlong, htargets, htarget]
    split
    · exact ⟨targets, rfl⟩
    · dsimp only [bind, Except.bind]
      split
      · exact ⟨target :: targets, rfl⟩
      · exact ⟨targets, rfl⟩

end Capable

/-! ## Every registry that is reached -/

/-- What may be done to a registry. -/
inductive RegistryCall
  | register (agent : AgentSpec)
  | unregister (agentId : String)
  | addHandoffRoute (route : HandoffRoute)
  | setHandoffFallbackPolicy (policy : HandoffFallbackPolicy)

/-- Do it. -/
def RegistryCall.perform (r : AgentRegistry) :
    RegistryCall → Option RegistryError × AgentRegistry
  | .register agent => r.register agent
  | .unregister agentId => r.unregister agentId
  | .addHandoffRoute route => r.addHandoffRoute route
  | .setHandoffFallbackPolicy policy => r.setHandoffFallbackPolicy policy

theorem Capable.perform {r : AgentRegistry} (h : r.Capable) (call : RegistryCall) :
    (call.perform r).2.Capable := by
  cases call with
  | register agent => exact h.register agent
  | unregister agentId => exact h.unregister agentId
  | addHandoffRoute route => exact h.addHandoffRoute route
  | setHandoffFallbackPolicy policy => exact h.setHandoffFallbackPolicy policy

theorem Capable.exec (calls : List RegistryCall) :
    (Run.exec (fun r call ↦ RegistryCall.perform r call) .initial calls).Capable :=
  Run.exec_invariant (fun _ call _ h ↦ h.perform call) (Run.along_of_forall (fun _ _ ↦ trivial) _ _)
    Capable.initial

/-- The tables agree, and a question fails only if the caller names somebody who is not there. -/
structure InOrder (r : AgentRegistry) : Prop where
  /-- The role of an agent leads to the agent. -/
  role_of_agent : ∀ {agentId agent}, r.agents.get? agentId = some agent →
    agent.agentId = agentId ∧ r.roles.get? agent.role = some agentId
  /-- A role leads to an agent who has it. -/
  agent_of_role : ∀ {role agentId}, r.roles.get? role = some agentId →
    ∃ agent, r.agents.get? agentId = some agent ∧ agent.role = role
  /-- A route joins two roles that are taken, and who has the second can do what it asks for. -/
  route_joins : ∀ {key route}, r.routes.get? key = some route →
    route.key = key ∧ key.1 ∈ r.roles.keys ∧ ∃ target, r.getByRole key.2 = .ok target ∧
      target.role = key.2 ∧ route.requiredTargetCapabilities ⊆ target.capabilityTags
  fallback_source : ∀ {key roles}, r.fallbackRoles.get? key = some roles → key.1 ∈ r.roles.keys
  priority_source : ∀ {key priorities}, r.fallbackRolePriorities.get? key = some priorities →
    key.1 ∈ r.roles.keys
  get_by_role : ∀ {role error}, r.getByRole role = .error error → role ∉ r.roles.keys
  handoff_targets : ∀ {sourceAgentId requiredCapability error},
    r.handoffTargets sourceAgentId requiredCapability = .error error →
      sourceAgentId ∉ r.agents.keys
  can_handoff : ∀ {sourceAgentId targetAgentId error},
    r.canHandoff sourceAgentId targetAgentId = .error error →
      sourceAgentId ∉ r.agents.keys ∨ targetAgentId ∉ r.agents.keys

theorem get_eq_ok {agentId : String} {r : AgentRegistry} (h : agentId ∈ r.agents.keys) :
    ∃ agent, r.get agentId = .ok agent := by
  obtain ⟨agent, hagent⟩ := Dict.mem_keys_iff.mp h
  exact ⟨agent, by rw [get, hagent]⟩

theorem Capable.handoffTargets_ok {r : AgentRegistry} (h : r.Capable) {sourceAgentId : String}
    (hsource : sourceAgentId ∈ r.agents.keys) (requiredCapability : Option AgentCapabilityTag) :
    ∃ targets, r.handoffTargets sourceAgentId requiredCapability = .ok targets := by
  obtain ⟨source, hfound⟩ := get_eq_ok hsource
  obtain ⟨targets, htargets⟩ := h.targetsAlong_ok source.role requiredCapability fun _ he ↦ he
  refine ⟨targets.mergeSort fun a b ↦ a.agentId ≤ b.agentId, ?_⟩
  rw [handoffTargets, hfound]
  dsimp only [bind, Except.bind]
  rw [htargets]
  rfl

theorem canHandoff_ok {r : AgentRegistry} {sourceAgentId targetAgentId : String}
    (hsource : sourceAgentId ∈ r.agents.keys) (htarget : targetAgentId ∈ r.agents.keys) :
    ∃ answer, r.canHandoff sourceAgentId targetAgentId = .ok answer := by
  obtain ⟨source, hfoundSource⟩ := get_eq_ok hsource
  obtain ⟨target, hfoundTarget⟩ := get_eq_ok htarget
  rw [canHandoff, hfoundSource, hfoundTarget]
  dsimp only [bind, Except.bind]
  cases r.routes.get? (source.role, target.role) with
  | none => exact ⟨false, rfl⟩
  | some route => exact ⟨_, rfl⟩

theorem Capable.inOrder {r : AgentRegistry} (h : r.Capable) : r.InOrder where
  role_of_agent hagent := ⟨h.agentId_eq hagent, h.roles_iff.mpr ⟨_, hagent, rfl⟩⟩
  agent_of_role hrole := h.roles_iff.mp hrole
  route_joins := by
    intro key route hroute
    obtain ⟨hsource, htarget⟩ := h.routes_known hroute
    obtain ⟨target, hfound, hrole⟩ := h.getByRole_ok htarget
    exact ⟨h.key_eq hroute, hsource, target, hfound, hrole, h.capable hroute hfound⟩
  fallback_source hroles := h.fallbacks_known hroles
  priority_source hpriorities := (h.priorities_known hpriorities).1
  get_by_role := by
    intro role error herror hrole
    obtain ⟨agent, hfound, -⟩ := h.getByRole_ok hrole
    rw [hfound] at herror
    cases herror
  handoff_targets := by
    intro sourceAgentId requiredCapability error herror hsource
    obtain ⟨targets, htargets⟩ := h.handoffTargets_ok hsource requiredCapability
    rw [htargets] at herror
    cases herror
  can_handoff := by
    intro sourceAgentId targetAgentId error herror
    by_contra! hthere
    obtain ⟨answer, hanswer⟩ := canHandoff_ok hthere.1 hthere.2
    rw [hanswer] at herror
    cases herror

/-- **The registry of agents.**  Whatever has been registered, unregistered, routed and configured,
and whatever of it has been refused: agents and roles belong together, every route and fallback is
for roles that are taken, routes lead to agents that can do what is asked for, and no question stops
at something that the registry itself has named. -/
theorem registry_in_order (calls : List RegistryCall) :
    (Run.exec (fun r call ↦ RegistryCall.perform r call) .initial calls).InOrder :=
  (Capable.exec calls).inOrder

end AgentRegistry
end Agents
end ExoBrain
