import ExoBrain.Lib.Dict
import ExoBrain.Lib.Text
import ExoBrain.Lib.Value
import Mathlib.Data.Finset.Basic

/-!
# The registry of agents

`AgentRegistry` (`registry.py`) holds agents and their roles, the routes on which one role may hand
over to another, and for such a pair of roles the roles to fall back to, with priorities.

An operation either raises or not, and what it has written until it raises stays written.  So every
operation is a function to an exception or none, and a registry.

* `register` and `addHandoffRoute` check everything before they write.
* `setHandoffFallbackPolicy` writes the roles to fall back to before it has checked the priorities.
* `unregister` removes an agent and its role, the routes that touch the role, what was configured for
  it as a source, and the role itself from what was configured for others.  What was configured for
  it as a target stays.

`Inv` says that agents and roles belong together and that whatever is configured is configured for
roles that are there.
-/

set_option autoImplicit false

namespace ExoBrain
namespace Agents

/-! ## Contracts -/

/-- `AgentCapabilityTag`. -/
inductive AgentCapabilityTag
  | toolUse
  | workflowRouting
  | review
  | retrieval
  | mcp
  | backgroundExecution
deriving DecidableEq, Repr

/-- `AgentCapabilityTag.value`. -/
def AgentCapabilityTag.value : AgentCapabilityTag → String
  | toolUse => "tool_use"
  | workflowRouting => "workflow_routing"
  | review => "review"
  | retrieval => "retrieval"
  | mcp => "mcp"
  | backgroundExecution => "background_execution"

/-- All of them. -/
def AgentCapabilityTag.all : List AgentCapabilityTag :=
  [toolUse, workflowRouting, review, retrieval, mcp, backgroundExecution]

/-- `AgentSpec`. -/
structure AgentSpec where
  agentId : String
  role : String
  capabilityTags : Finset AgentCapabilityTag := ∅
  instructions : String := ""
  metadata : List (String × Value) := []

/-- `HandoffRoute`. -/
structure HandoffRoute where
  sourceRole : String
  targetRole : String
  reason : String
  requiredTargetCapabilities : Finset AgentCapabilityTag := ∅
deriving DecidableEq

/-- The roles that a route joins. -/
def HandoffRoute.key (route : HandoffRoute) : String × String :=
  (route.sourceRole, route.targetRole)

/-- `HandoffFallbackPolicy`. -/
structure HandoffFallbackPolicy where
  sourceRole : String
  targetRole : String
  fallbackTargetRoles : List String := []
  targetRolePriorities : Dict String Int := Dict.empty

namespace HandoffFallbackPolicy

/-- The roles that a policy is for. -/
def key (policy : HandoffFallbackPolicy) : String × String :=
  (policy.sourceRole, policy.targetRole)

/-- The roles to fall back to, without blank and repeated ones and without the target itself. -/
def normalizedRoles (policy : HandoffFallbackPolicy) : List String :=
  policy.fallbackTargetRoles.foldl (fun normalized role ↦
    let roleName := Text.strip role
    if roleName = "" ∨ roleName = policy.targetRole ∨ roleName ∈ normalized then normalized
    else normalized ++ [roleName]) []

/-- The priorities, without those of a blank role. -/
def normalizedPriorities (policy : HandoffFallbackPolicy) : Dict String Int :=
  (policy.targetRolePriorities.entries.filter fun entry ↦ Text.strip entry.1 ≠ "").foldl
    (fun normalized entry ↦ normalized.set (Text.strip entry.1) entry.2) Dict.empty

end HandoffFallbackPolicy

/-! ## The registry -/

/-- `AgentRegistry`. -/
structure AgentRegistry where
  agents : Dict String AgentSpec
  roles : Dict String String
  routes : Dict (String × String) HandoffRoute
  fallbackRoles : Dict (String × String) (List String)
  fallbackRolePriorities : Dict (String × String) (Dict String Int)

/-- What the registry raises. -/
inductive RegistryError
  | valueError (message : String)
  | keyError (message : String)
deriving DecidableEq, Repr

namespace AgentRegistry

/-- `__init__`. -/
def initial : AgentRegistry where
  agents := Dict.empty
  roles := Dict.empty
  routes := Dict.empty
  fallbackRoles := Dict.empty
  fallbackRolePriorities := Dict.empty

/-! ### Agents -/

/-- What `register` raises. -/
def registerError? (agent : AgentSpec) (r : AgentRegistry) : Option RegistryError :=
  if Text.strip agent.agentId = "" then
    some (.valueError "agent_id must be a non-empty string")
  else if Text.strip agent.role = "" then some (.valueError "role must be a non-empty string")
  else if agent.agentId ∈ r.agents.keys then
    some (.valueError ("Agent '" ++ agent.agentId ++ "' is already registered"))
  else if agent.role ∈ r.roles.keys then
    some (.valueError ("Role '" ++ agent.role ++ "' is already bound to another agent"))
  else none

theorem registerError?_eq_none {agent : AgentSpec} {r : AgentRegistry} :
    r.registerError? agent = none ↔ Text.strip agent.agentId ≠ "" ∧ Text.strip agent.role ≠ "" ∧
      agent.agentId ∉ r.agents.keys ∧ agent.role ∉ r.roles.keys := by
  rw [registerError?]
  split_ifs <;> simp_all

/-- File an agent and its role. -/
def put (agent : AgentSpec) (r : AgentRegistry) : AgentRegistry :=
  { r with
    agents := r.agents.set agent.agentId agent
    roles := r.roles.set agent.role agent.agentId }

/-- `register`. -/
def register (agent : AgentSpec) (r : AgentRegistry) : Option RegistryError × AgentRegistry :=
  match r.registerError? agent with
  | some error => (some error, r)
  | none => (none, r.put agent)

/-- Remove agents and roles, and what is configured for the roles. -/
def drop (agentIds droppedRoles : List String) (r : AgentRegistry) : AgentRegistry where
  agents := r.agents.filter fun agentId _ ↦ agentId ∉ agentIds
  roles := r.roles.filter fun role _ ↦ role ∉ droppedRoles
  routes := r.routes.filter fun key _ ↦ key.1 ∉ droppedRoles ∧ key.2 ∉ droppedRoles
  fallbackRoles := (r.fallbackRoles.filter fun key _ ↦ key.1 ∉ droppedRoles).mapVals
    fun _ roles ↦ roles.filter fun role ↦ role ∉ droppedRoles
  fallbackRolePriorities :=
    (r.fallbackRolePriorities.filter fun key _ ↦ key.1 ∉ droppedRoles).mapVals
      fun _ priorities ↦ priorities.filter fun role _ ↦ role ∉ droppedRoles

/-- `unregister`.  The role of an agent is filed, so it can be deleted. -/
def unregister (agentId : String) (r : AgentRegistry) : Option RegistryError × AgentRegistry :=
  match r.agents.get? agentId with
  | none => (some (.keyError ("Unknown agent_id '" ++ agentId ++ "'")), r)
  | some agent => (none, r.drop [agentId] [agent.role])

/-! ### Routes -/

/-- `get_by_role`. -/
def getByRole (role : String) (r : AgentRegistry) : Except RegistryError AgentSpec :=
  match r.roles.get? role with
  | none => .error (.keyError ("Unknown role '" ++ role ++ "'"))
  | some agentId =>
    match r.agents.get? agentId with
    | none => .error (.keyError agentId)
    | some agent => .ok agent

/-- The values of the capabilities that an agent would need for a route and does not have. -/
def missingCapabilities (route : HandoffRoute) (target : AgentSpec) : List String :=
  Text.sortedTexts ((AgentCapabilityTag.all.filter fun capability ↦
    capability ∈ route.requiredTargetCapabilities ∧ capability ∉ target.capabilityTags).map
      AgentCapabilityTag.value)

/-- What `add_handoff_route` raises. -/
def routeError? (route : HandoffRoute) (r : AgentRegistry) : Option RegistryError :=
  if route.sourceRole ∉ r.roles.keys then
    some (.valueError ("Cannot route from unknown source role '" ++ route.sourceRole ++ "'"))
  else if route.targetRole ∉ r.roles.keys then
    some (.valueError ("Cannot route to unknown target role '" ++ route.targetRole ++ "'"))
  else
    match r.getByRole route.targetRole with
    | .error error => some error
    | .ok target =>
      let missing := missingCapabilities route target
      if missing = [] then none
      else some (.valueError ("Target role does not satisfy required capabilities: " ++
        ", ".intercalate missing))

theorem routeError?_known {route : HandoffRoute} {r : AgentRegistry}
    (h : r.routeError? route = none) :
    route.sourceRole ∈ r.roles.keys ∧ route.targetRole ∈ r.roles.keys := by
  rw [routeError?] at h
  split_ifs at h with hsource htarget
  exact ⟨hsource, htarget⟩

/-- File a route. -/
def putRoute (route : HandoffRoute) (r : AgentRegistry) : AgentRegistry :=
  { r with routes := r.routes.set route.key route }

/-- `add_handoff_route`. -/
def addHandoffRoute (route : HandoffRoute) (r : AgentRegistry) :
    Option RegistryError × AgentRegistry :=
  match r.routeError? route with
  | some error => (some error, r)
  | none => (none, r.putRoute route)

/-! ### Fallbacks -/

/-- What `set_handoff_fallback_policy` raises before it writes. -/
def fallbackError? (policy : HandoffFallbackPolicy) (r : AgentRegistry) : Option RegistryError :=
  if policy.sourceRole ∉ r.roles.keys then
    some (.valueError
      ("Cannot configure fallback from unknown source role '" ++ policy.sourceRole ++ "'"))
  else if policy.targetRole ∉ r.roles.keys then
    some (.valueError
      ("Cannot configure fallback for unknown target role '" ++ policy.targetRole ++ "'"))
  else none

theorem fallbackError?_known {policy : HandoffFallbackPolicy} {r : AgentRegistry}
    (h : r.fallbackError? policy = none) : policy.sourceRole ∈ r.roles.keys := by
  rw [fallbackError?] at h
  split_ifs at h with hsource
  exact hsource

/-- What `set_handoff_fallback_policy` raises after it has written the roles. -/
def priorityError? (policy : HandoffFallbackPolicy) (r : AgentRegistry) : Option RegistryError :=
  ((policy.targetRolePriorities.keys.map Text.strip).find? fun roleName ↦
    roleName ≠ "" ∧ roleName ∉ r.roles.keys).map fun roleName ↦
      .valueError ("Cannot configure priority for unknown target role '" ++ roleName ++ "'")

theorem priorityError?_known {policy : HandoffFallbackPolicy} {r : AgentRegistry}
    (h : r.priorityError? policy = none) :
    ∀ role ∈ policy.normalizedPriorities.keys, role ∈ r.roles.keys := by
  intro role hrole
  obtain ⟨priority, hpriority⟩ := Dict.mem_keys_iff.mp hrole
  rw [HandoffFallbackPolicy.normalizedPriorities, Dict.get?_foldl_set, Dict.get?_empty,
    Option.or_none] at hpriority
  obtain ⟨entry, hentry, rfl, -⟩ := Dict.lastWritten_eq_some hpriority
  obtain ⟨hmem, hblank⟩ := List.mem_filter.mp hentry
  rw [priorityError?, Option.map_eq_none_iff, List.find?_eq_none] at h
  have hname := h (Text.strip entry.1) (List.mem_map_of_mem (List.mem_map_of_mem hmem))
  simpa [decide_eq_true_eq.mp hblank] using hname

/-- File the roles to fall back to. -/
def putFallback (policy : HandoffFallbackPolicy) (r : AgentRegistry) : AgentRegistry :=
  { r with fallbackRoles := r.fallbackRoles.set policy.key policy.normalizedRoles }

/-- File the priorities. -/
def putPriorities (policy : HandoffFallbackPolicy) (r : AgentRegistry) : AgentRegistry :=
  { r with
    fallbackRolePriorities :=
      r.fallbackRolePriorities.set policy.key policy.normalizedPriorities }

/-- `set_handoff_fallback_policy`. -/
def setHandoffFallbackPolicy (policy : HandoffFallbackPolicy) (r : AgentRegistry) :
    Option RegistryError × AgentRegistry :=
  match r.fallbackError? policy with
  | some error => (some error, r)
  | none =>
    let written := r.putFallback policy
    match written.priorityError? policy with
    | some error => (some error, written)
    | none => (none, written.putPriorities policy)

/-! ### The invariant -/

/-- Agents and roles belong together, and what is configured is configured for roles that are
there.  A role to fall back to, and the target of a fallback, need not be there. -/
structure Inv (r : AgentRegistry) : Prop where
  agentId_eq : ∀ {agentId : String} {agent : AgentSpec},
    r.agents.get? agentId = some agent → agent.agentId = agentId
  roles_iff : ∀ {role agentId : String}, r.roles.get? role = some agentId ↔
    ∃ agent, r.agents.get? agentId = some agent ∧ agent.role = role
  routes_known : ∀ {key : String × String} {route : HandoffRoute},
    r.routes.get? key = some route → key.1 ∈ r.roles.keys ∧ key.2 ∈ r.roles.keys
  fallbacks_known : ∀ {key : String × String} {roles : List String},
    r.fallbackRoles.get? key = some roles → key.1 ∈ r.roles.keys
  priorities_known : ∀ {key : String × String} {priorities : Dict String Int},
    r.fallbackRolePriorities.get? key = some priorities →
      key.1 ∈ r.roles.keys ∧ ∀ role ∈ priorities.keys, role ∈ r.roles.keys

namespace Inv

variable {r : AgentRegistry}

theorem initial : AgentRegistry.initial.Inv where
  agentId_eq h := nomatch h
  roles_iff := by simp [AgentRegistry.initial]
  routes_known h := nomatch h
  fallbacks_known h := nomatch h
  priorities_known h := nomatch h

theorem mem_roles (h : r.Inv) {agentId : String} {agent : AgentSpec}
    (hagent : r.agents.get? agentId = some agent) : agent.role ∈ r.roles.keys :=
  Dict.mem_keys_iff.mpr ⟨agentId, h.roles_iff.mpr ⟨agent, hagent, rfl⟩⟩

/-- A role that is free is the role of no agent. -/
theorem role_ne (h : r.Inv) {role agentId : String} (hfree : role ∉ r.roles.keys)
    {agent : AgentSpec} (hagent : r.agents.get? agentId = some agent) : agent.role ≠ role := by
  rintro rfl
  exact hfree (h.mem_roles hagent)

theorem put (h : r.Inv) {agent : AgentSpec} (hagent : r.registerError? agent = none) :
    (r.put agent).Inv := by
  obtain ⟨-, -, hid, hrole⟩ := registerError?_eq_none.mp hagent
  have hknown {role : String} (hmem : role ∈ r.roles.keys) : role ∈ (r.put agent).roles.keys :=
    Dict.mem_keys_set.mpr (.inr hmem)
  refine ⟨?_, ?_, ?_, ?_, ?_⟩
  · intro agentId found hfound
    change (r.agents.set agent.agentId agent).get? agentId = some found at hfound
    rw [Dict.get?_set] at hfound
    split at hfound
    · rename_i heq
      obtain rfl := Option.some.inj hfound
      exact heq.symm
    · exact h.agentId_eq hfound
  · intro role agentId
    change (r.roles.set agent.role agent.agentId).get? role = some agentId ↔
      ∃ found, (r.agents.set agent.agentId agent).get? agentId = some found ∧ found.role = role
    rw [Dict.get?_set, Dict.get?_set]
    have hfresh : r.agents.get? agent.agentId = none := Dict.get?_eq_none_iff.mpr hid
    by_cases hsame : agentId = agent.agentId
    · subst hsame
      by_cases heq : role = agent.role
      · simp [heq]
      · have hother : ¬r.roles.get? role = some agent.agentId := by
          rw [h.roles_iff, hfresh]
          rintro ⟨found, hfound, -⟩
          cases hfound
        simp [heq, hother, Ne.symm heq]
    · by_cases heq : role = agent.role
      · subst heq
        have hother : ¬∃ found, r.agents.get? agentId = some found ∧ found.role = agent.role :=
          fun ⟨found, hfound, hrole'⟩ ↦ h.role_ne hrole hfound hrole'
        simp [hsame, hother, Ne.symm hsame]
      · simp [hsame, heq, h.roles_iff]
  · intro key route hroute
    exact (h.routes_known hroute).imp hknown hknown
  · intro key roles hroles
    exact hknown (h.fallbacks_known hroles)
  · intro key priorities hpriorities
    obtain ⟨hsource, hnames⟩ := h.priorities_known hpriorities
    exact ⟨hknown hsource, fun role hmem ↦ hknown (hnames role hmem)⟩

/-- Removing agents with all their roles, and no others. -/
theorem drop (h : r.Inv) {agentIds droppedRoles : List String}
    (hroles : ∀ role, role ∈ droppedRoles ↔
      ∃ agentId ∈ agentIds, ∃ agent, r.agents.get? agentId = some agent ∧ agent.role = role) :
    (r.drop agentIds droppedRoles).Inv := by
  have hknown {role : String} (hmem : role ∈ r.roles.keys) (hkept : role ∉ droppedRoles) :
      role ∈ (r.drop agentIds droppedRoles).roles.keys := by
    obtain ⟨agentId, hagentId⟩ := Dict.mem_keys_iff.mp hmem
    refine Dict.mem_keys_iff.mpr ⟨agentId, ?_⟩
    simp [AgentRegistry.drop, hagentId, hkept]
  refine ⟨?_, ?_, ?_, ?_, ?_⟩
  · intro agentId agent hagent
    simp only [AgentRegistry.drop, Dict.get?_filter, Option.filter_eq_some_iff] at hagent
    exact h.agentId_eq hagent.1
  · intro role agentId
    simp only [AgentRegistry.drop, Dict.get?_filter, Option.filter_eq_some_iff, h.roles_iff,
      decide_eq_true_eq]
    constructor
    · rintro ⟨⟨agent, hagent, hrole⟩, hkept⟩
      refine ⟨agent, ⟨hagent, fun hdropped ↦ hkept ?_⟩, hrole⟩
      exact (hroles role).mpr ⟨agentId, hdropped, agent, hagent, hrole⟩
    · rintro ⟨agent, ⟨hagent, hkept⟩, hrole⟩
      refine ⟨⟨agent, hagent, hrole⟩, fun hdropped ↦ ?_⟩
      obtain ⟨agentId', hdropped', agent', hagent', hrole'⟩ := (hroles role).mp hdropped
      -- Two agents with one role are one agent.
      have h1 : r.roles.get? role = some agentId := h.roles_iff.mpr ⟨agent, hagent, hrole⟩
      have h2 : r.roles.get? role = some agentId' := h.roles_iff.mpr ⟨agent', hagent', hrole'⟩
      rw [h1, Option.some.injEq] at h2
      exact hkept (h2 ▸ hdropped')
  · intro key route hroute
    simp only [AgentRegistry.drop, Dict.get?_filter, Option.filter_eq_some_iff,
      decide_eq_true_eq] at hroute
    obtain ⟨hsource, htarget⟩ := h.routes_known hroute.1
    exact ⟨hknown hsource hroute.2.1, hknown htarget hroute.2.2⟩
  · intro key roles hfound
    simp only [AgentRegistry.drop, Dict.get?_mapVals, Dict.get?_filter, Option.map_eq_some_iff,
      Option.filter_eq_some_iff, decide_eq_true_eq] at hfound
    obtain ⟨all, ⟨hall, hkept⟩, -⟩ := hfound
    exact hknown (h.fallbacks_known hall) hkept
  · intro key priorities hfound
    simp only [AgentRegistry.drop, Dict.get?_mapVals, Dict.get?_filter, Option.map_eq_some_iff,
      Option.filter_eq_some_iff, decide_eq_true_eq] at hfound
    obtain ⟨all, ⟨hall, hkept⟩, rfl⟩ := hfound
    obtain ⟨hsource, hnames⟩ := h.priorities_known hall
    refine ⟨hknown hsource hkept, fun role hmem ↦ ?_⟩
    obtain ⟨priority, hpriority⟩ := Dict.mem_keys_iff.mp hmem
    simp only [Dict.get?_filter, Option.filter_eq_some_iff, decide_eq_true_eq] at hpriority
    exact hknown (hnames role (Dict.mem_keys_iff.mpr ⟨priority, hpriority.1⟩)) hpriority.2

/-! Every operation keeps it, whether it raises or not. -/

theorem register (h : r.Inv) (agent : AgentSpec) : (r.register agent).2.Inv := by
  rw [AgentRegistry.register]
  cases hagent : r.registerError? agent with
  | some error => exact h
  | none => exact h.put hagent

theorem unregister (h : r.Inv) (agentId : String) : (r.unregister agentId).2.Inv := by
  rw [AgentRegistry.unregister]
  cases hagent : r.agents.get? agentId with
  | none => exact h
  | some agent => exact h.drop (by simp [hagent, eq_comm])

theorem addHandoffRoute (h : r.Inv) (route : HandoffRoute) : (r.addHandoffRoute route).2.Inv := by
  rw [AgentRegistry.addHandoffRoute]
  cases hroute : r.routeError? route with
  | some error => exact h
  | none =>
    refine ⟨h.agentId_eq, h.roles_iff, fun {key found} hfound ↦ ?_, h.fallbacks_known,
      h.priorities_known⟩
    change (r.routes.set route.key route).get? key = some found at hfound
    rw [Dict.get?_set] at hfound
    split at hfound
    · rename_i hkey
      subst hkey
      obtain ⟨hsource, htarget⟩ := routeError?_known hroute
      exact ⟨hsource, htarget⟩
    · exact h.routes_known hfound

theorem putFallback (h : r.Inv) {policy : HandoffFallbackPolicy}
    (hpolicy : r.fallbackError? policy = none) : (r.putFallback policy).Inv := by
  refine ⟨h.agentId_eq, h.roles_iff, h.routes_known, fun {key found} hfound ↦ ?_,
    h.priorities_known⟩
  change (r.fallbackRoles.set policy.key policy.normalizedRoles).get? key = some found at hfound
  rw [Dict.get?_set] at hfound
  split at hfound
  · rename_i hkey
    subst hkey
    exact fallbackError?_known hpolicy
  · exact h.fallbacks_known hfound

theorem putPriorities (h : r.Inv) {policy : HandoffFallbackPolicy}
    (hpolicy : r.fallbackError? policy = none) (hpriorities : r.priorityError? policy = none) :
    (r.putPriorities policy).Inv := by
  refine ⟨h.agentId_eq, h.roles_iff, h.routes_known, h.fallbacks_known,
    fun {key found} hfound ↦ ?_⟩
  change (r.fallbackRolePriorities.set policy.key policy.normalizedPriorities).get? key =
    some found at hfound
  rw [Dict.get?_set] at hfound
  split at hfound
  · rename_i hkey
    subst hkey
    obtain rfl := Option.some.inj hfound
    exact ⟨fallbackError?_known hpolicy, priorityError?_known hpriorities⟩
  · exact h.priorities_known hfound

theorem setHandoffFallbackPolicy (h : r.Inv) (policy : HandoffFallbackPolicy) :
    (r.setHandoffFallbackPolicy policy).2.Inv := by
  rw [AgentRegistry.setHandoffFallbackPolicy]
  cases hpolicy : r.fallbackError? policy with
  | some error => exact h
  | none =>
    cases hpriorities : (r.putFallback policy).priorityError? policy with
    | some error =>
      simp only [hpriorities]
      exact h.putFallback hpolicy
    | none =>
      simp only [hpriorities]
      exact (h.putFallback hpolicy).putPriorities hpolicy hpriorities

end Inv

end AgentRegistry

end Agents
end ExoBrain
