import ExoBrain.Agents.Handoffs
import ExoBrain.Lib.Ranking
import Mathlib.Data.String.Basic

/-!
# Whom to hand over to

`resolve_handoff_target` (`registry.py`) picks the agent that takes over.  If a target role is asked
for, its agent takes over if it may; otherwise somebody of the roles to fall back to does, whoever
has the highest priority, and the smallest name among those.  If no role is asked for, whoever has
the smallest name does.

* `Eligible` says who may take over: who is registered and has what the route and the request ask
  for.  The lookups and loops of the resolution find exactly those (`eligibleForRole_spec`,
  `mem_fallbackCandidates`, `mem_targetsAlong`).
* `handoff_resolution`: in every registry that is reached, the one who takes over is the first of
  them in the order of preference, and nobody does only if there is nobody.
-/

set_option autoImplicit false

namespace ExoBrain
namespace Agents
namespace AgentRegistry

open Ranking (IsFirst)

/-! ## The resolution -/

/-- `_agent_for_role`. -/
def agentForRole (role : String) (r : AgentRegistry) : Option AgentSpec :=
  match r.roles.get? role with
  | none => none
  | some agentId => r.agents.get? agentId

/-- `_is_candidate_eligible`. -/
def isCandidateEligible (sourceAgentId : String) (target : AgentSpec)
    (requiredCapability : Option AgentCapabilityTag) (r : AgentRegistry) :
    Except RegistryError Bool := do
  let allowed ← r.canHandoff sourceAgentId target.agentId
  return allowed && decide (Offers requiredCapability target)

/-- The agent of a role, if there is one and it is eligible. -/
def eligibleForRole (sourceAgentId role : String)
    (requiredCapability : Option AgentCapabilityTag) (r : AgentRegistry) :
    Except RegistryError (Option AgentSpec) :=
  match r.agentForRole role with
  | none => return none
  | some target => do
    let eligible ← r.isCandidateEligible sourceAgentId target requiredCapability
    return if eligible = true then some target else none

/-- The loop of `resolve_handoff_target` over the roles to fall back to.  A role is looked at once. -/
def fallbackCandidates (sourceAgentId : String) (requiredCapability : Option AgentCapabilityTag)
    (r : AgentRegistry) : List String → List String → Except RegistryError (List AgentSpec)
  | _, [] => return []
  | seenRoles, role :: roles =>
    if role ∈ seenRoles then r.fallbackCandidates sourceAgentId requiredCapability seenRoles roles
    else do
      let candidate ← r.eligibleForRole sourceAgentId role requiredCapability
      let candidates ←
        r.fallbackCandidates sourceAgentId requiredCapability (role :: seenRoles) roles
      return candidate.toList ++ candidates

/-- The roles to fall back to. -/
def fallbackRolesFor (sourceRole targetRole : String) (r : AgentRegistry) : List String :=
  (r.fallbackRoles.get? (sourceRole, targetRole)).getD []

/-- `priorities.get(agent.role, 0)`. -/
def priorityOf (sourceRole targetRole : String) (r : AgentRegistry) (agent : AgentSpec) : Int :=
  (((r.fallbackRolePriorities.get? (sourceRole, targetRole)).getD Dict.empty).get?
    agent.role).getD 0

/-- An agent has a smaller name than another, or the same. -/
def NamedBefore (a b : AgentSpec) : Prop := a.agentId ≤ b.agentId

instance : DecidableRel NamedBefore := fun a b ↦ inferInstanceAs (Decidable (a.agentId ≤ b.agentId))

/-- The order of `(-priorities.get(agent.role, 0), agent.agent_id)`. -/
def PreferredTo (priority : AgentSpec → Int) (a b : AgentSpec) : Prop :=
  priority b < priority a ∨ priority a = priority b ∧ NamedBefore a b

instance {priority : AgentSpec → Int} : DecidableRel (PreferredTo priority) := fun _ _ ↦
  inferInstanceAs (Decidable (_ ∨ _))

/-- `resolve_handoff_target`. -/
def resolveHandoffTarget (sourceAgentId : String) (targetRole : Option String)
    (requiredCapability : Option AgentCapabilityTag) (r : AgentRegistry) :
    Except RegistryError (Option AgentSpec) := do
  let source ← r.get sourceAgentId
  let targetRole := targetRole.getD ""
  if targetRole = "" then
    let targets ← r.handoffTargets sourceAgentId requiredCapability
    return targets.head?
  else
    let primary ← r.eligibleForRole sourceAgentId targetRole requiredCapability
    if primary.isSome = true then
      return primary
    else
      let candidates ← r.fallbackCandidates sourceAgentId requiredCapability [targetRole]
        (r.fallbackRolesFor source.role targetRole)
      return (candidates.mergeSort fun a b ↦
        decide (PreferredTo (r.priorityOf source.role targetRole) a b)).head?

/-! ## Who may take over -/

/-- An agent is registered, a route leads from the role of the source to its role, and it has the
capabilities that the route and the request ask for. -/
def Eligible (r : AgentRegistry) (source : AgentSpec)
    (requiredCapability : Option AgentCapabilityTag) (agent : AgentSpec) : Prop :=
  r.agents.get? agent.agentId = some agent ∧
    (∃ route, r.routes.get? (source.role, agent.role) = some route ∧
      route.requiredTargetCapabilities ⊆ agent.capabilityTags) ∧
    Offers requiredCapability agent

section
variable {r : AgentRegistry} {sourceAgentId : String} {source : AgentSpec}
  {requiredCapability : Option AgentCapabilityTag}

theorem agentForRole_eq_some (h : r.Capable) {role : String} {agent : AgentSpec} :
    r.agentForRole role = some agent ↔
      r.agents.get? agent.agentId = some agent ∧ agent.role = role := by
  rw [agentForRole]
  constructor
  · intro hfound
    cases hrole : r.roles.get? role with
    | none => rw [hrole] at hfound; cases hfound
    | some agentId =>
      rw [hrole] at hfound
      obtain ⟨agent', hagent', heq⟩ := h.roles_iff.mp hrole
      obtain rfl : agent' = agent := Option.some.inj (hagent'.symm.trans hfound)
      rw [h.agentId_eq hagent']
      exact ⟨hagent', heq⟩
  · rintro ⟨hagent, rfl⟩
    rw [h.roles_iff.mpr ⟨agent, hagent, rfl⟩]
    exact hagent

/-- The test of a registered agent answers whether it may take over. -/
theorem isCandidateEligible_spec (hsource : r.agents.get? sourceAgentId = some source)
    {agent : AgentSpec} (hagent : r.agents.get? agent.agentId = some agent) :
    ∃ eligible, r.isCandidateEligible sourceAgentId agent requiredCapability = .ok eligible ∧
      (eligible = true ↔ Eligible r source requiredCapability agent) := by
  rw [isCandidateEligible, canHandoff, get, get, hsource, hagent, Eligible]
  simp only [bind, Except.bind]
  cases hroute : r.routes.get? (source.role, agent.role) with
  | none => exact ⟨_, rfl, by simp⟩
  | some route => exact ⟨_, rfl, by simp [hagent]⟩

theorem eligibleForRole_spec (h : r.Capable) (hsource : r.agents.get? sourceAgentId = some source)
    (requiredCapability : Option AgentCapabilityTag) (role : String) :
    ∃ found, r.eligibleForRole sourceAgentId role requiredCapability = .ok found ∧
      ∀ agent, found = some agent ↔
        Eligible r source requiredCapability agent ∧ agent.role = role := by
  rw [eligibleForRole]
  cases hrole : r.agentForRole role with
  | none =>
    refine ⟨none, rfl, fun agent ↦ iff_of_false (by simp) ?_⟩
    rintro ⟨heligible, hsame⟩
    rw [(agentForRole_eq_some h).mpr ⟨heligible.1, hsame⟩] at hrole
    cases hrole
  | some target =>
    obtain ⟨htarget, rfl⟩ := (agentForRole_eq_some h).mp hrole
    obtain ⟨eligible, hanswer, hiff⟩ : ∃ eligible,
        r.isCandidateEligible sourceAgentId target requiredCapability = .ok eligible ∧
          (eligible = true ↔ Eligible r source requiredCapability target) :=
      isCandidateEligible_spec hsource htarget
    refine ⟨if eligible = true then some target else none, ?_, fun agent ↦ ?_⟩
    · simp only [hanswer, bind, Except.bind]
      rfl
    · rw [Option.ite_none_right_eq_some, hiff, Option.some.injEq]
      constructor
      · rintro ⟨heligible, rfl⟩
        exact ⟨heligible, rfl⟩
      · rintro ⟨heligible, hsame⟩
        -- only one agent has the role
        have hfound := (agentForRole_eq_some h).mpr ⟨heligible.1, hsame⟩
        obtain rfl := Option.some.inj (hrole.symm.trans hfound)
        exact ⟨heligible, rfl⟩

/-- The candidates are the eligible agents of the roles that have not been looked at. -/
theorem mem_fallbackCandidates (h : r.Capable)
    (hsource : r.agents.get? sourceAgentId = some source)
    (requiredCapability : Option AgentCapabilityTag) (seenRoles roles : List String) :
    ∃ candidates,
      r.fallbackCandidates sourceAgentId requiredCapability seenRoles roles = .ok candidates ∧
        ∀ agent, agent ∈ candidates ↔ Eligible r source requiredCapability agent ∧
          agent.role ∈ roles ∧ agent.role ∉ seenRoles := by
  induction roles generalizing seenRoles with
  | nil => exact ⟨[], rfl, by simp⟩
  | cons role roles ih =>
    rw [fallbackCandidates]
    by_cases hseen : role ∈ seenRoles
    · obtain ⟨candidates, hloop, hmem⟩ := ih seenRoles
      refine ⟨candidates, by rw [if_pos hseen, hloop], fun agent ↦ (hmem agent).trans ?_⟩
      refine and_congr_right fun _ ↦ and_congr_left fun hnew ↦ ?_
      have hother : agent.role ≠ role := fun heq ↦ hnew (heq ▸ hseen)
      rw [List.mem_cons, or_iff_right hother]
    · obtain ⟨candidate, hcandidate, hfound⟩ :=
        eligibleForRole_spec h hsource requiredCapability role
      obtain ⟨candidates, hloop, hmem⟩ := ih (role :: seenRoles)
      refine ⟨candidate.toList ++ candidates, ?_, fun agent ↦ ?_⟩
      · simp only [if_neg hseen, hcandidate, hloop, bind, Except.bind]
        rfl
      · rw [List.mem_append, Option.mem_toList, hfound, hmem, ← and_or_left]
        refine and_congr_right fun _ ↦ ?_
        by_cases hsame : agent.role = role
        · simp [hsame, hseen]
        · simp [hsame]

/-- The targets along some routes are who is found at their ends and can do what is asked for. -/
theorem mem_targetsAlong {routes : List ((String × String) × HandoffRoute)}
    {targets : List AgentSpec} {sourceRole : String}
    (htargets : r.targetsAlong sourceRole requiredCapability routes = .ok targets)
    (agent : AgentSpec) : agent ∈ targets ↔ ∃ e ∈ routes, e.1.1 = sourceRole ∧
      r.getByRole e.1.2 = .ok agent ∧ Offers requiredCapability agent ∧
        e.2.requiredTargetCapabilities ⊆ agent.capabilityTags := by
  induction routes generalizing targets with
  | nil =>
    obtain rfl : [] = targets := Except.ok.inj htargets
    simp
  | cons e routes ih =>
    rw [targetsAlong] at htargets
    rw [List.exists_mem_cons_iff]
    by_cases hrole : e.1.1 = sourceRole
    · rw [if_neg (not_not_intro hrole)] at htargets
      cases htarget : r.getByRole e.1.2 with
      | error error =>
        rw [htarget] at htargets
        cases htargets
      | ok target =>
        cases hrest : r.targetsAlong sourceRole requiredCapability routes with
        | error error =>
          rw [htarget, hrest] at htargets
          cases htargets
        | ok rest =>
          rw [htarget, hrest] at htargets
          simp only [bind, Except.bind] at htargets
          rw [← ih hrest, Except.ok.injEq]
          split at htargets
          · rename_i hable
            obtain rfl : target :: rest = targets := Except.ok.inj htargets
            rw [List.mem_cons]
            refine or_congr_left ⟨?_, fun hend ↦ hend.2.1.symm⟩
            rintro rfl
            exact ⟨hrole, rfl, hable⟩
          · rename_i hunable
            obtain rfl : rest = targets := Except.ok.inj htargets
            refine (or_iff_right ?_).symm
            rintro ⟨-, rfl, hable⟩
            exact hunable hable
    · rw [if_pos hrole] at htargets
      rw [ih htargets]
      exact (or_iff_right fun hend ↦ hrole hend.1).symm

/-- Along all the routes, these are the eligible agents. -/
theorem Capable.mem_targetsAlong_iff (h : r.Capable) {targets : List AgentSpec}
    (htargets : r.targetsAlong source.role requiredCapability r.routes.entries = .ok targets)
    (agent : AgentSpec) :
    agent ∈ targets ↔ Eligible r source requiredCapability agent := by
  rw [mem_targetsAlong htargets]
  constructor
  · rintro ⟨⟨⟨sourceRole, targetRole⟩, route⟩, hroute, rfl, hfound, hoffers, hable⟩
    obtain ⟨agentId, hrole, hagent⟩ := getByRole_eq_ok.mp hfound
    obtain ⟨agent', hagent', rfl⟩ := h.roles_iff.mp hrole
    obtain rfl : agent' = agent := Option.some.inj (hagent'.symm.trans hagent)
    refine ⟨?_, ⟨route, Dict.mem_entries_iff.mp hroute, hable⟩, hoffers⟩
    rw [h.agentId_eq hagent]
    exact hagent
  · rintro ⟨hagent, ⟨route, hroute, hable⟩, hoffers⟩
    refine ⟨((source.role, agent.role), route), Dict.mem_entries_iff.mpr hroute, rfl, ?_, hoffers,
      hable⟩
    exact getByRole_eq_ok.mpr ⟨agent.agentId, h.roles_iff.mpr ⟨agent, hagent, rfl⟩, hagent⟩

end

/-! ## Whom it picks -/

theorem NamedBefore.trans {a b c : AgentSpec} (hab : NamedBefore a b) (hbc : NamedBefore b c) :
    NamedBefore a c :=
  le_trans (α := String) hab hbc

theorem NamedBefore.total (a b : AgentSpec) : NamedBefore a b ∨ NamedBefore b a :=
  le_total (α := String) a.agentId b.agentId

theorem PreferredTo.trans {priority : AgentSpec → Int} {a b c : AgentSpec}
    (hab : PreferredTo priority a b) (hbc : PreferredTo priority b c) :
    PreferredTo priority a c := by
  rcases hab with hab | ⟨hab, hnames⟩
  · rcases hbc with hbc | ⟨hbc, -⟩
    · exact .inl (by omega)
    · exact .inl (by omega)
  · rcases hbc with hbc | ⟨hbc, hnames'⟩
    · exact .inl (by omega)
    · exact .inr ⟨hab.trans hbc, hnames.trans hnames'⟩

theorem PreferredTo.total (priority : AgentSpec → Int) (a b : AgentSpec) :
    PreferredTo priority a b ∨ PreferredTo priority b a := by
  rcases lt_trichotomy (priority a) (priority b) with hlt | heq | hgt
  · exact .inr (.inl hlt)
  · exact (NamedBefore.total a b).imp (fun h ↦ .inr ⟨heq, h⟩) (fun h ↦ .inr ⟨heq.symm, h⟩)
  · exact .inl (.inl hgt)

/-- Who takes over.  If no role is asked for, it is the eligible agent with the smallest name.  If
one is, it is its agent, if eligible, and otherwise, of the eligible agents of the roles to fall back
to, the one with the highest priority and the smallest name. -/
structure Resolution (r : AgentRegistry) (source : AgentSpec) (targetRole : Option String)
    (requiredCapability : Option AgentCapabilityTag) (resolved : Option AgentSpec) : Prop where
  anyone : targetRole = none ∨ targetRole = some "" →
    IsFirst (Eligible r source requiredCapability) NamedBefore resolved
  primary : ∀ agent, Eligible r source requiredCapability agent → targetRole = some agent.role →
    agent.role ≠ "" → resolved = some agent
  fallback : ∀ role, targetRole = some role → role ≠ "" →
    (∀ agent, Eligible r source requiredCapability agent → agent.role ≠ role) →
      IsFirst
        (fun agent ↦ Eligible r source requiredCapability agent ∧
          agent.role ∈ r.fallbackRolesFor source.role role)
        (PreferredTo (r.priorityOf source.role role)) resolved

theorem Capable.resolution {r : AgentRegistry} (h : r.Capable) {sourceAgentId : String}
    {source : AgentSpec} (hsource : r.agents.get? sourceAgentId = some source)
    (targetRole : Option String) (requiredCapability : Option AgentCapabilityTag) :
    ∃ resolved, r.resolveHandoffTarget sourceAgentId targetRole requiredCapability = .ok resolved ∧
      Resolution r source targetRole requiredCapability resolved := by
  have hget : r.get sourceAgentId = .ok source := by rw [get, hsource]
  rw [resolveHandoffTarget, hget]
  simp only [bind, Except.bind]
  by_cases hnone : targetRole.getD "" = ""
  · rw [if_pos hnone]
    obtain ⟨targets, htargets⟩ :=
      h.targetsAlong_ok source.role requiredCapability fun _ he ↦ he
    rw [handoffTargets, hget]
    simp only [bind, Except.bind, htargets]
    refine ⟨_, rfl, ?_, ?_, ?_⟩
    · intro _
      exact Ranking.isFirst_head?_mergeSort (fun _ _ _ hab hbc ↦ hab.trans hbc) NamedBefore.total
        (h.mem_targetsAlong_iff htargets)
    · rintro agent - rfl hrole
      exact absurd hnone hrole
    · rintro role rfl hrole
      exact absurd hnone hrole
  · rw [if_neg hnone]
    obtain ⟨role, rfl⟩ : ∃ role, targetRole = some role := by
      cases targetRole with
      | none => exact absurd rfl hnone
      | some role => exact ⟨role, rfl⟩
    rw [Option.getD_some] at hnone ⊢
    obtain ⟨primary, hprimary, hfound⟩ :=
      eligibleForRole_spec h hsource requiredCapability role
    simp only [hprimary]
    cases primary with
    | some agent =>
      obtain ⟨heligible, rfl⟩ := (hfound agent).mp rfl
      refine ⟨some agent, rfl, ?_, ?_, ?_⟩
      · rintro (hrole | hrole)
        · cases hrole
        · exact absurd (Option.some.inj hrole) hnone
      · intro agent' heligible' hrole _
        exact (hfound agent').mpr ⟨heligible', (Option.some.inj hrole).symm⟩
      · rintro role hrole - hother
        exact absurd (Option.some.inj hrole) (hother agent heligible)
    | none =>
      obtain ⟨candidates, hloop, hmem⟩ := mem_fallbackCandidates h hsource requiredCapability
        [role] (r.fallbackRolesFor source.role role)
      have hother (agent : AgentSpec) (heligible : Eligible r source requiredCapability agent) :
          agent.role ≠ role := by
        intro hrole
        cases (hfound agent).mpr ⟨heligible, hrole⟩
      simp only [Option.isSome_none, Bool.false_eq_true, if_false, hloop]
      refine ⟨_, rfl, ?_, ?_, ?_⟩
      · rintro (hrole | hrole)
        · cases hrole
        · exact absurd (Option.some.inj hrole) hnone
      · intro agent heligible hrole _
        exact absurd (Option.some.inj hrole).symm (hother agent heligible)
      · rintro role' hrole - -
        obtain rfl : role = role' := Option.some.inj hrole
        refine Ranking.isFirst_head?_mergeSort (fun _ _ _ hab hbc ↦ hab.trans hbc)
          (PreferredTo.total _) fun agent ↦ ?_
        rw [hmem, List.mem_singleton]
        refine and_congr_right fun heligible ↦ ?_
        exact and_iff_left (hother agent heligible)

/-- **Handing over picks the best.**  In every registry that is reached, for every registered source,
every role and every capability asked for: the agent of the role takes over if it is eligible,
otherwise the first of the eligible agents of the roles to fall back to, by priority and then by
name, and nobody only if none of them is eligible.  If no role is asked for, the eligible agent with
the smallest name takes over. -/
theorem handoff_resolution (calls : List RegistryCall) (sourceAgentId : String)
    (source : AgentSpec) (targetRole : Option String)
    (requiredCapability : Option AgentCapabilityTag)
    (hsource : (Run.exec (fun r call ↦ RegistryCall.perform r call) .initial calls).agents.get?
      sourceAgentId = some source) :
    ∃ resolved,
      (Run.exec (fun r call ↦ RegistryCall.perform r call) .initial calls).resolveHandoffTarget
        sourceAgentId targetRole requiredCapability = .ok resolved ∧
      Resolution (Run.exec (fun r call ↦ RegistryCall.perform r call) .initial calls) source
        targetRole requiredCapability resolved :=
  (Capable.exec calls).resolution hsource targetRole requiredCapability

/-- Routes and fallbacks do not touch the agents. -/
@[simp] theorem agents_addHandoffRoute (route : HandoffRoute) (r : AgentRegistry) :
    (r.addHandoffRoute route).2.agents = r.agents := by
  rw [addHandoffRoute]
  cases r.routeError? route <;> rfl

@[simp] theorem agents_setHandoffFallbackPolicy (policy : HandoffFallbackPolicy)
    (r : AgentRegistry) : (r.setHandoffFallbackPolicy policy).2.agents = r.agents := by
  rw [setHandoffFallbackPolicy]
  cases r.fallbackError? policy with
  | some error => rfl
  | none =>
    dsimp only
    cases (r.putFallback policy).priorityError? policy <;> rfl

/-- A router, a reviewer to whom no route leads, and two backups, one of which has priority. -/
def backupCalls : List RegistryCall :=
  [.register { agentId := "agent_router", role := "router" },
    .register { agentId := "agent_reviewer", role := "reviewer" },
    .register { agentId := "agent_backup_a", role := "backup_a" },
    .register { agentId := "agent_backup_b", role := "backup_b" },
    .addHandoffRoute { sourceRole := "router", targetRole := "backup_a", reason := "fallback" },
    .addHandoffRoute { sourceRole := "router", targetRole := "backup_b", reason := "fallback" },
    .setHandoffFallbackPolicy
      { sourceRole := "router"
        targetRole := "reviewer"
        fallbackTargetRoles := ["backup_a", "backup_b"]
        targetRolePriorities := Dict.empty.set "backup_b" 100 }]

/-- The router hands over although no route leads to the reviewer. -/
theorem handoff_resolution_backup :
    ∃ resolved,
      (Run.exec (fun r call ↦ RegistryCall.perform r call) .initial
        backupCalls).resolveHandoffTarget "agent_router" (some "reviewer") none = .ok resolved ∧
      Resolution (Run.exec (fun r call ↦ RegistryCall.perform r call) .initial backupCalls)
        { agentId := "agent_router", role := "router" } (some "reviewer") none resolved :=
  handoff_resolution backupCalls "agent_router" { agentId := "agent_router", role := "router" }
    (some "reviewer") none (by
      simp only [backupCalls, Run.exec, RegistryCall.perform, agents_addHandoffRoute,
        agents_setHandoffFallbackPolicy]
      rfl)

end AgentRegistry
end Agents
end ExoBrain
