import ExoBrain.Agents.PluginLifecycle

/-!
# Unloading what has been loaded

`unload_plugin` unregisters the agents that `load_plugin` has registered, and the registry removes
with an agent what touches its role.  What the plugin has written between the roles of others is
not touched by that, and what others had configured for a role before anybody had it goes.

* `Cancels` says of one entry of a table of roles that writing it and removing the plugin's roles
  cancel out, and `AgentPlugin.LeavesNothing` says so of the three tables.
* `unload_undoes_load_iff`: after a load and an unload the registry is what it was exactly when the
  plugin leaves nothing.
* `leavesNothing_iff` is what remains of the condition where the registry is in order.
* `foreign_route_survives_unload` is a plugin that is loaded and unloaded and leaves a route.
-/

set_option autoImplicit false

namespace ExoBrain
namespace Agents

/-! ## One entry -/

/-- An entry may be written, and is then removed if it touches the plugin's own roles, or else purged
of them.  In the end it is what it was. -/
structure Cancels {ν : Type} (old : Option ν) (own : Prop) (written : Option ν) (purge : ν → ν) :
    Prop where
  /-- What is removed was not there. -/
  own_eq : own → old = none
  /-- What is left of what is written was there. -/
  written_eq : ¬own → ∀ {x}, written = some x → old = some (purge x)
  /-- What is purged had none of the roles. -/
  clean_eq : ¬own → written = none → ∀ {x}, old = some x → purge x = x

/-- `Cancels` is `Stands` where nothing is dropped before and nothing is written after. -/
theorem stands_initial_iff {ν : Type} {old : Option ν} {dropped own : Prop} {clean : ν → ν}
    {written : Option ν} {purge : ν → ν} (hkept : ¬dropped) (hclean : clean = id) :
    Stands old dropped clean written own purge none ↔ Cancels old own written purge := by
  subst hclean
  constructor
  · intro h
    exact ⟨h.undone_eq rfl, fun hforeign ↦ h.written_eq rfl hforeign,
      fun hforeign hunwritten ↦ h.clean_eq rfl hforeign hunwritten hkept⟩
  · intro h
    refine ⟨fun hnone ↦ (nomatch hnone), fun _ hown ↦ h.own_eq hown, ?_, ?_, ?_⟩
    · intro _ hforeign x hwritten
      exact h.written_eq hforeign hwritten
    · intro _ _ _ hdropped
      exact absurd hdropped hkept
    · intro _ hforeign hunwritten _ x hold
      exact h.clean_eq hforeign hunwritten hold

theorem withoutRoles_nil : withoutRoles [] = id :=
  funext fun _ ↦ List.filter_eq_self.mpr fun _ _ ↦ decide_eq_true List.not_mem_nil

theorem withoutPriorities_nil : withoutPriorities [] = id :=
  funext fun _ ↦ funext fun _ ↦ if_neg List.not_mem_nil

/-! ## A plugin -/

namespace AgentPlugin

/-- The roles of the agents that a plugin brings. -/
def ownRoles (plugin : AgentPlugin) : List String := plugin.agents.map AgentSpec.role

/-- The route that a plugin brings for a pair of roles; the last one counts. -/
def routeFor (plugin : AgentPlugin) (key : String × String) : Option HandoffRoute :=
  Dict.lastWritten HandoffRoute.key (fun route ↦ route) plugin.routes key

/-- The roles to fall back to that it brings. -/
def fallbackFor (plugin : AgentPlugin) (key : String × String) : Option (List String) :=
  Dict.lastWritten HandoffFallbackPolicy.key HandoffFallbackPolicy.normalizedRoles
    plugin.fallbackPolicies key

/-- The priorities that it brings, as they are looked up. -/
def prioritiesFor (plugin : AgentPlugin) (key : String × String) : Option (String → Option Int) :=
  Dict.lastWritten HandoffFallbackPolicy.key (fun policy ↦ policy.normalizedPriorities.get?)
    plugin.fallbackPolicies key

/-- Whatever a plugin brings, once its roles are removed the tables are what they were. -/
structure LeavesNothing (plugin : AgentPlugin) (r : AgentRegistry) : Prop where
  routes : ∀ key, Cancels (r.routes.get? key) (Touches plugin.ownRoles key)
    (plugin.routeFor key) id
  fallbacks : ∀ key, Cancels (r.fallbackRoles.get? key) (key.1 ∈ plugin.ownRoles)
    (plugin.fallbackFor key) (withoutRoles plugin.ownRoles)
  priorities : ∀ key, Cancels (r.priorities key) (key.1 ∈ plugin.ownRoles)
    (plugin.prioritiesFor key) (withoutPriorities plugin.ownRoles)

theorem restored_all_iff {plugin : AgentPlugin} {r : AgentRegistry} :
    Restored r plugin.all {} ↔ plugin.LeavesNothing r := by
  have hroles : ({} : Declared).roles = [] := rfl
  have huntouched (key : String × String) : ¬Touches ({} : Declared).roles key :=
    not_or.mpr ⟨List.not_mem_nil, List.not_mem_nil⟩
  have hkept (key : String × String) : key.1 ∉ ({} : Declared).roles := List.not_mem_nil
  constructor
  · intro h
    refine ⟨fun key ↦ ?_, fun key ↦ ?_, fun key ↦ ?_⟩
    · exact (stands_initial_iff (huntouched key) rfl).mp (h.routes key)
    · exact (stands_initial_iff (hkept key) withoutRoles_nil).mp (h.fallbacks key)
    · exact (stands_initial_iff (hkept key) withoutPriorities_nil).mp (h.priorities key)
  · intro h
    refine ⟨fun key ↦ ?_, fun key ↦ ?_, fun key ↦ ?_⟩
    · exact (stands_initial_iff (huntouched key) rfl).mpr (h.routes key)
    · exact (stands_initial_iff (hkept key) withoutRoles_nil).mpr (h.fallbacks key)
    · exact (stands_initial_iff (hkept key) withoutPriorities_nil).mpr (h.priorities key)

end AgentPlugin

/-! ### Where the registry is in order -/

/-- What is purged of roles that it does not name stays what it is. -/
theorem withoutRoles_eq_self_iff {names roles : List String} :
    withoutRoles names roles = roles ↔ ∀ role ∈ roles, role ∉ names := by
  rw [withoutRoles, List.filter_eq_self]
  exact forall₂_congr fun _ _ ↦ decide_eq_true_iff

/-- **In a registry that is in order**, nothing is filed for roles that are still free, so what
counts is what the plugin brings for the roles of others, and who waits for its roles. -/
theorem AgentRegistry.Inv.leavesNothing_iff {r : AgentRegistry} {plugin : AgentPlugin} (h : r.Inv)
    (hfresh : plugin.all.Fresh r) : plugin.LeavesNothing r ↔
      (∀ {key route}, plugin.routeFor key = some route → ¬Touches plugin.ownRoles key →
        r.routes.get? key = some route) ∧
      (∀ {key roles}, plugin.fallbackFor key = some roles → key.1 ∉ plugin.ownRoles →
        r.fallbackRoles.get? key = some (withoutRoles plugin.ownRoles roles)) ∧
      (∀ {key roles}, plugin.fallbackFor key = none → r.fallbackRoles.get? key = some roles →
        ∀ role ∈ roles, role ∉ plugin.ownRoles) ∧
      ∀ {key priority}, plugin.prioritiesFor key = some priority → key.1 ∉ plugin.ownRoles →
        r.priorities key = some (withoutPriorities plugin.ownRoles priority) := by
  have hfree {role : String} (hown : role ∈ plugin.ownRoles) : role ∉ r.roles.keys := by
    obtain ⟨agent, hagent, rfl⟩ := List.mem_map.mp hown
    exact hfresh.role_free agent hagent
  constructor
  · intro hleaves
    refine ⟨?_, ?_, ?_, ?_⟩
    · intro key route hroute hforeign
      exact (hleaves.routes key).written_eq hforeign hroute
    · intro key roles hroles hforeign
      exact (hleaves.fallbacks key).written_eq hforeign hroles
    · intro key roles hunwritten hroles
      refine withoutRoles_eq_self_iff.mp ((hleaves.fallbacks key).clean_eq ?_ hunwritten hroles)
      exact fun hown ↦ hfree hown (h.fallbacks_known hroles)
    · intro key priority hpriority hforeign
      exact (hleaves.priorities key).written_eq hforeign hpriority
  · rintro ⟨hroutes, hfallbacks, hnamed, hpriorities⟩
    refine ⟨fun key ↦ ⟨?_, ?_, ?_⟩, fun key ↦ ⟨?_, ?_, ?_⟩, fun key ↦ ⟨?_, ?_, ?_⟩⟩
    · intro hown
      by_contra hne
      obtain ⟨route, hroute⟩ := Option.ne_none_iff_exists'.mp hne
      obtain ⟨hsource, htarget⟩ := h.routes_known hroute
      rcases hown with hown | hown
      · exact hfree hown hsource
      · exact hfree hown htarget
    · exact fun hforeign _ hroute ↦ hroutes hroute hforeign
    · exact fun _ _ _ _ ↦ rfl
    · intro hown
      by_contra hne
      obtain ⟨roles, hroles⟩ := Option.ne_none_iff_exists'.mp hne
      exact hfree hown (h.fallbacks_known hroles)
    · exact fun hforeign _ hroles ↦ hfallbacks hroles hforeign
    · exact fun _ hunwritten _ hroles ↦ withoutRoles_eq_self_iff.mpr (hnamed hunwritten hroles)
    · intro hown
      by_contra hne
      obtain ⟨priority, hpriority⟩ := Option.ne_none_iff_exists'.mp hne
      obtain ⟨priorities, hfound, -⟩ := Option.map_eq_some_iff.mp hpriority
      exact hfree hown (h.priorities_known hfound).1
    · exact fun hforeign _ hpriority ↦ hpriorities hpriority hforeign
    · -- A priority is only ever filed for a role that is there.
      intro _ _ priority hpriority
      obtain ⟨priorities, hfound, rfl⟩ := Option.map_eq_some_iff.mp hpriority
      funext role
      rw [withoutPriorities]
      split
      · rename_i hown
        exact (Dict.get?_eq_none_iff.mpr fun hmem ↦
          hfree hown ((h.priorities_known hfound).2 role hmem)).symm
      · rfl

/-! ## Loading and unloading -/

section Manager

variable {π : Type} {policy : LifecyclePolicy π}

namespace AgentPluginManager

variable {m : AgentPluginManager π} {plugin : AgentPlugin}

/-- A load that does not raise has written everything that the plugin brings. -/
theorem loadPlugin_eq_none (h : (m.loadPlugin policy plugin).1 = none) :
    plugin.Fits m.registry ∧
      (m.loadPlugin policy plugin).2.registry = plugin.all.writeTo m.registry ∧
      (m.loadPlugin policy plugin).2.pluginAgentIds.get? plugin.manifest.pluginId =
        some plugin.all.agentIds := by
  have hsucceeds : ¬(m.Refuses policy plugin ∨ ¬plugin.Fits m.registry) :=
    fun hfails ↦ (loadPlugin_fails hfails).1 h
  rw [not_or, not_not] at hsucceeds
  obtain ⟨hnot, hfits⟩ := hsucceeds
  obtain ⟨-, records, hloaded⟩ := loadPlugin_succeeds hnot hfits
  rw [hloaded]
  refine ⟨hfits, rfl, ?_⟩
  dsimp only
  rw [Dict.get?_set, if_pos rfl]

/-- An unload that does not raise has unregistered the agents that are filed for the plugin. -/
theorem unloadPlugin_eq_none {pluginId : String} {active : Bool}
    (h : (m.unloadPlugin policy pluginId active).1 = none) :
    (m.unloadPlugin policy pluginId active).2.registry =
      unregisterAll ((m.pluginAgentIds.get? pluginId).getD []).reverse m.registry := by
  have hsucceeds : ¬(¬policy.Allows "unload" pluginId active m.policyState ∨ active = true ∨
      pluginId ∉ m.plugins.keys) := fun hfails ↦ (unloadPlugin_fails hfails).1 h
  rw [not_or, not_or, not_not, not_not] at hsucceeds
  obtain ⟨hallow, hactive, hin⟩ := hsucceeds
  obtain ⟨-, records, hunloaded⟩ := unloadPlugin_succeeds hallow hactive hin
  rw [hunloaded]
  rfl

/-- **A load and an unload** write the plugin and undo it. -/
theorem registry_unload_load {active : Bool} (hload : (m.loadPlugin policy plugin).1 = none)
    (hunload : ((m.loadPlugin policy plugin).2.unloadPlugin policy plugin.manifest.pluginId
      active).1 = none) :
    plugin.all.Fresh m.registry ∧
      ((m.loadPlugin policy plugin).2.unloadPlugin policy plugin.manifest.pluginId
        active).2.registry = plugin.all.undo m.registry := by
  obtain ⟨hfits, hwritten, hids⟩ := loadPlugin_eq_none hload
  have hfresh : plugin.all.Fresh m.registry :=
    hfits.declared_eq ▸ Declared.fresh_declared plugin m.registry
  refine ⟨hfresh, ?_⟩
  rw [unloadPlugin_eq_none hunload, hids, hwritten, Option.getD_some,
    Declared.unregisterAll_writeTo hfresh.nodup]

end AgentPluginManager

variable (policy)

/-- **Unloading undoes loading** exactly when the plugin leaves nothing: whatever the registry, the
policy and the plugin are, if neither call raises, then agents, roles, routes, fallbacks and
priorities are what they were before the load exactly when, for every pair of roles, the entry that
touches a role of the plugin did not exist, the entry that the plugin writes between others was
there already, and no other entry names a role of the plugin. -/
theorem unload_undoes_load_iff (m : AgentPluginManager π) (plugin : AgentPlugin) (active : Bool)
    (hload : (m.loadPlugin policy plugin).1 = none)
    (hunload : ((m.loadPlugin policy plugin).2.unloadPlugin policy plugin.manifest.pluginId
      active).1 = none) :
    m.registry.Same ((m.loadPlugin policy plugin).2.unloadPlugin policy plugin.manifest.pluginId
        active).2.registry ↔
      plugin.LeavesNothing m.registry := by
  obtain ⟨hfresh, hundone⟩ := AgentPluginManager.registry_unload_load hload hunload
  rw [hundone, AgentPluginManager.same_undo_iff hfresh, AgentPlugin.restored_all_iff]

end Manager

/-- A plugin that brings an agent and a route to it leaves nothing. -/
theorem unload_undoes_load_reviewer :
    let m := Run.exec (LifecycleStep.perform allowAllLifecyclePolicy) (.initial 1 ())
      [.register { agentId := "a", role := "router" }]
    let plugin : AgentPlugin :=
      { manifest := ⟨"p", "1.0.0", 1⟩
        agents := [{ agentId := "c", role := "reviewer" }]
        routes := [⟨"router", "reviewer", "review", ∅⟩] }
    m.registry.Same ((m.loadPlugin allowAllLifecyclePolicy plugin).2.unloadPlugin
      allowAllLifecyclePolicy plugin.manifest.pluginId false).2.registry := by
  refine (unload_undoes_load_iff allowAllLifecyclePolicy _ _ false (by decide +kernel)
    (by decide +kernel)).mpr ⟨fun key ↦ ⟨fun _ ↦ rfl, fun hforeign route hroute ↦ ?_, ?_⟩, ?_, ?_⟩
  · -- The one route of the plugin touches its role.
    obtain ⟨found, hfound, rfl, -⟩ := Dict.lastWritten_eq_some hroute
    obtain rfl := List.mem_singleton.mp hfound
    exact absurd (.inr (by decide)) hforeign
  · exact fun _ _ route hroute ↦ nomatch hroute
  · exact fun key ↦ ⟨fun _ ↦ rfl, fun _ _ hfallback ↦ (nomatch hfallback),
      fun _ _ _ hfallback ↦ (nomatch hfallback)⟩
  · exact fun key ↦ ⟨fun _ ↦ rfl, fun _ _ hpriority ↦ (nomatch hpriority),
      fun _ _ _ hpriority ↦ (nomatch hpriority)⟩

/-- Router and planner are registered by others.  A plugin without agents brings a route between
them: once it has been unloaded the route is still there. -/
theorem foreign_route_survives_unload :
    let m := Run.exec (LifecycleStep.perform allowAllLifecyclePolicy) (.initial 1 ())
      [.register { agentId := "a", role := "router" }, .register { agentId := "b", role := "planner" }]
    let plugin : AgentPlugin :=
      { manifest := ⟨"p", "1.0.0", 1⟩, routes := [⟨"router", "planner", "plan", ∅⟩] }
    let loaded := m.loadPlugin allowAllLifecyclePolicy plugin
    let unloaded := loaded.2.unloadPlugin allowAllLifecyclePolicy "p" false
    loaded.1 = none ∧ unloaded.1 = none ∧ ¬m.registry.Same unloaded.2.registry := by
  refine ⟨by decide +kernel, by decide +kernel, fun hsame ↦ ?_⟩
  have hroute := hsame.routes_eq ("router", "planner")
  revert hroute
  decide +kernel

end Agents
end ExoBrain
