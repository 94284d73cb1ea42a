import ExoBrain.Agents.PluginRollback
import ExoBrain.Lib.Run

/-!
# When a failed load or reload changes nothing

A call of the manager is taken apart into one lemma for each way it can end (`loadPlugin_fails`,
`loadPlugin_succeeds`, `unloadPlugin_fails`, `unloadPlugin_succeeds`), and the invariant of the
manager follows from them.

* `loadPlugin_unchanged_iff`: a load that raises leaves everything as it was exactly when it is
  refused before it has registered anything, or what it leaves of every entry is the old entry.
* `reloadPlugin_unchanged_iff`: for a reload, the old version must also still be registered as it
  was loaded, and be loaded again without being refused.
* `failed_call_changes_nothing_iff` says both of every manager that is reached.
* `half_declared_plugin_leaves_fallback` is a load that raises and leaves something behind.
-/

set_option autoImplicit false

namespace ExoBrain
namespace Agents

/-! ## How a call ends -/

section Manager

variable {π : Type} (policy : LifecyclePolicy π)

instance (action pluginId : String) (active : Bool) (state : π) :
    Decidable (policy.Allows action pluginId active state) :=
  match h : (policy action pluginId active state).1 with
  | .decided decision =>
    decidable_of_iff (decision.decision = .allow) (by simp [LifecyclePolicy.Allows, h])
  | .raised message => isFalse (by simp [LifecyclePolicy.Allows, h])

namespace AgentPluginManager

variable (plugin : AgentPlugin) (m : AgentPluginManager π)

theorem authorize_fst (action pluginId : String) (active : Bool) :
    (m.authorize policy action pluginId active).1 = none ↔
      policy.Allows action pluginId active m.policyState := by
  rw [authorize, LifecyclePolicy.Allows]
  rcases policy action pluginId active m.policyState with ⟨decision | message, state⟩
  · by_cases hallow : decision.decision = .allow <;> simp [hallow]
  · simp

/-- Asking the policy changes its state and the audit records only. -/
theorem authorize_snd (action pluginId : String) (active : Bool) :
    ∃ records, (m.authorize policy action pluginId active).2 =
      { m with
        policyState := (policy action pluginId active m.policyState).2
        lifecycleAuditRecords := records } := by
  rw [authorize]
  rcases policy action pluginId active m.policyState with ⟨decision | message, state⟩
  · refine ⟨m.lifecycleAuditRecords ++ [⟨action, pluginId, decision.decision, decision.reasonCode,
      decision.message⟩], ?_⟩
    dsimp only
    split <;> rfl
  · exact ⟨m.lifecycleAuditRecords, rfl⟩

/-! ### Loading -/

/-- A load is refused before anything is registered. -/
def Refuses : Prop :=
  plugin.manifest.compatibleCoreMajor ≠ m.coreMajorVersion ∨
    ¬policy.Allows "load" plugin.manifest.pluginId false m.policyState ∨
    plugin.manifest.pluginId ∈ m.plugins.keys

instance : Decidable (m.Refuses policy plugin) := inferInstanceAs (Decidable (_ ∨ _))

/-- The state of the policy after a load. -/
def stateAfterLoad : π :=
  if plugin.manifest.compatibleCoreMajor ≠ m.coreMajorVersion then m.policyState
  else (policy "load" plugin.manifest.pluginId false m.policyState).2

/-- What a load writes until it is refused. -/
def declaredBy : Declared :=
  if m.Refuses policy plugin then {} else plugin.declared m.registry

variable {policy plugin m}

theorem declaredBy_of_refuses (h : m.Refuses policy plugin) : m.declaredBy policy plugin = {} :=
  if_pos h

theorem declaredBy_of_not_refuses (h : ¬m.Refuses policy plugin) :
    m.declaredBy policy plugin = plugin.declared m.registry :=
  if_neg h

theorem undo_none (r : AgentRegistry) : ({} : Declared).undo r = r := r.drop_nil

/-- **A load that fails** changes what the rollback does not undo. -/
theorem loadPlugin_fails (h : m.Refuses policy plugin ∨ ¬plugin.Fits m.registry) :
    (m.loadPlugin policy plugin).1 ≠ none ∧ ∃ records, (m.loadPlugin policy plugin).2 =
      { m with
        registry := (m.declaredBy policy plugin).undo m.registry
        policyState := m.stateAfterLoad policy plugin
        lifecycleAuditRecords := records } := by
  rw [loadPlugin, validateCompatibility, stateAfterLoad]
  by_cases hcore : plugin.manifest.compatibleCoreMajor ≠ m.coreMajorVersion
  · rw [declaredBy_of_refuses (.inl hcore), undo_none, if_pos hcore, if_pos hcore]
    exact ⟨Option.some_ne_none _, m.lifecycleAuditRecords, rfl⟩
  · rw [if_neg hcore, if_neg hcore]
    obtain ⟨records, hasked⟩ := m.authorize_snd policy "load"
      plugin.manifest.pluginId false
    have hallows := m.authorize_fst policy "load" plugin.manifest.pluginId false
    rcases hask : m.authorize policy "load" plugin.manifest.pluginId false with ⟨_ | error, m'⟩
    · rw [hask] at hasked hallows
      obtain rfl : m' = _ := hasked
      by_cases hloaded : plugin.manifest.pluginId ∈ m.plugins.keys
      · rw [declaredBy_of_refuses (.inr (.inr hloaded)), undo_none]
        simp only [hask, if_pos hloaded]
        exact ⟨Option.some_ne_none _, records, rfl⟩
      · have hnot : ¬m.Refuses policy plugin := by
          rintro (hne | hforbidden | hin)
          · exact hcore hne
          · exact hforbidden (hallows.mp rfl)
          · exact hloaded hin
        obtain ⟨hfits, hwritten⟩ := declare_eq plugin m.registry
        rw [declaredBy_of_not_refuses hnot]
        rcases hdeclare : plugin.declare m.registry with ⟨_ | error, registeredIds, r⟩
        · rw [hdeclare] at hfits
          exact absurd (hfits.mp rfl) (h.resolve_left hnot)
        · rw [hdeclare] at hwritten
          obtain ⟨rfl, rfl⟩ := Prod.mk.inj hwritten
          simp only [hask, if_neg hloaded, hdeclare]
          refine ⟨Option.some_ne_none _, records, ?_⟩
          rw [Declared.unregisterAll_writeTo (Declared.fresh_declared plugin m.registry).nodup]
    · rw [hask] at hasked hallows
      obtain rfl : m' = _ := hasked
      have hforbidden : ¬policy.Allows "load" plugin.manifest.pluginId false m.policyState :=
        fun hallow ↦ nomatch hallows.mpr hallow
      rw [declaredBy_of_refuses (.inr (.inl hforbidden)), undo_none]
      simp only [hask]
      exact ⟨Option.some_ne_none _, records, rfl⟩

/-- **A load that succeeds** has written everything. -/
theorem loadPlugin_succeeds (h : ¬m.Refuses policy plugin) (hfits : plugin.Fits m.registry) :
    (m.loadPlugin policy plugin).1 = none ∧ ∃ records, (m.loadPlugin policy plugin).2 =
      { m with
        registry := plugin.all.writeTo m.registry
        policyState := m.stateAfterLoad policy plugin
        plugins := m.plugins.set plugin.manifest.pluginId plugin
        pluginAgentIds := m.pluginAgentIds.set plugin.manifest.pluginId plugin.all.agentIds
        lifecycleAuditRecords := records } := by
  rw [Refuses, not_or, not_or, not_not, not_not] at h
  obtain ⟨hcore, hallow, hloaded⟩ := h
  rw [loadPlugin, validateCompatibility, stateAfterLoad, if_neg (not_not.mpr hcore),
    if_neg (not_not.mpr hcore)]
  obtain ⟨records, hasked⟩ := m.authorize_snd policy "load"
    plugin.manifest.pluginId false
  have hallows := (m.authorize_fst policy "load" plugin.manifest.pluginId false).mpr hallow
  obtain ⟨hdeclared, hwritten⟩ := declare_eq plugin m.registry
  rw [hfits.declared_eq] at hwritten
  have hask : m.authorize policy "load" plugin.manifest.pluginId false = (none, _) :=
    Prod.ext hallows hasked
  have hdeclare : plugin.declare m.registry = (none, _) := Prod.ext (hdeclared.mpr hfits) hwritten
  simp only [hask, if_neg hloaded, hdeclare]
  exact ⟨trivial, _, rfl⟩

/-! ### Unloading -/

variable (policy m)

/-- The manager after a plugin has been unloaded. -/
def unloaded (pluginId : String) (active : Bool) : AgentPluginManager π :=
  { m with
    registry := unregisterAll ((m.pluginAgentIds.get? pluginId).getD []).reverse m.registry
    policyState := (policy "unload" pluginId active m.policyState).2
    plugins := m.plugins.erase pluginId
    pluginAgentIds := m.pluginAgentIds.erase pluginId }

variable {policy m}

theorem unloadPlugin_fails {pluginId : String} {active : Bool}
    (h : ¬policy.Allows "unload" pluginId active m.policyState ∨ active = true ∨
      pluginId ∉ m.plugins.keys) :
    (m.unloadPlugin policy pluginId active).1 ≠ none ∧
      ∃ records, (m.unloadPlugin policy pluginId active).2 =
        { m with
          policyState := (policy "unload" pluginId active m.policyState).2
          lifecycleAuditRecords := records } := by
  obtain ⟨records, hasked⟩ := m.authorize_snd policy "unload" pluginId active
  have hallows := m.authorize_fst policy "unload" pluginId active
  rw [unloadPlugin]
  rcases hask : m.authorize policy "unload" pluginId active with ⟨_ | error, m'⟩
  · rw [hask] at hasked hallows
    obtain rfl : m' = _ := hasked
    by_cases hactive : active = true
    · simp only [if_pos hactive]
      exact ⟨Option.some_ne_none _, records, rfl⟩
    · have hin : pluginId ∉ m.plugins.keys :=
        (h.resolve_left (not_not.mpr (hallows.mp rfl))).resolve_left hactive
      simp only [if_neg hactive, if_pos hin]
      exact ⟨Option.some_ne_none _, records, rfl⟩
  · rw [hask] at hasked
    obtain rfl : m' = _ := hasked
    exact ⟨Option.some_ne_none _, records, rfl⟩

theorem unloadPlugin_succeeds {pluginId : String} {active : Bool}
    (hallow : policy.Allows "unload" pluginId active m.policyState) (hactive : ¬active = true)
    (hin : pluginId ∈ m.plugins.keys) :
    (m.unloadPlugin policy pluginId active).1 = none ∧
      ∃ records, (m.unloadPlugin policy pluginId active).2 =
        { m.unloaded policy pluginId active with lifecycleAuditRecords := records } := by
  obtain ⟨records, hasked⟩ := m.authorize_snd policy "unload" pluginId active
  have hask : m.authorize policy "unload" pluginId active = (none, _) :=
    Prod.ext ((m.authorize_fst policy "unload" pluginId active).mpr hallow) hasked
  rw [unloadPlugin]
  simp only [hask, if_neg hactive, if_neg (not_not.mpr hin)]
  exact ⟨trivial, _, rfl⟩

/-! ### The invariant -/

/-- A plugin is filed under its id with the ids of its agents, and may be loaded again. -/
structure Filed (m : AgentPluginManager π) (pluginId : String) (plugin : AgentPlugin) : Prop where
  pluginId_eq : plugin.manifest.pluginId = pluginId
  compatible : plugin.manifest.compatibleCoreMajor = m.coreMajorVersion
  agentIds_eq : m.pluginAgentIds.get? pluginId = some plugin.all.agentIds

/-- The registry is in order, and what is loaded is filed. -/
structure Inv (m : AgentPluginManager π) : Prop where
  registry : m.registry.Inv
  filed : ∀ {pluginId : String} {plugin : AgentPlugin},
    m.plugins.get? pluginId = some plugin → m.Filed pluginId plugin

end AgentPluginManager

namespace AgentRegistry.Inv

variable {r : AgentRegistry}

theorem registerAll (h : r.Inv) (agents : List AgentSpec) :
    (Agents.registerAll agents r).2.2.Inv := by
  induction agents generalizing r with
  | nil => exact h
  | cons agent agents ih =>
    have hagent := h.register agent
    rw [Agents.registerAll]
    rcases hregister : r.register agent with ⟨_ | error, r'⟩ <;> rw [hregister] at hagent
    · exact ih hagent
    · exact hagent

theorem declareAll {α : Type}
    {declareOne : α → AgentRegistry → Option RegistryError × AgentRegistry}
    (hone : ∀ x {r : AgentRegistry}, r.Inv → (declareOne x r).2.Inv) (h : r.Inv) (xs : List α) :
    (Agents.declareAll declareOne xs r).2.Inv := by
  induction xs generalizing r with
  | nil => exact h
  | cons x xs ih =>
    have hx := hone x h
    rw [Agents.declareAll]
    rcases hdeclare : declareOne x r with ⟨_ | error, r'⟩ <;> rw [hdeclare] at hx
    · exact ih hx
    · exact hx

theorem declare (h : r.Inv) (plugin : AgentPlugin) : (plugin.declare r).2.2.Inv := by
  have hagents := h.registerAll plugin.agents
  rw [AgentPlugin.declare]
  rcases hregister : Agents.registerAll plugin.agents r with ⟨_ | error, registeredIds, r'⟩ <;>
    rw [hregister] at hagents
  · have hroutes := declareAll (fun route _ hr ↦ hr.addHandoffRoute route) hagents plugin.routes
    dsimp only
    rcases hdeclare : Agents.declareAll AgentRegistry.addHandoffRoute plugin.routes r' with
      ⟨_ | error, r''⟩ <;> rw [hdeclare] at hroutes
    · exact declareAll (fun policy _ hr ↦ hr.setHandoffFallbackPolicy policy) hroutes
        plugin.fallbackPolicies
    · exact hroutes
  · exact hagents

theorem writeTo (h : r.Inv) (plugin : AgentPlugin) : ((plugin.declared r).writeTo r).Inv := by
  have hdeclare := h.declare plugin
  rwa [(declare_eq plugin r).2] at hdeclare

theorem unregisterAll (h : r.Inv) (agentIds : List String) :
    (Agents.unregisterAll agentIds r).Inv := by
  induction agentIds generalizing r with
  | nil => exact h
  | cons agentId agentIds ih => exact ih (h.unregister agentId)

theorem undo (h : r.Inv) (plugin : AgentPlugin) : ((plugin.declared r).undo r).Inv := by
  rw [← Declared.unregisterAll_writeTo (Declared.fresh_declared plugin r).nodup]
  exact (h.writeTo plugin).unregisterAll _

end AgentRegistry.Inv

namespace AgentPluginManager.Inv

variable {m : AgentPluginManager π}

/-- The state of the policy and the audit records may be anything, and the registry anything that
is in order. -/
theorem asked (h : m.Inv) {r : AgentRegistry} (hr : r.Inv) (state : π)
    (records : List LifecycleAuditRecord) :
    { m with registry := r, policyState := state, lifecycleAuditRecords := records }.Inv where
  registry := hr
  filed hfound := ⟨(h.filed hfound).pluginId_eq, (h.filed hfound).compatible,
    (h.filed hfound).agentIds_eq⟩

theorem undo_declaredBy (h : m.Inv) (plugin : AgentPlugin) :
    ((m.declaredBy policy plugin).undo m.registry).Inv := by
  by_cases hrefuses : m.Refuses policy plugin
  · rw [declaredBy_of_refuses hrefuses, undo_none]
    exact h.registry
  · rw [declaredBy_of_not_refuses hrefuses]
    exact h.registry.undo plugin

theorem loadPlugin (h : m.Inv) (plugin : AgentPlugin) : (m.loadPlugin policy plugin).2.Inv := by
  by_cases hfails : m.Refuses policy plugin ∨ ¬plugin.Fits m.registry
  · obtain ⟨-, records, heq⟩ := loadPlugin_fails hfails
    rw [heq]
    exact h.asked (h.undo_declaredBy policy plugin) _ records
  · obtain ⟨hnot, hfits⟩ := not_or.mp hfails
    rw [not_not] at hfits
    obtain ⟨-, records, heq⟩ := loadPlugin_succeeds hnot hfits
    have hcore : plugin.manifest.compatibleCoreMajor = m.coreMajorVersion :=
      not_not.mp fun hcore ↦ hnot (.inl hcore)
    have hwritten := h.registry.writeTo plugin
    rw [hfits.declared_eq] at hwritten
    rw [heq]
    refine ⟨hwritten, fun {pluginId found} hfound ↦ ?_⟩
    dsimp only at hfound
    rw [Dict.get?_set] at hfound
    split at hfound
    · rename_i hid
      obtain rfl := Option.some.inj hfound
      exact ⟨hid.symm, hcore, by rw [Dict.get?_set, if_pos hid]⟩
    · rename_i hid
      have hfiled := h.filed hfound
      exact ⟨hfiled.pluginId_eq, hfiled.compatible, by
        rw [Dict.get?_set, if_neg hid, hfiled.agentIds_eq]⟩

theorem unloaded (h : m.Inv) (pluginId : String) (active : Bool) :
    (m.unloaded policy pluginId active).Inv := by
  refine ⟨h.registry.unregisterAll _, fun {other found} hfound ↦ ?_⟩
  dsimp only [AgentPluginManager.unloaded] at hfound
  rw [Dict.get?_erase] at hfound
  split at hfound
  · exact nomatch hfound
  · rename_i hid
    have hfiled := h.filed hfound
    refine ⟨hfiled.pluginId_eq, hfiled.compatible, ?_⟩
    dsimp only [AgentPluginManager.unloaded]
    rw [Dict.get?_erase, if_neg hid, hfiled.agentIds_eq]

theorem unloadPlugin (h : m.Inv) (pluginId : String) (active : Bool) :
    (m.unloadPlugin policy pluginId active).2.Inv := by
  by_cases hfails : ¬policy.Allows "unload" pluginId active m.policyState ∨ active = true ∨
      pluginId ∉ m.plugins.keys
  · obtain ⟨-, records, heq⟩ := unloadPlugin_fails hfails
    rw [heq]
    exact h.asked h.registry _ records
  · obtain ⟨hallow, hrest⟩ := not_or.mp hfails
    obtain ⟨hactive, hin⟩ := not_or.mp hrest
    obtain ⟨-, records, heq⟩ := unloadPlugin_succeeds (not_not.mp hallow) hactive (not_not.mp hin)
    rw [heq]
    have hunloaded := h.unloaded policy pluginId active
    exact hunloaded.asked hunloaded.registry _ records

theorem loadOrRestore (h : m.Inv) (plugin : AgentPlugin) (previousPlugin : Option AgentPlugin) :
    (m.loadOrRestore policy plugin previousPlugin).2.Inv := by
  have hloaded := h.loadPlugin policy plugin
  rw [AgentPluginManager.loadOrRestore]
  rcases hload : m.loadPlugin policy plugin with ⟨_ | error, m'⟩ <;> rw [hload] at hloaded
  · exact hloaded.asked hloaded.registry m'.policyState _
  · cases previousPlugin with
    | none => exact hloaded
    | some previous =>
      have hrestored := hloaded.loadPlugin policy previous
      dsimp only at hrestored ⊢
      rcases hrestore : m'.loadPlugin policy previous with ⟨_ | restoreError, m''⟩ <;>
        rw [hrestore] at hrestored <;> exact hrestored

theorem reloadPlugin (h : m.Inv) (plugin : AgentPlugin) (active : Bool) :
    (m.reloadPlugin policy plugin active).2.Inv := by
  obtain ⟨records, hasked⟩ := m.authorize_snd policy "reload" plugin.manifest.pluginId active
  have hinv := h.asked h.registry
    (policy "reload" plugin.manifest.pluginId active m.policyState).2 records
  rw [← hasked] at hinv
  rw [AgentPluginManager.reloadPlugin]
  rcases hask : m.authorize policy "reload" plugin.manifest.pluginId active with ⟨_ | error, m'⟩ <;>
    rw [hask] at hinv
  · dsimp only at hinv ⊢
    split
    · have hunloaded := hinv.unloadPlugin policy plugin.manifest.pluginId active
      rcases hunload : m'.unloadPlugin policy plugin.manifest.pluginId active with
        ⟨_ | error, m''⟩ <;> rw [hunload] at hunloaded
      · exact hunloaded.loadOrRestore policy plugin _
      · exact hunloaded
    · exact hinv.loadOrRestore policy plugin _
  · exact hinv

end AgentPluginManager.Inv

/-! ## The condition -/

namespace AgentPluginManager

variable {policy} {plugin : AgentPlugin} {m m' : AgentPluginManager π}

/-- Agents, roles, routes, fallbacks, priorities and the loaded plugins are the same. -/
structure Unchanged (m m' : AgentPluginManager π) : Prop where
  registry : m.registry.Same m'.registry
  plugins_eq : ∀ pluginId, m'.plugins.get? pluginId = m.plugins.get? pluginId

/-- Nothing is said of the state of the policy and the audit records. -/
theorem unchanged_asked {state : π} {records : List LifecycleAuditRecord} :
    { m with policyState := state, lifecycleAuditRecords := records }.Unchanged m' ↔
      m.Unchanged m' :=
  ⟨fun h ↦ ⟨h.registry, h.plugins_eq⟩, fun h ↦ ⟨h.registry, h.plugins_eq⟩⟩

theorem unchanged_of_eq (hregistry : m'.registry = m.registry) (hplugins : m'.plugins = m.plugins) :
    m.Unchanged m' :=
  ⟨hregistry ▸ ⟨fun _ ↦ rfl, fun _ ↦ rfl, fun _ ↦ rfl, fun _ ↦ rfl, fun _ ↦ rfl⟩,
    fun _ ↦ by rw [hplugins]⟩

variable (policy plugin m) in
/-- A load is refused before it has registered anything, or every entry stands. -/
def LoadChangesNothing : Prop :=
  m.Refuses policy plugin ∨ Restored m.registry (plugin.declared m.registry) {}

theorem same_undo_iff {d : Declared} {r : AgentRegistry} (h : d.Fresh r) :
    r.Same (d.undo r) ↔ Restored r d {} := by
  have hreplay : Declared.replay d {} r = d.undo r := by
    rw [Declared.replay, Declared.agentIds, Declared.roles, List.map_nil, List.map_nil,
      AgentRegistry.drop_nil]
    rfl
  rw [Declared.restored_iff, hreplay]
  constructor
  · intro hsame
    exact ⟨hsame.routes_eq, hsame.fallbackRoles_eq, hsame.priorities_eq⟩
  · rintro ⟨hroutes, hfallbacks, hpriorities⟩
    refine ⟨fun agentId ↦ ?_, fun role ↦ ?_, hroutes, hfallbacks, hpriorities⟩
    · rw [Declared.agents_undo h]
    · rw [Declared.roles_undo h]

/-- **A load that raises.** -/
theorem loadPlugin_unchanged_iff (hraises : (m.loadPlugin policy plugin).1 ≠ none) :
    m.Unchanged (m.loadPlugin policy plugin).2 ↔ m.LoadChangesNothing policy plugin := by
  by_cases hfails : m.Refuses policy plugin ∨ ¬plugin.Fits m.registry
  · obtain ⟨-, records, heq⟩ := loadPlugin_fails hfails
    have hiff : m.Unchanged (m.loadPlugin policy plugin).2 ↔
        m.registry.Same ((m.declaredBy policy plugin).undo m.registry) := by
      rw [heq]
      exact ⟨Unchanged.registry, fun hsame ↦ ⟨hsame, fun _ ↦ rfl⟩⟩
    rw [hiff, LoadChangesNothing]
    by_cases hrefuses : m.Refuses policy plugin
    · rw [declaredBy_of_refuses hrefuses, undo_none]
      exact iff_of_true ⟨fun _ ↦ rfl, fun _ ↦ rfl, fun _ ↦ rfl, fun _ ↦ rfl, fun _ ↦ rfl⟩
        (.inl hrefuses)
    · rw [declaredBy_of_not_refuses hrefuses, or_iff_right hrefuses]
      exact same_undo_iff (Declared.fresh_declared plugin m.registry)
  · obtain ⟨hnot, hfits⟩ := not_or.mp hfails
    exact absurd (loadPlugin_succeeds hnot (not_not.mp hfits)).1 hraises

/-! ### Reloading -/

variable (policy plugin) in
/-- A reload of a plugin that is loaded, in the version `previous`, leaves `r` as it was: `m` is the
manager once `previous` has been unloaded. -/
structure RestoresPrevious (previous : AgentPlugin) (r : AgentRegistry)
    (m : AgentPluginManager π) : Prop where
  /-- The agents of the old version were still registered as they were loaded. -/
  agents_there : ∀ agent ∈ previous.agents, r.agents.get? agent.agentId = some agent
  /-- Nothing of the old version is refused when it is loaded again. -/
  fits : previous.Fits m.registry
  /-- And the policy allows it. -/
  allows : policy.Allows "load" previous.manifest.pluginId false (m.stateAfterLoad policy plugin)
  /-- Every entry stands. -/
  restored : Restored r (m.declaredBy policy plugin) previous.all

theorem same_replay_iff {r : AgentRegistry} {d : Declared} {previous : AgentPlugin} (hr : r.Inv)
    (hd : d.Fresh (unregisterAll previous.all.agentIds.reverse r))
    (hinv : (previous.all.writeTo
      (d.undo (unregisterAll previous.all.agentIds.reverse r))).Inv)
    (hnodup : previous.all.agentIds.Nodup) :
    r.Same (previous.all.writeTo (d.undo (unregisterAll previous.all.agentIds.reverse r))) ↔
      (∀ agent ∈ previous.agents, r.agents.get? agent.agentId = some agent) ∧
        Restored r d previous.all := by
  by_cases hthere : ∀ agent ∈ previous.agents, r.agents.get? agent.agentId = some agent
  · rw [and_iff_right hthere]
    have hunloaded : unregisterAll previous.all.agentIds.reverse r =
        r.drop previous.all.agentIds previous.all.roles := by
      rw [AgentRegistry.unregisterAll_eq]
      refine AgentRegistry.drop_congr (fun _ ↦ List.mem_reverse) (fun role ↦ ?_) r
      rw [AgentRegistry.mem_rolesOf, Declared.roles, List.mem_map]
      constructor
      · rintro ⟨agentId, hmem, found, hfound, rfl⟩
        obtain ⟨agent, hagent, rfl⟩ := List.mem_map.mp (List.mem_reverse.mp hmem)
        rw [hthere agent hagent, Option.some.injEq] at hfound
        exact ⟨found, hfound ▸ hagent, rfl⟩
      · rintro ⟨agent, hagent, rfl⟩
        exact ⟨agent.agentId, List.mem_reverse.mpr (List.mem_map_of_mem hagent), agent,
          hthere agent hagent, rfl⟩
    rw [hunloaded] at hd hinv ⊢
    rw [Declared.restored_iff]
    constructor
    · intro hsame
      exact ⟨hsame.routes_eq, hsame.fallbackRoles_eq, hsame.priorities_eq⟩
    · rintro ⟨hroutes, hfallbacks, hpriorities⟩
      have hagents := (Declared.agents_replay hd hnodup).mpr hthere
      exact ⟨hagents, hr.roles_eq hinv hagents, hroutes, hfallbacks, hpriorities⟩
  · refine iff_of_false (fun hsame ↦ hthere fun agent hagent ↦ ?_) fun h ↦ hthere h.1
    rw [← hsame.agents_eq, Declared.get?_agents_writeTo hnodup hagent]

/-- **A failed reload of a plugin that is loaded**, from the point where the old version has been
unloaded. -/
theorem loadOrRestore_unchanged_iff {previous : AgentPlugin} {active : Bool} (h : m.Inv)
    (hprevious : m.plugins.get? plugin.manifest.pluginId = some previous)
    {records : List LifecycleAuditRecord}
    (hm' : m' = { m.unloaded policy plugin.manifest.pluginId active with
      lifecycleAuditRecords := records })
    (hraises : (m'.loadOrRestore policy plugin (some previous)).1 ≠ none) :
    m.Unchanged (m'.loadOrRestore policy plugin (some previous)).2 ↔
      RestoresPrevious policy plugin previous m.registry m' := by
  have hfiled := h.filed hprevious
  have hfree : plugin.manifest.pluginId ∉ m'.plugins.keys := by
    rw [hm', ← Dict.get?_eq_none_iff]
    exact (Dict.get?_erase _ _ _).trans (if_pos rfl)
  have hfails : m'.Refuses policy plugin ∨ ¬plugin.Fits m'.registry := by
    by_contra hnot
    rw [not_or, not_not] at hnot
    have hloaded := (loadPlugin_succeeds hnot.1 hnot.2).1
    rw [loadOrRestore] at hraises
    rcases hload : m'.loadPlugin policy plugin with ⟨_ | error, m''⟩
    · rw [hload] at hraises
      exact hraises rfl
    · rw [hload] at hloaded
      exact nomatch hloaded
  obtain ⟨herror, records', hfailed⟩ := loadPlugin_fails hfails
  -- Whether the old version can be loaded again or not, nothing more is done after it.
  have hrestore : (m'.loadOrRestore policy plugin (some previous)).2 =
      ((m'.loadPlugin policy plugin).2.loadPlugin policy previous).2 := by
    rw [loadOrRestore]
    rcases hload : m'.loadPlugin policy plugin with ⟨_ | error, m''⟩
    · rw [hload] at herror
      exact absurd rfl herror
    · dsimp only
      rcases m''.loadPlugin policy previous with ⟨_ | restoreError, _⟩ <;> rfl
  rw [hrestore, hfailed]
  have hfresh : (m'.declaredBy policy plugin).Fresh m'.registry := by
    rw [declaredBy]
    split
    · exact ⟨List.nodup_nil, fun _ hagent ↦ (nomatch hagent), fun _ hagent ↦ (nomatch hagent)⟩
    · exact Declared.fresh_declared plugin m'.registry
  have hfits := fits_congr (Declared.agents_undo hfresh) (Declared.roles_undo hfresh) previous
  by_cases hagain : previous.Fits m'.registry ∧
      policy.Allows "load" previous.manifest.pluginId false (m'.stateAfterLoad policy plugin)
  · obtain ⟨hpreviousFits, hallows⟩ := hagain
    have hnot : ¬{ m' with
        registry := (m'.declaredBy policy plugin).undo m'.registry
        policyState := m'.stateAfterLoad policy plugin
        lifecycleAuditRecords := records' }.Refuses policy previous := by
      rw [Refuses, not_or, not_or, not_not, not_not]
      refine ⟨?_, hallows, ?_⟩
      · rw [hfiled.compatible, hm']
        rfl
      · rw [hfiled.pluginId_eq]
        exact hfree
    obtain ⟨-, records'', hloaded⟩ := loadPlugin_succeeds hnot (hfits.mpr hpreviousFits)
    rw [hloaded]
    have hnodup : previous.all.agentIds.Nodup := by
      rw [← hpreviousFits.declared_eq]
      exact (Declared.fresh_declared previous m'.registry).nodup
    have hunloaded : (m.unloaded policy plugin.manifest.pluginId active).Inv := h.unloaded policy _ _
    have hm'inv : m'.Inv := hm' ▸ hunloaded.asked hunloaded.registry _ records
    have hinv := (hm'inv.undo_declaredBy policy plugin).writeTo previous
    rw [(hfits.mpr hpreviousFits).declared_eq] at hinv
    have hregistry : m'.registry = unregisterAll previous.all.agentIds.reverse m.registry := by
      rw [hm', unloaded, hfiled.agentIds_eq]
      rfl
    have hiff := same_replay_iff h.registry (hregistry ▸ hfresh) (hregistry ▸ hinv) hnodup
    rw [← hregistry] at hiff
    have hplugins : ∀ pluginId, (m'.plugins.set previous.manifest.pluginId previous).get? pluginId =
        m.plugins.get? pluginId := by
      intro pluginId
      rw [Dict.get?_set, hfiled.pluginId_eq, hm']
      split
      · rename_i hid
        rw [hid, hprevious]
      · rename_i hid
        exact (Dict.get?_erase _ _ _).trans (if_neg hid)
    constructor
    · intro hsame
      obtain ⟨hthere, hrestored⟩ := hiff.mp hsame.registry
      exact ⟨hthere, hpreviousFits, hallows, hrestored⟩
    · rintro ⟨hthere, -, -, hrestored⟩
      exact ⟨hiff.mpr ⟨hthere, hrestored⟩, hplugins⟩
  · -- The old version is not loaded again, so the plugin is missing.
    have hfails' : { m' with
        registry := (m'.declaredBy policy plugin).undo m'.registry
        policyState := m'.stateAfterLoad policy plugin
        lifecycleAuditRecords := records' }.Refuses policy previous ∨
          ¬previous.Fits ((m'.declaredBy policy plugin).undo m'.registry) := by
      rw [hfits]
      by_cases hpreviousFits : previous.Fits m'.registry
      · exact .inl (.inr (.inl fun hallows ↦ hagain ⟨hpreviousFits, hallows⟩))
      · exact .inr hpreviousFits
    obtain ⟨-, records'', hmissing⟩ := loadPlugin_fails hfails'
    rw [hmissing]
    refine iff_of_false (fun hsame ↦ ?_) fun hrestores ↦ hagain ⟨hrestores.fits, hrestores.allows⟩
    have hin := hsame.plugins_eq plugin.manifest.pluginId
    rw [hprevious] at hin
    exact hfree (Dict.mem_keys_iff.mpr ⟨previous, hin⟩)

variable (policy plugin m) in
/-- The manager once the policy has been asked for a reload. -/
def askedReload (active : Bool) : AgentPluginManager π :=
  { m with policyState := (policy "reload" plugin.manifest.pluginId active m.policyState).2 }

variable (policy plugin m) in
/-- A reload is refused before it has unloaded anything, or the load that follows changes nothing,
or the old version is restored. -/
def ReloadChangesNothing (active : Bool) : Prop :=
  ¬policy.Allows "reload" plugin.manifest.pluginId active m.policyState ∨
    match m.plugins.get? plugin.manifest.pluginId with
    | none => (m.askedReload policy plugin active).LoadChangesNothing policy plugin
    | some previous =>
      ¬policy.Allows "unload" plugin.manifest.pluginId active
          (m.askedReload policy plugin active).policyState ∨
        active = true ∨
        RestoresPrevious policy plugin previous m.registry
          ((m.askedReload policy plugin active).unloaded policy plugin.manifest.pluginId active)

theorem loadOrRestore_none (hraises : (m.loadOrRestore policy plugin none).1 ≠ none) :
    (m.loadOrRestore policy plugin none).2 = (m.loadPlugin policy plugin).2 ∧
      (m.loadPlugin policy plugin).1 ≠ none := by
  rw [loadOrRestore] at hraises ⊢
  rcases hload : m.loadPlugin policy plugin with ⟨_ | error, m''⟩
  · rw [hload] at hraises
    exact absurd rfl hraises
  · exact ⟨rfl, Option.some_ne_none error⟩

/-- **A reload that raises.** -/
theorem reloadPlugin_unchanged_iff {active : Bool} (h : m.Inv)
    (hraises : (m.reloadPlugin policy plugin active).1 ≠ none) :
    m.Unchanged (m.reloadPlugin policy plugin active).2 ↔
      m.ReloadChangesNothing policy plugin active := by
  obtain ⟨records, hasked⟩ := m.authorize_snd policy "reload" plugin.manifest.pluginId active
  have hallows := m.authorize_fst policy "reload" plugin.manifest.pluginId active
  rw [reloadPlugin] at hraises ⊢
  rcases hask : m.authorize policy "reload" plugin.manifest.pluginId active with ⟨_ | error, m₁⟩ <;>
    rw [hask] at hasked hallows <;> change m₁ = _ at hasked
  · have hinv : m₁.Inv := hasked ▸ h.asked h.registry _ records
    have hunchanged {m' : AgentPluginManager π} : m.Unchanged m' ↔ m₁.Unchanged m' := by
      rw [hasked]
      exact unchanged_asked.symm
    have hplugins : m₁.plugins = m.plugins := by rw [hasked]
    have hstate : (m.askedReload policy plugin active).policyState = m₁.policyState := by
      rw [hasked]
      rfl
    simp only [hask, hplugins] at hraises ⊢
    rw [ReloadChangesNothing, or_iff_right (not_not.mpr (hallows.mp rfl)), hunchanged]
    cases hprevious : m.plugins.get? plugin.manifest.pluginId with
    | none =>
      have hfree : plugin.manifest.pluginId ∉ m.plugins.keys := Dict.get?_eq_none_iff.mp hprevious
      simp only [if_neg hfree, hprevious] at hraises ⊢
      obtain ⟨hload, hraises'⟩ := loadOrRestore_none hraises
      rw [hload, loadPlugin_unchanged_iff hraises', hasked]
      rfl
    | some previous =>
      have hin : plugin.manifest.pluginId ∈ m₁.plugins.keys :=
        Dict.mem_keys_iff.mpr ⟨previous, hplugins ▸ hprevious⟩
      rw [hplugins] at hin
      simp only [if_pos hin, hprevious, hstate] at hraises ⊢
      rw [← hplugins] at hin
      by_cases hkept : ¬policy.Allows "unload" plugin.manifest.pluginId active m₁.policyState ∨
          active = true
      · rw [← or_assoc]
        refine iff_of_true ?_ (.inl hkept)
        obtain ⟨herror, records', hunload⟩ := unloadPlugin_fails (hkept.imp_right .inl)
        rcases hcall : m₁.unloadPlugin policy plugin.manifest.pluginId active with
          ⟨_ | error, m₂⟩ <;> rw [hcall] at herror hunload
        · exact absurd rfl herror
        · change m₂ = _ at hunload
          exact unchanged_of_eq (by rw [hunload]) (by rw [hunload])
      · rw [← or_assoc, or_iff_right hkept]
        obtain ⟨hallow, hactive⟩ := not_or.mp hkept
        obtain ⟨herror, records', hunload⟩ :=
          unloadPlugin_succeeds (not_not.mp hallow) hactive hin
        rcases hcall : m₁.unloadPlugin policy plugin.manifest.pluginId active with
          ⟨_ | error, m₂⟩ <;> rw [hcall] at herror hunload
        · change m₂ = _ at hunload
          simp only [hcall] at hraises ⊢
          rw [loadOrRestore_unchanged_iff hinv (hplugins ▸ hprevious) hunload hraises, hunload,
            hasked]
          exact ⟨fun h ↦ ⟨h.agents_there, h.fits, h.allows, h.restored⟩,
            fun h ↦ ⟨h.agents_there, h.fits, h.allows, h.restored⟩⟩
        · exact nomatch herror
  · exact iff_of_true (unchanged_of_eq (by rw [hasked]) (by rw [hasked]))
      (.inl fun hallow ↦ nomatch hallows.mpr hallow)

end AgentPluginManager

/-! ## Every manager that is reached -/

/-- A call that the property is about. -/
inductive PluginCall
  | load (plugin : AgentPlugin)
  | reload (plugin : AgentPlugin) (hasActiveNonIdempotentTasks : Bool)

/-- What else may happen to the registry and the manager. -/
inductive LifecycleStep
  | register (agent : AgentSpec)
  | unregister (agentId : String)
  | addHandoffRoute (route : HandoffRoute)
  | setHandoffFallbackPolicy (fallbackPolicy : HandoffFallbackPolicy)
  | unload (pluginId : String) (hasActiveNonIdempotentTasks : Bool)
  | plugin (call : PluginCall)

/-- Make a call. -/
def PluginCall.perform (call : PluginCall) (m : AgentPluginManager π) :
    Option LifecycleError × AgentPluginManager π :=
  match call with
  | .load plugin => m.loadPlugin policy plugin
  | .reload plugin active => m.reloadPlugin policy plugin active

/-- An operation on the registry of a manager. -/
def AgentPluginManager.onRegistry
    (op : AgentRegistry → Option RegistryError × AgentRegistry) (m : AgentPluginManager π) :
    Option LifecycleError × AgentPluginManager π :=
  ((op m.registry).1.map .registry, { m with registry := (op m.registry).2 })

/-- Take a step. -/
def LifecycleStep.perform (m : AgentPluginManager π) (step : LifecycleStep) :
    Option LifecycleError × AgentPluginManager π :=
  match step with
  | .register agent => m.onRegistry (AgentRegistry.register agent)
  | .unregister agentId => m.onRegistry (AgentRegistry.unregister agentId)
  | .addHandoffRoute route => m.onRegistry (AgentRegistry.addHandoffRoute route)
  | .setHandoffFallbackPolicy fallbackPolicy =>
    m.onRegistry (AgentRegistry.setHandoffFallbackPolicy fallbackPolicy)
  | .unload pluginId active => m.unloadPlugin policy pluginId active
  | .plugin call => call.perform policy m

/-- A manager of an empty registry. -/
def AgentPluginManager.initial (coreMajorVersion : Int) (state : π) : AgentPluginManager π where
  registry := .initial
  coreMajorVersion := coreMajorVersion
  policyState := state

/-- What a call does not change if it raises. -/
def PluginCall.ChangesNothing (call : PluginCall) (m : AgentPluginManager π) : Prop :=
  match call with
  | .load plugin => m.LoadChangesNothing policy plugin
  | .reload plugin active => m.ReloadChangesNothing policy plugin active

theorem AgentPluginManager.Inv.perform {m : AgentPluginManager π} (h : m.Inv)
    (step : LifecycleStep) : (LifecycleStep.perform policy m step).2.Inv := by
  cases step with
  | register agent => exact h.asked (h.registry.register agent) _ _
  | unregister agentId => exact h.asked (h.registry.unregister agentId) _ _
  | addHandoffRoute route => exact h.asked (h.registry.addHandoffRoute route) _ _
  | setHandoffFallbackPolicy fallbackPolicy =>
    exact h.asked (h.registry.setHandoffFallbackPolicy fallbackPolicy) _ _
  | unload pluginId active => exact h.unloadPlugin policy pluginId active
  | plugin call =>
    cases call with
    | load plugin => exact h.loadPlugin policy plugin
    | reload plugin active => exact h.reloadPlugin policy plugin active

theorem AgentPluginManager.Inv.exec (coreMajorVersion : Int) (state : π)
    (steps : List LifecycleStep) :
    (Run.exec (LifecycleStep.perform policy) (.initial coreMajorVersion state) steps).Inv := by
  refine Run.exec_invariant (fun m step _ h ↦ h.perform policy step)
    (Run.along_of_forall (fun _ _ ↦ trivial) _ steps) ?_
  exact ⟨AgentRegistry.Inv.initial, fun hfound ↦ nomatch hfound⟩

/-- **A call that raises.**  Whatever has happened before, and whatever the policy answers, a load
or reload that raises leaves agents, roles, routes, fallbacks, priorities and loaded plugins as they
were exactly when one of the following holds.

* It is refused before it has registered or unloaded anything.
* What the failed load has written and what the rollback has dropped leaves every entry of the
  tables of roles as it was; and if a plugin has been unloaded, its agents were still registered as
  they had been loaded, and nothing of it is refused when it is loaded again. -/
theorem failed_call_changes_nothing_iff (coreMajorVersion : Int) (state : π)
    (steps : List LifecycleStep) (call : PluginCall) :
    let m := Run.exec (LifecycleStep.perform policy) (.initial coreMajorVersion state) steps
    (call.perform policy m).1 ≠ none →
      (m.Unchanged (call.perform policy m).2 ↔ call.ChangesNothing policy m) := by
  intro m hraises
  have hinv : m.Inv := AgentPluginManager.Inv.exec policy coreMajorVersion state steps
  cases call with
  | load plugin => exact AgentPluginManager.loadPlugin_unchanged_iff hraises
  | reload plugin active => exact AgentPluginManager.reloadPlugin_unchanged_iff hinv hraises

end Manager

/-- A plugin for another core is refused, and nothing has changed. -/
theorem failed_call_changes_nothing_incompatible :
    let m := Run.exec (LifecycleStep.perform allowAllLifecyclePolicy) (.initial 1 ())
      [.register { agentId := "a", role := "router" }]
    let call := PluginCall.load
      { manifest := ⟨"p", "1.0.0", 2⟩, agents := [{ agentId := "b", role := "planner" }] }
    m.Unchanged (call.perform allowAllLifecyclePolicy m).2 :=
  (failed_call_changes_nothing_iff allowAllLifecyclePolicy 1 () _ _ (by decide)).mpr
    (.inl (.inl (by decide)))

/-- Router and planner are registered.  A plugin with a reviewer configures a fallback between them,
and is refused for a priority of a role that nobody has: the reviewer is gone again, and the
fallback is still there. -/
theorem half_declared_plugin_leaves_fallback :
    let m := Run.exec (LifecycleStep.perform allowAllLifecyclePolicy) (.initial 1 ())
      [.register { agentId := "a", role := "router" }, .register { agentId := "b", role := "planner" }]
    let call := PluginCall.load
      { manifest := ⟨"p", "1.0.0", 1⟩
        agents := [{ agentId := "c", role := "reviewer" }]
        fallbackPolicies := [⟨"router", "planner", ["archivist"],
          Dict.empty.set "ghost" 1⟩] }
    (call.perform allowAllLifecyclePolicy m).1 ≠ none ∧
      ¬m.Unchanged (call.perform allowAllLifecyclePolicy m).2 := by
  refine ⟨by decide +kernel, fun hsame ↦ ?_⟩
  have hfallback := hsame.registry.fallbackRoles_eq ("router", "planner")
  revert hfallback
  decide +kernel

end Agents
end ExoBrain
