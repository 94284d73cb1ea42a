import ExoBrain.Agents.Registry
import ExoBrain.Core.Orchestrator

/-!
# Plugins of agents

A plugin brings agents, routes and fallback policies, and `AgentPluginManager` (`plugin_manager.py`)
loads, unloads and reloads it.  Each of these is put before a lifecycle policy first, which may keep
a state of its own, answer as it likes and raise.

* `loadPlugin` registers everything in order.  If something is refused, the agents registered so far
  are unregistered again, which is all that is done to undo it.
* `unloadPlugin` unregisters the agents of a plugin, as far as they are still there.
* `reloadPlugin` unloads the plugin and loads the new version, and if that raises, loads the old
  version again.
-/

set_option autoImplicit false

namespace ExoBrain
namespace Agents

open Core (PolicyAction)

/-! ## Contracts -/

/-- `AgentPluginManifest`, as far as the manager reads it. -/
structure AgentPluginManifest where
  pluginId : String
  version : String
  compatibleCoreMajor : Int
deriving DecidableEq, Repr

/-- `AgentPlugin`. -/
structure AgentPlugin where
  manifest : AgentPluginManifest
  agents : List AgentSpec := []
  routes : List HandoffRoute := []
  fallbackPolicies : List HandoffFallbackPolicy := []

/-- `LifecyclePolicyDecision`. -/
structure LifecyclePolicyDecision where
  decision : PolicyAction
  reasonCode : String
  message : String := ""
deriving DecidableEq, Repr

/-- What comes of asking a policy. -/
inductive PolicyAnswer
  | decided (decision : LifecyclePolicyDecision)
  | raised (message : String)
deriving DecidableEq, Repr

/-- `LifecyclePolicy`, with a state: what `evaluate` answers, and the state after it. -/
abbrev LifecyclePolicy (π : Type) :=
  (action pluginId : String) → (hasActiveNonIdempotentTasks : Bool) → π → PolicyAnswer × π

/-- The policy allows the action. -/
def LifecyclePolicy.Allows {π : Type} (policy : LifecyclePolicy π) (action pluginId : String)
    (hasActiveNonIdempotentTasks : Bool) (state : π) : Prop :=
  ∃ decision, (policy action pluginId hasActiveNonIdempotentTasks state).1 = .decided decision ∧
    decision.decision = .allow

/-- `AllowAllLifecyclePolicy`. -/
def allowAllLifecyclePolicy : LifecyclePolicy Unit := fun action pluginId _ state ↦
  (.decided ⟨.allow, "AGENT_LIFECYCLE_ALLOWED",
    "Lifecycle action '" ++ action ++ "' allowed for plugin '" ++ pluginId ++ "'."⟩, state)

/-- `LifecycleAuditRecord`. -/
structure LifecycleAuditRecord where
  action : String
  pluginId : String
  decision : PolicyAction
  reasonCode : String
  detail : String := ""
deriving DecidableEq, Repr

/-- What the manager raises. -/
inductive LifecycleError
  | registry (error : RegistryError)
  | valueError (message : String)
  | keyError (message : String)
  | permissionError (message : String)
  | runtimeError (message : String)
  /-- What the policy raises. -/
  | policy (message : String)
deriving DecidableEq, Repr

/-! ## The manager -/

/-- `AgentPluginManager`, with the state of its policy. -/
structure AgentPluginManager (π : Type) where
  registry : AgentRegistry
  coreMajorVersion : Int := 1
  policyState : π
  plugins : Dict String AgentPlugin := Dict.empty
  pluginAgentIds : Dict String (List String) := Dict.empty
  lifecycleAuditRecords : List LifecycleAuditRecord := []

/-- Declare one thing after another, until one is refused. -/
def declareAll {α : Type} (declareOne : α → AgentRegistry → Option RegistryError × AgentRegistry) :
    List α → AgentRegistry → Option RegistryError × AgentRegistry
  | [], r => (none, r)
  | x :: xs, r =>
    match declareOne x r with
    | (some error, r) => (some error, r)
    | (none, r) => declareAll declareOne xs r

/-- Register agents until one is refused, with the ids of those that were registered. -/
def registerAll : List AgentSpec → AgentRegistry →
    Option RegistryError × List String × AgentRegistry
  | [], r => (none, [], r)
  | agent :: agents, r =>
    match r.register agent with
    | (some error, r) => (some error, [], r)
    | (none, r) =>
      let (error, registeredIds, r) := registerAll agents r
      (error, agent.agentId :: registeredIds, r)

/-- What is tried in `load_plugin`. -/
def AgentPlugin.declare (plugin : AgentPlugin) (r : AgentRegistry) :
    Option RegistryError × List String × AgentRegistry :=
  match registerAll plugin.agents r with
  | (some error, registeredIds, r) => (some error, registeredIds, r)
  | (none, registeredIds, r) =>
    match declareAll AgentRegistry.addHandoffRoute plugin.routes r with
    | (some error, r) => (some error, registeredIds, r)
    | (none, r) =>
      let (error, r) := declareAll AgentRegistry.setHandoffFallbackPolicy plugin.fallbackPolicies r
      (error, registeredIds, r)

/-- Unregister agents, as far as they are there. -/
def unregisterAll (agentIds : List String) (r : AgentRegistry) : AgentRegistry :=
  agentIds.foldl (fun r agentId ↦ (r.unregister agentId).2) r

namespace AgentPluginManager

variable {π : Type} (policy : LifecyclePolicy π)

/-- `_record_lifecycle_event`. -/
def recordLifecycleEvent (action pluginId : String) (decision : PolicyAction)
    (reasonCode detail : String) (m : AgentPluginManager π) : AgentPluginManager π :=
  { m with
    lifecycleAuditRecords :=
      m.lifecycleAuditRecords ++ [⟨action, pluginId, decision, reasonCode, detail⟩] }

/-- `_authorize`. -/
def authorize (action pluginId : String) (hasActiveNonIdempotentTasks : Bool)
    (m : AgentPluginManager π) : Option LifecycleError × AgentPluginManager π :=
  match policy action pluginId hasActiveNonIdempotentTasks m.policyState with
  | (.raised message, state) => (some (.policy message), { m with policyState := state })
  | (.decided decision, state) =>
    let m := { m with policyState := state }.recordLifecycleEvent action pluginId
      decision.decision decision.reasonCode decision.message
    if decision.decision = .allow then (none, m)
    else (some (.permissionError ("Lifecycle action '" ++ action ++ "' blocked for plugin '" ++
      pluginId ++ "': " ++ decision.reasonCode)), m)

/-- `validate_compatibility`. -/
def validateCompatibility (plugin : AgentPlugin) (m : AgentPluginManager π) :
    Option LifecycleError :=
  if plugin.manifest.compatibleCoreMajor ≠ m.coreMajorVersion then
    some (.valueError ("Plugin '" ++ plugin.manifest.pluginId ++ "' requires core major " ++
      toString plugin.manifest.compatibleCoreMajor ++ ", expected " ++
      toString m.coreMajorVersion))
  else none

/-- `load_plugin`. -/
def loadPlugin (plugin : AgentPlugin) (m : AgentPluginManager π) :
    Option LifecycleError × AgentPluginManager π :=
  match m.validateCompatibility plugin with
  | some error => (some error, m)
  | none =>
    let pluginId := plugin.manifest.pluginId
    match m.authorize policy "load" pluginId false with
    | (some error, m) => (some error, m)
    | (none, m) =>
      if pluginId ∈ m.plugins.keys then
        (some (.valueError ("Plugin '" ++ pluginId ++ "' is already loaded")), m)
      else
        match plugin.declare m.registry with
        | (some error, registeredIds, r) =>
          -- Each of them has just been registered, so none of the calls raises.
          (some (.registry error), { m with registry := unregisterAll registeredIds.reverse r })
        | (none, registeredIds, r) =>
          (none,
            { m with
              registry := r
              plugins := m.plugins.set pluginId plugin
              pluginAgentIds := m.pluginAgentIds.set pluginId registeredIds }.recordLifecycleEvent
              "load" pluginId .allow "AGENT_PLUGIN_LOADED"
              ("Registered " ++ toString registeredIds.length ++ " agents."))

/-- `unload_plugin`. -/
def unloadPlugin (pluginId : String) (hasActiveNonIdempotentTasks : Bool)
    (m : AgentPluginManager π) : Option LifecycleError × AgentPluginManager π :=
  match m.authorize policy "unload" pluginId hasActiveNonIdempotentTasks with
  | (some error, m) => (some error, m)
  | (none, m) =>
    if hasActiveNonIdempotentTasks = true then
      (some (.runtimeError "Cannot unload plugin while active non-idempotent tasks exist"), m)
    else if pluginId ∉ m.plugins.keys then
      (some (.keyError ("Plugin '" ++ pluginId ++ "' is not loaded")), m)
    else
      let agentIds := ((m.pluginAgentIds.get? pluginId).getD []).reverse
      (none,
        { m with
          registry := unregisterAll agentIds m.registry
          plugins := m.plugins.erase pluginId
          pluginAgentIds := m.pluginAgentIds.erase pluginId }.recordLifecycleEvent
          "unload" pluginId .allow "AGENT_PLUGIN_UNLOADED"
          "Plugin agents and routes removed from registry.")

/-- What is tried in `reload_plugin` once the plugin is unloaded, and what is done if it raises. -/
def loadOrRestore (plugin : AgentPlugin) (previousPlugin : Option AgentPlugin)
    (m : AgentPluginManager π) : Option LifecycleError × AgentPluginManager π :=
  match m.loadPlugin policy plugin with
  | (some error, m) =>
    match previousPlugin with
    | none => (some error, m)
    | some previousPlugin =>
      match m.loadPlugin policy previousPlugin with
      | (some restoreError, m) => (some restoreError, m)
      | (none, m) => (some error, m)
  | (none, m) =>
    (none, m.recordLifecycleEvent "reload" plugin.manifest.pluginId .allow "AGENT_PLUGIN_RELOADED"
      "Reload completed successfully.")

/-- `reload_plugin`. -/
def reloadPlugin (plugin : AgentPlugin) (hasActiveNonIdempotentTasks : Bool)
    (m : AgentPluginManager π) : Option LifecycleError × AgentPluginManager π :=
  let pluginId := plugin.manifest.pluginId
  match m.authorize policy "reload" pluginId hasActiveNonIdempotentTasks with
  | (some error, m) => (some error, m)
  | (none, m) =>
    let previousPlugin := m.plugins.get? pluginId
    if pluginId ∈ m.plugins.keys then
      match m.unloadPlugin policy pluginId hasActiveNonIdempotentTasks with
      | (some error, m) => (some error, m)
      | (none, m) => m.loadOrRestore policy plugin previousPlugin
    else m.loadOrRestore policy plugin previousPlugin

end AgentPluginManager

end Agents
end ExoBrain
