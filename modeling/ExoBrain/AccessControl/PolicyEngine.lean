import ExoBrain.Policies.RiskGates

/-!
# The engine for access control

`AccessPolicyEngine.evaluate` (`policy_engine.py`) decides whether an identity may have a tool
executed.  The roles of the identity add up to permissions, which are texts, and six checks ask for
them in turn; the first that has an answer gives it.

* `judge` is the checks, and `finalize` what becomes of their answer in the audit-only mode.
* `Permits` is what the checks come to (`decision_judge_eq_allow_iff`).  More permissions permit more
  (`Permits.mono`), so a request that is allowed is allowed with more roles too
  (`access_monotone`).
* The permission for a tool is made of its name, and for the names `execute` and
  `execute:high_impact` it is one of those that every executor of tools has.  A tool of another name
  is not allowed within a plugin's scope without the plugin's permission
  (`plugin_scope_guarded_iff`).

The values of `PolicyAction` stand in a package of contracts, and are a parameter.
-/

set_option autoImplicit false

namespace ExoBrain
namespace AccessControl

open Core (PolicyAction)
open Policies (AccessRequest)

/-! ## Contracts -/

/-- `AccessDecision`. -/
structure AccessDecision extends Policies.AccessDecision where
  metadata : Dict String String := Dict.empty

/-- The permissions of the roles, unless they are configured. -/
def defaultRolePermissions : Dict String (Finset String) where
  entries :=
    [("reader", {"tool:execute"}), ("operator", {"tool:execute", "tool:execute:high_impact"}),
      ("admin", {"*"})]
  nodup_keys := by simp

/-- `AccessControlConfig`. -/
structure AccessControlConfig where
  rolePermissions : Dict String (Finset String) := defaultRolePermissions
  reviewChannel : String := "security-review"
  auditOnlyMode : Bool := false
  crossTenantPermission : String := "tenant:cross_scope"

/-! ## Permissions -/

/-- `aggregate_permissions`. -/
def aggregatePermissions (roles : List String) (rolePermissions : Dict String (Finset String)) :
    Finset String :=
  roles.foldl (fun permissions role ↦ permissions ∪ (rolePermissions.get? role).getD ∅) ∅

theorem mem_aggregatePermissions {roles : List String}
    {rolePermissions : Dict String (Finset String)} {permission : String} :
    permission ∈ aggregatePermissions roles rolePermissions ↔
      ∃ role ∈ roles, permission ∈ (rolePermissions.get? role).getD ∅ := by
  have hloop (permissions : Finset String) :
      permission ∈ roles.foldl
          (fun permissions role ↦ permissions ∪ (rolePermissions.get? role).getD ∅) permissions ↔
        permission ∈ permissions ∨ ∃ role ∈ roles, permission ∈ (rolePermissions.get? role).getD ∅ := by
    induction roles generalizing permissions with
    | nil => simp
    | cons role roles ih =>
      rw [List.foldl_cons, ih, Finset.mem_union, List.exists_mem_cons_iff, or_assoc]
  rw [aggregatePermissions, hloop]
  exact or_iff_right (Finset.notMem_empty permission)

/-- Further roles, in whatever order and however often, take nothing away. -/
theorem aggregatePermissions_mono {roles roles' : List String} (h : ∀ role ∈ roles, role ∈ roles')
    (rolePermissions : Dict String (Finset String)) :
    aggregatePermissions roles rolePermissions ⊆ aggregatePermissions roles' rolePermissions := by
  intro permission hpermission
  obtain ⟨role, hrole, hmem⟩ := mem_aggregatePermissions.mp hpermission
  exact mem_aggregatePermissions.mpr ⟨role, h role hrole, hmem⟩

/-- The permissions of an identity. -/
def AccessControlConfig.permissions (config : AccessControlConfig) (request : AccessRequest) :
    Finset String :=
  aggregatePermissions request.roles config.rolePermissions

/-- The tenant of the request is named and another than the one of the identity. -/
def crossesTenants (request : AccessRequest) : Bool :=
  let requestTenant := Text.strip request.requestTenantId
  let identityTenant := Text.strip request.identityTenantId
  requestTenant ≠ "" ∧ identityTenant ≠ "" ∧ requestTenant ≠ identityTenant

/-- `request.is_state_changing or request.is_high_impact`. -/
def isElevated (request : AccessRequest) : Bool :=
  request.isStateChanging || request.isHighImpact

/-- `required_permissions`. -/
def requiredPermissions (request : AccessRequest) : Finset String :=
  if isElevated request = true then {"tool:execute", "tool:execute:high_impact"}
  else {"tool:execute"}

/-- `tool_scoped_permission`. -/
def toolScopedPermission (request : AccessRequest) : String := "tool:" ++ request.toolName

/-- `plugin_permission`. -/
def pluginPermission (request : AccessRequest) : String :=
  "plugin:" ++ request.pluginScope ++ ":execute"

/-! ## The engine -/

/-- What `evaluate` hands to `_finalize`. -/
def AccessControlConfig.judge (config : AccessControlConfig) (request : AccessRequest) :
    AccessDecision :=
  if request.subject = "" then
    { decision := .deny
      reasonCode := "ACCESS_IDENTITY_MISSING"
      message := "Identity subject is required for access control enforcement." }
  else if crossesTenants request = true ∧ ¬("*" ∈ config.permissions request ∨
      config.crossTenantPermission ∈ config.permissions request) then
    { decision := .deny
      reasonCode := "ACCESS_DENIED_TENANT_SCOPE"
      message := "Identity tenant scope does not match request tenant scope." }
  else if "*" ∈ config.permissions request then
    { decision := .allow
      reasonCode := "ACCESS_ALLOWED_ADMIN"
      message := "Access allowed via wildcard administrative permission." }
  else if isElevated request = true ∧
      "tool:execute:high_impact" ∉ config.permissions request then
    { decision := .escalate
      reasonCode := "ACCESS_REVIEW_REQUIRED_HIGH_IMPACT"
      message := "High-impact operation requires elevated entitlement or review."
      reviewRequired := true
      reviewChannel := some config.reviewChannel }
  else if toolScopedPermission request ∈ config.permissions request then
    { decision := .allow
      reasonCode := "ACCESS_ALLOWED_TOOL_SCOPE"
      message := "Access allowed via tool-scoped permission." }
  else if request.pluginScope ≠ "" ∧ pluginPermission request ∉ config.permissions request then
    { decision := .deny
      reasonCode := "ACCESS_DENIED_PLUGIN_SCOPE"
      message := "Plugin-scoped permission is required for this operation: '" ++
        pluginPermission request ++ "'." }
  else if ¬requiredPermissions request ⊆ config.permissions request then
    { decision := .deny
      reasonCode := "ACCESS_DENIED_ROLE_MISSING_PERMISSION"
      message := "Role permissions do not allow this operation." }
  else
    { decision := .allow
      reasonCode := "ACCESS_ALLOWED_BASE_PERMISSION"
      message := "Access allowed via base execution permission." }

/-- `_finalize`. -/
def AccessControlConfig.finalize (config : AccessControlConfig)
    (actionValue : PolicyAction → String) (decision : AccessDecision) : AccessDecision :=
  if config.auditOnlyMode = false then decision
  else if decision.decision = .allow then decision
  else
    { decision := .allow
      reasonCode := "ACCESS_AUDIT_ONLY_BYPASS"
      message := "Audit-only mode bypassed '" ++ decision.reasonCode ++ "'."
      metadata := decision.metadata.set "audit_only_original_decision"
        (actionValue decision.decision) }

/-- `AccessPolicyEngine.evaluate`. -/
def AccessControlConfig.evaluate (config : AccessControlConfig)
    (actionValue : PolicyAction → String) (request : AccessRequest) : AccessDecision :=
  config.finalize actionValue (config.judge request)

/-! ## What the checks come to -/

/-- The permissions let the request pass: they reach the tenant, and they are everything, or what the
request needs. -/
def Permits (config : AccessControlConfig) (request : AccessRequest)
    (permissions : Finset String) : Prop :=
  (crossesTenants request = true →
      "*" ∈ permissions ∨ config.crossTenantPermission ∈ permissions) ∧
    ("*" ∈ permissions ∨
      (isElevated request = true → "tool:execute:high_impact" ∈ permissions) ∧
        (toolScopedPermission request ∈ permissions ∨
          (request.pluginScope ≠ "" → pluginPermission request ∈ permissions) ∧
            requiredPermissions request ⊆ permissions))

section
variable {config : AccessControlConfig} {request : AccessRequest}
  {permissions permissions' : Finset String}

/-- More permissions permit more. -/
theorem Permits.mono (h : Permits config request permissions) (hsub : permissions ⊆ permissions') :
    Permits config request permissions' := by
  obtain ⟨htenant, hgranted⟩ := h
  refine ⟨fun hcross ↦ (htenant hcross).imp (@hsub _) (@hsub _), hgranted.imp (@hsub _) ?_⟩
  rintro ⟨helevated, hscope⟩
  refine ⟨fun h ↦ hsub (helevated h), hscope.imp (@hsub _) ?_⟩
  rintro ⟨hplugin, hrequired⟩
  exact ⟨fun h ↦ hsub (hplugin h), hrequired.trans hsub⟩

/-- **The checks allow what the permissions permit.** -/
theorem decision_judge_eq_allow_iff :
    (config.judge request).decision = .allow ↔
      request.subject ≠ "" ∧ Permits config request (config.permissions request) := by
  rw [AccessControlConfig.judge, Permits]
  split_ifs <;> simp_all

/-- In the audit-only mode everything is allowed. -/
theorem decision_evaluate_eq_allow_iff {actionValue : PolicyAction → String} :
    (config.evaluate actionValue request).decision = .allow ↔
      config.auditOnlyMode = true ∨
        request.subject ≠ "" ∧ Permits config request (config.permissions request) := by
  rw [← decision_judge_eq_allow_iff, AccessControlConfig.evaluate, AccessControlConfig.finalize]
  cases config.auditOnlyMode with
  | false => simp
  | true =>
    by_cases hallow : (config.judge request).decision = .allow <;> simp [hallow]

end

/-- **Access is monotone in the roles.**  What is allowed to an identity is allowed to one that has
the same roles and possibly more, in any order and with repetitions, under every configuration. -/
theorem access_monotone (config : AccessControlConfig) (actionValue : PolicyAction → String)
    (request : AccessRequest) (roles : List String) (hroles : ∀ role ∈ request.roles, role ∈ roles)
    (hallow : (config.evaluate actionValue request).decision = .allow) :
    (config.evaluate actionValue { request with roles := roles }).decision = .allow := by
  rw [decision_evaluate_eq_allow_iff] at hallow ⊢
  rcases hallow with hmode | ⟨hsubject, hpermits⟩
  · exact .inl hmode
  · have hsub : config.permissions request ⊆ config.permissions { request with roles := roles } :=
      aggregatePermissions_mono hroles config.rolePermissions
    exact .inr ⟨hsubject, hpermits.mono hsub⟩

/-- A request by a reader. -/
def readerRequest (toolName pluginScope : String) : AccessRequest where
  subject := "user_plugin"
  roles := ["reader"]
  toolName := toolName
  isStateChanging := false
  isHighImpact := false
  requestTenantId := "acme"
  identityTenantId := "acme"
  pluginScope := pluginScope

/-- A reader who is an operator as well. -/
theorem access_monotone_operator :
    (AccessControlConfig.evaluate {} (fun _ ↦ "allow")
      { readerRequest "sum_tool" "" with roles := ["operator", "reader", "reader"] }).decision =
        .allow :=
  access_monotone {} (fun _ ↦ "allow") (readerRequest "sum_tool" "")
    ["operator", "reader", "reader"] (by decide) (by decide +kernel)

/-! ## Scopes of plugins -/

/-- The permissions to execute tools in general. -/
def baseExecutionPermissions : List String := ["tool:execute", "tool:execute:high_impact"]

/-- The name of the tool turns a permission to execute tools in general into one for this tool. -/
def NamedLikeBase (request : AccessRequest) : Prop :=
  request.toolName ∈ ["execute", "execute:high_impact"]

theorem toolScopedPermission_mem_base_iff {request : AccessRequest} :
    toolScopedPermission request ∈ baseExecutionPermissions ↔ NamedLikeBase request := by
  have hbase : baseExecutionPermissions =
      ["execute", "execute:high_impact"].map fun name ↦ "tool:" ++ name := by decide
  rw [toolScopedPermission, hbase, NamedLikeBase, List.mem_map]
  constructor
  · rintro ⟨name, hname, heq⟩
    rwa [← (String.append_right_inj "tool:").mp heq]
  · intro hname
    exact ⟨request.toolName, hname, rfl⟩

/-- **When the scope of a plugin needs the plugin's own permission.**  For every configuration that
enforces its decisions, every request within the scope of a plugin, and an identity that has neither
the wildcard, nor the permission of the plugin, nor one for this tool other than those to execute
tools in general: the request is not allowed, exactly if the tool is not named like one of these, or
the identity does not have that one, or a check before this one stops the request. -/
theorem plugin_scope_guarded_iff (config : AccessControlConfig)
    (actionValue : PolicyAction → String) (request : AccessRequest)
    (hmode : config.auditOnlyMode = false) (hscope : request.pluginScope ≠ "")
    (hwildcard : "*" ∉ config.permissions request)
    (hplugin : pluginPermission request ∉ config.permissions request)
    (htool : toolScopedPermission request ∈ config.permissions request →
      toolScopedPermission request ∈ baseExecutionPermissions) :
    (config.evaluate actionValue request).decision ≠ .allow ↔
      ¬NamedLikeBase request ∨ toolScopedPermission request ∉ config.permissions request ∨
        request.subject = "" ∨
        crossesTenants request = true ∧
          config.crossTenantPermission ∉ config.permissions request ∨
        isElevated request = true ∧
          "tool:execute:high_impact" ∉ config.permissions request := by
  -- without the wildcard and the permission of the plugin, only the one for the tool is left
  have hneeded : Permits config request (config.permissions request) ↔
      (crossesTenants request = true →
          config.crossTenantPermission ∈ config.permissions request) ∧
        (isElevated request = true →
          "tool:execute:high_impact" ∈ config.permissions request) ∧
          toolScopedPermission request ∈ config.permissions request := by
    rw [Permits, or_iff_right hwildcard, or_iff_right hwildcard,
      or_iff_left (fun h ↦ hplugin (h.1 hscope))]
  rw [Ne, decision_evaluate_eq_allow_iff, hmode, hneeded]
  by_cases hheld : toolScopedPermission request ∈ config.permissions request
  · have hnamed : NamedLikeBase request := toolScopedPermission_mem_base_iff.mp (htool hheld)
    simp only [Bool.false_eq_true, false_or, hheld, and_true, hnamed, not_true]
    rw [not_and_or, not_not, not_and_or, Classical.not_imp, Classical.not_imp]
  · simp [hheld]

/-- A reader is not allowed a tool within a plugin. -/
theorem plugin_scope_guarded_iff_reader :
    (AccessControlConfig.evaluate {} (fun _ ↦ "allow")
      (readerRequest "sum_tool" "analytics")).decision ≠ .allow :=
  (plugin_scope_guarded_iff {} (fun _ ↦ "allow") (readerRequest "sum_tool" "analytics") rfl
    (by decide) (by decide +kernel) (by decide +kernel) (by decide +kernel)).mpr
    (.inl (by rw [NamedLikeBase]; decide))

/-- The tool `execute` is allowed to a reader within a plugin whose permission the reader does not
have. -/
theorem execute_within_plugin_allowed :
    let request := readerRequest "execute" "analytics"
    AccessControlConfig.permissions {} request = {"tool:execute"} ∧
      pluginPermission request = "plugin:analytics:execute" ∧
      (AccessControlConfig.evaluate {} (fun _ ↦ "allow") request).decision = .allow ∧
      (AccessControlConfig.evaluate {} (fun _ ↦ "allow") request).reasonCode =
        "ACCESS_ALLOWED_TOOL_SCOPE" := by
  decide +kernel

end AccessControl
end ExoBrain
