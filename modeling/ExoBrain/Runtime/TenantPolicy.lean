import ExoBrain.Policies.RiskGates
import ExoBrain.Runtime.TenantRuntime

/-!
# The policy of a tenant

The overlay of a tenant is set by two routes (`tenants.py`), and kept in the store that `bootstrap`
files in the state of the application.  The tool calls of the tenant go through its context, whose
middleware `TenantContextBuilder.build` makes.

* `App` is the application as far as the policy goes: the factory of the contexts and the store.
* `build` is what the builder makes for a tenant; all contexts of the factory are made by it.
* An `AppCall` is a call of the factory, a request that sets an overlay, or a tool call through a
  context.  Of the checks that the routes make, whose result depends on much else, only the outcome
  is an input: the settings of the ingress that are added to the overlay, or that the request was
  refused.
* `storedOverlay` is the overlay that was stored last in a history, and `getOverlay_exec` finds it in
  the store.

## What the overlay does

Nothing passes the store on: `bootstrap` does not give it to the factory, and the builder makes the
middleware without one.  So every call through a context is decided as if nothing was configured
(`answer_step`), and that is what the stored overlay asks for exactly if none of its gates catches
the call (`policy_takes_effect_iff`).
-/

set_option autoImplicit false

namespace ExoBrain
namespace Runtime

open Policies

/-! ## The contexts -/

/-- The stores of the application that an object may hold. -/
inductive StoreRef
  /-- `app.state.policy_overlay_store`. -/
  | policyOverlayStore
deriving DecidableEq, Repr

/-- `TenantRuntimeContext`, with what decides about its tool calls. -/
structure BuiltContext where
  tenantId : String
  policyMiddleware : DeterministicFirstPolicyMiddleware StoreRef

/-- `TenantContextBuilder.build`: `policy_middleware = DeterministicFirstPolicyMiddleware()`. -/
def TenantContextBuilder.build (tenantId : String) : BuiltContext where
  tenantId := tenantId
  policyMiddleware := {}

/-- The context that the factory holds for a tenant is one that the builder made. -/
def TenantRuntimeContext.built (context : TenantRuntimeContext) : BuiltContext :=
  TenantContextBuilder.build context.tenantId

/-! ## The application -/

/-- `app.state`, as far as the policy goes. -/
structure App where
  tenantFactory : TenantRuntimeFactory
  policyOverlayStore : TenantPolicyOverlayStore

/-- `bootstrap`.  The factory is made from the providers, the settings and the session store. -/
def bootstrap (policyOverlayStore : Option TenantPolicyOverlayStore) : App where
  tenantFactory := .initial
  policyOverlayStore := policyOverlayStore.getD .empty

/-- `PolicyOverlayRequest`. -/
structure PolicyOverlayRequest where
  denyTools : List String := []
  escalateRiskTiers : List String := []
  escalateStateChanging : Bool := false
  extra : Overlay := Dict.empty

/-- `d.update(e)`. -/
def updated (d e : Overlay) : Overlay := e.entries.foldl (fun d entry ↦ d.set entry.1 entry.2) d

/-- The overlay that `set_policy` stores. -/
def PolicyOverlayRequest.overlay (body : PolicyOverlayRequest) (ingressPatch : Overlay) : Overlay :=
  let overlay : Overlay := ((Dict.empty.set "deny_tools" (.list (body.denyTools.map .str))).set
    "escalate_risk_tiers" (.list (body.escalateRiskTiers.map .str))).set
    "escalate_state_changing" (.bool body.escalateStateChanging)
  updated (updated overlay body.extra) ingressPatch

/-- What happens to the application. -/
inductive AppCall
  | factory (call : FactoryCall)
  /-- `set_policy`.  Without a patch, the request was refused. -/
  | setPolicy (tenantId : String) (body : PolicyOverlayRequest) (ingressPatch : Option Overlay)
  /-- `apply_policy_template`.  Without an overlay, the request was refused. -/
  | applyPolicyTemplate (tenantId : String) (overlay : Option Overlay)
  /-- `context.policy_middleware.before_tool_call(call)`. -/
  | beforeToolCall (context : TenantRuntimeContext) (call : PolicyCallContext)

/-- What the application answers. -/
inductive AppAnswer
  | factory (answer : FactoryAnswer)
  | stored
  | refused
  | decided (decision : PolicyDecision)
deriving DecidableEq, Repr

/-- The overlay that a call stores for a tenant. -/
def AppCall.stores? : AppCall → Option (String × Overlay)
  | .setPolicy tenantId body ingressPatch =>
    ingressPatch.map fun patch ↦ (tenantId, body.overlay patch)
  | .applyPolicyTemplate tenantId overlay => overlay.map fun overlay ↦ (tenantId, overlay)
  | _ => none

namespace App

/-- The store that a reference stands for. -/
def deref (app : App) : StoreRef → TenantPolicyOverlayStore
  | .policyOverlayStore => app.policyOverlayStore

/-- One call. -/
def step (T : PolicyTexts) (settings : RuntimeSettings) (app : App) :
    AppCall → AppAnswer × App
  | .factory call =>
    let r := app.tenantFactory.step settings call
    (.factory r.1, { app with tenantFactory := r.2 })
  | .setPolicy tenantId body ingressPatch =>
    match ingressPatch with
    | none => (.refused, app)
    | some patch =>
      (.stored,
        { app with
          policyOverlayStore := app.policyOverlayStore.setOverlay tenantId (body.overlay patch) })
  | .applyPolicyTemplate tenantId overlay =>
    match overlay with
    | none => (.refused, app)
    | some overlay =>
      (.stored,
        { app with policyOverlayStore := app.policyOverlayStore.setOverlay tenantId overlay })
  | .beforeToolCall context call =>
    (.decided (context.built.policyMiddleware.beforeToolCall T app.deref call), app)

end App

/-! ## What is stored -/

/-- The overlay that was stored last for a tenant. -/
def storedOverlay (tenantId : String) (overlay : Overlay) : List AppCall → Overlay
  | [] => overlay
  | call :: calls =>
    storedOverlay tenantId
      (match call.stores? with
        | some (tenantId', stored) => if tenantId = tenantId' then stored else overlay
        | none => overlay)
      calls

section
variable (T : PolicyTexts) (settings : RuntimeSettings)

theorem getOverlay_step (app : App) (call : AppCall) (tenantId : String) :
    (app.step T settings call).2.policyOverlayStore.getOverlay tenantId =
      match call.stores? with
      | some (tenantId', stored) =>
        if tenantId = tenantId' then stored else app.policyOverlayStore.getOverlay tenantId
      | none => app.policyOverlayStore.getOverlay tenantId := by
  cases call with
  | factory call => rfl
  | setPolicy tenantId' body ingressPatch =>
    cases ingressPatch with
    | none => rfl
    | some patch => exact TenantPolicyOverlayStore.getOverlay_setOverlay _ _ _ _
  | applyPolicyTemplate tenantId' overlay =>
    cases overlay with
    | none => rfl
    | some overlay => exact TenantPolicyOverlayStore.getOverlay_setOverlay _ _ _ _
  | beforeToolCall context call => rfl

/-- The store holds for each tenant what was stored last for it. -/
theorem getOverlay_exec (app : App) (calls : List AppCall) (tenantId : String) :
    (Run.exec (App.step T settings) app calls).policyOverlayStore.getOverlay tenantId =
      storedOverlay tenantId (app.policyOverlayStore.getOverlay tenantId) calls := by
  induction calls generalizing app with
  | nil => rfl
  | cons call calls ih =>
    rw [Run.exec, ih, getOverlay_step, storedOverlay]

/-! ## What the overlay does -/

/-- Every tool call through a context is decided as if nothing was configured. -/
theorem answer_step (app : App) (context : TenantRuntimeContext) (call : PolicyCallContext) :
    (app.step T settings (.beforeToolCall context call)).1 =
      .decided (RiskGateConfig.decide T {} call "policy-risk-gate-v1" "1.0.0") :=
  rfl

/-- **The stored policy takes effect exactly if it has nothing to say.**  For every history of the
application, whatever the order in which contexts were made and policies set, every context and every
tool call through it: the decision is the one under the overlay that the store holds for the tenant
of the context, exactly if no gate of the overlay that was stored last for that tenant catches the
call. -/
theorem policy_takes_effect_iff (store : Option TenantPolicyOverlayStore) (calls : List AppCall)
    (context : TenantRuntimeContext) (call : PolicyCallContext) :
    let app := Run.exec (App.step T settings) (bootstrap store) calls
    (app.step T settings (.beforeToolCall context call)).1 =
        .decided (RiskGateConfig.evaluate T {} call "policy-risk-gate-v1" "1.0.0"
          (some (app.policyOverlayStore.getOverlay context.tenantId))) ↔
      ¬OverlayFires T (storedOverlay context.tenantId
        ((bootstrap store).policyOverlayStore.getOverlay context.tenantId) calls) call := by
  intro app
  rw [answer_step, getOverlay_exec, AppAnswer.decided.injEq, RiskGateConfig.evaluate,
    Option.getD_some]
  generalize storedOverlay context.tenantId
    ((bootstrap store).policyOverlayStore.getOverlay context.tenantId) calls = stored
  rw [overlayFires_iff]
  constructor
  · intro heq hfires
    have hallow : (RiskGateConfig.decide T {} call "policy-risk-gate-v1" "1.0.0").decision = .allow :=
      decision_decide_default _ _
    rw [heq] at hallow
    exact decision_decide_ne_allow hfires _ _ hallow
  · intro hquiet
    exact (decide_of_quiet (accessPolicyEngine_effectiveConfig stored) hquiet _ _).symm

end

/-- A tenant denies a tool, and then gets its context. -/
def denyThenBuild : List AppCall :=
  [.setPolicy "acme" { denyTools := ["wipe"] } (some Dict.empty),
    .factory (.getOrCreate ⟨0, 0⟩ "acme")]

/-- A tool call of the tenant. -/
def wipeCall : PolicyCallContext := { callId := "call-1", toolName := "wipe", tenantId := "acme" }

/-- The values of the risk tiers, in lower case. -/
def lowerCaseTexts : PolicyTexts where
  isPrintable _ := true
  riskTierValue
    | .low => "low"
    | .medium => "medium"
    | .high => "high"
    | .critical => "critical"

/-- The tool is listed in the stored overlay, the policy denies it, and the call is allowed. -/
theorem denied_tool_allowed :
    let app := Run.exec (App.step lowerCaseTexts {}) (bootstrap none) denyThenBuild
    let stored := app.policyOverlayStore.getOverlay "acme"
    let answer := (app.step lowerCaseTexts {} (.beforeToolCall ⟨"acme"⟩ wipeCall)).1
    "wipe" ∈ overlayStrSet lowerCaseTexts "deny_tools" ∅ stored ∧
      (RiskGateConfig.evaluate lowerCaseTexts {} wipeCall "policy-risk-gate-v1" "1.0.0"
        (some stored)).decision = .deny ∧
      answer = .decided
        { decision := .allow
          reasonCode := "LOW_RISK_ALLOWED"
          message := "Low-risk read-only tool allowed."
          audit := ⟨"policy-risk-gate-v1", "1.0.0", "call-1"⟩ } := by
  decide

end Runtime
end ExoBrain
