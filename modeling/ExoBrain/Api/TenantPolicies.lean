import ExoBrain.Policies.Entitlements
import ExoBrain.Policies.StoredOverlay
import ExoBrain.Runtime.TenantPolicy

/-!
# Setting a policy, and running a turn under it

`set_policy` (`tenants.py`) makes an overlay of a request, has its settings of the ingress resolved,
asks whether the identity is entitled to what the overlay needs, and stores the overlay with the
resolved settings written into it.  A turn asks again, about the overlay that is stored
(`_evaluate_governance_entitlement` in `turns.py`).  The events for the audit are left out.
-/

set_option autoImplicit false

namespace ExoBrain
namespace Api

open Checks
open Core (PolicyAction)
open Policies ExoBrain.Runtime

/-! ## The routes -/

/-- `HTTPException`. -/
structure HttpException where
  statusCode : Nat
  detail : String
deriving DecidableEq, Repr

/-- What is answered to an exception of the ingress.  Only a `ValueError` is caught. -/
def ofIngressError (statusCode : Nat) : IngressError → HttpException
  | .valueError message => ⟨statusCode, message⟩
  | .overflowError _ => ⟨500, "Internal Server Error"⟩

/-- The overlay that a request makes. -/
def submittedOverlay (body : PolicyOverlayRequest) : Overlay := body.overlay Dict.empty

/-- `set_policy`: the overlay that is stored, or an exception. -/
def setPolicy (S : IngressSystem) (identity : IdentityContext) (previousOverlay : Overlay)
    (activeRunCount : Nat) (body : PolicyOverlayRequest) : Except HttpException Overlay := do
  let overlay := submittedOverlay body
  let ingressResolution ←
    (resolveIngressProfileSettings S overlay).mapError (ofIngressError 422)
  let normalizedIngressPatch := ingressResolution.toOverlayPatch
  let feature := requiredFeatureForGovernanceOverlay S overlay
  let entitlementDecision := evaluateFeatureEntitlement S.toIngressTexts identity feature
  check (entitlementDecision.decision = .allow)
    ⟨403, entitlementDecision.reasonCode ++ ": " ++ entitlementDecision.message⟩
  let previousPluginRef := S.textOf (previousOverlay.get? "signed_gate_plugin_ref") ""
  let nextPluginRef := S.textOf (normalizedIngressPatch.get? "signed_gate_plugin_ref") ""
  let _lifecycle ←
    (classifySignedPluginLifecycleTransition previousPluginRef nextPluginRef
      activeRunCount).mapError (ofIngressError 409)
  return overlay.update normalizedIngressPatch

/-- `_evaluate_governance_entitlement`. -/
def evaluateGovernanceEntitlement (S : IngressSystem) (identity : IdentityContext)
    (overlay : Overlay) : EntitlementDecision :=
  evaluateFeatureEntitlement S.toIngressTexts identity
    (requiredFeatureForGovernanceOverlay S overlay)

/-! ## Before and after -/

section
variable {S : IngressSystem} {identity : IdentityContext} {previousOverlay stored : Overlay}
  {activeRunCount : Nat} {body : PolicyOverlayRequest}

/-- What is stored, and what was checked before. -/
theorem setPolicy_eq_ok
    (h : setPolicy S identity previousOverlay activeRunCount body = .ok stored) :
    ∃ resolution, resolveIngressProfileSettings S (submittedOverlay body) = .ok resolution ∧
      (evaluateGovernanceEntitlement S identity (submittedOverlay body)).decision = .allow ∧
      stored = resolution.patched (submittedOverlay body) := by
  simp only [setPolicy, bind_eq_ok, mapError_eq_ok, check_eq_ok] at h
  obtain ⟨resolution, hresolution, -, hentitled, -, -, h⟩ := h
  exact ⟨resolution, hresolution, hentitled, (Except.ok.inj h).symm⟩

/-- A turn resolves what is stored to the settings that were validated. -/
theorem resolve_setPolicy (hS : LawfulCase S.toIngressTexts)
    (h : setPolicy S identity previousOverlay activeRunCount body = .ok stored) :
    ∃ resolution, resolveIngressProfileSettings S (submittedOverlay body) = .ok resolution ∧
      resolveIngressProfileSettings S stored = .ok resolution := by
  obtain ⟨resolution, hresolution, -, rfl⟩ := setPolicy_eq_ok h
  exact ⟨resolution, hresolution, resolve_patched hS hresolution⟩

/-- **When a policy can be set and used by the same identity.**  For every identity and every request
that `set_policy` accepts from it: the overlay needs the same feature as submitted and as stored, and
the identity passes the check of a turn, exactly if the overlay asks for what it gets. -/
theorem entitlement_agrees_iff
    (h : setPolicy S identity previousOverlay activeRunCount body = .ok stored) :
    requiredFeatureForGovernanceOverlay S (submittedOverlay body) =
          requiredFeatureForGovernanceOverlay S stored ∧
        (evaluateGovernanceEntitlement S identity stored).decision = .allow ↔
      AsksForWhatItGets S (submittedOverlay body) := by
  obtain ⟨resolution, hresolution, hentitled, rfl⟩ := setPolicy_eq_ok h
  rw [← requiredFeature_patched_iff hresolution, and_iff_left_iff_imp]
  intro hsame
  rw [evaluateGovernanceEntitlement] at hentitled ⊢
  rw [← hsame]
  exact hentitled

end

/-- A strict profile, set by an identity of the middle tier. -/
theorem entitlement_agrees_iff_strict :
    let body : PolicyOverlayRequest :=
      { extra := Dict.empty.set "ingress_profile" (.str "strict") }
    ∃ stored, setPolicy asciiSystem ⟨["plan_pro"]⟩ Dict.empty 0 body = .ok stored ∧
      (requiredFeatureForGovernanceOverlay asciiSystem (submittedOverlay body) =
            requiredFeatureForGovernanceOverlay asciiSystem stored ∧
          (evaluateGovernanceEntitlement asciiSystem ⟨["plan_pro"]⟩ stored).decision = .allow ↔
        AsksForWhatItGets asciiSystem (submittedOverlay body)) := by
  intro body
  obtain ⟨stored, hstored⟩ := exists_eq_ok
    (show (setPolicy asciiSystem ⟨["plan_pro"]⟩ Dict.empty 0 body).isOk = true by decide +kernel)
  exact ⟨stored, hstored, entitlement_agrees_iff hstored⟩

/-- An identity of the lowest tier denies a tool and says nothing about the ingress.  The request is
accepted as one for the baseline, and the identity is denied every turn from then on, as the limit of
the baseline is written out in what is stored. -/
theorem baseline_policy_locks_out :
    let body : PolicyOverlayRequest := { denyTools := ["wipe"] }
    requiredFeatureForGovernanceOverlay asciiSystem (submittedOverlay body) =
        .governanceIngressBaseline ∧
      (setPolicy asciiSystem ⟨[]⟩ Dict.empty 0 body).map (fun stored ↦
          (requiredFeatureForGovernanceOverlay asciiSystem stored,
            (evaluateGovernanceEntitlement asciiSystem ⟨[]⟩ stored).decision)) =
        .ok (.governanceIngressProfile, .deny) := by
  decide +kernel

end Api
end ExoBrain
