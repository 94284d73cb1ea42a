import ExoBrain.Byoc.RuntimeCalls

/-!
# What a call of the runtime does to the replay guard

A request of a worker, or of a webhook, is remembered under a key.  Which key that is, and whether
the request is refused before it comes to that, does not depend on the state of the runtime:
`workerRequest` and `submitRequest` are the checks up to the replay guard, and `authenticate_eq`
puts the two halves together.

A call asks the guard for at most two things, in this order: a retention pass, and one `mark_once`.
`replay_step` says so, with `retained` for what the first one leaves and `requestMark` for the key
of the second.
-/

set_option autoImplicit false

namespace ExoBrain
namespace Byoc

open Text

/-! ## Requests -/

namespace TenantByocConnectorRuntime

variable {σ τ ρ : Type} (rt : TenantByocConnectorRuntime σ τ ρ)

/-- The checks of a request made with a worker token, up to the replay guard: the claims of the
token, and the key of the request. -/
def workerRequest (clock : RuntimeClock) (kind tenantId workerToken requestNonce : String) :
    Except String (WorkerAuthClaims × String) :=
  match verifyWorkerToken (rt.jwtDecode clock.token workerToken rt.settings.workerJwtSecret)
      tenantId with
  | .error reason => .error reason
  | .ok claims =>
    if strip requestNonce = "" then .error "WORKER_NONCE_REQUIRED"
    else .ok (claims, workerReplayKey kind tenantId claims.tokenId (strip requestNonce))

theorem authenticateWorker_eq (clock : RuntimeClock)
    (kind tenantId workerToken requestNonce : String) (s : RuntimeState σ τ ρ) :
    rt.authenticateWorker clock kind tenantId workerToken requestNonce s =
      match rt.workerRequest clock kind tenantId workerToken requestNonce with
      | .error reason => (.error reason, s)
      | .ok (claims, key) =>
        let marked := rt.markRequest clock key "WORKER_REQUEST_REPLAYED" s
        (marked.1.map fun _ ↦ claims, marked.2) := by
  rw [authenticateWorker, workerRequest]
  cases verifyWorkerToken (rt.jwtDecode clock.token workerToken rt.settings.workerJwtSecret)
      tenantId with
  | error reason => rfl
  | ok claims =>
    simp only
    split <;> rfl

/-- The same for a submission: the key of the request, and what a replay of it raises. -/
def submitRequest (clock : RuntimeClock) (sub : Submission) : Except String (String × String) :=
  match sub.auth with
  | .worker workerToken requestNonce =>
    (rt.workerRequest clock "submit" sub.tenantId workerToken requestNonce).map fun request ↦
      (request.2, "WORKER_REQUEST_REPLAYED")
  | .webhook webhookSecret webhookRequestId =>
    if strip webhookSecret = "" ∨ strip webhookSecret ≠ rt.settings.workerJwtSecret then
      .error "WEBHOOK_AUTH_INVALID"
    else if strip webhookRequestId = "" then .error "WEBHOOK_REQUEST_ID_REQUIRED"
    else .ok (webhookReplayKey sub.tenantId (strip webhookRequestId), "WEBHOOK_REQUEST_REPLAYED")

theorem authenticate_eq (clock : RuntimeClock) (sub : Submission) (s : RuntimeState σ τ ρ) :
    rt.authenticate clock sub s =
      match rt.submitRequest clock sub with
      | .error reason => (.error reason, s)
      | .ok (key, reason) => rt.markRequest clock key reason s := by
  rw [authenticate, submitRequest]
  cases sub.auth with
  | worker workerToken requestNonce =>
    simp only [authenticateWorker_eq]
    cases rt.workerRequest clock "submit" sub.tenantId workerToken requestNonce with
    | error reason => rfl
    | ok request =>
      obtain ⟨claims, key⟩ := request
      simp only [Except.map]
      rcases rt.markRequest clock key "WORKER_REQUEST_REPLAYED" s with ⟨reason | _, s'⟩ <;> rfl
  | webhook webhookSecret webhookRequestId =>
    simp only [authenticateWebhook]
    split
    · rfl
    · split <;> rfl

/-- After the checks on the request, a submission does not come back to the replay guard. -/
theorem ingestResultAfterAuth_frame (clock : RuntimeClock) (tenantId : String)
    (result : ByocToolResultEnvelope) (s : RuntimeState σ τ ρ) :
    (rt.ingestResultAfterAuth clock tenantId result s).2.replay = s.replay ∧
      (rt.ingestResultAfterAuth clock tenantId result s).2.lastCleanupEpoch =
        s.lastCleanupEpoch := by
  simp only [ingestResultAfterAuth, ingestLeased]
  split
  · exact ⟨rfl, rfl⟩
  · split
    · exact ⟨rfl, rfl⟩
    · split
      · exact ⟨rfl, rfl⟩
      · split
        · exact ⟨rfl, rfl⟩
        · split <;> exact ⟨rfl, rfl⟩

theorem replay_submit (clock : RuntimeClock) (sub : Submission) (s : RuntimeState σ τ ρ) :
    (rt.submit clock sub s).2.replay =
      (rt.authenticate clock sub (rt.cleaned clock sub.tenantId s)).2.replay := by
  rw [submit_eq]
  generalize rt.authenticate clock sub (rt.cleaned clock sub.tenantId s) = auth
  obtain ⟨reason | _, s'⟩ := auth
  · rfl
  · exact (rt.ingestResultAfterAuth_frame clock sub.tenantId sub.result s').1

/-- `claim_next_job` from the sweep on. -/
def claimSwept (clock : RuntimeClock) (tenantId workerToken requestNonce leaseToken : String)
    (s : RuntimeState σ τ ρ) : Except String (Option ByocToolJobEnvelope) × RuntimeState σ τ ρ :=
  match rt.authenticateWorker clock "claim" tenantId workerToken requestNonce s with
  | (.error reason, s) => (.error reason, s)
  | (.ok claims, s) =>
    let claimed := rt.jobStore.claimNext clock.lease tenantId claims.workerId
      rt.settings.attributes.leaseTtlSeconds leaseToken s.jobs
    let found := if claimed.1.isSome then 1 else 0
    (.ok claimed.1,
      { s with
        jobs := claimed.2
        metrics := { s.metrics with claimedJobsTotal := s.metrics.claimedJobsTotal + found } })

theorem claimNextJob_eq (clock : RuntimeClock)
    (tenantId workerToken requestNonce leaseToken : String) (s : RuntimeState σ τ ρ) :
    rt.claimNextJob clock tenantId workerToken requestNonce leaseToken s =
      rt.claimSwept clock tenantId workerToken requestNonce leaseToken
        (rt.requeueExpiredLeases clock tenantId (rt.cleaned clock tenantId s)) := rfl

/-- The key under which the replay guard looks for the request behind a call, if it comes to
that. -/
def requestKey (c : RuntimeCall) : Option String :=
  match c.op with
  | .claimNextJob tenantId workerToken requestNonce _ =>
    (rt.workerRequest c.clock "claim" tenantId workerToken requestNonce).toOption.map fun request ↦
      strip request.2
  | .submit sub => (rt.submitRequest c.clock sub).toOption.map fun request ↦ strip request.1
  | _ => none

/-! ## The operations of the replay guard behind a call -/

/-- What the retention pass of a call leaves of the guard. -/
def retained (s : RuntimeState σ τ ρ) (c : RuntimeCall) : ρ :=
  match c.op with
  | .executeEnqueue admitted call _ _ =>
    if admitted then (rt.cleaned c.clock (executeTenant call.tenantId) s).replay else s.replay
  | .claimNextJob tenantId _ _ _ => (rt.cleaned c.clock tenantId s).replay
  | .submit sub => (rt.cleaned c.clock sub.tenantId s).replay
  | .cleanupRetention tenantId force => (rt.runCleanup c.clock tenantId force s).2.replay
  | _ => s.replay

theorem replay_runCleanup (clock : RuntimeClock) (tenantId : String) (force : Bool)
    (s : RuntimeState σ τ ρ) :
    (rt.runCleanup clock tenantId force s).2.replay = s.replay ∨
      (rt.runCleanup clock tenantId force s).2.replay =
        (rt.replayGuard.cleanupRetention clock.replayRetention tenantId s.replay).2 := by
  rw [runCleanup]
  split
  · exact .inr rfl
  · exact .inl rfl

/-- The retention pass is one of the guard's own, if there is one. -/
theorem retained_cases (s : RuntimeState σ τ ρ) (c : RuntimeCall) :
    rt.retained s c = s.replay ∨ ∃ tenantId, rt.retained s c =
      (rt.replayGuard.cleanupRetention c.clock.replayRetention tenantId s.replay).2 := by
  have hcleanup (tenantId : String) (force : Bool) :
      (rt.runCleanup c.clock tenantId force s).2.replay = s.replay ∨ ∃ tenantId',
        (rt.runCleanup c.clock tenantId force s).2.replay =
          (rt.replayGuard.cleanupRetention c.clock.replayRetention tenantId' s.replay).2 :=
    (rt.replay_runCleanup c.clock tenantId force s).imp id fun h ↦ ⟨tenantId, h⟩
  obtain ⟨clock, op⟩ := c
  cases op with
  | executeEnqueue admitted call descriptor jobId =>
    simp only [retained]
    split
    · exact hcleanup _ _
    · exact .inl rfl
  | claimNextJob tenantId workerToken requestNonce leaseToken => exact hcleanup _ _
  | submit sub => exact hcleanup _ _
  | cleanupRetention tenantId force => exact hcleanup _ _
  | executePoll tenantId jobId => exact .inl rfl
  | requestCancellation callId => exact .inl rfl
  | replayDeadLetterJob tenantId jobId => exact .inl rfl
  | replayDeadLetterJobs tenantId jobIds limit => exact .inl rfl

/-- The key that a call passes to `mark_once`, if it comes to that. -/
def requestMark (c : RuntimeCall) : Option String :=
  match c.op with
  | .claimNextJob tenantId workerToken requestNonce _ =>
    (rt.workerRequest c.clock "claim" tenantId workerToken requestNonce).toOption.map Prod.snd
  | .submit sub => (rt.submitRequest c.clock sub).toOption.map Prod.fst
  | _ => none

/-- `mark_once` on what the retention pass of a call left. -/
def marked (s : RuntimeState σ τ ρ) (c : RuntimeCall) (key : String) : Bool × ρ :=
  rt.replayGuard.markOnce c.clock.mark key rt.settings.attributes.replayTtlSeconds (rt.retained s c)

theorem replay_claimNextJob (clock : RuntimeClock)
    (tenantId workerToken requestNonce leaseToken : String) (s : RuntimeState σ τ ρ) :
    (rt.claimNextJob clock tenantId workerToken requestNonce leaseToken s).2.replay =
      (rt.authenticateWorker clock "claim" tenantId workerToken requestNonce
        (rt.requeueExpiredLeases clock tenantId (rt.cleaned clock tenantId s))).2.replay := by
  rw [claimNextJob_eq, claimSwept]
  rcases rt.authenticateWorker clock "claim" tenantId workerToken requestNonce
    (rt.requeueExpiredLeases clock tenantId (rt.cleaned clock tenantId s)) with
    ⟨reason | claims, s'⟩ <;> rfl

/-- **The runtime asks the guard for a retention pass and a mark, at most.** -/
theorem replay_step (s : RuntimeState σ τ ρ) (c : RuntimeCall) :
    (rt.step s c).2.replay =
      match rt.requestMark c with
      | none => rt.retained s c
      | some key => (rt.marked s c key).2 := by
  obtain ⟨clock, op⟩ := c
  cases op with
  | executeEnqueue admitted call descriptor jobId =>
    simp only [step, requestMark, retained, executeEnqueue]
    split <;> rfl
  | claimNextJob tenantId workerToken requestNonce leaseToken =>
    simp only [step, requestMark]
    rw [replay_claimNextJob, authenticateWorker_eq]
    rcases rt.workerRequest clock "claim" tenantId workerToken requestNonce with
      reason | ⟨claims, key⟩ <;> rfl
  | submit sub =>
    simp only [step, requestMark]
    rw [replay_submit, authenticate_eq]
    rcases rt.submitRequest clock sub with reason | ⟨key, reason⟩ <;> rfl
  | executePoll tenantId jobId => rfl
  | requestCancellation callId =>
    simp only [step, requestMark, retained, requestCancellation]
    split <;> rfl
  | replayDeadLetterJob tenantId jobId => rfl
  | replayDeadLetterJobs tenantId jobIds limit => rfl
  | cleanupRetention tenantId force => rfl

end TenantByocConnectorRuntime

end Byoc
end ExoBrain
