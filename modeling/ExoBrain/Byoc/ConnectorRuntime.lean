import ExoBrain.Byoc.ResultStore
import ExoBrain.Byoc.Record

/-!
# The connector runtime

`TenantByocConnectorRuntime` (`connector_runtime.py`) is the adapter between the control plane,
which *executes* tool calls, and the workers, which *claim* the jobs and *submit* their results.
It keeps nothing of the jobs itself: the job store, the result store and the replay guard are
parameters, used through their contracts only.

* `ByocRuntimeSettings` holds the arguments of `__init__`, and `ByocRuntimeSettings.attributes` what
  `__init__` makes of them.
* `TenantByocConnectorRuntime σ τ ρ` is the object, `RuntimeState σ τ ρ` everything it changes.
  A method is a function of the object, the clock and the state; one that may raise returns an
  `Except` beside the state, since what was written before the `raise` stays written.
* `RuntimeCall` and `TenantByocConnectorRuntime.step` make it a machine whose runs are the
  interleavings of the calls.  `execute` blocks until its result arrives, so it is two kinds of
  calls here: the part up to `enqueue`, and one turn of the polling loop.

`time.time()` is read several times in one call; `RuntimeClock` has one field for each reading.
`uuid4` is a parameter of the calls that use it, and `jwt.decode` one of the object.  Budgets and
fair admission decide before anything else whether `execute` goes on; here they are the argument
`admitted`.
-/

set_option autoImplicit false

namespace ExoBrain
namespace Byoc

open Text

/-! ## Worker tokens -/

/-- The payload of a worker token, as far as `verify_worker_token` reads it. -/
structure JwtPayload where
  tenantId : String
  workerId : String
  jti : String
  iat : Int
  exp : Int
deriving DecidableEq, Repr

/-- `mint_worker_token`, up to the `jwt.encode` that signs the payload. -/
def mintWorkerToken (now : Epoch) (tenantId workerId : String) (ttlSeconds : Int)
    (jti : String) : JwtPayload :=
  ⟨tenantId, workerId, jti, Epoch.seconds now, Epoch.seconds (now + ttlTicks ttlSeconds)⟩

/-- The two ways `jwt.decode` fails. -/
inductive JwtError
  | expiredSignature
  | invalidToken
deriving DecidableEq, Repr

/-- `WorkerAuthClaims`. -/
structure WorkerAuthClaims where
  tenantId : String
  workerId : String
  tokenId : String
  issuedAtEpoch : Int
  expiresAtEpoch : Int
deriving DecidableEq, Repr

/-- `verify_worker_token`, after `jwt.decode`. -/
def verifyWorkerToken (decoded : Except JwtError JwtPayload) (expectedTenantId : String) :
    Except String WorkerAuthClaims :=
  match decoded with
  | .error .expiredSignature => .error "WORKER_TOKEN_EXPIRED"
  | .error .invalidToken => .error "WORKER_TOKEN_INVALID"
  | .ok payload =>
    if strip payload.tenantId ≠ expectedTenantId then .error "WORKER_TOKEN_TENANT_MISMATCH"
    else if strip payload.workerId = "" then .error "WORKER_TOKEN_INVALID"
    else if strip payload.jti = "" then .error "WORKER_TOKEN_INVALID"
    else .ok ⟨strip payload.tenantId, strip payload.workerId, strip payload.jti, payload.iat,
      payload.exp⟩

/-! ## Settings and state -/

/-- The arguments of `__init__` that the methods below read, with their defaults. -/
structure ByocRuntimeSettings where
  workerJwtSecret : String
  workerTokenTtlSeconds : Int := 300
  leaseTtlSeconds : Int := 30
  replayTtlSeconds : Int := 300
  cleanupIntervalSeconds : Int := 30
  completedTtlSeconds : Int := 3600
  cancelledTtlSeconds : Int := 3600
  resultTtlSeconds : Int := 3600
  idempotencyTtlSeconds : Int := 3600
  maxCompletedRecords : Int := 2000
  maxCancelledRecords : Int := 2000
  maxResultRecords : Int := 2000
  maxClaimAttemptsBeforeDlq : Int := 3
  nonBlockingExecute : Bool := false
deriving DecidableEq, Repr

/-- The attributes `__init__` stores. -/
def ByocRuntimeSettings.attributes (raw : ByocRuntimeSettings) : ByocRuntimeSettings where
  workerJwtSecret := raw.workerJwtSecret
  workerTokenTtlSeconds := max raw.workerTokenTtlSeconds 1
  leaseTtlSeconds := max raw.leaseTtlSeconds 1
  replayTtlSeconds := max raw.replayTtlSeconds 1
  cleanupIntervalSeconds := max raw.cleanupIntervalSeconds 1
  completedTtlSeconds := max raw.completedTtlSeconds 1
  cancelledTtlSeconds := max raw.cancelledTtlSeconds 1
  resultTtlSeconds := max raw.resultTtlSeconds 1
  idempotencyTtlSeconds := max raw.idempotencyTtlSeconds 1
  maxCompletedRecords := max raw.maxCompletedRecords 0
  maxCancelledRecords := max raw.maxCancelledRecords 0
  maxResultRecords := max raw.maxResultRecords 0
  maxClaimAttemptsBeforeDlq := max raw.maxClaimAttemptsBeforeDlq 1
  nonBlockingExecute := raw.nonBlockingExecute

/-- The readings of the clock in one call of the runtime, in the order in which they are made. -/
structure RuntimeClock where
  /-- `_run_cleanup` itself. -/
  cleanup : Epoch
  /-- `cleanup_retention` of the job store. -/
  jobRetention : Epoch
  /-- `cleanup_retention` of the result store. -/
  resultRetention : Epoch
  /-- `cleanup_retention` of the replay guard. -/
  replayRetention : Epoch
  /-- `requeue_expired_leases`. -/
  sweep : Epoch
  /-- The check of a token's lifetime. -/
  token : Epoch
  /-- `mark_once`. -/
  mark : Epoch
  /-- `claim_next`, `get_leased_job` or `cancel_pending_call`. -/
  lease : Epoch
  /-- `complete_claim`. -/
  complete : Epoch
  /-- `ingest`. -/
  ingest : Epoch
deriving DecidableEq, Repr

/-- A clock that does not move during the call. -/
def RuntimeClock.still (now : Epoch) : RuntimeClock :=
  ⟨now, now, now, now, now, now, now, now, now, now⟩

/-- The counters behind `control_stats` and `control_stats_for_tenant`. -/
structure RuntimeMetrics where
  enqueuedJobsTotal : Nat := 0
  claimedJobsTotal : Nat := 0
  submittedResultsTotal : Nat := 0
  duplicateResultsTotal : Nat := 0
  cancelRequestedTotal : Nat := 0
  leaseRequeueTotal : Nat := 0
  dlqMovedTotal : Nat := 0
  dlqReplayedTotal : Nat := 0
  dlqReplayFailedTotal : Nat := 0
  cleanupRunsTotal : Nat := 0
  cleanupPrunedTotal : Nat := 0
  tenantSubmitAttemptsTotal : Dict String Nat := Dict.empty
  tenantRejectedResultsTotal : Dict String Nat := Dict.empty
  tenantRejectionsByReason : Dict String (Dict String Nat) := Dict.empty

namespace RuntimeMetrics

/-- `_increment_tenant_submit_attempt`. -/
def incrementTenantSubmitAttempt (tenantId : String) (m : RuntimeMetrics) : RuntimeMetrics :=
  let normalized := if strip tenantId = "" then "default" else strip tenantId
  { m with tenantSubmitAttemptsTotal := m.tenantSubmitAttemptsTotal.increment normalized }

/-- `_increment_tenant_rejection`. -/
def incrementTenantRejection (tenantId reasonCode : String) (m : RuntimeMetrics) :
    RuntimeMetrics :=
  let normalized := if strip tenantId = "" then "default" else strip tenantId
  let reason := if strip reasonCode = "" then "UNKNOWN" else strip reasonCode
  let bucket := (m.tenantRejectionsByReason.get? normalized).getD Dict.empty
  { m with
    tenantRejectedResultsTotal := m.tenantRejectedResultsTotal.increment normalized
    tenantRejectionsByReason := m.tenantRejectionsByReason.set normalized (bucket.increment reason) }

end RuntimeMetrics

/-- What the methods of the runtime change: the stores it was given, and its own books. -/
structure RuntimeState (σ τ ρ : Type) where
  jobs : σ
  results : τ
  replay : ρ
  lastCleanupEpoch : Epoch := 0
  metrics : RuntimeMetrics := {}

/-- `TenantByocConnectorRuntime`: its stores, its settings, and the `jwt.decode` it relies on. -/
structure TenantByocConnectorRuntime (σ τ ρ : Type) where
  jobStore : ByocJobQueueStore σ
  resultStore : ByocResultStore τ
  replayGuard : ReplayGuard ρ
  settings : ByocRuntimeSettings
  /-- `jwt.decode(token, secret, ..)` at the given moment. -/
  jwtDecode : (now : Epoch) → (token secret : String) → Except JwtError JwtPayload

/-! ## Tool calls -/

/-- The fields of a `ToolCallContext` that `execute` reads. -/
structure ToolCallContext where
  callId : String
  tenantId : String := ""
  runId : String := ""
  arguments : String := "\x7b\x7d"
  toolName : String := ""
  providerId : String := ""
deriving DecidableEq, Repr

/-- The fields of a `ToolDescriptor` that `execute` copies into the job, with its metadata entries
spelled out. -/
structure ToolDescriptor where
  name : String
  timeoutMs : Int := 30000
  toolVersion : String := ""
  packageRef : String := ""
  entryFile : String := ""
  entrypoint : String := ""
  artifactBundleHashSha256 : String := ""
  artifactBundleSignatureHmacSha256 : String := ""
  artifactSignatureVersion : String := ""
deriving DecidableEq, Repr

/-- `str(call.tenant_id or "default").strip() or "default"`. -/
def executeTenant (tenantId : String) : String :=
  let normalized := strip (if tenantId = "" then "default" else tenantId)
  if normalized = "" then "default" else normalized

/-- The job `execute` builds for a call, under a fresh id. -/
def jobOfCall (call : ToolCallContext) (descriptor : ToolDescriptor) (jobId : String) :
    ByocToolJobEnvelope where
  jobId := jobId
  tenantId := executeTenant call.tenantId
  runId := call.runId
  callId := call.callId
  toolName := descriptor.name
  arguments := call.arguments
  timeoutMs := max descriptor.timeoutMs 1
  correlationId := call.callId
  idempotencyKey := executeTenant call.tenantId ++ ":" ++ call.callId ++ ":" ++
    (if call.runId = "" then "run" else call.runId)
  toolVersion := descriptor.toolVersion
  packageRef := descriptor.packageRef
  entryFile := descriptor.entryFile
  entrypoint := descriptor.entrypoint
  artifactBundleHashSha256 := descriptor.artifactBundleHashSha256
  artifactBundleSignatureHmacSha256 := descriptor.artifactBundleSignatureHmacSha256
  artifactSignatureVersion := descriptor.artifactSignatureVersion

/-- How a submission shows that it may be made. -/
inductive SubmissionAuth
  /-- `submit_result`: a worker token and a nonce. -/
  | worker (workerToken requestNonce : String)
  /-- `submit_result_webhook`: the shared secret and a request id. -/
  | webhook (webhookSecret webhookRequestId : String)
deriving DecidableEq, Repr

/-- The arguments of `submit_result` or of `submit_result_webhook`. -/
structure Submission where
  tenantId : String
  auth : SubmissionAuth
  result : ByocToolResultEnvelope
deriving DecidableEq, Repr

/-- What `replay_dead_letter_jobs` returns; every failure has the one reason
`DLQ_REPLAY_NOT_FOUND_OR_NOT_DLQ`. -/
structure ReplaySummary where
  attempted : Nat
  replayed : Nat
  failures : List String
deriving DecidableEq, Repr

/-- What `cleanup_retention` returns. -/
structure CleanupSummary where
  jobRecordsPruned : Nat
  resultRecordsPruned : Nat
  replayRecordsPruned : Nat
deriving DecidableEq, Repr

namespace TenantByocConnectorRuntime

variable {σ τ ρ : Type} (rt : TenantByocConnectorRuntime σ τ ρ)

/-! ## Housekeeping -/

/-- `max_claim_attempts_before_dlq` as the sweeps of the runtime pass it on. -/
def dlqLimit : Int := rt.settings.attributes.maxClaimAttemptsBeforeDlq

/-- The settings of the job store's retention. -/
def jobLimits : RetentionLimits :=
  let attributes := rt.settings.attributes
  ⟨attributes.completedTtlSeconds, attributes.cancelledTtlSeconds, attributes.maxCompletedRecords,
    attributes.maxCancelledRecords⟩

/-- The settings of the result store's retention. -/
def resultLimits : ResultRetentionLimits :=
  let attributes := rt.settings.attributes
  ⟨attributes.resultTtlSeconds, attributes.idempotencyTtlSeconds, attributes.maxResultRecords⟩

/-- Does `_run_cleanup` go on? -/
def cleanupDue (now : Epoch) (force : Bool) (s : RuntimeState σ τ ρ) : Bool :=
  force || s.lastCleanupEpoch + ttlTicks rt.settings.attributes.cleanupIntervalSeconds ≤ now

/-- `_run_cleanup`. -/
def runCleanup (clock : RuntimeClock) (tenantId : String) (force : Bool)
    (s : RuntimeState σ τ ρ) : CleanupSummary × RuntimeState σ τ ρ :=
  if rt.cleanupDue clock.cleanup force s then
    let jobs := rt.jobStore.cleanupRetention clock.jobRetention tenantId rt.jobLimits s.jobs
    let results :=
      rt.resultStore.cleanupRetention clock.resultRetention tenantId rt.resultLimits s.results
    let replay := rt.replayGuard.cleanupRetention clock.replayRetention tenantId s.replay
    let jobTotal := jobs.1.completedPruned + jobs.1.cancelledPruned
    let resultTotal := results.1.resultPayloadsPruned + results.1.idempotencyPruned
    (⟨jobTotal, resultTotal, replay.1⟩,
      { jobs := jobs.2
        results := results.2
        replay := replay.2
        lastCleanupEpoch := clock.cleanup
        metrics :=
          { s.metrics with
            cleanupRunsTotal := s.metrics.cleanupRunsTotal + 1
            cleanupPrunedTotal :=
              s.metrics.cleanupPrunedTotal + (jobTotal + resultTotal + replay.1) } })
  else (⟨0, 0, 0⟩, s)

/-- `_requeue_expired_leases`. -/
def requeueExpiredLeases (clock : RuntimeClock) (tenantId : String) (s : RuntimeState σ τ ρ) :
    RuntimeState σ τ ρ :=
  let normalized := strip tenantId
  let deadLetters := fun (jobs : σ) ↦
    if normalized = "" then 0 else rt.jobStore.deadLetterCount normalized jobs
  let swept := rt.jobStore.requeueExpiredLeases clock.sweep (some rt.dlqLimit) s.jobs
  { s with
    jobs := swept.2
    metrics :=
      { s.metrics with
        leaseRequeueTotal := s.metrics.leaseRequeueTotal + swept.1
        dlqMovedTotal :=
          s.metrics.dlqMovedTotal + (deadLetters swept.2 - deadLetters s.jobs) } }

/-! ## `execute` -/

/-- `execute` up to the point where it starts to wait.  Returns the job, unless a budget or fair
admission turned the call away. -/
def executeEnqueue (clock : RuntimeClock) (admitted : Bool) (call : ToolCallContext)
    (descriptor : ToolDescriptor) (jobId : String) (s : RuntimeState σ τ ρ) :
    Option ByocToolJobEnvelope × RuntimeState σ τ ρ :=
  if admitted then
    let s := (rt.runCleanup clock (executeTenant call.tenantId) false s).2
    let job := jobOfCall call descriptor jobId
    (some job,
      { s with
        jobs := rt.jobStore.enqueue job s.jobs
        metrics := { s.metrics with enqueuedJobsTotal := s.metrics.enqueuedJobsTotal + 1 } })
  else (none, s)

/-- One turn of the loop of `execute`: sweep the leases, look for the result. -/
def executePoll (clock : RuntimeClock) (tenantId jobId : String) (s : RuntimeState σ τ ρ) :
    Option ByocToolResultEnvelope × RuntimeState σ τ ρ :=
  let s := rt.requeueExpiredLeases clock tenantId s
  let consumed := rt.resultStore.consume jobId s.results
  (consumed.1, { s with results := consumed.2 })

/-! ## Requests of workers -/

/-- Remember the key of a request, or raise `reason` when it is a replay. -/
def markRequest (clock : RuntimeClock) (key reason : String) (s : RuntimeState σ τ ρ) :
    Except String Unit × RuntimeState σ τ ρ :=
  let marked := rt.replayGuard.markOnce clock.mark key rt.settings.attributes.replayTtlSeconds
    s.replay
  (if marked.1 then .ok () else .error reason, { s with replay := marked.2 })

/-- `issue_worker_token`: the payload of the token. -/
def issueWorkerToken (now : Epoch) (tenantId workerId : String) (ttlSeconds : Option Int)
    (jti : String) : JwtPayload :=
  mintWorkerToken now tenantId workerId
    (ttlSeconds.getD rt.settings.attributes.workerTokenTtlSeconds) jti

/-- The key under which the replay guard remembers a request made with a worker token. -/
def workerReplayKey (kind tenantId tokenId nonce : String) : String :=
  tenantId ++ ":" ++ kind ++ ":" ++ tokenId ++ ":" ++ nonce

/-- The key under which it remembers a webhook request. -/
def webhookReplayKey (tenantId requestId : String) : String :=
  tenantId ++ ":webhook:" ++ requestId

/-- The checks that `claim_next_job` and `submit_result` open with: the token, the nonce, the
replay guard.  `kind` is `claim` or `submit`. -/
def authenticateWorker (clock : RuntimeClock) (kind tenantId workerToken requestNonce : String)
    (s : RuntimeState σ τ ρ) : Except String WorkerAuthClaims × RuntimeState σ τ ρ :=
  let decoded := rt.jwtDecode clock.token workerToken rt.settings.workerJwtSecret
  match verifyWorkerToken decoded tenantId with
  | .error reason => (.error reason, s)
  | .ok claims =>
    if strip requestNonce = "" then (.error "WORKER_NONCE_REQUIRED", s)
    else
      let marked := rt.markRequest clock
        (workerReplayKey kind tenantId claims.tokenId (strip requestNonce))
        "WORKER_REQUEST_REPLAYED" s
      (marked.1.map fun _ ↦ claims, marked.2)

/-- The checks that `submit_result_webhook` opens with. -/
def authenticateWebhook (clock : RuntimeClock) (tenantId webhookSecret webhookRequestId : String)
    (s : RuntimeState σ τ ρ) : Except String Unit × RuntimeState σ τ ρ :=
  let providedSecret := strip webhookSecret
  if providedSecret = "" ∨ providedSecret ≠ rt.settings.workerJwtSecret then
    (.error "WEBHOOK_AUTH_INVALID", s)
  else if strip webhookRequestId = "" then (.error "WEBHOOK_REQUEST_ID_REQUIRED", s)
  else
    rt.markRequest clock (webhookReplayKey tenantId (strip webhookRequestId))
      "WEBHOOK_REQUEST_REPLAYED" s

/-- `claim_next_job`.  The dictionary it returns has the fields of the leased envelope. -/
def claimNextJob (clock : RuntimeClock) (tenantId workerToken requestNonce leaseToken : String)
    (s : RuntimeState σ τ ρ) :
    Except String (Option ByocToolJobEnvelope) × RuntimeState σ τ ρ :=
  let s := (rt.runCleanup clock tenantId false s).2
  let s := rt.requeueExpiredLeases clock tenantId s
  match rt.authenticateWorker clock "claim" tenantId workerToken requestNonce s with
  | (.error reason, s) => (.error reason, s)
  | (.ok claims, s) =>
    let claimed := rt.jobStore.claimNext clock.lease tenantId claims.workerId
      rt.settings.attributes.leaseTtlSeconds leaseToken s.jobs
    let found := if claimed.1.isSome then 1 else 0
    (.ok claimed.1,
      { s with
        jobs := claimed.2
        metrics := { s.metrics with claimedJobsTotal := s.metrics.claimedJobsTotal + found } })

/-! ## Submissions -/

/-- Turn a submission away with a reason code, and count that. -/
def refuse (tenantId reasonCode : String) (s : RuntimeState σ τ ρ) :
    Except String ByocResultIngestOutcome × RuntimeState σ τ ρ :=
  (.ok ⟨false, false, reasonCode⟩,
    { s with metrics := s.metrics.incrementTenantRejection tenantId reasonCode })

/-- The counters after `ingest` answered. -/
def countOutcome (tenantId : String) (outcome : ByocResultIngestOutcome) (m : RuntimeMetrics) :
    RuntimeMetrics :=
  if outcome.duplicate then { m with duplicateResultsTotal := m.duplicateResultsTotal + 1 }
  else if outcome.accepted then { m with submittedResultsTotal := m.submittedResultsTotal + 1 }
  else m.incrementTenantRejection tenantId outcome.reasonCode

/-- `_ingest_result_after_auth`, from the lookup of the lease on. -/
def ingestLeased (clock : RuntimeClock) (tenantId : String) (result : ByocToolResultEnvelope)
    (s : RuntimeState σ τ ρ) : Except String ByocResultIngestOutcome × RuntimeState σ τ ρ :=
  let leased := rt.jobStore.getLeasedJob clock.lease result.jobId result.leaseToken s.jobs
  let s := { s with jobs := leased.2 }
  match leased.1 with
  | none => refuse tenantId "BYOC_LEASE_INVALID_OR_EXPIRED" s
  | some leasedJob =>
    let artifactReason := verifyResultArtifactMetadata leasedJob.toJobSpec result
    if artifactReason ≠ "" then refuse tenantId artifactReason s
    else
      let completed := rt.jobStore.completeClaim clock.complete result.jobId result.leaseToken s.jobs
      let s := { s with jobs := completed.2 }
      if completed.1 then
        let outcome := rt.resultStore.ingest clock.ingest result s.results
        (.ok outcome.1,
          { s with
            results := outcome.2
            metrics := countOutcome tenantId outcome.1 s.metrics })
      else refuse tenantId "BYOC_LEASE_INVALID_OR_EXPIRED" s

/-- `_ingest_result_after_auth`. -/
def ingestResultAfterAuth (clock : RuntimeClock) (tenantId : String)
    (result : ByocToolResultEnvelope) (s : RuntimeState σ τ ρ) :
    Except String ByocResultIngestOutcome × RuntimeState σ τ ρ :=
  let s := { s with metrics := s.metrics.incrementTenantSubmitAttempt tenantId }
  if result.tenantId ≠ tenantId then
    (.error "WORKER_RESULT_TENANT_MISMATCH",
      { s with metrics :=
        s.metrics.incrementTenantRejection tenantId "WORKER_RESULT_TENANT_MISMATCH" })
  else if strip result.idempotencyKey ≠ "" ∧
      rt.resultStore.hasIdempotencyKey (strip result.idempotencyKey) s.results = true then
    (.ok .idempotentDuplicate,
      { s with metrics :=
        { s.metrics with duplicateResultsTotal := s.metrics.duplicateResultsTotal + 1 } })
  else rt.ingestLeased clock tenantId result s

/-- `submit_result`. -/
def submitResult (clock : RuntimeClock) (tenantId workerToken requestNonce : String)
    (result : ByocToolResultEnvelope) (s : RuntimeState σ τ ρ) :
    Except String ByocResultIngestOutcome × RuntimeState σ τ ρ :=
  let s := (rt.runCleanup clock tenantId false s).2
  match rt.authenticateWorker clock "submit" tenantId workerToken requestNonce s with
  | (.error reason, s) => (.error reason, s)
  | (.ok _, s) => rt.ingestResultAfterAuth clock tenantId result s

/-- `submit_result_webhook`. -/
def submitResultWebhook (clock : RuntimeClock) (tenantId webhookSecret webhookRequestId : String)
    (result : ByocToolResultEnvelope) (s : RuntimeState σ τ ρ) :
    Except String ByocResultIngestOutcome × RuntimeState σ τ ρ :=
  let s := (rt.runCleanup clock tenantId false s).2
  match rt.authenticateWebhook clock tenantId webhookSecret webhookRequestId s with
  | (.error reason, s) => (.error reason, s)
  | (.ok _, s) => rt.ingestResultAfterAuth clock tenantId result s

/-- Either of the two, as the submission says. -/
def submit (clock : RuntimeClock) (sub : Submission) (s : RuntimeState σ τ ρ) :
    Except String ByocResultIngestOutcome × RuntimeState σ τ ρ :=
  match sub.auth with
  | .worker workerToken requestNonce =>
    rt.submitResult clock sub.tenantId workerToken requestNonce sub.result s
  | .webhook webhookSecret webhookRequestId =>
    rt.submitResultWebhook clock sub.tenantId webhookSecret webhookRequestId sub.result s

/-! ## Cancellation and dead letters -/

/-- `request_cancellation`. -/
def requestCancellation (clock : RuntimeClock) (callId : String) (s : RuntimeState σ τ ρ) :
    Bool × RuntimeState σ τ ρ :=
  if strip callId = "" then (false, s)
  else
    let cancelled := rt.jobStore.cancelPendingCall clock.lease (strip callId) s.jobs
    (0 < cancelled.1,
      { s with
        jobs := cancelled.2
        metrics := { s.metrics with cancelRequestedTotal := s.metrics.cancelRequestedTotal + 1 } })

/-- `replay_dead_letter_job`. -/
def replayDeadLetterJob (tenantId jobId : String) (s : RuntimeState σ τ ρ) :
    Bool × RuntimeState σ τ ρ :=
  let replayed := rt.jobStore.replayDeadLetterJob tenantId jobId s.jobs
  let metrics :=
    if replayed.1 then { s.metrics with dlqReplayedTotal := s.metrics.dlqReplayedTotal + 1 }
    else { s.metrics with dlqReplayFailedTotal := s.metrics.dlqReplayFailedTotal + 1 }
  (replayed.1, { s with jobs := replayed.2, metrics := metrics })

/-- The ids `replay_dead_letter_jobs` goes through. -/
def replayTargets (tenantId : String) (jobIds : List String) (limit : Int) (jobs : σ) :
    List String :=
  let boundedLimit := max 1 (min limit 500)
  let selected := (jobIds.map strip).filter fun jobId ↦ jobId ≠ ""
  if selected = [] then
    ((rt.jobStore.listDeadLetterJobs tenantId boundedLimit jobs).map fun entry ↦
      strip entry.jobId).filter fun jobId ↦ jobId ≠ ""
  else (selected.reverse.dedup.reverse).take boundedLimit.toNat

/-- The loop of `replay_dead_letter_jobs`: the ids that were replayed and those that were not. -/
def replayLoop (tenantId : String) : List String → σ → (List String × List String) × σ
  | [], jobs => (([], []), jobs)
  | jobId :: targets, jobs =>
    let replayed := rt.jobStore.replayDeadLetterJob tenantId jobId jobs
    let rest := replayLoop tenantId targets replayed.2
    if replayed.1 then ((jobId :: rest.1.1, rest.1.2), rest.2)
    else ((rest.1.1, jobId :: rest.1.2), rest.2)

/-- `replay_dead_letter_jobs`. -/
def replayDeadLetterJobs (tenantId : String) (jobIds : List String) (limit : Int)
    (s : RuntimeState σ τ ρ) : ReplaySummary × RuntimeState σ τ ρ :=
  let targets := rt.replayTargets tenantId jobIds limit s.jobs
  let looped := rt.replayLoop tenantId targets s.jobs
  (⟨targets.length, looped.1.1.length, looped.1.2⟩,
    { s with
      jobs := looped.2
      metrics :=
        { s.metrics with
          dlqReplayedTotal := s.metrics.dlqReplayedTotal + looped.1.1.length
          dlqReplayFailedTotal := s.metrics.dlqReplayFailedTotal + looped.1.2.length } })

end TenantByocConnectorRuntime

/-! ## The runtime as a machine -/

/-- A call of the runtime, without its clock readings. -/
inductive RuntimeOp
  | executeEnqueue (admitted : Bool) (call : ToolCallContext) (descriptor : ToolDescriptor)
      (jobId : String)
  | executePoll (tenantId jobId : String)
  | claimNextJob (tenantId workerToken requestNonce leaseToken : String)
  | submit (submission : Submission)
  | requestCancellation (callId : String)
  | replayDeadLetterJob (tenantId jobId : String)
  | replayDeadLetterJobs (tenantId : String) (jobIds : List String) (limit : Int)
  | cleanupRetention (tenantId : String) (force : Bool)
deriving DecidableEq, Repr

/-- A call, and what the clock says during it. -/
structure RuntimeCall where
  clock : RuntimeClock
  op : RuntimeOp
deriving DecidableEq, Repr

/-- What a call returns or raises. -/
inductive RuntimeReply
  | enqueued (job : Option ByocToolJobEnvelope)
  | polled (result : Option ByocToolResultEnvelope)
  | claimed (claim : Except String (Option ByocToolJobEnvelope))
  | submitted (outcome : Except String ByocResultIngestOutcome)
  | flag (value : Bool)
  | replayed (summary : ReplaySummary)
  | cleaned (summary : CleanupSummary)

/-- One call of the runtime. -/
def TenantByocConnectorRuntime.step {σ τ ρ : Type} (rt : TenantByocConnectorRuntime σ τ ρ)
    (s : RuntimeState σ τ ρ) (c : RuntimeCall) : RuntimeReply × RuntimeState σ τ ρ :=
  match c.op with
  | .executeEnqueue admitted call descriptor jobId =>
    let r := rt.executeEnqueue c.clock admitted call descriptor jobId s
    (.enqueued r.1, r.2)
  | .executePoll tenantId jobId =>
    let r := rt.executePoll c.clock tenantId jobId s
    (.polled r.1, r.2)
  | .claimNextJob tenantId workerToken requestNonce leaseToken =>
    let r := rt.claimNextJob c.clock tenantId workerToken requestNonce leaseToken s
    (.claimed r.1, r.2)
  | .submit submission =>
    let r := rt.submit c.clock submission s
    (.submitted r.1, r.2)
  | .requestCancellation callId =>
    let r := rt.requestCancellation c.clock callId s
    (.flag r.1, r.2)
  | .replayDeadLetterJob tenantId jobId =>
    let r := rt.replayDeadLetterJob tenantId jobId s
    (.flag r.1, r.2)
  | .replayDeadLetterJobs tenantId jobIds limit =>
    let r := rt.replayDeadLetterJobs tenantId jobIds limit s
    (.replayed r.1, r.2)
  | .cleanupRetention tenantId force =>
    let r := rt.runCleanup c.clock tenantId force s
    (.cleaned r.1, r.2)

end Byoc
end ExoBrain
