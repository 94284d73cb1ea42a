import ExoBrain.Lib.Dict
import ExoBrain.Byoc.Contracts
import Mathlib.Logic.Function.Basic

/-!
# The job queue contract, and its in-memory implementation

`job_store.py`.  A job is a record with a `status`; workers *claim* queued jobs of their tenant,
which turns them into leases that expire, and *complete* the lease with the token the claim gave
them.  Expired leases go back to the queue, or to the dead letters when the caller asks for that.

* `Lifecycle` is the part of a record that the operations change; both backends store it, column
  by column.
* `ByocJobQueueStore σ` is the abstract base class: the operations over a state `σ`.  Everything
  above the stores is written against it.
* `InMemoryByocJobQueueStore` is the dictionary-and-deques implementation, and
  `inMemoryByocJobQueueStore` its instance of the contract.

An operation that reads the clock takes its reading as an argument, one per call; `claimNext` also
takes the fresh lease token that `uuid4` supplies.

The loops over the records are split by what they write.  One pass of `_requeue_expired_leases`
changes each record on its own (`Lifecycle.sweep`), pushes the requeued ids on the deques in the
order of the records, and counts them; the model does the three one after the other.
-/

set_option autoImplicit false

namespace ExoBrain
namespace Byoc

open Text

/-! ## One record -/

/-- `queued | leased | completed | cancelled | dead_lettered`. -/
inductive JobStatus
  | queued
  | leased
  | completed
  | cancelled
  | deadLettered
deriving DecidableEq, Repr

/-- The mutable fields of `_JobState`, and the columns of `byoc_jobs` of the same names. -/
structure Lifecycle where
  status : JobStatus := .queued
  leasedByWorkerId : String := ""
  leaseToken : String := ""
  leaseExpiresAtEpoch : Epoch := 0
  claimAttempt : Nat := 0
  completedAtEpoch : Epoch := 0
  cancelledAtEpoch : Epoch := 0
  deadLetteredAtEpoch : Epoch := 0
  deadLetterReasonCode : String := ""
  replayCount : Nat := 0
deriving DecidableEq, Repr

namespace Lifecycle

/-- A lease that has run out at `now`. -/
def expired (now : Epoch) (l : Lifecycle) : Bool :=
  l.status = .leased && l.leaseExpiresAtEpoch ≤ now

/-- `should_dlq`: the caller set a limit, and the claims made so far reach it. -/
def shouldDlq (maxClaimAttemptsBeforeDlq : Option Int) (l : Lifecycle) : Bool :=
  match maxClaimAttemptsBeforeDlq with
  | none => false
  | some k => 0 < k && k ≤ l.claimAttempt

/-- Move a lease to the dead letters. -/
def deadLetter (now : Epoch) (l : Lifecycle) : Lifecycle :=
  { l with
    status := .deadLettered
    deadLetteredAtEpoch := now
    deadLetterReasonCode := "BYOC_LEASE_RETRY_EXHAUSTED"
    leasedByWorkerId := ""
    leaseToken := ""
    leaseExpiresAtEpoch := 0 }

/-- Put a lease back in the queue. -/
def requeue (l : Lifecycle) : Lifecycle :=
  { l with
    status := .queued
    leasedByWorkerId := ""
    leaseToken := ""
    leaseExpiresAtEpoch := 0 }

/-- The body of the loop in `_requeue_expired_leases_unlocked`, for one record. -/
def sweep (now : Epoch) (maxClaimAttemptsBeforeDlq : Option Int) (l : Lifecycle) : Lifecycle :=
  if l.expired now then
    if l.shouldDlq maxClaimAttemptsBeforeDlq then l.deadLetter now else l.requeue
  else l

/-- Does that loop put this record back in the queue? -/
def requeues (now : Epoch) (maxClaimAttemptsBeforeDlq : Option Int) (l : Lifecycle) : Bool :=
  l.expired now && !l.shouldDlq maxClaimAttemptsBeforeDlq

/-- Hand the record to a worker. -/
def lease (workerId token : String) (expires : Epoch) (l : Lifecycle) : Lifecycle :=
  { l with
    status := .leased
    leasedByWorkerId := workerId
    leaseToken := token
    leaseExpiresAtEpoch := expires
    claimAttempt := l.claimAttempt + 1 }

/-- Close the lease. -/
def complete (now : Epoch) (l : Lifecycle) : Lifecycle :=
  { l with status := .completed, completedAtEpoch := now }

/-- What `cancel_pending_call` writes to a record of the call it names: a queued one is cancelled,
a leased one has its lease cut short. -/
def cancel (now : Epoch) (l : Lifecycle) : Lifecycle :=
  match l.status with
  | .queued => { l with status := .cancelled, cancelledAtEpoch := now }
  | .leased => { l with leaseExpiresAtEpoch := 0 }
  | _ => l

/-- Take the record out of the dead letters. -/
def replay (l : Lifecycle) : Lifecycle :=
  { l with
    status := .queued
    leasedByWorkerId := ""
    leaseToken := ""
    leaseExpiresAtEpoch := 0
    deadLetteredAtEpoch := 0
    deadLetterReasonCode := ""
    replayCount := l.replayCount + 1 }

end Lifecycle

/-! ## The contract -/

/-- One row of `list_dead_letter_jobs`. -/
structure DeadLetterEntry where
  jobId : String
  callId : String
  toolName : String
  idempotencyKey : String
  claimAttempt : String
  deadLetterReasonCode : String
  deadLetteredAtEpoch : String
  replayCount : String
deriving DecidableEq, Repr

/-- The dictionary `cleanup_retention` returns. -/
structure PrunedCounts where
  completedPruned : Nat
  cancelledPruned : Nat
deriving DecidableEq, Repr

/-- The settings `cleanup_retention` takes besides the tenant. -/
structure RetentionLimits where
  completedTtlSeconds : Int
  cancelledTtlSeconds : Int
  maxCompletedRecords : Int
  maxCancelledRecords : Int
deriving DecidableEq, Repr

/-- `ByocJobQueueStore`, with the state made explicit. -/
structure ByocJobQueueStore (σ : Type) where
  enqueue : ByocToolJobEnvelope → σ → σ
  claimNext : (now : Epoch) → (tenantId workerId : String) → (leaseTtlSeconds : Int) →
    (token : String) → σ → Option ByocToolJobEnvelope × σ
  completeClaim : (now : Epoch) → (jobId leaseToken : String) → σ → Bool × σ
  getLeasedJob : (now : Epoch) → (jobId leaseToken : String) → σ → Option ByocToolJobEnvelope × σ
  requeueExpiredLeases : (now : Epoch) → (maxClaimAttemptsBeforeDlq : Option Int) → σ → Nat × σ
  deadLetterCount : (tenantId : String) → σ → Nat
  listDeadLetterJobs : (tenantId : String) → (limit : Int) → σ → List DeadLetterEntry
  replayDeadLetterJob : (tenantId jobId : String) → σ → Bool × σ
  cancelPendingCall : (now : Epoch) → (callId : String) → σ → Nat × σ
  queueDepth : σ → Nat
  cleanupRetention : (now : Epoch) → (tenantId : String) → RetentionLimits → σ → PrunedCounts × σ

/-! ## `InMemoryByocJobQueueStore` -/

/-- `_JobState`. -/
structure JobState extends Lifecycle where
  envelope : ByocToolJobEnvelope
deriving DecidableEq, Repr

/-- The store: the records in insertion order, and a deque of job ids for each tenant.  A tenant
without a deque reads as one with an empty deque, which is what `setdefault` makes of it. -/
structure InMemoryByocJobQueueStore where
  states : Dict String JobState
  tenantQueue : String → List String

namespace InMemoryByocJobQueueStore

/-- A fresh store. -/
def init : InMemoryByocJobQueueStore := ⟨Dict.empty, fun _ ↦ []⟩

/-- `self._tenant_queue.setdefault(tenant_id, deque()).append(job_id)`. -/
def push (queue : String → List String) (tenantId jobId : String) : String → List String :=
  Function.update queue tenantId (queue tenantId ++ [jobId])

/-- `enqueue`. -/
def enqueue (job : ByocToolJobEnvelope) (s : InMemoryByocJobQueueStore) :
    InMemoryByocJobQueueStore :=
  if job.jobId ∈ s.states.keys then s
  else
    { states := s.states.setDefault job.jobId { envelope := job }
      tenantQueue := push s.tenantQueue job.tenantId job.jobId }

/-- The records one pass of `_requeue_expired_leases_unlocked` puts back in the queue, in the
order in which it meets them. -/
def requeued (now : Epoch) (maxClaimAttemptsBeforeDlq : Option Int)
    (s : InMemoryByocJobQueueStore) : List (String × JobState) :=
  s.states.entries.filter fun e ↦ e.2.requeues now maxClaimAttemptsBeforeDlq

/-- `_requeue_expired_leases_unlocked`. -/
def requeueExpiredLeases (now : Epoch) (maxClaimAttemptsBeforeDlq : Option Int)
    (s : InMemoryByocJobQueueStore) : Nat × InMemoryByocJobQueueStore :=
  let back := s.requeued now maxClaimAttemptsBeforeDlq
  (back.length,
    { states := s.states.mapVals fun _ st ↦
        { st with toLifecycle := st.toLifecycle.sweep now maxClaimAttemptsBeforeDlq }
      tenantQueue := back.foldl (fun q e ↦ push q e.2.envelope.tenantId e.1) s.tenantQueue })

/-- The loop of `claim_next`: pop ids off the deque until one names a queued record.  Returns that
record with its id, and what is left of the deque. -/
def popQueued (states : Dict String JobState) :
    List String → Option (String × JobState) × List String
  | [] => (none, [])
  | jobId :: queue =>
    match states.get? jobId with
    | none => popQueued states queue
    | some st => if st.status = .queued then (some (jobId, st), queue) else popQueued states queue

/-- The record `claim_next` leaves behind: the lease is written to the record and copied into the
envelope. -/
def claimed (workerId token : String) (expires : Epoch) (st : JobState) : JobState :=
  { toLifecycle := st.toLifecycle.lease workerId token expires
    envelope :=
      { st.envelope with
        leaseToken := token
        leaseExpiresAtEpoch := expires.seconds
        claimAttempt := st.claimAttempt + 1 } }

/-- `claim_next`. -/
def claimNext (now : Epoch) (tenantId workerId : String) (leaseTtlSeconds : Int) (token : String)
    (s : InMemoryByocJobQueueStore) : Option ByocToolJobEnvelope × InMemoryByocJobQueueStore :=
  let s := (s.requeueExpiredLeases now none).2
  match popQueued s.states (s.tenantQueue tenantId) with
  | (none, queue) => (none, { s with tenantQueue := Function.update s.tenantQueue tenantId queue })
  | (some (jobId, st), queue) =>
    let st := claimed workerId token (now + ttlTicks leaseTtlSeconds) st
    (some st.envelope,
      { states := s.states.modify jobId fun _ ↦ st
        tenantQueue := Function.update s.tenantQueue tenantId queue })

/-- `complete_claim`. -/
def completeClaim (now : Epoch) (jobId leaseToken : String) (s : InMemoryByocJobQueueStore) :
    Bool × InMemoryByocJobQueueStore :=
  match s.states.get? jobId with
  | none => (false, s)
  | some st =>
    if st.status ≠ .leased then (false, s)
    else if st.leaseExpiresAtEpoch ≤ now then (false, (s.requeueExpiredLeases now none).2)
    else if st.leaseToken ≠ leaseToken then (false, s)
    else
      (true, { s with states := s.states.modify jobId fun st ↦
        { st with toLifecycle := st.toLifecycle.complete now } })

/-- `get_leased_job`. -/
def getLeasedJob (now : Epoch) (jobId leaseToken : String) (s : InMemoryByocJobQueueStore) :
    Option ByocToolJobEnvelope × InMemoryByocJobQueueStore :=
  match s.states.get? jobId with
  | none => (none, s)
  | some st =>
    if st.status ≠ .leased then (none, s)
    else if st.leaseExpiresAtEpoch ≤ now then (none, (s.requeueExpiredLeases now none).2)
    else if st.leaseToken ≠ leaseToken then (none, s)
    else (some st.envelope, s)

/-- `cancel_pending_call`. -/
def cancelPendingCall (now : Epoch) (callId : String) (s : InMemoryByocJobQueueStore) :
    Nat × InMemoryByocJobQueueStore :=
  let normalized := strip callId
  if normalized = "" then (0, s)
  else
    let affected := s.states.entries.countP fun e ↦
      e.2.envelope.callId = normalized && e.2.status = .queued
    let states := s.states.mapVals fun _ st ↦
      if st.envelope.callId = normalized then
        { st with toLifecycle := st.toLifecycle.cancel now }
      else st
    (affected, (requeueExpiredLeases now none { s with states := states }).2)

/-- `queue_depth`. -/
def queueDepth (s : InMemoryByocJobQueueStore) : Nat :=
  s.states.entries.countP fun e ↦ e.2.status = .queued

/-- The dead-lettered records of a tenant. -/
def deadLettersOf (tenantId : String) (s : InMemoryByocJobQueueStore) :
    List (String × JobState) :=
  s.states.entries.filter fun e ↦ e.2.envelope.tenantId = tenantId && e.2.status = .deadLettered

/-- `dead_letter_count`. -/
def deadLetterCount (tenantId : String) (s : InMemoryByocJobQueueStore) : Nat :=
  (s.deadLettersOf (strip tenantId)).length

/-- `list_dead_letter_jobs`.  `sort(reverse=True)` is stable: records dead-lettered at the same
moment keep the order of the dictionary. -/
def listDeadLetterJobs (tenantId : String) (limit : Int) (s : InMemoryByocJobQueueStore) :
    List DeadLetterEntry :=
  let rows := (s.deadLettersOf (strip tenantId)).mergeSort fun a b ↦
    b.2.deadLetteredAtEpoch ≤ a.2.deadLetteredAtEpoch
  (rows.take (max 1 limit).toNat).map fun e ↦
    { jobId := e.1
      callId := e.2.envelope.callId
      toolName := e.2.envelope.toolName
      idempotencyKey := e.2.envelope.idempotencyKey
      claimAttempt := toString e.2.claimAttempt
      deadLetterReasonCode := e.2.deadLetterReasonCode
      deadLetteredAtEpoch := toString e.2.deadLetteredAtEpoch.seconds
      replayCount := toString e.2.replayCount }

/-- `replay_dead_letter_job`. -/
def replayDeadLetterJob (tenantId jobId : String) (s : InMemoryByocJobQueueStore) :
    Bool × InMemoryByocJobQueueStore :=
  let normalizedTenant := strip tenantId
  let normalizedJob := strip jobId
  if normalizedTenant = "" ∨ normalizedJob = "" then (false, s)
  else
    match s.states.get? normalizedJob with
    | none => (false, s)
    | some st =>
      if st.envelope.tenantId ≠ normalizedTenant ∨ st.status ≠ .deadLettered then (false, s)
      else
        (true,
          { states := s.states.modify normalizedJob fun st ↦
              { st with toLifecycle := st.toLifecycle.replay }
            tenantQueue := push s.tenantQueue normalizedTenant normalizedJob })

/-- The first loop of `cleanup_retention` for one final status: the records of the tenant that
have it since before the cutoff. -/
def outdated (status : JobStatus) (finishedAt : JobState → Epoch) (now : Epoch) (ttlSeconds : Int)
    (tenantId : String) (st : JobState) : Bool :=
  st.envelope.tenantId = tenantId && st.status = status && 0 < finishedAt st &&
    finishedAt st + ttlTicks ttlSeconds ≤ now

/-- The second half of `cleanup_retention` for one final status: the ids of the tenant's records
that have it, oldest first, beyond the newest `maxRecords`. -/
def overflow (status : JobStatus) (finishedAt : JobState → Epoch) (maxRecords : Int)
    (tenantId : String) (states : Dict String JobState) : List String :=
  let rows := (states.entries.filter fun e ↦
    e.2.envelope.tenantId = tenantId && e.2.status = status).mergeSort fun a b ↦
      finishedAt a.2 ≤ finishedAt b.2
  (rows.take (rows.length - maxRecords.toNat)).map Prod.fst

/-- `cleanup_retention`. -/
def cleanupRetention (now : Epoch) (tenantId : String) (limits : RetentionLimits)
    (s : InMemoryByocJobQueueStore) : PrunedCounts × InMemoryByocJobQueueStore :=
  let normalized := strip tenantId
  if normalized = "" then (⟨0, 0⟩, s)
  else
    let oldCompleted := outdated .completed (fun st ↦ st.completedAtEpoch) now
      limits.completedTtlSeconds normalized
    let oldCancelled := outdated .cancelled (fun st ↦ st.cancelledAtEpoch) now
      limits.cancelledTtlSeconds normalized
    let kept := s.states.filter fun _ st ↦ !oldCompleted st && !oldCancelled st
    let completedIds := overflow .completed (fun st ↦ st.completedAtEpoch)
      limits.maxCompletedRecords normalized kept
    let cancelledIds := overflow .cancelled (fun st ↦ st.cancelledAtEpoch)
      limits.maxCancelledRecords normalized kept
    (⟨s.states.entries.countP (fun e ↦ oldCompleted e.2) + completedIds.length,
        s.states.entries.countP (fun e ↦ oldCancelled e.2) + cancelledIds.length⟩,
      { s with states := kept.filter fun jobId _ ↦ jobId ∉ completedIds && jobId ∉ cancelledIds })

end InMemoryByocJobQueueStore

/-- The in-memory backend, as an instance of the contract. -/
def inMemoryByocJobQueueStore : ByocJobQueueStore InMemoryByocJobQueueStore where
  enqueue := InMemoryByocJobQueueStore.enqueue
  claimNext := InMemoryByocJobQueueStore.claimNext
  completeClaim := InMemoryByocJobQueueStore.completeClaim
  getLeasedJob := InMemoryByocJobQueueStore.getLeasedJob
  requeueExpiredLeases := InMemoryByocJobQueueStore.requeueExpiredLeases
  deadLetterCount := InMemoryByocJobQueueStore.deadLetterCount
  listDeadLetterJobs := InMemoryByocJobQueueStore.listDeadLetterJobs
  replayDeadLetterJob := InMemoryByocJobQueueStore.replayDeadLetterJob
  cancelPendingCall := InMemoryByocJobQueueStore.cancelPendingCall
  queueDepth := InMemoryByocJobQueueStore.queueDepth
  cleanupRetention := InMemoryByocJobQueueStore.cleanupRetention

end Byoc
end ExoBrain
