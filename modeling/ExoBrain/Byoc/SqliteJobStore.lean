import ExoBrain.Byoc.JobStore

/-!
# The SQLite job queue

`SQLiteByocJobQueueStore` (`sqlite_store.py`).  The table `byoc_jobs` is a dictionary keyed by
`job_id` in `rowid` order: a new row gets a `rowid` above all others, no statement moves a row, so
`ORDER BY rowid` is the order of the dictionary.

The module has two layers.  First come the SQL statements the store executes, each a function on
the table (`JobTable.update` and `JobTable.delete` also return the number of rows they touched);
then the operations of the store, which are sequences of those statements.

`shared` says whether the store was opened on `:memory:`.  It decides what `conn.total_changes` is
when `_requeue_expired_leases_unlocked` reads it: a file-backed store opens a new connection for
every call of that function, so only the rows of that call are counted, while a `:memory:` store
has one connection for its whole life, whose count `totalChanges` never starts again.
-/

set_option autoImplicit false

namespace ExoBrain
namespace Byoc

open Text

/-! ## The table and its statements -/

/-- A row of `byoc_jobs`. -/
structure JobRow extends JobSpec, Lifecycle
deriving DecidableEq, Repr

/-- The table `byoc_jobs`. -/
abbrev JobTable := Dict String JobRow

/-- The columns written by the requeueing `UPDATE`. -/
def Lifecycle.requeueColumns (l : Lifecycle) : Lifecycle :=
  { l.requeue with completedAtEpoch := 0, cancelledAtEpoch := 0 }

/-- The columns written by the dead-lettering `UPDATE`. -/
def Lifecycle.deadLetterColumns (now : Epoch) (l : Lifecycle) : Lifecycle :=
  { l.deadLetter now with completedAtEpoch := 0, cancelledAtEpoch := 0 }

/-- The columns written by the claiming `UPDATE`; `claimAttempt` was computed from an earlier
`SELECT`. -/
def Lifecycle.leaseColumns (workerId token : String) (expires : Epoch) (claimAttempt : Nat)
    (l : Lifecycle) : Lifecycle :=
  { l.lease workerId token expires with claimAttempt := claimAttempt }

/-- The columns written by the completing `UPDATE`. -/
def Lifecycle.completeColumns (now : Epoch) (l : Lifecycle) : Lifecycle :=
  { l.complete now with cancelledAtEpoch := 0 }

namespace JobTable

/-- `UPDATE byoc_jobs SET .. WHERE ..`, with the number of rows it touched. -/
def update (cond : JobRow → Bool) (set : Lifecycle → Lifecycle) (t : JobTable) : Nat × JobTable :=
  (t.entries.countP fun e ↦ cond e.2,
    t.mapVals fun _ r ↦ if cond r then { r with toLifecycle := set r.toLifecycle } else r)

/-- `DELETE FROM byoc_jobs WHERE ..`, with the number of rows it removed. -/
def delete (cond : JobRow → Bool) (t : JobTable) : Nat × JobTable :=
  (t.entries.countP fun e ↦ cond e.2, t.filter fun _ r ↦ !cond r)

/-- `INSERT OR IGNORE INTO byoc_jobs ..`. -/
def insertOrIgnore (job : ByocToolJobEnvelope) (t : JobTable) : JobTable :=
  t.setDefault job.jobId { toJobSpec := job.toJobSpec }

/-- `SELECT .. WHERE tenant_id = ? AND status = 'queued' ORDER BY rowid ASC LIMIT 1`. -/
def selectNextQueued (tenantId : String) (t : JobTable) : Option JobRow :=
  (t.entries.find? fun e ↦ e.2.tenantId = tenantId && e.2.status = .queued).map Prod.snd

/-- `SELECT .. FROM byoc_jobs WHERE job_id = ?`. -/
def selectJob (jobId : String) (t : JobTable) : Option JobRow := t.get? jobId

/-- `UPDATE byoc_jobs SET status = 'leased', .. WHERE job_id = ?`. -/
def updateLease (workerId token : String) (expires : Epoch) (claimAttempt : Nat) (jobId : String)
    (t : JobTable) : JobTable :=
  t.modify jobId fun r ↦
    { r with toLifecycle := r.toLifecycle.leaseColumns workerId token expires claimAttempt }

/-- `UPDATE byoc_jobs SET status = 'completed', .. WHERE job_id = ?`. -/
def updateComplete (now : Epoch) (jobId : String) (t : JobTable) : JobTable :=
  t.modify jobId fun r ↦ { r with toLifecycle := r.toLifecycle.completeColumns now }

/-- `UPDATE byoc_jobs SET status = 'dead_lettered', .. WHERE status = 'leased' AND
lease_expires_at_epoch <= ? AND claim_attempt >= ?`. -/
def updateDeadLetter (now : Epoch) (maxClaimAttempts : Int) (t : JobTable) : Nat × JobTable :=
  t.update (fun r ↦ r.toLifecycle.expired now && maxClaimAttempts ≤ r.claimAttempt)
    (Lifecycle.deadLetterColumns now)

/-- `UPDATE byoc_jobs SET status = 'queued', .. WHERE status = 'leased' AND
lease_expires_at_epoch <= ?`. -/
def updateRequeue (now : Epoch) (t : JobTable) : Nat × JobTable :=
  t.update (fun r ↦ r.toLifecycle.expired now) Lifecycle.requeueColumns

end JobTable

/-- The envelope `claim_next` and `get_leased_job` build from a row. -/
def JobRow.toEnvelope (token : String) (expires : Epoch) (claimAttempt : Nat) (r : JobRow) :
    ByocToolJobEnvelope :=
  { toJobSpec := r.toJobSpec
    leaseToken := token
    leaseExpiresAtEpoch := expires.seconds
    claimAttempt := claimAttempt }

/-! ## The store -/

/-- `SQLiteByocJobQueueStore`. -/
structure SQLiteByocJobQueueStore where
  rows : JobTable
  /-- Was the store opened on `:memory:`? -/
  shared : Bool
  /-- Rows changed so far through the store's connections. -/
  totalChanges : Nat

namespace SQLiteByocJobQueueStore

/-- A store on an empty database. -/
def init (shared : Bool) : SQLiteByocJobQueueStore := ⟨Dict.empty, shared, 0⟩

/-- The state after statements that changed `n` rows and left the table `t`. -/
def commit (s : SQLiteByocJobQueueStore) (n : Nat) (t : JobTable) : SQLiteByocJobQueueStore :=
  { s with rows := t, totalChanges := s.totalChanges + n }

/-- `enqueue`. -/
def enqueue (job : ByocToolJobEnvelope) (s : SQLiteByocJobQueueStore) : SQLiteByocJobQueueStore :=
  s.commit (if job.jobId ∈ s.rows.keys then 0 else 1) (s.rows.insertOrIgnore job)

/-- `_requeue_expired_leases_unlocked`. -/
def requeueExpiredLeases (now : Epoch) (maxClaimAttemptsBeforeDlq : Option Int)
    (s : SQLiteByocJobQueueStore) : Nat × SQLiteByocJobQueueStore :=
  let (moved, rows) :=
    match maxClaimAttemptsBeforeDlq with
    | none => (0, s.rows)
    | some k => if 0 < k then s.rows.updateDeadLetter now k else (0, s.rows)
  let (requeued, rows) := rows.updateRequeue now
  let s' := s.commit (moved + requeued) rows
  (if s.shared then s'.totalChanges else moved + requeued, s')

/-- `claim_next`. -/
def claimNext (now : Epoch) (tenantId workerId : String) (leaseTtlSeconds : Int) (token : String)
    (s : SQLiteByocJobQueueStore) : Option ByocToolJobEnvelope × SQLiteByocJobQueueStore :=
  let s := (s.requeueExpiredLeases now none).2
  match s.rows.selectNextQueued tenantId with
  | none => (none, s)
  | some row =>
    let expires := now + ttlTicks leaseTtlSeconds
    let claimAttempt := row.claimAttempt + 1
    (some (row.toEnvelope token expires claimAttempt),
      s.commit 1 (s.rows.updateLease workerId token expires claimAttempt row.jobId))

/-- `complete_claim`. -/
def completeClaim (now : Epoch) (jobId leaseToken : String) (s : SQLiteByocJobQueueStore) :
    Bool × SQLiteByocJobQueueStore :=
  match s.rows.selectJob jobId with
  | none => (false, s)
  | some row =>
    if row.status ≠ .leased then (false, s)
    else if row.leaseExpiresAtEpoch ≤ now then (false, (s.requeueExpiredLeases now none).2)
    else if row.leaseToken ≠ leaseToken then (false, s)
    else (true, s.commit 1 (s.rows.updateComplete now jobId))

/-- `get_leased_job`. -/
def getLeasedJob (now : Epoch) (jobId leaseToken : String) (s : SQLiteByocJobQueueStore) :
    Option ByocToolJobEnvelope × SQLiteByocJobQueueStore :=
  match s.rows.selectJob jobId with
  | none => (none, s)
  | some row =>
    if row.status ≠ .leased then (none, s)
    else if row.leaseExpiresAtEpoch ≤ now then (none, (s.requeueExpiredLeases now none).2)
    else if row.leaseToken ≠ leaseToken then (none, s)
    else (some (row.toEnvelope row.leaseToken row.leaseExpiresAtEpoch row.claimAttempt), s)

/-- `cancel_pending_call`. -/
def cancelPendingCall (now : Epoch) (callId : String) (s : SQLiteByocJobQueueStore) :
    Nat × SQLiteByocJobQueueStore :=
  let normalized := strip callId
  if normalized = "" then (0, s)
  else
    let (affected, rows) := s.rows.update
      (fun r ↦ r.callId = normalized && r.status = .queued)
      fun l ↦ { l with status := .cancelled, cancelledAtEpoch := now }
    let (cut, rows) := rows.update
      (fun r ↦ r.callId = normalized && r.status = .leased)
      fun l ↦ { l with leaseExpiresAtEpoch := 0 }
    (affected, (requeueExpiredLeases now none (s.commit (affected + cut) rows)).2)

/-- `queue_depth`. -/
def queueDepth (s : SQLiteByocJobQueueStore) : Nat :=
  s.rows.entries.countP fun e ↦ e.2.status = .queued

/-- The rows `WHERE tenant_id = ? AND status = ?`. -/
def rowsOf (tenantId : String) (status : JobStatus) (t : JobTable) : List (String × JobRow) :=
  t.entries.filter fun e ↦ e.2.tenantId = tenantId && e.2.status = status

/-- `dead_letter_count`. -/
def deadLetterCount (tenantId : String) (s : SQLiteByocJobQueueStore) : Nat :=
  let normalized := strip tenantId
  if normalized = "" then 0 else (rowsOf normalized .deadLettered s.rows).length

/-- `list_dead_letter_jobs`: `ORDER BY dead_lettered_at_epoch DESC, rowid DESC LIMIT ?`. -/
def listDeadLetterJobs (tenantId : String) (limit : Int) (s : SQLiteByocJobQueueStore) :
    List DeadLetterEntry :=
  let normalized := strip tenantId
  if normalized = "" then []
  else
    let rows := (rowsOf normalized .deadLettered s.rows).reverse.mergeSort fun a b ↦
      b.2.deadLetteredAtEpoch ≤ a.2.deadLetteredAtEpoch
    (rows.take (max 1 limit).toNat).map fun e ↦
      { jobId := e.2.jobId
        callId := e.2.callId
        toolName := e.2.toolName
        idempotencyKey := e.2.idempotencyKey
        claimAttempt := toString e.2.claimAttempt
        deadLetterReasonCode := e.2.deadLetterReasonCode
        deadLetteredAtEpoch := toString e.2.deadLetteredAtEpoch.seconds
        replayCount := toString e.2.replayCount }

/-- `replay_dead_letter_job`. -/
def replayDeadLetterJob (tenantId jobId : String) (s : SQLiteByocJobQueueStore) :
    Bool × SQLiteByocJobQueueStore :=
  let normalizedTenant := strip tenantId
  let normalizedJob := strip jobId
  if normalizedTenant = "" ∨ normalizedJob = "" then (false, s)
  else
    match s.rows.selectJob normalizedJob with
    | none => (false, s)
    | some row =>
      if row.tenantId ≠ normalizedTenant ∨ row.status ≠ .deadLettered then (false, s)
      else
        (true, s.commit 1 (s.rows.modify normalizedJob fun r ↦
          { r with toLifecycle := r.toLifecycle.replay }))

/-- The `DELETE` of `cleanup_retention` for one final status. -/
def outdated (status : JobStatus) (finishedAt : JobRow → Epoch) (now : Epoch) (ttlSeconds : Int)
    (tenantId : String) (r : JobRow) : Bool :=
  r.tenantId = tenantId && r.status = status && 0 < finishedAt r &&
    finishedAt r + ttlTicks ttlSeconds ≤ now

/-- The second half of `cleanup_retention` for one final status: `ORDER BY .. ASC, rowid ASC`,
cut at the newest `maxRecords`. -/
def overflow (status : JobStatus) (finishedAt : JobRow → Epoch) (maxRecords : Int)
    (tenantId : String) (t : JobTable) : List String :=
  let rows := (rowsOf tenantId status t).mergeSort fun a b ↦ finishedAt a.2 ≤ finishedAt b.2
  (rows.take (rows.length - maxRecords.toNat)).map fun e ↦ e.2.jobId

/-- `cleanup_retention`. -/
def cleanupRetention (now : Epoch) (tenantId : String) (limits : RetentionLimits)
    (s : SQLiteByocJobQueueStore) : PrunedCounts × SQLiteByocJobQueueStore :=
  let normalized := strip tenantId
  if normalized = "" then (⟨0, 0⟩, s)
  else
    let (completed, rows) := s.rows.delete (outdated .completed (fun r ↦ r.completedAtEpoch) now
      limits.completedTtlSeconds normalized)
    let (cancelled, rows) := rows.delete (outdated .cancelled (fun r ↦ r.cancelledAtEpoch) now
      limits.cancelledTtlSeconds normalized)
    let completedIds := overflow .completed (fun r ↦ r.completedAtEpoch)
      limits.maxCompletedRecords normalized rows
    let cancelledIds := overflow .cancelled (fun r ↦ r.cancelledAtEpoch)
      limits.maxCancelledRecords normalized rows
    let completed := completed + completedIds.length
    let cancelled := cancelled + cancelledIds.length
    (⟨completed, cancelled⟩,
      s.commit (completed + cancelled)
        (rows.filter fun jobId _ ↦ jobId ∉ completedIds && jobId ∉ cancelledIds))

end SQLiteByocJobQueueStore

/-- The SQLite backend, as an instance of the contract. -/
def sqliteByocJobQueueStore : ByocJobQueueStore SQLiteByocJobQueueStore where
  enqueue := SQLiteByocJobQueueStore.enqueue
  claimNext := SQLiteByocJobQueueStore.claimNext
  completeClaim := SQLiteByocJobQueueStore.completeClaim
  getLeasedJob := SQLiteByocJobQueueStore.getLeasedJob
  requeueExpiredLeases := SQLiteByocJobQueueStore.requeueExpiredLeases
  deadLetterCount := SQLiteByocJobQueueStore.deadLetterCount
  listDeadLetterJobs := SQLiteByocJobQueueStore.listDeadLetterJobs
  replayDeadLetterJob := SQLiteByocJobQueueStore.replayDeadLetterJob
  cancelPendingCall := SQLiteByocJobQueueStore.cancelPendingCall
  queueDepth := SQLiteByocJobQueueStore.queueDepth
  cleanupRetention := SQLiteByocJobQueueStore.cleanupRetention

end Byoc
end ExoBrain
