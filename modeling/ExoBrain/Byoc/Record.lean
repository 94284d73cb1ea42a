import ExoBrain.Lib.Run
import ExoBrain.Byoc.JobStore

/-!
# One job, seen from outside the store

What the queue is *for* can be said about one job at a time: it waits, it is leased to somebody
until some moment, it is finished.  `JobView` is that much of a record, and `RecordStep` says
everything one call of a store can do to it.  Nothing in it mentions deques, tables or the order
in which jobs are handed out, so both backends can be compared with it: `LawfulJobStore` is the
statement that a backend does to every job what `RecordStep` says.

The facts about leases, cancellation and dead letters are then proved once, for any lawful store,
by following one job through a run.

A call is a `JobOp` together with the clock reading it makes; its answer is a `JobReply`.
-/

set_option autoImplicit false

namespace ExoBrain
namespace Byoc

open Text

/-! ## Calls and answers -/

/-- A call of one of the operations of `ByocJobQueueStore`, without its clock reading. -/
inductive JobOp
  | enqueue (job : ByocToolJobEnvelope)
  | claimNext (tenantId workerId : String) (leaseTtlSeconds : Int) (token : String)
  | completeClaim (jobId leaseToken : String)
  | getLeasedJob (jobId leaseToken : String)
  | requeueExpiredLeases (maxClaimAttemptsBeforeDlq : Option Int)
  | deadLetterCount (tenantId : String)
  | listDeadLetterJobs (tenantId : String) (limit : Int)
  | replayDeadLetterJob (tenantId jobId : String)
  | cancelPendingCall (callId : String)
  | queueDepth
  | cleanupRetention (tenantId : String) (limits : RetentionLimits)
deriving DecidableEq, Repr

/-- A call, and what the clock says when it is made. -/
structure JobCall where
  now : Epoch
  op : JobOp
deriving DecidableEq, Repr

/-- What a call returns. -/
inductive JobReply
  | done
  | flag (value : Bool)
  | count (value : Nat)
  | job (value : Option ByocToolJobEnvelope)
  | deadLetters (value : List DeadLetterEntry)
  | pruned (value : PrunedCounts)
deriving DecidableEq, Repr

/-- A backend as a machine: one call, its answer, the next state. -/
def ByocJobQueueStore.step {σ : Type} (S : ByocJobQueueStore σ) (s : σ) (c : JobCall) :
    JobReply × σ :=
  match c.op with
  | .enqueue job => (.done, S.enqueue job s)
  | .claimNext tenantId workerId ttl token =>
    let r := S.claimNext c.now tenantId workerId ttl token s
    (.job r.1, r.2)
  | .completeClaim jobId token =>
    let r := S.completeClaim c.now jobId token s
    (.flag r.1, r.2)
  | .getLeasedJob jobId token =>
    let r := S.getLeasedJob c.now jobId token s
    (.job r.1, r.2)
  | .requeueExpiredLeases limit =>
    let r := S.requeueExpiredLeases c.now limit s
    (.count r.1, r.2)
  | .deadLetterCount tenantId => (.count (S.deadLetterCount tenantId s), s)
  | .listDeadLetterJobs tenantId limit => (.deadLetters (S.listDeadLetterJobs tenantId limit s), s)
  | .replayDeadLetterJob tenantId jobId =>
    let r := S.replayDeadLetterJob tenantId jobId s
    (.flag r.1, r.2)
  | .cancelPendingCall callId =>
    let r := S.cancelPendingCall c.now callId s
    (.count r.1, r.2)
  | .queueDepth => (.count (S.queueDepth s), s)
  | .cleanupRetention tenantId limits =>
    let r := S.cleanupRetention c.now tenantId limits s
    (.pruned r.1, r.2)

/-! ## The view of one job -/

/-- A job as the queue's clients can tell it apart: what it is, whose turn it is, and how often it
was handed out.  The times at which it finished only matter to retention and are left out. -/
structure JobView where
  spec : JobSpec
  status : JobStatus
  leaseToken : String
  leaseExpiresAtEpoch : Epoch
  claimAttempt : Nat
  replayCount : Nat
deriving DecidableEq, Repr

namespace JobView

/-- The view of a record. -/
def of (spec : JobSpec) (l : Lifecycle) : JobView :=
  ⟨spec, l.status, l.leaseToken, l.leaseExpiresAtEpoch, l.claimAttempt, l.replayCount⟩

/-- A job that was just enqueued. -/
def fresh (spec : JobSpec) : JobView := ⟨spec, .queued, "", 0, 0, 0⟩

/-- The lease ran out. -/
def Expired (now : Epoch) (v : JobView) : Prop :=
  v.status = .leased ∧ v.leaseExpiresAtEpoch ≤ now

instance (now : Epoch) (v : JobView) : Decidable (v.Expired now) :=
  inferInstanceAs (Decidable (_ ∧ _))

/-- The job is leased under `token`, and the lease has not run out. -/
def HeldBy (now : Epoch) (token : String) (v : JobView) : Prop :=
  v.status = .leased ∧ now < v.leaseExpiresAtEpoch ∧ v.leaseToken = token

instance (now : Epoch) (token : String) (v : JobView) : Decidable (v.HeldBy now token) :=
  inferInstanceAs (Decidable (_ ∧ _))

/-- The job reached one of the two statuses that retention prunes. -/
def Finished (v : JobView) : Prop := v.status = .completed ∨ v.status = .cancelled

/-- The number of claims reached the dead-letter limit, if there is one. -/
def Exhausted (limit : Option Int) (v : JobView) : Prop :=
  ∃ k, limit = some k ∧ 0 < k ∧ k ≤ v.claimAttempt

instance (limit : Option Int) (v : JobView) : Decidable (v.Exhausted limit) :=
  match limit with
  | none => isFalse fun ⟨_, h, _⟩ ↦ nomatch h
  | some k => decidable_of_iff (0 < k ∧ k ≤ v.claimAttempt)
      ⟨fun h ↦ ⟨k, rfl, h⟩, fun ⟨_, h, hk⟩ ↦ Option.some.inj h ▸ hk⟩

/-- Without a lease, in the given status. -/
def release (status : JobStatus) (v : JobView) : JobView :=
  { v with status := status, leaseToken := "", leaseExpiresAtEpoch := 0 }

/-- One pass of `_requeue_expired_leases` over the job. -/
def sweep (now : Epoch) (limit : Option Int) (v : JobView) : JobView :=
  if v.Expired now then
    if v.Exhausted limit then v.release .deadLettered else v.release .queued
  else v

/-- The job, handed out. -/
def lease (token : String) (expires : Epoch) (v : JobView) : JobView :=
  { v with
    status := .leased
    leaseToken := token
    leaseExpiresAtEpoch := expires
    claimAttempt := v.claimAttempt + 1 }

/-- The job, done. -/
def complete (v : JobView) : JobView := { v with status := .completed }

/-- The job after `cancel_pending_call` named its call, before the sweep that ends it. -/
def cancel (v : JobView) : JobView :=
  match v.status with
  | .queued => { v with status := .cancelled }
  | .leased => { v with leaseExpiresAtEpoch := 0 }
  | _ => v

/-- The job, taken out of the dead letters. -/
def replay (v : JobView) : JobView :=
  { v.release .queued with replayCount := v.replayCount + 1 }

/-- The envelope of a leased job. -/
def envelope (v : JobView) : ByocToolJobEnvelope :=
  { toJobSpec := v.spec
    leaseToken := v.leaseToken
    leaseExpiresAtEpoch := v.leaseExpiresAtEpoch.seconds
    claimAttempt := v.claimAttempt }

end JobView

/-! ## What a call does to one job -/

/-- **What one call of a store can do to the job `k`.**  `before` and `after` are its views around
the call, `none` standing for no record.  Where the call names another job, `k` is either left
alone or swept, depending on what became of that other job. -/
def RecordStep (c : JobCall) (k : String) (reply : JobReply) (before after : Option JobView) :
    Prop :=
  match c.op with
  | .enqueue job =>
    after = if k = job.jobId then some (before.getD (.fresh job.toJobSpec)) else before
  | .claimNext _ _ ttl token =>
    (reply = .job none ∧ after = before.map (JobView.sweep c.now none)) ∨
    ∃ e, reply = .job (some e) ∧
      (e.jobId ≠ k → after = before.map (JobView.sweep c.now none)) ∧
      (e.jobId = k → ∃ v, before.map (JobView.sweep c.now none) = some v ∧
        v.status = .queued ∧
        after = some (v.lease token (c.now + ttlTicks ttl)) ∧
        e = (v.lease token (c.now + ttlTicks ttl)).envelope)
  | .completeClaim jobId token =>
    (jobId ≠ k → (reply = .flag true ∧ after = before) ∨ (reply = .flag false ∧
      (after = before ∨ after = before.map (JobView.sweep c.now none)))) ∧
    (jobId = k →
      (reply = .flag true ∧ ∃ v, before = some v ∧ v.HeldBy c.now token ∧
        after = some v.complete) ∨
      (reply = .flag false ∧ (∀ v, before = some v → ¬v.HeldBy c.now token) ∧
        after = before.map (JobView.sweep c.now none)))
  | .getLeasedJob jobId token =>
    (jobId ≠ k → after = before ∨ after = before.map (JobView.sweep c.now none)) ∧
    (jobId = k →
      (∃ v, before = some v ∧ v.HeldBy c.now token ∧ reply = .job (some v.envelope) ∧
        after = before) ∨
      (reply = .job none ∧ (∀ v, before = some v → ¬v.HeldBy c.now token) ∧
        after = before.map (JobView.sweep c.now none)))
  | .requeueExpiredLeases limit => after = before.map (JobView.sweep c.now limit)
  | .replayDeadLetterJob tenantId jobId =>
    (strip jobId ≠ k → after = before) ∧
    (strip jobId = k →
      (reply = .flag true ∧ ∃ v, before = some v ∧ v.spec.tenantId = strip tenantId ∧
        v.status = .deadLettered ∧ after = some v.replay) ∨
      (reply = .flag false ∧ after = before))
  | .cancelPendingCall callId =>
    if strip callId = "" then after = before
    else after = before.map fun v ↦
      (if v.spec.callId = strip callId then v.cancel else v).sweep c.now none
  | .cleanupRetention tenantId _ =>
    after = before ∨
      (after = none ∧ ∃ v, before = some v ∧ v.Finished ∧ v.spec.tenantId = strip tenantId)
  | .deadLetterCount _ | .listDeadLetterJobs _ _ | .queueDepth => after = before

/-- A backend that treats every job as `RecordStep` says.  `inv` is what the backend keeps true of
its own state, and `record` reads one job out of it. -/
structure LawfulJobStore {σ : Type} (S : ByocJobQueueStore σ) (inv : σ → Prop)
    (record : σ → String → Option JobView) : Prop where
  /-- Every call keeps the invariant of the backend. -/
  inv_step : ∀ s c, inv s → inv (S.step s c).2
  /-- A record is stored under its own id. -/
  jobId_eq : ∀ s k v, inv s → record s k = some v → v.spec.jobId = k
  /-- Every call does to every job what `RecordStep` says. -/
  record_step : ∀ s c k, inv s →
    RecordStep c k (S.step s c).1 (record s k) (record (S.step s c).2 k)

end Byoc
end ExoBrain
