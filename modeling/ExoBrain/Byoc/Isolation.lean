import ExoBrain.Byoc.Requests
import ExoBrain.Byoc.TenantView

/-!
# Tenants on one database

`TenantContextBuilder._build_execution_adapter` gives every tenant a runtime of its own, and all of
them the same database file.  A `Deployment` is that file together with the books of the runtimes,
and `Deployment.step` is a call on the runtime of one tenant.

Nothing in the tables keeps the tenants apart but what the runtime compares, and it does not compare
everything: the lease of a submission is looked up by job and token, an idempotency key by itself,
and a lease that has run out makes the call that notices it sweep the leases of all tenants.  So a
submission of one tenant can complete or requeue a job of another one
(`submission_completes_foreign_job`).

The theorem of this file says what has to be true of the calls of the others for a tenant not to
notice them.  `Alike` is what the tenant sees of two states; it is kept

* by a stage of a call of another tenant that only one of the two runs goes through
  (`Alike.cleaned_left`, `Alike.mark_left`, `Alike.claimNext_left`, `Alike.submit_left`),
* by a stage that sweeps all rows, in both runs (`Alike.requeueExpiredLeases`),
* and by the calls of the tenant itself, whose submissions are then answered alike
  (`Alike.submit`).
-/

set_option autoImplicit false

namespace ExoBrain
namespace Byoc

open Text
open SQLiteByocJobQueueStore (tenantRows)
open SQLiteByocResultStore (tenantPayloads)
open SQLiteReplayGuard (live)

/-! ## The deployment -/

/-- The state of a runtime on the database. -/
abbrev SqliteState :=
  RuntimeState SQLiteByocJobQueueStore SQLiteByocResultStore SQLiteReplayGuard

/-- A runtime on the database. -/
abbrev SqliteRuntime :=
  TenantByocConnectorRuntime SQLiteByocJobQueueStore SQLiteByocResultStore SQLiteReplayGuard

/-- The runtimes of `_build_execution_adapter`: the same settings for every tenant. -/
def sqliteRuntime (settings : ByocRuntimeSettings)
    (jwtDecode : Epoch → String → String → Except JwtError JwtPayload) : SqliteRuntime :=
  ⟨sqliteByocJobQueueStore, sqliteByocResultStore, sqliteReplayGuard, settings, jwtDecode⟩

/-- The database, and the books that the runtime of each tenant keeps for itself. -/
structure Deployment where
  jobs : SQLiteByocJobQueueStore
  results : SQLiteByocResultStore
  replay : SQLiteReplayGuard
  books : String → Epoch × RuntimeMetrics := fun _ ↦ (0, {})
  /-- The latest moment at which the replay guard was asked or pruned. -/
  now : Epoch := 0

/-- The outcome of a submission, if the reply is one. -/
def RuntimeReply.submission : RuntimeReply → Option (Except String ByocResultIngestOutcome)
  | .submitted outcome => some outcome
  | _ => none

/-- A call on the runtime of a tenant. -/
structure TenantCall where
  tenantId : String
  call : RuntimeCall
deriving DecidableEq, Repr

/-- The latest reading the replay guard sees in a call. -/
def RuntimeClock.latest (clock : RuntimeClock) : Epoch := max clock.replayRetention clock.mark

namespace Deployment

/-- An empty database. -/
def init (strategy : ByocResultConflictStrategy) : Deployment where
  jobs := .init false
  results := .init strategy false
  replay := .init

/-- What the runtime of a tenant works on. -/
def stateOf (d : Deployment) (tenantId : String) : SqliteState :=
  ⟨d.jobs, d.results, d.replay, (d.books tenantId).1, (d.books tenantId).2⟩

/-- One call on the runtime of one tenant. -/
def step (rt : SqliteRuntime) (d : Deployment) (c : TenantCall) : RuntimeReply × Deployment :=
  let r := rt.step (d.stateOf c.tenantId) c.call
  (r.1,
    { jobs := r.2.jobs
      results := r.2.results
      replay := r.2.replay
      books := Function.update d.books c.tenantId (r.2.lastCleanupEpoch, r.2.metrics)
      now := max d.now c.call.clock.latest })

/-- The same call, with only the outcomes of one tenant's submissions on show. -/
def stepSeenBy (rt : SqliteRuntime) (me : String) (d : Deployment) (c : TenantCall) :
    Option (Except String ByocResultIngestOutcome) × Deployment :=
  (if c.tenantId = me then (d.step rt c).1.submission else none, (d.step rt c).2)

end Deployment

/-! ## What a tenant sees -/

/-- The names under which the calls of a tenant are remembered in the tables that have no tenant:
its idempotency keys, and the replay keys of its requests. -/
structure Names where
  keys : List String
  requests : List String
deriving DecidableEq, Repr

/-- A state in which the tenant's idempotency keys are filed under the tenant. -/
structure Proper (me : String) (N : Names) (s : SqliteState) : Prop where
  inv : s.jobs.Inv
  keys : ∀ k ∈ N.keys, ∀ row ∈ s.results.idempotency.get? k, row.tenantId = me

/-- **Two states that a tenant cannot tell apart** from the moment `now` on: it has the same jobs
and payloads in both, its keys are known or not known in both, and its requests have the same
live marks. -/
structure Alike (me : String) (N : Names) (now : Epoch) (s s' : SqliteState) : Prop where
  left : Proper me N s
  right : Proper me N s'
  jobs : tenantRows me s.jobs.rows = tenantRows me s'.jobs.rows
  payloads : tenantPayloads me s.results.payloads = tenantPayloads me s'.results.payloads
  keys : ∀ k ∈ N.keys, s.results.idempotency.get? k = s'.results.idempotency.get? k
  requests : ∀ k ∈ N.requests, live now s.replay k = live now s'.replay k
  strategy : s.results.conflictStrategy = s'.results.conflictStrategy

/-- Two states of the same stores; the books may differ. -/
def SameStores (s s' : SqliteState) : Prop :=
  s.jobs = s'.jobs ∧ s.results = s'.results ∧ s.replay = s'.replay

/-! ## What keeps the tenants apart

The conditions are about a call and the state it finds. -/

/-- A lease of the tenant that has run out when the store claims for another tenant had run out
at the sweep before. -/
def SweptBefore (me : String) (clock : RuntimeClock) (t : JobTable) : Prop :=
  ∀ e ∈ (tenantRows me t).entries, e.2.toLifecycle.expired clock.lease = true →
    e.2.toLifecycle.expired clock.sweep = true

instance (me : String) (clock : RuntimeClock) (t : JobTable) : Decidable (SweptBefore me clock t) :=
  inferInstanceAs (Decidable (∀ e ∈ (tenantRows me t).entries, _))

/-- **What a submission of another tenant must keep away from**, in the state that its retention
pass left, if it gets as far as the lookup of its lease. -/
structure SubmitApart (rt : SqliteRuntime) (me : String) (N : Names) (clock : RuntimeClock)
    (sub : Submission) (s : SqliteState) : Prop where
  /-- If its lease has run out, so that the lookup sweeps the table, no lease of the tenant has. -/
  lookup : rt.ReachesLease clock sub s → ∀ r ∈ s.jobs.rows.get? sub.result.jobId,
    r.toLifecycle.expired clock.lease = true →
      SQLiteByocJobQueueStore.NoneExpired me clock.lease s.jobs.rows
  /-- The same at the completion, if it gets there. -/
  late : rt.ReachesLease clock sub s → ∀ r ∈ s.jobs.rows.get? sub.result.jobId,
    (SQLiteByocJobQueueStore.view r).HeldBy clock.lease sub.result.leaseToken →
    verifyResultArtifactMetadata r.toJobSpec sub.result = "" →
    r.toLifecycle.expired clock.complete = true →
      SQLiteByocJobQueueStore.NoneExpired me clock.complete s.jobs.rows
  /-- If it completes its job, the job is not the tenant's, its key is not one of the tenant's, and
  the payload it replaces is not filed under the tenant. -/
  closed : rt.ReachesLease clock sub s → ∀ r ∈ s.jobs.rows.get? sub.result.jobId,
    (SQLiteByocJobQueueStore.view r).HeldBy clock.lease sub.result.leaseToken →
    verifyResultArtifactMetadata r.toJobSpec sub.result = "" →
    (SQLiteByocJobQueueStore.view r).HeldBy clock.complete sub.result.leaseToken →
    r.tenantId ≠ me ∧ strip sub.result.idempotencyKey ∉ N.keys ∧
      ∀ row ∈ s.results.payloads.get? sub.result.jobId, row.tenantId ≠ me

/-- **What the tenant's own submissions rely on** in a state: their job has no row of another
tenant, and its payload is not filed under another tenant. -/
structure SubmitOwn (me : String) (result : ByocToolResultEnvelope) (s : SqliteState) : Prop where
  job : ∀ r ∈ s.jobs.rows.get? result.jobId, r.tenantId = me
  payload : ∀ row ∈ s.results.payloads.get? result.jobId, row.tenantId = me

/-- **What a call of another tenant must keep away from** in the state it finds. -/
def OtherApart (rt : SqliteRuntime) (me : String) (N : Names) (c : RuntimeCall)
    (s : SqliteState) : Prop :=
  (∀ key ∈ rt.requestKey c, key ∉ N.requests) ∧
    match c.op with
    | .executeEnqueue _ call _ _ => executeTenant call.tenantId ≠ me
    | .claimNextJob u _ _ _ => u ≠ me ∧ strip u ≠ me ∧ SweptBefore me c.clock s.jobs.rows
    | .submit sub =>
      sub.tenantId ≠ me ∧ strip sub.tenantId ≠ me ∧
        SubmitApart rt me N c.clock sub (rt.cleaned c.clock sub.tenantId s)
    | .replayDeadLetterJobs u _ _ => strip u ≠ me
    | .cleanupRetention u _ => strip u ≠ me
    | .executePoll _ _ | .requestCancellation _ | .replayDeadLetterJob _ _ => True

/-- **What the tenant's own calls rely on** in the two states: they are made in its name and under
its names, for jobs that no other tenant has, and the clock has not gone back. -/
def OwnRespected (rt : SqliteRuntime) (me : String) (N : Names) (now : Epoch) (c : RuntimeCall)
    (s s' : SqliteState) : Prop :=
  (∀ key ∈ rt.requestKey c, key ∈ N.requests) ∧
    match c.op with
    | .executeEnqueue _ _ _ jobId =>
      (∀ r ∈ s.jobs.rows.get? jobId, r.tenantId = me) ∧
        ∀ r ∈ s'.jobs.rows.get? jobId, r.tenantId = me
    | .claimNextJob u _ _ _ => u = me ∧ now ≤ c.clock.mark
    | .submit sub =>
      sub.tenantId = me ∧ now ≤ c.clock.mark ∧ SubmitOwn me sub.result s ∧
        SubmitOwn me sub.result s' ∧
        (strip sub.result.idempotencyKey ≠ "" → strip sub.result.idempotencyKey ∈ N.keys)
    | _ => True

namespace Alike

variable {me : String} {N : Names} {now later : Epoch} {s s' t t' : SqliteState}

theorem refl (h : Proper me N s) : Alike me N now s s :=
  ⟨h, h, rfl, rfl, fun _ _ ↦ rfl, fun _ _ ↦ rfl, rfl⟩

theorem symm (h : Alike me N now s s') : Alike me N now s' s :=
  ⟨h.right, h.left, h.jobs.symm, h.payloads.symm, fun k hk ↦ (h.keys k hk).symm,
    fun k hk ↦ (h.requests k hk).symm, h.strategy.symm⟩

theorem mono (h : Alike me N now s s') (hle : now ≤ later) : Alike me N later s s' :=
  { h with requests := fun k hk ↦ SQLiteReplayGuard.live_congr_of_le hle (h.requests k hk) }

/-- Only the stores matter. -/
theorem congr (h : Alike me N now s s') (hs : SameStores t s) (hs' : SameStores t' s') :
    Alike me N now t t' := by
  obtain ⟨jobs, results, replay, _, _⟩ := t
  obtain ⟨jobs', results', replay', _, _⟩ := t'
  obtain ⟨rfl, rfl, rfl⟩ : jobs = s.jobs ∧ results = s.results ∧ replay = s.replay := hs
  obtain ⟨rfl, rfl, rfl⟩ : jobs' = s'.jobs ∧ results' = s'.results ∧ replay' = s'.replay := hs'
  exact ⟨⟨h.left.inv, h.left.keys⟩, ⟨h.right.inv, h.right.keys⟩, h.jobs, h.payloads, h.keys,
    h.requests, h.strategy⟩

/-- A stage that leaves the view alone in each run may happen in both. -/
theorem both_of_left {f : SqliteState → SqliteState} (h : Alike me N now s s')
    (hnow : now ≤ later)
    (hs : ∀ {now t}, Alike me N now s t → now ≤ later → Alike me N later (f s) t)
    (hs' : ∀ {now t}, Alike me N now s' t → now ≤ later → Alike me N later (f s') t) :
    Alike me N later (f s) (f s') :=
  (hs' (hs h hnow).symm le_rfl).symm

/-- New jobs on both sides. -/
theorem withJobs (h : Alike me N now s s') (jobs jobs' : SQLiteByocJobQueueStore)
    (hinv : jobs.Inv) (hinv' : jobs'.Inv)
    (hjobs : tenantRows me jobs.rows = tenantRows me jobs'.rows) :
    Alike me N now { s with jobs := jobs } { s' with jobs := jobs' } :=
  ⟨⟨hinv, h.left.keys⟩, ⟨hinv', h.right.keys⟩, hjobs, h.payloads, h.keys, h.requests, h.strategy⟩

/-- New results on both sides. -/
theorem withResults (h : Alike me N now s s') (results results' : SQLiteByocResultStore)
    (hpayloads : tenantPayloads me results.payloads = tenantPayloads me results'.payloads)
    (hfiled : ∀ k ∈ N.keys, ∀ row ∈ results.idempotency.get? k, row.tenantId = me)
    (hkeys : ∀ k ∈ N.keys, results.idempotency.get? k = results'.idempotency.get? k)
    (hstrategy : results.conflictStrategy = results'.conflictStrategy) :
    Alike me N now { s with results := results } { s' with results := results' } := by
  refine ⟨⟨h.left.inv, hfiled⟩, ⟨h.right.inv, fun k hk row hrow ↦ ?_⟩, h.jobs, hpayloads, hkeys,
    h.requests, hstrategy⟩
  exact hfiled k hk row ((hkeys k hk).trans hrow)

/-- New marks on both sides. -/
theorem withReplay (h : Alike me N now s s') (replay replay' : SQLiteReplayGuard)
    (hrequests : ∀ k ∈ N.requests, live later replay k = live later replay' k) :
    Alike me N later { s with replay := replay } { s' with replay := replay' } :=
  ⟨⟨h.left.inv, h.left.keys⟩, ⟨h.right.inv, h.right.keys⟩, h.jobs, h.payloads, h.keys, hrequests,
    h.strategy⟩

variable {settings : ByocRuntimeSettings}
  {jwtDecode : Epoch → String → String → Except JwtError JwtPayload} {clock : RuntimeClock}
  {u : String}

/-! ### Retention -/

variable (settings jwtDecode) in
/-- What a retention pass does to the three stores. -/
theorem stores_runCleanup (clock : RuntimeClock) (u : String) (force : Bool) (s : SqliteState) :
    let rt := sqliteRuntime settings jwtDecode
    let after := (rt.runCleanup clock u force s).2
    after.jobs = (if rt.cleanupDue clock.cleanup force s then
        (s.jobs.cleanupRetention clock.jobRetention u rt.jobLimits).2 else s.jobs) ∧
      after.results = (if rt.cleanupDue clock.cleanup force s then
        (s.results.cleanupRetention clock.resultRetention u rt.resultLimits).2 else s.results) ∧
      after.replay = if rt.cleanupDue clock.cleanup force s then
        (s.replay.cleanupRetention clock.replayRetention u).2 else s.replay := by
  dsimp only
  rw [TenantByocConnectorRuntime.runCleanup]
  split <;> exact ⟨rfl, rfl, rfl⟩

theorem conflictStrategy_cleanupRetention (t : Epoch) (u : String) (limits : ResultRetentionLimits)
    (r : SQLiteByocResultStore) :
    (r.cleanupRetention t u limits).2.conflictStrategy = r.conflictStrategy := by
  rw [SQLiteByocResultStore.cleanupRetention]
  dsimp only
  split <;> rfl

theorem proper_runCleanup (h : Proper me N s) (clock : RuntimeClock) (u : String) (force : Bool) :
    Proper me N ((sqliteRuntime settings jwtDecode).runCleanup clock u force s).2 := by
  obtain ⟨hjobs, hresults, -⟩ := stores_runCleanup settings jwtDecode clock u force s
  constructor
  · rw [hjobs]
    split
    · exact SQLiteByocJobQueueStore.inv_cleanupRetention h.inv _ _ _
    · exact h.inv
  · intro k hk row hrow
    rw [hresults] at hrow
    split at hrow
    · rw [SQLiteByocResultStore.get?_idempotency_cleanupRetention] at hrow
      split at hrow
      · exact h.keys k hk row hrow
      · exact h.keys k hk row (Option.filter_eq_some_iff.mp hrow).1
    · exact h.keys k hk row hrow

/-- The retention pass of another tenant. -/
theorem runCleanup_left (h : Alike me N now s s') (hu : strip u ≠ me) (hnow : now ≤ later)
    (hclock : clock.replayRetention ≤ later) (force : Bool) :
    Alike me N later ((sqliteRuntime settings jwtDecode).runCleanup clock u force s).2 s' := by
  have h' := h.mono hnow
  obtain ⟨hjobs, hresults, hreplay⟩ := stores_runCleanup settings jwtDecode clock u force s
  refine { h' with left := proper_runCleanup h.left clock u force, jobs := ?_, payloads := ?_,
                   keys := ?_, requests := ?_, strategy := ?_ }
  · rw [hjobs]
    split
    · rw [SQLiteByocJobQueueStore.tenantRows_cleanupRetention_of_ne h.left.inv hu, h.jobs]
    · exact h.jobs
  · rw [hresults]
    split
    · rw [SQLiteByocResultStore.tenantPayloads_cleanupRetention_of_ne hu, h.payloads]
    · exact h.payloads
  · intro k hk
    rw [hresults, ← h.keys k hk]
    split
    · refine SQLiteByocResultStore.get?_idempotency_cleanupRetention_of_ne (fun row hrow ↦ ?_) _ _
      rw [h.left.keys k hk row hrow]
      exact Ne.symm hu
    · rfl
  · intro k hk
    rw [hreplay, ← h'.requests k hk]
    split
    · exact SQLiteReplayGuard.live_cleanupRetention hclock u k s.replay
    · rfl
  · rw [hresults, ← h.strategy]
    split
    · exact conflictStrategy_cleanupRetention _ _ _ _
    · rfl

theorem cleaned_left (h : Alike me N now s s') (hu : strip u ≠ me) (hnow : now ≤ later)
    (hclock : clock.replayRetention ≤ later) :
    Alike me N later ((sqliteRuntime settings jwtDecode).cleaned clock u s) s' :=
  h.runCleanup_left hu hnow hclock false

/-- The tenant's own retention pass. -/
theorem runCleanup_both (h : Alike me N now s s')
    (hbooks : s.lastCleanupEpoch = s'.lastCleanupEpoch) (clock : RuntimeClock) (u : String)
    (force : Bool) :
    let after := fun s ↦ ((sqliteRuntime settings jwtDecode).runCleanup clock u force s).2
    Alike me N now (after s) (after s') ∧
      (after s).lastCleanupEpoch = (after s').lastCleanupEpoch := by
  have hdue : (sqliteRuntime settings jwtDecode).cleanupDue clock.cleanup force s =
      (sqliteRuntime settings jwtDecode).cleanupDue clock.cleanup force s' := by
    rw [TenantByocConnectorRuntime.cleanupDue, TenantByocConnectorRuntime.cleanupDue, hbooks]
  constructor
  · obtain ⟨hjobs, hresults, hreplay⟩ := stores_runCleanup settings jwtDecode clock u force s
    obtain ⟨hjobs', hresults', hreplay'⟩ := stores_runCleanup settings jwtDecode clock u force s'
    rw [← hdue] at hjobs' hresults' hreplay'
    refine ⟨proper_runCleanup h.left clock u force, proper_runCleanup h.right clock u force, ?_, ?_,
      ?_, ?_, ?_⟩
    · rw [hjobs, hjobs']
      split
      · exact SQLiteByocJobQueueStore.tenantRows_cleanupRetention_congr h.left.inv h.right.inv
          h.jobs _ u _
      · exact h.jobs
    · rw [hresults, hresults']
      split
      · exact SQLiteByocResultStore.tenantPayloads_cleanupRetention_congr h.payloads _ u _
      · exact h.payloads
    · intro k hk
      rw [hresults, hresults']
      split
      · rw [SQLiteByocResultStore.get?_idempotency_cleanupRetention,
          SQLiteByocResultStore.get?_idempotency_cleanupRetention, h.keys k hk]
      · exact h.keys k hk
    · intro k hk
      rw [hreplay, hreplay']
      split
      · exact SQLiteReplayGuard.live_cleanupRetention_congr (h.requests k hk) _ u
      · exact h.requests k hk
    · rw [hresults, hresults']
      split
      · rw [conflictStrategy_cleanupRetention, conflictStrategy_cleanupRetention, h.strategy]
      · exact h.strategy
  · simp only [TenantByocConnectorRuntime.runCleanup, hdue]
    split
    · rfl
    · exact hbooks

theorem cleaned_both (h : Alike me N now s s') (hbooks : s.lastCleanupEpoch = s'.lastCleanupEpoch)
    (clock : RuntimeClock) (u : String) :
    Alike me N now ((sqliteRuntime settings jwtDecode).cleaned clock u s)
        ((sqliteRuntime settings jwtDecode).cleaned clock u s') ∧
      ((sqliteRuntime settings jwtDecode).cleaned clock u s).lastCleanupEpoch =
        ((sqliteRuntime settings jwtDecode).cleaned clock u s').lastCleanupEpoch :=
  h.runCleanup_both hbooks clock u false

/-! ### Stages that act on all rows -/

theorem requeueExpiredLeases (h : Alike me N now s s') (clock : RuntimeClock) (u : String) :
    Alike me N now ((sqliteRuntime settings jwtDecode).requeueExpiredLeases clock u s)
      ((sqliteRuntime settings jwtDecode).requeueExpiredLeases clock u s') := by
  have hswept := SQLiteByocJobQueueStore.tenantRows_requeueExpiredLeases me clock.sweep
    (some (sqliteRuntime settings jwtDecode).dlqLimit)
  have hinv := fun {jobs : SQLiteByocJobQueueStore} (hj : jobs.Inv) ↦
    SQLiteByocJobQueueStore.inv_requeueExpiredLeases hj clock.sweep
      (some (sqliteRuntime settings jwtDecode).dlqLimit)
  have hjobs := h.withJobs _ _ (hinv h.left.inv) (hinv h.right.inv)
    (by rw [hswept, hswept, h.jobs])
  exact hjobs.congr ⟨rfl, rfl, rfl⟩ ⟨rfl, rfl, rfl⟩

theorem consume (h : Alike me N now s s') (jobId : String) :
    Alike me N now { s with results := (s.results.consume jobId).2 }
      { s' with results := (s'.results.consume jobId).2 } := by
  have hrest : ∀ r : SQLiteByocResultStore, (r.consume jobId).2.idempotency = r.idempotency ∧
      (r.consume jobId).2.conflictStrategy = r.conflictStrategy := by
    intro r
    rw [SQLiteByocResultStore.consume]
    split <;> exact ⟨rfl, rfl⟩
  refine h.withResults _ _ ?_ ?_ ?_ ?_
  · rw [SQLiteByocResultStore.tenantPayloads_consume,
      SQLiteByocResultStore.tenantPayloads_consume, h.payloads]
  · rw [(hrest _).1]
    exact h.left.keys
  · rw [(hrest _).1, (hrest _).1]
    exact h.keys
  · rw [(hrest _).2, (hrest _).2, h.strategy]

theorem executePoll (h : Alike me N now s s') (clock : RuntimeClock) (u jobId : String) :
    Alike me N now ((sqliteRuntime settings jwtDecode).executePoll clock u jobId s).2
      ((sqliteRuntime settings jwtDecode).executePoll clock u jobId s').2 :=
  (h.requeueExpiredLeases clock u).consume jobId

theorem requestCancellation (h : Alike me N now s s') (clock : RuntimeClock) (callId : String) :
    Alike me N now ((sqliteRuntime settings jwtDecode).requestCancellation clock callId s).2
      ((sqliteRuntime settings jwtDecode).requestCancellation clock callId s').2 := by
  simp only [TenantByocConnectorRuntime.requestCancellation]
  split
  · exact h
  · rename_i hcall
    rw [← strip_strip] at hcall
    have hcancelled := SQLiteByocJobQueueStore.tenantRows_cancelPendingCall me clock.lease hcall
    have hjobs := h.withJobs _ _
      (SQLiteByocJobQueueStore.inv_cancelPendingCall h.left.inv clock.lease (strip callId))
      (SQLiteByocJobQueueStore.inv_cancelPendingCall h.right.inv clock.lease (strip callId))
      (by rw [hcancelled, hcancelled, h.jobs])
    exact hjobs.congr ⟨rfl, rfl, rfl⟩ ⟨rfl, rfl, rfl⟩

theorem replayDeadLetterJob (h : Alike me N now s s') (u jobId : String) :
    Alike me N now ((sqliteRuntime settings jwtDecode).replayDeadLetterJob u jobId s).2
      ((sqliteRuntime settings jwtDecode).replayDeadLetterJob u jobId s').2 := by
  have hreplayed := SQLiteByocJobQueueStore.tenantRows_replayDeadLetterJob me u jobId
  have hjobs := h.withJobs _ _
    (SQLiteByocJobQueueStore.inv_replayDeadLetterJob h.left.inv u jobId)
    (SQLiteByocJobQueueStore.inv_replayDeadLetterJob h.right.inv u jobId)
    (by rw [hreplayed, hreplayed, h.jobs])
  exact hjobs.congr ⟨rfl, rfl, rfl⟩ ⟨rfl, rfl, rfl⟩

/-! ### Replays of dead letters -/

theorem replayLoop_of_ne (hu : strip u ≠ me) (targets : List String)
    {jobs : SQLiteByocJobQueueStore} (hinv : jobs.Inv) :
    ((sqliteRuntime settings jwtDecode).replayLoop u targets jobs).2.Inv ∧
      tenantRows me ((sqliteRuntime settings jwtDecode).replayLoop u targets jobs).2.rows =
        tenantRows me jobs.rows := by
  induction targets generalizing jobs with
  | nil => exact ⟨hinv, rfl⟩
  | cons jobId targets ih =>
    have hstep := SQLiteByocJobQueueStore.tenantRows_replayDeadLetterJob_of_ne hu jobId jobs
    obtain ⟨hinv', hrows⟩ := ih (SQLiteByocJobQueueStore.inv_replayDeadLetterJob hinv u jobId)
    rw [TenantByocConnectorRuntime.replayLoop]
    split <;> exact ⟨hinv', hrows.trans hstep⟩

theorem replayLoop_congr (u : String) (targets : List String)
    {jobs jobs' : SQLiteByocJobQueueStore} (hinv : jobs.Inv) (hinv' : jobs'.Inv)
    (h : tenantRows me jobs.rows = tenantRows me jobs'.rows) :
    let after := fun jobs ↦ ((sqliteRuntime settings jwtDecode).replayLoop u targets jobs).2
    (after jobs).Inv ∧ (after jobs').Inv ∧
      tenantRows me (after jobs).rows = tenantRows me (after jobs').rows := by
  induction targets generalizing jobs jobs' with
  | nil => exact ⟨hinv, hinv', h⟩
  | cons jobId targets ih =>
    have hreplayed := SQLiteByocJobQueueStore.tenantRows_replayDeadLetterJob me u jobId
    have hstep : tenantRows me (jobs.replayDeadLetterJob u jobId).2.rows =
        tenantRows me (jobs'.replayDeadLetterJob u jobId).2.rows := by
      rw [hreplayed, hreplayed, h]
    have htail := ih (SQLiteByocJobQueueStore.inv_replayDeadLetterJob hinv u jobId)
      (SQLiteByocJobQueueStore.inv_replayDeadLetterJob hinv' u jobId) hstep
    have hcons : ∀ jobs, ((sqliteRuntime settings jwtDecode).replayLoop u (jobId :: targets)
        jobs).2 = ((sqliteRuntime settings jwtDecode).replayLoop u targets
          (jobs.replayDeadLetterJob u jobId).2).2 := by
      intro jobs
      rw [TenantByocConnectorRuntime.replayLoop]
      split <;> rfl
    simp only [hcons]
    exact htail

/-- The replays of another tenant. -/
theorem replayDeadLetterJobs_left (h : Alike me N now s s') (hu : strip u ≠ me)
    (jobIds : List String) (limit : Int) :
    Alike me N now ((sqliteRuntime settings jwtDecode).replayDeadLetterJobs u jobIds limit s).2
      s' := by
  obtain ⟨hinv, hrows⟩ := replayLoop_of_ne hu ((sqliteRuntime settings jwtDecode).replayTargets u
    jobIds limit s.jobs) h.left.inv
  have hjobs := h.withJobs _ s'.jobs hinv h.right.inv (hrows.trans h.jobs)
  exact hjobs.congr ⟨rfl, rfl, rfl⟩ ⟨rfl, rfl, rfl⟩

theorem replayDeadLetterJobs_both (h : Alike me N now s s') (u : String) (jobIds : List String)
    (limit : Int) :
    Alike me N now ((sqliteRuntime settings jwtDecode).replayDeadLetterJobs u jobIds limit s).2
      ((sqliteRuntime settings jwtDecode).replayDeadLetterJobs u jobIds limit s').2 := by
  by_cases hu : strip u = me
  · have htargets : (sqliteRuntime settings jwtDecode).replayTargets u jobIds limit s.jobs =
        (sqliteRuntime settings jwtDecode).replayTargets u jobIds limit s'.jobs := by
      simp only [TenantByocConnectorRuntime.replayTargets, sqliteRuntime, sqliteByocJobQueueStore]
      rw [SQLiteByocJobQueueStore.listDeadLetterJobs_congr h.jobs hu]
    obtain ⟨hinv, hinv', hrows⟩ := replayLoop_congr u ((sqliteRuntime settings
      jwtDecode).replayTargets u jobIds limit s.jobs) h.left.inv h.right.inv h.jobs
    have hjobs := h.withJobs _ _ hinv hinv' hrows
    refine hjobs.congr ⟨rfl, rfl, rfl⟩ ⟨?_, rfl, rfl⟩
    rw [htargets]
    rfl
  · exact ((h.replayDeadLetterJobs_left hu jobIds limit).symm.replayDeadLetterJobs_left hu jobIds
      limit).symm

/-! ### The replay guard -/

variable (settings jwtDecode) in
/-- What the mark of a request does. -/
theorem markRequest_eq (clock : RuntimeClock) (key reason : String) (s : SqliteState) :
    (sqliteRuntime settings jwtDecode).markRequest clock key reason s =
      let marked := s.replay.markOnce clock.mark key settings.attributes.replayTtlSeconds
      (if marked.1 then .ok () else .error reason, { s with replay := marked.2 }) := rfl

/-- A request of another tenant. -/
theorem mark_left (h : Alike me N now s s') {key : String} (hkey : strip key ∉ N.requests)
    (hnow : now ≤ later) (hclock : clock.mark ≤ later) (reason : String) :
    Alike me N later ((sqliteRuntime settings jwtDecode).markRequest clock key reason s).2 s' := by
  rw [markRequest_eq]
  refine h.withReplay _ s'.replay fun k hk ↦ ?_
  have hne : k ≠ strip key := fun heq ↦ hkey (heq ▸ hk)
  exact (SQLiteReplayGuard.live_markOnce_of_ne hne hclock _ s.replay).trans
    ((h.mono hnow).requests k hk)

/-- A request of the tenant itself, at a moment from which on the states are alike. -/
theorem mark_both (h : Alike me N now s s') {key : String} (hkey : strip key ∈ N.requests)
    (hnow : now ≤ clock.mark) (hclock : clock.mark ≤ later) (reason : String) :
    ((sqliteRuntime settings jwtDecode).markRequest clock key reason s).1 =
        ((sqliteRuntime settings jwtDecode).markRequest clock key reason s').1 ∧
      Alike me N later ((sqliteRuntime settings jwtDecode).markRequest clock key reason s).2
        ((sqliteRuntime settings jwtDecode).markRequest clock key reason s').2 := by
  have hlive := h.mono hnow
  obtain ⟨hanswer, hmarked⟩ := SQLiteReplayGuard.markOnce_congr (hlive.requests (strip key) hkey)
    settings.attributes.replayTtlSeconds
  rw [markRequest_eq, markRequest_eq]
  dsimp only
  constructor
  · rw [hanswer]
  · refine h.withReplay _ _ fun k hk ↦ ?_
    have hlater := (hlive.mono hclock).requests k hk
    by_cases heq : k = strip key
    · by_cases hblank : strip key = ""
      · simp only [SQLiteReplayGuard.markOnce, if_pos hblank]
        exact hlater
      · rw [live, live, heq, hmarked hblank]
    · rw [SQLiteReplayGuard.live_markOnce_of_ne heq hclock,
        SQLiteReplayGuard.live_markOnce_of_ne heq hclock, hlater]

/-! ### New jobs -/

theorem enqueue_left (h : Alike me N now s s') {job : ByocToolJobEnvelope}
    (hjob : job.tenantId ≠ me) : Alike me N now { s with jobs := s.jobs.enqueue job } s' :=
  h.withJobs _ s'.jobs (SQLiteByocJobQueueStore.inv_enqueue h.left.inv job) h.right.inv
    ((SQLiteByocJobQueueStore.tenantRows_enqueue_of_ne hjob s.jobs).trans h.jobs)

theorem enqueue_both (h : Alike me N now s s') {job : ByocToolJobEnvelope}
    (hown : ∀ r ∈ s.jobs.rows.get? job.jobId, r.tenantId = me)
    (hown' : ∀ r ∈ s'.jobs.rows.get? job.jobId, r.tenantId = me) :
    Alike me N now { s with jobs := s.jobs.enqueue job } { s' with jobs := s'.jobs.enqueue job } :=
  h.withJobs _ _ (SQLiteByocJobQueueStore.inv_enqueue h.left.inv job)
    (SQLiteByocJobQueueStore.inv_enqueue h.right.inv job)
    (SQLiteByocJobQueueStore.tenantRows_enqueue_congr h.jobs hown hown')

/-! ### Claims -/

theorem claimNext_left (h : Alike me N now s s') (hu : u ≠ me) {t : Epoch}
    (hnone : SQLiteByocJobQueueStore.NoneExpired me t s.jobs.rows) (workerId : String) (ttl : Int)
    (token : String) :
    Alike me N now { s with jobs := (s.jobs.claimNext t u workerId ttl token).2 } s' :=
  h.withJobs _ s'.jobs (SQLiteByocJobQueueStore.inv_claimNext h.left.inv t u workerId ttl token)
    h.right.inv ((SQLiteByocJobQueueStore.tenantRows_claimNext_of_ne h.left.inv hu hnone workerId
      ttl token).trans h.jobs)

theorem claimNext_both (h : Alike me N now s s') (t : Epoch) (workerId : String) (ttl : Int)
    (token : String) :
    Alike me N now { s with jobs := (s.jobs.claimNext t me workerId ttl token).2 }
      { s' with jobs := (s'.jobs.claimNext t me workerId ttl token).2 } :=
  h.withJobs _ _ (SQLiteByocJobQueueStore.inv_claimNext h.left.inv t me workerId ttl token)
    (SQLiteByocJobQueueStore.inv_claimNext h.right.inv t me workerId ttl token)
    (SQLiteByocJobQueueStore.tenantRows_claimNext_congr h.jobs t workerId ttl token)

theorem noneExpired_swept (h : SweptBefore me clock s.jobs.rows) (u : String) :
    SQLiteByocJobQueueStore.NoneExpired me clock.lease
      ((sqliteRuntime settings jwtDecode).requeueExpiredLeases clock u s).jobs.rows :=
  SQLiteByocJobQueueStore.noneExpired_requeueExpiredLeases h
    (some (sqliteRuntime settings jwtDecode).dlqLimit)

theorem claimSwept_left (h : Alike me N now s s') (hu : u ≠ me)
    (hnone : SQLiteByocJobQueueStore.NoneExpired me clock.lease s.jobs.rows)
    {workerToken requestNonce leaseToken : String}
    (hkey : ∀ key ∈ (sqliteRuntime settings jwtDecode).requestKey
      ⟨clock, .claimNextJob u workerToken requestNonce leaseToken⟩, key ∉ N.requests)
    (hnow : now ≤ later) (hclock : clock.mark ≤ later) :
    Alike me N later ((sqliteRuntime settings jwtDecode).claimSwept clock u workerToken
      requestNonce leaseToken s).2 s' := by
  simp only [TenantByocConnectorRuntime.claimSwept,
    TenantByocConnectorRuntime.authenticateWorker_eq]
  simp only [TenantByocConnectorRuntime.requestKey] at hkey
  cases hrequest : (sqliteRuntime settings jwtDecode).workerRequest clock "claim" u workerToken
      requestNonce with
  | error reason => exact h.mono hnow
  | ok request =>
    obtain ⟨claims, key⟩ := request
    rw [hrequest] at hkey
    have hmarked : Alike me N later ((sqliteRuntime settings jwtDecode).markRequest clock key
        "WORKER_REQUEST_REPLAYED" s).2 s' := h.mark_left (hkey _ rfl) hnow hclock _
    have hjobs : ((sqliteRuntime settings jwtDecode).markRequest clock key
        "WORKER_REQUEST_REPLAYED" s).2.jobs = s.jobs := by rw [markRequest_eq]
    simp only
    generalize (sqliteRuntime settings jwtDecode).markRequest clock key "WORKER_REQUEST_REPLAYED" s
      = marked at hmarked hjobs ⊢
    obtain ⟨reason | _, q⟩ := marked
    · exact hmarked
    · have hclaimed := hmarked.claimNext_left hu (by rw [hjobs]; exact hnone) claims.workerId
        settings.attributes.leaseTtlSeconds leaseToken
      exact hclaimed.congr ⟨rfl, rfl, rfl⟩ ⟨rfl, rfl, rfl⟩

/-- A claim for another tenant. -/
theorem claimNextJob_other (h : Alike me N now s s') (hu : u ≠ me) (hstrip : strip u ≠ me)
    (hswept : SweptBefore me clock s.jobs.rows) {workerToken requestNonce leaseToken : String}
    (hkey : ∀ key ∈ (sqliteRuntime settings jwtDecode).requestKey
      ⟨clock, .claimNextJob u workerToken requestNonce leaseToken⟩, key ∉ N.requests)
    (hnow : now ≤ later) (hclock : clock.latest ≤ later) :
    Alike me N later
      ((sqliteRuntime settings jwtDecode).claimNextJob clock u workerToken requestNonce
        leaseToken s).2
      ((sqliteRuntime settings jwtDecode).claimNextJob clock u workerToken requestNonce
        leaseToken s').2 := by
  have hretention : clock.replayRetention ≤ later := (le_max_left _ _).trans hclock
  have hmark : clock.mark ≤ later := (le_max_right _ _).trans hclock
  -- Both runs clean up and sweep; only then may one of them go further than the other.
  have hleft : Alike me N later ((sqliteRuntime settings jwtDecode).cleaned clock u s) s' :=
    h.cleaned_left hstrip hnow hretention
  have hcleaned : Alike me N later ((sqliteRuntime settings jwtDecode).cleaned clock u s)
      ((sqliteRuntime settings jwtDecode).cleaned clock u s') :=
    (hleft.symm.cleaned_left hstrip le_rfl hretention).symm
  have hself : Alike me N later ((sqliteRuntime settings jwtDecode).cleaned clock u s) s :=
    (refl h.left).cleaned_left hstrip le_rfl hretention
  have hbefore : SweptBefore me clock
      ((sqliteRuntime settings jwtDecode).cleaned clock u s).jobs.rows := by
    rw [SweptBefore, hself.jobs]
    exact hswept
  have hbefore' : SweptBefore me clock
      ((sqliteRuntime settings jwtDecode).cleaned clock u s').jobs.rows := by
    rw [SweptBefore, ← hcleaned.jobs]
    exact hbefore
  rw [TenantByocConnectorRuntime.claimNextJob_eq, TenantByocConnectorRuntime.claimNextJob_eq]
  have hboth : Alike me N later
      ((sqliteRuntime settings jwtDecode).requeueExpiredLeases clock u
        ((sqliteRuntime settings jwtDecode).cleaned clock u s))
      ((sqliteRuntime settings jwtDecode).requeueExpiredLeases clock u
        ((sqliteRuntime settings jwtDecode).cleaned clock u s')) :=
    hcleaned.requeueExpiredLeases clock u
  have hdone := hboth.claimSwept_left hu (noneExpired_swept hbefore u) hkey le_rfl hmark
  exact (hdone.symm.claimSwept_left hu (noneExpired_swept hbefore' u) hkey le_rfl hmark).symm

/-- A claim of the tenant itself. -/
theorem claimNextJob_both (h : Alike me N now s s')
    (hbooks : s.lastCleanupEpoch = s'.lastCleanupEpoch)
    {workerToken requestNonce leaseToken : String}
    (hkey : ∀ key ∈ (sqliteRuntime settings jwtDecode).requestKey
      ⟨clock, .claimNextJob me workerToken requestNonce leaseToken⟩, key ∈ N.requests)
    (hnow : now ≤ clock.mark) (hclock : clock.latest ≤ later) :
    let after := fun s ↦ ((sqliteRuntime settings jwtDecode).claimNextJob clock me workerToken
      requestNonce leaseToken s).2
    Alike me N later (after s) (after s') ∧
      (after s).lastCleanupEpoch = (after s').lastCleanupEpoch := by
  have hmark : clock.mark ≤ later := (le_max_right _ _).trans hclock
  obtain ⟨hcleaned, hbooks'⟩ : Alike me N now
        ((sqliteRuntime settings jwtDecode).cleaned clock me s)
        ((sqliteRuntime settings jwtDecode).cleaned clock me s') ∧ _ :=
    h.cleaned_both hbooks clock me
  have hswept : Alike me N now
      ((sqliteRuntime settings jwtDecode).requeueExpiredLeases clock me
        ((sqliteRuntime settings jwtDecode).cleaned clock me s))
      ((sqliteRuntime settings jwtDecode).requeueExpiredLeases clock me
        ((sqliteRuntime settings jwtDecode).cleaned clock me s')) :=
    hcleaned.requeueExpiredLeases clock me
  have hbooks'' : ((sqliteRuntime settings jwtDecode).requeueExpiredLeases clock me
        ((sqliteRuntime settings jwtDecode).cleaned clock me s)).lastCleanupEpoch =
      ((sqliteRuntime settings jwtDecode).requeueExpiredLeases clock me
        ((sqliteRuntime settings jwtDecode).cleaned clock me s')).lastCleanupEpoch := hbooks'
  simp only [TenantByocConnectorRuntime.claimNextJob_eq]
  generalize (sqliteRuntime settings jwtDecode).requeueExpiredLeases clock me
    ((sqliteRuntime settings jwtDecode).cleaned clock me s) = q at hswept hbooks''
  generalize (sqliteRuntime settings jwtDecode).requeueExpiredLeases clock me
    ((sqliteRuntime settings jwtDecode).cleaned clock me s') = q' at hswept hbooks''
  simp only [TenantByocConnectorRuntime.claimSwept,
    TenantByocConnectorRuntime.authenticateWorker_eq]
  simp only [TenantByocConnectorRuntime.requestKey] at hkey
  cases hrequest : (sqliteRuntime settings jwtDecode).workerRequest clock "claim" me workerToken
      requestNonce with
  | error reason => exact ⟨hswept.mono (hnow.trans hmark), hbooks''⟩
  | ok request =>
    obtain ⟨claims, key⟩ := request
    rw [hrequest] at hkey
    obtain ⟨hanswer, hmarked⟩ : ((sqliteRuntime settings jwtDecode).markRequest clock key
          "WORKER_REQUEST_REPLAYED" q).1 =
        ((sqliteRuntime settings jwtDecode).markRequest clock key "WORKER_REQUEST_REPLAYED" q').1 ∧
        Alike me N later _ _ := hswept.mark_both (hkey _ rfl) hnow hmark _
    have hbooks : ((sqliteRuntime settings jwtDecode).markRequest clock key
          "WORKER_REQUEST_REPLAYED" q).2.lastCleanupEpoch =
        ((sqliteRuntime settings jwtDecode).markRequest clock key
          "WORKER_REQUEST_REPLAYED" q').2.lastCleanupEpoch := by
      rw [markRequest_eq, markRequest_eq]
      exact hbooks''
    simp only
    generalize (sqliteRuntime settings jwtDecode).markRequest clock key "WORKER_REQUEST_REPLAYED" q
      = marked at hanswer hmarked hbooks ⊢
    generalize (sqliteRuntime settings jwtDecode).markRequest clock key "WORKER_REQUEST_REPLAYED" q'
      = marked' at hanswer hmarked hbooks ⊢
    rw [hanswer]
    cases marked'.1 with
    | error reason => exact ⟨hmarked, hbooks⟩
    | ok _ =>
      have hclaimed := hmarked.claimNext_both clock.lease claims.workerId
        settings.attributes.leaseTtlSeconds leaseToken
      exact ⟨hclaimed.congr ⟨rfl, rfl, rfl⟩ ⟨rfl, rfl, rfl⟩, hbooks⟩

/-! ### Submissions of another tenant -/

/-- The results of another tenant's submission, if it got as far as the result store. -/
theorem ingest_left (h : Alike me N now s s') {result : ByocToolResultEnvelope}
    (htenant : result.tenantId ≠ me) (hkey : strip result.idempotencyKey ∉ N.keys)
    (hpayload : ∀ row ∈ s.results.payloads.get? result.jobId, row.tenantId ≠ me) (t : Epoch) :
    Alike me N now { s with results := (s.results.ingest t result).2 } s' := by
  have hwritten := (SQLiteByocResultStore.ingest_spec t result s.results).2
  have hkeys : ∀ k ∈ N.keys, (s.results.ingest t result).2.idempotency.get? k =
      s.results.idempotency.get? k := by
    intro k hk
    rw [hwritten.keys]
    split
    · rw [Dict.get?_setDefault, if_neg]
      rintro rfl
      exact hkey hk
    · rfl
  refine h.withResults _ s'.results ?_ ?_ ?_ (hwritten.strategy.trans h.strategy)
  · rw [SQLiteByocResultStore.tenantPayloads_written_of_ne hwritten htenant hpayload, h.payloads]
  · intro k hk row hrow
    rw [hkeys k hk] at hrow
    exact h.left.keys k hk row hrow
  · exact fun k hk ↦ (hkeys k hk).trans (h.keys k hk)

/-- The sweep of a lease check made for another tenant. -/
theorem sweep_left (h : Alike me N now s s') {t : Epoch}
    (hnone : SQLiteByocJobQueueStore.NoneExpired me t s.jobs.rows) :
    Alike me N now { s with jobs := (s.jobs.requeueExpiredLeases t none).2 } s' :=
  h.withJobs _ s'.jobs (SQLiteByocJobQueueStore.inv_requeueExpiredLeases h.left.inv t none)
    h.right.inv ((SQLiteByocJobQueueStore.tenantRows_requeueExpiredLeases_of_noneExpired none
      hnone).trans h.jobs)

/-- The lease a submission holds at the lookup, and what the lookup returns of it. -/
theorem lookup_held {result : ByocToolResultEnvelope} {job : ByocToolJobEnvelope}
    (h : ((sqliteRuntime settings jwtDecode).lookup clock result s.jobs).1 = some job) :
    ((sqliteRuntime settings jwtDecode).lookup clock result s.jobs).2 = s.jobs ∧
      ∃ r ∈ s.jobs.rows.get? result.jobId,
        (SQLiteByocJobQueueStore.view r).HeldBy clock.lease result.leaseToken ∧
        job.toJobSpec = r.toJobSpec := by
  have hlookup : (sqliteRuntime settings jwtDecode).lookup clock result s.jobs =
      s.jobs.getLeasedJob clock.lease result.jobId result.leaseToken := rfl
  rw [hlookup] at h ⊢
  rcases SQLiteByocJobQueueStore.getLeasedJob_cases clock.lease result.jobId result.leaseToken
    s.jobs with hsame | ⟨-, hswept⟩ | ⟨r, hr, hheld, hsome⟩
  · rw [hsame] at h
    exact nomatch h
  · rw [hswept] at h
    exact nomatch h
  · rw [hsome] at h ⊢
    exact ⟨rfl, r, hr, hheld, by rw [← Option.some.inj h]; rfl⟩

theorem lookup_left (h : Alike me N now s s') {sub : Submission}
    (hapart : SubmitApart (sqliteRuntime settings jwtDecode) me N clock sub s)
    (hreaches : (sqliteRuntime settings jwtDecode).ReachesLease clock sub s) :
    Alike me N now
      { s with jobs := ((sqliteRuntime settings jwtDecode).lookup clock sub.result s.jobs).2 }
      s' := by
  have hlookup : (sqliteRuntime settings jwtDecode).lookup clock sub.result s.jobs =
      s.jobs.getLeasedJob clock.lease sub.result.jobId sub.result.leaseToken := rfl
  rw [hlookup]
  rcases SQLiteByocJobQueueStore.getLeasedJob_cases clock.lease sub.result.jobId
    sub.result.leaseToken s.jobs with hsame | ⟨⟨r, hr, hexp⟩, hswept⟩ | ⟨r, -, -, hsome⟩
  · rw [hsame]
    exact h
  · rw [hswept]
    exact h.sweep_left (hapart.lookup hreaches r hr hexp)
  · rw [hsome]
    exact h

/-- From the retention pass on. -/
theorem submitCase_left (h : Alike me N now s s') {sub : Submission} (htenant : sub.tenantId ≠ me)
    (hapart : SubmitApart (sqliteRuntime settings jwtDecode) me N clock sub s)
    {answer : Except String ByocResultIngestOutcome} {jobs : SQLiteByocJobQueueStore}
    {results : SQLiteByocResultStore}
    (hcase : TenantByocConnectorRuntime.SubmitCase (sqliteRuntime settings jwtDecode) clock sub s
      answer jobs results) :
    Alike me N now { s with jobs := jobs, results := results } s' := by
  cases hcase with
  | raised => exact h
  | duplicate => exact h
  | unleased hreaches => exact h.lookup_left hapart hreaches
  | mismatched hreaches => exact h.lookup_left hapart hreaches
  | late hreaches hjob hartifact hlate =>
    obtain ⟨hsame, r, hr, hheld, hspec⟩ := lookup_held hjob
    rw [hsame] at hlate ⊢
    rw [hspec] at hartifact
    rcases SQLiteByocJobQueueStore.completeClaim_cases clock.complete sub.result.jobId
      sub.result.leaseToken s.jobs with hclose | ⟨⟨r', hr', hexp⟩, hclose⟩ | ⟨r', -, -, hclose⟩
    · have hjobs : ((sqliteRuntime settings jwtDecode).close clock sub.result s.jobs).2 = s.jobs :=
        congrArg Prod.snd hclose
      rw [hjobs]
      exact h
    · have hjobs : ((sqliteRuntime settings jwtDecode).close clock sub.result s.jobs).2 =
          (s.jobs.requeueExpiredLeases clock.complete none).2 := congrArg Prod.snd hclose
      obtain rfl := Option.some.inj (hr.symm.trans hr')
      rw [hjobs]
      exact h.sweep_left (hapart.late hreaches r hr hheld hartifact hexp)
    · exact nomatch hlate.symm.trans (congrArg Prod.fst hclose)
  | closed hreaches hjob hartifact hclosed =>
    obtain ⟨hsame, r, hr, hheld, hspec⟩ := lookup_held hjob
    rw [hsame] at hclosed ⊢
    rw [hspec] at hartifact
    rcases SQLiteByocJobQueueStore.completeClaim_cases clock.complete sub.result.jobId
      sub.result.leaseToken s.jobs with hclose | ⟨-, hclose⟩ | ⟨r', hr', hheld', hclose⟩
    · exact nomatch hclosed.symm.trans (congrArg Prod.fst hclose)
    · exact nomatch hclosed.symm.trans (congrArg Prod.fst hclose)
    · have hjobs : ((sqliteRuntime settings jwtDecode).close clock sub.result s.jobs).2 =
          s.jobs.commit 1 (s.jobs.rows.updateComplete clock.complete sub.result.jobId) :=
        congrArg Prod.snd hclose
      obtain rfl := Option.some.inj (hr.symm.trans hr')
      obtain ⟨hother, hkey, hpayload⟩ := hapart.closed hreaches r hr hheld hartifact hheld'
      have hresult : sub.result.tenantId ≠ me := hreaches.2.1 ▸ htenant
      rw [hjobs]
      have hingested := h.ingest_left hresult hkey hpayload clock.ingest
      refine hingested.withJobs _ s'.jobs ?_ h.right.inv ?_
      · refine SQLiteByocJobQueueStore.inv_modify h.left.inv ?_ 1
        intro r
        rfl
      · rw [SQLiteByocJobQueueStore.commit_rows, JobTable.updateComplete,
          SQLiteByocJobQueueStore.tenantRows_modify_of_ne, h.jobs]
        · intro r
          rfl
        · intro r' hr'
          rw [← Option.some.inj (hr.symm.trans hr')]
          exact hother

/-- The checks on a request of another tenant. -/
theorem authenticate_left (h : Alike me N now s s') {sub : Submission}
    (hkey : ∀ key ∈ (sqliteRuntime settings jwtDecode).requestKey ⟨clock, .submit sub⟩,
      key ∉ N.requests) (hnow : now ≤ later) (hclock : clock.mark ≤ later) :
    Alike me N later ((sqliteRuntime settings jwtDecode).authenticate clock sub s).2 s' := by
  rw [TenantByocConnectorRuntime.authenticate_eq]
  simp only [TenantByocConnectorRuntime.requestKey] at hkey
  cases hrequest : (sqliteRuntime settings jwtDecode).submitRequest clock sub with
  | error reason => exact h.mono hnow
  | ok request =>
    rw [hrequest] at hkey
    exact h.mark_left (hkey _ rfl) hnow hclock request.2

/-- **A submission of another tenant that keeps away goes unnoticed.** -/
theorem submit_left (h : Alike me N now s s') {sub : Submission} (htenant : sub.tenantId ≠ me)
    (hstrip : strip sub.tenantId ≠ me)
    (hkey : ∀ key ∈ (sqliteRuntime settings jwtDecode).requestKey ⟨clock, .submit sub⟩,
      key ∉ N.requests)
    (hapart : SubmitApart (sqliteRuntime settings jwtDecode) me N clock sub
      ((sqliteRuntime settings jwtDecode).cleaned clock sub.tenantId s))
    (hnow : now ≤ later) (hclock : clock.latest ≤ later) :
    Alike me N later ((sqliteRuntime settings jwtDecode).submit clock sub s).2 s' := by
  have hcleaned : Alike me N later
      ((sqliteRuntime settings jwtDecode).cleaned clock sub.tenantId s) s' :=
    h.cleaned_left hstrip hnow ((le_max_left _ _).trans hclock)
  have hcase := hcleaned.submitCase_left htenant hapart
    ((sqliteRuntime settings jwtDecode).submit_cases clock sub s)
  have hmarked : Alike me N later ((sqliteRuntime settings jwtDecode).authenticate clock sub
      ((sqliteRuntime settings jwtDecode).cleaned clock sub.tenantId s)).2 s' :=
    hcleaned.authenticate_left hkey le_rfl ((le_max_right _ _).trans hclock)
  have hreplay := (sqliteRuntime settings jwtDecode).replay_submit clock sub s
  refine ⟨⟨hcase.left.inv, hcase.left.keys⟩, h.right, hcase.jobs, hcase.payloads, hcase.keys,
    fun k hk ↦ ?_, hcase.strategy⟩
  rw [hreplay]
  exact hmarked.requests k hk

/-! ### Submissions of the tenant itself -/

theorem ownJob_cleaned {jobId : String} (h : ∀ r ∈ s.jobs.rows.get? jobId, r.tenantId = me)
    (hinv : s.jobs.Inv) (clock : RuntimeClock) (u : String) :
    ∀ r ∈ ((sqliteRuntime settings jwtDecode).cleaned clock u s).jobs.rows.get? jobId,
      r.tenantId = me := by
  obtain ⟨hjobs, -, -⟩ := stores_runCleanup settings jwtDecode clock u false s
  intro r hr
  rw [TenantByocConnectorRuntime.cleaned, hjobs] at hr
  split at hr
  · rcases SQLiteByocJobQueueStore.get?_cleanupRetention hinv clock.jobRetention u
      (sqliteRuntime settings jwtDecode).jobLimits jobId with hsame | ⟨hnone, -⟩
    · rw [hsame] at hr
      exact h r hr
    · rw [hnone] at hr
      cases hr
  · exact h r hr

theorem submitOwn_cleaned {result : ByocToolResultEnvelope} (h : SubmitOwn me result s)
    (hinv : s.jobs.Inv) (clock : RuntimeClock) (u : String) :
    SubmitOwn me result ((sqliteRuntime settings jwtDecode).cleaned clock u s) := by
  refine ⟨ownJob_cleaned h.job hinv clock u, ?_⟩
  obtain ⟨-, hresults, -⟩ := stores_runCleanup settings jwtDecode clock u false s
  intro row hrow
  rw [TenantByocConnectorRuntime.cleaned, hresults] at hrow
  split at hrow
  · rcases SQLiteByocResultStore.get?_payloads_cleanupRetention clock.resultRetention u
      (sqliteRuntime settings jwtDecode).resultLimits s.results result.jobId with
      hsame | ⟨hnone, -⟩
    · rw [hsame] at hrow
      exact h.payload row hrow
    · rw [hnone] at hrow
      cases hrow
  · exact h.payload row hrow

theorem ingest_both (h : Alike me N now s s') {result : ByocToolResultEnvelope}
    (htenant : result.tenantId = me)
    (hpayload : ∀ row ∈ s.results.payloads.get? result.jobId, row.tenantId = me)
    (hpayload' : ∀ row ∈ s'.results.payloads.get? result.jobId, row.tenantId = me)
    (hkey : strip result.idempotencyKey ≠ "" → strip result.idempotencyKey ∈ N.keys) (t : Epoch) :
    (s.results.ingest t result).1 = (s'.results.ingest t result).1 ∧
      Alike me N now { s with results := (s.results.ingest t result).2 }
        { s' with results := (s'.results.ingest t result).2 } := by
  obtain ⟨hanswer, hwritten⟩ := SQLiteByocResultStore.ingest_spec t result s.results
  obtain ⟨hanswer', hwritten'⟩ := SQLiteByocResultStore.ingest_spec t result s'.results
  have hsame : (s.results.ingest t result).1 = (s'.results.ingest t result).1 := by
    rw [hanswer, hanswer', h.strategy, SQLiteByocResultStore.get?_eq_of_tenantPayloads_eq
      h.payloads hpayload hpayload']
    by_cases hblank : strip result.idempotencyKey = ""
    · simp only [SQLiteByocResultStore.ingestAnswer, if_pos hblank]
    · have hfiled : strip result.idempotencyKey ∈ s.results.idempotency.keys ↔
          strip result.idempotencyKey ∈ s'.results.idempotency.keys := by
        rw [Dict.mem_keys_iff, Dict.mem_keys_iff, h.keys _ (hkey hblank)]
      simp only [SQLiteByocResultStore.ingestAnswer, hfiled]
  have hkeys : ∀ k ∈ N.keys, (s.results.ingest t result).2.idempotency.get? k =
      (s'.results.ingest t result).2.idempotency.get? k := by
    intro k hk
    rw [hwritten.keys, hwritten'.keys, hsame]
    split
    · rw [Dict.get?_setDefault, Dict.get?_setDefault, h.keys k hk]
    · exact h.keys k hk
  refine ⟨hsame, h.withResults _ _ ?_ ?_ hkeys ?_⟩
  · rw [SQLiteByocResultStore.tenantPayloads_written hwritten htenant hpayload,
      SQLiteByocResultStore.tenantPayloads_written hwritten' htenant hpayload', hsame,
      h.payloads]
  · intro k hk row hrow
    rw [hwritten.keys] at hrow
    split at hrow
    · rw [Dict.get?_setDefault] at hrow
      split at hrow
      · cases hold : s.results.idempotency.get? k with
        | none =>
          rw [hold] at hrow
          rw [← Option.some.inj hrow]
          exact htenant
        | some old =>
          rw [hold] at hrow
          exact h.left.keys k hk row (hold.trans hrow)
      · exact h.left.keys k hk row hrow
    · exact h.left.keys k hk row hrow
  · rw [hwritten.strategy, hwritten'.strategy, h.strategy]

theorem getLeasedJob_some {jobs : SQLiteByocJobQueueStore} {t : Epoch} {jobId token : String}
    {job : ByocToolJobEnvelope} (h : (jobs.getLeasedJob t jobId token).1 = some job) :
    (jobs.getLeasedJob t jobId token).2 = jobs := by
  rcases SQLiteByocJobQueueStore.getLeasedJob_cases t jobId token jobs with
    hsame | ⟨-, hswept⟩ | ⟨r, -, -, hsome⟩
  · rw [hsame]
  · rw [hswept] at h
    exact nomatch h
  · rw [hsome]

theorem ingestLeased_both (h : Alike me N now s s') {result : ByocToolResultEnvelope}
    (htenant : result.tenantId = me) (hown : SubmitOwn me result s)
    (hown' : SubmitOwn me result s')
    (hkey : strip result.idempotencyKey ≠ "" → strip result.idempotencyKey ∈ N.keys)
    (clock : RuntimeClock) (u : String) :
    ((sqliteRuntime settings jwtDecode).ingestLeased clock u result s).1 =
        ((sqliteRuntime settings jwtDecode).ingestLeased clock u result s').1 ∧
      Alike me N now ((sqliteRuntime settings jwtDecode).ingestLeased clock u result s).2
        ((sqliteRuntime settings jwtDecode).ingestLeased clock u result s').2 := by
  have hrow := SQLiteByocJobQueueStore.get?_eq_of_tenantRows_eq h.jobs hown.job hown'.job
  obtain ⟨hjob, hjobs⟩ := SQLiteByocJobQueueStore.getLeasedJob_congr h.jobs hrow clock.lease
    result.leaseToken
  have hlooked := h.withJobs _ _
    (SQLiteByocJobQueueStore.inv_getLeasedJob h.left.inv clock.lease result.jobId result.leaseToken)
    (SQLiteByocJobQueueStore.inv_getLeasedJob h.right.inv clock.lease result.jobId
      result.leaseToken) hjobs
  simp only [TenantByocConnectorRuntime.ingestLeased, sqliteRuntime, sqliteByocJobQueueStore,
    sqliteByocResultStore]
  rw [hjob]
  cases hleased : (s'.jobs.getLeasedJob clock.lease result.jobId result.leaseToken).1 with
  | none => exact ⟨rfl, hlooked.congr ⟨rfl, rfl, rfl⟩ ⟨rfl, rfl, rfl⟩⟩
  | some job =>
    have hsame := getLeasedJob_some (hjob.trans hleased)
    have hsame' := getLeasedJob_some hleased
    obtain ⟨hclosed, hclosedJobs⟩ := SQLiteByocJobQueueStore.completeClaim_congr h.jobs hrow
      clock.complete result.leaseToken
    have hcompleted := h.withJobs _ _
      (SQLiteByocJobQueueStore.inv_completeClaim h.left.inv clock.complete result.jobId
        result.leaseToken)
      (SQLiteByocJobQueueStore.inv_completeClaim h.right.inv clock.complete result.jobId
        result.leaseToken) hclosedJobs
    simp only [hsame, hsame', hclosed]
    split
    · exact ⟨rfl, h.congr ⟨rfl, rfl, rfl⟩ ⟨rfl, rfl, rfl⟩⟩
    · split
      · obtain ⟨hanswer, hingested⟩ := hcompleted.ingest_both htenant hown.payload hown'.payload
          hkey clock.ingest
        exact ⟨congrArg Except.ok hanswer, hingested.congr ⟨rfl, rfl, rfl⟩ ⟨rfl, rfl, rfl⟩⟩
      · exact ⟨rfl, hcompleted.congr ⟨rfl, rfl, rfl⟩ ⟨rfl, rfl, rfl⟩⟩

theorem ingestResultAfterAuth_both (h : Alike me N now s s') {result : ByocToolResultEnvelope}
    (hown : SubmitOwn me result s) (hown' : SubmitOwn me result s')
    (hkey : strip result.idempotencyKey ≠ "" → strip result.idempotencyKey ∈ N.keys)
    (clock : RuntimeClock) :
    ((sqliteRuntime settings jwtDecode).ingestResultAfterAuth clock me result s).1 =
        ((sqliteRuntime settings jwtDecode).ingestResultAfterAuth clock me result s').1 ∧
      Alike me N now ((sqliteRuntime settings jwtDecode).ingestResultAfterAuth clock me result s).2
        ((sqliteRuntime settings jwtDecode).ingestResultAfterAuth clock me result s').2 := by
  have hcounted : Alike me N now { s with metrics := s.metrics.incrementTenantSubmitAttempt me }
      { s' with metrics := s'.metrics.incrementTenantSubmitAttempt me } :=
    h.congr ⟨rfl, rfl, rfl⟩ ⟨rfl, rfl, rfl⟩
  have hknown : (sqliteRuntime settings jwtDecode).KnownKey result s.results ↔
      (sqliteRuntime settings jwtDecode).KnownKey result s'.results := by
    refine and_congr_right fun hnonblank ↦ ?_
    simp only [sqliteRuntime, sqliteByocResultStore, SQLiteByocResultStore.hasIdempotencyKey,
      strip_strip, Bool.and_eq_true, decide_eq_true_eq, Dict.mem_keys_iff, h.keys _ (hkey hnonblank)]
  simp only [TenantByocConnectorRuntime.KnownKey] at hknown
  simp only [TenantByocConnectorRuntime.ingestResultAfterAuth, hknown]
  split
  · exact ⟨rfl, h.congr ⟨rfl, rfl, rfl⟩ ⟨rfl, rfl, rfl⟩⟩
  · rename_i htenant
    split
    · exact ⟨rfl, h.congr ⟨rfl, rfl, rfl⟩ ⟨rfl, rfl, rfl⟩⟩
    · exact hcounted.ingestLeased_both (not_not.mp htenant) ⟨hown.job, hown.payload⟩
        ⟨hown'.job, hown'.payload⟩ hkey clock me

/-- **The tenant's own submissions are answered alike.** -/
theorem submit_both (h : Alike me N now s s') (hbooks : s.lastCleanupEpoch = s'.lastCleanupEpoch)
    {sub : Submission} (htenant : sub.tenantId = me)
    (hrequest : ∀ key ∈ (sqliteRuntime settings jwtDecode).requestKey ⟨clock, .submit sub⟩,
      key ∈ N.requests)
    (hown : SubmitOwn me sub.result s) (hown' : SubmitOwn me sub.result s')
    (hkey : strip sub.result.idempotencyKey ≠ "" → strip sub.result.idempotencyKey ∈ N.keys)
    (hnow : now ≤ clock.mark) (hclock : clock.latest ≤ later) :
    let after := fun s ↦ (sqliteRuntime settings jwtDecode).submit clock sub s
    (after s).1 = (after s').1 ∧ Alike me N later (after s).2 (after s').2 ∧
      (after s).2.lastCleanupEpoch = (after s').2.lastCleanupEpoch := by
  have hmark : clock.mark ≤ later := (le_max_right _ _).trans hclock
  obtain ⟨hcleaned, hbooks'⟩ : Alike me N now
        ((sqliteRuntime settings jwtDecode).cleaned clock me s)
        ((sqliteRuntime settings jwtDecode).cleaned clock me s') ∧ _ :=
    h.cleaned_both hbooks clock me
  have hown1 : SubmitOwn me sub.result ((sqliteRuntime settings jwtDecode).cleaned clock me s) :=
    submitOwn_cleaned hown h.left.inv clock me
  have hown2 : SubmitOwn me sub.result ((sqliteRuntime settings jwtDecode).cleaned clock me s') :=
    submitOwn_cleaned hown' h.right.inv clock me
  simp only [TenantByocConnectorRuntime.submit_eq, htenant,
    TenantByocConnectorRuntime.authenticate_eq]
  simp only [TenantByocConnectorRuntime.requestKey] at hrequest
  generalize (sqliteRuntime settings jwtDecode).cleaned clock me s = q at hcleaned hbooks' hown1
  generalize (sqliteRuntime settings jwtDecode).cleaned clock me s' = q' at hcleaned hbooks' hown2
  cases hreq : (sqliteRuntime settings jwtDecode).submitRequest clock sub with
  | error reason => exact ⟨rfl, hcleaned.mono (hnow.trans hmark), hbooks'⟩
  | ok request =>
    obtain ⟨key, reason⟩ := request
    rw [hreq] at hrequest
    obtain ⟨hanswer, hmarked⟩ : ((sqliteRuntime settings jwtDecode).markRequest clock key reason
          q).1 = ((sqliteRuntime settings jwtDecode).markRequest clock key reason q').1 ∧
        Alike me N later _ _ := hcleaned.mark_both (hrequest _ rfl) hnow hmark reason
    have hframe : ∀ q : SqliteState, SubmitOwn me sub.result q →
        SubmitOwn me sub.result ((sqliteRuntime settings jwtDecode).markRequest clock key reason
          q).2 ∧ ((sqliteRuntime settings jwtDecode).markRequest clock key reason
          q).2.lastCleanupEpoch = q.lastCleanupEpoch := by
      intro q hq
      rw [markRequest_eq]
      exact ⟨⟨hq.job, hq.payload⟩, rfl⟩
    have hm := hframe q hown1
    have hm' := hframe q' hown2
    simp only
    generalize (sqliteRuntime settings jwtDecode).markRequest clock key reason q = m at *
    generalize (sqliteRuntime settings jwtDecode).markRequest clock key reason q' = m' at *
    obtain ⟨a, m⟩ := m
    obtain ⟨a', m'⟩ := m'
    obtain rfl : a = a' := hanswer
    cases a with
    | error reason => exact ⟨rfl, hmarked, hm.2.trans (hbooks'.trans hm'.2.symm)⟩
    | ok _ =>
      obtain ⟨hsame, hafter⟩ : ((sqliteRuntime settings jwtDecode).ingestResultAfterAuth clock me
          sub.result m).1 = _ ∧ Alike me N later _ _ :=
        hmarked.ingestResultAfterAuth_both hm.1 hm'.1 hkey clock
      refine ⟨hsame, hafter, ?_⟩
      have hf := fun q ↦ ((sqliteRuntime settings jwtDecode).ingestResultAfterAuth_frame clock me
        sub.result q).2
      exact (hf m).trans ((hm.2.trans (hbooks'.trans hm'.2.symm)).trans (hf m').symm)

/-! ### Whole calls -/

theorem strip_executeTenant (tenantId : String) :
    strip (executeTenant tenantId) = executeTenant tenantId := by
  simp only [executeTenant]
  generalize (if tenantId = "" then "default" else tenantId) = named
  split
  · decide
  · exact strip_strip named

theorem executeEnqueue_left (h : Alike me N now s s') {call : ToolCallContext}
    (hu : executeTenant call.tenantId ≠ me) (hnow : now ≤ later)
    (hclock : clock.replayRetention ≤ later) (admitted : Bool) (descriptor : ToolDescriptor)
    (jobId : String) :
    Alike me N later ((sqliteRuntime settings jwtDecode).executeEnqueue clock admitted call
      descriptor jobId s).2 s' := by
  rw [TenantByocConnectorRuntime.executeEnqueue]
  split
  · have hcleaned : Alike me N later ((sqliteRuntime settings jwtDecode).cleaned clock
        (executeTenant call.tenantId) s) s' :=
      h.cleaned_left (by rwa [strip_executeTenant]) hnow hclock
    have hjob : (jobOfCall call descriptor jobId).tenantId ≠ me := by
      simpa only [jobOfCall] using hu
    have hqueued := hcleaned.enqueue_left hjob
    exact hqueued.congr ⟨rfl, rfl, rfl⟩ ⟨rfl, rfl, rfl⟩
  · exact h.mono hnow

theorem executeEnqueue_both (h : Alike me N now s s')
    (hbooks : s.lastCleanupEpoch = s'.lastCleanupEpoch) {jobId : String}
    (hown : ∀ r ∈ s.jobs.rows.get? jobId, r.tenantId = me)
    (hown' : ∀ r ∈ s'.jobs.rows.get? jobId, r.tenantId = me) (clock : RuntimeClock)
    (admitted : Bool) (call : ToolCallContext) (descriptor : ToolDescriptor) :
    let after := fun s ↦ ((sqliteRuntime settings jwtDecode).executeEnqueue clock admitted call
      descriptor jobId s).2
    Alike me N now (after s) (after s') ∧
      (after s).lastCleanupEpoch = (after s').lastCleanupEpoch := by
  simp only [TenantByocConnectorRuntime.executeEnqueue]
  split
  · obtain ⟨hcleaned, hbooks'⟩ : Alike me N now
          ((sqliteRuntime settings jwtDecode).cleaned clock (executeTenant call.tenantId) s)
          ((sqliteRuntime settings jwtDecode).cleaned clock (executeTenant call.tenantId) s') ∧ _ :=
      h.cleaned_both hbooks clock (executeTenant call.tenantId)
    have hjob : ∀ r ∈ ((sqliteRuntime settings jwtDecode).cleaned clock
        (executeTenant call.tenantId) s).jobs.rows.get? (jobOfCall call descriptor jobId).jobId,
        r.tenantId = me := ownJob_cleaned hown h.left.inv clock _
    have hjob' : ∀ r ∈ ((sqliteRuntime settings jwtDecode).cleaned clock
        (executeTenant call.tenantId) s').jobs.rows.get? (jobOfCall call descriptor jobId).jobId,
        r.tenantId = me := ownJob_cleaned hown' h.right.inv clock _
    have hqueued := hcleaned.enqueue_both hjob hjob'
    exact ⟨hqueued.congr ⟨rfl, rfl, rfl⟩ ⟨rfl, rfl, rfl⟩, hbooks'⟩
  · exact ⟨h, hbooks⟩

/-- A call of another tenant, in both runs. -/
theorem step_other (h : Alike me N now s s') {c : RuntimeCall}
    (hapart : OtherApart (sqliteRuntime settings jwtDecode) me N c s)
    (hapart' : OtherApart (sqliteRuntime settings jwtDecode) me N c s') (hnow : now ≤ later)
    (hclock : c.clock.latest ≤ later) :
    Alike me N later ((sqliteRuntime settings jwtDecode).step s c).2
      ((sqliteRuntime settings jwtDecode).step s' c).2 := by
  obtain ⟨clock, op⟩ := c
  obtain ⟨hkey, hop⟩ := hapart
  obtain ⟨-, hop'⟩ := hapart'
  have hretention : clock.replayRetention ≤ later := (le_max_left _ _).trans hclock
  cases op with
  | executeEnqueue admitted call descriptor jobId =>
    exact h.both_of_left (f := fun s ↦ ((sqliteRuntime settings jwtDecode).step s ⟨clock, _⟩).2) hnow
      (fun h hnow ↦ h.executeEnqueue_left hop hnow hretention admitted descriptor jobId)
      (fun h hnow ↦ h.executeEnqueue_left hop hnow hretention admitted descriptor jobId)
  | executePoll u jobId => exact (h.mono hnow).executePoll clock u jobId
  | claimNextJob u workerToken requestNonce leaseToken =>
    exact h.claimNextJob_other hop.1 hop.2.1 hop.2.2 hkey hnow hclock
  | submit sub =>
    exact h.both_of_left (f := fun s ↦ ((sqliteRuntime settings jwtDecode).step s ⟨clock, _⟩).2) hnow
      (fun h hnow ↦ h.submit_left hop.1 hop.2.1 hkey hop.2.2 hnow hclock)
      (fun h hnow ↦ h.submit_left hop'.1 hop'.2.1 hkey hop'.2.2 hnow hclock)
  | requestCancellation callId =>
    simp only [TenantByocConnectorRuntime.step]
    exact (h.mono hnow).requestCancellation clock callId
  | replayDeadLetterJob u jobId =>
    simp only [TenantByocConnectorRuntime.step]
    exact (h.mono hnow).replayDeadLetterJob u jobId
  | replayDeadLetterJobs u jobIds limit =>
    exact h.both_of_left (f := fun s ↦ ((sqliteRuntime settings jwtDecode).step s ⟨clock, _⟩).2) hnow
      (fun h hnow ↦ (h.mono hnow).replayDeadLetterJobs_left hop jobIds limit)
      (fun h hnow ↦ (h.mono hnow).replayDeadLetterJobs_left hop' jobIds limit)
  | cleanupRetention u force =>
    exact h.both_of_left (f := fun s ↦ ((sqliteRuntime settings jwtDecode).step s ⟨clock, _⟩).2) hnow
      (fun h hnow ↦ h.runCleanup_left hop hnow hretention force)
      (fun h hnow ↦ h.runCleanup_left hop' hnow hretention force)

/-- A replay is no cleanup. -/
theorem lastCleanupEpoch_replayDeadLetterJob {σ τ ρ : Type}
    (rt : TenantByocConnectorRuntime σ τ ρ) (tenantId jobId : String) (s : RuntimeState σ τ ρ) :
    (rt.replayDeadLetterJob tenantId jobId s).2.lastCleanupEpoch = s.lastCleanupEpoch := rfl

/-- A call of the tenant itself: the states stay alike. -/
theorem step_own (h : Alike me N now s s') (hbooks : s.lastCleanupEpoch = s'.lastCleanupEpoch)
    {c : RuntimeCall} (hown : OwnRespected (sqliteRuntime settings jwtDecode) me N now c s s')
    (hnow : now ≤ later) (hclock : c.clock.latest ≤ later) :
    let after := fun s ↦ ((sqliteRuntime settings jwtDecode).step s c).2
    Alike me N later (after s) (after s') ∧
      (after s).lastCleanupEpoch = (after s').lastCleanupEpoch := by
  obtain ⟨clock, op⟩ := c
  obtain ⟨hkey, hop⟩ := hown
  cases op with
  | executeEnqueue admitted call descriptor jobId =>
    obtain ⟨hafter, hbooks'⟩ := h.executeEnqueue_both hbooks hop.1 hop.2 clock admitted call
      descriptor
    exact ⟨hafter.mono hnow, hbooks'⟩
  | executePoll u jobId =>
    simp only [TenantByocConnectorRuntime.step]
    exact ⟨(h.mono hnow).executePoll clock u jobId, hbooks⟩
  | claimNextJob u workerToken requestNonce leaseToken =>
    obtain ⟨rfl, hmark⟩ := hop
    exact h.claimNextJob_both hbooks hkey hmark hclock
  | submit sub =>
    obtain ⟨htenant, hmark, hs, hs', hname⟩ := hop
    exact (h.submit_both hbooks htenant hkey hs hs' hname hmark hclock).2
  | requestCancellation callId =>
    simp only [TenantByocConnectorRuntime.step]
    refine ⟨(h.mono hnow).requestCancellation clock callId, ?_⟩
    simp only [TenantByocConnectorRuntime.requestCancellation]
    split <;> exact hbooks
  | replayDeadLetterJob u jobId =>
    simp only [TenantByocConnectorRuntime.step, lastCleanupEpoch_replayDeadLetterJob]
    exact ⟨(h.mono hnow).replayDeadLetterJob u jobId, hbooks⟩
  | replayDeadLetterJobs u jobIds limit =>
    exact ⟨(h.mono hnow).replayDeadLetterJobs_both u jobIds limit, hbooks⟩
  | cleanupRetention u force =>
    obtain ⟨hafter, hbooks'⟩ := h.runCleanup_both hbooks clock u force
    exact ⟨hafter.mono hnow, hbooks'⟩

/-- And if it is a submission, it has the same outcome. -/
theorem submission_step_own (h : Alike me N now s s')
    (hbooks : s.lastCleanupEpoch = s'.lastCleanupEpoch) {c : RuntimeCall}
    (hown : OwnRespected (sqliteRuntime settings jwtDecode) me N now c s s')
    (hclock : c.clock.latest ≤ later) :
    ((sqliteRuntime settings jwtDecode).step s c).1.submission =
      ((sqliteRuntime settings jwtDecode).step s' c).1.submission := by
  obtain ⟨clock, op⟩ := c
  obtain ⟨hkey, hop⟩ := hown
  cases op with
  | submit sub =>
    obtain ⟨htenant, hmark, hs, hs', hname⟩ := hop
    exact congrArg some (h.submit_both hbooks htenant hkey hs hs' hname hmark hclock).1
  | _ => simp only [TenantByocConnectorRuntime.step, RuntimeReply.submission]

end Alike

/-! ## Deployments -/

section Deployments

variable {settings : ByocRuntimeSettings}
  {jwtDecode : Epoch → String → String → Except JwtError JwtPayload} {me : String} {N : Names}

/-- **A later call does not let the tenant notice the difference** between the two deployments. -/
def Undisturbed (rt : SqliteRuntime) (me : String) (N : Names) (p : Deployment × Deployment)
    (c : TenantCall) : Prop :=
  if c.tenantId = me then
    OwnRespected rt me N p.1.now c.call (p.1.stateOf me) (p.2.stateOf me)
  else
    OtherApart rt me N c.call (p.1.stateOf c.tenantId) ∧
      OtherApart rt me N c.call (p.2.stateOf c.tenantId)

/-- The tenant cannot tell two deployments apart. -/
def Deployment.Alike (me : String) (N : Names) (d d' : Deployment) : Prop :=
  Byoc.Alike me N d.now (d.stateOf me) (d'.stateOf me) ∧ (d.books me).1 = (d'.books me).1

theorem Deployment.alike_step {d d' : Deployment} {c : TenantCall}
    (hok : Undisturbed (sqliteRuntime settings jwtDecode) me N (d, d') c)
    (h : Deployment.Alike me N d d') :
    (d.stepSeenBy (sqliteRuntime settings jwtDecode) me c).1 =
        (d'.stepSeenBy (sqliteRuntime settings jwtDecode) me c).1 ∧
      Deployment.Alike me N (d.stepSeenBy (sqliteRuntime settings jwtDecode) me c).2
        (d'.stepSeenBy (sqliteRuntime settings jwtDecode) me c).2 := by
  obtain ⟨hstores, hbooks⟩ := h
  rw [Undisturbed] at hok
  have hnow : d.now ≤ max d.now c.call.clock.latest := le_max_left _ _
  have hclock : c.call.clock.latest ≤ max d.now c.call.clock.latest := le_max_right _ _
  split at hok
  · rename_i hme
    have houtcome := hstores.submission_step_own hbooks hok hclock
    obtain ⟨hafter, hbooks'⟩ := hstores.step_own hbooks hok hnow hclock
    rw [stepSeenBy, stepSeenBy, if_pos hme, if_pos hme, step, step, hme]
    refine ⟨houtcome, hafter.congr ⟨rfl, rfl, rfl⟩ ⟨rfl, rfl, rfl⟩, ?_⟩
    simp only [Function.update_self]
    exact hbooks'
  · rename_i hme
    have hother : Byoc.Alike me N d.now (d.stateOf c.tenantId) (d'.stateOf c.tenantId) :=
      hstores.congr ⟨rfl, rfl, rfl⟩ ⟨rfl, rfl, rfl⟩
    have hafter := hother.step_other hok.1 hok.2 hnow hclock
    rw [stepSeenBy, stepSeenBy, if_neg hme, if_neg hme, step, step]
    refine ⟨rfl, hafter.congr ⟨rfl, rfl, rfl⟩ ⟨rfl, rfl, rfl⟩, ?_⟩
    simp only [Function.update_of_ne (Ne.symm hme)]
    exact hbooks

/-- Every call keeps the primary keys of the job table. -/
theorem Deployment.inv_run {d : Deployment} (h : d.jobs.Inv) (calls : List TenantCall) :
    (Run.exec (Deployment.step (sqliteRuntime settings jwtDecode)) d calls).jobs.Inv := by
  refine Run.exec_invariant (P := fun d : Deployment ↦ d.jobs.Inv) (fun d c _ hd ↦ ?_)
    (Run.along_of_forall (fun _ _ ↦ trivial) d calls) h
  have hjobs := (sqliteRuntime settings jwtDecode).jobs_step (d.stateOf c.tenantId) c.call
  rw [Deployment.step]
  simp only [hjobs]
  exact Run.exec_invariant (fun jobs j _ ↦ SQLiteByocJobQueueStore.checked.inv_step jobs j)
    (Run.along_of_forall (fun _ _ ↦ trivial) _ _) hd

/-- **A submission that keeps away from a tenant**, in the state of the deployment it is made in:
what the call itself has to keep away from, and nothing in the tables that was mixed up before. -/
structure KeepsApart (rt : SqliteRuntime) (me : String) (N : Names) (clock : RuntimeClock)
    (sub : Submission) (d : Deployment) : Prop where
  call : OtherApart rt me N ⟨clock, .submit sub⟩ (d.stateOf sub.tenantId)
  /-- The tenant's keys are filed under the tenant. -/
  keys : ∀ k ∈ N.keys, ∀ row ∈ d.results.idempotency.get? k, row.tenantId = me
  /-- The payloads of its jobs are not filed under the tenant that submits. -/
  payloads : ∀ e ∈ (tenantRows me d.jobs.rows).entries, ∀ row ∈ d.results.payloads.get? e.1,
    row.tenantId ≠ strip sub.tenantId

/-- A submission that keeps away leaves the payloads of the tenant's jobs alone. -/
theorem payload_submit {clock : RuntimeClock} {sub : Submission} {s : SqliteState}
    (hinv : s.jobs.Inv)
    (hapart : OtherApart (sqliteRuntime settings jwtDecode) me N ⟨clock, .submit sub⟩ s)
    {j : String} {r : JobRow} (hr : s.jobs.rows.get? j = some r) (hme : r.tenantId = me)
    (hpayload : ∀ row ∈ s.results.payloads.get? j, row.tenantId ≠ strip sub.tenantId) :
    ((sqliteRuntime settings jwtDecode).submit clock sub s).2.results.payloads.get? j =
      s.results.payloads.get? j := by
  obtain ⟨-, -, hstrip, hsubmit⟩ := hapart
  -- The retention pass keeps the row and the payload ..
  obtain ⟨hjobs, hresults, -⟩ :=
    Alike.stores_runCleanup settings jwtDecode clock sub.tenantId false s
  have hrow : ((sqliteRuntime settings jwtDecode).cleaned clock sub.tenantId s).jobs.rows.get? j =
      some r := by
    rw [TenantByocConnectorRuntime.cleaned, hjobs]
    split
    · have hrows := SQLiteByocJobQueueStore.tenantRows_cleanupRetention_of_ne hinv hstrip
        clock.jobRetention (sqliteRuntime settings jwtDecode).jobLimits
      exact SQLiteByocJobQueueStore.get?_of_tenantRows_eq hrows.symm hr hme
    · exact hr
  have hkept : ((sqliteRuntime settings jwtDecode).cleaned clock sub.tenantId
      s).results.payloads.get? j = s.results.payloads.get? j := by
    rw [TenantByocConnectorRuntime.cleaned, hresults]
    split
    · rcases SQLiteByocResultStore.get?_payloads_cleanupRetention clock.resultRetention
        sub.tenantId (sqliteRuntime settings jwtDecode).resultLimits s.results j with
        hsame | ⟨-, row, hfiled, htenant⟩
      · exact hsame
      · exact absurd htenant (hpayload row hfiled)
    · rfl
  rw [← hkept]
  -- .. and a result that is written is one of another job.
  have hcase := (sqliteRuntime settings jwtDecode).submit_cases clock sub s
  generalize (sqliteRuntime settings jwtDecode).cleaned clock sub.tenantId s = q at *
  generalize ((sqliteRuntime settings jwtDecode).submit clock sub s).1 = answer at hcase
  generalize ((sqliteRuntime settings jwtDecode).submit clock sub s).2.jobs = jobs at hcase
  generalize ((sqliteRuntime settings jwtDecode).submit clock sub s).2.results = results at *
  cases hcase with
  | raised | duplicate | unleased | mismatched | late => rfl
  | closed hreaches hjob hartifact hclosed =>
    obtain ⟨hsame, r', hr', hheld, hspec⟩ := Alike.lookup_held hjob
    rw [hsame] at hclosed
    rw [hspec] at hartifact
    rcases SQLiteByocJobQueueStore.completeClaim_cases clock.complete sub.result.jobId
      sub.result.leaseToken q.jobs with hclose | ⟨-, hclose⟩ | ⟨r'', hr'', hheld', -⟩
    · cases hclosed.symm.trans (congrArg Prod.fst hclose)
    · cases hclosed.symm.trans (congrArg Prod.fst hclose)
    · obtain rfl := Option.some.inj (hr'.symm.trans hr'')
      obtain ⟨hother, -, -⟩ := hsubmit.closed hreaches r' hr' hheld hartifact hheld'
      have hne : j ≠ sub.result.jobId := by
        rintro rfl
        exact hother (Option.some.inj (hr'.symm.trans hrow) ▸ hme)
      have hwritten := (SQLiteByocResultStore.ingest_spec clock.ingest sub.result q.results).2
      have hpayloads : ((sqliteRuntime settings jwtDecode).resultStore.ingest clock.ingest
          sub.result q.results).2.payloads = _ := hwritten.payloads
      rw [hpayloads]
      split
      · rw [Dict.get?_set, if_neg hne]
      · rfl

end Deployments

/-- **When the submission of one tenant goes unnoticed by another one.**  In every reachable state
of a deployment: a submission that keeps away from a tenant changes neither the records nor the
payloads of its jobs, and as long as the calls that follow do not disturb it either, every
submission of the tenant has the outcome it has without that submission. -/
theorem submission_unnoticed (settings : ByocRuntimeSettings)
    (jwtDecode : Epoch → String → String → Except JwtError JwtPayload)
    (strategy : ByocResultConflictStrategy) (calls : List TenantCall) (clock : RuntimeClock)
    (sub : Submission) (me : String) (N : Names) (rest : List TenantCall) :
    let rt := sqliteRuntime settings jwtDecode
    let d := Run.exec (Deployment.step rt) (.init strategy) calls
    let after := (d.step rt ⟨sub.tenantId, clock, .submit sub⟩).2
    KeepsApart rt me N clock sub d →
    Run.Along (Run.both (Deployment.stepSeenBy rt me) (Deployment.stepSeenBy rt me))
      (Undisturbed rt me N) (after, d) rest →
    (∀ j r, d.jobs.rows.get? j = some r → r.tenantId = me →
        after.jobs.rows.get? j = some r ∧
          after.results.payloads.get? j = d.results.payloads.get? j) ∧
      Run.trace (Deployment.stepSeenBy rt me) after rest =
        Run.trace (Deployment.stepSeenBy rt me) d rest := by
  intro rt d after hapart hrest
  have hinv : d.jobs.Inv :=
    Deployment.inv_run (SQLiteByocJobQueueStore.init_inv false) calls
  have hproper : Proper me N (d.stateOf sub.tenantId) := ⟨hinv, hapart.keys⟩
  obtain ⟨hkey, htenant, hstrip, hsubmit⟩ := hapart.call
  have hstep : Alike me N after.now (rt.submit clock sub (d.stateOf sub.tenantId)).2
      (d.stateOf sub.tenantId) :=
    (Alike.refl hproper).submit_left htenant hstrip hkey hsubmit (le_max_left _ _)
      (le_max_right _ _)
  have hafter : Deployment.Alike me N after d := by
    refine ⟨hstep.congr ⟨rfl, rfl, rfl⟩ ⟨rfl, rfl, rfl⟩, ?_⟩
    simp only [after, Deployment.step, Function.update_of_ne (Ne.symm htenant)]
  refine ⟨fun j r hr hme ↦ ⟨?_, ?_⟩, ?_⟩
  · exact SQLiteByocJobQueueStore.get?_of_tenantRows_eq hstep.jobs.symm hr hme
  · refine payload_submit hinv hapart.call hr hme fun row hrow ↦ hapart.payloads (j, r) ?_ row hrow
    rw [Dict.mem_entries_iff, SQLiteByocJobQueueStore.get?_tenantRows, hr, Option.filter_some,
      if_pos (decide_eq_true hme)]
  · refine Run.trace_eq_of_simulation (R := Deployment.Alike me N) ?_ hrest hafter
    intro d d' c hok h
    exact Deployment.alike_step hok h

/-- `jwt.decode` for tokens that are the name of their tenant. -/
def tenantDecode (_now : Epoch) (token _secret : String) : Except JwtError JwtPayload :=
  .ok ⟨token, "w", "jti", 0, 300⟩

/-- Tenants `a` and `b` have a job each, and their workers lease them under the tokens `ta` and
`tb`. -/
def sharedCalls : List TenantCall :=
  [⟨"a", .still 1, .executeEnqueue true { callId := "ca", tenantId := "a", runId := "r" }
      { name := "n" } "ja"⟩,
    ⟨"b", .still 2, .executeEnqueue true { callId := "cb", tenantId := "b", runId := "r" }
      { name := "n" } "jb"⟩,
    ⟨"a", .still 3, .claimNextJob "a" "a" "n1" "ta"⟩,
    ⟨"b", .still 4, .claimNextJob "b" "b" "n1" "tb"⟩]

/-- The worker of a tenant submits a result for a job. -/
def sharedSubmission (tenantId jobId leaseToken idempotencyKey : String) : Submission :=
  ⟨tenantId, .worker tenantId "n2",
    { jobId := jobId, tenantId := tenantId, runId := "r", callId := "c", toolName := "n"
      idempotencyKey := idempotencyKey, leaseToken := leaseToken }⟩

/-- The runtimes of the samples. -/
def sharedRuntime : SqliteRuntime := sqliteRuntime { workerJwtSecret := "s" } tenantDecode

/-- Both jobs are leased. -/
def sharedDeployment : Deployment :=
  Run.exec (Deployment.step sharedRuntime) (.init .firstWriteWins) sharedCalls

/-- The worker of `a` completes its own job: `b` keeps its lease, and its worker then completes
its job as it would have done anyway. -/
theorem submission_unnoticed_own_jobs :
    let after := (sharedDeployment.step sharedRuntime
      ⟨"a", .still 5, .submit (sharedSubmission "a" "ja" "ta" "ka")⟩).2
    let rest : List TenantCall := [⟨"b", .still 6, .submit (sharedSubmission "b" "jb" "tb" "kb")⟩]
    Run.trace (Deployment.stepSeenBy sharedRuntime "b") after rest =
      Run.trace (Deployment.stepSeenBy sharedRuntime "b") sharedDeployment rest := by
  intro after rest
  refine (submission_unnoticed { workerJwtSecret := "s" } tenantDecode .firstWriteWins sharedCalls
    (.still 5) (sharedSubmission "a" "ja" "ta" "ka") "b" ⟨["kb"], ["b:submit:jti:n2"]⟩ rest
    ⟨⟨?_, ?_, ?_, ?_, ?_, ?_⟩, ?_, ?_⟩ ?_).2
  · decide
  · decide
  · decide
  · decide
  · decide
  · decide
  · decide
  · decide
  · refine ⟨?_, trivial⟩
    rw [Undisturbed, if_pos rfl]
    refine ⟨?_, rfl, ?_, ⟨?_, ?_⟩, ⟨?_, ?_⟩, ?_⟩
    · decide
    · decide
    · decide
    · decide
    · decide
    · decide
    · decide

/-- **The worker of one tenant completes the job of another one**, if it knows the lease token. -/
theorem submission_completes_foreign_job :
    let after := (sharedDeployment.step sharedRuntime
      ⟨"a", .still 5, .submit (sharedSubmission "a" "jb" "tb" "ka")⟩).2
    ¬∀ j r, sharedDeployment.jobs.rows.get? j = some r → r.tenantId = "b" →
      after.jobs.rows.get? j = some r := by
  intro after h
  have hbefore : (sharedDeployment.jobs.rows.get? "jb").map (fun r ↦ (r.tenantId, r.status)) =
      some ("b", .leased) := by decide
  have hafter : ((sharedDeployment.step sharedRuntime ⟨"a", .still 5, .submit
      (sharedSubmission "a" "jb" "tb" "ka")⟩).2.jobs.rows.get? "jb").map (fun r ↦ r.status) =
      some .completed := by decide
  obtain ⟨r, hr, hrow⟩ := Option.map_eq_some_iff.mp hbefore
  rw [h "jb" r hr (congrArg Prod.fst hrow), Option.map_some, Option.some_inj] at hafter
  exact nomatch hafter.symm.trans (congrArg Prod.snd hrow)

end Byoc
end ExoBrain
