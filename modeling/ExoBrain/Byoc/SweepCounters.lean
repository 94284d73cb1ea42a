import ExoBrain.Byoc.DeadLetters
import ExoBrain.Byoc.Equivalence

/-!
# What the counters of the sweeps count

Before a claim and at every turn of a waiting `execute`, the runtime sweeps the job store: a lease
that has run out goes back to the queue, or to the dead letters when the job has used up its claims.
`_requeue_expired_leases` keeps two counters of that.  `lease_requeue_total` grows by what the store
returns, and `dlq_moved_total` by how many more dead letters the calling tenant has than before.

Neither is the number of jobs that moved.  A sweep goes over the jobs of all tenants, so a dead
letter of another tenant is not counted.  And the SQLite store returns `total_changes`, which has
the dead-lettered rows in it, and on a `:memory:` database everything that was ever changed.

`CountedBackend` is a job store whose jobs can be counted, with what is needed to compare;
`ReportsRequeues` is the condition under which its sweep returns the number of requeued leases.
The transitions themselves are read off the records before and after every operation of the store
(`transitions`), and summed over a run.
-/

set_option autoImplicit false

namespace ExoBrain
namespace Byoc

open Text

/-! ## Transitions -/

/-- The job went from one status to another. -/
def statusMoves (old new : JobStatus) (before after : Option JobView) : Bool :=
  before.any (fun v ↦ v.status = old) && after.any (fun v ↦ v.status = new)

theorem statusMoves_sweep_queued (now : Epoch) (limit : Option Int) (v : JobView) :
    statusMoves .leased .queued (some v) (some (v.sweep now limit)) =
      decide (v.Expired now ∧ ¬v.Exhausted limit) := by
  simp only [statusMoves, Option.any_some, JobView.sweep]
  by_cases hexpired : v.Expired now
  · have hleased : v.status = .leased := hexpired.1
    by_cases hexhausted : v.Exhausted limit
    · simp [hexpired, hexhausted, JobView.release]
    · simp [hexpired, hexhausted, hleased, JobView.release]
  · rw [if_neg hexpired]
    cases hstatus : v.status <;> simp [hexpired]

theorem statusMoves_sweep_deadLettered (now : Epoch) (limit : Option Int) (v : JobView) :
    statusMoves .leased .deadLettered (some v) (some (v.sweep now limit)) =
      decide (v.Expired now ∧ v.Exhausted limit) := by
  simp only [statusMoves, Option.any_some, JobView.sweep]
  by_cases hexpired : v.Expired now
  · have hleased : v.status = .leased := hexpired.1
    by_cases hexhausted : v.Exhausted limit
    · simp [hexpired, hexhausted, hleased, JobView.release]
    · simp [hexpired, hexhausted, JobView.release]
  · rw [if_neg hexpired]
    cases hstatus : v.status <;> simp [hexpired]

theorem requeues_eq (now : Epoch) (limit : Option Int) (spec : JobSpec) (l : Lifecycle) :
    decide ((JobView.of spec l).Expired now ∧ ¬(JobView.of spec l).Exhausted limit) =
      l.requeues now limit := by
  rw [Bool.eq_iff_iff, decide_eq_true_eq, JobView.expired_of, JobView.exhausted_of,
    Lifecycle.requeues, Bool.and_eq_true, Bool.not_eq_true', Bool.not_eq_true]

/-- A count that splits in two. -/
theorem countP_eq_add {α : Type*} {p q r : α → Bool} {l : List α}
    (h : ∀ a ∈ l, (p a = true ∧ q a = true ∧ r a = false) ∨
      (p a = true ∧ q a = false ∧ r a = true) ∨ (p a = false ∧ q a = false ∧ r a = false)) :
    l.countP p = l.countP q + l.countP r := by
  induction l with
  | nil => rfl
  | cons a l ih =>
    have hrest := ih fun b hb ↦ h b (List.mem_cons_of_mem a hb)
    rw [List.countP_cons, List.countP_cons, List.countP_cons, hrest]
    rcases h a List.mem_cons_self with ⟨hp, hq, hr⟩ | ⟨hp, hq, hr⟩ | ⟨hp, hq, hr⟩ <;>
      simp only [hp, hq, hr, if_true, Bool.false_eq_true, if_false] <;> omega

/-! ## The in-memory store -/

namespace InMemoryByocJobQueueStore

theorem deadLetterCount_eq (s : InMemoryByocJobQueueStore) (tenantId : String) :
    s.deadLetterCount tenantId = s.states.keys.countP fun k ↦ (record s k).any fun v ↦
      v.spec.tenantId = strip tenantId && v.status = .deadLettered := by
  rw [deadLetterCount, deadLettersOf, ← List.countP_eq_length_filter]
  symm
  refine Dict.countP_keys (d := s.states)
    (q := fun st ↦ st.envelope.tenantId = strip tenantId && st.status = .deadLettered)
    fun k st hst ↦ ?_
  rw [record, hst]
  rfl

/-- A sweep returns the number of leases it puts back. -/
theorem fst_sweep (s : InMemoryByocJobQueueStore) (now : Epoch) (limit : Option Int) :
    (s.requeueExpiredLeases now limit).1 = s.states.keys.countP fun k ↦
      statusMoves .leased .queued (record s k) (record (s.requeueExpiredLeases now limit).2 k) := by
  rw [requeueExpiredLeases, requeued, ← List.countP_eq_length_filter]
  symm
  refine Dict.countP_keys (d := s.states) (q := fun st ↦ st.requeues now limit) fun k st hst ↦ ?_
  have hrecord : record s k = some (view st) := by
    rw [record, hst]
    rfl
  have hswept : record (s.requeueExpiredLeases now limit).2 k =
      some ((view st).sweep now limit) := by
    rw [record_requeueExpiredLeases, hrecord]
    rfl
  rw [hrecord]
  exact (congrArg (statusMoves _ _ _) hswept).trans
    ((statusMoves_sweep_queued now limit (view st)).trans (requeues_eq now limit _ _))

end InMemoryByocJobQueueStore

/-! ## The SQLite store -/

namespace SQLiteByocJobQueueStore

theorem deadLetterCount_eq (s : SQLiteByocJobQueueStore) {tenantId : String}
    (htenant : strip tenantId ≠ "") :
    s.deadLetterCount tenantId = s.rows.keys.countP fun k ↦ (record s k).any fun v ↦
      v.spec.tenantId = strip tenantId && v.status = .deadLettered := by
  rw [deadLetterCount, if_neg htenant, rowsOf, ← List.countP_eq_length_filter]
  symm
  refine Dict.countP_keys (d := s.rows)
    (q := fun r ↦ r.tenantId = strip tenantId && r.status = .deadLettered) fun k r hr ↦ ?_
  rw [record, hr]
  rfl

/-- The sweep dead-letters nothing, and the connection has changed nothing before. -/
def ReportsRequeues (s : SQLiteByocJobQueueStore) (now : Epoch) (limit : Option Int) : Prop :=
  (∀ k v, record s k = some v → v.Expired now → ¬v.Exhausted limit) ∧
    (s.shared = true → s.totalChanges = 0)

/-- Then it returns the number of leases it puts back. -/
theorem fst_sweep {s : SQLiteByocJobQueueStore} {now : Epoch} {limit : Option Int}
    (h : s.ReportsRequeues now limit) :
    (s.requeueExpiredLeases now limit).1 = s.rows.keys.countP fun k ↦
      statusMoves .leased .queued (record s k) (record (s.requeueExpiredLeases now limit).2 k) := by
  have hrecord {k : String} {r : JobRow} (hr : s.rows.get? k = some r) :
      record s k = some (view r) := by
    rw [record, hr]
    rfl
  have hkeep : ∀ k r, s.rows.get? k = some r → r.toLifecycle.expired now = true →
      r.toLifecycle.shouldDlq limit = false := by
    intro k r hr hexpired
    have hno := h.1 k _ (hrecord hr) ((JobView.expired_of ..).mpr hexpired)
    rw [view, JobView.exhausted_of, Bool.not_eq_true] at hno
    exact hno
  have hzero : (if s.shared then s.totalChanges else 0) = 0 := by
    split
    · rename_i hshared
      exact h.2 hshared
    · rfl
  rw [fst_requeueExpiredLeases hkeep, hzero, Nat.zero_add]
  symm
  refine Dict.countP_keys (d := s.rows) (q := fun r ↦ r.toLifecycle.expired now) fun k r hr ↦ ?_
  rw [record_requeueExpiredLeases, hrecord hr, Option.map_some, statusMoves_sweep_queued, view,
    requeues_eq, Lifecycle.requeues]
  cases hexpired : r.toLifecycle.expired now with
  | false => rfl
  | true => rw [hkeep k r hr hexpired]; rfl

theorem keys_sweep (s : SQLiteByocJobQueueStore) (now : Epoch) (limit : Option Int) :
    (s.requeueExpiredLeases now limit).2.rows.keys = s.rows.keys := by
  rw [rows_requeueExpiredLeases, Dict.keys_mapVals]

end SQLiteByocJobQueueStore

/-! ## A store whose jobs can be counted -/

/-- A job store whose jobs can be counted. -/
structure CountedBackend extends JobBackend where
  jobIds : State → List String
  nodup_jobIds : ∀ s, (jobIds s).Nodup
  mem_jobIds : ∀ s k, k ∈ jobIds s ↔ record s k ≠ none
  jobIds_sweep : ∀ s now limit, jobIds (store.requeueExpiredLeases now limit s).2 = jobIds s
  /-- `dead_letter_count` counts the dead letters of the tenant. -/
  deadLetterCount_eq : ∀ s tenantId, strip tenantId ≠ "" → store.deadLetterCount tenantId s =
    (jobIds s).countP fun k ↦ (record s k).any fun v ↦
      v.spec.tenantId = strip tenantId && v.status = .deadLettered
  /-- A sweep returns the number of leases it puts back in the queue. -/
  ReportsRequeues : State → Epoch → Option Int → Prop
  fst_sweep : ∀ s now limit, ReportsRequeues s now limit →
    (store.requeueExpiredLeases now limit s).1 =
      (jobIds s).countP fun k ↦ statusMoves .leased .queued (record s k)
        (record (store.requeueExpiredLeases now limit s).2 k)

namespace CountedBackend

/-- The in-memory store. -/
def inMemory : CountedBackend where
  toJobBackend := .inMemory
  jobIds := fun s : InMemoryByocJobQueueStore ↦ s.states.keys
  nodup_jobIds := fun s : InMemoryByocJobQueueStore ↦ s.states.keys_nodup
  mem_jobIds := fun (s : InMemoryByocJobQueueStore) k ↦ by
    change k ∈ s.states.keys ↔ (s.states.get? k).map InMemoryByocJobQueueStore.view ≠ none
    rw [Dict.mem_keys_iff]
    cases s.states.get? k <;> simp
  jobIds_sweep := fun (s : InMemoryByocJobQueueStore) _ _ ↦ Dict.keys_mapVals _ s.states
  deadLetterCount_eq := fun s tenantId _ ↦
    InMemoryByocJobQueueStore.deadLetterCount_eq s tenantId
  ReportsRequeues := fun _ _ _ ↦ True
  fst_sweep := fun s now limit _ ↦ InMemoryByocJobQueueStore.fst_sweep s now limit

/-- The SQLite store, on a file or on `:memory:`. -/
def sqlite (shared : Bool) : CountedBackend where
  toJobBackend := .sqlite shared
  jobIds := fun s : SQLiteByocJobQueueStore ↦ s.rows.keys
  nodup_jobIds := fun s : SQLiteByocJobQueueStore ↦ s.rows.keys_nodup
  mem_jobIds := fun (s : SQLiteByocJobQueueStore) k ↦ by
    change k ∈ s.rows.keys ↔ (s.rows.get? k).map SQLiteByocJobQueueStore.view ≠ none
    rw [Dict.mem_keys_iff]
    cases s.rows.get? k <;> simp
  jobIds_sweep := SQLiteByocJobQueueStore.keys_sweep
  deadLetterCount_eq := fun s _ htenant ↦ SQLiteByocJobQueueStore.deadLetterCount_eq s htenant
  ReportsRequeues := SQLiteByocJobQueueStore.ReportsRequeues
  fst_sweep := fun _ _ _ h ↦ SQLiteByocJobQueueStore.fst_sweep h

/-! ## One operation of the store -/

variable (B : CountedBackend)

/-- The number of jobs that go from one status to another between two states of the store. -/
def transitions (old new : JobStatus) (before after : B.State) : Nat :=
  (B.jobIds before).countP fun k ↦ statusMoves old new (B.record before k) (B.record after k)

/-- The leases that an operation of the store puts back in the queue, if it is a sweep. -/
def requeued (s : B.State) (j : JobCall) : Nat :=
  match j.op with
  | .requeueExpiredLeases _ => B.transitions .leased .queued s (B.store.step s j).2
  | _ => 0

/-- The leases that an operation of the store sends to the dead letters. -/
def deadLettered (s : B.State) (j : JobCall) : Nat :=
  B.transitions .leased .deadLettered s (B.store.step s j).2

variable {B}

/-- Only a sweep sends a lease to the dead letters. -/
theorem statusMoves_of_sweepless {j : JobCall} {k : String} {reply : JobReply}
    {r r' : Option JobView} (hmove : JobMove j k reply r r')
    (hj : ∀ limit, j.op ≠ .requeueExpiredLeases limit) :
    statusMoves .leased .deadLettered r r' = false := by
  have hlimit : j.dlqLimit = none := by
    rw [JobCall.dlqLimit]
    split
    · rename_i limit hop
      exact absurd hop (hj limit)
    · rfl
  cases hmove with
  | @stay r =>
    cases r with
    | none => rfl
    | some v => cases hstatus : v.status <;> simp [statusMoves, hstatus]
  | create => rfl
  | release => simp [statusMoves, hlimit, JobView.Exhausted, JobView.release]
  | claim | complete | cancel | replay | prune =>
    simp [statusMoves, JobView.lease, JobView.complete, JobView.replay, JobView.release]

theorem deadLettered_of_sweepless {s : B.State} (hinv : B.Inv s) {j : JobCall}
    (hj : ∀ limit, j.op ≠ .requeueExpiredLeases limit) : B.deadLettered s j = 0 := by
  rw [deadLettered, transitions, List.countP_eq_zero]
  intro k _
  rw [statusMoves_of_sweepless (B.checked.record_step s j k hinv).move hj]
  exact Bool.false_ne_true

theorem requeued_of_sweepless (s : B.State) {j : JobCall}
    (hj : ∀ limit, j.op ≠ .requeueExpiredLeases limit) : B.requeued s j = 0 := by
  rw [requeued]
  split
  · rename_i limit hop
    exact absurd hop (hj limit)
  · rfl

/-! ## One sweep -/

theorem record_sweep {s : B.State} (hinv : B.Inv s) (now : Epoch) (limit : Option Int)
    (k : String) :
    B.record (B.store.requeueExpiredLeases now limit s).2 k =
      (B.record s k).map (JobView.sweep now limit) :=
  B.checked.record_step s ⟨now, .requeueExpiredLeases limit⟩ k hinv

/-- The sweep takes the job from its lease to the dead letters. -/
theorem statusMoves_deadLettered_iff {s : B.State} (hinv : B.Inv s) (now : Epoch)
    (limit : Option Int) (k : String) :
    statusMoves .leased .deadLettered (B.record s k)
        (B.record (B.store.requeueExpiredLeases now limit s).2 k) = true ↔
      ∃ v, B.record s k = some v ∧ v.Expired now ∧ v.Exhausted limit := by
  rw [record_sweep hinv]
  cases B.record s k with
  | none => simp [statusMoves]
  | some v =>
    rw [Option.map_some, statusMoves_sweep_deadLettered, decide_eq_true_eq]
    exact ⟨fun h ↦ ⟨v, rfl, h⟩, fun ⟨w, hw, h⟩ ↦ Option.some.inj hw ▸ h⟩

variable (B)

/-- **When a sweep is counted as it is.**  The store returns the number of leases it requeued, and
every job that goes to the dead letters belongs to the tenant whose call it is. -/
def CountsSweep (now : Epoch) (limit : Option Int) (tenantId : String) (s : B.State) : Prop :=
  B.ReportsRequeues s now limit ∧
    ∀ k v, B.record s k = some v → v.Expired now → v.Exhausted limit →
      strip tenantId ≠ "" ∧ v.spec.tenantId = strip tenantId

variable {B}

/-- A tenant has as many more dead letters after a sweep as the sweep sent there, if they are all
his. -/
theorem deadLetterCount_sweep {s : B.State} (hinv : B.Inv s) {now : Epoch} {limit : Option Int}
    {tenantId : String} (h : B.CountsSweep now limit tenantId s) (htenant : strip tenantId ≠ "") :
    B.store.deadLetterCount tenantId (B.store.requeueExpiredLeases now limit s).2 =
      B.store.deadLetterCount tenantId s +
        B.transitions .leased .deadLettered s (B.store.requeueExpiredLeases now limit s).2 := by
  rw [B.deadLetterCount_eq _ _ htenant, B.deadLetterCount_eq _ _ htenant, B.jobIds_sweep,
    transitions]
  refine countP_eq_add fun k _ ↦ ?_
  rw [record_sweep hinv]
  cases hrecord : B.record s k with
  | none => exact .inr (.inr ⟨rfl, rfl, rfl⟩)
  | some v =>
    rw [Option.map_some, statusMoves_sweep_deadLettered, JobView.sweep]
    by_cases hexpired : v.Expired now
    · have hleased : v.status = .leased := hexpired.1
      by_cases hexhausted : v.Exhausted limit
      · have howner := (h.2 k v hrecord hexpired hexhausted).2
        exact .inr (.inl (by simp [hexpired, hexhausted, hleased, howner, JobView.release]))
      · exact .inr (.inr (by simp [hexpired, hexhausted, hleased, JobView.release]))
    · by_cases hdead : v.spec.tenantId = strip tenantId ∧ v.status = .deadLettered
      · exact .inl (by simp [hexpired, hdead])
      · exact .inr (.inr (by simpa [hexpired] using hdead))

/-- Without a tenant to look at, such a sweep sends nothing to the dead letters. -/
theorem transitions_of_blank {s : B.State} (hinv : B.Inv s) {now : Epoch} {limit : Option Int}
    {tenantId : String} (h : B.CountsSweep now limit tenantId s) (htenant : strip tenantId = "") :
    B.transitions .leased .deadLettered s (B.store.requeueExpiredLeases now limit s).2 = 0 := by
  rw [transitions, List.countP_eq_zero]
  intro k _ hmoved
  obtain ⟨v, hv, hexpired, hexhausted⟩ := (statusMoves_deadLettered_iff hinv now limit k).mp hmoved
  exact (h.2 k v hv hexpired hexhausted).1 htenant

end CountedBackend

/-! ## The sweep of a call -/

namespace TenantByocConnectorRuntime

variable {σ τ ρ : Type} (rt : TenantByocConnectorRuntime σ τ ρ)

/-- The state in which a call sweeps the leases. -/
def beforeSweep (s : RuntimeState σ τ ρ) (c : RuntimeCall) : RuntimeState σ τ ρ :=
  match c.op with
  | .claimNextJob tenantId _ _ _ => rt.cleaned c.clock tenantId s
  | _ => s

theorem sweepless_cleanupCalls {clock : RuntimeClock} {tenantId : String} {force : Bool}
    {s : RuntimeState σ τ ρ} :
    ∀ j ∈ rt.cleanupCalls clock tenantId force s, ∀ limit, j.op ≠ .requeueExpiredLeases limit := by
  intro j hj
  rw [cleanupCalls] at hj
  split at hj
  · obtain rfl := List.mem_singleton.mp hj
    rintro limit ⟨⟩
  · exact absurd hj List.not_mem_nil

theorem sweepless_claimCalls {clock : RuntimeClock}
    {tenantId workerToken requestNonce leaseToken : String} {s : RuntimeState σ τ ρ} :
    ∀ j ∈ rt.claimCalls clock tenantId workerToken requestNonce leaseToken s,
      ∀ limit, j.op ≠ .requeueExpiredLeases limit := by
  intro j hj
  rw [claimCalls] at hj
  split at hj
  · exact absurd hj List.not_mem_nil
  · obtain rfl := List.mem_singleton.mp hj
    rintro limit ⟨⟩

/-- A call that sweeps does so once, between operations that do not. -/
theorem jobCalls_split {c : RuntimeCall} {tenantId : String} (h : sweepTenant c = some tenantId)
    (s : RuntimeState σ τ ρ) :
    ∃ pre post, rt.jobCalls s c = pre ++ rt.sweepCall c.clock :: post ∧
      (∀ j ∈ pre, ∀ limit, j.op ≠ .requeueExpiredLeases limit) ∧
      (∀ j ∈ post, ∀ limit, j.op ≠ .requeueExpiredLeases limit) ∧
      Run.exec rt.jobStore.step s.jobs pre = (rt.beforeSweep s c).jobs := by
  obtain ⟨clock, op⟩ := c
  cases op with
  | executePoll tenantId jobId =>
    exact ⟨[], [], rfl, fun j hj ↦ absurd hj List.not_mem_nil,
      fun j hj ↦ absurd hj List.not_mem_nil, rfl⟩
  | claimNextJob tenantId workerToken requestNonce leaseToken =>
    exact ⟨_, _, rfl, rt.sweepless_cleanupCalls, rt.sweepless_claimCalls,
      (rt.jobs_runCleanup clock tenantId false s).symm⟩
  | executeEnqueue | submit | requestCancellation | replayDeadLetterJob | replayDeadLetterJobs
  | cleanupRetention => exact nomatch h

/-- The other calls do not sweep at all. -/
theorem sweepless_of_mem_jobCalls {s : RuntimeState σ τ ρ} {c : RuntimeCall}
    (h : sweepTenant c = none) :
    ∀ j ∈ rt.jobCalls s c, ∀ limit, j.op ≠ .requeueExpiredLeases limit := by
  intro j hj limit hop
  rcases rt.mem_jobCalls hj with ⟨_, _, _, -, henq⟩ | ⟨-, htenant⟩ | ⟨-, hnone⟩
  · exact nomatch hop.symm.trans henq
  · exact htenant h
  · exact hnone limit hop

/-- `lease_requeue_total` and `dlq_moved_total`. -/
def sweepCounters (s : RuntimeState σ τ ρ) : Nat × Nat :=
  (s.metrics.leaseRequeueTotal, s.metrics.dlqMovedTotal)

theorem sweepCounters_runCleanup (clock : RuntimeClock) (tenantId : String) (force : Bool)
    (s : RuntimeState σ τ ρ) :
    sweepCounters (rt.runCleanup clock tenantId force s).2 = sweepCounters s := by
  rw [runCleanup]
  split <;> rfl

theorem sweepCounters_ingestResultAfterAuth (clock : RuntimeClock) (tenantId : String)
    (result : ByocToolResultEnvelope) (s : RuntimeState σ τ ρ) :
    sweepCounters (rt.ingestResultAfterAuth clock tenantId result s).2 = sweepCounters s := by
  have houtcome (outcome : ByocResultIngestOutcome) (m : RuntimeMetrics) :
      (countOutcome tenantId outcome m).leaseRequeueTotal = m.leaseRequeueTotal ∧
        (countOutcome tenantId outcome m).dlqMovedTotal = m.dlqMovedTotal := by
    rw [countOutcome]
    split
    · exact ⟨rfl, rfl⟩
    · split <;> exact ⟨rfl, rfl⟩
  simp only [ingestResultAfterAuth, ingestLeased]
  split
  · rfl
  · split
    · rfl
    · split
      · rfl
      · split
        · rfl
        · split
          · exact Prod.ext (houtcome ..).1 (houtcome ..).2
          · rfl

theorem sweepCounters_submit (clock : RuntimeClock) (sub : Submission) (s : RuntimeState σ τ ρ) :
    sweepCounters (rt.submit clock sub s).2 = sweepCounters s := by
  rw [submit_eq, ← rt.sweepCounters_runCleanup clock sub.tenantId false s, ← cleaned]
  obtain ⟨answer, replay, hauth⟩ :=
    rt.exists_authenticate_eq clock sub (rt.cleaned clock sub.tenantId s)
  rw [hauth]
  cases answer with
  | error reason => rfl
  | ok _ => exact rt.sweepCounters_ingestResultAfterAuth ..

theorem sweepCounters_claimNextJob (clock : RuntimeClock)
    (tenantId workerToken requestNonce leaseToken : String) (s : RuntimeState σ τ ρ) :
    sweepCounters (rt.claimNextJob clock tenantId workerToken requestNonce leaseToken s).2 =
      sweepCounters (rt.requeueExpiredLeases clock tenantId (rt.cleaned clock tenantId s)) := by
  simp only [claimNextJob, cleaned]
  generalize rt.requeueExpiredLeases clock tenantId (rt.runCleanup clock tenantId false s).2 = s
  obtain ⟨answer, replay, hauth⟩ :=
    rt.exists_authenticateWorker_eq clock "claim" tenantId workerToken requestNonce s
  rw [hauth]
  cases answer <;> rfl

/-- **The two counters only move in the sweep of a call.** -/
theorem sweepCounters_step (s : RuntimeState σ τ ρ) (c : RuntimeCall) :
    sweepCounters (rt.step s c).2 =
      match sweepTenant c with
      | none => sweepCounters s
      | some tenantId =>
        sweepCounters (rt.requeueExpiredLeases c.clock tenantId (rt.beforeSweep s c)) := by
  obtain ⟨clock, op⟩ := c
  cases op with
  | executeEnqueue admitted call descriptor jobId =>
    simp only [step, sweepTenant, executeEnqueue]
    split
    · exact rt.sweepCounters_runCleanup clock (executeTenant call.tenantId) false s
    · rfl
  | executePoll tenantId jobId => rfl
  | claimNextJob tenantId workerToken requestNonce leaseToken =>
    exact rt.sweepCounters_claimNextJob clock tenantId workerToken requestNonce leaseToken s
  | submit sub => exact rt.sweepCounters_submit clock sub s
  | requestCancellation callId =>
    simp only [step, sweepTenant, requestCancellation]
    split <;> rfl
  | replayDeadLetterJob tenantId jobId =>
    simp only [step, sweepTenant, replayDeadLetterJob, sweepCounters]
    split <;> rfl
  | replayDeadLetterJobs tenantId jobIds limit => rfl
  | cleanupRetention tenantId force => exact rt.sweepCounters_runCleanup clock tenantId force s

end TenantByocConnectorRuntime

/-! ## Runs -/

namespace CountedBackend

open TenantByocConnectorRuntime

variable {B : CountedBackend} {τ ρ : Type}

variable (B) in
/-- A runtime on a given job backend. -/
abbrev countedRuntime (R : ByocResultStore τ) (G : ReplayGuard ρ) (settings : ByocRuntimeSettings)
    (jwtDecode : Epoch → String → String → Except JwtError JwtPayload) :
    TenantByocConnectorRuntime B.State τ ρ :=
  B.toJobBackend.runtime R G settings jwtDecode

variable {R : ByocResultStore τ} {G : ReplayGuard ρ} {settings : ByocRuntimeSettings}
  {jwtDecode : Epoch → String → String → Except JwtError JwtPayload}

variable (B R G settings jwtDecode) in
/-- The leases that the sweeps of a call put back in the queue. -/
def requeuedBy (s : RuntimeState B.State τ ρ) (c : RuntimeCall) : Nat :=
  Run.total B.store.step B.requeued s.jobs
    ((B.countedRuntime R G settings jwtDecode).jobCalls s c)

variable (B R G settings jwtDecode) in
/-- The leases that a call sends to the dead letters. -/
def deadLetteredBy (s : RuntimeState B.State τ ρ) (c : RuntimeCall) : Nat :=
  Run.total B.store.step B.deadLettered s.jobs
    ((B.countedRuntime R G settings jwtDecode).jobCalls s c)

variable (B R G settings jwtDecode) in
/-- If the call sweeps the leases, that sweep is counted as it is. -/
def CountsCall (s : RuntimeState B.State τ ρ) (c : RuntimeCall) : Prop :=
  ∀ tenantId, sweepTenant c = some tenantId →
    B.CountsSweep c.clock.sweep (some (B.countedRuntime R G settings jwtDecode).dlqLimit) tenantId
      ((B.countedRuntime R G settings jwtDecode).beforeSweep s c).jobs

/-- A quantity that only a sweep has is summed up over a call in its sweep. -/
theorem total_jobCalls {f : B.State → JobCall → Nat}
    (hf : ∀ s, B.Inv s → ∀ j, (∀ limit, j.op ≠ .requeueExpiredLeases limit) → f s j = 0)
    {s : RuntimeState B.State τ ρ} (hinv : B.Inv s.jobs) (c : RuntimeCall) :
    Run.total B.store.step f s.jobs ((B.countedRuntime R G settings jwtDecode).jobCalls s c) =
      match sweepTenant c with
      | none => 0
      | some _ => f ((B.countedRuntime R G settings jwtDecode).beforeSweep s c).jobs
          ((B.countedRuntime R G settings jwtDecode).sweepCall c.clock) := by
  have hstep (jobs : B.State) (j : JobCall) (h : B.Inv jobs) : B.Inv (B.store.step jobs j).2 :=
    B.checked.inv_step jobs j h
  have hzero {js : List JobCall} (hjs : ∀ j ∈ js, ∀ limit, j.op ≠ .requeueExpiredLeases limit)
      {jobs : B.State} (h : B.Inv jobs) : Run.total B.store.step f jobs js = 0 :=
    Run.total_eq_zero hstep (fun jobs h j hj ↦ hf jobs h j (hjs j hj)) h
  cases htenant : sweepTenant c with
  | none => exact hzero (sweepless_of_mem_jobCalls _ htenant) hinv
  | some tenantId =>
    obtain ⟨pre, post, hsplit, hpre, hpost, hexec⟩ :=
      (B.countedRuntime R G settings jwtDecode).jobCalls_split htenant s
    have hswept : B.Inv ((B.countedRuntime R G settings jwtDecode).beforeSweep s c).jobs := by
      rw [← hexec]
      exact Run.exec_invariant (fun jobs j _ ↦ hstep jobs j)
        (Run.along_of_forall (fun _ _ ↦ trivial) _ _) hinv
    rw [hsplit, Run.total_append, Run.total, hzero hpre hinv, hexec,
      hzero hpost (hstep _ _ hswept), Nat.zero_add, Nat.add_zero]

/-- A sweep that is counted as it is raises the counters by what it did. -/
theorem sweepCounters_requeueExpiredLeases {s : RuntimeState B.State τ ρ} (hinv : B.Inv s.jobs)
    {clock : RuntimeClock} {tenantId : String}
    (h : B.CountsSweep clock.sweep (some (B.countedRuntime R G settings jwtDecode).dlqLimit)
      tenantId s.jobs) :
    sweepCounters ((B.countedRuntime R G settings jwtDecode).requeueExpiredLeases clock tenantId s) =
      (s.metrics.leaseRequeueTotal + B.requeued s.jobs
          ((B.countedRuntime R G settings jwtDecode).sweepCall clock),
        s.metrics.dlqMovedTotal + B.deadLettered s.jobs
          ((B.countedRuntime R G settings jwtDecode).sweepCall clock)) := by
  refine Prod.ext ?_ ?_
  · exact congrArg (s.metrics.leaseRequeueTotal + ·) (B.fst_sweep s.jobs clock.sweep _ h.1)
  · by_cases htenant : strip tenantId = ""
    · have hmoved := transitions_of_blank hinv h htenant
      simp only [sweepCounters, requeueExpiredLeases, htenant, if_true]
      exact congrArg (s.metrics.dlqMovedTotal + ·) hmoved.symm
    · have hnormal : strip (strip tenantId) ≠ "" := by rwa [strip_strip]
      have hcounted : B.CountsSweep clock.sweep
          (some (B.countedRuntime R G settings jwtDecode).dlqLimit) (strip tenantId) s.jobs := by
        rwa [CountsSweep, strip_strip]
      have hcount := deadLetterCount_sweep hinv hcounted hnormal
      simp only [sweepCounters, requeueExpiredLeases, htenant, if_false, hcount,
        Nat.add_sub_cancel_left]
      rfl

/-- One call raises the counters by what its sweep did. -/
theorem sweepCounters_step_eq {s : RuntimeState B.State τ ρ} (hinv : B.Inv s.jobs) {c : RuntimeCall}
    (h : B.CountsCall R G settings jwtDecode s c) :
    sweepCounters ((B.countedRuntime R G settings jwtDecode).step s c).2 =
      (s.metrics.leaseRequeueTotal + B.requeuedBy R G settings jwtDecode s c,
        s.metrics.dlqMovedTotal + B.deadLetteredBy R G settings jwtDecode s c) := by
  rw [sweepCounters_step, requeuedBy, deadLetteredBy,
    total_jobCalls (fun s _ j ↦ requeued_of_sweepless s) hinv,
    total_jobCalls (fun s hs j ↦ deadLettered_of_sweepless hs) hinv]
  cases htenant : sweepTenant c with
  | none => rfl
  | some tenantId =>
    have hbefore : B.Inv ((B.countedRuntime R G settings jwtDecode).beforeSweep s c).jobs ∧
        sweepCounters ((B.countedRuntime R G settings jwtDecode).beforeSweep s c) =
          sweepCounters s := by
      obtain ⟨clock, op⟩ := c
      cases op with
      | claimNextJob tenantId workerToken requestNonce leaseToken =>
        exact ⟨B.inv_cleaned hinv clock tenantId, sweepCounters_runCleanup _ clock tenantId false s⟩
      | _ => exact ⟨hinv, rfl⟩
    obtain ⟨hrequeues, hdlq⟩ := Prod.mk.inj hbefore.2
    simp only
    rw [sweepCounters_requeueExpiredLeases hbefore.1 (h tenantId htenant), hrequeues, hdlq]

/-- **The counters of the sweeps.**  In every run in which every sweep is counted as it is,
`lease_requeue_total` is the number of leases that the sweeps put back in the queue, and
`dlq_moved_total` the number of leases that went to the dead letters. -/
theorem sweep_counters_exact (B : CountedBackend) {τ ρ : Type} (R : ByocResultStore τ)
    (G : ReplayGuard ρ) (settings : ByocRuntimeSettings)
    (jwtDecode : Epoch → String → String → Except JwtError JwtPayload)
    {s : RuntimeState B.State τ ρ} (hinv : B.Inv s.jobs) (hnew : s.metrics = {})
    (calls : List RuntimeCall)
    (hcounts : Run.Along (B.countedRuntime R G settings jwtDecode).step
      (B.CountsCall R G settings jwtDecode) s calls) :
    let final := Run.exec (B.countedRuntime R G settings jwtDecode).step s calls
    final.metrics.leaseRequeueTotal =
        Run.total (B.countedRuntime R G settings jwtDecode).step
          (B.requeuedBy R G settings jwtDecode) s calls ∧
      final.metrics.dlqMovedTotal =
        Run.total (B.countedRuntime R G settings jwtDecode).step
          (B.deadLetteredBy R G settings jwtDecode) s calls := by
  have hstep (s : RuntimeState B.State τ ρ) (c : RuntimeCall)
      (hc : B.CountsCall R G settings jwtDecode s c) (hs : B.Inv s.jobs) :=
    Prod.mk.inj (sweepCounters_step_eq hs hc)
  constructor
  · have hcount := Run.exec_counter (P := fun s : RuntimeState B.State τ ρ ↦ B.Inv s.jobs)
      (c := fun s ↦ s.metrics.leaseRequeueTotal) (f := B.requeuedBy R G settings jwtDecode)
      (fun s c hc hs ↦ ⟨JobBackend.inv_step hs c, (hstep s c hc hs).1⟩) hcounts hinv
    simpa only [hnew, Nat.zero_add] using hcount
  · have hcount := Run.exec_counter (P := fun s : RuntimeState B.State τ ρ ↦ B.Inv s.jobs)
      (c := fun s ↦ s.metrics.dlqMovedTotal) (f := B.deadLetteredBy R G settings jwtDecode)
      (fun s c hc hs ↦ ⟨JobBackend.inv_step hs c, (hstep s c hc hs).2⟩) hcounts hinv
    simpa only [hnew, Nat.zero_add] using hcount

end CountedBackend

/-! ## Who looks at the dead letters -/

instance (now : Epoch) (limit : Option Int) (tenantId : String) (s : CountedBackend.inMemory.State) :
    Decidable (CountedBackend.inMemory.CountsSweep now limit tenantId s) :=
  decidable_of_iff
    (∀ e ∈ (InMemoryByocJobQueueStore.states s).entries,
      (InMemoryByocJobQueueStore.view e.2).Expired now →
      (InMemoryByocJobQueueStore.view e.2).Exhausted limit →
        strip tenantId ≠ "" ∧ e.2.envelope.tenantId = strip tenantId)
    ⟨fun h ↦ ⟨trivial, InMemoryByocJobQueueStore.forall_record_iff.mpr h⟩,
      fun h ↦ InMemoryByocJobQueueStore.forall_record_iff.mp h.2⟩

instance {τ ρ : Type} (R : ByocResultStore τ) (G : ReplayGuard ρ) (settings : ByocRuntimeSettings)
    (jwtDecode : Epoch → String → String → Except JwtError JwtPayload)
    (s : RuntimeState CountedBackend.inMemory.State τ ρ) (c : RuntimeCall) :
    Decidable (CountedBackend.inMemory.CountsCall R G settings jwtDecode s c) :=
  match h : TenantByocConnectorRuntime.sweepTenant c with
  | none => isTrue fun _ htenant ↦ nomatch h.symm.trans htenant
  | some tenantId =>
    decidable_of_iff
      (CountedBackend.inMemory.CountsSweep c.clock.sweep
        (some (CountedBackend.inMemory.countedRuntime R G settings jwtDecode).dlqLimit) tenantId
        ((CountedBackend.inMemory.countedRuntime R G settings jwtDecode).beforeSweep s c).jobs)
      ⟨fun hcounts _ htenant ↦ Option.some.inj (h.symm.trans htenant) ▸ hcounts,
        fun hcounts ↦ hcounts tenantId h⟩

/-- The runtime with one claim per job, before its first call. -/
def countedStart :
    RuntimeState CountedBackend.inMemory.State InMemoryByocResultStore InMemoryReplayGuard :=
  oneClaimStart

/-- The leases that the calls of a run of that runtime send to the dead letters. -/
def oneClaimDeadLettered (calls : List RuntimeCall) : Nat :=
  Run.total oneClaimRuntime.step
    (CountedBackend.inMemory.deadLetteredBy inMemoryByocResultStore inMemoryReplayGuard
      oneClaimRuntime.settings sampleDecode) countedStart calls

/-- The owner of the job waits for it: its way to the dead letters is counted. -/
theorem sweep_counters_exact_own_dead_letter :
    let calls := sampleCalls ++ [⟨.still 5000000, .executePoll "t" "j"⟩]
    (Run.exec oneClaimRuntime.step oneClaimStart calls).metrics.dlqMovedTotal = 1 ∧
      oneClaimDeadLettered calls = 1 := by
  have hinv : CountedBackend.inMemory.Inv countedStart.jobs := JobBackend.inMemory.init_inv
  have hexact := CountedBackend.sweep_counters_exact .inMemory inMemoryByocResultStore
    inMemoryReplayGuard oneClaimRuntime.settings sampleDecode hinv rfl
    (sampleCalls ++ [⟨.still 5000000, .executePoll "t" "j"⟩]) (by decide)
  have hone : (Run.exec oneClaimRuntime.step oneClaimStart
      (sampleCalls ++ [⟨.still 5000000, .executePoll "t" "j"⟩])).metrics.dlqMovedTotal = 1 := by
    decide
  exact ⟨hone, hexact.2.symm.trans hone⟩

/-- Another tenant polls, and his sweep takes the job of tenant `t` to the dead letters: one lease
went there, and the counter says none. -/
theorem sweep_counters_foreign_dead_letter :
    ¬∀ calls, (Run.exec oneClaimRuntime.step oneClaimStart calls).metrics.dlqMovedTotal =
      oneClaimDeadLettered calls := by
  intro h
  exact absurd (h (sampleCalls ++ [⟨.still 5000000, .executePoll "u" "i"⟩])) (by decide)

end Byoc
end ExoBrain
