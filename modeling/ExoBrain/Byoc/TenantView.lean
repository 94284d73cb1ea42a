import ExoBrain.Byoc.RecordLaws
import ExoBrain.Byoc.SqliteResultStore

/-!
# What one tenant sees of the shared tables

The runtimes of all tenants work on the tables of one database.  This file looks at those tables
from the side of one tenant: its rows of `byoc_jobs`, in `rowid` order, its rows of
`byoc_result_payloads`, and single keys of the two tables without a tenant of their own.

Every operation of a store is one of two kinds from there.

* Some act on every row on its own, whoever owns it: the sweeps, a cancellation, the consumption of
  a payload.  Then what the tenant sees afterwards is a function of what it saw before
  (`tenantRows_mapVals` and its instances).
* The others are made for one tenant.  Made for another one, they leave the view alone, as long as
  what they find under their keys is not the tenant's; made for the tenant itself, their answer and
  the view afterwards only depend on the view before.
-/

set_option autoImplicit false

namespace ExoBrain
namespace Byoc

open Text

/-! ## Jobs -/

namespace SQLiteByocJobQueueStore

/-- The rows of one tenant. -/
def tenantRows (tenantId : String) (t : JobTable) : JobTable :=
  t.filter fun _ r ↦ r.tenantId = tenantId

/-- No lease of the tenant has run out. -/
def NoneExpired (tenantId : String) (now : Epoch) (t : JobTable) : Prop :=
  ∀ e ∈ (tenantRows tenantId t).entries, e.2.toLifecycle.expired now = false

instance (tenantId : String) (now : Epoch) (t : JobTable) : Decidable (NoneExpired tenantId now t) :=
  inferInstanceAs (Decidable (∀ e ∈ (tenantRows tenantId t).entries, _))

section Tables

variable {me : String} {t t' : JobTable}

theorem get?_tenantRows (me : String) (t : JobTable) (k : String) :
    (tenantRows me t).get? k = (t.get? k).filter fun r ↦ r.tenantId = me :=
  Dict.get?_filter _ t k

theorem get?_of_tenantRows_eq (h : tenantRows me t = tenantRows me t') {k : String} {r : JobRow}
    (hr : t.get? k = some r) (hme : r.tenantId = me) : t'.get? k = some r := by
  have hview : (tenantRows me t').get? k = some r := by
    rw [← h, get?_tenantRows, hr, Option.filter_some, if_pos (decide_eq_true hme)]
  rw [get?_tenantRows, Option.filter_eq_some_iff] at hview
  exact hview.1

/-- Under an id that no other tenant has a row for, the view tells all. -/
theorem get?_eq_of_tenantRows_eq (h : tenantRows me t = tenantRows me t') {k : String}
    (hown : ∀ r ∈ t.get? k, r.tenantId = me) (hown' : ∀ r ∈ t'.get? k, r.tenantId = me) :
    t.get? k = t'.get? k := by
  cases hr : t.get? k with
  | some r => exact (get?_of_tenantRows_eq h hr (hown r hr)).symm
  | none =>
    cases hr' : t'.get? k with
    | none => rfl
    | some r' =>
      have hback := get?_of_tenantRows_eq h.symm hr' (hown' r' hr')
      exact nomatch hr.symm.trans hback

theorem noneExpired_iff {now : Epoch} : NoneExpired me now t ↔
    ∀ k r, t.get? k = some r → r.tenantId = me → r.toLifecycle.expired now = false := by
  constructor
  · intro h k r hr hme
    refine h (k, r) (Dict.mem_entries_iff.mpr ?_)
    rw [get?_tenantRows, hr, Option.filter_some, if_pos (decide_eq_true hme)]
  · rintro h ⟨k, r⟩ he
    rw [Dict.mem_entries_iff, get?_tenantRows, Option.filter_eq_some_iff] at he
    exact h k r he.1 (of_decide_eq_true he.2)

/-- What acts on each row on its own acts on the rows of a tenant alone. -/
theorem tenantRows_mapVals {f : String → JobRow → JobRow}
    (hf : ∀ k r, (f k r).tenantId = r.tenantId) (me : String) (t : JobTable) :
    tenantRows me (t.mapVals f) = (tenantRows me t).mapVals f := by
  rw [tenantRows, Dict.filter_mapVals]
  simp only [hf]
  rfl

theorem tenantRows_mapVals_of_same {f : String → JobRow → JobRow}
    (hf : ∀ k r, (f k r).tenantId = r.tenantId)
    (hsame : ∀ k r, t.get? k = some r → r.tenantId = me → f k r = r) :
    tenantRows me (t.mapVals f) = tenantRows me t := by
  rw [tenantRows_mapVals hf]
  refine Dict.mapVals_eq_self fun k r hr ↦ ?_
  rw [get?_tenantRows, Option.filter_eq_some_iff] at hr
  exact hsame k r hr.1 (of_decide_eq_true hr.2)

theorem tenantRows_modify {f : JobRow → JobRow} (hf : ∀ r, (f r).tenantId = r.tenantId)
    (j me : String) (t : JobTable) :
    tenantRows me (t.modify j f) = (tenantRows me t).modify j f := by
  refine tenantRows_mapVals (fun k r ↦ ?_) me t
  split
  · exact hf r
  · rfl

theorem tenantRows_modify_of_ne {f : JobRow → JobRow} (hf : ∀ r, (f r).tenantId = r.tenantId)
    {j : String} (hj : ∀ r ∈ t.get? j, r.tenantId ≠ me) :
    tenantRows me (t.modify j f) = tenantRows me t := by
  refine tenantRows_mapVals_of_same (fun k r ↦ ?_) fun k r hr hme ↦ if_neg ?_
  · split
    · exact hf r
    · rfl
  · rintro rfl
    exact hj r hr hme

theorem tenantRows_filter (p : String → JobRow → Bool) (me : String) (t : JobTable) :
    tenantRows me (t.filter p) = (tenantRows me t).filter p :=
  Dict.filter_comm p _ t

theorem tenantRows_updateLease (workerId token : String) (expires : Epoch) (claimAttempt : Nat)
    (jobId me : String) (t : JobTable) :
    tenantRows me (t.updateLease workerId token expires claimAttempt jobId) =
      (tenantRows me t).updateLease workerId token expires claimAttempt jobId := by
  refine tenantRows_modify ?_ jobId me t
  intro r
  rfl

theorem tenantRows_updateComplete (now : Epoch) (jobId me : String) (t : JobTable) :
    tenantRows me (t.updateComplete now jobId) = (tenantRows me t).updateComplete now jobId := by
  refine tenantRows_modify ?_ jobId me t
  intro r
  rfl

theorem selectNextQueued_tenantRows (me : String) (t : JobTable) :
    (tenantRows me t).selectNextQueued me = t.selectNextQueued me := by
  rw [JobTable.selectNextQueued, JobTable.selectNextQueued, tenantRows, Dict.entries_filter,
    List.find?_filter]
  congr 2
  funext e
  by_cases h : e.2.tenantId = me <;> simp [h]

theorem rowsOf_tenantRows (me : String) (status : JobStatus) (t : JobTable) :
    rowsOf me status (tenantRows me t) = rowsOf me status t := by
  rw [rowsOf, rowsOf, tenantRows, Dict.entries_filter, List.filter_filter]
  congr 1
  funext e
  by_cases h : e.2.tenantId = me <;> simp [h]

theorem keptRows_tenantRows (now : Epoch) (normalized : String) (limits : RetentionLimits)
    (me : String) (t : JobTable) :
    keptRows now normalized limits (tenantRows me t) =
      tenantRows me (keptRows now normalized limits t) :=
  (tenantRows_filter _ me t).symm

end Tables

variable {me : String} {s s' : SQLiteByocJobQueueStore}

/-! ### Operations on every row -/

theorem tenantRows_requeueExpiredLeases (me : String) (now : Epoch) (limit : Option Int)
    (s : SQLiteByocJobQueueStore) :
    tenantRows me (s.requeueExpiredLeases now limit).2.rows =
      (tenantRows me s.rows).mapVals fun _ r ↦
        { r with toLifecycle := r.toLifecycle.sweepColumns now limit } := by
  rw [rows_requeueExpiredLeases]
  refine tenantRows_mapVals ?_ me s.rows
  intro k r
  rfl

theorem tenantRows_requeueExpiredLeases_of_noneExpired {now : Epoch} (limit : Option Int)
    (h : NoneExpired me now s.rows) :
    tenantRows me (s.requeueExpiredLeases now limit).2.rows = tenantRows me s.rows := by
  rw [rows_requeueExpiredLeases]
  refine tenantRows_mapVals_of_same (fun _ _ ↦ rfl) fun k r hr hme ↦ ?_
  rw [Lifecycle.sweepColumns, noneExpired_iff.mp h k r hr hme]
  rfl

/-- After a sweep, only the leases that run out between it and a later reading have run out
there. -/
theorem noneExpired_requeueExpiredLeases {sweep lease : Epoch}
    (h : ∀ e ∈ (tenantRows me s.rows).entries, e.2.toLifecycle.expired lease = true →
      e.2.toLifecycle.expired sweep = true) (limit : Option Int) :
    NoneExpired me lease (s.requeueExpiredLeases sweep limit).2.rows := by
  rw [NoneExpired, tenantRows_requeueExpiredLeases, Dict.entries_mapVals]
  intro e hmem
  obtain ⟨e, he, rfl⟩ := List.mem_map.mp hmem
  simp only [Lifecycle.sweepColumns]
  by_cases hswept : e.2.toLifecycle.expired sweep = true
  · rw [if_pos hswept]
    split <;> rfl
  · rw [if_neg hswept]
    exact Bool.eq_false_iff.mpr fun hlease ↦ hswept (h e he hlease)

theorem tenantRows_cancelPendingCall (me : String) (now : Epoch) {callId : String}
    (h : strip callId ≠ "") (s : SQLiteByocJobQueueStore) :
    tenantRows me (s.cancelPendingCall now callId).2.rows =
      (cancelledRows now (strip callId) (tenantRows me s.rows)).mapVals fun _ r ↦
        { r with toLifecycle := r.toLifecycle.sweepColumns now none } := by
  have hcancel : tenantRows me (cancelledRows now (strip callId) s.rows) =
      cancelledRows now (strip callId) (tenantRows me s.rows) := by
    refine tenantRows_mapVals ?_ me s.rows
    intro k r
    split <;> rfl
  rw [cancelPendingCall_rows h, ← hcancel]
  refine tenantRows_mapVals ?_ me _
  intro k r
  rfl

/-- `replay_dead_letter_job` looks at one row only, and at its tenant. -/
theorem rows_replayDeadLetterJob (tenantId jobId : String) (s : SQLiteByocJobQueueStore) :
    (s.replayDeadLetterJob tenantId jobId).2.rows = s.rows.mapVals fun k r ↦
      if strip tenantId ≠ "" ∧ strip jobId ≠ "" ∧ k = strip jobId ∧ r.tenantId = strip tenantId ∧
        r.status = .deadLettered then { r with toLifecycle := r.toLifecycle.replay } else r := by
  have hsame : ∀ p : String → JobRow → Prop, [∀ k r, Decidable (p k r)] →
      (∀ k r, s.rows.get? k = some r → ¬p k r) →
      s.rows = s.rows.mapVals fun k r ↦
        if p k r then { r with toLifecycle := r.toLifecycle.replay } else r :=
    fun p _ hp ↦ (Dict.mapVals_eq_self fun k r hr ↦ if_neg (hp k r hr)).symm
  rw [replayDeadLetterJob]
  split
  · rename_i hblank
    refine hsame _ fun k r _ hcond ↦ ?_
    exact hblank.elim hcond.1 hcond.2.1
  · rename_i hblank
    rw [not_or] at hblank
    rw [JobTable.selectJob]
    cases hrow : s.rows.get? (strip jobId) with
    | none =>
      refine hsame _ ?_
      rintro k r hr ⟨-, -, rfl, -⟩
      cases hrow.symm.trans hr
    | some row =>
      simp only
      split
      · rename_i hcond
        refine hsame _ ?_
        rintro k r hr ⟨-, -, rfl, htenant, hstatus⟩
        obtain rfl := Option.some.inj (hrow.symm.trans hr)
        exact hcond.elim (· htenant) (· hstatus)
      · rename_i hcond
        rw [not_or, not_not, not_not] at hcond
        rw [commit_rows, Dict.modify]
        refine Dict.mapVals_congr fun k r hr ↦ ?_
        by_cases hk : k = strip jobId
        · subst hk
          obtain rfl := Option.some.inj (hrow.symm.trans hr)
          rw [if_pos rfl, if_pos ⟨hblank.1, hblank.2, rfl, hcond.1, hcond.2⟩]
        · rw [if_neg hk, if_neg fun h ↦ hk h.2.2.1]

theorem tenantRows_replayDeadLetterJob (me tenantId jobId : String)
    (s : SQLiteByocJobQueueStore) :
    tenantRows me (s.replayDeadLetterJob tenantId jobId).2.rows =
      (tenantRows me s.rows).mapVals fun k r ↦
        if strip tenantId ≠ "" ∧ strip jobId ≠ "" ∧ k = strip jobId ∧
          r.tenantId = strip tenantId ∧ r.status = .deadLettered then
          { r with toLifecycle := r.toLifecycle.replay } else r := by
  rw [rows_replayDeadLetterJob]
  refine tenantRows_mapVals (fun k r ↦ ?_) me s.rows
  split <;> rfl

theorem tenantRows_replayDeadLetterJob_of_ne {tenantId : String} (h : strip tenantId ≠ me)
    (jobId : String) (s : SQLiteByocJobQueueStore) :
    tenantRows me (s.replayDeadLetterJob tenantId jobId).2.rows = tenantRows me s.rows := by
  rw [rows_replayDeadLetterJob]
  refine tenantRows_mapVals_of_same (fun k r ↦ ?_) fun k r _ hme ↦ if_neg ?_
  · split <;> rfl
  · rintro ⟨-, -, -, htenant, -⟩
    exact h (htenant.symm.trans hme)

theorem listDeadLetterJobs_congr (h : tenantRows me s.rows = tenantRows me s'.rows)
    {tenantId : String} (htenant : strip tenantId = me) (limit : Int) :
    s.listDeadLetterJobs tenantId limit = s'.listDeadLetterJobs tenantId limit := by
  simp only [listDeadLetterJobs, htenant]
  rw [← rowsOf_tenantRows me _ s.rows, h, rowsOf_tenantRows]

/-! ### Retention -/

theorem overflow_tenantRows (status : JobStatus) (finishedAt : JobRow → Epoch) (maxRecords : Int)
    (me : String) (t : JobTable) :
    overflow status finishedAt maxRecords me (tenantRows me t) =
      overflow status finishedAt maxRecords me t := by
  rw [overflow, overflow, rowsOf_tenantRows]

/-- The retention of a tenant prunes its own rows. -/
theorem tenantRows_cleanupRetention_of_ne (hinv : Inv s) {tenantId : String}
    (h : strip tenantId ≠ me) (now : Epoch) (limits : RetentionLimits) :
    tenantRows me (s.cleanupRetention now tenantId limits).2.rows = tenantRows me s.rows := by
  by_cases hblank : strip tenantId = ""
  · simp only [cleanupRetention, if_pos hblank]
  · have hkeyed : ∀ k r, (keptRows now (strip tenantId) limits s.rows).get? k = some r →
        r.jobId = k := by
      intro k r hr
      rw [keptRows, Dict.get?_filter, Option.filter_eq_some_iff] at hr
      exact hinv k r hr.1
    have hkept : tenantRows me (keptRows now (strip tenantId) limits s.rows) =
        tenantRows me s.rows := by
      rw [← keptRows_tenantRows]
      refine Dict.filter_eq_self fun k r hr ↦ ?_
      rw [get?_tenantRows, Option.filter_eq_some_iff] at hr
      have hne : ¬r.tenantId = strip tenantId :=
        fun htenant ↦ h (htenant.symm.trans (of_decide_eq_true hr.2))
      simp [outdated, hne]
    rw [cleanupRetention_rows hblank, tenantRows_filter, ← hkept]
    refine Dict.filter_eq_self fun k r hr ↦ ?_
    rw [get?_tenantRows, Option.filter_eq_some_iff] at hr
    -- An overflowing row is one of the other tenant.
    have hout : ∀ status finishedAt maxRecords, k ∉ overflow status finishedAt maxRecords
        (strip tenantId) (keptRows now (strip tenantId) limits s.rows) := by
      intro status finishedAt maxRecords hmem
      obtain ⟨r', hr', htenant, -⟩ := mem_overflow hkeyed hmem
      obtain rfl := Option.some.inj (hr.1.symm.trans hr')
      exact h (htenant.symm.trans (of_decide_eq_true hr.2))
    simp [hout]

/-- What a retention pass leaves of a tenant's rows only depends on its rows. -/
theorem tenantRows_cleanupRetention_congr (hinv : Inv s) (hinv' : Inv s')
    (h : tenantRows me s.rows = tenantRows me s'.rows) (now : Epoch) (tenantId : String)
    (limits : RetentionLimits) :
    tenantRows me (s.cleanupRetention now tenantId limits).2.rows =
      tenantRows me (s'.cleanupRetention now tenantId limits).2.rows := by
  by_cases htenant : strip tenantId = me
  swap
  · rw [tenantRows_cleanupRetention_of_ne hinv htenant,
      tenantRows_cleanupRetention_of_ne hinv' htenant, h]
  by_cases hblank : strip tenantId = ""
  · simpa only [cleanupRetention, if_pos hblank] using h
  · have hkept : tenantRows me (keptRows now me limits s.rows) =
        tenantRows me (keptRows now me limits s'.rows) := by
      rw [← keptRows_tenantRows, h, keptRows_tenantRows]
    have hover : ∀ status finishedAt maxRecords,
        overflow status finishedAt maxRecords me (keptRows now me limits s.rows) =
          overflow status finishedAt maxRecords me (keptRows now me limits s'.rows) := by
      intro status finishedAt maxRecords
      rw [← overflow_tenantRows, hkept, overflow_tenantRows]
    rw [cleanupRetention_rows hblank, cleanupRetention_rows hblank, htenant, tenantRows_filter,
      tenantRows_filter, hkept, hover, hover]

/-! ### New jobs -/

theorem tenantRows_enqueue_of_ne {job : ByocToolJobEnvelope} (h : job.tenantId ≠ me)
    (s : SQLiteByocJobQueueStore) :
    tenantRows me (s.enqueue job).rows = tenantRows me s.rows := by
  refine Dict.filter_setDefault_of_false ?_ s.rows
  exact decide_eq_false h

theorem tenantRows_enqueue_congr (h : tenantRows me s.rows = tenantRows me s'.rows)
    {job : ByocToolJobEnvelope} (hown : ∀ r ∈ s.rows.get? job.jobId, r.tenantId = me)
    (hown' : ∀ r ∈ s'.rows.get? job.jobId, r.tenantId = me) :
    tenantRows me (s.enqueue job).rows = tenantRows me (s'.enqueue job).rows := by
  by_cases hme : job.tenantId = me
  · have hset : ∀ {t : JobTable}, (∀ r ∈ t.get? job.jobId, r.tenantId = me) →
        tenantRows me (t.insertOrIgnore job) = (tenantRows me t).insertOrIgnore job := by
      intro t ht
      refine Dict.filter_setDefault_of_true ?_ fun r hr ↦ ?_
      · exact decide_eq_true hme
      · exact decide_eq_true (ht r hr)
    rw [enqueue, enqueue, commit_rows, commit_rows, hset hown, hset hown', h]
  · rw [tenantRows_enqueue_of_ne hme, tenantRows_enqueue_of_ne hme, h]

/-! ### Leases -/

/-- A claim of another tenant only writes to a row of that tenant, if its sweep has nothing to do
for the tenant. -/
theorem tenantRows_claimNext_of_ne (hinv : Inv s) {tenantId : String} (h : tenantId ≠ me)
    {now : Epoch} (hnone : NoneExpired me now s.rows) (workerId : String) (ttl : Int)
    (token : String) :
    tenantRows me (s.claimNext now tenantId workerId ttl token).2.rows = tenantRows me s.rows := by
  have hsweep := tenantRows_requeueExpiredLeases_of_noneExpired none hnone
  simp only [claimNext]
  cases hsel : (s.requeueExpiredLeases now none).2.rows.selectNextQueued tenantId with
  | none => exact hsweep
  | some row =>
    obtain ⟨k, hrow, htenant, -⟩ := selectNextQueued_spec hsel
    have hid : row.jobId = k := inv_requeueExpiredLeases hinv now none k row hrow
    rw [commit_rows, JobTable.updateLease, tenantRows_modify_of_ne, hsweep]
    · intro r
      rfl
    · intro r hr
      rw [hid, hrow] at hr
      rw [← Option.some.inj hr, htenant]
      exact h

/-- A sweep of rows that are the same leaves the same. -/
theorem requeueExpiredLeases_congr (h : tenantRows me s.rows = tenantRows me s'.rows) (now : Epoch)
    (limit : Option Int) :
    tenantRows me (s.requeueExpiredLeases now limit).2.rows =
      tenantRows me (s'.requeueExpiredLeases now limit).2.rows := by
  rw [tenantRows_requeueExpiredLeases, h, tenantRows_requeueExpiredLeases]

/-- The tenant's own claims see its rows only. -/
theorem tenantRows_claimNext_congr (h : tenantRows me s.rows = tenantRows me s'.rows)
    (now : Epoch) (workerId : String) (ttl : Int) (token : String) :
    tenantRows me (s.claimNext now me workerId ttl token).2.rows =
      tenantRows me (s'.claimNext now me workerId ttl token).2.rows := by
  have hsweep := requeueExpiredLeases_congr h now none
  have hsel : (s.requeueExpiredLeases now none).2.rows.selectNextQueued me =
      (s'.requeueExpiredLeases now none).2.rows.selectNextQueued me := by
    rw [← selectNextQueued_tenantRows, hsweep, selectNextQueued_tenantRows]
  simp only [claimNext]
  rw [hsel]
  cases (s'.requeueExpiredLeases now none).2.rows.selectNextQueued me with
  | none => exact hsweep
  | some row =>
    simp only [commit_rows]
    rw [tenantRows_updateLease, tenantRows_updateLease, hsweep]

/-- The three ways of `get_leased_job`, on the table itself. -/
theorem getLeasedJob_cases (now : Epoch) (jobId leaseToken : String)
    (s : SQLiteByocJobQueueStore) :
    s.getLeasedJob now jobId leaseToken = (none, s) ∨
      ((∃ r ∈ s.rows.get? jobId, r.toLifecycle.expired now = true) ∧
        s.getLeasedJob now jobId leaseToken = (none, (s.requeueExpiredLeases now none).2)) ∨
      ∃ r ∈ s.rows.get? jobId, (view r).HeldBy now leaseToken ∧
        s.getLeasedJob now jobId leaseToken =
          (some (r.toEnvelope r.leaseToken r.leaseExpiresAtEpoch r.claimAttempt), s) := by
  rw [getLeasedJob, JobTable.selectJob]
  cases hr : s.rows.get? jobId with
  | none => exact .inl rfl
  | some r =>
    obtain ⟨hanswer, -⟩ | ⟨hanswer, hexpired⟩ | ⟨hanswer, hheld⟩ :=
      JobView.checks_cases r.toJobSpec (rfl : _ = ite (r.status ≠ .leased) _ _)
    · exact .inl hanswer
    · exact .inr (.inl ⟨⟨r, rfl, (JobView.expired_of now _ _).mp hexpired⟩, hanswer⟩)
    · exact .inr (.inr ⟨r, rfl, hheld, hanswer⟩)

/-- The three ways of `complete_claim`, on the table itself. -/
theorem completeClaim_cases (now : Epoch) (jobId leaseToken : String)
    (s : SQLiteByocJobQueueStore) :
    s.completeClaim now jobId leaseToken = (false, s) ∨
      ((∃ r ∈ s.rows.get? jobId, r.toLifecycle.expired now = true) ∧
        s.completeClaim now jobId leaseToken = (false, (s.requeueExpiredLeases now none).2)) ∨
      ∃ r ∈ s.rows.get? jobId, (view r).HeldBy now leaseToken ∧
        s.completeClaim now jobId leaseToken =
          (true, s.commit 1 (s.rows.updateComplete now jobId)) := by
  rw [completeClaim, JobTable.selectJob]
  cases hr : s.rows.get? jobId with
  | none => exact .inl rfl
  | some r =>
    obtain ⟨hanswer, -⟩ | ⟨hanswer, hexpired⟩ | ⟨hanswer, hheld⟩ :=
      JobView.checks_cases r.toJobSpec (rfl : _ = ite (r.status ≠ .leased) _ _)
    · exact .inl hanswer
    · exact .inr (.inl ⟨⟨r, rfl, (JobView.expired_of now _ _).mp hexpired⟩, hanswer⟩)
    · exact .inr (.inr ⟨r, rfl, hheld, hanswer⟩)

/-- The lookup of a lease sees the row of its job, and otherwise sweeps or does nothing. -/
theorem getLeasedJob_congr (h : tenantRows me s.rows = tenantRows me s'.rows) {jobId : String}
    (hrow : s.rows.get? jobId = s'.rows.get? jobId) (now : Epoch) (leaseToken : String) :
    (s.getLeasedJob now jobId leaseToken).1 = (s'.getLeasedJob now jobId leaseToken).1 ∧
      tenantRows me (s.getLeasedJob now jobId leaseToken).2.rows =
        tenantRows me (s'.getLeasedJob now jobId leaseToken).2.rows := by
  have hsweep := requeueExpiredLeases_congr h now none
  simp only [getLeasedJob, JobTable.selectJob, hrow]
  cases s'.rows.get? jobId with
  | none => exact ⟨rfl, h⟩
  | some r =>
    simp only
    split
    · exact ⟨rfl, h⟩
    · split
      · exact ⟨rfl, hsweep⟩
      · split <;> exact ⟨rfl, h⟩

theorem completeClaim_congr (h : tenantRows me s.rows = tenantRows me s'.rows) {jobId : String}
    (hrow : s.rows.get? jobId = s'.rows.get? jobId) (now : Epoch) (leaseToken : String) :
    (s.completeClaim now jobId leaseToken).1 = (s'.completeClaim now jobId leaseToken).1 ∧
      tenantRows me (s.completeClaim now jobId leaseToken).2.rows =
        tenantRows me (s'.completeClaim now jobId leaseToken).2.rows := by
  have hsweep := requeueExpiredLeases_congr h now none
  simp only [completeClaim, JobTable.selectJob, hrow]
  cases s'.rows.get? jobId with
  | none => exact ⟨rfl, h⟩
  | some r =>
    simp only
    split
    · exact ⟨rfl, h⟩
    · split
      · exact ⟨rfl, hsweep⟩
      · split
        · exact ⟨rfl, h⟩
        · refine ⟨rfl, ?_⟩
          rw [commit_rows, commit_rows, tenantRows_updateComplete, tenantRows_updateComplete, h]

end SQLiteByocJobQueueStore

/-! ## Results -/

/-- The result was stored by this call. -/
def ByocResultIngestOutcome.taken (outcome : ByocResultIngestOutcome) : Bool :=
  outcome.accepted && !outcome.duplicate

namespace SQLiteByocResultStore

/-- The payloads filed under one tenant. -/
def tenantPayloads (tenantId : String) (p : Dict String PayloadRow) : Dict String PayloadRow :=
  p.filter fun _ row ↦ row.tenantId = tenantId

/-- The answer of `ingest`, from all that it reads: the conflict strategy, the payload of the job,
and whether the key is known. -/
def ingestAnswer (strategy : ByocResultConflictStrategy) (row : Option PayloadRow) (known : Bool)
    (result : ByocToolResultEnvelope) : ByocResultIngestOutcome :=
  let key := strip result.idempotencyKey
  if key = "" then .keyRequired
  else
    match row with
    | none => if known then .idempotentDuplicate else .ingested
    | some row =>
      if strip row.payload.idempotencyKey = key ∨
          resolveResultConflict row.payload result strategy = true then
        if known then .idempotentDuplicate else .conflictReplaced
      else .conflictRejected

variable {me : String} {s s' : SQLiteByocResultStore}

/-- The tables `t` are those of `s` with the result written to them, if it was taken. -/
structure Written (taken : Bool) (now : Epoch) (result : ByocToolResultEnvelope)
    (s t : SQLiteByocResultStore) : Prop where
  strategy : t.conflictStrategy = s.conflictStrategy
  payloads : t.payloads =
    if taken then s.payloads.set result.jobId ⟨result.tenantId, result, now⟩ else s.payloads
  keys : t.idempotency =
    if taken then s.idempotency.setDefault (strip result.idempotencyKey)
      ⟨result.tenantId, result.jobId, now⟩ else s.idempotency

theorem written_uncommitted (now : Epoch) (result : ByocToolResultEnvelope)
    {s t : SQLiteByocResultStore} (h : Written false now result s t) :
    Written false now result s (s.uncommitted t) := by
  rw [uncommitted]
  split
  · exact h
  · exact ⟨rfl, rfl, rfl⟩

theorem insertResult_spec (now : Epoch) (result : ByocToolResultEnvelope) (replacing : Bool)
    {before s : SQLiteByocResultStore} (h : Written false now result before s) :
    let q := insertResult now (strip result.idempotencyKey) result replacing before s
    q.1 = (if strip result.idempotencyKey ∈ before.idempotency.keys then .idempotentDuplicate
        else if replacing then .conflictReplaced else .ingested) ∧
      Written q.1.taken now result before q.2 := by
  have hkeys : s.idempotency = before.idempotency := h.keys
  have hpayloads : s.payloads = before.payloads := h.payloads
  simp only [insertResult, hkeys]
  by_cases hknown : strip result.idempotencyKey ∈ before.idempotency.keys
  · simp only [if_pos hknown]
    exact ⟨trivial, written_uncommitted now result h⟩
  · simp only [if_neg hknown]
    refine ⟨trivial, ?_⟩
    cases replacing <;>
      exact ⟨h.strategy, by rw [write, hpayloads]; rfl, by rw [write, hkeys]; rfl⟩

/-- **What `ingest` answers and writes.** -/
theorem ingest_spec (now : Epoch) (result : ByocToolResultEnvelope) (s : SQLiteByocResultStore) :
    (s.ingest now result).1 = ingestAnswer s.conflictStrategy (s.payloads.get? result.jobId)
        (strip result.idempotencyKey ∈ s.idempotency.keys) result ∧
      Written (s.ingest now result).1.taken now result s (s.ingest now result).2 := by
  simp only [ingest, ingestAnswer, decide_eq_true_eq]
  by_cases hblank : strip result.idempotencyKey = ""
  · simp only [if_pos hblank]
    exact ⟨trivial, rfl, rfl, rfl⟩
  · simp only [if_neg hblank]
    cases hrow : s.payloads.get? result.jobId with
    | none => exact insertResult_spec now result false ⟨rfl, rfl, rfl⟩
    | some row =>
      simp only
      by_cases hsame : strip row.payload.idempotencyKey = strip result.idempotencyKey
      · simp only [if_pos hsame, if_pos (Or.inl hsame : _ ∨ _)]
        exact insertResult_spec now result true ⟨rfl, rfl, rfl⟩
      · simp only [if_neg hsame]
        by_cases hreplace : resolveResultConflict row.payload result s.conflictStrategy = true
        · simp only [if_pos hreplace, if_pos (Or.inr hreplace : _ ∨ _)]
          exact insertResult_spec now result true ⟨rfl, rfl, rfl⟩
        · rw [if_neg hreplace, if_neg (not_or.mpr ⟨hsame, hreplace⟩)]
          exact ⟨rfl, written_uncommitted now result ⟨rfl, rfl, rfl⟩⟩

/-! ### Payloads -/

theorem get?_tenantPayloads (me : String) (p : Dict String PayloadRow) (k : String) :
    (tenantPayloads me p).get? k = (p.get? k).filter fun row ↦ row.tenantId = me :=
  Dict.get?_filter _ p k

theorem tenantPayloads_filter (f : String → PayloadRow → Bool) (me : String)
    (p : Dict String PayloadRow) :
    tenantPayloads me (p.filter f) = (tenantPayloads me p).filter f :=
  Dict.filter_comm f _ p

/-- Under a job whose payload is filed under the tenant, if there is one, the view tells all. -/
theorem get?_eq_of_tenantPayloads_eq {p p' : Dict String PayloadRow}
    (h : tenantPayloads me p = tenantPayloads me p') {k : String}
    (hown : ∀ row ∈ p.get? k, row.tenantId = me) (hown' : ∀ row ∈ p'.get? k, row.tenantId = me) :
    p.get? k = p'.get? k := by
  have hview : ∀ {q : Dict String PayloadRow}, (∀ row ∈ q.get? k, row.tenantId = me) →
      (tenantPayloads me q).get? k = q.get? k := by
    intro q hq
    rw [get?_tenantPayloads]
    cases hrow : q.get? k with
    | none => rfl
    | some row => rw [Option.filter_some, if_pos (decide_eq_true (hq row hrow))]
  rw [← hview hown, h, hview hown']

theorem overflow_tenantPayloads (maxRecords : Int) (me : String) (p : Dict String PayloadRow) :
    overflow maxRecords me (tenantPayloads me p) = overflow maxRecords me p := by
  simp only [overflow, tenantPayloads, Dict.entries_filter, List.filter_filter, Bool.and_self]

/-- The retention of a tenant prunes the payloads filed under it. -/
theorem tenantPayloads_cleanupRetention_of_ne {tenantId : String} (h : strip tenantId ≠ me)
    (now : Epoch) (limits : ResultRetentionLimits) (s : SQLiteByocResultStore) :
    tenantPayloads me (s.cleanupRetention now tenantId limits).2.payloads =
      tenantPayloads me s.payloads := by
  rw [cleanupRetention]
  split
  · rfl
  · simp only
    rw [tenantPayloads_filter, tenantPayloads_filter, Dict.filter_filter]
    refine Dict.filter_eq_self fun k row hrow ↦ ?_
    rw [get?_tenantPayloads, Option.filter_eq_some_iff] at hrow
    have hne : ¬row.tenantId = strip tenantId :=
      fun htenant ↦ h (htenant.symm.trans (of_decide_eq_true hrow.2))
    rw [Bool.and_eq_true]
    refine ⟨by simp [hne], decide_eq_true fun hmem ↦ ?_⟩
    simp only [overflow, List.mem_map] at hmem
    obtain ⟨⟨k', row'⟩, hmem, rfl⟩ := hmem
    have hentry := List.mem_mergeSort.mp (List.mem_of_mem_take hmem)
    rw [List.mem_filter, Dict.mem_entries_iff, Dict.get?_filter,
      Option.filter_eq_some_iff] at hentry
    obtain rfl := Option.some.inj (hrow.1.symm.trans hentry.1.1)
    exact hne (of_decide_eq_true hentry.2)

theorem tenantPayloads_cleanupRetention_congr
    (h : tenantPayloads me s.payloads = tenantPayloads me s'.payloads) (now : Epoch)
    (tenantId : String) (limits : ResultRetentionLimits) :
    tenantPayloads me (s.cleanupRetention now tenantId limits).2.payloads =
      tenantPayloads me (s'.cleanupRetention now tenantId limits).2.payloads := by
  by_cases htenant : strip tenantId = me
  · simp only [cleanupRetention, htenant]
    split
    · exact h
    · simp only
      rw [tenantPayloads_filter, tenantPayloads_filter, tenantPayloads_filter,
        tenantPayloads_filter, ← overflow_tenantPayloads, tenantPayloads_filter, h,
        ← tenantPayloads_filter, overflow_tenantPayloads]
  · rw [tenantPayloads_cleanupRetention_of_ne htenant,
      tenantPayloads_cleanupRetention_of_ne htenant, h]

/-- Retention leaves a payload as it is, or drops it with the tenant it is filed under. -/
theorem get?_payloads_cleanupRetention (now : Epoch) (tenantId : String)
    (limits : ResultRetentionLimits) (s : SQLiteByocResultStore) (k : String) :
    (s.cleanupRetention now tenantId limits).2.payloads.get? k = s.payloads.get? k ∨
      (s.cleanupRetention now tenantId limits).2.payloads.get? k = none ∧
        ∃ row ∈ s.payloads.get? k, row.tenantId = strip tenantId := by
  cases hrow : s.payloads.get? k with
  | none =>
    refine .inl ?_
    rw [cleanupRetention]
    split
    · exact hrow
    · simp only [Dict.get?_filter, hrow]
      rfl
  | some row =>
    by_cases htenant : row.tenantId = strip tenantId
    · cases hafter : (s.cleanupRetention now tenantId limits).2.payloads.get? k with
      | none => exact .inr ⟨rfl, row, rfl, htenant⟩
      | some row' =>
        refine .inl ?_
        simp only [cleanupRetention] at hafter
        split at hafter
        · rw [← hafter, hrow]
        · rw [Dict.get?_filter, Option.filter_eq_some_iff, Dict.get?_filter,
            Option.filter_eq_some_iff] at hafter
          rw [← hafter.1.1, hrow]
    · -- The view of the tenant the payload is filed under still has it.
      have hview := congrArg (·.get? k)
        (tenantPayloads_cleanupRetention_of_ne (Ne.symm htenant) now limits s)
      simp only [get?_tenantPayloads, hrow, Option.filter_some, decide_true, if_true] at hview
      exact .inl (Option.filter_eq_some_iff.mp hview).1

theorem tenantPayloads_consume (me jobId : String) (s : SQLiteByocResultStore) :
    tenantPayloads me (s.consume jobId).2.payloads =
      if strip jobId = "" then tenantPayloads me s.payloads
      else (tenantPayloads me s.payloads).erase (strip jobId) := by
  simp only [consume]
  split
  · rfl
  · exact tenantPayloads_filter _ me s.payloads

/-- A result of another tenant is not written over a payload of the tenant. -/
theorem tenantPayloads_written_of_ne {taken : Bool} {now : Epoch}
    {result : ByocToolResultEnvelope} (h : Written taken now result s s')
    (hne : result.tenantId ≠ me) (hrow : ∀ row ∈ s.payloads.get? result.jobId, row.tenantId ≠ me) :
    tenantPayloads me s'.payloads = tenantPayloads me s.payloads := by
  rw [h.payloads]
  split
  · refine Dict.filter_set_of_false ?_ fun row hr ↦ ?_
    · exact decide_eq_false hne
    · exact decide_eq_false (hrow row hr)
  · rfl

theorem tenantPayloads_written {taken : Bool} {now : Epoch} {result : ByocToolResultEnvelope}
    (h : Written taken now result s s') (hme : result.tenantId = me)
    (hrow : ∀ row ∈ s.payloads.get? result.jobId, row.tenantId = me) :
    tenantPayloads me s'.payloads =
      if taken then (tenantPayloads me s.payloads).set result.jobId ⟨me, result, now⟩
      else tenantPayloads me s.payloads := by
  rw [h.payloads, hme]
  split
  · refine Dict.filter_set_of_true ?_ fun row hr ↦ ?_
    · exact decide_eq_true rfl
    · exact decide_eq_true (hrow row hr)
  · rfl

/-! ### Idempotency keys -/

/-- The age limit of `cleanup_retention` on one row of `byoc_result_idempotency`. -/
theorem get?_idempotency_cleanupRetention (now : Epoch) (tenantId : String)
    (limits : ResultRetentionLimits) (s : SQLiteByocResultStore) (k : String) :
    (s.cleanupRetention now tenantId limits).2.idempotency.get? k =
      if strip tenantId = "" then s.idempotency.get? k
      else (s.idempotency.get? k).filter fun row ↦ !(row.tenantId = strip tenantId &&
        row.createdAtEpoch + ttlTicks limits.idempotencyTtlSeconds ≤ now) := by
  simp only [cleanupRetention]
  split
  · rfl
  · exact Dict.get?_filter _ s.idempotency k

theorem get?_idempotency_cleanupRetention_of_ne {tenantId k : String}
    (h : ∀ row ∈ s.idempotency.get? k, row.tenantId ≠ strip tenantId) (now : Epoch)
    (limits : ResultRetentionLimits) :
    (s.cleanupRetention now tenantId limits).2.idempotency.get? k = s.idempotency.get? k := by
  rw [get?_idempotency_cleanupRetention]
  split
  · rfl
  · cases hrow : s.idempotency.get? k with
    | none => rfl
    | some row => simp [Option.filter_some, h row hrow]

end SQLiteByocResultStore

/-! ## The replay guard -/

namespace SQLiteReplayGuard

/-- The mark of a request that has not run out. -/
def live (now : Epoch) (g : SQLiteReplayGuard) (key : String) : Option Epoch :=
  (g.rows.get? key).filter fun expires ↦ now < expires

variable {g g' : SQLiteReplayGuard} {now later : Epoch} {key k : String}

/-- What is live later was live before. -/
theorem live_of_le (h : now ≤ later) (g : SQLiteReplayGuard) (k : String) :
    live later g k = (live now g k).filter fun expires ↦ later < expires := by
  rw [live, live, Option.filter_filter]
  congr 1
  funext expires
  by_cases hlive : later < expires
  · simp [hlive, h.trans_lt hlive]
  · simp [hlive]

theorem live_congr_of_le (h : now ≤ later) (hlive : live now g k = live now g' k) :
    live later g k = live later g' k := by
  rw [live_of_le h, hlive, ← live_of_le h]

/-- Pruning marks that have run out by then is invisible later. -/
theorem live_filter (p : String → Epoch → Bool)
    (hp : ∀ expires, later < expires → p k expires = true) (rows : Dict String Epoch) :
    live later ⟨rows.filter p⟩ k = live later ⟨rows⟩ k := by
  rw [live, live, Dict.get?_filter, Option.filter_filter]
  congr 1
  funext expires
  by_cases hlive : later < expires
  · simp [hlive, hp expires hlive]
  · simp [hlive]

theorem live_cleanupRetention_congr (h : live now g k = live now g' k) (t : Epoch)
    (tenantId : String) :
    live now (g.cleanupRetention t tenantId).2 k = live now (g'.cleanupRetention t tenantId).2 k := by
  have hprune : ∀ (p : String → Epoch → Bool) (g : SQLiteReplayGuard),
      live now ⟨g.rows.filter p⟩ k = (live now g k).filter (p k) := by
    intro p g
    rw [live, live, Dict.get?_filter, Option.filter_filter, Option.filter_filter]
    congr 1
    funext expires
    exact Bool.and_comm _ _
  simp only [cleanupRetention]
  split
  · exact h
  · rw [hprune, hprune, h]

theorem live_cleanupRetention (h : now ≤ later) (tenantId k : String) (g : SQLiteReplayGuard) :
    live later (g.cleanupRetention now tenantId).2 k = live later g k := by
  rw [cleanupRetention]
  split
  · rfl
  · refine live_filter _ (fun expires hexp ↦ ?_) g.rows
    have hnot : ¬expires ≤ now := not_le.mpr (h.trans_lt hexp)
    simp [hnot]

/-- Marking one request leaves the others. -/
theorem live_markOnce_of_ne (hk : k ≠ strip key) (h : now ≤ later) (ttl : Int)
    (g : SQLiteReplayGuard) : live later (g.markOnce now key ttl).2 k = live later g k := by
  have hprune : live later ⟨g.rows.filter fun _ expires ↦ now < expires⟩ k = live later g k :=
    live_filter _ (fun expires hexp ↦ decide_eq_true (h.trans_lt hexp)) g.rows
  rw [markOnce]
  split
  · rfl
  · simp only
    split
    · exact hprune
    · rw [← hprune, live, live, Dict.get?_setDefault, if_neg hk]

/-- Whether a request is new, and what is remembered of it, only depends on its live mark. -/
theorem markOnce_congr (h : live now g (strip key) = live now g' (strip key)) (ttl : Int) :
    (g.markOnce now key ttl).1 = (g'.markOnce now key ttl).1 ∧
      (strip key ≠ "" → (g.markOnce now key ttl).2.rows.get? (strip key) =
        (g'.markOnce now key ttl).2.rows.get? (strip key)) := by
  by_cases hblank : strip key = ""
  · simp only [markOnce, if_pos hblank]
    exact ⟨trivial, fun hkey ↦ absurd hblank hkey⟩
  · have hget : ∀ g : SQLiteReplayGuard,
        (g.rows.filter fun _ expires ↦ now < expires).get? (strip key) = live now g (strip key) :=
      fun g ↦ Dict.get?_filter _ g.rows (strip key)
    have hkeys : strip key ∈ (g.rows.filter fun _ expires ↦ now < expires).keys ↔
        strip key ∈ (g'.rows.filter fun _ expires ↦ now < expires).keys := by
      rw [Dict.mem_keys_iff, Dict.mem_keys_iff, hget, hget, h]
    simp only [markOnce, if_neg hblank]
    by_cases hmem : strip key ∈ (g'.rows.filter fun _ expires ↦ now < expires).keys
    · simp only [if_pos hmem, if_pos (hkeys.mpr hmem)]
      exact ⟨trivial, fun _ ↦ by rw [hget, hget, h]⟩
    · simp only [if_neg hmem, if_neg (hkeys.not.mpr hmem)]
      exact ⟨trivial, fun _ ↦ by rw [Dict.get?_setDefault, Dict.get?_setDefault, hget, hget, h]⟩

end SQLiteReplayGuard

end Byoc
end ExoBrain
