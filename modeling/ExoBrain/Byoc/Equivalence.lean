import ExoBrain.Lib.Ranking
import ExoBrain.Byoc.Cancellation

/-!
# Do the two backends answer alike?

Two implementations of `ByocJobQueueStore`, driven by the same calls, the same clock and the same
tokens.  `Mirrors s t` says that the table `t` holds the records of `s`, row by row and in the same
order; the deques of `s` and the change counter of `t` are not part of it.  Every operation leaves
mirrored stores mirrored (as long as `claim_next` picks the same job), so the answers can only
differ where an operation looks at what is *not* mirrored.  There are three such places, and one
guard that only one of the backends has:

* `claim_next` picks the head of a deque in one store and the smallest `rowid` in the other;
* `requeue_expired_leases` counts the requeued leases in one store and all changes of a connection
  in the other;
* `list_dead_letter_jobs` breaks ties of the time stamps in opposite ways;
* a blank tenant has no dead letters in the SQLite store, whatever the table holds.

`Agree` spells out, for a call in a given pair of states, that none of the four shows.
-/

set_option autoImplicit false

namespace ExoBrain
namespace Byoc

open Text Ranking

/-! ## Mirrored stores -/

/-- The row of a record. -/
def rowOf (st : JobState) : JobRow :=
  { toJobSpec := st.envelope.toJobSpec, toLifecycle := st.toLifecycle }

@[simp] theorem rowOf_toJobSpec (st : JobState) :
    (rowOf st).toJobSpec = st.envelope.toJobSpec := rfl

@[simp] theorem rowOf_toLifecycle (st : JobState) : (rowOf st).toLifecycle = st.toLifecycle := rfl

/-- A job that is not finished carries no finishing time. -/
def Lifecycle.Unfinished (l : Lifecycle) : Prop :=
  l.status ≠ .completed → l.status ≠ .cancelled → l.completedAtEpoch = 0 ∧ l.cancelledAtEpoch = 0

/-- The table holds the records, row by row and in the same order. -/
structure Mirrors (s : InMemoryByocJobQueueStore) (t : SQLiteByocJobQueueStore) : Prop where
  rows_eq : t.rows = s.states.mapVals fun _ st ↦ rowOf st
  inv : InMemoryByocJobQueueStore.Inv s
  unfinished : ∀ k st, s.states.get? k = some st → st.toLifecycle.Unfinished

theorem mirrors_init (shared : Bool) :
    Mirrors InMemoryByocJobQueueStore.init (SQLiteByocJobQueueStore.init shared) where
  rows_eq := rfl
  inv := InMemoryByocJobQueueStore.init_inv
  unfinished k st hst := absurd hst (by simp [InMemoryByocJobQueueStore.init])

theorem Mirrors.get?_rows {s : InMemoryByocJobQueueStore} {t : SQLiteByocJobQueueStore}
    (h : Mirrors s t) (k : String) : t.rows.get? k = (s.states.get? k).map rowOf := by
  rw [h.rows_eq, Dict.get?_mapVals]

/-- Counting rows is counting records. -/
theorem Mirrors.countP_rows {s : InMemoryByocJobQueueStore} {t : SQLiteByocJobQueueStore}
    (h : Mirrors s t) (p : JobRow → Bool) :
    (t.rows.entries.countP fun e ↦ p e.2) = s.states.entries.countP fun e ↦ p (rowOf e.2) := by
  rw [h.rows_eq, Dict.entries_mapVals, List.countP_map]
  rfl

/-- Selecting rows is selecting records. -/
theorem Mirrors.filter_rows {s : InMemoryByocJobQueueStore} {t : SQLiteByocJobQueueStore}
    (h : Mirrors s t) (p : JobRow → Bool) :
    (t.rows.entries.filter fun e ↦ p e.2) =
      (s.states.entries.filter fun e ↦ p (rowOf e.2)).map fun e ↦ (e.1, rowOf e.2) := by
  rw [h.rows_eq, Dict.entries_mapVals, List.filter_map]
  rfl

theorem Mirrors.record_eq {s : InMemoryByocJobQueueStore} {t : SQLiteByocJobQueueStore}
    (h : Mirrors s t) (k : String) :
    SQLiteByocJobQueueStore.record t k = InMemoryByocJobQueueStore.record s k := by
  rw [SQLiteByocJobQueueStore.record, h.get?_rows, InMemoryByocJobQueueStore.record,
    Option.map_map]
  rfl

/-! ## The columns that only SQL resets -/

theorem sweepColumns_eq {l : Lifecycle} (h : l.Unfinished) (now : Epoch) (limit : Option Int) :
    l.sweepColumns now limit = l.sweep now limit := by
  rw [Lifecycle.sweepColumns, Lifecycle.sweep]
  by_cases hexp : l.expired now = true
  · have hleased : l.status = .leased := by
      simp only [Lifecycle.expired, Bool.and_eq_true, decide_eq_true_eq] at hexp
      exact hexp.1
    obtain ⟨hcomp, hcanc⟩ := h (by simp [hleased]) (by simp [hleased])
    rw [if_pos hexp, if_pos hexp]
    split
    · rw [Lifecycle.deadLetterColumns, Lifecycle.deadLetter, hcomp, hcanc]
    · rw [Lifecycle.requeueColumns, Lifecycle.requeue, hcomp, hcanc]
  · rw [if_neg hexp, if_neg hexp]

theorem completeColumns_eq {l : Lifecycle} (h : l.Unfinished) (hleased : l.status = .leased)
    (now : Epoch) : l.completeColumns now = l.complete now := by
  obtain ⟨-, hcanc⟩ := h (by simp [hleased]) (by simp [hleased])
  rw [Lifecycle.completeColumns, Lifecycle.complete, hcanc]

theorem Lifecycle.Unfinished.sweep {l : Lifecycle} (h : l.Unfinished) (now : Epoch)
    (limit : Option Int) : (l.sweep now limit).Unfinished := by
  rw [Lifecycle.sweep]
  by_cases hexp : l.expired now = true
  · have hleased : l.status = .leased := by
      simp only [Lifecycle.expired, Bool.and_eq_true, decide_eq_true_eq] at hexp
      exact hexp.1
    have hzero := h (by simp [hleased]) (by simp [hleased])
    rw [if_pos hexp]
    split <;> exact fun _ _ ↦ hzero
  · rwa [if_neg hexp]

theorem Lifecycle.Unfinished.cancel {l : Lifecycle} (h : l.Unfinished) (now : Epoch) :
    (l.cancel now).Unfinished := by
  cases hs : l.status with
  | queued => intro _ hc; exact absurd (by simp [Lifecycle.cancel, hs]) hc
  | leased =>
    rw [Lifecycle.cancel, hs]
    exact fun _ _ ↦ h (by simp [hs]) (by simp [hs])
  | completed | cancelled | deadLettered => rw [Lifecycle.cancel, hs]; exact h

/-! ## Operations that answer alike -/

section Operations

variable {s : InMemoryByocJobQueueStore} {t : SQLiteByocJobQueueStore}

/-- Replacing every record and every row in corresponding ways keeps the stores mirrored. -/
theorem Mirrors.of_mapVals (h : Mirrors s t) {s' : InMemoryByocJobQueueStore}
    {t' : SQLiteByocJobQueueStore} {f : String → JobState → JobState}
    {g : String → JobRow → JobRow} (hs : s'.states = s.states.mapVals f)
    (ht : t'.rows = t.rows.mapVals g) (hinv : InMemoryByocJobQueueStore.Inv s')
    (hfg : ∀ k st, s.states.get? k = some st → rowOf (f k st) = g k (rowOf st))
    (hunf : ∀ k st, s.states.get? k = some st → (f k st).toLifecycle.Unfinished) :
    Mirrors s' t' := by
  refine ⟨?_, hinv, fun k st hst ↦ ?_⟩
  · rw [ht, hs, h.rows_eq, Dict.mapVals_mapVals, Dict.mapVals_mapVals]
    exact Dict.mapVals_congr fun k st hst ↦ (hfg k st hst).symm
  · rw [hs, Dict.get?_mapVals] at hst
    obtain ⟨st₀, hst₀, rfl⟩ := Option.map_eq_some_iff.mp hst
    exact hunf k st₀ hst₀

/-- The same for a change of one record and one row. -/
theorem Mirrors.of_modify (h : Mirrors s t) {s' : InMemoryByocJobQueueStore}
    {t' : SQLiteByocJobQueueStore} {j : String} {f : JobState → JobState} {g : JobRow → JobRow}
    (hs : s'.states = s.states.modify j f) (ht : t'.rows = t.rows.modify j g)
    (hinv : InMemoryByocJobQueueStore.Inv s')
    (hfg : ∀ st, s.states.get? j = some st →
      rowOf (f st) = g (rowOf st) ∧ (f st).toLifecycle.Unfinished) : Mirrors s' t' := by
  refine h.of_mapVals hs ht hinv (fun k st hst ↦ ?_) fun k st hst ↦ ?_
  · by_cases hk : k = j
    · rw [if_pos hk, if_pos hk]
      exact (hfg st (hk ▸ hst)).1
    · rw [if_neg hk, if_neg hk]
  · by_cases hk : k = j
    · rw [if_pos hk]
      exact (hfg st (hk ▸ hst)).2
    · rw [if_neg hk]
      exact h.unfinished k st hst

theorem mirrors_enqueue (h : Mirrors s t) (job : ByocToolJobEnvelope) :
    Mirrors (s.enqueue job) (t.enqueue job) := by
  have hstates : (s.enqueue job).states = s.states.setDefault job.jobId { envelope := job } := by
    rw [InMemoryByocJobQueueStore.enqueue]
    split
    · rename_i hmem
      rw [Dict.setDefault_of_mem hmem]
    · rfl
  refine ⟨?_, InMemoryByocJobQueueStore.inv_enqueue h.inv job, fun k st hst ↦ ?_⟩
  · rw [hstates, Dict.mapVals_setDefault, ← h.rows_eq]
    rfl
  · rw [hstates, Dict.get?_setDefault] at hst
    split at hst
    · cases hget : s.states.get? k with
      | none =>
        rw [hget, Option.getD_none, Option.some_inj] at hst
        rw [← hst]
        exact fun _ _ ↦ ⟨rfl, rfl⟩
      | some st₀ =>
        rw [hget, Option.getD_some, Option.some_inj] at hst
        exact hst ▸ h.unfinished k st₀ hget
    · exact h.unfinished k st hst

theorem states_requeueExpiredLeases (now : Epoch) (limit : Option Int)
    (s : InMemoryByocJobQueueStore) :
    (s.requeueExpiredLeases now limit).2.states = s.states.mapVals fun _ st ↦
      { st with toLifecycle := st.toLifecycle.sweep now limit } := rfl

theorem mirrors_requeueExpiredLeases (h : Mirrors s t) (now : Epoch) (limit : Option Int) :
    Mirrors (s.requeueExpiredLeases now limit).2 (t.requeueExpiredLeases now limit).2 := by
  refine h.of_mapVals (states_requeueExpiredLeases now limit s)
    (SQLiteByocJobQueueStore.rows_requeueExpiredLeases now limit t)
    (InMemoryByocJobQueueStore.inv_requeueExpiredLeases h.inv now limit) (fun k st hst ↦ ?_)
    fun k st hst ↦ ?_
  · have hsweep := sweepColumns_eq (h.unfinished k st hst) now limit
    simp only [rowOf, hsweep]
  · exact (h.unfinished k st hst).sweep now limit

theorem completeClaim_agree (h : Mirrors s t) (now : Epoch) (jobId token : String) :
    (s.completeClaim now jobId token).1 = (t.completeClaim now jobId token).1 ∧
      Mirrors (s.completeClaim now jobId token).2 (t.completeClaim now jobId token).2 := by
  have hinv := InMemoryByocJobQueueStore.inv_completeClaim h.inv now jobId token
  rw [InMemoryByocJobQueueStore.completeClaim, SQLiteByocJobQueueStore.completeClaim,
    JobTable.selectJob, h.get?_rows] at *
  cases hst : s.states.get? jobId with
  | none => exact ⟨rfl, h⟩
  | some st =>
    simp only [hst, Option.map_some] at hinv ⊢
    by_cases hleased : st.status ≠ .leased
    · rw [if_pos hleased, if_pos (show (rowOf st).status ≠ .leased from hleased)]
      exact ⟨rfl, h⟩
    · rw [if_neg hleased] at hinv
      rw [if_neg hleased, if_neg (show ¬((rowOf st).status ≠ .leased) from hleased)]
      by_cases hexp : st.leaseExpiresAtEpoch ≤ now
      · rw [if_pos hexp, if_pos (show (rowOf st).leaseExpiresAtEpoch ≤ now from hexp)]
        exact ⟨rfl, mirrors_requeueExpiredLeases h now none⟩
      · rw [if_neg hexp] at hinv
        rw [if_neg hexp, if_neg (show ¬((rowOf st).leaseExpiresAtEpoch ≤ now) from hexp)]
        by_cases htok : st.leaseToken ≠ token
        · rw [if_pos htok, if_pos (show (rowOf st).leaseToken ≠ token from htok)]
          exact ⟨rfl, h⟩
        · rw [if_neg htok] at hinv
          rw [if_neg htok, if_neg (show ¬((rowOf st).leaseToken ≠ token) from htok)]
          refine ⟨rfl, h.of_modify (j := jobId)
            (f := fun st ↦ { st with toLifecycle := st.toLifecycle.complete now }) rfl
            (g := fun r ↦ { r with toLifecycle := r.toLifecycle.completeColumns now }) rfl hinv
            fun st' hst' ↦ ⟨?_, ?_⟩⟩
          · obtain rfl : st = st' := by rwa [hst, Option.some_inj] at hst'
            have hcol := completeColumns_eq (h.unfinished jobId st hst) (not_not.mp hleased) now
            simp only [rowOf, hcol]
          · exact fun hc ↦ absurd rfl hc

theorem getLeasedJob_agree (h : Mirrors s t) (now : Epoch) (jobId token : String) :
    (s.getLeasedJob now jobId token).1 = (t.getLeasedJob now jobId token).1 ∧
      Mirrors (s.getLeasedJob now jobId token).2 (t.getLeasedJob now jobId token).2 := by
  rw [InMemoryByocJobQueueStore.getLeasedJob, SQLiteByocJobQueueStore.getLeasedJob,
    JobTable.selectJob, h.get?_rows]
  cases hst : s.states.get? jobId with
  | none => exact ⟨rfl, h⟩
  | some st =>
    simp only [Option.map_some]
    by_cases hleased : st.status ≠ .leased
    · rw [if_pos hleased, if_pos (show (rowOf st).status ≠ .leased from hleased)]
      exact ⟨rfl, h⟩
    · rw [if_neg hleased, if_neg (show ¬((rowOf st).status ≠ .leased) from hleased)]
      by_cases hexp : st.leaseExpiresAtEpoch ≤ now
      · rw [if_pos hexp, if_pos (show (rowOf st).leaseExpiresAtEpoch ≤ now from hexp)]
        exact ⟨rfl, mirrors_requeueExpiredLeases h now none⟩
      · rw [if_neg hexp, if_neg (show ¬((rowOf st).leaseExpiresAtEpoch ≤ now) from hexp)]
        by_cases htok : st.leaseToken ≠ token
        · rw [if_pos htok, if_pos (show (rowOf st).leaseToken ≠ token from htok)]
          exact ⟨rfl, h⟩
        · rw [if_neg htok, if_neg (show ¬((rowOf st).leaseToken ≠ token) from htok)]
          have hsync := (h.inv jobId st hst).2 (not_not.mp hleased)
          refine ⟨?_, h⟩
          rw [hsync]
          rfl

theorem cancelPendingCall_agree (h : Mirrors s t) (now : Epoch) (callId : String) :
    (s.cancelPendingCall now callId).1 = (t.cancelPendingCall now callId).1 ∧
      Mirrors (s.cancelPendingCall now callId).2 (t.cancelPendingCall now callId).2 := by
  by_cases hblank : strip callId = ""
  · simp only [InMemoryByocJobQueueStore.cancelPendingCall,
      SQLiteByocJobQueueStore.cancelPendingCall, if_pos hblank]
    exact ⟨trivial, h⟩
  · have hcount := h.countP_rows fun r ↦ decide (r.callId = strip callId) && r.status = .queued
    refine ⟨?_, ?_⟩
    · simp only [InMemoryByocJobQueueStore.cancelPendingCall,
        SQLiteByocJobQueueStore.cancelPendingCall, if_neg hblank, JobTable.update]
      rw [hcount]
      rfl
    · refine h.of_mapVals (f := fun _ st ↦
          { (if st.envelope.callId = strip callId then
              { st with toLifecycle := st.toLifecycle.cancel now } else st) with
            toLifecycle := (if st.envelope.callId = strip callId then
              { st with toLifecycle := st.toLifecycle.cancel now } else st).toLifecycle.sweep
                now none })
        (g := fun _ r ↦
          { (if r.callId = strip callId then
              { r with toLifecycle := r.toLifecycle.cancel now } else r) with
            toLifecycle := (if r.callId = strip callId then
              { r with toLifecycle := r.toLifecycle.cancel now } else r).toLifecycle.sweepColumns
                now none }) ?_ ?_
        (InMemoryByocJobQueueStore.inv_cancelPendingCall h.inv now callId) ?_ ?_
      · rw [InMemoryByocJobQueueStore.cancelPendingCall_snd hblank]
        simp only [InMemoryByocJobQueueStore.requeueExpiredLeases,
          InMemoryByocJobQueueStore.cancelled, Dict.mapVals_mapVals]
      · rw [SQLiteByocJobQueueStore.cancelPendingCall_rows hblank,
          SQLiteByocJobQueueStore.cancelledRows, Dict.mapVals_mapVals]
      · intro k st hst
        have hunf := h.unfinished k st hst
        by_cases hc : st.envelope.callId = strip callId
        · have hsweep := sweepColumns_eq (hunf.cancel now) now none
          rw [if_pos hc, if_pos (show (rowOf st).callId = strip callId from hc)]
          simp only [rowOf, hsweep]
        · have hsweep := sweepColumns_eq hunf now none
          rw [if_neg hc, if_neg (show ¬(rowOf st).callId = strip callId from hc)]
          simp only [rowOf, hsweep]
      · intro k st hst
        have hunf := h.unfinished k st hst
        by_cases hc : st.envelope.callId = strip callId
        · simp only [if_pos hc]
          exact (hunf.cancel now).sweep now none
        · simp only [if_neg hc]
          exact hunf.sweep now none

theorem replayDeadLetterJob_agree (h : Mirrors s t) (tenantId jobId : String) :
    (s.replayDeadLetterJob tenantId jobId).1 = (t.replayDeadLetterJob tenantId jobId).1 ∧
      Mirrors (s.replayDeadLetterJob tenantId jobId).2 (t.replayDeadLetterJob tenantId jobId).2 := by
  have hinv := InMemoryByocJobQueueStore.inv_replayDeadLetterJob h.inv tenantId jobId
  rw [InMemoryByocJobQueueStore.replayDeadLetterJob, SQLiteByocJobQueueStore.replayDeadLetterJob,
    JobTable.selectJob, h.get?_rows] at *
  by_cases hblank : strip tenantId = "" ∨ strip jobId = ""
  · rw [if_pos hblank, if_pos hblank]
    exact ⟨rfl, h⟩
  · rw [if_neg hblank] at hinv
    rw [if_neg hblank, if_neg hblank]
    cases hst : s.states.get? (strip jobId) with
    | none => exact ⟨rfl, h⟩
    | some st =>
      simp only [hst, Option.map_some] at hinv ⊢
      by_cases hcond : st.envelope.tenantId ≠ strip tenantId ∨ st.status ≠ .deadLettered
      · have hrow : (rowOf st).tenantId ≠ strip tenantId ∨ (rowOf st).status ≠ .deadLettered := hcond
        rw [if_pos hcond, if_pos hrow]
        exact ⟨rfl, h⟩
      · rw [if_neg hcond] at hinv
        have hrow : ¬((rowOf st).tenantId ≠ strip tenantId ∨ (rowOf st).status ≠ .deadLettered) :=
          hcond
        rw [if_neg hcond, if_neg hrow]
        rw [not_or, not_not, not_not] at hcond
        refine ⟨rfl, h.of_modify (j := strip jobId)
          (f := fun st ↦ { st with toLifecycle := st.toLifecycle.replay }) rfl
          (g := fun r ↦ { r with toLifecycle := r.toLifecycle.replay }) rfl hinv
          fun st' hst' ↦ ⟨?_, ?_⟩⟩
        · rfl
        · obtain rfl : st = st' := by rwa [hst, Option.some_inj] at hst'
          have hunf := h.unfinished (strip jobId) st hst
          exact fun _ _ ↦ hunf (by simp [hcond.2]) (by simp [hcond.2])

/-- The overflow of a final status is the same list of ids. -/
theorem overflow_agree {d : Dict String JobState}
    (hd : ∀ k st, d.get? k = some st → st.envelope.jobId = k) (status : JobStatus)
    (finishedAt : JobState → Epoch) (finishedAt' : JobRow → Epoch)
    (hfin : ∀ st, finishedAt' (rowOf st) = finishedAt st) (maxRecords : Int) (tenantId : String) :
    SQLiteByocJobQueueStore.overflow status finishedAt' maxRecords tenantId
        (d.mapVals fun _ st ↦ rowOf st) =
      InMemoryByocJobQueueStore.overflow status finishedAt maxRecords tenantId d := by
  have hrows : SQLiteByocJobQueueStore.rowsOf tenantId status (d.mapVals fun _ st ↦ rowOf st) =
      (d.entries.filter fun e ↦
        decide (e.2.envelope.tenantId = tenantId) && decide (e.2.status = status)).map
          fun e ↦ (e.1, rowOf e.2) := by
    rw [SQLiteByocJobQueueStore.rowsOf, Dict.entries_mapVals, List.filter_map]
    rfl
  simp only [SQLiteByocJobQueueStore.overflow, InMemoryByocJobQueueStore.overflow, hrows]
  generalize hl : (d.entries.filter fun e ↦
    decide (e.2.envelope.tenantId = tenantId) && decide (e.2.status = status)) = l
  have hsort : (l.map fun e ↦ (e.1, rowOf e.2)).mergeSort
      (fun a b ↦ decide (finishedAt' a.2 ≤ finishedAt' b.2)) =
      (l.mergeSort fun a b ↦ decide (finishedAt a.2 ≤ finishedAt b.2)).map
        fun e ↦ (e.1, rowOf e.2) := by
    refine (List.map_mergeSort fun a _ b _ ↦ ?_).symm
    rw [hfin, hfin]
  rw [hsort, List.length_map, ← List.map_take, List.map_map]
  refine List.map_congr_left fun e he ↦ ?_
  have hmem : e ∈ l := List.mem_mergeSort.mp (List.mem_of_mem_take he)
  rw [← hl] at hmem
  exact hd e.1 e.2 (Dict.mem_entries_iff.mp (List.mem_of_mem_filter hmem))

/-- The records that the first loop of `cleanup_retention` keeps. -/
def keptStates (now : Epoch) (normalized : String) (limits : RetentionLimits)
    (d : Dict String JobState) : Dict String JobState :=
  d.filter fun _ st ↦
    !InMemoryByocJobQueueStore.outdated .completed (fun st ↦ st.completedAtEpoch) now
        limits.completedTtlSeconds normalized st &&
      !InMemoryByocJobQueueStore.outdated .cancelled (fun st ↦ st.cancelledAtEpoch) now
        limits.cancelledTtlSeconds normalized st

theorem Mirrors.keptRows_eq (h : Mirrors s t) (now : Epoch) (normalized : String)
    (limits : RetentionLimits) :
    SQLiteByocJobQueueStore.keptRows now normalized limits t.rows =
      (keptStates now normalized limits s.states).mapVals fun _ st ↦ rowOf st := by
  rw [SQLiteByocJobQueueStore.keptRows, h.rows_eq, Dict.filter_mapVals]
  rfl

/-- A cancelled row survives the deletion of completed rows. -/
theorem countP_delete_completed (t : JobTable) (now : Epoch) (normalized : String)
    (ttl ttl' : Int) :
    ((t.delete (SQLiteByocJobQueueStore.outdated .completed (fun r ↦ r.completedAtEpoch) now ttl
        normalized)).2.entries.countP fun e ↦
      SQLiteByocJobQueueStore.outdated .cancelled (fun r ↦ r.cancelledAtEpoch) now ttl'
        normalized e.2) =
    t.entries.countP fun e ↦
      SQLiteByocJobQueueStore.outdated .cancelled (fun r ↦ r.cancelledAtEpoch) now ttl'
        normalized e.2 := by
  rw [JobTable.delete, Dict.entries_filter, List.countP_filter]
  refine List.countP_congr fun e _ ↦ ?_
  simp only [SQLiteByocJobQueueStore.outdated, Bool.and_eq_true, decide_eq_true_eq,
    Bool.not_eq_true', and_iff_left_iff_imp]
  intro hc
  simp [hc.1.1.2]

theorem cleanupRetention_agree (h : Mirrors s t) (now : Epoch) (tenantId : String)
    (limits : RetentionLimits) :
    (s.cleanupRetention now tenantId limits).1 = (t.cleanupRetention now tenantId limits).1 ∧
      Mirrors (s.cleanupRetention now tenantId limits).2
        (t.cleanupRetention now tenantId limits).2 := by
  have hinv := InMemoryByocJobQueueStore.inv_cleanupRetention h.inv now tenantId limits
  by_cases hblank : strip tenantId = ""
  · simp only [InMemoryByocJobQueueStore.cleanupRetention,
      SQLiteByocJobQueueStore.cleanupRetention, if_pos hblank]
    exact ⟨trivial, h⟩
  · have hkeyed : ∀ k st, (keptStates now (strip tenantId) limits s.states).get? k = some st →
        st.envelope.jobId = k := by
      intro k st hst
      rw [keptStates, Dict.get?_filter, Option.filter_eq_some_iff] at hst
      exact (h.inv k st hst.1).1
    have hcompleted := overflow_agree hkeyed .completed (fun st ↦ st.completedAtEpoch)
      (fun r ↦ r.completedAtEpoch) (fun _ ↦ rfl) limits.maxCompletedRecords (strip tenantId)
    have hcancelled := overflow_agree hkeyed .cancelled (fun st ↦ st.cancelledAtEpoch)
      (fun r ↦ r.cancelledAtEpoch) (fun _ ↦ rfl) limits.maxCancelledRecords (strip tenantId)
    rw [← h.keptRows_eq now (strip tenantId) limits] at hcompleted hcancelled
    refine ⟨?_, ?_, hinv, fun k st hst ↦ ?_⟩
    · simp only [InMemoryByocJobQueueStore.cleanupRetention,
        SQLiteByocJobQueueStore.cleanupRetention, if_neg hblank,
        SQLiteByocJobQueueStore.delete_delete, hcompleted, hcancelled]
      congr 2
      · exact (h.countP_rows (SQLiteByocJobQueueStore.outdated .completed
          (fun r ↦ r.completedAtEpoch) now limits.completedTtlSeconds (strip tenantId))).symm
      · have hcount := countP_delete_completed t.rows now (strip tenantId)
          limits.completedTtlSeconds limits.cancelledTtlSeconds
        rw [h.countP_rows] at hcount
        exact hcount.symm
    · have hstates : (s.cleanupRetention now tenantId limits).2.states =
          (keptStates now (strip tenantId) limits s.states).filter fun jobId _ ↦
            jobId ∉ InMemoryByocJobQueueStore.overflow .completed (fun st ↦ st.completedAtEpoch)
              limits.maxCompletedRecords (strip tenantId)
              (keptStates now (strip tenantId) limits s.states) &&
            jobId ∉ InMemoryByocJobQueueStore.overflow .cancelled (fun st ↦ st.cancelledAtEpoch)
              limits.maxCancelledRecords (strip tenantId)
              (keptStates now (strip tenantId) limits s.states) := by
        rw [InMemoryByocJobQueueStore.cleanupRetention, if_neg hblank]
        rfl
      rw [SQLiteByocJobQueueStore.cleanupRetention_rows hblank, hcompleted, hcancelled,
        h.keptRows_eq, Dict.filter_mapVals, hstates]
    · rcases InMemoryByocJobQueueStore.get?_cleanupRetention s now tenantId limits k with
        heq | ⟨heq, -⟩
      · exact h.unfinished k st (heq ▸ hst)
      · rw [heq] at hst
        exact absurd hst (by simp)

/-! ## Operations that may answer differently -/

/-- The `SELECT` of `claim_next` takes the oldest record of the tenant that is queued. -/
theorem selectNextQueued_eq (h : Mirrors s t) (tenantId : String) :
    t.rows.selectNextQueued tenantId =
      (s.states.keys.find? (s.waitsFor tenantId)).bind t.rows.get? := by
  have hfind : (t.rows.entries.find? fun e ↦
      decide (e.2.tenantId = tenantId) && decide (e.2.status = .queued)) =
      (s.states.entries.find? fun e ↦ s.waitsFor tenantId e.1).map
        fun e ↦ (e.1, rowOf e.2) := by
    rw [h.rows_eq, Dict.entries_mapVals, List.find?_map, ← List.head?_filter, ← List.head?_filter]
    congr 2
    refine List.filter_congr fun e he ↦ ?_
    have hget := Dict.mem_entries_iff.mp he
    simp only [Function.comp_apply, InMemoryByocJobQueueStore.waitsFor,
      InMemoryByocJobQueueStore.record, hget, Option.map_some, Option.any_some]
    exact Bool.and_comm _ _
  rw [JobTable.selectNextQueued, hfind, Dict.keys, List.find?_map, Option.map_map]
  cases he : s.states.entries.find? fun e ↦ s.waitsFor tenantId e.1 with
  | none =>
    have he' : s.states.entries.find? (s.waitsFor tenantId ∘ Prod.fst) = none := he
    rw [he']; rfl
  | some e =>
    have he' : s.states.entries.find? (s.waitsFor tenantId ∘ Prod.fst) = some e := he
    have hget := Dict.mem_entries_iff.mp (List.mem_of_find?_eq_some he)
    rw [he', Option.map_some, Option.map_some, Option.bind_some, h.get?_rows, hget]
    rfl

/-- `claim_next` answers alike when, after the sweep, the first queued id of the tenant's deque is
the oldest queued record of the tenant. -/
theorem claimNext_agree (h : Mirrors s t) (now : Epoch) (tenantId workerId : String) (ttl : Int)
    (token : String)
    (horder : ((s.requeueExpiredLeases now none).2.tenantQueue tenantId).find?
        (s.requeueExpiredLeases now none).2.waits =
      (s.requeueExpiredLeases now none).2.states.keys.find?
        ((s.requeueExpiredLeases now none).2.waitsFor tenantId)) :
    (s.claimNext now tenantId workerId ttl token).1 =
        (t.claimNext now tenantId workerId ttl token).1 ∧
      Mirrors (s.claimNext now tenantId workerId ttl token).2
        (t.claimNext now tenantId workerId ttl token).2 := by
  have hm := mirrors_requeueExpiredLeases h now none
  have hinv := InMemoryByocJobQueueStore.inv_claimNext h.inv now tenantId workerId ttl token
  have hsel := selectNextQueued_eq hm tenantId
  rw [← horder, ← List.head?_filter] at hsel
  obtain ⟨rest, hpop, heq⟩ | ⟨j, st, rest, hpop, heq⟩ :=
    InMemoryByocJobQueueStore.claimNext_cases now tenantId workerId ttl token s
  · obtain ⟨rfl, hstale⟩ := InMemoryByocJobQueueStore.popQueued_none hpop
    have hnil : ((s.requeueExpiredLeases now none).2.tenantQueue tenantId).filter
        (s.requeueExpiredLeases now none).2.waits = [] := by
      rw [List.filter_eq_nil_iff]
      intro i hi hw
      obtain ⟨v, hv, hq⟩ := InMemoryByocJobQueueStore.waits_iff.mp hw
      obtain ⟨st', hst', rfl⟩ := Option.map_eq_some_iff.mp hv
      exact hstale i hi st' hst' hq
    rw [hnil] at hsel
    rw [heq] at hinv ⊢
    simp only [SQLiteByocJobQueueStore.claimNext, hsel, List.head?_nil, Option.bind_none]
    exact ⟨trivial, hm.rows_eq, hinv, hm.unfinished⟩
  · obtain ⟨hget, hst, -⟩ := InMemoryByocJobQueueStore.popQueued_spec hpop
    have hid : st.envelope.jobId = j := (hm.inv j st hget).1
    rw [InMemoryByocJobQueueStore.filter_popQueued hpop, List.head?_cons, Option.bind_some,
      hm.get?_rows, hget, Option.map_some] at hsel
    rw [heq] at hinv ⊢
    simp only [SQLiteByocJobQueueStore.claimNext, hsel]
    have hrows : JobTable.updateLease workerId token (now + ttlTicks ttl)
        ((rowOf st).claimAttempt + 1) (rowOf st).jobId (t.requeueExpiredLeases now none).2.rows =
        (t.requeueExpiredLeases now none).2.rows.modify j fun r ↦
          ⟨r.toJobSpec, r.toLifecycle.leaseColumns workerId token (now + ttlTicks ttl)
            ((rowOf st).claimAttempt + 1)⟩ := by
      rw [← hid]; rfl
    refine ⟨rfl, hm.of_modify (j := j)
      (f := fun _ ↦ InMemoryByocJobQueueStore.claimed workerId token (now + ttlTicks ttl) st) rfl
      hrows hinv fun st' hst' ↦ ⟨?_, ?_⟩⟩
    · obtain rfl : st = st' := by rwa [hget, Option.some_inj] at hst'
      rfl
    · exact fun _ _ ↦ hm.unfinished j st hget (by simp [hst]) (by simp [hst])

/-- An `UPDATE` that matches no row. -/
theorem update_of_none {rows : JobTable} {cond : JobRow → Bool} (set : Lifecycle → Lifecycle)
    (h : ∀ k r, rows.get? k = some r → cond r = false) : rows.update cond set = (0, rows) := by
  have hcount : (rows.entries.countP fun e ↦ cond e.2) = 0 := by
    rw [List.countP_eq_zero]
    intro e he
    simp [h e.1 e.2 (Dict.mem_entries_iff.mp he)]
  have hrows : (rows.mapVals fun _ r ↦
      if cond r then { r with toLifecycle := set r.toLifecycle } else r) =
      rows.mapVals fun _ r ↦ r :=
    Dict.mapVals_congr fun k r hr ↦ by simp [h k r hr]
  rw [JobTable.update, hcount, hrows]
  exact congrArg (Prod.mk 0) (Dict.ext (by simp [Dict.entries_mapVals]))

/-- What `requeue_expired_leases` of the SQLite store returns when it dead-letters nothing. -/
theorem fst_requeueExpiredLeases {t : SQLiteByocJobQueueStore} {now : Epoch} {limit : Option Int}
    (hkeep : ∀ k r, t.rows.get? k = some r → r.toLifecycle.expired now = true →
      r.toLifecycle.shouldDlq limit = false) :
    (t.requeueExpiredLeases now limit).1 =
      (if t.shared then t.totalChanges else 0) +
        t.rows.entries.countP fun e ↦ e.2.toLifecycle.expired now := by
  have hdlq : ∀ k, limit = some k → 0 < k → t.rows.updateDeadLetter now k = (0, t.rows) := by
    rintro k rfl hk
    refine update_of_none _ fun j r hr ↦ ?_
    cases hexp : r.toLifecycle.expired now with
    | false => simp
    | true =>
      have hno := hkeep j r hr hexp
      simp only [Lifecycle.shouldDlq, hk, decide_true, Bool.true_and] at hno
      simp only [Bool.true_and]
      exact hno
  have hplain : ∀ n, (if t.shared then t.totalChanges + (0 + n) else 0 + n) =
      (if t.shared then t.totalChanges else 0) + n := by
    intro n
    split <;> simp
  cases limit with
  | none => exact hplain _
  | some k =>
    by_cases hk : 0 < k
    · simp only [SQLiteByocJobQueueStore.requeueExpiredLeases, if_pos hk, hdlq k rfl hk]
      exact hplain _
    · simp only [SQLiteByocJobQueueStore.requeueExpiredLeases, if_neg hk]
      exact hplain _

/-- `requeue_expired_leases` answers alike when it dead-letters nothing, and nothing was counted
before. -/
theorem requeueExpiredLeases_agree (h : Mirrors s t) (now : Epoch) (limit : Option Int)
    (hkeep : ∀ k st, s.states.get? k = some st → st.toLifecycle.expired now = true →
      st.toLifecycle.shouldDlq limit = false)
    (hfresh : t.shared = true → t.totalChanges = 0) :
    (s.requeueExpiredLeases now limit).1 = (t.requeueExpiredLeases now limit).1 := by
  have hmem : (s.requeueExpiredLeases now limit).1 =
      s.states.entries.countP fun e ↦ e.2.toLifecycle.expired now := by
    simp only [InMemoryByocJobQueueStore.requeueExpiredLeases,
      InMemoryByocJobQueueStore.requeued, ← List.countP_eq_length_filter]
    refine List.countP_congr fun e he ↦ ?_
    have hk := hkeep e.1 e.2 (Dict.mem_entries_iff.mp he)
    simp only [Lifecycle.requeues, Bool.and_eq_true, Bool.not_eq_true', and_iff_left_iff_imp]
    exact hk
  have hsql : (t.requeueExpiredLeases now limit).1 =
      (if t.shared then t.totalChanges else 0) +
        t.rows.entries.countP fun e ↦ e.2.toLifecycle.expired now := by
    refine fst_requeueExpiredLeases fun k r hr hexp ↦ ?_
    rw [h.get?_rows] at hr
    obtain ⟨st, hst, rfl⟩ := Option.map_eq_some_iff.mp hr
    exact hkeep k st hst hexp
  have hcount := h.countP_rows fun r ↦ r.toLifecycle.expired now
  have hzero : (if t.shared then t.totalChanges else 0) = 0 := by
    split
    · rename_i hshared
      exact hfresh hshared
    · rfl
  rw [hmem, hsql, hcount, hzero, Nat.zero_add]
  rfl

theorem Mirrors.rowsOf_eq (h : Mirrors s t) (tenantId : String) :
    SQLiteByocJobQueueStore.rowsOf tenantId .deadLettered t.rows =
      (s.deadLettersOf tenantId).map fun e ↦ (e.1, rowOf e.2) :=
  h.filter_rows fun r ↦ decide (r.tenantId = tenantId) && decide (r.status = .deadLettered)

/-- `dead_letter_count` answers alike, except for dead letters without a tenant. -/
theorem deadLetterCount_agree (h : Mirrors s t) (tenantId : String)
    (hblank : strip tenantId = "" → s.deadLettersOf "" = []) :
    s.deadLetterCount tenantId = t.deadLetterCount tenantId := by
  simp only [InMemoryByocJobQueueStore.deadLetterCount, SQLiteByocJobQueueStore.deadLetterCount]
  split
  · rename_i hb
    rw [hb, hblank hb]; rfl
  · rw [h.rowsOf_eq, List.length_map]

/-- `list_dead_letter_jobs` answers alike when no two jobs that make it into the list were
dead-lettered at the same moment. -/
theorem listDeadLetterJobs_agree (h : Mirrors s t) (tenantId : String) (limit : Int)
    (hblank : strip tenantId = "" → s.deadLettersOf "" = [])
    (hties : ∀ a ∈ s.deadLettersOf (strip tenantId), ∀ b ∈ s.deadLettersOf (strip tenantId),
      a ≠ b → a.2.deadLetteredAtEpoch = b.2.deadLetteredAtEpoch →
      (max 1 limit).toNat ≤ (s.deadLettersOf (strip tenantId)).countP fun c ↦
        a.2.deadLetteredAtEpoch < c.2.deadLetteredAtEpoch) :
    s.listDeadLetterJobs tenantId limit = t.listDeadLetterJobs tenantId limit := by
  simp only [InMemoryByocJobQueueStore.listDeadLetterJobs,
    SQLiteByocJobQueueStore.listDeadLetterJobs]
  split
  · rename_i hb
    rw [hb, hblank hb]
    simp
  · rw [h.rowsOf_eq, ← List.map_reverse]
    have hkeyed : ∀ e ∈ s.deadLettersOf (strip tenantId), e.2.envelope.jobId = e.1 := by
      intro e he
      exact (h.inv e.1 e.2 (Dict.mem_entries_iff.mp (List.mem_of_mem_filter he))).1
    generalize s.deadLettersOf (strip tenantId) = l at hties hkeyed
    have hsort : (l.reverse.map fun e ↦ (e.1, rowOf e.2)).mergeSort
        (fun a b ↦ decide (b.2.deadLetteredAtEpoch ≤ a.2.deadLetteredAtEpoch)) =
        (l.reverse.mergeSort fun a b ↦
          decide (b.2.deadLetteredAtEpoch ≤ a.2.deadLetteredAtEpoch)).map
          fun e ↦ (e.1, rowOf e.2) := by
      refine (List.map_mergeSort fun a _ b _ ↦ ?_).symm
      rfl
    have hperm : (l.mergeSort fun a b ↦
        decide (b.2.deadLetteredAtEpoch ≤ a.2.deadLetteredAtEpoch)).Perm
        (l.reverse.mergeSort fun a b ↦
          decide (b.2.deadLetteredAtEpoch ≤ a.2.deadLetteredAtEpoch)) :=
      (List.mergeSort_perm l _).trans
        ((List.reverse_perm l).symm.trans (List.mergeSort_perm l.reverse _).symm)
    have htake := take_eq_of_sorted_perm hperm
      (sortedBy_mergeSort (fun e : String × JobState ↦ e.2.deadLetteredAtEpoch) l)
      (sortedBy_mergeSort (fun e : String × JobState ↦ e.2.deadLetteredAtEpoch) l.reverse)
      (n := (max 1 limit).toNat) fun a ha b hb hab hkey ↦ by
        rw [(List.mergeSort_perm l _).countP_eq]
        exact hties a (List.mem_mergeSort.mp ha) b (List.mem_mergeSort.mp hb) hab hkey
    rw [hsort, ← List.map_take, List.map_map, htake]
    refine List.map_congr_left fun e he ↦ ?_
    have hmem : e ∈ l := by
      have := List.mem_mergeSort.mp (List.mem_of_mem_take he)
      simpa using this
    simp only [Function.comp_apply, rowOf_toLifecycle, rowOf_toJobSpec, hkeyed e hmem]

end Operations

/-! ## Whole runs -/

/-- None of the differences between the backends shows in this call. -/
def Agree (p : InMemoryByocJobQueueStore × SQLiteByocJobQueueStore) (c : JobCall) : Prop :=
  match c.op with
  | .claimNext tenantId _ _ _ =>
    ((p.1.requeueExpiredLeases c.now none).2.tenantQueue tenantId).find?
        (p.1.requeueExpiredLeases c.now none).2.waits =
      (p.1.requeueExpiredLeases c.now none).2.states.keys.find?
        ((p.1.requeueExpiredLeases c.now none).2.waitsFor tenantId)
  | .requeueExpiredLeases limit =>
    (∀ k st, p.1.states.get? k = some st → st.toLifecycle.expired c.now = true →
      st.toLifecycle.shouldDlq limit = false) ∧
    (p.2.shared = true → p.2.totalChanges = 0)
  | .deadLetterCount tenantId => strip tenantId = "" → p.1.deadLettersOf "" = []
  | .listDeadLetterJobs tenantId limit =>
    (strip tenantId = "" → p.1.deadLettersOf "" = []) ∧
    ∀ a ∈ p.1.deadLettersOf (strip tenantId), ∀ b ∈ p.1.deadLettersOf (strip tenantId),
      a ≠ b → a.2.deadLetteredAtEpoch = b.2.deadLetteredAtEpoch →
      (max 1 limit).toNat ≤ (p.1.deadLettersOf (strip tenantId)).countP fun c ↦
        a.2.deadLetteredAtEpoch < c.2.deadLetteredAtEpoch
  | _ => True

/-- **One call on mirrored stores**: the same answer, and mirrored stores again. -/
theorem mirrors_step (s : InMemoryByocJobQueueStore) (t : SQLiteByocJobQueueStore) (c : JobCall)
    (hok : Agree (s, t) c) (h : Mirrors s t) :
    (inMemoryByocJobQueueStore.step s c).1 = (sqliteByocJobQueueStore.step t c).1 ∧
      Mirrors (inMemoryByocJobQueueStore.step s c).2 (sqliteByocJobQueueStore.step t c).2 := by
  obtain ⟨now, op⟩ := c
  cases op <;> simp only [ByocJobQueueStore.step, inMemoryByocJobQueueStore,
    sqliteByocJobQueueStore, JobReply.job.injEq, JobReply.flag.injEq, JobReply.count.injEq,
    JobReply.deadLetters.injEq, JobReply.pruned.injEq, true_and]
  case enqueue job => exact mirrors_enqueue h job
  case claimNext tenantId w ttl token => exact claimNext_agree h now tenantId w ttl token hok
  case completeClaim j token => exact completeClaim_agree h now j token
  case getLeasedJob j token => exact getLeasedJob_agree h now j token
  case requeueExpiredLeases limit =>
    exact ⟨requeueExpiredLeases_agree h now limit hok.1 hok.2,
      mirrors_requeueExpiredLeases h now limit⟩
  case deadLetterCount tenantId => exact ⟨deadLetterCount_agree h tenantId hok, h⟩
  case listDeadLetterJobs tenantId limit =>
    exact ⟨listDeadLetterJobs_agree h tenantId limit hok.1 hok.2, h⟩
  case replayDeadLetterJob tenantId j => exact replayDeadLetterJob_agree h tenantId j
  case cancelPendingCall callId => exact cancelPendingCall_agree h now callId
  case queueDepth =>
    exact ⟨(h.countP_rows fun r ↦ decide (r.status = .queued)).symm, h⟩
  case cleanupRetention tenantId limits => exact cleanupRetention_agree h now tenantId limits

/-- **The backends answer alike in every run whose calls all meet `Agree`**: at each `claim_next`
the tenant's queued job that waits longest is its oldest one, no `requeue_expired_leases` moves a
lease to the dead letters (nor follows a change, on a `:memory:` database), no dead letters of a
blank tenant are asked for, and no tie of dead letters reaches into a list. -/
theorem backends_answer_alike (shared : Bool) (calls : List JobCall)
    (hok : Run.Along (Run.both inMemoryByocJobQueueStore.step sqliteByocJobQueueStore.step) Agree
      (InMemoryByocJobQueueStore.init, SQLiteByocJobQueueStore.init shared) calls) :
    Run.trace inMemoryByocJobQueueStore.step InMemoryByocJobQueueStore.init calls =
      Run.trace sqliteByocJobQueueStore.step (SQLiteByocJobQueueStore.init shared) calls :=
  Run.trace_eq_of_simulation mirrors_step hok (mirrors_init shared)

/-- A job is enqueued, leased, and its lease requeued without a limit. -/
def leasedOnce : List JobCall :=
  [⟨0, .enqueue InMemoryByocJobQueueStore.sampleJob⟩,
    ⟨1, .claimNext "t" "w" 1 "a"⟩,
    ⟨9000000, .requeueExpiredLeases none⟩]

theorem backends_answer_alike_leasedOnce :
    Run.trace inMemoryByocJobQueueStore.step InMemoryByocJobQueueStore.init leasedOnce =
      Run.trace sqliteByocJobQueueStore.step (SQLiteByocJobQueueStore.init false) leasedOnce := by
  refine backends_answer_alike false leasedOnce ⟨trivial, ?_, ⟨?_, ?_⟩, trivial⟩
  · simp only [Agree]
    decide
  · intro k st _ _
    rfl
  · intro hshared
    exact absurd hshared (by decide)

/-- The same run with a dead-letter limit of one: one store reports no requeued lease, the other
reports the dead-lettered one. -/
theorem backends_differ_dead_letter :
    Run.trace inMemoryByocJobQueueStore.step InMemoryByocJobQueueStore.init
        [⟨0, .enqueue InMemoryByocJobQueueStore.sampleJob⟩, ⟨1, .claimNext "t" "w" 1 "a"⟩,
          ⟨9000000, .requeueExpiredLeases (some 1)⟩] ≠
      Run.trace sqliteByocJobQueueStore.step (SQLiteByocJobQueueStore.init false)
        [⟨0, .enqueue InMemoryByocJobQueueStore.sampleJob⟩, ⟨1, .claimNext "t" "w" 1 "a"⟩,
          ⟨9000000, .requeueExpiredLeases (some 1)⟩] := by
  decide

end Byoc
end ExoBrain
