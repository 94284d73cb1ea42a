import ExoBrain.Byoc.RecordLaws
import ExoBrain.Lib.Surplus

/-!
# Retention removes exactly what it should

`cleanup_retention` of both job stores clears the completed and the cancelled records of a tenant:
first the ones that are past their time to live, then, of the others, the oldest beyond a cap.

* `CleansUp` says what that is, of the records before and after: for each of the two final statuses
  the records are pruned (`Surplus.Prunes`), the count that is returned is the number of records
  that went, and every other record is still there.
* `cleanup_retention_exact` proves it of both stores, in every state and for all limits.

A record ages from the time it was finished.  The time is zero where none was recorded, as in the
rows of a database from before the column (`ALTER TABLE .. DEFAULT 0`); the guard
`completed_at_epoch > 0` keeps such records out of the first pass, and only the cap removes them.
The tenant id is stripped, and a blank one names no tenant.
-/

set_option autoImplicit false

namespace ExoBrain
namespace Byoc

open Text Surplus

/-! ## What a clean-up should do -/

/-- A record as `cleanup_retention` reads it. -/
structure FiledJob extends Lifecycle where
  tenantId : String

/-- A record of the in-memory store. -/
def JobState.filed (st : JobState) : FiledJob :=
  { st.toLifecycle with tenantId := st.envelope.tenantId }

/-- A row of `byoc_jobs`. -/
def JobRow.filed (r : JobRow) : FiledJob := { r.toLifecycle with tenantId := r.tenantId }

/-- The final statuses that are cleaned up. -/
inductive FinalStatus
  | completed
  | cancelled
deriving DecidableEq, Repr

namespace FinalStatus

/-- The status. -/
def status : FinalStatus → JobStatus
  | .completed => .completed
  | .cancelled => .cancelled

/-- When it was reached: `completed_at_epoch`, `cancelled_at_epoch`. -/
def finishedAt : FinalStatus → Lifecycle → Epoch
  | .completed, l => l.completedAtEpoch
  | .cancelled, l => l.cancelledAtEpoch

/-- Its time to live. -/
def ttlSeconds : FinalStatus → RetentionLimits → Int
  | .completed, limits => limits.completedTtlSeconds
  | .cancelled, limits => limits.cancelledTtlSeconds

/-- Its cap. -/
def maxRecords : FinalStatus → RetentionLimits → Int
  | .completed, limits => limits.maxCompletedRecords
  | .cancelled, limits => limits.maxCancelledRecords

/-- Its count in what is returned. -/
def pruned : FinalStatus → PrunedCounts → Nat
  | .completed, counts => counts.completedPruned
  | .cancelled, counts => counts.cancelledPruned

/-- A record of the tenant with the status. -/
def has (f : FinalStatus) (tenantId : String) (r : FiledJob) : Bool :=
  r.tenantId = tenantId && r.status = f.status

/-- The finish time is at or before `now - max(ttl, 1)`. -/
def pastTtl (f : FinalStatus) (now : Epoch) (limits : RetentionLimits) (r : FiledJob) : Bool :=
  f.finishedAt r.toLifecycle + ttlTicks (f.ttlSeconds limits) ≤ now

/-- The same of a finish time that was recorded. -/
def outlived (f : FinalStatus) (now : Epoch) (limits : RetentionLimits) (r : FiledJob) : Bool :=
  0 < f.finishedAt r.toLifecycle && f.pastTtl now limits r

/-- A record has one final status at most. -/
theorem eq_of_has {f g : FinalStatus} {t : String} {r : FiledJob} (hf : f.has t r = true)
    (hg : g.has t r = true) : f = g := by
  simp only [has, Bool.and_eq_true, decide_eq_true_eq] at hf hg
  have h : f.status = g.status := hf.2.symm.trans hg.2
  cases f <;> cases g <;> first | rfl | exact absurd h (by decide)

end FinalStatus

variable {α : Type} {read : α → FiledJob} {tooOld : FinalStatus → FiledJob → Bool} {t : String}
  {limits : RetentionLimits} {counts : PrunedCounts} {before after : Dict String α}

/-- What the clean-up of tenant `t` makes of the records, where `tooOld` says which are past their
time to live. -/
structure CleansUp (read : α → FiledJob) (tooOld : FinalStatus → FiledJob → Bool) (t : String)
    (limits : RetentionLimits) (counts : PrunedCounts) (before after : Dict String α) : Prop where
  /-- Of each final status it removes what is too old, and then the oldest beyond the cap. -/
  prunes : ∀ f : FinalStatus, Prunes (fun x ↦ f.has t (read x)) (fun x ↦ tooOld f (read x))
    (fun x ↦ f.finishedAt (read x).toLifecycle) (f.maxRecords limits).toNat before after
  /-- The counts are the numbers of records that went. -/
  counted : ∀ f : FinalStatus,
    f.pruned counts + (after.entries.countP fun e ↦ f.has t (read e.2)) =
      before.entries.countP fun e ↦ f.has t (read e.2)
  /-- It removes no other record of the tenant, and none of another tenant. -/
  kept : ∀ k x, before.get? k = some x → (∀ f : FinalStatus, f.has t (read x) = false) →
    after.get? k = some x
  /-- And it changes none. -/
  sub : ∀ k x, after.get? k = some x → before.get? k = some x

/-- The ids of the records of one final status beyond its cap. -/
def overflowingIds (read : α → FiledJob) (tooOld : FinalStatus → FiledJob → Bool) (t : String)
    (limits : RetentionLimits) (f : FinalStatus) (d : Dict String α) : List String :=
  overflowing
    (fun a b ↦ f.finishedAt (read a.2).toLifecycle ≤ f.finishedAt (read b.2).toLifecycle)
    (fun x ↦ f.has t (read x)) (fun x ↦ tooOld f (read x)) (f.maxRecords limits).toNat d

/-- The first pass keeps the record. -/
def stays (tooOld : FinalStatus → FiledJob → Bool) (t : String) (r : FiledJob) : Bool :=
  !(FinalStatus.completed.has t r && tooOld .completed r) &&
    !(FinalStatus.cancelled.has t r && tooOld .cancelled r)

theorem stays_iff {r : FiledJob} :
    stays tooOld t r = true ↔ ∀ f : FinalStatus, f.has t r = true → tooOld f r = false := by
  rw [stays, Bool.and_eq_true, Bool.not_eq_true', Bool.not_eq_true']
  simp only [Bool.and_eq_false_imp]
  exact ⟨fun h f ↦ match f with | .completed => h.1 | .cancelled => h.2,
    fun h ↦ ⟨h .completed, h .cancelled⟩⟩

/-- The records the second pass sorts, for one final status. -/
theorem filter_has_stays (read : α → FiledJob) (tooOld : FinalStatus → FiledJob → Bool) (t : String)
    (f : FinalStatus) (d : Dict String α) :
    (d.filter fun _ x ↦ stays tooOld t (read x)).entries.filter (fun e ↦ f.has t (read e.2)) =
      recent (fun x ↦ f.has t (read x)) (fun x ↦ tooOld f (read x)) d := by
  rw [Dict.entries_filter, List.filter_filter, recent]
  refine List.filter_congr fun e _ ↦ ?_
  cases hhas : f.has t (read e.2) with
  | false => rfl
  | true =>
    rw [Bool.true_and, Bool.true_and, Bool.eq_iff_iff, stays_iff, Bool.not_eq_true']
    constructor
    · exact fun h ↦ h f hhas
    · intro h g hg
      rw [FinalStatus.eq_of_has hg hhas]
      exact h

/-- What is left after both passes, record by record. -/
theorem get?_passes {k : String} {x : α} :
    ((before.filter fun _ x ↦ stays tooOld t (read x)).filter fun k _ ↦
        k ∉ overflowingIds read tooOld t limits .completed before &&
          k ∉ overflowingIds read tooOld t limits .cancelled before).get? k = some x ↔
      before.get? k = some x ∧ ∀ f : FinalStatus, f.has t (read x) = true →
        tooOld f (read x) = false ∧ k ∉ overflowingIds read tooOld t limits f before := by
  simp only [Dict.get?_filter, Option.filter_eq_some_iff, Bool.and_eq_true,
    decide_eq_true_eq, and_assoc, stays_iff]
  refine and_congr_right fun hbefore ↦ ⟨?_, fun h ↦ ?_⟩
  · rintro ⟨hrecent, hcompleted, hcancelled⟩ f hf
    exact ⟨hrecent f hf, match f with | .completed => hcompleted | .cancelled => hcancelled⟩
  · have hin : ∀ f : FinalStatus, k ∉ overflowingIds read tooOld t limits f before := by
      -- what overflows is a record of that status, so `h` speaks of it
      intro f hover
      obtain ⟨y, hy, hhas, -⟩ := of_mem_overflowing hover
      rw [hbefore, Option.some_inj] at hy
      subst hy
      exact (h f hhas).2 hover
    exact ⟨fun f hf ↦ (h f hf).1, hin .completed, hin .cancelled⟩

/-- **The two passes clean up.** -/
theorem cleansUp_of_passes
    (hafter : after = (before.filter fun _ x ↦ stays tooOld t (read x)).filter fun k _ ↦
      k ∉ overflowingIds read tooOld t limits .completed before &&
        k ∉ overflowingIds read tooOld t limits .cancelled before)
    (hcounts : ∀ f : FinalStatus, f.pruned counts =
      (before.entries.countP fun e ↦ f.has t (read e.2) && tooOld f (read e.2)) +
        (overflowingIds read tooOld t limits f before).length) :
    CleansUp read tooOld t limits counts before after := by
  have hget : ∀ k x, after.get? k = some x ↔ before.get? k = some x ∧
      ∀ f : FinalStatus, f.has t (read x) = true →
        tooOld f (read x) = false ∧ k ∉ overflowingIds read tooOld t limits f before := by
    intro k x
    rw [hafter]
    exact get?_passes
  have hprunes : ∀ f : FinalStatus, Prunes (fun x ↦ f.has t (read x))
      (fun x ↦ tooOld f (read x)) (fun x ↦ f.finishedAt (read x).toLifecycle)
      (f.maxRecords limits).toNat before after := by
    refine fun f ↦ prunes_of_get? (sorts_time _) (fun k x h ↦ ((hget k x).mp h).1) fun k x hbefore hhas ↦ ?_
    rw [hget]
    constructor
    · exact fun h ↦ h.2 f hhas
    · intro h
      refine ⟨hbefore, fun g hg ↦ ?_⟩
      rw [FinalStatus.eq_of_has hg hhas]
      exact h
  refine ⟨hprunes, fun f ↦ ?_, fun k x hbefore hnone ↦ ?_, fun k x h ↦ ((hget k x).mp h).1⟩
  · rw [hcounts f]
    exact (hprunes f).count _
  · refine (hget k x).mpr ⟨hbefore, fun f hf ↦ ?_⟩
    rw [hnone f] at hf
    exact nomatch hf

/-! ## The in-memory store -/

namespace InMemoryByocJobQueueStore

theorem outdated_eq (f : FinalStatus) (now : Epoch) (limits : RetentionLimits) (t : String)
    (st : JobState) :
    outdated f.status (fun st ↦ f.finishedAt st.toLifecycle) now (f.ttlSeconds limits) t st =
      (f.has t st.filed && f.outlived now limits st.filed) := by
  rw [outdated, Bool.and_assoc]
  rfl

theorem overflow_eq (f : FinalStatus) (now : Epoch) (limits : RetentionLimits) (t : String)
    (d : Dict String JobState) :
    overflow f.status (fun st ↦ f.finishedAt st.toLifecycle) (f.maxRecords limits) t
        (d.filter fun _ st ↦ stays (fun f ↦ f.outlived now limits) t st.filed) =
      overflowingIds JobState.filed (fun f ↦ f.outlived now limits) t limits f d := by
  have hrows := filter_has_stays JobState.filed (fun f ↦ f.outlived now limits) t f d
  rw [overflowingIds, overflowing, ← hrows, surplus, overflow, List.length_mergeSort]
  rfl

/-- `cleanup_retention` of a tenant cleans up. -/
theorem cleansUp {tenantId : String} (h : strip tenantId ≠ "") (s : InMemoryByocJobQueueStore)
    (now : Epoch) (limits : RetentionLimits) :
    CleansUp JobState.filed (fun f ↦ f.outlived now limits) (strip tenantId) limits
      (s.cleanupRetention now tenantId limits).1 s.states
      (s.cleanupRetention now tenantId limits).2.states := by
  have hcompleted := outdated_eq .completed now limits (strip tenantId)
  have hcancelled := outdated_eq .cancelled now limits (strip tenantId)
  have hoverCompleted := overflow_eq .completed now limits (strip tenantId) s.states
  have hoverCancelled := overflow_eq .cancelled now limits (strip tenantId) s.states
  simp only [FinalStatus.status, FinalStatus.finishedAt, FinalStatus.ttlSeconds,
    FinalStatus.maxRecords, stays] at hcompleted hcancelled hoverCompleted hoverCancelled
  apply cleansUp_of_passes
  · simp only [cleanupRetention, if_neg h, hcompleted, hcancelled, hoverCompleted,
      hoverCancelled, stays]
  · intro f
    cases f with
    | completed =>
      simp only [cleanupRetention, if_neg h, hcompleted, hcancelled, hoverCompleted,
        FinalStatus.pruned]
    | cancelled =>
      simp only [cleanupRetention, if_neg h, hcompleted, hcancelled, hoverCancelled,
        FinalStatus.pruned]

end InMemoryByocJobQueueStore

/-! ## The SQLite store -/

namespace SQLiteByocJobQueueStore

theorem outdated_eq (f : FinalStatus) (now : Epoch) (limits : RetentionLimits) (t : String)
    (r : JobRow) :
    outdated f.status (fun r ↦ f.finishedAt r.toLifecycle) now (f.ttlSeconds limits) t r =
      (f.has t r.filed && f.outlived now limits r.filed) := by
  rw [outdated, Bool.and_assoc]
  rfl

/-- The ids in the rows are the keys. -/
theorem overflow_eq {d : JobTable} (hkeys : ∀ k r, d.get? k = some r → r.jobId = k)
    (f : FinalStatus) (now : Epoch) (limits : RetentionLimits) (t : String) :
    overflow f.status (fun r ↦ f.finishedAt r.toLifecycle) (f.maxRecords limits) t
        (d.filter fun _ r ↦ stays (fun f ↦ f.outlived now limits) t r.filed) =
      overflowingIds JobRow.filed (fun f ↦ f.outlived now limits) t limits f d := by
  have hrows := filter_has_stays JobRow.filed (fun f ↦ f.outlived now limits) t f d
  rw [overflowingIds, overflowing, ← hrows, surplus, overflow, List.length_mergeSort]
  refine List.map_congr_left fun e he ↦ ?_
  have hentry : e ∈ d.entries :=
    (List.mem_filter.mp (List.mem_filter.mp (List.mem_mergeSort.mp (List.mem_of_mem_take he))).1).1
  exact hkeys e.1 e.2 (Dict.mem_entries_iff.mp hentry)

/-- The second `DELETE` counts as if it came first. -/
theorem countP_delete (now : Epoch) (limits : RetentionLimits) (t : String) (d : JobTable) :
    ((d.delete fun r ↦ FinalStatus.completed.has t r.filed &&
        FinalStatus.completed.outlived now limits r.filed).2.delete fun r ↦
          FinalStatus.cancelled.has t r.filed &&
            FinalStatus.cancelled.outlived now limits r.filed).1 =
      d.entries.countP fun e ↦ FinalStatus.cancelled.has t e.2.filed &&
        FinalStatus.cancelled.outlived now limits e.2.filed := by
  simp only [JobTable.delete, Dict.entries_filter, List.countP_filter]
  refine List.countP_congr fun e _ ↦ ?_
  simp only [Bool.and_eq_true, Bool.not_eq_true', Bool.and_eq_false_imp]
  constructor
  · exact fun h ↦ h.1
  · refine fun h ↦ ⟨h, fun hcompleted ↦ ?_⟩
    cases FinalStatus.eq_of_has h.1 hcompleted

/-- `cleanup_retention` of a tenant cleans up. -/
theorem cleansUp {s : SQLiteByocJobQueueStore} (hinv : Inv s) {tenantId : String}
    (h : strip tenantId ≠ "") (now : Epoch) (limits : RetentionLimits) :
    CleansUp JobRow.filed (fun f ↦ f.outlived now limits) (strip tenantId) limits
      (s.cleanupRetention now tenantId limits).1 s.rows
      (s.cleanupRetention now tenantId limits).2.rows := by
  have hcompleted := outdated_eq .completed now limits (strip tenantId)
  have hcancelled := outdated_eq .cancelled now limits (strip tenantId)
  have hoverCompleted := overflow_eq hinv .completed now limits (strip tenantId)
  have hoverCancelled := overflow_eq hinv .cancelled now limits (strip tenantId)
  simp only [FinalStatus.status, FinalStatus.finishedAt, FinalStatus.ttlSeconds,
    FinalStatus.maxRecords, stays] at hcompleted hcancelled hoverCompleted hoverCancelled
  have hkept := delete_delete now (strip tenantId) limits s.rows
  have hcount := countP_delete now limits (strip tenantId) s.rows
  simp only [funext hcompleted, funext hcancelled, keptRows] at hkept
  apply cleansUp_of_passes
  · simp only [cleanupRetention, if_neg h, hkept, funext hcompleted, funext hcancelled,
      hoverCompleted, hoverCancelled, stays, commit_rows]
  · intro f
    cases f with
    | completed =>
      simp only [cleanupRetention, if_neg h, funext hcompleted, funext hcancelled, hkept,
        hoverCompleted, FinalStatus.pruned]
      rfl
    | cancelled =>
      simp only [cleanupRetention, if_neg h, funext hcompleted, funext hcancelled, hkept,
        hcount, hoverCancelled, FinalStatus.pruned]

end SQLiteByocJobQueueStore

/-! ## Both stores -/

variable {σ : Type}

/-- A call of `cleanup_retention` did what it should: nothing for a blank tenant id, and otherwise
a clean-up of the tenant it names. -/
def CleanupExact (R : ByocJobQueueStore σ) (read : α → FiledJob) (records : σ → Dict String α)
    (now : Epoch) (tenantId : String) (limits : RetentionLimits) (s : σ) : Prop :=
  let result := R.cleanupRetention now tenantId limits s
  if strip tenantId = "" then result = (⟨0, 0⟩, s)
  else
    CleansUp read (fun f ↦ f.outlived now limits) (strip tenantId) limits result.1 (records s)
      (records result.2)

/-- **Retention removes exactly what it should**, in both job stores: of the completed and the
cancelled records of the tenant the ones past their time to live, where they have a finish time,
and of the others the oldest, until no more than the cap are left. -/
theorem cleanup_retention_exact (now : Epoch) (tenantId : String) (limits : RetentionLimits) :
    (∀ s, CleanupExact inMemoryByocJobQueueStore JobState.filed (fun s ↦ s.states) now tenantId
      limits s) ∧
    ∀ s, SQLiteByocJobQueueStore.Inv s →
      CleanupExact sqliteByocJobQueueStore JobRow.filed (fun s ↦ s.rows) now tenantId limits s := by
  constructor
  · intro s
    rw [CleanupExact]
    split
    · rename_i hblank
      simp only [inMemoryByocJobQueueStore, InMemoryByocJobQueueStore.cleanupRetention,
        if_pos hblank]
    · rename_i htenant
      exact InMemoryByocJobQueueStore.cleansUp htenant s now limits
  · intro s hinv
    rw [CleanupExact]
    split
    · rename_i hblank
      simp only [sqliteByocJobQueueStore, SQLiteByocJobQueueStore.cleanupRetention, if_pos hblank]
    · rename_i htenant
      exact SQLiteByocJobQueueStore.cleansUp hinv htenant now limits

/-! ## A row without a finish time -/

/-- A completed job of tenant `t` from before `completed_at_epoch` was a column. -/
def migratedRow : JobRow where
  jobId := "j"
  callId := "c"
  tenantId := "t"
  runId := ""
  toolName := ""
  idempotencyKey := ""
  status := .completed

/-- The database it is in. -/
def migratedStore : SQLiteByocJobQueueStore :=
  ⟨Dict.empty.set "j" migratedRow, false, 0⟩

/-- A time to live of a second for both, and room for one record. -/
def shortLimits : RetentionLimits := ⟨1, 1, 1, 1⟩
/-- Two seconds after the epoch; a finish time of zero is more than a second ago. -/
def twoSeconds : Epoch := 2 * ticksPerSecond

theorem migratedStore_inv : SQLiteByocJobQueueStore.Inv migratedStore := by
  intro k r h
  rw [migratedStore, Dict.get?_set, Dict.get?_empty] at h
  split at h
  · rename_i hk
    rw [← Option.some_inj.mp h, hk]
    rfl
  · exact nomatch h

/-- Its clean-up is exact: the row stays, since it has no finish time and fits under the cap. -/
theorem cleanup_retention_exact_migrated :
    CleanupExact sqliteByocJobQueueStore JobRow.filed (fun s ↦ s.rows) twoSeconds " t" shortLimits
      migratedStore :=
  (cleanup_retention_exact twoSeconds " t" shortLimits).2 migratedStore migratedStore_inv

/-- The row is past its time to live as it stands, and the clean-up leaves it. -/
theorem migrated_row_not_cleaned_up :
    ¬ CleansUp JobRow.filed (fun f ↦ f.pastTtl twoSeconds shortLimits) "t" shortLimits
      (migratedStore.cleanupRetention twoSeconds "t" shortLimits).1 migratedStore.rows
      (migratedStore.cleanupRetention twoSeconds "t" shortLimits).2.rows := by
  intro h
  have htenant : strip "t" ≠ "" := by decide +kernel
  have hstays := ((SQLiteByocJobQueueStore.cleansUp migratedStore_inv htenant twoSeconds
    shortLimits).prunes .completed).left
  have hgone := (h.prunes .completed).left
  rw [show strip "t" = "t" by decide +kernel, hgone] at hstays
  exact absurd hstays (by decide +kernel)

end Byoc
end ExoBrain
