import ExoBrain.Lib.Run
import ExoBrain.Byoc.SqliteResultStore

/-!
# Two result stores, side by side

The in-memory result store and the SQLite one on a database file, under the same calls of `ingest`,
`consume`, `has_idempotency_key` and `list_conflict_counts`.  They are meant to answer alike, and to
count every conflict once, and there are two ways in which they do not.

* *A refused conflict.*  A result that its job's payload keeps out is counted by the SQLite store in
  a transaction that `ingest` then leaves without a `commit`, and a connection to a file that is
  dropped rolls it back.  Also, SQLite looks at the payload before it looks for the key, so it
  refuses a result whose key was ingested before, where the other store reports a duplicate.
* *A tool version with an `@`.*  The in-memory store counts under `tool@version`, and cuts that at
  the last `@` when it reports the counter.

`Comparable` excludes these two, in the state an `ingest` finds.  `MirrorsResults` is the relation
between the stores that every such call keeps: the same keys, the same payloads, and the same
counters under different names for their keys.  The counters themselves are compared with the
outcomes of the run (`CountsConflicts`).
-/

set_option autoImplicit false

namespace ExoBrain
namespace Byoc

open Text

/-! ## Calls -/

/-- The calls of the two stores that are compared. -/
inductive ResultCall
  | ingest (now : Epoch) (result : ByocToolResultEnvelope)
  | consume (jobId : String)
  | hasIdempotencyKey (key : String)
  | listConflictCounts (tenantId : String)
deriving DecidableEq, Repr

/-- Their answers. -/
inductive ResultReply
  | outcome (outcome : ByocResultIngestOutcome)
  | payload (result : Option ByocToolResultEnvelope)
  | seen (known : Bool)
  | counts (records : List ByocConflictCountRecord)
deriving DecidableEq, Repr

/-- The same answer, up to the order of a list of counters. -/
def ResultReply.Alike : ResultReply → ResultReply → Prop
  | .counts a, .counts b => a.Perm b
  | a, b => a = b

/-- One call of a result store. -/
def resultStep {τ : Type} (store : ByocResultStore τ)
    (listConflictCounts : String → τ → List ByocConflictCountRecord) (s : τ) :
    ResultCall → ResultReply × τ
  | .ingest now result => (.outcome (store.ingest now result s).1, (store.ingest now result s).2)
  | .consume jobId => (.payload (store.consume jobId s).1, (store.consume jobId s).2)
  | .hasIdempotencyKey key => (.seen (store.hasIdempotencyKey key s), s)
  | .listConflictCounts tenantId => (.counts (listConflictCounts tenantId s), s)

/-- One call of the in-memory store. -/
def InMemoryByocResultStore.step :
    InMemoryByocResultStore → ResultCall → ResultReply × InMemoryByocResultStore :=
  resultStep inMemoryByocResultStore InMemoryByocResultStore.listConflictCounts

/-- One call of the SQLite store. -/
def SQLiteByocResultStore.step :
    SQLiteByocResultStore → ResultCall → ResultReply × SQLiteByocResultStore :=
  resultStep sqliteByocResultStore SQLiteByocResultStore.listConflictCounts

theorem SQLiteByocResultStore.step_ingest (t : SQLiteByocResultStore) (now : Epoch)
    (result : ByocToolResultEnvelope) :
    t.step (.ingest now result) = (.outcome (t.ingest now result).1, (t.ingest now result).2) := by
  simp only [SQLiteByocResultStore.step, resultStep, sqliteByocResultStore]

theorem SQLiteByocResultStore.step_consume (t : SQLiteByocResultStore) (jobId : String) :
    t.step (.consume jobId) = (.payload (t.consume jobId).1, (t.consume jobId).2) := by
  simp only [SQLiteByocResultStore.step, resultStep, sqliteByocResultStore]

/-! ## Counting conflicts -/

/-- The row in which a conflict of this result is counted. -/
def conflictKey (strategy : ByocResultConflictStrategy) (result : ByocToolResultEnvelope)
    (reasonCode : String) : ConflictKey where
  tenantId := if strip result.tenantId = "" then "default" else strip result.tenantId
  strategy := strategy.value
  toolName := if strip result.toolName = "" then "unknown_tool" else strip result.toolName
  toolVersion := strip result.toolVersion
  reasonCode := reasonCode

/-- Does this call end in the conflict that is counted in this row? -/
def conflictIn (strategy : ByocResultConflictStrategy) (key : ConflictKey) :
    ResultCall × ResultReply → Bool
  | (.ingest _ result, .outcome outcome) =>
    (outcome = .conflictRejected || outcome = .conflictReplaced) &&
      conflictKey strategy result outcome.reasonCode = key
  | _ => false

/-- What a list of counters shows for a tool, its version and a reason. -/
def shownCount (records : List ByocConflictCountRecord)
    (strategy toolName toolVersion reasonCode : String) : Nat :=
  ((records.filter fun r ↦ r.strategy = strategy && r.toolName = toolName &&
    r.toolVersion = toolVersion && r.reasonCode = reasonCode).map fun r ↦ r.count).sum

/-- Whatever a tenant is shown is the number of conflicts there have been. -/
def CountsConflicts (strategy : ByocResultConflictStrategy)
    (history : List (ResultCall × ResultReply))
    (listConflictCounts : String → List ByocConflictCountRecord) : Prop :=
  ∀ tenantId toolName toolVersion reasonCode, strip tenantId ≠ "" →
    shownCount (listConflictCounts tenantId) strategy.value toolName toolVersion reasonCode =
      history.countP (conflictIn strategy
        ⟨strip tenantId, strategy.value, toolName, toolVersion, reasonCode⟩)

theorem shownCount_perm {records records' : List ByocConflictCountRecord}
    (h : records.Perm records') (strategy toolName toolVersion reasonCode : String) :
    shownCount records strategy toolName toolVersion reasonCode =
      shownCount records' strategy toolName toolVersion reasonCode :=
  ((h.filter _).map _).sum_nat

/-! ## Where the stores can be compared -/

/-- The result would take the place of the payload its job has. -/
def SQLiteByocResultStore.replaces (s : SQLiteByocResultStore) (result : ByocToolResultEnvelope) :
    Bool :=
  strip result.idempotencyKey ∉ s.idempotency.keys &&
    (s.payloads.get? result.jobId).any fun row ↦
      strip row.payload.idempotencyKey ≠ strip result.idempotencyKey

/-- Neither of the two differences shows in this call. -/
def Comparable (s : SQLiteByocResultStore) : ResultCall → Prop
  | .ingest _ result =>
    strip result.idempotencyKey = "" ∨
      conflictRefused s.conflictStrategy ((s.payloads.get? result.jobId).map PayloadRow.payload)
          result = false ∧
        (s.replaces result = true → '@' ∉ (strip result.toolVersion).toList)
  | _ => True

instance (s : SQLiteByocResultStore) : (c : ResultCall) → Decidable (Comparable s c)
  | .ingest _ _ => inferInstanceAs (Decidable (_ ∨ _ ∧ (_ → _)))
  | .consume _ => isTrue trivial
  | .hasIdempotencyKey _ => isTrue trivial
  | .listConflictCounts _ => isTrue trivial

/-! ## Mirrored stores -/

/-- The key under which the in-memory store counts. -/
def ConflictKey.inMemory (key : ConflictKey) : String × String × String :=
  (key.tenantId, key.reasonCode, key.toolName ++ "@" ++ key.toolVersion)

/-- The two stores hold the same. -/
structure MirrorsResults (s : InMemoryByocResultStore) (t : SQLiteByocResultStore) : Prop where
  strategy : s.conflictStrategy = t.conflictStrategy
  onFile : t.shared = false
  seen : ∀ key, key ∈ s.seenIdempotencyKeys ↔ key ∈ t.idempotency.keys
  payloads : ∀ jobId, s.resultsByJobId.get? jobId = (t.payloads.get? jobId).map PayloadRow.payload
  /-- A payload came in under a key that is remembered. -/
  keyed : ∀ jobId row, t.payloads.get? jobId = some row →
    strip row.payload.idempotencyKey ∈ t.idempotency.keys
  counters : t.conflicts.Renames ConflictKey.inMemory s.conflictCounts
  rows : ∀ key ∈ t.conflicts.keys,
    key.strategy = t.conflictStrategy.value ∧ '@' ∉ key.toolVersion.toList

variable {s : InMemoryByocResultStore} {t : SQLiteByocResultStore}

theorem mirrorsResults_init (strategy : ByocResultConflictStrategy) :
    MirrorsResults (InMemoryByocResultStore.init strategy)
      (SQLiteByocResultStore.init strategy false) where
  strategy := rfl
  onFile := rfl
  seen key := by simp [InMemoryByocResultStore.init, SQLiteByocResultStore.init, Dict.keys,
    Dict.empty]
  payloads _ := rfl
  keyed _ _ h := by cases h
  counters := rfl
  rows key h := absurd h (by simp [SQLiteByocResultStore.init, Dict.keys, Dict.empty])

/-- Rows of one strategy, with no `@` in their versions, have different names in the other
store. -/
theorem ConflictKey.inMemory_inj {a b : ConflictKey} (hstrategy : a.strategy = b.strategy)
    (ha : '@' ∉ a.toolVersion.toList) (hb : '@' ∉ b.toolVersion.toList)
    (h : a.inMemory = b.inMemory) : a = b := by
  obtain ⟨htenant, hrest⟩ := Prod.mk.inj h
  obtain ⟨hreason, htool⟩ := Prod.mk.inj hrest
  have hsplit : some (a.toolName, a.toolVersion) = some (b.toolName, b.toolVersion) := by
    rw [← rsplit_append ha, ← rsplit_append hb]
    exact congrArg (rsplit '@') htool
  obtain ⟨hname, hversion⟩ := Prod.mk.inj (Option.some.inj hsplit)
  cases a
  cases b
  simp only at htenant hreason hname hversion hstrategy
  subst htenant hreason hname hversion hstrategy
  rfl

/-- A counter looks the same in the lists of both stores. -/
theorem conflictRecord_inMemory {strategy : ByocResultConflictStrategy} {key : ConflictKey}
    (hstrategy : key.strategy = strategy.value) (hversion : '@' ∉ key.toolVersion.toList)
    (count : Nat) :
    InMemoryByocResultStore.conflictRecord strategy (key.inMemory, count) =
      SQLiteByocResultStore.conflictRecord (key, count) := by
  have hsplit : rsplit '@' (key.toolName ++ "@" ++ key.toolVersion) =
      some (key.toolName, key.toolVersion) := rsplit_append hversion
  simp only [InMemoryByocResultStore.conflictRecord, ConflictKey.inMemory,
    SQLiteByocResultStore.conflictRecord]
  rw [hsplit, hstrategy]
  rfl

/-- The lists of counters of mirrored stores hold the same records. -/
theorem MirrorsResults.listConflictCounts (h : MirrorsResults s t) (tenantId : String) :
    (s.listConflictCounts tenantId).Perm (t.listConflictCounts tenantId) := by
  rw [InMemoryByocResultStore.listConflictCounts, SQLiteByocResultStore.listConflictCounts]
  split
  · exact List.Perm.nil
  · have hsame : ((s.conflictCounts.entries.filter fun e ↦ e.1.1 = strip tenantId).map
          (InMemoryByocResultStore.conflictRecord s.conflictStrategy)) =
        (t.conflicts.entries.filter fun row ↦ row.1.tenantId = strip tenantId).map
          SQLiteByocResultStore.conflictRecord := by
      rw [h.counters, List.filter_map, List.map_map]
      refine List.map_congr_left fun row hrow ↦ ?_
      obtain ⟨hstrategy, hversion⟩ :=
        h.rows row.1 (List.mem_map_of_mem (List.mem_of_mem_filter hrow))
      exact conflictRecord_inMemory (h.strategy ▸ hstrategy) hversion row.2
    refine (((List.mergeSort_perm _ _).filter _).map _).trans ?_
    rw [hsame]
    exact ((List.mergeSort_perm _ _).map _).symm

/-- What the SQLite store shows of a counter is the counter. -/
theorem SQLiteByocResultStore.shownCount_listConflictCounts {tenantId : String}
    (htenant : strip tenantId ≠ "") (toolName toolVersion reasonCode : String) :
    shownCount (t.listConflictCounts tenantId) t.conflictStrategy.value toolName toolVersion
        reasonCode =
      (t.conflicts.get? ⟨strip tenantId, t.conflictStrategy.value, toolName, toolVersion,
        reasonCode⟩).getD 0 := by
  rw [SQLiteByocResultStore.listConflictCounts, if_neg htenant, shownCount]
  have hperm := (((List.mergeSort_perm (t.conflicts.entries.filter fun row ↦
    row.1.tenantId = strip tenantId) SQLiteByocResultStore.conflictRowLe).map
      SQLiteByocResultStore.conflictRecord).filter fun r ↦
        r.strategy = t.conflictStrategy.value && r.toolName = toolName &&
          r.toolVersion = toolVersion && r.reasonCode = reasonCode).map
            fun r ↦ r.count
  rw [hperm.sum_nat, List.filter_map, List.map_map, List.filter_filter]
  have hrows : (t.conflicts.entries.filter fun row ↦
      ((fun r : ByocConflictCountRecord ↦ r.strategy = t.conflictStrategy.value &&
        r.toolName = toolName && r.toolVersion = toolVersion && r.reasonCode = reasonCode) ∘
          SQLiteByocResultStore.conflictRecord) row && row.1.tenantId = strip tenantId) =
      t.conflicts.entries.filter fun row ↦ row.1 = ⟨strip tenantId, t.conflictStrategy.value,
        toolName, toolVersion, reasonCode⟩ := by
    refine List.filter_congr fun row _ ↦ ?_
    obtain ⟨⟨tenant, strategy, tool, version, reason⟩, count⟩ := row
    simp only [Function.comp_apply, SQLiteByocResultStore.conflictRecord, ConflictKey.mk.injEq]
    rw [Bool.eq_iff_iff]
    simp only [Bool.and_eq_true, decide_eq_true_eq]
    constructor
    · rintro ⟨⟨⟨⟨hstrategy, htool⟩, hversion⟩, hreason⟩, htenant⟩
      exact ⟨htenant, of_decide_eq_true hstrategy, of_decide_eq_true htool,
        of_decide_eq_true hversion, of_decide_eq_true hreason⟩
    · rintro ⟨htenant, hstrategy, htool, hversion, hreason⟩
      exact ⟨⟨⟨⟨decide_eq_true hstrategy, decide_eq_true htool⟩, decide_eq_true hversion⟩,
        decide_eq_true hreason⟩, htenant⟩
  rw [hrows, Dict.filter_entries_fst]
  rcases t.conflicts.get? _ with _ | count
  · rfl
  · exact Nat.add_zero count

/-! ## One `ingest` -/

/-- The ways an `ingest` of mirrored stores can end. -/
inductive IngestCase (s : InMemoryByocResultStore) (t : SQLiteByocResultStore) (now : Epoch)
    (result : ByocToolResultEnvelope) : Prop
  /-- Nothing is stored. -/
  | refused (outcome : ByocResultIngestOutcome) (hs : s.ingest result = (outcome, s))
    (ht : t.ingest now result = (outcome, t))
    (hrejected : outcome ≠ .conflictRejected) (hreplaced : outcome ≠ .conflictReplaced)
  /-- The first payload of the job. -/
  | ingested (hs : s.ingest result = (.ingested, s.write (strip result.idempotencyKey) result))
    (ht : t.ingest now result = (.ingested, t.write now (strip result.idempotencyKey) result))
  /-- A payload takes the place of another. -/
  | replaced (hversion : '@' ∉ (strip result.toolVersion).toList)
    (hs : s.ingest result = (.conflictReplaced,
      (s.write (strip result.idempotencyKey) result).recordConflict result.tenantId
        result.toolName result.toolVersion "BYOC_RESULT_CONFLICT_REPLACED"))
    (ht : t.ingest now result = (.conflictReplaced,
      (t.write now (strip result.idempotencyKey) result).recordConflict result.tenantId
        result.toolName result.toolVersion "BYOC_RESULT_CONFLICT_REPLACED"))

/-- A key that was ingested before: whatever was counted on the way is rolled back. -/
theorem SQLiteByocResultStore.insertResult_of_seen (hfile : t.shared = false) (now : Epoch)
    {key : String} (result : ByocToolResultEnvelope) (replacing : Bool)
    {changed : SQLiteByocResultStore} (hseen : key ∈ changed.idempotency.keys) :
    SQLiteByocResultStore.insertResult now key result replacing t changed =
      (.idempotentDuplicate, t) := by
  rw [SQLiteByocResultStore.insertResult, if_pos hseen, SQLiteByocResultStore.uncommitted, hfile]
  rfl

theorem SQLiteByocResultStore.insertResult_of_new (now : Epoch) {key : String}
    (result : ByocToolResultEnvelope) (replacing : Bool) {changed : SQLiteByocResultStore}
    (hnew : key ∉ changed.idempotency.keys) :
    SQLiteByocResultStore.insertResult now key result replacing t changed =
      (if replacing then .conflictReplaced else .ingested, changed.write now key result) := by
  rw [SQLiteByocResultStore.insertResult, if_neg hnew]

/-- The order of the two tests makes no difference to a result that is not refused. -/
theorem MirrorsResults.ingest_cases (h : MirrorsResults s t) {now : Epoch}
    {result : ByocToolResultEnvelope} (hok : Comparable t (.ingest now result)) :
    IngestCase s t now result := by
  by_cases hkey : strip result.idempotencyKey = ""
  · refine .refused .keyRequired ?_ ?_ (by decide) (by decide)
    · rw [InMemoryByocResultStore.ingest, if_pos hkey]
    · rw [SQLiteByocResultStore.ingest, if_pos hkey]
  obtain ⟨hrefused, hversion⟩ := hok.resolve_left hkey
  have hduplicate (replacing : Bool) {changed : SQLiteByocResultStore}
      (hmem : strip result.idempotencyKey ∈ changed.idempotency.keys) :=
    SQLiteByocResultStore.insertResult_of_seen h.onFile now result replacing hmem
  by_cases hseen : strip result.idempotencyKey ∈ t.idempotency.keys
  · refine .refused .idempotentDuplicate ?_ ?_ (by decide) (by decide)
    · rw [InMemoryByocResultStore.ingest, if_neg hkey, if_pos ((h.seen _).mpr hseen)]
    · rw [SQLiteByocResultStore.ingest, if_neg hkey]
      rcases hrow : t.payloads.get? result.jobId with _ | row
      · exact hduplicate false hseen
      · simp only
        split
        · exact hduplicate true hseen
        · rename_i hother
          have hresolve : resolveResultConflict row.payload result t.conflictStrategy = true := by
            rw [hrow] at hrefused
            simpa [conflictRefused, hother] using hrefused
          rw [if_pos hresolve]
          exact hduplicate true hseen
  · have hnew : strip result.idempotencyKey ∉ s.seenIdempotencyKeys := fun hmem ↦
      hseen ((h.seen _).mp hmem)
    have hpayload := h.payloads result.jobId
    rcases hrow : t.payloads.get? result.jobId with _ | row
    · rw [hrow] at hpayload
      refine .ingested ?_ ?_
      · rw [InMemoryByocResultStore.ingest, if_neg hkey, if_neg hnew, hpayload]
        rfl
      · rw [SQLiteByocResultStore.ingest, if_neg hkey, hrow]
        exact SQLiteByocResultStore.insertResult_of_new now result false hseen
    · rw [hrow] at hpayload
      have hother : strip row.payload.idempotencyKey ≠ strip result.idempotencyKey := fun heq ↦
        hseen (heq ▸ h.keyed _ row hrow)
      have hresolve : resolveResultConflict row.payload result t.conflictStrategy = true := by
        rw [hrow] at hrefused
        simpa [conflictRefused, hother] using hrefused
      refine .replaced (hversion ?_) ?_ ?_
      · simp [SQLiteByocResultStore.replaces, hseen, hrow, hother]
      · rw [InMemoryByocResultStore.ingest, if_neg hkey, if_neg hnew, hpayload]
        simp only [Option.map_some]
        rw [if_neg hother, h.strategy, if_pos hresolve]
      · rw [SQLiteByocResultStore.ingest, if_neg hkey, hrow]
        simp only
        rw [if_neg hother, if_pos hresolve]
        exact SQLiteByocResultStore.insertResult_of_new now result true hseen

theorem MirrorsResults.write (h : MirrorsResults s t) (now : Epoch)
    (result : ByocToolResultEnvelope) :
    MirrorsResults (s.write (strip result.idempotencyKey) result)
      (t.write now (strip result.idempotencyKey) result) where
  strategy := h.strategy
  onFile := h.onFile
  seen key := by
    change key ∈ insert (strip result.idempotencyKey) s.seenIdempotencyKeys ↔
      key ∈ (t.idempotency.setDefault (strip result.idempotencyKey) _).keys
    rw [Finset.mem_insert, h.seen, Dict.mem_keys_setDefault]
  payloads jobId := by
    change (s.resultsByJobId.set result.jobId result).get? jobId =
      ((t.payloads.set result.jobId _).get? jobId).map PayloadRow.payload
    rw [Dict.get?_set, Dict.get?_set]
    split
    · rfl
    · exact h.payloads jobId
  keyed jobId row hrow := by
    change (t.payloads.set result.jobId _).get? jobId = some row at hrow
    change _ ∈ (t.idempotency.setDefault (strip result.idempotencyKey) _).keys
    rw [Dict.mem_keys_setDefault]
    rw [Dict.get?_set] at hrow
    split at hrow
    · rw [← Option.some.inj hrow]
      exact Or.inl rfl
    · exact Or.inr (h.keyed jobId row hrow)
  counters := h.counters
  rows := h.rows

/-- The reason of a replacement is kept as it is. -/
theorem reason_replaced :
    (if strip "BYOC_RESULT_CONFLICT_REPLACED" = "" then "BYOC_RESULT_CONFLICT_UNKNOWN"
      else strip "BYOC_RESULT_CONFLICT_REPLACED") = "BYOC_RESULT_CONFLICT_REPLACED" := by
  decide

theorem conflictCounts_recordConflict (s : InMemoryByocResultStore)
    (result : ByocToolResultEnvelope) :
    (s.recordConflict result.tenantId result.toolName result.toolVersion
        "BYOC_RESULT_CONFLICT_REPLACED").conflictCounts =
      s.conflictCounts.increment
        (conflictKey s.conflictStrategy result "BYOC_RESULT_CONFLICT_REPLACED").inMemory := by
  simp only [InMemoryByocResultStore.recordConflict, reason_replaced, conflictKey,
    ConflictKey.inMemory]

theorem conflicts_recordConflict (t : SQLiteByocResultStore) (result : ByocToolResultEnvelope) :
    (t.recordConflict result.tenantId result.toolName result.toolVersion
        "BYOC_RESULT_CONFLICT_REPLACED").conflicts =
      t.conflicts.increment
        (conflictKey t.conflictStrategy result "BYOC_RESULT_CONFLICT_REPLACED") := by
  simp only [SQLiteByocResultStore.recordConflict, reason_replaced, conflictKey]

theorem MirrorsResults.recordConflict (h : MirrorsResults s t) (result : ByocToolResultEnvelope)
    (hversion : '@' ∉ (strip result.toolVersion).toList) :
    MirrorsResults
      (s.recordConflict result.tenantId result.toolName result.toolVersion
        "BYOC_RESULT_CONFLICT_REPLACED")
      (t.recordConflict result.tenantId result.toolName result.toolVersion
        "BYOC_RESULT_CONFLICT_REPLACED") where
  strategy := h.strategy
  onFile := h.onFile
  seen := h.seen
  payloads := h.payloads
  keyed := h.keyed
  counters := by
    rw [conflictCounts_recordConflict, conflicts_recordConflict, h.strategy]
    refine Dict.Renames.increment h.counters fun key hkey heq ↦ ?_
    obtain ⟨hstrategy, hplain⟩ := h.rows key hkey
    exact ConflictKey.inMemory_inj hstrategy hplain hversion heq
  rows key hkey := by
    rw [conflicts_recordConflict, Dict.mem_keys_increment] at hkey
    rcases hkey with rfl | hkey
    · exact ⟨rfl, hversion⟩
    · exact h.rows key hkey

theorem MirrorsResults.consume (h : MirrorsResults s t) (jobId : String) :
    (s.consume jobId).1 = (t.consume jobId).1 ∧
      MirrorsResults (s.consume jobId).2 (t.consume jobId).2 := by
  rw [InMemoryByocResultStore.consume, SQLiteByocResultStore.consume]
  split
  · exact ⟨rfl, h⟩
  · refine ⟨h.payloads (strip jobId), ⟨h.strategy, h.onFile, h.seen, fun job ↦ ?_,
      fun job row hrow ↦ ?_, h.counters, h.rows⟩⟩
    · change (s.resultsByJobId.erase (strip jobId)).get? job =
        ((t.payloads.erase (strip jobId)).get? job).map PayloadRow.payload
      rw [Dict.get?_erase, Dict.get?_erase]
      split
      · rfl
      · exact h.payloads job
    · change (t.payloads.erase (strip jobId)).get? job = some row at hrow
      rw [Dict.get?_erase] at hrow
      split at hrow
      · cases hrow
      · exact h.keyed job row hrow

/-- **One call on mirrored stores**: the same answer, and mirrored stores again. -/
theorem mirrorsResults_step (s : InMemoryByocResultStore) (t : SQLiteByocResultStore)
    (c : ResultCall) (hok : Comparable t c) (h : MirrorsResults s t) :
    (s.step c).1.Alike (t.step c).1 ∧ MirrorsResults (s.step c).2 (t.step c).2 := by
  cases c <;> simp only [InMemoryByocResultStore.step, SQLiteByocResultStore.step, resultStep,
    inMemoryByocResultStore, sqliteByocResultStore]
  case ingest now result =>
    cases h.ingest_cases hok with
    | refused outcome hs ht =>
      rw [hs, ht]
      exact ⟨rfl, h⟩
    | ingested hs ht =>
      rw [hs, ht]
      exact ⟨rfl, h.write now result⟩
    | replaced hversion hs ht =>
      rw [hs, ht]
      exact ⟨rfl, (h.write now result).recordConflict result hversion⟩
  case consume jobId =>
    obtain ⟨hsame, hnext⟩ := h.consume jobId
    exact ⟨congrArg ResultReply.payload hsame, hnext⟩
  case hasIdempotencyKey key =>
    have hsame : s.hasIdempotencyKey key = t.hasIdempotencyKey key := by
      simp only [InMemoryByocResultStore.hasIdempotencyKey, SQLiteByocResultStore.hasIdempotencyKey,
        h.seen]
    exact ⟨congrArg ResultReply.seen hsame, h⟩
  case listConflictCounts tenantId => exact ⟨h.listConflictCounts tenantId, h⟩

/-! ## Counters and outcomes -/

theorem conflictStrategy_step (h : MirrorsResults s t) {c : ResultCall} (hok : Comparable t c) :
    (t.step c).2.conflictStrategy = t.conflictStrategy := by
  cases c with
  | ingest now result =>
    rw [SQLiteByocResultStore.step_ingest]
    cases h.ingest_cases hok with
    | refused outcome hs ht => rw [ht]
    | ingested hs ht => rw [ht]; rfl
    | replaced hversion hs ht => rw [ht]; rfl
  | consume jobId =>
    rw [SQLiteByocResultStore.step_consume, SQLiteByocResultStore.consume]
    split <;> rfl
  | hasIdempotencyKey key => rfl
  | listConflictCounts tenantId => rfl

/-- A counter grows by the conflicts that are counted in it, and by nothing else. -/
theorem conflicts_step (h : MirrorsResults s t) {c : ResultCall} (hok : Comparable t c)
    (key : ConflictKey) :
    ((t.step c).2.conflicts.get? key).getD 0 =
      (t.conflicts.get? key).getD 0 +
        if conflictIn t.conflictStrategy key (c, (t.step c).1) then 1 else 0 := by
  cases c with
  | ingest now result =>
    rw [SQLiteByocResultStore.step_ingest]
    cases h.ingest_cases hok with
    | refused outcome hs ht hrejected hreplaced =>
      rw [ht]
      simp [conflictIn, hrejected, hreplaced]
    | ingested hs ht =>
      rw [ht]
      rfl
    | replaced hversion hs ht =>
      rw [ht, conflicts_recordConflict, Dict.get?_increment]
      simp only [conflictIn, decide_true, Bool.or_true, Bool.true_and, decide_eq_true_eq]
      rw [if_congr eq_comm rfl rfl]
      rfl
  | consume jobId =>
    rw [SQLiteByocResultStore.step_consume, SQLiteByocResultStore.consume]
    split <;> rfl
  | hasIdempotencyKey key => rfl
  | listConflictCounts tenantId => rfl

/-- Over a whole run the rows hold the numbers of conflicts. -/
theorem conflicts_run (strategy : ByocResultConflictStrategy) {calls : List ResultCall}
    (hok : Run.Along SQLiteByocResultStore.step Comparable
      (SQLiteByocResultStore.init strategy false) calls) (key : ConflictKey) :
    (Run.exec SQLiteByocResultStore.step (SQLiteByocResultStore.init strategy false)
        calls).conflictStrategy = strategy ∧
    ((Run.exec SQLiteByocResultStore.step (SQLiteByocResultStore.init strategy false)
        calls).conflicts.get? key).getD 0 =
      (Run.trace SQLiteByocResultStore.step (SQLiteByocResultStore.init strategy false)
        calls).countP (conflictIn strategy key) := by
  have hrun := Run.trace_invariant (P := fun history t ↦ (∃ s, MirrorsResults s t) ∧
      t.conflictStrategy = strategy ∧
      (t.conflicts.get? key).getD 0 = history.countP (conflictIn strategy key))
    (fun history t c hc ⟨⟨s, h⟩, hstrategy, hcount⟩ ↦ by
      refine ⟨⟨_, (mirrorsResults_step s t c hc h).2⟩,
        (conflictStrategy_step h hc).trans hstrategy, ?_⟩
      rw [List.countP_append, List.countP_singleton, ← hcount, ← hstrategy]
      exact conflicts_step h hc key)
    hok (h := []) ⟨⟨_, mirrorsResults_init strategy⟩, rfl, rfl⟩
  exact hrun.2

/-- Answers that are alike end in the same conflicts. -/
theorem conflictIn_congr {strategy : ByocResultConflictStrategy} {key : ConflictKey}
    {a b : ResultCall × ResultReply} (hcall : a.1 = b.1) (hreply : a.2.Alike b.2) :
    conflictIn strategy key a = conflictIn strategy key b := by
  obtain ⟨call, reply⟩ := a
  obtain ⟨call', reply'⟩ := b
  obtain rfl : call = call' := hcall
  cases reply with
  | counts records =>
    cases reply' with
    | counts records' => cases call <;> rfl
    | _ => cases hreply
  | _ => cases hreply; rfl

theorem countP_eq_of_forall₂ {α β : Type} {R : α → β → Prop} {p : α → Bool} {q : β → Bool}
    (hpq : ∀ a b, R a b → p a = q b) {l : List α} {m : List β} (h : List.Forall₂ R l m) :
    l.countP p = m.countP q := by
  induction h with
  | nil => rfl
  | cons hab _ ih => rw [List.countP_cons, List.countP_cons, ih, hpq _ _ hab]

/-- A result of a job under a key. -/
def resultUnder (key : String) : ByocToolResultEnvelope :=
  { jobId := "job-1", tenantId := "t", runId := "run-1", callId := "call-1", toolName := "echo",
    status := "success", idempotencyKey := key, leaseToken := "lease-1", toolVersion := "1.0" }

/-- A payload is replaced, and the counters are read. -/
def replacedOnce : List ResultCall :=
  [.ingest 0 (resultUnder "t:1"), .ingest 1 (resultUnder "t:2"), .consume "job-1",
    .listConflictCounts "t"]

/-- The same two results. -/
def rejectedOnce : List ResultCall :=
  [.ingest 0 (resultUnder "t:1"), .ingest 1 (resultUnder "t:2")]

end Byoc
end ExoBrain
