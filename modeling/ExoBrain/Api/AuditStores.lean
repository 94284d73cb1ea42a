import ExoBrain.Api.Audit
import ExoBrain.Lib.Journal
import ExoBrain.Lib.JsonPlain
import ExoBrain.Lib.Simulation

/-!
# The audit stores

`InMemoryAuditStore` (`audit_store.py`) and `SQLiteAuditStore` (`sqlite_audit.py`) keep the audit
records of all tenants in one list, or one table, in the order in which they were appended.

* `AuditLogs` is what they are for: every tenant has a log of its own, which grows at its end and is cut
  at its beginning.
* `auditStores_agree`: the store in memory always answers like the logs.  The table answers like them as
  long as every record that is appended can be written as JSON and has an id of its own, over all
  tenants.
* `stored_isSuffix` is about a table in a file.  There `cleanup_audit_events` is two statements, and
  between them others may append and clean up; what is left of a tenant's records is still the end of
  all that were appended.
-/

set_option autoImplicit false

namespace ExoBrain
namespace Api

open Audit

/-! ## Calls -/

/-- A call of an audit store.  `createdAtUtc` is `_utc_now()`. -/
inductive AuditCall
  | appendAuditEvent (record : AuditRecord) (createdAtUtc : String)
  | queryAuditEvents (correlationId tenantId : String)
  | listAuditEvents (tenantId : String) (limit : Int)
  | cleanupAuditEvents (tenantId : String) (maxRecords : Int)

/-- What an audit store raises. -/
inductive AuditFault
  /-- `json.dumps` cannot write the payload. -/
  | typeError
  /-- The id of the event is there already. -/
  | integrityError
  /-- `json.loads` cannot read what is in the table. -/
  | decodeError
deriving DecidableEq, Repr

inductive AuditAnswer
  | done
  | raised (fault : AuditFault)
  | records (records : List AuditRecord)
  | removed (count : Nat)

/-- `max(1, min(int(limit), 1000))`. -/
def boundedLimit (limit : Int) : Nat := (max 1 (min limit 1000)).toNat

/-! ## The store in memory -/

/-- `InMemoryAuditStore`. -/
structure InMemoryAuditStore where
  records : List AuditRecord

namespace InMemoryAuditStore

/-- `cleanup_audit_events`. -/
def cleanup (store : InMemoryAuditStore) (tenantId : String) (maxRecords : Int) :
    Nat × InMemoryAuditStore :=
  let bounded := (max maxRecords 0).toNat
  let tenantIndexes :=
    (store.records.zipIdx.filter fun e ↦ e.1.tenantId = tenantId).map Prod.snd
  let overflow := tenantIndexes.length - bounded
  if overflow ≤ 0 then (0, store)
  else
    let indexesToRemove := tenantIndexes.take overflow
    (overflow,
      { records := (store.records.zipIdx.filter fun e ↦ e.2 ∉ indexesToRemove).map Prod.fst })

/-- A call. -/
def call (store : InMemoryAuditStore) : AuditCall → AuditAnswer × InMemoryAuditStore
  | .appendAuditEvent record _ => (.done, { records := store.records ++ [record] })
  | .queryAuditEvents correlationId tenantId =>
    (.records (store.records.filter fun r ↦
      r.correlationId = correlationId ∧ r.tenantId = tenantId), store)
  | .listAuditEvents tenantId limit =>
    let tenantRecords := store.records.filter fun record ↦ record.tenantId = tenantId
    (.records (Journal.newest (boundedLimit limit) tenantRecords), store)
  | .cleanupAuditEvents tenantId maxRecords =>
    let (overflow, store) := store.cleanup tenantId maxRecords
    (.removed overflow, store)

end InMemoryAuditStore

/-! ## The table -/

/-- A row of `audit_events`. -/
structure AuditRow where
  sequenceId : Nat
  eventId : String
  correlationId : String
  tenantId : String
  eventType : String
  payloadJson : String
  createdAtUtc : String

/-- The table `audit_events`, with the last sequence id that was given out. -/
structure SQLiteAuditStore where
  rows : List AuditRow
  lastSequenceId : Nat
  increasing : rows.Pairwise fun r r' ↦ r.sequenceId < r'.sequenceId
  le_last : ∀ r ∈ rows, r.sequenceId ≤ lastSequenceId
  unique : (rows.map AuditRow.eventId).Nodup

namespace SQLiteAuditStore

def empty : SQLiteAuditStore := ⟨[], 0, List.Pairwise.nil, nofun, List.nodup_nil⟩

/-- `INSERT INTO audit_events`. -/
def insert (store : SQLiteAuditStore) (record : AuditRecord) (payloadJson createdAtUtc : String) :
    Option SQLiteAuditStore :=
  if h : record.eventId ∈ store.rows.map AuditRow.eventId then none
  else some
    { rows := store.rows ++
        [{ sequenceId := store.lastSequenceId + 1, eventId := record.eventId
           correlationId := record.correlationId, tenantId := record.tenantId
           eventType := record.eventType, payloadJson, createdAtUtc }]
      lastSequenceId := store.lastSequenceId + 1
      increasing := by
        refine List.pairwise_append.mpr ⟨store.increasing, List.pairwise_singleton _ _, ?_⟩
        intro r hr r' hr'
        rw [List.mem_singleton.mp hr']
        exact Nat.lt_succ_of_le (store.le_last r hr)
      le_last := by
        intro r hr
        rcases List.mem_append.mp hr with hold | hnew
        · exact Nat.le_succ_of_le (store.le_last r hold)
        · rw [List.mem_singleton.mp hnew]
      unique := by
        rw [List.map_append, List.nodup_append]
        refine ⟨store.unique, List.nodup_singleton _, fun a ha b hb ↦ ?_⟩
        rw [List.mem_singleton.mp hb]
        rintro rfl
        exact h ha }

/-- The rows of a tenant, `ORDER BY sequence_id ASC`. -/
def tenantRows (store : SQLiteAuditStore) (tenantId : String) : List AuditRow :=
  (store.rows.filter fun r ↦ r.tenantId = tenantId).mergeSort fun r r' ↦ r.sequenceId ≤ r'.sequenceId

/-- `SELECT COUNT(1)`. -/
def count (store : SQLiteAuditStore) (tenantId : String) : Nat :=
  store.rows.countP fun r ↦ r.tenantId = tenantId

/-- `DELETE FROM audit_events`: the first rows of a tenant. -/
def deleteFirst (store : SQLiteAuditStore) (tenantId : String) (overflow : Nat) :
    SQLiteAuditStore where
  rows := store.rows.filter fun r ↦
    r.sequenceId ∉ ((store.tenantRows tenantId).take overflow).map AuditRow.sequenceId
  lastSequenceId := store.lastSequenceId
  increasing := store.increasing.sublist List.filter_sublist
  le_last r hr := store.le_last r (List.mem_of_mem_filter hr)
  unique := (List.filter_sublist.map _).nodup store.unique

end SQLiteAuditStore

section
variable (showFloat : String → String)

/-- `_row_to_record`. -/
def rowToRecord (row : AuditRow) : Option AuditRecord :=
  ((Json.loads showFloat row.payloadJson).bind Value.dict?).map fun payload ↦
    { eventId := row.eventId, correlationId := row.correlationId, tenantId := row.tenantId
      eventType := row.eventType, payload }

/-- The records of some rows, or what reading them raises. -/
def readRows (rows : List AuditRow) : AuditAnswer :=
  match rows.mapM (rowToRecord showFloat) with
  | some records => .records records
  | none => .raised .decodeError

namespace SQLiteAuditStore

/-- `_append_sync`. -/
def append (store : SQLiteAuditStore) (record : AuditRecord) (createdAtUtc : String) :
    AuditAnswer × SQLiteAuditStore :=
  if Json.isJson showFloat (.dict record.payload) then
    match store.insert record (Json.dumpsPlain (.dict record.payload)) createdAtUtc with
    | some store => (.done, store)
    | none => (.raised .integrityError, store)
  else (.raised .typeError, store)

/-- `_cleanup_sync`. -/
def cleanup (store : SQLiteAuditStore) (tenantId : String) (maxRecords : Int) :
    Nat × SQLiteAuditStore :=
  let bounded := (max maxRecords 0).toNat
  let overflow := store.count tenantId - bounded
  if overflow ≤ 0 then (0, store) else (overflow, store.deleteFirst tenantId overflow)

/-- A call, from its first statement to its last. -/
def call (store : SQLiteAuditStore) : AuditCall → AuditAnswer × SQLiteAuditStore
  | .appendAuditEvent record createdAtUtc => store.append showFloat record createdAtUtc
  | .queryAuditEvents correlationId tenantId =>
    (readRows showFloat ((store.rows.filter fun r ↦
      r.correlationId = correlationId ∧ r.tenantId = tenantId).mergeSort fun r r' ↦
        r.sequenceId ≤ r'.sequenceId), store)
  | .listAuditEvents tenantId limit =>
    -- `ORDER BY sequence_id DESC LIMIT ?`, and `reversed(rows)`
    (readRows showFloat ((((store.rows.filter fun r ↦ r.tenantId = tenantId).mergeSort fun r r' ↦
      r'.sequenceId ≤ r.sequenceId).take (boundedLimit limit)).reverse), store)
  | .cleanupAuditEvents tenantId maxRecords =>
    let (overflow, store) := store.cleanup tenantId maxRecords
    (.removed overflow, store)

end SQLiteAuditStore
end

/-! ## The logs -/

/-- What an audit store is for: the log of each tenant. -/
def AuditLogs := String → List AuditRecord

namespace AuditLogs

def empty : AuditLogs := fun _ ↦ []

/-- The log of one tenant is replaced. -/
def put (logs : AuditLogs) (tenantId : String) (log : List AuditRecord) : AuditLogs :=
  fun t ↦ if t = tenantId then log else logs t

/-- A call. -/
def call (logs : AuditLogs) : AuditCall → AuditAnswer × AuditLogs
  | .appendAuditEvent record _ => (.done, logs.put record.tenantId (logs record.tenantId ++ [record]))
  | .queryAuditEvents correlationId tenantId =>
    (.records ((logs tenantId).filter fun r ↦ r.correlationId = correlationId), logs)
  | .listAuditEvents tenantId limit =>
    (.records (Journal.newest (boundedLimit limit) (logs tenantId)), logs)
  | .cleanupAuditEvents tenantId maxRecords =>
    let overflow := (logs tenantId).length - maxRecords.toNat
    (.removed overflow, logs.put tenantId ((logs tenantId).drop overflow))

end AuditLogs

/-! ## The store in memory keeps the logs -/

/-- The records in memory are those of the logs. -/
def InMemoryAuditStore.Keeps (store : InMemoryAuditStore) (logs : AuditLogs) : Prop :=
  ∀ tenantId, (store.records.filter fun r ↦ r.tenantId = tenantId) = logs tenantId

theorem map_fst_filter_zipIdx {α : Type} (p : α → Bool) (l : List α) :
    (l.zipIdx.filter fun e ↦ p e.1).map Prod.fst = l.filter p := by
  change (l.zipIdx.filter (p ∘ Prod.fst)).map Prod.fst = l.filter p
  rw [← List.filter_map, List.zipIdx_map_fst]

theorem length_tenantIndexes (records : List AuditRecord) (tenantId : String) :
    ((records.zipIdx.filter fun e ↦ e.1.tenantId = tenantId).map Prod.snd).length =
      (records.filter fun r ↦ r.tenantId = tenantId).length := by
  rw [List.length_map, ← map_fst_filter_zipIdx (fun r : AuditRecord ↦ r.tenantId = tenantId),
    List.length_map]

/-- Cleaning up takes away the first records of one tenant. -/
theorem InMemoryAuditStore.filter_cleanup (store : InMemoryAuditStore) (tenantId : String)
    (maxRecords : Int) (t : String) :
    ((store.cleanup tenantId maxRecords).2.records.filter fun r ↦ r.tenantId = t) =
      if t = tenantId then
        (store.records.filter fun r ↦ r.tenantId = t).drop
          ((store.records.filter fun r ↦ r.tenantId = t).length - maxRecords.toNat)
      else store.records.filter fun r ↦ r.tenantId = t := by
  have hnodup : (store.records.zipIdx.map Prod.snd).Nodup := by
    rw [List.zipIdx_map_snd]
    exact List.nodup_range'
  have hbounded : (max maxRecords 0).toNat = maxRecords.toNat := by omega
  rw [cleanup, length_tenantIndexes, hbounded]
  split
  · next hle =>
    split
    · next heq =>
      subst heq
      rw [Nat.le_zero.mp hle, List.drop_zero]
    · rfl
  · rw [← List.map_take]
    change (((Journal.prune Prod.snd (fun e ↦ e.1.tenantId = tenantId) _
      store.records.zipIdx).map Prod.fst).filter fun r ↦ r.tenantId = t) = _
    rw [List.filter_map, Function.comp_def]
    split
    · next heq =>
      subst heq
      rw [Journal.filter_prune hnodup, List.map_drop,
        map_fst_filter_zipIdx fun r : AuditRecord ↦ r.tenantId = t]
    · next hne =>
      rw [Journal.filter_prune_of_disjoint hnodup fun e he ↦ ?_,
        map_fst_filter_zipIdx fun r : AuditRecord ↦ r.tenantId = t]
      rw [decide_eq_true_eq] at he
      rw [he, decide_eq_false_iff_not]
      exact hne

theorem InMemoryAuditStore.cleanup_fst (store : InMemoryAuditStore) (tenantId : String)
    (maxRecords : Int) : (store.cleanup tenantId maxRecords).1 =
      (store.records.filter fun r ↦ r.tenantId = tenantId).length - maxRecords.toNat := by
  have hbounded : (max maxRecords 0).toNat = maxRecords.toNat := by omega
  rw [cleanup, length_tenantIndexes, hbounded]
  split
  · next hle => exact (Nat.le_zero.mp hle).symm
  · rfl

/-- The records of a tenant after one more was appended. -/
theorem filter_concat {α : Type} (l : List α) (a : α) (key : α → String) (t : String) :
    ((l ++ [a]).filter fun r ↦ key r = t) =
      if t = key a then (l.filter fun r ↦ key r = t) ++ [a] else l.filter fun r ↦ key r = t := by
  rw [List.filter_append]
  by_cases h : key a = t
  · rw [if_pos h.symm, List.filter_cons_of_pos (by simpa using h), List.filter_nil]
  · rw [if_neg (Ne.symm h), List.filter_cons_of_neg (by simpa using h), List.filter_nil,
      List.append_nil]

theorem AuditLogs.put_apply (logs : AuditLogs) (tenantId : String) (log : List AuditRecord)
    (t : String) : logs.put tenantId log t = if t = tenantId then log else logs t :=
  rfl

theorem InMemoryAuditStore.Keeps.answer {store : InMemoryAuditStore} {logs : AuditLogs}
    (h : store.Keeps logs) (call : AuditCall) : (store.call call).1 = (logs.call call).1 := by
  cases call with
  | appendAuditEvent record createdAtUtc => rfl
  | queryAuditEvents correlationId tenantId =>
    rw [InMemoryAuditStore.call, AuditLogs.call, ← h tenantId, List.filter_filter]
    simp only [Bool.decide_and]
  | listAuditEvents tenantId limit => rw [InMemoryAuditStore.call, AuditLogs.call, ← h tenantId]
  | cleanupAuditEvents tenantId maxRecords =>
    change AuditAnswer.removed (store.cleanup tenantId maxRecords).1 = _
    rw [cleanup_fst, h tenantId]
    rfl

theorem InMemoryAuditStore.Keeps.next {store : InMemoryAuditStore} {logs : AuditLogs}
    (h : store.Keeps logs) (call : AuditCall) : (store.call call).2.Keeps (logs.call call).2 := by
  intro t
  cases call with
  | appendAuditEvent record createdAtUtc =>
    change ((store.records ++ [record]).filter fun r ↦ r.tenantId = t) =
      logs.put record.tenantId (logs record.tenantId ++ [record]) t
    rw [filter_concat _ _ AuditRecord.tenantId, AuditLogs.put_apply]
    split
    · next heq => rw [h t, heq]
    · exact h t
  | queryAuditEvents correlationId tenantId => exact h t
  | listAuditEvents tenantId limit => exact h t
  | cleanupAuditEvents tenantId maxRecords =>
    change ((store.cleanup tenantId maxRecords).2.records.filter fun r ↦ r.tenantId = t) =
      logs.put tenantId _ t
    rw [filter_cleanup, AuditLogs.put_apply, h t]
    split
    · next heq => rw [heq]
    · rfl

/-! ## The table keeps the logs -/

namespace SQLiteAuditStore

variable {showFloat : String → String}

/-- The rows of each tenant are read as its log. -/
def Keeps (showFloat : String → String) (store : SQLiteAuditStore) (logs : AuditLogs) : Prop :=
  ∀ tenantId, (store.rows.filter fun r ↦ r.tenantId = tenantId).map (rowToRecord showFloat) =
    (logs tenantId).map some

theorem nodup_sequenceId (store : SQLiteAuditStore) :
    (store.rows.map AuditRow.sequenceId).Nodup :=
  List.pairwise_map.mpr (store.increasing.imp Nat.ne_of_lt)

/-- The table is in the order of its sequence ids, and so is each selection of its rows. -/
theorem mergeSort_filter (store : SQLiteAuditStore) (p : AuditRow → Bool) :
    (store.rows.filter p).mergeSort (fun r r' ↦ r.sequenceId ≤ r'.sequenceId) = store.rows.filter p :=
  Journal.mergeSort_of_increasing (store.increasing.sublist List.filter_sublist)

theorem mergeSort_filter_desc (store : SQLiteAuditStore) (p : AuditRow → Bool) :
    (store.rows.filter p).mergeSort (fun r r' ↦ r'.sequenceId ≤ r.sequenceId) =
      (store.rows.filter p).reverse :=
  Journal.mergeSort_reverse_of_increasing (store.increasing.sublist List.filter_sublist)

theorem rows_deleteFirst (store : SQLiteAuditStore) (tenantId : String) (overflow : Nat) :
    (store.deleteFirst tenantId overflow).rows =
      Journal.prune AuditRow.sequenceId (fun r ↦ r.tenantId = tenantId) overflow store.rows := by
  have hrows : store.tenantRows tenantId = store.rows.filter fun r ↦ r.tenantId = tenantId :=
    store.mergeSort_filter _
  change store.rows.filter (fun r ↦
    r.sequenceId ∉ ((store.tenantRows tenantId).take overflow).map AuditRow.sequenceId) = _
  rw [hrows]
  rfl

/-- **What a `DELETE` takes away**: the first rows of the tenant. -/
theorem filter_deleteFirst (store : SQLiteAuditStore) (tenantId : String) (overflow : Nat)
    (t : String) : ((store.deleteFirst tenantId overflow).rows.filter fun r ↦ r.tenantId = t) =
      if t = tenantId then (store.rows.filter fun r ↦ r.tenantId = t).drop overflow
      else store.rows.filter fun r ↦ r.tenantId = t := by
  rw [rows_deleteFirst]
  split
  · next heq =>
    subst heq
    exact Journal.filter_prune store.nodup_sequenceId _ overflow
  · next hne =>
    refine Journal.filter_prune_of_disjoint store.nodup_sequenceId (fun r hr ↦ ?_) overflow
    rw [decide_eq_true_eq] at hr
    rw [hr, decide_eq_false_iff_not]
    exact hne

theorem insert_eq_some {store store' : SQLiteAuditStore} {record : AuditRecord}
    {payloadJson createdAtUtc : String}
    (h : store.insert record payloadJson createdAtUtc = some store') :
    record.eventId ∉ store.rows.map AuditRow.eventId ∧ store'.rows = store.rows ++
      [{ sequenceId := store.lastSequenceId + 1, eventId := record.eventId
         correlationId := record.correlationId, tenantId := record.tenantId
         eventType := record.eventType, payloadJson, createdAtUtc }] := by
  rw [insert] at h
  split at h
  · cases h
  · next hnew =>
    cases h
    exact ⟨hnew, rfl⟩

theorem insert_eq_none {store : SQLiteAuditStore} {record : AuditRecord}
    {payloadJson createdAtUtc : String}
    (h : store.insert record payloadJson createdAtUtc = none) :
    record.eventId ∈ store.rows.map AuditRow.eventId := by
  rw [insert] at h
  split at h
  · assumption
  · cases h

/-- The calls that the table can take: a record that is appended can be written, and its id is new. -/
def Takes (showFloat : String → String) (store : SQLiteAuditStore) : AuditCall → Prop
  | .appendAuditEvent record _ =>
    Json.isJson showFloat (.dict record.payload) = true ∧
      record.eventId ∉ store.rows.map AuditRow.eventId
  | _ => True

/-- A row is read as the record that it was made of. -/
theorem rowToRecord_dumpsPlain {record : AuditRecord} (sequenceId : Nat) (createdAtUtc : String)
    (h : Json.isJson showFloat (.dict record.payload) = true) :
    rowToRecord showFloat
      { sequenceId, eventId := record.eventId, correlationId := record.correlationId
        tenantId := record.tenantId, eventType := record.eventType
        payloadJson := Json.dumpsPlain (.dict record.payload), createdAtUtc } = some record := by
  rw [rowToRecord, Json.loads_dumpsPlain h]
  rfl

variable (showFloat) in
/-- What an append does: it stores the record, if it can, and else nothing. -/
theorem append_cases (store : SQLiteAuditStore) (record : AuditRecord) (createdAtUtc : String) :
    (store.Takes showFloat (.appendAuditEvent record createdAtUtc) ∧
      (store.append showFloat record createdAtUtc).1 = .done ∧
      ∃ row, rowToRecord showFloat row = some record ∧ row.tenantId = record.tenantId ∧
        (store.append showFloat record createdAtUtc).2.rows = store.rows ++ [row]) ∨
    (¬store.Takes showFloat (.appendAuditEvent record createdAtUtc) ∧
      (∃ fault, (store.append showFloat record createdAtUtc).1 = .raised fault) ∧
      (store.append showFloat record createdAtUtc).2 = store) := by
  rw [append]
  split
  · next hjson =>
    cases hinsert : store.insert record (Json.dumpsPlain (.dict record.payload)) createdAtUtc with
    | some store' =>
      obtain ⟨hnew, hrows⟩ := insert_eq_some hinsert
      exact .inl ⟨⟨hjson, hnew⟩, rfl, _, rowToRecord_dumpsPlain _ _ hjson, rfl, hrows⟩
    | none => exact .inr ⟨fun h ↦ h.2 (insert_eq_none hinsert), ⟨_, rfl⟩, rfl⟩
  · next hjson => exact .inr ⟨fun h ↦ hjson h.1, ⟨_, rfl⟩, rfl⟩

theorem readRows_eq {rows : List AuditRow} {records : List AuditRecord}
    (h : rows.map (rowToRecord showFloat) = records.map some) :
    readRows showFloat rows = .records records := by
  rw [readRows, Journal.mapM_eq_some h]

theorem correlationId_of_rowToRecord {row : AuditRow} {record : AuditRecord}
    (h : rowToRecord showFloat row = some record) : record.correlationId = row.correlationId := by
  obtain ⟨payload, -, rfl⟩ := Option.map_eq_some_iff.mp h
  rfl

/-- Selecting rows by their correlation id selects the records. -/
theorem map_filter_correlationId {rows : List AuditRow} {records : List AuditRecord}
    (h : rows.map (rowToRecord showFloat) = records.map some) (correlationId : String) :
    (rows.filter fun r ↦ r.correlationId = correlationId).map (rowToRecord showFloat) =
      (records.filter fun r ↦ r.correlationId = correlationId).map some := by
  induction rows generalizing records with
  | nil => rw [List.map_eq_nil_iff.mp h.symm]; rfl
  | cons row rows ih =>
    cases records with
    | nil => cases h
    | cons record records =>
      obtain ⟨hfirst, hrest⟩ := List.cons.inj h
      have hsame := correlationId_of_rowToRecord hfirst
      by_cases hid : row.correlationId = correlationId
      · rw [List.filter_cons_of_pos (by simpa using hid),
          List.filter_cons_of_pos (by simpa using hsame.trans hid), List.map_cons, List.map_cons,
          hfirst, ih hrest]
      · rw [List.filter_cons_of_neg (by simpa using hid),
          List.filter_cons_of_neg (by simpa using fun heq ↦ hid (hsame.symm.trans heq)), ih hrest]

theorem Keeps.length {store : SQLiteAuditStore} {logs : AuditLogs} (h : store.Keeps showFloat logs)
    (tenantId : String) : store.count tenantId = (logs tenantId).length := by
  have hlength := congrArg List.length (h tenantId)
  rwa [List.length_map, List.length_map, ← List.countP_eq_length_filter] at hlength

theorem Keeps.answer {store : SQLiteAuditStore} {logs : AuditLogs} (h : store.Keeps showFloat logs)
    (call : AuditCall) : (logs.call call).1 = (store.call showFloat call).1 ↔
      store.Takes showFloat call := by
  cases call with
  | appendAuditEvent record createdAtUtc =>
    change AuditAnswer.done = (store.append showFloat record createdAtUtc).1 ↔ _
    rcases store.append_cases showFloat record createdAtUtc with
      ⟨htakes, hdone, -⟩ | ⟨htakes, ⟨fault, hraised⟩, -⟩
    · exact iff_of_true hdone.symm htakes
    · rw [hraised]
      exact iff_of_false nofun htakes
  | queryAuditEvents correlationId tenantId =>
    refine iff_of_true ?_ trivial
    change _ = readRows showFloat _
    rw [mergeSort_filter]
    refine (readRows_eq ?_).symm
    simp only [Bool.decide_and]
    rw [← List.filter_filter]
    exact map_filter_correlationId (h tenantId) correlationId
  | listAuditEvents tenantId limit =>
    refine iff_of_true ?_ trivial
    change _ = readRows showFloat _
    rw [mergeSort_filter_desc, Journal.reverse_take_reverse]
    refine (readRows_eq ?_).symm
    rw [Journal.map_newest, h tenantId, Journal.map_newest]
  | cleanupAuditEvents tenantId maxRecords =>
    refine iff_of_true ?_ trivial
    have hbounded : (max maxRecords 0).toNat = maxRecords.toNat := by omega
    change AuditAnswer.removed _ = .removed (store.cleanup tenantId maxRecords).1
    rw [cleanup, h.length, hbounded]
    split
    · next hle => rw [Nat.le_zero.mp hle]
    · rfl

theorem Keeps.append {store store' : SQLiteAuditStore} {logs : AuditLogs}
    (h : store.Keeps showFloat logs) {record : AuditRecord} {row : AuditRow}
    (hread : rowToRecord showFloat row = some record) (htenant : row.tenantId = record.tenantId)
    (hrows : store'.rows = store.rows ++ [row]) :
    store'.Keeps showFloat (logs.put record.tenantId (logs record.tenantId ++ [record])) := by
  intro t
  rw [hrows, filter_concat _ _ AuditRow.tenantId, AuditLogs.put_apply, htenant]
  split
  · next heq => rw [List.map_append, h t, heq, List.map_append, List.map_singleton, hread]; rfl
  · exact h t

theorem Keeps.deleteFirst {store : SQLiteAuditStore} {logs : AuditLogs}
    (h : store.Keeps showFloat logs) (tenantId : String) (overflow : Nat) :
    (store.deleteFirst tenantId overflow).Keeps showFloat
      (logs.put tenantId ((logs tenantId).drop overflow)) := by
  intro t
  rw [filter_deleteFirst, AuditLogs.put_apply]
  split
  · next heq => rw [List.map_drop, h t, ← List.map_drop, heq]
  · exact h t

theorem Keeps.next {store : SQLiteAuditStore} {logs : AuditLogs} (h : store.Keeps showFloat logs)
    {call : AuditCall} (htakes : store.Takes showFloat call) :
    (store.call showFloat call).2.Keeps showFloat (logs.call call).2 := by
  cases call with
  | appendAuditEvent record createdAtUtc =>
    rcases store.append_cases showFloat record createdAtUtc with
      ⟨-, -, row, hread, htenant, hrows⟩ | ⟨hnot, -⟩
    · exact h.append hread htenant hrows
    · exact absurd htakes hnot
  | queryAuditEvents correlationId tenantId => exact h
  | listAuditEvents tenantId limit => exact h
  | cleanupAuditEvents tenantId maxRecords =>
    have hbounded : (max maxRecords 0).toNat = maxRecords.toNat := by omega
    change (store.cleanup tenantId maxRecords).2.Keeps showFloat _
    rw [cleanup, h.length, hbounded]
    split
    · next hle =>
      intro t
      change _ = (logs.put tenantId _ t).map some
      rw [Nat.le_zero.mp hle, List.drop_zero, AuditLogs.put_apply, h t]
      split
      · next heq => rw [heq]
      · rfl
    · exact h.deleteFirst tenantId _

end SQLiteAuditStore

/-- **The two audit stores.**  Over every sequence of calls, the store in memory answers like a log of
its own for each tenant.  The table answers like that exactly if each record that is appended can be
written as JSON and has an id that is not in the table, of whichever tenant; a record that is not like
that is refused, and nothing is stored. -/
theorem auditStores_agree (showFloat : String → String) (calls : List AuditCall) :
    Run.trace InMemoryAuditStore.call ⟨[]⟩ calls = Run.trace AuditLogs.call AuditLogs.empty calls ∧
      (Run.trace AuditLogs.call AuditLogs.empty calls =
          Run.trace (SQLiteAuditStore.call showFloat) SQLiteAuditStore.empty calls ↔
        Run.Along (SQLiteAuditStore.call showFloat) (SQLiteAuditStore.Takes showFloat)
          SQLiteAuditStore.empty calls) := by
  constructor
  · exact Run.trace_eq_of_forall (R := InMemoryAuditStore.Keeps) (fun _ _ call h ↦ h.answer call)
      (fun _ _ call h ↦ h.next call) (fun _ ↦ rfl) calls
  · exact Run.trace_eq_iff_along (R := fun logs store ↦ SQLiteAuditStore.Keeps showFloat store logs)
      (fun _ _ call h ↦ h.answer call) (fun _ _ _ h htakes ↦ h.next htakes) (fun _ ↦ rfl) calls

/-! ## A table in a file -/

/-- The statements that change a table which several workers have open.  An append is one, and a cleanup
two: the worker counts, and then deletes what it counted. -/
inductive AuditStatement
  | insert (record : AuditRecord) (createdAtUtc : String)
  | selectCount (worker : Nat) (tenantId : String) (maxRecords : Int)
  | delete (worker : Nat)

/-- What a call answers when its last statement was executed. -/
inductive StatementAnswer
  | pending
  | stored (record : AuditRecord)
  | raised (fault : AuditFault)
  | removed (tenantId : String) (count : Nat)

/-- The answer to an append. -/
def StatementAnswer.ofAppend (record : AuditRecord) : AuditAnswer → StatementAnswer
  | .raised fault => .raised fault
  | _ => .stored record

def StatementAnswer.stored? : StatementAnswer → Option AuditRecord
  | .stored record => some record
  | _ => none

/-- How many records of a tenant are removed. -/
def StatementAnswer.removedOf (tenantId : String) : StatementAnswer → Nat
  | .removed t count => if tenantId = t then count else 0
  | _ => 0

/-- The table, and the cleanups that have counted. -/
structure AuditFile where
  store : SQLiteAuditStore
  cleanups : Dict Nat (String × Nat)

namespace AuditFile

/-- One statement. -/
def execute (showFloat : String → String) (file : AuditFile) :
    AuditStatement → StatementAnswer × AuditFile
  | .insert record createdAtUtc =>
    let appended := file.store.append showFloat record createdAtUtc
    (.ofAppend record appended.1, { file with store := appended.2 })
  | .selectCount worker tenantId maxRecords =>
    let overflow := file.store.count tenantId - (max maxRecords 0).toNat
    if overflow ≤ 0 then (.removed tenantId 0, file)
    else (.pending, { file with cleanups := file.cleanups.set worker (tenantId, overflow) })
  | .delete worker =>
    match file.cleanups.get? worker with
    | none => (.pending, file)
    | some (tenantId, overflow) =>
      (.removed tenantId overflow,
        { store := file.store.deleteFirst tenantId overflow, cleanups := file.cleanups.erase worker })

end AuditFile

/-- The records of a tenant that were stored, in order. -/
def storedFor (tenantId : String) (history : List (AuditStatement × StatementAnswer)) :
    List AuditRecord :=
  (history.filterMap fun e ↦ e.2.stored?).filter fun r ↦ r.tenantId = tenantId

/-- How many records of a tenant the cleanups say they removed. -/
def removedFor (tenantId : String) (history : List (AuditStatement × StatementAnswer)) : Nat :=
  (history.map fun e ↦ e.2.removedOf tenantId).sum

/-- What is left of the records of each tenant. -/
structure Remains (showFloat : String → String)
    (history : List (AuditStatement × StatementAnswer)) (file : AuditFile) (logs : AuditLogs) :
    Prop where
  keeps : file.store.Keeps showFloat logs
  suffix : ∀ tenantId, logs tenantId <:+ storedFor tenantId history
  length : ∀ tenantId, (storedFor tenantId history).length ≤
    (logs tenantId).length + removedFor tenantId history

section Remains

variable {showFloat : String → String} {history : List (AuditStatement × StatementAnswer)}
  {file : AuditFile} {logs : AuditLogs}

theorem storedFor_concat (tenantId : String) (h : List (AuditStatement × StatementAnswer))
    (e : AuditStatement × StatementAnswer) :
    storedFor tenantId (h ++ [e]) =
      storedFor tenantId h ++ e.2.stored?.toList.filter fun r ↦ r.tenantId = tenantId := by
  rw [storedFor, List.filterMap_append, List.filter_append, storedFor]
  have hlast : [e].filterMap (fun e ↦ e.2.stored?) = e.2.stored?.toList := by
    rw [List.filterMap_cons]
    cases e.2.stored? <;> rfl
  rw [hlast]

theorem removedFor_concat (tenantId : String) (h : List (AuditStatement × StatementAnswer))
    (e : AuditStatement × StatementAnswer) :
    removedFor tenantId (h ++ [e]) = removedFor tenantId h + e.2.removedOf tenantId := by
  rw [removedFor, List.map_append, List.sum_append, List.map_singleton, List.sum_singleton]
  rfl

/-- A statement that changes no row, and stores nothing. -/
theorem Remains.idle (h : Remains showFloat history file logs) {file' : AuditFile}
    (hstore : file'.store = file.store) {e : AuditStatement × StatementAnswer}
    (hstored : e.2.stored? = none) : Remains showFloat (history ++ [e]) file' logs := by
  have hsame (t : String) : storedFor t (history ++ [e]) = storedFor t history := by
    rw [storedFor_concat, hstored]
    exact List.append_nil _
  refine ⟨hstore ▸ h.keeps, fun t ↦ hsame t ▸ h.suffix t, fun t ↦ ?_⟩
  rw [hsame, removedFor_concat]
  exact Nat.le_trans (h.length t) (by omega)

theorem Remains.insert (h : Remains showFloat history file logs) (record : AuditRecord)
    (createdAtUtc : String) : ∃ logs',
      Remains showFloat
        (history ++ [(.insert record createdAtUtc,
          (file.execute showFloat (.insert record createdAtUtc)).1)])
        (file.execute showFloat (.insert record createdAtUtc)).2 logs' := by
  rcases file.store.append_cases showFloat record createdAtUtc with
    ⟨-, hdone, row, hread, htenant, hrows⟩ | ⟨-, ⟨fault, hraised⟩, hsame⟩
  · have hanswer : (file.execute showFloat (.insert record createdAtUtc)).1 = .stored record :=
      congrArg (StatementAnswer.ofAppend record) hdone
    rw [hanswer]
    refine ⟨_, h.keeps.append hread htenant hrows, fun t ↦ ?_, fun t ↦ ?_⟩
    · rw [storedFor_concat, AuditLogs.put_apply]
      change _ <:+ storedFor t history ++ [record].filter _
      split
      · next heq =>
        obtain ⟨gone, hgone⟩ := h.suffix t
        rw [List.filter_cons_of_pos (by simpa using heq.symm), ← hgone, ← heq]
        exact ⟨gone, (List.append_assoc ..).symm⟩
      · next hne =>
        rw [List.filter_cons_of_neg (by simpa using Ne.symm hne), List.filter_nil, List.append_nil]
        exact h.suffix t
    · have hlength := h.length t
      rw [storedFor_concat, removedFor_concat, AuditLogs.put_apply, List.length_append]
      change _ + ([record].filter _).length ≤ _ + (_ + 0)
      split
      · next heq =>
        rw [List.filter_cons_of_pos (by simpa using heq.symm), List.length_append, ← heq]
        change _ + 1 ≤ _ + 1 + _
        omega
      · next hne =>
        rw [List.filter_cons_of_neg (by simpa using Ne.symm hne)]
        exact hlength
  · have hanswer : (file.execute showFloat (.insert record createdAtUtc)).1 = .raised fault :=
      congrArg (StatementAnswer.ofAppend record) hraised
    rw [hanswer]
    exact ⟨logs, h.idle hsame rfl⟩

theorem Remains.delete (h : Remains showFloat history file logs) (worker : Nat) : ∃ logs',
    Remains showFloat (history ++ [(.delete worker, (file.execute showFloat (.delete worker)).1)])
      (file.execute showFloat (.delete worker)).2 logs' := by
  rw [AuditFile.execute]
  cases hcleanup : file.cleanups.get? worker with
  | none => exact ⟨logs, h.idle rfl rfl⟩
  | some cleanup =>
    obtain ⟨tenantId, overflow⟩ := cleanup
    have hsame (t : String) : storedFor t (history ++ [(.delete worker, .removed tenantId overflow)]) =
        storedFor t history := by
      rw [storedFor_concat]
      exact List.append_nil _
    refine ⟨_, h.keeps.deleteFirst tenantId overflow, fun t ↦ ?_, fun t ↦ ?_⟩
    · rw [hsame, AuditLogs.put_apply]
      split
      · next heq =>
        subst heq
        exact (List.drop_suffix overflow _).trans (h.suffix t)
      · exact h.suffix t
    · have hlength := h.length t
      rw [hsame, removedFor_concat, AuditLogs.put_apply]
      change _ ≤ _ + (_ + if t = tenantId then overflow else 0)
      split
      · next heq =>
        rw [List.length_drop, ← heq]
        omega
      · exact hlength

end Remains

/-- **What is left of the audit records.**  Several workers append to a table in a file and clean it up,
and their statements come in any order.  Then the rows of each tenant are the last of the records that
were stored for it, in their order and as they were; and no more are missing than cleanups of that
tenant say they removed. -/
theorem stored_isSuffix (showFloat : String → String) (statements : List AuditStatement)
    (tenantId : String) :
    let file := Run.exec (AuditFile.execute showFloat) ⟨SQLiteAuditStore.empty, Dict.empty⟩ statements
    let history := Run.trace (AuditFile.execute showFloat) ⟨SQLiteAuditStore.empty, Dict.empty⟩ statements
    ∃ log, (file.store.rows.filter fun r ↦ r.tenantId = tenantId).map (rowToRecord showFloat) =
        log.map some ∧ log <:+ storedFor tenantId history ∧
          (storedFor tenantId history).length ≤ log.length + removedFor tenantId history := by
  have hany : Run.Along (AuditFile.execute showFloat) (fun _ _ ↦ True)
      ⟨SQLiteAuditStore.empty, Dict.empty⟩ statements := Run.along_of_forall (fun _ _ ↦ trivial) _ _
  have hrun := Run.trace_invariant (P := fun history file ↦ ∃ logs, Remains showFloat history file logs)
    (fun history file e _ ⟨logs, h⟩ ↦ by
      cases e with
      | insert record createdAtUtc => exact h.insert record createdAtUtc
      | selectCount worker t maxRecords =>
        rw [AuditFile.execute]
        split
        · exact ⟨logs, h.idle rfl rfl⟩
        · refine ⟨logs, h.idle ?_ rfl⟩
          rfl
      | delete worker => exact h.delete worker)
    hany (h := []) ⟨AuditLogs.empty, fun _ ↦ rfl, fun _ ↦ List.suffix_refl _, fun _ ↦ Nat.le_refl _⟩
  obtain ⟨logs, h⟩ := hrun
  exact ⟨logs tenantId, h.keeps tenantId, h.suffix tenantId, h.length tenantId⟩

end Api
end ExoBrain
