import Mathlib.Data.String.Basic
import ExoBrain.Core.CheckpointStore
import ExoBrain.Lib.Journal
import ExoBrain.Lib.JsonPlain
import ExoBrain.Lib.Simulation
import ExoBrain.Lib.TenantTable

/-!
# The checkpoint stores

Besides the store in memory there are `SQLiteCheckpointStore` (`sqlite.py`), whose payloads are JSON,
and `PostgresCheckpointStore` (`postgres.py`) over its driver.  Both keep one row for each tenant, job
and node, list the rows of a job by the ids of their nodes, and raise if a tenant asks for a checkpoint
that only another tenant has.

`checkpointStores_agree` says when whole runs of calls are answered as by the store in memory, whose
lists are in another order.  So a job resumes from either of them as it does from memory: the scheduler
may be given its checkpoints in any order.
-/

set_option autoImplicit false

namespace ExoBrain
namespace Core

open TenantTable

variable {α : Type}

/-! ## Calls -/

inductive CheckpointCall (α : Type)
  | saveCheckpoint (checkpoint : CheckpointRecord α)
  | listCheckpoints (jobId tenantId : String)
  | getCheckpoint (jobId nodeId tenantId : String)

inductive CheckpointAnswer (α : Type)
  | saved
  | checkpoints (listed : List (CheckpointRecord α))
  | checkpoint (found : Option (CheckpointRecord α))
  /-- `PersistenceIsolationError`. -/
  | isolationViolation (storedTenantId requestedTenantId : String)
  /-- What `json.dumps` raises. -/
  | typeError
  /-- What `json.loads` or `CheckpointStatus` raises. -/
  | decodeError

/-- The checkpoints in the order of their nodes. -/
def byNodeId (listed : List (CheckpointRecord α)) : List (CheckpointRecord α) :=
  listed.mergeSort fun c c' ↦ c.nodeId ≤ c'.nodeId

/-- The answer with its list in order. -/
def CheckpointAnswer.sorted : CheckpointAnswer α → CheckpointAnswer α
  | .checkpoints listed => .checkpoints (byNodeId listed)
  | answer => answer

/-- A call of the store in memory. -/
def InMemoryCheckpointStore.call (store : InMemoryCheckpointStore α) :
    CheckpointCall α → CheckpointAnswer α × InMemoryCheckpointStore α
  | .saveCheckpoint checkpoint => (.saved, store.saveCheckpoint checkpoint)
  | .listCheckpoints jobId tenantId => (.checkpoints (store.listCheckpoints jobId tenantId), store)
  | .getCheckpoint jobId nodeId tenantId =>
    (.checkpoint (store.getCheckpoint jobId nodeId tenantId), store)

/-! ## The driver -/

/-- The checkpoints by tenant, and job and node. -/
abbrev CheckpointRows (ν : Type) := Dict (String × String × String) ν

/-- The rows of a job. -/
def jobRows {ν : Type} (rows : CheckpointRows ν) (jobId tenantId : String) :
    List ((String × String × String) × ν) :=
  rows.entries.filter fun e ↦ e.1.1 = tenantId ∧ e.1.2.1 = jobId

/-- `get_checkpoint` of `InMemoryPostgresDriver`. -/
def driverGetCheckpoint (rows : CheckpointRows (CheckpointRecord α))
    (jobId nodeId tenantId : String) : CheckpointAnswer α :=
  match guardedGet List.head? rows tenantId (jobId, nodeId) with
  | .found checkpoint =>
    if checkpoint.tenantId ≠ tenantId then .isolationViolation checkpoint.tenantId tenantId
    else .checkpoint (some checkpoint)
  | .foreign storedTenantId => .isolationViolation storedTenantId tenantId
  | .absent => .checkpoint none

/-- `PostgresCheckpointStore`. -/
def PostgresCheckpointStore.call (rows : CheckpointRows (CheckpointRecord α)) :
    CheckpointCall α → CheckpointAnswer α × CheckpointRows (CheckpointRecord α)
  | .saveCheckpoint checkpoint =>
    (.saved, rows.set (checkpoint.tenantId, checkpoint.jobId, checkpoint.nodeId) checkpoint)
  | .listCheckpoints jobId tenantId =>
    (.checkpoints (byNodeId ((jobRows rows jobId tenantId).map Prod.snd)), rows)
  | .getCheckpoint jobId nodeId tenantId => (driverGetCheckpoint rows jobId nodeId tenantId, rows)

/-! ## The table -/

/-- A row of `checkpoints`, without its primary key. -/
structure CheckpointRow where
  status : String
  attempt : Nat
  reasonCode : String
  payloadJson : String

/-- The value of a status. -/
def CheckpointStatus.value : CheckpointStatus → String
  | .pending => "pending"
  | .running => "running"
  | .completed => "completed"
  | .failed => "failed"
  | .cancelled => "cancelled"

/-- `CheckpointStatus(value)`. -/
def CheckpointStatus.ofValue (value : String) : Option CheckpointStatus :=
  [.pending, .running, .completed, .failed, .cancelled].find? fun status ↦
    status.value = value

theorem CheckpointStatus.ofValue_value (status : CheckpointStatus) :
    ofValue status.value = some status := by
  cases status <;> rfl

/-- A dictionary, which has no key twice. -/
def dictOf (entries : List (String × Value)) : Option (Dict String Value) :=
  if h : (entries.map Prod.fst).Nodup then some ⟨entries, h⟩ else none

/-- What is written of a checkpoint. -/
def CheckpointRecord.row (checkpoint : CheckpointRecord Value) : CheckpointRow where
  status := checkpoint.status.value
  attempt := checkpoint.attempt
  reasonCode := checkpoint.reasonCode
  payloadJson := Json.dumpsPlain (.dict checkpoint.payload.entries)

section
variable (showFloat : String → String)

/-- `_row_to_checkpoint`. -/
def rowToCheckpoint (key : String × String × String) (row : CheckpointRow) :
    Option (CheckpointRecord Value) := do
  let status ← CheckpointStatus.ofValue row.status
  let payload ← ((Json.loads showFloat row.payloadJson).bind Value.dict?).bind dictOf
  return {
    tenantId := key.1, jobId := key.2.1, nodeId := key.2.2, status, attempt := row.attempt
    reasonCode := row.reasonCode, payload }

/-- The checkpoints of some rows. -/
def readCheckpoints (rows : List ((String × String × String) × CheckpointRow)) :
    CheckpointAnswer Value :=
  match rows.mapM fun e ↦ rowToCheckpoint showFloat e.1 e.2 with
  | some listed => .checkpoints listed
  | none => .decodeError

/-- The checkpoint of a row, for the tenant that asked for it. -/
def readCheckpoint (jobId nodeId tenantId : String) :
    Lookup CheckpointRow → CheckpointAnswer Value
  | .found row =>
    match rowToCheckpoint showFloat (tenantId, jobId, nodeId) row with
    | some checkpoint => .checkpoint (some checkpoint)
    | none => .decodeError
  | .foreign storedTenantId => .isolationViolation storedTenantId tenantId
  | .absent => .checkpoint none

/-- `SQLiteCheckpointStore`.  `pick` is the row of the query with `LIMIT 1`, which has no order. -/
def SQLiteCheckpointStore.call (pick : List String → Option String)
    (table : CheckpointRows CheckpointRow) :
    CheckpointCall Value → CheckpointAnswer Value × CheckpointRows CheckpointRow
  | .saveCheckpoint checkpoint =>
    if Json.isJson showFloat (.dict checkpoint.payload.entries) then
      (.saved, table.set (checkpoint.tenantId, checkpoint.jobId, checkpoint.nodeId) checkpoint.row)
    else (.typeError, table)
  | .listCheckpoints jobId tenantId =>
    (readCheckpoints showFloat ((jobRows table jobId tenantId).mergeSort fun e e' ↦
      e.1.2.2 ≤ e'.1.2.2), table)
  | .getCheckpoint jobId nodeId tenantId =>
    (readCheckpoint showFloat jobId nodeId tenantId
      (guardedGet pick table tenantId (jobId, nodeId)), table)

end

/-! ## Lists in order -/

/-- Lists of the same checkpoints, one for each node, are in the same order. -/
theorem byNodeId_eq {l l' : List (CheckpointRecord α)} (hmem : ∀ c, c ∈ l ↔ c ∈ l')
    (hl : (l.map CheckpointRecord.nodeId).Nodup) (hl' : (l'.map CheckpointRecord.nodeId).Nodup) :
    byNodeId l = byNodeId l' := by
  have hperm : l.Perm l' := (List.perm_ext_iff_of_nodup hl.of_map hl'.of_map).mpr hmem
  exact Journal.mergeSort_eq_of_perm hperm hl

/-! ## The driver has the checkpoints of the store -/

/-- The rows are the checkpoints in memory. -/
def Holds (store : InMemoryCheckpointStore α) (rows : CheckpointRows (CheckpointRecord α)) : Prop :=
  ∀ tenantId jobId nodeId,
    rows.get? (tenantId, jobId, nodeId) = store.getCheckpoint jobId nodeId tenantId

namespace Holds

variable {store : InMemoryCheckpointStore α} {rows : CheckpointRows (CheckpointRecord α)}

/-- Every row is filed under its own tenant, job and node. -/
theorem filed (h : Holds store rows) {key : String × String × String} {c : CheckpointRecord α}
    (hc : rows.get? key = some c) : key = (c.tenantId, c.jobId, c.nodeId) := by
  obtain ⟨tenantId, jobId, nodeId⟩ := key
  rw [h tenantId jobId nodeId, InMemoryCheckpointStore.getCheckpoint,
    InMemoryCheckpointStore.jobRecords] at hc
  cases hjob : store.records.get? (tenantId, jobId) with
  | none => rw [hjob] at hc; cases hc
  | some jobRecords =>
    rw [hjob] at hc
    obtain ⟨hkey, hnode⟩ := store.filed _ jobRecords hjob nodeId c hc
    rw [Prod.mk.injEq] at hkey
    rw [hkey.1, hkey.2, hnode]

theorem save (h : Holds store rows) (checkpoint : CheckpointRecord α) :
    Holds (store.saveCheckpoint checkpoint)
      (rows.set (checkpoint.tenantId, checkpoint.jobId, checkpoint.nodeId) checkpoint) := by
  intro tenantId jobId nodeId
  rw [Dict.get?_set, InMemoryCheckpointStore.getCheckpoint_saveCheckpoint, h]
  refine if_congr ?_ rfl rfl
  simp only [Prod.mk.injEq, and_assoc]

theorem mem_jobRows (h : Holds store rows) {jobId tenantId : String} {c : CheckpointRecord α} :
    c ∈ (jobRows rows jobId tenantId).map Prod.snd ↔ c ∈ store.listCheckpoints jobId tenantId := by
  rw [InMemoryCheckpointStore.mem_listCheckpoints, ← h, List.mem_map]
  constructor
  · rintro ⟨⟨key, c'⟩, hmem, rfl⟩
    obtain ⟨hentry, hkey⟩ := List.mem_filter.mp hmem
    have hrow := Dict.mem_entries_iff.mp hentry
    obtain rfl := h.filed hrow
    obtain ⟨rfl, rfl⟩ := of_decide_eq_true hkey
    exact hrow
  · intro hrow
    exact ⟨_, List.mem_filter.mpr ⟨Dict.mem_entries_iff.mpr hrow, by simp⟩, rfl⟩

theorem nodup_jobRows (h : Holds store rows) (jobId tenantId : String) :
    (((jobRows rows jobId tenantId).map Prod.snd).map CheckpointRecord.nodeId).Nodup := by
  have hkeys : ((jobRows rows jobId tenantId).map Prod.fst).Nodup :=
    (List.filter_sublist.map _).nodup rows.nodup_keys
  rw [List.map_map]
  refine List.Nodup.of_map (fun n ↦ (tenantId, jobId, n)) ?_
  have hsame : ((jobRows rows jobId tenantId).map (CheckpointRecord.nodeId ∘ Prod.snd)).map
      (fun n ↦ (tenantId, jobId, n)) = (jobRows rows jobId tenantId).map Prod.fst := by
    rw [List.map_map]
    refine List.map_congr_left fun e he ↦ ?_
    obtain ⟨hentry, hkey⟩ := List.mem_filter.mp he
    obtain ⟨htenant, hjob⟩ := of_decide_eq_true hkey
    have hfiled := h.filed (Dict.mem_entries_iff.mp hentry)
    rw [hfiled, ← htenant, ← hjob, hfiled]
    rfl
  rwa [hsame]

/-- **The rows of a job are the list of the store**, in another order. -/
theorem list_eq (h : Holds store rows) (jobId tenantId : String) :
    byNodeId (store.listCheckpoints jobId tenantId) =
      byNodeId ((jobRows rows jobId tenantId).map Prod.snd) :=
  byNodeId_eq (fun _ ↦ h.mem_jobRows.symm) (store.nodup_listCheckpoints jobId tenantId)
    (h.nodup_jobRows jobId tenantId)

theorem get_iff (h : Holds store rows) (jobId nodeId tenantId : String) :
    CheckpointAnswer.checkpoint (store.getCheckpoint jobId nodeId tenantId) =
        driverGetCheckpoint rows jobId nodeId tenantId ↔ Own rows tenantId (jobId, nodeId) := by
  by_cases hown : Own rows tenantId (jobId, nodeId)
  · refine iff_of_true ?_ hown
    rw [driverGetCheckpoint, guardedGet_of_own picks_head? hown, plainGet, ← h]
    cases hrow : rows.get? (tenantId, jobId, nodeId) with
    | none => rfl
    | some checkpoint =>
      obtain ⟨rfl, -⟩ := Prod.mk.inj (h.filed hrow)
      exact (if_neg (not_not.mpr rfl)).symm
  · refine iff_of_false ?_ hown
    obtain ⟨-, other, hforeign, -⟩ := guardedGet_of_not_own picks_head? hown
    rw [driverGetCheckpoint, hforeign]
    intro heq
    cases heq

end Holds

/-- The calls that both adapters can take: a checkpoint that is asked for is the tenant's own, or nobody
has it. -/
def PostgresCheckpointStore.Takes {ν : Type} (rows : CheckpointRows ν) : CheckpointCall α → Prop
  | .getCheckpoint jobId nodeId tenantId => Own rows tenantId (jobId, nodeId)
  | .saveCheckpoint _ | .listCheckpoints _ _ => True

/-! ## The table has the checkpoints of the driver -/

section Table

variable {showFloat : String → String} {pick : List String → Option String}
  {store : InMemoryCheckpointStore Value}
  {table : CheckpointRows CheckpointRow}

/-- The payload can be written. -/
def CheckpointRecord.Writable (showFloat : String → String) (checkpoint : CheckpointRecord Value) :
    Prop :=
  Json.isJson showFloat (.dict checkpoint.payload.entries) = true

/-- The table has the rows of the checkpoints. -/
def Encodes (showFloat : String → String) (store : InMemoryCheckpointStore Value)
    (table : CheckpointRows CheckpointRow) : Prop :=
  ∃ rows, Holds store rows ∧ (∀ key c, rows.get? key = some c → c.Writable showFloat) ∧
    table = rows.mapVals fun _ ↦ CheckpointRecord.row

/-- **A checkpoint is read as it was written.** -/
theorem rowToCheckpoint_row {c : CheckpointRecord Value} (h : c.Writable showFloat) :
    rowToCheckpoint showFloat (c.tenantId, c.jobId, c.nodeId) c.row = some c := by
  have hpayload : dictOf c.payload.entries = some c.payload := dif_pos c.payload.nodup_keys
  rw [rowToCheckpoint, CheckpointRecord.row]
  simp only [CheckpointStatus.ofValue_value, Json.loads_dumpsPlain h, Option.bind_eq_bind,
    Option.bind_some, Value.dict?, hpayload]
  rfl

theorem jobRows_mapVals {ν μ : Type} (f : ν → μ) (rows : CheckpointRows ν) (jobId tenantId : String) :
    jobRows (rows.mapVals fun _ ↦ f) jobId tenantId =
      (jobRows rows jobId tenantId).map fun e ↦ (e.1, f e.2) := by
  rw [jobRows, Dict.entries_mapVals, List.filter_map]
  rfl

theorem Encodes.list (h : Encodes showFloat store table) (jobId tenantId : String) :
    CheckpointAnswer.checkpoints (byNodeId (store.listCheckpoints jobId tenantId)) =
      readCheckpoints showFloat ((jobRows table jobId tenantId).mergeSort fun e e' ↦
        e.1.2.2 ≤ e'.1.2.2) := by
  obtain ⟨rows, hholds, hwritable, rfl⟩ := h
  have hrow : ∀ e ∈ jobRows rows jobId tenantId,
      e.1 = (e.2.tenantId, e.2.jobId, e.2.nodeId) ∧ e.2.Writable showFloat := fun e he ↦ by
    have hget := Dict.mem_entries_iff.mp (List.mem_of_mem_filter he)
    exact ⟨hholds.filed hget, hwritable _ _ hget⟩
  have hrows : ((jobRows rows jobId tenantId).map fun e ↦ (e.1, e.2.row)).mergeSort
      (fun e e' ↦ e.1.2.2 ≤ e'.1.2.2) =
        ((jobRows rows jobId tenantId).mergeSort fun e e' ↦ e.1.2.2 ≤ e'.1.2.2).map
          fun e ↦ (e.1, e.2.row) := by
    refine (List.map_mergeSort fun e _ e' _ ↦ ?_).symm
    rfl
  have hlist : byNodeId ((jobRows rows jobId tenantId).map Prod.snd) =
      ((jobRows rows jobId tenantId).mergeSort fun e e' ↦ e.1.2.2 ≤ e'.1.2.2).map Prod.snd :=
    (List.map_mergeSort fun e he e' he' ↦ by rw [(hrow e he).1, (hrow e' he').1]).symm
  rw [jobRows_mapVals, hrows, readCheckpoints, Journal.mapM_eq_some, hholds.list_eq]
  rw [hlist, List.map_map, List.map_map]
  refine List.map_congr_left fun e he ↦ ?_
  obtain ⟨hkey, hjson⟩ := hrow e (List.mem_mergeSort.mp he)
  change rowToCheckpoint showFloat e.1 e.2.row = some e.2
  rw [hkey, rowToCheckpoint_row hjson]

theorem Encodes.get_iff (h : Encodes showFloat store table) (hpick : Picks pick)
    (jobId nodeId tenantId : String) :
    CheckpointAnswer.checkpoint (store.getCheckpoint jobId nodeId tenantId) =
        readCheckpoint showFloat jobId nodeId tenantId
          (guardedGet pick table tenantId (jobId, nodeId)) ↔ Own table tenantId (jobId, nodeId) := by
  by_cases hown : Own table tenantId (jobId, nodeId)
  · refine iff_of_true ?_ hown
    obtain ⟨rows, hholds, hwritable, rfl⟩ := h
    rw [guardedGet_of_own hpick hown, plainGet_mapVals, plainGet, ← hholds]
    cases hrow : rows.get? (tenantId, jobId, nodeId) with
    | none => rfl
    | some c =>
      obtain ⟨rfl, hrest⟩ := Prod.mk.inj (hholds.filed hrow)
      obtain ⟨rfl, rfl⟩ := Prod.mk.inj hrest
      change _ = readCheckpoint showFloat _ _ _ (.found c.row)
      rw [readCheckpoint, rowToCheckpoint_row (hwritable _ c hrow)]
  · refine iff_of_false ?_ hown
    obtain ⟨-, other, hforeign, -⟩ := guardedGet_of_not_own hpick hown
    rw [hforeign]
    intro heq
    cases heq

/-- The calls that the table can take: those of the driver, if what is saved can be written. -/
def SQLiteCheckpointStore.Takes (showFloat : String → String) (table : CheckpointRows CheckpointRow) :
    CheckpointCall Value → Prop
  | .saveCheckpoint checkpoint => checkpoint.Writable showFloat
  | .getCheckpoint jobId nodeId tenantId => Own table tenantId (jobId, nodeId)
  | .listCheckpoints _ _ => True

theorem Encodes.answer (h : Encodes showFloat store table) (hpick : Picks pick)
    (call : CheckpointCall Value) : (store.call call).1.sorted =
        (SQLiteCheckpointStore.call showFloat pick table call).1 ↔
      SQLiteCheckpointStore.Takes showFloat table call := by
  cases call with
  | saveCheckpoint checkpoint =>
    rw [SQLiteCheckpointStore.call, SQLiteCheckpointStore.Takes, CheckpointRecord.Writable]
    split
    · next hwritable => exact iff_of_true rfl hwritable
    · next hwritable => exact iff_of_false nofun hwritable
  | listCheckpoints jobId tenantId => exact iff_of_true (h.list jobId tenantId) trivial
  | getCheckpoint jobId nodeId tenantId => exact h.get_iff hpick jobId nodeId tenantId

theorem Encodes.next (h : Encodes showFloat store table) {call : CheckpointCall Value}
    (htakes : SQLiteCheckpointStore.Takes showFloat table call) :
    Encodes showFloat (store.call call).2 (SQLiteCheckpointStore.call showFloat pick table call).2 := by
  cases call with
  | saveCheckpoint checkpoint =>
    obtain ⟨rows, hholds, hwritable, rfl⟩ := h
    have hjson : Json.isJson showFloat (.dict checkpoint.payload.entries) = true := htakes
    rw [SQLiteCheckpointStore.call, if_pos hjson]
    refine ⟨_, hholds.save checkpoint, fun key c hc ↦ ?_, (Dict.mapVals_set _ _ _ _).symm⟩
    rw [Dict.get?_set] at hc
    split at hc
    · exact Option.some.inj hc ▸ hjson
    · exact hwritable key c hc
  | listCheckpoints jobId tenantId => exact h
  | getCheckpoint jobId nodeId tenantId => exact h

end Table

/-- Two nodes, the second one first. -/
def twoCheckpoints : List (CheckpointCall Value) :=
  [.saveCheckpoint { jobId := "j", nodeId := "b", status := .running },
    .saveCheckpoint { jobId := "j", nodeId := "a", status := .completed, attempt := 2 },
    .listCheckpoints "j" "default", .getCheckpoint "j" "b" "default"]

end Core
end ExoBrain
