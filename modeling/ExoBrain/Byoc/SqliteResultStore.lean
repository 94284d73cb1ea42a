import ExoBrain.Byoc.ResultStore

/-!
# The SQLite result store and replay guard

`SQLiteByocResultStore` and `SQLiteReplayGuard` (`sqlite_store.py`).  The three tables of the
result store, and the one of the guard, are dictionaries over their primary keys in `rowid` order;
an upsert keeps the place of its row.

A payload is stored as JSON text and read back field by field, so a row holds the envelope itself.

`ingest` leaves two of its branches without a `commit`.  What it has counted in
`byoc_result_conflicts` until then is rolled back when the connection of a file-backed store is
dropped, and stays on the one connection of a `:memory:` store; `uncommitted` is that difference.
-/

set_option autoImplicit false

namespace ExoBrain
namespace Byoc

open Text

/-! ## `SQLiteByocResultStore` -/

/-- A row of `byoc_result_idempotency`, without its key. -/
structure IdempotencyRow where
  tenantId : String
  jobId : String
  createdAtEpoch : Epoch
deriving DecidableEq, Repr

/-- A row of `byoc_result_payloads`, without its `job_id`. -/
structure PayloadRow where
  tenantId : String
  payload : ByocToolResultEnvelope
  createdAtEpoch : Epoch
deriving DecidableEq, Repr

/-- The primary key of `byoc_result_conflicts`. -/
structure ConflictKey where
  tenantId : String
  strategy : String
  toolName : String
  toolVersion : String
  reasonCode : String
deriving DecidableEq, Repr

/-- `SQLiteByocResultStore`. -/
structure SQLiteByocResultStore where
  conflictStrategy : ByocResultConflictStrategy
  /-- Was the store opened on `:memory:`? -/
  shared : Bool
  idempotency : Dict String IdempotencyRow
  payloads : Dict String PayloadRow
  conflicts : Dict ConflictKey Nat

namespace SQLiteByocResultStore

/-- A store on an empty database. -/
def init (conflictStrategy : ByocResultConflictStrategy) (shared : Bool) :
    SQLiteByocResultStore :=
  ⟨conflictStrategy, shared, Dict.empty, Dict.empty, Dict.empty⟩

/-- `_record_conflict` on the connection of the caller. -/
def recordConflict (tenantId toolName toolVersion reasonCode : String)
    (s : SQLiteByocResultStore) : SQLiteByocResultStore :=
  let tenant := if strip tenantId = "" then "default" else strip tenantId
  let tool := if strip toolName = "" then "unknown_tool" else strip toolName
  let version := strip toolVersion
  let reason :=
    if strip reasonCode = "" then "BYOC_RESULT_CONFLICT_UNKNOWN" else strip reasonCode
  { s with
    conflicts := s.conflicts.increment ⟨tenant, s.conflictStrategy.value, tool, version, reason⟩ }

/-- What is left of the changes `changed` when a call returns without committing them. -/
def uncommitted (s changed : SQLiteByocResultStore) : SQLiteByocResultStore :=
  if s.shared then changed else s

/-- The two statements that store a result that is taken: `INSERT INTO byoc_result_idempotency`,
and the upsert into `byoc_result_payloads`. -/
def write (now : Epoch) (key : String) (result : ByocToolResultEnvelope)
    (s : SQLiteByocResultStore) : SQLiteByocResultStore :=
  { s with
    idempotency := s.idempotency.setDefault key ⟨result.tenantId, result.jobId, now⟩
    payloads := s.payloads.set result.jobId ⟨result.tenantId, result, now⟩ }

/-- `ingest`, from the insertion of the key on.  `before` is the state the call found, and
`replacing` says whether the job had a payload then. -/
def insertResult (now : Epoch) (key : String) (result : ByocToolResultEnvelope)
    (replacing : Bool) (before s : SQLiteByocResultStore) :
    ByocResultIngestOutcome × SQLiteByocResultStore :=
  if key ∈ s.idempotency.keys then (.idempotentDuplicate, before.uncommitted s)
  else (if replacing then .conflictReplaced else .ingested, s.write now key result)

/-- `ingest`. -/
def ingest (now : Epoch) (result : ByocToolResultEnvelope) (s : SQLiteByocResultStore) :
    ByocResultIngestOutcome × SQLiteByocResultStore :=
  let key := strip result.idempotencyKey
  if key = "" then (.keyRequired, s)
  else
    match s.payloads.get? result.jobId with
    | none => insertResult now key result false s s
    | some row =>
      if strip row.payload.idempotencyKey = key then insertResult now key result true s s
      else if resolveResultConflict row.payload result s.conflictStrategy then
        insertResult now key result true s (s.recordConflict result.tenantId result.toolName
          result.toolVersion "BYOC_RESULT_CONFLICT_REPLACED")
      else
        (.conflictRejected, s.uncommitted (s.recordConflict result.tenantId result.toolName
          result.toolVersion "BYOC_RESULT_CONFLICT_REJECTED"))

/-- `consume`. -/
def consume (jobId : String) (s : SQLiteByocResultStore) :
    Option ByocToolResultEnvelope × SQLiteByocResultStore :=
  let normalized := strip jobId
  if normalized = "" then (none, s)
  else
    ((s.payloads.get? normalized).map PayloadRow.payload,
      { s with payloads := s.payloads.erase normalized })

/-- `has_idempotency_key`. -/
def hasIdempotencyKey (key : String) (s : SQLiteByocResultStore) : Bool :=
  strip key ≠ "" && strip key ∈ s.idempotency.keys

/-- `ORDER BY count DESC, reason_code ASC, tool_name ASC, tool_version ASC`. -/
def conflictRowLe (a b : ConflictKey × Nat) : Bool :=
  b.2 < a.2 || b.2 = a.2 && (a.1.reasonCode < b.1.reasonCode ||
    a.1.reasonCode = b.1.reasonCode && (a.1.toolName < b.1.toolName ||
      a.1.toolName = b.1.toolName && a.1.toolVersion ≤ b.1.toolVersion))

/-- A row of `byoc_result_conflicts` as it is reported. -/
def conflictRecord (row : ConflictKey × Nat) : ByocConflictCountRecord :=
  ⟨row.1.strategy, row.1.toolName, row.1.toolVersion, row.1.reasonCode, row.2⟩

/-- `list_conflict_counts`. -/
def listConflictCounts (tenantId : String) (s : SQLiteByocResultStore) :
    List ByocConflictCountRecord :=
  let normalized := strip tenantId
  if normalized = "" then []
  else
    ((s.conflicts.entries.filter fun row ↦ row.1.tenantId = normalized).mergeSort
      conflictRowLe).map conflictRecord

/-- The ids of the tenant's payloads beyond the newest `maxRecords`:
`ORDER BY created_at_epoch ASC, rowid ASC`. -/
def overflow (maxRecords : Int) (tenantId : String) (payloads : Dict String PayloadRow) :
    List String :=
  let rows := (payloads.entries.filter fun e ↦ e.2.tenantId = tenantId).mergeSort fun a b ↦
    a.2.createdAtEpoch ≤ b.2.createdAtEpoch
  (rows.take (rows.length - maxRecords.toNat)).map Prod.fst

/-- `cleanup_retention`. -/
def cleanupRetention (now : Epoch) (tenantId : String) (limits : ResultRetentionLimits)
    (s : SQLiteByocResultStore) : ResultPrunedCounts × SQLiteByocResultStore :=
  let normalized := strip tenantId
  if normalized = "" then (⟨0, 0⟩, s)
  else
    let oldPayload := fun (row : PayloadRow) ↦ row.tenantId = normalized &&
      row.createdAtEpoch + ttlTicks limits.resultTtlSeconds ≤ now
    let oldKey := fun (row : IdempotencyRow) ↦ row.tenantId = normalized &&
      row.createdAtEpoch + ttlTicks limits.idempotencyTtlSeconds ≤ now
    let payloads := s.payloads.filter fun _ row ↦ !oldPayload row
    let overflowing := overflow limits.maxResultRecords normalized payloads
    (⟨s.payloads.entries.countP (fun e ↦ oldPayload e.2) + overflowing.length,
        s.idempotency.entries.countP fun e ↦ oldKey e.2⟩,
      { s with
        idempotency := s.idempotency.filter fun _ row ↦ !oldKey row
        payloads := payloads.filter fun jobId _ ↦ jobId ∉ overflowing })

end SQLiteByocResultStore

/-- The SQLite store, as an instance of the contract. -/
def sqliteByocResultStore : ByocResultStore SQLiteByocResultStore where
  ingest := SQLiteByocResultStore.ingest
  consume := SQLiteByocResultStore.consume
  hasIdempotencyKey := SQLiteByocResultStore.hasIdempotencyKey
  cleanupRetention := SQLiteByocResultStore.cleanupRetention

/-! ## `SQLiteReplayGuard` -/

/-- `SQLiteReplayGuard`: the table `byoc_replay_guard`. -/
structure SQLiteReplayGuard where
  rows : Dict String Epoch

namespace SQLiteReplayGuard

/-- A guard on an empty database. -/
def init : SQLiteReplayGuard := ⟨Dict.empty⟩

/-- `mark_once`. -/
def markOnce (now : Epoch) (key : String) (ttlSeconds : Int) (g : SQLiteReplayGuard) :
    Bool × SQLiteReplayGuard :=
  let normalized := strip key
  if normalized = "" then (false, g)
  else
    let rows := g.rows.filter fun _ expires ↦ now < expires
    if normalized ∈ rows.keys then (false, ⟨rows⟩)
    else (true, ⟨rows.setDefault normalized (now + ttlTicks ttlSeconds)⟩)

/-- `cleanup_retention`: `DELETE .. WHERE guard_key LIKE ? AND expires_at_epoch <= ?`. -/
def cleanupRetention (now : Epoch) (tenantId : String) (g : SQLiteReplayGuard) :
    Nat × SQLiteReplayGuard :=
  let normalized := strip tenantId
  if normalized = "" then (0, g)
  else
    let stale := fun (key : String) (expires : Epoch) ↦
      like (normalized ++ ":%").toList key.toList && decide (expires ≤ now)
    (g.rows.entries.countP fun e ↦ stale e.1 e.2, ⟨g.rows.filter fun key t ↦ !stale key t⟩)

end SQLiteReplayGuard

/-- The SQLite guard, as an instance of the contract. -/
def sqliteReplayGuard : ReplayGuard SQLiteReplayGuard where
  markOnce := SQLiteReplayGuard.markOnce
  cleanupRetention := SQLiteReplayGuard.cleanupRetention

end Byoc
end ExoBrain
