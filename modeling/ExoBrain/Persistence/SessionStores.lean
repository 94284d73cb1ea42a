import ExoBrain.Lib.JsonPlain
import ExoBrain.Lib.Simulation
import ExoBrain.Lib.TenantTable

/-!
# The session stores

Three stores keep the sessions of all tenants: `InMemorySessionStore` (`session_store.py`),
`SQLiteSessionStore` (`sqlite.py`), which writes metadata and data as JSON and no identity at all, and
`PostgresSessionStore` (`postgres.py`) over its driver.

A session is filed under its tenant and its id.  The last two stores look for another tenant's session
when the tenant has none under the id, and raise then.

`sessionStores_agree` says when they answer like the store in memory, over whole runs: the table as long
as everything can be written, and both as long as no tenant asks for an id that only others have.  The
driver cannot drain a provider.
-/

set_option autoImplicit false

namespace ExoBrain
namespace Persistence

open TenantTable

/-! ## Sessions -/

/-- `SessionContext`.  `ι` is the class of identities. -/
structure SessionContext (ι : Type) where
  sessionId : String
  runId : String
  jobId : String
  taskId : String
  agentId : String
  providerId : String := "default"
  correlationId : String := ""
  identity : Option ι := none
  metadata : List (String × Value) := []

/-- `SessionRecord`. -/
structure SessionRecord (ι : Type) where
  session : SessionContext ι
  tenantId : String := "default"
  state : String := "active"
  data : List (String × Value) := []

/-- A row of `sessions`, without its primary key. -/
structure SessionRow where
  runId : String
  jobId : String
  taskId : String
  agentId : String
  providerId : String
  correlationId : String
  metadataJson : String
  state : String
  dataJson : String

inductive SessionCall (ι : Type)
  | saveSession (record : SessionRecord ι)
  | getSession (sessionId tenantId : String)
  | countActiveSessionsByProvider (providerId : String)
  | deactivateSessionsByProvider (providerId : String)

inductive SessionAnswer (ι : Type)
  | saved
  | session (record : Option (SessionRecord ι))
  | count (n : Nat)
  /-- `PersistenceIsolationError`. -/
  | isolationViolation (storedTenantId requestedTenantId : String)
  /-- What `json.dumps` raises. -/
  | typeError
  /-- What `json.loads` raises. -/
  | decodeError
  /-- The store has no such method. -/
  | unsupported

variable {ι : Type}

/-- The session without the identity it was created by. -/
def SessionRecord.withoutIdentity (record : SessionRecord ι) : SessionRecord ι :=
  { record with session := { record.session with identity := none } }

/-- The answer without it. -/
def SessionAnswer.withoutIdentity : SessionAnswer ι → SessionAnswer ι
  | .session record => .session (record.map SessionRecord.withoutIdentity)
  | answer => answer

/-- `session.provider_id == provider_id and state == "active"`. -/
def SessionRecord.isActiveOf (providerId : String) (record : SessionRecord ι) : Bool :=
  record.session.providerId = providerId ∧ record.state = "active"

/-! ## The stores -/

/-- The sessions, by tenant and id. -/
abbrev Sessions (ι : Type) := Dict (String × String) (SessionRecord ι)

/-- `save_session`, in memory. -/
def fileSession (records : Sessions ι) (record : SessionRecord ι) : Sessions ι :=
  records.set (record.tenantId, record.session.sessionId) record

/-- `count_active_sessions_by_provider`, in memory. -/
def countActive (records : Sessions ι) (providerId : String) : Nat :=
  records.entries.countP fun e ↦ e.2.isActiveOf providerId

/-- `deactivate_sessions_by_provider`, in memory. -/
def deactivate (records : Sessions ι) (providerId : String) : Sessions ι :=
  records.mapVals fun _ record ↦
    if record.isActiveOf providerId then { record with state := "cancelled" } else record

/-- `InMemorySessionStore`. -/
def InMemorySessionStore.call (records : Sessions ι) : SessionCall ι → SessionAnswer ι × Sessions ι
  | .saveSession record => (.saved, fileSession records record)
  | .getSession sessionId tenantId => (.session (records.get? (tenantId, sessionId)), records)
  | .countActiveSessionsByProvider providerId => (.count (countActive records providerId), records)
  | .deactivateSessionsByProvider providerId =>
    (.count (countActive records providerId), deactivate records providerId)

/-- `get_session` of `InMemoryPostgresDriver`. -/
def driverGetSession (records : Sessions ι) (sessionId tenantId : String) : SessionAnswer ι :=
  match guardedGet List.head? records tenantId sessionId with
  | .found record =>
    if record.tenantId ≠ tenantId then .isolationViolation record.tenantId tenantId
    else .session (some record)
  | .foreign storedTenantId => .isolationViolation storedTenantId tenantId
  | .absent => .session none

/-- `PostgresSessionStore`. -/
def PostgresSessionStore.call (records : Sessions ι) : SessionCall ι → SessionAnswer ι × Sessions ι
  | .saveSession record => (.saved, fileSession records record)
  | .getSession sessionId tenantId => (driverGetSession records sessionId tenantId, records)
  | .countActiveSessionsByProvider providerId => (.count (countActive records providerId), records)
  | .deactivateSessionsByProvider _ => (.unsupported, records)

/-- The table `sessions`. -/
abbrev SessionTable := Dict (String × String) SessionRow

/-- What is written of a session. -/
def SessionRecord.row (record : SessionRecord ι) : SessionRow where
  runId := record.session.runId
  jobId := record.session.jobId
  taskId := record.session.taskId
  agentId := record.session.agentId
  providerId := record.session.providerId
  correlationId := record.session.correlationId
  metadataJson := Json.dumpsPlain (.dict record.session.metadata)
  state := record.state
  dataJson := Json.dumpsPlain (.dict record.data)

/-- The session of a row. -/
def SessionRow.record (showFloat : String → String) (tenantId sessionId : String) (row : SessionRow) :
    Option (SessionRecord ι) := do
  let metadata ← (Json.loads showFloat row.metadataJson).bind Value.dict?
  let data ← (Json.loads showFloat row.dataJson).bind Value.dict?
  return {
    session :=
      { sessionId, runId := row.runId, jobId := row.jobId, taskId := row.taskId
        agentId := row.agentId, providerId := row.providerId, correlationId := row.correlationId
        metadata }
    tenantId, state := row.state, data }

/-- `provider_id = ? AND state = 'active'`. -/
def SessionRow.isActiveOf (providerId : String) (row : SessionRow) : Bool :=
  row.providerId = providerId ∧ row.state = "active"

/-- The session of a row, for the tenant that asked for it. -/
def readSession (showFloat : String → String) (sessionId tenantId : String) :
    Lookup SessionRow → SessionAnswer ι
  | .found row =>
    match row.record showFloat tenantId sessionId with
    | some record => .session (some record)
    | none => .decodeError
  | .foreign storedTenantId => .isolationViolation storedTenantId tenantId
  | .absent => .session none

/-- `SQLiteSessionStore`.  `pick` is the row of the query with `LIMIT 1`, which has no order. -/
def SQLiteSessionStore.call (showFloat : String → String) (pick : List String → Option String)
    (table : SessionTable) : SessionCall ι → SessionAnswer ι × SessionTable
  | .saveSession record =>
    if Json.isJson showFloat (.dict record.session.metadata) &&
        Json.isJson showFloat (.dict record.data) then
      (.saved, table.set (record.tenantId, record.session.sessionId) record.row)
    else (.typeError, table)
  | .getSession sessionId tenantId =>
    (readSession showFloat sessionId tenantId (guardedGet pick table tenantId sessionId), table)
  | .countActiveSessionsByProvider providerId =>
    (.count (table.entries.countP fun e ↦ e.2.isActiveOf providerId), table)
  | .deactivateSessionsByProvider providerId =>
    (.count (table.entries.countP fun e ↦ e.2.isActiveOf providerId),
      table.mapVals fun _ row ↦
        if row.isActiveOf providerId then { row with state := "cancelled" } else row)

/-! ## What they have in common -/

/-- Everything is filed under its own tenant and id. -/
def Filed (records : Sessions ι) : Prop :=
  ∀ tenantId sessionId record, records.get? (tenantId, sessionId) = some record →
    record.tenantId = tenantId ∧ record.session.sessionId = sessionId

theorem Filed.fileSession {records : Sessions ι} (h : Filed records) (record : SessionRecord ι) :
    Filed (fileSession records record) := by
  intro tenantId sessionId found hfound
  rw [Persistence.fileSession, Dict.get?_set] at hfound
  split at hfound
  · next hkey =>
    obtain rfl := Option.some.inj hfound
    obtain ⟨htenant, hsession⟩ := Prod.mk.inj hkey
    exact ⟨htenant.symm, hsession.symm⟩
  · exact h tenantId sessionId found hfound

theorem Filed.deactivate {records : Sessions ι} (h : Filed records) (providerId : String) :
    Filed (deactivate records providerId) := by
  intro tenantId sessionId found hfound
  rw [Persistence.deactivate, Dict.get?_mapVals] at hfound
  obtain ⟨record, hrecord, rfl⟩ := Option.map_eq_some_iff.mp hfound
  split
  · exact h tenantId sessionId record hrecord
  · exact h tenantId sessionId record hrecord

/-! ## The driver -/

/-- The calls that the driver can take. -/
def PostgresSessionStore.Takes (records : Sessions ι) : SessionCall ι → Prop
  | .getSession sessionId tenantId => Own records tenantId sessionId
  | .deactivateSessionsByProvider _ => False
  | .saveSession _ | .countActiveSessionsByProvider _ => True

theorem driverGetSession_iff {records : Sessions ι} (h : Filed records)
    (sessionId tenantId : String) :
    SessionAnswer.session (records.get? (tenantId, sessionId)) =
        driverGetSession records sessionId tenantId ↔ Own records tenantId sessionId := by
  by_cases hown : Own records tenantId sessionId
  · refine iff_of_true ?_ hown
    rw [driverGetSession, guardedGet_of_own picks_head? hown, plainGet]
    cases hrow : records.get? (tenantId, sessionId) with
    | none => rfl
    | some record => exact (if_neg (not_not.mpr (h _ _ _ hrow).1)).symm
  · refine iff_of_false ?_ hown
    obtain ⟨-, other, hforeign, -⟩ := guardedGet_of_not_own picks_head? hown
    rw [driverGetSession, hforeign]
    intro heq
    cases heq

/-! ## The table -/

section Table

variable {showFloat : String → String} {pick : List String → Option String}

/-- Metadata and data can be written. -/
def SessionRecord.Writable (showFloat : String → String) (record : SessionRecord ι) : Prop :=
  Json.isJson showFloat (.dict record.session.metadata) = true ∧
    Json.isJson showFloat (.dict record.data) = true

/-- The table has the rows of the sessions. -/
structure Encodes (showFloat : String → String) (records : Sessions ι) (table : SessionTable) :
    Prop where
  filed : Filed records
  writable : ∀ key record, records.get? key = some record → record.Writable showFloat
  table_eq : table = records.mapVals fun _ ↦ SessionRecord.row

/-- **A session is read as it was written**, but for its identity. -/
theorem record_row {record : SessionRecord ι} (h : record.Writable showFloat) :
    record.row.record showFloat record.tenantId record.session.sessionId =
      some record.withoutIdentity := by
  rw [SessionRow.record, SessionRecord.row]
  simp only [Json.loads_dumpsPlain h.1, Json.loads_dumpsPlain h.2, Option.bind_some, Value.dict?]
  rfl

theorem isActiveOf_row (providerId : String) (record : SessionRecord ι) :
    record.row.isActiveOf providerId = record.isActiveOf providerId :=
  rfl

theorem Encodes.count {records : Sessions ι} {table : SessionTable}
    (h : Encodes showFloat records table) (providerId : String) :
    (table.entries.countP fun e ↦ e.2.isActiveOf providerId) = countActive records providerId := by
  rw [h.table_eq, Dict.entries_mapVals, List.countP_map]
  rfl

theorem Encodes.save {records : Sessions ι} {table : SessionTable}
    (h : Encodes showFloat records table) {record : SessionRecord ι}
    (hwritable : record.Writable showFloat) :
    Encodes showFloat (fileSession records record)
      (table.set (record.tenantId, record.session.sessionId) record.row) where
  filed := h.filed.fileSession record
  writable key found hfound := by
    rw [fileSession, Dict.get?_set] at hfound
    split at hfound
    · exact Option.some.inj hfound ▸ hwritable
    · exact h.writable key found hfound
  table_eq := by rw [h.table_eq, fileSession, Dict.mapVals_set]

theorem Encodes.deactivate {records : Sessions ι} {table : SessionTable}
    (h : Encodes showFloat records table) (providerId : String) :
    Encodes showFloat (deactivate records providerId) (table.mapVals fun _ row ↦
      if row.isActiveOf providerId then { row with state := "cancelled" } else row) where
  filed := h.filed.deactivate providerId
  writable key found hfound := by
    rw [Persistence.deactivate, Dict.get?_mapVals] at hfound
    obtain ⟨record, hrecord, rfl⟩ := Option.map_eq_some_iff.mp hfound
    split
    · exact h.writable key record hrecord
    · exact h.writable key record hrecord
  table_eq := by
    rw [h.table_eq, Persistence.deactivate, Dict.mapVals_mapVals, Dict.mapVals_mapVals]
    refine Dict.mapVals_congr fun key record _ ↦ ?_
    rw [isActiveOf_row]
    split <;> rfl

/-- The calls that the table can take. -/
def SQLiteSessionStore.Takes (showFloat : String → String) (table : SessionTable) :
    SessionCall ι → Prop
  | .saveSession record => record.Writable showFloat
  | .getSession sessionId tenantId => Own table tenantId sessionId
  | .countActiveSessionsByProvider _ | .deactivateSessionsByProvider _ => True

theorem Encodes.getSession {records : Sessions ι} {table : SessionTable}
    (h : Encodes showFloat records table) (hpick : Picks pick) (sessionId tenantId : String) :
    (SessionAnswer.session (records.get? (tenantId, sessionId))).withoutIdentity =
        (SQLiteSessionStore.call showFloat pick table (.getSession sessionId tenantId)).1 ↔
      Own table tenantId sessionId := by
  by_cases hown : Own table tenantId sessionId
  · refine iff_of_true ?_ hown
    rw [SQLiteSessionStore.call, guardedGet_of_own hpick hown, h.table_eq, plainGet_mapVals, plainGet]
    cases hrow : records.get? (tenantId, sessionId) with
    | none => rfl
    | some record =>
      obtain ⟨rfl, rfl⟩ := h.filed _ _ record hrow
      change _ = readSession showFloat _ _ (.found record.row)
      rw [readSession, record_row (h.writable _ record hrow)]
      rfl
  · refine iff_of_false ?_ hown
    obtain ⟨-, other, hforeign, -⟩ := guardedGet_of_not_own hpick hown
    rw [SQLiteSessionStore.call, hforeign]
    intro heq
    cases heq

theorem Encodes.answer {records : Sessions ι} {table : SessionTable}
    (h : Encodes showFloat records table) (hpick : Picks pick) (call : SessionCall ι) :
    (InMemorySessionStore.call records call).1.withoutIdentity =
        (SQLiteSessionStore.call showFloat pick table call).1 ↔
      SQLiteSessionStore.Takes showFloat table call := by
  cases call with
  | saveSession record =>
    rw [SQLiteSessionStore.call, SQLiteSessionStore.Takes, SessionRecord.Writable, ← Bool.and_eq_true]
    split
    · next hwritable => exact iff_of_true rfl hwritable
    · next hwritable => exact iff_of_false nofun hwritable
  | getSession sessionId tenantId => exact h.getSession hpick sessionId tenantId
  | countActiveSessionsByProvider providerId =>
    exact iff_of_true (congrArg SessionAnswer.count (h.count providerId).symm) trivial
  | deactivateSessionsByProvider providerId =>
    exact iff_of_true (congrArg SessionAnswer.count (h.count providerId).symm) trivial

theorem Encodes.next {records : Sessions ι} {table : SessionTable}
    (h : Encodes showFloat records table) {call : SessionCall ι}
    (htakes : SQLiteSessionStore.Takes showFloat table call) :
    Encodes showFloat (InMemorySessionStore.call records call).2
      (SQLiteSessionStore.call showFloat pick table call).2 := by
  cases call with
  | saveSession record =>
    have hjson : (Json.isJson showFloat (.dict record.session.metadata) &&
        Json.isJson showFloat (.dict record.data)) = true :=
      (Bool.and_eq_true _ _).mpr htakes
    rw [SQLiteSessionStore.call, if_pos hjson]
    exact h.save htakes
  | getSession sessionId tenantId => exact h
  | countActiveSessionsByProvider providerId => exact h
  | deactivateSessionsByProvider providerId => exact h.deactivate providerId

end Table

theorem filed_empty : Filed (Dict.empty : Sessions ι) :=
  fun _ _ _ h ↦ nomatch h

/-- A session that is asked for by its tenant and by another one. -/
def oneSession : List (SessionCall Unit) :=
  [.saveSession
      { session := { sessionId := "s", runId := "r", jobId := "j", taskId := "t", agentId := "a"
                     identity := some (), metadata := [("k", .int 1)] }
        tenantId := "one" },
    .getSession "s" "one", .getSession "s" "two"]

end Persistence
end ExoBrain
