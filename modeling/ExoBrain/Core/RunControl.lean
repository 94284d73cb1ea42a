import ExoBrain.Lib.Dict
import ExoBrain.Lib.Run
import ExoBrain.Lib.Text

/-!
# The run registries

The run registry (`run_control_registry.py`) has a record for each run of a tenant, with its status,
the ids of its tool calls, and whether its cancellation was requested.  There are two of them.
`RunControlRegistry` keeps the records in a dictionary.  `SQLiteRunControlRegistry` has a table of
runs and a table of tool calls; its rows are in the order of `rowid`, and `INSERT OR REPLACE` takes
the old row out and puts the new one at the end.

A call reads the clock once; the reading is an input.  Time is counted in microseconds, so that it
is ordered as the ISO texts are; an empty text is `none`.  `datetime(..)` of SQLite, by which old
runs are sorted there, keeps whole seconds only; how it rounds is a parameter.  A Python set of ids
is a list without repetitions, in the order of insertion; every use of it sorts it first.

`RunRegistry` is one or the other, as `session_runtime.run_control_registry` is.
-/

set_option autoImplicit false

namespace ExoBrain
namespace Core

open Text

/-! ## Records -/

/-- An instant of UTC. -/
abbrev Stamp := Nat

/-- The key of a run: tenant and run id. -/
abbrev RunKey := String × String

/-- `_TERMINAL_STATUSES`, and the statuses `request_cancel` leaves alone. -/
def isTerminalStatus (status : String) : Bool :=
  status = "completed" || status = "errored" || status = "cancelled"

/-- `active_statuses` of `count_active_runs`. -/
def isActiveStatus (status : String) : Bool := status = "running" || status = "cancel_requested"

/-- `RunControlRecord`; also the dictionary it is turned into. -/
structure RunControlRecord where
  tenantId : String
  sessionId : String
  runId : String
  correlationId : String
  transport : String
  status : String := "running"
  callIds : List String := []
  cancelRequested : Bool := false
  cancelReason : String := ""
  startedAtUtc : Stamp
  updatedAtUtc : Stamp
  finishedAtUtc : Option Stamp := none
  terminalEvent : String := ""
  terminalMessage : String := ""
deriving DecidableEq, Repr

/-- `list.append` if it is not there, as `set.add` and `INSERT OR IGNORE` do. -/
def addNew (l : List String) (x : String) : List String := if x ∈ l then l else l ++ [x]

namespace RunControlRecord

/-- `to_dict`. -/
def toDict (r : RunControlRecord) : RunControlRecord := { r with callIds := sortedTexts r.callIds }

/-- What `mark_terminal` writes. -/
def marked (status terminalEvent terminalMessage : String) (now : Stamp) (r : RunControlRecord) :
    RunControlRecord :=
  { r with
    status := status
    terminalEvent := terminalEvent
    terminalMessage := terminalMessage
    updatedAtUtc := now
    finishedAtUtc := some now }

/-- What `request_cancel` writes. -/
def cancelled (reason : String) (now : Stamp) (r : RunControlRecord) : RunControlRecord :=
  { r with
    cancelRequested := true
    cancelReason := reason
    status := if isTerminalStatus r.status then r.status else "cancel_requested"
    updatedAtUtc := now }

/-- What `record_tool_call` writes. -/
def called (callId : String) (now : Stamp) (r : RunControlRecord) : RunControlRecord :=
  { r with callIds := addNew r.callIds callId, updatedAtUtc := now }

end RunControlRecord

/-- The arguments of `start_run`. -/
structure RunStart where
  tenantId : String
  sessionId : String
  runId : String
  correlationId : String
  transport : String
deriving DecidableEq, Repr

/-- The record of a run that starts. -/
def RunStart.record (start : RunStart) (now : Stamp) : RunControlRecord where
  tenantId := start.tenantId
  sessionId := start.sessionId
  runId := start.runId
  correlationId := if start.correlationId = "" then start.runId else start.correlationId
  transport := start.transport
  startedAtUtc := now
  updatedAtUtc := now

/-- `max(1, min(int(limit), 500))`. -/
def boundedLimit (limit : Int) : Nat := (max 1 (min limit 500)).toNat

/-! ## In memory -/

/-- `RunControlRegistry`: `_records`. -/
structure RunControlRegistry where
  records : Dict RunKey RunControlRecord

namespace RunControlRegistry

/-- The registry without runs. -/
def initial : RunControlRegistry := ⟨Dict.empty⟩

/-- The records of `_prune_memory_terminals_unlocked` before they are sorted. -/
def terminals (tenantId : String) (s : RunControlRegistry) : List RunControlRecord :=
  (s.records.entries.map Prod.snd).filter fun r ↦
    r.tenantId = tenantId && isTerminalStatus r.status

/-- The key `(r.finished_at_utc or r.started_at_utc, r.run_id)` of one record is not above the one
of another. -/
def finishedBefore (a b : RunControlRecord) : Bool :=
  let ka := a.finishedAtUtc.getD a.startedAtUtc
  let kb := b.finishedAtUtc.getD b.startedAtUtc
  ka < kb || ka = kb && a.runId ≤ b.runId

/-- The runs `_prune_memory_terminals_unlocked` drops; a cap of zero means no limit. -/
def oldest (cap : Nat) (tenantId : String) (s : RunControlRegistry) : List RunKey :=
  let matching := s.terminals tenantId
  if cap = 0 then []
  else
    ((matching.mergeSort finishedBefore).take (matching.length - cap)).map fun r ↦
      (r.tenantId, r.runId)

/-- `_prune_memory_terminals_unlocked`. -/
def prune (cap : Nat) (tenantId : String) (s : RunControlRegistry) : RunControlRegistry :=
  ⟨(s.oldest cap tenantId).foldl (fun d key ↦ d.erase key) s.records⟩

/-- `start_run`. -/
def startRun (start : RunStart) (now : Stamp) (s : RunControlRegistry) :
    RunControlRecord × RunControlRegistry :=
  (start.record now, ⟨s.records.set (start.tenantId, start.runId) (start.record now)⟩)

/-- `record_tool_call`. -/
def recordToolCall (key : RunKey) (callId : String) (now : Stamp) (s : RunControlRegistry) :
    Bool × RunControlRegistry :=
  if strip callId = "" then (false, s)
  else if key ∈ s.records.keys then
    (true, ⟨s.records.modify key (RunControlRecord.called (strip callId) now)⟩)
  else (false, s)

/-- `mark_terminal`. -/
def markTerminal (cap : Nat) (key : RunKey) (status terminalEvent terminalMessage : String)
    (now : Stamp) (s : RunControlRegistry) : Bool × RunControlRegistry :=
  if key ∈ s.records.keys then
    (true, prune cap key.1
      ⟨s.records.modify key (RunControlRecord.marked status terminalEvent terminalMessage now)⟩)
  else (false, s)

/-- `request_cancel`. -/
def requestCancel (key : RunKey) (reason : String) (now : Stamp) (s : RunControlRegistry) :
    Bool × RunControlRegistry :=
  if key ∈ s.records.keys then
    (true, ⟨s.records.modify key (RunControlRecord.cancelled reason now)⟩)
  else (false, s)

/-- `get_run`. -/
def getRun (key : RunKey) (s : RunControlRegistry) : Option RunControlRecord :=
  (s.records.get? key).map RunControlRecord.toDict

/-- `list_runs`. -/
def listRuns (tenantId : String) (limit : Int) (s : RunControlRegistry) : List RunControlRecord :=
  let records := (s.records.entries.map Prod.snd).filter fun r ↦ r.tenantId = tenantId
  let sorted := records.mergeSort fun a b ↦ b.updatedAtUtc ≤ a.updatedAtUtc
  (sorted.take (boundedLimit limit)).map RunControlRecord.toDict

/-- `call_ids_for_run`. -/
def callIdsForRun (key : RunKey) (s : RunControlRegistry) : List String :=
  match s.records.get? key with
  | none => []
  | some r => sortedTexts r.callIds

/-- `count_active_runs`. -/
def countActiveRuns (tenantId : String) (s : RunControlRegistry) : Nat :=
  s.records.entries.countP fun e ↦ e.2.tenantId = tenantId && isActiveStatus e.2.status

end RunControlRegistry

/-! ## In SQLite -/

/-- A row of `run_control`, under its primary key; `call_ids_json` is the list it encodes. -/
structure RunRow where
  sessionId : String
  correlationId : String
  transport : String
  status : String
  callIdsJson : List String
  cancelRequested : Bool
  cancelReason : String
  startedAtUtc : Stamp
  updatedAtUtc : Stamp
  finishedAtUtc : Option Stamp
  terminalEvent : String
  terminalMessage : String
deriving DecidableEq, Repr

/-- A row of `run_control_tool_calls`. -/
structure ToolCallRow where
  key : RunKey
  callId : String
deriving DecidableEq, Repr

/-- What a database is opened with: the cap, and how `datetime` rounds. -/
structure RunSettings where
  maxTerminalRecordsPerTenant : Nat := 0
  datetime : Stamp → Nat := fun t ↦ t / 1000000

/-- The two tables of `SQLiteRunControlRegistry`. -/
structure SQLiteRunControlRegistry where
  runControl : Dict RunKey RunRow
  toolCalls : List ToolCallRow

namespace SQLiteRunControlRegistry

/-- The empty tables. -/
def initial : SQLiteRunControlRegistry := ⟨Dict.empty, []⟩

/-- `_row_to_dict`, but for the order of the ids. -/
def rowToRecord (key : RunKey) (row : RunRow) (callIds : List String) : RunControlRecord where
  tenantId := key.1
  sessionId := row.sessionId
  runId := key.2
  correlationId := row.correlationId
  transport := row.transport
  status := row.status
  callIds := callIds
  cancelRequested := row.cancelRequested
  cancelReason := row.cancelReason
  startedAtUtc := row.startedAtUtc
  updatedAtUtc := row.updatedAtUtc
  finishedAtUtc := row.finishedAtUtc
  terminalEvent := row.terminalEvent
  terminalMessage := row.terminalMessage

/-- The ids of the tool calls of a run, in the order of `rowid`. -/
def callIdsOf (key : RunKey) (s : SQLiteRunControlRegistry) : List String :=
  (s.toolCalls.filter fun row ↦ row.key = key).map ToolCallRow.callId

/-- The ids of a run: without rows, the ones of the old column. -/
def idsOrLegacy (key : RunKey) (row : RunRow) (s : SQLiteRunControlRegistry) : List String :=
  if s.callIdsOf key = [] then row.callIdsJson else s.callIdsOf key

/-- `_row_to_dict` of a row with its ids. -/
def rowToDict (key : RunKey) (row : RunRow) (s : SQLiteRunControlRegistry) : RunControlRecord :=
  (rowToRecord key row (s.idsOrLegacy key row)).toDict

/-- The rows `_prune_sqlite_terminals` looks at. -/
def terminals (tenantId : String) (s : SQLiteRunControlRegistry) : List (RunKey × RunRow) :=
  s.runControl.entries.filter fun e ↦ e.1.1 = tenantId && isTerminalStatus e.2.status

/-- `ORDER BY datetime(finished_at_utc) ASC, started_at_utc ASC, run_id ASC`, where `NULL` comes
first. -/
def finishedBefore (datetime : Stamp → Nat) (a b : RunKey × RunRow) : Bool :=
  let ka := (a.2.finishedAtUtc.map fun t ↦ datetime t + 1).getD 0
  let kb := (b.2.finishedAtUtc.map fun t ↦ datetime t + 1).getD 0
  ka < kb || ka = kb &&
    (a.2.startedAtUtc < b.2.startedAtUtc ||
      a.2.startedAtUtc = b.2.startedAtUtc && a.1.2 ≤ b.1.2)

/-- The runs `_prune_sqlite_terminals` deletes. -/
def oldest (settings : RunSettings) (tenantId : String) (s : SQLiteRunControlRegistry) :
    List RunKey :=
  let rows := s.terminals tenantId
  if settings.maxTerminalRecordsPerTenant = 0 then []
  else
    ((rows.mergeSort (finishedBefore settings.datetime)).take
      (rows.length - settings.maxTerminalRecordsPerTenant)).map Prod.fst

/-- The two deletions for a run. -/
def delete (s : SQLiteRunControlRegistry) (key : RunKey) : SQLiteRunControlRegistry :=
  ⟨s.runControl.erase key, s.toolCalls.filter fun row ↦ row.key ≠ key⟩

/-- `_prune_sqlite_terminals`. -/
def prune (settings : RunSettings) (tenantId : String) (s : SQLiteRunControlRegistry) :
    SQLiteRunControlRegistry :=
  (s.oldest settings tenantId).foldl delete s

/-- The row `start_run` inserts. -/
def newRow (record : RunControlRecord) : RunRow where
  sessionId := record.sessionId
  correlationId := record.correlationId
  transport := record.transport
  status := record.status
  callIdsJson := []
  cancelRequested := false
  cancelReason := ""
  startedAtUtc := record.startedAtUtc
  updatedAtUtc := record.updatedAtUtc
  finishedAtUtc := none
  terminalEvent := ""
  terminalMessage := ""

/-- `start_run`.  The rows of `run_control_tool_calls` stay as they are. -/
def startRun (start : RunStart) (now : Stamp) (s : SQLiteRunControlRegistry) :
    RunControlRecord × SQLiteRunControlRegistry :=
  let record := start.record now
  let key := (record.tenantId, record.runId)
  (record, { s with runControl := (s.runControl.erase key).set key (newRow record) })

/-- `record_tool_call`. -/
def recordToolCall (key : RunKey) (callId : String) (now : Stamp) (s : SQLiteRunControlRegistry) :
    Bool × SQLiteRunControlRegistry :=
  if strip callId = "" then (false, s)
  else if key ∈ s.runControl.keys then
    let row : ToolCallRow := ⟨key, strip callId⟩
    (true,
      { runControl := s.runControl.modify key fun r ↦ { r with updatedAtUtc := now }
        toolCalls := if row ∈ s.toolCalls then s.toolCalls else s.toolCalls ++ [row] })
  else (false, s)

/-- `mark_terminal`. -/
def markTerminal (settings : RunSettings) (key : RunKey)
    (status terminalEvent terminalMessage : String) (now : Stamp) (s : SQLiteRunControlRegistry) :
    Bool × SQLiteRunControlRegistry :=
  if key ∈ s.runControl.keys then
    (true, prune settings key.1
      { s with
        runControl := s.runControl.modify key fun r ↦
          { r with
            status := status
            terminalEvent := terminalEvent
            terminalMessage := terminalMessage
            updatedAtUtc := now
            finishedAtUtc := some now } })
  else (false, s)

/-- `request_cancel`. -/
def requestCancel (key : RunKey) (reason : String) (now : Stamp) (s : SQLiteRunControlRegistry) :
    Bool × SQLiteRunControlRegistry :=
  if key ∈ s.runControl.keys then
    (true,
      { s with
        runControl := s.runControl.modify key fun r ↦
          { r with
            cancelRequested := true
            cancelReason := reason
            status := if isTerminalStatus r.status then r.status else "cancel_requested"
            updatedAtUtc := now } })
  else (false, s)

/-- `get_run`. -/
def getRun (key : RunKey) (s : SQLiteRunControlRegistry) : Option RunControlRecord :=
  (s.runControl.get? key).map fun row ↦ s.rowToDict key row

/-- `list_runs`. -/
def listRuns (tenantId : String) (limit : Int) (s : SQLiteRunControlRegistry) :
    List RunControlRecord :=
  let rows := s.runControl.entries.filter fun e ↦ e.1.1 = tenantId
  let sorted := rows.mergeSort fun a b ↦ b.2.updatedAtUtc ≤ a.2.updatedAtUtc
  (sorted.take (boundedLimit limit)).map fun e ↦ s.rowToDict e.1 e.2

/-- `call_ids_for_run`. -/
def callIdsForRun (key : RunKey) (s : SQLiteRunControlRegistry) : List String :=
  if s.callIdsOf key ≠ [] then s.callIdsOf key
  else
    match s.runControl.get? key with
    | none => []
    | some row => sortedTexts row.callIdsJson

/-- `count_active_runs`. -/
def countActiveRuns (tenantId : String) (s : SQLiteRunControlRegistry) : Nat :=
  s.runControl.entries.countP fun e ↦ e.1.1 = tenantId && isActiveStatus e.2.status

end SQLiteRunControlRegistry

/-! ## The registries as machines -/

/-- A call of a registry, with its reading of the clock. -/
inductive RunCall
  | startRun (start : RunStart) (now : Stamp)
  | recordToolCall (key : RunKey) (callId : String) (now : Stamp)
  | markTerminal (key : RunKey) (status terminalEvent terminalMessage : String) (now : Stamp)
  | requestCancel (key : RunKey) (reason : String) (now : Stamp)
  | getRun (key : RunKey) (now : Stamp)
  | listRuns (tenantId : String) (limit : Int) (now : Stamp)
  | callIdsForRun (key : RunKey) (now : Stamp)
  | countActiveRuns (tenantId : String) (now : Stamp)
deriving DecidableEq, Repr

/-- The clock reading of the call. -/
def RunCall.now : RunCall → Stamp
  | .startRun _ now | .recordToolCall _ _ now | .markTerminal _ _ _ _ now
  | .requestCancel _ _ now | .getRun _ now | .listRuns _ _ now | .callIdsForRun _ now
  | .countActiveRuns _ now => now

/-- What a call returns. -/
inductive RunAnswer
  | record (answer : RunControlRecord)
  | found (answer : Bool)
  | run (answer : Option RunControlRecord)
  | runs (answer : List RunControlRecord)
  | callIds (answer : List String)
  | count (answer : Nat)
deriving DecidableEq, Repr

/-- One call of `RunControlRegistry`. -/
def RunControlRegistry.step (settings : RunSettings) (s : RunControlRegistry) :
    RunCall → RunAnswer × RunControlRegistry
  | .startRun start now =>
    let r := s.startRun start now
    (.record r.1, r.2)
  | .recordToolCall key callId now =>
    let r := s.recordToolCall key callId now
    (.found r.1, r.2)
  | .markTerminal key status terminalEvent terminalMessage now =>
    let r := s.markTerminal settings.maxTerminalRecordsPerTenant key status terminalEvent
      terminalMessage now
    (.found r.1, r.2)
  | .requestCancel key reason now =>
    let r := s.requestCancel key reason now
    (.found r.1, r.2)
  | .getRun key _ => (.run (s.getRun key), s)
  | .listRuns tenantId limit _ => (.runs (s.listRuns tenantId limit), s)
  | .callIdsForRun key _ => (.callIds (s.callIdsForRun key), s)
  | .countActiveRuns tenantId _ => (.count (s.countActiveRuns tenantId), s)

/-- One call of `SQLiteRunControlRegistry`. -/
def SQLiteRunControlRegistry.step (settings : RunSettings) (s : SQLiteRunControlRegistry) :
    RunCall → RunAnswer × SQLiteRunControlRegistry
  | .startRun start now =>
    let r := s.startRun start now
    (.record r.1, r.2)
  | .recordToolCall key callId now =>
    let r := s.recordToolCall key callId now
    (.found r.1, r.2)
  | .markTerminal key status terminalEvent terminalMessage now =>
    let r := s.markTerminal settings key status terminalEvent terminalMessage now
    (.found r.1, r.2)
  | .requestCancel key reason now =>
    let r := s.requestCancel key reason now
    (.found r.1, r.2)
  | .getRun key _ => (.run (s.getRun key), s)
  | .listRuns tenantId limit _ => (.runs (s.listRuns tenantId limit), s)
  | .callIdsForRun key _ => (.callIds (s.callIdsForRun key), s)
  | .countActiveRuns tenantId _ => (.count (s.countActiveRuns tenantId), s)

/-- `RunControlRegistry | SQLiteRunControlRegistry`. -/
inductive RunRegistry
  | memory (registry : RunControlRegistry)
  | sqlite (registry : SQLiteRunControlRegistry)

/-- One call of either. -/
def RunRegistry.step (settings : RunSettings) : RunRegistry → RunCall → RunAnswer × RunRegistry
  | .memory s, call => ((s.step settings call).1, .memory (s.step settings call).2)
  | .sqlite s, call => ((s.step settings call).1, .sqlite (s.step settings call).2)

namespace RunRegistry

/-- `get_run`. -/
def getRun (key : RunKey) : RunRegistry → Option RunControlRecord
  | .memory s => s.getRun key
  | .sqlite s => s.getRun key

/-- `call_ids_for_run`. -/
def callIdsForRun (key : RunKey) : RunRegistry → List String
  | .memory s => s.callIdsForRun key
  | .sqlite s => s.callIdsForRun key

/-- `count_active_runs`. -/
def countActiveRuns (tenantId : String) : RunRegistry → Nat
  | .memory s => s.countActiveRuns tenantId
  | .sqlite s => s.countActiveRuns tenantId

/-- The registry after a call. -/
def after (settings : RunSettings) (call : RunCall) (s : RunRegistry) : RunRegistry :=
  (s.step settings call).2

end RunRegistry

end Core
end ExoBrain
