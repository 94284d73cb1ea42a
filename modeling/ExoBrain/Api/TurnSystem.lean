import ExoBrain.Lib.Run
import ExoBrain.Api.Turns

/-!
# All turns of a process

The turns of a process share one run registry.  `TurnSystem` is the registry, the turns that were
ever admitted, and the WebSocket connections, with what the handler of a connection knows: which
task runs under which run id, and which tool calls were seen under it.

A step of the system is a handler that is resumed, or something that comes from outside: a turn is
submitted, a client sends a cancel message or goes away, an administrator cancels a run.  Between
the check of the limit and `start_run` there is no await, so a submission is one step.  A cancel
message is handled in several: the task is cancelled and waited for, the progress events are sent,
and then the run is marked.

* `submit` is the end of the three submissions, from the check of the limit on.
* `cancelMessage`, `proceed`, `progressSent` and `disconnect` are the handler of a connection.
* `cancelRuntimeRun` is the route of the administrator (`runtime_control.py`).
-/

set_option autoImplicit false

namespace ExoBrain
namespace Api

open Core
open ExoBrain.Runtime (Transport)

/-! ## Connections -/

/-- The await the handler of a connection stands at. -/
inductive ConnectionPhase
  /-- `websocket.receive_text()`. -/
  | receiving
  /-- `await task`, after a cancel message. -/
  | joining (runId : String) (task : Nat) (progress : List CancelledProgress)
  /-- A progress event of a cancel message is being sent, and these are to follow. -/
  | sending (runId : String) (rest : List CancelledProgress)
  | closed
deriving DecidableEq, Repr

/-- A WebSocket connection. -/
structure Connection where
  tenantId : String
  activeTasks : Dict String Nat := Dict.empty
  activeRunToolCalls : Dict String ToolCalls := Dict.empty
  phase : ConnectionPhase := .receiving

/-- The calls seen under a run id. -/
def Connection.callsOf (runId : String) (c : Connection) : ToolCalls :=
  (c.activeRunToolCalls.get? runId).getD Dict.empty

/-- `active_tasks.pop(run_id, None)` and `active_run_tool_calls.pop(run_id, None)`. -/
def Connection.pop (runId : String) (c : Connection) : Connection :=
  { c with
    activeTasks := c.activeTasks.erase runId
    activeRunToolCalls := c.activeRunToolCalls.erase runId }

/-! ## The system -/

/-- The turns of a process. -/
structure TurnSystem where
  registry : RunRegistry
  turns : List Turn := []
  connections : List Connection := []

/-- The limits and settings the routes read. -/
structure TurnLimits where
  run : RunSettings := {}
  maxActiveRunsPerTenant : Int := 50

/-- What happens. -/
inductive TurnInput
  /-- A client connects. -/
  | connect (tenantId : String)
  /-- A turn passed the checks before the limit; `connection` is for a WebSocket. -/
  | submit (transport : Transport) (connection : Nat) (start : RunStart) (now : Stamp)
  /-- A handler is resumed. -/
  | resume (turn : Nat) (outcome : Resume) (accepts : String → Bool) (clock : Nat → Stamp)
  /-- A client sends a cancel message. -/
  | cancelMessage (connection : Nat) (runId : String) (clock : Nat → Stamp)
  /-- The cancelled task is done. -/
  | joined (connection : Nat) (clock : Nat → Stamp)
  /-- A progress event of a cancel message was sent. -/
  | progressSent (connection : Nat) (clock : Nat → Stamp)
  /-- The handler of a connection ends: the client is gone, or an exception got so far. -/
  | disconnect (connection : Nat) (clock : Nat → Stamp)
  /-- An administrator cancels a run. -/
  | cancelRuntimeRun (key : RunKey) (accepts : String → Bool) (clock : Nat → Stamp)

/-- What the system answers. -/
inductive TurnAnswer
  | none
  | admitted
  | refused
  | sent (events : List ClientEvent)
  | accepted (accepted : Bool) (forwarded : Nat)
deriving DecidableEq, Repr

namespace TurnSystem

variable (limits : TurnLimits)

/-- Change a connection. -/
def modifyConnection (c : Nat) (f : Connection → Connection) (s : TurnSystem) : TurnSystem :=
  { s with connections := s.connections.modify c f }

/-- The tenant has as many active runs as it may. -/
def overLimit (tenantId : String) (s : TurnSystem) : Bool :=
  let maxActiveRuns := max limits.maxActiveRunsPerTenant 0
  0 < maxActiveRuns && maxActiveRuns ≤ (s.registry.countActiveRuns tenantId : Int)

/-- The turn of a submission.  The generator behind the OpenAI-compatible routes is running already
when it checks the limit. -/
def newTurn (transport : Transport) (c : Nat) (start : RunStart) : Turn where
  transport := transport
  key := (start.tenantId, start.runId)
  correlationId := start.correlationId
  connection := c
  phase := if transport = .openaiCompat then .awaitingEvent else .created

/-- A turn is submitted: the check of the limit, `start_run`, and the handler. -/
def submit (transport : Transport) (c : Nat) (start : RunStart) (now : Stamp) (s : TurnSystem) :
    TurnAnswer × TurnSystem :=
  if s.overLimit limits start.tenantId = true then (.refused, s)
  else
    let s : TurnSystem :=
      { s with
        registry := s.registry.after limits.run (.startRun start now)
        turns := s.turns ++ [newTurn transport c start] }
    (.admitted,
      if transport = .websocket then
        s.modifyConnection c fun connection ↦
          { connection with
            activeTasks := connection.activeTasks.set start.runId (s.turns.length - 1) }
      else s)

/-- The calls a handler sees: its own, or those of the run id on its connection. -/
def callsSeenBy (turn : Turn) (s : TurnSystem) : ToolCalls :=
  match turn.transport with
  | .websocket =>
    match s.connections[turn.connection]? with
    | some c => c.callsOf turn.key.2
    | .none => Dict.empty
  | _ => turn.calls

/-- What a handler leaves behind: the `finally` block of a task, if its body was entered, and
`active_run_tool_calls.setdefault(run_id, {})`. -/
def saveCalls (before after : Turn) (s : TurnSystem) : TurnSystem :=
  if after.transport = .websocket then
    s.modifyConnection after.connection fun c ↦
      if before.phase = .created then c
      else if after.phase = .done then c.pop after.key.2
      else if after.calls.keys = [] then c
      else { c with activeRunToolCalls := c.activeRunToolCalls.set after.key.2 after.calls }
  else s

/-- A handler is resumed.  One that was cancelled is resumed with the `CancelledError`. -/
def resume (i : Nat) (outcome : Resume) (accepts : String → Bool) (clock : Nat → Stamp)
    (s : TurnSystem) : TurnAnswer × TurnSystem :=
  match s.turns[i]? with
  | .none => (.none, s)
  | some turn =>
    if turn.phase = .done ∨ turn.cancelPending = true ∧ outcome ≠ .cancelled then (.none, s)
    else
      let r := (handlerOf turn.transport).resume limits.run accepts clock
        ⟨s.registry, { turn with calls := s.callsSeenBy turn }⟩ outcome
      (.sent r.1,
        saveCalls turn r.2.turn
          { s with registry := r.2.registry, turns := s.turns.set i r.2.turn })

/-- `task.cancel()`. -/
def cancelTask (i : Nat) (s : TurnSystem) : TurnSystem :=
  { s with turns := s.turns.modify i fun turn ↦ { turn with cancelPending := true } }

/-- The task is there and not done. -/
def inFlight (i : Nat) (s : TurnSystem) : Bool :=
  match s.turns[i]? with
  | some turn => turn.phase ≠ .done
  | .none => false

/-- `_mark_cancelled_if_running`. -/
def markIfRunning (key : RunKey) (terminalEvent : String) (now : Stamp) (s : TurnSystem) :
    TurnSystem :=
  { s with registry := markCancelledIfRunning limits.run key terminalEvent now s.registry }

/-- A cancel message sends the next progress event, or marks the run and is answered. -/
def sendNext (c : Nat) (key : RunKey) (progress : List CancelledProgress) (now : Stamp)
    (s : TurnSystem) : TurnAnswer × TurnSystem :=
  match progress with
  | [] =>
    (.sent [.runCancelled key.2],
      (s.markIfRunning limits key "websocket_cancel_message" now).modifyConnection c
        fun connection ↦ { connection with phase := .receiving })
  | p :: rest =>
    (.sent [.progress p],
      s.modifyConnection c fun connection ↦ { connection with phase := .sending key.2 rest })

/-- What follows `await task`. -/
def proceed (c : Nat) (key : RunKey) (progress : List CancelledProgress) (now : Stamp)
    (s : TurnSystem) : TurnAnswer × TurnSystem :=
  (s.modifyConnection c (Connection.pop key.2)).sendNext limits c key progress now

/-- A cancel message, up to the first await. -/
def cancelMessage (c : Nat) (connection : Connection) (runId : String) (clock : Nat → Stamp)
    (s : TurnSystem) : TurnAnswer × TurnSystem :=
  let key := (connection.tenantId, runId)
  let s : TurnSystem :=
    { s with
      registry := s.registry.after limits.run
        (.requestCancel key "websocket_cancel_message" (clock 0)) }
  let progress := buildCancelledProgressEvents (connection.callsOf runId) runId
  match connection.activeTasks.get? runId with
  | .none => s.proceed limits c key progress (clock 1)
  | some i =>
    if s.inFlight i = true then
      (.none,
        (s.cancelTask i).modifyConnection c fun connection ↦
          { connection with phase := .joining runId i progress })
    else s.proceed limits c key progress (clock 1)

/-- The `finally` block of a connection for one of the tasks. -/
def shutDown (c : Nat) (key : RunKey) (i : Nat) (clock : Nat → Stamp) (s : TurnSystem) :
    TurnSystem :=
  if s.inFlight i = true then
    let s := s.cancelTask i
    let s : TurnSystem :=
      { s with
        registry := s.registry.after limits.run
          (.requestCancel key "websocket_disconnect" (clock 0)) }
    let s := s.modifyConnection c fun connection ↦
      { connection with activeRunToolCalls := connection.activeRunToolCalls.erase key.2 }
    s.markIfRunning limits key "websocket_disconnect" (clock 1)
  else s

/-- The `finally` block of a connection. -/
def shutDownAll (c : Nat) (tenantId : String) :
    List (String × Nat) → (Nat → Stamp) → TurnSystem → TurnSystem
  | [], _, s => s
  | (runId, i) :: tasks, clock, s =>
    shutDownAll c tenantId tasks (fun n ↦ clock (n + 2))
      (s.shutDown limits c (tenantId, runId) i clock)

/-- `cancel_runtime_run`. -/
def cancelRuntimeRun (key : RunKey) (accepts : String → Bool) (clock : Nat → Stamp)
    (s : TurnSystem) : TurnAnswer × TurnSystem :=
  let accepted := (s.registry.getRun key).isSome
  let registry := s.registry.after limits.run
    (.requestCancel key "admin_runtime_cancel_endpoint" (clock 0))
  let forwarded := (registry.callIdsForRun key).countP accepts
  let registry :=
    if accepted && 0 < forwarded then
      registry.after limits.run
        (.markTerminal key "cancelled" "admin_cancel_forwarded" "" (clock 1))
    else registry
  (.accepted accepted forwarded, { s with registry := registry })

/-- The handler of the connection is ready for the message, or stands at the await. -/
def onConnection (c : Nat) (s : TurnSystem)
    (f : Connection → TurnAnswer × TurnSystem) : TurnAnswer × TurnSystem :=
  match s.connections[c]? with
  | .none => (.none, s)
  | some connection => f connection

/-- One step. -/
def step (s : TurnSystem) : TurnInput → TurnAnswer × TurnSystem
  | .connect tenantId =>
    (.none, { s with connections := s.connections ++ [{ tenantId := tenantId }] })
  | .submit .websocket c start now =>
    s.onConnection c fun connection ↦
      if connection.phase = .receiving ∧ connection.tenantId = start.tenantId then
        s.submit limits .websocket c start now
      else (.none, s)
  | .submit transport c start now => s.submit limits transport c start now
  | .resume i outcome accepts clock => s.resume limits i outcome accepts clock
  | .cancelMessage c runId clock =>
    s.onConnection c fun connection ↦
      if connection.phase = .receiving then s.cancelMessage limits c connection runId clock
      else (.none, s)
  | .joined c clock =>
    s.onConnection c fun connection ↦
      match connection.phase with
      | .joining runId i progress =>
        if s.inFlight i = true then (.none, s)
        else s.proceed limits c (connection.tenantId, runId) progress (clock 0)
      | _ => (.none, s)
  | .progressSent c clock =>
    s.onConnection c fun connection ↦
      match connection.phase with
      | .sending runId rest => s.sendNext limits c (connection.tenantId, runId) rest (clock 0)
      | _ => (.none, s)
  | .disconnect c clock =>
    s.onConnection c fun connection ↦
      if connection.phase = .closed then (.none, s)
      else
        (.none,
          (s.shutDownAll limits c connection.tenantId connection.activeTasks.entries
            clock).modifyConnection c fun connection ↦ { connection with phase := .closed })
  | .cancelRuntimeRun key accepts clock => s.cancelRuntimeRun limits key accepts clock

end TurnSystem
end Api
end ExoBrain
