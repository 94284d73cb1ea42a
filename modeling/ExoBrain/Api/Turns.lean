import ExoBrain.Core.RunControl
import ExoBrain.Runtime.SessionOwnership

/-!
# The handlers of a turn

A turn is streamed to the client by one of three handlers (`turns.py`): the generator of the SSE
route, the generator behind the OpenAI-compatible routes, and the task of a WebSocket connection.
Each takes the events of `_stream_turn` one by one, notes the tool calls in the run registry, polls
the registry for a cancellation, passes the event on, and has to end the record of the run.

Between two awaits a handler runs without interruption.  So a handler is a machine that is resumed:
`Turn` is what it knows, `TurnPhase` the await it stands at, `Resume` what the await ends with, and
`TurnHandler.resume` what it does until the next one.  The three handlers do the same up to four
places, and `TurnHandler` has a field for each: how they react to a cancellation, what follows the
progress events they send then, what they do when they are cancelled themselves, and the `finally`
block.

`EventSourceResponse` closes the generator at a `yield` when the client is gone, and the task of a
WebSocket learns it from a failed send; both are `sendFailed`.  The clock is read once by each call
of the registry; `clock n` is the reading of the `n`-th call of a step.  Whether the runtime has a
call to cancel is an input, `accepts`; without an execution adapter it never has.
-/

set_option autoImplicit false

namespace ExoBrain
namespace Api

open Core Text
open ExoBrain.Runtime (Transport)

/-! ## Events -/

/-- An event of `_stream_turn`: the fields a handler reads, and all others as JSON text. -/
structure TurnEvent where
  event : String
  callId : String := ""
  toolName : String := ""
  message : String := ""
  rest : String := "\x7b\x7d"
deriving DecidableEq, Repr

/-- `event in {"tool_call", "tool_progress"}`. -/
def TurnEvent.isToolEvent (e : TurnEvent) : Bool :=
  e.event = "tool_call" ∨ e.event = "tool_progress"

/-- The event that `_stream_turn` makes of an exception. -/
def turnExecutionError (message : String) : TurnEvent where
  event := "error"
  message := message
  rest := "\x7b\"code\": \"TURN_EXECUTION_ERROR\"\x7d"

/-- A progress event about a cancelled tool call. -/
structure CancelledProgress where
  callId : String
  toolName : String
  state : String := "cancelled"
  toolStatus : String := "cancelled"
  errorCode : String := "CANCEL_REQUESTED"
  jobId : String := ""
  leaseToken : String := ""
  leaseExpiresAtEpoch : String := ""
  claimAttempt : String := ""
  correlationId : String
deriving DecidableEq, Repr

/-- What is sent to the client. -/
inductive ClientEvent
  | event (e : TurnEvent)
  | progress (p : CancelledProgress)
  /-- What a cancel message is answered with in the end. -/
  | runCancelled (runId : String)
deriving DecidableEq, Repr

/-- The tool calls of a run and the names of their tools. -/
abbrev ToolCalls := Dict String String

/-- `_build_cancelled_progress_events`. -/
def buildCancelledProgressEvents (calls : ToolCalls) (correlationId : String) :
    List CancelledProgress :=
  (sortedTexts ((calls.keys.map strip).filter fun callId ↦ callId ≠ "")).map fun callId ↦
    { callId := callId
      toolName := (calls.get? callId).getD ""
      correlationId := correlationId }

/-- `_forward_runtime_cancellations`: the number of calls that were cancelled. -/
def forwardRuntimeCancellations (accepts : String → Bool) (callIds : List String)
    (terminalEventSeen : Bool) : Nat :=
  if terminalEventSeen then 0 else (sortedTexts callIds).countP accepts

/-! ## What a handler knows -/

/-- What ends a run: `run_complete` or `error`. -/
inductive TerminalEvent
  | runComplete
  | error
deriving DecidableEq, Repr

/-- The status it ends with. -/
def TerminalEvent.status : TerminalEvent → String
  | .runComplete => "completed"
  | .error => "errored"

/-- `terminal_event`. -/
def TerminalEvent.name : TerminalEvent → String
  | .runComplete => "run_complete"
  | .error => "error"

/-- The await a handler stands at. -/
inductive TurnPhase
  /-- Its body was not entered yet. -/
  | created
  | awaitingEvent
  /-- An event is being sent. -/
  | sending
  /-- A progress event is being sent, and these are to follow. -/
  | cancelling (rest : List CancelledProgress)
  | done
deriving DecidableEq, Repr

/-- One turn that is streamed.  `terminal` is set together with `terminal_event_seen`; `calls` are
the ids it has seen; a WebSocket task belongs to a connection, and may have been cancelled. -/
structure Turn where
  transport : Transport
  key : RunKey
  correlationId : String
  connection : Nat := 0
  phase : TurnPhase := .created
  calls : ToolCalls := Dict.empty
  terminal : Option TerminalEvent := none
  terminalMessage : String := ""
  cancelPending : Bool := false

/-- A handler at work. -/
structure TurnState where
  registry : RunRegistry
  turn : Turn

namespace TurnState

/-- Go on to another await. -/
def goto (phase : TurnPhase) (s : TurnState) : TurnState :=
  { s with turn := { s.turn with phase := phase } }

/-- Call the registry. -/
def write (settings : RunSettings) (call : RunCall) (s : TurnState) : TurnState :=
  { s with registry := s.registry.after settings call }

/-- `mark_terminal`. -/
def mark (settings : RunSettings) (status terminalEvent terminalMessage : String) (now : Stamp)
    (s : TurnState) : TurnState :=
  s.write settings (.markTerminal s.turn.key status terminalEvent terminalMessage now)

/-- `bool(run_record.get("cancel_requested", False))`. -/
def cancelRequested (s : TurnState) : Bool :=
  ((s.registry.getRun s.turn.key).map RunControlRecord.cancelRequested).getD false

/-- A tool call is noted. -/
def noteToolCall (settings : RunSettings) (e : TurnEvent) (now : Stamp) (s : TurnState) :
    TurnState :=
  if e.isToolEvent = true ∧ strip e.callId ≠ "" then
    let s : TurnState :=
      { s with turn := { s.turn with calls := s.turn.calls.set (strip e.callId) e.toolName } }
    s.write settings (.recordToolCall s.turn.key (strip e.callId) now)
  else s

/-- A terminal event is noted. -/
def noteTerminal (e : TurnEvent) (s : TurnState) : TurnState :=
  if e.event = "run_complete" then
    { s with turn := { s.turn with terminal := some .runComplete } }
  else if e.event = "error" then
    { s with turn := { s.turn with terminal := some .error, terminalMessage := e.message } }
  else s

/-- The run is marked with the terminal event that was seen. -/
def markSeen (settings : RunSettings) (terminal : TerminalEvent) (now : Stamp) (s : TurnState) :
    TurnState :=
  s.mark settings terminal.status terminal.name s.turn.terminalMessage now

end TurnState

/-- `_mark_cancelled_if_running`. -/
def markCancelledIfRunning (settings : RunSettings) (key : RunKey) (terminalEvent : String)
    (now : Stamp) (registry : RunRegistry) : RunRegistry :=
  match registry.getRun key with
  | none => registry
  | some r =>
    if isTerminalStatus r.status then registry
    else registry.after settings (.markTerminal key "cancelled" terminalEvent "" now)

/-! ## The three handlers -/

/-- Where the handlers differ. -/
structure TurnHandler where
  /-- The progress events are sent, and the turn is over. -/
  reactsToCancel : (cancelRequested : Bool) → (calls : ToolCalls) → Bool
  /-- What follows the progress events. -/
  afterProgress : RunSettings → Stamp → TurnState → TurnState
  /-- `except asyncio.CancelledError`. -/
  onCancelledError : RunSettings → Stamp → TurnState → TurnState
  /-- `finally`. -/
  finallyBlock : RunSettings → (accepts : String → Bool) → (clock : Nat → Stamp) → TurnState →
    TurnState

/-- The `finally` block of the two generators. -/
def generatorFinally (transport : String) (settings : RunSettings) (accepts : String → Bool)
    (clock : Nat → Stamp) (s : TurnState) : TurnState :=
  let forwarded := forwardRuntimeCancellations accepts s.turn.calls.keys s.turn.terminal.isSome
  let cancelRequested := s.cancelRequested
  let s :=
    if 0 < forwarded then
      s.write settings (.requestCancel s.turn.key
        (transport ++ "_stream_ended_before_terminal_event") (clock 0))
    else s
  match s.turn.terminal with
  | some terminal => s.markSeen settings terminal (clock 1)
  | none =>
    if cancelRequested then
      s.mark settings "cancelled" "cancel_requested_stream_closed" "" (clock 1)
    else if 0 < forwarded then s.mark settings "cancelled" "cancel_forwarded" "" (clock 1)
    else s.mark settings "interrupted" "stream_closed" "" (clock 1)

/-- `event_generator` of `submit_turn_sse`. -/
def eventGenerator : TurnHandler where
  reactsToCancel cancelRequested calls := cancelRequested && !calls.keys.isEmpty
  afterProgress _ _ s := s
  onCancelledError _ _ s := s
  finallyBlock := generatorFinally "sse"

/-- `iter_governed_turn_dicts_for_transport`, for the one transport it is used for. -/
def iterGovernedTurnDicts : TurnHandler where
  reactsToCancel _ _ := false
  afterProgress _ _ s := s
  onCancelledError _ _ s := s
  finallyBlock := generatorFinally "openai_compat"

/-- `run_turn_task` of `websocket_turn`. -/
def runTurnTask : TurnHandler where
  reactsToCancel cancelRequested _ := cancelRequested
  afterProgress settings now s :=
    { s with
      registry := markCancelledIfRunning settings s.turn.key "cancel_requested_in_flight" now
        s.registry }
  onCancelledError settings now s := s.mark settings "cancelled" "ws_task_cancelled" "" now
  finallyBlock settings _ clock s :=
    match s.turn.terminal with
    | some terminal => s.markSeen settings terminal (clock 0)
    | none => s

/-- The handler of a transport. -/
def handlerOf : Transport → TurnHandler
  | .sse => eventGenerator
  | .websocket => runTurnTask
  | .openaiCompat => iterGovernedTurnDicts

/-! ## Resuming a handler -/

/-- What an await ends with. -/
inductive Resume
  /-- The body is entered. -/
  | began
  /-- The stream yields an event. -/
  | event (e : TurnEvent)
  /-- The adapter raises. -/
  | raised (message : String)
  /-- The stream is exhausted. -/
  | ended
  | sent
  | sendFailed
  /-- `asyncio.CancelledError`. -/
  | cancelled
deriving DecidableEq, Repr

namespace TurnHandler

variable (H : TurnHandler) (settings : RunSettings) (accepts : String → Bool)
  (clock : Nat → Stamp)

/-- The `finally` block, and the handler is done. -/
def finish (s : TurnState) : TurnState :=
  (H.finallyBlock settings accepts (fun n ↦ clock (n + 2)) s).goto .done

/-- All progress events were sent. -/
def finishCancelled (s : TurnState) : TurnState :=
  H.finish settings accepts clock (H.afterProgress settings (clock 1) s)

/-- The next of the progress events is sent. -/
def sendProgress (progress : List CancelledProgress) (s : TurnState) :
    List ClientEvent × TurnState :=
  match progress with
  | [] => ([], H.finishCancelled settings accepts clock s)
  | p :: rest => ([.progress p], s.goto (.cancelling rest))

/-- The body of the loop. -/
def onEvent (e : TurnEvent) (s : TurnState) : List ClientEvent × TurnState :=
  let s := s.noteToolCall settings e (clock 0)
  if H.reactsToCancel s.cancelRequested s.turn.calls = true then
    H.sendProgress settings accepts clock
      (buildCancelledProgressEvents s.turn.calls s.turn.correlationId) s
  else ([.event e], (s.noteTerminal e).goto .sending)

/-- What a handler does until its next await.  An await does not end with what it is not for. -/
def resume (s : TurnState) (outcome : Resume) : List ClientEvent × TurnState :=
  match s.turn.phase, outcome with
  | .created, .began => ([], s.goto .awaitingEvent)
  -- A coroutine that is cancelled before its first step does not enter its body.
  | .created, .cancelled => ([], s.goto .done)
  | .awaitingEvent, .event e => H.onEvent settings accepts clock e s
  | .awaitingEvent, .raised message =>
    H.onEvent settings accepts clock (turnExecutionError message) s
  | .awaitingEvent, .ended => ([], H.finish settings accepts clock s)
  | .sending, .sent => ([], s.goto .awaitingEvent)
  | .sending, .sendFailed => ([], H.finish settings accepts clock s)
  | .cancelling rest, .sent => H.sendProgress settings accepts clock rest s
  | .cancelling _, .sendFailed => ([], H.finish settings accepts clock s)
  | .awaitingEvent, .cancelled | .sending, .cancelled | .cancelling _, .cancelled =>
    ([], H.finish settings accepts clock (H.onCancelledError settings (clock 1) s))
  | _, _ => ([], s)

end TurnHandler
end Api
end ExoBrain
