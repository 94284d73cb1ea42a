import ExoBrain.Lib.Run
import ExoBrain.Core.TaskGraph

/-!
# The task scheduler

`TaskScheduler.execute` (`scheduler.py`) runs the handlers of a task graph in waves.  A wave
consists of the nodes whose dependencies are all completed; each of its nodes becomes a task of the
event loop, which waits for a slot of the worker pool and then tries the handler until it succeeds
or the retries are used up.  When all tasks of the wave have returned, their outcomes are entered
one by one, a failure cancels everything that depends on it, and the next wave begins.

The model is the event loop.  `SchedulerState` is what `execute` has in its local variables, the
tasks of the current wave with the point each has reached, and a record of what was written to the
checkpoint store and which handlers were started.  A `SchedulerChoice` names the task that runs next,
up to its next `await`, or lets `execute` go on after `gather`; a run is any list of choices, so it
may interleave the tasks of a wave in any way.  What comes of each attempt of each handler is a
parameter, `handlers`.

Time only matters through the handlers that run out of it.  Events, metrics, spans and the delays
between retries leave no trace in the result and are not modelled.
-/

set_option autoImplicit false

namespace ExoBrain
namespace Core

variable {α : Type}

/-! ## Data -/

/-- `TaskStatus`. -/
inductive TaskStatus
  | pending
  | running
  | completed
  | failed
  | cancelled
deriving DecidableEq, Repr

/-- `TaskOutcome`. -/
structure TaskOutcome (α : Type) where
  nodeId : String
  status : TaskStatus
  output : Dict String α := Dict.empty
  reasonCode : String := ""
  errorMessage : String := ""
  attempts : Nat := 1

/-- `CheckpointStatus`. -/
inductive CheckpointStatus
  | pending
  | running
  | completed
  | failed
  | cancelled
deriving DecidableEq, Repr

/-- `_task_status_from_checkpoint`. -/
def CheckpointStatus.taskStatus : CheckpointStatus → TaskStatus
  | .pending => .pending
  | .running => .running
  | .completed => .completed
  | .failed => .failed
  | .cancelled => .cancelled

/-- `CheckpointRecord`. -/
structure CheckpointRecord (α : Type) where
  jobId : String
  nodeId : String
  status : CheckpointStatus
  tenantId : String := "default"
  attempt : Nat := 1
  reasonCode : String := ""
  payload : Dict String α := Dict.empty

/-- A value of the dictionary a handler is called with. -/
inductive PayloadField (α : Type)
  /-- A value of the initial payload. -/
  | given (value : α)
  /-- The outputs of the dependencies, under their ids. -/
  | dependencies (outputs : Dict String (Dict String α))
  /-- An id. -/
  | text (value : String)

/-- What comes of one attempt of a handler.  A `TimeoutError` is a timeout, also when it is the
handler that raises it; any other `Exception` is `raised`. -/
inductive HandlerResult (α : Type)
  | returned (output : Dict String α)
  | timedOut
  | raised (message : String)

/-- The start of a handler. -/
structure HandlerCall (α : Type) where
  nodeId : String
  attempt : Nat
  input : Dict String (PayloadField α)

/-- `max(1, node.retry_limit + 1)`. -/
def TaskNode.maxAttempts (node : TaskNode) : Nat := (max 1 (node.retryLimit + 1)).toNat

/-- What a call of `execute` depends on: its arguments, the size of the worker pool, and the result
of each attempt, counted from one, of each handler. -/
structure SchedulerJob (α : Type) where
  jobId : String
  graph : TaskGraph
  initialPayload : Dict String α
  maxConcurrency : Nat
  concurrency_pos : 0 < maxConcurrency
  handlers : (nodeId : String) → (attempt : Nat) → HandlerResult α

/-! ## The books of `execute` -/

/-- The local variables of `execute`: the outcomes so far, and the four sets of ids. -/
structure Ledger (α : Type) where
  outcomes : Dict String (TaskOutcome α)
  completed : Finset String
  running : Finset String
  failed : Finset String
  cancelled : Finset String

/-- The variables at the start. -/
def Ledger.empty : Ledger α := ⟨Dict.empty, ∅, ∅, ∅, ∅⟩

/-- The variables of `_mark_downstream_cancelled`. -/
structure Cancelling (α : Type) where
  pendingIds : List String
  cancelled : Finset String
  outcomes : Dict String (TaskOutcome α)
  changed : Bool

namespace TaskGraph

variable (graph : TaskGraph) (failedNodeId : String)

/-- One turn of the inner loop of `_mark_downstream_cancelled`. -/
def cancelNode (st : Cancelling α) (nodeId : String) : Cancelling α :=
  let dependsOn := dependencies graph.nodes nodeId
  if failedNodeId ∈ dependsOn ∨ ∃ dep ∈ dependsOn, dep ∈ st.cancelled then
    { pendingIds := st.pendingIds.erase nodeId
      cancelled := insert nodeId st.cancelled
      outcomes := st.outcomes.set nodeId
        { nodeId := nodeId, status := .cancelled, reasonCode := "UPSTREAM_FAILED" }
      changed := true }
  else st

/-- One turn of its outer loop.  A Python set has no order of its own; the ids are gone through in
the order of the graph. -/
def cancelPass (st : Cancelling α) : Cancelling α :=
  st.pendingIds.foldl (graph.cancelNode failedNodeId) { st with changed := false }

/-- The outer loop, for a number of turns. -/
def cancelLoop : (turns : Nat) → Cancelling α → Cancelling α
  | 0, st => st
  | turns + 1, st =>
    let st := graph.cancelPass failedNodeId st
    if st.changed then cancelLoop turns st else st

/-- The first `pending_ids`: the nodes without an outcome. -/
def pendingIds (l : Ledger α) : List String :=
  graph.nodeIds.filter fun n ↦ n ∉ l.outcomes.keys && n ∉ l.cancelled

/-- `_mark_downstream_cancelled`.  Every turn but the last takes an id out of `pending_ids`, so there
is one turn more than there are ids. -/
def markDownstreamCancelled (l : Ledger α) : Ledger α :=
  let st := graph.cancelLoop failedNodeId ((graph.pendingIds l).length + 1)
    ⟨graph.pendingIds l, l.cancelled, l.outcomes, true⟩
  { l with cancelled := st.cancelled, outcomes := st.outcomes }

/-- The loop body of `execute` over `wave_outcomes`. -/
def recordOutcome (l : Ledger α) (outcome : TaskOutcome α) : Ledger α :=
  let l := { l with
    running := l.running.erase outcome.nodeId
    outcomes := l.outcomes.set outcome.nodeId outcome }
  match outcome.status with
  | .completed => { l with completed := insert outcome.nodeId l.completed }
  | .failed =>
    graph.markDownstreamCancelled outcome.nodeId
      { l with failed := insert outcome.nodeId l.failed }
  | _ => l

end TaskGraph

/-- The loop body of `execute` over the checkpoints it resumes from. -/
def Ledger.loadCheckpoint (l : Ledger α) (checkpoint : CheckpointRecord α) : Ledger α :=
  let l := { l with
    outcomes := l.outcomes.set checkpoint.nodeId
      { nodeId := checkpoint.nodeId
        status := checkpoint.status.taskStatus
        output := checkpoint.payload
        reasonCode := checkpoint.reasonCode
        attempts := checkpoint.attempt } }
  match checkpoint.status with
  | .completed => { l with completed := insert checkpoint.nodeId l.completed }
  | .failed => { l with failed := insert checkpoint.nodeId l.failed }
  | _ => l

/-! ## One task of a wave -/

/-- How far `_run_node` has come. -/
inductive TaskPhase (α : Type)
  /-- It waits for a slot of the worker pool. -/
  | waiting
  /-- It has its input and is about to write the first checkpoint. -/
  | opened (input : Dict String (PayloadField α))
  /-- It has made so many attempts and is about to make another. -/
  | between (input : Dict String (PayloadField α)) (attempts : Nat)
  /-- It awaits the attempt of this number. -/
  | inHandler (input : Dict String (PayloadField α)) (attempt : Nat)
  /-- It has returned, and given its slot back. -/
  | returned (outcome : TaskOutcome α)

namespace TaskPhase

/-- What the task has returned. -/
def outcome? : TaskPhase α → Option (TaskOutcome α)
  | .returned outcome => some outcome
  | _ => none

/-- Does the task wait for a slot? -/
def isWaiting : TaskPhase α → Bool
  | .waiting => true
  | _ => false

/-- Does the task occupy a slot? -/
def holdsSlot : TaskPhase α → Bool
  | .waiting => false
  | .returned _ => false
  | _ => true

end TaskPhase

/-- A task of the current wave. -/
structure WaveTask (α : Type) where
  node : TaskNode
  phase : TaskPhase α

/-- What a step of a task does: the phase it reaches, what it writes to the checkpoint store, and
the handlers it starts. -/
structure TaskStep (α : Type) where
  phase : TaskPhase α
  saved : List (CheckpointRecord α) := []
  calls : List (HandlerCall α) := []

namespace SchedulerJob

variable (job : SchedulerJob α)

/-- The output of a node that is completed. -/
def completedOutput (outcomes : Dict String (TaskOutcome α)) (dep : String) :
    Option (Dict String α) :=
  match outcomes.get? dep with
  | some outcome => if outcome.status = .completed then some outcome.output else none
  | none => none

/-- The loop body of `_build_input_payload`. -/
def collectOutput (outcomes : Dict String (TaskOutcome α))
    (outputs : Dict String (Dict String α)) (dep : String) : Dict String (Dict String α) :=
  match completedOutput outcomes dep with
  | some output => outputs.set dep output
  | none => outputs

/-- `_build_input_payload`. -/
def buildInputPayload (node : TaskNode) (outcomes : Dict String (TaskOutcome α)) :
    Dict String (PayloadField α) :=
  let payload := job.initialPayload.mapVals fun _ value ↦ PayloadField.given value
  let outputs := node.dependsOn.foldl (collectOutput outcomes) Dict.empty
  let payload := payload.set "dependencies" (.dependencies outputs)
  let payload := payload.set "node_id" (.text node.nodeId)
  payload.set "job_id" (.text job.jobId)

/-- What `wait_for` makes of the attempt.  With a timeout that is not positive it does not let the
handler begin. -/
def attempt (node : TaskNode) (attempt : Nat) : HandlerResult α :=
  if 0 < node.timeoutMs then job.handlers node.nodeId attempt else .timedOut

/-- The end of an attempt that did not succeed. -/
def failAttempt (node : TaskNode) (input : Dict String (PayloadField α)) (attempts : Nat)
    (reason message : String) : TaskStep α :=
  if node.maxAttempts ≤ attempts then
    { phase := .returned
        { nodeId := node.nodeId
          status := .failed
          reasonCode := reason
          errorMessage := message
          attempts := attempts }
      saved :=
        [{ jobId := job.jobId
           nodeId := node.nodeId
           status := .failed
           attempt := attempts
           reasonCode := reason }] }
  else { phase := .between input attempts }

/-- `_run_node`, from one `await` to the next. -/
def runNode (node : TaskNode) (outcomes : Dict String (TaskOutcome α)) :
    TaskPhase α → Option (TaskStep α)
  | .waiting => some { phase := .opened (job.buildInputPayload node outcomes) }
  | .opened input =>
    some
      { phase := .between input 0
        saved := [{ jobId := job.jobId, nodeId := node.nodeId, status := .running }] }
  | .between input attempts =>
    some
      { phase := .inHandler input (attempts + 1)
        calls := if 0 < node.timeoutMs then [⟨node.nodeId, attempts + 1, input⟩] else [] }
  | .inHandler input attempts =>
    match job.attempt node attempts with
    | .returned output =>
      some
        { phase := .returned
            { nodeId := node.nodeId
              status := .completed
              output := output
              attempts := attempts }
          saved :=
            [{ jobId := job.jobId
               nodeId := node.nodeId
               status := .completed
               attempt := attempts
               payload := output }] }
    | .timedOut =>
      some (job.failAttempt node input attempts "TASK_TIMEOUT"
        ("Task '" ++ node.nodeId ++ "' timed out"))
    | .raised message =>
      some (job.failAttempt node input attempts "TASK_EXECUTION_ERROR" message)
  | .returned _ => none

end SchedulerJob

/-! ## The event loop -/

/-- A state of the event loop. -/
structure SchedulerState (α : Type) where
  ledger : Ledger α
  /-- The tasks of the current wave, under the ids of their nodes. -/
  wave : Dict String (WaveTask α)
  /-- What was written to the checkpoint store, oldest first. -/
  saved : List (CheckpointRecord α)
  /-- The handlers that were started, oldest first. -/
  calls : List (HandlerCall α)

/-- What the event loop does next. -/
inductive SchedulerChoice
  /-- It runs the task of the node. -/
  | task (nodeId : String)
  /-- It goes on with `execute`, which awaits `gather`. -/
  | gather
deriving DecidableEq, Repr

/-- The result of `execute` is there: no wave was ready. -/
def SchedulerState.Finished (s : SchedulerState α) : Prop := s.wave.entries = []

/-- The number of slots that are in use. -/
def SchedulerState.active (s : SchedulerState α) : Nat :=
  s.wave.entries.countP fun e ↦ e.2.phase.holdsSlot

/-- `wave_outcomes`. -/
def SchedulerState.waveOutcomes (s : SchedulerState α) : List (TaskOutcome α) :=
  s.wave.entries.filterMap fun e ↦ e.2.phase.outcome?

namespace SchedulerJob

variable (job : SchedulerJob α)

/-- The head of the loop of `execute`: the ready nodes become the tasks of the next wave. -/
def nextWave (s : SchedulerState α) : SchedulerState α :=
  let ready := (job.graph.readyNodes s.ledger.completed s.ledger.running s.ledger.failed).filter
    fun nodeId _ ↦ nodeId ∉ s.ledger.cancelled
  { s with
    ledger := { s.ledger with running := s.ledger.running ∪ ready.keys.toFinset }
    wave := ready.mapVals fun _ node ↦ ⟨node, .waiting⟩ }

/-- `execute`, up to its first `gather`.  With `resume` it begins with what the checkpoint store
lists for the job. -/
def start (resume : Bool) (listed : List (CheckpointRecord α)) : SchedulerState α :=
  job.nextWave
    { ledger := if resume then listed.foldl Ledger.loadCheckpoint .empty else .empty
      wave := Dict.empty
      saved := []
      calls := [] }

/-- A step of the task of a node, if there is one and it does not have to wait for a slot. -/
def taskStep (nodeId : String) (s : SchedulerState α) : Option (SchedulerState α) :=
  match s.wave.get? nodeId with
  | none => none
  | some task =>
    if task.phase.isWaiting && job.maxConcurrency ≤ s.active then none
    else
      (job.runNode task.node s.ledger.outcomes task.phase).map fun r ↦
        { s with
          wave := s.wave.modify nodeId fun task ↦ { task with phase := r.phase }
          saved := s.saved ++ r.saved
          calls := s.calls ++ r.calls }

/-- `execute`, from one `gather` to the next, once all tasks have returned. -/
def gather (s : SchedulerState α) : Option (SchedulerState α) :=
  if s.wave.entries ≠ [] ∧ ∀ e ∈ s.wave.entries, e.2.phase.outcome?.isSome then
    some (job.nextWave
      { s with ledger := s.waveOutcomes.foldl job.graph.recordOutcome s.ledger })
  else none

/-- The state after a choice, if the event loop has it. -/
def next? (s : SchedulerState α) : SchedulerChoice → Option (SchedulerState α)
  | .task nodeId => job.taskStep nodeId s
  | .gather => job.gather s

/-- The event loop as a machine; a choice that it does not have is answered with `false`. -/
def step (s : SchedulerState α) (c : SchedulerChoice) : Bool × SchedulerState α :=
  match job.next? s c with
  | some s' => (true, s')
  | none => (false, s)

end SchedulerJob
end Core
end ExoBrain
