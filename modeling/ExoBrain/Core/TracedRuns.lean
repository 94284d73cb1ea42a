import Mathlib.Logic.Relation
import ExoBrain.Core.BackgroundRuntime
import ExoBrain.Core.Tracing

/-!
# Jobs and their spans

Three coroutines work on a background job, and each opens a span when it begins: `_run_job` awaits
`execute`, and `execute` awaits the tasks that run `_run_node`.  Here they are taken to pieces at
each `await`, because each `await` may raise: what the checkpoint store raises, what the handler
raises, or `CancelledError` when the task is cancelled.  The calls of the logger and of the exporter
may raise too, between one `await` and the next.  Which exceptions are caught where decides which
spans are finished.

A `TracedRun` is one task of the event loop, with the tasks of the wave it awaits; a job that is
resumed is another run.  The handlers, the graph and the payload are those of `SchedulerJob`.  What
an `await` raises, and what the sinks raise in a step, are inputs of the step, and the steps may come
in any order: the slots of the worker pool only rule out some of the orders.

What the coroutines write to the record of the job and to the checkpoint store is left out here;
`BackgroundRuntime` and `SchedulerState` have it.  `stepNode_simulates` compares a task with the one
of `SchedulerState`, which it is as long as nothing raises.
-/

set_option autoImplicit false

namespace ExoBrain
namespace Core

open Raising

variable {α : Type}

/-! ## Logger and exporter -/

/-- The events that are given to the logger. -/
inductive LoggedEvent
  /-- `scheduler.node_started`. -/
  | nodeStarted
  /-- `scheduler.node_completed`. -/
  | nodeCompleted
  /-- `scheduler.node_retry`. -/
  | nodeRetry
  /-- `scheduler.node_failed`. -/
  | nodeFailed
  /-- `scheduler.job_started`. -/
  | executeStarted
  /-- `scheduler.job_completed`. -/
  | executeCompleted
  /-- `background.job_started`. -/
  | jobStarted
  /-- `background.job_finished`. -/
  | jobFinished
  /-- `background.job_cancelled`. -/
  | jobCancelled
  /-- `background.job_error`. -/
  | jobError
deriving DecidableEq, Repr

/-- The places where a span is finished, and given to the exporter. -/
inductive ExportedSpan
  /-- `_run_node`, when the node is completed. -/
  | nodeCompleted
  /-- `_run_node`, when the node has failed. -/
  | nodeFailed
  /-- `execute`, before it returns. -/
  | executeCompleted
  /-- `execute`, in its `except`. -/
  | executeError
  /-- `_run_job`, when `execute` has returned. -/
  | jobFinished
  /-- `_run_job`, in its `except asyncio.CancelledError`. -/
  | jobCancelled
  /-- `_run_job`, in its `except Exception`. -/
  | jobError
deriving DecidableEq, Repr

/-- What the logger and the exporter raise in one step of the event loop.  No step makes a call
twice. -/
structure Sinks where
  logged : LoggedEvent → Option TaskException := fun _ ↦ none
  exported : ExportedSpan → Option TaskException := fun _ ↦ none

/-- Have `BackgroundRuntime` and `TaskScheduler` been given the tracer? -/
structure TraceSettings where
  background : Bool
  scheduler : Bool

namespace Traced

/-- `_emit`. -/
def emit (sinks : Sinks) (event : LoggedEvent) : Traced Unit :=
  Comp.ofExcept (answer (sinks.logged event))

/-- `_start_span`. -/
def startSpan (traced : Bool) (owner : SpanOwner) (jobId name : String)
    (parentSpanId : Option Nat) (attributes : Dict String Value) : Traced (Option Nat) :=
  if traced then do
    let spanId ← RuntimeTracer.startSpan owner jobId name parentSpanId attributes
    return some spanId
  else return none

/-- `_finish_span`. -/
def finishSpan (spanId : Option Nat) (status : String) (attributes : Dict String Value)
    (error : String) (exported : Option TaskException) : Traced Unit :=
  match spanId with
  | none => return ()
  | some spanId => RuntimeTracer.finishSpan spanId status attributes error exported

end Traced

/-! ## One task of a wave -/

/-- Where a task of a wave is suspended, and what `_run_node` has in its variables there. -/
inductive NodePhase (α : Type)
  /-- It waits for a slot of the worker pool. -/
  | waiting
  /-- It saves the first checkpoint. -/
  | starting (span : Option Nat) (input : Dict String (PayloadField α))
  /-- It awaits the attempt of this number. -/
  | handling (span : Option Nat) (input : Dict String (PayloadField α)) (attempts : Nat)
  /-- It saves the output. -/
  | completing (span : Option Nat) (input : Dict String (PayloadField α)) (attempts : Nat)
      (output : Dict String α)
  /-- It saves that it has failed. -/
  | failing (span : Option Nat) (attempts : Nat) (reason message : String)
  /-- It sleeps until the next attempt. -/
  | sleeping (span : Option Nat) (input : Dict String (PayloadField α)) (attempts : Nat)
  | returned (outcome : TaskOutcome α)
  | raised (exc : TaskRaised)

namespace NodePhase

/-- `node_span_id`, while there is a coroutine that has it. -/
def span? : NodePhase α → Option Nat
  | .starting span _ => span
  | .handling span _ _ => span
  | .completing span _ _ _ => span
  | .failing span _ _ _ => span
  | .sleeping span _ _ => span
  | _ => none

/-- The coroutine has begun, and is not at its end. -/
def isOpen : NodePhase α → Bool
  | .waiting | .returned _ | .raised _ => false
  | _ => true

/-- Where a step of the coroutine leads. -/
def ofAnswer : Except TaskRaised (NodePhase α) → NodePhase α
  | .ok phase => phase
  | .error exc => .raised exc

/-- What the task has returned. -/
def outcome? : NodePhase α → Option (TaskOutcome α)
  | .returned outcome => some outcome
  | _ => none

/-- What the task has raised. -/
def raised? : NodePhase α → Option TaskRaised
  | .raised exc => some exc
  | _ => none

end NodePhase

/-- A task of the current wave. -/
structure NodeTask (α : Type) where
  node : TaskNode
  phase : NodePhase α

/-- The answer of an `await` that returns nothing. -/
def awaited (interrupted : Option TaskRaised) : Except TaskRaised Unit :=
  match interrupted with
  | none => .ok ()
  | some exc => .error exc

/-- The answer of `wait_for`. -/
def HandlerResult.awaited : HandlerResult α → Except TaskRaised (Dict String α)
  | .returned output => .ok output
  | .timedOut => .error (.exception (.timeoutError ""))
  | .raised message => .error (.exception (.other message))

namespace Traced

section RunNode

variable (settings : TraceSettings) (job : SchedulerJob α) (r : Nat) (sinks : Sinks) (node : TaskNode)

/-- `_run_node`, up to its first `await`. -/
def beginNode (outcomes : Dict String (TaskOutcome α)) : Traced (NodePhase α) := do
  let nodeSpanId ← startSpan settings.scheduler ⟨r, .node node.nodeId⟩ job.jobId "scheduler.run_node"
    none (Dict.empty.set "node_id" (.str node.nodeId))
  emit sinks .nodeStarted
  return .starting nodeSpanId (job.buildInputPayload node outcomes)

/-- What follows the `try` when the attempt did not succeed, up to the next `await`. -/
def failAttempt (span : Option Nat) (input : Dict String (PayloadField α)) (attempts : Nat)
    (reason message : String) : Traced (NodePhase α) :=
  if node.maxAttempts ≤ attempts then return .failing span attempts reason message
  else do
    emit sinks .nodeRetry
    return .sleeping span input attempts

/-- The `except` clauses, with what follows them. -/
def exceptAttempt (span : Option Nat) (input : Dict String (PayloadField α)) (attempts : Nat) :
    TaskRaised → Traced (NodePhase α)
  | .exception (.timeoutError _) =>
    failAttempt sinks node span input attempts "TASK_TIMEOUT" ("Task '" ++ node.nodeId ++ "' timed out")
  | .exception (.other message) =>
    failAttempt sinks node span input attempts "TASK_EXECUTION_ERROR" message
  | .cancelledError => Comp.raise .cancelledError

/-- The attributes of a span of a node that is finished. -/
def nodeAttributes (attempts : Nat) : Dict String Value :=
  (Dict.empty.set "node_id" (.str node.nodeId)).set "attempts" (.int attempts)

/-- The `try`, after the handler. -/
def handled (interrupted : Option TaskRaised) (span : Option Nat)
    (input : Dict String (PayloadField α)) (attempts : Nat) : Traced (NodePhase α) := do
  Comp.ofExcept (awaited interrupted)
  let output ← Comp.ofExcept (job.attempt node attempts).awaited
  return .completing span input attempts output

/-- The `try`, after the checkpoint. -/
def completed (interrupted : Option TaskRaised) (span : Option Nat) (attempts : Nat)
    (output : Dict String α) : Traced (NodePhase α) := do
  Comp.ofExcept (awaited interrupted)
  emit sinks .nodeCompleted
  finishSpan span "ok" (nodeAttributes node attempts) "" (sinks.exported .nodeCompleted)
  return .returned
    { nodeId := node.nodeId
      status := .completed
      output := output
      attempts := attempts }

/-- `_run_node`, after it has saved that the node has failed. -/
def failed (interrupted : Option TaskRaised) (span : Option Nat) (attempts : Nat)
    (reason message : String) : Traced (NodePhase α) := do
  Comp.ofExcept (awaited interrupted)
  emit sinks .nodeFailed
  finishSpan span "error" ((nodeAttributes node attempts).set "reason_code" (.str reason)) message
    (sinks.exported .nodeFailed)
  return .returned
    { nodeId := node.nodeId
      status := .failed
      reasonCode := reason
      errorMessage := message
      attempts := attempts }

/-- `_run_node`, from one `await` to the next. -/
def runNode (outcomes : Dict String (TaskOutcome α)) (interrupted : Option TaskRaised) :
    NodePhase α → Traced (NodePhase α)
  | .waiting =>
    match interrupted with
    | none => beginNode settings job r sinks node outcomes
    | some .cancelledError => Comp.raise .cancelledError
    -- a semaphore raises no other exception
    | some (.exception _) => return .waiting
  | .starting span input => do
    Comp.ofExcept (awaited interrupted)
    return .handling span input 1
  | .handling span input attempts =>
    Comp.rescue (handled job node interrupted span input attempts)
      (exceptAttempt sinks node span input attempts)
  | .completing span input attempts output =>
    Comp.rescue (completed sinks node interrupted span attempts output)
      (exceptAttempt sinks node span input attempts)
  | .failing span attempts reason message =>
    failed sinks node interrupted span attempts reason message
  | .sleeping span input attempts => do
    Comp.ofExcept (awaited interrupted)
    return .handling span input (attempts + 1)
  | phase => return phase

/-- A step of the task of a node. -/
def stepNode (outcomes : Dict String (TaskOutcome α)) (interrupted : Option TaskRaised)
    (phase : NodePhase α) (t : RuntimeTracer) : NodePhase α × RuntimeTracer :=
  let result := runNode settings job r sinks node outcomes interrupted phase t
  (.ofAnswer result.1, result.2)

end RunNode

end Traced

/-! ## `execute` and `_run_job` -/

/-- What a coroutine has come to.  Where it awaits something, there is the `execute_span_id`. -/
inductive Progress (α β : Type)
  /-- `execute` awaits the checkpoints of the job. -/
  | listing (executeSpan : Option Nat)
  /-- `execute` awaits the tasks of a wave. -/
  | gathering (executeSpan : Option Nat) (ledger : Ledger α) (wave : Dict String (NodeTask α))
  | returned (value : β)

namespace Traced

section RunJob

variable (settings : TraceSettings) (job : SchedulerJob α) (r : Nat) (sinks : Sinks)

/-- The head of the loop of `execute`: its variables, and the tasks of the next wave. -/
def nextWave (ledger : Ledger α) : SchedulerState α :=
  job.nextWave { ledger := ledger, wave := Dict.empty, saved := [], calls := [] }

/-- The attributes of a span of a run that has a result. -/
def resultAttributes (result : SchedulerResult α) : Dict String Value :=
  (Dict.empty.set "outcomes" (.int result.outcomes.keys.length)).set "failed" (.bool result.failed)

/-- The status of such a span. -/
def resultStatus (result : SchedulerResult α) : String := if result.failed then "error" else "ok"

/-- The `try` of `execute`, from an `await` that has updated the variables or has raised. -/
def executeTry (executeSpan : Option Nat) (x : Except TaskRaised (Ledger α)) :
    Traced (Progress α (SchedulerResult α)) := do
  let ledger ← Comp.ofExcept x
  let s := nextWave job ledger
  if s.wave.entries ≠ [] then
    return .gathering executeSpan s.ledger (s.wave.mapVals fun _ task ↦ ⟨task.node, .waiting⟩)
  else
    let result : SchedulerResult α := ⟨job.jobId, s.ledger.outcomes⟩
    emit sinks .executeCompleted
    finishSpan executeSpan (resultStatus result) (resultAttributes result) ""
      (sinks.exported .executeCompleted)
    return .returned result

/-- The `except Exception` of `execute`. -/
def executeExcept (executeSpan : Option Nat) :
    TaskRaised → Traced (Progress α (SchedulerResult α))
  | .exception exc => do
    finishSpan executeSpan "error" Dict.empty exc.message (sinks.exported .executeError)
    Comp.raise (.exception exc)
  | .cancelledError => Comp.raise .cancelledError

/-- `execute`, from one `await` to the next. -/
def execute (executeSpan : Option Nat) (x : Except TaskRaised (Ledger α)) :
    Traced (Progress α (SchedulerResult α)) :=
  Comp.rescue (executeTry job sinks executeSpan x) (executeExcept sinks executeSpan)

/-- `execute`, up to its first `await`. -/
def beginExecute (resume : Bool) (parentSpanId : Option Nat) :
    Traced (Progress α (SchedulerResult α)) := do
  let executeSpanId ← startSpan settings.scheduler ⟨r, .execute⟩ job.jobId "scheduler.execute"
    parentSpanId
    ((Dict.empty.set "resume" (.bool resume)).set "node_count" (.int job.graph.nodeIds.length))
  emit sinks .executeStarted
  if resume then return .listing executeSpanId
  else execute job sinks executeSpanId (.ok .empty)

/-- The `try` of `_run_job`, where `m` is what it awaits. -/
def runJobTry (jobSpan : Option Nat) (m : Traced (Progress α (SchedulerResult α))) :
    Traced (Progress α Unit) := do
  match ← m with
  | .listing executeSpan => return .listing executeSpan
  | .gathering executeSpan ledger wave => return .gathering executeSpan ledger wave
  | .returned result =>
    emit sinks .jobFinished
    finishSpan jobSpan (resultStatus result) (resultAttributes result) ""
      (sinks.exported .jobFinished)
    return .returned ()

/-- The `except` clauses of `_run_job`. -/
def runJobExcept (jobSpan : Option Nat) : TaskRaised → Traced (Progress α Unit)
  | .cancelledError => do
    emit sinks .jobCancelled
    finishSpan jobSpan "cancelled" Dict.empty "" (sinks.exported .jobCancelled)
    return .returned ()
  | .exception exc => do
    emit sinks .jobError
    finishSpan jobSpan "error" Dict.empty exc.message (sinks.exported .jobError)
    return .returned ()

/-- `_run_job`, from one `await` to the next. -/
def runJob (jobSpan : Option Nat) (m : Traced (Progress α (SchedulerResult α))) :
    Traced (Option Nat × Progress α Unit) := do
  let progress ← Comp.rescue (runJobTry sinks jobSpan m) (runJobExcept sinks jobSpan)
  return (jobSpan, progress)

/-- `_run_job`, up to its first `await`. -/
def beginJob (resume : Bool) : Traced (Option Nat × Progress α Unit) := do
  let jobSpanId ← startSpan settings.background ⟨r, .job⟩ job.jobId "background.run_job" none
    (Dict.empty.set "resume" (.bool resume))
  runJob sinks jobSpanId do
    emit sinks .jobStarted
    beginExecute settings job r sinks resume jobSpanId

end RunJob

end Traced

/-! ## Runs -/

/-- Where the task of `_run_job` is suspended, with the spans of `_run_job` and of `execute`. -/
inductive RunStage
  /-- It has not taken its first step. -/
  | created
  /-- It awaits the checkpoints of the job. -/
  | listing (jobSpan executeSpan : Option Nat)
  /-- It awaits `gather`. -/
  | gathering (jobSpan executeSpan : Option Nat)
  | done
deriving DecidableEq, Repr

/-- A task that runs `_run_job`, with the tasks of the wave it has created last. -/
structure TracedRun (α : Type) where
  job : SchedulerJob α
  resume : Bool
  stage : RunStage := .created
  ledger : Ledger α := .empty
  wave : Dict String (NodeTask α) := Dict.empty

/-- How `gather` ends. -/
inductive GatherEnd
  /-- All tasks have returned. -/
  | returned
  /-- It raises what the task of the node has raised, and does not wait for the others. -/
  | raised (nodeId : String)
  /-- It is done, and the task that awaits it was cancelled. -/
  | cancelled
deriving DecidableEq, Repr

/-- A step of one of the tasks of a run. -/
inductive RunInput (α : Type)
  /-- The task of `_run_job` is run for the first time, and may have been cancelled before. -/
  | begin (cancelled : Bool)
  /-- `list_checkpoints` has answered. -/
  | listed (answer : Except TaskRaised (List (CheckpointRecord α)))
  /-- The task of a node is run, and what it awaited may have raised. -/
  | node (nodeId : String) (interrupted : Option TaskRaised)
  /-- `execute` goes on after `gather`. -/
  | gathered (ending : GatherEnd)

namespace TracedRun

variable (run : TracedRun α)

/-- `wave_outcomes`. -/
def waveOutcomes : List (TaskOutcome α) :=
  run.wave.entries.filterMap fun e ↦ e.2.phase.outcome?

/-- All tasks of the wave have returned. -/
def AllReturned : Prop := ∀ e ∈ run.wave.entries, e.2.phase.outcome?.isSome

/-- One of them has raised. -/
def SomeRaised : Prop := ∃ e ∈ run.wave.entries, e.2.phase.raised?.isSome

instance : Decidable run.AllReturned := inferInstanceAs (Decidable (∀ e ∈ run.wave.entries, _))

instance : Decidable run.SomeRaised := inferInstanceAs (Decidable (∃ e ∈ run.wave.entries, _))

/-- What `execute` gets from `gather`, if it has ended in this way. -/
def gatherAnswer : GatherEnd → Option (Except TaskRaised (Ledger α))
  | .returned =>
    if run.AllReturned then some (.ok (run.waveOutcomes.foldl run.job.graph.recordOutcome run.ledger))
    else none
  | .raised nodeId => (run.wave.get? nodeId).bind fun task ↦ task.phase.raised?.map .error
  | .cancelled =>
    if run.AllReturned ∨ run.SomeRaised then some (.error .cancelledError) else none

/-- The run after a step of `_run_job`. -/
def enter (x : Except TaskRaised (Option Nat × Progress α Unit)) : TracedRun α :=
  match x with
  | .ok (jobSpan, .listing executeSpan) => { run with stage := .listing jobSpan executeSpan }
  | .ok (jobSpan, .gathering executeSpan ledger wave) =>
    { run with stage := .gathering jobSpan executeSpan, ledger := ledger, wave := wave }
  | .ok (_, .returned _) => { run with stage := .done }
  | .error _ => { run with stage := .done }

/-- `_run_job` goes on from an `await` of `execute`. -/
def goOn (sinks : Sinks) (jobSpan executeSpan : Option Nat) (x : Except TaskRaised (Ledger α))
    (t : RuntimeTracer) : TracedRun α × RuntimeTracer :=
  let result := Traced.runJob sinks jobSpan (Traced.execute run.job sinks executeSpan x) t
  (run.enter result.1, result.2)

/-- A step of the run.  An input that does not fit changes nothing. -/
def step (settings : TraceSettings) (r : Nat) (sinks : Sinks) (input : RunInput α)
    (t : RuntimeTracer) : TracedRun α × RuntimeTracer :=
  match input, run.stage with
  -- the coroutine is closed before its first line
  | .begin true, .created => ({ run with stage := .done }, t)
  | .begin false, .created =>
    let result := Traced.beginJob settings run.job r sinks run.resume t
    (run.enter result.1, result.2)
  | .listed answer, .listing jobSpan executeSpan =>
    run.goOn sinks jobSpan executeSpan
      (answer.map fun listed ↦ listed.foldl Ledger.loadCheckpoint .empty) t
  | .gathered ending, .gathering jobSpan executeSpan =>
    match run.gatherAnswer ending with
    | none => (run, t)
    | some x => run.goOn sinks jobSpan executeSpan x t
  | .node nodeId interrupted, _ =>
    match run.wave.get? nodeId with
    | none => (run, t)
    | some task =>
      let result := Traced.stepNode settings run.job r sinks task.node run.ledger.outcomes interrupted
        task.phase t
      ({ run with wave := run.wave.modify nodeId fun task ↦ { task with phase := result.1 } },
        result.2)
  | _, _ => (run, t)

end TracedRun

/-! ## The runtime -/

/-- The tracer, and the runs there have been, in the order of their creation. -/
structure TracedRuntime (α : Type) where
  tracer : RuntimeTracer
  runs : List (TracedRun α)

/-- The creation of a run, or a step of one. -/
inductive TracedInput (α : Type)
  /-- `create_task(self._run_job(..))`. -/
  | create (job : SchedulerJob α) (resume : Bool)
  | run (r : Nat) (input : RunInput α) (sinks : Sinks)

namespace TracedRuntime

/-- Nothing was traced yet. -/
def initial (hasExporter fallbackToMemory : Bool) : TracedRuntime α :=
  ⟨.initial hasExporter fallbackToMemory, []⟩

/-- One step of the event loop. -/
def step (settings : TraceSettings) (s : TracedRuntime α) : TracedInput α → Unit × TracedRuntime α
  | .create job resume => ((), { s with runs := s.runs ++ [{ job := job, resume := resume }] })
  | .run r input sinks =>
    match s.runs[r]? with
    | none => ((), s)
    | some run =>
      let result := run.step settings r sinks input s.tracer
      ((), { tracer := result.2, runs := s.runs.set r result.1 })

/-- Every span that was started for the run has been finished, and none is active. -/
def SpansClosed (s : TracedRuntime α) (r : Nat) : Prop :=
  ∀ id span, s.tracer.spans[id]? = some span → span.owner.run = r →
    span.isFinished = true ∧ id ∉ s.tracer.activeById

end TracedRuntime

/-! ## Tasks that nothing interrupts -/

/-- Where the task is for the scheduler, which does not tell the checkpoint at the end from the
return. -/
def NodePhase.taskPhase? (node : TaskNode) : NodePhase α → Option (TaskPhase α)
  | .waiting => some .waiting
  | .starting _ input => some (.opened input)
  | .handling _ input attempts => some (.inHandler input attempts)
  | .completing _ _ attempts output =>
    some (.returned
      { nodeId := node.nodeId
        status := .completed
        output := output
        attempts := attempts })
  | .failing _ attempts reason message =>
    some (.returned
      { nodeId := node.nodeId
        status := .failed
        reasonCode := reason
        errorMessage := message
        attempts := attempts })
  | .sleeping _ input attempts => some (.between input attempts)
  | .returned outcome => some (.returned outcome)
  | .raised _ => none

namespace Traced

section Simulation

variable (settings : TraceSettings) (job : SchedulerJob α) (r : Nat) (node : TaskNode)
  (outcomes : Dict String (TaskOutcome α))

/-- A task takes a step. -/
def Goes (phase phase' : TaskPhase α) : Prop :=
  (job.runNode node outcomes phase).map TaskStep.phase = some phase'

variable {settings job r node outcomes}

theorem finishSpan_quiet (span : Option Nat) (status : String) (attributes : Dict String Value)
    (error : String) (t : RuntimeTracer) :
    ∃ t', finishSpan span status attributes error none t = (.ok (), t') := by
  cases span with
  | none => exact ⟨t, rfl⟩
  | some id =>
    rw [finishSpan, RuntimeTracer.finishSpan, ite_self]
    split
    · exact ⟨t, rfl⟩
    · exact ⟨_, rfl⟩

theorem goes_failAttempt {input : Dict String (PayloadField α)} {attempts : Nat}
    {reason message : String}
    (h : job.runNode node outcomes (.inHandler input attempts) =
      some (job.failAttempt node input attempts reason message)) (span : Option Nat)
    (t : RuntimeTracer) :
    ∃ phase,
      (NodePhase.ofAnswer (failAttempt {} node span input attempts reason message t).1).taskPhase?
          node = some phase ∧ Goes job node outcomes (.inHandler input attempts) phase := by
  have hgoes : Goes job node outcomes (.inHandler input attempts)
      (job.failAttempt node input attempts reason message).phase := by
    rw [Goes, h]
    rfl
  refine ⟨_, ?_, hgoes⟩
  rw [failAttempt, SchedulerJob.failAttempt]
  split
  · rfl
  · rfl

/-- **When nothing raises, a step is one, two or none of the scheduler's.** -/
theorem stepNode_simulates (phase : NodePhase α) (t : RuntimeTracer) {before : TaskPhase α}
    (h : phase.taskPhase? node = some before) :
    ∃ after, (stepNode settings job r {} node outcomes none phase t).1.taskPhase? node = some after ∧
      Relation.ReflTransGen (Goes job node outcomes) before after := by
  cases phase with
  | waiting =>
    cases h
    refine ⟨.opened (job.buildInputPayload node outcomes), ?_, .single rfl⟩
    rw [stepNode, runNode, beginNode, startSpan]
    split
    · rfl
    · rfl
  | starting span input =>
    cases h
    have hopened : Goes job node outcomes (.opened input) (.between input 0) := rfl
    exact ⟨_, rfl, .tail (.single hopened) rfl⟩
  | handling span input attempts =>
    cases h
    cases hattempt : job.attempt node attempts with
    | returned output =>
      have hgoes : Goes job node outcomes (.inHandler input attempts)
          (.returned
            { nodeId := node.nodeId
              status := .completed
              output := output
              attempts := attempts }) := by
        rw [Goes, SchedulerJob.runNode, hattempt]
        rfl
      refine ⟨_, ?_, .single hgoes⟩
      rw [stepNode, runNode, handled, hattempt]
      rfl
    | timedOut =>
      have hrun : job.runNode node outcomes (.inHandler input attempts) = some (job.failAttempt node
          input attempts "TASK_TIMEOUT" ("Task '" ++ node.nodeId ++ "' timed out")) := by
        rw [SchedulerJob.runNode, hattempt]
      obtain ⟨after, hafter, hgoes⟩ := goes_failAttempt hrun span t
      refine ⟨after, ?_, .single hgoes⟩
      rw [stepNode, runNode, handled, hattempt]
      exact hafter
    | raised message =>
      have hrun : job.runNode node outcomes (.inHandler input attempts) =
          some (job.failAttempt node input attempts "TASK_EXECUTION_ERROR" message) := by
        rw [SchedulerJob.runNode, hattempt]
      obtain ⟨after, hafter, hgoes⟩ := goes_failAttempt hrun span t
      refine ⟨after, ?_, .single hgoes⟩
      rw [stepNode, runNode, handled, hattempt]
      exact hafter
  | completing span input attempts output =>
    cases h
    obtain ⟨t', hfinish⟩ := finishSpan_quiet span "ok" (nodeAttributes node attempts) "" t
    have hrun : completed {} node none span attempts output t = (.ok _, t') := Comp.bind_of_ok hfinish
    refine ⟨_, ?_, .refl⟩
    rw [stepNode, runNode, Comp.rescue_of_ok hrun]
    rfl
  | failing span attempts reason message =>
    cases h
    obtain ⟨t', hfinish⟩ := finishSpan_quiet span "error"
      ((nodeAttributes node attempts).set "reason_code" (.str reason)) message t
    have hrun : failed (α := α) {} node none span attempts reason message t = (.ok _, t') :=
      Comp.bind_of_ok hfinish
    refine ⟨_, ?_, .refl⟩
    rw [stepNode, runNode, hrun]
    rfl
  | sleeping span input attempts =>
    cases h
    exact ⟨_, rfl, .single rfl⟩
  | returned outcome =>
    cases h
    exact ⟨_, rfl, .refl⟩
  | raised exc => cases h

end Simulation
end Traced
end Core
end ExoBrain
