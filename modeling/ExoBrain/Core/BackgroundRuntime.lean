import ExoBrain.Core.Scheduler

/-!
# Background jobs

`BackgroundRuntime` (`background_runtime.py`) runs task graphs as tasks of the event loop.  A job is
a record that `submit` files under an id; the coroutine `_run_job` writes the status of the record
it was created with, also when another record has been filed under the id since.  So the records
and the tasks are objects of their own here, named by their position in the order in which they were
created, and `_jobs` and `_job_tasks` map an id to such a name.

The event loop runs one task at a time, from one `await` to the next.  What `execute` of the
scheduler does meanwhile is an input of the step: it may be suspended again, return a result, raise
an exception, or let a cancellation through, at any time and whether or not one was requested.  A
task that is cancelled before its first step ends without entering its coroutine.

What the scaler answers is an input of `submit`; all that matters here is whether it asks for
backpressure.  Log, timeline, metrics and spans leave no trace in what is modelled and do not fail.
-/

set_option autoImplicit false

namespace ExoBrain
namespace Core

variable {α : Type}

/-! ## The quota of a tenant -/

/-- `QuotaDecision`. -/
structure QuotaDecision where
  allowed : Bool
  reasonCode : String := ""
  message : String := ""
deriving DecidableEq, Repr

/-- `TenantQuotaManager`. -/
structure TenantQuotaManager where
  maxActiveJobsPerTenant : Int := 0
  hardEnforcement : Bool := true
deriving DecidableEq, Repr

/-- `check_submission`. -/
def TenantQuotaManager.checkSubmission (quota : TenantQuotaManager) (tenantId : String)
    (activeJobs : Nat) : QuotaDecision :=
  if quota.maxActiveJobsPerTenant ≤ 0 then { allowed := true }
  else if (activeJobs : Int) < quota.maxActiveJobsPerTenant then { allowed := true }
  else if !quota.hardEnforcement then
    { allowed := true
      reasonCode := "TENANT_QUOTA_SOFT_LIMIT"
      message := "Tenant '" ++ tenantId ++ "' exceeded soft quota limit." }
  else
    { allowed := false
      reasonCode := "TENANT_QUOTA_EXCEEDED"
      message := "Tenant '" ++ tenantId ++ "' exceeded max active jobs quota." }

/-- A positive limit that is enforced lets through what is below it. -/
theorem TenantQuotaManager.allowed_iff {quota : TenantQuotaManager}
    (hpos : 0 < quota.maxActiveJobsPerTenant) (hhard : quota.hardEnforcement = true)
    (tenantId : String) (activeJobs : Nat) :
    (quota.checkSubmission tenantId activeJobs).allowed = true ↔
      (activeJobs : Int) < quota.maxActiveJobsPerTenant := by
  rw [checkSubmission, if_neg (by omega)]
  split <;> simp_all

/-! ## Jobs -/

/-- `JobStatus`. -/
inductive JobStatus
  | pending
  | running
  | completed
  | failed
  | cancelled
deriving DecidableEq, Repr

/-- The value of the enumeration. -/
def JobStatus.value : JobStatus → String
  | .pending => "pending"
  | .running => "running"
  | .completed => "completed"
  | .failed => "failed"
  | .cancelled => "cancelled"

/-- `active_statuses` of `_count_active_jobs`. -/
def JobStatus.isActive : JobStatus → Bool
  | .pending | .running => true
  | _ => false

/-- The statuses `cancel_job` leaves alone. -/
def JobStatus.isFinal : JobStatus → Bool
  | .completed | .failed | .cancelled => true
  | _ => false

/-- The statuses `resume_job` accepts. -/
def JobStatus.isResumable : JobStatus → Bool
  | .failed | .cancelled => true
  | _ => false

theorem JobStatus.isFinal_eq_not_isActive (status : JobStatus) :
    status.isFinal = !status.isActive := by
  cases status <;> rfl

/-- `SchedulerResult`. -/
structure SchedulerResult (α : Type) where
  jobId : String
  outcomes : Dict String (TaskOutcome α)

/-- `failed`. -/
def SchedulerResult.failed (result : SchedulerResult α) : Bool :=
  result.outcomes.entries.any fun e ↦ e.2.status = .failed

/-- `BackgroundJob`, with the fields of its metadata. -/
structure BackgroundJob (α : Type) where
  jobId : String
  status : JobStatus := .pending
  result : Option (SchedulerResult α) := none
  error : String := ""
  payload : Dict String α
  graph : TaskGraph
  tenantId : String

/-- What becomes of `execute` when the task that awaits it is run. -/
inductive ExecuteEvent (α : Type)
  /-- It awaits something else. -/
  | suspended
  | returned (result : SchedulerResult α)
  /-- It raises an `Exception`. -/
  | raised (message : String)
  /-- It raises `CancelledError`. -/
  | cancelled

/-- What `_run_job` writes to its record when `execute` has come to an end. -/
def BackgroundJob.settle (event : ExecuteEvent α) (job : BackgroundJob α) : BackgroundJob α :=
  match event with
  | .suspended => job
  | .returned result =>
    { job with
      result := some result
      status := if result.failed then .failed else .completed }
  | .cancelled => { job with status := .cancelled }
  | .raised message => { job with status := .failed, error := message }

@[simp] theorem BackgroundJob.jobId_settle (event : ExecuteEvent α) (job : BackgroundJob α) :
    (job.settle event).jobId = job.jobId := by
  cases event <;> rfl

@[simp] theorem BackgroundJob.tenantId_settle (event : ExecuteEvent α) (job : BackgroundJob α) :
    (job.settle event).tenantId = job.tenantId := by
  cases event <;> rfl

theorem BackgroundJob.isFinal_settle {event : ExecuteEvent α} (h : event ≠ .suspended)
    (job : BackgroundJob α) : (job.settle event).status.isFinal = true := by
  cases event with
  | suspended => exact absurd rfl h
  | returned result => simp only [settle]; split <;> rfl
  | raised message => rfl
  | cancelled => rfl

/-- How far a task of `_run_job` has come. -/
inductive RunPhase
  /-- It has not taken its first step.  The flag says whether it was cancelled meanwhile. -/
  | created (cancelRequested : Bool)
  /-- It awaits `execute`. -/
  | awaiting
  | done
deriving DecidableEq, Repr

/-- What `task.cancel()` does to it.  A task that has begun finds out from the next `await`; the
result of that is up to `execute`. -/
def RunPhase.cancel : RunPhase → RunPhase
  | .created _ => .created true
  | phase => phase

@[simp] theorem RunPhase.cancel_eq_done (phase : RunPhase) :
    phase.cancel = .done ↔ phase = .done := by
  cases phase <;> simp [cancel]

/-- A task of the event loop: `_run_job` of a record. -/
structure JobTask where
  record : Nat
  phase : RunPhase
deriving DecidableEq, Repr

/-! ## The runtime -/

/-- The state of `BackgroundRuntime` together with the tasks it has created. -/
structure BackgroundRuntime (α : Type) where
  /-- Every record there has been, in the order of their creation. -/
  records : List (BackgroundJob α)
  /-- Every task there has been, in the order of their creation. -/
  tasks : List JobTask
  /-- `_jobs`. -/
  jobs : Dict String Nat
  /-- `_job_tasks`. -/
  jobTasks : Dict String Nat

/-- What the methods raise, with the text. -/
inductive BackgroundError
  | keyError (message : String)
  | valueError (message : String)
  | runtimeError (message : String)
deriving DecidableEq, Repr

/-- `Job '{job_id}' was not found`. -/
def BackgroundError.notFound (jobId : String) : BackgroundError :=
  .keyError ("Job '" ++ jobId ++ "' was not found")

/-- What a runtime is given when it is created: the quota, and how Python turns a value of a payload
into a string. -/
structure BackgroundSettings (α : Type) where
  quota : TenantQuotaManager := {}
  str : α → String

namespace BackgroundRuntime

/-- The runtime without jobs. -/
def initial : BackgroundRuntime α := ⟨[], [], Dict.empty, Dict.empty⟩

/-- `self._jobs.get(job_id)`, the record with its name. -/
def job? (s : BackgroundRuntime α) (jobId : String) : Option (Nat × BackgroundJob α) :=
  (s.jobs.get? jobId).bind fun r ↦ (s.records[r]?).map fun job ↦ (r, job)

/-- `get_job`. -/
def getJob (s : BackgroundRuntime α) (jobId : String) :
    Except BackgroundError (BackgroundJob α) :=
  match s.job? jobId with
  | none => .error (.notFound jobId)
  | some (_, job) => .ok job

/-- The loop body of `_count_active_jobs`. -/
def countsAsActive (s : BackgroundRuntime α) (tenantId : String) (r : Nat) : Bool :=
  (s.records[r]?).any fun job ↦ job.tenantId = tenantId && job.status.isActive

/-- `_count_active_jobs`. -/
def countActiveJobs (s : BackgroundRuntime α) (tenantId : String) : Nat :=
  s.jobs.entries.countP fun e ↦ s.countsAsActive tenantId e.2

/-- `str(resolved_payload.get("tenant_id", "default"))`. -/
def tenantOf (settings : BackgroundSettings α) (payload : Dict String α) : String :=
  ((payload.get? "tenant_id").map settings.str).getD "default"

/-- `job_id or f"job_{uuid.uuid4().hex}"`. -/
def resolveJobId (jobId : Option String) (uuid : String) : String :=
  match jobId with
  | none => "job_" ++ uuid
  | some jobId => if jobId = "" then "job_" ++ uuid else jobId

/-- `asyncio.create_task(self._run_job(..))` for a record, filed under the id. -/
def startTask (jobId : String) (r : Nat) (s : BackgroundRuntime α) : BackgroundRuntime α :=
  { s with
    tasks := s.tasks ++ [⟨r, .created false⟩]
    jobTasks := s.jobTasks.set jobId s.tasks.length }

/-- The new record of `submit`, filed under the id. -/
def fileJob (job : BackgroundJob α) (s : BackgroundRuntime α) : BackgroundRuntime α :=
  { s with
    records := s.records ++ [job]
    jobs := s.jobs.set job.jobId s.records.length }

/-- The record `submit` creates. -/
def newJob (settings : BackgroundSettings α) (graph : TaskGraph) (payload : Dict String α)
    (jobId : String) : BackgroundJob α where
  jobId := jobId
  payload := payload
  graph := graph
  tenantId := tenantOf settings payload

/-- `submit`.  A payload that is `None` is an empty one. -/
def submit (settings : BackgroundSettings α) (graph : TaskGraph) (payload : Dict String α)
    (jobId : Option String) (uuid : String) (backpressure : Bool) (s : BackgroundRuntime α) :
    Except BackgroundError String × BackgroundRuntime α :=
  let resolvedJobId := resolveJobId jobId uuid
  let tenantId := tenantOf settings payload
  let quotaDecision := settings.quota.checkSubmission tenantId (s.countActiveJobs tenantId)
  if backpressure then
    (.error (.valueError ("BACKPRESSURE_THRESHOLD_EXCEEDED: Submission rejected because backlog " ++
      "and active load exceeded threshold")), s)
  else if !quotaDecision.allowed then
    (.error (.valueError (quotaDecision.reasonCode ++ ": " ++ quotaDecision.message)), s)
  else
    (.ok resolvedJobId,
      startTask resolvedJobId s.records.length
        (fileJob (newJob settings graph payload resolvedJobId) s))

/-- The task filed under the id, if it is not done. -/
def liveTask? (s : BackgroundRuntime α) (jobId : String) : Option Nat :=
  (s.jobTasks.get? jobId).filter fun k ↦ (s.tasks[k]?).any fun task ↦ task.phase ≠ .done

/-- `cancel_job`. -/
def cancelJob (jobId : String) (s : BackgroundRuntime α) :
    Except BackgroundError Bool × BackgroundRuntime α :=
  match s.job? jobId with
  | none => (.error (.notFound jobId), s)
  | some (_, job) =>
    if job.status.isFinal then (.ok false, s)
    else
      match s.liveTask? jobId with
      | none => (.ok false, s)
      | some k =>
        (.ok true,
          { s with tasks := s.tasks.modify k fun task ↦ { task with phase := task.phase.cancel } })

/-- `resume_job`. -/
def resumeJob (jobId : String) (s : BackgroundRuntime α) :
    Except BackgroundError String × BackgroundRuntime α :=
  match s.job? jobId with
  | none => (.error (.notFound jobId), s)
  | some (r, job) =>
    if !job.status.isResumable then
      (.error (.runtimeError ("Job '" ++ jobId ++ "' is in status '" ++ job.status.value ++
        "' and cannot be resumed")), s)
    else
      (.ok jobId,
        startTask jobId r
          { s with
            records := s.records.modify r fun job ↦
              { job with status := .pending, error := "", result := none } })

/-- The `finally` of `_run_job`. -/
def popTask (k r : Nat) (s : BackgroundRuntime α) : Dict String Nat :=
  match s.records[r]? with
  | none => s.jobTasks
  | some job =>
    if s.jobTasks.get? job.jobId = some k then s.jobTasks.erase job.jobId else s.jobTasks

/-- `_run_job` of a record, from the `await` on. -/
def afterAwait (k r : Nat) (event : ExecuteEvent α) (s : BackgroundRuntime α) :
    BackgroundRuntime α :=
  match event with
  | .suspended =>
    { s with tasks := s.tasks.modify k fun task ↦ { task with phase := .awaiting } }
  | event =>
    { s with
      records := s.records.modify r fun job ↦ job.settle event
      tasks := s.tasks.modify k fun task ↦ { task with phase := .done }
      jobTasks := s.popTask k r }

/-- The event loop runs a task: `_run_job`, from one `await` to the next.  There is no state for a
task that does not exist or is done. -/
def runTask (k : Nat) (event : ExecuteEvent α) (s : BackgroundRuntime α) :
    Option (BackgroundRuntime α) :=
  match s.tasks[k]? with
  | none => none
  | some task =>
    match task.phase with
    | .done => none
    -- the coroutine is closed before its first line, with the `try` not yet entered
    | .created true =>
      some { s with tasks := s.tasks.modify k fun task ↦ { task with phase := .done } }
    | .created false =>
      some (afterAwait k task.record event
        { s with
          records := s.records.modify task.record fun job ↦ { job with status := .running } })
    | .awaiting => some (afterAwait k task.record event s)

end BackgroundRuntime

/-! ## The runtime as a machine -/

/-- A call of the runtime, or a step of the event loop. -/
inductive BackgroundCall (α : Type)
  | submit (graph : TaskGraph) (payload : Dict String α) (jobId : Option String) (uuid : String)
      (backpressure : Bool)
  | cancelJob (jobId : String)
  | resumeJob (jobId : String)
  | runTask (task : Nat) (event : ExecuteEvent α)

/-- What it answers. -/
inductive BackgroundAnswer
  | jobId (answer : Except BackgroundError String)
  | cancelled (answer : Except BackgroundError Bool)
  /-- Was there such a task to run? -/
  | ran (taken : Bool)

namespace BackgroundRuntime

/-- One call, or one step of the event loop. -/
def step (settings : BackgroundSettings α) (s : BackgroundRuntime α) :
    BackgroundCall α → BackgroundAnswer × BackgroundRuntime α
  | .submit graph payload jobId uuid backpressure =>
    let r := s.submit settings graph payload jobId uuid backpressure
    (.jobId r.1, r.2)
  | .cancelJob jobId =>
    let r := s.cancelJob jobId
    (.cancelled r.1, r.2)
  | .resumeJob jobId =>
    let r := s.resumeJob jobId
    (.jobId r.1, r.2)
  | .runTask k event =>
    match s.runTask k event with
    | none => (.ran false, s)
    | some s' => (.ran true, s')

end BackgroundRuntime
end Core
end ExoBrain
