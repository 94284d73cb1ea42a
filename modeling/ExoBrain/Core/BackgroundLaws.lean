import Mathlib.Data.List.Nodup
import ExoBrain.Core.BackgroundRuntime

/-!
# Background jobs never get stuck, and the quota

Two facts about every sequence of calls of `BackgroundRuntime` and every schedule of the event loop.

A job is *idle* if none of its tasks is left to run.  The status of a record is written by its task
alone, from inside the coroutine, so a task that is closed before its first line leaves its record
pending for good: it counts as active, and can neither be cancelled nor resumed.
`backgroundJobs_settle_iff` says that nothing else can go wrong: in every state of a run all idle
jobs are settled exactly if the event loop never closes a task in this way.

The quota is checked by `submit` only, and against records.  A job that is resumed is not checked,
and a job whose id is used again loses its record while its task goes on.
`liveTasks_le_quota` is the bound on the tasks of a tenant for the runs in which a resumption finds
room and no id of a job with a task is used again.

Both rest on `RuntimeInv`, which ties the status of a record to the phase of its task, and on
`step_move`, which says what a step can do.
-/

set_option autoImplicit false

namespace ExoBrain
namespace Core

variable {α : Type}

/-- The status a record has while a task in this phase is left to run. -/
def RunPhase.status? : RunPhase → Option JobStatus
  | .created _ => some .pending
  | .awaiting => some .running
  | .done => none

@[simp] theorem RunPhase.status?_cancel (phase : RunPhase) :
    phase.cancel.status? = phase.status? := by
  cases phase <;> rfl

theorem RunPhase.exists_status {phase : RunPhase} (h : phase ≠ .done) :
    ∃ status, phase.status? = some status ∧ status.isActive = true := by
  cases phase with
  | created cancelRequested => exact ⟨.pending, rfl, rfl⟩
  | awaiting => exact ⟨.running, rfl, rfl⟩
  | done => exact absurd rfl h

namespace BackgroundRuntime

variable {settings : BackgroundSettings α} {s s' : BackgroundRuntime α}

/-! ## Idle jobs -/

/-- None of the tasks of the record is left to run. -/
def Idle (s : BackgroundRuntime α) (r : Nat) : Prop :=
  ∀ task ∈ s.tasks, task.record = r → task.phase = .done

instance (s : BackgroundRuntime α) (r : Nat) : Decidable (s.Idle r) :=
  inferInstanceAs (Decidable (∀ task ∈ s.tasks, task.record = r → task.phase = .done))

/-- No job is stuck: what is idle has come to an end, does not count as active, and can be resumed
if it has not been completed. -/
structure Settled (s : BackgroundRuntime α) : Prop where
  isFinal : ∀ r job, s.records[r]? = some job → s.Idle r → job.status.isFinal = true
  notActive : ∀ jobId r tenantId, s.jobs.get? jobId = some r → s.Idle r →
    s.countsAsActive tenantId r = false
  resumable : ∀ jobId r job, s.jobs.get? jobId = some r → s.records[r]? = some job → s.Idle r →
    job.status ≠ .completed → (s.resumeJob jobId).1 = .ok jobId

/-- The second and the third clause follow from the first. -/
theorem Settled.of_isFinal
    (h : ∀ r job, s.records[r]? = some job → s.Idle r → job.status.isFinal = true) :
    Settled s where
  isFinal := h
  notActive jobId r tenantId _ hidle := by
    rw [countsAsActive, Option.any_eq_false]
    intro job hjob
    have hfinal := h r job hjob hidle
    rw [JobStatus.isFinal_eq_not_isActive, Bool.not_eq_true'] at hfinal
    simp [hfinal]
  resumable jobId r job hfiled hjob hidle hcompleted := by
    have hfinal := h r job hjob hidle
    have hresumable : job.status.isResumable = true := by
      cases hstatus : job.status <;> simp_all [JobStatus.isFinal, JobStatus.isResumable]
    simp [resumeJob, job?, hfiled, hjob, hresumable]

/-! ## The invariant -/

/-- Every task has a record, whose status is the one of its phase; a record has one task at most
that is left to run; and a record is filed under its own id. -/
structure RuntimeInv (s : BackgroundRuntime α) : Prop where
  record : ∀ (k : Nat) (task : JobTask), s.tasks[k]? = some task →
    ∃ job, s.records[task.record]? = some job
  status : ∀ (k : Nat) (task : JobTask) (job : BackgroundJob α) (status : JobStatus),
    s.tasks[k]? = some task → s.records[task.record]? = some job →
      task.phase.status? = some status → job.status = status
  unique : ∀ (k k' : Nat) (task task' : JobTask), s.tasks[k]? = some task →
    s.tasks[k']? = some task' → task.phase ≠ .done → task'.phase ≠ .done →
      task.record = task'.record → k = k'
  filed : ∀ jobId r, s.jobs.get? jobId = some r →
    ∃ job, s.records[r]? = some job ∧ job.jobId = jobId

theorem RuntimeInv.initial : RuntimeInv (initial : BackgroundRuntime α) where
  record k task h := by simp [BackgroundRuntime.initial] at h
  status k task job status h := by simp [BackgroundRuntime.initial] at h
  unique k k' task task' h := by simp [BackgroundRuntime.initial] at h
  filed jobId r h := by simp [BackgroundRuntime.initial, Dict.empty, Dict.get?] at h

/-- A task that is left to run keeps its record from being idle. -/
theorem not_idle {k : Nat} {task : JobTask} (htask : s.tasks[k]? = some task)
    (hlive : task.phase ≠ .done) : ¬s.Idle task.record :=
  fun hidle ↦ hlive (hidle task (List.mem_of_getElem? htask) rfl)

/-- A record whose status is final has no task left to run. -/
theorem RuntimeInv.idle_of_isFinal (h : RuntimeInv s) {r : Nat} {job : BackgroundJob α}
    (hjob : s.records[r]? = some job) (hfinal : job.status.isFinal = true) : s.Idle r := by
  rintro task htask rfl
  by_contra hlive
  obtain ⟨k, hk⟩ := List.mem_iff_getElem?.mp htask
  obtain ⟨status, hphase, hactive⟩ := RunPhase.exists_status hlive
  rw [h.status k task job status hk hjob hphase, JobStatus.isFinal_eq_not_isActive, hactive]
    at hfinal
  exact Bool.false_ne_true hfinal

/-! ## What a step can do -/

/-- The task `k`, which was left to run, has moved to another phase, and its record has been
rewritten. -/
structure Advances (s : BackgroundRuntime α) (k : Nat) (task : JobTask) (phase : RunPhase)
    (job job' : BackgroundJob α) (s' : BackgroundRuntime α) : Prop where
  htask : s.tasks[k]? = some task
  hlive : task.phase ≠ .done
  hjob : s.records[task.record]? = some job
  hjobId : job'.jobId = job.jobId
  htenantId : job'.tenantId = job.tenantId
  hjobs : s'.jobs = s.jobs
  htasks : ∀ i : Nat, s'.tasks[i]? = if k = i then some ⟨task.record, phase⟩ else s.tasks[i]?
  hrecords : ∀ i : Nat, s'.records[i]? = if task.record = i then some job' else s.records[i]?

/-- The event loop does not come to the first step of a task that has been cancelled. -/
def BeginsUncancelled (s : BackgroundRuntime α) : BackgroundCall α → Prop
  | .runTask k _ => ∀ task ∈ s.tasks[k]?, task.phase ≠ .created true
  | _ => True

instance (s : BackgroundRuntime α) : (call : BackgroundCall α) →
    Decidable (BeginsUncancelled s call)
  | .runTask k _ => inferInstanceAs (Decidable (∀ task ∈ s.tasks[k]?, task.phase ≠ .created true))
  | .submit .. | .cancelJob _ | .resumeJob _ => isTrue trivial

/-- What a call, or a step of the event loop, does to the state. -/
inductive Move (settings : BackgroundSettings α) (s : BackgroundRuntime α) :
    BackgroundCall α → BackgroundRuntime α → Prop
  /-- Nothing. -/
  | refused {call : BackgroundCall α} (hbegins : BeginsUncancelled s call) : Move settings s call s
  | submitted {graph : TaskGraph} {payload : Dict String α} {jobId : Option String}
      {uuid : String} {backpressure : Bool}
      (haccepted : (s.submit settings graph payload jobId uuid backpressure).1 =
        .ok (resolveJobId jobId uuid))
      (hquota : (settings.quota.checkSubmission (tenantOf settings payload)
        (s.countActiveJobs (tenantOf settings payload))).allowed = true) :
      Move settings s (.submit graph payload jobId uuid backpressure)
        (startTask (resolveJobId jobId uuid) s.records.length
          (fileJob (newJob settings graph payload (resolveJobId jobId uuid)) s))
  | resumed {jobId : String} {r : Nat} {job : BackgroundJob α}
      (haccepted : (s.resumeJob jobId).1 = .ok jobId)
      (hfiled : s.jobs.get? jobId = some r) (hjob : s.records[r]? = some job)
      (hstatus : job.status.isResumable = true) :
      Move settings s (.resumeJob jobId)
        (startTask jobId r
          { s with
            records := s.records.modify r fun job ↦
              { job with status := .pending, error := "", result := none } })
  | cancelRequested {jobId : String} {k : Nat} {task : JobTask} {job : BackgroundJob α}
      {s' : BackgroundRuntime α} (hadvances : Advances s k task task.phase.cancel job job s') :
      Move settings s (.cancelJob jobId) s'
  /-- The task was cancelled before its first step, and ends with it. -/
  | closed {k : Nat} {event : ExecuteEvent α} {task : JobTask} {job : BackgroundJob α}
      {s' : BackgroundRuntime α} (hphase : task.phase = .created true)
      (hadvances : Advances s k task .done job job s') :
      Move settings s (.runTask k event) s'
  | suspended {k : Nat} {event : ExecuteEvent α} {task : JobTask} {job job' : BackgroundJob α}
      {s' : BackgroundRuntime α} (hphase : task.phase ≠ .created true)
      (hstatus : job'.status = .running) (hadvances : Advances s k task .awaiting job job' s') :
      Move settings s (.runTask k event) s'
  | ended {k : Nat} {event : ExecuteEvent α} {task : JobTask} {job job' : BackgroundJob α}
      {s' : BackgroundRuntime α} (hphase : task.phase ≠ .created true)
      (hstatus : job'.status.isFinal = true) (hadvances : Advances s k task .done job job' s') :
      Move settings s (.runTask k event) s'

theorem getElem?_modify_self {β : Type} {l : List β} {i j : Nat} {a : β} (h : l[i]? = some a)
    (f : β → β) : (l.modify i f)[j]? = if i = j then some (f a) else l[j]? := by
  rw [List.getElem?_modify]
  split
  · next hij => rw [← hij, h]; rfl
  · exact congrFun Option.map_id _

theorem getElem?_self {β : Type} {l : List β} {i : Nat} {a : β} (h : l[i]? = some a) (j : Nat) :
    l[j]? = if i = j then some a else l[j]? := by
  split
  · next hij => rw [← hij, h]
  · rfl

/-- What `_run_job` does from an `await` on. -/
theorem afterAwait_move {call : BackgroundCall α} {k : Nat} {event : ExecuteEvent α}
    {task : JobTask} {job job₀ : BackgroundJob α} (hcall : call = .runTask k event)
    (htask : s.tasks[k]? = some task) (hlive : task.phase ≠ .done)
    (hphase : task.phase ≠ .created true) (hjob : s.records[task.record]? = some job₀)
    (hrecords : ∀ i : Nat, s'.records[i]? = if task.record = i then some job else s.records[i]?)
    (hjobId : job.jobId = job₀.jobId) (htenantId : job.tenantId = job₀.tenantId)
    (hstatus : job.status = .running) (hs' : s'.tasks = s.tasks) (hjobs : s'.jobs = s.jobs) :
    Move settings s call (afterAwait k task.record event s') := by
  subst hcall
  have hself : s'.records[task.record]? = some job := by rw [hrecords, if_pos rfl]
  have htasks (phase : RunPhase) (i : Nat) :
      (s'.tasks.modify k fun task ↦ { task with phase := phase })[i]? =
        if k = i then some ⟨task.record, phase⟩ else s.tasks[i]? := by
    rw [hs', getElem?_modify_self htask]
  have hsettle (i : Nat) : (s'.records.modify task.record fun job ↦ job.settle event)[i]? =
      if task.record = i then some (job.settle event) else s.records[i]? := by
    rw [getElem?_modify_self hself, hrecords]
    split <;> rfl
  by_cases hevent : event = .suspended
  · subst hevent
    exact .suspended hphase hstatus
      ⟨htask, hlive, hjob, hjobId, htenantId, hjobs, htasks .awaiting, hrecords⟩
  · have hafter : afterAwait k task.record event s' =
        { s' with
          records := s'.records.modify task.record fun job ↦ job.settle event
          tasks := s'.tasks.modify k fun task ↦ { task with phase := .done }
          jobTasks := s'.popTask k task.record } := by
      cases event <;> first | rfl | exact absurd rfl hevent
    rw [hafter]
    exact .ended hphase (BackgroundJob.isFinal_settle hevent job)
      ⟨htask, hlive, hjob, by rw [BackgroundJob.jobId_settle, hjobId],
        by rw [BackgroundJob.tenantId_settle, htenantId], hjobs, htasks .done, hsettle⟩

theorem submit_move (graph : TaskGraph) (payload : Dict String α) (jobId : Option String)
    (uuid : String) (backpressure : Bool) :
    Move settings s (.submit graph payload jobId uuid backpressure)
      (s.submit settings graph payload jobId uuid backpressure).2 := by
  by_cases hpressure : backpressure = true
  · subst hpressure
    exact .refused trivial
  by_cases hquota : (settings.quota.checkSubmission (tenantOf settings payload)
      (s.countActiveJobs (tenantOf settings payload))).allowed = true
  · have hsubmit : s.submit settings graph payload jobId uuid backpressure =
        (.ok (resolveJobId jobId uuid), startTask (resolveJobId jobId uuid) s.records.length
          (fileJob (newJob settings graph payload (resolveJobId jobId uuid)) s)) := by
      simp [submit, hpressure, hquota]
    rw [hsubmit]
    exact .submitted (by rw [hsubmit]) hquota
  · have hsubmit : (s.submit settings graph payload jobId uuid backpressure).2 = s := by
      simp [submit, hpressure, hquota]
    rw [hsubmit]
    exact .refused trivial

theorem cancelJob_move (h : RuntimeInv s) (jobId : String) :
    Move settings s (.cancelJob jobId) (s.cancelJob jobId).2 := by
  rw [cancelJob]
  cases hjob : s.job? jobId with
  | none => exact .refused trivial
  | some found =>
    simp only
    split
    · exact .refused trivial
    cases hk : s.liveTask? jobId with
    | none => exact .refused trivial
    | some k =>
      obtain ⟨-, hlive⟩ := Option.filter_eq_some_iff.mp hk
      obtain ⟨task, htask, hphase⟩ := (Option.any_eq_true _ _).mp hlive
      obtain ⟨job, hrecord⟩ := h.record k task htask
      exact .cancelRequested ⟨htask, of_decide_eq_true hphase, hrecord, rfl, rfl, rfl,
        fun i ↦ getElem?_modify_self htask _, getElem?_self hrecord⟩

/-- The record found for an id is the one filed under it. -/
theorem job?_eq_some {jobId : String} {r : Nat} {job : BackgroundJob α} :
    s.job? jobId = some (r, job) ↔ s.jobs.get? jobId = some r ∧ s.records[r]? = some job := by
  simp only [job?, Option.bind_eq_some_iff, Option.map_eq_some_iff, Prod.mk.injEq]
  constructor
  · rintro ⟨r', hfiled, job', hjob, rfl, rfl⟩
    exact ⟨hfiled, hjob⟩
  · rintro ⟨hfiled, hjob⟩
    exact ⟨r, hfiled, job, hjob, rfl, rfl⟩

theorem resumeJob_move (jobId : String) :
    Move settings s (.resumeJob jobId) (s.resumeJob jobId).2 := by
  cases hjob : s.job? jobId with
  | none =>
    have hresume : (s.resumeJob jobId).2 = s := by simp [resumeJob, hjob]
    rw [hresume]
    exact .refused trivial
  | some found =>
    obtain ⟨r, job⟩ := found
    obtain ⟨hfiled, hrecord⟩ := job?_eq_some.mp hjob
    by_cases hstatus : job.status.isResumable = true
    · have hresume : s.resumeJob jobId = (.ok jobId, startTask jobId r
          { s with
            records := s.records.modify r fun job ↦
              { job with status := .pending, error := "", result := none } }) := by
        simp [resumeJob, hjob, hstatus]
      rw [hresume]
      exact .resumed (by rw [hresume]) hfiled hrecord hstatus
    · have hresume : (s.resumeJob jobId).2 = s := by simp [resumeJob, hjob, hstatus]
      rw [hresume]
      exact .refused trivial

theorem runTask_refused {k : Nat} {event : ExecuteEvent α} (hrun : s.runTask k event = none) :
    BeginsUncancelled s (.runTask k event) := by
  rintro ⟨r, phase⟩ htask hphase
  obtain rfl : phase = .created true := hphase
  rw [runTask, Option.mem_def.mp htask] at hrun
  cases hrun

theorem runTask_move (h : RuntimeInv s) {k : Nat} {event : ExecuteEvent α}
    (hrun : s.runTask k event = some s') : Move settings s (.runTask k event) s' := by
  rw [runTask] at hrun
  cases htask : s.tasks[k]? with
  | none =>
    rw [htask] at hrun
    cases hrun
  | some task =>
    obtain ⟨r, phase⟩ := task
    obtain ⟨job, hjob⟩ := h.record k _ htask
    rw [htask] at hrun
    cases phase with
    | done => cases hrun
    | created cancelRequested =>
      cases cancelRequested with
      | true =>
        cases hrun
        exact .closed rfl ⟨htask, by simp, hjob, rfl, rfl, rfl,
          fun i ↦ getElem?_modify_self htask _, getElem?_self hjob⟩
      | false =>
        cases hrun
        exact afterAwait_move rfl htask (by simp) (by simp) hjob
          (fun i ↦ getElem?_modify_self hjob _) rfl rfl rfl rfl rfl
    | awaiting =>
      cases hrun
      have hstatus : job.status = .running := h.status k _ job _ htask hjob rfl
      exact afterAwait_move rfl htask (by simp) (by simp) hjob (getElem?_self hjob) rfl rfl hstatus
        rfl rfl

/-- **What a step can do.** -/
theorem step_move (h : RuntimeInv s) (call : BackgroundCall α) :
    Move settings s call (step settings s call).2 := by
  cases call with
  | submit graph payload jobId uuid backpressure =>
    exact submit_move graph payload jobId uuid backpressure
  | cancelJob jobId => exact cancelJob_move h jobId
  | resumeJob jobId => exact resumeJob_move jobId
  | runTask k event =>
    cases hrun : s.runTask k event with
    | none =>
      rw [step, hrun]
      exact .refused (runTask_refused hrun)
    | some s' =>
      rw [step, hrun]
      exact runTask_move h hrun

/-! ## The invariant is kept -/

/-- What is live after an advance was live before it, for the same record. -/
theorem Advances.live {k : Nat} {task : JobTask} {phase : RunPhase} {job job' : BackgroundJob α}
    (ha : Advances s k task phase job job' s') {i : Nat} {task' : JobTask}
    (hi : s'.tasks[i]? = some task') (hlive : task'.phase ≠ .done) :
    ∃ task₀, s.tasks[i]? = some task₀ ∧ task₀.phase ≠ .done ∧ task₀.record = task'.record := by
  rw [ha.htasks] at hi
  split at hi
  · next hk =>
    cases hi
    exact ⟨task, hk ▸ ha.htask, ha.hlive, rfl⟩
  · exact ⟨task', hi, hlive, rfl⟩

theorem RuntimeInv.of_advances (h : RuntimeInv s) {k : Nat} {task : JobTask} {phase : RunPhase}
    {job job' : BackgroundJob α} (ha : Advances s k task phase job job' s')
    (hstatus : ∀ status, phase.status? = some status → job'.status = status) : RuntimeInv s' where
  record i task' hi := by
    rw [ha.hrecords]
    split
    · exact ⟨job', rfl⟩
    · next hr =>
      rw [ha.htasks] at hi
      split at hi
      · cases hi
        exact absurd rfl hr
      · exact h.record i task' hi
  status i task' job'' status hi hjob hphase := by
    rw [ha.htasks] at hi
    rw [ha.hrecords] at hjob
    split at hi
    · cases hi
      rw [if_pos rfl] at hjob
      cases hjob
      exact hstatus status hphase
    · next hik =>
      split at hjob
      · next hr =>
        -- the other tasks of the record are done
        have hlive : task'.phase ≠ .done := by
          intro hdone
          rw [hdone] at hphase
          cases hphase
        exact absurd (h.unique k i task task' ha.htask hi ha.hlive hlive hr) hik
      · exact h.status i task' job'' status hi hjob hphase
  unique i i' t t' hi hi' hlive hlive' hr := by
    obtain ⟨t₀, ht₀, hlive₀, hr₀⟩ := ha.live hi hlive
    obtain ⟨t₁, ht₁, hlive₁, hr₁⟩ := ha.live hi' hlive'
    exact h.unique i i' t₀ t₁ ht₀ ht₁ hlive₀ hlive₁ (by rw [hr₀, hr₁, hr])
  filed jobId r hr := by
    rw [ha.hjobs] at hr
    obtain ⟨job₀, hjob₀, hid⟩ := h.filed jobId r hr
    rw [ha.hrecords]
    split
    · next heq =>
      rw [← heq, ha.hjob] at hjob₀
      cases hjob₀
      exact ⟨job', rfl, ha.hjobId.trans hid⟩
    · exact ⟨job₀, hjob₀, hid⟩

theorem RuntimeInv.fileJob (h : RuntimeInv s) (job : BackgroundJob α) :
    RuntimeInv (fileJob job s) := by
  have hold {r : Nat} {job₀ : BackgroundJob α} (hr : s.records[r]? = some job₀) :
      (s.records ++ [job])[r]? = some job₀ := by
    rw [List.getElem?_append_left (List.getElem?_eq_some_iff.mp hr).1, hr]
  refine ⟨fun k task hk ↦ ?_, fun k task job' status hk hjob ↦ ?_, h.unique, fun jobId r hr ↦ ?_⟩
  · obtain ⟨job₀, hjob₀⟩ := h.record k task hk
    exact ⟨job₀, hold hjob₀⟩
  · obtain ⟨job₀, hjob₀⟩ := h.record k task hk
    have heq : job₀ = job' := Option.some.inj ((hold hjob₀).symm.trans hjob)
    exact h.status k task job' status hk (heq ▸ hjob₀)
  · rw [BackgroundRuntime.fileJob, Dict.get?_set] at hr
    split at hr
    · next hid =>
      cases hr
      exact ⟨job, by rw [BackgroundRuntime.fileJob]; simp, hid.symm⟩
    · obtain ⟨job₀, hjob₀, hid⟩ := h.filed jobId r hr
      exact ⟨job₀, hold hjob₀, hid⟩

/-- Nothing is known about a record that is yet to be created. -/
theorem RuntimeInv.idle_length (h : RuntimeInv s) : s.Idle s.records.length := by
  rintro task htask hr
  obtain ⟨k, hk⟩ := List.mem_iff_getElem?.mp htask
  obtain ⟨job, hjob⟩ := h.record k task hk
  rw [hr, List.getElem?_eq_none le_rfl] at hjob
  cases hjob

theorem RuntimeInv.modifyIdle (h : RuntimeInv s) {r : Nat} (hidle : s.Idle r)
    {f : BackgroundJob α → BackgroundJob α} (hf : ∀ job, (f job).jobId = job.jobId) :
    RuntimeInv { s with records := s.records.modify r f } where
  record k task hk := by
    obtain ⟨job, hjob⟩ := h.record k task hk
    rw [List.getElem?_modify, hjob]
    exact ⟨_, rfl⟩
  status k task job status hk hjob hphase := by
    rw [List.getElem?_modify] at hjob
    split at hjob
    · next hr =>
      rw [hidle task (List.mem_of_getElem? hk) hr.symm] at hphase
      cases hphase
    · rw [Option.map_eq_map, Option.map_id'] at hjob
      exact h.status k task job status hk hjob hphase
  unique := h.unique
  filed jobId r' hr := by
    obtain ⟨job, hjob, hid⟩ := h.filed jobId r' hr
    rw [List.getElem?_modify, hjob]
    refine ⟨_, rfl, ?_⟩
    split
    · rw [hf, hid]
    · exact hid

theorem RuntimeInv.startTask (h : RuntimeInv s) {r : Nat} {job : BackgroundJob α}
    (hidle : s.Idle r) (hjob : s.records[r]? = some job) (hstatus : job.status = .pending)
    (jobId : String) : RuntimeInv (startTask jobId r s) := by
  have hcases {k : Nat} {task : JobTask}
      (hk : (s.tasks ++ [⟨r, .created false⟩])[k]? = some task) :
      s.tasks[k]? = some task ∨ k = s.tasks.length ∧ task = ⟨r, .created false⟩ := by
    rw [List.getElem?_append] at hk
    split at hk
    · exact .inl hk
    · obtain ⟨hlt, heq⟩ := List.getElem?_eq_some_iff.mp hk
      rw [List.length_singleton] at hlt
      refine .inr ⟨by omega, ?_⟩
      rw [← heq, List.getElem_singleton]
  refine ⟨fun k task hk ↦ ?_, fun k task job' status hk hjob' hphase ↦ ?_,
    fun k k' task task' hk hk' hlive hlive' hr ↦ ?_, h.filed⟩
  · rcases hcases hk with hk | ⟨-, rfl⟩
    · exact h.record k task hk
    · exact ⟨job, hjob⟩
  · rcases hcases hk with hk | ⟨-, rfl⟩
    · exact h.status k task job' status hk hjob' hphase
    · cases hphase
      exact Option.some.inj (hjob'.symm.trans hjob) ▸ hstatus
  · rcases hcases hk with hk | ⟨rfl, rfl⟩ <;> rcases hcases hk' with hk' | ⟨rfl, rfl⟩
    · exact h.unique k k' task task' hk hk' hlive hlive' hr
    · exact absurd (hidle task (List.mem_of_getElem? hk) hr) hlive
    · exact absurd (hidle task' (List.mem_of_getElem? hk') hr.symm) hlive'
    · rfl

/-- **The invariant is kept by every step.** -/
theorem RuntimeInv.step (h : RuntimeInv s) (call : BackgroundCall α) :
    RuntimeInv (step settings s call).2 := by
  have hmove : Move settings s call (BackgroundRuntime.step settings s call).2 := step_move h call
  generalize (BackgroundRuntime.step settings s call).2 = s' at hmove
  cases hmove with
  | refused => exact h
  | @submitted graph payload jobId uuid _ _ _ =>
    have hnew (job : BackgroundJob α) :
        (BackgroundRuntime.fileJob job s).records[s.records.length]? = some job := by
      rw [BackgroundRuntime.fileJob]
      simp
    exact (h.fileJob _).startTask h.idle_length (hnew _) rfl _
  | @resumed jobId r job _ hfiled hjob hstatus =>
    have hfinal : job.status.isFinal = true := by
      cases hs : job.status <;> simp_all [JobStatus.isFinal, JobStatus.isResumable]
    have hidle : s.Idle r := h.idle_of_isFinal hjob hfinal
    exact (h.modifyIdle hidle (f := fun job ↦
      { job with status := .pending, error := "", result := none }) fun _ ↦ rfl).startTask hidle
      ((getElem?_modify_self hjob _).trans (if_pos rfl)) rfl jobId
  | @cancelRequested jobId k task job _ ha =>
    refine h.of_advances ha fun status hphase ↦ ?_
    rw [RunPhase.status?_cancel] at hphase
    exact h.status k task job status ha.htask ha.hjob hphase
  | closed hphase ha => exact h.of_advances ha fun status hdone ↦ by cases hdone
  | suspended hphase hstatus ha =>
    refine h.of_advances ha fun status hawaiting ↦ ?_
    cases hawaiting
    exact hstatus
  | ended hphase hstatus ha => exact h.of_advances ha fun status hdone ↦ by cases hdone

/-! ## Settled jobs -/

/-- The other records are as idle as they were. -/
theorem Advances.idle {k : Nat} {task : JobTask} {phase : RunPhase} {job job' : BackgroundJob α}
    (ha : Advances s k task phase job job' s') {r : Nat} (hr : task.record ≠ r)
    (hidle : s'.Idle r) : s.Idle r := by
  rintro t ht rfl
  obtain ⟨i, hi⟩ := List.mem_iff_getElem?.mp ht
  have hik : k ≠ i := by
    rintro rfl
    exact hr (congrArg JobTask.record (Option.some.inj (ha.htask.symm.trans hi)))
  refine hidle t (List.mem_iff_getElem?.mpr ⟨i, ?_⟩) rfl
  rw [ha.htasks, if_neg hik, hi]

theorem Settled.of_advances (hs : Settled s) {k : Nat} {task : JobTask} {phase : RunPhase}
    {job job' : BackgroundJob α} (ha : Advances s k task phase job job' s')
    (hdone : phase = .done → job'.status.isFinal = true) : Settled s' := by
  refine .of_isFinal fun r job₀ hjob hidle ↦ ?_
  rw [ha.hrecords] at hjob
  split at hjob
  · next hr =>
    cases hjob
    have hself : s'.tasks[k]? = some ⟨task.record, phase⟩ := by rw [ha.htasks, if_pos rfl]
    by_contra hfinal
    exact not_idle hself (fun h ↦ hfinal (hdone h)) (hr ▸ hidle)
  · next hr => exact hs.isFinal r job₀ hjob (ha.idle hr hidle)

/-- A record with a new task is not idle, and the others are as idle as they were. -/
theorem idle_startTask {jobId : String} {r r' : Nat} (hidle : (startTask jobId r s).Idle r') :
    r ≠ r' ∧ s.Idle r' := by
  refine ⟨?_, fun t ht ↦ hidle t (List.mem_append_left _ ht)⟩
  rintro rfl
  exact RunPhase.noConfusion (hidle ⟨r, .created false⟩ (List.mem_append_right _ (by simp)) rfl)

/-- A task that is closed before its first step leaves its record pending. -/
theorem not_settled_of_closed (h : RuntimeInv s) {k : Nat} {task : JobTask}
    {job : BackgroundJob α} (hphase : task.phase = .created true)
    (ha : Advances s k task .done job job s') : ¬Settled s' := by
  intro hs
  have hpending : job.status = .pending :=
    h.status k task job .pending ha.htask ha.hjob (by rw [hphase]; rfl)
  have hidle : s'.Idle task.record := by
    intro t ht hr
    by_contra hlive
    obtain ⟨i, hi⟩ := List.mem_iff_getElem?.mp ht
    obtain ⟨t₀, ht₀, hlive₀, hr₀⟩ := ha.live hi hlive
    have hik : k = i := h.unique k i task t₀ ha.htask ht₀ ha.hlive hlive₀ (by rw [hr₀, hr])
    rw [ha.htasks, if_pos hik] at hi
    cases hi
    exact hlive rfl
  have hfinal := hs.isFinal task.record job (by rw [ha.hrecords, if_pos rfl]) hidle
  rw [hpending] at hfinal
  cases hfinal

/-- **A step keeps all jobs settled exactly if it does not close a task that has not begun.** -/
theorem settled_step_iff (h : RuntimeInv s) (hs : Settled s) (call : BackgroundCall α) :
    Settled (step settings s call).2 ↔ BeginsUncancelled s call := by
  have hmove : Move settings s call (BackgroundRuntime.step settings s call).2 := step_move h call
  generalize (BackgroundRuntime.step settings s call).2 = s' at hmove
  have hrun {k : Nat} {event : ExecuteEvent α} {task : JobTask} {phase : RunPhase}
      {job job' : BackgroundJob α} (hphase : task.phase ≠ .created true)
      (ha : Advances s k task phase job job' s') : BeginsUncancelled s (.runTask k event) := by
    rintro t ht
    rw [Option.mem_def, ha.htask] at ht
    cases ht
    exact hphase
  cases hmove with
  | refused hbegins => exact iff_of_true hs hbegins
  | submitted haccepted hquota =>
    refine iff_of_true (.of_isFinal fun r job hjob hidle ↦ ?_) trivial
    obtain ⟨hr, hidle⟩ := idle_startTask hidle
    refine hs.isFinal r job ?_ hidle
    obtain ⟨hlt, hget⟩ := List.getElem?_eq_some_iff.mp hjob
    have hlt' : r < s.records.length := by
      simp [startTask, fileJob] at hlt
      omega
    rw [← hjob, startTask, fileJob, List.getElem?_append_left hlt']
  | resumed haccepted hfiled hjob hstatus =>
    refine iff_of_true (.of_isFinal fun r' job' hjob' hidle ↦ ?_) trivial
    obtain ⟨hr, hidle⟩ := idle_startTask hidle
    refine hs.isFinal r' job' ?_ hidle
    rw [← hjob', startTask, getElem?_modify_self hjob, if_neg hr]
  | @cancelRequested jobId k task job _ ha =>
    exact iff_of_true (hs.of_advances ha fun hdone ↦
      absurd ((RunPhase.cancel_eq_done _).mp hdone) ha.hlive) trivial
  | closed hphase ha =>
    refine iff_of_false (not_settled_of_closed h hphase ha) fun hbegins ↦ ?_
    exact hbegins _ ha.htask hphase
  | suspended hphase hstatus ha =>
    exact iff_of_true (hs.of_advances ha fun hdone ↦ by cases hdone) (hrun hphase ha)
  | ended hphase hstatus ha =>
    exact iff_of_true (hs.of_advances ha fun _ ↦ hstatus) (hrun hphase ha)

theorem settled_initial : Settled (initial : BackgroundRuntime α) :=
  .of_isFinal fun r job hjob ↦ by simp [initial] at hjob

/-- **Background jobs get stuck in one way only.**  Over any calls and any schedule of the event
loop, all jobs are settled in every state of the run exactly if the event loop never comes to the
first step of a task that has been cancelled. -/
theorem backgroundJobs_settle_iff (settings : BackgroundSettings α)
    (calls : List (BackgroundCall α)) :
    (∀ done, done <+: calls → Settled (Run.exec (step settings) initial done)) ↔
      Run.Along (step settings) BeginsUncancelled initial calls :=
  Run.forall_exec_iff_along (D := fun _ ↦ True) (P := RuntimeInv) (Q := Settled)
    (fun _ call _ h ↦ h.step call) (fun _ call _ h hs ↦ settled_step_iff h hs call)
    (fun _ _ ↦ trivial) .initial settled_initial

/-- A graph of one node. -/
def oneNode : TaskGraph := (TaskGraph.new [{ nodeId := "a" }]).toOption.get (by decide)

/-- A submission without a payload. -/
def submission (jobId : String) : BackgroundCall String :=
  .submit oneNode Dict.empty (some jobId) "" false

/-- A job that is cancelled before the event loop has begun with it. -/
def cancelledEarly : List (BackgroundCall String) :=
  [submission "job-1", .cancelJob "job-1", .runTask 0 .suspended]

/-- The task of the job is done, but the job counts as active, can no longer be cancelled, and is
not resumed. -/
theorem cancelledEarly_not_settled :
    let s := Run.exec (step { str := id }) initial cancelledEarly
    s.Idle 0 ∧ (s.getJob "job-1").toOption.map BackgroundJob.status = some .pending ∧
      s.countActiveJobs "default" = 1 ∧ (s.cancelJob "job-1").1 = .ok false ∧
      (s.resumeJob "job-1").1 =
        .error (.runtimeError "Job 'job-1' is in status 'pending' and cannot be resumed") ∧
      ¬Settled s := by
  refine ⟨by decide, by decide, by decide, by decide, by decide, fun hs ↦ ?_⟩
  have hactive := hs.notActive "job-1" 0 "default" (by decide) (by decide)
  exact absurd hactive (by decide)

/-! ## The quota -/

/-- The tenant of a record. -/
def tenantOfRecord (s : BackgroundRuntime α) (r : Nat) : Option String :=
  (s.records[r]?).map BackgroundJob.tenantId

/-- The number of tasks of the tenant that have been scheduled and are not done. -/
def liveTasks (s : BackgroundRuntime α) (tenantId : String) : Nat :=
  s.tasks.countP fun task ↦ task.phase ≠ .done && s.tenantOfRecord task.record = some tenantId

/-- The call does not get around the quota: a job that is resumed would be let through by the check
of `submit`, and an id that is used again is not the one of a job with a task left to run. -/
def KeepsQuota (settings : BackgroundSettings α) (s : BackgroundRuntime α) :
    BackgroundCall α → Prop
  | .submit graph payload jobId uuid backpressure =>
    (s.submit settings graph payload jobId uuid backpressure).1.isOk = true →
      ∀ r ∈ s.jobs.get? (resolveJobId jobId uuid), s.Idle r
  | .resumeJob jobId =>
    (s.resumeJob jobId).1.isOk = true → ∀ found ∈ s.job? jobId,
      (settings.quota.checkSubmission found.2.tenantId
        (s.countActiveJobs found.2.tenantId)).allowed = true
  | _ => True

instance (settings : BackgroundSettings α) (s : BackgroundRuntime α) :
    (call : BackgroundCall α) → Decidable (KeepsQuota settings s call)
  | .submit graph payload jobId uuid backpressure =>
    inferInstanceAs (Decidable
      ((s.submit settings graph payload jobId uuid backpressure).1.isOk = true →
        ∀ r ∈ s.jobs.get? (resolveJobId jobId uuid), s.Idle r))
  | .resumeJob jobId =>
    inferInstanceAs (Decidable ((s.resumeJob jobId).1.isOk = true → ∀ found ∈ s.job? jobId,
      (settings.quota.checkSubmission found.2.tenantId
        (s.countActiveJobs found.2.tenantId)).allowed = true))
  | .cancelJob _ | .runTask .. => isTrue trivial

/-- The records of the tasks that are left to run are the ones that are filed. -/
def LiveFiled (s : BackgroundRuntime α) : Prop :=
  ∀ (k : Nat) (task : JobTask) (job : BackgroundJob α), s.tasks[k]? = some task →
    task.phase ≠ .done → s.records[task.record]? = some job →
      s.jobs.get? job.jobId = some task.record

theorem LiveFiled.of_advances (h : LiveFiled s) {k : Nat} {task : JobTask} {phase : RunPhase}
    {job job' : BackgroundJob α} (ha : Advances s k task phase job job' s') : LiveFiled s' := by
  intro i t job₀ hi hlive hjob
  obtain ⟨t₀, ht₀, hlive₀, hr₀⟩ := ha.live hi hlive
  rw [ha.hjobs, ← hr₀]
  rw [ha.hrecords, ← hr₀] at hjob
  split at hjob
  · next hr =>
    cases hjob
    rw [ha.hjobId]
    exact h i t₀ job ht₀ hlive₀ (hr ▸ ha.hjob)
  · exact h i t₀ job₀ ht₀ hlive₀ hjob

/-- **What is running is counted.**  The tasks of a tenant that are left to run are no more than
its active jobs. -/
theorem liveTasks_le_countActiveJobs (hinv : RuntimeInv s) (hfiled : LiveFiled s)
    (tenantId : String) : s.liveTasks tenantId ≤ s.countActiveJobs tenantId := by
  rw [liveTasks, countActiveJobs, List.countP_eq_length_filter, List.countP_eq_length_filter,
    ← List.length_map JobTask.record, ← List.length_map (Prod.snd : String × Nat → Nat)]
  refine (List.subperm_of_subset ?_ ?_).length_le
  · rw [List.Nodup, List.pairwise_map, List.pairwise_filter, List.pairwise_iff_getElem]
    intro i j hi hj hij hlive hlive'
    simp only [Bool.and_eq_true, decide_eq_true_eq] at hlive hlive'
    intro hr
    have heq := hinv.unique i j _ _ (List.getElem?_eq_getElem hi) (List.getElem?_eq_getElem hj)
      hlive.1 hlive'.1 hr
    omega
  · intro r hr
    obtain ⟨task, htask, rfl⟩ := List.mem_map.mp hr
    obtain ⟨hmem, hlive⟩ := List.mem_filter.mp htask
    simp only [Bool.and_eq_true, decide_eq_true_eq] at hlive
    obtain ⟨hphase, htenant⟩ := hlive
    obtain ⟨k, hk⟩ := List.mem_iff_getElem?.mp hmem
    obtain ⟨job, hjob⟩ := hinv.record k task hk
    obtain ⟨status, hstatus, hactive⟩ := RunPhase.exists_status hphase
    have hentry := Dict.mem_entries_iff.mpr (hfiled k task job hk hphase hjob)
    refine List.mem_map.mpr ⟨_, List.mem_filter.mpr ⟨hentry, ?_⟩, rfl⟩
    rw [tenantOfRecord, hjob] at htenant
    have hname : job.tenantId = tenantId := Option.some.inj htenant
    simp [countsAsActive, hjob, hname, hinv.status k task job status hk hjob hstatus, hactive]

/-- An advance makes no task live, and leaves the tenants as they were. -/
theorem Advances.liveTasks_le {k : Nat} {task : JobTask} {phase : RunPhase}
    {job job' : BackgroundJob α} (ha : Advances s k task phase job job' s') (tenantId : String) :
    s'.liveTasks tenantId ≤ s.liveTasks tenantId := by
  obtain ⟨hk, hget⟩ := List.getElem?_eq_some_iff.mp ha.htask
  have htenant (r : Nat) : s'.tenantOfRecord r = s.tenantOfRecord r := by
    rw [tenantOfRecord, tenantOfRecord, ha.hrecords]
    split
    · next hr => rw [← hr, ha.hjob, Option.map_some, Option.map_some, ha.htenantId]
    · rfl
  have htasks : s'.tasks = s.tasks.set k ⟨task.record, phase⟩ := by
    refine List.ext_getElem? fun i ↦ ?_
    rw [ha.htasks, List.getElem?_set, if_pos hk]
  simp only [liveTasks, htenant, htasks]
  rw [List.countP_set hk, hget]
  have hlive := ha.hlive
  have hpos : (decide (task.phase ≠ .done) &&
      decide (s.tenantOfRecord task.record = some tenantId)) = true →
      0 < s.tasks.countP fun task ↦
        decide (task.phase ≠ .done) && decide (s.tenantOfRecord task.record = some tenantId) :=
    fun h ↦ List.countP_pos_iff.mpr ⟨task, List.mem_of_getElem? ha.htask, h⟩
  by_cases htenant : s.tenantOfRecord task.record = some tenantId
  · simp only [hlive, htenant, ne_eq, not_false_eq_true, decide_true, Bool.and_self, if_true,
      forall_const] at hpos ⊢
    split <;> omega
  · simp [htenant]

/-- A task that is added counts for the tenant of its record. -/
theorem liveTasks_startTask (jobId : String) (r : Nat) (tenantId : String) :
    (startTask jobId r s).liveTasks tenantId =
      s.liveTasks tenantId + if s.tenantOfRecord r = some tenantId then 1 else 0 := by
  have htenant (i : Nat) : (startTask jobId r s).tenantOfRecord i = s.tenantOfRecord i := rfl
  simp only [liveTasks, htenant]
  rw [startTask, List.countP_append, List.countP_singleton]
  simp

/-- A record that is added has no tasks yet. -/
theorem liveTasks_fileJob (hinv : RuntimeInv s) (job : BackgroundJob α) (tenantId : String) :
    (fileJob job s).liveTasks tenantId = s.liveTasks tenantId := by
  refine List.countP_congr fun task htask ↦ ?_
  obtain ⟨k, hk⟩ := List.mem_iff_getElem?.mp htask
  obtain ⟨job₀, hjob₀⟩ := hinv.record k task hk
  have hlt := (List.getElem?_eq_some_iff.mp hjob₀).1
  rw [tenantOfRecord, tenantOfRecord, fileJob, List.getElem?_append_left hlt]

theorem LiveFiled.submitted (hinv : RuntimeInv s) (h : LiveFiled s) (job : BackgroundJob α)
    (hidle : ∀ r ∈ s.jobs.get? job.jobId, s.Idle r) :
    LiveFiled (startTask job.jobId s.records.length (fileJob job s)) := by
  intro k task job₀ hk hlive hjob₀
  have hget : (s.tasks ++ [⟨s.records.length, .created false⟩])[k]? = some task := hk
  have hrecord : (s.records ++ [job])[task.record]? = some job₀ := hjob₀
  show (s.jobs.set job.jobId s.records.length).get? job₀.jobId = some task.record
  rw [Dict.get?_set]
  rw [List.getElem?_append] at hget
  split at hget
  · obtain ⟨job₁, hjob₁⟩ := hinv.record k task hget
    rw [List.getElem?_append_left (List.getElem?_eq_some_iff.mp hjob₁).1] at hrecord
    have hfiled := h k task job₀ hget hlive hrecord
    rw [if_neg, hfiled]
    -- a task of the job whose id is used would be left to run
    intro heq
    exact not_idle hget hlive (hidle task.record (by rw [← heq, Option.mem_def, hfiled]))
  · obtain ⟨hlt, heq⟩ := List.getElem?_eq_some_iff.mp hget
    rw [List.getElem_singleton] at heq
    cases heq
    rw [List.getElem?_append_right le_rfl, Nat.sub_self] at hrecord
    cases hrecord
    rw [if_pos rfl]

theorem LiveFiled.resumed (hinv : RuntimeInv s) (h : LiveFiled s) {jobId : String} {r : Nat}
    (hfiled : s.jobs.get? jobId = some r) {f : BackgroundJob α → BackgroundJob α}
    (hf : ∀ job, (f job).jobId = job.jobId) :
    LiveFiled (startTask jobId r { s with records := s.records.modify r f }) := by
  have hmodified {i : Nat} {job : BackgroundJob α} (hi : (s.records.modify r f)[i]? = some job) :
      ∃ job₀, s.records[i]? = some job₀ ∧ job₀.jobId = job.jobId := by
    rw [List.getElem?_modify] at hi
    obtain ⟨job₀, hjob₀, heq⟩ := Option.map_eq_some_iff.mp hi
    refine ⟨job₀, hjob₀, ?_⟩
    rw [← heq]
    split
    · exact (hf job₀).symm
    · rfl
  intro k task job hk hlive hjob
  have hget : (s.tasks ++ [⟨r, .created false⟩])[k]? = some task := hk
  obtain ⟨job₀, hjob₀, hid⟩ := hmodified hjob
  show s.jobs.get? job.jobId = some task.record
  rw [← hid]
  rw [List.getElem?_append] at hget
  split at hget
  · exact h k task job₀ hget hlive hjob₀
  · obtain ⟨hlt, heq⟩ := List.getElem?_eq_some_iff.mp hget
    rw [List.getElem_singleton] at heq
    cases heq
    obtain ⟨job₁, hjob₁, hid₁⟩ := hinv.filed jobId r hfiled
    cases hjob₁.symm.trans hjob₀
    rw [hid₁, hfiled]

/-- What the quota needs of a state. -/
structure WithinQuota (settings : BackgroundSettings α) (s : BackgroundRuntime α) : Prop where
  inv : RuntimeInv s
  filed : LiveFiled s
  le : ∀ tenantId, (s.liveTasks tenantId : Int) ≤ settings.quota.maxActiveJobsPerTenant

theorem WithinQuota.step (hpos : 0 < settings.quota.maxActiveJobsPerTenant)
    (hhard : settings.quota.hardEnforcement = true) {call : BackgroundCall α}
    (hok : KeepsQuota settings s call) (h : WithinQuota settings s) :
    WithinQuota settings (step settings s call).2 := by
  have hmove : Move settings s call (BackgroundRuntime.step settings s call).2 :=
    step_move h.inv call
  have hinv : RuntimeInv (BackgroundRuntime.step settings s call).2 := h.inv.step call
  generalize (BackgroundRuntime.step settings s call).2 = s' at hmove hinv
  have hadvances {k : Nat} {task : JobTask} {phase : RunPhase} {job job' : BackgroundJob α}
      (ha : Advances s k task phase job job' s') : WithinQuota settings s' := by
    refine ⟨hinv, h.filed.of_advances ha, fun tenantId ↦ ?_⟩
    have hle := ha.liveTasks_le tenantId
    have hbound := h.le tenantId
    omega
  have hroom {tenantId : String} (hallowed : (settings.quota.checkSubmission tenantId
      (s.countActiveJobs tenantId)).allowed = true) :
      (s.liveTasks tenantId : Int) + 1 ≤ settings.quota.maxActiveJobsPerTenant := by
    have hlt := (TenantQuotaManager.allowed_iff hpos hhard tenantId _).mp hallowed
    have hle := liveTasks_le_countActiveJobs h.inv h.filed tenantId
    omega
  cases hmove with
  | refused => exact h
  | @submitted graph payload jobId uuid backpressure haccepted hquota =>
    refine ⟨hinv, h.filed.submitted h.inv _ (hok (by rw [haccepted]; rfl)), fun tenantId ↦ ?_⟩
    rw [liveTasks_startTask, liveTasks_fileJob h.inv]
    have hnew : (fileJob (newJob settings graph payload (resolveJobId jobId uuid)) s).tenantOfRecord
        s.records.length = some (tenantOf settings payload) := by
      simp [tenantOfRecord, fileJob, newJob]
    rw [hnew]
    split
    · next htenant =>
      cases htenant
      have hlt := hroom hquota
      omega
    · have hbound := h.le tenantId
      omega
  | @resumed jobId r job haccepted hfiled hjob hstatus =>
    refine ⟨hinv, h.filed.resumed h.inv hfiled fun _ ↦ rfl, fun tenantId ↦ ?_⟩
    rw [liveTasks_startTask]
    have htenant (i : Nat) : tenantOfRecord
        { s with
          records := s.records.modify r fun job ↦
            { job with status := .pending, error := "", result := none } } i =
        s.tenantOfRecord i := by
      rw [tenantOfRecord, tenantOfRecord, getElem?_modify_self hjob]
      split
      · next hi => rw [← hi, hjob, Option.map_some, Option.map_some]
      · rfl
    have hlive : liveTasks
        { s with
          records := s.records.modify r fun job ↦
            { job with status := .pending, error := "", result := none } } tenantId =
        s.liveTasks tenantId := by
      simp only [liveTasks, htenant]
    rw [htenant, hlive, tenantOfRecord, hjob, Option.map_some]
    have hallowed := hok (by rw [haccepted]; rfl) (r, job) (job?_eq_some.mpr ⟨hfiled, hjob⟩)
    split
    · next hname =>
      cases hname
      have hlt : (s.liveTasks job.tenantId : Int) + 1 ≤ settings.quota.maxActiveJobsPerTenant :=
        hroom hallowed
      omega
    · have hbound := h.le tenantId
      omega
  | cancelRequested ha => exact hadvances ha
  | closed _ ha => exact hadvances ha
  | suspended _ _ ha => exact hadvances ha
  | ended _ _ ha => exact hadvances ha

/-- **The quota of a tenant.**  Let the limit be positive and enforced.  In every run in which a job
is resumed only where `submit` would find room, and no id is used again while a task of its job is
left to run, no tenant ever has more such tasks than the limit. -/
theorem liveTasks_le_quota (settings : BackgroundSettings α)
    (hpos : 0 < settings.quota.maxActiveJobsPerTenant)
    (hhard : settings.quota.hardEnforcement = true) {calls : List (BackgroundCall α)}
    (hok : Run.Along (step settings) (KeepsQuota settings) initial calls) (tenantId : String) :
    ((Run.exec (step settings) initial calls).liveTasks tenantId : Int) ≤
      settings.quota.maxActiveJobsPerTenant := by
  have hinitial : WithinQuota settings (initial : BackgroundRuntime α) := by
    refine ⟨.initial, fun k task job hk ↦ ?_, fun tenantId ↦ ?_⟩
    · simp [initial] at hk
    · simp only [liveTasks, initial, List.countP_nil]
      omega
  exact (Run.exec_invariant (fun s call hok h ↦ WithinQuota.step hpos hhard hok h) hok
    hinitial).le tenantId

/-- At most one job of a tenant at a time. -/
def oneAtATime : BackgroundSettings String where
  quota := { maxActiveJobsPerTenant := 1 }
  str := id

/-- A job that is resumed when the job before it has ended. -/
def resumedInTurn : List (BackgroundCall String) :=
  [submission "job-1", .runTask 0 .suspended, .cancelJob "job-1", .runTask 0 .cancelled,
    submission "job-2", .runTask 1 (.raised "boom"), .resumeJob "job-1", submission "job-3"]

theorem liveTasks_le_quota_resumedInTurn :
    ((Run.exec (step oneAtATime) initial resumedInTurn).liveTasks "default" : Int) ≤ 1 :=
  liveTasks_le_quota oneAtATime (by decide) rfl (by decide) "default"

/-- A job that is cancelled, and resumed while another one is running. -/
def resumedMeanwhile : List (BackgroundCall String) :=
  [submission "job-1", .runTask 0 .suspended, .cancelJob "job-1", .runTask 0 .cancelled,
    submission "job-2", .resumeJob "job-1"]

/-- The limit of one job is exceeded by the resumption; it is exceeded as well by a submission under
the id of a job that is running, once the record of the latter is gone. -/
theorem resumedMeanwhile_exceeds :
    (Run.exec (step oneAtATime) initial resumedMeanwhile).liveTasks "default" = 2 ∧
      (Run.exec (step oneAtATime) initial
        [.submit oneNode (Dict.empty.set "tenant_id" "a") (some "job-1") "" false,
          .submit oneNode (Dict.empty.set "tenant_id" "b") (some "job-1") "" false,
          .submit oneNode (Dict.empty.set "tenant_id" "a") (some "job-2") "" false]).liveTasks "a" =
        2 ∧
      ¬∀ (calls : List (BackgroundCall String)) (tenantId : String),
        ((Run.exec (step oneAtATime) initial calls).liveTasks tenantId : Int) ≤
          oneAtATime.quota.maxActiveJobsPerTenant := by
  have hresumed :
      (Run.exec (step oneAtATime) initial resumedMeanwhile).liveTasks "default" = 2 := by decide
  refine ⟨hresumed, by decide, fun h ↦ ?_⟩
  have hle := h resumedMeanwhile "default"
  rw [hresumed] at hle
  exact absurd hle (by decide)

end BackgroundRuntime
end Core
end ExoBrain
