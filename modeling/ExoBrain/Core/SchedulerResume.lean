import ExoBrain.Core.SchedulerResult
import ExoBrain.Core.CheckpointStore

/-!
# Resuming a job

With `resume`, `execute` begins with what the checkpoint store lists for the job: it takes over every
checkpoint as an outcome, and does not start a node again that is `COMPLETED` or `FAILED`.

`Checkpoints` is what the scheduler relies on there, and `checkpoints_of_isPrefix` that the store holds
it after an interruption at any point of any run.  The two halves meet in `resumesTo_iff`, which
compares the result with that of the run that was not interrupted.

They need not agree.  A node is cancelled when `execute` sees a failure happen; a cancellation is not
checkpointed, and for a failure that is found in the store `_mark_downstream_cancelled` is not called.
So a node that depends on such a failure has no outcome, unless it also depends on another one that
happens again (`FailsAgain`).  `not_resumesTo_brokenChain` is the smallest case.
-/

set_option autoImplicit false

namespace ExoBrain
namespace Core

open Relation SchedulerJob

variable {α : Type} {job : SchedulerJob α} {s s' : SchedulerState α}
  {settled old reopened : Finset String} {listed : List (CheckpointRecord α)} {n : String}

/-! ## Loading the checkpoints -/

/-- The nodes with a checkpoint of a status. -/
def idsWith (status : CheckpointStatus) (listed : List (CheckpointRecord α)) : Finset String :=
  ((listed.filter fun c ↦ c.status = status).map CheckpointRecord.nodeId).toFinset

theorem mem_idsWith {status : CheckpointStatus} :
    n ∈ idsWith status listed ↔ ∃ c ∈ listed, c.status = status ∧ c.nodeId = n := by
  simp [idsWith, and_assoc]

theorem mem_idsWith_cons {status : CheckpointStatus} {c : CheckpointRecord α} :
    n ∈ idsWith status (c :: listed) ↔
      c.status = status ∧ c.nodeId = n ∨ n ∈ idsWith status listed := by
  simp only [mem_idsWith, List.exists_mem_cons_iff]

/-- The outcome that is made of a checkpoint. -/
def CheckpointRecord.outcome (c : CheckpointRecord α) : TaskOutcome α :=
  { nodeId := c.nodeId
    status := c.status.taskStatus
    output := c.payload
    reasonCode := c.reasonCode
    attempts := c.attempt }

namespace Ledger

/-- From `l` to `l'`, the checkpoints were loaded. -/
structure Loads (listed : List (CheckpointRecord α)) (l l' : Ledger α) : Prop where
  running : l'.running = l.running
  cancelled : l'.cancelled = l.cancelled
  completed : ∀ n, n ∈ l'.completed ↔ n ∈ l.completed ∨ n ∈ idsWith .completed listed
  failed : ∀ n, n ∈ l'.failed ↔ n ∈ l.failed ∨ n ∈ idsWith .failed listed
  outcome : ∀ c ∈ listed, l'.outcomes.get? c.nodeId = some c.outcome
  other : ∀ n, (∀ c ∈ listed, c.nodeId ≠ n) → l'.outcomes.get? n = l.outcomes.get? n

/-- One checkpoint is loaded. -/
theorem loads_loadCheckpoint (l : Ledger α) (c : CheckpointRecord α) :
    Loads [c] l (l.loadCheckpoint c) := by
  have houtcomes : (l.loadCheckpoint c).outcomes = l.outcomes.set c.nodeId c.outcome := by
    obtain ⟨_, _, status⟩ := c
    cases status <;> rfl
  refine ⟨?_, ?_, fun n ↦ ?_, fun n ↦ ?_, fun c' hc' ↦ ?_, fun n hn ↦ ?_⟩
  · rw [loadCheckpoint]
    cases c.status <;> rfl
  · rw [loadCheckpoint]
    cases c.status <;> rfl
  · rw [loadCheckpoint, mem_idsWith_cons]
    cases c.status <;> simp [idsWith, or_comm, eq_comm]
  · rw [loadCheckpoint, mem_idsWith_cons]
    cases c.status <;> simp [idsWith, or_comm, eq_comm]
  · obtain rfl := List.mem_singleton.mp hc'
    rw [houtcomes, Dict.get?_set, if_pos rfl]
  · rw [houtcomes, Dict.get?_set, if_neg (hn c List.mem_cons_self).symm]

/-- **The checkpoints are loaded**, in any order. -/
theorem loads_foldl (hnodup : (listed.map CheckpointRecord.nodeId).Nodup) (l : Ledger α) :
    Loads listed l (listed.foldl loadCheckpoint l) := by
  induction listed generalizing l with
  | nil => exact ⟨rfl, rfl, fun n ↦ by simp [idsWith], fun n ↦ by simp [idsWith],
      fun c hc ↦ absurd hc List.not_mem_nil, fun n _ ↦ rfl⟩
  | cons first listed ih =>
    rw [List.map_cons, List.nodup_cons] at hnodup
    have hfirst := l.loads_loadCheckpoint first
    have hrest := ih hnodup.2 (l.loadCheckpoint first)
    have hlater : ∀ c ∈ listed, c.nodeId ≠ first.nodeId := fun c hc heq ↦
      hnodup.1 (heq ▸ List.mem_map_of_mem hc)
    refine ⟨hrest.running.trans hfirst.running, hrest.cancelled.trans hfirst.cancelled,
      fun n ↦ ?_, fun n ↦ ?_, fun c hc ↦ ?_, fun n hn ↦ ?_⟩
    · rw [List.foldl_cons, hrest.completed, hfirst.completed, mem_idsWith_cons, mem_idsWith_cons]
      simp [idsWith, or_assoc]
    · rw [List.foldl_cons, hrest.failed, hfirst.failed, mem_idsWith_cons, mem_idsWith_cons]
      simp [idsWith, or_assoc]
    · rcases List.mem_cons.mp hc with rfl | hc
      · exact (hrest.other c.nodeId hlater).trans (hfirst.outcome c List.mem_cons_self)
      · exact hrest.outcome c hc
    · obtain ⟨hne, hothers⟩ := List.forall_mem_cons.mp hn
      refine (hrest.other n hothers).trans (hfirst.other n fun c hc ↦ ?_)
      rwa [List.mem_singleton.mp hc]

end Ledger

/-- **Checkpoints that a run may have left**: of nodes that were started when their dependencies were
completed, and with the verdict on the node if there is one. -/
structure Checkpoints (graph : TaskGraph) (ok : String → Prop)
    (listed : List (CheckpointRecord α)) : Prop where
  nodup : (listed.map CheckpointRecord.nodeId).Nodup
  known : ∀ c ∈ listed, c.nodeId ∈ graph.nodes.keys
  deps : ∀ c ∈ listed, ∀ m, graph.Dep c.nodeId m → m ∈ idsWith .completed listed
  verdict : ∀ c ∈ listed, c.status = .running ∨ c.status = .completed ∧ ok c.nodeId ∨
    c.status = .failed ∧ ¬ok c.nodeId

namespace Checkpoints

variable {graph : TaskGraph} {ok : String → Prop}

theorem eq_of_nodeId_eq (h : Checkpoints graph ok listed) {c c' : CheckpointRecord α}
    (hc : c ∈ listed) (hc' : c' ∈ listed) (heq : c.nodeId = c'.nodeId) : c = c' :=
  List.inj_on_of_nodup_map h.nodup hc hc' heq

/-- A node has one checkpoint. -/
theorem mem_idsWith_iff (h : Checkpoints graph ok listed) {c : CheckpointRecord α}
    (hc : c ∈ listed) (status : CheckpointStatus) :
    c.nodeId ∈ idsWith status listed ↔ c.status = status := by
  rw [mem_idsWith]
  constructor
  · rintro ⟨c', hc', hstatus, heq⟩
    rwa [h.eq_of_nodeId_eq hc hc' heq.symm]
  · exact fun hstatus ↦ ⟨c, hc, hstatus, rfl⟩

/-- **The books with the checkpoints loaded are sound.** -/
theorem sound (h : Checkpoints graph ok listed) :
    (listed.foldl Ledger.loadCheckpoint .empty).Sound graph ok (idsWith .failed listed)
      (idsWith .running listed) := by
  have hloads := Ledger.loads_foldl h.nodup Ledger.empty
  have hcompleted : ∀ n, n ∈ (listed.foldl Ledger.loadCheckpoint .empty).completed ↔
      n ∈ idsWith .completed listed := fun n ↦
    (hloads.completed n).trans (or_iff_right (Finset.notMem_empty n))
  have hfailed : ∀ n, n ∈ (listed.foldl Ledger.loadCheckpoint .empty).failed ↔
      n ∈ idsWith .failed listed := fun n ↦
    (hloads.failed n).trans (or_iff_right (Finset.notMem_empty n))
  have hrunning : ∀ n, n ∉ (listed.foldl Ledger.loadCheckpoint .empty).running := fun n hn ↦
    Finset.notMem_empty n (hloads.running.subset hn)
  have hcancelled : ∀ n, n ∉ (listed.foldl Ledger.loadCheckpoint .empty).cancelled := fun n hn ↦
    Finset.notMem_empty n (hloads.cancelled.subset hn)
  have hstarted : ∀ n, (listed.foldl Ledger.loadCheckpoint .empty).Started
      (idsWith .running listed) n → ∃ c ∈ listed, c.nodeId = n := by
    intro n hn
    simp only [Ledger.Started, hcompleted, hfailed, hrunning, mem_idsWith, false_or] at hn
    rcases hn with ⟨c, hc, -, hid⟩ | ⟨c, hc, -, hid⟩ | ⟨c, hc, -, hid⟩
    · exact ⟨c, hc, hid⟩
    · exact ⟨c, hc, hid⟩
    · exact ⟨c, hc, hid⟩
  refine ⟨fun n hn ↦ ?_, fun n m hn hdep ↦ ?_, fun n hn ↦ ?_, fun n hn ↦ ?_,
    fun n hn ↦ absurd hn (hrunning n), fun n hn ↦ (hfailed n).mpr hn, fun n ↦ ?_, fun n ↦ ?_⟩
  · obtain ⟨c, hc, rfl⟩ := hstarted n hn
    exact h.known c hc
  · obtain ⟨c, hc, rfl⟩ := hstarted n hn
    exact (hcompleted m).mpr (h.deps c hc m hdep)
  · obtain ⟨c, hc, hstatus, rfl⟩ := mem_idsWith.mp ((hcompleted n).mp hn)
    have hverdict := h.verdict c hc
    simp only [hstatus] at hverdict
    simpa using hverdict
  · obtain ⟨c, hc, hstatus, rfl⟩ := mem_idsWith.mp ((hfailed n).mp hn)
    have hverdict := h.verdict c hc
    simp only [hstatus] at hverdict
    simpa using hverdict
  · refine iff_of_false (hcancelled n) ?_
    rintro ⟨m, hm, hnew, -⟩
    exact hnew ((hfailed m).mp hm)
  · simp only [Ledger.standing, hcompleted, hfailed, hcancelled, if_false]
    by_cases hn : ∃ c ∈ listed, c.nodeId = n
    · obtain ⟨c, hc, rfl⟩ := hn
      simp only [hloads.outcome c hc, h.mem_idsWith_iff hc, Option.map_some]
      rcases h.verdict c hc with hstatus | ⟨hstatus, -⟩ | ⟨hstatus, -⟩ <;>
        simp [CheckpointRecord.outcome, CheckpointStatus.taskStatus, hstatus]
    · have hnone : ∀ status, n ∉ idsWith status listed := by
        intro status hmem
        obtain ⟨c, hc, -, hid⟩ := mem_idsWith.mp hmem
        exact hn ⟨c, hc, hid⟩
      rw [hloads.other n fun c hc hid ↦ hn ⟨c, hc, hid⟩, if_neg (hnone _), if_neg (hnone _),
        if_neg (hnone _)]
      rfl

end Checkpoints

/-- **How a run begins that resumes.** -/
theorem RunInv.resume (h : Checkpoints job.graph job.Ok listed) :
    RunInv job (idsWith .completed listed ∪ idsWith .failed listed) (idsWith .failed listed)
      (idsWith .running listed) (job.start true listed) := by
  have hloads := Ledger.loads_foldl h.nodup Ledger.empty
  refine RunInv.begin h.sound (hloads.running.trans rfl) fun n ↦ ?_
  rw [if_pos rfl, hloads.completed, hloads.failed, Finset.mem_union]
  simp [Ledger.empty]

/-! ## What a run leaves in the store -/

/-- The store after the checkpoints were saved. -/
def storeOf (saved : List (CheckpointRecord α)) : InMemoryCheckpointStore α :=
  saved.foldl InMemoryCheckpointStore.saveCheckpoint .empty

/-- The latest checkpoint of a node of a job.  The scheduler does not name a tenant, so that it is
the default one. -/
def latest (jobId : String) (saved : List (CheckpointRecord α)) (n : String) :
    Option (CheckpointRecord α) :=
  (storeOf saved).getCheckpoint jobId n "default"

/-- The checkpoint is one of the node, with the verdict on it if there is one. -/
structure CheckpointOf (job : SchedulerJob α) (node : TaskNode) (c : CheckpointRecord α) : Prop where
  key : (c.tenantId, c.jobId) = ("default", job.jobId)
  nodeId_eq : c.nodeId = node.nodeId
  verdict : c.status = .running ∨ c.status = .completed ∧ job.Succeeds node ∨
    c.status = .failed ∧ ¬job.Succeeds node

theorem latest_append {node : TaskNode} {c : CheckpointRecord α} (h : CheckpointOf job node c)
    (saved : List (CheckpointRecord α)) (n : String) :
    latest job.jobId (saved ++ [c]) n =
      if n = node.nodeId then some c else latest job.jobId saved n := by
  rw [latest, storeOf, List.foldl_append, List.foldl_cons, List.foldl_nil,
    InMemoryCheckpointStore.getCheckpoint_saveCheckpoint, h.key, h.nodeId_eq]
  exact if_congr (and_iff_right rfl) rfl rfl

/-- **What a move saves**: nothing, or a checkpoint of the node. -/
theorem SchedulerJob.NodeMove.saved {node : TaskNode} {outcomes : Dict String (TaskOutcome α)}
    {phase : TaskPhase α} {r : TaskStep α} (hmove : NodeMove job node outcomes phase r)
    (h : PhaseInv job node outcomes phase) :
    r.saved = [] ∨ ∃ c, r.saved = [c] ∧ CheckpointOf job node c := by
  have hend := hmove.phaseInv h
  cases hmove with
  | opens | tries | retries => exact .inl rfl
  | begins => exact .inr ⟨_, rfl, rfl, rfl, .inl rfl⟩
  | succeeds =>
    refine .inr ⟨_, rfl, rfl, rfl, .inr (.inl ⟨rfl, ?_⟩)⟩
    simpa using hend.2.2.2
  | fails =>
    refine .inr ⟨_, rfl, rfl, rfl, .inr (.inr ⟨rfl, ?_⟩)⟩
    simpa using hend.2.2.2

/-- A node that succeeds is checkpointed before its task returns. -/
theorem SchedulerJob.NodeMove.saved_completed {node : TaskNode}
    {outcomes : Dict String (TaskOutcome α)} {phase : TaskPhase α} {r : TaskStep α}
    (hmove : NodeMove job node outcomes phase r) {o : TaskOutcome α} (ho : r.phase = .returned o)
    (hstatus : o.status = .completed) : ∃ c, r.saved = [c] ∧ c.status = .completed := by
  cases hmove with
  | opens | begins | tries | retries => exact nomatch ho
  | succeeds => exact ⟨_, rfl, rfl⟩
  | fails =>
    obtain rfl := TaskPhase.returned.inj ho
    exact nomatch hstatus

/-- **What the checkpoints have to do with the state**, in a run that does not resume. -/
structure SavedInv (job : SchedulerJob α) (s : SchedulerState α) : Prop where
  verdict : ∀ n c, latest job.jobId s.saved n = some c → s.ledger.Started ∅ n ∧
    (c.status = .running ∨ c.status = .completed ∧ job.Ok n ∨ c.status = .failed ∧ ¬job.Ok n)
  completed : ∀ n ∈ s.ledger.completed, ∃ c, latest job.jobId s.saved n = some c ∧
    c.status = .completed
  returned : ∀ n task o, s.wave.get? n = some task → task.phase = .returned o →
    o.status = .completed → ∃ c, latest job.jobId s.saved n = some c ∧ c.status = .completed

theorem SavedInv.afterStep (hsaved : SavedInv job s) (h : StateInv job settled old reopened s)
    {nodeId : String} {task : WaveTask α} {r : TaskStep α} (htask : s.wave.get? nodeId = some task)
    (hmove : NodeMove job task.node s.ledger.outcomes task.phase r) :
    SavedInv job (s.afterStep nodeId r) := by
  obtain ⟨hnode, hphase⟩ := h.task nodeId task htask
  have hid : task.node.nodeId = nodeId := job.graph.nodeId_eq nodeId task.node hnode
  have hrunning : nodeId ∈ s.ledger.running :=
    (h.running_iff nodeId).mpr (Dict.mem_keys_iff.mpr ⟨task, htask⟩)
  have hother : ∀ n, n ≠ nodeId →
      latest job.jobId (s.saved ++ r.saved) n = latest job.jobId s.saved n := by
    intro n hn
    rcases hmove.saved hphase with hnone | ⟨c, hc, hof⟩
    · rw [hnone, List.append_nil]
    · rw [hc, latest_append hof, hid, if_neg hn]
  refine ⟨fun n c hc ↦ ?_, fun n hn ↦ ?_, fun n task' o htask' ho hstatus ↦ ?_⟩
  · rcases hmove.saved hphase with hnone | ⟨c', hc', hof⟩
    · have hsame : latest job.jobId (s.saved ++ r.saved) n = some c := hc
      rw [hnone, List.append_nil] at hsame
      exact hsaved.verdict n c hsame
    · have hlatest : latest job.jobId (s.saved ++ r.saved) n = some c := hc
      rw [hc', latest_append hof, hid] at hlatest
      split at hlatest
      · rename_i hn
        obtain rfl := Option.some.inj hlatest
        subst hn
        rw [ok_iff hnode]
        exact ⟨.inr (.inl hrunning), hof.verdict⟩
      · exact hsaved.verdict n c hlatest
  · have hne : n ≠ nodeId := by
      rintro rfl
      exact (h.books.running_open n hrunning).1 hn
    obtain ⟨c, hc, hcompleted⟩ := hsaved.completed n hn
    exact ⟨c, (hother n hne).trans hc, hcompleted⟩
  · have hget : (s.wave.modify nodeId fun task ↦ { task with phase := r.phase }).get? n =
        some task' := htask'
    obtain ⟨x, hx, rfl⟩ := Dict.get?_modify_eq_some hget
    by_cases hn : n = nodeId
    · rw [if_pos hn] at ho
      obtain ⟨c, hc, hcompleted⟩ := hmove.saved_completed ho hstatus
      rcases hmove.saved hphase with hnone | ⟨c', hc', hof⟩
      · exact nomatch hc.symm.trans hnone
      · obtain rfl := List.singleton_inj.mp (hc.symm.trans hc')
        refine ⟨c, ?_, hcompleted⟩
        have hlatest := latest_append hof s.saved n
        rw [hid, if_pos hn, ← hc] at hlatest
        exact hlatest
    · rw [if_neg hn] at ho
      obtain ⟨c, hc, hcompleted⟩ := hsaved.returned n x o hx ho hstatus
      exact ⟨c, (hother n hn).trans hc, hcompleted⟩

theorem SavedInv.nextWave (hsaved : SavedInv job s) : SavedInv job (job.nextWave s) where
  verdict n c hc := by
    obtain ⟨hstarted, hverdict⟩ := hsaved.verdict n c hc
    rw [ledger_nextWave]
    exact ⟨hstarted.imp_right (.imp_left (Finset.mem_union_left _)), hverdict⟩
  completed n hn := by
    rw [ledger_nextWave] at hn
    exact hsaved.completed n hn
  returned n task o htask ho := by
    rw [(get?_wave_nextWave.mp htask).1] at ho
    exact nomatch ho

theorem SavedInv.afterWave (hsaved : SavedInv job s) (h : StateInv job settled old reopened s)
    (hall : ∀ e ∈ s.wave.entries, e.2.phase.outcome?.isSome = true) :
    SavedInv job (s.afterWave job.graph) := by
  obtain ⟨hnext, hadvanced⟩ := h.afterWave hall
  refine ⟨fun n c hc ↦ ?_, fun n hn ↦ ?_, fun n task o htask ↦ nomatch htask⟩
  · obtain ⟨hstarted, hverdict⟩ := hsaved.verdict n c hc
    refine ⟨?_, hverdict⟩
    have hdecided := hadvanced.decided n
    simp only [Ledger.Started, Finset.notMem_empty, or_false, h.running_iff] at hstarted ⊢
    tauto
  · by_cases hwave : n ∈ s.wave.keys
    · -- The node was completed by the outcome of its task.
      obtain ⟨task, htask⟩ := Dict.mem_keys_iff.mp hwave
      obtain ⟨o, ho⟩ := Option.isSome_iff_exists.mp (hall _ (Dict.mem_entries_iff.mpr htask))
      have hphase := TaskPhase.outcome?_eq_some.mp ho
      have hok := hnext.books.completed_ok n hn
      obtain ⟨-, -, -, ⟨hstatus, -⟩ | ⟨-, hnot⟩⟩ := h.returned htask hphase
      · exact hsaved.returned n task o htask hphase hstatus
      · exact absurd hok hnot
    · have hbefore := ((hadvanced.decided n).mp (.inl hn)).resolve_left hwave
      refine hsaved.completed n (hbefore.resolve_right fun hfailed ↦ ?_)
      exact h.books.failed_not_ok n hfailed (hnext.books.completed_ok n hn)

theorem SavedInv.next (hsaved : SavedInv job s) (h : RunInv job settled old reopened s)
    {c : SchedulerChoice} (hnext : job.next? s c = some s') : SavedInv job s' := by
  cases c with
  | task nodeId =>
    obtain ⟨task, r, htask, hmove, rfl⟩ := taskStep_some hnext
    exact hsaved.afterStep h.toStateInv htask hmove
  | gather =>
    obtain ⟨-, hall, rfl⟩ := gather_some hnext
    exact (hsaved.afterWave h.toStateInv hall).nextWave

/-- What holds at every point of a run that does not resume. -/
theorem SavedInv.exec (job : SchedulerJob α) (schedule : List SchedulerChoice) :
    RunInv job ∅ ∅ ∅ (Run.exec job.step (job.start false []) schedule) ∧
      SavedInv job (Run.exec job.step (job.start false []) schedule) := by
  have hempty : SavedInv job ⟨Ledger.empty, Dict.empty, [], []⟩ :=
    ⟨fun n c hc ↦ absurd hc nofun, fun n hn ↦ absurd hn (Finset.notMem_empty n),
      fun n task o htask ↦ absurd htask nofun⟩
  refine Run.exec_invariant (P := fun s ↦ RunInv job ∅ ∅ ∅ s ∧ SavedInv job s) (fun s c _ hinv ↦ ?_)
    (Run.along_of_forall (fun _ _ ↦ trivial) _ schedule) ⟨RunInv.start job [], hempty.nextWave⟩
  rw [step]
  split
  · rename_i next hnext
    exact ⟨hinv.1.next hnext, hinv.2.next hinv.1 hnext⟩
  · exact hinv

/-! ## Every interruption -/

theorem SchedulerJob.NodeMove.saved_le {node : TaskNode} {outcomes : Dict String (TaskOutcome α)}
    {phase : TaskPhase α} {r : TaskStep α} (hmove : NodeMove job node outcomes phase r) :
    r.saved = [] ∨ ∃ c, r.saved = [c] := by
  cases hmove with
  | opens | tries | retries => exact .inl rfl
  | begins | succeeds | fails => exact .inr ⟨_, rfl⟩

/-- A choice saves at most one checkpoint. -/
theorem saved_step (s : SchedulerState α) (c : SchedulerChoice) :
    (job.step s c).2.saved = s.saved ∨ ∃ x, (job.step s c).2.saved = s.saved ++ [x] := by
  rw [step]
  split
  · rename_i next hnext
    cases c with
    | task nodeId =>
      obtain ⟨task, r, -, hmove, rfl⟩ := taskStep_some hnext
      rcases hmove.saved_le with hnone | ⟨c, hc⟩
      · refine .inl ?_
        rw [SchedulerState.afterStep, hnone, List.append_nil]
      · refine .inr ⟨c, ?_⟩
        rw [SchedulerState.afterStep, hc]
    | gather =>
      obtain ⟨-, -, rfl⟩ := gather_some hnext
      exact .inl rfl
  · exact .inl rfl

/-- **What is in the store after an interruption**, at whatever point of whatever run. -/
theorem checkpoints_of_isPrefix {schedule : List SchedulerChoice}
    {saved : List (CheckpointRecord α)}
    (hinitial : saved <+: (Run.exec job.step (job.start false []) schedule).saved)
    (hlisted : listed.Perm ((storeOf saved).listCheckpoints job.jobId "default")) :
    Checkpoints job.graph job.Ok listed := by
  obtain ⟨before, rfl⟩ := Run.exists_exec_of_isPrefix saved_step List.nil_prefix hinitial
  obtain ⟨hrun, hsaved⟩ := SavedInv.exec job before
  have hlatest : ∀ c, c ∈ listed ↔
      latest job.jobId (Run.exec job.step (job.start false []) before).saved c.nodeId = some c :=
    fun c ↦ hlisted.mem_iff.trans InMemoryCheckpointStore.mem_listCheckpoints
  refine ⟨?_, fun c hc ↦ ?_, fun c hc m hdep ↦ ?_, fun c hc ↦ ?_⟩
  · exact (hlisted.map CheckpointRecord.nodeId).nodup_iff.mpr
      (InMemoryCheckpointStore.nodup_listCheckpoints _ _ _)
  · exact hrun.books.known _ (hsaved.verdict _ c ((hlatest c).mp hc)).1
  · have hstarted := (hsaved.verdict _ c ((hlatest c).mp hc)).1
    obtain ⟨c', hc', hstatus⟩ := hsaved.completed m (hrun.books.deps _ m hstarted hdep)
    have hid : c'.nodeId = m := InMemoryCheckpointStore.nodeId_of_get?_jobRecords hc'
    exact mem_idsWith.mpr ⟨c', (hlatest c').mpr (hid ▸ hc'), hstatus, hid⟩
  · exact (hsaved.verdict _ c ((hlatest c).mp hc)).2

/-! ## Resume equivalence -/

/-- The second job is the first one once more: under the same id, with the same graph, and with
handlers each of which always succeeds or always fails. -/
structure Reruns (first second : SchedulerJob α) : Prop where
  jobId_eq : second.jobId = first.jobId
  graph_eq : second.graph = first.graph
  deterministic : ∀ n,
    (∀ k, (first.handlers n k).Succeeded ∧ (second.handlers n k).Succeeded) ∨
      ∀ k, ¬(first.handlers n k).Succeeded ∧ ¬(second.handlers n k).Succeeded

/-- An attempt has the same verdict in both. -/
theorem Reruns.attempt_iff {first second : SchedulerJob α} (h : Reruns first second)
    (node : TaskNode) (k : Nat) :
    (second.attempt node k).Succeeded ↔ (first.attempt node k).Succeeded := by
  rw [attempt, attempt]
  split_ifs
  · rcases h.deterministic node.nodeId with hsucceed | hfail
    · exact iff_of_true (hsucceed k).2 (hsucceed k).1
    · exact iff_of_false (hfail k).2 (hfail k).1
  · exact Iff.rfl

/-- A node has the same verdict in both. -/
theorem Reruns.ok_eq {first second : SchedulerJob α} (h : Reruns first second) :
    second.Ok = first.Ok := by
  funext n
  simp only [Ok, Succeeds, h.graph_eq, h.attempt_iff]

/-- **Resume equivalence**: the job that resumes from the checkpoints ends, starts no handler of a
node that is checkpointed as `COMPLETED`, and gives every node the status it has in `s`. -/
structure ResumesTo (job : SchedulerJob α) (listed : List (CheckpointRecord α))
    (s : SchedulerState α) : Prop where
  ends : ∃ bound, ∀ schedule, Run.Along job.step job.Enabled (job.start true listed) schedule →
    schedule.length ≤ bound
  goes_on : ∀ schedule, (Run.exec job.step (job.start true listed) schedule).Finished ∨
    ∃ c, job.Enabled (Run.exec job.step (job.start true listed) schedule) c
  not_started : ∀ schedule, ∀ c ∈ listed, c.status = .completed →
    (Run.exec job.step (job.start true listed) schedule).callCount c.nodeId = 0
  same : ∀ schedule, (Run.exec job.step (job.start true listed) schedule).Finished →
    ∀ n ∈ job.graph.nodeIds, ∃ status,
      (Run.exec job.step (job.start true listed) schedule).statusOf n = some status ∧
        s.statusOf n = some status

/-- Whatever depends on a node that is checkpointed as `FAILED` also depends on a node that fails
and is not. -/
def FailsAgain (graph : TaskGraph) (ok : String → Prop) (listed : List (CheckpointRecord α)) :
    Prop :=
  ∀ n m, TransGen graph.Dep n m → m ∈ idsWith .failed listed →
    ∃ g, TransGen graph.Dep n g ∧ Precedence.Fails graph.Dep ok g ∧ g ∉ idsWith .failed listed

/-- The handler of a node that was decided before is not started. -/
theorem StateInv.callCount_settled (h : StateInv job settled old reopened s) {n : String}
    (hn : n ∈ settled) : s.callCount n = 0 := by
  refine h.other_calls n (fun hwave ↦ ?_) fun _ ↦ hn
  obtain ⟨hcompleted, hfailed⟩ := h.open_of_mem_wave hwave
  exact (h.settled_decided n hn).elim hcompleted hfailed

/-- **When a resumed run gives the result of the uninterrupted one.**  Let a run of the first job
have finished, and let the store hold a prefix of what it saved.  Then the second job resumes to the
same result if and only if whatever depends on a node that is checkpointed as `FAILED` also depends
on a node that fails and is not: the failures that `execute` finds in the store cancel nothing. -/
theorem resumesTo_iff {first second : SchedulerJob α} (h : Reruns first second)
    {schedule : List SchedulerChoice}
    (hfinished : (Run.exec first.step (first.start false []) schedule).Finished)
    {saved : List (CheckpointRecord α)}
    (hinitial : saved <+: (Run.exec first.step (first.start false []) schedule).saved)
    (hlisted : listed.Perm ((storeOf saved).listCheckpoints first.jobId "default")) :
    ResumesTo second listed (Run.exec first.step (first.start false []) schedule) ↔
      FailsAgain second.graph second.Ok listed := by
  have hcheckpoints := checkpoints_of_isPrefix hinitial hlisted
  rw [← h.graph_eq, ← h.ok_eq] at hcheckpoints
  have hstart := RunInv.resume hcheckpoints
  have hfirst := (RunInv.start first []).exec schedule
  have hkeys : ∀ n, n ∈ second.graph.nodes.keys ↔ n ∈ first.graph.nodes.keys := fun n ↦ by
    rw [h.graph_eq]
  have hblocked : ∀ n, n ∈ (Run.exec first.step (first.start false []) schedule).ledger.cancelled ↔
      Precedence.Blocked second.graph.Dep second.Ok n := fun n ↦ by
    rw [h.graph_eq, h.ok_eq]
    exact hfirst.cancelled_iff hfinished
  constructor
  · intro hresumes n m hreach hm
    obtain ⟨after, hend⟩ := hstart.exists_finished
    have hsecond := hstart.exec after
    obtain ⟨hn, hmkey⟩ := TaskGraph.mem_keys_of_transGen hreach
    have hfails := (hsecond.failed_iff hend hmkey).mp (hsecond.books.old_failed m hm)
    obtain ⟨status, hstatus, hstatus'⟩ := hresumes.same after hend n hn
    rw [hfirst.statusOf_eq_cancelled.mpr ((hblocked n).mpr ⟨m, hreach, hfails⟩)] at hstatus'
    obtain rfl := Option.some.inj hstatus'
    obtain ⟨g, hg, hnew, hreach⟩ :=
      (hsecond.books.cancelled_iff n).mp (hsecond.statusOf_eq_cancelled.mp hstatus)
    have hgkey := (TaskGraph.mem_keys_of_transGen hreach).2
    exact ⟨g, hreach, (hsecond.failed_iff hend hgkey).mp hg, hnew⟩
  · intro hagain
    refine ⟨⟨_, fun after henabled ↦ hstart.length_le henabled⟩,
      fun after ↦ Classical.or_iff_not_imp_left.mpr (second.exists_enabled _),
      fun after c hc hstatus ↦ ?_, fun after hend n hn ↦ ?_⟩
    · have hmem : c.nodeId ∈ idsWith .completed listed := mem_idsWith.mpr ⟨c, hc, hstatus, rfl⟩
      exact (hstart.exec after).callCount_settled (Finset.mem_union_left _ hmem)
    · have hsecond := hstart.exec after
      rcases hfirst.decided hfinished ((hkeys n).mp hn) with hcompleted | hfailed | hcancelled
      · refine ⟨.completed, ?_, hfirst.statusOf_eq_completed.mpr hcompleted⟩
        rw [hfirst.completed_iff hfinished ((hkeys n).mp hn), ← h.graph_eq, ← h.ok_eq] at hcompleted
        exact hsecond.statusOf_eq_completed.mpr ((hsecond.completed_iff hend hn).mpr hcompleted)
      · refine ⟨.failed, ?_, hfirst.statusOf_eq_failed.mpr hfailed⟩
        rw [hfirst.failed_iff hfinished ((hkeys n).mp hn), ← h.graph_eq, ← h.ok_eq] at hfailed
        exact hsecond.statusOf_eq_failed.mpr ((hsecond.failed_iff hend hn).mpr hfailed)
      · refine ⟨.cancelled, hsecond.statusOf_eq_cancelled.mpr ?_,
          hfirst.statusOf_eq_cancelled.mpr hcancelled⟩
        rw [hsecond.books.cancelled_iff]
        -- A failure that was found in the store does not cancel the node, but another one does.
        have hnew : ∃ g, TransGen second.graph.Dep n g ∧
            Precedence.Fails second.graph.Dep second.Ok g ∧ g ∉ idsWith .failed listed := by
          obtain ⟨m, hreach, hfails⟩ := (hblocked n).mp hcancelled
          by_cases hm : m ∈ idsWith .failed listed
          · exact hagain n m hreach hm
          · exact ⟨m, hreach, hfails, hm⟩
        obtain ⟨g, hreach, hfails, hg⟩ := hnew
        have hgkey := (TaskGraph.mem_keys_of_transGen hreach).2
        exact ⟨g, (hsecond.failed_iff hend hgkey).mpr hfails, hg, hreach⟩

/-- The chain at the end of its run. -/
def brokenChainEnd : SchedulerState Unit :=
  Run.exec brokenChain.step (brokenChain.start false []) brokenChainRun

theorem reruns_brokenChain : Reruns brokenChain brokenChain where
  jobId_eq := rfl
  graph_eq := rfl
  deterministic n := by
    by_cases hn : n = "a"
    · exact .inr fun k ↦ by simp [brokenChain, hn, HandlerResult.Succeeded]
    · exact .inl fun k ↦ by simp [brokenChain, hn, HandlerResult.Succeeded]

/-- Interrupted before its handler has failed, the chain resumes to its result. -/
theorem resumesTo_brokenChain :
    ResumesTo brokenChain ((storeOf (brokenChainEnd.saved.take 1)).listCheckpoints "job" "default")
      brokenChainEnd := by
  have hfinished : brokenChainEnd.Finished := rfl
  refine (resumesTo_iff reruns_brokenChain hfinished (List.take_prefix 1 _) (.refl _)).mpr ?_
  have hnone : idsWith .failed
      ((storeOf (brokenChainEnd.saved.take 1)).listCheckpoints "job" "default") = ∅ := by decide
  intro n m _ hm
  exact absurd (hnone.subset hm) (Finset.notMem_empty m)

/-- **A failure that is found in the store cancels nothing.**  The first node of the chain fails and
the second is cancelled.  When it resumes from all its checkpoints, the second has no outcome. -/
theorem not_resumesTo_brokenChain :
    Reruns brokenChain brokenChain ∧ brokenChainEnd.Finished ∧
      ¬ResumesTo brokenChain
        ((storeOf brokenChainEnd.saved).listCheckpoints "job" "default") brokenChainEnd := by
  refine ⟨reruns_brokenChain, rfl, fun h ↦ ?_⟩
  obtain ⟨status, hstatus, -⟩ := h.same [] rfl "b" (by decide)
  have hnone : (Run.exec brokenChain.step (brokenChain.start true
      ((storeOf brokenChainEnd.saved).listCheckpoints "job" "default")) []).statusOf "b" =
      none := by decide
  exact nomatch hnone.symm.trans hstatus

end Core
end ExoBrain
