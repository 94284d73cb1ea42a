import Mathlib.Algebra.Order.BigOperators.Group.List
import Mathlib.Algebra.Order.Group.Nat
import ExoBrain.Core.SchedulerRuns

/-!
# The result of the scheduler

A run ends, and it does not matter in which order the tasks of a wave take their steps.

* `SchedulerJob.remaining` bounds the steps that are left: a wave's tasks by their phases, a node
  that is not decided by all the steps it could take, and a node that is decided by nothing.
* `RunInv.completed_iff`, `RunInv.failed_iff` and `RunInv.cancelled_iff` say what the result is.  It
  is the one that `Precedence` computes from the graph and the verdicts on the nodes.
* `execute_complete` is the theorem about `execute` without `resume`.
-/

set_option autoImplicit false

namespace ExoBrain
namespace Core

open Relation SchedulerJob

variable {α : Type} {job : SchedulerJob α} {s s' : SchedulerState α}
  {settled old reopened : Finset String}

/-! ## Runs end -/

/-- A bound on the steps that are still taken for a node. -/
def SchedulerState.nodeWeight (s : SchedulerState α) (n : String) (node : TaskNode) : Nat :=
  match s.wave.get? n with
  | some task => weight node.maxAttempts task.phase
  | none =>
    if n ∈ s.ledger.completed ∨ n ∈ s.ledger.failed then 0 else 2 * node.maxAttempts + 4

/-- A bound on the steps that are still taken. -/
def SchedulerJob.remaining (job : SchedulerJob α) (s : SchedulerState α) : Nat :=
  (job.graph.nodes.entries.map fun e ↦ s.nodeWeight e.1 e.2).sum

theorem nodeWeight_of_mem {n : String} {task : WaveTask α} (h : s.wave.get? n = some task)
    (node : TaskNode) : s.nodeWeight n node = weight node.maxAttempts task.phase := by
  rw [SchedulerState.nodeWeight, h]

theorem nodeWeight_of_not_mem {n : String} (h : n ∉ s.wave.keys) (node : TaskNode) :
    s.nodeWeight n node =
      if n ∈ s.ledger.completed ∨ n ∈ s.ledger.failed then 0 else 2 * node.maxAttempts + 4 := by
  rw [SchedulerState.nodeWeight, Dict.get?_eq_none_iff.mpr h]

/-- A task's step brings it nearer to its end. -/
theorem StateInv.remaining_afterStep (h : StateInv job settled old reopened s) {nodeId : String}
    {task : WaveTask α} {r : TaskStep α} (htask : s.wave.get? nodeId = some task)
    (hmove : NodeMove job task.node s.ledger.outcomes task.phase r) :
    job.remaining (s.afterStep nodeId r) < job.remaining s := by
  obtain ⟨hnode, hphase⟩ := h.task nodeId task htask
  have hself : (s.afterStep nodeId r).wave.get? nodeId = some { task with phase := r.phase } := by
    rw [SchedulerState.afterStep, Dict.get?_modify, if_pos rfl, htask, Option.map_some]
  have hother : ∀ n, n ≠ nodeId → (s.afterStep nodeId r).wave.get? n = s.wave.get? n := fun n hn ↦ by
    rw [SchedulerState.afterStep, Dict.get?_modify, if_neg hn]
  have hlt : (s.afterStep nodeId r).nodeWeight nodeId task.node < s.nodeWeight nodeId task.node := by
    rw [nodeWeight_of_mem hself, nodeWeight_of_mem htask]
    exact hmove.weight_lt hphase
  refine List.sum_lt_sum _ _ (fun e he ↦ ?_) ⟨_, Dict.mem_entries_iff.mpr hnode, hlt⟩
  by_cases hn : e.1 = nodeId
  · obtain ⟨n, node⟩ := e
    obtain rfl : n = nodeId := hn
    obtain rfl := Option.some.inj (hnode.symm.trans (Dict.mem_entries_iff.mp he))
    exact hlt.le
  · refine le_of_eq ?_
    rw [SchedulerState.nodeWeight, SchedulerState.nodeWeight, hother e.1 hn]
    rfl

/-- A node of the next wave has come one step nearer to its end. -/
theorem nodeWeight_nextWave_le (hwave : s.wave = Dict.empty) (n : String) (node : TaskNode) :
    (job.nextWave s).nodeWeight n node ≤ s.nodeWeight n node := by
  have hold : n ∉ s.wave.keys := by
    rw [hwave]
    exact List.not_mem_nil
  rw [nodeWeight_of_not_mem hold]
  cases hget : (job.nextWave s).wave.get? n with
  | none =>
    rw [nodeWeight_of_not_mem (Dict.get?_eq_none_iff.mp hget), ledger_nextWave]
  | some task =>
    obtain ⟨hwaiting, -, hcompleted, -, hfailed, -⟩ := get?_wave_nextWave.mp hget
    rw [nodeWeight_of_mem hget, hwaiting, if_neg (not_or.mpr ⟨hcompleted, hfailed⟩)]
    exact Nat.le_succ _

/-- The end of a wave is the end of its nodes. -/
theorem StateInv.remaining_nextWave (h : StateInv job settled old reopened s)
    (hsome : s.wave.entries ≠ []) (hall : ∀ e ∈ s.wave.entries, e.2.phase.outcome?.isSome = true) :
    job.remaining (job.nextWave (s.afterWave job.graph)) < job.remaining s := by
  have hdecided := (h.afterWave hall).2.decided
  have hfree : ∀ n, n ∉ (s.afterWave job.graph).wave.keys := fun n ↦ List.not_mem_nil
  -- A node of the wave has one step left before, and none after.
  have hlt : ∀ n node, n ∈ s.wave.keys →
      (job.nextWave (s.afterWave job.graph)).nodeWeight n node < s.nodeWeight n node := by
    intro n node hn
    refine (nodeWeight_nextWave_le rfl n node).trans_lt ?_
    obtain ⟨task, htask⟩ := Dict.mem_keys_iff.mp hn
    obtain ⟨o, ho⟩ := Option.isSome_iff_exists.mp (hall _ (Dict.mem_entries_iff.mpr htask))
    rw [nodeWeight_of_not_mem (hfree n), if_pos ((hdecided n).mpr (.inl hn)),
      nodeWeight_of_mem htask, TaskPhase.outcome?_eq_some.mp ho]
    exact Nat.one_pos
  obtain ⟨first, hfirst⟩ := List.exists_mem_of_ne_nil _ hsome
  have hmem : first.1 ∈ s.wave.keys := List.mem_map_of_mem hfirst
  have hnode := (h.task first.1 first.2 (Dict.mem_entries_iff.mp hfirst)).1
  refine List.sum_lt_sum _ _ (fun e he ↦ ?_) ⟨_, Dict.mem_entries_iff.mpr hnode, hlt _ _ hmem⟩
  by_cases hn : e.1 ∈ s.wave.keys
  · exact (hlt e.1 e.2 hn).le
  · refine (nodeWeight_nextWave_le rfl e.1 e.2).trans (le_of_eq ?_)
    rw [nodeWeight_of_not_mem (hfree e.1), nodeWeight_of_not_mem hn]
    refine if_congr ((hdecided e.1).trans ?_) rfl rfl
    exact or_iff_right hn

/-- **Every choice brings a run nearer to its end.** -/
theorem StateInv.remaining_lt (h : StateInv job settled old reopened s) {c : SchedulerChoice}
    (hnext : job.next? s c = some s') : job.remaining s' < job.remaining s := by
  cases c with
  | task nodeId =>
    obtain ⟨task, r, htask, hmove, rfl⟩ := taskStep_some hnext
    exact h.remaining_afterStep htask hmove
  | gather =>
    obtain ⟨hsome, hall, rfl⟩ := gather_some hnext
    exact h.remaining_nextWave hsome hall

/-- The event loop has the choice. -/
def SchedulerJob.Enabled (job : SchedulerJob α) (s : SchedulerState α) (c : SchedulerChoice) :
    Prop :=
  (job.next? s c).isSome = true

/-- **Runs end**: there is a bound on the choices that can be made one after the other. -/
theorem RunInv.length_le (h : RunInv job settled old reopened s)
    {schedule : List SchedulerChoice} (henabled : Run.Along job.step job.Enabled s schedule) :
    schedule.length ≤ job.remaining s := by
  refine Run.length_le_of_decreasing (fun s c hc hinv ↦ ?_) henabled h
  obtain ⟨s', hnext⟩ := Option.isSome_iff_exists.mp hc
  rw [step_of_next? hnext]
  exact ⟨hinv.next hnext, hinv.remaining_lt hnext⟩

/-- **Runs do not get stuck**: until the result is there, the event loop has something to do. -/
theorem SchedulerJob.exists_enabled (job : SchedulerJob α) (s : SchedulerState α)
    (hopen : ¬s.Finished) : ∃ c, job.Enabled s c := by
  have hrun : ∀ e ∈ s.wave.entries, e.2.phase.outcome? = none →
      (e.2.phase.isWaiting && decide (job.maxConcurrency ≤ s.active)) = false →
      job.Enabled s (.task e.1) := by
    intro e he hphase hslot
    rw [Enabled, next?, taskStep, Dict.mem_entries_iff.mp he]
    simp only [hslot, Bool.false_eq_true, if_false, Option.isSome_map]
    exact runNode_isSome hphase
  by_cases hholds : ∃ e ∈ s.wave.entries, e.2.phase.holdsSlot = true
  · -- A task in its slot can always go on.
    obtain ⟨e, he, hphase⟩ := hholds
    refine ⟨_, hrun e he ?_ ?_⟩
    · cases hp : e.2.phase <;> simp_all [TaskPhase.holdsSlot, TaskPhase.outcome?]
    · cases hp : e.2.phase <;> simp_all [TaskPhase.holdsSlot, TaskPhase.isWaiting]
  · have hactive : s.active = 0 := by
      rw [SchedulerState.active, List.countP_eq_zero]
      exact fun e he hphase ↦ hholds ⟨e, he, hphase⟩
    by_cases hall : ∀ e ∈ s.wave.entries, e.2.phase.outcome?.isSome = true
    · refine ⟨.gather, ?_⟩
      rw [Enabled, next?, gather, if_pos ⟨hopen, hall⟩]
      rfl
    · -- All slots are free, and there is a task that has not returned.
      push Not at hall
      obtain ⟨e, he, hphase⟩ := hall
      refine ⟨_, hrun e he ?_ ?_⟩
      · simpa using hphase
      · rw [hactive, decide_eq_false (Nat.not_le_of_lt job.concurrency_pos), Bool.and_false]

/-- Some run comes to a result. -/
theorem RunInv.exists_finished (h : RunInv job settled old reopened s) :
    ∃ schedule, (Run.exec job.step s schedule).Finished := by
  refine Run.exists_exec_of_decreasing (μ := job.remaining) (fun s hinv hopen ↦ ?_) h
  obtain ⟨c, hc⟩ := job.exists_enabled s hopen
  obtain ⟨s', hnext⟩ := Option.isSome_iff_exists.mp hc
  refine ⟨c, ?_⟩
  rw [step_of_next? hnext]
  exact ⟨hinv.next hnext, hinv.remaining_lt hnext⟩

/-! ## The result -/

namespace SchedulerState

/-- The status of a node in the result. -/
def statusOf (s : SchedulerState α) (n : String) : Option TaskStatus :=
  (s.ledger.outcomes.get? n).map TaskOutcome.status

/-- The output of a node that is completed. -/
def outputOf (s : SchedulerState α) (n : String) : Option (Dict String α) :=
  completedOutput s.ledger.outcomes n

end SchedulerState

/-- The start of a handler was in order: all dependencies of its node are completed, and their
outputs are what the handler finds under `dependencies`. -/
structure StartedInOrder (job : SchedulerJob α) (s : SchedulerState α) (c : HandlerCall α) :
    Prop where
  known : c.nodeId ∈ job.graph.nodeIds
  completed : ∀ m, job.graph.Dep c.nodeId m → s.statusOf m = some .completed
  input : ∃ outputs, c.input.get? "dependencies" = some (.dependencies outputs) ∧
    ∀ m output, outputs.get? m = some output ↔
      job.graph.Dep c.nodeId m ∧ s.outputOf m = some output

/-- The result is complete. -/
structure CompleteResult (job : SchedulerJob α) (s : SchedulerState α) : Prop where
  /-- There is an outcome for every node, and for nothing else. -/
  outcome : ∀ n, n ∈ s.ledger.outcomes.keys ↔ n ∈ job.graph.nodeIds
  decided : ∀ n ∈ job.graph.nodeIds, s.statusOf n = some .completed ∨
    s.statusOf n = some .failed ∨ s.statusOf n = some .cancelled
  started_iff : ∀ n, s.statusOf n = some .completed ∨ s.statusOf n = some .failed ↔
    0 < s.callCount n
  cancelled_iff : ∀ n, s.statusOf n = some .cancelled ↔
    ∃ m, TransGen job.graph.Dep n m ∧ s.statusOf m = some .failed

theorem StateInv.statusOf_eq_completed (h : StateInv job settled old reopened s) {n : String} :
    s.statusOf n = some .completed ↔ n ∈ s.ledger.completed := h.books.status_eq_completed

theorem StateInv.statusOf_eq_failed (h : StateInv job settled old reopened s) {n : String} :
    s.statusOf n = some .failed ↔ n ∈ s.ledger.failed := h.books.status_eq_failed

theorem StateInv.statusOf_eq_cancelled (h : StateInv job settled old reopened s) {n : String} :
    s.statusOf n = some .cancelled ↔ n ∈ s.ledger.cancelled := h.books.status_eq_cancelled

/-- Handlers are started in order. -/
theorem StateInv.startedInOrder (h : StateInv job settled old reopened s) {c : HandlerCall α}
    (hc : c ∈ s.calls) : StartedInOrder job s c := by
  obtain ⟨node, hnode, hdeps, hinput⟩ := h.call c hc
  have hcompleted : ∀ m, job.graph.Dep c.nodeId m → s.statusOf m = some .completed :=
    fun m hdep ↦ h.statusOf_eq_completed.mpr (hdeps m hdep)
  refine ⟨Dict.mem_keys_iff.mpr ⟨node, hnode⟩, hcompleted, _,
    (congrArg (fun d ↦ d.get? "dependencies") hinput).trans (dependencies_buildInputPayload ..),
    fun m output ↦ ?_⟩
  rw [get?_collectOutputs, Dict.get?_empty, Option.or_none, TaskGraph.dep_iff hnode]
  by_cases hdep : m ∈ node.dependsOn
  · rw [if_pos hdep]
    exact (and_iff_right hdep).symm
  · rw [if_neg hdep]
    exact iff_of_false nofun fun h ↦ hdep h.1

/-- No handler is started more often than its node allows. -/
theorem StateInv.callCount_le (h : StateInv job settled old reopened s) {n : String}
    {node : TaskNode} (hnode : job.graph.nodes.get? n = some node) :
    s.callCount n ≤ node.maxAttempts := by
  by_cases hwave : n ∈ s.wave.keys
  · obtain ⟨task, htask⟩ := Dict.mem_keys_iff.mp hwave
    obtain ⟨hnode', hphase⟩ := h.task n task htask
    obtain rfl := Option.some.inj (hnode.symm.trans hnode')
    rw [h.running_calls n task htask, started]
    have hmade : made task.phase ≤ task.node.maxAttempts := by
      cases hp : task.phase <;> rw [hp] at hphase
      · exact Nat.zero_le _
      · exact Nat.zero_le _
      · exact hphase.2.1.le
      · exact hphase.2.2.1
      · exact hphase.2.2.1
    split_ifs
    · exact hmade
    · exact Nat.zero_le _
  · by_cases hnew : (n ∈ s.ledger.completed ∨ n ∈ s.ledger.failed) ∧ n ∉ settled
    · exact (h.decided_calls n node hnode hnew.1 hnew.2).2
    · rw [h.other_calls n hwave fun hdecided ↦ by_contra fun hn ↦ hnew ⟨hdecided, hn⟩]
      exact Nat.zero_le _

/-- In the end, everything that could be started is decided. -/
theorem RunInv.closed (h : RunInv job settled old reopened s) (hfinished : s.Finished) :
    Precedence.Books.Closed job.graph.Dep (· ∈ job.graph.nodes.keys) (· ∈ s.ledger.completed)
      (· ∈ s.ledger.failed) := by
  intro n hn hdeps
  rcases h.complete n hn hdeps with hcompleted | hfailed | hwave
  · exact .inl hcompleted
  · exact .inr hfailed
  · obtain ⟨e, he, -⟩ := List.mem_map.mp hwave
    rw [hfinished] at he
    exact absurd he List.not_mem_nil

/-- **The nodes that are completed in the end** are those that complete. -/
theorem RunInv.completed_iff (h : RunInv job settled old reopened s) (hfinished : s.Finished)
    {n : String} (hn : n ∈ job.graph.nodes.keys) :
    n ∈ s.ledger.completed ↔ Precedence.Completes job.graph.Dep job.Ok n :=
  h.books.books.completed_iff job.graph.acyclic job.graph.known (h.closed hfinished) hn

/-- **The nodes that are failed in the end** are those that fail. -/
theorem RunInv.failed_iff (h : RunInv job settled old reopened s) (hfinished : s.Finished)
    {n : String} (hn : n ∈ job.graph.nodes.keys) :
    n ∈ s.ledger.failed ↔ Precedence.Fails job.graph.Dep job.Ok n :=
  h.books.books.failed_iff job.graph.acyclic job.graph.known (h.closed hfinished) hn

theorem TaskGraph.mem_keys_of_transGen {graph : TaskGraph} {n m : String}
    (h : TransGen graph.Dep n m) : n ∈ graph.nodes.keys ∧ m ∈ graph.nodes.keys := by
  obtain ⟨k, hdep, -⟩ := TransGen.head'_iff.mp h
  obtain ⟨k', -, hdep'⟩ := TransGen.tail'_iff.mp h
  exact ⟨mem_keys_of_dependsOn hdep, graph.known k' m hdep'⟩

/-- The nodes that are cancelled in the end, if the run did not find any that had failed. -/
theorem RunInv.cancelled_iff (h : RunInv job settled ∅ reopened s) (hfinished : s.Finished)
    {n : String} : n ∈ s.ledger.cancelled ↔ Precedence.Blocked job.graph.Dep job.Ok n := by
  rw [h.books.cancelled_iff]
  constructor
  · rintro ⟨m, hm, -, hreach⟩
    exact ⟨m, hreach, (h.failed_iff hfinished (TaskGraph.mem_keys_of_transGen hreach).2).mp hm⟩
  · rintro ⟨m, hreach, hfails⟩
    have hm := (h.failed_iff hfinished (TaskGraph.mem_keys_of_transGen hreach).2).mpr hfails
    exact ⟨m, hm, Finset.notMem_empty m, hreach⟩

/-- In the end, every node is completed, failed or cancelled, if the run did not find any that had
failed. -/
theorem RunInv.decided (h : RunInv job settled ∅ reopened s) (hfinished : s.Finished) {n : String}
    (hn : n ∈ job.graph.nodes.keys) :
    n ∈ s.ledger.completed ∨ n ∈ s.ledger.failed ∨ n ∈ s.ledger.cancelled := by
  rw [h.completed_iff hfinished hn, h.failed_iff hfinished hn, h.cancelled_iff hfinished]
  exact Precedence.completes_or_fails_or_blocked job.graph.acyclic n

/-- The result of a run that did not resume. -/
theorem RunInv.completeResult (h : RunInv job ∅ ∅ ∅ s) (hfinished : s.Finished)
    (htimeout : ∀ n node, job.graph.nodes.get? n = some node → 0 < node.timeoutMs) :
    CompleteResult job s where
  outcome n := by
    rw [h.books.mem_keys_outcomes]
    constructor
    · rintro (hn | hn | hn | hn)
      · exact h.books.known n (.inl hn)
      · exact h.books.known n (.inr (.inr (.inl hn)))
      · obtain ⟨m, -, -, hreach⟩ := (h.books.cancelled_iff n).mp hn
        exact (TaskGraph.mem_keys_of_transGen hreach).1
      · exact absurd hn (Finset.notMem_empty n)
    · intro hn
      have hdecided := h.decided hfinished hn
      tauto
  decided n hn := by
    rw [h.statusOf_eq_completed, h.statusOf_eq_failed, h.statusOf_eq_cancelled]
    exact h.decided hfinished hn
  started_iff n := by
    rw [h.statusOf_eq_completed, h.statusOf_eq_failed]
    constructor
    · intro hdecided
      have hn : n ∈ job.graph.nodes.keys :=
        h.books.known n (hdecided.imp_right fun hfailed ↦ .inr (.inl hfailed))
      obtain ⟨node, hnode⟩ := Dict.mem_keys_iff.mp hn
      exact (h.decided_calls n node hnode hdecided (Finset.notMem_empty n)).1 (htimeout n node hnode)
    · intro hcalled
      by_contra hopen
      refine hcalled.ne' (h.other_calls n (fun hwave ↦ ?_) fun hdecided ↦ absurd hdecided hopen)
      obtain ⟨e, he, -⟩ := List.mem_map.mp hwave
      rw [hfinished] at he
      exact List.not_mem_nil he
  cancelled_iff n := by
    rw [h.statusOf_eq_cancelled, h.books.cancelled_iff]
    simp only [h.statusOf_eq_failed, Finset.notMem_empty, not_false_eq_true, true_and, and_comm]

/-- **A run of the scheduler that does not resume ends, and decides every node.**  Let no timeout be
zero or negative.  Then there is a bound on the choices that can be made one after the other, and at
every point of a run there is one, or the result is there.  Every handler was started in order, and
no more often than its node allows.  The result has one outcome for each node, of status
`COMPLETED` or `FAILED` if and only if its handler was started, and of status `CANCELLED` if and only
if something it depends on, directly or not, is `FAILED`. -/
theorem execute_complete (job : SchedulerJob α) (listed : List (CheckpointRecord α))
    (htimeout : ∀ n node, job.graph.nodes.get? n = some node → 0 < node.timeoutMs) :
    (∃ bound, ∀ schedule, Run.Along job.step job.Enabled (job.start false listed) schedule →
      schedule.length ≤ bound) ∧
    ∀ schedule,
      let s := Run.exec job.step (job.start false listed) schedule
      (s.Finished ∨ ∃ c, job.Enabled s c) ∧
      (∀ c ∈ s.calls, StartedInOrder job s c) ∧
      (∀ n node, job.graph.nodes.get? n = some node →
        (s.callCount n : Int) ≤ max 1 (node.retryLimit + 1)) ∧
      (s.Finished → CompleteResult job s) := by
  have hstart := RunInv.start job listed
  refine ⟨⟨_, fun schedule henabled ↦ hstart.length_le henabled⟩, fun schedule ↦ ?_⟩
  have hrun := hstart.exec schedule
  refine ⟨Classical.or_iff_not_imp_left.mpr (job.exists_enabled _),
    fun c hc ↦ hrun.startedInOrder hc, fun n node hnode ↦ ?_,
    fun hfinished ↦ hrun.completeResult hfinished htimeout⟩
  have hle := hrun.callCount_le hnode
  rw [TaskNode.maxAttempts] at hle
  omega

/-- Two nodes, the second of which depends on the first. -/
def chain : TaskGraph :=
  (TaskGraph.new [{ nodeId := "a" }, { nodeId := "b", dependsOn := ["a"] }]).toOption.get (by decide)

/-- A job over them whose first handler always fails. -/
def brokenChain : SchedulerJob Unit where
  jobId := "job"
  graph := chain
  initialPayload := Dict.empty
  maxConcurrency := 1
  concurrency_pos := Nat.one_pos
  handlers n _ := if n = "a" then .raised "boom" else .returned Dict.empty

/-- All that the event loop does for it. -/
def brokenChainRun : List SchedulerChoice :=
  [.task "a", .task "a", .task "a", .task "a", .gather]

theorem timeoutMs_pos_chain (n : String) (node : TaskNode) (h : chain.nodes.get? n = some node) :
    0 < node.timeoutMs := by
  have hall : ∀ e ∈ chain.nodes.entries, 0 < e.2.timeoutMs := by decide
  exact hall (n, node) (Dict.mem_entries_iff.mpr h)

theorem execute_complete_brokenChain :
    CompleteResult brokenChain
      (Run.exec brokenChain.step (brokenChain.start false []) brokenChainRun) :=
  ((execute_complete brokenChain [] timeoutMs_pos_chain).2 brokenChainRun).2.2.2 rfl

end Core
end ExoBrain
