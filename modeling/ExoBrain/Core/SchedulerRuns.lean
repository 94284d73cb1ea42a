import ExoBrain.Core.SchedulerTasks

/-!
# Runs of the scheduler

`StateInv` is what holds between any two choices of the event loop: the books are sound, the running
nodes are those of the wave, every task is where its phase says it is, and the starts of every
handler are counted by the phase of its task, by the outcome of its node, or were never made.
`RunInv` adds that every node that could be started was started.

A choice is a step of a task or the end of a wave.  `StateInv.afterStep` is about the one,
`StateInv.afterWave` and `StateInv.nextWave` about the two halves of the other, and `RunInv.exec` puts
them together for any list of choices.  The invariant is about runs that resume as well; what they
found is in its three parameters.
-/

set_option autoImplicit false

namespace ExoBrain
namespace Core

open Relation SchedulerJob

variable {α : Type}

/-! ## What one choice does -/

namespace SchedulerState

/-- How often the handler of a node was started. -/
def callCount (s : SchedulerState α) (n : String) : Nat := s.calls.countP fun c ↦ c.nodeId = n

/-- The state after a task of the wave took a step. -/
def afterStep (s : SchedulerState α) (nodeId : String) (r : TaskStep α) : SchedulerState α :=
  { s with
    wave := s.wave.modify nodeId fun task ↦ { task with phase := r.phase }
    saved := s.saved ++ r.saved
    calls := s.calls ++ r.calls }

/-- The state after the outcomes of the wave were entered. -/
def afterWave (s : SchedulerState α) (graph : TaskGraph) : SchedulerState α :=
  { s with
    ledger := s.waveOutcomes.foldl graph.recordOutcome s.ledger
    wave := Dict.empty }

end SchedulerState

variable {job : SchedulerJob α} {s s' : SchedulerState α}

theorem SchedulerJob.taskStep_some {nodeId : String} (h : job.taskStep nodeId s = some s') :
    ∃ task r, s.wave.get? nodeId = some task ∧
      NodeMove job task.node s.ledger.outcomes task.phase r ∧ s' = s.afterStep nodeId r := by
  rw [taskStep] at h
  split at h
  · exact nomatch h
  · rename_i task htask
    split at h
    · exact nomatch h
    · obtain ⟨r, hr, rfl⟩ := Option.map_eq_some_iff.mp h
      exact ⟨task, r, htask, runNode_move hr, rfl⟩

theorem SchedulerJob.gather_some (h : job.gather s = some s') :
    s.wave.entries ≠ [] ∧ (∀ e ∈ s.wave.entries, e.2.phase.outcome?.isSome = true) ∧
      s' = job.nextWave (s.afterWave job.graph) := by
  rw [gather] at h
  split at h
  · rename_i hready
    exact ⟨hready.1, hready.2, (Option.some.inj h).symm⟩
  · exact nomatch h

/-! ## The invariant -/

/-- **What holds between any two choices.**  `settled` are the nodes that were decided before the
run, and `old` the ones of them that had failed; `reopened` are those the run found running. -/
structure StateInv (job : SchedulerJob α) (settled old reopened : Finset String)
    (s : SchedulerState α) : Prop where
  books : s.ledger.Sound job.graph job.Ok old reopened
  running_iff : ∀ n, n ∈ s.ledger.running ↔ n ∈ s.wave.keys
  task : ∀ n task, s.wave.get? n = some task → job.graph.nodes.get? n = some task.node ∧
    PhaseInv job task.node s.ledger.outcomes task.phase
  settled_decided : ∀ n ∈ settled, n ∈ s.ledger.completed ∨ n ∈ s.ledger.failed
  /-- A handler is started when its dependencies are completed, with their outputs. -/
  call : ∀ c ∈ s.calls, ∃ node, job.graph.nodes.get? c.nodeId = some node ∧
    (∀ m, job.graph.Dep c.nodeId m → m ∈ s.ledger.completed) ∧
    c.input = job.buildInputPayload node s.ledger.outcomes
  running_calls : ∀ n task, s.wave.get? n = some task →
    s.callCount n = started task.node task.phase
  decided_calls : ∀ n node, job.graph.nodes.get? n = some node →
    n ∈ s.ledger.completed ∨ n ∈ s.ledger.failed → n ∉ settled →
    (0 < node.timeoutMs → 0 < s.callCount n) ∧ s.callCount n ≤ node.maxAttempts
  other_calls : ∀ n, n ∉ s.wave.keys →
    (n ∈ s.ledger.completed ∨ n ∈ s.ledger.failed → n ∈ settled) → s.callCount n = 0

/-- Every node that could be started was started. -/
def WavesComplete (job : SchedulerJob α) (s : SchedulerState α) : Prop :=
  ∀ n, n ∈ job.graph.nodes.keys → (∀ m, job.graph.Dep n m → m ∈ s.ledger.completed) →
    n ∈ s.ledger.completed ∨ n ∈ s.ledger.failed ∨ n ∈ s.wave.keys

/-- What holds at every point of a run. -/
structure RunInv (job : SchedulerJob α) (settled old reopened : Finset String)
    (s : SchedulerState α) : Prop extends StateInv job settled old reopened s where
  complete : WavesComplete job s

variable {settled old reopened : Finset String}

/-- A node of the wave is undecided. -/
theorem StateInv.open_of_mem_wave (h : StateInv job settled old reopened s) {n : String}
    (hn : n ∈ s.wave.keys) : n ∉ s.ledger.completed ∧ n ∉ s.ledger.failed :=
  h.books.running_open n ((h.running_iff n).mpr hn)

/-- **A step of a task keeps the invariant.** -/
theorem StateInv.afterStep (h : StateInv job settled old reopened s) {nodeId : String}
    {task : WaveTask α} {r : TaskStep α} (htask : s.wave.get? nodeId = some task)
    (hmove : NodeMove job task.node s.ledger.outcomes task.phase r) :
    StateInv job settled old reopened (s.afterStep nodeId r) := by
  obtain ⟨hnode, hphase⟩ := h.task nodeId task htask
  have hid : task.node.nodeId = nodeId := job.graph.nodeId_eq nodeId task.node hnode
  have hkeys : (s.afterStep nodeId r).wave.keys = s.wave.keys := Dict.keys_modify ..
  have hmem : nodeId ∈ s.wave.keys := Dict.mem_keys_iff.mpr ⟨task, htask⟩
  have hcalls : ∀ n, (s.afterStep nodeId r).callCount n =
      s.callCount n + if n = nodeId then r.calls.length else 0 := by
    intro n
    have hcount : (s.afterStep nodeId r).callCount n =
        s.callCount n + r.calls.countP fun c ↦ c.nodeId = n := List.countP_append ..
    rw [hcount]
    congr 1
    by_cases hn : n = nodeId
    · rw [if_pos hn, List.countP_eq_length]
      intro c hc
      exact decide_eq_true (((hmove.mem_calls hphase hc).1.trans hid).trans hn.symm)
    · rw [if_neg hn, List.countP_eq_zero]
      intro c hc hcn
      exact hn ((of_decide_eq_true hcn).symm.trans ((hmove.mem_calls hphase hc).1.trans hid))
  have hget : ∀ n task', (s.afterStep nodeId r).wave.get? n = some task' →
      n = nodeId ∧ task' = { task with phase := r.phase } ∨
        n ≠ nodeId ∧ s.wave.get? n = some task' := by
    intro n task' htask'
    obtain ⟨x, hx, rfl⟩ := Dict.get?_modify_eq_some htask'
    by_cases hn : n = nodeId
    · subst hn
      obtain rfl := Option.some.inj (htask.symm.trans hx)
      exact .inl ⟨rfl, if_pos rfl⟩
    · rw [if_neg hn]
      exact .inr ⟨hn, hx⟩
  refine ⟨h.books, fun n ↦ (h.running_iff n).trans (by rw [hkeys]), fun n task' htask' ↦ ?_,
    h.settled_decided, fun c hc ↦ ?_, fun n task' htask' ↦ ?_, fun n node hn hdecided hnew ↦ ?_,
    fun n hn hdecided ↦ ?_⟩
  · rcases hget n task' htask' with ⟨rfl, rfl⟩ | ⟨-, hold⟩
    · exact ⟨hnode, hmove.phaseInv hphase⟩
    · exact h.task n task' hold
  · rcases List.mem_append.mp hc with hc | hc
    · exact h.call c hc
    · obtain ⟨hcid, hinput⟩ := hmove.mem_calls hphase hc
      rw [hcid, hid]
      refine ⟨task.node, hnode, fun m hdep ↦ ?_, hinput⟩
      exact h.books.deps nodeId m (.inr (.inl ((h.running_iff nodeId).mpr hmem))) hdep
  · rw [hcalls]
    rcases hget n task' htask' with ⟨rfl, rfl⟩ | ⟨hne, hold⟩
    · rw [if_pos rfl, h.running_calls n task htask]
      exact hmove.calls_length
    · rw [if_neg hne, h.running_calls n task' hold, Nat.add_zero]
  · have hne : n ≠ nodeId := by
      rintro rfl
      obtain ⟨hcompleted, hfailed⟩ := h.open_of_mem_wave hmem
      exact hdecided.elim hcompleted hfailed
    rw [hcalls, if_neg hne, Nat.add_zero]
    exact h.decided_calls n node hn hdecided hnew
  · have hne : n ≠ nodeId := by
      rintro rfl
      exact hn (hkeys ▸ hmem)
    rw [hcalls, if_neg hne, Nat.add_zero]
    exact h.other_calls n (hkeys ▸ hn) hdecided

/-! ## The end of a wave -/

theorem TaskPhase.outcome?_eq_some {phase : TaskPhase α} {o : TaskOutcome α} :
    phase.outcome? = some o ↔ phase = .returned o := by
  cases phase <;> simp [TaskPhase.outcome?]

theorem SchedulerState.mem_waveOutcomes {o : TaskOutcome α} :
    o ∈ s.waveOutcomes ↔ ∃ n task, s.wave.get? n = some task ∧ task.phase = .returned o := by
  simp only [SchedulerState.waveOutcomes, List.mem_filterMap, TaskPhase.outcome?_eq_some,
    Prod.exists, Dict.mem_entries_iff]

/-- What a task of the wave has returned is about its node. -/
theorem StateInv.returned (h : StateInv job settled old reopened s) {n : String}
    {task : WaveTask α} {o : TaskOutcome α} (htask : s.wave.get? n = some task)
    (ho : task.phase = .returned o) :
    o.nodeId = n ∧ 1 ≤ o.attempts ∧ o.attempts ≤ task.node.maxAttempts ∧
      (o.status = .completed ∧ job.Ok n ∨ o.status = .failed ∧ ¬job.Ok n) := by
  obtain ⟨hnode, hphase⟩ := h.task n task htask
  rw [ho] at hphase
  obtain ⟨hid, hpos, hle, hverdict⟩ := hphase
  rw [ok_iff hnode]
  exact ⟨hid.trans (job.graph.nodeId_eq n task.node hnode), hpos, hle, hverdict⟩

/-- When all tasks have returned, there is an outcome for each node of the wave. -/
theorem StateInv.map_nodeId_waveOutcomes (h : StateInv job settled old reopened s)
    (hall : ∀ e ∈ s.wave.entries, e.2.phase.outcome?.isSome = true) :
    s.waveOutcomes.map TaskOutcome.nodeId = s.wave.keys := by
  have hsome : ∀ e ∈ s.wave.entries,
      (e.2.phase.outcome?).map TaskOutcome.nodeId = some e.1 := by
    intro e he
    obtain ⟨o, ho⟩ := Option.isSome_iff_exists.mp (hall e he)
    have hid := (h.returned (Dict.mem_entries_iff.mp he) (TaskPhase.outcome?_eq_some.mp ho)).1
    rw [ho, Option.map_some, hid]
  rw [SchedulerState.waveOutcomes, List.map_filterMap, Dict.keys, ← List.filterMap_eq_map]
  exact List.filterMap_congr hsome

/-- **The outcomes of a wave are entered.** -/
theorem StateInv.afterWave (h : StateInv job settled old reopened s)
    (hall : ∀ e ∈ s.wave.entries, e.2.phase.outcome?.isSome = true) :
    StateInv job settled old reopened (s.afterWave job.graph) ∧
      s.ledger.Advanced s.wave.keys (s.afterWave job.graph).ledger := by
  have hids := h.map_nodeId_waveOutcomes hall
  have hnodup : (s.waveOutcomes.map TaskOutcome.nodeId).Nodup := hids ▸ s.wave.keys_nodup
  have hrunning : ∀ o ∈ s.waveOutcomes, o.nodeId ∈ s.ledger.running := by
    intro o ho
    rw [h.running_iff, ← hids]
    exact List.mem_map_of_mem ho
  have hverdict : ∀ o ∈ s.waveOutcomes,
      o.status = .completed ∧ job.Ok o.nodeId ∨ o.status = .failed ∧ ¬job.Ok o.nodeId := by
    intro o ho
    obtain ⟨n, task, htask, hphase⟩ := SchedulerState.mem_waveOutcomes.mp ho
    obtain ⟨rfl, -, -, hverdict⟩ := h.returned htask hphase
    exact hverdict
  obtain ⟨hbooks, hadvanced⟩ := h.books.recordOutcomes hnodup hrunning hverdict
  rw [hids] at hadvanced
  have hempty : ∀ (n : String) (task : WaveTask α),
      (s.afterWave job.graph).wave.get? n ≠ some task := fun n task hget ↦ nomatch hget
  refine ⟨⟨hbooks, fun n ↦ ?_, fun n task htask ↦ absurd htask (hempty n task), fun n hn ↦ ?_,
    fun c hc ↦ ?_, fun n task htask ↦ absurd htask (hempty n task), fun n node hn hdecided hnew ↦ ?_,
    fun n _ hdecided ↦ ?_⟩, hadvanced⟩
  · refine (hadvanced.running n).trans ⟨fun hn ↦ ?_, fun hn ↦ absurd hn List.not_mem_nil⟩
    exact absurd ((h.running_iff n).mp hn.1) hn.2
  · exact (hadvanced.decided n).mpr (.inr (h.settled_decided n hn))
  · obtain ⟨node, hnode, hdeps, hinput⟩ := h.call c hc
    refine ⟨node, hnode, fun m hdep ↦ (hadvanced.kept m (hdeps m hdep)).1, hinput.trans ?_⟩
    refine buildInputPayload_congr fun d hd ↦ ?_
    exact (hadvanced.kept d (hdeps d ((TaskGraph.dep_iff hnode).mpr hd))).2.symm
  · by_cases hwave : n ∈ s.wave.keys
    · obtain ⟨task, htask⟩ := Dict.mem_keys_iff.mp hwave
      obtain ⟨o, ho⟩ := Option.isSome_iff_exists.mp (hall _ (Dict.mem_entries_iff.mpr htask))
      obtain ⟨-, hpos, hle, -⟩ := h.returned htask (TaskPhase.outcome?_eq_some.mp ho)
      obtain rfl := Option.some.inj (hn.symm.trans (h.task n task htask).1)
      have hcount : s.callCount n = if 0 < task.node.timeoutMs then o.attempts else 0 := by
        rw [h.running_calls n task htask, TaskPhase.outcome?_eq_some.mp ho]
        rfl
      show (0 < task.node.timeoutMs → 0 < s.callCount n) ∧ s.callCount n ≤ task.node.maxAttempts
      rw [hcount]
      split_ifs with htimeout
      · exact ⟨fun _ ↦ hpos, hle⟩
      · exact ⟨fun hpositive ↦ absurd hpositive htimeout, Nat.zero_le _⟩
    · have hbefore := ((hadvanced.decided n).mp hdecided).resolve_left hwave
      exact h.decided_calls n node hn hbefore hnew
  · by_cases hwave : n ∈ s.wave.keys
    · have hsettled := hdecided ((hadvanced.decided n).mpr (.inl hwave))
      obtain ⟨hcompleted, hfailed⟩ := h.open_of_mem_wave hwave
      exact absurd (h.settled_decided n hsettled) (not_or.mpr ⟨hcompleted, hfailed⟩)
    · exact h.other_calls n hwave fun hbefore ↦ hdecided ((hadvanced.decided n).mpr (.inr hbefore))

/-! ## The next wave -/

/-- The tasks of the next wave. -/
theorem SchedulerJob.get?_wave_nextWave {n : String} {task : WaveTask α} :
    (job.nextWave s).wave.get? n = some task ↔
      task.phase = .waiting ∧ job.graph.nodes.get? n = some task.node ∧
        n ∉ s.ledger.completed ∧ n ∉ s.ledger.running ∧ n ∉ s.ledger.failed ∧
        n ∉ s.ledger.cancelled ∧ ∀ m, job.graph.Dep n m → m ∈ s.ledger.completed := by
  simp only [nextWave, Dict.get?_mapVals, Dict.get?_filter, Option.map_eq_some_iff,
    Option.filter_eq_some_iff, TaskGraph.get?_readyNodes, decide_eq_true_eq]
  constructor
  · rintro ⟨node, ⟨⟨hnode, hcompleted, hrunning, hfailed, hdeps⟩, hcancelled⟩, rfl⟩
    exact ⟨rfl, hnode, hcompleted, hrunning, hfailed, hcancelled, hdeps⟩
  · obtain ⟨node, phase⟩ := task
    rintro ⟨rfl, hnode, hcompleted, hrunning, hfailed, hcancelled, hdeps⟩
    exact ⟨node, ⟨⟨hnode, hcompleted, hrunning, hfailed, hdeps⟩, hcancelled⟩, rfl⟩

/-- The nodes of the next wave are running then. -/
theorem SchedulerJob.ledger_nextWave :
    (job.nextWave s).ledger =
      { s.ledger with
        running := s.ledger.running ∪ (job.nextWave s).wave.keys.toFinset } := by
  rw [nextWave, Dict.keys_mapVals]

/-- **The next wave is started**, when nothing is left of the one before. -/
theorem StateInv.nextWave (h : StateInv job settled old reopened s) (hwave : s.wave = Dict.empty) :
    RunInv job settled old reopened (job.nextWave s) := by
  have hidle : ∀ n, n ∉ s.ledger.running := by
    intro n hn
    have hkey := (h.running_iff n).mp hn
    rw [hwave] at hkey
    exact absurd hkey List.not_mem_nil
  have hold : ∀ n, n ∉ s.wave.keys := fun n hn ↦ hidle n ((h.running_iff n).mpr hn)
  have hledger := job.ledger_nextWave (s := s)
  have hready : ∀ n ∈ (job.nextWave s).wave.keys.toFinset, n ∈ job.graph.nodes.keys ∧
      n ∉ s.ledger.completed ∧ n ∉ s.ledger.failed ∧
      ∀ m, job.graph.Dep n m → m ∈ s.ledger.completed := by
    intro n hn
    obtain ⟨task, htask⟩ := Dict.mem_keys_iff.mp (List.mem_toFinset.mp hn)
    obtain ⟨-, hnode, hcompleted, -, hfailed, -, hdeps⟩ := get?_wave_nextWave.mp htask
    exact ⟨Dict.mem_keys_iff.mpr ⟨task.node, hnode⟩, hcompleted, hfailed, hdeps⟩
  refine ⟨⟨?_, fun n ↦ ?_, fun n task htask ↦ ?_, ?_, ?_, fun n task htask ↦ ?_, ?_,
    fun n _ hdecided ↦ ?_⟩, fun n hn hdeps ↦ ?_⟩
  · rw [hledger]
    exact h.books.startWave hready
  · rw [hledger]
    simp [hidle n]
  · obtain ⟨hwaiting, hnode, -⟩ := get?_wave_nextWave.mp htask
    rw [hwaiting]
    exact ⟨hnode, trivial⟩
  · rw [hledger]
    exact h.settled_decided
  · rw [hledger]
    exact h.call
  · obtain ⟨hwaiting, -, hcompleted, -, hfailed, -⟩ := get?_wave_nextWave.mp htask
    have hstarted : started task.node task.phase = 0 := by
      rw [hwaiting, started, made, ite_self]
    rw [hstarted]
    exact h.other_calls n (hold n) fun hdecided ↦ absurd hdecided (not_or.mpr ⟨hcompleted, hfailed⟩)
  · rw [hledger]
    exact h.decided_calls
  · rw [hledger] at hdecided
    exact h.other_calls n (hold n) hdecided
  · rw [hledger] at hdeps ⊢
    obtain ⟨node, hnode⟩ := Dict.mem_keys_iff.mp hn
    by_cases hdecided : n ∈ s.ledger.completed ∨ n ∈ s.ledger.failed
    · exact hdecided.elim .inl fun hfailed ↦ .inr (.inl hfailed)
    · obtain ⟨hcompleted, hfailed⟩ := not_or.mp hdecided
      refine .inr (.inr (Dict.mem_keys_iff.mpr ⟨⟨node, .waiting⟩, get?_wave_nextWave.mpr ?_⟩))
      exact ⟨rfl, hnode, hcompleted, hidle n, hfailed, h.books.not_cancelled_of_deps hdeps, hdeps⟩

/-! ## Whole runs -/

/-- **What every choice keeps.** -/
theorem RunInv.next (h : RunInv job settled old reopened s) {c : SchedulerChoice}
    (hnext : job.next? s c = some s') : RunInv job settled old reopened s' := by
  cases c with
  | task nodeId =>
    obtain ⟨task, r, htask, hmove, rfl⟩ := taskStep_some hnext
    refine ⟨h.toStateInv.afterStep htask hmove, fun n hn hdeps ↦ ?_⟩
    have hkeys : (s.afterStep nodeId r).wave.keys = s.wave.keys := Dict.keys_modify ..
    rw [hkeys]
    exact h.complete n hn hdeps
  | gather =>
    obtain ⟨-, hall, rfl⟩ := gather_some hnext
    exact (h.afterWave hall).1.nextWave rfl

/-- A step is a choice that the event loop has, or none. -/
theorem SchedulerJob.step_of_next? {c : SchedulerChoice} (hnext : job.next? s c = some s') :
    (job.step s c).2 = s' := by
  rw [step, hnext]

/-- **What every run keeps.** -/
theorem RunInv.exec (h : RunInv job settled old reopened s) (schedule : List SchedulerChoice) :
    RunInv job settled old reopened (Run.exec job.step s schedule) := by
  refine Run.exec_invariant (fun s c _ hinv ↦ ?_)
    (Run.along_of_forall (fun _ _ ↦ trivial) s schedule) h
  rw [step]
  split
  · rename_i next hnext
    exact hinv.next hnext
  · exact hinv

/-- **How a run begins**, with books that are sound and in which nothing is running. -/
theorem RunInv.begin {l : Ledger α} (hbooks : l.Sound job.graph job.Ok old reopened)
    (hidle : l.running = ∅) (hsettled : ∀ n, n ∈ l.completed ∨ n ∈ l.failed ↔ n ∈ settled) :
    RunInv job settled old reopened (job.nextWave ⟨l, Dict.empty, [], []⟩) := by
  refine StateInv.nextWave ⟨hbooks, fun n ↦ ?_, fun n task htask ↦ ?_,
    fun n ↦ (hsettled n).mpr, fun c hc ↦ absurd hc List.not_mem_nil, fun n task htask ↦ ?_,
    fun n node _ hdecided hnew ↦ absurd ((hsettled n).mp hdecided) hnew, fun n _ _ ↦ rfl⟩ rfl
  · exact iff_of_false (by simp [hidle]) List.not_mem_nil
  · exact nomatch htask
  · exact nomatch htask

theorem Ledger.sound_empty (graph : TaskGraph) (ok : String → Prop) :
    (Ledger.empty : Ledger α).Sound graph ok ∅ ∅ := by
  constructor <;> simp [Ledger.empty, Ledger.Started, Ledger.standing]

/-- A run that does not resume. -/
theorem RunInv.start (job : SchedulerJob α) (listed : List (CheckpointRecord α)) :
    RunInv job ∅ ∅ ∅ (job.start false listed) :=
  RunInv.begin (Ledger.sound_empty job.graph job.Ok) rfl fun n ↦ by simp [Ledger.empty]

end Core
end ExoBrain
