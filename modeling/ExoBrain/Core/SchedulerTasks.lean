import ExoBrain.Core.SchedulerLedger

/-!
# One task of the scheduler

A task of a wave goes from one `await` to the next, and `NodeMove` lists what it can do there:
take its input, write the first checkpoint, start the handler, and after each attempt succeed, try
again or give up.  Two things are kept along the way.  `PhaseInv` says what the phase of a task
tells about the attempts behind it, up to the verdict on the node when it returns; and
`NodeMove.calls_length` counts the starts of the handler.

`get?_collectOutputs` is what a handler finds under `dependencies`.
-/

set_option autoImplicit false

namespace ExoBrain
namespace Core

variable {α : Type}

/-! ## The verdict on a node -/

/-- The attempt succeeded. -/
def HandlerResult.Succeeded : HandlerResult α → Prop
  | .returned _ => True
  | _ => False

instance : (r : HandlerResult α) → Decidable r.Succeeded
  | .returned _ => isTrue trivial
  | .timedOut => isFalse id
  | .raised _ => isFalse id

theorem TaskNode.maxAttempts_pos (node : TaskNode) : 0 < node.maxAttempts := by
  rw [TaskNode.maxAttempts]
  omega

namespace SchedulerJob

variable (job : SchedulerJob α)

/-- One of the attempts that the node is allowed succeeds. -/
def Succeeds (node : TaskNode) : Prop :=
  ∃ k, 1 ≤ k ∧ k ≤ node.maxAttempts ∧ (job.attempt node k).Succeeded

/-- The node with the given id succeeds, if it is started. -/
def Ok (n : String) : Prop := ∃ node, job.graph.nodes.get? n = some node ∧ job.Succeeds node

variable {job}

theorem ok_iff {n : String} {node : TaskNode} (h : job.graph.nodes.get? n = some node) :
    job.Ok n ↔ job.Succeeds node := by
  constructor
  · rintro ⟨node', hnode', hsucceeds⟩
    rwa [Option.some.inj (h.symm.trans hnode')]
  · exact fun hsucceeds ↦ ⟨node, h, hsucceeds⟩

/-! ## The input of a handler -/

/-- **What a handler finds under `dependencies`.** -/
theorem get?_collectOutputs (outcomes : Dict String (TaskOutcome α)) (dependsOn : List String)
    (outputs : Dict String (Dict String α)) (d : String) :
    (dependsOn.foldl (collectOutput outcomes) outputs).get? d =
      if d ∈ dependsOn then (completedOutput outcomes d).or (outputs.get? d)
      else outputs.get? d := by
  induction dependsOn generalizing outputs with
  | nil => rfl
  | cons first dependsOn ih =>
    have hfirst : (collectOutput outcomes outputs first).get? d =
        if d = first then (completedOutput outcomes d).or (outputs.get? d)
        else outputs.get? d := by
      rw [collectOutput]
      by_cases hd : d = first
      · subst hd
        cases completedOutput outcomes d <;> simp [Dict.get?_set]
      · cases completedOutput outcomes first <;> simp [Dict.get?_set, hd]
    rw [List.foldl_cons, ih, hfirst]
    by_cases hd : d = first
    · subst hd
      cases completedOutput outcomes d <;> simp
    · simp [hd]

/-- The input of a handler only depends on the outcomes of its dependencies. -/
theorem buildInputPayload_congr {node : TaskNode} {outcomes outcomes' : Dict String (TaskOutcome α)}
    (h : ∀ d ∈ node.dependsOn, outcomes.get? d = outcomes'.get? d) :
    job.buildInputPayload node outcomes = job.buildInputPayload node outcomes' := by
  have hcollect : ∀ (outputs : Dict String (Dict String α)),
      node.dependsOn.foldl (collectOutput outcomes) outputs =
        node.dependsOn.foldl (collectOutput outcomes') outputs := by
    refine fun outputs ↦ List.foldl_ext _ _ _ fun outputs d hd ↦ ?_
    rw [collectOutput, collectOutput, completedOutput, completedOutput, h d hd]
  rw [buildInputPayload, buildInputPayload, hcollect]

/-- The outputs are there under their key. -/
theorem dependencies_buildInputPayload (node : TaskNode)
    (outcomes : Dict String (TaskOutcome α)) :
    (job.buildInputPayload node outcomes).get? "dependencies" =
      some (.dependencies (node.dependsOn.foldl (collectOutput outcomes) Dict.empty)) := by
  simp only [buildInputPayload, Dict.get?_set]
  rw [if_neg (by decide), if_neg (by decide), if_pos trivial]

/-! ## The moves of a task -/

/-- **What a task can do in one step**, from its phase. -/
inductive NodeMove (job : SchedulerJob α) (node : TaskNode)
    (outcomes : Dict String (TaskOutcome α)) : TaskPhase α → TaskStep α → Prop
  /-- It gets its slot and builds its input. -/
  | opens : NodeMove job node outcomes .waiting
      { phase := .opened (job.buildInputPayload node outcomes) }
  /-- It writes the first checkpoint. -/
  | begins (input : Dict String (PayloadField α)) : NodeMove job node outcomes (.opened input)
      { phase := .between input 0
        saved := [{ jobId := job.jobId, nodeId := node.nodeId, status := .running }] }
  /-- It starts the handler. -/
  | tries (input : Dict String (PayloadField α)) (attempts : Nat) :
      NodeMove job node outcomes (.between input attempts)
        { phase := .inHandler input (attempts + 1)
          calls := if 0 < node.timeoutMs then [⟨node.nodeId, attempts + 1, input⟩] else [] }
  /-- The attempt succeeds. -/
  | succeeds (input : Dict String (PayloadField α)) (attempts : Nat) {output : Dict String α}
      (h : job.attempt node attempts = .returned output) :
      NodeMove job node outcomes (.inHandler input attempts)
        { phase := .returned
            { nodeId := node.nodeId
              status := .completed
              output := output
              attempts := attempts }
          saved :=
            [{ jobId := job.jobId
               nodeId := node.nodeId
               status := .completed
               attempt := attempts
               payload := output }] }
  /-- The last attempt fails. -/
  | fails (input : Dict String (PayloadField α)) (attempts : Nat) {reason message : String}
      (h : ¬(job.attempt node attempts).Succeeded) (hlast : node.maxAttempts ≤ attempts) :
      NodeMove job node outcomes (.inHandler input attempts)
        { phase := .returned
            { nodeId := node.nodeId
              status := .failed
              reasonCode := reason
              errorMessage := message
              attempts := attempts }
          saved :=
            [{ jobId := job.jobId
               nodeId := node.nodeId
               status := .failed
               attempt := attempts
               reasonCode := reason }] }
  /-- Another attempt fails. -/
  | retries (input : Dict String (PayloadField α)) (attempts : Nat)
      (h : ¬(job.attempt node attempts).Succeeded) (hmore : attempts < node.maxAttempts) :
      NodeMove job node outcomes (.inHandler input attempts) { phase := .between input attempts }

variable {node : TaskNode} {outcomes : Dict String (TaskOutcome α)} {phase : TaskPhase α}
  {r : TaskStep α}

theorem failAttempt_move {input : Dict String (PayloadField α)} {attempts : Nat}
    {reason message : String} (h : ¬(job.attempt node attempts).Succeeded) :
    NodeMove job node outcomes (.inHandler input attempts)
      (job.failAttempt node input attempts reason message) := by
  rw [failAttempt]
  split
  · rename_i hlast
    exact .fails input attempts h hlast
  · rename_i hmore
    exact .retries input attempts h (Nat.lt_of_not_le hmore)

theorem runNode_move (h : job.runNode node outcomes phase = some r) :
    NodeMove job node outcomes phase r := by
  cases phase with
  | waiting =>
    obtain rfl := Option.some.inj h
    exact .opens
  | opened input =>
    obtain rfl := Option.some.inj h
    exact .begins input
  | between input attempts =>
    obtain rfl := Option.some.inj h
    exact .tries input attempts
  | inHandler input attempts =>
    simp only [runNode] at h
    cases hattempt : job.attempt node attempts with
    | returned output =>
      rw [hattempt] at h
      obtain rfl := Option.some.inj h
      exact .succeeds input attempts hattempt
    | timedOut =>
      rw [hattempt] at h
      obtain rfl := Option.some.inj h
      exact failAttempt_move (by rw [hattempt]; exact id)
    | raised message =>
      rw [hattempt] at h
      obtain rfl := Option.some.inj h
      exact failAttempt_move (by rw [hattempt]; exact id)
  | returned outcome => exact nomatch h

/-- Only a task that has returned does not go on. -/
theorem runNode_isSome (h : phase.outcome? = none) :
    (job.runNode node outcomes phase).isSome = true := by
  cases phase with
  | waiting | opened | between => rfl
  | inHandler input attempts =>
    simp only [runNode]
    cases job.attempt node attempts <;> rfl
  | returned outcome => exact nomatch h

/-! ## What a phase tells -/

/-- The attempts before the phase, and the verdict of a task that has returned. -/
def PhaseInv (job : SchedulerJob α) (node : TaskNode) (outcomes : Dict String (TaskOutcome α)) :
    TaskPhase α → Prop
  | .waiting => True
  | .opened input => input = job.buildInputPayload node outcomes
  | .between input attempts =>
    input = job.buildInputPayload node outcomes ∧ attempts < node.maxAttempts ∧
      ∀ k, 1 ≤ k → k ≤ attempts → ¬(job.attempt node k).Succeeded
  | .inHandler input attempts =>
    input = job.buildInputPayload node outcomes ∧ 1 ≤ attempts ∧ attempts ≤ node.maxAttempts ∧
      ∀ k, 1 ≤ k → k < attempts → ¬(job.attempt node k).Succeeded
  | .returned o =>
    o.nodeId = node.nodeId ∧ 1 ≤ o.attempts ∧ o.attempts ≤ node.maxAttempts ∧
      (o.status = .completed ∧ job.Succeeds node ∨ o.status = .failed ∧ ¬job.Succeeds node)

/-- An input only depends on the outcomes of the dependencies, and so does what a phase tells. -/
theorem PhaseInv.congr {outcomes' : Dict String (TaskOutcome α)}
    (h : PhaseInv job node outcomes phase)
    (hsame : ∀ d ∈ node.dependsOn, outcomes.get? d = outcomes'.get? d) :
    PhaseInv job node outcomes' phase := by
  have hinput : job.buildInputPayload node outcomes = job.buildInputPayload node outcomes' :=
    buildInputPayload_congr hsame
  cases phase with
  | waiting => trivial
  | opened | between | inHandler =>
    rw [PhaseInv, ← hinput]
    exact h
  | returned => exact h

/-- **A move keeps what the phases tell.** -/
theorem NodeMove.phaseInv (hmove : NodeMove job node outcomes phase r)
    (h : PhaseInv job node outcomes phase) : PhaseInv job node outcomes r.phase := by
  cases hmove with
  | opens => rfl
  | begins input =>
    exact ⟨h, node.maxAttempts_pos, fun k hk hk' ↦ absurd (hk.trans hk') (by decide)⟩
  | tries input attempts =>
    obtain ⟨hinput, hlt, hfailed⟩ := h
    exact ⟨hinput, Nat.succ_pos attempts, hlt, fun k hk hk' ↦ hfailed k hk (Nat.lt_succ_iff.mp hk')⟩
  | succeeds input attempts hattempt =>
    obtain ⟨-, hpos, hle, -⟩ := h
    refine ⟨rfl, hpos, hle, .inl ⟨rfl, attempts, hpos, hle, ?_⟩⟩
    rw [hattempt]
    trivial
  | fails input attempts hattempt hlast =>
    obtain ⟨-, hpos, hle, hfailed⟩ := h
    refine ⟨rfl, hpos, hle, .inr ⟨rfl, ?_⟩⟩
    rintro ⟨k, hk, hkle, hsucceeded⟩
    rcases Nat.lt_or_eq_of_le (hkle.trans hlast) with hlt | rfl
    · exact hfailed k hk hlt hsucceeded
    · exact hattempt hsucceeded
  | retries input attempts hattempt hmore =>
    obtain ⟨hinput, hpos, -, hfailed⟩ := h
    refine ⟨hinput, hmore, fun k hk hkle hsucceeded ↦ ?_⟩
    rcases Nat.lt_or_eq_of_le hkle with hlt | rfl
    · exact hfailed k hk hlt hsucceeded
    · exact hattempt hsucceeded

/-! ## The starts of the handler -/

/-- The number of attempts a task has begun. -/
def made : TaskPhase α → Nat
  | .waiting => 0
  | .opened _ => 0
  | .between _ attempts => attempts
  | .inHandler _ attempts => attempts
  | .returned o => o.attempts

/-- The number of times a task has started its handler. -/
def started (node : TaskNode) (phase : TaskPhase α) : Nat :=
  if 0 < node.timeoutMs then made phase else 0

theorem NodeMove.calls_length (hmove : NodeMove job node outcomes phase r) :
    started node phase + r.calls.length = started node r.phase := by
  rw [started, started]
  cases hmove with
  | tries input attempts => by_cases hpos : 0 < node.timeoutMs <;> simp [hpos, made]
  | opens | begins | succeeds | fails | retries => rfl

/-- A handler is started with the input of its node. -/
theorem NodeMove.mem_calls (hmove : NodeMove job node outcomes phase r)
    (h : PhaseInv job node outcomes phase) {c : HandlerCall α} (hc : c ∈ r.calls) :
    c.nodeId = node.nodeId ∧ c.input = job.buildInputPayload node outcomes := by
  cases hmove with
  | tries input attempts =>
    simp only at hc
    split at hc
    · obtain rfl := List.mem_singleton.mp hc
      exact ⟨rfl, h.1⟩
    · exact absurd hc List.not_mem_nil
  | opens | begins | succeeds | fails | retries => exact absurd hc List.not_mem_nil

/-! ## The way that is left -/

/-- A bound on the steps a task has still to take, for a node with `attempts` attempts.  The last is
for its outcome to be entered. -/
def weight (attempts : Nat) : TaskPhase α → Nat
  | .waiting => 2 * attempts + 3
  | .opened _ => 2 * attempts + 2
  | .between _ k => 2 * (attempts - k) + 1
  | .inHandler _ k => 2 * (attempts - k) + 2
  | .returned _ => 1

theorem NodeMove.weight_lt (hmove : NodeMove job node outcomes phase r)
    (h : PhaseInv job node outcomes phase) :
    weight node.maxAttempts r.phase < weight node.maxAttempts phase := by
  cases hmove with
  | opens | begins | succeeds | fails | retries =>
    simp only [weight]
    omega
  | tries input attempts =>
    obtain ⟨-, hlt, -⟩ := h
    simp only [weight]
    omega

end SchedulerJob
end Core
end ExoBrain
