import ExoBrain.Core.JobSpans
import ExoBrain.Core.SchedulerRuns

/-!
# The spans of a run

A run holds the spans of `_run_job`, of `execute` and of the nodes of the current wave.  `Closes` says
when a step of it loses none of them: a task of a node does not leave with an open span, and
`_run_job` does not come to its end with one.

`stepSpec_step` says what any step does to the account of the spans.  It also keeps track of the two
ways in which a task of a node can go on while the run is done already: `gather` does not wait for the
others when one of them has raised.  That task has lost its span, unless the scheduler is not traced.
-/

set_option autoImplicit false

namespace ExoBrain
namespace Core

open Custody Traced

variable {α : Type}

/-! ## Who holds a span -/

/-- The span of `_run_job`. -/
def RunStage.jobSpan? : RunStage → Option Nat
  | .listing jobSpan _ => jobSpan
  | .gathering jobSpan _ => jobSpan
  | _ => none

/-- The span of `execute`. -/
def RunStage.executeSpan? : RunStage → Option Nat
  | .listing _ executeSpan => executeSpan
  | .gathering _ executeSpan => executeSpan
  | _ => none

namespace TracedRun

/-- The span a coroutine of the run holds. -/
def holds (run : TracedRun α) : SpanLevel → Option Nat
  | .job => run.stage.jobSpan?
  | .execute => run.stage.executeSpan?
  | .node nodeId => (run.wave.get? nodeId).bind fun task ↦ task.phase.span?

/-! ### When none is lost -/

/-- A step of the run loses no span. -/
def Closes (settings : TraceSettings) (run : TracedRun α) (sinks : Sinks) (input : RunInput α)
    (t : RuntimeTracer) : Prop :=
  match input, run.stage with
  | .begin false, .created => ClosesBegin settings run.job sinks t run.resume
  | .listed answer, .listing _ _ =>
    ClosesRest settings run.job sinks t
      (answer.map fun listed ↦ listed.foldl Ledger.loadCheckpoint .empty)
  | .gathered ending, .gathering _ _ =>
    ∀ x, run.gatherAnswer ending = some x → ClosesRest settings run.job sinks t x
  | .node nodeId interrupted, _ =>
    settings.scheduler = true → ∀ task, run.wave.get? nodeId = some task →
      ClosesNode settings run.job sinks t task.node interrupted task.phase
  | _, _ => True

/-! ### What holds of a run -/

/-- What holds of a run at any time. -/
structure Laws (settings : TraceSettings) (run : TracedRun α) : Prop where
  /-- The tasks are filed under the ids of their nodes. -/
  filed : ∀ n task, run.wave.get? n = some task → task.node.nodeId = n
  hasSpan : ∀ n task, run.wave.get? n = some task → HasSpan settings task.phase
  /-- There is no wave before the first one. -/
  noWave : run.stage = .created ∨ (∃ jobSpan executeSpan, run.stage = .listing jobSpan executeSpan) →
    run.wave = Dict.empty
  /-- `_run_job` and `execute` have the spans of their settings. -/
  spans : run.stage = .created ∨ run.stage = .done ∨
    run.stage.jobSpan?.isSome = settings.background ∧
      run.stage.executeSpan?.isSome = settings.scheduler

variable {settings : TraceSettings} {run : TracedRun α} {sinks : Sinks} {t : RuntimeTracer}
  {r : Nat} {held : SpanOwner → Option Nat}

/-- A task that is awaiting something has the spans of the settings. -/
theorem Laws.isSome_spans (h : run.Laws settings) (hcreated : run.stage ≠ .created)
    (hdone : run.stage ≠ .done) :
    run.stage.jobSpan?.isSome = settings.background ∧
      run.stage.executeSpan?.isSome = settings.scheduler :=
  (h.spans.resolve_left hcreated).resolve_left hdone

theorem laws_new (job : SchedulerJob α) (resume : Bool) :
    Laws settings ({ job := job, resume := resume } : TracedRun α) where
  filed n task h := by cases h
  hasSpan n task h := by cases h
  noWave _ := rfl
  spans := .inl rfl

theorem allReturned_iff :
    run.AllReturned ↔ ∀ n task, run.wave.get? n = some task → task.phase.outcome?.isSome := by
  constructor
  · exact fun h n task htask ↦ h (n, task) (Dict.mem_entries_iff.mpr htask)
  · exact fun h e he ↦ h e.1 e.2 (Dict.mem_entries_iff.mp he)

theorem allReturned_of_empty (h : run.wave = Dict.empty) : run.AllReturned := by
  intro e he
  rw [h] at he
  cases he

/-! ## Waves -/

/-- `gather` returns only what all tasks have returned. -/
theorem allReturned_of_gatherAnswer {ending : GatherEnd} {ledger : Ledger α}
    (h : run.gatherAnswer ending = some (.ok ledger)) : run.AllReturned := by
  cases ending with
  | returned =>
    rw [gatherAnswer] at h
    split at h
    · rename_i hall
      exact hall
    · cases h
  | raised n =>
    rw [gatherAnswer, Option.bind_eq_some_iff] at h
    obtain ⟨task, -, h⟩ := h
    obtain ⟨exc, -, h⟩ := Option.map_eq_some_iff.mp h
    cases h
  | cancelled =>
    rw [gatherAnswer] at h
    split at h
    · cases h
    · cases h

/-- When `gather` does not wait for all tasks, one of them has raised, or there is a cancellation. -/
theorem done_of_gatherAnswer {ending : GatherEnd} {x : Except TaskRaised (Ledger α)}
    (htraced : settings.scheduler = true) (h : run.gatherAnswer ending = some x) :
    run.AllReturned ∨ ¬ClosesRest settings run.job sinks t x ∨
      ∃ n task exc, run.wave.get? n = some task ∧ task.phase = .raised (.exception exc) := by
  cases x with
  | ok ledger => exact .inl (allReturned_of_gatherAnswer h)
  | error raised =>
    cases raised with
    | cancelledError =>
      refine .inr (.inl fun hcloses ↦ ?_)
      rw [ClosesRest, htraced] at hcloses
      cases hcloses.1
    | exception exc =>
      cases ending with
      | returned =>
        rw [gatherAnswer] at h
        split at h
        · cases h
        · cases h
      | raised n =>
        rw [gatherAnswer, Option.bind_eq_some_iff] at h
        obtain ⟨task, htask, h⟩ := h
        obtain ⟨exc', hexc, h⟩ := Option.map_eq_some_iff.mp h
        cases h
        refine .inr (.inr ⟨n, task, exc, htask, ?_⟩)
        cases hphase : task.phase with
        | raised exc' =>
          rw [hphase] at hexc
          cases hexc
          rfl
        | _ =>
          rw [hphase] at hexc
          cases hexc
      | cancelled =>
        rw [gatherAnswer] at h
        split at h
        · cases h
        · cases h

/-- The tasks of a wave that begins. -/
def newWave (job : SchedulerJob α) (ledger : Ledger α) : Dict String (NodeTask α) :=
  (nextWave job ledger).wave.mapVals fun _ task ↦ ⟨task.node, .waiting⟩

theorem get?_newWave {job : SchedulerJob α} {ledger : Ledger α} {n : String} {task : NodeTask α}
    (h : (newWave job ledger).get? n = some task) :
    task.phase = .waiting ∧ task.node.nodeId = n := by
  rw [newWave, Dict.get?_mapVals] at h
  obtain ⟨old, hold, rfl⟩ := Option.map_eq_some_iff.mp h
  exact ⟨rfl, job.graph.nodeId_eq n old.node (SchedulerJob.get?_wave_nextWave.mp hold).2.1⟩

/-- Nobody in such a wave holds a span. -/
theorem span?_newWave (job : SchedulerJob α) (ledger : Ledger α) (n : String) :
    (((newWave job ledger).get? n).bind fun task ↦ task.phase.span?) = none := by
  cases htask : (newWave job ledger).get? n with
  | none => rfl
  | some task =>
    rw [Option.bind_some, (get?_newWave htask).1]
    rfl

/-- Nor does a task that has returned. -/
theorem AllReturned.holds_node (h : run.AllReturned) (n : String) : run.holds (.node n) = none := by
  rw [holds]
  cases htask : run.wave.get? n with
  | none => rfl
  | some task =>
    have hreturned := allReturned_iff.mp h n task htask
    rw [Option.bind_some]
    cases hphase : task.phase with
    | returned outcome => rfl
    | _ =>
      rw [hphase] at hreturned
      cases hreturned

/-- The run goes on to another wave. -/
theorem Laws.gathering {job : SchedulerJob α} {ledger : Ledger α} {jobSpan executeSpan : Option Nat}
    (hjob : jobSpan.isSome = settings.background) (hexecute : executeSpan.isSome = settings.scheduler) :
    Laws settings
      { run with
        stage := .gathering jobSpan executeSpan
        ledger := (nextWave job ledger).ledger
        wave := newWave job ledger } where
  filed n task h := (get?_newWave h).2
  hasSpan n task h hopen := by
    rw [(get?_newWave h).1] at hopen
    cases hopen
  noWave h := by
    rcases h with h | ⟨_, _, h⟩
    · cases h
    · cases h
  spans := .inr (.inr ⟨hjob, hexecute⟩)

/-- The run is done. -/
theorem Laws.done (h : run.Laws settings) : Laws settings { run with stage := .done } where
  filed := h.filed
  hasSpan := h.hasSpan
  noWave h := by
    rcases h with h | ⟨_, _, h⟩
    · cases h
    · cases h
  spans := .inr (.inl rfl)

/-! ## One step -/

/-- The spans that are held when the run has changed. -/
def replaced (held : SpanOwner → Option Nat) (r : Nat) (run : TracedRun α) :
    SpanOwner → Option Nat :=
  fun o ↦ if o.run = r then run.holds o.level else held o

/-- A step, and what it does to the account. -/
structure StepSpec (settings : TraceSettings) (r : Nat) (held : SpanOwner → Option Nat)
    (run : TracedRun α) (t : RuntimeTracer) (closes : Prop) (run' : TracedRun α)
    (t' : RuntimeTracer) : Prop where
  laws : run'.Laws settings
  moves : Moves (OfRun r) t.handles held t'.handles (replaced held r run') closes
  /-- A task that raises an exception takes its span with it. -/
  raised : settings.scheduler = true → ∀ n task exc, run'.wave.get? n = some task →
    task.phase = .raised (.exception exc) →
    (∃ task', run.wave.get? n = some task' ∧ task'.phase = .raised (.exception exc)) ∨ ¬closes
  /-- When a run is done, all its tasks have returned, or a span was lost. -/
  done : settings.scheduler = true → run'.stage = .done → run'.AllReturned ∨ ¬closes ∨
    (run.stage = .done ∧ ¬run.AllReturned) ∨
      ∃ n task exc, run.wave.get? n = some task ∧ task.phase = .raised (.exception exc)

theorem replaced_eq {f : SpanOwner → Option Nat} (hsame : ∀ level, f ⟨r, level⟩ = run.holds level)
    (hother : ∀ o, o.run ≠ r → f o = held o) : replaced held r run = f := by
  funext o
  obtain ⟨r', level⟩ := o
  rw [replaced]
  split
  · rename_i heq
    dsimp only at heq
    rw [heq, hsame]
  · rename_i hne
    rw [hother _ hne]

/-- There is no such task. -/
theorem step_node_of_none {n : String} {interrupted : Option TaskRaised}
    (htask : run.wave.get? n = none) :
    run.step settings r sinks (.node n interrupted) t = (run, t) := by
  rw [step, htask]

theorem step_node_of_some {n : String} {interrupted : Option TaskRaised} {task : NodeTask α}
    (htask : run.wave.get? n = some task) :
    run.step settings r sinks (.node n interrupted) t =
      let result := stepNode settings run.job r sinks task.node run.ledger.outcomes interrupted
        task.phase t
      ({ run with wave := run.wave.modify n fun task ↦ { task with phase := result.1 } },
        result.2) := by
  rw [step, htask]

variable (hheld : ∀ level, held ⟨r, level⟩ = run.holds level)

include hheld

/-- The step of a task of the wave. -/
theorem replaced_node {n : String} {task : NodeTask α} (htask : run.wave.get? n = some task)
    (phase : NodePhase α) :
    replaced held r { run with wave := run.wave.modify n fun task ↦ { task with phase := phase } } =
      Function.update held ⟨r, .node n⟩ phase.span? := by
  refine replaced_eq (fun level ↦ ?_) fun o hne ↦ ?_
  · cases level with
    | job => exact (Function.update_of_ne (by simp) _ _).trans (hheld .job)
    | execute => exact (Function.update_of_ne (by simp) _ _).trans (hheld .execute)
    | node m =>
      rw [holds, Dict.get?_modify]
      by_cases hm : m = n
      · subst hm
        rw [Function.update_self, htask]
        simp
      · rw [Function.update_of_ne (by simpa using hm), hheld (.node m)]
        simp [holds, hm]
  · rw [Function.update_of_ne]
    rintro rfl
    exact hne rfl

/-- The end of `_run_job`. -/
theorem replaced_done : replaced held r { run with stage := .done } = forgotten held r := by
  refine replaced_eq (fun level ↦ ?_) fun o hne ↦ ?_
  · cases level with
    | job => exact Function.update_self ..
    | execute => rw [forgotten, Function.update_of_ne (by simp), Function.update_self]; rfl
    | node m => 
      rw [forgotten, Function.update_of_ne (by simp), Function.update_of_ne (by simp), hheld (.node m)]
      rfl
  · rw [forgotten, Function.update_of_ne, Function.update_of_ne]
    · rintro rfl
      exact hne rfl
    · rintro rfl
      exact hne rfl

/-- The spans after the first step, when no task of the wave has one. -/
theorem replaced_begun {run' : TracedRun α} {jobSpan executeSpan : Option Nat}
    (hjob : run'.stage.jobSpan? = jobSpan) (hexecute : run'.stage.executeSpan? = executeSpan)
    (hnodes : ∀ n, run'.holds (.node n) = run.holds (.node n)) :
    replaced held r run' = begun held r jobSpan executeSpan := by
  refine replaced_eq (fun level ↦ ?_) fun o hne ↦ ?_
  · cases level with
    | job => exact (begun_job jobSpan executeSpan).trans hjob.symm
    | execute => exact (begun_execute jobSpan executeSpan).trans hexecute.symm
    | node n =>
      rw [begun, Function.update_of_ne (by simp), Function.update_of_ne (by simp), hheld, hnodes]
  · rw [begun, Function.update_of_ne, Function.update_of_ne]
    · rintro rfl
      exact hne rfl
    · rintro rfl
      exact hne rfl

variable {closes : Prop} {t' : RuntimeTracer}

/-- The task of `_run_job` is done. -/
theorem stepSpec_ends (hlaws : run.Laws settings)
    {answer : Except TaskRaised (Option Nat × Progress α Unit)} (hends : Ends answer)
    (hmoves : Moves (OfRun r) t.handles held t'.handles (forgotten held r) closes)
    (hdone : settings.scheduler = true → run.AllReturned ∨ ¬closes ∨
      ∃ n task exc, run.wave.get? n = some task ∧ task.phase = .raised (.exception exc)) :
    StepSpec settings r held run t closes (run.enter answer) t' := by
  rw [hends run]
  refine ⟨hlaws.done, ?_, fun _ n task exc htask hexc ↦ .inl ⟨task, htask, hexc⟩, ?_⟩
  · rwa [replaced_done hheld]
  · intro htraced _
    rcases hdone htraced with hall | hlost | hraised
    · exact .inl hall
    · exact .inr (.inl hlost)
    · exact .inr (.inr (.inr hraised))

/-- `execute` awaits the tasks of a wave. -/
theorem stepSpec_gathering {jobSpan executeSpan : Option Nat}
    (hjob : jobSpan.isSome = settings.background) (hexecute : executeSpan.isSome = settings.scheduler)
    (hnodes : ∀ n, run.holds (.node n) = none) (ledger : Ledger α)
    (hmoves : Moves (OfRun r) t.handles held t'.handles (begun held r jobSpan executeSpan) closes) :
    StepSpec settings r held run t closes
      (run.enter (waitingAnswer run.job jobSpan executeSpan ledger)) t' := by
  refine ⟨Laws.gathering hjob hexecute, ?_, fun _ n task exc htask hexc ↦ ?_, fun _ hstage ↦ ?_⟩
  · have hreplaced : replaced held r (run.enter (waitingAnswer run.job jobSpan executeSpan ledger)) =
        begun held r jobSpan executeSpan :=
      replaced_begun hheld rfl rfl fun n ↦ (span?_newWave run.job ledger n).trans (hnodes n).symm
    rwa [hreplaced]
  · rw [(get?_newWave htask).1] at hexc
    cases hexc
  · cases hstage

/-- `execute` awaits the checkpoints of the job. -/
theorem stepSpec_listing {jobSpan executeSpan : Option Nat}
    (hjob : jobSpan.isSome = settings.background) (hexecute : executeSpan.isSome = settings.scheduler)
    (hwave : run.wave = Dict.empty)
    (hmoves : Moves (OfRun r) t.handles held t'.handles (begun held r jobSpan executeSpan) closes) :
    StepSpec settings r held run t closes (run.enter (.ok (jobSpan, .listing executeSpan))) t' := by
  have hnone : ∀ n task, run.wave.get? n ≠ some task := by
    intro n task htask
    rw [hwave] at htask
    cases htask
  refine ⟨⟨fun n task h ↦ absurd h (hnone n task), fun n task h ↦ absurd h (hnone n task),
    fun _ ↦ hwave, .inr (.inr ⟨hjob, hexecute⟩)⟩, ?_, fun _ n task exc h _ ↦ absurd h (hnone n task),
    fun _ hstage ↦ ?_⟩
  · have hreplaced : replaced held r (run.enter (.ok (jobSpan, .listing executeSpan))) =
        begun held r jobSpan executeSpan := replaced_begun hheld rfl rfl fun n ↦ rfl
    rwa [hreplaced]
  · cases hstage

variable (hlaws : run.Laws settings) (hkept : Kept t.handles held)

include hlaws hkept

/-- Nothing happens. -/
theorem stepSpec_refl (hcloses : closes) :
    StepSpec settings r held run t closes run t where
  laws := hlaws
  moves := by
    rw [replaced_eq hheld fun _ _ ↦ rfl]
    exact moves_refl hkept hcloses
  raised _ n task exc htask hexc := .inl ⟨task, htask, hexc⟩
  done _ hstage := by
    by_cases hall : run.AllReturned
    · exact .inl hall
    · exact .inr (.inr (.inl ⟨hstage, hall⟩))

theorem stepSpec_node (n : String) (interrupted : Option TaskRaised) :
    let result := run.step settings r sinks (.node n interrupted) t
    StepSpec settings r held run t (run.Closes settings sinks (.node n interrupted) t) result.1
      result.2 := by
  have hcloses : run.Closes settings sinks (.node n interrupted) t ↔
      (settings.scheduler = true → ∀ task, run.wave.get? n = some task →
        ClosesNode settings run.job sinks t task.node interrupted task.phase) := Iff.rfl
  cases htask : run.wave.get? n with
  | none =>
    rw [step_node_of_none htask]
    refine stepSpec_refl hheld hlaws hkept (hcloses.mpr fun _ task h ↦ ?_)
    rw [htask] at h
    cases h
  | some task =>
    rw [step_node_of_some htask]
    have hspan : held ⟨r, .node n⟩ = task.phase.span? := by
      rw [hheld, holds, htask]
      rfl
    have hopen : IsOpen task.phase.span? t := fun id hid ↦ (hkept _ id (hspan.trans hid)).1
    have hnode := stepNode_spec run.job sinks r task.node (hlaws.hasSpan n task htask) hopen
      run.ledger.outcomes interrupted
    have hcloses' : (settings.scheduler = true →
        ClosesNode settings run.job sinks t task.node interrupted task.phase) ↔
          run.Closes settings sinks (.node n interrupted) t := by
      rw [hcloses, htask]
      simp
    dsimp only at hnode ⊢
    have hstays : task.phase.outcome?.isSome = true →
        stepNode settings run.job r sinks task.node run.ledger.outcomes interrupted task.phase t =
          (task.phase, t) := fun h ↦ stepNode_of_returned h _ _
    generalize stepNode settings run.job r sinks task.node run.ledger.outcomes interrupted task.phase
      t = result at hnode hstays ⊢
    have hget : ∀ m task', (run.wave.modify n fun task ↦ { task with phase := result.1 }).get? m =
        some task' → m = n ∧ task' = { task with phase := result.1 } ∨
          m ≠ n ∧ run.wave.get? m = some task' := by
      intro m task' htask'
      obtain ⟨old, hold, rfl⟩ := Dict.get?_modify_eq_some htask'
      by_cases hm : m = n
      · subst hm
        rw [htask] at hold
        cases hold
        exact .inl ⟨rfl, if_pos rfl⟩
      · rw [if_neg hm]
        exact .inr ⟨hm, hold⟩
    refine ⟨⟨?_, ?_, ?_, ?_⟩, ?_, ?_, ?_⟩
    · intro m task' htask'
      rcases hget m task' htask' with ⟨rfl, rfl⟩ | ⟨-, hold⟩
      · exact hlaws.filed m task htask
      · exact hlaws.filed m task' hold
    · intro m task' htask'
      rcases hget m task' htask' with ⟨rfl, rfl⟩ | ⟨-, hold⟩
      · exact hnode.hasSpan
      · exact hlaws.hasSpan m task' hold
    · intro hstage
      have hempty := hlaws.noWave hstage
      rw [hempty] at htask
      cases htask
    · exact hlaws.spans
    · have heffect := hnode.effect
      rw [hlaws.filed n task htask] at heffect
      have hrun : OfRun r ⟨r, .node n⟩ := rfl
      rw [replaced_node hheld htask]
      exact (heffect.moves hkept hspan hrun).congr hcloses'
    · intro htraced m task' exc htask' hexc
      rcases hget m task' htask' with ⟨rfl, rfl⟩ | ⟨-, hold⟩
      · rcases hnode.raised htraced exc hexc with hsame | hlost
        · exact .inl ⟨task, htask, hsame.trans hexc⟩
        · exact .inr fun hc ↦ hlost (hcloses'.mpr hc htraced)
      · exact .inl ⟨task', hold, hexc⟩
    · intro _ hstage
      by_cases hall : run.AllReturned
      · refine .inl (allReturned_iff.mpr fun m task' htask' ↦ ?_)
        rcases hget m task' htask' with ⟨rfl, rfl⟩ | ⟨-, hold⟩
        · have hreturned := allReturned_iff.mp hall m task htask
          rwa [hstays hreturned]
        · exact allReturned_iff.mp hall m task' hold
      · exact .inr (.inr (.inl ⟨hstage, hall⟩))

/-- `execute` goes on. -/
theorem stepSpec_goOn {jobSpan executeSpan : Option Nat}
    (hjobIs : run.stage.jobSpan? = jobSpan) (hexecuteIs : run.stage.executeSpan? = executeSpan)
    (hjob : jobSpan.isSome = settings.background) (hexecute : executeSpan.isSome = settings.scheduler)
    {x : Except TaskRaised (Ledger α)} (hok : ∀ ledger, x = .ok ledger → run.AllReturned)
    (hdone : settings.scheduler = true → run.AllReturned ∨
      ¬ClosesRest settings run.job sinks t x ∨
        ∃ n task exc, run.wave.get? n = some task ∧ task.phase = .raised (.exception exc)) :
    let result := run.goOn sinks jobSpan executeSpan x t
    StepSpec settings r held run t (ClosesRest settings run.job sinks t x) result.1 result.2 := by
  have hjobHeld : held ⟨r, .job⟩ = jobSpan := (hheld .job).trans hjobIs
  have hexecuteHeld : held ⟨r, .execute⟩ = executeSpan := (hheld .execute).trans hexecuteIs
  have hjobSome : (held ⟨r, .job⟩).isSome = settings.background := by rw [hjobHeld, hjob]
  have hexecuteSome : (held ⟨r, .execute⟩).isSome = settings.scheduler := by
    rw [hexecuteHeld, hexecute]
  have hrest := goOn_spec run.job sinks hkept hjobSome hexecuteSome x
  rw [hjobHeld, hexecuteHeld] at hrest
  rcases hrest with ⟨ledger, hx, hanswer, hcloses⟩ | ⟨hends, hmoves⟩
  · rw [goOn, hanswer]
    refine stepSpec_gathering hheld hjob hexecute (hok ledger hx).holds_node ledger ?_
    rw [begun_eq_self hjobHeld hexecuteHeld]
    exact moves_refl hkept hcloses
  · exact stepSpec_ends hheld hlaws hends hmoves hdone

theorem stepSpec_begin (cancelled : Bool) :
    let result := run.step settings r sinks (.begin cancelled) t
    StepSpec settings r held run t (run.Closes settings sinks (.begin cancelled) t) result.1
      result.2 := by
  cases hstage : run.stage with
  | created =>
    have hwave := hlaws.noWave (.inl hstage)
    have hjob : held ⟨r, .job⟩ = none := by
      rw [hheld, holds, hstage]
      rfl
    have hexecute : held ⟨r, .execute⟩ = none := by
      rw [hheld, holds, hstage]
      rfl
    have hall := allReturned_of_empty hwave
    have hforgotten : forgotten held r = held := by
      rw [← begun_eq_self hjob hexecute, forgotten_begun hjob hexecute, begun_eq_self hjob hexecute]
    cases cancelled with
    | true =>
      have hstep : run.step settings r sinks (.begin true) t =
          (run.enter (.error .cancelledError), t) := by
        simp only [step, hstage, enter]
      rw [hstep]
      refine stepSpec_ends hheld hlaws (ends_error .cancelledError) ?_ fun _ ↦ .inl hall
      rw [hforgotten]
      refine moves_refl hkept ?_
      simp only [Closes]
    | false =>
      have hstep : run.step settings r sinks (.begin false) t =
          (run.enter (beginJob settings run.job r sinks run.resume t).1,
            (beginJob settings run.job r sinks run.resume t).2) := by
        simp only [step, hstage]
      have hcloses : run.Closes settings sinks (.begin false) t =
          ClosesBegin settings run.job sinks t run.resume := by
        simp only [Closes, hstage]
      rw [hstep, hcloses]
      rcases beginJob_spec hkept hjob hexecute run.resume with
        ⟨jobSpan, executeSpan, hanswer | hanswer, hjobSpan, hexecuteSpan, hmoves⟩ | ⟨hends, hmoves⟩
      · rw [hanswer]
        exact stepSpec_listing hheld hjobSpan hexecuteSpan hwave hmoves
      · rw [hanswer]
        exact stepSpec_gathering hheld hjobSpan hexecuteSpan hall.holds_node .empty hmoves
      · refine stepSpec_ends hheld hlaws hends ?_ fun _ ↦ .inl hall
        rwa [hforgotten]
  | _ =>
    have hstep : run.step settings r sinks (.begin cancelled) t = (run, t) := by
      cases cancelled <;> simp only [step, hstage]
    have hcloses : run.Closes settings sinks (.begin cancelled) t := by
      cases cancelled <;> simp only [Closes, hstage]
    rw [hstep]
    exact stepSpec_refl hheld hlaws hkept hcloses

theorem stepSpec_listed (answer : Except TaskRaised (List (CheckpointRecord α))) :
    let result := run.step settings r sinks (.listed answer) t
    StepSpec settings r held run t (run.Closes settings sinks (.listed answer) t) result.1
      result.2 := by
  cases hstage : run.stage with
  | listing jobSpan executeSpan =>
    have hall := allReturned_of_empty (hlaws.noWave (.inr ⟨jobSpan, executeSpan, hstage⟩))
    have hstep : run.step settings r sinks (.listed answer) t = run.goOn sinks jobSpan executeSpan
        (answer.map fun listed ↦ listed.foldl Ledger.loadCheckpoint .empty) t := by
      simp only [step, hstage]
    have hcloses : run.Closes settings sinks (.listed answer) t = ClosesRest settings run.job sinks t
        (answer.map fun listed ↦ listed.foldl Ledger.loadCheckpoint .empty) := by
      simp only [Closes, hstage]
    rw [hstep, hcloses]
    obtain ⟨hjob, hexecute⟩ := hlaws.isSome_spans (by simp [hstage]) (by simp [hstage])
    rw [hstage] at hjob hexecute
    exact stepSpec_goOn hheld hlaws hkept (by rw [hstage]) (by rw [hstage]) hjob hexecute
      (fun _ _ ↦ hall) fun _ ↦ .inl hall
  | _ =>
    have hstep : run.step settings r sinks (.listed answer) t = (run, t) := by
      simp only [step, hstage]
    have hcloses : run.Closes settings sinks (.listed answer) t := by
      simp only [Closes, hstage]
    rw [hstep]
    exact stepSpec_refl hheld hlaws hkept hcloses

theorem stepSpec_gathered (ending : GatherEnd) :
    let result := run.step settings r sinks (.gathered ending) t
    StepSpec settings r held run t (run.Closes settings sinks (.gathered ending) t) result.1
      result.2 := by
  cases hstage : run.stage with
  | gathering jobSpan executeSpan =>
    have hcloses : run.Closes settings sinks (.gathered ending) t ↔
        ∀ x, run.gatherAnswer ending = some x → ClosesRest settings run.job sinks t x := by
      simp only [Closes, hstage]
    cases hanswer : run.gatherAnswer ending with
    | none =>
      have hstep : run.step settings r sinks (.gathered ending) t = (run, t) := by
        simp only [step, hstage, hanswer]
      rw [hstep]
      refine stepSpec_refl hheld hlaws hkept (hcloses.mpr fun x hx ↦ ?_)
      rw [hanswer] at hx
      cases hx
    | some x =>
      have hstep : run.step settings r sinks (.gathered ending) t =
          run.goOn sinks jobSpan executeSpan x t := by
        simp only [step, hstage, hanswer]
      have hcloses' : run.Closes settings sinks (.gathered ending) t =
          ClosesRest settings run.job sinks t x := by
        refine propext (hcloses.trans ⟨fun h ↦ h x hanswer, fun h y hy ↦ ?_⟩)
        rw [hanswer] at hy
        cases hy
        exact h
      obtain ⟨hjob, hexecute⟩ := hlaws.isSome_spans (by simp [hstage]) (by simp [hstage])
      rw [hstage] at hjob hexecute
      rw [hstep, hcloses']
      refine stepSpec_goOn hheld hlaws hkept (by rw [hstage]) (by rw [hstage]) hjob hexecute ?_ ?_
      · rintro ledger rfl
        exact allReturned_of_gatherAnswer hanswer
      · intro htraced
        exact done_of_gatherAnswer htraced hanswer
  | _ =>
    have hstep : run.step settings r sinks (.gathered ending) t = (run, t) := by
      simp only [step, hstage]
    have hcloses : run.Closes settings sinks (.gathered ending) t := by
      simp only [Closes, hstage]
    rw [hstep]
    exact stepSpec_refl hheld hlaws hkept hcloses

/-- **One step of a run.** -/
theorem stepSpec_step (input : RunInput α) :
    let result := run.step settings r sinks input t
    StepSpec settings r held run t (run.Closes settings sinks input t) result.1 result.2 := by
  cases input with
  | begin cancelled => exact stepSpec_begin hheld hlaws hkept cancelled
  | listed answer => exact stepSpec_listed hheld hlaws hkept answer
  | node n interrupted => exact stepSpec_node hheld hlaws hkept n interrupted
  | gathered ending => exact stepSpec_gathered hheld hlaws hkept ending

end TracedRun

end Core
end ExoBrain
