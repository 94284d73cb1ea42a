import ExoBrain.Core.RunSpans
import ExoBrain.Lib.Run

/-!
# Which spans are closed

The runs of several jobs share one tracer, and their steps may come in any order.  No step touches the
spans of another run, so each run has an account of its own: `AccountedFor` says that every active
span of the run is held by one of its coroutines.

`accountedFor_step` says that the account of a run is complete after a step exactly if it was before,
and the step loses no span of the run; `exec_accountedFor` is the same for a list of steps.  When the
task of a job is done, none of its coroutines holds a span, provided that the account is complete.
So `spans_closed_iff` can say exactly in which runs all spans of a job are closed then, and
`spans_left_open` is one in which they are not: the job is cancelled while a handler runs.
-/

set_option autoImplicit false

namespace ExoBrain
namespace Core

open Custody Traced

variable {α : Type}

namespace TracedRuntime

/-- The span a coroutine holds. -/
def holds (s : TracedRuntime α) (o : SpanOwner) : Option Nat :=
  (s.runs[o.run]?).bind fun run ↦ run.holds o.level

/-- All active spans of the run are held. -/
def AccountedFor (s : TracedRuntime α) (r : Nat) : Prop :=
  Accounted (OfRun r) s.tracer.handles s.holds

/-- A step does not lose a span of the run. -/
def ClosesFor (settings : TraceSettings) (r : Nat) (s : TracedRuntime α) : TracedInput α → Prop
  | .create _ _ => True
  | .run r' input sinks =>
    r' = r → ∀ run, s.runs[r']? = some run → run.Closes settings sinks input s.tracer

/-- What holds at any time. -/
structure Inv (settings : TraceSettings) (s : TracedRuntime α) : Prop where
  laws : ∀ (r : Nat) run, s.runs[r]? = some run → run.Laws settings
  kept : Kept s.tracer.handles s.holds
  /-- A task that has raised an exception has lost its span. -/
  raised : settings.scheduler = true → ∀ (r : Nat) run, s.runs[r]? = some run →
    ∀ n task exc, run.wave.get? n = some task → task.phase = .raised (.exception exc) →
      ¬s.AccountedFor r
  /-- A run that is done and has lost no span waits for no task. -/
  done : settings.scheduler = true → ∀ (r : Nat) run, s.runs[r]? = some run → run.stage = .done →
    s.AccountedFor r → run.AllReturned

variable {settings : TraceSettings} {s : TracedRuntime α} {r : Nat} {run : TracedRun α}

theorem inv_initial (hasExporter fallbackToMemory : Bool) :
    Inv settings (initial hasExporter fallbackToMemory : TracedRuntime α) where
  laws r run h := by cases h
  kept o id h := by cases h
  raised _ r run h := by cases h
  done _ r run h := by cases h

theorem accounted_initial (hasExporter fallbackToMemory : Bool) (r : Nat) :
    (initial hasExporter fallbackToMemory : TracedRuntime α).AccountedFor r := by
  intro id hid
  cases hid

/-! ## One step -/

theorem holds_create (job : SchedulerJob α) (resume : Bool) :
    (step settings s (.create job resume)).2.holds = s.holds := by
  funext o
  rw [holds, holds, step]
  dsimp only
  rw [List.getElem?_append]
  split
  · rfl
  · rename_i hge
    rw [List.getElem?_eq_none (not_lt.mp hge), Option.bind_none, List.getElem?_singleton]
    split
    · obtain ⟨r, level⟩ := o
      cases level <;> rfl
    · rfl

theorem holds_set (hrun : s.runs[r]? = some run) (run' : TracedRun α) (t' : RuntimeTracer) :
    holds { tracer := t', runs := s.runs.set r run' } = TracedRun.replaced s.holds r run' := by
  funext o
  rw [holds, TracedRun.replaced]
  dsimp only
  rw [List.getElem?_set]
  split
  · rename_i heq
    rw [if_pos (List.getElem?_eq_some_iff.mp hrun).1, if_pos heq.symm]
    rfl
  · rename_i hne
    rw [if_neg (Ne.symm hne)]
    rfl

/-- A step of a run that does not exist. -/
theorem step_of_none (hrun : s.runs[r]? = none) (input : RunInput α) (sinks : Sinks) :
    (step settings s (.run r input sinks)).2 = s := by
  simp only [step, hrun]

theorem step_of_some (hrun : s.runs[r]? = some run) (input : RunInput α) (sinks : Sinks) :
    (step settings s (.run r input sinks)).2 =
      { tracer := (run.step settings r sinks input s.tracer).2
        runs := s.runs.set r (run.step settings r sinks input s.tracer).1 } := by
  simp only [step, hrun]

theorem Inv.stepSpec (h : s.Inv settings) (hrun : s.runs[r]? = some run) (input : RunInput α)
    (sinks : Sinks) :
    let result := run.step settings r sinks input s.tracer
    TracedRun.StepSpec settings r s.holds run s.tracer (run.Closes settings sinks input s.tracer)
      result.1 result.2 := by
  refine TracedRun.stepSpec_step (fun level ↦ ?_) (h.laws r run hrun) h.kept input
  rw [holds, hrun]
  rfl

/-- **One step.**  No span of the run is lost afterwards exactly if none was before, and the step
does not lose one. -/
theorem accountedFor_step (h : s.Inv settings) (r : Nat) (input : TracedInput α) :
    (step settings s input).2.AccountedFor r ↔ s.AccountedFor r ∧ ClosesFor settings r s input := by
  cases input with
  | create job resume =>
    rw [AccountedFor, holds_create]
    exact (and_iff_left trivial).symm
  | run r' input sinks =>
    cases hrun : s.runs[r']? with
    | none =>
      rw [step_of_none hrun]
      refine (and_iff_left fun _ run hrun' ↦ ?_).symm
      rw [hrun] at hrun'
      cases hrun'
    | some run =>
      have hmoves := (h.stepSpec hrun input sinks).moves
      rw [AccountedFor, step_of_some hrun, holds_set hrun]
      by_cases hsame : r' = r
      · subst hsame
        refine hmoves.accounted_iff.trans (and_congr_right' ⟨fun hc _ run' hrun' ↦ ?_, fun hc ↦ ?_⟩)
        · rw [hrun] at hrun'
          cases hrun'
          exact hc
        · exact hc rfl run hrun
      · refine (hmoves.others (OfRun r) fun o ho ho' ↦ hsame (ho.symm.trans ho')).trans ?_
        exact (and_iff_left fun heq ↦ absurd heq hsame).symm

/-- The creation of a run. -/
theorem Inv.create (h : s.Inv settings) (job : SchedulerJob α) (resume : Bool) :
    (step settings s (.create job resume)).2.Inv settings := by
  have haccounted : ∀ r, (step settings s (.create job resume)).2.AccountedFor r ↔ s.AccountedFor r :=
    fun r ↦ (accountedFor_step h r _).trans (and_iff_left trivial)
  have hget : ∀ (r : Nat) run, (s.runs ++ [{ job := job, resume := resume }])[r]? = some run →
      s.runs[r]? = some run ∨ run = { job := job, resume := resume } := by
    intro r run hrun
    rw [List.getElem?_append] at hrun
    split at hrun
    · exact .inl hrun
    · rw [List.getElem?_singleton] at hrun
      split at hrun
      · exact .inr (Option.some.inj hrun).symm
      · cases hrun
  refine ⟨fun r run hrun ↦ ?_, ?_, fun htraced r run hrun n task exc htask hexc ↦ ?_,
    fun htraced r run hrun hstage hall ↦ ?_⟩
  · rcases hget r run hrun with hold | rfl
    · exact h.laws r run hold
    · exact TracedRun.laws_new job resume
  · rw [holds_create]
    exact h.kept
  · rw [haccounted]
    rcases hget r run hrun with hold | rfl
    · exact h.raised htraced r run hold n task exc htask hexc
    · cases htask
  · rcases hget r run hrun with hold | rfl
    · exact h.done htraced r run hold hstage ((haccounted r).mp hall)
    · cases hstage

theorem Inv.step (h : s.Inv settings) (input : TracedInput α) :
    (step settings s input).2.Inv settings := by
  cases input with
  | create job resume => exact h.create job resume
  | run r' input sinks =>
    cases hrun : s.runs[r']? with
    | none =>
      rw [step_of_none hrun]
      exact h
    | some run =>
      have hspec := h.stepSpec hrun input sinks
      have haccounted := fun r ↦ accountedFor_step h r (.run r' input sinks)
      have hcloses : ClosesFor settings r' s (.run r' input sinks) →
          run.Closes settings sinks input s.tracer := fun hc ↦ hc rfl run hrun
      have hget : ∀ (r : Nat) run',
          (TracedRuntime.step settings s (.run r' input sinks)).2.runs[r]? = some run' →
          r = r' ∧ run' = (run.step settings r' sinks input s.tracer).1 ∨
            s.runs[r]? = some run' := by
        intro r run' hrun'
        rw [step_of_some hrun, List.getElem?_set, if_pos (List.getElem?_eq_some_iff.mp hrun).1]
          at hrun'
        split at hrun'
        · rename_i heq
          exact .inl ⟨heq.symm, (Option.some.inj hrun').symm⟩
        · exact .inr hrun'
      refine ⟨fun r run' hrun' ↦ ?_, ?_, fun htraced r run' hrun' n task exc htask hexc hall ↦ ?_,
        fun htraced r run' hrun' hstage hall ↦ ?_⟩
      · rcases hget r run' hrun' with ⟨rfl, rfl⟩ | hold
        · exact hspec.laws
        · exact h.laws r run' hold
      · rw [step_of_some hrun, holds_set hrun]
        exact hspec.moves.kept
      · obtain ⟨hbefore, hc⟩ := (haccounted r).mp hall
        rcases hget r run' hrun' with ⟨rfl, rfl⟩ | hold
        · rcases hspec.raised htraced n task exc htask hexc with ⟨task', htask', hexc'⟩ | hlost
          · exact h.raised htraced r run hrun n task' exc htask' hexc' hbefore
          · exact hlost (hcloses hc)
        · exact h.raised htraced r run' hold n task exc htask hexc hbefore
      · obtain ⟨hbefore, hc⟩ := (haccounted r).mp hall
        rcases hget r run' hrun' with ⟨rfl, rfl⟩ | hold
        · rcases hspec.done htraced hstage with
            hreturned | hlost | ⟨hstage', hnot⟩ | ⟨n, task, exc, htask, hexc⟩
          · exact hreturned
          · exact absurd (hcloses hc) hlost
          · exact absurd (h.done htraced r run hrun hstage' hbefore) hnot
          · exact absurd hbefore (h.raised htraced r run hrun n task exc htask hexc)
        · exact h.done htraced r run' hold hstage hbefore

/-! ## Runs -/

/-- **No span is lost exactly if no step loses one.** -/
theorem exec_accountedFor (h : s.Inv settings) (r : Nat) (inputs : List (TracedInput α)) :
    (Run.exec (step settings) s inputs).Inv settings ∧
      ((Run.exec (step settings) s inputs).AccountedFor r ↔
        s.AccountedFor r ∧ Run.Along (step settings) (ClosesFor settings r) s inputs) := by
  induction inputs generalizing s with
  | nil => exact ⟨h, (and_iff_left trivial).symm⟩
  | cons input inputs ih =>
    obtain ⟨hinv, hiff⟩ := ih (h.step input)
    refine ⟨hinv, hiff.trans ?_⟩
    rw [accountedFor_step h r input, and_assoc]
    exact Iff.rfl

/-- When a run is done, all active spans are held only if there are none. -/
theorem Inv.spansClosed_iff (h : s.Inv settings) (hrun : s.runs[r]? = some run)
    (hdone : run.stage = .done) : s.SpansClosed r ↔ s.AccountedFor r := by
  constructor
  · intro hclosed id hid o howner hr
    rw [RuntimeTracer.handles, List.getElem?_map] at howner
    obtain ⟨span, hspan, rfl⟩ := Option.map_eq_some_iff.mp howner
    exact absurd hid (hclosed id span hspan hr).2
  · intro hall id span hspan hr
    have hid : id ∉ s.tracer.activeById := by
      intro hid
      have howner : s.tracer.handles.owners[id]? = some span.owner := by
        rw [RuntimeTracer.handles, List.getElem?_map, hspan]
        rfl
      have hheld := hall id hid span.owner howner hr
      rw [holds, hr, hrun, Option.bind_some] at hheld
      cases hlevel : span.owner.level with
      | job =>
        rw [hlevel, TracedRun.holds, hdone] at hheld
        cases hheld
      | execute =>
        rw [hlevel, TracedRun.holds, hdone] at hheld
        cases hheld
      | node n =>
        rw [hlevel] at hheld
        cases htraced : settings.scheduler with
        | true =>
          rw [(h.done htraced r run hrun hdone hall).holds_node n] at hheld
          cases hheld
        | false =>
          rw [TracedRun.holds, Option.bind_eq_some_iff] at hheld
          obtain ⟨task, htask, hspan⟩ := hheld
          have hscheduler := ((h.laws r run hrun).hasSpan n task htask).scheduler hspan
          rw [htraced] at hscheduler
          cases hscheduler
    exact ⟨s.tracer.finished_of_notMem id span hspan hid, hid⟩

/-- **When the spans of a job are closed.**  In every run of the event loop, once the task of a job
is done: every span that was started for it has been finished and none is active, exactly if no step
of the run has lost one. -/
theorem spans_closed_iff (settings : TraceSettings) (hasExporter fallbackToMemory : Bool)
    (inputs : List (TracedInput α)) (r : Nat) (run : TracedRun α)
    (hrun : (Run.exec (step settings) (initial hasExporter fallbackToMemory) inputs).runs[r]? =
      some run) (hdone : run.stage = .done) :
    (Run.exec (step settings) (initial hasExporter fallbackToMemory) inputs).SpansClosed r ↔
      Run.Along (step settings) (ClosesFor settings r) (initial hasExporter fallbackToMemory)
        inputs := by
  have hinitial : (initial hasExporter fallbackToMemory : TracedRuntime α).Inv settings :=
    inv_initial hasExporter fallbackToMemory
  obtain ⟨hinv, hiff⟩ := exec_accountedFor hinitial r inputs
  rw [hinv.spansClosed_iff hrun hdone, hiff]
  exact and_iff_right (accounted_initial hasExporter fallbackToMemory r)

/-! ## A job of one node -/

/-- A step of a run that is there. -/
theorem closesFor_run {input : RunInput α} {sinks : Sinks} (hrun : s.runs[r]? = some run)
    (h : run.Closes settings sinks input s.tracer) :
    ClosesFor settings r s (.run r input sinks) := by
  intro _ run' hrun'
  rw [hrun] at hrun'
  cases hrun'
  exact h

/-- A step of a task that is there. -/
theorem closes_node {sinks : Sinks} {t : RuntimeTracer} {n : String}
    {interrupted : Option TaskRaised} {task : NodeTask α} (htask : run.wave.get? n = some task)
    (h : ClosesNode settings run.job sinks t task.node interrupted task.phase) :
    run.Closes settings sinks (.node n interrupted) t := by
  intro _ task' htask'
  rw [htask] at htask'
  cases htask'
  exact h

/-- A job of one node. -/
def oneNodeJob : SchedulerJob Unit where
  jobId := "job"
  graph := (TaskGraph.new [{ nodeId := "wait" }]).toOption.get (by decide)
  initialPayload := Dict.empty
  maxConcurrency := 1
  concurrency_pos := Nat.one_pos
  handlers _ _ := .returned Dict.empty

/-- Both have the tracer. -/
def bothTraced : TraceSettings := ⟨true, true⟩

/-- The steps up to the handler. -/
def upToHandler : List (TracedInput Unit) :=
  [.create oneNodeJob false, .run 0 (.begin false) {}, .run 0 (.node "wait" none) {},
    .run 0 (.node "wait" none) {}]

/-- The node is completed. -/
def undisturbed : List (TracedInput Unit) :=
  upToHandler ++ [.run 0 (.node "wait" none) {}, .run 0 (.node "wait" none) {},
    .run 0 (.gathered .returned) {}]

/-- Nothing is lost when the node is completed. -/
theorem spans_closed_iff_undisturbed :
    (Run.exec (step bothTraced) (initial false true) undisturbed).SpansClosed 0 := by
  refine (spans_closed_iff bothTraced false true undisturbed 0 _ rfl rfl).mpr
    ⟨trivial, ?_, ?_, ?_, ?_, ?_, ?_, trivial⟩
  · refine closesFor_run rfl (.inr (.inl ?_))
    decide
  · exact closesFor_run rfl (closes_node rfl fun _ ↦ rfl)
  · exact closesFor_run rfl (closes_node rfl rfl)
  · exact closesFor_run rfl (closes_node rfl ⟨by decide, .inl ⟨rfl, Dict.empty, rfl⟩⟩)
  · exact closesFor_run rfl (closes_node rfl ⟨by decide, .inl ⟨rfl, rfl, fun _ ↦ rfl⟩⟩)
  · refine closesFor_run rfl fun x hx ↦ ?_
    cases hx
    exact .inr ⟨fun _ ↦ .inl ⟨rfl, fun _ ↦ rfl⟩,
      fun _ ↦ .inl ⟨⟨rfl, fun _ ↦ rfl⟩, rfl, fun _ ↦ rfl⟩⟩

/-- The job is cancelled while the handler runs. -/
def cancelledInHandler : List (TracedInput Unit) :=
  upToHandler ++ [.run 0 (.node "wait" (some .cancelledError)) {},
    .run 0 (.gathered (.raised "wait")) {}]

/-- `execute` and `_run_node` do not finish their spans then. -/
theorem spans_left_open :
    let s := Run.exec (step bothTraced) (initial false true) cancelledInHandler
    s.runs.map TracedRun.stage = [.done] ∧
      s.tracer.spans.map (fun span ↦ (span.name, span.status, span.isFinished)) =
        [("background.run_job", "cancelled", true), ("scheduler.execute", "running", false),
          ("scheduler.run_node", "running", false)] ∧
      s.tracer.activeById = {1, 2} ∧ ¬s.SpansClosed 0 := by
  intro s
  have hspans : s.runs.map TracedRun.stage = [.done] ∧
      s.tracer.spans.map (fun span ↦ (span.name, span.status, span.isFinished)) =
        [("background.run_job", "cancelled", true), ("scheduler.execute", "running", false),
          ("scheduler.run_node", "running", false)] ∧
      s.tracer.activeById = {1, 2} := by
    decide
  obtain ⟨hdone, hnames, hactive⟩ := hspans
  refine ⟨hdone, hnames, hactive, fun hclosed ↦ ?_⟩
  have h := (hclosed 1 _ rfl rfl).2
  rw [hactive] at h
  exact h (by decide)

end TracedRuntime
end Core
end ExoBrain
