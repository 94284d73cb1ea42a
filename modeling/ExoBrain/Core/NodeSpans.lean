import ExoBrain.Core.TracedRuns

/-!
# The span of a node

`_run_node` finishes its span before it returns.  It also leaves by an exception: any that is raised
while the first checkpoint or the one of a failed node is saved, or while it sleeps, and
`CancelledError` wherever it is raised.  The span is active then, and nobody finishes it later.

* `closing_spec` is about the two calls with which every coroutine here comes to its end: they log an
  event and finish the span.
* `ClosesNode` says when a step does not leave in one of these ways.
* `stepNode_spec` says what any step does to the handles of the tracer, with one lemma for each phase
  that has something to it, and `NodeEffect.moves` what that means for the account of them.
-/

set_option autoImplicit false

namespace ExoBrain
namespace Core

open Raising Custody RuntimeTracer

variable {α : Type}

/-! ## When a coroutine closes its span -/

namespace Traced

variable (settings : TraceSettings) (job : SchedulerJob α) (sinks : Sinks) (t : RuntimeTracer)

/-- The logger takes the event, and the exporter the span, if there is one. -/
def Accepts (traced : Bool) (event : LoggedEvent) (span : ExportedSpan) : Prop :=
  sinks.logged event = none ∧ (traced = true → t.refusal (sinks.exported span) = none)

/-- The attempt was the last one, or the logger takes it that there is another. -/
def RetryAccepted (node : TaskNode) (attempts : Nat) : Prop :=
  node.maxAttempts ≤ attempts ∨ sinks.logged .nodeRetry = none

/-- A step of `_run_node` does not lose a span. -/
def ClosesNode (node : TaskNode) (interrupted : Option TaskRaised) : NodePhase α → Prop
  | .waiting => interrupted = none → sinks.logged .nodeStarted = none
  | .starting _ _ => interrupted = none
  | .sleeping _ _ _ => interrupted = none
  | .failing _ _ _ _ => interrupted = none ∧ Accepts sinks t settings.scheduler .nodeFailed .nodeFailed
  | .handling _ _ attempts =>
    interrupted ≠ some .cancelledError ∧
      (interrupted = none ∧ (∃ output, job.attempt node attempts = .returned output) ∨
        RetryAccepted sinks node attempts)
  | .completing _ _ attempts _ =>
    interrupted ≠ some .cancelledError ∧
      (interrupted = none ∧ Accepts sinks t settings.scheduler .nodeCompleted .nodeCompleted ∨
        RetryAccepted sinks node attempts)
  | .returned _ => True
  | .raised _ => True

variable {settings job sinks t} {span : Option Nat} {traced : Bool} {r : Nat}
  {node : TaskNode} {β : Type}

/-- The span of a coroutine is active. -/
def IsOpen (span : Option Nat) (t : RuntimeTracer) : Prop :=
  ∀ id, span = some id → id ∈ t.handles.opened

/-- What `_finish_span` raises. -/
def refused (t : RuntimeTracer) (traced : Bool) (exported : Option TaskException) :
    Option TaskException :=
  if traced then t.refusal exported else none

theorem finishSpan_spec (hspan : span.isSome = traced) (hopen : IsOpen span t) (status : String)
    (attributes : Dict String Value) (error : String) (exported : Option TaskException) :
    ∃ t', finishSpan span status attributes error exported t =
        (answer (refused t traced exported), t') ∧ SameSettings t t' ∧
      t'.handles = t.handles.releasing span (refused t traced exported).isNone := by
  subst hspan
  cases span with
  | none => exact ⟨t, rfl, ⟨rfl, rfl⟩, rfl⟩
  | some id =>
    obtain ⟨t', hrun, hsame, hhandles⟩ :=
      RuntimeTracer.finishSpan_spec (hopen id rfl) status attributes error exported
    refine ⟨t', hrun, hsame, ?_⟩
    rw [hhandles, refused, Option.isSome_some, if_pos rfl]
    cases t.refusal exported with
    | none => rfl
    | some exc => rfl

theorem refused_eq_none_iff {exported : Option TaskException} :
    refused t traced exported = none ↔ (traced = true → t.refusal exported = none) := by
  rw [refused]
  split
  · rename_i htraced
    exact ⟨fun h _ ↦ h, fun h ↦ h htraced⟩
  · rename_i hnot
    exact iff_of_true rfl fun htraced ↦ absurd htraced hnot

theorem emit_of_none {event : LoggedEvent} (h : sinks.logged event = none) (t : RuntimeTracer) :
    emit sinks event t = (.ok (), t) := by
  rw [emit, h]
  rfl

theorem emit_of_some {event : LoggedEvent} {exc : TaskException}
    (h : sinks.logged event = some exc) (t : RuntimeTracer) :
    emit sinks event t = (.error (.exception exc), t) := by
  rw [emit, h]
  rfl

/-- A coroutine that has the tracer opens a handle. -/
theorem startSpan_spec (owner : SpanOwner) (jobId name : String) (parentSpanId : Option Nat)
    (attributes : Dict String Value) (t : RuntimeTracer) :
    ∃ t', startSpan true owner jobId name parentSpanId attributes t =
        (.ok (some t.handles.owners.length), t') ∧ SameSettings t t' ∧
      t'.handles = t.handles.opening owner := by
  have hlength : t.handles.owners.length = t.spans.length := List.length_map ..
  rw [hlength]
  exact ⟨_, rfl, ⟨rfl, rfl⟩, handles_push ..⟩

/-- Log an event, finish a span, and return. -/
def closing (sinks : Sinks) (event : LoggedEvent) (span : Option Nat) (status : String)
    (attributes : Dict String Value) (error : String) (exported : ExportedSpan) (b : β) :
    Traced β := do
  emit sinks event
  finishSpan span status attributes error (sinks.exported exported)
  return b

/-- It closes the span, or raises and keeps it. -/
theorem closing_spec (hspan : span.isSome = traced) (hopen : IsOpen span t) (event : LoggedEvent)
    (status : String) (attributes : Dict String Value) (error : String) (exported : ExportedSpan)
    (b : β) :
    ∃ t', SameSettings t t' ∧
      (closing sinks event span status attributes error exported b t = (.ok b, t') ∧
          Accepts sinks t traced event exported ∧ t'.handles = t.handles.releasing span true ∨
        (∃ exc, closing sinks event span status attributes error exported b t =
          (.error (.exception exc), t')) ∧
          ¬Accepts sinks t traced event exported ∧ t'.handles = t.handles) := by
  cases hlogged : sinks.logged event with
  | some exc =>
    refine ⟨t, ⟨rfl, rfl⟩, .inr ⟨⟨exc, Comp.bind_of_error (emit_of_some hlogged t)⟩, ?_, rfl⟩⟩
    intro haccepts
    rw [haccepts.1] at hlogged
    cases hlogged
  | none =>
    obtain ⟨t', hfinish, hsame, hhandles⟩ :=
      finishSpan_spec hspan hopen status attributes error (sinks.exported exported)
    refine ⟨t', hsame, ?_⟩
    rw [closing, Comp.bind_of_ok (emit_of_none hlogged t)]
    cases hrefused : refused t traced (sinks.exported exported) with
    | none =>
      rw [hrefused] at hfinish hhandles
      exact .inl ⟨Comp.bind_of_ok hfinish, ⟨hlogged, refused_eq_none_iff.mp hrefused⟩, hhandles⟩
    | some exc =>
      rw [hrefused] at hfinish hhandles
      refine .inr ⟨⟨exc, Comp.bind_of_error hfinish⟩, fun haccepts ↦ ?_, ?_⟩
      · rw [refused_eq_none_iff.mpr haccepts.2] at hrefused
        cases hrefused
      · rw [hhandles]
        exact releasing_false span t.handles

/-! ## One step of a node -/

/-- The coroutine of a node has a span exactly if the scheduler has the tracer. -/
def HasSpan (settings : TraceSettings) (phase : NodePhase α) : Prop :=
  phase.isOpen = true → phase.span?.isSome = settings.scheduler

theorem HasSpan.scheduler {phase : NodePhase α} {id : Nat} (h : HasSpan settings phase)
    (hspan : phase.span? = some id) : settings.scheduler = true := by
  have hopen : phase.isOpen = true := by
    cases phase with
    | waiting => cases hspan
    | returned outcome => cases hspan
    | raised exc => cases hspan
    | _ => rfl
  rw [← h hopen, hspan]
  rfl

/-- What a step does to the handles and to the span of the coroutine. -/
inductive NodeEffect (settings : TraceSettings) (owner : SpanOwner) (closes : Prop)
    (span : Option Nat) (H : Handles SpanOwner) : Option Nat → Handles SpanOwner → Prop
  /-- The coroutine keeps what it has. -/
  | keeps (h : settings.scheduler = true → closes) :
    NodeEffect settings owner closes span H span H
  /-- It comes to its end. -/
  | releases (closed : Bool) (hspan : span.isSome = settings.scheduler)
      (h : settings.scheduler = true → (closed = true ↔ closes)) :
    NodeEffect settings owner closes span H none (H.releasing span closed)
  /-- It begins. -/
  | opens (hfree : span = none) (h : closes) :
    NodeEffect settings owner closes span H (some H.owners.length) (H.opening owner)
  /-- It begins, and comes to its end at once. -/
  | loses (hfree : span = none) (htraced : settings.scheduler = true) (h : ¬closes) :
    NodeEffect settings owner closes span H none (H.opening owner)

/-- A step of the coroutine of a node. -/
structure NodeSpec (settings : TraceSettings) (owner : SpanOwner) (closes : Prop)
    (phase : NodePhase α) (H : Handles SpanOwner) (phase' : NodePhase α) (H' : Handles SpanOwner) :
    Prop where
  hasSpan : HasSpan settings phase'
  /-- An exception takes the span with it. -/
  raised : settings.scheduler = true → ∀ exc, phase' = .raised (.exception exc) →
    phase = phase' ∨ ¬closes
  effect : NodeEffect settings owner closes phase.span? H phase'.span? H'

variable {owner : SpanOwner} {closes : Prop} {phase phase' : NodePhase α} {H : Handles SpanOwner}

theorem NodeSpec.stays (h : HasSpan settings phase) (hcloses : closes) :
    NodeSpec settings owner closes phase H phase H :=
  ⟨h, fun _ _ _ ↦ .inl rfl, .keeps fun _ ↦ hcloses⟩

theorem NodeSpec.continues (h : HasSpan settings phase) (hopen : phase.isOpen = true)
    (hopen' : phase'.isOpen = true) (hspan : phase'.span? = phase.span?) (hcloses : closes) :
    NodeSpec settings owner closes phase H phase' H := by
  refine ⟨fun _ ↦ hspan ▸ h hopen, fun _ exc hexc ↦ ?_, hspan ▸ .keeps fun _ ↦ hcloses⟩
  rw [hexc] at hopen'
  cases hopen'

theorem NodeSpec.drops (hspan : phase.span?.isSome = settings.scheduler) (exc : TaskRaised)
    (hcloses : ¬closes) : NodeSpec settings owner closes phase H (.raised exc) H := by
  refine ⟨Bool.noConfusion, fun _ _ _ ↦ .inr hcloses, ?_⟩
  have heffect : NodeEffect settings owner closes phase.span? H none
      (H.releasing phase.span? false) :=
    .releases false hspan fun _ ↦ iff_of_false Bool.false_ne_true hcloses
  rwa [releasing_false] at heffect

theorem NodeSpec.returns (hspan : phase.span?.isSome = settings.scheduler)
    (outcome : TaskOutcome α) (hcloses : closes) :
    NodeSpec settings owner closes phase H (.returned outcome) (H.releasing phase.span? true) := by
  refine ⟨Bool.noConfusion, fun _ exc hexc ↦ ?_, .releases true hspan fun _ ↦ iff_of_true rfl hcloses⟩
  cases hexc

/-- The `except` clauses keep the span, unless they let a cancellation through or the logger
raises. -/
theorem exceptAttempt_spec (h : HasSpan settings phase) (hopen : phase.isOpen = true)
    (input : Dict String (PayloadField α)) (attempts : Nat) (exc : TaskRaised)
    (hcloses : closes ↔ exc ≠ .cancelledError ∧ RetryAccepted sinks node attempts) :
    let result := exceptAttempt sinks node phase.span? input attempts exc t
    NodeSpec settings owner closes phase t.handles (.ofAnswer result.1) result.2.handles := by
  have hfail : ∀ reason message, exc ≠ .cancelledError →
      let result := failAttempt sinks node phase.span? input attempts reason message t
      NodeSpec settings owner closes phase t.handles (.ofAnswer result.1) result.2.handles := by
    intro reason message hexc
    rw [failAttempt]
    split
    · rename_i hlast
      exact .continues h hopen rfl rfl (hcloses.mpr ⟨hexc, .inl hlast⟩)
    · rename_i hmore
      cases hlogged : sinks.logged .nodeRetry with
      | none =>
        rw [Comp.bind_of_ok (emit_of_none hlogged t)]
        exact .continues h hopen rfl rfl (hcloses.mpr ⟨hexc, .inr hlogged⟩)
      | some exc' =>
        rw [Comp.bind_of_error (emit_of_some hlogged t)]
        refine .drops (h hopen) _ fun hc ↦ ?_
        rcases (hcloses.mp hc).2 with hlast | hnone
        · exact hmore hlast
        · rw [hlogged] at hnone
          cases hnone
  cases exc with
  | cancelledError => exact .drops (h hopen) _ fun hc ↦ (hcloses.mp hc).1 rfl
  | exception exc =>
    cases exc with
    | timeoutError message => exact hfail _ _ TaskRaised.noConfusion
    | other message => exact hfail _ _ TaskRaised.noConfusion

/-- The first step opens the span, and loses it at once if the logger raises. -/
theorem beginNode_spec (outcomes : Dict String (TaskOutcome α))
    (hcloses : closes ↔ sinks.logged .nodeStarted = none) :
    let result := beginNode settings job r sinks node outcomes t
    NodeSpec settings ⟨r, .node node.nodeId⟩ closes (.waiting : NodePhase α) t.handles
      (.ofAnswer result.1) result.2.handles := by
  cases htraced : settings.scheduler with
  | false =>
    have hstart : ∀ attributes, startSpan settings.scheduler ⟨r, .node node.nodeId⟩ job.jobId
        "scheduler.run_node" none attributes t = (.ok none, t) := by
      intro attributes
      rw [htraced]
      rfl
    rw [beginNode, Comp.bind_of_ok (hstart _)]
    cases hlogged : sinks.logged .nodeStarted with
    | none =>
      rw [Comp.bind_of_ok (emit_of_none hlogged t)]
      refine ⟨fun _ ↦ ?_, fun _ exc hexc ↦ ?_, .keeps fun _ ↦ hcloses.mpr hlogged⟩
      · rw [htraced]
        rfl
      · cases hexc
    | some exc =>
      rw [Comp.bind_of_error (emit_of_some hlogged t)]
      refine .drops (by rw [htraced]; rfl) _ fun hc ↦ ?_
      rw [hcloses.mp hc] at hlogged
      cases hlogged
  | true =>
    obtain ⟨t', hstart, -, hhandles⟩ := startSpan_spec ⟨r, .node node.nodeId⟩ job.jobId
      "scheduler.run_node" none (Dict.empty.set "node_id" (.str node.nodeId)) t
    rw [← htraced] at hstart
    rw [beginNode, Comp.bind_of_ok hstart]
    cases hlogged : sinks.logged .nodeStarted with
    | none =>
      rw [Comp.bind_of_ok (emit_of_none hlogged t')]
      refine ⟨fun _ ↦ ?_, fun _ exc hexc ↦ ?_, ?_⟩
      · rw [htraced]
        rfl
      · cases hexc
      · change NodeEffect _ _ _ _ _ (some t.handles.owners.length) t'.handles
        rw [hhandles]
        exact .opens rfl (hcloses.mpr hlogged)
    | some exc =>
      rw [Comp.bind_of_error (emit_of_some hlogged t')]
      have hraised : ¬closes := by
        intro hc
        rw [hcloses.mp hc] at hlogged
        cases hlogged
      refine ⟨Bool.noConfusion, fun _ _ _ ↦ .inr hraised, ?_⟩
      dsimp only
      rw [hhandles]
      exact .loses rfl htraced hraised

/-- What is caught has to be retried without another exception. -/
theorem caught_iff {succeeds retries : Prop} (exc : TaskRaised) :
    (some exc ≠ some TaskRaised.cancelledError ∧ (some exc = none ∧ succeeds ∨ retries)) ↔
      exc ≠ .cancelledError ∧ retries := by
  simp only [ne_eq, Option.some.injEq, reduceCtorEq, false_and, false_or]

theorem not_caught_iff {succeeds retries : Prop} (hfails : ¬succeeds) (exc : TaskException) :
    (none ≠ some TaskRaised.cancelledError ∧
        ((none : Option TaskRaised) = none ∧ succeeds ∨ retries)) ↔
      TaskRaised.exception exc ≠ .cancelledError ∧ retries := by
  simp only [hfails, and_false, false_or, ne_eq, reduceCtorEq, not_false_eq_true, true_and]

/-- The attempt, and what follows it. -/
theorem handling_spec (input : Dict String (PayloadField α)) (attempts : Nat)
    (h : HasSpan settings (.handling span input attempts : NodePhase α))
    (interrupted : Option TaskRaised) :
    let result := Comp.rescue (handled job node interrupted span input attempts)
      (exceptAttempt sinks node span input attempts) t
    NodeSpec settings owner
      (ClosesNode settings job sinks t node interrupted (.handling span input attempts : NodePhase α))
      (.handling span input attempts) t.handles (.ofAnswer result.1) result.2.handles := by
  cases interrupted with
  | some exc =>
    have hrun : handled job node (some exc) span input attempts t = (.error exc, t) := rfl
    rw [Comp.rescue_of_error hrun]
    exact exceptAttempt_spec h rfl input attempts exc (caught_iff exc)
  | none =>
    have hfail : ∀ exc, (job.attempt node attempts).awaited = .error (.exception exc) →
        let result := Comp.rescue (handled job node none span input attempts)
          (exceptAttempt sinks node span input attempts) t
        NodeSpec settings owner
          (ClosesNode settings job sinks t node none (.handling span input attempts : NodePhase α))
          (.handling span input attempts) t.handles (.ofAnswer result.1) result.2.handles := by
      intro exc hattempt
      have hrun : handled job node none span input attempts t = (.error (.exception exc), t) := by
        rw [handled, hattempt]
        rfl
      rw [Comp.rescue_of_error hrun]
      refine exceptAttempt_spec h rfl input attempts _ (not_caught_iff ?_ exc)
      rintro ⟨output, houtput⟩
      rw [houtput] at hattempt
      cases hattempt
    cases hattempt : job.attempt node attempts with
    | returned output =>
      have hrun : handled job node none span input attempts t =
          (.ok (.completing span input attempts output), t) := by
        rw [handled, hattempt]
        rfl
      rw [Comp.rescue_of_ok hrun]
      exact .continues h rfl rfl rfl
        ⟨Option.some_ne_none _ ∘ Eq.symm, .inl ⟨rfl, output, hattempt⟩⟩
    | timedOut => exact hfail (.timeoutError "") (by rw [hattempt]; rfl)
    | raised message => exact hfail (.other message) (by rw [hattempt]; rfl)

/-- The end of a node that is completed, and what follows if it does not get there. -/
theorem completing_spec (input : Dict String (PayloadField α)) (attempts : Nat)
    (output : Dict String α)
    (h : HasSpan settings (.completing span input attempts output : NodePhase α))
    (hopen : IsOpen span t) (interrupted : Option TaskRaised) :
    let result := Comp.rescue (completed sinks node interrupted span attempts output)
      (exceptAttempt sinks node span input attempts) t
    NodeSpec settings owner
      (ClosesNode settings job sinks t node interrupted (.completing span input attempts output))
      (.completing span input attempts output) t.handles (.ofAnswer result.1) result.2.handles := by
  cases interrupted with
  | some exc =>
    have hrun : completed sinks node (some exc) span attempts output t = (.error exc, t) := rfl
    rw [Comp.rescue_of_error hrun]
    exact exceptAttempt_spec h rfl input attempts exc (caught_iff exc)
  | none =>
    obtain ⟨t', -, ⟨hrun, haccepts, hhandles⟩ | ⟨⟨exc, hrun⟩, hfails, hhandles⟩⟩ :=
      closing_spec (h rfl) hopen .nodeCompleted "ok" (nodeAttributes node attempts) ""
        .nodeCompleted
        (NodePhase.returned
          { nodeId := node.nodeId
            status := .completed
            output := output
            attempts := attempts })
    · replace hrun : completed sinks node none span attempts output t = (.ok _, t') := hrun
      rw [Comp.rescue_of_ok hrun]
      dsimp only
      rw [hhandles]
      exact .returns (h rfl) _ ⟨Option.some_ne_none _ ∘ Eq.symm, .inl ⟨rfl, haccepts⟩⟩
    · replace hrun : completed sinks node none span attempts output t = (.error _, t') := hrun
      rw [Comp.rescue_of_error hrun, ← hhandles]
      exact exceptAttempt_spec h rfl input attempts _ (not_caught_iff hfails exc)

/-- The end of a node that has failed. -/
theorem failing_spec (attempts : Nat) (reason message : String)
    (h : HasSpan settings (.failing span attempts reason message : NodePhase α))
    (hopen : IsOpen span t) (interrupted : Option TaskRaised) :
    let result := failed (α := α) sinks node interrupted span attempts reason message t
    NodeSpec settings owner
      (ClosesNode settings job sinks t node interrupted (.failing span attempts reason message))
      (.failing span attempts reason message) t.handles (.ofAnswer result.1) result.2.handles := by
  cases interrupted with
  | some exc => exact .drops (h rfl) exc fun hc ↦ Option.some_ne_none exc hc.1
  | none =>
    obtain ⟨t', -, ⟨hrun, haccepts, hhandles⟩ | ⟨⟨exc, hrun⟩, hfails, hhandles⟩⟩ :=
      closing_spec (h rfl) hopen .nodeFailed "error"
        ((nodeAttributes node attempts).set "reason_code" (.str reason)) message .nodeFailed
        (NodePhase.returned (α := α)
          { nodeId := node.nodeId
            status := .failed
            reasonCode := reason
            errorMessage := message
            attempts := attempts })
    · replace hrun : failed sinks node none span attempts reason message t = (.ok _, t') := hrun
      rw [hrun]
      dsimp only
      rw [hhandles]
      exact .returns (h rfl) _ ⟨rfl, haccepts⟩
    · replace hrun : failed sinks node none span attempts reason message t =
        ((.error (.exception exc) : Except TaskRaised (NodePhase α)), t') := hrun
      rw [hrun]
      dsimp only
      rw [hhandles]
      exact .drops (h rfl) _ fun hc ↦ hfails hc.2

variable (job sinks r node) in
/-- **One step of `_run_node`.** -/
theorem stepNode_spec (h : HasSpan settings phase) (hopen : IsOpen phase.span? t)
    (outcomes : Dict String (TaskOutcome α)) (interrupted : Option TaskRaised) :
    let result := stepNode settings job r sinks node outcomes interrupted phase t
    NodeSpec settings ⟨r, .node node.nodeId⟩
      (ClosesNode settings job sinks t node interrupted phase) phase t.handles result.1
      result.2.handles := by
  have hlose : ∀ exc : TaskRaised, some exc ≠ none := fun exc ↦ Option.some_ne_none exc
  cases phase with
  | waiting =>
    cases interrupted with
    | none => exact beginNode_spec outcomes ⟨fun hc ↦ hc rfl, fun hnone _ ↦ hnone⟩
    | some exc =>
      have hcloses : ClosesNode settings job sinks t node (some exc) (.waiting : NodePhase α) :=
        fun hnone ↦ absurd hnone (hlose exc)
      cases exc with
      | cancelledError =>
        refine ⟨Bool.noConfusion, fun _ exc hexc ↦ ?_, .keeps fun _ ↦ hcloses⟩
        cases hexc
      | exception exc => exact .stays h hcloses
  | starting span input =>
    cases interrupted with
    | none => exact .continues h rfl rfl rfl rfl
    | some exc => exact .drops (h rfl) exc (hlose exc)
  | sleeping span input attempts =>
    cases interrupted with
    | none => exact .continues h rfl rfl rfl rfl
    | some exc => exact .drops (h rfl) exc (hlose exc)
  | failing span attempts reason message =>
    exact failing_spec attempts reason message h hopen interrupted
  | handling span input attempts => exact handling_spec input attempts h interrupted
  | completing span input attempts output =>
    exact completing_spec input attempts output h hopen interrupted
  | returned outcome => exact .stays h trivial
  | raised exc => exact .stays h trivial

/-- What has returned stays as it is. -/
theorem stepNode_of_returned (h : phase.outcome?.isSome = true)
    (outcomes : Dict String (TaskOutcome α)) (interrupted : Option TaskRaised) :
    stepNode settings job r sinks node outcomes interrupted phase t = (phase, t) := by
  cases phase with
  | returned outcome => rfl
  | _ => cases h

/-- What a step does to the account. -/
theorem NodeEffect.moves {span' : Option Nat} {H' : Handles SpanOwner}
    {holds : SpanOwner → Option Nat} {P : SpanOwner → Prop}
    (h : NodeEffect settings owner closes span H span' H') (hkept : Kept H holds)
    (hheld : holds owner = span) (hP : P owner) :
    Moves P H holds H' (Function.update holds owner span') (settings.scheduler = true → closes) := by
  cases h with
  | keeps hcloses =>
    rw [← hheld, Function.update_eq_self]
    exact moves_refl hkept hcloses
  | releases closed hspan hcloses =>
    rw [← hheld]
    refine (moves_releasing hkept hP closed).congr ?_
    rw [hheld, ← Option.isSome_iff_ne_none, hspan]
    exact forall_congr' hcloses
  | opens hfree hcloses => exact moves_opening hkept (hheld.trans hfree) fun _ ↦ hcloses
  | loses hfree htraced hcloses =>
    have hopens : Moves P H holds (H.opening owner) _ True :=
      moves_opening hkept (hheld.trans hfree) trivial
    have hloses := hopens.trans (moves_losing (c := False) hopens.kept (Function.update_self ..) hP id)
    rw [Function.update_idem] at hloses
    exact hloses.congr (iff_of_false (fun hc ↦ hc.2) fun hc ↦ hcloses (hc htraced))

end Traced
end Core
end ExoBrain
