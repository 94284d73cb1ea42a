import ExoBrain.Core.NodeSpans

/-!
# The spans of a job

`execute` finishes its span before it returns, and when it raises an `Exception`; it does not when
`CancelledError` is raised where it awaits something.  `_run_job` finishes its span in either case.
Where the logger or the exporter raises as well, both try again in an `except`, once.

* `ClosesRest` and `ClosesBegin` say when a step loses neither of the two spans.
* `execute_spec` says what `execute` does from an `await` on, and `leaves_of_returned` and
  `leaves_of_raised` what `_run_job` makes of it.
* `goOn_spec` and `beginJob_spec` put both together, and say what becomes of the account of the
  spans.
-/

set_option autoImplicit false

namespace ExoBrain
namespace Core

open Raising Custody RuntimeTracer

variable {α : Type}

namespace Traced

variable (settings : TraceSettings) (job : SchedulerJob α) (sinks : Sinks) (t : RuntimeTracer)

/-! ## When the spans are closed -/

/-- A step in which `execute` goes on from an `await` does not lose a span.  It awaits another wave,
or it comes to its end. -/
def ClosesRest : Except TaskRaised (Ledger α) → Prop
  | .ok ledger =>
    (nextWave job ledger).wave.entries ≠ [] ∨
      (settings.scheduler = true →
        Accepts sinks t settings.scheduler .executeCompleted .executeCompleted ∨
          t.refusal (sinks.exported .executeError) = none) ∧
      (settings.background = true →
        Accepts sinks t settings.scheduler .executeCompleted .executeCompleted ∧
            Accepts sinks t settings.background .jobFinished .jobFinished ∨
          Accepts sinks t settings.background .jobError .jobError)
  | .error (.exception _) =>
    (settings.scheduler = true → t.refusal (sinks.exported .executeError) = none) ∧
      (settings.background = true → Accepts sinks t settings.background .jobError .jobError)
  | .error .cancelledError =>
    settings.scheduler = false ∧
      (settings.background = true → Accepts sinks t settings.background .jobCancelled .jobCancelled)

/-- The first step of `_run_job` does not lose a span. -/
def ClosesBegin (resume : Bool) : Prop :=
  match sinks.logged .jobStarted, sinks.logged .executeStarted with
  | some _, _ =>
    settings.background = true → Accepts sinks t settings.background .jobError .jobError
  | none, some _ =>
    settings.scheduler = false ∧
      (settings.background = true → Accepts sinks t settings.background .jobError .jobError)
  | none, none => resume = true ∨ ClosesRest settings job sinks t (.ok .empty)

variable {settings job sinks t} {t₁ t' : RuntimeTracer} {jobSpan executeSpan : Option Nat} {r : Nat}
  {traced : Bool} {x : Except TaskRaised (Ledger α)}

theorem accepts_congr (h : SameSettings t t') {event : LoggedEvent} {span : ExportedSpan} :
    Accepts sinks t' traced event span ↔ Accepts sinks t traced event span := by
  rw [Accepts, Accepts, h.refusal]

/-! ## `execute` -/

/-- What `execute` does from an `await` on. -/
inductive ExecuteEffect (settings : TraceSettings) (job : SchedulerJob α) (sinks : Sinks)
    (executeSpan : Option Nat) (t : RuntimeTracer) (x : Except TaskRaised (Ledger α)) :
    Except TaskRaised (Progress α (SchedulerResult α)) → RuntimeTracer → Prop
  | waits (ledger : Ledger α) (hx : x = .ok ledger)
      (hready : (nextWave job ledger).wave.entries ≠ []) :
    ExecuteEffect settings job sinks executeSpan t x
      (.ok (.gathering executeSpan (nextWave job ledger).ledger
        ((nextWave job ledger).wave.mapVals fun _ task ↦ ⟨task.node, .waiting⟩))) t
  | returns (ledger : Ledger α) (hx : x = .ok ledger)
      (hready : (nextWave job ledger).wave.entries = [])
      (haccepts : Accepts sinks t settings.scheduler .executeCompleted .executeCompleted)
      (result : SchedulerResult α) (t' : RuntimeTracer) (hsame : SameSettings t t')
      (hhandles : t'.handles = t.handles.releasing executeSpan true) :
    ExecuteEffect settings job sinks executeSpan t x (.ok (.returned result)) t'
  | fails (hx : (∃ exc, x = .error (.exception exc)) ∨ ∃ ledger, x = .ok ledger ∧
        (nextWave job ledger).wave.entries = [] ∧
          ¬Accepts sinks t settings.scheduler .executeCompleted .executeCompleted)
      (exc : TaskException) (t' : RuntimeTracer) (hsame : SameSettings t t') (closed : Bool)
      (hhandles : t'.handles = t.handles.releasing executeSpan closed)
      (hclosed : closed = true ↔
        (settings.scheduler = true → t.refusal (sinks.exported .executeError) = none)) :
    ExecuteEffect settings job sinks executeSpan t x (.error (.exception exc)) t'
  | cancelled (hx : x = .error .cancelledError) :
    ExecuteEffect settings job sinks executeSpan t x (.error .cancelledError) t

theorem executeTry_of_ready {ledger : Ledger α} (hready : (nextWave job ledger).wave.entries ≠ []) :
    executeTry job sinks executeSpan (.ok ledger) t =
      (.ok (.gathering executeSpan (nextWave job ledger).ledger
        ((nextWave job ledger).wave.mapVals fun _ task ↦ ⟨task.node, .waiting⟩)), t) := by
  have hledger : Comp.ofExcept (.ok ledger : Except TaskRaised (Ledger α)) t = (.ok ledger, t) := rfl
  rw [executeTry, Comp.bind_of_ok hledger]
  dsimp only
  rw [if_pos hready]
  rfl

theorem executeTry_of_done {ledger : Ledger α} (hready : (nextWave job ledger).wave.entries = []) :
    let result : SchedulerResult α := ⟨job.jobId, (nextWave job ledger).ledger.outcomes⟩
    executeTry job sinks executeSpan (.ok ledger) t =
      closing sinks .executeCompleted executeSpan (resultStatus result) (resultAttributes result) ""
        .executeCompleted (.returned result) t := by
  have hledger : Comp.ofExcept (.ok ledger : Except TaskRaised (Ledger α)) t = (.ok ledger, t) := rfl
  rw [executeTry, Comp.bind_of_ok hledger]
  dsimp only
  rw [if_neg (not_not_intro hready)]
  rfl

/-- `except Exception` finishes the span and lets an exception out. -/
theorem executeExcept_spec (sinks : Sinks) (hspan : executeSpan.isSome = settings.scheduler)
    (hopen : IsOpen executeSpan t) (exc : TaskException) :
    ∃ t' exc' closed, executeExcept sinks executeSpan (.exception exc) t =
        ((.error (.exception exc') : Except TaskRaised (Progress α (SchedulerResult α))), t') ∧
      SameSettings t t' ∧ t'.handles = t.handles.releasing executeSpan closed ∧
      (closed = true ↔
        (settings.scheduler = true → t.refusal (sinks.exported .executeError) = none)) := by
  obtain ⟨t', hfinish, hsame, hhandles⟩ := finishSpan_spec hspan hopen "error" Dict.empty exc.message
    (sinks.exported .executeError)
  have hclosed : (refused t settings.scheduler (sinks.exported .executeError)).isNone = true ↔ _ :=
    Option.isNone_iff_eq_none.trans refused_eq_none_iff
  cases hrefused : refused t settings.scheduler (sinks.exported .executeError) with
  | none =>
    rw [hrefused] at hfinish
    exact ⟨t', exc, _, Comp.bind_of_ok hfinish, hsame, hhandles, hclosed⟩
  | some exc' =>
    rw [hrefused] at hfinish
    exact ⟨t', exc', _, Comp.bind_of_error hfinish, hsame, hhandles, hclosed⟩

/-- **`execute`, from an `await` on.** -/
theorem execute_spec (hspan : executeSpan.isSome = settings.scheduler)
    (hopen : IsOpen executeSpan t) (x : Except TaskRaised (Ledger α)) :
    let result := execute job sinks executeSpan x t
    ExecuteEffect settings job sinks executeSpan t x result.1 result.2 := by
  cases x with
  | error raised =>
    have hrun : executeTry job sinks executeSpan (.error raised) t = (.error raised, t) := rfl
    rw [execute, Comp.rescue_of_error hrun]
    cases raised with
    | cancelledError => exact .cancelled rfl
    | exception exc =>
      obtain ⟨t', exc', closed, hexcept, hsame, hhandles, hclosed⟩ :=
        executeExcept_spec sinks hspan hopen exc
      rw [hexcept]
      exact .fails (.inl ⟨exc, rfl⟩) exc' t' hsame closed hhandles hclosed
  | ok ledger =>
    by_cases hready : (nextWave job ledger).wave.entries = []
    · have htry : executeTry job sinks executeSpan (.ok ledger) t = _ := executeTry_of_done hready
      obtain ⟨t', hsame, ⟨hrun, haccepts, hhandles⟩ | ⟨⟨exc, hrun⟩, hfails, hhandles⟩⟩ :=
        closing_spec hspan hopen .executeCompleted _ _ _ .executeCompleted _
      · rw [execute, Comp.rescue_of_ok (htry.trans hrun)]
        exact .returns ledger rfl hready haccepts _ t' hsame hhandles
      · have hopen' : IsOpen executeSpan t' := fun id hid ↦ hhandles ▸ hopen id hid
        obtain ⟨t'', exc', closed, hexcept, hsame', hhandles', hclosed⟩ :=
          executeExcept_spec sinks hspan hopen' exc
        rw [execute, Comp.rescue_of_error (htry.trans hrun), hexcept]
        rw [hhandles] at hhandles'
        rw [hsame.refusal] at hclosed
        exact .fails (.inr ⟨ledger, rfl, hready, hfails⟩) exc' t'' (hsame.trans hsame') closed
          hhandles' hclosed
    · rw [execute, Comp.rescue_of_ok (executeTry_of_ready hready)]
      exact .waits ledger rfl hready

/-! ## `_run_job` -/

/-- The task is done. -/
def Ends (x : Except TaskRaised (Option Nat × Progress α Unit)) : Prop :=
  ∀ run : TracedRun α, run.enter x = { run with stage := .done }

/-- The task is done, and has closed its span exactly if `c`. -/
def Leaves (result : Except TaskRaised (Option Nat × Progress α Unit) × RuntimeTracer)
    (H : Handles SpanOwner) (span : Option Nat) (c : Prop) : Prop :=
  Ends result.1 ∧
    ∃ closed, result.2.handles = H.releasing span closed ∧ (closed = true ↔ c)

theorem ends_error (raised : TaskRaised) :
    Ends (.error raised : Except TaskRaised (Option Nat × Progress α Unit)) := fun _ ↦ rfl

theorem ends_returned (jobSpan : Option Nat) :
    Ends (.ok (jobSpan, .returned ()) : Except TaskRaised (Option Nat × Progress α Unit)) :=
  fun _ ↦ rfl

/-- The event and the span of an `except` clause of `_run_job`. -/
def exceptCalls : TaskRaised → LoggedEvent × ExportedSpan
  | .cancelledError => (.jobCancelled, .jobCancelled)
  | .exception _ => (.jobError, .jobError)

variable {m : Traced (Progress α (SchedulerResult α))}

theorem leaves_of_closing (hspan : jobSpan.isSome = traced) (hopen : IsOpen jobSpan t)
    {event : LoggedEvent} {status : String} {attributes : Dict String Value} {error : String}
    {exported : ExportedSpan}
    (hrun : Comp.rescue (runJobTry sinks jobSpan m) (runJobExcept sinks jobSpan) t₁ =
      closing sinks event jobSpan status attributes error exported (Progress.returned (α := α) ()) t) :
    Leaves (runJob sinks jobSpan m t₁) t.handles jobSpan (Accepts sinks t traced event exported) := by
  obtain ⟨t', -, ⟨hclosing, haccepts, hhandles⟩ | ⟨⟨exc, hclosing⟩, hfails, hhandles⟩⟩ :=
    closing_spec hspan hopen event status attributes error exported (Progress.returned (α := α) ())
  · rw [runJob, Comp.bind_of_ok (hrun.trans hclosing)]
    exact ⟨ends_returned jobSpan, true, hhandles, iff_of_true rfl haccepts⟩
  · rw [runJob, Comp.bind_of_error (hrun.trans hclosing)]
    refine ⟨ends_error _, false, ?_, iff_of_false Bool.false_ne_true hfails⟩
    rw [releasing_false]
    exact hhandles

/-- An `except` clause. -/
theorem leaves_of_raised (hspan : jobSpan.isSome = traced) (hopen : IsOpen jobSpan t)
    {raised : TaskRaised} (hm : m t₁ = (.error raised, t)) :
    Leaves (runJob sinks jobSpan m t₁) t.handles jobSpan
      (Accepts sinks t traced (exceptCalls raised).1 (exceptCalls raised).2) := by
  have htry : runJobTry sinks jobSpan m t₁ = (.error raised, t) := Comp.bind_of_error hm
  cases raised with
  | cancelledError => exact leaves_of_closing hspan hopen (Comp.rescue_of_error htry)
  | exception exc => exact leaves_of_closing hspan hopen (Comp.rescue_of_error htry)

/-- What follows when `execute` has returned. -/
theorem leaves_of_returned (hspan : jobSpan.isSome = traced) (hopen : IsOpen jobSpan t)
    {result : SchedulerResult α} (hm : m t₁ = (.ok (.returned result), t)) :
    Leaves (runJob sinks jobSpan m t₁) t.handles jobSpan
      (Accepts sinks t traced .jobFinished .jobFinished ∨
        Accepts sinks t traced .jobError .jobError) := by
  have htry : runJobTry sinks jobSpan m t₁ = closing sinks .jobFinished jobSpan (resultStatus result)
      (resultAttributes result) "" .jobFinished (.returned ()) t := Comp.bind_of_ok hm
  obtain ⟨t', hsame, ⟨hrun, haccepts, hhandles⟩ | ⟨⟨exc, hrun⟩, hfails, hhandles⟩⟩ :=
    closing_spec hspan hopen .jobFinished _ _ _ .jobFinished _
  · rw [runJob, Comp.bind_of_ok (Comp.rescue_of_ok (htry.trans hrun))]
    exact ⟨ends_returned jobSpan, true, hhandles, iff_of_true rfl (.inl haccepts)⟩
  · have hopen' : IsOpen jobSpan t' := fun id hid ↦ hhandles ▸ hopen id hid
    have hexcept : Leaves (runJob sinks jobSpan m t₁) t'.handles jobSpan
        (Accepts sinks t' traced .jobError .jobError) :=
      leaves_of_closing hspan hopen' (Comp.rescue_of_error (htry.trans hrun))
    rw [hhandles, accepts_congr hsame] at hexcept
    rwa [or_iff_right hfails]

theorem runJob_of_listing (hm : m t₁ = (.ok (.listing executeSpan), t)) :
    runJob sinks jobSpan m t₁ = (.ok (jobSpan, .listing executeSpan), t) := by
  have htry : runJobTry sinks jobSpan m t₁ = (.ok (.listing executeSpan), t) := Comp.bind_of_ok hm
  exact Comp.bind_of_ok (Comp.rescue_of_ok htry)

theorem runJob_of_gathering {ledger : Ledger α} {wave : Dict String (NodeTask α)}
    (hm : m t₁ = (.ok (.gathering executeSpan ledger wave), t)) :
    runJob sinks jobSpan m t₁ = (.ok (jobSpan, .gathering executeSpan ledger wave), t) := by
  have htry : runJobTry sinks jobSpan m t₁ = (.ok (.gathering executeSpan ledger wave), t) :=
    Comp.bind_of_ok hm
  exact Comp.bind_of_ok (Comp.rescue_of_ok htry)

/-! ## A step of `_run_job` -/

/-- The answer of `_run_job` when `execute` awaits another wave. -/
def waitingAnswer (job : SchedulerJob α) (jobSpan executeSpan : Option Nat) (ledger : Ledger α) :
    Except TaskRaised (Option Nat × Progress α Unit) :=
  .ok (jobSpan, .gathering executeSpan (nextWave job ledger).ledger
    ((nextWave job ledger).wave.mapVals fun _ task ↦ ⟨task.node, .waiting⟩))

variable {holds : SpanOwner → Option Nat}

/-- The coroutines of a run. -/
def OfRun (r : Nat) (o : SpanOwner) : Prop := o.run = r

/-- The spans are forgotten. -/
def forgotten (holds : SpanOwner → Option Nat) (r : Nat) : SpanOwner → Option Nat :=
  Function.update (Function.update holds ⟨r, .execute⟩ none) ⟨r, .job⟩ none

/-- Where the spans of a run that ends have gone. -/
theorem moves_forgotten (hkept : Kept t.handles holds) {c d : Bool}
    (hjob : (holds ⟨r, .job⟩).isSome = settings.background)
    (hexecute : (holds ⟨r, .execute⟩).isSome = settings.scheduler) :
    Moves (OfRun r) t.handles holds
      ((t.handles.releasing (holds ⟨r, .execute⟩) c).releasing (holds ⟨r, .job⟩) d)
      (forgotten holds r)
      ((settings.scheduler = true → c = true) ∧ (settings.background = true → d = true)) := by
  have hexecute' : OfRun r ⟨r, .execute⟩ := rfl
  have hjob' : OfRun r ⟨r, .job⟩ := rfl
  have hfirst := moves_releasing hkept hexecute' c
  have hheld : Function.update holds ⟨r, .execute⟩ none ⟨r, .job⟩ = holds ⟨r, .job⟩ :=
    Function.update_of_ne (by simp) _ _
  have hsecond := moves_releasing hfirst.kept hjob' d
  rw [hheld] at hsecond
  refine (hfirst.trans hsecond).congr ?_
  rw [← hjob, ← hexecute, Option.isSome_iff_ne_none, Option.isSome_iff_ne_none]

theorem imp_false_eq_true {b : Bool} : (b = true → false = true) ↔ b = false := by
  cases b <;> simp

theorem closesRest_ok {ledger : Ledger α} (hready : (nextWave job ledger).wave.entries = []) :
    ClosesRest settings job sinks t (.ok ledger) ↔
      (settings.scheduler = true →
        Accepts sinks t settings.scheduler .executeCompleted .executeCompleted ∨
          t.refusal (sinks.exported .executeError) = none) ∧
      (settings.background = true →
        Accepts sinks t settings.scheduler .executeCompleted .executeCompleted ∧
            Accepts sinks t settings.background .jobFinished .jobFinished ∨
          Accepts sinks t settings.background .jobError .jobError) := by
  rw [ClosesRest]
  exact or_iff_right (not_not_intro hready)

variable (job sinks) in
/-- **`_run_job`, from an `await` of `execute` on.** -/
theorem goOn_spec (hkept : Kept t.handles holds)
    (hjob : (holds ⟨r, .job⟩).isSome = settings.background)
    (hexecute : (holds ⟨r, .execute⟩).isSome = settings.scheduler)
    (x : Except TaskRaised (Ledger α)) :
    let result := runJob sinks (holds ⟨r, .job⟩) (execute job sinks (holds ⟨r, .execute⟩) x) t
    (∃ ledger, x = .ok ledger ∧
        result = (waitingAnswer job (holds ⟨r, .job⟩) (holds ⟨r, .execute⟩) ledger, t) ∧
        ClosesRest settings job sinks t x) ∨
      Ends result.1 ∧ Moves (OfRun r) t.handles holds result.2.handles (forgotten holds r)
        (ClosesRest settings job sinks t x) := by
  intro result
  have hopen : IsOpen (holds ⟨r, .execute⟩) t := fun id hid ↦ (hkept _ id hid).1
  have hstep : ExecuteEffect settings job sinks (holds ⟨r, .execute⟩) t x _ _ :=
    execute_spec hexecute hopen x
  have hopen' : ∀ {t' : RuntimeTracer} {closed : Bool},
      t'.handles = t.handles.releasing (holds ⟨r, .execute⟩) closed → IsOpen (holds ⟨r, .job⟩) t' := by
    intro t' closed hhandles id hid
    rw [hhandles]
    refine mem_opened_releasing (fun hsame ↦ ?_) (hkept _ id hid).1
    cases hkept.inj hsame hid
  generalize hexec : execute job sinks (holds ⟨r, .execute⟩) x t = ran at hstep
  obtain ⟨answer, t'⟩ := ran
  cases hstep with
  | waits ledger hx hready =>
    refine .inl ⟨ledger, hx, runJob_of_gathering hexec, ?_⟩
    subst hx
    exact .inl hready
  | returns ledger hx hready haccepts value t' hsame hhandles =>
    obtain ⟨hends, closed, hreleased, hclosed⟩ := leaves_of_returned hjob (hopen' hhandles) hexec
    refine .inr ⟨hends, ?_⟩
    rw [show result.2.handles = _ from hreleased, hhandles]
    refine (moves_forgotten hkept hjob hexecute).congr ?_
    rw [hx, closesRest_ok hready, hclosed, accepts_congr hsame, accepts_congr hsame]
    refine and_congr (iff_of_true (fun _ ↦ rfl) fun _ ↦ .inl haccepts) ?_
    rw [and_iff_right haccepts]
  | fails hx exc t' hsame closed hhandles hclosed =>
    obtain ⟨hends, closed', hreleased, hclosed'⟩ := leaves_of_raised hjob (hopen' hhandles) hexec
    refine .inr ⟨hends, ?_⟩
    rw [show result.2.handles = _ from hreleased, hhandles]
    refine (moves_forgotten hkept hjob hexecute).congr ?_
    rw [hclosed, hclosed', accepts_congr hsame, exceptCalls]
    rcases hx with ⟨exc', rfl⟩ | ⟨ledger, rfl, hready, hfails⟩
    · rw [ClosesRest]
      exact and_congr_left' ⟨fun h htraced ↦ h htraced htraced, fun h _ ↦ h⟩
    · rw [closesRest_ok hready, or_iff_right hfails, or_iff_right fun h ↦ hfails h.1]
      exact and_congr_left' ⟨fun h htraced ↦ h htraced htraced, fun h _ ↦ h⟩
  | cancelled hx =>
    have hsame : t'.handles = t'.handles.releasing (holds ⟨r, .execute⟩) false :=
      (releasing_false _ _).symm
    obtain ⟨hends, closed, hreleased, hclosed⟩ := leaves_of_raised hjob (hopen' hsame) hexec
    refine .inr ⟨hends, ?_⟩
    rw [show result.2.handles = _ from hreleased]
    nth_rewrite 2 [hsame]
    refine (moves_forgotten hkept hjob hexecute).congr ?_
    rw [hx, hclosed, exceptCalls, ClosesRest]
    exact and_congr_left' imp_false_eq_true

/-! ## The first step -/

theorem runJob_congr {m' : Traced (Progress α (SchedulerResult α))} {t₂ : RuntimeTracer}
    (h : m t₁ = m' t₂) : runJob sinks jobSpan m t₁ = runJob sinks jobSpan m' t₂ := by
  have htry : runJobTry sinks jobSpan m t₁ = runJobTry sinks jobSpan m' t₂ := by
    change Comp.andThen m _ t₁ = Comp.andThen m' _ t₂
    rw [Comp.andThen, Comp.andThen, h]
  have hrescue : Comp.rescue (runJobTry sinks jobSpan m) (runJobExcept sinks jobSpan) t₁ =
      Comp.rescue (runJobTry sinks jobSpan m') (runJobExcept sinks jobSpan) t₂ := by
    rw [Comp.rescue, Comp.rescue, htry]
  change Comp.andThen _ _ t₁ = Comp.andThen _ _ t₂
  rw [Comp.andThen, Comp.andThen, hrescue]

theorem closesRest_congr (h : SameSettings t t') :
    ClosesRest settings job sinks t' x ↔ ClosesRest settings job sinks t x := by
  cases x with
  | ok ledger =>
    rw [ClosesRest, ClosesRest, h.refusal, accepts_congr h, accepts_congr h, accepts_congr h]
  | error raised =>
    cases raised with
    | exception exc => rw [ClosesRest, ClosesRest, h.refusal, accepts_congr h]
    | cancelledError => rw [ClosesRest, ClosesRest, accepts_congr h]

/-- A coroutine begins, with the tracer or without. -/
theorem start_spec (hkept : Kept t.handles holds) {owner : SpanOwner} (hfree : holds owner = none)
    (P : SpanOwner → Prop) (traced : Bool) (jobId name : String) (parentSpanId : Option Nat)
    (attributes : Dict String Value) :
    ∃ span t', startSpan traced owner jobId name parentSpanId attributes t = (.ok span, t') ∧
      span.isSome = traced ∧ SameSettings t t' ∧
      Moves P t.handles holds t'.handles (Function.update holds owner span) True := by
  cases traced with
  | false =>
    refine ⟨none, t, rfl, rfl, ⟨rfl, rfl⟩, ?_⟩
    rw [← hfree, Function.update_eq_self]
    exact moves_refl hkept trivial
  | true =>
    obtain ⟨t', hstart, hsame, hhandles⟩ :=
      startSpan_spec owner jobId name parentSpanId attributes t
    refine ⟨_, t', hstart, rfl, hsame, ?_⟩
    rw [hhandles]
    exact moves_opening hkept hfree trivial

/-- The spans `_run_job` and `execute` have. -/
def begun (holds : SpanOwner → Option Nat) (r : Nat) (jobSpan executeSpan : Option Nat) :
    SpanOwner → Option Nat :=
  Function.update (Function.update holds ⟨r, .job⟩ jobSpan) ⟨r, .execute⟩ executeSpan

theorem begun_job (jobSpan executeSpan : Option Nat) :
    begun holds r jobSpan executeSpan ⟨r, .job⟩ = jobSpan := by
  rw [begun, Function.update_of_ne (by simp), Function.update_self]

theorem begun_execute (jobSpan executeSpan : Option Nat) :
    begun holds r jobSpan executeSpan ⟨r, .execute⟩ = executeSpan :=
  Function.update_self ..

theorem begun_eq_self (hjob : holds ⟨r, .job⟩ = jobSpan)
    (hexecute : holds ⟨r, .execute⟩ = executeSpan) :
    begun holds r jobSpan executeSpan = holds := by
  rw [begun, ← hjob, Function.update_eq_self, ← hexecute, Function.update_eq_self]

theorem forgotten_begun (hjob : holds ⟨r, .job⟩ = none) (hexecute : holds ⟨r, .execute⟩ = none)
    (jobSpan executeSpan : Option Nat) :
    forgotten (begun holds r jobSpan executeSpan) r = holds := by
  have hjob' : Function.update holds ⟨r, .job⟩ none = holds := hjob ▸ Function.update_eq_self _ holds
  have hexecute' : Function.update holds ⟨r, .execute⟩ none = holds :=
    hexecute ▸ Function.update_eq_self _ holds
  rw [forgotten, begun, Function.update_idem, Function.update_comm (by simp), Function.update_idem,
    hjob', hexecute']

/-- **The first step of `_run_job`.** -/
theorem beginJob_spec (hkept : Kept t.handles holds) (hjob : holds ⟨r, .job⟩ = none)
    (hexecute : holds ⟨r, .execute⟩ = none) (resume : Bool) :
    let result := beginJob settings job r sinks resume t
    (∃ jobSpan executeSpan,
        (result.1 = .ok (jobSpan, .listing executeSpan) ∨
          result.1 = waitingAnswer job jobSpan executeSpan .empty) ∧
        jobSpan.isSome = settings.background ∧ executeSpan.isSome = settings.scheduler ∧
        Moves (OfRun r) t.handles holds result.2.handles (begun holds r jobSpan executeSpan)
          (ClosesBegin settings job sinks t resume)) ∨
      Ends result.1 ∧ Moves (OfRun r) t.handles holds result.2.handles holds
        (ClosesBegin settings job sinks t resume) := by
  intro result
  obtain ⟨jobSpan, t₁, hstart, hjobSpan, hsame, hmoves⟩ := start_spec hkept hjob (OfRun r)
    settings.background job.jobId "background.run_job" none (Dict.empty.set "resume" (.bool resume))
  have hresult : result = _ := Comp.bind_of_ok hstart
  have hopen : IsOpen jobSpan t₁ := fun id hid ↦
    (hmoves.kept ⟨r, .job⟩ id ((Function.update_self ..).trans hid)).1
  cases hlogged : sinks.logged .jobStarted with
  | some exc =>
    obtain ⟨hends, closed, hreleased, hclosed⟩ :=
      leaves_of_raised hjobSpan hopen (Comp.bind_of_error (emit_of_some hlogged t₁))
    have hjob' : OfRun r ⟨r, .job⟩ := rfl
    have hleaves := moves_releasing hmoves.kept hjob' closed
    rw [Function.update_self, Function.update_idem,
      show Function.update holds ⟨r, .job⟩ none = holds from hjob ▸ Function.update_eq_self _ holds]
      at hleaves
    rw [hresult]
    refine .inr ⟨hends, ?_⟩
    rw [hreleased]
    refine (hmoves.trans hleaves).congr ?_
    rw [true_and, ← Option.isSome_iff_ne_none, hjobSpan, hclosed, accepts_congr hsame, exceptCalls,
      ClosesBegin, hlogged]
  | none =>
    have hexecute' : Function.update holds ⟨r, .job⟩ jobSpan ⟨r, .execute⟩ = none := by
      rw [Function.update_of_ne (by simp), hexecute]
    obtain ⟨executeSpan, t₂, hstart', hexecuteSpan, hsame', hmoves'⟩ := start_spec hmoves.kept
      hexecute' (OfRun r) settings.scheduler job.jobId "scheduler.execute" jobSpan
      ((Dict.empty.set "resume" (.bool resume)).set "node_count" (.int job.graph.nodeIds.length))
    have hboth : Moves (OfRun r) t.handles holds t₂.handles (begun holds r jobSpan executeSpan) _ :=
      hmoves.trans hmoves'
    have hsameBoth := hsame.trans hsame'
    have hexecuteIs : begun holds r jobSpan executeSpan ⟨r, .execute⟩ = executeSpan :=
      begun_execute jobSpan executeSpan
    have hjobIs : begun holds r jobSpan executeSpan ⟨r, .job⟩ = jobSpan :=
      begun_job jobSpan executeSpan
    have hjobSome : (begun holds r jobSpan executeSpan ⟨r, .job⟩).isSome = settings.background := by
      rw [hjobIs, hjobSpan]
    have hexecuteSome :
        (begun holds r jobSpan executeSpan ⟨r, .execute⟩).isSome = settings.scheduler := by
      rw [hexecuteIs, hexecuteSpan]
    have hopen' : IsOpen jobSpan t₂ := fun id hid ↦ (hboth.kept _ id (hjobIs.trans hid)).1
    have hbegin : beginExecute settings job r sinks resume jobSpan t₁ = _ := Comp.bind_of_ok hstart'
    have hm : (do emit sinks .jobStarted; beginExecute settings job r sinks resume jobSpan) t₁ = _ :=
      (Comp.bind_of_ok (emit_of_none hlogged t₁)).trans hbegin
    cases hlogged' : sinks.logged .executeStarted with
    | some exc =>
      obtain ⟨hends, closed, hreleased, hclosed⟩ := leaves_of_raised hjobSpan hopen'
        (hm.trans (Comp.bind_of_error (emit_of_some hlogged' t₂)))
      rw [hresult]
      refine .inr ⟨hends, ?_⟩
      have hleaves := moves_forgotten (c := false) (d := closed) hboth.kept hjobSome hexecuteSome
      rw [forgotten_begun hjob hexecute, releasing_false, hjobIs] at hleaves
      rw [hreleased]
      refine (hboth.trans hleaves).congr ?_
      rw [true_and, true_and, hclosed, accepts_congr hsameBoth, exceptCalls, ClosesBegin, hlogged,
        hlogged']
      exact and_congr_left' imp_false_eq_true
    | none =>
      cases resume with
      | true =>
        have hlisting := hm.trans (Comp.bind_of_ok (emit_of_none hlogged' t₂))
        rw [hresult, runJob_of_listing hlisting]
        refine .inl ⟨jobSpan, executeSpan, .inl rfl, hjobSpan, hexecuteSpan, hboth.congr ?_⟩
        rw [ClosesBegin, hlogged, hlogged']
        exact iff_of_true ⟨trivial, trivial⟩ (.inl rfl)
      | false =>
        have hexec : _ = execute job sinks executeSpan (.ok .empty) t₂ :=
          hm.trans (Comp.bind_of_ok (emit_of_none hlogged' t₂))
        have hcloses : (True ∧ True) ∧ ClosesRest settings job sinks t₂ (.ok .empty) ↔
            ClosesBegin settings job sinks t false := by
          rw [ClosesBegin, hlogged, hlogged', closesRest_congr hsameBoth]
          simp only [true_and, Bool.false_eq_true, false_or]
        have hrest := goOn_spec job sinks hboth.kept hjobSome hexecuteSome (.ok .empty)
        rw [hexecuteIs, hjobIs, forgotten_begun hjob hexecute] at hrest
        rw [hresult, runJob_congr hexec]
        rcases hrest with ⟨ledger, hledger, hwaits, hrest⟩ | ⟨hends, hrest⟩
        · cases hledger
          rw [hwaits]
          refine .inl ⟨jobSpan, executeSpan, .inr rfl, hjobSpan, hexecuteSpan, hboth.congr ?_⟩
          exact iff_of_true ⟨trivial, trivial⟩ (hcloses.mp ⟨⟨trivial, trivial⟩, hrest⟩)
        · exact .inr ⟨hends, (hboth.trans hrest).congr hcloses⟩

end Traced
end Core
end ExoBrain
