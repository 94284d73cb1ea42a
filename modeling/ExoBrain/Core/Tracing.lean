import ExoBrain.Lib.Custody
import ExoBrain.Lib.Dict
import ExoBrain.Lib.Raising
import ExoBrain.Lib.Value

/-!
# Trace spans

`RuntimeTracer` (`tracing.py`) keeps a list of the spans that were started, and a dictionary of the
ones that are not finished yet.  Finishing a span hands it to an exporter, if there is one; when the
exporter raises, either the span takes a note of it, or the exception goes on and the span stays in
the dictionary.

A span is named by its position in the list, where the code draws a `uuid4`.  What the exporter
raises is an argument of the call.  Times are not modelled: that `finished_at_utc` has been set is a
truth value.

`RuntimeTracer.handles` reads the spans as handles, with the coroutines they were started by as the
owners.
-/

set_option autoImplicit false

namespace ExoBrain
namespace Core

open Raising (Comp)
open Custody (Handles)

/-! ## What a coroutine raises -/

/-- An instance of `Exception`, with the text of `str(exc)`. -/
inductive TaskException
  | timeoutError (message : String)
  | other (message : String)
deriving DecidableEq, Repr

/-- `str(exc)`. -/
def TaskException.message : TaskException → String
  | .timeoutError message => message
  | .other message => message

/-- What an `await` or a call raises.  `CancelledError` is not an instance of `Exception`. -/
inductive TaskRaised
  | exception (exc : TaskException)
  | cancelledError
deriving DecidableEq, Repr

/-- The answer of a call that raises an exception, or does not. -/
def answer (exc : Option TaskException) : Except TaskRaised Unit :=
  match exc with
  | none => .ok ()
  | some exc => .error (.exception exc)

/-! ## Spans -/

/-- The coroutine of a run that starts a span. -/
inductive SpanLevel
  /-- `_run_job`. -/
  | job
  /-- `execute`. -/
  | execute
  /-- `_run_node` of a node. -/
  | node (nodeId : String)
deriving DecidableEq, Repr

/-- A coroutine, together with the run of a job it belongs to. -/
structure SpanOwner where
  run : Nat
  level : SpanLevel
deriving DecidableEq, Repr

/-- `TraceSpan`.  The code does not record the `owner`. -/
structure TraceSpan where
  owner : SpanOwner
  correlationId : String
  name : String
  parentSpanId : Option Nat := none
  status : String := "running"
  isFinished : Bool := false
  attributes : Dict String Value := Dict.empty
  error : String := ""

/-- `RuntimeTracer`.  A span leaves `_active_by_id` only after it was finished. -/
structure RuntimeTracer where
  /-- `_exporter` is not `None`. -/
  hasExporter : Bool
  fallbackToMemory : Bool
  spans : List TraceSpan
  activeById : Finset Nat
  finished_of_notMem : ∀ id span, spans[id]? = some span → id ∉ activeById → span.isFinished = true

/-- What a coroutine does to the tracer. -/
abbrev Traced (β : Type) : Type := Comp RuntimeTracer TaskRaised β

namespace RuntimeTracer

/-- `RuntimeTracer(..)`. -/
def initial (hasExporter fallbackToMemory : Bool) : RuntimeTracer where
  hasExporter := hasExporter
  fallbackToMemory := fallbackToMemory
  spans := []
  activeById := ∅
  finished_of_notMem := by
    intro id span hspan
    cases hspan

/-- The spans as handles. -/
def handles (t : RuntimeTracer) : Handles SpanOwner := ⟨t.spans.map TraceSpan.owner, t.activeById⟩

/-- The tracer with another span, which is active. -/
def push (span : TraceSpan) (t : RuntimeTracer) : RuntimeTracer where
  hasExporter := t.hasExporter
  fallbackToMemory := t.fallbackToMemory
  spans := t.spans ++ [span]
  activeById := insert t.spans.length t.activeById
  finished_of_notMem := by
    intro id span' hspan' hid
    rw [Finset.mem_insert, not_or] at hid
    rw [List.getElem?_append] at hspan'
    split at hspan'
    · exact t.finished_of_notMem id span' hspan' hid.2
    · rename_i hge
      rw [List.getElem?_singleton, if_neg (by omega)] at hspan'
      cases hspan'

/-- `start_span`. -/
def startSpan (owner : SpanOwner) (correlationId name : String) (parentSpanId : Option Nat)
    (attributes : Dict String Value) : Traced Nat := fun t ↦
  (.ok t.spans.length,
    t.push
      { owner := owner
        correlationId := correlationId
        name := name
        parentSpanId := parentSpanId
        attributes := attributes })

/-- A span after `finish_span`, which may fall back to memory when the exporter has raised. -/
def finishing (status : String) (attributes : Dict String Value) (error : String)
    (fallenBack : Option TaskException) (span : TraceSpan) : TraceSpan :=
  let attributes := span.attributes.update attributes
  { span with
    attributes :=
      match fallenBack with
      | none => attributes
      | some exc =>
        (attributes.set "trace_export_status" (.str "failed")).set "trace_export_error"
          (.str exc.message)
    status := status
    error := error
    isFinished := true }

/-- The tracer with a span finished, and perhaps no longer active. -/
def settle (id : Nat) (status : String) (attributes : Dict String Value) (error : String)
    (fallenBack : Option TaskException) (stays : Bool) (t : RuntimeTracer) : RuntimeTracer where
  hasExporter := t.hasExporter
  fallbackToMemory := t.fallbackToMemory
  spans := t.spans.modify id (finishing status attributes error fallenBack)
  activeById := if stays then t.activeById else t.activeById.erase id
  finished_of_notMem := by
    intro id' span' hspan' hid'
    rw [List.getElem?_modify] at hspan'
    obtain ⟨span, hspan, rfl⟩ := Option.map_eq_some_iff.mp hspan'
    by_cases hsame : id = id'
    · rw [if_pos hsame]
      rfl
    · rw [if_neg hsame]
      refine t.finished_of_notMem id' span hspan fun hmem ↦ hid' ?_
      split
      · exact hmem
      · exact Finset.mem_erase.mpr ⟨Ne.symm hsame, hmem⟩

/-- What `finish_span` raises, where `exported` is what the exporter raises. -/
def refusal (t : RuntimeTracer) (exported : Option TaskException) : Option TaskException :=
  if t.hasExporter && !t.fallbackToMemory then exported else none

/-- `finish_span`. -/
def finishSpan (id : Nat) (status : String) (attributes : Dict String Value) (error : String)
    (exported : Option TaskException) : Traced Unit := fun t ↦
  if id ∉ t.activeById then (.ok (), t)
  else
    match if t.hasExporter then exported else none with
    | none => (.ok (), t.settle id status attributes error none false)
    | some exc =>
      if t.fallbackToMemory then (.ok (), t.settle id status attributes error (some exc) false)
      else (.error (.exception exc), t.settle id status attributes error none true)

/-! ## Spans as handles -/

variable {t : RuntimeTracer}

@[simp] theorem handles_push (span : TraceSpan) (t : RuntimeTracer) :
    (t.push span).handles = t.handles.opening span.owner := by
  simp only [handles, push, Handles.opening, List.map_append, List.map_cons, List.map_nil,
    List.length_map]

theorem handles_settle (id : Nat) (status : String) (attributes : Dict String Value)
    (error : String) (fallenBack : Option TaskException) (stays : Bool) (t : RuntimeTracer) :
    (t.settle id status attributes error fallenBack stays).handles =
      if stays then t.handles else t.handles.closing id := by
  have hmap : (t.spans.modify id (finishing status attributes error fallenBack)).map
      TraceSpan.owner = t.spans.map TraceSpan.owner := by
    refine List.ext_getElem? fun i ↦ ?_
    rw [List.getElem?_map, List.getElem?_modify, List.getElem?_map]
    cases t.spans[i]? with
    | none => rfl
    | some span =>
      refine congrArg some ?_
      dsimp only
      split
      · rfl
      · rfl
  rw [handles, settle, hmap]
  cases stays <;> rfl

/-- The tracers have the same settings. -/
def SameSettings (t t' : RuntimeTracer) : Prop :=
  t'.hasExporter = t.hasExporter ∧ t'.fallbackToMemory = t.fallbackToMemory

theorem SameSettings.refusal {t t' : RuntimeTracer} (h : SameSettings t t') :
    t'.refusal = t.refusal := by
  funext exported
  rw [RuntimeTracer.refusal, RuntimeTracer.refusal, h.1, h.2]

theorem SameSettings.trans {t t' t'' : RuntimeTracer} (h : SameSettings t t')
    (h' : SameSettings t' t'') : SameSettings t t'' :=
  ⟨h'.1.trans h.1, h'.2.trans h.2⟩

/-- **`finish_span`.**  It closes the handle of an active span, unless the exporter refuses it. -/
theorem finishSpan_spec {id : Nat} (hid : id ∈ t.activeById) (status : String)
    (attributes : Dict String Value) (error : String) (exported : Option TaskException) :
    ∃ t', finishSpan id status attributes error exported t = (answer (t.refusal exported), t') ∧
      SameSettings t t' ∧
      t'.handles = if t.refusal exported = none then t.handles.closing id else t.handles := by
  rw [finishSpan, if_neg (not_not_intro hid)]
  cases hexporter : t.hasExporter with
  | false =>
    have hrefusal : t.refusal exported = none := by
      rw [refusal, hexporter, Bool.false_and, if_neg Bool.false_ne_true]
    rw [hrefusal]
    refine ⟨_, rfl, ⟨rfl, rfl⟩, ?_⟩
    rw [handles_settle]
    rfl
  | true =>
    cases exported with
    | none =>
      have hrefusal : t.refusal none = none := by
        rw [refusal, ite_self]
      rw [hrefusal]
      refine ⟨_, rfl, ⟨rfl, rfl⟩, ?_⟩
      rw [handles_settle]
      rfl
    | some exc =>
      cases hfallback : t.fallbackToMemory with
      | true =>
        have hrefusal : t.refusal (some exc) = none := by
          rw [refusal, hfallback, Bool.not_true, Bool.and_false, if_neg Bool.false_ne_true]
        rw [hrefusal]
        refine ⟨_, rfl, ⟨rfl, rfl⟩, ?_⟩
        rw [handles_settle]
        rfl
      | false =>
        have hrefusal : t.refusal (some exc) = some exc := by
          rw [refusal, hexporter, hfallback, Bool.not_false, Bool.and_self, if_pos rfl]
        rw [hrefusal]
        refine ⟨_, rfl, ⟨rfl, rfl⟩, ?_⟩
        rw [handles_settle]
        rfl

end RuntimeTracer
end Core
end ExoBrain
