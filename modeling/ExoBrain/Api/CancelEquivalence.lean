import ExoBrain.Api.RunRecords

/-!
# One cancellation, two transports

A turn that is streamed over SSE and one that is streamed over a WebSocket should react alike to a
cancellation of their run.  Both poll the registry once per event.  But the generator of the SSE
route reacts only if it has seen a tool call, where the task of a WebSocket reacts at once; and a
request that comes after the last event is noticed by the `finally` block of the one, and by nothing
in the other.

`cancelledTurn` is a turn with a client that receives all that is sent, whose cancellation is
requested between two events, or after the last.  `cancelled_alike_iff` says when the two transports
agree on what is forwarded after the request and on the record that is left: if an event follows,
exactly if a tool call was seen by then, the event included; and if none follows, exactly if a
terminal event was seen.
-/

set_option autoImplicit false

namespace ExoBrain
namespace Api

open Core Text
open Core.RunRegistry (Counted)
open ExoBrain.Runtime (Transport)

/-! ## A turn from its start to its end -/

/-- The sends a handler has to make before it takes the next event. -/
def TurnPhase.due : TurnPhase → Nat
  | .sending => 1
  | .cancelling rest => rest.length + 1
  | _ => 0

namespace TurnHandler

variable (H : TurnHandler) (settings : RunSettings) (accepts : String → Bool)

/-- So many sends succeed. -/
def sends : Nat → (Nat → Nat → Stamp) → TurnState → List ClientEvent × TurnState
  | 0, _, s => ([], s)
  | n + 1, clock, s =>
    let r := H.resume settings accepts (clock 0) s .sent
    let r' := sends n (fun i ↦ clock (i + 1)) r.2
    (r.1 ++ r'.1, r'.2)

/-- The stream yields an event, and the client receives what the handler sends. -/
def take (clock : Nat → Nat → Stamp) (s : TurnState) (e : TurnEvent) :
    List ClientEvent × TurnState :=
  let r := H.resume settings accepts (clock 0) s (.event e)
  let r' := H.sends settings accepts r.2.turn.phase.due (fun i ↦ clock (i + 1)) r.2
  (r.1 ++ r'.1, r'.2)

/-- The stream yields several events. -/
def takeAll : (Nat → Nat → Nat → Stamp) → TurnState → List TurnEvent →
    List ClientEvent × TurnState
  | _, s, [] => ([], s)
  | clock, s, e :: es =>
    let r := H.take settings accepts (clock 0) s e
    let r' := takeAll (fun i ↦ clock (i + 1)) r.2 es
    (r.1 ++ r'.1, r'.2)

/-- A turn whose cancellation is requested between the events `before` and `after`: what is sent
after the request, and what is left in the end. -/
def cancelledTurn (clock : Nat → Nat → Nat → Stamp) (reason : String) (s : TurnState)
    (before after : List TurnEvent) : List ClientEvent × TurnState :=
  let s := (H.resume settings accepts (clock 0 0) s .began).2
  let s := (H.takeAll settings accepts (fun i ↦ clock (i + 1)) s before).2
  let requested := before.length + 1
  let s := s.write settings (.requestCancel s.turn.key reason (clock requested 0 0))
  let r := H.takeAll settings accepts (fun i ↦ clock (requested + 1 + i)) s after
  let r' := H.resume settings accepts (clock (requested + 1 + after.length) 0) r.2 .ended
  (r.1 ++ r'.1, r'.2)

end TurnHandler

/-- The adapter events among what is sent. -/
def forwarded (sent : List ClientEvent) : List TurnEvent :=
  sent.filterMap fun
    | .event e => some e
    | .progress _ | .runCancelled _ => none

/-- A turn that was started and whose handler is about to run. -/
def startedTurn (settings : RunSettings) (transport : Transport) (start : RunStart) (now : Stamp)
    (reg : RunRegistry) : TurnState :=
  ⟨reg.after settings (.startRun start now), TurnSystem.newTurn transport 0 start⟩

/-! ## Seen events -/

/-- The event makes a handler note a tool call. -/
def TurnEvent.notesCall (e : TurnEvent) : Bool := e.isToolEvent && strip e.callId ≠ ""

/-- The terminal event it is. -/
def TurnEvent.terminal? (e : TurnEvent) : Option TerminalEvent :=
  if e.event = "run_complete" then some .runComplete
  else if e.event = "error" then some .error
  else none

/-- The last terminal event among those seen. -/
def lastTerminal (seen : List TurnEvent) : Option TerminalEvent :=
  seen.foldl (fun terminal e ↦ e.terminal?.or terminal) none

theorem lastTerminal_append (seen : List TurnEvent) (e : TurnEvent) :
    lastTerminal (seen ++ [e]) = e.terminal?.or (lastTerminal seen) := by
  rw [lastTerminal, List.foldl_append]
  rfl

theorem lastTerminal_eq_none_iff (seen : List TurnEvent) :
    lastTerminal seen = none ↔ ∀ e ∈ seen, e.terminal? = none := by
  induction seen using List.reverseRecOn with
  | nil => simp [lastTerminal]
  | append_singleton seen e ih =>
    rw [lastTerminal_append, Option.or_eq_none_iff, ih]
    simp only [List.mem_append, List.mem_singleton]
    constructor
    · rintro ⟨hlast, hseen⟩ e' (he' | rfl)
      · exact hseen e' he'
      · exact hlast
    · exact fun h ↦ ⟨h e (.inr rfl), fun e' he' ↦ h e' (.inl he')⟩

/-! ## The record of a turn in progress -/

variable {settings : RunSettings} {key : RunKey}

/-- What the handlers read of a record. -/
def shown (key : RunKey) (reg : RunRegistry) : Option (Bool × String) :=
  (reg.getRun key).map fun r ↦ (r.cancelRequested, r.status)

theorem shown_memory (key : RunKey) (s : RunControlRegistry) :
    shown key (.memory s) = (s.records.get? key).map fun r ↦ (r.cancelRequested, r.status) := by
  show (s.getRun key).map _ = _
  rw [RunControlRegistry.getRun, Option.map_map]
  rfl

theorem shown_sqlite (key : RunKey) (s : SQLiteRunControlRegistry) :
    shown key (.sqlite s) = (s.runControl.get? key).map fun r ↦ (r.cancelRequested, r.status) := by
  show (s.getRun key).map _ = _
  rw [SQLiteRunControlRegistry.getRun, Option.map_map]
  rfl

theorem shown_start (start : RunStart) (now : Stamp) (reg : RunRegistry) :
    shown (start.tenantId, start.runId) (reg.after settings (.startRun start now)) =
      some (false, "running") := by
  cases reg with
  | memory s =>
    show shown _ (.memory ⟨s.records.set (start.tenantId, start.runId) _⟩) = _
    rw [shown_memory, Dict.get?_set, if_pos rfl]
    rfl
  | sqlite s =>
    show shown _ (.sqlite ⟨(s.runControl.erase _).set (start.tenantId, start.runId) _, _⟩) = _
    rw [shown_sqlite, Dict.get?_set, if_pos rfl]
    rfl

/-- A record that is written in place, under the key it is read at. -/
theorem map_get?_modify_self {ν α : Type} {view : ν → α} {f : ν → ν} {g : α → α}
    (hf : ∀ x, view (f x) = g (view x)) (d : Dict RunKey ν) (key : RunKey) :
    ((d.modify key f).get? key).map view = ((d.get? key).map view).map g := by
  rw [Dict.get?_modify, if_pos rfl, Option.map_map, Option.map_map]
  exact congrArg (fun h ↦ Option.map h (d.get? key)) (funext hf)

theorem shown_recordToolCall (callId : String) (now : Stamp) (reg : RunRegistry) :
    shown key (reg.after settings (.recordToolCall key callId now)) = shown key reg := by
  cases reg with
  | memory s =>
    simp only [RunRegistry.after, RunRegistry.step, RunControlRegistry.step]
    rcases s.recordToolCall_snd key callId now with heq | heq
    · rw [heq]
    · rw [heq, shown_memory, shown_memory]
      refine (map_get?_modify_self (g := id) ?_ s.records key).trans Option.map_id'
      exact fun _ ↦ rfl
  | sqlite s =>
    simp only [RunRegistry.after, RunRegistry.step, SQLiteRunControlRegistry.step]
    rw [shown_sqlite, shown_sqlite]
    rcases s.recordToolCall_runControl key callId now with heq | heq
    · rw [heq]
    · rw [heq]
      refine (map_get?_modify_self (g := id) ?_ s.runControl key).trans Option.map_id'
      exact fun _ ↦ rfl

theorem shown_requestCancel (reason : String) (now : Stamp) (reg : RunRegistry) :
    shown key (reg.after settings (.requestCancel key reason now)) = (shown key reg).map fun x ↦
      (true, if isTerminalStatus x.2 then x.2 else "cancel_requested") := by
  cases reg with
  | memory s =>
    show shown key (.memory (s.requestCancel key reason now).2) = _
    rw [s.requestCancel_snd, shown_memory, shown_memory]
    refine map_get?_modify_self ?_ s.records key
    exact fun _ ↦ rfl
  | sqlite s =>
    show shown key (.sqlite (s.requestCancel key reason now).2) = _
    rw [s.requestCancel_snd, shown_sqlite, shown_sqlite]
    refine map_get?_modify_self ?_ s.runControl key
    exact fun _ ↦ rfl

/-- The record of a turn in progress, whose cancellation was requested or not. -/
def InProgress (key : RunKey) (cancelRequested : Bool) (reg : RunRegistry) : Prop :=
  shown key reg = some (cancelRequested, if cancelRequested then "cancel_requested" else "running")

theorem InProgress.requestCancel {cancelRequested : Bool} {reg : RunRegistry}
    (h : InProgress key cancelRequested reg) (reason : String) (now : Stamp) :
    InProgress key true (reg.after settings (.requestCancel key reason now)) := by
  rw [InProgress, shown_requestCancel, h]
  cases cancelRequested <;> rfl

/-- A turn in progress is counted. -/
theorem InProgress.counted {cancelRequested : Bool} {reg : RunRegistry}
    (h : InProgress key cancelRequested reg) : Counted key reg := by
  obtain ⟨r, hget, hr⟩ := Option.map_eq_some_iff.mp h
  refine ⟨r.status, by rw [statusOf_of_getRun, hget]; rfl, ?_⟩
  have hstatus : r.status = if cancelRequested then "cancel_requested" else "running" :=
    congrArg Prod.snd hr
  rw [hstatus]
  cases cancelRequested <;> decide

/-- The record, if it is still there, has this status. -/
def EndsAs (key : RunKey) (status : String) (reg : RunRegistry) : Prop :=
  ∀ newStatus, reg.statusOf key = some newStatus → newStatus = status

theorem endsAs_mark (key : RunKey) (status terminalEvent terminalMessage : String) (now : Stamp)
    (reg : RunRegistry) :
    EndsAs key status
      (reg.after settings (.markTerminal key status terminalEvent terminalMessage now)) :=
  fun _ hnew ↦ RunRegistry.statusOf_afterMark _ _ _ hnew

theorem EndsAs.not_counted {status : String} {reg : RunRegistry} (h : EndsAs key status reg)
    (hstatus : isActiveStatus status = false) : ¬Counted key reg := by
  rintro ⟨newStatus, hnew, hactive⟩
  rw [h newStatus hnew, hstatus] at hactive
  cases hactive

/-! ## How the handlers finish -/

theorem cancelRequested_of_inProgress {s : TurnState} {cancelRequested : Bool}
    (h : InProgress s.turn.key cancelRequested s.registry) :
    s.cancelRequested = cancelRequested := by
  obtain ⟨r, hget, hr⟩ := Option.map_eq_some_iff.mp h
  rw [TurnState.cancelRequested, hget]
  exact congrArg Prod.fst hr

section
variable (settings) (accepts : String → Bool) (clock : Nat → Stamp)

/-- The generator marks a cancelled run with the terminal event it saw, or as cancelled. -/
theorem endsAs_finish_eventGenerator {s : TurnState} (h : InProgress s.turn.key true s.registry) :
    EndsAs s.turn.key (closingStatus s.turn.terminal)
      (eventGenerator.finish settings accepts clock s).registry := by
  obtain ⟨s', status, terminalEvent, terminalMessage, hbefore, heq, -, hclosing⟩ :=
    exists_generatorFinally_eq_mark settings "sse" accepts (fun n ↦ clock (n + 2)) s
  show EndsAs _ _ (generatorFinally "sse" settings accepts (fun n ↦ clock (n + 2)) s).registry
  rw [heq, ← hclosing (.inr (cancelRequested_of_inProgress h)), ← hbefore.1]
  exact endsAs_mark _ _ _ _ _ _

/-- The task marks a run with the terminal event it saw. -/
theorem endsAs_finish_runTurnTask {s : TurnState} {terminal : TerminalEvent}
    (h : s.turn.terminal = some terminal) :
    EndsAs s.turn.key terminal.status (runTurnTask.finish settings accepts clock s).registry := by
  simp only [TurnHandler.finish, runTurnTask, h]
  exact endsAs_mark _ _ _ _ _ _

/-- The task that reacts to a cancellation does as the generator. -/
theorem endsAs_finishCancelled_runTurnTask {s : TurnState}
    (h : InProgress s.turn.key true s.registry) :
    EndsAs s.turn.key (closingStatus s.turn.terminal)
      (runTurnTask.finishCancelled settings accepts clock s).registry := by
  cases hterminal : s.turn.terminal with
  | some terminal => exact endsAs_finish_runTurnTask settings accepts clock hterminal
  | none =>
    obtain ⟨r, hget, hr⟩ := Option.map_eq_some_iff.mp h
    have hrequested : r.status = "cancel_requested" := congrArg Prod.snd hr
    have hstatus : isTerminalStatus r.status = false := by
      rw [hrequested]
      decide
    simp only [TurnHandler.finishCancelled, TurnHandler.finish, runTurnTask, hterminal,
      markCancelledIfRunning, hget, hstatus]
    exact endsAs_mark _ _ _ _ _ _

end

/-! ## Taking events -/

variable (settings)

/-- Noting a tool call leaves the rest of the turn alone. -/
theorem turn_noteToolCall (e : TurnEvent) (now : Stamp) (s : TurnState) :
    (s.noteToolCall settings e now).turn.key = s.turn.key ∧
      (s.noteToolCall settings e now).turn.correlationId = s.turn.correlationId ∧
      (s.noteToolCall settings e now).turn.terminal = s.turn.terminal := by
  rw [TurnState.noteToolCall]
  split <;> exact ⟨rfl, rfl, rfl⟩

theorem keys_noteToolCall (e : TurnEvent) (now : Stamp) (s : TurnState) :
    (s.noteToolCall settings e now).turn.calls.keys = [] ↔
      s.turn.calls.keys = [] ∧ e.notesCall = false := by
  have hnotes : e.notesCall = true ↔ e.isToolEvent = true ∧ strip e.callId ≠ "" := by
    simp [TurnEvent.notesCall]
  rw [TurnState.noteToolCall]
  split
  · next hyes =>
    refine iff_of_false ?_ fun h ↦ Bool.false_ne_true (h.2.symm.trans (hnotes.mpr hyes))
    intro hempty
    have hmem : strip e.callId ∈ (s.turn.calls.set (strip e.callId) e.toolName).keys :=
      Dict.mem_keys_set.mpr (.inl rfl)
    exact List.not_mem_nil (hempty ▸ hmem)
  · next hno =>
    have hnone : e.notesCall = false := eq_false_of_ne_true fun h ↦ hno (hnotes.mp h)
    exact ⟨fun h ↦ ⟨h, hnone⟩, And.left⟩

theorem inProgress_noteToolCall {cancelRequested : Bool} {s : TurnState}
    (h : InProgress s.turn.key cancelRequested s.registry) (e : TurnEvent) (now : Stamp) :
    InProgress s.turn.key cancelRequested (s.noteToolCall settings e now).registry := by
  rw [TurnState.noteToolCall]
  split
  · exact (shown_recordToolCall _ _ _).trans h
  · exact h

theorem terminal_noteTerminal (e : TurnEvent) (s : TurnState) :
    (s.noteTerminal e).turn.terminal = e.terminal?.or s.turn.terminal := by
  rw [TurnState.noteTerminal, TurnEvent.terminal?]
  split
  · rfl
  · split <;> rfl

theorem calls_noteTerminal (e : TurnEvent) (s : TurnState) :
    (s.noteTerminal e).turn.calls = s.turn.calls := by
  rw [TurnState.noteTerminal]
  split
  · rfl
  · split <;> rfl

/-- A handler that takes events: what it has seen, and whether it was cancelled. -/
structure Streaming (cancelRequested : Bool) (seen : List TurnEvent) (s : TurnState) : Prop where
  awaiting : s.turn.phase = .awaitingEvent
  inProgress : InProgress s.turn.key cancelRequested s.registry
  calls : s.turn.calls.keys = [] ↔ ∀ e ∈ seen, e.notesCall = false
  terminal : s.turn.terminal = lastTerminal seen

section
variable (H : TurnHandler) (accepts : String → Bool) {cancelRequested : Bool}
  {seen : List TurnEvent} {s : TurnState}

theorem resume_event (clock : Nat → Stamp) (hphase : s.turn.phase = .awaitingEvent)
    (e : TurnEvent) :
    H.resume settings accepts clock s (.event e) = H.onEvent settings accepts clock e s := by
  simp only [TurnHandler.resume]
  rw [hphase]

/-- The state in which a handler decides whether it reacts. -/
theorem Streaming.onEvent (h : Streaming cancelRequested seen s) (clock : Nat → Stamp)
    (e : TurnEvent) :
    H.onEvent settings accepts clock e s =
      if H.reactsToCancel cancelRequested (s.noteToolCall settings e (clock 0)).turn.calls = true
      then H.sendProgress settings accepts clock
        (buildCancelledProgressEvents (s.noteToolCall settings e (clock 0)).turn.calls
          s.turn.correlationId) (s.noteToolCall settings e (clock 0))
      else ([.event e], ((s.noteToolCall settings e (clock 0)).noteTerminal e).goto .sending) := by
  obtain ⟨hkey, hcorrelation, -⟩ := turn_noteToolCall settings e (clock 0) s
  have hrequested : (s.noteToolCall settings e (clock 0)).cancelRequested = cancelRequested := by
    refine cancelRequested_of_inProgress ?_
    rw [hkey]
    exact inProgress_noteToolCall settings h.inProgress e (clock 0)
  simp only [TurnHandler.onEvent, hrequested, hcorrelation]

/-- **An event that is not reacted to** is forwarded, and seen. -/
theorem Streaming.take (h : Streaming cancelRequested seen s) (clock : Nat → Nat → Stamp)
    (e : TurnEvent)
    (hno : H.reactsToCancel cancelRequested (s.noteToolCall settings e (clock 0 0)).turn.calls =
      false) :
    (H.take settings accepts clock s e).1 = [.event e] ∧
      (H.take settings accepts clock s e).2.turn.key = s.turn.key ∧
      Streaming cancelRequested (seen ++ [e]) (H.take settings accepts clock s e).2 := by
  obtain ⟨hkey', -, hterminal⟩ := turn_noteToolCall settings e (clock 0 0) s
  have hkeys := keys_noteToolCall settings e (clock 0 0) s
  have hprogress := inProgress_noteToolCall settings h.inProgress e (clock 0 0)
  have htake : H.take settings accepts clock s e = ([.event e],
      ((s.noteToolCall settings e (clock 0 0)).noteTerminal e).goto .awaitingEvent) := by
    rw [TurnHandler.take, resume_event settings H accepts (clock 0) h.awaiting, h.onEvent, hno,
      if_neg Bool.false_ne_true]
    rfl
  generalize s.noteToolCall settings e (clock 0 0) = noted at hkey' hterminal hkeys hprogress htake
  obtain ⟨hkey, hregistry⟩ := noteTerminal_spec e noted
  rw [htake]
  refine ⟨rfl, hkey.trans hkey', rfl, ?_, ?_, ?_⟩
  · show InProgress (noted.noteTerminal e).turn.key cancelRequested (noted.noteTerminal e).registry
    rw [hkey, hkey', hregistry]
    exact hprogress
  · show (noted.noteTerminal e).turn.calls.keys = [] ↔ _
    rw [calls_noteTerminal, hkeys, h.calls]
    simp only [List.mem_append, List.mem_singleton]
    constructor
    · rintro ⟨hseen, he⟩ e' (he' | rfl)
      · exact hseen e' he'
      · exact he
    · exact fun hall ↦ ⟨fun e' he' ↦ hall e' (.inl he'), hall e (.inr rfl)⟩
  · show (noted.noteTerminal e).turn.terminal = _
    rw [terminal_noteTerminal, lastTerminal_append, ← h.terminal, hterminal]

/-- The progress events are sent, and then the handler finishes. -/
theorem sends_cancelling (rest : List CancelledProgress) (clock : Nat → Nat → Stamp)
    (hphase : s.turn.phase = .cancelling rest) :
    forwarded (H.sends settings accepts (rest.length + 1) clock s).1 = [] ∧
      ∃ clock' s', (H.sends settings accepts (rest.length + 1) clock s).2 =
          H.finishCancelled settings accepts clock' s' ∧
        s'.turn.key = s.turn.key ∧ s'.turn.terminal = s.turn.terminal ∧
        s'.registry = s.registry := by
  have hresume : H.resume settings accepts (clock 0) s .sent =
      H.sendProgress settings accepts (clock 0) rest s := by
    simp only [TurnHandler.resume]
    rw [hphase]
  induction rest generalizing clock s with
  | nil =>
    rw [TurnHandler.sends, hresume]
    exact ⟨rfl, clock 0, s, rfl, rfl, rfl, rfl⟩
  | cons p rest ih =>
    rw [List.length_cons, TurnHandler.sends, hresume]
    obtain ⟨hsent, clock', s', hfinish, hkey, hterminal, hregistry⟩ :=
      ih (s := s.goto (.cancelling rest)) (fun i ↦ clock (i + 1)) rfl rfl
    exact ⟨hsent, clock', s', hfinish, hkey, hterminal, hregistry⟩

/-- **An event that is reacted to** is not forwarded, and the handler finishes. -/
theorem Streaming.take_reacts (h : Streaming cancelRequested seen s) (clock : Nat → Nat → Stamp)
    (e : TurnEvent)
    (hyes : H.reactsToCancel cancelRequested (s.noteToolCall settings e (clock 0 0)).turn.calls =
      true) :
    forwarded (H.take settings accepts clock s e).1 = [] ∧
      ∃ clock' s', (H.take settings accepts clock s e).2 =
          H.finishCancelled settings accepts clock' s' ∧
        s'.turn.key = s.turn.key ∧ s'.turn.terminal = s.turn.terminal ∧
        InProgress s.turn.key cancelRequested s'.registry := by
  obtain ⟨hkey, -, hterminal⟩ := turn_noteToolCall settings e (clock 0 0) s
  have hprogress := inProgress_noteToolCall settings h.inProgress e (clock 0 0)
  have hresume : H.resume settings accepts (clock 0) s (.event e) =
      H.sendProgress settings accepts (clock 0)
        (buildCancelledProgressEvents (s.noteToolCall settings e (clock 0 0)).turn.calls
          s.turn.correlationId) (s.noteToolCall settings e (clock 0 0)) := by
    rw [resume_event settings H accepts (clock 0) h.awaiting, h.onEvent, hyes, if_pos rfl]
  rw [TurnHandler.take, hresume]
  generalize s.noteToolCall settings e (clock 0 0) = noted at hkey hterminal hprogress
  cases buildCancelledProgressEvents noted.turn.calls s.turn.correlationId with
  | nil => exact ⟨rfl, clock 0, noted, rfl, hkey, hterminal, hprogress⟩
  | cons p rest =>
    obtain ⟨hsent, clock', s', hfinish, hkey', hterminal', hregistry⟩ :=
      sends_cancelling settings H accepts (s := noted.goto (.cancelling rest)) rest
        (fun i ↦ clock (i + 1)) rfl
    refine ⟨hsent, clock', s', hfinish, hkey'.trans hkey, hterminal'.trans hterminal, ?_⟩
    rw [hregistry]
    exact hprogress

/-- A handler that is done takes nothing. -/
theorem takeAll_done (hphase : s.turn.phase = .done) (clock : Nat → Nat → Nat → Stamp)
    (es : List TurnEvent) : H.takeAll settings accepts clock s es = ([], s) := by
  have hresume : ∀ clock e, H.resume settings accepts clock s (.event e) = ([], s) := by
    intro clock e
    simp only [TurnHandler.resume]
    rw [hphase]
  induction es generalizing clock with
  | nil => rfl
  | cons e es ih =>
    rw [TurnHandler.takeAll, TurnHandler.take, hresume, hphase]
    exact ih _

/-- Before a cancellation is requested, every event is forwarded. -/
theorem Streaming.takeAll (h : Streaming false seen s)
    (hno : ∀ calls, H.reactsToCancel false calls = false) (clock : Nat → Nat → Nat → Stamp)
    (es : List TurnEvent) :
    forwarded (H.takeAll settings accepts clock s es).1 = es ∧
      (H.takeAll settings accepts clock s es).2.turn.key = s.turn.key ∧
      Streaming false (seen ++ es) (H.takeAll settings accepts clock s es).2 := by
  induction es generalizing clock seen s with
  | nil => exact ⟨rfl, rfl, by rwa [List.append_nil]⟩
  | cons e es ih =>
    obtain ⟨hsent, hkey, hnext⟩ := h.take settings H accepts (clock 0) e (hno _)
    obtain ⟨hsents, hkeys, hlast⟩ := ih hnext fun i ↦ clock (i + 1)
    rw [List.append_assoc] at hlast
    refine ⟨?_, hkeys.trans hkey, hlast⟩
    rw [TurnHandler.takeAll, hsent]
    exact congrArg (List.cons e) hsents

/-- A handler that took events waits for more, or is done. -/
theorem Streaming.takeAll_settles (h : Streaming cancelRequested seen s)
    (clock : Nat → Nat → Nat → Stamp) (es : List TurnEvent) :
    (H.takeAll settings accepts clock s es).2.turn.phase = .done ∨
      Streaming cancelRequested (seen ++ es) (H.takeAll settings accepts clock s es).2 := by
  induction es generalizing clock seen s with
  | nil => exact .inr (by rwa [List.append_nil])
  | cons e es ih =>
    rw [TurnHandler.takeAll]
    cases hreacts : H.reactsToCancel cancelRequested
        (s.noteToolCall settings e (clock 0 0 0)).turn.calls with
    | true =>
      obtain ⟨-, clock', s', hfinish, -⟩ := h.take_reacts settings H accepts (clock 0) e hreacts
      have hdone : (H.take settings accepts (clock 0) s e).2.turn.phase = .done := by
        rw [hfinish]
        rfl
      exact .inl (by rw [takeAll_done settings H accepts hdone]; exact hdone)
    | false =>
      obtain ⟨-, -, hnext⟩ := h.take settings H accepts (clock 0) e hreacts
      have hrest := ih hnext fun i ↦ clock (i + 1)
      rwa [List.append_assoc] at hrest

end

/-! ## When the transports agree -/

/-- The two records are active or not alike, and they have the same status, if both are still
there. -/
def SameRecord (key : RunKey) (reg reg' : RunRegistry) : Prop :=
  (Counted key reg ↔ Counted key reg') ∧
    ∀ status status', reg.statusOf key = some status → reg'.statusOf key = some status' →
      status = status'

theorem EndsAs.sameRecord {status : String} {reg reg' : RunRegistry} (h : EndsAs key status reg)
    (h' : EndsAs key status reg') (hstatus : isActiveStatus status = false) :
    SameRecord key reg reg' :=
  ⟨iff_of_false (h.not_counted hstatus) (h'.not_counted hstatus),
    fun _ _ hst hst' ↦ (h _ hst).trans (h' _ hst').symm⟩

/-- What a cancellation needs to be noticed by both: a tool call that was seen, up to the event that
follows the request, or, where none follows, a terminal event. -/
def NoticedAlike (before : List TurnEvent) : List TurnEvent → Prop
  | [] => ∃ e ∈ before, e.terminal? ≠ none
  | e :: _ => ∃ e' ∈ before ++ [e], e'.notesCall = true

instance (before : List TurnEvent) : (after : List TurnEvent) →
    Decidable (NoticedAlike before after)
  | [] => inferInstanceAs (Decidable (∃ e ∈ before, e.terminal? ≠ none))
  | e :: _ => inferInstanceAs (Decidable (∃ e' ∈ before ++ [e], e'.notesCall = true))

section
variable (H : TurnHandler) (accepts : String → Bool)

/-- The state in which the events after the request are taken. -/
theorem exists_streaming (hno : ∀ calls, H.reactsToCancel false calls = false)
    {transport : Transport} (htransport : transport ≠ .openaiCompat)
    (clock : Nat → Nat → Nat → Stamp) (reason : String) (start : RunStart) (now : Stamp)
    (reg : RunRegistry) (before after : List TurnEvent) :
    ∃ s clock₁ clock₂, Streaming true before s ∧ s.turn.key = (start.tenantId, start.runId) ∧
      H.cancelledTurn settings accepts clock reason
          (startedTurn settings transport start now reg) before after =
        ((H.takeAll settings accepts clock₁ s after).1 ++
            (H.resume settings accepts clock₂ (H.takeAll settings accepts clock₁ s after).2
              .ended).1,
          (H.resume settings accepts clock₂ (H.takeAll settings accepts clock₁ s after).2
            .ended).2) := by
  have hbegan : (H.resume settings accepts (clock 0 0)
      (startedTurn settings transport start now reg) .began).2 =
        (startedTurn settings transport start now reg).goto .awaitingEvent := by
    simp only [TurnHandler.resume, startedTurn, TurnSystem.newTurn, if_neg htransport]
  have hstart : Streaming false []
      ((startedTurn settings transport start now reg).goto .awaitingEvent) :=
    ⟨rfl, shown_start start now reg, by simp [startedTurn, TurnSystem.newTurn, TurnState.goto,
      Dict.keys, Dict.empty], rfl⟩
  obtain ⟨-, hkey, hbefore⟩ := hstart.takeAll settings H accepts hno (fun i ↦ clock (i + 1)) before
  rw [TurnHandler.cancelledTurn, hbegan]
  generalize (H.takeAll settings accepts (fun i ↦ clock (i + 1))
    ((startedTurn settings transport start now reg).goto .awaitingEvent) before).2 = s
    at hkey hbefore
  exact ⟨s.write settings (.requestCancel s.turn.key reason (clock (before.length + 1) 0 0)), _, _,
    ⟨hbefore.awaiting, hbefore.inProgress.requestCancel _ _, hbefore.calls, hbefore.terminal⟩,
    hkey, rfl⟩

/-- A handler that is done does not notice the end of the stream. -/
theorem resume_ended_of_done {s : TurnState} (hphase : s.turn.phase = .done)
    (clock : Nat → Stamp) : H.resume settings accepts clock s .ended = ([], s) := by
  simp only [TurnHandler.resume]
  rw [hphase]

theorem resume_ended_of_awaiting {s : TurnState} (hphase : s.turn.phase = .awaitingEvent)
    (clock : Nat → Stamp) :
    H.resume settings accepts clock s .ended = ([], H.finish settings accepts clock s) := by
  simp only [TurnHandler.resume]
  rw [hphase]

/-- A cancelled turn finishes. -/
theorem phase_cancelledTurn (hno : ∀ calls, H.reactsToCancel false calls = false)
    {transport : Transport} (htransport : transport ≠ .openaiCompat)
    (clock : Nat → Nat → Nat → Stamp) (reason : String) (start : RunStart) (now : Stamp)
    (reg : RunRegistry) (before after : List TurnEvent) :
    (H.cancelledTurn settings accepts clock reason (startedTurn settings transport start now reg)
      before after).2.turn.phase = .done := by
  obtain ⟨s, clock₁, clock₂, h, -, heq⟩ := exists_streaming settings H accepts hno htransport clock
    reason start now reg before after
  rw [heq]
  rcases h.takeAll_settles settings H accepts clock₁ after with hdone | hstreaming
  · rw [resume_ended_of_done settings H accepts hdone]
    exact hdone
  · rw [resume_ended_of_awaiting settings H accepts hstreaming.awaiting]
    rfl

/-- A handler that reacts to the first event after the request forwards none. -/
theorem Streaming.reacts {seen : List TurnEvent} {s : TurnState} (h : Streaming true seen s)
    (hcloses : ∀ (clock : Nat → Stamp) s, InProgress s.turn.key true s.registry →
      EndsAs s.turn.key (closingStatus s.turn.terminal)
        (H.finishCancelled settings accepts clock s).registry)
    (clock : Nat → Nat → Nat → Stamp) (clock' : Nat → Stamp) (e : TurnEvent)
    (rest : List TurnEvent)
    (hyes : H.reactsToCancel true (s.noteToolCall settings e (clock 0 0 0)).turn.calls = true) :
    forwarded ((H.takeAll settings accepts clock s (e :: rest)).1 ++
        (H.resume settings accepts clock' (H.takeAll settings accepts clock s (e :: rest)).2
          .ended).1) = [] ∧
      EndsAs s.turn.key (closingStatus (lastTerminal seen))
        (H.resume settings accepts clock' (H.takeAll settings accepts clock s (e :: rest)).2
          .ended).2.registry := by
  obtain ⟨hsent, clock'', s', hfinish, hkey, hterminal, hprogress⟩ :=
    h.take_reacts settings H accepts (clock 0) e hyes
  have hdone : (H.take settings accepts (clock 0) s e).2.turn.phase = .done := by
    rw [hfinish]
    rfl
  rw [TurnHandler.takeAll, takeAll_done settings H accepts hdone,
    resume_ended_of_done settings H accepts hdone, List.append_nil, List.append_nil]
  refine ⟨hsent, ?_⟩
  rw [hfinish, ← h.terminal, ← hterminal, ← hkey]
  refine hcloses clock'' s' ?_
  rw [hkey]
  exact hprogress

/-- The task of a WebSocket reacts to the first event after the request, whatever it has seen. -/
theorem runTurnTask_cancelled (clock : Nat → Nat → Nat → Stamp) (reason : String)
    (start : RunStart) (now : Stamp) (reg : RunRegistry) (before : List TurnEvent) (e : TurnEvent)
    (rest : List TurnEvent) :
    let ws := runTurnTask.cancelledTurn settings accepts clock reason
      (startedTurn settings .websocket start now reg) before (e :: rest)
    forwarded ws.1 = [] ∧
      EndsAs (start.tenantId, start.runId) (closingStatus (lastTerminal before)) ws.2.registry := by
  intro ws
  obtain ⟨s, clock₁, clock₂, h, hkey, hws⟩ := exists_streaming settings runTurnTask accepts
    (fun _ ↦ rfl) (by decide : Transport.websocket ≠ .openaiCompat) clock reason start now reg
    before (e :: rest)
  have hws : ws = _ := hws
  obtain ⟨hsent, hends⟩ := h.reacts settings runTurnTask accepts
    (fun clock s hs ↦ endsAs_finishCancelled_runTurnTask settings accepts clock hs) clock₁ clock₂ e
    rest rfl
  rw [hws]
  rw [hkey] at hends
  exact ⟨hsent, hends⟩

end

variable {settings}

/-- **When the transports agree on a cancellation.**  After the request both forward the same
adapter events and leave the same record, exactly if the next event finds a tool call seen, itself
included, or, where the request comes after the last event, a terminal event was seen. -/
theorem cancelled_alike_iff (accepts : String → Bool) (clock clock' : Nat → Nat → Nat → Stamp)
    (reason : String) (start : RunStart) (now : Stamp) (reg : RunRegistry)
    (before after : List TurnEvent) :
    let sse := eventGenerator.cancelledTurn settings accepts clock reason
      (startedTurn settings .sse { start with transport := "sse" } now reg) before after
    let ws := runTurnTask.cancelledTurn settings accepts clock' reason
      (startedTurn settings .websocket { start with transport := "websocket" } now reg) before after
    (forwarded sse.1 = forwarded ws.1 ∧
        SameRecord (start.tenantId, start.runId) sse.2.registry ws.2.registry) ↔
      NoticedAlike before after := by
  intro sse ws
  obtain ⟨s, clock₁, clock₂, h, hkey, hsse⟩ := exists_streaming settings eventGenerator accepts
    (fun _ ↦ rfl) (by decide : Transport.sse ≠ .openaiCompat) clock reason
    { start with transport := "sse" } now reg before after
  have hsse : sse = _ := hsse
  have hclosing := isActiveStatus_closingStatus (lastTerminal before)
  cases after with
  | nil =>
    obtain ⟨s', clock₁', clock₂', h', hkey', hws⟩ := exists_streaming settings runTurnTask accepts
      (fun _ ↦ rfl) (by decide : Transport.websocket ≠ .openaiCompat) clock' reason
      { start with transport := "websocket" } now reg before []
    have hws : ws = _ := hws
    rw [hsse, hws, TurnHandler.takeAll, TurnHandler.takeAll,
      resume_ended_of_awaiting settings _ accepts h.awaiting,
      resume_ended_of_awaiting settings _ accepts h'.awaiting]
    have hends := endsAs_finish_eventGenerator settings accepts clock₂ h.inProgress
    rw [hkey, h.terminal] at hends
    cases hlast : lastTerminal before with
    | some terminal =>
      have hends' := endsAs_finish_runTurnTask settings accepts clock₂'
        (h'.terminal.trans hlast)
      rw [hkey'] at hends'
      rw [hlast] at hends hclosing
      refine iff_of_true ⟨rfl, hends.sameRecord hends' hclosing⟩ ?_
      by_contra hnone
      have hall : ∀ e ∈ before, e.terminal? = none := fun e he ↦
        not_not.mp fun hterminal ↦ hnone ⟨e, he, hterminal⟩
      rw [(lastTerminal_eq_none_iff before).mpr hall] at hlast
      cases hlast
    | none =>
      refine iff_of_false ?_ ?_
      · -- the record of the WebSocket is left as the request left it
        rintro ⟨-, hcounted, -⟩
        refine hends.not_counted hclosing (hcounted.mpr ?_)
        rcases finish_runTurnTask accepts clock₂' s' with ⟨-, hsame⟩ | ⟨hsome, -⟩
        · show Counted _ (runTurnTask.finish settings accepts clock₂' s').registry
          rw [hsame, ← hkey']
          exact h'.inProgress.counted
        · exact absurd (h'.terminal.trans hlast) hsome
      · rintro ⟨e, he, hterminal⟩
        exact hterminal ((lastTerminal_eq_none_iff before).mp hlast e he)
  | cons e rest =>
    obtain ⟨hsent', hends'⟩ := runTurnTask_cancelled settings accepts clock' reason
      { start with transport := "websocket" } now reg before e rest
    have hcalls : (s.noteToolCall settings e (clock₁ 0 0 0)).turn.calls.keys = [] ↔
        ¬NoticedAlike before (e :: rest) := by
      rw [keys_noteToolCall, h.calls]
      simp [NoticedAlike]
    rw [hsse]
    by_cases hempty : (s.noteToolCall settings e (clock₁ 0 0 0)).turn.calls.keys = []
    · refine iff_of_false ?_ (hcalls.mp hempty)
      rintro ⟨hsame, -⟩
      obtain ⟨hsent, -, -⟩ := h.take settings eventGenerator accepts (clock₁ 0) e
        (by simp [eventGenerator, hempty])
      rw [TurnHandler.takeAll, hsent] at hsame
      cases hsame.trans hsent'
    · refine iff_of_true ?_ (not_not.mp fun hnot ↦ hempty (hcalls.mpr hnot))
      obtain ⟨hsent, hends⟩ := h.reacts settings eventGenerator accepts
        (fun clock s hs ↦ endsAs_finish_eventGenerator settings accepts clock hs) clock₁ clock₂ e
        rest (by simp [eventGenerator, hempty])
      rw [hkey] at hends
      exact ⟨hsent.trans hsent'.symm, hends.sameRecord hends' hclosing⟩

/-- A turn without tool calls that is cancelled before its first event: the SSE route forwards all
of it and completes the run, and the WebSocket forwards nothing and does not. -/
theorem cancelled_before_first_event :
    let start (transport : String) : RunStart := ⟨"t", "sess", "run-1", "run-1", transport⟩
    let events : List TurnEvent := [{ event := "output_delta" }, { event := "run_complete" }]
    let clock : Nat → Nat → Nat → Stamp := fun i _ _ ↦ i
    let sse := eventGenerator.cancelledTurn {} (fun _ ↦ false) clock "admin"
      (startedTurn {} .sse (start "sse") 0 (.memory .initial)) [] events
    let ws := runTurnTask.cancelledTurn {} (fun _ ↦ false) clock "admin"
      (startedTurn {} .websocket (start "websocket") 0 (.memory .initial)) [] events
    (forwarded sse.1 = events ∧ forwarded ws.1 = []) ∧
      sse.2.registry.statusOf ("t", "run-1") = some "completed" ∧
        ws.2.registry.statusOf ("t", "run-1") ≠ some "completed" := by
  intro start events clock sse ws
  obtain ⟨hsent, hends⟩ := runTurnTask_cancelled {} (fun _ ↦ false) clock "admin"
    (start "websocket") 0 (.memory .initial) [] { event := "output_delta" }
    [{ event := "run_complete" }]
  have hsse : forwarded sse.1 = events ∧
      sse.2.registry.statusOf ("t", "run-1") = some "completed" := by decide
  exact ⟨⟨hsse.1, hsent⟩, hsse.2, fun hcompleted ↦
    absurd (hends "completed" hcompleted) (by decide)⟩

end Api
end ExoBrain
