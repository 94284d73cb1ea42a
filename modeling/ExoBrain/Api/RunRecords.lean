import ExoBrain.Api.TurnLaws

/-!
# Closing the record of a run

A turn that is over should not count towards the limit of its tenant.  The two generators mark the
run in their `finally` block on every way out.  The task of a WebSocket marks it where it reacts to
a cancellation, where it is cancelled itself, and, in its `finally` block, after a terminal event;
but it also ends when the stream is exhausted and when a send fails, and then nothing marks the run.
The connection does not make up for it when it shuts down, as the task has taken itself off the
list.

`not_counted_resume_iff` says this of one resumption of a handler, and `records_closed_iff` of every
run of the system: the records of the turns that finish are closed exactly if no task ends in these
two ways before a terminal event, while its record is active.
-/

set_option autoImplicit false

namespace ExoBrain
namespace Api

open Core
open Core.RunRegistry (Counted)
open ExoBrain.Runtime (Transport)

variable {settings : RunSettings}

/-! ## What the marks achieve -/

/-- A run that was marked with a status that is not active is not counted. -/
theorem not_counted_after_mark {status : String} (hstatus : isActiveStatus status = false)
    (key : RunKey) (terminalEvent terminalMessage : String) (now : Stamp) (reg : RunRegistry) :
    ¬Counted key
      (reg.after settings (.markTerminal key status terminalEvent terminalMessage now)) := by
  rintro ⟨newStatus, hnew, hactive⟩
  obtain rfl : newStatus = status := RunRegistry.statusOf_afterMark _ _ _ hnew
  rw [hstatus] at hactive
  cases hactive

/-- What the registry returns for a run has the status it keeps. -/
theorem statusOf_of_getRun (key : RunKey) (reg : RunRegistry) :
    reg.statusOf key = (reg.getRun key).map RunControlRecord.status := by
  cases reg with
  | memory s =>
    show (s.records.get? key).map RunControlRecord.status = (s.getRun key).map _
    rw [RunControlRegistry.getRun, Option.map_map]
    rfl
  | sqlite s =>
    show (s.runControl.get? key).map RunRow.status = (s.getRun key).map _
    rw [SQLiteRunControlRegistry.getRun, Option.map_map]
    rfl

theorem not_counted_markCancelledIfRunning (key : RunKey) (terminalEvent : String) (now : Stamp)
    (reg : RunRegistry) :
    ¬Counted key (markCancelledIfRunning settings key terminalEvent now reg) := by
  rw [markCancelledIfRunning]
  have hstatus := statusOf_of_getRun key reg
  cases hget : reg.getRun key with
  | none =>
    rintro ⟨status, hsome, -⟩
    rw [hstatus, hget] at hsome
    cases hsome
  | some r =>
    show ¬Counted key (if isTerminalStatus r.status then reg else _)
    split
    · next hterminal =>
      rintro ⟨status, hsome, hactive⟩
      rw [hstatus, hget] at hsome
      obtain rfl := Option.some.inj hsome
      simp only [isTerminalStatus, Bool.or_eq_true, decide_eq_true_eq] at hterminal
      rcases hterminal with (h | h) | h <;> rw [h] at hactive <;> exact absurd hactive (by decide)
    · exact not_counted_after_mark (by decide) _ _ _ _ _

/-! ## What the handlers achieve -/

@[simp] theorem TurnState.registry_goto (phase : TurnPhase) (s : TurnState) :
    (s.goto phase).registry = s.registry :=
  rfl

@[simp] theorem TurnState.phase_goto (phase : TurnPhase) (s : TurnState) :
    (s.goto phase).turn.phase = phase :=
  rfl

theorem TurnState.not_counted_mark {status : String} (hstatus : isActiveStatus status = false)
    (terminalEvent terminalMessage : String) (now : Stamp) (s : TurnState) :
    ¬Counted s.turn.key (s.mark settings status terminalEvent terminalMessage now).registry :=
  not_counted_after_mark hstatus _ _ _ _ _

theorem TurnState.not_counted_markSeen (terminal : TerminalEvent) (now : Stamp) (s : TurnState) :
    ¬Counted s.turn.key (s.markSeen settings terminal now).registry :=
  s.not_counted_mark (by cases terminal <;> decide) _ _ _

/-- The generators mark their run on every way out. -/
theorem not_counted_generatorFinally (transport : String) (accepts : String → Bool)
    (clock : Nat → Stamp) (s : TurnState) :
    ¬Counted s.turn.key (generatorFinally transport settings accepts clock s).registry := by
  obtain ⟨s', status, terminalEvent, terminalMessage, hbefore, heq, hstatus, -⟩ :=
    exists_generatorFinally_eq_mark settings transport accepts clock s
  rw [heq, ← hbefore.1]
  exact s'.not_counted_mark hstatus _ _ _

/-- The handler is a generator: it marks its run in the `finally` block, and nowhere else. -/
structure IsGenerator (H : TurnHandler) : Prop where
  finallyBlock : ∃ transport, H.finallyBlock = generatorFinally transport
  onCancelledError : ∀ settings now s, H.onCancelledError settings now s = s
  afterProgress : ∀ settings now s, H.afterProgress settings now s = s

theorem handlerOf_cases (transport : Transport) :
    (transport ≠ .websocket ∧ IsGenerator (handlerOf transport)) ∨
      (transport = .websocket ∧ handlerOf transport = runTurnTask) := by
  cases transport with
  | sse => exact .inl ⟨by decide, ⟨"sse", rfl⟩, fun _ _ _ ↦ rfl, fun _ _ _ ↦ rfl⟩
  | websocket => exact .inr ⟨rfl, rfl⟩
  | openaiCompat =>
    exact .inl ⟨by decide, ⟨"openai_compat", rfl⟩, fun _ _ _ ↦ rfl, fun _ _ _ ↦ rfl⟩

section
variable (accepts : String → Bool) (clock : Nat → Stamp)

theorem not_counted_finish_generator {H : TurnHandler} (hH : IsGenerator H) (s : TurnState) :
    ¬Counted s.turn.key (H.finish settings accepts clock s).registry := by
  obtain ⟨transport, hfinally⟩ := hH.finallyBlock
  rw [TurnHandler.finish, hfinally]
  exact not_counted_generatorFinally _ _ _ s

/-- The task of a WebSocket marks its run in the `finally` block if it saw a terminal event. -/
theorem finish_runTurnTask (s : TurnState) :
    (s.turn.terminal = none ∧
      (runTurnTask.finish settings accepts clock s).registry = s.registry) ∨
    (s.turn.terminal ≠ none ∧
      ¬Counted s.turn.key (runTurnTask.finish settings accepts clock s).registry) := by
  cases hterminal : s.turn.terminal with
  | none =>
    refine .inl ⟨rfl, ?_⟩
    simp only [TurnHandler.finish, runTurnTask, hterminal]
    rfl
  | some terminal =>
    refine .inr ⟨by simp, ?_⟩
    simp only [TurnHandler.finish, runTurnTask, hterminal]
    exact s.not_counted_markSeen terminal _

/-- Whatever the task does in the end, a run that is not counted stays so. -/
theorem not_counted_finish_runTurnTask {s : TurnState} (h : ¬Counted s.turn.key s.registry) :
    ¬Counted s.turn.key (runTurnTask.finish settings accepts clock s).registry := by
  rcases finish_runTurnTask accepts clock s with ⟨-, hsame⟩ | ⟨-, hmarked⟩
  · rw [hsame]
    exact h
  · exact hmarked

/-! ## One resumption -/

/-- The stream is exhausted, or a send fails. -/
def StopsShort (phase : TurnPhase) (outcome : Resume) : Prop :=
  phase = .awaitingEvent ∧ outcome = .ended ∨
    outcome = .sendFailed ∧ (phase = .sending ∨ ∃ rest, phase = .cancelling rest)

@[simp] theorem TurnState.key_noteToolCall (e : TurnEvent) (now : Stamp) (s : TurnState) :
    (s.noteToolCall settings e now).turn.key = s.turn.key := by
  rw [TurnState.noteToolCall]
  split <;> rfl

/-- Sending progress events finishes the turn only if there are none. -/
theorem sendProgress_done {H : TurnHandler} {progress : List CancelledProgress} {s : TurnState}
    (h : (H.sendProgress settings accepts clock progress s).2.turn.phase = .done) :
    (H.sendProgress settings accepts clock progress s).2 =
      H.finishCancelled settings accepts clock s := by
  cases progress with
  | nil => rfl
  | cons p rest => cases h

/-- **How a turn finishes**: it stops short, it is cancelled itself, or it has reacted to a
cancellation. -/
theorem resume_done {H : TurnHandler} {s : TurnState} {outcome : Resume}
    (hcreated : s.turn.phase ≠ .created) (hlive : s.turn.phase ≠ .done)
    (h : (H.resume settings accepts clock s outcome).2.turn.phase = .done) :
    (StopsShort s.turn.phase outcome ∧
      (H.resume settings accepts clock s outcome).2 = H.finish settings accepts clock s) ∨
    (¬StopsShort s.turn.phase outcome ∧
      ((H.resume settings accepts clock s outcome).2 =
          H.finish settings accepts clock (H.onCancelledError settings (clock 1) s) ∨
        ∃ s', s'.turn.key = s.turn.key ∧ (H.resume settings accepts clock s outcome).2 =
          H.finishCancelled settings accepts clock s')) := by
  have hevent : ∀ e, (H.onEvent settings accepts clock e s).2.turn.phase = .done →
      ∃ s', s'.turn.key = s.turn.key ∧
        (H.onEvent settings accepts clock e s).2 = H.finishCancelled settings accepts clock s' := by
    intro e hdone
    rw [TurnHandler.onEvent] at hdone ⊢
    split at hdone
    · next hreacts =>
      rw [if_pos hreacts]
      exact ⟨_, TurnState.key_noteToolCall e _ s, sendProgress_done accepts clock hdone⟩
    · cases hdone
  rcases s with ⟨reg, turn⟩
  rcases turn with ⟨transport, key, correlationId, connection, phase, calls, terminal,
    terminalMessage, cancelPending⟩
  cases phase with
  | created => exact absurd rfl hcreated
  | done => exact absurd rfl hlive
  | awaitingEvent =>
    cases outcome with
    | event e => exact .inr ⟨by simp [StopsShort], .inr (hevent e h)⟩
    | raised message => exact .inr ⟨by simp [StopsShort], .inr (hevent _ h)⟩
    | ended => exact .inl ⟨.inl ⟨rfl, rfl⟩, rfl⟩
    | cancelled => exact .inr ⟨by simp [StopsShort], .inl rfl⟩
    | began | sent | sendFailed => cases h
  | sending =>
    cases outcome with
    | sendFailed => exact .inl ⟨.inr ⟨rfl, .inl rfl⟩, rfl⟩
    | cancelled => exact .inr ⟨by simp [StopsShort], .inl rfl⟩
    | sent | began | event | raised | ended => cases h
  | cancelling rest =>
    cases outcome with
    | sent => exact .inr ⟨by simp [StopsShort], .inr ⟨_, rfl, sendProgress_done accepts clock h⟩⟩
    | sendFailed => exact .inl ⟨.inr ⟨rfl, .inr ⟨rest, rfl⟩⟩, rfl⟩
    | cancelled => exact .inr ⟨by simp [StopsShort], .inl rfl⟩
    | began | event | raised | ended => cases h

/-- **When a turn that finishes leaves its record active**: if it is the task of a WebSocket, which
stops short before a terminal event, while the record is active. -/
theorem not_counted_resume_iff (transport : Transport) {s : TurnState} {outcome : Resume}
    (hcreated : s.turn.phase ≠ .created) (hlive : s.turn.phase ≠ .done)
    (h : ((handlerOf transport).resume settings accepts clock s outcome).2.turn.phase = .done) :
    ¬Counted s.turn.key ((handlerOf transport).resume settings accepts clock s outcome).2.registry ↔
      ¬(transport = .websocket ∧ s.turn.terminal = none ∧ StopsShort s.turn.phase outcome ∧
        Counted s.turn.key s.registry) := by
  rcases handlerOf_cases transport with ⟨hne, hgenerator⟩ | ⟨rfl, hH⟩
  · refine iff_of_true ?_ fun hbad ↦ hne hbad.1
    rcases resume_done accepts clock hcreated hlive h with
      ⟨-, heq⟩ | ⟨-, heq | ⟨s', hkey, heq⟩⟩
    · rw [heq]
      exact not_counted_finish_generator accepts clock hgenerator s
    · rw [heq, hgenerator.onCancelledError]
      exact not_counted_finish_generator accepts clock hgenerator s
    · rw [heq, TurnHandler.finishCancelled, hgenerator.afterProgress, ← hkey]
      exact not_counted_finish_generator accepts clock hgenerator s'
  · rw [hH] at h ⊢
    rcases resume_done accepts clock hcreated hlive h with
      ⟨hshort, heq⟩ | ⟨hnot, heq | ⟨s', hkey, heq⟩⟩
    · rw [heq]
      rcases finish_runTurnTask accepts clock s with ⟨hnone, hsame⟩ | ⟨hsome, hmarked⟩
      · rw [hsame]
        exact not_congr ⟨fun hcounted ↦ ⟨rfl, hnone, hshort, hcounted⟩, fun hbad ↦ hbad.2.2.2⟩
      · exact iff_of_true hmarked fun hbad ↦ hsome hbad.2.1
    · refine iff_of_true ?_ fun hbad ↦ hnot hbad.2.2.1
      rw [heq]
      exact not_counted_finish_runTurnTask accepts clock (s.not_counted_mark (by decide) _ _ _)
    · refine iff_of_true ?_ fun hbad ↦ hnot hbad.2.2.1
      rw [heq, TurnHandler.finishCancelled, ← hkey]
      exact not_counted_finish_runTurnTask accepts clock
        (not_counted_markCancelledIfRunning s'.turn.key _ _ _)

/-- A turn that stops short goes straight to its `finally` block. -/
theorem resume_of_stopsShort (H : TurnHandler) {s : TurnState} {outcome : Resume}
    (h : StopsShort s.turn.phase outcome) :
    (H.resume settings accepts clock s outcome).2 = H.finish settings accepts clock s := by
  rcases s with ⟨reg, turn⟩
  rcases h with ⟨hphase, rfl⟩ | ⟨rfl, hphase | ⟨rest, hphase⟩⟩
  all_goals
    simp only [TurnHandler.resume]
    rw [hphase]

end

/-! ## The system -/

section
variable (limits : TurnLimits)

/-- The step is the last one of a turn whose body was entered. -/
def Finishes (s : TurnSystem) (input : TurnInput) (key : RunKey) : Prop :=
  ∃ i outcome accepts clock before after, input = .resume i outcome accepts clock ∧
    s.turns[i]? = some before ∧ before.phase ≠ .created ∧ before.phase ≠ .done ∧
    (s.step limits input).2.turns[i]? = some after ∧ after.phase = .done ∧ before.key = key

/-- The step shuts a connection down, on which a task for the run is in flight. -/
def ShutsDown (s : TurnSystem) (input : TurnInput) (key : RunKey) : Prop :=
  ∃ c clock connection i, input = .disconnect c clock ∧ s.connections[c]? = some connection ∧
    connection.phase ≠ .closed ∧ connection.tenantId = key.1 ∧
    connection.activeTasks.get? key.2 = some i ∧ s.inFlight i = true

/-- The step resumes a task of a WebSocket that stops short before a terminal event, while the
record of its run is active. -/
def EndsUnmarked (s : TurnSystem) (input : TurnInput) : Prop :=
  ∃ i outcome accepts clock turn, input = .resume i outcome accepts clock ∧
    s.turns[i]? = some turn ∧ turn.transport = .websocket ∧ turn.cancelPending = false ∧
    turn.terminal = none ∧ StopsShort turn.phase outcome ∧ Counted turn.key s.registry

/-- The records of the turns that the step ends are closed. -/
def ClosesRecords (s : TurnSystem) (input : TurnInput) : Prop :=
  ∀ key, Finishes limits s input key ∨ ShutsDown s input key →
    ¬Counted key (s.step limits input).2.registry

/-- **A turn that finishes leaves its record closed**, unless it ends unmarked. -/
theorem finishes_closed_iff (s : TurnSystem) (i : Nat) (outcome : Resume)
    (accepts : String → Bool) (clock : Nat → Stamp) :
    (∀ key, Finishes limits s (.resume i outcome accepts clock) key →
        ¬Counted key (s.step limits (.resume i outcome accepts clock)).2.registry) ↔
      ¬EndsUnmarked s (.resume i outcome accepts clock) := by
  constructor
  · rintro hclosed ⟨i', outcome', accepts', clock', turn, heq, hturn, hws, hpending, hterminal,
      hshort, hcounted⟩
    cases heq
    have hcreated : turn.phase ≠ .created := by
      rintro hphase
      simp [StopsShort, hphase] at hshort
    have hlive : turn.phase ≠ .done := by
      rintro hphase
      simp [StopsShort, hphase] at hshort
    have hmay : turn.cancelPending = true → outcome = .cancelled := by
      rw [hpending]
      exact fun hfalse ↦ absurd hfalse Bool.false_ne_true
    obtain ⟨hregistry, hturns⟩ := step_resume limits hturn accepts clock hlive hmay
    have hdone : (resumed limits s turn outcome accepts clock).turn.phase = .done := by
      rw [resumed, resume_of_stopsShort accepts clock (handlerOf turn.transport)
        (s := ⟨s.registry, { turn with calls := s.callsSeenBy turn }⟩) hshort]
      rfl
    refine hclosed turn.key ⟨i, outcome, accepts, clock, turn, _, rfl, hturn, hcreated, hlive, ?_,
      hdone, rfl⟩ ?_
    · rw [hturns, List.getElem?_set_self (List.getElem?_eq_some_iff.mp hturn).1]
    · rw [hregistry]
      by_contra hnot
      exact (not_counted_resume_iff accepts clock turn.transport hcreated hlive hdone).mp hnot
        ⟨hws, hterminal, hshort, hcounted⟩
  · rintro hmarked key ⟨i', outcome', accepts', clock', before, after, heq, hturn, hcreated, hlive,
      hafter, hdone, rfl⟩
    cases heq
    have hpending : before.cancelPending = true → outcome = .cancelled := by
      intro htrue
      by_contra hne
      rw [step_resume_refused limits hturn accepts clock (.inr ⟨htrue, hne⟩), hturn] at hafter
      exact hlive (Option.some.inj hafter ▸ hdone)
    obtain ⟨hregistry, hturns⟩ := step_resume limits hturn accepts clock hlive hpending
    rw [hturns, List.getElem?_set_self (List.getElem?_eq_some_iff.mp hturn).1] at hafter
    have hdone' : (resumed limits s before outcome accepts clock).turn.phase = .done := by
      rw [Option.some.inj hafter]
      exact hdone
    rw [hregistry]
    refine (not_counted_resume_iff accepts clock before.transport
      (s := ⟨s.registry, { before with calls := s.callsSeenBy before }⟩)
      hcreated hlive hdone').mpr ?_
    rintro ⟨hws, hterminal, hshort, hcounted⟩
    refine hmarked ⟨i, outcome, accepts, clock, before, rfl, hturn, hws, ?_, hterminal, hshort,
      hcounted⟩
    by_contra htrue
    rw [hpending (by simpa using htrue)] at hshort
    simp [StopsShort] at hshort

/-! ## The shutdown of a connection -/

/-- A run that is not counted stays so under the calls that leave its status alone. -/
theorem not_counted_after {key : RunKey} {reg : RunRegistry} (h : ¬Counted key reg)
    {call : RunCall} (hcall : call.Continues key)
    (hother : ∀ status, call.nextStatus key status = status) :
    ¬Counted key (reg.after settings call) := by
  rintro ⟨status, hstatus, hactive⟩
  rcases RunRegistry.statusOf_step settings reg hcall with heq | ⟨-, hnone⟩
  · rw [RunRegistry.after, heq] at hstatus
    obtain ⟨old, hold, rfl⟩ := Option.map_eq_some_iff.mp hstatus
    rw [hother] at hactive
    exact h ⟨old, hold, hactive⟩
  · rw [RunRegistry.after, hnone] at hstatus
    cases hstatus

theorem not_counted_markCancelledIfRunning_of_ne {key key' : RunKey} (hkey : key ≠ key')
    {reg : RunRegistry} (h : ¬Counted key reg) (terminalEvent : String) (now : Stamp) :
    ¬Counted key (markCancelledIfRunning settings key' terminalEvent now reg) := by
  rw [markCancelledIfRunning]
  split
  · exact h
  · split
    · exact h
    · exact not_counted_after h trivial fun status ↦ if_neg hkey

/-- The shutdown closes the record of a task in flight. -/
theorem not_counted_shutDown (c : Nat) (key : RunKey) {i : Nat} (clock : Nat → Stamp)
    {s : TurnSystem} (h : s.inFlight i = true) :
    ¬Counted key (s.shutDown limits c key i clock).registry := by
  rw [TurnSystem.shutDown, if_pos h]
  exact not_counted_markCancelledIfRunning key _ _ _

theorem not_counted_shutDown_of_ne (c : Nat) {key key' : RunKey} (hkey : key ≠ key') (i : Nat)
    (clock : Nat → Stamp) {s : TurnSystem} (h : ¬Counted key s.registry) :
    ¬Counted key (s.shutDown limits c key' i clock).registry := by
  rw [TurnSystem.shutDown]
  split
  · have hcancelled : ¬Counted key
        (s.registry.after limits.run (.requestCancel key' "websocket_disconnect" (clock 0))) :=
      not_counted_after h trivial fun status ↦ if_neg hkey
    exact not_counted_markCancelledIfRunning_of_ne hkey hcancelled _ _
  · exact h

theorem not_counted_shutDownAll_of_not_mem (c : Nat) {tenantId runId : String}
    {tasks : List (String × Nat)} (hnot : runId ∉ tasks.map Prod.fst) (clock : Nat → Stamp)
    {s : TurnSystem} (h : ¬Counted (tenantId, runId) s.registry) :
    ¬Counted (tenantId, runId) (s.shutDownAll limits c tenantId tasks clock).registry := by
  induction tasks generalizing clock s with
  | nil => exact h
  | cons first tasks ih =>
    obtain ⟨runId', j⟩ := first
    rw [List.map_cons, List.mem_cons, not_or] at hnot
    have hkey : (tenantId, runId) ≠ (tenantId, runId') := fun heq ↦ hnot.1 (Prod.mk.inj heq).2
    exact ih hnot.2 _ (not_counted_shutDown_of_ne limits c hkey j clock h)

theorem not_counted_shutDownAll (c : Nat) {tenantId runId : String} {tasks : List (String × Nat)}
    (hnodup : (tasks.map Prod.fst).Nodup) {i : Nat} (hmem : (runId, i) ∈ tasks)
    (clock : Nat → Stamp) {s : TurnSystem} (h : s.inFlight i = true) :
    ¬Counted (tenantId, runId) (s.shutDownAll limits c tenantId tasks clock).registry := by
  induction tasks generalizing clock s with
  | nil => cases hmem
  | cons first tasks ih =>
    rw [List.map_cons, List.nodup_cons] at hnodup
    rcases List.mem_cons.mp hmem with rfl | hmem
    · exact not_counted_shutDownAll_of_not_mem limits c hnodup.1 _
        (not_counted_shutDown limits c (tenantId, runId) clock h)
    · refine ih hnodup.2 hmem _ ?_
      rw [inFlight_shutDown]
      exact h

/-! ## Every run -/

/-- **What a step leaves open**: only the record of a task that ends unmarked. -/
theorem closesRecords_iff (s : TurnSystem) (input : TurnInput) :
    ClosesRecords limits s input ↔ ¬EndsUnmarked s input := by
  cases input with
  | resume i outcome accepts clock =>
    rw [← finishes_closed_iff limits]
    refine ⟨fun h key hkey ↦ h key (.inl hkey), fun h key hkey ↦ hkey.elim (h key) ?_⟩
    rintro ⟨c, clock', connection, j, heq, -⟩
    cases heq
  | disconnect c clock =>
    refine iff_of_true ?_ ?_
    · rintro key (⟨i, outcome, accepts, clock', before, after, heq, -⟩ | ⟨c', clock', connection, i,
        heq, hconnection, hopen, htenant, htask, hflight⟩)
      · cases heq
      · cases heq
        simp only [TurnSystem.step, TurnSystem.onConnection, hconnection, if_neg hopen]
        rw [htenant]
        exact not_counted_shutDownAll limits c connection.activeTasks.nodup_keys
          (Dict.mem_entries_iff.mpr htask) clock hflight
    · rintro ⟨i, outcome, accepts, clock', turn, heq, -⟩
      cases heq
  | connect | submit | cancelMessage | joined | progressSent | cancelRuntimeRun =>
    refine iff_of_true ?_ ?_
    · rintro key (⟨i, outcome, accepts, clock', before, after, heq, -⟩ | ⟨c', clock', connection, i,
        heq, -⟩) <;> cases heq
    · rintro ⟨i, outcome, accepts, clock', turn, heq, -⟩
      cases heq

/-- **Which runs leave no record active.**  In every run of the system, from any state: the records
of the turns that finish are closed when they do, and those of the tasks in flight when their
connection shuts down, exactly if no task of a WebSocket stops short, its stream exhausted or a send
failed, before a terminal event and while its record is active. -/
theorem records_closed_iff (s : TurnSystem) (inputs : List TurnInput) :
    Run.Along (TurnSystem.step limits) (ClosesRecords limits) s inputs ↔
      Run.Along (TurnSystem.step limits) (fun s input ↦ ¬EndsUnmarked s input) s inputs := by
  have hsame : ClosesRecords limits = fun s input ↦ ¬EndsUnmarked s input :=
    funext fun s ↦ funext fun input ↦ propext (closesRecords_iff limits s input)
  rw [hsame]

end

/-- The client of a WebSocket goes away while an event is being sent to it. -/
def clientGone : List TurnInput :=
  [.connect "t", .submit .websocket 0 ⟨"t", "sess", "run-1", "run-1", "websocket"⟩ 1,
    .resume 0 .began (fun _ ↦ false) fun _ ↦ 2,
    .resume 0 (.event { event := "output_delta" }) (fun _ ↦ false) fun _ ↦ 3,
    .resume 0 .sendFailed (fun _ ↦ false) fun _ ↦ 4, .disconnect 0 fun _ ↦ 5]

/-- The task is done and the connection is shut down, and the run is still counted: where one active
run is allowed, the next turn of the tenant is refused. -/
theorem record_left_running :
    let limits : TurnLimits := { maxActiveRunsPerTenant := 1 }
    let after (registry : RunRegistry) : TurnSystem :=
      Run.exec (TurnSystem.step limits) { registry := registry } clientGone
    let leaks (s : TurnSystem) : Prop :=
      s.turns.map Turn.phase = [.done] ∧ s.connections.map Connection.phase = [.closed] ∧
        s.registry.statusOf ("t", "run-1") = some "running" ∧ s.registry.countActiveRuns "t" = 1 ∧
        (s.step limits (.submit .sse 0 ⟨"t", "sess", "run-2", "run-2", "sse"⟩ 6)).1 = .refused
    leaks (after (.memory .initial)) ∧ leaks (after (.sqlite .initial)) := by
  decide

end Api
end ExoBrain
