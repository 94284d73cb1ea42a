import ExoBrain.Core.RunCounting
import ExoBrain.Api.TurnSystem

/-!
# What a step of the turns can change

The handlers of the turns share the registry, so what one of them does to it matters to all.
`resume_resumes` says it for a handler: it keeps the key of its turn, and marks no run but its own,
and that only when it finishes.  `writes_step` and `evolves_step` say it for the system: the runs a
step may mark (`MayMark`), and that the turns keep their keys and stay done once they are, but for
the one that is submitted.
-/

set_option autoImplicit false

namespace ExoBrain
namespace Api

open Core
open Core.RunRegistry (Writes)
open Relation (ReflTransGen)
open ExoBrain.Runtime (Transport)

variable {settings : RunSettings}

/-! ## A handler at work -/

/-- Only the registry changes, and no run but the one of the turn is marked. -/
def OnlyWrites (settings : RunSettings) (s s' : TurnState) : Prop :=
  s'.turn = s.turn ∧ Writes settings (fun key ↦ key = s.turn.key) s.registry s'.registry

theorem OnlyWrites.refl (s : TurnState) : OnlyWrites settings s s := ⟨rfl, ReflTransGen.refl⟩

theorem OnlyWrites.trans {s s' s'' : TurnState} (h : OnlyWrites settings s s')
    (h' : OnlyWrites settings s' s'') : OnlyWrites settings s s'' := by
  refine ⟨h'.1.trans h.1, ReflTransGen.trans h.2 ?_⟩
  rw [← h.1]
  exact h'.2

theorem onlyWrites_write {call : RunCall} (s : TurnState)
    (hcall : ∀ key, call.Marks key → key = s.turn.key) :
    OnlyWrites settings s (s.write settings call) :=
  ⟨rfl, Writes.single hcall⟩

theorem onlyWrites_mark (status terminalEvent terminalMessage : String) (now : Stamp)
    (s : TurnState) :
    OnlyWrites settings s (s.mark settings status terminalEvent terminalMessage now) :=
  onlyWrites_write s fun _ hmarks ↦ hmarks.symm

theorem writes_requestCancel {mayMark : RunKey → Prop} (key : RunKey) (reason : String)
    (now : Stamp) (reg : RunRegistry) :
    Writes settings mayMark reg (reg.after settings (.requestCancel key reason now)) :=
  Writes.single fun _ hmarks ↦ hmarks.elim

theorem writes_markCancelledIfRunning (key : RunKey) (terminalEvent : String) (now : Stamp)
    (reg : RunRegistry) :
    Writes settings (fun key' ↦ key' = key) reg
      (markCancelledIfRunning settings key terminalEvent now reg) := by
  rw [markCancelledIfRunning]
  split
  · exact ReflTransGen.refl
  · split
    · exact ReflTransGen.refl
    · exact Writes.single fun _ hmarks ↦ hmarks.symm

/-- The status a turn ends with after a cancellation: the one of its terminal event, if it saw
one. -/
def closingStatus (terminal : Option TerminalEvent) : String :=
  (terminal.map TerminalEvent.status).getD "cancelled"

theorem isActiveStatus_closingStatus (terminal : Option TerminalEvent) :
    isActiveStatus (closingStatus terminal) = false := by
  rcases terminal with - | (- | -) <;> decide

/-- **What the generators do in the end**: they mark their run, after a terminal event or a
cancellation with the closing status. -/
theorem exists_generatorFinally_eq_mark (settings : RunSettings) (transport : String)
    (accepts : String → Bool) (clock : Nat → Stamp) (s : TurnState) :
    ∃ s' status terminalEvent terminalMessage, OnlyWrites settings s s' ∧
      generatorFinally transport settings accepts clock s =
        s'.mark settings status terminalEvent terminalMessage (clock 1) ∧
      isActiveStatus status = false ∧
      (s.turn.terminal ≠ none ∨ s.cancelRequested = true →
        status = closingStatus s.turn.terminal) := by
  rw [generatorFinally]
  generalize hforwarded : (if 0 < forwardRuntimeCancellations accepts s.turn.calls.keys
    s.turn.terminal.isSome then s.write settings (.requestCancel s.turn.key
      (transport ++ "_stream_ended_before_terminal_event") (clock 0)) else s) = s'
  have hbefore : OnlyWrites settings s s' := by
    rw [← hforwarded]
    split
    · exact onlyWrites_write s fun _ hmarks ↦ hmarks.elim
    · exact OnlyWrites.refl s
  cases hterminal : s.turn.terminal with
  | some terminal =>
    have hseen : s'.turn.terminal = some terminal := by rw [hbefore.1, hterminal]
    refine ⟨s', _, _, _, hbefore, by simp only [hseen]; rfl, ?_, fun _ ↦ rfl⟩
    exact isActiveStatus_closingStatus (some terminal)
  | none =>
    have hseen : s'.turn.terminal = none := by rw [hbefore.1, hterminal]
    simp only [hseen]
    split
    · exact ⟨s', _, _, _, hbefore, rfl, by decide, fun _ ↦ rfl⟩
    · next hnot =>
      have hvacuous : ¬((none : Option TerminalEvent) ≠ none ∨ s.cancelRequested = true) := by
        rintro (hne | htrue)
        · exact hne rfl
        · exact hnot htrue
      split
      · exact ⟨s', _, _, _, hbefore, rfl, by decide, fun _ ↦ rfl⟩
      · exact ⟨s', _, _, _, hbefore, rfl, by decide, fun h ↦ absurd h hvacuous⟩

theorem onlyWrites_generatorFinally (transport : String) (accepts : String → Bool)
    (clock : Nat → Stamp) (s : TurnState) :
    OnlyWrites settings s (generatorFinally transport settings accepts clock s) := by
  obtain ⟨s', status, terminalEvent, terminalMessage, hbefore, heq, -, -⟩ :=
    exists_generatorFinally_eq_mark settings transport accepts clock s
  rw [heq]
  exact hbefore.trans (onlyWrites_mark _ _ _ _ s')

/-- What a handler does besides its loop. -/
structure WritesOwn (H : TurnHandler) : Prop where
  afterProgress : ∀ settings now s, OnlyWrites settings s (H.afterProgress settings now s)
  onCancelledError : ∀ settings now s, OnlyWrites settings s (H.onCancelledError settings now s)
  finallyBlock : ∀ settings accepts clock s,
    OnlyWrites settings s (H.finallyBlock settings accepts clock s)

theorem writesOwn_runTurnTask : WritesOwn runTurnTask where
  afterProgress _ _ s := ⟨rfl, writes_markCancelledIfRunning s.turn.key _ _ s.registry⟩
  onCancelledError _ _ s := onlyWrites_mark _ _ _ _ s
  finallyBlock settings _ clock s := by
    simp only [runTurnTask]
    cases s.turn.terminal with
    | none => exact OnlyWrites.refl s
    | some terminal => exact onlyWrites_mark _ _ _ _ s

theorem writesOwn_handlerOf (transport : Transport) : WritesOwn (handlerOf transport) := by
  cases transport with
  | websocket => exact writesOwn_runTurnTask
  | sse =>
    exact ⟨fun _ _ s ↦ OnlyWrites.refl s, fun _ _ s ↦ OnlyWrites.refl s,
      fun _ _ _ s ↦ onlyWrites_generatorFinally _ _ _ s⟩
  | openaiCompat =>
    exact ⟨fun _ _ s ↦ OnlyWrites.refl s, fun _ _ s ↦ OnlyWrites.refl s,
      fun _ _ _ s ↦ onlyWrites_generatorFinally _ _ _ s⟩

/-- The turn keeps its key, and its run is marked only when it finishes. -/
def Resumes (settings : RunSettings) (s s' : TurnState) : Prop :=
  s'.turn.key = s.turn.key ∧
    Writes settings (fun key ↦ key = s.turn.key ∧ s'.turn.phase = .done) s.registry s'.registry

theorem resumes_goto (phase : TurnPhase) (s : TurnState) : Resumes settings s (s.goto phase) :=
  ⟨rfl, ReflTransGen.refl⟩

/-- What is written before a handler finishes. -/
theorem OnlyWrites.resumes_goto_done {s s' : TurnState} (h : OnlyWrites settings s s') :
    Resumes settings s (s'.goto .done) :=
  ⟨(congrArg Turn.key h.1 : s'.turn.key = s.turn.key), h.2.mono fun _ hkey ↦ ⟨hkey, rfl⟩⟩

/-- A tool call is noted without a mark. -/
theorem noteToolCall_spec (settings : RunSettings) (e : TurnEvent) (now : Stamp) (s : TurnState) :
    (s.noteToolCall settings e now).turn.key = s.turn.key ∧
      Writes settings (fun _ ↦ False) s.registry (s.noteToolCall settings e now).registry := by
  rw [TurnState.noteToolCall]
  split
  · exact ⟨rfl, Writes.single fun _ hmarks ↦ hmarks⟩
  · exact ⟨rfl, ReflTransGen.refl⟩

theorem noteTerminal_spec (e : TurnEvent) (s : TurnState) :
    (s.noteTerminal e).turn.key = s.turn.key ∧ (s.noteTerminal e).registry = s.registry := by
  rw [TurnState.noteTerminal]
  split
  · exact ⟨rfl, rfl⟩
  · split <;> exact ⟨rfl, rfl⟩

section
variable {H : TurnHandler} (hH : WritesOwn H) (accepts : String → Bool) (clock : Nat → Stamp)
include hH

theorem OnlyWrites.resumes_finish {s s' : TurnState} (h : OnlyWrites settings s s') :
    Resumes settings s (H.finish settings accepts clock s') :=
  (h.trans (hH.finallyBlock _ _ _ s')).resumes_goto_done

theorem resumes_sendProgress (progress : List CancelledProgress) (s : TurnState) :
    Resumes settings s (H.sendProgress settings accepts clock progress s).2 := by
  cases progress with
  | nil => exact (hH.afterProgress settings (clock 1) s).resumes_finish hH accepts clock
  | cons p rest => exact resumes_goto _ s

theorem resumes_onEvent (e : TurnEvent) (s : TurnState) :
    Resumes settings s (H.onEvent settings accepts clock e s).2 := by
  rw [TurnHandler.onEvent]
  obtain ⟨hkey, hwrites⟩ := noteToolCall_spec settings e (clock 0) s
  generalize s.noteToolCall settings e (clock 0) = s' at hkey hwrites ⊢
  split
  · obtain ⟨hkey', hwrites'⟩ := resumes_sendProgress hH accepts clock
      (buildCancelledProgressEvents s'.turn.calls s'.turn.correlationId) s'
    rw [hkey] at hkey' hwrites'
    exact ⟨hkey', ReflTransGen.trans (hwrites.mono fun _ hfalse ↦ hfalse.elim) hwrites'⟩
  · obtain ⟨hkey', hsame⟩ := noteTerminal_spec e s'
    refine ⟨hkey'.trans hkey, ?_⟩
    show Writes settings _ s.registry (s'.noteTerminal e).registry
    rw [hsame]
    exact hwrites.mono fun _ hfalse ↦ hfalse.elim

/-- **What a handler does when it is resumed**: it keeps its key, and marks its own run, if any, and
only when it finishes. -/
theorem resumes_resume (s : TurnState) (outcome : Resume) :
    Resumes settings s (H.resume settings accepts clock s outcome).2 := by
  have hrefl : OnlyWrites settings s s := OnlyWrites.refl s
  have hfinish := hrefl.resumes_finish hH accepts clock
  have hcancelled := (hH.onCancelledError settings (clock 1) s).resumes_finish hH accepts clock
  unfold TurnHandler.resume
  split
  · exact resumes_goto _ s
  · exact resumes_goto _ s
  · exact resumes_onEvent hH accepts clock _ s
  · exact resumes_onEvent hH accepts clock _ s
  · exact hfinish
  · exact resumes_goto _ s
  · exact hfinish
  · exact resumes_sendProgress hH accepts clock _ s
  · exact hfinish
  · exact hcancelled
  · exact hcancelled
  · exact hcancelled
  · exact ⟨rfl, ReflTransGen.refl⟩

end

/-! ## The turns of a system -/

/-- The turns keep their keys, and stay done once they are. -/
def Evolves (before after : List Turn) : Prop :=
  List.Forall₂ (fun b a ↦ a.key = b.key ∧ (b.phase = .done → a.phase = .done)) before after

theorem Evolves.refl (turns : List Turn) : Evolves turns turns :=
  List.forall₂_same.mpr fun _ _ ↦ ⟨rfl, fun hdone ↦ hdone⟩

theorem Evolves.trans {turns turns' turns'' : List Turn} (h : Evolves turns turns')
    (h' : Evolves turns' turns'') : Evolves turns turns'' := by
  induction h generalizing turns'' with
  | nil => exact h'
  | cons hfirst _ ih =>
    cases h' with
    | cons hfirst' hrest' =>
      exact .cons ⟨hfirst'.1.trans hfirst.1, fun hdone ↦ hfirst'.2 (hfirst.2 hdone)⟩ (ih hrest')

theorem evolves_modify {turns : List Turn} {i : Nat} {f : Turn → Turn}
    (h : ∀ turn, turns[i]? = some turn →
      (f turn).key = turn.key ∧ (turn.phase = .done → (f turn).phase = .done)) :
    Evolves turns (turns.modify i f) := by
  induction turns generalizing i with
  | nil =>
    rw [List.modify_nil]
    exact Evolves.refl []
  | cons turn turns ih =>
    cases i with
    | zero => exact .cons (h turn rfl) (Evolves.refl turns)
    | succ i => exact .cons ⟨rfl, fun hdone ↦ hdone⟩ (ih fun turn' hturn' ↦ h turn' hturn')

theorem evolves_set {turns : List Turn} {i : Nat} {before after : Turn}
    (hbefore : turns[i]? = some before) (hkey : after.key = before.key)
    (hlive : before.phase ≠ .done) : Evolves turns (turns.set i after) := by
  rw [List.set_eq_modify]
  refine evolves_modify fun turn hturn ↦ ?_
  obtain rfl : before = turn := Option.some.inj (hbefore.symm.trans hturn)
  exact ⟨hkey, fun hdone ↦ absurd hdone hlive⟩

theorem evolves_cancelTask (i : Nat) (s : TurnSystem) : Evolves s.turns (s.cancelTask i).turns :=
  evolves_modify fun _ _ ↦ ⟨rfl, fun hdone ↦ hdone⟩

@[simp] theorem registry_saveCalls (before after : Turn) (s : TurnSystem) :
    (s.saveCalls before after).registry = s.registry := by
  rw [TurnSystem.saveCalls]
  split <;> rfl

@[simp] theorem turns_saveCalls (before after : Turn) (s : TurnSystem) :
    (s.saveCalls before after).turns = s.turns := by
  rw [TurnSystem.saveCalls]
  split <;> rfl

theorem inFlight_cancelTask (i j : Nat) (s : TurnSystem) :
    (s.cancelTask i).inFlight j = s.inFlight j := by
  rw [TurnSystem.inFlight, TurnSystem.inFlight, TurnSystem.cancelTask, List.getElem?_modify]
  cases s.turns[j]? with
  | none => rfl
  | some turn =>
    rw [Option.map_eq_map, Option.map_some]
    by_cases heq : i = j
    · simp only [if_pos heq]
    · simp only [if_neg heq]

section
variable (limits : TurnLimits)

theorem inFlight_shutDown (c : Nat) (key : RunKey) (i j : Nat) (clock : Nat → Stamp)
    (s : TurnSystem) : (s.shutDown limits c key i clock).inFlight j = s.inFlight j := by
  rw [TurnSystem.shutDown]
  split
  · exact inFlight_cancelTask i j s
  · rfl

/-- The handler of a turn, as the system resumes it. -/
def resumed (s : TurnSystem) (turn : Turn) (outcome : Resume) (accepts : String → Bool)
    (clock : Nat → Stamp) : TurnState :=
  ((handlerOf turn.transport).resume limits.run accepts clock
    ⟨s.registry, { turn with calls := s.callsSeenBy turn }⟩ outcome).2

/-- What the resumption of a turn leaves. -/
theorem step_resume {s : TurnSystem} {i : Nat} {turn : Turn} (hturn : s.turns[i]? = some turn)
    {outcome : Resume} (accepts : String → Bool) (clock : Nat → Stamp)
    (hlive : turn.phase ≠ .done) (hpending : turn.cancelPending = true → outcome = .cancelled) :
    (s.step limits (.resume i outcome accepts clock)).2.registry =
        (resumed limits s turn outcome accepts clock).registry ∧
      (s.step limits (.resume i outcome accepts clock)).2.turns =
        s.turns.set i (resumed limits s turn outcome accepts clock).turn := by
  have hgo : ¬(turn.phase = .done ∨ turn.cancelPending = true ∧ outcome ≠ .cancelled) := by
    rintro (hdone | ⟨htrue, hne⟩)
    · exact hlive hdone
    · exact hne (hpending htrue)
  simp only [TurnSystem.step, TurnSystem.resume, hturn, if_neg hgo, registry_saveCalls,
    turns_saveCalls]
  exact ⟨rfl, rfl⟩

/-- A turn that may not be resumed so is left as it is. -/
theorem step_resume_refused {s : TurnSystem} {i : Nat} {turn : Turn}
    (hturn : s.turns[i]? = some turn) {outcome : Resume} (accepts : String → Bool)
    (clock : Nat → Stamp)
    (hnot : turn.phase = .done ∨ turn.cancelPending = true ∧ outcome ≠ .cancelled) :
    (s.step limits (.resume i outcome accepts clock)).2 = s := by
  simp only [TurnSystem.step, TurnSystem.resume, hturn]
  rw [if_pos hnot]

/-! ## What a step may mark -/

/-- The step may mark the run: its turn finishes, it is cancelled by a message or by an
administrator, or its connection is shut down. -/
def MayMark (s : TurnSystem) (input : TurnInput) (key : RunKey) : Prop :=
  match input with
  | .resume i outcome accepts clock =>
    ∃ before after, s.turns[i]? = some before ∧ before.key = key ∧
      (s.step limits (.resume i outcome accepts clock)).2.turns[i]? = some after ∧
      after.phase = .done
  | .cancelMessage c runId _ =>
    ∃ connection, s.connections[c]? = some connection ∧ (connection.tenantId, runId) = key
  | .joined c _ =>
    ∃ connection i progress, s.connections[c]? = some connection ∧ connection.tenantId = key.1 ∧
      connection.phase = .joining key.2 i progress
  | .progressSent c _ =>
    ∃ connection rest, s.connections[c]? = some connection ∧ connection.tenantId = key.1 ∧
      connection.phase = .sending key.2 rest
  | .disconnect c _ =>
    ∃ connection i, s.connections[c]? = some connection ∧ connection.tenantId = key.1 ∧
      connection.activeTasks.get? key.2 = some i
  | .cancelRuntimeRun key' _ _ => key' = key
  | _ => False

/-- The step submits a turn, and the handler takes it. -/
def Submits (s : TurnSystem) (input : TurnInput) (start : RunStart) : Prop :=
  ∃ transport c now, input = .submit transport c start now ∧
    (transport = .websocket → ∃ connection, s.connections[c]? = some connection ∧
      connection.phase = .receiving ∧ connection.tenantId = start.tenantId)

/-- No turn is added, and only some runs may be marked. -/
def Changes (mayMark : RunKey → Prop) (s s' : TurnSystem) : Prop :=
  Evolves s.turns s'.turns ∧ Writes limits.run mayMark s.registry s'.registry

variable {limits}

theorem Changes.refl (mayMark : RunKey → Prop) (s : TurnSystem) : Changes limits mayMark s s :=
  ⟨Evolves.refl _, ReflTransGen.refl⟩

theorem Changes.trans {mayMark : RunKey → Prop} {s s' s'' : TurnSystem}
    (h : Changes limits mayMark s s') (h' : Changes limits mayMark s' s'') :
    Changes limits mayMark s s'' :=
  ⟨h.1.trans h'.1, ReflTransGen.trans h.2 h'.2⟩

theorem Changes.mono {mayMark mayMark' : RunKey → Prop} {s s' : TurnSystem}
    (h : Changes limits mayMark s s') (hmay : ∀ key, mayMark key → mayMark' key) :
    Changes limits mayMark' s s' :=
  ⟨h.1, h.2.mono hmay⟩

theorem changes_sendNext (c : Nat) (key : RunKey) (progress : List CancelledProgress) (now : Stamp)
    (s : TurnSystem) :
    Changes limits (fun key' ↦ key' = key) s (s.sendNext limits c key progress now).2 := by
  cases progress with
  | nil => exact ⟨Evolves.refl _, writes_markCancelledIfRunning key _ now s.registry⟩
  | cons p rest => exact Changes.refl _ s

theorem changes_proceed (c : Nat) (key : RunKey) (progress : List CancelledProgress) (now : Stamp)
    (s : TurnSystem) :
    Changes limits (fun key' ↦ key' = key) s (s.proceed limits c key progress now).2 :=
  changes_sendNext c key progress now (s.modifyConnection c (Connection.pop key.2))

theorem changes_cancelMessage (c : Nat) (connection : Connection) (runId : String)
    (clock : Nat → Stamp) (s : TurnSystem) :
    Changes limits (fun key ↦ key = (connection.tenantId, runId)) s
      (s.cancelMessage limits c connection runId clock).2 := by
  let requested : TurnSystem :=
    { s with
      registry := s.registry.after limits.run
        (.requestCancel (connection.tenantId, runId) "websocket_cancel_message" (clock 0)) }
  have hrequest : Changes limits (fun key ↦ key = (connection.tenantId, runId)) s requested :=
    ⟨Evolves.refl _, writes_requestCancel _ _ _ _⟩
  have hproceed := fun progress ↦ hrequest.trans
    (changes_proceed c (connection.tenantId, runId) progress (clock 1) requested)
  simp only [TurnSystem.cancelMessage]
  split
  · exact hproceed _
  · next i _ =>
    split
    · exact hrequest.trans ⟨evolves_cancelTask i requested, ReflTransGen.refl⟩
    · exact hproceed _

theorem changes_shutDown (c : Nat) (key : RunKey) (i : Nat) (clock : Nat → Stamp)
    (s : TurnSystem) :
    Changes limits (fun key' ↦ key' = key) s (s.shutDown limits c key i clock) := by
  rw [TurnSystem.shutDown]
  split
  · exact ⟨evolves_cancelTask i s, ReflTransGen.trans (writes_requestCancel key _ _ _)
      (writes_markCancelledIfRunning key _ _ _)⟩
  · exact Changes.refl _ s

theorem changes_shutDownAll (c : Nat) (tenantId : String) (tasks : List (String × Nat))
    (clock : Nat → Stamp) (s : TurnSystem) :
    Changes limits (fun key ↦ key.1 = tenantId ∧ ∃ i, (key.2, i) ∈ tasks) s
      (s.shutDownAll limits c tenantId tasks clock) := by
  induction tasks generalizing clock s with
  | nil => exact Changes.refl _ s
  | cons first tasks ih =>
    obtain ⟨runId, i⟩ := first
    refine Changes.trans ((changes_shutDown c (tenantId, runId) i clock s).mono ?_)
      ((ih _ _).mono ?_)
    · rintro key rfl
      exact ⟨rfl, i, List.mem_cons_self⟩
    · rintro key ⟨htenant, j, hj⟩
      exact ⟨htenant, j, List.mem_cons_of_mem _ hj⟩

theorem changes_cancelRuntimeRun (key : RunKey) (accepts : String → Bool) (clock : Nat → Stamp)
    (s : TurnSystem) :
    Changes limits (fun key' ↦ key' = key) s (s.cancelRuntimeRun limits key accepts clock).2 := by
  refine ⟨Evolves.refl _, ?_⟩
  refine ReflTransGen.trans
    (writes_requestCancel key "admin_runtime_cancel_endpoint" (clock 0) s.registry) ?_
  simp only [TurnSystem.cancelRuntimeRun]
  split
  · exact Writes.single fun _ hmarks ↦ hmarks.symm
  · exact ReflTransGen.refl

theorem changes_resume (s : TurnSystem) (i : Nat) (outcome : Resume) (accepts : String → Bool)
    (clock : Nat → Stamp) :
    Changes limits (MayMark limits s (.resume i outcome accepts clock)) s
      (s.step limits (.resume i outcome accepts clock)).2 := by
  cases hturn : s.turns[i]? with
  | none =>
    simp only [TurnSystem.step, TurnSystem.resume, hturn]
    exact Changes.refl _ s
  | some turn =>
    by_cases hnot : turn.phase = .done ∨ turn.cancelPending = true ∧ outcome ≠ .cancelled
    · rw [step_resume_refused limits hturn accepts clock hnot]
      exact Changes.refl _ s
    · rw [not_or] at hnot
      have hpending : turn.cancelPending = true → outcome = .cancelled := by
        intro htrue
        by_contra hne
        exact hnot.2 ⟨htrue, hne⟩
      obtain ⟨hregistry, hturns⟩ := step_resume limits hturn accepts clock hnot.1 hpending
      let ready : TurnState := ⟨s.registry, { turn with calls := s.callsSeenBy turn }⟩
      obtain ⟨hkey, hwrites⟩ : Resumes limits.run ready
          (resumed limits s turn outcome accepts clock) :=
        resumes_resume (writesOwn_handlerOf turn.transport) accepts clock ready outcome
      refine ⟨?_, ?_⟩
      · rw [hturns]
        exact evolves_set hturn hkey hnot.1
      · rw [hregistry]
        refine hwrites.mono ?_
        rintro key ⟨rfl, hdone⟩
        refine ⟨turn, _, hturn, rfl, ?_, hdone⟩
        rw [hturns, List.getElem?_set_self (List.getElem?_eq_some_iff.mp hturn).1]

theorem changes_onConnection {mayMark : RunKey → Prop} {c : Nat} {s : TurnSystem}
    {f : Connection → TurnAnswer × TurnSystem}
    (h : ∀ connection, s.connections[c]? = some connection →
      Changes limits mayMark s (f connection).2) :
    Changes limits mayMark s (s.onConnection c f).2 := by
  rw [TurnSystem.onConnection]
  split
  · exact Changes.refl _ s
  · next connection hconnection => exact h connection hconnection

/-- What a submission does: it is refused, or the run is started and the turn is added. -/
theorem submit_cases (transport : Transport) (c : Nat) (start : RunStart) (now : Stamp)
    (s : TurnSystem) :
    (s.submit limits transport c start now).2 = s ∨
      s.overLimit limits start.tenantId = false ∧
      (s.submit limits transport c start now).2.registry =
        s.registry.after limits.run (.startRun start now) ∧
      (s.submit limits transport c start now).2.turns =
        s.turns ++ [TurnSystem.newTurn transport c start] := by
  rw [TurnSystem.submit]
  split
  · exact .inl rfl
  · next hunder =>
    refine .inr ⟨eq_false_of_ne_true hunder, ?_⟩
    dsimp only
    split <;> exact ⟨rfl, rfl⟩

/-- **What a step changes**: a turn that is submitted is added; any other step adds none, and marks
no run that it may not mark. -/
theorem step_cases (limits : TurnLimits) (s : TurnSystem) (input : TurnInput) :
    Changes limits (MayMark limits s input) s (s.step limits input).2 ∨
      ∃ transport c start now, Submits s input start ∧
        s.overLimit limits start.tenantId = false ∧
        (s.step limits input).2.registry = s.registry.after limits.run (.startRun start now) ∧
        (s.step limits input).2.turns = s.turns ++ [TurnSystem.newTurn transport c start] := by
  have hsubmit : ∀ transport c start now, Submits s input start →
      (s.step limits input).2 = (s.submit limits transport c start now).2 →
      Changes limits (MayMark limits s input) s (s.step limits input).2 ∨
      ∃ transport c start now, Submits s input start ∧
        s.overLimit limits start.tenantId = false ∧
        (s.step limits input).2.registry = s.registry.after limits.run (.startRun start now) ∧
        (s.step limits input).2.turns = s.turns ++ [TurnSystem.newTurn transport c start] := by
    intro transport c start now hsubmits heq
    rw [heq]
    rcases submit_cases transport c start now s with hsame | hadded
    · rw [hsame]
      exact .inl (Changes.refl _ s)
    · exact .inr ⟨transport, c, start, now, hsubmits, hadded⟩
  cases input with
  | connect tenantId => exact .inl ⟨Evolves.refl _, ReflTransGen.refl⟩
  | resume i outcome accepts clock => exact .inl (changes_resume s i outcome accepts clock)
  | cancelRuntimeRun key accepts clock =>
    exact .inl ((changes_cancelRuntimeRun key accepts clock s).mono fun _ heq ↦ heq.symm)
  | submit transport c start now =>
    cases transport with
    | sse => exact hsubmit .sse c start now ⟨.sse, c, now, rfl, fun h ↦ by cases h⟩ rfl
    | openaiCompat =>
      exact hsubmit .openaiCompat c start now ⟨.openaiCompat, c, now, rfl, fun h ↦ by cases h⟩ rfl
    | websocket =>
      cases hconnection : s.connections[c]? with
      | none =>
        simp only [TurnSystem.step, TurnSystem.onConnection, hconnection]
        exact .inl (Changes.refl _ s)
      | some connection =>
        by_cases htakes : connection.phase = .receiving ∧ connection.tenantId = start.tenantId
        · refine hsubmit .websocket c start now
            ⟨.websocket, c, now, rfl, fun _ ↦ ⟨connection, hconnection, htakes⟩⟩ ?_
          simp only [TurnSystem.step, TurnSystem.onConnection, hconnection, if_pos htakes]
        · simp only [TurnSystem.step, TurnSystem.onConnection, hconnection, if_neg htakes]
          exact .inl (Changes.refl _ s)
  | cancelMessage c runId clock =>
    refine .inl (changes_onConnection fun connection hconnection ↦ ?_)
    split
    · exact (changes_cancelMessage c connection runId clock s).mono fun key heq ↦
        ⟨connection, hconnection, heq.symm⟩
    · exact Changes.refl _ s
  | joined c clock =>
    refine .inl (changes_onConnection fun connection hconnection ↦ ?_)
    split
    · next runId i progress hphase =>
      split
      · exact Changes.refl _ s
      · refine (changes_proceed c (connection.tenantId, runId) progress (clock 0) s).mono ?_
        rintro key rfl
        exact ⟨connection, i, progress, hconnection, rfl, hphase⟩
    · exact Changes.refl _ s
  | progressSent c clock =>
    refine .inl (changes_onConnection fun connection hconnection ↦ ?_)
    split
    · next runId rest hphase =>
      refine (changes_sendNext c (connection.tenantId, runId) rest (clock 0) s).mono ?_
      rintro key rfl
      exact ⟨connection, rest, hconnection, rfl, hphase⟩
    · exact Changes.refl _ s
  | disconnect c clock =>
    refine .inl (changes_onConnection fun connection hconnection ↦ ?_)
    split
    · exact Changes.refl _ s
    · refine (changes_shutDownAll c connection.tenantId connection.activeTasks.entries clock
        s).mono ?_
      rintro key ⟨htenant, i, htask⟩
      exact ⟨connection, i, hconnection, htenant.symm, Dict.mem_entries_iff.mp htask⟩

end

end Api
end ExoBrain
