import ExoBrain.Core.RunControl

/-!
# Finished runs

A run counts as active while its status is `running` or `cancel_requested`.  The handlers of a turn
end it with one of four statuses; `request_cancel` leaves three of them alone.  The fourth,
`interrupted`, it overwrites with `cancel_requested`, and the run counts again, with no stream left
that would end it.

`RunRegistry.statusOf_step` is what the calls of either registry do to the status of a run, and
`finished_stays_iff` what follows for a run that is marked: it stays finished exactly if no
cancellation is requested while its status is `interrupted`.
-/

set_option autoImplicit false

namespace ExoBrain
namespace Core

/-! ## What a call does to the status of a run -/

/-- What a call makes of the status of a run that it does not start, as long as it keeps the
record. -/
def RunCall.nextStatus (key : RunKey) (status : String) : RunCall → String
  | .markTerminal key' newStatus _ _ _ => if key = key' then newStatus else status
  | .requestCancel key' _ _ =>
    if key = key' then if isTerminalStatus status then status else "cancel_requested" else status
  | _ => status

/-- The call does not start the run again. -/
def RunCall.Continues (key : RunKey) : RunCall → Prop
  | .startRun start _ => (start.tenantId, start.runId) ≠ key
  | _ => True

/-- The call may drop old records. -/
def RunCall.isMark : RunCall → Bool
  | .markTerminal .. => true
  | _ => false

/-- A record that is written in place. -/
theorem map_get?_modify {ν : Type} {field : ν → String} {f : ν → ν} {g : String → String}
    (hf : ∀ x, field (f x) = g (field x)) (d : Dict RunKey ν) (key key' : RunKey) :
    ((d.modify key' f).get? key).map field =
      ((d.get? key).map field).map fun status ↦ if key = key' then g status else status := by
  rw [Dict.get?_modify]
  cases hget : d.get? key with
  | none => split <;> rfl
  | some x =>
    by_cases hkey : key = key'
    · simp [hkey, hf]
    · simp [hkey]

/-- A record that is not there is not written. -/
theorem map_get?_of_not_mem {ν : Type} {field : ν → String} {d : Dict RunKey ν} {key' : RunKey}
    (h : key' ∉ d.keys) (g : String → String) (key : RunKey) :
    (d.get? key).map field =
      ((d.get? key).map field).map fun status ↦ if key = key' then g status else status := by
  by_cases hkey : key = key'
  · rw [hkey, Dict.get?_eq_none_iff.mpr h]
    rfl
  · simp only [if_neg hkey]
    exact (congrFun Option.map_id _).symm

namespace RunControlRegistry

variable {settings : RunSettings} {s : RunControlRegistry} {key : RunKey}

/-- The status of the run, if it has a record. -/
def statusOf (key : RunKey) (s : RunControlRegistry) : Option String :=
  (s.records.get? key).map RunControlRecord.status

theorem recordToolCall_snd (key : RunKey) (callId : String) (now : Stamp)
    (s : RunControlRegistry) :
    (s.recordToolCall key callId now).2 = s ∨ (s.recordToolCall key callId now).2 =
      ⟨s.records.modify key (RunControlRecord.called (Text.strip callId) now)⟩ := by
  rw [recordToolCall]
  split
  · exact .inl rfl
  · split
    · exact .inr rfl
    · exact .inl rfl

theorem markTerminal_snd (cap : Nat) (key : RunKey)
    (status terminalEvent terminalMessage : String) (now : Stamp) (s : RunControlRegistry) :
    (s.markTerminal cap key status terminalEvent terminalMessage now).2 =
      if key ∈ s.records.keys then prune cap key.1
        ⟨s.records.modify key (RunControlRecord.marked status terminalEvent terminalMessage now)⟩
      else s := by
  rw [markTerminal]
  split <;> rfl

theorem requestCancel_snd (key : RunKey) (reason : String) (now : Stamp)
    (s : RunControlRegistry) :
    (s.requestCancel key reason now).2 =
      ⟨s.records.modify key (RunControlRecord.cancelled reason now)⟩ := by
  rw [requestCancel]
  split
  · rfl
  · next hkey => rw [Dict.modify_of_not_mem hkey]

theorem get?_prune (cap : Nat) (tenantId : String) (s : RunControlRegistry) (key : RunKey) :
    (s.prune cap tenantId).records.get? key =
      if key ∈ s.oldest cap tenantId then none else s.records.get? key := by
  by_cases hkey : key ∈ s.oldest cap tenantId <;> simp [prune, Dict.get?_foldl_erase, hkey]

theorem statusOf_modify {f : RunControlRecord → RunControlRecord} {g : String → String}
    (hf : ∀ r, (f r).status = g r.status) (s : RunControlRegistry) (key key' : RunKey) :
    statusOf key ⟨s.records.modify key' f⟩ =
      (s.statusOf key).map fun status ↦ if key = key' then g status else status :=
  map_get?_modify hf s.records key key'

theorem statusOf_prune (cap : Nat) (tenantId : String) (s : RunControlRegistry) (key : RunKey) :
    (s.prune cap tenantId).statusOf key = s.statusOf key ∨
      (s.prune cap tenantId).statusOf key = none := by
  rw [statusOf, get?_prune]
  split
  · exact .inr rfl
  · exact .inl rfl

theorem statusOf_step (settings : RunSettings) (s : RunControlRegistry) {call : RunCall}
    (hcall : call.Continues key) :
    (s.step settings call).2.statusOf key =
        (s.statusOf key).map (fun status ↦ call.nextStatus key status) ∨
      call.isMark = true ∧ (s.step settings call).2.statusOf key = none := by
  have hsame : s.statusOf key = (s.statusOf key).map fun status ↦ status :=
    (congrFun Option.map_id _).symm
  cases call with
  | startRun start now =>
    refine .inl (Eq.trans ?_ hsame)
    simp only [step, startRun, statusOf, Dict.get?_set]
    rw [if_neg fun h ↦ hcall h.symm]
  | recordToolCall key' callId now =>
    refine .inl (Eq.trans ?_ hsame)
    simp only [step]
    rcases s.recordToolCall_snd key' callId now with h | h
    · rw [h]
    · rw [h]
      have hcalled : ∀ r, (RunControlRecord.called (Text.strip callId) now r).status = r.status :=
        fun _ ↦ rfl
      rw [statusOf_modify (g := fun status ↦ status) hcalled]
      simp
  | markTerminal key' status terminalEvent terminalMessage now =>
    simp only [step, markTerminal_snd, RunCall.nextStatus, RunCall.isMark, true_and]
    split
    · rcases statusOf_prune settings.maxTerminalRecordsPerTenant key'.1
        ⟨s.records.modify key' (RunControlRecord.marked status terminalEvent terminalMessage now)⟩
        key with h | h
      · rw [h, statusOf_modify (g := fun _ ↦ status) (fun _ ↦ rfl)]
        exact .inl rfl
      · exact .inr h
    · next hkey => exact .inl (map_get?_of_not_mem hkey _ key)
  | requestCancel key' reason now =>
    refine .inl ?_
    simp only [step, requestCancel_snd]
    exact statusOf_modify (fun _ ↦ rfl) s key key'
  | getRun => exact .inl hsame
  | listRuns => exact .inl hsame
  | callIdsForRun => exact .inl hsame
  | countActiveRuns => exact .inl hsame

end RunControlRegistry

namespace SQLiteRunControlRegistry

variable {settings : RunSettings} {s : SQLiteRunControlRegistry} {key : RunKey}

/-- The status of the run, if it has a row. -/
def statusOf (key : RunKey) (s : SQLiteRunControlRegistry) : Option String :=
  (s.runControl.get? key).map RunRow.status

/-- The row `mark_terminal` leaves. -/
def markedRow (status terminalEvent terminalMessage : String) (now : Stamp) (r : RunRow) : RunRow :=
  { r with
    status := status
    terminalEvent := terminalEvent
    terminalMessage := terminalMessage
    updatedAtUtc := now
    finishedAtUtc := some now }

/-- The row `request_cancel` leaves. -/
def cancelledRow (reason : String) (now : Stamp) (r : RunRow) : RunRow :=
  { r with
    cancelRequested := true
    cancelReason := reason
    status := if isTerminalStatus r.status then r.status else "cancel_requested"
    updatedAtUtc := now }

theorem recordToolCall_runControl (key : RunKey) (callId : String) (now : Stamp)
    (s : SQLiteRunControlRegistry) :
    (s.recordToolCall key callId now).2.runControl = s.runControl ∨
      (s.recordToolCall key callId now).2.runControl =
        s.runControl.modify key fun r ↦ { r with updatedAtUtc := now } := by
  rw [recordToolCall]
  split
  · exact .inl rfl
  · split
    · exact .inr rfl
    · exact .inl rfl

theorem markTerminal_snd (settings : RunSettings) (key : RunKey)
    (status terminalEvent terminalMessage : String) (now : Stamp) (s : SQLiteRunControlRegistry) :
    (s.markTerminal settings key status terminalEvent terminalMessage now).2 =
      if key ∈ s.runControl.keys then prune settings key.1
        { s with
          runControl :=
            s.runControl.modify key (markedRow status terminalEvent terminalMessage now) }
      else s := by
  rw [markTerminal]
  split <;> rfl

theorem requestCancel_snd (key : RunKey) (reason : String) (now : Stamp)
    (s : SQLiteRunControlRegistry) :
    (s.requestCancel key reason now).2 =
      { s with runControl := s.runControl.modify key (cancelledRow reason now) } := by
  rw [requestCancel]
  split
  · rfl
  · next hkey => rw [Dict.modify_of_not_mem hkey]

theorem foldl_delete (keys : List RunKey) (s : SQLiteRunControlRegistry) :
    keys.foldl delete s =
      ⟨keys.foldl (fun d key ↦ d.erase key) s.runControl,
        s.toolCalls.filter fun row ↦ row.key ∉ keys⟩ := by
  induction keys generalizing s with
  | nil => simp
  | cons key keys ih =>
    rw [List.foldl_cons, ih, delete, List.foldl_cons, List.filter_filter]
    congr 1
    refine List.filter_congr fun row _ ↦ ?_
    by_cases hkey : row.key = key <;> simp [hkey]

theorem get?_prune (settings : RunSettings) (tenantId : String) (s : SQLiteRunControlRegistry)
    (key : RunKey) :
    (s.prune settings tenantId).runControl.get? key =
      if key ∈ s.oldest settings tenantId then none else s.runControl.get? key := by
  by_cases hkey : key ∈ s.oldest settings tenantId <;>
    simp [prune, foldl_delete, Dict.get?_foldl_erase, hkey]

theorem statusOf_modify {f : RunRow → RunRow} {g : String → String}
    (hf : ∀ r, (f r).status = g r.status) (s : SQLiteRunControlRegistry) (key key' : RunKey) :
    statusOf key { s with runControl := s.runControl.modify key' f } =
      (s.statusOf key).map fun status ↦ if key = key' then g status else status :=
  map_get?_modify hf s.runControl key key'

theorem statusOf_prune (settings : RunSettings) (tenantId : String)
    (s : SQLiteRunControlRegistry) (key : RunKey) :
    (s.prune settings tenantId).statusOf key = s.statusOf key ∨
      (s.prune settings tenantId).statusOf key = none := by
  rw [statusOf, get?_prune]
  split
  · exact .inr rfl
  · exact .inl rfl

theorem statusOf_step (settings : RunSettings) (s : SQLiteRunControlRegistry) {call : RunCall}
    (hcall : call.Continues key) :
    (s.step settings call).2.statusOf key =
        (s.statusOf key).map (fun status ↦ call.nextStatus key status) ∨
      call.isMark = true ∧ (s.step settings call).2.statusOf key = none := by
  have hsame : s.statusOf key = (s.statusOf key).map fun status ↦ status :=
    (congrFun Option.map_id _).symm
  cases call with
  | startRun start now =>
    refine .inl (Eq.trans ?_ hsame)
    have hne : key ≠ (start.tenantId, start.runId) := fun h ↦ hcall h.symm
    simp only [step, startRun, RunStart.record, statusOf, Dict.get?_set, Dict.get?_erase]
    rw [if_neg hne, if_neg hne]
  | recordToolCall key' callId now =>
    refine .inl (Eq.trans ?_ hsame)
    simp only [step, statusOf]
    rcases s.recordToolCall_runControl key' callId now with h | h
    · rw [h]
    · rw [h]
      have htouched : ∀ r : RunRow, ({ r with updatedAtUtc := now } : RunRow).status = r.status :=
        fun _ ↦ rfl
      rw [map_get?_modify (g := fun status ↦ status) htouched]
      simp only [ite_self]
      exact hsame.symm
  | markTerminal key' status terminalEvent terminalMessage now =>
    simp only [step, markTerminal_snd, RunCall.nextStatus, RunCall.isMark, true_and]
    split
    · rcases statusOf_prune settings key'.1
        { s with
          runControl :=
            s.runControl.modify key' (markedRow status terminalEvent terminalMessage now) }
        key with h | h
      · rw [h, statusOf_modify (g := fun _ ↦ status) (fun _ ↦ rfl)]
        exact .inl rfl
      · exact .inr h
    · next hkey => exact .inl (map_get?_of_not_mem hkey _ key)
  | requestCancel key' reason now =>
    refine .inl ?_
    simp only [step, requestCancel_snd]
    exact statusOf_modify (fun _ ↦ rfl) s key key'
  | getRun => exact .inl hsame
  | listRuns => exact .inl hsame
  | callIdsForRun => exact .inl hsame
  | countActiveRuns => exact .inl hsame

end SQLiteRunControlRegistry

namespace RunRegistry

variable {settings : RunSettings} {s : RunRegistry} {key : RunKey}

/-- The status of the run, if it is known. -/
def statusOf (key : RunKey) : RunRegistry → Option String
  | .memory s => s.statusOf key
  | .sqlite s => s.statusOf key

/-- **What a call does to the status of a run** that it does not start. -/
theorem statusOf_step (settings : RunSettings) (s : RunRegistry) {call : RunCall}
    (hcall : call.Continues key) :
    (s.step settings call).2.statusOf key =
        (s.statusOf key).map (fun status ↦ call.nextStatus key status) ∨
      call.isMark = true ∧ (s.step settings call).2.statusOf key = none := by
  cases s with
  | memory s => exact s.statusOf_step settings hcall
  | sqlite s => exact s.statusOf_step settings hcall

/-! ## Finished runs -/

/-- `count_active_runs` counts the run. -/
def Counted (key : RunKey) (s : RunRegistry) : Prop :=
  ∃ status, s.statusOf key = some status ∧ isActiveStatus status = true

/-- The statuses a handler of a turn ends its run with. -/
def handlerStatuses : List String := ["completed", "errored", "cancelled", "interrupted"]

/-- A call that does not start the run again, and marks it, if it does, as the handlers do. -/
def KeepsRun (key : RunKey) : RunCall → Prop
  | .markTerminal key' status _ _ _ => key' = key → status ∈ handlerStatuses
  | call => call.Continues key

theorem KeepsRun.continues {call : RunCall} (h : KeepsRun key call) : call.Continues key := by
  cases call <;> first | exact h | trivial

/-- No cancellation of the run is requested while it is interrupted. -/
def SparesInterrupted (key : RunKey) (s : RunRegistry) : RunCall → Prop
  | .requestCancel key' _ _ => key' = key → s.statusOf key ≠ some "interrupted"
  | _ => True

instance (key : RunKey) (s : RunRegistry) :
    (call : RunCall) → Decidable (SparesInterrupted key s call)
  | .requestCancel key' _ _ =>
    inferInstanceAs (Decidable (key' = key → s.statusOf key ≠ some "interrupted"))
  | .startRun .. | .recordToolCall .. | .markTerminal .. | .getRun .. | .listRuns ..
  | .callIdsForRun .. | .countActiveRuns .. => isTrue trivial

/-- The statuses a run can have once it was marked. -/
def KnownStatus (key : RunKey) (s : RunRegistry) : Prop :=
  ∀ status, s.statusOf key = some status → status ∈ "cancel_requested" :: handlerStatuses

theorem nextStatus_mem {call : RunCall} (hcall : KeepsRun key call) {status : String}
    (h : status ∈ "cancel_requested" :: handlerStatuses) :
    call.nextStatus key status ∈ "cancel_requested" :: handlerStatuses := by
  cases call with
  | markTerminal key' newStatus terminalEvent terminalMessage now =>
    simp only [RunCall.nextStatus]
    split
    · next hkey => exact List.mem_cons_of_mem _ (hcall hkey.symm)
    · exact h
  | requestCancel key' reason now =>
    simp only [RunCall.nextStatus]
    split
    · split
      · exact h
      · exact List.mem_cons_self
    · exact h
  | startRun | recordToolCall | getRun | listRuns | callIdsForRun | countActiveRuns => exact h

theorem KnownStatus.step (h : KnownStatus key s) {call : RunCall} (hcall : KeepsRun key call) :
    KnownStatus key (s.step settings call).2 := by
  intro status hstatus
  rcases statusOf_step settings s hcall.continues with heq | ⟨-, hnone⟩
  · rw [heq] at hstatus
    obtain ⟨old, hold, rfl⟩ := Option.map_eq_some_iff.mp hstatus
    exact nextStatus_mem hcall (h old hold)
  · rw [hnone] at hstatus
    cases hstatus

/-- What makes the status of a marked run active again. -/
theorem isActiveStatus_nextStatus {call : RunCall} (hcall : KeepsRun key call) {status : String}
    (hstatus : status ∈ "cancel_requested" :: handlerStatuses)
    (hinactive : isActiveStatus status = false) :
    isActiveStatus (call.nextStatus key status) = true ↔
      ∃ reason now, call = .requestCancel key reason now ∧ status = "interrupted" := by
  cases call with
  | markTerminal key' newStatus terminalEvent terminalMessage now =>
    refine iff_of_false ?_ (by simp)
    simp only [RunCall.nextStatus]
    split
    · next hkey =>
      have hnew : newStatus ∈ handlerStatuses := hcall hkey.symm
      have hall : ∀ st ∈ handlerStatuses, ¬isActiveStatus st = true := by decide
      exact hall newStatus hnew
    · rw [hinactive]
      exact Bool.false_ne_true
  | requestCancel key' reason now =>
    simp only [RunCall.nextStatus]
    by_cases hkey : key = key'
    · subst hkey
      have hall : ∀ st ∈ "cancel_requested" :: handlerStatuses, isActiveStatus st = false →
          (isActiveStatus (if isTerminalStatus st then st else "cancel_requested") = true ↔
            st = "interrupted") := by decide
      rw [if_pos rfl, hall status hstatus hinactive]
      exact ⟨fun h ↦ ⟨reason, now, rfl, h⟩, fun ⟨_, _, _, h⟩ ↦ h⟩
    · rw [if_neg hkey, hinactive]
      refine iff_of_false Bool.false_ne_true ?_
      rintro ⟨reason', now', heq, -⟩
      cases heq
      exact hkey rfl
  | startRun | recordToolCall | getRun | listRuns | callIdsForRun | countActiveRuns =>
    simp only [RunCall.nextStatus]
    rw [hinactive]
    exact iff_of_false Bool.false_ne_true (by simp)

theorem not_counted_step_iff (h : KnownStatus key s) (hs : ¬Counted key s) {call : RunCall}
    (hcall : KeepsRun key call) :
    ¬Counted key (s.step settings call).2 ↔ SparesInterrupted key s call := by
  cases hstatus : s.statusOf key with
  | none =>
    have hnone : (s.step settings call).2.statusOf key = none := by
      rcases statusOf_step settings s hcall.continues with heq | ⟨-, hnone⟩
      · rw [heq, hstatus]
        rfl
      · exact hnone
    refine iff_of_true ?_ ?_
    · rintro ⟨status, hsome, -⟩
      rw [hnone] at hsome
      cases hsome
    · cases call with
      | requestCancel key' reason now => exact fun _ ↦ by simp [hstatus]
      | startRun | recordToolCall | markTerminal | getRun | listRuns | callIdsForRun
      | countActiveRuns => trivial
  | some status =>
    have hinactive : isActiveStatus status = false :=
      eq_false_of_ne_true fun hactive ↦ hs ⟨status, hstatus, hactive⟩
    have hnext := isActiveStatus_nextStatus hcall (h status hstatus) hinactive
    have hspares : SparesInterrupted key s call ↔
        ¬∃ reason now, call = .requestCancel key reason now ∧ status = "interrupted" := by
      cases call with
      | requestCancel key' reason now =>
        simp only [SparesInterrupted, hstatus, ne_eq, Option.some.injEq,
          RunCall.requestCancel.injEq]
        constructor
        · rintro hne ⟨reason', now', ⟨hkey, -, -⟩, hinterrupted⟩
          exact hne hkey hinterrupted
        · rintro hnot rfl hinterrupted
          exact hnot ⟨reason, now, ⟨rfl, rfl, rfl⟩, hinterrupted⟩
      | startRun | recordToolCall | markTerminal | getRun | listRuns | callIdsForRun
      | countActiveRuns => simp [SparesInterrupted]
    rw [hspares, not_iff_not, ← hnext]
    rcases statusOf_step settings s hcall.continues with heq | ⟨hmark, hnone⟩
    · simp [Counted, heq, hstatus]
    · -- a mark that drops the record leaves an inactive status behind as well
      refine iff_of_false (fun ⟨st, hst, _⟩ ↦ by rw [hnone] at hst; cases hst) fun hactive ↦ ?_
      obtain ⟨reason, now, rfl, -⟩ := hnext.mp hactive
      cases hmark

/-- The registry after a run was marked. -/
def afterMark (settings : RunSettings) (s : RunRegistry) (key : RunKey) (status terminalEvent
    terminalMessage : String) (now : Stamp) : RunRegistry :=
  (s.step settings (.markTerminal key status terminalEvent terminalMessage now)).2

theorem statusOf_afterMark {status : String} (terminalEvent terminalMessage : String) (now : Stamp)
    {newStatus : String}
    (h : (afterMark settings s key status terminalEvent terminalMessage now).statusOf key =
      some newStatus) : newStatus = status := by
  have hcall : (RunCall.markTerminal key status terminalEvent terminalMessage now).Continues key :=
    trivial
  rcases statusOf_step settings s hcall with heq | ⟨-, hnone⟩
  · rw [afterMark, heq] at h
    obtain ⟨old, -, rfl⟩ := Option.map_eq_some_iff.mp h
    exact if_pos rfl
  · rw [afterMark, hnone] at h
    cases h

/-- **Finished runs stay finished, but for the interrupted ones.**  Over either registry, in any
state: a run that was marked with one of the statuses of the handlers is not counted in any later
state, as long as it is not started again and marked with those statuses only, exactly if no
cancellation of it is requested while its status is `interrupted`. -/
theorem finished_stays_iff (settings : RunSettings) (s : RunRegistry) (key : RunKey)
    {status : String} (hstatus : status ∈ handlerStatuses) (terminalEvent terminalMessage : String)
    (now : Stamp) {later : List RunCall} (hlater : ∀ call ∈ later, KeepsRun key call) :
    (∀ done, done <+: later → ¬Counted key (Run.exec (step settings)
      (afterMark settings s key status terminalEvent terminalMessage now) done)) ↔
    Run.Along (step settings) (SparesInterrupted key)
      (afterMark settings s key status terminalEvent terminalMessage now) later := by
  refine Run.forall_exec_iff_along (D := KeepsRun key) (P := KnownStatus key)
    (Q := fun s ↦ ¬Counted key s) (fun s call hcall h ↦ h.step hcall)
    (fun s call hcall h hs ↦ not_counted_step_iff h hs hcall) hlater ?_ ?_
  · intro newStatus hnew
    rw [statusOf_afterMark _ _ _ hnew]
    exact List.mem_cons_of_mem _ hstatus
  · rintro ⟨newStatus, hnew, hactive⟩
    have hall : ∀ st ∈ handlerStatuses, ¬isActiveStatus st = true := by decide
    rw [statusOf_afterMark _ _ _ hnew] at hactive
    exact hall status hstatus hactive

/-- A run, as the SSE handler starts it. -/
def oneRun : RunStart := ⟨"t", "sess", "run-1", "run-1", "sse"⟩

/-- A run that is cancelled once it is completed. -/
theorem finished_stays_iff_completed :
    ¬Counted ("t", "run-1") (Run.exec (step {}) (afterMark {}
      (RunRegistry.step {} (.memory .initial) (.startRun oneRun 1)).2 ("t", "run-1") "completed"
      "run_complete" "" 2) [.requestCancel ("t", "run-1") "admin_runtime_cancel_endpoint" 3,
        .recordToolCall ("t", "run-1") "call-1" 4]) :=
  (finished_stays_iff {} _ _ (by decide) "run_complete" "" 2 (by
    intro call hcall
    simp only [List.mem_cons, List.not_mem_nil, or_false] at hcall
    rcases hcall with rfl | rfl <;> trivial)).mpr (by decide) _ (List.prefix_refl _)

/-- In both registries a run whose stream was closed counts as active again once its cancellation is
requested. -/
theorem interrupted_counts_again :
    let after (s : RunRegistry) : RunRegistry := Run.exec (step {}) s
      [.startRun oneRun 1, .markTerminal ("t", "run-1") "interrupted" "stream_closed" "" 2,
        .requestCancel ("t", "run-1") "admin_runtime_cancel_endpoint" 3]
    let countsAgain (s : RunRegistry) : Prop :=
      Counted ("t", "run-1") s ∧ (s.step {} (.countActiveRuns "t" 4)).1 = .count 1
    countsAgain (after (.memory .initial)) ∧ countsAgain (after (.sqlite .initial)) :=
  ⟨⟨⟨"cancel_requested", by decide, rfl⟩, by decide⟩,
    ⟨⟨"cancel_requested", by decide, rfl⟩, by decide⟩⟩

end RunRegistry
end Core
end ExoBrain
