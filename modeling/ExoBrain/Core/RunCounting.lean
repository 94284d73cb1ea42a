import Mathlib.Logic.Relation
import ExoBrain.Core.RunLifecycle

/-!
# Which runs are counted

`count_active_runs` counts the records of a tenant that are `running` or `cancel_requested`.  The
limit on the active runs of a tenant is as good as this number, so what matters about a call is
whether it takes a run out of the count.

* `Filed` says that each record has the tenant and the id of its key; the two registries drop old
  records by the one and by the other.
* `Counted.after`: only a mark takes a run out of the count.  A record that is dropped is terminal.
* `Writes` is a number of calls, by the runs they may mark; `Writes.counted` is the same for them.
* `length_le_countActiveRuns`: different runs that are counted are no more than the count.
-/

set_option autoImplicit false

namespace ExoBrain
namespace Core

open Relation (ReflTransGen)

/-- The call marks the run. -/
def RunCall.Marks (key : RunKey) : RunCall → Prop
  | .markTerminal key' _ _ _ _ => key' = key
  | _ => False

/-! ## Records are filed under their key -/

namespace RunControlRegistry

variable {s : RunControlRegistry} {key : RunKey}

/-- Each record has the tenant and the id of its key. -/
def Filed (s : RunControlRegistry) : Prop :=
  ∀ key r, s.records.get? key = some r → (r.tenantId, r.runId) = key

theorem filed_initial : initial.Filed := by
  intro key r hget
  cases hget

theorem Filed.modify (h : s.Filed) (key : RunKey) {f : RunControlRecord → RunControlRecord}
    (hf : ∀ r, ((f r).tenantId, (f r).runId) = (r.tenantId, r.runId)) :
    Filed ⟨s.records.modify key f⟩ := by
  intro key' r hget
  obtain ⟨old, hold, rfl⟩ := Dict.get?_modify_eq_some hget
  split
  · rw [hf]
    exact h key' old hold
  · exact h key' old hold

theorem Filed.prune (h : s.Filed) (cap : Nat) (tenantId : String) :
    (s.prune cap tenantId).Filed := by
  intro key r hget
  rw [get?_prune] at hget
  split at hget
  · cases hget
  · exact h key r hget

theorem Filed.step (h : s.Filed) (settings : RunSettings) (call : RunCall) :
    (s.step settings call).2.Filed := by
  cases call with
  | startRun start now =>
    intro key r hget
    simp only [RunControlRegistry.step, startRun, Dict.get?_set] at hget
    split at hget
    · next hkey =>
      cases hget
      exact hkey.symm
    · exact h key r hget
  | recordToolCall key callId now =>
    simp only [RunControlRegistry.step]
    rcases s.recordToolCall_snd key callId now with heq | heq
    · rw [heq]
      exact h
    · rw [heq]
      exact h.modify key fun _ ↦ rfl
  | markTerminal key status terminalEvent terminalMessage now =>
    simp only [RunControlRegistry.step, markTerminal_snd]
    split
    · have hmarked : Filed
          ⟨s.records.modify key
            (RunControlRecord.marked status terminalEvent terminalMessage now)⟩ :=
        h.modify key fun _ ↦ rfl
      exact hmarked.prune _ _
    · exact h
  | requestCancel key reason now =>
    simp only [RunControlRegistry.step, requestCancel_snd]
    exact h.modify key fun _ ↦ rfl
  | getRun | listRuns | callIdsForRun | countActiveRuns => exact h

/-- What is dropped is terminal. -/
theorem statusOf_prune_of_active (h : s.Filed) (cap : Nat) (tenantId : String) {status : String}
    (hstatus : s.statusOf key = some status) (hactive : isTerminalStatus status = false) :
    (s.prune cap tenantId).statusOf key = some status := by
  have hkeep : key ∉ s.oldest cap tenantId := by
    rw [oldest]
    split
    · exact List.not_mem_nil
    · rintro hdropped
      obtain ⟨r, hr, hkey⟩ := List.mem_map.mp hdropped
      have hterminal := List.mem_of_mem_take hr
      rw [List.mem_mergeSort, terminals, List.mem_filter, List.mem_map] at hterminal
      obtain ⟨⟨e, he, rfl⟩, htest⟩ := hterminal
      have hget := Dict.mem_entries_iff.mp he
      rw [h _ _ hget] at hkey
      rw [statusOf, ← hkey, hget] at hstatus
      rw [Option.map_some, Option.some.injEq] at hstatus
      rw [hstatus, hactive, Bool.and_false] at htest
      cases htest
  rw [statusOf, get?_prune, if_neg hkeep]
  exact hstatus

end RunControlRegistry

namespace SQLiteRunControlRegistry

variable {s : SQLiteRunControlRegistry} {key : RunKey}

theorem statusOf_prune_of_active (settings : RunSettings) (tenantId : String) {status : String}
    (hstatus : s.statusOf key = some status) (hactive : isTerminalStatus status = false) :
    (s.prune settings tenantId).statusOf key = some status := by
  have hkeep : key ∉ s.oldest settings tenantId := by
    rw [oldest]
    split
    · exact List.not_mem_nil
    · rintro hdropped
      obtain ⟨e, he, rfl⟩ := List.mem_map.mp hdropped
      have hterminal := List.mem_of_mem_take he
      rw [List.mem_mergeSort, terminals, List.mem_filter] at hterminal
      rw [statusOf, Dict.mem_entries_iff.mp hterminal.1, Option.map_some,
        Option.some.injEq] at hstatus
      rw [hstatus, hactive, Bool.and_false] at hterminal
      cases hterminal.2
  rw [statusOf, get?_prune, if_neg hkeep]
  exact hstatus

end SQLiteRunControlRegistry

namespace RunRegistry

variable {settings : RunSettings} {s s' : RunRegistry} {key : RunKey}

/-- Each record has the tenant and the id of its key; a row has no others. -/
def Filed : RunRegistry → Prop
  | .memory s => s.Filed
  | .sqlite _ => True

theorem Filed.after (h : s.Filed) (settings : RunSettings) (call : RunCall) :
    (s.after settings call).Filed := by
  cases s with
  | memory s => exact RunControlRegistry.Filed.step h settings call
  | sqlite s => trivial

/-! ## What takes a run out of the count -/

instance (key : RunKey) (s : RunRegistry) : Decidable (Counted key s) :=
  decidable_of_iff ((s.statusOf key).any isActiveStatus = true) (by
    rw [Option.any_eq_true]
    rfl)

theorem isTerminalStatus_of_active {status : String} (h : isActiveStatus status = true) :
    isTerminalStatus status = false := by
  simp only [isActiveStatus, Bool.or_eq_true, decide_eq_true_eq] at h
  rcases h with rfl | rfl <;> decide

/-- A mark of another run leaves an active record alone. -/
theorem statusOf_after_mark_of_ne (hs : s.Filed) {key' : RunKey} (hkey : key ≠ key')
    {status : String} (hstatus : s.statusOf key = some status)
    (hactive : isTerminalStatus status = false) (newStatus terminalEvent terminalMessage : String)
    (now : Stamp) :
    (s.after settings (.markTerminal key' newStatus terminalEvent terminalMessage now)).statusOf
      key = some status := by
  cases s with
  | memory s =>
    have hs : s.Filed := hs
    show (s.step settings _).2.statusOf key = some status
    simp only [RunControlRegistry.step, RunControlRegistry.markTerminal_snd]
    split
    · have hmarked : RunControlRegistry.Filed
          ⟨s.records.modify key'
            (RunControlRecord.marked newStatus terminalEvent terminalMessage now)⟩ :=
        hs.modify key' fun _ ↦ rfl
      refine RunControlRegistry.statusOf_prune_of_active hmarked _ _ ?_ hactive
      rw [RunControlRegistry.statusOf_modify (g := fun _ ↦ newStatus) fun _ ↦ rfl]
      simp only [if_neg hkey]
      exact congrArg (Option.map fun status ↦ status) hstatus
    · exact hstatus
  | sqlite s =>
    show (s.step settings _).2.statusOf key = some status
    simp only [SQLiteRunControlRegistry.step, SQLiteRunControlRegistry.markTerminal_snd]
    split
    · refine SQLiteRunControlRegistry.statusOf_prune_of_active settings _ ?_ hactive
      rw [SQLiteRunControlRegistry.statusOf_modify (g := fun _ ↦ newStatus) fun _ ↦ rfl]
      simp only [if_neg hkey]
      exact congrArg (Option.map fun status ↦ status) hstatus
    · exact hstatus

/-- A run that is started is counted. -/
theorem counted_after_start (start : RunStart) (now : Stamp) (s : RunRegistry) :
    Counted (start.tenantId, start.runId) (s.after settings (.startRun start now)) := by
  refine ⟨"running", ?_, by decide⟩
  cases s with
  | memory s =>
    show ((s.records.set _ _).get? _).map RunControlRecord.status = _
    rw [Dict.get?_set, if_pos rfl]
    rfl
  | sqlite s =>
    show (((s.runControl.erase _).set (start.tenantId, start.runId) _).get? _).map RunRow.status = _
    rw [Dict.get?_set, if_pos rfl]
    rfl

/-- **Only a mark takes a run out of the count.** -/
theorem Counted.after (h : Counted key s) (hs : s.Filed) {call : RunCall}
    (hcall : ¬call.Marks key) : Counted key (s.after settings call) := by
  obtain ⟨status, hstatus, hactive⟩ := h
  have hkeeps : call.Continues key → call.isMark = false →
      isActiveStatus (call.nextStatus key status) = true → Counted key (s.after settings call) := by
    intro hcontinues hnomark hnext
    refine ⟨_, ?_, hnext⟩
    rcases statusOf_step settings s hcontinues with heq | ⟨hmark, -⟩
    · rw [RunRegistry.after, heq, hstatus]
      rfl
    · rw [hnomark] at hmark
      cases hmark
  cases call with
  | startRun start now =>
    by_cases hkey : (start.tenantId, start.runId) = key
    · rw [← hkey]
      exact counted_after_start start now s
    · exact hkeeps hkey rfl hactive
  | markTerminal key' newStatus terminalEvent terminalMessage now =>
    exact ⟨status, statusOf_after_mark_of_ne hs (Ne.symm hcall) hstatus
      (isTerminalStatus_of_active hactive) _ _ _ _, hactive⟩
  | requestCancel key' reason now =>
    refine hkeeps trivial rfl ?_
    rw [RunCall.nextStatus, isTerminalStatus_of_active hactive, if_neg Bool.false_ne_true]
    split
    · decide
    · exact hactive
  | recordToolCall | getRun | listRuns | callIdsForRun | countActiveRuns =>
    exact hkeeps trivial rfl hactive

/-! ## Several calls -/

/-- Calls that mark only runs that may be marked lead from one registry to the other. -/
def Writes (settings : RunSettings) (mayMark : RunKey → Prop) : RunRegistry → RunRegistry → Prop :=
  ReflTransGen fun s s' ↦ ∃ call, (∀ key, RunCall.Marks key call → mayMark key) ∧
    s' = s.after settings call

variable {mayMark : RunKey → Prop}

theorem Writes.single {call : RunCall} (h : ∀ key, call.Marks key → mayMark key) :
    Writes settings mayMark s (s.after settings call) :=
  ReflTransGen.single ⟨call, h, rfl⟩

theorem Writes.mono {mayMark' : RunKey → Prop} (h : Writes settings mayMark s s')
    (hmay : ∀ key, mayMark key → mayMark' key) : Writes settings mayMark' s s' := by
  refine ReflTransGen.mono ?_ s s' h
  rintro _ _ ⟨call, hcall, heq⟩
  exact ⟨call, fun key hkey ↦ hmay key (hcall key hkey), heq⟩

theorem Writes.filed (h : Writes settings mayMark s s') (hs : s.Filed) : s'.Filed := by
  induction h with
  | refl => exact hs
  | tail _ hcall ih =>
    obtain ⟨call, -, rfl⟩ := hcall
    exact ih.after settings call

/-- A run that may not be marked stays in the count. -/
theorem Writes.counted (h : Writes settings mayMark s s') (hs : s.Filed) (hkey : ¬mayMark key)
    (hcounted : Counted key s) : Counted key s' := by
  induction h with
  | refl => exact hcounted
  | tail hbefore hcall ih =>
    obtain ⟨call, hmay, rfl⟩ := hcall
    exact ih.after (Writes.filed hbefore hs) fun hmarks ↦ hkey (hmay key hmarks)

/-! ## How many runs are counted -/

/-- **The count is not too low**: different runs of a tenant that are counted are no more. -/
theorem length_le_countActiveRuns (hs : s.Filed) {tenantId : String} {keys : List RunKey}
    (hnodup : keys.Nodup) (hkeys : ∀ key ∈ keys, key.1 = tenantId ∧ Counted key s) :
    keys.length ≤ s.countActiveRuns tenantId := by
  cases s with
  | memory s =>
    have hs : s.Filed := hs
    refine Dict.length_le_countP hnodup fun key hkey ↦ ?_
    obtain ⟨htenant, status, hstatus, hactive⟩ := hkeys key hkey
    obtain ⟨r, hget, rfl⟩ := Option.map_eq_some_iff.mp hstatus
    refine ⟨r, hget, ?_⟩
    have howner : r.tenantId = tenantId := (congrArg Prod.fst (hs key r hget)).trans htenant
    simp [howner, hactive]
  | sqlite s =>
    refine Dict.length_le_countP hnodup fun key hkey ↦ ?_
    obtain ⟨htenant, status, hstatus, hactive⟩ := hkeys key hkey
    obtain ⟨row, hget, rfl⟩ := Option.map_eq_some_iff.mp hstatus
    exact ⟨row, hget, by simp [htenant, hactive]⟩

end RunRegistry
end Core
end ExoBrain
