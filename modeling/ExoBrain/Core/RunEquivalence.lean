import ExoBrain.Lib.Ranking
import ExoBrain.Core.RunLifecycle

/-!
# The two run registries agree

The same calls with the same clock readings are made to `RunControlRegistry` and to
`SQLiteRunControlRegistry`.  `Agrees` relates their states: a row of `run_control`, together with the
rows of its tool calls in the order in which they were entered, is the record in memory.  The order
of the runs may differ, since `INSERT OR REPLACE` moves a row to the end.

There are three places where the registries part.  `start_run` for an id that was used before leaves
the old rows of `run_control_tool_calls`; `call_ids_for_run` sorts in memory only; and old runs are
dropped by the exact time they finished in memory, but by whole seconds in SQLite, with ties broken
by the time they started.  `KeepsAgreement` is a call that meets none of them, and `trace_eq` is the
equivalence over runs of such calls.
-/

set_option autoImplicit false

namespace ExoBrain
namespace Core

variable {settings : RunSettings} {m : RunControlRegistry} {q : SQLiteRunControlRegistry}

/-! ## The relation -/

namespace SQLiteRunControlRegistry

/-- The record of a row, with the ids of its tool calls. -/
def viewRow (q : SQLiteRunControlRegistry) (key : RunKey) (row : RunRow) : RunControlRecord :=
  rowToRecord key row (q.callIdsOf key)

/-- What the database says, as records. -/
def view (q : SQLiteRunControlRegistry) : Dict RunKey RunControlRecord :=
  q.runControl.mapVals q.viewRow

end SQLiteRunControlRegistry

open Ranking SQLiteRunControlRegistry Text

/-- The registries say the same of every run.  The old column for the ids is empty, there are no tool
calls without a run, and no two runs were updated at the same time. -/
structure Agrees (m : RunControlRegistry) (q : SQLiteRunControlRegistry) : Prop where
  same : ∀ key, m.records.get? key = q.view.get? key
  legacy : ∀ key row, q.runControl.get? key = some row → row.callIdsJson = []
  owned : ∀ row ∈ q.toolCalls, row.key ∈ q.runControl.keys
  distinct : ∀ key key' r r', m.records.get? key = some r → m.records.get? key' = some r' →
    r.updatedAtUtc = r'.updatedAtUtc → key = key'

/-- All records were updated before the call. -/
def Later (m : RunControlRegistry) (call : RunCall) : Prop :=
  ∀ key r, m.records.get? key = some r → r.updatedAtUtc < call.now

/-- The call is none of the three at which the registries part. -/
def KeepsAgreement (settings : RunSettings)
    (p : RunControlRegistry × SQLiteRunControlRegistry) : RunCall → Prop
  -- there are no rows of an earlier run with the id
  | .startRun start _ => p.2.callIdsOf (start.tenantId, start.runId) = []
  -- the ids were entered in their order
  | .callIdsForRun key _ => p.2.callIdsOf key = sortedTexts (p.2.callIdsOf key)
  -- the runs that are dropped are the same whether or not the time is cut to seconds
  | .markTerminal key status terminalEvent terminalMessage now =>
    let written : RunControlRegistry :=
      ⟨p.1.records.modify key (RunControlRecord.marked status terminalEvent terminalMessage now)⟩
    let writtenRow : SQLiteRunControlRegistry :=
      { p.2 with
        runControl := p.2.runControl.modify key
          (SQLiteRunControlRegistry.markedRow status terminalEvent terminalMessage now) }
    written.oldest settings.maxTerminalRecordsPerTenant key.1 ⊆
        writtenRow.oldest settings key.1 ∧
      writtenRow.oldest settings key.1 ⊆
        written.oldest settings.maxTerminalRecordsPerTenant key.1
  | _ => True

namespace Agrees

theorem initial : Agrees .initial .initial where
  same _ := rfl
  legacy _ _ h := by cases h
  owned _ h := by cases h
  distinct _ _ _ _ h := by cases h

theorem get?_eq (h : Agrees m q) (key : RunKey) :
    m.records.get? key = (q.runControl.get? key).map (q.viewRow key) := by
  rw [h.same, SQLiteRunControlRegistry.view, Dict.get?_mapVals]

theorem mem_keys_iff (h : Agrees m q) (key : RunKey) :
    key ∈ m.records.keys ↔ key ∈ q.runControl.keys := by
  rw [Dict.mem_keys_iff, Dict.mem_keys_iff, h.get?_eq]
  simp

/-- The ids that are shown are the rows of the tool calls. -/
theorem rowToDict_eq (h : Agrees m q) {key : RunKey} {row : RunRow}
    (hrow : q.runControl.get? key = some row) : q.rowToDict key row = (q.viewRow key row).toDict := by
  have hids : q.idsOrLegacy key row = q.callIdsOf key := by
    rw [SQLiteRunControlRegistry.idsOrLegacy, h.legacy key row hrow]
    split
    · next hempty => exact hempty.symm
    · rfl
  rw [SQLiteRunControlRegistry.rowToDict, hids]
  rfl

/-! ## Reading -/

theorem getRun_eq (h : Agrees m q) (key : RunKey) : m.getRun key = q.getRun key := by
  rw [RunControlRegistry.getRun, SQLiteRunControlRegistry.getRun, h.get?_eq, Option.map_map]
  cases hrow : q.runControl.get? key with
  | none => rfl
  | some row => exact congrArg some (h.rowToDict_eq hrow).symm

/-- The entries of the two registries, up to their order. -/
theorem perm (h : Agrees m q) :
    m.records.entries.Perm (q.runControl.entries.map fun e ↦ (e.1, q.viewRow e.1 e.2)) :=
  Dict.perm_entries h.same

theorem countActiveRuns_eq (h : Agrees m q) (tenantId : String) :
    m.countActiveRuns tenantId = q.countActiveRuns tenantId := by
  rw [RunControlRegistry.countActiveRuns, h.perm.countP_eq, List.countP_map]
  rfl

theorem callIdsForRun_eq (h : Agrees m q) {key : RunKey}
    (hsorted : q.callIdsOf key = sortedTexts (q.callIdsOf key)) :
    m.callIdsForRun key = q.callIdsForRun key := by
  rw [RunControlRegistry.callIdsForRun, SQLiteRunControlRegistry.callIdsForRun, h.get?_eq]
  cases hrow : q.runControl.get? key with
  | none =>
    have hnone : q.callIdsOf key = [] := by
      rw [SQLiteRunControlRegistry.callIdsOf, List.map_eq_nil_iff, List.filter_eq_nil_iff]
      intro row hmem hkey
      have hkeys := h.owned row hmem
      rw [of_decide_eq_true hkey, Dict.mem_keys_iff, hrow] at hkeys
      obtain ⟨_, hsome⟩ := hkeys
      cases hsome
    rw [hnone]
    rfl
  | some row =>
    show sortedTexts (q.callIdsOf key) = _
    split
    · exact hsorted.symm
    · next hempty =>
      rw [not_not.mp hempty]
      exact (congrArg sortedTexts (h.legacy key row hrow)).symm

theorem listRuns_eq (h : Agrees m q) (tenantId : String) (limit : Int) :
    m.listRuns tenantId limit = q.listRuns tenantId limit := by
  let records := (m.records.entries.map Prod.snd).filter fun r ↦ r.tenantId = tenantId
  let rows := q.runControl.entries.filter fun e ↦ e.1.1 = tenantId
  have hview : rows.map (fun e ↦ q.viewRow e.1 e.2) =
      ((q.runControl.entries.map fun e ↦ (e.1, q.viewRow e.1 e.2)).map Prod.snd).filter
        fun r ↦ r.tenantId = tenantId := by
    rw [List.map_map, List.filter_map]
    rfl
  have hrecords : records.Perm (rows.map fun e ↦ q.viewRow e.1 e.2) := by
    rw [hview]
    exact (h.perm.map Prod.snd).filter _
  -- the rows are sorted by a field of their records
  have hrows : SortedBy RunControlRecord.updatedAtUtc
      ((rows.mergeSort fun a b ↦ b.2.updatedAtUtc ≤ a.2.updatedAtUtc).map
        fun e ↦ q.viewRow e.1 e.2) :=
    List.pairwise_map.mpr (sortedBy_mergeSort (fun e : RunKey × RunRow ↦ e.2.updatedAtUtc) rows)
  have hsorted := sortedBy_mergeSort RunControlRecord.updatedAtUtc records
  have hperm : (records.mergeSort fun a b ↦ b.updatedAtUtc ≤ a.updatedAtUtc).Perm
      ((rows.mergeSort fun a b ↦ b.2.updatedAtUtc ≤ a.2.updatedAtUtc).map
        fun e ↦ q.viewRow e.1 e.2) :=
    ((List.mergeSort_perm _ _).trans hrecords).trans ((List.mergeSort_perm _ _).symm.map _)
  have hties : ∀ a ∈ records.mergeSort fun a b ↦ b.updatedAtUtc ≤ a.updatedAtUtc,
      ∀ b ∈ records.mergeSort fun a b ↦ b.updatedAtUtc ≤ a.updatedAtUtc, a ≠ b →
        a.updatedAtUtc = b.updatedAtUtc → boundedLimit limit ≤
          (records.mergeSort fun a b ↦ b.updatedAtUtc ≤ a.updatedAtUtc).countP
            fun c ↦ a.updatedAtUtc < c.updatedAtUtc := by
    intro a ha b hb hne heq
    refine absurd ?_ hne
    obtain ⟨⟨key, _⟩, hkey, rfl⟩ :=
      List.mem_map.mp (List.mem_filter.mp (List.mem_mergeSort.mp ha)).1
    obtain ⟨⟨key', _⟩, hkey', rfl⟩ :=
      List.mem_map.mp (List.mem_filter.mp (List.mem_mergeSort.mp hb)).1
    have hr := Dict.mem_entries_iff.mp hkey
    have hr' := Dict.mem_entries_iff.mp hkey'
    obtain rfl := h.distinct key key' _ _ hr hr' heq
    exact Option.some.inj (hr.symm.trans hr')
  have htake := take_eq_of_sorted_perm hperm hsorted hrows hties
  have hdict : ∀ e ∈ (rows.mergeSort fun a b ↦ b.2.updatedAtUtc ≤ a.2.updatedAtUtc).take
      (boundedLimit limit), (q.viewRow e.1 e.2).toDict = q.rowToDict e.1 e.2 := by
    intro e he
    have hmem := (List.mem_filter.mp (List.mem_mergeSort.mp (List.mem_of_mem_take he))).1
    exact (h.rowToDict_eq (Dict.mem_entries_iff.mp hmem)).symm
  calc m.listRuns tenantId limit
      = ((records.mergeSort fun a b ↦ b.updatedAtUtc ≤ a.updatedAtUtc).take
          (boundedLimit limit)).map RunControlRecord.toDict := rfl
    _ = (((rows.mergeSort fun a b ↦ b.2.updatedAtUtc ≤ a.2.updatedAtUtc).take
          (boundedLimit limit)).map fun e ↦ q.viewRow e.1 e.2).map RunControlRecord.toDict := by
        rw [htake, ← List.map_take]
    _ = ((rows.mergeSort fun a b ↦ b.2.updatedAtUtc ≤ a.2.updatedAtUtc).take
          (boundedLimit limit)).map fun e ↦ q.rowToDict e.1 e.2 := by
        rw [List.map_map]
        exact List.map_congr_left hdict
    _ = q.listRuns tenantId limit := rfl

/-! ## Writing -/

/-- A record that is written in place on both sides, and no id is added. -/
theorem modify (h : Agrees m q) {key : RunKey} {now : Stamp}
    (hlater : ∀ key r, m.records.get? key = some r → r.updatedAtUtc < now)
    {f : RunControlRecord → RunControlRecord} {g : RunRow → RunRow} {toolCalls : List ToolCallRow}
    (hview : ∀ row, f (q.viewRow key row) = viewRow ⟨q.runControl, toolCalls⟩ key (g row))
    (hids : ∀ key', key' ≠ key → viewRow ⟨q.runControl, toolCalls⟩ key' = q.viewRow key')
    (hlegacy : ∀ row, (g row).callIdsJson = row.callIdsJson)
    (howned : ∀ row ∈ toolCalls, row.key ∈ q.runControl.keys)
    (hupdated : ∀ r, (f r).updatedAtUtc = now) :
    Agrees ⟨m.records.modify key f⟩ ⟨q.runControl.modify key g, toolCalls⟩ where
  same key' := by
    rw [SQLiteRunControlRegistry.view, Dict.get?_mapVals]
    show (m.records.modify key f).get? key' =
      ((q.runControl.modify key g).get? key').map (viewRow ⟨q.runControl, toolCalls⟩ key')
    rw [Dict.get?_modify, Dict.get?_modify, h.get?_eq]
    by_cases hkey : key' = key
    · subst hkey
      rw [if_pos rfl, if_pos rfl, Option.map_map, Option.map_map]
      exact congrArg (fun f ↦ Option.map f (q.runControl.get? key')) (funext hview)
    · rw [if_neg hkey, if_neg hkey, hids key' hkey]
  legacy key' row hrow := by
    obtain ⟨row', hrow', rfl⟩ := Dict.get?_modify_eq_some hrow
    split
    · rw [hlegacy, h.legacy key' row' hrow']
    · exact h.legacy key' row' hrow'
  owned row hrow := by
    rw [Dict.keys_modify]
    exact howned row hrow
  distinct k k' r r' hr hr' heq := by
    obtain ⟨r₀, hr₀, rfl⟩ := Dict.get?_modify_eq_some hr
    obtain ⟨r₁, hr₁, rfl⟩ := Dict.get?_modify_eq_some hr'
    have hlt := hlater k r₀ hr₀
    have hlt' := hlater k' r₁ hr₁
    by_cases hk : k = key <;> by_cases hk' : k' = key
    · rw [hk, hk']
    · rw [if_pos hk, if_neg hk', hupdated] at heq
      exact absurd heq.symm (Nat.ne_of_lt hlt')
    · rw [if_neg hk, if_pos hk', hupdated] at heq
      exact absurd heq (Nat.ne_of_lt hlt)
    · rw [if_neg hk, if_neg hk'] at heq
      exact h.distinct k k' r₀ r₁ hr₀ hr₁ heq

/-- The ids of a run after a call of a tool was entered. -/
theorem callIdsOf_recordToolCall (q : SQLiteRunControlRegistry) (key key' : RunKey)
    (callId : String) :
    callIdsOf key' ⟨q.runControl, if ⟨key, callId⟩ ∈ q.toolCalls then q.toolCalls
        else q.toolCalls ++ [⟨key, callId⟩]⟩ =
      if key' = key then addNew (q.callIdsOf key') callId else q.callIdsOf key' := by
  have hmem : (⟨key, callId⟩ : ToolCallRow) ∈ q.toolCalls ↔ callId ∈ q.callIdsOf key := by
    simp only [callIdsOf, List.mem_map, List.mem_filter, decide_eq_true_eq]
    constructor
    · exact fun h ↦ ⟨_, ⟨h, rfl⟩, rfl⟩
    · rintro ⟨⟨_, _⟩, ⟨h, rfl⟩, rfl⟩
      exact h
  by_cases hold : (⟨key, callId⟩ : ToolCallRow) ∈ q.toolCalls
  · rw [if_pos hold]
    split
    · next hkey => rw [hkey, addNew, if_pos (hmem.mp hold)]
    · rfl
  · rw [if_neg hold]
    by_cases hkey : key' = key
    · subst hkey
      rw [if_pos rfl, addNew, if_neg (fun h ↦ hold (hmem.mpr h))]
      simp [callIdsOf, List.filter_append]
    · rw [if_neg hkey]
      have hne : ¬key = key' := fun h ↦ hkey h.symm
      simp [callIdsOf, List.filter_append, hne]

theorem recordToolCall (h : Agrees m q) (key : RunKey) (callId : String) {now : Stamp}
    (hlater : ∀ key r, m.records.get? key = some r → r.updatedAtUtc < now) :
    (m.recordToolCall key callId now).1 = (q.recordToolCall key callId now).1 ∧
      Agrees (m.recordToolCall key callId now).2 (q.recordToolCall key callId now).2 := by
  rw [RunControlRegistry.recordToolCall, SQLiteRunControlRegistry.recordToolCall]
  by_cases hempty : Text.strip callId = ""
  · rw [if_pos hempty, if_pos hempty]
    exact ⟨rfl, h⟩
  rw [if_neg hempty, if_neg hempty]
  by_cases hkey : key ∈ q.runControl.keys
  · rw [if_pos hkey, if_pos ((h.mem_keys_iff key).mpr hkey)]
    refine ⟨rfl, h.modify hlater (fun row ↦ ?_) (fun key' hne ↦ ?_) (fun _ ↦ rfl)
      (fun row hrow ↦ ?_) (fun _ ↦ rfl)⟩
    · rw [viewRow, viewRow, callIdsOf_recordToolCall, if_pos rfl]
      rfl
    · funext row
      rw [viewRow, viewRow, callIdsOf_recordToolCall, if_neg hne]
    · split at hrow
      · exact h.owned row hrow
      · rcases List.mem_append.mp hrow with hrow | hrow
        · exact h.owned row hrow
        · rw [List.mem_singleton.mp hrow]
          exact hkey
  · rw [if_neg hkey, if_neg (fun hk ↦ hkey ((h.mem_keys_iff key).mp hk))]
    exact ⟨rfl, h⟩

theorem requestCancel (h : Agrees m q) (key : RunKey) (reason : String) {now : Stamp}
    (hlater : ∀ key r, m.records.get? key = some r → r.updatedAtUtc < now) :
    (m.requestCancel key reason now).1 = (q.requestCancel key reason now).1 ∧
      Agrees (m.requestCancel key reason now).2 (q.requestCancel key reason now).2 := by
  refine ⟨?_, ?_⟩
  · rw [RunControlRegistry.requestCancel, SQLiteRunControlRegistry.requestCancel]
    by_cases hkey : key ∈ q.runControl.keys
    · rw [if_pos hkey, if_pos ((h.mem_keys_iff key).mpr hkey)]
    · rw [if_neg hkey, if_neg (fun hk ↦ hkey ((h.mem_keys_iff key).mp hk))]
  · rw [RunControlRegistry.requestCancel_snd, SQLiteRunControlRegistry.requestCancel_snd]
    exact h.modify hlater (fun _ ↦ rfl) (fun _ _ ↦ rfl) (fun _ ↦ rfl) h.owned (fun _ ↦ rfl)

theorem startRun (h : Agrees m q) (start : RunStart) {now : Stamp}
    (hlater : ∀ key r, m.records.get? key = some r → r.updatedAtUtc < now)
    (hfresh : q.callIdsOf (start.tenantId, start.runId) = []) :
    Agrees (m.startRun start now).2 (q.startRun start now).2 where
  same key := by
    rw [SQLiteRunControlRegistry.view, Dict.get?_mapVals, RunControlRegistry.startRun,
      SQLiteRunControlRegistry.startRun]
    show (m.records.set (start.tenantId, start.runId) (start.record now)).get? key =
      (((q.runControl.erase (start.tenantId, start.runId)).set (start.tenantId, start.runId)
        (newRow (start.record now))).get? key).map (q.viewRow key)
    rw [Dict.get?_set, Dict.get?_set, Dict.get?_erase]
    by_cases hkey : key = (start.tenantId, start.runId)
    · rw [if_pos hkey, if_pos hkey, Option.map_some, viewRow, hkey, hfresh]
      rfl
    · rw [if_neg hkey, if_neg hkey, if_neg hkey, h.get?_eq]
  legacy key row hrow := by
    have hrow' : ((q.runControl.erase (start.tenantId, start.runId)).set
        (start.tenantId, start.runId) (newRow (start.record now))).get? key = some row := hrow
    rw [Dict.get?_set, Dict.get?_erase] at hrow'
    split at hrow'
    · cases hrow'
      rfl
    · exact h.legacy key row hrow'
  owned row hrow := by
    have hkeys := h.owned row hrow
    show row.key ∈ ((q.runControl.erase (start.tenantId, start.runId)).set
      (start.tenantId, start.runId) (newRow (start.record now))).keys
    rw [Dict.mem_keys_iff, Dict.get?_set, Dict.get?_erase]
    split
    · exact ⟨_, rfl⟩
    · exact Dict.mem_keys_iff.mp hkeys
  distinct key key' r r' hr hr' heq := by
    have hget (key : RunKey) : (m.startRun start now).2.records.get? key =
        if key = (start.tenantId, start.runId) then some (start.record now)
        else m.records.get? key := Dict.get?_set ..
    rw [hget] at hr hr'
    split at hr <;> split at hr'
    · next hkey hkey' => rw [hkey, hkey']
    · cases hr
      exact absurd heq.symm (Nat.ne_of_lt (hlater key' r' hr'))
    · cases hr'
      exact absurd heq (Nat.ne_of_lt (hlater key r hr))
    · exact h.distinct key key' r r' hr hr' heq

/-- Dropping the same runs. -/
theorem prune (h : Agrees m q) (tenantId : String)
    (hle : m.oldest settings.maxTerminalRecordsPerTenant tenantId ⊆ q.oldest settings tenantId)
    (hge : q.oldest settings tenantId ⊆ m.oldest settings.maxTerminalRecordsPerTenant tenantId) :
    Agrees (m.prune settings.maxTerminalRecordsPerTenant tenantId) (q.prune settings tenantId) := by
  have hids {key : RunKey} (hkey : key ∉ q.oldest settings tenantId) :
      (q.prune settings tenantId).callIdsOf key = q.callIdsOf key := by
    rw [SQLiteRunControlRegistry.prune, foldl_delete, callIdsOf, callIdsOf, List.filter_filter]
    congr 1
    refine List.filter_congr fun row _ ↦ ?_
    by_cases hrow : row.key = key
    · simp [hrow, hkey]
    · simp [hrow]
  have hold {key : RunKey} {r : RunControlRecord}
      (hr : (m.prune settings.maxTerminalRecordsPerTenant tenantId).records.get? key = some r) :
      m.records.get? key = some r := by
    rw [RunControlRegistry.get?_prune] at hr
    split at hr
    · cases hr
    · exact hr
  refine ⟨fun key ↦ ?_, fun key row hrow ↦ ?_, fun row hrow ↦ ?_, fun key key' r r' hr hr' ↦
    h.distinct key key' r r' (hold hr) (hold hr')⟩
  · rw [SQLiteRunControlRegistry.view, Dict.get?_mapVals, RunControlRegistry.get?_prune,
      SQLiteRunControlRegistry.get?_prune]
    by_cases hkey : key ∈ q.oldest settings tenantId
    · rw [if_pos hkey, if_pos (hge hkey), Option.map_none]
    · rw [if_neg hkey, if_neg (fun hm ↦ hkey (hle hm)), h.get?_eq]
      have hview : (q.prune settings tenantId).viewRow key = q.viewRow key := by
        funext row
        rw [viewRow, viewRow, hids hkey]
      rw [hview]
  · rw [SQLiteRunControlRegistry.get?_prune] at hrow
    split at hrow
    · cases hrow
    · exact h.legacy key row hrow
  · rw [SQLiteRunControlRegistry.prune, foldl_delete] at hrow
    obtain ⟨hmem, hkept⟩ := List.mem_filter.mp hrow
    rw [Dict.mem_keys_iff, SQLiteRunControlRegistry.get?_prune,
      if_neg (of_decide_eq_true hkept)]
    exact Dict.mem_keys_iff.mp (h.owned row hmem)

theorem markTerminal (h : Agrees m q) (key : RunKey)
    (status terminalEvent terminalMessage : String) {now : Stamp}
    (hlater : ∀ key r, m.records.get? key = some r → r.updatedAtUtc < now)
    (hok : KeepsAgreement settings (m, q)
      (.markTerminal key status terminalEvent terminalMessage now)) :
    (m.markTerminal settings.maxTerminalRecordsPerTenant key status terminalEvent terminalMessage
        now).1 = (q.markTerminal settings key status terminalEvent terminalMessage now).1 ∧
      Agrees
        (m.markTerminal settings.maxTerminalRecordsPerTenant key status terminalEvent
          terminalMessage now).2
        (q.markTerminal settings key status terminalEvent terminalMessage now).2 := by
  have hwritten : Agrees
      ⟨m.records.modify key (RunControlRecord.marked status terminalEvent terminalMessage now)⟩
      { q with
        runControl :=
          q.runControl.modify key (markedRow status terminalEvent terminalMessage now) } :=
    h.modify hlater (fun _ ↦ rfl) (fun _ _ ↦ rfl) (fun _ ↦ rfl) h.owned (fun _ ↦ rfl)
  rw [RunControlRegistry.markTerminal_snd, SQLiteRunControlRegistry.markTerminal_snd,
    RunControlRegistry.markTerminal, SQLiteRunControlRegistry.markTerminal]
  by_cases hkey : key ∈ q.runControl.keys
  · have hkey' := (h.mem_keys_iff key).mpr hkey
    rw [if_pos hkey, if_pos hkey', if_pos hkey, if_pos hkey']
    exact ⟨rfl, hwritten.prune key.1 hok.1 hok.2⟩
  · have hkey' : key ∉ m.records.keys := fun hk ↦ hkey ((h.mem_keys_iff key).mp hk)
    rw [if_neg hkey, if_neg hkey', if_neg hkey, if_neg hkey']
    exact ⟨rfl, h⟩

/-- **A call that keeps the agreement** is answered alike by both. -/
theorem step (h : Agrees m q) {call : RunCall} (hlater : Later m call)
    (hok : KeepsAgreement settings (m, q) call) :
    (m.step settings call).1 = (q.step settings call).1 ∧
      Agrees (m.step settings call).2 (q.step settings call).2 := by
  cases call with
  | startRun start now => exact ⟨rfl, h.startRun start hlater hok⟩
  | recordToolCall key callId now =>
    obtain ⟨hanswer, hnext⟩ := h.recordToolCall key callId hlater
    simp only [RunControlRegistry.step, SQLiteRunControlRegistry.step]
    exact ⟨congrArg RunAnswer.found hanswer, hnext⟩
  | markTerminal key status terminalEvent terminalMessage now =>
    obtain ⟨hanswer, hnext⟩ := h.markTerminal key status terminalEvent terminalMessage hlater hok
    exact ⟨congrArg RunAnswer.found hanswer, hnext⟩
  | requestCancel key reason now =>
    obtain ⟨hanswer, hnext⟩ := h.requestCancel key reason hlater
    simp only [RunControlRegistry.step, SQLiteRunControlRegistry.step]
    exact ⟨congrArg RunAnswer.found hanswer, hnext⟩
  | getRun key now => exact ⟨congrArg RunAnswer.run (h.getRun_eq key), h⟩
  | listRuns tenantId limit now =>
    exact ⟨congrArg RunAnswer.runs (h.listRuns_eq tenantId limit), h⟩
  | callIdsForRun key now => exact ⟨congrArg RunAnswer.callIds (h.callIdsForRun_eq hok), h⟩
  | countActiveRuns tenantId now =>
    exact ⟨congrArg RunAnswer.count (h.countActiveRuns_eq tenantId), h⟩

end Agrees

/-! ## Runs with a clock that goes forward -/

/-- A call updates records at its own time. -/
theorem RunControlRegistry.updatedAtUtc_step (settings : RunSettings) (m : RunControlRegistry)
    (call : RunCall) {key : RunKey} {r : RunControlRecord}
    (hr : (m.step settings call).2.records.get? key = some r) :
    r.updatedAtUtc = call.now ∨ m.records.get? key = some r := by
  have hmodify {f : RunControlRecord → RunControlRecord} {key' : RunKey}
      (hf : ∀ r, (f r).updatedAtUtc = call.now)
      (hr : (m.records.modify key' f).get? key = some r) :
      r.updatedAtUtc = call.now ∨ m.records.get? key = some r := by
    obtain ⟨r₀, hr₀, rfl⟩ := Dict.get?_modify_eq_some hr
    split
    · exact .inl (hf r₀)
    · exact .inr hr₀
  cases call with
  | startRun start now =>
    simp only [step, startRun, Dict.get?_set] at hr
    split at hr
    · cases hr
      exact .inl rfl
    · exact .inr hr
  | recordToolCall key' callId now =>
    simp only [step] at hr
    rcases m.recordToolCall_snd key' callId now with h | h
    · rw [h] at hr
      exact .inr hr
    · rw [h] at hr
      exact hmodify (fun _ ↦ rfl) hr
  | markTerminal key' status terminalEvent terminalMessage now =>
    simp only [step, markTerminal_snd] at hr
    split at hr
    · rw [get?_prune] at hr
      split at hr
      · cases hr
      · exact hmodify (fun _ ↦ rfl) hr
    · exact .inr hr
  | requestCancel key' reason now =>
    simp only [step, requestCancel_snd] at hr
    exact hmodify (fun _ ↦ rfl) hr
  | getRun | listRuns | callIdsForRun | countActiveRuns => exact .inr hr

/-- With a clock that goes forward, every call comes after all updates. -/
theorem along_later (settings : RunSettings) {calls : List RunCall} {m : RunControlRegistry}
    {q : SQLiteRunControlRegistry} {t : Stamp}
    (hupdated : ∀ key r, m.records.get? key = some r → r.updatedAtUtc ≤ t)
    (hclock : ((t :: calls.map RunCall.now)).Pairwise (· < ·)) :
    Run.Along (Run.both (RunControlRegistry.step settings) (SQLiteRunControlRegistry.step settings))
      (fun p call ↦ Later p.1 call) (m, q) calls := by
  induction calls generalizing m q t with
  | nil => trivial
  | cons call calls ih =>
    obtain ⟨hfirst, hrest⟩ := List.pairwise_cons.mp hclock
    have hlt : t < call.now := hfirst _ List.mem_cons_self
    refine ⟨fun key r hr ↦ Nat.lt_of_le_of_lt (hupdated key r hr) hlt,
      ih (t := call.now) (fun key r hr ↦ ?_) hrest⟩
    rcases m.updatedAtUtc_step settings call hr with h | h
    · exact Nat.le_of_eq h
    · exact Nat.le_trans (hupdated key r h) (Nat.le_of_lt hlt)

/-- A run with two tool calls, which is cancelled and ends. -/
def ordinaryRun : List RunCall :=
  [.startRun ⟨"t", "sess", "run-1", "", "sse"⟩ 1, .recordToolCall ("t", "run-1") "call-2" 2,
    .recordToolCall ("t", "run-1") "call-1" 3, .requestCancel ("t", "run-1") "admin" 4,
    .markTerminal ("t", "run-1") "cancelled" "cancel_forwarded" "" 5, .getRun ("t", "run-1") 6,
    .listRuns "t" 50 7, .countActiveRuns "t" 8]

/-- The id of a run is used again. -/
def reusedId : List RunCall :=
  [.startRun ⟨"t", "sess", "run-1", "", "sse"⟩ 1, .recordToolCall ("t", "run-1") "call-1" 2,
    .markTerminal ("t", "run-1") "completed" "run_complete" "" 3,
    .startRun ⟨"t", "sess", "run-1", "", "sse"⟩ 4]

/-- Two tool calls whose ids do not come in their order. -/
def idsOutOfOrder : List RunCall :=
  [.startRun ⟨"t", "sess", "run-1", "", "sse"⟩ 1, .recordToolCall ("t", "run-1") "call-2" 2,
    .recordToolCall ("t", "run-1") "call-1" 3]

/-- Two runs that finish within a second, in the other order than they started. -/
def sameSecond : List RunCall :=
  [.startRun ⟨"t", "sess", "run-1", "", "sse"⟩ 1, .startRun ⟨"t", "sess", "run-2", "", "sse"⟩ 2,
    .markTerminal ("t", "run-2") "completed" "run_complete" "" 3,
    .markTerminal ("t", "run-1") "completed" "run_complete" "" 4]

theorem mergeSort_pair {α : Type} (le : α → α → Bool) (a b : α) :
    [a, b].mergeSort le = if le a b then [a, b] else [b, a] := by
  simp [List.mergeSort, List.MergeSort.Internal.splitInTwo, List.merge]

/-- In memory it is the run that finished first that a cap of one drops. -/
theorem RunControlRegistry.oldest_sameSecond :
    (Run.exec (step {}) .initial sameSecond).oldest 1 "t" = [("t", "run-2")] := by
  have hsorted : (Run.exec (step {}) .initial sameSecond).oldest 1 "t" =
      ((([⟨"t", "sess", "run-1", "run-1", "sse", "completed", [], false, "", 1, 4, some 4,
          "run_complete", ""⟩, ⟨"t", "sess", "run-2", "run-2", "sse", "completed", [], false, "", 2,
          3, some 3, "run_complete", ""⟩] : List RunControlRecord).mergeSort finishedBefore).take
        1).map fun r ↦ (r.tenantId, r.runId) := rfl
  rw [hsorted, mergeSort_pair]
  decide

/-- In SQLite it is the one that started first. -/
theorem SQLiteRunControlRegistry.oldest_sameSecond :
    (Run.exec (step {}) .initial sameSecond).oldest ⟨1, fun t ↦ t / 1000000⟩ "t" =
      [("t", "run-1")] := by
  have hsorted : (Run.exec (step {}) .initial sameSecond).oldest ⟨1, fun t ↦ t / 1000000⟩ "t" =
      ((([(("t", "run-1"), ⟨"sess", "run-1", "sse", "completed", [], false, "", 1, 4, some 4,
          "run_complete", ""⟩), (("t", "run-2"), ⟨"sess", "run-2", "sse", "completed", [], false,
          "", 2, 3, some 3, "run_complete", ""⟩)] : List (RunKey × RunRow)).mergeSort
        (finishedBefore fun t ↦ t / 1000000)).take 1).map Prod.fst := rfl
  rw [hsorted, mergeSort_pair]
  decide

end Core
end ExoBrain
