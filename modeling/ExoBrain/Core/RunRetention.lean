import ExoBrain.Core.RunCounting
import ExoBrain.Lib.Run
import ExoBrain.Lib.Surplus

/-!
# How many finished runs are kept

The run registry in memory drops old runs of a tenant whenever one of its runs is marked: by
`_TERMINAL_STATUSES` it finds the records that count, and it drops the oldest beyond the cap.  A run
is finished once it is marked (`finished_at_utc`), and the turn handlers also mark runs as
`interrupted`, which is no terminal status; nor is `cancel_requested`, which such a run becomes when
its cancellation is requested later.  So those runs are finished, and never dropped.

* `Retains` says what a mark should leave of the finished runs of its tenant, `Surplus.Prunes`.
* `Droppable` is when it does: the finished runs fit under the cap, or all have a terminal status.
* `finished_runs_bounded_iff` proves this of every run of the registry; `interrupted_runs_stay` is
  two interrupted runs with a cap of one.
-/

set_option autoImplicit false

namespace ExoBrain
namespace Core

open Surplus

/-! ## Finished runs -/

namespace RunControlRecord

/-- A record of the tenant that is finished. -/
def finishedOf (tenantId : String) (r : RunControlRecord) : Bool :=
  r.tenantId = tenantId && r.finishedAtUtc.isSome

/-- A record of the tenant that pruning counts. -/
def terminalOf (tenantId : String) (r : RunControlRecord) : Bool :=
  r.tenantId = tenantId && isTerminalStatus r.status

/-- When it finished: `r.finished_at_utc or r.started_at_utc`. -/
def finishTime (r : RunControlRecord) : Stamp := r.finishedAtUtc.getD r.startedAtUtc

end RunControlRecord

namespace RunControlRegistry

open RunControlRecord

variable {s : RunControlRegistry} {key : RunKey}

/-- The runs of the tenant that are finished. -/
def finishedRuns (tenantId : String) (s : RunControlRegistry) : Nat :=
  s.records.entries.countP fun e ↦ finishedOf tenantId e.2

/-- What a mark of tenant `t` should make of the records: of the finished ones of the tenant the
`cap` that finished last are left, no other record is gone, and none is changed. -/
structure Retains (cap : Nat) (t : String) (before after : RunControlRegistry) : Prop where
  prunes : Prunes (finishedOf t) (fun _ ↦ false) finishTime cap before.records after.records
  kept : ∀ key r, before.records.get? key = some r → finishedOf t r = false →
    after.records.get? key = some r
  sub : ∀ key r, after.records.get? key = some r → before.records.get? key = some r

/-- The records with the mark, before old ones are dropped. -/
def marked (key : RunKey) (status terminalEvent terminalMessage : String) (now : Stamp)
    (s : RunControlRegistry) : RunControlRegistry :=
  ⟨s.records.modify key (RunControlRecord.marked status terminalEvent terminalMessage now)⟩

/-- After the call, if it is a mark, the finished runs of its tenant are bounded. -/
def RetainsAfter (settings : RunSettings) (s : RunControlRegistry) : RunCall → Prop
  | .markTerminal key status terminalEvent terminalMessage now =>
    Retains settings.maxTerminalRecordsPerTenant key.1
      (s.marked key status terminalEvent terminalMessage now)
      (s.markTerminal settings.maxTerminalRecordsPerTenant key status terminalEvent terminalMessage
        now).2
  | _ => True

/-- When a mark drops enough: with the run it marks the finished runs of the tenant fit under the
cap, or all of them have one of `_TERMINAL_STATUSES`. -/
def Droppable (settings : RunSettings) (s : RunControlRegistry) : RunCall → Prop
  | .markTerminal key status terminalEvent terminalMessage now =>
    key ∈ s.records.keys →
      (s.marked key status terminalEvent terminalMessage now).finishedRuns key.1 ≤
          settings.maxTerminalRecordsPerTenant ∨
        ∀ k r, (s.marked key status terminalEvent terminalMessage now).records.get? k = some r →
          finishedOf key.1 r = true → isTerminalStatus r.status = true
  | _ => True

/-! ## What pruning drops -/

theorem sorts_finishedBefore :
    Sorts (fun a b : RunKey × RunControlRecord ↦ finishedBefore a.2 b.2)
      fun e ↦ finishTime e.2 where
  trans a b c hab hbc := by
    simp only [finishedBefore, Bool.or_eq_true, Bool.and_eq_true, decide_eq_true_eq] at hab hbc ⊢
    rcases hab with hab | ⟨hab, hids⟩ <;> rcases hbc with hbc | ⟨hbc, hids'⟩
    · exact .inl (Nat.lt_trans hab hbc)
    · exact .inl (hbc ▸ hab)
    · exact .inl (hab ▸ hbc)
    · exact .inr ⟨hab.trans hbc, String.le_trans hids hids'⟩
  total a b := by
    simp only [finishedBefore, Bool.or_eq_true, Bool.and_eq_true, decide_eq_true_eq]
    rcases Nat.lt_trichotomy (finishTime a.2) (finishTime b.2) with h | h | h
    · exact .inl (.inl h)
    · rcases String.le_total a.2.runId b.2.runId with hids | hids
      · exact .inl (.inr ⟨h, hids⟩)
      · exact .inr (.inr ⟨h.symm, hids⟩)
    · exact .inr (.inl h)
  time_le a b hab := by
    simp only [finishedBefore, Bool.or_eq_true, Bool.and_eq_true, decide_eq_true_eq] at hab
    rcases hab with hab | ⟨hab, -⟩
    · exact Nat.le_of_lt hab
    · exact Nat.le_of_eq hab

/-- `_prune_memory_terminals_unlocked` drops what overflows, by its key. -/
theorem oldest_eq_overflowing (h : s.Filed) {cap : Nat} (hcap : 0 < cap) (t : String) :
    s.oldest cap t = overflowing (fun a b ↦ finishedBefore a.2 b.2) (terminalOf t) (fun _ ↦ false)
      cap s.records := by
  have hmatching : s.terminals t =
      (recent (terminalOf t) (fun _ ↦ false) s.records).map Prod.snd := by
    simp only [terminals, recent, List.filter_map, Bool.not_false, Bool.and_true]
    rfl
  have hsorted : (s.terminals t).mergeSort finishedBefore =
      ((recent (terminalOf t) (fun _ ↦ false) s.records).mergeSort
        fun a b ↦ finishedBefore a.2 b.2).map Prod.snd := by
    rw [hmatching]
    have hmap : ∀ l : List (RunKey × RunControlRecord),
        (l.mergeSort fun a b ↦ finishedBefore a.2 b.2).map Prod.snd =
          (l.map Prod.snd).mergeSort finishedBefore :=
      fun l ↦ List.map_mergeSort fun _ _ _ _ ↦ rfl
    exact (hmap _).symm
  rw [oldest, if_neg (Nat.ne_of_gt hcap), hsorted, hmatching, List.length_map, ← List.map_take,
    List.map_map, overflowing, surplus]
  refine List.map_congr_left fun e he ↦ ?_
  have hentry : e ∈ s.records.entries :=
    (List.mem_filter.mp (List.mem_mergeSort.mp (List.mem_of_mem_take he))).1
  exact h e.1 e.2 (Dict.mem_entries_iff.mp hentry)

theorem get?_of_prune {cap : Nat} {t : String} {k : RunKey} {r : RunControlRecord}
    (h : (s.prune cap t).records.get? k = some r) : s.records.get? k = some r := by
  rw [get?_prune] at h
  split at h
  · exact nomatch h
  · exact h

/-- **What pruning does**: it prunes the records with a terminal status. -/
theorem prunes_terminals (h : s.Filed) {cap : Nat} (hcap : 0 < cap) (t : String) :
    Prunes (terminalOf t) (fun _ ↦ false) finishTime cap s.records (s.prune cap t).records := by
  refine prunes_of_get? sorts_finishedBefore (fun _ _ ↦ get?_of_prune) fun k r hget hkind ↦ ?_
  rw [get?_prune, ← oldest_eq_overflowing h hcap, hget]
  by_cases hdropped : k ∈ s.oldest cap t <;> simp [hdropped]

/-- It drops nothing else. -/
theorem get?_prune_of_not_terminal (h : s.Filed) {cap : Nat} (hcap : 0 < cap) {t : String}
    {k : RunKey} {r : RunControlRecord} (hget : s.records.get? k = some r)
    (hkind : terminalOf t r = false) : (s.prune cap t).records.get? k = some r := by
  rw [get?_prune, oldest_eq_overflowing h hcap, if_neg]
  · exact hget
  · intro hdropped
    obtain ⟨r', hr', hkind', -⟩ := of_mem_overflowing hdropped
    rw [hget, Option.some_inj] at hr'
    rw [← hr', hkind] at hkind'
    exact nomatch hkind'

/-! ## A mark -/

/-- A terminal status is only ever written with a finish time. -/
def TerminalFinished (s : RunControlRegistry) : Prop :=
  ∀ k r, s.records.get? k = some r → isTerminalStatus r.status = true → r.finishedAtUtc.isSome = true

/-- The finished runs of each tenant fit under the cap. -/
def Bounded (settings : RunSettings) (s : RunControlRegistry) : Prop :=
  ∀ t, s.finishedRuns t ≤ settings.maxTerminalRecordsPerTenant

/-- Dropping retains what it should exactly if the finished runs fit or are all terminal. -/
theorem retains_prune_iff (h : s.Filed) (hterminal : s.TerminalFinished) {cap : Nat}
    (hcap : 0 < cap) (t : String) :
    Retains cap t s (s.prune cap t) ↔ s.finishedRuns t ≤ cap ∨
      ∀ k r, s.records.get? k = some r → finishedOf t r = true →
        isTerminalStatus r.status = true := by
  have hsub : ∀ k r, (s.prune cap t).records.get? k = some r → s.records.get? k = some r :=
    fun _ _ ↦ get?_of_prune
  have hwide : ∀ k r, s.records.get? k = some r → terminalOf t r = true → finishedOf t r = true := by
    intro k r hget hkind
    rw [terminalOf, Bool.and_eq_true] at hkind
    rw [finishedOf, Bool.and_eq_true]
    exact ⟨hkind.1, hterminal k r hget hkind.2⟩
  have hprunes := (prunes_terminals h hcap t).wide_iff hsub
    (fun _ _ ↦ get?_prune_of_not_terminal h hcap) hwide
  have hall : (∀ k r, s.records.get? k = some r → finishedOf t r = true → terminalOf t r = true) ↔
      ∀ k r, s.records.get? k = some r → finishedOf t r = true →
        isTerminalStatus r.status = true := by
    refine forall₄_congr fun k r hget hfinished ↦ ?_
    rw [finishedOf, Bool.and_eq_true] at hfinished
    rw [terminalOf, hfinished.1, Bool.true_and]
  rw [hall] at hprunes
  refine ⟨fun hretains ↦ hprunes.mp hretains.prunes, fun hcond ↦ ⟨hprunes.mpr hcond, ?_, hsub⟩⟩
  intro k r hget hunfinished
  refine get?_prune_of_not_terminal h hcap hget ?_
  by_contra hkind
  rw [hwide k r hget (by simpa using hkind)] at hunfinished
  exact nomatch hunfinished

/-- Marking with a terminal status finishes the run. -/
theorem TerminalFinished.marked (h : s.TerminalFinished) (key : RunKey)
    (status terminalEvent terminalMessage : String) (now : Stamp) :
    (s.marked key status terminalEvent terminalMessage now).TerminalFinished := by
  intro k r hget hstatus
  obtain ⟨old, hold, hr⟩ := Dict.get?_modify_eq_some hget
  split at hr <;> subst hr
  · rfl
  · exact h k _ hold hstatus

theorem TerminalFinished.prune (h : s.TerminalFinished) (cap : Nat) (t : String) :
    (s.prune cap t).TerminalFinished :=
  fun k r hget hstatus ↦ h k r (get?_of_prune hget) hstatus

/-- **One call**: where the finished runs fit so far, it retains what it should exactly if it is
`Droppable`. -/
theorem retainsAfter_iff {settings : RunSettings} (hcap : 0 < settings.maxTerminalRecordsPerTenant)
    (h : s.Filed) (hterminal : s.TerminalFinished) (hbounded : s.Bounded settings)
    (call : RunCall) : s.RetainsAfter settings call ↔ s.Droppable settings call := by
  cases call with
  | markTerminal key status terminalEvent terminalMessage now =>
    rw [RetainsAfter, Droppable, markTerminal_snd]
    by_cases hknown : key ∈ s.records.keys
    · have hmarked : (s.marked key status terminalEvent terminalMessage now).Filed :=
        h.modify key fun _ ↦ rfl
      rw [if_pos hknown, ← marked, retains_prune_iff hmarked
        (hterminal.marked key status terminalEvent terminalMessage now) hcap]
      exact ⟨fun hcond _ ↦ hcond, fun hcond ↦ hcond hknown⟩
    · -- an unknown run changes nothing, and everything fitted before
      have hsame : s.marked key status terminalEvent terminalMessage now = s := by
        rw [marked, Dict.modify_of_not_mem hknown]
      rw [if_neg hknown, hsame]
      refine iff_of_true ⟨⟨fun _ _ _ _ hold ↦ (nomatch hold), ?_, ?_⟩, fun _ _ hget _ ↦ hget,
        fun _ _ hget ↦ hget⟩ fun hk ↦ absurd hk hknown
      · intro k r k' r' hget _ _ hgone
        rw [hget] at hgone
        exact nomatch hgone
      · have hfits := hbounded key.1
        rw [finishedRuns] at hfits
        simp only [Bool.not_false, Bool.and_true]
        omega
  | startRun | recordToolCall | requestCancel | getRun | listRuns | callIdsForRun
  | countActiveRuns => exact Iff.rfl

/-! ## Whole runs -/

/-- What every run of the registry keeps as long as its marks retain what they should. -/
structure Kept (settings : RunSettings) (s : RunControlRegistry) : Prop where
  filed : s.Filed
  terminal : s.TerminalFinished
  bounded : s.Bounded settings

/-- The finished runs of a tenant are no more than before if each of them was one. -/
theorem finishedRuns_le {s' : RunControlRegistry} {t : String}
    (h : ∀ k r, s'.records.get? k = some r → finishedOf t r = true →
      ∃ r₀, s.records.get? k = some r₀ ∧ finishedOf t r₀ = true) :
    s'.finishedRuns t ≤ s.finishedRuns t :=
  Dict.countP_le_countP h

/-- A change that keeps tenant and finish time. -/
theorem finishedRuns_modify_le {f : RunControlRecord → RunControlRecord}
    (hf : ∀ t r, finishedOf t (f r) = finishedOf t r) (key : RunKey) (t : String) :
    finishedRuns t ⟨s.records.modify key f⟩ ≤ s.finishedRuns t := by
  refine finishedRuns_le fun k r hget hfinished ↦ ?_
  obtain ⟨old, hold, rfl⟩ := Dict.get?_modify_eq_some hget
  refine ⟨old, hold, ?_⟩
  split at hfinished
  · rwa [hf] at hfinished
  · exact hfinished

theorem TerminalFinished.modify (h : s.TerminalFinished) {f : RunControlRecord → RunControlRecord}
    (hf : ∀ r, isTerminalStatus (f r).status = true → isTerminalStatus r.status = true)
    (hfinish : ∀ r, (f r).finishedAtUtc = r.finishedAtUtc) (key : RunKey) :
    TerminalFinished ⟨s.records.modify key f⟩ := by
  intro k r hget hstatus
  obtain ⟨old, hold, hr⟩ := Dict.get?_modify_eq_some hget
  split at hr <;> subst hr
  · rw [hfinish]
    exact h k old hold (hf old hstatus)
  · exact h k _ hold hstatus

/-- Requesting a cancellation makes no status terminal. -/
theorem isTerminalStatus_of_cancelled {reason : String} {now : Stamp} {r : RunControlRecord}
    (h : isTerminalStatus (r.cancelled reason now).status = true) :
    isTerminalStatus r.status = true := by
  simp only [cancelled] at h
  split at h
  · assumption
  · exact absurd h (by decide)

theorem TerminalFinished.step (h : s.TerminalFinished) (settings : RunSettings) (call : RunCall) :
    (s.step settings call).2.TerminalFinished := by
  cases call with
  | startRun start now =>
    intro k r hget hstatus
    simp only [RunControlRegistry.step, startRun, Dict.get?_set] at hget
    split at hget
    · cases hget
      exact absurd (show isTerminalStatus "running" = true from hstatus) (by decide)
    · exact h k r hget hstatus
  | recordToolCall key callId now =>
    simp only [RunControlRegistry.step]
    rcases s.recordToolCall_snd key callId now with heq | heq <;> rw [heq]
    · exact h
    · exact h.modify (f := called (Text.strip callId) now) (fun _ hr ↦ hr) (fun _ ↦ rfl) key
  | markTerminal key status terminalEvent terminalMessage now =>
    simp only [RunControlRegistry.step, markTerminal_snd]
    split
    · exact (h.marked key status terminalEvent terminalMessage now).prune _ _
    · exact h
  | requestCancel key reason now =>
    simp only [RunControlRegistry.step, requestCancel_snd]
    exact h.modify (f := cancelled reason now) (fun _ ↦ isTerminalStatus_of_cancelled)
      (fun _ ↦ rfl) key
  | getRun | listRuns | callIdsForRun | countActiveRuns => exact h

/-- A mark touches no finished run of another tenant. -/
theorem finishedRuns_le_of_retains (h : s.Filed) {cap : Nat} {key : RunKey}
    {status terminalEvent terminalMessage : String} {now : Stamp} {after : RunControlRegistry}
    (hretains : Retains cap key.1 (s.marked key status terminalEvent terminalMessage now) after)
    {t : String} (ht : t ≠ key.1) : after.finishedRuns t ≤ s.finishedRuns t := by
  refine finishedRuns_le fun k r hget hfinished ↦ ?_
  obtain ⟨old, hold, hr⟩ := Dict.get?_modify_eq_some (hretains.sub k r hget)
  refine ⟨old, hold, ?_⟩
  split at hr
  · next hk =>
    have htenant : t = old.tenantId := by
      rw [hr, finishedOf, Bool.and_eq_true, decide_eq_true_eq] at hfinished
      exact hfinished.1.symm
    have hfiled : old.tenantId = k.1 := congrArg Prod.fst (h k old hold)
    exact absurd (htenant.trans (hfiled.trans (congrArg Prod.fst hk))) ht
  · rwa [← hr]

theorem Bounded.step {settings : RunSettings} (h : s.Bounded settings) (hfiled : s.Filed)
    {call : RunCall} (hretains : s.RetainsAfter settings call) :
    (s.step settings call).2.Bounded settings := by
  intro t
  cases call with
  | startRun start now =>
    refine Nat.le_trans (finishedRuns_le fun k r hget hfinished ↦ ?_) (h t)
    simp only [RunControlRegistry.step, startRun, Dict.get?_set] at hget
    split at hget
    · -- a run that starts is not finished
      cases hget
      simp [finishedOf, RunStart.record] at hfinished
    · exact ⟨r, hget, hfinished⟩
  | recordToolCall key callId now =>
    simp only [RunControlRegistry.step]
    rcases s.recordToolCall_snd key callId now with heq | heq <;> rw [heq]
    · exact h t
    · exact Nat.le_trans (finishedRuns_modify_le (f := called (Text.strip callId) now)
        (fun _ _ ↦ rfl) key t) (h t)
  | markTerminal key status terminalEvent terminalMessage now =>
    by_cases ht : t = key.1
    · rw [finishedRuns, ht]
      exact hretains.prunes.left.trans_le (Nat.min_le_left _ _)
    · exact Nat.le_trans (finishedRuns_le_of_retains hfiled hretains ht) (h t)
  | requestCancel key reason now =>
    simp only [RunControlRegistry.step, requestCancel_snd]
    exact Nat.le_trans (finishedRuns_modify_le (f := cancelled reason now) (fun _ _ ↦ rfl) key t)
      (h t)
  | getRun | listRuns | callIdsForRun | countActiveRuns => exact h t

theorem kept_initial (settings : RunSettings) : initial.Kept settings where
  filed := filed_initial
  terminal _ _ hget := nomatch hget
  bounded _ := Nat.zero_le _

/-- **A call that retains what it should keeps all of this.** -/
theorem Kept.step {settings : RunSettings} (h : s.Kept settings) {call : RunCall}
    (hretains : s.RetainsAfter settings call) : (s.step settings call).2.Kept settings :=
  ⟨h.filed.step settings call, h.terminal.step settings call, h.bounded.step h.filed hretains⟩

/-- **The finished runs are bounded after every mark of a run of the registry** exactly if at every
mark, with the run it marks, the finished runs of the tenant fit under the cap or all have a
terminal status. -/
theorem finished_runs_bounded_iff (settings : RunSettings)
    (hcap : 0 < settings.maxTerminalRecordsPerTenant) (calls : List RunCall) :
    Run.Along (step settings) (RetainsAfter settings) initial calls ↔
      Run.Along (step settings) (Droppable settings) initial calls :=
  Run.along_iff_along (P := Kept settings)
    (fun _ call h ↦ retainsAfter_iff hcap h.filed h.terminal h.bounded call)
    (fun _ _ h hretains ↦ h.step hretains) (kept_initial settings) calls

/-! ## Two runs, with room for one -/

/-- A cap of one. -/
def capOfOne : RunSettings := { maxTerminalRecordsPerTenant := 1 }

/-- Two runs of a tenant that end with the same status. -/
def twoRunsEnding (status : String) : List RunCall :=
  [.startRun ⟨"t", "sess", "run-1", "", "sse"⟩ 1, .startRun ⟨"t", "sess", "run-2", "", "sse"⟩ 2,
    .markTerminal ("t", "run-1") status "stream_closed" "" 3,
    .markTerminal ("t", "run-2") status "stream_closed" "" 4]

/-- Of two runs that complete one is kept. -/
theorem finished_runs_bounded_iff_completed :
    Run.Along (step capOfOne) (RetainsAfter capOfOne) initial (twoRunsEnding "completed") := by
  have hterminal : ∀ e ∈ ((Run.exec (step capOfOne) initial
      ((twoRunsEnding "completed").take 3)).marked ("t", "run-2") "completed" "stream_closed" ""
        4).records.entries, isTerminalStatus e.2.status = true := by
    decide +kernel
  refine (finished_runs_bounded_iff capOfOne (by decide) (twoRunsEnding "completed")).mpr
    ⟨trivial, trivial, fun _ ↦ .inl (by decide +kernel), fun _ ↦ .inr fun k r hget _ ↦ ?_, trivial⟩
  exact hterminal (k, r) (Dict.mem_entries_iff.mpr hget)

/-- Two runs that are interrupted are both kept. -/
theorem interrupted_runs_stay :
    ((twoRunsEnding "interrupted").map RunCall.now).Pairwise (· < ·) ∧
      (Run.exec (step capOfOne) initial (twoRunsEnding "interrupted")).finishedRuns "t" = 2 ∧
      ¬Run.Along (step capOfOne) (RetainsAfter capOfOne) initial (twoRunsEnding "interrupted") := by
  have htwo : (Run.exec (step capOfOne) initial (twoRunsEnding "interrupted")).finishedRuns "t" =
      2 := by
    decide +kernel
  refine ⟨by decide, htwo, fun h ↦ ?_⟩
  have hleft : (Run.exec (step capOfOne) initial (twoRunsEnding "interrupted")).finishedRuns "t" ≤
      1 := h.2.2.2.1.prunes.left.trans_le (Nat.min_le_left _ _)
  rw [htwo] at hleft
  exact absurd hleft (by decide)

end RunControlRegistry
end Core
end ExoBrain
