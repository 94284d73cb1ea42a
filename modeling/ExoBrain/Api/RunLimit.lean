import ExoBrain.Api.TurnLaws

/-!
# The limit on the active runs of a tenant

`max_active_runs_per_tenant` limits the number of turns that a tenant streams at a time.  It is
checked against `count_active_runs`, which counts records, and a record is not a stream: a turn that
is submitted under the run id of one that is still streamed replaces its record, and a cancellation
from outside closes the record of a turn that has not ended yet.  In either case the count is too
low and a turn too many is admitted.

`live_within_limit` says that nothing else goes wrong: the limit holds as long as a turn is admitted
only under a run id that no stream of the tenant has, and while the record of each stream of the
tenant is active.  `counted_step` says which steps can bring about that a record is not.
-/

set_option autoImplicit false

namespace ExoBrain
namespace Api

open Core
open Core.RunRegistry (Counted Writes)
open ExoBrain.Runtime (Transport)

/-! ## Streams -/

/-- The turn is one of the tenant, and has not finished. -/
def Turn.isLive (tenantId : String) (turn : Turn) : Bool :=
  turn.key.1 = tenantId && turn.phase ≠ .done

/-- The turn streams of a tenant that are started and not finished. -/
def TurnSystem.live (tenantId : String) (s : TurnSystem) : List Turn :=
  s.turns.filter (Turn.isLive tenantId)

/-- A turn that is started is not done. -/
theorem isLive_newTurn (transport : Transport) (c : Nat) (start : RunStart) (tenantId : String) :
    (TurnSystem.newTurn transport c start).isLive tenantId =
      decide (start.tenantId = tenantId) := by
  cases transport <;> simp [Turn.isLive, TurnSystem.newTurn]

/-- No stream is added where no turn is. -/
theorem Evolves.sublist {before after : List Turn} (h : Evolves before after) (tenantId : String) :
    ((after.filter (Turn.isLive tenantId)).map Turn.key).Sublist
      ((before.filter (Turn.isLive tenantId)).map Turn.key) := by
  induction h with
  | nil => exact List.Sublist.refl []
  | @cons b a bs as hfirst hrest ih =>
    rw [List.filter_cons, List.filter_cons]
    by_cases hlive : a.isLive tenantId = true
    · have hbefore : b.isLive tenantId = true := by
        simp only [Turn.isLive, Bool.and_eq_true, decide_eq_true_eq] at hlive ⊢
        rw [hfirst.1] at hlive
        exact ⟨hlive.1, fun hdone ↦ hlive.2 (hfirst.2 hdone)⟩
      rw [if_pos hlive, if_pos hbefore, List.map_cons, List.map_cons, hfirst.1]
      exact ih.cons_cons b.key
    · rw [if_neg hlive]
      split
      · exact ih.cons b.key
      · exact ih

section
variable (limits : TurnLimits) (tenantId : String)

/-! ## What closes a record -/

/-- **What takes a stream out of the count**: its turn finishes, or a cancellation from outside. -/
theorem counted_step {s : TurnSystem} (hfiled : s.registry.Filed) {input : TurnInput}
    {key : RunKey} (hmay : ¬MayMark limits s input key) (hcounted : Counted key s.registry) :
    Counted key (s.step limits input).2.registry := by
  rcases step_cases limits s input with ⟨-, hwrites⟩ | ⟨transport, c, start, now, -, -, heq, -⟩
  · exact hwrites.counted hfiled hmay hcounted
  · rw [heq]
    exact hcounted.after hfiled id

/-! ## The limit -/

/-- A turn of the tenant is admitted only under a run id that none of its streams has, and while
the record of each of them is active. -/
def SeesStreams (s : TurnSystem) (input : TurnInput) : Prop :=
  ∀ start, Submits s input start → start.tenantId = tenantId →
    s.overLimit limits tenantId = false →
    ∀ turn ∈ s.live tenantId,
      turn.key ≠ (start.tenantId, start.runId) ∧ Counted turn.key s.registry

/-- The streams of the tenant are within the limit, and no two of them have the same run id. -/
structure WithinLimit (s : TurnSystem) : Prop where
  filed : s.registry.Filed
  distinct : ((s.live tenantId).map Turn.key).Nodup
  within : ((s.live tenantId).length : Int) ≤ limits.maxActiveRunsPerTenant

variable {limits tenantId}

/-- **One step.** -/
theorem WithinLimit.step {s : TurnSystem} (h : WithinLimit limits tenantId s)
    (hlimit : 0 < limits.maxActiveRunsPerTenant) {input : TurnInput}
    (hsees : SeesStreams limits tenantId s input) :
    WithinLimit limits tenantId (s.step limits input).2 := by
  rcases step_cases limits s input with ⟨hevolves, hwrites⟩ | ⟨transport, c, start, now, hsubmits,
    hunder, hregistry, hturns⟩
  · have hsub := hevolves.sublist tenantId
    have hlength := hsub.length_le
    rw [List.length_map, List.length_map] at hlength
    exact ⟨hwrites.filed h.filed, h.distinct.sublist hsub,
      Int.le_trans (Int.ofNat_le.mpr hlength) h.within⟩
  · have hfiled : (s.step limits input).2.registry.Filed := by
      rw [hregistry]
      exact h.filed.after limits.run _
    have hlive : (s.step limits input).2.live tenantId = s.live tenantId ++
        [TurnSystem.newTurn transport c start].filter (Turn.isLive tenantId) := by
      rw [TurnSystem.live, hturns, List.filter_append]
      rfl
    by_cases htenant : start.tenantId = tenantId
    · subst htenant
      have hstreams := hsees start hsubmits rfl hunder
      rw [List.filter_cons_of_pos (by simp [isLive_newTurn]), List.filter_nil] at hlive
      have hkeys : ∀ key ∈ (s.live start.tenantId).map Turn.key,
          key.1 = start.tenantId ∧ Counted key s.registry := by
        intro key hkey
        obtain ⟨turn, hturn, rfl⟩ := List.mem_map.mp hkey
        have howner := (List.mem_filter.mp hturn).2
        simp only [Turn.isLive, Bool.and_eq_true, decide_eq_true_eq] at howner
        exact ⟨howner.1, (hstreams turn hturn).2⟩
      have hcount := RunRegistry.length_le_countActiveRuns h.filed h.distinct hkeys
      rw [List.length_map] at hcount
      refine ⟨hfiled, ?_, ?_⟩
      · rw [hlive, List.map_append, List.nodup_append]
        refine ⟨h.distinct, List.nodup_singleton _, ?_⟩
        rintro key hkey key' hkey' rfl
        obtain ⟨turn, hturn, hsame⟩ := List.mem_map.mp hkey
        exact (hstreams turn hturn).1 (hsame.trans (List.mem_singleton.mp hkey'))
      · rw [hlive, List.length_append, List.length_singleton]
        simp only [TurnSystem.overLimit, Bool.and_eq_false_iff, decide_eq_false_iff_not] at hunder
        omega
    · rw [List.filter_cons_of_neg (by simp [isLive_newTurn, htenant]), List.filter_nil,
        List.append_nil] at hlive
      refine ⟨hfiled, ?_, ?_⟩
      · rw [hlive]
        exact h.distinct
      · rw [hlive]
        exact h.within

/-- A process opens the registry of its settings: the empty one in memory, or the tables there
are. -/
def openRegistry : Option SQLiteRunControlRegistry → RunRegistry
  | none => .memory .initial
  | some tables => .sqlite tables

variable (limits tenantId)

/-- **The limit holds in every run that sees its streams.**  In every state of a run of a process,
the streams of a tenant are no more than the limit, if whenever a turn of the tenant is admitted its
run id is not the one of a stream, and the record of each stream is active. -/
theorem live_within_limit (hlimit : 0 < limits.maxActiveRunsPerTenant)
    (database : Option SQLiteRunControlRegistry) {inputs : List TurnInput}
    (hsees : Run.Along (TurnSystem.step limits) (SeesStreams limits tenantId)
      { registry := openRegistry database } inputs) {done : List TurnInput}
    (hdone : done <+: inputs) :
    ((Run.exec (TurnSystem.step limits) { registry := openRegistry database } done).live
      tenantId).length ≤ limits.maxActiveRunsPerTenant := by
  obtain ⟨rest, rfl⟩ := hdone
  have hinitial : WithinLimit limits tenantId { registry := openRegistry database } := by
    refine ⟨?_, List.nodup_nil, Int.le_of_lt hlimit⟩
    cases database with
    | none => exact RunControlRegistry.filed_initial
    | some tables => trivial
  exact (Run.exec_invariant (fun _ _ hok h ↦ h.step hlimit hok) (Run.along_append.mp hsees).1
    hinitial).within

end

/-- A run of a tenant, as the SSE handler starts it. -/
def sseRun (runId : String) : RunStart := ⟨"t", "sess", runId, runId, "sse"⟩

/-- Two streams, and a third one after the first. -/
def threeRuns : List TurnInput :=
  [.submit .sse 0 (sseRun "run-1") 1, .resume 0 .began (fun _ ↦ false) fun _ ↦ 2,
    .submit .sse 0 (sseRun "run-2") 3,
    .resume 0 (.event { event := "run_complete" }) (fun _ ↦ false) fun _ ↦ 4,
    .resume 0 .sent (fun _ ↦ false) fun _ ↦ 5, .resume 0 .ended (fun _ ↦ false) fun _ ↦ 6,
    .submit .openaiCompat 0 (sseRun "run-3") 7]

theorem live_within_limit_threeRuns :
    let limits : TurnLimits := { maxActiveRunsPerTenant := 2 }
    ((Run.exec (TurnSystem.step limits) { registry := openRegistry none } threeRuns).live
      "t").length ≤ limits.maxActiveRunsPerTenant := by
  refine live_within_limit { maxActiveRunsPerTenant := 2 } "t" (by decide) none ?_
    (List.prefix_refl threeRuns)
  refine ⟨?_, ?_, ?_, ?_, ?_, ?_, ?_, trivial⟩
  all_goals
    rintro start ⟨transport, c, now, heq, -⟩ - -
    cases heq
  · decide
  · decide
  · decide

/-- A client that submits three turns with one correlation id. -/
def sameRunId : List TurnInput :=
  [.submit .sse 0 (sseRun "run-1") 1, .resume 0 .began (fun _ ↦ false) fun _ ↦ 2,
    .submit .sse 0 (sseRun "run-1") 3, .resume 1 .began (fun _ ↦ false) fun _ ↦ 4,
    .submit .sse 0 (sseRun "run-1") 5, .resume 2 .began (fun _ ↦ false) fun _ ↦ 6]

/-- An administrator who cancels a run with a tool call, and a client that submits two more. -/
def cancelledByAdmin : List TurnInput :=
  [.submit .sse 0 (sseRun "run-1") 1, .resume 0 .began (fun _ ↦ false) fun _ ↦ 2,
    .resume 0 (.event { event := "tool_call", callId := "call-1" }) (fun _ ↦ false) fun _ ↦ 3,
    .cancelRuntimeRun ("t", "run-1") (fun _ ↦ true) fun _ ↦ 4,
    .submit .sse 0 (sseRun "run-2") 5, .resume 1 .began (fun _ ↦ false) fun _ ↦ 6,
    .submit .sse 0 (sseRun "run-3") 7, .resume 2 .began (fun _ ↦ false) fun _ ↦ 8]

/-- Where two active runs are allowed, the one client has three streams, and so has the other. -/
theorem limit_exceeded :
    let limits : TurnLimits := { maxActiveRunsPerTenant := 2 }
    let after database :=
      Run.exec (TurnSystem.step limits) { registry := openRegistry database }
    let streams (s : TurnSystem) : List TurnPhase := (s.live "t").map Turn.phase
    (streams (after none sameRunId) = [.awaitingEvent, .awaitingEvent, .awaitingEvent] ∧
        (after none sameRunId).registry.countActiveRuns "t" = 1) ∧
      (streams (after (some .initial) sameRunId) =
          [.awaitingEvent, .awaitingEvent, .awaitingEvent] ∧
        (after (some .initial) sameRunId).registry.countActiveRuns "t" = 1) ∧
      streams (after (some .initial) cancelledByAdmin) =
          [.sending, .awaitingEvent, .awaitingEvent] ∧
        (after (some .initial) cancelledByAdmin).registry.countActiveRuns "t" = 2 := by
  decide

end Api
end ExoBrain
