import Mathlib.Data.List.TakeWhile
import ExoBrain.Core.Orchestrator

/-!
# Which tool intents a turn governs

An adapter asks for a tool call by emitting an event of type `TOOL_INTENT` that carries the call.
It may do so in the stream of the turn and in the stream that answers a batch of tool results.  A
turn *governs* an intent if it passes the call to `before_tool_call`, and lets the intent through to
its caller only after the policy allowed the call, provider-native execution was selected for it,
and it needs no deterministic envelope.

`Governed` says so of the log of a turn.  The log is read in stretches: what a turn does between
one emission and the next is its handling of the first.

`run_turn` governs every intent of the main stream (`Orchestrator.runTurn_transcript`: there are
six ways in which its log grows).  The events of a follow-up stream only pass the output policy,
whatever their type, so an intent among them reaches the caller unevaluated.  A turn is therefore
governed if and only if no follow-up stream in it emits an intent.
-/

set_option autoImplicit false

namespace ExoBrain
namespace Core

open Effects Effects.Prog

/-! ## What it means to be governed -/

/-- Is this the emission of an event? -/
def TurnAction.isEmission : TurnAction → Bool
  | .emitted .. => true
  | _ => false

/-- The tool call of an event that is yielded as an intent. -/
def TurnAction.yieldedIntent? : TurnAction → Option ToolCallContext
  | .yielded event => event.intent?
  | _ => none

/-- The actions before the next emission. -/
def handling (log : List TurnAction) : List TurnAction :=
  log.takeWhile fun a ↦ !a.isEmission

/-- Every emitted intent is evaluated while it is handled. -/
def Evaluated (log : List TurnAction) : Prop :=
  ∀ before followUp event after toolCall, log = before ++ .emitted followUp event :: after →
    event.intent? = some toolCall → .beforeToolCall toolCall ∈ handling after

/-- The actions so far are the handling of the event, and clear it for provider-native execution. -/
def Cleared (log : List TurnAction) (event : RuntimeEvent) (toolCall : ToolCallContext) : Prop :=
  ∃ before followUp stretch decision capabilityMap,
    log = before ++ .emitted followUp event :: stretch ∧
    (∀ a ∈ stretch, a.isEmission = false) ∧
    .decided toolCall decision ∈ stretch ∧ decision.decision = .allow ∧
    .capabilities capabilityMap ∈ stretch ∧
    selectExecutionMode toolCall capabilityMap decision = .providerNative ∧
    toolCall.isStateChanging = false ∧ toolCall.riskTier ≠ .high ∧ toolCall.riskTier ≠ .critical

/-- Every intent that is yielded was cleared. -/
def YieldsCleared (log : List TurnAction) : Prop :=
  ∀ before event after toolCall, log = before ++ .yielded event :: after →
    event.intent? = some toolCall → Cleared before event toolCall

/-- Every tool intent of the turn is governed. -/
structure Governed (log : List TurnAction) : Prop where
  evaluated : Evaluated log
  yieldsCleared : YieldsCleared log

/-! ## How the log of a turn grows -/

/-- An action that is neither an emission nor lets an intent through. -/
def TurnAction.Plain (a : TurnAction) : Prop := a.isEmission = false ∧ a.yieldedIntent? = none

/-- The logs of turns. -/
inductive Transcript : List TurnAction → Prop
  | start : Transcript []
  /-- Something that concerns no intent. -/
  | plain {l : List TurnAction} {a : TurnAction} :
    Transcript l → a.Plain → Transcript (l ++ [a])
  /-- Some other event. -/
  | other {l : List TurnAction} {followUp : Bool} {event : RuntimeEvent} :
    Transcript l → event.intent? = none → Transcript (l ++ [.emitted followUp event])
  /-- An intent of the main stream, up to its evaluation. -/
  | evaluated {l mid : List TurnAction} {event : RuntimeEvent} {toolCall : ToolCallContext} :
    Transcript l → event.intent? = some toolCall → (∀ a ∈ mid, a.Plain) →
    Transcript (l ++ .emitted false event :: (mid ++ [.beforeToolCall toolCall]))
  /-- An intent of the main stream that was cleared. -/
  | cleared {l : List TurnAction} {event : RuntimeEvent} {toolCall : ToolCallContext} :
    Transcript l → event.intent? = some toolCall → Cleared l event toolCall →
    Transcript (l ++ [.yielded event])
  /-- An intent of a follow-up stream. -/
  | followUp {l : List TurnAction} {event : RuntimeEvent} {toolCall : ToolCallContext} :
    Transcript l → event.intent? = some toolCall →
    Transcript (l ++ [.emitted true event, .yielded event])

theorem Transcript.plains {l mid : List TurnAction} (h : Transcript l)
    (hmid : ∀ a ∈ mid, a.Plain) : Transcript (l ++ mid) := by
  induction mid generalizing l with
  | nil => rwa [List.append_nil]
  | cons a mid ih =>
    rw [← List.singleton_append, ← List.append_assoc]
    exact ih (h.plain (hmid a (List.mem_cons_self ..))) fun b hb ↦
      hmid b (List.mem_cons_of_mem _ hb)

/-! ## Which of these logs are governed -/

theorem mem_handling_append {log more : List TurnAction} {a : TurnAction} (h : a ∈ handling log) :
    a ∈ handling (log ++ more) := by
  induction log with
  | nil => exact absurd h List.not_mem_nil
  | cons b log ih =>
    rw [List.cons_append, handling, List.takeWhile_cons]
    rw [handling, List.takeWhile_cons] at h
    cases hb : b.isEmission
    · rw [hb] at h
      rcases List.mem_cons.mp h with rfl | h
      · exact List.mem_cons_self ..
      · exact List.mem_cons_of_mem _ (ih h)
    · rw [hb] at h
      exact absurd h List.not_mem_nil

theorem handling_eq_self {log : List TurnAction} (h : ∀ a ∈ log, a.isEmission = false) :
    handling log = log := by
  rw [handling, List.takeWhile_eq_self_iff]
  intro a ha
  rw [h a ha, Bool.not_false]

theorem Evaluated.append {log more : List TurnAction} (h : Evaluated log) (hm : Evaluated more) :
    Evaluated (log ++ more) := by
  intro before followUp event after toolCall heq hintent
  rcases List.append_eq_append_iff.mp heq with ⟨mid, hbefore, hmore⟩ | ⟨mid, hlog, hmore⟩
  · exact hm mid followUp event after toolCall hmore hintent
  · rcases mid with _ | ⟨a, mid⟩
    · rw [List.nil_append] at hmore
      exact hm [] followUp event after toolCall hmore.symm hintent
    · obtain ⟨rfl, rfl⟩ := List.cons.inj hmore
      exact mem_handling_append (h before followUp event mid toolCall hlog hintent)

theorem YieldsCleared.append {log more : List TurnAction} (h : YieldsCleared log)
    (hm : ∀ a ∈ more, a.yieldedIntent? = none) : YieldsCleared (log ++ more) := by
  intro before event after toolCall heq hintent
  have hnot (mid : List TurnAction) (hmore : more = mid ++ .yielded event :: after) : False := by
    have hnone := hm (.yielded event) (hmore ▸ List.mem_append_right _ (List.mem_cons_self ..))
    rw [TurnAction.yieldedIntent?, hintent] at hnone
    cases hnone
  rcases List.append_eq_append_iff.mp heq with ⟨mid, hbefore, hmore⟩ | ⟨mid, hlog, hmore⟩
  · exact (hnot mid hmore).elim
  · rcases mid with _ | ⟨a, mid⟩
    · exact (hnot [] hmore.symm).elim
    · obtain ⟨rfl, rfl⟩ := List.cons.inj hmore
      exact h before event mid toolCall hlog hintent

theorem Evaluated.of_plain {log : List TurnAction} (h : ∀ a ∈ log, a.isEmission = false) :
    Evaluated log := by
  intro before followUp event after toolCall heq _
  have hnot := h (.emitted followUp event) (heq ▸ List.mem_append_right _ (List.mem_cons_self ..))
  cases hnot

theorem Evaluated.intent {mid : List TurnAction} {followUp : Bool} {event : RuntimeEvent}
    {toolCall : ToolCallContext} (hintent : event.intent? = some toolCall)
    (hmid : ∀ a ∈ mid, a.isEmission = false) :
    Evaluated (.emitted followUp event :: (mid ++ [.beforeToolCall toolCall])) := by
  have hstretch : ∀ a ∈ mid ++ [.beforeToolCall toolCall], a.isEmission = false := by
    intro a ha
    rcases List.mem_append.mp ha with ha | ha
    · exact hmid a ha
    · rw [List.mem_singleton.mp ha]
      rfl
  intro before followUp' event' after toolCall' heq hintent'
  rcases before with _ | ⟨b, before⟩
  · obtain ⟨hhead, rfl⟩ := List.cons.inj heq
    obtain ⟨rfl, rfl⟩ := TurnAction.emitted.inj hhead
    obtain rfl := Option.some.inj (hintent.symm.trans hintent')
    rw [handling_eq_self hstretch]
    exact List.mem_append_right _ (List.mem_singleton_self _)
  · have hin := hstretch (.emitted followUp' event')
      ((List.cons.inj heq).2 ▸ List.mem_append_right _ (List.mem_cons_self ..))
    cases hin

/-- **A turn without intents in its follow-up streams is governed.** -/
theorem Transcript.governed {log : List TurnAction} (h : Transcript log)
    (hnone : ∀ event, .emitted true event ∈ log → event.intent? = none) : Governed log := by
  induction h with
  | start =>
    exact ⟨Evaluated.of_plain fun _ h ↦ absurd h List.not_mem_nil,
      fun before event after _ heq _ ↦ absurd heq.symm (by simp)⟩
  | @plain l a _ ha ih =>
    have hl := ih fun event h ↦ hnone event (List.mem_append_left _ h)
    refine ⟨hl.evaluated.append (Evaluated.of_plain ?_), hl.yieldsCleared.append ?_⟩
    · intro b hb
      rw [List.mem_singleton.mp hb]
      exact ha.1
    · intro b hb
      rw [List.mem_singleton.mp hb]
      exact ha.2
  | @other l followUp event _ hintent ih =>
    have hl := ih fun event h ↦ hnone event (List.mem_append_left _ h)
    refine ⟨hl.evaluated.append ?_, hl.yieldsCleared.append ?_⟩
    · intro before followUp' event' after toolCall heq hintent'
      have hmem : TurnAction.emitted followUp' event' ∈ [TurnAction.emitted followUp event] :=
        heq ▸ List.mem_append_right _ (List.mem_cons_self ..)
      obtain ⟨-, rfl⟩ := TurnAction.emitted.inj (List.mem_singleton.mp hmem)
      rw [hintent] at hintent'
      cases hintent'
    · intro b hb
      rw [List.mem_singleton.mp hb]
      rfl
  | @evaluated l mid event toolCall _ hintent hmid ih =>
    have hl := ih fun event h ↦ hnone event (List.mem_append_left _ h)
    refine ⟨hl.evaluated.append (Evaluated.intent hintent fun a ha ↦ (hmid a ha).1),
      hl.yieldsCleared.append ?_⟩
    intro b hb
    rcases List.mem_cons.mp hb with rfl | hb
    · rfl
    · rcases List.mem_append.mp hb with hb | hb
      · exact (hmid b hb).2
      · rw [List.mem_singleton.mp hb]
        rfl
  | @cleared l event toolCall _ hintent hcleared ih =>
    have hl := ih fun event h ↦ hnone event (List.mem_append_left _ h)
    refine ⟨hl.evaluated.append (Evaluated.of_plain ?_), ?_⟩
    · intro b hb
      rw [List.mem_singleton.mp hb]
      rfl
    · intro before event' after toolCall' heq hintent'
      rcases List.eq_nil_or_concat after with rfl | ⟨after, a, rfl⟩
      · obtain ⟨rfl, hlast⟩ := List.append_inj' heq rfl
        obtain rfl := TurnAction.yielded.inj (List.cons.inj hlast).1
        obtain rfl := Option.some.inj (hintent.symm.trans hintent')
        exact hcleared
      · rw [List.concat_eq_append, ← List.cons_append, ← List.append_assoc] at heq
        exact hl.yieldsCleared before event' after toolCall' (List.append_inj' heq rfl).1 hintent'
  | @followUp l event toolCall _ hintent _ =>
    have hnot := hnone event (List.mem_append_right _ (List.mem_cons_self ..))
    rw [hintent] at hnot
    cases hnot

/-- An intent of a follow-up stream is yielded at once. -/
theorem Transcript.yielded_at_once {log : List TurnAction} (h : Transcript log)
    {event : RuntimeEvent} {toolCall : ToolCallContext} (hmem : .emitted true event ∈ log)
    (hintent : event.intent? = some toolCall) :
    ∃ before after, log = before ++ .emitted true event :: .yielded event :: after := by
  have hlater {l more : List TurnAction}
      (h : ∃ before after, l = before ++ .emitted true event :: .yielded event :: after) :
      ∃ before after, l ++ more = before ++ .emitted true event :: .yielded event :: after := by
    obtain ⟨before, after, rfl⟩ := h
    exact ⟨before, after ++ more, by simp⟩
  induction h with
  | start => exact absurd hmem List.not_mem_nil
  | @plain l a _ ha ih =>
    rcases List.mem_append.mp hmem with hmem | hmem
    · exact hlater (ih hmem)
    · rw [← List.mem_singleton.mp hmem] at ha
      exact absurd ha.1 (by simp [TurnAction.isEmission])
  | @other l followUp event' _ hintent' ih =>
    rcases List.mem_append.mp hmem with hmem | hmem
    · exact hlater (ih hmem)
    · obtain ⟨-, rfl⟩ := TurnAction.emitted.inj (List.mem_singleton.mp hmem)
      rw [hintent'] at hintent
      cases hintent
  | @evaluated l mid event' toolCall' _ _ hmid ih =>
    rcases List.mem_append.mp hmem with hmem | hmem
    · exact hlater (ih hmem)
    · rcases List.mem_cons.mp hmem with hmem | hmem
      · cases hmem
      · rcases List.mem_append.mp hmem with hmem | hmem
        · exact absurd (hmid _ hmem).1 (by simp [TurnAction.isEmission])
        · cases List.mem_singleton.mp hmem
  | @cleared l event' toolCall' _ _ _ ih =>
    rcases List.mem_append.mp hmem with hmem | hmem
    · exact hlater (ih hmem)
    · cases List.mem_singleton.mp hmem
  | @followUp l event' toolCall' _ _ ih =>
    rcases List.mem_append.mp hmem with hmem | hmem
    · exact hlater (ih hmem)
    · rcases List.mem_cons.mp hmem with hmem | hmem
      · obtain ⟨-, rfl⟩ := TurnAction.emitted.inj hmem
        exact ⟨l, [], rfl⟩
      · cases List.mem_singleton.mp hmem

/-- Right after its emission nothing is cleared. -/
theorem not_cleared_of_emission {before : List TurnAction} {followUp : Bool}
    {event event' : RuntimeEvent} {toolCall : ToolCallContext} :
    ¬ Cleared (before ++ [.emitted followUp event]) event' toolCall := by
  rintro ⟨before', followUp', stretch, decision, capabilityMap, heq, hstretch, hdecided, -⟩
  rcases List.eq_nil_or_concat stretch with rfl | ⟨stretch, a, rfl⟩
  · exact absurd hdecided List.not_mem_nil
  · rw [List.concat_eq_append] at heq hstretch
    rw [← List.cons_append, ← List.append_assoc] at heq
    obtain rfl := (List.cons.inj (List.append_inj' heq rfl).2).1
    have hnot := hstretch _ (List.mem_append_right _ (List.mem_singleton_self _))
    cases hnot

/-- **A governed turn has no intents in its follow-up streams.** -/
theorem Transcript.intent?_eq_none {log : List TurnAction} (h : Transcript log)
    (hgoverned : Governed log) {event : RuntimeEvent} (hmem : .emitted true event ∈ log) :
    event.intent? = none := by
  rcases hintent : event.intent? with _ | toolCall
  · rfl
  · obtain ⟨before, after, rfl⟩ := h.yielded_at_once hmem hintent
    have hsplit : before ++ .emitted true event :: .yielded event :: after =
        (before ++ [.emitted true event]) ++ .yielded event :: after := by simp
    exact absurd (hgoverned.yieldsCleared _ event after toolCall hsplit hintent)
      not_cleared_of_emission

/-! ## The log of `run_turn` -/

namespace Orchestrator

variable {σ : Type} (contracts : Contracts) (host : TurnHost σ) (sessionId : String) (fuel : Nat)

/-- However a program ends, its log is one of a turn. -/
def Ended {α : Type} : Ending α → List TurnAction → σ → Prop := fun _ l _ ↦ Transcript l

/-- The output policy leaves the type and the tool call of an event alone. -/
theorem wp_applyOutputPolicy {event : RuntimeEvent} {β : Type}
    {g : RuntimeEvent → Prog σ TurnAction β} {Q : Ending β → List TurnAction → σ → Prop}
    {l : List TurnAction} {s : σ}
    (hreturned : ∀ event' s, event'.intent? = event.intent? →
      (event.eventType = .toolIntent → event' = event) → wp (g event') Q l s)
    (hraised : ∀ s, event.eventType ≠ .toolIntent → Q .raised l s) :
    wp (applyOutputPolicy host event >>= g) Q l s := by
  rw [applyOutputPolicy]
  split
  · rename_i htype
    have hne : event.eventType ≠ .toolIntent := by
      rcases htype with h | h <;> rw [h] <;> decide
    rw [wp_bind]
    refine wp_bind_call (fun payload s ↦ ?_) (fun s ↦ hraised s hne)
    rw [wp_pure]
    exact hreturned _ s rfl fun h ↦ absurd h hne
  · rw [wp_bind, wp_pure]
    exact hreturned event s rfl fun _ ↦ rfl

theorem eventType_of_intent? {event : RuntimeEvent} {toolCall : ToolCallContext}
    (h : event.intent? = some toolCall) : event.eventType = .toolIntent := by
  rw [RuntimeEvent.intent?] at h
  split at h
  · assumption
  · cases h

theorem wp_relayFollowUps (results : List ToolResult) {l : List TurnAction} {s : σ}
    (h : Transcript l) : wp (relayFollowUps host fuel results) Ended l s := by
  rw [relayFollowUps, wp_bind_act]
  have hsubmitted : Transcript (l ++ [.submitted results]) := h.plain ⟨rfl, rfl⟩
  refine wp_bind_call (fun _ s ↦ ?_) (fun _ ↦ hsubmitted)
  refine wp_repeatUntil (I := fun l _ ↦ Transcript l) (fun l s hl ↦ ?_) (fun _ _ hl ↦ hl) fuel
    hsubmitted
  refine wp_bind_call (fun next s ↦ ?_) (fun _ ↦ hl)
  rcases next with _ | followUp
  · rw [wp_pure]
    exact hl
  · rw [wp_bind_act]
    rcases hintent : followUp.intent? with _ | toolCall
    · have hemitted : Transcript (l ++ [.emitted true followUp]) := hl.other hintent
      refine wp_applyOutputPolicy host (fun event s hsame _ ↦ ?_) (fun _ _ ↦ hemitted)
      rw [wp_bind_act, wp_pure]
      exact hemitted.plain ⟨rfl, hsame.trans hintent⟩
    · have htype := eventType_of_intent? hintent
      refine wp_applyOutputPolicy host (fun event s _ hsame ↦ ?_) (fun _ hne ↦ absurd htype hne)
      rw [wp_bind_act, wp_pure, hsame htype, List.append_assoc]
      exact hl.followUp hintent

/-- An event of the contracts package that reports progress is no intent. -/
theorem plain_toolProgress (event : RuntimeEvent) (progress : ToolProgress) :
    (TurnAction.yielded (contracts.toolProgress sessionId event.runId event.correlationId
      progress)).Plain := by
  refine ⟨rfl, ?_⟩
  rw [TurnAction.yieldedIntent?, RuntimeEvent.intent?, contracts.toolProgress_type]
  rfl

/-- Progress may be yielded, or not. -/
theorem wp_yieldProgress {event : RuntimeEvent} {progress : ToolProgress} {β : Type}
    {g : Prog σ TurnAction β} {Q : Ending β → List TurnAction → σ → Prop}
    {l : List TurnAction} {s : σ}
    (h : ∀ mid, (∀ a ∈ mid, a.Plain) → wp g Q (l ++ mid) s) (useAdapterProgress : Bool) :
    wp (do
      if !useAdapterProgress then yieldProgress contracts sessionId event progress
      g) Q l s := by
  cases useAdapterProgress
  · change wp (yieldProgress contracts sessionId event progress >>= fun _ ↦ g) Q l s
    rw [yieldProgress, wp_bind_act]
    refine h [_] fun a ha ↦ ?_
    rw [List.mem_singleton.mp ha]
    exact plain_toolProgress contracts sessionId event progress
  · have hnil := h [] fun a ha ↦ absurd ha List.not_mem_nil
    rw [List.append_nil] at hnil
    exact hnil

theorem wp_handleDenied {event : RuntimeEvent} {toolCall : ToolCallContext}
    {useAdapterProgress : Bool} {l : List TurnAction} {s : σ} (h : Transcript l) :
    wp (handleDenied contracts host sessionId fuel event toolCall useAdapterProgress) Ended l s := by
  rw [handleDenied, wp_bind_act]
  have hexecuted : Transcript (l ++ [.executed toolCall]) := h.plain ⟨rfl, rfl⟩
  refine wp_bind_call (fun blocked s ↦ ?_) (fun _ ↦ hexecuted)
  exact wp_yieldProgress contracts sessionId
    (fun mid hmid ↦ wp_relayFollowUps host fuel [blocked] (hexecuted.plains hmid)) _

theorem wp_forM_yieldProgress {event : RuntimeEvent} {β : Type}
    {g : Prog σ TurnAction β} {Q : Ending β → List TurnAction → σ → Prop} {s : σ}
    (h : ∀ l, Transcript l → wp g Q l s) (drained : List ToolProgress) {l : List TurnAction}
    (hl : Transcript l) :
    wp (drained.forM (fun progress ↦ yieldProgress (σ := σ) contracts sessionId event progress)
      >>= fun _ ↦ g) Q l s := by
  induction drained generalizing l with
  | nil =>
    rw [List.forM, wp_bind, wp_pure]
    exact h l hl
  | cons progress drained ih =>
    rw [List.forM, wp_bind, wp_bind, yieldProgress, wp_act, ← wp_bind]
    exact ih (hl.plain (plain_toolProgress contracts sessionId event progress))

theorem wp_handleDeterministic {event : RuntimeEvent} {toolCall : ToolCallContext}
    {useAdapterProgress : Bool} {l : List TurnAction} {s : σ} (h : Transcript l) :
    wp (handleDeterministic contracts host sessionId fuel event toolCall useAdapterProgress)
      Ended l s := by
  rw [handleDeterministic]
  refine wp_yieldProgress contracts sessionId (fun mid hmid ↦ ?_) _
  rw [wp_bind_act]
  have hexecuted : Transcript (l ++ mid ++ [.executed toolCall]) :=
    (h.plains hmid).plain ⟨rfl, rfl⟩
  refine wp_bind_call (fun result s ↦ ?_) (fun _ ↦ hexecuted)
  -- the terminal progress event, and what the adapter says to the result
  have hrest (drained : List ToolProgress) {l : List TurnAction} {s : σ} (hl : Transcript l) :
      wp (do
        drained.forM fun progress ↦ yieldProgress contracts sessionId event progress
        if drained = [] then
          yieldProgress contracts sessionId event ⟨toolCall.callId, toolCall.toolName,
            terminalToolState result.status, result.status.value, result.errorCode, "", "", "", ""⟩
        relayFollowUps host fuel [result]) Ended l s := by
    refine wp_forM_yieldProgress contracts sessionId (fun l hl ↦ ?_) drained hl
    by_cases hempty : drained = []
    · rw [if_pos hempty, yieldProgress, wp_bind_act]
      exact wp_relayFollowUps host fuel [result] (hl.plain (plain_toolProgress ..))
    · rw [if_neg hempty]
      exact wp_relayFollowUps host fuel [result] hl
  cases useAdapterProgress
  · rw [if_neg (by decide), wp_bind, wp_pure]
    exact hrest [] hexecuted
  · rw [if_pos rfl]
    exact wp_bind_call (fun drained s ↦ hrest drained hexecuted) (fun _ ↦ hexecuted)

theorem wp_handleProviderNative {event : RuntimeEvent} {toolCall : ToolCallContext}
    {l : List TurnAction} {s : σ} (h : Transcript l) (hintent : event.intent? = some toolCall)
    (hcleared : requiresDeterministicEnvelope toolCall = false → Cleared l event toolCall) :
    wp (handleProviderNative contracts host fuel event toolCall) Ended l s := by
  rw [handleProviderNative]
  split
  · exact wp_relayFollowUps host fuel _ h
  · rename_i henvelope
    have htype := eventType_of_intent? hintent
    refine wp_applyOutputPolicy host (fun event' s _ hsame ↦ ?_) (fun _ hne ↦ absurd htype hne)
    rw [wp_act, hsame htype]
    exact h.cleared hintent (hcleared (Bool.eq_false_iff.mpr henvelope))

/-- The handling of an intent of the main stream. -/
theorem wp_handleIntent {event : RuntimeEvent} {toolCall : ToolCallContext}
    {l : List TurnAction} {s : σ} (h : Transcript l) (hintent : event.intent? = some toolCall) :
    wp (handleIntent contracts host sessionId fuel event toolCall) Ended
      (l ++ [.emitted false event]) s := by
  rw [handleIntent, wp_bind, wp_call]
  refine wp_yieldProgress contracts sessionId (fun mid hmid ↦ ?_) _
  rw [wp_bind_act]
  have hevaluated : Transcript (l ++ [.emitted false event] ++ mid ++
      [.beforeToolCall toolCall]) := by
    simpa using h.evaluated hintent hmid
  refine wp_bind_call (fun decision s ↦ ?_) (fun _ ↦ hevaluated)
  rw [wp_bind_act]
  have hdecided := hevaluated.plain (a := .decided toolCall decision) ⟨rfl, rfl⟩
  split
  · exact wp_handleDenied contracts host sessionId fuel hdecided
  · rename_i hallow
    refine wp_bind_call (fun capabilityMap s ↦ ?_) (fun _ ↦ hdecided)
    rw [wp_bind_act]
    have hcapabilities := hdecided.plain (a := .capabilities capabilityMap) ⟨rfl, rfl⟩
    split
    · exact wp_handleDeterministic contracts host sessionId fuel hcapabilities
    · rename_i hmode
      refine wp_handleProviderNative contracts host fuel hcapabilities hintent fun henvelope ↦ ?_
      refine ⟨l, false, mid ++ [.beforeToolCall toolCall, .decided toolCall decision,
        .capabilities capabilityMap], decision, capabilityMap, by simp, ?_, by simp,
        not_not.mp hallow, by simp, ?_, ?_⟩
      · intro a ha
        rcases List.mem_append.mp ha with ha | ha
        · exact (hmid a ha).1
        · simp only [List.mem_cons, List.not_mem_nil, or_false] at ha
          rcases ha with rfl | rfl | rfl <;> rfl
      · cases hchosen : selectExecutionMode toolCall capabilityMap decision
        · exact absurd hchosen hmode
        · rfl
      · simpa [requiresDeterministicEnvelope, and_assoc] using henvelope

theorem wp_handleEvent {event : RuntimeEvent} {l : List TurnAction} {s : σ} (h : Transcript l) :
    wp (handleEvent contracts host sessionId fuel event) Ended l s := by
  rw [handleEvent, wp_bind_act]
  rcases hintent : event.intent? with _ | toolCall
  · have hemitted : Transcript (l ++ [.emitted false event]) := h.other hintent
    refine wp_applyOutputPolicy host (fun event' s hsame _ ↦ ?_) (fun _ _ ↦ hemitted)
    rw [wp_act]
    exact hemitted.plain ⟨rfl, hsame.trans hintent⟩
  · exact wp_handleIntent contracts host sessionId fuel h hintent

/-- The log of a turn is a transcript, however its parties behave and however it ends. -/
theorem runTurn_transcript (runId correlationId : String) (s : σ) :
    Transcript ((runTurn contracts host sessionId fuel runId correlationId).log s) := by
  have hwp : wp (runTurn contracts host sessionId fuel runId correlationId) Ended [] s := by
    rw [runTurn]
    refine wp_bind_call (fun problem s ↦ ?_) (fun _ ↦ Transcript.start)
    rcases problem with _ | ⟨code, message⟩
    · refine wp_bind_call (fun _ s ↦ ?_) (fun _ ↦ Transcript.start)
      refine wp_repeatUntil (I := fun l _ ↦ Transcript l) (fun l s hl ↦ ?_) (fun _ _ hl ↦ hl) fuel
        Transcript.start
      refine wp_bind_call (fun next s ↦ ?_) (fun _ ↦ hl)
      rcases next with _ | event
      · rw [wp_pure]
        exact hl
      · rw [wp_bind]
        refine wp_mono (wp_handleEvent contracts host sessionId fuel hl) fun ended l s hl ↦ ?_
        rcases ended with _ | _ | _
        · rw [wp_pure]
          exact hl
        · exact hl
        · exact hl
    · rw [wp_act]
      refine Transcript.start.plain ⟨rfl, ?_⟩
      rw [TurnAction.yieldedIntent?, RuntimeEvent.intent?, contracts.error_type]
      rfl
  exact hwp

/-- **A turn governs every intent if and only if its follow-up streams emit none.** -/
theorem governed_iff (runId correlationId : String) (s : σ) :
    Governed ((runTurn contracts host sessionId fuel runId correlationId).log s) ↔
      ∀ event, .emitted true event ∈
        (runTurn contracts host sessionId fuel runId correlationId).log s →
        event.intent? = none := by
  have htranscript := runTurn_transcript contracts host sessionId fuel runId correlationId s
  constructor
  · intro hgoverned event hmem
    exact htranscript.intent?_eq_none hgoverned hmem
  · exact htranscript.governed

/-! ### An intent that nobody evaluates

The adapter asks for a harmless call, which the policy denies; told so, it asks for a critical one
instead. -/

/-- Factories that keep the ids and drop the texts. -/
def plainContracts : Contracts where
  toolProgress _ runId correlationId progress := ⟨.toolProgress, runId, correlationId, none,
    progress.state⟩
  error _ runId code _ correlationId := ⟨.error, runId, correlationId, none, code⟩
  blockedResult toolCall reasonCode _ := ⟨toolCall.callId, .blocked, reasonCode⟩
  toolProgress_type _ _ _ _ := rfl
  error_type _ _ _ _ _ := rfl

/-- The intent of a harmless call. -/
def readNotesIntent : RuntimeEvent :=
  { eventType := .toolIntent, runId := "run-1",
    toolCall := some { callId := "call-1", toolName := "read_notes" } }

/-- The call that is asked for when the first one was denied. -/
def dropTables : ToolCallContext :=
  { callId := "call-2", toolName := "drop_tables", isStateChanging := true, riskTier := .critical }

/-- The intent of that call. -/
def dropTablesIntent : RuntimeEvent :=
  { eventType := .toolIntent, runId := "run-1", toolCall := some dropTables }

/-- A host whose policy denies everything.  The state counts the events of the two streams. -/
def denyingHost : TurnHost (Nat × Nat) where
  applyAgentHandoff s := (some none, s)
  startSession s := (some (), s)
  nextEvent s :=
    if s.1 = 0 then (some (some readNotesIntent), (1, s.2)) else (some none, s)
  submitToolResults _ s := (some (), s)
  nextFollowUp s :=
    if s.2 = 0 then (some (some dropTablesIntent), (s.1, 1)) else (some none, s)
  getCapabilities s := (some ⟨false⟩, s)
  beforeToolCall _ s := (some ⟨.deny, none⟩, s)
  beforeOutput payload s := (some payload, s)
  execute toolCall s := (some ⟨toolCall.callId, .blocked, "POLICY_DENIED"⟩, s)
  adapterManagesProgressEvents s := (false, s)
  drainProgressEvents _ s := (some [], s)

/-- The turn ends normally, and has yielded a critical intent without asking the policy. -/
theorem follow_up_intent_ungoverned :
    (runTurn plainContracts denyingHost "session-1" 3 "run-1" "corr-1").ending (0, 0) =
        .returned () ∧
      .yielded dropTablesIntent ∈
        (runTurn plainContracts denyingHost "session-1" 3 "run-1" "corr-1").log (0, 0) ∧
      .beforeToolCall dropTables ∉
        (runTurn plainContracts denyingHost "session-1" 3 "run-1" "corr-1").log (0, 0) ∧
      ¬ Governed ((runTurn plainContracts denyingHost "session-1" 3 "run-1" "corr-1").log
        (0, 0)) := by
  refine ⟨by decide, by decide, by decide, fun hgoverned ↦ ?_⟩
  have hmem : .emitted true dropTablesIntent ∈
      (runTurn plainContracts denyingHost "session-1" 3 "run-1" "corr-1").log (0, 0) := by
    decide
  have hnone := (runTurn_transcript plainContracts denyingHost "session-1" 3 "run-1" "corr-1"
    (0, 0)).intent?_eq_none hgoverned hmem
  exact absurd hnone (by decide)

end Orchestrator

end Core
end ExoBrain
