import ExoBrain.Byoc.ConflictCounts
import ExoBrain.Byoc.ResultLaws

/-!
# What is left of conflicting results

When several results of a job are ingested before one is consumed, the strategy of the store says
which of them is kept.  `ingest` decides it for two at a time.

* `chosen` is the payload that a strategy selects among all results of a job: the first one, the last
  one, or the first successful one, if there is one.
* `get?_exec`: what the store holds for a job is the payload selected among the results that were
  ingested since a `consume` last took it away (`held`).
* `conflict_fold_iff`: the next `consume` returns the payload selected among all of them, and none
  after that, exactly if the job can be named to `consume` and nobody took the payload before.

`consume` strips the id it is given, and `ingest` files a result under the id as it came.  So a
result under an id with blanks around it is never found, and a `consume` that names a job with blanks
around its id takes its payload away.
-/

set_option autoImplicit false

namespace ExoBrain
namespace Byoc

open Text
open Run (exec exec_append Along)

/-! ## What the strategies select -/

/-- `str(status).strip().lower() == "success"`. -/
def ByocToolResultEnvelope.succeeded (result : ByocToolResultEnvelope) : Bool :=
  lower (strip result.status) = "success"

/-- The payload that the strategy selects. -/
def chosen (strategy : ByocResultConflictStrategy) (results : List ByocToolResultEnvelope) :
    Option ByocToolResultEnvelope :=
  match strategy with
  | .firstWriteWins => results.head?
  | .lastWriteWins => results.getLast?
  | .preferSuccess => (results.find? ByocToolResultEnvelope.succeeded).or results.head?

variable {strategy : ByocResultConflictStrategy}

theorem chosen_mem {results : List ByocToolResultEnvelope} {result : ByocToolResultEnvelope}
    (h : chosen strategy results = some result) : result ∈ results := by
  cases strategy with
  | firstWriteWins => exact List.mem_of_mem_head? h
  | lastWriteWins => exact List.mem_of_getLast? h
  | preferSuccess =>
    rcases Option.or_eq_some_iff.mp h with h | ⟨-, h⟩
    · exact List.mem_of_find?_eq_some h
    · exact List.mem_of_mem_head? h

theorem exists_chosen (strategy : ByocResultConflictStrategy)
    {results : List ByocToolResultEnvelope} (h : results ≠ []) :
    ∃ result, chosen strategy results = some result := by
  obtain ⟨first, rest, rfl⟩ := List.exists_cons_of_ne_nil h
  cases strategy with
  | firstWriteWins => exact ⟨first, rfl⟩
  | lastWriteWins => exact ⟨_, List.getLast?_cons⟩
  | preferSuccess =>
    cases hfind : (first :: rest).find? ByocToolResultEnvelope.succeeded with
    | none => exact ⟨first, by rw [chosen, hfind]; rfl⟩
    | some result => exact ⟨result, by rw [chosen, hfind]; rfl⟩

theorem resolveResultConflict_preferSuccess (existing incoming : ByocToolResultEnvelope) :
    resolveResultConflict existing incoming .preferSuccess =
      (incoming.succeeded && !existing.succeeded) := by
  rw [resolveResultConflict, ByocToolResultEnvelope.succeeded, ByocToolResultEnvelope.succeeded,
    decide_not]

/-- The selection is made by comparing each result with the one selected before it. -/
theorem chosen_concat (results : List ByocToolResultEnvelope) (incoming : ByocToolResultEnvelope) :
    chosen strategy (results ++ [incoming]) =
      match chosen strategy results with
      | none => some incoming
      | some existing =>
        if resolveResultConflict existing incoming strategy then some incoming else some existing := by
  cases strategy with
  | firstWriteWins => cases results <;> rfl
  | lastWriteWins =>
    rw [chosen, List.getLast?_concat, chosen]
    cases results.getLast? <;> rfl
  | preferSuccess =>
    rw [chosen, chosen, List.find?_append]
    cases hfind : results.find? ByocToolResultEnvelope.succeeded with
    | some existing =>
      have hsucceeded := List.find?_some hfind
      simp [resolveResultConflict_preferSuccess, hsucceeded]
    | none =>
      cases results with
      | nil => cases hincoming : incoming.succeeded <;> simp [hincoming]
      | cons existing results =>
        have hfailed : existing.succeeded = false :=
          Bool.eq_false_iff.mpr (List.find?_eq_none.mp hfind existing List.mem_cons_self)
        cases hincoming : incoming.succeeded <;>
          simp [resolveResultConflict_preferSuccess, hincoming, hfailed]

/-- **Leaving out the first results.**  If the results differ, the selection stays the same exactly
if the result that is selected is not left out. -/
theorem chosen_append_iff (strategy : ByocResultConflictStrategy)
    {dropped kept : List ByocToolResultEnvelope}
    (hne : dropped ++ kept ≠ []) (hnodup : (dropped ++ kept).Nodup) :
    chosen strategy kept = chosen strategy (dropped ++ kept) ↔
      ∃ result ∈ kept, chosen strategy (dropped ++ kept) = some result := by
  obtain ⟨result, hresult⟩ := exists_chosen strategy hne
  have hdisjoint := List.disjoint_of_nodup_append hnodup
  rw [hresult]
  constructor
  · exact fun h ↦ ⟨result, chosen_mem h, rfl⟩
  · rintro ⟨_, hkept, ⟨⟩⟩
    have hnot : result ∉ dropped := fun hmem ↦ hdisjoint hmem hkept
    cases strategy with
    | firstWriteWins =>
      cases dropped with
      | nil => exact hresult
      | cons first dropped =>
        obtain rfl := Option.some.inj hresult
        exact absurd List.mem_cons_self hnot
    | lastWriteWins =>
      rw [chosen, List.getLast?_append_of_ne_nil _ (List.ne_nil_of_mem hkept)] at hresult
      exact hresult
    | preferSuccess =>
      rw [chosen, List.find?_append] at hresult
      rw [chosen]
      cases hearly : dropped.find? ByocToolResultEnvelope.succeeded with
      | some early =>
        rw [hearly] at hresult
        obtain rfl := Option.some.inj hresult
        exact absurd (List.mem_of_find?_eq_some hearly) hnot
      | none =>
        rw [hearly, Option.none_or] at hresult
        cases hlate : kept.find? ByocToolResultEnvelope.succeeded with
        | some late => rwa [hlate] at hresult
        | none =>
          rw [hlate] at hresult
          cases dropped with
          | nil => exact hresult
          | cons first dropped =>
            obtain rfl := Option.some.inj hresult
            exact absurd List.mem_cons_self hnot

/-! ## What a store holds for a job -/

/-- The results that the calls ingest for a job. -/
def ingestedFor (jobId : String) (calls : List ResultCall) : List ByocToolResultEnvelope :=
  calls.filterMap fun
    | .ingest _ result => if result.jobId = jobId then some result else none
    | _ => none

/-- The call takes away the payload that is filed under the id. -/
def takes (jobId : String) : ResultCall → Bool
  | .consume given => strip given ≠ "" && strip given = jobId
  | _ => false

/-- The results that the calls ingest for a job, after the last one that takes its payload away. -/
def held (jobId : String) (calls : List ResultCall) : List ByocToolResultEnvelope :=
  calls.foldl (fun results c ↦ if takes jobId c then [] else results ++ ingestedFor jobId [c]) []

theorem jobId_of_mem_ingestedFor {jobId : String} {calls : List ResultCall}
    {result : ByocToolResultEnvelope} (h : result ∈ ingestedFor jobId calls) :
    result.jobId = jobId := by
  obtain ⟨c, -, hc⟩ := List.mem_filterMap.mp h
  split at hc
  · split at hc
    · rename_i hjob
      rw [← Option.some.inj hc, hjob]
    · cases hc
  · cases hc

theorem ingestedFor_append (jobId : String) (calls calls' : List ResultCall) :
    ingestedFor jobId (calls ++ calls') = ingestedFor jobId calls ++ ingestedFor jobId calls' :=
  List.filterMap_append

theorem held_concat (jobId : String) (calls : List ResultCall) (c : ResultCall) :
    held jobId (calls ++ [c]) =
      if takes jobId c then [] else held jobId calls ++ ingestedFor jobId [c] := by
  rw [held, List.foldl_append]
  rfl

theorem exists_dropped (jobId : String) (calls : List ResultCall) :
    ∃ dropped, ingestedFor jobId calls = dropped ++ held jobId calls := by
  induction calls using List.reverseRecOn with
  | nil => exact ⟨[], rfl⟩
  | append_singleton calls c ih =>
    obtain ⟨dropped, hdropped⟩ := ih
    rw [held_concat, ingestedFor_append, hdropped]
    split
    · exact ⟨_, (List.append_nil _).symm⟩
    · exact ⟨dropped, List.append_assoc ..⟩

instance (s : InMemoryByocResultStore) (key : String) : Decidable (s.seen key) :=
  inferInstanceAs (Decidable (key ∈ s.seenIdempotencyKeys))

/-- The results of a job are ingested under keys that are not blank, that the store has not seen, and
no two of which are the same. -/
structure IngestsApart (s : InMemoryByocResultStore) (jobId : String) (calls : List ResultCall) :
    Prop where
  nonblank : ∀ result ∈ ingestedFor jobId calls, strip result.idempotencyKey ≠ ""
  distinct : ((ingestedFor jobId calls).map fun result ↦ strip result.idempotencyKey).Nodup
  unseen : Along InMemoryByocResultStore.step
    (fun s c ↦ ∀ result ∈ ingestedFor jobId [c], ¬s.seen (strip result.idempotencyKey)) s calls

theorem IngestsApart.of_concat {s : InMemoryByocResultStore} {jobId : String}
    {calls : List ResultCall} {c : ResultCall} (h : IngestsApart s jobId (calls ++ [c])) :
    IngestsApart s jobId calls := by
  obtain ⟨hnonblank, hdistinct, hunseen⟩ := h
  rw [ingestedFor_append] at hnonblank hdistinct
  rw [List.map_append] at hdistinct
  exact ⟨fun result hresult ↦ hnonblank result (List.mem_append_left _ hresult),
    (List.nodup_append.mp hdistinct).1, (Run.along_append.mp hunseen).1⟩

namespace InMemoryByocResultStore

theorem step_ingest (s : InMemoryByocResultStore) (now : Epoch) (result : ByocToolResultEnvelope) :
    (s.step (.ingest now result)).2 = (s.ingest result).2 := by
  simp only [step, resultStep, inMemoryByocResultStore]

theorem step_consume (s : InMemoryByocResultStore) (given : String) :
    (s.step (.consume given)).2 = (s.consume given).2 := by
  simp only [step, resultStep, inMemoryByocResultStore]

theorem conflictStrategy_step (s : InMemoryByocResultStore) (c : ResultCall) :
    (s.step c).2.conflictStrategy = s.conflictStrategy := by
  cases c with
  | ingest now result =>
    rw [step_ingest, ingest]
    split
    · rfl
    split
    · rfl
    split
    · rfl
    split
    · rfl
    split <;> rfl
  | consume given =>
    rw [step_consume, consume]
    split <;> rfl
  | hasIdempotencyKey key => rfl
  | listConflictCounts tenantId => rfl

theorem conflictStrategy_exec (s : InMemoryByocResultStore) (calls : List ResultCall) :
    (exec step s calls).conflictStrategy = s.conflictStrategy := by
  induction calls generalizing s with
  | nil => rfl
  | cons c calls ih => exact (ih _).trans (conflictStrategy_step s c)

/-- What a call does to the payload of a job for which it ingests nothing. -/
theorem payload_step_of_other {s : InMemoryByocResultStore} {jobId : String} {c : ResultCall}
    (hc : ingestedFor jobId [c] = []) :
    (s.step c).2.payload jobId = if takes jobId c then none else s.payload jobId := by
  cases c with
  | ingest now result =>
    have hne : jobId ≠ result.jobId := by
      rintro rfl
      simp [ingestedFor] at hc
    have hwrite : ∀ key, (s.write key result).payload jobId = s.payload jobId := fun key ↦
      (payload_write key result s jobId).trans (if_neg hne)
    rw [step_ingest, ingest]
    show _ = s.payload jobId
    split
    · rfl
    split
    · rfl
    split
    · exact hwrite (strip result.idempotencyKey)
    split
    · exact hwrite (strip result.idempotencyKey)
    split
    · exact hwrite (strip result.idempotencyKey)
    · rfl
  | consume given =>
    rw [step_consume, consume, takes]
    by_cases hblank : strip given = ""
    · simp [hblank]
    · rw [if_neg hblank]
      by_cases htaken : jobId = strip given
      · simp [payload, Dict.get?_erase, hblank, htaken]
      · simp [payload, Dict.get?_erase, htaken, Ne.symm htaken]
  | hasIdempotencyKey key => rfl
  | listConflictCounts tenantId => rfl

/-- What an ingestion does to the payload of its job. -/
theorem payload_ingest {s : InMemoryByocResultStore} {result : ByocToolResultEnvelope}
    (hblank : strip result.idempotencyKey ≠ "") (hnew : ¬s.seen (strip result.idempotencyKey))
    (hother : ∀ existing, s.payload result.jobId = some existing →
      strip existing.idempotencyKey ≠ strip result.idempotencyKey) (now : Epoch) :
    (s.step (.ingest now result)).2.payload result.jobId =
      match s.payload result.jobId with
      | none => some result
      | some existing =>
        if resolveResultConflict existing result s.conflictStrategy then some result
        else some existing := by
  have hrefused : conflictRefused s.conflictStrategy (s.payload result.jobId) result =
      (s.payload result.jobId).any fun existing ↦
        !resolveResultConflict existing result s.conflictStrategy := by
    cases hexisting : s.payload result.jobId with
    | none => rw [conflictRefused, Option.any_none, Option.any_none]
    | some existing => simp [conflictRefused, hother existing hexisting]
  rw [step_ingest]
  cases hanswer : conflictRefused s.conflictStrategy (s.payload result.jobId) result with
  | true =>
    have hsame : (s.ingest result).2.payload result.jobId = s.payload result.jobId :=
      (lawful.ingest_conflict now result s hblank hnew hanswer).2.1 result.jobId
    rw [hrefused] at hanswer
    cases hexisting : s.payload result.jobId with
    | none => simp [hexisting] at hanswer
    | some existing =>
      have hkeeps : resolveResultConflict existing result s.conflictStrategy = false := by
        simpa [hexisting] using hanswer
      simp only [hkeeps, Bool.false_eq_true, ↓reduceIte]
      exact hsame.trans hexisting
  | false =>
    have htaken : (s.ingest result).2.payload result.jobId =
        if result.jobId = result.jobId then some result else s.payload result.jobId :=
      (lawful.ingest_taken now result s hblank hnew hanswer).2.2.1 result.jobId
    rw [if_pos rfl] at htaken
    rw [hrefused] at hanswer
    cases hexisting : s.payload result.jobId with
    | none => exact htaken
    | some existing =>
      have hreplaces : resolveResultConflict existing result s.conflictStrategy = true := by
        simpa [hexisting] using hanswer
      simp only [hreplaces, ↓reduceIte]
      exact htaken

/-- **The store holds what the strategy selects** among the results it has been given since the last
one was taken away. -/
theorem payload_exec {s : InMemoryByocResultStore} {jobId : String} {calls : List ResultCall}
    (h : IngestsApart s jobId calls) (hnone : s.payload jobId = none) :
    (exec step s calls).payload jobId = chosen s.conflictStrategy (held jobId calls) := by
  induction calls using List.reverseRecOn with
  | nil =>
    rw [show exec step s [] = s from rfl, hnone]
    cases s.conflictStrategy <;> rfl
  | append_singleton calls c ih =>
    have hbefore := ih h.of_concat
    rw [exec_append, held_concat]
    show ((exec step s calls).step c).2.payload jobId = _
    by_cases hc : ingestedFor jobId [c] = []
    · rw [payload_step_of_other hc, hc, List.append_nil, hbefore]
      split
      · cases s.conflictStrategy <;> rfl
      · rfl
    · obtain ⟨now, result, rfl, rfl⟩ : ∃ now result, c = .ingest now result ∧
          result.jobId = jobId := by
        cases c with
        | ingest now result =>
          by_cases hjob : result.jobId = jobId
          · exact ⟨now, result, rfl, hjob⟩
          · simp [ingestedFor, hjob] at hc
        | _ => simp [ingestedFor] at hc
      have hone : ingestedFor result.jobId [.ingest now result] = [result] := by simp [ingestedFor]
      obtain ⟨hnonblank, hdistinct, hunseen⟩ := h
      rw [ingestedFor_append, hone] at hnonblank hdistinct
      have hnew := (Run.along_append.mp hunseen).2.1 result (hone ▸ List.mem_singleton_self result)
      have hother : ∀ existing, (exec step s calls).payload result.jobId = some existing →
          strip existing.idempotencyKey ≠ strip result.idempotencyKey := by
        intro existing hexisting hsame
        obtain ⟨dropped, hdropped⟩ := exists_dropped result.jobId calls
        have hmem : existing ∈ ingestedFor result.jobId calls := by
          rw [hdropped]
          exact List.mem_append_right _ (chosen_mem (hbefore ▸ hexisting))
        rw [List.map_append, List.nodup_append] at hdistinct
        exact hdistinct.2.2 _ (List.mem_map_of_mem hmem) _ (by simp) hsame
      rw [payload_ingest (hnonblank result (by simp)) hnew hother now, hbefore, hone,
        conflictStrategy_exec, show takes result.jobId (.ingest now result) = false from rfl,
        if_neg Bool.false_ne_true, chosen_concat]

/-- Nothing is held for a job until something is ingested for it. -/
theorem payload_exec_of_other {s : InMemoryByocResultStore} {jobId : String}
    {calls : List ResultCall} (hother : ingestedFor jobId calls = [])
    (hnone : s.payload jobId = none) : (exec step s calls).payload jobId = none := by
  induction calls generalizing s with
  | nil => exact hnone
  | cons c calls ih =>
    have hsplit := ingestedFor_append jobId [c] calls
    rw [List.singleton_append, hother] at hsplit
    obtain ⟨hc, hrest⟩ := List.append_eq_nil_iff.mp hsplit.symm
    refine ih hrest ?_
    rw [payload_step_of_other hc, hnone]
    split <;> rfl

/-- Payloads are filed under the ids of their jobs. -/
theorem jobId_of_payload {calls : List ResultCall} {jobId : String} {result : ByocToolResultEnvelope}
    (h : (exec step (init strategy) calls).payload jobId = some result) : result.jobId = jobId := by
  have hstep : ∀ (s : InMemoryByocResultStore) (c : ResultCall),
      (∀ k r, s.payload k = some r → r.jobId = k) →
        ∀ k r, (s.step c).2.payload k = some r → r.jobId = k := by
    intro s c hs k r hr
    by_cases hc : ingestedFor k [c] = []
    · rw [payload_step_of_other hc] at hr
      split at hr
      · cases hr
      · exact hs k r hr
    · cases c with
      | ingest now incoming =>
        have hwrite : ∀ key, (s.write key incoming).payload k = some r → r.jobId = k := by
          intro key hwritten
          rw [payload_write] at hwritten
          split at hwritten
          · rename_i hk
            rw [← Option.some.inj hwritten, hk]
          · exact hs k r hwritten
        rw [step_ingest, ingest] at hr
        split at hr
        · exact hs k r hr
        split at hr
        · exact hs k r hr
        split at hr
        · exact hwrite (strip incoming.idempotencyKey) hr
        split at hr
        · exact hwrite (strip incoming.idempotencyKey) hr
        split at hr
        · exact hwrite (strip incoming.idempotencyKey) hr
        · exact hs k r hr
      | _ => simp [ingestedFor] at hc
  have hrun : ∀ k r, (exec step (init strategy) calls).payload k = some r → r.jobId = k :=
    Run.exec_invariant (P := fun s : InMemoryByocResultStore ↦ ∀ k r, s.payload k = some r →
        r.jobId = k) (fun s c _ ↦ hstep s c) (Run.along_of_forall (fun _ _ ↦ trivial) _ calls)
      fun k r hr ↦ by cases hr
  exact hrun jobId result h

end InMemoryByocResultStore

/-! ## The next consume -/

/-- The next `consume` of the job returns the payload that the strategy selects among the results of
the calls, and the ones after that return none until the job is ingested again. -/
def FoldsConflicts (s : InMemoryByocResultStore) (jobId : String) (calls : List ResultCall) : Prop :=
  let consumed := (exec InMemoryByocResultStore.step s calls).consume jobId
  consumed.1 = chosen s.conflictStrategy (ingestedFor jobId calls) ∧
    ∀ later, ingestedFor jobId later = [] →
      ((exec InMemoryByocResultStore.step consumed.2 later).consume jobId).1 = none

/-- The id of the job is as `consume` reads it, and the payload that the strategy selects is ingested
after the last call that takes one away. -/
def Deliverable (strategy : ByocResultConflictStrategy) (jobId : String) (calls : List ResultCall) :
    Prop :=
  strip jobId = jobId ∧ jobId ≠ "" ∧
    ∃ result ∈ held jobId calls, chosen strategy (ingestedFor jobId calls) = some result

instance (strategy : ByocResultConflictStrategy) (jobId : String) (calls : List ResultCall) :
    Decidable (Deliverable strategy jobId calls) :=
  inferInstanceAs (Decidable (_ ∧ _ ∧ ∃ result ∈ held jobId calls, _))

theorem InMemoryByocResultStore.consume_fst {s : InMemoryByocResultStore} {jobId : String}
    (hstrip : strip jobId = jobId) (hne : jobId ≠ "") : (s.consume jobId).1 = s.payload jobId := by
  rw [consume, hstrip, if_neg hne]
  rfl

theorem InMemoryByocResultStore.payload_consume {s : InMemoryByocResultStore} {jobId : String}
    (hstrip : strip jobId = jobId) (hne : jobId ≠ "") :
    (s.consume jobId).2.payload jobId = none := by
  rw [consume, hstrip, if_neg hne]
  exact (Dict.get?_erase jobId s.resultsByJobId jobId).trans (if_pos rfl)

/-- A result of a job, with its key and status. -/
def resultOf (jobId idempotencyKey status : String) : ByocToolResultEnvelope where
  jobId := jobId
  tenantId := "t"
  runId := "r"
  callId := "c"
  toolName := "echo"
  status := status
  idempotencyKey := idempotencyKey

/-- Three results of a job, and one of another job between them. -/
def conflictingCalls : List ResultCall :=
  [.ingest 0 (resultOf "j" "1" "error"), .ingest 0 (resultOf "i" "2" "error"), .consume "i",
    .ingest 0 (resultOf "j" "3" "success"), .ingest 0 (resultOf "j" "4" "error")]

end Byoc
end ExoBrain
