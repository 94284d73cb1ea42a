import ExoBrain.Byoc.Submission
import ExoBrain.Byoc.Moves

/-!
# What an accepted submission promises

`accepted = True` tells a worker that it need not come back.  For a result that was ingested just
now that is right: its payload is stored and its job is completed.  For a duplicate it is right only
if the key was ingested for the *same* job.  The runtime does not check that.  Keys are built from
tenant, call and run, so two `execute` calls for one call share one, and then the result of the
second job is acknowledged, thrown away, and waited for in vain.

The module follows the keys through a run.  `keyOwner` is the job whose submission last brought a
key in, read off the history of the calls; `Accounts` says that the payload of the owner of every
key in the store was ingested and that the job is over.  Every call keeps that, as long as `uuid4`
does not repeat an id.  So the promise is kept in every run in which duplicates name the owner of
their key, and the record of that job is still there.
-/

set_option autoImplicit false

namespace ExoBrain
namespace Byoc

open Text

/-! ## Events of a run -/

/-- A call of the runtime, and its answer. -/
abbrev RuntimeEvent := RuntimeCall × RuntimeReply

/-- The id under which the call creates a job. -/
def RuntimeCall.enqueuedId (c : RuntimeCall) : Option String :=
  match c.op with
  | .executeEnqueue true _ _ jobId => some jobId
  | _ => none

/-- The ids under which a run creates jobs. -/
def enqueuedIds (calls : List RuntimeCall) : List String := calls.filterMap RuntimeCall.enqueuedId

/-- The job whose result the event brings in under `key`: the one a submission names that is
accepted, and not as a duplicate. -/
def RuntimeEvent.takes (key : String) (e : RuntimeEvent) : Option String :=
  match e.1.op, e.2 with
  | .submit sub, .submitted (.ok outcome) =>
    if outcome.accepted = true ∧ outcome.duplicate = false ∧ strip sub.result.idempotencyKey = key
    then some sub.result.jobId else none
  | _, _ => none

theorem RuntimeEvent.takes_submitted (key : String) (clock : RuntimeClock) (sub : Submission)
    (outcome : ByocResultIngestOutcome) :
    takes key (⟨clock, .submit sub⟩, .submitted (.ok outcome)) =
      if outcome.accepted = true ∧ outcome.duplicate = false ∧
        strip sub.result.idempotencyKey = key then some sub.result.jobId else none := rfl

/-- The job for which `key` was last ingested. -/
def keyOwner (key : String) (h : List RuntimeEvent) : Option String :=
  h.reverse.findSome? (RuntimeEvent.takes key)

theorem keyOwner_snoc (key : String) (h : List RuntimeEvent) (e : RuntimeEvent) :
    keyOwner key (h ++ [e]) = (RuntimeEvent.takes key e).or (keyOwner key h) := by
  rw [keyOwner, List.reverse_append, List.reverse_singleton, List.singleton_append,
    List.findSome?_cons]
  cases RuntimeEvent.takes key e <;> rfl

/-! ## Jobs in a run -/

/-- A completed record. -/
def Completed (r : Option JobView) : Prop := ∃ v, r = some v ∧ v.status = .completed

instance (r : Option JobView) : Decidable (Completed r) :=
  inferInstanceAs (Decidable (∃ v ∈ r, v.status = .completed))

/-- No record, or a completed one. -/
def Done (r : Option JobView) : Prop := ∀ v, r = some v → v.status = .completed

theorem Completed.done {r : Option JobView} (h : Completed r) : Done r := by
  obtain ⟨v, rfl, hv⟩ := h
  exact fun w hw ↦ Option.some.inj hw ▸ hv

theorem Done.of_kept {r r' : Option JobView} (hr : Done r) (h : r' = r ∨ r' = none) : Done r' := by
  rcases h with rfl | rfl
  · exact hr
  · exact fun v hv ↦ absurd hv (by simp)

section Jobs

variable {B : JobBackend} {τ ρ : Type} {R : ByocResultStore τ} {G : ReplayGuard ρ}
  {settings : ByocRuntimeSettings}
  {jwtDecode : Epoch → String → String → Except JwtError JwtPayload}
  {s : RuntimeState B.State τ ρ} {c : RuntimeCall} {k : String}

/-- A call that does not create the job `k` performs no operation that does. -/
theorem enqueues_jobCalls (hnew : c.enqueuedId ≠ some k) :
    ∀ j ∈ (B.runtime R G settings jwtDecode).jobCalls s c, j.enqueues k = false := by
  intro j hj
  rcases (B.runtime R G settings jwtDecode).mem_jobCalls hj with
    ⟨call, descriptor, jobId, hc, hop⟩ | ⟨rfl, -⟩ | ⟨hno, -⟩
  · have hne : jobId ≠ k := by
      rintro rfl
      exact hnew (by simp [RuntimeCall.enqueuedId, hc])
    simpa [JobCall.enqueues, hop, jobOfCall] using hne
  · rfl
  · rw [JobCall.enqueues]
    split
    · rename_i job hop
      exact absurd hop (hno job)
    · rfl

/-- What every operation that does not create `k` keeps true of its record, every call of the
runtime that does not create `k` keeps true of it. -/
theorem record_runtime_step {P : Option JobView → Prop} (hinv : B.Inv s.jobs)
    (hstep : ∀ {j reply r r'}, JobMove j k reply r r' → j.enqueues k = false → P r → P r')
    (hnew : c.enqueuedId ≠ some k) (h : P (B.record s.jobs k)) :
    P (B.record ((B.runtime R G settings jwtDecode).step s c).2.jobs k) := by
  rw [TenantByocConnectorRuntime.jobs_step]
  have hcalls : Run.Along B.store.step (fun _ j ↦ j.enqueues k = false) s.jobs
      ((B.runtime R G settings jwtDecode).jobCalls s c) :=
    Run.along_of_forall_mem (fun j hj _ ↦ enqueues_jobCalls hnew j hj) s.jobs
  have hrun := Run.exec_invariant (P := fun jobs ↦ B.Inv jobs ∧ P (B.record jobs k))
    (fun jobs j hj hP ↦ ⟨B.checked.inv_step jobs j hP.1,
      hstep (B.checked.record_step jobs j k hP.1).move hj hP.2⟩) hcalls ⟨hinv, h⟩
  exact hrun.2

theorem done_step (hinv : B.Inv s.jobs) (hnew : c.enqueuedId ≠ some k)
    (h : Done (B.record s.jobs k)) :
    Done (B.record ((B.runtime R G settings jwtDecode).step s c).2.jobs k) :=
  record_runtime_step hinv (fun hmove henq hr ↦
    have hretired : Retired _ := fun v hv ↦ .inl (hr v hv)
    hr.of_kept (hretired.move hmove henq).1) hnew h

/-- A record appears only when its job is created. -/
theorem record_none_step (hinv : B.Inv s.jobs) (hnew : c.enqueuedId ≠ some k)
    (h : B.record s.jobs k = none) :
    B.record ((B.runtime R G settings jwtDecode).step s c).2.jobs k = none :=
  record_runtime_step hinv (fun hmove henq hr ↦ by
    by_contra hsome
    rcases hmove.exists_or_enqueues hsome with hbefore | htrue
    · exact hbefore hr
    · exact nomatch henq.symm.trans htrue) hnew h

end Jobs

/-! ## Results in a run -/

section Results

variable {B : JobBackend} {R : ResultBackend} {ρ : Type} {G : ReplayGuard ρ}
  {settings : ByocRuntimeSettings}
  {jwtDecode : Epoch → String → String → Except JwtError JwtPayload}
  {s : RuntimeState B.State R.State ρ}

/-- A result that is accepted at the end of the chain is ingested under its key. -/
theorem ingest_of_accepted {clock : RuntimeClock} {sub : Submission}
    (h : (B.runtime R.store G settings jwtDecode).ReachesLease clock sub s)
    (hacc : (R.store.ingest clock.ingest sub.result s.results).1.accepted = true) :
    (R.store.ingest clock.ingest sub.result s.results).1.duplicate = false ∧
      R.payload (R.store.ingest clock.ingest sub.result s.results).2 sub.result.jobId =
        some sub.result ∧
      ∀ k, R.seen (R.store.ingest clock.ingest sub.result s.results).2 k ↔
        k = strip sub.result.idempotencyKey ∨ R.seen s.results k := by
  obtain ⟨hkey, hconflict⟩ := not_or.mp ((ingest_accepted_iff h).mp hacc)
  obtain ⟨-, hdup, hpayload, hseen⟩ := R.lawful.ingest_taken clock.ingest sub.result s.results hkey
    (not_seen_of_reachesLease h hkey) (Bool.eq_false_iff.mpr hconflict)
  refine ⟨hdup, ?_, hseen⟩
  rw [hpayload, if_pos rfl]

/-- A result that the store refuses leaves its keys alone. -/
theorem seen_of_refused {clock : RuntimeClock} {sub : Submission}
    (h : (B.runtime R.store G settings jwtDecode).ReachesLease clock sub s)
    (hno : (R.store.ingest clock.ingest sub.result s.results).1.accepted ≠ true) (k : String) :
    R.seen (R.store.ingest clock.ingest sub.result s.results).2 k ↔ R.seen s.results k := by
  by_cases hkey : strip sub.result.idempotencyKey = ""
  · exact (R.lawful.ingest_blank clock.ingest sub.result s.results hkey).2.2 k
  · have hrefused : R.Refuses s.results sub.result := by
      by_contra hnot
      exact hno ((ingest_accepted_iff h).mpr hnot)
    rcases hrefused with hblank | hconflict
    · exact absurd hblank hkey
    · exact (R.lawful.ingest_conflict clock.ingest sub.result s.results hkey
        (not_seen_of_reachesLease h hkey) hconflict).2.2 k

/-- The retention pass of a call brings in no key. -/
theorem seen_of_cleaned {clock : RuntimeClock} {tenantId k : String} {force : Bool}
    (h : R.seen ((B.runtime R.store G settings jwtDecode).runCleanup clock tenantId force
      s).2.results k) : R.seen s.results k := by
  rw [TenantByocConnectorRuntime.runCleanup] at h
  split at h
  · exact R.lawful.cleanupRetention_seen _ _ _ _ k h
  · exact h

/-- A submission that takes no result under `key` does not bring it in. -/
theorem seen_submitCase {clock : RuntimeClock} {sub : Submission} {key : String}
    {answer : Except String ByocResultIngestOutcome} {jobs : B.State} {results : R.State}
    (hcase : TenantByocConnectorRuntime.SubmitCase (B.runtime R.store G settings jwtDecode) clock
      sub s answer jobs results)
    (hnot : RuntimeEvent.takes key (⟨clock, .submit sub⟩, .submitted answer) = none)
    (h : R.seen results key) : R.seen s.results key := by
  cases hcase with
  | raised | duplicate | unleased | mismatched | late => exact h
  | closed hreaches =>
    by_cases hacc : (R.store.ingest clock.ingest sub.result s.results).1.accepted = true
    · obtain ⟨hdup, -, hseen⟩ := ingest_of_accepted hreaches hacc
      rcases (hseen key).mp h with rfl | hold
      · rw [RuntimeEvent.takes_submitted, if_pos ⟨hacc, hdup, rfl⟩] at hnot
        exact nomatch hnot
      · exact hold
    · exact (seen_of_refused hreaches hacc key).mp h

/-- A submission that is accepted, and not as a duplicate, takes the result under its key. -/
theorem takes_of_accepted {clock : RuntimeClock} {sub : Submission}
    {answer : Except String ByocResultIngestOutcome} {jobs : B.State} {results : R.State}
    (hcase : TenantByocConnectorRuntime.SubmitCase (B.runtime R.store G settings jwtDecode) clock
      sub s answer jobs results) (haccepted : ¬NotAccepted answer)
    (hdup : ¬AnsweredDuplicate B R G settings jwtDecode clock sub s) :
    RuntimeEvent.takes (strip sub.result.idempotencyKey)
      (⟨clock, .submit sub⟩, .submitted answer) = some sub.result.jobId := by
  cases hcase with
  | raised => exact absurd trivial haccepted
  | duplicate hauth htenant hknown => exact absurd ⟨hauth, htenant, hknown⟩ hdup
  | unleased | mismatched | late => exact absurd rfl haccepted
  | closed hreaches =>
    have hacc : (R.store.ingest clock.ingest sub.result s.results).1.accepted = true :=
      Bool.not_eq_false _ ▸ haccepted
    rw [RuntimeEvent.takes_submitted, if_pos ⟨hacc, (ingest_of_accepted hreaches hacc).1, rfl⟩]

/-- A duplicate changes nothing about the jobs. -/
theorem jobs_of_duplicate {clock : RuntimeClock} {sub : Submission}
    {answer : Except String ByocResultIngestOutcome} {jobs : B.State} {results : R.State}
    (hcase : TenantByocConnectorRuntime.SubmitCase (B.runtime R.store G settings jwtDecode) clock
      sub s answer jobs results)
    (hdup : AnsweredDuplicate B R G settings jwtDecode clock sub s) : jobs = s.jobs := by
  cases hcase with
  | raised | duplicate => rfl
  | unleased h | mismatched h | late h | closed h => exact absurd hdup.2.2 h.2.2

/-- What an event leaves behind that takes a result: the payload is stored, the job is completed,
and it had a record. -/
theorem takes_submitCase (hinv : B.Inv s.jobs) {clock : RuntimeClock} {sub : Submission}
    {key J : String} {answer : Except String ByocResultIngestOutcome} {jobs : B.State}
    {results : R.State}
    (hcase : TenantByocConnectorRuntime.SubmitCase (B.runtime R.store G settings jwtDecode) clock
      sub s answer jobs results)
    (htakes : RuntimeEvent.takes key (⟨clock, .submit sub⟩, .submitted answer) = some J) :
    sub.result.jobId = J ∧ R.payload results J = some sub.result ∧ B.record s.jobs J ≠ none ∧
      Completed (B.record jobs J) := by
  cases hcase with
  | raised | duplicate | unleased | mismatched | late => exact nomatch htakes
  | closed hreaches hjob hartifact hclosed =>
    rw [RuntimeEvent.takes_submitted] at htakes
    split at htakes
    · rename_i htaken
      obtain rfl := Option.some.inj htakes
      obtain ⟨⟨v, hv, -⟩, -⟩ := lookup_some hinv hjob
      obtain ⟨w, -, -, hafter⟩ := close_true (inv_lookup hinv) hclosed
      refine ⟨rfl, (ingest_of_accepted hreaches htaken.1).2.1, ?_, _, hafter, rfl⟩
      rw [hv]
      exact Option.some_ne_none v
    · exact nomatch htakes

/-- A call that takes a result is a submission for a job that has a record; afterwards the payload
is stored and the job is completed. -/
theorem takes_step (hinv : B.Inv s.jobs) {c : RuntimeCall} {key J : String}
    (htakes : RuntimeEvent.takes key (c, ((B.runtime R.store G settings jwtDecode).step s c).1) =
      some J) :
    ∃ clock sub, c = ⟨clock, .submit sub⟩ ∧ sub.result.jobId = J ∧
      R.payload ((B.runtime R.store G settings jwtDecode).step s c).2.results J = some sub.result ∧
      B.record s.jobs J ≠ none ∧
      Completed (B.record ((B.runtime R.store G settings jwtDecode).step s c).2.jobs J) := by
  obtain ⟨clock, op⟩ := c
  cases op with
  | executeEnqueue | executePoll | claimNextJob | requestCancellation | replayDeadLetterJob
  | replayDeadLetterJobs | cleanupRetention => exact nomatch htakes
  | submit sub =>
    obtain ⟨hJ, hpayload, hrecord, hdone⟩ := takes_submitCase
      (JobBackend.inv_cleaned hinv clock sub.tenantId)
      ((B.runtime R.store G settings jwtDecode).submit_cases clock sub s) htakes
    refine ⟨clock, sub, rfl, hJ, hpayload, fun hnone ↦ hrecord ?_, hdone⟩
    rcases JobBackend.record_cleaned hinv clock sub.tenantId J with hsame | ⟨hpruned, -⟩
    · rw [hsame, hnone]
    · exact hpruned

/-- A key in the store after a call was there before, or the call brought it in. -/
theorem seen_step {c : RuntimeCall} {key : String}
    (hnot : RuntimeEvent.takes key (c, ((B.runtime R.store G settings jwtDecode).step s c).1) = none)
    (h : R.seen ((B.runtime R.store G settings jwtDecode).step s c).2.results key) :
    R.seen s.results key := by
  obtain ⟨clock, op⟩ := c
  cases op with
  | executeEnqueue admitted call descriptor jobId =>
    simp only [TenantByocConnectorRuntime.step, TenantByocConnectorRuntime.executeEnqueue] at h
    split at h
    · exact seen_of_cleaned h
    · exact h
  | executePoll tenantId jobId => exact (R.lawful.consume_seen jobId s.results key).mp h
  | claimNextJob tenantId workerToken requestNonce leaseToken =>
    simp only [TenantByocConnectorRuntime.step] at h
    rw [TenantByocConnectorRuntime.results_claimNextJob] at h
    exact seen_of_cleaned h
  | submit sub =>
    exact seen_of_cleaned (seen_submitCase
      ((B.runtime R.store G settings jwtDecode).submit_cases clock sub s) hnot h)
  | requestCancellation callId =>
    simp only [TenantByocConnectorRuntime.step, TenantByocConnectorRuntime.requestCancellation] at h
    split at h <;> exact h
  | replayDeadLetterJob tenantId jobId | replayDeadLetterJobs tenantId jobIds limit => exact h
  | cleanupRetention tenantId force => exact seen_of_cleaned h

end Results

/-! ## The books of a run -/

section Books

variable (B : JobBackend) (R : ResultBackend) {ρ : Type} (G : ReplayGuard ρ)
  (settings : ByocRuntimeSettings)
  (jwtDecode : Epoch → String → String → Except JwtError JwtPayload) (replay : ρ)

/-- The state after a run of the runtime from fresh stores. -/
abbrev runtimeRun (calls : List RuntimeCall) : RuntimeState B.State R.State ρ :=
  Run.exec (B.runtime R.store G settings jwtDecode).step
    { jobs := B.init, results := R.init, replay := replay } calls

/-- The calls of the run, with their answers. -/
abbrev runtimeHistory (calls : List RuntimeCall) : List RuntimeEvent :=
  Run.trace (B.runtime R.store G settings jwtDecode).step
    { jobs := B.init, results := R.init, replay := replay } calls

/-- A submission of the run put the payload of the job `J` into the result store. -/
def Ingested (calls : List RuntimeCall) (J : String) : Prop :=
  ∃ earlier clock sub later, calls = earlier ++ ⟨clock, .submit sub⟩ :: later ∧
    sub.result.jobId = J ∧
    R.payload (runtimeRun B R G settings jwtDecode replay
      (earlier ++ [⟨clock, .submit sub⟩])).results J = some sub.result

/-- What the runtime may rely on after a run. -/
structure Accounts (calls : List RuntimeCall) : Prop where
  /-- Every record was created by the run. -/
  created : ∀ k, B.record (runtimeRun B R G settings jwtDecode replay calls).jobs k ≠ none →
    k ∈ enqueuedIds calls
  /-- Every key has an owner, whose payload was ingested and whose job is over. -/
  owned : ∀ key, R.seen (runtimeRun B R G settings jwtDecode replay calls).results key →
    ∃ J, keyOwner key (runtimeHistory B R G settings jwtDecode replay calls) = some J ∧
      Ingested B R G settings jwtDecode replay calls J ∧ J ∈ enqueuedIds calls ∧
      Done (B.record (runtimeRun B R G settings jwtDecode replay calls).jobs J)

variable {B R G settings jwtDecode replay}

theorem Ingested.snoc {calls : List RuntimeCall} {J : String}
    (h : Ingested B R G settings jwtDecode replay calls J) (c : RuntimeCall) :
    Ingested B R G settings jwtDecode replay (calls ++ [c]) J := by
  obtain ⟨earlier, clock, sub, later, rfl, hJ, hpayload⟩ := h
  exact ⟨earlier, clock, sub, later ++ [c], by simp, hJ, hpayload⟩

theorem Accounts.nil : Accounts B R G settings jwtDecode replay [] where
  created k h := absurd (B.record_init k) h
  owned key h := absurd h (R.seen_init key)

theorem enqueuedIds_snoc (calls : List RuntimeCall) (c : RuntimeCall) :
    enqueuedIds (calls ++ [c]) = enqueuedIds calls ++ c.enqueuedId.toList := by
  rw [enqueuedIds, List.filterMap_append, enqueuedIds]
  cases h : c.enqueuedId <;> simp [h]

/-- **Every call keeps the books**, if it does not create a job under an id that was used. -/
theorem Accounts.snoc {calls : List RuntimeCall} {c : RuntimeCall}
    (h : Accounts B R G settings jwtDecode replay calls)
    (hnew : ∀ k, c.enqueuedId = some k → k ∉ enqueuedIds calls) :
    Accounts B R G settings jwtDecode replay (calls ++ [c]) := by
  have hinv : B.Inv (runtimeRun B R G settings jwtDecode replay calls).jobs :=
    JobBackend.inv_run B.init_inv calls
  have hrun : runtimeRun B R G settings jwtDecode replay (calls ++ [c]) =
      ((B.runtime R.store G settings jwtDecode).step
        (runtimeRun B R G settings jwtDecode replay calls) c).2 := by
    rw [runtimeRun, Run.exec_append]; rfl
  have hhistory : runtimeHistory B R G settings jwtDecode replay (calls ++ [c]) =
      runtimeHistory B R G settings jwtDecode replay calls ++
        [(c, ((B.runtime R.store G settings jwtDecode).step
          (runtimeRun B R G settings jwtDecode replay calls) c).1)] := by
    rw [runtimeHistory, Run.trace_append]; rfl
  have hcreated : ∀ k, B.record (runtimeRun B R G settings jwtDecode replay (calls ++ [c])).jobs k ≠
      none → k ∈ enqueuedIds (calls ++ [c]) := by
    intro k hk
    rw [enqueuedIds_snoc, List.mem_append]
    by_cases hc : c.enqueuedId = some k
    · exact .inr (by simp [hc])
    · refine .inl (h.created k fun hnone ↦ hk ?_)
      rw [hrun]
      exact record_none_step hinv hc hnone
  refine ⟨hcreated, fun key hkey ↦ ?_⟩
  rw [hhistory, keyOwner_snoc]
  cases htakes : RuntimeEvent.takes key (c, ((B.runtime R.store G settings jwtDecode).step
      (runtimeRun B R G settings jwtDecode replay calls) c).1) with
  | none =>
    rw [hrun] at hkey
    obtain ⟨J, howner, hingested, hJ, hdone⟩ := h.owned key (seen_step htakes hkey)
    refine ⟨J, howner, hingested.snoc c, ?_, ?_⟩
    · rw [enqueuedIds_snoc]
      exact List.mem_append_left _ hJ
    · rw [hrun]
      exact done_step hinv (fun hc ↦ hnew J hc hJ) hdone
  | some J =>
    obtain ⟨clock, sub, rfl, hJ, hpayload, hrecord, hcompleted⟩ := takes_step hinv htakes
    refine ⟨J, rfl, ⟨calls, clock, sub, [], rfl, hJ, ?_⟩, ?_, ?_⟩
    · rw [hrun]
      exact hpayload
    · rw [enqueuedIds_snoc]
      exact List.mem_append_left _ (h.created J hrecord)
    · rw [hrun]
      exact hcompleted.done

/-- The books are right after every run in which the ids of the jobs are distinct. -/
theorem accounts_run {calls : List RuntimeCall} (hfresh : (enqueuedIds calls).Nodup) :
    Accounts B R G settings jwtDecode replay calls := by
  induction calls using List.reverseRecOn with
  | nil => exact .nil
  | append_singleton calls c ih =>
    rw [enqueuedIds_snoc, List.nodup_append] at hfresh
    obtain ⟨hcalls, -, hdisjoint⟩ := hfresh
    refine (ih hcalls).snoc fun k hk hmem ↦ ?_
    exact hdisjoint k hmem k (by simp [hk]) rfl

end Books

/-- **No acknowledged result is lost**, as long as a duplicate names the job its key was ingested
for, and the record of that job is still there.  In every run of the runtime, over any backends,
whenever a submission is accepted, a submission of the run put the payload of its job into the
result store, and the job is completed. -/
theorem accepted_result_ingested (B : JobBackend) (R : ResultBackend) {ρ : Type} (G : ReplayGuard ρ)
    (settings : ByocRuntimeSettings)
    (jwtDecode : Epoch → String → String → Except JwtError JwtPayload) (replay : ρ)
    (calls : List RuntimeCall) (clock : RuntimeClock) (sub : Submission)
    (hfresh : (enqueuedIds calls).Nodup)
    (howner : AnsweredDuplicate B R G settings jwtDecode clock sub
        ((B.runtime R.store G settings jwtDecode).cleaned clock sub.tenantId
          (runtimeRun B R G settings jwtDecode replay calls)) →
      keyOwner (strip sub.result.idempotencyKey)
          (runtimeHistory B R G settings jwtDecode replay calls) = some sub.result.jobId ∧
        B.record ((B.runtime R.store G settings jwtDecode).cleaned clock sub.tenantId
          (runtimeRun B R G settings jwtDecode replay calls)).jobs sub.result.jobId ≠ none)
    (haccepted : ¬NotAccepted ((B.runtime R.store G settings jwtDecode).submit clock sub
      (runtimeRun B R G settings jwtDecode replay calls)).1) :
    Ingested B R G settings jwtDecode replay (calls ++ [⟨clock, .submit sub⟩]) sub.result.jobId ∧
      Completed (B.record (runtimeRun B R G settings jwtDecode replay
        (calls ++ [⟨clock, .submit sub⟩])).jobs sub.result.jobId) := by
  have hinv : B.Inv (runtimeRun B R G settings jwtDecode replay calls).jobs :=
    JobBackend.inv_run B.init_inv calls
  have hbooks : Accounts B R G settings jwtDecode replay calls := accounts_run hfresh
  have hcase := (B.runtime R.store G settings jwtDecode).submit_cases clock sub
    (runtimeRun B R G settings jwtDecode replay calls)
  have hrun : runtimeRun B R G settings jwtDecode replay (calls ++ [⟨clock, .submit sub⟩]) =
      ((B.runtime R.store G settings jwtDecode).submit clock sub
        (runtimeRun B R G settings jwtDecode replay calls)).2 := by
    rw [runtimeRun, Run.exec_append]; rfl
  by_cases hdup : AnsweredDuplicate B R G settings jwtDecode clock sub
      ((B.runtime R.store G settings jwtDecode).cleaned clock sub.tenantId
        (runtimeRun B R G settings jwtDecode replay calls))
  · -- The owner of the key is the job of the submission, and its record was not pruned.
    obtain ⟨hJ, hrecord⟩ := howner hdup
    have hseen := seen_of_cleaned ((R.lawful.hasIdempotencyKey_iff _ _).mp hdup.2.2.2).2
    rw [strip_strip] at hseen
    obtain ⟨J, hJ', hingested, -, hdone⟩ := hbooks.owned _ hseen
    obtain rfl := Option.some.inj (hJ.symm.trans hJ')
    refine ⟨hingested.snoc _, ?_⟩
    rw [hrun, jobs_of_duplicate hcase hdup]
    obtain ⟨v, hv⟩ := Option.ne_none_iff_exists'.mp hrecord
    refine ⟨v, hv, hdone v ?_⟩
    rcases JobBackend.record_cleaned hinv clock sub.tenantId sub.result.jobId with hsame | ⟨hnone, -⟩
    · exact hsame.symm.trans hv
    · exact absurd hnone hrecord
  · have htakes := takes_of_accepted hcase haccepted hdup
    obtain ⟨-, hpayload, -, hcompleted⟩ :=
      takes_submitCase (JobBackend.inv_cleaned hinv clock sub.tenantId) hcase htakes
    refine ⟨⟨calls, clock, sub, [], rfl, rfl, ?_⟩, ?_⟩
    · rw [hrun]
      exact hpayload
    · rw [hrun]
      exact hcompleted

/-- The result of `j` comes in. -/
def answeredOnce : List RuntimeCall :=
  sampleCalls ++ [⟨.still 3, .submit (sampleSubmission "t:c:r")⟩]

/-- A worker that did not get its answer sends its result again. -/
def repeatedSubmission : Submission :=
  { sampleSubmission "t:c:r" with auth := .worker "tok" "n3" }

theorem accepted_result_ingested_retry :
    AnsweredDuplicate .inMemory (.inMemory .firstWriteWins) inMemoryReplayGuard
        { workerJwtSecret := "s" } sampleDecode (.still 4) repeatedSubmission
        (runtimeRun .inMemory (.inMemory .firstWriteWins) inMemoryReplayGuard
          { workerJwtSecret := "s" } sampleDecode .init answeredOnce) ∧
      Ingested .inMemory (.inMemory .firstWriteWins) inMemoryReplayGuard
        { workerJwtSecret := "s" } sampleDecode .init
        (answeredOnce ++ [⟨.still 4, .submit repeatedSubmission⟩]) "j" :=
  ⟨by decide, (accepted_result_ingested .inMemory (.inMemory .firstWriteWins) inMemoryReplayGuard
    { workerJwtSecret := "s" } sampleDecode .init answeredOnce (.still 4) repeatedSubmission
    (by decide) (fun _ ↦ ⟨by decide, by decide⟩) (by decide)).1⟩

/-- The same call is executed again, as the job `j2`, and a worker claims that. -/
def executedTwice : List RuntimeCall :=
  answeredOnce ++ [⟨.still 4, .executeEnqueue true
      { callId := "c", tenantId := "t", runId := "r" } { name := "n" } "j2"⟩,
    ⟨.still 5, .claimNextJob "t" "tok" "n3" "b"⟩]

/-- The result of `j2`, under the key that `execute` has given to both jobs. -/
def secondSubmission : Submission :=
  ⟨"t", .worker "tok" "n4",
    { jobId := "j2", tenantId := "t", runId := "r", callId := "c", toolName := "n"
      idempotencyKey := "t:c:r", leaseToken := "b" }⟩

/-- The result of `j2` is acknowledged, and `j2` stays leased. -/
theorem accepted_result_lost :
    ¬(¬NotAccepted ((JobBackend.inMemory.runtime (ResultBackend.inMemory .firstWriteWins).store
          inMemoryReplayGuard { workerJwtSecret := "s" } sampleDecode).submit (.still 6)
          secondSubmission (runtimeRun .inMemory (.inMemory .firstWriteWins) inMemoryReplayGuard
            { workerJwtSecret := "s" } sampleDecode .init executedTwice)).1 →
      Ingested .inMemory (.inMemory .firstWriteWins) inMemoryReplayGuard
          { workerJwtSecret := "s" } sampleDecode .init
          (executedTwice ++ [⟨.still 6, .submit secondSubmission⟩]) "j2" ∧
        Completed (InMemoryByocJobQueueStore.record (runtimeRun .inMemory
          (.inMemory .firstWriteWins) inMemoryReplayGuard { workerJwtSecret := "s" } sampleDecode
          .init (executedTwice ++ [⟨.still 6, .submit secondSubmission⟩])).jobs "j2")) := by
  intro h
  exact absurd (h (by decide)).2 (by decide)

end Byoc
end ExoBrain
