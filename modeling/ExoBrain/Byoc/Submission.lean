import ExoBrain.Byoc.RuntimeCalls
import ExoBrain.Byoc.ResultLaws

/-!
# What a refused submission leaves behind

A submission that is not accepted should leave its job as it was, so that somebody can still
complete it.  Most ways out of `_ingest_result_after_auth` do.  The last one does not: the lease is
completed before the result store is asked, and the result store may still say no, because the
result has no idempotency key or because it loses against the payload the job has.  Then the job is
completed, and nobody has its result.

`ForfeitsLease` is exactly that situation, as a condition on the request and on the state it meets,
and `submission_atomic_iff` says that nothing else goes wrong.  The retention pass that every
submission starts with is the only other thing that may change the job: it prunes finished records,
also the one of the job the submission names.
-/

set_option autoImplicit false

namespace ExoBrain
namespace Byoc

open Text

/-! ## The property -/

/-- The submission raised, or was answered with `accepted = False`. -/
def NotAccepted : Except String ByocResultIngestOutcome → Prop
  | .error _ => True
  | .ok outcome => outcome.accepted = false

instance : (answer : Except String ByocResultIngestOutcome) → Decidable (NotAccepted answer)
  | .error _ => isTrue trivial
  | .ok outcome => inferInstanceAs (Decidable (outcome.accepted = false))

/-- Status, lease token and lease expiry of a job. -/
def JobView.leaseFields (v : JobView) : JobStatus × String × Epoch :=
  (v.status, v.leaseToken, v.leaseExpiresAtEpoch)

/-- The job has the same status, token and expiry as before, or its lease had run out and was
requeued. -/
def LeaseKept (clock : RuntimeClock) (before after : Option JobView) : Prop :=
  after.map JobView.leaseFields = before.map JobView.leaseFields ∨
    ∃ v, before = some v ∧ (v.Expired clock.lease ∨ v.Expired clock.complete) ∧
      after = some (v.release .queued)

instance (clock : RuntimeClock) (before after : Option JobView) :
    Decidable (LeaseKept clock before after) :=
  decidable_of_iff (after.map JobView.leaseFields = before.map JobView.leaseFields ∨
      ∃ v ∈ before, (v.Expired clock.lease ∨ v.Expired clock.complete) ∧
        after = some (v.release .queued)) Iff.rfl

theorem leaseKept_of_eq {clock : RuntimeClock} {before after : Option JobView}
    (h : after = before) : LeaseKept clock before after := .inl (by rw [h])

/-- A lease that ran out is requeued by a limitless sweep. -/
theorem sweep_of_expired {now : Epoch} {v : JobView} (h : v.Expired now) :
    v.sweep now none = v.release .queued := by
  rw [JobView.sweep, if_pos h, if_neg]
  rintro ⟨_, ⟨⟩, -⟩

/-- A job whose record is gone was not kept. -/
theorem not_leaseKept_none {clock : RuntimeClock} {v : JobView} :
    ¬LeaseKept clock (some v) none := by
  rintro (h | ⟨w, -, -, h⟩) <;> exact nomatch h

/-- A job that was completed under its lease was not kept. -/
theorem not_leaseKept_complete {clock : RuntimeClock} {v : JobView} (h : v.status = .leased) :
    ¬LeaseKept clock (some v) (some v.complete) := by
  rintro (heq | ⟨w, -, -, heq⟩)
  · have hstatus : JobStatus.completed = v.status := congrArg (·.1) (Option.some.inj heq)
    rw [h] at hstatus
    exact nomatch hstatus
  · exact nomatch congrArg JobView.status (Option.some.inj heq)

section

variable {B : JobBackend} {R : ResultBackend} {ρ : Type} {G : ReplayGuard ρ}
  {settings : ByocRuntimeSettings}
  {jwtDecode : Epoch → String → String → Except JwtError JwtPayload}

/-! ## The condition -/

/-- The result store would refuse the result: it has no key, or it loses against the payload of
its job. -/
def ResultBackend.Refuses (R : ResultBackend) (results : R.State) (r : ByocToolResultEnvelope) :
    Prop :=
  strip r.idempotencyKey = "" ∨
    conflictRefused (R.strategy results) (R.payload results r.jobId) r = true

/-- The lease the result names is held under its token, from the lookup to the completion, and
the artifact is the one of the job. -/
def HoldsLease (B : JobBackend) (clock : RuntimeClock) (r : ByocToolResultEnvelope)
    (jobs : B.State) : Prop :=
  ∃ v, B.record jobs r.jobId = some v ∧ v.HeldBy clock.lease r.leaseToken ∧
    v.HeldBy clock.complete r.leaseToken ∧ verifyResultArtifactMetadata v.spec r = ""

/-- **The submission completes its lease and is refused afterwards**, in the state `s` that its
retention pass left. -/
def ForfeitsLease (B : JobBackend) (R : ResultBackend) (G : ReplayGuard ρ)
    (settings : ByocRuntimeSettings)
    (jwtDecode : Epoch → String → String → Except JwtError JwtPayload) (clock : RuntimeClock)
    (sub : Submission) (s : RuntimeState B.State R.State ρ) : Prop :=
  (B.runtime R.store G settings jwtDecode).ReachesLease clock sub s ∧
    HoldsLease B clock sub.result s.jobs ∧ R.Refuses s.results sub.result

/-- The submission is answered as a duplicate before its lease is looked at. -/
def AnsweredDuplicate (B : JobBackend) (R : ResultBackend) (G : ReplayGuard ρ)
    (settings : ByocRuntimeSettings)
    (jwtDecode : Epoch → String → String → Except JwtError JwtPayload) (clock : RuntimeClock)
    (sub : Submission) (s : RuntimeState B.State R.State ρ) : Prop :=
  (B.runtime R.store G settings jwtDecode).Authentic clock sub s ∧
    sub.result.tenantId = sub.tenantId ∧
    (B.runtime R.store G settings jwtDecode).KnownKey sub.result s.results

instance (clock : RuntimeClock) (sub : Submission) (s : RuntimeState B.State R.State ρ) :
    Decidable (AnsweredDuplicate B R G settings jwtDecode clock sub s) :=
  inferInstanceAs (Decidable (_ ∧ _))

/-! ## The two lease checks of a submission -/

section LeaseChecks

variable {clock : RuntimeClock} {r : ByocToolResultEnvelope} {jobs : B.State}

theorem inv_lookup (hinv : B.Inv jobs) :
    B.Inv ((B.runtime R.store G settings jwtDecode).lookup clock r jobs).2 :=
  B.checked.inv_step jobs ⟨clock.lease, .getLeasedJob r.jobId r.leaseToken⟩ hinv

theorem lookup_none (hinv : B.Inv jobs)
    (h : ((B.runtime R.store G settings jwtDecode).lookup clock r jobs).1 = none) :
    (∀ v, B.record jobs r.jobId = some v → ¬v.HeldBy clock.lease r.leaseToken) ∧
      LeaseKept clock (B.record jobs r.jobId)
        (B.record ((B.runtime R.store G settings jwtDecode).lookup clock r jobs).2 r.jobId) := by
  rcases B.checked.lookup jobs clock.lease r.jobId r.leaseToken hinv with
    ⟨-, hrefused⟩ | ⟨-, hout⟩ | ⟨⟨v, -, -, hsome⟩, -⟩
  · exact ⟨hrefused.not_held, leaseKept_of_eq (hrefused.2 r.jobId)⟩
  · obtain ⟨v, hv, hexp⟩ := hout.1
    refine ⟨hout.not_held, .inr ⟨v, hv, .inl hexp, ?_⟩⟩
    rw [← sweep_of_expired hexp, ← Option.map_some, ← hv]
    exact hout.2 r.jobId
  · exact nomatch hsome.symm.trans h

theorem lookup_some (hinv : B.Inv jobs) {job : ByocToolJobEnvelope}
    (h : ((B.runtime R.store G settings jwtDecode).lookup clock r jobs).1 = some job) :
    (∃ v, B.record jobs r.jobId = some v ∧ v.HeldBy clock.lease r.leaseToken ∧
        job.toJobSpec = v.spec) ∧
      ∀ k, B.record ((B.runtime R.store G settings jwtDecode).lookup clock r jobs).2 k =
        B.record jobs k := by
  rcases B.checked.lookup jobs clock.lease r.jobId r.leaseToken hinv with
    ⟨hnone, -⟩ | ⟨hnone, -⟩ | ⟨⟨v, hv, hheld, hsome⟩, hsame⟩
  · exact nomatch hnone.symm.trans h
  · exact nomatch hnone.symm.trans h
  · refine ⟨⟨v, hv, hheld, ?_⟩, hsame⟩
    rw [Option.some.inj (h.symm.trans hsome)]
    rfl

theorem close_false (hinv : B.Inv jobs)
    (h : ((B.runtime R.store G settings jwtDecode).close clock r jobs).1 = false) :
    (∀ v, B.record jobs r.jobId = some v → ¬v.HeldBy clock.complete r.leaseToken) ∧
      LeaseKept clock (B.record jobs r.jobId)
        (B.record ((B.runtime R.store G settings jwtDecode).close clock r jobs).2 r.jobId) := by
  rcases B.checked.completion jobs clock.complete r.jobId r.leaseToken hinv with
    ⟨-, hrefused⟩ | ⟨-, hout⟩ | ⟨htrue, -⟩
  · exact ⟨hrefused.not_held, leaseKept_of_eq (hrefused.2 r.jobId)⟩
  · obtain ⟨v, hv, hexp⟩ := hout.1
    refine ⟨hout.not_held, .inr ⟨v, hv, .inr hexp, ?_⟩⟩
    rw [← sweep_of_expired hexp, ← Option.map_some, ← hv]
    exact hout.2 r.jobId
  · exact nomatch htrue.symm.trans h

theorem close_true (hinv : B.Inv jobs)
    (h : ((B.runtime R.store G settings jwtDecode).close clock r jobs).1 = true) :
    ∃ v, B.record jobs r.jobId = some v ∧ v.HeldBy clock.complete r.leaseToken ∧
      B.record ((B.runtime R.store G settings jwtDecode).close clock r jobs).2 r.jobId =
        some v.complete := by
  rcases B.checked.completion jobs clock.complete r.jobId r.leaseToken hinv with
    ⟨hfalse, -⟩ | ⟨hfalse, -⟩ | ⟨-, v, hv, hheld, hafter, -⟩
  · exact nomatch hfalse.symm.trans h
  · exact nomatch hfalse.symm.trans h
  · exact ⟨v, hv, hheld, hafter⟩

end LeaseChecks

/-! ## From the retention pass on -/

section AfterRetention

variable {clock : RuntimeClock} {sub : Submission} {s : RuntimeState B.State R.State ρ}

/-- A key that did not stop the submission is one the result store has not seen. -/
theorem not_seen_of_reachesLease
    (h : (B.runtime R.store G settings jwtDecode).ReachesLease clock sub s)
    (hkey : strip sub.result.idempotencyKey ≠ "") :
    ¬R.seen s.results (strip sub.result.idempotencyKey) := by
  intro hseen
  refine h.2.2 ⟨hkey, (R.lawful.hasIdempotencyKey_iff _ _).mpr ?_⟩
  rw [strip_strip]
  exact ⟨hkey, hseen⟩

/-- What the result store says to a submission that got there. -/
theorem ingest_accepted_iff
    (h : (B.runtime R.store G settings jwtDecode).ReachesLease clock sub s) :
    (R.store.ingest clock.ingest sub.result s.results).1.accepted = true ↔
      ¬R.Refuses s.results sub.result := by
  by_cases hkey : strip sub.result.idempotencyKey = ""
  · rw [(R.lawful.ingest_blank clock.ingest sub.result s.results hkey).1]
    exact ⟨nofun, fun hno ↦ absurd (.inl hkey) hno⟩
  · have hnew := not_seen_of_reachesLease h hkey
    cases hconflict : conflictRefused (R.strategy s.results)
        (R.payload s.results sub.result.jobId) sub.result with
    | true =>
      rw [(R.lawful.ingest_conflict clock.ingest sub.result s.results hkey hnew hconflict).1]
      exact ⟨nofun, fun hno ↦ absurd (.inr hconflict) hno⟩
    | false =>
      refine iff_of_true
        (R.lawful.ingest_taken clock.ingest sub.result s.results hkey hnew hconflict).1 ?_
      rintro (hblank | hrefused)
      · exact hkey hblank
      · exact nomatch hconflict.symm.trans hrefused

/-- **A submission that is not accepted keeps its lease, unless it forfeits it.** -/
theorem leaseKept_iff (hinv : B.Inv s.jobs) {answer : Except String ByocResultIngestOutcome}
    {jobs : B.State} {results : R.State}
    (hcase : TenantByocConnectorRuntime.SubmitCase (B.runtime R.store G settings jwtDecode) clock
      sub s answer jobs results) (hno : NotAccepted answer) :
    LeaseKept clock (B.record s.jobs sub.result.jobId) (B.record jobs sub.result.jobId) ↔
      ¬ForfeitsLease B R G settings jwtDecode clock sub s := by
  cases hcase with
  | raised h =>
    refine iff_of_true (leaseKept_of_eq rfl) fun hforfeits ↦ ?_
    exact h.elim (· hforfeits.1.1) (· hforfeits.1.2.1)
  | duplicate => exact nomatch hno
  | unleased h hnone =>
    obtain ⟨hnot, hkept⟩ := lookup_none hinv hnone
    refine iff_of_true hkept ?_
    rintro ⟨-, ⟨v, hv, hheld, -⟩, -⟩
    exact hnot v hv hheld
  | mismatched h hjob hartifact =>
    obtain ⟨⟨v, hv, -, hspec⟩, hsame⟩ := lookup_some hinv hjob
    refine iff_of_true (leaseKept_of_eq (hsame _)) ?_
    rintro ⟨-, ⟨w, hw, -, -, hfits⟩, -⟩
    obtain rfl := Option.some.inj (hv.symm.trans hw)
    exact hartifact (hspec ▸ hfits)
  | late h hjob hartifact hlate =>
    obtain ⟨⟨v, hv, -, -⟩, hsame⟩ := lookup_some hinv hjob
    obtain ⟨hnot, hkept⟩ := close_false (inv_lookup hinv) hlate
    rw [hsame] at hnot hkept
    refine iff_of_true hkept ?_
    rintro ⟨-, ⟨w, hw, -, hheld, -⟩, -⟩
    exact hnot w hw hheld
  | closed h hjob hartifact hclosed =>
    obtain ⟨⟨v, hv, hlease, hspec⟩, hsame⟩ := lookup_some hinv hjob
    obtain ⟨w, hw, hcomplete, hafter⟩ := close_true (inv_lookup hinv) hclosed
    rw [hsame] at hw
    obtain rfl := Option.some.inj (hv.symm.trans hw)
    have hrefused : R.Refuses s.results sub.result := by
      by_contra hnot
      exact nomatch ((ingest_accepted_iff h).mpr hnot).symm.trans hno
    rw [hv, hafter]
    refine iff_of_false (not_leaseKept_complete hlease.1) (not_not_intro ⟨h, ?_, hrefused⟩)
    exact ⟨v, hv, hlease, hcomplete, hspec ▸ hartifact⟩

/-- A submission that forfeits its lease is not accepted. -/
theorem notAccepted_of_forfeitsLease (h : ForfeitsLease B R G settings jwtDecode clock sub s)
    {answer : Except String ByocResultIngestOutcome} {jobs : B.State} {results : R.State}
    (hcase : TenantByocConnectorRuntime.SubmitCase (B.runtime R.store G settings jwtDecode) clock
      sub s answer jobs results) : NotAccepted answer := by
  cases hcase with
  | raised => trivial
  | duplicate _ _ hknown => exact absurd hknown h.1.2.2
  | unleased | mismatched | late => rfl
  | closed hreaches =>
    exact Bool.eq_false_iff.mpr fun hacc ↦ (ingest_accepted_iff hreaches).mp hacc h.2.2

/-- A submission for a job without a record changes nothing about it, and is not accepted unless
it is a duplicate. -/
theorem submitCase_of_no_record (hinv : B.Inv s.jobs)
    {answer : Except String ByocResultIngestOutcome} {jobs : B.State} {results : R.State}
    (hcase : TenantByocConnectorRuntime.SubmitCase (B.runtime R.store G settings jwtDecode) clock
      sub s answer jobs results) (hnone : B.record s.jobs sub.result.jobId = none) :
    B.record jobs sub.result.jobId = none ∧
      (NotAccepted answer ↔ ¬AnsweredDuplicate B R G settings jwtDecode clock sub s) := by
  have hunheld : ∀ {job}, ((B.runtime R.store G settings jwtDecode).lookup clock sub.result
      s.jobs).1 ≠ some job := by
    intro job hjob
    obtain ⟨⟨v, hv, -⟩, -⟩ := lookup_some hinv hjob
    exact nomatch hnone.symm.trans hv
  cases hcase with
  | raised h =>
    refine ⟨hnone, iff_of_true trivial fun hdup ↦ ?_⟩
    exact h.elim (· hdup.1) (· hdup.2.1)
  | duplicate hauth htenant hknown =>
    exact ⟨hnone, iff_of_false nofun (not_not_intro ⟨hauth, htenant, hknown⟩)⟩
  | unleased h hlookup =>
    refine ⟨?_, iff_of_true rfl fun hdup ↦ h.2.2 hdup.2.2⟩
    rcases (lookup_none hinv hlookup).2 with hsame | ⟨v, hv, -⟩
    · rw [hnone] at hsame
      exact Option.map_eq_none_iff.mp hsame
    · exact nomatch hnone.symm.trans hv
  | mismatched h hjob => exact absurd hjob hunheld
  | late h hjob => exact absurd hjob hunheld
  | closed h hjob => exact absurd hjob hunheld

end AfterRetention

/-! ## Whole submissions -/

/-- A submission from any state of the backends, retention pass included. -/
theorem atomic_iff {clock : RuntimeClock} {sub : Submission} {s : RuntimeState B.State R.State ρ}
    (hinv : B.Inv s.jobs) :
    let rt := B.runtime R.store G settings jwtDecode
    let s' := rt.cleaned clock sub.tenantId s
    (NotAccepted (rt.submit clock sub s).1 →
        LeaseKept clock (B.record s.jobs sub.result.jobId)
          (B.record (rt.submit clock sub s).2.jobs sub.result.jobId)) ↔
      ¬ForfeitsLease B R G settings jwtDecode clock sub s' ∧
        (B.record s'.jobs sub.result.jobId = B.record s.jobs sub.result.jobId ∨
          AnsweredDuplicate B R G settings jwtDecode clock sub s') := by
  intro rt s'
  have hcase : TenantByocConnectorRuntime.SubmitCase rt clock sub s' (rt.submit clock sub s).1
      (rt.submit clock sub s).2.jobs (rt.submit clock sub s).2.results :=
    rt.submit_cases clock sub s
  have hinv' : B.Inv s'.jobs := JobBackend.inv_cleaned hinv clock sub.tenantId
  have hretention : B.record s'.jobs sub.result.jobId = B.record s.jobs sub.result.jobId ∨
      (B.record s'.jobs sub.result.jobId = none ∧
        ∃ v, B.record s.jobs sub.result.jobId = some v ∧ v.Finished ∧
          v.spec.tenantId = strip sub.tenantId) :=
    JobBackend.record_cleaned hinv clock sub.tenantId sub.result.jobId
  rcases hretention with hsame | ⟨hnone, v, hv, -⟩
  · rw [← hsame]
    constructor
    · intro hkept
      refine ⟨fun hforfeits ↦ ?_, .inl rfl⟩
      have hno := notAccepted_of_forfeitsLease hforfeits hcase
      exact (leaseKept_iff hinv' hcase hno).mp (hkept hno) hforfeits
    · rintro ⟨hkeeps, -⟩ hno
      exact (leaseKept_iff hinv' hcase hno).mpr hkeeps
  · obtain ⟨hafter, hduplicate⟩ := submitCase_of_no_record hinv' hcase hnone
    have hkeeps : ¬ForfeitsLease B R G settings jwtDecode clock sub s' := by
      rintro ⟨-, ⟨w, hw, -⟩, -⟩
      exact nomatch hnone.symm.trans hw
    rw [hv, hafter, hnone]
    constructor
    · intro hkept
      refine ⟨hkeeps, .inr ?_⟩
      by_contra hdup
      exact not_leaseKept_none (hkept (hduplicate.mpr hdup))
    · rintro ⟨-, hsome | hdup⟩ hno
      · exact nomatch hsome
      · exact absurd hdup (hduplicate.mp hno)

end

/-- **When a submission that is not accepted leaves its job as it was.**  In every reachable state
of the runtime, over any backends: if and only if it does not complete its lease to be refused
afterwards, and its retention pass does not prune the record of its own (finished) job, or it is
answered as a duplicate anyway. -/
theorem submission_atomic_iff (B : JobBackend) (R : ResultBackend) {ρ : Type} (G : ReplayGuard ρ)
    (settings : ByocRuntimeSettings)
    (jwtDecode : Epoch → String → String → Except JwtError JwtPayload) (replay : ρ)
    (calls : List RuntimeCall) (clock : RuntimeClock) (sub : Submission) :
    let rt := B.runtime R.store G settings jwtDecode
    let s := Run.exec rt.step { jobs := B.init, results := R.init, replay := replay } calls
    let s' := rt.cleaned clock sub.tenantId s
    (NotAccepted (rt.submit clock sub s).1 →
        LeaseKept clock (B.record s.jobs sub.result.jobId)
          (B.record (rt.submit clock sub s).2.jobs sub.result.jobId)) ↔
      ¬ForfeitsLease B R G settings jwtDecode clock sub s' ∧
        (B.record s'.jobs sub.result.jobId = B.record s.jobs sub.result.jobId ∨
          AnsweredDuplicate B R G settings jwtDecode clock sub s') := by
  intro rt s
  exact atomic_iff (JobBackend.inv_run B.init_inv calls)

/-- A result without an idempotency key is refused, and its job is completed all the same. -/
theorem submission_not_atomic_without_key :
    let rt := JobBackend.inMemory.runtime (ResultBackend.inMemory .firstWriteWins).store
      inMemoryReplayGuard { workerJwtSecret := "s" } sampleDecode
    let s := Run.exec rt.step { jobs := .init, results := .init .firstWriteWins, replay := .init }
      sampleCalls
    ¬(NotAccepted (rt.submit (.still 3) (sampleSubmission "") s).1 →
      LeaseKept (.still 3) (InMemoryByocJobQueueStore.record s.jobs "j")
        (InMemoryByocJobQueueStore.record (rt.submit (.still 3) (sampleSubmission "") s).2.jobs
          "j")) := by
  decide

end Byoc
end ExoBrain
