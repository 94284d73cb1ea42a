import ExoBrain.Byoc.Acknowledgement

/-!
# The artifact a delivered result was made with

A job may declare which artifact it is to be run with: the hash of the bundle, the signature of the
bundle, and the version of the signature.  A worker reports the same three fields with its result,
and `verify_result_artifact_metadata` compares them before the lease is completed.  So what
`execute` hands to its caller should carry what the job declares.

For the hash and the signature a report that is missing is turned away like one that differs.  For
the version it is not: it is only compared if the worker reports one (`verify_eq_empty_iff`).
`DropsVersion` is the submission that gets away with that, and `delivered_identity` says that
nothing else goes wrong: in a run without such submissions, everything that is delivered carries
the identity of its job, however submissions are repeated, refused, replayed or cancelled.

The invariant is about what the stores hold.  Every record of the job store is the one `execute`
created under its id, and every payload in the result store carries the identity of the job under
whose id it is stored.
-/

set_option autoImplicit false

namespace ExoBrain
namespace Byoc

open Text

/-! ## Identity -/

/-- A declared value that is not blank is the one that was submitted. -/
def Carried (declared submitted : String) : Prop :=
  strip declared ≠ "" → strip submitted = strip declared

instance (declared submitted : String) : Decidable (Carried declared submitted) :=
  inferInstanceAs (Decidable (_ → _))

/-- **The result carries the artifact identity of the job.** -/
def CarriesIdentity (job : JobSpec) (r : ByocToolResultEnvelope) : Prop :=
  Carried job.artifactBundleHashSha256 r.artifactBundleHashSha256 ∧
    Carried job.artifactBundleSignatureHmacSha256 r.artifactBundleSignatureHmacSha256 ∧
    Carried job.artifactSignatureVersion r.artifactSignatureVersion

instance (job : JobSpec) (r : ByocToolResultEnvelope) : Decidable (CarriesIdentity job r) :=
  inferInstanceAs (Decidable (_ ∧ _ ∧ _))

/-- The job declares a signature version, and the result reports none. -/
def LacksVersion (job : JobSpec) (r : ByocToolResultEnvelope) : Prop :=
  strip job.artifactSignatureVersion ≠ "" ∧ strip r.artifactSignatureVersion = ""

instance (job : JobSpec) (r : ByocToolResultEnvelope) : Decidable (LacksVersion job r) :=
  inferInstanceAs (Decidable (_ ∧ _))

/-- A value is carried if it is not declared, or if it is submitted and does not differ. -/
theorem carried_iff {declared submitted : String} :
    Carried declared submitted ↔
      ¬(strip declared ≠ "" ∧ strip submitted ≠ "" ∧ strip declared ≠ strip submitted) ∧
        ¬(strip declared ≠ "" ∧ strip submitted = "") := by
  rw [Carried]
  constructor
  · intro h
    refine ⟨fun ⟨hdeclared, _, hne⟩ ↦ hne (h hdeclared).symm, fun ⟨hdeclared, hblank⟩ ↦ ?_⟩
    exact hdeclared ((h hdeclared).symm.trans hblank)
  · rintro ⟨hdiffers, hmissing⟩ hdeclared
    by_contra hne
    exact hdiffers ⟨hdeclared, fun hblank ↦ hmissing ⟨hdeclared, hblank⟩, fun h ↦ hne h.symm⟩

/-- **What the verifier lets through**: results that carry the identity of the job, and results
that would carry it if they did not lack the version. -/
theorem verify_eq_empty_iff (job : JobSpec) (r : ByocToolResultEnvelope) :
    verifyResultArtifactMetadata job r = "" ↔
      Carried job.artifactBundleHashSha256 r.artifactBundleHashSha256 ∧
        Carried job.artifactBundleSignatureHmacSha256 r.artifactBundleSignatureHmacSha256 ∧
        (Carried job.artifactSignatureVersion r.artifactSignatureVersion ∨ LacksVersion job r) := by
  have hversion : Carried job.artifactSignatureVersion r.artifactSignatureVersion ∨
      LacksVersion job r ↔ ¬(strip job.artifactSignatureVersion ≠ "" ∧
        strip r.artifactSignatureVersion ≠ "" ∧
        strip job.artifactSignatureVersion ≠ strip r.artifactSignatureVersion) := by
    constructor
    · rintro (hcarried | ⟨-, hblank⟩) ⟨hdeclared, hsubmitted, hne⟩
      · exact hne (hcarried hdeclared).symm
      · exact hsubmitted hblank
    · intro hno
      by_cases hlacks : LacksVersion job r
      · exact .inr hlacks
      · exact .inl (carried_iff.mpr ⟨hno, hlacks⟩)
  rw [hversion, carried_iff, carried_iff, verifyResultArtifactMetadata]
  split_ifs with h₁ h₂ h₃ h₄ h₅
  · exact iff_of_false (by decide) fun h ↦ h.2.2 h₁
  · exact iff_of_false (by decide) fun h ↦ h.1.1 h₂
  · exact iff_of_false (by decide) fun h ↦ h.2.1.1 h₃
  · exact iff_of_false (by decide) fun h ↦ h.1.2 h₄
  · exact iff_of_false (by decide) fun h ↦ h.2.1.2 h₅
  · exact iff_of_true rfl ⟨⟨h₂, h₄⟩, ⟨h₃, h₅⟩, h₁⟩

theorem carriesIdentity_of_verify {job : JobSpec} {r : ByocToolResultEnvelope}
    (h : verifyResultArtifactMetadata job r = "") (hversion : ¬LacksVersion job r) :
    CarriesIdentity job r := by
  obtain ⟨hhash, hsignature, hcarried⟩ := (verify_eq_empty_iff job r).mp h
  exact ⟨hhash, hsignature, hcarried.resolve_right hversion⟩

/-! ## Delivery -/

/-- A result store that hands out what was put into it: `consume` answers the payload of the job it
names, and neither it nor retention makes up a payload. -/
structure DeliveryBackend extends ResultBackend where
  payload_init : ∀ k, payload init k = none
  consume_payload : ∀ {jobId t r}, (store.consume jobId t).1 = some r →
    payload t (strip jobId) = some r
  payload_consume : ∀ {jobId t k r}, payload (store.consume jobId t).2 k = some r →
    payload t k = some r
  payload_cleanupRetention : ∀ {now tenantId limits t k r},
    payload (store.cleanupRetention now tenantId limits t).2 k = some r → payload t k = some r

/-- The in-memory results are delivered as they came. -/
def DeliveryBackend.inMemory (strategy : ByocResultConflictStrategy) : DeliveryBackend where
  toResultBackend := .inMemory strategy
  payload_init _ := rfl
  consume_payload {jobId t r} h := by
    simp only [ResultBackend.inMemory, inMemoryByocResultStore, InMemoryByocResultStore.consume] at h
    split at h
    · exact nomatch h
    · exact h
  payload_consume {jobId t k r} h := by
    simp only [ResultBackend.inMemory, inMemoryByocResultStore, InMemoryByocResultStore.consume] at h
    split at h
    · exact h
    · simp only [InMemoryByocResultStore.payload, Dict.get?_erase] at h
      split at h
      · exact nomatch h
      · exact h
  payload_cleanupRetention h := h

/-- So are the results in SQLite. -/
def DeliveryBackend.sqlite (strategy : ByocResultConflictStrategy) (shared : Bool) :
    DeliveryBackend where
  toResultBackend := .sqlite strategy shared
  payload_init _ := rfl
  consume_payload {jobId t r} h := by
    simp only [ResultBackend.sqlite, sqliteByocResultStore, SQLiteByocResultStore.consume] at h
    split at h
    · exact nomatch h
    · exact h
  payload_consume {jobId t k r} h := by
    simp only [ResultBackend.sqlite, sqliteByocResultStore, SQLiteByocResultStore.consume] at h
    split at h
    · exact h
    · simp only [SQLiteByocResultStore.payload, Dict.get?_erase] at h
      split at h
      · exact nomatch h
      · exact h
  payload_cleanupRetention {now tenantId limits t k r} h := by
    simp only [ResultBackend.sqlite, sqliteByocResultStore,
      SQLiteByocResultStore.cleanupRetention] at h
    split at h
    · exact h
    · simp only [SQLiteByocResultStore.payload, Dict.get?_filter] at h
      obtain ⟨row, hrow, rfl⟩ := Option.map_eq_some_iff.mp h
      have hkept := (Option.filter_eq_some_iff.mp hrow).1
      exact Option.map_eq_some_iff.mpr ⟨row, (Option.filter_eq_some_iff.mp hkept).1, rfl⟩

/-! ## The condition -/

/-- The job a call creates. -/
def RuntimeCall.enqueuedSpec (c : RuntimeCall) : Option JobSpec :=
  match c.op with
  | .executeEnqueue true call descriptor jobId => some (jobOfCall call descriptor jobId).toJobSpec
  | _ => none

/-- The jobs a run creates. -/
def enqueuedSpecs (calls : List RuntimeCall) : List JobSpec :=
  calls.filterMap RuntimeCall.enqueuedSpec

theorem map_jobId_enqueuedSpec (c : RuntimeCall) :
    c.enqueuedSpec.map JobSpec.jobId = c.enqueuedId := by
  obtain ⟨clock, op⟩ := c
  cases op with
  | executeEnqueue admitted call descriptor jobId => cases admitted <;> rfl
  | _ => rfl

theorem map_jobId_enqueuedSpecs (calls : List RuntimeCall) :
    (enqueuedSpecs calls).map JobSpec.jobId = enqueuedIds calls := by
  rw [enqueuedSpecs, List.map_filterMap, enqueuedIds]
  exact List.filterMap_congr fun c _ ↦ map_jobId_enqueuedSpec c

section

variable {B : JobBackend} {R : DeliveryBackend} {ρ : Type} {G : ReplayGuard ρ}
  {settings : ByocRuntimeSettings}
  {jwtDecode : Epoch → String → String → Except JwtError JwtPayload}
  {s : RuntimeState B.State R.State ρ} {specs : List JobSpec}

/-- **The submission completes its lease and is taken, without the signature version its job
declares**, in the state `s` that its retention pass left. -/
def DropsVersion (B : JobBackend) (R : ResultBackend) (G : ReplayGuard ρ)
    (settings : ByocRuntimeSettings)
    (jwtDecode : Epoch → String → String → Except JwtError JwtPayload) (clock : RuntimeClock)
    (sub : Submission) (s : RuntimeState B.State R.State ρ) : Prop :=
  (B.runtime R.store G settings jwtDecode).ReachesLease clock sub s ∧
    HoldsLease B clock sub.result s.jobs ∧ ¬R.Refuses s.results sub.result ∧
    ∃ v ∈ B.record s.jobs sub.result.jobId, LacksVersion v.spec sub.result

instance (r : ByocToolResultEnvelope) (results : R.State) :
    Decidable (R.Refuses results r) := inferInstanceAs (Decidable (_ ∨ _))

instance (clock : RuntimeClock) (r : ByocToolResultEnvelope) (jobs : B.State) :
    Decidable (HoldsLease B clock r jobs) :=
  inferInstanceAs (Decidable (∃ v ∈ B.record jobs r.jobId, v.HeldBy clock.lease r.leaseToken ∧
    v.HeldBy clock.complete r.leaseToken ∧ verifyResultArtifactMetadata v.spec r = ""))

instance (clock : RuntimeClock) (sub : Submission) (s : RuntimeState B.State R.State ρ) :
    Decidable (DropsVersion B R.toResultBackend G settings jwtDecode clock sub s) :=
  inferInstanceAs (Decidable (_ ∧ _ ∧ ¬_ ∧ _))

/-- The call is not a submission that drops the version of its job. -/
def KeepsVersion (B : JobBackend) (R : ResultBackend) (G : ReplayGuard ρ)
    (settings : ByocRuntimeSettings)
    (jwtDecode : Epoch → String → String → Except JwtError JwtPayload)
    (s : RuntimeState B.State R.State ρ) (c : RuntimeCall) : Prop :=
  match c.op with
  | .submit sub => ¬DropsVersion B R G settings jwtDecode c.clock sub
      ((B.runtime R.store G settings jwtDecode).cleaned c.clock sub.tenantId s)
  | _ => True

instance (s : RuntimeState B.State R.State ρ) (c : RuntimeCall) :
    Decidable (KeepsVersion B R.toResultBackend G settings jwtDecode s c) :=
  match c with
  | ⟨_, .submit _⟩ => inferInstanceAs (Decidable (¬_))
  | ⟨_, .executeEnqueue _ _ _ _⟩ | ⟨_, .executePoll _ _⟩ | ⟨_, .claimNextJob _ _ _ _⟩
  | ⟨_, .requestCancellation _⟩ | ⟨_, .replayDeadLetterJob _ _⟩ | ⟨_, .replayDeadLetterJobs _ _ _⟩
  | ⟨_, .cleanupRetention _ _⟩ => isTrue trivial

/-! ## What the stores hold -/

/-- The records are those of the jobs `specs`, and the payloads carry the identity of theirs. -/
structure Identified (B : JobBackend) (R : ResultBackend) (specs : List JobSpec)
    (s : RuntimeState B.State R.State ρ) : Prop where
  inv : B.Inv s.jobs
  records : ∀ k v, B.record s.jobs k = some v → v.spec ∈ specs ∧ v.spec.jobId = k
  payloads : ∀ k r, R.payload s.results k = some r →
    ∃ job ∈ specs, job.jobId = k ∧ CarriesIdentity job r

/-- The records stay those of the jobs that were created. -/
theorem records_step {c : RuntimeCall} (hinv : B.Inv s.jobs)
    (hnew : ∀ job, c.enqueuedSpec = some job → job ∈ specs)
    (h : ∀ k v, B.record s.jobs k = some v → v.spec ∈ specs ∧ v.spec.jobId = k) :
    ∀ k v, B.record ((B.runtime R.store G settings jwtDecode).step s c).2.jobs k = some v →
      v.spec ∈ specs ∧ v.spec.jobId = k := by
  rw [TenantByocConnectorRuntime.jobs_step]
  have hcreated : Run.Along B.store.step
      (fun _ j ↦ ∀ job, j.op = .enqueue job → job.toJobSpec ∈ specs) s.jobs
      ((B.runtime R.store G settings jwtDecode).jobCalls s c) := by
    refine Run.along_of_forall_mem (fun j hj _ job hjob ↦ ?_) s.jobs
    rcases (B.runtime R.store G settings jwtDecode).mem_jobCalls hj with
      ⟨call, descriptor, jobId, hc, hop⟩ | ⟨rfl, -⟩ | ⟨hno, -⟩
    · obtain rfl := JobOp.enqueue.inj (hop.symm.trans hjob)
      exact hnew _ (by rw [RuntimeCall.enqueuedSpec, hc])
    · exact nomatch hjob
    · exact absurd hjob (hno job)
  refine (Run.exec_invariant (P := fun jobs ↦ B.Inv jobs ∧
    ∀ k v, B.record jobs k = some v → v.spec ∈ specs ∧ v.spec.jobId = k)
    (fun jobs j hj hP ↦ ⟨B.checked.inv_step jobs j hP.1, fun k v hv ↦ ?_⟩) hcreated ⟨hinv, h⟩).2
  rcases (B.checked.record_step jobs j k hP.1).move.spec_cases hv with
    ⟨-, job, hop, hk, hspec⟩ | ⟨w, hw, hspec⟩
  · rw [hspec]
    exact ⟨hj job hop, hk⟩
  · rw [hspec]
    exact hP.2 k w hw

/-- Retention makes up no payload. -/
theorem payload_cleaned {clock : RuntimeClock} {tenantId k : String} {force : Bool}
    {r : ByocToolResultEnvelope}
    (h : R.payload ((B.runtime R.store G settings jwtDecode).runCleanup clock tenantId force
      s).2.results k = some r) : R.payload s.results k = some r := by
  rw [TenantByocConnectorRuntime.runCleanup] at h
  split at h
  · exact R.payload_cleanupRetention h
  · exact h

/-- A payload after a submission was there before, or it is the submitted one and carries the
identity of its job. -/
theorem payload_submitCase {clock : RuntimeClock} {sub : Submission}
    {answer : Except String ByocResultIngestOutcome} {jobs : B.State} {results : R.State}
    (hinv : B.Inv s.jobs)
    (hcase : TenantByocConnectorRuntime.SubmitCase (B.runtime R.store G settings jwtDecode) clock
      sub s answer jobs results)
    (hkeeps : ¬DropsVersion B R.toResultBackend G settings jwtDecode clock sub s) {k : String}
    {r : ByocToolResultEnvelope} (h : R.payload results k = some r) :
    R.payload s.results k = some r ∨
      ∃ v, B.record s.jobs k = some v ∧ CarriesIdentity v.spec r := by
  cases hcase with
  | raised | duplicate | unleased | mismatched | late => exact .inl h
  | closed hreaches hjob hartifact hclosed =>
    obtain ⟨⟨v, hv, hlease, hspec⟩, hsame⟩ := lookup_some hinv hjob
    obtain ⟨w, hw, hcomplete, -⟩ := close_true (inv_lookup hinv) hclosed
    rw [hsame] at hw
    obtain rfl := Option.some.inj (hv.symm.trans hw)
    rw [hspec] at hartifact
    by_cases hrefused : R.Refuses s.results sub.result
    · refine .inl ?_
      rw [← h]
      symm
      by_cases hkey : strip sub.result.idempotencyKey = ""
      · exact (R.lawful.ingest_blank clock.ingest sub.result s.results hkey).2.1 k
      · exact (R.lawful.ingest_conflict clock.ingest sub.result s.results hkey
          (not_seen_of_reachesLease hreaches hkey) (hrefused.resolve_left hkey)).2.1 k
    · obtain ⟨hkey, hconflict⟩ := not_or.mp hrefused
      have htaken := (R.lawful.ingest_taken clock.ingest sub.result s.results hkey
        (not_seen_of_reachesLease hreaches hkey) (Bool.eq_false_iff.mpr hconflict)).2.2.1 k
      rw [h] at htaken
      split at htaken
      · rename_i hk
        obtain rfl := Option.some.inj htaken
        refine .inr ⟨v, hk ▸ hv, carriesIdentity_of_verify hartifact fun hlacks ↦ hkeeps ?_⟩
        exact ⟨hreaches, ⟨v, hv, hlease, hcomplete, hartifact⟩, hrefused, v, hv, hlacks⟩
      · exact .inl htaken.symm

/-- A submission that drops the version leaves a payload that does not carry the identity of its
job. -/
theorem payload_of_dropsVersion {clock : RuntimeClock} {sub : Submission}
    {answer : Except String ByocResultIngestOutcome} {jobs : B.State} {results : R.State}
    (hinv : B.Inv s.jobs)
    (hcase : TenantByocConnectorRuntime.SubmitCase (B.runtime R.store G settings jwtDecode) clock
      sub s answer jobs results)
    (hdrops : DropsVersion B R.toResultBackend G settings jwtDecode clock sub s) :
    ∃ v r, B.record s.jobs sub.result.jobId = some v ∧
      R.payload results sub.result.jobId = some r ∧ ¬CarriesIdentity v.spec r := by
  obtain ⟨hreaches, ⟨w, hw, hlease, hcomplete, hfits⟩, htaken, v, hv, hdeclared, hblank⟩ := hdrops
  have hresults : results = (R.store.ingest clock.ingest sub.result s.results).2 := by
    cases hcase with
    | raised h => exact absurd h (by simp [hreaches.1, hreaches.2.1])
    | duplicate _ _ hknown => exact absurd hknown hreaches.2.2
    | unleased _ hnone => exact absurd hlease ((lookup_none hinv hnone).1 w hw)
    | mismatched _ hjob hartifact =>
      obtain ⟨⟨u, hu, -, hspec⟩, -⟩ := lookup_some hinv hjob
      obtain rfl := Option.some.inj (hw.symm.trans hu)
      exact absurd (hspec ▸ hfits) hartifact
    | late _ hjob _ hlate =>
      have hsame := (lookup_some hinv hjob).2 sub.result.jobId
      exact absurd hcomplete ((close_false (inv_lookup hinv) hlate).1 w (hsame.trans hw))
    | closed => rfl
  have hpayload := (ingest_of_accepted hreaches ((ingest_accepted_iff hreaches).mpr htaken)).2.1
  refine ⟨v, sub.result, hv, hresults ▸ hpayload, fun hcarries ↦ hdeclared ?_⟩
  rw [← hcarries.2.2 hdeclared, hblank]

/-- Every call but a submission leaves the payloads alone or takes some away. -/
theorem payload_step {c : RuntimeCall} (hno : ∀ sub, c.op ≠ .submit sub) {k : String}
    {r : ByocToolResultEnvelope}
    (h : R.payload ((B.runtime R.store G settings jwtDecode).step s c).2.results k = some r) :
    R.payload s.results k = some r := by
  obtain ⟨clock, op⟩ := c
  cases op with
  | executeEnqueue admitted call descriptor jobId =>
    simp only [TenantByocConnectorRuntime.step, TenantByocConnectorRuntime.executeEnqueue] at h
    split at h
    · exact payload_cleaned h
    · exact h
  | executePoll tenantId jobId => exact R.payload_consume h
  | claimNextJob tenantId workerToken requestNonce leaseToken =>
    simp only [TenantByocConnectorRuntime.step] at h
    rw [TenantByocConnectorRuntime.results_claimNextJob] at h
    exact payload_cleaned h
  | submit sub => exact absurd rfl (hno sub)
  | requestCancellation callId =>
    simp only [TenantByocConnectorRuntime.step, TenantByocConnectorRuntime.requestCancellation] at h
    split at h <;> exact h
  | replayDeadLetterJob tenantId jobId | replayDeadLetterJobs tenantId jobIds limit => exact h
  | cleanupRetention tenantId force => exact payload_cleaned h

/-- **Every call that keeps the version keeps the identity of what is stored.** -/
theorem Identified.step (h : Identified B R.toResultBackend specs s) {c : RuntimeCall}
    (hnew : ∀ job, c.enqueuedSpec = some job → job ∈ specs)
    (hkeeps : KeepsVersion B R.toResultBackend G settings jwtDecode s c) :
    Identified B R.toResultBackend specs
      ((B.runtime R.store G settings jwtDecode).step s c).2 := by
  refine ⟨JobBackend.inv_step h.inv c, records_step h.inv hnew h.records, fun k r hr ↦ ?_⟩
  by_cases hsubmit : ∃ sub, c.op = .submit sub
  · obtain ⟨clock, op⟩ := c
    obtain ⟨sub, rfl⟩ := hsubmit
    rcases payload_submitCase (JobBackend.inv_cleaned h.inv clock sub.tenantId)
      ((B.runtime R.store G settings jwtDecode).submit_cases clock sub s) hkeeps hr with
      hold | ⟨v, hv, hcarries⟩
    · exact h.payloads k r (payload_cleaned hold)
    · have hbefore : B.record s.jobs k = some v := by
        rcases JobBackend.record_cleaned h.inv clock sub.tenantId k with hsame | ⟨hnone, -⟩
        · exact hsame.symm.trans hv
        · exact nomatch hnone.symm.trans hv
      obtain ⟨hmem, hid⟩ := h.records k v hbefore
      exact ⟨v.spec, hmem, hid, hcarries⟩
  · exact h.payloads k r (payload_step (fun sub hsub ↦ hsubmit ⟨sub, hsub⟩) hr)

end

/-- **Delivered results carry the artifact identity of their job**, if no submission drops the
signature version.  In every run of the runtime, over any backends, whatever `execute` consumes
under the id of a job it created carries the hash, the signature and the version that the job
declares. -/
theorem delivered_identity (B : JobBackend) (R : DeliveryBackend) {ρ : Type} (G : ReplayGuard ρ)
    (settings : ByocRuntimeSettings)
    (jwtDecode : Epoch → String → String → Except JwtError JwtPayload) (replay : ρ)
    (calls : List RuntimeCall) (hfresh : (enqueuedIds calls).Nodup)
    (hkeeps : Run.Along (B.runtime R.store G settings jwtDecode).step
      (KeepsVersion B R.toResultBackend G settings jwtDecode)
      { jobs := B.init, results := R.init, replay := replay } calls) :
    ∀ e ∈ runtimeHistory B R.toResultBackend G settings jwtDecode replay calls,
      ∀ tenantId jobId result, e.1.op = .executePoll tenantId jobId →
        e.2 = .polled (some result) →
        ∀ clock call descriptor,
          ⟨clock, .executeEnqueue true call descriptor (strip jobId)⟩ ∈ calls →
          CarriesIdentity (jobOfCall call descriptor (strip jobId)).toJobSpec result := by
  have hnew : Run.Along (B.runtime R.store G settings jwtDecode).step
      (fun _ c ↦ ∀ job, c.enqueuedSpec = some job → job ∈ enqueuedSpecs calls)
      { jobs := B.init, results := R.init, replay := replay } calls :=
    Run.along_of_forall_mem (fun c hc _ job hjob ↦ List.mem_filterMap.mpr ⟨c, hc, hjob⟩) _
  refine Run.forall_mem_trace (P := Identified B R.toResultBackend (enqueuedSpecs calls))
    (fun s c hok hs ↦ ⟨hs.step hok.2 hok.1, ?_⟩) (Run.along_and hkeeps hnew)
    ⟨B.init_inv, fun k v hv ↦ absurd ((B.record_init k).symm.trans hv) nofun,
      fun k r hr ↦ absurd ((R.payload_init k).symm.trans hr) nofun⟩
  intro tenantId jobId result hop hreply clock call descriptor hcall
  obtain ⟨now, op⟩ := c
  obtain rfl : op = .executePoll tenantId jobId := hop
  have hconsumed : R.payload s.results (strip jobId) = some result :=
    R.consume_payload (RuntimeReply.polled.inj hreply)
  obtain ⟨job, hmem, hid, hcarries⟩ := hs.payloads _ result hconsumed
  -- The ids of the jobs are distinct, so the one that is stored is the one that is asked about.
  have hnodup : ((enqueuedSpecs calls).map JobSpec.jobId).Nodup := by
    rwa [map_jobId_enqueuedSpecs]
  have hcreated : (jobOfCall call descriptor (strip jobId)).toJobSpec ∈ enqueuedSpecs calls :=
    List.mem_filterMap.mpr ⟨_, hcall, rfl⟩
  rwa [← List.inj_on_of_nodup_map hnodup hmem hcreated hid]

/-- A tool whose bundle was signed. -/
def signedDescriptor : ToolDescriptor :=
  { name := "n"
    artifactBundleHashSha256 := "h"
    artifactBundleSignatureHmacSha256 := "g"
    artifactSignatureVersion := "v1" }

/-- The result of the job `j`, with the given signature version. -/
def signedResult (version : String) : ByocToolResultEnvelope :=
  { jobId := "j", tenantId := "t", runId := "r", callId := "c", toolName := "n"
    idempotencyKey := "t:c:r", leaseToken := "a"
    artifactBundleHashSha256 := "h"
    artifactBundleSignatureHmacSha256 := "g"
    artifactSignatureVersion := version }

/-- The tool is executed as the job `j`, and a worker claims the job and submits its result. -/
def signedCalls (version : String) : List RuntimeCall :=
  [⟨.still 1, .executeEnqueue true { callId := "c", tenantId := "t", runId := "r" }
      signedDescriptor "j"⟩,
    ⟨.still 2, .claimNextJob "t" "tok" "n1" "a"⟩,
    ⟨.still 3, .submit ⟨"t", .worker "tok" "n2", signedResult version⟩⟩]

/-- A version that differs in its blanks is delivered, and carries the identity. -/
theorem delivered_identity_trimmed :
    CarriesIdentity (jobOfCall { callId := "c", tenantId := "t", runId := "r" } signedDescriptor
      "j").toJobSpec (signedResult " v1 ") := by
  have hid : strip "j" = "j" := by decide
  have h := delivered_identity .inMemory (.inMemory .firstWriteWins) inMemoryReplayGuard
    { workerJwtSecret := "s" } sampleDecode .init
    (signedCalls " v1 " ++ [⟨.still 4, .executePoll "t" "j"⟩]) (by decide) (by decide)
    (⟨.still 4, .executePoll "t" "j"⟩, .polled (some (signedResult " v1 ")))
    (by
      rw [runtimeHistory, Run.trace_append]
      refine List.mem_append_right _ (List.mem_singleton.mpr (Prod.ext rfl ?_))
      exact congrArg RuntimeReply.polled (by decide))
    "t" "j" (signedResult " v1 ") rfl rfl (.still 1)
    { callId := "c", tenantId := "t", runId := "r" } signedDescriptor
    (by rw [hid]; decide)
  rwa [hid] at h

/-- A result without a signature version is delivered for a job that declares one. -/
theorem delivered_without_version :
    ¬∀ result, ((JobBackend.inMemory.runtime (DeliveryBackend.inMemory .firstWriteWins).store
          inMemoryReplayGuard { workerJwtSecret := "s" } sampleDecode).executePoll (.still 4) "t"
          "j" (runtimeRun .inMemory (.inMemory .firstWriteWins) inMemoryReplayGuard
            { workerJwtSecret := "s" } sampleDecode .init (signedCalls ""))).1 = some result →
        CarriesIdentity (jobOfCall { callId := "c", tenantId := "t", runId := "r" }
          signedDescriptor "j").toJobSpec result := by
  intro h
  exact absurd (h (signedResult "") (by decide)) (by decide)

end Byoc
end ExoBrain
