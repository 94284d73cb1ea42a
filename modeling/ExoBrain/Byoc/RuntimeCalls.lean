import ExoBrain.Byoc.ConnectorRuntime
import ExoBrain.Byoc.RecordLaws

/-!
# What a call of the runtime does to the stores

A submission is a chain of checks over four stores, and every check is a way out.  `SubmitCase`
lists the six ways, each with the checks that lead there and with what it leaves in the job store
and in the result store; `submit_cases` says that there are no others.  The facts about
submissions are case distinctions over it, and never look at the chain again.

The other results only need to know which operations of the job store a call performs, in which
order and at which clock readings.  `jobCalls` is that list, and `jobs_step` says that running the
list is all that happens to the job store.  So whatever every run of a lawful store keeps, every
run of the runtime keeps.
-/

set_option autoImplicit false

namespace ExoBrain
namespace Byoc

open Text

namespace TenantByocConnectorRuntime

variable {σ τ ρ : Type} (rt : TenantByocConnectorRuntime σ τ ρ)

/-! ## The way to `_ingest_result_after_auth` -/

/-- The checks a submission opens with, whichever way it came. -/
def authenticate (clock : RuntimeClock) (sub : Submission) (s : RuntimeState σ τ ρ) :
    Except String Unit × RuntimeState σ τ ρ :=
  match sub.auth with
  | .worker workerToken requestNonce =>
    let r := rt.authenticateWorker clock "submit" sub.tenantId workerToken requestNonce s
    (r.1.map fun _ ↦ (), r.2)
  | .webhook webhookSecret webhookRequestId =>
    rt.authenticateWebhook clock sub.tenantId webhookSecret webhookRequestId s

/-- The state after the retention pass that a submission starts with. -/
def cleaned (clock : RuntimeClock) (tenantId : String) (s : RuntimeState σ τ ρ) :
    RuntimeState σ τ ρ :=
  (rt.runCleanup clock tenantId false s).2

theorem submit_eq (clock : RuntimeClock) (sub : Submission) (s : RuntimeState σ τ ρ) :
    rt.submit clock sub s =
      match rt.authenticate clock sub (rt.cleaned clock sub.tenantId s) with
      | (.error reason, s) => (.error reason, s)
      | (.ok _, s) => rt.ingestResultAfterAuth clock sub.tenantId sub.result s := by
  rw [submit, authenticate, cleaned]
  cases sub.auth with
  | worker workerToken requestNonce =>
    simp only [submitResult]
    rcases rt.authenticateWorker clock "submit" sub.tenantId workerToken requestNonce
      (rt.runCleanup clock sub.tenantId false s).2 with ⟨reason | claims, s'⟩ <;> rfl
  | webhook webhookSecret webhookRequestId => rfl

/-- The checks only write to the replay guard. -/
theorem exists_authenticateWorker_eq (clock : RuntimeClock)
    (kind tenantId workerToken requestNonce : String) (s : RuntimeState σ τ ρ) :
    ∃ answer replay, rt.authenticateWorker clock kind tenantId workerToken requestNonce s =
      (answer, { s with replay := replay }) := by
  rw [authenticateWorker]
  split
  · exact ⟨_, s.replay, rfl⟩
  · split
    · exact ⟨_, s.replay, rfl⟩
    · exact ⟨_, _, rfl⟩

theorem exists_authenticate_eq (clock : RuntimeClock) (sub : Submission) (s : RuntimeState σ τ ρ) :
    ∃ answer replay, rt.authenticate clock sub s = (answer, { s with replay := replay }) := by
  rw [authenticate]
  cases sub.auth with
  | worker workerToken requestNonce =>
    obtain ⟨answer, replay, hauth⟩ :=
      rt.exists_authenticateWorker_eq clock "submit" sub.tenantId workerToken requestNonce s
    simp only [hauth]
    exact ⟨_, replay, rfl⟩
  | webhook webhookSecret webhookRequestId =>
    simp only [authenticateWebhook]
    split
    · exact ⟨_, s.replay, rfl⟩
    · split
      · exact ⟨_, s.replay, rfl⟩
      · exact ⟨_, _, rfl⟩

/-- The submission gets past the checks on the request. -/
def Authentic (clock : RuntimeClock) (sub : Submission) (s : RuntimeState σ τ ρ) : Prop :=
  (rt.authenticate clock sub s).1.isOk = true

instance (clock : RuntimeClock) (sub : Submission) (s : RuntimeState σ τ ρ) :
    Decidable (rt.Authentic clock sub s) := inferInstanceAs (Decidable (_ = true))

/-- The result carries a key that the result store knows. -/
def KnownKey (result : ByocToolResultEnvelope) (results : τ) : Prop :=
  strip result.idempotencyKey ≠ "" ∧
    rt.resultStore.hasIdempotencyKey (strip result.idempotencyKey) results = true

instance (result : ByocToolResultEnvelope) (results : τ) : Decidable (rt.KnownKey result results) :=
  inferInstanceAs (Decidable (_ ∧ _))

/-- The submission gets as far as the lookup of its lease, in the state `s` after retention. -/
def ReachesLease (clock : RuntimeClock) (sub : Submission) (s : RuntimeState σ τ ρ) : Prop :=
  rt.Authentic clock sub s ∧ sub.result.tenantId = sub.tenantId ∧
    ¬rt.KnownKey sub.result s.results

instance (clock : RuntimeClock) (sub : Submission) (s : RuntimeState σ τ ρ) :
    Decidable (rt.ReachesLease clock sub s) := inferInstanceAs (Decidable (_ ∧ _))

/-- `get_leased_job`, as a submission calls it. -/
def lookup (clock : RuntimeClock) (result : ByocToolResultEnvelope) (jobs : σ) :
    Option ByocToolJobEnvelope × σ :=
  rt.jobStore.getLeasedJob clock.lease result.jobId result.leaseToken jobs

/-- `complete_claim`, as a submission calls it. -/
def close (clock : RuntimeClock) (result : ByocToolResultEnvelope) (jobs : σ) : Bool × σ :=
  rt.jobStore.completeClaim clock.complete result.jobId result.leaseToken jobs

/-- **The ways a submission can go**, from the state `s` its retention pass left: what it answers,
and what it leaves in the job store and in the result store. -/
inductive SubmitCase (clock : RuntimeClock) (sub : Submission) (s : RuntimeState σ τ ρ) :
    Except String ByocResultIngestOutcome → σ → τ → Prop
  /-- The request is not authentic, or names another tenant than its result. -/
  | raised {reason : String}
      (h : ¬rt.Authentic clock sub s ∨ sub.result.tenantId ≠ sub.tenantId) :
      SubmitCase clock sub s (.error reason) s.jobs s.results
  /-- The key was ingested before. -/
  | duplicate (hauth : rt.Authentic clock sub s) (htenant : sub.result.tenantId = sub.tenantId)
      (hknown : rt.KnownKey sub.result s.results) :
      SubmitCase clock sub s (.ok .idempotentDuplicate) s.jobs s.results
  /-- There is no such lease. -/
  | unleased (h : rt.ReachesLease clock sub s) (hnone : (rt.lookup clock sub.result s.jobs).1 = none) :
      SubmitCase clock sub s (.ok ⟨false, false, "BYOC_LEASE_INVALID_OR_EXPIRED"⟩)
        (rt.lookup clock sub.result s.jobs).2 s.results
  /-- The artifact is not the one of the job. -/
  | mismatched {job : ByocToolJobEnvelope} (h : rt.ReachesLease clock sub s)
      (hjob : (rt.lookup clock sub.result s.jobs).1 = some job)
      (hartifact : verifyResultArtifactMetadata job.toJobSpec sub.result ≠ "") :
      SubmitCase clock sub s
        (.ok ⟨false, false, verifyResultArtifactMetadata job.toJobSpec sub.result⟩)
        (rt.lookup clock sub.result s.jobs).2 s.results
  /-- The lease ran out between the lookup and the completion. -/
  | late {job : ByocToolJobEnvelope} (h : rt.ReachesLease clock sub s)
      (hjob : (rt.lookup clock sub.result s.jobs).1 = some job)
      (hartifact : verifyResultArtifactMetadata job.toJobSpec sub.result = "")
      (hlate : (rt.close clock sub.result (rt.lookup clock sub.result s.jobs).2).1 = false) :
      SubmitCase clock sub s (.ok ⟨false, false, "BYOC_LEASE_INVALID_OR_EXPIRED"⟩)
        (rt.close clock sub.result (rt.lookup clock sub.result s.jobs).2).2 s.results
  /-- The lease is completed, and the result store has the last word. -/
  | closed {job : ByocToolJobEnvelope} (h : rt.ReachesLease clock sub s)
      (hjob : (rt.lookup clock sub.result s.jobs).1 = some job)
      (hartifact : verifyResultArtifactMetadata job.toJobSpec sub.result = "")
      (hclosed : (rt.close clock sub.result (rt.lookup clock sub.result s.jobs).2).1 = true) :
      SubmitCase clock sub s (.ok (rt.resultStore.ingest clock.ingest sub.result s.results).1)
        (rt.close clock sub.result (rt.lookup clock sub.result s.jobs).2).2
        (rt.resultStore.ingest clock.ingest sub.result s.results).2

/-- The way from the lookup of the lease on. -/
theorem ingestLeased_cases {clock : RuntimeClock} {sub : Submission} {s s' : RuntimeState σ τ ρ}
    (h : rt.ReachesLease clock sub s) (hjobs : s'.jobs = s.jobs) (hresults : s'.results = s.results) :
    SubmitCase rt clock sub s (rt.ingestLeased clock sub.tenantId sub.result s').1
      (rt.ingestLeased clock sub.tenantId sub.result s').2.jobs
      (rt.ingestLeased clock sub.tenantId sub.result s').2.results := by
  simp only [ingestLeased, hjobs]
  cases hjob : (rt.jobStore.getLeasedJob clock.lease sub.result.jobId sub.result.leaseToken
      s.jobs).1 with
  | none =>
    simp only [refuse, hresults]
    exact .unleased h hjob
  | some job =>
    simp only
    by_cases hartifact : verifyResultArtifactMetadata job.toJobSpec sub.result = ""
    · rw [if_neg (not_not_intro hartifact)]
      cases hclosed : (rt.close clock sub.result (rt.lookup clock sub.result s.jobs).2).1 with
      | false =>
        rw [close, lookup] at hclosed
        rw [if_neg (by rw [hclosed]; exact Bool.false_ne_true)]
        simp only [refuse, hresults]
        exact .late h hjob hartifact hclosed
      | true =>
        rw [close, lookup] at hclosed
        rw [if_pos hclosed]
        simp only [hresults]
        exact .closed h hjob hartifact hclosed
    · rw [if_pos hartifact]
      simp only [refuse, hresults]
      exact .mismatched h hjob hartifact

/-- **Every submission goes one of the six ways.** -/
theorem submit_cases (clock : RuntimeClock) (sub : Submission) (s : RuntimeState σ τ ρ) :
    SubmitCase rt clock sub (rt.cleaned clock sub.tenantId s) (rt.submit clock sub s).1
      (rt.submit clock sub s).2.jobs (rt.submit clock sub s).2.results := by
  rw [submit_eq]
  generalize rt.cleaned clock sub.tenantId s = s
  obtain ⟨answer, replay, hauth⟩ := rt.exists_authenticate_eq clock sub s
  rw [hauth]
  cases answer with
  | error reason =>
    have hraised : ¬rt.Authentic clock sub s := by
      rw [Authentic, hauth]
      exact Bool.false_ne_true
    exact .raised (.inl hraised)
  | ok _ =>
    have hok : rt.Authentic clock sub s := by rw [Authentic, hauth]; rfl
    simp only [ingestResultAfterAuth]
    by_cases htenant : sub.result.tenantId = sub.tenantId
    · rw [if_neg (not_not_intro htenant)]
      by_cases hknown : rt.KnownKey sub.result s.results
      · rw [if_pos (show _ ∧ _ from hknown)]
        exact .duplicate hok htenant hknown
      · rw [if_neg (show ¬(_ ∧ _) from hknown)]
        exact rt.ingestLeased_cases ⟨hok, htenant, hknown⟩ rfl rfl
    · rw [if_pos htenant]
      exact .raised (.inr htenant)

/-! ## The operations of the job store behind a call -/

/-- The retention pass of `_run_cleanup`, if it is due. -/
def cleanupCalls (clock : RuntimeClock) (tenantId : String) (force : Bool)
    (s : RuntimeState σ τ ρ) : List JobCall :=
  if rt.cleanupDue clock.cleanup force s then
    [⟨clock.jobRetention, .cleanupRetention tenantId rt.jobLimits⟩]
  else []

/-- The sweep of `_requeue_expired_leases`: the only one with a dead-letter limit. -/
def sweepCall (clock : RuntimeClock) : JobCall :=
  ⟨clock.sweep, .requeueExpiredLeases (some rt.dlqLimit)⟩

/-- `claim_next`, if the request gets that far. -/
def claimCalls (clock : RuntimeClock) (tenantId workerToken requestNonce leaseToken : String)
    (s : RuntimeState σ τ ρ) : List JobCall :=
  match (rt.authenticateWorker clock "claim" tenantId workerToken requestNonce s).1 with
  | .error _ => []
  | .ok claims =>
    [⟨clock.lease, .claimNext tenantId claims.workerId rt.settings.attributes.leaseTtlSeconds
      leaseToken⟩]

/-- The lookup and the completion of the lease, as far as a submission gets. -/
def leaseCalls (clock : RuntimeClock) (sub : Submission) (s : RuntimeState σ τ ρ) :
    List JobCall :=
  let completion : JobCall :=
    ⟨clock.complete, .completeClaim sub.result.jobId sub.result.leaseToken⟩
  if rt.ReachesLease clock sub s then
    ⟨clock.lease, .getLeasedJob sub.result.jobId sub.result.leaseToken⟩ ::
      match (rt.lookup clock sub.result s.jobs).1 with
      | none => []
      | some job =>
        if verifyResultArtifactMetadata job.toJobSpec sub.result = "" then [completion] else []
  else []

/-- **The operations of the job store that a call performs**, in order. -/
def jobCalls (s : RuntimeState σ τ ρ) (c : RuntimeCall) : List JobCall :=
  match c.op with
  | .executeEnqueue admitted call descriptor jobId =>
    if admitted then
      rt.cleanupCalls c.clock (executeTenant call.tenantId) false s ++
        [⟨c.clock.lease, .enqueue (jobOfCall call descriptor jobId)⟩]
    else []
  | .executePoll _ _ => [rt.sweepCall c.clock]
  | .claimNextJob tenantId workerToken requestNonce leaseToken =>
    rt.cleanupCalls c.clock tenantId false s ++ rt.sweepCall c.clock ::
      rt.claimCalls c.clock tenantId workerToken requestNonce leaseToken
        (rt.requeueExpiredLeases c.clock tenantId (rt.cleaned c.clock tenantId s))
  | .submit sub =>
    rt.cleanupCalls c.clock sub.tenantId false s ++
      rt.leaseCalls c.clock sub (rt.cleaned c.clock sub.tenantId s)
  | .requestCancellation callId =>
    if strip callId = "" then [] else [⟨c.clock.lease, .cancelPendingCall (strip callId)⟩]
  | .replayDeadLetterJob tenantId jobId =>
    [⟨c.clock.lease, .replayDeadLetterJob tenantId jobId⟩]
  | .replayDeadLetterJobs tenantId jobIds limit =>
    (rt.replayTargets tenantId jobIds limit s.jobs).map fun jobId ↦
      ⟨c.clock.lease, .replayDeadLetterJob tenantId jobId⟩
  | .cleanupRetention tenantId force => rt.cleanupCalls c.clock tenantId force s

theorem jobs_runCleanup (clock : RuntimeClock) (tenantId : String) (force : Bool)
    (s : RuntimeState σ τ ρ) :
    (rt.runCleanup clock tenantId force s).2.jobs =
      Run.exec rt.jobStore.step s.jobs (rt.cleanupCalls clock tenantId force s) := by
  rw [runCleanup, cleanupCalls]
  split <;> rfl

theorem jobs_claimNextJob (clock : RuntimeClock)
    (tenantId workerToken requestNonce leaseToken : String) (s : RuntimeState σ τ ρ) :
    (rt.claimNextJob clock tenantId workerToken requestNonce leaseToken s).2.jobs =
      Run.exec rt.jobStore.step
        (rt.requeueExpiredLeases clock tenantId (rt.cleaned clock tenantId s)).jobs
        (rt.claimCalls clock tenantId workerToken requestNonce leaseToken
          (rt.requeueExpiredLeases clock tenantId (rt.cleaned clock tenantId s))) := by
  simp only [claimNextJob, claimCalls, cleaned]
  generalize rt.requeueExpiredLeases clock tenantId (rt.runCleanup clock tenantId false s).2 = s
  obtain ⟨answer, replay, hauth⟩ :=
    rt.exists_authenticateWorker_eq clock "claim" tenantId workerToken requestNonce s
  rw [hauth]
  cases answer <;> rfl

theorem results_claimNextJob (clock : RuntimeClock)
    (tenantId workerToken requestNonce leaseToken : String) (s : RuntimeState σ τ ρ) :
    (rt.claimNextJob clock tenantId workerToken requestNonce leaseToken s).2.results =
      (rt.cleaned clock tenantId s).results := by
  simp only [claimNextJob]
  obtain ⟨answer, replay, hauth⟩ := rt.exists_authenticateWorker_eq clock "claim" tenantId workerToken
    requestNonce (rt.requeueExpiredLeases clock tenantId (rt.runCleanup clock tenantId false s).2)
  rw [hauth]
  cases answer <;> rfl

theorem jobs_submit (clock : RuntimeClock) (sub : Submission) (s : RuntimeState σ τ ρ) :
    (rt.submit clock sub s).2.jobs =
      Run.exec rt.jobStore.step (rt.cleaned clock sub.tenantId s).jobs
        (rt.leaseCalls clock sub (rt.cleaned clock sub.tenantId s)) := by
  have hcases := rt.submit_cases clock sub s
  generalize rt.cleaned clock sub.tenantId s = s' at hcases ⊢
  generalize (rt.submit clock sub s).2.jobs = jobs at hcases ⊢
  generalize (rt.submit clock sub s).2.results = results at hcases
  generalize (rt.submit clock sub s).1 = answer at hcases
  rw [leaseCalls]
  cases hcases with
  | raised h =>
    rw [if_neg (by rintro ⟨hauth, htenant, -⟩; exact h.elim (· hauth) (· htenant))]
    rfl
  | duplicate _ _ hknown =>
    rw [if_neg fun h ↦ h.2.2 hknown]
    rfl
  | unleased h hnone =>
    rw [if_pos h, hnone]
    rfl
  | mismatched h hjob hartifact =>
    rw [if_pos h, hjob]
    simp only [if_neg hartifact]
    rfl
  | late h hjob hartifact | closed h hjob hartifact =>
    rw [if_pos h, hjob]
    simp only [if_pos hartifact]
    rfl

theorem jobs_replayLoop (clock : RuntimeClock) (tenantId : String) (targets : List String)
    (jobs : σ) :
    (rt.replayLoop tenantId targets jobs).2 = Run.exec rt.jobStore.step jobs
      (targets.map fun jobId ↦ ⟨clock.lease, .replayDeadLetterJob tenantId jobId⟩) := by
  induction targets generalizing jobs with
  | nil => rfl
  | cons jobId targets ih =>
    rw [List.map_cons, Run.exec, replayLoop]
    split <;> exact ih _

/-- The tenant for whom a call sweeps the leases, if it does. -/
def sweepTenant (c : RuntimeCall) : Option String :=
  match c.op with
  | .executePoll tenantId _ => some tenantId
  | .claimNextJob tenantId _ _ _ => some tenantId
  | _ => none

/-- **The operations behind a call**: `execute` creates the job it was called for, the sweeps of
the runtime have its dead-letter limit, and nothing else creates jobs or asks for a sweep. -/
theorem mem_jobCalls {s : RuntimeState σ τ ρ} {c : RuntimeCall} {j : JobCall}
    (hj : j ∈ rt.jobCalls s c) :
    (∃ call descriptor jobId, c.op = .executeEnqueue true call descriptor jobId ∧
        j.op = .enqueue (jobOfCall call descriptor jobId)) ∨
      (j = rt.sweepCall c.clock ∧ sweepTenant c ≠ none) ∨
      (∀ job, j.op ≠ .enqueue job) ∧ ∀ limit, j.op ≠ .requeueExpiredLeases limit := by
  have hclean : ∀ {clock tenantId force}, j ∈ rt.cleanupCalls clock tenantId force s →
      (∀ job, j.op ≠ .enqueue job) ∧ ∀ limit, j.op ≠ .requeueExpiredLeases limit := by
    intro clock tenantId force h
    rw [cleanupCalls] at h
    split at h
    · obtain rfl := List.mem_singleton.mp h
      exact ⟨nofun, nofun⟩
    · exact absurd h List.not_mem_nil
  obtain ⟨clock, op⟩ := c
  cases op with
  | executeEnqueue admitted call descriptor jobId =>
    simp only [jobCalls] at hj
    split at hj
    · rename_i hadmitted
      subst hadmitted
      rcases List.mem_append.mp hj with h | h
      · exact .inr (.inr (hclean h))
      · obtain rfl := List.mem_singleton.mp h
        exact .inl ⟨call, descriptor, jobId, rfl, rfl⟩
    · exact absurd hj List.not_mem_nil
  | executePoll tenantId jobId =>
    exact .inr (.inl ⟨List.mem_singleton.mp hj, Option.some_ne_none tenantId⟩)
  | claimNextJob tenantId workerToken requestNonce leaseToken =>
    simp only [jobCalls] at hj
    rcases List.mem_append.mp hj with h | h
    · exact .inr (.inr (hclean h))
    · rcases List.mem_cons.mp h with h | h
      · exact .inr (.inl ⟨h, Option.some_ne_none tenantId⟩)
      · rw [claimCalls] at h
        split at h
        · exact absurd h List.not_mem_nil
        · obtain rfl := List.mem_singleton.mp h
          exact .inr (.inr ⟨nofun, nofun⟩)
  | submit sub =>
    simp only [jobCalls] at hj
    rcases List.mem_append.mp hj with h | h
    · exact .inr (.inr (hclean h))
    · rw [leaseCalls] at h
      split at h
      · rcases List.mem_cons.mp h with rfl | h
        · exact .inr (.inr ⟨nofun, nofun⟩)
        · split at h
          · exact absurd h List.not_mem_nil
          · split at h
            · obtain rfl := List.mem_singleton.mp h
              exact .inr (.inr ⟨nofun, nofun⟩)
            · exact absurd h List.not_mem_nil
      · exact absurd h List.not_mem_nil
  | requestCancellation callId =>
    simp only [jobCalls] at hj
    split at hj
    · exact absurd hj List.not_mem_nil
    · obtain rfl := List.mem_singleton.mp hj
      exact .inr (.inr ⟨nofun, nofun⟩)
  | replayDeadLetterJob tenantId jobId =>
    obtain rfl := List.mem_singleton.mp hj
    exact .inr (.inr ⟨nofun, nofun⟩)
  | replayDeadLetterJobs tenantId jobIds limit =>
    obtain ⟨jobId, -, rfl⟩ := List.mem_map.mp hj
    exact .inr (.inr ⟨nofun, nofun⟩)
  | cleanupRetention tenantId force => exact .inr (.inr (hclean hj))

/-- Every sweep the runtime asks for has its dead-letter limit. -/
theorem dlqLimit_of_mem_jobCalls {s : RuntimeState σ τ ρ} {c : RuntimeCall} {j : JobCall}
    (hj : j ∈ rt.jobCalls s c) {limit : Option Int} (hop : j.op = .requeueExpiredLeases limit) :
    limit = some rt.dlqLimit := by
  rcases rt.mem_jobCalls hj with ⟨_, _, _, -, henq⟩ | ⟨rfl, -⟩ | ⟨-, hnone⟩
  · exact nomatch hop.symm.trans henq
  · exact (JobOp.requeueExpiredLeases.inj hop).symm
  · exact absurd hop (hnone limit)

/-- **The runtime touches the job store only through its contract.** -/
theorem jobs_step (s : RuntimeState σ τ ρ) (c : RuntimeCall) :
    (rt.step s c).2.jobs = Run.exec rt.jobStore.step s.jobs (rt.jobCalls s c) := by
  obtain ⟨clock, op⟩ := c
  cases op with
  | executeEnqueue admitted call descriptor jobId =>
    simp only [step, jobCalls, executeEnqueue]
    split
    · rw [Run.exec_append, ← jobs_runCleanup]
      rfl
    · rfl
  | executePoll tenantId jobId => rfl
  | claimNextJob tenantId workerToken requestNonce leaseToken =>
    simp only [step, jobCalls]
    rw [Run.exec_append, ← jobs_runCleanup, jobs_claimNextJob]
    rfl
  | submit sub =>
    simp only [step, jobCalls]
    rw [Run.exec_append, ← jobs_runCleanup, jobs_submit]
    rfl
  | requestCancellation callId =>
    simp only [step, jobCalls, requestCancellation]
    split <;> rfl
  | replayDeadLetterJob tenantId jobId => rfl
  | replayDeadLetterJobs tenantId jobIds limit =>
    simp only [step, jobCalls, replayDeadLetterJobs]
    exact rt.jobs_replayLoop clock tenantId _ s.jobs
  | cleanupRetention tenantId force => exact rt.jobs_runCleanup clock tenantId force s

end TenantByocConnectorRuntime

/-! ## The runtime on a backend -/

namespace JobBackend

variable (B : JobBackend) {τ ρ : Type}

/-- A runtime on a given job backend. -/
abbrev runtime (R : ByocResultStore τ)
    (G : ReplayGuard ρ) (settings : ByocRuntimeSettings)
    (jwtDecode : Epoch → String → String → Except JwtError JwtPayload) :
    TenantByocConnectorRuntime B.State τ ρ :=
  ⟨B.store, R, G, settings, jwtDecode⟩

variable {B} {R : ByocResultStore τ} {G : ReplayGuard ρ} {settings : ByocRuntimeSettings}
  {jwtDecode : Epoch → String → String → Except JwtError JwtPayload}

/-- Every call keeps the invariant of the backend. -/
theorem inv_step {s : RuntimeState B.State τ ρ} (h : B.Inv s.jobs) (c : RuntimeCall) :
    B.Inv ((B.runtime R G settings jwtDecode).step s c).2.jobs := by
  rw [TenantByocConnectorRuntime.jobs_step]
  exact Run.exec_invariant (fun jobs j _ ↦ B.checked.inv_step jobs j)
    (Run.along_of_forall (fun _ _ ↦ trivial) _ _) h

theorem inv_run {s : RuntimeState B.State τ ρ} (h : B.Inv s.jobs) (calls : List RuntimeCall) :
    B.Inv (Run.exec (B.runtime R G settings jwtDecode).step s calls).jobs :=
  Run.exec_invariant (P := fun s : RuntimeState B.State τ ρ ↦ B.Inv s.jobs)
    (fun _ c _ h ↦ inv_step h c) (Run.along_of_forall (fun _ _ ↦ trivial) s calls) h

theorem inv_cleaned {s : RuntimeState B.State τ ρ} (h : B.Inv s.jobs) (clock : RuntimeClock)
    (tenantId : String) :
    B.Inv ((B.runtime R G settings jwtDecode).cleaned clock tenantId s).jobs :=
  inv_step h ⟨clock, .cleanupRetention tenantId false⟩

/-- The retention pass of a call leaves a job alone, or prunes a finished one of its tenant. -/
theorem record_cleaned {s : RuntimeState B.State τ ρ} (h : B.Inv s.jobs) (clock : RuntimeClock)
    (tenantId k : String) :
    B.record ((B.runtime R G settings jwtDecode).cleaned clock tenantId s).jobs k =
        B.record s.jobs k ∨
      (B.record ((B.runtime R G settings jwtDecode).cleaned clock tenantId s).jobs k = none ∧
        ∃ v, B.record s.jobs k = some v ∧ v.Finished ∧ v.spec.tenantId = strip tenantId) := by
  rw [TenantByocConnectorRuntime.cleaned, TenantByocConnectorRuntime.runCleanup]
  split
  · exact B.checked.record_step s.jobs
      ⟨clock.jobRetention, .cleanupRetention tenantId (B.runtime R G settings jwtDecode).jobLimits⟩
      k h
  · exact .inl rfl

end JobBackend

/-! ## Sample calls -/

/-- `jwt.decode` for the one token of the sample calls: worker `w` of tenant `t`. -/
def sampleDecode (_now : Epoch) (token _secret : String) : Except JwtError JwtPayload :=
  if token = "tok" then .ok ⟨"t", "w", "jti", 0, 300⟩ else .error .invalidToken

/-- A tool call of tenant `t` is executed as the job `j`, and a worker claims it under the token
`a`. -/
def sampleCalls : List RuntimeCall :=
  [⟨.still 1, .executeEnqueue true { callId := "c", tenantId := "t", runId := "r" }
      { name := "n" } "j"⟩,
    ⟨.still 2, .claimNextJob "t" "tok" "n1" "a"⟩]

/-- The worker submits the result of `j` under an idempotency key. -/
def sampleSubmission (idempotencyKey : String) : Submission :=
  ⟨"t", .worker "tok" "n2",
    { jobId := "j", tenantId := "t", runId := "r", callId := "c", toolName := "n"
      idempotencyKey := idempotencyKey, leaseToken := "a" }⟩

end Byoc
end ExoBrain
