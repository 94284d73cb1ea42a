import ExoBrain.Byoc.RuntimeCalls
import ExoBrain.Byoc.Moves

/-!
# The dead-letter limit

A job may be claimed `max_claim_attempts_before_dlq` times, and once more for every time an
operator replays it: that is what its dead-letter limit is for.  The sweep of the runtime enforces
it, but it is not the only thing that ends leases.  `claim_next`, `cancel_pending_call` and, when
the lease they look at has run out, `get_leased_job` and `complete_claim` requeue expired leases
too, and they know of no limit.

`WithinBudget` is the invariant behind the bound: a waiting job has a claim left.  Everything a call
can do to a job keeps it, except for a limitless requeue of a job whose claims are spent.
`SparesSpent` says that a call does not meet such a job, and `claim_attempt_le_dlq_limit` that the
bound holds in every run of the runtime in which no call does.
-/

set_option autoImplicit false

namespace ExoBrain
namespace Byoc

open Text

/-! ## The budget of one job -/

/-- The claims of the job are within the limit and its replays, and one is left while it waits. -/
def JobView.WithinBudget (limit : Int) (v : JobView) : Prop :=
  v.claimAttempt ≤ limit + v.replayCount ∧
    (v.status = .queued → v.claimAttempt < limit + v.replayCount)

/-- There is no job, or it is within its budget. -/
def Budgeted (limit : Int) (r : Option JobView) : Prop := ∀ v, r = some v → v.WithinBudget limit

section Budgeted

variable {limit : Int} {r : Option JobView} {v : JobView}

theorem budgeted_none : Budgeted limit none := fun _ hv ↦ absurd hv (by simp)

theorem budgeted_some (h : v.WithinBudget limit) : Budgeted limit (some v) :=
  fun _ hw ↦ Option.some.inj hw ▸ h

theorem budgeted_fresh (hlimit : 0 < limit) (spec : JobSpec) :
    Budgeted limit (some (.fresh spec)) := by
  refine budgeted_some ⟨?_, fun _ ↦ ?_⟩ <;> simp only [JobView.fresh] <;> omega

/-- A job that does not wait afterwards stays within its budget. -/
theorem JobView.WithinBudget.of_not_queued {w : JobView} (h : v.WithinBudget limit)
    (hclaims : w.claimAttempt = v.claimAttempt) (hreplays : w.replayCount = v.replayCount)
    (hstatus : w.status ≠ .queued) : w.WithinBudget limit := by
  refine ⟨?_, fun hq ↦ absurd hq hstatus⟩
  rw [hclaims, hreplays]
  exact h.1

/-- The end of a lease keeps the budget, if a claim is left or the limit is applied. -/
theorem JobView.WithinBudget.sweep (h : v.WithinBudget limit) {now : Epoch} {dlq : Option Int}
    (hspare : v.Expired now → (v.claimAttempt : Int) < limit + v.replayCount ∨ dlq = some limit)
    (hlimit : 0 < limit) : (v.sweep now dlq).WithinBudget limit := by
  rw [JobView.sweep]
  split
  · rename_i hexp
    split
    · refine h.of_not_queued rfl rfl ?_
      rintro ⟨⟩
    · rename_i hleft
      refine ⟨h.1, fun _ ↦ ?_⟩
      rcases hspare hexp with hlt | rfl
      · exact hlt
      · have hle : ¬limit ≤ v.claimAttempt := fun hle ↦ hleft ⟨limit, rfl, hlimit, hle⟩
        show (v.claimAttempt : Int) < limit + v.replayCount
        omega
  · exact h

theorem Budgeted.sweep (h : Budgeted limit r) {now : Epoch} {dlq : Option Int}
    (hspare : ∀ v, r = some v → v.Expired now →
      (v.claimAttempt : Int) < limit + v.replayCount ∨ dlq = some limit)
    (hlimit : 0 < limit) : Budgeted limit (r.map (JobView.sweep now dlq)) := by
  cases r with
  | none => exact budgeted_none
  | some v => exact budgeted_some ((h v rfl).sweep (hspare v rfl) hlimit)

/-- A claim uses up one of the claims that are left. -/
theorem JobView.WithinBudget.lease (h : v.WithinBudget limit) (hqueued : v.status = .queued)
    (token : String) (expires : Epoch) : (v.lease token expires).WithinBudget limit := by
  have hleft := h.2 hqueued
  refine ⟨?_, nofun⟩
  show ((v.claimAttempt + 1 : Nat) : Int) ≤ limit + v.replayCount
  omega

/-- A replay gives the job a claim back. -/
theorem JobView.WithinBudget.replay (h : v.WithinBudget limit) : v.replay.WithinBudget limit := by
  have hle := h.1
  have hlt : (v.claimAttempt : Int) < limit + (v.replayCount + 1 : Nat) := by omega
  exact ⟨Int.le_of_lt hlt, fun _ ↦ hlt⟩

end Budgeted

/-! ## One operation of the store -/

section Step

variable {σ : Type} {S : ByocJobQueueStore σ} {inv : σ → Prop}
  {record : σ → String → Option JobView}

/-- The operation requeues expired leases, and knows of no dead-letter limit.  The two lease checks
do so when the lease they look at has run out. -/
def EndsLeases (record : σ → String → Option JobView) (s : σ) (c : JobCall) : Prop :=
  match c.op with
  | .claimNext _ _ _ _ | .cancelPendingCall _ => True
  | .completeClaim jobId _ | .getLeasedJob jobId _ =>
    ∃ v, record s jobId = some v ∧ v.Expired c.now
  | _ => False

/-- The job is not a lease that has run out, or whose call is being cancelled, with no claim
left. -/
def JobView.NotSpent (limit : Int) (c : JobCall) (v : JobView) : Prop :=
  v.status = .leased → v.leaseExpiresAtEpoch ≤ c.now ∨ c.cancels v.spec.callId = true →
    (v.claimAttempt : Int) < limit + v.replayCount

instance (limit : Int) (c : JobCall) (v : JobView) : Decidable (v.NotSpent limit c) :=
  inferInstanceAs (Decidable (_ → _))

/-- **No limitless requeue meets a job whose claims are spent.** -/
def SparesSpent (record : σ → String → Option JobView) (limit : Int) (s : σ) (c : JobCall) : Prop :=
  EndsLeases record s c → ∀ k v, record s k = some v → v.NotSpent limit c

/-- A limitless sweep of the operation keeps the budgets. -/
theorem SparesSpent.sweep {limit : Int} {s : σ} {c : JobCall} (h : SparesSpent record limit s c)
    (hends : EndsLeases record s c) (hlimit : 0 < limit) {k : String}
    (hb : Budgeted limit (record s k)) :
    Budgeted limit ((record s k).map (JobView.sweep c.now none)) :=
  hb.sweep (fun v hv hexp ↦ .inl (h hends k v hv hexp.1 (.inl hexp.2))) hlimit

/-- `cancel_pending_call` cuts the leases of its call short, and sweeps. -/
theorem SparesSpent.cancel {limit : Int} {s : σ} {now : Epoch} {callId : String}
    (h : SparesSpent record limit s ⟨now, .cancelPendingCall callId⟩) (hlimit : 0 < limit)
    (hcall : strip callId ≠ "") {k : String} (hb : Budgeted limit (record s k)) :
    Budgeted limit ((record s k).map fun v ↦
      (if v.spec.callId = strip callId then v.cancel else v).sweep now none) := by
  cases hr : record s k with
  | none => exact budgeted_none
  | some v =>
    have hv := hb v hr
    have hleft : v.status = .leased → v.leaseExpiresAtEpoch ≤ now ∨ v.spec.callId = strip callId →
        (v.claimAttempt : Int) < limit + v.replayCount := fun hs hend ↦
      h trivial k v hr hs (hend.imp_right fun hmine ↦ by simp [JobCall.cancels, hmine, hcall])
    rw [Option.map_some]
    by_cases hmine : v.spec.callId = strip callId
    · have hcut : v.cancel.WithinBudget limit ∧
          (v.cancel.Expired now → (v.cancel.claimAttempt : Int) < limit + v.cancel.replayCount) := by
        rw [JobView.cancel]
        split
        · refine ⟨hv.of_not_queued rfl rfl ?_, ?_⟩
          · rintro ⟨⟩
          · rintro ⟨⟨⟩, -⟩
        · rename_i hs
          exact ⟨hv, fun _ ↦ hleft hs (.inr hmine)⟩
        · rename_i hs
          exact ⟨hv, fun hexp ↦ absurd hexp.1 hs⟩
      rw [if_pos hmine]
      exact budgeted_some (hcut.1.sweep (fun hexp ↦ .inl (hcut.2 hexp)) hlimit)
    · rw [if_neg hmine]
      exact budgeted_some (hv.sweep (fun hexp ↦ .inl (hleft hexp.1 (.inl hexp.2))) hlimit)

/-- **Every operation keeps every job within its budget**, if it applies the limit or spares the
jobs whose claims are spent. -/
theorem budgeted_step (hS : CheckedJobStore S inv record) {limit : Int} (hlimit : 0 < limit) {s : σ}
    (hinv : inv s) {c : JobCall} (hdlq : ∀ l, c.op = .requeueExpiredLeases l → l = some limit)
    (hspare : SparesSpent record limit s c) (hb : ∀ k, Budgeted limit (record s k)) (k : String) :
    Budgeted limit (record (S.step s c).2 k) := by
  have hrec := hS.record_step s c k hinv
  obtain ⟨now, op⟩ := c
  cases op with
  | enqueue job =>
    rw [show record _ k = _ from hrec]
    split
    · cases hr : record s k with
      | none => exact budgeted_fresh hlimit _
      | some v => exact hr ▸ hb k
    · exact hb k
  | claimNext tenantId workerId ttl token =>
    have hswept := hspare.sweep trivial hlimit (hb k)
    rcases hrec with ⟨-, hafter⟩ | ⟨e, -, hother, hsame⟩
    · exact hafter ▸ hswept
    · by_cases hk : e.jobId = k
      · obtain ⟨v, hv, hqueued, hafter, -⟩ := hsame hk
        rw [hafter]
        exact budgeted_some ((hswept v hv).lease hqueued token _)
      · exact hother hk ▸ hswept
  | completeClaim jobId token =>
    rcases hS.completion s now jobId token hinv with ⟨-, h⟩ | ⟨-, h⟩ | ⟨-, v, hv, -, hj, hother⟩
    · exact h.2 k ▸ hb k
    · exact h.2 k ▸ hspare.sweep h.1 hlimit (hb k)
    · by_cases hk : k = jobId
      · subst hk
        exact hj ▸ budgeted_some ((hb k v hv).of_not_queued rfl rfl nofun)
      · exact hother k hk ▸ hb k
  | getLeasedJob jobId token =>
    rcases hS.lookup s now jobId token hinv with ⟨-, h⟩ | ⟨-, h⟩ | ⟨-, h⟩
    · exact h.2 k ▸ hb k
    · exact h.2 k ▸ hspare.sweep h.1 hlimit (hb k)
    · exact h k ▸ hb k
  | requeueExpiredLeases dlq =>
    rw [show record _ k = _ from hrec]
    exact (hb k).sweep (fun _ _ _ ↦ .inr (hdlq dlq rfl)) hlimit
  | replayDeadLetterJob tenantId jobId =>
    by_cases hk : strip jobId = k
    · rcases hrec.2 hk with ⟨-, v, hv, -, -, hafter⟩ | ⟨-, hafter⟩
      · exact hafter ▸ budgeted_some (hb k v hv).replay
      · exact hafter ▸ hb k
    · exact hrec.1 hk ▸ hb k
  | cancelPendingCall callId =>
    simp only [RecordStep] at hrec
    split at hrec
    · exact hrec ▸ hb k
    · rename_i hcall
      rw [hrec]
      exact hspare.cancel hlimit hcall (hb k)
  | cleanupRetention tenantId limits =>
    rcases hrec with hafter | ⟨hafter, -⟩
    · exact hafter ▸ hb k
    · exact hafter ▸ budgeted_none
  | deadLetterCount tenantId | listDeadLetterJobs tenantId dlq | queueDepth =>
    rw [show record _ k = _ from hrec]
    exact hb k

end Step

/-! ## Runs of the runtime -/

/-- None of the operations of the job store behind a call requeues, without a limit, a job whose
claims are spent. -/
def TenantByocConnectorRuntime.SparesSpent {σ τ ρ : Type} (rt : TenantByocConnectorRuntime σ τ ρ)
    (record : σ → String → Option JobView) (s : RuntimeState σ τ ρ) (c : RuntimeCall) : Prop :=
  Run.Along rt.jobStore.step (Byoc.SparesSpent record rt.dlqLimit) s.jobs (rt.jobCalls s c)

instance {σ τ ρ : Type} (rt : TenantByocConnectorRuntime σ τ ρ)
    (record : σ → String → Option JobView)
    [∀ s c, Decidable (Byoc.SparesSpent record rt.dlqLimit s c)] (s : RuntimeState σ τ ρ)
    (c : RuntimeCall) : Decidable (rt.SparesSpent record s c) :=
  inferInstanceAs (Decidable (Run.Along _ _ _ _))

theorem TenantByocConnectorRuntime.dlqLimit_pos {σ τ ρ : Type}
    (rt : TenantByocConnectorRuntime σ τ ρ) : 0 < rt.dlqLimit := by
  show 0 < max rt.settings.maxClaimAttemptsBeforeDlq 1
  omega

/-- The operations behind one call keep every job within its budget. -/
theorem budgeted_runtime_step {B : JobBackend} {τ ρ : Type} {R : ByocResultStore τ}
    {G : ReplayGuard ρ} {settings : ByocRuntimeSettings}
    {jwtDecode : Epoch → String → String → Except JwtError JwtPayload}
    {s : RuntimeState B.State τ ρ} {c : RuntimeCall}
    (hspare : (B.runtime R G settings jwtDecode).SparesSpent B.record s c) (hinv : B.Inv s.jobs)
    (hb : ∀ k, Budgeted (B.runtime R G settings jwtDecode).dlqLimit (B.record s.jobs k)) :
    B.Inv ((B.runtime R G settings jwtDecode).step s c).2.jobs ∧
      ∀ k, Budgeted (B.runtime R G settings jwtDecode).dlqLimit
        (B.record ((B.runtime R G settings jwtDecode).step s c).2.jobs k) := by
  rw [TenantByocConnectorRuntime.jobs_step]
  have hdlq : Run.Along B.store.step (fun _ j ↦ ∀ l, j.op = .requeueExpiredLeases l →
      l = some (B.runtime R G settings jwtDecode).dlqLimit) s.jobs
      ((B.runtime R G settings jwtDecode).jobCalls s c) :=
    Run.along_of_forall_mem (fun j hj _ l hop ↦
      (B.runtime R G settings jwtDecode).dlqLimit_of_mem_jobCalls hj hop) s.jobs
  refine Run.exec_invariant (P := fun jobs ↦ B.Inv jobs ∧
      ∀ k, Budgeted (B.runtime R G settings jwtDecode).dlqLimit (B.record jobs k)) ?_
    (Run.along_and hspare hdlq) ⟨hinv, hb⟩
  rintro jobs j ⟨hj, hl⟩ ⟨hinv, hb⟩
  exact ⟨B.checked.inv_step jobs j hinv,
    budgeted_step B.checked (B.runtime R G settings jwtDecode).dlqLimit_pos hinv hl hj hb⟩

/-- **The dead-letter bound.**  In every run of the runtime in which no limitless requeue meets a
job whose claims are spent, no job is claimed more often than the limit and its replays allow. -/
theorem claim_attempt_le_dlq_limit (B : JobBackend) {τ ρ : Type} (R : ByocResultStore τ)
    (G : ReplayGuard ρ) (settings : ByocRuntimeSettings)
    (jwtDecode : Epoch → String → String → Except JwtError JwtPayload) (results : τ) (replay : ρ)
    (calls : List RuntimeCall)
    (hspare : Run.Along (B.runtime R G settings jwtDecode).step
      ((B.runtime R G settings jwtDecode).SparesSpent B.record)
      { jobs := B.init, results := results, replay := replay } calls) (k : String) (v : JobView)
    (hv : B.record (Run.exec (B.runtime R G settings jwtDecode).step
      { jobs := B.init, results := results, replay := replay } calls).jobs k = some v) :
    (v.claimAttempt : Int) ≤ max settings.maxClaimAttemptsBeforeDlq 1 + v.replayCount := by
  have hrun := Run.exec_invariant
    (P := fun s : RuntimeState B.State τ ρ ↦ B.Inv s.jobs ∧
      ∀ k, Budgeted (B.runtime R G settings jwtDecode).dlqLimit (B.record s.jobs k))
    (fun s c hok h ↦ budgeted_runtime_step hok h.1 h.2) hspare
    ⟨B.init_inv, fun k ↦ by rw [B.record_init]; exact budgeted_none⟩
  exact (hrun.2 k v hv).1

/-! ## A job on its last claim -/

namespace InMemoryByocJobQueueStore

theorem forall_record_iff {s : InMemoryByocJobQueueStore} {P : JobView → Prop} :
    (∀ k v, record s k = some v → P v) ↔ ∀ e ∈ s.states.entries, P (view e.2) := by
  constructor
  · rintro h ⟨k, st⟩ he
    exact h k _ (by rw [record, Dict.mem_entries_iff.mp he]; rfl)
  · rintro h k v hv
    obtain ⟨st, hst, rfl⟩ := Option.map_eq_some_iff.mp hv
    exact h (k, st) (Dict.mem_entries_iff.mpr hst)

instance (s : InMemoryByocJobQueueStore) (c : JobCall) : Decidable (EndsLeases record s c) :=
  match c with
  | ⟨_, .claimNext _ _ _ _⟩ | ⟨_, .cancelPendingCall _⟩ => isTrue trivial
  | ⟨now, .completeClaim jobId _⟩ | ⟨now, .getLeasedJob jobId _⟩ =>
    decidable_of_iff (∃ v ∈ record s jobId, v.Expired now) (by simp [EndsLeases])
  | ⟨_, .enqueue _⟩ | ⟨_, .requeueExpiredLeases _⟩ | ⟨_, .deadLetterCount _⟩
  | ⟨_, .listDeadLetterJobs _ _⟩ | ⟨_, .replayDeadLetterJob _ _⟩ | ⟨_, .queueDepth⟩
  | ⟨_, .cleanupRetention _ _⟩ => isFalse id

instance (limit : Int) (s : InMemoryByocJobQueueStore) (c : JobCall) :
    Decidable (SparesSpent record limit s c) :=
  decidable_of_iff
    (EndsLeases record s c → ∀ e ∈ s.states.entries, (view e.2).NotSpent limit c)
    (imp_congr_right fun _ ↦ (forall_record_iff (P := JobView.NotSpent limit c)).symm)

end InMemoryByocJobQueueStore

/-- The runtime of the runs below: in-memory stores, leases of one second, one claim per job. -/
def oneClaimRuntime :
    TenantByocConnectorRuntime InMemoryByocJobQueueStore InMemoryByocResultStore InMemoryReplayGuard :=
  JobBackend.inMemory.runtime inMemoryByocResultStore inMemoryReplayGuard
    { workerJwtSecret := "s", leaseTtlSeconds := 1, maxClaimAttemptsBeforeDlq := 1 } sampleDecode

/-- Its state before the first call. -/
def oneClaimStart :
    RuntimeState InMemoryByocJobQueueStore InMemoryByocResultStore InMemoryReplayGuard :=
  { jobs := .init, results := .init .firstWriteWins, replay := .init }

/-- The turn of `execute` after the lease has run out applies the limit: the job is dead. -/
theorem claim_attempt_le_dlq_limit_dead_lettered :
    ∃ v, InMemoryByocJobQueueStore.record (Run.exec oneClaimRuntime.step oneClaimStart
        (sampleCalls ++ [⟨.still 5000000, .executePoll "t" "j"⟩])).jobs "j" = some v ∧
      v.status = .deadLettered ∧ (v.claimAttempt : Int) ≤ max 1 1 + v.replayCount := by
  have hspare : Run.Along oneClaimRuntime.step
      (oneClaimRuntime.SparesSpent InMemoryByocJobQueueStore.record) oneClaimStart
      (sampleCalls ++ [⟨.still 5000000, .executePoll "t" "j"⟩]) := by decide
  refine ⟨_, (Option.some_get (by decide)).symm, by decide, ?_⟩
  exact claim_attempt_le_dlq_limit .inMemory inMemoryByocResultStore inMemoryReplayGuard _ _ _ _ _
    hspare "j" _ (Option.some_get _).symm

/-- After a submission that came too late, the job has used up its one claim and waits again; the
next worker gets it. -/
theorem claim_attempt_exceeds_dlq_limit :
    ¬∀ k v, InMemoryByocJobQueueStore.record (Run.exec oneClaimRuntime.step oneClaimStart
        (sampleCalls ++ [⟨.still 5000000, .submit (sampleSubmission "k")⟩,
          ⟨.still 5000001, .claimNextJob "t" "tok" "n3" "b"⟩])).jobs
          k = some v →
      (v.claimAttempt : Int) ≤ max 1 1 + v.replayCount := by
  intro h
  have hj := h "j" _ (Option.some_get (by decide)).symm
  exact absurd hj (by decide)

end Byoc
end ExoBrain
