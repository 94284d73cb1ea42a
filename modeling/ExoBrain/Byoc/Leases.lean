import ExoBrain.Byoc.Moves

/-!
# Leases: one holder at a time, at most one completion

Tokens of old claims stay in the hands of their workers, and almost every operation requeues
expired leases of unrelated jobs on the side.  What keeps a late worker from completing a job
twice is a single relation between a job's record and the history of the store, `Follows`: a
leased record carries the token and the expiry of the *last* claim of the job, nothing cancelled
its call since, and once `complete_claim` has returned `True` the record is closed for good.

`Follows.step` shows that every move keeps the relation, `follows_run` that every run of a lawful
store does.  Neither the order of the clock readings nor the freshness of the tokens is used: the
store compares a presented token with the record of the job it names, never with another one.
-/

set_option autoImplicit false

namespace ExoBrain
namespace Byoc

open Text

/-! ## The last claim -/

/-- The event is the claim that handed out the job `k` under `token`, until `expires`. -/
def ClaimOf (k token : String) (expires : Epoch) (e : JobEvent) : Prop :=
  ∃ now tenantId workerId ttl job,
    e = (⟨now, .claimNext tenantId workerId ttl token⟩, .job (some job)) ∧
      job.jobId = k ∧ job.leaseToken = token ∧ expires = now + ttlTicks ttl

/-- The most recent claim of the job issued `token` until `expires`, and the call of the job was
not cancelled since. -/
def CurrentLease (job : JobSpec) (token : String) (expires : Epoch) (h : List JobEvent) : Prop :=
  ∃ older claim later, h = older ++ claim :: later ∧ ClaimOf job.jobId token expires claim ∧
    ∀ e ∈ later, JobEvent.handsOut job.jobId e = false ∧ e.1.cancels job.callId = false

theorem CurrentLease.snoc {job : JobSpec} {token : String} {expires : Epoch} {h : List JobEvent}
    (hlease : CurrentLease job token expires h) {e : JobEvent}
    (hout : JobEvent.handsOut job.jobId e = false) (hcancel : e.1.cancels job.callId = false) :
    CurrentLease job token expires (h ++ [e]) := by
  obtain ⟨older, claim, later, rfl, hclaim, hlater⟩ := hlease
  refine ⟨older, claim, later ++ [e], by simp, hclaim, fun x hx ↦ ?_⟩
  rcases List.mem_append.mp hx with hx | hx
  · exact hlater x hx
  · obtain rfl := List.mem_singleton.mp hx
    exact ⟨hout, hcancel⟩

theorem CurrentLease.of_claim {job : JobSpec} {token : String} {expires : Epoch}
    (h : List JobEvent) {e : JobEvent} (he : ClaimOf job.jobId token expires e) :
    CurrentLease job token expires (h ++ [e]) :=
  ⟨h, e, [], rfl, he, fun x hx ↦ absurd hx (by simp)⟩

/-! ## A record and its history -/

/-- How often a job was enqueued under the id `k`. -/
def enqueueCount (k : String) (h : List JobEvent) : Nat := h.countP fun e ↦ e.1.enqueues k

/-- How often a completion of the job `k` was accepted. -/
def completeCount (k : String) (h : List JobEvent) : Nat := h.countP (JobEvent.completes k)

theorem enqueueCount_snoc (k : String) (h : List JobEvent) (e : JobEvent) :
    enqueueCount k (h ++ [e]) = enqueueCount k h + if e.1.enqueues k then 1 else 0 := by
  rw [enqueueCount, List.countP_append, List.countP_singleton, enqueueCount]

theorem completeCount_snoc (k : String) (h : List JobEvent) (e : JobEvent) :
    completeCount k (h ++ [e]) = completeCount k h + if JobEvent.completes k e then 1 else 0 := by
  rw [completeCount, List.countP_append, List.countP_singleton, completeCount]

/-- The view `r` of a job is the one its history `h` accounts for. -/
structure Follows (job : JobSpec) (h : List JobEvent) (r : Option JobView) : Prop where
  /-- The job never changes. -/
  spec_eq : ∀ v, r = some v → v.spec = job
  /-- Nothing happens to a job that was not enqueued. -/
  absent : enqueueCount job.jobId h = 0 → r = none ∧ completeCount job.jobId h = 0
  /-- A leased job is held under the token of its last claim. -/
  lease : ∀ v, r = some v → v.status = .leased →
    CurrentLease job v.leaseToken v.leaseExpiresAtEpoch h
  /-- At most one completion was accepted. -/
  once : completeCount job.jobId h ≤ 1
  /-- A completion is never undone. -/
  closed : 0 < completeCount job.jobId h → ∀ v, r = some v → v.status = .completed

theorem Follows.nil (job : JobSpec) : Follows job [] none where
  spec_eq v hv := absurd hv (by simp)
  absent _ := ⟨rfl, rfl⟩
  lease v hv := absurd hv (by simp)
  once := Nat.zero_le 1
  closed h := absurd h (Nat.lt_irrefl 0)

/-- A job that was not completed yet keeps following its history, if it does so when it is leased
afterwards. -/
theorem Follows.of_open {job : JobSpec} {h : List JobEvent} {v w : JobView}
    (hf : Follows job h (some v)) {e : JobEvent} (hdone : JobEvent.completes job.jobId e = false)
    (hspec : w.spec = v.spec) (hv : v.status ≠ .completed)
    (hlease : w.status = .leased →
      CurrentLease job w.leaseToken w.leaseExpiresAtEpoch (h ++ [e])) :
    Follows job (h ++ [e]) (some w) := by
  have hzero : completeCount job.jobId h = 0 := by
    by_contra hne
    exact hv (hf.closed (Nat.pos_of_ne_zero hne) v rfl)
  have hcount : completeCount job.jobId (h ++ [e]) = 0 := by
    rw [completeCount_snoc, hdone, hzero]; rfl
  refine ⟨fun x hx ↦ ?_, fun hz ↦ ?_, fun x hx hl ↦ ?_, ?_, fun hpos ↦ ?_⟩
  · obtain rfl := Option.some.inj hx
    exact hspec.trans (hf.spec_eq v rfl)
  · rw [enqueueCount_snoc] at hz
    exact absurd (hf.absent (by omega)).1 (by simp)
  · obtain rfl := Option.some.inj hx
    exact hlease hl
  · rw [hcount]; exact Nat.zero_le 1
  · rw [hcount] at hpos
    exact absurd hpos (Nat.lt_irrefl 0)

/-- **Every move keeps a job on its history**, as long as its id is enqueued only once. -/
theorem Follows.step {job : JobSpec} {h : List JobEvent} {r r' : Option JobView} {c : JobCall}
    {reply : JobReply} (hf : Follows job h r) (hmove : JobMove c job.jobId reply r r')
    (hnew : ∀ j, c.op = .enqueue j → j.jobId = job.jobId →
      j.toJobSpec = job ∧ enqueueCount job.jobId h = 0) :
    Follows job (h ++ [(c, reply)]) r' := by
  cases hmove with
  | stay hout hdone henq hcancel =>
    have hcount : completeCount job.jobId (h ++ [(c, reply)]) = completeCount job.jobId h := by
      rw [completeCount_snoc, hdone]; rfl
    refine ⟨hf.spec_eq, fun hz ↦ ?_, fun v hv hl ↦ ?_, hcount ▸ hf.once, fun hpos ↦ ?_⟩
    · rw [enqueueCount_snoc] at hz
      rw [hcount]
      exact hf.absent (by omega)
    · have hspec := hf.spec_eq v hv
      exact (hf.lease v hv hl).snoc hout (hspec ▸ hcancel v hv (.inr hl))
    · exact hf.closed (hcount ▸ hpos)
  | create hop hk =>
    rename_i j
    obtain ⟨hspec, hzero⟩ := hnew j hop hk
    have hdone : JobEvent.completes job.jobId (c, reply) = false := by
      simp [JobEvent.completes, hop]
    have hnone : completeCount job.jobId (h ++ [(c, reply)]) = 0 := by
      rw [completeCount_snoc, hdone, (hf.absent hzero).2]; rfl
    refine ⟨fun v hv ↦ ?_, fun hz ↦ ?_, fun v hv hl ↦ ?_, ?_, fun hpos ↦ ?_⟩
    · obtain rfl := Option.some.inj hv
      exact hspec
    · have henq : c.enqueues job.jobId = true := by simp [JobCall.enqueues, hop, hk]
      rw [enqueueCount_snoc, henq] at hz
      exact absurd hz (by simp)
    · obtain rfl := Option.some.inj hv
      exact absurd hl (by simp [JobView.fresh])
    · rw [hnone]; exact Nat.zero_le 1
    · rw [hnone] at hpos
      exact absurd hpos (Nat.lt_irrefl 0)
  | release hleased hend hout hdone =>
    refine hf.of_open hdone rfl (by simp [hleased]) fun hl ↦ ?_
    simp only [JobView.release] at hl
    split at hl <;> exact absurd hl (by simp)
  | @claim v tenantId workerId token ttl e hop hreply hk hqueued he =>
    have hv : v.status ≠ .completed := by
      intro hc
      rw [JobView.sweep, if_neg (by simp [JobView.Expired, hc]), hc] at hqueued
      exact absurd hqueued (by simp)
    have hdone : JobEvent.completes job.jobId (c, reply) = false := by
      simp [JobEvent.completes, hop]
    refine hf.of_open hdone (JobView.sweep_spec c.now none v) hv fun _ ↦ ?_
    have hclaim : (c, reply) = (⟨c.now, .claimNext tenantId workerId ttl token⟩, .job (some e)) := by
      rw [hreply, ← hop]
    refine CurrentLease.of_claim h ⟨c.now, tenantId, workerId, ttl, e, hclaim, hk, ?_, rfl⟩
    rw [he]; rfl
  | @complete v token hop hreply hheld =>
    have hzero : completeCount job.jobId h = 0 := by
      by_contra hne
      have hc := hf.closed (Nat.pos_of_ne_zero hne) v rfl
      exact absurd (hc.symm.trans hheld.1) (by simp)
    have hdone : JobEvent.completes job.jobId (c, reply) = true := by
      simp [JobEvent.completes, hop, hreply]
    refine ⟨fun x hx ↦ ?_, fun hz ↦ ?_, fun x hx hl ↦ ?_, ?_, fun _ x hx ↦ ?_⟩
    · obtain rfl := Option.some.inj hx
      exact hf.spec_eq v rfl
    · rw [enqueueCount_snoc] at hz
      exact absurd (hf.absent (by omega)).1 (by simp)
    · obtain rfl := Option.some.inj hx
      exact absurd hl (by simp [JobView.complete])
    · rw [completeCount_snoc, hzero, hdone]; exact Nat.le_refl 1
    · obtain rfl := Option.some.inj hx
      rfl
  | cancel hqueued hcancel hout hdone =>
    exact hf.of_open hdone rfl (by simp [hqueued]) fun hl ↦ absurd hl (by simp)
  | replay hdead hout hdone =>
    exact hf.of_open hdone rfl (by simp [hdead]) fun hl ↦
      absurd hl (by simp [JobView.replay, JobView.release])
  | prune hfinished hout hdone =>
    have hcount : completeCount job.jobId (h ++ [(c, reply)]) = completeCount job.jobId h := by
      rw [completeCount_snoc, hdone]; rfl
    refine ⟨fun x hx ↦ absurd hx (by simp), fun hz ↦ ?_, fun x hx ↦ absurd hx (by simp),
      hcount ▸ hf.once, fun _ x hx ↦ absurd hx (by simp)⟩
    rw [enqueueCount_snoc] at hz
    exact absurd (hf.absent (by omega)).1 (by simp)

/-! ## Whole runs -/

/-- The id of `job` is enqueued at most once, and then for `job`. -/
def EnqueuedOnce (job : JobSpec) (calls : List JobCall) : Prop :=
  calls.countP (JobCall.enqueues job.jobId) ≤ 1 ∧
    ∀ c ∈ calls, ∀ j, c.op = .enqueue j → j.jobId = job.jobId → j.toJobSpec = job

theorem EnqueuedOnce.of_append {job : JobSpec} {calls later : List JobCall}
    (h : EnqueuedOnce job (calls ++ later)) : EnqueuedOnce job calls := by
  refine ⟨?_, fun c hc ↦ h.2 c (List.mem_append_left later hc)⟩
  have hcount := h.1
  rw [List.countP_append] at hcount
  omega

section Lawful

variable {σ : Type} {S : ByocJobQueueStore σ} {inv : σ → Prop}
  {record : σ → String → Option JobView}

/-- **Every run of a lawful store keeps every job on its history.** -/
theorem follows_run (hS : LawfulJobStore S inv record) {job : JobSpec} {s : σ} (hinv : inv s)
    (hnone : record s job.jobId = none) {calls : List JobCall} (honce : EnqueuedOnce job calls) :
    inv (Run.exec S.step s calls) ∧
      Follows job (Run.trace S.step s calls) (record (Run.exec S.step s calls) job.jobId) := by
  have hstep : ∀ (h : List JobEvent) (s : σ) (c : JobCall), True →
      (inv s ∧ (EnqueuedOnce job (h.map Prod.fst) → Follows job h (record s job.jobId))) →
      inv (S.step s c).2 ∧ (EnqueuedOnce job ((h ++ [(c, (S.step s c).1)]).map Prod.fst) →
        Follows job (h ++ [(c, (S.step s c).1)]) (record (S.step s c).2 job.jobId)) := by
    intro h s c _ hP
    refine ⟨hS.inv_step s c hP.1, fun hon ↦ ?_⟩
    rw [List.map_append] at hon
    refine (hP.2 hon.of_append).step (hS.record_step s c job.jobId hP.1).move fun j hop hk ↦ ?_
    refine ⟨hon.2 c (by simp) j hop hk, ?_⟩
    have hcount := hon.1
    have henq : c.enqueues job.jobId = true := by simp [JobCall.enqueues, hop, hk]
    rw [List.countP_append, List.map_singleton, List.countP_singleton, if_pos henq,
      List.countP_map] at hcount
    exact Nat.le_zero.mp (Nat.le_of_add_le_add_right hcount)
  have hrun := Run.trace_invariant hstep (Run.along_of_forall (fun _ _ ↦ trivial) s calls)
    (h := []) ⟨hinv, fun _ ↦ by rw [hnone]; exact Follows.nil job⟩
  rw [List.nil_append, Run.map_fst_trace] at hrun
  exact ⟨hrun.1, hrun.2 honce⟩

/-- A token that `complete_claim` or `get_leased_job` takes for a job is the one its record is
leased under. -/
theorem heldBy_of_accepted (hS : LawfulJobStore S inv record) {s : σ} (hinv : inv s) {c : JobCall}
    {k token : String}
    (h : (c.op = .completeClaim k token ∧ (S.step s c).1 = .flag true) ∨
      (c.op = .getLeasedJob k token ∧ ∃ e, (S.step s c).1 = .job (some e))) :
    ∃ v, record s k = some v ∧ v.HeldBy c.now token := by
  have hrec := hS.record_step s c k hinv
  rw [RecordStep] at hrec
  rcases h with ⟨hop, hreply⟩ | ⟨hop, e, hreply⟩
  · rw [hop] at hrec
    rcases hrec.2 rfl with ⟨-, v, hv, hheld, -⟩ | ⟨hfalse, -⟩
    · exact ⟨v, hv, hheld⟩
    · rw [hreply] at hfalse
      exact absurd hfalse (by simp)
  · rw [hop] at hrec
    rcases hrec.2 rfl with ⟨v, hv, hheld, -⟩ | ⟨hnone, -⟩
    · exact ⟨v, hv, hheld⟩
    · rw [hreply] at hnone
      exact absurd hnone (by simp)

/-- A job that is handed out was not completed. -/
theorem not_completed_of_handsOut (hS : LawfulJobStore S inv record) {s : σ} (hinv : inv s)
    {c : JobCall} {k : String} (h : JobEvent.handsOut k (c, (S.step s c).1) = true) :
    ∃ v, record s k = some v ∧ v.status ≠ .completed := by
  have hmove := (hS.record_step s c k hinv).move
  generalize hb : record s k = before at hmove
  generalize ha : record (S.step s c).2 k = after at hmove
  cases hmove with
  | claim hop hreply hk hqueued he =>
    refine ⟨_, rfl, fun hc ↦ ?_⟩
    rw [JobView.sweep, if_neg (by simp [JobView.Expired, hc]), hc] at hqueued
    exact absurd hqueued (by simp)
  | create hop hk => simp [JobEvent.handsOut, hop] at h
  | complete hop hreply hheld => simp [JobEvent.handsOut, hop] at h
  | stay hout | release _ _ hout | cancel _ _ hout | replay _ hout | prune _ hout =>
    rw [h] at hout
    exact absurd hout (by simp)

end Lawful

/-- A call list with one `enqueue` of an id enqueues nothing else under it. -/
theorem enqueuedOnce_of_count {calls : List JobCall} {now : Epoch} {job : ByocToolJobEnvelope}
    (hmem : ⟨now, .enqueue job⟩ ∈ calls)
    (honce : calls.countP (JobCall.enqueues job.jobId) = 1) :
    EnqueuedOnce job.toJobSpec calls := by
  refine ⟨Nat.le_of_eq honce, fun c hc j hop hk ↦ ?_⟩
  rw [List.countP_eq_length_filter, List.length_eq_one_iff] at honce
  obtain ⟨x, hx⟩ := honce
  have hin : ∀ y ∈ calls, y.enqueues job.jobId = true → y = x := by
    intro y hy hey
    have hmem : y ∈ calls.filter (JobCall.enqueues job.jobId) := List.mem_filter.mpr ⟨hy, hey⟩
    rw [hx] at hmem
    exact List.mem_singleton.mp hmem
  have hjob := hin _ hmem (by simp [JobCall.enqueues])
  have hcx := hin c hc (by simpa [JobCall.enqueues, hop] using hk)
  rw [hcx, ← hjob] at hop
  rw [JobOp.enqueue.inj hop]

namespace InMemoryByocJobQueueStore

/-- One run of the in-memory store, from a fresh one. -/
abbrev run (calls : List JobCall) : InMemoryByocJobQueueStore :=
  Run.exec inMemoryByocJobQueueStore.step init calls

/-- The calls of a run from a fresh store, with their answers. -/
abbrev history (calls : List JobCall) : List JobEvent :=
  Run.trace inMemoryByocJobQueueStore.step init calls

theorem run_follows {job : JobSpec} {calls : List JobCall} (honce : EnqueuedOnce job calls) :
    Inv (run calls) ∧ Follows job (history calls) (record (run calls) job.jobId) :=
  follows_run lawful init_inv rfl honce

/-- A job to run the store on. -/
def sampleJob : ByocToolJobEnvelope :=
  { jobId := "j", tenantId := "t", runId := "r", callId := "c", toolName := "n" }

/-- The sample job is claimed, its lease runs out, it is claimed again, and both workers try to
complete it. -/
def claimedTwice : List JobCall :=
  [⟨0, .enqueue sampleJob⟩,
    ⟨1, .claimNext "t" "w1" 1 "a"⟩,
    ⟨9000000, .claimNext "t" "w2" 1 "b"⟩,
    ⟨9000001, .completeClaim "j" "a"⟩,
    ⟨9000002, .completeClaim "j" "b"⟩,
    ⟨9000003, .completeClaim "j" "b"⟩]

end InMemoryByocJobQueueStore

end Byoc
end ExoBrain
