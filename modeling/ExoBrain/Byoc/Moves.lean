import ExoBrain.Byoc.RecordLaws

/-!
# The moves of one job

`RecordStep` says, operation by operation, what a call does to one job.  Most invariants care
about the other direction: given that a job went from one view to another, what happened?
`JobMove` lists the seven things that can happen, whatever the operation was, and
`RecordStep.move` is the only place where the operations are told apart again.  An invariant of
one job is then a case distinction over `JobMove`; the first one is that a job that is over stays
over (`Retired.move`).

The module also names the events of a history that the rest of the development talks about: a job
being enqueued, handed out or completed, and a call being cancelled.
-/

set_option autoImplicit false

namespace ExoBrain
namespace Byoc

open Text

/-! ## Events -/

/-- A call, and what it returned. -/
abbrev JobEvent := JobCall × JobReply

namespace JobCall

/-- The call enqueues a job under the id `k`. -/
def enqueues (k : String) (c : JobCall) : Bool :=
  match c.op with
  | .enqueue job => job.jobId = k
  | _ => false

/-- The call is `cancel_pending_call` of `callId`, which is not blank. -/
def cancels (callId : String) (c : JobCall) : Bool :=
  match c.op with
  | .cancelPendingCall raw => strip raw ≠ "" && strip raw = callId
  | _ => false

/-- The dead-letter limit under which the call requeues expired leases: only
`requeue_expired_leases` takes one. -/
def dlqLimit (c : JobCall) : Option Int :=
  match c.op with
  | .requeueExpiredLeases limit => limit
  | _ => none

end JobCall

namespace JobEvent

/-- `claim_next` returned the job `k`. -/
def handsOut (k : String) (e : JobEvent) : Bool :=
  match e.1.op, e.2 with
  | .claimNext _ _ _ _, .job (some job) => job.jobId = k
  | _, _ => false

/-- `complete_claim` of the job `k` returned `True`. -/
def completes (k : String) (e : JobEvent) : Bool :=
  match e.1.op, e.2 with
  | .completeClaim jobId _, .flag true => jobId = k
  | _, _ => false

end JobEvent

/-! ## Moves -/

/-- **Everything that can happen to the job `k` in one call.** -/
inductive JobMove (c : JobCall) (k : String) (reply : JobReply) :
    Option JobView → Option JobView → Prop
  /-- Nothing.  If the call cancels the call of the job, the job was past that. -/
  | stay {r : Option JobView} (hout : JobEvent.handsOut k (c, reply) = false)
      (hdone : JobEvent.completes k (c, reply) = false) (henq : r = none → c.enqueues k = false)
      (hcancel : ∀ v, r = some v → v.status = .queued ∨ v.status = .leased →
        c.cancels v.spec.callId = false) : JobMove c k reply r r
  /-- The job is created. -/
  | create {job : ByocToolJobEnvelope} (hop : c.op = .enqueue job) (hk : job.jobId = k) :
      JobMove c k reply none (some (.fresh job.toJobSpec))
  /-- The lease ran out or was cut short: the job goes back to the queue, or to the dead letters. -/
  | release {v : JobView} (hleased : v.status = .leased)
      (hend : v.leaseExpiresAtEpoch ≤ c.now ∨ c.cancels v.spec.callId = true)
      (hout : JobEvent.handsOut k (c, reply) = false)
      (hdone : JobEvent.completes k (c, reply) = false) :
      JobMove c k reply (some v)
        (some (v.release (if v.Exhausted c.dlqLimit then .deadLettered else .queued)))
  /-- The job is handed out. -/
  | claim {v : JobView} {tenantId workerId token : String} {ttl : Int} {e : ByocToolJobEnvelope}
      (hop : c.op = .claimNext tenantId workerId ttl token) (hreply : reply = .job (some e))
      (hk : e.jobId = k) (hqueued : (v.sweep c.now none).status = .queued)
      (he : e = ((v.sweep c.now none).lease token (c.now + ttlTicks ttl)).envelope) :
      JobMove c k reply (some v)
        (some ((v.sweep c.now none).lease token (c.now + ttlTicks ttl)))
  /-- The lease is completed. -/
  | complete {v : JobView} {token : String} (hop : c.op = .completeClaim k token)
      (hreply : reply = .flag true) (hheld : v.HeldBy c.now token) :
      JobMove c k reply (some v) (some v.complete)
  /-- The job is cancelled while it waits. -/
  | cancel {v : JobView} (hqueued : v.status = .queued) (hcancel : c.cancels v.spec.callId = true)
      (hout : JobEvent.handsOut k (c, reply) = false)
      (hdone : JobEvent.completes k (c, reply) = false) :
      JobMove c k reply (some v) (some { v with status := .cancelled })
  /-- The job is taken out of the dead letters. -/
  | replay {v : JobView} (hdead : v.status = .deadLettered)
      (hout : JobEvent.handsOut k (c, reply) = false)
      (hdone : JobEvent.completes k (c, reply) = false) :
      JobMove c k reply (some v) (some v.replay)
  /-- The record is pruned. -/
  | prune {v : JobView} (hfinished : v.Finished)
      (hout : JobEvent.handsOut k (c, reply) = false)
      (hdone : JobEvent.completes k (c, reply) = false) : JobMove c k reply (some v) none

/-- Without a limit, a lease that ends goes back to the queue. -/
theorem JobMove.requeue {c : JobCall} {k : String} {reply : JobReply} {v : JobView}
    (hlimit : c.dlqLimit = none) (hleased : v.status = .leased)
    (hend : v.leaseExpiresAtEpoch ≤ c.now ∨ c.cancels v.spec.callId = true)
    (hout : JobEvent.handsOut k (c, reply) = false)
    (hdone : JobEvent.completes k (c, reply) = false) :
    JobMove c k reply (some v) (some (v.release .queued)) := by
  have hmove : JobMove c k reply (some v)
      (some (v.release (if v.Exhausted c.dlqLimit then .deadLettered else .queued))) :=
    .release hleased hend hout hdone
  rwa [if_neg (by simp [hlimit, JobView.Exhausted])] at hmove

theorem JobView.sweep_spec (now : Epoch) (limit : Option Int) (v : JobView) :
    (v.sweep now limit).spec = v.spec := by
  rw [JobView.sweep]
  split
  · split <;> rfl
  · rfl

/-- A sweep is a move, in a call that neither hands the job out nor completes it. -/
theorem jobMove_sweep {c : JobCall} {k : String} {reply : JobReply} {r : Option JobView}
    (hout : JobEvent.handsOut k (c, reply) = false)
    (hdone : JobEvent.completes k (c, reply) = false) (henq : c.enqueues k = false)
    (hcancel : ∀ callId, c.cancels callId = false) :
    JobMove c k reply r (r.map (JobView.sweep c.now c.dlqLimit)) := by
  cases r with
  | none => exact .stay hout hdone (fun _ ↦ henq) (fun v hv _ ↦ hcancel _)
  | some v =>
    rw [Option.map_some]
    by_cases hexp : v.Expired c.now
    · have hsweep : v.sweep c.now c.dlqLimit =
          v.release (if v.Exhausted c.dlqLimit then .deadLettered else .queued) := by
        rw [JobView.sweep, if_pos hexp]
        split <;> rfl
      rw [hsweep]
      exact .release hexp.1 (.inl hexp.2) hout hdone
    · rw [JobView.sweep, if_neg hexp]
      exact .stay hout hdone (fun _ ↦ henq) (fun w hw _ ↦ hcancel _)

/-- The move of `claim_next`. -/
theorem jobMove_claimNext {now : Epoch} {tenantId workerId token : String} {ttl : Int} {k : String}
    {reply : JobReply} {before after : Option JobView}
    (h : RecordStep ⟨now, .claimNext tenantId workerId ttl token⟩ k reply before after) :
    JobMove ⟨now, .claimNext tenantId workerId ttl token⟩ k reply before after := by
  rcases h with ⟨rfl, rfl⟩ | ⟨e, rfl, hother, hsame⟩
  · exact jobMove_sweep rfl rfl rfl fun _ ↦ rfl
  · by_cases hk : e.jobId = k
    · obtain ⟨v', hv', hqueued, rfl, he⟩ := hsame hk
      obtain ⟨v, rfl, rfl⟩ := Option.map_eq_some_iff.mp hv'
      exact .claim rfl rfl hk hqueued he
    · rw [hother hk]
      exact jobMove_sweep (by simpa [JobEvent.handsOut] using hk) rfl rfl fun _ ↦ rfl

/-- The move of `complete_claim`. -/
theorem jobMove_completeClaim {now : Epoch} {jobId token k : String} {reply : JobReply}
    {before after : Option JobView}
    (h : RecordStep ⟨now, .completeClaim jobId token⟩ k reply before after) :
    JobMove ⟨now, .completeClaim jobId token⟩ k reply before after := by
  obtain ⟨hother, hsame⟩ := h
  by_cases hk : jobId = k
  · subst hk
    rcases hsame rfl with ⟨rfl, v, rfl, hheld, rfl⟩ | ⟨rfl, -, rfl⟩
    · exact .complete rfl rfl hheld
    · exact jobMove_sweep rfl rfl rfl fun _ ↦ rfl
  · have hdone : ∀ b, JobEvent.completes k (⟨now, .completeClaim jobId token⟩, .flag b) = false :=
      fun b ↦ by cases b <;> simp [JobEvent.completes, hk]
    rcases hother hk with ⟨rfl, rfl⟩ | ⟨rfl, rfl | rfl⟩
    · exact .stay rfl (hdone true) (fun _ ↦ rfl) (fun _ _ _ ↦ rfl)
    · exact .stay rfl (hdone false) (fun _ ↦ rfl) (fun _ _ _ ↦ rfl)
    · exact jobMove_sweep rfl (hdone false) rfl fun _ ↦ rfl

/-- The move of `cancel_pending_call`. -/
theorem jobMove_cancelPendingCall {now : Epoch} {callId k : String} {reply : JobReply}
    {before after : Option JobView}
    (h : RecordStep ⟨now, .cancelPendingCall callId⟩ k reply before after) :
    JobMove ⟨now, .cancelPendingCall callId⟩ k reply before after := by
  simp only [RecordStep] at h
  split at h
  · rename_i hblank
    rw [h]
    exact .stay rfl rfl (fun _ ↦ rfl) (fun _ _ _ ↦ by simp [JobCall.cancels, hblank])
  · rename_i hcall
    rw [h]
    cases before with
    | none => exact .stay rfl rfl (fun _ ↦ rfl) (fun v hv _ ↦ absurd hv (by simp))
    | some v =>
      rw [Option.map_some]
      by_cases hv : v.spec.callId = strip callId
      · have hcancel : JobCall.cancels v.spec.callId ⟨now, .cancelPendingCall callId⟩ = true := by
          simp [JobCall.cancels, hv, hcall]
        rw [if_pos hv]
        cases hs : v.status with
        | queued =>
          have hw : (v.cancel).sweep now none = { v with status := .cancelled } := by
            rw [JobView.cancel, hs, JobView.sweep, if_neg (by simp [JobView.Expired])]
          rw [hw]
          exact .cancel hs hcancel rfl rfl
        | leased =>
          have hw : (v.cancel).sweep now none = v.release .queued := by
            simp [JobView.cancel, hs, JobView.sweep, JobView.Expired, JobView.Exhausted,
              JobView.release]
          rw [hw]
          exact .requeue rfl hs (.inr hcancel) rfl rfl
        | completed | cancelled | deadLettered =>
          have hw : (v.cancel).sweep now none = v := by
            simp [JobView.cancel, hs, JobView.sweep, JobView.Expired]
          rw [hw]
          refine .stay rfl rfl (fun _ ↦ rfl) fun w hw hstatus ↦ ?_
          obtain rfl := Option.some.inj hw
          rw [hs] at hstatus
          exact absurd hstatus (by simp)
      · have hmiss : ∀ w, some v = some w →
            JobCall.cancels w.spec.callId ⟨now, .cancelPendingCall callId⟩ = false := by
          rintro w hw
          obtain rfl := Option.some.inj hw
          simp [JobCall.cancels, Ne.symm hv]
        rw [if_neg hv]
        by_cases hexp : v.Expired now
        · have hw : v.sweep now none = v.release .queued := by
            simp [JobView.sweep, hexp, JobView.Exhausted]
          rw [hw]
          exact .requeue rfl hexp.1 (.inl hexp.2) rfl rfl
        · rw [JobView.sweep, if_neg hexp]
          exact .stay rfl rfl (fun _ ↦ rfl) fun w hw _ ↦ hmiss w hw

/-- **Every call moves every job in one of the seven ways, or leaves it alone.** -/
theorem RecordStep.move {c : JobCall} {k : String} {reply : JobReply}
    {before after : Option JobView} (h : RecordStep c k reply before after) :
    JobMove c k reply before after := by
  obtain ⟨now, op⟩ := c
  cases op with
  | enqueue job =>
    simp only [RecordStep] at h
    subst h
    by_cases hk : job.jobId = k
    · rw [if_pos hk.symm]
      cases before with
      | none => exact .create rfl hk
      | some v => exact .stay rfl rfl (fun hr ↦ absurd hr (by simp)) (fun _ _ _ ↦ rfl)
    · rw [if_neg (Ne.symm hk)]
      exact .stay rfl rfl (fun _ ↦ by simpa [JobCall.enqueues] using hk) (fun _ _ _ ↦ rfl)
  | claimNext tenantId workerId ttl token => exact jobMove_claimNext h
  | completeClaim jobId token => exact jobMove_completeClaim h
  | getLeasedJob jobId token =>
    have hstay : ∀ r, JobMove ⟨now, .getLeasedJob jobId token⟩ k reply r r :=
      fun r ↦ .stay rfl rfl (fun _ ↦ rfl) (fun _ _ _ ↦ rfl)
    have hsweep : ∀ r, JobMove ⟨now, .getLeasedJob jobId token⟩ k reply r
        (r.map (JobView.sweep now none)) := fun r ↦ jobMove_sweep rfl rfl rfl fun _ ↦ rfl
    obtain ⟨hother, hsame⟩ := h
    by_cases hk : jobId = k
    · rcases hsame hk with ⟨v, rfl, -, -, rfl⟩ | ⟨-, -, rfl⟩
      · exact hstay _
      · exact hsweep _
    · rcases hother hk with rfl | rfl
      · exact hstay _
      · exact hsweep _
  | requeueExpiredLeases limit =>
    obtain rfl : after = before.map (JobView.sweep now limit) := h
    exact jobMove_sweep rfl rfl rfl fun _ ↦ rfl
  | replayDeadLetterJob tenantId jobId =>
    have hstay : ∀ r, JobMove ⟨now, .replayDeadLetterJob tenantId jobId⟩ k reply r r :=
      fun r ↦ .stay rfl rfl (fun _ ↦ rfl) (fun _ _ _ ↦ rfl)
    obtain ⟨hother, hsame⟩ := h
    by_cases hk : strip jobId = k
    · rcases hsame hk with ⟨-, v, rfl, -, hdead, rfl⟩ | ⟨-, rfl⟩
      · exact .replay hdead rfl rfl
      · exact hstay _
    · rw [hother hk]
      exact hstay _
  | cancelPendingCall callId => exact jobMove_cancelPendingCall h
  | cleanupRetention tenantId limits =>
    rcases h with rfl | ⟨rfl, v, rfl, hfin, -⟩
    · exact .stay rfl rfl (fun _ ↦ rfl) (fun _ _ _ ↦ rfl)
    · exact .prune hfin rfl rfl
  | deadLetterCount tenantId | listDeadLetterJobs tenantId limit | queueDepth =>
    obtain rfl : after = before := h
    exact .stay rfl rfl (fun _ ↦ rfl) (fun _ _ _ ↦ rfl)

/-! ## Jobs that are over -/

/-- No record, or a completed or cancelled one. -/
def Retired (r : Option JobView) : Prop := ∀ v, r = some v → v.Finished

/-- **A job that is over stays as it is or is pruned**, and is not handed out, unless its id is
enqueued again. -/
theorem Retired.move {c : JobCall} {k : String} {reply : JobReply} {r r' : Option JobView}
    (hr : Retired r) (hmove : JobMove c k reply r r') (henq : c.enqueues k = false) :
    (r' = r ∨ r' = none) ∧ JobEvent.handsOut k (c, reply) = false := by
  have hopen : ∀ v, r = some v → v.status ≠ .queued ∧ v.status ≠ .leased ∧
      v.status ≠ .deadLettered := by
    intro v hv
    rcases hr v hv with h | h <;> simp [h]
  cases hmove with
  | stay hout hdone hnone hcancel => exact ⟨.inl rfl, hout⟩
  | create hop hk => simp [JobCall.enqueues, hop, hk] at henq
  | release hleased hend hout hdone => exact absurd hleased (hopen _ rfl).2.1
  | @claim v _ _ _ _ _ hop hreply hk hqueued he =>
    have hv := hopen v rfl
    rw [JobView.sweep, if_neg fun hexp ↦ hv.2.1 hexp.1] at hqueued
    exact absurd hqueued hv.1
  | complete hop hreply hheld => exact absurd hheld.1 (hopen _ rfl).2.1
  | cancel hqueued hcancel hout hdone => exact absurd hqueued (hopen _ rfl).1
  | replay hdead hout hdone => exact absurd hdead (hopen _ rfl).2.2
  | prune hfinished hout hdone => exact ⟨.inr rfl, hout⟩

theorem Retired.of_kept {r r' : Option JobView} (hr : Retired r) (h : r' = r ∨ r' = none) :
    Retired r' := by
  rcases h with rfl | rfl
  · exact hr
  · exact fun v hv ↦ absurd hv (by simp)

/-- A record that is there was there before, or is being created. -/
theorem JobMove.exists_or_enqueues {c : JobCall} {k : String} {reply : JobReply}
    {r r' : Option JobView} (hmove : JobMove c k reply r r') (h : r' ≠ none) :
    r ≠ none ∨ c.enqueues k = true := by
  cases hmove with
  | stay => exact .inl h
  | create hop hk => exact .inr (by simp [JobCall.enqueues, hop, hk])
  | release | claim | complete | cancel | replay | prune => exact .inl (by simp)

/-- **What a job is does not change.**  A record has the specification it had before, or the one
it was just enqueued with. -/
theorem JobMove.spec_cases {c : JobCall} {k : String} {reply : JobReply} {r r' : Option JobView}
    (hmove : JobMove c k reply r r') {w : JobView} (hw : r' = some w) :
    (r = none ∧ ∃ job, c.op = .enqueue job ∧ job.jobId = k ∧ w.spec = job.toJobSpec) ∨
      ∃ v, r = some v ∧ w.spec = v.spec := by
  cases hmove with
  | stay => exact .inr ⟨w, hw, rfl⟩
  | create hop hk =>
    obtain rfl := Option.some.inj hw
    exact .inl ⟨rfl, _, hop, hk, rfl⟩
  | claim hop hreply hk hqueued he =>
    obtain rfl := Option.some.inj hw
    exact .inr ⟨_, rfl, JobView.sweep_spec c.now none _⟩
  | release | complete | cancel | replay =>
    obtain rfl := Option.some.inj hw
    exact .inr ⟨_, rfl, rfl⟩
  | prune => exact absurd hw (by simp)

end Byoc
end ExoBrain
