import Mathlib.Data.Finset.Card
import ExoBrain.Byoc.Queue

/-!
# What `cancel_pending_call` stops

`cancel_pending_call` treats the jobs of a call in two ways.  A queued job is cancelled, and that
is final: `Retired` jobs are never handed out again (`retired_run`).  A leased job only has its
lease cut short, and the sweep at the end of the same call puts it back in the queue, where the
next workers find it.

That they do find it is the other half of the module.  A `LiveJobStore` is a lawful store that
keeps finitely many records and whose `claim_next` comes back empty-handed only when the tenant has
nothing queued; both backends are such stores.  In a live store every queued or leased job is
handed out in some continuation (`exists_handsOut`): requeue what has expired, then keep claiming
for the tenant, and the number of queued jobs goes down until it is this job's turn.

The two halves meet in `cancelFinal_iff`.
-/

set_option autoImplicit false

namespace ExoBrain
namespace Byoc

open Text

/-! ## Jobs that are over -/

section Lawful

variable {σ : Type} {S : ByocJobQueueStore σ} {inv : σ → Prop}
  {record : σ → String → Option JobView}

/-- **A job that is over is never handed out again**, in any run that does not enqueue its id. -/
theorem retired_run (hS : LawfulJobStore S inv record) {s : σ} (hinv : inv s) {k : String}
    (hr : Retired (record s k)) {calls : List JobCall}
    (hcalls : ∀ c ∈ calls, c.enqueues k = false) :
    ∀ e ∈ Run.trace S.step s calls, JobEvent.handsOut k e = false := by
  have hstep : ∀ s (c : JobCall), c.enqueues k = false → inv s ∧ Retired (record s k) →
      (inv (S.step s c).2 ∧ Retired (record (S.step s c).2 k)) ∧
        JobEvent.handsOut k (c, (S.step s c).1) = false := by
    intro s c henq ⟨hinv, hr⟩
    obtain ⟨hkept, hout⟩ := hr.move (hS.record_step s c k hinv).move henq
    exact ⟨⟨hS.inv_step s c hinv, hr.of_kept hkept⟩, hout⟩
  exact Run.forall_mem_trace hstep (Run.along_of_forall_mem (fun c hc _ ↦ hcalls c hc) s)
    ⟨hinv, hr⟩

end Lawful

/-! ## Live stores -/

/-- A lawful store with finitely many records, whose `claim_next` does not overlook a job. -/
structure LiveJobStore {σ : Type} (S : ByocJobQueueStore σ) (inv : σ → Prop)
    (record : σ → String → Option JobView) : Prop extends LawfulJobStore S inv record where
  /-- Only finitely many ids have a record. -/
  finite : ∀ s, inv s → ∃ ids : Finset String, ∀ k v, record s k = some v → k ∈ ids
  /-- When `claim_next` returns `None`, the sweep left no queued job of the tenant. -/
  serves : ∀ s now t w ttl token, inv s →
    (S.step s ⟨now, .claimNext t w ttl token⟩).1 = .job none →
    ∀ k v, (record s k).map (JobView.sweep now none) = some v → v.spec.tenantId = t →
      v.status ≠ .queued

/-- No lease has run out. -/
def NoneExpired {σ : Type} (record : σ → String → Option JobView) (now : Epoch) (s : σ) : Prop :=
  ∀ k v, record s k = some v → ¬v.Expired now

theorem not_expired_sweep (now : Epoch) (limit : Option Int) (v : JobView) :
    ¬(v.sweep now limit).Expired now := by
  rw [JobView.sweep]
  by_cases h : v.Expired now
  · rw [if_pos h]
    split <;> simp [JobView.Expired, JobView.release]
  · rwa [if_neg h]

section Live

variable {σ : Type} {S : ByocJobQueueStore σ} {inv : σ → Prop}
  {record : σ → String → Option JobView}

/-- While no lease runs out, `claim_next` changes the record of the job it returns and no other. -/
theorem claim_other (hS : LawfulJobStore S inv record) {s : σ} (hinv : inv s) {now : Epoch}
    (hquiet : NoneExpired record now s) {t w token : String} {ttl : Int} {e : ByocToolJobEnvelope}
    (hreply : (S.step s ⟨now, .claimNext t w ttl token⟩).1 = .job (some e)) (k : String) :
    (e.jobId ≠ k → record (S.step s ⟨now, .claimNext t w ttl token⟩).2 k = record s k) ∧
    (e.jobId = k → ∃ v, record s k = some v ∧ v.status = .queued ∧
      record (S.step s ⟨now, .claimNext t w ttl token⟩).2 k =
        some (v.lease token (now + ttlTicks ttl))) := by
  have hsweep : (record s k).map (JobView.sweep now none) = record s k := by
    cases hv : record s k with
    | none => rfl
    | some v => rw [Option.map_some, JobView.sweep_of_not_expired (hquiet k v hv)]
  rcases hS.record_step s ⟨now, .claimNext t w ttl token⟩ k hinv with ⟨hnone, -⟩ | ⟨e', he', hother,
    hsame⟩
  · rw [hreply] at hnone
    exact absurd hnone (by simp)
  · rw [hreply] at he'
    obtain rfl : e = e' := by simpa using he'
    refine ⟨fun hk ↦ (hother hk).trans hsweep, fun hk ↦ ?_⟩
    obtain ⟨v, hv, hq, hafter, -⟩ := hsame hk
    exact ⟨v, hsweep ▸ hv, hq, hafter⟩

/-- **Claiming reaches every queued job.**  The induction is on the number of queued jobs: as long
as another job is handed out, that number goes down and this job keeps its place. -/
theorem exists_handsOut_of_queued (hS : LiveJobStore S inv record) {now : Epoch} {k : String}
    {v : JobView} (hq : v.status = .queued) (n : Nat) :
    ∀ (s : σ) (ids : Finset String), inv s → NoneExpired record now s → record s k = some v →
      (∀ i w, record s i = some w → i ∈ ids) →
      (ids.filter fun i ↦ (record s i).any fun w ↦ w.status = .queued).card = n →
      ∃ calls, (∀ c ∈ calls, JobCall.enqueues k c = false) ∧
        ∃ e ∈ Run.trace S.step s calls, JobEvent.handsOut k e = true := by
  induction n using Nat.strong_induction_on with
  | _ n ih =>
    intro s ids hinv hquiet hv hids hcard
    have hlaw := hS.toLawfulJobStore
    have hstep := hlaw.record_step s ⟨now, .claimNext v.spec.tenantId "" 1 ""⟩ k hinv
    rcases hstep with ⟨hnone, -⟩ | ⟨e, he, -⟩
    · have hsweep : (record s k).map (JobView.sweep now none) = some v := by
        rw [hv, Option.map_some, JobView.sweep_of_not_expired (hquiet k v hv)]
      exact absurd hq (hS.serves s now v.spec.tenantId "" 1 "" hinv hnone k v hsweep rfl)
    · have hclaim := claim_other hlaw hinv hquiet he
      by_cases hk : e.jobId = k
      · refine ⟨[⟨now, .claimNext v.spec.tenantId "" 1 ""⟩], fun c hc ↦ ?_,
          (⟨now, .claimNext v.spec.tenantId "" 1 ""⟩, .job (some e)), ?_, ?_⟩
        · obtain rfl := List.mem_singleton.mp hc
          rfl
        · rw [Run.trace, he]; simp
        · simp [JobEvent.handsOut, hk]
      · obtain ⟨w, hw, hwq, hwafter⟩ := (hclaim e.jobId).2 rfl
        generalize hs' : (S.step s ⟨now, .claimNext v.spec.tenantId "" 1 ""⟩).2 = s' at hclaim hwafter
        have hinv' : inv s' := hs' ▸ hlaw.inv_step s _ hinv
        have hrec : ∀ i, i ≠ e.jobId → record s' i = record s i :=
          fun i hi ↦ (hclaim i).1 (Ne.symm hi)
        have hquiet' : NoneExpired record now s' := by
          intro i x hx hexp
          by_cases hi : i = e.jobId
          · rw [hi, hwafter, Option.some_inj] at hx
            subst hx
            exact Nat.not_le.mpr (Nat.lt_add_of_pos_right (ttlTicks_pos 1)) hexp.2
          · exact hquiet i x (hrec i hi ▸ hx) hexp
        have hids' : ∀ i x, record s' i = some x → i ∈ ids := by
          intro i x hx
          by_cases hi : i = e.jobId
          · exact hi ▸ hids e.jobId w hw
          · exact hids i x (hrec i hi ▸ hx)
        have hless : (ids.filter fun i ↦ (record s' i).any fun w ↦ w.status = .queued).card < n := by
          rw [← hcard]
          refine Finset.card_lt_card ⟨fun i hi ↦ ?_, fun hsub ↦ ?_⟩
          · rw [Finset.mem_filter] at hi ⊢
            refine ⟨hi.1, ?_⟩
            by_cases hie : i = e.jobId
            · rw [hie, hw]; simp [hwq]
            · rw [← hrec i hie]; exact hi.2
          · have hmem := hsub (Finset.mem_filter.mpr ⟨hids e.jobId w hw, by rw [hw]; simp [hwq]⟩)
            rw [Finset.mem_filter, hwafter] at hmem
            exact absurd hmem.2 (by simp [JobView.lease])
        have hv' : record s' k = some v := (hrec k (Ne.symm hk)).trans hv
        obtain ⟨calls, henq, x, hx, hout⟩ := ih _ hless s' ids hinv' hquiet' hv' hids' rfl
        refine ⟨⟨now, .claimNext v.spec.tenantId "" 1 ""⟩ :: calls,
          List.forall_mem_cons.mpr ⟨rfl, henq⟩, x, ?_, hout⟩
        rw [Run.trace, hs']
        exact List.mem_cons_of_mem _ hx

/-- **Every queued or leased job is handed out in some continuation.** -/
theorem exists_handsOut (hS : LiveJobStore S inv record) {s : σ} (hinv : inv s) {k : String}
    {v : JobView} (hv : record s k = some v) (hopen : v.status = .queued ∨ v.status = .leased) :
    ∃ calls, (∀ c ∈ calls, JobCall.enqueues k c = false) ∧
      ∃ e ∈ Run.trace S.step s calls, JobEvent.handsOut k e = true := by
  -- wait until the lease of the job has run out, and requeue everything
  generalize hc : (⟨v.leaseExpiresAtEpoch, .requeueExpiredLeases none⟩ : JobCall) = c
  have hrec : ∀ i, record (S.step s c).2 i =
      (record s i).map (JobView.sweep v.leaseExpiresAtEpoch none) := by
    intro i
    have h := hS.record_step s c i hinv
    rw [← hc] at h ⊢
    exact h
  have hinv' := hS.inv_step s c hinv
  have hquiet : NoneExpired record v.leaseExpiresAtEpoch (S.step s c).2 := by
    intro i w hw
    rw [hrec] at hw
    obtain ⟨w₀, -, rfl⟩ := Option.map_eq_some_iff.mp hw
    exact not_expired_sweep _ _ _
  have hq : (v.sweep v.leaseExpiresAtEpoch none).status = .queued := by
    rcases hopen with h | h
    · rw [JobView.sweep, if_neg (by simp [JobView.Expired, h]), h]
    · rw [JobView.sweep, if_pos ⟨h, Nat.le_refl _⟩, if_neg (by simp [JobView.Exhausted])]; rfl
  obtain ⟨ids, hids⟩ := hS.finite _ hinv'
  obtain ⟨calls, henq, e, he, hout⟩ := exists_handsOut_of_queued hS hq _ (S.step s c).2 ids hinv'
    hquiet (by rw [hrec, hv]; rfl) hids rfl
  refine ⟨c :: calls, List.forall_mem_cons.mpr ⟨by rw [← hc]; rfl, henq⟩, e, ?_, hout⟩
  rw [Run.trace]
  exact List.mem_cons_of_mem _ he

/-- Cancelling `callId` in the state `s` is final: no job of the call that is queued or leased at
that moment is handed out in any continuation.  A job that is enqueued later under the same id is
another job. -/
def CancelFinal (S : ByocJobQueueStore σ) (record : σ → String → Option JobView) (s : σ)
    (now : Epoch) (callId : String) : Prop :=
  ∀ k v, record s k = some v → v.spec.callId = callId →
    v.status = .queued ∨ v.status = .leased →
    ∀ calls, (∀ c ∈ calls, JobCall.enqueues k c = false) →
      ∀ e ∈ Run.trace S.step (S.step s ⟨now, .cancelPendingCall callId⟩).2 calls,
        JobEvent.handsOut k e = false

/-- **Exactly when cancelling is final**: all the jobs of the call that are queued or leased are
queued, and the id is free of surrounding blanks. -/
theorem cancelFinal_iff (hS : LiveJobStore S inv record) {s : σ} (hinv : inv s) (now : Epoch)
    {callId : String} (hcall : strip callId ≠ "") :
    CancelFinal S record s now callId ↔
      ∀ k v, record s k = some v → v.spec.callId = callId →
        v.status = .queued ∨ v.status = .leased →
        v.status = .queued ∧ strip callId = callId := by
  have hlaw := hS.toLawfulJobStore
  have hinv' := hlaw.inv_step s ⟨now, .cancelPendingCall callId⟩ hinv
  have hafter : ∀ k v, record s k = some v →
      record (S.step s ⟨now, .cancelPendingCall callId⟩).2 k =
        some ((if v.spec.callId = strip callId then v.cancel else v).sweep now none) := by
    intro k v hv
    have h := hlaw.record_step s ⟨now, .cancelPendingCall callId⟩ k hinv
    simp only [RecordStep, if_neg hcall, hv, Option.map_some] at h
    exact h
  constructor
  · intro hfinal k v hv hvc hopen
    by_contra hcond
    have hstill : ∀ u : JobView, u.status = .queued ∨ u.status = .leased →
        (u.sweep now none).status = .queued ∨ (u.sweep now none).status = .leased := by
      intro u hu
      rw [JobView.sweep]
      split
      · rw [if_neg (by simp [JobView.Exhausted])]; exact .inl rfl
      · exact hu
    have hlive : ((if v.spec.callId = strip callId then v.cancel else v).sweep now none).status =
          .queued ∨
        ((if v.spec.callId = strip callId then v.cancel else v).sweep now none).status =
          .leased := by
      refine hstill _ ?_
      split
      · rename_i hstrip
        have hleased : v.status = .leased :=
          hopen.resolve_left fun hq ↦ hcond ⟨hq, hstrip.symm.trans hvc⟩
        right
        simp [JobView.cancel, hleased]
      · exact hopen
    obtain ⟨calls, henq, e, he, hout⟩ := exists_handsOut hS hinv' (hafter k v hv) hlive
    rw [hfinal k v hv hvc hopen calls henq e he] at hout
    exact absurd hout (by simp)
  · intro hcond k v hv hvc hopen calls henq
    obtain ⟨hq, hstrip⟩ := hcond k v hv hvc hopen
    refine retired_run hlaw hinv' ?_ henq
    intro w hw
    rw [hafter k v hv, if_pos (hvc.trans hstrip.symm), Option.some_inj, JobView.cancel, hq,
      JobView.sweep, if_neg (by simp [JobView.Expired])] at hw
    rw [← hw]
    exact .inr rfl

end Live

/-! ## Both backends are live -/

namespace InMemoryByocJobQueueStore

/-- Every queued job is in the deque of its tenant.  Unlike `QueueInv` this survives the reuse of
ids. -/
def Filed (s : InMemoryByocJobQueueStore) : Prop :=
  ∀ k v, record s k = some v → v.status = .queued → k ∈ s.tenantQueue v.spec.tenantId

/-- A step that files what it makes queued keeps every queued job filed. -/
theorem Filed.step {s s' : InMemoryByocJobQueueStore} (h : Filed s) {c : JobCall}
    {reply : JobReply} (hmove : ∀ k, JobMove c k reply (record s k) (record s' k))
    (hfile : ∀ t, s'.tenantQueue t =
      s.tenantQueue t ++ (newlyQueued s s').filter (s'.waitsFor t)) : Filed s' := by
  intro k w hw hq
  rw [hfile, List.mem_append]
  cases hwaits : s.waits k with
  | false =>
    refine .inr (List.mem_filter.mpr ⟨?_, waitsFor_iff.mpr ⟨w, hw, hq, rfl⟩⟩)
    exact mem_newlyQueued.mpr ⟨waits_iff.mpr ⟨w, hw, hq⟩, hwaits⟩
  | true =>
    obtain ⟨v, hv, hvq⟩ := waits_iff.mp hwaits
    rcases spec_of_move (hmove k) hw with ⟨hnone, -⟩ | ⟨v', hv', hspec⟩
    · rw [hv] at hnone
      exact absurd hnone (by simp)
    · rw [hspec]
      exact .inl (h k v' hv' (by rw [hv, Option.some_inj] at hv'; exact hv' ▸ hvq))

theorem Filed.sweep {s : InMemoryByocJobQueueStore} (h : Filed s) (now : Epoch) :
    Filed (s.requeueExpiredLeases now none).2 :=
  h.step (move_requeueExpiredLeases now s) (files_requeueExpiredLeases now none s)

/-- The pop takes one queued job and stale ids off the deque. -/
theorem Filed.claimNext {s : InMemoryByocJobQueueStore} (h : Filed s) (now : Epoch)
    (t w : String) (ttl : Int) (token : String) : Filed (s.claimNext now t w ttl token).2 := by
  have hsweep := h.sweep now
  obtain ⟨rest, hpop, heq⟩ | ⟨j, st, rest, hpop, heq⟩ := claimNext_cases now t w ttl token s
  · obtain ⟨rfl, hstale⟩ := popQueued_none hpop
    rw [heq]
    intro k v hv hq
    have hk := hsweep k v hv hq
    have ht : v.spec.tenantId ≠ t := by
      rintro rfl
      obtain ⟨st, hst, rfl⟩ := Option.map_eq_some_iff.mp hv
      exact hstale k hk st hst hq
    simpa only [Function.update_of_ne ht] using hk
  · obtain ⟨hget, -, stale, hsplit, hstale⟩ := popQueued_spec hpop
    rw [heq]
    intro k v hv hq
    rw [record_modify] at hv
    split at hv
    · rename_i hkj
      rw [hkj, hget, Option.map_some, Option.some_inj] at hv
      rw [← hv] at hq
      exact absurd hq (by simp [view, claimed, Lifecycle.lease, JobView.of])
    · rename_i hkj
      have hk := hsweep k v hv hq
      by_cases ht : v.spec.tenantId = t
      · rw [ht, hsplit, List.mem_append, List.mem_cons] at hk
        simp only [ht, Function.update_self]
        rcases hk with hk | hk | hk
        · obtain ⟨st', hst', rfl⟩ := Option.map_eq_some_iff.mp hv
          exact absurd hq (hstale k hk st' hst')
        · exact absurd hk hkj
        · exact hk
      · simpa only [Function.update_of_ne ht] using hk

theorem filed_step {s : InMemoryByocJobQueueStore} (hinv : Inv s) (h : Filed s) (c : JobCall) :
    Filed (inMemoryByocJobQueueStore.step s c).2 := by
  by_cases hc : ∃ t w ttl token, c.op = .claimNext t w ttl token
  · obtain ⟨t, w, ttl, token, hop⟩ := hc
    obtain ⟨now, op⟩ := c
    obtain rfl : op = .claimNext t w ttl token := hop
    exact h.claimNext now t w ttl token
  · exact h.step (fun k ↦ (lawful.record_step s c k hinv).move)
      (files_step s c fun t w ttl token hop ↦ hc ⟨t, w, ttl, token, hop⟩)

theorem finite_record (s : InMemoryByocJobQueueStore) :
    ∃ ids : Finset String, ∀ k v, record s k = some v → k ∈ ids :=
  ⟨s.states.keys.toFinset, fun _ _ hv ↦ List.mem_toFinset.mpr (mem_keys_of_record hv)⟩

/-- **The in-memory store is live.** -/
theorem live :
    LiveJobStore inMemoryByocJobQueueStore (fun s ↦ Inv s ∧ Filed s) record where
  inv_step s c h := ⟨lawful.inv_step s c h.1, filed_step h.1 h.2 c⟩
  jobId_eq s k v h := lawful.jobId_eq s k v h.1
  record_step s c k h := lawful.record_step s c k h.1
  finite s _ := finite_record s
  serves s now t w ttl token h hnone k v hv ht hq := by
    have hsweep := h.2.sweep now
    rw [← record_requeueExpiredLeases] at hv
    obtain ⟨rest, hpop, -⟩ | ⟨j, st, rest, -, heq⟩ := claimNext_cases now t w ttl token s
    · have hk := hsweep k v hv hq
      obtain ⟨st, hst, rfl⟩ := Option.map_eq_some_iff.mp hv
      exact (popQueued_none hpop).2 k (ht ▸ hk) st hst hq
    · simp only [ByocJobQueueStore.step, inMemoryByocJobQueueStore] at hnone
      rw [heq] at hnone
      exact absurd hnone (by simp)

theorem live_run (calls : List JobCall) : Inv (run calls) ∧ Filed (run calls) := by
  refine Run.exec_invariant (P := fun s ↦ Inv s ∧ Filed s) (fun s c _ ↦ live.inv_step s c)
    (Run.along_of_forall (fun _ _ ↦ trivial) init calls) ⟨init_inv, ?_⟩
  intro k v hv
  exact absurd hv (by simp [record, init])

end InMemoryByocJobQueueStore

namespace SQLiteByocJobQueueStore

/-- One run of the SQLite store, from a fresh one. -/
abbrev run (shared : Bool) (calls : List JobCall) : SQLiteByocJobQueueStore :=
  Run.exec sqliteByocJobQueueStore.step (init shared) calls

/-- `SELECT` finds nothing only when the tenant has no queued row. -/
theorem selectNextQueued_none {t : JobTable} {tenantId : String}
    (h : t.selectNextQueued tenantId = none) {k : String} {r : JobRow} (hr : t.get? k = some r)
    (ht : r.tenantId = tenantId) : r.status ≠ .queued := by
  rw [JobTable.selectNextQueued, Option.map_eq_none_iff, List.find?_eq_none] at h
  have hrow := h (k, r) (Dict.mem_entries_iff.mpr hr)
  intro hq
  exact hrow (by simp [ht, hq])

/-- **The SQLite store is live.** -/
theorem live : LiveJobStore sqliteByocJobQueueStore Inv record where
  toLawfulJobStore := lawful
  finite s _ := by
    refine ⟨s.rows.keys.toFinset, fun k v hv ↦ List.mem_toFinset.mpr ?_⟩
    obtain ⟨r, hr, -⟩ := Option.map_eq_some_iff.mp hv
    exact Dict.mem_keys_iff.mpr ⟨r, hr⟩
  serves s now t w ttl token _ hnone k v hv ht hq := by
    rw [← record_requeueExpiredLeases] at hv
    obtain ⟨r, hr, rfl⟩ := Option.map_eq_some_iff.mp hv
    simp only [ByocJobQueueStore.step, sqliteByocJobQueueStore, claimNext] at hnone
    split at hnone
    · rename_i hsel
      exact selectNextQueued_none hsel hr ht hq
    · exact absurd hnone (by simp)

theorem inv_run (shared : Bool) (calls : List JobCall) : Inv (run shared calls) :=
  Run.exec_invariant (fun s c _ ↦ lawful.inv_step s c)
    (Run.along_of_forall (fun _ _ ↦ trivial) _ calls) (init_inv shared)

end SQLiteByocJobQueueStore

/-- **When a cancellation is final, for both backends.**  In every reachable state, cancelling a
non-blank `callId` keeps all the jobs of the call from ever being handed out again if and only if
none of them is leased at that moment (and the id carries no surrounding blanks, which
`cancel_pending_call` strips off before it compares). -/
theorem cancel_final_iff_not_leased (calls : List JobCall) (now : Epoch) (callId : String)
    (hcall : strip callId ≠ "") :
    (CancelFinal inMemoryByocJobQueueStore InMemoryByocJobQueueStore.record
        (InMemoryByocJobQueueStore.run calls) now callId ↔
      ∀ k v, InMemoryByocJobQueueStore.record (InMemoryByocJobQueueStore.run calls) k = some v →
        v.spec.callId = callId → v.status = .queued ∨ v.status = .leased →
        v.status = .queued ∧ strip callId = callId) ∧
    ∀ shared,
      (CancelFinal sqliteByocJobQueueStore SQLiteByocJobQueueStore.record
          (SQLiteByocJobQueueStore.run shared calls) now callId ↔
        ∀ k v, SQLiteByocJobQueueStore.record (SQLiteByocJobQueueStore.run shared calls) k = some v →
          v.spec.callId = callId → v.status = .queued ∨ v.status = .leased →
          v.status = .queued ∧ strip callId = callId) :=
  ⟨cancelFinal_iff InMemoryByocJobQueueStore.live (InMemoryByocJobQueueStore.live_run calls) now
      hcall,
    fun shared ↦ cancelFinal_iff SQLiteByocJobQueueStore.live
      (SQLiteByocJobQueueStore.inv_run shared calls) now hcall⟩

theorem cancel_final_iff_not_leased_enqueued :
    CancelFinal inMemoryByocJobQueueStore InMemoryByocJobQueueStore.record
      (InMemoryByocJobQueueStore.run
        [⟨0, .enqueue InMemoryByocJobQueueStore.sampleJob⟩]) 1 "c" := by
  refine (cancel_final_iff_not_leased [⟨0, .enqueue InMemoryByocJobQueueStore.sampleJob⟩] 1 "c"
    (by decide)).1.mpr fun k v hv hcall hopen ↦ ?_
  have hrec := InMemoryByocJobQueueStore.recordStep_enqueue InMemoryByocJobQueueStore.init 0
    InMemoryByocJobQueueStore.sampleJob k
  simp only [RecordStep] at hrec
  have hv' : (if k = "j" then some (JobView.fresh InMemoryByocJobQueueStore.sampleJob.toJobSpec)
      else none) = some v := hrec.symm.trans hv
  split at hv'
  · obtain rfl := Option.some.inj hv'
    exact ⟨rfl, by decide⟩
  · exact absurd hv' (by simp)

/-- A leased job of the cancelled call is handed out again by the next claim. -/
theorem cancel_final_fails_leased :
    ¬CancelFinal inMemoryByocJobQueueStore InMemoryByocJobQueueStore.record
      (InMemoryByocJobQueueStore.run [⟨0, .enqueue InMemoryByocJobQueueStore.sampleJob⟩,
        ⟨1, .claimNext "t" "w1" 30 "a"⟩]) 2 "c" := by
  intro h
  have hlater := h "j" _ (Option.some_get (by decide)).symm (by decide) (by decide)
    [⟨3, .claimNext "t" "w2" 30 "b"⟩] (by decide)
  exact absurd (hlater _ List.mem_cons_self) (by decide)

end Byoc
end ExoBrain
