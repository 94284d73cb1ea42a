import ExoBrain.Byoc.Record
import ExoBrain.Byoc.SqliteJobStore

/-!
# Both backends are lawful

`InMemoryByocJobQueueStore.lawful` and `SQLiteByocJobQueueStore.lawful`: the dictionary-and-deques
store and the SQLite store both do to every job exactly what `RecordStep` says.

The invariants are small.  Both backends file a record under its own `job_id`.  The in-memory store
keeps the lease twice, in the record and in the envelope it hands out, and the two copies agree for
as long as the job is leased; the SQLite store rebuilds the envelope from the row instead.
-/

set_option autoImplicit false

namespace ExoBrain
namespace Byoc

open Text

/-! ## The view and the record agree -/

namespace JobView

theorem expired_of (now : Epoch) (spec : JobSpec) (l : Lifecycle) :
    (of spec l).Expired now ↔ l.expired now = true := by
  simp [Expired, of, Lifecycle.expired]

theorem exhausted_of (limit : Option Int) (spec : JobSpec) (l : Lifecycle) :
    (of spec l).Exhausted limit ↔ l.shouldDlq limit = true := by
  cases limit with
  | none => simp [Exhausted, Lifecycle.shouldDlq]
  | some k => simp [Exhausted, of, Lifecycle.shouldDlq]

theorem of_sweep (now : Epoch) (limit : Option Int) (spec : JobSpec) (l : Lifecycle) :
    of spec (l.sweep now limit) = (of spec l).sweep now limit := by
  simp only [Lifecycle.sweep, sweep, expired_of, exhausted_of]
  split
  · split <;> rfl
  · rfl

theorem of_cancel (now : Epoch) (spec : JobSpec) (l : Lifecycle) :
    of spec (l.cancel now) = (of spec l).cancel := by
  cases h : l.status <;> simp [Lifecycle.cancel, cancel, of, h]

/-- A lease that is still running is left alone by the sweep. -/
theorem sweep_of_not_expired {now : Epoch} {v : JobView} (h : ¬v.Expired now)
    (limit : Option Int) : v.sweep now limit = v := if_neg h

theorem HeldBy.not_expired {now : Epoch} {token : String} {v : JobView} (h : v.HeldBy now token) :
    ¬v.Expired now := fun he ↦ Nat.not_le.mpr h.2.1 he.2

/-- The three checks of a lease, in the order in which the stores make them. -/
theorem checks_cases {β : Type} {now : Epoch} {token : String} (spec : JobSpec) {l : Lifecycle}
    {answer refused timedOut accepted : β}
    (hanswer : (if l.status ≠ .leased then refused
      else if l.leaseExpiresAtEpoch ≤ now then timedOut
      else if l.leaseToken ≠ token then refused
      else accepted) = answer) :
    (answer = refused ∧ ¬(of spec l).HeldBy now token ∧ ¬(of spec l).Expired now) ∨
      (answer = timedOut ∧ (of spec l).Expired now) ∨
      (answer = accepted ∧ (of spec l).HeldBy now token) := by
  subst hanswer
  by_cases hstatus : l.status = .leased
  · rw [if_neg (not_not_intro hstatus)]
    by_cases hexpired : l.leaseExpiresAtEpoch ≤ now
    · rw [if_pos hexpired]
      exact .inr (.inl ⟨rfl, hstatus, hexpired⟩)
    · rw [if_neg hexpired]
      by_cases htoken : l.leaseToken = token
      · rw [if_neg (not_not_intro htoken)]
        exact .inr (.inr ⟨rfl, hstatus, Nat.lt_of_not_le hexpired, htoken⟩)
      · rw [if_pos htoken]
        exact .inl ⟨rfl, fun hheld ↦ htoken hheld.2.2, fun hout ↦ hexpired hout.2⟩
  · rw [if_pos hstatus]
    exact .inl ⟨rfl, fun hheld ↦ hstatus hheld.1, fun hout ↦ hstatus hout.1⟩

end JobView

/-! ## The shape of a lease check

`complete_claim` and `get_leased_job` look at one job and end in one of three ways: there is no
running lease to speak of, the lease has run out and everything is swept, or the token fits. -/

section LeaseCheck

variable {now : Epoch} {j token : String} {before after : String → Option JobView}

/-- Nothing to do: the job is not leased, or leased under another token. -/
def LeaseCheck.Refused (now : Epoch) (j token : String) (before after : String → Option JobView) :
    Prop :=
  (∀ v, before j = some v → ¬v.HeldBy now token ∧ ¬v.Expired now) ∧ ∀ k, after k = before k

/-- The lease has run out. -/
def LeaseCheck.TimedOut (now : Epoch) (j : String) (before after : String → Option JobView) :
    Prop :=
  (∃ v, before j = some v ∧ v.Expired now) ∧ ∀ k, after k = (before k).map (JobView.sweep now none)

theorem LeaseCheck.Refused.not_held (h : Refused now j token before after) :
    ∀ v, before j = some v → ¬v.HeldBy now token := fun v hv ↦ (h.1 v hv).1

theorem LeaseCheck.Refused.swept (h : Refused now j token before after) :
    after j = (before j).map (JobView.sweep now none) := by
  rw [h.2]
  cases hv : before j with
  | none => rfl
  | some v => rw [Option.map_some, JobView.sweep_of_not_expired (h.1 v hv).2]

theorem LeaseCheck.TimedOut.not_held (h : TimedOut now j before after) :
    ∀ v, before j = some v → ¬v.HeldBy now token := by
  intro v hv hheld
  obtain ⟨w, hw, hexp⟩ := h.1
  rw [hv, Option.some_inj] at hw
  exact hheld.not_expired (hw ▸ hexp)

/-- The three ways of `complete_claim`. -/
def LeaseCheck.Completion (now : Epoch) (j token : String) (reply : Bool)
    (before after : String → Option JobView) : Prop :=
  (reply = false ∧ LeaseCheck.Refused now j token before after) ∨
    (reply = false ∧ LeaseCheck.TimedOut now j before after) ∨
    (reply = true ∧ ∃ v, before j = some v ∧ v.HeldBy now token ∧ after j = some v.complete ∧
      ∀ k, k ≠ j → after k = before k)

/-- The three ways of `get_leased_job`. -/
def LeaseCheck.Lookup (now : Epoch) (j token : String) (reply : Option ByocToolJobEnvelope)
    (before after : String → Option JobView) : Prop :=
  (reply = none ∧ LeaseCheck.Refused now j token before after) ∨
    (reply = none ∧ LeaseCheck.TimedOut now j before after) ∨
    ((∃ v, before j = some v ∧ v.HeldBy now token ∧ reply = some v.envelope) ∧
      ∀ k, after k = before k)

theorem LeaseCheck.refused_of_none (h : before j = none) : Refused now j token before before :=
  ⟨fun _ hv ↦ (nomatch h.symm.trans hv), fun _ ↦ rfl⟩

theorem LeaseCheck.refused_of_not {v : JobView} (hview : before j = some v)
    (hnot : ¬v.HeldBy now token ∧ ¬v.Expired now) : Refused now j token before before := by
  refine ⟨fun w hw ↦ ?_, fun _ ↦ rfl⟩
  rw [hview, Option.some_inj] at hw
  exact hw ▸ hnot

section Stores

variable {σ : Type} {record : σ → String → Option JobView} {s swept done : σ} {spec : JobSpec}
  {l : Lifecycle}

variable (hview : record s j = some (.of spec l))
  (hswept : ∀ k, record swept k = (record s k).map (JobView.sweep now none))

include hview hswept

/-- `complete_claim` of a store that has the job. -/
theorem LeaseCheck.completion_of_checks (hjob : record done j = some (JobView.of spec l).complete)
    (hother : ∀ k, k ≠ j → record done k = record s k) :
    let answer :=
      if l.status ≠ .leased then (false, s)
      else if l.leaseExpiresAtEpoch ≤ now then (false, swept)
      else if l.leaseToken ≠ token then (false, s)
      else (true, done)
    Completion now j token answer.1 (record s) (record answer.2) := by
  intro answer
  obtain ⟨hanswer, hnot⟩ | ⟨hanswer, hexpired⟩ | ⟨hanswer, hheld⟩ :=
    JobView.checks_cases spec (rfl : _ = answer)
  · rw [hanswer]
    exact .inl ⟨rfl, refused_of_not hview hnot⟩
  · rw [hanswer]
    exact .inr (.inl ⟨rfl, ⟨_, hview, hexpired⟩, hswept⟩)
  · rw [hanswer]
    exact .inr (.inr ⟨rfl, _, hview, hheld, hjob, hother⟩)

/-- `get_leased_job` of a store that has the job. -/
theorem LeaseCheck.lookup_of_checks {envelope : ByocToolJobEnvelope}
    (henvelope : (JobView.of spec l).HeldBy now token → envelope = (JobView.of spec l).envelope) :
    let answer :=
      if l.status ≠ .leased then (none, s)
      else if l.leaseExpiresAtEpoch ≤ now then (none, swept)
      else if l.leaseToken ≠ token then (none, s)
      else (some envelope, s)
    Lookup now j token answer.1 (record s) (record answer.2) := by
  intro answer
  obtain ⟨hanswer, hnot⟩ | ⟨hanswer, hexpired⟩ | ⟨hanswer, hheld⟩ :=
    JobView.checks_cases spec (rfl : _ = answer)
  · rw [hanswer]
    exact .inl ⟨rfl, refused_of_not hview hnot⟩
  · rw [hanswer]
    exact .inr (.inl ⟨rfl, ⟨_, hview, hexpired⟩, hswept⟩)
  · rw [hanswer, henvelope hheld]
    exact .inr (.inr ⟨⟨_, hview, hheld, rfl⟩, fun _ ↦ rfl⟩)

end Stores

theorem recordStep_completeClaim_of {reply : Bool}
    (h : LeaseCheck.Completion now j token reply before after) (k : String) :
    RecordStep ⟨now, .completeClaim j token⟩ k (.flag reply) (before k) (after k) := by
  rcases h with ⟨rfl, h⟩ | ⟨rfl, h⟩ | ⟨rfl, v, hv, hheld, hj, hother⟩
  · exact ⟨fun _ ↦ .inr ⟨rfl, .inl (h.2 k)⟩, fun hk ↦ hk ▸ .inr ⟨rfl, h.not_held, h.swept⟩⟩
  · exact ⟨fun _ ↦ .inr ⟨rfl, .inr (h.2 k)⟩, fun hk ↦ hk ▸ .inr ⟨rfl, h.not_held, h.2 j⟩⟩
  · exact ⟨fun hk ↦ .inl ⟨rfl, hother k (Ne.symm hk)⟩, fun hk ↦ hk ▸ .inl ⟨rfl, v, hv, hheld, hj⟩⟩

theorem recordStep_getLeasedJob_of {reply : Option ByocToolJobEnvelope}
    (h : LeaseCheck.Lookup now j token reply before after) (k : String) :
    RecordStep ⟨now, .getLeasedJob j token⟩ k (.job reply) (before k) (after k) := by
  rcases h with ⟨rfl, h⟩ | ⟨rfl, h⟩ | ⟨⟨v, hv, hheld, rfl⟩, hother⟩
  · exact ⟨fun _ ↦ .inl (h.2 k), fun hk ↦ hk ▸ .inr ⟨rfl, h.not_held, h.swept⟩⟩
  · exact ⟨fun _ ↦ .inr (h.2 k), fun hk ↦ hk ▸ .inr ⟨rfl, h.not_held, h.2 j⟩⟩
  · exact ⟨fun _ ↦ .inl (hother k), fun hk ↦ hk ▸ .inl ⟨v, hv, hheld, rfl, hother j⟩⟩

end LeaseCheck

/-- A lawful backend whose two lease checks look at the job they name and at nothing else: the
other jobs are swept exactly when the lease of that job has run out. -/
structure CheckedJobStore {σ : Type} (S : ByocJobQueueStore σ) (inv : σ → Prop)
    (record : σ → String → Option JobView) : Prop extends LawfulJobStore S inv record where
  completion : ∀ s now j token, inv s → LeaseCheck.Completion now j token
    (S.completeClaim now j token s).1 (record s) (record (S.completeClaim now j token s).2)
  lookup : ∀ s now j token, inv s → LeaseCheck.Lookup now j token
    (S.getLeasedJob now j token s).1 (record s) (record (S.getLeasedJob now j token s).2)

/-! ## The in-memory store -/

namespace InMemoryByocJobQueueStore

/-- The view of a state. -/
def view (st : JobState) : JobView := .of st.envelope.toJobSpec st.toLifecycle

/-- One job of the store. -/
def record (s : InMemoryByocJobQueueStore) (k : String) : Option JobView :=
  (s.states.get? k).map view

/-- The envelope of a leased record carries the lease. -/
def InSync (st : JobState) : Prop := st.status = .leased → st.envelope = (view st).envelope

/-- Every record is filed under its own id, and every lease is in its envelope. -/
def Inv (s : InMemoryByocJobQueueStore) : Prop :=
  ∀ k st, s.states.get? k = some st → st.envelope.jobId = k ∧ InSync st

theorem init_inv : Inv init := by
  intro k st h
  rw [init, Dict.get?_empty] at h
  exact absurd h (by simp)

/-- `popQueued` returns the first id of the deque that names a queued record. -/
theorem popQueued_spec {states : Dict String JobState} {q : List String} :
    ∀ {j : String} {st : JobState} {rest : List String},
      popQueued states q = (some (j, st), rest) →
      states.get? j = some st ∧ st.status = .queued ∧
        ∃ stale, q = stale ++ j :: rest ∧
          ∀ i ∈ stale, ∀ st', states.get? i = some st' → st'.status ≠ .queued := by
  induction q with
  | nil => intro j st rest h; simp [popQueued] at h
  | cons i q ih =>
    intro j st rest h
    have hskip : (∀ st', states.get? i = some st' → st'.status ≠ .queued) →
        popQueued states q = (some (j, st), rest) →
        states.get? j = some st ∧ st.status = .queued ∧
          ∃ stale, i :: q = stale ++ j :: rest ∧
            ∀ i ∈ stale, ∀ st', states.get? i = some st' → st'.status ≠ .queued := by
      intro hi hq
      obtain ⟨hget, hst, stale, rfl, hstale⟩ := ih hq
      exact ⟨hget, hst, i :: stale, rfl, List.forall_mem_cons.mpr ⟨hi, hstale⟩⟩
    rw [popQueued] at h
    cases hget : states.get? i with
    | none =>
      rw [hget] at h
      exact hskip (by simp [hget]) h
    | some st' =>
      simp only [hget] at h
      split at h
      · rename_i hq
        obtain ⟨⟨rfl, rfl⟩, rfl⟩ : (i = j ∧ st' = st) ∧ q = rest := by simpa using h
        exact ⟨hget, hq, [], rfl, by simp⟩
      · rename_i hq
        refine hskip (fun st'' h' ↦ ?_) h
        rw [hget, Option.some_inj] at h'
        exact h' ▸ hq

/-- Nothing to return means that no id of the deque names a queued record. -/
theorem popQueued_none {states : Dict String JobState} {q rest : List String}
    (h : popQueued states q = (none, rest)) :
    rest = [] ∧ ∀ i ∈ q, ∀ st, states.get? i = some st → st.status ≠ .queued := by
  induction q with
  | nil =>
    rw [popQueued] at h
    exact ⟨by simpa using h.symm, by simp⟩
  | cons i q ih =>
    rw [popQueued] at h
    cases hget : states.get? i with
    | none =>
      simp only [hget] at h
      obtain ⟨hr, hq⟩ := ih h
      exact ⟨hr, List.forall_mem_cons.mpr ⟨by simp [hget], hq⟩⟩
    | some st =>
      simp only [hget] at h
      split at h
      · simp at h
      · rename_i hst
        obtain ⟨hr, hq⟩ := ih h
        refine ⟨hr, List.forall_mem_cons.mpr ⟨fun st' h' ↦ ?_, hq⟩⟩
        rw [hget, Option.some_inj] at h'
        exact h' ▸ hst

/-! ### What each operation leaves in the record of a job -/

theorem record_requeueExpiredLeases (now : Epoch) (limit : Option Int)
    (s : InMemoryByocJobQueueStore) (k : String) :
    record (s.requeueExpiredLeases now limit).2 k =
      (record s k).map (JobView.sweep now limit) := by
  simp only [record, requeueExpiredLeases, Dict.get?_mapVals, Option.map_map]
  congr 1
  funext st
  exact JobView.of_sweep now limit _ _

theorem record_modify (s : InMemoryByocJobQueueStore) (j : String) (f : JobState → JobState)
    (q : String → List String) (k : String) :
    record ⟨s.states.modify j f, q⟩ k =
      if k = j then (s.states.get? k).map (fun st ↦ view (f st)) else record s k := by
  rw [record, Dict.get?_modify, record]
  split
  · rw [Option.map_map]; rfl
  · rfl

theorem inv_of_states {s s' : InMemoryByocJobQueueStore} (h : s'.states = s.states)
    (hs : Inv s) : Inv s' := by
  intro k st hk
  exact hs k st (h ▸ hk)

theorem inv_requeueExpiredLeases {s : InMemoryByocJobQueueStore} (h : Inv s) (now : Epoch)
    (limit : Option Int) : Inv (s.requeueExpiredLeases now limit).2 := by
  intro k st hk
  simp only [requeueExpiredLeases, Dict.get?_mapVals, Option.map_eq_some_iff] at hk
  obtain ⟨st₀, hst₀, rfl⟩ := hk
  obtain ⟨hid, hsync⟩ := h k st₀ hst₀
  refine ⟨hid, ?_⟩
  simp only [InSync, view, Lifecycle.sweep]
  split
  · split
    · intro hl; exact absurd hl (by simp [Lifecycle.deadLetter])
    · intro hl; exact absurd hl (by simp [Lifecycle.requeue])
  · exact hsync

/-- A change of records one by one that keeps what is filed and what is leased keeps `Inv`. -/
theorem inv_modify {s : InMemoryByocJobQueueStore} (h : Inv s) {j : String}
    {f : JobState → JobState} {q : String → List String}
    (hf : ∀ st, s.states.get? j = some st →
      (f st).envelope.jobId = st.envelope.jobId ∧ InSync (f st)) :
    Inv ⟨s.states.modify j f, q⟩ := by
  intro k st hk
  rw [Dict.get?_modify] at hk
  split at hk
  · rename_i hkj
    obtain ⟨st₀, hst₀, rfl⟩ := Option.map_eq_some_iff.mp hk
    obtain ⟨hid, hsync⟩ := hf st₀ (hkj ▸ hst₀)
    exact ⟨hid.trans (h k st₀ hst₀).1, hsync⟩
  · exact h k st hk

theorem recordStep_enqueue (s : InMemoryByocJobQueueStore) (now : Epoch)
    (job : ByocToolJobEnvelope) (k : String) :
    RecordStep ⟨now, .enqueue job⟩ k .done (record s k) (record (s.enqueue job) k) := by
  simp only [RecordStep, enqueue]
  split
  · rename_i hmem
    split
    · rename_i hk
      obtain ⟨st, hst⟩ := Dict.mem_keys_iff.mp hmem
      simp [record, hk, hst]
    · rfl
  · rename_i hmem
    have hnone : s.states.get? job.jobId = none := Dict.get?_eq_none_iff.mpr hmem
    simp only [record, Dict.get?_setDefault]
    split
    · rename_i hk
      simp [hk, hnone, view, JobView.of, JobView.fresh]
    · rfl

theorem inv_enqueue {s : InMemoryByocJobQueueStore} (h : Inv s) (job : ByocToolJobEnvelope) :
    Inv (s.enqueue job) := by
  rw [enqueue]
  split
  · exact h
  · rename_i hmem
    have hnone : s.states.get? job.jobId = none := Dict.get?_eq_none_iff.mpr hmem
    intro k st hk
    simp only [Dict.get?_setDefault] at hk
    split at hk
    · rename_i hkj
      subst hkj
      rw [hnone, Option.getD_none, Option.some_inj] at hk
      subst hk
      exact ⟨rfl, fun hl ↦ absurd hl (by simp)⟩
    · exact h k st hk

/-- The two ways `claim_next` can end. -/
theorem claimNext_cases (now : Epoch) (tenantId workerId : String) (ttl : Int) (token : String)
    (s : InMemoryByocJobQueueStore) :
    (∃ rest, popQueued (s.requeueExpiredLeases now none).2.states
          ((s.requeueExpiredLeases now none).2.tenantQueue tenantId) = (none, rest) ∧
        s.claimNext now tenantId workerId ttl token =
          (none, ⟨(s.requeueExpiredLeases now none).2.states,
            Function.update (s.requeueExpiredLeases now none).2.tenantQueue tenantId rest⟩)) ∨
    ∃ j st rest, popQueued (s.requeueExpiredLeases now none).2.states
          ((s.requeueExpiredLeases now none).2.tenantQueue tenantId) = (some (j, st), rest) ∧
        s.claimNext now tenantId workerId ttl token =
          (some (claimed workerId token (now + ttlTicks ttl) st).envelope,
            ⟨(s.requeueExpiredLeases now none).2.states.modify j
                fun _ ↦ claimed workerId token (now + ttlTicks ttl) st,
              Function.update (s.requeueExpiredLeases now none).2.tenantQueue tenantId rest⟩) := by
  rcases hp : popQueued (s.requeueExpiredLeases now none).2.states
    ((s.requeueExpiredLeases now none).2.tenantQueue tenantId) with ⟨_ | ⟨j, st⟩, rest⟩
  · exact .inl ⟨rest, rfl, by simp only [claimNext, hp]⟩
  · exact .inr ⟨j, st, rest, rfl, by simp only [claimNext, hp]⟩

theorem recordStep_claimNext {s : InMemoryByocJobQueueStore} (h : Inv s) (now : Epoch)
    (tenantId workerId : String) (ttl : Int) (token k : String) :
    RecordStep ⟨now, .claimNext tenantId workerId ttl token⟩ k
      (.job (s.claimNext now tenantId workerId ttl token).1) (record s k)
      (record (s.claimNext now tenantId workerId ttl token).2 k) := by
  have hrec := record_requeueExpiredLeases now none s k
  obtain ⟨rest, -, heq⟩ | ⟨j, st, rest, hpop, heq⟩ := claimNext_cases now tenantId workerId ttl token s
  · refine .inl ⟨by rw [heq], ?_⟩
    rw [heq, ← hrec]
    rfl
  · obtain ⟨hget, hst, -⟩ := popQueued_spec hpop
    have hid : st.envelope.jobId = j := (inv_requeueExpiredLeases h now none j st hget).1
    have hj : (claimed workerId token (now + ttlTicks ttl) st).envelope.jobId = j := hid
    refine .inr ⟨(claimed workerId token (now + ttlTicks ttl) st).envelope, by rw [heq],
      fun hne ↦ ?_, fun hek ↦ ⟨view st, ?_, hst, ?_, rfl⟩⟩
    · rw [heq, ← hrec, record_modify, if_neg (fun hk ↦ hne (hj.trans hk.symm))]
    · rw [← hrec, record, ← hek, hj, hget]; rfl
    · have hkj : k = j := hek.symm.trans hj
      rw [heq, record_modify, if_pos hkj, hkj, hget]
      rfl

theorem inv_claimNext {s : InMemoryByocJobQueueStore} (h : Inv s) (now : Epoch)
    (tenantId workerId : String) (ttl : Int) (token : String) :
    Inv (s.claimNext now tenantId workerId ttl token).2 := by
  have hinv := inv_requeueExpiredLeases h now none
  obtain ⟨rest, -, heq⟩ | ⟨j, st, rest, hpop, heq⟩ := claimNext_cases now tenantId workerId ttl token s
  · rw [heq]; exact inv_of_states rfl hinv
  · rw [heq]
    refine inv_modify hinv fun st' hst' ↦ ?_
    obtain ⟨hget, -⟩ := popQueued_spec hpop
    rw [hget, Option.some_inj] at hst'
    exact ⟨by rw [← hst']; rfl, fun _ ↦ rfl⟩

theorem completion_completeClaim (s : InMemoryByocJobQueueStore) (now : Epoch)
    (jobId token : String) :
    LeaseCheck.Completion now jobId token (s.completeClaim now jobId token).1 (record s)
      (record (s.completeClaim now jobId token).2) := by
  rw [completeClaim]
  cases hst : s.states.get? jobId with
  | none => exact .inl ⟨rfl, LeaseCheck.refused_of_none (by rw [record, hst]; rfl)⟩
  | some st =>
    have hview : record s jobId = some (view st) := by rw [record, hst]; rfl
    refine LeaseCheck.completion_of_checks hview (record_requeueExpiredLeases now none s) ?_
      fun k hk ↦ ?_
    · rw [record_modify, if_pos rfl, hst]
      rfl
    · rw [record_modify, if_neg hk]

theorem inv_completeClaim {s : InMemoryByocJobQueueStore} (h : Inv s) (now : Epoch)
    (jobId token : String) : Inv (s.completeClaim now jobId token).2 := by
  rw [completeClaim]
  split
  · exact h
  · split
    · exact h
    · split
      · exact inv_requeueExpiredLeases h now none
      · split
        · exact h
        · exact inv_modify h fun st _ ↦ ⟨rfl, fun hl ↦ absurd hl (by simp [Lifecycle.complete])⟩

theorem lookup_getLeasedJob {s : InMemoryByocJobQueueStore} (h : Inv s) (now : Epoch)
    (jobId token : String) :
    LeaseCheck.Lookup now jobId token (s.getLeasedJob now jobId token).1 (record s)
      (record (s.getLeasedJob now jobId token).2) := by
  rw [getLeasedJob]
  cases hst : s.states.get? jobId with
  | none => exact .inl ⟨rfl, LeaseCheck.refused_of_none (by rw [record, hst]; rfl)⟩
  | some st =>
    have hview : record s jobId = some (view st) := by rw [record, hst]; rfl
    -- the envelope of a leased job has the lease of its record
    exact LeaseCheck.lookup_of_checks hview (record_requeueExpiredLeases now none s)
      fun hheld ↦ (h jobId st hst).2 hheld.1

theorem inv_getLeasedJob {s : InMemoryByocJobQueueStore} (h : Inv s) (now : Epoch)
    (jobId token : String) : Inv (s.getLeasedJob now jobId token).2 := by
  rw [getLeasedJob]
  split
  · exact h
  · split
    · exact h
    · split
      · exact inv_requeueExpiredLeases h now none
      · split <;> exact h

theorem recordStep_replayDeadLetterJob (s : InMemoryByocJobQueueStore) (now : Epoch)
    (tenantId jobId k : String) :
    RecordStep ⟨now, .replayDeadLetterJob tenantId jobId⟩ k
      (.flag (s.replayDeadLetterJob tenantId jobId).1) (record s k)
      (record (s.replayDeadLetterJob tenantId jobId).2 k) := by
  rw [replayDeadLetterJob]
  split
  · exact ⟨fun _ ↦ rfl, fun _ ↦ .inr ⟨rfl, rfl⟩⟩
  · cases hst : s.states.get? (strip jobId) with
    | none => exact ⟨fun _ ↦ rfl, fun _ ↦ .inr ⟨rfl, rfl⟩⟩
    | some st =>
      simp only
      split
      · exact ⟨fun _ ↦ rfl, fun _ ↦ .inr ⟨rfl, rfl⟩⟩
      · rename_i hcond
        rw [not_or, not_not, not_not] at hcond
        refine ⟨fun hk ↦ ?_, fun hk ↦ .inl ⟨rfl, view st, ?_, hcond.1, hcond.2, ?_⟩⟩
        · rw [record_modify, if_neg (Ne.symm hk)]
        · rw [record, ← hk, hst]; rfl
        · rw [record_modify, if_pos hk.symm, ← hk, hst]; rfl

theorem inv_replayDeadLetterJob {s : InMemoryByocJobQueueStore} (h : Inv s)
    (tenantId jobId : String) : Inv (s.replayDeadLetterJob tenantId jobId).2 := by
  rw [replayDeadLetterJob]
  split
  · exact h
  · split
    · exact h
    · split
      · exact h
      · exact inv_modify h fun st _ ↦ ⟨rfl, fun hl ↦ absurd hl (by simp [Lifecycle.replay])⟩

/-- The records after the loop of `cancel_pending_call`, before its sweep. -/
def cancelled (now : Epoch) (normalized : String) (s : InMemoryByocJobQueueStore) :
    InMemoryByocJobQueueStore :=
  { s with states := s.states.mapVals fun _ st ↦
      if st.envelope.callId = normalized then
        { st with toLifecycle := st.toLifecycle.cancel now }
      else st }

theorem record_cancelled (now : Epoch) (normalized : String) (s : InMemoryByocJobQueueStore)
    (k : String) :
    record (s.cancelled now normalized) k =
      (record s k).map fun v ↦ if v.spec.callId = normalized then v.cancel else v := by
  simp only [record, cancelled, Dict.get?_mapVals, Option.map_map]
  congr 1
  funext st
  have hcall : (view st).spec.callId = st.envelope.callId := rfl
  simp only [Function.comp_apply, hcall]
  split
  · exact JobView.of_cancel now _ _
  · rfl

theorem cancelPendingCall_snd {callId : String} (h : strip callId ≠ "") (now : Epoch)
    (s : InMemoryByocJobQueueStore) :
    (s.cancelPendingCall now callId).2 =
      ((s.cancelled now (strip callId)).requeueExpiredLeases now none).2 := by
  simp only [cancelPendingCall, if_neg h, cancelled]

theorem recordStep_cancelPendingCall (s : InMemoryByocJobQueueStore) (now : Epoch)
    (callId k : String) :
    RecordStep ⟨now, .cancelPendingCall callId⟩ k
      (.count (s.cancelPendingCall now callId).1) (record s k)
      (record (s.cancelPendingCall now callId).2 k) := by
  simp only [RecordStep]
  split
  · rename_i hblank
    simp only [cancelPendingCall, if_pos hblank]
  · rename_i hcall
    rw [cancelPendingCall_snd hcall, record_requeueExpiredLeases, record_cancelled,
      Option.map_map, Function.comp_def]

/-- Cancelling cuts leases short, so the envelope of a lease is in step again only after the
sweep has taken those leases back. -/
theorem inv_cancelPendingCall {s : InMemoryByocJobQueueStore} (h : Inv s) (now : Epoch)
    (callId : String) : Inv (s.cancelPendingCall now callId).2 := by
  rw [cancelPendingCall]
  split
  · exact h
  · intro k st hk
    simp only [requeueExpiredLeases, Dict.get?_mapVals, Option.map_map,
      Option.map_eq_some_iff] at hk
    obtain ⟨st₀, hst₀, rfl⟩ := hk
    obtain ⟨hid, hsync⟩ := h k st₀ hst₀
    simp only [Function.comp_apply]
    split
    · refine ⟨hid, fun hl ↦ ?_⟩
      exfalso
      cases hs : st₀.status <;>
        simp [Lifecycle.cancel, hs, Lifecycle.sweep, Lifecycle.expired, Lifecycle.shouldDlq,
          Lifecycle.requeue] at hl
    · refine ⟨hid, fun hl ↦ ?_⟩
      simp only [Lifecycle.sweep, Lifecycle.shouldDlq] at hl ⊢
      by_cases he : st₀.toLifecycle.expired now = true
      · simp [he, Lifecycle.requeue] at hl
      · simp only [if_neg he] at hl ⊢
        exact hsync hl

/-- Only records of the tenant with the given status are counted as overflow. -/
theorem mem_overflow {status : JobStatus} {finishedAt : JobState → Epoch} {maxRecords : Int}
    {tenantId : String} {states : Dict String JobState} {j : String}
    (h : j ∈ overflow status finishedAt maxRecords tenantId states) :
    ∃ st, states.get? j = some st ∧ st.envelope.tenantId = tenantId ∧ st.status = status := by
  simp only [overflow, List.mem_map] at h
  obtain ⟨⟨i, st⟩, hmem, rfl⟩ := h
  have hrow := List.mem_mergeSort.mp (List.mem_of_mem_take hmem)
  simp only [List.mem_filter, Bool.and_eq_true, decide_eq_true_eq] at hrow
  exact ⟨st, Dict.mem_entries_iff.mp hrow.1, hrow.2⟩

/-- A record that `cleanup_retention` does not keep belongs to the tenant and is finished. -/
theorem get?_cleanupRetention (s : InMemoryByocJobQueueStore) (now : Epoch) (tenantId : String)
    (limits : RetentionLimits) (k : String) :
    (s.cleanupRetention now tenantId limits).2.states.get? k = s.states.get? k ∨
      ((s.cleanupRetention now tenantId limits).2.states.get? k = none ∧
        ∃ st, s.states.get? k = some st ∧ (st.status = .completed ∨ st.status = .cancelled) ∧
          st.envelope.tenantId = strip tenantId) := by
  rw [cleanupRetention]
  split
  · exact .inl rfl
  · cases hst : s.states.get? k with
    | none => exact .inl (by simp [hst])
    | some st =>
      simp only [Dict.get?_filter, hst]
      -- either both filters keep the record, or one of the four reasons to drop it applies
      rw [Option.filter_some]
      split
      · rename_i hkeep
        rw [Option.filter_some]
        split
        · exact .inl rfl
        · rename_i hdrop
          refine .inr ⟨rfl, st, rfl, ?_⟩
          simp only [Bool.and_eq_true, decide_eq_true_eq, not_and_or, not_not] at hdrop
          rcases hdrop with hmem | hmem
          · obtain ⟨st', hst', htenant, hstatus⟩ := mem_overflow hmem
            rw [Dict.get?_filter, hst, Option.filter_some, if_pos hkeep, Option.some_inj] at hst'
            subst hst'
            exact ⟨.inl hstatus, htenant⟩
          · obtain ⟨st', hst', htenant, hstatus⟩ := mem_overflow hmem
            rw [Dict.get?_filter, hst, Option.filter_some, if_pos hkeep, Option.some_inj] at hst'
            subst hst'
            exact ⟨.inr hstatus, htenant⟩
      · rename_i hdrop
        refine .inr ⟨rfl, st, rfl, ?_⟩
        simp only [outdated, Bool.and_eq_true, Bool.not_eq_true', not_and_or,
          Bool.not_eq_false, decide_eq_true_eq] at hdrop
        rcases hdrop with h | h
        · exact ⟨.inl h.1.1.2, h.1.1.1⟩
        · exact ⟨.inr h.1.1.2, h.1.1.1⟩

theorem recordStep_cleanupRetention (s : InMemoryByocJobQueueStore) (now : Epoch)
    (tenantId : String) (limits : RetentionLimits) (k : String) :
    RecordStep ⟨now, .cleanupRetention tenantId limits⟩ k
      (.pruned (s.cleanupRetention now tenantId limits).1) (record s k)
      (record (s.cleanupRetention now tenantId limits).2 k) := by
  rcases get?_cleanupRetention s now tenantId limits k with h | ⟨h, st, hst, hfin, htenant⟩
  · exact .inl (by rw [record, h, record])
  · exact .inr ⟨by rw [record, h]; rfl, view st, by rw [record, hst]; rfl, hfin, htenant⟩

theorem inv_cleanupRetention {s : InMemoryByocJobQueueStore} (h : Inv s) (now : Epoch)
    (tenantId : String) (limits : RetentionLimits) :
    Inv (s.cleanupRetention now tenantId limits).2 := by
  intro k st hk
  rcases get?_cleanupRetention s now tenantId limits k with heq | ⟨heq, -⟩
  · exact h k st (heq ▸ hk)
  · rw [heq] at hk; exact absurd hk (by simp)

/-- **The in-memory store is lawful.** -/
theorem lawful : LawfulJobStore inMemoryByocJobQueueStore Inv record where
  inv_step s c h := by
    obtain ⟨now, op⟩ := c
    cases op <;> simp only [ByocJobQueueStore.step, inMemoryByocJobQueueStore]
    case enqueue job => exact inv_enqueue h job
    case claimNext t w ttl token => exact inv_claimNext h now t w ttl token
    case completeClaim j token => exact inv_completeClaim h now j token
    case getLeasedJob j token => exact inv_getLeasedJob h now j token
    case requeueExpiredLeases limit => exact inv_requeueExpiredLeases h now limit
    case replayDeadLetterJob t j => exact inv_replayDeadLetterJob h t j
    case cancelPendingCall callId => exact inv_cancelPendingCall h now callId
    case cleanupRetention t limits => exact inv_cleanupRetention h now t limits
    all_goals exact h
  jobId_eq s k v h hv := by
    obtain ⟨st, hst, rfl⟩ := Option.map_eq_some_iff.mp hv
    exact (h k st hst).1
  record_step s c k h := by
    obtain ⟨now, op⟩ := c
    cases op <;> simp only [ByocJobQueueStore.step, inMemoryByocJobQueueStore]
    case enqueue job => exact recordStep_enqueue s now job k
    case claimNext t w ttl token => exact recordStep_claimNext h now t w ttl token k
    case completeClaim j token =>
      exact recordStep_completeClaim_of (completion_completeClaim s now j token) k
    case getLeasedJob j token =>
      exact recordStep_getLeasedJob_of (lookup_getLeasedJob h now j token) k
    case requeueExpiredLeases limit => exact record_requeueExpiredLeases now limit s k
    case replayDeadLetterJob t j => exact recordStep_replayDeadLetterJob s now t j k
    case cancelPendingCall callId => exact recordStep_cancelPendingCall s now callId k
    case cleanupRetention t limits => exact recordStep_cleanupRetention s now t limits k
    all_goals rfl

theorem checked : CheckedJobStore inMemoryByocJobQueueStore Inv record where
  toLawfulJobStore := lawful
  completion s now j token _ := completion_completeClaim s now j token
  lookup _ now j token h := lookup_getLeasedJob h now j token

end InMemoryByocJobQueueStore

/-! ## The SQLite store -/

/-- What the two `UPDATE`s of `_requeue_expired_leases_unlocked` write to one row between them. -/
def Lifecycle.sweepColumns (now : Epoch) (limit : Option Int) (l : Lifecycle) : Lifecycle :=
  if l.expired now then
    if l.shouldDlq limit then l.deadLetterColumns now else l.requeueColumns
  else l

namespace SQLiteByocJobQueueStore

/-- The view of a row. -/
def view (r : JobRow) : JobView := .of r.toJobSpec r.toLifecycle

/-- One job of the store. -/
def record (s : SQLiteByocJobQueueStore) (k : String) : Option JobView := (s.rows.get? k).map view

/-- The primary key of a row is its `job_id`. -/
def Inv (s : SQLiteByocJobQueueStore) : Prop := ∀ k r, s.rows.get? k = some r → r.jobId = k

theorem init_inv (shared : Bool) : Inv (init shared) := by
  intro k r h
  rw [init, Dict.get?_empty] at h
  exact absurd h (by simp)

@[simp] theorem commit_rows (s : SQLiteByocJobQueueStore) (n : Nat) (t : JobTable) :
    (s.commit n t).rows = t := rfl

theorem record_commit (s : SQLiteByocJobQueueStore) (n : Nat) (t : JobTable) (k : String) :
    record (s.commit n t) k = (t.get? k).map view := rfl

theorem view_sweepColumns (now : Epoch) (limit : Option Int) (r : JobRow) :
    view { r with toLifecycle := r.toLifecycle.sweepColumns now limit } =
      (view r).sweep now limit := by
  simp only [view, Lifecycle.sweepColumns, JobView.sweep, JobView.expired_of,
    JobView.exhausted_of]
  split
  · split <;> rfl
  · rfl

/-- A dead-lettered row is no longer leased, so the second `UPDATE` passes over it. -/
theorem expired_deadLetterColumns (now : Epoch) (l : Lifecycle) :
    (l.deadLetterColumns now).expired now = false := by
  simp [Lifecycle.expired, Lifecycle.deadLetterColumns, Lifecycle.deadLetter]

/-- The two `UPDATE`s of `_requeue_expired_leases_unlocked` act on each row on its own. -/
theorem rows_requeueExpiredLeases (now : Epoch) (limit : Option Int)
    (s : SQLiteByocJobQueueStore) :
    (s.requeueExpiredLeases now limit).2.rows = s.rows.mapVals fun _ r ↦
      { r with toLifecycle := r.toLifecycle.sweepColumns now limit } := by
  have hplain : ∀ l : Lifecycle, l.shouldDlq limit = false →
      (if l.expired now = true then l.requeueColumns else l) = l.sweepColumns now limit := by
    intro l hl
    simp [Lifecycle.sweepColumns, hl]
  have hskip : (∀ l : Lifecycle, l.shouldDlq limit = false) →
      (s.rows.updateRequeue now).2 = s.rows.mapVals fun _ r ↦
        { r with toLifecycle := r.toLifecycle.sweepColumns now limit } := by
    intro hl
    simp only [JobTable.updateRequeue, JobTable.update]
    congr 1
    funext _ r
    rw [← hplain r.toLifecycle (hl _)]
    split <;> rfl
  simp only [requeueExpiredLeases, commit_rows]
  cases limit with
  | none => exact hskip fun _ ↦ rfl
  | some k =>
    by_cases hk : 0 < k
    · simp only [if_pos hk, JobTable.updateRequeue, JobTable.updateDeadLetter,
        JobTable.update, Dict.mapVals_mapVals]
      congr 1
      funext _ r
      by_cases he : r.toLifecycle.expired now = true
      · by_cases ha : k ≤ r.claimAttempt
        · simp [Lifecycle.sweepColumns, Lifecycle.shouldDlq, he, ha, hk,
            expired_deadLetterColumns]
        · simp [Lifecycle.sweepColumns, Lifecycle.shouldDlq, he, ha]
      · simp [Lifecycle.sweepColumns, he]
    · simp only [if_neg hk]
      exact hskip fun l ↦ by simp [Lifecycle.shouldDlq, hk]

theorem record_requeueExpiredLeases (now : Epoch) (limit : Option Int)
    (s : SQLiteByocJobQueueStore) (k : String) :
    record (s.requeueExpiredLeases now limit).2 k =
      (record s k).map (JobView.sweep now limit) := by
  rw [record, rows_requeueExpiredLeases, Dict.get?_mapVals, record, Option.map_map, Option.map_map]
  congr 1
  funext r
  exact view_sweepColumns now limit r

theorem inv_requeueExpiredLeases {s : SQLiteByocJobQueueStore} (h : Inv s) (now : Epoch)
    (limit : Option Int) : Inv (s.requeueExpiredLeases now limit).2 := by
  intro k r hk
  rw [rows_requeueExpiredLeases, Dict.get?_mapVals] at hk
  obtain ⟨r₀, hr₀, rfl⟩ := Option.map_eq_some_iff.mp hk
  exact h k r₀ hr₀

theorem get?_modify_view (t : JobTable) (j : String) (f : JobRow → JobRow) (k : String) :
    ((t.modify j f).get? k).map view =
      if k = j then (t.get? k).map (fun r ↦ view (f r)) else (t.get? k).map view := by
  rw [Dict.get?_modify]
  split
  · rw [Option.map_map]; rfl
  · rfl

theorem inv_modify {s : SQLiteByocJobQueueStore} (h : Inv s) {j : String} {f : JobRow → JobRow}
    (hf : ∀ r, (f r).jobId = r.jobId) (n : Nat) : Inv (s.commit n (s.rows.modify j f)) := by
  intro k r hk
  rw [commit_rows, Dict.get?_modify] at hk
  split at hk
  · obtain ⟨r₀, hr₀, rfl⟩ := Option.map_eq_some_iff.mp hk
    exact (hf r₀).trans (h k r₀ hr₀)
  · exact h k r hk

theorem recordStep_enqueue (s : SQLiteByocJobQueueStore) (now : Epoch)
    (job : ByocToolJobEnvelope) (k : String) :
    RecordStep ⟨now, .enqueue job⟩ k .done (record s k) (record (s.enqueue job) k) := by
  rw [enqueue, record_commit, JobTable.insertOrIgnore, Dict.get?_setDefault]
  simp only [RecordStep, record]
  by_cases hk : k = job.jobId
  · rw [if_pos hk, if_pos hk]
    cases s.rows.get? k <;> rfl
  · rw [if_neg hk, if_neg hk]

theorem inv_enqueue {s : SQLiteByocJobQueueStore} (h : Inv s) (job : ByocToolJobEnvelope) :
    Inv (s.enqueue job) := by
  intro k r hk
  simp only [enqueue, commit_rows, JobTable.insertOrIgnore, Dict.get?_setDefault] at hk
  split at hk
  · rename_i hkj
    cases hr : s.rows.get? k with
    | none =>
      rw [hr, Option.getD_none, Option.some_inj] at hk
      rw [← hk, hkj]
    | some r₀ =>
      rw [hr, Option.getD_some, Option.some_inj] at hk
      exact hk ▸ h k r₀ hr
  · exact h k r hk

/-- The row `claim_next` selects is the oldest queued row of the tenant. -/
theorem selectNextQueued_spec {t : JobTable} {tenantId : String} {r : JobRow}
    (h : t.selectNextQueued tenantId = some r) :
    ∃ k, t.get? k = some r ∧ r.tenantId = tenantId ∧ r.status = .queued := by
  obtain ⟨⟨k, r'⟩, he, rfl⟩ := Option.map_eq_some_iff.mp h
  have hcond := List.find?_some he
  simp only [Bool.and_eq_true, decide_eq_true_eq] at hcond
  exact ⟨k, Dict.mem_entries_iff.mp (List.mem_of_find?_eq_some he), hcond⟩

theorem recordStep_claimNext {s : SQLiteByocJobQueueStore} (h : Inv s) (now : Epoch)
    (tenantId workerId : String) (ttl : Int) (token k : String) :
    RecordStep ⟨now, .claimNext tenantId workerId ttl token⟩ k
      (.job (s.claimNext now tenantId workerId ttl token).1) (record s k)
      (record (s.claimNext now tenantId workerId ttl token).2 k) := by
  have hrec := record_requeueExpiredLeases now none s k
  simp only [claimNext]
  cases hsel : (s.requeueExpiredLeases now none).2.rows.selectNextQueued tenantId with
  | none => exact .inl ⟨rfl, hrec⟩
  | some r =>
    obtain ⟨j, hget, -, hst⟩ := selectNextQueued_spec hsel
    have hid : r.jobId = j := inv_requeueExpiredLeases h now none j r hget
    refine .inr ⟨r.toEnvelope token (now + ttlTicks ttl) (r.claimAttempt + 1), rfl,
      fun hne ↦ ?_, fun hek ↦ ⟨view r, ?_, hst, ?_, rfl⟩⟩
    · have hkj : k ≠ r.jobId := Ne.symm hne
      rw [record_commit, JobTable.updateLease, get?_modify_view, if_neg hkj]
      exact hrec
    · rw [← hrec, record, ← hek, show (r.toEnvelope token (now + ttlTicks ttl)
        (r.claimAttempt + 1)).jobId = j from hid, hget]
      rfl
    · have hkj : k = r.jobId := hek.symm
      rw [record_commit, JobTable.updateLease, get?_modify_view, if_pos hkj, hkj, hid, hget]
      rfl

theorem inv_claimNext {s : SQLiteByocJobQueueStore} (h : Inv s) (now : Epoch)
    (tenantId workerId : String) (ttl : Int) (token : String) :
    Inv (s.claimNext now tenantId workerId ttl token).2 := by
  have hinv := inv_requeueExpiredLeases h now none
  simp only [claimNext]
  split
  · exact hinv
  · rw [JobTable.updateLease]
    refine inv_modify hinv ?_ 1
    intro r; rfl

theorem completion_completeClaim (s : SQLiteByocJobQueueStore) (now : Epoch)
    (jobId token : String) :
    LeaseCheck.Completion now jobId token (s.completeClaim now jobId token).1 (record s)
      (record (s.completeClaim now jobId token).2) := by
  rw [completeClaim, JobTable.selectJob]
  cases hr : s.rows.get? jobId with
  | none => exact .inl ⟨rfl, LeaseCheck.refused_of_none (by rw [record, hr]; rfl)⟩
  | some r =>
    have hview : record s jobId = some (view r) := by rw [record, hr]; rfl
    refine LeaseCheck.completion_of_checks hview (record_requeueExpiredLeases now none s) ?_
      fun k hk ↦ ?_
    · rw [record_commit, JobTable.updateComplete, get?_modify_view, if_pos rfl, hr]
      rfl
    · rw [record_commit, JobTable.updateComplete, get?_modify_view, if_neg hk]
      rfl

theorem inv_completeClaim {s : SQLiteByocJobQueueStore} (h : Inv s) (now : Epoch)
    (jobId token : String) : Inv (s.completeClaim now jobId token).2 := by
  rw [completeClaim]
  split
  · exact h
  · split
    · exact h
    · split
      · exact inv_requeueExpiredLeases h now none
      · split
        · exact h
        · rw [JobTable.updateComplete]
          refine inv_modify h ?_ 1
          intro r; rfl

theorem lookup_getLeasedJob (s : SQLiteByocJobQueueStore) (now : Epoch)
    (jobId token : String) :
    LeaseCheck.Lookup now jobId token (s.getLeasedJob now jobId token).1 (record s)
      (record (s.getLeasedJob now jobId token).2) := by
  rw [getLeasedJob, JobTable.selectJob]
  cases hr : s.rows.get? jobId with
  | none => exact .inl ⟨rfl, LeaseCheck.refused_of_none (by rw [record, hr]; rfl)⟩
  | some r =>
    have hview : record s jobId = some (view r) := by rw [record, hr]; rfl
    exact LeaseCheck.lookup_of_checks hview (record_requeueExpiredLeases now none s) fun _ ↦ rfl

theorem inv_getLeasedJob {s : SQLiteByocJobQueueStore} (h : Inv s) (now : Epoch)
    (jobId token : String) : Inv (s.getLeasedJob now jobId token).2 := by
  rw [getLeasedJob]
  split
  · exact h
  · split
    · exact h
    · split
      · exact inv_requeueExpiredLeases h now none
      · split <;> exact h

theorem recordStep_replayDeadLetterJob (s : SQLiteByocJobQueueStore) (now : Epoch)
    (tenantId jobId k : String) :
    RecordStep ⟨now, .replayDeadLetterJob tenantId jobId⟩ k
      (.flag (s.replayDeadLetterJob tenantId jobId).1) (record s k)
      (record (s.replayDeadLetterJob tenantId jobId).2 k) := by
  rw [replayDeadLetterJob, JobTable.selectJob]
  split
  · exact ⟨fun _ ↦ rfl, fun _ ↦ .inr ⟨rfl, rfl⟩⟩
  · cases hr : s.rows.get? (strip jobId) with
    | none => exact ⟨fun _ ↦ rfl, fun _ ↦ .inr ⟨rfl, rfl⟩⟩
    | some r =>
      simp only
      split
      · exact ⟨fun _ ↦ rfl, fun _ ↦ .inr ⟨rfl, rfl⟩⟩
      · rename_i hcond
        rw [not_or, not_not, not_not] at hcond
        refine ⟨fun hk ↦ ?_, fun hk ↦ .inl ⟨rfl, view r, ?_, hcond.1, hcond.2, ?_⟩⟩
        · rw [record_commit, get?_modify_view, if_neg (Ne.symm hk)]; rfl
        · rw [record, ← hk, hr]; rfl
        · rw [record_commit, get?_modify_view, if_pos hk.symm, ← hk, hr]; rfl

theorem inv_replayDeadLetterJob {s : SQLiteByocJobQueueStore} (h : Inv s)
    (tenantId jobId : String) : Inv (s.replayDeadLetterJob tenantId jobId).2 := by
  rw [replayDeadLetterJob]
  split
  · exact h
  · split
    · exact h
    · split
      · exact h
      · refine inv_modify h ?_ 1
        intro r; rfl

/-- The table after the two `UPDATE`s of `cancel_pending_call`, before its sweep. -/
def cancelledRows (now : Epoch) (normalized : String) (t : JobTable) : JobTable :=
  t.mapVals fun _ r ↦
    if r.callId = normalized then { r with toLifecycle := r.toLifecycle.cancel now } else r

theorem cancelPendingCall_rows {callId : String} (h : strip callId ≠ "") (now : Epoch)
    (s : SQLiteByocJobQueueStore) :
    (s.cancelPendingCall now callId).2.rows =
      (cancelledRows now (strip callId) s.rows).mapVals fun _ r ↦
        { r with toLifecycle := r.toLifecycle.sweepColumns now none } := by
  simp only [cancelPendingCall, if_neg h, rows_requeueExpiredLeases, commit_rows]
  refine congrArg (Dict.mapVals _) ?_
  simp only [JobTable.update, cancelledRows, Dict.mapVals_mapVals]
  refine Dict.mapVals_congr fun _ r _ ↦ ?_
  by_cases hc : r.callId = strip callId
  · cases hs : r.status <;> simp [hc, hs, Lifecycle.cancel]
  · simp [hc]

theorem recordStep_cancelPendingCall (s : SQLiteByocJobQueueStore) (now : Epoch)
    (callId k : String) :
    RecordStep ⟨now, .cancelPendingCall callId⟩ k
      (.count (s.cancelPendingCall now callId).1) (record s k)
      (record (s.cancelPendingCall now callId).2 k) := by
  simp only [RecordStep]
  split
  · rename_i hblank
    simp only [cancelPendingCall, if_pos hblank]
  · rename_i hcall
    rw [record, cancelPendingCall_rows hcall, cancelledRows, Dict.get?_mapVals, Dict.get?_mapVals,
      record, Option.map_map, Option.map_map, Option.map_map]
    refine Option.map_congr fun r _ ↦ ?_
    have hid : (view r).spec.callId = r.callId := rfl
    simp only [Function.comp_apply, view_sweepColumns, hid]
    split
    · rw [view, JobView.of_cancel]; rfl
    · rfl

theorem inv_cancelPendingCall {s : SQLiteByocJobQueueStore} (h : Inv s) (now : Epoch)
    (callId : String) : Inv (s.cancelPendingCall now callId).2 := by
  by_cases hblank : strip callId = ""
  · simpa only [cancelPendingCall, if_pos hblank] using h
  · intro k r hk
    rw [cancelPendingCall_rows hblank, cancelledRows, Dict.get?_mapVals, Dict.get?_mapVals,
      Option.map_map] at hk
    obtain ⟨r₀, hr₀, rfl⟩ := Option.map_eq_some_iff.mp hk
    simp only [Function.comp_apply]
    split <;> exact h k r₀ hr₀

/-- Only rows of the tenant with the given status are counted as overflow. -/
theorem mem_overflow {status : JobStatus} {finishedAt : JobRow → Epoch} {maxRecords : Int}
    {tenantId : String} {t : JobTable} (ht : ∀ k r, t.get? k = some r → r.jobId = k) {j : String}
    (h : j ∈ overflow status finishedAt maxRecords tenantId t) :
    ∃ r, t.get? j = some r ∧ r.tenantId = tenantId ∧ r.status = status := by
  simp only [overflow, List.mem_map] at h
  obtain ⟨⟨i, r⟩, hmem, rfl⟩ := h
  have hrow := List.mem_mergeSort.mp (List.mem_of_mem_take hmem)
  simp only [rowsOf, List.mem_filter, Bool.and_eq_true, decide_eq_true_eq] at hrow
  have hget := Dict.mem_entries_iff.mp hrow.1
  exact ⟨r, by rw [ht i r hget]; exact hget, hrow.2⟩

/-- The rows left by the two `DELETE`s of `cleanup_retention`. -/
def keptRows (now : Epoch) (normalized : String) (limits : RetentionLimits) (t : JobTable) :
    JobTable :=
  t.filter fun _ r ↦
    !outdated .completed (fun r ↦ r.completedAtEpoch) now limits.completedTtlSeconds normalized r &&
    !outdated .cancelled (fun r ↦ r.cancelledAtEpoch) now limits.cancelledTtlSeconds normalized r

theorem delete_delete (now : Epoch) (normalized : String) (limits : RetentionLimits)
    (t : JobTable) :
    (((t.delete (outdated .completed (fun r ↦ r.completedAtEpoch) now
      limits.completedTtlSeconds normalized)).2).delete
      (outdated .cancelled (fun r ↦ r.cancelledAtEpoch) now limits.cancelledTtlSeconds
        normalized)).2 = keptRows now normalized limits t := by
  apply Dict.ext
  simp only [JobTable.delete, keptRows, Dict.entries_filter, List.filter_filter]
  congr 1
  funext e
  exact Bool.and_comm _ _

theorem cleanupRetention_rows {tenantId : String} (h : strip tenantId ≠ "") (now : Epoch)
    (limits : RetentionLimits) (s : SQLiteByocJobQueueStore) :
    (s.cleanupRetention now tenantId limits).2.rows =
      (keptRows now (strip tenantId) limits s.rows).filter fun jobId _ ↦
        jobId ∉ overflow .completed (fun r ↦ r.completedAtEpoch) limits.maxCompletedRecords
          (strip tenantId) (keptRows now (strip tenantId) limits s.rows) &&
        jobId ∉ overflow .cancelled (fun r ↦ r.cancelledAtEpoch) limits.maxCancelledRecords
          (strip tenantId) (keptRows now (strip tenantId) limits s.rows) := by
  simp only [cleanupRetention, if_neg h, commit_rows, delete_delete]

theorem get?_cleanupRetention {s : SQLiteByocJobQueueStore} (h : Inv s) (now : Epoch)
    (tenantId : String) (limits : RetentionLimits) (k : String) :
    (s.cleanupRetention now tenantId limits).2.rows.get? k = s.rows.get? k ∨
      ((s.cleanupRetention now tenantId limits).2.rows.get? k = none ∧
        ∃ r, s.rows.get? k = some r ∧ (r.status = .completed ∨ r.status = .cancelled) ∧
          r.tenantId = strip tenantId) := by
  by_cases hblank : strip tenantId = ""
  · exact .inl (by simp only [cleanupRetention, if_pos hblank])
  · rw [cleanupRetention_rows hblank]
    have hkeyed : ∀ k r, (keptRows now (strip tenantId) limits s.rows).get? k = some r →
        r.jobId = k := by
      intro k r hr
      rw [keptRows, Dict.get?_filter, Option.filter_eq_some_iff] at hr
      exact h k r hr.1
    cases hr : s.rows.get? k with
    | none => exact .inl (by simp [keptRows, hr])
    | some r =>
      rw [Dict.get?_filter]
      cases hkept : (keptRows now (strip tenantId) limits s.rows).get? k with
      | none =>
        refine .inr ⟨rfl, r, rfl, ?_⟩
        rw [keptRows, Dict.get?_filter, hr, Option.filter_some] at hkept
        split at hkept
        · exact absurd hkept (by simp)
        · rename_i hdrop
          simp only [outdated, Bool.and_eq_true, Bool.not_eq_true', not_and_or,
            Bool.not_eq_false, decide_eq_true_eq] at hdrop
          rcases hdrop with h | h
          · exact ⟨.inl h.1.1.2, h.1.1.1⟩
          · exact ⟨.inr h.1.1.2, h.1.1.1⟩
      | some r' =>
        have hr' : r' = r := by
          rw [keptRows, Dict.get?_filter, hr, Option.filter_eq_some_iff, Option.some_inj] at hkept
          exact hkept.1.symm
        subst hr'
        rw [Option.filter_some]
        split
        · exact .inl rfl
        · rename_i hdrop
          refine .inr ⟨rfl, r', rfl, ?_⟩
          simp only [Bool.and_eq_true, decide_eq_true_eq, not_and_or, not_not] at hdrop
          rcases hdrop with hmem | hmem
          · obtain ⟨r'', hr'', htenant, hstatus⟩ := mem_overflow hkeyed hmem
            rw [hkept, Option.some_inj] at hr''
            exact hr'' ▸ ⟨.inl hstatus, htenant⟩
          · obtain ⟨r'', hr'', htenant, hstatus⟩ := mem_overflow hkeyed hmem
            rw [hkept, Option.some_inj] at hr''
            exact hr'' ▸ ⟨.inr hstatus, htenant⟩

theorem recordStep_cleanupRetention {s : SQLiteByocJobQueueStore} (h : Inv s) (now : Epoch)
    (tenantId : String) (limits : RetentionLimits) (k : String) :
    RecordStep ⟨now, .cleanupRetention tenantId limits⟩ k
      (.pruned (s.cleanupRetention now tenantId limits).1) (record s k)
      (record (s.cleanupRetention now tenantId limits).2 k) := by
  rcases get?_cleanupRetention h now tenantId limits k with heq | ⟨heq, r, hr, hfin, htenant⟩
  · exact .inl (by rw [record, heq, record])
  · exact .inr ⟨by rw [record, heq]; rfl, view r, by rw [record, hr]; rfl, hfin, htenant⟩

theorem inv_cleanupRetention {s : SQLiteByocJobQueueStore} (h : Inv s) (now : Epoch)
    (tenantId : String) (limits : RetentionLimits) :
    Inv (s.cleanupRetention now tenantId limits).2 := by
  intro k r hk
  rcases get?_cleanupRetention h now tenantId limits k with heq | ⟨heq, -⟩
  · exact h k r (heq ▸ hk)
  · rw [heq] at hk; exact absurd hk (by simp)

/-- **The SQLite store is lawful.** -/
theorem lawful : LawfulJobStore sqliteByocJobQueueStore Inv record where
  inv_step s c h := by
    obtain ⟨now, op⟩ := c
    cases op <;> simp only [ByocJobQueueStore.step, sqliteByocJobQueueStore]
    case enqueue job => exact inv_enqueue h job
    case claimNext t w ttl token => exact inv_claimNext h now t w ttl token
    case completeClaim j token => exact inv_completeClaim h now j token
    case getLeasedJob j token => exact inv_getLeasedJob h now j token
    case requeueExpiredLeases limit => exact inv_requeueExpiredLeases h now limit
    case replayDeadLetterJob t j => exact inv_replayDeadLetterJob h t j
    case cancelPendingCall callId => exact inv_cancelPendingCall h now callId
    case cleanupRetention t limits => exact inv_cleanupRetention h now t limits
    all_goals exact h
  jobId_eq s k v h hv := by
    obtain ⟨r, hr, rfl⟩ := Option.map_eq_some_iff.mp hv
    exact h k r hr
  record_step s c k h := by
    obtain ⟨now, op⟩ := c
    cases op <;> simp only [ByocJobQueueStore.step, sqliteByocJobQueueStore]
    case enqueue job => exact recordStep_enqueue s now job k
    case claimNext t w ttl token => exact recordStep_claimNext h now t w ttl token k
    case completeClaim j token =>
      exact recordStep_completeClaim_of (completion_completeClaim s now j token) k
    case getLeasedJob j token =>
      exact recordStep_getLeasedJob_of (lookup_getLeasedJob s now j token) k
    case requeueExpiredLeases limit => exact record_requeueExpiredLeases now limit s k
    case replayDeadLetterJob t j => exact recordStep_replayDeadLetterJob s now t j k
    case cancelPendingCall callId => exact recordStep_cancelPendingCall s now callId k
    case cleanupRetention t limits => exact recordStep_cleanupRetention h now t limits k
    all_goals rfl

theorem checked : CheckedJobStore sqliteByocJobQueueStore Inv record where
  toLawfulJobStore := lawful
  completion s now j token _ := completion_completeClaim s now j token
  lookup s now j token _ := lookup_getLeasedJob s now j token

end SQLiteByocJobQueueStore

/-! ## Backends -/

/-- A job store together with everything that is known about it: what the results about the
runtime are stated over. -/
structure JobBackend where
  State : Type
  store : ByocJobQueueStore State
  /-- The store on its first day. -/
  init : State
  Inv : State → Prop
  record : State → String → Option JobView
  checked : CheckedJobStore store Inv record
  init_inv : Inv init
  record_init : ∀ k, record init k = none

/-- The in-memory backend. -/
def JobBackend.inMemory : JobBackend where
  State := InMemoryByocJobQueueStore
  store := inMemoryByocJobQueueStore
  init := InMemoryByocJobQueueStore.init
  Inv := InMemoryByocJobQueueStore.Inv
  record := InMemoryByocJobQueueStore.record
  checked := InMemoryByocJobQueueStore.checked
  init_inv := InMemoryByocJobQueueStore.init_inv
  record_init _ := rfl

/-- The SQLite backend, on a file or on `:memory:`. -/
def JobBackend.sqlite (shared : Bool) : JobBackend where
  State := SQLiteByocJobQueueStore
  store := sqliteByocJobQueueStore
  init := SQLiteByocJobQueueStore.init shared
  Inv := SQLiteByocJobQueueStore.Inv
  record := SQLiteByocJobQueueStore.record
  checked := SQLiteByocJobQueueStore.checked
  init_inv := SQLiteByocJobQueueStore.init_inv shared
  record_init _ := rfl

end Byoc
end ExoBrain
