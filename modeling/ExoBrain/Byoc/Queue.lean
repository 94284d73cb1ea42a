import Mathlib.Data.List.Induction
import ExoBrain.Lib.Arrivals
import ExoBrain.Byoc.Leases

/-!
# The deques of the in-memory store

`_tenant_queue` is a redundant index over `_states` that nothing ever repairs: cancelling and
pruning leave stale ids behind, requeueing and replaying append, and `claim_next` drops the stale
ids it meets.  `QueueInv` is the relation that survives all of this.  Its heart is one equation
between lists, for each tenant:

> the deque, without its stale ids, is the list of the tenant's queued jobs in the order in which
> they last became queued.

The order is read off a log of the run, `queueLog`, which only looks at the records: a call adds to
it the ids that it made queued (`newlyQueued`), in the order of the dictionary.  So the equation
ties the deques to something that does not mention them.

Everything else (a queued job is filed exactly once, under its own tenant; `claim_next` returns the
job that waits longest, and nothing only when nobody waits) is read off the equation.
-/

set_option autoImplicit false

namespace ExoBrain
namespace Byoc

open Text Arrivals

namespace InMemoryByocJobQueueStore

/-! ## Waiting jobs -/

/-- The job is queued. -/
def waits (s : InMemoryByocJobQueueStore) (k : String) : Bool :=
  (record s k).any fun v ↦ v.status = .queued

/-- The job is queued, and belongs to the tenant. -/
def waitsFor (tenantId : String) (s : InMemoryByocJobQueueStore) (k : String) : Bool :=
  (record s k).any fun v ↦ v.status = .queued && v.spec.tenantId = tenantId

theorem waits_iff {s : InMemoryByocJobQueueStore} {k : String} :
    s.waits k = true ↔ ∃ v, record s k = some v ∧ v.status = .queued := by
  simp [waits, Option.any_eq_true]

theorem waitsFor_iff {t : String} {s : InMemoryByocJobQueueStore} {k : String} :
    s.waitsFor t k = true ↔
      ∃ v, record s k = some v ∧ v.status = .queued ∧ v.spec.tenantId = t := by
  simp [waitsFor, Option.any_eq_true]

theorem waits_of_waitsFor {t : String} {s : InMemoryByocJobQueueStore} {k : String}
    (h : s.waitsFor t k = true) : s.waits k = true := by
  obtain ⟨v, hv, hq, -⟩ := waitsFor_iff.mp h
  exact waits_iff.mpr ⟨v, hv, hq⟩

theorem mem_keys_of_record {s : InMemoryByocJobQueueStore} {k : String} {v : JobView}
    (h : record s k = some v) : k ∈ s.states.keys := by
  obtain ⟨st, hst, -⟩ := Option.map_eq_some_iff.mp h
  exact Dict.mem_keys_iff.mpr ⟨st, hst⟩

/-- The jobs that are queued in `s'` and were not in `s`, in the order of the dictionary. -/
def newlyQueued (s s' : InMemoryByocJobQueueStore) : List String :=
  s'.states.keys.filter fun k ↦ s'.waits k && !s.waits k

theorem mem_newlyQueued {s s' : InMemoryByocJobQueueStore} {k : String} :
    k ∈ newlyQueued s s' ↔ s'.waits k = true ∧ s.waits k = false := by
  rw [newlyQueued, List.mem_filter, Bool.and_eq_true, Bool.not_eq_true', and_iff_right_iff_imp]
  rintro ⟨h, -⟩
  obtain ⟨v, hv, -⟩ := waits_iff.mp h
  exact mem_keys_of_record hv

theorem newlyQueued_nodup (s s' : InMemoryByocJobQueueStore) : (newlyQueued s s').Nodup :=
  s'.states.keys_nodup.filter _

theorem newlyQueued_eq_nil {s s' : InMemoryByocJobQueueStore}
    (h : ∀ k, s'.waits k = true → s.waits k = true) : newlyQueued s s' = [] := by
  rw [List.eq_nil_iff_forall_not_mem]
  intro k hk
  obtain ⟨hs', hs⟩ := mem_newlyQueued.mp hk
  rw [h k hs'] at hs
  exact absurd hs (by simp)

theorem newlyQueued_eq_singleton {s s' : InMemoryByocJobQueueStore} {j : String}
    (hj : j ∈ newlyQueued s s') (h : ∀ k, k ≠ j → s'.waits k = true → s.waits k = true) :
    newlyQueued s s' = [j] := by
  have hall : ∀ k ∈ newlyQueued s s', k = j := by
    intro k hk
    by_contra hne
    obtain ⟨hs', hs⟩ := mem_newlyQueued.mp hk
    rw [h k hne hs'] at hs
    exact absurd hs (by simp)
  have hcount := List.count_eq_one_of_mem (newlyQueued_nodup s s') hj
  rw [List.count_eq_length.mpr fun k hk ↦ (hall k hk).symm] at hcount
  obtain ⟨x, hx⟩ := List.length_eq_one_iff.mp hcount
  rw [hx, hall x (by simp [hx])]

/-! ## The invariant -/

/-- The deques of `s` agree with its records.  `log` is the list of the queueings so far, and
`seen` tells the ids that were ever enqueued. -/
structure QueueInv (seen : String → Prop) (log : List String) (s : InMemoryByocJobQueueStore) :
    Prop where
  /-- Without its stale ids, a deque lists the queued jobs of its tenant by last arrival. -/
  order : ∀ t, (s.tenantQueue t).filter s.waits = waiting (s.waitsFor t) log
  /-- A job that is neither queued nor cancelled is in no deque. -/
  idle : ∀ k v, record s k = some v → v.status ≠ .queued → v.status ≠ .cancelled →
    ∀ t, k ∉ s.tenantQueue t
  /-- Every id in a deque was logged. -/
  filed : ∀ t, ∀ k ∈ s.tenantQueue t, k ∈ log
  /-- Every queued job was logged. -/
  logged : ∀ k, s.waits k = true → k ∈ log
  /-- Only ids that were enqueued are logged. -/
  seen_log : ∀ k ∈ log, seen k
  /-- Only ids that were enqueued have a record. -/
  seen_record : ∀ k v, record s k = some v → seen k

theorem QueueInv.init : QueueInv (fun _ ↦ False) [] init where
  order _ := rfl
  idle k v hv := absurd hv (by simp [record, InMemoryByocJobQueueStore.init])
  filed t k hk := absurd hk (by simp [InMemoryByocJobQueueStore.init])
  logged k hk := absurd hk (by simp [waits, record, InMemoryByocJobQueueStore.init])
  seen_log k hk := absurd hk (by simp)
  seen_record k v hv := absurd hv (by simp [record, InMemoryByocJobQueueStore.init])

/-- A queued job occurs once in the deque of its tenant. -/
theorem QueueInv.count_eq_one {seen : String → Prop} {log : List String}
    {s : InMemoryByocJobQueueStore} (h : QueueInv seen log s) {k : String} {v : JobView}
    (hv : record s k = some v) (hq : v.status = .queued) :
    (s.tenantQueue v.spec.tenantId).count k = 1 := by
  have hw : s.waits k = true := waits_iff.mpr ⟨v, hv, hq⟩
  have hwf : s.waitsFor v.spec.tenantId k = true := waitsFor_iff.mpr ⟨v, hv, hq, rfl⟩
  rw [← List.count_filter hw, h.order]
  exact List.count_eq_one_of_mem (waiting_nodup _ _) (mem_waiting.mpr ⟨h.logged k hw, hwf⟩)

/-- A queued job occurs in no other deque. -/
theorem QueueInv.not_mem_other {seen : String → Prop} {log : List String}
    {s : InMemoryByocJobQueueStore} (h : QueueInv seen log s) {k : String} {v : JobView}
    (hv : record s k = some v) (hq : v.status = .queued) {t : String} (ht : t ≠ v.spec.tenantId) :
    k ∉ s.tenantQueue t := by
  intro hk
  have hmem : k ∈ (s.tenantQueue t).filter s.waits :=
    List.mem_filter.mpr ⟨hk, waits_iff.mpr ⟨v, hv, hq⟩⟩
  rw [h.order] at hmem
  obtain ⟨w, hw, -, htenant⟩ := waitsFor_iff.mp (mem_waiting.mp hmem).2
  rw [hv, Option.some_inj] at hw
  exact ht (hw ▸ htenant.symm)

/-! ## Steps other than handing a job out -/

/-- What a move says about a job that is queued afterwards and was not before. -/
theorem arrives_of_move {c : JobCall} {k : String} {reply : JobReply} {r r' : Option JobView}
    (hmove : JobMove c k reply r r') {w : JobView} (hw : r' = some w) (hq : w.status = .queued)
    (hbefore : ∀ v, r = some v → v.status ≠ .queued) :
    (r = none ∧ c.enqueues k = true) ∨
      ∃ v, r = some v ∧ v.status ≠ .queued ∧ v.status ≠ .cancelled := by
  cases hmove with
  | stay hout hdone henq hcancel => exact absurd hq (hbefore w hw)
  | create hop hk => exact .inl ⟨rfl, by simp [JobCall.enqueues, hop, hk]⟩
  | release hleased hend hout hdone => exact .inr ⟨_, rfl, by simp [hleased], by simp [hleased]⟩
  | claim hop hreply hk hqueued he =>
    obtain rfl := Option.some.inj hw
    exact absurd hq (by simp [JobView.lease])
  | complete hop hreply hheld => exact .inr ⟨_, rfl, by simp [hheld.1], by simp [hheld.1]⟩
  | cancel hqueued hcancel hout hdone => exact absurd hqueued (hbefore _ rfl)
  | replay hdead hout hdone => exact .inr ⟨_, rfl, by simp [hdead], by simp [hdead]⟩
  | prune hfinished hout hdone => exact absurd hw (by simp)

/-- A job that is neither queued nor cancelled after a move that does not hand it out was so
before. -/
theorem idle_of_move {c : JobCall} {k : String} {reply : JobReply} {r r' : Option JobView}
    (hmove : JobMove c k reply r r') (hclaim : JobEvent.handsOut k (c, reply) = false)
    {w : JobView} (hw : r' = some w) (hq : w.status ≠ .queued) (hc : w.status ≠ .cancelled) :
    ∃ v, r = some v ∧ v.status ≠ .queued ∧ v.status ≠ .cancelled := by
  cases hmove with
  | stay hout hdone henq hcancel => exact ⟨w, hw, hq, hc⟩
  | create hop hk =>
    obtain rfl := Option.some.inj hw
    exact absurd rfl hq
  | release hleased hend hout hdone => exact ⟨_, rfl, by simp [hleased], by simp [hleased]⟩
  | claim hop hreply hk hqueued he => simp [JobEvent.handsOut, hop, hreply, hk] at hclaim
  | complete hop hreply hheld => exact ⟨_, rfl, by simp [hheld.1], by simp [hheld.1]⟩
  | cancel hqueued hcancel hout hdone =>
    obtain rfl := Option.some.inj hw
    exact absurd rfl hc
  | replay hdead hout hdone => exact ⟨_, rfl, by simp [hdead], by simp [hdead]⟩
  | prune hfinished hout hdone => exact absurd hw (by simp)

/-- A job keeps its tenant, and only `enqueue` creates one. -/
theorem spec_of_move {c : JobCall} {k : String} {reply : JobReply} {r r' : Option JobView}
    (hmove : JobMove c k reply r r') {w : JobView} (hw : r' = some w) :
    (r = none ∧ c.enqueues k = true) ∨ ∃ v, r = some v ∧ w.spec = v.spec := by
  rcases hmove.spec_cases hw with ⟨hnone, job, hop, hk, -⟩ | hkept
  · exact .inl ⟨hnone, by simp [JobCall.enqueues, hop, hk]⟩
  · exact .inr hkept

/-- **A step that files exactly the newly queued jobs keeps the invariant.**  `c` and `reply` are
the call that moved the records; it hands nothing out, and does not reuse the id of a job that was
pruned. -/
theorem QueueInv.step {seen seen' : String → Prop} {log : List String}
    {s s' : InMemoryByocJobQueueStore} (h : QueueInv seen log s) {c : JobCall} {reply : JobReply}
    (hmove : ∀ k, JobMove c k reply (record s k) (record s' k))
    (hclaim : ∀ k, JobEvent.handsOut k (c, reply) = false)
    (hnew : ∀ k, c.enqueues k = true → record s k = none → ¬seen k)
    (hseen : ∀ k, seen k ∨ c.enqueues k = true → seen' k)
    (hfile : ∀ t, s'.tenantQueue t =
      s.tenantQueue t ++ (newlyQueued s s').filter (s'.waitsFor t)) :
    QueueInv seen' (log ++ newlyQueued s s') s' := by
  -- a newly queued job was in no deque: it is new, or it was leased or dead-lettered
  have hfresh : ∀ k ∈ newlyQueued s s', ∀ t, k ∉ s.tenantQueue t := by
    intro k hk t hkt
    obtain ⟨hw', hw⟩ := mem_newlyQueued.mp hk
    obtain ⟨w, hrec, hq⟩ := waits_iff.mp hw'
    have hbefore : ∀ v, record s k = some v → v.status ≠ .queued := by
      intro v hv hvq
      rw [waits_iff.mpr ⟨v, hv, hvq⟩] at hw
      exact absurd hw (by simp)
    rcases arrives_of_move (hmove k) hrec hq hbefore with ⟨hnone, henq⟩ | ⟨v, hv, hvq, hvc⟩
    · exact hnew k henq hnone (h.seen_log k (h.filed t k hkt))
    · exact h.idle k v hv hvq hvc t hkt
  have hkeep : ∀ k, k ∉ newlyQueued s s' → s'.waits k = true → s.waits k = true := by
    intro k hk hw
    by_contra hne
    exact hk (mem_newlyQueued.mpr ⟨hw, Bool.eq_false_iff.mpr hne⟩)
  have htenant : ∀ t k, s.waitsFor t k = true → s'.waits k = s'.waitsFor t k := by
    intro t k hwf
    obtain ⟨v, hv, -, hvt⟩ := waitsFor_iff.mp hwf
    rw [Bool.eq_iff_iff]
    refine ⟨fun hw ↦ ?_, waits_of_waitsFor⟩
    obtain ⟨w, hw, hq⟩ := waits_iff.mp hw
    rcases spec_of_move (hmove k) hw with ⟨hnone, -⟩ | ⟨v', hv', hspec⟩
    · rw [hv] at hnone; exact absurd hnone (by simp)
    · rw [hv, Option.some_inj] at hv'
      exact waitsFor_iff.mpr ⟨w, hw, hq, by rw [hspec, ← hv', hvt]⟩
  refine ⟨fun t ↦ ?_, fun k w hw hq hc t hk ↦ ?_, fun t k hk ↦ ?_, fun k hk ↦ ?_, fun k hk ↦ ?_,
    fun k w hw ↦ ?_⟩
  · have hold : (s.tenantQueue t).filter s'.waits = (waiting (s.waitsFor t) log).filter
        (s'.waitsFor t) := by
      rw [← h.order t, List.filter_filter]
      calc (s.tenantQueue t).filter s'.waits
          = (s.tenantQueue t).filter fun k ↦ s'.waits k && s.waits k := by
            refine List.filter_congr fun k hk ↦ ?_
            cases hw : s'.waits k with
            | false => rfl
            | true => rw [hkeep k (fun hm ↦ hfresh k hm t hk) hw]; rfl
        _ = ((s.tenantQueue t).filter s.waits).filter s'.waits := List.filter_filter.symm
        _ = ((s.tenantQueue t).filter s.waits).filter (s'.waitsFor t) := by
            refine List.filter_congr fun k hk ↦ htenant t k ?_
            rw [h.order] at hk
            exact (mem_waiting.mp hk).2
        _ = (s.tenantQueue t).filter fun k ↦ s'.waitsFor t k && s.waits k := List.filter_filter
    rw [hfile, List.filter_append, hold, List.filter_filter, waiting_append (newlyQueued_nodup s s')
      (p := s.waitsFor t) ?_ ?_]
    · congr 1
      refine List.filter_congr fun k _ ↦ ?_
      cases hwf : s'.waitsFor t k with
      | false => simp
      | true => rw [waits_of_waitsFor hwf]; rfl
    · intro k hk hwf
      have hw := hkeep k hk (waits_of_waitsFor hwf)
      obtain ⟨v, hv, hvq⟩ := waits_iff.mp hw
      obtain ⟨w, hw', -, hwt⟩ := waitsFor_iff.mp hwf
      rcases spec_of_move (hmove k) hw' with ⟨hnone, -⟩ | ⟨v', hv', hspec⟩
      · rw [hv] at hnone; exact absurd hnone (by simp)
      · rw [hv, Option.some_inj] at hv'
        exact waitsFor_iff.mpr ⟨v, hv, hvq, by rw [hv', ← hspec, hwt]⟩
    · intro k hk
      rw [Bool.eq_false_iff]
      intro hwf
      obtain ⟨-, hw⟩ := mem_newlyQueued.mp hk
      rw [waits_of_waitsFor hwf] at hw
      exact absurd hw (by simp)
  · rw [hfile, List.mem_append, List.mem_filter] at hk
    rcases hk with hk | ⟨-, hwf⟩
    · obtain ⟨v, hv, hvq, hvc⟩ := idle_of_move (hmove k) (hclaim k) hw hq hc
      exact h.idle k v hv hvq hvc t hk
    · obtain ⟨w', hw', hq', -⟩ := waitsFor_iff.mp hwf
      rw [hw, Option.some_inj] at hw'
      exact hq (hw' ▸ hq')
  · rw [hfile, List.mem_append, List.mem_filter] at hk
    rcases hk with hk | ⟨hk, -⟩
    · exact List.mem_append_left _ (h.filed t k hk)
    · exact List.mem_append_right _ hk
  · by_cases hm : k ∈ newlyQueued s s'
    · exact List.mem_append_right _ hm
    · exact List.mem_append_left _ (h.logged k (hkeep k hm hk))
  · rcases List.mem_append.mp hk with hk | hk
    · exact hseen k (.inl (h.seen_log k hk))
    · obtain ⟨w, hw, -⟩ := waits_iff.mp (mem_newlyQueued.mp hk).1
      rcases spec_of_move (hmove k) hw with ⟨-, henq⟩ | ⟨v, hv, -⟩
      · exact hseen k (.inr henq)
      · exact hseen k (.inl (h.seen_record k v hv))
  · rcases spec_of_move (hmove k) hw with ⟨-, henq⟩ | ⟨v, hv, -⟩
    · exact hseen k (.inr henq)
    · exact hseen k (.inl (h.seen_record k v hv))

/-! ## What each operation files -/

/-- The sweep appends each requeued id to the deque of its tenant. -/
theorem foldl_push (back : List (String × JobState)) (q : String → List String) (t : String) :
    back.foldl (fun q e ↦ push q e.2.envelope.tenantId e.1) q t =
      q t ++ (back.filter fun e ↦ e.2.envelope.tenantId = t).map Prod.fst := by
  induction back generalizing q with
  | nil => simp
  | cons e back ih =>
    rw [List.foldl_cons, ih, push]
    by_cases ht : e.2.envelope.tenantId = t
    · rw [List.filter_cons_of_pos (by simpa using ht), List.map_cons, ht, Function.update_self]
      simp
    · rw [List.filter_cons_of_neg (by simpa using ht), Function.update_of_ne (Ne.symm ht)]

/-- A lease that the sweep does not dead-letter is queued after it. -/
theorem status_sweep (now : Epoch) (limit : Option Int) (l : Lifecycle) :
    (l.sweep now limit).status = .queued ↔ l.status = .queued ∨ l.requeues now limit = true := by
  rw [Lifecycle.sweep, Lifecycle.requeues]
  by_cases hexp : l.expired now = true
  · have hl : l.status = .leased := by
      simp only [Lifecycle.expired, Bool.and_eq_true, decide_eq_true_eq] at hexp
      exact hexp.1
    by_cases hdlq : l.shouldDlq limit = true
    · simp [hexp, hdlq, hl, Lifecycle.deadLetter]
    · simp [hexp, hdlq, Lifecycle.requeue]
  · simp [hexp]

theorem requeues_not_queued {now : Epoch} {limit : Option Int} {l : Lifecycle}
    (h : l.requeues now limit = true) : l.status ≠ .queued := by
  simp only [Lifecycle.requeues, Lifecycle.expired, Bool.and_eq_true, decide_eq_true_eq] at h
  simp [h.1.1]

/-- The sweep files what it makes queued. -/
theorem files_requeueExpiredLeases (now : Epoch) (limit : Option Int)
    (s : InMemoryByocJobQueueStore) (t : String) :
    (s.requeueExpiredLeases now limit).2.tenantQueue t =
      s.tenantQueue t ++ (newlyQueued s (s.requeueExpiredLeases now limit).2).filter
        ((s.requeueExpiredLeases now limit).2.waitsFor t) := by
  simp only [requeueExpiredLeases, requeued]
  rw [foldl_push, List.filter_filter]
  congr 1
  have hrw := Dict.map_fst_filter_entries (fun st : JobState ↦
    decide (st.envelope.tenantId = t) && st.toLifecycle.requeues now limit) s.states
  rw [hrw, newlyQueued, List.filter_filter, Dict.keys_mapVals]
  refine List.filter_congr fun k hk ↦ ?_
  obtain ⟨st, hst⟩ := Dict.mem_keys_iff.mp hk
  simp only [waits, waitsFor, record, Dict.get?_mapVals, hst, Option.map_some, Option.any_some]
  have hstatus := status_sweep now limit st.toLifecycle
  have htenant : (view { st with toLifecycle := st.toLifecycle.sweep now limit }).spec.tenantId =
    st.envelope.tenantId := rfl
  have hview : (view { st with toLifecycle := st.toLifecycle.sweep now limit }).status =
    (st.toLifecycle.sweep now limit).status := rfl
  have hold : (view st).status = st.status := rfl
  simp only [htenant, hview, hold, hstatus]
  by_cases hr : st.toLifecycle.requeues now limit = true
  · simp [hr, requeues_not_queued hr]
  · simp [hr]

/-- A step that queues one job and pushes its id on the deque of its tenant. -/
theorem files_push {s s' : InMemoryByocJobQueueStore} {tenantId j : String} {v : JobView}
    (hqueue : s'.tenantQueue = push s.tenantQueue tenantId j) (hv : record s' j = some v)
    (hq : v.status = .queued) (htenant : v.spec.tenantId = tenantId) (hold : s.waits j = false)
    (hother : ∀ k, k ≠ j → record s' k = record s k) (t : String) :
    s'.tenantQueue t = s.tenantQueue t ++ (newlyQueued s s').filter (s'.waitsFor t) := by
  have hnew : newlyQueued s s' = [j] := by
    refine newlyQueued_eq_singleton (mem_newlyQueued.mpr ⟨waits_iff.mpr ⟨v, hv, hq⟩, hold⟩) ?_
    intro k hk hw
    rwa [waits, hother k hk] at hw
  rw [hnew, hqueue, push]
  by_cases ht : tenantId = t
  · have hwf : s'.waitsFor t j = true := waitsFor_iff.mpr ⟨v, hv, hq, htenant.trans ht⟩
    rw [ht, Function.update_self, List.filter_cons_of_pos hwf, List.filter_nil]
  · have hwf : ¬s'.waitsFor t j = true := by
      rw [waitsFor_iff]
      rintro ⟨w, hw, -, hwt⟩
      rw [hv, Option.some_inj] at hw
      exact ht (by rw [← htenant, hw, hwt])
    rw [Function.update_of_ne (Ne.symm ht), List.filter_cons_of_neg hwf, List.filter_nil,
      List.append_nil]

/-- A step that leaves the deques alone and queues nothing. -/
theorem files_nothing {s s' : InMemoryByocJobQueueStore} (hqueue : s'.tenantQueue = s.tenantQueue)
    (h : ∀ k, s'.waits k = true → s.waits k = true) (t : String) :
    s'.tenantQueue t = s.tenantQueue t ++ (newlyQueued s s').filter (s'.waitsFor t) := by
  rw [newlyQueued_eq_nil h, List.filter_nil, List.append_nil, hqueue]

theorem files_enqueue (s : InMemoryByocJobQueueStore) (job : ByocToolJobEnvelope) (t : String) :
    (s.enqueue job).tenantQueue t =
      s.tenantQueue t ++ (newlyQueued s (s.enqueue job)).filter ((s.enqueue job).waitsFor t) := by
  have hrec := recordStep_enqueue s 0 job
  simp only [RecordStep] at hrec
  by_cases hmem : job.jobId ∈ s.states.keys
  · have heq : s.enqueue job = s := by rw [enqueue, if_pos hmem]
    rw [heq]
    exact files_nothing rfl (fun _ hk ↦ hk) t
  · have hnone : record s job.jobId = none := by
      rw [record, Dict.get?_eq_none_iff.mpr hmem]; rfl
    have hj : record (s.enqueue job) job.jobId = some (.fresh job.toJobSpec) := by
      rw [hrec, if_pos rfl, hnone]; rfl
    have hqueue : (s.enqueue job).tenantQueue = push s.tenantQueue job.tenantId job.jobId := by
      rw [enqueue, if_neg hmem]
    refine files_push hqueue hj rfl rfl ?_ (fun k hk ↦ ?_) t
    · rw [waits, hnone]; rfl
    · rw [hrec, if_neg hk]

/-- The two ways `replay_dead_letter_job` can end. -/
theorem replayDeadLetterJob_cases (s : InMemoryByocJobQueueStore) (tenantId jobId : String) :
    s.replayDeadLetterJob tenantId jobId = (false, s) ∨
      ((s.replayDeadLetterJob tenantId jobId).1 = true ∧
        (s.replayDeadLetterJob tenantId jobId).2.tenantQueue =
          push s.tenantQueue (strip tenantId) (strip jobId)) := by
  rw [replayDeadLetterJob]
  split
  · exact .inl rfl
  · split
    · exact .inl rfl
    · split
      · exact .inl rfl
      · exact .inr ⟨rfl, rfl⟩

theorem files_replayDeadLetterJob (s : InMemoryByocJobQueueStore) (tenantId jobId t : String) :
    (s.replayDeadLetterJob tenantId jobId).2.tenantQueue t =
      s.tenantQueue t ++ (newlyQueued s (s.replayDeadLetterJob tenantId jobId).2).filter
        ((s.replayDeadLetterJob tenantId jobId).2.waitsFor t) := by
  rcases replayDeadLetterJob_cases s tenantId jobId with heq | ⟨htrue, hqueue⟩
  · rw [heq]
    exact files_nothing rfl (fun _ hk ↦ hk) t
  · have hrec := recordStep_replayDeadLetterJob s 0 tenantId jobId
    rcases (hrec (strip jobId)).2 rfl with ⟨-, v, hv, htenant, hdead, hafter⟩ | ⟨hfalse, -⟩
    · refine files_push hqueue hafter rfl htenant ?_ (fun k hk ↦ (hrec k).1 (Ne.symm hk)) t
      rw [waits, hv, Option.any_some, hdead]; rfl
    · rw [htrue] at hfalse
      exact absurd hfalse (by simp)

/-- The ways `complete_claim` can leave the store: unchanged, swept, or with the job completed and
the deques unchanged. -/
theorem completeClaim_cases (s : InMemoryByocJobQueueStore) (now : Epoch) (jobId token : String) :
    (s.completeClaim now jobId token).2 = s ∨
      (s.completeClaim now jobId token).2 = (s.requeueExpiredLeases now none).2 ∨
      ((s.completeClaim now jobId token).1 = true ∧
        (s.completeClaim now jobId token).2.tenantQueue = s.tenantQueue) := by
  rw [completeClaim]
  split
  · exact .inl rfl
  · split
    · exact .inl rfl
    · split
      · exact .inr (.inl rfl)
      · split
        · exact .inl rfl
        · exact .inr (.inr ⟨rfl, rfl⟩)

theorem files_completeClaim (s : InMemoryByocJobQueueStore) (now : Epoch)
    (jobId token t : String) :
    (s.completeClaim now jobId token).2.tenantQueue t =
      s.tenantQueue t ++ (newlyQueued s (s.completeClaim now jobId token).2).filter
        ((s.completeClaim now jobId token).2.waitsFor t) := by
  rcases completeClaim_cases s now jobId token with heq | heq | ⟨htrue, hqueue⟩
  · rw [heq]
    exact files_nothing rfl (fun _ hk ↦ hk) t
  · rw [heq]
    exact files_requeueExpiredLeases now none s t
  · refine files_nothing hqueue (fun k hk ↦ ?_) t
    have hrec := recordStep_completeClaim_of (completion_completeClaim s now jobId token) k
    rw [htrue] at hrec
    by_cases hj : jobId = k
    · rcases hrec.2 hj with ⟨-, v, -, -, hafter⟩ | ⟨hfalse, -⟩
      · obtain ⟨w, hw, hq⟩ := waits_iff.mp hk
        rw [hafter, Option.some_inj] at hw
        rw [← hw] at hq
        exact absurd hq (by simp [JobView.complete])
      · exact absurd hfalse (by simp)
    · rcases hrec.1 hj with ⟨-, hafter⟩ | ⟨hfalse, -⟩
      · rwa [waits, hafter] at hk
      · exact absurd hfalse (by simp)

/-- `get_leased_job` leaves the store unchanged or swept. -/
theorem getLeasedJob_cases (s : InMemoryByocJobQueueStore) (now : Epoch) (jobId token : String) :
    (s.getLeasedJob now jobId token).2 = s ∨
      (s.getLeasedJob now jobId token).2 = (s.requeueExpiredLeases now none).2 := by
  rw [getLeasedJob]
  split
  · exact .inl rfl
  · split
    · exact .inl rfl
    · split
      · exact .inr rfl
      · split <;> exact .inl rfl

theorem files_getLeasedJob (s : InMemoryByocJobQueueStore) (now : Epoch)
    (jobId token t : String) :
    (s.getLeasedJob now jobId token).2.tenantQueue t =
      s.tenantQueue t ++ (newlyQueued s (s.getLeasedJob now jobId token).2).filter
        ((s.getLeasedJob now jobId token).2.waitsFor t) := by
  rcases getLeasedJob_cases s now jobId token with heq | heq
  · rw [heq]
    exact files_nothing rfl (fun _ hk ↦ hk) t
  · rw [heq]
    exact files_requeueExpiredLeases now none s t

/-- Cancelling files what its sweep makes queued: none of those waited before the cancellation. -/
theorem files_cancelPendingCall (s : InMemoryByocJobQueueStore) (now : Epoch)
    (callId t : String) :
    (s.cancelPendingCall now callId).2.tenantQueue t =
      s.tenantQueue t ++ (newlyQueued s (s.cancelPendingCall now callId).2).filter
        ((s.cancelPendingCall now callId).2.waitsFor t) := by
  by_cases hblank : strip callId = ""
  · have heq : (s.cancelPendingCall now callId).2 = s := by
      simp only [cancelPendingCall, if_pos hblank]
    rw [heq]
    exact files_nothing rfl (fun _ hk ↦ hk) t
  · rw [cancelPendingCall_snd hblank, files_requeueExpiredLeases]
    have hsame : ∀ k,
        ((s.cancelled now (strip callId)).requeueExpiredLeases now none).2.waits k = true →
        (s.cancelled now (strip callId)).waits k = s.waits k := by
      intro k hk
      obtain ⟨w, hw, hq⟩ := waits_iff.mp hk
      rw [record_requeueExpiredLeases, record_cancelled] at hw
      rw [waits, record_cancelled, waits]
      cases hv : record s k with
      | none => rfl
      | some v =>
        rw [hv, Option.map_some, Option.map_some, Option.some_inj] at hw
        rw [Option.map_some, Option.any_some, Option.any_some]
        split
        · rename_i hcall
          rw [if_pos hcall] at hw
          cases hs : v.status with
          | queued =>
            rw [JobView.cancel, hs, JobView.sweep, if_neg (by simp [JobView.Expired])] at hw
            rw [← hw] at hq
            exact absurd hq (by simp)
          | leased | completed | cancelled | deadLettered => simp [JobView.cancel, hs]
        · rfl
    have hnew : newlyQueued (s.cancelled now (strip callId))
        ((s.cancelled now (strip callId)).requeueExpiredLeases now none).2 =
        newlyQueued s ((s.cancelled now (strip callId)).requeueExpiredLeases now none).2 := by
      rw [newlyQueued, newlyQueued]
      refine List.filter_congr fun k _ ↦ ?_
      cases hw : ((s.cancelled now (strip callId)).requeueExpiredLeases now none).2.waits k with
      | false => rfl
      | true => rw [hsame k hw]
    rw [hnew]
    rfl

theorem files_cleanupRetention (s : InMemoryByocJobQueueStore) (now : Epoch) (tenantId : String)
    (limits : RetentionLimits) (t : String) :
    (s.cleanupRetention now tenantId limits).2.tenantQueue t =
      s.tenantQueue t ++ (newlyQueued s (s.cleanupRetention now tenantId limits).2).filter
        ((s.cleanupRetention now tenantId limits).2.waitsFor t) := by
  have hqueue : (s.cleanupRetention now tenantId limits).2.tenantQueue = s.tenantQueue := by
    rw [cleanupRetention]
    split <;> rfl
  refine files_nothing hqueue (fun k hk ↦ ?_) t
  rcases recordStep_cleanupRetention s now tenantId limits k with heq | ⟨hnone, -⟩
  · rwa [waits, heq] at hk
  · rw [waits, hnone] at hk
    exact absurd hk (by simp)

/-! ## Handing a job out -/

/-- What is left of a deque after the pop, without its stale ids. -/
theorem filter_popQueued {s : InMemoryByocJobQueueStore} {q : List String} {j : String}
    {st : JobState} {rest : List String} (h : popQueued s.states q = (some (j, st), rest)) :
    q.filter s.waits = j :: rest.filter s.waits := by
  obtain ⟨hget, hst, stale, rfl, hstale⟩ := popQueued_spec h
  have hj : s.waits j = true := waits_iff.mpr ⟨view st, by rw [record, hget]; rfl, hst⟩
  have hnone : stale.filter s.waits = [] := by
    rw [List.filter_eq_nil_iff]
    intro i hi hw
    obtain ⟨v, hv, hq⟩ := waits_iff.mp hw
    obtain ⟨st', hst', rfl⟩ := Option.map_eq_some_iff.mp hv
    exact hstale i hi st' hst' hq
  rw [List.filter_append, hnone, List.filter_cons_of_pos hj, List.nil_append]

/-- **The pop keeps the invariant**, and takes the job of the tenant that waits longest. -/
theorem QueueInv.pop {seen : String → Prop} {log : List String} {s : InMemoryByocJobQueueStore}
    (h : QueueInv seen log s) {t j : String} {st st' : JobState} {rest : List String}
    (hpop : popQueued s.states (s.tenantQueue t) = (some (j, st), rest))
    (hleased : st'.status = .leased) :
    QueueInv seen log
      ⟨s.states.modify j fun _ ↦ st', Function.update s.tenantQueue t rest⟩ := by
  obtain ⟨hget, hst, stale, hsplit, -⟩ := popQueued_spec hpop
  have hfilter := filter_popQueued hpop
  have hv : record s j = some (view st) := by rw [record, hget]; rfl
  have hjwaits : s.waits j = true := waits_iff.mpr ⟨view st, hv, hst⟩
  have hrest : ∀ k ∈ rest, k ∈ s.tenantQueue t := fun k hk ↦ by simp [hsplit, hk]
  have hjt : (view st).spec.tenantId = t := by
    have hmem : j ∈ (s.tenantQueue t).filter s.waits := by rw [hfilter]; simp
    rw [h.order] at hmem
    obtain ⟨w, hw, -, hwt⟩ := waitsFor_iff.mp (mem_waiting.mp hmem).2
    rw [hv, Option.some_inj] at hw
    rw [hw, hwt]
  have hjrest : j ∉ rest := by
    intro hj
    have hnodup : (j :: rest.filter s.waits).Nodup := by
      rw [← hfilter, h.order]
      exact waiting_nodup _ _
    exact (List.nodup_cons.mp hnodup).1 (List.mem_filter.mpr ⟨hj, hjwaits⟩)
  generalize hs' : (⟨s.states.modify j fun _ ↦ st', Function.update s.tenantQueue t rest⟩ :
    InMemoryByocJobQueueStore) = s'
  have hrec : ∀ k, record s' k = if k = j then some (view st') else record s k := by
    intro k
    rw [← hs', record_modify]
    by_cases hk : k = j
    · rw [if_pos hk, if_pos hk, hk, hget]; rfl
    · rw [if_neg hk, if_neg hk]
  have hqueue : s'.tenantQueue = Function.update s.tenantQueue t rest := by rw [← hs']
  have hwaits : ∀ k, s'.waits k = (decide (k ≠ j) && s.waits k) := by
    intro k
    rw [waits, hrec]
    by_cases hk : k = j
    · have hnot : (view st').status = .leased := hleased
      simp [hk, hnot]
    · simp [hk, waits]
  have hwaitsFor : ∀ t' k, s'.waitsFor t' k = (decide (k ≠ j) && s.waitsFor t' k) := by
    intro t' k
    rw [waitsFor, hrec]
    by_cases hk : k = j
    · have hnot : (view st').status = .leased := hleased
      simp [hk, hnot]
    · simp [hk, waitsFor]
  have hsub : ∀ t' k, k ∈ s'.tenantQueue t' → k ∈ s.tenantQueue t' := by
    intro t' k hk
    rw [hqueue] at hk
    by_cases ht : t' = t
    · subst ht
      rw [Function.update_self] at hk
      exact hrest k hk
    · rwa [Function.update_of_ne ht] at hk
  refine ⟨fun t' ↦ ?_, fun k w hw hq hc t' hk ↦ ?_, fun t' k hk ↦ h.filed t' k (hsub t' k hk),
    fun k hk ↦ ?_, h.seen_log, fun k w hw ↦ ?_⟩
  · have hright : waiting (s'.waitsFor t') log =
        ((s.tenantQueue t').filter s.waits).filter fun k ↦ k ≠ j := by
      rw [h.order, waiting, waiting, List.filter_filter]
      exact List.filter_congr fun k _ ↦ hwaitsFor t' k
    have hleft : ∀ q : List String, q.filter s'.waits = (q.filter s.waits).filter fun k ↦ k ≠ j := by
      intro q
      rw [List.filter_filter]
      exact List.filter_congr fun k _ ↦ hwaits k
    rw [hright, hleft, hqueue]
    by_cases ht : t' = t
    · rw [ht, Function.update_self, hfilter, List.filter_cons_of_neg (by simp)]
    · rw [Function.update_of_ne ht]
  · have hold := hsub t' k hk
    rw [hrec] at hw
    by_cases hkj : k = j
    · subst hkj
      by_cases ht : t' = t
      · rw [hqueue, ht, Function.update_self] at hk
        exact hjrest hk
      · exact h.not_mem_other hv hst (by rw [hjt]; exact ht) hold
    · rw [if_neg hkj] at hw
      exact h.idle k w hw hq hc t' hold
  · rw [hwaits, Bool.and_eq_true] at hk
    exact h.logged k hk.2
  · rw [hrec] at hw
    split at hw
    · rename_i hkj
      exact hkj ▸ h.seen_record j _ hv
    · exact h.seen_record k w hw

/-- An empty-handed pop keeps the invariant. -/
theorem QueueInv.pop_none {seen : String → Prop} {log : List String}
    {s : InMemoryByocJobQueueStore} (h : QueueInv seen log s) {t : String} {rest : List String}
    (hpop : popQueued s.states (s.tenantQueue t) = (none, rest)) :
    waiting (s.waitsFor t) log = [] ∧
      QueueInv seen log ⟨s.states, Function.update s.tenantQueue t rest⟩ := by
  obtain ⟨rfl, hstale⟩ := popQueued_none hpop
  have hnil : (s.tenantQueue t).filter s.waits = [] := by
    rw [List.filter_eq_nil_iff]
    intro i hi hw
    obtain ⟨v, hv, hq⟩ := waits_iff.mp hw
    obtain ⟨st', hst', rfl⟩ := Option.map_eq_some_iff.mp hv
    exact hstale i hi st' hst' hq
  have hsub : ∀ t' k, k ∈ Function.update s.tenantQueue t [] t' → k ∈ s.tenantQueue t' := by
    intro t' k hk
    by_cases ht : t' = t
    · subst ht
      rw [Function.update_self] at hk
      exact absurd hk (by simp)
    · rwa [Function.update_of_ne ht] at hk
  refine ⟨by rw [← h.order, hnil], fun t' ↦ ?_, fun k v hv hq hc t' hk ↦ ?_,
    fun t' k hk ↦ h.filed t' k (hsub t' k hk), h.logged, h.seen_log, h.seen_record⟩
  · by_cases ht : t' = t
    · subst ht
      have hempty := h.order t'
      rw [hnil] at hempty
      simp only [Function.update_self, List.filter_nil]
      exact hempty
    · simp only [Function.update_of_ne ht]
      exact h.order t'
  · exact h.idle k v hv hq hc t' (hsub t' k hk)

/-! ## Whole runs -/

/-- The state in which a call has queued all that it queues.  Only `claim_next` goes on after that,
and hands a job out. -/
def afterQueueing (s : InMemoryByocJobQueueStore) (c : JobCall) : InMemoryByocJobQueueStore :=
  match c.op with
  | .claimNext _ _ _ _ => (s.requeueExpiredLeases c.now none).2
  | _ => (inMemoryByocJobQueueStore.step s c).2

/-- The ids that become queued in a run from `s`, in order; an id occurs as often as it becomes
queued. -/
def queueLog (s : InMemoryByocJobQueueStore) : List JobCall → List String
  | [] => []
  | c :: calls =>
    newlyQueued s (s.afterQueueing c) ++ queueLog (inMemoryByocJobQueueStore.step s c).2 calls

theorem queueLog_append (s : InMemoryByocJobQueueStore) (calls later : List JobCall) :
    queueLog s (calls ++ later) = queueLog s calls ++
      queueLog (Run.exec inMemoryByocJobQueueStore.step s calls) later := by
  induction calls generalizing s with
  | nil => rfl
  | cons c calls ih => rw [List.cons_append, queueLog, ih, queueLog, List.append_assoc]; rfl

/-- A call other than `claim_next` files exactly what it makes queued. -/
theorem files_step (s : InMemoryByocJobQueueStore) (c : JobCall)
    (hc : ∀ t w ttl token, c.op ≠ .claimNext t w ttl token) (t : String) :
    (inMemoryByocJobQueueStore.step s c).2.tenantQueue t =
      s.tenantQueue t ++ (newlyQueued s (inMemoryByocJobQueueStore.step s c).2).filter
        ((inMemoryByocJobQueueStore.step s c).2.waitsFor t) := by
  obtain ⟨now, op⟩ := c
  cases op <;> simp only [ByocJobQueueStore.step, inMemoryByocJobQueueStore]
  case enqueue job => exact files_enqueue s job t
  case claimNext t' w ttl token => exact absurd rfl (hc t' w ttl token)
  case completeClaim j token => exact files_completeClaim s now j token t
  case getLeasedJob j token => exact files_getLeasedJob s now j token t
  case requeueExpiredLeases limit => exact files_requeueExpiredLeases now limit s t
  case replayDeadLetterJob t' j => exact files_replayDeadLetterJob s t' j t
  case cancelPendingCall callId => exact files_cancelPendingCall s now callId t
  case cleanupRetention t' limits => exact files_cleanupRetention s now t' limits t
  all_goals exact files_nothing rfl (fun _ hk ↦ hk) t

/-- The sweep at the start of `claim_next` moves the records as a call of its own would. -/
theorem move_requeueExpiredLeases (now : Epoch) (s : InMemoryByocJobQueueStore) (k : String) :
    JobMove ⟨now, .requeueExpiredLeases none⟩ k (.count 0) (record s k)
      (record (s.requeueExpiredLeases now none).2 k) := by
  rw [record_requeueExpiredLeases]
  exact jobMove_sweep rfl rfl rfl fun _ ↦ rfl

theorem QueueInv.sweep {seen : String → Prop} {log : List String}
    {s : InMemoryByocJobQueueStore} (h : QueueInv seen log s) (now : Epoch) :
    QueueInv seen (log ++ newlyQueued s (s.requeueExpiredLeases now none).2)
      (s.requeueExpiredLeases now none).2 := by
  refine h.step (move_requeueExpiredLeases now s) (fun _ ↦ rfl) (fun k hk ↦ ?_) (fun k hk ↦ ?_)
    (files_requeueExpiredLeases now none s)
  · exact absurd hk (by simp [JobCall.enqueues])
  · exact hk.resolve_right (by simp [JobCall.enqueues])

/-- **Every call keeps the invariant**, if it does not reuse the id of a pruned job. -/
theorem QueueInv.call {seen seen' : String → Prop} {log : List String}
    {s : InMemoryByocJobQueueStore} (h : QueueInv seen log s) (hinv : Inv s) (c : JobCall)
    (hnew : ∀ k, c.enqueues k = true → record s k = none → ¬seen k)
    (hseen : ∀ k, seen' k ↔ seen k ∨ c.enqueues k = true) :
    QueueInv seen' (log ++ newlyQueued s (s.afterQueueing c))
      (inMemoryByocJobQueueStore.step s c).2 := by
  by_cases hc : ∃ t w ttl token, c.op = .claimNext t w ttl token
  · obtain ⟨t, w, ttl, token, hop⟩ := hc
    have hseen' : seen' = seen := by
      funext k
      rw [hseen k, propext_iff]
      simp [JobCall.enqueues, hop]
    obtain ⟨now, op⟩ := c
    obtain rfl : op = .claimNext t w ttl token := hop
    have hsweep := h.sweep now
    simp only [afterQueueing, ByocJobQueueStore.step, inMemoryByocJobQueueStore, hseen']
    obtain ⟨rest, hpop, heq⟩ | ⟨j, st, rest, hpop, heq⟩ := claimNext_cases now t w ttl token s
    · rw [heq]
      exact (hsweep.pop_none hpop).2
    · rw [heq]
      exact hsweep.pop hpop rfl
  · have hc' : ∀ t w ttl token, c.op ≠ .claimNext t w ttl token :=
      fun t w ttl token hop ↦ hc ⟨t, w, ttl, token, hop⟩
    have hafter : s.afterQueueing c = (inMemoryByocJobQueueStore.step s c).2 := by
      rw [afterQueueing]
      split
      · rename_i hop
        exact absurd hop (hc' _ _ _ _)
      · rfl
    rw [hafter]
    refine h.step (fun k ↦ (lawful.record_step s c k hinv).move) (fun k ↦ ?_) hnew
      (fun k ↦ (hseen k).mpr) (files_step s c hc')
    rw [JobEvent.handsOut]
    split
    · rename_i hop _
      exact absurd hop (hc' _ _ _ _)
    · rfl

/-- No id is enqueued again after its record was pruned. -/
def NeverReenqueued (calls : List JobCall) : Prop :=
  ∀ before now job after, calls = before ++ ⟨now, .enqueue job⟩ :: after →
    (∃ c ∈ before, c.enqueues job.jobId = true) → job.jobId ∈ (run before).states.keys

/-- Ids that are enqueued once are not enqueued again. -/
theorem neverReenqueued_of_count {calls : List JobCall}
    (h : ∀ c ∈ calls, ∀ job, c.op = .enqueue job →
      calls.countP (JobCall.enqueues job.jobId) ≤ 1) : NeverReenqueued calls := by
  rintro before now job after rfl ⟨c, hc, henq⟩
  have hcount := h ⟨now, .enqueue job⟩ (by simp) job rfl
  have hbefore : 0 < before.countP (JobCall.enqueues job.jobId) :=
    List.countP_pos_iff.mpr ⟨c, hc, henq⟩
  rw [List.countP_append, List.countP_cons_of_pos (by simp [JobCall.enqueues])] at hcount
  omega

theorem queueInv_run (calls : List JobCall) (h : NeverReenqueued calls) :
    Inv (run calls) ∧
      QueueInv (fun k ↦ ∃ c ∈ calls, c.enqueues k = true) (queueLog init calls) (run calls) := by
  -- the condition speaks about prefixes, so the run grows at its end
  induction calls using List.reverseRecOn with
  | nil =>
    refine ⟨init_inv, ?_⟩
    have hinit := QueueInv.init
    rw [show (fun k : String ↦ ∃ c ∈ ([] : List JobCall), c.enqueues k = true) = fun _ ↦ False by
      funext k; simp]
    exact hinit
  | append_singleton calls c ih =>
    have hpre : NeverReenqueued calls := by
      intro before now job after hsplit
      exact h before now job (after ++ [c]) (by rw [hsplit]; simp)
    obtain ⟨hinv, hq⟩ := ih hpre
    have hrun : run (calls ++ [c]) = (inMemoryByocJobQueueStore.step (run calls) c).2 :=
      Run.exec_append init calls [c]
    refine ⟨hrun ▸ lawful.inv_step (run calls) c hinv, ?_⟩
    rw [hrun, queueLog_append, queueLog, queueLog, List.append_nil]
    refine hq.call hinv c (fun k henq hnone hseen ↦ ?_) fun k ↦ ?_
    · obtain ⟨now, op⟩ := c
      cases op with
      | enqueue job =>
        obtain rfl : job.jobId = k := by simpa [JobCall.enqueues] using henq
        have hmem := h calls now job [] rfl hseen
        obtain ⟨st, hst⟩ := Dict.mem_keys_iff.mp hmem
        rw [record, hst] at hnone
        exact absurd hnone (by simp)
      | _ => exact absurd henq (by simp [JobCall.enqueues])
    · simp [or_and_right, exists_or]

/-- **The queue representation invariant.**  In every run of the in-memory store that never
enqueues an id again after its record was pruned:

* a queued job occurs exactly once in the deque of its own tenant and in no other deque, and a
  leased or dead-lettered job in none;
* `claim_next` of a tenant, once it has requeued the expired leases, returns the first of the
  tenant's queued jobs in the order in which they last became queued, and returns `None` only when
  the tenant has no queued job. -/
theorem deques_represent_queue (calls : List JobCall) (h : NeverReenqueued calls) :
    (∀ k st, (run calls).states.get? k = some st →
      (st.status = .queued →
        ((run calls).tenantQueue st.envelope.tenantId).count k = 1 ∧
          ∀ t, t ≠ st.envelope.tenantId → k ∉ (run calls).tenantQueue t) ∧
      (st.status = .leased ∨ st.status = .deadLettered → ∀ t, k ∉ (run calls).tenantQueue t)) ∧
    ∀ now t w ttl token swept, swept = ((run calls).requeueExpiredLeases now none).2 →
      (∀ e, ((run calls).claimNext now t w ttl token).1 = some e →
        e.tenantId = t ∧
          (waiting (swept.waitsFor t)
            (queueLog init calls ++ newlyQueued (run calls) swept)).head? = some e.jobId) ∧
      (((run calls).claimNext now t w ttl token).1 = none →
        ∀ k st, swept.states.get? k = some st → st.envelope.tenantId = t →
          st.status ≠ .queued) := by
  obtain ⟨hinv, hq⟩ := queueInv_run calls h
  refine ⟨fun k st hst ↦ ⟨fun hqueued ↦ ?_, fun hidle ↦ ?_⟩,
    fun now t w ttl token swept hswept ↦ ⟨fun e he ↦ ?_, fun hnone k st hst ht hqueued ↦ ?_⟩⟩
  · have hv : record (run calls) k = some (view st) := by rw [record, hst]; rfl
    exact ⟨hq.count_eq_one hv hqueued, fun t ht ↦ hq.not_mem_other hv hqueued ht⟩
  · have hv : record (run calls) k = some (view st) := by rw [record, hst]; rfl
    have hstatus : (view st).status ≠ .queued ∧ (view st).status ≠ .cancelled := by
      rcases hidle with hs | hs <;> simp [view, JobView.of, hs]
    exact hq.idle k (view st) hv hstatus.1 hstatus.2
  · subst hswept
    have hsweep := hq.sweep now
    obtain ⟨rest, -, heq⟩ | ⟨j, st, rest, hpop, heq⟩ := claimNext_cases now t w ttl token (run calls)
    · rw [heq] at he
      exact absurd he (by simp)
    · rw [heq, Option.some_inj] at he
      obtain ⟨hget, -⟩ := popQueued_spec hpop
      have hid : st.envelope.jobId = j := (inv_requeueExpiredLeases hinv now none j st hget).1
      have hhead := filter_popQueued hpop
      rw [hsweep.order] at hhead
      have hmem : j ∈ waiting _ _ := hhead ▸ List.mem_cons_self
      obtain ⟨v, hv, -, hvt⟩ := waitsFor_iff.mp (mem_waiting.mp hmem).2
      rw [record, hget, Option.map_some, Option.some_inj] at hv
      refine ⟨?_, ?_⟩
      · rw [← he, ← hvt, ← hv]; rfl
      · rw [hhead, ← he, List.head?_cons, ← hid]; rfl
  · subst hswept
    have hsweep := hq.sweep now
    obtain ⟨rest, hpop, heq⟩ | ⟨j, st', rest, hpop, heq⟩ :=
      claimNext_cases now t w ttl token (run calls)
    · have hwf : ((run calls).requeueExpiredLeases now none).2.waitsFor t k = true :=
        waitsFor_iff.mpr ⟨view st, by rw [record, hst]; rfl, hqueued, ht⟩
      have hmem := mem_waiting.mpr ⟨hsweep.logged k (waits_of_waitsFor hwf), hwf⟩
      rw [(hsweep.pop_none hpop).1] at hmem
      exact absurd hmem (by simp)
    · rw [heq] at hnone
      exact absurd hnone (by simp)

/-- Two jobs are enqueued, the first is claimed and its lease runs out. -/
def overtaken : List JobCall :=
  [⟨0, .enqueue { sampleJob with jobId := "j1" }⟩,
    ⟨1, .enqueue { sampleJob with jobId := "j2" }⟩,
    ⟨2, .claimNext "t" "w" 1 "a"⟩]

/-- The first job became queued again after the second, so the second is handed out next. -/
theorem deques_represent_queue_overtaken :
    NeverReenqueued overtaken ∧
      (waiting (((run overtaken).requeueExpiredLeases 9000000 none).2.waitsFor "t")
        (queueLog init overtaken ++ newlyQueued (run overtaken)
          ((run overtaken).requeueExpiredLeases 9000000 none).2)).head? = some "j2" ∧
      queueLog init overtaken ++ newlyQueued (run overtaken)
          ((run overtaken).requeueExpiredLeases 9000000 none).2 = ["j1", "j2", "j1"] := by
  have hfresh : NeverReenqueued overtaken := by
    refine neverReenqueued_of_count fun c hc job hop ↦ ?_
    simp only [overtaken, List.mem_cons, List.not_mem_nil, or_false] at hc
    rcases hc with rfl | rfl | rfl
    · obtain rfl := JobOp.enqueue.inj hop; decide
    · obtain rfl := JobOp.enqueue.inj hop; decide
    · exact absurd hop (by simp)
  have h := (deques_represent_queue overtaken hfresh).2 9000000 "t" "w" 1 "b" _ rfl
  refine ⟨hfresh, ?_, by decide⟩
  exact (h.1 _ (Option.some_get (by decide)).symm).2.trans (by decide)

end InMemoryByocJobQueueStore

end Byoc
end ExoBrain
