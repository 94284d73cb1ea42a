import ExoBrain.Policies.FairAdmission

/-!
# What fair admission keeps true

Every count the coordinator keeps is a count over the requests: `_inflight_total` is how many of
them hold a slot, `_inflight_by_tenant` the same for every tenant, and `_pending` is the list of
those that wait.  `AdmissionInv` says so, together with what makes it inductive: requests are
numbered in the order in which they are made, and no request is granted while an older one of the
same tenant waits.  It holds even in the middle of the loop that grants (`AdmissionInv.grant`).

What only holds between two steps is that no slot is free while somebody waits: that is what the
loop is for (`AdmissionInv.tryGrant`).
-/

set_option autoImplicit false

namespace ExoBrain
namespace Policies

open Text

theorem normalizedTenant_normalizedTenant (tenantId : String) :
    normalizedTenant (normalizedTenant tenantId) = normalizedTenant tenantId := by
  by_cases h : strip tenantId = ""
  · have hdefault : normalizedTenant "default" = "default" := by decide
    have hblank : normalizedTenant tenantId = "default" := if_pos h
    rw [hblank, hdefault]
  · have hname : normalizedTenant tenantId = strip tenantId := if_neg h
    rw [hname, normalizedTenant, strip_strip, if_neg h]

/-! ## Whose turn it is -/

theorem mem_keys_firstSeq {pending : List PendingAdmission} {t : String} :
    t ∈ (firstSeq pending).keys ↔ ∃ item ∈ pending, item.tenantId = t := by
  have hfold : ∀ (pending : List PendingAdmission) (seqs : Dict String Nat),
      t ∈ (pending.foldl (fun seqs item ↦ seqs.setDefault item.tenantId item.requestId) seqs).keys ↔
        t ∈ seqs.keys ∨ ∃ item ∈ pending, item.tenantId = t := by
    intro pending
    induction pending with
    | nil => simp
    | cons item pending ih =>
      intro seqs
      rw [List.foldl_cons, ih, Dict.mem_keys_setDefault]
      simp only [List.mem_cons, exists_eq_or_imp, eq_comm (a := t)]
      tauto
  rw [firstSeq, hfold]
  simp [Dict.keys, Dict.empty]

theorem pickNextTenant_mem {pending : List PendingAdmission} {grantsTotal : Dict String Nat}
    {t : String} (h : pickNextTenant pending grantsTotal = some t) :
    ∃ item ∈ pending, item.tenantId = t := by
  have hmem := List.mem_of_mem_head? h
  rw [List.mem_insertionSort] at hmem
  exact mem_keys_firstSeq.mp hmem

theorem pickNextTenant_none {pending : List PendingAdmission} {grantsTotal : Dict String Nat}
    (h : pickNextTenant pending grantsTotal = none) : pending = [] := by
  rw [pickNextTenant, List.head?_eq_none_iff] at h
  refine List.eq_nil_iff_forall_not_mem.mpr fun item hitem ↦ ?_
  have hmem := mem_keys_firstSeq.mpr ⟨item, hitem, rfl⟩
  rw [← List.mem_insertionSort (TenantLe grantsTotal (firstSeq pending)), h] at hmem
  exact List.not_mem_nil hmem

namespace ByocFairAdmissionCoordinator

/-- A turn of the loop grants the oldest request of some tenant, and there was a free slot. -/
theorem grantNext_some {c c' : ByocFairAdmissionCoordinator} {item : PendingAdmission}
    (h : c.grantNext = some (item, c')) :
    c.inflightTotal < c.maxInflightGlobal ∧
      c.pending.find? (fun other ↦ other.tenantId = item.tenantId) = some item ∧
      c' =
        { c with
          pending := c.pending.eraseP fun other ↦ other.tenantId = item.tenantId
          inflightTotal := c.inflightTotal + 1
          inflightByTenant := c.inflightByTenant.increment item.tenantId
          grantsTotal := c.grantsTotal.increment item.tenantId } := by
  rw [grantNext] at h
  split at h
  · rename_i hfree
    split at h
    · exact nomatch h
    · rename_i nextTenant hpick
      split at h
      · exact nomatch h
      · split at h
        · exact nomatch h
        · rename_i first hfind
          obtain ⟨rfl, rfl⟩ := Prod.mk.inj (Option.some.inj h)
          obtain rfl : first.tenantId = nextTenant := by simpa using List.find?_some hfind
          exact ⟨hfree, hfind, rfl⟩
  · exact nomatch h

/-- The loop ends when nobody waits or no slot is free. -/
theorem grantNext_none {c : ByocFairAdmissionCoordinator}
    (hnames : ∀ item ∈ c.pending, item.tenantId ≠ "") (h : c.grantNext = none) :
    c.pending = [] ∨ c.maxInflightGlobal ≤ c.inflightTotal := by
  rw [grantNext] at h
  split at h
  · split at h
    · rename_i hpick
      exact .inl (pickNextTenant_none hpick)
    · rename_i nextTenant hpick
      obtain ⟨item, hitem, rfl⟩ := pickNextTenant_mem hpick
      rw [if_neg (hnames item hitem)] at h
      split at h
      · rename_i hfind
        exact absurd (decide_eq_true rfl) (List.find?_eq_none.mp hfind item hitem)
      · exact nomatch h
  · rename_i hfull
    exact .inr (Nat.le_of_not_lt hfull)

end ByocFairAdmissionCoordinator

/-- Taking the first match off a list without repetitions. -/
theorem eraseP_eq_filter {α β : Type*} [DecidableEq β] {f : α → β} {p : α → Bool} {l : List α}
    {a : α} (hnodup : (l.map f).Nodup) (h : l.find? p = some a) :
    l.eraseP p = l.filter fun b ↦ f b ≠ f a := by
  induction l with
  | nil => exact nomatch h
  | cons b l ih =>
    rw [List.map_cons, List.nodup_cons] at hnodup
    by_cases hb : p b = true
    · obtain rfl : b = a := by simpa [hb] using h
      have hrest : ∀ c ∈ l, decide (f c ≠ f b) = true := fun c hc ↦
        decide_eq_true fun heq ↦ hnodup.1 (List.mem_map.mpr ⟨c, hc, heq⟩)
      rw [List.eraseP_cons_of_pos hb, List.filter_cons_of_neg (by simp),
        List.filter_eq_self.mpr hrest]
    · rw [List.find?_cons_of_neg hb] at h
      have hne : f b ≠ f a := fun heq ↦
        hnodup.1 (List.mem_map.mpr ⟨a, List.mem_of_find?_eq_some h, heq.symm⟩)
      rw [List.eraseP_cons_of_neg hb, List.filter_cons_of_pos (by simpa using hne),
        ih hnodup.2 h]

/-! ## The requests that wait -/

/-- The requests that are to be granted yet, oldest first, as the coordinator lists them. -/
def waitingRequests (requests : Dict Nat AdmissionRequest) : List PendingAdmission :=
  (requests.entries.filter fun e ↦ e.2.waits).map fun e ↦ ⟨e.2.tenantId, e.1⟩

theorem mem_waitingRequests {requests : Dict Nat AdmissionRequest} {item : PendingAdmission} :
    item ∈ waitingRequests requests ↔
      ∃ r, requests.get? item.requestId = some r ∧ r.waits = true ∧ r.tenantId = item.tenantId := by
  rw [waitingRequests, List.mem_map]
  constructor
  · rintro ⟨⟨k, r⟩, he, rfl⟩
    obtain ⟨hmem, hwaits⟩ := List.mem_filter.mp he
    exact ⟨r, Dict.mem_entries_iff.mp hmem, hwaits, rfl⟩
  · rintro ⟨r, hr, hwaits, htenant⟩
    refine ⟨(item.requestId, r), List.mem_filter.mpr ⟨Dict.mem_entries_iff.mpr hr, hwaits⟩, ?_⟩
    rw [htenant]

theorem map_requestId_waitingRequests (requests : Dict Nat AdmissionRequest) :
    ((waitingRequests requests).map PendingAdmission.requestId).Sublist requests.keys := by
  rw [waitingRequests, List.map_map]
  exact List.filter_sublist.map Prod.fst

/-- A request that stops waiting leaves the list. -/
theorem waitingRequests_modify {requests : Dict Nat AdmissionRequest} {k : Nat}
    {f : AdmissionRequest → AdmissionRequest} (hf : ∀ r, (f r).waits = false) :
    waitingRequests (requests.modify k f) =
      (waitingRequests requests).filter fun item ↦ item.requestId ≠ k := by
  have hlist : ∀ l : List (Nat × AdmissionRequest),
      ((l.map fun e ↦ (e.1, if e.1 = k then f e.2 else e.2)).filter fun e ↦ e.2.waits).map
          (fun e ↦ (⟨e.2.tenantId, e.1⟩ : PendingAdmission)) =
        ((l.filter fun e ↦ e.2.waits).map fun e ↦ ⟨e.2.tenantId, e.1⟩).filter
          fun item ↦ item.requestId ≠ k := by
    intro l
    induction l with
    | nil => rfl
    | cons e l ih =>
      by_cases hk : e.1 = k
      · by_cases hw : e.2.waits = true <;> simp [hk, hf, hw, ih]
      · by_cases hw : e.2.waits = true <;> simp [hk, hw, ih]
  exact hlist requests.entries

theorem waitingRequests_setDefault {requests : Dict Nat AdmissionRequest} {k : Nat}
    (hk : k ∉ requests.keys) (t : String) :
    waitingRequests (requests.setDefault k { tenantId := t }) =
      waitingRequests requests ++ [⟨t, k⟩] := by
  rw [waitingRequests, Dict.entries_setDefault hk, List.filter_append, List.map_append]
  rfl

/-! ## The invariant -/

/-- How many requests hold a slot. -/
def slotsHeld (requests : Dict Nat AdmissionRequest) : Nat :=
  requests.entries.countP fun e ↦ e.2.holdsSlot

/-- How many requests of a tenant hold a slot. -/
def slotsHeldBy (t : String) (requests : Dict Nat AdmissionRequest) : Nat :=
  requests.entries.countP fun e ↦ e.2.holdsSlot && e.2.tenantId = t

theorem slotsHeld_modify {requests : Dict Nat AdmissionRequest} {k : Nat} {r : AdmissionRequest}
    (hr : requests.get? k = some r) (f : AdmissionRequest → AdmissionRequest) :
    slotsHeld (requests.modify k f) + (if r.holdsSlot then 1 else 0) =
      slotsHeld requests + if (f r).holdsSlot then 1 else 0 :=
  Dict.countP_modify hr f _

theorem slotsHeldBy_modify {requests : Dict Nat AdmissionRequest} {k : Nat} {r : AdmissionRequest}
    (hr : requests.get? k = some r) (f : AdmissionRequest → AdmissionRequest) (t : String) :
    slotsHeldBy t (requests.modify k f) + (if r.holdsSlot && r.tenantId = t then 1 else 0) =
      slotsHeldBy t requests + if (f r).holdsSlot && (f r).tenantId = t then 1 else 0 :=
  Dict.countP_modify hr f _

/-- **What every turn of the loop and every step of a thread keeps true.** -/
structure AdmissionInv (cap : Nat) (s : AdmissionState) : Prop where
  cap_eq : s.coordinator.maxInflightGlobal = cap
  pending_eq : s.coordinator.pending = waitingRequests s.requests
  numbered : s.requests.keys.Pairwise (· < ·)
  fresh : ∀ k ∈ s.requests.keys, k ≤ s.coordinator.nextRequestId
  named : ∀ k r, s.requests.get? k = some r → normalizedTenant r.tenantId = r.tenantId
  returned : ∀ k r, s.requests.get? k = some r → r.phase = .admitted ∨ r.phase = .released →
    r.granted = true
  timedOut : ∀ k r, s.requests.get? k = some r → r.phase = .timedOut → r.granted = false
  total_eq : s.coordinator.inflightTotal = slotsHeld s.requests
  tenant_eq : ∀ t, (s.coordinator.inflightByTenant.get? t).getD 0 = slotsHeldBy t s.requests
  sum_eq : s.coordinator.inflightByTenant.sum = s.coordinator.inflightTotal
  total_le : s.coordinator.inflightTotal ≤ cap
  logged : ∀ item, item ∈ s.grants ↔
    ∃ r, s.requests.get? item.requestId = some r ∧ r.granted = true ∧ r.tenantId = item.tenantId
  in_order : ∀ t, (s.grants.filter fun item ↦ item.tenantId = t).Pairwise
    fun a b ↦ a.requestId < b.requestId
  not_overtaken : ∀ i j r r', s.requests.get? i = some r → s.requests.get? j = some r' → i < j →
    r.tenantId = r'.tenantId → r'.granted = true → r.waits = false

theorem AdmissionInv.init (maxInflightGlobal : Int) :
    AdmissionInv (max maxInflightGlobal 1).toNat (.init maxInflightGlobal) where
  cap_eq := rfl
  pending_eq := rfl
  numbered := List.Pairwise.nil
  fresh := fun _ hk ↦ absurd hk List.not_mem_nil
  named := fun _ _ h ↦ nomatch h
  returned := fun _ _ h ↦ nomatch h
  timedOut := fun _ _ h ↦ nomatch h
  total_eq := rfl
  tenant_eq := fun _ ↦ rfl
  sum_eq := rfl
  total_le := Nat.zero_le _
  logged := fun _ ↦ ⟨fun h ↦ absurd h List.not_mem_nil, fun ⟨_, h, _⟩ ↦ nomatch h⟩
  in_order := fun _ ↦ List.Pairwise.nil
  not_overtaken := fun _ _ _ _ h ↦ nomatch h

section Inv

variable {cap : Nat} {s : AdmissionState} (h : AdmissionInv cap s)

include h

theorem AdmissionInv.sorted : s.coordinator.pending.Pairwise fun a b ↦ a.requestId < b.requestId := by
  rw [h.pending_eq]
  exact List.pairwise_map.mp (h.numbered.sublist (map_requestId_waitingRequests s.requests))

theorem AdmissionInv.nodup : (s.coordinator.pending.map PendingAdmission.requestId).Nodup := by
  rw [h.pending_eq]
  exact s.requests.keys_nodup.sublist (map_requestId_waitingRequests s.requests)

theorem AdmissionInv.pending_named : ∀ item ∈ s.coordinator.pending, item.tenantId ≠ "" := by
  intro item hitem
  rw [h.pending_eq, mem_waitingRequests] at hitem
  obtain ⟨r, hr, -, htenant⟩ := hitem
  rw [← htenant, ← h.named _ r hr, normalizedTenant]
  split
  · exact nofun
  · assumption

theorem AdmissionInv.not_pending_of_granted {k : Nat} {r : AdmissionRequest}
    (hr : s.requests.get? k = some r) (hgranted : r.granted = true) :
    s.coordinator.pending = s.coordinator.pending.filter fun item ↦ item.requestId ≠ k := by
  refine (List.filter_eq_self.mpr fun item hitem ↦ decide_eq_true ?_).symm
  rintro rfl
  rw [h.pending_eq, mem_waitingRequests] at hitem
  obtain ⟨r', hr', hwaits, -⟩ := hitem
  obtain rfl := Option.some.inj (hr'.symm.trans hr)
  simp [AdmissionRequest.waits, hgranted] at hwaits

/-- A slot that is held is counted, for its tenant and in total. -/
theorem AdmissionInv.counted {k : Nat} {r : AdmissionRequest} (hr : s.requests.get? k = some r)
    (hholds : r.holdsSlot = true) :
    0 < s.coordinator.inflightTotal ∧
      0 < (s.coordinator.inflightByTenant.get? r.tenantId).getD 0 := by
  have hmem : (k, r) ∈ s.requests.entries := Dict.mem_entries_iff.mpr hr
  rw [h.total_eq, h.tenant_eq]
  exact ⟨List.countP_pos_iff.mpr ⟨_, hmem, hholds⟩,
    List.countP_pos_iff.mpr ⟨_, hmem, by simp [hholds]⟩⟩

/-! ## Grants -/

/-- The request whose turn it is waits, and is the oldest of its tenant that does. -/
theorem AdmissionInv.first_waiting {item : PendingAdmission}
    (hfind : s.coordinator.pending.find? (fun other ↦ other.tenantId = item.tenantId) = some item) :
    (∃ r, s.requests.get? item.requestId = some r ∧ r.waits = true ∧ r.tenantId = item.tenantId) ∧
      ∀ i r, s.requests.get? i = some r → r.waits = true → r.tenantId = item.tenantId →
        item.requestId ≤ i := by
  obtain ⟨-, before, after, hsplit, hbefore⟩ := List.find?_eq_some_iff_append.mp hfind
  refine ⟨mem_waitingRequests.mp ?_, fun i r hr hwaits htenant ↦ ?_⟩
  · rw [← h.pending_eq]
    exact List.mem_of_find?_eq_some hfind
  · have hmem : (⟨r.tenantId, i⟩ : PendingAdmission) ∈ s.coordinator.pending := by
      rw [h.pending_eq]
      exact mem_waitingRequests.mpr ⟨r, hr, hwaits, rfl⟩
    have hsorted := h.sorted
    rw [hsplit] at hmem hsorted
    rcases List.mem_append.mp hmem with hmem | hmem
    · exact absurd (decide_eq_true htenant) (by simpa using hbefore _ hmem)
    · rcases List.mem_cons.mp hmem with heq | hmem
      · exact (congrArg PendingAdmission.requestId heq).ge
      · exact Nat.le_of_lt
          ((List.pairwise_cons.mp (List.pairwise_append.mp hsorted).2.1).1 _ hmem)

/-- **One grant.** -/
theorem AdmissionInv.grant {item : PendingAdmission} {c' : ByocFairAdmissionCoordinator}
    (hnext : s.coordinator.grantNext = some (item, c')) :
    AdmissionInv cap
      ⟨c', AdmissionState.markGranted item s.requests, s.grants ++ [item]⟩ := by
  obtain ⟨hfree, hfind, rfl⟩ := ByocFairAdmissionCoordinator.grantNext_some hnext
  obtain ⟨⟨r, hr, hwaits, htenant⟩, hfirst⟩ := h.first_waiting hfind
  obtain ⟨hphase, hflag⟩ : r.phase = .acquiring ∧ r.granted = false := by
    simpa [AdmissionRequest.waits] using hwaits
  have hget {k : Nat} {r' : AdmissionRequest}
      (hr' : (AdmissionState.markGranted item s.requests).get? k = some r') :
      ∃ r₀, s.requests.get? k = some r₀ ∧
        r' = if k = item.requestId then { r₀ with granted := true } else r₀ :=
    Dict.get?_modify_eq_some hr'
  have hnow : (AdmissionState.markGranted item s.requests).get? item.requestId =
      some { r with granted := true } := by
    rw [AdmissionState.markGranted, Dict.get?_modify, if_pos rfl, hr]
    rfl
  have hkeep {k : Nat} (hk : k ≠ item.requestId) :
      (AdmissionState.markGranted item s.requests).get? k = s.requests.get? k := by
    rw [AdmissionState.markGranted, Dict.get?_modify, if_neg hk]
  have holdsNow : ({ r with granted := true } : AdmissionRequest).holdsSlot = true := by
    simp [AdmissionRequest.holdsSlot, hphase]
  have holdsBefore : r.holdsSlot = false := by simp [AdmissionRequest.holdsSlot, hflag]
  constructor
  case cap_eq => exact h.cap_eq
  case pending_eq =>
    have hpending := eraseP_eq_filter h.nodup hfind
    rw [AdmissionState.markGranted, waitingRequests_modify (by simp [AdmissionRequest.waits]),
      ← h.pending_eq]
    exact hpending
  case numbered => rw [AdmissionState.markGranted, Dict.keys_modify]; exact h.numbered
  case fresh => rw [AdmissionState.markGranted, Dict.keys_modify]; exact h.fresh
  case named =>
    intro k r' hr'
    obtain ⟨r₀, hr₀, rfl⟩ := hget hr'
    have hname := h.named k r₀ hr₀
    split <;> exact hname
  case returned =>
    intro k r' hr' hreturned
    obtain ⟨r₀, hr₀, rfl⟩ := hget hr'
    split
    · rfl
    · rename_i hne
      rw [if_neg hne] at hreturned
      exact h.returned k r₀ hr₀ hreturned
  case timedOut =>
    intro k r' hr' htimed
    obtain ⟨r₀, hr₀, rfl⟩ := hget hr'
    by_cases hk : k = item.requestId
    · subst hk
      obtain rfl : r₀ = r := Option.some.inj (hr₀.symm.trans hr)
      rw [if_pos rfl, hphase] at htimed
      exact nomatch htimed
    · rw [if_neg hk] at htimed ⊢
      exact h.timedOut k r₀ hr₀ htimed
  case total_eq =>
    have hcount := slotsHeld_modify hr fun r ↦ { r with granted := true }
    rw [holdsBefore, holdsNow, ← h.total_eq] at hcount
    exact hcount.symm
  case tenant_eq =>
    intro t
    have hcount := slotsHeldBy_modify hr (fun r ↦ { r with granted := true }) t
    rw [holdsBefore, holdsNow, ← h.tenant_eq t, htenant] at hcount
    simp only [Bool.false_and, Bool.true_and, Bool.false_eq_true, if_false, Nat.add_zero,
      decide_eq_true_eq] at hcount
    rw [Dict.get?_increment, AdmissionState.markGranted, hcount]
    simp only [eq_comm]
  case sum_eq =>
    rw [Dict.sum_increment, h.sum_eq]
  case total_le =>
    have hlt := hfree
    rw [h.cap_eq] at hlt
    exact hlt
  case logged =>
    intro other
    rw [List.mem_append, List.mem_singleton, h.logged]
    constructor
    · rintro (⟨r₀, hr₀, hgranted, hother⟩ | rfl)
      · have hne : other.requestId ≠ item.requestId := by
          intro heq
          rw [heq, hr] at hr₀
          obtain rfl := Option.some.inj hr₀
          exact absurd (hflag.symm.trans hgranted) Bool.false_ne_true
        exact ⟨r₀, (hkeep hne).trans hr₀, hgranted, hother⟩
      · exact ⟨_, hnow, rfl, htenant⟩
    · rintro ⟨r', hr', hgranted, hother⟩
      by_cases hk : other.requestId = item.requestId
      · rw [hk, hnow] at hr'
        obtain rfl := Option.some.inj hr'
        refine .inr ?_
        cases other
        cases item
        simp_all
      · exact .inl ⟨r', (hkeep hk).symm.trans hr', hgranted, hother⟩
  case in_order =>
    intro t
    rw [List.filter_append, List.pairwise_append]
    refine ⟨h.in_order t, (List.pairwise_singleton ..).filter _, fun a ha b hb ↦ ?_⟩
    obtain ⟨ha, hat⟩ := List.mem_filter.mp ha
    obtain ⟨hb, hbt⟩ := List.mem_filter.mp hb
    obtain rfl := List.mem_singleton.mp hb
    obtain ⟨r₀, hr₀, hgranted, hother⟩ := (h.logged a).mp ha
    have hsame : r.tenantId = r₀.tenantId := by
      rw [htenant, hother, of_decide_eq_true hat, of_decide_eq_true hbt]
    rcases Nat.lt_trichotomy a.requestId b.requestId with hlt | heq | hgt
    · exact hlt
    · rw [heq, hr] at hr₀
      obtain rfl := Option.some.inj hr₀
      exact absurd (hflag.symm.trans hgranted) Bool.false_ne_true
    · have hpast := h.not_overtaken _ _ r r₀ hr hr₀ hgt hsame hgranted
      exact absurd (hpast.symm.trans hwaits) Bool.false_ne_true
  case not_overtaken =>
    intro i j ri rj hi hj hlt hsame hgranted
    obtain ⟨ri, hri, rfl⟩ := hget hi
    obtain ⟨rj, hrj, rfl⟩ := hget hj
    by_cases hik : i = item.requestId
    · rw [if_pos hik]
      simp [AdmissionRequest.waits]
    · rw [if_neg hik] at hsame ⊢
      by_cases hjk : j = item.requestId
      · rw [if_pos hjk] at hsame
        rw [hjk, hr] at hrj
        obtain rfl := Option.some.inj hrj
        refine Bool.eq_false_iff.mpr fun hw ↦ ?_
        exact absurd (hfirst i ri hri hw (hsame.trans htenant)) (Nat.not_le_of_lt (hjk ▸ hlt))
      · rw [if_neg hjk] at hsame hgranted
        exact h.not_overtaken i j ri rj hri hrj hlt hsame hgranted

end Inv

/-- Between two steps, nobody waits while a slot is free. -/
def WorkConserving (cap : Nat) (s : AdmissionState) : Prop :=
  s.coordinator.pending ≠ [] → s.coordinator.inflightTotal = cap

/-- **The loop that grants**, when it has as many turns as there are requests that wait. -/
theorem AdmissionInv.grantLoop {cap turns : Nat} {s : AdmissionState} (h : AdmissionInv cap s)
    (hturns : s.coordinator.pending.length ≤ turns) :
    let looped := ByocFairAdmissionCoordinator.grantLoop turns s.coordinator
    let s' : AdmissionState :=
      ⟨looped.2, looped.1.foldl (fun requests item ↦ AdmissionState.markGranted item requests)
        s.requests, s.grants ++ looped.1⟩
    AdmissionInv cap s' ∧ WorkConserving cap s' := by
  induction turns generalizing s with
  | zero =>
    have hempty : s.coordinator.pending = [] := List.length_eq_zero_iff.mp (Nat.le_zero.mp hturns)
    simp only [ByocFairAdmissionCoordinator.grantLoop, List.foldl_nil, List.append_nil]
    exact ⟨h, fun hne ↦ absurd hempty hne⟩
  | succ turns ih =>
    rw [ByocFairAdmissionCoordinator.grantLoop]
    cases hnext : s.coordinator.grantNext with
    | none =>
      simp only [List.foldl_nil, List.append_nil]
      refine ⟨h, fun hne ↦ ?_⟩
      have hfull :=
        (ByocFairAdmissionCoordinator.grantNext_none h.pending_named hnext).resolve_left hne
      exact Nat.le_antisymm h.total_le (h.cap_eq ▸ hfull)
    | some next =>
      obtain ⟨item, c'⟩ := next
      have hfewer : c'.pending.length ≤ turns := by
        obtain ⟨-, hfind, rfl⟩ := ByocFairAdmissionCoordinator.grantNext_some hnext
        have herase := List.length_eraseP_of_mem (List.mem_of_find?_eq_some hfind)
          (List.find?_some hfind)
        simp only at herase ⊢
        omega
      have hrest := ih (h.grant hnext) hfewer
      simp only [List.append_assoc, List.singleton_append] at hrest
      exact hrest

theorem AdmissionInv.tryGrant {cap : Nat} {s : AdmissionState} (h : AdmissionInv cap s) :
    AdmissionInv cap s.tryGrant ∧ WorkConserving cap s.tryGrant :=
  h.grantLoop (Nat.le_refl _)

/-- Being granted changes the flag of a request, and nothing else. -/
theorem get?_tryGrant {s : AdmissionState} {k : Nat} {r' : AdmissionRequest}
    (h : s.tryGrant.requests.get? k = some r') :
    ∃ r, s.requests.get? k = some r ∧ r'.phase = r.phase := by
  have hfold : ∀ (items : List PendingAdmission) (requests : Dict Nat AdmissionRequest)
      (r' : AdmissionRequest),
      (items.foldl (fun requests item ↦ AdmissionState.markGranted item requests) requests).get? k =
        some r' → ∃ r, requests.get? k = some r ∧ r'.phase = r.phase := by
    intro items
    induction items with
    | nil => exact fun _ r' hr' ↦ ⟨r', hr', rfl⟩
    | cons item items ih =>
      intro requests r' hr'
      obtain ⟨r, hr, hphase⟩ := ih _ r' hr'
      obtain ⟨r₀, hr₀, rfl⟩ := Dict.get?_modify_eq_some hr
      refine ⟨r₀, hr₀, hphase.trans ?_⟩
      split <;> rfl
  exact hfold _ _ r' h

/-! ## The steps of a thread -/

/-- **A request moves on**: its `acquire` returns, or its token is released.  What that does to the
counts is up to the step. -/
theorem AdmissionInv.setPhase {cap : Nat} {s : AdmissionState} (h : AdmissionInv cap s) {k : Nat}
    {r : AdmissionRequest} (hr : s.requests.get? k = some r) (phase : AcquirePhase)
    (hphase : phase ≠ .acquiring)
    (hreturned : phase = .admitted ∨ phase = .released → r.granted = true)
    (htimedOut : phase = .timedOut → r.granted = false) {c' : ByocFairAdmissionCoordinator}
    (hcap : c'.maxInflightGlobal = s.coordinator.maxInflightGlobal)
    (hnumber : c'.nextRequestId = s.coordinator.nextRequestId)
    (hpending : c'.pending = s.coordinator.pending.filter fun item ↦ item.requestId ≠ k)
    (htotal : c'.inflightTotal + (if r.holdsSlot then 1 else 0) =
      s.coordinator.inflightTotal + if { r with phase := phase }.holdsSlot then 1 else 0)
    (htenant : ∀ t, (c'.inflightByTenant.get? t).getD 0 +
        (if r.holdsSlot && r.tenantId = t then 1 else 0) =
      (s.coordinator.inflightByTenant.get? t).getD 0 +
        if { r with phase := phase }.holdsSlot && r.tenantId = t then 1 else 0)
    (hsum : c'.inflightByTenant.sum = c'.inflightTotal)
    (hle : c'.inflightTotal ≤ s.coordinator.inflightTotal) :
    AdmissionInv cap
      ⟨c', s.requests.modify k fun r ↦ { r with phase := phase }, s.grants⟩ := by
  have hget {i : Nat} {r' : AdmissionRequest}
      (hr' : (s.requests.modify k fun r ↦ { r with phase := phase }).get? i = some r') :
      ∃ r₀, s.requests.get? i = some r₀ ∧ r' = if i = k then { r₀ with phase := phase } else r₀ :=
    Dict.get?_modify_eq_some hr'
  have hwaits (r : AdmissionRequest) : { r with phase := phase }.waits = false := by
    simp [AdmissionRequest.waits, hphase]
  constructor
  case cap_eq => exact hcap.trans h.cap_eq
  case pending_eq =>
    rw [waitingRequests_modify hwaits, ← h.pending_eq]
    exact hpending
  case numbered => rw [Dict.keys_modify]; exact h.numbered
  case fresh =>
    rw [Dict.keys_modify]
    exact fun i hi ↦ (h.fresh i hi).trans_eq hnumber.symm
  case named =>
    intro i r' hr'
    obtain ⟨r₀, hr₀, rfl⟩ := hget hr'
    have hname := h.named i r₀ hr₀
    split <;> exact hname
  case returned =>
    intro i r' hr' hreturns
    obtain ⟨r₀, hr₀, rfl⟩ := hget hr'
    by_cases hi : i = k
    · rw [if_pos hi] at hreturns ⊢
      rw [hi, hr] at hr₀
      obtain rfl := Option.some.inj hr₀
      exact hreturned hreturns
    · rw [if_neg hi] at hreturns ⊢
      exact h.returned i r₀ hr₀ hreturns
  case timedOut =>
    intro i r' hr' htimed
    obtain ⟨r₀, hr₀, rfl⟩ := hget hr'
    by_cases hi : i = k
    · rw [if_pos hi] at htimed ⊢
      rw [hi, hr] at hr₀
      obtain rfl := Option.some.inj hr₀
      exact htimedOut htimed
    · rw [if_neg hi] at htimed ⊢
      exact h.timedOut i r₀ hr₀ htimed
  case total_eq =>
    have hcount := slotsHeld_modify hr fun r ↦ { r with phase := phase }
    rw [← h.total_eq] at hcount
    exact Nat.add_right_cancel (htotal.trans hcount.symm)
  case tenant_eq =>
    intro t
    have hcount := slotsHeldBy_modify hr (fun r ↦ { r with phase := phase }) t
    rw [← h.tenant_eq t] at hcount
    exact Nat.add_right_cancel ((htenant t).trans hcount.symm)
  case sum_eq => exact hsum
  case total_le => exact hle.trans h.total_le
  case logged =>
    intro item
    rw [h.logged, Dict.get?_modify]
    by_cases hi : item.requestId = k
    · rw [if_pos hi, hi, hr]
      exact ⟨fun ⟨r₀, hr₀, hrest⟩ ↦ ⟨_, rfl, Option.some.inj hr₀ ▸ hrest⟩,
        fun ⟨r', hr', hrest⟩ ↦ ⟨r, rfl, by obtain rfl := Option.some.inj hr'; exact hrest⟩⟩
    · rw [if_neg hi]
  case in_order => exact h.in_order
  case not_overtaken =>
    intro i j ri rj hi hj hlt hsame hgranted
    obtain ⟨ri, hri, rfl⟩ := hget hi
    obtain ⟨rj, hrj, rfl⟩ := hget hj
    have hold : ri.waits = false := by
      refine h.not_overtaken i j ri rj hri hrj hlt ?_ ?_
      · revert hsame
        split <;> split <;> exact id
      · revert hgranted
        split <;> exact id
    split
    · exact hwaits ri
    · exact hold

/-- The request of a new `acquire`. -/
theorem AdmissionInv.enroll {cap : Nat} {s : AdmissionState} (h : AdmissionInv cap s)
    (tenantId : String) :
    AdmissionInv cap
      { s with
        coordinator := (s.coordinator.enroll tenantId).2
        requests := s.requests.setDefault (s.coordinator.nextRequestId + 1)
          { tenantId := normalizedTenant tenantId } } := by
  have hnew : s.coordinator.nextRequestId + 1 ∉ s.requests.keys := fun hmem ↦
    Nat.not_succ_le_self _ (h.fresh _ hmem)
  have hentries := Dict.entries_setDefault hnew
    ({ tenantId := normalizedTenant tenantId } : AdmissionRequest)
  have hkeys : (s.requests.setDefault (s.coordinator.nextRequestId + 1)
      { tenantId := normalizedTenant tenantId }).keys =
        s.requests.keys ++ [s.coordinator.nextRequestId + 1] := by
    rw [Dict.keys, hentries, List.map_append]
    rfl
  have hkeep {i : Nat} {r : AdmissionRequest} (hr : s.requests.get? i = some r) :
      (s.requests.setDefault (s.coordinator.nextRequestId + 1)
        { tenantId := normalizedTenant tenantId }).get? i = some r := by
    rw [Dict.get?_setDefault, if_neg, hr]
    rintro rfl
    exact hnew (Dict.mem_keys_iff.mpr ⟨r, hr⟩)
  have hget {i : Nat} {r : AdmissionRequest}
      (hr : (s.requests.setDefault (s.coordinator.nextRequestId + 1)
        { tenantId := normalizedTenant tenantId }).get? i = some r) :
      s.requests.get? i = some r ∨
        i = s.coordinator.nextRequestId + 1 ∧ r = { tenantId := normalizedTenant tenantId } := by
    rw [Dict.get?_setDefault] at hr
    split at hr
    · rename_i hi
      rw [hi, Dict.get?_eq_none_iff.mpr hnew] at hr
      exact .inr ⟨hi, (Option.some.inj hr).symm⟩
    · exact .inl hr
  constructor
  case cap_eq => exact h.cap_eq
  case pending_eq =>
    rw [waitingRequests_setDefault hnew, ← h.pending_eq]
    rfl
  case numbered =>
    rw [hkeys, List.pairwise_append]
    refine ⟨h.numbered, List.pairwise_singleton .., fun i hi j hj ↦ ?_⟩
    obtain rfl := List.mem_singleton.mp hj
    exact Nat.lt_succ_of_le (h.fresh i hi)
  case fresh =>
    rw [hkeys]
    intro i hi
    rcases List.mem_append.mp hi with hi | hi
    · exact Nat.le_succ_of_le (h.fresh i hi)
    · exact (List.mem_singleton.mp hi).le
  case named =>
    intro i r hr
    rcases hget hr with hr | ⟨-, rfl⟩
    · exact h.named i r hr
    · exact normalizedTenant_normalizedTenant tenantId
  case returned =>
    intro i r hr hreturned
    rcases hget hr with hr | ⟨-, rfl⟩
    · exact h.returned i r hr hreturned
    · rcases hreturned with hdone | hdone
      · cases hdone
      · cases hdone
  case timedOut =>
    intro i r hr htimed
    rcases hget hr with hr | ⟨-, rfl⟩
    · exact h.timedOut i r hr htimed
    · rfl
  case total_eq =>
    rw [slotsHeld, hentries, List.countP_append]
    exact h.total_eq
  case tenant_eq =>
    intro t
    rw [slotsHeldBy, hentries, List.countP_append]
    exact h.tenant_eq t
  case sum_eq => exact h.sum_eq
  case total_le => exact h.total_le
  case logged =>
    intro item
    rw [h.logged]
    constructor
    · rintro ⟨r, hr, hrest⟩
      exact ⟨r, hkeep hr, hrest⟩
    · rintro ⟨r, hr, hgranted, hrest⟩
      rcases hget hr with hr | ⟨-, rfl⟩
      · exact ⟨r, hr, hgranted, hrest⟩
      · cases hgranted
  case in_order => exact h.in_order
  case not_overtaken =>
    intro i j ri rj hi hj hlt hsame hgranted
    rcases hget hj with hj | ⟨-, rfl⟩
    · rcases hget hi with hi | ⟨rfl, -⟩
      · exact h.not_overtaken i j ri rj hi hj hlt hsame hgranted
      · exact absurd hlt (Nat.not_lt.mpr
          (Nat.le_succ_of_le (h.fresh j (Dict.mem_keys_iff.mpr ⟨rj, hj⟩))))
    · cases hgranted

/-- **One turn of the loop of `acquire`.** -/
theorem AdmissionInv.acquireTurn {cap : Nat} {s : AdmissionState} (h : AdmissionInv cap s)
    {k : Nat} (hk : ∀ r, s.requests.get? k = some r → r.phase = .acquiring)
    (deadlinePassed : Bool) :
    AdmissionInv cap (s.acquireTurn k deadlinePassed).2 ∧
      WorkConserving cap (s.acquireTurn k deadlinePassed).2 := by
  obtain ⟨hinv, hwork⟩ := h.tryGrant
  rw [AdmissionState.acquireTurn]
  cases hr : s.tryGrant.requests.get? k with
  | none => exact ⟨hinv, hwork⟩
  | some r =>
    have hphase : r.phase = .acquiring := by
      obtain ⟨r₀, hr₀, hphase⟩ := get?_tryGrant hr
      exact hphase.trans (hk r₀ hr₀)
    simp only
    split
    · rename_i hgranted
      refine ⟨hinv.setPhase hr .admitted nofun (fun _ ↦ hgranted) nofun rfl rfl
        (hinv.not_pending_of_granted hr hgranted) ?_ (fun t ↦ ?_) hinv.sum_eq (Nat.le_refl _), hwork⟩
      · simp [AdmissionRequest.holdsSlot, hphase]
      · simp [AdmissionRequest.holdsSlot, hphase]
    · rename_i hgranted
      split
      · refine ⟨hinv.setPhase hr .timedOut nofun (·.elim nofun nofun)
          (fun _ ↦ Bool.eq_false_iff.mpr hgranted) rfl rfl rfl ?_ (fun t ↦ ?_) hinv.sum_eq
          (Nat.le_refl _), fun hne ↦ hwork fun hempty ↦ hne ?_⟩
        · simp [AdmissionRequest.holdsSlot, hgranted, ByocFairAdmissionCoordinator.withdraw]
        · simp [AdmissionRequest.holdsSlot, hgranted, ByocFairAdmissionCoordinator.withdraw]
        · simp [ByocFairAdmissionCoordinator.withdraw, hempty]
      · exact ⟨hinv, hwork⟩

/-- **A release.** -/
theorem AdmissionInv.release {cap : Nat} {s : AdmissionState} (h : AdmissionInv cap s)
    {token : FairAdmissionToken} {r : AdmissionRequest}
    (hr : s.requests.get? token.requestId = some r) (hadmitted : r.phase = .admitted)
    (htenant : r.tenantId = token.tenantId) :
    AdmissionInv cap
      { s with
        coordinator := s.coordinator.giveBack token
        requests := s.requests.modify token.requestId fun r ↦ { r with phase := .released } } := by
  have hgranted : r.granted = true := h.returned _ r hr (.inl hadmitted)
  have hholds : r.holdsSlot = true := by simp [AdmissionRequest.holdsSlot, hgranted, hadmitted]
  have hgone : { r with phase := .released }.holdsSlot = false := by
    simp [AdmissionRequest.holdsSlot]
  obtain ⟨htotal, hactive⟩ := h.counted hr hholds
  have hname : normalizedTenant token.tenantId = r.tenantId := by
    rw [← htenant, h.named _ r hr]
  refine h.setPhase hr .released nofun (fun _ ↦ hgranted) nofun rfl rfl
    (h.not_pending_of_granted hr hgranted) ?_ (fun t ↦ ?_) ?_ ?_
  · rw [hholds, hgone, ByocFairAdmissionCoordinator.giveBack, if_pos htotal]
    exact Nat.succ_pred_eq_of_pos htotal
  · rw [hholds, hgone]
    simp only [ByocFairAdmissionCoordinator.giveBack, hname, Bool.true_and, Bool.false_and,
      Bool.false_eq_true, if_false, decide_eq_true_eq]
    split
    · rename_i hlast
      rw [Dict.get?_erase]
      by_cases ht : t = r.tenantId
      · rw [ht] at *
        rw [if_pos rfl, if_pos rfl]
        exact Nat.le_antisymm hactive hlast
      · rw [if_neg ht, if_neg (Ne.symm ht)]
    · rw [Dict.get?_set]
      by_cases ht : t = r.tenantId
      · rw [ht, if_pos rfl, if_pos rfl]
        exact Nat.succ_pred_eq_of_pos hactive
      · rw [if_neg ht, if_neg (Ne.symm ht)]
  · have herase := s.coordinator.inflightByTenant.sum_erase r.tenantId
    have hset := s.coordinator.inflightByTenant.sum_set r.tenantId
      ((s.coordinator.inflightByTenant.get? r.tenantId).getD 0 - 1)
    have hsum := h.sum_eq
    simp only [ByocFairAdmissionCoordinator.giveBack, hname, if_pos htotal]
    split <;> omega
  · simp only [ByocFairAdmissionCoordinator.giveBack, if_pos htotal]
    exact Nat.sub_le _ _

/-! ## Runs -/

/-- A token may be released while it is admitted: once, by the one who got it. -/
def ReleasesOnce (s : AdmissionState) (e : AdmissionEvent) : Prop :=
  match e with
  | .release token => ∃ r, s.requests.get? token.requestId = some r ∧ r.phase = .admitted ∧
      r.tenantId = token.tenantId
  | _ => True

instance (s : AdmissionState) (e : AdmissionEvent) : Decidable (ReleasesOnce s e) :=
  match e with
  | .release token =>
    decidable_of_iff (∃ r ∈ s.requests.get? token.requestId, r.phase = .admitted ∧
      r.tenantId = token.tenantId) Iff.rfl
  | .acquire _ _ | .wake _ _ => isTrue trivial

/-- **What holds between any two steps**, of a coordinator with so many slots. -/
structure FairlyAdmits (cap : Nat) (s : AdmissionState) : Prop where
  /-- `_inflight_total` counts the requests that were granted and not released. -/
  total_eq_held : s.coordinator.inflightTotal =
    s.requests.entries.countP fun e ↦ e.2.granted && e.2.phase ≠ .released
  /-- It is the sum of `_inflight_by_tenant`. -/
  total_eq_sum : s.coordinator.inflightTotal = s.coordinator.inflightByTenant.sum
  total_le : s.coordinator.inflightTotal ≤ cap
  /-- Nobody waits while a slot is free. -/
  work_conserving : s.coordinator.pending ≠ [] → s.coordinator.inflightTotal = cap
  /-- A request that gave up neither waits nor holds a slot. -/
  timedOut_gone : ∀ k r, s.requests.get? k = some r → r.phase = .timedOut →
    (∀ item ∈ s.coordinator.pending, item.requestId ≠ k) ∧ r.granted = false
  /-- The log has the granted requests. -/
  logged : ∀ k, (∃ item ∈ s.grants, item.requestId = k) ↔
    ∃ r, s.requests.get? k = some r ∧ r.granted = true
  /-- The requests of a tenant were granted in the order in which they were made. -/
  in_order : ∀ t, (s.grants.filter fun item ↦ item.tenantId = t).Pairwise
    fun a b ↦ a.requestId < b.requestId
  /-- A request is only granted when the older ones of its tenant were, or gave up. -/
  not_overtaken : ∀ i j r r', s.requests.get? i = some r → s.requests.get? j = some r' → i < j →
    r.tenantId = r'.tenantId → r'.granted = true → r.granted = true ∨ r.phase = .timedOut

theorem AdmissionInv.fairlyAdmits {cap : Nat} {s : AdmissionState} (h : AdmissionInv cap s)
    (hwork : WorkConserving cap s) : FairlyAdmits cap s where
  total_eq_held := h.total_eq
  total_eq_sum := h.sum_eq.symm
  total_le := h.total_le
  work_conserving := hwork
  timedOut_gone := by
    refine fun k r hr htimed ↦ ⟨fun item hitem hk ↦ ?_, h.timedOut k r hr htimed⟩
    rw [h.pending_eq, mem_waitingRequests, hk, hr] at hitem
    obtain ⟨r', hr', hwaits, -⟩ := hitem
    obtain rfl := Option.some.inj hr'
    simp [AdmissionRequest.waits, htimed] at hwaits
  logged := by
    intro k
    constructor
    · rintro ⟨item, hitem, rfl⟩
      obtain ⟨r, hr, hgranted, -⟩ := (h.logged item).mp hitem
      exact ⟨r, hr, hgranted⟩
    · rintro ⟨r, hr, hgranted⟩
      exact ⟨⟨r.tenantId, k⟩, (h.logged _).mpr ⟨r, hr, hgranted, rfl⟩, rfl⟩
  in_order := h.in_order
  not_overtaken := by
    intro i j r r' hr hr' hlt hsame hgranted
    have hwaits := h.not_overtaken i j r r' hr hr' hlt hsame hgranted
    cases hphase : r.phase with
    | acquiring => exact .inl (by simpa [AdmissionRequest.waits, hphase] using hwaits)
    | admitted => exact .inl (h.returned i r hr (.inl hphase))
    | timedOut => exact .inr rfl
    | released => exact .inl (h.returned i r hr (.inr hphase))

/-- **One step of one thread.** -/
theorem AdmissionInv.step {cap : Nat} {s : AdmissionState} (h : AdmissionInv cap s)
    (hwork : WorkConserving cap s) {e : AdmissionEvent} (hok : ReleasesOnce s e) :
    AdmissionInv cap (s.step e).2 ∧ WorkConserving cap (s.step e).2 := by
  cases e with
  | acquire tenantId deadlinePassed =>
    refine (h.enroll tenantId).acquireTurn (fun r hr ↦ ?_) deadlinePassed
    have hnew : s.requests.get? (s.coordinator.nextRequestId + 1) = none :=
      Dict.get?_eq_none_iff.mpr fun hmem ↦ Nat.not_succ_le_self _ (h.fresh _ hmem)
    simp only [ByocFairAdmissionCoordinator.enroll, Dict.get?_setDefault, if_true, hnew,
      Option.getD_none] at hr
    rw [← Option.some.inj hr]
  | wake requestId deadlinePassed =>
    simp only [AdmissionState.step]
    split
    · exact ⟨h, hwork⟩
    · rename_i request hrequest
      split
      · rename_i hphase
        exact h.acquireTurn (fun r hr ↦ Option.some.inj (hrequest.symm.trans hr) ▸ hphase)
          deadlinePassed
      · exact ⟨h, hwork⟩
  | release token =>
    obtain ⟨r, hr, hadmitted, htenant⟩ := hok
    exact (h.release hr hadmitted htenant).tryGrant

/-- **Fair admission**, whatever the schedule of requests, waits, timeouts and releases. -/
theorem fairlyAdmits_run (maxInflightGlobal : Int) (events : List AdmissionEvent)
    (hok : Run.Along AdmissionState.step ReleasesOnce (.init maxInflightGlobal) events) :
    FairlyAdmits (max maxInflightGlobal 1).toNat
      (Run.exec AdmissionState.step (.init maxInflightGlobal) events) := by
  have hrun := Run.exec_invariant
    (P := fun s ↦ AdmissionInv (max maxInflightGlobal 1).toNat s ∧
      WorkConserving (max maxInflightGlobal 1).toNat s)
    (fun s e hok hs ↦ hs.1.step hs.2 hok) hok ⟨.init maxInflightGlobal, fun hne ↦ absurd rfl hne⟩
  exact hrun.1.fairlyAdmits hrun.2

/-- One slot: the second request waits until the first one's token is released, is granted by that
release, and a third one gives up. -/
theorem fairlyAdmits_run_one_slot :
    FairlyAdmits 1 (Run.exec AdmissionState.step (.init 1)
      [.acquire "t" false, .acquire "t" false, .acquire "u" false, .release ⟨"t", 1⟩,
        .wake 3 true, .wake 2 false]) :=
  fairlyAdmits_run 1 _ (by decide)

end Policies
end ExoBrain
