import ExoBrain.Policies.FairAdmission

/-!
# Fair admission over a shared database

`SQLiteByocFairAdmissionCoordinator` (`byoc_fairness.py`) is for runtimes in several processes: the
slots are rows of a table that they share.  A process that dies must not keep its slots, so a slot
has a lease, and every access to the table begins by deleting the slots that were released or whose
lease has run out.  The runtime makes the lease as long as that of a worker's claim
(`lease_ttl_seconds`), while `execute` holds its slot for as long as the tool may take.

So the bound is one on slots, not on calls.  `SharedAdmission` has both, the table and the calls of
`execute` that are inside; `LeasesLast` says that no access finds the slot of a call that is inside
run out, and `inside_le_cap` that the bound then is one on calls as well.

All times are those of `int(time.time())`, which every access reads for itself.
-/

set_option autoImplicit false

namespace ExoBrain
namespace Policies

/-! ## The table -/

/-- A row of `byoc_fair_admission_slots`. -/
structure AdmissionSlot where
  slotId : Nat
  tenantId : String
  acquiredAtEpoch : Int
  expiresAtEpoch : Int
  released : Bool := false
deriving DecidableEq, Repr

/-- The table, and the last number that `AUTOINCREMENT` gave away. -/
structure AdmissionTable where
  slots : List AdmissionSlot := []
  lastSlotId : Nat := 0
deriving DecidableEq, Repr

/-- `SQLiteByocFairAdmissionCoordinator`, without the path of the database. -/
structure SQLiteByocFairAdmissionCoordinator where
  maxInflightGlobal : Nat
  leaseSeconds : Int
deriving DecidableEq, Repr

/-- `__init__`. -/
def SQLiteByocFairAdmissionCoordinator.init (maxInflightGlobal leaseSeconds : Int) :
    SQLiteByocFairAdmissionCoordinator :=
  ⟨(max maxInflightGlobal 1).toNat, max leaseSeconds 1⟩

namespace AdmissionTable

/-- `_cleanup_expired`. -/
def cleanupExpired (now : Int) (t : AdmissionTable) : AdmissionTable :=
  { t with slots := t.slots.filter fun slot ↦ !(slot.released || slot.expiresAtEpoch ≤ now) }

/-- `SELECT COUNT(*) .. WHERE released = 0`. -/
def inflight (t : AdmissionTable) : Nat := t.slots.countP fun slot ↦ !slot.released

/-- One turn of the loop of `acquire`, which is one transaction. -/
def tryAcquire (c : SQLiteByocFairAdmissionCoordinator) (tenantId : String) (now : Int)
    (t : AdmissionTable) : Option FairAdmissionToken × AdmissionTable :=
  let t := t.cleanupExpired now
  if t.inflight < c.maxInflightGlobal then
    let slot : AdmissionSlot :=
      { slotId := t.lastSlotId + 1
        tenantId := normalizedTenant tenantId
        acquiredAtEpoch := now
        expiresAtEpoch := now + c.leaseSeconds }
    (some ⟨normalizedTenant tenantId, slot.slotId⟩, ⟨t.slots ++ [slot], slot.slotId⟩)
  else (none, t)

/-- `release`. -/
def release (token : FairAdmissionToken) (now : Int) (t : AdmissionTable) : AdmissionTable :=
  cleanupExpired now
    { t with
      slots := t.slots.map fun slot ↦
        if slot.slotId = token.requestId then { slot with released := true } else slot }

end AdmissionTable

/-! ## The calls of `execute` -/

/-- The table, and the calls of `execute` that were admitted and have not left, with their
tokens. -/
structure SharedAdmission where
  table : AdmissionTable
  inside : Dict Nat FairAdmissionToken

/-- An access to the table by one of the runtimes, or the end of a call that does without. -/
inductive SharedAdmissionEvent
  /-- One turn of `acquire`, in a call of `execute` of a runtime with this `lease_ttl_seconds`. -/
  | acquire (call : Nat) (tenantId : String) (leaseTtlSeconds : Int) (now : Int)
  /-- The `finally` of `execute`: the token is released, and the call leaves. -/
  | leave (call : Nat) (now : Int)
  /-- `execute` raises between `acquire` and its `try`: the call leaves, and its token is lost. -/
  | raise (call : Nat)
  /-- `stats`. -/
  | stats (now : Int)
deriving DecidableEq, Repr

namespace SharedAdmission

/-- An empty table and no calls. -/
def init : SharedAdmission := ⟨{}, Dict.empty⟩

/-- One step of the runtimes that share the table.  They agree on `maxInflightGlobal`; the lease of
a slot is the runtime's own, `lease_seconds = max(self._lease_ttl_seconds, 1)`. -/
def step (maxInflightGlobal : Int) (s : SharedAdmission) (e : SharedAdmissionEvent) :
    Option FairAdmissionToken × SharedAdmission :=
  match e with
  | .acquire call tenantId leaseTtlSeconds now =>
    if call ∈ s.inside.keys then (none, s)
    else
      let acquired := s.table.tryAcquire (.init maxInflightGlobal (max leaseTtlSeconds 1)) tenantId now
      (acquired.1,
        ⟨acquired.2,
          match acquired.1 with
          | some token => s.inside.setDefault call token
          | none => s.inside⟩)
  | .leave call now =>
    match s.inside.get? call with
    | none => (none, s)
    | some token => (none, ⟨s.table.release token now, s.inside.erase call⟩)
  | .raise call => (none, { s with inside := s.inside.erase call })
  | .stats now => (none, { s with table := s.table.cleanupExpired now })

/-- The clock reading of an access, and the call that is about to leave. -/
def access (e : SharedAdmissionEvent) : Option (Int × Option Nat) :=
  match e with
  | .acquire _ _ _ now => some (now, none)
  | .leave call now => some (now, some call)
  | .raise _ => none
  | .stats now => some (now, none)

/-- An access to the table finds no slot run out whose call is inside, unless it is the one that
leaves. -/
def LeasesLast (s : SharedAdmission) (e : SharedAdmissionEvent) : Prop :=
  ∀ a ∈ access e, ∀ entry ∈ s.inside.entries, some entry.1 ≠ a.2 →
    ∀ slot ∈ s.table.slots, slot.slotId = entry.2.requestId → a.1 < slot.expiresAtEpoch

instance (s : SharedAdmission) (e : SharedAdmissionEvent) : Decidable (LeasesLast s e) :=
  inferInstanceAs (Decidable (∀ a ∈ access e, ∀ entry ∈ s.inside.entries, some entry.1 ≠ a.2 →
    ∀ slot ∈ s.table.slots, slot.slotId = entry.2.requestId → a.1 < slot.expiresAtEpoch))

/-! ## The invariant -/

/-- **Every call that is inside has a slot of its own**, and there are no more slots than the
bound. -/
structure Covered (cap : Nat) (s : SharedAdmission) : Prop where
  inflight_le : s.table.inflight ≤ cap
  fresh_slot : ∀ slot ∈ s.table.slots, slot.slotId ≤ s.table.lastSlotId
  fresh_token : ∀ entry ∈ s.inside.entries, entry.2.requestId ≤ s.table.lastSlotId
  nodup : (s.inside.entries.map fun entry ↦ entry.2.requestId).Nodup
  covered : ∀ entry ∈ s.inside.entries,
    ∃ slot ∈ s.table.slots, slot.released = false ∧ slot.slotId = entry.2.requestId

theorem Covered.inside_le {cap : Nat} {s : SharedAdmission} (h : Covered cap s) :
    s.inside.entries.length ≤ cap := by
  have hsub : (s.inside.entries.map fun entry ↦ entry.2.requestId) ⊆
      (s.table.slots.filter fun slot ↦ !slot.released).map AdmissionSlot.slotId := by
    intro k hk
    obtain ⟨entry, hentry, rfl⟩ := List.mem_map.mp hk
    obtain ⟨slot, hslot, hheld, hid⟩ := h.covered entry hentry
    exact List.mem_map.mpr ⟨slot, List.mem_filter.mpr ⟨hslot, by simp [hheld]⟩, hid⟩
  have hle := (List.subperm_of_subset h.nodup hsub).length_le
  rw [List.length_map, List.length_map, ← List.countP_eq_length_filter] at hle
  exact hle.trans h.inflight_le

/-- A call that leaves takes nothing from the others. -/
theorem Covered.sublist {cap : Nat} {t : AdmissionTable} {inside inside' : Dict Nat FairAdmissionToken}
    (h : Covered cap ⟨t, inside⟩) (hsub : inside'.entries.Sublist inside.entries) :
    Covered cap ⟨t, inside'⟩ where
  inflight_le := h.inflight_le
  fresh_slot := h.fresh_slot
  fresh_token := fun entry hentry ↦ h.fresh_token entry (hsub.subset hentry)
  nodup := h.nodup.sublist (hsub.map _)
  covered := fun entry hentry ↦ h.covered entry (hsub.subset hentry)

/-- Deleting slots keeps the calls covered whose leases last. -/
theorem Covered.cleanupExpired {cap : Nat} {t : AdmissionTable} {inside : Dict Nat FairAdmissionToken}
    (h : Covered cap ⟨t, inside⟩) {now : Int}
    (hlast : ∀ entry ∈ inside.entries, ∀ slot ∈ t.slots, slot.slotId = entry.2.requestId →
      now < slot.expiresAtEpoch) : Covered cap ⟨t.cleanupExpired now, inside⟩ where
  inflight_le := (List.filter_sublist.countP_le).trans h.inflight_le
  fresh_slot := fun slot hslot ↦ h.fresh_slot slot (List.mem_of_mem_filter hslot)
  fresh_token := h.fresh_token
  nodup := h.nodup
  covered := by
    intro entry hentry
    obtain ⟨slot, hslot, hheld, hid⟩ := h.covered entry hentry
    have hkept := hlast entry hentry slot hslot hid
    refine ⟨slot, List.mem_filter.mpr ⟨hslot, ?_⟩, hheld, hid⟩
    simp [hheld, hkept]

/-- A new slot covers the call that got it. -/
theorem Covered.acquire {cap : Nat} {t : AdmissionTable} {inside : Dict Nat FairAdmissionToken}
    (h : Covered cap ⟨t, inside⟩) (hfree : t.inflight < cap) {call : Nat} (hnew : call ∉ inside.keys)
    {slot : AdmissionSlot} (hslot : slot.slotId = t.lastSlotId + 1) (hheld : slot.released = false)
    (tenantId : String) :
    Covered cap ⟨⟨t.slots ++ [slot], slot.slotId⟩, inside.setDefault call ⟨tenantId, slot.slotId⟩⟩ where
  inflight_le := by
    rw [AdmissionTable.inflight, List.countP_append, List.countP_singleton, hheld]
    exact hfree
  fresh_slot := by
    intro other hother
    rcases List.mem_append.mp hother with hold | hlast
    · exact (h.fresh_slot other hold).trans (hslot ▸ Nat.le_succ _)
    · exact (congrArg AdmissionSlot.slotId (List.mem_singleton.mp hlast)).le
  fresh_token := by
    rw [Dict.entries_setDefault hnew]
    intro entry hentry
    rcases List.mem_append.mp hentry with hold | hlast
    · exact (h.fresh_token entry hold).trans (hslot ▸ Nat.le_succ _)
    · rw [List.mem_singleton.mp hlast]
  nodup := by
    rw [Dict.entries_setDefault hnew, List.map_append, List.nodup_append]
    refine ⟨h.nodup, List.nodup_singleton _, fun k hk k' hk' ↦ ?_⟩
    obtain ⟨entry, hentry, rfl⟩ := List.mem_map.mp hk
    obtain rfl := List.mem_singleton.mp hk'
    have hold := h.fresh_token entry hentry
    simp only at hold ⊢
    omega
  covered := by
    rw [Dict.entries_setDefault hnew]
    intro entry hentry
    rcases List.mem_append.mp hentry with hold | hlast
    · obtain ⟨other, hother, hrest⟩ := h.covered entry hold
      exact ⟨other, List.mem_append_left _ hother, hrest⟩
    · refine ⟨slot, List.mem_append_right _ List.mem_cons_self, hheld, ?_⟩
      rw [List.mem_singleton.mp hlast]

/-- A release takes the slot of its own call. -/
theorem Covered.release {cap : Nat} {t : AdmissionTable} {inside : Dict Nat FairAdmissionToken}
    (h : Covered cap ⟨t, inside⟩) {call : Nat} {token : FairAdmissionToken}
    (hcall : inside.get? call = some token) :
    Covered cap
      ⟨{ t with
          slots := t.slots.map fun slot ↦
            if slot.slotId = token.requestId then { slot with released := true } else slot },
        inside.erase call⟩ := by
  obtain ⟨before, after, hsplit, -, herase⟩ := Dict.entries_split hcall
  have hother : ∀ entry ∈ before ++ after, entry.2.requestId ≠ token.requestId := by
    have hnodup := h.nodup
    rw [hsplit, List.map_append, List.map_cons, List.nodup_middle, List.nodup_cons,
      ← List.map_append] at hnodup
    exact fun entry hentry heq ↦ hnodup.1 (List.mem_map.mpr ⟨entry, hentry, heq⟩)
  have hsub : (inside.erase call).entries.Sublist inside.entries := List.filter_sublist
  have hrest := h.sublist hsub
  constructor
  case inflight_le =>
    refine (?_ : _ ≤ t.inflight).trans h.inflight_le
    rw [AdmissionTable.inflight, List.countP_map]
    refine List.countP_mono_left fun slot _ hheld ↦ ?_
    rw [Function.comp_apply] at hheld
    split at hheld
    · exact absurd hheld Bool.false_ne_true
    · exact hheld
  case fresh_slot =>
    intro slot hslot
    obtain ⟨old, hold, rfl⟩ := List.mem_map.mp hslot
    have hfresh := h.fresh_slot old hold
    split <;> exact hfresh
  case fresh_token => exact hrest.fresh_token
  case nodup => exact hrest.nodup
  case covered =>
    intro entry hentry
    obtain ⟨slot, hslot, hheld, hid⟩ := hrest.covered entry hentry
    rw [herase] at hentry
    refine ⟨slot, List.mem_map.mpr ⟨slot, hslot, if_neg ?_⟩, hheld, hid⟩
    exact hid ▸ hother entry hentry

/-- **One step of the runtimes.** -/
theorem Covered.step {maxInflightGlobal : Int} {s : SharedAdmission}
    (h : Covered (max maxInflightGlobal 1).toNat s) {e : SharedAdmissionEvent}
    (hlast : LeasesLast s e) :
    Covered (max maxInflightGlobal 1).toNat (s.step maxInflightGlobal e).2 := by
  obtain ⟨t, inside⟩ := s
  cases e with
  | acquire call tenantId leaseTtlSeconds now =>
    simp only [SharedAdmission.step]
    split
    · exact h
    · rename_i hnew
      have hclean := h.cleanupExpired fun entry hentry slot hslot hid ↦
        hlast (now, none) rfl entry hentry nofun slot hslot hid
      simp only [AdmissionTable.tryAcquire]
      split
      · rename_i hfree
        exact hclean.acquire hfree hnew rfl rfl _
      · exact hclean
  | leave call now =>
    simp only [SharedAdmission.step]
    split
    · exact h
    · rename_i token hcall
      refine (h.release hcall).cleanupExpired fun entry hentry slot hslot hid ↦ ?_
      obtain ⟨hmem, hne⟩ := List.mem_filter.mp hentry
      obtain ⟨old, hold, rfl⟩ := List.mem_map.mp hslot
      have hkept := hlast (now, some call) rfl entry hmem
        (fun heq ↦ of_decide_eq_true hne (Option.some.inj heq)) old hold
      split at hid <;> split <;> exact hkept hid
  | raise call => exact h.sublist List.filter_sublist
  | stats now =>
    exact h.cleanupExpired fun entry hentry slot hslot hid ↦
      hlast (now, none) rfl entry hentry nofun slot hslot hid

/-- **The bound of the shared slots.**  In every run of the runtimes in which no access finds the
slot of a call inside run out, no more calls are inside than there are slots. -/
theorem inside_le_cap (maxInflightGlobal : Int) (events : List SharedAdmissionEvent)
    (hlast : Run.Along (step maxInflightGlobal) LeasesLast init events) :
    (Run.exec (step maxInflightGlobal) init events).inside.entries.length ≤
      (max maxInflightGlobal 1).toNat := by
  have hinit : Covered (max maxInflightGlobal 1).toNat init :=
    ⟨Nat.zero_le _, fun _ h ↦ absurd h List.not_mem_nil, fun _ h ↦ absurd h List.not_mem_nil,
      List.nodup_nil, fun _ h ↦ absurd h List.not_mem_nil⟩
  exact (Run.exec_invariant (fun _ _ hlast h ↦ h.step hlast) hlast hinit).inside_le

/-- Two calls that take a second each, one after the other, and one that has to wait. -/
theorem inside_le_cap_short_calls :
    (Run.exec (step 1) init [.acquire 0 "t" 30 0, .acquire 1 "u" 30 0, .leave 0 1,
      .acquire 1 "u" 30 1, .stats 2]).inside.entries.length ≤ 1 :=
  inside_le_cap 1 _ (by decide)

/-- A tool that takes longer than the lease of its slot: after thirty seconds the next call is
admitted while the first one is still inside. -/
theorem inside_exceeds_cap :
    ¬∀ events, (Run.exec (step 1) init events).inside.entries.length ≤ (max (1 : Int) 1).toNat := by
  intro h
  exact absurd (h [.acquire 0 "t" 30 0, .acquire 1 "u" 30 30]) (by decide)

end SharedAdmission

end Policies
end ExoBrain
