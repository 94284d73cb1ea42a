import Mathlib.Data.List.Sort
import ExoBrain.Lib.Dict
import ExoBrain.Lib.Run
import ExoBrain.Lib.Text

/-!
# Fair admission

`ByocFairAdmissionCoordinator` (`byoc_fairness.py`) hands out a bounded number of slots.  An
`acquire` puts a request at the end of `_pending` and waits; a slot goes to the tenant who got the
fewest so far, and among the requests of that tenant to the oldest.  The loop that hands out slots,
`_try_grant_unlocked`, is run by whoever comes by: a new request, a waiter that woke up, a release.
So a thread is mostly granted by another one, and learns of it when it wakes up.

* `ByocFairAdmissionCoordinator` is the object, with the code that runs under its lock.
* `AdmissionState` adds the requests that threads hold on to.  A `_PendingAdmission` is shared by
  the list and by the thread that waits for it; its flag `granted` is kept with the thread here.
* `AdmissionEvent` and `AdmissionState.step` are the schedule: what a thread does between taking
  the lock and letting go of it is one step.  Which thread wakes when, and whether its deadline has
  passed by then, is left open.
-/

set_option autoImplicit false

namespace ExoBrain
namespace Policies

open Text

/-- `FairAdmissionToken`. -/
structure FairAdmissionToken where
  tenantId : String
  requestId : Nat
deriving DecidableEq, Repr

/-- `_PendingAdmission`, without its flag. -/
structure PendingAdmission where
  tenantId : String
  requestId : Nat
deriving DecidableEq, Repr

/-- `str(tenant_id).strip() or "default"`. -/
def normalizedTenant (tenantId : String) : String :=
  if strip tenantId = "" then "default" else strip tenantId

/-! ## Whose turn it is -/

/-- `first_seq`: the oldest request of every tenant. -/
def firstSeq (pending : List PendingAdmission) : Dict String Nat :=
  pending.foldl (fun seqs item ↦ seqs.setDefault item.tenantId item.requestId) Dict.empty

/-- The tenants' sort key: grants so far, oldest request, name. -/
def TenantLe (grantsTotal seqs : Dict String Nat) (a b : String) : Prop :=
  let grants := fun t ↦ (grantsTotal.get? t).getD 0
  let seq := fun t ↦ (seqs.get? t).getD 0
  grants a < grants b ∨ grants a = grants b ∧ (seq a < seq b ∨ seq a = seq b ∧ a ≤ b)

instance (grantsTotal seqs : Dict String Nat) : DecidableRel (TenantLe grantsTotal seqs) :=
  fun _ _ ↦ inferInstanceAs (Decidable (_ ∨ _ ∧ (_ ∨ _ ∧ _)))

/-- `_pick_next_tenant`. -/
def pickNextTenant (pending : List PendingAdmission) (grantsTotal : Dict String Nat) :
    Option String :=
  let seqs := firstSeq pending
  (seqs.keys.insertionSort (TenantLe grantsTotal seqs)).head?

/-! ## The coordinator -/

/-- `ByocFairAdmissionCoordinator`. -/
structure ByocFairAdmissionCoordinator where
  maxInflightGlobal : Nat
  nextRequestId : Nat
  pending : List PendingAdmission
  inflightByTenant : Dict String Nat
  grantsTotal : Dict String Nat
  inflightTotal : Nat

namespace ByocFairAdmissionCoordinator

/-- `__init__`. -/
def init (maxInflightGlobal : Int) : ByocFairAdmissionCoordinator :=
  ⟨(max maxInflightGlobal 1).toNat, 0, [], Dict.empty, Dict.empty, 0⟩

/-- One turn of the loop of `_try_grant_unlocked`: the request that is granted.  `none` when the
loop ends. -/
def grantNext (c : ByocFairAdmissionCoordinator) :
    Option (PendingAdmission × ByocFairAdmissionCoordinator) :=
  if c.inflightTotal < c.maxInflightGlobal then
    match pickNextTenant c.pending c.grantsTotal with
    | none => none
    | some nextTenant =>
      if nextTenant = "" then none
      else
        match c.pending.find? fun item ↦ item.tenantId = nextTenant with
        | none => none
        | some item =>
          some (item,
            { c with
              pending := c.pending.eraseP fun item ↦ item.tenantId = nextTenant
              inflightTotal := c.inflightTotal + 1
              inflightByTenant := c.inflightByTenant.increment nextTenant
              grantsTotal := c.grantsTotal.increment nextTenant })
  else none

/-- The loop, for so many turns at most. -/
def grantLoop : Nat → ByocFairAdmissionCoordinator →
    List PendingAdmission × ByocFairAdmissionCoordinator
  | 0, c => ([], c)
  | turns + 1, c =>
    match c.grantNext with
    | none => ([], c)
    | some (item, c) =>
      let rest := grantLoop turns c
      (item :: rest.1, rest.2)

/-- `_try_grant_unlocked`: the requests whose flag it sets.  Every turn takes a request off the
list, so there are no more turns than requests. -/
def tryGrantUnlocked (c : ByocFairAdmissionCoordinator) :
    List PendingAdmission × ByocFairAdmissionCoordinator :=
  grantLoop c.pending.length c

/-- `acquire` puts a new request at the end of the list. -/
def enroll (tenantId : String) (c : ByocFairAdmissionCoordinator) :
    PendingAdmission × ByocFairAdmissionCoordinator :=
  let request := ⟨normalizedTenant tenantId, c.nextRequestId + 1⟩
  (request,
    { c with nextRequestId := c.nextRequestId + 1, pending := c.pending ++ [request] })

/-- `acquire` gives up: it takes its request off the list. -/
def withdraw (requestId : Nat) (c : ByocFairAdmissionCoordinator) : ByocFairAdmissionCoordinator :=
  { c with pending := c.pending.filter fun item ↦ item.requestId ≠ requestId }

/-- `release`, before it hands the slot on. -/
def giveBack (token : FairAdmissionToken) (c : ByocFairAdmissionCoordinator) :
    ByocFairAdmissionCoordinator :=
  let tenant := normalizedTenant token.tenantId
  let active := (c.inflightByTenant.get? tenant).getD 0
  { c with
    inflightTotal := if 0 < c.inflightTotal then c.inflightTotal - 1 else c.inflightTotal
    inflightByTenant :=
      if active ≤ 1 then c.inflightByTenant.erase tenant
      else c.inflightByTenant.set tenant (active - 1) }

end ByocFairAdmissionCoordinator

/-! ## The threads -/

/-- How far the `acquire` of a request got, and what became of its token. -/
inductive AcquirePhase
  /-- It has not returned. -/
  | acquiring
  /-- It returned a token. -/
  | admitted
  /-- It returned `None`. -/
  | timedOut
  /-- The token it returned was released. -/
  | released
deriving DecidableEq, Repr

/-- A request, as the thread that made it sees it. -/
structure AdmissionRequest where
  tenantId : String
  granted : Bool := false
  phase : AcquirePhase := .acquiring
deriving DecidableEq, Repr

namespace AdmissionRequest

/-- The request is to be granted yet. -/
def waits (r : AdmissionRequest) : Bool := r.phase = .acquiring && !r.granted

/-- The request was granted, and its slot was not released. -/
def holdsSlot (r : AdmissionRequest) : Bool := r.granted && r.phase ≠ .released

end AdmissionRequest

/-- The coordinator, the requests by their number, and a log of what was granted in which order. -/
structure AdmissionState where
  coordinator : ByocFairAdmissionCoordinator
  requests : Dict Nat AdmissionRequest
  grants : List PendingAdmission

/-- What a thread does between taking the lock and letting go of it. -/
inductive AdmissionEvent
  /-- `acquire`, up to the point where it waits or returns. -/
  | acquire (tenantId : String) (deadlinePassed : Bool)
  /-- One more turn of the loop of an `acquire` that was waiting. -/
  | wake (requestId : Nat) (deadlinePassed : Bool)
  /-- `release`. -/
  | release (token : FairAdmissionToken)
deriving DecidableEq, Repr

/-- What `acquire` returned, once it does. -/
abbrev AcquireReply := Option (Option FairAdmissionToken)

namespace AdmissionState

/-- The state of a new coordinator. -/
def init (maxInflightGlobal : Int) : AdmissionState :=
  ⟨.init maxInflightGlobal, Dict.empty, []⟩

/-- Set the flag of a request. -/
def markGranted (item : PendingAdmission) (requests : Dict Nat AdmissionRequest) :
    Dict Nat AdmissionRequest :=
  requests.modify item.requestId fun r ↦ { r with granted := true }

/-- `_try_grant_unlocked`, and what the threads see of it. -/
def tryGrant (s : AdmissionState) : AdmissionState :=
  let looped := s.coordinator.tryGrantUnlocked
  ⟨looped.2, looped.1.foldl (fun requests item ↦ markGranted item requests) s.requests,
    s.grants ++ looped.1⟩

/-- One turn of the loop of `acquire`. -/
def acquireTurn (requestId : Nat) (deadlinePassed : Bool) (s : AdmissionState) :
    AcquireReply × AdmissionState :=
  let s := s.tryGrant
  match s.requests.get? requestId with
  | none => (none, s)
  | some request =>
    if request.granted then
      (some (some ⟨request.tenantId, requestId⟩),
        { s with requests := s.requests.modify requestId fun r ↦ { r with phase := .admitted } })
    else if deadlinePassed then
      (some none,
        { s with
          coordinator := s.coordinator.withdraw requestId
          requests := s.requests.modify requestId fun r ↦ { r with phase := .timedOut } })
    else (none, s)

/-- One step of one thread.  Only an `acquire` that has not returned can wake up. -/
def step (s : AdmissionState) (e : AdmissionEvent) : AcquireReply × AdmissionState :=
  match e with
  | .acquire tenantId deadlinePassed =>
    let enrolled := s.coordinator.enroll tenantId
    acquireTurn enrolled.1.requestId deadlinePassed
      { s with
        coordinator := enrolled.2
        requests := s.requests.setDefault enrolled.1.requestId { tenantId := enrolled.1.tenantId } }
  | .wake requestId deadlinePassed =>
    match s.requests.get? requestId with
    | none => (none, s)
    | some request =>
      if request.phase = .acquiring then acquireTurn requestId deadlinePassed s else (none, s)
  | .release token =>
    (none,
      tryGrant
        { s with
          coordinator := s.coordinator.giveBack token
          requests := s.requests.modify token.requestId fun r ↦ { r with phase := .released } })

end AdmissionState

end Policies
end ExoBrain
