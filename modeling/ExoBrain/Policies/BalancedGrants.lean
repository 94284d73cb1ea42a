import ExoBrain.Policies.AdmissionLaws

/-!
# Balanced grants

While two tenants wait, the slots go to the one and the other in turn: `_pick_next_tenant` sorts by
the grants so far.  How far apart the two were before does not matter, they only get closer.

A thread may grant several requests while it has the lock, and others come and go between them.  So
what happens to the coordinator is told in smaller moves than the steps of the threads.

* `CoordinatorMove` is such a move, `movesOf` are the moves of a run, and `coordinatorAt` is the
  coordinator after so many of them (`coordinatorAt_length`: after all of them it is the one the run
  ends in).
* `pickNextTenant_le`: no tenant who waits had fewer grants than the one who is picked.
* `balanced_grants`: over any stretch of a run in which two tenants wait whenever a request is
  granted, the difference of their grants does not grow beyond one, or beyond what it was.
-/

set_option autoImplicit false

namespace ExoBrain
namespace Policies

open Run (exec exec_append)

/-! ## Moves of the coordinator -/

/-- What the code does to the coordinator, one thing at a time. -/
inductive CoordinatorMove
  /-- A request is put on the list. -/
  | enroll (tenantId : String)
  /-- A request is taken off the list after its deadline. -/
  | withdraw (requestId : Nat)
  /-- A slot is given back. -/
  | giveBack (token : FairAdmissionToken)
  /-- A request is granted: one turn of the loop. -/
  | grant
deriving DecidableEq, Repr

namespace ByocFairAdmissionCoordinator

/-- One move, and the request it grants. -/
def move (c : ByocFairAdmissionCoordinator) :
    CoordinatorMove → Option PendingAdmission × ByocFairAdmissionCoordinator
  | .enroll tenantId => (none, (c.enroll tenantId).2)
  | .withdraw requestId => (none, c.withdraw requestId)
  | .giveBack token => (none, c.giveBack token)
  | .grant =>
    match c.grantNext with
    | none => (none, c)
    | some (item, c) => (some item, c)

/-- `_grants_total` of a tenant. -/
def grantsOf (t : String) (c : ByocFairAdmissionCoordinator) : Nat := (c.grantsTotal.get? t).getD 0

/-- A request of the tenant is on the list. -/
def Waits (t : String) (c : ByocFairAdmissionCoordinator) : Prop :=
  ∃ item ∈ c.pending, item.tenantId = t

instance (t : String) (c : ByocFairAdmissionCoordinator) : Decidable (c.Waits t) :=
  inferInstanceAs (Decidable (∃ item ∈ c.pending, _))

/-- How far apart the grants of two tenants are. -/
def gap (a b : String) (c : ByocFairAdmissionCoordinator) : Nat :=
  ((c.grantsOf a : Int) - c.grantsOf b).natAbs

/-- The moves of `_try_grant_unlocked`. -/
def grantMoves (c : ByocFairAdmissionCoordinator) : List CoordinatorMove :=
  List.replicate c.tryGrantUnlocked.1.length .grant

theorem exec_grantLoop (turns : Nat) (c : ByocFairAdmissionCoordinator) :
    exec move c (List.replicate (grantLoop turns c).1.length .grant) = (grantLoop turns c).2 := by
  induction turns generalizing c with
  | zero => rfl
  | succ turns ih =>
    rw [grantLoop]
    cases hnext : c.grantNext with
    | none => rfl
    | some next =>
      obtain ⟨item, c'⟩ := next
      rw [List.length_cons, List.replicate_succ, exec, move, hnext]
      exact ih c'

end ByocFairAdmissionCoordinator

namespace AdmissionState

/-- The moves of one turn of the loop of `acquire`. -/
def turnMoves (requestId : Nat) (deadlinePassed : Bool) (s : AdmissionState) :
    List CoordinatorMove :=
  s.coordinator.grantMoves ++
    match s.tryGrant.requests.get? requestId with
    | none => []
    | some request =>
      if !request.granted && deadlinePassed then [.withdraw requestId] else []

/-- The moves of one step of a thread. -/
def moves (s : AdmissionState) : AdmissionEvent → List CoordinatorMove
  | .acquire tenantId deadlinePassed =>
    let enrolled := s.coordinator.enroll tenantId
    .enroll tenantId :: turnMoves enrolled.1.requestId deadlinePassed
      { s with
        coordinator := enrolled.2
        requests := s.requests.setDefault enrolled.1.requestId { tenantId := enrolled.1.tenantId } }
  | .wake requestId deadlinePassed =>
    match s.requests.get? requestId with
    | none => []
    | some request =>
      if request.phase = .acquiring then turnMoves requestId deadlinePassed s else []
  | .release token => .giveBack token :: (s.coordinator.giveBack token).grantMoves

/-- The moves of a run. -/
def runMoves (s : AdmissionState) : List AdmissionEvent → List CoordinatorMove
  | [] => []
  | e :: events => s.moves e ++ runMoves (s.step e).2 events

theorem exec_turnMoves (requestId : Nat) (deadlinePassed : Bool) (s : AdmissionState) :
    exec ByocFairAdmissionCoordinator.move s.coordinator (turnMoves requestId deadlinePassed s) =
      (acquireTurn requestId deadlinePassed s).2.coordinator := by
  have hgrants : exec ByocFairAdmissionCoordinator.move s.coordinator s.coordinator.grantMoves =
      s.tryGrant.coordinator := ByocFairAdmissionCoordinator.exec_grantLoop _ _
  rw [turnMoves, exec_append, hgrants, acquireTurn]
  cases hrequest : s.tryGrant.requests.get? requestId with
  | none => rfl
  | some request =>
    simp only
    cases hgranted : request.granted with
    | true => rfl
    | false => cases deadlinePassed <;> rfl

/-- A step of a thread does what its moves do. -/
theorem exec_moves (s : AdmissionState) (e : AdmissionEvent) :
    exec ByocFairAdmissionCoordinator.move s.coordinator (s.moves e) =
      (s.step e).2.coordinator := by
  cases e with
  | acquire tenantId deadlinePassed =>
    let enrolled := s.coordinator.enroll tenantId
    exact exec_turnMoves enrolled.1.requestId deadlinePassed
      { s with
        coordinator := enrolled.2
        requests := s.requests.setDefault enrolled.1.requestId { tenantId := enrolled.1.tenantId } }
  | wake requestId deadlinePassed =>
    rw [moves, step]
    cases hrequest : s.requests.get? requestId with
    | none => rfl
    | some request =>
      simp only
      split
      · exact exec_turnMoves _ _ _
      · rfl
  | release token => exact ByocFairAdmissionCoordinator.exec_grantLoop _ _

theorem exec_runMoves (s : AdmissionState) (events : List AdmissionEvent) :
    exec ByocFairAdmissionCoordinator.move s.coordinator (s.runMoves events) =
      (exec step s events).coordinator := by
  induction events generalizing s with
  | nil => rfl
  | cons e events ih => rw [runMoves, exec_append, exec_moves, ih]; rfl

end AdmissionState

/-! ## Who is picked -/

instance (grantsTotal seqs : Dict String Nat) : Std.Total (TenantLe grantsTotal seqs) where
  total a b := by
    simp only [TenantLe]
    rcases String.le_total a b with h | h <;> grind

instance (grantsTotal seqs : Dict String Nat) : IsTrans String (TenantLe grantsTotal seqs) where
  trans a b c hab hbc := by
    simp only [TenantLe] at *
    have htrans : a ≤ b → b ≤ c → a ≤ c := String.le_trans
    grind

/-- No tenant who waits had fewer grants than the one who is picked. -/
theorem pickNextTenant_le {pending : List PendingAdmission} {grantsTotal : Dict String Nat}
    {t : String} (h : pickNextTenant pending grantsTotal = some t) {item : PendingAdmission}
    (hitem : item ∈ pending) :
    (grantsTotal.get? t).getD 0 ≤ (grantsTotal.get? item.tenantId).getD 0 := by
  have hsorted := List.pairwise_insertionSort (TenantLe grantsTotal (firstSeq pending))
    (firstSeq pending).keys
  have hmem := (List.mem_insertionSort (TenantLe grantsTotal (firstSeq pending))).mpr
    (mem_keys_firstSeq.mpr ⟨item, hitem, rfl⟩)
  rw [pickNextTenant] at h
  obtain ⟨rest, hrest⟩ := List.head?_eq_some_iff.mp h
  rw [hrest] at hsorted hmem
  rcases List.mem_cons.mp hmem with heq | hmem
  · rw [heq]
  · rcases (List.pairwise_cons.mp hsorted).1 _ hmem with hlt | ⟨heq, -⟩
    · exact Nat.le_of_lt hlt
    · exact Nat.le_of_eq heq

namespace ByocFairAdmissionCoordinator

theorem grantsOf_of_grantNext {c c' : ByocFairAdmissionCoordinator} {item : PendingAdmission}
    (h : c.grantNext = some (item, c')) (t : String) :
    c'.grantsOf t = c.grantsOf t + if t = item.tenantId then 1 else 0 := by
  obtain ⟨-, -, rfl⟩ := grantNext_some h
  exact Dict.get?_increment ..

theorem pickNextTenant_of_grantNext {c c' : ByocFairAdmissionCoordinator} {item : PendingAdmission}
    (h : c.grantNext = some (item, c')) :
    pickNextTenant c.pending c.grantsTotal = some item.tenantId := by
  rw [grantNext] at h
  split at h
  · split at h
    · cases h
    · rename_i nextTenant hpick
      split at h
      · cases h
      · split at h
        · cases h
        · rename_i first hfind
          obtain ⟨rfl, -⟩ := Prod.mk.inj (Option.some.inj h)
          have htenant : first.tenantId = nextTenant := by simpa using List.find?_some hfind
          rw [hpick, htenant]
  · cases h

/-- The request that is granted is one of a tenant with the fewest grants. -/
theorem grantsOf_le_of_grantNext {c c' : ByocFairAdmissionCoordinator} {item : PendingAdmission}
    (h : c.grantNext = some (item, c')) {t : String} (ht : c.Waits t) :
    c.grantsOf item.tenantId ≤ c.grantsOf t := by
  obtain ⟨other, hother, rfl⟩ := ht
  exact pickNextTenant_le (pickNextTenant_of_grantNext h) hother

/-- **One move.**  If both tenants wait when a request is granted, they do not move apart, unless
they were even. -/
theorem gap_move {a b : String} {c : ByocFairAdmissionCoordinator} {m : CoordinatorMove}
    (hboth : m = .grant → c.Waits a ∧ c.Waits b) :
    (c.move m).2.gap a b ≤ max 1 (c.gap a b) := by
  cases m with
  | enroll tenantId => exact le_max_right _ _
  | withdraw requestId => exact le_max_right _ _
  | giveBack token => exact le_max_right _ _
  | grant =>
    obtain ⟨ha, hb⟩ := hboth rfl
    rw [move]
    cases hnext : c.grantNext with
    | none => exact le_max_right _ _
    | some next =>
      obtain ⟨item, c'⟩ := next
      have hle_a := grantsOf_le_of_grantNext hnext ha
      have hle_b := grantsOf_le_of_grantNext hnext hb
      simp only [gap, grantsOf_of_grantNext hnext]
      by_cases hia : a = item.tenantId <;> by_cases hib : b = item.tenantId <;>
        simp only [hia, hib, ↓reduceIte] <;> omega

end ByocFairAdmissionCoordinator

/-! ## Whole runs -/

/-- The moves of a run of a new coordinator. -/
def movesOf (maxInflightGlobal : Int) (events : List AdmissionEvent) : List CoordinatorMove :=
  (AdmissionState.init maxInflightGlobal).runMoves events

/-- The coordinator after the first `k` moves of a run. -/
def coordinatorAt (maxInflightGlobal : Int) (events : List AdmissionEvent) (k : Nat) :
    ByocFairAdmissionCoordinator :=
  exec ByocFairAdmissionCoordinator.move (.init maxInflightGlobal)
    ((movesOf maxInflightGlobal events).take k)

/-- After all its moves it is the coordinator at the end of the run. -/
theorem coordinatorAt_length (maxInflightGlobal : Int) (events : List AdmissionEvent) :
    coordinatorAt maxInflightGlobal events (movesOf maxInflightGlobal events).length =
      (exec AdmissionState.step (.init maxInflightGlobal) events).coordinator := by
  rw [coordinatorAt, List.take_length]
  exact AdmissionState.exec_runMoves (.init maxInflightGlobal) events

theorem coordinatorAt_succ (maxInflightGlobal : Int) (events : List AdmissionEvent) (k : Nat) :
    coordinatorAt maxInflightGlobal events (k + 1) =
      match (movesOf maxInflightGlobal events)[k]? with
      | none => coordinatorAt maxInflightGlobal events k
      | some m => ((coordinatorAt maxInflightGlobal events k).move m).2 := by
  rw [coordinatorAt, List.take_add_one, exec_append]
  cases (movesOf maxInflightGlobal events)[k]? <;> rfl

/-- **Balanced grants.**  In every run, over every stretch of it in which both tenants wait whenever
a request is granted, the difference of their grants is never larger than one, or than it was at the
start of the stretch. -/
theorem balanced_grants (maxInflightGlobal : Int) (events : List AdmissionEvent) (a b : String)
    (start now : Nat) (hle : start ≤ now)
    (hboth : ∀ k, start ≤ k → k < now → (movesOf maxInflightGlobal events)[k]? = some .grant →
      (coordinatorAt maxInflightGlobal events k).Waits a ∧
        (coordinatorAt maxInflightGlobal events k).Waits b) :
    (coordinatorAt maxInflightGlobal events now).gap a b ≤
      max 1 ((coordinatorAt maxInflightGlobal events start).gap a b) := by
  induction now, hle using Nat.le_induction with
  | base => exact le_max_right _ _
  | succ now hle ih =>
    have hbefore := ih fun k hk hlt ↦ hboth k hk (Nat.lt_succ_of_lt hlt)
    rw [coordinatorAt_succ]
    cases hmove : (movesOf maxInflightGlobal events)[now]? with
    | none => exact hbefore
    | some m =>
      have hstep := ByocFairAdmissionCoordinator.gap_move (a := a) (b := b)
        (c := coordinatorAt maxInflightGlobal events now) (m := m) fun hm ↦
          hboth now hle (Nat.lt_succ_self now) (hm ▸ hmove)
      exact hstep.trans (max_le (le_max_left _ _) hbefore)

/-- One slot is taken, and two requests each of `a` and `b` wait for it; it is given back twice. -/
def alternatingRun : List AdmissionEvent :=
  [.acquire "x" false, .acquire "a" false, .acquire "b" false, .acquire "a" false,
    .acquire "b" false, .release ⟨"x", 1⟩, .release ⟨"a", 2⟩]

/-- From when both wait to the end of that run, the one and the other is granted. -/
theorem balanced_grants_alternating :
    (coordinatorAt 1 alternatingRun 10).gap "a" "b" ≤
        max 1 ((coordinatorAt 1 alternatingRun 6).gap "a" "b") ∧
      (movesOf 1 alternatingRun).drop 6 =
        [.giveBack ⟨"x", 1⟩, .grant, .giveBack ⟨"a", 2⟩, .grant] :=
  ⟨balanced_grants 1 alternatingRun "a" "b" 6 10 (by decide) (by decide +kernel),
    by decide +kernel⟩

end Policies
end ExoBrain
