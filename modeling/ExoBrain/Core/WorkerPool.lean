import Mathlib.Data.List.Nodup
import Mathlib.Data.List.Range
import ExoBrain.Lib.Run
import ExoBrain.Lib.Semaphore

/-!
# The worker pool

`WorkerPool.run` runs a coroutine in a slot of a semaphore, whichever way the coroutine ends, and
`scale_up_to` adds slots while calls run and wait.

Calls are numbered in the order in which they come in.  Between two `await`s anything may happen to
any of them: the task of a call is cancelled (`cancel`), the event loop gets to one whose future is
done (`resume`), or a coroutine ends (`finish`), and so the events of a run come in any order.

* `SlotsAccounted` is the invariant: every slot is free, was handed to a task that was not resumed
  yet, or has a coroutine running in it.  `slots_accounted` is about every run.
* `slots_in_order` says who gets the slots: those who did not give up waiting, in the order in which
  they came.
* `pool_drains` says that nobody waits for ever: if coroutines end and the event loop gets to the
  tasks that can go on, then after so many steps nobody waits, and all slots are free.
-/

set_option autoImplicit false

namespace ExoBrain
namespace Core

structure WorkerPool where
  maxConcurrency : Int
  semaphore : Semaphore Nat
  /-- The calls whose coroutine runs. -/
  running : List Nat
  /-- The number of calls so far. -/
  calls : Nat
deriving DecidableEq, Repr

/-- What happens to a pool. -/
inductive PoolEvent
  | call
  | cancel (task : Nat)
  | resume (task : Nat)
  | finish (task : Nat)
  | scaleUpTo (targetConcurrency : Int)
deriving DecidableEq, Repr

/-- What an event does to the calls, and what `scale_up_to` returns or raises. -/
structure PoolEffect where
  /-- The calls that get a slot, in order. -/
  granted : List Nat := []
  /-- The calls that give up waiting. -/
  withdrawn : List Nat := []
  returned : Option (String ⊕ Bool) := none
deriving DecidableEq, Repr

/-- The largest of the sizes a pool was to be scaled up to. -/
def PoolEvent.target? : PoolEvent → Option Int
  | .scaleUpTo targetConcurrency => some targetConcurrency
  | _ => none

namespace WorkerPool

/-- `__init__`. -/
def new (maxConcurrency : Int) : Except String WorkerPool :=
  if maxConcurrency < 1 then .error "max_concurrency must be >= 1"
  else .ok
    { maxConcurrency, semaphore := { value := maxConcurrency.toNat, waiters := [] }, running := []
      calls := 0 }

/-- `run` is called: its coroutine starts, or the task waits. -/
def call (p : WorkerPool) : PoolEffect × WorkerPool :=
  let (got, semaphore) := p.semaphore.acquire p.calls
  if got then
    ({ granted := [p.calls] },
      { p with semaphore, running := p.running ++ [p.calls], calls := p.calls + 1 })
  else ({}, { p with semaphore, calls := p.calls + 1 })

/-- The task of a waiting call is cancelled. -/
def cancel (p : WorkerPool) (task : Nat) : PoolEffect × WorkerPool :=
  ({ withdrawn := p.semaphore.pending.filter (· = task) },
    { p with semaphore := p.semaphore.cancel task })

/-- A task goes on whose future is done. -/
def resume (eager : Bool) (p : WorkerPool) (task : Nat) : PoolEffect × WorkerPool :=
  match p.semaphore.resume eager task with
  | none => ({}, p)
  | some (got, granted, semaphore) =>
    ({ granted }, { p with semaphore, running := p.running ++ if got then [task] else [] })

/-- The coroutine of a call returns, raises or is cancelled: the slot is given back. -/
def finish (p : WorkerPool) (task : Nat) : PoolEffect × WorkerPool :=
  if task ∈ p.running then
    let (granted, semaphore) := p.semaphore.release
    ({ granted }, { p with semaphore, running := p.running.erase task })
  else ({}, p)

/-- `scale_up_to`. -/
def scaleUpTo (p : WorkerPool) (targetConcurrency : Int) : PoolEffect × WorkerPool :=
  if targetConcurrency < 1 then
    ({ returned := some (.inl "target_concurrency must be >= 1") }, p)
  else if targetConcurrency ≤ p.maxConcurrency then ({ returned := some (.inr false) }, p)
  else
    let delta := (targetConcurrency - p.maxConcurrency).toNat
    let (granted, semaphore) := p.semaphore.releases delta
    ({ granted, returned := some (.inr true) },
      { p with semaphore, maxConcurrency := targetConcurrency })

/-- One event. -/
def step (eager : Bool) (p : WorkerPool) : PoolEvent → PoolEffect × WorkerPool
  | .call => p.call
  | .cancel task => p.cancel task
  | .resume task => p.resume eager task
  | .finish task => p.finish task
  | .scaleUpTo targetConcurrency => p.scaleUpTo targetConcurrency

end WorkerPool

namespace WorkerPool

theorem call_of_locked {p : WorkerPool} (h : p.semaphore.locked = true) :
    p.call = ({}, { p with
      semaphore := { p.semaphore with waiters := p.semaphore.waiters ++ [⟨p.calls, .pending⟩] }
      calls := p.calls + 1 }) := by
  rw [call, Semaphore.acquire_of_locked h]
  rfl

theorem call_of_not_locked {p : WorkerPool} (h : p.semaphore.locked = false) :
    p.call = ({ granted := [p.calls] }, { p with
      semaphore := { p.semaphore with value := p.semaphore.value - 1 }
      running := p.running ++ [p.calls]
      calls := p.calls + 1 }) := by
  rw [call, Semaphore.acquire, h]
  rfl

end WorkerPool

/-! ## Slots -/

/-- Every slot is free, handed to somebody, or in use, and no wake-up is lost. -/
structure SlotsAccounted (p : WorkerPool) : Prop where
  slots : (p.semaphore.value + p.semaphore.handed + p.running.length : Int) = p.maxConcurrency
  alert : p.semaphore.Alert

theorem SlotsAccounted.call {p : WorkerPool} (h : SlotsAccounted p) : SlotsAccounted p.call.2 := by
  cases hlocked : p.semaphore.locked with
  | true =>
    have halert := Semaphore.alert_acquire h.alert p.calls
    rw [Semaphore.acquire_of_locked hlocked] at halert
    rw [WorkerPool.call_of_locked hlocked]
    refine ⟨?_, halert⟩
    rw [Semaphore.handed_append]
    exact h.slots
  | false =>
    obtain ⟨-, -, hvalue, hpending, hhanded⟩ :=
      Semaphore.acquire_of_not_locked (a := p.calls) hlocked
    have hslots := h.slots
    rw [WorkerPool.call_of_not_locked hlocked]
    refine ⟨?_, fun _ hne ↦ absurd hpending hne⟩
    change ((p.semaphore.value - 1 : Nat) + (p.semaphore.handed : Int) +
      (p.running ++ [p.calls]).length) = p.maxConcurrency
    rw [List.length_append, List.length_singleton]
    omega

theorem SlotsAccounted.cancel {p : WorkerPool} (h : SlotsAccounted p) (task : Nat) :
    SlotsAccounted (p.cancel task).2 where
  slots := by
    change ((p.semaphore.cancel task).value + (p.semaphore.cancel task).handed + _ : Int) = _
    rw [Semaphore.value_cancel, Semaphore.handed_cancel]
    exact h.slots
  alert := Semaphore.alert_cancel h.alert task

theorem SlotsAccounted.resume {p : WorkerPool} (h : SlotsAccounted p) (eager : Bool) (task : Nat) :
    SlotsAccounted (p.resume eager task).2 := by
  unfold WorkerPool.resume
  cases hresume : p.semaphore.resume eager task with
  | none => exact h
  | some r =>
    obtain ⟨got, granted, semaphore⟩ := r
    obtain ⟨t, hgrants, -, -, hfree, halert⟩ := Semaphore.resume_spec hresume
    have hslots := h.slots
    have hkept := hgrants.slots
    refine ⟨?_, halert h.alert⟩
    change (semaphore.value + semaphore.handed + (p.running ++ _).length : Int) = p.maxConcurrency
    rw [List.length_append]
    cases got
    · rw [if_neg Bool.false_ne_true] at hfree
      simp only [Bool.false_eq_true, if_false, List.length_nil]
      omega
    · rw [if_pos rfl] at hfree
      simp only [if_true, List.length_singleton]
      omega

theorem SlotsAccounted.finish {p : WorkerPool} (h : SlotsAccounted p) (task : Nat) :
    SlotsAccounted (p.finish task).2 := by
  unfold WorkerPool.finish
  split
  · next hrunning =>
    have hslots := h.slots
    have hkept := (Semaphore.grants_release p.semaphore).slots
    have hlength := List.length_erase_of_mem hrunning
    have hpos := List.length_pos_of_mem hrunning
    refine ⟨?_, Semaphore.alert_release _⟩
    change (p.semaphore.release.2.value + p.semaphore.release.2.handed +
      (p.running.erase task).length : Int) = p.maxConcurrency
    have hplus : p.semaphore.release.2.value + p.semaphore.release.2.handed =
      p.semaphore.value + 1 + p.semaphore.handed := hkept
    omega
  · exact h

theorem SlotsAccounted.scaleUpTo {p : WorkerPool} (h : SlotsAccounted p) (targetConcurrency : Int) :
    SlotsAccounted (p.scaleUpTo targetConcurrency).2 := by
  unfold WorkerPool.scaleUpTo
  split
  · exact h
  · split
    · exact h
    · next hlt =>
      have hslots := h.slots
      have hplus : (p.semaphore.releases (targetConcurrency - p.maxConcurrency).toNat).2.value +
          (p.semaphore.releases (targetConcurrency - p.maxConcurrency).toNat).2.handed =
            p.semaphore.value + (targetConcurrency - p.maxConcurrency).toNat + p.semaphore.handed :=
        (Semaphore.grants_releases _ p.semaphore).slots
      refine ⟨?_, Semaphore.alert_releases h.alert _⟩
      change ((p.semaphore.releases _).2.value + (p.semaphore.releases _).2.handed +
        p.running.length : Int) = targetConcurrency
      omega

theorem SlotsAccounted.step {p : WorkerPool} (h : SlotsAccounted p) (eager : Bool) (e : PoolEvent) :
    SlotsAccounted (p.step eager e).2 := by
  cases e with
  | call => exact h.call
  | cancel task => exact h.cancel task
  | resume task => exact h.resume eager task
  | finish task => exact h.finish task
  | scaleUpTo targetConcurrency => exact h.scaleUpTo targetConcurrency

/-- A new pool has free slots only. -/
theorem new_eq_ok {maxConcurrency : Int} {p : WorkerPool}
    (h : WorkerPool.new maxConcurrency = .ok p) :
    1 ≤ maxConcurrency ∧ p =
      { maxConcurrency, semaphore := { value := maxConcurrency.toNat, waiters := [] }
        running := [], calls := 0 } := by
  unfold WorkerPool.new at h
  split at h
  · cases h
  · cases h
    exact ⟨by omega, rfl⟩

theorem accounted_new {maxConcurrency : Int} {p : WorkerPool}
    (h : WorkerPool.new maxConcurrency = .ok p) : SlotsAccounted p := by
  obtain ⟨hle, rfl⟩ := new_eq_ok h
  refine ⟨?_, fun _ hne ↦ absurd rfl hne⟩
  change ((maxConcurrency.toNat : Int) + (0 : Nat) + (0 : Nat)) = maxConcurrency
  omega

theorem accounted_exec {p : WorkerPool} (h : SlotsAccounted p) (eager : Bool)
    (events : List PoolEvent) :
    SlotsAccounted (Run.exec (WorkerPool.step eager) p events) := by
  have hany : Run.Along (WorkerPool.step eager) (fun _ _ ↦ True) p events :=
    Run.along_of_forall (fun _ _ ↦ trivial) p events
  exact Run.exec_invariant (fun _ e _ hp ↦ hp.step eager e) hany h

theorem maxConcurrency_step (eager : Bool) (p : WorkerPool) (h : 1 ≤ p.maxConcurrency)
    (e : PoolEvent) : (p.step eager e).2.maxConcurrency =
      e.target?.toList.foldl max p.maxConcurrency := by
  cases e with
  | call =>
    change p.call.2.maxConcurrency = p.maxConcurrency
    unfold WorkerPool.call
    dsimp only
    split <;> rfl
  | cancel task => rfl
  | resume task =>
    change (p.resume eager task).2.maxConcurrency = p.maxConcurrency
    unfold WorkerPool.resume
    split <;> rfl
  | finish task =>
    change (p.finish task).2.maxConcurrency = p.maxConcurrency
    unfold WorkerPool.finish
    split <;> rfl
  | scaleUpTo targetConcurrency =>
    change (p.scaleUpTo targetConcurrency).2.maxConcurrency = max p.maxConcurrency targetConcurrency
    unfold WorkerPool.scaleUpTo
    split
    · change p.maxConcurrency = max p.maxConcurrency targetConcurrency
      omega
    · split
      · change p.maxConcurrency = max p.maxConcurrency targetConcurrency
        omega
      · change targetConcurrency = max p.maxConcurrency targetConcurrency
        omega

theorem one_le_maxConcurrency_step (eager : Bool) {p : WorkerPool} (h : 1 ≤ p.maxConcurrency)
    (e : PoolEvent) : 1 ≤ (p.step eager e).2.maxConcurrency := by
  rw [maxConcurrency_step eager p h e]
  cases e.target? with
  | none => exact h
  | some target =>
    change 1 ≤ max p.maxConcurrency target
    omega

theorem maxConcurrency_exec (eager : Bool) {p : WorkerPool} (h : 1 ≤ p.maxConcurrency)
    (events : List PoolEvent) : (Run.exec (WorkerPool.step eager) p events).maxConcurrency =
      (events.filterMap PoolEvent.target?).foldl max p.maxConcurrency := by
  induction events generalizing p with
  | nil => rfl
  | cons e events ih =>
    rw [Run.exec, ih (one_le_maxConcurrency_step eager h e), maxConcurrency_step eager p h e]
    cases htarget : e.target? with
    | none => rw [List.filterMap_cons_none htarget]; rfl
    | some target => rw [List.filterMap_cons_some htarget]; rfl

/-- **The slots of a pool.**  Whatever the order of calls, cancellations, returns and scalings, every
slot is free, was handed to a task that was not resumed yet, or has a coroutine running in it.  So no
more coroutines run than the pool may run, which is the largest of the sizes it was given. -/
theorem slots_accounted (eager : Bool) {maxConcurrency : Int} {p : WorkerPool}
    (hnew : WorkerPool.new maxConcurrency = .ok p) (events : List PoolEvent) :
    let q := Run.exec (WorkerPool.step eager) p events
    q.maxConcurrency = (events.filterMap PoolEvent.target?).foldl max maxConcurrency ∧
      (q.semaphore.value + q.semaphore.handed + q.running.length : Int) = q.maxConcurrency ∧
        (q.running.length : Int) ≤ q.maxConcurrency := by
  have hslots := (accounted_exec (accounted_new hnew) eager events).slots
  obtain ⟨hle, rfl⟩ := new_eq_ok hnew
  exact ⟨maxConcurrency_exec eager hle events, hslots, by omega⟩

/-- One slot, three calls; the second one gives up, and two more slots come. -/
theorem slots_accounted_scaled :
    (Run.exec (WorkerPool.step false) ⟨1, ⟨1, []⟩, [], 0⟩
      [.call, .call, .call, .cancel 1, .scaleUpTo 3, .resume 2, .finish 0]).maxConcurrency = 3 :=
  (slots_accounted false (rfl : WorkerPool.new 1 = .ok _)
    [.call, .call, .call, .cancel 1, .scaleUpTo 3, .resume 2, .finish 0]).1

/-! ## The order of the slots -/

/-- The calls that got a slot, in order. -/
def grantedOf (history : List (PoolEvent × PoolEffect)) : List Nat :=
  history.flatMap fun e ↦ e.2.granted

/-- The calls that gave up waiting. -/
def withdrawnOf (history : List (PoolEvent × PoolEffect)) : List Nat :=
  history.flatMap fun e ↦ e.2.withdrawn

/-- Those who got a slot, and then those who wait for one, are the calls in the order in which they
came, without those who gave up. -/
structure InOrder (granted withdrawn : List Nat) (p : WorkerPool) : Prop where
  order : granted ++ p.semaphore.pending = (List.range p.calls).filter (· ∉ withdrawn)
  lt : ∀ task ∈ withdrawn, task < p.calls

/-- The head of the queue is served. -/
theorem InOrder.serve {granted withdrawn g : List Nat} {p q : WorkerPool}
    (h : InOrder granted withdrawn p) (hcalls : q.calls = p.calls)
    (hserved : p.semaphore.pending = g ++ q.semaphore.pending) :
    InOrder (granted ++ g) (withdrawn ++ []) q := by
  rw [List.append_nil]
  refine ⟨?_, fun task htask ↦ hcalls ▸ h.lt task htask⟩
  rw [hcalls, ← h.order, hserved, List.append_assoc]

theorem InOrder.unchanged {granted withdrawn : List Nat} {p : WorkerPool}
    (h : InOrder granted withdrawn p) : InOrder (granted ++ []) (withdrawn ++ []) p :=
  h.serve rfl rfl

theorem InOrder.call {granted withdrawn : List Nat} {p : WorkerPool}
    (h : InOrder granted withdrawn p) :
    InOrder (granted ++ p.call.1.granted) (withdrawn ++ p.call.1.withdrawn) p.call.2 := by
  have hrange : (List.range (p.calls + 1)).filter (· ∉ withdrawn) =
      (List.range p.calls).filter (· ∉ withdrawn) ++ [p.calls] := by
    have hnew : p.calls ∉ withdrawn := fun hmem ↦ Nat.lt_irrefl _ (h.lt _ hmem)
    rw [List.range_succ, List.filter_append, List.filter_cons_of_pos (by simpa using hnew),
      List.filter_nil]
  have hlt : ∀ task ∈ withdrawn, task < p.calls + 1 := fun task htask ↦
    Nat.lt_succ_of_lt (h.lt task htask)
  cases hlocked : p.semaphore.locked with
  | true =>
    rw [WorkerPool.call_of_locked hlocked]
    refine ⟨?_, by rwa [List.append_nil]⟩
    rw [Semaphore.pending_append, List.append_nil, List.append_nil, hrange, ← h.order,
      List.append_assoc]
  | false =>
    obtain ⟨-, -, -, hpending, -⟩ := Semaphore.acquire_of_not_locked (a := p.calls) hlocked
    rw [WorkerPool.call_of_not_locked hlocked]
    refine ⟨?_, by rwa [List.append_nil]⟩
    have horder := h.order
    rw [hpending, List.append_nil] at horder
    change granted ++ [p.calls] ++ p.semaphore.pending = _
    rw [hpending, List.append_nil, List.append_nil, hrange, horder]

/-- A call that gives up leaves the others where they are. -/
theorem InOrder.cancel {granted withdrawn : List Nat} {p : WorkerPool}
    (h : InOrder granted withdrawn p) (task : Nat) :
    InOrder (granted ++ (p.cancel task).1.granted) (withdrawn ++ (p.cancel task).1.withdrawn)
      (p.cancel task).2 := by
  have hnodup : (granted ++ p.semaphore.pending).Nodup := h.order ▸ List.nodup_range.filter _
  constructor
  · change granted ++ [] ++ (p.semaphore.cancel task).pending = (List.range p.calls).filter
      (· ∉ withdrawn ++ p.semaphore.pending.filter (· = task))
    rw [Semaphore.pending_cancel, List.append_nil]
    have hsplit : (List.range p.calls).filter
        (· ∉ withdrawn ++ p.semaphore.pending.filter (· = task)) =
          (granted ++ p.semaphore.pending).filter
            (· ∉ p.semaphore.pending.filter (· = task)) := by
      rw [h.order, List.filter_filter]
      refine List.filter_congr fun t _ ↦ ?_
      simp only [List.mem_append, not_or, Bool.decide_and, Bool.and_comm]
    rw [hsplit, List.filter_append]
    congr 1
    · refine (List.filter_eq_self.mpr fun t ht ↦ ?_).symm
      have hnot : t ∉ p.semaphore.pending := fun hmem ↦
        (List.nodup_append.mp hnodup).2.2 t ht t hmem rfl
      exact decide_eq_true fun hmem ↦ hnot (List.mem_of_mem_filter hmem)
    · refine List.filter_congr fun t ht ↦ ?_
      simp [ht]
  · intro t ht
    rcases List.mem_append.mp ht with hold | hnow
    · exact h.lt t hold
    · have hmem : t ∈ granted ++ p.semaphore.pending :=
        List.mem_append_right _ (List.mem_of_mem_filter hnow)
      rw [h.order] at hmem
      exact List.mem_range.mp (List.mem_of_mem_filter hmem)

theorem InOrder.step {granted withdrawn : List Nat} {p : WorkerPool}
    (h : InOrder granted withdrawn p) (eager : Bool) (e : PoolEvent) :
    InOrder (granted ++ (p.step eager e).1.granted) (withdrawn ++ (p.step eager e).1.withdrawn)
      (p.step eager e).2 := by
  cases e with
  | call => exact h.call
  | cancel task => exact h.cancel task
  | resume task =>
    change InOrder (granted ++ (p.resume eager task).1.granted)
      (withdrawn ++ (p.resume eager task).1.withdrawn) (p.resume eager task).2
    unfold WorkerPool.resume
    cases hresume : p.semaphore.resume eager task with
    | none => exact h.unchanged
    | some r =>
      obtain ⟨t, hgrants, hpending, -⟩ := Semaphore.resume_spec hresume
      exact h.serve rfl (hpending ▸ hgrants.pending)
  | finish task =>
    change InOrder (granted ++ (p.finish task).1.granted)
      (withdrawn ++ (p.finish task).1.withdrawn) (p.finish task).2
    unfold WorkerPool.finish
    split
    · exact h.serve rfl (Semaphore.grants_release p.semaphore).pending
    · exact h.unchanged
  | scaleUpTo targetConcurrency =>
    change InOrder (granted ++ (p.scaleUpTo targetConcurrency).1.granted)
      (withdrawn ++ (p.scaleUpTo targetConcurrency).1.withdrawn) (p.scaleUpTo targetConcurrency).2
    unfold WorkerPool.scaleUpTo
    split
    · exact h.unchanged
    · split
      · exact h.unchanged
      · exact h.serve rfl (Semaphore.grants_releases _ p.semaphore).pending

theorem inOrder_trace (eager : Bool) {maxConcurrency : Int} {p : WorkerPool}
    (hnew : WorkerPool.new maxConcurrency = .ok p) (events : List PoolEvent) :
    InOrder (grantedOf (Run.trace (WorkerPool.step eager) p events))
      (withdrawnOf (Run.trace (WorkerPool.step eager) p events))
        (Run.exec (WorkerPool.step eager) p events) := by
  have hinit : InOrder (grantedOf []) (withdrawnOf []) p := by
    obtain ⟨-, rfl⟩ := new_eq_ok hnew
    exact ⟨rfl, nofun⟩
  have hany : Run.Along (WorkerPool.step eager) (fun _ _ ↦ True) p events :=
    Run.along_of_forall (fun _ _ ↦ trivial) p events
  refine Run.trace_invariant
    (P := fun history q ↦ InOrder (grantedOf history) (withdrawnOf history) q)
    (fun history q e _ h ↦ ?_) hany hinit
  rw [grantedOf, withdrawnOf, List.flatMap_append, List.flatMap_append, List.flatMap_singleton,
    List.flatMap_singleton]
  exact h.step eager e

/-- **Who gets the slots of a pool.**  Whatever the order of events, the calls that got a slot so far,
and after them those that wait, are all calls but those that gave up waiting, in the order in which
they came: none is overtaken, forgotten, or given two slots. -/
theorem slots_in_order (eager : Bool) {maxConcurrency : Int} {p : WorkerPool}
    (hnew : WorkerPool.new maxConcurrency = .ok p) (events : List PoolEvent) :
    let q := Run.exec (WorkerPool.step eager) p events
    let history := Run.trace (WorkerPool.step eager) p events
    grantedOf history ++ q.semaphore.pending =
      (List.range q.calls).filter (· ∉ withdrawnOf history) :=
  (inOrder_trace eager hnew events).order

/-- Of three calls that wait the second one gives up; the other two get the slot in turn. -/
theorem slots_in_order_withdrawn :
    grantedOf (Run.trace (WorkerPool.step true) ⟨1, ⟨1, []⟩, [], 0⟩
      [.call, .call, .call, .call, .cancel 2, .finish 0, .resume 1, .finish 1]) ++ [] =
        (List.range 4).filter (· ∉ [2]) :=
  slots_in_order true (rfl : WorkerPool.new 1 = .ok _)
    [.call, .call, .call, .call, .cancel 2, .finish 0, .resume 1, .finish 1]

/-! ## Nobody waits for ever -/

/-- The events by which the calls that are there go on: one that can is resumed, or one ends. -/
def GoesOn (eager : Bool) (p : WorkerPool) : PoolEvent → Prop
  | .resume task => (p.semaphore.resume eager task).isSome
  | .finish task => task ∈ p.running
  | .call | .cancel _ | .scaleUpTo _ => False

/-- How often the calls that are there can go on: each is resumed once and ends once. -/
def WorkerPool.remaining (p : WorkerPool) : Nat :=
  2 * p.semaphore.tasks.length + p.running.length

/-- The calls in the queue are known by their numbers. -/
structure Numbered (p : WorkerPool) : Prop where
  nodup : p.semaphore.tasks.Nodup
  lt : ∀ task ∈ p.semaphore.tasks, task < p.calls

theorem Numbered.of_eq {p q : WorkerPool} (h : Numbered p)
    (htasks : q.semaphore.tasks = p.semaphore.tasks) (hcalls : q.calls = p.calls) : Numbered q :=
  ⟨htasks ▸ h.nodup, fun task htask ↦ hcalls ▸ h.lt task (htasks ▸ htask)⟩

theorem Numbered.call {p : WorkerPool} (h : Numbered p) : Numbered p.call.2 := by
  have hlt : ∀ task ∈ p.semaphore.tasks, task < p.calls + 1 := fun task htask ↦
    Nat.lt_succ_of_lt (h.lt task htask)
  cases hlocked : p.semaphore.locked with
  | true =>
    have htasks : p.call.2.semaphore.tasks = p.semaphore.tasks ++ [p.calls] := by
      rw [WorkerPool.call_of_locked hlocked]
      exact List.map_append
    have hcalls : p.call.2.calls = p.calls + 1 := by rw [WorkerPool.call_of_locked hlocked]
    constructor
    · rw [htasks]
      refine List.nodup_append.mpr ⟨h.nodup, List.nodup_singleton _, fun t ht u hu heq ↦ ?_⟩
      rw [heq, List.mem_singleton.mp hu] at ht
      exact Nat.lt_irrefl _ (h.lt _ ht)
    · rw [htasks, hcalls]
      exact List.forall_mem_append.mpr
        ⟨hlt, fun t ht ↦ List.mem_singleton.mp ht ▸ Nat.lt_succ_self _⟩
  | false =>
    rw [WorkerPool.call_of_not_locked hlocked]
    exact ⟨h.nodup, hlt⟩

/-- A task that is resumed leaves the queue. -/
theorem tasks_resume {eager : Bool} {p : WorkerPool} {task : Nat} {got : Bool} {granted : List Nat}
    {s : Semaphore Nat} (h : p.semaphore.resume eager task = some (got, granted, s)) :
    p.semaphore.tasks.Perm (task :: s.tasks) := by
  obtain ⟨t, hgrants, -, hperm, -⟩ := Semaphore.resume_spec h
  exact hgrants.tasks ▸ hperm

theorem tasks_finish (p : WorkerPool) (task : Nat) :
    (p.finish task).2.semaphore.tasks = p.semaphore.tasks ∧ (p.finish task).2.calls = p.calls := by
  unfold WorkerPool.finish
  split
  · exact ⟨(Semaphore.grants_release p.semaphore).tasks, rfl⟩
  · exact ⟨rfl, rfl⟩

theorem Numbered.step {p : WorkerPool} (h : Numbered p) (eager : Bool) (e : PoolEvent) :
    Numbered (p.step eager e).2 := by
  cases e with
  | call => exact h.call
  | cancel task => exact h.of_eq (Semaphore.tasks_cancel p.semaphore task) rfl
  | resume task =>
    change Numbered (p.resume eager task).2
    unfold WorkerPool.resume
    cases hresume : p.semaphore.resume eager task with
    | none => exact h
    | some r =>
      have hperm := tasks_resume hresume
      exact ⟨(List.nodup_cons.mp (hperm.nodup_iff.mp h.nodup)).2, fun t ht ↦
        h.lt t (hperm.mem_iff.mpr (List.mem_cons_of_mem _ ht))⟩
  | finish task => exact h.of_eq (tasks_finish p task).1 (tasks_finish p task).2
  | scaleUpTo targetConcurrency =>
    change Numbered (p.scaleUpTo targetConcurrency).2
    unfold WorkerPool.scaleUpTo
    split
    · exact h
    · split
      · exact h
      · exact h.of_eq (Semaphore.grants_releases _ p.semaphore).tasks rfl

/-- Going on uses up what the calls can do. -/
theorem remaining_lt {eager : Bool} {p : WorkerPool} {e : PoolEvent} (h : GoesOn eager p e) :
    (p.step eager e).2.remaining < p.remaining := by
  cases e with
  | resume task =>
    change (p.resume eager task).2.remaining < p.remaining
    unfold WorkerPool.resume
    cases hresume : p.semaphore.resume eager task with
    | none =>
      change (p.semaphore.resume eager task).isSome at h
      rw [hresume] at h
      cases h
    | some r =>
      obtain ⟨got, granted, s⟩ := r
      have hlength := (tasks_resume hresume).length_eq
      have hstarted : (if got then [task] else []).length ≤ 1 := by split <;> simp
      change 2 * s.tasks.length + (p.running ++ _).length <
        2 * p.semaphore.tasks.length + p.running.length
      rw [List.length_append]
      rw [List.length_cons] at hlength
      omega
  | finish task =>
    have hmem : task ∈ p.running := h
    have hrunning : (p.finish task).2.running = p.running.erase task := by
      rw [WorkerPool.finish, if_pos hmem]
    have hlength := List.length_erase_of_mem hmem
    have hpos := List.length_pos_of_mem hmem
    change 2 * (p.finish task).2.semaphore.tasks.length + (p.finish task).2.running.length <
      2 * p.semaphore.tasks.length + p.running.length
    rw [(tasks_finish p task).1, hrunning]
    omega
  | call => exact h.elim
  | cancel task => exact h.elim
  | scaleUpTo targetConcurrency => exact h.elim

/-- A pool in which nothing can go on is at rest: a free slot would have been handed on. -/
theorem rest_of_not_goesOn {eager : Bool} {p : WorkerPool} (haccounted : SlotsAccounted p)
    (hnumbered : Numbered p) (hpos : 1 ≤ p.maxConcurrency) (h : ∀ e, ¬GoesOn eager p e) :
    p.semaphore.waiters = [] ∧ p.running = [] ∧ (p.semaphore.value : Int) = p.maxConcurrency := by
  have hrunning : p.running = [] :=
    List.eq_nil_iff_forall_not_mem.mpr fun task ↦ h (.finish task)
  have hall : ∀ w ∈ p.semaphore.waiters, w.ticket = .pending := by
    intro w hw
    have hnone : p.semaphore.resume eager w.task = none :=
      Option.not_isSome_iff_eq_none.mp (h (.resume w.task))
    have hfound : p.semaphore.waiter? w.task = some w := by
      obtain ⟨w', hw'⟩ := Option.isSome_iff_exists.mp
        (List.find?_isSome.mpr ⟨w, hw, decide_eq_true rfl⟩ :
          (p.semaphore.waiter? w.task).isSome)
      have htask : w'.task = w.task := by simpa using List.find?_some hw'
      have hmem := List.mem_of_find?_eq_some hw'
      rw [Semaphore.waiter?, hw', List.inj_on_of_nodup_map hnumbered.nodup hmem hw htask]
    exact Semaphore.resume_eq_none hnone hfound
  have hhanded : p.semaphore.handed = 0 :=
    List.countP_eq_zero.mpr fun w hw ↦ by simp [hall w hw, Ticket.hasSlot]
  have hslots := haccounted.slots
  rw [hrunning, hhanded] at hslots
  have hvalue : (p.semaphore.value : Int) = p.maxConcurrency := by
    simpa using hslots
  refine ⟨?_, hrunning, hvalue⟩
  by_contra hne
  have hpending : p.semaphore.pending ≠ [] := by
    rw [Semaphore.pending, List.filter_eq_self.mpr fun w hw ↦ decide_eq_true (hall w hw)]
    exact fun hnil ↦ hne (List.map_eq_nil_iff.mp hnil)
  have halert := haccounted.alert (by omega) hpending
  omega

/-- **Nobody waits for ever.**  After any run, the calls that are there go on so many times at most,
each being resumed once and ending once; and when none of them can go on any more, all slots are
free and every call has had one, but for those that gave up waiting. -/
theorem pool_drains (eager : Bool) {maxConcurrency : Int} {p : WorkerPool}
    (hnew : WorkerPool.new maxConcurrency = .ok p) (events moves : List PoolEvent)
    (hmoves : Run.Along (WorkerPool.step eager) (GoesOn eager)
      (Run.exec (WorkerPool.step eager) p events) moves) :
    moves.length ≤ (Run.exec (WorkerPool.step eager) p events).remaining ∧
      let q := Run.exec (WorkerPool.step eager) p (events ++ moves)
      let history := Run.trace (WorkerPool.step eager) p (events ++ moves)
      (∀ e, ¬GoesOn eager q e) →
        q.semaphore.waiters = [] ∧ q.running = [] ∧ (q.semaphore.value : Int) = q.maxConcurrency ∧
          grantedOf history = (List.range q.calls).filter (· ∉ withdrawnOf history) := by
  refine ⟨Run.length_le_of_decreasing (P := fun _ ↦ True)
    (fun q e hmove _ ↦ ⟨trivial, remaining_lt hmove⟩) hmoves trivial, fun hrest ↦ ?_⟩
  have hany : Run.Along (WorkerPool.step eager) (fun _ _ ↦ True) p (events ++ moves) :=
    Run.along_of_forall (fun _ _ ↦ trivial) p (events ++ moves)
  have hnumbered : Numbered (Run.exec (WorkerPool.step eager) p (events ++ moves)) := by
    refine Run.exec_invariant (P := Numbered) (fun _ e _ hp ↦ hp.step eager e) hany ?_
    obtain ⟨-, rfl⟩ := new_eq_ok hnew
    exact ⟨List.nodup_nil, nofun⟩
  have hpos : 1 ≤ (Run.exec (WorkerPool.step eager) p (events ++ moves)).maxConcurrency := by
    refine Run.exec_invariant (P := fun q : WorkerPool ↦ 1 ≤ q.maxConcurrency)
      (fun _ e _ hp ↦ one_le_maxConcurrency_step eager hp e) hany ?_
    obtain ⟨hle, rfl⟩ := new_eq_ok hnew
    exact hle
  obtain ⟨hwaiters, hrunning, hvalue⟩ := rest_of_not_goesOn
    (accounted_exec (accounted_new hnew) eager (events ++ moves)) hnumbered hpos hrest
  have horder := (inOrder_trace eager hnew (events ++ moves)).order
  rw [Semaphore.pending, hwaiters, List.filter_nil, List.map_nil, List.append_nil] at horder
  exact ⟨hwaiters, hrunning, hvalue, horder⟩

/-- A call that waits behind another one gets its turn. -/
theorem pool_drains_two : 3 ≤ (Run.exec (WorkerPool.step false) ⟨1, ⟨1, []⟩, [], 0⟩
    [.call, .call]).remaining :=
  (pool_drains false (rfl : WorkerPool.new 1 = .ok _) [.call, .call] [.finish 0, .resume 1, .finish 1]
    ⟨List.mem_singleton.mpr rfl, rfl, List.mem_singleton.mpr rfl, trivial⟩).1

end Core
end ExoBrain
