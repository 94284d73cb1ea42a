import Mathlib.Data.List.Basic
import Mathlib.Data.List.Count

/-!
# A counting semaphore with a queue of futures

`asyncio.Semaphore`: a counter, and a queue of tasks that each wait on a future of their own.

* `acquire` takes a slot at once if there is one and nobody is in the queue who may still want it.
* `release` gives a slot back and hands it to the first task that still waits.  That task has the
  slot from then on, although it does not run before the event loop gets to it (`resume`).
* `cancel` cancels the task of a waiter.  Before its future has a result, this cancels the future;
  afterwards the task learns of it when it is resumed, and hands the slot on.

Versions of the library differ in what a resumed task does: with `eager`, it wakes as many others as
there are slots, and otherwise at most one.  Everything below holds for both.

`Grants` is what waking tasks comes to: the head of the queue is served.  `Alert` is the invariant
that no wake-up is lost: while somebody waits, a free slot has somebody to hand it on.
-/

set_option autoImplicit false

/-- What has become of the future of a waiter. -/
inductive Ticket
  /-- It has no result. -/
  | pending
  /-- It has its result: the waiter has a slot. -/
  | granted
  /-- It has its result, and the task was cancelled after that. -/
  | revoked
  /-- It was cancelled. -/
  | cancelled
  deriving DecidableEq, Repr

/-- Does the waiter have a slot? -/
def Ticket.hasSlot : Ticket → Bool
  | granted | revoked => true
  | pending | cancelled => false

/-- What a future becomes if its task is cancelled. -/
def Ticket.cancel : Ticket → Ticket
  | pending | cancelled => cancelled
  | granted | revoked => revoked

/-- An entry of the queue. -/
structure Waiter (α : Type) where
  task : α
  ticket : Ticket
  deriving DecidableEq, Repr

structure Semaphore (α : Type) where
  value : Nat
  waiters : List (Waiter α)
  deriving DecidableEq, Repr

namespace Semaphore

variable {α : Type}

/-- The tasks that wait for a slot, in order. -/
def pending (s : Semaphore α) : List α :=
  (s.waiters.filter fun w ↦ w.ticket = .pending).map Waiter.task

/-- The number of slots that were handed to tasks which were not resumed yet. -/
def handed (s : Semaphore α) : Nat :=
  s.waiters.countP fun w ↦ w.ticket.hasSlot

/-- All tasks in the queue. -/
def tasks (s : Semaphore α) : List α :=
  s.waiters.map Waiter.task

def locked (s : Semaphore α) : Bool :=
  s.value == 0 || s.waiters.any fun w ↦ w.ticket ≠ .cancelled

/-- The first future without a result gets one. -/
def grantFirst : List (Waiter α) → List (Waiter α)
  | [] => []
  | w :: ws =>
    if w.ticket = .pending then { w with ticket := .granted } :: ws else w :: grantFirst ws

/-- `_wake_up_next`, with the task that is woken.  It is only called if there is a slot. -/
def wakeUpNext (s : Semaphore α) : List α × Semaphore α :=
  match s.pending with
  | [] => ([], s)
  | a :: _ => ([a], ⟨s.value - 1, grantFirst s.waiters⟩)

/-- `_wake_up_next`, so many times. -/
def wakeUp : Nat → Semaphore α → List α × Semaphore α
  | 0, s => ([], s)
  | n + 1, s =>
    let (first, s) := s.wakeUpNext
    let (others, s) := s.wakeUp n
    (first ++ others, s)

/-- What a resumed task does for the others: it wakes them as far as there are slots. -/
def passOn (eager : Bool) (s : Semaphore α) : List α × Semaphore α :=
  s.wakeUp (if eager then s.value else min 1 s.value)

/-- Take a slot, or queue up: `true` if the slot was taken at once. -/
def acquire (s : Semaphore α) (a : α) : Bool × Semaphore α :=
  if s.locked then (false, { s with waiters := s.waiters ++ [⟨a, .pending⟩] })
  else (true, { s with value := s.value - 1 })

def release (s : Semaphore α) : List α × Semaphore α :=
  ({ s with value := s.value + 1 } : Semaphore α).wakeUpNext

/-- `release`, so many times. -/
def releases : Nat → Semaphore α → List α × Semaphore α
  | 0, s => ([], s)
  | n + 1, s =>
    let (first, s) := s.release
    let (others, s) := s.releases n
    (first ++ others, s)

section DecidableEq

variable [DecidableEq α]

/-- The entry of a task that is in the queue. -/
def waiter? (s : Semaphore α) (a : α) : Option (Waiter α) :=
  s.waiters.find? fun w ↦ w.task = a

/-- The queue without a task. -/
def without (s : Semaphore α) (a : α) : Semaphore α :=
  { s with waiters := s.waiters.eraseP fun w ↦ w.task = a }

/-- The task of a waiter is cancelled. -/
def cancel (s : Semaphore α) (a : α) : Semaphore α :=
  { s with
    waiters := s.waiters.map fun w ↦ if w.task = a then { w with ticket := w.ticket.cancel } else w }

/-- The event loop gets to a waiter whose future is done: does it have its slot, and whom does it
wake?  There is nothing to do for a task that still waits, or does not wait. -/
def resume (eager : Bool) (s : Semaphore α) (a : α) : Option (Bool × List α × Semaphore α) :=
  match (s.waiter? a).map Waiter.ticket with
  | none | some .pending => none
  | some .granted => some (true, (s.without a).passOn eager)
  | some .revoked =>
    some (false, ({ s.without a with value := s.value + 1 } : Semaphore α).passOn eager)
  | some .cancelled =>
    some (false, if eager then (s.without a).passOn eager else ([], s.without a))

end DecidableEq

/-! ### Waking tasks -/

/-- The head of the queue is served, and nothing else happens. -/
structure Grants (s : Semaphore α) (g : List α) (s' : Semaphore α) : Prop where
  pending : s.pending = g ++ s'.pending
  value : s'.value + g.length = s.value
  handed : s'.handed = s.handed + g.length
  tasks : s'.tasks = s.tasks

/-- **No wake-up is lost**: while somebody waits, a free slot has somebody to hand it on. -/
def Alert (s : Semaphore α) : Prop :=
  0 < s.value → s.pending ≠ [] → 0 < s.handed

theorem Grants.refl (s : Semaphore α) : Grants s [] s :=
  ⟨rfl, rfl, rfl, rfl⟩

theorem Grants.trans {s t u : Semaphore α} {g h : List α} (hst : Grants s g t)
    (htu : Grants t h u) : Grants s (g ++ h) u where
  pending := by rw [hst.pending, htu.pending, List.append_assoc]
  value := by
    have hvalue := hst.value
    have hvalue' := htu.value
    rw [List.length_append]
    omega
  handed := by rw [htu.handed, hst.handed, List.length_append, Nat.add_assoc]
  tasks := htu.tasks.trans hst.tasks

theorem map_task_grantFirst (ws : List (Waiter α)) :
    (grantFirst ws).map Waiter.task = ws.map Waiter.task := by
  induction ws with
  | nil => rfl
  | cons w ws ih =>
    rw [grantFirst]
    split
    · rfl
    · rw [List.map_cons, ih, List.map_cons]

theorem grantFirst_of_pending {ws : List (Waiter α)} {a : α} {as : List α}
    (h : (ws.filter fun w ↦ w.ticket = .pending).map Waiter.task = a :: as) :
    ((grantFirst ws).filter fun w ↦ w.ticket = .pending).map Waiter.task = as ∧
      (grantFirst ws).countP (fun w ↦ w.ticket.hasSlot) =
        ws.countP (fun w ↦ w.ticket.hasSlot) + 1 := by
  induction ws with
  | nil => cases h
  | cons w ws ih =>
    rw [grantFirst]
    by_cases hw : w.ticket = .pending
    · rw [List.filter_cons_of_pos (by simpa using hw), List.map_cons] at h
      rw [if_pos hw, List.filter_cons_of_neg (by simp), List.countP_cons_of_pos rfl,
        List.countP_cons_of_neg (by simp [hw, Ticket.hasSlot])]
      exact ⟨(List.cons.inj h).2, rfl⟩
    · rw [List.filter_cons_of_neg (by simpa using hw)] at h
      obtain ⟨hpending, hhanded⟩ := ih h
      rw [if_neg hw, List.filter_cons_of_neg (by simpa using hw), List.countP_cons, hhanded,
        List.countP_cons]
      exact ⟨hpending, by omega⟩

theorem grants_wakeUpNext {s : Semaphore α} (hvalue : 0 < s.value) :
    Grants s s.wakeUpNext.1 s.wakeUpNext.2 := by
  unfold wakeUpNext
  cases hp : s.pending with
  | nil => exact Grants.refl s
  | cons a as =>
    obtain ⟨hpending, hhanded⟩ := grantFirst_of_pending hp
    exact ⟨hp.trans (congrArg (a :: ·) hpending.symm), Nat.sub_add_cancel hvalue, hhanded,
      map_task_grantFirst s.waiters⟩

/-- Somebody is woken if somebody waits. -/
theorem pending_eq_nil_of_wakeUpNext {s : Semaphore α} (h : s.wakeUpNext.1 = []) :
    s.pending = [] := by
  unfold wakeUpNext at h
  cases hp : s.pending with
  | nil => rfl
  | cons a as => rw [hp] at h; cases h

theorem grants_wakeUp {s : Semaphore α} {n : Nat} (hn : n ≤ s.value) :
    Grants s (s.wakeUp n).1 (s.wakeUp n).2 := by
  induction n generalizing s with
  | zero => exact Grants.refl s
  | succ n ih =>
    have hfirst := grants_wakeUpNext (Nat.lt_of_lt_of_le n.succ_pos hn)
    have hvalue := hfirst.value
    have hle : s.wakeUpNext.1.length ≤ 1 := by
      unfold wakeUpNext
      split <;> simp
    exact hfirst.trans (ih (by omega))

theorem passOn_le (eager : Bool) (s : Semaphore α) :
    (if eager then s.value else min 1 s.value) ≤ s.value := by
  split
  · exact Nat.le_refl _
  · exact Nat.min_le_right ..

theorem grants_passOn (eager : Bool) (s : Semaphore α) :
    Grants s (s.passOn eager).1 (s.passOn eager).2 :=
  grants_wakeUp (passOn_le eager s)

theorem grants_release (s : Semaphore α) :
    Grants { s with value := s.value + 1 } s.release.1 s.release.2 :=
  grants_wakeUpNext (Nat.succ_pos s.value)

/-- Waking somebody wakes somebody, or there is nobody to wake. -/
theorem Grants.alert {s s' : Semaphore α} {g : List α} (h : Grants s g s')
    (hg : g = [] → s.value = 0 ∨ s.pending = []) : Alert s' := by
  intro hvalue hpending
  cases g with
  | nil =>
    rcases hg rfl with hzero | hnil
    · have hval := h.value
      rw [List.length_nil] at hval
      omega
    · exact absurd (h.pending.symm.trans hnil) hpending
  | cons a as =>
    rw [h.handed]
    exact Nat.add_pos_right _ (Nat.succ_pos _)

theorem alert_passOn (eager : Bool) (s : Semaphore α) : Alert (s.passOn eager).2 := by
  refine (grants_passOn eager s).alert fun hnone ↦ ?_
  rcases Nat.eq_zero_or_pos s.value with hzero | hpos
  · exact .inl hzero
  · obtain ⟨n, hn⟩ : ∃ n, (if eager then s.value else min 1 s.value) = n + 1 := by
      refine Nat.exists_eq_add_one.mpr ?_
      split <;> omega
    rw [passOn, hn] at hnone
    exact .inr (pending_eq_nil_of_wakeUpNext (List.append_eq_nil_iff.mp hnone).1)

theorem alert_release (s : Semaphore α) : Alert s.release.2 :=
  (grants_release s).alert fun hnone ↦ .inr (pending_eq_nil_of_wakeUpNext hnone)

/-- Slots that come later are not touched. -/
theorem Grants.add {s t : Semaphore α} {g : List α} (h : Grants s g t) (n : Nat) :
    Grants { s with value := s.value + n } g { t with value := t.value + n } where
  pending := h.pending
  value := by
    have hvalue := h.value
    change t.value + n + g.length = s.value + n
    omega
  handed := h.handed
  tasks := h.tasks

theorem grants_releases (n : Nat) (s : Semaphore α) :
    Grants { s with value := s.value + n } (s.releases n).1 (s.releases n).2 := by
  induction n generalizing s with
  | zero => exact Grants.refl s
  | succ n ih =>
    have hfirst := (grants_release s).add n
    rw [show s.value + (n + 1) = s.value + 1 + n by omega]
    exact hfirst.trans (ih s.release.2)

theorem alert_releases {s : Semaphore α} (h : Alert s) (n : Nat) : Alert (s.releases n).2 := by
  induction n generalizing s with
  | zero => exact h
  | succ n ih => exact ih (alert_release s)

/-- Slots are neither made nor lost. -/
theorem Grants.slots {s t : Semaphore α} {g : List α} (h : Grants s g t) :
    t.value + t.handed = s.value + s.handed := by
  have hvalue := h.value
  have hhanded := h.handed
  omega

/-! ### The other operations -/

theorem acquire_of_not_locked {s : Semaphore α} {a : α} (h : s.locked = false) :
    (s.acquire a).1 = true ∧ (s.acquire a).2 = { s with value := s.value - 1 } ∧
      0 < s.value ∧ s.pending = [] ∧ s.handed = 0 := by
  have hacquire : s.acquire a = (true, { s with value := s.value - 1 }) := by
    rw [acquire, h]
    rfl
  rw [locked, Bool.or_eq_false_iff, List.any_eq_false] at h
  obtain ⟨hvalue, hnone⟩ := h
  refine ⟨by rw [hacquire], by rw [hacquire], Nat.pos_of_ne_zero (by simpa using hvalue), ?_, ?_⟩
  · refine List.map_eq_nil_iff.mpr (List.filter_eq_nil_iff.mpr fun w hw hpending ↦ hnone w hw ?_)
    simp [of_decide_eq_true hpending]
  · refine List.countP_eq_zero.mpr fun w hw hslot ↦ hnone w hw ?_
    cases ht : w.ticket <;> simp_all [Ticket.hasSlot]

theorem acquire_of_locked {s : Semaphore α} {a : α} (h : s.locked = true) :
    s.acquire a = (false, { s with waiters := s.waiters ++ [⟨a, .pending⟩] }) := by
  rw [acquire, h]
  rfl

theorem pending_append (s : Semaphore α) (a : α) :
    ({ s with waiters := s.waiters ++ [⟨a, .pending⟩] } : Semaphore α).pending =
      s.pending ++ [a] := by
  simp [pending]

theorem handed_append (s : Semaphore α) (a : α) :
    ({ s with waiters := s.waiters ++ [⟨a, .pending⟩] } : Semaphore α).handed = s.handed := by
  simp [handed, Ticket.hasSlot]

/-- Somebody who queues up although there is a slot finds somebody who will hand it on. -/
theorem alert_acquire {s : Semaphore α} (h : Alert s) (a : α) : Alert (s.acquire a).2 := by
  cases hlocked : s.locked with
  | false =>
    obtain ⟨-, hnext, -, hpending, -⟩ := acquire_of_not_locked (a := a) hlocked
    rw [hnext]
    exact fun _ hne ↦ absurd hpending hne
  | true =>
    rw [acquire_of_locked hlocked]
    intro hvalue _
    rw [handed_append]
    by_cases hpending : s.pending = []
    · rw [locked, Bool.or_eq_true, List.any_eq_true] at hlocked
      obtain ⟨w, hw, hlive⟩ := hlocked.resolve_left (by simpa using Nat.pos_iff_ne_zero.mp hvalue)
      refine List.countP_pos_iff.mpr ⟨w, hw, ?_⟩
      have hnot : w.ticket ≠ .pending := fun hp ↦ by
        simpa [hp] using List.filter_eq_nil_iff.mp (List.map_eq_nil_iff.mp hpending) w hw
      cases ht : w.ticket <;> simp_all [Ticket.hasSlot]
    · exact h hvalue hpending

section DecidableEq

variable [DecidableEq α]

theorem ticket_cancel_ne (t : Ticket) : t.cancel ≠ .pending := by
  cases t <;> nofun

theorem hasSlot_cancel (t : Ticket) : t.cancel.hasSlot = t.hasSlot := by
  cases t <;> rfl

@[simp]
theorem value_cancel (s : Semaphore α) (a : α) : (s.cancel a).value = s.value :=
  rfl

theorem pending_cancel (s : Semaphore α) (a : α) :
    (s.cancel a).pending = s.pending.filter (· ≠ a) := by
  simp only [pending, cancel]
  induction s.waiters with
  | nil => rfl
  | cons w ws ih =>
    by_cases hw : w.task = a <;> by_cases hp : w.ticket = .pending <;>
      simpa [hw, hp, ticket_cancel_ne] using ih

@[simp]
theorem handed_cancel (s : Semaphore α) (a : α) : (s.cancel a).handed = s.handed := by
  rw [handed, cancel, List.countP_map, handed]
  refine List.countP_congr fun w _ ↦ ?_
  rw [Function.comp_apply]
  split
  · rw [hasSlot_cancel]
  · rfl

@[simp]
theorem tasks_cancel (s : Semaphore α) (a : α) : (s.cancel a).tasks = s.tasks := by
  rw [tasks, cancel, List.map_map, tasks]
  refine List.map_congr_left fun w _ ↦ ?_
  rw [Function.comp_apply]
  split <;> rfl

theorem alert_cancel {s : Semaphore α} (h : Alert s) (a : α) : Alert (s.cancel a) := by
  intro hvalue hpending
  rw [handed_cancel]
  refine h hvalue fun hnil ↦ hpending ?_
  rw [pending_cancel, hnil]
  rfl

/-- A task that leaves the queue, and was not waiting for a slot any more. -/
theorem without_spec {s : Semaphore α} {a : α} {w : Waiter α} (h : s.waiter? a = some w)
    (hw : w.ticket ≠ .pending) :
    (s.without a).value = s.value ∧ (s.without a).pending = s.pending ∧
      (s.without a).handed + (if w.ticket.hasSlot then 1 else 0) = s.handed ∧
        s.tasks.Perm (a :: (s.without a).tasks) := by
  obtain ⟨htask, l, r, hwaiters, hl⟩ := List.find?_eq_some_iff_append.mp h
  have htask : w.task = a := of_decide_eq_true htask
  have herase : (s.without a).waiters = l ++ r := by
    rw [without, hwaiters, List.eraseP_append_right _ fun b hb ↦ by simpa using hl b hb,
      List.eraseP_cons_of_pos (by simpa using htask)]
  refine ⟨rfl, ?_, ?_, ?_⟩
  · rw [pending, herase, pending, hwaiters, List.filter_append, List.filter_append,
      List.filter_cons_of_neg (by simpa using hw)]
  · rw [handed, herase, handed, hwaiters, List.countP_append, List.countP_append, List.countP_cons,
      Nat.add_assoc]
  · rw [tasks, tasks, herase, hwaiters, List.map_append, List.map_append, List.map_cons, htask]
    exact List.perm_middle

/-- **What a resumed task does.**  It leaves the queue, with its slot or without it; if it had one and
does not want it any more, the slot is free again; and then it may wake others. -/
theorem resume_spec {eager : Bool} {s s' : Semaphore α} {a : α} {got : Bool} {g : List α}
    (h : s.resume eager a = some (got, g, s')) :
    ∃ t, Grants t g s' ∧ t.pending = s.pending ∧ s.tasks.Perm (a :: t.tasks) ∧
      t.value + t.handed + (if got then 1 else 0) = s.value + s.handed ∧ (Alert s → Alert s') := by
  rw [resume] at h
  cases hw : s.waiter? a with
  | none => rw [hw] at h; cases h
  | some w =>
    rw [hw, Option.map_some] at h
    have hleft := without_spec hw
    cases hticket : w.ticket with
    | pending => rw [hticket] at h; cases h
    | granted =>
      rw [hticket] at h hleft
      obtain ⟨hvalue, hpending, hhanded, htasks⟩ := hleft nofun
      obtain ⟨rfl, hpassed⟩ := Prod.mk.inj (Option.some.inj h)
      have hgrants := grants_passOn eager (s.without a)
      have halert := alert_passOn eager (s.without a)
      rw [hpassed] at hgrants halert
      refine ⟨_, hgrants, hpending, htasks, ?_, fun _ ↦ halert⟩
      rw [hvalue, ← hhanded]
      rfl
    | revoked =>
      rw [hticket] at h hleft
      obtain ⟨hvalue, hpending, hhanded, htasks⟩ := hleft nofun
      obtain ⟨rfl, hpassed⟩ := Prod.mk.inj (Option.some.inj h)
      have hgrants := grants_passOn eager { s.without a with value := s.value + 1 }
      have halert := alert_passOn eager { s.without a with value := s.value + 1 }
      rw [hpassed] at hgrants halert
      refine ⟨_, hgrants, hpending, htasks, ?_, fun _ ↦ halert⟩
      change s.value + 1 + (s.without a).handed + 0 = _
      rw [← hhanded]
      change _ = s.value + ((s.without a).handed + 1)
      omega
    | cancelled =>
      rw [hticket] at h hleft
      obtain ⟨hvalue, hpending, hhanded, htasks⟩ := hleft nofun
      have hhanded : (s.without a).handed = s.handed := hhanded
      obtain ⟨rfl, hpassed⟩ := Prod.mk.inj (Option.some.inj h)
      have hfree : (s.without a).value + (s.without a).handed + 0 = s.value + s.handed := by
        rw [hvalue, hhanded, Nat.add_zero]
      cases eager with
      | true =>
        have hgrants := grants_passOn true (s.without a)
        have halert := alert_passOn true (s.without a)
        rw [if_pos rfl] at hpassed
        rw [hpassed] at hgrants halert
        exact ⟨_, hgrants, hpending, htasks, hfree, fun _ ↦ halert⟩
      | false =>
        obtain ⟨rfl, rfl⟩ := Prod.mk.inj hpassed
        refine ⟨_, Grants.refl _, hpending, htasks, hfree, fun halert ↦ ?_⟩
        rwa [Alert, hvalue, hpending, hhanded]

/-- Only a task that still waits, or is not in the queue, is not resumed. -/
theorem resume_eq_none {eager : Bool} {s : Semaphore α} {a : α} (h : s.resume eager a = none)
    {w : Waiter α} (hw : s.waiter? a = some w) : w.ticket = .pending := by
  rw [resume, hw, Option.map_some] at h
  cases hticket : w.ticket <;> rw [hticket] at h <;> first | rfl | cases h

end DecidableEq

end Semaphore
