import Mathlib.Algebra.BigOperators.Group.List.Basic
import Mathlib.Algebra.Ring.Int.Defs
import Mathlib.Data.Int.Order.Basic
import Mathlib.Data.List.Induction

/-!
# A counter over a window of time

A counter adds up amounts in a window of fixed length.  Nothing happens when the window is over; the
next access, to read the counter or to add to it, notices and starts a new window.

* `roll` is what an access sees, `advance` what it leaves, and `run` the counter after a sequence of
  accesses, each with its time and the amount it adds.
* `Counts` says what the counter should be: the amounts since the start of its window, which is no
  older than its length.  `counts_run` proves it for accesses in the order of their times.
-/

set_option autoImplicit false

namespace Window

/-- The start of the window, and what was added since. -/
@[ext]
structure Counter where
  start : Int
  amount : Int
deriving DecidableEq, Repr

/-- What an access at `now` sees. -/
def roll (length now : Int) : Option Counter → Counter
  | none => ⟨now, 0⟩
  | some w => if length ≤ now - w.start then ⟨now, 0⟩ else w

/-- What an access leaves that adds `access.2` at `access.1`. -/
def advance (length : Int) (w : Option Counter) (access : Int × Int) : Counter :=
  let rolled := roll length access.1 w
  { rolled with amount := rolled.amount + access.2 }

/-- The counter after the accesses, if there were any. -/
def run (length : Int) (log : List (Int × Int)) : Option Counter :=
  log.foldl (fun w access ↦ some (advance length w access)) none

/-- The amounts added at `start` or later. -/
def since (start : Int) (log : List (Int × Int)) : Int :=
  ((log.filter fun access ↦ start ≤ access.1).map Prod.snd).sum

variable {length now x start : Int} {log : List (Int × Int)} {w : Counter}

@[simp] theorem run_nil (length : Int) : run length [] = none := rfl

@[simp] theorem run_append (length : Int) (log : List (Int × Int)) (access : Int × Int) :
    run length (log ++ [access]) = some (advance length (run length log) access) := by
  rw [run, List.foldl_append]
  rfl

theorem run_eq_none_iff : run length log = none ↔ log = [] := by
  cases log using List.reverseRecOn with
  | nil => simp
  | append_singleton log access => simp

/-- An access that adds nothing leaves what it sees. -/
@[simp] theorem advance_zero (length now : Int) (w : Option Counter) :
    advance length w (now, 0) = roll length now w := by
  rw [advance, Int.add_zero]

theorem since_append (start : Int) (log log' : List (Int × Int)) :
    since start (log ++ log') = since start log + since start log' := by
  rw [since, List.filter_append, List.map_append, List.sum_append]
  rfl

theorem since_singleton (h : start ≤ now) : since start [(now, x)] = x := by
  simp [since, h]

@[simp] theorem since_append_zero (start : Int) (log : List (Int × Int)) (now : Int) :
    since start (log ++ [(now, 0)]) = since start log := by
  have hzero : since start [(now, 0)] = 0 := by
    rw [since, List.filter_singleton]
    cases decide (start ≤ (now, (0 : Int)).1) <;> rfl
  rw [since_append, hzero, Int.add_zero]

theorem since_eq_zero (h : ∀ access ∈ log, access.1 < start) : since start log = 0 := by
  have hnone : log.filter (fun access ↦ start ≤ access.1) = [] := by
    rw [List.filter_eq_nil_iff]
    intro access haccess
    simpa using h access haccess
  rw [since, hnone]
  rfl

/-- A window starts at an access. -/
theorem exists_start_eq (h : run length log = some w) : ∃ access ∈ log, access.1 = w.start := by
  induction log using List.reverseRecOn generalizing w with
  | nil => exact nomatch h
  | append_singleton log access ih =>
    rw [run_append, Option.some_inj] at h
    have hnow : (advance length (run length log) access).start = access.1 ∨
        ∃ w', run length log = some w' ∧
          (advance length (run length log) access).start = w'.start := by
      cases hrun : run length log with
      | none => exact .inl rfl
      | some w' =>
        rw [advance, roll]
        split
        · exact .inl rfl
        · exact .inr ⟨w', rfl, rfl⟩
    rw [h] at hnow
    rcases hnow with hnow | ⟨w', hw', hstart⟩
    · exact ⟨access, by simp, hnow.symm⟩
    · obtain ⟨access', hmem, heq⟩ := ih hw'
      exact ⟨access', List.mem_append_left _ hmem, heq.trans hstart.symm⟩

/-- What the counter should be after the accesses: the amounts since its start, which the last
access found less than `length` ago. -/
structure Counts (length : Int) (log : List (Int × Int)) (w : Counter) : Prop where
  amount_eq : w.amount = since w.start log
  recent : ∃ last ∈ log.getLast?, w.start ≤ last.1 ∧ last.1 - w.start ≤ length - 1

/-- In a log in order of time, no access is after the last one. -/
theorem le_last (hsorted : log.Pairwise fun a b ↦ a.1 ≤ b.1) {last : Int × Int}
    (hlast : last ∈ log.getLast?) {access : Int × Int} (haccess : access ∈ log) :
    access.1 ≤ last.1 := by
  obtain ⟨log, rfl⟩ := List.getLast?_eq_some_iff.mp hlast
  rcases List.mem_append.mp haccess with haccess | haccess
  · exact (List.pairwise_append.mp hsorted).2.2 access haccess last (List.mem_singleton_self last)
  · rw [List.mem_singleton.mp haccess]

/-- One more access, not before the others. -/
theorem counts_advance (hlength : 1 ≤ length) {access : Int × Int}
    (hsorted : (log ++ [access]).Pairwise fun a b ↦ a.1 ≤ b.1)
    (h : ∀ w, run length log = some w → Counts length log w) :
    Counts length (log ++ [access]) (advance length (run length log) access) := by
  obtain ⟨now, x⟩ := access
  obtain ⟨hlog, -, hbefore⟩ := List.pairwise_append.mp hsorted
  have hlast : (now, x) ∈ (log ++ [(now, x)]).getLast? := by simp
  cases hrun : run length log with
  | none =>
    have hnil : log = [] := run_eq_none_iff.mp hrun
    refine ⟨?_, (now, x), hlast, Int.le_refl _, ?_⟩
    · simp [advance, roll, hnil, since]
    · simp only [advance, roll]
      omega
  | some w =>
    obtain ⟨hamount, last, hmem, hle, hrecent⟩ := h w hrun
    simp only [advance, roll]
    split
    · rename_i hover
      refine ⟨?_, (now, x), hlast, Int.le_refl _, by simp only; omega⟩
      -- the window was not over at the last access, so that one was before `now`, and so were all
      have hnone : since now log = 0 := by
        refine since_eq_zero fun earlier hearlier ↦ ?_
        have hle' := le_last hlog hmem hearlier
        omega
      rw [since_append, since_singleton (Int.le_refl now), hnone]
    · have hnow : w.start ≤ now :=
        Int.le_trans hle (hbefore last (List.mem_of_getLast? hmem) (now, x)
          (List.mem_singleton_self _))
      refine ⟨?_, (now, x), hlast, hnow, by simp only; omega⟩
      rw [since_append, since_singleton hnow, hamount]

/-- **The counter counts**, after any accesses in the order of their times. -/
theorem counts_run (hlength : 1 ≤ length) (hsorted : log.Pairwise fun a b ↦ a.1 ≤ b.1)
    (h : run length log = some w) : Counts length log w := by
  induction log using List.reverseRecOn generalizing w with
  | nil => exact nomatch h
  | append_singleton log access ih =>
    rw [run_append, Option.some_inj] at h
    rw [← h]
    exact counts_advance hlength hsorted fun w hw ↦ ih (List.pairwise_append.mp hsorted).1 hw

end Window
