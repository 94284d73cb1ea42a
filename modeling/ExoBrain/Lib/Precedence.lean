import Mathlib.Logic.Relation
import Mathlib.Order.WellFounded

/-!
# Tasks that wait for one another

`dep n m` says that the task `n` waits for the task `m`, and `ok n` that `n` would succeed if it
were started.  A scheduler that starts a task when everything it waits for has succeeded, and gives
up on a task when something it waits for has failed, has no choice about the result: every task
completes, fails or is blocked, and these three are functions of `dep` and `ok`.

* `Completes`, `Fails` and `Blocked` are the three verdicts, and `completes_or_fails_or_blocked`
  says that there is no fourth as long as no task waits for itself, however indirectly.
* `Books` is what a scheduler has to keep true of the tasks it wrote down as completed and as
  failed, and `Books.completed_iff` and `Books.failed_iff` say that they are right in the end.
* `transGen_of_closed` is the rule for everything that is passed on from a task to those that wait
  for it.
-/

set_option autoImplicit false

namespace Precedence

open Relation

universe u

variable {ν : Type u}

/-- The task succeeds, and so does everything it waits for. -/
def Completes (dep : ν → ν → Prop) (ok : ν → Prop) (n : ν) : Prop :=
  ok n ∧ ∀ m, TransGen dep n m → ok m

/-- The task is started, and does not succeed. -/
def Fails (dep : ν → ν → Prop) (ok : ν → Prop) (n : ν) : Prop :=
  ¬ok n ∧ ∀ m, TransGen dep n m → ok m

/-- Something the task waits for fails. -/
def Blocked (dep : ν → ν → Prop) (ok : ν → Prop) (n : ν) : Prop :=
  ∃ m, TransGen dep n m ∧ Fails dep ok m

variable {dep : ν → ν → Prop} {ok : ν → Prop} {n m : ν}

/-! ## One of them holds -/

/-- Where something does not succeed, something is the first to fail. -/
theorem fails_or_blocked_of_not_ok (hwf : WellFounded fun m n ↦ dep n m) (hok : ¬ok n) :
    Fails dep ok n ∨ Blocked dep ok n := by
  induction n using hwf.transGen.induction with
  | _ n ih =>
    by_cases hall : ∀ m, TransGen dep n m → ok m
    · exact .inl ⟨hok, hall⟩
    · push Not at hall
      obtain ⟨m, hnm, hm⟩ := hall
      rcases ih m (transGen_swap.mpr hnm) hm with hfails | ⟨k, hmk, hfails⟩
      · exact .inr ⟨m, hnm, hfails⟩
      · exact .inr ⟨k, hnm.trans hmk, hfails⟩

/-- **Every task completes, fails or is blocked.** -/
theorem completes_or_fails_or_blocked (hwf : WellFounded fun m n ↦ dep n m) (n : ν) :
    Completes dep ok n ∨ Fails dep ok n ∨ Blocked dep ok n := by
  by_cases hall : ∀ m, TransGen dep n m → ok m
  · by_cases hok : ok n
    · exact .inl ⟨hok, hall⟩
    · exact .inr (.inl ⟨hok, hall⟩)
  · push Not at hall
    obtain ⟨m, hnm, hm⟩ := hall
    rcases fails_or_blocked_of_not_ok hwf hm with hfails | ⟨k, hmk, hfails⟩
    · exact .inr (.inr ⟨m, hnm, hfails⟩)
    · exact .inr (.inr ⟨k, hnm.trans hmk, hfails⟩)

theorem Completes.of_dep (h : Completes dep ok n) (hnm : dep n m) : Completes dep ok m :=
  ⟨h.2 m (.single hnm), fun k hmk ↦ h.2 k (.head hnm hmk)⟩

theorem Fails.of_dep (h : Fails dep ok n) (hnm : dep n m) : Completes dep ok m :=
  ⟨h.2 m (.single hnm), fun k hmk ↦ h.2 k (.head hnm hmk)⟩

/-- What holds of the tasks that wait directly for `m`, and is passed on to those that wait for
them, holds of everything that waits for `m`. -/
theorem transGen_of_closed {P : ν → Prop} (hdirect : ∀ n, dep n m → P n)
    (hpass : ∀ n k, dep n k → P k → P n) (h : TransGen dep n m) : P n := by
  induction h using TransGen.head_induction_on with
  | single h => exact hdirect _ h
  | head h _ ih => exact hpass _ _ h ih

/-! ## A scheduler's books -/

/-- What a scheduler keeps true of the tasks it wrote down as completed and as failed: they are
what they are said to be, and everything they wait for was completed before. -/
structure Books (dep : ν → ν → Prop) (ok : ν → Prop) (completed failed : ν → Prop) : Prop where
  completed_ok : ∀ n, completed n → ok n
  failed_not_ok : ∀ n, failed n → ¬ok n
  deps : ∀ n m, completed n ∨ failed n → dep n m → completed m

namespace Books

variable {completed failed : ν → Prop}

theorem completed_of_transGen (h : Books dep ok completed failed) (hn : completed n ∨ failed n)
    (hnm : TransGen dep n m) : completed m := by
  induction hnm with
  | single hdep => exact h.deps n _ hn hdep
  | tail _ hdep ih => exact h.deps _ _ (.inl ih) hdep

theorem completes (h : Books dep ok completed failed) (hn : completed n) : Completes dep ok n :=
  ⟨h.completed_ok n hn, fun m hnm ↦ h.completed_ok m (h.completed_of_transGen (.inl hn) hnm)⟩

theorem fails (h : Books dep ok completed failed) (hn : failed n) : Fails dep ok n :=
  ⟨h.failed_not_ok n hn, fun m hnm ↦ h.completed_ok m (h.completed_of_transGen (.inr hn) hnm)⟩

/-- The tasks `known` are all written down that wait for nothing that is not completed. -/
def Closed (dep : ν → ν → Prop) (known completed failed : ν → Prop) : Prop :=
  ∀ n, known n → (∀ m, dep n m → completed m) → completed n ∨ failed n

variable {known : ν → Prop}

/-- **The completed tasks are those that complete**, once everything that can be started is
written down. -/
theorem completed_iff (h : Books dep ok completed failed)
    (hwf : WellFounded fun m n ↦ dep n m) (hknown : ∀ n m, dep n m → known m)
    (hclosed : Closed dep known completed failed) (hn : known n) :
    completed n ↔ Completes dep ok n := by
  refine ⟨h.completes, fun hcompletes ↦ ?_⟩
  induction n using hwf.induction with
  | _ n ih =>
    have hdeps : ∀ m, dep n m → completed m := fun m hnm ↦
      ih m hnm (hknown n m hnm) (hcompletes.of_dep hnm)
    exact (hclosed n hn hdeps).resolve_right fun hfailed ↦ (h.fails hfailed).1 hcompletes.1

/-- **The failed tasks are those that fail.** -/
theorem failed_iff (h : Books dep ok completed failed)
    (hwf : WellFounded fun m n ↦ dep n m) (hknown : ∀ n m, dep n m → known m)
    (hclosed : Closed dep known completed failed) (hn : known n) :
    failed n ↔ Fails dep ok n := by
  refine ⟨h.fails, fun hfails ↦ ?_⟩
  have hdeps : ∀ m, dep n m → completed m := fun m hnm ↦
    (h.completed_iff hwf hknown hclosed (hknown n m hnm)).mpr (hfails.of_dep hnm)
  exact (hclosed n hn hdeps).resolve_left fun hcompleted ↦ hfails.1 (h.completed_ok n hcompleted)

end Books

end Precedence
