import Mathlib.Data.List.Dedup

/-!
# Who waits, in the order of arrival

A queue whose members may leave and come back is described by two things: the log of all
arrivals, oldest first and with repetitions, and the test that says who is waiting at present.
`waiting p log` lists those who wait in the order of their *last* arrival, which is what
`List.dedup` keeps.

`waiting_append` is the rule for a step of such a queue: some of those who waited leave, and new
ones arrive.
-/

set_option autoImplicit false

namespace Arrivals

universe u

variable {α : Type u} [DecidableEq α]

/-- Those who pass the test `p`, in the order in which they last arrived. -/
def waiting (p : α → Bool) (log : List α) : List α := log.dedup.filter p

theorem mem_waiting {p : α → Bool} {log : List α} {k : α} :
    k ∈ waiting p log ↔ k ∈ log ∧ p k = true := by
  rw [waiting, List.mem_filter, List.mem_dedup]

theorem waiting_nodup (p : α → Bool) (log : List α) : (waiting p log).Nodup :=
  (List.nodup_dedup log).filter p

/-- An arrival moves to the end, wherever it was before. -/
theorem dedup_append_eq (log new : List α) :
    (log ++ new).dedup = (log.dedup.filter fun k ↦ k ∉ new) ++ new.dedup := by
  induction log with
  | nil => rfl
  | cons a log ih =>
    rw [List.cons_append]
    by_cases hlog : a ∈ log
    · rw [List.dedup_cons_of_mem (List.mem_append_left new hlog), List.dedup_cons_of_mem hlog, ih]
    · rw [List.dedup_cons_of_notMem hlog]
      by_cases hnew : a ∈ new
      · rw [List.dedup_cons_of_mem (List.mem_append_right log hnew), ih,
          List.filter_cons_of_neg (by simpa using hnew)]
      · rw [List.dedup_cons_of_notMem (by simp [hlog, hnew]), ih,
          List.filter_cons_of_pos (by simpa using hnew), List.cons_append]

/-- **One step of a queue.**  If nobody waits afterwards who neither waited before nor arrived, and
those who arrived did not wait before, then the new queue is what is left of the old one, followed
by the arrivals. -/
theorem waiting_append {p p' : α → Bool} {log new : List α} (hnodup : new.Nodup)
    (hkeep : ∀ k, k ∉ new → p' k = true → p k = true) (hnew : ∀ k ∈ new, p k = false) :
    waiting p' (log ++ new) = (waiting p log).filter p' ++ new.filter p' := by
  rw [waiting, dedup_append_eq, List.filter_append, hnodup.dedup, waiting, List.filter_filter,
    List.filter_filter]
  congr 1
  refine List.filter_congr fun k _ ↦ ?_
  by_cases hk : k ∈ new
  · simp [hk, hnew k hk]
  · cases hp' : p' k with
    | false => simp
    | true => simp [hk, hkeep k hk hp']

end Arrivals
