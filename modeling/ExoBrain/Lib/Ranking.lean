import Mathlib.Data.List.Pairwise
import Mathlib.Data.List.Perm.Basic
import Mathlib.Order.Basic

/-!
# The head of a ranking

Sorting by a key leaves open how ties are broken, so two rankings of the same items can differ.
`take_eq_of_sorted_perm` says when their first `n` places do not: when no tie reaches into them.

Where an order is total, the item in the first place is one that comes before all the others
(`isFirst_head?_mergeSort`).
-/

set_option autoImplicit false

namespace Ranking

universe u

variable {α : Type u}

/-- The list is sorted by `key`, largest first. -/
def SortedBy (key : α → Nat) (l : List α) : Prop := l.Pairwise fun a b ↦ key b ≤ key a

/-- `mergeSort` with `≥` on the keys. -/
theorem sortedBy_mergeSort (key : α → Nat) (l : List α) :
    SortedBy key (l.mergeSort fun a b ↦ key b ≤ key a) := by
  have htrans : ∀ a b c : α, decide (key b ≤ key a) = true → decide (key c ≤ key b) = true →
      decide (key c ≤ key a) = true := by
    intro a b c hab hbc
    exact decide_eq_true (Nat.le_trans (of_decide_eq_true hbc) (of_decide_eq_true hab))
  have htotal : ∀ a b : α, (decide (key b ≤ key a) || decide (key a ≤ key b)) = true := by
    intro a b
    rcases Nat.le_total (key b) (key a) with h | h <;> simp [h]
  exact (List.pairwise_mergeSort htrans htotal l).imp of_decide_eq_true

/-- Everything ranked strictly above the item in place `i` stands before it. -/
theorem SortedBy.countP_le {key : α → Nat} {l : List α} (h : SortedBy key l) {i : Nat}
    (hi : i < l.length) : (l.countP fun c ↦ key l[i] < key c) ≤ i := by
  have hsplit : l = l.take i ++ l.drop i := (List.take_append_drop i l).symm
  have hafter : (l.drop i).countP (fun c ↦ key l[i] < key c) = 0 := by
    rw [List.countP_eq_zero]
    intro c hc
    rw [List.drop_eq_getElem_cons hi] at hc
    rw [decide_eq_true_eq, Nat.not_lt]
    have htail : SortedBy key (l[i] :: l.drop (i + 1)) := by
      rw [← List.drop_eq_getElem_cons hi]
      exact h.drop
    rcases List.mem_cons.mp hc with rfl | hc
    · exact Nat.le_refl _
    · exact (List.pairwise_cons.mp htail).1 c hc
  calc l.countP (fun c ↦ key l[i] < key c)
      = (l.take i ++ l.drop i).countP fun c ↦ key l[i] < key c := by rw [← hsplit]
    _ = (l.take i).countP fun c ↦ key l[i] < key c := by rw [List.countP_append, hafter]; rfl
    _ ≤ (l.take i).length := List.countP_le_length
    _ ≤ i := by rw [List.length_take]; exact Nat.min_le_left _ _

/-- The keys of a ranking do not depend on how ties are broken. -/
theorem map_key_eq {key : α → Nat} {l₁ l₂ : List α} (hperm : l₁.Perm l₂) (h₁ : SortedBy key l₁)
    (h₂ : SortedBy key l₂) : l₁.map key = l₂.map key := by
  have hanti : ∀ a b : Nat, a ∈ l₁.map key → b ∈ l₂.map key → b ≤ a → a ≤ b → a = b :=
    fun a b _ _ hab hba ↦ Nat.le_antisymm hba hab
  exact (hperm.map key).eq_of_pairwise hanti (List.pairwise_map.mpr h₁) (List.pairwise_map.mpr h₂)

/-- **The first `n` places of a ranking do not depend on how ties are broken**, if every item that
is tied with another has at least `n` items strictly above it. -/
theorem take_eq_of_sorted_perm {key : α → Nat} {l₁ l₂ : List α} (hperm : l₁.Perm l₂)
    (h₁ : SortedBy key l₁) (h₂ : SortedBy key l₂) {n : Nat}
    (hties : ∀ a ∈ l₁, ∀ b ∈ l₁, a ≠ b → key a = key b → n ≤ l₁.countP fun c ↦ key a < key c) :
    l₁.take n = l₂.take n := by
  have hlen : l₁.length = l₂.length := hperm.length_eq
  refine List.ext_getElem (by rw [List.length_take, List.length_take, hlen]) fun i hi₁ hi₂ ↦ ?_
  rw [List.length_take, Nat.lt_min] at hi₁ hi₂
  rw [List.getElem_take, List.getElem_take]
  by_contra hne
  have hkey : key l₁[i] = key l₂[i] := by
    have h := map_key_eq hperm h₁ h₂
    have hget : (l₁.map key)[i]? = (l₂.map key)[i]? := by rw [h]
    simpa [hi₁.2, hi₂.2] using hget
  have hmem : l₂[i] ∈ l₁ := hperm.mem_iff.mpr (List.getElem_mem hi₂.2)
  have habove := hties l₁[i] (List.getElem_mem hi₁.2) l₂[i] hmem hne hkey
  exact Nat.not_le.mpr hi₁.1 (Nat.le_trans habove (h₁.countP_le hi₁.2))

/-- The item comes before all the items of a kind and is one of them.  If there is no item, there is
none of the kind. -/
def IsFirst (C : α → Prop) (before : α → α → Prop) : Option α → Prop
  | some a => C a ∧ ∀ b, C b → before a b
  | none => ∀ b, ¬C b

/-- **The head of a ranking** of the items of a kind is the first of them. -/
theorem isFirst_head?_mergeSort {C : α → Prop} {before : α → α → Prop} [DecidableRel before]
    (htrans : ∀ a b c, before a b → before b c → before a c)
    (htotal : ∀ a b, before a b ∨ before b a) {l : List α} (hmem : ∀ a, a ∈ l ↔ C a) :
    IsFirst C before (l.mergeSort fun a b ↦ decide (before a b)).head? := by
  have hsorted : (l.mergeSort fun a b ↦ decide (before a b)).Pairwise before := by
    refine (List.pairwise_mergeSort ?_ ?_ l).imp of_decide_eq_true
    · intro a b c hab hbc
      exact decide_eq_true (htrans a b c (of_decide_eq_true hab) (of_decide_eq_true hbc))
    · intro a b
      simpa using htotal a b
  have hranked (a : α) : a ∈ l.mergeSort (fun a b ↦ decide (before a b)) ↔ C a :=
    List.mem_mergeSort.trans (hmem a)
  cases hsort : l.mergeSort fun a b ↦ decide (before a b) with
  | nil =>
    intro b hb
    have hthere := (hranked b).mpr hb
    rw [hsort] at hthere
    exact List.not_mem_nil hthere
  | cons a rest =>
    rw [hsort] at hsorted hranked
    refine ⟨(hranked a).mp List.mem_cons_self, fun b hb ↦ ?_⟩
    rcases List.mem_cons.mp ((hranked b).mpr hb) with rfl | hrest
    · exact (htotal b b).elim id id
    · exact (List.pairwise_cons.mp hsorted).1 b hrest

end Ranking
