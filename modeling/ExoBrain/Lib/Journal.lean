import Mathlib.Data.List.Basic
import Mathlib.Data.List.Nodup
import Mathlib.Order.Lattice

/-!
# A journal with entries of several kinds

Entries are added at the end of one list, and the oldest entries of one kind are taken away again.

`prune` takes away the first `n` of a kind, which it knows by their keys; `filter_prune` and
`filter_prune_of_disjoint` say what is left of that kind and of the others.  `newest` is what a reader
sees who asks for the last ones only.

`Lasting` is for a journal of what was done and undone: something was done, and nothing after it has
undone it.
-/

set_option autoImplicit false

namespace Journal

universe u v

variable {α : Type u} {κ : Type v}

/-- The last `n` entries. -/
def newest (n : Nat) (l : List α) : List α := l.drop (l.length - n)

theorem map_newest {β : Type*} (f : α → β) (n : Nat) (l : List α) :
    (newest n l).map f = newest n (l.map f) := by
  rw [newest, newest, List.map_drop, List.length_map]

theorem reverse_take_reverse (n : Nat) (l : List α) : (l.reverse.take n).reverse = newest n l := by
  rw [List.take_reverse, List.reverse_reverse, newest]

/-- Entries with increasing keys are sorted. -/
theorem mergeSort_of_increasing {key : α → Nat} {l : List α}
    (h : l.Pairwise fun a b ↦ key a < key b) : l.mergeSort (fun a b ↦ key a ≤ key b) = l :=
  List.mergeSort_of_pairwise (h.imp fun hlt ↦ decide_eq_true (Nat.le_of_lt hlt))

/-- Sorted the other way, they are reversed. -/
theorem mergeSort_reverse_of_increasing {key : α → Nat} {l : List α}
    (h : l.Pairwise fun a b ↦ key a < key b) :
    l.mergeSort (fun a b ↦ key b ≤ key a) = l.reverse := by
  have hdecreasing : l.reverse.Pairwise fun a b ↦ key b < key a := List.pairwise_reverse.mpr h
  have htrans : ∀ a b c, decide (key b ≤ key a) = true → decide (key c ≤ key b) = true →
      decide (key c ≤ key a) = true := fun a b c hab hbc ↦
    decide_eq_true (Nat.le_trans (of_decide_eq_true hbc) (of_decide_eq_true hab))
  have htotal : ∀ a b, (decide (key b ≤ key a) || decide (key a ≤ key b)) = true := fun a b ↦ by
    rcases Nat.le_total (key a) (key b) with hle | hle <;> simp [hle]
  have hsorted : (l.mergeSort fun a b ↦ key b ≤ key a).Pairwise fun a b ↦ key b ≤ key a :=
    (List.pairwise_mergeSort htrans htotal l).imp of_decide_eq_true
  refine List.Perm.eq_of_pairwise (fun a b ha hb hab hba ↦ ?_) hsorted (hdecreasing.imp Nat.le_of_lt)
    ((List.mergeSort_perm l _).trans (List.reverse_perm l).symm)
  have hinjective : (l.map key).Nodup := List.pairwise_map.mpr (h.imp Nat.ne_of_lt)
  exact List.inj_on_of_nodup_map hinjective (List.mem_mergeSort.mp ha) (List.mem_reverse.mp hb)
    (Nat.le_antisymm hba hab)

/-- Lists of the same entries are sorted alike, if no two share a key. -/
theorem mergeSort_eq_of_perm {β : Type*} [LinearOrder β] {key : α → β} {l l' : List α}
    (hperm : l.Perm l') (hnodup : (l.map key).Nodup) :
    l.mergeSort (fun a b ↦ key a ≤ key b) = l'.mergeSort (fun a b ↦ key a ≤ key b) := by
  have htrans : ∀ a b c, decide (key a ≤ key b) = true → decide (key b ≤ key c) = true →
      decide (key a ≤ key c) = true := fun a b c hab hbc ↦
    decide_eq_true (le_trans (of_decide_eq_true hab) (of_decide_eq_true hbc))
  have htotal : ∀ a b, (decide (key a ≤ key b) || decide (key b ≤ key a)) = true := fun a b ↦ by
    rcases le_total (key a) (key b) with hle | hle <;> simp [hle]
  have hsorted (l : List α) : (l.mergeSort fun a b ↦ key a ≤ key b).Pairwise fun a b ↦ key a ≤ key b :=
    (List.pairwise_mergeSort htrans htotal l).imp of_decide_eq_true
  refine List.Perm.eq_of_pairwise (fun a b ha hb hab hba ↦ ?_) (hsorted l) (hsorted l')
    ((List.mergeSort_perm l _).trans (hperm.trans (List.mergeSort_perm l' _).symm))
  exact List.inj_on_of_nodup_map hnodup (List.mem_mergeSort.mp ha)
    (hperm.mem_iff.mpr (List.mem_mergeSort.mp hb)) (le_antisymm hab hba)

/-- Rows that can all be read are read. -/
theorem mapM_eq_some {β : Type*} {read : α → Option β} {l : List α} {r : List β}
    (h : l.map read = r.map some) : l.mapM read = some r := by
  induction l generalizing r with
  | nil => rw [List.map_eq_nil_iff.mp h.symm]; rfl
  | cons a l ih =>
    cases r with
    | nil => cases h
    | cons b r =>
      obtain ⟨hfirst, hrest⟩ := List.cons.inj h
      rw [List.mapM_cons, hfirst, ih hrest]
      rfl

theorem exists_mapM_eq_some {β : Type*} {read : α → Option β} {l : List α}
    (h : ∀ a ∈ l, ∃ b, read a = some b) : ∃ r, l.mapM read = some r := by
  induction l with
  | nil => exact ⟨[], rfl⟩
  | cons a l ih =>
    obtain ⟨⟨b, hb⟩, hrest⟩ := List.forall_mem_cons.mp h
    obtain ⟨r, hr⟩ := ih hrest
    refine ⟨b :: r, ?_⟩
    rw [List.mapM_cons, hb, hr]
    rfl

/-! ## Done and not undone -/

/-- An entry with `does`, and none with `undoes` after it. -/
def Lasting (does undoes : α → Prop) (l : List α) : Prop :=
  ∃ before a after, l = before ++ a :: after ∧ does a ∧ ∀ b ∈ after, ¬undoes b

theorem lasting_concat {does undoes : α → Prop} {l : List α} {a : α} :
    Lasting does undoes (l ++ [a]) ↔ does a ∨ Lasting does undoes l ∧ ¬undoes a := by
  constructor
  · rintro ⟨before, b, after, heq, hdoes, hafter⟩
    rcases List.eq_nil_or_concat after with rfl | ⟨after, c, rfl⟩
    · obtain ⟨-, hlast⟩ := List.append_inj' heq rfl
      exact .inl ((List.cons.inj hlast).1 ▸ hdoes)
    · rw [List.concat_eq_append, ← List.cons_append, ← List.append_assoc] at heq
      obtain ⟨rfl, hlast⟩ := List.append_inj' heq rfl
      obtain rfl := (List.cons.inj hlast).1
      rw [List.concat_eq_append] at hafter
      exact .inr ⟨⟨before, b, after, rfl, hdoes, fun d hd ↦ hafter d (List.mem_append_left _ hd)⟩,
        hafter a (List.mem_append_right _ List.mem_cons_self)⟩
  · rintro (hdoes | ⟨⟨before, b, after, rfl, hdoes, hafter⟩, hkept⟩)
    · exact ⟨l, a, [], rfl, hdoes, nofun⟩
    · refine ⟨before, b, after ++ [a], by rw [List.append_assoc, List.cons_append], hdoes,
        fun c hc ↦ ?_⟩
      rcases List.mem_append.mp hc with hc | hc
      · exact hafter c hc
      · exact List.mem_singleton.mp hc ▸ hkept

/-! ## Pruning -/

variable [DecidableEq κ]

/-- What is left without the first `n` entries of a kind. -/
def prune (key : α → κ) (p : α → Bool) (n : Nat) (l : List α) : List α :=
  l.filter fun a ↦ key a ∉ ((l.filter p).take n).map key

variable {key : α → κ} {p q : α → Bool} {l : List α}

/-- **The oldest entries of the kind are gone.** -/
theorem filter_prune (hnodup : (l.map key).Nodup) (p : α → Bool) (n : Nat) :
    (prune key p n l).filter p = (l.filter p).drop n := by
  have hkeys : (((l.filter p).take n ++ (l.filter p).drop n).map key).Nodup := by
    rw [List.take_append_drop]
    exact (List.filter_sublist.map key).nodup hnodup
  rw [List.map_append, List.nodup_append] at hkeys
  rw [prune, List.filter_comm]
  conv_lhs => rw [← List.take_append_drop n (l.filter p), List.filter_append]
  rw [List.take_append_drop, List.filter_eq_nil_iff.mpr, List.nil_append, List.filter_eq_self]
  · intro b hb
    rw [decide_eq_true_eq]
    exact fun ha ↦ hkeys.2.2 (key b) ha (key b) (List.mem_map_of_mem hb) rfl
  · intro a ha
    simpa only [decide_eq_true_eq, not_not] using List.mem_map_of_mem ha

/-- **Entries of other kinds stay.** -/
theorem filter_prune_of_disjoint (hnodup : (l.map key).Nodup) (h : ∀ a, q a = true → p a = false)
    (n : Nat) : (prune key p n l).filter q = l.filter q := by
  rw [prune, List.filter_comm, List.filter_eq_self]
  intro a ha
  obtain ⟨hmem, hq⟩ := List.mem_filter.mp ha
  rw [decide_eq_true_eq]
  intro hkey
  obtain ⟨b, hb, heq⟩ := List.mem_map.mp hkey
  obtain ⟨hbmem, hp⟩ := List.mem_filter.mp (List.mem_of_mem_take hb)
  rw [List.inj_on_of_nodup_map hnodup hbmem hmem heq, h a hq] at hp
  cases hp

end Journal
