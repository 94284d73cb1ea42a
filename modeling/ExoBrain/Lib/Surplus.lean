import ExoBrain.Lib.Dict
import Mathlib.Data.List.Nodup
import Mathlib.Data.List.Pairwise
import Mathlib.Data.List.Perm.Basic

/-!
# What does not fit under a cap

A store that keeps at most `cap` items of a list sorts them and drops the first ones.  `surplus` is
what it drops: smallest first (`Sorts.le_of_mem_surplus`), and exactly so many that
`min cap l.length` items are left (`length_filter_not_mem_surplus`).

`Prunes` says it of a dictionary whose items carry a time: of one kind of item, everything too old
goes, and of the others the oldest go until no more than `cap` are left.  `prunes_of_get?` reads it
off the lookups, and `Prunes.count` counts what went.
-/

set_option autoImplicit false

namespace Surplus

universe u v

variable {α : Type u} {κ : Type v} [DecidableEq κ] {le : α → α → Bool} {cap : Nat} {l : List α}

/-- The items beyond the `cap` largest. -/
def surplus (le : α → α → Bool) (cap : Nat) (l : List α) : List α :=
  (l.mergeSort le).take (l.length - cap)

theorem mem_of_mem_surplus {a : α} (h : a ∈ surplus le cap l) : a ∈ l :=
  List.mem_mergeSort.mp (List.mem_of_mem_take h)

theorem length_surplus (le : α → α → Bool) (cap : Nat) (l : List α) :
    (surplus le cap l).length = l.length - cap := by
  rw [surplus, List.length_take, List.length_mergeSort]
  omega

/-- What is dropped and what stays make up the list. -/
theorem surplus_append_perm (le : α → α → Bool) (cap : Nat) (l : List α) :
    (surplus le cap l ++ (l.mergeSort le).drop (l.length - cap)).Perm l := by
  rw [surplus, List.take_append_drop]
  exact List.mergeSort_perm l le

/-- `le` is an order to sort by, smallest `time` first; it may break ties. -/
structure Sorts (le : α → α → Bool) (time : α → Nat) : Prop where
  trans : ∀ a b c, le a b = true → le b c = true → le a c = true
  total : ∀ a b, (le a b || le b a) = true
  time_le : ∀ a b, le a b = true → time a ≤ time b

/-- The order of the times, which leaves ties as they are. -/
theorem sorts_time (time : α → Nat) : Sorts (fun a b ↦ time a ≤ time b) time where
  trans a b c hab hbc :=
    decide_eq_true (Nat.le_trans (of_decide_eq_true hab) (of_decide_eq_true hbc))
  total a b := by
    rcases Nat.le_total (time a) (time b) with h | h <;> simp [h]
  time_le a b := of_decide_eq_true

/-- **What is dropped is not above what stays.** -/
theorem Sorts.le_of_mem_surplus {time : α → Nat} (h : Sorts le time) {a b : α}
    (ha : a ∈ surplus le cap l) (hb : b ∈ l) (hstays : b ∉ surplus le cap l) :
    time a ≤ time b := by
  have hsorted : (surplus le cap l ++ (l.mergeSort le).drop (l.length - cap)).Pairwise
      fun a b ↦ le a b = true := by
    rw [surplus, List.take_append_drop]
    exact List.pairwise_mergeSort h.trans h.total l
  have hrest : b ∈ (l.mergeSort le).drop (l.length - cap) := by
    have hmem := (surplus_append_perm le cap l).mem_iff.mpr hb
    exact (List.mem_append.mp hmem).resolve_left hstays
  exact h.time_le a b ((List.pairwise_append.mp hsorted).2.2 a ha b hrest)

/-- **The items that stay fill the cap**, when no two items share a key. -/
theorem length_filter_not_mem_surplus {key : α → κ} (hnodup : (l.map key).Nodup)
    (le : α → α → Bool) (cap : Nat) :
    (l.filter fun a ↦ key a ∉ (surplus le cap l).map key).length = min cap l.length := by
  have hperm := surplus_append_perm le cap l
  have hkeys := (hperm.map key).nodup_iff.mpr hnodup
  rw [List.map_append, List.nodup_append] at hkeys
  have hdropped : (surplus le cap l).filter (fun a ↦ key a ∉ (surplus le cap l).map key) = [] := by
    rw [List.filter_eq_nil_iff]
    intro a ha
    simpa only [decide_eq_true_eq, not_not] using List.mem_map_of_mem ha
  have hstays : ((l.mergeSort le).drop (l.length - cap)).filter
      (fun a ↦ key a ∉ (surplus le cap l).map key) = (l.mergeSort le).drop (l.length - cap) := by
    rw [List.filter_eq_self]
    intro b hb
    rw [decide_eq_true_eq]
    exact fun ha ↦ hkeys.2.2 (key b) ha (key b) (List.mem_map_of_mem hb) rfl
  rw [← (hperm.filter _).length_eq, List.filter_append, hdropped, hstays, List.nil_append,
    List.length_drop, List.length_mergeSort]
  omega

/-! ## Pruning a dictionary -/

section Prunes

variable {ν : Type u} {kind tooOld : ν → Bool} {time : ν → Nat} {before after : Dict κ ν}
  {le : κ × ν → κ × ν → Bool}

/-- From `before` to `after`, of the items of one kind everything too old is removed, and of the
others the ones with the smallest times, until at most `cap` of the kind are left. -/
structure Prunes (kind tooOld : ν → Bool) (time : ν → Nat) (cap : Nat) (before after : Dict κ ν) :
    Prop where
  gone : ∀ k x, before.get? k = some x → kind x = true → tooOld x = true → after.get? k = none
  oldest : ∀ k x k' x', before.get? k = some x → kind x = true → tooOld x = false →
    after.get? k = none → after.get? k' = some x' → kind x' = true → time x ≤ time x'
  left : (after.entries.countP fun e ↦ kind e.2) =
    min cap (before.entries.countP fun e ↦ kind e.2 && !tooOld e.2)

/-- The entries of the kind that are not too old. -/
def recent (kind tooOld : ν → Bool) (d : Dict κ ν) : List (κ × ν) :=
  d.entries.filter fun e ↦ kind e.2 && !tooOld e.2

omit [DecidableEq κ] in
theorem length_recent (kind tooOld : ν → Bool) (d : Dict κ ν) :
    (recent kind tooOld d).length = d.entries.countP fun e ↦ kind e.2 && !tooOld e.2 :=
  List.countP_eq_length_filter.symm

/-- The keys of those among them that do not fit, sorted by `le`. -/
def overflowing (le : κ × ν → κ × ν → Bool) (kind tooOld : ν → Bool) (cap : Nat) (d : Dict κ ν) :
    List κ :=
  (surplus le cap (recent kind tooOld d)).map Prod.fst

/-- Each of them is a key of the dictionary, of an item of the kind. -/
theorem of_mem_overflowing {k : κ} (h : k ∈ overflowing le kind tooOld cap before) :
    ∃ x, before.get? k = some x ∧ kind x = true ∧ tooOld x = false := by
  obtain ⟨⟨j, x⟩, hmem, rfl⟩ := List.mem_map.mp h
  obtain ⟨hentry, hkind⟩ := List.mem_filter.mp (mem_of_mem_surplus hmem)
  rw [Bool.and_eq_true, Bool.not_eq_true'] at hkind
  exact ⟨x, Dict.mem_entries_iff.mp hentry, hkind⟩

/-- **A dictionary is pruned** if it keeps, of the kind, what is neither too old nor
overflowing. -/
theorem prunes_of_get? (hle : Sorts le fun e ↦ time e.2)
    (hsub : ∀ k x, after.get? k = some x → before.get? k = some x)
    (hkept : ∀ k x, before.get? k = some x → kind x = true →
      (after.get? k = some x ↔ tooOld x = false ∧ k ∉ overflowing le kind tooOld cap before)) :
    Prunes kind tooOld time cap before after where
  gone k x hbefore hkind hold := by
    rw [Option.eq_none_iff_forall_ne_some]
    intro y hafter
    have hyx : y = x := Option.some_inj.mp ((hsub k y hafter).symm.trans hbefore)
    rw [hyx, hkept k x hbefore hkind, hold] at hafter
    exact nomatch hafter.1
  oldest k x k' x' hbefore hkind hrecent hgone hafter hkind' := by
    have hover : k ∈ overflowing le kind tooOld cap before := by
      by_contra hin
      rw [(hkept k x hbefore hkind).mpr ⟨hrecent, hin⟩] at hgone
      exact nomatch hgone
    have hbefore' := hsub k' x' hafter
    obtain ⟨hrecent', hin'⟩ := (hkept k' x' hbefore' hkind').mp hafter
    obtain ⟨⟨j, y⟩, hmem, rfl⟩ := List.mem_map.mp hover
    have hentry : before.get? j = some y :=
      Dict.mem_entries_iff.mp (List.mem_filter.mp (mem_of_mem_surplus hmem)).1
    rw [hbefore, Option.some_inj] at hentry
    subst hentry
    have hentry' : (k', x') ∈ recent kind tooOld before := by
      rw [recent, List.mem_filter, hkind', hrecent']
      exact ⟨Dict.mem_entries_iff.mpr hbefore', rfl⟩
    exact hle.le_of_mem_surplus hmem hentry' fun h ↦
      hin' (List.mem_map_of_mem (f := Prod.fst) h)
  left := by
    have hperm : (after.filter fun _ x ↦ kind x).entries.Perm
        (before.filter fun k x ↦ (kind x && !tooOld x) &&
          decide (k ∉ overflowing le kind tooOld cap before)).entries := by
      refine Dict.perm_entries fun k ↦ Option.ext fun x ↦ ?_
      simp only [Dict.get?_filter, Option.filter_eq_some_iff, Bool.and_eq_true,
        Bool.not_eq_true', decide_eq_true_eq]
      constructor
      · rintro ⟨hafter, hkind⟩
        have hbefore := hsub k x hafter
        obtain ⟨hrecent, hin⟩ := (hkept k x hbefore hkind).mp hafter
        exact ⟨hbefore, ⟨hkind, hrecent⟩, hin⟩
      · rintro ⟨hbefore, ⟨hkind, hrecent⟩, hin⟩
        exact ⟨(hkept k x hbefore hkind).mpr ⟨hrecent, hin⟩, hkind⟩
    have hnodup : ((recent kind tooOld before).map Prod.fst).Nodup :=
      before.nodup_keys.sublist (List.filter_sublist.map Prod.fst)
    have hfits := length_filter_not_mem_surplus hnodup le cap
    rw [List.countP_eq_length_filter, ← Dict.entries_filter fun _ x ↦ kind x, hperm.length_eq,
      ← length_recent, ← hfits, Dict.entries_filter, recent, List.filter_filter]
    simp only [Bool.and_comm, overflowing, recent]
    rfl

/-- **What went is what was too old and what overflowed.** -/
theorem Prunes.count (h : Prunes kind tooOld time cap before after)
    (le : κ × ν → κ × ν → Bool) :
    (before.entries.countP fun e ↦ kind e.2 && tooOld e.2) +
      (overflowing le kind tooOld cap before).length +
      (after.entries.countP fun e ↦ kind e.2) = before.entries.countP fun e ↦ kind e.2 := by
  have hsplit := before.entries.countP_eq_countP_filter_add (fun e ↦ kind e.2) fun e ↦ tooOld e.2
  simp only [List.countP_filter] at hsplit
  rw [h.left, overflowing, List.length_map, length_surplus, length_recent, hsplit]
  omega

/-- If all of the kind fit, all of them stay. -/
theorem Prunes.get?_of_fits (h : Prunes kind (fun _ ↦ false) time cap before after)
    (hsub : ∀ k x, after.get? k = some x → before.get? k = some x)
    (hfits : (before.entries.countP fun e ↦ kind e.2) ≤ cap) {k : κ} {x : ν}
    (hbefore : before.get? k = some x) (hkind : kind x = true) : after.get? k = some x := by
  have hincl : (after.filter fun _ x ↦ kind x).entries ⊆
      (before.filter fun _ x ↦ kind x).entries := by
    rintro ⟨j, y⟩ hentry
    rw [Dict.mem_entries_iff, Dict.get?_filter, Option.filter_eq_some_iff] at hentry ⊢
    exact ⟨hsub j y hentry.1, hentry.2⟩
  have hlength : (before.filter fun _ x ↦ kind x).entries.length ≤
      (after.filter fun _ x ↦ kind x).entries.length := by
    have hleft := h.left
    simp only [Bool.not_false, Bool.and_true] at hleft
    simp only [Dict.entries_filter, ← List.countP_eq_length_filter]
    omega
  have hperm := (List.subperm_of_subset (after.filter fun _ x ↦ kind x).nodup_keys.of_map
    hincl).perm_of_length_le hlength
  have hentry : (k, x) ∈ (after.filter fun _ x ↦ kind x).entries := by
    rw [hperm.mem_iff, Dict.mem_entries_iff, Dict.get?_filter, Option.filter_eq_some_iff]
    exact ⟨hbefore, hkind⟩
  rw [Dict.mem_entries_iff, Dict.get?_filter, Option.filter_eq_some_iff] at hentry
  exact hentry.1

omit [DecidableEq κ] in
/-- The items of a wider kind are those of the kind and the rest. -/
theorem countP_wide {wide : ν → Bool} {d : Dict κ ν}
    (hwide : ∀ e ∈ d.entries, kind e.2 = true → wide e.2 = true) :
    (d.entries.countP fun e ↦ wide e.2) =
      (d.entries.countP fun e ↦ kind e.2) + d.entries.countP fun e ↦ wide e.2 && !kind e.2 := by
  have hsplit := d.entries.countP_eq_countP_filter_add (fun e ↦ wide e.2) fun e ↦ kind e.2
  simp only [List.countP_filter] at hsplit
  have hkind : (d.entries.countP fun e ↦ wide e.2 && kind e.2) =
      d.entries.countP fun e ↦ kind e.2 := by
    refine List.countP_congr fun e he ↦ ?_
    rw [Bool.and_eq_true]
    exact ⟨fun h ↦ h.2, fun h ↦ ⟨hwide e he h, h⟩⟩
  rw [hsplit, hkind]

/-- What is not of the kind is as numerous after as before. -/
theorem countP_rest (hsub : ∀ k x, after.get? k = some x → before.get? k = some x)
    (hkept : ∀ k x, before.get? k = some x → kind x = false → after.get? k = some x)
    (wide : ν → Bool) : (after.entries.countP fun e ↦ wide e.2 && !kind e.2) =
      before.entries.countP fun e ↦ wide e.2 && !kind e.2 := by
  have hperm : (after.filter fun _ x ↦ wide x && !kind x).entries.Perm
      (before.filter fun _ x ↦ wide x && !kind x).entries := by
    refine Dict.perm_entries fun k ↦ Option.ext fun x ↦ ?_
    simp only [Dict.get?_filter, Option.filter_eq_some_iff, Bool.and_eq_true, Bool.not_eq_true']
    exact and_congr_left fun hx ↦ ⟨hsub k x, fun hget ↦ hkept k x hget hx.2⟩
  simpa only [Dict.entries_filter, ← List.countP_eq_length_filter] using hperm.length_eq

/-- **Pruning one kind** prunes a wider one exactly if the wider one fits, or if it is no wider on
the dictionary at hand. -/
theorem Prunes.wide_iff {wide : ν → Bool}
    (h : Prunes kind (fun _ ↦ false) time cap before after)
    (hsub : ∀ k x, after.get? k = some x → before.get? k = some x)
    (hkept : ∀ k x, before.get? k = some x → kind x = false → after.get? k = some x)
    (hwide : ∀ k x, before.get? k = some x → kind x = true → wide x = true) :
    Prunes wide (fun _ ↦ false) time cap before after ↔
      (before.entries.countP fun e ↦ wide e.2) ≤ cap ∨
        ∀ k x, before.get? k = some x → wide x = true → kind x = true := by
  have hleft := h.left
  have hwideBefore : ∀ e ∈ before.entries, kind e.2 = true → wide e.2 = true :=
    fun e he ↦ hwide e.1 e.2 (Dict.mem_entries_iff.mp he)
  have hwideAfter : ∀ e ∈ after.entries, kind e.2 = true → wide e.2 = true :=
    fun e he ↦ hwide e.1 e.2 (hsub e.1 e.2 (Dict.mem_entries_iff.mp he))
  have hbefore := countP_wide hwideBefore
  have hafter := countP_wide hwideAfter
  have hrest := countP_rest hsub hkept wide
  simp only [Bool.not_false, Bool.and_true] at hleft
  constructor
  · intro hpruned
    have hleft' := hpruned.left
    simp only [Bool.not_false, Bool.and_true] at hleft'
    by_cases hfits : (before.entries.countP fun e ↦ wide e.2) ≤ cap
    · exact .inl hfits
    · have hnone : (before.entries.countP fun e ↦ wide e.2 && !kind e.2) = 0 := by omega
      refine .inr fun k x hget hx ↦ ?_
      have hnot := List.countP_eq_zero.mp hnone (k, x) (Dict.mem_entries_iff.mpr hget)
      simpa [hx] using hnot
  · rintro (hfits | hsame)
    · have hstays : ∀ k x, before.get? k = some x → wide x = true → after.get? k = some x := by
        intro k x hget _
        cases hkind : kind x with
        | true => exact h.get?_of_fits hsub (by omega) hget hkind
        | false => exact hkept k x hget hkind
      refine ⟨fun _ _ _ _ hold ↦ (nomatch hold), fun k x k' x' hget hx _ hgone ↦ ?_, ?_⟩
      · rw [hstays k x hget hx] at hgone
        exact nomatch hgone
      · simp only [Bool.not_false, Bool.and_true]
        omega
    · refine ⟨fun _ _ _ _ hold ↦ (nomatch hold), fun k x k' x' hget hx hold hgone hget' hx' ↦ ?_, ?_⟩
      · exact h.oldest k x k' x' hget (hsame k x hget hx) hold hgone hget'
          (hsame k' x' (hsub k' x' hget') hx')
      · have hnone : (before.entries.countP fun e ↦ wide e.2 && !kind e.2) = 0 := by
          refine List.countP_eq_zero.mpr fun e he ↦ ?_
          have hsame' := hsame e.1 e.2 (Dict.mem_entries_iff.mp he)
          cases hw : wide e.2 with
          | false => simp
          | true => simp [hsame' hw]
        simp only [Bool.not_false, Bool.and_true]
        omega

end Prunes

end Surplus
