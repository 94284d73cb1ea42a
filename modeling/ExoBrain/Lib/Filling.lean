import ExoBrain.Lib.Checks
import ExoBrain.Lib.Dict

/-!
# Filling a dictionary from a list

A dictionary is filled from a list of items, one after the other: `read` makes a value of an item,
or nothing, or raises.  What was found is stored under the key of the item.

* `fill_eq_ok`: filling raises nothing if no item does, and the other way round.
* `get?_fill` and `get?_fill_of_not_mem`: if no two items have one key, the dictionary has what was
  found under it, and what it had before otherwise.
-/

set_option autoImplicit false

namespace Filling

open Checks

variable {α κ ν ε : Type} [DecidableEq κ] (key : α → κ) (read : α → Except ε (Option ν))

/-- Store what is found. -/
def store (d : Dict κ ν) (x : α) : Except ε (Dict κ ν) := do
  match ← read x with
  | none => return d
  | some y => return d.set (key x) y

/-- Store what is found for the items of a list. -/
def fill (d : Dict κ ν) (l : List α) : Except ε (Dict κ ν) := l.foldlM (store key read) d

variable {key read} {d r : Dict κ ν} {x : α} {l : List α} {found : Option ν} {k : κ}

theorem fill_cons (d : Dict κ ν) (x : α) (l : List α) :
    fill key read d (x :: l) = (store key read d x >>= fun d ↦ fill key read d l) := by
  rw [fill, List.foldlM_cons]
  rfl

theorem store_eq_ok : store key read d x = .ok r ↔
    ∃ found, read x = .ok found ∧ r = found.elim d (d.set (key x)) := by
  rw [store, bind_eq_ok]
  refine exists_congr fun found ↦ and_congr_right fun _ ↦ ?_
  cases found <;> exact ⟨fun h ↦ (Except.ok.inj h).symm, fun h ↦ congrArg Except.ok h.symm⟩

/-- **Filling raises nothing** exactly if no item does. -/
theorem fill_eq_ok : (∃ r, fill key read d l = .ok r) ↔ ∀ x ∈ l, ∃ found, read x = .ok found := by
  induction l generalizing d with
  | nil => exact iff_of_true ⟨d, rfl⟩ nofun
  | cons x l ih =>
    simp only [fill_cons, bind_eq_ok, store_eq_ok, List.forall_mem_cons]
    constructor
    · rintro ⟨r, _, ⟨found, hfound, rfl⟩, hrest⟩
      exact ⟨⟨found, hfound⟩, ih.mp ⟨r, hrest⟩⟩
    · rintro ⟨⟨found, hfound⟩, hrest⟩
      obtain ⟨r, hr⟩ := ih.mpr hrest
      exact ⟨r, _, ⟨found, hfound, rfl⟩, hr⟩

theorem get?_fill_of_not_mem (h : fill key read d l = .ok r) (hk : k ∉ l.map key) :
    r.get? k = d.get? k := by
  induction l generalizing d with
  | nil => rw [Except.ok.inj h]
  | cons x l ih =>
    rw [fill_cons, bind_eq_ok] at h
    obtain ⟨d', hstore, hrest⟩ := h
    obtain ⟨found, -, rfl⟩ := store_eq_ok.mp hstore
    rw [List.map_cons, List.mem_cons, not_or] at hk
    rw [ih hrest hk.2]
    cases found with
    | none => rfl
    | some y => rw [Option.elim_some, Dict.get?_set, if_neg hk.1]

/-- **What is found under the key of an item.** -/
theorem get?_fill (hnodup : (l.map key).Nodup) (h : fill key read d l = .ok r) (hx : x ∈ l)
    (hread : read x = .ok found) : r.get? (key x) = found.or (d.get? (key x)) := by
  induction l generalizing d with
  | nil => cases hx
  | cons x' l ih =>
    rw [fill_cons, bind_eq_ok] at h
    obtain ⟨d', hstore, hrest⟩ := h
    obtain ⟨found', hfound', rfl⟩ := store_eq_ok.mp hstore
    obtain ⟨hnot, hnodup⟩ := List.nodup_cons.mp hnodup
    rcases List.mem_cons.mp hx with rfl | hx
    · obtain rfl : found' = found := Except.ok.inj (hfound'.symm.trans hread)
      rw [get?_fill_of_not_mem hrest hnot]
      cases found' with
      | none => rfl
      | some y => rw [Option.elim_some, Dict.get?_set, if_pos rfl, Option.some_or]
    · have hne : key x ≠ key x' := fun heq ↦ hnot (heq ▸ List.mem_map_of_mem hx)
      rw [ih hnodup hrest hx]
      cases found' with
      | none => rfl
      | some y => rw [Option.elim_some, Dict.get?_set, if_neg hne]

end Filling
