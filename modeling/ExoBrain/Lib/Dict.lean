import Mathlib.Algebra.GroupWithZero.Nat
import Mathlib.Algebra.Ring.Int.Defs
import Mathlib.Data.List.Nodup
import Mathlib.Data.List.Pairwise
import Mathlib.Data.List.Perm.Subperm

/-!
# Insertion-ordered dictionaries

`Dict κ ν` is a finite map that remembers the order in which its keys were first written: a list
of key-value pairs without a repeated key.  Two things in the code have exactly this shape, and
both are modelled by it:

* a Python `dict`, whose iteration order is the insertion order, whose in-place updates keep the
  position of a key, and whose `pop` forgets it;
* a SQL table with a primary key that is only ever appended to, read in `rowid` order.

So the operations here are the ones those two share: `get?` reads one key, `setDefault` is
`if k in d: return` followed by `d[k] = v` (and `INSERT OR IGNORE`), `set` is plain assignment,
`mapVals` is a loop that mutates every value in place (and `UPDATE`), `modify` is the same at one
key, `filter` is a loop of `pop`s (and `DELETE`).

Every lemma says what `get?` sees afterwards; `mem_entries_iff` is the bridge to the entries
themselves, and the only place where the absence of repeated keys is used.
-/

set_option autoImplicit false

universe u v w

/-- A finite map in insertion order: a list of pairs whose keys do not repeat. -/
structure Dict (κ : Type u) (ν : Type v) where
  /-- The pairs, oldest key first. -/
  entries : List (κ × ν)
  /-- No key occurs twice. -/
  nodup_keys : (entries.map Prod.fst).Nodup

namespace Dict

variable {κ : Type u} {ν : Type v} {μ : Type w}

/-- The empty dictionary. -/
def empty : Dict κ ν := ⟨[], List.nodup_nil⟩

/-- The keys, oldest first. -/
def keys (d : Dict κ ν) : List κ := d.entries.map Prod.fst

theorem ext {d e : Dict κ ν} (h : d.entries = e.entries) : d = e := by
  cases d; cases e; simpa using h

theorem keys_nodup (d : Dict κ ν) : d.keys.Nodup := d.nodup_keys

/-! ## Bulk operations

These two need no comparison of keys. -/

/-- Replace every value in place. -/
def mapVals (f : κ → ν → μ) (d : Dict κ ν) : Dict κ μ :=
  ⟨d.entries.map fun e ↦ (e.1, f e.1 e.2), by
    have h : (d.entries.map fun e ↦ (e.1, f e.1 e.2)).map Prod.fst = d.entries.map Prod.fst := by
      simp [Function.comp_def]
    rw [h]; exact d.nodup_keys⟩

/-- Keep only the pairs that pass a test, in their old order. -/
def filter (p : κ → ν → Bool) (d : Dict κ ν) : Dict κ ν :=
  ⟨d.entries.filter fun e ↦ p e.1 e.2,
    d.nodup_keys.sublist (List.filter_sublist.map Prod.fst)⟩

theorem entries_mapVals (f : κ → ν → μ) (d : Dict κ ν) :
    (d.mapVals f).entries = d.entries.map fun e ↦ (e.1, f e.1 e.2) := rfl

theorem entries_filter (p : κ → ν → Bool) (d : Dict κ ν) :
    (d.filter p).entries = d.entries.filter fun e ↦ p e.1 e.2 := rfl

@[simp] theorem keys_mapVals (f : κ → ν → μ) (d : Dict κ ν) : (d.mapVals f).keys = d.keys := by
  simp [keys, entries_mapVals, Function.comp_def]

theorem mapVals_mapVals {ρ : Type*} (g : κ → μ → ρ) (f : κ → ν → μ) (d : Dict κ ν) :
    (d.mapVals f).mapVals g = d.mapVals fun k x ↦ g k (f k x) :=
  ext (by simp [entries_mapVals, Function.comp_def])

theorem filter_mapVals (p : κ → μ → Bool) (f : κ → ν → μ) (d : Dict κ ν) :
    (d.mapVals f).filter p = (d.filter fun k x ↦ p k (f k x)).mapVals f :=
  ext (by simp [entries_mapVals, entries_filter, List.filter_map, Function.comp_def])

theorem filter_filter (p q : κ → ν → Bool) (d : Dict κ ν) :
    (d.filter p).filter q = d.filter fun k x ↦ p k x && q k x :=
  ext (by simp only [entries_filter, List.filter_filter, Bool.and_comm])

theorem filter_comm (p q : κ → ν → Bool) (d : Dict κ ν) :
    (d.filter p).filter q = (d.filter q).filter p := by
  simp only [filter_filter, Bool.and_comm]

/-! ## Reading one key -/

section DecidableEq

variable [DecidableEq κ]

/-- The value stored under a key, if there is one. -/
def get? (d : Dict κ ν) (k : κ) : Option ν := (d.entries.find? fun e ↦ e.1 = k).map Prod.snd

@[simp] theorem get?_empty (k : κ) : (empty : Dict κ ν).get? k = none := rfl

/-- **The entries are the graph of `get?`.** -/
theorem mem_entries_iff {d : Dict κ ν} {k : κ} {x : ν} :
    (k, x) ∈ d.entries ↔ d.get? k = some x := by
  constructor
  · intro h
    cases hf : d.entries.find? fun e ↦ e.1 = k with
    | none => simpa using List.find?_eq_none.mp hf (k, x) h
    | some e =>
      have hk : e.1 = k := by simpa using List.find?_some hf
      have he : e = (k, x) := List.inj_on_of_nodup_map d.nodup_keys (List.mem_of_find?_eq_some hf)
        h hk
      simp [get?, hf, he]
  · intro h
    rw [get?, Option.map_eq_some_iff] at h
    obtain ⟨e, he, rfl⟩ := h
    have hk : e.1 = k := by simpa using List.find?_some he
    exact hk ▸ List.mem_of_find?_eq_some he

theorem mem_keys_iff {d : Dict κ ν} {k : κ} : k ∈ d.keys ↔ ∃ x, d.get? k = some x := by
  simp only [keys, List.mem_map, Prod.exists, exists_and_right, exists_eq_right, mem_entries_iff]

theorem get?_eq_none_iff {d : Dict κ ν} {k : κ} : d.get? k = none ↔ k ∉ d.keys := by
  rw [mem_keys_iff, Option.eq_none_iff_forall_not_mem]
  simp

/-- Different keys with an entry that passes a test are no more than the entries that do. -/
theorem length_le_countP {d : Dict κ ν} {ks : List κ} (hnodup : ks.Nodup) {p : κ × ν → Bool}
    (h : ∀ k ∈ ks, ∃ x, d.get? k = some x ∧ p (k, x) = true) :
    ks.length ≤ d.entries.countP p := by
  have hsub : ks ⊆ (d.entries.filter p).map Prod.fst := by
    intro k hk
    obtain ⟨x, hget, hp⟩ := h k hk
    exact List.mem_map_of_mem (f := Prod.fst) (List.mem_filter.mpr ⟨mem_entries_iff.mpr hget, hp⟩)
  rw [List.countP_eq_length_filter, ← List.length_map (f := Prod.fst)]
  exact (List.subperm_of_subset hnodup hsub).length_le

/-- Entries that pass a test are no more than those of a dictionary that has one that passes under
each of their keys. -/
theorem countP_le_countP {d e : Dict κ ν} {p q : ν → Bool}
    (h : ∀ k x, d.get? k = some x → p x = true → ∃ y, e.get? k = some y ∧ q y = true) :
    (d.entries.countP fun e ↦ p e.2) ≤ e.entries.countP fun e ↦ q e.2 := by
  rw [List.countP_eq_length_filter, ← List.length_map (f := Prod.fst)]
  refine length_le_countP (d.nodup_keys.sublist (List.filter_sublist.map Prod.fst)) fun k hk ↦ ?_
  obtain ⟨⟨j, x⟩, hentry, rfl⟩ := List.mem_map.mp hk
  obtain ⟨hmem, hp⟩ := List.mem_filter.mp hentry
  exact h j x (mem_entries_iff.mp hmem) hp

/-- Two descriptions of a value under a key agree as soon as they describe the same entries. -/
theorem get?_eq_of_mem_iff {d : Dict κ ν} {k : κ} {o : Option ν}
    (h : ∀ x, (k, x) ∈ d.entries ↔ o = some x) : d.get? k = o := by
  ext x
  simp only [← h x, mem_entries_iff]

/-- Dictionaries that answer alike have the same entries, up to their order. -/
theorem perm_entries {d e : Dict κ ν} (h : ∀ k, d.get? k = e.get? k) :
    d.entries.Perm e.entries := by
  refine (List.perm_ext_iff_of_nodup d.nodup_keys.of_map e.nodup_keys.of_map).mpr fun x ↦ ?_
  rw [mem_entries_iff (k := x.1) (x := x.2), mem_entries_iff (k := x.1) (x := x.2), h]

/-- Two in-place replacements agree if they do so on the pairs that are there. -/
theorem mapVals_congr {f g : κ → ν → μ} {d : Dict κ ν}
    (h : ∀ k x, d.get? k = some x → f k x = g k x) : d.mapVals f = d.mapVals g := by
  apply ext
  rw [entries_mapVals, entries_mapVals]
  refine List.map_congr_left fun e he ↦ ?_
  rw [h e.1 e.2 (mem_entries_iff.mp he)]

/-- An in-place replacement that finds nothing to change changes nothing. -/
theorem mapVals_eq_self {f : κ → ν → ν} {d : Dict κ ν}
    (h : ∀ k x, d.get? k = some x → f k x = x) : d.mapVals f = d := by
  apply ext
  rw [entries_mapVals]
  refine (List.map_congr_left fun e he ↦ ?_).trans (List.map_id _)
  rw [h e.1 e.2 (mem_entries_iff.mp he)]
  rfl

/-- Two tests that agree on the pairs that are there keep the same pairs. -/
theorem filter_congr {p q : κ → ν → Bool} {d : Dict κ ν}
    (h : ∀ k x, d.get? k = some x → p k x = q k x) : d.filter p = d.filter q := by
  apply ext
  rw [entries_filter, entries_filter]
  exact List.filter_congr fun e he ↦ h e.1 e.2 (mem_entries_iff.mp he)

/-- A test that all the pairs pass keeps everything. -/
theorem filter_eq_self {p : κ → ν → Bool} {d : Dict κ ν}
    (h : ∀ k x, d.get? k = some x → p k x = true) : d.filter p = d :=
  ext (List.filter_eq_self.mpr fun e he ↦ h e.1 e.2 (mem_entries_iff.mp he))

/-- The keys of the entries whose value passes a test. -/
theorem map_fst_filter_entries (p : ν → Bool) (d : Dict κ ν) :
    (d.entries.filter fun e ↦ p e.2).map Prod.fst = d.keys.filter fun k ↦ (d.get? k).any p := by
  rw [keys, List.filter_map]
  congr 1
  refine List.filter_congr fun e he ↦ ?_
  rw [Function.comp_apply, mem_entries_iff.mp he, Option.any_some]

/-- Counting keys is counting entries, for a property that the value decides. -/
theorem countP_keys {d : Dict κ ν} {p : κ → Bool} {q : ν → Bool}
    (h : ∀ k x, d.get? k = some x → p k = q x) :
    d.keys.countP p = d.entries.countP fun e ↦ q e.2 := by
  rw [keys, List.countP_map]
  refine List.countP_congr fun e he ↦ ?_
  rw [Function.comp_apply, h e.1 e.2 (mem_entries_iff.mp he)]

@[simp] theorem get?_mapVals (f : κ → ν → μ) (d : Dict κ ν) (k : κ) :
    (d.mapVals f).get? k = (d.get? k).map (f k) := by
  refine get?_eq_of_mem_iff fun y ↦ ?_
  rw [entries_mapVals, List.mem_map, Option.map_eq_some_iff]
  constructor
  · rintro ⟨⟨k', x⟩, hx, he⟩
    obtain ⟨rfl, rfl⟩ : k' = k ∧ f k' x = y := by simpa using he
    exact ⟨x, mem_entries_iff.mp hx, rfl⟩
  · rintro ⟨x, hx, rfl⟩
    exact ⟨(k, x), mem_entries_iff.mpr hx, rfl⟩

@[simp] theorem get?_filter (p : κ → ν → Bool) (d : Dict κ ν) (k : κ) :
    (d.filter p).get? k = (d.get? k).filter (p k) := by
  refine get?_eq_of_mem_iff fun x ↦ ?_
  rw [entries_filter, List.mem_filter, mem_entries_iff, Option.filter_eq_some_iff]

/-! ## Writing one key -/

/-- Apply `f` to the value under `k`, in place; do nothing when there is none. -/
def modify (k : κ) (f : ν → ν) (d : Dict κ ν) : Dict κ ν :=
  d.mapVals fun k' x ↦ if k' = k then f x else x

theorem get?_modify (k : κ) (f : ν → ν) (d : Dict κ ν) (k' : κ) :
    (d.modify k f).get? k' = if k' = k then (d.get? k').map f else d.get? k' := by
  rw [modify, get?_mapVals]
  by_cases h : k' = k <;> simp [h]

theorem get?_modify_eq_some {k : κ} {f : ν → ν} {d : Dict κ ν} {k' : κ} {y : ν}
    (h : (d.modify k f).get? k' = some y) :
    ∃ x, d.get? k' = some x ∧ y = if k' = k then f x else x := by
  rw [modify, get?_mapVals] at h
  obtain ⟨x, hx, rfl⟩ := Option.map_eq_some_iff.mp h
  exact ⟨x, hx, rfl⟩

/-- Writing in place does nothing where there is nothing. -/
theorem modify_of_not_mem {k : κ} {d : Dict κ ν} (h : k ∉ d.keys) (f : ν → ν) :
    d.modify k f = d := by
  refine mapVals_eq_self fun k' x hx ↦ if_neg ?_
  rintro rfl
  exact h (mem_keys_iff.mpr ⟨x, hx⟩)

@[simp] theorem keys_modify (k : κ) (f : ν → ν) (d : Dict κ ν) : (d.modify k f).keys = d.keys :=
  keys_mapVals _ d

/-- Store `x` under `k` at the end, unless `k` is already there. -/
def setDefault (k : κ) (x : ν) (d : Dict κ ν) : Dict κ ν :=
  if h : k ∈ d.keys then d
  else ⟨d.entries ++ [(k, x)], by
    rw [List.map_append, List.nodup_append]
    refine ⟨d.nodup_keys, by simp, ?_⟩
    rintro a ha b hb rfl
    obtain rfl : a = k := by simpa using hb
    exact h ha⟩

theorem setDefault_of_mem {k : κ} {d : Dict κ ν} (h : k ∈ d.keys) (x : ν) :
    d.setDefault k x = d := dif_pos h

theorem entries_setDefault {k : κ} {d : Dict κ ν} (h : k ∉ d.keys) (x : ν) :
    (d.setDefault k x).entries = d.entries ++ [(k, x)] := by
  rw [setDefault, dif_neg h]

theorem mapVals_setDefault (f : κ → ν → μ) (k : κ) (x : ν) (d : Dict κ ν) :
    (d.setDefault k x).mapVals f = (d.mapVals f).setDefault k (f k x) := by
  by_cases h : k ∈ d.keys
  · rw [setDefault_of_mem h, setDefault_of_mem (by rwa [keys_mapVals])]
  · apply ext
    rw [entries_setDefault (by rwa [keys_mapVals]), entries_mapVals, entries_setDefault h,
      entries_mapVals, List.map_append, List.map_singleton]

theorem get?_setDefault (k : κ) (x : ν) (d : Dict κ ν) (k' : κ) :
    (d.setDefault k x).get? k' = if k' = k then some ((d.get? k').getD x) else d.get? k' := by
  by_cases h : k ∈ d.keys
  · rw [setDefault_of_mem h]
    obtain ⟨y, hy⟩ := mem_keys_iff.mp h
    split
    · rename_i hk; rw [hk, hy]; rfl
    · rfl
  · have hn : d.get? k = none := get?_eq_none_iff.mpr h
    refine get?_eq_of_mem_iff fun y ↦ ?_
    rw [entries_setDefault h, List.mem_append, mem_entries_iff]
    split
    · rename_i hk; subst hk; simp [hn, eq_comm]
    · rename_i hk; simp [hk]

theorem mem_keys_setDefault {k k' : κ} {d : Dict κ ν} {x : ν} :
    k' ∈ (d.setDefault k x).keys ↔ k' = k ∨ k' ∈ d.keys := by
  rw [mem_keys_iff, mem_keys_iff, get?_setDefault]
  by_cases h : k' = k <;> simp [h]

/-- Store `x` under `k`: in place when `k` is there, at the end when it is not. -/
def set (k : κ) (x : ν) (d : Dict κ ν) : Dict κ ν :=
  (d.setDefault k x).modify k fun _ ↦ x

theorem get?_set (k : κ) (x : ν) (d : Dict κ ν) (k' : κ) :
    (d.set k x).get? k' = if k' = k then some x else d.get? k' := by
  rw [set, get?_modify, get?_setDefault]
  by_cases h : k' = k <;> simp [h]

theorem mem_keys_set {k k' : κ} {d : Dict κ ν} {x : ν} :
    k' ∈ (d.set k x).keys ↔ k' = k ∨ k' ∈ d.keys := by
  rw [set, keys_modify, mem_keys_setDefault]

/-! What a test leaves of a written key depends on the values it had before and after. -/

theorem filter_setDefault_of_false {p : κ → ν → Bool} {k : κ} {x : ν} (h : p k x = false)
    (d : Dict κ ν) : (d.setDefault k x).filter p = d.filter p := by
  by_cases hk : k ∈ d.keys
  · rw [setDefault_of_mem hk]
  · apply ext
    rw [entries_filter, entries_setDefault hk, List.filter_append, entries_filter]
    simp [h]

theorem filter_setDefault_of_true {p : κ → ν → Bool} {k : κ} {x : ν} (h : p k x = true)
    {d : Dict κ ν} (hd : ∀ y, d.get? k = some y → p k y = true) :
    (d.setDefault k x).filter p = (d.filter p).setDefault k x := by
  by_cases hk : k ∈ d.keys
  · obtain ⟨y, hy⟩ := mem_keys_iff.mp hk
    rw [setDefault_of_mem hk, setDefault_of_mem]
    exact mem_keys_iff.mpr ⟨y, by rw [get?_filter, hy, Option.filter_some, if_pos (hd y hy)]⟩
  · have hk' : k ∉ (d.filter p).keys := by
      rw [← get?_eq_none_iff, get?_filter, get?_eq_none_iff.mpr hk]
      rfl
    apply ext
    rw [entries_filter, entries_setDefault hk, List.filter_append, entries_setDefault hk',
      entries_filter]
    simp [h]

theorem filter_set_of_false {p : κ → ν → Bool} {k : κ} {x : ν} (h : p k x = false)
    {d : Dict κ ν} (hd : ∀ y, d.get? k = some y → p k y = false) :
    (d.set k x).filter p = d.filter p := by
  have hlast : ∀ k' y, (d.setDefault k x).get? k' = some y → k' = k → p k' y = false := by
    rintro k' y hy rfl
    rw [get?_setDefault, if_pos rfl, Option.some_inj] at hy
    cases hk : d.get? k' with
    | none => rw [← hy, hk]; exact h
    | some z => rw [← hy, hk]; exact hd z hk
  have hfilter : (d.setDefault k x).filter (fun k' y ↦ p k' (if k' = k then x else y)) =
      (d.setDefault k x).filter p := by
    refine filter_congr fun k' y hy ↦ ?_
    split
    · rename_i hk
      rw [hlast k' y hy hk, hk, h]
    · rfl
  rw [set, modify, filter_mapVals, hfilter, filter_setDefault_of_false h]
  -- The key itself is not among the pairs that are left, so writing it changes nothing.
  refine mapVals_eq_self fun k' y hy ↦ if_neg ?_
  rintro rfl
  rw [get?_filter, Option.filter_eq_some_iff] at hy
  exact absurd hy.2 (by rw [hd y hy.1]; exact Bool.false_ne_true)

theorem filter_set_of_true {p : κ → ν → Bool} {k : κ} {x : ν} (h : p k x = true)
    {d : Dict κ ν} (hd : ∀ y, d.get? k = some y → p k y = true) :
    (d.set k x).filter p = (d.filter p).set k x := by
  rw [set, set, modify, modify, filter_mapVals, ← filter_setDefault_of_true h hd]
  congr 1
  refine filter_congr fun k' y hy ↦ ?_
  split
  · rename_i hk
    subst hk
    rw [get?_setDefault, if_pos rfl, Option.some_inj] at hy
    cases hk : d.get? k' with
    | none => rw [← hy, hk, h]; exact h.symm
    | some z => rw [← hy, hk, h]; exact (hd z hk).symm
  · rfl

theorem entries_set_of_mem {k : κ} {d : Dict κ ν} (h : k ∈ d.keys) (x : ν) :
    (d.set k x).entries = d.entries.map fun e ↦ (e.1, if e.1 = k then x else e.2) := by
  rw [set, setDefault_of_mem h, modify, entries_mapVals]

theorem entries_set_of_not_mem {k : κ} {d : Dict κ ν} (h : k ∉ d.keys) (x : ν) :
    (d.set k x).entries = d.entries ++ [(k, x)] := by
  rw [set, modify, entries_mapVals, entries_setDefault h, List.map_append]
  congr 1
  · refine (List.map_congr_left fun e he ↦ ?_).trans (List.map_id _)
    have hne : e.1 ≠ k := fun hk ↦ h (hk ▸ List.mem_map_of_mem he)
    rw [if_neg hne]
    rfl
  · simp

/-- The entries under one key. -/
theorem filter_entries_fst (d : Dict κ ν) (k : κ) :
    d.entries.filter (fun e ↦ e.1 = k) = ((d.get? k).map fun x ↦ (k, x)).toList := by
  have hlist : ∀ l : List (κ × ν), (l.map Prod.fst).Nodup → l.filter (fun e ↦ e.1 = k) =
      (((l.find? fun e ↦ e.1 = k).map Prod.snd).map fun x ↦ (k, x)).toList := by
    intro l hl
    induction l with
    | nil => rfl
    | cons e l ih =>
      rw [List.map_cons, List.nodup_cons] at hl
      by_cases hk : e.1 = k
      · have hrest : l.filter (fun e ↦ e.1 = k) = [] := by
          rw [List.filter_eq_nil_iff]
          intro a ha hak
          exact hl.1 (hk ▸ of_decide_eq_true hak ▸ List.mem_map_of_mem ha)
        rw [List.filter_cons_of_pos (by simpa using hk), List.find?_cons_of_pos (by simpa using hk),
          hrest, ← hk]
        rfl
      · rw [List.filter_cons_of_neg (by simpa using hk),
          List.find?_cons_of_neg (by simpa using hk), ih hl.2]
  exact hlist d.entries d.nodup_keys

/-! Two dictionaries with the same values under different names for their keys. -/

/-- The second dictionary is the first one with its keys renamed. -/
def Renames {κ' : Type*} (f : κ → κ') (d : Dict κ ν) (e : Dict κ' ν) : Prop :=
  e.entries = d.entries.map fun p ↦ (f p.1, p.2)

section Renames

variable {κ' : Type*} [DecidableEq κ'] {f : κ → κ'} {d : Dict κ ν} {e : Dict κ' ν} {k : κ}

theorem Renames.get? (h : Renames f d e) (hf : ∀ j ∈ d.keys, f j = f k → j = k) :
    e.get? (f k) = d.get? k := by
  refine get?_eq_of_mem_iff fun x ↦ ?_
  rw [h, List.mem_map, ← mem_entries_iff]
  constructor
  · rintro ⟨p, hp, heq⟩
    obtain ⟨hkey, rfl⟩ := Prod.mk.inj heq
    rw [← hf p.1 (List.mem_map_of_mem hp) hkey]
    exact hp
  · intro hx
    exact ⟨(k, x), hx, rfl⟩

theorem Renames.mem_keys (h : Renames f d e) (hf : ∀ j ∈ d.keys, f j = f k → j = k) :
    f k ∈ e.keys ↔ k ∈ d.keys := by
  rw [mem_keys_iff, mem_keys_iff, h.get? hf]

theorem Renames.set (h : Renames f d e) (hf : ∀ j ∈ d.keys, f j = f k → j = k) (x : ν) :
    Renames f (d.set k x) (e.set (f k) x) := by
  by_cases hk : k ∈ d.keys
  · rw [Renames, entries_set_of_mem hk, entries_set_of_mem ((h.mem_keys hf).mpr hk), h,
      List.map_map, List.map_map]
    refine List.map_congr_left fun p hp ↦ ?_
    have hiff : f p.1 = f k ↔ p.1 = k :=
      ⟨hf p.1 (List.mem_map_of_mem hp), fun hpk ↦ hpk ▸ rfl⟩
    simp only [Function.comp_apply, hiff]
  · rw [Renames, entries_set_of_not_mem hk,
      entries_set_of_not_mem (fun hmem ↦ hk ((h.mem_keys hf).mp hmem)), h, List.map_append]
    rfl

end Renames

/-- Count one more under `k`: `d[k] = d.get(k, 0) + 1`. -/
def increment (k : κ) (d : Dict κ Nat) : Dict κ Nat := d.set k ((d.get? k).getD 0 + 1)

theorem mem_keys_increment {k k' : κ} {d : Dict κ Nat} :
    k' ∈ (d.increment k).keys ↔ k' = k ∨ k' ∈ d.keys :=
  mem_keys_set

theorem get?_increment (k : κ) (d : Dict κ Nat) (k' : κ) :
    ((d.increment k).get? k').getD 0 = (d.get? k').getD 0 + if k' = k then 1 else 0 := by
  rw [increment, get?_set]
  by_cases h : k' = k <;> simp [h]

theorem Renames.increment {κ' : Type*} [DecidableEq κ'] {f : κ → κ'} {d : Dict κ Nat}
    {e : Dict κ' Nat} {k : κ} (h : Renames f d e) (hf : ∀ j ∈ d.keys, f j = f k → j = k) :
    Renames f (d.increment k) (e.increment (f k)) := by
  rw [Dict.increment, Dict.increment, h.get? hf]
  exact h.set hf _

/-- Forget the key `k`. -/
def erase (k : κ) (d : Dict κ ν) : Dict κ ν := d.filter fun k' _ ↦ k' ≠ k

theorem get?_erase (k : κ) (d : Dict κ ν) (k' : κ) :
    (d.erase k).get? k' = if k' = k then none else d.get? k' := by
  rw [erase, get?_filter]
  by_cases h : k' = k <;> cases hd : d.get? k' <;> simp [h, Option.filter]

theorem get?_of_erase {k k' : κ} {d : Dict κ ν} {y : ν} (h : (d.erase k).get? k' = some y) :
    d.get? k' = some y := by
  rw [get?_erase] at h
  split at h
  · cases h
  · exact h

/-- What is true of an entry that is set, and of all that were there, is true of all entries. -/
theorem forall_get?_set {P : κ → ν → Prop} {k : κ} {x : ν} {d : Dict κ ν} (hx : P k x)
    (h : ∀ k y, d.get? k = some y → P k y) (k' : κ) (y : ν)
    (hy : (d.set k x).get? k' = some y) : P k' y := by
  rw [get?_set] at hy
  split at hy
  · rename_i hkey
    obtain rfl := Option.some.inj hy
    rw [hkey]
    exact hx
  · exact h k' y hy

theorem mem_keys_erase {k k' : κ} {d : Dict κ ν} :
    k' ∈ (d.erase k).keys ↔ k' ≠ k ∧ k' ∈ d.keys := by
  rw [mem_keys_iff, mem_keys_iff, get?_erase]
  split <;> simp_all

theorem keys_erase (k : κ) (d : Dict κ ν) : (d.erase k).keys = d.keys.filter fun k' ↦ k' ≠ k := by
  rw [erase, keys, entries_filter, keys, List.filter_map]
  rfl

/-- A key that was there leaves one key less. -/
theorem length_keys_erase {k : κ} {d : Dict κ ν} (h : k ∈ d.keys) :
    (d.erase k).keys.length + 1 = d.keys.length := by
  have herase : (d.erase k).keys = d.keys.erase k := by
    rw [keys_erase, d.keys_nodup.erase_eq_filter]
    exact List.filter_congr fun k' _ ↦ by by_cases heq : k' = k <;> simp [heq]
  rw [herase, List.length_erase_of_mem h]
  have hpos := List.length_pos_of_mem h
  omega

/-- And a key that was not there is one key more. -/
theorem length_keys_set (k : κ) (x : ν) (d : Dict κ ν) :
    (d.set k x).keys.length = if k ∈ d.keys then d.keys.length else d.keys.length + 1 := by
  split
  · rename_i hmem
    rw [keys, entries_set_of_mem hmem, List.length_map, List.length_map, keys, List.length_map]
  · rename_i hmem
    rw [keys, entries_set_of_not_mem hmem, List.length_map, List.length_append, keys,
      List.length_map]
    rfl

/-- Forgetting several keys. -/
theorem get?_foldl_erase (ks : List κ) (d : Dict κ ν) (k : κ) :
    (ks.foldl (fun d k ↦ d.erase k) d).get? k = if k ∈ ks then none else d.get? k := by
  induction ks generalizing d with
  | nil => simp
  | cons k' ks ih =>
    rw [List.foldl_cons, ih, get?_erase]
    by_cases hks : k ∈ ks
    · rw [if_pos hks, if_pos (List.mem_cons_of_mem _ hks)]
    · by_cases hk : k = k' <;> simp [hks, hk]

/-- What is stored last under a key, when the values of a list are stored under their keys. -/
def lastWritten {α : Type*} (key : α → κ) (value : α → ν) (l : List α) (k : κ) : Option ν :=
  (l.reverse.find? fun x ↦ key x = k).map value

theorem lastWritten_eq_some {α : Type*} {key : α → κ} {value : α → ν} {l : List α} {k : κ} {y : ν}
    (h : lastWritten key value l k = some y) : ∃ x ∈ l, key x = k ∧ value x = y := by
  rw [lastWritten, Option.map_eq_some_iff] at h
  obtain ⟨x, hx, rfl⟩ := h
  exact ⟨x, List.mem_reverse.mp (List.mem_of_find?_eq_some hx), by simpa using List.find?_some hx,
    rfl⟩

/-- If no key is written twice, what is stored last is what is stored. -/
theorem lastWritten_eq_some_iff {α : Type*} {key : α → κ} {value : α → ν} {l : List α}
    (h : (l.map key).Nodup) {k : κ} {y : ν} :
    lastWritten key value l k = some y ↔ ∃ x ∈ l, key x = k ∧ value x = y := by
  refine ⟨lastWritten_eq_some, ?_⟩
  rintro ⟨x, hx, rfl, rfl⟩
  rw [lastWritten, Option.map_eq_some_iff]
  cases hfound : l.reverse.find? fun x' ↦ key x' = key x with
  | none =>
    have hmiss := List.find?_eq_none.mp hfound x (List.mem_reverse.mpr hx)
    exact absurd (decide_eq_true rfl) hmiss
  | some x' =>
    have hkey : key x' = key x := by simpa using List.find?_some hfound
    have hx' : x' ∈ l := List.mem_reverse.mp (List.mem_of_find?_eq_some hfound)
    exact ⟨x', rfl, congrArg value (List.inj_on_of_nodup_map h hx' hx hkey)⟩

theorem lastWritten_eq_none {α : Type*} {key : α → κ} {value : α → ν} {l : List α} {k : κ} :
    lastWritten key value l k = none ↔ ∀ x ∈ l, key x ≠ k := by
  simp [lastWritten]

/-- **The last value stored wins.** -/
theorem get?_foldl_set {α : Type*} (key : α → κ) (value : α → ν) (l : List α) (d : Dict κ ν)
    (k : κ) : (l.foldl (fun d x ↦ d.set (key x) (value x)) d).get? k =
      (lastWritten key value l k).or (d.get? k) := by
  induction l generalizing d with
  | nil => rfl
  | cons x l ih =>
    rw [List.foldl_cons, ih, get?_set, lastWritten, lastWritten, List.reverse_cons,
      List.find?_append]
    cases l.reverse.find? fun x ↦ key x = k with
    | some found => rfl
    | none =>
      by_cases hk : key x = k
      · simp [hk]
      · simp [hk, Ne.symm hk]

/-- A test that none of the values stored passes, under any of their keys, does not see them. -/
theorem filter_foldl_set_of_false {α : Type*} {p : κ → ν → Bool} {key : α → κ} {value : α → ν}
    {l : List α} (h : ∀ x ∈ l, ∀ y, p (key x) y = false) (d : Dict κ ν) :
    (l.foldl (fun d x ↦ d.set (key x) (value x)) d).filter p = d.filter p := by
  induction l generalizing d with
  | nil => rfl
  | cons x l ih =>
    rw [List.foldl_cons, ih fun x hx ↦ h x (List.mem_cons_of_mem _ hx)]
    exact filter_set_of_false (h x List.mem_cons_self _) fun y _ ↦ h x List.mem_cons_self y

/-- `d.update(e)`: the entries of `e` are stored one after the other. -/
def update (d e : Dict κ ν) : Dict κ ν := e.entries.foldl (fun d entry ↦ d.set entry.1 entry.2) d

theorem get?_update (d e : Dict κ ν) (k : κ) :
    (d.update e).get? k = (e.get? k).or (d.get? k) := by
  have hlast : lastWritten Prod.fst Prod.snd e.entries k = e.get? k := by
    refine (get?_eq_of_mem_iff fun x ↦ ⟨fun hmem ↦ ?_, fun hlast ↦ ?_⟩).symm
    · -- No key repeats, so what is found under the key is the only entry with it.
      cases hlast : lastWritten Prod.fst Prod.snd e.entries k with
      | none => exact absurd rfl (lastWritten_eq_none.mp hlast (k, x) hmem)
      | some y =>
        obtain ⟨entry, hentry, hk, rfl⟩ := lastWritten_eq_some hlast
        rw [List.inj_on_of_nodup_map e.nodup_keys hentry hmem hk]
    · obtain ⟨entry, hentry, rfl, rfl⟩ := lastWritten_eq_some hlast
      exact hentry
  rw [update, get?_foldl_set, hlast]

/-! ## One entry among the others

`modify`, `set` and `erase` act on one entry and leave the entries around it alone. -/

theorem entries_split {d : Dict κ ν} {k : κ} {x : ν} (h : d.get? k = some x) :
    ∃ before after, d.entries = before ++ (k, x) :: after ∧
      (∀ f, (d.modify k f).entries = before ++ (k, f x) :: after) ∧
      (d.erase k).entries = before ++ after := by
  obtain ⟨before, after, hsplit⟩ := List.append_of_mem (mem_entries_iff.mpr h)
  have hnodup := d.nodup_keys
  rw [hsplit, List.map_append, List.map_cons, List.nodup_middle, List.nodup_cons, ← List.map_append]
    at hnodup
  have hne : ∀ e ∈ before ++ after, e.1 ≠ k := fun e he hk ↦
    hnodup.1 (List.mem_map.mpr ⟨e, he, hk⟩)
  refine ⟨before, after, hsplit, fun f ↦ ?_, ?_⟩
  · have hkeep : ∀ l : List (κ × ν), (∀ e ∈ l, e ∈ before ++ after) →
        l.map (fun e ↦ (e.1, if e.1 = k then f e.2 else e.2)) = l := by
      intro l hl
      refine (List.map_congr_left fun e he ↦ ?_).trans (List.map_id l)
      rw [if_neg (hne e (hl e he))]
      rfl
    rw [modify, entries_mapVals, hsplit, List.map_append, List.map_cons, if_pos rfl,
      hkeep before fun e he ↦ List.mem_append_left _ he,
      hkeep after fun e he ↦ List.mem_append_right _ he]
  · have hkeep : ∀ l : List (κ × ν), (∀ e ∈ l, e ∈ before ++ after) →
        l.filter (fun e ↦ decide (e.1 ≠ k)) = l := by
      intro l hl
      exact List.filter_eq_self.mpr fun e he ↦ decide_eq_true (hne e (hl e he))
    rw [erase, entries_filter, hsplit, List.filter_append, List.filter_cons_of_neg (by simp),
      hkeep before fun e he ↦ List.mem_append_left _ he,
      hkeep after fun e he ↦ List.mem_append_right _ he]

/-- Writing a key in place changes a count by what the test says of the two values. -/
theorem countP_modify {d : Dict κ ν} {k : κ} {x : ν} (h : d.get? k = some x) (f : ν → ν)
    (p : κ × ν → Bool) :
    (d.modify k f).entries.countP p + (if p (k, x) then 1 else 0) =
      d.entries.countP p + if p (k, f x) then 1 else 0 := by
  obtain ⟨before, after, hd, hf, -⟩ := entries_split h
  rw [hd, hf, List.countP_append, List.countP_append, List.countP_cons, List.countP_cons]
  omega

/-- Writing a key in place changes a sum by the difference of the two summands. -/
theorem sum_map_modify {d : Dict κ ν} {k : κ} {x : ν} (h : d.get? k = some x) (f : ν → ν)
    (g : κ × ν → Int) :
    ((d.modify k f).entries.map g).sum = (d.entries.map g).sum + (g (k, f x) - g (k, x)) := by
  obtain ⟨before, after, hd, hf, -⟩ := entries_split h
  rw [hd, hf]
  simp only [List.map_append, List.map_cons, List.sum_append, List.sum_cons]
  omega

/-- Writing a key changes the sum of the values by what it adds to the old one. -/
theorem sum_values_set (d : Dict κ Int) (k : κ) (x : Int) :
    ((d.set k ((d.get? k).getD 0 + x)).entries.map Prod.snd).sum =
      (d.entries.map Prod.snd).sum + x := by
  cases h : d.get? k with
  | none =>
    rw [entries_set_of_not_mem (get?_eq_none_iff.mp h), List.map_append, List.sum_append]
    simp
  | some y =>
    have hk : k ∈ d.keys := mem_keys_iff.mpr ⟨y, h⟩
    rw [set, setDefault_of_mem hk, sum_map_modify h, Option.getD_some]
    omega

/-- The sum of the values. -/
def sum (d : Dict κ Nat) : Nat := (d.entries.map Prod.snd).sum

theorem sum_set (d : Dict κ Nat) (k : κ) (x : Nat) :
    (d.set k x).sum + (d.get? k).getD 0 = d.sum + x := by
  cases h : d.get? k with
  | none =>
    have hk : k ∉ d.keys := get?_eq_none_iff.mp h
    rw [sum, entries_set_of_not_mem hk, List.map_append, List.sum_append]
    simp [sum]
  | some y =>
    have hk : k ∈ d.keys := mem_keys_iff.mpr ⟨y, h⟩
    obtain ⟨before, after, hd, hf, -⟩ := entries_split h
    rw [set, setDefault_of_mem hk, sum, sum, hf, hd]
    simp only [List.map_append, List.map_cons, List.sum_append, List.sum_cons, Option.getD_some]
    omega

theorem sum_increment (d : Dict κ Nat) (k : κ) : (d.increment k).sum = d.sum + 1 := by
  have h := d.sum_set k ((d.get? k).getD 0 + 1)
  rw [increment]
  omega

theorem sum_erase (d : Dict κ Nat) (k : κ) : (d.erase k).sum + (d.get? k).getD 0 = d.sum := by
  cases h : d.get? k with
  | none =>
    rw [erase, filter_eq_self fun j y hj ↦ ?_]
    · rfl
    · rw [decide_eq_true_eq]
      rintro rfl
      rw [h] at hj
      exact nomatch hj
  | some x =>
    obtain ⟨before, after, hd, -, he⟩ := entries_split h
    rw [sum, sum, he, hd]
    simp only [List.map_append, List.map_cons, List.sum_append, List.sum_cons, Option.getD_some]
    omega

end DecidableEq

end Dict
