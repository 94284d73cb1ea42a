import ExoBrain.Lib.Json

/-!
# The normal form of a value

Values that differ in the order of the entries of their dictionaries only have the same normal form.

* `sortEntries_eq_iff`: sorting forgets the order of the entries, and nothing else.
* `normal_normal` and `isJson_normal`: the normal form is its own, and can be written if the value can.
* `normal_dict_eq_iff`: dictionaries have the same normal form exactly if they have the same keys,
  with values that have.
-/

set_option autoImplicit false

namespace Json

section
variable {showFloat : String → String}

theorem normalEntries_eq_map (entries : List (String × Value)) :
    normalEntries entries = entries.map fun e ↦ (e.1, normal e.2) := by
  induction entries with
  | nil => rfl
  | cons e entries ih => rw [normalEntries, List.map_cons, ih]

theorem map_fst_normalEntries (entries : List (String × Value)) :
    (normalEntries entries).map Prod.fst = entries.map Prod.fst := by
  rw [normalEntries_eq_map, List.map_map]
  rfl

theorem areJson_iff {items : List Value} :
    areJson showFloat items = true ↔ ∀ v ∈ items, isJson showFloat v = true := by
  induction items with
  | nil => exact ⟨fun _ _ h ↦ (nomatch h), fun _ ↦ rfl⟩
  | cons v items ih => rw [areJson, Bool.and_eq_true, ih, List.forall_mem_cons]

theorem entriesAreJson_iff {entries : List (String × Value)} :
    entriesAreJson showFloat entries = true ↔ ∀ e ∈ entries, isJson showFloat e.2 = true := by
  induction entries with
  | nil => exact ⟨fun _ _ h ↦ (nomatch h), fun _ ↦ rfl⟩
  | cons e entries ih => rw [entriesAreJson, Bool.and_eq_true, ih, List.forall_mem_cons]

theorem isJson_list {items : List Value} :
    isJson showFloat (.list items) = true ↔ ∀ v ∈ items, isJson showFloat v = true := areJson_iff

theorem isJson_dict {entries : List (String × Value)} :
    isJson showFloat (.dict entries) = true ↔
      (entries.map Prod.fst).Nodup ∧ ∀ e ∈ entries, isJson showFloat e.2 = true := by
  rw [isJson, Bool.and_eq_true, decide_eq_true_eq, entriesAreJson_iff]

theorem sortEntries_perm (entries : List (String × Value)) : (sortEntries entries).Perm entries :=
  List.perm_insertionSort _ _

theorem pairwise_sortEntries (entries : List (String × Value)) :
    (sortEntries entries).Pairwise fun a b ↦ a.1 ≤ b.1 := by
  have htotal : Std.Total fun a b : String × Value ↦ a.1 ≤ b.1 := ⟨fun a b ↦ String.le_total a.1 b.1⟩
  have htrans : IsTrans (String × Value) fun a b ↦ a.1 ≤ b.1 := ⟨fun _ _ _ ↦ String.le_trans⟩
  exact List.pairwise_insertionSort _ entries

/-- **Sorting forgets the order of the entries**, and nothing else. -/
theorem sortEntries_eq_iff {entries entries' : List (String × Value)}
    (h : (entries.map Prod.fst).Nodup) :
    sortEntries entries = sortEntries entries' ↔ entries.Perm entries' := by
  constructor
  · intro heq
    exact (sortEntries_perm entries).symm.trans (heq ▸ sortEntries_perm entries')
  · intro hperm
    refine List.Perm.eq_of_pairwise ?_ (pairwise_sortEntries entries) (pairwise_sortEntries entries')
      ((sortEntries_perm entries).trans (hperm.trans (sortEntries_perm entries').symm))
    intro a b ha hb hab hba
    have hb' := hperm.mem_iff.mpr ((sortEntries_perm entries').mem_iff.mp hb)
    exact List.inj_on_of_nodup_map h ((sortEntries_perm entries).mem_iff.mp ha) hb'
      (String.le_antisymm hab hba)

theorem sortEntries_sortEntries (entries : List (String × Value)) :
    sortEntries (sortEntries entries) = sortEntries entries :=
  (pairwise_sortEntries entries).insertionSort_eq

theorem normalEntries_sortEntries (entries : List (String × Value)) :
    normalEntries (sortEntries entries) = sortEntries (normalEntries entries) := by
  rw [normalEntries_eq_map, normalEntries_eq_map]
  exact List.map_insertionSort _ _ _ entries fun _ _ _ _ ↦ Iff.rfl

mutual

/-- **The normal form is its own.** -/
theorem normal_normal : (v : Value) → normal (normal v) = normal v
  | .none | .bool _ | .int _ | .float _ | .str _ | .object _ _ _ _ => rfl
  | .list items => by rw [normal, normal, normalItems_normalItems items]
  | .dict entries => by
    rw [normal, normal, normalEntries_sortEntries, normalEntries_normalEntries entries,
      sortEntries_sortEntries]

/-- So are the items in normal form. -/
theorem normalItems_normalItems : (items : List Value) →
    normalItems (normalItems items) = normalItems items
  | [] => rfl
  | v :: items => by rw [normalItems, normalItems, normal_normal v, normalItems_normalItems items]

/-- So are the entries with values in normal form. -/
theorem normalEntries_normalEntries : (entries : List (String × Value)) →
    normalEntries (normalEntries entries) = normalEntries entries
  | [] => rfl
  | (key, v) :: entries => by
    rw [normalEntries, normalEntries, normal_normal v, normalEntries_normalEntries entries]

end

mutual

/-- **The normal form can be written if the value can.** -/
theorem isJson_normal : (v : Value) → isJson showFloat v = true → isJson showFloat (normal v) = true
  | .none, h | .bool _, h | .int _, h | .float _, h | .str _, h => h
  | .list items, h => areJson_normalItems items h
  | .dict entries, h => by
    obtain ⟨hnodup, hvalues⟩ := isJson_dict.mp h
    rw [normal, isJson_dict]
    refine ⟨?_, fun e he ↦ ?_⟩
    · rw [((sortEntries_perm _).map Prod.fst).nodup_iff, map_fst_normalEntries]
      exact hnodup
    · exact entriesAreJson_iff.mp
        (entriesAreJson_normalEntries entries (entriesAreJson_iff.mpr hvalues)) e
        ((sortEntries_perm _).mem_iff.mp he)

/-- So can the items. -/
theorem areJson_normalItems : (items : List Value) → areJson showFloat items = true →
    areJson showFloat (normalItems items) = true
  | [], _ => rfl
  | v :: items, h => by
    rw [areJson, Bool.and_eq_true] at h
    rw [normalItems, areJson, isJson_normal v h.1, areJson_normalItems items h.2]
    rfl

/-- So can the values of the entries. -/
theorem entriesAreJson_normalEntries : (entries : List (String × Value)) →
    entriesAreJson showFloat entries = true → entriesAreJson showFloat (normalEntries entries) = true
  | [], _ => rfl
  | (key, v) :: entries, h => by
    rw [entriesAreJson, Bool.and_eq_true] at h
    rw [normalEntries, entriesAreJson, isJson_normal v h.1, entriesAreJson_normalEntries entries h.2]
    rfl

end

/-- Only a dictionary has a dictionary as its normal form. -/
theorem exists_eq_dict {v : Value} {entries : List (String × Value)} (h : normal v = .dict entries) :
    ∃ entries', v = .dict entries' := by
  cases v with
  | dict entries' => exact ⟨entries', rfl⟩
  | _ => cases h

theorem exists_eq_list {v : Value} {items : List Value} (h : normal v = .list items) :
    ∃ items', v = .list items' ∧ normalItems items' = items := by
  cases v with
  | list items' => exact ⟨items', rfl, Value.list.inj h⟩
  | _ => cases h

theorem eq_str {v : Value} {s : String} (h : normal v = .str s) : v = .str s := by
  cases v with
  | str s' => exact h
  | _ => cases h

theorem eq_bool {v : Value} {b : Bool} (h : normal v = .bool b) : v = .bool b := by
  cases v with
  | bool b' => exact h
  | _ => cases h

/-! ### Lookups -/

theorem lookup_eq_some_iff {key : String} {v : Value} {entries : List (String × Value)}
    (h : (entries.map Prod.fst).Nodup) :
    Value.lookup key entries = some v ↔ (key, v) ∈ entries := by
  induction entries with
  | nil => exact ⟨fun hfound ↦ (nomatch hfound), fun hmem ↦ (nomatch hmem)⟩
  | cons e entries ih =>
    rw [List.map_cons, List.nodup_cons] at h
    rw [Value.lookup_cons, List.mem_cons]
    by_cases hkey : e.1 = key
    · subst hkey
      have hrest : (e.1, v) ∉ entries := fun hmem ↦ h.1 (List.mem_map.mpr ⟨_, hmem, rfl⟩)
      rw [if_pos rfl, Option.some.injEq]
      constructor
      · rintro rfl
        exact Or.inl rfl
      · rintro (heq | hmem)
        · exact (congrArg Prod.snd heq).symm
        · exact absurd hmem hrest
    · rw [if_neg hkey, ih h.2]
      constructor
      · exact Or.inr
      · rintro (heq | hmem)
        · exact absurd (congrArg Prod.fst heq).symm hkey
        · exact hmem

theorem lookup_congr {key : String} {entries entries' : List (String × Value)}
    (h : (entries.map Prod.fst).Nodup) (hperm : entries.Perm entries') :
    Value.lookup key entries = Value.lookup key entries' := by
  refine Option.ext fun v ↦ ?_
  rw [lookup_eq_some_iff h, lookup_eq_some_iff ((hperm.map Prod.fst).nodup_iff.mp h),
    hperm.mem_iff]

theorem lookup_normalEntries (key : String) (entries : List (String × Value)) :
    Value.lookup key (normalEntries entries) = (Value.lookup key entries).map normal := by
  induction entries with
  | nil => rfl
  | cons e entries ih =>
    rw [normalEntries, Value.lookup_cons, Value.lookup_cons, ih]
    split <;> rfl

/-- **The values of dictionaries with the same normal form have the same normal forms.** -/
theorem lookup_of_normal_eq (key : String) {entries entries' : List (String × Value)}
    (h : (entries.map Prod.fst).Nodup)
    (heq : normal (.dict entries) = normal (.dict entries')) :
    (Value.lookup key entries).map normal = (Value.lookup key entries').map normal := by
  have hnodup : ((normalEntries entries).map Prod.fst).Nodup := by
    rw [map_fst_normalEntries]
    exact h
  rw [normal, normal, Value.dict.injEq, sortEntries_eq_iff hnodup] at heq
  rw [← lookup_normalEntries, ← lookup_normalEntries]
  exact lookup_congr hnodup heq

/-- **Dictionaries have the same normal form exactly if they have the same keys, with values that
have.** -/
theorem normal_dict_eq_iff {entries entries' : List (String × Value)}
    (h : (entries.map Prod.fst).Nodup) (h' : (entries'.map Prod.fst).Nodup) :
    normal (.dict entries) = normal (.dict entries') ↔
      ∀ key, (Value.lookup key entries).map normal = (Value.lookup key entries').map normal := by
  refine ⟨fun heq key ↦ lookup_of_normal_eq key h heq, fun hlookup ↦ ?_⟩
  have hnodup : ((normalEntries entries).map Prod.fst).Nodup := by
    rw [map_fst_normalEntries]
    exact h
  have hnodup' : ((normalEntries entries').map Prod.fst).Nodup := by
    rw [map_fst_normalEntries]
    exact h'
  rw [normal, normal, Value.dict.injEq, sortEntries_eq_iff hnodup,
    List.perm_ext_iff_of_nodup (List.Nodup.of_map Prod.fst hnodup)
      (List.Nodup.of_map Prod.fst hnodup')]
  rintro ⟨key, v⟩
  rw [← lookup_eq_some_iff hnodup, ← lookup_eq_some_iff hnodup', lookup_normalEntries,
    lookup_normalEntries, hlookup key]

end

end Json
