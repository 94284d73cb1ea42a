import ExoBrain.Tools.ArtifactStore

/-!
# The stores of tools

Two tables keep the tools of all tenants.  `SQLiteToolVersionStore` (`sqlite.py`) has a row for every
version of a package, at most one of which should be active for a tool; `SQLiteToolStore` has a row
for every tool that was registered without a package.  A row does not repeat its key; the records
that are read from the tables do.

* `ToolVersionStore.OneActive` is what the statements that activate a version keep: no tool has two
  active versions (`OneActive.setActive`, `OneActive.save`, `OneActive.mono`).
* `getActive_eq_some_iff`: then the active version that is found is the active version.
-/

set_option autoImplicit false

namespace ExoBrain
namespace Tools

/-! ## Versions -/

/-- A row of `tool_versions`, without its key. -/
structure ToolVersionRow where
  manifest : ToolPackageManifest
  validation : ToolValidationResult
  packageRef : String
  active : Bool
  createdAt : String

/-- `_row_to_record`. -/
def ToolVersionRow.toRecord (key : BundleKey) (row : ToolVersionRow) : ToolVersionRecord where
  tenantId := key.tenantId
  toolName := key.toolName
  version := key.version
  manifest := row.manifest
  validation := some row.validation
  packageRef := row.packageRef
  active := row.active
  createdAt := row.createdAt

/-- The key of a record. -/
def ToolVersionRecord.key (record : ToolVersionRecord) : BundleKey :=
  ⟨record.tenantId, record.toolName, record.version⟩

@[simp] theorem ToolVersionRow.key_toRecord (key : BundleKey) (row : ToolVersionRow) :
    (row.toRecord key).key = key := rfl

/-- The row of a record.  What was not validated is pending. -/
def ToolVersionRecord.row (record : ToolVersionRecord) : ToolVersionRow where
  manifest := record.manifest
  validation := record.validation.getD { toolName := record.toolName, version := record.version }
  packageRef := record.packageRef
  active := record.active
  createdAt := record.createdAt

/-- The table `tool_versions`. -/
abbrev ToolVersionStore := Dict BundleKey ToolVersionRow

namespace ToolVersionStore

variable (store : ToolVersionStore) (tenantId toolName version : String)

/-- `save_tool_version`. -/
def save (record : ToolVersionRecord) : ToolVersionStore := store.set record.key record.row

/-- `get_tool_version`. -/
def getVersion : Option ToolVersionRecord :=
  (store.get? ⟨tenantId, toolName, version⟩).map fun row ↦
    row.toRecord ⟨tenantId, toolName, version⟩

/-- The key is one of the tool. -/
def IsOf (key : BundleKey) : Prop := key.tenantId = tenantId ∧ key.toolName = toolName

instance (key : BundleKey) : Decidable (IsOf tenantId toolName key) :=
  inferInstanceAs (Decidable (_ ∧ _))

/-- `clear_active_tool_version`. -/
def clearActive : ToolVersionStore :=
  store.mapVals fun key row ↦ if IsOf tenantId toolName key then { row with active := false } else row

/-- `set_active_tool_version`. -/
def setActive : ToolVersionStore :=
  (store.clearActive tenantId toolName).modify ⟨tenantId, toolName, version⟩ fun row ↦
    { row with active := true }

/-- `get_active_tool_version`. -/
def getActive : Option ToolVersionRecord :=
  (store.entries.find? fun e ↦ IsOf tenantId toolName e.1 ∧ e.2.active = true).map fun e ↦
    e.2.toRecord e.1

/-- `delete_tool_version`. -/
def delete : ToolVersionStore := store.erase ⟨tenantId, toolName, version⟩

/-- `list_active_tool_versions`. -/
def listActive : List ToolVersionRecord :=
  ((store.entries.filter fun e ↦ e.1.tenantId = tenantId ∧ e.2.active = true).map fun e ↦
    e.2.toRecord e.1).mergeSort fun a b ↦ a.toolName ≤ b.toolName

end ToolVersionStore

/-! ## Tools without versions -/

/-- A row of `tools`, without its key. -/
structure ToolRow where
  handlerRef : String
  riskTier : String
  isStateChanging : Bool
  timeoutMs : Int
  description : String
  parametersSchema : Dict String Value
  metadata : Dict String Value

/-- The table `tools`, by tenant and name. -/
abbrev ToolStore := Dict (String × String) ToolRow

/-- The record of a row. -/
def ToolRow.toRecord (tenantId name : String) (row : ToolRow) : PersistedToolRecord where
  name := name
  handlerRef := row.handlerRef
  tenantId := tenantId
  riskTier := row.riskTier
  isStateChanging := row.isStateChanging
  timeoutMs := row.timeoutMs
  description := row.description
  parametersSchema := row.parametersSchema
  metadata := row.metadata

/-- The row of a record. -/
def PersistedToolRecord.row (record : PersistedToolRecord) : ToolRow where
  handlerRef := record.handlerRef
  riskTier := record.riskTier
  isStateChanging := record.isStateChanging
  timeoutMs := record.timeoutMs
  description := record.description
  parametersSchema := record.parametersSchema
  metadata := record.metadata

namespace ToolStore

variable (store : ToolStore) (tenantId : String)

/-- `save_tool`. -/
def saveTool (record : PersistedToolRecord) : ToolStore := store.set (tenantId, record.name) record.row

/-- `delete_tool`. -/
def deleteTool (name : String) : ToolStore := store.erase (tenantId, name)

/-- `list_tools`. -/
def listTools : List PersistedToolRecord :=
  ((store.entries.filter fun e ↦ e.1.1 = tenantId).map fun e ↦
    e.2.toRecord e.1.1 e.1.2).mergeSort fun a b ↦ a.name ≤ b.name

end ToolStore

/-! ## What is read after a statement -/

namespace ToolVersionStore

variable {store : ToolVersionStore} {tenantId toolName version : String} {key : BundleKey}
  {row : ToolVersionRow}

theorem get?_clearActive : (store.clearActive tenantId toolName).get? key =
    (store.get? key).map fun row ↦
      if IsOf tenantId toolName key then { row with active := false } else row :=
  Dict.get?_mapVals _ store key

theorem get?_setActive : (store.setActive tenantId toolName version).get? key =
    (store.get? key).map fun row ↦ if IsOf tenantId toolName key then
      { row with active := decide (key.version = version) } else row := by
  rw [setActive, Dict.get?_modify, get?_clearActive]
  cases store.get? key with
  | none => simp
  | some row =>
    by_cases hkey : key = ⟨tenantId, toolName, version⟩
    · subst hkey
      simp [IsOf]
    · by_cases hof : IsOf tenantId toolName key
      · have hversion : key.version ≠ version := by
          rintro rfl
          obtain ⟨rfl, rfl⟩ := hof
          exact hkey rfl
        simp [hkey, hof, hversion]
      · simp [hkey, hof]

/-! ### One active version -/

/-- The version is active. -/
def IsActive (store : ToolVersionStore) (key : BundleKey) : Prop :=
  ∃ row, store.get? key = some row ∧ row.active = true

/-- **No tool has two active versions.** -/
def OneActive (store : ToolVersionStore) : Prop :=
  ∀ key key', store.IsActive key → store.IsActive key' →
    key.tenantId = key'.tenantId → key.toolName = key'.toolName → key = key'

theorem oneActive_empty : OneActive Dict.empty := by
  rintro key key' ⟨row, h, -⟩
  cases h

/-- Fewer active versions are still not two. -/
theorem OneActive.mono {store' : ToolVersionStore} (h : store.OneActive)
    (hsub : ∀ key, store'.IsActive key → store.IsActive key) : store'.OneActive :=
  fun key key' hkey hkey' ↦ h key key' (hsub key hkey) (hsub key' hkey')

theorem isActive_clearActive : (store.clearActive tenantId toolName).IsActive key ↔
    store.IsActive key ∧ ¬IsOf tenantId toolName key := by
  simp only [IsActive, get?_clearActive, Option.map_eq_some_iff]
  constructor
  · rintro ⟨_, ⟨row, hrow, rfl⟩, hactive⟩
    by_cases hof : IsOf tenantId toolName key
    · rw [if_pos hof] at hactive
      cases hactive
    · rw [if_neg hof] at hactive
      exact ⟨⟨row, hrow, hactive⟩, hof⟩
  · rintro ⟨⟨row, hrow, hactive⟩, hof⟩
    exact ⟨row, ⟨row, hrow, if_neg hof⟩, hactive⟩

theorem isActive_setActive : (store.setActive tenantId toolName version).IsActive key ↔
    if IsOf tenantId toolName key then key.version = version ∧ key ∈ store.keys
    else store.IsActive key := by
  simp only [IsActive, get?_setActive, Option.map_eq_some_iff, Dict.mem_keys_iff]
  by_cases hof : IsOf tenantId toolName key
  · simp only [if_pos hof]
    constructor
    · rintro ⟨_, ⟨row, hrow, rfl⟩, hactive⟩
      exact ⟨of_decide_eq_true hactive, row, hrow⟩
    · rintro ⟨hversion, row, hrow⟩
      exact ⟨_, ⟨row, hrow, rfl⟩, decide_eq_true hversion⟩
  · simp only [if_neg hof]
    constructor
    · rintro ⟨_, ⟨row, hrow, rfl⟩, hactive⟩
      exact ⟨row, hrow, hactive⟩
    · rintro ⟨row, hrow, hactive⟩
      exact ⟨row, ⟨row, hrow, rfl⟩, hactive⟩

theorem isActive_save {record : ToolVersionRecord} : (store.save record).IsActive key ↔
    if key = record.key then record.active = true else store.IsActive key := by
  simp only [IsActive, save, Dict.get?_set]
  by_cases hkey : key = record.key
  · simp [hkey, ToolVersionRecord.row]
  · simp [hkey]

theorem isActive_delete : (store.delete tenantId toolName version).IsActive key ↔
    key ≠ ⟨tenantId, toolName, version⟩ ∧ store.IsActive key := by
  simp only [IsActive, delete, Dict.get?_erase]
  by_cases hkey : key = ⟨tenantId, toolName, version⟩ <;> simp [hkey]

theorem OneActive.setActive (h : store.OneActive) :
    (store.setActive tenantId toolName version).OneActive := by
  intro key key' hkey hkey' htenant htool
  rw [isActive_setActive] at hkey hkey'
  by_cases hof : IsOf tenantId toolName key
  · have hof' : IsOf tenantId toolName key' := ⟨htenant ▸ hof.1, htool ▸ hof.2⟩
    rw [if_pos hof] at hkey
    rw [if_pos hof'] at hkey'
    cases key
    cases key'
    simp_all
  · have hof' : ¬IsOf tenantId toolName key' := fun hof' ↦
      hof ⟨htenant ▸ hof'.1, htool ▸ hof'.2⟩
    rw [if_neg hof] at hkey
    rw [if_neg hof'] at hkey'
    exact h key key' hkey hkey' htenant htool

theorem OneActive.save (h : store.OneActive) {record : ToolVersionRecord}
    (hinactive : record.active = false) : (store.save record).OneActive := by
  refine h.mono fun key hkey ↦ ?_
  rw [isActive_save] at hkey
  split at hkey
  · exact absurd hkey (by simp [hinactive])
  · exact hkey

theorem getActive_eq_none_iff : store.getActive tenantId toolName = none ↔
    ∀ key, IsOf tenantId toolName key → ¬store.IsActive key := by
  rw [getActive, Option.map_eq_none_iff, List.find?_eq_none]
  constructor
  · rintro h key hof ⟨row, hrow, hactive⟩
    exact h (key, row) (Dict.mem_entries_iff.mpr hrow) (decide_eq_true ⟨hof, hactive⟩)
  · intro h e he hfound
    obtain ⟨hof, hactive⟩ := of_decide_eq_true hfound
    exact h e.1 hof ⟨e.2, Dict.mem_entries_iff.mp he, hactive⟩

theorem of_getActive {record : ToolVersionRecord}
    (h : store.getActive tenantId toolName = some record) :
    ∃ key row, IsOf tenantId toolName key ∧ store.get? key = some row ∧ row.active = true ∧
      record = row.toRecord key := by
  rw [getActive, Option.map_eq_some_iff] at h
  obtain ⟨e, hfound, rfl⟩ := h
  have hpassed := List.find?_some hfound
  obtain ⟨hof, hactive⟩ := of_decide_eq_true hpassed
  exact ⟨e.1, e.2, hof, Dict.mem_entries_iff.mp (List.mem_of_find?_eq_some hfound), hactive, rfl⟩

/-- **The active version is found.** -/
theorem OneActive.getActive_eq_some (h : store.OneActive) (hof : IsOf tenantId toolName key)
    (hrow : store.get? key = some row) (hactive : row.active = true) :
    store.getActive tenantId toolName = some (row.toRecord key) := by
  cases hfound : store.getActive tenantId toolName with
  | none => exact absurd ⟨row, hrow, hactive⟩ (getActive_eq_none_iff.mp hfound key hof)
  | some record =>
    obtain ⟨key', row', hof', hrow', hactive', rfl⟩ := of_getActive hfound
    obtain rfl := h key key' ⟨row, hrow, hactive⟩ ⟨row', hrow', hactive'⟩
      (hof.1.trans hof'.1.symm) (hof.2.trans hof'.2.symm)
    rw [hrow] at hrow'
    rw [Option.some.inj hrow']

/-- The active version is the same if the rows of the tool are. -/
theorem getActive_congr {store' : ToolVersionStore} (hone : store'.OneActive)
    (h : ∀ key, IsOf tenantId toolName key → store'.get? key = store.get? key) :
    store'.getActive tenantId toolName = store.getActive tenantId toolName := by
  cases hfound : store.getActive tenantId toolName with
  | none =>
    refine getActive_eq_none_iff.mpr fun key hof ↦ ?_
    rw [IsActive, h key hof]
    exact getActive_eq_none_iff.mp hfound key hof
  | some record =>
    obtain ⟨key, row, hof, hrow, hactive, rfl⟩ := of_getActive hfound
    exact hone.getActive_eq_some hof ((h key hof).trans hrow) hactive

theorem getActive_clearActive : (store.clearActive tenantId toolName).getActive tenantId toolName =
    none :=
  getActive_eq_none_iff.mpr fun _ hof hactive ↦ (isActive_clearActive.mp hactive).2 hof

/-- A record that is not active hides the active version if it is filed in its place. -/
theorem OneActive.getActive_save (h : store.OneActive) {record : ToolVersionRecord}
    (hinactive : record.active = false) : (store.save record).getActive tenantId toolName =
      (store.getActive tenantId toolName).filter fun active ↦ active.key ≠ record.key := by
  have hactive {key : BundleKey} :
      (store.save record).IsActive key ↔ key ≠ record.key ∧ store.IsActive key := by
    rw [isActive_save, hinactive]
    by_cases hkey : key = record.key <;> simp [hkey]
  cases hfound : store.getActive tenantId toolName with
  | none =>
    exact getActive_eq_none_iff.mpr fun key hof hon ↦
      getActive_eq_none_iff.mp hfound key hof (hactive.mp hon).2
  | some active =>
    obtain ⟨key, row, hof, hrow, hon, rfl⟩ := of_getActive hfound
    by_cases hkey : key = record.key
    · rw [Option.filter_some, ToolVersionRow.key_toRecord, if_neg (by simp [hkey])]
      refine getActive_eq_none_iff.mpr fun key' hof' hon' ↦ ?_
      obtain ⟨hne, hon'⟩ := hactive.mp hon'
      exact hne (hkey ▸ h key' key hon' ⟨row, hrow, hon⟩ (hof'.1.trans hof.1.symm)
        (hof'.2.trans hof.2.symm))
    · rw [Option.filter_some, ToolVersionRow.key_toRecord, if_pos (decide_eq_true hkey)]
      refine (h.save hinactive).getActive_eq_some hof ?_ hon
      rw [ToolVersionStore.save, Dict.get?_set, if_neg hkey, hrow]

theorem mem_listActive_iff {record : ToolVersionRecord} : record ∈ store.listActive tenantId ↔
    ∃ key row, key.tenantId = tenantId ∧ store.get? key = some row ∧ row.active = true ∧
      record = row.toRecord key := by
  simp only [listActive, List.mem_mergeSort, List.mem_map, List.mem_filter, decide_eq_true_eq]
  constructor
  · rintro ⟨e, ⟨he, htenant, hactive⟩, rfl⟩
    exact ⟨e.1, e.2, htenant, Dict.mem_entries_iff.mp he, hactive, rfl⟩
  · rintro ⟨key, row, htenant, hrow, hactive, rfl⟩
    exact ⟨(key, row), ⟨Dict.mem_entries_iff.mpr hrow, htenant, hactive⟩, rfl⟩

/-- The active versions of a tenant have different names. -/
theorem OneActive.nodup_listActive (h : store.OneActive) (tenantId : String) :
    ((store.listActive tenantId).map ToolVersionRecord.toolName).Nodup := by
  refine ((List.mergeSort_perm _ _).map _).nodup_iff.mpr ?_
  rw [List.map_map]
  refine List.Nodup.map_on ?_ ((List.Nodup.of_map _ store.nodup_keys).filter _)
  intro e he e' he' hname
  obtain ⟨hmem, hactive⟩ := List.mem_filter.mp he
  obtain ⟨hmem', hactive'⟩ := List.mem_filter.mp he'
  obtain ⟨htenant, hactive⟩ := of_decide_eq_true hactive
  obtain ⟨htenant', hactive'⟩ := of_decide_eq_true hactive'
  have hrow := Dict.mem_entries_iff.mp hmem
  have hrow' := Dict.mem_entries_iff.mp hmem'
  have hkey := h e.1 e'.1 ⟨e.2, hrow, hactive⟩ ⟨e'.2, hrow', hactive'⟩
    (htenant.trans htenant'.symm) hname
  rw [← hkey, hrow] at hrow'
  exact Prod.ext hkey (Option.some.inj hrow')

end ToolVersionStore

namespace ToolStore

variable {store : ToolStore} {tenantId : String}

theorem mem_listTools_iff {record : PersistedToolRecord} : record ∈ store.listTools tenantId ↔
    ∃ name row, store.get? (tenantId, name) = some row ∧ record = row.toRecord tenantId name := by
  simp only [listTools, List.mem_mergeSort, List.mem_map, List.mem_filter, decide_eq_true_eq]
  constructor
  · rintro ⟨⟨⟨_, name⟩, row⟩, ⟨he, rfl⟩, rfl⟩
    exact ⟨name, row, Dict.mem_entries_iff.mp he, rfl⟩
  · rintro ⟨name, row, hrow, rfl⟩
    exact ⟨((tenantId, name), row), ⟨Dict.mem_entries_iff.mpr hrow, rfl⟩, rfl⟩

/-- The tools of a tenant have different names. -/
theorem nodup_listTools (store : ToolStore) (tenantId : String) :
    ((store.listTools tenantId).map PersistedToolRecord.name).Nodup := by
  refine ((List.mergeSort_perm _ _).map _).nodup_iff.mpr ?_
  rw [List.map_map]
  refine List.Nodup.map_on ?_ ((List.Nodup.of_map _ store.nodup_keys).filter _)
  intro e he e' he' hname
  obtain ⟨hmem, htenant⟩ := List.mem_filter.mp he
  obtain ⟨hmem', htenant'⟩ := List.mem_filter.mp he'
  have hkey : e.1 = e'.1 :=
    Prod.ext ((of_decide_eq_true htenant).trans (of_decide_eq_true htenant').symm) hname
  exact List.inj_on_of_nodup_map store.nodup_keys hmem hmem' hkey

end ToolStore

end Tools
end ExoBrain
