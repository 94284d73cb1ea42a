import ExoBrain.Api.Tools
import ExoBrain.Lib.Filling

/-!
# Tools after a restart

At startup the registry of a tenant is filled from the stores (`hydrate_tenant_registries` in
`startup.py`): from the table of tools first, and then from the active versions, which take
precedence.  What cannot be resolved is skipped, but an exception that is not expected ends the
startup.  The agents of a tenant are left out.

* `plainBinding` and `activeBinding` are what a name is bound to in either store.
* `hydrateTenantTools_iff`: the registry that is rebuilt binds a name to what the active version is,
  or else to what the table of tools has, and it is rebuilt if neither raises for any name.
-/

set_option autoImplicit false

namespace ExoBrain
namespace Api

open Checks
open Core (RiskTier)
open Tools

/-- The version and the handler that a tool is bound to. -/
structure ToolBinding (η : Type) where
  version : Option Value
  handler : η

/-- What a descriptor binds its name to. -/
def bindingOf {η : Type} (descriptor : ToolDescriptor η) : ToolBinding η where
  version := descriptor.metadata.get? "tool_version"
  handler := descriptor.handler

namespace ToolPlatform

variable {η : Type} (P : ToolPlatform η)

/-! ## Startup -/

/-- `_resolve_handler_ref`. -/
def resolveHandlerRef (handlerRef : String) : Except ToolError (Option η) :=
  match Text.rsplit ':' handlerRef with
  | none => .ok none
  | some (modulePath, funcName) =>
    match P.host.importModule modulePath with
    | .error (.expected _) => .ok none
    | .error (.raised error) => .error error
    | .ok names => .ok (names funcName).join

/-- `_tool_record_to_descriptor`. -/
def toolRecordToDescriptor (record : PersistedToolRecord) :
    Except ToolError (Option (ToolDescriptor η)) := do
  match ← P.resolveHandlerRef record.handlerRef with
  | none => return none
  | some handler => return some {
      name := record.name
      handler := handler
      riskTier := (P.texts.riskTier? record.riskTier).getD .low
      isStateChanging := record.isStateChanging
      timeoutMs := record.timeoutMs
      description := record.description
      parametersSchema := record.parametersSchema
      metadata := record.metadata }

/-- The loop over the tools of a tenant. -/
def hydrateTool (registry : ToolRegistry η) (record : PersistedToolRecord) :
    Except ToolError (ToolRegistry η) :=
  if record.name ∈ registry.keys then .ok registry
  else do
    match ← P.toolRecordToDescriptor record with
    | none => return registry
    | some descriptor => return registry.set descriptor.name descriptor

/-- The loop over the active versions of a tenant. -/
def hydrateVersion (files : Files) (registry : ToolRegistry η) (record : ToolVersionRecord) :
    Except ToolError (ToolRegistry η) :=
  match P.project files record with
  | .ok descriptor => .ok (registry.set descriptor.name descriptor)
  | .error (.valueError _) => .ok registry
  | .error (.other message) => .error (.other message)

/-- `hydrate_tenant_registries`, for the tools of a tenant. -/
def hydrateTenantTools (tenantId : String) (toolStore : ToolStore) (versionStore : ToolVersionStore)
    (files : Files) (registry : ToolRegistry η) : Except ToolError (ToolRegistry η) := do
  let registry ← (toolStore.listTools tenantId).foldlM P.hydrateTool registry
  (versionStore.listActive tenantId).foldlM (P.hydrateVersion files) registry

/-! ## What a name is bound to -/

/-- The descriptor of a version, unless it is skipped. -/
def readVersion (files : Files) (record : ToolVersionRecord) :
    Except ToolError (Option (ToolDescriptor η)) :=
  match P.project files record with
  | .ok descriptor => .ok (some descriptor)
  | .error (.valueError _) => .ok none
  | .error (.other message) => .error (.other message)

/-- What a name is bound to by the table of tools. -/
def plainBinding (tenantId : String) (toolStore : ToolStore) (name : String) :
    Except ToolError (Option (ToolBinding η)) :=
  match toolStore.get? (tenantId, name) with
  | none => .ok none
  | some row =>
    (P.toolRecordToDescriptor (row.toRecord tenantId name)).map (Option.map bindingOf)

/-- What a version is bound to. -/
def versionBinding (files : Files) (record : ToolVersionRecord) :
    Except ToolError (Option (ToolBinding η)) :=
  (P.readVersion files record).map (Option.map bindingOf)

/-- What a name is bound to by its active version. -/
def activeBinding (tenantId : String) (versionStore : ToolVersionStore) (files : Files)
    (name : String) : Except ToolError (Option (ToolBinding η)) :=
  match versionStore.getActive tenantId name with
  | none => .ok none
  | some record => P.versionBinding files record

variable {P} {files : Files} {record : ToolVersionRecord}

/-- A version is projected under its own name. -/
theorem name_of_project {descriptor : ToolDescriptor η}
    (h : P.project files record = .ok descriptor) : descriptor.name = record.toolName := by
  simp only [project, descriptorFromToolVersion, bind_eq_ok, pure, Except.pure,
    Except.ok.injEq] at h
  obtain ⟨_, _, _, _, rfl⟩ := h
  rfl

theorem hydrateVersion_eq (registry : ToolRegistry η) :
    P.hydrateVersion files registry record =
      Filling.store ToolVersionRecord.toolName (P.readVersion files) registry record := by
  rw [hydrateVersion, Filling.store, readVersion]
  cases h : P.project files record with
  | ok descriptor =>
    rw [← name_of_project h]
    rfl
  | error error => cases error <;> rfl

theorem name_of_toolRecordToDescriptor {record : PersistedToolRecord}
    {descriptor : ToolDescriptor η}
    (h : P.toolRecordToDescriptor record = .ok (some descriptor)) :
    descriptor.name = record.name := by
  rw [toolRecordToDescriptor, bind_eq_ok] at h
  obtain ⟨handler | handler, -, h⟩ := h
  · cases h
  · rw [← Option.some.inj (Except.ok.inj h)]

theorem hydrateTool_eq {record : PersistedToolRecord} {registry : ToolRegistry η}
    (h : record.name ∉ registry.keys) : P.hydrateTool registry record =
      Filling.store PersistedToolRecord.name P.toolRecordToDescriptor registry record := by
  rw [hydrateTool, if_neg h, Filling.store]
  cases hread : P.toolRecordToDescriptor record with
  | error error => rfl
  | ok found =>
    cases found with
    | none => rfl
    | some descriptor =>
      simp only [bind, Except.bind]
      rw [name_of_toolRecordToDescriptor hread]

/-- No tool is skipped because of its name if the names differ. -/
theorem foldlM_hydrateTool {l : List PersistedToolRecord} {registry : ToolRegistry η}
    (hnodup : (l.map PersistedToolRecord.name).Nodup) (hfresh : ∀ x ∈ l, x.name ∉ registry.keys) :
    l.foldlM P.hydrateTool registry =
      Filling.fill PersistedToolRecord.name P.toolRecordToDescriptor registry l := by
  induction l generalizing registry with
  | nil => rfl
  | cons x l ih =>
    obtain ⟨hnot, hnodup⟩ := List.nodup_cons.mp hnodup
    rw [List.foldlM_cons, Filling.fill_cons, hydrateTool_eq (hfresh x List.mem_cons_self)]
    cases hstore : Filling.store PersistedToolRecord.name P.toolRecordToDescriptor registry x with
    | error error => rfl
    | ok registry' =>
      obtain ⟨found, -, rfl⟩ := Filling.store_eq_ok.mp hstore
      refine ih hnodup fun y hy hmem ↦ ?_
      have hne : y.name ≠ x.name := fun heq ↦ hnot (heq ▸ List.mem_map_of_mem hy)
      cases found with
      | none => exact hfresh y (List.mem_cons_of_mem x hy) hmem
      | some descriptor =>
        rw [Option.elim_some, Dict.mem_keys_set] at hmem
        exact hmem.elim hne (hfresh y (List.mem_cons_of_mem x hy))

/-! ## What is rebuilt -/

variable {tenantId : String} {toolStore : ToolStore} {versionStore : ToolVersionStore}
  {registry r : ToolRegistry η}

theorem hydrateTenantTools_eq :
    P.hydrateTenantTools tenantId toolStore versionStore files Dict.empty =
      (Filling.fill PersistedToolRecord.name P.toolRecordToDescriptor Dict.empty
        (toolStore.listTools tenantId) >>= fun registry ↦
          Filling.fill ToolVersionRecord.toolName (P.readVersion files) registry
            (versionStore.listActive tenantId)) := by
  have hversion : P.hydrateVersion files =
      Filling.store ToolVersionRecord.toolName (P.readVersion files) :=
    funext fun _ ↦ funext fun _ ↦ hydrateVersion_eq _
  rw [hydrateTenantTools, hversion, foldlM_hydrateTool (toolStore.nodup_listTools tenantId)
    fun _ _ ↦ List.not_mem_nil]
  rfl

/-- What is found in the table of tools. -/
theorem plainBinding_of_fill (h : Filling.fill PersistedToolRecord.name P.toolRecordToDescriptor
      Dict.empty (toolStore.listTools tenantId) = .ok registry) (name : String) :
    P.plainBinding tenantId toolStore name = .ok ((registry.get? name).map bindingOf) := by
  rw [plainBinding]
  cases hrow : toolStore.get? (tenantId, name) with
  | none =>
    have hnot : name ∉ (toolStore.listTools tenantId).map PersistedToolRecord.name := by
      rw [List.mem_map]
      rintro ⟨record, hmem, rfl⟩
      obtain ⟨name, row, hrow', rfl⟩ := ToolStore.mem_listTools_iff.mp hmem
      exact nomatch hrow.symm.trans hrow'
    rw [Filling.get?_fill_of_not_mem h hnot]
    rfl
  | some row =>
    have hmem : row.toRecord tenantId name ∈ toolStore.listTools tenantId :=
      ToolStore.mem_listTools_iff.mpr ⟨name, row, hrow, rfl⟩
    obtain ⟨found, hfound⟩ := Filling.fill_eq_ok.mp ⟨registry, h⟩ _ hmem
    have hget := Filling.get?_fill (toolStore.nodup_listTools tenantId) h hmem hfound
    rw [Dict.get?_empty, Option.or_none] at hget
    change registry.get? name = found at hget
    rw [hget]
    exact map_eq_ok.mpr ⟨found, hfound, rfl⟩

/-- What is found in the active versions. -/
theorem activeBinding_of_fill (hone : versionStore.OneActive)
    (h : Filling.fill ToolVersionRecord.toolName (P.readVersion files) registry
      (versionStore.listActive tenantId) = .ok r) (name : String) :
    ∃ active, P.activeBinding tenantId versionStore files name = .ok active ∧
      (r.get? name).map bindingOf = active.or ((registry.get? name).map bindingOf) := by
  rw [activeBinding]
  cases hactive : versionStore.getActive tenantId name with
  | none =>
    have hnot : name ∉ (versionStore.listActive tenantId).map ToolVersionRecord.toolName := by
      rw [List.mem_map]
      rintro ⟨record, hmem, rfl⟩
      obtain ⟨key, row, htenant, hrow, hon, rfl⟩ := ToolVersionStore.mem_listActive_iff.mp hmem
      exact ToolVersionStore.getActive_eq_none_iff.mp hactive key ⟨htenant, rfl⟩ ⟨row, hrow, hon⟩
    rw [Filling.get?_fill_of_not_mem h hnot]
    exact ⟨none, rfl, rfl⟩
  | some record =>
    obtain ⟨key, row, ⟨htenant, rfl⟩, hrow, hon, rfl⟩ := ToolVersionStore.of_getActive hactive
    have hmem : row.toRecord key ∈ versionStore.listActive tenantId :=
      ToolVersionStore.mem_listActive_iff.mpr ⟨key, row, htenant, hrow, hon, rfl⟩
    obtain ⟨found, hfound⟩ := Filling.fill_eq_ok.mp ⟨r, h⟩ _ hmem
    have hget := Filling.get?_fill (hone.nodup_listActive tenantId) h hmem hfound
    change r.get? key.toolName = found.or (registry.get? key.toolName) at hget
    refine ⟨found.map bindingOf, map_eq_ok.mpr ⟨found, hfound, rfl⟩, ?_⟩
    rw [hget]
    cases found <;> rfl

/-- **The registry that is rebuilt.** -/
theorem hydrateTenantTools_iff (hone : versionStore.OneActive)
    {bound : String → Option (ToolBinding η)} :
    (∃ r, P.hydrateTenantTools tenantId toolStore versionStore files Dict.empty = .ok r ∧
        ∀ name, (r.get? name).map bindingOf = bound name) ↔
      ∀ name, ∃ plain active, P.plainBinding tenantId toolStore name = .ok plain ∧
        P.activeBinding tenantId versionStore files name = .ok active ∧
        bound name = active.or plain := by
  rw [hydrateTenantTools_eq]
  constructor
  · rintro ⟨r, hr, hbound⟩ name
    obtain ⟨registry, htools, hversions⟩ := bind_eq_ok.mp hr
    obtain ⟨active, hactive, hget⟩ := activeBinding_of_fill hone hversions name
    exact ⟨_, active, plainBinding_of_fill htools name, hactive, (hbound name).symm.trans hget⟩
  · intro h
    obtain ⟨registry, htools⟩ : ∃ registry, Filling.fill PersistedToolRecord.name
        P.toolRecordToDescriptor Dict.empty (toolStore.listTools tenantId) = .ok registry := by
      refine Filling.fill_eq_ok.mpr fun record hmem ↦ ?_
      obtain ⟨name, row, hrow, rfl⟩ := ToolStore.mem_listTools_iff.mp hmem
      obtain ⟨plain, -, hplain, -⟩ := h name
      rw [plainBinding, hrow] at hplain
      obtain ⟨found, hfound, -⟩ := map_eq_ok.mp hplain
      exact ⟨found, hfound⟩
    obtain ⟨r, hversions⟩ : ∃ r, Filling.fill ToolVersionRecord.toolName (P.readVersion files)
        registry (versionStore.listActive tenantId) = .ok r := by
      refine Filling.fill_eq_ok.mpr fun record hmem ↦ ?_
      obtain ⟨key, row, htenant, hrow, hon, rfl⟩ := ToolVersionStore.mem_listActive_iff.mp hmem
      obtain ⟨-, active, -, hactive, -⟩ := h key.toolName
      rw [activeBinding, hone.getActive_eq_some ⟨htenant, rfl⟩ hrow hon] at hactive
      obtain ⟨found, hfound, -⟩ := map_eq_ok.mp hactive
      exact ⟨found, hfound⟩
    refine ⟨r, bind_eq_ok.mpr ⟨registry, htools, hversions⟩, fun name ↦ ?_⟩
    obtain ⟨plain, active, hplain, hactive, hbound⟩ := h name
    obtain ⟨active', hactive', hget⟩ := activeBinding_of_fill hone hversions name
    obtain rfl : active = active' := Except.ok.inj (hactive.symm.trans hactive')
    rw [hget, hbound, Except.ok.inj ((plainBinding_of_fill htools name).symm.trans hplain)]

end ToolPlatform

end Api
end ExoBrain
