import ExoBrain.Api.ToolHydration
import ExoBrain.Api.Uploads
import ExoBrain.Lib.Run

/-!
# When a restart does not change the tools

The registry of a tenant is kept up to date by the endpoints, and rebuilt from the stores after a
restart.  A name may stand in the table of tools and in that of the versions, and the endpoints do
not always look into both.

* `Transparent` says that a restart would bind every name to what it is bound to.
* `KeepsTransparent` says of a call what it must not do: take a tool out of the registry that is
  still in a store, file a version in the place of the active one without activating it, or write
  into the bundle of an active version.
* `toolStep_agrees_iff` is the step, with one case for each endpoint, and
  `restart_transparent_iff` says it of all runs of successful calls.
* `unregister_leaves_active_version` is a tool that is back after a restart.
-/

set_option autoImplicit false

namespace ExoBrain
namespace Api

open Checks
open Tools

variable {η : Type}

/-! ## Calls -/

/-- A call of a tenant's endpoint for tools. -/
inductive ToolCall
  | register (body : ToolRegisterRequest)
  | upload (body : ToolVersionUploadRequest) (now : String)
  | deactivate (toolName version : String)
  | rollback (toolName targetVersion : String)
  | revoke (toolName version : String) (force : Bool)
  | unregister (name : String)

/-- Whether a call has raised nothing. -/
def outcome {α : Type} (result : Except HttpException α × ToolSystem η) : Bool × ToolSystem η :=
  (result.1.isOk, result.2)

/-- A call: whether it has raised nothing, and the state after it. -/
def toolStep (P : ToolPlatform η) (tenantId : String) (s : ToolSystem η) :
    ToolCall → Bool × ToolSystem η
  | .register body => outcome (P.registerTool tenantId body s)
  | .upload body now => outcome (P.uploadToolPackage none tenantId body now s)
  | .deactivate toolName version => outcome (P.deactivateToolVersion tenantId toolName version s)
  | .rollback toolName targetVersion =>
    outcome (P.rollbackToolVersion tenantId toolName targetVersion s)
  | .revoke toolName version force =>
    outcome (P.revokeToolPackageVersion tenantId toolName version force s)
  | .unregister name => outcome (unregisterTool tenantId name s)

/-- The call is successful. -/
def Succeeds (P : ToolPlatform η) (tenantId : String) (s : ToolSystem η) (call : ToolCall) : Prop :=
  (toolStep P tenantId s call).1 = true

/-! ## Restarts -/

/-- **A restart binds every name to what it is bound to.** -/
def Transparent (P : ToolPlatform η) (tenantId : String) (s : ToolSystem η) : Prop :=
  ∃ r, P.hydrateTenantTools tenantId s.toolStore s.versionStore s.files Dict.empty = .ok r ∧
    ∀ name, (r.get? name).map bindingOf = (s.registry.get? name).map bindingOf

/-- What the stores are like that the endpoints write. -/
structure Settled (tenantId : String) (s : ToolSystem η) : Prop where
  oneActive : s.versionStore.OneActive
  /-- No row of the table of tools has a version. -/
  plain : ∀ name row, s.toolStore.get? (tenantId, name) = some row →
    row.metadata.get? "tool_version" = none

/-- An upload does not change what a name is bound to, but for the name of the tool if the version
is activated. -/
structure UploadKeeps (P : ToolPlatform η) (tenantId : String) (body : ToolVersionUploadRequest)
    (record : ToolVersionRecord) (s : ToolSystem η) : Prop where
  /-- What it writes is not read, or makes no difference, for another active version. -/
  files : ∀ name active, s.versionStore.getActive tenantId name = some active →
    active.key ≠ body.key tenantId →
    (P.Activates none body (P.uploadedFiles none tenantId body s.files) record →
      name ≠ body.manifest.toolName) →
    P.versionBinding (P.uploadedFiles none tenantId body s.files) active =
      P.versionBinding s.files active
  /-- It is not filed without being activated in place of an active version that is loaded. -/
  replaced : ¬P.Activates none body (P.uploadedFiles none tenantId body s.files) record →
    ∀ active, s.versionStore.getActive tenantId body.manifest.toolName = some active →
      active.key = body.key tenantId → P.versionBinding s.files active = .ok none

/-- What a call must not do. -/
def KeepsTransparent (P : ToolPlatform η) (tenantId : String) (s : ToolSystem η) : ToolCall → Prop
  | .register _ => True
  | .upload body now => ∀ record, P.filedRecord none tenantId body now = .ok record →
      UploadKeeps P tenantId body record s
  | .deactivate toolName _ => P.plainBinding tenantId s.toolStore toolName = .ok none
  | .rollback _ _ => True
  | .revoke toolName version _ =>
      (∀ active, s.versionStore.getActive tenantId toolName = some active →
        active.version = version) →
      P.plainBinding tenantId s.toolStore toolName = .ok none
  | .unregister name => P.activeBinding tenantId s.versionStore s.files name = .ok none

/-! ## Names -/

variable {P : ToolPlatform η} {tenantId name : String} {s t t' : ToolSystem η}

/-- A name is bound to what a restart would bind it to. -/
def Bound (P : ToolPlatform η) (tenantId : String) (s : ToolSystem η) (name : String) : Prop :=
  ∃ plain active, P.plainBinding tenantId s.toolStore name = .ok plain ∧
    P.activeBinding tenantId s.versionStore s.files name = .ok active ∧
    (s.registry.get? name).map bindingOf = active.or plain

theorem transparent_iff (h : s.versionStore.OneActive) :
    Transparent P tenantId s ↔ ∀ name, Bound P tenantId s name :=
  ToolPlatform.hydrateTenantTools_iff h

/-- A name is bound alike in states that agree on it. -/
theorem bound_congr (htools : t.toolStore.get? (tenantId, name) = s.toolStore.get? (tenantId, name))
    (hactive : P.activeBinding tenantId t.versionStore t.files name =
      P.activeBinding tenantId s.versionStore s.files name)
    (hregistry : t.registry.get? name = s.registry.get? name) :
    Bound P tenantId t name ↔ Bound P tenantId s name := by
  rw [Bound, Bound, hactive, hregistry, ToolPlatform.plainBinding, ToolPlatform.plainBinding, htools]

theorem version_of_versionBinding {files : Files} {record : ToolVersionRecord}
    {binding : ToolBinding η} (h : P.versionBinding files record = .ok (some binding)) :
    binding.version = some (.str record.version) := by
  obtain ⟨_ | descriptor, hread, hbinding⟩ := map_eq_ok.mp h
  · cases hbinding
  · obtain rfl := Option.some.inj hbinding
    rw [ToolPlatform.readVersion] at hread
    split at hread
    · rename_i found hproject
      obtain rfl := Option.some.inj (Except.ok.inj hread)
      simp only [ToolPlatform.project, descriptorFromToolVersion, bind_eq_ok, pure, Except.pure,
        Except.ok.injEq] at hproject
      obtain ⟨_, _, ⟨handler, handlerRef, metadata⟩, _, rfl⟩ := hproject
      simp only [bindingOf, Dict.get?_set]
      rfl
    · cases hread
    · cases hread

theorem version_of_plainBinding (h : Settled tenantId s) {binding : ToolBinding η}
    (hplain : P.plainBinding tenantId s.toolStore name = .ok (some binding)) :
    binding.version = none := by
  rw [ToolPlatform.plainBinding] at hplain
  split at hplain
  · cases hplain
  · rename_i row hrow
    obtain ⟨_ | descriptor, hread, hbinding⟩ := map_eq_ok.mp hplain
    · cases hbinding
    · obtain rfl := Option.some.inj hbinding
      rw [ToolPlatform.toolRecordToDescriptor, bind_eq_ok] at hread
      obtain ⟨_ | handler, -, hread⟩ := hread
      · cases hread
      · rw [← Option.some.inj (Except.ok.inj hread)]
        exact h.plain name row hrow

theorem version_of_activeBinding {versionStore : ToolVersionStore} {files : Files}
    {binding : ToolBinding η}
    (h : P.activeBinding tenantId versionStore files name = .ok (some binding)) :
    binding.version ≠ none := by
  rw [ToolPlatform.activeBinding] at h
  split at h
  · cases h
  · rw [version_of_versionBinding h]
    exact Option.some_ne_none _

theorem plainBinding_congr {toolStore toolStore' : ToolStore}
    (h : toolStore'.get? (tenantId, name) = toolStore.get? (tenantId, name)) :
    P.plainBinding tenantId toolStore' name = P.plainBinding tenantId toolStore name := by
  rw [ToolPlatform.plainBinding, ToolPlatform.plainBinding, h]

/-- **A name whose tool and registry entry stay** is bound right exactly if its active version is
what it was. -/
theorem bound_iff_of_registry_eq (h : Settled tenantId s) (hbound : Bound P tenantId s name)
    (htools : t.toolStore.get? (tenantId, name) = s.toolStore.get? (tenantId, name))
    (hregistry : t.registry.get? name = s.registry.get? name) :
    Bound P tenantId t name ↔ P.activeBinding tenantId t.versionStore t.files name =
      P.activeBinding tenantId s.versionStore s.files name := by
  obtain ⟨plain, active, hplain, hactive, heq⟩ := hbound
  rw [hactive]
  constructor
  · rintro ⟨plain', active', hplain', hactive', heq'⟩
    rw [plainBinding_congr htools, hplain] at hplain'
    obtain rfl := Except.ok.inj hplain'
    rw [hregistry, heq] at heq'
    rw [hactive']
    -- A version has a number and a tool in the table has none, so neither stands for the other.
    cases active with
    | none =>
      cases active' with
      | none => rfl
      | some binding' =>
        obtain rfl : plain = some binding' := heq'
        exact absurd (version_of_plainBinding h hplain) (version_of_activeBinding hactive')
    | some binding =>
      cases active' with
      | none =>
        obtain rfl : some binding = plain := heq'
        exact absurd (version_of_plainBinding h hplain) (version_of_activeBinding hactive)
      | some binding' => exact congrArg Except.ok heq'.symm
  · intro hsame
    exact ⟨plain, active, (plainBinding_congr htools).trans hplain, hsame, by rw [hregistry, heq]⟩

/-! ## Projecting the active version -/

/-- **The name that is synchronised** is bound to its active version, or to nothing. -/
theorem syncActiveToolDescriptor_spec
    (h : P.syncActiveToolDescriptor tenantId name t = (.ok (), t')) :
    ∃ registry, t' = { t with registry := registry } ∧
      (∀ other, other ≠ name → registry.get? other = t.registry.get? other) ∧
      ((t.versionStore.getActive tenantId name = none ∧ registry.get? name = none) ∨
        ∃ active descriptor, t.versionStore.getActive tenantId name = some active ∧
          P.project t.files active = .ok descriptor ∧ registry.get? name = some descriptor) := by
  rw [ToolPlatform.syncActiveToolDescriptor] at h
  split at h
  · rename_i hnone
    refine ⟨_, (Prod.mk.inj h).2.symm, fun other hne ↦ ?_, .inl ⟨hnone, ?_⟩⟩
    · rw [Dict.get?_erase, if_neg hne]
    · rw [Dict.get?_erase, if_pos rfl]
  · rename_i active hactive
    split at h
    · cases h
    · rename_i descriptor hproject
      have hname : descriptor.name = name := by
        obtain ⟨key, row, ⟨-, rfl⟩, -, -, rfl⟩ := ToolVersionStore.of_getActive hactive
        exact ToolPlatform.name_of_project hproject
      refine ⟨_, (Prod.mk.inj h).2.symm, fun other hne ↦ ?_, .inr ⟨active, descriptor, hactive,
        hproject, ?_⟩⟩
      · rw [hname, Dict.get?_set, if_neg hne]
      · rw [hname, Dict.get?_set, if_pos rfl]

/-- After that, all names are bound right exactly if the others were, and the name does not stand
in the table of tools when no version is active. -/
theorem agrees_sync_iff (hplain : ∃ plain, P.plainBinding tenantId t.toolStore name = .ok plain)
    (h : P.syncActiveToolDescriptor tenantId name t = (.ok (), t')) :
    (∀ other, Bound P tenantId t' other) ↔
      (∀ other, other ≠ name → Bound P tenantId t other) ∧
        (t.versionStore.getActive tenantId name = none →
          P.plainBinding tenantId t.toolStore name = .ok none) := by
  obtain ⟨plain, hplain⟩ := hplain
  obtain ⟨registry, rfl, hothers, hname⟩ := syncActiveToolDescriptor_spec h
  have hother {other : String} (hne : other ≠ name) :
      Bound P tenantId { t with registry := registry } other ↔ Bound P tenantId t other :=
    bound_congr rfl rfl (hothers other hne)
  have hself : Bound P tenantId { t with registry := registry } name ↔
      (t.versionStore.getActive tenantId name = none →
        P.plainBinding tenantId t.toolStore name = .ok none) := by
    rcases hname with ⟨hnone, hget⟩ | ⟨active, descriptor, hactive, hproject, hget⟩
    · rw [Bound, ToolPlatform.activeBinding, hnone, hget, hplain]
      constructor
      · rintro ⟨plain', _, hplain', hactive', heq⟩ -
        obtain rfl := Except.ok.inj hactive'
        rw [hplain']
        exact congrArg Except.ok heq.symm
      · intro himp
        exact ⟨none, none, himp rfl, rfl, rfl⟩
    · refine iff_of_true ⟨plain, some (bindingOf descriptor), hplain, ?_, by rw [hget]; rfl⟩
        fun hnone ↦ absurd (hactive.symm.trans hnone) (Option.some_ne_none active)
      rw [ToolPlatform.activeBinding, hactive]
      refine map_eq_ok.mpr ⟨some descriptor, ?_, rfl⟩
      rw [ToolPlatform.readVersion, hproject]
  constructor
  · intro hall
    exact ⟨fun other hne ↦ (hother hne).mp (hall other), hself.mp (hall name)⟩
  · rintro ⟨hbound, himp⟩ other
    by_cases hne : other = name
    · subst hne
      exact hself.mpr himp
    · exact (hother hne).mpr (hbound other hne)

/-- A call has written versions of a tool, and has then synchronised the tool. -/
structure Synchronised (P : ToolPlatform η) (tenantId name : String) (s : ToolSystem η)
    (versionStore : ToolVersionStore) (t' : ToolSystem η) : Prop where
  oneActive : versionStore.OneActive
  others : ∀ key, key.toolName ≠ name → versionStore.get? key = s.versionStore.get? key
  sync : P.syncActiveToolDescriptor tenantId name { s with versionStore := versionStore } =
    (.ok (), t')

theorem Synchronised.settled {versionStore : ToolVersionStore}
    (h : Synchronised P tenantId name s versionStore t') (hsettled : Settled tenantId s) :
    Settled tenantId t' := by
  obtain ⟨registry, rfl, -⟩ := syncActiveToolDescriptor_spec h.sync
  exact ⟨h.oneActive, hsettled.plain⟩

/-- The versions of the other tools are bound right if they were. -/
theorem Synchronised.agrees_iff {versionStore : ToolVersionStore}
    (h : Synchronised P tenantId name s versionStore t')
    (hagrees : ∀ other, Bound P tenantId s other) :
    (∀ other, Bound P tenantId t' other) ↔
      (versionStore.getActive tenantId name = none →
        P.plainBinding tenantId s.toolStore name = .ok none) := by
  obtain ⟨plain, -, hplain, -, -⟩ := hagrees name
  rw [agrees_sync_iff (t := { s with versionStore := versionStore }) ⟨plain, hplain⟩ h.sync]
  refine and_iff_right fun other hne ↦ ?_
  have hsame : versionStore.getActive tenantId other = s.versionStore.getActive tenantId other :=
    ToolVersionStore.getActive_congr h.oneActive fun key hof ↦ h.others key (hof.2 ▸ hne)
  have hcongr : Bound P tenantId { s with versionStore := versionStore } other ↔
      Bound P tenantId s other :=
    bound_congr rfl (by rw [ToolPlatform.activeBinding, ToolPlatform.activeBinding, hsame]) rfl
  exact hcongr.mpr (hagrees other)

/-! ## The endpoints -/

theorem get?_clearActive_of_ne {versionStore : ToolVersionStore} {key : BundleKey}
    (h : key.toolName ≠ name) :
    (versionStore.clearActive tenantId name).get? key = versionStore.get? key := by
  have hnot : ¬ToolVersionStore.IsOf tenantId name key := fun hof ↦ h hof.2
  rw [ToolVersionStore.get?_clearActive]
  simp only [if_neg hnot, Option.map_id']

theorem get?_setActive_of_ne {versionStore : ToolVersionStore} {key : BundleKey} {version : String}
    (h : key.toolName ≠ name) :
    (versionStore.setActive tenantId name version).get? key = versionStore.get? key := by
  have hnot : ¬ToolVersionStore.IsOf tenantId name key := fun hof ↦ h hof.2
  rw [ToolVersionStore.get?_setActive]
  simp only [if_neg hnot, Option.map_id']

theorem oneActive_clearActive (h : s.versionStore.OneActive) :
    (s.versionStore.clearActive tenantId name).OneActive :=
  h.mono fun _ hkey ↦ (ToolVersionStore.isActive_clearActive.mp hkey).1

theorem registerTool_eq_ok {body : ToolRegisterRequest}
    (h : (P.registerTool tenantId body s).1.isOk = true) :
    ∃ handler, body.name ∉ s.registry.keys ∧ P.host.resolveHandler body.handlerRef = .ok handler ∧
      (P.registerTool tenantId body s).2 = { s with
        registry := s.registry.set body.name (ToolPlatform.registeredDescriptor body handler)
        toolStore := s.toolStore.set (tenantId, body.name)
          (P.registeredRecord tenantId body.handlerRef
            (ToolPlatform.registeredDescriptor body handler)).row } := by
  rw [ToolPlatform.registerTool] at h ⊢
  split at h
  · cases h
  · rename_i hfresh
    rw [if_neg hfresh]
    cases hhandler : P.host.resolveHandler body.handlerRef with
    | error error =>
      rw [hhandler] at h
      cases h
    | ok handler => exact ⟨handler, hfresh, rfl, rfl⟩

/-- What the endpoint resolves is resolved again at startup. -/
theorem resolveHandlerRef_of_resolveHandler {handlerRef : String} {handler : η}
    (h : P.host.resolveHandler handlerRef = .ok handler) :
    P.resolveHandlerRef handlerRef = .ok (some handler) := by
  simp only [ToolHost.resolveHandler, bind_eq_ok, require_eq_ok, mapError_eq_ok] at h
  obtain ⟨⟨modulePath, funcName⟩, hsplit, names, hnames, hhandler⟩ := h
  rw [ToolPlatform.resolveHandlerRef, hsplit]
  dsimp only at hnames hhandler ⊢
  rw [hnames]
  rw [handlerNamed] at hhandler
  split at hhandler
  · cases hhandler
  · cases hhandler
  · rename_i found hfound
    obtain rfl := Except.ok.inj hhandler
    exact congrArg (fun o ↦ Except.ok (Option.join o)) hfound

theorem registerTool_agrees {body : ToolRegisterRequest}
    (hagrees : ∀ other, Bound P tenantId s other)
    (h : (P.registerTool tenantId body s).1.isOk = true) (other : String) :
    Bound P tenantId (P.registerTool tenantId body s).2 other := by
  obtain ⟨handler, hfresh, hhandler, hstate⟩ := registerTool_eq_ok h
  rw [hstate]
  by_cases hne : other = body.name
  · subst hne
    obtain ⟨plain, active, -, hactive, heq⟩ := hagrees body.name
    -- The name was free, so no active version is loaded under it.
    rw [Dict.get?_eq_none_iff.mpr hfresh] at heq
    obtain ⟨rfl, -⟩ := Option.or_eq_none_iff.mp heq.symm
    refine ⟨some (bindingOf (ToolPlatform.registeredDescriptor body handler)), none, ?_, hactive, ?_⟩
    · rw [ToolPlatform.plainBinding, Dict.get?_set, if_pos rfl]
      obtain ⟨descriptor, hread, hbinding⟩ : ∃ descriptor,
          P.toolRecordToDescriptor ((P.registeredRecord tenantId body.handlerRef
            (ToolPlatform.registeredDescriptor body handler)).row.toRecord tenantId body.name) =
              .ok (some descriptor) ∧
            bindingOf descriptor = bindingOf (ToolPlatform.registeredDescriptor body handler) :=
        ⟨_, bind_eq_ok.mpr ⟨some handler, resolveHandlerRef_of_resolveHandler hhandler, rfl⟩, rfl⟩
      exact map_eq_ok.mpr ⟨some descriptor, hread, congrArg some hbinding⟩
    · rw [Dict.get?_set, if_pos rfl]
      rfl
  · obtain ⟨plain, active, hplain, hactive, heq⟩ := hagrees other
    refine ⟨plain, active, ?_, hactive, ?_⟩
    · rw [ToolPlatform.plainBinding, Dict.get?_set, if_neg fun heq ↦ hne (Prod.mk.inj heq).2]
      exact hplain
    · rw [Dict.get?_set, if_neg hne]
      exact heq

theorem deactivateToolVersion_of_isOk {version : String} (hsettled : Settled tenantId s)
    (h : (P.deactivateToolVersion tenantId name version s).1.isOk = true) :
    Synchronised P tenantId name s (s.versionStore.clearActive tenantId name)
      (P.deactivateToolVersion tenantId name version s).2 := by
  refine ⟨oneActive_clearActive hsettled.oneActive, fun key hne ↦ get?_clearActive_of_ne hne, ?_⟩
  rw [ToolPlatform.deactivateToolVersion] at h ⊢
  cases hactive : s.versionStore.getActive tenantId name with
  | none =>
    rw [hactive] at h
    cases h
  | some active =>
    rw [hactive] at h
    dsimp only at h ⊢
    split at h
    · cases h
    · rename_i hversion
      rw [if_neg hversion]
      rcases hsync : P.syncActiveToolDescriptor tenantId name
        { s with versionStore := s.versionStore.clearActive tenantId name } with ⟨_ | ⟨⟩, t'⟩
      · rw [hsync] at h
        cases h
      · rfl

theorem rollbackToolVersion_of_isOk {targetVersion : String} (hsettled : Settled tenantId s)
    (h : (P.rollbackToolVersion tenantId name targetVersion s).1.isOk = true) :
    ⟨tenantId, name, targetVersion⟩ ∈ s.versionStore.keys ∧
      Synchronised P tenantId name s (s.versionStore.setActive tenantId name targetVersion)
        (P.rollbackToolVersion tenantId name targetVersion s).2 := by
  rw [ToolPlatform.rollbackToolVersion] at h ⊢
  cases htarget : s.versionStore.getVersion tenantId name targetVersion with
  | none =>
    rw [htarget] at h
    cases h
  | some target =>
    rw [htarget] at h
    obtain ⟨row, hrow, -⟩ := Option.map_eq_some_iff.mp htarget
    refine ⟨Dict.mem_keys_iff.mpr ⟨row, hrow⟩, hsettled.oneActive.setActive,
      fun key hne ↦ get?_setActive_of_ne hne, ?_⟩
    dsimp only at h ⊢
    split at h
    · cases h
    · rename_i hvalid
      rw [if_neg hvalid]
      cases hproject : P.project s.files target with
      | error error =>
        rw [hproject] at h
        cases h
      | ok descriptor =>
        rw [hproject] at h
        dsimp only at h ⊢
        rcases hsync : P.syncActiveToolDescriptor tenantId name
          { s with versionStore := s.versionStore.setActive tenantId name targetVersion } with
            ⟨_ | ⟨⟩, t'⟩
        · rw [hsync] at h
          cases h
        · rfl

/-- What is active after a version was revoked. -/
theorem isActive_revoked {version : String} (hone : s.versionStore.OneActive)
    {record : ToolVersionRecord}
    (hrecord : s.versionStore.getVersion tenantId name version = some record) (force : Bool)
    (key : BundleKey) :
    ((if record.active = true ∧ force = true then s.versionStore.clearActive tenantId name
        else s.versionStore).delete tenantId name version).IsActive key ↔
      key ≠ ⟨tenantId, name, version⟩ ∧ s.versionStore.IsActive key := by
  rw [ToolVersionStore.isActive_delete]
  refine and_congr_right fun hne ↦ ?_
  split
  · rename_i hforced
    rw [ToolVersionStore.isActive_clearActive]
    refine and_iff_left_of_imp fun hkey hof ↦ hne ?_
    -- The version that is revoked is the active one.
    obtain ⟨row, hrow, rfl⟩ := Option.map_eq_some_iff.mp hrecord
    exact hone key _ hkey ⟨row, hrow, hforced.1⟩ hof.1 hof.2
  · rfl

theorem revokeToolPackageVersion_of_isOk {version : String} {force : Bool}
    (hsettled : Settled tenantId s)
    (h : (P.revokeToolPackageVersion tenantId name version force s).1.isOk = true) :
    ∃ versionStore : ToolVersionStore,
      (∀ key, versionStore.IsActive key ↔
        key ≠ ⟨tenantId, name, version⟩ ∧ s.versionStore.IsActive key) ∧
      Synchronised P tenantId name s versionStore
        (P.revokeToolPackageVersion tenantId name version force s).2 := by
  rw [ToolPlatform.revokeToolPackageVersion] at h ⊢
  cases hrecord : s.versionStore.getVersion tenantId name version with
  | none =>
    rw [hrecord] at h
    cases h
  | some record =>
    rw [hrecord] at h
    have hactive := isActive_revoked hsettled.oneActive hrecord force
    refine ⟨_, hactive, hsettled.oneActive.mono fun key hkey ↦ ((hactive key).mp hkey).2,
      fun key hne ↦ ?_, ?_⟩
    · have hother : key ≠ ⟨tenantId, name, version⟩ := fun heq ↦ hne (congrArg BundleKey.toolName heq)
      rw [ToolVersionStore.delete, Dict.get?_erase, if_neg hother]
      split
      · exact get?_clearActive_of_ne hne
      · rfl
    · dsimp only at h ⊢
      split at h
      · cases h
      · rename_i hfree
        rw [if_neg hfree]
        split at h
        · cases h
        · rename_i t' hsync
          rw [hsync]

/-- No version stays active exactly if none but the one that is revoked was. -/
theorem getActive_revoked_iff {version : String} {versionStore : ToolVersionStore}
    (hone : s.versionStore.OneActive) (hactive : ∀ key, versionStore.IsActive key ↔
      key ≠ ⟨tenantId, name, version⟩ ∧ s.versionStore.IsActive key) :
    versionStore.getActive tenantId name = none ↔
      ∀ active, s.versionStore.getActive tenantId name = some active →
        active.version = version := by
  rw [ToolVersionStore.getActive_eq_none_iff]
  constructor
  · rintro hnone active hfound
    obtain ⟨⟨_, _, activeVersion⟩, row, ⟨rfl, rfl⟩, hrow, hon, rfl⟩ :=
      ToolVersionStore.of_getActive hfound
    by_contra hne
    refine hnone _ ⟨rfl, rfl⟩ ((hactive _).mpr ⟨fun heq ↦ hne ?_, row, hrow, hon⟩)
    exact congrArg BundleKey.version heq
  · rintro hsame ⟨_, _, keyVersion⟩ ⟨rfl, rfl⟩ hkey
    obtain ⟨hne, row, hrow, hon⟩ := (hactive _).mp hkey
    obtain rfl : keyVersion = version :=
      hsame _ (hone.getActive_eq_some ⟨rfl, rfl⟩ hrow hon)
    exact hne rfl

theorem unregisterTool_eq_ok (h : (unregisterTool tenantId name s).1.isOk = true) :
    (unregisterTool tenantId name s).2 = { s with
      registry := s.registry.erase name
      toolStore := s.toolStore.erase (tenantId, name) } := by
  rw [unregisterTool] at h ⊢
  split at h
  · cases h
  · rename_i hfound
    rw [if_neg hfound]
    rfl

theorem unregisterTool_agrees_iff (hagrees : ∀ other, Bound P tenantId s other)
    (h : (unregisterTool tenantId name s).1.isOk = true) :
    (∀ other, Bound P tenantId (unregisterTool tenantId name s).2 other) ↔
      P.activeBinding tenantId s.versionStore s.files name = .ok none := by
  rw [unregisterTool_eq_ok h]
  constructor
  · intro hall
    obtain ⟨plain, active, -, hactive, heq⟩ := hall name
    rw [Dict.get?_erase, if_pos rfl] at heq
    obtain ⟨rfl, -⟩ := Option.or_eq_none_iff.mp heq.symm
    exact hactive
  · intro hnone other
    by_cases hne : other = name
    · subst hne
      refine ⟨none, none, ?_, hnone, ?_⟩
      · rw [ToolPlatform.plainBinding, Dict.get?_erase, if_pos rfl]
      · rw [Dict.get?_erase, if_pos rfl]
        rfl
    · obtain ⟨plain, active, hplain, hactive, heq⟩ := hagrees other
      refine ⟨plain, active, ?_, hactive, ?_⟩
      · rw [ToolPlatform.plainBinding, Dict.get?_erase, if_neg fun heq ↦ hne (Prod.mk.inj heq).2]
        exact hplain
      · rw [Dict.get?_erase, if_neg hne]
        exact heq

/-! ## Uploads -/

section Uploads

variable {body : ToolVersionUploadRequest} {now : String} {record : ToolVersionRecord}

/-- The versions after an upload that activates its version. -/
def activatedVersions (tenantId : String) (body : ToolVersionUploadRequest)
    (record : ToolVersionRecord) (s : ToolSystem η) : ToolVersionStore :=
  (s.versionStore.save record).setActive tenantId body.manifest.toolName body.manifest.version

/-- The state after that, before the tool is synchronised. -/
def activatedState (P : ToolPlatform η) (tenantId : String) (body : ToolVersionUploadRequest)
    (record : ToolVersionRecord) (s : ToolSystem η) : ToolSystem η :=
  { s with
    files := P.uploadedFiles none tenantId body s.files
    versionStore := activatedVersions tenantId body record s }

theorem activateUpload_of_isOk (hwanted : body.activate = true)
    (h : (P.activateUpload none record s).1.isOk = true) :
    if P.Activates none body s.files record then
      P.syncActiveToolDescriptor record.tenantId record.toolName { s with
        versionStore := s.versionStore.setActive record.tenantId record.toolName record.version } =
          (.ok (), (P.activateUpload none record s).2)
    else (P.activateUpload none record s).2 = s := by
  rw [ToolPlatform.activateUpload] at h ⊢
  by_cases hinvalid : record.validation.map ToolValidationResult.state = some .invalid
  · rw [if_pos hinvalid, if_neg fun hactivates ↦ hactivates.not_invalid hinvalid]
  · rw [if_neg hinvalid] at h ⊢
    cases hproject : P.project s.files record with
    | error error =>
      rw [hproject] at h
      cases h
    | ok descriptor =>
      rw [hproject] at h
      rw [if_pos ⟨hwanted, hinvalid, by rw [hproject]; rfl, nofun, nofun⟩]
      dsimp only [reduceCtorEq] at h ⊢
      rw [if_neg nofun] at h ⊢
      rw [ToolPlatform.finishActivation] at h ⊢
      · rcases hsync : P.syncActiveToolDescriptor record.tenantId record.toolName { s with
          versionStore := s.versionStore.setActive record.tenantId record.toolName record.version }
          with ⟨_ | ⟨⟩, t'⟩
        · rw [hsync] at h
          cases h
        · dsimp only
          rw [if_neg nofun]
          split <;> rfl
      all_goals nofun

/-- **An upload that is successful** has filed its record, and has perhaps activated it. -/
theorem uploadToolPackage_of_isOk
    (h : (P.uploadToolPackage none tenantId body now s).1.isOk = true) :
    ∃ record, P.filedRecord none tenantId body now = .ok record ∧
      if P.Activates none body (P.uploadedFiles none tenantId body s.files) record then
        P.syncActiveToolDescriptor tenantId body.manifest.toolName
            (activatedState P tenantId body record s) =
          (.ok (), (P.uploadToolPackage none tenantId body now s).2)
      else (P.uploadToolPackage none tenantId body now s).2 =
        P.filedState none tenantId body record s := by
  have hcases : _ ∨ ∃ record, P.filedRecord none tenantId body now = .ok record ∧ _ :=
    ToolPlatform.uploadToolPackage_eq (s := s)
  rcases hcases with ⟨error, heq, -⟩ | ⟨record, hfiled, heq⟩
  · rw [heq] at h
    cases h
  · refine ⟨record, hfiled, ?_⟩
    rw [if_neg nofun] at heq
    by_cases hwanted : body.activate = true
    · rw [if_pos hwanted] at heq
      rw [heq] at h ⊢
      have hactivated := activateUpload_of_isOk hwanted h
      obtain ⟨htenant, htool, hversion⟩ :=
        BundleKey.mk.inj (ToolPlatform.filedRecord_spec hfiled).1
      rw [htenant, htool, hversion] at hactivated
      exact hactivated
    · rw [if_neg hwanted] at heq
      rw [heq, if_neg fun hactivates ↦ hwanted hactivates.wanted]

/-- What the versions of an upload are, for the other tools and for the names they are active
under. -/
theorem activatedVersions_spec (hone : s.versionStore.OneActive)
    (hfiled : P.filedRecord none tenantId body now = .ok record) :
    (activatedVersions tenantId body record s).OneActive ∧
      (∀ key, key.toolName ≠ body.manifest.toolName →
        (activatedVersions tenantId body record s).get? key = s.versionStore.get? key) ∧
      (activatedVersions tenantId body record s).getActive tenantId body.manifest.toolName ≠
        none := by
  obtain ⟨hkey, hinactive⟩ := ToolPlatform.filedRecord_spec hfiled
  refine ⟨(hone.save hinactive).setActive, fun key hne ↦ ?_, fun hnone ↦ ?_⟩
  · have hother : key ≠ record.key := by
      rw [hkey]
      exact fun heq ↦ hne (congrArg BundleKey.toolName heq)
    rw [activatedVersions, get?_setActive_of_ne hne, ToolVersionStore.save, Dict.get?_set,
      if_neg hother]
  · have hof : ToolVersionStore.IsOf tenantId body.manifest.toolName (body.key tenantId) :=
      ⟨rfl, rfl⟩
    refine ToolVersionStore.getActive_eq_none_iff.mp hnone _ hof ?_
    rw [activatedVersions, ToolVersionStore.isActive_setActive, if_pos hof]
    exact ⟨rfl, Dict.mem_keys_set.mpr (.inl hkey.symm)⟩

theorem uploadToolPackage_settled (hsettled : Settled tenantId s)
    (h : (P.uploadToolPackage none tenantId body now s).1.isOk = true) :
    Settled tenantId (P.uploadToolPackage none tenantId body now s).2 := by
  obtain ⟨record, hfiled, hstate⟩ := uploadToolPackage_of_isOk h
  split at hstate
  · obtain ⟨registry, heq, -⟩ := syncActiveToolDescriptor_spec hstate
    rw [heq]
    exact ⟨(activatedVersions_spec hsettled.oneActive hfiled).1, hsettled.plain⟩
  · rw [hstate]
    exact ⟨hsettled.oneActive.save (ToolPlatform.filedRecord_spec hfiled).2, hsettled.plain⟩

/-- A version that is only filed takes no name away, and writes nothing that is loaded. -/
theorem filedState_agrees_iff (hsettled : Settled tenantId s)
    (hagrees : ∀ other, Bound P tenantId s other)
    (hfiled : P.filedRecord none tenantId body now = .ok record)
    (hnot : ¬P.Activates none body (P.uploadedFiles none tenantId body s.files) record) :
    (∀ other, Bound P tenantId (P.filedState none tenantId body record s) other) ↔
      UploadKeeps P tenantId body record s := by
  obtain ⟨hkey, hinactive⟩ := ToolPlatform.filedRecord_spec hfiled
  have hbound (other : String) : Bound P tenantId (P.filedState none tenantId body record s) other ↔
      ∀ active, s.versionStore.getActive tenantId other = some active →
        (if active.key = body.key tenantId then Except.ok none
          else P.versionBinding (P.uploadedFiles none tenantId body s.files) active) =
            P.versionBinding s.files active := by
    rw [bound_iff_of_registry_eq (t := P.filedState none tenantId body record s) hsettled
      (hagrees other) rfl rfl]
    have hactive : (s.versionStore.save record).getActive tenantId other =
        (s.versionStore.getActive tenantId other).filter fun active ↦ active.key ≠ record.key :=
      hsettled.oneActive.getActive_save hinactive
    rw [ToolPlatform.activeBinding, ToolPlatform.activeBinding, ToolPlatform.filedState, hactive,
      hkey]
    cases hfound : s.versionStore.getActive tenantId other with
    | none =>
      refine iff_of_true rfl fun active hactive' ↦ ?_
      cases hactive'
    | some active =>
      rw [Option.filter_some]
      simp only [Option.some.injEq, forall_eq']
      by_cases hsame : active.key = body.key tenantId
      · rw [if_neg (by simp [hsame]), if_pos hsame]
      · rw [if_pos (by simp [hsame]), if_neg hsame]
  constructor
  · intro hall
    constructor
    · intro name active hactive hne _
      have hsame := (hbound name).mp (hall name) active hactive
      rwa [if_neg hne] at hsame
    · intro _ active hactive heq
      have hsame := (hbound body.manifest.toolName).mp (hall _) active hactive
      rw [if_pos heq] at hsame
      exact hsame.symm
  · intro hkeeps other
    refine (hbound other).mpr fun active hactive ↦ ?_
    by_cases hsame : active.key = body.key tenantId
    · obtain ⟨key, row, ⟨-, rfl⟩, -, -, rfl⟩ := ToolVersionStore.of_getActive hactive
      obtain rfl : key = body.key tenantId := hsame
      rw [if_pos (ToolVersionRow.key_toRecord _ _)]
      exact (hkeeps.replaced hnot _ hactive rfl).symm
    · rw [if_neg hsame]
      exact hkeeps.files other active hactive hsame fun hactivates ↦ absurd hactivates hnot

/-- A version that is activated gets its name. -/
theorem activated_agrees_iff (hsettled : Settled tenantId s)
    (hagrees : ∀ other, Bound P tenantId s other)
    (hfiled : P.filedRecord none tenantId body now = .ok record)
    (hactivates : P.Activates none body (P.uploadedFiles none tenantId body s.files) record)
    (hsync : P.syncActiveToolDescriptor tenantId body.manifest.toolName
      (activatedState P tenantId body record s) = (.ok (), t')) :
    (∀ other, Bound P tenantId t' other) ↔ UploadKeeps P tenantId body record s := by
  obtain ⟨hone, hothers, hsome⟩ := activatedVersions_spec hsettled.oneActive hfiled
  obtain ⟨plain, -, hplain, -, -⟩ := hagrees body.manifest.toolName
  refine (agrees_sync_iff (t := activatedState P tenantId body record s) ⟨plain, hplain⟩ hsync).trans
    ((and_iff_left fun hnone ↦ absurd hnone hsome).trans ?_)
  have hbound (other : String) (hne : other ≠ body.manifest.toolName) :
      Bound P tenantId (activatedState P tenantId body record s) other ↔
        ∀ active, s.versionStore.getActive tenantId other = some active →
          P.versionBinding (P.uploadedFiles none tenantId body s.files) active =
            P.versionBinding s.files active := by
    have hactive : (activatedVersions tenantId body record s).getActive tenantId other =
        s.versionStore.getActive tenantId other :=
      ToolVersionStore.getActive_congr hone fun key hof ↦ hothers key (hof.2 ▸ hne)
    rw [bound_iff_of_registry_eq (t := activatedState P tenantId body record s) hsettled
      (hagrees other) rfl rfl, ToolPlatform.activeBinding, ToolPlatform.activeBinding,
      activatedState, hactive]
    cases hfound : s.versionStore.getActive tenantId other with
    | none =>
      refine iff_of_true rfl fun active hactive' ↦ ?_
      cases hactive'
    | some active =>
      constructor
      · rintro hsame active' hactive'
        obtain rfl := Option.some.inj hactive'
        exact hsame
      · exact fun hall ↦ hall active rfl
  constructor
  · intro hall
    refine ⟨fun name active hactive _ hne ↦ ?_, fun hnot ↦ absurd hactivates hnot⟩
    exact (hbound name (hne hactivates)).mp (hall name (hne hactivates)) active hactive
  · intro hkeeps other hne
    refine (hbound other hne).mpr fun active hactive ↦ ?_
    refine hkeeps.files other active hactive (fun heq ↦ hne ?_) fun _ ↦ hne
    obtain ⟨key, row, ⟨-, rfl⟩, -, -, rfl⟩ := ToolVersionStore.of_getActive hactive
    exact congrArg BundleKey.toolName heq

theorem uploadToolPackage_agrees_iff (hsettled : Settled tenantId s)
    (hagrees : ∀ other, Bound P tenantId s other)
    (h : (P.uploadToolPackage none tenantId body now s).1.isOk = true) :
    (∀ other, Bound P tenantId (P.uploadToolPackage none tenantId body now s).2 other) ↔
      ∀ record, P.filedRecord none tenantId body now = .ok record →
        UploadKeeps P tenantId body record s := by
  obtain ⟨record, hfiled, hstate⟩ := uploadToolPackage_of_isOk h
  have hkeeps : (∀ record, P.filedRecord none tenantId body now = .ok record →
      UploadKeeps P tenantId body record s) ↔ UploadKeeps P tenantId body record s := by
    constructor
    · exact fun hall ↦ hall record hfiled
    · rintro hkept record' hfiled'
      obtain rfl := Except.ok.inj (hfiled.symm.trans hfiled')
      exact hkept
  rw [hkeeps]
  split at hstate
  · rename_i hactivates
    exact activated_agrees_iff hsettled hagrees hfiled hactivates hstate
  · rename_i hnot
    rw [hstate]
    exact filedState_agrees_iff hsettled hagrees hfiled hnot

end Uploads

/-! ## Runs -/

instance (call : ToolCall) : Decidable (Succeeds P tenantId s call) :=
  inferInstanceAs (Decidable (_ = _))

/-- The endpoints keep the stores settled. -/
theorem settled_toolStep {call : ToolCall} (h : Succeeds P tenantId s call)
    (hsettled : Settled tenantId s) : Settled tenantId (toolStep P tenantId s call).2 := by
  cases call with
  | register body =>
    obtain ⟨handler, -, -, hstate⟩ := registerTool_eq_ok h
    rw [toolStep, outcome, hstate]
    refine ⟨hsettled.oneActive, fun name row hrow ↦ ?_⟩
    rw [Dict.get?_set] at hrow
    split at hrow
    · obtain rfl := Option.some.inj hrow
      rfl
    · exact hsettled.plain name row hrow
  | upload body now => exact uploadToolPackage_settled hsettled h
  | deactivate toolName version => exact (deactivateToolVersion_of_isOk hsettled h).settled hsettled
  | rollback toolName targetVersion =>
    exact (rollbackToolVersion_of_isOk hsettled h).2.settled hsettled
  | revoke toolName version force =>
    obtain ⟨versionStore, -, hsynchronised⟩ := revokeToolPackageVersion_of_isOk hsettled h
    exact hsynchronised.settled hsettled
  | unregister name =>
    rw [toolStep, outcome, unregisterTool_eq_ok h]
    refine ⟨hsettled.oneActive, fun other row hrow ↦ ?_⟩
    rw [Dict.get?_erase] at hrow
    split at hrow
    · cases hrow
    · exact hsettled.plain other row hrow

/-- **A successful call keeps all names bound right** exactly if it does nothing it must not. -/
theorem toolStep_agrees_iff {call : ToolCall} (hsettled : Settled tenantId s)
    (hagrees : ∀ other, Bound P tenantId s other) (h : Succeeds P tenantId s call) :
    (∀ other, Bound P tenantId (toolStep P tenantId s call).2 other) ↔
      KeepsTransparent P tenantId s call := by
  cases call with
  | register body => exact iff_of_true (registerTool_agrees hagrees h) trivial
  | upload body now => exact uploadToolPackage_agrees_iff hsettled hagrees h
  | deactivate toolName version =>
    refine ((deactivateToolVersion_of_isOk hsettled h).agrees_iff hagrees).trans ?_
    exact forall_prop_of_true ToolVersionStore.getActive_clearActive
  | rollback toolName targetVersion =>
    obtain ⟨hmem, hsynchronised⟩ := rollbackToolVersion_of_isOk hsettled h
    refine iff_of_true ((hsynchronised.agrees_iff hagrees).mpr fun hnone ↦ ?_) trivial
    -- The version that was found is active now.
    have hof : ToolVersionStore.IsOf tenantId toolName ⟨tenantId, toolName, targetVersion⟩ :=
      ⟨rfl, rfl⟩
    refine absurd ?_ (ToolVersionStore.getActive_eq_none_iff.mp hnone _ hof)
    rw [ToolVersionStore.isActive_setActive, if_pos hof]
    exact ⟨rfl, hmem⟩
  | revoke toolName version force =>
    obtain ⟨versionStore, hactive, hsynchronised⟩ := revokeToolPackageVersion_of_isOk hsettled h
    refine (hsynchronised.agrees_iff hagrees).trans ?_
    rw [getActive_revoked_iff hsettled.oneActive hactive]
    rfl
  | unregister name => exact unregisterTool_agrees_iff hagrees h

/-- **Restarts are transparent all along a run** of successful calls exactly if no call does what
it must not. -/
theorem restart_transparent_iff {η : Type} (P : ToolPlatform η) (tenantId : String)
    (s : ToolSystem η) (calls : List ToolCall) (hsettled : Settled tenantId s)
    (htransparent : Transparent P tenantId s)
    (hsucceeds : Run.Along (toolStep P tenantId) (Succeeds P tenantId) s calls) :
    (∀ js, js <+: calls → Transparent P tenantId (Run.exec (toolStep P tenantId) s js)) ↔
      Run.Along (toolStep P tenantId) (KeepsTransparent P tenantId) s calls := by
  refine Run.forall_exec_iff_along_of_along (P := Settled tenantId)
    (fun s call h hsettled ↦ settled_toolStep h hsettled)
    (fun s call h hsettled htransparent ↦ ?_) hsucceeds hsettled htransparent
  rw [transparent_iff (settled_toolStep h hsettled).oneActive]
  exact toolStep_agrees_iff hsettled ((transparent_iff hsettled.oneActive).mp htransparent) h

theorem settled_empty : Settled tenantId (emptyToolSystem (η := η)) :=
  ⟨ToolVersionStore.oneActive_empty, fun _ _ h ↦ nomatch h⟩

theorem transparent_empty : Transparent P tenantId emptyToolSystem :=
  (transparent_iff ToolVersionStore.oneActive_empty).mpr fun _ ↦ ⟨none, none, rfl, rfl, rfl⟩

/-- A version of `greet` is uploaded, deactivated and activated again. -/
def rollbackRun : List ToolCall :=
  [.upload (greetUpload "def run():\n  pass") "now", .deactivate "greet" "1.0",
    .rollback "greet" "1.0"]

/-- No call of that run does what it must not, and restarts are transparent all along it. -/
theorem restart_transparent_rollbackRun :
    Run.Along (toolStep (literalPlatform "secret") "acme")
        (KeepsTransparent (literalPlatform "secret") "acme") emptyToolSystem rollbackRun ∧
      ∀ js, js <+: rollbackRun → Transparent (literalPlatform "secret") "acme"
        (Run.exec (toolStep (literalPlatform "secret") "acme") emptyToolSystem js) := by
  -- Both are evaluated in one go, so that the upload is run once.
  have hrun : Run.Along (toolStep (literalPlatform "secret") "acme")
      (Succeeds (literalPlatform "secret") "acme") emptyToolSystem rollbackRun ∧
      ((toolStep (literalPlatform "secret") "acme" emptyToolSystem
        (.upload (greetUpload "def run():\n  pass") "now")).2.toolStore.get?
          ("acme", "greet")).isNone = true := by decide +kernel
  obtain ⟨hsucceeds, hnone⟩ := hrun
  have hkeeps : Run.Along (toolStep (literalPlatform "secret") "acme")
      (KeepsTransparent (literalPlatform "secret") "acme") emptyToolSystem rollbackRun := by
    refine ⟨fun record _ ↦ ?_, ?_, trivial, trivial⟩
    · exact ⟨fun _ _ hactive ↦ (nomatch hactive), fun _ _ hactive ↦ (nomatch hactive)⟩
    · rw [KeepsTransparent, ToolPlatform.plainBinding, Option.isNone_iff_eq_none.mp hnone]
  exact ⟨hkeeps, (restart_transparent_iff (literalPlatform "secret") "acme" emptyToolSystem
    rollbackRun settled_empty transparent_empty hsucceeds).mpr hkeeps⟩

/-- A version of `greet` is uploaded, and the tool is unregistered. -/
def unregisteringRun : List ToolCall :=
  [.upload (greetUpload "def run():\n  pass") "now", .unregister "greet"]

/-- A tool that is unregistered is back after a restart. -/
theorem unregister_leaves_active_version :
    Run.Along (toolStep (literalPlatform "secret") "acme") (Succeeds (literalPlatform "secret") "acme")
        emptyToolSystem unregisteringRun ∧
      ¬Transparent (literalPlatform "secret") "acme"
        (Run.exec (toolStep (literalPlatform "secret") "acme") emptyToolSystem unregisteringRun) := by
  have hrun : Run.Along (toolStep (literalPlatform "secret") "acme")
      (Succeeds (literalPlatform "secret") "acme") emptyToolSystem unregisteringRun ∧
      ((literalPlatform "secret").hydrateTenantTools "acme"
        (Run.exec (toolStep (literalPlatform "secret") "acme") emptyToolSystem
          unregisteringRun).toolStore
        (Run.exec (toolStep (literalPlatform "secret") "acme") emptyToolSystem
          unregisteringRun).versionStore
        (Run.exec (toolStep (literalPlatform "secret") "acme") emptyToolSystem
          unregisteringRun).files Dict.empty).toOption.map (fun r ↦ (r.get? "greet").isSome) =
        some true ∧
      ((Run.exec (toolStep (literalPlatform "secret") "acme") emptyToolSystem
        unregisteringRun).registry.get? "greet").isNone = true := by decide +kernel
  obtain ⟨hsucceeds, hrebuilt, hgone⟩ := hrun
  refine ⟨hsucceeds, ?_⟩
  rintro ⟨r, hr, hall⟩
  have hgreet := hall "greet"
  rw [Option.isNone_iff_eq_none.mp hgone, Option.map_none, Option.map_eq_none_iff] at hgreet
  rw [hr] at hrebuilt
  have hsome : (r.get? "greet").isSome = true := Option.some.inj hrebuilt
  rw [hgreet] at hsome
  cases hsome

end Api
end ExoBrain
