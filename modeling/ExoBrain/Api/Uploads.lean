import ExoBrain.Api.Tools

/-!
# What an upload leaves behind

An upload writes the files of its bundle, files its record and perhaps activates it, and may end
between any two of these steps.  What it has written until then depends on the request and on what
goes wrong, but hardly on the state.

* `filesWritten` are the texts that an upload writes, by their paths, `filedRecord` is the record
  that it files, and `Activates` says that the version gets activated.
* `files_uploadToolPackage` and `versionStore_uploadToolPackage`: this is all that an upload changes
  of the files and of the stores.
-/

set_option autoImplicit false

namespace ExoBrain
namespace Api

open Checks
open Tools

/-! ## Files -/

/-- Write texts, one after the other. -/
def writeFiles (writes : List (String × String)) (files : Files) : Files :=
  writes.foldl (fun files write ↦ files.set write.1 write.2) files

/-- What is written of a file that could not be written. -/
def leftWrites (path : String) (left : Option String) : List (String × String) :=
  (left.map fun text ↦ (path, text)).toList

/-- The texts that are written for a bundle. -/
def bundleWrites (fault : Option UploadFault) (store : FileSystemToolArtifactStore) (key : BundleKey)
    (toolYaml handlerPy : String) : List (String × String) :=
  match fault with
  | some (.raised .makeDirectory) => []
  | some (.raised (.writeManifest left)) => leftWrites (store.paths key).manifestPath left
  | some (.raised (.writeHandler left)) =>
    ((store.paths key).manifestPath, toolYaml) :: leftWrites (store.paths key).handlerPath left
  | _ => [((store.paths key).manifestPath, toolYaml), ((store.paths key).handlerPath, handlerPy)]

section Writes

variable {writes : List (String × String)} {files : Files} {path : String}

theorem leaveFile_eq (left : Option String) :
    leaveFile path left files = writeFiles (leftWrites path left) files := by
  cases left <;> rfl

theorem get?_writeFiles_of_not_mem (h : ∀ text, (path, text) ∉ writes) :
    (writeFiles writes files).get? path = files.get? path := by
  have hnone : Dict.lastWritten Prod.fst Prod.snd writes path = none := by
    refine Dict.lastWritten_eq_none.mpr ?_
    rintro ⟨path', text⟩ hmem rfl
    exact h text hmem
  rw [writeFiles, Dict.get?_foldl_set, hnone, Option.none_or]

theorem get?_writeFiles_of_mem (hnodup : (writes.map Prod.fst).Nodup) {text : String}
    (h : (path, text) ∈ writes) : (writeFiles writes files).get? path = some text := by
  have hlast : Dict.lastWritten Prod.fst Prod.snd writes path = some text :=
    (Dict.lastWritten_eq_some_iff hnodup).mpr ⟨(path, text), h, rfl, rfl⟩
  rw [writeFiles, Dict.get?_foldl_set, hlast, Option.some_or]

/-- **A file is left as it was** if the text that is written, if there is one, is the old one. -/
theorem get?_writeFiles_eq_iff (hnodup : (writes.map Prod.fst).Nodup) :
    (writeFiles writes files).get? path = files.get? path ↔
      ∀ text, (path, text) ∈ writes → files.get? path = some text := by
  constructor
  · intro h text hmem
    rw [← h, get?_writeFiles_of_mem hnodup hmem]
  · intro h
    by_cases hwritten : ∃ text, (path, text) ∈ writes
    · obtain ⟨text, hmem⟩ := hwritten
      rw [get?_writeFiles_of_mem hnodup hmem, h text hmem]
    · exact get?_writeFiles_of_not_mem (not_exists.mp hwritten)

/-- A bundle is written into two files. -/
theorem nodup_bundleWrites (fault : Option UploadFault) (store : FileSystemToolArtifactStore)
    (key : BundleKey) (toolYaml handlerPy : String) :
    ((bundleWrites fault store key toolYaml handlerPy).map Prod.fst).Nodup := by
  obtain ⟨hne, -, -⟩ := store.paths_ne key key
  have hleft (path : String) (left : Option String) :
      (leftWrites path left).map Prod.fst = [] ∨ (leftWrites path left).map Prod.fst = [path] := by
    cases left
    · exact .inl rfl
    · exact .inr rfl
  unfold bundleWrites
  split
  · exact List.nodup_nil
  · rename_i left
    rcases hleft (store.paths key).manifestPath left with h | h <;> simp [h]
  · rename_i left
    rcases hleft (store.paths key).handlerPath left with h | h <;> simp [h, hne]
  · simp [hne]

theorem writeBundle_snd (fault : Option UploadFault) (store : FileSystemToolArtifactStore)
    (key : BundleKey) (toolYaml handlerPy : String) (files : Files) :
    (writeBundle fault store key toolYaml handlerPy files).2 =
      writeFiles (bundleWrites fault store key toolYaml handlerPy) files := by
  unfold writeBundle
  split
  · rfl
  · exact leaveFile_eq _
  · exact leaveFile_eq _
  · rw [bundleWrites]
    · rfl
    all_goals assumption

end Writes

namespace ToolPlatform

variable {η : Type} (P : ToolPlatform η) (fault : Option UploadFault) (tenantId : String)
  (body : ToolVersionUploadRequest) (now : String)

/-! ## What is written, filed and activated -/

/-- The texts that an upload writes, by their paths. -/
def filesWritten : List (String × String) :=
  match P.admittedManifest fault body, P.artifactStore with
  | .ok manifest, some store =>
    if body.handlerSource = "" then []
    else bundleWrites fault store ⟨tenantId, manifest.toolName, manifest.version⟩
      (body.toolYaml manifest) body.handlerSource
  | _, _ => []

/-- The record that an upload files. -/
def filedRecord : Except HttpException ToolVersionRecord := do
  let manifest ← P.admittedManifest fault body
  let manifest ← (P.fileBundle fault tenantId body manifest Dict.empty).1
  let record ← P.uploadedRecord tenantId body manifest now
  check (fault ≠ some (.raised .saveVersion)) internalServerError
  return record

/-- The files after an upload. -/
def uploadedFiles (files : Files) : Files := writeFiles (P.filesWritten fault tenantId body) files

/-- A version that was filed gets activated. -/
structure Activates (files : Files) (record : ToolVersionRecord) : Prop where
  wanted : body.activate = true
  not_invalid : record.validation.map ToolValidationResult.state ≠ some .invalid
  projects : (P.project files record).isOk = true
  not_audit : fault ≠ some (.raised .audit)
  not_setActive : fault ≠ some (.raised .setActive)

instance (files : Files) (record : ToolVersionRecord) :
    Decidable (P.Activates fault body files record) :=
  decidable_of_iff (body.activate = true ∧
    record.validation.map ToolValidationResult.state ≠ some .invalid ∧
    (P.project files record).isOk = true ∧ fault ≠ some (.raised .audit) ∧
    fault ≠ some (.raised .setActive))
    ⟨fun ⟨h, h', h'', h₃, h₄⟩ ↦ ⟨h, h', h'', h₃, h₄⟩, fun ⟨h, h', h'', h₃, h₄⟩ ↦ ⟨h, h', h'', h₃, h₄⟩⟩

/-- The versions after an upload. -/
def uploadedVersions (s : ToolSystem η) : ToolVersionStore :=
  match P.filedRecord fault tenantId body now with
  | .error _ => s.versionStore
  | .ok record =>
    if P.Activates fault body (P.uploadedFiles fault tenantId body s.files) record then
      (s.versionStore.save record).setActive record.tenantId record.toolName record.version
    else s.versionStore.save record

variable {P fault tenantId body now} {manifest : ToolPackageManifest} {s : ToolSystem η}

theorem nodup_filesWritten : ((P.filesWritten fault tenantId body).map Prod.fst).Nodup := by
  rw [filesWritten]
  split
  · split_ifs
    · exact List.nodup_nil
    · exact nodup_bundleWrites ..
  · exact List.nodup_nil

/-! ## The steps -/

/-- What is made of the manifest does not depend on the files. -/
theorem fileBundle_fst (files files' : Files) :
    (P.fileBundle fault tenantId body manifest files).1 =
      (P.fileBundle fault tenantId body manifest files').1 := by
  have hwrite (store : FileSystemToolArtifactStore) (key : BundleKey) (toolYaml : String) :
      (writeBundle fault store key toolYaml body.handlerSource files).1 =
        (writeBundle fault store key toolYaml body.handlerSource files').1 := by
    unfold writeBundle
    split <;> rfl
  rw [fileBundle, fileBundle]
  by_cases hsource : body.handlerSource = ""
  · rw [if_pos hsource, if_pos hsource]
  · rw [if_neg hsource, if_neg hsource]
    cases P.artifactStore with
    | none => rfl
    | some store =>
      have h := hwrite store ⟨tenantId, manifest.toolName, manifest.version⟩ (body.toolYaml manifest)
      dsimp only
      rcases hleft : writeBundle fault store _ _ body.handlerSource files with ⟨result, written⟩
      rcases hright : writeBundle fault store _ _ body.handlerSource files' with ⟨result', written'⟩
      rw [hleft, hright] at h
      obtain rfl : result = result' := h
      cases result <;> rfl

theorem fileBundle_snd (hmanifest : P.admittedManifest fault body = .ok manifest) (files : Files) :
    (P.fileBundle fault tenantId body manifest files).2 =
      P.uploadedFiles fault tenantId body files := by
  rw [uploadedFiles, filesWritten, hmanifest, fileBundle]
  cases hstore : P.artifactStore with
  | none =>
    dsimp only
    split <;> rfl
  | some store =>
    dsimp only
    by_cases hsource : body.handlerSource = ""
    · rw [if_pos hsource, if_pos hsource]
      rfl
    · rw [if_neg hsource, if_neg hsource]
      have h := writeBundle_snd fault store ⟨tenantId, manifest.toolName, manifest.version⟩
        (body.toolYaml manifest) body.handlerSource files
      rcases hwrite : writeBundle fault store _ _ body.handlerSource files with ⟨_ | persisted, written⟩
      · rw [hwrite] at h
        exact h
      · rw [hwrite] at h
        exact h

theorem finishActivation_snd (record : ToolVersionRecord) (s : ToolSystem η) :
    (P.finishActivation fault record s).2.files = s.files ∧
      (P.finishActivation fault record s).2.versionStore = s.versionStore := by
  have hsync : (P.syncActiveToolDescriptor record.tenantId record.toolName s).2.files = s.files ∧
      (P.syncActiveToolDescriptor record.tenantId record.toolName s).2.versionStore =
        s.versionStore := by
    rw [syncActiveToolDescriptor]
    split
    · exact ⟨rfl, rfl⟩
    · split <;> exact ⟨rfl, rfl⟩
  unfold finishActivation
  split
  · exact ⟨rfl, rfl⟩
  · exact ⟨rfl, rfl⟩
  · clear * - hsync
    rcases h : P.syncActiveToolDescriptor record.tenantId record.toolName s with ⟨_ | _, s'⟩
    · rw [h] at hsync
      exact hsync
    · rw [h] at hsync
      dsimp only
      split_ifs
      · exact hsync
      · split <;> exact hsync

theorem activateUpload_snd (hwanted : body.activate = true)
    (haudit : fault ≠ some (.raised .audit)) (record : ToolVersionRecord) (s : ToolSystem η) :
    (P.activateUpload fault record s).2.files = s.files ∧
      (P.activateUpload fault record s).2.versionStore =
        if P.Activates fault body s.files record then
          s.versionStore.setActive record.tenantId record.toolName record.version
        else s.versionStore := by
  unfold activateUpload
  by_cases hinvalid : record.validation.map ToolValidationResult.state = some .invalid
  · rw [if_pos hinvalid, if_neg fun h ↦ h.not_invalid hinvalid]
    exact ⟨rfl, rfl⟩
  · rw [if_neg hinvalid]
    cases hproject : P.project s.files record with
    | error error =>
      have hnot : ¬P.Activates fault body s.files record := by
        intro h
        have hok := h.projects
        rw [hproject] at hok
        cases hok
      rw [if_neg hnot]
      exact ⟨rfl, rfl⟩
    | ok descriptor =>
      dsimp only
      by_cases hset : fault = some (.raised .setActive)
      · rw [if_pos hset, if_neg fun h ↦ h.not_setActive hset]
        exact ⟨rfl, rfl⟩
      · have hactivates : P.Activates fault body s.files record :=
          ⟨hwanted, hinvalid, by rw [hproject]; rfl, haudit, hset⟩
        rw [if_neg hset, if_pos hactivates]
        exact finishActivation_snd record _

theorem admittedManifest_key
    (h : P.admittedManifest fault body = .ok manifest) :
    (⟨tenantId, manifest.toolName, manifest.version⟩ : BundleKey) = body.key tenantId := by
  simp only [admittedManifest, packageManifest, bind_eq_ok, pure, Except.pure, Except.ok.injEq] at h
  obtain ⟨-, -, _, -, rfl⟩ := h
  rfl

/-- Only the metadata of a manifest are changed by its bundle. -/
theorem fileBundle_eq_ok {signed : ToolPackageManifest} {files : Files}
    (h : (P.fileBundle fault tenantId body manifest files).1 = .ok signed) :
    ∃ metadata, signed = { manifest with metadata := metadata } := by
  rw [fileBundle] at h
  split at h
  · exact ⟨manifest.metadata, (Except.ok.inj h).symm⟩
  · split at h
    · cases h
    · split at h
      · cases h
      · simp only [signedManifest, bind_eq_ok, pure, Except.pure, Except.ok.injEq] at h
        obtain ⟨signature, -, rfl⟩ := h
        exact ⟨_, rfl⟩

theorem uploadedRecord_eq_ok {record : ToolVersionRecord}
    (h : P.uploadedRecord tenantId body manifest now = .ok record) :
    record.manifest = manifest ∧ record.active = false ∧
      record.key = ⟨tenantId, manifest.toolName, manifest.version⟩ := by
  simp only [uploadedRecord, bind_eq_ok, pure, Except.pure, Except.ok.injEq] at h
  obtain ⟨_, -, rfl⟩ := h
  exact ⟨rfl, rfl, rfl⟩

theorem filedRecord_eq_ok {record : ToolVersionRecord} :
    P.filedRecord fault tenantId body now = .ok record ↔
      ∃ manifest manifest', P.admittedManifest fault body = .ok manifest ∧
        (P.fileBundle fault tenantId body manifest Dict.empty).1 = .ok manifest' ∧
        P.uploadedRecord tenantId body manifest' now = .ok record ∧
        fault ≠ some (.raised .saveVersion) := by
  simp only [filedRecord, bind_eq_ok, check_eq_ok, pure, Except.pure, Except.ok.injEq]
  constructor
  · rintro ⟨manifest, hmanifest, manifest', hsigned, _, hrecord, ⟨⟩, hsave, rfl⟩
    exact ⟨manifest, manifest', hmanifest, hsigned, hrecord, hsave⟩
  · rintro ⟨manifest, manifest', hmanifest, hsigned, hrecord, hsave⟩
    exact ⟨manifest, hmanifest, manifest', hsigned, record, hrecord, (), hsave, rfl⟩

theorem filedRecord_spec {record : ToolVersionRecord}
    (h : P.filedRecord fault tenantId body now = .ok record) :
    record.key = body.key tenantId ∧ record.active = false := by
  obtain ⟨manifest, signed, hadmitted, hsigned, hrecord, -⟩ := filedRecord_eq_ok.mp h
  obtain ⟨-, hactive, hkey⟩ := uploadedRecord_eq_ok hrecord
  obtain ⟨metadata, rfl⟩ := fileBundle_eq_ok hsigned
  have hbody : (⟨tenantId, manifest.toolName, manifest.version⟩ : BundleKey) = body.key tenantId :=
    admittedManifest_key hadmitted
  exact ⟨hkey.trans hbody, hactive⟩

theorem uploadedVersions_of_not_filed
    (h : ∀ record, P.filedRecord fault tenantId body now ≠ .ok record) :
    P.uploadedVersions fault tenantId body now s = s.versionStore := by
  rw [uploadedVersions]
  cases hfiled : P.filedRecord fault tenantId body now with
  | error error => rfl
  | ok record => exact absurd hfiled (h record)

theorem uploadedVersions_of_filed {record : ToolVersionRecord}
    (h : P.filedRecord fault tenantId body now = .ok record) :
    P.uploadedVersions fault tenantId body now s =
      if P.Activates fault body (P.uploadedFiles fault tenantId body s.files) record then
        (s.versionStore.save record).setActive tenantId body.manifest.toolName body.manifest.version
      else s.versionStore.save record := by
  obtain ⟨htenant, htool, hversion⟩ := BundleKey.mk.inj (filedRecord_spec h).1
  rw [uploadedVersions, h, ← htenant, ← htool, ← hversion]

/-- The state after an upload whose record is filed. -/
def filedState (P : ToolPlatform η) (fault : Option UploadFault) (tenantId : String)
    (body : ToolVersionUploadRequest) (record : ToolVersionRecord) (s : ToolSystem η) :
    ToolSystem η :=
  { s with
    files := P.uploadedFiles fault tenantId body s.files
    versionStore := s.versionStore.save record }

/-- **How an upload ends**: it raises before its record is filed, or after. -/
theorem uploadToolPackage_eq :
    (∃ error, P.uploadToolPackage fault tenantId body now s = (.error error, { s with
        files := P.uploadedFiles fault tenantId body s.files }) ∧
      ∀ record, P.filedRecord fault tenantId body now ≠ .ok record) ∨
    ∃ record, P.filedRecord fault tenantId body now = .ok record ∧
      P.uploadToolPackage fault tenantId body now s =
        if fault = some (.raised .audit) then
          (.error internalServerError, P.filedState fault tenantId body record s)
        else if body.activate = true then
          P.activateUpload fault record (P.filedState fault tenantId body record s)
        else
          (P.toValidationResponse (P.uploadedFiles fault tenantId body s.files) record,
            P.filedState fault tenantId body record s) := by
  rw [uploadToolPackage]
  cases hadmitted : P.admittedManifest fault body with
  | error error =>
    have hfiles : P.uploadedFiles fault tenantId body s.files = s.files := by
      rw [uploadedFiles, filesWritten, hadmitted]
      rfl
    refine .inl ⟨error, by rw [hfiles], fun record hfiled ↦ ?_⟩
    obtain ⟨manifest, -, hmanifest, -⟩ := filedRecord_eq_ok.mp hfiled
    rw [hadmitted] at hmanifest
    cases hmanifest
  | ok manifest =>
    have hsnd : (P.fileBundle fault tenantId body manifest s.files).2 =
        P.uploadedFiles fault tenantId body s.files := fileBundle_snd hadmitted s.files
    have hfst : (P.fileBundle fault tenantId body manifest s.files).1 =
        (P.fileBundle fault tenantId body manifest Dict.empty).1 := fileBundle_fst _ _
    dsimp only
    rcases hbundle : P.fileBundle fault tenantId body manifest s.files with ⟨error | signed, files⟩
    · rw [hbundle] at hsnd hfst
      obtain rfl : files = _ := hsnd
      refine .inl ⟨error, rfl, fun record hfiled ↦ ?_⟩
      obtain ⟨manifest', signed, hmanifest, hsigned, -⟩ := filedRecord_eq_ok.mp hfiled
      obtain rfl : manifest = manifest' := Except.ok.inj (hadmitted.symm.trans hmanifest)
      exact nomatch hfst.trans hsigned
    · rw [hbundle] at hsnd hfst
      obtain rfl : files = _ := hsnd
      dsimp only
      cases hrecord : P.uploadedRecord tenantId body signed now with
      | error error =>
        refine .inl ⟨error, rfl, fun record hfiled ↦ ?_⟩
        obtain ⟨manifest', signed', hmanifest, hsigned, hrecord', -⟩ := filedRecord_eq_ok.mp hfiled
        obtain rfl : manifest = manifest' := Except.ok.inj (hadmitted.symm.trans hmanifest)
        obtain rfl : signed = signed' := Except.ok.inj (hfst.trans hsigned)
        exact nomatch hrecord.symm.trans hrecord'
      | ok record =>
        dsimp only
        by_cases hsave : fault = some (.raised .saveVersion)
        · rw [if_pos hsave]
          refine .inl ⟨internalServerError, rfl, fun record hfiled ↦ ?_⟩
          obtain ⟨_, _, _, _, _, hnot⟩ := filedRecord_eq_ok.mp hfiled
          exact hnot hsave
        · rw [if_neg hsave]
          exact .inr ⟨record, filedRecord_eq_ok.mpr
            ⟨manifest, signed, hadmitted, hfst.symm, hrecord, hsave⟩, rfl⟩

/-- **What an upload changes** of the files and of the versions. -/
theorem uploadToolPackage_snd :
    (P.uploadToolPackage fault tenantId body now s).2.files =
        P.uploadedFiles fault tenantId body s.files ∧
      (P.uploadToolPackage fault tenantId body now s).2.versionStore =
        P.uploadedVersions fault tenantId body now s := by
  rcases uploadToolPackage_eq (P := P) (s := s) with ⟨error, heq, hnot⟩ | ⟨record, hfiled, heq⟩
  · rw [heq, uploadedVersions_of_not_filed hnot]
    exact ⟨rfl, rfl⟩
  · rw [heq, uploadedVersions, hfiled]
    dsimp only
    by_cases haudit : fault = some (.raised .audit)
    · rw [if_pos haudit, if_neg fun h ↦ h.not_audit haudit]
      exact ⟨rfl, rfl⟩
    · rw [if_neg haudit]
      by_cases hwanted : body.activate = true
      · rw [if_pos hwanted]
        exact activateUpload_snd hwanted haudit record _
      · rw [if_neg hwanted, if_neg fun h ↦ hwanted h.wanted]
        exact ⟨rfl, rfl⟩

end ToolPlatform

end Api
end ExoBrain
