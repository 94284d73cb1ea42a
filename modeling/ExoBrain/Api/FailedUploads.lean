import ExoBrain.Api.Uploads

/-!
# What a failed upload changes

An upload that raises, or answers that the version is invalid, may have written files and filed a
record before.  Both are kept under names that may be in use already.

* `ChangesNoActive` says that an upload has left all active versions active, with the same files, and
  intact if they were.
* `LeavesActiveAlone` says the same in terms of what the upload writes, files and activates.
* `failed_upload_changes_no_active_iff`: the two are equivalent.
* `invalid_upload_deactivates` is an active version that is lost when it is uploaded again.
-/

set_option autoImplicit false

namespace ExoBrain
namespace Api

open Checks
open Policies (IngressTexts)
open Tools

/-! ## What should not change -/

/-- The paths of the bundle of a version. -/
def bundlePaths (T : IngressTexts) (record : ToolVersionRecord) : List String :=
  [record.metadataText T artifactManifestPathMetadataKey,
    record.metadataText T artifactHandlerPathMetadataKey]

/-- An upload has raised, or found the version invalid. -/
def Failed (result : Except HttpException ToolValidationResponse) : Prop :=
  ∀ response, result = .ok response → response.state = ToolValidationState.invalid.value

variable {η : Type} (P : ToolPlatform η)

/-- A version that was active is what it was. -/
structure Undisturbed (s s' : ToolSystem η) (key : BundleKey) (row : ToolVersionRow) : Prop where
  active : s'.versionStore.IsActive key
  files : ∀ path ∈ bundlePaths P.texts.toIngressTexts (row.toRecord key),
    s'.files.get? path = s.files.get? path
  intact : P.verify s.files (row.toRecord key) = .ok () →
    ∀ row', s'.versionStore.get? key = some row' → P.verify s'.files (row'.toRecord key) = .ok ()

/-- **Every active version is what it was.** -/
def ChangesNoActive (s s' : ToolSystem η) : Prop :=
  ∀ key row, s.versionStore.get? key = some row → row.active = true → Undisturbed P s s' key row

/-! ## What an upload leaves alone -/

/-- The upload does not touch an active version. -/
structure LeavesActiveAlone (fault : Option UploadFault) (tenantId : String)
    (body : ToolVersionUploadRequest) (now : String) (s : ToolSystem η) : Prop where
  /-- A file of an active version is written only with the text that it has. -/
  files : ∀ key row, s.versionStore.get? key = some row → row.active = true →
    ∀ path ∈ bundlePaths P.texts.toIngressTexts (row.toRecord key), ∀ text,
      (path, text) ∈ P.filesWritten fault tenantId body → s.files.get? path = some text
  /-- A version that is filed and not activated was not active. -/
  filed : ∀ record, P.filedRecord fault tenantId body now = .ok record →
    ¬P.Activates fault body (P.uploadedFiles fault tenantId body s.files) record →
    ¬s.versionStore.IsActive (body.key tenantId)
  /-- A version is not activated instead of another one. -/
  onlyActive : ∀ record, P.filedRecord fault tenantId body now = .ok record →
    P.Activates fault body (P.uploadedFiles fault tenantId body s.files) record →
    ∀ key, ToolVersionStore.IsOf tenantId body.manifest.toolName key →
      s.versionStore.IsActive key → key = body.key tenantId
  /-- A version that was intact has a bundle again. -/
  bundled : ∀ record, P.filedRecord fault tenantId body now = .ok record →
    P.Activates fault body (P.uploadedFiles fault tenantId body s.files) record →
    ∀ row, s.versionStore.get? (body.key tenantId) = some row → row.active = true →
      P.verify s.files (row.toRecord (body.key tenantId)) = .ok () →
      record.metadataText P.texts.toIngressTexts artifactHandlerPathMetadataKey ≠ ""

variable {P} {fault : Option UploadFault} {tenantId : String} {body : ToolVersionUploadRequest}
  {now : String} {s : ToolSystem η} {record : ToolVersionRecord}

/-- Only the manifest of a record is verified. -/
theorem verify_eq_of_manifest {files : Files} {record record' : ToolVersionRecord}
    (h : record.manifest = record'.manifest) : P.verify files record = P.verify files record' := by
  have htext (key : String) : record.metadataText P.texts.toIngressTexts key =
      record'.metadataText P.texts.toIngressTexts key := by
    rw [ToolVersionRecord.metadataText, ToolVersionRecord.metadataText, h]
  simp only [ToolPlatform.verify, verifyArtifactBundleIntegrity, htext]

/-- What is projected from a bundle is intact. -/
theorem verify_of_project {files : Files} (hproject : (P.project files record).isOk = true)
    (hpath : record.metadataText P.texts.toIngressTexts artifactHandlerPathMetadataKey ≠ "") :
    P.verify files record = .ok () := by
  obtain ⟨descriptor, hproject⟩ := exists_eq_ok hproject
  simp only [ToolPlatform.project, descriptorFromToolVersion, bind_eq_ok] at hproject
  obtain ⟨-, -, handler, hhandler, -⟩ := hproject
  rw [ToolHost.versionHandler] at hhandler
  simp only [if_pos hpath, bind_eq_ok] at hhandler
  obtain ⟨_, hverify, -⟩ := hhandler
  exact hverify

/-- A bundle is intact exactly if it was, if its files are what they were. -/
theorem verify_uploadedFiles {key : BundleKey} {row : ToolVersionRow}
    (h : ∀ path ∈ bundlePaths P.texts.toIngressTexts (row.toRecord key),
      (P.uploadedFiles fault tenantId body s.files).get? path = s.files.get? path) :
    P.verify (P.uploadedFiles fault tenantId body s.files) (row.toRecord key) =
      P.verify s.files (row.toRecord key) :=
  verifyArtifactBundleIntegrity_congr _ (h _ (by simp [bundlePaths]))
    (h _ (by simp [bundlePaths]))

/-! ## The two are the same -/

theorem ChangesNoActive.leavesActiveAlone
    (h : ChangesNoActive P s (P.uploadToolPackage fault tenantId body now s).2) :
    LeavesActiveAlone P fault tenantId body now s := by
  obtain ⟨hfiles, hversions⟩ := ToolPlatform.uploadToolPackage_snd (P := P) (s := s)
  constructor
  · intro key row hrow hactive path hpath
    have hsame := (h key row hrow hactive).files path hpath
    rw [hfiles] at hsame
    exact (get?_writeFiles_eq_iff ToolPlatform.nodup_filesWritten).mp hsame
  · rintro record hfiled hnot ⟨row, hrow, hactive⟩
    have hstill := (h _ row hrow hactive).active
    obtain ⟨hkey, hinactive⟩ := ToolPlatform.filedRecord_spec hfiled
    rw [hversions, ToolPlatform.uploadedVersions_of_filed hfiled, if_neg hnot,
      ToolVersionStore.isActive_save, if_pos hkey.symm, hinactive] at hstill
    cases hstill
  · rintro record hfiled hactivates key hof ⟨row, hrow, hactive⟩
    have hstill := (h key row hrow hactive).active
    rw [hversions, ToolPlatform.uploadedVersions_of_filed hfiled, if_pos hactivates,
      ToolVersionStore.isActive_setActive, if_pos hof] at hstill
    rw [ToolVersionUploadRequest.key, ← hof.1, ← hof.2, ← hstill.1]
  · intro record hfiled hactivates row hrow hactive hintact
    obtain ⟨hkey, -⟩ := ToolPlatform.filedRecord_spec hfiled
    have hnew : (P.uploadToolPackage fault tenantId body now s).2.versionStore.get?
        (body.key tenantId) = some { record.row with active := true } := by
      rw [hversions, ToolPlatform.uploadedVersions_of_filed hfiled, if_pos hactivates,
        ToolVersionStore.get?_setActive, ToolVersionStore.save, Dict.get?_set, if_pos hkey.symm]
      simp [ToolVersionStore.IsOf, ToolVersionUploadRequest.key]
    have hverify := (h _ row hrow hactive).intact hintact _ hnew
    exact (verifyArtifactBundleIntegrity_eq_ok.mp hverify).1.2

theorem LeavesActiveAlone.changesNoActive (h : LeavesActiveAlone P fault tenantId body now s) :
    ChangesNoActive P s (P.uploadToolPackage fault tenantId body now s).2 := by
  obtain ⟨hfiles, hversions⟩ := ToolPlatform.uploadToolPackage_snd (P := P) (s := s)
  intro key row hrow hactive
  have hsame : ∀ path ∈ bundlePaths P.texts.toIngressTexts (row.toRecord key),
      (P.uploadedFiles fault tenantId body s.files).get? path = s.files.get? path :=
    fun path hpath ↦ (get?_writeFiles_eq_iff ToolPlatform.nodup_filesWritten).mpr
      (h.files key row hrow hactive path hpath)
  -- A row that is kept is as intact as it was.
  have hkept (hget : (P.uploadToolPackage fault tenantId body now s).2.versionStore.get? key =
      some row) : Undisturbed P s (P.uploadToolPackage fault tenantId body now s).2 key row := by
    refine ⟨⟨row, hget, hactive⟩, by rwa [hfiles], fun hintact row' hrow' ↦ ?_⟩
    obtain rfl : row = row' := Option.some.inj (hget.symm.trans hrow')
    rw [hfiles, verify_uploadedFiles hsame, hintact]
  cases hfiled : P.filedRecord fault tenantId body now with
  | error error =>
    refine hkept ?_
    rw [hversions, ToolPlatform.uploadedVersions_of_not_filed (by simp [hfiled]), hrow]
  | ok record =>
    obtain ⟨hkey, -⟩ := ToolPlatform.filedRecord_spec hfiled
    by_cases hactivates : P.Activates fault body (P.uploadedFiles fault tenantId body s.files) record
    · have hget : (P.uploadToolPackage fault tenantId body now s).2.versionStore.get? key =
          ((s.versionStore.save record).get? key).map fun row ↦
            if ToolVersionStore.IsOf tenantId body.manifest.toolName key then
              { row with active := decide (key.version = body.manifest.version) } else row := by
        rw [hversions, ToolPlatform.uploadedVersions_of_filed hfiled, if_pos hactivates,
          ToolVersionStore.get?_setActive]
      by_cases hof : ToolVersionStore.IsOf tenantId body.manifest.toolName key
      · obtain rfl := h.onlyActive record hfiled hactivates key hof ⟨row, hrow, hactive⟩
        simp only [if_pos hof, ToolVersionStore.save, Dict.get?_set, if_pos hkey.symm] at hget
        refine ⟨⟨_, hget, decide_eq_true rfl⟩, by rwa [hfiles], fun hintact row' hrow' ↦ ?_⟩
        have hnew := Option.some.inj (hget.symm.trans hrow')
        have hmanifest : (row'.toRecord (body.key tenantId)).manifest = record.manifest := by
          rw [← hnew]
          rfl
        rw [hfiles, verify_eq_of_manifest hmanifest]
        exact verify_of_project hactivates.projects
          (h.bundled record hfiled hactivates row hrow hactive hintact)
      · refine hkept ?_
        have hne : key ≠ record.key := by
          rintro rfl
          exact hof (by rw [hkey]; exact ⟨rfl, rfl⟩)
        rw [hget, ToolVersionStore.save, Dict.get?_set, if_neg hne, hrow]
        simp [hof]
    · refine hkept ?_
      have hne : key ≠ record.key := by
        rintro rfl
        exact h.filed record hfiled hactivates (hkey ▸ ⟨row, hrow, hactive⟩)
      rw [hversions, ToolPlatform.uploadedVersions_of_filed hfiled, if_neg hactivates,
        ToolVersionStore.save, Dict.get?_set, if_neg hne, hrow]

/-- **A failed upload changes no active version** exactly if it leaves the active versions alone. -/
theorem failed_upload_changes_no_active_iff {η : Type} (P : ToolPlatform η)
    (fault : Option UploadFault) (tenantId : String) (body : ToolVersionUploadRequest)
    (now : String) (s : ToolSystem η) :
    Failed (P.uploadToolPackage fault tenantId body now s).1 →
      (ChangesNoActive P s (P.uploadToolPackage fault tenantId body now s).2 ↔
        LeavesActiveAlone P fault tenantId body now s) :=
  fun _ ↦ ⟨ChangesNoActive.leavesActiveAlone, LeavesActiveAlone.changesNoActive⟩

/-- The tool `greet` with an active version. -/
def greetSystem : ToolSystem String :=
  ((literalPlatform "secret").uploadToolPackage none "acme" (greetUpload "def run():\n  pass") "now"
    emptyToolSystem).2

/-- A version of `greet` that is invalid. -/
def invalidUpload (version : String) : ToolVersionUploadRequest where
  manifest := { toolName := "greet", version := version, entryFile := "handler.txt" }

/-- What there is of it before and after, evaluated in one go, so that `greetSystem` is made once. -/
theorem invalidUpload_runs :
    (greetSystem.versionStore.get? ((invalidUpload "1.0").key "acme")).map ToolVersionRow.active =
        some true ∧
      (greetSystem.versionStore.get? ((invalidUpload "2.0").key "acme")).isNone = true ∧
      (∀ version ∈ ["1.0", "2.0"], ((literalPlatform "secret").uploadToolPackage none "acme"
          (invalidUpload version) "later" greetSystem).1.toOption.map ToolValidationResponse.state =
        some "invalid") ∧
      (((literalPlatform "secret").uploadToolPackage none "acme" (invalidUpload "1.0") "later"
          greetSystem).2.versionStore.get? ((invalidUpload "1.0").key "acme")).map
        ToolVersionRow.active = some false ∧
      ((literalPlatform "secret").filedRecord none "acme" (invalidUpload "2.0")
          "later").toOption.map (fun record ↦ record.validation.map ToolValidationResult.state) =
        some (some .invalid) ∧
      (literalPlatform "secret").filesWritten none "acme" (invalidUpload "2.0") = [] := by
  decide +kernel

theorem failed_invalidUpload {version : String} (hversion : version ∈ ["1.0", "2.0"]) :
    Failed ((literalPlatform "secret").uploadToolPackage none "acme" (invalidUpload version) "later"
      greetSystem).1 := by
  intro response hresponse
  obtain ⟨-, -, hstates, -, -, -⟩ := invalidUpload_runs
  have hstate := hstates version hversion
  rw [hresponse] at hstate
  exact Option.some.inj hstate

/-- Another version that is invalid changes nothing for the active one. -/
theorem invalid_upload_of_another_version :
    ChangesNoActive (literalPlatform "secret") greetSystem
      ((literalPlatform "secret").uploadToolPackage none "acme" (invalidUpload "2.0") "later"
        greetSystem).2 := by
  refine (failed_upload_changes_no_active_iff (literalPlatform "secret") none "acme"
    (invalidUpload "2.0") "later" greetSystem (failed_invalidUpload (by simp))).mpr ?_
  obtain ⟨-, hnoRow, -, -, hstate, hnoFile⟩ := invalidUpload_runs
  have hinvalid : ∀ record, (literalPlatform "secret").filedRecord none "acme" (invalidUpload "2.0")
      "later" = .ok record → record.validation.map ToolValidationResult.state = some .invalid := by
    intro record hfiled
    rw [hfiled] at hstate
    exact Option.some.inj hstate
  refine ⟨fun _ _ _ _ path _ text hwritten ↦ ?_, fun record _ _ ↦ ?_,
    fun record hfiled h ↦ absurd (hinvalid record hfiled) h.not_invalid,
    fun record hfiled h ↦ absurd (hinvalid record hfiled) h.not_invalid⟩
  · rw [hnoFile] at hwritten
    cases hwritten
  · rintro ⟨row, hrow, -⟩
    rw [hrow] at hnoRow
    cases hnoRow

/-- An active version that is uploaded again and found invalid is no longer active. -/
theorem invalid_upload_deactivates :
    Failed ((literalPlatform "secret").uploadToolPackage none "acme" (invalidUpload "1.0") "later"
        greetSystem).1 ∧
      ¬ChangesNoActive (literalPlatform "secret") greetSystem
        ((literalPlatform "secret").uploadToolPackage none "acme" (invalidUpload "1.0") "later"
          greetSystem).2 := by
  refine ⟨failed_invalidUpload (by simp), fun h ↦ ?_⟩
  obtain ⟨hbefore, -, -, hafter, -, -⟩ := invalidUpload_runs
  obtain ⟨row, hrow, hactive⟩ := Option.map_eq_some_iff.mp hbefore
  obtain ⟨row', hrow', hstill⟩ := (h _ row hrow hactive).active
  rw [hrow', Option.map_some, hstill] at hafter
  cases hafter

end Api
end ExoBrain
