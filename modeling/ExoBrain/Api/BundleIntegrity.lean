import ExoBrain.Api.Uploads

/-!
# Whether an uploaded bundle verifies

An upload hashes and signs the texts that it was given, and the check of a bundle hashes what it
reads from the disk.  The two need not be the same: a file is read with other line ends than it was
written with, the paths are stripped when they are read from the metadata, and the secret is stripped
for signing only.

* `ReadsAlike` and `SignsAlike` say when none of this makes a difference.
* `uploaded_bundle_verifies_iff`: then, and only then, the record of an upload verifies.
* `carriage_return_breaks_bundle` is a handler with the line ends of another platform.
-/

set_option autoImplicit false

namespace ExoBrain
namespace Api

open Checks
open Policies (IngressTexts)
open Tools

/-! ## Reading and signing -/

/-- Two texts have one hash. -/
def Collide (D : Digests) (a b : String) : Prop := a ≠ b ∧ D.sha256 a = D.sha256 b

/-- What is read from the disk hashes like the texts of the bundle.  Under a root that begins with a
blank these are other files, which the upload has not written. -/
def ReadsAlike (D : Digests) (store : FileSystemToolArtifactStore) (key : BundleKey)
    (toolYaml handlerPy : String) (files : Files) : Prop :=
  if Text.StartsBlank store.rootDir then
    D.computeBundleHashFromFiles files (Text.strip (store.paths key).manifestPath)
      (Text.strip (store.paths key).handlerPath) = some (D.computeBundleHash toolYaml handlerPy)
  else
    ('\r' ∉ toolYaml.toList ∧ '\r' ∉ handlerPy.toList) ∨
      Collide D (bundlePayload (Text.universalNewlines toolYaml) (Text.universalNewlines handlerPy))
        (bundlePayload toolYaml handlerPy)

/-- What is signed under the secret. -/
def signedText (bundleHash : String) : String :=
  defaultArtifactSignatureVersion ++ ":" ++ bundleHash

/-- The secret signs like the secret without the blanks around it. -/
def SignsAlike (D : Digests) (signingSecret bundleHash : String) : Prop :=
  Text.strip signingSecret = signingSecret ∨
    D.hmacSha256 signingSecret (signedText bundleHash) =
      D.hmacSha256 (Text.strip signingSecret) (signedText bundleHash)

theorem signsAlike_iff {D : Digests} {signingSecret bundleHash : String} :
    SignsAlike D signingSecret bundleHash ↔
      D.hmacSha256 signingSecret (signedText bundleHash) =
        D.hmacSha256 (Text.strip signingSecret) (signedText bundleHash) :=
  or_iff_right_of_imp fun h ↦ by rw [h]

/-- The payload is read as it was written exactly if no CR is in it. -/
theorem bundlePayload_universalNewlines {toolYaml handlerPy : String} :
    bundlePayload (Text.universalNewlines toolYaml) (Text.universalNewlines handlerPy) =
        bundlePayload toolYaml handlerPy ↔
      '\r' ∉ toolYaml.toList ∧ '\r' ∉ handlerPy.toList := by
  have hmem (a b : String) : '\r' ∈ (bundlePayload a b).toList ↔ '\r' ∈ a.toList ∨ '\r' ∈ b.toList := by
    simp [bundlePayload, String.toList_append]
  constructor
  · intro h
    have hnot : '\r' ∉ (bundlePayload toolYaml handlerPy).toList := by
      rw [← h, hmem, not_or]
      exact ⟨Text.not_mem_universalNewlines _, Text.not_mem_universalNewlines _⟩
    rwa [hmem, not_or] at hnot
  · rintro ⟨hyaml, hpy⟩
    rw [Text.universalNewlines_eq_self.mpr hyaml, Text.universalNewlines_eq_self.mpr hpy]

theorem computeBundleHash_universalNewlines {D : Digests} {toolYaml handlerPy : String} :
    D.computeBundleHash (Text.universalNewlines toolYaml) (Text.universalNewlines handlerPy) =
        D.computeBundleHash toolYaml handlerPy ↔
      ('\r' ∉ toolYaml.toList ∧ '\r' ∉ handlerPy.toList) ∨
        Collide D
          (bundlePayload (Text.universalNewlines toolYaml) (Text.universalNewlines handlerPy))
          (bundlePayload toolYaml handlerPy) := by
  rw [Digests.computeBundleHash, Digests.computeBundleHash, ← bundlePayload_universalNewlines,
    Collide]
  constructor
  · intro h
    exact (em _).imp_right fun hne ↦ ⟨hne, h⟩
  · rintro (h | ⟨-, h⟩)
    · rw [h]
    · exact h

/-! ## What an upload files -/

theorem textOf_str (T : IngressTexts) (text default : String) :
    T.textOf (some (.str text)) default = Text.strip text := rfl

/-- The last characters of the paths of a bundle are not blank. -/
theorem strip_paths (store : FileSystemToolArtifactStore) (key : BundleKey) :
    (Text.strip (store.paths key).manifestPath = (store.paths key).manifestPath ↔
        ¬Text.StartsBlank store.rootDir) ∧
      (Text.strip (store.paths key).handlerPath = (store.paths key).handlerPath ↔
        ¬Text.StartsBlank store.rootDir) ∧
      Text.strip (store.paths key).manifestPath ≠ "" ∧
      Text.strip (store.paths key).handlerPath ≠ "" := by
  obtain ⟨hmanifest, hhandler⟩ := store.startsBlank_paths key
  have hyaml : (store.paths key).manifestPath.toList.getLast? = some 'l' :=
    getLast?_joinPath (by decide) _
  have hpy : (store.paths key).handlerPath.toList.getLast? = some 'y' :=
    getLast?_joinPath (by decide) _
  refine ⟨?_, ?_, Text.strip_ne_empty (List.mem_of_mem_getLast? hyaml) (by decide),
    Text.strip_ne_empty (List.mem_of_mem_getLast? hpy) (by decide)⟩
  · rw [← hmanifest]
    exact Text.strip_eq_self_iff_of_last hyaml (by decide)
  · rw [← hhandler]
    exact Text.strip_eq_self_iff_of_last hpy (by decide)

section Filed

variable {η : Type} {P : ToolPlatform η} {fault : Option UploadFault} {tenantId : String}
  {body : ToolVersionUploadRequest} {now : String} {store : FileSystemToolArtifactStore}
  {record : ToolVersionRecord}

namespace ToolPlatform

/-- What is in the metadata of a bundle that was signed. -/
theorem signedManifest_eq_ok {manifest signed : ToolPackageManifest}
    {persisted : ToolArtifactBundlePaths} {toolYaml handlerPy : String}
    (h : P.signedManifest manifest persisted toolYaml handlerPy = .ok signed) :
    Text.strip P.artifactSigningSecret ≠ "" ∧
      ∃ metadata, signed = { manifest with metadata := metadata } ∧
        metadata.get? artifactManifestPathMetadataKey = some (.str persisted.manifestPath) ∧
        metadata.get? artifactHandlerPathMetadataKey = some (.str persisted.handlerPath) ∧
        metadata.get? artifactBundleHashMetadataKey =
          some (.str (P.digests.computeBundleHash toolYaml handlerPy)) ∧
        metadata.get? artifactBundleSignatureMetadataKey =
          some (.str (P.digests.hmacSha256 (Text.strip P.artifactSigningSecret)
            (signedText (P.digests.computeBundleHash toolYaml handlerPy)))) ∧
        metadata.get? artifactSignatureVersionMetadataKey =
          some (.str defaultArtifactSignatureVersion) := by
  simp only [signedManifest, bind_eq_ok, mapError_eq_ok, pure, Except.pure, Except.ok.injEq] at h
  obtain ⟨signature, hsigned, rfl⟩ := h
  rw [Digests.signBundleHash, Text.strip_strip] at hsigned
  split at hsigned
  · cases hsigned
  · rename_i hsecret
    obtain rfl := Except.ok.inj hsigned
    refine ⟨hsecret, _, rfl, ?_, ?_, ?_, ?_, ?_⟩ <;> simp only [Dict.get?_set] <;> rfl

theorem writeBundle_eq_ok {key : BundleKey} {toolYaml handlerPy : String} {files : Files}
    {persisted : ToolArtifactBundlePaths}
    (h : (writeBundle fault store key toolYaml handlerPy files).1 = .ok persisted) :
    persisted = store.paths key ∧ bundleWrites fault store key toolYaml handlerPy =
      [((store.paths key).manifestPath, toolYaml), ((store.paths key).handlerPath, handlerPy)] := by
  unfold writeBundle at h
  split at h
  · cases h
  · cases h
  · cases h
  · refine ⟨(Except.ok.inj h).symm, ?_⟩
    rw [bundleWrites]
    all_goals assumption

/-- **The record of an upload with a bundle**, and the files that it has written. -/
theorem filedRecord_of_bundle (hstore : P.artifactStore = some store)
    (hsource : body.handlerSource ≠ "")
    (hfiled : P.filedRecord fault tenantId body now = .ok record) :
    ∃ manifest, P.signedManifest manifest (store.paths (body.key tenantId))
          (body.toolYaml record.manifest) body.handlerSource = .ok record.manifest ∧
      P.filesWritten fault tenantId body =
        [((store.paths (body.key tenantId)).manifestPath, body.toolYaml record.manifest),
          ((store.paths (body.key tenantId)).handlerPath, body.handlerSource)] := by
  obtain ⟨manifest, signed, hadmitted, hsigned, hrecord, -⟩ := filedRecord_eq_ok.mp hfiled
  obtain ⟨rfl, -, -⟩ := uploadedRecord_eq_ok hrecord
  rw [fileBundle, if_neg hsource, hstore] at hsigned
  dsimp only at hsigned
  rcases hwrite : writeBundle fault store ⟨tenantId, manifest.toolName, manifest.version⟩
    (body.toolYaml manifest) body.handlerSource Dict.empty with ⟨_ | persisted, files⟩
  · rw [hwrite] at hsigned
    cases hsigned
  · rw [hwrite] at hsigned
    obtain ⟨rfl, hwrites⟩ := writeBundle_eq_ok (congrArg Prod.fst hwrite)
    have hyaml : body.toolYaml record.manifest = body.toolYaml manifest := by
      obtain ⟨-, metadata, hmanifest, -⟩ := signedManifest_eq_ok hsigned
      rw [hmanifest]
      rfl
    rw [admittedManifest_key hadmitted] at hsigned hwrites
    refine ⟨manifest, by rw [hyaml]; exact hsigned, ?_⟩
    rw [filesWritten, hadmitted, hstore]
    dsimp only
    rw [if_neg hsource, admittedManifest_key hadmitted, hwrites, hyaml]

end ToolPlatform

end Filed

/-- **What is read** under the paths of the metadata, after a bundle was written. -/
theorem computeBundleHashFromFiles_written (D : Digests) (store : FileSystemToolArtifactStore)
    (key : BundleKey) (toolYaml handlerPy : String) (files : Files) :
    D.computeBundleHashFromFiles
        (writeFiles [((store.paths key).manifestPath, toolYaml),
          ((store.paths key).handlerPath, handlerPy)] files)
        (Text.strip (store.paths key).manifestPath) (Text.strip (store.paths key).handlerPath) =
        some (D.computeBundleHash toolYaml handlerPy) ↔
      ReadsAlike D store key toolYaml handlerPy files := by
  have hread (path : String) : (writeFiles [((store.paths key).manifestPath, toolYaml),
      ((store.paths key).handlerPath, handlerPy)] files).get? path =
      if path = (store.paths key).handlerPath then some handlerPy
      else if path = (store.paths key).manifestPath then some toolYaml
      else files.get? path :=
    store.get?_persistBundle key toolYaml handlerPy files path
  obtain ⟨hstrip, hstrip', -, -⟩ := strip_paths store key
  rw [ReadsAlike]
  split
  · rename_i hblank
    -- The paths that were written begin with a blank, and what is stripped does not.
    obtain ⟨hstarts, hstarts'⟩ := store.startsBlank_paths key
    have hother (path : String) : (writeFiles [((store.paths key).manifestPath, toolYaml),
        ((store.paths key).handlerPath, handlerPy)] files).get? (Text.strip path) =
        files.get? (Text.strip path) := by
      rw [hread, if_neg, if_neg]
      · intro heq
        exact Text.not_startsBlank_strip path (heq ▸ hstarts.mpr hblank)
      · intro heq
        exact Text.not_startsBlank_strip path (heq ▸ hstarts'.mpr hblank)
    rw [Digests.computeBundleHashFromFiles, Digests.computeBundleHashFromFiles, Files.readText,
      Files.readText, Files.readText, Files.readText, hother, hother]
  · rename_i hblank
    rw [hstrip.mpr hblank, hstrip'.mpr hblank, Digests.computeBundleHashFromFiles, Files.readText,
      Files.readText, hread, hread, if_neg (store.paths_ne key key).1, if_pos rfl, if_pos rfl,
      ← computeBundleHash_universalNewlines]
    exact Option.some_inj

/-- **An uploaded bundle verifies** exactly if it is read as it was written and the secret signs as
it is. -/
theorem uploaded_bundle_verifies_iff {η : Type} {P : ToolPlatform η} {fault : Option UploadFault}
    {tenantId : String} {body : ToolVersionUploadRequest} {now : String}
    {store : FileSystemToolArtifactStore} {record : ToolVersionRecord}
    (hstore : P.artifactStore = some store) (hsource : body.handlerSource ≠ "")
    (hfiled : P.filedRecord fault tenantId body now = .ok record) (s : ToolSystem η) :
    P.verify (P.uploadToolPackage fault tenantId body now s).2.files record = .ok () ↔
      ReadsAlike P.digests store (body.key tenantId) (body.toolYaml record.manifest)
          body.handlerSource s.files ∧
        SignsAlike P.digests P.artifactSigningSecret
          (P.digests.computeBundleHash (body.toolYaml record.manifest) body.handlerSource) := by
  obtain ⟨manifest, hsigned, hwritten⟩ := ToolPlatform.filedRecord_of_bundle hstore hsource hfiled
  obtain ⟨hsecret, metadata, hrecord, hmanifest, hhandler, hhash, hsignature, hversion⟩ :=
    ToolPlatform.signedManifest_eq_ok hsigned
  obtain ⟨-, -, hne, hne'⟩ := strip_paths store (body.key tenantId)
  have htext {key text : String} (h : metadata.get? key = some (.str text)) :
      record.metadataText P.texts.toIngressTexts key = Text.strip text := by
    rw [ToolVersionRecord.metadataText, hrecord]
    exact (congrArg (fun found ↦ P.texts.textOf found "") h).trans (textOf_str _ _ _)
  have hsigns : record.signatureVersion P.texts.toIngressTexts = defaultArtifactSignatureVersion := by
    rw [ToolVersionRecord.signatureVersion, htext hversion]
    decide
  rw [ToolPlatform.uploadToolPackage_snd.1, ToolPlatform.uploadedFiles, hwritten,
    ToolPlatform.verify, verifyArtifactBundleIntegrity_eq_ok, htext hmanifest, htext hhandler,
    htext hhash, htext hsignature, hsigns, (P.digests.computeBundleHash_hex _ _).strip_eq,
    (P.digests.hmacSha256_hex _ _).strip_eq, ← computeBundleHashFromFiles_written, signsAlike_iff]
  constructor
  · rintro ⟨-, actualHash, hactual, rfl, -, hvalid⟩
    exact ⟨hactual, hvalid⟩
  · rintro ⟨hactual, hvalid⟩
    exact ⟨⟨hne, hne'⟩, _, hactual, rfl, hsecret, hvalid⟩

/-- Without CR and without blanks around the secret, the bundle verifies. -/
theorem greet_bundle_verifies :
    ∃ record, (literalPlatform "secret").filedRecord none "acme" (greetUpload "def run():\n  pass")
        "now" = .ok record ∧
      (literalPlatform "secret").verify ((literalPlatform "secret").uploadToolPackage none "acme"
        (greetUpload "def run():\n  pass") "now" emptyToolSystem).2.files record = .ok () := by
  obtain ⟨record, hfiled⟩ : ∃ record, (literalPlatform "secret").filedRecord none "acme"
      (greetUpload "def run():\n  pass") "now" = .ok record := exists_eq_ok (by decide +kernel)
  have hstore : (literalPlatform "secret").artifactStore = some ⟨"artifacts"⟩ := rfl
  have hyaml : (greetUpload "def run():\n  pass").toolYaml record.manifest = "tool_name: greet" := rfl
  refine ⟨record, hfiled, (uploaded_bundle_verifies_iff hstore (by decide) hfiled
    emptyToolSystem).mpr ⟨?_, .inl (by decide)⟩⟩
  rw [ReadsAlike, if_neg (by decide), hyaml]
  exact .inl ⟨by decide, by decide⟩

/-- A line that ends with CR and LF is hashed as it was sent and read back without CR. -/
theorem carriage_return_breaks_bundle :
    ∃ record, (literalPlatform "secret").filedRecord none "acme"
        (greetUpload "def run():\r\n  pass") "now" = .ok record ∧
      (literalPlatform "secret").verify ((literalPlatform "secret").uploadToolPackage none "acme"
        (greetUpload "def run():\r\n  pass") "now" emptyToolSystem).2.files record ≠ .ok () := by
  have hrun : ((literalPlatform "secret").filedRecord none "acme"
      (greetUpload "def run():\r\n  pass") "now").toOption.map (fun record ↦
        ((literalPlatform "secret").verify ((literalPlatform "secret").uploadToolPackage none "acme"
          (greetUpload "def run():\r\n  pass") "now" emptyToolSystem).2.files record).isOk) =
        some false := by decide +kernel
  obtain ⟨record, hrecord, hfalse⟩ := Option.map_eq_some_iff.mp hrun
  refine ⟨record, toOption_eq_some.mp hrecord, fun hok ↦ ?_⟩
  rw [hok] at hfalse
  cases hfalse

end Api
end ExoBrain
