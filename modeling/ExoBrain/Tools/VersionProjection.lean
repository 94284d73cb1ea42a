import ExoBrain.Lib.Checks
import ExoBrain.Policies.IngressSignedPlugins
import ExoBrain.Tools.ArtifactStore

/-!
# From a version of a tool to a tool

A version that is filed is projected to the descriptor that the registry holds
(`version_projection.py`).  Its handler comes from the bundle on disk, from a source in the metadata,
or from a module that is named.

* `verifyArtifactBundleIntegrity` hashes the bundle on disk again, and compares the hash and the
  signature with those in the metadata.
* `ToolHost` is the interpreter that the tools are loaded into: what it makes of a source, of a
  bundle or of the name of a handler.
* `descriptorFromToolVersion` is the projection.
-/

set_option autoImplicit false

namespace ExoBrain
namespace Tools

open Core (RiskTier)
open Policies (IngressTexts)
open Checks

/-- `INLINE_HANDLER_SOURCE_METADATA_KEY`. -/
def inlineHandlerSourceMetadataKey : String := "inline_handler_source"

/-- `str(metadata.get(key, "")).strip()`. -/
def ToolVersionRecord.metadataText (T : IngressTexts) (key : String) (record : ToolVersionRecord) :
    String :=
  T.textOf (record.manifest.metadata.get? key) ""

/-! ## Integrity -/

/-- `verify_artifact_bundle_integrity`. -/
def verifyArtifactBundleIntegrity (T : IngressTexts) (D : Digests) (files : Files)
    (record : ToolVersionRecord) (signingSecret : String) : Except ToolError Unit := do
  let manifestPath := record.metadataText T artifactManifestPathMetadataKey
  let handlerPath := record.metadataText T artifactHandlerPathMetadataKey
  let expectedHash := record.metadataText T artifactBundleHashMetadataKey
  let expectedSignature := record.metadataText T artifactBundleSignatureMetadataKey
  let signatureVersion := record.metadataText T artifactSignatureVersionMetadataKey
  check (manifestPath ≠ "" ∧ handlerPath ≠ "")
    (.valueError "artifact integrity verification requires persisted manifest and handler paths")
  check (expectedHash ≠ "") (.valueError "artifact integrity metadata is missing bundle hash")
  check (expectedSignature ≠ "")
    (.valueError "artifact integrity metadata is missing bundle signature")
  let signatureVersion :=
    if signatureVersion = "" then defaultArtifactSignatureVersion else signatureVersion
  let actualHash ← require (D.computeBundleHashFromFiles files manifestPath handlerPath)
    (.other "FileNotFoundError")
  let sameHash ← compareDigest actualHash expectedHash
  check (sameHash = true)
    (.valueError "artifact integrity verification failed: bundle hash mismatch")
  let valid ← D.verifyBundleSignature actualHash expectedSignature signingSecret signatureVersion
  check (valid = true)
    (.valueError "artifact integrity verification failed: invalid bundle signature")

/-- The version of the signature that is checked. -/
def ToolVersionRecord.signatureVersion (T : IngressTexts) (record : ToolVersionRecord) : String :=
  if record.metadataText T artifactSignatureVersionMetadataKey = "" then
    defaultArtifactSignatureVersion
  else record.metadataText T artifactSignatureVersionMetadataKey

/-- **When a bundle is intact.** -/
theorem verifyArtifactBundleIntegrity_eq_ok {T : IngressTexts} {D : Digests} {files : Files}
    {record : ToolVersionRecord} {signingSecret : String} :
    verifyArtifactBundleIntegrity T D files record signingSecret = .ok () ↔
      (record.metadataText T artifactManifestPathMetadataKey ≠ "" ∧
        record.metadataText T artifactHandlerPathMetadataKey ≠ "") ∧
      ∃ actualHash, D.computeBundleHashFromFiles files
          (record.metadataText T artifactManifestPathMetadataKey)
          (record.metadataText T artifactHandlerPathMetadataKey) = some actualHash ∧
        actualHash = record.metadataText T artifactBundleHashMetadataKey ∧
        Text.strip signingSecret ≠ "" ∧
        D.hmacSha256 signingSecret (record.signatureVersion T ++ ":" ++ actualHash) =
          record.metadataText T artifactBundleSignatureMetadataKey := by
  have hhex {manifestPath handlerPath actualHash : String}
      (h : D.computeBundleHashFromFiles files manifestPath handlerPath = some actualHash) :
      IsHexDigest actualHash := by
    simp only [Digests.computeBundleHashFromFiles, bind, Option.bind_eq_some_iff, pure,
      Option.some.injEq] at h
    obtain ⟨toolYaml, -, handlerPy, -, rfl⟩ := h
    exact D.computeBundleHash_hex toolYaml handlerPy
  simp only [verifyArtifactBundleIntegrity, bind_eq_ok, check_eq_ok, require_eq_ok]
  constructor
  · rintro ⟨-, hpaths, -, hhash, -, hsignature, actualHash, hactual, same, hsame, -, rfl, valid,
      hvalid, rfl⟩
    rw [Digests.verifyBundleSignature_eq_true] at hvalid
    exact ⟨hpaths, actualHash, hactual, (hhex hactual).compareDigest_eq_true.mp hsame, hvalid⟩
  · rintro ⟨hpaths, actualHash, hactual, hsame, hsecret, hsigned⟩
    refine ⟨(), hpaths, (), ?_, (), ?_, actualHash, hactual, true,
      (hhex hactual).compareDigest_eq_true.mpr hsame, (), rfl, true,
      Digests.verifyBundleSignature_eq_true.mpr ⟨hsecret, hsigned⟩, rfl⟩
    · rw [← hsame]
      exact (hhex hactual).ne_empty
    · rw [← hsigned]
      exact (D.hmacSha256_hex _ _).ne_empty

/-- A bundle is as intact as it was, if its files are what they were. -/
theorem verifyArtifactBundleIntegrity_congr {T : IngressTexts} {D : Digests} {files files' : Files}
    {record : ToolVersionRecord} (signingSecret : String)
    (hmanifest : files.get? (record.metadataText T artifactManifestPathMetadataKey) =
      files'.get? (record.metadataText T artifactManifestPathMetadataKey))
    (hhandler : files.get? (record.metadataText T artifactHandlerPathMetadataKey) =
      files'.get? (record.metadataText T artifactHandlerPathMetadataKey)) :
    verifyArtifactBundleIntegrity T D files record signingSecret =
      verifyArtifactBundleIntegrity T D files' record signingSecret := by
  have hread : D.computeBundleHashFromFiles files
      (record.metadataText T artifactManifestPathMetadataKey)
      (record.metadataText T artifactHandlerPathMetadataKey) =
      D.computeBundleHashFromFiles files'
        (record.metadataText T artifactManifestPathMetadataKey)
        (record.metadataText T artifactHandlerPathMetadataKey) := by
    rw [Digests.computeBundleHashFromFiles, Digests.computeBundleHashFromFiles, Files.readText,
      Files.readText, Files.readText, Files.readText, hmanifest, hhandler]
  rw [verifyArtifactBundleIntegrity, verifyArtifactBundleIntegrity, hread]

/-! ## Handlers -/

/-- What a module has under a name: nothing, or something that can be called or not. -/
abbrev ModuleNames (η : Type) := String → Option (Option η)

/-- What the interpreter raises. -/
inductive HostError
  /-- The exception that is looked for: a `SyntaxError`, or a `ModuleNotFoundError`. -/
  | expected (message : String)
  | raised (error : ToolError)
deriving DecidableEq, Repr

/-- What the interpreter does that the tools are loaded into. -/
structure ToolHost (η : Type) where
  /-- The functions that a source defines at its top level, by `ast.parse`. -/
  topLevelFunctions : (source : String) → Except HostError (List String)
  /-- Run a source as a module. -/
  execSource : (moduleName source : String) → Except ToolError (ModuleNames η)
  /-- Load the text of a file as a module. -/
  execFile : (moduleName path text : String) → Except ToolError (ModuleNames η)
  /-- `importlib.import_module`. -/
  importModule : (modulePath : String) → Except HostError (ModuleNames η)

/-- An interpreter for which a source is the handler, and every module has every name. -/
def literalHost : ToolHost String where
  topLevelFunctions _ := .ok ["run"]
  execSource _ source := .ok fun _ ↦ some (some source)
  execFile _ _ text := .ok fun _ ↦ some (some text)
  importModule modulePath := .ok fun name ↦ some (some (modulePath ++ ":" ++ name))

/-- The handler that a module has under a name. -/
def handlerNamed {η : Type} (names : ModuleNames η) (name missing notCallable : String) :
    Except ToolError η :=
  match names name with
  | none => .error (.valueError missing)
  | some none => .error (.valueError notCallable)
  | some (some handler) => .ok handler

/-- `validate_inline_handler_source`. -/
def ToolHost.validateInlineHandlerSource {η : Type} (H : ToolHost η) (source entrypoint : String) :
    Except ToolError Unit := do
  let functions ← (H.topLevelFunctions source).mapError fun error ↦
    match error with
    | .expected message => .valueError ("inline handler source has invalid syntax: " ++ message)
    | .raised error => error
  check (entrypoint ∈ functions)
    (.valueError ("inline handler source does not define entrypoint function '" ++ entrypoint ++
      "'"))

/-- `str(manifest.entrypoint or "run").strip() or "run"`. -/
def ToolPackageManifest.entrypointName (manifest : ToolPackageManifest) : String :=
  let name := Text.strip (if manifest.entrypoint = "" then "run" else manifest.entrypoint)
  if name = "" then "run" else name

/-- `_resolve_inline_handler`. -/
def ToolHost.resolveInlineHandler {η : Type} (T : IngressTexts) (H : ToolHost η)
    (record : ToolVersionRecord) : Except ToolError η := do
  let source := record.metadataText T inlineHandlerSourceMetadataKey
  check (source ≠ "") (.valueError "inline handler source is empty")
  H.validateInlineHandlerSource source record.manifest.entrypointName
  let name := "tenant_tool_" ++ record.tenantId ++ "_" ++ record.toolName ++ "_" ++ record.version
  let moduleName := String.ofList (name.toList.map fun c ↦ if c = '-' then '_' else c)
  let names ← H.execSource moduleName source
  handlerNamed names record.manifest.entrypointName
    ("inline handler source does not expose entrypoint '" ++ record.manifest.entrypointName ++
      "' at runtime")
    ("inline entrypoint '" ++ record.manifest.entrypointName ++ "' is not callable")

/-- The characters of `[A-Za-z0-9_]`. -/
def isModuleChar (c : Char) : Bool := c.isAlphanum || c == '_'

/-- `_resolve_artifact_handler`. -/
def ToolHost.resolveArtifactHandler {η : Type} (T : IngressTexts) (H : ToolHost η) (files : Files)
    (record : ToolVersionRecord) : Except ToolError η := do
  let handlerPath := record.metadataText T artifactHandlerPathMetadataKey
  check (handlerPath ≠ "") (.valueError "artifact handler path is empty")
  let text ← require (files.get? handlerPath)
    (.valueError ("artifact handler file does not exist: " ++ handlerPath))
  let name := record.tenantId ++ "_" ++ record.toolName ++ "_" ++ record.version
  let moduleName := "tenant_tool_artifact_" ++
    String.ofList (Runs.squash isModuleChar '_' name.toList)
  let names ← H.execFile moduleName handlerPath text
  handlerNamed names record.manifest.entrypointName
    ("artifact handler does not define entrypoint '" ++ record.manifest.entrypointName ++ "'")
    ("artifact entrypoint '" ++ record.manifest.entrypointName ++ "' is not callable")

/-- `default_handler_ref`. -/
def defaultHandlerRef (toolName : String) : String := "src.tools.user_tools:" ++ toolName

/-- `resolve_version_handler_ref`. -/
def resolveVersionHandlerRef (T : IngressTexts) (record : ToolVersionRecord) : String :=
  let handlerRef := record.metadataText T "handler_ref"
  if handlerRef ≠ "" then handlerRef else defaultHandlerRef record.toolName

/-- `_resolve_handler`. -/
def ToolHost.resolveHandler {η : Type} (H : ToolHost η) (handlerRef : String) :
    Except ToolError η := do
  let (modulePath, funcName) ← require (Text.rsplit ':' handlerRef)
    (.valueError ("Invalid handler_ref format '" ++ handlerRef ++
      "'. Expected 'module.path:function_name'."))
  let names ← (H.importModule modulePath).mapError fun error ↦
    match error with
    | .expected message => .valueError ("Module '" ++ modulePath ++ "' not found: " ++ message)
    | .raised error => error
  handlerNamed names funcName
    ("Function '" ++ funcName ++ "' not found in module '" ++ modulePath ++ "'")
    ("'" ++ funcName ++ "' in '" ++ modulePath ++ "' is not callable")

/-! ## The projection -/

/-- `ToolDescriptor`. -/
structure ToolDescriptor (η : Type) where
  name : String
  handler : η
  riskTier : RiskTier := .low
  isStateChanging : Bool := false
  timeoutMs : Int := 30000
  description : String := ""
  parametersSchema : Dict String Value := Dict.empty
  metadata : Dict String Value := Dict.empty

/-- The handler of a version, with what is written under `handler_ref`, and the mark in the
metadata. -/
def ToolHost.versionHandler {η : Type} (T : IngressTexts) (D : Digests) (H : ToolHost η)
    (files : Files) (signingSecret : String) (record : ToolVersionRecord) :
    Except ToolError (η × String × Dict String Value) := do
  let metadata := record.manifest.metadata
  if record.metadataText T artifactHandlerPathMetadataKey ≠ "" then
    verifyArtifactBundleIntegrity T D files record signingSecret
    let handler ← H.resolveArtifactHandler T files record
    return (handler, "artifact://uploaded-bundle", metadata.set "artifact_handler" (.bool true))
  else if record.metadataText T inlineHandlerSourceMetadataKey ≠ "" then
    let handler ← H.resolveInlineHandler T record
    return (handler, "inline://uploaded-source", metadata.set "inline_handler" (.bool true))
  else
    let handlerRef := resolveVersionHandlerRef T record
    let handler ← H.resolveHandler handlerRef
    return (handler, handlerRef, metadata)

/-- `descriptor_from_tool_version`. -/
def descriptorFromToolVersion {η : Type} (T : IngressTexts) (D : Digests) (H : ToolHost η)
    (files : Files) (signingSecret : String) (record : ToolVersionRecord) :
    Except ToolError (ToolDescriptor η) := do
  check (record.validation.map ToolValidationResult.state ≠ some .invalid)
    (.valueError ("Tool version '" ++ record.toolName ++ "@" ++ record.version ++
      "' is invalid and cannot be activated."))
  let (handler, handlerRef, metadata) ← H.versionHandler T D files signingSecret record
  let metadata := (((((metadata.set "handler_ref" (.str handlerRef)).set
    "tool_version" (.str record.version)).set
    "package_ref" (.str record.packageRef)).set
    "entry_file" (.str record.manifest.entryFile)).set
    "entrypoint" (.str record.manifest.entrypoint)).set
    "source" (.str "tool_version_store")
  let riskTierRaw := T.lower
    (if record.manifest.riskTier = "" then "low" else record.manifest.riskTier)
  return {
    name := record.toolName
    handler := handler
    riskTier := (T.riskTier? riskTierRaw).getD .low
    isStateChanging := ((metadata.get? "is_state_changing").getD (.bool true)).truth
    timeoutMs := max record.manifest.timeoutMs 1
    description := record.manifest.description
    parametersSchema := record.manifest.inputSchema
    metadata := metadata }

end Tools
end ExoBrain
