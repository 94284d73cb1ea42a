import ExoBrain.Api.TenantPolicies
import ExoBrain.Tools.PackagePolicy
import ExoBrain.Tools.VersionStore

/-!
# The endpoints of tools

The endpoints of a tenant's tools (`tools.py`) work on the two stores, on the directory of the
artifacts and on the registry that the tenant's turns take their tools from.

* `uploadToolPackage` files a version of a package and may activate it.  It is the only endpoint
  that writes files.  Between its steps it calls other code that may raise; an `UploadFault` says
  where that happens.  A statement of a store that raises changes nothing, and a file that could
  not be written is left with any text, or as it was.
* `registerTool`, `deactivateToolVersion`, `rollbackToolVersion`, `revokeToolPackageVersion` and
  `unregisterTool` are the other endpoints that change something.

The audit pipeline is left out but for what it may raise in an upload.
-/

set_option autoImplicit false

namespace ExoBrain
namespace Api

open Checks
open Core (RiskTier)
open Tools

/-! ## Requests and responses -/

/-- `ToolPackageManifestPayload`. -/
structure ToolPackageManifestPayload where
  toolName : String
  version : String
  description : String := ""
  inputSchema : Dict String Value := Dict.empty
  timeoutMs : Int := 30000
  riskTier : RiskTier := .low
  entryFile : String := "handler.py"
  entrypoint : String := "run"
  requirements : List String := []
  metadata : Dict String Value := Dict.empty

/-- `ToolPackageBundlePayload`. -/
structure ToolPackageBundlePayload where
  toolYaml : String := ""
  handlerPy : String := ""
deriving DecidableEq, Repr

/-- `ToolVersionUploadRequest`. -/
structure ToolVersionUploadRequest where
  manifest : ToolPackageManifestPayload
  packageRef : String := ""
  packageBundle : Option ToolPackageBundlePayload := none
  inlineHandlerSource : String := ""
  artifactSizeBytes : Int := 0
  activate : Bool := true

/-- `ToolValidationResponse`. -/
structure ToolValidationResponse where
  tenantId : String
  toolName : String
  version : String
  state : String
  errors : List String
  warnings : List String
  normalizedSchemaHash : String
  packageRef : String
  integrityStatus : String := "not_applicable"
  integrityMessage : String := ""
  active : Bool
  createdAt : String
deriving DecidableEq, Repr

/-- `ToolRegisterRequest`. -/
structure ToolRegisterRequest where
  name : String
  handlerRef : String
  description : String := ""
  parametersSchema : Dict String Value := Dict.empty
  riskTier : RiskTier := .low
  isStateChanging : Bool := false
  timeoutMs : Int := 30000

/-- `ToolResponse`. -/
structure ToolResponse where
  name : String
  description : String
  handlerRef : Value
  riskTier : RiskTier
  isStateChanging : Bool
  timeoutMs : Int
  parametersSchema : Dict String Value

/-- `ToolGovernanceResponse`. -/
structure ToolGovernanceResponse where
  tenantId : String
  toolName : String
  version : String := ""
  action : String
  activeVersion : String := ""
  revoked : Bool := false
deriving DecidableEq, Repr

/-! ## The platform and its state -/

/-- What the endpoints use of the platform. -/
structure ToolPlatform (η : Type) where
  texts : ToolTexts
  digests : Digests
  host : ToolHost η
  artifactStore : Option FileSystemToolArtifactStore
  artifactSigningSecret : String
  limits : UploadLimits := {}

/-- A platform with the given secret, whose handlers are their texts. -/
def literalPlatform (artifactSigningSecret : String) : ToolPlatform String where
  texts := asciiTools
  digests := lastDigitsDigests
  host := literalHost
  artifactStore := some ⟨"artifacts"⟩
  artifactSigningSecret := artifactSigningSecret

/-- `ToolRegistry`. -/
abbrev ToolRegistry (η : Type) := Dict String (ToolDescriptor η)

/-- What the endpoints read and write.  The registry is that of the tenant they are called for. -/
structure ToolSystem (η : Type) where
  toolStore : ToolStore
  versionStore : ToolVersionStore
  files : Files
  registry : ToolRegistry η

/-- `_descriptor_to_response`. -/
def descriptorToResponse {η : Type} (descriptor : ToolDescriptor η) : ToolResponse where
  name := descriptor.name
  description := descriptor.description
  handlerRef := (descriptor.metadata.get? "handler_ref").getD (.str "")
  riskTier := descriptor.riskTier
  isStateChanging := descriptor.isStateChanging
  timeoutMs := descriptor.timeoutMs
  parametersSchema := descriptor.parametersSchema

/-- Nothing is stored yet. -/
def emptyToolSystem {η : Type} : ToolSystem η where
  toolStore := Dict.empty
  versionStore := Dict.empty
  files := Dict.empty
  registry := Dict.empty

/-- What is answered to an exception of the tools, if a `ValueError` is answered with a status. -/
def ofToolError (statusCode : Nat) : ToolError → HttpException
  | .valueError message => ⟨statusCode, message⟩
  | .other _ => ⟨500, "Internal Server Error"⟩

/-- What is answered to an exception that is not caught. -/
def internalServerError : HttpException := ⟨500, "Internal Server Error"⟩

variable {η : Type} (P : ToolPlatform η)

namespace ToolPlatform

/-- `verify_artifact_bundle_integrity` with the secret of the platform. -/
def verify (files : Files) (record : ToolVersionRecord) : Except ToolError Unit :=
  verifyArtifactBundleIntegrity P.texts.toIngressTexts P.digests files record P.artifactSigningSecret

/-- `descriptor_from_tool_version` with the secret of the platform. -/
def project (files : Files) (record : ToolVersionRecord) : Except ToolError (ToolDescriptor η) :=
  descriptorFromToolVersion P.texts.toIngressTexts P.digests P.host files P.artifactSigningSecret
    record

/-- What a response says of the integrity of a bundle. -/
def integrityOf (files : Files) (record : ToolVersionRecord) :
    Except HttpException (String × String) :=
  let text (key : String) := record.metadataText P.texts.toIngressTexts key
  if text artifactHandlerPathMetadataKey = "" then .ok ("not_applicable", "")
  else if text artifactBundleSignatureMetadataKey = "" ∨ text artifactBundleHashMetadataKey = "" then
    .ok ("missing_metadata", "artifact hash/signature metadata is missing")
  else if Text.strip P.artifactSigningSecret = "" then
    .ok ("unverifiable", "artifact signing secret is not configured")
  else
    match P.verify files record with
    | .ok _ => .ok ("verified", "")
    | .error (.valueError message) => .ok ("mismatch", message)
    | .error (.other _) => .error internalServerError

/-- `_to_validation_response`. -/
def toValidationResponse (files : Files) (record : ToolVersionRecord) :
    Except HttpException ToolValidationResponse := do
  let validation := record.validation.getD { toolName := record.toolName, version := record.version }
  let (integrityStatus, integrityMessage) ← P.integrityOf files record
  return {
    tenantId := record.tenantId
    toolName := record.toolName
    version := record.version
    state := validation.state.value
    errors := validation.errors
    warnings := validation.warnings
    normalizedSchemaHash := validation.normalizedSchemaHash
    packageRef := record.packageRef
    integrityStatus := integrityStatus
    integrityMessage := integrityMessage
    active := record.active
    createdAt := record.createdAt }

/-- `_sync_active_tool_descriptor`. -/
def syncActiveToolDescriptor (tenantId toolName : String) (s : ToolSystem η) :
    Except HttpException Unit × ToolSystem η :=
  match s.versionStore.getActive tenantId toolName with
  | none => (.ok (), { s with registry := s.registry.erase toolName })
  | some active =>
    match P.project s.files active with
    | .error _ => (.error internalServerError, s)
    | .ok descriptor => (.ok (), { s with registry := s.registry.set descriptor.name descriptor })

end ToolPlatform

/-! ## Uploads -/

/-- Where an upload calls other code that may raise. -/
inductive UploadPoint
  /-- The rate limiter, or the audit of a refusal. -/
  | admission
  | makeDirectory
  /-- The file is left with a text, or as it was. -/
  | writeManifest (left : Option String)
  | writeHandler (left : Option String)
  | saveVersion
  | audit
  | setActive
  | readActive
  | projectActive
  | readVersion
deriving DecidableEq, Repr

/-- What goes wrong around an upload. -/
inductive UploadFault
  /-- The memory backend has no store of versions. -/
  | noVersionStore
  | noModules
  | rateLimited
  | raised (point : UploadPoint)
deriving DecidableEq, Repr

/-- The checks before anything is read of the request. -/
def admitUpload (fault : Option UploadFault) : Except HttpException Unit :=
  match fault with
  | some .noVersionStore =>
    .error ⟨503, "Tool version store is not configured (memory backend)."⟩
  | some .noModules => .error ⟨503, "Application modules are not configured."⟩
  | some .rateLimited => .error ⟨429,
      "TENANT_UPLOAD_RATE_LIMIT_EXCEEDED: too many tool uploads in the current window"⟩
  | some (.raised .admission) => .error internalServerError
  | _ => .ok ()

namespace ToolVersionUploadRequest

variable (body : ToolVersionUploadRequest)

/-- `provided_handler_source`. -/
def handlerSource : String :=
  let bundled := (body.packageBundle.map fun bundle ↦ Text.strip bundle.handlerPy).getD ""
  if bundled = "" then Text.strip body.inlineHandlerSource else bundled

/-- `rendered_tool_yaml`. -/
def toolYaml (manifest : ToolPackageManifest) : String :=
  let provided := (body.packageBundle.map fun bundle ↦ Text.strip bundle.toolYaml).getD ""
  if provided = "" then renderToolYaml manifest else provided

/-- The key that an upload is filed under. -/
def key (tenantId : String) : BundleKey := ⟨tenantId, body.manifest.toolName, body.manifest.version⟩

end ToolVersionUploadRequest

/-- An upload of the tool `greet` with the given handler. -/
def greetUpload (handlerPy : String) : ToolVersionUploadRequest where
  manifest := { toolName := "greet", version := "1.0" }
  packageBundle := some { toolYaml := "tool_name: greet", handlerPy := handlerPy }

/-- What is left of a file that could not be written. -/
def leaveFile (path : String) (left : Option String) (files : Files) : Files :=
  match left with
  | none => files
  | some text => files.set path text

/-- `persist_bundle`, which may be interrupted. -/
def writeBundle (fault : Option UploadFault) (store : FileSystemToolArtifactStore) (key : BundleKey)
    (toolYaml handlerPy : String) (files : Files) :
    Except HttpException ToolArtifactBundlePaths × Files :=
  match fault with
  | some (.raised .makeDirectory) => (.error internalServerError, files)
  | some (.raised (.writeManifest left)) =>
    (.error internalServerError, leaveFile (store.paths key).manifestPath left files)
  | some (.raised (.writeHandler left)) =>
    (.error internalServerError, leaveFile (store.paths key).handlerPath left
      (files.set (store.paths key).manifestPath toolYaml))
  | _ =>
    let (paths, files) := store.persistBundle key toolYaml handlerPy files
    (.ok paths, files)

namespace ToolPlatform

/-- `normalized_metadata`.  Limits that cannot be read are kept as they are. -/
def normalizedMetadata (metadata : Dict String Value) :
    Except HttpException (Dict String Value) :=
  match normalizeManifestMetadata P.texts metadata with
  | .ok normalized => .ok normalized
  | .error (.valueError _) => .ok metadata
  | .error (.other _) => .error internalServerError

/-- The manifest that is made of the payload. -/
def packageManifest (payload : ToolPackageManifestPayload) :
    Except HttpException ToolPackageManifest := do
  let metadata ← P.normalizedMetadata payload.metadata
  return {
    toolName := payload.toolName
    version := payload.version
    description := payload.description
    inputSchema := payload.inputSchema
    timeoutMs := payload.timeoutMs
    riskTier := P.texts.riskTierValue payload.riskTier
    entryFile := payload.entryFile
    entrypoint := payload.entrypoint
    requirements := payload.requirements
    metadata := metadata }

/-- The manifest of an upload that is admitted. -/
def admittedManifest (fault : Option UploadFault) (body : ToolVersionUploadRequest) :
    Except HttpException ToolPackageManifest := do
  admitUpload fault
  P.packageManifest body.manifest

/-- The metadata of a bundle that was persisted, with its signature. -/
def signedManifest (manifest : ToolPackageManifest) (persisted : ToolArtifactBundlePaths)
    (toolYaml handlerPy : String) : Except HttpException ToolPackageManifest := do
  let metadata := ((manifest.metadata.set
    artifactBundleDirMetadataKey (.str persisted.bundleDir)).set
    artifactManifestPathMetadataKey (.str persisted.manifestPath)).set
    artifactHandlerPathMetadataKey (.str persisted.handlerPath)
  let signingSecret := Text.strip P.artifactSigningSecret
  let bundleHash := P.digests.computeBundleHash toolYaml handlerPy
  let bundleSignature ← (P.digests.signBundleHash bundleHash signingSecret
    defaultArtifactSignatureVersion).mapError (ofToolError 503)
  return { manifest with
    metadata := ((metadata.set
      artifactBundleHashMetadataKey (.str bundleHash)).set
      artifactBundleSignatureMetadataKey (.str bundleSignature)).set
      artifactSignatureVersionMetadataKey (.str defaultArtifactSignatureVersion) }

/-- The bundle of an upload, if there is one, is persisted and signed. -/
def fileBundle (fault : Option UploadFault) (tenantId : String) (body : ToolVersionUploadRequest)
    (manifest : ToolPackageManifest) (files : Files) :
    Except HttpException ToolPackageManifest × Files :=
  if body.handlerSource = "" then (.ok manifest, files)
  else
    match P.artifactStore with
    | none => (.error ⟨503, "Tool artifact store is not configured."⟩, files)
    | some store =>
      match writeBundle fault store ⟨tenantId, manifest.toolName, manifest.version⟩
          (body.toolYaml manifest) body.handlerSource files with
      | (.error error, files) => (.error error, files)
      | (.ok persisted, files) =>
        (P.signedManifest manifest persisted (body.toolYaml manifest) body.handlerSource, files)

/-- The record that is filed, with what the policy for packages and the validation have found. -/
def uploadedRecord (tenantId : String) (body : ToolVersionUploadRequest)
    (manifest : ToolPackageManifest) (now : String) : Except HttpException ToolVersionRecord := do
  let artifactSizeBytes : Int :=
    if body.artifactSizeBytes ≤ 0 ∧ body.handlerSource ≠ "" then body.handlerSource.utf8ByteSize
    else body.artifactSizeBytes
  let policyDecision :=
    validateToolPackageUpload P.texts manifest body.packageRef artifactSizeBytes P.limits
  let validation ← (validationForManifest P.texts P.digests P.host manifest
    body.handlerSource).mapError fun _ ↦ internalServerError
  let errors := validation.errors ++ policyDecision.errors
  let validation := { validation with
    errors := errors
    warnings := validation.warnings ++ policyDecision.warnings
    state := if errors = [] then validation.state else .invalid }
  return {
    tenantId := tenantId
    toolName := manifest.toolName
    version := manifest.version
    manifest := manifest
    validation := some validation
    packageRef := body.packageRef
    active := false
    createdAt := now }

/-- The active version is projected and read back. -/
def finishActivation (fault : Option UploadFault) (record : ToolVersionRecord) (s : ToolSystem η) :
    Except HttpException ToolValidationResponse × ToolSystem η :=
  match fault with
  | some (.raised .readActive) | some (.raised .projectActive) => (.error internalServerError, s)
  | _ =>
    match P.syncActiveToolDescriptor record.tenantId record.toolName s with
    | (.error error, s) => (.error error, s)
    | (.ok (), s) =>
      if fault = some (.raised .readVersion) then (.error internalServerError, s)
      else
        match s.versionStore.getVersion record.tenantId record.toolName record.version with
        | some activeRecord => (P.toValidationResponse s.files activeRecord, s)
        | none => (P.toValidationResponse s.files record, s)

/-- A version that was filed is activated, unless it is invalid. -/
def activateUpload (fault : Option UploadFault) (record : ToolVersionRecord) (s : ToolSystem η) :
    Except HttpException ToolValidationResponse × ToolSystem η :=
  if record.validation.map ToolValidationResult.state = some .invalid then
    (P.toValidationResponse s.files record, s)
  else
    match P.project s.files record with
    | .error error => (.error (ofToolError 422 error), s)
    | .ok _ =>
      if fault = some (.raised .setActive) then (.error internalServerError, s)
      else
        P.finishActivation fault record { s with
          versionStore := s.versionStore.setActive record.tenantId record.toolName record.version }

/-- `upload_tool_package`, at a time that is given by its text. -/
def uploadToolPackage (fault : Option UploadFault) (tenantId : String)
    (body : ToolVersionUploadRequest) (now : String) (s : ToolSystem η) :
    Except HttpException ToolValidationResponse × ToolSystem η :=
  match P.admittedManifest fault body with
  | .error error => (.error error, s)
  | .ok manifest =>
    match P.fileBundle fault tenantId body manifest s.files with
    | (.error error, files) => (.error error, { s with files := files })
    | (.ok manifest, files) =>
      match P.uploadedRecord tenantId body manifest now with
      | .error error => (.error error, { s with files := files })
      | .ok record =>
        if fault = some (.raised .saveVersion) then
          (.error internalServerError, { s with files := files })
        else
          let s := { s with files := files, versionStore := s.versionStore.save record }
          if fault = some (.raised .audit) then (.error internalServerError, s)
          else if body.activate = true then P.activateUpload fault record s
          else (P.toValidationResponse s.files record, s)

/-! ## The other endpoints -/

/-- The descriptor of a tool that is registered. -/
def registeredDescriptor (body : ToolRegisterRequest) (handler : η) : ToolDescriptor η where
  name := body.name
  handler := handler
  riskTier := body.riskTier
  isStateChanging := body.isStateChanging
  timeoutMs := body.timeoutMs
  description := body.description
  parametersSchema := body.parametersSchema
  metadata := Dict.empty.set "handler_ref" (.str body.handlerRef)

/-- The record of a tool that is registered. -/
def registeredRecord (tenantId handlerRef : String) (descriptor : ToolDescriptor η) :
    PersistedToolRecord where
  name := descriptor.name
  handlerRef := handlerRef
  tenantId := tenantId
  riskTier := P.texts.riskTierValue descriptor.riskTier
  isStateChanging := descriptor.isStateChanging
  timeoutMs := descriptor.timeoutMs
  description := descriptor.description
  parametersSchema := descriptor.parametersSchema
  metadata := descriptor.metadata

/-- `register_tool`. -/
def registerTool (tenantId : String) (body : ToolRegisterRequest) (s : ToolSystem η) :
    Except HttpException ToolResponse × ToolSystem η :=
  if body.name ∈ s.registry.keys then
    (.error ⟨409, "Tool '" ++ body.name ++ "' is already registered"⟩, s)
  else
    match P.host.resolveHandler body.handlerRef with
    | .error error => (.error (ofToolError 422 error), s)
    | .ok handler =>
      let descriptor := registeredDescriptor body handler
      let record := P.registeredRecord tenantId body.handlerRef descriptor
      (.ok (descriptorToResponse descriptor), { s with
        registry := s.registry.set descriptor.name descriptor
        toolStore := s.toolStore.saveTool tenantId record })

/-- `deactivate_tool_version`. -/
def deactivateToolVersion (tenantId toolName version : String) (s : ToolSystem η) :
    Except HttpException ToolGovernanceResponse × ToolSystem η :=
  match s.versionStore.getActive tenantId toolName with
  | none => (.error ⟨404, "No active version for tool '" ++ toolName ++ "'."⟩, s)
  | some active =>
    if active.version ≠ version then
      (.error ⟨409, "Version '" ++ version ++ "' is not active for tool '" ++ toolName ++
        "'. Active is '" ++ active.version ++ "'."⟩, s)
    else
      match P.syncActiveToolDescriptor tenantId toolName
          { s with versionStore := s.versionStore.clearActive tenantId toolName } with
      | (.error error, s) => (.error error, s)
      | (.ok (), s) => (.ok {
          tenantId := tenantId
          toolName := toolName
          version := version
          action := "deactivate" }, s)

/-- `rollback_tool_version`. -/
def rollbackToolVersion (tenantId toolName targetVersion : String) (s : ToolSystem η) :
    Except HttpException ToolGovernanceResponse × ToolSystem η :=
  match s.versionStore.getVersion tenantId toolName targetVersion with
  | none => (.error ⟨404, "Target rollback version '" ++ targetVersion ++
      "' was not found for tool '" ++ toolName ++ "'."⟩, s)
  | some target =>
    if target.validation.map ToolValidationResult.state = some .invalid then
      (.error ⟨409, "Target rollback version '" ++ targetVersion ++
        "' is invalid and cannot be activated."⟩, s)
    else
      match P.project s.files target with
      | .error error => (.error (ofToolError 422 error), s)
      | .ok _ =>
        match P.syncActiveToolDescriptor tenantId toolName
            { s with versionStore := s.versionStore.setActive tenantId toolName targetVersion } with
        | (.error error, s) => (.error error, s)
        | (.ok (), s) => (.ok {
            tenantId := tenantId
            toolName := toolName
            version := targetVersion
            action := "rollback"
            activeVersion := targetVersion }, s)

/-- `revoke_tool_package_version`. -/
def revokeToolPackageVersion (tenantId toolName version : String) (force : Bool)
    (s : ToolSystem η) : Except HttpException ToolGovernanceResponse × ToolSystem η :=
  match s.versionStore.getVersion tenantId toolName version with
  | none => (.error ⟨404, "Tool version not found: " ++ toolName ++ "@" ++ version⟩, s)
  | some record =>
    if record.active = true ∧ force = false then
      (.error ⟨409, "Tool version '" ++ version ++
        "' is active; deactivate or use force=true to revoke."⟩, s)
    else
      let cleared :=
        if record.active = true ∧ force = true then s.versionStore.clearActive tenantId toolName
        else s.versionStore
      match P.syncActiveToolDescriptor tenantId toolName
          { s with versionStore := cleared.delete tenantId toolName version } with
      | (.error error, s) => (.error error, s)
      | (.ok (), s) => (.ok {
          tenantId := tenantId
          toolName := toolName
          version := version
          action := "revoke"
          activeVersion := ((s.versionStore.getActive tenantId toolName).map
            ToolVersionRecord.version).getD ""
          revoked := true }, s)

end ToolPlatform

/-- `unregister_tool`. -/
def unregisterTool (tenantId name : String) (s : ToolSystem η) :
    Except HttpException Unit × ToolSystem η :=
  if name ∉ s.registry.keys then (.error ⟨404, "Tool '" ++ name ++ "' not found"⟩, s)
  else (.ok (), { s with
    registry := s.registry.erase name
    toolStore := s.toolStore.deleteTool tenantId name })

end Api
end ExoBrain
