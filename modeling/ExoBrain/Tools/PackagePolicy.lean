import ExoBrain.Lib.Decimal
import ExoBrain.Tools.VersionProjection

/-!
# What is checked of an uploaded package

The manifest of a package may set limits of the sandbox (`user_tool_contracts.py`), and its size, its
reference and its requirements are checked against the limits of the platform
(`tool_package_policy.py`).  Nothing of this stops an upload: the errors are filed with the version,
which is then invalid.

* `parseSandboxLimits` and `normalizeManifestMetadata` read and rewrite the metadata.
* `validateToolPackageUpload` collects errors and warnings.
* `validationForManifest` (`tools.py`) does the same for the manifest and the source of the handler.
-/

set_option autoImplicit false

namespace ExoBrain
namespace Tools

open Policies (IngressTexts)
open Checks

/-- What tools do with texts. -/
structure ToolTexts extends IngressTexts where
  /-- `int(text)`, if it raises no `ValueError`. -/
  parseInt : String → Option Int
  /-- `json.dumps(schema, sort_keys=True, separators=(",", ":"))`. -/
  stableJson : Dict String Value → String

/-- Texts of ASCII, where no text is a number and every schema has the text of the empty one. -/
def asciiTools : ToolTexts where
  toIngressTexts := Policies.asciiSystem.toIngressTexts
  parseInt _ := none
  stableJson _ := "\x7b\x7d"

/-! ## Limits of the sandbox -/

/-- `SandboxLimits`. -/
structure SandboxLimits where
  cpuBudgetMs : Option Int := none
  memoryBudgetMb : Option Int := none
deriving DecidableEq, Repr

/-- `int(value)`; `none` is a `TypeError` or a `ValueError`. -/
def intOf? (T : ToolTexts) : Value → Except ToolError (Option Int)
  | .bool b => .ok (some (if b then 1 else 0))
  | .int n => .ok (some n)
  | .float text =>
    match Decimal.ofText text with
    | .number q => .ok (some (q.num.tdiv q.den))
    | .infinity _ => .error (.other "cannot convert float infinity to integer")
    | .nan => .ok none
  | .str s => .ok (T.parseInt s)
  | _ => .ok none

/-- `_parse_optional_int`. -/
def parseOptionalInt (T : ToolTexts) (key : String) (minimum maximum : Int)
    (payload : List (String × Value)) : Except ToolError (Option Int) := do
  match Value.lookup key payload with
  | none | some .none => return none
  | some value =>
    let parsed ← require (← intOf? T value) (.valueError (key ++ " must be an integer"))
    check (¬(parsed < minimum ∨ maximum < parsed))
      (.valueError (key ++ " must be between " ++ toString minimum ++ " and " ++ toString maximum))
    return some parsed

/-- `parse_sandbox_limits`. -/
def parseSandboxLimits (T : ToolTexts) (metadata : Dict String Value) :
    Except ToolError (Option SandboxLimits) := do
  match metadata.get? "sandbox_limits" with
  | none | some .none => return none
  | some rawLimits =>
    let entries ← require rawLimits.dict?
      (.valueError "metadata.sandbox_limits must be an object")
    let cpu ← parseOptionalInt T "cpu_budget_ms" 10 600000 entries
    let memory ← parseOptionalInt T "memory_budget_mb" 16 4096 entries
    return some ⟨cpu, memory⟩

/-- An integer or `None`. -/
def optionalInt (n : Option Int) : Value := (n.map Value.int).getD .none

/-- `normalize_manifest_metadata`. -/
def normalizeManifestMetadata (T : ToolTexts) (metadata : Dict String Value) :
    Except ToolError (Dict String Value) := do
  match ← parseSandboxLimits T metadata with
  | none => return metadata
  | some limits =>
    return metadata.set "sandbox_limits" (.dict
      [("cpu_budget_ms", optionalInt limits.cpuBudgetMs),
        ("memory_budget_mb", optionalInt limits.memoryBudgetMb)])

/-! ## The policy for packages -/

/-- `LimitsSettings`, as far as uploads are concerned. -/
structure UploadLimits where
  maxToolUploadSizeBytes : Int := 5000000
  allowedToolDependencyPrefixes : List String := []
deriving DecidableEq, Repr

/-- `_DANGEROUS_REQUIREMENT_TOKENS`. -/
def dangerousRequirementTokens : List String :=
  ["git+", "http://", "https://", "file:", "../", "..\\", "--index-url", "--extra-index-url", "-e "]

/-- `_DANGEROUS_PACKAGE_REF_TOKENS`. -/
def dangerousPackageRefTokens : List String := ["..", "\x00", "\n", "\r", "file://"]

/-- Errors and warnings. -/
structure PolicyFindings where
  errors : List String := []
  warnings : List String := []
deriving DecidableEq, Repr

/-- `_extract_requirement_name`. -/
def extractRequirementName (T : ToolTexts) (requirement : String) : String :=
  T.lower (String.ofList ((requirement.toList.dropWhile Text.isSpace).takeWhile isSafeChar))

/-- The errors for the size of a package. -/
def sizeFindings (artifactSizeBytes : Int) (limits : UploadLimits) : PolicyFindings :=
  let size := max artifactSizeBytes 0
  if size ≤ 0 then
    { warnings := ["artifact_size_bytes was not provided; size gate cannot be fully enforced"] }
  else if limits.maxToolUploadSizeBytes < size then
    { errors := ["artifact_size_bytes exceeds max_tool_upload_size_bytes (" ++ toString size ++
        " > " ++ toString limits.maxToolUploadSizeBytes ++ ")"] }
  else {}

/-- The errors for the reference of a package. -/
def packageRefErrors (T : ToolTexts) (packageRef : String) : List String :=
  let normalizedRef := Text.strip packageRef
  (if 2048 < normalizedRef.length then ["package_ref length exceeds 2048 characters"] else []) ++
    ((dangerousPackageRefTokens.find? fun token ↦
      Text.contains token (T.lower normalizedRef)).map fun token ↦
        "package_ref contains blocked token '" ++ token ++ "'").toList

/-- The errors for a requirement. -/
def requirementErrors (T : ToolTexts) (allowlist : List String) (rawRequirement : String) :
    List String :=
  let requirement := Text.strip rawRequirement
  let name := extractRequirementName T requirement
  ((dangerousRequirementTokens.find? fun token ↦
      Text.contains token (T.lower requirement)).map fun token ↦
        "requirement '" ++ requirement ++ "' uses blocked token '" ++ token ++ "'").toList ++
    if name = "" then ["requirement '" ++ requirement ++ "' has invalid package name format"]
    else if allowlist ≠ [] ∧ ¬(allowlist.any fun start ↦ start.toList.isPrefixOf name.toList) then
      ["requirement '" ++ requirement ++ "' is not allowed by dependency allowlist"]
    else []

/-- `validate_tool_package_upload`. -/
def validateToolPackageUpload (T : ToolTexts) (manifest : ToolPackageManifest) (packageRef : String)
    (artifactSizeBytes : Int) (limits : UploadLimits) : PolicyFindings :=
  let size := sizeFindings artifactSizeBytes limits
  let allowlist := (limits.allowedToolDependencyPrefixes.filter fun item ↦
    Text.strip item ≠ "").map fun item ↦ T.lower (Text.strip item)
  { errors := size.errors ++ packageRefErrors T packageRef ++
      manifest.requirements.flatMap (requirementErrors T allowlist)
    warnings := size.warnings }

/-! ## The manifest -/

/-- `schema_fingerprint`. -/
def schemaFingerprint (T : ToolTexts) (D : Digests) (schema : Dict String Value) : String :=
  D.sha256 (T.stableJson schema)

/-- The message of a `ValueError`, or nothing; other exceptions are raised. -/
def messageOf {α : Type} (result : Except ToolError α) : Except ToolError (List String) :=
  match result with
  | .ok _ => .ok []
  | .error (.valueError message) => .ok [message]
  | .error (.other message) => .error (.other message)

/-- What is found of the limits of the sandbox. -/
def sandboxFindings (T : ToolTexts) (manifest : ToolPackageManifest) :
    Except ToolError PolicyFindings := do
  let errors ← messageOf (parseSandboxLimits T manifest.metadata)
  let warnings :=
    match parseSandboxLimits T manifest.metadata with
    | .ok none =>
      ["metadata.sandbox_limits is not provided; hosted runtime uses platform defaults"]
    | .ok (some ⟨some cpu, _⟩) =>
      if manifest.timeoutMs < cpu then
        ["sandbox_limits.cpu_budget_ms exceeds timeout_ms and may never be reached"]
      else []
    | _ => []
  return ⟨errors, warnings⟩

/-- `_validation_for_manifest`. -/
def validationForManifest {η : Type} (T : ToolTexts) (D : Digests) (H : ToolHost η)
    (manifest : ToolPackageManifest) (inlineHandlerSource : String) :
    Except ToolError ToolValidationResult := do
  let inlineSource :=
    if Text.strip inlineHandlerSource ≠ "" then Text.strip inlineHandlerSource
    else T.textOf (manifest.metadata.get? inlineHandlerSourceMetadataKey) ""
  let sourceErrors ←
    if inlineSource ≠ "" then
      messageOf (H.validateInlineHandlerSource inlineSource manifest.entrypoint)
    else .ok []
  let sandbox ← sandboxFindings T manifest
  let errors :=
    (if Text.strip manifest.toolName = "" then ["tool_name is required"] else []) ++
    (if Text.strip manifest.version = "" then ["version is required"] else []) ++
    (if ¬".py".toList.isSuffixOf manifest.entryFile.toList then
      ["entry_file must be a .py file"] else []) ++
    (if Text.strip manifest.entrypoint = "" then ["entrypoint is required"] else []) ++
    sourceErrors ++ sandbox.errors
  let warnings := sandbox.warnings ++
    if manifest.entrypoint ≠ "run" then ["entrypoint is not the standard 'run'"] else []
  return {
    toolName := manifest.toolName
    version := manifest.version
    state := if errors = [] then .valid else .invalid
    errors := errors
    warnings := warnings
    normalizedSchemaHash := schemaFingerprint T D manifest.inputSchema }

end Tools
end ExoBrain
