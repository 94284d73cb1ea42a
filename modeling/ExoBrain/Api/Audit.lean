import ExoBrain.Api.Tools
import ExoBrain.Audit.EvidenceBundle
import ExoBrain.Tools.Executor

/-!
# The endpoints of the audit

`audit.py` exports the audit records of a tenant as a signed bundle, and verifies a bundle that is
sent back to it or was left in the export directory.

* `buildSignedExportBundle` is the bundle, and `unsignedBundle` all of it but the signature.
* `verifyAuditBundle` reads the bundle that a request names (`requestedBundle`), and then checks its
  signature and its chain (`verifyBundle`).

That the module is configured and that the identity is entitled to signed audits is checked before.
What nothing catches is answered with 500.
-/

set_option autoImplicit false

namespace ExoBrain
namespace Api

open Audit Checks
open Tools (Digests listOf)

/-! ## Settings and requests -/

/-- What the endpoints use of Python besides JSON. -/
structure AuditRuntime where
  digests : Digests
  /-- The characters beyond ASCII that `repr` leaves as they are. -/
  isPrintable : Char → Bool
  /-- `repr(float(text))`. -/
  showFloat : String → String
  /-- `dict(v)`, for what is no dictionary, if it raises nothing. -/
  dictObject : Value → Option Payload
  /-- `list(v)`, for an object that is of none of the built-in classes. -/
  listObject : Value → Except Tools.Raised (List Value)

/-- `AuditObservabilityModule`, what the export and its verification use of it. -/
structure AuditObservabilityModule where
  auditExportDirectory : String
  auditBundleSigningSecret : String
  auditBundleSigningActiveVersion : String
  auditBundleSigningSecretsByVersion : Dict String String

/-- The secrets that the module is configured with. -/
def AuditObservabilityModule.keyring (M : AuditObservabilityModule) : Dict String String :=
  buildSigningKeyring M.auditBundleSigningSecret M.auditBundleSigningSecretsByVersion

/-- The version that a bundle is signed with. -/
def AuditObservabilityModule.signatureVersion (M : AuditObservabilityModule) : String :=
  (resolveSigningSecret M.auditBundleSigningActiveVersion M.keyring).1

/-- The secret that a bundle is signed with. -/
def AuditObservabilityModule.signingSecret (M : AuditObservabilityModule) : String :=
  (resolveSigningSecret M.auditBundleSigningActiveVersion M.keyring).2

/-- The files, by the segments of their paths. -/
structure ExportFiles where
  /-- `Path(text).resolve().parts`. -/
  resolve : (text : String) → List String
  files : Dict (List String) String
  isDirectory : List String → Bool

/-- `AuditRecord`. -/
structure AuditRecord where
  eventId : String
  correlationId : String
  tenantId : String := "default"
  eventType : String := ""
  payload : Payload := []

/-- `AuditVerifyRequest`. -/
structure AuditVerifyRequest where
  filePath : String := ""
  bundle : Payload := []

/-- `AuditVerifyResponse`. -/
structure AuditVerifyResponse where
  tenantId : String
  signatureVersion : String := ""
  verifiedWithVersion : String := ""
  signatureValid : Bool
  chainValid : Bool
  verified : Bool
  reason : String := ""
deriving DecidableEq, Repr

/-! ## The export -/

/-- `_record_to_response(record).model_dump()`. -/
def recordToResponse (record : AuditRecord) : Payload :=
  [("event_id", .str record.eventId), ("correlation_id", .str record.correlationId),
    ("tenant_id", .str record.tenantId), ("event_type", .str record.eventType),
    ("payload", .dict record.payload)]

/-- A row of `chain_input_rows`. -/
def chainInputRow (record : AuditRecord) : Payload :=
  [("event_id", .str record.eventId), ("correlation_id", .str record.correlationId),
    ("tenant_id", .str record.tenantId), ("event_type", .str record.eventType),
    ("payload", .dict record.payload)]

/-- `Counter(str(record.event_type or "unknown") for record in records)`. -/
def eventTypeCounts (records : List AuditRecord) : Dict String Nat :=
  records.foldl (fun counts record ↦
    counts.increment (if record.eventType ≠ "" then record.eventType else "unknown")) Dict.empty

/-- What `_build_signed_export_bundle` signs. -/
def unsignedBundle (D : Digests) (M : AuditObservabilityModule) (tenantId : String)
    (records : List AuditRecord) (exportedAtUtc : String) : Payload :=
  let eventRows := records.map fun record ↦ Value.dict (recordToResponse record)
  let chainInputRows := records.map chainInputRow
  let (chainValid, lastHash) := computeAuditChainFingerprint D chainInputRows
  let counts := eventTypeCounts records
  let payload : Payload :=
    [("tenant_id", .str tenantId), ("record_count", .int records.length),
      ("chain_valid", .bool chainValid), ("last_record_hash", .str lastHash),
      ("event_type_counts", .dict (counts.entries.map fun e ↦ (e.1, .int e.2))),
      ("records", .list eventRows), ("exported_at_utc", .str exportedAtUtc)]
  Value.assign "signature_version" (.str M.signatureVersion) payload

/-- `_build_signed_export_bundle`. -/
def buildSignedExportBundle (D : Digests) (M : AuditObservabilityModule) (tenantId : String)
    (records : List AuditRecord) (exportedAtUtc : String) : Payload :=
  let payload := unsignedBundle D M tenantId records exportedAtUtc
  Value.assign "signature" (.str (signBundlePayload D payload M.signingSecret)) payload

/-! ## The verification -/

/-- `payload.pop(key, None)`. -/
def popKey (key : String) (entries : Payload) : Payload := entries.filter fun e ↦ e.1 ≠ key

/-- The directories that a path is in. -/
def parents (path : List String) : List (List String) := path.inits.dropLast

section
variable (R : AuditRuntime)

/-- `str(entries.get(key, ""))`. -/
def textOf (key : String) (entries : Payload) : String :=
  ((Value.lookup key entries).map (Value.toStr R.isPrintable)).getD ""

/-- `dict(v)`. -/
def dictOf : Value → Except HttpException Payload
  | .dict entries => .ok entries
  | v => require (R.dictObject v) internalServerError

/-- A row of `chain_rows`.  Only a dictionary has a `get`. -/
def chainRow : (row : Value) → Except HttpException Payload
  | .dict row => do
    let payload ← dictOf R ((Value.lookup "payload" row).getD (.dict []))
    return [("event_id", .str (textOf R "event_id" row)),
      ("correlation_id", .str (textOf R "correlation_id" row)),
      ("tenant_id", .str (textOf R "tenant_id" row)),
      ("event_type", .str (textOf R "event_type" row)), ("payload", .dict payload)]
  | _ => .error internalServerError

/-- The bundle that a request names, or has in it. -/
def requestedBundle (M : AuditObservabilityModule) (F : ExportFiles) (body : AuditVerifyRequest) :
    Except HttpException Payload :=
  if Text.strip body.filePath ≠ "" then do
    let exportDir := F.resolve M.auditExportDirectory
    let candidate := F.resolve body.filePath
    check (exportDir = candidate ∨ exportDir ∈ parents candidate)
      ⟨400, "file_path must be inside audit export directory."⟩
    match F.files.get? candidate with
    | some contents =>
      match Json.loads R.showFloat (Text.universalNewlines contents) with
      | some (.dict entries) => return entries
      | _ => .error internalServerError
    | none =>
      check (F.isDirectory candidate = true) ⟨404, "Audit export file not found."⟩
      .error internalServerError
  else if body.bundle ≠ [] then .ok body.bundle
  else .error ⟨422, "Either file_path or bundle payload must be provided."⟩

/-- What `verify_audit_bundle` answers about a bundle. -/
def verifyBundle (M : AuditObservabilityModule) (tenantId : String) (bundleData : Payload) :
    Except HttpException AuditVerifyResponse := do
  if textOf R "tenant_id" bundleData ≠ tenantId then
    return { tenantId := tenantId, signatureVersion := textOf R "signature_version" bundleData
             signatureValid := false, chainValid := false, verified := false
             reason := "TENANT_MISMATCH" }
  let signature := Text.strip (textOf R "signature" bundleData)
  let declaredSignatureVersion := Text.strip (textOf R "signature_version" bundleData)
  let payloadWithoutSignature := popKey "signature" bundleData
  let (signatureValid, verifiedWithVersion) ←
    (verifySignedBundleWithKeyring R.digests payloadWithoutSignature signature
      declaredSignatureVersion M.keyring).mapError fun _ ↦ internalServerError
  let rows ← (listOf R.listObject ((Value.lookup "records" bundleData).getD (.list []))).mapError
    fun _ ↦ internalServerError
  let chainRows ← rows.mapM (chainRow R)
  let (computedChainValid, computedLastHash) := computeAuditChainFingerprint R.digests chainRows
  let declaredChainValid := ((Value.lookup "chain_valid" bundleData).map Value.truth).getD false
  let declaredLastHash := textOf R "last_record_hash" bundleData
  let chainValid :=
    computedChainValid && declaredChainValid && decide (computedLastHash = declaredLastHash)
  let verified := signatureValid && chainValid
  return { tenantId := tenantId, signatureVersion := declaredSignatureVersion
           verifiedWithVersion := verifiedWithVersion, signatureValid := signatureValid
           chainValid := chainValid, verified := verified
           reason := if verified = true then "" else "AUDIT_BUNDLE_VERIFICATION_FAILED" }

/-- `verify_audit_bundle`. -/
def verifyAuditBundle (M : AuditObservabilityModule) (F : ExportFiles) (tenantId : String)
    (body : AuditVerifyRequest) : Except HttpException AuditVerifyResponse := do
  let bundleData ← requestedBundle R M F body
  verifyBundle R M tenantId bundleData

end

end Api
end ExoBrain
