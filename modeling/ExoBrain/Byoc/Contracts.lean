import ExoBrain.Lib.Text

/-!
# Job and result envelopes

The data that travels between the control plane and the pull workers (`job_contracts.py`), and the
one check that compares a result with the job it answers (`integrity_verifier.py`).

`ByocToolJobEnvelope` is split in two.  `JobSpec` holds the fields that are fixed when the job is
created; the envelope adds the three that a claim writes.  The SQLite table has a column for every
field of `JobSpec` and none for the three others, so the split is the one the storage makes.

`arguments` and `output` are JSON objects that nothing here looks into: they are kept as their
JSON text, on which `json.dumps` and `json.loads` are the identity.

## The clock

`time.time()` is a double.  Between 2004 and 2038 its values are the multiples of `2^-22` seconds,
and adding a whole number of seconds to one is exact, so an `Epoch` counts ticks of that length:
`now + ttl` and the comparisons of the code are then the ones of the natural numbers.
-/

set_option autoImplicit false

namespace ExoBrain
namespace Byoc

open Text

/-! ## The clock -/

/-- A reading of `time.time()`, or a sum of one and a number of seconds, in ticks. -/
abbrev Epoch := Nat

/-- Ticks of the clock in one second. -/
def ticksPerSecond : Nat := 4194304

/-- `int(epoch)`. -/
def Epoch.seconds (t : Epoch) : Nat := t / ticksPerSecond

/-- `max(int(ttl), 1)` seconds, in ticks. -/
def ttlTicks (ttlSeconds : Int) : Nat := ticksPerSecond * (max ttlSeconds 1).toNat

theorem ttlTicks_pos (ttlSeconds : Int) : 0 < ttlTicks ttlSeconds := by
  have h : 1 ≤ (max ttlSeconds 1).toNat := by omega
  exact Nat.mul_pos (by decide) h

/-! ## Envelopes -/

/-- The fields of `ByocToolJobEnvelope` that never change after the job is created. -/
structure JobSpec where
  jobId : String
  tenantId : String
  runId : String
  callId : String
  toolName : String
  arguments : String := "\x7b\x7d"
  timeoutMs : Int := 30000
  correlationId : String := ""
  idempotencyKey : String := ""
  toolVersion : String := ""
  packageRef : String := ""
  entryFile : String := ""
  entrypoint : String := ""
  artifactBundleHashSha256 : String := ""
  artifactBundleSignatureHmacSha256 : String := ""
  artifactSignatureVersion : String := ""
deriving DecidableEq, Repr

/-- `ByocToolJobEnvelope`: a job, and the lease fields that a claim fills in. -/
structure ByocToolJobEnvelope extends JobSpec where
  leaseToken : String := ""
  leaseExpiresAtEpoch : Nat := 0
  claimAttempt : Nat := 0
deriving DecidableEq, Repr

/-- `ByocToolResultEnvelope`. -/
structure ByocToolResultEnvelope where
  jobId : String
  tenantId : String
  runId : String
  callId : String
  toolName : String
  status : String := "success"
  output : String := "\x7b\x7d"
  errorCode : String := ""
  errorMessage : String := ""
  retryable : Bool := false
  idempotencyKey : String := ""
  leaseToken : String := ""
  toolVersion : String := ""
  artifactBundleHashSha256 : String := ""
  artifactBundleSignatureHmacSha256 : String := ""
  artifactSignatureVersion : String := ""
deriving DecidableEq, Repr

/-! ## Artifact identity -/

/-- `verify_result_artifact_metadata`: the reason code of the first mismatch between the artifact
a job declares and the one its result reports, or the empty string. -/
def verifyResultArtifactMetadata (expectedJob : JobSpec)
    (submittedResult : ByocToolResultEnvelope) : String :=
  let expectedVersion := strip expectedJob.artifactSignatureVersion
  let submittedVersion := strip submittedResult.artifactSignatureVersion
  let expectedHash := strip expectedJob.artifactBundleHashSha256
  let submittedHash := strip submittedResult.artifactBundleHashSha256
  let expectedSig := strip expectedJob.artifactBundleSignatureHmacSha256
  let submittedSig := strip submittedResult.artifactBundleSignatureHmacSha256
  if expectedVersion ≠ "" ∧ submittedVersion ≠ "" ∧ expectedVersion ≠ submittedVersion then
    "BYOC_ARTIFACT_SIGNATURE_VERSION_MISMATCH"
  else if expectedHash ≠ "" ∧ submittedHash ≠ "" ∧ expectedHash ≠ submittedHash then
    "BYOC_ARTIFACT_INTEGRITY_MISMATCH"
  else if expectedSig ≠ "" ∧ submittedSig ≠ "" ∧ expectedSig ≠ submittedSig then
    "BYOC_ARTIFACT_INTEGRITY_MISMATCH"
  else if expectedHash ≠ "" ∧ submittedHash = "" then
    "BYOC_ARTIFACT_INTEGRITY_MISSING"
  else if expectedSig ≠ "" ∧ submittedSig = "" then
    "BYOC_ARTIFACT_INTEGRITY_MISSING"
  else ""

end Byoc
end ExoBrain
