import ExoBrain.Audit.Trail

/-!
# Signed evidence bundles

`evidence_bundle.py` signs the JSON text of a payload under a secret.  There is a secret for each
version of the signature: `build_signing_keyring` collects them, and `resolve_signing_secret` and
`verify_signed_bundle_with_keyring` choose from them.

* `IsKeyring` says what every keyring that was built is like: versions and secrets are stripped and
  not empty.
* `get?_resolveSigningSecret`: what is chosen to sign with is in the keyring.
* `verifySignedBundleWithKeyring_signed`: a signature verifies under every keyring that has the secret
  for its version.
-/

set_option autoImplicit false

namespace ExoBrain
namespace Audit

open Tools (Digests IsHexDigest ToolError compareDigest)

/-! ## Signatures -/

section
variable (D : Digests)

/-- `sign_bundle_payload`. -/
def signBundlePayload (payload : Payload) (secret : String) : String :=
  let canonical := Json.dumps Json.compact (.dict payload)
  D.hmacSha256 secret canonical

/-- `verify_signed_bundle_payload`. -/
def verifySignedBundlePayload (payload : Payload) (signature secret : String) :
    Except ToolError Bool :=
  let expected := signBundlePayload D payload secret
  compareDigest expected signature

variable {D}

theorem signBundlePayload_congr {payload payload' : Payload} (h : SamePayload payload payload')
    (secret : String) : signBundlePayload D payload secret = signBundlePayload D payload' secret := by
  rw [signBundlePayload, signBundlePayload, Json.dumps_congr Json.compact h]

/-- **What was signed verifies**, in any order of the keys. -/
theorem verifySignedBundlePayload_signed {payload payload' : Payload}
    (h : SamePayload payload payload') (secret : String) :
    verifySignedBundlePayload D payload' (signBundlePayload D payload secret) secret = .ok true :=
  (D.hmacSha256_hex _ _).compareDigest_eq_true.mpr (signBundlePayload_congr h secret).symm

/-- A signature has no blanks around it. -/
theorem strip_signBundlePayload (payload : Payload) (secret : String) :
    Text.strip (signBundlePayload D payload secret) = signBundlePayload D payload secret :=
  (D.hmacSha256_hex _ _).strip_eq

end

/-! ## Keyrings -/

/-- One step of the loop of `build_signing_keyring`. -/
def addSecret (keyring : Dict String String) (entry : String × String) : Dict String String :=
  let ver := Text.strip entry.1
  let sec := Text.strip entry.2
  if ver ≠ "" ∧ sec ≠ "" then keyring.set ver sec else keyring

/-- `build_signing_keyring`. -/
def buildSigningKeyring (legacySecret : String) (versionedSecrets : Dict String String) :
    Dict String String :=
  let keyring := versionedSecrets.entries.foldl addSecret Dict.empty
  let legacy := Text.strip legacySecret
  if legacy ≠ "" ∧ "v1" ∉ keyring.keys then keyring.set "v1" legacy else keyring

/-- `keyring[version]`, for a version that is there. -/
def secretOf (keyring : Dict String String) (version : String) : String :=
  (keyring.get? version).getD ""

/-- `resolve_signing_secret`: the version and the secret to sign with. -/
def resolveSigningSecret (activeVersion : String) (keyring : Dict String String) :
    String × String :=
  let target := if Text.strip activeVersion ≠ "" then Text.strip activeVersion else "v1"
  if target ∈ keyring.keys ∧ Text.strip (secretOf keyring target) ≠ "" then
    (target, Text.strip (secretOf keyring target))
  else if "v1" ∈ keyring.keys ∧ Text.strip (secretOf keyring "v1") ≠ "" then
    ("v1", Text.strip (secretOf keyring "v1"))
  else
    match (Text.sortedTexts keyring.keys).find? fun version ↦
      Text.strip (secretOf keyring version) ≠ "" with
    | some version => (version, Text.strip (secretOf keyring version))
    | none => (target, "")

section
variable (D : Digests)

/-- The loop over the versions in `verify_signed_bundle_with_keyring`. -/
def firstVerifying (payload : Payload) (signature : String) (keyring : Dict String String) :
    (versions : List String) → Except ToolError (Bool × String)
  | [] => return (false, "")
  | version :: versions => do
    if ← verifySignedBundlePayload D payload signature (secretOf keyring version) then
      return (true, version)
    firstVerifying payload signature keyring versions

/-- `verify_signed_bundle_with_keyring`: whether the signature verifies, and with which version. -/
def verifySignedBundleWithKeyring (payload : Payload) (signature declaredVersion : String)
    (keyring : Dict String String) : Except ToolError (Bool × String) := do
  let declared := Text.strip declaredVersion
  if declared ≠ "" ∧ declared ∈ keyring.keys then
    return (← verifySignedBundlePayload D payload signature (secretOf keyring declared), declared)
  if declared = "" ∧ "v1" ∈ keyring.keys then
    if ← verifySignedBundlePayload D payload signature (secretOf keyring "v1") then
      return (true, "v1")
  firstVerifying D payload signature keyring (Text.sortedTexts keyring.keys)

end

/-! ### What every keyring is like -/

/-- Versions and secrets are stripped, and there is something left of them. -/
def IsKeyring (keyring : Dict String String) : Prop :=
  ∀ version secret, keyring.get? version = some secret →
    (Text.strip version = version ∧ version ≠ "") ∧ Text.strip secret = secret ∧ secret ≠ ""

theorem isKeyring_set {keyring : Dict String String} (h : IsKeyring keyring) {version secret : String}
    (hversion : Text.strip version = version ∧ version ≠ "")
    (hsecret : Text.strip secret = secret ∧ secret ≠ "") : IsKeyring (keyring.set version secret) :=
  Dict.forall_get?_set ⟨hversion, hsecret⟩ h

theorem isKeyring_addSecret {keyring : Dict String String} (h : IsKeyring keyring)
    (entry : String × String) : IsKeyring (addSecret keyring entry) := by
  rw [addSecret]
  split
  · rename_i hboth
    exact isKeyring_set h ⟨Text.strip_strip _, hboth.1⟩ ⟨Text.strip_strip _, hboth.2⟩
  · exact h

/-- **Every keyring that is built is stripped.** -/
theorem isKeyring_buildSigningKeyring (legacySecret : String)
    (versionedSecrets : Dict String String) :
    IsKeyring (buildSigningKeyring legacySecret versionedSecrets) := by
  have hloop : IsKeyring (versionedSecrets.entries.foldl addSecret Dict.empty) := by
    refine List.foldlRecOn _ addSecret (fun version secret h ↦ (nomatch h)) ?_
    exact fun keyring h entry _ ↦ isKeyring_addSecret h entry
  rw [buildSigningKeyring]
  split
  · rename_i hlegacy
    exact isKeyring_set hloop (by decide) ⟨Text.strip_strip _, hlegacy.1⟩
  · exact hloop

section
variable {keyring : Dict String String} {version : String}

/-- A secret of a keyring is stripped already. -/
theorem secretOf_of_mem (h : IsKeyring keyring) (hmem : version ∈ keyring.keys) :
    keyring.get? version = some (Text.strip (secretOf keyring version)) ∧
      Text.strip (secretOf keyring version) ≠ "" := by
  obtain ⟨secret, hsecret⟩ := Dict.mem_keys_iff.mp hmem
  obtain ⟨-, hstrip, hne⟩ := h version secret hsecret
  rw [secretOf, hsecret, Option.getD_some, hstrip]
  exact ⟨rfl, hne⟩

/-- **A keyring that is not empty has the version and the secret to sign with**, whichever version is
active. -/
theorem get?_resolveSigningSecret (h : IsKeyring keyring) (hne : keyring.keys ≠ [])
    (activeVersion : String) :
    keyring.get? (resolveSigningSecret activeVersion keyring).1 =
      some (resolveSigningSecret activeVersion keyring).2 := by
  rw [resolveSigningSecret]
  generalize (if Text.strip activeVersion ≠ "" then Text.strip activeVersion else "v1") = target
  split
  · rename_i htarget
    exact (secretOf_of_mem h htarget.1).1
  · split
    · rename_i hv1
      exact (secretOf_of_mem h hv1.1).1
    · split
      · rename_i version hfind
        have hmem := List.mem_mergeSort.mp (List.mem_of_find?_eq_some hfind)
        exact (secretOf_of_mem h hmem).1
      · rename_i hfind
        obtain ⟨version, versions, hkeys⟩ := List.exists_cons_of_ne_nil hne
        have hmem : version ∈ keyring.keys := hkeys ▸ List.mem_cons_self
        have hblank := List.find?_eq_none.mp hfind version (List.mem_mergeSort.mpr hmem)
        exact absurd (decide_eq_true (secretOf_of_mem h hmem).2) hblank

/-- **A signature verifies under every keyring that has the secret for its version.** -/
theorem verifySignedBundleWithKeyring_signed {D : Digests} (h : IsKeyring keyring) {secret : String}
    (hsecret : keyring.get? version = some secret) {payload payload' : Payload}
    (hsame : SamePayload payload payload') :
    verifySignedBundleWithKeyring D payload' (signBundlePayload D payload secret) version keyring =
      .ok (true, version) := by
  obtain ⟨⟨hstrip, hne⟩, -⟩ := h version secret hsecret
  have hmem : version ∈ keyring.keys := Dict.mem_keys_iff.mpr ⟨secret, hsecret⟩
  have hheld : secretOf keyring version = secret := by rw [secretOf, hsecret, Option.getD_some]
  rw [verifySignedBundleWithKeyring, hstrip, if_pos ⟨hne, hmem⟩, hheld,
    verifySignedBundlePayload_signed hsame]
  rfl

end

end Audit
end ExoBrain
