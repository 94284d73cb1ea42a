import ExoBrain.Lib.HashChain
import ExoBrain.Lib.JsonRoundTrip
import ExoBrain.Tools.ArtifactStore

/-!
# The audit trail

`trail.py` chains the payloads of audit records: each is written as JSON, and hashed together with
the hash before it.  `compute_audit_chain_fingerprint` (`evidence_bundle.py`) chains a list of records
anew and keeps the last hash.

* `chainLink` is the link of these chains, and `chainLink_binds` says what a hash determines, if no
  two texts have the same one.
* `fingerprint_binds_history`: the last hash determines all records, of however many there are.

The payloads are values that JSON can write, so that `json.dumps` raises nothing.
-/

set_option autoImplicit false

namespace ExoBrain
namespace Audit

open HashChain (Entry)
open Tools (Digests IsHexDigest)

/-! ## Chains -/

/-- A payload, or a record to be hashed: a dictionary. -/
abbrev Payload := List (String × Value)

/-- `AuditChainRecord`. -/
abbrev AuditChainRecord := Entry Payload String

section
variable (D : Digests)

/-- `chain_record`. -/
def chainRecord (payload : Payload) (previousHash : String) : AuditChainRecord :=
  let serialized := Json.dumps Json.compact (.dict payload)
  let digest := D.sha256 (previousHash ++ ":" ++ serialized)
  { payload := payload, previousHash := previousHash, recordHash := digest }

/-- The loop of `verify_chain`. -/
def verifyChainAfter : (previous : String) → List AuditChainRecord → Bool
  | _, [] => true
  | previous, record :: records =>
    let expected := chainRecord D record.payload previous
    if expected.recordHash ≠ record.recordHash ∨ record.previousHash ≠ previous then false
    else verifyChainAfter record.recordHash records

/-- `verify_chain`. -/
def verifyChain (records : List AuditChainRecord) : Bool := verifyChainAfter D "" records

/-- The loop of `compute_audit_chain_fingerprint`. -/
def chainRecordsAfter : (previousHash : String) → List Payload → List AuditChainRecord
  | _, [] => []
  | previousHash, record :: records =>
    let chained := chainRecord D record previousHash
    chained :: chainRecordsAfter chained.recordHash records

/-- `chain_records[-1].record_hash if chain_records else ""`. -/
def lastRecordHash (records : List AuditChainRecord) : String := HashChain.lastHash "" records

/-- `compute_audit_chain_fingerprint`. -/
def computeAuditChainFingerprint (records : List Payload) : Bool × String :=
  let chainRecords := chainRecordsAfter D "" records
  (verifyChain D chainRecords, lastRecordHash chainRecords)

/-! ## The link -/

/-- The hash of a payload after another hash. -/
def chainLink (previousHash : String) (payload : Payload) : String :=
  (chainRecord D payload previousHash).recordHash

variable {D}

theorem chainRecordsAfter_eq_chain (previousHash : String) (records : List Payload) :
    chainRecordsAfter D previousHash records = HashChain.chain (chainLink D) previousHash records := by
  induction records generalizing previousHash with
  | nil => rfl
  | cons record records ih =>
    rw [chainRecordsAfter, HashChain.chain, ← ih]
    rfl

/-- **`verify_chain` accepts what is linked.** -/
theorem verifyChainAfter_iff {previous : String} {records : List AuditChainRecord} :
    verifyChainAfter D previous records = true ↔
      HashChain.Linked (chainLink D) previous records := by
  induction records generalizing previous with
  | nil => exact iff_of_true rfl trivial
  | cons record records ih =>
    rw [verifyChainAfter, HashChain.Linked, ← ih, chainLink]
    split
    · rename_i hbroken
      refine iff_of_false Bool.false_ne_true fun h ↦ ?_
      rcases hbroken with hhash | hprevious
      · exact hhash h.1.symm
      · exact hprevious h.2.1
    · rename_i hlinked
      obtain ⟨hhash, hprevious⟩ := not_or.mp hlinked
      rw [not_not] at hhash hprevious
      exact ⟨fun h ↦ ⟨hhash.symm, hprevious, h⟩, fun h ↦ h.2.2⟩

/-- A chain that was just made is accepted, and the fingerprint is the fold of the link. -/
theorem computeAuditChainFingerprint_eq (records : List Payload) :
    computeAuditChainFingerprint D records = (true, records.foldl (chainLink D) "") := by
  rw [computeAuditChainFingerprint, chainRecordsAfter_eq_chain, lastRecordHash, HashChain.lastHash_chain, verifyChain,
    verifyChainAfter_iff.mpr (HashChain.linked_chain "" records)]

end

/-! ## Hashes without collisions -/

/-- Eight digits in base 16 for the code of every character. -/
def wideDigits (text : String) : String :=
  String.ofList ('0' :: text.toList.flatMap fun c ↦
    Json.hex4 (c.toNat / 0x10000) ++ Json.hex4 (c.toNat % 0x10000))

theorem isHexDigest_wideDigits (text : String) : IsHexDigest (wideDigits text) := by
  have hdigit : ∀ n < 16, Tools.isHexDigit (Nat.digitChar n) = true := by decide
  have hhex4 (n : Nat) : ∀ c ∈ Json.hex4 n, Tools.isHexDigit c = true := by
    simp only [Json.hex4, List.forall_mem_cons]
    exact ⟨hdigit _ (Nat.mod_lt _ (by decide)), hdigit _ (Nat.mod_lt _ (by decide)),
      hdigit _ (Nat.mod_lt _ (by decide)), hdigit _ (Nat.mod_lt _ (by decide)),
      List.forall_mem_nil _⟩
  constructor
  · intro h
    have hnil := congrArg String.toList h
    rw [wideDigits, String.toList_ofList] at hnil
    cases hnil
  · intro c hc
    rw [wideDigits, String.toList_ofList, List.mem_cons, List.mem_flatMap] at hc
    rcases hc with rfl | ⟨d, -, hd⟩
    · decide
    · rcases List.mem_append.mp hd with hd | hd
      · exact hhex4 _ c hd
      · exact hhex4 _ c hd

/-- The code of a character is read off its digits. -/
theorem wideDigits_injective : Function.Injective wideDigits := by
  have hcodes {c d : Char} {l l' : List Char}
      (h : Json.hex4 (c.toNat / 0x10000) ++ (Json.hex4 (c.toNat % 0x10000) ++ l) =
        Json.hex4 (d.toNat / 0x10000) ++ (Json.hex4 (d.toNat % 0x10000) ++ l')) :
      c = d ∧ l = l' := by
    have hc := Json.toNat_bounds c
    have hd := Json.toNat_bounds d
    have hhigh := congrArg Json.readHex4 h
    rw [Json.readHex4_hex4 (by omega), Json.readHex4_hex4 (by omega), Option.some.injEq,
      Prod.mk.injEq] at hhigh
    have hlow := congrArg Json.readHex4 hhigh.2
    rw [Json.readHex4_hex4 (by omega), Json.readHex4_hex4 (by omega), Option.some.injEq,
      Prod.mk.injEq] at hlow
    exact ⟨Char.toNat_inj.mp (by omega), hlow.2⟩
  intro s t h
  rw [wideDigits, wideDigits, String.ofList_inj, List.cons.injEq] at h
  rw [← String.toList_inj]
  generalize s.toList = l, t.toList = l' at h
  induction l generalizing l' with
  | nil =>
    cases l' with
    | nil => rfl
    | cons d l' => cases h.2
  | cons c l ih =>
    cases l' with
    | nil => cases h.2
    | cons d l' =>
      rw [List.flatMap_cons, List.flatMap_cons, List.append_assoc, List.append_assoc] at h
      obtain ⟨rfl, hrest⟩ := hcodes h.2
      rw [ih l' ⟨rfl, hrest⟩]

/-- Digests that tell all texts apart. -/
def wideDigests : Digests where
  sha256 := wideDigits
  hmacSha256 key msg := wideDigits (key ++ msg)
  sha256_hex := isHexDigest_wideDigits
  hmacSha256_hex _ _ := isHexDigest_wideDigits _

/-! ## What a fingerprint determines -/

/-- The payload can be written as JSON. -/
def IsPayload (showFloat : String → String) (payload : Payload) : Prop :=
  Json.isJson showFloat (.dict payload) = true

instance (showFloat : String → String) (payload : Payload) :
    Decidable (IsPayload showFloat payload) :=
  inferInstanceAs (Decidable (_ = true))

/-- Payloads that are equal as dictionaries are: whatever the order of the keys, here and in the
values. -/
def SamePayload (payload payload' : Payload) : Prop :=
  Json.normal (.dict payload) = Json.normal (.dict payload')

/-- The same keys, and under each key values with the same normal form. -/
theorem samePayload_iff {showFloat : String → String} {payload payload' : Payload}
    (h : IsPayload showFloat payload) (h' : IsPayload showFloat payload') :
    SamePayload payload payload' ↔
      ∀ key, (Value.lookup key payload).map Json.normal = (Value.lookup key payload').map Json.normal :=
  Json.normal_dict_eq_iff (Json.isJson_dict.mp h).1 (Json.isJson_dict.mp h').1

/-- Records with the same payload and the same two hashes. -/
def SameRecord (record record' : AuditChainRecord) : Prop :=
  SamePayload record.payload record'.payload ∧ record.previousHash = record'.previousHash ∧
    record.recordHash = record'.recordHash

section
variable {D : Digests} {showFloat : String → String}

theorem chainLink_congr (previousHash : String) (payload payload' : Payload)
    (h : SamePayload payload payload') :
    chainLink D previousHash payload = chainLink D previousHash payload' := by
  rw [chainLink, chainLink, chainRecord, chainRecord, Json.dumps_congr Json.compact h]

/-- The same records have the same fingerprint. -/
theorem computeAuditChainFingerprint_congr {records records' : List Payload}
    (h : List.Forall₂ SamePayload records records') :
    computeAuditChainFingerprint D records = computeAuditChainFingerprint D records' := by
  rw [computeAuditChainFingerprint_eq, computeAuditChainFingerprint_eq,
    HashChain.foldl_congr chainLink_congr h]

/-- **A hash determines the payload and the hash before it.**  No hash has a colon in it, so the first
colon is the one between the two. -/
theorem chainLink_binds (hinj : Function.Injective D.sha256) :
    HashChain.Binds (chainLink D) "" (fun hash ↦ ':' ∉ hash.toList) (IsPayload showFloat)
      SamePayload where
  start_good := by decide
  link_good _ _ hcolon := by
    have hhex := (D.sha256_hex _).hex ':' hcolon
    revert hhex
    decide
  link_ne_start _ _ := (D.sha256_hex _).ne_empty
  link_inj hgood hgood' hfit hfit' h := by
    obtain ⟨hprevious, htext⟩ := (Text.append_separator_inj hgood hgood').mp (hinj h)
    exact ⟨hprevious, Json.normal_eq_of_dumps_eq hfit hfit' htext⟩
  link_congr := chainLink_congr

/-- **The fingerprint stands for the whole history.**  If no two texts have the same hash, lists of
records of any lengths have the same fingerprint only if they are the same records in the same order,
and chains that `verify_chain` accepts have the same last hash only if all payloads, previous hashes
and hashes in them are the same. -/
theorem fingerprint_binds_history (hinj : Function.Injective D.sha256) :
    (∀ records records' : List Payload,
      (∀ r ∈ records, IsPayload showFloat r) → (∀ r ∈ records', IsPayload showFloat r) →
        (computeAuditChainFingerprint D records).2 = (computeAuditChainFingerprint D records').2 →
          List.Forall₂ SamePayload records records') ∧
      ∀ records records' : List AuditChainRecord,
        (∀ r ∈ records, IsPayload showFloat r.payload) →
          (∀ r ∈ records', IsPayload showFloat r.payload) →
            verifyChain D records = true → verifyChain D records' = true →
              lastRecordHash records = lastRecordHash records' →
                List.Forall₂ SameRecord records records' := by
  have hbinds : HashChain.Binds (chainLink D) "" _ (IsPayload showFloat) SamePayload :=
    chainLink_binds hinj
  constructor
  · intro records records' hpayloads hpayloads' h
    rw [computeAuditChainFingerprint_eq, computeAuditChainFingerprint_eq] at h
    exact (hbinds.foldl_eq_iff hpayloads hpayloads').mp h
  · intro records records' hpayloads hpayloads' hverified hverified' h
    exact hbinds.linked_ext hpayloads hpayloads' (verifyChainAfter_iff.mp hverified)
      (verifyChainAfter_iff.mp hverified') h

end

/-- An event, and the same one with the keys in another order. -/
theorem fingerprint_binds_history_reordered :
    let records : List Payload := [[("b", .int 1), ("a", .none)]]
    let records' : List Payload := [[("a", .none), ("b", .int 1)]]
    List.Forall₂ SamePayload records records' ∧
      List.Forall₂ SameRecord (chainRecordsAfter wideDigests "" records)
        (chainRecordsAfter wideDigests "" records') := by
  intro records records'
  have hbinds := @fingerprint_binds_history wideDigests id wideDigits_injective
  exact ⟨hbinds.1 records records' (by decide +kernel) (by decide +kernel) (by decide +kernel),
    hbinds.2 _ _ (by decide +kernel) (by decide +kernel) (by decide +kernel) (by decide +kernel)
      (by decide +kernel)⟩

end Audit
end ExoBrain
