import ExoBrain.Api.Audit

/-!
# Exported bundles verify

A bundle is signed under the secrets of the day of its export, goes through JSON, and is verified
under the secrets of another day.  Its signature, its version and its chain are then made anew, from
what was read.

* `SamePayload` is what going through JSON keeps of a bundle: all but the order of the keys.
* `isPayload_buildSignedExportBundle`: the bundle can be written.
* `verifyBundle_of_samePayload`: it verifies in any order of the keys, as long as the secret of its
  version is kept.
* `exported_bundle_verifies` is about requests with the bundle, with the bundle after JSON, and with
  the name of a file that it was written to.
-/

set_option autoImplicit false

namespace ExoBrain
namespace Api

open Audit Checks
open Tools (Digests listOf)

/-! ## Payloads in another order -/

section
variable {payload payload' : Payload}

/-- A key that is not looked up may be popped. -/
theorem lookup_popKey (key key' : String) (entries : Payload) :
    Value.lookup key (popKey key' entries) =
      if key = key' then none else Value.lookup key entries := by
  induction entries with
  | nil => split <;> rfl
  | cons e entries ih =>
    rw [popKey, List.filter_cons, Value.lookup_cons]
    by_cases hkey : e.1 = key'
    · subst hkey
      rw [if_neg (by simp)]
      refine ih.trans ?_
      by_cases hsame : key = e.1
      · rw [if_pos hsame, if_pos hsame]
      · rw [if_neg hsame, if_neg hsame, if_neg (Ne.symm hsame)]
    · rw [if_pos (decide_eq_true hkey), Value.lookup_cons]
      have hrest : Value.lookup key (entries.filter fun e ↦ e.1 ≠ key') = _ := ih
      rw [hrest]
      by_cases hfound : e.1 = key
      · subst hfound
        rw [if_pos rfl, if_neg hkey, if_pos rfl]
      · rw [if_neg hfound, if_neg hfound]

theorem nodup_popKey (key : String) (h : (payload.map Prod.fst).Nodup) :
    ((popKey key payload).map Prod.fst).Nodup :=
  h.sublist (List.filter_sublist.map Prod.fst)

theorem samePayload_popKey (key : String) (h : (payload.map Prod.fst).Nodup)
    (h' : (payload'.map Prod.fst).Nodup) (hsame : SamePayload payload payload') :
    SamePayload (popKey key payload) (popKey key payload') := by
  rw [SamePayload, Json.normal_dict_eq_iff (nodup_popKey key h) (nodup_popKey key h')]
  intro key'
  rw [lookup_popKey, lookup_popKey]
  split
  · rfl
  · exact Json.lookup_of_normal_eq key' h hsame

/-- What is found under a key of the one is found, in another order, under the key of the other. -/
theorem lookup_of_samePayload {key : String} {v : Value} (h : (payload.map Prod.fst).Nodup)
    (hsame : SamePayload payload payload') (hfound : Value.lookup key payload = some v) :
    ∃ v', Value.lookup key payload' = some v' ∧ Json.normal v' = Json.normal v := by
  have hlookup := Json.lookup_of_normal_eq key h hsame
  rw [hfound, Option.map_some] at hlookup
  exact Option.map_eq_some_iff.mp hlookup.symm

/-- A text is found as it was. -/
theorem textOf_of_samePayload (R : AuditRuntime) {key text : String}
    (h : (payload.map Prod.fst).Nodup) (hsame : SamePayload payload payload')
    (hfound : Value.lookup key payload = some (.str text)) : textOf R key payload' = text := by
  obtain ⟨v', hfound', hv'⟩ := lookup_of_samePayload h hsame hfound
  obtain rfl := Json.eq_str hv'
  rw [textOf, hfound']
  rfl

end

/-! ## The bundle -/

section
variable (D : Digests) (M : AuditObservabilityModule) (tenantId exportedAtUtc : String)
  (records : List AuditRecord)

/-- The entries of a bundle, in the order they were put in. -/
theorem unsignedBundle_eq : unsignedBundle D M tenantId records exportedAtUtc =
    [("tenant_id", .str tenantId), ("record_count", .int records.length),
      ("chain_valid", .bool true),
      ("last_record_hash", .str ((records.map chainInputRow).foldl (chainLink D) "")),
      ("event_type_counts", .dict ((eventTypeCounts records).entries.map fun e ↦ (e.1, .int e.2))),
      ("records", .list (records.map fun record ↦ .dict (recordToResponse record))),
      ("exported_at_utc", .str exportedAtUtc), ("signature_version", .str M.signatureVersion)] := by
  rw [unsignedBundle, computeAuditChainFingerprint_eq]
  rfl

theorem buildSignedExportBundle_eq : buildSignedExportBundle D M tenantId records exportedAtUtc =
    unsignedBundle D M tenantId records exportedAtUtc ++
      [("signature", .str (signBundlePayload D (unsignedBundle D M tenantId records exportedAtUtc)
        M.signingSecret))] := by
  rw [buildSignedExportBundle]
  generalize signBundlePayload D _ _ = signature
  rw [unsignedBundle_eq]
  rfl

theorem popKey_buildSignedExportBundle :
    popKey "signature" (buildSignedExportBundle D M tenantId records exportedAtUtc) =
      unsignedBundle D M tenantId records exportedAtUtc := by
  rw [buildSignedExportBundle_eq]
  generalize signBundlePayload D _ _ = signature
  rw [unsignedBundle_eq]
  rfl

theorem nodup_buildSignedExportBundle :
    ((buildSignedExportBundle D M tenantId records exportedAtUtc).map Prod.fst).Nodup := by
  rw [buildSignedExportBundle_eq, unsignedBundle_eq]
  show ["tenant_id", "record_count", "chain_valid", "last_record_hash", "event_type_counts",
    "records", "exported_at_utc", "signature_version", "signature"].Nodup
  decide

/-- What the verification looks up in a bundle. -/
theorem lookup_buildSignedExportBundle :
    let bundle := buildSignedExportBundle D M tenantId records exportedAtUtc
    Value.lookup "tenant_id" bundle = some (.str tenantId) ∧
      Value.lookup "chain_valid" bundle = some (.bool true) ∧
      Value.lookup "last_record_hash" bundle =
        some (.str ((records.map chainInputRow).foldl (chainLink D) "")) ∧
      Value.lookup "records" bundle =
        some (.list (records.map fun record ↦ .dict (recordToResponse record))) ∧
      Value.lookup "signature_version" bundle = some (.str M.signatureVersion) ∧
      Value.lookup "signature" bundle = some (.str (signBundlePayload D
        (unsignedBundle D M tenantId records exportedAtUtc) M.signingSecret)) := by
  intro bundle
  have hbundle : bundle = _ := buildSignedExportBundle_eq D M tenantId exportedAtUtc records
  rw [hbundle]
  generalize signBundlePayload D _ _ = signature
  rw [unsignedBundle_eq]
  exact ⟨rfl, rfl, rfl, rfl, rfl, rfl⟩

theorem nodup_recordToResponse (record : AuditRecord) :
    ((recordToResponse record).map Prod.fst).Nodup := by
  show ["event_id", "correlation_id", "tenant_id", "event_type", "payload"].Nodup
  decide

/-- A record can be written if its payload can. -/
theorem isPayload_recordToResponse {showFloat : String → String} {record : AuditRecord}
    (h : IsPayload showFloat record.payload) : IsPayload showFloat (recordToResponse record) := by
  rw [IsPayload, Json.isJson_dict]
  refine ⟨nodup_recordToResponse record, ?_⟩
  simp only [recordToResponse, List.forall_mem_cons]
  exact ⟨rfl, rfl, rfl, rfl, h, nofun⟩

/-- **A bundle of payloads that can be written can be written.** -/
theorem isPayload_buildSignedExportBundle {showFloat : String → String}
    (h : ∀ record ∈ records, IsPayload showFloat record.payload) :
    IsPayload showFloat (buildSignedExportBundle D M tenantId records exportedAtUtc) := by
  have hcounts : Json.isJson showFloat
      (.dict ((eventTypeCounts records).entries.map fun e ↦ (e.1, .int e.2))) = true := by
    refine Json.isJson_dict.mpr ⟨?_, ?_⟩
    · rw [List.map_map]
      exact (eventTypeCounts records).nodup_keys
    · exact List.forall_mem_map.mpr fun e _ ↦ rfl
  have hrecords : Json.isJson showFloat
      (.list (records.map fun record ↦ .dict (recordToResponse record))) = true :=
    Json.isJson_list.mpr (List.forall_mem_map.mpr fun record hmem ↦
      isPayload_recordToResponse (h record hmem))
  rw [IsPayload, Json.isJson_dict]
  refine ⟨nodup_buildSignedExportBundle D M tenantId exportedAtUtc records, ?_⟩
  rw [buildSignedExportBundle_eq, unsignedBundle_eq]
  simp only [List.forall_mem_append, List.forall_mem_cons]
  exact ⟨⟨rfl, rfl, rfl, rfl, hcounts, hrecords, rfl, rfl, nofun⟩, rfl, nofun⟩

end

/-! ## Its verification -/

section
variable {R : AuditRuntime} {M M' : AuditObservabilityModule} {tenantId exportedAtUtc : String}
  {records : List AuditRecord}

/-- A row of the bundle is hashed as it was. -/
theorem chainRow_of_normal_eq {record : AuditRecord} {row : Value}
    (h : Json.normal row = Json.normal (.dict (recordToResponse record))) :
    ∃ chained, chainRow R row = .ok chained ∧ SamePayload (chainInputRow record) chained := by
  obtain ⟨entries, rfl⟩ := Json.exists_eq_dict h
  have hnodup := nodup_recordToResponse record
  obtain ⟨v, hfound, hv⟩ := lookup_of_samePayload hnodup h.symm
    (show Value.lookup "payload" (recordToResponse record) = some (.dict record.payload) from rfl)
  obtain ⟨payload, rfl⟩ := Json.exists_eq_dict hv
  refine ⟨_, by rw [chainRow, hfound]; rfl, ?_⟩
  rw [textOf_of_samePayload R hnodup h.symm rfl, textOf_of_samePayload R hnodup h.symm rfl,
    textOf_of_samePayload R hnodup h.symm rfl, textOf_of_samePayload R hnodup h.symm rfl,
    SamePayload, chainInputRow, Json.normal, Json.normal]
  simp only [Json.normalEntries, hv]

/-- So are all of them. -/
theorem mapM_chainRow_of_normal_eq {rows : List Value}
    (h : Json.normalItems rows =
      Json.normalItems (records.map fun record ↦ .dict (recordToResponse record))) :
    ∃ chained, rows.mapM (chainRow R) = .ok chained ∧
      List.Forall₂ SamePayload (records.map chainInputRow) chained := by
  induction records generalizing rows with
  | nil =>
    cases rows with
    | nil => exact ⟨[], rfl, List.Forall₂.nil⟩
    | cons row rows => cases h
  | cons record records ih =>
    cases rows with
    | nil => cases h
    | cons row rows =>
      rw [List.map_cons, Json.normalItems, Json.normalItems, List.cons.injEq] at h
      obtain ⟨first, hfirst, hsame⟩ := chainRow_of_normal_eq (R := R) h.1
      obtain ⟨rest, hrest, hsames⟩ := ih h.2
      refine ⟨first :: rest, ?_, List.Forall₂.cons hsame hsames⟩
      rw [List.mapM_cons, hfirst, hrest]
      rfl

/-- What is answered about a bundle that verifies. -/
def verifiedResponse (tenantId signatureVersion : String) : AuditVerifyResponse where
  tenantId := tenantId
  signatureVersion := signatureVersion
  verifiedWithVersion := signatureVersion
  signatureValid := true
  chainValid := true
  verified := true

/-- **A bundle verifies in any order of its keys**, under every keyring that has its version with the
secret it was signed with. -/
theorem verifyBundle_of_samePayload {bundleData : Payload}
    (hkeys : M.keyring.keys ≠ [])
    (hkept : M'.keyring.get? M.signatureVersion = M.keyring.get? M.signatureVersion)
    (hnodup' : (bundleData.map Prod.fst).Nodup)
    (hsame : SamePayload (buildSignedExportBundle R.digests M tenantId records exportedAtUtc)
      bundleData) :
    verifyBundle R M' tenantId bundleData = .ok (verifiedResponse tenantId M.signatureVersion) := by
  obtain ⟨htenant, hvalid, hlast, hrecords, hversion, hsignature⟩ :=
    lookup_buildSignedExportBundle R.digests M tenantId exportedAtUtc records
  have hnodup := nodup_buildSignedExportBundle R.digests M tenantId exportedAtUtc records
  have hpopped := samePayload_popKey "signature" hnodup hnodup' hsame
  rw [popKey_buildSignedExportBundle] at hpopped
  -- The signature, under the keyring of the verification.
  have hkeyring : IsKeyring M'.keyring := isKeyring_buildSigningKeyring _ _
  have hsecret : M'.keyring.get? M.signatureVersion = some M.signingSecret :=
    hkept.trans (get?_resolveSigningSecret (isKeyring_buildSigningKeyring _ _) hkeys _)
  have hverifies := verifySignedBundleWithKeyring_signed (D := R.digests) hkeyring hsecret hpopped
  have hstrip : Text.strip M.signatureVersion = M.signatureVersion :=
    (hkeyring M.signatureVersion _ hsecret).1.1
  -- The chain, of the rows that were read.
  obtain ⟨v, hrows, hv⟩ := lookup_of_samePayload hnodup hsame hrecords
  obtain ⟨rows, rfl, hitems⟩ := Json.exists_eq_list hv
  obtain ⟨chained, hchained, hsames⟩ := mapM_chainRow_of_normal_eq (R := R) hitems
  have hfingerprint := computeAuditChainFingerprint_congr (D := R.digests) hsames
  obtain ⟨v, hdeclared, hv⟩ := lookup_of_samePayload hnodup hsame hvalid
  obtain rfl := Json.eq_bool hv
  rw [computeAuditChainFingerprint_eq] at hfingerprint
  simp only [verifyBundle, textOf_of_samePayload R hnodup hsame htenant,
    textOf_of_samePayload R hnodup hsame hversion, textOf_of_samePayload R hnodup hsame hlast,
    textOf_of_samePayload R hnodup hsame hsignature, strip_signBundlePayload, hstrip, hverifies]
  rw [if_neg (not_not_intro rfl), hrows, hdeclared]
  show (rows.mapM (chainRow R) >>= _) = _
  rw [hchained]
  show Except.ok _ = _
  rw [← hfingerprint]
  dsimp only
  rw [decide_eq_true rfl]
  rfl

theorem verifyAuditBundle_of_samePayload {F : ExportFiles} {bundleData : Payload}
    (hkeys : M.keyring.keys ≠ [])
    (hkept : M'.keyring.get? M.signatureVersion = M.keyring.get? M.signatureVersion)
    (hnodup' : (bundleData.map Prod.fst).Nodup)
    (hsame : SamePayload (buildSignedExportBundle R.digests M tenantId records exportedAtUtc)
      bundleData) :
    verifyAuditBundle R M' F tenantId { bundle := bundleData } =
      .ok (verifiedResponse tenantId M.signatureVersion) := by
  have hne : bundleData ≠ [] := by
    rintro rfl
    obtain ⟨v, hfound, -⟩ := lookup_of_samePayload
      (nodup_buildSignedExportBundle R.digests M tenantId exportedAtUtc records) hsame
      (lookup_buildSignedExportBundle R.digests M tenantId exportedAtUtc records).1
    cases hfound
  have hrequested : requestedBundle R M' F { bundle := bundleData } = .ok bundleData := by
    rw [requestedBundle, if_neg (show ¬Text.strip "" ≠ "" by decide), if_pos hne]
  rw [verifyAuditBundle, hrequested]
  exact verifyBundle_of_samePayload hkeys hkept hnodup' hsame

theorem requestedBundle_of_file {F : ExportFiles} {filePath contents : String} {entries : Payload}
    (hpath : Text.strip filePath ≠ "")
    (hinside : F.resolve M.auditExportDirectory ∈ parents (F.resolve filePath))
    (hwritten : F.files.get? (F.resolve filePath) = some contents)
    (hread : Json.loads R.showFloat (Text.universalNewlines contents) = some (.dict entries)) :
    requestedBundle R M F { filePath := filePath } = .ok entries := by
  rw [requestedBundle, if_pos hpath]
  dsimp only
  rw [(check_eq_ok (u := ())).mpr (Or.inr hinside)]
  simp only [bind, Except.bind, hwritten, hread]
  rfl

/-- What is read of the text of a bundle has the same keys, each once. -/
theorem loads_bundle (M : AuditObservabilityModule) (tenantId exportedAtUtc : String)
    (lay : Json.Layout) (hpayloads : ∀ record ∈ records, IsPayload R.showFloat record.payload) :
    ∃ entries, Json.loads R.showFloat (Json.dumps lay
        (.dict (buildSignedExportBundle R.digests M tenantId records exportedAtUtc))) =
          some (.dict entries) ∧
      (entries.map Prod.fst).Nodup ∧
      SamePayload (buildSignedExportBundle R.digests M tenantId records exportedAtUtc) entries := by
  have hbundle : IsPayload R.showFloat _ := isPayload_buildSignedExportBundle R.digests M tenantId
    exportedAtUtc records hpayloads
  refine ⟨_, Json.loads_dumps lay hbundle, ?_, (Json.normal_normal _).symm⟩
  exact (Json.isJson_dict.mp (Json.isJson_normal _ hbundle)).1

/-- **Exported bundles verify, across key rotation.**  For all records whose payloads JSON can write,
all secrets of which some can be used, and every active version: the bundle verifies for its tenant
when it is sent back, in any order of its keys, when it is sent back after it was written as JSON and
read, and when it was written to a file in the export directory.  The secrets may have changed in the
meantime, as long as the version of the bundle has the same one. -/
theorem exported_bundle_verifies (R : AuditRuntime) (M M' : AuditObservabilityModule)
    (F : ExportFiles) (tenantId exportedAtUtc : String) (records : List AuditRecord)
    (hpayloads : ∀ record ∈ records, IsPayload R.showFloat record.payload)
    (hkeys : M.keyring.keys ≠ [])
    (hkept : M'.keyring.get? M.signatureVersion = M.keyring.get? M.signatureVersion) :
    let bundle := buildSignedExportBundle R.digests M tenantId records exportedAtUtc
    let response := verifiedResponse tenantId M.signatureVersion
    verifyAuditBundle R M' F tenantId { bundle := bundle } = .ok response ∧
      (∀ bundleData, (bundleData.map Prod.fst).Nodup → SamePayload bundle bundleData →
        verifyAuditBundle R M' F tenantId { bundle := bundleData } = .ok response) ∧
      (∀ lay, ∃ bundleData,
        Json.loads R.showFloat (Json.dumps lay (.dict bundle)) = some (.dict bundleData) ∧
          verifyAuditBundle R M' F tenantId { bundle := bundleData } = .ok response) ∧
      ∀ filePath, Text.strip filePath ≠ "" →
        F.resolve M'.auditExportDirectory ∈ parents (F.resolve filePath) →
          F.files.get? (F.resolve filePath) = some (Json.dumps (Json.indented 2) (.dict bundle)) →
            verifyAuditBundle R M' F tenantId { filePath := filePath } = .ok response := by
  intro bundle response
  have hnodup := nodup_buildSignedExportBundle R.digests M tenantId exportedAtUtc records
  refine ⟨verifyAuditBundle_of_samePayload hkeys hkept hnodup rfl,
    fun bundleData hnodup' hsame ↦ verifyAuditBundle_of_samePayload hkeys hkept hnodup' hsame,
    fun lay ↦ ?_, fun filePath hpath hinside hwritten ↦ ?_⟩
  · obtain ⟨bundleData, hread, hnodup', hsame⟩ := loads_bundle M tenantId exportedAtUtc lay hpayloads
    exact ⟨bundleData, hread, verifyAuditBundle_of_samePayload hkeys hkept hnodup' hsame⟩
  · obtain ⟨bundleData, hread, hnodup', hsame⟩ := loads_bundle M tenantId exportedAtUtc
      (Json.indented 2) hpayloads
    have hlines : Text.universalNewlines (Json.dumps (Json.indented 2) (.dict bundle)) =
        Json.dumps (Json.indented 2) (.dict bundle) :=
      Text.universalNewlines_eq_self.mpr (Json.not_mem_dumps_indented 2
        (isPayload_buildSignedExportBundle R.digests M tenantId exportedAtUtc records hpayloads))
    rw [← hlines] at hread
    rw [verifyAuditBundle, requestedBundle_of_file hpath hinside hwritten hread]
    exact verifyBundle_of_samePayload hkeys hkept hnodup' hsame

end

/-- Digests that can be computed by hand, and nothing but dictionaries and lists. -/
def plainRuntime : AuditRuntime where
  digests := Tools.lastDigitsDigests
  isPrintable _ := true
  showFloat := id
  dictObject _ := none
  listObject _ := .error (.exception "not iterable")

/-- Version 2 is active before it has a secret, so version 1 signs.  When the bundle is verified
version 2 has one, and the secret of version 1 is no longer the legacy one. -/
theorem exported_bundle_verifies_rotated :
    let M : AuditObservabilityModule := ⟨"exports", " s1 ", "v2", Dict.empty⟩
    let M' : AuditObservabilityModule :=
      ⟨"exports", "", "v2", (Dict.empty.set "v1" "s1").set " v2" "s2\n"⟩
    let records : List AuditRecord :=
      [{ eventId := "e1", correlationId := "c1", payload := [("steps", .int 3), ("ok", .bool true)] }]
    let bundle := buildSignedExportBundle plainRuntime.digests M "acme" records "2025-01-01"
    let F : ExportFiles :=
      { resolve := fun text ↦ ["/", "exports"] ++ if text = "exports" then [] else [text]
        files := Dict.empty.set ["/", "exports", "b.json"]
          (Json.dumps (Json.indented 2) (.dict bundle))
        isDirectory := fun _ ↦ false }
    verifyAuditBundle plainRuntime M' F "acme" { bundle := bundle } =
        .ok (verifiedResponse "acme" "v1") ∧
      verifyAuditBundle plainRuntime M' F "acme" { filePath := "b.json" } =
        .ok (verifiedResponse "acme" "v1") := by
  intro M M' records bundle F
  have hversion : M.signatureVersion = "v1" := by decide +kernel
  have hverifies := exported_bundle_verifies plainRuntime M M' F "acme" "2025-01-01" records
    (by decide +kernel) (by decide +kernel) (by decide +kernel)
  rw [hversion] at hverifies
  exact ⟨hverifies.1, hverifies.2.2.2 "b.json" (by decide) (by decide +kernel) rfl⟩

end Api
end ExoBrain
