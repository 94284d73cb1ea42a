import ExoBrain.Lib.Dict
import ExoBrain.Lib.Text

/-!
# The store of API keys

`SQLiteApiKeyStore` (`sqlite.py`) is one table.  Its primary key is `key_id`, and `key_hash` is
unique, which `SQLiteApiKeyStore` carries with the rows.

The roles of a key are one column: joined by commas when they are written, and cut at the commas when
they are read, without blanks around them and without the empty ones.

* `decodeRoles_encodeRoles` says which lists of roles are read back as they were written: those of `Plain`
  roles.
* `roles_kept_iff` is the same for the whole store: for a key that is saved over whatever there was,
  and read by its identifier or by its hash.
-/

set_option autoImplicit false

namespace ExoBrain
namespace Persistence

/-! ## Roles in a column -/

/-- `",".join(roles)`. -/
def encodeRoles (roles : List String) : String := (String.singleton ',').intercalate roles

/-- `[r.strip() for r in roles_csv.split(",") if r.strip()] if roles_csv else []`. -/
def decodeRoles (rolesCsv : String) : List String :=
  if rolesCsv = "" then []
  else ((Text.split ',' rolesCsv).map Text.strip).filter fun role ↦ role ≠ ""

/-- A role without blanks at its ends and without commas, and not the empty one. -/
def Plain (role : String) : Prop :=
  Text.strip role = role ∧ role ≠ "" ∧ ',' ∉ role.toList

instance (role : String) : Decidable (Plain role) := inferInstanceAs (Decidable (_ ∧ _ ∧ _))

/-- Whatever is read is plain. -/
theorem plain_of_mem_decodeRoles {rolesCsv role : String} (h : role ∈ decodeRoles rolesCsv) :
    Plain role := by
  rw [decodeRoles] at h
  split at h
  · exact absurd h List.not_mem_nil
  · obtain ⟨hmem, hne⟩ := List.mem_filter.mp h
    obtain ⟨part, hpart, rfl⟩ := List.mem_map.mp hmem
    refine ⟨Text.strip_strip part, of_decide_eq_true hne, fun hcomma ↦ ?_⟩
    obtain ⟨a, b, hsplit, -⟩ := Runs.trimEnds_spec Text.isSpace part.toList
    refine Text.not_mem_of_mem_split hpart ?_
    rw [hsplit, ← Text.toList_strip]
    exact List.mem_append_left b (List.mem_append_right a hcomma)

/-- **Which roles are kept by the column**: they are read back as they were written exactly if all of
them are plain. -/
theorem decodeRoles_encodeRoles {roles : List String} :
    decodeRoles (encodeRoles roles) = roles ↔ ∀ role ∈ roles, Plain role := by
  constructor
  · intro h role hrole
    rw [← h] at hrole
    exact plain_of_mem_decodeRoles hrole
  · intro hplain
    cases roles with
    | nil => rfl
    | cons role roles =>
      have hsplit : Text.split ',' (encodeRoles (role :: roles)) = role :: roles :=
        Text.split_intercalate (List.cons_ne_nil role roles) fun s hs ↦ (hplain s hs).2.2
      have hne : encodeRoles (role :: roles) ≠ "" := by
        intro hempty
        rw [hempty] at hsplit
        obtain ⟨rfl, -⟩ := List.cons.inj (hsplit.symm.trans (Text.split_of_not_mem (by decide)))
        exact (hplain "" List.mem_cons_self).2.1 rfl
      have hstrip : (role :: roles).map Text.strip = role :: roles :=
        (List.map_congr_left fun s hs ↦ (hplain s hs).1).trans (List.map_id _)
      rw [decodeRoles, if_neg hne, hsplit, hstrip, List.filter_eq_self]
      exact fun s hs ↦ decide_eq_true (hplain s hs).2.1

/-! ## The store -/

/-- `ApiKeyRecord`. -/
structure ApiKeyRecord where
  keyId : String
  tenantId : String
  subject : String
  keyHash : String
  roles : List String := []
  description : String := ""
  enabled : Bool := true
  createdAt : String := ""
deriving DecidableEq, Repr

/-- A row of `api_keys`, without its key. -/
structure ApiKeyRow where
  tenantId : String
  subject : String
  keyHash : String
  rolesCsv : String
  description : String
  enabled : Nat
  createdAt : String
deriving DecidableEq, Repr

/-- What `save_key` writes. -/
def ApiKeyRecord.row (record : ApiKeyRecord) : ApiKeyRow where
  tenantId := record.tenantId
  subject := record.subject
  keyHash := record.keyHash
  rolesCsv := encodeRoles record.roles
  description := record.description
  enabled := if record.enabled = true then 1 else 0
  createdAt := record.createdAt

/-- `_row_to_record`. -/
def ApiKeyRow.toRecord (keyId : String) (row : ApiKeyRow) : ApiKeyRecord where
  keyId := keyId
  tenantId := row.tenantId
  subject := row.subject
  keyHash := row.keyHash
  roles := decodeRoles row.rolesCsv
  description := row.description
  enabled := row.enabled ≠ 0
  createdAt := row.createdAt

/-- The table `api_keys` of `SQLiteApiKeyStore`. -/
structure SQLiteApiKeyStore where
  rows : Dict String ApiKeyRow
  /-- `key_hash TEXT NOT NULL UNIQUE`. -/
  unique : ∀ {keyId keyId' : String} {row row' : ApiKeyRow}, rows.get? keyId = some row →
    rows.get? keyId' = some row' → row.keyHash = row'.keyHash → keyId = keyId'

namespace SQLiteApiKeyStore

/-- `_ensure_schema`, on an empty database. -/
def empty : SQLiteApiKeyStore where
  rows := Dict.empty
  unique := by
    intro keyId keyId' row row' hrow
    cases hrow

/-- No other key has the hash of the record. -/
def Admits (s : SQLiteApiKeyStore) (record : ApiKeyRecord) : Prop :=
  ∀ entry ∈ s.rows.entries, entry.2.keyHash = record.keyHash → entry.1 = record.keyId

instance (s : SQLiteApiKeyStore) (record : ApiKeyRecord) : Decidable (s.Admits record) :=
  inferInstanceAs (Decidable (∀ entry ∈ s.rows.entries, _))

/-- The upsert of `save_key`. -/
def upsert (record : ApiKeyRecord) (s : SQLiteApiKeyStore) (h : s.Admits record) :
    SQLiteApiKeyStore where
  rows := s.rows.set record.keyId record.row
  unique := by
    -- a row is the new one, or was there before and has another hash
    have hnew {keyId : String} {row : ApiKeyRow}
        (hrow : (s.rows.set record.keyId record.row).get? keyId = some row)
        (hhash : row.keyHash = record.keyHash) : keyId = record.keyId := by
      rw [Dict.get?_set] at hrow
      split at hrow
      · assumption
      · exact h (keyId, row) (Dict.mem_entries_iff.mpr hrow) hhash
    intro keyId keyId' row row' hrow hrow' hhash
    by_cases hsame : row.keyHash = record.keyHash
    · rw [hnew hrow hsame, hnew hrow' (hhash.symm.trans hsame)]
    · have hold {keyId : String} {row : ApiKeyRow}
          (hrow : (s.rows.set record.keyId record.row).get? keyId = some row)
          (hother : row.keyHash ≠ record.keyHash) : s.rows.get? keyId = some row := by
        rw [Dict.get?_set] at hrow
        split at hrow
        · obtain rfl := Option.some.inj hrow
          exact absurd rfl hother
        · exact hrow
      exact s.unique (hold hrow hsame) (hold hrow' (hhash ▸ hsame)) hhash

/-- `save_key`.  The statement fails if another key has the hash. -/
def saveKey (record : ApiKeyRecord) (s : SQLiteApiKeyStore) : Except String SQLiteApiKeyStore :=
  if h : s.Admits record then .ok (s.upsert record h)
  else .error "UNIQUE constraint failed: api_keys.key_hash"

/-- `get_key`. -/
def getKey (keyId : String) (s : SQLiteApiKeyStore) : Option ApiKeyRecord :=
  (s.rows.get? keyId).map fun row ↦ row.toRecord keyId

/-- `lookup_by_hash`. -/
def lookupByHash (keyHash : String) (s : SQLiteApiKeyStore) : Option ApiKeyRecord :=
  (s.rows.entries.find? fun entry ↦ entry.2.keyHash = keyHash ∧ entry.2.enabled = 1).map
    fun entry ↦ entry.2.toRecord entry.1

/-- `delete_key`. -/
def deleteKey (keyId : String) (s : SQLiteApiKeyStore) : SQLiteApiKeyStore where
  rows := s.rows.erase keyId
  unique := fun hrow hrow' ↦ s.unique (Dict.get?_of_erase hrow) (Dict.get?_of_erase hrow')

/-- `list_keys`. -/
def listKeys (tenantId : Option String) (s : SQLiteApiKeyStore) : List ApiKeyRecord :=
  ((s.rows.entries.filter fun entry ↦ ∀ t ∈ tenantId, entry.2.tenantId = t).map
    fun entry ↦ entry.2.toRecord entry.1).mergeSort fun a b ↦ a.createdAt ≤ b.createdAt

section
variable {s s' : SQLiteApiKeyStore} {record : ApiKeyRecord}

/-- What is found by a hash is the enabled row with it. -/
theorem lookupByHash_eq_some_iff {keyHash : String} :
    s.lookupByHash keyHash = some record ↔ ∃ keyId row, s.rows.get? keyId = some row ∧
      row.keyHash = keyHash ∧ row.enabled = 1 ∧ row.toRecord keyId = record := by
  constructor
  · intro h
    obtain ⟨entry, hentry, hrecord⟩ := Option.map_eq_some_iff.mp h
    have htest := List.find?_some hentry
    simp only [decide_eq_true_eq] at htest
    exact ⟨entry.1, entry.2, Dict.mem_entries_iff.mp (List.mem_of_find?_eq_some hentry), htest.1,
      htest.2, hrecord⟩
  · rintro ⟨keyId, row, hrow, hhash, henabled, rfl⟩
    rw [lookupByHash]
    cases hfind : s.rows.entries.find? fun entry ↦
        entry.2.keyHash = keyHash ∧ entry.2.enabled = 1 with
    | none =>
      have hmissed := List.find?_eq_none.mp hfind (keyId, row) (Dict.mem_entries_iff.mpr hrow)
      exact absurd (decide_eq_true ⟨hhash, henabled⟩) hmissed
    | some entry =>
      have htest := List.find?_some hfind
      simp only [decide_eq_true_eq] at htest
      have hfound := Dict.mem_entries_iff.mp (List.mem_of_find?_eq_some hfind)
      have hkey : entry.1 = keyId := s.unique hfound hrow (htest.1.trans hhash.symm)
      rw [hkey, hrow] at hfound
      rw [Option.map_some, hkey, Option.some.inj hfound]

/-- The upsert writes one row, if the statement does not fail. -/
theorem get?_of_saveKey (h : s.saveKey record = .ok s') (keyId : String) :
    s'.rows.get? keyId = if keyId = record.keyId then some record.row else s.rows.get? keyId := by
  rw [saveKey] at h
  split at h
  · obtain rfl := Except.ok.inj h
    exact Dict.get?_set ..
  · cases h

/-- What is saved is found by its identifier. -/
theorem get?_saveKey (h : s.saveKey record = .ok s') :
    s'.rows.get? record.keyId = some record.row := by
  rw [saveKey] at h
  split at h
  · obtain rfl := Except.ok.inj h
    exact (Dict.get?_set ..).trans (if_pos rfl)
  · cases h

theorem getKey_saveKey (h : s.saveKey record = .ok s') :
    s'.getKey record.keyId = some (record.row.toRecord record.keyId) := by
  rw [getKey, get?_saveKey h, Option.map_some]

/-- A key that is enabled is found by its hash, and no other is. -/
theorem lookupByHash_saveKey (h : s.saveKey record = .ok s') :
    s'.lookupByHash record.keyHash =
      if record.enabled = true then some (record.row.toRecord record.keyId) else none := by
  have hrow := get?_saveKey h
  have honly {entry : String × ApiKeyRow} (hentry : entry ∈ s'.rows.entries)
      (hhash : entry.2.keyHash = record.keyHash) : entry = (record.keyId, record.row) := by
    have hfound := Dict.mem_entries_iff.mp hentry
    have hkey : entry.1 = record.keyId := s'.unique hfound hrow hhash
    rw [hkey, hrow] at hfound
    exact Prod.ext hkey (Option.some.inj hfound).symm
  rw [lookupByHash]
  cases hfind : s'.rows.entries.find? fun entry ↦
      entry.2.keyHash = record.keyHash ∧ entry.2.enabled = 1 with
  | none =>
    have hmissed := List.find?_eq_none.mp hfind (record.keyId, record.row)
      (Dict.mem_entries_iff.mpr hrow)
    cases henabled : record.enabled with
    | false => rfl
    | true => simp [ApiKeyRecord.row, henabled] at hmissed
  | some entry =>
    have htest := List.find?_some hfind
    simp only [decide_eq_true_eq] at htest
    obtain rfl := honly (List.mem_of_find?_eq_some hfind) htest.1
    cases henabled : record.enabled with
    | false => simp [ApiKeyRecord.row, henabled] at htest
    | true => rfl

end

/-- What is found is a record with these roles. -/
def Finds (found : Option ApiKeyRecord) (roles : List String) : Prop :=
  ∃ record, found = some record ∧ record.roles = roles

theorem finds_some_row {record : ApiKeyRecord} :
    Finds (some (record.row.toRecord record.keyId)) record.roles ↔
      ∀ role ∈ record.roles, Plain role := by
  rw [← decodeRoles_encodeRoles]
  constructor
  · rintro ⟨found, hfound, hroles⟩
    obtain rfl := Option.some.inj hfound
    exact hroles
  · intro hroles
    exact ⟨_, rfl, hroles⟩

/-- **Which keys keep their roles.**  Whatever is in the store, a key that it takes is found by its
identifier with the roles it was saved with, exactly if all of these are plain; and it is found so by
its hash exactly if it is also enabled. -/
theorem roles_kept_iff (s s' : SQLiteApiKeyStore) (record : ApiKeyRecord)
    (h : s.saveKey record = .ok s') :
    (Finds (s'.getKey record.keyId) record.roles ↔ ∀ role ∈ record.roles, Plain role) ∧
      (Finds (s'.lookupByHash record.keyHash) record.roles ↔
        record.enabled = true ∧ ∀ role ∈ record.roles, Plain role) := by
  rw [getKey_saveKey h, lookupByHash_saveKey h]
  refine ⟨finds_some_row, ?_⟩
  by_cases henabled : record.enabled = true
  · rw [if_pos henabled, finds_some_row]
    exact (and_iff_right henabled).symm
  · rw [if_neg henabled]
    refine iff_of_false ?_ fun hboth ↦ henabled hboth.1
    rintro ⟨found, hfound, -⟩
    cases hfound

/-- A key with these roles. -/
def keyWithRoles (roles : List String) : ApiKeyRecord where
  keyId := "k1"
  tenantId := "t1"
  subject := "u1"
  keyHash := "abc"
  roles := roles

/-- The store with this key only. -/
def storeWithRoles (roles : List String) : SQLiteApiKeyStore :=
  empty.upsert (keyWithRoles roles) (by intro entry hentry; cases hentry)

/-- A reader and operator keeps both roles. -/
theorem roles_kept_iff_reader :
    (Finds ((storeWithRoles ["reader", "operator"]).getKey "k1") ["reader", "operator"] ↔
        ∀ role ∈ ["reader", "operator"], Plain role) ∧
      (Finds ((storeWithRoles ["reader", "operator"]).lookupByHash "abc") ["reader", "operator"] ↔
        true = true ∧ ∀ role ∈ ["reader", "operator"], Plain role) :=
  roles_kept_iff empty (storeWithRoles ["reader", "operator"]) (keyWithRoles ["reader", "operator"])
    rfl

/-- A key is saved with one role, and found with the role of an administrator. -/
theorem role_granted :
    (keyWithRoles ["reader,admin"]).enabled = true ∧
      (empty.saveKey (keyWithRoles ["reader,admin"])).toOption.map
        (fun s ↦ ((s.getKey "k1").map ApiKeyRecord.roles,
          (s.lookupByHash "abc").map ApiKeyRecord.roles)) =
        some (some ["reader", "admin"], some ["reader", "admin"]) := by
  decide +kernel

end SQLiteApiKeyStore

end Persistence
end ExoBrain
