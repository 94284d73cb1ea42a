import ExoBrain.Identity.Contexts
import ExoBrain.Lib.Checks
import ExoBrain.Persistence.ApiKeys

/-!
# Platform administrators and their keys

`IdentityAccessService` (`identity_access/service.py`) says who is a platform administrator, and lets
these create, list and delete API keys.  What `secrets` and the clock give to a new key is an input
(`Mint`), and `_hash_key` is a parameter.

A key is stored by its hash.  Creating one fails when its hash is there already, and nothing is stored
then.

`createApiKey_eq_ok`, `listApiKeys_eq_ok` and `deleteApiKey_eq_ok` say what a call has checked and done
when it returns.
-/

set_option autoImplicit false

namespace ExoBrain
namespace Identity

open Checks Persistence

/-- What a call of the service raises. -/
inductive AccessError
  /-- `IdentityAccessError`. -/
  | identityAccess (statusCode : Nat) (detail : String)
  /-- `sqlite3.IntegrityError`. -/
  | integrity (message : String)
deriving DecidableEq, Repr

/-- `PLATFORM_ADMIN_ROLES`. -/
def platformAdminRoles : List String := ["platform_admin", "super_admin"]

/-- `is_platform_admin`. -/
def isPlatformAdmin (identity : IdentityContext) : Bool :=
  identity.roles.any fun role ↦ Text.strip role ∈ platformAdminRoles

/-- `require_platform_admin`. -/
def requirePlatformAdmin (identity : IdentityContext) (surface : String) : Except AccessError Unit :=
  check (isPlatformAdmin identity = true)
    (.identityAccess 403 ("PLATFORM_ADMIN_REQUIRED: '" ++ surface ++
      "' requires one of the platform admin roles ['platform_admin', 'super_admin']."))

/-- `IdentityAccessService`, without its store. -/
structure IdentityAccessService where
  allowCrossTenantAdmin : Bool := false
  crossTenantAdminRoles : List String := ["super_admin"]
  /-- `_hash_key`. -/
  hashKey : (rawKey : String) → String

/-- What a new key is given: `secrets.token_hex(32)`, `secrets.token_hex(16)` and the time. -/
structure Mint where
  token : String
  keyId : String
  utcNow : String
deriving DecidableEq, Repr

/-- The key that is shown once. -/
def Mint.rawKey (mint : Mint) : String := "exo_" ++ mint.token

/-- The arguments of `create_api_key` (`ApiKeyCreateRequest`). -/
structure ApiKeyRequest where
  tenantId : String
  subject : String
  roles : List String := []
  description : String := ""
deriving DecidableEq, Repr

namespace IdentityAccessService

variable (S : IdentityAccessService)

/-- `allow_cross_tenant_admin_access`. -/
def allowCrossTenantAdminAccess (identity : IdentityContext) : Bool :=
  S.allowCrossTenantAdmin &&
    identity.roles.any fun role ↦
      Text.strip role ∈ (S.crossTenantAdminRoles.map Text.strip).filter (· ≠ "")

/-- `scoped_tenant_id`.  Without an identifier that is not blank the result is the tenant of the
identity, if it has one. -/
def scopedTenantId (identity : IdentityContext) (requestedTenantId : Option String) :
    Except AccessError (Option String) :=
  let normalizedRequested := Text.strip (requestedTenantId.getD "")
  let normalizedIdentityTenant := Text.strip identity.tenantId
  if normalizedRequested ≠ "" then
    if normalizedRequested = normalizedIdentityTenant then .ok (some normalizedRequested)
    else do
      requirePlatformAdmin identity "tenant_scope_override"
      return some normalizedRequested
  else .ok (if normalizedIdentityTenant = "" then none else some normalizedIdentityTenant)

/-- `_require_api_key_store`. -/
def requireApiKeyStore (keys : Option SQLiteApiKeyStore) : Except AccessError SQLiteApiKeyStore :=
  require keys (.identityAccess 503 "API key store is not configured on this server.")

/-- The record of a new key. -/
def newRecord (request : ApiKeyRequest) (mint : Mint) : ApiKeyRecord where
  keyId := mint.keyId
  tenantId := Text.strip request.tenantId
  subject := request.subject
  keyHash := S.hashKey mint.rawKey
  roles := (request.roles.map Text.strip).filter (· ≠ "")
  description := request.description
  enabled := true
  createdAt := mint.utcNow

/-- `create_api_key`, with the store afterwards. -/
def createApiKey (keys : Option SQLiteApiKeyStore) (identity : IdentityContext)
    (request : ApiKeyRequest) (mint : Mint) :
    Except AccessError (ApiKeyRecord × SQLiteApiKeyStore) := do
  requirePlatformAdmin identity "admin/keys:create"
  let store ← requireApiKeyStore keys
  check (Text.strip request.tenantId ≠ "") (.identityAccess 422 "tenant_id is required.")
  let record := S.newRecord request mint
  let store ← (store.saveKey record).mapError .integrity
  return (record, store)

/-- `list_api_keys`. -/
def listApiKeys (keys : Option SQLiteApiKeyStore) (identity : IdentityContext)
    (requestedTenantId : Option String) : Except AccessError (List ApiKeyRecord) := do
  requirePlatformAdmin identity "admin/keys:list"
  let store ← requireApiKeyStore keys
  let effectiveTenantId ← scopedTenantId identity requestedTenantId
  return store.listKeys effectiveTenantId

/-- `delete_api_key`, with the store afterwards. -/
def deleteApiKey (keys : Option SQLiteApiKeyStore) (identity : IdentityContext) (keyId : String) :
    Except AccessError (ApiKeyRecord × SQLiteApiKeyStore) := do
  requirePlatformAdmin identity "admin/keys:delete"
  let store ← requireApiKeyStore keys
  let existing ← require (store.getKey keyId)
    (.identityAccess 404 ("API key '" ++ keyId ++ "' not found."))
  return (existing, store.deleteKey keyId)

end IdentityAccessService

/-! ## What a call has done -/

section
variable {S : IdentityAccessService} {keys : Option SQLiteApiKeyStore} {identity : IdentityContext}

theorem requirePlatformAdmin_eq_ok {surface : String} {u : Unit} :
    requirePlatformAdmin identity surface = .ok u ↔ isPlatformAdmin identity = true :=
  check_eq_ok

theorem createApiKey_eq_ok {request : ApiKeyRequest} {mint : Mint} {record : ApiKeyRecord}
    {store' : SQLiteApiKeyStore} :
    S.createApiKey keys identity request mint = .ok (record, store') ↔
      isPlatformAdmin identity = true ∧ Text.strip request.tenantId ≠ "" ∧
        record = S.newRecord request mint ∧
          ∃ store, keys = some store ∧ store.saveKey record = .ok store' := by
  constructor
  · intro h
    obtain ⟨_, hadmin, h⟩ := bind_eq_ok.mp h
    obtain ⟨store, hstore, h⟩ := bind_eq_ok.mp h
    obtain ⟨_, htenant, h⟩ := bind_eq_ok.mp h
    obtain ⟨saved, hsave, h⟩ := bind_eq_ok.mp h
    obtain ⟨rfl, rfl⟩ := Prod.mk.inj (Except.ok.inj h)
    exact ⟨requirePlatformAdmin_eq_ok.mp hadmin, check_eq_ok.mp htenant, rfl, store,
      require_eq_ok.mp hstore, mapError_eq_ok.mp hsave⟩
  · rintro ⟨hadmin, htenant, rfl, store, rfl, hsave⟩
    exact bind_eq_ok.mpr ⟨(), requirePlatformAdmin_eq_ok.mpr hadmin, bind_eq_ok.mpr
      ⟨store, rfl, bind_eq_ok.mpr ⟨(), check_eq_ok.mpr htenant, bind_eq_ok.mpr
        ⟨store', mapError_eq_ok.mpr hsave, rfl⟩⟩⟩⟩

theorem listApiKeys_eq_ok {requestedTenantId : Option String} {records : List ApiKeyRecord}
    (h : IdentityAccessService.listApiKeys keys identity requestedTenantId = .ok records) :
    isPlatformAdmin identity = true := by
  obtain ⟨_, hadmin, -⟩ := bind_eq_ok.mp h
  exact requirePlatformAdmin_eq_ok.mp hadmin

theorem deleteApiKey_eq_ok {keyId : String} {record : ApiKeyRecord} {store' : SQLiteApiKeyStore} :
    IdentityAccessService.deleteApiKey keys identity keyId = .ok (record, store') ↔
      isPlatformAdmin identity = true ∧ ∃ store, keys = some store ∧
        store.getKey keyId = some record ∧ store' = store.deleteKey keyId := by
  constructor
  · intro h
    obtain ⟨_, hadmin, h⟩ := bind_eq_ok.mp h
    obtain ⟨store, hstore, h⟩ := bind_eq_ok.mp h
    obtain ⟨existing, hexisting, h⟩ := bind_eq_ok.mp h
    obtain ⟨rfl, rfl⟩ := Prod.mk.inj (Except.ok.inj h)
    exact ⟨requirePlatformAdmin_eq_ok.mp hadmin, store, require_eq_ok.mp hstore,
      require_eq_ok.mp hexisting, rfl⟩
  · rintro ⟨hadmin, store, rfl, hfound, rfl⟩
    exact bind_eq_ok.mpr ⟨(), requirePlatformAdmin_eq_ok.mpr hadmin, bind_eq_ok.mpr
      ⟨store, rfl, bind_eq_ok.mpr ⟨record, require_eq_ok.mpr hfound, rfl⟩⟩⟩

end

end Identity
end ExoBrain
