import ExoBrain.Api.TenantPolicies
import ExoBrain.Identity.AccessService

/-!
# Authentication, and the scope of a tenant

`extract_identity` (`middleware/auth.py`) makes an identity of the headers of a request.  A bearer token
is first tried as a JWT and then as an API key, and whoever sends one is not asked for anything else.
`X-Identity` says who one is without any proof, and is read in a test environment only.

`require_valid_identity` and `enforce_tenant_scope` (`dependencies.py`) are the gates before the routes;
`websocket_turn` (`turns.py`) has gates of its own.

* `Authentic` says of an identity that a token was verified for it or that it belongs to a key that is
  stored, and `authentic_of_extractIdentity` that there are no others outside a test environment.
* `enforceTenantScope_eq_ok` and `websocketGate_eq_ok` are the two gates.  They differ for an identity
  without a tenant only.
-/

set_option autoImplicit false

namespace ExoBrain
namespace Api

open Checks Identity Persistence

/-- The headers that are read, each with the first of its values. -/
structure Headers where
  /-- `Authorization`. -/
  authorization : String := ""
  /-- `X-API-Key`. -/
  xApiKey : String := ""
  /-- `X-Identity`. -/
  xIdentity : Option String := none
deriving DecidableEq, Repr

/-- `AuthSettings`. -/
structure AuthSettings where
  jwtSecret : String := ""
  jwksUrl : String := ""
  algorithm : String := "HS256"
  allowCrossTenantAdmin : Bool := false
  crossTenantAdminRoles : List String := ["super_admin"]
deriving DecidableEq, Repr

/-- The settings of an application, and what it calls, as far as authentication goes. -/
structure AuthSystem where
  environment : String
  auth : AuthSettings
  jwt : Jwt
  /-- `_hash_key`. -/
  hashKey : (rawKey : String) → String
  isPrintable : Char → Bool
  /-- `repr(float(text))`. -/
  showFloat : (text : String) → String

/-- `_TEST_ENVIRONMENTS`. -/
def testEnvironments : List String := ["test", "development"]

/-- `is_identity_usable`. -/
def isIdentityUsable (identity : IdentityContext) : Bool :=
  identity.tokenValidationState ∉ [.invalid, .expired]

/-- The token of an `Authorization` header, if it is one for bearers. -/
def bearerToken? (authHeader : String) : Option String :=
  if "bearer ".toList <+: (Text.lower authHeader).toList then
    some (Text.strip (String.ofList (authHeader.toList.drop 7)))
  else none

/-- The identity of a key. -/
def identityOfKey (record : ApiKeyRecord) : IdentityContext where
  subject := record.subject
  tenantId := record.tenantId
  roles := record.roles
  tokenId := record.keyId
  tokenValidationState := .valid

namespace AuthSystem

variable (A : AuthSystem)

/-- The service for administrators, as it is set up (`platform_bootstrap/service.py`). -/
def identityAccess : IdentityAccessService where
  allowCrossTenantAdmin := A.auth.allowCrossTenantAdmin
  crossTenantAdminRoles := A.auth.crossTenantAdminRoles
  hashKey := A.hashKey

/-- `_resolve_from_api_key`. -/
def resolveFromApiKey (keys : Option SQLiteApiKeyStore) (rawKey : String) :
    Option IdentityContext :=
  ((keys.bind fun store ↦ store.lookupByHash (A.hashKey rawKey)).filter
    fun record ↦ record.enabled).map identityOfKey

/-- `_resolve_from_jwt`. -/
def resolveFromJwt (now : Nat) (token : String) : Except String (Option IdentityContext) :=
  if A.auth.jwtSecret = "" ∧ A.auth.jwksUrl = "" then .ok none
  else if Text.strip A.auth.jwksUrl ≠ "" then
    .ok (decodeJwtFromJwks A.isPrintable A.jwt now token (Text.strip A.auth.jwksUrl))
  else decodeJwt A.isPrintable A.jwt now token A.auth.jwtSecret A.auth.algorithm

/-- The identity of `X-Identity`, if it can be read. -/
def resolveFromHeader (rawHeader : Option String) : Option IdentityContext :=
  ((rawHeader.filter (· ≠ "")).bind (Json.loads A.showFloat)).bind (resolveIdentity A.isPrintable)

/-- `extract_identity`. -/
def extractIdentity (keys : Option SQLiteApiKeyStore) (now : Nat) (headers : Headers) :
    Except String (Option IdentityContext) :=
  match bearerToken? headers.authorization with
  | some token =>
    if token = "" then .ok none
    else do
      match ← A.resolveFromJwt now token with
      | some jwtIdentity =>
        if jwtIdentity.tokenValidationState ∈ [.expired, .valid] then return some jwtIdentity
        else return A.resolveFromApiKey keys token
      | none => return A.resolveFromApiKey keys token
  | none =>
    let rawApiKey := Text.strip headers.xApiKey
    if rawApiKey ≠ "" then .ok (A.resolveFromApiKey keys rawApiKey)
    else if A.environment ∈ testEnvironments then .ok (A.resolveFromHeader headers.xIdentity)
    else .ok none

/-- `get_identity` and `require_valid_identity`. -/
def requireValidIdentity (keys : Option SQLiteApiKeyStore) (now : Nat) (headers : Headers) :
    Except HttpException IdentityContext := do
  let found ← (A.extractIdentity keys now headers).mapError
    fun _ ↦ ⟨500, "Internal Server Error"⟩
  let identity ← require found ⟨401, "Authentication required. Provide 'Authorization: Bearer " ++
    "<token>', 'X-API-Key: <key>', or (test/dev only) 'X-Identity: <json>'."⟩
  check (isIdentityUsable identity = true) ⟨401, "Identity rejected: token_validation_state=" ++
    identity.tokenValidationState.value⟩
  return identity

/-! ## The scope of a tenant -/

/-- `_cross_tenant_admin_allowed`, and `_websocket_cross_tenant_admin_allowed` alike. -/
def crossTenantAdminAllowed (path : String) (identity : IdentityContext) : Bool :=
  Text.contains "/tenants/" (Text.strip path) && Text.contains "/admin/" (Text.strip path) &&
    A.identityAccess.allowCrossTenantAdminAccess identity

/-- `enforce_tenant_scope`. -/
def enforceTenantScope (tenantId path : String) (identity : IdentityContext) :
    Except HttpException Unit :=
  let identityTenant := Text.strip identity.tenantId
  let pathTenant := Text.strip tenantId
  if identityTenant ≠ "" ∧ identityTenant = pathTenant then .ok ()
  else if A.crossTenantAdminAllowed path identity = true then .ok ()
  else .error ⟨403, "TENANT_SCOPE_MISMATCH: authenticated identity is not allowed to access " ++
    "tenant '" ++ pathTenant ++ "'."⟩

/-- The code and the reason a WebSocket is closed with. -/
structure WebSocketClose where
  code : Nat
  reason : String
deriving DecidableEq, Repr

/-- The gates of `websocket_turn`, up to the search for the session. -/
def websocketGate (keys : Option SQLiteApiKeyStore) (now : Nat) (headers : Headers)
    (tenantId path : String) : Except WebSocketClose IdentityContext := do
  let found ← (A.extractIdentity keys now headers).mapError fun _ ↦ ⟨1011, "Internal Server Error"⟩
  let identity ← require (found.filter isIdentityUsable) ⟨4401, "Authentication required"⟩
  check (¬(Text.strip identity.tenantId ≠ Text.strip tenantId ∧
      ¬A.crossTenantAdminAllowed path identity = true)) ⟨4403, "TENANT_SCOPE_MISMATCH"⟩
  return identity

end AuthSystem

/-! ## Where an identity comes from -/

section
variable {A : AuthSystem} {keys : Option SQLiteApiKeyStore} {now : Nat} {headers : Headers}
  {identity : IdentityContext} {tenantId path rawKey token : String}

/-- A token is verified, and its claims make the identity. -/
def AuthSystem.Verifies (A : AuthSystem) (now : Nat) (token : String) (identity : IdentityContext) :
    Prop :=
  A.resolveFromJwt now token = .ok (some identity) ∧ identity.tokenValidationState = .valid

/-- The identity belongs to a key of the store. -/
def OfKey (keys : Option SQLiteApiKeyStore) (identity : IdentityContext) : Prop :=
  ∃ store keyId row, keys = some store ∧ store.rows.get? keyId = some row ∧
    identity = identityOfKey (row.toRecord keyId)

/-- Who stands behind an identity: a token that was verified, or a key that is stored. -/
def AuthSystem.Authentic (A : AuthSystem) (keys : Option SQLiteApiKeyStore) (now : Nat)
    (headers : Headers) (identity : IdentityContext) : Prop :=
  (∃ token, bearerToken? headers.authorization = some token ∧ A.Verifies now token identity) ∨
    OfKey keys identity

theorem resolveFromApiKey_eq_some_iff :
    A.resolveFromApiKey keys rawKey = some identity ↔ ∃ store keyId row, keys = some store ∧
      store.rows.get? keyId = some row ∧ row.keyHash = A.hashKey rawKey ∧ row.enabled = 1 ∧
        identity = identityOfKey (row.toRecord keyId) := by
  rw [AuthSystem.resolveFromApiKey, Option.map_eq_some_iff]
  constructor
  · rintro ⟨record, hrecord, rfl⟩
    obtain ⟨hfound, -⟩ := Option.filter_eq_some_iff.mp hrecord
    obtain ⟨store, rfl, hlookup⟩ := Option.bind_eq_some_iff.mp hfound
    obtain ⟨keyId, row, hrow, hhash, henabled, rfl⟩ :=
      SQLiteApiKeyStore.lookupByHash_eq_some_iff.mp hlookup
    exact ⟨store, keyId, row, rfl, hrow, hhash, henabled, rfl⟩
  · rintro ⟨store, keyId, row, rfl, hrow, hhash, henabled, rfl⟩
    refine ⟨row.toRecord keyId, Option.filter_eq_some_iff.mpr ⟨Option.bind_eq_some_iff.mpr
      ⟨store, rfl, SQLiteApiKeyStore.lookupByHash_eq_some_iff.mpr
        ⟨keyId, row, hrow, hhash, henabled, rfl⟩⟩, ?_⟩, rfl⟩
    simp [ApiKeyRow.toRecord, henabled]

theorem ofKey_of_resolveFromApiKey (h : A.resolveFromApiKey keys rawKey = some identity) :
    OfKey keys identity := by
  obtain ⟨store, keyId, row, hstore, hrow, -, -, hidentity⟩ := resolveFromApiKey_eq_some_iff.mp h
  exact ⟨store, keyId, row, hstore, hrow, hidentity⟩

/-- The three ways to an identity, in their order. -/
theorem extractIdentity_cases (h : A.extractIdentity keys now headers = .ok (some identity)) :
    (∃ token, bearerToken? headers.authorization = some token ∧
        A.resolveFromJwt now token = .ok (some identity) ∧
          identity.tokenValidationState ∈ [.expired, .valid]) ∨
      OfKey keys identity ∨
        A.environment ∈ testEnvironments ∧
          A.resolveFromHeader headers.xIdentity = some identity := by
  rw [AuthSystem.extractIdentity] at h
  cases hbearer : bearerToken? headers.authorization with
  | some token =>
    rw [hbearer] at h
    dsimp only at h
    split at h
    · cases h
    · obtain ⟨found, hjwt, h⟩ := bind_eq_ok.mp h
      cases found with
      | none => exact .inr (.inl (ofKey_of_resolveFromApiKey (Except.ok.inj h)))
      | some jwtIdentity =>
        dsimp only at h
        split at h
        · rename_i hstate
          obtain rfl := Option.some.inj (Except.ok.inj h)
          exact .inl ⟨token, rfl, hjwt, hstate⟩
        · exact .inr (.inl (ofKey_of_resolveFromApiKey (Except.ok.inj h)))
  | none =>
    rw [hbearer] at h
    dsimp only at h
    split at h
    · exact .inr (.inl (ofKey_of_resolveFromApiKey (Except.ok.inj h)))
    · split at h
      · rename_i htest
        exact .inr (.inr ⟨htest, Except.ok.inj h⟩)
      · cases h

theorem requireValidIdentity_eq_ok :
    A.requireValidIdentity keys now headers = .ok identity ↔
      A.extractIdentity keys now headers = .ok (some identity) ∧ isIdentityUsable identity = true := by
  constructor
  · intro h
    obtain ⟨found, hfound, h⟩ := bind_eq_ok.mp h
    obtain ⟨i, hsome, h⟩ := bind_eq_ok.mp h
    obtain ⟨_, husable, h⟩ := bind_eq_ok.mp h
    obtain rfl := Except.ok.inj h
    rw [← require_eq_ok.mp hsome]
    exact ⟨mapError_eq_ok.mp hfound, check_eq_ok.mp husable⟩
  · rintro ⟨hfound, husable⟩
    exact bind_eq_ok.mpr ⟨some identity, mapError_eq_ok.mpr hfound, bind_eq_ok.mpr
      ⟨identity, rfl, bind_eq_ok.mpr ⟨(), check_eq_ok.mpr husable, rfl⟩⟩⟩

/-- **Nobody is taken at their word** outside a test environment: behind an identity that is accepted
stands a token that was verified, or a key that is stored. -/
theorem authentic_of_extractIdentity (henvironment : A.environment ∉ testEnvironments)
    (h : A.extractIdentity keys now headers = .ok (some identity))
    (husable : isIdentityUsable identity = true) : A.Authentic keys now headers identity := by
  rcases extractIdentity_cases h with ⟨token, hbearer, hjwt, hstate⟩ | hkey | ⟨htest, -⟩
  · refine .inl ⟨token, hbearer, hjwt, ?_⟩
    rcases List.mem_cons.mp hstate with hexpired | hvalid
    · simp [isIdentityUsable, hexpired] at husable
    · exact List.mem_singleton.mp hvalid
  · exact .inr hkey
  · exact absurd htest henvironment

/-! ## The two gates -/

theorem enforceTenantScope_eq_ok {u : Unit} :
    A.enforceTenantScope tenantId path identity = .ok u ↔
      Text.strip identity.tenantId ≠ "" ∧ Text.strip identity.tenantId = Text.strip tenantId ∨
        A.crossTenantAdminAllowed path identity = true := by
  rw [AuthSystem.enforceTenantScope]
  split
  · exact iff_of_true rfl (.inl ‹_›)
  · split
    · exact iff_of_true rfl (.inr ‹_›)
    · rename_i hother hadmin
      exact iff_of_false nofun (not_or.mpr ⟨hother, hadmin⟩)

theorem websocketGate_eq_ok :
    A.websocketGate keys now headers tenantId path = .ok identity ↔
      A.extractIdentity keys now headers = .ok (some identity) ∧ isIdentityUsable identity = true ∧
        (Text.strip identity.tenantId = Text.strip tenantId ∨
          A.crossTenantAdminAllowed path identity = true) := by
  have hgate {i : IdentityContext} : (¬(Text.strip i.tenantId ≠ Text.strip tenantId ∧
      ¬A.crossTenantAdminAllowed path i = true)) ↔
        (Text.strip i.tenantId = Text.strip tenantId ∨ A.crossTenantAdminAllowed path i = true) := by
    rw [not_and_or, not_not, not_not]
  constructor
  · intro h
    obtain ⟨found, hfound, h⟩ := bind_eq_ok.mp h
    obtain ⟨i, hsome, h⟩ := bind_eq_ok.mp h
    obtain ⟨_, hscope, h⟩ := bind_eq_ok.mp h
    obtain rfl := Except.ok.inj h
    obtain ⟨rfl, husable⟩ := Option.filter_eq_some_iff.mp (require_eq_ok.mp hsome)
    exact ⟨mapError_eq_ok.mp hfound, husable, hgate.mp (check_eq_ok.mp hscope)⟩
  · rintro ⟨hfound, husable, hscope⟩
    exact bind_eq_ok.mpr ⟨some identity, mapError_eq_ok.mpr hfound, bind_eq_ok.mpr
      ⟨identity, require_eq_ok.mpr (Option.filter_eq_some_iff.mpr ⟨rfl, husable⟩), bind_eq_ok.mpr
        ⟨(), check_eq_ok.mpr (hgate.mpr hscope), rfl⟩⟩⟩

end

end Api
end ExoBrain
