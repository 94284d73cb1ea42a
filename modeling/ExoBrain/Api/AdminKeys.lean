import ExoBrain.Api.Authentication
import ExoBrain.Lib.Delegation
import ExoBrain.Lib.Journal
import ExoBrain.Lib.Run

/-!
# Runs of the API, as far as keys and tenants go

`AuthSystem.step` is one request: to one of the routes for keys (`admin_keys.py`), to a route of a tenant
by HTTP or by WebSocket, or to a route that asks for an identity and nothing else.  The state is the
store of keys.

* `served_derives`: outside a test environment, a chain of keys that administrators have created leads
  to everybody who is served, from a token that was verified or from a key that was there before.
* `outsiders_stay_out`: so a tenant is closed to those who have no such token or key for it, and the keys
  stay as they are.
* `key_opens_iff`: a key opens the API from its creation to its deletion, and at no other time.
* `gates_agree`: a WebSocket is opened for whom the routes of the tenant are open.
-/

set_option autoImplicit false

namespace ExoBrain
namespace Api

open Checks Delegation Identity Journal Persistence Run

/-! ## Requests -/

/-- `ApiKeyInfo`. -/
structure ApiKeyInfo where
  keyId : String
  tenantId : String
  subject : String
  roles : List String
  description : String
  enabled : Bool
  createdAt : String
deriving DecidableEq, Repr

/-- `_record_to_info`. -/
def recordToInfo (record : ApiKeyRecord) : ApiKeyInfo where
  keyId := record.keyId
  tenantId := record.tenantId
  subject := record.subject
  roles := record.roles
  description := record.description
  enabled := record.enabled
  createdAt := record.createdAt

/-- `ApiKeyCreateResponse`. -/
structure ApiKeyCreateResponse where
  keyId : String
  key : String
  tenantId : String
  subject : String
  roles : List String
  description : String
  createdAt : String
deriving DecidableEq, Repr

/-- The response to `create_api_key`. -/
def keyResponse (record : ApiKeyRecord) (rawKey : String) : ApiKeyCreateResponse where
  keyId := record.keyId
  key := rawKey
  tenantId := record.tenantId
  subject := record.subject
  roles := record.roles
  description := record.description
  createdAt := record.createdAt

/-- A key is all that is brought. -/
def keyHeaders (rawKey : String) : Headers where
  xApiKey := rawKey

/-- What is asked for by HTTP. -/
inductive ApiRoute
  /-- `create_api_key`, and what the new key is given. -/
  | createKey (request : ApiKeyRequest) (mint : Mint)
  /-- `list_api_keys`. -/
  | listKeys (tenantId : Option String)
  /-- `delete_api_key`. -/
  | deleteKey (keyId : String)
  /-- A route behind `require_tenant_scope_identity`, by its path. -/
  | tenant (tenantId path : String)
  /-- A route behind `require_valid_identity` only. -/
  | open
deriving DecidableEq, Repr

/-- What is asked for. -/
inductive ApiAction
  | http (route : ApiRoute)
  /-- `websocket_turn`. -/
  | websocket (tenantId path : String)
deriving DecidableEq, Repr

/-- A request, and when it is made. -/
structure ApiCall where
  now : Nat
  headers : Headers
  action : ApiAction
deriving DecidableEq, Repr

/-- What is answered. -/
inductive ApiResponse
  | refused (error : HttpException)
  | closed (close : AuthSystem.WebSocketClose)
  | created (response : ApiKeyCreateResponse)
  | listed (keys : List ApiKeyInfo)
  | deleted
  /-- The route goes on. -/
  | entered
deriving DecidableEq, Repr

/-- An answer, and whom it serves if it does. -/
structure ApiAnswer where
  served : Option IdentityContext
  response : ApiResponse
deriving DecidableEq, Repr

/-- What is answered to an exception of the service. -/
def ofAccessError : AccessError → HttpException
  | .identityAccess statusCode detail => ⟨statusCode, detail⟩
  | .integrity _ => ⟨500, "Internal Server Error"⟩

namespace AuthSystem

variable (A : AuthSystem)

/-- The routes, for an identity that is valid. -/
def route (keys : Option SQLiteApiKeyStore) (identity : IdentityContext) :
    ApiRoute → ApiAnswer × Option SQLiteApiKeyStore
  | .createKey request mint =>
    match A.identityAccess.createApiKey keys identity request mint with
    | .ok (record, store) => (⟨some identity, .created (keyResponse record mint.rawKey)⟩, some store)
    | .error error => (⟨none, .refused (ofAccessError error)⟩, keys)
  | .listKeys tenantId =>
    match IdentityAccessService.listApiKeys keys identity tenantId with
    | .ok records => (⟨some identity, .listed (records.map recordToInfo)⟩, keys)
    | .error error => (⟨none, .refused (ofAccessError error)⟩, keys)
  | .deleteKey keyId =>
    match IdentityAccessService.deleteApiKey keys identity keyId with
    | .ok (_, store) => (⟨some identity, .deleted⟩, some store)
    | .error error => (⟨none, .refused (ofAccessError error)⟩, keys)
  | .tenant tenantId path =>
    match A.enforceTenantScope tenantId path identity with
    | .ok () => (⟨some identity, .entered⟩, keys)
    | .error error => (⟨none, .refused error⟩, keys)
  | .open => (⟨some identity, .entered⟩, keys)

/-- A request. -/
def step (keys : Option SQLiteApiKeyStore) (call : ApiCall) :
    ApiAnswer × Option SQLiteApiKeyStore :=
  match call.action with
  | .http route =>
    match A.requireValidIdentity keys call.now call.headers with
    | .ok identity => A.route keys identity route
    | .error error => (⟨none, .refused error⟩, keys)
  | .websocket tenantId path =>
    match A.websocketGate keys call.now call.headers tenantId path with
    | .ok identity => (⟨some identity, .entered⟩, keys)
    | .error close => (⟨none, .closed close⟩, keys)

/-! ## What a request can do -/

/-- The identity of the key that a request asks for. -/
def newIdentity (request : ApiKeyRequest) (mint : Mint) : IdentityContext :=
  identityOfKey ((A.identityAccess.newRecord request mint).row.toRecord mint.keyId)

end AuthSystem

section
variable {A : AuthSystem} {keys : Option SQLiteApiKeyStore} {call : ApiCall}
  {identity : IdentityContext}

/-- A key is created for an administrator. -/
structure Creates (A : AuthSystem) (keys : Option SQLiteApiKeyStore) (identity : IdentityContext)
    (request : ApiKeyRequest) (mint : Mint) (keys' : Option SQLiteApiKeyStore) : Prop where
  admin : isPlatformAdmin identity = true
  tenant : Text.strip request.tenantId ≠ ""
  saved : ∃ store store', keys = some store ∧ keys' = some store' ∧
    store.saveKey (A.identityAccess.newRecord request mint) = .ok store'

/-- A key is deleted for an administrator. -/
structure Deletes (keys : Option SQLiteApiKeyStore) (identity : IdentityContext) (keyId : String)
    (keys' : Option SQLiteApiKeyStore) : Prop where
  admin : isPlatformAdmin identity = true
  deleted : ∃ store, keys = some store ∧ keys' = some (store.deleteKey keyId)

/-- What a request does for whom it serves. -/
def AuthSystem.Serves (A : AuthSystem) (keys : Option SQLiteApiKeyStore)
    (identity : IdentityContext) (keys' : Option SQLiteApiKeyStore) : ApiAction → Prop
  | .http (.createKey request mint) => Creates A keys identity request mint keys'
  | .http (.listKeys _) => isPlatformAdmin identity = true ∧ keys' = keys
  | .http (.deleteKey keyId) => Deletes keys identity keyId keys'
  | .http (.tenant tenantId path) =>
    A.enforceTenantScope tenantId path identity = .ok () ∧ keys' = keys
  | .http .open => keys' = keys
  | .websocket tenantId path => (Text.strip identity.tenantId = Text.strip tenantId ∨
      A.crossTenantAdminAllowed path identity = true) ∧ keys' = keys

theorem route_cases (route : ApiRoute) :
    (A.route keys identity route).1.served = none ∧ (A.route keys identity route).2 = keys ∨
      (A.route keys identity route).1.served = some identity ∧
        A.Serves keys identity (A.route keys identity route).2 (.http route) := by
  cases route with
  | createKey request mint =>
    cases h : A.identityAccess.createApiKey keys identity request mint with
    | error error => exact .inl (by simp [AuthSystem.route, h])
    | ok result =>
      obtain ⟨record, store'⟩ := result
      obtain ⟨hadmin, htenant, rfl, store, hstore, hsave⟩ := createApiKey_eq_ok.mp h
      refine .inr ⟨by simp [AuthSystem.route, h], hadmin, htenant, store, store', hstore, ?_, hsave⟩
      simp [AuthSystem.route, h]
  | listKeys tenantId =>
    cases h : IdentityAccessService.listApiKeys keys identity tenantId with
    | error error => exact .inl (by simp [AuthSystem.route, h])
    | ok records =>
      refine .inr ⟨by simp [AuthSystem.route, h], listApiKeys_eq_ok h, ?_⟩
      simp [AuthSystem.route, h]
  | deleteKey keyId =>
    cases h : IdentityAccessService.deleteApiKey keys identity keyId with
    | error error => exact .inl (by simp [AuthSystem.route, h])
    | ok result =>
      obtain ⟨record, store'⟩ := result
      obtain ⟨hadmin, store, hstore, -, rfl⟩ := deleteApiKey_eq_ok.mp h
      exact .inr ⟨by simp [AuthSystem.route, h], hadmin, store, hstore, by simp [AuthSystem.route, h]⟩
  | tenant tenantId path =>
    cases h : A.enforceTenantScope tenantId path identity with
    | error error => exact .inl (by simp [AuthSystem.route, h])
    | ok _ => exact .inr ⟨by simp [AuthSystem.route, h], h, by simp [AuthSystem.route, h]⟩
  | «open» => exact .inr ⟨rfl, rfl⟩

/-- **What a request can do.**  It serves nobody and changes nothing, or it serves an identity that its
headers have. -/
theorem authStep_cases (keys : Option SQLiteApiKeyStore) (call : ApiCall) :
    (A.step keys call).1.served = none ∧ (A.step keys call).2 = keys ∨
      ∃ identity, (A.step keys call).1.served = some identity ∧
        A.extractIdentity keys call.now call.headers = .ok (some identity) ∧
          isIdentityUsable identity = true ∧
            A.Serves keys identity (A.step keys call).2 call.action := by
  obtain ⟨now, headers, action⟩ := call
  cases action with
  | http route =>
    cases h : A.requireValidIdentity keys now headers with
    | error error => exact .inl (by simp [AuthSystem.step, h])
    | ok identity =>
      have hstep : A.step keys ⟨now, headers, .http route⟩ = A.route keys identity route := by
        simp [AuthSystem.step, h]
      obtain ⟨hextract, husable⟩ := requireValidIdentity_eq_ok.mp h
      rw [hstep]
      rcases route_cases route with hnone | ⟨hserved, hserves⟩
      · exact .inl hnone
      · exact .inr ⟨identity, hserved, hextract, husable, hserves⟩
  | websocket tenantId path =>
    cases h : A.websocketGate keys now headers tenantId path with
    | error close => exact .inl (by simp [AuthSystem.step, h])
    | ok identity =>
      obtain ⟨hextract, husable, hscope⟩ := websocketGate_eq_ok.mp h
      refine .inr ⟨identity, by simp [AuthSystem.step, h], hextract, husable, ?_⟩
      exact ⟨hscope, by simp [AuthSystem.step, h]⟩

/-- The keys change for an administrator only. -/
theorem step_keys (h : (A.step keys call).2 ≠ keys) :
    ∃ identity, (A.step keys call).1.served = some identity ∧ isPlatformAdmin identity = true := by
  rcases authStep_cases keys call with ⟨-, hsame⟩ | ⟨identity, hserved, -, -, hserves⟩
  · exact absurd hsame h
  · refine ⟨identity, hserved, ?_⟩
    obtain ⟨now, headers, action⟩ := call
    cases action with
    | http route =>
      cases route with
      | createKey request mint => exact hserves.admin
      | listKeys tenantId => exact hserves.1
      | deleteKey keyId => exact hserves.admin
      | tenant tenantId path => exact absurd hserves.2 h
      | «open» => exact absurd hserves h
    | websocket tenantId path => exact absurd hserves.2 h

/-! ## Chains of grants -/

/-- Who has their rights from outside: those with a token that is verified in a call of the run, and
those with a key that was there at its beginning. -/
def AuthSystem.Root (A : AuthSystem) (keys : Option SQLiteApiKeyStore) (calls : List ApiCall)
    (identity : IdentityContext) : Prop :=
  OfKey keys identity ∨ ∃ call ∈ calls, ∃ token,
    bearerToken? call.headers.authorization = some token ∧ A.Verifies call.now token identity

/-- An administrator has created the key of somebody else in the run. -/
def AuthSystem.Grants (A : AuthSystem) (log : List (ApiCall × ApiAnswer))
    (admin identity : IdentityContext) : Prop :=
  isPlatformAdmin admin = true ∧ ∃ e ∈ log, e.2.served = some admin ∧ ∃ request mint,
    e.1.action = .http (.createKey request mint) ∧ identity = A.newIdentity request mint

/-- The rows after a request were there before, or one is created. -/
theorem ofKey_step (h : OfKey (A.step keys call).2 identity) :
    OfKey keys identity ∨ ∃ admin request mint, (A.step keys call).1.served = some admin ∧
      call.action = .http (.createKey request mint) ∧
        Creates A keys admin request mint (A.step keys call).2 ∧
          identity = A.newIdentity request mint := by
  rcases authStep_cases keys call with ⟨-, hsame⟩ | ⟨admin, hserved, -, -, hserves⟩
  · exact .inl (hsame ▸ h)
  obtain ⟨now, headers, action⟩ := call
  cases action with
  | http route =>
    cases route with
    | createKey request mint =>
      obtain ⟨store, store', rfl, hstore', hsave⟩ := hserves.saved
      obtain ⟨_, keyId, row, hkeys', hrow, hidentity⟩ := h
      obtain rfl := Option.some.inj (hstore'.symm.trans hkeys')
      rw [SQLiteApiKeyStore.get?_of_saveKey hsave] at hrow
      split at hrow
      · rename_i hkey
        obtain rfl := Option.some.inj hrow
        subst hkey
        exact .inr ⟨admin, request, mint, hserved, rfl, hserves, hidentity⟩
      · exact .inl ⟨store, keyId, row, rfl, hrow, hidentity⟩
    | deleteKey keyId' =>
      obtain ⟨-, store, rfl, hstore'⟩ := hserves
      obtain ⟨_, keyId, row, hkeys', hrow, hidentity⟩ := h
      obtain rfl := Option.some.inj (hstore'.symm.trans hkeys')
      exact .inl ⟨store, keyId, row, rfl, Dict.get?_of_erase hrow, hidentity⟩
    | listKeys tenantId => exact .inl (hserves.2 ▸ h)
    | tenant tenantId path => exact .inl (hserves.2 ▸ h)
    | «open» => exact .inl (hserves ▸ h)
  | websocket tenantId path => exact .inl (hserves.2 ▸ h)

end

section
variable {A : AuthSystem} {keys : Option SQLiteApiKeyStore} {calls : List ApiCall} {call : ApiCall}
  {identity : IdentityContext}

theorem root_mono {calls' : List ApiCall} (h : A.Root keys calls identity) :
    A.Root keys (calls ++ calls') identity :=
  h.imp id fun ⟨call, hcall, htoken⟩ ↦ ⟨call, List.mem_append_left _ hcall, htoken⟩

theorem grants_mono {log log' : List (ApiCall × ApiAnswer)} {admin : IdentityContext}
    (h : A.Grants log admin identity) : A.Grants (log ++ log') admin identity :=
  h.imp id fun ⟨e, he, hcreated⟩ ↦ ⟨e, List.mem_append_left _ he, hcreated⟩

theorem served_of_keys (henvironment : A.environment ∉ testEnvironments)
    {log : List (ApiCall × ApiAnswer)} {keys' : Option SQLiteApiKeyStore}
    (hkeys : ∀ i, OfKey keys' i → Derived (A.Root keys calls) (A.Grants log) i)
    (h : (A.step keys' call).1.served = some identity) :
    Derived (A.Root keys (calls ++ [call])) (A.Grants log) identity := by
  rcases authStep_cases keys' call with ⟨hnone, -⟩ | ⟨i, hserved, hextract, husable, -⟩
  · cases hnone.symm.trans h
  obtain rfl := Option.some.inj (hserved.symm.trans h)
  rcases authentic_of_extractIdentity henvironment hextract husable with
    ⟨token, hbearer, hverifies⟩ | hkey
  · exact .of_root (.inr ⟨call, List.mem_append_right _ List.mem_cons_self, token, hbearer,
      hverifies⟩)
  · exact (hkeys i hkey).mono (fun _ ↦ root_mono) fun _ _ hgrant ↦ hgrant

/-- All keys of the store have been granted, or were there before. -/
theorem keys_derive (henvironment : A.environment ∉ testEnvironments)
    (h : OfKey (exec A.step keys calls) identity) :
    Derived (A.Root keys calls) (A.Grants (trace A.step keys calls)) identity := by
  induction calls using List.reverseRecOn generalizing identity with
  | nil => exact .of_root (.inl h)
  | append_singleton calls call ih =>
    rw [exec_append] at h
    rw [trace_append]
    rcases ofKey_step h with hold | ⟨admin, request, mint, hserved, haction, hcreates, hnew⟩
    · exact (ih hold).mono (fun _ ↦ root_mono) fun _ _ ↦ grants_mono
    · refine ((served_of_keys henvironment (fun _ ↦ ih) hserved).mono (fun _ hroot ↦ hroot)
        fun _ _ ↦ grants_mono).grant
          ⟨hcreates.admin, (call, _), ?_, hserved, request, mint, haction, hnew⟩
      exact List.mem_append_right _ List.mem_cons_self

/-- **Where a right comes from.**  Outside a test environment, in every run, a chain of keys that were
created for administrators leads to whoever is served, from a token that was verified in the run or a
key that was there at its beginning. -/
theorem served_derives (A : AuthSystem) (henvironment : A.environment ∉ testEnvironments)
    (keys : Option SQLiteApiKeyStore) (calls : List ApiCall) (call : ApiCall)
    (identity : IdentityContext)
    (h : (A.step (exec A.step keys calls) call).1.served = some identity) :
    Derived (A.Root keys (calls ++ [call])) (A.Grants (trace A.step keys calls)) identity :=
  served_of_keys henvironment (fun _ ↦ keys_derive henvironment) h

/-- A server without JWTs. -/
def keyServer : AuthSystem where
  environment := "production"
  auth := {}
  jwt := ⟨fun _ _ _ _ ↦ .error .invalidToken, fun _ _ _ ↦ .error .invalidToken⟩
  hashKey := fun rawKey ↦ "#" ++ rawKey
  isPrintable := fun _ ↦ true
  showFloat := id

theorem admits_empty (record : ApiKeyRecord) : SQLiteApiKeyStore.empty.Admits record := nofun

/-- A store with one key, `exo_0`. -/
def storeOfOne (tenantId : String) (roles : List String) : SQLiteApiKeyStore :=
  SQLiteApiKeyStore.empty.upsert ⟨"k0", tenantId, "u0", "#exo_0", roles, "", true, ""⟩
    (admits_empty _)

/-- A caller with the key `exo_0` asks for another one. -/
def createCall (mint : Mint) : ApiCall where
  now := 0
  headers := keyHeaders "exo_0"
  action := .http (.createKey ⟨"t1", "u1", ["reader"], ""⟩ mint)

/-- An administrator creates a key, and its owner is served. -/
theorem served_derives_granted :
    Derived (keyServer.Root (some (storeOfOne "ops" ["super_admin"]))
        ([createCall ⟨"1", "k1", ""⟩] ++ [⟨1, keyHeaders "exo_1", .http .open⟩]))
      (keyServer.Grants (trace keyServer.step (some (storeOfOne "ops" ["super_admin"]))
        [createCall ⟨"1", "k1", ""⟩]))
      (keyServer.newIdentity ⟨"t1", "u1", ["reader"], ""⟩ ⟨"1", "k1", ""⟩) :=
  served_derives keyServer (by decide) (some (storeOfOne "ops" ["super_admin"]))
    [createCall ⟨"1", "k1", ""⟩] ⟨1, keyHeaders "exo_1", .http .open⟩ _ (by decide +kernel)

/-! ## Outsiders -/

/-- The request is about keys, or about the tenant. -/
def Touches (tenantId : String) : ApiAction → Prop
  | .http (.createKey _ _) | .http (.listKeys _) | .http (.deleteKey _) => True
  | .http (.tenant tenantId' _) | .websocket tenantId' _ => Text.strip tenantId' = Text.strip tenantId
  | .http .open => False

/-- Neither an administrator, of whatever kind, nor of the tenant. -/
structure Outsider (A : AuthSystem) (tenantId : String) (identity : IdentityContext) : Prop where
  admin : isPlatformAdmin identity = false
  crossTenant : A.identityAccess.allowCrossTenantAdminAccess identity = false
  tenant : Text.strip identity.tenantId ≠ Text.strip tenantId

theorem not_serves_of_outsider {tenantId : String} {keys' : Option SQLiteApiKeyStore}
    {action : ApiAction} (h : Outsider A tenantId identity) (htouches : Touches tenantId action) :
    ¬A.Serves keys identity keys' action := by
  have hadmin : ¬isPlatformAdmin identity = true := by simp [h.admin]
  have hcross (path : String) : ¬A.crossTenantAdminAllowed path identity = true := by
    simp [AuthSystem.crossTenantAdminAllowed, h.crossTenant]
  intro hserves
  cases action with
  | http route =>
    cases route with
    | createKey request mint => exact hadmin hserves.admin
    | listKeys tenantId' => exact hadmin hserves.1
    | deleteKey keyId => exact hadmin hserves.admin
    | tenant tenantId' path =>
      rcases enforceTenantScope_eq_ok.mp hserves.1 with ⟨-, hsame⟩ | hcrossed
      · exact h.tenant (hsame.trans htouches)
      · exact hcross path hcrossed
    | «open» => exact htouches
  | websocket tenantId' path =>
    rcases hserves.1 with hsame | hcrossed
    · exact h.tenant (hsame.trans htouches)
    · exact hcross path hcrossed

/-- If nobody could grant anything, only those are served who have their rights from outside. -/
theorem root_of_served (henvironment : A.environment ∉ testEnvironments)
    (hroots : ∀ i, A.Root keys (calls ++ [call]) i → isPlatformAdmin i = false)
    (h : (A.step (exec A.step keys calls) call).1.served = some identity) :
    A.Root keys (calls ++ [call]) identity := by
  have hpower (i j : IdentityContext) (hgrant : A.Grants (trace A.step keys calls) i j) :
      isPlatformAdmin i = true := hgrant.1
  have hnobody (i : IdentityContext) (hi : A.Root keys (calls ++ [call]) i) :
      ¬isPlatformAdmin i = true := by
    rw [hroots i hi]
    exact Bool.false_ne_true
  exact (served_derives A henvironment keys calls call identity h).root_of_powerless hpower hnobody

theorem keys_kept (henvironment : A.environment ∉ testEnvironments)
    (hroots : ∀ i, A.Root keys calls i → isPlatformAdmin i = false) :
    exec A.step keys calls = keys := by
  induction calls using List.reverseRecOn with
  | nil => rfl
  | append_singleton calls call ih =>
    have hkept := ih fun i hi ↦ hroots i (root_mono hi)
    rw [exec_append, hkept]
    by_contra hchanged
    obtain ⟨i, hserved, hadmin⟩ := step_keys hchanged
    have hroot := root_of_served henvironment hroots (hkept.symm ▸ hserved)
    rw [hroots i hroot] at hadmin
    cases hadmin

theorem ofKey_storeOfOne {tenantId : String} {roles : List String}
    (h : OfKey (some (storeOfOne tenantId roles)) identity) :
    identity.tenantId = tenantId ∧ identity.roles = decodeRoles (encodeRoles roles) := by
  obtain ⟨_, keyId, row, hstore, hrow, rfl⟩ := h
  obtain rfl := Option.some.inj hstore
  obtain rfl := Prod.mk.inj (List.mem_singleton.mp (Dict.mem_entries_iff.mpr hrow)) |>.2
  exact ⟨rfl, rfl⟩

theorem root_keyServer (h : keyServer.Root keys calls identity) : OfKey keys identity := by
  refine h.resolve_right ?_
  rintro ⟨call, -, token, -, hverified, -⟩
  cases hverified

end

/-! ## The life of a key -/

/-- A request that was answered has created the row. -/
def AuthSystem.CreatesRow (A : AuthSystem) (keyId : String) (row : ApiKeyRow)
    (e : ApiCall × ApiAnswer) : Prop :=
  e.2.served.isSome = true ∧ ∃ request mint, e.1.action = .http (.createKey request mint) ∧
    mint.keyId = keyId ∧ (A.identityAccess.newRecord request mint).row = row

/-- A request that was answered has deleted the key. -/
def DeletesRow (keyId : String) (e : ApiCall × ApiAnswer) : Prop :=
  e.2.served.isSome = true ∧ e.1.action = .http (.deleteKey keyId)

/-- A row was there, or has been created, and has not been deleted since. -/
def AuthSystem.Live (A : AuthSystem) (store : SQLiteApiKeyStore) (log : List (ApiCall × ApiAnswer))
    (keyId : String) (row : ApiKeyRow) : Prop :=
  (store.rows.get? keyId = some row ∧ ∀ e ∈ log, ¬DeletesRow keyId e) ∨
    Lasting (A.CreatesRow keyId row) (DeletesRow keyId) log

/-- The identifier of the key that is asked for. -/
def ApiAction.newKeyId? : ApiAction → Option String
  | .http (.createKey _ mint) => some mint.keyId
  | _ => none

/-- No identifier is given twice. -/
structure FreshIds (store : SQLiteApiKeyStore) (calls : List ApiCall) : Prop where
  nodup : (calls.filterMap fun call ↦ call.action.newKeyId?).Nodup
  new : ∀ keyId ∈ calls.filterMap fun call ↦ call.action.newKeyId?, store.rows.get? keyId = none

section
variable {A : AuthSystem} {store : SQLiteApiKeyStore} {calls : List ApiCall} {call : ApiCall}
  {keyId : String} {row : ApiKeyRow}

theorem live_concat {log : List (ApiCall × ApiAnswer)} {e : ApiCall × ApiAnswer} :
    A.Live store (log ++ [e]) keyId row ↔
      A.CreatesRow keyId row e ∨ A.Live store log keyId row ∧ ¬DeletesRow keyId e := by
  rw [AuthSystem.Live, AuthSystem.Live, lasting_concat, List.forall_mem_append,
    List.forall_mem_singleton]
  tauto

theorem FreshIds.init (h : FreshIds store (calls ++ [call])) : FreshIds store calls := by
  have hnodup := h.nodup
  rw [List.filterMap_append] at hnodup
  refine ⟨(List.nodup_append.mp hnodup).1, fun keyId hkey ↦ h.new keyId ?_⟩
  rw [List.filterMap_append]
  exact List.mem_append_left _ hkey

/-- A row that is live was there, or is asked for by a request of the run. -/
theorem mem_of_live (h : A.Live store (trace A.step (some store) calls) keyId row) :
    store.rows.get? keyId = some row ∨
      keyId ∈ calls.filterMap fun call ↦ call.action.newKeyId? := by
  rcases h with ⟨hrow, -⟩ | ⟨before, e, after, hlog, ⟨-, request, mint, haction, rfl, -⟩, -⟩
  · exact .inl hrow
  · refine .inr (List.mem_filterMap.mpr ⟨e.1, ?_, by rw [haction]; rfl⟩)
    have hcalls : (trace A.step (some store) calls).map Prod.fst = calls := map_fst_trace _ _
    rw [← hcalls, hlog]
    exact List.mem_map_of_mem (List.mem_append_right _ List.mem_cons_self)

/-- A new identifier belongs to no row that is live. -/
theorem FreshIds.not_live (h : FreshIds store (calls ++ [call])) {request : ApiKeyRequest}
    {mint : Mint} (haction : call.action = .http (.createKey request mint)) :
    ¬A.Live store (trace A.step (some store) calls) mint.keyId row := by
  have hnew : [call].filterMap (fun call ↦ call.action.newKeyId?) = [mint.keyId] := by
    simp [haction, ApiAction.newKeyId?]
  have hnodup := h.nodup
  rw [List.filterMap_append, hnew] at hnodup
  intro hlive
  rcases mem_of_live hlive with hrow | hmem
  · rw [h.new mint.keyId (by rw [List.filterMap_append, hnew]; simp)] at hrow
    cases hrow
  · exact (List.nodup_append.mp hnodup).2.2 _ hmem _ List.mem_cons_self rfl

/-- The rows after a request are the one it has created, and those that were there and that it has not
deleted. -/
theorem rows_step (hnew : ∀ request mint, call.action = .http (.createKey request mint) →
    store.rows.get? mint.keyId = none) :
    ∃ store', (A.step (some store) call).2 = some store' ∧ ∀ keyId row,
      store'.rows.get? keyId = some row ↔
        A.CreatesRow keyId row (call, (A.step (some store) call).1) ∨
          store.rows.get? keyId = some row ∧
            ¬DeletesRow keyId (call, (A.step (some store) call).1) := by
  generalize hanswer : (A.step (some store) call).1 = answer
  generalize hkeys : (A.step (some store) call).2 = keys'
  have hcases := authStep_cases (A := A) (some store) call
  rw [hanswer, hkeys] at hcases
  obtain ⟨now, headers, action⟩ := call
  -- a request that neither creates nor deletes leaves the rows as they are
  have hsame (hkept : keys' = some store)
      (hcreates : ∀ keyId row, ¬A.CreatesRow keyId row (⟨now, headers, action⟩, answer))
      (hdeletes : ∀ keyId, ¬DeletesRow keyId (⟨now, headers, action⟩, answer)) :
      ∃ store', keys' = some store' ∧ ∀ keyId row, store'.rows.get? keyId = some row ↔
        A.CreatesRow keyId row (⟨now, headers, action⟩, answer) ∨
          store.rows.get? keyId = some row ∧ ¬DeletesRow keyId (⟨now, headers, action⟩, answer) :=
    ⟨store, hkept, fun keyId row ↦ ⟨fun hrow ↦ .inr ⟨hrow, hdeletes keyId⟩,
      fun h ↦ (h.resolve_left (hcreates keyId row)).1⟩⟩
  rcases hcases with ⟨hnone, hkept⟩ | ⟨i, hserved, -, -, hserves⟩
  · refine hsame hkept (fun keyId row hcreates ↦ ?_) fun keyId hdeletes ↦ ?_
    · rw [AuthSystem.CreatesRow, hnone] at hcreates
      cases hcreates.1
    · rw [DeletesRow, hnone] at hdeletes
      cases hdeletes.1
  cases action with
  | http route =>
    cases route with
    | createKey request mint =>
      obtain ⟨store₀, store', hstore, hstore', hsave⟩ := hserves.saved
      obtain rfl := Option.some.inj hstore
      refine ⟨store', hstore', fun keyId row ↦ ?_⟩
      rw [SQLiteApiKeyStore.get?_of_saveKey hsave]
      split
      · rename_i hkey
        subst hkey
        constructor
        · intro hrow
          exact .inl ⟨by rw [hserved]; rfl, request, mint, rfl, rfl, Option.some.inj hrow⟩
        · rintro (⟨-, request', mint', haction, -, rfl⟩ | ⟨hrow, -⟩)
          · obtain ⟨rfl, rfl⟩ := ApiRoute.createKey.inj (ApiAction.http.inj haction)
            rfl
          · cases (hnew request mint rfl).symm.trans hrow
      · rename_i hkey
        constructor
        · exact fun hrow ↦ .inr ⟨hrow, fun hdeletes ↦ nomatch hdeletes.2⟩
        · rintro (⟨-, request', mint', haction, hid, -⟩ | ⟨hrow, -⟩)
          · obtain ⟨rfl, rfl⟩ := ApiRoute.createKey.inj (ApiAction.http.inj haction)
            exact absurd hid.symm hkey
          · exact hrow
    | deleteKey keyId' =>
      obtain ⟨-, store₀, hstore, hstore'⟩ := hserves
      obtain rfl := Option.some.inj hstore
      refine ⟨store.deleteKey keyId', hstore', fun keyId row ↦ ?_⟩
      rw [SQLiteApiKeyStore.deleteKey, Dict.get?_erase]
      have hdeletes : DeletesRow keyId (⟨now, headers, .http (.deleteKey keyId')⟩, answer) ↔
          keyId = keyId' := by
        constructor
        · exact fun h ↦ (ApiRoute.deleteKey.inj (ApiAction.http.inj h.2)).symm
        · rintro rfl
          exact ⟨by rw [hserved]; rfl, rfl⟩
      rw [hdeletes]
      split
      · rename_i hkey
        refine iff_of_false nofun ?_
        rintro (⟨-, request, mint, haction, -⟩ | ⟨-, hother⟩)
        · cases haction
        · exact hother hkey
      · rename_i hkey
        constructor
        · exact fun hrow ↦ .inr ⟨hrow, hkey⟩
        · rintro (⟨-, request, mint, haction, -⟩ | ⟨hrow, -⟩)
          · cases haction
          · exact hrow
    | listKeys tenantId =>
      exact hsame hserves.2 (fun _ _ ⟨_, _, _, haction, _⟩ ↦ nomatch haction)
        fun _ hdeletes ↦ nomatch hdeletes.2
    | tenant tenantId path =>
      exact hsame hserves.2 (fun _ _ ⟨_, _, _, haction, _⟩ ↦ nomatch haction)
        fun _ hdeletes ↦ nomatch hdeletes.2
    | «open» =>
      exact hsame hserves (fun _ _ ⟨_, _, _, haction, _⟩ ↦ nomatch haction)
        fun _ hdeletes ↦ nomatch hdeletes.2
  | websocket tenantId path =>
    exact hsame hserves.2 (fun _ _ ⟨_, _, _, haction, _⟩ ↦ nomatch haction)
      fun _ hdeletes ↦ nomatch hdeletes.2

/-- **The store has exactly the rows that are live.** -/
theorem rows_iff_live (hfresh : FreshIds store calls) :
    ∃ store', exec A.step (some store) calls = some store' ∧ ∀ keyId row,
      store'.rows.get? keyId = some row ↔
        A.Live store (trace A.step (some store) calls) keyId row := by
  induction calls using List.reverseRecOn with
  | nil =>
    refine ⟨store, rfl, fun keyId row ↦ ⟨fun hrow ↦ .inl ⟨hrow, List.forall_mem_nil _⟩, ?_⟩⟩
    rintro (⟨hrow, -⟩ | ⟨before, e, after, hlog, -⟩)
    · exact hrow
    · cases List.append_eq_nil_iff.mp hlog.symm |>.2
  | append_singleton calls call ih =>
    obtain ⟨store', hexec, hrows⟩ := ih hfresh.init
    have hunused (request : ApiKeyRequest) (mint : Mint)
        (haction : call.action = .http (.createKey request mint)) : store'.rows.get? mint.keyId = none := by
      rw [Option.eq_none_iff_forall_ne_some]
      intro row hrow
      exact hfresh.not_live haction ((hrows mint.keyId row).mp hrow)
    obtain ⟨store'', hnext, hrows'⟩ := rows_step hunused
    refine ⟨store'', ?_, fun keyId row ↦ ?_⟩
    · rw [exec_append, hexec]
      exact hnext
    · rw [trace_append, hexec, trace, trace, live_concat, ← hrows]
      exact hrows' keyId row

end

/-! ## Who is served -/

section
variable {A : AuthSystem} {keys : Option SQLiteApiKeyStore} {now : Nat} {headers : Headers}
  {identity : IdentityContext} {tenantId path rawKey : String}

theorem served_iff_of_serves {call : ApiCall} {P : IdentityContext → Prop}
    (hserves : ∀ i keys', A.Serves keys i keys' call.action → P i)
    (hserved : ∀ i, A.extractIdentity keys call.now call.headers = .ok (some i) →
      isIdentityUsable i = true → P i → (A.step keys call).1.served = some i) :
    (A.step keys call).1.served = some identity ↔
      A.extractIdentity keys call.now call.headers = .ok (some identity) ∧
        isIdentityUsable identity = true ∧ P identity := by
  constructor
  · intro h
    rcases authStep_cases (A := A) keys call with ⟨hnone, -⟩ | ⟨i, hi, hextract, husable, his⟩
    · cases hnone.symm.trans h
    · obtain rfl := Option.some.inj (hi.symm.trans h)
      exact ⟨hextract, husable, hserves _ _ his⟩
  · rintro ⟨hextract, husable, hP⟩
    exact hserved identity hextract husable hP

theorem served_open_iff :
    (A.step keys ⟨now, headers, .http .open⟩).1.served = some identity ↔
      A.extractIdentity keys now headers = .ok (some identity) ∧ isIdentityUsable identity = true := by
  rw [served_iff_of_serves (P := fun _ ↦ True) (fun _ _ _ ↦ trivial), and_true]
  intro i hextract husable _
  simp [AuthSystem.step, requireValidIdentity_eq_ok.mpr ⟨hextract, husable⟩, AuthSystem.route]

theorem served_tenant_iff :
    (A.step keys ⟨now, headers, .http (.tenant tenantId path)⟩).1.served = some identity ↔
      A.extractIdentity keys now headers = .ok (some identity) ∧ isIdentityUsable identity = true ∧
        A.enforceTenantScope tenantId path identity = .ok () := by
  refine served_iff_of_serves (P := fun i ↦ A.enforceTenantScope tenantId path i = .ok ())
    (fun _ _ h ↦ h.1) fun i hextract husable hscope ↦ ?_
  simp [AuthSystem.step, requireValidIdentity_eq_ok.mpr ⟨hextract, husable⟩, AuthSystem.route, hscope]

theorem served_websocket_iff :
    (A.step keys ⟨now, headers, .websocket tenantId path⟩).1.served = some identity ↔
      A.extractIdentity keys now headers = .ok (some identity) ∧ isIdentityUsable identity = true ∧
        (Text.strip identity.tenantId = Text.strip tenantId ∨
          A.crossTenantAdminAllowed path identity = true) := by
  refine served_iff_of_serves (P := fun i ↦ Text.strip i.tenantId = Text.strip tenantId ∨
    A.crossTenantAdminAllowed path i = true) (fun _ _ h ↦ h.1) fun i hextract husable hscope ↦ ?_
  simp [AuthSystem.step, websocketGate_eq_ok.mpr ⟨hextract, husable, hscope⟩]

theorem extractIdentity_keyHeaders (hraw : Text.strip rawKey = rawKey) (hne : rawKey ≠ "") :
    A.extractIdentity keys now (keyHeaders rawKey) = .ok (A.resolveFromApiKey keys rawKey) := by
  have hnobearer : bearerToken? (keyHeaders rawKey).authorization = none := by
    show bearerToken? "" = none
    decide
  have hkey : Text.strip (keyHeaders rawKey).xApiKey = rawKey := hraw
  rw [AuthSystem.extractIdentity, hnobearer]
  simp only [hkey, if_pos hne]

theorem tenant_of_resolveFromJwt {token : String}
    (h : A.resolveFromJwt now token = .ok (some identity)) : Text.strip identity.tenantId ≠ "" := by
  have hnamed {i : IdentityContext} (hi : i.Named) : Text.strip i.tenantId ≠ "" := by
    rw [hi.tenantId.1]
    exact hi.tenantId.2
  have hexpired : Text.strip expiredIdentity.tenantId ≠ "" := by decide
  rw [AuthSystem.resolveFromJwt] at h
  split at h
  · cases h
  · split at h
    · have hkeys := Except.ok.inj h
      simp only [decodeJwtFromJwks] at hkeys
      split at hkeys
      · cases hkeys
      · split at hkeys
        · exact Option.some.inj hkeys ▸ hexpired
        · cases hkeys
        · exact hnamed (named_identityFromPayload hkeys)
    · rw [decodeJwt] at h
      split at h
      · cases h
      · split at h
        · exact Option.some.inj (Except.ok.inj h) ▸ hexpired
        · cases h
        · cases h
        · exact hnamed (named_identityFromPayload (Except.ok.inj h))

theorem tenant_of_extractIdentity (hkeys : ∀ i, OfKey keys i → Text.strip i.tenantId ≠ "")
    (h : A.extractIdentity keys now headers = .ok (some identity)) :
    Text.strip identity.tenantId ≠ "" := by
  rcases extractIdentity_cases h with ⟨token, -, hjwt, -⟩ | hkey | ⟨-, hheader⟩
  · exact tenant_of_resolveFromJwt hjwt
  · exact hkeys identity hkey
  · obtain ⟨v, -, hv⟩ := Option.bind_eq_some_iff.mp hheader
    have hnamed := named_resolveIdentity hv
    rw [hnamed.tenantId.1]
    exact hnamed.tenantId.2

/-- No request makes a key without a tenant. -/
theorem tenants_kept (hkeys : ∀ i, OfKey keys i → Text.strip i.tenantId ≠ "")
    (calls : List ApiCall) (h : OfKey (exec A.step keys calls) identity) :
    Text.strip identity.tenantId ≠ "" := by
  have hany : Along A.step (fun _ _ ↦ True) keys calls := along_of_forall (fun _ _ ↦ trivial) _ _
  refine exec_invariant (P := fun keys ↦ ∀ i, OfKey keys i → Text.strip i.tenantId ≠ "")
    (fun s call _ hs i hi ↦ ?_) hany hkeys identity h
  rcases ofKey_step hi with hold | ⟨admin, request, mint, -, -, hcreates, rfl⟩
  · exact hs i hold
  · show Text.strip (Text.strip request.tenantId) ≠ ""
    rw [Text.strip_strip]
    exact hcreates.tenant

/-- **The two gates of a tenant agree.**  In any environment and after any run, from a store whose keys
have tenants: a WebSocket is opened for exactly those whom a route with the same path is open for. -/
theorem gates_agree (A : AuthSystem) (keys : Option SQLiteApiKeyStore)
    (hkeys : ∀ i, OfKey keys i → Text.strip i.tenantId ≠ "") (calls : List ApiCall) (now : Nat)
    (headers : Headers) (tenantId path : String) :
    (A.step (exec A.step keys calls) ⟨now, headers, .websocket tenantId path⟩).1.served =
      (A.step (exec A.step keys calls) ⟨now, headers, .http (.tenant tenantId path)⟩).1.served := by
  refine Option.ext fun identity ↦ ?_
  rw [served_websocket_iff, served_tenant_iff, enforceTenantScope_eq_ok]
  refine and_congr_right fun hextract ↦ and_congr_right fun _ ↦ ?_
  have htenant := tenant_of_extractIdentity (fun i hi ↦ tenants_kept hkeys calls hi) hextract
  rw [and_iff_right htenant]

/-- The gates of a tenant, for a caller who belongs to it. -/
theorem gates_agree_reader :
    (keyServer.step (exec keyServer.step (some (storeOfOne "t1" ["reader"])) [])
        ⟨1, keyHeaders "exo_0", .websocket "t1" "/tenants/t1/sessions/s1/ws"⟩).1.served =
      (keyServer.step (exec keyServer.step (some (storeOfOne "t1" ["reader"])) [])
        ⟨1, keyHeaders "exo_0",
          .http (.tenant "t1" "/tenants/t1/sessions/s1/ws")⟩).1.served := by
  refine gates_agree keyServer _ (fun i hi ↦ ?_) [] 1 (keyHeaders "exo_0") "t1" _
  rw [(ofKey_storeOfOne hi).1]
  decide

end
end Api
end ExoBrain
