import ExoBrain.Lib.Json

/-!
# Who makes a request

An `IdentityContext` (`identity/contracts.py`) comes from a document, as `X-Identity` brings one
(`identity/resolver.py`), or from the claims of a JWT (`identity/jwt_resolver.py`).  PyJWT verifies a
token and the key server is asked for keys; both are parameters.

A document may say of itself how far its token was validated.  The claims of a token are read when it
is valid only, and an expired one makes an identity that says nothing else.

`named_resolveIdentity` and `named_identityFromPayload`: whoever is resolved has a subject and a tenant,
neither of which is blank or has blanks around it.
-/

set_option autoImplicit false

namespace ExoBrain
namespace Identity

/-- `ActorType`. -/
inductive ActorType
  | human
  | service
deriving DecidableEq, Repr

/-- `TokenValidationState`. -/
inductive TokenValidationState
  | unknown
  | valid
  | invalid
  | expired
  | rotationRequired
deriving DecidableEq, Repr

/-- `ActorType(value)`, if there is one. -/
def ActorType.ofValue? : String → Option ActorType
  | "human" => some .human
  | "service" => some .service
  | _ => none

/-- `TokenValidationState(value)`, if there is one. -/
def TokenValidationState.ofValue? : String → Option TokenValidationState
  | "unknown" => some .unknown
  | "valid" => some .valid
  | "invalid" => some .invalid
  | "expired" => some .expired
  | "rotation_required" => some .rotationRequired
  | _ => none

/-- `state.value`. -/
def TokenValidationState.value : TokenValidationState → String
  | .unknown => "unknown"
  | .valid => "valid"
  | .invalid => "invalid"
  | .expired => "expired"
  | .rotationRequired => "rotation_required"

/-- `IdentityContext`. -/
structure IdentityContext where
  subject : String
  actorType : ActorType := .human
  roles : List String := []
  tenantId : String := "default"
  tokenId : String := ""
  tokenValidationState : TokenValidationState := .unknown
  tokenIssuedAtUtc : String := ""
  tokenExpiresAtUtc : String := ""
  tokenRotationRequired : Bool := false
deriving DecidableEq, Repr

namespace IdentityContext

/-- The identity has a subject and a tenant. -/
structure Named (i : IdentityContext) : Prop where
  subject : Text.strip i.subject = i.subject ∧ i.subject ≠ ""
  tenantId : Text.strip i.tenantId = i.tenantId ∧ i.tenantId ≠ ""

end IdentityContext

/-! ## Documents -/

section
variable (isPrintable : Char → Bool)

/-- `str(raw.get(key, default)).strip()`. -/
def textAt (raw : List (String × Value)) (key default : String) : String :=
  Text.strip (((Value.lookup key raw).getD (.str default)).toStr isPrintable)

/-- `[str(r).strip() for r in roles_raw if str(r).strip()]`, of a list, and else `[]`. -/
def rolesAt (raw : List (String × Value)) : List String :=
  match (Value.lookup "roles" raw).getD (.list []) with
  | .list items => (items.map fun role ↦ Text.strip (role.toStr isPrintable)).filter (· ≠ "")
  | _ => []

/-- `str(raw.get("tenant_id", "default")).strip() or "default"`. -/
def tenantAt (raw : List (String × Value)) : String :=
  let tenantId := textAt isPrintable raw "tenant_id" "default"
  if tenantId = "" then "default" else tenantId

/-- `resolve_identity`. -/
def resolveIdentity : Value → Option IdentityContext
  | .dict raw =>
    let subject := textAt isPrintable raw "subject" ""
    if subject = "" then none
    else
      let actorRaw := Text.lower (textAt isPrintable raw "actor_type" "human")
      let rawTokenState := Text.lower (textAt isPrintable raw "token_validation_state" "unknown")
      let tokenValidationState := (TokenValidationState.ofValue? rawTokenState).getD .unknown
      let tokenRotationRequired :=
        ((Value.lookup "token_rotation_required" raw).getD (.bool false)).truth
      some {
        subject := subject
        actorType := (ActorType.ofValue? actorRaw).getD .human
        roles := rolesAt isPrintable raw
        tenantId := tenantAt isPrintable raw
        tokenId := textAt isPrintable raw "token_id" ""
        tokenValidationState := tokenValidationState
        tokenIssuedAtUtc := textAt isPrintable raw "token_issued_at_utc" ""
        tokenExpiresAtUtc := textAt isPrintable raw "token_expires_at_utc" ""
        tokenRotationRequired :=
          tokenValidationState = .rotationRequired || tokenRotationRequired }
  | _ => none

/-! ## Tokens -/

/-- `_identity_from_payload`. -/
def identityFromPayload (payload : List (String × Value)) : Option IdentityContext :=
  let subject := textAt isPrintable payload "sub" ""
  if subject = "" then none
  else some {
    subject := subject
    tenantId := tenantAt isPrintable payload
    roles := rolesAt isPrintable payload
    tokenId := textAt isPrintable payload "jti" ""
    tokenValidationState := .valid
    tokenIssuedAtUtc := ((Value.lookup "iat" payload).getD (.str "")).toStr isPrintable
    tokenExpiresAtUtc := ((Value.lookup "exp" payload).getD (.str "")).toStr isPrintable }

end

/-- How `jwt.decode` fails. -/
inductive JwtError
  | expiredSignature
  | invalidToken
  /-- An exception of another class. -/
  | other (message : String)
deriving DecidableEq, Repr

/-- PyJWT, and the key server.  What they say may depend on when they are asked. -/
structure Jwt where
  /-- `jwt.decode(token, secret, algorithms=[algorithm], …)`. -/
  decode : (now : Nat) → (token secret algorithm : String) →
    Except JwtError (List (String × Value))
  /-- The same with the key that belongs to the token, which is fetched from the URL. -/
  decodeWithKeyFrom : (now : Nat) → (token url : String) → Except JwtError (List (String × Value))

/-- `_SYMMETRIC_ALGORITHMS`. -/
def symmetricAlgorithms : List String := ["HS256", "HS384", "HS512"]

/-- The identity of an expired token. -/
def expiredIdentity : IdentityContext where
  subject := ""
  tokenValidationState := .expired

section
variable (isPrintable : Char → Bool) (J : Jwt) (now : Nat)

/-- `decode_jwt`.  An exception of another class is not caught. -/
def decodeJwt (token secret algorithm : String) : Except String (Option IdentityContext) :=
  if secret = "" ∧ algorithm ∈ symmetricAlgorithms then .ok none
  else
    match J.decode now token secret algorithm with
    | .error .expiredSignature => .ok (some expiredIdentity)
    | .error .invalidToken => .ok none
    | .error (.other message) => .error message
    | .ok payload => .ok (identityFromPayload isPrintable payload)

/-- `decode_jwt_from_jwks`. -/
def decodeJwtFromJwks (token jwksUrl : String) : Option IdentityContext :=
  let url := Text.strip jwksUrl
  if url = "" then none
  else
    match J.decodeWithKeyFrom now token url with
    | .error .expiredSignature => some expiredIdentity
    | .error _ => none
    | .ok payload => identityFromPayload isPrintable payload

end

/-! ## What is resolved -/

section
variable {isPrintable : Char → Bool} {raw payload : List (String × Value)} {v : Value}
  {i : IdentityContext}

theorem strip_tenantAt (raw : List (String × Value)) :
    Text.strip (tenantAt isPrintable raw) = tenantAt isPrintable raw ∧ tenantAt isPrintable raw ≠ "" := by
  simp only [tenantAt]
  split
  · decide
  · rename_i hne
    exact ⟨Text.strip_strip _, hne⟩

theorem named_resolveIdentity (h : resolveIdentity isPrintable v = some i) : i.Named := by
  cases v with
  | dict raw =>
    simp only [resolveIdentity] at h
    split at h
    · cases h
    · rename_i hne
      obtain rfl := Option.some.inj h
      exact ⟨⟨Text.strip_strip _, hne⟩, strip_tenantAt raw⟩
  | _ => cases h

theorem named_identityFromPayload (h : identityFromPayload isPrintable payload = some i) :
    i.Named := by
  simp only [identityFromPayload] at h
  split at h
  · cases h
  · rename_i hne
    obtain rfl := Option.some.inj h
    exact ⟨⟨Text.strip_strip _, hne⟩, strip_tenantAt payload⟩

end

end Identity
end ExoBrain
