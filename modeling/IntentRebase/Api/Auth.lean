import IntentRebase.Intent.VersionTransaction

/-! The authentication of a request: the token that the middleware verifies, the tenant that an
extractor reads from its claims, and what a handler sees of both. -/

namespace IntentRebase

structure Claims where
  sub : String
  tenantId : String
  roles : List String
  exp : Nat
  iat : Nat
deriving DecidableEq, Repr

structure AuthConfig where
  jwtSecret : String
  jwtSecretPrevious : Option String
deriving DecidableEq, Repr

/-- The previous secret verifies what the current one does not. -/
def AuthConfig.verifyToken (decode : String → String → Except String Claims) (config : AuthConfig)
    (token : String) : Except String Claims :=
  match decode config.jwtSecret token with
  | .ok claims => .ok claims
  | .error err =>
    match config.jwtSecretPrevious with
    | some prev =>
      match decode prev token with
      | .ok claims => .ok claims
      | .error _ => .error err
    | none => .error err

/-- The paths that need no token. -/
def publicPaths : List String := ["/health", "/ready", "/metrics"]

/-- The middleware: the claims that it gives the request it lets through, or the message of its
refusal. -/
def jwtAuthAsync (decode : String → String → Except String Claims) (config : AuthConfig)
    (path : String) (authorization : Option String) : Except String (Option Claims) :=
  if publicPaths.contains path then .ok none
  else
    match authorization with
    | some authValue =>
      if "Bearer ".toList.isPrefixOf authValue.toList then
        match config.verifyToken decode (String.ofList (authValue.toList.drop 7)) with
        | .ok claims => .ok (some claims)
        | .error _ => .error "Invalid or expired token"
      else .error "Missing or invalid Authorization header"
    | none => .error "Missing or invalid Authorization header"

/-- Claims whose tenant is an identifier, and not the nil one. -/
structure RlsTenantClaims where
  tenantId : Uuid
  claims : Claims
  notNil : tenantId ≠ .nil

namespace RlsTenantClaims

variable (parseStr : String → Except String Uuid) (claims : Claims)

def new : Except String RlsTenantClaims :=
  match parseStr claims.tenantId with
  | .error e => .error s!"tenant_id in JWT is not a valid UUID: {e}"
  | .ok tenantUuid =>
    match h : validateTenantIdForRls tenantUuid with
    | .error e => .error e
    | .ok _ => .ok ⟨tenantUuid, claims, validateTenantIdForRls_ok h⟩

/-- The extractor that refuses a request without such claims. -/
def fromRequestParts (extension : Option Claims) : Except String RlsTenantClaims :=
  match extension with
  | some claims => new parseStr claims
  | none => .error ("JWT claims not found in request extensions. " ++
      "Ensure JWT auth middleware is applied.")

/-- The extractor of the handlers: claims with an invalid tenant are as no claims. -/
def optional (extension : Option Claims) : Option RlsTenantClaims :=
  match extension with
  | some claims =>
    match new parseStr claims with
    | .ok rlsClaims => some rlsClaims
    | .error _ => none
  | none => none

end RlsTenantClaims

/-- A token of tenant 5. -/
def sampleClaims : RlsTenantClaims where
  tenantId := 5
  claims := ⟨"user", "00000000-0000-0000-0000-000000000005", [], 0, 0⟩
  notNil := by decide

end IntentRebase
