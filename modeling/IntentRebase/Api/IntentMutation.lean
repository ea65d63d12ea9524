import IntentRebase.Api.ApprovalInvalidation
import IntentRebase.Api.Replay
import IntentRebase.Kit.Ownership
import IntentRebase.Webhook.Delivery

/-! The handlers that create an intent and a version of one: in a transaction of the token's tenant
where there is a pool and the call has claims, and through the service's plain methods otherwise. -/

namespace IntentRebase

open Kit

/-- Nothing is left of the text without the white space around it. -/
def isBlank (text : String) : Bool := text.toList.all isWhitespace

def validateCreateIntentRequest (request : CreateIntentRequest) : Except IntentRebaseError Unit :=
  let objective := request.payload.objective
  if request.workflowId = .nil then .error (.invalidIngestRequest "workflow_id cannot be nil")
  else if isBlank objective.summary then
    .error (.invalidIngestRequest "payload.objective.summary cannot be empty")
  else if isBlank objective.successStatement then
    .error (.invalidIngestRequest "payload.objective.success_statement cannot be empty")
  else if isBlank objective.domain then
    .error (.invalidIngestRequest "payload.objective.domain cannot be empty")
  else .ok ()

/-- A signed number of 32 bits in decimal digits, which a sign may precede. -/
def parseI32 (text : String) : Option Int :=
  let parse (sign : Int) (digits : List Char) : Option Int :=
    if digits.isEmpty || !digits.all Char.isDigit then none
    else
      let value := sign * (digits.foldl (fun n c => 10 * n + (c.toNat - 48)) 0 : Nat)
      if -2 ^ 31 ≤ value ∧ value < 2 ^ 31 then some value else none
  match text.toList with
  | '+' :: digits => parse 1 digits
  | '-' :: digits => parse (-1) digits
  | digits => parse 1 digits

/-- The headers of a request: the text of a value, or nothing where the value is not one. -/
abbrev HttpHeaderMap := String → Option (Option String)

def parseOptionalHeader (headers : HttpHeaderMap) (name : String) :
    Except IntentRebaseError (Option Int) :=
  match headers name with
  | none => .ok none
  | some none => .error (.invalidHeader s!"{name} header is not valid UTF-8")
  | some (some s) =>
    match parseI32 s with
    | some value => .ok (some value)
    | none => .error (.invalidHeader s!"{name} header must be an integer, got: {s}")

namespace IntentStore

variable (computePayloadHash : IntentPayload → String)

def asSqlxRepo : IntentStore → Option SqlxIntentRepository
  | .inMemory _ => none
  | .sqlx repo => some repo

/-- The repository in SQL asks its resolver for the tenant. -/
def createIntentTx (resolved : Option Uuid) (draw : CreateIntentDraw)
    (request : CreateIntentRequest) :
    IntentStore → Except IntentRebaseError CreateIntentResponse × IntentStore
  | .inMemory repo => (repo.createIntentTx computePayloadHash draw request).map id .inMemory
  | .sqlx repo => (repo.createIntentTx computePayloadHash resolved draw request).map id .sqlx

def createVersionWithOcc (draw : CreateVersionDraw) (intentId : Uuid)
    (request : CreateVersionRequest) (expectedVersion expectedRowVersion : Int) :
    IntentStore → Except IntentRebaseError CreateVersionResponse × IntentStore
  | .inMemory repo =>
    (repo.createVersionWithOcc computePayloadHash draw intentId request expectedVersion
      expectedRowVersion).map id .inMemory
  | .sqlx repo =>
    (repo.createVersionWithOcc computePayloadHash draw intentId request expectedVersion
      expectedRowVersion).map id .sqlx

end IntentStore

def ApprovalStorage.cancelPendingByIntent (s : ApprovalStorage) (now : DateTime)
    (intentId tenantId : Uuid) (cancelledBy reason : String) :
    Except IntentRebaseError Nat × ApprovalStorage :=
  match s with
  | .inMemory repo =>
    (repo.cancelPendingByIntent now intentId tenantId cancelledBy reason).map id .inMemory
  | .sqlx repo => (repo.cancelPendingByIntent now intentId tenantId cancelledBy reason).map id .sqlx

/-- The service: its pool of tenant transactions, its repository of approval requests, and the
tenant that its repository of intents resolves. -/
structure IntentServiceConfig where
  computePayloadHash : IntentPayload → String
  rlsPool : Bool
  approvalRepo : Bool
  resolved : Option Uuid

/-- The repositories of the service. -/
structure IntentWorld where
  intents : IntentStore
  approvals : ApprovalStorage

/-- What a creation of an intent draws, and the failures that it meets: of the plain method, and of
the steps of a transaction. -/
structure CreateIntentRun where
  draw : CreateIntentDraw
  storeFault : Option (Fault IntentRebaseError)
  beginFault : Option String
  statementFault : Option IntentRebaseError
  commitFault : Option (Fault String)

/-- The same for a creation of a version, whose head is read first by the handler and then by the
service. -/
structure CreateVersionRun where
  draw : CreateVersionDraw
  cancelledAt : DateTime
  headFault : Option IntentRebaseError
  readFault : Option IntentRebaseError
  storeFault : Option (Fault IntentRebaseError)
  beginFault : Option String
  statementFault : Option IntentRebaseError
  cancelFault : Option (Fault IntentRebaseError)
  commitFault : Option (Fault String)

namespace IntentWorld

section Intents

variable (config : IntentServiceConfig) (run : CreateIntentRun) (request : CreateIntentRequest)

def createIntent (w : IntentWorld) : Except IntentRebaseError CreateIntentResponse × IntentWorld :=
  (Fault.meet run.storeFault w.intents (w.intents.createIntentTx config.computePayloadHash
    config.resolved run.draw request)).map id fun intents => { w with intents }

def createIntentWithRls (tenantId : Uuid) (w : IntentWorld) :
    Except IntentRebaseError CreateIntentResponse × IntentWorld :=
  if !config.rlsPool then (.error (.internal "RLS pool not configured"), w)
  else
    match validateTenantIdForRls tenantId with
    | .error e => (.error (.internal s!"invalid tenant_id for RLS: {e}"), w)
    | .ok _ =>
      match run.beginFault with
      | some e => (.error (.storageError s!"failed to begin RLS transaction: {e}"), w)
      | none =>
        match w.intents.asSqlxRepo with
        | none => (.error (.internal "RLS requires SQL-backed repository"), w)
        | some repo =>
          match run.statementFault with
          | some e => (.error e, w)
          | none =>
            match repo.createIntentWithTx config.computePayloadHash (some tenantId) run.draw request
                tenantId with
            | .error e => (.error e, w)
            | .ok (response, intents) =>
              (Fault.meet run.commitFault w (.ok response, { w with intents := .sqlx intents })).map
                (.mapError fun e => .storageError s!"failed to commit RLS transaction: {e}") id

end Intents

section Versions

variable (config : IntentServiceConfig) (run : CreateVersionRun) (intentId : Uuid)
  (request : CreateVersionRequest) (expectedVersion expectedRowVersion : Option Int)

/-- The pending requests of the intent are cancelled, where there is a repository of them. -/
def cancelPending (tenantId : Uuid) (oldVersion newVersion : Int) (s : ApprovalStorage) :
    ApprovalStorage :=
  if config.approvalRepo then
    (Fault.meet run.cancelFault s (s.cancelPendingByIntent run.cancelledAt intentId tenantId
      IntentService.systemActorId (IntentService.cancellationReason oldVersion newVersion))).2
  else s

def createVersion (w : IntentWorld) :
    Except IntentRebaseError CreateVersionResponse × IntentWorld :=
  match run.readFault with
  | some e => (.error e, w)
  | none =>
    match w.intents.getIntentForUpdate intentId with
    | .error e => (.error e, w)
    | .ok (intent, rowVersion) =>
      let expVer := expectedVersion.getD intent.currentVersion
      let expRowVer := expectedRowVersion.getD rowVersion
      match Fault.meet run.storeFault w.intents (w.intents.createVersionWithOcc
          config.computePayloadHash run.draw intentId request expVer expRowVer) with
      | (.error e, intents) => (.error e, { w with intents })
      | (.ok result, intents) =>
        let approvals := cancelPending config run intentId intent.tenantId intent.currentVersion
          result.versionNumber w.approvals
        (.ok result, { intents, approvals })

/-- The call of the transaction for a tenant. -/
def rlsCall (tenantId : Uuid) : RlsVersionCall where
  draw := run.draw
  intentId := intentId
  request := request
  expectedVersion := expectedVersion
  expectedRowVersion := expectedRowVersion
  tenantId := tenantId
  cancelledAt := run.cancelledAt
  beginFault := run.beginFault
  readFault := run.readFault
  statementFault := run.statementFault
  cancelFault := run.cancelFault
  commitFault := run.commitFault

/-- The service as its transactions see it. -/
def rlsService (w : IntentWorld) : RlsService where
  rlsPool := config.rlsPool
  sqlRepo := w.intents.asSqlxRepo.isSome
  approvalRepo := config.approvalRepo

/-- The statements see the intents only. -/
def createVersionWithRls (tenantId : Uuid) (w : IntentWorld) :
    Except IntentRebaseError CreateVersionResponse × IntentWorld :=
  let call := rlsCall run intentId request expectedVersion expectedRowVersion tenantId
  match (rlsService config w).transaction config.computePayloadHash
      ⟨w.intents.asSqlxRepo.getD .new, .new⟩ call with
  | .error e => (.error e, w)
  | .ok (oldVersion, result, intents) =>
    let approvals := cancelPending config run intentId tenantId oldVersion result.versionNumber
      w.approvals
    (Fault.meet run.commitFault { w with approvals }
      (.ok result, { intents := .sqlx intents, approvals })).map
        (.mapError fun e => .storageError s!"failed to commit RLS transaction: {e}") id

end Versions

end IntentWorld

/-- The message that rejects a token of another tenant than the request's. -/
def requestTenantMismatch (jwtTenantId tenantId : Uuid) : String :=
  s!"Tenant mismatch: JWT tenant_id ({jwtTenantId.display}) does not match request tenant_id " ++
    s!"({tenantId.display})"

/-- What the handlers use of the state of the application. Its pool is not the service's. -/
structure IntentMutationState where
  rlsPool : Bool
  service : IntentServiceConfig

/-- An answer with the status of a creation. -/
def answerCreated {α : Type} (answer : Except IntentRebaseError α × IntentWorld) :
    Except IntentRebaseError (StatusCode × α) × IntentWorld :=
  answer.map (.map fun a => (.created, a)) id

section Handlers

variable (state : IntentMutationState)

section CreateIntent

variable (run : CreateIntentRun) (request : CreateIntentRequest)

def createIntentWithoutJwt (w : IntentWorld) :
    Except IntentRebaseError (StatusCode × CreateIntentResponse) × IntentWorld :=
  match validateCreateIntentRequest request with
  | .error e => (.error e, w)
  | .ok _ => answerCreated (w.createIntent state.service run request)

def createIntent (claims : Option RlsTenantClaims) (w : IntentWorld) :
    Except IntentRebaseError (StatusCode × CreateIntentResponse) × IntentWorld :=
  match validateCreateIntentRequest request with
  | .error e => (.error e, w)
  | .ok _ =>
    match state.rlsPool, claims with
    | true, some rlsClaims =>
      let tenantId := rlsClaims.tenantId
      match request.tenantId with
      | some requestTenantId =>
        if requestTenantId ≠ tenantId then
          (.error (.unauthorized (requestTenantMismatch tenantId requestTenantId)), w)
        else answerCreated (w.createIntentWithRls state.service run request tenantId)
      | none => answerCreated (w.createIntentWithRls state.service run request tenantId)
    | _, _ => answerCreated (w.createIntent state.service run request)

end CreateIntent

section CreateVersion

variable (run : CreateVersionRun) (intentId : Uuid) (headers : HttpHeaderMap)
  (request : CreateVersionRequest)

def createVersionWithoutJwt (w : IntentWorld) :
    Except IntentRebaseError (StatusCode × CreateVersionResponse) × IntentWorld :=
  match parseOptionalHeader headers "x-expected-version" with
  | .error e => (.error e, w)
  | .ok expectedVersion =>
    match parseOptionalHeader headers "x-expected-row-version" with
    | .error e => (.error e, w)
    | .ok expectedRowVersion =>
      answerCreated (w.createVersion state.service run intentId request expectedVersion
        expectedRowVersion)

def createVersion (claims : Option RlsTenantClaims) (w : IntentWorld) :
    Except IntentRebaseError (StatusCode × CreateVersionResponse) × IntentWorld :=
  match parseOptionalHeader headers "x-expected-version" with
  | .error e => (.error e, w)
  | .ok expectedVersion =>
    match parseOptionalHeader headers "x-expected-row-version" with
    | .error e => (.error e, w)
    | .ok expectedRowVersion =>
      match state.rlsPool, claims with
      | true, some rlsClaims =>
        match run.headFault with
        | some e => (.error e, w)
        | none =>
          match w.intents.getIntentHead intentId with
          | .error e => (.error e, w)
          | .ok intentHead =>
            if intentHead.intent.tenantId ≠ rlsClaims.tenantId then
              (.error (.unauthorized
                (intentTenantMismatch rlsClaims.tenantId intentHead.intent.tenantId)), w)
            else
              answerCreated (w.createVersionWithRls state.service run intentId request
                expectedVersion expectedRowVersion rlsClaims.tenantId)
      | _, _ =>
        answerCreated (w.createVersion state.service run intentId request expectedVersion
          expectedRowVersion)

end CreateVersion

end Handlers

end IntentRebase
