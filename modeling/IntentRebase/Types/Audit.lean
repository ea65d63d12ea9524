import IntentRebase.Types.Common

/-! The audit events and policy snapshots that services record about an intent. -/

namespace IntentRebase

inductive AuditEventType where
  | intentCreated | intentUpdated | intentArchived
  | rebaseDetected | rebasePreviewGenerated | rebaseApplied | rebaseApplyBlocked
  | approvalRequired | approvalRequested | approvalGranted | approvalRevoked | approvalCancelled
  | approvalExpired | replayInitiated | artifactProduced | artifactInvalidated
  | compensationPlanned | compensationStarted | compensationCompleted | compensationFailed
  | forensicBundleRequested | forensicBundleGenerated
deriving DecidableEq, Repr

/-- An immutable audit event. -/
structure AuditEvent where
  id : Uuid
  tenantId : Uuid
  eventType : AuditEventType
  actorId : String
  intentId : Option Uuid
  artifactId : Option Uuid
  payload : Json
  traceId : Option String
  spanId : Option String
  occurredAt : DateTime

inductive ScopeType where
  | full | partially | none
deriving DecidableEq, Repr

/-- What requires approval. -/
structure ScopeDefinition where
  scopeType : ScopeType := .none
  affectedResources : List Json := []
  requiredApprovers : List Json := []
  minApprovals : Int := 1

/-- The approval policy at the time an intent was approved. -/
structure PolicySnapshot where
  id : Uuid
  tenantId : Uuid
  intentId : Uuid
  intentVersion : Int
  rulePackVersion : String
  scopeDefinition : ScopeDefinition
  scopeHash : String
  snapshotUri : String
  createdAt : DateTime
  canonicalizedAt : DateTime

end IntentRebase
