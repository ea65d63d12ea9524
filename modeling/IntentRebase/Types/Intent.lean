import IntentRebase.Kit.Binary64
import IntentRebase.Types.Common

/-! Intents, their versions, and the sections of a version's payload. -/

namespace IntentRebase

open Kit

inductive ChangeChannel where
  | userEdit | webhook | policyUpdate | systemNormalization
deriving DecidableEq, Repr

inductive IntentStatus where
  | active | archived | superseded
deriving DecidableEq, Repr

inductive VersionStatus where
  | draft | active | rejected | superseded
deriving DecidableEq, Repr

inductive ClauseType where
  | functional | nonFunctional | policy | budget | time
deriving DecidableEq, Repr

inductive ConstraintOperator where
  | eq | neq | lt | lte | gt | gte | contains | notContains | regex | custom
deriving DecidableEq, Repr

inductive ClausePriority where
  | must | should | could
deriving DecidableEq, Repr

/-- The debug text of a priority. -/
def ClausePriority.debug : ClausePriority → String
  | .must => "Must"
  | .should => "Should"
  | .could => "Could"

inductive RiskTier where
  | low | medium | high | critical
deriving DecidableEq, Repr

/-- The debug text of a risk tier. -/
def RiskTier.debug : RiskTier → String
  | .low => "Low"
  | .medium => "Medium"
  | .high => "High"
  | .critical => "Critical"

inductive Urgency where
  | low | medium | high | critical
deriving DecidableEq, Repr

inductive TradeoffDimension where
  | speed | cost | quality | risk | compatibility | latency
deriving DecidableEq, Repr

inductive TradeoffPreference where
  | prioritize | balance | minimize | maximize
deriving DecidableEq, Repr

structure DocRef where
  refType : String
  id : String
  uri : Option String
deriving DecidableEq, Repr

/-- A reference to an external document. -/
structure SourceRef where
  refType : String
  id : String
deriving DecidableEq, Repr

structure ActorRef where
  actorType : String
  actorId : String
deriving DecidableEq, Repr

structure IntentObjective where
  summary : String
  successStatement : String
  domain : String
deriving DecidableEq, Repr

structure IntentScope where
  inScope : List String
  outOfScope : List String
deriving DecidableEq, Repr

/-- A single constraint; `clauseId` is its identity across versions, when it has one. -/
structure Constraint where
  clauseId : Option Uuid
  constraintType : ClauseType
  key : String
  operator : ConstraintOperator
  value : Json
  rationale : Option String
  priority : ClausePriority

structure IntentConstraints where
  functional : List Constraint
  nonFunctional : List Constraint
  policy : List Constraint
  budget : List Constraint
  time : List Constraint

structure AcceptanceCriterion where
  clauseId : Option Uuid
  description : String
  priority : ClausePriority
deriving DecidableEq, Repr

structure AcceptanceCriteria where
  required : List AcceptanceCriterion
  optional : List AcceptanceCriterion
deriving DecidableEq, Repr

structure ActionRef where
  action : String
  target : Option String
deriving DecidableEq, Repr

structure ApprovalRuleRef where
  ruleId : String
  description : String
deriving DecidableEq, Repr

structure IntentAuthority where
  allowedActions : List ActionRef
  forbiddenActions : List ActionRef
  approvalRequirements : List ApprovalRuleRef
deriving DecidableEq, Repr

structure Tradeoff where
  dimension : TradeoffDimension
  preference : TradeoffPreference
deriving DecidableEq, Repr

structure IntentPreferences where
  tradeoffs : List Tradeoff
deriving DecidableEq, Repr

structure IntentReferences where
  specs : List DocRef
  tickets : List DocRef
  repos : List DocRef
  policies : List DocRef
deriving DecidableEq, Repr

structure IntentAssumptions where
  explicit : List String
deriving DecidableEq, Repr

structure IntentMetadataV1 where
  riskTier : RiskTier
  urgency : Urgency
  confidence : Double

/-- The full payload of an intent version. -/
structure IntentPayload where
  objective : IntentObjective
  scope : IntentScope
  constraints : IntentConstraints
  acceptanceCriteria : AcceptanceCriteria
  authority : IntentAuthority
  preferences : IntentPreferences
  references : IntentReferences
  assumptions : IntentAssumptions
  metadata : IntentMetadataV1

/-- The payload with an objective and nothing else. -/
def IntentPayload.ofObjective (objective : IntentObjective) : IntentPayload where
  objective := objective
  scope := ⟨[], []⟩
  constraints := ⟨[], [], [], [], []⟩
  acceptanceCriteria := ⟨[], []⟩
  authority := ⟨[], [], []⟩
  preferences := ⟨[]⟩
  references := ⟨[], [], [], []⟩
  assumptions := ⟨[]⟩
  metadata := ⟨.low, .low, 1⟩

structure Intent where
  id : Uuid
  tenantId : Uuid
  workflowId : Uuid
  currentVersion : Int
  status : IntentStatus
  createdAt : DateTime
  createdBy : ActorRef
  sourceRefs : List SourceRef
  tags : List String
deriving DecidableEq, Repr

/-- A snapshot of an intent. -/
structure IntentVersion where
  id : Uuid
  intentId : Uuid
  versionNumber : Int
  parentVersionId : Option Uuid
  createdAt : DateTime
  createdBy : ActorRef
  changeReason : String
  changeChannel : ChangeChannel
  status : VersionStatus
  hash : String
  payload : IntentPayload

structure CreateIntentRequest where
  tenantId : Option Uuid
  workflowId : Uuid
  sourceRefs : List SourceRef
  payload : IntentPayload
  createdBy : ActorRef
  tags : List String

structure CreateIntentResponse where
  intentId : Uuid
  currentVersion : Int
  status : IntentStatus
deriving DecidableEq, Repr

structure CreateVersionRequest where
  payload : IntentPayload
  changeReason : String
  changeChannel : ChangeChannel
  createdBy : ActorRef

structure CreateVersionResponse where
  intentVersionId : Uuid
  intentId : Uuid
  versionNumber : Int
  status : VersionStatus
deriving DecidableEq, Repr

end IntentRebase
