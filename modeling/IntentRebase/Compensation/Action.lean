import IntentRebase.Types.Common

/-! Side effects and the compensation actions planned for them: their statuses, the predicates that
decide what may happen to an action, and the planner that creates it. -/

namespace IntentRebase

/-- How far a side effect can be undone. -/
inductive SideEffectClass where
  | s0PureRead | s1InternalReversible | s2ExternalReversible | s3ExternalPartiallyReversible
  | s4Irreversible
deriving DecidableEq, Repr

/-- The name that a debug print shows. -/
def SideEffectClass.debug : SideEffectClass → String
  | .s0PureRead => "S0PureRead"
  | .s1InternalReversible => "S1InternalReversible"
  | .s2ExternalReversible => "S2ExternalReversible"
  | .s3ExternalPartiallyReversible => "S3ExternalPartiallyReversible"
  | .s4Irreversible => "S4Irreversible"

structure SideEffect where
  id : Uuid
  tenantId : Uuid
  intentId : Uuid
  intentVersion : Int
  effectClass : SideEffectClass
  effectType : String
  target : String
  occurredAt : DateTime
  idempotencyKey : Option String
deriving DecidableEq, Repr

/-- The rebase that made a compensation necessary. -/
structure RebaseContext where
  intentId : Uuid
  fromVersion : Int
  toVersion : Int
  workflowId : Uuid
deriving DecidableEq, Repr

structure ExecutionResult where
  success : Bool
  summary : String
  errorCode : Option String
  errorDetail : Option String
  completedAt : DateTime
deriving DecidableEq, Repr

def ExecutionResult.succeed (now : DateTime) (summary : String) : ExecutionResult where
  success := true
  summary := summary
  errorCode := none
  errorDetail := none
  completedAt := now

def ExecutionResult.failure (now : DateTime) (summary errorCode : String)
    (errorDetail : Option String) : ExecutionResult where
  success := false
  summary := summary
  errorCode := some errorCode
  errorDetail := errorDetail
  completedAt := now

inductive CompensationFeasibility where
  | automatic | semiAutomatic | manualOnly | notPossible
deriving DecidableEq, Repr

def CompensationFeasibility.debug : CompensationFeasibility → String
  | .automatic => "Automatic"
  | .semiAutomatic => "SemiAutomatic"
  | .manualOnly => "ManualOnly"
  | .notPossible => "NotPossible"

inductive StrategyType where
  | rollback | counterAction | followupNotice | quarantine | escalation
deriving DecidableEq, Repr

def StrategyType.debug : StrategyType → String
  | .rollback => "Rollback"
  | .counterAction => "CounterAction"
  | .followupNotice => "FollowupNotice"
  | .quarantine => "Quarantine"
  | .escalation => "Escalation"

inductive CompensationStatus where
  | pending | approved | executed | failed | waived
deriving DecidableEq, Repr

def CompensationStatus.debug : CompensationStatus → String
  | .pending => "Pending"
  | .approved => "Approved"
  | .executed => "Executed"
  | .failed => "Failed"
  | .waived => "Waived"

inductive RetryableErrorClass where
  | retryable | nonRetryable
deriving DecidableEq, Repr

structure ErrorCodeClassification where
  errorCode : String
  retryable : RetryableErrorClass
  reason : String
deriving DecidableEq, Repr

/-- The codes of transient failures; every other code is permanent. -/
def retryableErrorCodes : List String :=
  ["CONNECTION_TIMEOUT", "CONNECTION_REFUSED", "NETWORK_UNREACHABLE", "READ_TIMEOUT",
    "WRITE_TIMEOUT", "SERVICE_UNAVAILABLE", "TEMPORARILY_OVERLOADED", "BACKEND_ERROR",
    "RESOURCE_BUSY", "LOCK_ACQUISITION_FAILED", "RATE_LIMIT_EXCEEDED", "QUOTA_EXCEEDED"]

def classifyErrorCode (errorCode : String) : ErrorCodeClassification :=
  let retryable := retryableErrorCodes.contains errorCode
  { errorCode
    retryable := if retryable then .retryable else .nonRetryable
    reason :=
      if retryable then "Transient failure - retry may succeed"
      else "Permanent failure - retry will not succeed" }

/-- Whether a transition is allowed, and why not. -/
structure TransitionValidation where
  allowed : Bool
  reason : Option String
deriving DecidableEq, Repr

namespace CompensationStatus

def canTransitionTo (self target : CompensationStatus) : TransitionValidation :=
  match self, target with
  | .pending, .approved => { allowed := true, reason := none }
  | .pending, .waived => { allowed := true, reason := none }
  | .approved, .executed => { allowed := true, reason := none }
  | .failed, .pending =>
    { allowed := true
      reason := some "Manual retry allowed when retryable error and budget remains" }
  | .executed, _ =>
    { allowed := false, reason := some "Executed is a terminal state; no transitions allowed" }
  | .failed, _ =>
    { allowed := false
      reason := some
        "Failed can only transition to Pending (manual retry) or is terminal otherwise" }
  | .waived, _ =>
    { allowed := false, reason := some "Waived is a terminal state; no transitions allowed" }
  | _, .pending => { allowed := false, reason := some "Cannot transition back to Pending" }
  | src, dst =>
    if src = dst then { allowed := false, reason := some "Action is already in target status" }
    else
      { allowed := false
        reason := some s!"Invalid transition from {src.debug} to {dst.debug}" }

def isTerminal : CompensationStatus → Bool
  | .executed | .waived => true
  | _ => false

/-- The documented transitions. Those to `failed` go through the recording of a result, so that
`canTransitionTo` does not list them. -/
inductive Documented : CompensationStatus → CompensationStatus → Prop
  | approve : Documented .pending .approved
  | waive : Documented .pending .waived
  | failPending : Documented .pending .failed
  | execute : Documented .approved .executed
  | fail : Documented .approved .failed
  | reapprove : Documented .failed .pending

theorem Documented.of_allowed {a b : CompensationStatus}
    (h : (a.canTransitionTo b).allowed = true) : Documented a b := by
  cases a <;> cases b <;> first | constructor | cases h

theorem Documented.not_terminal {a b : CompensationStatus} (h : Documented a b) :
    a.isTerminal = false := by
  cases h <;> rfl

theorem Documented.executed_from {a : CompensationStatus} (h : Documented a .executed) :
    a = .approved := by
  cases h
  rfl

theorem Documented.approved_from {a : CompensationStatus} (h : Documented a .approved) :
    a = .pending := by
  cases h
  rfl

theorem Documented.waived_from {a : CompensationStatus} (h : Documented a .waived) :
    a = .pending := by
  cases h
  rfl

end CompensationStatus

/-- An action that compensates a side effect. -/
structure CompensationAction where
  id : Uuid
  tenantId : Uuid
  sideEffectId : Uuid
  intentId : Uuid
  triggerContext : RebaseContext
  executionResultPayload : Option ExecutionResult
  feasibility : CompensationFeasibility
  strategyType : StrategyType
  rationale : String
  status : CompensationStatus
  attemptCount : Int
  maxRetries : Int
  lockVersion : Int
  generatedAt : DateTime
  approvedAt : Option DateTime
  approvedBy : Option String
  waivedAt : Option DateTime
  waivedBy : Option String
  executedAt : Option DateTime
  executedBy : Option String
  failedAt : Option DateTime
deriving DecidableEq, Repr

namespace CompensationAction

def defaultMaxRetries : Int := 3

variable (action : CompensationAction)

/-- The code of the last result, if that failed. -/
def errorCode : Option String := action.executionResultPayload.bind ExecutionResult.errorCode

/-- The action may go back to pending: it has failed with a transient error, with retries left. -/
def canBeReapproved : Bool :=
  if action.status ≠ .failed then false
  else if action.attemptCount ≥ action.maxRetries then false
  else
    match action.errorCode with
    | some errorCode => (classifyErrorCode errorCode).retryable == .retryable
    | none => true

def reapprovalDenialReason : Option String :=
  if action.status ≠ .failed then some s!"Action is in {action.status.debug} status, not Failed"
  else if action.attemptCount ≥ action.maxRetries then
    some (s!"Retry budget exhausted: {action.attemptCount} attempts made " ++
      s!"(max={action.maxRetries})")
  else
    match action.errorCode with
    | some errorCode =>
      let classification := classifyErrorCode errorCode
      if classification.retryable = .nonRetryable then
        some s!"Non-retryable error code '{errorCode}': {classification.reason}"
      else none
    | none => none

/-- There is a reason to deny a reapproval exactly if the action cannot be reapproved. -/
theorem reapprovalDenialReason_eq_none :
    action.reapprovalDenialReason = none ↔ action.canBeReapproved = true := by
  unfold reapprovalDenialReason canBeReapproved
  split
  · simp
  split
  · simp
  cases action.errorCode with
  | none => simp
  | some code => cases h : (classifyErrorCode code).retryable <;> simp [h]

theorem canBeReapproved_spec (h : action.canBeReapproved = true) :
    action.status = .failed ∧ action.attemptCount < action.maxRetries := by
  unfold canBeReapproved at h
  split at h
  · cases h
  next hstatus =>
  split at h
  · cases h
  next hbudget =>
  exact ⟨not_not.mp hstatus, not_le.mp hbudget⟩

/-- The action can be executed by the service: its strategy is the one of its feasibility. -/
def isServiceExecutable : Bool :=
  match action.strategyType, action.feasibility with
  | .rollback, .automatic => true
  | .counterAction, .semiAutomatic => true
  | .followupNotice, .manualOnly => true
  | .escalation, .notPossible => true
  | _, _ => false

/-- The action that is generated for a side effect under a new identifier. -/
def fromSideEffect (id : Uuid) (now : DateTime) (tenantId : Uuid) (sideEffect : SideEffect)
    (triggerContext : RebaseContext) (strategy : StrategyType) (rationale : String) :
    CompensationAction where
  id := id
  tenantId := tenantId
  sideEffectId := sideEffect.id
  intentId := sideEffect.intentId
  triggerContext := triggerContext
  executionResultPayload := none
  feasibility :=
    match sideEffect.effectClass with
    | .s0PureRead => .notPossible
    | .s1InternalReversible => .automatic
    | .s2ExternalReversible => .semiAutomatic
    | .s3ExternalPartiallyReversible => .manualOnly
    | .s4Irreversible => .notPossible
  strategyType := strategy
  rationale := rationale
  status := .pending
  attemptCount := 0
  maxRetries := defaultMaxRetries
  lockVersion := 0
  generatedAt := now
  approvedAt := none
  approvedBy := none
  waivedAt := none
  waivedBy := none
  executedAt := none
  executedBy := none
  failedAt := none

end CompensationAction

section Planner

variable (id : Uuid) (now : DateTime) (tenantId : Uuid) (sideEffect : SideEffect)
  (rebaseContext : RebaseContext)

/-- The action planned for a side effect; a pure read needs none. -/
def classifyAndPlanAction : Option CompensationAction :=
  let versions := s!"for rebase v{rebaseContext.fromVersion} -> v{rebaseContext.toVersion}"
  let effect := s!"effect '{sideEffect.effectType}'"
  let plan (strategy : StrategyType) (rationale : String) : Option CompensationAction :=
    some (.fromSideEffect id now tenantId sideEffect rebaseContext strategy rationale)
  match sideEffect.effectClass with
  | .s0PureRead => none
  | .s1InternalReversible =>
    plan .rollback s!"Auto rollback internal reversible {effect} {versions}"
  | .s2ExternalReversible =>
    plan .counterAction
      s!"Counter-action for external reversible {effect} targeting {sideEffect.target} {versions}"
  | .s3ExternalPartiallyReversible =>
    plan .followupNotice (s!"Send followup notice for partially reversible {effect} targeting " ++
      s!"{sideEffect.target} - manual intervention required {versions}")
  | .s4Irreversible =>
    plan .escalation (s!"ESCALATION: Irreversible {effect} targeting {sideEffect.target} " ++
      s!"cannot be compensated {versions} - manual investigation required")

end Planner

end IntentRebase
