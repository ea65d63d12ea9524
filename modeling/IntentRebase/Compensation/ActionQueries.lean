import IntentRebase.Compensation.Orchestration
import IntentRebase.Kit.Binary64

/-! What the read endpoints derive from the stored actions: the candidates for a batch, the gate of
each action with its metadata, and its coordination status. -/

namespace IntentRebase

open Kit

namespace CompensationAction

variable (action : CompensationAction)

/-- The action has failed for good: no retries are left, or its error is permanent. -/
def isDlqCandidate : Bool :=
  if action.status ≠ .failed then false
  else if action.attemptCount ≥ action.maxRetries then true
  else
    match action.errorCode with
    | some errorCode => (classifyErrorCode errorCode).retryable == .nonRetryable
    | none => false

def isAutoExecutable : Bool := action.feasibility == .automatic

/-- A failed action either is a candidate or can go back to pending. -/
theorem isDlqCandidate_eq_not_canBeReapproved (h : action.status = .failed) :
    action.isDlqCandidate = !action.canBeReapproved := by
  unfold isDlqCandidate canBeReapproved
  rw [if_neg (not_not.mpr h), if_neg (not_not.mpr h)]
  split
  · rfl
  cases action.errorCode with
  | none => rfl
  | some code => cases h : (classifyErrorCode code).retryable <;> simp [h]

theorem isDlqCandidate_failed (h : action.isDlqCandidate = true) : action.status = .failed := by
  unfold isDlqCandidate at h
  split at h
  · cases h
  next hstatus => exact not_not.mp hstatus

end CompensationAction

structure BatchCandidates where
  pendingApprovalCandidates : List CompensationAction
  approvedServiceExecutableCandidates : List CompensationAction
  retryableFailedCandidates : List CompensationAction
  dlqCandidates : List CompensationAction

/-- The candidates among a tenant's actions of three statuses. -/
def BatchCandidates.ofActions (pending approved failed : List CompensationAction) :
    BatchCandidates where
  pendingApprovalCandidates := pending
  approvedServiceExecutableCandidates := approved.filter (·.isServiceExecutable)
  retryableFailedCandidates := failed.filter (·.canBeReapproved)
  dlqCandidates := failed.filter (·.isDlqCandidate)

section PolicyGate

inductive PolicyGateStatus where
  | eligible | blocked | manualReviewRequired
deriving DecidableEq, Repr

inductive StrategySeverity where
  | low | medium | high | critical
deriving DecidableEq, Repr

def StrategySeverity.fromStrategyType : StrategyType → StrategySeverity
  | .followupNotice => .low
  | .rollback => .medium
  | .counterAction => .high
  | .quarantine | .escalation => .critical

inductive RetryExhaustionRisk where
  | low | medium | high | critical
deriving DecidableEq, Repr

/-- The single nearest to `q`, a tie going to the even one. -/
def toSingle (q : ℚ) : ℚ :=
  let place := max (binaryExponent q - 23) (-149)
  roundEven (q / 2 ^ place) * 2 ^ place

/-- The risk by the quotient of two singles. A negative number divided by no retries is zero here and
minus infinity there; either is low. -/
def RetryExhaustionRisk.fromAttempts (attemptCount maxRetries : Int) : RetryExhaustionRisk :=
  if attemptCount ≥ maxRetries then .critical
  else
    let ratio := toSingle (toSingle attemptCount / toSingle maxRetries)
    if ratio ≥ toSingle (66 / 100) then .high
    else if ratio ≥ toSingle (33 / 100) then .medium
    else .low

inductive FeasibilityRisk where
  | low | medium | high | critical
deriving DecidableEq, Repr

def FeasibilityRisk.fromFeasibility : CompensationFeasibility → FeasibilityRisk
  | .automatic => .low
  | .semiAutomatic => .medium
  | .manualOnly => .high
  | .notPossible => .critical

inductive ErrorSeverity where
  | none | low | medium | high
deriving DecidableEq, Repr

def ErrorSeverity.fromRetryableClass : RetryableErrorClass → ErrorSeverity
  | .retryable => .low
  | .nonRetryable => .high

structure ErrorClassification where
  errorCode : String
  retryable : Bool
  reason : String
deriving DecidableEq, Repr

structure PolicyGateMetadata where
  autoExecutable : Bool
  isDlqCandidate : Bool
  canReapprove : Bool
  retryBudgetExhausted : Bool
  hasNonRetryableError : Bool
  feasibility : CompensationFeasibility
  strategyType : StrategyType
  status : CompensationStatus
  attemptCount : Int
  maxRetries : Int
deriving DecidableEq, Repr

structure RiskMetadata where
  strategySeverity : StrategySeverity
  retryExhaustionRisk : RetryExhaustionRisk
  feasibilityRisk : FeasibilityRisk
  errorSeverity : ErrorSeverity
  retryBudgetRemaining : Int
  errorClassification : Option ErrorClassification
  isTerminal : Bool
  requiresManualIntervention : Bool
deriving DecidableEq, Repr

structure PolicyGateEvaluation where
  action : CompensationAction
  gateStatus : PolicyGateStatus
  gateReason : String
  policyMetadata : PolicyGateMetadata
  riskMetadata : RiskMetadata

variable (action : CompensationAction)

def computeGateStatus : PolicyGateStatus :=
  if action.status.isTerminal then .blocked
  else if action.isDlqCandidate then .blocked
  else
    match action.status with
    | .pending => .manualReviewRequired
    | .failed => if action.canBeReapproved then .manualReviewRequired else .blocked
    | .approved => if action.isServiceExecutable then .eligible else .manualReviewRequired
    | .executed | .waived => .blocked

/-- The reason why a candidate is held back, in the words of the endpoint that asks. -/
def dlqReason (exhausted permanent candidate : String) : String :=
  if action.attemptCount ≥ action.maxRetries then
    s!"{exhausted} ({action.attemptCount}/{action.maxRetries} attempts)"
  else
    match action.errorCode with
    | some errorCode => s!"{permanent} ({errorCode})"
    | none => candidate

def computeGateReason (gateStatus : PolicyGateStatus) : String :=
  let feasibility := formatFeasibility action.feasibility
  match gateStatus with
  | .eligible =>
    s!"Action is approved with {feasibility} feasibility and no blocking conditions"
  | .blocked =>
    if action.status.isTerminal then s!"Action is in terminal status ({action.status.debug})"
    else if action.isDlqCandidate then
      dlqReason action "Action is DLQ candidate: retry budget exhausted"
        "Action is DLQ candidate: non-retryable error" "Action is DLQ candidate"
    else
      match action.reapprovalDenialReason with
      | some reason => reason
      | none => s!"Action is blocked due to {action.status.debug}"
  | .manualReviewRequired =>
    match action.status with
    | .pending => s!"Action awaits approval ({feasibility} feasibility)"
    | .failed =>
      if action.canBeReapproved then
        s!"Action failed but can be reapproved ({action.maxRetries - action.attemptCount} " ++
          s!"retry attempts remaining, {feasibility} feasibility)"
      else
        match action.reapprovalDenialReason with
        | some reason => reason
        | none => s!"Action failed and requires manual review ({feasibility} feasibility)"
    | .approved => s!"Action requires manual execution ({feasibility})"
    | .executed | .waived => s!"Action requires manual review ({feasibility})"

def computePolicyMetadata : PolicyGateMetadata where
  autoExecutable := action.isAutoExecutable
  isDlqCandidate := action.isDlqCandidate
  canReapprove := action.canBeReapproved
  retryBudgetExhausted := action.attemptCount ≥ action.maxRetries
  hasNonRetryableError :=
    action.errorCode.any fun code => (classifyErrorCode code).retryable == .nonRetryable
  feasibility := action.feasibility
  strategyType := action.strategyType
  status := action.status
  attemptCount := action.attemptCount
  maxRetries := action.maxRetries

def computeRiskMetadata : RiskMetadata where
  strategySeverity := .fromStrategyType action.strategyType
  retryExhaustionRisk := .fromAttempts action.attemptCount action.maxRetries
  feasibilityRisk := .fromFeasibility action.feasibility
  errorSeverity :=
    match action.errorCode with
    | some code => .fromRetryableClass (classifyErrorCode code).retryable
    | none => .none
  retryBudgetRemaining := max (action.maxRetries - action.attemptCount) 0
  errorClassification := action.errorCode.map fun code =>
    { errorCode := code
      retryable := (classifyErrorCode code).retryable == .retryable
      reason := (classifyErrorCode code).reason }
  isTerminal := action.status.isTerminal
  requiresManualIntervention :=
    action.status == .pending || action.status == .failed || !action.isAutoExecutable

def evaluateSingleAction : PolicyGateEvaluation where
  action := action
  gateStatus := computeGateStatus action
  gateReason := computeGateReason action (computeGateStatus action)
  policyMetadata := computePolicyMetadata action
  riskMetadata := computeRiskMetadata action

structure PolicyGateSummary where
  totalActions : Nat
  eligibleCount : Nat
  blockedCount : Nat
  manualReviewRequiredCount : Nat
  dlqCandidateCount : Nat
  pendingApprovalCount : Nat
  autoExecutableCount : Nat
deriving DecidableEq, Repr

structure PolicyGateEvaluationResult where
  evaluations : List PolicyGateEvaluation
  summary : PolicyGateSummary

def evaluatePolicyGatesFromActions (actions : List CompensationAction) :
    PolicyGateEvaluationResult :=
  let evaluations := actions.map evaluateSingleAction
  { evaluations
    summary :=
      { totalActions := actions.length
        eligibleCount := evaluations.countP fun e => e.gateStatus = .eligible
        blockedCount := evaluations.countP fun e => e.gateStatus = .blocked
        manualReviewRequiredCount :=
          evaluations.countP fun e => e.gateStatus = .manualReviewRequired
        dlqCandidateCount := evaluations.countP fun e => e.policyMetadata.isDlqCandidate
        pendingApprovalCount := actions.countP fun a => a.status = .pending
        autoExecutableCount := evaluations.countP fun e => e.policyMetadata.autoExecutable } }

end PolicyGate

section Coordination

inductive CoordinationStatus where
  | ready | awaitingPolicy | awaitingManualReview | blocked | terminal
deriving DecidableEq, Repr

structure CoordinationRecord where
  action : CompensationAction
  coordinationStatus : CoordinationStatus
  coordinationReason : String
  autoExecutable : Bool
  isDlqCandidate : Bool
  canReapprove : Bool
  retryBudgetExhausted : Bool
  feasibility : CompensationFeasibility
  strategyType : StrategyType
  status : CompensationStatus
  attemptCount : Int
  maxRetries : Int

variable (action : CompensationAction)

def CoordinationStatus.fromCompensationAction : CoordinationStatus :=
  if action.status.isTerminal then .terminal
  else if action.isDlqCandidate then .blocked
  else
    match action.status with
    | .pending => .awaitingPolicy
    | .failed => if action.canBeReapproved then .awaitingManualReview else .blocked
    | .approved => if action.isServiceExecutable then .ready else .awaitingManualReview
    | .executed | .waived => .terminal

def computeCoordinationReason (status : CoordinationStatus) : String :=
  let feasibility := formatFeasibility action.feasibility
  match status with
  | .ready =>
    s!"Action is ready: approved with {feasibility} feasibility and no blocking conditions"
  | .awaitingPolicy => s!"Action is awaiting policy approval ({feasibility} feasibility)"
  | .awaitingManualReview =>
    if action.status = .failed then
      if action.canBeReapproved then
        s!"Action failed but can be reapproved ({action.maxRetries - action.attemptCount} " ++
          s!"retry attempts remaining, {feasibility} feasibility)"
      else s!"Action failed and requires manual review ({feasibility} feasibility)"
    else if action.status = .approved then s!"Action requires manual execution ({feasibility})"
    else s!"Action requires manual review ({feasibility})"
  | .blocked =>
    if action.status.isTerminal then s!"Action is in terminal status ({action.status.debug})"
    else if action.isDlqCandidate then
      dlqReason action "Action is blocked: retry budget exhausted"
        "Action is blocked: non-retryable error" "Action is blocked: DLQ candidate"
    else
      match action.reapprovalDenialReason with
      | some reason => reason
      | none => s!"Action is blocked due to {action.status.debug}"
  | .terminal => s!"Action has reached terminal status ({action.status.debug})"

def CoordinationRecord.fromAction : CoordinationRecord :=
  let status := CoordinationStatus.fromCompensationAction action
  { action
    coordinationStatus := status
    coordinationReason := computeCoordinationReason action status
    autoExecutable := action.isServiceExecutable
    isDlqCandidate := action.isDlqCandidate
    canReapprove := action.canBeReapproved
    retryBudgetExhausted := action.attemptCount ≥ action.maxRetries
    feasibility := action.feasibility
    strategyType := action.strategyType
    status := action.status
    attemptCount := action.attemptCount
    maxRetries := action.maxRetries }

structure CoordinationSummary where
  totalActions : Nat
  readyCount : Nat
  awaitingPolicyCount : Nat
  awaitingManualReviewCount : Nat
  blockedCount : Nat
  terminalCount : Nat
  dlqCandidateCount : Nat
  autoExecutableCount : Nat
deriving DecidableEq, Repr

structure CoordinationResult where
  records : List CoordinationRecord
  summary : CoordinationSummary

def evaluateCoordinationFromActions (actions : List CompensationAction) : CoordinationResult :=
  let records := actions.map .fromAction
  let counted (status : CoordinationStatus) : Nat :=
    records.countP fun r => r.coordinationStatus = status
  { records
    summary :=
      { totalActions := actions.length
        readyCount := counted .ready
        awaitingPolicyCount := counted .awaitingPolicy
        awaitingManualReviewCount := counted .awaitingManualReview
        blockedCount := counted .blocked
        terminalCount := counted .terminal
        dlqCandidateCount := records.countP fun r => r.isDlqCandidate
        autoExecutableCount := records.countP fun r => r.autoExecutable } }

variable {action}

theorem eligible_iff : computeGateStatus action = .eligible ↔
    action.status = .approved ∧ action.isServiceExecutable = true := by
  unfold computeGateStatus
  cases hstatus : action.status with
  | approved =>
    have hdlq : action.isDlqCandidate = false := by
      refine Bool.eq_false_iff.mpr fun hdlq => ?_
      cases hstatus.symm.trans (action.isDlqCandidate_failed hdlq)
    cases action.isServiceExecutable <;> simp [hdlq, CompensationStatus.isTerminal]
  | failed => cases action.isDlqCandidate <;> cases action.canBeReapproved <;>
      simp [CompensationStatus.isTerminal]
  | pending => cases action.isDlqCandidate <;> simp [CompensationStatus.isTerminal]
  | executed | waived => simp [CompensationStatus.isTerminal]

end Coordination

end IntentRebase
