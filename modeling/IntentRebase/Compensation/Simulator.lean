import IntentRebase.Compensation.Orchestration

/-! The simulation of a compensation: the actions planned for some side effects, run by mock
executors that change nothing, and the report of what they predict. -/

namespace IntentRebase

open Kit

/-- A probability in millionths. Every one that a simulation draws or compares is a whole number of
them. -/
abbrev Millionths := Nat

/-- The number as it is printed, without zeros at the end. -/
def Millionths.display (p : Millionths) : String :=
  if p % 1000000 = 0 then toString (p / 1000000)
  else
    let digits := (toString (1000000 + p % 1000000)).toList.tail
    s!"{p / 1000000}." ++ String.ofList (digits.reverse.dropWhile (· == '0')).reverse

/-- The number as a percentage with one decimal. -/
def Millionths.percent (p : Millionths) : String := s!"{p / 10000}.{p / 1000 % 10}%"

/-- A value that a seed, or else the time, decides. -/
def randomValue (nanos : UInt64) (seed : Option UInt64) : Millionths :=
  let state := seed.getD nanos * 6364136223846793005 + 1
  ((state <<< 1 ||| state >>> 63) % 1000000).toNat

def feasibilityToEffectClass : CompensationFeasibility → SideEffectClass
  | .automatic => .s1InternalReversible
  | .semiAutomatic => .s2ExternalReversible
  | .manualOnly => .s3ExternalPartiallyReversible
  | .notPossible => .s4Irreversible

inductive SimulationMode where
  | deterministic | stochastic
deriving DecidableEq, Repr

structure SimulationProbabilities where
  s1InternalReversible : Millionths := 950000
  s2ExternalReversible : Millionths := 700000
  s3ExternalPartiallyReversible : Millionths := 500000
  s4Irreversible : Millionths := 100000
deriving DecidableEq, Repr

namespace SimulationProbabilities

variable (probabilities : SimulationProbabilities)

def probabilityFor : SideEffectClass → Millionths
  | .s0PureRead => 1000000
  | .s1InternalReversible => probabilities.s1InternalReversible
  | .s2ExternalReversible => probabilities.s2ExternalReversible
  | .s3ExternalPartiallyReversible => probabilities.s3ExternalPartiallyReversible
  | .s4Irreversible => probabilities.s4Irreversible

def probabilityForFeasibility (feasibility : CompensationFeasibility) : Millionths :=
  probabilities.probabilityFor (feasibilityToEffectClass feasibility)

end SimulationProbabilities

structure SimulationConfig where
  mode : SimulationMode := .deterministic
  seed : Option UInt64 := none
  probabilities : Option SimulationProbabilities := none
deriving DecidableEq

namespace SimulationConfig

def stochasticSeed (seed : UInt64) : SimulationConfig := { mode := .stochastic, seed := some seed }

def effectiveProbabilities (config : SimulationConfig) : SimulationProbabilities :=
  config.probabilities.getD {}

end SimulationConfig

inductive ResidualRiskLevel where
  | low | medium | high
deriving DecidableEq, Repr

namespace ResidualRiskLevel

def fromSuccessProbability (probability : Millionths) : ResidualRiskLevel :=
  if probability ≥ 900000 then .low else if probability ≥ 500000 then .medium else .high

/-- The worse of two levels. -/
def worse : ResidualRiskLevel → ResidualRiskLevel → ResidualRiskLevel
  | .high, _ | _, .high => .high
  | .medium, _ | _, .medium => .medium
  | .low, .low => .low

end ResidualRiskLevel

structure ResidualRisk where
  level : ResidualRiskLevel
  description : String
  successProbability : Millionths
deriving DecidableEq, Repr

def ResidualRisk.fromProbability (probability : Millionths) (effectClass : SideEffectClass) :
    ResidualRisk where
  level := .fromSuccessProbability probability
  description :=
    s!"Residual risk for {effectClass.debug} compensation: {Millionths.percent probability} " ++
      "success probability"
  successProbability := probability

inductive SimulationRecommendation where
  | proceedAuto | proceedManual | doNotCompensate | escalate
deriving DecidableEq, Repr

def SimulationRecommendation.fromProbabilityAndFeasibility (probability : Millionths)
    (feasibility : CompensationFeasibility) : SimulationRecommendation :=
  if probability ≥ 900000 ∧ feasibility = .automatic then .proceedAuto
  else if probability ≥ 500000 then .proceedManual
  else if feasibility = .notPossible ∨ probability < 100000 then .escalate
  else .doNotCompensate

structure SimulationOutcome where
  actionId : Uuid
  predictedSuccess : Bool
  successProbability : Millionths
  errorCode : Option String
  errorDetail : Option String
  residualRisk : ResidualRisk
  recommendation : SimulationRecommendation
  mode : SimulationMode
  simulatedAt : DateTime
deriving DecidableEq, Repr

namespace SimulationOutcome

def success (now : DateTime) (action : CompensationAction) (probability : Millionths)
    (mode : SimulationMode) : SimulationOutcome where
  actionId := action.id
  predictedSuccess := true
  successProbability := probability
  errorCode := none
  errorDetail := none
  residualRisk := .fromProbability probability (feasibilityToEffectClass action.feasibility)
  recommendation := .fromProbabilityAndFeasibility probability action.feasibility
  mode := mode
  simulatedAt := now

def failure (now : DateTime) (action : CompensationAction) (errorCode : String)
    (errorDetail : Option String) (mode : SimulationMode) : SimulationOutcome where
  actionId := action.id
  predictedSuccess := false
  successProbability := 0
  errorCode := some errorCode
  errorDetail := errorDetail
  residualRisk := .fromProbability 0 (feasibilityToEffectClass action.feasibility)
  recommendation := .fromProbabilityAndFeasibility 0 action.feasibility
  mode := mode
  simulatedAt := now

end SimulationOutcome

structure SimulationReport where
  totalActions : Nat
  successfulCount : Nat
  failedCount : Nat
  outcomes : List SimulationOutcome
  overallRisk : ResidualRiskLevel
  config : SimulationConfig
  completedAt : DateTime
deriving DecidableEq

def SimulationReport.new (now : DateTime) (outcomes : List SimulationOutcome)
    (config : SimulationConfig) : SimulationReport where
  totalActions := outcomes.length
  successfulCount := outcomes.countP fun o => o.predictedSuccess
  failedCount := outcomes.length - outcomes.countP fun o => o.predictedSuccess
  outcomes := outcomes
  overallRisk := (outcomes.map fun o => o.residualRisk.level).foldl ResidualRiskLevel.worse .low
  config := config
  completedAt := now

section Executors

variable (config : SimulationConfig) (nanos : UInt64) (now : DateTime)
  (action : CompensationAction)

/-- A mock executor, which runs the actions of one strategy and one feasibility. -/
def mockExecute (name : String) (strategy : StrategyType) (feasibility : CompensationFeasibility)
    (probability : SimulationProbabilities → Millionths) : ExecutionResult :=
  if action.strategyType ≠ strategy then
    .failure now s!"Unsupported strategy type for {name}" "MOCK_UNSUPPORTED_STRATEGY_TYPE"
      (some s!"{name} only supports {strategy.debug}, got {action.strategyType.debug}")
  else if action.feasibility ≠ feasibility then
    .failure now s!"Unsupported feasibility for {name}" "MOCK_UNSUPPORTED_FEASIBILITY"
      (some (s!"{name} only supports {feasibility.debug} feasibility, " ++
        s!"got {action.feasibility.debug}"))
  else
    match config.mode with
    | .deterministic => .succeed now s!"{name}: deterministic success"
    | .stochastic =>
      let successProb := probability config.effectiveProbabilities
      let randVal := randomValue nanos config.seed
      if randVal < successProb then .succeed now s!"{name}: stochastic success"
      else .failure now s!"{name}: stochastic failure" "MOCK_STOCHASTIC_FAILURE"
        (some (s!"Random value {Millionths.display randVal} >= " ++
          s!"success probability {Millionths.display successProb}"))

def mockRollbackExecutor : ExecutionResult :=
  mockExecute config nanos now action "MockRollbackExecutor" .rollback .automatic
    (·.s1InternalReversible)

def mockCounterActionExecutor : ExecutionResult :=
  mockExecute config nanos now action "MockCounterActionExecutor" .counterAction .semiAutomatic
    (·.s2ExternalReversible)

def mockFollowupNoticeExecutor : ExecutionResult :=
  mockExecute config nanos now action "MockFollowupNoticeExecutor" .followupNotice .manualOnly
    (·.s3ExternalPartiallyReversible)

def mockEscalationExecutor : ExecutionResult :=
  mockExecute config nanos now action "MockEscalationExecutor" .escalation .notPossible
    (·.s4Irreversible)

/-- The executor of a strategy; quarantines have none of their own. -/
def executorForStrategy : ExecutionResult :=
  match action.strategyType with
  | .rollback | .quarantine => mockRollbackExecutor config nanos now action
  | .counterAction => mockCounterActionExecutor config nanos now action
  | .followupNotice => mockFollowupNoticeExecutor config nanos now action
  | .escalation => mockEscalationExecutor config nanos now action

def simulateSingleAction : SimulationOutcome :=
  if action.strategyType = .quarantine then
    .failure now action "MOCK_UNSUPPORTED_STRATEGY_TYPE"
      (some "Mock executors do not support Quarantine strategy") .deterministic
  else
    let result := executorForStrategy config nanos now action
    if result.success then
      let probability :=
        if config.mode = .deterministic then 1000000
        else config.effectiveProbabilities.probabilityForFeasibility action.feasibility
      .success now action probability config.mode
    else
      .failure now action (result.errorCode.getD "UNKNOWN")
        (some (result.errorDetail.getD "Unknown error")) config.mode

end Executors

section Simulator

variable (config : SimulationConfig) (nanos : UInt64) (now : DateTime)

def simulateActions (actions : List CompensationAction) : SimulationReport :=
  .new now (actions.map (simulateSingleAction config nanos now)) config

/-- The report on the actions that the planner has for the side effects, each under a new
identifier. -/
def simulateSideEffects (fresh : SideEffect → Uuid) (sideEffects : List SideEffect)
    (rebaseContext : RebaseContext) (tenantId : Uuid) : SimulationReport :=
  simulateActions config nanos now (sideEffects.filterMap fun sideEffect =>
    classifyAndPlanAction (fresh sideEffect) now tenantId sideEffect rebaseContext)

variable {config nanos now}

/-- The planner gives each action the strategy that the executor of its feasibility runs. -/
theorem planned_executable {id tenantId : Uuid} {sideEffect : SideEffect}
    {rebaseContext : RebaseContext} {action : CompensationAction}
    (h : classifyAndPlanAction id now tenantId sideEffect rebaseContext = some action) :
    action.isServiceExecutable = true := by
  unfold classifyAndPlanAction at h
  cases hclass : sideEffect.effectClass <;> rw [hclass] at h <;> cases h <;>
    simp [CompensationAction.isServiceExecutable, CompensationAction.fromSideEffect, hclass]

theorem simulateSingleAction_executable {action : CompensationAction}
    (hmode : config.mode = .deterministic) (h : action.isServiceExecutable = true) :
    (simulateSingleAction config nanos now action).predictedSuccess = true := by
  unfold CompensationAction.isServiceExecutable at h
  split at h
  case h_5 => cases h
  all_goals
    next hstrategy hfeasibility =>
    simp [simulateSingleAction, executorForStrategy, mockRollbackExecutor,
      mockCounterActionExecutor, mockFollowupNoticeExecutor, mockEscalationExecutor, mockExecute,
      hstrategy, hfeasibility, hmode, ExecutionResult.succeed, SimulationOutcome.success]

end Simulator

end IntentRebase
