import IntentRebase.Kit.HashMap
import IntentRebase.Compensation.Action

/-! The bounded executors: each acknowledges one strategy for one feasibility, after checking the
side effect that the action compensates. -/

namespace IntentRebase

open Kit

/-- Runs the compensation of an action. -/
abbrev Executor := CompensationAction → Except IntentRebaseError ExecutionResult

/-- The recorded side effects. -/
abbrev SideEffectRepo := HashMap Uuid SideEffect

def sideEffectNotFound (id : Uuid) : String := s!"side effect not found: {id.display}"

def SideEffectRepo.get (sideEffects : SideEffectRepo) (id : Uuid) :
    Except IntentRebaseError SideEffect :=
  match sideEffects.lookup id with
  | some sideEffect => .ok sideEffect
  | none => .error (.internal (sideEffectNotFound id))

/-- What a bounded executor supports, and how its texts name it. -/
structure BoundedExecutor where
  strategyType : StrategyType
  feasibility : CompensationFeasibility
  targetName : String
  /-- The class that the side effect must have, as the two texts of its error name the executor. -/
  expectedClass : Option (SideEffectClass × String × String)
  headline : String

/-- The last check of an executor: the class of the side effect, if it asks for one. -/
def BoundedExecutor.checkClass (executor : BoundedExecutor) (now : DateTime)
    (sideEffect : SideEffect) : ExecutionResult :=
  let acknowledged : ExecutionResult :=
    .succeed now (s!"{executor.headline} {sideEffect.effectType} targeting {sideEffect.target} " ++
      s!"acknowledged (side_effect_id={sideEffect.id.display}, " ++
      s!"effect_class={sideEffect.effectClass.debug})")
  match executor.expectedClass with
  | none => acknowledged
  | some (expected, lower, title) =>
    if sideEffect.effectClass ≠ expected then
      .failure now
        (s!"Invalid side effect class for {lower}: {sideEffect.effectClass.debug}. " ++
          s!"Expected {expected.debug}.")
        "INVALID_SIDE_EFFECT_CLASS"
        (some (s!"{title} is only valid for {expected.debug} effects, " ++
          s!"got {sideEffect.effectClass.debug}"))
    else acknowledged

/-- An executor that fails on any action but those it supports, never with an error of its own. -/
def BoundedExecutor.execute (executor : BoundedExecutor) (sideEffects : SideEffectRepo)
    (now : DateTime) : Executor := fun action =>
  if action.strategyType ≠ executor.strategyType then
    .ok (.failure now
      (s!"Unsupported strategy type: {action.strategyType.debug}. " ++
        s!"Only {executor.strategyType.debug} is supported in this slice.")
      "UNSUPPORTED_STRATEGY_TYPE"
      (some (s!"Strategy {action.strategyType.debug} " ++
        "requires Batch 1+ executor implementation")))
  else if action.feasibility ≠ executor.feasibility then
    .ok (.failure now
      (s!"Unsupported feasibility: {action.feasibility.debug}. " ++
        s!"Only {executor.feasibility.debug} is supported in this slice.")
      "UNSUPPORTED_FEASIBILITY"
      (some (s!"Feasibility {action.feasibility.debug} " ++
        "requires human intervention or is not executable")))
  else
    match sideEffects.get action.sideEffectId with
    | .error _ =>
      .ok (.failure now
        (s!"Side effect {action.sideEffectId.display} not found: " ++
          s!"cannot validate {executor.targetName} target")
        "SIDE_EFFECT_NOT_FOUND"
        (some ("Internal(\"" ++ sideEffectNotFound action.sideEffectId ++ "\")")))
    | .ok sideEffect =>
      if sideEffect.tenantId ≠ action.tenantId then
        .ok (.failure now "Side effect tenant_id mismatch" "TENANT_MISMATCH"
          (some (s!"Action tenant={action.tenantId.display}, " ++
            s!"side effect tenant={sideEffect.tenantId.display}")))
      else if sideEffect.intentId ≠ action.intentId then
        .ok (.failure now "Side effect intent_id mismatch" "INTENT_MISMATCH"
          (some (s!"Action intent={action.intentId.display}, " ++
            s!"side effect intent={sideEffect.intentId.display}")))
      else .ok (executor.checkClass now sideEffect)

def rollbackExecutor : BoundedExecutor where
  strategyType := .rollback
  feasibility := .automatic
  targetName := "rollback"
  expectedClass := none
  headline := "Rollback of"

def counterActionExecutor : BoundedExecutor where
  strategyType := .counterAction
  feasibility := .semiAutomatic
  targetName := "counter-action"
  expectedClass := some (.s2ExternalReversible, "counter-action", "Counter-action")
  headline := "Counter-action for"

def followupNoticeExecutor : BoundedExecutor where
  strategyType := .followupNotice
  feasibility := .manualOnly
  targetName := "followup notice"
  expectedClass := some (.s3ExternalPartiallyReversible, "followup notice", "FollowupNotice")
  headline := "FollowupNotice for"

def escalationExecutor : BoundedExecutor where
  strategyType := .escalation
  feasibility := .notPossible
  targetName := "escalation"
  expectedClass := some (.s4Irreversible, "escalation", "Escalation")
  headline := "Escalation for"

/-- The result for a combination that no executor supports. -/
def unsupportedCombo (now : DateTime) (action : CompensationAction) : ExecutionResult :=
  .failure now
    (s!"Unsupported strategy/feasibility combo: {action.strategyType.debug} + " ++
      s!"{action.feasibility.debug}")
    "UNSUPPORTED_COMBO" none

/-- The result of the stub that stands in when there is no side-effect repository. -/
def stubResult (now : DateTime) (action : CompensationAction) : ExecutionResult :=
  .succeed now (s!"Stub: executed {action.strategyType.debug} for action {action.id.display}")

/-- The service's own executor: the bounded one for the action's strategy and feasibility, or the
stub if the service has no side-effect repository. -/
def runExecutor (sideEffectRepo : Option SideEffectRepo) (now : DateTime) : Executor :=
  fun action =>
  match sideEffectRepo with
  | some sideEffects =>
    match action.strategyType, action.feasibility with
    | .rollback, .automatic => rollbackExecutor.execute sideEffects now action
    | .counterAction, .semiAutomatic => counterActionExecutor.execute sideEffects now action
    | .followupNotice, .manualOnly => followupNoticeExecutor.execute sideEffects now action
    | .escalation, .notPossible => escalationExecutor.execute sideEffects now action
    | _, _ => .ok (unsupportedCombo now action)
  | none =>
    match action.strategyType, action.feasibility with
    | .rollback, .automatic => .ok (stubResult now action)
    | .counterAction, .semiAutomatic => .ok (stubResult now action)
    | .followupNotice, .manualOnly => .ok (stubResult now action)
    | .escalation, .notPossible => .ok (stubResult now action)
    | _, _ => .ok (unsupportedCombo now action)

theorem BoundedExecutor.execute_ok (executor : BoundedExecutor) (sideEffects : SideEffectRepo)
    (now : DateTime) (action : CompensationAction) :
    ∃ result, executor.execute sideEffects now action = .ok result := by
  unfold BoundedExecutor.execute
  repeat' split
  all_goals exact ⟨_, rfl⟩

/-- The service's executor captures every failure in its result. -/
theorem runExecutor_ok (sideEffectRepo : Option SideEffectRepo) (now : DateTime)
    (action : CompensationAction) :
    ∃ result, runExecutor sideEffectRepo now action = .ok result := by
  unfold runExecutor
  repeat' split
  all_goals first | exact BoundedExecutor.execute_ok _ _ _ _ | exact ⟨_, rfl⟩

theorem BoundedExecutor.checkClass_at (executor : BoundedExecutor) (now now' : DateTime)
    (sideEffect : SideEffect) : executor.checkClass now' sideEffect =
      { executor.checkClass now sideEffect with completedAt := now' } := by
  unfold BoundedExecutor.checkClass
  cases executor.expectedClass with
  | none => rfl
  | some expected =>
    dsimp only
    split <;> rfl

/-- At another time, an executor gives the same result but for its time. -/
theorem BoundedExecutor.execute_at (executor : BoundedExecutor) (sideEffects : SideEffectRepo)
    (now now' : DateTime) (action : CompensationAction) :
    executor.execute sideEffects now' action =
      (executor.execute sideEffects now action).map ({ · with completedAt := now' }) := by
  unfold BoundedExecutor.execute
  split
  · rfl
  split
  · rfl
  cases sideEffects.get action.sideEffectId with
  | error => rfl
  | ok sideEffect =>
    dsimp only
    split
    · rfl
    split
    · rfl
    exact congrArg Except.ok (executor.checkClass_at now now' sideEffect)

theorem runExecutor_at (sideEffectRepo : Option SideEffectRepo) (now now' : DateTime)
    (action : CompensationAction) :
    runExecutor sideEffectRepo now' action =
      (runExecutor sideEffectRepo now action).map ({ · with completedAt := now' }) := by
  unfold runExecutor
  cases sideEffectRepo with
  | none =>
    dsimp only
    cases action.strategyType <;> cases action.feasibility <;> rfl
  | some sideEffects =>
    dsimp only
    cases action.strategyType <;> cases action.feasibility <;>
      first | rfl | exact BoundedExecutor.execute_at _ sideEffects now now' action

/-- No executor acknowledges an action whose side effect is not recorded. -/
theorem BoundedExecutor.success_recorded {executor : BoundedExecutor} {sideEffects : SideEffectRepo}
    {now : DateTime} {action : CompensationAction} {result : ExecutionResult}
    (h : executor.execute sideEffects now action = .ok result) (hsuccess : result.success = true) :
    ∃ sideEffect, sideEffects.lookup action.sideEffectId = some sideEffect ∧
      sideEffect.tenantId = action.tenantId ∧ sideEffect.intentId = action.intentId := by
  unfold BoundedExecutor.execute at h
  split at h
  · obtain rfl := Except.ok.inj h
    cases hsuccess
  split at h
  · obtain rfl := Except.ok.inj h
    cases hsuccess
  cases hlookup : sideEffects.lookup action.sideEffectId with
  | none =>
    rw [SideEffectRepo.get, hlookup] at h
    obtain rfl := Except.ok.inj h
    cases hsuccess
  | some sideEffect =>
    rw [SideEffectRepo.get, hlookup] at h
    dsimp only at h
    split at h
    · obtain rfl := Except.ok.inj h
      cases hsuccess
    next htenant =>
    split at h
    · obtain rfl := Except.ok.inj h
      cases hsuccess
    next hintent =>
    exact ⟨sideEffect, rfl, not_not.mp htenant, not_not.mp hintent⟩

/-- The classes of side effect that a strategy compensates. -/
def StrategyType.accepts : StrategyType → SideEffectClass → Bool
  | .rollback, _ => true
  | .counterAction, effectClass => effectClass == .s2ExternalReversible
  | .followupNotice, effectClass => effectClass == .s3ExternalPartiallyReversible
  | .escalation, effectClass => effectClass == .s4Irreversible
  | .quarantine, _ => false

/-- The side effect of the action is recorded for its tenant and intent, of a class that the
strategy compensates. -/
def Acknowledged (sideEffects : SideEffectRepo) (action : CompensationAction) : Prop :=
  ∃ sideEffect, sideEffects.lookup action.sideEffectId = some sideEffect ∧
    sideEffect.tenantId = action.tenantId ∧ sideEffect.intentId = action.intentId ∧
    action.strategyType.accepts sideEffect.effectClass = true

theorem BoundedExecutor.checkClass_success_iff (executor : BoundedExecutor) (now : DateTime)
    (sideEffect : SideEffect) : (executor.checkClass now sideEffect).success = true ↔
      ∀ expected, executor.expectedClass = some expected →
        sideEffect.effectClass = expected.1 := by
  unfold BoundedExecutor.checkClass
  cases executor.expectedClass with
  | none => simp [ExecutionResult.succeed]
  | some expected =>
    by_cases hclass : sideEffect.effectClass = expected.1
    · simp [hclass, ExecutionResult.succeed]
    · simp [hclass, ExecutionResult.failure]

/-- An executor acknowledges the actions that it supports where their side effect is recorded. -/
theorem BoundedExecutor.success_iff {executor : BoundedExecutor} {sideEffects : SideEffectRepo}
    {now : DateTime} {action : CompensationAction} {result : ExecutionResult}
    (hstrategy : action.strategyType = executor.strategyType)
    (hfeasibility : action.feasibility = executor.feasibility)
    (haccepts : ∀ effectClass, executor.strategyType.accepts effectClass = true ↔
      ∀ expected, executor.expectedClass = some expected → effectClass = expected.1)
    (h : executor.execute sideEffects now action = .ok result) :
    result.success = true ↔ Acknowledged sideEffects action := by
  constructor
  · intro hsuccess
    obtain ⟨sideEffect, hlookup, htenant, hintent⟩ := BoundedExecutor.success_recorded h hsuccess
    rw [BoundedExecutor.execute, SideEffectRepo.get, hlookup] at h
    simp only [hstrategy, hfeasibility, htenant, hintent, ne_eq, not_true_eq_false, ↓reduceIte,
      Except.ok.injEq] at h
    refine ⟨sideEffect, hlookup, htenant, hintent, ?_⟩
    rw [hstrategy, haccepts, ← executor.checkClass_success_iff now, h]
    exact hsuccess
  · rintro ⟨sideEffect, hlookup, htenant, hintent, hclass⟩
    rw [BoundedExecutor.execute, SideEffectRepo.get, hlookup] at h
    simp only [hstrategy, hfeasibility, htenant, hintent, ne_eq, not_true_eq_false, ↓reduceIte,
      Except.ok.injEq] at h
    rw [← h, executor.checkClass_success_iff now, ← haccepts, ← hstrategy]
    exact hclass

/-! The compensation actions as the in-memory repository stores them, and the service operations on
them. Every mutation is checked against the lock version that its caller read. -/

/-- The stored actions. -/
abbrev ActionRepo := HashMap Uuid CompensationAction

/-- What an operation answers, and the repository that it leaves. -/
abbrev Outcome := Except IntentRebaseError CompensationAction × ActionRepo

namespace ActionRepo

variable (repo : ActionRepo)

def create (action : CompensationAction) : ActionRepo := repo.insert action.id action

def get (actionId : Uuid) : Except IntentRebaseError CompensationAction :=
  match repo.lookup actionId with
  | some action => .ok action
  | none => .error (.compensationActionNotFound actionId)

/-- A change of one action under its optimistic lock: the caller's lock version must be the current
one, which the change then increases. -/
def lockedUpdate (actionId : Uuid) (lockVersion : Int)
    (change : CompensationAction → Except IntentRebaseError CompensationAction) : Outcome :=
  match repo.lookup actionId with
  | none => (.error (.compensationActionNotFound actionId), repo)
  | some action =>
    if action.lockVersion ≠ lockVersion then (.error (.concurrencyConflict actionId), repo)
    else
      match change action with
      | .error e => (.error e, repo)
      | .ok changed =>
        let updated := { changed with lockVersion := action.lockVersion + 1 }
        (.ok updated, repo.insert actionId updated)

/-- The action with a new status, and the time and actor that go with it. -/
def withStatus (now : DateTime) (newStatus : CompensationStatus)
    (approvedBy waivedBy : Option String) (action : CompensationAction) : CompensationAction :=
  let action := { action with status := newStatus }
  match newStatus with
  | .approved =>
    { action with approvedAt := some now, approvedBy := approvedBy.or action.approvedBy }
  | .waived => { action with waivedAt := some now, waivedBy := waivedBy.or action.waivedBy }
  | .executed => { action with executedAt := some now }
  | .failed => { action with failedAt := some now }
  | .pending => action

def updateStatus (now : DateTime) (actionId : Uuid) (newStatus : CompensationStatus)
    (lockVersion : Int) (approvedBy waivedBy : Option String) : Outcome :=
  repo.lockedUpdate actionId lockVersion fun action =>
    .ok (withStatus now newStatus approvedBy waivedBy action)

/-- The action with the result of an attempt. -/
def withResult (result : ExecutionResult) (executedBy : Option String)
    (action : CompensationAction) : CompensationAction :=
  let action :=
    { action with
      attemptCount := action.attemptCount + 1
      executionResultPayload := some result }
  if result.success then
    { action with
      status := .executed
      executedAt := some result.completedAt
      executedBy := executedBy.or action.executedBy }
  else { action with status := .failed, failedAt := some result.completedAt }

def recordResult (actionId : Uuid) (result : ExecutionResult) (lockVersion : Int)
    (executedBy : Option String) : Outcome :=
  repo.lockedUpdate actionId lockVersion fun action => .ok (withResult result executedBy action)

def reapprove (actionId : Uuid) (lockVersion : Int) : Outcome :=
  repo.lockedUpdate actionId lockVersion fun action =>
    if action.status ≠ .failed then
      .error (.invalidCompensationActionTransition action.status.debug "Pending"
        "Only Failed actions can be reapproved")
    else .ok { action with status := .pending, failedAt := none }

variable {repo} {actionId : Uuid} {lockVersion : Int} {updated : CompensationAction}
  {after : ActionRepo} {e : IntentRebaseError}
  {change : CompensationAction → Except IntentRebaseError CompensationAction}

theorem lockedUpdate_ok (h : repo.lockedUpdate actionId lockVersion change = (.ok updated, after)) :
    ∃ action changed, repo.lookup actionId = some action ∧ action.lockVersion = lockVersion ∧
      change action = .ok changed ∧
      updated = { changed with lockVersion := action.lockVersion + 1 } ∧
      after = repo.insert actionId updated := by
  unfold lockedUpdate at h
  split at h
  · cases h
  next action hlookup =>
  split at h
  · cases h
  next hlock =>
  split at h
  · cases h
  next changed hchange =>
  cases h
  exact ⟨action, changed, hlookup, not_not.mp hlock, hchange, rfl, rfl⟩

theorem lockedUpdate_error (h : repo.lockedUpdate actionId lockVersion change = (.error e, after)) :
    after = repo := by
  unfold lockedUpdate at h
  repeat' split at h
  all_goals cases h
  all_goals rfl

end ActionRepo

section Service

variable (repo : ActionRepo)

/-- The check before an approval or a waiver: the action exists, and may move to the target. -/
def validateTransition (actionId : Uuid) (target : CompensationStatus) :
    Except IntentRebaseError CompensationAction :=
  match repo.get actionId with
  | .error e => .error e
  | .ok action =>
    let validation := action.status.canTransitionTo target
    if !validation.allowed then
      .error (.invalidCompensationActionTransition action.status.debug target.debug
        (validation.reason.getD ""))
    else .ok action

def approveAction (now : DateTime) (actionId : Uuid) (lockVersion : Int)
    (approvedBy : Option String) : Outcome :=
  match validateTransition repo actionId .approved with
  | .error e => (.error e, repo)
  | .ok _ => repo.updateStatus now actionId .approved lockVersion approvedBy none

def waiveAction (now : DateTime) (actionId : Uuid) (lockVersion : Int)
    (waivedBy : Option String) : Outcome :=
  match validateTransition repo actionId .waived with
  | .error e => (.error e, repo)
  | .ok _ => repo.updateStatus now actionId .waived lockVersion none waivedBy

/-- The strategy is the one that the execution policy allows for the feasibility. -/
def isAllowedCombo : StrategyType → CompensationFeasibility → Bool
  | .rollback, .automatic => true
  | .counterAction, .semiAutomatic => true
  | .followupNotice, .manualOnly => true
  | .escalation, .notPossible => true
  | _, _ => false

/-- The gates before an execution: only an approved action of an allowed combination passes. -/
def selectForExecution (actionId : Uuid) : Except IntentRebaseError CompensationAction :=
  match repo.get actionId with
  | .error e => .error e
  | .ok action =>
    if action.status ≠ .approved then .error (.compensationActionNotExecutable actionId)
    else if !isAllowedCombo action.strategyType action.feasibility then
      .error (.compensationActionNotExecutable actionId)
    else .ok action

/-- The execution of an action: the lock version is the one that was read before the executor ran.
-/
def executeAction (executor : Executor) (actionId : Uuid) (executedBy : Option String) : Outcome :=
  match selectForExecution repo actionId with
  | .error e => (.error e, repo)
  | .ok action =>
    match executor action with
    | .error e => (.error e, repo)
    | .ok result => repo.recordResult actionId result action.lockVersion executedBy

/-- The gates before a reapproval: only a failed action with retries left and a transient error
passes. -/
def selectForReapproval (actionId : Uuid) : Except IntentRebaseError CompensationAction :=
  match repo.get actionId with
  | .error e => .error e
  | .ok action =>
    if action.status ≠ .failed then
      .error (.invalidCompensationActionTransition action.status.debug "Pending"
        "Only Failed actions can be reapproved")
    else if action.attemptCount ≥ action.maxRetries then
      .error (.compensationActionNotReapprovable actionId
        (s!"Retry budget exhausted: {action.attemptCount} attempts made " ++
          s!"(max={action.maxRetries})"))
    else
      match action.reapprovalDenialReason with
      | some denialReason => .error (.compensationActionNotReapprovable actionId denialReason)
      | none => .ok action

def reapproveAction (actionId : Uuid) (lockVersion : Int) : Outcome :=
  match selectForReapproval repo actionId with
  | .error e => (.error e, repo)
  | .ok _ => repo.reapprove actionId lockVersion

/-- The actions planned for the side effects of an intent, each under a new identifier, and the
repository with them. -/
def planCompensationActions (fresh : SideEffect → Uuid) (now : DateTime) (tenantId : Uuid)
    (rebaseContext : RebaseContext) (sideEffects : List SideEffect) :
    List CompensationAction × ActionRepo :=
  let generated := sideEffects.filterMap fun sideEffect =>
    classifyAndPlanAction (fresh sideEffect) now tenantId sideEffect rebaseContext
  (generated, generated.foldl ActionRepo.create repo)

end Service

end IntentRebase
