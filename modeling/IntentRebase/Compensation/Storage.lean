import IntentRebase.Compensation.RepositoryAgreement

/-! The service's compensation actions, kept in memory or in SQL: its operations on either, and what
a write does to an action that has been read. -/

namespace IntentRebase

open Kit ActionRepo

/-- The repository of the service. -/
inductive ActionStorage where
  | inMemory (repo : ActionRepo)
  | sqlx (table : ActionTable)

namespace ActionStorage

section Operations

variable (s : ActionStorage)

def get (actionId : Uuid) : Except IntentRebaseError CompensationAction :=
  match s with
  | inMemory repo => repo.get actionId
  | sqlx table => SqlxCompensationActionRepository.get table actionId

/-- The storage with an action written under a key. -/
def put (actionId : Uuid) (action : CompensationAction) : ActionStorage :=
  match s with
  | inMemory repo => inMemory (repo.insert actionId action)
  | sqlx table => sqlx (table.insert actionId (.ofAction action))

def updateStatus (now : DateTime) (actionId : Uuid) (newStatus : CompensationStatus)
    (lockVersion : Int) (approvedBy waivedBy : Option String) : Answered ActionStorage :=
  match s with
  | inMemory repo =>
    (repo.updateStatus now actionId newStatus lockVersion approvedBy waivedBy).map id inMemory
  | sqlx table =>
    (SqlxCompensationActionRepository.updateStatus table now actionId newStatus lockVersion
      approvedBy waivedBy).map id sqlx

def recordResult (now : DateTime) (actionId : Uuid) (result : ExecutionResult) (lockVersion : Int)
    (executedBy : Option String) : Answered ActionStorage :=
  match s with
  | inMemory repo => (repo.recordResult actionId result lockVersion executedBy).map id inMemory
  | sqlx table =>
    (SqlxCompensationActionRepository.recordResult table now actionId result lockVersion
      executedBy).map id sqlx

def reapprove (actionId : Uuid) (lockVersion : Int) : Answered ActionStorage :=
  match s with
  | inMemory repo => (repo.reapprove actionId lockVersion).map id inMemory
  | sqlx table =>
    (SqlxCompensationActionRepository.reapprove table actionId lockVersion).map id sqlx

end Operations

end ActionStorage

namespace CompensationAction

variable (action : CompensationAction) (actionId : Uuid)

/-- The check before an approval or a waiver. -/
def checkTransition (target : CompensationStatus) : Except IntentRebaseError Unit :=
  let validation := action.status.canTransitionTo target
  if !validation.allowed then
    .error (.invalidCompensationActionTransition action.status.debug target.debug
      (validation.reason.getD ""))
  else .ok ()

/-- The gates before an execution. -/
def checkExecutable : Except IntentRebaseError Unit :=
  if action.status ≠ .approved then .error (.compensationActionNotExecutable actionId)
  else if !isAllowedCombo action.strategyType action.feasibility then
    .error (.compensationActionNotExecutable actionId)
  else .ok ()

/-- The gates before a reapproval. -/
def checkReapprovable : Except IntentRebaseError Unit :=
  if action.status ≠ .failed then
    .error (.invalidCompensationActionTransition action.status.debug "Pending"
      "Only Failed actions can be reapproved")
  else if action.attemptCount ≥ action.maxRetries then
    .error (.compensationActionNotReapprovable actionId
      (s!"Retry budget exhausted: {action.attemptCount} attempts made " ++
        s!"(max={action.maxRetries})"))
  else
    match action.reapprovalDenialReason with
    | some denialReason => .error (.compensationActionNotReapprovable actionId denialReason)
    | none => .ok ()

/-- The gates let pass exactly the actions that can be reapproved. -/
theorem checkReapprovable_ok {u : Unit} :
    action.checkReapprovable actionId = .ok u ↔ action.canBeReapproved = true := by
  rw [← action.reapprovalDenialReason_eq_none, checkReapprovable]
  split
  · next hstatus =>
    refine iff_of_false nofun fun h => ?_
    rw [reapprovalDenialReason, if_pos hstatus] at h
    cases h
  · next hstatus =>
    split
    · next hbudget =>
      refine iff_of_false nofun fun h => ?_
      rw [reapprovalDenialReason, if_neg hstatus, if_pos hbudget] at h
      cases h
    · cases action.reapprovalDenialReason with
      | some reason => exact iff_of_false nofun nofun
      | none => exact iff_of_true rfl rfl

/-- Only a pending action can be approved or waived. -/
theorem checkTransition_ok {target : CompensationStatus} {u : Unit}
    (htarget : target = .approved ∨ target = .waived) :
    action.checkTransition target = .ok u ↔ action.status = .pending := by
  rw [checkTransition]
  rcases htarget with rfl | rfl <;> cases action.status <;>
    simp [CompensationStatus.canTransitionTo]

theorem checkExecutable_ok {u : Unit} : action.checkExecutable actionId = .ok u ↔
    action.status = .approved ∧ isAllowedCombo action.strategyType action.feasibility = true := by
  rw [checkExecutable]
  by_cases hstatus : action.status = .approved
  · cases isAllowedCombo action.strategyType action.feasibility <;> simp [hstatus]
  · simp [hstatus]

end CompensationAction

/-- For a supported combination, the service's executor acknowledges what is recorded. -/
theorem runExecutor_success_iff {sideEffects : SideEffectRepo} {now : DateTime}
    {action : CompensationAction} {result : ExecutionResult}
    (hcombo : isAllowedCombo action.strategyType action.feasibility = true)
    (h : runExecutor (some sideEffects) now action = .ok result) :
    result.success = true ↔ Acknowledged sideEffects action := by
  rw [runExecutor] at h
  -- Only the four allowed combinations are left, each with its own executor.
  cases hstrategy : action.strategyType <;> cases hfeasibility : action.feasibility <;>
    rw [hstrategy, hfeasibility] at hcombo <;> try cases hcombo
  all_goals
    simp only [hstrategy, hfeasibility] at h
    refine BoundedExecutor.success_iff hstrategy hfeasibility (fun effectClass => ?_) h
    simp [StrategyType.accepts, rollbackExecutor, counterActionExecutor, followupNoticeExecutor,
      escalationExecutor]

/-- The actor of an execution. -/
def executionActor (executedBy : Option String) : String :=
  executedBy.getD "compensation-service/system"

namespace ActionStorage

section Service

variable (s : ActionStorage)

def approveAction (now : DateTime) (actionId : Uuid) (lockVersion : Int)
    (approvedBy : Option String) : Answered ActionStorage :=
  match s.get actionId with
  | .error e => (.error e, s)
  | .ok action =>
    match action.checkTransition .approved with
    | .error e => (.error e, s)
    | .ok _ => s.updateStatus now actionId .approved lockVersion approvedBy none

def waiveAction (now : DateTime) (actionId : Uuid) (lockVersion : Int)
    (waivedBy : Option String) : Answered ActionStorage :=
  match s.get actionId with
  | .error e => (.error e, s)
  | .ok action =>
    match action.checkTransition .waived with
    | .error e => (.error e, s)
    | .ok _ => s.updateStatus now actionId .waived lockVersion none waivedBy

def executeAction (sideEffectRepo : Option SideEffectRepo) (now : DateTime) (actionId : Uuid)
    (executedBy : Option String) : Answered ActionStorage :=
  match s.get actionId with
  | .error e => (.error e, s)
  | .ok action =>
    match action.checkExecutable actionId with
    | .error e => (.error e, s)
    | .ok _ =>
      match runExecutor sideEffectRepo now action with
      | .error e => (.error e, s)
      | .ok result => s.recordResult now actionId result action.lockVersion executedBy

def reapproveAction (actionId : Uuid) (lockVersion : Int) : Answered ActionStorage :=
  match s.get actionId with
  | .error e => (.error e, s)
  | .ok action =>
    match action.checkReapprovable actionId with
    | .error e => (.error e, s)
    | .ok _ => s.reapprove actionId lockVersion

end Service

section Writes

variable {s : ActionStorage} {actionId : Uuid} {action : CompensationAction}

theorem compensationFeasibilityFromString_ok {name : String} {f : CompensationFeasibility}
    (h : compensationFeasibilityFromString name = .ok f) :
    compensationFeasibilityToString f = name := by
  unfold compensationFeasibilityFromString at h
  split at h <;> cases h <;> rfl

theorem strategyTypeFromString_ok {name : String} {strategy : StrategyType}
    (h : strategyTypeFromString name = .ok strategy) : strategyTypeToString strategy = name := by
  unfold strategyTypeFromString at h
  split at h <;> cases h <;> rfl

theorem compensationStatusFromString_ok {name : String} {status : CompensationStatus}
    (h : compensationStatusFromString name = .ok status) :
    compensationStatusToString status = name := by
  unfold compensationStatusFromString at h
  split at h <;> cases h <;> rfl

/-- A row that is read as an action is the row that the action is written as. -/
theorem rowToAction_ok {row : ActionRow} (h : rowToAction row = .ok action) :
    row = .ofAction action := by
  rw [rowToAction] at h
  cases hfeasibility : compensationFeasibilityFromString row.feasibility with
  | error e =>
    rw [hfeasibility] at h
    cases h
  | ok feasibility =>
    cases hstrategy : strategyTypeFromString row.strategyType with
    | error e =>
      rw [hfeasibility, hstrategy] at h
      cases h
    | ok strategy =>
      cases hstatus : compensationStatusFromString row.status with
      | error e =>
        rw [hfeasibility, hstrategy, hstatus] at h
        cases h
      | ok status =>
        rw [hfeasibility, hstrategy, hstatus] at h
        cases h
        rw [ActionRow.ofAction, compensationFeasibilityFromString_ok hfeasibility,
          strategyTypeFromString_ok hstrategy, compensationStatusFromString_ok hstatus]

theorem get_put (s : ActionStorage) (actionId other : Uuid) (action : CompensationAction) :
    (s.put actionId action).get other = if other = actionId then .ok action else s.get other := by
  by_cases h : other = actionId
  · subst h
    rw [if_pos rfl]
    cases s with
    | inMemory repo => rw [put, get, ActionRepo.get, AList.lookup_insert]
    | sqlx table =>
      rw [put, get, SqlxCompensationActionRepository.get, AList.lookup_insert]
      exact rowToAction_ofAction action
  · rw [if_neg h]
    cases s with
    | inMemory repo => rw [put, get, get, ActionRepo.get, ActionRepo.get, AList.lookup_insert_ne h]
    | sqlx table =>
      rw [put, get, get, SqlxCompensationActionRepository.get,
        SqlxCompensationActionRepository.get, AList.lookup_insert_ne h]

/-- The row of an action that can be read. -/
theorem sqlx_get_ok {table : ActionTable} (h : (sqlx table).get actionId = .ok action) :
    table.lookup actionId = some (.ofAction action) := by
  rw [get, SqlxCompensationActionRepository.get] at h
  split at h
  · next row hlookup => rw [hlookup, rowToAction_ok h]
  · cases h

/-- The action that an update of the status stores. -/
def statusWritten (s : ActionStorage) (now : DateTime) (newStatus : CompensationStatus)
    (approvedBy waivedBy : Option String) (action : CompensationAction) : CompensationAction :=
  match s with
  | inMemory _ =>
    { withStatus now newStatus approvedBy waivedBy action with
      lockVersion := action.lockVersion + 1 }
  | sqlx _ => statusSet now newStatus approvedBy waivedBy action

/-- The action that the recording of a result stores. -/
def resultWritten (s : ActionStorage) (now : DateTime) (result : ExecutionResult)
    (executedBy : Option String) (action : CompensationAction) : CompensationAction :=
  match s with
  | inMemory _ =>
    { withResult result executedBy action with lockVersion := action.lockVersion + 1 }
  | sqlx _ => resultSet now result executedBy action

theorem lockedUpdate_eq {repo : ActionRepo} {lockVersion : Int}
    {change : CompensationAction → CompensationAction} (h : repo.lookup actionId = some action) :
    (repo.lockedUpdate actionId lockVersion fun action => .ok (change action)) =
      if action.lockVersion = lockVersion then
        (.ok { change action with lockVersion := action.lockVersion + 1 },
          repo.insert actionId { change action with lockVersion := action.lockVersion + 1 })
      else (.error (.concurrencyConflict actionId), repo) := by
  rw [lockedUpdate, h]
  by_cases hlock : action.lockVersion = lockVersion
  · rw [if_pos hlock]
    exact if_neg (not_not.mpr hlock)
  · rw [if_neg hlock]
    exact if_pos hlock

theorem updateLocked_eq {table : ActionTable} {lockVersion : Int} {set : ActionRow → ActionRow}
    {updated : CompensationAction} (h : table.lookup actionId = some (.ofAction action))
    (hset : set (.ofAction action) = .ofAction updated) :
    SqlxCompensationActionRepository.updateLocked table actionId lockVersion set =
      if action.lockVersion = lockVersion then
        (.ok updated, table.insert actionId (.ofAction updated))
      else (.error (.concurrencyConflict actionId), table) := by
  rw [SqlxCompensationActionRepository.updateLocked,
    SqlxCompensationActionRepository.updateReturning, h]
  by_cases hlock : action.lockVersion = lockVersion
  · have hrow : (ActionRow.ofAction action).lockVersion = lockVersion := hlock
    simp only [hrow, decide_true, if_true, hset, hlock, rowToAction_ofAction]
  · have hrow : (ActionRow.ofAction action).lockVersion ≠ lockVersion := hlock
    simp only [hrow, decide_false, Bool.false_eq_true, if_false, hlock]

/-- An update of a stored action's status is written under its lock version, or is a conflict. -/
theorem updateStatus_eq (h : s.get actionId = .ok action) (now : DateTime)
    (newStatus : CompensationStatus) (lockVersion : Int) (approvedBy waivedBy : Option String) :
    s.updateStatus now actionId newStatus lockVersion approvedBy waivedBy =
      if action.lockVersion = lockVersion then
        (.ok (s.statusWritten now newStatus approvedBy waivedBy action),
          s.put actionId (s.statusWritten now newStatus approvedBy waivedBy action))
      else (.error (.concurrencyConflict actionId), s) := by
  cases s with
  | inMemory repo =>
    rw [updateStatus, ActionRepo.updateStatus, lockedUpdate_eq (get_ok h)]
    split <;> rfl
  | sqlx table =>
    rw [updateStatus, SqlxCompensationActionRepository.updateStatus,
      updateLocked_eq (sqlx_get_ok h) (setStatus_ofAction ..)]
    split <;> rfl

/-- A result is recorded likewise. -/
theorem recordResult_eq (h : s.get actionId = .ok action) (now : DateTime)
    (result : ExecutionResult) (lockVersion : Int) (executedBy : Option String) :
    s.recordResult now actionId result lockVersion executedBy =
      if action.lockVersion = lockVersion then
        (.ok (s.resultWritten now result executedBy action),
          s.put actionId (s.resultWritten now result executedBy action))
      else (.error (.concurrencyConflict actionId), s) := by
  cases s with
  | inMemory repo =>
    rw [recordResult, ActionRepo.recordResult, lockedUpdate_eq (get_ok h)]
    split <;> rfl
  | sqlx table =>
    rw [recordResult, SqlxCompensationActionRepository.recordResult,
      updateLocked_eq (sqlx_get_ok h) (setResult_ofAction ..)]
    split <;> rfl

/-- A failed action is made pending under its lock version; any other reapproval is an error. -/
theorem reapprove_cases (h : s.get actionId = .ok action) (lockVersion : Int) :
    (action.lockVersion = lockVersion ∧ action.status = .failed ∧ s.reapprove actionId lockVersion =
      (.ok (reapproved action), s.put actionId (reapproved action))) ∨
    (¬ (action.lockVersion = lockVersion ∧ action.status = .failed) ∧
      ∃ e, s.reapprove actionId lockVersion = (.error e, s)) := by
  by_cases hboth : action.lockVersion = lockVersion ∧ action.status = .failed
  · refine .inl ⟨hboth.1, hboth.2, ?_⟩
    cases s with
    | inMemory repo =>
      rw [reapprove, ActionRepo.reapprove, lockedUpdate, get_ok h]
      simp only [hboth.1, hboth.2, ne_eq, not_true_eq_false, if_false]
      rw [reapproved, hboth.1]
      rfl
    | sqlx table =>
      rw [reapprove, sqlxReapprove_row (sqlx_get_ok h), if_pos hboth]
      rfl
  · refine .inr ⟨hboth, ?_⟩
    cases s with
    | inMemory repo =>
      rw [reapprove, ActionRepo.reapprove, lockedUpdate, get_ok h]
      dsimp only
      split
      · exact ⟨_, rfl⟩
      next hlock =>
      rw [if_pos fun hstatus => hboth ⟨not_not.mp hlock, hstatus⟩]
      exact ⟨_, rfl⟩
    | sqlx table =>
      rw [reapprove, sqlxReapprove_row (sqlx_get_ok h), if_neg hboth]
      split <;> exact ⟨_, rfl⟩

/-- What a write keeps of an action, and how it counts. -/
structure WrittenFrom (action updated : CompensationAction) : Prop extends
    SamePlan action updated where
  lockVersion : updated.lockVersion = action.lockVersion + 1

theorem statusWritten_from (s : ActionStorage) (now : DateTime) (newStatus : CompensationStatus)
    (approvedBy waivedBy : Option String) (action : CompensationAction) :
    WrittenFrom action (s.statusWritten now newStatus approvedBy waivedBy action) ∧
      (s.statusWritten now newStatus approvedBy waivedBy action).status = newStatus := by
  cases s with
  | inMemory => cases newStatus <;> exact ⟨⟨⟨rfl, rfl, rfl, rfl, rfl, rfl, rfl, rfl, rfl, rfl⟩, rfl⟩, rfl⟩
  | sqlx => exact ⟨⟨⟨rfl, rfl, rfl, rfl, rfl, rfl, rfl, rfl, rfl, rfl⟩, rfl⟩, rfl⟩

theorem resultWritten_from (s : ActionStorage) (now : DateTime) (result : ExecutionResult)
    (executedBy : Option String) (action : CompensationAction) :
    WrittenFrom action (s.resultWritten now result executedBy action) ∧
      (s.resultWritten now result executedBy action).status =
        if result.success then .executed else .failed := by
  cases s with
  | inMemory =>
    have hplan := samePlan_withResult action result executedBy
    exact ⟨⟨⟨hplan.id, hplan.tenantId, hplan.sideEffectId, hplan.intentId, hplan.triggerContext,
      hplan.feasibility, hplan.strategyType, hplan.rationale, hplan.maxRetries,
      hplan.generatedAt⟩, rfl⟩, withResult_status result executedBy⟩
  | sqlx => exact ⟨⟨⟨rfl, rfl, rfl, rfl, rfl, rfl, rfl, rfl, rfl, rfl⟩, rfl⟩, rfl⟩

theorem reapproved_from (action : CompensationAction) :
    WrittenFrom action (reapproved action) ∧ (reapproved action).status = .pending :=
  ⟨⟨⟨rfl, rfl, rfl, rfl, rfl, rfl, rfl, rfl, rfl, rfl⟩, rfl⟩, rfl⟩

end Writes

end ActionStorage

end IntentRebase
