import IntentRebase.Api.StoredBatch
import IntentRebase.Compensation.RecordedService

/-! The execution of a compensation action by the service, by the handler of one action and by that
of a batch, the last two in a transaction of the tenant: when they leave the same action, the same
rollback record and the same audit events. -/

namespace IntentRebase

open Kit SqlxCompensationActionRepository

/-- Where a repository keeps its values. -/
inductive RepositoryKind where
  | inMemory | sqlx
deriving DecidableEq, Repr

/-- The repositories that the service is configured with, besides that of the actions. -/
structure ExecutionConfig where
  sideEffectRepo : Option SideEffectRepo
  rollbackRecordRepo : Option RepositoryKind
  auditRepo : Bool

/-- The state with the records and events as the lists of what was created. -/
abbrev LoggedState := ServiceState (List SideEffectRollbackRecord) (List AuditEvent)

abbrev LoggedAnswer := RecordedAnswer (List SideEffectRollbackRecord) (List AuditEvent)

namespace ExecutionConfig

variable (config : ExecutionConfig)

def repositories : ServiceRepositories (List SideEffectRollbackRecord) (List AuditEvent) where
  sideEffectRepo := config.sideEffectRepo
  rollbackRecordRepo := config.rollbackRecordRepo.map fun _ => .log
  auditRepo := if config.auditRepo then some .log else none

/-- The same, as the handlers of a pool of tenant transactions see it. -/
def handlers : CompensationConfig where
  rlsPool := true
  sqlRollbackRepo := config.rollbackRecordRepo == some .sqlx
  sideEffectRepo := config.sideEffectRepo

end ExecutionConfig

namespace LoggedState

variable (config : ExecutionConfig) (draws : ServiceDraws) (w : LoggedState)

/-- The rollback record in a transaction, which only an SQL repository can take. -/
def createRollbackRecordWithTx (record : SideEffectRollbackRecord) : LoggedState :=
  if config.rollbackRecordRepo = some .sqlx then
    { w with rollbackRecords := w.rollbackRecords ++ [record] }
  else w

/-- The transaction that records a result: the action, and then the rollback record. Its statements
are taken to do what they do in the repositories without one. -/
def recordInTransaction (actionId : Uuid) (action : CompensationAction) (result : ExecutionResult)
    (executedBy : Option String) : LoggedAnswer :=
  let actorId := executionActor executedBy
  match w.actions.recordResult draws.now actionId result action.lockVersion (some actorId) with
  | (.error e, _) => (.error e, w)
  | (.ok updated, actions) =>
    (.ok updated, createRollbackRecordWithTx config { w with actions }
      (executionRecord draws.rollbackRecord action result (some actorId)))

/-- The transaction branch of the handler of one action, after the action is read. -/
def executeInTransaction (actionId : Uuid) (action : CompensationAction)
    (executedBy : Option String) : LoggedAnswer :=
  match action.checkExecutable actionId with
  | .error e => (.error e, w)
  | .ok _ =>
    match dispatchExecutor draws.now id (.compensationActionNotExecutable actionId)
      (.compensationActionNotExecutable actionId) config.sideEffectRepo action with
    | .error e => (.error e, w)
    | .ok result => recordInTransaction config draws w actionId action result executedBy

/-- The transaction branch of the handler of a batch, for one of its actions. -/
def batchExecuteInTransaction (actionId : Uuid) (action : CompensationAction)
    (initiatedBy : Option String) : Except String CompensationAction × LoggedState :=
  if action.status ≠ .approved then (.error "Action is not in Approved status", w)
  else if !isAllowedCombo action.strategyType action.feasibility then
    (.error "Action is not service-executable", w)
  else
    match dispatchExecutor draws.now IntentRebaseError.display
      "Side effect repository not available" "Unsupported strategy/feasibility combo"
      config.sideEffectRepo action with
    | .error e => (.error e, w)
    | .ok result =>
      (recordInTransaction config draws w actionId action result initiatedBy).map
        (.mapError IntentRebaseError.display) id

variable (claims : RlsTenantClaims) (actionId : Uuid)

/-- The handler of one action, with a pool and the actions in SQL. -/
def executeCompensationAction (executedBy : Option String) : LoggedAnswer :=
  match w.actions.get actionId with
  | .error e => (.error e, w)
  | .ok action =>
    if action.tenantId ≠ claims.tenantId then
      (.error (.unauthorized (actionTenantMismatch claims.tenantId action.tenantId)), w)
    else executeInTransaction config draws w actionId action executedBy

/-- The handler of a batch likewise, for one of its actions. -/
def batchExecuteCompensationAction (initiatedBy : Option String) :
    Except String CompensationAction × LoggedState :=
  match w.actions.get actionId with
  | .error (.compensationActionNotFound _) => (.error "Compensation action not found", w)
  | .error e => (.error e.display, w)
  | .ok action =>
    if action.tenantId ≠ claims.tenantId then
      (.error "Tenant mismatch: action not found or access denied", w)
    else batchExecuteInTransaction config draws w actionId action initiatedBy

end LoggedState

/-- The gates of an execution let the action pass. -/
def CompensationAction.Executable (action : CompensationAction) : Prop :=
  action.status = .approved ∧ isAllowedCombo action.strategyType action.feasibility = true

/-- An action but for the times of an execution. -/
def CompensationAction.undated (action : CompensationAction) : CompensationAction :=
  { action with
    executionResultPayload := action.executionResultPayload.map ({ · with completedAt := 0 })
    executedAt := action.executedAt.map fun _ => 0
    failedAt := action.failedAt.map fun _ => 0 }

/-- A record but for what is drawn for it. -/
def SideEffectRollbackRecord.undrawn (record : SideEffectRollbackRecord) :
    SideEffectRollbackRecord :=
  { record with id := .nil, recordedAt := 0 }

def AuditEvent.undrawn (event : AuditEvent) : AuditEvent :=
  { event with id := .nil, occurredAt := 0 }

/-- Two executions both succeed, with the same action, or both fail, and leave the same actions,
rollback records and audit events, up to identifiers and times. -/
structure ExecutedAlike {ε ε' : Type} (left : Except ε CompensationAction × LoggedState)
    (right : Except ε' CompensationAction × LoggedState) : Prop where
  answer : left.1.toOption.map CompensationAction.undated =
    right.1.toOption.map CompensationAction.undated
  actions : ∀ actionId,
    (left.2.actions.get actionId).toOption.map CompensationAction.undated =
      (right.2.actions.get actionId).toOption.map CompensationAction.undated
  rollbackRecords : left.2.rollbackRecords.map SideEffectRollbackRecord.undrawn =
    right.2.rollbackRecords.map SideEffectRollbackRecord.undrawn
  auditEvents : left.2.auditEvents.map AuditEvent.undrawn =
    right.2.auditEvents.map AuditEvent.undrawn

section Outcomes

variable (config : ExecutionConfig) (draws : ServiceDraws) (w : LoggedState) (actionId : Uuid)
  (action : CompensationAction) (result : ExecutionResult) (executedBy : Option String)

/-- What an execution by the service leaves. -/
def serviceExecuted : LoggedAnswer :=
  let updated := w.actions.resultWritten draws.now result executedBy action
  (.ok updated, {
    actions := w.actions.put actionId updated
    rollbackRecords := w.rollbackRecords ++ (if config.rollbackRecordRepo.isSome then
      [executionRecord draws.rollbackRecord action result executedBy] else [])
    auditEvents := w.auditEvents ++ (if config.auditRepo then
      [startedEvent draws action executedBy,
        endedEvent draws actionId action result executedBy] else []) })

/-- What an execution in a transaction leaves. -/
def transactionExecuted : LoggedAnswer :=
  let actor := some (executionActor executedBy)
  let updated := w.actions.resultWritten draws.now result actor action
  (.ok updated, { w with
    actions := w.actions.put actionId updated
    rollbackRecords := w.rollbackRecords ++ (if config.rollbackRecordRepo = some .sqlx then
      [executionRecord draws.rollbackRecord action result actor] else []) })

variable {config draws w actionId action result}

theorem executeAction_executed (hget : w.actions.get actionId = .ok action)
    (hexecutable : action.Executable)
    (hresult : runExecutor config.sideEffectRepo draws.now action = .ok result) :
    w.executeAction config.repositories draws actionId executedBy =
      serviceExecuted config draws w actionId action result executedBy := by
  have hcheck := (action.checkExecutable_ok actionId (u := ())).mpr hexecutable
  have hresult' : runExecutor config.repositories.sideEffectRepo draws.now action = .ok result :=
    hresult
  rw [ServiceState.executeAction, hget]
  dsimp only
  rw [hcheck]
  dsimp only
  rw [hresult']
  dsimp only
  rw [ServiceState.createAuditEvent_actions, ActionStorage.recordResult_eq hget, if_pos rfl]
  dsimp only
  rw [serviceExecuted]
  -- Each repository may or may not be configured.
  cases hrecords : config.rollbackRecordRepo <;> cases haudit : config.auditRepo <;>
    simp [ServiceState.createRollbackRecord, ServiceState.createAuditEvent,
      ExecutionConfig.repositories, hrecords, haudit, RollbackRecordRepository.log,
      AuditRepository.log]

theorem recordInTransaction_executed (hget : w.actions.get actionId = .ok action) :
    w.recordInTransaction config draws actionId action result executedBy =
      transactionExecuted config draws w actionId action result executedBy := by
  rw [LoggedState.recordInTransaction, ActionStorage.recordResult_eq hget, if_pos rfl]
  dsimp only
  rw [LoggedState.createRollbackRecordWithTx, transactionExecuted]
  split <;> simp

end Outcomes

def ActionStorage.isInMemory : ActionStorage → Bool
  | .inMemory _ => true
  | .sqlx _ => false

/-- The actor that an execution without one gets is not seen in the stored action: it is already
there, or the attempt fails in memory, which keeps no actor of a failure. -/
def ActorHidden (sideEffects : SideEffectRepo) (s : ActionStorage) (action : CompensationAction) :
    Prop :=
  action.executedBy = some (executionActor none) ∨
    s.isInMemory = true ∧ ¬ Acknowledged sideEffects action

/-- For an action that the gates let pass: there are recorded side effects and no audit events to
create, rollback records go to SQL if anywhere, and an actor is given or leaves no trace. -/
def TransactionsFaithful (config : ExecutionConfig) (s : ActionStorage)
    (action : CompensationAction) (executedBy : Option String) : Prop :=
  action.Executable → ∃ sideEffects, config.sideEffectRepo = some sideEffects ∧
    config.auditRepo = false ∧ config.rollbackRecordRepo ≠ some .inMemory ∧
    (executedBy.isSome = true ∨
      config.rollbackRecordRepo = none ∧ ActorHidden sideEffects s action)

section Agreement

variable {config : ExecutionConfig} {draws draws' : ServiceDraws} {w : LoggedState}
  {actionId : Uuid} {action : CompensationAction} {result : ExecutionResult}
  {executedBy : Option String} {s : ActionStorage}

variable (s action result) in
/-- At another time and by another actor, the same result leaves the same action if it leaves the
same actor. -/
theorem resultWritten_undated (now now' completedAt : DateTime) (actor actor' : Option String) :
    (s.resultWritten now result actor action).undated =
        (s.resultWritten now' { result with completedAt } actor' action).undated ↔
      (s.resultWritten now result actor action).executedBy =
        (s.resultWritten now result actor' action).executedBy := by
  cases s with
  | inMemory repo =>
    simp only [ActionStorage.resultWritten, ActionRepo.withResult]
    cases hsuccess : result.success <;> simp [CompensationAction.undated, hsuccess]
  | sqlx table =>
    simp only [ActionStorage.resultWritten, resultSet]
    cases hsuccess : result.success <;> simp [CompensationAction.undated, hsuccess]

theorem resultWritten_executedBy (now : DateTime) (actor : Option String) :
    (s.resultWritten now result actor action).executedBy =
      if s.isInMemory && !result.success then action.executedBy
      else actor.or action.executedBy := by
  cases s with
  | inMemory repo =>
    cases hsuccess : result.success <;>
      simp [ActionStorage.resultWritten, ActionRepo.withResult, ActionStorage.isInMemory, hsuccess]
  | sqlx table => simp [ActionStorage.resultWritten, resultSet, ActionStorage.isInMemory]

/-- Without an actor, what is stored is the same exactly if the default one does not show. -/
theorem actorHidden_iff {sideEffects : SideEffectRepo} (now : DateTime)
    (hsuccess : result.success = true ↔ Acknowledged sideEffects action) :
    (s.resultWritten now result none action).executedBy =
        (s.resultWritten now result (some (executionActor none)) action).executedBy ↔
      ActorHidden sideEffects s action := by
  rw [resultWritten_executedBy, resultWritten_executedBy, ActorHidden, ← hsuccess]
  cases s.isInMemory <;> cases result.success <;> simp

theorem executionRecord_undrawn (draw draw' : Draw) (completedAt : DateTime)
    (actor actor' : Option String) :
    (executionRecord draw action result actor).undrawn =
        (executionRecord draw' action { result with completedAt } actor').undrawn ↔
      actor = actor' := by
  rw [executionRecord, executionRecord]
  cases result.success <;> simp [SideEffectRollbackRecord.undrawn, SideEffectRollbackRecord.success,
    SideEffectRollbackRecord.failureWithActor]

variable (config draws draws' w actionId executedBy) in
/-- The execution in a transaction and that by the service, of one result, are alike exactly under
these conditions. -/
theorem executed_alike_iff {sideEffects : SideEffectRepo} (completedAt : DateTime)
    (hsuccess : result.success = true ↔ Acknowledged sideEffects action) :
    ExecutedAlike (transactionExecuted config draws w actionId action result executedBy)
        (serviceExecuted config draws' w actionId action { result with completedAt } executedBy) ↔
      config.auditRepo = false ∧ config.rollbackRecordRepo ≠ some .inMemory ∧
        (executedBy.isSome = true ∨
          config.rollbackRecordRepo = none ∧ ActorHidden sideEffects w.actions action) := by
  have hundated := resultWritten_undated action result w.actions draws.now draws'.now completedAt
    (some (executionActor executedBy)) executedBy
  constructor
  · intro h
    have haudit : config.auditRepo = false := by
      have hlength := congrArg List.length h.auditEvents
      cases haudit : config.auditRepo with
      | false => rfl
      | true => simp [transactionExecuted, serviceExecuted, haudit] at hlength
    have hkind : config.rollbackRecordRepo ≠ some .inMemory := fun hkind => by
      have hlength := congrArg List.length h.rollbackRecords
      simp [transactionExecuted, serviceExecuted, hkind] at hlength
    refine ⟨haudit, hkind, ?_⟩
    cases executedBy with
    | some actor => exact .inl rfl
    | none =>
      have hactor := hundated.mp (Option.some.inj h.answer)
      refine .inr ⟨?_, (actorHidden_iff draws.now hsuccess).mp hactor.symm⟩
      cases hrecords : config.rollbackRecordRepo with
      | none => rfl
      | some kind =>
        cases kind with
        | inMemory => exact absurd hrecords hkind
        | sqlx =>
          have hlist := h.rollbackRecords
          simp only [transactionExecuted, serviceExecuted, hrecords, ↓reduceIte, Option.isSome_some,
            List.map_append, List.append_cancel_left_eq, List.map_cons, List.map_nil,
            List.cons.injEq, and_true] at hlist
          cases (executionRecord_undrawn _ _ _ _ _).mp hlist
  · rintro ⟨haudit, hkind, hactor⟩
    have hsame : (w.actions.resultWritten draws.now result (some (executionActor executedBy))
          action).undated =
        (w.actions.resultWritten draws'.now { result with completedAt } executedBy
          action).undated := by
      refine hundated.mpr ?_
      cases executedBy with
      | some actor => rfl
      | none =>
        have hhidden := (hactor.resolve_left (by simp)).2
        exact ((actorHidden_iff draws.now hsuccess).mpr hhidden).symm
    refine ⟨congrArg some hsame, fun other => ?_, ?_, ?_⟩
    · rw [transactionExecuted, serviceExecuted]
      dsimp only
      rw [ActionStorage.get_put, ActionStorage.get_put]
      split
      · exact congrArg some hsame
      · rfl
    · rw [transactionExecuted, serviceExecuted]
      cases hrecords : config.rollbackRecordRepo with
      | none => simp
      | some kind =>
        cases kind with
        | inMemory => exact absurd hrecords hkind
        | sqlx =>
          rw [hrecords] at hactor
          obtain ⟨actor, rfl⟩ := Option.isSome_iff_exists.mp (hactor.resolve_right (by simp))
          simpa [executionActor] using (executionRecord_undrawn draws.rollbackRecord
            draws'.rollbackRecord completedAt (some actor) (some actor)).mpr rfl
    · simp [transactionExecuted, serviceExecuted, haudit]

end Agreement

section Branches

variable {ε : Type} {config : ExecutionConfig} {draws draws' : ServiceDraws} {w : LoggedState}
  {actionId : Uuid} {action : CompensationAction} {executedBy : Option String}

/-- A branch of a handler refuses the action, or leaves what an execution in a transaction does. -/
def RunsInTransaction (config : ExecutionConfig) (draws : ServiceDraws) (w : LoggedState)
    (actionId : Uuid) (action : CompensationAction) (executedBy : Option String)
    (answer : Except ε CompensationAction × LoggedState) : Prop :=
  (¬ (action.Executable ∧ config.sideEffectRepo.isSome = true) ∧ ∃ e, answer = (.error e, w)) ∨
    (action.Executable ∧ ∃ sideEffects result, config.sideEffectRepo = some sideEffects ∧
      runExecutor config.sideEffectRepo draws.now action = .ok result ∧
      answer.1.toOption =
        (transactionExecuted config draws w actionId action result executedBy).1.toOption ∧
      answer.2 = (transactionExecuted config draws w actionId action result executedBy).2)

theorem executeInTransaction_runs (hget : w.actions.get actionId = .ok action) :
    RunsInTransaction config draws w actionId action executedBy
      (w.executeInTransaction config draws actionId action executedBy) := by
  rw [LoggedState.executeInTransaction]
  cases hcheck : action.checkExecutable actionId with
  | error e =>
    refine .inl ⟨fun h => ?_, e, rfl⟩
    cases hcheck.symm.trans ((action.checkExecutable_ok actionId (u := ())).mpr h.1)
  | ok _ =>
    have hexecutable : action.Executable := (action.checkExecutable_ok actionId).mp hcheck
    dsimp only
    rcases dispatchExecutor_ok draws.now id (.compensationActionNotExecutable actionId)
        (.compensationActionNotExecutable actionId) config.sideEffectRepo hexecutable.2 with
      ⟨sideEffects, result, hrepo, hresult, hrun⟩ | ⟨hrepo, hrun⟩
    · rw [hrun]
      dsimp only
      rw [recordInTransaction_executed executedBy hget]
      exact .inr ⟨hexecutable, sideEffects, result, hrepo, hresult, rfl, rfl⟩
    · rw [hrun]
      exact .inl ⟨fun h => by simp [hrepo] at h, _, rfl⟩

theorem batchExecuteInTransaction_runs (hget : w.actions.get actionId = .ok action) :
    RunsInTransaction config draws w actionId action executedBy
      (w.batchExecuteInTransaction config draws actionId action executedBy) := by
  rw [LoggedState.batchExecuteInTransaction]
  by_cases hstatus : action.status = .approved
  swap
  · rw [if_pos hstatus]
    exact .inl ⟨fun h => hstatus h.1.1, _, rfl⟩
  rw [if_neg (not_not.mpr hstatus)]
  cases hcombo : isAllowedCombo action.strategyType action.feasibility with
  | false =>
    rw [if_pos Bool.not_false]
    exact .inl ⟨fun h => (nomatch hcombo.symm.trans h.1.2), _, rfl⟩
  | true =>
    rw [if_neg (by simp)]
    rcases dispatchExecutor_ok draws.now IntentRebaseError.display
        "Side effect repository not available" "Unsupported strategy/feasibility combo"
        config.sideEffectRepo hcombo with
      ⟨sideEffects, result, hrepo, hresult, hrun⟩ | ⟨hrepo, hrun⟩
    · rw [hrun]
      dsimp only
      rw [recordInTransaction_executed executedBy hget]
      exact .inr ⟨⟨hstatus, hcombo⟩, sideEffects, result, hrepo, hresult, rfl, rfl⟩
    · rw [hrun]
      exact .inl ⟨fun h => by simp [hrepo] at h, _, rfl⟩

variable (config draws' executedBy) in
/-- Refused on both sides, an execution leaves everything as it is. -/
theorem executeAction_refused (hget : w.actions.get actionId = .ok action)
    (hrefused : ¬ action.Executable) : ∃ e,
      w.executeAction config.repositories draws' actionId executedBy = (.error e, w) := by
  rw [ServiceState.executeAction, hget]
  dsimp only
  cases hcheck : action.checkExecutable actionId with
  | error e => exact ⟨e, rfl⟩
  | ok _ => exact absurd ((action.checkExecutable_ok actionId).mp hcheck) hrefused

theorem runs_alike_iff {answer : Except ε CompensationAction × LoggedState}
    (hget : w.actions.get actionId = .ok action)
    (hruns : RunsInTransaction config draws w actionId action executedBy answer) :
    ExecutedAlike answer (w.executeAction config.repositories draws' actionId executedBy) ↔
      TransactionsFaithful config w.actions action executedBy := by
  by_cases hexecutable : action.Executable
  swap
  · obtain ⟨e', hservice⟩ := executeAction_refused config draws' executedBy hget
      hexecutable
    rcases hruns with ⟨-, e, rfl⟩ | ⟨h, -⟩
    · rw [hservice]
      exact iff_of_true ⟨rfl, fun _ => rfl, rfl, rfl⟩ fun h => absurd h hexecutable
    · exact absurd h hexecutable
  obtain ⟨served, hserved⟩ := runExecutor_ok config.sideEffectRepo draws'.now action
  rw [executeAction_executed executedBy hget hexecutable hserved, TransactionsFaithful,
    imp_iff_right hexecutable]
  rcases hruns with ⟨hrefused, e, rfl⟩ | ⟨-, sideEffects, result, hrepo, hresult, hanswer, hstate⟩
  · refine iff_of_false (fun h => ?_) fun h => ?_
    · cases h.answer
    · obtain ⟨sideEffects, hrepo, -⟩ := h
      exact hrefused ⟨hexecutable, by simp [hrepo]⟩
  · have hat := runExecutor_at config.sideEffectRepo draws.now draws'.now action
    rw [hresult, hserved] at hat
    obtain rfl := Except.ok.inj hat
    rw [hrepo] at hresult
    have hsuccess := runExecutor_success_iff hexecutable.2 hresult
    have halike := executed_alike_iff config draws draws' w actionId executedBy draws'.now hsuccess
    have hsame : ExecutedAlike answer (serviceExecuted config draws' w actionId action
          { result with completedAt := draws'.now } executedBy) ↔
        ExecutedAlike (transactionExecuted config draws w actionId action result executedBy)
          (serviceExecuted config draws' w actionId action
            { result with completedAt := draws'.now } executedBy) := by
      constructor
      · rintro ⟨h₁, h₂, h₃, h₄⟩
        exact ⟨hanswer ▸ h₁, hstate ▸ h₂, hstate ▸ h₃, hstate ▸ h₄⟩
      · rintro ⟨h₁, h₂, h₃, h₄⟩
        exact ⟨hanswer ▸ h₁, hstate ▸ h₂, hstate ▸ h₃, hstate ▸ h₄⟩
    rw [hsame, halike]
    constructor
    · exact fun h => ⟨sideEffects, hrepo, h⟩
    · rintro ⟨other, hother, h⟩
      cases hrepo.symm.trans hother
      exact h

end Branches

section Handlers

variable {config : ExecutionConfig} {draws : ServiceDraws} {w : LoggedState} {table : ActionTable}
  {actionId : Uuid} {action : CompensationAction} {claims : RlsTenantClaims}

/-- Both handlers leave what the service does, for a stored action of the caller's tenant, exactly
where their transactions are faithful to it. -/
theorem executions_agree_iff (config : ExecutionConfig) (claims : RlsTenantClaims)
    (draws draws' draws'' : ServiceDraws) (w : LoggedState) (actionId : Uuid)
    (action : CompensationAction) (executedBy : Option String)
    (hget : w.actions.get actionId = .ok action) (htenant : action.tenantId = claims.tenantId) :
    (ExecutedAlike (w.executeCompensationAction config draws claims actionId executedBy)
        (w.executeAction config.repositories draws'' actionId executedBy) ∧
      ExecutedAlike (w.batchExecuteCompensationAction config draws' claims actionId executedBy)
        (w.executeAction config.repositories draws'' actionId executedBy)) ↔
      TransactionsFaithful config w.actions action executedBy := by
  have hone : w.executeCompensationAction config draws claims actionId executedBy =
      w.executeInTransaction config draws actionId action executedBy := by
    rw [LoggedState.executeCompensationAction, hget]
    exact if_neg (not_not.mpr htenant)
  have hbatch : w.batchExecuteCompensationAction config draws' claims actionId executedBy =
      w.batchExecuteInTransaction config draws' actionId action executedBy := by
    rw [LoggedState.batchExecuteCompensationAction, hget]
    exact if_neg (not_not.mpr htenant)
  rw [hone, hbatch, runs_alike_iff hget (executeInTransaction_runs hget),
    runs_alike_iff hget (batchExecuteInTransaction_runs hget), and_self_iff]

end Handlers

section Sample

/-- An approved action of tenant 5. -/
def approvedAction : CompensationAction := { tenantAction with status := .approved }

/-- The state with this action. -/
def approvedState : LoggedState where
  actions := .sqlx (tableOf approvedAction)
  rollbackRecords := []
  auditEvents := []

/-- The repositories, with that of audit events or without. -/
def executionRepositories (auditRepo : Bool) : ExecutionConfig where
  sideEffectRepo := some ∅
  rollbackRecordRepo := some .sqlx
  auditRepo := auditRepo

def executionDraws (now : DateTime) : ServiceDraws where
  now := now
  rollbackRecord := ⟨100, now⟩
  started := ⟨101, now⟩
  ended := ⟨102, now⟩
  traceContext := ⟨none, none⟩

theorem executions_agree_sample :
    ExecutedAlike
        (approvedState.executeCompensationAction (executionRepositories false) (executionDraws 1)
          sampleClaims approvedAction.id (some "user:alice"))
        (approvedState.executeAction (executionRepositories false).repositories (executionDraws 3)
          approvedAction.id (some "user:alice")) ∧
      ExecutedAlike
        (approvedState.batchExecuteCompensationAction (executionRepositories false)
          (executionDraws 2) sampleClaims approvedAction.id (some "user:alice"))
        (approvedState.executeAction (executionRepositories false).repositories (executionDraws 3)
          approvedAction.id (some "user:alice")) :=
  (executions_agree_iff (executionRepositories false) sampleClaims (executionDraws 1)
    (executionDraws 2) (executionDraws 3) approvedState approvedAction.id approvedAction
    (some "user:alice") (get_tableOf approvedAction) rfl).mpr
    fun _ => ⟨∅, rfl, rfl, by decide, .inl rfl⟩

/-- Where audit events are created, an execution in a transaction creates none. -/
theorem execution_not_audited :
    ¬ ∀ (config : ExecutionConfig) (claims : RlsTenantClaims)
        (draws draws' draws'' : ServiceDraws) (w : LoggedState) (actionId : Uuid)
        (action : CompensationAction) (executedBy : Option String),
        w.actions.get actionId = .ok action → action.tenantId = claims.tenantId →
          ExecutedAlike (w.executeCompensationAction config draws claims actionId executedBy)
              (w.executeAction config.repositories draws'' actionId executedBy) ∧
            ExecutedAlike
              (w.batchExecuteCompensationAction config draws' claims actionId executedBy)
              (w.executeAction config.repositories draws'' actionId executedBy) := by
  intro h
  have halike := (h (executionRepositories true) sampleClaims (executionDraws 1)
    (executionDraws 2) (executionDraws 3) approvedState approvedAction.id approvedAction
    (some "user:alice") (get_tableOf approvedAction) rfl).1
  have hget : approvedState.actions.get approvedAction.id = .ok approvedAction :=
    get_tableOf approvedAction
  have hbranch : approvedState.executeCompensationAction (executionRepositories true)
        (executionDraws 1) sampleClaims approvedAction.id (some "user:alice") =
      approvedState.executeInTransaction (executionRepositories true) (executionDraws 1)
        approvedAction.id approvedAction (some "user:alice") := by
    rw [LoggedState.executeCompensationAction, hget]
    rfl
  rw [hbranch] at halike
  obtain ⟨-, -, haudit, -⟩ :=
    (runs_alike_iff hget (executeInTransaction_runs hget)).mp halike ⟨rfl, by decide⟩
  cases haudit

end Sample

end IntentRebase
