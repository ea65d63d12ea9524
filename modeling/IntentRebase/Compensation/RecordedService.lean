import IntentRebase.Compensation.RollbackRecord
import IntentRebase.Compensation.Storage
import IntentRebase.Types.AuditRepository
import IntentRebase.Types.Event

/-! The service's operations on compensation actions with what they write besides: a rollback record
of a waiver or an execution, and the audit events of an execution, both on a best-effort basis. -/

namespace IntentRebase

open Kit

/-- The repositories of the service besides that of the actions: the records in a `σ`, the audit
events in a `τ`. -/
structure ServiceRepositories (σ τ : Type) where
  sideEffectRepo : Option SideEffectRepo
  rollbackRecordRepo : Option (RollbackRecordRepository σ)
  auditRepo : Option (AuditRepository τ)

/-- What the repositories of the service hold. -/
structure ServiceState (σ τ : Type) where
  actions : ActionStorage
  rollbackRecords : σ
  auditEvents : τ

/-- What an operation of the service answers, and the state that it leaves. -/
abbrev RecordedAnswer (σ τ : Type) := Except IntentRebaseError CompensationAction × ServiceState σ τ

/-- The identifiers and times that an operation draws for what it writes. -/
structure ServiceDraws where
  now : DateTime
  rollbackRecord : Draw
  started : Draw
  ended : Draw
  traceContext : TraceContext

/-- An audit event about the execution of an action. -/
def compensationAuditEvent (draw : Draw) (traceContext : TraceContext) (tenantId : Uuid)
    (eventType : AuditEventType) (actorId : String) (intentId : Uuid) (payload : Json) :
    AuditEvent where
  id := draw.id
  tenantId := tenantId
  eventType := eventType
  actorId := actorId
  intentId := some intentId
  artifactId := none
  payload := payload
  traceId := traceContext.traceId
  spanId := traceContext.spanId
  occurredAt := draw.now

/-- The payloads of these events, their fields in alphabetical order. -/
def compensationStartedAuditPayload (compensationPlanId intentId : Uuid) (actionsInitiated : Nat) :
    Json :=
  .object [("actions_initiated", .ofNat actionsInitiated),
    ("compensation_plan_id", .string compensationPlanId.display),
    ("intent_id", .string intentId.display)]

def compensationCompletedAuditPayload (compensationPlanId intentId : Uuid)
    (actionsSucceeded actionsFailed : Nat) : Json :=
  .object [("actions_failed", .ofNat actionsFailed),
    ("actions_succeeded", .ofNat actionsSucceeded),
    ("compensation_plan_id", .string compensationPlanId.display),
    ("intent_id", .string intentId.display)]

def compensationFailedAuditPayload (compensationPlanId intentId failedActionId : Uuid)
    (errorSummary : String) : Json :=
  .object [("compensation_plan_id", .string compensationPlanId.display),
    ("error_summary", .string errorSummary),
    ("failed_action_id", .string failedActionId.display),
    ("intent_id", .string intentId.display)]

/-- The rollback record of an execution. -/
def executionRecord (draw : Draw) (action : CompensationAction) (result : ExecutionResult)
    (recordedBy : Option String) : SideEffectRollbackRecord :=
  if result.success then
    .success draw action.tenantId action.id action.sideEffectId action.intentId result.summary
      recordedBy
  else
    .failureWithActor draw action.tenantId action.id action.sideEffectId action.intentId
      result.summary (result.errorCode.getD "UNKNOWN_ERROR") result.errorDetail recordedBy

/-- The audit event before the result of an execution is recorded. -/
def startedEvent (draws : ServiceDraws) (action : CompensationAction) (executedBy : Option String) :
    AuditEvent :=
  compensationAuditEvent draws.started draws.traceContext action.tenantId .compensationStarted
    (executionActor executedBy) action.intentId
    (compensationStartedAuditPayload action.id action.intentId 1)

/-- The audit event after it. -/
def endedEvent (draws : ServiceDraws) (actionId : Uuid) (action : CompensationAction)
    (result : ExecutionResult) (executedBy : Option String) : AuditEvent :=
  if result.success then
    compensationAuditEvent draws.ended draws.traceContext action.tenantId .compensationCompleted
      (executionActor executedBy) action.intentId
      (compensationCompletedAuditPayload action.id action.intentId 1 0)
  else
    compensationAuditEvent draws.ended draws.traceContext action.tenantId .compensationFailed
      (executionActor executedBy) action.intentId
      (compensationFailedAuditPayload action.id action.intentId actionId result.summary)

namespace ServiceState

variable {σ τ : Type} (repos : ServiceRepositories σ τ) (draws : ServiceDraws) (w : ServiceState σ τ)

/-- A rollback record is created where there is a repository of them; its failure is not reported.
-/
def createRollbackRecord (record : SideEffectRollbackRecord) : ServiceState σ τ :=
  match repos.rollbackRecordRepo with
  | some repo => { w with rollbackRecords := (repo.create w.rollbackRecords record).2 }
  | none => w

/-- An audit event is created likewise. -/
def createAuditEvent (event : AuditEvent) : ServiceState σ τ :=
  match repos.auditRepo with
  | some repo => { w with auditEvents := (repo.createAuditEvent w.auditEvents event).2 }
  | none => w

def approveAction (actionId : Uuid) (lockVersion : Int) (approvedBy : Option String) :
    RecordedAnswer σ τ :=
  match w.actions.approveAction draws.now actionId lockVersion approvedBy with
  | (answer, actions) => (answer, { w with actions })

def waiveAction (actionId : Uuid) (lockVersion : Int) (waivedBy : Option String) :
    RecordedAnswer σ τ :=
  match w.actions.get actionId with
  | .error e => (.error e, w)
  | .ok action =>
    match action.checkTransition .waived with
    | .error e => (.error e, w)
    | .ok _ =>
      match w.actions.updateStatus draws.now actionId .waived lockVersion none waivedBy with
      | (.error e, actions) => (.error e, { w with actions })
      | (.ok updated, actions) =>
        (.ok updated, ({ w with actions } : ServiceState σ τ).createRollbackRecord repos
          (.waived draws.rollbackRecord action.tenantId action.id action.sideEffectId
            action.intentId "Compensation action waived" waivedBy))

def executeAction (actionId : Uuid) (executedBy : Option String) : RecordedAnswer σ τ :=
  match w.actions.get actionId with
  | .error e => (.error e, w)
  | .ok action =>
    match action.checkExecutable actionId with
    | .error e => (.error e, w)
    | .ok _ =>
      match runExecutor repos.sideEffectRepo draws.now action with
      | .error e => (.error e, w)
      | .ok result =>
        let started := w.createAuditEvent repos (startedEvent draws action executedBy)
        match started.actions.recordResult draws.now actionId result action.lockVersion
            executedBy with
        | (.error e, actions) => (.error e, { started with actions })
        | (.ok updated, actions) =>
          let recorded := ({ started with actions } : ServiceState σ τ).createAuditEvent repos
            (endedEvent draws actionId action result executedBy)
          (.ok updated, recorded.createRollbackRecord repos
            (executionRecord draws.rollbackRecord action result executedBy))

def reapproveAction (actionId : Uuid) (lockVersion : Int) : RecordedAnswer σ τ :=
  match w.actions.reapproveAction actionId lockVersion with
  | (answer, actions) => (answer, { w with actions })

variable {repos draws w}

@[simp] theorem createAuditEvent_actions (event : AuditEvent) :
    (w.createAuditEvent repos event).actions = w.actions := by
  rw [createAuditEvent]
  split <;> rfl

@[simp] theorem createAuditEvent_rollbackRecords (event : AuditEvent) :
    (w.createAuditEvent repos event).rollbackRecords = w.rollbackRecords := by
  rw [createAuditEvent]
  split <;> rfl

@[simp] theorem createRollbackRecord_actions (record : SideEffectRollbackRecord) :
    (w.createRollbackRecord repos record).actions = w.actions := by
  rw [createRollbackRecord]
  split <;> rfl

end ServiceState

end IntentRebase
