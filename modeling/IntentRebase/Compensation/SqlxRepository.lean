import IntentRebase.Compensation.InMemoryRepository

/-! The SQL repository of compensation actions, statement by statement. Columns hold the values that
they are given; `trigger_context` and `execution_result_payload` are read back as they were written.
-/

namespace IntentRebase

open Kit ActionRepo

def compensationFeasibilityToString : CompensationFeasibility → String
  | .automatic => "automatic"
  | .semiAutomatic => "semi_automatic"
  | .manualOnly => "manual_only"
  | .notPossible => "not_possible"

def compensationFeasibilityFromString : String → Except IntentRebaseError CompensationFeasibility
  | "automatic" => .ok .automatic
  | "semi_automatic" => .ok .semiAutomatic
  | "manual_only" => .ok .manualOnly
  | "not_possible" => .ok .notPossible
  | other => .error (.internal ("unknown compensation feasibility: " ++ other))

def strategyTypeToString : StrategyType → String
  | .rollback => "rollback"
  | .counterAction => "counter_action"
  | .followupNotice => "followup_notice"
  | .quarantine => "quarantine"
  | .escalation => "escalation"

def strategyTypeFromString : String → Except IntentRebaseError StrategyType
  | "rollback" => .ok .rollback
  | "counter_action" => .ok .counterAction
  | "followup_notice" => .ok .followupNotice
  | "quarantine" => .ok .quarantine
  | "escalation" => .ok .escalation
  | other => .error (.internal ("unknown strategy type: " ++ other))

def compensationStatusToString : CompensationStatus → String
  | .pending => "pending"
  | .approved => "approved"
  | .executed => "executed"
  | .failed => "failed"
  | .waived => "waived"

def compensationStatusFromString : String → Except IntentRebaseError CompensationStatus
  | "pending" => .ok .pending
  | "approved" => .ok .approved
  | "executed" => .ok .executed
  | "failed" => .ok .failed
  | "waived" => .ok .waived
  | other => .error (.internal ("unknown compensation status: " ++ other))

@[simp] theorem compensationFeasibilityFromString_toString (f : CompensationFeasibility) :
    compensationFeasibilityFromString (compensationFeasibilityToString f) = .ok f := by
  cases f <;> rfl

@[simp] theorem strategyTypeFromString_toString (s : StrategyType) :
    strategyTypeFromString (strategyTypeToString s) = .ok s := by
  cases s <;> rfl

@[simp] theorem compensationStatusFromString_toString (s : CompensationStatus) :
    compensationStatusFromString (compensationStatusToString s) = .ok s := by
  cases s <;> rfl

/-- A row of `compensation_actions`. -/
structure ActionRow where
  id : Uuid
  tenantId : Uuid
  sideEffectId : Uuid
  intentId : Uuid
  triggerContext : RebaseContext
  executionResultPayload : Option ExecutionResult
  feasibility : String
  strategyType : String
  rationale : String
  status : String
  attemptCount : Int
  maxRetries : Int
  lockVersion : Int
  generatedAt : DateTime
  approvedAt : Option DateTime
  approvedBy : Option String
  waivedAt : Option DateTime
  waivedBy : Option String
  executedAt : Option DateTime
  executedBy : Option String
  failedAt : Option DateTime

/-- The row that an insertion of an action writes. -/
def ActionRow.ofAction (action : CompensationAction) : ActionRow where
  id := action.id
  tenantId := action.tenantId
  sideEffectId := action.sideEffectId
  intentId := action.intentId
  triggerContext := action.triggerContext
  executionResultPayload := action.executionResultPayload
  feasibility := compensationFeasibilityToString action.feasibility
  strategyType := strategyTypeToString action.strategyType
  rationale := action.rationale
  status := compensationStatusToString action.status
  attemptCount := action.attemptCount
  maxRetries := action.maxRetries
  lockVersion := action.lockVersion
  generatedAt := action.generatedAt
  approvedAt := action.approvedAt
  approvedBy := action.approvedBy
  waivedAt := action.waivedAt
  waivedBy := action.waivedBy
  executedAt := action.executedAt
  executedBy := action.executedBy
  failedAt := action.failedAt

def rowToAction (row : ActionRow) : Except IntentRebaseError CompensationAction := do
  let feasibility ← compensationFeasibilityFromString row.feasibility
  let strategyType ← strategyTypeFromString row.strategyType
  let status ← compensationStatusFromString row.status
  return { id := row.id, tenantId := row.tenantId, sideEffectId := row.sideEffectId,
           intentId := row.intentId, triggerContext := row.triggerContext,
           executionResultPayload := row.executionResultPayload, feasibility, strategyType,
           rationale := row.rationale, status, attemptCount := row.attemptCount,
           maxRetries := row.maxRetries, lockVersion := row.lockVersion,
           generatedAt := row.generatedAt, approvedAt := row.approvedAt,
           approvedBy := row.approvedBy, waivedAt := row.waivedAt, waivedBy := row.waivedBy,
           executedAt := row.executedAt, executedBy := row.executedBy, failedAt := row.failedAt }

@[simp] theorem rowToAction_ofAction (action : CompensationAction) :
    rowToAction (.ofAction action) = .ok action := by
  simp only [rowToAction, ActionRow.ofAction, compensationFeasibilityFromString_toString,
    strategyTypeFromString_toString, compensationStatusFromString_toString]
  rfl

/-- The rows of `compensation_actions` by their primary key. -/
abbrev ActionTable := HashMap Uuid ActionRow

namespace SqlxCompensationActionRepository

variable (table : ActionTable)

def create (action : CompensationAction) : Answered ActionTable :=
  match table.lookup action.id with
  | some _ => (.error (.storageError
      "insert compensation action: duplicate key value violates unique constraint"), table)
  | none => (.ok action, table.insert action.id (.ofAction action))

def get (actionId : Uuid) : Except IntentRebaseError CompensationAction :=
  match table.lookup actionId with
  | some row => rowToAction row
  | none => .error (.compensationActionNotFound actionId)

/-- The listing of a tenant's rows, scanned in some order. -/
def listByTenant (scan : IterOrder ActionRow) (tenantId : Uuid) (limit : Option Nat) :
    Except IntentRebaseError (List CompensationAction) :=
  let limit := asI32 (limit.getD 100)
  if limit < 0 then
    .error (.storageError "list compensation actions by tenant: LIMIT must not be negative")
  else
    let rows := ((pairs table).map Prod.snd).filter fun row => row.tenantId = tenantId
    ((latestFirst ActionRow.generatedAt (scan.apply rows)).take limit.toNat).mapM rowToAction

/-- `UPDATE … SET … WHERE id = … RETURNING …`: the changed row, if the row of that key meets the
rest of the condition. -/
def updateReturning (actionId : Uuid) (condition : ActionRow → Bool) (set : ActionRow → ActionRow) :
    Option ActionRow × ActionTable :=
  match table.lookup actionId with
  | some row =>
    if condition row then (some (set row), table.insert actionId (set row)) else (none, table)
  | none => (none, table)

/-- An update whose condition is the lock version, and whose absence of a row is a conflict. -/
def updateLocked (actionId : Uuid) (lockVersion : Int) (set : ActionRow → ActionRow) :
    Answered ActionTable :=
  match updateReturning table actionId (fun row => row.lockVersion = lockVersion) set with
  | (some row, table) => (rowToAction row, table)
  | (none, table) => (.error (.concurrencyConflict actionId), table)

/-- The columns that a new status sets. -/
def setStatus (now : DateTime) (newStatus : CompensationStatus)
    (approvedBy waivedBy : Option String) (row : ActionRow) : ActionRow :=
  let (approvedAt, waivedAt, executedAt, failedAt) :
      Option DateTime × Option DateTime × Option DateTime × Option DateTime :=
    match newStatus with
    | .approved => (some now, none, none, none)
    | .waived => (none, some now, none, none)
    | .executed => (none, none, some now, none)
    | .failed => (none, none, none, some now)
    | _ => (none, none, none, none)
  { row with
    status := compensationStatusToString newStatus
    lockVersion := row.lockVersion + 1
    approvedAt := approvedAt.or row.approvedAt
    waivedAt := waivedAt.or row.waivedAt
    executedAt := executedAt.or row.executedAt
    failedAt := failedAt.or row.failedAt
    approvedBy := approvedBy.or row.approvedBy
    waivedBy := waivedBy.or row.waivedBy }

def updateStatus (now : DateTime) (actionId : Uuid) (newStatus : CompensationStatus)
    (lockVersion : Int) (approvedBy waivedBy : Option String) : Answered ActionTable :=
  updateLocked table actionId lockVersion (setStatus now newStatus approvedBy waivedBy)

/-- The columns that a result sets; `NOW()` is the database's time. -/
def setResult (now : DateTime) (result : ExecutionResult) (executedBy : Option String)
    (row : ActionRow) : ActionRow :=
  { row with
    status := compensationStatusToString (if result.success then .executed else .failed)
    attemptCount := row.attemptCount + 1
    lockVersion := row.lockVersion + 1
    executedAt := if result.success then some now else row.executedAt
    failedAt := if !result.success then some now else row.failedAt
    executionResultPayload := some result
    executedBy := executedBy.or row.executedBy }

def recordResult (now : DateTime) (actionId : Uuid) (result : ExecutionResult) (lockVersion : Int)
    (executedBy : Option String) : Answered ActionTable :=
  updateLocked table actionId lockVersion (setResult now result executedBy)

/-- Without a row to change, the row is read again to tell why. -/
def reapprove (actionId : Uuid) (lockVersion : Int) : Answered ActionTable :=
  match updateReturning table actionId
      (fun row => row.lockVersion = lockVersion && row.status == "failed")
      fun row => { row with
        status := "pending"
        lockVersion := row.lockVersion + 1
        failedAt := none } with
  | (some row, table) => (rowToAction row, table)
  | (none, table) =>
    match get table actionId with
    | .ok action =>
      if action.status ≠ .failed then
        (.error (.invalidCompensationActionTransition action.status.debug "Pending"
          "Only Failed actions can be reapproved"), table)
      else (.error (.concurrencyConflict actionId), table)
    | .error e => (.error e, table)

/-- The SQL repository as a repository, its listings scanned in the given order. -/
def repository (scan : IterOrder ActionRow) : CompensationActionRepository ActionTable where
  create := create
  get := get
  listByTenant table := listByTenant table scan
  updateStatus := updateStatus
  recordResult := recordResult
  reapprove := reapprove

end SqlxCompensationActionRepository

end IntentRebase
