import Mathlib.Algebra.Group.Int.Defs
import IntentRebase.Compensation.Orchestration
import IntentRebase.Compensation.RollbackRecord
import IntentRebase.Compensation.SideEffectRepository
import IntentRebase.Compensation.SqlxRepository
import IntentRebase.Kit.TwoRuns
import IntentRebase.Types.Column

/-! The tables of side effects, of rollback records and of orchestration runs, and the statements on
these and the queries of the actions that the read endpoints make. -/

namespace IntentRebase

open Kit

section SideEffects

/-- A row of `side_effects`. -/
structure SideEffectRow where
  id : Uuid
  tenantId : Uuid
  intentId : Uuid
  intentVersion : Int
  effectClass : String
  effectType : String
  target : String
  occurredAt : DateTime
  idempotencyKey : Option String
deriving DecidableEq

def effectClassFromString (s : String) : Except IntentRebaseError SideEffectClass :=
  match s with
  | "s0_pure_read" => .ok .s0PureRead
  | "s1_internal_reversible" => .ok .s1InternalReversible
  | "s2_external_reversible" => .ok .s2ExternalReversible
  | "s3_external_partially_reversible" => .ok .s3ExternalPartiallyReversible
  | "s4_irreversible" => .ok .s4Irreversible
  | other => .error (.unknownEffectClass other)

def rowToSideEffect (row : SideEffectRow) : Except IntentRebaseError SideEffect := do
  let effectClass ← effectClassFromString row.effectClass
  return { id := row.id, tenantId := row.tenantId, intentId := row.intentId,
           intentVersion := row.intentVersion, effectClass, effectType := row.effectType,
           target := row.target, occurredAt := row.occurredAt,
           idempotencyKey := row.idempotencyKey }

/-- The rows of `side_effects` by their primary key. -/
abbrev SideEffectRows := HashMap Uuid SideEffectRow

def SqlxSideEffectRepository.listByIntent (table : SideEffectRows)
    (scan : IterOrder SideEffectRow) (intentId tenantId : Uuid) :
    Except IntentRebaseError (List SideEffect) :=
  (scanLatest scan SideEffectRow.occurredAt
    (fun row => row.intentId = intentId && row.tenantId = tenantId) table).mapM rowToSideEffect

end SideEffects

namespace SqlxCompensationActionRepository

variable (table : ActionTable) (scan : IterOrder ActionRow)

def listByIntent (intentId tenantId : Uuid) : Except IntentRebaseError (List CompensationAction) :=
  (scanLatest scan ActionRow.generatedAt
    (fun row => row.intentId = intentId && row.tenantId = tenantId) table).mapM rowToAction

def listByStatus (tenantId : Uuid) (status : CompensationStatus) :
    Except IntentRebaseError (List CompensationAction) :=
  (scanLatest scan ActionRow.generatedAt (fun row => row.tenantId = tenantId &&
    row.status = compensationStatusToString status) table).mapM rowToAction

end SqlxCompensationActionRepository

section RollbackRecords

def RollbackRecordResult.asStr : RollbackRecordResult → String
  | .success => "success"
  | .failure => "failure"
  | .waived => "waived"

def RollbackRecordResult.fromDbStr (s : String) : Option RollbackRecordResult :=
  match s with
  | "success" => some .success
  | "failure" => some .failure
  | "waived" => some .waived
  | _ => none

theorem RollbackRecordResult.fromDbStr_asStr (result : RollbackRecordResult) :
    fromDbStr result.asStr = some result := by
  cases result <;> rfl

/-- A row of `side_effect_rollback_records`. -/
structure RollbackRow where
  id : Uuid
  tenantId : Uuid
  compensationActionId : Uuid
  sideEffectId : Uuid
  intentId : Uuid
  result : String
  summary : String
  errorCode : Option String
  errorDetail : Option String
  recordedBy : Option String
  recordedAt : DateTime
  lockVersion : Int
deriving DecidableEq

def rowToRecord (row : RollbackRow) : Except IntentRebaseError SideEffectRollbackRecord :=
  match RollbackRecordResult.fromDbStr row.result with
  | none => .error (.internal s!"unknown rollback record result: {row.result}")
  | some result =>
    .ok { id := row.id, tenantId := row.tenantId,
          compensationActionId := row.compensationActionId, sideEffectId := row.sideEffectId,
          intentId := row.intentId, result, summary := row.summary, errorCode := row.errorCode,
          errorDetail := row.errorDetail, recordedBy := row.recordedBy,
          recordedAt := row.recordedAt, lockVersion := row.lockVersion }

/-- The row that holds the values bound for a record. -/
def RollbackRow.bind (record : SideEffectRollbackRecord) : Except String RollbackRow := do
  let summary ← textColumn record.summary
  let errorCode ← nullableVarchar 100 record.errorCode
  let errorDetail ← nullableText record.errorDetail
  let recordedBy ← nullableVarchar 255 record.recordedBy
  return {
    id := record.id
    tenantId := record.tenantId
    compensationActionId := record.compensationActionId
    sideEffectId := record.sideEffectId
    intentId := record.intentId
    result := record.result.asStr
    summary, errorCode, errorDetail, recordedBy
    recordedAt := timestamptz record.recordedAt
    lockVersion := record.lockVersion }

/-- The rows of `side_effect_rollback_records` by their primary key. -/
abbrev RollbackTable := HashMap Uuid RollbackRow

namespace SqlxRollbackRecordRepository

variable (scan : IterOrder RollbackRow) (table : RollbackTable)

def create (record : SideEffectRollbackRecord) :
    Except IntentRebaseError SideEffectRollbackRecord × RollbackTable :=
  match RollbackRow.bind record with
  | .error e => (.error (.storageError s!"insert rollback record: {e}"), table)
  | .ok row =>
    match table.lookup row.id with
    | some _ => (.error (.storageError
        "insert rollback record: duplicate key value violates unique constraint"), table)
    | none => (.ok record, table.insert row.id row)

def get (recordId : Uuid) : Except IntentRebaseError SideEffectRollbackRecord :=
  match table.lookup recordId with
  | some row => rowToRecord row
  | none => .error (.rollbackRecordNotFound recordId)

def listByTenant (tenantId : Uuid) (limit : Option Nat) :
    Except IntentRebaseError (List SideEffectRollbackRecord) :=
  let limit := asI32 (limit.getD 100)
  if limit < 0 then
    .error (.storageError "list rollback records by tenant: LIMIT must not be negative")
  else
    ((scanLatest scan RollbackRow.recordedAt (fun row => row.tenantId = tenantId)
      table).take limit.toNat).mapM rowToRecord

/-- `SELECT … WHERE … ORDER BY recorded_at DESC` -/
def listWhere (test : RollbackRow → Bool) :
    Except IntentRebaseError (List SideEffectRollbackRecord) :=
  (scanLatest scan RollbackRow.recordedAt test table).mapM rowToRecord

def listByCompensationAction (compensationActionId tenantId : Uuid) :
    Except IntentRebaseError (List SideEffectRollbackRecord) :=
  listWhere scan table fun row =>
    row.compensationActionId = compensationActionId && row.tenantId = tenantId

def listBySideEffect (sideEffectId tenantId : Uuid) :
    Except IntentRebaseError (List SideEffectRollbackRecord) :=
  listWhere scan table fun row => row.sideEffectId = sideEffectId && row.tenantId = tenantId

def listByIntent (intentId tenantId : Uuid) :
    Except IntentRebaseError (List SideEffectRollbackRecord) :=
  listWhere scan table fun row => row.intentId = intentId && row.tenantId = tenantId

def listByResult (tenantId : Uuid) (result : RollbackRecordResult) :
    Except IntentRebaseError (List SideEffectRollbackRecord) :=
  listWhere scan table fun row => row.tenantId = tenantId && row.result = result.asStr

def repository : RollbackRecordRepository RollbackTable where
  create := create
  get := get
  listByTenant := listByTenant scan
  listByCompensationAction := listByCompensationAction scan
  listBySideEffect := listBySideEffect scan
  listByIntent := listByIntent scan
  listByResult := listByResult scan

end SqlxRollbackRecordRepository

end RollbackRecords

section Runs

/-- A row of `orchestration_runs`. The columns of JSON hold what they are given. -/
structure RunRow where
  id : Uuid
  tenantId : Uuid
  intentId : Option Uuid
  actionIds : List Uuid
  status : String
  initiatedBy : Option String
  createdAt : DateTime
  startedAt : Option DateTime
  completedAt : Option DateTime
  succeededCount : Int
  failedCount : Int
  skippedCount : Int
  notFoundCount : Int
  totalCount : Int
  itemResults : List RunItemResult

def runStatusToString : RunStatus → String
  | .pending => "pending"
  | .running => "running"
  | .completed => "completed"
  | .completedWithErrors => "completed_with_errors"
  | .failed => "failed"

def runStatusFromString (s : String) : Except IntentRebaseError RunStatus :=
  match s with
  | "pending" => .ok .pending
  | "running" => .ok .running
  | "completed" => .ok .completed
  | "completed_with_errors" => .ok .completedWithErrors
  | "failed" => .ok .failed
  | other => .error (.internal s!"unknown run status: {other}")

theorem runStatusFromString_toString (status : RunStatus) :
    runStatusFromString (runStatusToString status) = .ok status := by
  cases status <;> rfl

/-- The `usize` that an `i32` is cast to. -/
def asUsize (n : Int) : Nat := (n % 2 ^ 64).toNat

def rowToRun (row : RunRow) : Except IntentRebaseError OrchestrationRun := do
  let status ← runStatusFromString row.status
  return { id := row.id, tenantId := row.tenantId, intentId := row.intentId,
           actionIds := row.actionIds, status, initiatedBy := row.initiatedBy,
           createdAt := row.createdAt, startedAt := row.startedAt,
           completedAt := row.completedAt, succeededCount := asUsize row.succeededCount,
           failedCount := asUsize row.failedCount, skippedCount := asUsize row.skippedCount,
           notFoundCount := asUsize row.notFoundCount, totalCount := asUsize row.totalCount,
           itemResults := row.itemResults }

theorem rowToRun_ok {row : RunRow} {run : OrchestrationRun} (h : rowToRun row = .ok run) :
    run.tenantId = row.tenantId := by
  unfold rowToRun at h
  cases hstatus : runStatusFromString row.status with
  | error e => rw [hstatus] at h; cases h
  | ok status => rw [hstatus] at h; cases h; rfl

/-- The table of runs: every row reads back as a run. -/
structure SqlxRunRepository where
  rows : HashMap Uuid RunRow
  readable : ∀ id row, rows.lookup id = some row → ∃ run, rowToRun row = .ok run

theorem SqlxRunRepository.readable_empty (id : Uuid) (row : RunRow)
    (h : (∅ : HashMap Uuid RunRow).lookup id = some row) : ∃ run, rowToRun row = .ok run := by
  cases h

def SqlxRunRepository.get (s : SqlxRunRepository) (runId : Uuid) :
    Except IntentRebaseError OrchestrationRun :=
  match s.rows.lookup runId with
  | some row => rowToRun row
  | none => .error (.orchestrationRunNotFound runId)

/-- The values bound for the results of the items, in a column `JSONB`. -/
def itemResultsColumn (items : List RunItemResult) : Except String (List RunItemResult) :=
  if items.any fun item => containsNul item.reason || containsNul item.resultingStatus then
    .error "unsupported Unicode escape sequence"
  else .ok items

/-- The row that holds the values bound for a run. -/
def RunRow.bind (run : OrchestrationRun) : Except String RunRow := do
  let initiatedBy ← nullableVarchar 255 run.initiatedBy
  let itemResults ← itemResultsColumn run.itemResults
  return {
    id := run.id
    tenantId := run.tenantId
    intentId := run.intentId
    actionIds := run.actionIds
    status := runStatusToString run.status
    initiatedBy
    createdAt := timestamptz run.createdAt
    startedAt := run.startedAt.map timestamptz
    completedAt := run.completedAt.map timestamptz
    succeededCount := asI32 run.succeededCount
    failedCount := asI32 run.failedCount
    skippedCount := asI32 run.skippedCount
    notFoundCount := asI32 run.notFoundCount
    totalCount := asI32 run.totalCount
    itemResults }

/-- `UPDATE orchestration_runs SET …` -/
def RunRow.set (row : RunRow) (run : OrchestrationRun) (itemResults : List RunItemResult) :
    RunRow :=
  { row with
    status := runStatusToString run.status
    startedAt := run.startedAt.map timestamptz
    completedAt := run.completedAt.map timestamptz
    succeededCount := asI32 run.succeededCount
    failedCount := asI32 run.failedCount
    skippedCount := asI32 run.skippedCount
    notFoundCount := asI32 run.notFoundCount
    totalCount := asI32 run.totalCount
    itemResults }

/-- A row with the text of a status reads back. -/
theorem rowToRun_status {row : RunRow} {status : RunStatus}
    (h : row.status = runStatusToString status) : ∃ run, rowToRun row = .ok run := by
  rw [rowToRun, h, runStatusFromString_toString]
  exact ⟨_, rfl⟩

theorem RunRow.bind_status {run : OrchestrationRun} {row : RunRow} (h : bind run = .ok row) :
    row.status = runStatusToString run.status := by
  rw [bind] at h
  cases hby : nullableVarchar 255 run.initiatedBy with
  | error e => rw [hby] at h; cases h
  | ok initiatedBy =>
  cases hitems : itemResultsColumn run.itemResults with
  | error e => rw [hby, hitems] at h; cases h
  | ok itemResults =>
    rw [hby, hitems] at h
    cases h
    rfl

namespace SqlxRunRepository

variable (scan : IterOrder RunRow) (s : SqlxRunRepository)

/-- The table with a row that reads back. -/
def insertRow (id : Uuid) (row : RunRow) (h : ∃ run, rowToRun row = .ok run) :
    SqlxRunRepository where
  rows := s.rows.insert id row
  readable id' row' hlookup := by
    rw [lookup_insert_eq] at hlookup
    split at hlookup
    · obtain rfl := Option.some.inj hlookup
      exact h
    · exact s.readable id' row' hlookup

def create (run : OrchestrationRun) :
    Except IntentRebaseError OrchestrationRun × SqlxRunRepository :=
  match h : RunRow.bind run with
  | .error e => (.error (.storageError s!"insert orchestration run: {e}"), s)
  | .ok row =>
    match s.rows.lookup row.id with
    | some _ => (.error (.storageError
        "insert orchestration run: duplicate key value violates unique constraint"), s)
    | none => (.ok run, s.insertRow row.id row (rowToRun_status (RunRow.bind_status h)))

def update (run : OrchestrationRun) :
    Except IntentRebaseError OrchestrationRun × SqlxRunRepository :=
  match itemResultsColumn run.itemResults with
  | .error e => (.error (.storageError s!"update orchestration run: {e}"), s)
  | .ok itemResults =>
    match s.rows.lookup run.id with
    | none => (.error (.orchestrationRunNotFound run.id), s)
    | some row =>
      (rowToRun (row.set run itemResults),
        s.insertRow run.id (row.set run itemResults) (rowToRun_status rfl))

def listByTenant (tenantId : Uuid) (limit : Option Nat) :
    Except IntentRebaseError (List OrchestrationRun) :=
  let limit := asI32 (limit.getD 100)
  if limit < 0 then
    .error (.storageError "list orchestration runs by tenant: LIMIT must not be negative")
  else
    ((scanLatest scan RunRow.createdAt (fun row => row.tenantId = tenantId)
      s.rows).take limit.toNat).mapM rowToRun

def repository : OrchestrationRunRepository SqlxRunRepository where
  create := create
  get := get
  update := update
  listByTenant := listByTenant scan

end SqlxRunRepository

end Runs

end IntentRebase
