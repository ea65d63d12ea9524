import IntentRebase.Webhook.Outbox

/-! The SQL repository of the webhook outbox, statement by statement. Columns hold the values that
they are given; an `INT` column refuses a value that does not fit, and a text column is sorted by
the collation of the database. -/

namespace IntentRebase

open Kit

def statusToStr : WebhookOutboxStatus → String
  | .pending => "pending"
  | .claimed => "claimed"
  | .delivered => "delivered"
  | .failed => "failed"

def statusFromStr : String → Except IntentRebaseError WebhookOutboxStatus
  | "pending" => .ok .pending
  | "claimed" => .ok .claimed
  | "delivered" => .ok .delivered
  | "failed" => .ok .failed
  | other => .error (.storageError ("unknown webhook_outbox status: " ++ other))

@[simp] theorem statusFromStr_toStr (status : WebhookOutboxStatus) :
    statusFromStr (statusToStr status) = .ok status := by
  cases status <;> rfl

theorem statusToStr_injective : Function.Injective statusToStr := by
  intro a b h
  have hparsed := congrArg statusFromStr h
  rw [statusFromStr_toStr, statusFromStr_toStr] at hparsed
  exact Except.ok.inj hparsed

/-- A row of `webhook_outbox`. -/
structure OutboxRow extends OutboxFields where
  status : String

/-- The row that an insertion of a record writes. -/
def OutboxRow.ofRecord (r : WebhookOutboxRecord) : OutboxRow :=
  { r.toOutboxFields with status := statusToStr r.status }

def mapRow (row : OutboxRow) : Except IntentRebaseError WebhookOutboxRecord := do
  let status ← statusFromStr row.status
  return { row.toOutboxFields with status }

@[simp] theorem mapRow_ofRecord (r : WebhookOutboxRecord) : mapRow (.ofRecord r) = .ok r := by
  simp only [mapRow, OutboxRow.ofRecord, statusFromStr_toStr]
  rfl

/-- The rows of `webhook_outbox` by their primary key. -/
abbrev OutboxTable := HashMap Uuid OutboxRow

/-- `column + 1` for an `INT` column: an error at the largest value. -/
def int4Succ (n : Int32) : Option Int32 := if n = Int32.maxValue then none else some (n + 1)

/-- The order in which a database sorts texts. -/
structure Collation where
  le : String → String → Bool
  trans : ∀ a b c, le a b = true → le b c = true → le a c = true
  total : ∀ a b, (le a b || le b a) = true

/-- The collation of the bytes. -/
def Collation.bytes : Collation where
  le := fun a b => a ≤ b
  trans := fun a b c hab hbc => decide_eq_true
    (le_trans (of_decide_eq_true hab) (of_decide_eq_true hbc))
  total := fun a b => by simpa using le_total a b

namespace SqlxWebhookOutboxRepository

variable (collation : Collation) (scan : IterOrder OutboxRow) (table : OutboxTable)

/-- The rows of the table, scanned in some order. -/
def rows : List OutboxRow := scan.apply ((pairs table).map Prod.snd)

/-- `SELECT * … WHERE … ORDER BY … LIMIT …`. -/
def listing {β : Type} [LinearOrder β] (what : String) (condition : OutboxRow → Bool)
    (key : OutboxFields → β) (limit : Int64) : OutboxListing :=
  if limit.toInt < 0 then
    .error (.storageError (what ++ ": LIMIT must not be negative"))
  else
    ((orderBy (fun row => key row.toOutboxFields) ((rows scan table).filter condition)).take
      limit.toInt.toNat).mapM mapRow

def create (record : WebhookOutboxRecord) : OutboxAnswer OutboxTable :=
  match table.lookup record.id with
  | some _ => (.error (.storageError
      "insert outbox record: duplicate key value violates unique constraint"), table)
  | none => (.ok record, table.insert record.id (.ofRecord record))

/-- `WHERE id = … AND tenant_id = … AND …`. -/
def find (id tenantId : Uuid) (condition : OutboxRow → Bool) : Option OutboxRow :=
  (table.lookup id).filter fun row => row.tenantId = tenantId && condition row

def get (id tenantId : Uuid) : Except IntentRebaseError WebhookOutboxRecord :=
  match find table id tenantId fun _ => true with
  | some row => mapRow row
  | none => .error (.storageError
      s!"Outbox record {id.display} not found for tenant {tenantId.display}")

/-- `UPDATE … SET … WHERE … RETURNING *`: the row that meets the condition is changed, unless a
value does not fit its column. -/
def updateReturning (what missing : String) (id tenantId : Uuid) (condition : OutboxRow → Bool)
    (set : OutboxRow → Option OutboxRow) : OutboxAnswer OutboxTable :=
  match find table id tenantId condition with
  | none => (.error (.storageError missing), table)
  | some row =>
    match set row with
    | none => (.error (.storageError (what ++ ": integer out of range")), table)
    | some row => (mapRow row, table.insert id row)

def notFound (id tenantId : Uuid) : String :=
  s!"Outbox record {id.display} not found for tenant {tenantId.display}"

def listPending (tenantId : Uuid) (limit : Int64) : OutboxListing :=
  listing scan table "list pending outbox records"
    (fun row => row.tenantId = tenantId && row.status = "pending") OutboxFields.pendingKey limit

def claim (now : DateTime) (id tenantId : Uuid) (lockedBy : String) : OutboxAnswer OutboxTable :=
  updateReturning table "claim outbox record"
    s!"Outbox record {id.display} is not pending or not found for tenant {tenantId.display}"
    id tenantId (fun row => row.status = "pending") fun row => do
      let lockVersion ← int4Succ row.lockVersion
      return { row with
        status := "claimed", lockedAt := some now, lockedBy := some lockedBy, lockVersion
        updatedAt := now }

def markDelivered (now : DateTime) (id tenantId : Uuid) : OutboxAnswer OutboxTable :=
  updateReturning table "mark delivered" (notFound id tenantId) id tenantId (fun _ => true)
    fun row => do
      let lockVersion ← int4Succ row.lockVersion
      return { row with
        status := "delivered", deliveredAt := some now, lockVersion, updatedAt := now }

def markFailed (now : DateTime) (id tenantId : Uuid) (lastError : String) :
    OutboxAnswer OutboxTable :=
  updateReturning table "mark failed" (notFound id tenantId) id tenantId (fun _ => true)
    fun row => do
      let lockVersion ← int4Succ row.lockVersion
      return { row with
        status := "failed", lastError := some lastError, lockVersion, updatedAt := now }

def rescheduleRetry (now : DateTime) (id tenantId : Uuid) (lastError : String)
    (scheduledAt : DateTime) : OutboxAnswer OutboxTable :=
  updateReturning table "reschedule retry" (notFound id tenantId) id tenantId (fun _ => true)
    fun row => do
      let attemptCount ← int4Succ row.attemptCount
      let lockVersion ← int4Succ row.lockVersion
      return { row with
        status := "pending", attemptCount, scheduledAt, lastError := some lastError
        lockedAt := none, lockedBy := none, lockVersion, updatedAt := now }

def listFailed (tenantId : Uuid) (limit : Int64) : OutboxListing :=
  listing scan table "list failed outbox records"
    (fun row => row.tenantId = tenantId && row.status = "failed") OutboxFields.failedKey limit

def replayFailed (now : DateTime) (id tenantId : Uuid) (replayedBy : Option String) :
    OutboxAnswer OutboxTable :=
  updateReturning table "replay failed outbox record"
    s!"Outbox record {id.display} is not failed or not found for tenant {tenantId.display}"
    id tenantId (fun row => row.status = "failed") fun row => do
      let replayCount ← int4Succ row.replayCount
      let lockVersion ← int4Succ row.lockVersion
      return { row with
        status := "pending", attemptCount := 0, scheduledAt := now, lastError := none
        lockedAt := none, lockedBy := none, replayCount, replayedAt := some now, replayedBy
        lockVersion, updatedAt := now }

def listFailedOlderThan (tenantId : Uuid) (before : DateTime) (limit : Int64) : OutboxListing :=
  listing scan table "list failed outbox records older than"
    (fun row => row.tenantId = tenantId && row.status = "failed" && row.updatedAt < before)
    OutboxFields.failedKey limit

/-- `SELECT DISTINCT tenant_id …`, in the order in which the database finds them. -/
def listDistinctPendingTenants (found : IterOrder Uuid) : Except IntentRebaseError (List Uuid) :=
  .ok (found.apply
    (((rows scan table).filter fun row => row.status = "pending").map fun row =>
      row.tenantId).dedup)

/-- With a cut-off or without, one statement each. -/
def listReplayed (tenantId : Uuid) (since : Option DateTime) (limit : Int64) : OutboxListing :=
  listing scan table "list replayed outbox records"
    (fun row => row.tenantId = tenantId && row.isReplayed since) OutboxFields.replayedKey limit

/-- `ORDER BY count DESC, error_pattern ASC`. -/
def summaryLe (a b : WebhookOutboxDlqErrorSummary) : Bool :=
  decide (b.count < a.count) ||
    (decide (a.count = b.count) && collation.le a.errorPattern b.errorPattern)

/-- The aggregates of a tenant; the errors are grouped by the column and shown by its text, or as
unknown. -/
def dlqStats (groups : IterOrder (Option String × Nat)) (now : DateTime) (tenantId : Uuid) :
    Except IntentRebaseError WebhookOutboxDlqStats :=
  let failed := (rows scan table).filter fun row =>
    row.tenantId = tenantId && row.status = "failed"
  let errorRows := (groups.apply (pairs (countBy (fun row : OutboxRow => row.lastError) failed))).map
    fun p : Option String × Nat => (⟨p.1.getD "unknown", p.2⟩ : WebhookOutboxDlqErrorSummary)
  .ok
    { totalFailed := failed.length
      oldestFailedAgeSeconds := (failed.map fun row => row.updatedAt).min?.map (ageSeconds now)
      replayedCount := (rows scan table).countP fun row =>
        row.tenantId = tenantId && 0 < row.replayCount
      byErrorSummary := errorRows.mergeSort (summaryLe collation) }

/-- The orders in which the database reads its rows, tenants and groups. -/
structure Scans where
  rows : IterOrder OutboxRow
  tenants : IterOrder Uuid
  groups : IterOrder (Option String × Nat)

def repository (scans : Scans) : WebhookOutboxRepository OutboxTable where
  create := create
  get := get
  listPending := listPending scans.rows
  claim := claim
  markDelivered := markDelivered
  markFailed := markFailed
  rescheduleRetry := rescheduleRetry
  listFailed := listFailed scans.rows
  replayFailed := replayFailed
  listFailedOlderThan := listFailedOlderThan scans.rows
  listDistinctPendingTenants := fun table =>
    listDistinctPendingTenants scans.rows table scans.tenants
  listReplayed := listReplayed scans.rows
  dlqStats := fun table => dlqStats collation scans.rows table scans.groups

end SqlxWebhookOutboxRepository

end IntentRebase
