import Mathlib.Algebra.Group.Int.Defs
import Mathlib.Data.Prod.Lex
import IntentRebase.Kit.OrderBy
import IntentRebase.Types.Common

/-! The outbox of webhook deliveries: its records, what each operation makes of one, and the
in-memory repository. The time that an operation reads is an argument. -/

namespace IntentRebase

open Kit

inductive WebhookOutboxStatus where
  | pending | claimed | delivered | failed
deriving DecidableEq, Repr

/-- The debug text of a status. -/
def WebhookOutboxStatus.debug : WebhookOutboxStatus → String
  | .pending => "Pending"
  | .claimed => "Claimed"
  | .delivered => "Delivered"
  | .failed => "Failed"

/-- What a record holds besides its status. -/
structure OutboxFields where
  id : Uuid
  tenantId : Uuid
  intentId : Uuid
  subscriptionId : Uuid
  eventType : String
  payload : Json
  webhookUrl : Option String
  attemptCount : Int32
  maxAttempts : Int32
  scheduledAt : DateTime
  lockedAt : Option DateTime
  lockedBy : Option String
  deliveredAt : Option DateTime
  lastError : Option String
  replayCount : Int32
  replayedAt : Option DateTime
  replayedBy : Option String
  version : Int32
  versionHash : Option String
  previousVersion : Option Int32
  lockVersion : Int32
  createdAt : DateTime
  updatedAt : DateTime

structure WebhookOutboxRecord extends OutboxFields where
  status : WebhookOutboxStatus

structure WebhookOutboxDlqErrorSummary where
  errorPattern : String
  count : Nat
deriving DecidableEq, Repr

structure WebhookOutboxDlqStats where
  totalFailed : Nat
  oldestFailedAgeSeconds : Option Int
  replayedCount : Nat
  byErrorSummary : List WebhookOutboxDlqErrorSummary
deriving DecidableEq, Repr

namespace WebhookOutboxRecord

/-- A new pending record. -/
def new (now : DateTime) (id tenantId intentId subscriptionId : Uuid) (eventType : String)
    (payload : Json) (webhookUrl : Option String) : WebhookOutboxRecord where
  id := id
  tenantId := tenantId
  intentId := intentId
  subscriptionId := subscriptionId
  eventType := eventType
  payload := payload
  webhookUrl := webhookUrl
  status := .pending
  attemptCount := 0
  maxAttempts := 3
  scheduledAt := now
  lockedAt := none
  lockedBy := none
  deliveredAt := none
  lastError := none
  replayCount := 0
  replayedAt := none
  replayedBy := none
  version := 0
  versionHash := none
  previousVersion := none
  lockVersion := 0
  createdAt := now
  updatedAt := now

def withVersion (version : Int32) (r : WebhookOutboxRecord) : WebhookOutboxRecord :=
  { r with version }

variable (now : DateTime) (r : WebhookOutboxRecord)

/-- A claim takes the record for a worker. -/
def claim (lockedBy : String) : WebhookOutboxRecord :=
  { r with
    status := .claimed
    lockedAt := some now
    lockedBy := some lockedBy
    lockVersion := r.lockVersion + 1
    updatedAt := now }

def markDelivered : WebhookOutboxRecord :=
  { r with
    status := .delivered
    deliveredAt := some now
    lockVersion := r.lockVersion + 1
    updatedAt := now }

def markFailed (lastError : String) : WebhookOutboxRecord :=
  { r with
    status := .failed
    lastError := some lastError
    lockVersion := r.lockVersion + 1
    updatedAt := now }

def rescheduleRetry (lastError : String) (scheduledAt : DateTime) : WebhookOutboxRecord :=
  { r with
    status := .pending
    attemptCount := r.attemptCount + 1
    scheduledAt := scheduledAt
    lastError := some lastError
    lockedAt := none
    lockedBy := none
    lockVersion := r.lockVersion + 1
    updatedAt := now }

def replayFailed (replayedBy : Option String) : WebhookOutboxRecord :=
  { r with
    status := .pending
    attemptCount := 0
    scheduledAt := now
    lastError := none
    lockedAt := none
    lockedBy := none
    replayCount := r.replayCount + 1
    replayedAt := some now
    replayedBy := replayedBy
    lockVersion := r.lockVersion + 1
    updatedAt := now }

end WebhookOutboxRecord

namespace OutboxFields

variable (r : OutboxFields)

/-- The key of the pending listing: the scheduled time, then the identifier. -/
def pendingKey : DateTime ×ₗ Uuid := toLex (r.scheduledAt, r.id)

/-- The key of the failed listings: the time of the last update, latest first, then the identifier. -/
def failedKey : DateTimeᵒᵈ ×ₗ Uuid := toLex (OrderDual.toDual r.updatedAt, r.id)

/-- The key of the replayed listing; every record listed has a time. -/
def replayedKey : DateTimeᵒᵈ ×ₗ Uuid := toLex (OrderDual.toDual (r.replayedAt.getD 0), r.id)

/-- The record was replayed, and not before the cut-off if there is one. -/
def isReplayed (since : Option DateTime) : Bool :=
  0 < r.replayCount && match r.replayedAt with
    | none => false
    | some at' => match since with
      | none => true
      | some s => s ≤ at'

end OutboxFields

/-- The number of whole seconds from one time to another, none if it is later. -/
def ageSeconds (now oldest : DateTime) : Int := max ((now - oldest).tdiv 1000000000) 0

abbrev OutboxAnswer (σ : Type) := Except IntentRebaseError WebhookOutboxRecord × σ

abbrev OutboxListing := Except IntentRebaseError (List WebhookOutboxRecord)

/-- The interface of an outbox repository. -/
structure WebhookOutboxRepository (σ : Type) where
  create : σ → WebhookOutboxRecord → OutboxAnswer σ
  get : σ → Uuid → Uuid → Except IntentRebaseError WebhookOutboxRecord
  listPending : σ → Uuid → Int64 → OutboxListing
  claim : σ → DateTime → Uuid → Uuid → String → OutboxAnswer σ
  markDelivered : σ → DateTime → Uuid → Uuid → OutboxAnswer σ
  markFailed : σ → DateTime → Uuid → Uuid → String → OutboxAnswer σ
  rescheduleRetry : σ → DateTime → Uuid → Uuid → String → DateTime → OutboxAnswer σ
  listFailed : σ → Uuid → Int64 → OutboxListing
  replayFailed : σ → DateTime → Uuid → Uuid → Option String → OutboxAnswer σ
  listFailedOlderThan : σ → Uuid → DateTime → Int64 → OutboxListing
  listDistinctPendingTenants : σ → Except IntentRebaseError (List Uuid)
  listReplayed : σ → Uuid → Option DateTime → Int64 → OutboxListing
  dlqStats : σ → DateTime → Uuid → Except IntentRebaseError WebhookOutboxDlqStats

/-- The records by identifier. -/
abbrev OutboxRecords := HashMap Uuid WebhookOutboxRecord

namespace InMemoryWebhookOutboxRepository

variable (order : IterOrder WebhookOutboxRecord) (records : OutboxRecords)

/-- The cast `as usize` of a limit. -/
def limitAsUsize (limit : Int64) : Nat := (limit.toInt % 2 ^ 64).toNat

/-- The values of the map, read in some order. -/
def values : List WebhookOutboxRecord := order.apply ((pairs records).map Prod.snd)

/-- The values that pass a filter, sorted by a key and cut to the limit. -/
def listing {β : Type} [LinearOrder β] (selected : WebhookOutboxRecord → Bool)
    (key : OutboxFields → β) (limit : Int64) : OutboxListing :=
  .ok ((orderBy (fun r => key r.toOutboxFields) ((values order records).filter selected)).take
    (limitAsUsize limit))

def create (record : WebhookOutboxRecord) : OutboxAnswer OutboxRecords :=
  match records.lookup record.id with
  | some _ => (.error (.storageError s!"Outbox record {record.id.display} already exists"), records)
  | none => (.ok record, records.insert record.id record)

/-- The record of an identifier, if the tenant has it. -/
def get (id tenantId : Uuid) : Except IntentRebaseError WebhookOutboxRecord :=
  match records.lookup id with
  | none => .error (.storageError s!"Outbox record {id.display} not found")
  | some record =>
    if record.tenantId ≠ tenantId then
      .error (.storageError
        s!"Outbox record {id.display} not found for tenant {tenantId.display}")
    else .ok record

/-- Changes the record of an identifier, if the tenant has it and it is in the required status. -/
def modify (id tenantId : Uuid) (required : Option WebhookOutboxStatus)
    (change : WebhookOutboxRecord → WebhookOutboxRecord) : OutboxAnswer OutboxRecords :=
  match get records id tenantId with
  | .error e => (.error e, records)
  | .ok record =>
    match required with
    | some status =>
      if record.status ≠ status then
        (.error (.storageError (s!"Outbox record {id.display} is not " ++
          s!"{status.debug.toLower} (status: {record.status.debug})")), records)
      else (.ok (change record), records.insert id (change record))
    | none => (.ok (change record), records.insert id (change record))

def listPending (tenantId : Uuid) (limit : Int64) : OutboxListing :=
  listing order records (fun r => r.tenantId = tenantId && r.status = .pending)
    OutboxFields.pendingKey limit

def claim (now : DateTime) (id tenantId : Uuid) (lockedBy : String) :
    OutboxAnswer OutboxRecords :=
  modify records id tenantId (some .pending) fun r => r.claim now lockedBy

def markDelivered (now : DateTime) (id tenantId : Uuid) : OutboxAnswer OutboxRecords :=
  modify records id tenantId none fun r => r.markDelivered now

def markFailed (now : DateTime) (id tenantId : Uuid) (lastError : String) :
    OutboxAnswer OutboxRecords :=
  modify records id tenantId none fun r => r.markFailed now lastError

def rescheduleRetry (now : DateTime) (id tenantId : Uuid) (lastError : String)
    (scheduledAt : DateTime) : OutboxAnswer OutboxRecords :=
  modify records id tenantId none fun r => r.rescheduleRetry now lastError scheduledAt

def listFailed (tenantId : Uuid) (limit : Int64) : OutboxListing :=
  listing order records (fun r => r.tenantId = tenantId && r.status = .failed)
    OutboxFields.failedKey limit

def replayFailed (now : DateTime) (id tenantId : Uuid) (replayedBy : Option String) :
    OutboxAnswer OutboxRecords :=
  modify records id tenantId (some .failed) fun r => r.replayFailed now replayedBy

def listFailedOlderThan (tenantId : Uuid) (before : DateTime) (limit : Int64) : OutboxListing :=
  listing order records
    (fun r => r.tenantId = tenantId && r.status = .failed && r.updatedAt < before)
    OutboxFields.failedKey limit

/-- The tenants of the pending records, each once, in order. -/
def listDistinctPendingTenants : Except IntentRebaseError (List Uuid) :=
  .ok (orderBy (fun t => t)
    (((values order records).filter fun r => r.status = .pending).map fun r => r.tenantId).dedup)

def listReplayed (tenantId : Uuid) (since : Option DateTime) (limit : Int64) : OutboxListing :=
  listing order records (fun r => r.tenantId = tenantId && r.isReplayed since)
    OutboxFields.replayedKey limit

/-- The order of error summaries: the larger count first, then the text. -/
def summaryKey (s : WebhookOutboxDlqErrorSummary) : Natᵒᵈ ×ₗ String :=
  toLex (OrderDual.toDual s.count, s.errorPattern)

def dlqStats (now : DateTime) (tenantId : Uuid) : Except IntentRebaseError WebhookOutboxDlqStats :=
  let failed := (values order records).filter fun r => r.tenantId = tenantId && r.status = .failed
  let errorCounts := countBy (fun r : WebhookOutboxRecord => r.lastError.getD "unknown") failed
  .ok
    { totalFailed := failed.length
      oldestFailedAgeSeconds := (failed.map fun r => r.updatedAt).min?.map (ageSeconds now)
      replayedCount := (values order records).countP fun r =>
        r.tenantId = tenantId && 0 < r.replayCount
      byErrorSummary := orderBy summaryKey ((pairs errorCounts).map fun p => ⟨p.1, p.2⟩) }

def repository : WebhookOutboxRepository OutboxRecords where
  create := create
  get := get
  listPending := listPending order
  claim := claim
  markDelivered := markDelivered
  markFailed := markFailed
  rescheduleRetry := rescheduleRetry
  listFailed := listFailed order
  replayFailed := replayFailed
  listFailedOlderThan := listFailedOlderThan order
  listDistinctPendingTenants := listDistinctPendingTenants order
  listReplayed := listReplayed order
  dlqStats := dlqStats order

end InMemoryWebhookOutboxRepository

/-- The record found under an identifier is the tenant's, and in the status that is required. -/
structure Reached (found : Option WebhookOutboxRecord) (tenantId : Uuid)
    (required : Option WebhookOutboxStatus) (r : WebhookOutboxRecord) : Prop where
  found : found = some r
  tenant : r.tenantId = tenantId
  status : ∀ status ∈ required, r.status = status

theorem Reached.unique {found : Option WebhookOutboxRecord} {tenantId : Uuid}
    {required : Option WebhookOutboxStatus} {r r' : WebhookOutboxRecord}
    (h : Reached found tenantId required r) (h' : Reached found tenantId required r') : r' = r :=
  Option.some.inj (h'.found.symm.trans h.found)

namespace InMemoryWebhookOutboxRepository

variable {records : OutboxRecords} {id tenantId : Uuid} {required : Option WebhookOutboxStatus}
  {change : WebhookOutboxRecord → WebhookOutboxRecord}

theorem modify_reached {r : WebhookOutboxRecord}
    (h : Reached (records.lookup id) tenantId required r) :
    modify records id tenantId required change =
      (.ok (change r), records.insert id (change r)) := by
  obtain ⟨hfound, htenant, hstatus⟩ := h
  have hget : get records id tenantId = .ok r := by
    rw [get, hfound]
    exact if_neg (not_not.mpr htenant)
  rw [modify, hget]
  cases required with
  | none => rfl
  | some status => exact if_neg (not_not.mpr (hstatus status rfl))

theorem modify_unreached (change : WebhookOutboxRecord → WebhookOutboxRecord)
    (h : ∀ r, ¬ Reached (records.lookup id) tenantId required r) :
    ∃ text, modify records id tenantId required change = (.error (.storageError text), records) := by
  rw [modify, get]
  cases hlookup : records.lookup id with
  | none => exact ⟨_, rfl⟩
  | some r =>
    by_cases htenant : r.tenantId = tenantId
    · simp only [htenant, ne_eq, not_true, if_false]
      cases required with
      | none => exact absurd ⟨hlookup, htenant, fun _ hnone => nomatch hnone⟩ (h r)
      | some status =>
        have hstatus : r.status ≠ status := fun heq =>
          h r ⟨hlookup, htenant, fun _ hsome => Option.some.inj hsome ▸ heq⟩
        simp only [hstatus, not_false_eq_true, if_true]
        exact ⟨_, rfl⟩
    · simp only [htenant, ne_eq, not_false_eq_true, if_true]
      exact ⟨_, rfl⟩

end InMemoryWebhookOutboxRepository

end IntentRebase
