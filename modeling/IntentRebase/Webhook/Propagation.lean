import IntentRebase.Kit.OrderBy
import IntentRebase.Types.Common

/-! The propagation records of intents: which version each downstream system was last told of, and
how the delivery went. The time that an operation reads is an argument. -/

namespace IntentRebase

open Kit

inductive PropagationStatus where
  | pending | acknowledged | failed
deriving DecidableEq, Repr

structure PropagationRecord where
  id : Uuid
  tenantId : Uuid
  intentId : Uuid
  downstreamSystemId : String
  status : PropagationStatus
  lastSeenVersion : Int32
  signaledAt : DateTime
  acknowledgedAt : Option DateTime
  failedAt : Option DateTime
  failureReason : Option String
  deliveryAttemptCount : Int32
  lastDeliveryAttemptAt : Option DateTime
  lockVersion : Int32
  createdAt : DateTime
  updatedAt : DateTime

namespace PropagationRecord

/-- A new record, pending. -/
def new (now : DateTime) (id tenantId intentId : Uuid) (downstreamSystemId : String) :
    PropagationRecord where
  id := id
  tenantId := tenantId
  intentId := intentId
  downstreamSystemId := downstreamSystemId
  status := .pending
  lastSeenVersion := 0
  signaledAt := now
  acknowledgedAt := none
  failedAt := none
  failureReason := none
  deliveryAttemptCount := 0
  lastDeliveryAttemptAt := none
  lockVersion := 1
  createdAt := now
  updatedAt := now

variable (now : DateTime) (r : PropagationRecord)

/-- The record in a status since a time. -/
def enter (status : PropagationStatus) : PropagationRecord :=
  { r with
    status := status
    acknowledgedAt := if status = .acknowledged then some now else none
    failedAt := if status = .failed then some now else none
    lockVersion := r.lockVersion + 1
    updatedAt := now }

def updateStatus (status : PropagationStatus) (lastSeenVersion : Int32) : PropagationRecord :=
  { r.enter now status with lastSeenVersion := lastSeenVersion }

def recordDeliveryAttempt : PropagationRecord :=
  { r with
    deliveryAttemptCount := r.deliveryAttemptCount + 1
    lastDeliveryAttemptAt := some now
    lockVersion := r.lockVersion + 1
    updatedAt := now }

def recordDeliveryOutcome (status : PropagationStatus) (failureReason : Option String) :
    PropagationRecord :=
  { r.enter now status with failureReason := failureReason }

end PropagationRecord

abbrev PropagationAnswer (ρ : Type) := Except IntentRebaseError PropagationRecord × ρ

/-- The interface of a repository of propagation records. -/
structure PropagationRecordRepository (ρ : Type) where
  createRecord : ρ → PropagationRecord → PropagationAnswer ρ
  getRecord : ρ → Uuid → Uuid → Except IntentRebaseError PropagationRecord
  listByIntent : ρ → Uuid → Uuid → Except IntentRebaseError (List PropagationRecord)
  updateStatus : ρ → DateTime → Uuid → Uuid → PropagationStatus → Int32 → PropagationAnswer ρ
  recordDeliveryAttempt : ρ → DateTime → Uuid → Uuid → PropagationAnswer ρ
  recordDeliveryOutcome : ρ → DateTime → Uuid → Uuid → PropagationStatus → Option String →
    PropagationAnswer ρ

/-- The records by identifier, and the identifiers by tenant and intent. -/
structure PropagationStore where
  records : HashMap Uuid PropagationRecord
  byIntent : HashMap (Uuid × Uuid) (List Uuid)

namespace InMemoryPropagationRecordRepository

variable (s : PropagationStore)

def notFound (id : Uuid) : IntentRebaseError :=
  .storageError s!"Propagation record not found: {id.display}"

def createRecord (record : PropagationRecord) : PropagationAnswer PropagationStore :=
  let key := (record.tenantId, record.intentId)
  (.ok record,
    { records := s.records.insert record.id record
      byIntent := s.byIntent.insert key ((s.byIntent.lookup key).getD [] ++ [record.id]) })

def getRecord (id tenantId : Uuid) : Except IntentRebaseError PropagationRecord :=
  match (s.records.lookup id).filter fun r => r.tenantId = tenantId with
  | some record => .ok record
  | none => .error (notFound id)

/-- The records of an intent, the one updated last first. -/
def listByIntent (intentId tenantId : Uuid) : Except IntentRebaseError (List PropagationRecord) :=
  let ids := (s.byIntent.lookup (tenantId, intentId)).getD []
  let result := ids.filterMap fun id => s.records.lookup id
  .ok (orderBy (fun r => OrderDual.toDual r.updatedAt) result)

/-- Changes the record of an identifier, if the tenant has it. -/
def modify (id tenantId : Uuid) (change : PropagationRecord → PropagationRecord) :
    PropagationAnswer PropagationStore :=
  match getRecord s id tenantId with
  | .ok record => (.ok (change record), { s with records := s.records.insert id (change record) })
  | .error e => (.error e, s)

def updateStatus (now : DateTime) (id tenantId : Uuid) (status : PropagationStatus)
    (lastSeenVersion : Int32) : PropagationAnswer PropagationStore :=
  modify s id tenantId fun r => r.updateStatus now status lastSeenVersion

def recordDeliveryAttempt (now : DateTime) (id tenantId : Uuid) :
    PropagationAnswer PropagationStore :=
  modify s id tenantId fun r => r.recordDeliveryAttempt now

def recordDeliveryOutcome (now : DateTime) (id tenantId : Uuid) (status : PropagationStatus)
    (failureReason : Option String) : PropagationAnswer PropagationStore :=
  modify s id tenantId fun r => r.recordDeliveryOutcome now status failureReason

def repository : PropagationRecordRepository PropagationStore where
  createRecord := createRecord
  getRecord := getRecord
  listByIntent := listByIntent
  updateStatus := updateStatus
  recordDeliveryAttempt := recordDeliveryAttempt
  recordDeliveryOutcome := recordDeliveryOutcome

end InMemoryPropagationRecordRepository

end IntentRebase
