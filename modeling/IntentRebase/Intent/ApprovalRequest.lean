import IntentRebase.Kit.LatestFirst
import IntentRebase.Kit.SecondaryIndex
import IntentRebase.Kit.UpdateWhere
import IntentRebase.Types.Common

/-! Requests for the approval of a rebase, and the two repositories that keep them. -/

namespace IntentRebase

open Kit

inductive ApprovalRequestStatus where
  | pending | approved | rejected | expired | cancelled
deriving DecidableEq, Repr

namespace ApprovalRequestStatus

/-- The name that a debug print shows. -/
def debug : ApprovalRequestStatus → String
  | pending => "Pending"
  | approved => "Approved"
  | rejected => "Rejected"
  | expired => "Expired"
  | cancelled => "Cancelled"

end ApprovalRequestStatus

structure ApprovalRequest where
  id : Uuid
  intentId : Uuid
  intentVersionFrom : Int
  intentVersionTo : Int
  workflowId : Uuid
  tenantId : Uuid
  requestorId : String
  requestorType : String
  decisionClass : String
  reason : String
  metadata : Json
  status : ApprovalRequestStatus
  createdAt : DateTime
  updatedAt : DateTime
  expiresAt : Option DateTime
  resolvedAt : Option DateTime
  resolvedBy : Option String
  resolutionNotes : Option String

namespace ApprovalRequest

/-- A pending request. The identifier and the time are drawn. -/
def newPending (id : Uuid) (now : DateTime) (intentId : Uuid)
    (intentVersionFrom intentVersionTo : Int) (workflowId tenantId : Uuid)
    (requestorId requestorType decisionClass reason : String) : ApprovalRequest where
  id := id
  intentId := intentId
  intentVersionFrom := intentVersionFrom
  intentVersionTo := intentVersionTo
  workflowId := workflowId
  tenantId := tenantId
  requestorId := requestorId
  requestorType := requestorType
  decisionClass := decisionClass
  reason := reason
  metadata := .emptyObject
  status := .pending
  createdAt := now
  updatedAt := now
  expiresAt := none
  resolvedAt := none
  resolvedBy := none
  resolutionNotes := none

/-- The columns that every change of the status sets. -/
def resolve (status : ApprovalRequestStatus) (now : DateTime) (resolvedBy : String)
    (resolutionNotes : Option String) (request : ApprovalRequest) : ApprovalRequest :=
  { request with
    status := status
    updatedAt := now
    resolvedAt := some now
    resolvedBy := some resolvedBy
    resolutionNotes := resolutionNotes }

@[simp] theorem resolve_status (status : ApprovalRequestStatus) (now : DateTime)
    (resolvedBy : String) (notes : Option String) (request : ApprovalRequest) :
    (resolve status now resolvedBy notes request).status = status := rfl

end ApprovalRequest

/-- The requests, with their identifiers listed by intent and by tenant. -/
structure InMemoryApprovalRequestRepository where
  requests : HashMap Uuid ApprovalRequest
  byIntent : SecondaryIndex Uuid Uuid
  byTenant : SecondaryIndex Uuid Uuid

namespace InMemoryApprovalRequestRepository

/-- The empty repository. -/
def new : InMemoryApprovalRequestRepository where
  requests := ∅
  byIntent := ∅
  byTenant := ∅

variable (s : InMemoryApprovalRequestRepository)

def createApprovalRequest (request : ApprovalRequest) :
    Except IntentRebaseError ApprovalRequest × InMemoryApprovalRequestRepository :=
  (.ok request,
    { requests := s.requests.insert request.id request
      byIntent := s.byIntent.push request.intentId request.id
      byTenant := s.byTenant.push request.tenantId request.id })

def getApprovalRequest (id : Uuid) : Except IntentRebaseError ApprovalRequest :=
  match s.requests.lookup id with
  | some request => .ok request
  | none => .error (.approvalRequestNotFound id)

/-- The requests listed under some identifiers that a condition holds of, newest first. -/
def listed (ids : List Uuid) (condition : ApprovalRequest → Bool) : List ApprovalRequest :=
  latestFirst ApprovalRequest.createdAt ((ids.filterMap s.requests.lookup).filter condition)

def listPendingByIntent (intentId tenantId : Uuid) : List ApprovalRequest :=
  s.listed (s.byIntent.bucket intentId) fun r => r.tenantId = tenantId ∧ r.status = .pending

def listPendingByTenant (tenantId : Uuid) : List ApprovalRequest :=
  s.listed (s.byTenant.bucket tenantId) fun r => r.tenantId = tenantId ∧ r.status = .pending

def listByIntent (intentId tenantId : Uuid) : List ApprovalRequest :=
  s.listed (s.byIntent.bucket intentId) fun r => r.tenantId = tenantId

/-- The change of the request under one identifier. -/
def modify (id : Uuid) (set : ApprovalRequest → ApprovalRequest) :
    InMemoryApprovalRequestRepository :=
  { s with requests := updateWhere s.requests (fun k _ => k == id) set }

def updateApprovalRequestStatus (now : DateTime) (id : Uuid) (status : ApprovalRequestStatus)
    (resolvedBy : String) (resolutionNotes : Option String) :
    Except IntentRebaseError ApprovalRequest × InMemoryApprovalRequestRepository :=
  match s.requests.lookup id with
  | none => (.error (.internal s!"approval request not found: {id.display}"), s)
  | some request =>
    if request.status ≠ .pending then
      (.error (.approvalRequestNotPending id request.status.debug), s)
    else
      let set := ApprovalRequest.resolve status now resolvedBy resolutionNotes
      (.ok (set request), s.modify id set)

/-- A change of a status finds the request pending and resolves it, or leaves the repository. -/
theorem updateApprovalRequestStatus_cases (now : DateTime) (id : Uuid)
    (status : ApprovalRequestStatus) (resolvedBy : String) (notes : Option String) :
    (s.updateApprovalRequestStatus now id status resolvedBy notes).2 = s ∨
      ∃ request, s.requests.lookup id = some request ∧ request.status = .pending ∧
        (s.updateApprovalRequestStatus now id status resolvedBy notes).2 =
          s.modify id (ApprovalRequest.resolve status now resolvedBy notes) := by
  rw [updateApprovalRequestStatus]
  cases hrequest : s.requests.lookup id with
  | none => exact .inl rfl
  | some request =>
    by_cases hpending : request.status = .pending
    · right
      refine ⟨request, rfl, hpending, ?_⟩
      simp only [hpending, ne_eq, not_true_eq_false, if_false]
    · left
      simp only [hpending, ne_eq, not_false_eq_true, if_true]

def markExpired (now : DateTime) (id : Uuid) (expiredBy reason : String) :
    Except IntentRebaseError ApprovalRequest × InMemoryApprovalRequestRepository :=
  match s.requests.lookup id with
  | none => (.error (.approvalRequestNotFound id), s)
  | some request =>
    if request.status ≠ .pending then
      (.error (.approvalRequestNotPending id request.status.debug), s)
    else
      let set := ApprovalRequest.resolve .expired now expiredBy (some reason)
      (.ok (set request), s.modify id set)

/-- The loop of the three cancellations: the requests that are selected are cancelled and counted.
-/
def cancelWhere (selected : ApprovalRequest → Bool) (now : DateTime)
    (cancelledBy reason : String) :
    Except IntentRebaseError Nat × InMemoryApprovalRequestRepository :=
  (.ok (countWhere s.requests fun _ r => selected r),
    { s with requests := updateWhere s.requests (fun _ r => selected r)
              (ApprovalRequest.resolve .cancelled now cancelledBy (some reason)) })

def cancelPendingByIntent (now : DateTime) (intentId tenantId : Uuid)
    (cancelledBy reason : String) :
    Except IntentRebaseError Nat × InMemoryApprovalRequestRepository :=
  s.cancelWhere (fun r => r.intentId = intentId ∧ r.tenantId = tenantId ∧ r.status = .pending)
    now cancelledBy reason

def cancelApprovedByIntent (now : DateTime) (intentId tenantId : Uuid)
    (cancelledBy reason : String) :
    Except IntentRebaseError Nat × InMemoryApprovalRequestRepository :=
  s.cancelWhere (fun r => r.intentId = intentId ∧ r.tenantId = tenantId ∧ r.status = .approved)
    now cancelledBy reason

def cancelApprovedByIds (now : DateTime) (approvalIds : List Uuid) (tenantId : Uuid)
    (cancelledBy reason : String) :
    Except IntentRebaseError Nat × InMemoryApprovalRequestRepository :=
  s.cancelWhere (fun r => r.id ∈ approvalIds ∧ r.tenantId = tenantId ∧ r.status = .approved)
    now cancelledBy reason

end InMemoryApprovalRequestRepository

/-- The table of requests. Its column of the status is an enumeration. -/
structure SqlxApprovalRequestRepository where
  rows : HashMap Uuid ApprovalRequest

namespace SqlxApprovalRequestRepository

/-- The empty table. -/
def new : SqlxApprovalRequestRepository := ⟨∅⟩

variable (s : SqlxApprovalRequestRepository)

def insertRequest (request : ApprovalRequest) :
    Except IntentRebaseError ApprovalRequest × SqlxApprovalRequestRepository :=
  match s.rows.lookup request.id with
  | some _ => (.error (.storageError
      "insert approval request: duplicate key value violates unique constraint"), s)
  | none => (.ok request, ⟨s.rows.insert request.id request⟩)

def getApprovalRequest (id : Uuid) : Except IntentRebaseError ApprovalRequest :=
  match s.rows.lookup id with
  | some row => .ok row
  | none => .error (.approvalRequestNotFound id)

/-- `UPDATE approval_requests SET .. WHERE ..`: the number of rows that it affects, and the table
after it. -/
def update (selected : Uuid → ApprovalRequest → Bool) (set : ApprovalRequest → ApprovalRequest) :
    Nat × SqlxApprovalRequestRepository :=
  (countWhere s.rows selected, ⟨updateWhere s.rows selected set⟩)

/-- The statement of a change of one request that is pending. -/
def updatePending (id : Uuid) (status : ApprovalRequestStatus) (now : DateTime)
    (resolvedBy : String) (resolutionNotes : Option String) : Nat × SqlxApprovalRequestRepository :=
  s.update (fun k row => k == id && row.status = .pending)
    (ApprovalRequest.resolve status now resolvedBy resolutionNotes)

def updateStatusInDb (now : DateTime) (id : Uuid) (status : ApprovalRequestStatus)
    (resolvedBy : String) (resolutionNotes : Option String) :
    Except IntentRebaseError ApprovalRequest × SqlxApprovalRequestRepository :=
  let (affected, s') := s.updatePending id status now resolvedBy resolutionNotes
  if affected = 0 then
    (.error (.approvalRequestNotPending id "atomic update failed - request not in pending status"),
      s')
  else (s'.getApprovalRequest id, s')

/-- The error of an expiry that affected no row. -/
def notExpired (id : Uuid) : IntentRebaseError :=
  match s.getApprovalRequest id with
  | .ok request => .approvalRequestNotPending id request.status.debug
  | .error _ => .approvalRequestNotFound id

def markExpired (now : DateTime) (id : Uuid) (expiredBy reason : String) :
    Except IntentRebaseError ApprovalRequest × SqlxApprovalRequestRepository :=
  let (affected, s') := s.updatePending id .expired now expiredBy (some reason)
  if affected = 0 then (.error (s'.notExpired id), s') else (s'.getApprovalRequest id, s')

/-- The statement of the three cancellations. -/
def cancelWhere (selected : Uuid → ApprovalRequest → Bool) (now : DateTime)
    (cancelledBy reason : String) : Except IntentRebaseError Nat × SqlxApprovalRequestRepository :=
  let (affected, s') := s.update selected
    (ApprovalRequest.resolve .cancelled now cancelledBy (some reason))
  (.ok affected, s')

def cancelPendingByIntent (now : DateTime) (intentId tenantId : Uuid)
    (cancelledBy reason : String) : Except IntentRebaseError Nat × SqlxApprovalRequestRepository :=
  s.cancelWhere (fun _ row => row.intentId = intentId ∧ row.tenantId = tenantId ∧
    row.status = .pending) now cancelledBy reason

def cancelApprovedByIntent (now : DateTime) (intentId tenantId : Uuid)
    (cancelledBy reason : String) : Except IntentRebaseError Nat × SqlxApprovalRequestRepository :=
  s.cancelWhere (fun _ row => row.intentId = intentId ∧ row.tenantId = tenantId ∧
    row.status = .approved) now cancelledBy reason

def cancelApprovedByIds (now : DateTime) (approvalIds : List Uuid) (tenantId : Uuid)
    (cancelledBy reason : String) : Except IntentRebaseError Nat × SqlxApprovalRequestRepository :=
  if approvalIds.isEmpty then (.ok 0, s)
  else s.cancelWhere (fun k row => k ∈ approvalIds ∧ row.tenantId = tenantId ∧
    row.status = .approved) now cancelledBy reason

end SqlxApprovalRequestRepository

end IntentRebase
