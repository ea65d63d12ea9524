import IntentRebase.Intent.SqlxRepository
import IntentRebase.Intent.VersionCancellation

/-! The creation of a version in a transaction of the request's tenant. The head is read, and the
pending approval requests are cancelled, outside the transaction and before it commits. -/

namespace IntentRebase

open Kit

/-- A tenant that a transaction may be of. -/
def validateTenantIdForRls (tenantId : Uuid) : Except String Unit :=
  if tenantId = .nil then
    .error ("Nil UUID (00000000-0000-0000-0000-000000000000) cannot be used as tenant_id " ++
      "for RLS context; it is reserved as the default/sentinel value")
  else .ok ()

theorem validateTenantIdForRls_ok {tenantId : Uuid} {u : Unit}
    (h : validateTenantIdForRls tenantId = .ok u) : tenantId ≠ .nil := by
  rintro rfl
  rw [validateTenantIdForRls, if_pos rfl] at h
  cases h

theorem validateTenantIdForRls_eq {tenantId : Uuid} (h : tenantId ≠ .nil) :
    validateTenantIdForRls tenantId = .ok () := if_neg h

/-- The two tables. -/
structure RlsStore where
  intents : SqlxIntentRepository
  approvals : SqlxApprovalRequestRepository

/-- How the service is set up: with a pool of tenant transactions, with a repository in SQL, with a
repository of approval requests. -/
structure RlsService where
  rlsPool : Bool
  sqlRepo : Bool
  approvalRepo : Bool

/-- A call of `create_version_with_rls`, with what it draws, the time of its cancellation, and the
failures that it meets. -/
structure RlsVersionCall where
  draw : CreateVersionDraw
  intentId : Uuid
  request : CreateVersionRequest
  expectedVersion : Option Int
  expectedRowVersion : Option Int
  tenantId : Uuid
  cancelledAt : DateTime
  beginFault : Option String
  readFault : Option IntentRebaseError
  statementFault : Option IntentRebaseError
  cancelFault : Option (Fault IntentRebaseError)
  commitFault : Option (Fault String)

namespace RlsService

variable (computePayloadHash : IntentPayload → String) (service : RlsService) (s : RlsStore)
  (call : RlsVersionCall)

/-- The statements of the transaction, with the head that was read before them: the old version, the
answer, and the table that a commit leaves. -/
def transaction :
    Except IntentRebaseError (Int × CreateVersionResponse × SqlxIntentRepository) := do
  if !service.rlsPool then
    throw (.internal "RLS pool not configured")
  match validateTenantIdForRls call.tenantId with
  | .error e => throw (.internal s!"invalid tenant_id for RLS: {e}")
  | .ok _ => pure ()
  if let some e := call.beginFault then
    throw (.storageError s!"failed to begin RLS transaction: {e}")
  if !service.sqlRepo then
    throw (.internal "RLS requires SQL-backed repository")
  if let some e := call.readFault then
    throw e
  let (intent, rowVersion) ← s.intents.getIntentForUpdate call.intentId
  let expVer := call.expectedVersion.getD intent.currentVersion
  let expRowVer := call.expectedRowVersion.getD rowVersion
  if let some e := call.statementFault then
    throw e
  let (result, intents) ← s.intents.createVersionWithTx computePayloadHash (some call.tenantId)
    call.draw call.intentId call.request expVer expRowVer
  return (intent.currentVersion, result, intents)

/-- The cancellation of the pending requests, on a connection of its own. -/
def cancelPending (oldVersion : Int) (result : CreateVersionResponse) :
    SqlxApprovalRequestRepository :=
  if service.approvalRepo then
    (Fault.meet call.cancelFault s.approvals
      (s.approvals.cancelPendingByIntent call.cancelledAt call.intentId call.tenantId
        IntentService.systemActorId
        (IntentService.cancellationReason oldVersion result.versionNumber))).2
  else s.approvals

def createVersionWithRls : Except IntentRebaseError CreateVersionResponse × RlsStore :=
  match service.transaction computePayloadHash s call with
  | .error e => (.error e, s)
  | .ok (oldVersion, result, intents) =>
    let approvals := service.cancelPending s call oldVersion result
    let (answer, s') := Fault.meet call.commitFault { s with approvals }
      (.ok result, { intents, approvals })
    (answer.mapError fun e => .storageError s!"failed to commit RLS transaction: {e}", s')

end RlsService

/-- An error adds no version and changes the status of no request; an answer has stored the version,
and cancelled the requests that were pending for a version before it. -/
def AtomicVersion (computePayloadHash : IntentPayload → String) (service : RlsService)
    (s : RlsStore) (call : RlsVersionCall) : Prop :=
  let (answer, s') := service.createVersionWithRls computePayloadHash s call
  match answer with
  | .error _ => s'.intents.versions = s.intents.versions ∧
      ∀ id, (s'.approvals.rows.lookup id).map ApprovalRequest.status =
        (s.approvals.rows.lookup id).map ApprovalRequest.status
  | .ok result =>
    (∃ row, s'.intents.versions.lookup result.intentVersionId = some row ∧
      row.intentId = call.intentId ∧ row.versionNumber = result.versionNumber) ∧
    ∀ id request, s.approvals.rows.lookup id = some request → request.status = .pending →
      request.intentId = call.intentId → request.intentVersionTo < result.versionNumber →
      (s'.approvals.rows.lookup id).map ApprovalRequest.status = some .cancelled

namespace RlsService

/-- The transaction writes the version after the row's: the service has its pool and its SQL
repository, the tenant is valid, nothing fails before the cancellation, and the tables accept it. -/
structure Writes (service : RlsService) (s : RlsStore) (call : RlsVersionCall) (row : IntentRow) :
    Prop where
  rlsPool : service.rlsPool = true
  sqlRepo : service.sqlRepo = true
  tenant : call.tenantId ≠ .nil
  beginFault : call.beginFault = none
  readFault : call.readFault = none
  statementFault : call.statementFault = none
  accepts : s.intents.Accepts (some call.tenantId) call.draw.versionId call.intentId
    (call.expectedVersion.getD row.currentVersion) (call.expectedRowVersion.getD row.rowVersion) row

/-- The cancellation takes place. -/
def Cancels (service : RlsService) (call : RlsVersionCall) : Prop :=
  service.approvalRepo = true ∧ ∀ e, call.cancelFault ≠ some (.before e)

/-- What keeps a call whole whose transaction writes the version: its commit takes place, and it
cancels each pending request for an earlier version, or its commit fails with nothing cancelled. -/
def Whole (service : RlsService) (s : RlsStore) (call : RlsVersionCall) (row : IntentRow) : Prop :=
  match call.commitFault with
  | none => ∀ id request, s.approvals.rows.lookup id = some request →
      request.status = .pending → request.intentId = call.intentId →
      request.intentVersionTo ≤ row.currentVersion →
      request.tenantId = call.tenantId ∧ service.Cancels call
  | some (.before _) => service.Cancels call →
      ∀ id request, s.approvals.rows.lookup id = some request →
        request.intentId = call.intentId → request.tenantId = call.tenantId →
        request.status ≠ .pending
  | some (.after _) => False

section Proofs

variable {computePayloadHash : IntentPayload → String} {service : RlsService} {s : RlsStore}
  {call : RlsVersionCall}

variable (computePayloadHash) in
/-- A transaction that passes its checks does what its statements do. -/
theorem Writes.transaction_eq {row : IntentRow} (h : service.Writes s call row) :
    service.transaction computePayloadHash s call =
      (s.intents.createVersionWithTx computePayloadHash (some call.tenantId) call.draw call.intentId
        call.request (call.expectedVersion.getD row.currentVersion)
        (call.expectedRowVersion.getD row.rowVersion)).map (Prod.mk row.currentVersion) := by
  have htenant : validateTenantIdForRls call.tenantId = .ok () := if_neg h.tenant
  have hread : s.intents.getIntentForUpdate call.intentId =
      .ok (rowToIntent row, row.rowVersion) := by
    rw [SqlxIntentRepository.getIntentForUpdate, h.accepts.stored]
  simp only [RlsService.transaction, h.rlsPool, h.sqlRepo, htenant, h.beginFault, h.readFault,
    h.statementFault, hread, Bool.not_true, Bool.false_eq_true, if_false, Prod.mk.eta,
    bind_pure_comp]
  rfl

variable (computePayloadHash) in
theorem Writes.transaction {row : IntentRow} (h : service.Writes s call row) :
    ∃ intents, service.transaction computePayloadHash s call =
        .ok (row.currentVersion, { intentVersionId := call.draw.versionId
                                   intentId := call.intentId
                                   versionNumber := row.currentVersion + 1
                                   status := .active }, intents) ∧
      intents.versions = s.intents.versions.insert call.draw.versionId
        (SqlxIntentRepository.nextVersionRow computePayloadHash call.draw call.intentId call.request
          (row.currentVersion + 1)) := by
  obtain ⟨intents, hstatements, hversions⟩ := h.accepts.statements
    computePayloadHash call.request
  refine ⟨intents, ?_, hversions⟩
  rw [h.transaction_eq, SqlxIntentRepository.createVersionWithTx, hstatements]
  rfl

/-- A transaction that answers has passed each of its checks. -/
theorem writes_of_ok {written : Int × CreateVersionResponse × SqlxIntentRepository}
    (h : service.transaction computePayloadHash s call = .ok written) :
    ∃ row, service.Writes s call row := by
  have hpool : service.rlsPool = true := by
    refine Bool.of_not_eq_false fun hpool => ?_
    simp only [RlsService.transaction, hpool, Bool.not_false, if_true] at h
    cases h
  simp only [RlsService.transaction, hpool, Bool.not_true, Bool.false_eq_true, if_false] at h
  have htenant : call.tenantId ≠ .nil := by
    intro htenant
    simp only [validateTenantIdForRls, htenant, if_true] at h
    cases h
  have hvalid : validateTenantIdForRls call.tenantId = .ok () := if_neg htenant
  simp only [hvalid] at h
  have hbegin : call.beginFault = none := by
    by_contra hbegin
    obtain ⟨e, hbegin⟩ := Option.ne_none_iff_exists'.mp hbegin
    simp only [hbegin] at h
    cases h
  simp only [hbegin] at h
  have hsql : service.sqlRepo = true := by
    refine Bool.of_not_eq_false fun hsql => ?_
    simp only [hsql, Bool.not_false, if_true] at h
    cases h
  simp only [hsql, Bool.not_true, Bool.false_eq_true, if_false] at h
  have hread : call.readFault = none := by
    by_contra hread
    obtain ⟨e, hread⟩ := Option.ne_none_iff_exists'.mp hread
    simp only [hread] at h
    cases h
  simp only [hread] at h
  cases hrow : s.intents.intents.lookup call.intentId with
  | none =>
    simp only [SqlxIntentRepository.getIntentForUpdate, hrow] at h
    cases h
  | some row =>
    simp only [SqlxIntentRepository.getIntentForUpdate, hrow] at h
    have hstatement : call.statementFault = none := by
      by_contra hstatement
      obtain ⟨e, hstatement⟩ := Option.ne_none_iff_exists'.mp hstatement
      simp only [hstatement] at h
      cases h
    simp only [hstatement] at h
    cases hstored : s.intents.createVersionWithTx computePayloadHash (some call.tenantId) call.draw
        call.intentId call.request (call.expectedVersion.getD (rowToIntent row).currentVersion)
        (call.expectedRowVersion.getD row.rowVersion) with
    | error e =>
      have herror := congrArg (Prod.mk (rowToIntent row).currentVersion <$> ·) hstored
      cases h.symm.trans herror
    | ok stored =>
      obtain ⟨row', haccepts⟩ := SqlxIntentRepository.accepts_of_ok hstored
      cases hrow.symm.trans haccepts.stored
      exact ⟨row, hpool, hsql, htenant, hbegin, hread, hstatement, haccepts⟩

/-- What a transaction answers is the head that was read and what its statements answer. -/
theorem statements_of_ok {written : Int × CreateVersionResponse × SqlxIntentRepository}
    (h : service.transaction computePayloadHash s call = .ok written) :
    ∃ row, service.Writes s call row ∧ written.1 = row.currentVersion ∧
      s.intents.createVersionWithTx computePayloadHash (some call.tenantId) call.draw call.intentId
        call.request (call.expectedVersion.getD row.currentVersion)
        (call.expectedRowVersion.getD row.rowVersion) = .ok written.2 := by
  obtain ⟨row, hwrites⟩ := writes_of_ok h
  refine ⟨row, hwrites, ?_⟩
  rw [hwrites.transaction_eq] at h
  cases hstatements : s.intents.createVersionWithTx computePayloadHash (some call.tenantId)
      call.draw call.intentId call.request (call.expectedVersion.getD row.currentVersion)
      (call.expectedRowVersion.getD row.rowVersion) with
  | error e =>
    rw [hstatements] at h
    cases h
  | ok answer =>
    rw [hstatements] at h
    cases h
    exact ⟨rfl, rfl⟩

variable (service s call) in
/-- A cancellation does nothing, or it cancels the pending requests of the intent and tenant. -/
theorem cancelPending_cases (oldVersion : Int) (result : CreateVersionResponse) :
    (¬ service.Cancels call ∧ service.cancelPending s call oldVersion result = s.approvals) ∨
      service.Cancels call ∧ ∃ reason,
        (service.cancelPending s call oldVersion result).rows = updateWhere s.approvals.rows
          (fun _ row => row.intentId = call.intentId ∧ row.tenantId = call.tenantId ∧
            row.status = .pending)
          (ApprovalRequest.resolve .cancelled call.cancelledAt IntentService.systemActorId
            (some reason)) := by
  rw [cancelPending]
  cases hrepo : service.approvalRepo with
  | false =>
    refine .inl ⟨fun h => ?_, rfl⟩
    rw [Cancels, hrepo] at h
    cases h.1
  | true =>
    rcases Fault.meet_state call.cancelFault s.approvals
      (s.approvals.cancelPendingByIntent call.cancelledAt call.intentId call.tenantId
        IntentService.systemActorId
        (IntentService.cancellationReason oldVersion result.versionNumber)) with
      ⟨e, hbefore, hsame⟩ | ⟨hfault, hacts⟩
    · exact .inl ⟨fun h => h.2 e hbefore, by rw [if_pos rfl, hsame]⟩
    · exact .inr ⟨⟨hrepo, hfault⟩, _, by rw [if_pos rfl, hacts]; rfl⟩

/-- The status of a request after the cancellation. -/
theorem status_cancelPending {oldVersion : Int} {result : CreateVersionResponse} {id : Uuid}
    {request : ApprovalRequest} (hrequest : s.approvals.rows.lookup id = some request) :
    ((service.cancelPending s call oldVersion result).rows.lookup id).map ApprovalRequest.status =
      some .cancelled ∧ service.Cancels call ∧ request.intentId = call.intentId ∧
        request.tenantId = call.tenantId ∧ request.status = .pending ∨
    ((service.cancelPending s call oldVersion result).rows.lookup id).map ApprovalRequest.status =
      some request.status ∧ ¬ (service.Cancels call ∧ request.intentId = call.intentId ∧
        request.tenantId = call.tenantId ∧ request.status = .pending) := by
  rcases service.cancelPending_cases s call oldVersion result with
    ⟨hnot, hsame⟩ | ⟨hcancels, reason, hset⟩
  · right
    rw [hsame, hrequest]
    exact ⟨rfl, fun h => hnot h.1⟩
  · rw [hset, lookup_updateWhere, hrequest, Option.map_some, Option.map_some]
    split
    · next hselected => exact .inl ⟨rfl, hcancels, of_decide_eq_true hselected⟩
    · next hselected => exact .inr ⟨rfl, fun h => hselected (decide_eq_true h.2)⟩

theorem cancelPending_none {oldVersion : Int} {result : CreateVersionResponse} {id : Uuid}
    (hrequest : s.approvals.rows.lookup id = none) :
    (service.cancelPending s call oldVersion result).rows.lookup id = none := by
  rcases service.cancelPending_cases s call oldVersion result with
    ⟨_, hsame⟩ | ⟨_, reason, hset⟩
  · rw [hsame, hrequest]
  · rw [hset, lookup_updateWhere, hrequest, Option.map_none]

/-- A call of `create_version_with_rls` is atomic exactly if it is whole when it writes a version.
-/
theorem atomicVersion_iff (computePayloadHash : IntentPayload → String) (service : RlsService)
    (s : RlsStore) (call : RlsVersionCall) :
    AtomicVersion computePayloadHash service s call ↔
      ∀ row, service.Writes s call row → service.Whole s call row := by
  rw [AtomicVersion, createVersionWithRls]
  cases htransaction : service.transaction computePayloadHash s call with
  | error e =>
    refine ⟨fun _ row hwrites => ?_, fun _ => ⟨rfl, fun _ => rfl⟩⟩
    obtain ⟨intents, hok, _⟩ := hwrites.transaction computePayloadHash
    cases htransaction.symm.trans hok
  | ok written =>
    obtain ⟨row, hwrites⟩ := writes_of_ok htransaction
    obtain ⟨intents, hok, hversions⟩ := hwrites.transaction computePayloadHash
    cases htransaction.symm.trans hok
    have hrow : (∀ row, service.Writes s call row → service.Whole s call row) ↔
        service.Whole s call row := by
      refine ⟨fun h => h row hwrites, fun h row' hwrites' => ?_⟩
      cases hwrites.accepts.stored.symm.trans hwrites'.accepts.stored
      exact h
    rw [hrow, Whole]
    match call.commitFault with
    | none =>
      simp only [Fault.meet, Except.mapError]
      constructor
      · rintro ⟨_, hcancelled⟩ id request hrequest hpending hintent hversion
        have hstatus := hcancelled id request hrequest hpending hintent (by omega)
        rcases status_cancelPending hrequest with ⟨_, hcancels, _, htenant, _⟩ | ⟨hsame, _⟩
        · exact ⟨htenant, hcancels⟩
        · rw [hsame, hpending] at hstatus
          cases hstatus
      · intro hwhole
        refine ⟨⟨_, by rw [hversions, AList.lookup_insert], rfl, rfl⟩, ?_⟩
        intro id request hrequest hpending hintent hversion
        obtain ⟨htenant, hcancels⟩ := hwhole id request hrequest hpending hintent (by omega)
        rcases status_cancelPending hrequest with ⟨hstatus, _⟩ | ⟨_, hnot⟩
        · exact hstatus
        · exact absurd ⟨hcancels, hintent, htenant, hpending⟩ hnot
    | some (.before e) =>
      simp only [Fault.meet, Except.mapError]
      constructor
      · rintro ⟨_, hsame⟩ hcancels id request hrequest hintent htenant hpending
        have hstatus := hsame id
        rcases status_cancelPending hrequest with ⟨hcancelled, _⟩ | ⟨_, hnot⟩
        · rw [hcancelled, hrequest, Option.map_some, hpending] at hstatus
          cases hstatus
        · exact hnot ⟨hcancels, hintent, htenant, hpending⟩
      · intro hwhole
        refine ⟨trivial, fun id => ?_⟩
        cases hrequest : s.approvals.rows.lookup id with
        | none => rw [cancelPending_none hrequest]
        | some request =>
          rcases status_cancelPending hrequest with
            ⟨_, hcancels, hintent, htenant, hpending⟩ | ⟨hstatus, _⟩
          · exact absurd hpending (hwhole hcancels id request hrequest hintent htenant)
          · exact hstatus
    | some (.after e) =>
      simp only [Fault.meet, Except.mapError, iff_false]
      rintro ⟨hsame, _⟩
      have hfresh := hwrites.accepts.fresh
      rw [← hsame, hversions, AList.lookup_insert] at hfresh
      cases hfresh

end Proofs

/-- The service with all its parts. -/
def sampleService : RlsService := ⟨true, true, true⟩

/-- An intent at its first version, and the pending request for it. -/
def sampleStore : RlsStore where
  intents := (SqlxIntentRepository.new.createIntentTx InMemoryIntentRepository.sampleHash (some 5)
    ⟨10, 20, 30, 0⟩ InMemoryIntentRepository.sampleIntentRequest).2
  approvals := (SqlxApprovalRequestRepository.new.insertRequest
    (.newPending 4 3 10 0 1 2 5 "agent" "agent" "D" "rebase")).2

/-- A second version, whose commit fails. -/
def sampleCall : RlsVersionCall where
  draw := ⟨21, 4⟩
  intentId := 10
  request := InMemoryIntentRepository.sampleVersionRequest
  expectedVersion := none
  expectedRowVersion := none
  tenantId := 5
  cancelledAt := 4
  beginFault := none
  readFault := none
  statementFault := none
  cancelFault := none
  commitFault := some (.before "connection closed")

/-- The version is rolled back, and the request stays cancelled. -/
theorem cancelled_without_version :
    ¬ ∀ (computePayloadHash : IntentPayload → String) (service : RlsService) (s : RlsStore)
      (call : RlsVersionCall), AtomicVersion computePayloadHash service s call := by
  intro hclaim
  have hstatus := (hclaim InMemoryIntentRepository.sampleHash sampleService sampleStore
    sampleCall).2 4
  revert hstatus
  decide +kernel

end RlsService

end IntentRebase
