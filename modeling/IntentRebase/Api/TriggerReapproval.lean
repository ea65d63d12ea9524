import IntentRebase.Api.ApprovalInvalidation
import IntentRebase.Api.Replay

/-! The handler by which an outside system that sees a drift of the scope asks for a new approval.
The new request and the cancellation of the approved ones are in one transaction of the token's
tenant where there is a pool, and else one call after the other. -/

namespace IntentRebase

open Kit

structure TriggerReapprovalRequest where
  intentId : Uuid
  originalVersionFrom : Int
  currentVersionTo : Int
  originalScopeHash : String
  currentScopeHash : String
  reapprovalReason : String
deriving DecidableEq, Repr

structure TriggerReapprovalResponse where
  approvalRequestId : Uuid
  intentId : Uuid
  intentVersionFrom : Int
  intentVersionTo : Int
  status : String
  notificationIntent : Bool
  reason : String
deriving DecidableEq, Repr

/-- What the handler uses of the state of the application. -/
structure TriggerReapprovalState where
  service : IntentStore
  rlsPool : Bool

/-- What a call of the handler draws, and the failures that it meets. -/
structure TriggerReapprovalRun where
  id : Uuid
  createdAt : DateTime
  cancelledAt : DateTime
  beginFault : Option String
  txCreateFault : Option String
  txCancelFault : Option String
  commitFault : Option (Fault String)
  createFault : Option (Fault IntentRebaseError)
  cancelFault : Option (Fault IntentRebaseError)

/-- The actor of the handler. -/
def triggerReapprovalActor : String := "external-api/trigger-reapproval"

section Handler

variable (state : TriggerReapprovalState) (run : TriggerReapprovalRun)
  (request : TriggerReapprovalRequest)

/-- The pending request of a call. -/
def reapprovalRequest (intent : Intent) : ApprovalRequest :=
  .newPending run.id run.createdAt request.intentId request.originalVersionFrom
    request.currentVersionTo intent.workflowId intent.tenantId triggerReapprovalActor "external-api"
    "ScopeChange" request.reapprovalReason

/-- The request and the cancellation in a transaction. -/
def reapproveWithTx (rlsTenantId : Uuid) (intent : Intent)
    (tx : Transaction SqlxApprovalRequestRepository) :
    Except IntentRebaseError ApprovalRequest × Transaction SqlxApprovalRequestRepository :=
  match SqlxApprovalRequestRepository.createApprovalRequestWithTx rlsTenantId run.txCreateFault
      (reapprovalRequest run request intent) tx with
  | (.error e, tx) => (.error (.storageError
      s!"trigger_reapproval: RLS approval creation failed: {e.display}"), tx)
  | (.ok created, tx) =>
    let cancellationReason :=
      s!"Superseded by new approval request {created.id.display} due to scope change"
    match SqlxApprovalRequestRepository.cancelApprovedByIntentWithTx rlsTenantId run.txCancelFault
        run.cancelledAt request.intentId intent.tenantId triggerReapprovalActor cancellationReason
        tx with
    | (.error e, tx) => (.error (.storageError
        s!"trigger_reapproval: RLS cancellation failed: {e.display}"), tx)
    | (.ok _, tx) => (.ok created, tx)

/-- The error of a transaction that failed. -/
def reapprovalFailure : RlsFailure → IntentRebaseError
  | .notBegun e => .internal s!"trigger_reapproval: failed to begin RLS transaction: {e}"
  | .refused e => e
  | .notCommitted e => .storageError
      s!"trigger_reapproval: failed to commit RLS transaction: {e}"

/-- The request, and then the cancellation, which does not fail the call. -/
def createAndSupersede (intent : Intent) :
    Effect ApprovalStorage IntentRebaseError ApprovalRequest := fun s =>
  match Fault.meet run.createFault s
      (s.createApprovalRequest (reapprovalRequest run request intent)) with
  | (.error e, s) => (.error e, s)
  | (.ok created, s) =>
    let (_, s) := cancelExistingApprovedAndAudit run.cancelFault run.cancelledAt request.intentId
      intent.tenantId triggerReapprovalActor created.id s
    (.ok created, s)

/-- The request and the cancellation, in a transaction where there are claims, a pool and a
table. -/
def reapprove (claims : Option RlsTenantClaims) (intent : Intent) :
    Effect ApprovalStorage IntentRebaseError ApprovalRequest := fun s =>
  let plain := (createAndSupersede run request intent).on
  match claims, s with
  | some rlsClaims, .sqlx repo =>
    if state.rlsPool then
      match inTenant rlsClaims.tenantId run.beginFault run.commitFault
          (reapproveWithTx run request rlsClaims.tenantId intent) repo with
      | (.ok created, repo) => (.ok created, .sqlx repo)
      | (.error e, repo) => (.error (reapprovalFailure e), .sqlx repo)
    else plain (.sqlx repo)
  | _, s => plain s

def reapprovalResponse (created : ApprovalRequest) : TriggerReapprovalResponse where
  approvalRequestId := created.id
  intentId := request.intentId
  intentVersionFrom := request.originalVersionFrom
  intentVersionTo := request.currentVersionTo
  status := created.status.debug
  notificationIntent := true
  reason := request.reapprovalReason

/-- The reads before the request: the scope has drifted, and the token's tenant owns the intent. -/
def reapprovalHead (claims : Option RlsTenantClaims) :
    Except IntentRebaseError IntentHeadResponse :=
  if request.originalScopeHash = request.currentScopeHash then
    .error (.invalidIngestRequest "Scope hashes match — no re-approval required")
  else
    match state.service.getIntentHead request.intentId with
    | .error e => .error e
    | .ok intentHead =>
      match claims with
      | none => .ok intentHead
      | some rlsClaims =>
        if intentHead.intent.tenantId ≠ rlsClaims.tenantId then
          .error (.unauthorized
            (intentTenantMismatch rlsClaims.tenantId intentHead.intent.tenantId))
        else .ok intentHead

def triggerReapproval (claims : Option RlsTenantClaims) :
    Effect ApprovalStorage IntentRebaseError (StatusCode × TriggerReapprovalResponse) := do
  let intentHead ← reapprovalHead state request claims
  let created ← reapprove state run request claims intentHead.intent
  return (.created, reapprovalResponse request created)

/-- The handler of the build without tokens, which acts as on a call without claims. -/
def triggerReapprovalWithoutJwt :
    Effect ApprovalStorage IntentRebaseError (StatusCode × TriggerReapprovalResponse) :=
  triggerReapproval state run request none

end Handler

section Created

variable {state : TriggerReapprovalState} {run : TriggerReapprovalRun}
  {request : TriggerReapprovalRequest} {claims : Option RlsTenantClaims} {intent : Intent}
  {s s' : ApprovalStorage} {created : ApprovalRequest}

/-- A head that is read is one of the token's tenant. -/
theorem reapprovalHead_ok {intentHead : IntentHeadResponse}
    (h : reapprovalHead state request claims = .ok intentHead) :
    state.service.getIntentHead request.intentId = .ok intentHead ∧
      ∀ rlsClaims, claims = some rlsClaims → rlsClaims.tenantId = intentHead.intent.tenantId := by
  unfold reapprovalHead at h
  split at h
  · cases h
  split at h
  · cases h
  next head hhead =>
  split at h
  · cases h
    refine ⟨hhead, ?_⟩
    rintro _ ⟨⟩
  · split at h
    · cases h
    next htenant =>
      cases h
      refine ⟨hhead, ?_⟩
      rintro _ ⟨⟩
      exact (not_not.mp htenant).symm

/-- No approved request of the intent is left. -/
def NoneApproved (intentId tenantId : Uuid) (requests : HashMap Uuid ApprovalRequest) : Prop :=
  ∀ id request, requests.lookup id = some request →
    ¬ ApprovalStorage.Approved intentId tenantId request

theorem CancelsWhere.noneApproved {cancelledBy : String} {intentId tenantId : Uuid}
    {before after : HashMap Uuid ApprovalRequest}
    (h : CancelsWhere cancelledBy (ApprovalStorage.Approved intentId tenantId) before after) :
    NoneApproved intentId tenantId after :=
  fun _ _ hlookup => h.none_left (fun _ hselected => hselected.2.2) hlookup

/-- The new request is stored and approved ones of its tenant may be cancelled; with certainty,
those of its intent, if no failure of the cancellation is passed over. -/
structure Reapproved (new : ApprovalRequest) (certain : Prop)
    (before after : HashMap Uuid ApprovalRequest) : Prop where
  cancelled : MayCancel (ApprovalStorage.ApprovedOf new.tenantId) (before.insert new.id new) after
  noneApproved : certain → NoneApproved new.intentId new.tenantId after

/-- A pending request is stored, and stays so when approved ones are cancelled. -/
theorem Reapproved.stored {new : ApprovalRequest} {certain : Prop}
    {before after : HashMap Uuid ApprovalRequest} (h : Reapproved new certain before after)
    (hpending : new.status = .pending) : after.lookup new.id = some new := by
  refine h.cancelled.kept (AList.lookup_insert _) fun happroved => ?_
  cases hpending.symm.trans happroved.2

theorem createAndSupersede_ok
    (h : (createAndSupersede run request intent).on s = (.ok created, s')) :
    created = reapprovalRequest run request intent ∧
      Reapproved created (run.cancelFault = none) s.requests s'.requests := by
  have hunfolded : (match Fault.meet run.createFault s
      (s.createApprovalRequest (reapprovalRequest run request intent)) with
    | (.error e, s) => (.error e, s)
    | (.ok created, s) => (.ok created, (cancelExistingApprovedAndAudit run.cancelFault
        run.cancelledAt request.intentId intent.tenantId triggerReapprovalActor created.id s).2)) =
      ((.ok created, s') : Except IntentRebaseError ApprovalRequest × ApprovalStorage) := h
  split at hunfolded
  · cases hunfolded
  next hcreated =>
    cases hunfolded
    obtain ⟨rfl, hrequests⟩ :=
      ApprovalStorage.createApprovalRequest_ok (Fault.meet_ok hcreated).2
    refine ⟨rfl, ?_, fun hnoFault => ?_⟩
    · rw [← hrequests]
      exact cancelExistingApprovedAndAudit_mayCancel _ _ _ _ _ _ _
    · rw [hnoFault]
      exact (cancelExistingApprovedAndAudit_cancels _ _ _ _ _ _).noneApproved

theorem reapproveWithTx_ok {repo : SqlxApprovalRequestRepository}
    {tx : Transaction SqlxApprovalRequestRepository}
    (h : reapproveWithTx run request intent.tenantId intent (.start repo) = (.ok created, tx)) :
    created = reapprovalRequest run request intent ∧ tx.aborted = false ∧
      Reapproved created True repo.rows tx.work.rows := by
  unfold reapproveWithTx at h
  split at h
  · cases h
  next hcreated =>
  dsimp only at h
  split at h
  · cases h
  next hcancelled =>
    cases h
    obtain ⟨rfl, -, -, hrows⟩ :=
      SqlxApprovalRequestRepository.createApprovalRequestWithTx_ok hcreated
    obtain ⟨hopen, hcancels⟩ :=
      SqlxApprovalRequestRepository.cancelApprovedByIntentWithTx_ok hcancelled
    refine ⟨rfl, hopen, ?_, fun _ => hcancels.noneApproved⟩
    rw [hrows] at hcancels
    exact hcancels.mayCancel fun _ hselected => hselected.2

/-- The writes are in a transaction where there are claims, a pool and a table. -/
def UsesTransaction (rlsPool : Bool) (claims : Option RlsTenantClaims) (s : ApprovalStorage) :
    Prop :=
  rlsPool = true ∧ claims.isSome = true ∧ s.asSqlxApprovalRepo.isSome = true

theorem reapprove_ok
    (hclaims : ∀ rlsClaims, claims = some rlsClaims → rlsClaims.tenantId = intent.tenantId)
    (h : (reapprove state run request claims intent).on s = (.ok created, s')) :
    created = reapprovalRequest run request intent ∧
      Reapproved created (run.cancelFault = none ∨ UsesTransaction state.rlsPool claims s)
        s.requests s'.requests := by
  have hplain (h : (createAndSupersede run request intent).on s = (.ok created, s'))
      (hnot : ¬ UsesTransaction state.rlsPool claims s) :
      created = reapprovalRequest run request intent ∧
        Reapproved created (run.cancelFault = none ∨ UsesTransaction state.rlsPool claims s)
          s.requests s'.requests := by
    obtain ⟨hcreated, hreapproved⟩ := createAndSupersede_ok h
    exact ⟨hcreated, hreapproved.cancelled,
      fun h => hreapproved.noneApproved (h.resolve_right hnot)⟩
  change reapprove state run request claims intent s = (.ok created, s') at h
  unfold reapprove at h
  dsimp only at h
  split at h
  · next rlsClaims repo =>
    split at h
    · next hpool =>
      split at h
      · next htx =>
        cases h
        rw [hclaims rlsClaims rfl] at htx
        obtain ⟨-, -, tx, hbody, rfl⟩ := inTenant_ok htx
        obtain ⟨hcreated, hopen, hreapproved⟩ := reapproveWithTx_ok hbody
        have hwork : tx.committed repo = tx.work := if_neg (by simp [hopen])
        rw [hwork]
        exact ⟨hcreated, hreapproved.cancelled, fun _ => hreapproved.noneApproved trivial⟩
      · cases h
    · next hpool =>
      exact hplain h fun huses => hpool huses.1
  · next hnot =>
    refine hplain h fun ⟨_, hsome, hsqlx⟩ => ?_
    obtain ⟨rlsClaims, rfl⟩ := Option.isSome_iff_exists.mp hsome
    cases s with
    | inMemory repo => cases hsqlx
    | sqlx repo => exact hnot rlsClaims repo rfl rfl

/-- A call that answers has stored its request. -/
theorem triggerReapproval_ok {answer : StatusCode × TriggerReapprovalResponse}
    (h : (triggerReapproval state run request claims).on s = (.ok answer, s')) :
    ∃ intentHead, reapprovalHead state request claims = .ok intentHead ∧
      answer = (.created, reapprovalResponse request (reapprovalRequest run request
        intentHead.intent)) ∧
      Reapproved (reapprovalRequest run request intentHead.intent)
        (run.cancelFault = none ∨ UsesTransaction state.rlsPool claims s) s.requests
        s'.requests := by
  rw [triggerReapproval] at h
  obtain ⟨intentHead, s₁, hhead, h⟩ := Effect.on_bind_inv h
  rw [Effect.on_lift] at hhead
  obtain ⟨created, s₂, hreapprove, h⟩ := Effect.on_bind_inv h
  cases h
  obtain ⟨hread, rfl⟩ := Prod.mk.inj hhead
  obtain ⟨rfl, hreapproved⟩ := reapprove_ok (reapprovalHead_ok hread).2 hreapprove
  exact ⟨intentHead, hread, rfl, hreapproved⟩

end Created

end IntentRebase
