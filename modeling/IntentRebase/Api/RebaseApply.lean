import IntentRebase.Api.ApprovalInvalidation
import IntentRebase.Api.Replay
import IntentRebase.Engine.ApprovalRevalidation
import IntentRebase.Webhook.Dispatch

/-! The handler that applies a rebase: it plans, lets the orchestrator decide and act, signals the
downstream systems of a rebase that proceeds, and asks for an approval of one that is blocked. The
new request and the cancellation of older approvals are written in a transaction of the token's
tenant where there is one, and else, or if that fails, one call after the other. -/

namespace IntentRebase

open Kit

structure DiffRequest where
  fromVersion : Int
  toVersion : Int
deriving DecidableEq, Repr

structure CompensationPlanningSummary where
  ready : Bool
  potentialActions : List PotentialCompensation
  hasIrreversibleEffects : Bool
  rationale : Option String

def CompensationPlanningSummary.ofReadiness (readiness : CompensationReadiness) :
    CompensationPlanningSummary where
  ready := readiness.ready
  potentialActions := readiness.potentialActions
  hasIrreversibleEffects := readiness.hasIrreversibleEffects
  rationale := readiness.rationale

structure RebaseApplyResponse where
  intentId : Uuid
  fromVersion : IntentVersion
  toVersion : IntentVersion
  decisionClass : DecisionClass
  riskTier : RiskTier
  riskLevel : Nat
  outcome : String
  manualReviewRequired : Bool
  notificationRequired : Bool
  rationale : String
  alignedCheckpointId : Option Uuid
  checkpointAlignmentOutcome : Option String
  runtimeExecutionStatus : String
  signalSent : Bool
  replayAttempted : Bool
  replayCompleted : Bool
  graphUpdatesApplied : Nat
  graphUpdatesFailed : Nat
  compensationPlanning : CompensationPlanningSummary

def buildRebaseApplyResponse (intentId : Uuid) (fromVersion toVersion : IntentVersion)
    (plan : RebasePlan) (applyResult : RebaseApplyResult) : RebaseApplyResponse where
  intentId := intentId
  fromVersion := fromVersion
  toVersion := toVersion
  decisionClass := plan.decisionClass
  riskTier := plan.riskTier
  riskLevel := plan.riskLevel
  outcome := applyOutcomeLabel applyResult.outcome
  manualReviewRequired := applyResult.outcome = .blockedManualReview
  notificationRequired := applyResult.notificationRequired
  rationale := applyResult.rationale
  alignedCheckpointId := applyResult.alignedCheckpoint.bind AlignedCheckpoint.checkpointId
  checkpointAlignmentOutcome :=
    applyResult.alignedCheckpoint.map fun checkpoint => checkpointAlignmentLabel checkpoint.outcome
  runtimeExecutionStatus := runtimeExecutionStatusLabel applyResult.runtimeExecutionResult.status
  signalSent := applyResult.runtimeExecutionResult.signalSent
  replayAttempted := applyResult.runtimeExecutionResult.replayAttempted
  replayCompleted := applyResult.runtimeExecutionResult.replayCompleted
  graphUpdatesApplied := (applyResult.graphUpdates.filter fun update => update.success).length
  graphUpdatesFailed := (applyResult.graphUpdates.filter fun update => !update.success).length
  compensationPlanning := .ofReadiness plan.deferred.compensation

/-- The failures that the calls on approval requests meet: in a transaction of the tenant, and one
by one. -/
structure ApprovalFaults where
  beginFault : Option String
  txCreateFault : Option String
  txListFault : Option IntentRebaseError
  txTargetedFault : Option String
  txFlatFault : Option String
  commitFault : Option (Fault String)
  createFault : Option (Fault IntentRebaseError)
  listFault : Option IntentRebaseError
  targetedFault : Option (Fault IntentRebaseError)
  flatFault : Option (Fault IntentRebaseError)

/-- No call on approval requests fails. -/
def ApprovalFaults.quiet : ApprovalFaults where
  beginFault := none
  txCreateFault := none
  txListFault := none
  txTargetedFault := none
  txFlatFault := none
  commitFault := none
  createFault := none
  listFault := none
  targetedFault := none
  flatFault := none

/-- What the calls on approval requests draw: the identifier, the times, and the orders in which
rows are read. -/
structure ApprovalDraws where
  id : Uuid
  createdAt : DateTime
  txScan : IterOrder ApprovalRequest
  txTargetedAt : DateTime
  txFlatAt : DateTime
  scan : IterOrder ApprovalRequest
  targetedAt : DateTime
  flatAt : DateTime

/-- The classifier is used where there are graph data that list approvals. -/
def RebasePlan.usesClassifier (plan : RebasePlan) : Bool :=
  plan.affectedItems.status = .available && !plan.affectedItems.affectedApprovals.isEmpty

/-- The actor of the handler. -/
def rebaseApplyActor : String := "external-api/unknown"

section Review

variable (parseStr : String → Except String Uuid) (faults : ApprovalFaults)
  (draws : ApprovalDraws) (plan : RebasePlan) (intentId tenantId : Uuid)

section InTransaction

variable (rlsTenantId : Uuid) (cancellationReason : String)

/-- The approved requests of the intent are cancelled in the transaction. -/
def flatCancelWithTx (tx : Transaction SqlxApprovalRequestRepository) :
    Nat × Transaction SqlxApprovalRequestRepository :=
  match SqlxApprovalRequestRepository.cancelApprovedByIntentWithTx rlsTenantId faults.txFlatFault
      draws.txFlatAt intentId tenantId rebaseApplyActor cancellationReason tx with
  | (.ok count, tx) => (count, tx)
  | (.error _, tx) => (0, tx)

/-- The approved requests that the classifier calls stale are cancelled in the transaction; all
those of the intent, if it calls none so or one of them was not approved. The requests are listed
outside the transaction. -/
def cancelWithTx (repo : SqlxApprovalRequestRepository)
    (tx : Transaction SqlxApprovalRequestRepository) :
    Nat × Transaction SqlxApprovalRequestRepository :=
  let flat := flatCancelWithTx faults draws intentId tenantId rlsTenantId cancellationReason
  if plan.usesClassifier then
    match faults.txListFault with
    | some _ => flat tx
    | none =>
      let currentApprovals := repo.listByIntent draws.txScan intentId tenantId
      let currentApprovalIds := currentApprovals.map fun a => a.id.display
      let classification := classifyApprovals plan currentApprovalIds
      if !classification.staleIds.isEmpty then
        let parsedIds := parseIds parseStr classification.staleIds
        if !parsedIds.isEmpty then
          match SqlxApprovalRequestRepository.cancelApprovedByIdsWithTx rlsTenantId
              faults.txTargetedFault draws.txTargetedAt parsedIds tenantId rebaseApplyActor
              cancellationReason tx with
          | (.ok count, tx) =>
            if count < classification.staleIds.length then
              let (flatCount, tx) := flat tx
              (count + flatCount, tx)
            else (count, tx)
          | (.error _, tx) => flat tx
        else flat tx
      else flat tx
  else flat tx

end InTransaction

/-- The request and the cancellations in a transaction of the tenant. -/
def createAndCancelWithTx (rlsTenantId : Uuid) (request : ApprovalRequest)
    (repo : SqlxApprovalRequestRepository) (tx : Transaction SqlxApprovalRequestRepository) :
    Except IntentRebaseError (ApprovalRequest × Nat) ×
      Transaction SqlxApprovalRequestRepository :=
  match SqlxApprovalRequestRepository.createApprovalRequestWithTx rlsTenantId
      faults.txCreateFault request tx with
  | (.error e, tx) => (.error e, tx)
  | (.ok created, tx) =>
    let cancellationReason :=
      s!"Superseded by new approval request {created.id.display} due to rebase apply"
    let (count, tx) := cancelWithTx parseStr faults draws plan intentId tenantId rlsTenantId
      cancellationReason repo tx
    (.ok (created, count), tx)

/-- The cancellations after the request, one call after the other. -/
def cancelAfter (created : ApprovalRequest) (s : ApprovalStorage) : ApprovalStorage :=
  let flat (s : ApprovalStorage) : ApprovalStorage :=
    (cancelExistingApprovedAndAudit faults.flatFault draws.flatAt intentId tenantId
      rebaseApplyActor created.id s).2
  if plan.usesClassifier then
    match faults.listFault with
    | some _ => flat s
    | none =>
      let currentApprovals := s.listByIntent draws.scan intentId tenantId
      let currentApprovalIds := currentApprovals.map fun a => a.id.display
      let classification := classifyApprovals plan currentApprovalIds
      if !classification.staleIds.isEmpty then
        let (cancelledCount, s) := cancelSpecificApprovedAndAudit faults.targetedFault
          draws.targetedAt parseStr classification.staleIds {
            intentId
            tenantId
            actorId := rebaseApplyActor
            newApprovalId := created.id } s
        if cancelledCount < classification.staleIds.length then flat s else s
      else flat s
  else flat s

/-- The request and the cancellations, on a best-effort basis. -/
def createAndCancel (request : ApprovalRequest) (s : ApprovalStorage) : ApprovalStorage :=
  match Fault.meet faults.createFault s (s.createApprovalRequest request) with
  | (.ok created, s) => cancelAfter parseStr faults draws plan intentId tenantId created s
  | (.error _, s) => s

/-- A blocked apply asks for an approval: in a transaction of the tenant, and without one or if that
fails, on a best-effort basis. -/
def requestReview (rlsPool : Bool) (claims : Option RlsTenantClaims) (request : ApprovalRequest)
    (s : ApprovalStorage) : ApprovalStorage :=
  let fallback := createAndCancel parseStr faults draws plan intentId tenantId request
  match claims, s with
  | some rlsClaims, .sqlx repo =>
    if rlsPool then
      match inTenant rlsClaims.tenantId faults.beginFault faults.commitFault
          (createAndCancelWithTx parseStr faults draws plan intentId tenantId rlsClaims.tenantId
            request repo) repo with
      | (.ok _, repo) => .sqlx repo
      | (.error _, repo) => fallback (.sqlx repo)
    else fallback (.sqlx repo)
  | _, s => fallback s

end Review

section Propagation

variable {ρ : Type}

/-- The webhooks that are sent after a signal, where their delivery is enabled. -/
structure WebhookDelivery where
  resolver : WebhookSubscriptionResolver
  timeText : DateTime → String
  env : Nat → DispatchEnv Unit

/-- What the signals to downstream systems use. -/
structure PropagationSignals (ρ : Type) where
  repo : PropagationRecordRepository ρ
  clock : Nat → DateTime
  delivery : Option WebhookDelivery

/-- Each record is set to pending with the new version, unless that fails. -/
def signalRecords (signals : PropagationSignals ρ) (tenantId : Uuid) (toVersion : Int32) :
    Nat → List PropagationRecord → ρ → ρ
  | _, [], s => s
  | n, record :: rest, s =>
    signalRecords signals tenantId toVersion (n + 1) rest
      (signals.repo.updateStatus s (signals.clock n) record.id tenantId .pending toVersion).2

/-- The signals after an apply, which never fail it. -/
def createPropagationSignalsAfterApply (signals : Option (PropagationSignals ρ))
    (intentId tenantId : Uuid) (toVersion : Int32) (s : ρ) : ρ :=
  match signals with
  | none => s
  | some signals =>
    match signals.repo.listByIntent s intentId tenantId with
    | .error _ => s
    | .ok records =>
      if records.isEmpty then s
      else
        let s := signalRecords signals tenantId toVersion 0 records s
        match signals.delivery with
        | none => s
        | some delivery =>
          let call : DispatchCall ρ Unit Unit := {
            repo := signals.repo
            resolver := delivery.resolver
            tenantId
            intentId
            version := toVersion
            outboxRepo := none
            timeText := delivery.timeText
            env := delivery.env }
          (call.dispatchWebhooksForIntentWithOutbox ⟨s, ()⟩).2.propagation

end Propagation

/-- The world of the orchestrator, the approval requests and the propagation records. -/
structure RebaseApplyWorld (γ ρ : Type) where
  world : World γ
  approvals : ApprovalStorage
  propagation : ρ

/-- What the handler uses of the state of the application. The preview of the service searches the
graph. -/
structure RebaseApplyState (γ ρ : Type) where
  service : IntentStore
  computeRebasePreviewWithGraph : γ → Uuid → Int → Int → Except IntentRebaseError RebasePlan
  orchestrator : RebaseOrchestrator γ
  rlsPool : Bool
  signals : Option (PropagationSignals ρ)

/-- The failures of the transactions of a rebase that proceeds. -/
structure ProceedFaults where
  readBeginFault : Option IntentRebaseError
  readCommitFault : Option String
  writeBeginFault : Option IntentRebaseError
  writeCommitFault : Option (Fault String)

def ProceedFaults.quiet : ProceedFaults where
  readBeginFault := none
  readCommitFault := none
  writeBeginFault := none
  writeCommitFault := none

/-- What a call of the handler draws and meets. -/
structure RebaseApplyRun where
  now : DateTime
  approvalFaults : ApprovalFaults
  draws : ApprovalDraws
  proceedFaults : ProceedFaults

/-- A transaction of the tenant begins. -/
def beginWithTenant (tenantId : Uuid) (fault : Option IntentRebaseError) :
    Except IntentRebaseError Unit :=
  match validateTenantIdForRls tenantId with
  | .error e => .error (.internal s!"invalid tenant_id for RLS: {e}")
  | .ok _ =>
    match fault with
    | some e => .error e
    | none => .ok ()

/-- A rebase that proceeds in transactions of the tenant, with the updates of the graph that are made
in the second. -/
def proceedWith {γ ρ : Type} (write : Effect γ IntentRebaseError (List GraphUpdateResult))
    (state : RebaseApplyState γ ρ) (run : RebaseApplyRun) (intentId : Uuid)
    (rlsClaims : RlsTenantClaims) (intent : Intent) (plan : RebasePlan) (notification : Bool) :
    Effect (World γ) IntentRebaseError RebaseApplyResult := do
  let o := state.orchestrator
  beginWithTenant rlsClaims.tenantId run.proceedFaults.readBeginFault
  let aligned ← CheckpointAligner.alignWithTx o.checkpointService plan intentId intent.tenantId
    intent.workflowId
  if let some e := run.proceedFaults.readCommitFault then
    throw (.storageError s!"failed to commit read-only tx: {e}")
  beginWithTenant rlsClaims.tenantId run.proceedFaults.writeBeginFault
  let graphUpdates ← World.onGraph write
  let sent ← (o.sendRuntimeRebaseSignal run.now intentId intent.tenantId intent.workflowId
    aligned).attempt
  let runtimeResult : RuntimeExecutionResult :=
    match sent with
    | .ok result => result
    | .error e => .degraded false false s!"Signal failed: {e.display}"
  return {
    outcome := if notification then .autoProceededWithNotification else .autoProceeded
    alignedCheckpoint := some aligned
    graphUpdates
    notificationRequired := notification
    rationale := s!"{plan.riskTier.debug} risk_tier auto-proceeded. " ++
      s!"Checkpoint aligned: {aligned.outcome.debug}, " ++
      s!"{graphUpdates.length} graph updates applied"
    runtimeExecutionResult := runtimeResult }

section Handler

variable {γ ρ : Type} (parseStr : String → Except String Uuid) (state : RebaseApplyState γ ρ)
  (run : RebaseApplyRun) (intentId : Uuid) (request : DiffRequest)

/-- The updates of the graph in a transaction, which is dropped on an error. -/
def inWriteTransaction {α : Type} (commitFault : Option (Fault String))
    (call : Effect γ IntentRebaseError α) : Effect γ IntentRebaseError α := fun graph =>
  match call.on graph with
  | (.error e, _) => (.error e, graph)
  | (.ok a, graph') =>
    match Fault.meet commitFault graph (.ok (), graph') with
    | (.ok _, graph) => (.ok a, graph)
    | (.error e, graph) => (.error (.storageError s!"failed to commit write tx: {e}"), graph)

theorem inWriteTransaction_run {α : Type} (commitFault : Option (Fault String))
    (call : Effect γ IntentRebaseError α) (graph : γ) :
    (inWriteTransaction commitFault call).on graph =
      match call.on graph with
      | (.error e, _) => (.error e, graph)
      | (.ok a, graph') =>
        match Fault.meet commitFault graph (.ok (), graph') with
        | (.ok _, graph) => (.ok a, graph)
        | (.error e, graph) => (.error (.storageError s!"failed to commit write tx: {e}"), graph) :=
  rfl

/-- A rebase that proceeds, in transactions of the tenant: the alignment in one, the updates of the
graph in another, and the signal to the runtime after them. -/
def proceedInTransactions (rlsClaims : RlsTenantClaims) (intent : Intent)
    (toVersion : IntentVersion) (plan : RebasePlan) (notification : Bool) :
    Effect (World γ) IntentRebaseError RebaseApplyResult :=
  proceedWith (inWriteTransaction run.proceedFaults.writeCommitFault
    (state.orchestrator.updateGraphStateWithTx plan.affectedItems intentId intent.tenantId
      toVersion.versionNumber)) state run intentId rlsClaims intent plan notification

/-- The plan is applied: by the orchestrator, and in transactions if it proceeds with a pool and
claims. -/
def applyPlan (claims : Option RlsTenantClaims) (intent : Intent)
    (fromVersion toVersion : IntentVersion) (plan : RebasePlan) :
    Effect (World γ) IntentRebaseError RebaseApplyResult :=
  let plain := state.orchestrator.applyRebase run.now intentId intent.tenantId intent.workflowId
    fromVersion toVersion plan plan.affectedItems
  match claims with
  | none => plain
  | some rlsClaims =>
    if state.rlsPool then
      match state.orchestrator.evaluateApply plan with
      | .proceed notification =>
        proceedInTransactions state run intentId rlsClaims intent toVersion plan notification
      | .noOp => plain
      | .blocked _ => plain
    else plain

/-- The request for an approval of a blocked apply. -/
def reviewRequest (intent : Intent) (plan : RebasePlan) (applyResult : RebaseApplyResult) :
    ApprovalRequest :=
  .newPending run.draws.id run.draws.createdAt intentId request.fromVersion request.toVersion
    intent.workflowId intent.tenantId rebaseApplyActor "external-api" plan.decisionClass.debug
    applyResult.rationale

/-- What follows an applied plan: signals if it proceeded, a request for an approval if it is
blocked. -/
def afterApply (claims : Option RlsTenantClaims) (intent : Intent) (toVersion : IntentVersion)
    (plan : RebasePlan) (applyResult : RebaseApplyResult) (w : RebaseApplyWorld γ ρ) :
    RebaseApplyWorld γ ρ :=
  match applyResult.outcome with
  | .noOp => w
  | .autoProceeded | .autoProceededWithNotification =>
    { w with
      propagation := createPropagationSignalsAfterApply state.signals intentId intent.tenantId
        (Int32.ofInt toVersion.versionNumber) w.propagation }
  | .blockedManualReview =>
    { w with
      approvals := requestReview parseStr run.approvalFaults run.draws plan intentId
        intent.tenantId state.rlsPool claims (reviewRequest run intentId request intent plan
          applyResult) w.approvals }

/-- The handler once the token's tenant is known to own the intent. -/
def rebaseApplyOwned (claims : Option RlsTenantClaims) (intentHead : IntentHeadResponse) :
    Effect (RebaseApplyWorld γ ρ) IntentRebaseError (StatusCode × RebaseApplyResponse) := do
  let fromVersion ← state.service.getVersion intentId request.fromVersion
  let toVersion ← state.service.getVersion intentId request.toVersion
  let w ← get
  let plan ← state.computeRebasePreviewWithGraph w.world.graph intentId request.fromVersion
    request.toVersion
  let applyResult ← (applyPlan state run intentId claims intentHead.intent fromVersion toVersion
    plan).within RebaseApplyWorld.world fun world w => { w with world }
  modify (afterApply parseStr state run intentId request claims intentHead.intent toVersion plan
    applyResult)
  return (applyStatusCode applyResult.outcome,
    buildRebaseApplyResponse intentId fromVersion toVersion plan applyResult)

def rebaseApply (claims : Option RlsTenantClaims) :
    Effect (RebaseApplyWorld γ ρ) IntentRebaseError (StatusCode × RebaseApplyResponse) := do
  let intentHead ← state.service.getIntentHead intentId
  if let some rlsClaims := claims then
    if intentHead.intent.tenantId ≠ rlsClaims.tenantId then
      throw (.unauthorized (intentTenantMismatch rlsClaims.tenantId intentHead.intent.tenantId))
  rebaseApplyOwned parseStr state run intentId request claims intentHead

/-- The handler of the build without tokens, which acts as on a call without claims. -/
def rebaseApplyWithoutJwt :
    Effect (RebaseApplyWorld γ ρ) IntentRebaseError (StatusCode × RebaseApplyResponse) :=
  rebaseApply parseStr state run intentId request none

/-- The reads that come before a plan is applied: the head of an intent of the token's tenant, both
versions and the preview. -/
structure PlannedApply (claims : Option RlsTenantClaims) (graph : γ)
    (intentHead : IntentHeadResponse) (fromVersion toVersion : IntentVersion) (plan : RebasePlan) : Prop where
  head : state.service.getIntentHead intentId = .ok intentHead
  tenant : ∀ rlsClaims, claims = some rlsClaims → rlsClaims.tenantId = intentHead.intent.tenantId
  before : state.service.getVersion intentId request.fromVersion = .ok fromVersion
  after : state.service.getVersion intentId request.toVersion = .ok toVersion
  preview : state.computeRebasePreviewWithGraph graph intentId request.fromVersion
    request.toVersion = .ok plan

variable (claims : Option RlsTenantClaims) (w : RebaseApplyWorld γ ρ)

/-- The outcome of a call whose plan is applied. -/
def appliedOutcome (intentHead : IntentHeadResponse) (fromVersion toVersion : IntentVersion)
    (plan : RebasePlan) :
    Except IntentRebaseError (StatusCode × RebaseApplyResponse) × RebaseApplyWorld γ ρ :=
  match (applyPlan state run intentId claims intentHead.intent fromVersion toVersion plan).on
      w.world with
  | (.ok applyResult, world) =>
    (.ok (applyStatusCode applyResult.outcome,
        buildRebaseApplyResponse intentId fromVersion toVersion plan applyResult),
      afterApply parseStr state run intentId request claims intentHead.intent toVersion plan
        applyResult { w with world })
  | (.error e, world) => (.error e, { w with world })

variable {parseStr state run intentId request claims w} {intentHead : IntentHeadResponse}
  {fromVersion toVersion : IntentVersion} {plan : RebasePlan}

theorem rebaseApplyOwned_planned
    (h : PlannedApply state intentId request claims w.world.graph intentHead fromVersion toVersion
      plan) :
    (rebaseApplyOwned parseStr state run intentId request claims intentHead).on w =
      appliedOutcome parseStr state run intentId request claims w intentHead fromVersion toVersion
        plan := by
  rw [rebaseApplyOwned, h.before, Effect.on_bind_ok (Effect.on_lift w _), h.after,
    Effect.on_bind_ok (Effect.on_lift w _), Effect.on_bind_ok (Effect.on_get w), h.preview,
    Effect.on_bind_ok (Effect.on_lift w _), Effect.on_bind, Effect.on_within, appliedOutcome]
  cases (applyPlan state run intentId claims intentHead.intent fromVersion toVersion plan).on
      w.world with
  | mk answer world =>
    cases answer with
    | error e => rfl
    | ok applyResult => rfl

/-- A call whose reads succeed ends as the application of the plan does. -/
theorem rebaseApply_planned
    (h : PlannedApply state intentId request claims w.world.graph intentHead fromVersion toVersion
      plan) :
    (rebaseApply parseStr state run intentId request claims).on w =
      appliedOutcome parseStr state run intentId request claims w intentHead fromVersion toVersion
        plan := by
  rw [← rebaseApplyOwned_planned h]
  unfold rebaseApply
  rw [h.head, Effect.on_bind_ok (Effect.on_lift w _)]
  cases claims with
  | none => rfl
  | some rlsClaims =>
    dsimp only
    rw [if_neg (not_not.mpr (h.tenant rlsClaims rfl).symm)]

theorem rebaseApplyOwned_refused_or_planned
    (hhead : state.service.getIntentHead intentId = .ok intentHead)
    (htenant : ∀ rlsClaims, claims = some rlsClaims →
      rlsClaims.tenantId = intentHead.intent.tenantId) :
    (∃ e, (rebaseApplyOwned parseStr state run intentId request claims intentHead).on w =
      (.error e, w)) ∨
    ∃ fromVersion toVersion plan,
      PlannedApply state intentId request claims w.world.graph intentHead fromVersion toVersion
        plan := by
  rw [rebaseApplyOwned, Effect.on_bind, Effect.on_lift]
  cases hbefore : state.service.getVersion intentId request.fromVersion with
  | error e => exact .inl ⟨e, rfl⟩
  | ok fromVersion =>
    dsimp only
    rw [Effect.on_bind, Effect.on_lift]
    cases hafter : state.service.getVersion intentId request.toVersion with
    | error e => exact .inl ⟨e, rfl⟩
    | ok toVersion =>
      dsimp only
      rw [Effect.on_bind_ok (Effect.on_get w), Effect.on_bind, Effect.on_lift]
      cases hplan : state.computeRebasePreviewWithGraph w.world.graph intentId request.fromVersion
          request.toVersion with
      | error e => exact .inl ⟨e, rfl⟩
      | ok plan =>
        exact .inr ⟨fromVersion, toVersion, plan, ⟨hhead, htenant, hbefore, hafter, hplan⟩⟩

variable (parseStr state run intentId request claims w) in
/-- A call is refused before the plan is applied, or its reads succeed. -/
theorem rebaseApply_refused_or_planned :
    (∃ e, (rebaseApply parseStr state run intentId request claims).on w = (.error e, w)) ∨
    ∃ intentHead fromVersion toVersion plan,
      PlannedApply state intentId request claims w.world.graph intentHead fromVersion toVersion
        plan := by
  unfold rebaseApply
  rw [Effect.on_bind, Effect.on_lift]
  cases hhead : state.service.getIntentHead intentId with
  | error e => exact .inl ⟨e, rfl⟩
  | ok intentHead =>
    dsimp only
    cases claims with
    | none =>
      refine (rebaseApplyOwned_refused_or_planned hhead ?_).imp id fun h => ⟨intentHead, h⟩
      rintro _ ⟨⟩
    | some rlsClaims =>
      dsimp only
      by_cases htenant : intentHead.intent.tenantId = rlsClaims.tenantId
      · rw [if_neg (not_not.mpr htenant)]
        refine (rebaseApplyOwned_refused_or_planned hhead ?_).imp id fun h => ⟨intentHead, h⟩
        rintro _ ⟨⟩
        exact htenant.symm
      · rw [if_pos htenant]
        exact .inl ⟨_, rfl⟩

/-- A call that is answered as accepted has planned, and has asked for a review of the plan. -/
theorem rebaseApply_accepted {w' : RebaseApplyWorld γ ρ} {response : RebaseApplyResponse}
    (h : (rebaseApply parseStr state run intentId request claims).on w =
      (.ok (.accepted, response), w')) :
    ∃ intentHead fromVersion toVersion plan applyResult,
      PlannedApply state intentId request claims w.world.graph intentHead fromVersion toVersion
        plan ∧
      w'.approvals = requestReview parseStr run.approvalFaults run.draws plan intentId
        intentHead.intent.tenantId state.rlsPool claims
        (reviewRequest run intentId request intentHead.intent plan applyResult) w.approvals := by
  rcases rebaseApply_refused_or_planned parseStr state run intentId request claims w with
    ⟨e, hrefused⟩ | ⟨intentHead, fromVersion, toVersion, plan, hplanned⟩
  · cases h.symm.trans hrefused
  · rw [rebaseApply_planned hplanned, appliedOutcome] at h
    split at h
    · next applyResult world happlied =>
      simp only [Prod.mk.injEq, Except.ok.injEq] at h
      obtain ⟨⟨hstatus, -⟩, rfl⟩ := h
      refine ⟨intentHead, fromVersion, toVersion, plan, applyResult, hplanned, ?_⟩
      rw [afterApply, applyStatusCode_eq_accepted.mp hstatus]
    · cases h

/-- What the application of a blocked plan answers. -/
def blockedResult (reason : String) : RebaseApplyResult where
  outcome := .blockedManualReview
  alignedCheckpoint := none
  graphUpdates := []
  notificationRequired := true
  rationale := reason
  runtimeExecutionResult := {}

/-- A blocked plan is applied without touching the world of the orchestrator. -/
theorem applyPlan_blocked {reason : String}
    (h : state.orchestrator.evaluateApply plan = .blocked reason) (world : World γ) :
    (applyPlan state run intentId claims intentHead.intent fromVersion toVersion plan).on world =
      (.ok (blockedResult reason), world) := by
  have hplain : (state.orchestrator.applyRebase run.now intentId intentHead.intent.tenantId
      intentHead.intent.workflowId fromVersion toVersion plan plan.affectedItems).on world =
        (.ok (blockedResult reason), world) := by
    rw [RebaseOrchestrator.applyRebase, ← RebaseOrchestrator.evaluateApply, h]
    rfl
  unfold applyPlan
  dsimp only
  rw [h]
  split
  · exact hplain
  · split <;> exact hplain

variable (parseStr run) in
/-- A blocked apply is answered as accepted, after a review of it was asked for. -/
theorem rebaseApply_blocked {reason : String}
    (h : PlannedApply state intentId request claims w.world.graph intentHead fromVersion toVersion
      plan)
    (hblocked : state.orchestrator.evaluateApply plan = .blocked reason) :
    ∃ response, (rebaseApply parseStr state run intentId request claims).on w =
      (.ok (.accepted, response), { w with
        approvals := requestReview parseStr run.approvalFaults run.draws plan intentId
          intentHead.intent.tenantId state.rlsPool claims
          (reviewRequest run intentId request intentHead.intent plan (blockedResult reason))
          w.approvals }) := by
  rw [rebaseApply_planned h, appliedOutcome, applyPlan_blocked hblocked]
  exact ⟨_, rfl⟩

end Handler

end IntentRebase
