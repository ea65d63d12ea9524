import IntentRebase.Orchestrator.ApplyPipeline
import IntentRebase.Orchestrator.CheckpointAligner
import IntentRebase.Orchestrator.GraphUpdater
import IntentRebase.Orchestrator.Runtime

/-! The orchestrator's application of a rebase plan: the guard's decision first, and only behind it
the alignment, the updates of the graph and the signal to the runtime. -/

namespace IntentRebase

open Kit

def computeDiffSync (orders : VersionDiffOrders) (fromVersion toVersion : IntentVersion) :
    Except IntentRebaseError IntentVersionDiff :=
  if toVersion.versionNumber ≤ fromVersion.versionNumber then
    throw (.invalidIntentVersion (s!"to_version ({toVersion.versionNumber}) must be greater " ++
      s!"than from_version ({fromVersion.versionNumber})"))
  else if fromVersion.intentId ≠ toVersion.intentId then
    throw (.invalidIntentVersion "Cannot diff versions from different intents")
  else return diffIntentVersion orders fromVersion toVersion

def computeDiffWithRiskSync (orders : VersionDiffOrders) (fromVersion toVersion : IntentVersion) :
    Except IntentRebaseError (IntentVersionDiff × DiffRiskAnalysis) := do
  let diff ← computeDiffSync orders fromVersion toVersion
  let risk := analyzeDiff diff
  return (diff, risk)

structure RebaseApplyResult where
  outcome : ApplyOutcome
  alignedCheckpoint : Option AlignedCheckpoint
  graphUpdates : List GraphUpdateResult
  notificationRequired : Bool
  rationale : String
  runtimeExecutionResult : RuntimeExecutionResult

structure RebaseOrchestrator (γ : Type) where
  checkpointService : CheckpointRepository
  graphService : GraphService γ
  applyPipeline : ApplyPipeline
  runtimeAdapter : RuntimeAdapter

namespace RebaseOrchestrator

variable {γ : Type}

def new (checkpointService : CheckpointRepository) (graphService : GraphService γ)
    (runtimeAdapter : RuntimeAdapter) : RebaseOrchestrator γ where
  checkpointService := checkpointService
  graphService := graphService
  applyPipeline := .new
  runtimeAdapter := runtimeAdapter

variable (o : RebaseOrchestrator γ)

/-- The decision on a plan. -/
def evaluateApply (plan : RebasePlan) : ApplyDecision :=
  o.applyPipeline.evaluate plan.riskTier plan.decisionClass

/-- Artifacts, approvals and directly affected side effects are made stale, in this order. -/
def updateGraphState (affectedItems : AffectedItemsPreview) (intentId _tenantId : Uuid)
    (intentVersion : Int) : Effect γ IntentRebaseError (List GraphUpdateResult) :=
  if affectedItems.status ≠ .available then return []
  else do
    let artifacts ← affectedItems.affectedArtifacts.mapM fun artifact =>
      GraphUpdater.updateNodeStateIfAffected o.graphService artifact.nodeId .stale
        s!"Affected by intent {intentId.display} v{intentVersion}"
    let approvals ← affectedItems.affectedApprovals.mapM fun approval =>
      GraphUpdater.updateNodeStateIfAffected o.graphService approval.nodeId .stale
        s!"Approval revalidation needed for intent {intentId.display} v{intentVersion}"
    let direct := affectedItems.sideEffects.filter fun sideEffect => sideEffect.impact = .direct
    let sideEffects ← direct.mapM fun sideEffect =>
      GraphUpdater.updateNodeStateIfAffected o.graphService sideEffect.nodeId .stale
        s!"Directly affected side effect from intent {intentId.display} v{intentVersion}"
    return artifacts ++ approvals ++ sideEffects

def updateGraphStateWithTx (affectedItems : AffectedItemsPreview) (intentId _tenantId : Uuid)
    (intentVersion : Int) : Effect γ IntentRebaseError (List GraphUpdateResult) :=
  if affectedItems.status ≠ .available then return []
  else do
    let artifacts ← affectedItems.affectedArtifacts.mapM fun artifact =>
      GraphUpdater.updateNodeStateIfAffectedWithTx o.graphService artifact.nodeId .stale
        s!"Affected by intent {intentId.display} v{intentVersion}"
    let approvals ← affectedItems.affectedApprovals.mapM fun approval =>
      GraphUpdater.updateNodeStateIfAffectedWithTx o.graphService approval.nodeId .stale
        s!"Approval revalidation needed for intent {intentId.display} v{intentVersion}"
    let direct := affectedItems.sideEffects.filter fun sideEffect => sideEffect.impact = .direct
    let sideEffects ← direct.mapM fun sideEffect =>
      GraphUpdater.updateNodeStateIfAffectedWithTx o.graphService sideEffect.nodeId .stale
        s!"Directly affected side effect from intent {intentId.display} v{intentVersion}"
    return artifacts ++ approvals ++ sideEffects

/-- The signal that a rebase proceeds. -/
def proceedSignal (intentId tenantId workflowId : Uuid) (aligned : AlignedCheckpoint) :
    RebaseSignal where
  intentId := intentId.display
  signalType := "proceed"
  metadata := .object [
    ("checkpoint_id",
      match aligned.checkpointId with
      | some id => .string id.display
      | none => .null),
    ("checkpoint_outcome", .string aligned.outcome.debug),
    ("tenant_id", .string tenantId.display),
    ("workflow_id", .string workflowId.display)]

/-- A ready runtime gets the signal and, if that is taken, the checkpoint to replay from. -/
def sendRuntimeRebaseSignal (now : DateTime) (intentId tenantId workflowId : Uuid)
    (aligned : AlignedCheckpoint) :
    Effect (World γ) AdapterError RuntimeExecutionResult := do
  match ← o.runtimeAdapter.checkReady.attempt with
  | .ok .ready =>
    let signal := proceedSignal intentId tenantId workflowId aligned
    match ← (o.runtimeAdapter.signal signal).attempt with
    | .error e => return .degraded false false s!"Signal failed: {e.display}"
    | .ok _ =>
      match aligned.checkpointId with
      | some checkpointId =>
        let checkpoint : RuntimeCheckpoint := {
          id := checkpointId.display
          label := s!"Aligned checkpoint for intent {intentId.display}"
          description := aligned.rationale
          timestamp := now
          validated := true }
        let intentRef : IntentRef := {
          id := intentId.display
          tenantId := tenantId.display
          workflowId := workflowId.display
          status := "active" }
        match ← (o.runtimeAdapter.replay checkpoint intentRef).attempt with
        | .ok _ => return .succeeded
        | .error e => return .degraded true true s!"Replay failed: {e.display}"
      | none => return .noCheckpoint
  | .ok _ => return .skippedNotReady
  | .error _ => return .skippedNotReady

/-- The guard decides, and a plan that proceeds is aligned, marked in the graph and signalled. -/
def applyRebase (now : DateTime) (intentId tenantId workflowId : Uuid)
    (_fromVersion toVersion : IntentVersion) (plan : RebasePlan)
    (affectedItems : AffectedItemsPreview) :
    Effect (World γ) IntentRebaseError RebaseApplyResult :=
  match o.applyPipeline.evaluate plan.riskTier plan.decisionClass with
  | .noOp => return {
      outcome := .noOp
      alignedCheckpoint := none
      graphUpdates := []
      notificationRequired := false
      rationale := s!"{plan.riskTier.debug} risk_tier: no semantic changes detected " ++
        s!"(decision_class {plan.decisionClass.debug})"
      runtimeExecutionResult := {} }
  | .blocked reason => return {
      outcome := .blockedManualReview
      alignedCheckpoint := none
      graphUpdates := []
      notificationRequired := true
      rationale := reason
      runtimeExecutionResult := {} }
  | .proceed notification => do
    let aligned ← CheckpointAligner.align o.checkpointService plan intentId tenantId workflowId
    let graphUpdates ← World.onGraph
      (o.updateGraphState affectedItems intentId tenantId toVersion.versionNumber)
    let sent ← (o.sendRuntimeRebaseSignal now intentId tenantId workflowId aligned).attempt
    let runtimeResult : RuntimeExecutionResult :=
      match sent with
      | .ok result => result
      | .error e => .degraded false false s!"Signal failed: {e.display}"
    return {
      outcome := if notification then .autoProceededWithNotification else .autoProceeded
      alignedCheckpoint := some aligned
      graphUpdates
      notificationRequired := notification
      rationale := s!"{plan.riskTier.debug} risk_tier auto-proceeded. " ++
        s!"Checkpoint aligned: {aligned.outcome.debug}, " ++
        s!"{graphUpdates.length} graph updates applied"
      runtimeExecutionResult := runtimeResult }

/-- The plan between two versions, applied. -/
def planAndApply (orders : VersionDiffOrders) (now : DateTime) (intentId tenantId workflowId : Uuid)
    (fromVersion toVersion : IntentVersion) (affectedItems : Option AffectedItemsPreview) :
    Effect (World γ) IntentRebaseError (RebasePlan × RebaseApplyResult) := do
  let (diff, risk) ← computeDiffWithRiskSync orders fromVersion toVersion
  let plan := RebasePlan.fromDiffAndRisk diff risk
  let affected := affectedItems.getD .unavailable
  let applyResult ← o.applyRebase now intentId tenantId workflowId fromVersion toVersion plan
    affected
  return (plan, applyResult)

section Proceed

variable (now : DateTime) (intentId tenantId workflowId : Uuid)
  (fromVersion toVersion : IntentVersion)

/-- A signalled rebase never fails, and appends to the calls of the runtime at most the signal and a
replay. -/
theorem sendRuntimeRebaseSignal_on (aligned : AlignedCheckpoint) (w : World γ) :
    ∃ result sent,
      (o.sendRuntimeRebaseSignal now intentId tenantId workflowId aligned).on w =
        (.ok result, { w with calls := w.calls ++ sent }) ∧
      ∀ signal, .sendRebaseSignal signal ∈ sent →
        signal = proceedSignal intentId tenantId workflowId aligned := by
  rw [sendRuntimeRebaseSignal, Effect.on_bind_ok (Effect.on_attempt _ _),
    RuntimeAdapter.checkReady_on]
  dsimp only
  cases o.runtimeAdapter.isAdapterReady w.calls with
  | error e => exact ⟨.skippedNotReady, [], by simp, by simp⟩
  | ok status =>
    cases status with
    | initializing => exact ⟨.skippedNotReady, [], by simp, by simp⟩
    | notReady => exact ⟨.skippedNotReady, [], by simp, by simp⟩
    | ready =>
      dsimp only
      rw [Effect.on_bind_ok (Effect.on_attempt _ _), RuntimeAdapter.signal_on]
      dsimp only
      cases o.runtimeAdapter.sendRebaseSignal w.calls
          (proceedSignal intentId tenantId workflowId aligned) with
      | error e =>
        exact ⟨_, [.sendRebaseSignal (proceedSignal intentId tenantId workflowId aligned)], rfl,
          by simp⟩
      | ok u =>
        dsimp only
        cases aligned.checkpointId with
        | none =>
          exact ⟨_, [.sendRebaseSignal (proceedSignal intentId tenantId workflowId aligned)], rfl,
            by simp⟩
        | some checkpointId =>
          dsimp only
          rw [Effect.on_bind_ok (Effect.on_attempt _ _), RuntimeAdapter.replay_on]
          dsimp only
          rw [List.append_assoc]
          split
          · exact ⟨_, _, rfl, by simp⟩
          · exact ⟨_, _, rfl, by simp⟩

/-- What a decision permits: without Proceed the world stays as it is, and each signal that the
runtime has received is behind a Proceed. -/
def ActsOnlyOnProceed (decision : ApplyDecision) (w w' : World γ) : Prop :=
  ((decision = .noOp ∨ ∃ reason, decision = .blocked reason) → w' = w) ∧
  ∃ sent, w'.calls = w.calls ++ sent ∧
    ∀ signal, .sendRebaseSignal signal ∈ sent → ∃ notification, decision = .proceed notification

theorem ActsOnlyOnProceed.still (decision : ApplyDecision) (w : World γ) :
    ActsOnlyOnProceed decision w w :=
  ⟨fun _ => rfl, [], by simp, by simp⟩

/-- Behind a Proceed, an alignment or an update of the graph that fails sends nothing, and all else
ends with what the runtime is sent. -/
theorem applyRebase_acts (plan : RebasePlan) (items : AffectedItemsPreview) (w : World γ) :
    ActsOnlyOnProceed (o.evaluateApply plan) w
      ((o.applyRebase now intentId tenantId workflowId fromVersion toVersion plan items).on w).2 := by
  unfold applyRebase evaluateApply
  cases o.applyPipeline.evaluate plan.riskTier plan.decisionClass with
  | noOp => exact .still _ w
  | blocked reason => exact .still _ w
  | proceed notification =>
    refine ⟨by simp, ?_⟩
    dsimp only
    rw [Effect.on_bind, Effect.on_lift]
    cases CheckpointAligner.align o.checkpointService plan intentId tenantId workflowId with
    | error e => exact ⟨[], by simp, by simp⟩
    | ok aligned =>
      dsimp only
      rw [Effect.on_bind, World.onGraph, Effect.on_within]
      cases (o.updateGraphState items intentId tenantId toVersion.versionNumber).on w.graph with
      | mk updated graph =>
        cases updated with
        | error e => exact ⟨[], by simp, by simp⟩
        | ok graphUpdates =>
          dsimp only
          obtain ⟨result, sent, hsend, -⟩ := o.sendRuntimeRebaseSignal_on now intentId tenantId
            workflowId aligned { w with graph }
          rw [Effect.on_bind_ok (Effect.on_attempt _ _), hsend]
          exact ⟨sent, rfl, fun _ _ => ⟨notification, rfl⟩⟩

/-- Applying a plan, given or made from two versions, touches the world only if the guard lets that
very plan proceed; without a plan nothing happens at all. -/
theorem rebase_acts_only_on_proceed (w : World γ) :
    (∀ plan items, ActsOnlyOnProceed (o.evaluateApply plan) w
      ((o.applyRebase now intentId tenantId workflowId fromVersion toVersion plan items).on w).2) ∧
    ∀ orders items,
      let after := (o.planAndApply orders now intentId tenantId workflowId fromVersion toVersion
        items).on w
      (∀ e, computeDiffWithRiskSync orders fromVersion toVersion = .error e → after.2 = w) ∧
      ∀ diff risk, computeDiffWithRiskSync orders fromVersion toVersion = .ok (diff, risk) →
        ActsOnlyOnProceed (o.evaluateApply (.fromDiffAndRisk diff risk)) w after.2 ∧
        ∀ plan result, after.1 = .ok (plan, result) → plan = .fromDiffAndRisk diff risk := by
  refine ⟨fun plan items => o.applyRebase_acts now intentId tenantId workflowId fromVersion toVersion
    plan items w, fun orders items => ⟨?_, ?_⟩⟩
  · intro e he
    rw [planAndApply, Effect.on_bind, Effect.on_lift, he]
  · intro diff risk hplan
    have hacts := o.applyRebase_acts now intentId tenantId workflowId fromVersion toVersion
      (.fromDiffAndRisk diff risk) (items.getD .unavailable) w
    rw [planAndApply, Effect.on_bind, Effect.on_lift, hplan]
    dsimp only
    rw [Effect.on_bind]
    cases happly : (o.applyRebase now intentId tenantId workflowId fromVersion toVersion
        (.fromDiffAndRisk diff risk) (items.getD .unavailable)).on w with
    | mk outcome w' =>
      rw [happly] at hacts
      cases outcome with
      | error e => exact ⟨hacts, by simp⟩
      | ok applied => exact ⟨hacts, by simp +contextual⟩

end Proceed

end RebaseOrchestrator

end IntentRebase
