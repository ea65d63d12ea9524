import IntentRebase.Orchestrator.Rebase

/-! Replay from a stored checkpoint, named by the request or found for its workflow, and the
agreement of each plain call of the orchestrator with its transactional copy. -/

namespace IntentRebase

open Kit

structure ReplayParams where
  intentId : Uuid
  tenantId : Uuid
  workflowId : Uuid
  fromVersion : Int
  toVersion : Int
  checkpointId : Option Uuid
deriving DecidableEq, Repr

structure ReplayResult where
  intentId : Uuid
  fromVersion : Int
  toVersion : Int
  alignedCheckpointId : Option Uuid
  checkpointSelectionOutcome : String
  runtimeExecutionResult : RuntimeExecutionResult
deriving DecidableEq, Repr

namespace RebaseOrchestrator

variable {γ : Type} (o : RebaseOrchestrator γ)

/-- The checkpoint that a replay uses. -/
def replayCheckpoint (params : ReplayParams) : Except IntentRebaseError AlignedCheckpoint :=
  match params.checkpointId with
  | some id =>
    match o.checkpointService.getCheckpoint id with
    | .ok cp => return {
        checkpointId := some cp.checkpointId
        checkpoint := some cp
        outcome := .aligned
        rationale := s!"Replay using specified checkpoint {id.display}" }
    | .error _ => throw (.checkpointNotFound id)
  | none => do
    let checkpoints ← o.checkpointService.listByWorkflow params.workflowId params.tenantId
    match maxByKey Checkpoint.createdAt (checkpoints.filter fun c => c.status = .active) with
    | some cp => return {
        checkpointId := some cp.checkpointId
        checkpoint := some cp
        outcome := .closestMatch
        rationale := "Replay using most recent active checkpoint" }
    | none =>
      match checkpoints.head? with
      | some cp => return {
          checkpointId := some cp.checkpointId
          checkpoint := some cp
          outcome := .closestMatch
          rationale := "Replay using most recent checkpoint (no active)" }
      | none => return {
          checkpointId := none
          checkpoint := none
          outcome := .noCheckpointFound
          rationale := "Replay skipped: no checkpoints available" }

/-- A replay asks the runtime only when there is a checkpoint and the runtime is ready. -/
def replay (params : ReplayParams) : Effect (World γ) IntentRebaseError ReplayResult := do
  let aligned ← o.replayCheckpoint params
  let runtimeResult ←
    -- The record is there whenever its identifier is.
    match aligned.checkpoint with
    | some cp => do
      match ← o.runtimeAdapter.checkReady.attempt with
      | .ok .ready =>
        let runtimeCp : RuntimeCheckpoint := {
          id := cp.checkpointId.display
          label := s!"Replay checkpoint for intent {params.intentId.display}"
          description := s!"Replay from intent {params.intentId.display} " ++
            s!"v{params.fromVersion} to v{params.toVersion}"
          timestamp := cp.createdAt
          validated := true }
        let intentRef : IntentRef := {
          id := params.intentId.display
          tenantId := params.tenantId.display
          workflowId := params.workflowId.display
          status := "active" }
        match ← (o.runtimeAdapter.replay runtimeCp intentRef).attempt with
        | .ok _ => pure .replaySucceeded
        | .error e => pure (.degraded false true s!"Replay failed: {e.display}")
      | .ok _ => pure .skippedNotReady
      | .error _ => pure .skippedNotReady
    | none => pure .skippedNotReady
  return {
    intentId := params.intentId
    fromVersion := params.fromVersion
    toVersion := params.toVersion
    alignedCheckpointId := aligned.checkpointId
    checkpointSelectionOutcome := aligned.outcome.debug
    runtimeExecutionResult := runtimeResult }

/-- The checkpoint that a replay inside a transaction uses. -/
def replayCheckpointWithTx (sqlRepo : CheckpointReads) (params : ReplayParams) :
    Except IntentRebaseError AlignedCheckpoint :=
  match params.checkpointId with
  | some id =>
    match sqlRepo.getCheckpoint id with
    | .ok cp => return {
        checkpointId := some cp.checkpointId
        checkpoint := some cp
        outcome := .aligned
        rationale := s!"Replay using specified checkpoint {id.display}" }
    | .error _ => throw (.checkpointNotFound id)
  | none => do
    let checkpoints ← sqlRepo.listByWorkflow params.workflowId params.tenantId
    match maxByKey Checkpoint.createdAt (checkpoints.filter fun c => c.status = .active) with
    | some cp => return {
        checkpointId := some cp.checkpointId
        checkpoint := some cp
        outcome := .closestMatch
        rationale := "Replay using most recent active checkpoint" }
    | none =>
      match checkpoints.head? with
      | some cp => return {
          checkpointId := some cp.checkpointId
          checkpoint := some cp
          outcome := .closestMatch
          rationale := "Replay using most recent checkpoint (no active)" }
      | none => return {
          checkpointId := none
          checkpoint := none
          outcome := .noCheckpointFound
          rationale := "Replay skipped: no checkpoints available" }

def replayWithTx (params : ReplayParams) : Effect (World γ) IntentRebaseError ReplayResult := do
  let some sqlRepo := o.checkpointService.asSqlxRepo
    | throw (.internal "replay_with_tx requires SQL checkpoint repository")
  let aligned ← replayCheckpointWithTx sqlRepo params
  let runtimeResult ←
    match aligned.checkpoint with
    | some cp => do
      match ← o.runtimeAdapter.checkReady.attempt with
      | .ok .ready =>
        let runtimeCp : RuntimeCheckpoint := {
          id := cp.checkpointId.display
          label := s!"Replay checkpoint for intent {params.intentId.display}"
          description := s!"Replay from intent {params.intentId.display} " ++
            s!"v{params.fromVersion} to v{params.toVersion}"
          timestamp := cp.createdAt
          validated := true }
        let intentRef : IntentRef := {
          id := params.intentId.display
          tenantId := params.tenantId.display
          workflowId := params.workflowId.display
          status := "active" }
        match ← (o.runtimeAdapter.replay runtimeCp intentRef).attempt with
        | .ok _ => pure .replaySucceeded
        | .error e => pure (.degraded false true s!"Replay failed: {e.display}")
      | .ok _ => pure .skippedNotReady
      | .error _ => pure .skippedNotReady
    | none => pure .skippedNotReady
  return {
    intentId := params.intentId
    fromVersion := params.fromVersion
    toVersion := params.toVersion
    alignedCheckpointId := aligned.checkpointId
    checkpointSelectionOutcome := aligned.outcome.debug
    runtimeExecutionResult := runtimeResult }

section Agreement

variable {o} {sqlRepo : CheckpointReads}

theorem replayCheckpointWithTx_eq {params : ReplayParams}
    (h : CheckpointAligner.SameLists o.checkpointService sqlRepo params.tenantId)
    (hnamed : ∀ id, params.checkpointId = some id →
      sqlRepo.getCheckpoint id = o.checkpointService.getCheckpoint id) :
    replayCheckpointWithTx sqlRepo params = o.replayCheckpoint params := by
  rw [replayCheckpointWithTx, replayCheckpoint]
  cases hid : params.checkpointId with
  | some id =>
    dsimp only
    rw [hnamed id hid]
  | none =>
    dsimp only
    rw [h.listByWorkflow]

theorem replayWithTx_eq {params : ReplayParams}
    (h : CheckpointAligner.SameLists o.checkpointService sqlRepo params.tenantId)
    (hnamed : ∀ id, params.checkpointId = some id →
      sqlRepo.getCheckpoint id = o.checkpointService.getCheckpoint id) :
    o.replayWithTx params = o.replay params := by
  rw [replayWithTx, h.isSqlx]
  dsimp only
  rw [replayCheckpointWithTx_eq h hnamed, replay]

end Agreement

section GraphAgreement

/-- The node reached inside a transaction is read and written as the plain one is. -/
structure SameNode (graphService : GraphService γ) (sqlRepo : NodeAccess γ) (id : Uuid) : Prop where
  getNode : sqlRepo.getNode id = graphService.getNode id
  updateNodeState : ∀ state,
    sqlRepo.updateNodeState id state = graphService.updateNodeState id state

/-- The items that an update of the graph may mark. -/
def markedItems (items : AffectedItemsPreview) : List AffectedItem :=
  items.affectedArtifacts ++ items.affectedApprovals ++ items.sideEffects

variable {o} {sqlRepo : NodeAccess γ}

theorem updateNodeStateIfAffectedWithTx_eq {graphService : GraphService γ} {nodeId : Uuid}
    (hsql : graphService.asSqlxRepo = some sqlRepo) (h : SameNode graphService sqlRepo nodeId)
    (newState : NodeState) (reason : String) :
    GraphUpdater.updateNodeStateIfAffectedWithTx graphService nodeId newState reason =
      GraphUpdater.updateNodeStateIfAffected graphService nodeId newState reason := by
  rw [GraphUpdater.updateNodeStateIfAffectedWithTx, hsql]
  dsimp only
  rw [h.getNode, h.updateNodeState, GraphUpdater.updateNodeStateIfAffected]

theorem updateEachWithTx_eq {graphService : GraphService γ} {items : List AffectedItem}
    (hsql : graphService.asSqlxRepo = some sqlRepo)
    (h : ∀ item ∈ items, SameNode graphService sqlRepo item.nodeId) (newState : NodeState)
    (reason : String) :
    (items.mapM fun item =>
      GraphUpdater.updateNodeStateIfAffectedWithTx graphService item.nodeId newState reason) =
      items.mapM fun item =>
        GraphUpdater.updateNodeStateIfAffected graphService item.nodeId newState reason := by
  induction items with
  | nil => rfl
  | cons item rest ih =>
    rw [List.forall_mem_cons] at h
    rw [List.mapM_cons, List.mapM_cons, ih h.2, updateNodeStateIfAffectedWithTx_eq hsql h.1]

theorem updateGraphStateWithTx_eq (hsql : o.graphService.asSqlxRepo = some sqlRepo)
    {items : AffectedItemsPreview}
    (h : ∀ item ∈ markedItems items, SameNode o.graphService sqlRepo item.nodeId)
    (intentId tenantId : Uuid) (intentVersion : Int) :
    o.updateGraphStateWithTx items intentId tenantId intentVersion =
      o.updateGraphState items intentId tenantId intentVersion := by
  simp only [markedItems, List.forall_mem_append] at h
  obtain ⟨⟨hartifacts, happrovals⟩, hsideEffects⟩ := h
  have hdirect : ∀ item ∈ items.sideEffects.filter fun sideEffect => sideEffect.impact = .direct,
      SameNode o.graphService sqlRepo item.nodeId := fun item hitem =>
    hsideEffects item (List.mem_of_mem_filter hitem)
  rw [updateGraphStateWithTx, updateGraphState, updateEachWithTx_eq hsql hartifacts,
    updateEachWithTx_eq hsql happrovals]
  simp only [updateEachWithTx_eq hsql hdirect]

end GraphAgreement

/-- Where a transaction reads the same lists of the tenant, the same named checkpoint and the same
marked nodes as the plain repositories, each transactional call is the plain one: the same
checkpoint with the same rationale, the same replay, the same marks. -/
theorem transactional_agree {sqlCheckpoints : CheckpointReads} {sqlNodes : NodeAccess γ}
    {tenantId : Uuid}
    (hlists : CheckpointAligner.SameLists o.checkpointService sqlCheckpoints tenantId)
    (hsql : o.graphService.asSqlxRepo = some sqlNodes) :
    (∀ plan intentId workflowId,
      CheckpointAligner.alignWithTx o.checkpointService plan intentId tenantId workflowId =
        CheckpointAligner.align o.checkpointService plan intentId tenantId workflowId) ∧
    (∀ params, params.tenantId = tenantId →
      (∀ id, params.checkpointId = some id →
        sqlCheckpoints.getCheckpoint id = o.checkpointService.getCheckpoint id) →
      o.replayWithTx params = o.replay params) ∧
    ∀ items intentId intentVersion,
      (∀ item ∈ markedItems items, SameNode o.graphService sqlNodes item.nodeId) →
      o.updateGraphStateWithTx items intentId tenantId intentVersion =
        o.updateGraphState items intentId tenantId intentVersion := by
  refine ⟨CheckpointAligner.alignWithTx_eq hlists, ?_, ?_⟩
  · rintro params rfl hnamed
    exact replayWithTx_eq hlists hnamed
  · intro items intentId intentVersion hitems
    exact updateGraphStateWithTx_eq hsql hitems intentId tenantId intentVersion

section Sample

/-- An active checkpoint of a tenant and a workflow. -/
def sampleCheckpoint (checkpointId tenantId workflowId : Uuid) : Checkpoint where
  checkpointId := checkpointId
  intentId := 1
  intentVersion := 1
  workflowId := workflowId
  tenantId := tenantId
  workflowState := .emptyObject
  checkpointType := .initial
  createdAt := 0
  expiresAt := none
  status := .active
  metadata := .emptyObject

/-- One checkpoint of each of two tenants. -/
def sampleTable : CheckpointTable where
  rows := [sampleCheckpoint 10 1 5, sampleCheckpoint 11 2 6]
  nodup := by decide

/-- A runtime that takes every call. -/
def readyRuntime : RuntimeAdapter where
  isAdapterReady _ := .ok .ready
  sendRebaseSignal _ _ := .ok ()
  replayFromCheckpoint _ _ _ := .ok ()

/-- Checkpoints in a table, and a graph whose nodes a transaction reaches as the plain calls do. -/
def sampleOrchestrator : RebaseOrchestrator GraphState :=
  let nodes := InMemoryGraphRepository.service
  .new (sampleTable.repository (.id _) (some 1)) { nodes with asSqlxRepo := some nodes.toNodeAccess }
    readyRuntime

/-- A replay of tenant 1 from its checkpoint. -/
def sampleReplay : ReplayParams where
  intentId := 1
  tenantId := 1
  workflowId := 5
  fromVersion := 1
  toVersion := 2
  checkpointId := some 10

theorem transactional_agree_sample :
    sampleOrchestrator.replayWithTx sampleReplay = sampleOrchestrator.replay sampleReplay := by
  have hlists : CheckpointAligner.SameLists sampleOrchestrator.checkpointService
      (sampleTable.reads (.id _) (some 1)) 1 := CheckpointTable.sameLists
  refine (transactional_agree sampleOrchestrator hlists rfl).2.1 _ rfl ?_
  rintro id hid
  cases hid
  rfl

end Sample

end RebaseOrchestrator

end IntentRebase
