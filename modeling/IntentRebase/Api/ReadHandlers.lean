import IntentRebase.Api.Auth
import IntentRebase.Compensation.ActionQueries
import IntentRebase.Compensation.Simulator
import IntentRebase.Forensic.BundleService
import IntentRebase.Intent.RebasePreview

/-! The handlers that only read: of the graph, of side effects, compensation actions and runs, the
impact report, the simulation of a rebase, and the bundles. -/

namespace IntentRebase

open Kit

/-- The transactions of a tenant that read bundles, where there is a pool and an SQL repository. -/
structure BundleTransactions where
  beginFault : Option String
  commitFault : Option String
  listByTenantWithTx : Uuid → Uuid → Option Nat → Except IntentRebaseError (List ForensicBundle)
  getWithTx : Uuid → Uuid → Except IntentRebaseError ForensicBundle

/-- What the services of a state answer to the queries of the handlers. -/
structure Reads where
  listNodes : GraphNodeFilter → Except IntentRebaseError (List GraphNode)
  getNode : Uuid → Except IntentRebaseError GraphNode
  listEdges : GraphEdgeFilter → Except IntentRebaseError (List GraphEdge)
  listEdgesFrom : Uuid → Except IntentRebaseError (List GraphEdge)
  getIntentHead : Uuid → Except IntentRebaseError IntentHeadResponse
  computeRebasePreviewWithGraph : Uuid → Int → Int → Option (Except IntentRebaseError RebasePlan)
  listSideEffectsByIntent : Uuid → Uuid → Except IntentRebaseError (List SideEffect)
  listActionsByTenant : Uuid → Except IntentRebaseError (List CompensationAction)
  listActionsByIntent : Uuid → Uuid → Except IntentRebaseError (List CompensationAction)
  listActionsByStatus :
    Uuid → CompensationStatus → Except IntentRebaseError (List CompensationAction)
  getRun : Uuid → Except IntentRebaseError OrchestrationRun
  listBundles : Uuid → Option Nat → Except IntentRebaseError (List ForensicBundle)
  getBundle : Uuid → Except IntentRebaseError ForensicBundle
  bundleText : Uuid → Uuid → Except BundleStorageError String
  bundleTransactions : Option BundleTransactions

/-- The time, and what a simulation draws. -/
structure ReadMoment where
  now : DateTime
  nanos : UInt64
  fresh : SideEffect → Uuid

structure ListGraphNodesQuery where
  tenantId : Option Uuid
  workflowId : Option Uuid
  nodeType : Option NodeType

structure ListGraphEdgesQuery where
  tenantId : Option Uuid
  workflowId : Option Uuid
  fromNodeId : Option Uuid
  edgeType : Option EdgeType

structure ImpactReportQuery where
  tenantId : Uuid
  fromVersion : Int
  toVersion : Int

structure RebaseSimulationQuery where
  tenantId : Uuid
  fromVersion : Int
  toVersion : Int
  mode : Option String
  seed : Option UInt64

structure ListSideEffectsResponse where
  sideEffects : List SideEffect
  total : Nat

structure ListCompensationActionsResponse where
  compensationActions : List CompensationAction
  total : Nat

structure ListDlqCandidatesResponse where
  dlqCandidates : List CompensationAction
  total : Nat

structure BatchCandidatesSummary where
  pendingApprovalCount : Nat
  approvedServiceExecutableCount : Nat
  retryableFailedCount : Nat
  dlqCount : Nat

structure ListBatchCandidatesResponse where
  candidates : BatchCandidates
  summary : BatchCandidatesSummary

structure CompensationPolicyGateResponse where
  tenantId : Uuid
  intentId : Option Uuid
  result : PolicyGateEvaluationResult

structure OrchestrationCoordinationResponse where
  tenantId : Uuid
  intentId : Option Uuid
  result : CoordinationResult

structure ImpactTrigger where
  riskTier : String
  decisionClass : String

structure ImpactScope where
  affectedArtifactsCount : Nat
  affectedApprovalsCount : Nat
  affectedSideEffectsCount : Nat

structure ImpactInvalidation where
  invalidatedArtifactsCount : Nat
  invalidatedApprovalsCount : Nat

structure ImpactCompensation where
  totalActions : Nat
  eligibleCount : Nat
  blockedCount : Nat
  manualReviewRequiredCount : Nat
  dlqCandidateCount : Nat

structure SafetyGateSummary where
  openGates : Nat
  blockedGates : Nat
  manualReviewGates : Nat

structure ImpactProvenance where
  generatedAt : DateTime
  fromVersion : Int
  toVersion : Int

structure ImpactReportResponse where
  intentId : Uuid
  tenantId : Uuid
  trigger : ImpactTrigger
  scope : ImpactScope
  invalidation : ImpactInvalidation
  compensation : ImpactCompensation
  safetyGates : SafetyGateSummary
  provenance : ImpactProvenance
  unsupportedItems : List String

structure ListForensicBundlesResponse where
  bundles : List ForensicBundleSummary
  total : Nat

structure BundleDownload where
  contentType : String
  contentDisposition : String
  body : String

/-- The message that rejects a token of another tenant than the query's. -/
def queryTenantMismatch (jwtTenantId tenantId : Uuid) : String :=
  s!"Tenant mismatch: JWT tenant_id ({jwtTenantId.display}) does not match query tenant_id " ++
    s!"({tenantId.display})"

/-- The message that rejects an intent of another tenant than the query's. -/
def reportTenantMismatch (intentTenantId tenantId : Uuid) : String :=
  s!"Tenant mismatch: intent tenant_id ({intentTenantId.display}) does not match query " ++
    s!"tenant_id ({tenantId.display})"

/-- The message that rejects a bundle of another tenant than the token's. -/
def bundleTenantMismatch (bundleTenantId jwtTenantId : Uuid) : String :=
  s!"Tenant mismatch: bundle tenant_id ({bundleTenantId.display}) does not match JWT tenant_id " ++
    s!"({jwtTenantId.display})"

/-- A query in a transaction of a tenant. -/
def readInTenant {α : Type} (beginFault commitFault : Option String)
    (body : Except IntentRebaseError α) : Except IntentRebaseError α :=
  match beginFault with
  | some e => .error (.internal s!"failed to begin RLS transaction: {e}")
  | none =>
    match body with
    | .error e => .error e
    | .ok a =>
      match commitFault with
      | some e => .error (.storageError s!"failed to commit RLS transaction: {e}")
      | none => .ok a

namespace ReadHandlers

variable (reads : Reads) (moment : ReadMoment) (claims : Option RlsTenantClaims)

section Graph

def listGraphNodes (query : ListGraphNodesQuery) : Except IntentRebaseError (List GraphNode) :=
  reads.listNodes
    { tenantId := query.tenantId, workflowId := query.workflowId, nodeType := query.nodeType
      state := none }

def getGraphNode (nodeId : Uuid) : Except IntentRebaseError GraphNode := reads.getNode nodeId

def listGraphEdges (query : ListGraphEdgesQuery) : Except IntentRebaseError (List GraphEdge) :=
  reads.listEdges
    { tenantId := query.tenantId, workflowId := query.workflowId, fromNodeId := query.fromNodeId
      toNodeId := none, edgeType := query.edgeType }

def listEdgesFromNode (nodeId : Uuid) : Except IntentRebaseError (List GraphEdge) :=
  reads.listEdgesFrom nodeId

end Graph

/-- An answer for the tenant of a query, which a token of another tenant is refused. -/
def forTenant {α : Type} (tenantId : Uuid) (answer : Except IntentRebaseError α) :
    Except IntentRebaseError α :=
  match claims with
  | some rlsClaims =>
    if tenantId ≠ rlsClaims.tenantId then
      .error (.unauthorized (queryTenantMismatch rlsClaims.tenantId tenantId))
    else answer
  | none => answer

section Compensation

def listSideEffects (intentId tenantId : Uuid) : Except IntentRebaseError ListSideEffectsResponse :=
  forTenant claims tenantId <|
    (reads.listSideEffectsByIntent intentId tenantId).map fun sideEffects =>
      { sideEffects, total := sideEffects.length }

def listCompensationActions (intentId tenantId : Uuid) :
    Except IntentRebaseError ListCompensationActionsResponse :=
  forTenant claims tenantId <| (reads.listActionsByIntent intentId tenantId).map fun actions =>
    { compensationActions := actions, total := actions.length }

def listDlqCandidates (tenantId : Uuid) : Except IntentRebaseError ListDlqCandidatesResponse :=
  forTenant claims tenantId <| (reads.listActionsByStatus tenantId .failed).map fun failed =>
    let dlqCandidates := failed.filter (·.isDlqCandidate)
    { dlqCandidates, total := dlqCandidates.length }

/-- The candidates of the service, which asks for three statuses. -/
def batchCandidates (tenantId : Uuid) : Except IntentRebaseError BatchCandidates := do
  let pending ← reads.listActionsByStatus tenantId .pending
  let approved ← reads.listActionsByStatus tenantId .approved
  let failed ← reads.listActionsByStatus tenantId .failed
  return .ofActions pending approved failed

def listBatchCandidates (tenantId : Uuid) :
    Except IntentRebaseError ListBatchCandidatesResponse :=
  forTenant claims tenantId <| (batchCandidates reads tenantId).map fun batch =>
    { candidates := batch
      summary :=
        { pendingApprovalCount := batch.pendingApprovalCandidates.length
          approvedServiceExecutableCount := batch.approvedServiceExecutableCandidates.length
          retryableFailedCount := batch.retryableFailedCandidates.length
          dlqCount := batch.dlqCandidates.length } }

def getCompensationPolicyGate (tenantId : Uuid) :
    Except IntentRebaseError CompensationPolicyGateResponse :=
  forTenant claims tenantId <| (reads.listActionsByTenant tenantId).map fun actions =>
    { tenantId, intentId := none, result := evaluatePolicyGatesFromActions actions }

def getIntentCompensationPolicyGate (intentId tenantId : Uuid) :
    Except IntentRebaseError CompensationPolicyGateResponse :=
  forTenant claims tenantId <| (reads.listActionsByIntent intentId tenantId).map fun actions =>
    { tenantId, intentId := some intentId, result := evaluatePolicyGatesFromActions actions }

def getOrchestrationCoordination (tenantId : Uuid) :
    Except IntentRebaseError OrchestrationCoordinationResponse :=
  forTenant claims tenantId <| (reads.listActionsByTenant tenantId).map fun actions =>
    { tenantId, intentId := none, result := evaluateCoordinationFromActions actions }

def getIntentOrchestrationCoordination (intentId tenantId : Uuid) :
    Except IntentRebaseError OrchestrationCoordinationResponse :=
  forTenant claims tenantId <| (reads.listActionsByIntent intentId tenantId).map fun actions =>
    { tenantId, intentId := some intentId, result := evaluateCoordinationFromActions actions }

/-- A run of another tenant is answered like one that does not exist. -/
def getOrchestrationRun (runId tenantId : Uuid) : Except IntentRebaseError OrchestrationRun :=
  forTenant claims tenantId <|
    match reads.getRun runId with
    | .error e => .error e
    | .ok run =>
      if run.tenantId ≠ tenantId then .error (.orchestrationRunNotFound runId) else .ok run

end Compensation

section Reports

def buildImpactReportResponse (intentId tenantId : Uuid) (fromVersion toVersion : Int) :
    Option (Except IntentRebaseError ImpactReportResponse) :=
  (reads.computeRebasePreviewWithGraph intentId fromVersion toVersion).map fun preview => do
    let preview ← preview
    let compensationActions ← reads.listActionsByIntent intentId tenantId
    let gateActions ← reads.listActionsByIntent intentId tenantId
    let policyGate := evaluatePolicyGatesFromActions gateActions
    let affected := preview.affectedItems
    let invalidated (items : List AffectedItem) : Nat :=
      items.countP fun item => item.impact = .direct || item.impact = .transitive
    return {
      intentId, tenantId
      trigger :=
        { riskTier := preview.riskTier.debug, decisionClass := preview.decisionClass.debug }
      scope :=
        { affectedArtifactsCount := affected.affectedArtifacts.length
          affectedApprovalsCount := affected.affectedApprovals.length
          affectedSideEffectsCount := affected.sideEffects.length }
      invalidation :=
        { invalidatedArtifactsCount := invalidated affected.affectedArtifacts
          invalidatedApprovalsCount := invalidated affected.affectedApprovals }
      compensation :=
        { totalActions := compensationActions.length
          eligibleCount := policyGate.summary.eligibleCount
          blockedCount := policyGate.summary.blockedCount
          manualReviewRequiredCount := policyGate.summary.manualReviewRequiredCount
          dlqCandidateCount := policyGate.summary.dlqCandidateCount }
      safetyGates :=
        { openGates := policyGate.summary.eligibleCount
          blockedGates := policyGate.summary.blockedCount
          manualReviewGates := policyGate.summary.manualReviewRequiredCount }
      provenance := { generatedAt := moment.now, fromVersion, toVersion }
      unsupportedItems :=
        ["propagation-status downstream tracking", "cross-workflow lineage impact",
          "checkpoint alignment recommendations"] }

/-- The report on an intent of the query's tenant. -/
def reportForTenant (intentId : Uuid) (query : ImpactReportQuery) :
    Option (Except IntentRebaseError ImpactReportResponse) :=
  match reads.getIntentHead intentId with
  | .error e => some (.error e)
  | .ok head =>
    if head.intent.tenantId ≠ query.tenantId then
      some (.error (.unauthorized (reportTenantMismatch head.intent.tenantId query.tenantId)))
    else
      buildImpactReportResponse reads moment intentId query.tenantId query.fromVersion
        query.toVersion

def getImpactReport (intentId : Uuid) (query : ImpactReportQuery) :
    Option (Except IntentRebaseError ImpactReportResponse) :=
  match forTenant claims query.tenantId (.ok ()) with
  | .error e => some (.error e)
  | .ok _ => reportForTenant reads moment intentId query

/-- The versions of a simulation are in order, and both from one on. -/
def checkVersions (fromVersion toVersion : Int) : Except IntentRebaseError Unit :=
  if fromVersion < 1 then
    .error (.invalidIntentVersion s!"from_version ({fromVersion}) must be >= 1")
  else if toVersion < 1 then
    .error (.invalidIntentVersion s!"to_version ({toVersion}) must be >= 1")
  else if fromVersion ≥ toVersion then
    .error (.invalidIntentVersion
      s!"from_version ({fromVersion}) must be less than to_version ({toVersion})")
  else .ok ()

/-- The configuration of a mode; one without a seed takes the time for it. -/
def simulationConfig (mode : Option String) (seed : Option UInt64) : SimulationConfig :=
  match mode with
  | some "stochastic" => .stochasticSeed (seed.getD moment.nanos)
  | some _ | none => {}

/-- The simulation, which no token is asked for. -/
def rebaseSimulation (intentId : Uuid) (query : RebaseSimulationQuery) :
    Except IntentRebaseError SimulationReport := do
  let head ← reads.getIntentHead intentId
  checkVersions query.fromVersion query.toVersion
  let sideEffects ← reads.listSideEffectsByIntent intentId query.tenantId
  let rebaseContext : RebaseContext :=
    { intentId, fromVersion := query.fromVersion, toVersion := query.toVersion
      workflowId := head.intent.workflowId }
  return simulateSideEffects (simulationConfig moment query.mode query.seed) moment.nanos moment.now
    moment.fresh sideEffects rebaseContext query.tenantId

end Reports

section Bundles

def listForensicBundles (tenantId : Uuid) (limit : Option Nat) :
    Except IntentRebaseError ListForensicBundlesResponse :=
  forTenant claims tenantId <|
    let bundles :=
      match reads.bundleTransactions, claims with
      | some transactions, some rlsClaims =>
        readInTenant transactions.beginFault transactions.commitFault
          (transactions.listByTenantWithTx rlsClaims.tenantId tenantId limit)
      | _, _ => reads.listBundles tenantId limit
    bundles.map fun bundles =>
      { bundles := bundles.map .fromBundle, total := bundles.length }

def downloadError : ForensicBundleServiceError → IntentRebaseError
  | .notFound id => .forensicBundleNotFound id
  | .collection e => .internal s!"collection failed: {e.display}"
  | .generation e => .internal s!"generation failed: {e}"
  | .storage e => .internal s!"storage failed: {e}"
  | .repository e => e
  | .serialization e => .internal s!"serialization failed: {e}"
  | .invalidTimeRange e => .internal s!"invalid time range: {e}"
  | .replay e => .internal s!"replay verification failed: {e}"

/-- The bundle is the tenant's. -/
def checkBundleTenant (bundle : ForensicBundle) (jwtTenantId : Uuid) :
    Except IntentRebaseError Unit :=
  if bundle.tenantId ≠ jwtTenantId then
    .error (.unauthorized (bundleTenantMismatch bundle.tenantId jwtTenantId))
  else .ok ()

/-- The check of the tenant before a download, in a transaction or by the service. -/
def checkDownload (rlsClaims : RlsTenantClaims) (bundleId : Uuid) : Except IntentRebaseError Unit :=
  match reads.bundleTransactions with
  | some transactions =>
    readInTenant transactions.beginFault transactions.commitFault
      (match transactions.getWithTx rlsClaims.tenantId bundleId with
      | .ok bundle => checkBundleTenant bundle rlsClaims.tenantId
      | .error (.forensicBundleNotFound _) => .error (.forensicBundleNotFound bundleId)
      | .error e => .error e)
  | none =>
    match bundleOf reads.getBundle bundleId with
    | .ok bundle => checkBundleTenant bundle rlsClaims.tenantId
    | .error (.notFound id) => .error (.forensicBundleNotFound id)
    | .error other => .error (.internal other.display)

def downloadForensicBundle (bundleId : Uuid) : Except IntentRebaseError BundleDownload :=
  match claims.elim (.ok ()) fun rlsClaims => checkDownload reads rlsClaims bundleId with
  | .error e => .error e
  | .ok _ =>
    match downloadBundleBytes reads.getBundle reads.bundleText bundleId with
    | .error e => .error (downloadError e)
    | .ok body => .ok
        { contentType := "application/json"
          contentDisposition := s!"attachment; filename=\"{bundleId.display}.json\""
          body }

end Bundles

end ReadHandlers

/-- A request to one of the handlers. -/
inductive ReadRequest where
  | listGraphNodes (query : ListGraphNodesQuery)
  | getGraphNode (nodeId : Uuid)
  | listGraphEdges (query : ListGraphEdgesQuery)
  | listEdgesFromNode (nodeId : Uuid)
  | listSideEffects (intentId tenantId : Uuid)
  | listCompensationActions (intentId tenantId : Uuid)
  | listDlqCandidates (tenantId : Uuid)
  | listBatchCandidates (tenantId : Uuid)
  | getCompensationPolicyGate (tenantId : Uuid)
  | getIntentCompensationPolicyGate (intentId tenantId : Uuid)
  | getOrchestrationCoordination (tenantId : Uuid)
  | getIntentOrchestrationCoordination (intentId tenantId : Uuid)
  | getOrchestrationRun (runId tenantId : Uuid)
  | getImpactReport (intentId : Uuid) (query : ImpactReportQuery)
  | rebaseSimulation (intentId : Uuid) (query : RebaseSimulationQuery)
  | listForensicBundles (tenantId : Uuid) (limit : Option Nat)
  | downloadForensicBundle (bundleId : Uuid)

/-- What a handler answers when it succeeds. -/
inductive ReadResponse where
  | nodes (nodes : List GraphNode)
  | node (node : GraphNode)
  | edges (edges : List GraphEdge)
  | sideEffects (response : ListSideEffectsResponse)
  | actions (response : ListCompensationActionsResponse)
  | dlqCandidates (response : ListDlqCandidatesResponse)
  | batchCandidates (response : ListBatchCandidatesResponse)
  | policyGate (response : CompensationPolicyGateResponse)
  | coordination (response : OrchestrationCoordinationResponse)
  | run (run : OrchestrationRun)
  | impactReport (response : ImpactReportResponse)
  | simulation (report : SimulationReport)
  | bundles (response : ListForensicBundlesResponse)
  | download (response : BundleDownload)

/-- The answer to a request, if the search of a report is given enough fuel. -/
def ReadRequest.respond (reads : Reads) (moment : ReadMoment) (claims : Option RlsTenantClaims) :
    ReadRequest → Option (Except IntentRebaseError ReadResponse)
  | .listGraphNodes query => some ((ReadHandlers.listGraphNodes reads query).map .nodes)
  | .getGraphNode nodeId => some ((ReadHandlers.getGraphNode reads nodeId).map .node)
  | .listGraphEdges query => some ((ReadHandlers.listGraphEdges reads query).map .edges)
  | .listEdgesFromNode nodeId => some ((ReadHandlers.listEdgesFromNode reads nodeId).map .edges)
  | .listSideEffects intentId tenantId =>
    some ((ReadHandlers.listSideEffects reads claims intentId tenantId).map .sideEffects)
  | .listCompensationActions intentId tenantId =>
    some ((ReadHandlers.listCompensationActions reads claims intentId tenantId).map .actions)
  | .listDlqCandidates tenantId =>
    some ((ReadHandlers.listDlqCandidates reads claims tenantId).map .dlqCandidates)
  | .listBatchCandidates tenantId =>
    some ((ReadHandlers.listBatchCandidates reads claims tenantId).map .batchCandidates)
  | .getCompensationPolicyGate tenantId =>
    some ((ReadHandlers.getCompensationPolicyGate reads claims tenantId).map .policyGate)
  | .getIntentCompensationPolicyGate intentId tenantId =>
    some ((ReadHandlers.getIntentCompensationPolicyGate reads claims intentId tenantId).map
      .policyGate)
  | .getOrchestrationCoordination tenantId =>
    some ((ReadHandlers.getOrchestrationCoordination reads claims tenantId).map .coordination)
  | .getIntentOrchestrationCoordination intentId tenantId =>
    some ((ReadHandlers.getIntentOrchestrationCoordination reads claims intentId tenantId).map
      .coordination)
  | .getOrchestrationRun runId tenantId =>
    some ((ReadHandlers.getOrchestrationRun reads claims runId tenantId).map .run)
  | .getImpactReport intentId query =>
    (ReadHandlers.getImpactReport reads moment claims intentId query).map (·.map .impactReport)
  | .rebaseSimulation intentId query =>
    some ((ReadHandlers.rebaseSimulation reads moment intentId query).map .simulation)
  | .listForensicBundles tenantId limit =>
    some ((ReadHandlers.listForensicBundles reads claims tenantId limit).map .bundles)
  | .downloadForensicBundle bundleId =>
    some ((ReadHandlers.downloadForensicBundle reads claims bundleId).map .download)

end IntentRebase
