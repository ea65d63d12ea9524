import IntentRebase.Graph.IngestionImpact
import IntentRebase.Intent.InMemoryRepository
import IntentRebase.Orchestrator.NoOp
import IntentRebase.Orchestrator.Rebase

/-! The preview of a rebase with graph data: which ingested artifacts it lists. The search starts at
the node of the version that the rebase leads to, so it sees that version's dependents and not those
of the version that is replaced. -/

namespace IntentRebase

open Kit

namespace GraphState

variable (s : GraphState) (order : IterOrder (Uuid × GraphNode))

/-- The first node of an intent version that refers to the given one. -/
def findIntentVersionNode (intentVersionId : Uuid) : Option GraphNode :=
  (s.listNodes order { nodeType := some .intentVersion }).find? fun n =>
    n.externalRef.any fun r => r.refId == intentVersionId

/-- Without a node for the version there is no classification. -/
def classifyAffectedItemsFromIntentVersion (intentVersionId : Uuid) (maxDepth : Option Nat)
    (fuel : Nat) : Option (Except IntentRebaseError (Option ClassificationResult)) :=
  match s.findIntentVersionNode order intentVersionId with
  | some startNode =>
    (classifyImpact s { startNodeId := startNode.id, maxDepth } fuel).map fun result =>
      result.map some
  | none => some (.ok none)

theorem findIntentVersionNode_mem {s : GraphState} {order : IterOrder (Uuid × GraphNode)}
    {intentVersionId : Uuid} {node : GraphNode} (hs : s.Consistent)
    (h : s.findIntentVersionNode order intentVersionId = some node) : node.id ∈ s.nodes := by
  have hlisted := (List.mem_filter.mp (List.mem_of_find?_eq_some h)).1
  obtain ⟨⟨id, n⟩, hmem, rfl⟩ := List.mem_map.mp hlisted
  have hlookup := mem_pairs.mp (order.mem_apply.mp hmem)
  rw [hs.nodeId id n hlookup]
  exact mem_iff_lookup.mpr ⟨n, hlookup⟩

end GraphState

/-- The entry of a preview for a classified node. -/
def affectedItem (c : ClassifiedNode) : AffectedItem where
  nodeId := c.node.id
  label := c.node.label
  impact := c.impact
  reason := c.reason
  externalRef := c.node.externalRef

/-- The entries for the nodes of one type. -/
def affectedItemsOf (nodeType : NodeType) (classifiedNodes : List ClassifiedNode) :
    List AffectedItem :=
  (classifiedNodes.filter fun c => c.node.nodeType == nodeType).map affectedItem

def classifyNodesByType (classifiedNodes : List ClassifiedNode) :
    List AffectedItem × List AffectedItem × List AffectedItem :=
  (affectedItemsOf .artifact classifiedNodes, affectedItemsOf .approval classifiedNodes,
    affectedItemsOf .sideEffect classifiedNodes)

def AffectedItemsPreview.fromClassification (artifacts approvals sideEffects : List AffectedItem) :
    AffectedItemsPreview where
  status := .available
  affectedArtifacts := artifacts
  affectedApprovals := approvals
  sideEffects := sideEffects

/-- The query of the repository that previews make. -/
structure VersionReads where
  getVersionByIntentAndNumber : Uuid → Int → Except IntentRebaseError IntentVersion

/-- The query as the in-memory repository answers it. -/
def InMemoryIntentRepository.versionReads (s : InMemoryIntentRepository) : VersionReads where
  getVersionByIntentAndNumber := s.getVersionByIntentAndNumber

section Preview

variable (repo : VersionReads) (orders : VersionDiffOrders) (order : IterOrder (Uuid × GraphNode))

def computeRebasePreview (intentId : Uuid) (fromVersion toVersion : Int) :
    Except IntentRebaseError RebasePlan :=
  if fromVersion ≥ toVersion then
    throw (.invalidIntentVersion
      s!"from_version ({fromVersion}) must be less than to_version ({toVersion})")
  else do
    let before ← repo.getVersionByIntentAndNumber intentId fromVersion
    let after ← repo.getVersionByIntentAndNumber intentId toVersion
    let (diff, risk) ← computeDiffWithRiskSync orders before after
    return .fromDiffAndRisk diff risk

/-- The preview with the graph's data, when there is a graph and it has a node for the version. -/
def computeRebasePreviewWithGraph (graphService : Option GraphState) (intentId : Uuid)
    (fromVersion toVersion : Int) (fuel : Nat) : Option (Except IntentRebaseError RebasePlan) :=
  match computeRebasePreview repo orders intentId fromVersion toVersion with
  | .error e => some (.error e)
  | .ok plan =>
    match graphService with
    | none => some (.ok plan)
    | some graph =>
      match repo.getVersionByIntentAndNumber intentId toVersion with
      | .error e => some (.error e)
      | .ok after =>
        (graph.classifyAffectedItemsFromIntentVersion order after.id (some 3) fuel).map fun
          | .ok (some result) =>
            let (artifacts, approvals, sideEffects) := classifyNodesByType result.classifiedNodes
            .ok { plan with
              affectedItems := .fromClassification artifacts approvals sideEffects }
          | .ok none | .error _ => .ok plan

end Preview

/-- A run from the empty graph ingests the request as the item, and deletes none of its edges
later. -/
def GraphState.BuiltWith (request : ArtifactIngestRequest) (item : IngestorResult)
    (s : GraphState) : Prop :=
  ∃ (before after : List GraphEvent) (draws : Nat → Draw) (s₁ s₂ : GraphState),
    Run GraphEvent.Step .empty before s₁ ∧ s₁.FreshDraws draws request.plan ∧
    (ingestArtifact draws request).on s₁ = (.ok item, s₂) ∧ Run GraphEvent.Step s₂ after s ∧
    ∀ event ∈ after, ∀ id ∈ item.edges.map GraphEdge.id, event ≠ .call (.deleteEdge id)

section Found

variable {g : GraphStore} {request : ArtifactIngestRequest} {item : IngestorResult}

/-- An ingested artifact is held as long as none of its edges is deleted. -/
theorem holdsArtifact_run {s s' : GraphState} {events : List GraphEvent}
    (h : Run GraphEvent.Step s events s')
    (hkeep : ∀ event ∈ events, ∀ id ∈ item.edges.map GraphEdge.id,
      event ≠ .call (.deleteEdge id)) (hs : s.HoldsItem (.artifact request) item) :
    s'.HoldsItem (.artifact request) item := by
  have hstep : ∀ (s : GraphState) (event : GraphEvent) (s' : GraphState),
      (∀ id ∈ item.edges.map GraphEdge.id, event ≠ .call (.deleteEdge id)) →
      GraphEvent.Step s event s' → s.HoldsItem (.artifact request) item →
      s'.HoldsItem (.artifact request) item := by
    rintro s event s' hevent hstep ⟨⟨n, hn, hsame⟩, hedges, _⟩
    obtain ⟨n', hn', hsame'⟩ := hstep.node_kept hn
    refine ⟨⟨n', hn', hsame'.1.trans hsame.1, hsame'.2.1.trans hsame.2.1,
      hsame'.2.2.trans hsame.2.2⟩, fun e he => ?_, False.elim⟩
    exact hstep.edge_kept (hedges e he) (hevent e.id (List.mem_map_of_mem he))
  exact (h.invariant hstep hkeep hs :)

theorem GraphState.BuiltWith.consistent {s : GraphState} (h : s.BuiltWith request item) :
    s.Consistent := by
  obtain ⟨before, after, draws, s₁, s₂, hbefore, hfresh, hingest, hafter, _⟩ := h
  have hs₁ := GraphEvent.consistent_of_run hbefore .empty
  have hstep : GraphEvent.Step s₁ (.ingest draws (.artifact request)) s₂ :=
    GraphEvent.step_ingest hfresh hingest
  exact GraphEvent.consistent_of_run hafter (hstep.consistent hs₁)

/-- A graph that was built with an artifact has an edge from it to each of its versions. -/
theorem GraphState.BuiltWith.seedEdge (h : g.state.BuiltWith request item)
    {classify : ClassifyRequest} (hdefaults : classify.UsesDefaults)
    (hlink : classify.startNodeId ∈ request.dependsOnIntentVersions) :
    (∃ n, g.state.nodes.lookup item.node.id = some n ∧ n.nodeType = .artifact) ∧
      SeedEdge g classify.config classify.startNodeId item.node.id := by
  obtain ⟨before, after, draws, s₁, s₂, hbefore, hfresh, hingest, hafter, hkeep⟩ := h
  have hrequest : ((IngestRequest.artifact request).perform draws).on s₁ = (.ok item, s₂) := hingest
  obtain ⟨_, _, hnode, hedges⟩ := ingest_ok hrequest
  have hs₁ := GraphEvent.consistent_of_run hbefore .empty
  have hheld := holdsArtifact_run hafter hkeep (holdsItem_ingest hs₁ hfresh hrequest)
  have hid : item.node.id = (draws 0).id := by rw [hnode]; rfl
  constructor
  · obtain ⟨n, hn, hsame⟩ := hheld.node
    refine ⟨n, hn, hsame.1.trans ?_⟩
    rw [hnode]
    rfl
  · exact (seedEdge_iff hheld hid hedges hlink hdefaults).mpr fun h => h

end Found

section Lists

variable {g : GraphStore} {repo : VersionReads} {orders : VersionDiffOrders}
  {order : IterOrder (Uuid × GraphNode)} {intentId : Uuid} {fromVersion toVersion : Int}
  {base : RebasePlan} {version : IntentVersion} {node : GraphNode}

/-- The request that a preview makes of the classification. -/
def previewRequest (startNodeId : Uuid) : ClassifyRequest := { startNodeId, maxDepth := some 3 }

theorem previewRequest_usesDefaults (startNodeId : Uuid) :
    (previewRequest startNodeId).UsesDefaults := ⟨rfl, rfl, show 1 ≤ 3 by decide⟩

/-- The classification of a preview lists artifacts, approvals and side effects. -/
theorem isTarget_affected {startNodeId : Uuid} {nodeType : NodeType}
    (h : nodeType ∈ [.artifact, .approval, .sideEffect]) :
    IsTarget (previewRequest startNodeId) nodeType := by
  intro allowed hallowed
  cases hallowed
  exact List.mem_append_left [.generic] h

/-- With a node for the version, the preview lists the nodes of an exact classification. -/
theorem computeRebasePreviewWithGraph_available
    (hbase : computeRebasePreview repo orders intentId fromVersion toVersion = .ok base)
    (hversion : repo.getVersionByIntentAndNumber intentId toVersion = .ok version)
    (hnode : g.state.findIntentVersionNode order version.id = some node) :
    ∃ result, ExactClassification g (previewRequest node.id) result ∧
      ∃ bound, ∀ fuel, bound < fuel →
        computeRebasePreviewWithGraph repo orders order (some g.state) intentId fromVersion
          toVersion fuel =
        some (.ok { base with
          affectedItems := .fromClassification (affectedItemsOf .artifact result.classifiedNodes)
            (affectedItemsOf .approval result.classifiedNodes)
            (affectedItemsOf .sideEffect result.classifiedNodes) }) := by
  obtain ⟨result, hexact, hruns⟩ := classifyImpact_report g (previewRequest node.id)
    (GraphState.findIntentVersionNode_mem g.consistent hnode)
  refine ⟨result, hexact, classifyBound g.state (previewRequest node.id), fun fuel hfuel => ?_⟩
  have hclassify : g.state.classifyAffectedItemsFromIntentVersion order version.id (some 3) fuel =
      some (.ok (some result)) := by
    rw [GraphState.classifyAffectedItemsFromIntentVersion, hnode]
    show (classifyImpact g.state (previewRequest node.id) fuel).map _ = _
    rw [hruns fuel hfuel]
    rfl
  simp only [computeRebasePreviewWithGraph, hbase, hversion, hclassify]
  rfl

/-- The entries of a type in an exact classification are the nodes within three steps. -/
theorem mem_affectedItemsOf {nodeType : NodeType} {result : ClassificationResult} {start v : Uuid}
    (htarget : nodeType ∈ [.artifact, .approval, .sideEffect])
    (h : ExactClassification g (previewRequest start) result) :
    v ∈ (affectedItemsOf nodeType result.classifiedNodes).map AffectedItem.nodeId ↔
      ∃ n d, g.state.nodes.lookup v = some n ∧ n.nodeType = nodeType ∧
        (impactSearch g (previewRequest start)).Distance v d ∧ d ≤ 3 := by
  simp only [affectedItemsOf, List.map_map, List.mem_map, List.mem_filter, beq_iff_eq]
  constructor
  · rintro ⟨c, ⟨hc, htype⟩, rfl⟩
    obtain ⟨hlookup, d, hdistance, _⟩ := h.impact c hc
    obtain ⟨_, d', _, _, hdistance', _, hle⟩ := (h.mem c.node.id).mp (List.mem_map_of_mem hc)
    have hsame : d = d' := hdistance.unique hdistance'
    exact ⟨c.node, d, hlookup, htype, hdistance, hsame ▸ hle⟩
  · rintro ⟨n, d, hn, rfl, hdistance, hle⟩
    obtain ⟨c, hc, rfl⟩ := List.mem_map.mp
      ((h.mem v).mpr ⟨n, d, hn, isTarget_affected htarget, hdistance, hdistance.walk.base_le, hle⟩)
    have hlookup := (h.impact c hc).1
    obtain rfl := Option.some.inj (hlookup.symm.trans hn)
    exact ⟨c, ⟨hc, rfl⟩, rfl⟩

/-- A preview for whose version the graph has a node lists exactly the artifacts within three steps
of the node, and as directly affected each artifact that was ingested as dependent on it. -/
theorem rebasePreview_dependents
    (hbase : computeRebasePreview repo orders intentId fromVersion toVersion = .ok base)
    (hversion : repo.getVersionByIntentAndNumber intentId toVersion = .ok version)
    (hnode : g.state.findIntentVersionNode order version.id = some node) :
    ∃ plan, (∃ bound, ∀ fuel, bound < fuel →
        computeRebasePreviewWithGraph repo orders order (some g.state) intentId fromVersion
          toVersion fuel = some (.ok plan)) ∧
      plan.affectedItems.status = .available ∧
      (∀ v, v ∈ plan.affectedItems.affectedArtifacts.map AffectedItem.nodeId ↔
        ∃ n d, g.state.nodes.lookup v = some n ∧ n.nodeType = .artifact ∧
          (impactSearch g (previewRequest node.id)).Distance v d ∧ d ≤ 3) ∧
      ∀ request item, g.state.BuiltWith request item →
        node.id ∈ request.dependsOnIntentVersions →
        ∃ i ∈ plan.affectedItems.affectedArtifacts, i.nodeId = item.node.id ∧
          i.impact = .direct := by
  obtain ⟨result, hexact, hruns⟩ :=
    computeRebasePreviewWithGraph_available hbase hversion hnode
  refine ⟨_, hruns, rfl, fun v => mem_affectedItemsOf List.mem_cons_self hexact, ?_⟩
  intro request item hbuilt hlink
  have hdefaults := previewRequest_usesDefaults node.id
  obtain ⟨⟨n, hn, htype⟩, hseed⟩ := hbuilt.seedEdge hdefaults hlink
  obtain ⟨c, hc, hid, himpact⟩ :=
    (hexact.direct_iff hdefaults.depthLimit).mpr
      ⟨⟨n, hn, isTarget_affected (htype ▸ List.mem_cons_self)⟩, hseed⟩
  have hlookup := (hexact.impact c hc).1
  rw [hid] at hlookup
  obtain rfl := Option.some.inj (hlookup.symm.trans hn)
  have hartifact : c ∈ result.classifiedNodes.filter fun c => c.node.nodeType == .artifact :=
    List.mem_filter.mpr ⟨hc, beq_iff_eq.mpr htype⟩
  exact ⟨affectedItem c, List.mem_map_of_mem hartifact, hid, himpact⟩

end Lists

section Deferred

variable {g : GraphStore} {repo : VersionReads} {orders : VersionDiffOrders}
  {order : IterOrder (Uuid × GraphNode)} {intentId : Uuid} {fromVersion toVersion : Int}
  {base : RebasePlan} {before after : IntentVersion}

/-- The deferred fields show the affected items of the plan. -/
def RebasePlan.DeferredReflects (plan : RebasePlan) : Prop :=
  plan.deferred = .phase1Baseline plan.decisionClass plan.affectedItems

/-- A change of the node reaches a node of the type within three steps. -/
def GraphStore.Reaches (g : GraphStore) (start : Uuid) (nodeType : NodeType) : Prop :=
  ∃ v n d, g.state.nodes.lookup v = some n ∧ n.nodeType = nodeType ∧
    (impactSearch g (previewRequest start)).Distance v d ∧ d ≤ 3

theorem affectedItemsOf_eq_nil {nodeType : NodeType} {result : ClassificationResult} {start : Uuid}
    (htarget : nodeType ∈ [.artifact, .approval, .sideEffect])
    (h : ExactClassification g (previewRequest start) result) :
    affectedItemsOf nodeType result.classifiedNodes = [] ↔ ¬ g.Reaches start nodeType := by
  rw [← List.map_eq_nil_iff (f := AffectedItem.nodeId), List.eq_nil_iff_forall_not_mem]
  simp only [mem_affectedItemsOf htarget h, GraphStore.Reaches, not_exists]

/-- The deferred fields of a plan without graph data are those of an enriched one exactly if it has
no approval and no side effect, and no artifact unless it is of class A. -/
theorem phase1Baseline_unavailable_iff {decisionClass : DecisionClass}
    {artifacts approvals sideEffects : List AffectedItem} :
    DeferredFields.phase1Baseline decisionClass .unavailable =
        .phase1Baseline decisionClass (.fromClassification artifacts approvals sideEffects) ↔
      approvals = [] ∧ sideEffects = [] ∧ (decisionClass = .A ∨ artifacts = []) := by
  constructor
  · intro h
    have happrovals := congrArg (fun f : DeferredFields =>
      f.approvalRevalidation.approvalsNeedingRevalidation) h
    have heffects := congrArg (fun f : DeferredFields => f.compensation.potentialActions) h
    have hcandidates : computeCheckpointCandidates decisionClass .unavailable =
        computeCheckpointCandidates decisionClass
          (.fromClassification artifacts approvals sideEffects) :=
      congrArg (fun f : DeferredFields => f.checkpointSelection.candidates) h
    refine ⟨List.map_eq_nil_iff.mp happrovals.symm, List.map_eq_nil_iff.mp heffects.symm, ?_⟩
    by_contra hne
    obtain ⟨hclass, hartifacts⟩ := not_or.mp hne
    have hnone : AffectedItemsPreview.unavailable.hasAffectedItems = false := rfl
    have hsome : (AffectedItemsPreview.fromClassification artifacts approvals
        sideEffects).hasAffectedItems = true := by
      simp [AffectedItemsPreview.hasAffectedItems, AffectedItemsPreview.fromClassification,
        hartifacts]
    rw [computeCheckpointCandidates, computeCheckpointCandidates, hnone, hsome, if_neg hclass,
      if_neg hclass, if_neg Bool.false_ne_true, if_pos rfl] at hcandidates
    -- The enriched plan has one candidate more.
    have hlength := congrArg List.length hcandidates
    simp only [List.length_append, List.length_cons, List.length_nil] at hlength
    omega
  · rintro ⟨rfl, rfl, hclass⟩
    have hcheckpoint : CheckpointSelection.withHeuristic decisionClass .unavailable =
        .withHeuristic decisionClass (.fromClassification artifacts [] []) := by
      rcases hclass with rfl | rfl
      · rfl
      · have hnone : AffectedItemsPreview.unavailable.hasAffectedItems = false := rfl
        have hnone' : (AffectedItemsPreview.fromClassification [] [] []).hasAffectedItems =
          false := rfl
        have hcandidates : computeCheckpointCandidates decisionClass .unavailable =
            computeCheckpointCandidates decisionClass (.fromClassification [] [] []) := by
          rw [computeCheckpointCandidates, computeCheckpointCandidates, hnone, hnone']
        have hrationale : buildSelectionRationale decisionClass .unavailable =
            buildSelectionRationale decisionClass (.fromClassification [] [] []) := by
          funext selectedId
          unfold buildSelectionRationale
          rw [hnone, hnone']
          rfl
        simp only [CheckpointSelection.withHeuristic, selectBestCheckpoint, hcandidates, hrationale]
    rw [DeferredFields.phase1Baseline, hcheckpoint]
    rfl

/-- A preview that succeeds is the plan of the diff of the two versions. -/
theorem computeRebasePreview_ok
    (h : computeRebasePreview repo orders intentId fromVersion toVersion = .ok base) :
    ∃ before after, repo.getVersionByIntentAndNumber intentId fromVersion = .ok before ∧
      repo.getVersionByIntentAndNumber intentId toVersion = .ok after ∧
      base = planOf (diffIntentVersion orders before after) := by
  unfold computeRebasePreview at h
  split at h
  · cases h
  cases hbefore : repo.getVersionByIntentAndNumber intentId fromVersion with
  | error e =>
    rw [hbefore] at h
    cases h
  | ok before =>
    cases hafter : repo.getVersionByIntentAndNumber intentId toVersion with
    | error e =>
      rw [hbefore, hafter] at h
      cases h
    | ok after =>
      refine ⟨before, after, rfl, rfl, ?_⟩
      rw [hbefore, hafter] at h
      simp only [computeDiffWithRiskSync, computeDiffSync, bind, Except.bind, pure,
        Except.pure] at h
      split at h
      · cases h
      · next heq =>
        split at heq
        · cases heq
        · next hdiff =>
          cases heq
          split at hdiff
          · cases hdiff
          · split at hdiff
            · cases hdiff
            · cases hdiff
              cases h
              rfl

variable (order) in
/-- The deferred fields of a preview show its affected items exactly if there is no graph, or none
of its nodes is of the version, or a change of that node reaches no approval, no side effect, and no
artifact unless the diff of the versions is empty. -/
theorem rebasePreview_deferred_iff (graph : Option GraphStore)
    (hbase : computeRebasePreview repo orders intentId fromVersion toVersion = .ok base) :
    ∃ before after plan, repo.getVersionByIntentAndNumber intentId fromVersion = .ok before ∧
      repo.getVersionByIntentAndNumber intentId toVersion = .ok after ∧
      (∃ bound, ∀ fuel, bound < fuel →
        computeRebasePreviewWithGraph repo orders order (graph.map GraphStore.state) intentId
          fromVersion toVersion fuel = some (.ok plan)) ∧
      (plan.DeferredReflects ↔ ∀ g node, graph = some g →
        g.state.findIntentVersionNode order after.id = some node →
        ¬ g.Reaches node.id .approval ∧ ¬ g.Reaches node.id .sideEffect ∧
          (diffIntentVersion orders before after = {} ∨ ¬ g.Reaches node.id .artifact)) := by
  obtain ⟨before, after, hbefore, hafter, rfl⟩ := computeRebasePreview_ok hbase
  have hreflects : (planOf (diffIntentVersion orders before after)).DeferredReflects := rfl
  cases graph with
  | none =>
    refine ⟨before, after, _, hbefore, hafter, ⟨0, fun fuel _ => ?_⟩, iff_of_true hreflects ?_⟩
    · rw [computeRebasePreviewWithGraph, hbase]
      rfl
    · exact fun _ _ h => (by cases h)
  | some g =>
    cases hnode : g.state.findIntentVersionNode order after.id with
    | none =>
      refine ⟨before, after, _, hbefore, hafter, ⟨0, fun fuel _ => ?_⟩, iff_of_true hreflects ?_⟩
      · simp only [computeRebasePreviewWithGraph, hbase, Option.map_some, hafter,
          GraphState.classifyAffectedItemsFromIntentVersion, hnode]
      · intro g' node hg h
        cases hg
        rw [hnode] at h
        cases h
    | some node =>
      obtain ⟨result, hexact, hruns⟩ :=
        computeRebasePreviewWithGraph_available hbase hafter hnode
      refine ⟨before, after, _, hbefore, hafter, hruns, ?_⟩
      refine (phase1Baseline_unavailable_iff).trans ?_
      rw [affectedItemsOf_eq_nil (by decide) hexact, affectedItemsOf_eq_nil (by decide) hexact,
        affectedItemsOf_eq_nil (by decide) hexact, ← planOf_decisionClass, planOf_class_A_iff]
      constructor
      · rintro h g' node' hg hnode'
        cases hg
        cases hnode.symm.trans hnode'
        exact h
      · exact fun h => h g node rfl hnode

end Deferred

section Sample

/-- Versions 1 and 2 of intent 10, with the identifiers 20 and 21. -/
def sampleVersions : VersionReads :=
  (InMemoryIntentRepository.sampleCalls.foldl
    (fun s call => (InMemoryIntentRepository.apply InMemoryIntentRepository.sampleHash s call).2)
    InMemoryIntentRepository.new).versionReads

def versionNode (versionId : Uuid) : CreateGraphNodeRequest :=
  { GraphStore.plainNode .intentVersion with externalRef := some ⟨.intentVersion, versionId⟩ }

/-- Nodes 1 and 2 for the two versions. -/
def sampleVersionNodes : List GraphEvent :=
  [.call (.createNode ⟨1, 0⟩ (versionNode 20)), .call (.createNode ⟨2, 0⟩ (versionNode 21))]

def sampleVersionGraph : GraphState :=
  ((GraphState.empty.createNode 1 0 (versionNode 20)).2.createNode 2 0 (versionNode 21)).2

/-- An artifact that depends on the node of one version. -/
def sampleDependent (v : Uuid) : ArtifactIngestRequest where
  tenantId := 0
  workflowId := 0
  externalRef := ⟨.artifact, 0⟩
  label := ""
  dependsOnIntentVersions := [v]
  properties := none

theorem run_sampleVersionNodes :
    Run GraphEvent.Step .empty sampleVersionNodes sampleVersionGraph :=
  .cons ⟨rfl, rfl⟩ (.cons ⟨rfl, rfl⟩ (.nil _))

/-- The graph of the two versions with the artifact. -/
def sampleDependentGraph (v : Uuid) : GraphState :=
  ((ingestArtifact (Draw.from 3) (sampleDependent v)).on sampleVersionGraph).2

theorem builtWith_sample {v : Uuid} {item : IngestorResult}
    (hfresh : sampleVersionGraph.FreshDraws (Draw.from 3) (IngestRequest.plan
      (.artifact (sampleDependent v))))
    (hingest : (ingestArtifact (Draw.from 3) (sampleDependent v)).on sampleVersionGraph =
      (.ok item, sampleDependentGraph v)) :
    (sampleDependentGraph v).BuiltWith (sampleDependent v) item :=
  ⟨sampleVersionNodes, [], Draw.from 3, _, _, run_sampleVersionNodes, hfresh, hingest, .nil _,
    by simp⟩

/-- The artifact depends on version 2, and the preview of the rebase to it lists the artifact. -/
theorem rebasePreview_dependents_sample :
    ∃ plan, (∃ bound, ∀ fuel, bound < fuel →
        computeRebasePreviewWithGraph sampleVersions .id (.id _) (some (sampleDependentGraph 2))
          10 1 2 fuel = some (.ok plan)) ∧
      ∃ i ∈ plan.affectedItems.affectedArtifacts, i.nodeId = 3 ∧ i.impact = .direct := by
  have hbuilt : (sampleDependentGraph 2).BuiltWith (sampleDependent 2) _ :=
    builtWith_sample ⟨rfl, by decide, by decide⟩ rfl
  obtain ⟨base, hbase⟩ : ∃ base, computeRebasePreview sampleVersions .id 10 1 2 = .ok base :=
    ⟨_, rfl⟩
  obtain ⟨version, hversion, hid⟩ : ∃ version,
      sampleVersions.getVersionByIntentAndNumber 10 2 = .ok version ∧ version.id = 21 :=
    ⟨_, rfl, rfl⟩
  obtain ⟨node, hnode, hnodeId⟩ : ∃ node, (sampleDependentGraph 2).findIntentVersionNode (.id _)
      version.id = some node ∧ node.id = 2 := by
    rw [hid]
    exact ⟨_, rfl, rfl⟩
  let g : GraphStore := ⟨sampleDependentGraph 2, hbuilt.consistent⟩
  obtain ⟨plan, hruns, _, _, hlists⟩ :=
    rebasePreview_dependents hbase hversion (show g.state.findIntentVersionNode _ _ = _ from hnode)
  refine ⟨plan, hruns, hlists _ _ hbuilt ?_⟩
  rw [hnodeId]
  exact List.mem_cons_self

theorem builtWith_replaced : ∃ item, (sampleDependentGraph 1).BuiltWith (sampleDependent 1) item :=
  ⟨_, builtWith_sample ⟨rfl, by decide, by decide⟩ rfl⟩

theorem rebasePreview_replaced {base : RebasePlan}
    (hbase : computeRebasePreview sampleVersions .id 10 1 2 = .ok base) (fuel : Nat) :
    computeRebasePreviewWithGraph sampleVersions .id (.id _) (some (sampleDependentGraph 1)) 10 1 2
      fuel = some (.ok { base with affectedItems := .fromClassification [] [] [] }) := by
  rw [computeRebasePreviewWithGraph, hbase]
  cases fuel <;> rfl

/-- The artifact depends on version 1, and the preview of the rebase from it lists no artifact. -/
theorem rebasePreview_misses_replaced :
    ∃ item plan node, (sampleDependentGraph 1).BuiltWith (sampleDependent 1) item ∧
      (sampleDependentGraph 1).findIntentVersionNode (.id _) 20 = some node ∧
      node.id ∈ (sampleDependent 1).dependsOnIntentVersions ∧
      (∀ fuel, computeRebasePreviewWithGraph sampleVersions .id (.id _)
        (some (sampleDependentGraph 1)) 10 1 2 fuel = some (.ok plan)) ∧
      plan.affectedItems.status = .available ∧ plan.affectedItems.affectedArtifacts = [] := by
  obtain ⟨base, hbase⟩ : ∃ base, computeRebasePreview sampleVersions .id 10 1 2 = .ok base :=
    ⟨_, rfl⟩
  obtain ⟨item, hbuilt⟩ := builtWith_replaced
  exact ⟨item, _, GraphState.newNode 1 0 (versionNode 20), hbuilt, rfl, List.mem_cons_self,
    rebasePreview_replaced hbase, rfl, rfl⟩

/-- The deferred fields show that a change of version 2 reaches no approval. -/
theorem rebasePreview_deferred_sample :
    ∃ before after plan node, ∃ g : GraphStore,
      sampleVersions.getVersionByIntentAndNumber 10 1 = .ok before ∧
      sampleVersions.getVersionByIntentAndNumber 10 2 = .ok after ∧
      g.state = sampleDependentGraph 1 ∧
      g.state.findIntentVersionNode (.id _) after.id = some node ∧
      (∃ bound, ∀ fuel, bound < fuel →
        computeRebasePreviewWithGraph sampleVersions .id (.id _) (some g.state) 10 1 2 fuel =
          some (.ok plan)) ∧
      plan.DeferredReflects ∧ ¬ g.Reaches node.id .approval := by
  obtain ⟨_, hbuilt⟩ := builtWith_replaced
  let g : GraphStore := ⟨sampleDependentGraph 1, hbuilt.consistent⟩
  obtain ⟨base, hbase⟩ : ∃ base, computeRebasePreview sampleVersions .id 10 1 2 = .ok base :=
    ⟨_, rfl⟩
  obtain ⟨before, after, plan, hbefore, hafter, ⟨bound, hruns⟩, hreflects⟩ :=
    rebasePreview_deferred_iff (.id _) (some g) hbase
  have hplan : plan = { base with affectedItems := .fromClassification [] [] [] } :=
    Except.ok.inj (Option.some.inj ((hruns (bound + 1) (Nat.lt_succ_self _)).symm.trans
      (rebasePreview_replaced hbase (bound + 1))))
  have hdeferred : plan.DeferredReflects := by
    rw [hplan, ← Except.ok.inj hbase]
    rfl
  obtain ⟨node, hnode⟩ : ∃ node, g.state.findIntentVersionNode (.id _) after.id = some node := by
    rw [← Except.ok.inj hafter]
    exact ⟨_, rfl⟩
  exact ⟨before, after, plan, node, g, hbefore, hafter, rfl, hnode, ⟨bound, hruns⟩, hdeferred,
    (hreflects.mp hdeferred g node rfl hnode).1⟩

/-- An approval of one version. -/
def sampleApproval (v : Uuid) : ApprovalIngestRequest where
  tenantId := 0
  workflowId := 0
  externalRef := ⟨.approval, 7⟩
  label := ""
  governedByPolicySnapshot := none
  intentVersionId := some v
  properties := none

/-- The graph of the two versions with the approval. -/
def sampleApprovalGraph (v : Uuid) : GraphState :=
  ((ingestApproval (Draw.from 3) (sampleApproval v)).on sampleVersionGraph).2

/-- The preview of the rebase lists the approval of version 2, and its deferred fields do not. -/
theorem rebasePreview_deferred_stale :
    ∃ plan, computeRebasePreviewWithGraph sampleVersions .id (.id _)
        (some (sampleApprovalGraph 2)) 10 1 2 5 = some (.ok plan) ∧
      plan.affectedItems.affectedApprovals.map AffectedItem.nodeId = [3] ∧
      plan.deferred.approvalRevalidation.approvalsNeedingRevalidation = [] ∧
      ¬ plan.DeferredReflects := by
  refine ⟨_, rfl, rfl, rfl, fun h => ?_⟩
  cases congrArg (fun f : DeferredFields =>
    f.approvalRevalidation.approvalsNeedingRevalidation) h

end Sample

end IntentRebase
