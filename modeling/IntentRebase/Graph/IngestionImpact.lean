import IntentRebase.Graph.Classification
import IntentRebase.Graph.Traceability

/-! Which ingested items the classification of a change finds: it follows the edges of artifacts and
approvals to their intent version, and not those of side effects. -/

namespace IntentRebase

open Kit

namespace IngestRequest

/-- The request derives its item from the intent version. -/
def LinkedTo (v : Uuid) : IngestRequest → Prop
  | artifact request => v ∈ request.dependsOnIntentVersions
  | approval request => request.intentVersionId = some v
  | sideEffect request => request.derivedFromIntentVersion = some v

/-- The type of the edge that derives the item. -/
def linkType : IngestRequest → EdgeType
  | artifact _ => .dependsOn
  | approval _ => .validatedBy
  | sideEffect _ => .derivedFrom

def IsSideEffect : IngestRequest → Prop
  | artifact _ => False
  | approval _ => False
  | sideEffect _ => True

/-- A request that derives its item from a version plans the edge for it. -/
theorem LinkedTo.link {request : IngestRequest} {v : Uuid} (h : request.LinkedTo v)
    (nodeId : Uuid) : ∃ r ∈ request.plan.links nodeId, r.fromNodeId = nodeId ∧ r.toNodeId = v ∧
      r.edgeType = request.linkType := by
  cases request with
  | artifact request => exact ⟨_, List.mem_map.mpr ⟨v, h, rfl⟩, rfl, rfl, rfl⟩
  | approval request =>
    have hmem : v ∈ request.intentVersionId.toList := Option.mem_toList.mpr h
    exact ⟨_, List.mem_append_right _ (List.mem_map.mpr ⟨v, hmem, rfl⟩), rfl, rfl, rfl⟩
  | sideEffect request =>
    have hmem : v ∈ request.derivedFromIntentVersion.toList := Option.mem_toList.mpr h
    exact ⟨_, List.mem_append_left _ (List.mem_cons_of_mem _ (List.mem_map.mpr ⟨v, hmem, rfl⟩)),
      rfl, rfl, rfl⟩

/-- An accepted request derives its item from nodes of the graph. -/
theorem LinkedTo.mem {request : IngestRequest} {s : GraphState} {v : Uuid}
    (h : request.LinkedTo v) (hvalid : request.plan.validate s = .ok ()) :
    ∃ n, s.nodes.lookup v = some n := by
  have hscoped : ∃ tenantId workflowId, s.Scoped tenantId workflowId v := by
    cases request with
    | artifact request =>
      simp only [plan, ArtifactIngestRequest.plan] at hvalid
      split at hvalid
      · cases hvalid
      exact ⟨_, _, scoped_of_references hvalid h⟩
    | approval request =>
      obtain ⟨_, hversion⟩ := Except.andThen_ok hvalid
      exact ⟨_, _, scoped_of_references hversion (Option.mem_toList.mpr h)⟩
    | sideEffect request =>
      obtain ⟨_, hrest⟩ := Except.andThen_ok hvalid
      obtain ⟨hversion, _⟩ := Except.andThen_ok hrest
      exact ⟨_, _, scoped_of_references hversion (Option.mem_toList.mpr h)⟩
  obtain ⟨_, _, n, hn, _⟩ := hscoped
  exact ⟨n, hn⟩

/-- The edges of an ingestion leave its own node, or trigger it. -/
theorem link_source {request : IngestRequest} {nodeId : Uuid} {r : CreateGraphEdgeRequest}
    (h : r ∈ request.plan.links nodeId) :
    r.fromNodeId = nodeId ∧ (request.IsSideEffect → r.edgeType = .derivedFrom ∨
      r.edgeType = .generatedFrom) ∨ r.edgeType = .triggers := by
  cases request with
  | artifact request =>
    obtain ⟨_, _, rfl⟩ := List.mem_map.mp h
    exact .inl ⟨rfl, False.elim⟩
  | approval request =>
    rcases List.mem_append.mp h with h | h
    · obtain ⟨_, _, rfl⟩ := List.mem_map.mp h
      exact .inl ⟨rfl, False.elim⟩
    · obtain ⟨_, _, rfl⟩ := List.mem_map.mp h
      exact .inl ⟨rfl, False.elim⟩
  | sideEffect request =>
    rcases List.mem_append.mp h with h | h
    · rcases List.mem_cons.mp h with rfl | h
      · exact .inr rfl
      · obtain ⟨_, _, rfl⟩ := List.mem_map.mp h
        exact .inl ⟨rfl, fun _ => .inl rfl⟩
    · obtain ⟨_, _, rfl⟩ := List.mem_map.mp h
      exact .inl ⟨rfl, fun _ => .inr rfl⟩

end IngestRequest

/-- The event deletes one of the item's edges or lets a new one leave it. -/
def GraphEvent.Rewires (item : IngestorResult) : GraphEvent → Prop
  | ingest _ _ => False
  | call (.createNode _ _) => False
  | call (.updateNodeState _ _) => False
  | call (.createEdge _ request) => request.fromNodeId = item.node.id
  | call (.deleteEdge id) => id ∈ item.edges.map GraphEdge.id

/-- The item's node and edges are stored, and a side effect has no other edges of the types that
start a classification. -/
structure GraphState.HoldsItem (s : GraphState) (request : IngestRequest)
    (item : IngestorResult) : Prop where
  node : ∃ n, s.nodes.lookup item.node.id = some n ∧ item.node.SameKind n
  edges : ∀ e ∈ item.edges, s.edges.lookup e.id = some e
  sideEffect : request.IsSideEffect → ∀ id e, s.edges.lookup id = some e →
    e.fromNodeId = item.node.id → e.edgeType ≠ .dependsOn ∧ e.edgeType ≠ .validatedBy

section Holds

variable {s s' : GraphState} {request : IngestRequest} {item : IngestorResult} {draws : Nat → Draw}

/-- The result of a successful ingestion. -/
theorem ingest_ok (h : (request.perform draws).on s = (.ok item, s')) :
    request.plan.validate s = .ok () ∧ s' = s.ingested draws request.plan ∧
    item.node = GraphState.newNode (draws 0).id (draws 0).now request.plan.node ∧
    item.edges = newEdges draws 1 (request.plan.links (draws 0).id) := by
  cases hvalid : request.plan.validate s with
  | error e =>
    rw [ingest_refused hvalid] at h
    cases h
  | ok u =>
    rw [ingest_accepted hvalid] at h
    cases h
    exact ⟨rfl, rfl, rfl, rfl⟩

theorem holdsItem_ingest (hs : s.Consistent) (hfresh : s.FreshDraws draws request.plan)
    (h : (request.perform draws).on s = (.ok item, s')) : s'.HoldsItem request item := by
  obtain ⟨_, rfl, hnode, hedges⟩ := ingest_ok h
  have hid : item.node.id = (draws 0).id := by rw [hnode]; rfl
  refine ⟨⟨item.node, ?_, .refl _⟩, fun e he => ?_, fun hside id e he hfrom => ?_⟩
  · rw [GraphState.nodes_ingested, lookup_insert_eq, hid, if_pos rfl, hnode]
  · rw [hedges] at he
    exact (GraphState.lookup_ingested_edge hfresh).mpr (.inr ⟨he, rfl⟩)
  · rcases (GraphState.lookup_ingested_edge hfresh).mp he with hold | ⟨hnew, _⟩
    · -- No old edge can leave the node, which did not exist.
      obtain ⟨n, hn, _⟩ := hs.fromNode id e hold
      rw [hfrom, hid, hfresh.node] at hn
      cases hn
    · obtain ⟨r, hr, i, rfl⟩ := GraphState.mem_newEdges hnew
      rcases IngestRequest.link_source hr with ⟨_, htype⟩ | htype
      · rcases htype hside with htype | htype <;> simp [GraphState.newEdge, htype]
      · simp [GraphState.newEdge, htype]

/-- Only rewiring takes an item out of the graph or gives a side effect another edge. -/
theorem holdsItem_step {event : GraphEvent} (h : GraphEvent.Step s event s')
    (hkeep : ¬ event.Rewires item) (hs : s.HoldsItem request item) :
    s'.HoldsItem request item := by
  obtain ⟨⟨n, hn, hsame⟩, hedges, hside⟩ := hs
  obtain ⟨n', hn', hsame'⟩ := h.node_kept hn
  refine ⟨⟨n', hn', hsame'.1.trans hsame.1, hsame'.2.1.trans hsame.2.1,
    hsame'.2.2.trans hsame.2.2⟩, fun e he => ?_, fun hsideEffect id e he hfrom => ?_⟩
  · refine h.edge_kept (hedges e he) ?_
    rintro rfl
    exact hkeep (List.mem_map_of_mem he)
  · rcases h.edge_origin he with hold | ⟨draws, request', rfl, hfresh, r, hr, i, rfl⟩ |
      ⟨draw, request', rfl, rfl⟩
    · exact hside hsideEffect id e hold hfrom
    · rcases IngestRequest.link_source hr with ⟨hsource, _⟩ | htype
      · -- The new item is another node than this one.
        have hnew := hfresh.node
        rw [← hsource, show r.fromNodeId = item.node.id from hfrom, hn] at hnew
        cases hnew
      · simp [GraphState.newEdge, htype]
    · exact absurd hfrom hkeep

theorem holdsItem_run {events : List GraphEvent} (h : Run GraphEvent.Step s events s')
    (hkeep : ∀ event ∈ events, ¬ event.Rewires item) (hs : s.HoldsItem request item) :
    s'.HoldsItem request item := by
  have hstep : ∀ (s : GraphState) (event : GraphEvent) (s' : GraphState), ¬ event.Rewires item →
      GraphEvent.Step s event s' → s.HoldsItem request item → s'.HoldsItem request item :=
    fun _ _ _ hallowed hstep hinv => holdsItem_step hstep hallowed hinv
  exact (h.invariant hstep hkeep hs :)

end Holds

namespace ClassifyRequest

/-- The rules and the reported types are the default ones, and direct effects are within the depth
limit. -/
structure UsesDefaults (request : ClassifyRequest) : Prop where
  config : request.config = defaultPropagationConfig
  targetTypes : request.targetTypes = some defaultPropagationConfig.targetNodeTypes
  depthLimit : 1 ≤ request.depthLimit

example (v : Uuid) : UsesDefaults { startNodeId := v } := ⟨rfl, rfl, show 1 ≤ 3 by decide⟩

example (v : Uuid) :
    UsesDefaults { startNodeId := v, propagationConfig := some defaultPropagationConfig } :=
  ⟨rfl, rfl, show 1 ≤ 3 by decide⟩

end ClassifyRequest

section Direct

variable {g : GraphStore} {classify : ClassifyRequest} {result : ClassificationResult} {v : Uuid}

/-- A node is one step from the start exactly if an edge that starts the search says so. -/
theorem distance_one_iff : (impactSearch g classify).Distance v 1 ↔
    SeedEdge g classify.config classify.startNodeId v := by
  constructor
  · rintro ⟨hwalk, _⟩
    cases hwalk with
    | init hinit _ => exact hinit
    | step hprefix _ _ => exact absurd hprefix.base_le (Nat.not_succ_le_zero 0)
  · exact fun h => ⟨.init h trivial, fun hwalk => hwalk.base_le⟩

/-- An exact report holds as directly affected the reported types one step from the start. -/
theorem ExactClassification.direct_iff (h : ExactClassification g classify result)
    (hdepth : 1 ≤ classify.depthLimit) :
    (∃ c ∈ result.classifiedNodes, c.node.id = v ∧ c.impact = .direct) ↔
      (∃ n, g.state.nodes.lookup v = some n ∧ IsTarget classify n.nodeType) ∧
      SeedEdge g classify.config classify.startNodeId v := by
  constructor
  · rintro ⟨c, hc, rfl, himpact⟩
    obtain ⟨hlookup, d, hdistance, hkind⟩ := h.impact c hc
    obtain ⟨n, _, hn, htarget, _⟩ := (h.mem c.node.id).mp (List.mem_map_of_mem hc)
    have hone : d = 1 := by
      by_contra hne
      rw [if_neg hne, himpact] at hkind
      cases hkind
    exact ⟨⟨n, hn, htarget⟩, distance_one_iff.mp (hone ▸ hdistance)⟩
  · rintro ⟨⟨n, hn, htarget⟩, hseed⟩
    have hdistance := distance_one_iff.mpr hseed
    obtain ⟨c, hc, rfl⟩ := List.mem_map.mp
      ((h.mem v).mpr ⟨n, 1, hn, htarget, hdistance, le_rfl, hdepth⟩)
    obtain ⟨_, d, hd, himpact⟩ := h.impact c hc
    have hone : d = 1 := hd.unique hdistance
    exact ⟨c, hc, rfl, by rw [himpact, if_pos hone]⟩

end Direct

section Found

variable {s s' : GraphState} {request : IngestRequest} {item : IngestorResult}
  {draws : Nat → Draw} {classify : ClassifyRequest}

/-- The types of ingested items are reported. -/
theorem isTarget_of_defaults (h : classify.UsesDefaults) (hnode : item.node =
    GraphState.newNode (draws 0).id (draws 0).now request.plan.node) {n : GraphNode}
    (hsame : item.node.SameKind n) : IsTarget classify n.nodeType := by
  intro allowed hallowed
  rw [h.targetTypes] at hallowed
  obtain rfl := Option.some.inj hallowed
  rw [hsame.1, hnode]
  cases request with
  | artifact request => exact List.mem_cons_self
  | approval request => exact List.mem_cons_of_mem _ List.mem_cons_self
  | sideEffect request =>
    exact List.mem_cons_of_mem _ (List.mem_cons_of_mem _ List.mem_cons_self)

/-- Where an item is held, the edge that derives it starts the search from its version, unless the
item is a side effect: then no edge does. -/
theorem seedEdge_iff {g : GraphStore} (hheld : g.state.HoldsItem request item)
    (hnode : item.node.id = (draws 0).id)
    (hedges : item.edges = newEdges draws 1 (request.plan.links (draws 0).id))
    (hlink : request.LinkedTo classify.startNodeId) (hconfig : classify.UsesDefaults) :
    SeedEdge g classify.config classify.startNodeId item.node.id ↔ ¬ request.IsSideEffect := by
  constructor
  · rintro ⟨e, he, ⟨htype, _⟩, _, hfrom⟩ hside
    obtain ⟨hdepends, hvalidated⟩ := hheld.sideEffect hside e.id e he hfrom
    rw [List.mem_cons, List.mem_singleton] at htype
    exact htype.elim hdepends hvalidated
  · intro hside
    obtain ⟨r, hr, hfrom, hto, htype⟩ := hlink.link (draws 0).id
    obtain ⟨i, hi⟩ := GraphState.newEdge_mem draws 1 hr
    rw [← hedges] at hi
    refine ⟨_, hheld.edges _ hi, ?_, hto, hfrom.trans hnode.symm⟩
    rw [Follows, hconfig.config]
    have hlinkType : (GraphState.newEdge (draws i).id (draws i).now r).edgeType =
        request.linkType := htype
    rw [hlinkType]
    cases request with
    | artifact request => exact ⟨List.mem_cons_self, List.mem_cons_self⟩
    | approval request =>
      exact ⟨by simp [IngestRequest.linkType],
        by simp [IngestRequest.linkType, defaultPropagationConfig]⟩
    | sideEffect request => exact absurd trivial hside

end Found

/-- An item ingested as derived from an intent version, and not rewired since, is reported as
directly affected by a change of the version if it is an artifact or an approval, and is not if it
is a side effect. -/
theorem ingested_direct_iff {s s₁ s₂ s₃ : GraphState} {before after : List GraphEvent}
    {draws : Nat → Draw} {request : IngestRequest} {item : IngestorResult}
    {classify : ClassifyRequest} (hs : s.Consistent)
    (hbefore : Run GraphEvent.Step s before s₁) (hfresh : s₁.FreshDraws draws request.plan)
    (hingest : (request.perform draws).on s₁ = (.ok item, s₂))
    (hafter : Run GraphEvent.Step s₂ after s₃) (hkeep : ∀ event ∈ after, ¬ event.Rewires item)
    (hlink : request.LinkedTo classify.startNodeId) (hdefaults : classify.UsesDefaults) :
    ∃ result, (∃ bound, ∀ fuel, bound < fuel →
        classifyImpact s₃ classify fuel = some (.ok result)) ∧
      ((∃ c ∈ result.classifiedNodes, c.node.id = item.node.id ∧ c.impact = .direct) ↔
        ¬ request.IsSideEffect) := by
  obtain ⟨hvalid, _, hnode, hedges⟩ := ingest_ok hingest
  have hs₁ := GraphEvent.consistent_of_run hbefore hs
  have hstep := GraphEvent.step_ingest hfresh hingest
  have hs₂ := hstep.consistent hs₁
  have hheld := holdsItem_run hafter hkeep (holdsItem_ingest hs₁ hfresh hingest)
  -- The version's node outlives every event.
  have hstart : classify.startNodeId ∈ s₃.nodes := by
    have hmem := hstep.mem_nodes (mem_iff_lookup.mpr (hlink.mem hvalid))
    exact (hafter.always (fun _ _ _ hstep hv => hstep.mem_nodes hv) hmem :)
  obtain ⟨result, hexact, hruns⟩ :=
    classifyImpact_report ⟨s₃, GraphEvent.consistent_of_run hafter hs₂⟩ classify hstart
  refine ⟨result, ⟨_, hruns⟩, (hexact.direct_iff hdefaults.depthLimit).trans ?_⟩
  obtain ⟨n, hn, hsame⟩ := hheld.node
  have hid : item.node.id = (draws 0).id := by rw [hnode]; rfl
  have htarget : ∃ n, s₃.nodes.lookup item.node.id = some n ∧ IsTarget classify n.nodeType :=
    ⟨n, hn, isTarget_of_defaults hdefaults hnode hsame⟩
  exact (and_iff_right htarget).trans
    (seedEdge_iff (g := ⟨s₃, GraphEvent.consistent_of_run hafter hs₂⟩) hheld hid hedges hlink hdefaults)

section Sample

/-- An intent version and a workflow, of tenant 0 and workflow 0. -/
def versionAndTask : List GraphEvent :=
  [.call (.createNode ⟨1, 0⟩ (GraphStore.plainNode .intentVersion)),
    .call (.createNode ⟨2, 0⟩ (GraphStore.plainNode .workflow))]

/-- A side effect that the workflow triggers, derived from the intent version. -/
def sampleSideEffect : IngestRequest :=
  .sideEffect
    { tenantId := 0, workflowId := 0, externalRef := ⟨.sideEffect, 0⟩, label := ""
      triggeredByTask := 2, derivedFromIntentVersion := some 1, approvalSnapshotId := none
      properties := none }

/-- The graph of the intent version and the workflow. -/
def versionAndTaskState : GraphState :=
  ((versionAndTask.forM GraphEvent.perform : GraphEffect Unit).on .empty).2

theorem run_versionAndTask : Run GraphEvent.Step .empty versionAndTask versionAndTaskState :=
  .cons ⟨rfl, rfl⟩ (.cons ⟨rfl, rfl⟩ (.nil _))

theorem ingested_direct_sample :
    ∃ item s, ((sampleArtifact [1]).perform (Draw.from 3)).on versionAndTaskState =
        (.ok item, s) ∧
      ∃ result, (∃ bound, ∀ fuel, bound < fuel →
        classifyImpact s { startNodeId := 1 } fuel = some (.ok result)) ∧
      ((∃ c ∈ result.classifiedNodes, c.node.id = item.node.id ∧ c.impact = .direct) ↔
        ¬ (sampleArtifact [1]).IsSideEffect) := by
  have hfresh : versionAndTaskState.FreshDraws (Draw.from 3) (sampleArtifact [1]).plan :=
    ⟨rfl, by decide, by decide⟩
  have hlink : (sampleArtifact [1]).LinkedTo 1 := List.mem_cons_self
  have hdefaults : ClassifyRequest.UsesDefaults { startNodeId := 1 } :=
    ⟨rfl, rfl, show 1 ≤ 3 by decide⟩
  exact ⟨_, _, rfl, ingested_direct_iff .empty run_versionAndTask hfresh rfl (.nil _) (by simp)
    hlink hdefaults⟩

/-- A side effect ingested as derived from intent version 1 is not in the report of its change. -/
theorem ingested_sideEffect_unreported :
    ∃ item s, Run GraphEvent.Step .empty versionAndTask versionAndTaskState ∧
      versionAndTaskState.FreshDraws (Draw.from 3) sampleSideEffect.plan ∧
      sampleSideEffect.LinkedTo 1 ∧
      (sampleSideEffect.perform (Draw.from 3)).on versionAndTaskState = (.ok item, s) ∧
      ∀ fuel, classifyImpact s { startNodeId := 1 } fuel =
        some (.ok { classifiedNodes := [], startNodeId := 1, maxDepth := 3 }) := by
  refine ⟨_, _, run_versionAndTask, ⟨rfl, by decide, by decide⟩, rfl, rfl, fun fuel => ?_⟩
  cases fuel <;> rfl

end Sample

end IntentRebase
