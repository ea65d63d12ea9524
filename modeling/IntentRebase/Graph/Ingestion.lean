import IntentRebase.Graph.Repository

/-! The ingestion of artifacts, approvals and side effects: each request is checked against the
graph, then becomes a node and its edges. The checks exclude every failure of the writes. -/

namespace IntentRebase

open Kit

/-- The name of a node's type in a message. -/
def NodeType.debug : NodeType → String
  | .intent => "Intent"
  | .intentVersion => "IntentVersion"
  | .artifact => "Artifact"
  | .approval => "Approval"
  | .policySnapshot => "PolicySnapshot"
  | .sideEffect => "SideEffect"
  | .checkpoint => "Checkpoint"
  | .workflow => "Workflow"
  | .generic => "Generic"

structure ArtifactIngestRequest where
  tenantId : Uuid
  workflowId : Uuid
  externalRef : ExternalRef
  label : String
  dependsOnIntentVersions : List Uuid
  properties : Option Json

structure ApprovalIngestRequest where
  tenantId : Uuid
  workflowId : Uuid
  externalRef : ExternalRef
  label : String
  governedByPolicySnapshot : Option Uuid
  intentVersionId : Option Uuid
  properties : Option Json

structure SideEffectIngestRequest where
  tenantId : Uuid
  workflowId : Uuid
  externalRef : ExternalRef
  label : String
  triggeredByTask : Uuid
  derivedFromIntentVersion : Option Uuid
  approvalSnapshotId : Option Uuid
  properties : Option Json

/-- The created node, and the edges created with it. -/
structure IngestorResult where
  node : GraphNode
  edges : List GraphEdge

/-- How the errors name a node that a request refers to, and the type that it must have. -/
structure ReferenceKind where
  name : String
  article : String := ""
  nodeType : Option NodeType := none

namespace ReferenceKind

def intentVersion : ReferenceKind :=
  { name := "IntentVersion", article := "an", nodeType := some .intentVersion }

def policySnapshot : ReferenceKind :=
  { name := "PolicySnapshot", article := "a", nodeType := some .policySnapshot }

def approval : ReferenceKind :=
  { name := "Approval", article := "an", nodeType := some .approval }

/-- A node of any type may trigger a side effect. -/
def triggering : ReferenceKind := { name := "Triggering" }

end ReferenceKind

/-- The node exists, in the given tenant and workflow. -/
def GraphState.Scoped (s : GraphState) (tenantId workflowId v : Uuid) : Prop :=
  ∃ n, s.nodes.lookup v = some n ∧ n.tenantId = tenantId ∧ n.workflowId = workflowId

/-- A node that a request refers to exists, is of the right type, and belongs to the tenant and
workflow of the request's `subject`. -/
def checkReference (s : GraphState) (kind : ReferenceKind) (subject : String)
    (tenantId workflowId nodeId : Uuid) : Except IntentRebaseError Unit :=
  match s.getNode nodeId with
  | .error (.graphNodeNotFound _) =>
    .error (.invalidIngestRequest (kind.name ++ " node " ++ nodeId.display ++ " does not exist"))
  | .error e => .error e
  | .ok node =>
    if kind.nodeType.any (node.nodeType != ·) then
      .error (.invalidIngestRequest ("Node " ++ nodeId.display ++ " is not " ++ kind.article ++
        " " ++ kind.name ++ " (found " ++ node.nodeType.debug ++ ")"))
    else if node.tenantId ≠ tenantId then
      .error (.invalidIngestRequest (kind.name ++ " node " ++ nodeId.display ++
        " belongs to tenant " ++ node.tenantId.display ++ " but " ++ subject ++ " has tenant " ++
        tenantId.display))
    else if node.workflowId ≠ workflowId then
      .error (.invalidIngestRequest (kind.name ++ " node " ++ nodeId.display ++
        " belongs to workflow " ++ node.workflowId.display ++ " but " ++ subject ++
        " has workflow " ++ workflowId.display))
    else .ok ()

/-- The checks of several references, in order. -/
def checkReferences (s : GraphState) (kind : ReferenceKind) (subject : String)
    (tenantId workflowId : Uuid) : List Uuid → Except IntentRebaseError Unit
  | [] => .ok ()
  | nodeId :: rest => do
    checkReference s kind subject tenantId workflowId nodeId
    checkReferences s kind subject tenantId workflowId rest

/-- The request for an edge of an ingested node. -/
def linkRequest (tenantId workflowId fromNodeId toNodeId : Uuid) (edgeType : EdgeType)
    (direction targetType : String) : CreateGraphEdgeRequest where
  tenantId := tenantId
  workflowId := workflowId
  fromNodeId := fromNodeId
  toNodeId := toNodeId
  edgeType := edgeType
  properties := some (.object
    [("direction", .string direction), ("target_type", .string targetType)])

/-- What a request asks of the graph: its checks, its node, and the edges at the node. -/
structure IngestPlan where
  validate : GraphState → Except IntentRebaseError Unit
  node : CreateGraphNodeRequest
  links : Uuid → List CreateGraphEdgeRequest

def ArtifactIngestRequest.plan (request : ArtifactIngestRequest) : IngestPlan where
  validate s :=
    if request.dependsOnIntentVersions.isEmpty then .error .artifactTraceabilityEmpty
    else checkReferences s .intentVersion "artifact" request.tenantId request.workflowId
      request.dependsOnIntentVersions
  node :=
    { tenantId := request.tenantId, workflowId := request.workflowId, nodeType := .artifact
      externalRef := some request.externalRef, label := request.label
      properties := request.properties }
  links nodeId := request.dependsOnIntentVersions.map fun intentVersionId =>
    linkRequest request.tenantId request.workflowId nodeId intentVersionId .dependsOn "upstream"
      "IntentVersion"

def ApprovalIngestRequest.plan (request : ApprovalIngestRequest) : IngestPlan where
  validate s := do
    checkReferences s .policySnapshot "approval" request.tenantId request.workflowId
      request.governedByPolicySnapshot.toList
    checkReferences s .intentVersion "approval" request.tenantId request.workflowId
      request.intentVersionId.toList
  node :=
    { tenantId := request.tenantId, workflowId := request.workflowId, nodeType := .approval
      externalRef := some request.externalRef, label := request.label
      properties := request.properties }
  links nodeId :=
    (request.governedByPolicySnapshot.toList.map fun policySnapshotId =>
      linkRequest request.tenantId request.workflowId nodeId policySnapshotId .governedBy
        "upstream" "PolicySnapshot") ++
    request.intentVersionId.toList.map fun intentVersionId =>
      linkRequest request.tenantId request.workflowId nodeId intentVersionId .validatedBy
        "upstream" "IntentVersion"

def SideEffectIngestRequest.plan (request : SideEffectIngestRequest) : IngestPlan where
  validate s := do
    checkReference s .triggering "side effect" request.tenantId request.workflowId
      request.triggeredByTask
    checkReferences s .intentVersion "side effect" request.tenantId request.workflowId
      request.derivedFromIntentVersion.toList
    checkReferences s .approval "side effect" request.tenantId request.workflowId
      request.approvalSnapshotId.toList
  node :=
    { tenantId := request.tenantId, workflowId := request.workflowId, nodeType := .sideEffect
      externalRef := some request.externalRef, label := request.label
      properties := request.properties }
  links nodeId :=
    linkRequest request.tenantId request.workflowId request.triggeredByTask nodeId .triggers
      "downstream" "SideEffect" ::
    (request.derivedFromIntentVersion.toList.map fun intentVersionId =>
      linkRequest request.tenantId request.workflowId nodeId intentVersionId .derivedFrom
        "upstream" "IntentVersion") ++
    request.approvalSnapshotId.toList.map fun approvalSnapshotId =>
      linkRequest request.tenantId request.workflowId nodeId approvalSnapshotId .generatedFrom
        "upstream" "Approval"

/-- The edges are created one after another, each with a draw of its own. -/
def wireEdges (draws : Nat → Draw) : Nat → List CreateGraphEdgeRequest →
    GraphEffect (List GraphEdge)
  | _, [] => return []
  | k, request :: rest => do
    let edge ← InMemoryGraphRepository.createEdge (draws k) request
    let edges ← wireEdges draws (k + 1) rest
    return edge :: edges

/-- The node is created once the checks have passed, and then its edges. -/
def ingest (draws : Nat → Draw) (plan : IngestPlan) : GraphEffect IngestorResult := do
  let s ← get
  plan.validate s
  let node ← InMemoryGraphRepository.createNode (draws 0) plan.node
  let edges ← wireEdges draws 1 (plan.links node.id)
  return { node, edges }

def ingestArtifact (draws : Nat → Draw) (request : ArtifactIngestRequest) :
    GraphEffect IngestorResult :=
  ingest draws request.plan

def ingestApproval (draws : Nat → Draw) (request : ApprovalIngestRequest) :
    GraphEffect IngestorResult :=
  ingest draws request.plan

def ingestSideEffect (draws : Nat → Draw) (request : SideEffectIngestRequest) :
    GraphEffect IngestorResult :=
  ingest draws request.plan

/-- A request to ingest one of the three kinds of item. -/
inductive IngestRequest where
  | artifact (request : ArtifactIngestRequest)
  | approval (request : ApprovalIngestRequest)
  | sideEffect (request : SideEffectIngestRequest)

namespace IngestRequest

def plan : IngestRequest → IngestPlan
  | artifact request => request.plan
  | approval request => request.plan
  | sideEffect request => request.plan

/-- The call that serves the request. -/
def perform (draws : Nat → Draw) : IngestRequest → GraphEffect IngestorResult
  | artifact request => ingestArtifact draws request
  | approval request => ingestApproval draws request
  | sideEffect request => ingestSideEffect draws request

theorem perform_eq (draws : Nat → Draw) (request : IngestRequest) :
    request.perform draws = ingest draws request.plan := by
  cases request <;> rfl

end IngestRequest

section Checks

variable {s : GraphState} {kind : ReferenceKind} {subject : String} {tenantId workflowId : Uuid}

theorem checkEndpoint_of_scoped {name : String} {v : Uuid} (h : s.Scoped tenantId workflowId v) :
    s.checkEndpoint name v tenantId workflowId = .ok () := by
  obtain ⟨n, hn, rfl, rfl⟩ := h
  simp [GraphState.checkEndpoint, hn]

/-- What a reference that passes its checks is. -/
theorem checkReference_ok {v : Uuid}
    (h : checkReference s kind subject tenantId workflowId v = .ok ()) :
    ∃ n, s.nodes.lookup v = some n ∧ (∀ t ∈ kind.nodeType, n.nodeType = t) ∧
      n.tenantId = tenantId ∧ n.workflowId = workflowId := by
  unfold checkReference at h
  cases hn : s.getNode v with
  | error e => cases e <;> simp [hn] at h
  | ok node =>
    have hlookup : s.nodes.lookup v = some node := by
      unfold GraphState.getNode at hn
      cases hl : s.nodes.lookup v with
      | none => simp [hl] at hn
      | some n =>
        rw [hl] at hn
        exact congrArg some (Except.ok.inj hn)
    rw [hn] at h
    dsimp only at h
    split at h
    · cases h
    next htype =>
    split at h
    · cases h
    next htenant =>
    split at h
    · cases h
    next hworkflow =>
    refine ⟨node, hlookup, fun t ht => ?_, not_not.mp htenant, not_not.mp hworkflow⟩
    simpa [Option.mem_def.mp ht] using htype

theorem checkReferences_ok {vs : List Uuid}
    (h : checkReferences s kind subject tenantId workflowId vs = .ok ()) :
    ∀ v ∈ vs, checkReference s kind subject tenantId workflowId v = .ok () := by
  induction vs with
  | nil => simp
  | cons v rest ih =>
    rw [checkReferences] at h
    cases hv : checkReference s kind subject tenantId workflowId v with
    | error e => rw [hv] at h; cases h
    | ok u =>
      rw [hv] at h
      exact List.forall_mem_cons.mpr ⟨hv, ih h⟩

theorem scoped_of_references {vs : List Uuid}
    (h : checkReferences s kind subject tenantId workflowId vs = .ok ()) {v : Uuid} (hv : v ∈ vs) :
    s.Scoped tenantId workflowId v := by
  obtain ⟨n, hn, _, htenant, hworkflow⟩ := checkReference_ok (checkReferences_ok h v hv)
  exact ⟨n, hn, htenant, hworkflow⟩

/-- A sequence of two checks passes if both do. -/
theorem Except.andThen_ok {ε : Type} {first : Except ε Unit} {second : Except ε Unit}
    (h : (do first; second) = .ok ()) : first = .ok () ∧ second = .ok () := by
  cases first with
  | error e => cases h
  | ok u => exact ⟨rfl, h⟩

/-- Both ends of a planned edge are in its tenant and workflow: the ingested node itself, or a node
that the graph has. -/
structure IngestPlan.LinkScoped (plan : IngestPlan) (s : GraphState) (nodeId : Uuid)
    (link : CreateGraphEdgeRequest) : Prop where
  tenantId : link.tenantId = plan.node.tenantId
  workflowId : link.workflowId = plan.node.workflowId
  source : link.fromNodeId = nodeId ∨
    s.Scoped plan.node.tenantId plan.node.workflowId link.fromNodeId
  target : link.toNodeId = nodeId ∨
    s.Scoped plan.node.tenantId plan.node.workflowId link.toNodeId

/-- The checks of a request vouch for both ends of every edge that it plans. -/
theorem IngestRequest.linkScoped (request : IngestRequest)
    (h : request.plan.validate s = .ok ()) (nodeId : Uuid) :
    ∀ link ∈ request.plan.links nodeId, request.plan.LinkScoped s nodeId link := by
  intro link hlink
  cases request with
  | artifact request =>
    simp only [plan, ArtifactIngestRequest.plan] at h hlink
    split at h
    · cases h
    obtain ⟨v, hv, rfl⟩ := List.mem_map.mp hlink
    exact ⟨rfl, rfl, .inl rfl, .inr (scoped_of_references h hv)⟩
  | approval request =>
    obtain ⟨hpolicy, hversion⟩ := Except.andThen_ok h
    rcases List.mem_append.mp hlink with hlink | hlink
    · obtain ⟨v, hv, rfl⟩ := List.mem_map.mp hlink
      exact ⟨rfl, rfl, .inl rfl, .inr (scoped_of_references hpolicy hv)⟩
    · obtain ⟨v, hv, rfl⟩ := List.mem_map.mp hlink
      exact ⟨rfl, rfl, .inl rfl, .inr (scoped_of_references hversion hv)⟩
  | sideEffect request =>
    obtain ⟨htask, hrest⟩ := Except.andThen_ok h
    obtain ⟨hversion, happroval⟩ := Except.andThen_ok hrest
    rcases List.mem_append.mp hlink with hlink | hlink
    · rcases List.mem_cons.mp hlink with rfl | hlink
      · obtain ⟨n, hn, _, htenant, hworkflow⟩ := checkReference_ok htask
        exact ⟨rfl, rfl, .inr ⟨n, hn, htenant, hworkflow⟩, .inl rfl⟩
      · obtain ⟨v, hv, rfl⟩ := List.mem_map.mp hlink
        exact ⟨rfl, rfl, .inl rfl, .inr (scoped_of_references hversion hv)⟩
    · obtain ⟨v, hv, rfl⟩ := List.mem_map.mp hlink
      exact ⟨rfl, rfl, .inl rfl, .inr (scoped_of_references happroval hv)⟩

end Checks

/-- The edges that a list of requests creates. -/
def newEdges (draws : Nat → Draw) : Nat → List CreateGraphEdgeRequest → List GraphEdge
  | _, [] => []
  | k, request :: rest =>
    GraphState.newEdge (draws k).id (draws k).now request :: newEdges draws (k + 1) rest

namespace GraphState

/-- The state with more edges. -/
def addEdges (s : GraphState) (edges : List GraphEdge) : GraphState := edges.foldl addEdge s

/-- The state with an ingested node and its edges. -/
def ingested (s : GraphState) (draws : Nat → Draw) (plan : IngestPlan) : GraphState :=
  (s.createNode (draws 0).id (draws 0).now plan.node).2.addEdges
    (newEdges draws 1 (plan.links (draws 0).id))

variable {s s' : GraphState}

theorem addEdges_cons (s : GraphState) (edge : GraphEdge) (rest : List GraphEdge) :
    s.addEdges (edge :: rest) = (s.addEdge edge).addEdges rest := rfl

@[simp] theorem nodes_addEdges (s : GraphState) (edges : List GraphEdge) :
    (s.addEdges edges).nodes = s.nodes := by
  induction edges generalizing s with
  | nil => rfl
  | cons edge rest ih =>
    rw [addEdges_cons, ih]
    rfl

@[simp] theorem nodes_ingested (s : GraphState) (draws : Nat → Draw) (plan : IngestPlan) :
    (s.ingested draws plan).nodes =
      s.nodes.insert (draws 0).id (newNode (draws 0).id (draws 0).now plan.node) :=
  nodes_addEdges _ _

/-- Edges between scoped nodes are created without a failure. -/
theorem wireEdges_on {draws : Nat → Draw} {requests : List CreateGraphEdgeRequest} {k : Nat}
    (h : ∀ r ∈ requests, s.Scoped r.tenantId r.workflowId r.fromNodeId ∧
      s.Scoped r.tenantId r.workflowId r.toNodeId) :
    (wireEdges draws k requests).on s =
      (.ok (newEdges draws k requests), s.addEdges (newEdges draws k requests)) := by
  induction requests generalizing s k with
  | nil => rfl
  | cons request rest ih =>
    obtain ⟨⟨hfrom, hto⟩, hrest⟩ := List.forall_mem_cons.mp h
    have hcreate : (InMemoryGraphRepository.createEdge (draws k) request).on s =
        (.ok (newEdge (draws k).id (draws k).now request),
          s.addEdge (newEdge (draws k).id (draws k).now request)) := by
      rw [InMemoryGraphRepository.createEdge_eq]
      refine Effect.on_transaction_ok ?_
      rw [createEdge, checkEndpoint_of_scoped hfrom, checkEndpoint_of_scoped hto]
      rfl
    have hwire : (wireEdges draws (k + 1) rest).on
        (s.addEdge (newEdge (draws k).id (draws k).now request)) = _ := ih hrest
    rw [wireEdges, Effect.on_bind_ok hcreate, Effect.on_bind_ok hwire]
    rfl

/-- A new node in the scope of its edges is one of their scoped ends. -/
theorem scoped_createNode {tenantId workflowId v id : Uuid} {now : DateTime}
    {request : CreateGraphNodeRequest} (htenant : request.tenantId = tenantId)
    (hworkflow : request.workflowId = workflowId)
    (h : v = id ∨ s.Scoped tenantId workflowId v) :
    (s.createNode id now request).2.Scoped tenantId workflowId v := by
  by_cases hv : v = id
  · exact ⟨newNode id now request, by rw [createNode, lookup_insert_eq, if_pos hv], htenant,
      hworkflow⟩
  · obtain ⟨n, hn, hscope⟩ := h.resolve_left hv
    exact ⟨n, by rw [createNode, lookup_insert_eq, if_neg hv, hn], hscope⟩

/-- Both ends of an edge of an ingested node are scoped once the node is created. -/
theorem scoped_links {plan : IngestPlan} {id : Uuid} (now : DateTime)
    (h : ∀ link ∈ plan.links id, plan.LinkScoped s id link) :
    ∀ r ∈ plan.links id,
      (s.createNode id now plan.node).2.Scoped r.tenantId r.workflowId r.fromNodeId ∧
      (s.createNode id now plan.node).2.Scoped r.tenantId r.workflowId r.toNodeId := by
  intro r hr
  obtain ⟨htenant, hworkflow, hsource, htarget⟩ := h r hr
  rw [htenant, hworkflow]
  exact ⟨scoped_createNode rfl rfl hsource, scoped_createNode rfl rfl htarget⟩

end GraphState

section Calls

variable {s : GraphState} {draws : Nat → Draw} {request : IngestRequest}

/-- A request that fails a check writes nothing. -/
theorem ingest_refused {e : IntentRebaseError} (h : request.plan.validate s = .error e) :
    (request.perform draws).on s = (.error e, s) := by
  rw [IngestRequest.perform_eq, ingest, Effect.on_bind_ok (Effect.on_get s)]
  refine Effect.on_bind_error ?_
  rw [h]
  rfl

/-- A request that passes its checks meets no further failure. -/
theorem ingest_accepted (h : request.plan.validate s = .ok ()) :
    (request.perform draws).on s =
      (.ok { node := GraphState.newNode (draws 0).id (draws 0).now request.plan.node
             edges := newEdges draws 1 (request.plan.links (draws 0).id) },
        s.ingested draws request.plan) := by
  have hcheck : (liftM (request.plan.validate s) : GraphEffect Unit).on s = (.ok (), s) := by
    rw [Effect.on_lift, h]
  have hlinks := GraphState.scoped_links (draws 0).now (request.linkScoped h (draws 0).id)
  have hwire : (wireEdges draws 1 (request.plan.links (GraphState.newNode (draws 0).id
      (draws 0).now request.plan.node).id)).on
      (s.createNode (draws 0).id (draws 0).now request.plan.node).2 = _ :=
    GraphState.wireEdges_on hlinks
  rw [IngestRequest.perform_eq, ingest, Effect.on_bind_ok (Effect.on_get s),
    Effect.on_bind_ok hcheck, Effect.on_bind_ok (InMemoryGraphRepository.createNode_on s _ _),
    Effect.on_bind_ok hwire]
  rfl

/-- Ingestion is all or nothing. -/
theorem ingest_cases (s : GraphState) (draws : Nat → Draw) (request : IngestRequest) :
    (∃ e, (request.perform draws).on s = (.error e, s)) ∨
    request.plan.validate s = .ok () ∧ ((request.perform draws).on s).2 =
      s.ingested draws request.plan := by
  cases h : request.plan.validate s with
  | error e => exact .inl ⟨e, ingest_refused h⟩
  | ok u => exact .inr ⟨rfl, by rw [ingest_accepted h]⟩

section Artifact

variable {request : ArtifactIngestRequest}

theorem ingestArtifact_refused {e : IntentRebaseError}
    (h : request.plan.validate s = .error e) :
    (ingestArtifact draws request).on s = (.error e, s) :=
  @ingest_refused s draws (.artifact request) e h

variable (draws) in
theorem ingestArtifact_accepted (h : request.plan.validate s = .ok ()) :
    (ingestArtifact draws request).on s =
      (.ok { node := GraphState.newNode (draws 0).id (draws 0).now request.plan.node
             edges := newEdges draws 1 (request.plan.links (draws 0).id) },
        s.ingested draws request.plan) :=
  @ingest_accepted s draws (.artifact request) h

end Artifact

end Calls

namespace GraphState

variable {s s' : GraphState}

/-- After new edges are added, the stored edges are the old ones and the new ones. -/
theorem lookup_addEdges {edges : List GraphEdge} (hnodup : (edges.map GraphEdge.id).Nodup)
    (hfresh : ∀ e ∈ edges, s.edges.lookup e.id = none) {id : Uuid} {e : GraphEdge} :
    (s.addEdges edges).edges.lookup id = some e ↔
      s.edges.lookup id = some e ∨ e ∈ edges ∧ e.id = id := by
  induction edges generalizing s with
  | nil => simp [addEdges]
  | cons edge rest ih =>
    rw [List.map_cons, List.nodup_cons] at hnodup
    obtain ⟨hedge, hrest⟩ := List.forall_mem_cons.mp hfresh
    have hlookup : ∀ id', (s.addEdge edge).edges.lookup id' =
        if id' = edge.id then some edge else s.edges.lookup id' := fun id' =>
      lookup_insert_eq s.edges edge.id id' edge
    have hfresh' : ∀ e ∈ rest, (s.addEdge edge).edges.lookup e.id = none := by
      intro e he
      have hne : e.id ≠ edge.id := fun heq =>
        hnodup.1 (heq ▸ List.mem_map_of_mem (f := GraphEdge.id) he)
      rw [hlookup, if_neg hne, hrest e he]
    rw [addEdges_cons, ih hnodup.2 hfresh', hlookup, List.mem_cons]
    by_cases hid : id = edge.id
    · subst hid
      rw [if_pos rfl, hedge]
      constructor
      · rintro (heq | ⟨he, heid⟩)
        · exact .inr ⟨.inl (Option.some.inj heq).symm, by rw [Option.some.inj heq]⟩
        · exact .inr ⟨.inr he, heid⟩
      · rintro (heq | ⟨rfl | he, heid⟩)
        · cases heq
        · exact .inl rfl
        · exact .inr ⟨he, heid⟩
    · rw [if_neg hid]
      refine or_congr_right ⟨fun h => ⟨.inr h.1, h.2⟩, ?_⟩
      rintro ⟨rfl | he, heid⟩
      · exact absurd heid.symm hid
      · exact ⟨he, heid⟩

theorem Consistent.addEdges (h : s.Consistent) {edges : List GraphEdge}
    (hnodup : (edges.map GraphEdge.id).Nodup) (hfresh : ∀ e ∈ edges, s.edges.lookup e.id = none)
    (hscope : ∀ e ∈ edges, s.Scoped e.tenantId e.workflowId e.fromNodeId ∧
      s.Scoped e.tenantId e.workflowId e.toNodeId) : (s.addEdges edges).Consistent := by
  induction edges generalizing s with
  | nil => exact h
  | cons edge rest ih =>
    rw [List.map_cons, List.nodup_cons] at hnodup
    obtain ⟨hedge, hrest⟩ := List.forall_mem_cons.mp hfresh
    obtain ⟨⟨hfrom, hto⟩, hscope⟩ := List.forall_mem_cons.mp hscope
    refine ih (h.addEdge hedge hfrom hto) hnodup.2 (fun e he => ?_) hscope
    have hne : e.id ≠ edge.id := fun heq =>
      hnodup.1 (heq ▸ List.mem_map_of_mem (f := GraphEdge.id) he)
    have hlookup := lookup_insert_eq s.edges edge.id e.id edge
    rw [if_neg hne, hrest e he] at hlookup
    exact hlookup

theorem mem_newEdges {draws : Nat → Draw} {requests : List CreateGraphEdgeRequest} {k : Nat}
    {e : GraphEdge} (h : e ∈ newEdges draws k requests) :
    ∃ r ∈ requests, ∃ i, e = newEdge (draws i).id (draws i).now r := by
  induction requests generalizing k with
  | nil => cases h
  | cons request rest ih =>
    rcases List.mem_cons.mp h with rfl | h
    · exact ⟨request, List.mem_cons_self, k, rfl⟩
    · obtain ⟨r, hr, hi⟩ := ih h
      exact ⟨r, List.mem_cons_of_mem _ hr, hi⟩

/-- Every request of a list has its new edge. -/
theorem newEdge_mem (draws : Nat → Draw) {requests : List CreateGraphEdgeRequest} (k : Nat)
    {r : CreateGraphEdgeRequest} (h : r ∈ requests) :
    ∃ i, newEdge (draws i).id (draws i).now r ∈ newEdges draws k requests := by
  induction requests generalizing k with
  | nil => cases h
  | cons request rest ih =>
    rcases List.mem_cons.mp h with rfl | h
    · exact ⟨k, List.mem_cons_self⟩
    · obtain ⟨i, hi⟩ := ih (k + 1) h
      exact ⟨i, List.mem_cons_of_mem _ hi⟩

/-- The identifiers that an ingestion draws are new. -/
structure FreshDraws (s : GraphState) (draws : Nat → Draw) (plan : IngestPlan) : Prop where
  node : s.nodes.lookup (draws 0).id = none
  nodup : ((newEdges draws 1 (plan.links (draws 0).id)).map GraphEdge.id).Nodup
  edges : ∀ e ∈ newEdges draws 1 (plan.links (draws 0).id), s.edges.lookup e.id = none

theorem Consistent.ingested (h : s.Consistent) {draws : Nat → Draw} {plan : IngestPlan}
    (hfresh : s.FreshDraws draws plan)
    (hlinks : ∀ link ∈ plan.links (draws 0).id, plan.LinkScoped s (draws 0).id link) :
    (s.ingested draws plan).Consistent := by
  refine (h.createNode hfresh.node (draws 0).now plan.node).addEdges hfresh.nodup hfresh.edges ?_
  intro e he
  obtain ⟨r, hr, i, rfl⟩ := mem_newEdges he
  exact scoped_links (draws 0).now hlinks r hr

theorem lookup_ingested_edge {draws : Nat → Draw} {plan : IngestPlan}
    (hfresh : s.FreshDraws draws plan) {id : Uuid} {e : GraphEdge} :
    (s.ingested draws plan).edges.lookup id = some e ↔ s.edges.lookup id = some e ∨
      e ∈ newEdges draws 1 (plan.links (draws 0).id) ∧ e.id = id :=
  lookup_addEdges (s := (s.createNode (draws 0).id (draws 0).now plan.node).2) hfresh.nodup
    hfresh.edges

end GraphState

end IntentRebase
