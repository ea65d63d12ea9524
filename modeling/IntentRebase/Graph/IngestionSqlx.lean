import IntentRebase.Graph.Ingestion
import IntentRebase.Graph.Sqlx
import IntentRebase.Types.Column
import IntentRebase.Kit.TwoRuns

/-! The tables of the graph, with their constraints, and the ingestion of an artifact into them by
the statements of one transaction. -/

namespace IntentRebase

open Kit

/-- The tables `graph_nodes` and `graph_edges`. -/
structure SqlxGraphRepository where
  nodes : HashMap Uuid NodeRow
  edges : HashMap Uuid EdgeRow

namespace SqlxGraphRepository

/-- The policies of both tables let a session see a row: it has no tenant, or the row's. -/
def visible (session : Option Uuid) (tenantId : Uuid) : Bool := session.all (tenantId == ·)

section Statements

variable (uniqueEdge : Bool) (s : SqlxGraphRepository) (session : Option Uuid)

/-- `SELECT … FROM graph_nodes WHERE node_id = $1` -/
def findNode (nodeId : Uuid) : Option NodeRow :=
  (s.nodes.lookup nodeId).filter fun row => visible session row.tenantId

/-- The constraint `unique_external_ref`, which does not compare absent references. -/
def externalRefTaken (row : NodeRow) : Bool :=
  row.externalRefType.isSome && row.externalRefId.isSome && (pairs s.nodes).any fun (_, other) =>
    other.tenantId == row.tenantId && other.workflowId == row.workflowId &&
      other.externalRefType == row.externalRefType && other.externalRefId == row.externalRefId

/-- The constraint `unique_edge`. -/
def edgeTaken (row : EdgeRow) : Bool :=
  (pairs s.edges).any fun (_, other) =>
    other.tenantId == row.tenantId && other.fromNodeId == row.fromNodeId &&
      other.toNodeId == row.toNodeId && other.edgeType == row.edgeType

/-- `INSERT INTO graph_nodes` -/
def insertNode (row : NodeRow) : Except String SqlxGraphRepository :=
  match varchar 255 row.label with
  | .error e => .error e
  | .ok label =>
    match jsonb row.properties with
    | .error e => .error e
    | .ok properties =>
      if !visible session row.tenantId then
        .error "new row violates row-level security policy for table \"graph_nodes\""
      else if (s.nodes.lookup row.nodeId).isSome || s.externalRefTaken row then
        .error "duplicate key value violates unique constraint"
      else .ok { s with nodes := s.nodes.insert row.nodeId { row with label, properties } }

/-- What the trigger of `graph_edges` asks of one end of an edge, called `name` in its errors. -/
def validateEnd (name : String) (nodeId tenantId workflowId : Uuid) : Except String Unit :=
  match s.findNode session nodeId with
  | none => .error s!"{name} {nodeId.display} does not exist in graph_nodes"
  | some row =>
    if row.tenantId ≠ tenantId then
      .error (s!"Edge tenant_id {tenantId.display} does not match {name} {nodeId.display} " ++
        s!"tenant_id {row.tenantId.display}")
    else if row.workflowId ≠ workflowId then
      .error (s!"Edge workflow_id {workflowId.display} does not match {name} {nodeId.display} " ++
        s!"workflow_id {row.workflowId.display}")
    else .ok ()

/-- `INSERT INTO graph_edges`. Without `unique_edge`, an edge is refused for its ends only. -/
def insertEdge (row : EdgeRow) : Except String SqlxGraphRepository :=
  match jsonb row.properties with
  | .error e => .error e
  | .ok properties =>
    match s.validateEnd session "from_node_id" row.fromNodeId row.tenantId row.workflowId with
    | .error e => .error e
    | .ok _ =>
      match s.validateEnd session "to_node_id" row.toNodeId row.tenantId row.workflowId with
      | .error e => .error e
      | .ok _ =>
        if !visible session row.tenantId then
          .error "new row violates row-level security policy for table \"graph_edges\""
        else if (s.edges.lookup row.edgeId).isSome || uniqueEdge && s.edgeTaken row then
          .error "duplicate key value violates unique constraint"
        else .ok { s with edges := s.edges.insert row.edgeId { row with properties } }

/-- `create_node` in no session, and `create_node_with_tx` in that of a tenant. -/
def createNode (draw : Draw) (request : CreateGraphNodeRequest) :
    Except IntentRebaseError (GraphNode × SqlxGraphRepository) :=
  let node := GraphState.newNode draw.id draw.now request
  match s.insertNode session (.ofNode node) with
  | .error e => .error (.storageError s!"insert graph node: {e}")
  | .ok s' => .ok (node, s')

def createEdge (draw : Draw) (request : CreateGraphEdgeRequest) :
    Except IntentRebaseError (GraphEdge × SqlxGraphRepository) :=
  let edge := GraphState.newEdge draw.id draw.now request
  match s.insertEdge uniqueEdge session (.ofEdge edge) with
  | .error e => .error (.storageError s!"insert graph edge: {e}")
  | .ok s' => .ok (edge, s')

def getNode (nodeId : Uuid) : Except IntentRebaseError GraphNode :=
  match s.findNode session nodeId with
  | none => .error (.graphNodeNotFound nodeId)
  | some row => rowToNode row

/-- The checks of one referenced version. -/
def validateIntentVersion (tenantId workflowId intentVersionId : Uuid) :
    Except IntentRebaseError Unit :=
  match s.findNode session intentVersionId with
  | none =>
    .error (.invalidIngestRequest s!"IntentVersion node {intentVersionId.display} does not exist")
  | some row =>
    match rowToNode row with
    | .error e => .error e
    | .ok node =>
      if node.nodeType ≠ .intentVersion then
        .error (.invalidIngestRequest (s!"Node {intentVersionId.display} is not an " ++
          s!"IntentVersion (found {node.nodeType.debug})"))
      else if node.tenantId ≠ tenantId then
        .error (.invalidIngestRequest (s!"IntentVersion node {intentVersionId.display} belongs " ++
          s!"to tenant {node.tenantId.display} but artifact has tenant {tenantId.display}"))
      else if node.workflowId ≠ workflowId then
        .error (.invalidIngestRequest (s!"IntentVersion node {intentVersionId.display} belongs " ++
          s!"to workflow {node.workflowId.display} but artifact has workflow " ++
          workflowId.display))
      else .ok ()

def validateIntentVersions (tenantId workflowId : Uuid) : List Uuid → Except IntentRebaseError Unit
  | [] => .ok ()
  | intentVersionId :: rest =>
    match s.validateIntentVersion session tenantId workflowId intentVersionId with
    | .error e => .error e
    | .ok _ => validateIntentVersions tenantId workflowId rest

end Statements

/-- The edges of a node, one statement after another, each with a draw of its own. -/
def wireEdges (uniqueEdge : Bool) (session : Option Uuid) (draws : Nat → Draw) :
    Nat → List CreateGraphEdgeRequest → SqlxGraphRepository →
      Except IntentRebaseError (List GraphEdge × SqlxGraphRepository)
  | _, [], s => .ok ([], s)
  | k, request :: rest, s =>
    match s.createEdge uniqueEdge session (draws k) request with
    | .error e => .error e
    | .ok (edge, s₁) =>
      match wireEdges uniqueEdge session draws (k + 1) rest s₁ with
      | .error e => .error e
      | .ok (edges, s₂) => .ok (edge :: edges, s₂)

/-- The statements of an ingestion: the checks, the node, and its edges. -/
def ingestArtifactWithTx (uniqueEdge : Bool) (s : SqlxGraphRepository) (session : Option Uuid)
    (draws : Nat → Draw) (request : ArtifactIngestRequest) :
    Except IntentRebaseError (IngestorResult × SqlxGraphRepository) :=
  if request.dependsOnIntentVersions.isEmpty then .error .artifactTraceabilityEmpty
  else
    match s.validateIntentVersions session request.tenantId request.workflowId
        request.dependsOnIntentVersions with
    | .error e => .error e
    | .ok _ =>
      match s.createNode session (draws 0) request.plan.node with
      | .error e => .error e
      | .ok (node, s₁) =>
        match wireEdges uniqueEdge session draws 1 (request.plan.links node.id) s₁ with
        | .error e => .error e
        | .ok (edges, s₂) => .ok ({ node, edges }, s₂)

end SqlxGraphRepository

/-! The tables of the graph as the read endpoints and the previews query them. -/

/-- The tables of the graph: every row reads back. -/
structure SqlxGraphTables where
  tables : SqlxGraphRepository
  nodesReadable : ∀ id row, tables.nodes.lookup id = some row → ∃ node, rowToNode row = .ok node
  edgesReadable : ∀ id row, tables.edges.lookup id = some row → ∃ edge, rowToEdge row = .ok edge

/-- The entries that read back. -/
def decoded {ρ α : Type} (rowTo : ρ → Except IntentRebaseError α) (table : HashMap Uuid ρ) :
    HashMap Uuid α :=
  ofPairs ((pairs table).filterMap fun entry => (rowTo entry.2).toOption.map (entry.1, ·))

/-- The order of a listing, latest first. -/
def latestOrder (scan : IterOrder (Uuid × GraphNode)) : IterOrder (Uuid × GraphNode) where
  apply entries := latestFirst (fun entry => entry.2.createdAt) (scan.apply entries)
  perm entries := (latestFirst_perm _ _).trans (scan.perm entries)

namespace SqlxGraphTables

variable (s : SqlxGraphTables)

/-- The tables without a row. -/
def empty : SqlxGraphTables where
  tables := { nodes := ∅, edges := ∅ }
  nodesReadable _ _ h := nomatch h
  edgesReadable _ _ h := nomatch h

def listNodes (scan : IterOrder NodeRow) (filter : GraphNodeFilter) :
    Except IntentRebaseError (List GraphNode) :=
  SqlxGraphRepository.listNodes ((pairs s.tables.nodes).map Prod.snd) scan filter

def getNode (nodeId : Uuid) : Except IntentRebaseError GraphNode := s.tables.getNode none nodeId

def listEdges (scan : IterOrder EdgeRow) (filter : GraphEdgeFilter) :
    Except IntentRebaseError (List GraphEdge) :=
  SqlxGraphRepository.listEdges ((pairs s.tables.edges).map Prod.snd) scan filter

def listEdgesFrom (scan : IterOrder EdgeRow) (nodeId : Uuid) :
    Except IntentRebaseError (List GraphEdge) :=
  (scanLatest scan EdgeRow.createdAt (fun row => row.fromNodeId = nodeId) s.tables.edges).mapM
    rowToEdge

/-- The identifiers of the edges at each node, as the listing at that end has them. -/
def edgeIndex (scan : IterOrder EdgeRow) (endpoint : EdgeRow → Uuid) : HashMap Uuid (List Uuid) :=
  ofPairs ((pairs s.tables.edges).map fun entry =>
    (endpoint entry.2, (scanLatest scan EdgeRow.createdAt
      (fun row => endpoint row = endpoint entry.2) s.tables.edges).map EdgeRow.edgeId))

/-- The graph that the queries show to a classification. -/
def graph (scan : IterOrder EdgeRow) : GraphState where
  nodes := decoded rowToNode s.tables.nodes
  edges := decoded rowToEdge s.tables.edges
  edgesByFrom := s.edgeIndex scan EdgeRow.fromNodeId
  edgesByTo := s.edgeIndex scan EdgeRow.toNodeId

variable {s}

theorem nodeQuery_tenant {filter : GraphNodeFilter} {tenantId : Uuid}
    (h : filter.tenantId = some tenantId) {row : NodeRow}
    (hmeets : meets NodeCondition.holds (SqlxGraphRepository.nodeQuery filter) row = true) :
    row.tenantId = tenantId := by
  have hmem : NodeCondition.tenantId tenantId ∈ SqlxGraphRepository.nodeQuery filter := by
    rw [SqlxGraphRepository.nodeQuery, h]
    split <;> simp_all
  simpa [NodeCondition.holds] using meets_iff.mp hmeets _ hmem

theorem edgeQuery_tenant {filter : GraphEdgeFilter} {tenantId : Uuid}
    (h : filter.tenantId = some tenantId) {row : EdgeRow}
    (hmeets : meets EdgeCondition.holds (SqlxGraphRepository.edgeQuery filter) row = true) :
    row.tenantId = tenantId := by
  have hmem : EdgeCondition.tenantId tenantId ∈ SqlxGraphRepository.edgeQuery filter := by
    rw [SqlxGraphRepository.edgeQuery, h]
    split <;> simp_all
  simpa [EdgeCondition.holds] using meets_iff.mp hmeets _ hmem

variable {s' : SqlxGraphTables} {tenantId : Uuid}

/-- A listing of one tenant's nodes can be followed in tables that agree on them. -/
theorem exists_listNodes (h : AgreeOn (fun row => row.tenantId = tenantId) s.tables.nodes
      s'.tables.nodes) (scan : IterOrder NodeRow) {filter : GraphNodeFilter}
    (hfilter : filter.tenantId = some tenantId) :
    ∃ scan', s'.listNodes scan' filter = s.listNodes scan filter := by
  obtain ⟨scan', hscan⟩ := scan.exists_scan
    (h.values_perm fun row hmeets => nodeQuery_tenant hfilter hmeets)
  refine ⟨scan', ?_⟩
  unfold listNodes SqlxGraphRepository.listNodes SqlxGraphRepository.fetchAll select
  rw [hscan]

theorem exists_listEdges (h : AgreeOn (fun row => row.tenantId = tenantId) s.tables.edges
      s'.tables.edges) (scan : IterOrder EdgeRow) {filter : GraphEdgeFilter}
    (hfilter : filter.tenantId = some tenantId) :
    ∃ scan', s'.listEdges scan' filter = s.listEdges scan filter := by
  obtain ⟨scan', hscan⟩ := scan.exists_scan
    (h.values_perm fun row hmeets => edgeQuery_tenant hfilter hmeets)
  refine ⟨scan', ?_⟩
  unfold listEdges SqlxGraphRepository.listEdges SqlxGraphRepository.fetchAll select
  rw [hscan]

end SqlxGraphTables

section InMemory

variable {s s' : GraphState} {tenantId : Uuid}

theorem acceptsNode_tenant {filter : GraphNodeFilter} (h : filter.tenantId = some tenantId)
    {n : GraphNode} (haccepts : GraphState.acceptsNode filter n = true) :
    n.tenantId = tenantId := by
  simp only [GraphState.acceptsNode, h, Option.all_some, Bool.and_eq_true, beq_iff_eq] at haccepts
  exact haccepts.1.1.1

theorem acceptsEdge_tenant {filter : GraphEdgeFilter} (h : filter.tenantId = some tenantId)
    {e : GraphEdge} (haccepts : GraphState.acceptsEdge filter e = true) :
    e.tenantId = tenantId := by
  simp only [GraphState.acceptsEdge, h, Option.all_some, Bool.and_eq_true, beq_iff_eq] at haccepts
  exact haccepts.1.1.1.1

/-- A listing of one tenant's nodes can be followed in a graph that agrees on them. -/
theorem exists_listNodes (h : AgreeOn (fun n => n.tenantId = tenantId) s.nodes s'.nodes)
    (order : IterOrder (Uuid × GraphNode)) {filter : GraphNodeFilter}
    (hfilter : filter.tenantId = some tenantId) :
    ∃ order', s'.listNodes order' filter = s.listNodes order filter := by
  obtain ⟨order', horder⟩ := order.exists_filter
    (h.pairs_perm fun n haccepts => acceptsNode_tenant hfilter haccepts)
  refine ⟨order', ?_⟩
  simp only [GraphState.listNodes, List.filter_map]
  exact congrArg (List.map Prod.snd) horder

theorem exists_listEdges (h : AgreeOn (fun e => e.tenantId = tenantId) s.edges s'.edges)
    (order : IterOrder (Uuid × GraphEdge)) {filter : GraphEdgeFilter}
    (hfilter : filter.tenantId = some tenantId) :
    ∃ order', s'.listEdges order' filter = s.listEdges order filter := by
  obtain ⟨order', horder⟩ := order.exists_filter
    (h.pairs_perm fun e haccepts => acceptsEdge_tenant hfilter haccepts)
  refine ⟨order', ?_⟩
  simp only [GraphState.listEdges, List.filter_map]
  exact congrArg (List.map Prod.snd) horder

end InMemory

end IntentRebase
