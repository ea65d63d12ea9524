import IntentRebase.Kit.SecondaryIndex
import IntentRebase.Types.Graph

/-! The in-memory graph repository: nodes, edges, and the index of the edges by either end. The
operations that change it keep the index exact, so that a store carries the proof that it is. -/

namespace IntentRebase

open Kit

/-- The graph, with the identifiers of the edges that leave and enter each node. -/
structure GraphState where
  nodes : HashMap Uuid GraphNode
  edges : HashMap Uuid GraphEdge
  edgesByFrom : HashMap Uuid (List Uuid)
  edgesByTo : HashMap Uuid (List Uuid)

def GraphState.empty : GraphState where
  nodes := ∅
  edges := ∅
  edgesByFrom := ∅
  edgesByTo := ∅

/-- The entry of an index, empty when the node has none. -/
def indexEntry (index : HashMap Uuid (List Uuid)) (nodeId : Uuid) : List Uuid :=
  (index.lookup nodeId).getD []

/-- The index with one more edge at a node. -/
def pushIndex (index : HashMap Uuid (List Uuid)) (nodeId edgeId : Uuid) :
    HashMap Uuid (List Uuid) :=
  index.insert nodeId (indexEntry index nodeId ++ [edgeId])

/-- The index without an edge at a node. -/
def dropIndex (index : HashMap Uuid (List Uuid)) (nodeId edgeId : Uuid) :
    HashMap Uuid (List Uuid) :=
  match index.lookup nodeId with
  | some ids => index.insert nodeId (ids.filter (· ≠ edgeId))
  | none => index

namespace GraphState

variable (s : GraphState)

/-- The node that a request creates under a new identifier. -/
def newNode (id : Uuid) (now : DateTime) (request : CreateGraphNodeRequest) : GraphNode where
  id := id
  tenantId := request.tenantId
  workflowId := request.workflowId
  nodeType := request.nodeType
  externalRef := request.externalRef
  label := request.label
  state := .active
  properties := request.properties.getD .emptyObject
  createdAt := now

def createNode (id : Uuid) (now : DateTime) (request : CreateGraphNodeRequest) :
    GraphNode × GraphState :=
  (newNode id now request, { s with nodes := s.nodes.insert id (newNode id now request) })

def getNode (id : Uuid) : Except IntentRebaseError GraphNode :=
  match s.nodes.lookup id with
  | some node => .ok node
  | none => .error (.graphNodeNotFound id)

def acceptsNode (filter : GraphNodeFilter) (n : GraphNode) : Bool :=
  filter.tenantId.all (n.tenantId == ·) && filter.workflowId.all (n.workflowId == ·) &&
    filter.nodeType.all (n.nodeType == ·) && filter.state.all (n.state == ·)

/-- The nodes a filter accepts, in the order in which the map is iterated. -/
def listNodes (order : IterOrder (Uuid × GraphNode)) (filter : GraphNodeFilter) :
    List GraphNode :=
  ((order.apply (pairs s.nodes)).map Prod.snd).filter (acceptsNode filter)

def updateNodeState (id : Uuid) (state : NodeState) :
    Except IntentRebaseError (GraphNode × GraphState) :=
  match s.nodes.lookup id with
  | some node =>
    .ok ({ node with state }, { s with nodes := s.nodes.insert id { node with state } })
  | none => .error (.graphNodeNotFound id)

/-- The end of an edge, called `name` in the errors, exists in the edge's tenant and workflow. -/
def checkEndpoint (name : String) (nodeId tenantId workflowId : Uuid) :
    Except IntentRebaseError Unit :=
  match s.nodes.lookup nodeId with
  | none => .error (.graphNodeNotFound nodeId)
  | some node =>
    if node.tenantId ≠ tenantId then
      .error (.graphIntegrityError (name ++ " " ++ nodeId.display ++ " belongs to tenant " ++
        node.tenantId.display ++ " but edge has tenant " ++ tenantId.display))
    else if node.workflowId ≠ workflowId then
      .error (.graphIntegrityError (name ++ " " ++ nodeId.display ++ " belongs to workflow " ++
        node.workflowId.display ++ " but edge has workflow " ++ workflowId.display))
    else .ok ()

/-- The edge that a request creates under a new identifier. -/
def newEdge (id : Uuid) (now : DateTime) (request : CreateGraphEdgeRequest) : GraphEdge where
  id := id
  tenantId := request.tenantId
  workflowId := request.workflowId
  fromNodeId := request.fromNodeId
  toNodeId := request.toNodeId
  edgeType := request.edgeType
  properties := request.properties.getD .emptyObject
  createdAt := now

/-- The state with one more edge, in the index of either end. -/
def addEdge (edge : GraphEdge) : GraphState where
  nodes := s.nodes
  edges := s.edges.insert edge.id edge
  edgesByFrom := pushIndex s.edgesByFrom edge.fromNodeId edge.id
  edgesByTo := pushIndex s.edgesByTo edge.toNodeId edge.id

def createEdge (id : Uuid) (now : DateTime) (request : CreateGraphEdgeRequest) :
    Except IntentRebaseError (GraphEdge × GraphState) := do
  s.checkEndpoint "from_node" request.fromNodeId request.tenantId request.workflowId
  s.checkEndpoint "to_node" request.toNodeId request.tenantId request.workflowId
  return (newEdge id now request, s.addEdge (newEdge id now request))

def getEdge (id : Uuid) : Except IntentRebaseError GraphEdge :=
  match s.edges.lookup id with
  | some edge => .ok edge
  | none => .error (.graphEdgeNotFound id)

def acceptsEdge (filter : GraphEdgeFilter) (e : GraphEdge) : Bool :=
  filter.tenantId.all (e.tenantId == ·) && filter.workflowId.all (e.workflowId == ·) &&
    filter.fromNodeId.all (e.fromNodeId == ·) && filter.toNodeId.all (e.toNodeId == ·) &&
    filter.edgeType.all (e.edgeType == ·)

/-- The edges a filter accepts, in the order in which the map is iterated. -/
def listEdges (order : IterOrder (Uuid × GraphEdge)) (filter : GraphEdgeFilter) :
    List GraphEdge :=
  ((order.apply (pairs s.edges)).map Prod.snd).filter (acceptsEdge filter)

def listEdgesFrom (nodeId : Uuid) : List GraphEdge :=
  (indexEntry s.edgesByFrom nodeId).filterMap s.edges.lookup

def listEdgesTo (nodeId : Uuid) : List GraphEdge :=
  (indexEntry s.edgesByTo nodeId).filterMap s.edges.lookup

/-- The state without an edge, in the index of neither end. -/
def removeEdge (id : Uuid) (edge : GraphEdge) : GraphState where
  nodes := s.nodes
  edges := s.edges.erase id
  edgesByFrom := dropIndex s.edgesByFrom edge.fromNodeId id
  edgesByTo := dropIndex s.edgesByTo edge.toNodeId id

def deleteEdge (id : Uuid) : Except IntentRebaseError GraphState :=
  match s.edges.lookup id with
  | some edge => .ok (s.removeEdge id edge)
  | none => .error (.graphEdgeNotFound id)

end GraphState

/-- An index lists at each node exactly the edges whose end it is, each once. -/
structure ExactIndex (edges : HashMap Uuid GraphEdge) (endpoint : GraphEdge → Uuid)
    (index : HashMap Uuid (List Uuid)) : Prop where
  nodup : ∀ v, (indexEntry index v).Nodup
  mem : ∀ v id, id ∈ indexEntry index v ↔ ∃ e, edges.lookup id = some e ∧ endpoint e = v

/-- Identifiers are keys, edges join nodes of their own tenant and workflow, and both indices are
exact. -/
structure GraphState.Consistent (s : GraphState) : Prop where
  nodeId : ∀ id n, s.nodes.lookup id = some n → n.id = id
  edgeId : ∀ id e, s.edges.lookup id = some e → e.id = id
  fromNode : ∀ id e, s.edges.lookup id = some e → ∃ n, s.nodes.lookup e.fromNodeId = some n ∧
    n.tenantId = e.tenantId ∧ n.workflowId = e.workflowId
  toNode : ∀ id e, s.edges.lookup id = some e → ∃ n, s.nodes.lookup e.toNodeId = some n ∧
    n.tenantId = e.tenantId ∧ n.workflowId = e.workflowId
  byFrom : ExactIndex s.edges GraphEdge.fromNodeId s.edgesByFrom
  byTo : ExactIndex s.edges GraphEdge.toNodeId s.edgesByTo

section Index

variable {edges : HashMap Uuid GraphEdge} {endpoint : GraphEdge → Uuid}
  {index : HashMap Uuid (List Uuid)}

theorem indexEntry_pushIndex (v w id : Uuid) :
    indexEntry (pushIndex index v id) w =
      if w = v then indexEntry index v ++ [id] else indexEntry index w :=
  SecondaryIndex.bucket_push index v w id

theorem dropIndex_eq (v id : Uuid) : dropIndex index v id = SecondaryIndex.retain index v id := by
  rw [dropIndex, SecondaryIndex.retain]
  cases index.lookup v with
  | none => rfl
  | some ids => rfl

/-- The index is exact as a secondary index of the edges. -/
theorem exactIndex_iff : ExactIndex edges endpoint index ↔
    SecondaryIndex.Exact edges endpoint index := by
  rw [SecondaryIndex.exact_iff]
  exact ⟨fun h => ⟨h.nodup, h.mem⟩, fun h => ⟨h.1, h.2⟩⟩

theorem ExactIndex.empty : ExactIndex ∅ endpoint ∅ := exactIndex_iff.mpr .empty

/-- Adding a new edge at its end keeps the index exact. -/
theorem ExactIndex.insert (h : ExactIndex edges endpoint index) {edge : GraphEdge}
    (hfresh : edges.lookup edge.id = none) :
    ExactIndex (edges.insert edge.id edge) endpoint
      (pushIndex index (endpoint edge) edge.id) :=
  exactIndex_iff.mpr ((exactIndex_iff.mp h).insert edge hfresh)

/-- Taking an edge from its end keeps the index exact. -/
theorem ExactIndex.erase (h : ExactIndex edges endpoint index) {id : Uuid} {edge : GraphEdge}
    (hedge : edges.lookup id = some edge) :
    ExactIndex (edges.erase id) endpoint (dropIndex index (endpoint edge) id) := by
  rw [dropIndex_eq]
  exact exactIndex_iff.mpr ((exactIndex_iff.mp h).erase hedge)

end Index

namespace GraphState

variable {s : GraphState}

theorem Consistent.empty : GraphState.empty.Consistent where
  nodeId _ _ h := by cases h
  edgeId _ _ h := by cases h
  fromNode _ _ h := by cases h
  toNode _ _ h := by cases h
  byFrom := ExactIndex.empty
  byTo := ExactIndex.empty

/-- An insertion at a key keeps what holds of every node, when the old node there had the same
tenant and workflow. -/
theorem Consistent.insertNode (h : s.Consistent) {id : Uuid} {node : GraphNode}
    (hid : node.id = id)
    (hsame : ∀ old, s.nodes.lookup id = some old →
      old.tenantId = node.tenantId ∧ old.workflowId = node.workflowId) :
    ({ s with nodes := s.nodes.insert id node } : GraphState).Consistent := by
  have hkeep : ∀ {v tenantId workflowId}, (∃ n, s.nodes.lookup v = some n ∧
      n.tenantId = tenantId ∧ n.workflowId = workflowId) →
      ∃ n, (s.nodes.insert id node).lookup v = some n ∧
        n.tenantId = tenantId ∧ n.workflowId = workflowId := by
    rintro v tenantId workflowId ⟨n, hn, ht, hw⟩
    rw [lookup_insert_eq]
    by_cases hv : v = id
    · subst hv
      obtain ⟨ht', hw'⟩ := hsame n hn
      exact ⟨node, if_pos rfl, ht'.symm.trans ht, hw'.symm.trans hw⟩
    · exact ⟨n, by rw [if_neg hv, hn], ht, hw⟩
  refine ⟨?_, h.edgeId, ?_, ?_, h.byFrom, h.byTo⟩
  · intro id' n hn
    rw [lookup_insert_eq] at hn
    split at hn
    · next hv =>
      obtain rfl := Option.some.inj hn
      rw [hid, hv]
    · exact h.nodeId id' n hn
  · exact fun _ e he => hkeep (h.fromNode _ e he)
  · exact fun _ e he => hkeep (h.toNode _ e he)

theorem Consistent.createNode (h : s.Consistent) {id : Uuid} (hfresh : s.nodes.lookup id = none)
    (now : DateTime) (request : CreateGraphNodeRequest) :
    (s.createNode id now request).2.Consistent :=
  h.insertNode rfl fun old hold => by rw [hfresh] at hold; cases hold

theorem Consistent.updateNodeState (h : s.Consistent) {id : Uuid} {state : NodeState}
    {node : GraphNode} {s' : GraphState} (hok : s.updateNodeState id state = .ok (node, s')) :
    s'.Consistent := by
  unfold GraphState.updateNodeState at hok
  cases hn : s.nodes.lookup id with
  | none => rw [hn] at hok; cases hok
  | some old =>
    rw [hn] at hok
    cases hok
    refine h.insertNode (h.nodeId id old hn) fun other hother => ?_
    obtain rfl := Option.some.inj (hn.symm.trans hother)
    exact ⟨rfl, rfl⟩

theorem checkEndpoint_ok {name : String} {nodeId tenantId workflowId : Uuid}
    (h : s.checkEndpoint name nodeId tenantId workflowId = .ok ()) :
    ∃ n, s.nodes.lookup nodeId = some n ∧ n.tenantId = tenantId ∧ n.workflowId = workflowId := by
  unfold checkEndpoint at h
  cases hn : s.nodes.lookup nodeId with
  | none => rw [hn] at h; cases h
  | some n =>
    rw [hn] at h
    by_cases ht : n.tenantId = tenantId
    · by_cases hw : n.workflowId = workflowId
      · exact ⟨n, rfl, ht, hw⟩
      · simp [ht, hw] at h
    · simp [ht] at h

/-- What a successful creation of an edge has checked, and what it does. -/
theorem createEdge_ok {id : Uuid} {now : DateTime} {request : CreateGraphEdgeRequest}
    {edge : GraphEdge} {s' : GraphState} (h : s.createEdge id now request = .ok (edge, s')) :
    s.checkEndpoint "from_node" request.fromNodeId request.tenantId request.workflowId = .ok () ∧
    s.checkEndpoint "to_node" request.toNodeId request.tenantId request.workflowId = .ok () ∧
    edge = newEdge id now request ∧ s' = s.addEdge edge := by
  unfold createEdge at h
  cases hfrom : s.checkEndpoint "from_node" request.fromNodeId request.tenantId
      request.workflowId with
  | error e => rw [hfrom] at h; cases h
  | ok u =>
    cases hto : s.checkEndpoint "to_node" request.toNodeId request.tenantId
        request.workflowId with
    | error e => rw [hfrom, hto] at h; cases h
    | ok u' =>
      rw [hfrom, hto] at h
      cases h
      exact ⟨rfl, rfl, rfl, rfl⟩

theorem Consistent.addEdge (h : s.Consistent) {edge : GraphEdge}
    (hfresh : s.edges.lookup edge.id = none)
    (hfrom : ∃ n, s.nodes.lookup edge.fromNodeId = some n ∧ n.tenantId = edge.tenantId ∧
      n.workflowId = edge.workflowId)
    (hto : ∃ n, s.nodes.lookup edge.toNodeId = some n ∧ n.tenantId = edge.tenantId ∧
      n.workflowId = edge.workflowId) :
    (s.addEdge edge).Consistent := by
  have hcases : ∀ {id e}, (s.edges.insert edge.id edge).lookup id = some e →
      (id = edge.id ∧ e = edge) ∨ s.edges.lookup id = some e := by
    intro id e he
    rw [lookup_insert_eq] at he
    split at he
    · next hid => exact .inl ⟨hid, (Option.some.inj he).symm⟩
    · exact .inr he
  refine ⟨h.nodeId, ?_, ?_, ?_, h.byFrom.insert hfresh, h.byTo.insert hfresh⟩
  · intro id e he
    rcases hcases he with ⟨rfl, rfl⟩ | hold
    · rfl
    · exact h.edgeId id e hold
  · intro id e he
    rcases hcases he with ⟨rfl, rfl⟩ | hold
    · exact hfrom
    · exact h.fromNode id e hold
  · intro id e he
    rcases hcases he with ⟨rfl, rfl⟩ | hold
    · exact hto
    · exact h.toNode id e hold

theorem Consistent.createEdge (h : s.Consistent) {id : Uuid} (hfresh : s.edges.lookup id = none)
    {now : DateTime} {request : CreateGraphEdgeRequest} {edge : GraphEdge} {s' : GraphState}
    (hok : s.createEdge id now request = .ok (edge, s')) : s'.Consistent := by
  obtain ⟨hfrom, hto, rfl, rfl⟩ := createEdge_ok hok
  exact h.addEdge hfresh (checkEndpoint_ok hfrom) (checkEndpoint_ok hto)

theorem Consistent.deleteEdge (h : s.Consistent) {id : Uuid} {s' : GraphState}
    (hok : s.deleteEdge id = .ok s') : s'.Consistent := by
  unfold GraphState.deleteEdge at hok
  cases he : s.edges.lookup id with
  | none => rw [he] at hok; cases hok
  | some edge =>
    rw [he] at hok
    cases hok
    have hold : ∀ {id' e}, (s.edges.erase id).lookup id' = some e →
        s.edges.lookup id' = some e := by
      intro id' e he'
      rw [lookup_erase_eq] at he'
      split at he'
      · cases he'
      · exact he'
    exact ⟨h.nodeId, fun _ _ he' => h.edgeId _ _ (hold he'),
      fun _ _ he' => h.fromNode _ _ (hold he'), fun _ _ he' => h.toNode _ _ (hold he'),
      h.byFrom.erase he, h.byTo.erase he⟩

end GraphState

/-- A graph whose identifiers, edges and indices agree. -/
structure GraphStore where
  state : GraphState
  consistent : state.Consistent

namespace GraphStore

def empty : GraphStore := ⟨.empty, .empty⟩

/-- A new node under an identifier that no node has. -/
def createNode (g : GraphStore) (id : Uuid) (hfresh : g.state.nodes.lookup id = none)
    (now : DateTime) (request : CreateGraphNodeRequest) : GraphStore :=
  ⟨(g.state.createNode id now request).2, g.consistent.createNode hfresh now request⟩

/-- A new edge under an identifier that no edge has; the store is unchanged if it is refused. -/
def createEdge (g : GraphStore) (id : Uuid) (hfresh : g.state.edges.lookup id = none)
    (now : DateTime) (request : CreateGraphEdgeRequest) : GraphStore :=
  match h : g.state.createEdge id now request with
  | .ok (_, s') => ⟨s', g.consistent.createEdge hfresh h⟩
  | .error _ => g

/-- A node in another state; the store is unchanged if there is no such node. -/
def updateNodeState (g : GraphStore) (id : Uuid) (state : NodeState) : GraphStore :=
  match h : g.state.updateNodeState id state with
  | .ok (_, s') => ⟨s', g.consistent.updateNodeState h⟩
  | .error _ => g

/-- The store without an edge; unchanged if there is no such edge. -/
def deleteEdge (g : GraphStore) (id : Uuid) : GraphStore :=
  match h : g.state.deleteEdge id with
  | .ok s' => ⟨s', g.consistent.deleteEdge h⟩
  | .error _ => g

variable {g : GraphStore}

/-- The edge is stored. -/
def HasEdge (g : GraphStore) (e : GraphEdge) : Prop := g.state.edges.lookup e.id = some e

theorem mem_index {index : HashMap Uuid (List Uuid)} {endpoint : GraphEdge → Uuid}
    (h : ExactIndex g.state.edges endpoint index) {v : Uuid} {e : GraphEdge} :
    e ∈ (indexEntry index v).filterMap g.state.edges.lookup ↔ g.HasEdge e ∧ endpoint e = v := by
  rw [List.mem_filterMap]
  constructor
  · rintro ⟨id, hid, he⟩
    obtain ⟨e', he', hend⟩ := (h.mem v id).mp hid
    obtain rfl := Option.some.inj (he.symm.trans he')
    have hedge := g.consistent.edgeId id e he
    exact ⟨by rw [HasEdge, hedge, he], hend⟩
  · rintro ⟨he, hend⟩
    exact ⟨e.id, (h.mem v e.id).mpr ⟨e, he, hend⟩, he⟩

theorem mem_listEdgesFrom {v : Uuid} {e : GraphEdge} :
    e ∈ g.state.listEdgesFrom v ↔ g.HasEdge e ∧ e.fromNodeId = v :=
  mem_index g.consistent.byFrom

theorem mem_listEdgesTo {v : Uuid} {e : GraphEdge} :
    e ∈ g.state.listEdgesTo v ↔ g.HasEdge e ∧ e.toNodeId = v :=
  mem_index g.consistent.byTo

/-- No index lists more edges at a node than there are. -/
theorem length_index_le {index : HashMap Uuid (List Uuid)} {endpoint : GraphEdge → Uuid}
    (h : ExactIndex g.state.edges endpoint index) (v : Uuid) :
    ((indexEntry index v).filterMap g.state.edges.lookup).length ≤ g.state.edges.keys.length := by
  have hsub : indexEntry index v ⊆ g.state.edges.keys := by
    intro id hid
    obtain ⟨e, he, _⟩ := (h.mem v id).mp hid
    exact mem_keys_iff_lookup.mpr ⟨e, he⟩
  exact (List.length_filterMap_le _ _).trans (List.subperm_of_subset (h.nodup v) hsub).length_le

theorem length_listEdgesFrom_le (v : Uuid) :
    (g.state.listEdgesFrom v).length ≤ g.state.edges.keys.length :=
  length_index_le g.consistent.byFrom v

theorem length_listEdgesTo_le (v : Uuid) :
    (g.state.listEdgesTo v).length ≤ g.state.edges.keys.length :=
  length_index_le g.consistent.byTo v

theorem mem_listNodes {order : IterOrder (Uuid × GraphNode)} {filter : GraphNodeFilter}
    {n : GraphNode} : n ∈ g.state.listNodes order filter ↔
      g.state.nodes.lookup n.id = some n ∧ GraphState.acceptsNode filter n = true := by
  rw [GraphState.listNodes, List.mem_filter, List.mem_map]
  refine and_congr_left fun _ => ⟨?_, fun hn => ⟨(n.id, n), ?_, rfl⟩⟩
  · rintro ⟨⟨id, n⟩, hmem, rfl⟩
    have hn := mem_pairs.mp (order.mem_apply.mp hmem)
    rwa [g.consistent.nodeId id n hn]
  · exact order.mem_apply.mpr (mem_pairs.mpr hn)

theorem mem_listEdges {order : IterOrder (Uuid × GraphEdge)} {filter : GraphEdgeFilter}
    {e : GraphEdge} : e ∈ g.state.listEdges order filter ↔
      g.HasEdge e ∧ GraphState.acceptsEdge filter e = true := by
  rw [GraphState.listEdges, List.mem_filter, List.mem_map]
  refine and_congr_left fun _ => ⟨?_, fun he => ⟨(e.id, e), ?_, rfl⟩⟩
  · rintro ⟨⟨id, e⟩, hmem, rfl⟩
    have he := mem_pairs.mp (order.mem_apply.mp hmem)
    rwa [HasEdge, g.consistent.edgeId id e he]
  · exact order.mem_apply.mpr (mem_pairs.mpr he)

theorem getNode_ok {v : Uuid} {n : GraphNode} :
    g.state.getNode v = .ok n ↔ g.state.nodes.lookup v = some n := by
  unfold GraphState.getNode
  cases g.state.nodes.lookup v <;> simp

/-- Both ends of a stored edge are nodes. -/
theorem HasEdge.to_mem {e : GraphEdge} (h : g.HasEdge e) : e.toNodeId ∈ g.state.nodes := by
  obtain ⟨n, hn, _⟩ := g.consistent.toNode _ e h
  exact mem_iff_lookup.mpr ⟨n, hn⟩

theorem HasEdge.from_mem {e : GraphEdge} (h : g.HasEdge e) : e.fromNodeId ∈ g.state.nodes := by
  obtain ⟨n, hn, _⟩ := g.consistent.fromNode _ e h
  exact mem_iff_lookup.mpr ⟨n, hn⟩

section Line

/-- A node of the given type in tenant 0 and workflow 0. -/
def plainNode (nodeType : NodeType) : CreateGraphNodeRequest where
  tenantId := 0
  workflowId := 0
  nodeType := nodeType
  externalRef := none
  label := ""
  properties := none

/-- A dependency between two nodes of tenant 0 and workflow 0. -/
def plainEdge (fromNodeId toNodeId : Uuid) : CreateGraphEdgeRequest where
  tenantId := 0
  workflowId := 0
  fromNodeId := fromNodeId
  toNodeId := toNodeId
  edgeType := .dependsOn
  properties := none

theorem firstNode_fresh : empty.state.nodes.lookup 1 = none := rfl

theorem secondNode_fresh :
    (empty.createNode 1 firstNode_fresh 0 (plainNode .artifact)).state.nodes.lookup 2 = none := rfl

/-- Three nodes in a line: an artifact, an approval and an artifact. -/
def line : GraphStore :=
  let nodes := ((empty.createNode 1 firstNode_fresh 0 (plainNode .artifact)).createNode 2
    secondNode_fresh 0 (plainNode .approval)).createNode 3 rfl 0 (plainNode .artifact)
  (nodes.createEdge 4 rfl 0 (plainEdge 1 2)).createEdge 5 rfl 0 (plainEdge 2 3)

end Line

end GraphStore

end IntentRebase
