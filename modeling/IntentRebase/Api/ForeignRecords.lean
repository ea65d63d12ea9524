import IntentRebase.Api.ReadStates

/-! States in which another tenant has a node with an edge to itself, an intent and a bundle, and
what the queries show of them. -/

namespace IntentRebase

open Kit

/-- What the other tenant has, all under one identifier. -/
structure ForeignRecords where
  tenantId : Uuid
  workflowId : Uuid
  id : Uuid
  nodeType : NodeType
  edgeType : EdgeType

namespace ForeignRecords

variable (f : ForeignRecords)

def node : GraphNode where
  id := f.id
  tenantId := f.tenantId
  workflowId := f.workflowId
  nodeType := f.nodeType
  externalRef := none
  label := ""
  state := .active
  properties := .emptyObject
  createdAt := 0

def edge : GraphEdge where
  id := f.id
  tenantId := f.tenantId
  workflowId := f.workflowId
  fromNodeId := f.id
  toNodeId := f.id
  edgeType := f.edgeType
  properties := .emptyObject
  createdAt := 0

def request : CreateIntentRequest where
  tenantId := some f.tenantId
  workflowId := f.workflowId
  sourceRefs := []
  payload := (versionWithScope []).payload
  createdBy := (versionWithScope []).createdBy
  tags := []

def draw : CreateIntentDraw where
  intentId := f.id
  versionId := f.id
  tenantId := f.tenantId
  now := 0

def bundle : ForensicBundle :=
  { ForensicBundleService.sampleBundle with bundleId := f.id, tenantId := f.tenantId }

section InMemory

def graph : GraphState where
  nodes := single f.id f.node
  edges := single f.id f.edge
  edgesByFrom := pushIndex ∅ f.id f.id
  edgesByTo := pushIndex ∅ f.id f.id

theorem graph_consistent : f.graph.Consistent := by
  let nodes : GraphState := { GraphState.empty with nodes := single f.id f.node }
  have hnodes : nodes.Consistent := GraphState.Consistent.empty.insertNode rfl fun _ h => nomatch h
  have hend : ∃ n, (single f.id f.node).lookup f.id = some n ∧ n.tenantId = f.edge.tenantId ∧
      n.workflowId = f.edge.workflowId := ⟨f.node, lookup_single_self f.id f.node, rfl, rfl⟩
  have hedge : (nodes.addEdge f.edge).Consistent := hnodes.addEdge rfl hend hend
  exact hedge

def inMemory : InMemoryReadState where
  intents := (InMemoryIntentRepository.new.createIntentTx (fun _ => "") f.draw f.request).2
  graph := ⟨f.graph, f.graph_consistent⟩
  sideEffects := .new
  actions := .new
  actionsConsistent := .new
  runs := ∅
  bundles :=
    { InMemoryBundleRepository.new with
      bundles := single f.id f.bundle
      byTenant := SecondaryIndex.push ∅ f.tenantId f.id }
  bundlesByTenant := SecondaryIndex.Exact.empty.insert f.bundle rfl
  bundleText id _ := .error (.notFound id)

theorem agreeFor_inMemory {tenantId : Uuid} (h : f.tenantId ≠ tenantId) :
    f.inMemory.AgreeFor tenantId .empty where
  intents := .single_empty h
  versions id intent hlookup howner := by
    obtain rfl := lookup_single hlookup
    exact absurd howner h
  nodes := .single_empty h
  edges := .single_empty h
  edgesByFrom := .single_empty (v := f.edge) h _ _
  edgesByTo := .single_empty (v := f.edge) h _ _
  sideEffects := .refl _ _
  sideEffectsByIntent := .refl _ _ _
  actions := .refl _ _
  actionsByTenant := .refl _ _ _
  actionsBySideEffect := .refl _ _ _
  actionsByStatus := .refl _ _ _
  actionsByIntent := .refl _ _ _
  runs := .refl _ _
  bundles := .single_empty h
  bundlesByTenant := .single_empty (v := f.bundle) h _ _
  bundleText id bundle hlookup howner := by
    obtain rfl := lookup_single hlookup
    exact absurd howner h

end InMemory

section Sqlx

def intents : SqlxIntentRepository :=
  (SqlxIntentRepository.new.putIntent f.id
    (SqlxIntentRepository.newIntentRow f.draw f.request f.tenantId)).putVersion
      (SqlxIntentRepository.initialVersionRow (fun _ => "") f.draw f.request)
      (by rw [SqlxIntentRepository.putIntent, lookup_insert_eq]; exact if_pos rfl ▸ rfl)
      fun _ _ h => nomatch h

def tables : SqlxGraphTables where
  tables := { nodes := single f.id (.ofNode f.node), edges := single f.id (.ofEdge f.edge) }
  nodesReadable _ _ h := ⟨f.node, lookup_single h ▸ rowToNode_ofNode f.node⟩
  edgesReadable _ _ h := ⟨f.edge, lookup_single h ▸ rowToEdge_ofEdge f.edge⟩

def sqlx : SqlxReadState where
  intents := f.intents
  graph := f.tables
  sideEffects := ∅
  actions := ∅
  runs := { rows := ∅, readable := SqlxRunRepository.readable_empty }
  bundles :=
    { rows := single f.id (.ofBundle f.bundle)
      readable := fun _ _ h => ⟨f.bundle, lookup_single h ▸ rowToBundle_ofBundle f.bundle⟩ }
  bundleText id _ := .error (.notFound id)

theorem agreeFor_sqlx {tenantId : Uuid} (h : f.tenantId ≠ tenantId) :
    f.sqlx.AgreeFor tenantId .empty where
  intents := .single_empty h
  versions id row hlookup howner := by
    obtain rfl := lookup_single hlookup
    exact absurd howner h
  nodes := .single_empty h
  edges := .single_empty h
  sideEffects := .refl _ _
  actions := .refl _ _
  runs := .refl _ _
  bundles := .single_empty h
  bundleText id row hlookup howner := by
    obtain rfl := lookup_single hlookup
    exact absurd howner h

end Sqlx

/-- The queries show the other tenant's records. -/
structure ShownBy (reads : Reads) : Prop where
  listNodes : ∀ filter, GraphState.acceptsNode filter f.node = true →
    ∃ nodes, reads.listNodes filter = .ok nodes ∧ f.node ∈ nodes
  getNode : reads.getNode f.id = .ok f.node
  listEdges : ∀ filter, GraphState.acceptsEdge filter f.edge = true →
    ∃ edges, reads.listEdges filter = .ok edges ∧ f.edge ∈ edges
  listEdgesFrom : reads.listEdgesFrom f.id = .ok [f.edge]
  getIntentHead : ∃ head, reads.getIntentHead f.id = .ok head ∧ head.intent.tenantId = f.tenantId
  listSideEffects : ∀ intentId tenantId, reads.listSideEffectsByIntent intentId tenantId = .ok []
  getBundle : ∃ bundle, reads.getBundle f.id = .ok bundle ∧ bundle.tenantId = f.tenantId

theorem listEdgesFrom_graph : f.graph.listEdgesFrom f.id = [f.edge] := by
  have hindex : indexEntry f.graph.edgesByFrom f.id = [f.id] := by
    rw [graph, indexEntry_pushIndex, if_pos rfl]
    rfl
  rw [GraphState.listEdgesFrom, hindex]
  simp [graph]

theorem getIntentHead_inMemory : (IntentStore.inMemory f.inMemory.intents).getIntentHead f.id =
    .ok { intent := InMemoryIntentRepository.newIntent f.draw f.request
          version := InMemoryIntentRepository.initialVersion (fun _ => "") f.draw f.request
          rowVersion := 0 } := by
  have hintent : f.inMemory.intents.intents.lookup f.id =
      some (InMemoryIntentRepository.newIntent f.draw f.request) := lookup_single_self _ _
  have hversions : f.inMemory.intents.getVersionsByIntent f.id =
      [InMemoryIntentRepository.initialVersion (fun _ => "") f.draw f.request] := by
    have hindex : f.inMemory.intents.versionsByIntent.lookup f.id = some [f.id] :=
      lookup_single_self _ _
    have hversion : f.inMemory.intents.versions.lookup f.id =
        some (InMemoryIntentRepository.initialVersion (fun _ => "") f.draw f.request) :=
      lookup_single_self _ _
    simp [InMemoryIntentRepository.getVersionsByIntent, SecondaryIndex.bucket, hindex, hversion]
  simp only [IntentStore.getIntentHead, IntentStore.getIntentForUpdate,
    InMemoryIntentRepository.getIntentForUpdate, InMemoryIntentRepository.getIntent, hintent]
  simp only [bind, Except.bind, IntentStore.getVersionByIntentAndNumber,
    InMemoryIntentRepository.getVersionByIntentAndNumber, hversions]
  rfl

theorem shownBy_inMemory (draws : ReadDraws) : f.ShownBy (f.inMemory.reads draws) where
  listNodes filter haccepts := by
    refine ⟨_, rfl, List.mem_filter.mpr ⟨List.mem_map.mpr ⟨(f.id, f.node), ?_, rfl⟩, haccepts⟩⟩
    exact (IterOrder.mem_apply _).mpr (mem_pairs.mpr (lookup_single_self f.id f.node))
  getNode := by
    simp [InMemoryReadState.reads, inMemory, graph, GraphState.getNode]
  listEdges filter haccepts := by
    refine ⟨_, rfl, List.mem_filter.mpr ⟨List.mem_map.mpr ⟨(f.id, f.edge), ?_, rfl⟩, haccepts⟩⟩
    exact (IterOrder.mem_apply _).mpr (mem_pairs.mpr (lookup_single_self f.id f.edge))
  listEdgesFrom := congrArg Except.ok f.listEdgesFrom_graph
  getIntentHead := ⟨_, f.getIntentHead_inMemory, rfl⟩
  listSideEffects intentId tenantId := by
    simp [InMemoryReadState.reads, inMemory, InMemorySideEffectRepository.listByIntent,
      InMemorySideEffectRepository.new, latestFirst]
  getBundle := ⟨f.bundle, by simp [InMemoryReadState.reads, inMemory, InMemoryBundleRepository.get],
    rfl⟩

/-- A query of the one row. -/
theorem fetchAll_singleton {ρ γ : Type} {holds : γ → ρ → Bool} {createdAt : ρ → DateTime}
    {conditions : List γ} {scan : IterOrder ρ} {row : ρ}
    (h : meets holds conditions row = true) :
    SqlxGraphRepository.fetchAll holds createdAt conditions scan [row] = [row] := by
  have hperm : (SqlxGraphRepository.fetchAll holds createdAt conditions scan [row]).Perm
      (select holds conditions [row]) := fetchAll_perm
  rw [select, List.filter_cons_of_pos h] at hperm
  exact List.perm_singleton.mp hperm

theorem getIntentHead_sqlx : (IntentStore.sqlx f.intents).getIntentHead f.id =
    .ok { intent := rowToIntent (SqlxIntentRepository.newIntentRow f.draw f.request f.tenantId)
          version := rowToVersion
            (SqlxIntentRepository.initialVersionRow (fun _ => "") f.draw f.request)
          rowVersion := 1 } := by
  have hintent : f.intents.intents.lookup f.id =
      some (SqlxIntentRepository.newIntentRow f.draw f.request f.tenantId) :=
    lookup_single_self _ _
  have hversions : pairs f.intents.versions =
      [(f.id, SqlxIntentRepository.initialVersionRow (fun _ => "") f.draw f.request)] :=
    pairs_single _ _
  simp only [IntentStore.getIntentHead, IntentStore.getIntentForUpdate,
    SqlxIntentRepository.getIntentForUpdate, hintent]
  simp only [bind, Except.bind, IntentStore.getVersionByIntentAndNumber,
    SqlxIntentRepository.getVersionByIntentAndNumber, hversions]
  rw [List.find?_cons_of_pos (by simp [rowToIntent, SqlxIntentRepository.newIntentRow,
    SqlxIntentRepository.initialVersionRow, draw])]
  rfl

theorem shownBy_sqlx (rlsPool : Bool) (draws : ReadDraws) :
    f.ShownBy (f.sqlx.reads rlsPool draws) where
  listNodes filter haccepts := by
    have htested : meets NodeCondition.holds (SqlxGraphRepository.nodeQuery filter)
        (.ofNode f.node) = true := by
      rw [acceptsNode_eq, meets_iff] at haccepts
      rw [nodeQuery_eq, meets_iff]
      exact fun condition hmem => haccepts condition (GraphNodeFilter.tested_subset hmem)
    refine ⟨[f.node], ?_, List.mem_singleton_self _⟩
    simp only [SqlxReadState.reads, sqlx, tables, SqlxGraphTables.listNodes,
      SqlxGraphRepository.listNodes, pairs_single, List.map_cons, List.map_nil,
      fetchAll_singleton htested, List.mapM_cons, rowToNode_ofNode]
    rfl
  getNode := by
    simp [SqlxReadState.reads, sqlx, tables, SqlxGraphTables.getNode, SqlxGraphRepository.getNode,
      SqlxGraphRepository.findNode, SqlxGraphRepository.visible, rowToNode_ofNode, Option.filter]
  listEdges filter haccepts := by
    have htested : meets EdgeCondition.holds (SqlxGraphRepository.edgeQuery filter)
        (.ofEdge f.edge) = true := by
      rw [acceptsEdge_eq, meets_iff] at haccepts
      rw [edgeQuery_eq, meets_iff]
      exact fun condition hmem => haccepts condition (GraphEdgeFilter.tested_subset hmem)
    refine ⟨[f.edge], ?_, List.mem_singleton_self _⟩
    simp only [SqlxReadState.reads, sqlx, tables, SqlxGraphTables.listEdges,
      SqlxGraphRepository.listEdges, pairs_single, List.map_cons, List.map_nil,
      fetchAll_singleton htested, List.mapM_cons, rowToEdge_ofEdge]
    rfl
  listEdgesFrom := by
    have hrow : scanLatest draws.edgeScan EdgeRow.createdAt (fun row => row.fromNodeId = f.id)
        f.tables.tables.edges = [.ofEdge f.edge] := scanLatest_single (decide_eq_true rfl)
    simp only [SqlxReadState.reads, sqlx, SqlxGraphTables.listEdgesFrom, hrow, List.mapM_cons,
      rowToEdge_ofEdge]
    rfl
  getIntentHead := ⟨_, f.getIntentHead_sqlx, rfl⟩
  listSideEffects intentId tenantId := by
    simp only [SqlxReadState.reads, sqlx, SqlxSideEffectRepository.listByIntent, scanLatest_empty]
    rfl
  getBundle := by
    simp [SqlxReadState.reads, sqlx, SqlxBundleRepository.get, rowToBundle_ofBundle]
    rfl

end ForeignRecords

/-- The queries of a state without a record. -/
structure Reads.ShowNothing (reads : Reads) : Prop where
  listNodes : ∀ filter, reads.listNodes filter = .ok []
  getNode : ∀ id, reads.getNode id = .error (.graphNodeNotFound id)
  listEdges : ∀ filter, reads.listEdges filter = .ok []
  listEdgesFrom : ∀ id, reads.listEdgesFrom id = .ok []
  getIntentHead : ∀ id, reads.getIntentHead id = .error (.intentNotFound id)
  getBundle : ∀ id, reads.getBundle id = .error (.forensicBundleNotFound id)

theorem InMemoryReadState.empty_showNothing (draws : ReadDraws) :
    (empty.reads draws).ShowNothing where
  listNodes filter := by
    have hnone := List.perm_nil.mp (draws.nodeOrder.perm [])
    simp [reads, empty, GraphStore.empty, GraphState.empty, GraphState.listNodes, hnone]
  getNode id := rfl
  listEdges filter := by
    have hnone := List.perm_nil.mp (draws.edgeOrder.perm [])
    simp [reads, empty, GraphStore.empty, GraphState.empty, GraphState.listEdges, hnone]
  listEdgesFrom id := rfl
  getIntentHead id := rfl
  getBundle id := rfl

theorem SqlxReadState.empty_showNothing (rlsPool : Bool) (draws : ReadDraws) :
    (empty.reads rlsPool draws).ShowNothing where
  listNodes filter := by
    have hnone : ∀ conditions, SqlxGraphRepository.fetchAll NodeCondition.holds NodeRow.createdAt
        conditions draws.nodeScan [] = [] := fun _ => List.perm_nil.mp fetchAll_perm
    simp only [reads, empty, SqlxGraphTables.empty, SqlxGraphTables.listNodes,
      SqlxGraphRepository.listNodes, pairs_empty, List.map_nil, hnone]
    rfl
  getNode id := rfl
  listEdges filter := by
    have hnone : ∀ conditions, SqlxGraphRepository.fetchAll EdgeCondition.holds EdgeRow.createdAt
        conditions draws.edgeScan [] = [] := fun _ => List.perm_nil.mp fetchAll_perm
    simp only [reads, empty, SqlxGraphTables.empty, SqlxGraphTables.listEdges,
      SqlxGraphRepository.listEdges, pairs_empty, List.map_nil, hnone]
    rfl
  listEdgesFrom id := by
    simp only [reads, empty, SqlxGraphTables.empty, SqlxGraphTables.listEdgesFrom,
      scanLatest_empty]
    rfl
  getIntentHead id := rfl
  getBundle id := rfl

end IntentRebase
