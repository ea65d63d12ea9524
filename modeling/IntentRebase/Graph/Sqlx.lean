import IntentRebase.Graph.InMemory
import IntentRebase.Kit.Query

/-! The listings of the SQL graph repository: the query is chosen by which fields of the filter are
set, and what it does not test it does not filter by. -/

namespace IntentRebase

open Kit

def nodeTypeToString : NodeType → String
  | .intent => "intent"
  | .intentVersion => "intent_version"
  | .artifact => "artifact"
  | .approval => "approval"
  | .policySnapshot => "policy_snapshot"
  | .sideEffect => "side_effect"
  | .checkpoint => "checkpoint"
  | .workflow => "workflow"
  | .generic => "generic"

def nodeTypeFromString : String → Except IntentRebaseError NodeType
  | "intent" => .ok .intent
  | "intent_version" => .ok .intentVersion
  | "artifact" => .ok .artifact
  | "approval" => .ok .approval
  | "policy_snapshot" => .ok .policySnapshot
  | "side_effect" => .ok .sideEffect
  | "checkpoint" => .ok .checkpoint
  | "workflow" => .ok .workflow
  | "generic" => .ok .generic
  | s => .error (.internal ("unknown node type: " ++ s))

def nodeStateToString : NodeState → String
  | .active => "active"
  | .stale => "stale"
  | .invalid => "invalid"
  | .archived => "archived"

def nodeStateFromString : String → Except IntentRebaseError NodeState
  | "active" => .ok .active
  | "stale" => .ok .stale
  | "invalid" => .ok .invalid
  | "archived" => .ok .archived
  | s => .error (.internal ("unknown node state: " ++ s))

def edgeTypeToString : EdgeType → String
  | .dependsOn => "depends_on"
  | .produces => "produces"
  | .approves => "approves"
  | .triggers => "triggers"
  | .defines => "defines"
  | .generatedFrom => "generated_from"
  | .validatedBy => "validated_by"
  | .governedBy => "governed_by"
  | .derivedFrom => "derived_from"
  | .storedIn => "stored_in"
  | .supersedes => "supersedes"
  | .blocks => "blocks"
  | .compensates => "compensates"

def edgeTypeFromString : String → Except IntentRebaseError EdgeType
  | "depends_on" => .ok .dependsOn
  | "produces" => .ok .produces
  | "approves" => .ok .approves
  | "triggers" => .ok .triggers
  | "defines" => .ok .defines
  | "generated_from" => .ok .generatedFrom
  | "validated_by" => .ok .validatedBy
  | "governed_by" => .ok .governedBy
  | "derived_from" => .ok .derivedFrom
  | "stored_in" => .ok .storedIn
  | "supersedes" => .ok .supersedes
  | "blocks" => .ok .blocks
  | "compensates" => .ok .compensates
  | s => .error (.internal ("unknown edge type: " ++ s))

def externalRefTypeToString : ExternalRefType → String
  | .intent => "intent"
  | .intentVersion => "intent_version"
  | .artifact => "artifact"
  | .approval => "approval"
  | .policySnapshot => "policy_snapshot"
  | .sideEffect => "side_effect"
  | .checkpoint => "checkpoint"

def externalRefTypeFromString : String → Except IntentRebaseError ExternalRefType
  | "intent" => .ok .intent
  | "intent_version" => .ok .intentVersion
  | "artifact" => .ok .artifact
  | "approval" => .ok .approval
  | "policy_snapshot" => .ok .policySnapshot
  | "side_effect" => .ok .sideEffect
  | "checkpoint" => .ok .checkpoint
  | s => .error (.internal ("unknown external ref type: " ++ s))

@[simp] theorem nodeTypeFromString_toString (t : NodeType) :
    nodeTypeFromString (nodeTypeToString t) = .ok t := by
  cases t <;> rfl

@[simp] theorem nodeStateFromString_toString (st : NodeState) :
    nodeStateFromString (nodeStateToString st) = .ok st := by
  cases st <;> rfl

@[simp] theorem edgeTypeFromString_toString (t : EdgeType) :
    edgeTypeFromString (edgeTypeToString t) = .ok t := by
  cases t <;> rfl

@[simp] theorem externalRefTypeFromString_toString (t : ExternalRefType) :
    externalRefTypeFromString (externalRefTypeToString t) = .ok t := by
  cases t <;> rfl

/-- A text that can be read back names one value. -/
theorem injective_of_roundTrip {α : Type} {toString : α → String}
    {fromString : String → Except IntentRebaseError α}
    (h : ∀ a, fromString (toString a) = .ok a) {a b : α} : toString a = toString b ↔ a = b := by
  refine ⟨fun heq => ?_, fun heq => by rw [heq]⟩
  have hab := h a
  rw [heq, h b] at hab
  exact (Except.ok.inj hab).symm

/-- A row of `graph_nodes`. -/
structure NodeRow where
  nodeId : Uuid
  tenantId : Uuid
  workflowId : Uuid
  nodeType : String
  externalRefType : Option String
  externalRefId : Option Uuid
  label : String
  state : String
  properties : Json
  createdAt : DateTime

/-- A row of `graph_edges`. -/
structure EdgeRow where
  edgeId : Uuid
  tenantId : Uuid
  workflowId : Uuid
  fromNodeId : Uuid
  toNodeId : Uuid
  edgeType : String
  properties : Json
  createdAt : DateTime

/-- The row that stores a node. -/
def NodeRow.ofNode (n : GraphNode) : NodeRow where
  nodeId := n.id
  tenantId := n.tenantId
  workflowId := n.workflowId
  nodeType := nodeTypeToString n.nodeType
  externalRefType := n.externalRef.map fun ref => externalRefTypeToString ref.refType
  externalRefId := n.externalRef.map fun ref => ref.refId
  label := n.label
  state := nodeStateToString n.state
  properties := n.properties
  createdAt := n.createdAt

/-- The row that stores an edge. -/
def EdgeRow.ofEdge (e : GraphEdge) : EdgeRow where
  edgeId := e.id
  tenantId := e.tenantId
  workflowId := e.workflowId
  fromNodeId := e.fromNodeId
  toNodeId := e.toNodeId
  edgeType := edgeTypeToString e.edgeType
  properties := e.properties
  createdAt := e.createdAt

def rowToNode (row : NodeRow) : Except IntentRebaseError GraphNode := do
  let externalRef ← (match row.externalRefType, row.externalRefId with
    | some refType, some refId => do
      let refType ← externalRefTypeFromString refType
      return some { refType, refId }
    | none, none => return none
    | _, _ => throw (.internal
        "graph node has partial external ref: both type and id must be set or both unset") :
    Except IntentRebaseError (Option ExternalRef))
  let nodeType ← nodeTypeFromString row.nodeType
  let state ← nodeStateFromString row.state
  return { id := row.nodeId, tenantId := row.tenantId, workflowId := row.workflowId, nodeType,
           externalRef, label := row.label, state, properties := row.properties,
           createdAt := row.createdAt }

def rowToEdge (row : EdgeRow) : Except IntentRebaseError GraphEdge := do
  let edgeType ← edgeTypeFromString row.edgeType
  return { id := row.edgeId, tenantId := row.tenantId, workflowId := row.workflowId,
           fromNodeId := row.fromNodeId, toNodeId := row.toNodeId, edgeType,
           properties := row.properties, createdAt := row.createdAt }

theorem rowToNode_ofNode (n : GraphNode) : rowToNode (.ofNode n) = .ok n := by
  obtain ⟨id, tenantId, workflowId, nodeType, externalRef, label, state, properties, createdAt⟩ := n
  cases externalRef with
  | none =>
    simp only [rowToNode, NodeRow.ofNode, Option.map_none, nodeTypeFromString_toString,
      nodeStateFromString_toString]
    rfl
  | some ref =>
    simp only [rowToNode, NodeRow.ofNode, Option.map_some, externalRefTypeFromString_toString,
      nodeTypeFromString_toString, nodeStateFromString_toString]
    rfl

theorem rowToEdge_ofEdge (e : GraphEdge) : rowToEdge (.ofEdge e) = .ok e := by
  simp only [rowToEdge, EdgeRow.ofEdge, edgeTypeFromString_toString]
  rfl

/-- A comparison of a `WHERE` clause over `graph_nodes`, with its bound value. -/
inductive NodeCondition where
  | tenantId (value : Uuid)
  | workflowId (value : Uuid)
  | nodeType (value : String)
  | state (value : String)
deriving DecidableEq, Repr

def NodeCondition.holds : NodeCondition → NodeRow → Bool
  | tenantId value, row => row.tenantId == value
  | workflowId value, row => row.workflowId == value
  | nodeType value, row => row.nodeType == value
  | state value, row => row.state == value

/-- A comparison of a `WHERE` clause over `graph_edges`, with its bound value. -/
inductive EdgeCondition where
  | tenantId (value : Uuid)
  | workflowId (value : Uuid)
  | fromNodeId (value : Uuid)
  | toNodeId (value : Uuid)
  | edgeType (value : String)
deriving DecidableEq, Repr

def EdgeCondition.holds : EdgeCondition → EdgeRow → Bool
  | tenantId value, row => row.tenantId == value
  | workflowId value, row => row.workflowId == value
  | fromNodeId value, row => row.fromNodeId == value
  | toNodeId value, row => row.toNodeId == value
  | edgeType value, row => row.edgeType == value

namespace SqlxGraphRepository

/-- The `WHERE` clause of the query that a filter of nodes chooses. -/
def nodeQuery (filter : GraphNodeFilter) : List NodeCondition :=
  match filter.tenantId, filter.workflowId, filter.nodeType, filter.state with
  | some tid, some wid, some nt, some st =>
    [.tenantId tid, .workflowId wid, .nodeType (nodeTypeToString nt),
      .state (nodeStateToString st)]
  | some tid, some wid, some nt, _ =>
    [.tenantId tid, .workflowId wid, .nodeType (nodeTypeToString nt)]
  | some tid, some wid, _, _ => [.tenantId tid, .workflowId wid]
  | some tid, _, _, _ => [.tenantId tid]
  | _, some wid, _, _ => [.workflowId wid]
  | _, _, some nt, _ => [.nodeType (nodeTypeToString nt)]
  | _, _, _, some st => [.state (nodeStateToString st)]
  | _, _, _, _ => []

/-- The `WHERE` clause of the query that a filter of edges chooses. No query tests the workflow
alone. -/
def edgeQuery (filter : GraphEdgeFilter) : List EdgeCondition :=
  match filter.tenantId, filter.workflowId, filter.fromNodeId, filter.toNodeId,
    filter.edgeType with
  | some tid, some wid, some fnid, some tnid, some et =>
    [.tenantId tid, .workflowId wid, .fromNodeId fnid, .toNodeId tnid,
      .edgeType (edgeTypeToString et)]
  | some tid, some wid, some fnid, some tnid, _ =>
    [.tenantId tid, .workflowId wid, .fromNodeId fnid, .toNodeId tnid]
  | some tid, some wid, some fnid, _, _ => [.tenantId tid, .workflowId wid, .fromNodeId fnid]
  | some tid, some wid, _, _, _ => [.tenantId tid, .workflowId wid]
  | some tid, _, _, _, _ => [.tenantId tid]
  | _, _, some fnid, _, _ => [.fromNodeId fnid]
  | _, _, _, some tnid, _ => [.toNodeId tnid]
  | _, _, _, _, some et => [.edgeType (edgeTypeToString et)]
  | _, _, _, _, _ => []

/-- The rows that a query returns: those that meet its conditions, latest first, and in any order
among rows of one time. -/
def fetchAll {ρ γ : Type} (holds : γ → ρ → Bool) (createdAt : ρ → DateTime) (conditions : List γ)
    (scan : IterOrder ρ) (table : List ρ) : List ρ :=
  (scan.apply (select holds conditions table)).mergeSort fun a b => createdAt b ≤ createdAt a

def listNodes (table : List NodeRow) (scan : IterOrder NodeRow) (filter : GraphNodeFilter) :
    Except IntentRebaseError (List GraphNode) :=
  (fetchAll NodeCondition.holds NodeRow.createdAt (nodeQuery filter) scan table).mapM rowToNode

def listEdges (table : List EdgeRow) (scan : IterOrder EdgeRow) (filter : GraphEdgeFilter) :
    Except IntentRebaseError (List GraphEdge) :=
  (fetchAll EdgeCondition.holds EdgeRow.createdAt (edgeQuery filter) scan table).mapM rowToEdge

end SqlxGraphRepository

/-- The tables that store a graph. -/
def GraphState.nodeTable (s : GraphState) : List NodeRow :=
  ((pairs s.nodes).map Prod.snd).map NodeRow.ofNode

def GraphState.edgeTable (s : GraphState) : List EdgeRow :=
  ((pairs s.edges).map Prod.snd).map EdgeRow.ofEdge

namespace GraphNodeFilter

/-- The comparisons that all the fields of a filter ask for. -/
def conditions (filter : GraphNodeFilter) : List NodeCondition :=
  filter.tenantId.toList.map .tenantId ++ filter.workflowId.toList.map .workflowId ++
    filter.nodeType.toList.map (fun nt => .nodeType (nodeTypeToString nt)) ++
    filter.state.toList.map fun st => .state (nodeStateToString st)

/-- The fields that the queries do test: the type only beside both scopes or neither of them, and
the state only beside all other fields or none of them. -/
def tested (filter : GraphNodeFilter) : GraphNodeFilter where
  tenantId := filter.tenantId
  workflowId := filter.workflowId
  nodeType := if filter.tenantId.isSome = filter.workflowId.isSome then filter.nodeType else none
  state :=
    if filter.tenantId.isSome = filter.workflowId.isSome ∧
      filter.workflowId.isSome = filter.nodeType.isSome then filter.state else none

end GraphNodeFilter

namespace GraphEdgeFilter

/-- The comparisons that all the fields of a filter ask for. -/
def conditions (filter : GraphEdgeFilter) : List EdgeCondition :=
  filter.tenantId.toList.map .tenantId ++ filter.workflowId.toList.map .workflowId ++
    filter.fromNodeId.toList.map .fromNodeId ++ filter.toNodeId.toList.map .toNodeId ++
    filter.edgeType.toList.map fun et => .edgeType (edgeTypeToString et)

/-- The fields that the queries do test: the workflow only beside the tenant, and each other field
only beside all the fields before it or, the workflow aside, none of them. -/
def tested (filter : GraphEdgeFilter) : GraphEdgeFilter where
  tenantId := filter.tenantId
  workflowId := if filter.tenantId.isSome then filter.workflowId else none
  fromNodeId :=
    if filter.tenantId.isSome → filter.workflowId.isSome then filter.fromNodeId else none
  toNodeId :=
    if (filter.tenantId.isSome → filter.workflowId.isSome) ∧
      filter.tenantId.isSome = filter.fromNodeId.isSome then filter.toNodeId else none
  edgeType :=
    if (filter.tenantId.isSome → filter.workflowId.isSome) ∧
      filter.tenantId.isSome = filter.fromNodeId.isSome ∧
      filter.fromNodeId.isSome = filter.toNodeId.isSome then filter.edgeType else none

end GraphEdgeFilter

section Queries

/-- A node meets a comparison if its row does. -/
def NodeCondition.holdsOf (c : NodeCondition) (n : GraphNode) : Bool := c.holds (.ofNode n)

def EdgeCondition.holdsOf (c : EdgeCondition) (e : GraphEdge) : Bool := c.holds (.ofEdge e)

theorem nodeQuery_eq (filter : GraphNodeFilter) :
    SqlxGraphRepository.nodeQuery filter = filter.tested.conditions := by
  obtain ⟨t, w, nt, st⟩ := filter
  cases t <;> cases w <;> cases nt <;> cases st <;> rfl

theorem edgeQuery_eq (filter : GraphEdgeFilter) :
    SqlxGraphRepository.edgeQuery filter = filter.tested.conditions := by
  obtain ⟨t, w, src, dst, et⟩ := filter
  cases t <;> cases w <;> cases src <;> cases dst <;> cases et <;> rfl

theorem GraphNodeFilter.mem_conditions {filter : GraphNodeFilter} {c : NodeCondition} :
    c ∈ filter.conditions ↔ (∃ v, filter.tenantId = some v ∧ c = .tenantId v) ∨
      (∃ v, filter.workflowId = some v ∧ c = .workflowId v) ∨
      (∃ v, filter.nodeType = some v ∧ c = .nodeType (nodeTypeToString v)) ∨
      ∃ v, filter.state = some v ∧ c = .state (nodeStateToString v) := by
  simp only [conditions, List.mem_append, List.mem_map, Option.mem_toList, eq_comm, or_assoc]

theorem GraphEdgeFilter.mem_conditions {filter : GraphEdgeFilter} {c : EdgeCondition} :
    c ∈ filter.conditions ↔ (∃ v, filter.tenantId = some v ∧ c = .tenantId v) ∨
      (∃ v, filter.workflowId = some v ∧ c = .workflowId v) ∨
      (∃ v, filter.fromNodeId = some v ∧ c = .fromNodeId v) ∨
      (∃ v, filter.toNodeId = some v ∧ c = .toNodeId v) ∨
      ∃ v, filter.edgeType = some v ∧ c = .edgeType (edgeTypeToString v) := by
  simp only [conditions, List.mem_append, List.mem_map, Option.mem_toList, eq_comm, or_assoc]

theorem nodeType_holds {v : NodeType} {n : GraphNode} :
    (NodeCondition.nodeType (nodeTypeToString v)).holdsOf n = (n.nodeType == v) := by
  rw [NodeCondition.holdsOf, NodeCondition.holds, Bool.eq_iff_iff, beq_iff_eq, beq_iff_eq]
  exact injective_of_roundTrip nodeTypeFromString_toString

theorem state_holds {v : NodeState} {n : GraphNode} :
    (NodeCondition.state (nodeStateToString v)).holdsOf n = (n.state == v) := by
  rw [NodeCondition.holdsOf, NodeCondition.holds, Bool.eq_iff_iff, beq_iff_eq, beq_iff_eq]
  exact injective_of_roundTrip nodeStateFromString_toString

theorem edgeType_holds {v : EdgeType} {e : GraphEdge} :
    (EdgeCondition.edgeType (edgeTypeToString v)).holdsOf e = (e.edgeType == v) := by
  rw [EdgeCondition.holdsOf, EdgeCondition.holds, Bool.eq_iff_iff, beq_iff_eq, beq_iff_eq]
  exact injective_of_roundTrip edgeTypeFromString_toString

/-- The in-memory filter is the conjunction of all its comparisons. -/
theorem acceptsNode_eq (filter : GraphNodeFilter) :
    GraphState.acceptsNode filter = meets NodeCondition.holdsOf filter.conditions := by
  funext n
  simp only [GraphState.acceptsNode, GraphNodeFilter.conditions, meets_append, meets_optional,
    nodeType_holds, state_holds]
  rfl

theorem acceptsEdge_eq (filter : GraphEdgeFilter) :
    GraphState.acceptsEdge filter = meets EdgeCondition.holdsOf filter.conditions := by
  funext e
  simp only [GraphState.acceptsEdge, GraphEdgeFilter.conditions, meets_append, meets_optional,
    edgeType_holds]
  rfl

/-- Comparisons of columns select the rows of the nodes that meet them. -/
theorem select_nodeTable (s : GraphState) (conditions : List NodeCondition) :
    select NodeCondition.holds conditions s.nodeTable =
      (select NodeCondition.holdsOf conditions ((pairs s.nodes).map Prod.snd)).map .ofNode := by
  rw [select, GraphState.nodeTable, List.filter_map]
  rfl

theorem select_edgeTable (s : GraphState) (conditions : List EdgeCondition) :
    select EdgeCondition.holds conditions s.edgeTable =
      (select EdgeCondition.holdsOf conditions ((pairs s.edges).map Prod.snd)).map .ofEdge := by
  rw [select, GraphState.edgeTable, List.filter_map]
  rfl

theorem fetchAll_perm {ρ γ : Type} {holds : γ → ρ → Bool} {createdAt : ρ → DateTime}
    {conditions : List γ} {scan : IterOrder ρ} {table : List ρ} :
    (SqlxGraphRepository.fetchAll holds createdAt conditions scan table).Perm
      (select holds conditions table) :=
  (List.mergeSort_perm _ _).trans (scan.perm _)

end Queries

/-- The SQL listing returns the same nodes as the in-memory one, whatever the order of the rows and
of the map. -/
def NodesAgree (s : GraphState) (filter : GraphNodeFilter) : Prop :=
  ∀ scan order, ∃ nodes, SqlxGraphRepository.listNodes s.nodeTable scan filter = .ok nodes ∧
    nodes.Perm (s.listNodes order filter)

def EdgesAgree (s : GraphState) (filter : GraphEdgeFilter) : Prop :=
  ∀ scan order, ∃ edges, SqlxGraphRepository.listEdges s.edgeTable scan filter = .ok edges ∧
    edges.Perm (s.listEdges order filter)

section Agreement

variable {s : GraphState}

/-- The SQL listing decodes the rows that meet the tested fields. -/
theorem sqlxListNodes_ok (scan : IterOrder NodeRow) (filter : GraphNodeFilter) :
    ∃ nodes, SqlxGraphRepository.listNodes s.nodeTable scan filter = .ok nodes ∧ nodes.Perm
      (select NodeCondition.holdsOf filter.tested.conditions ((pairs s.nodes).map Prod.snd)) := by
  refine mapM_decode rowToNode_ofNode (fetchAll_perm.trans ?_)
  rw [nodeQuery_eq, select_nodeTable]

theorem sqlxListEdges_ok (scan : IterOrder EdgeRow) (filter : GraphEdgeFilter) :
    ∃ edges, SqlxGraphRepository.listEdges s.edgeTable scan filter = .ok edges ∧ edges.Perm
      (select EdgeCondition.holdsOf filter.tested.conditions ((pairs s.edges).map Prod.snd)) := by
  refine mapM_decode rowToEdge_ofEdge (fetchAll_perm.trans ?_)
  rw [edgeQuery_eq, select_edgeTable]

theorem listNodes_perm (order : IterOrder (Uuid × GraphNode)) (filter : GraphNodeFilter) :
    (s.listNodes order filter).Perm
      (select NodeCondition.holdsOf filter.conditions ((pairs s.nodes).map Prod.snd)) := by
  rw [select, ← acceptsNode_eq]
  exact ((order.perm _).map Prod.snd).filter _

theorem listEdges_perm (order : IterOrder (Uuid × GraphEdge)) (filter : GraphEdgeFilter) :
    (s.listEdges order filter).Perm
      (select EdgeCondition.holdsOf filter.conditions ((pairs s.edges).map Prod.snd)) := by
  rw [select, ← acceptsEdge_eq]
  exact ((order.perm _).map Prod.snd).filter _

theorem nodesAgree_iff_select {filter : GraphNodeFilter} : NodesAgree s filter ↔
    (select NodeCondition.holdsOf filter.tested.conditions ((pairs s.nodes).map Prod.snd)).Perm
      (select NodeCondition.holdsOf filter.conditions ((pairs s.nodes).map Prod.snd)) := by
  constructor
  · intro h
    obtain ⟨nodes, hok, hperm⟩ := h (.id _) (.id _)
    obtain ⟨nodes', hok', hperm'⟩ := sqlxListNodes_ok (s := s) (.id _) filter
    obtain rfl := Except.ok.inj (hok.symm.trans hok')
    exact hperm'.symm.trans (hperm.trans (listNodes_perm _ filter))
  · intro h scan order
    obtain ⟨nodes, hok, hperm⟩ := sqlxListNodes_ok (s := s) scan filter
    exact ⟨nodes, hok, hperm.trans (h.trans (listNodes_perm order filter).symm)⟩

theorem edgesAgree_iff_select {filter : GraphEdgeFilter} : EdgesAgree s filter ↔
    (select EdgeCondition.holdsOf filter.tested.conditions ((pairs s.edges).map Prod.snd)).Perm
      (select EdgeCondition.holdsOf filter.conditions ((pairs s.edges).map Prod.snd)) := by
  constructor
  · intro h
    obtain ⟨edges, hok, hperm⟩ := h (.id _) (.id _)
    obtain ⟨edges', hok', hperm'⟩ := sqlxListEdges_ok (s := s) (.id _) filter
    obtain rfl := Except.ok.inj (hok.symm.trans hok')
    exact hperm'.symm.trans (hperm.trans (listEdges_perm _ filter))
  · intro h scan order
    obtain ⟨edges, hok, hperm⟩ := sqlxListEdges_ok (s := s) scan filter
    exact ⟨edges, hok, hperm.trans (h.trans (listEdges_perm order filter).symm)⟩

end Agreement

namespace GraphNodeFilter

variable {filter : GraphNodeFilter}

theorem tested_subset : filter.tested.conditions ⊆ filter.conditions := by
  intro c hc
  rw [mem_conditions] at hc ⊢
  rcases hc with h | h | ⟨v, hv, rfl⟩ | ⟨v, hv, rfl⟩
  · exact .inl h
  · exact .inr (.inl h)
  · exact .inr (.inr (.inl ⟨v, (Option.ite_none_right_eq_some.mp hv).2, rfl⟩))
  · exact .inr (.inr (.inr ⟨v, (Option.ite_none_right_eq_some.mp hv).2, rfl⟩))

/-- A node that meets every field of the filter. -/
def matching (filter : GraphNodeFilter) : GraphNode where
  id := 0
  tenantId := filter.tenantId.getD 0
  workflowId := filter.workflowId.getD 0
  nodeType := filter.nodeType.getD .generic
  externalRef := none
  label := ""
  state := filter.state.getD .active
  properties := .emptyObject
  createdAt := 0

/-- A node that meets every field of the filter but one. -/
def failing (filter : GraphNodeFilter) : NodeCondition → GraphNode
  | .tenantId v => { filter.matching with tenantId := v + 1 }
  | .workflowId v => { filter.matching with workflowId := v + 1 }
  | .nodeType v =>
    { filter.matching with nodeType := if v = "generic" then .artifact else .generic }
  | .state v => { filter.matching with state := if v = "active" then .stale else .active }

theorem matching_holds {c : NodeCondition} (hc : c ∈ filter.conditions) :
    c.holdsOf filter.matching = true := by
  rcases mem_conditions.mp hc with ⟨v, hv, rfl⟩ | ⟨v, hv, rfl⟩ | ⟨v, hv, rfl⟩ | ⟨v, hv, rfl⟩ <;>
    simp [NodeCondition.holdsOf, NodeCondition.holds, NodeRow.ofNode, matching, hv]

/-- The altered node differs from the matching one in the column of its condition only. -/
theorem failing_holds {c c' : NodeCondition} (hc : c ∈ filter.conditions)
    (hc' : c' ∈ filter.conditions) (hne : c' ≠ c) :
    c'.holdsOf (filter.failing c) = c'.holdsOf filter.matching := by
  cases c <;> cases c' <;> first
    | rfl
    | refine absurd ?_ hne
      simp only [mem_conditions, reduceCtorEq, and_false, exists_false, false_or, or_false,
        NodeCondition.tenantId.injEq, NodeCondition.workflowId.injEq,
        NodeCondition.nodeType.injEq, NodeCondition.state.injEq] at hc hc'
      obtain ⟨v, hv, rfl⟩ := hc
      obtain ⟨v', hv', rfl⟩ := hc'
      rw [Option.some.inj (hv'.symm.trans hv)]

theorem failing_fails {c : NodeCondition} (hc : c ∈ filter.conditions) :
    c.holdsOf (filter.failing c) = false := by
  rcases mem_conditions.mp hc with ⟨v, _, rfl⟩ | ⟨v, _, rfl⟩ | ⟨v, _, rfl⟩ | ⟨v, _, rfl⟩
  · exact beq_eq_false_iff_ne.mpr (Uuid.succ_ne v)
  · exact beq_eq_false_iff_ne.mpr (Uuid.succ_ne v)
  · rw [nodeType_holds]
    cases v <;> rfl
  · rw [state_holds]
    cases v <;> rfl

theorem independent : Independent NodeCondition.holdsOf filter.conditions := fun c hc =>
  ⟨filter.failing c, failing_fails hc, fun _ hc' hne =>
    (failing_holds hc hc' hne).trans (matching_holds hc')⟩

/-- All the supplied fields are tested exactly if the query keeps the filter as it is. -/
theorem conditions_subset_iff :
    filter.conditions ⊆ filter.tested.conditions ↔ filter.tested = filter := by
  constructor
  · intro h
    have hmem : ∀ c, c ∈ filter.conditions → c ∈ filter.tested.conditions := fun c hc => h hc
    obtain ⟨t, w, nt, st⟩ := filter
    cases t <;> cases w <;> cases nt <;> cases st <;>
      first | rfl | simp [conditions, tested] at hmem
  · intro h
    rw [h]
    exact List.Subset.refl _

end GraphNodeFilter

namespace GraphEdgeFilter

variable {filter : GraphEdgeFilter}

theorem tested_subset : filter.tested.conditions ⊆ filter.conditions := by
  intro c hc
  rw [mem_conditions] at hc ⊢
  rcases hc with h | ⟨v, hv, rfl⟩ | ⟨v, hv, rfl⟩ | ⟨v, hv, rfl⟩ | ⟨v, hv, rfl⟩
  · exact .inl h
  · exact .inr (.inl ⟨v, (Option.ite_none_right_eq_some.mp hv).2, rfl⟩)
  · exact .inr (.inr (.inl ⟨v, (Option.ite_none_right_eq_some.mp hv).2, rfl⟩))
  · exact .inr (.inr (.inr (.inl ⟨v, (Option.ite_none_right_eq_some.mp hv).2, rfl⟩)))
  · exact .inr (.inr (.inr (.inr ⟨v, (Option.ite_none_right_eq_some.mp hv).2, rfl⟩)))

/-- An edge that meets every field of the filter. -/
def matching (filter : GraphEdgeFilter) : GraphEdge where
  id := 0
  tenantId := filter.tenantId.getD 0
  workflowId := filter.workflowId.getD 0
  fromNodeId := filter.fromNodeId.getD 0
  toNodeId := filter.toNodeId.getD 0
  edgeType := filter.edgeType.getD .dependsOn
  properties := .emptyObject
  createdAt := 0

/-- An edge that meets every field of the filter but one. -/
def failing (filter : GraphEdgeFilter) : EdgeCondition → GraphEdge
  | .tenantId v => { filter.matching with tenantId := v + 1 }
  | .workflowId v => { filter.matching with workflowId := v + 1 }
  | .fromNodeId v => { filter.matching with fromNodeId := v + 1 }
  | .toNodeId v => { filter.matching with toNodeId := v + 1 }
  | .edgeType v =>
    { filter.matching with edgeType := if v = "depends_on" then .produces else .dependsOn }

theorem matching_holds {c : EdgeCondition} (hc : c ∈ filter.conditions) :
    c.holdsOf filter.matching = true := by
  rcases mem_conditions.mp hc with
    ⟨v, hv, rfl⟩ | ⟨v, hv, rfl⟩ | ⟨v, hv, rfl⟩ | ⟨v, hv, rfl⟩ | ⟨v, hv, rfl⟩ <;>
    simp [EdgeCondition.holdsOf, EdgeCondition.holds, EdgeRow.ofEdge, matching, hv]

/-- The altered edge differs from the matching one in the column of its condition only. -/
theorem failing_holds {c c' : EdgeCondition} (hc : c ∈ filter.conditions)
    (hc' : c' ∈ filter.conditions) (hne : c' ≠ c) :
    c'.holdsOf (filter.failing c) = c'.holdsOf filter.matching := by
  cases c <;> cases c' <;> first
    | rfl
    | refine absurd ?_ hne
      simp only [mem_conditions, reduceCtorEq, and_false, exists_false, false_or, or_false,
        EdgeCondition.tenantId.injEq, EdgeCondition.workflowId.injEq,
        EdgeCondition.fromNodeId.injEq, EdgeCondition.toNodeId.injEq,
        EdgeCondition.edgeType.injEq] at hc hc'
      obtain ⟨v, hv, rfl⟩ := hc
      obtain ⟨v', hv', rfl⟩ := hc'
      rw [Option.some.inj (hv'.symm.trans hv)]

theorem failing_fails {c : EdgeCondition} (hc : c ∈ filter.conditions) :
    c.holdsOf (filter.failing c) = false := by
  rcases mem_conditions.mp hc with
    ⟨v, _, rfl⟩ | ⟨v, _, rfl⟩ | ⟨v, _, rfl⟩ | ⟨v, _, rfl⟩ | ⟨v, _, rfl⟩
  · exact beq_eq_false_iff_ne.mpr (Uuid.succ_ne v)
  · exact beq_eq_false_iff_ne.mpr (Uuid.succ_ne v)
  · exact beq_eq_false_iff_ne.mpr (Uuid.succ_ne v)
  · exact beq_eq_false_iff_ne.mpr (Uuid.succ_ne v)
  · rw [edgeType_holds]
    cases v <;> rfl

theorem independent : Independent EdgeCondition.holdsOf filter.conditions := fun c hc =>
  ⟨filter.failing c, failing_fails hc, fun _ hc' hne =>
    (failing_holds hc hc' hne).trans (matching_holds hc')⟩

/-- All the supplied fields are tested exactly if the query keeps the filter as it is. -/
theorem conditions_subset_iff :
    filter.conditions ⊆ filter.tested.conditions ↔ filter.tested = filter := by
  constructor
  · intro h
    have hmem : ∀ c, c ∈ filter.conditions → c ∈ filter.tested.conditions := fun c hc => h hc
    obtain ⟨t, w, src, dst, et⟩ := filter
    cases t <;> cases w <;> cases src <;> cases dst <;> cases et <;>
      first | rfl | simp [conditions, tested] at hmem
  · intro h
    rw [h]
    exact List.Subset.refl _

end GraphEdgeFilter

section Exactness

variable {s : GraphState}

/-- The graph of a single node. -/
def GraphState.ofNode (n : GraphNode) : GraphState :=
  { GraphState.empty with nodes := (∅ : HashMap Uuid GraphNode).insert n.id n }

/-- The graph of a single edge. -/
def GraphState.ofEdge (e : GraphEdge) : GraphState :=
  { GraphState.empty with edges := (∅ : HashMap Uuid GraphEdge).insert e.id e }

theorem nodesAgree_iff {filter : GraphNodeFilter} : NodesAgree s filter ↔
    ∀ id n, s.nodes.lookup id = some n → GraphState.acceptsNode filter.tested n = true →
      GraphState.acceptsNode filter n = true := by
  rw [nodesAgree_iff_select, select_perm_iff GraphNodeFilter.tested_subset]
  simp only [acceptsNode_eq, meets_iff]
  constructor
  · intro h id n hn
    exact h n (List.mem_map.mpr ⟨(id, n), mem_pairs.mpr hn, rfl⟩)
  · intro h n hn
    obtain ⟨⟨id, n⟩, hmem, rfl⟩ := List.mem_map.mp hn
    exact h id n (mem_pairs.mp hmem)

theorem edgesAgree_iff {filter : GraphEdgeFilter} : EdgesAgree s filter ↔
    ∀ id e, s.edges.lookup id = some e → GraphState.acceptsEdge filter.tested e = true →
      GraphState.acceptsEdge filter e = true := by
  rw [edgesAgree_iff_select, select_perm_iff GraphEdgeFilter.tested_subset]
  simp only [acceptsEdge_eq, meets_iff]
  constructor
  · intro h id e he
    exact h e (List.mem_map.mpr ⟨(id, e), mem_pairs.mpr he, rfl⟩)
  · intro h e he
    obtain ⟨⟨id, e⟩, hmem, rfl⟩ := List.mem_map.mp he
    exact h id e (mem_pairs.mp hmem)

theorem nodesAgree_always_iff {filter : GraphNodeFilter} :
    (∀ s, NodesAgree s filter) ↔ filter.tested = filter := by
  rw [← GraphNodeFilter.conditions_subset_iff]
  constructor
  · intro h
    refine subset_of_select_perm GraphNodeFilter.tested_subset GraphNodeFilter.independent
      fun n => ?_
    exact nodesAgree_iff_select.mp (h (.ofNode n))
  · intro hsub s
    exact nodesAgree_iff_select.mpr ((select_perm_iff GraphNodeFilter.tested_subset).mpr
      fun n _ htested c hc => htested c (hsub hc))

theorem edgesAgree_always_iff {filter : GraphEdgeFilter} :
    (∀ s, EdgesAgree s filter) ↔ filter.tested = filter := by
  rw [← GraphEdgeFilter.conditions_subset_iff]
  constructor
  · intro h
    refine subset_of_select_perm GraphEdgeFilter.tested_subset GraphEdgeFilter.independent
      fun e => ?_
    exact edgesAgree_iff_select.mp (h (.ofEdge e))
  · intro hsub s
    exact edgesAgree_iff_select.mpr ((select_perm_iff GraphEdgeFilter.tested_subset).mpr
      fun e _ htested c hc => htested c (hsub hc))

end Exactness

/-- The SQL listings return what the in-memory ones do exactly where no stored row that meets the
tested fields of the filter fails one that the query drops, and they do so over every store exactly
for the filters of which no field is dropped. -/
theorem sqlx_listings_agree_iff (s : GraphState) (nodeFilter : GraphNodeFilter)
    (edgeFilter : GraphEdgeFilter) :
    (NodesAgree s nodeFilter ↔
      ∀ id n, s.nodes.lookup id = some n → GraphState.acceptsNode nodeFilter.tested n = true →
        GraphState.acceptsNode nodeFilter n = true) ∧
    (EdgesAgree s edgeFilter ↔
      ∀ id e, s.edges.lookup id = some e → GraphState.acceptsEdge edgeFilter.tested e = true →
        GraphState.acceptsEdge edgeFilter e = true) ∧
    ((∀ s, NodesAgree s nodeFilter) ↔ nodeFilter.tested = nodeFilter) ∧
    ((∀ s, EdgesAgree s edgeFilter) ↔ edgeFilter.tested = edgeFilter) :=
  ⟨nodesAgree_iff, edgesAgree_iff, nodesAgree_always_iff, edgesAgree_always_iff⟩

/-- The edges of tenant 0 into node 3, asked for without a workflow: the SQL listing returns every
edge of the tenant. -/
theorem sqlx_listings_differ :
    ¬ EdgesAgree GraphStore.line.state { tenantId := some 0, toNodeId := some 3 } ∧
    (∃ edges, SqlxGraphRepository.listEdges GraphStore.line.state.edgeTable (.id _)
      { tenantId := some 0, toNodeId := some 3 } = .ok edges ∧ edges.length = 2) ∧
    (GraphStore.line.state.listEdges (.id _) { tenantId := some 0, toNodeId := some 3 }).length =
      1 := by
  refine ⟨fun h => ?_, ?_, rfl⟩
  · have haccepts := edgesAgree_iff.mp h 4 _ rfl (by decide)
    exact absurd haccepts (by decide)
  · obtain ⟨edges, hok, hperm⟩ := sqlxListEdges_ok (s := GraphStore.line.state) (.id _)
      { tenantId := some 0, toNodeId := some 3 }
    exact ⟨edges, hok, hperm.length_eq.trans rfl⟩

end IntentRebase
