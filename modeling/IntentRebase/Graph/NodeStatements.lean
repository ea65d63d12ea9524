import IntentRebase.Graph.IngestionSqlx
import IntentRebase.Orchestrator.GraphUpdater

/-! The two calls of the updater on the tables of the graph, each as the statements that it sends
over a connection. -/

namespace IntentRebase

open Kit

/-- A row that reads back does so with any state that is written to it. -/
theorem rowToNode_withState {row : NodeRow} {node : GraphNode} (h : rowToNode row = .ok node)
    (state : NodeState) :
    rowToNode { row with state := nodeStateToString state } = .ok { node with state } := by
  -- What is read after the reference does not depend on how the reference was spelled.
  have hrest : ∀ ref : Option ExternalRef,
      (do
        let nodeType ← nodeTypeFromString row.nodeType
        let state ← nodeStateFromString row.state
        return ({ id := row.nodeId, tenantId := row.tenantId, workflowId := row.workflowId,
                  nodeType, externalRef := ref, label := row.label, state,
                  properties := row.properties, createdAt := row.createdAt } : GraphNode)) =
        Except.ok node →
      (do
        let nodeType ← nodeTypeFromString row.nodeType
        let state ← nodeStateFromString (nodeStateToString state)
        return ({ id := row.nodeId, tenantId := row.tenantId, workflowId := row.workflowId,
                  nodeType, externalRef := ref, label := row.label, state,
                  properties := row.properties, createdAt := row.createdAt } : GraphNode)) =
        Except.ok { node with state } := by
    intro ref href
    cases htype : nodeTypeFromString row.nodeType with
    | error e =>
      rw [htype] at href
      cases href
    | ok nodeType =>
      cases hold : nodeStateFromString row.state with
      | error e =>
        rw [htype, hold] at href
        cases href
      | ok old =>
        rw [htype, hold] at href
        cases href
        rw [nodeStateFromString_toString]
        rfl
  unfold rowToNode at h ⊢
  dsimp only
  split at h
  · next refType refId htype hid =>
    cases href : externalRefTypeFromString refType with
    | error e =>
      rw [href] at h
      cases h
    | ok ref =>
      rw [href] at h
      exact hrest _ h
  · exact hrest none h
  · cases h

theorem rowToNode_tenantId {row : NodeRow} {node : GraphNode} (h : rowToNode row = .ok node) :
    node.tenantId = row.tenantId := by
  unfold rowToNode at h
  obtain ⟨_, -, h⟩ := ok_of_bind h
  obtain ⟨_, -, h⟩ := ok_of_bind h
  obtain ⟨_, -, h⟩ := ok_of_bind h
  obtain rfl := Except.ok.inj h
  rfl

namespace SqlxGraphTables

variable (s : SqlxGraphTables) (session : Option Uuid)

/-- The node that a session sees. -/
def node (id : Uuid) : Option GraphNode :=
  (s.tables.findNode session id).bind fun row => (rowToNode row).toOption

/-- The tables with the state of one row replaced. -/
def withRowState (id : Uuid) (row : NodeRow) (hrow : s.tables.nodes.lookup id = some row)
    (state : NodeState) : SqlxGraphTables where
  tables := { s.tables with
    nodes := s.tables.nodes.insert id { row with state := nodeStateToString state } }
  nodesReadable other row' h := by
    rw [lookup_insert_eq] at h
    split at h
    · cases h
      obtain ⟨node, hnode⟩ := s.nodesReadable id row hrow
      exact ⟨_, rowToNode_withState hnode state⟩
    · exact s.nodesReadable other row' h
  edgesReadable := s.edgesReadable

/-- `UPDATE graph_nodes SET state = $1, updated_at = $2 WHERE node_id = $3`, with the number of rows
that it affects. -/
def updateState (id : Uuid) (state : NodeState) : Nat × SqlxGraphTables :=
  match h : s.tables.findNode session id with
  | none => (0, s)
  | some row => (1, s.withRowState id row (Option.filter_eq_some_iff.mp h).1 state)

variable {s session} {id : Uuid}

/-- Every row that a session finds is a node that it sees. -/
theorem node_of_findNode {row : NodeRow} (h : s.tables.findNode session id = some row) :
    ∃ node, rowToNode row = .ok node ∧ s.node session id = some node := by
  obtain ⟨hrow, -⟩ := Option.filter_eq_some_iff.mp h
  obtain ⟨node, hnode⟩ := s.nodesReadable id row hrow
  refine ⟨node, hnode, ?_⟩
  rw [SqlxGraphTables.node, h, Option.bind_some, hnode]
  rfl

theorem node_eq_none : s.node session id = none ↔ s.tables.findNode session id = none := by
  constructor
  · intro h
    cases hfound : s.tables.findNode session id with
    | none => rfl
    | some row =>
      obtain ⟨node, -, hnode⟩ := node_of_findNode hfound
      cases h.symm.trans hnode
  · intro h
    rw [SqlxGraphTables.node, h, Option.bind_none]

/-- A session without a tenant sees every node that some session sees. -/
theorem node_none {node : GraphNode} (h : s.node session id = some node) :
    s.node none id = some node := by
  cases hfound : s.tables.findNode session id with
  | none =>
    rw [SqlxGraphTables.node, hfound] at h
    cases h
  | some row =>
    obtain ⟨hrow, -⟩ := Option.filter_eq_some_iff.mp hfound
    have hnone : s.tables.findNode none id = some row :=
      Option.filter_eq_some_iff.mpr ⟨hrow, rfl⟩
    rwa [SqlxGraphTables.node, hfound, ← hnone] at h

/-- What a session sees is visible to it. -/
theorem node_visible {node : GraphNode} (h : s.node session id = some node) :
    SqlxGraphRepository.visible session node.tenantId = true := by
  obtain ⟨row, hfound, hnode⟩ := Option.bind_eq_some_iff.mp h
  have hvisible := (Option.filter_eq_some_iff.mp hfound).2
  cases hrow : rowToNode row with
  | error e =>
    rw [hrow] at hnode
    cases hnode
  | ok read =>
    rw [hrow] at hnode
    obtain rfl : read = node := Option.some.inj hnode
    rwa [rowToNode_tenantId hrow]

/-- An update writes the new state to the node that its session sees, and nothing else. -/
theorem updateState_of_node {node : GraphNode} (h : s.node session id = some node)
    (state : NodeState) :
    ∃ s', s.updateState session id state = (1, s') ∧ s'.tables.edges = s.tables.edges ∧
      ∀ session' other, s'.node session' other =
        if other = id then (s.node session' id).map fun n => { n with state }
        else s.node session' other := by
  cases hfound : s.tables.findNode session id with
  | none => cases h.symm.trans (node_eq_none.mpr hfound)
  | some row =>
    obtain ⟨hrow, -⟩ := Option.filter_eq_some_iff.mp hfound
    obtain ⟨stored, hstored⟩ := s.nodesReadable id row hrow
    refine ⟨s.withRowState id row hrow state, ?_, rfl, fun session' other => ?_⟩
    · unfold updateState
      split
      · next hnone => cases hfound.symm.trans hnone
      · next row' hrow' =>
        cases hfound.symm.trans hrow'
        rfl
    · simp only [SqlxGraphTables.node, SqlxGraphRepository.findNode, withRowState,
        lookup_insert_eq]
      split
      · next heq =>
        rw [hrow]
        cases hvisible : SqlxGraphRepository.visible session' row.tenantId with
        | false => simp [Option.filter, hvisible]
        | true =>
          simp only [Option.filter, hvisible, ↓reduceIte, Option.bind_some,
            rowToNode_withState hstored, hstored]
          rfl
      · rfl

end SqlxGraphTables

/-- A connection to a database `δ`: how it runs a statement, in the state `τ` that a caller keeps
of it. -/
structure Connection (δ τ : Type) where
  execute : {α : Type} → (δ → α × δ) → Effect τ String α

/-- The connection whose statements all run, each for itself. -/
def Connection.direct (δ : Type) : Connection δ δ where
  execute run := fun s => (.ok (run s).1, (run s).2)

namespace Connection

variable {τ : Type} (connection : Connection SqlxGraphTables τ) (session : Option Uuid)

/-- `get_node`, and `get_node_with_tx` on the connection of a transaction. -/
def getNode (id : Uuid) : Effect τ IntentRebaseError GraphNode := do
  match ← (connection.execute fun s => (s.tables.findNode session id, s)).attempt with
  | .error e => throw (.storageError s!"fetch graph node: {e}")
  | .ok none => throw (.graphNodeNotFound id)
  | .ok (some row) => rowToNode row

/-- `update_node_state`, and `update_node_state_with_tx` on the connection of a transaction. -/
def updateNodeState (id : Uuid) (state : NodeState) : Effect τ IntentRebaseError GraphNode := do
  match ← (connection.execute fun s => s.updateState session id state).attempt with
  | .error e => throw (.storageError s!"update node state: {e}")
  | .ok affected =>
    if affected = 0 then throw (.graphNodeNotFound id)
    else connection.getNode session id

section Answers

variable {connection session} {id : Uuid} {t t' : τ}

/-- A query that answers shows the node that its session sees. -/
theorem getNode_answer {s : SqlxGraphTables}
    (h : (connection.execute fun s => (s.tables.findNode session id, s)).on t =
      (.ok (s.tables.findNode session id), t')) :
    (connection.getNode session id).on t =
      (match s.node session id with
        | some node => .ok node
        | none => .error (.graphNodeNotFound id), t') := by
  rw [getNode, Effect.on_bind_ok (Effect.on_attempt _ _), h]
  cases hfound : s.tables.findNode session id with
  | none =>
    rw [SqlxGraphTables.node_eq_none.mpr hfound]
    rfl
  | some row =>
    obtain ⟨node, hrow, hnode⟩ := SqlxGraphTables.node_of_findNode hfound
    rw [hnode]
    dsimp only
    rw [Effect.on_lift, hrow]

theorem getNode_error {e : String}
    (h : (connection.execute fun s => (s.tables.findNode session id, s)).on t = (.error e, t')) :
    (connection.getNode session id).on t =
      (.error (.storageError s!"fetch graph node: {e}"), t') := by
  rw [getNode, Effect.on_bind_ok (Effect.on_attempt _ _), h]
  rfl

/-- An update that affects a row ends with the query of the node. -/
theorem updateNodeState_answer {state : NodeState}
    (h : (connection.execute fun s => s.updateState session id state).on t = (.ok 1, t')) :
    (connection.updateNodeState session id state).on t = (connection.getNode session id).on t' := by
  rw [updateNodeState, Effect.on_bind_ok (Effect.on_attempt _ _), h]
  rfl

theorem updateNodeState_error {state : NodeState} {e : String}
    (h : (connection.execute fun s => s.updateState session id state).on t = (.error e, t')) :
    (connection.updateNodeState session id state).on t =
      (.error (.storageError s!"update node state: {e}"), t') := by
  rw [updateNodeState, Effect.on_bind_ok (Effect.on_attempt _ _), h]
  rfl

end Answers

/-- The calls of the updater over a connection. -/
def nodeAccess : NodeAccess τ where
  getNode := connection.getNode session
  updateNodeState := connection.updateNodeState session

end Connection

/-- The service over the SQL repository, whose statements all run. -/
def SqlxGraphTables.service : GraphService SqlxGraphTables where
  toNodeAccess := (Connection.direct SqlxGraphTables).nodeAccess none
  asSqlxRepo := some ((Connection.direct SqlxGraphTables).nodeAccess none)

end IntentRebase
