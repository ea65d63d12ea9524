import IntentRebase.Graph.NodeStatements
import IntentRebase.Orchestrator.Replay

/-! What the update of the graph changes: the nodes that the plan lists move as the table of
transitions lets them, one after the other, and nothing else does. -/

namespace IntentRebase

open Kit

/-- The node after an update to a state: where the table forbids the transition it stays. -/
def GraphNode.moved (node : GraphNode) (newState : NodeState) : GraphNode :=
  if isValidTransition node.state newState then { node with state := newState } else node

theorem GraphNode.moved_of_state {node : GraphNode} {newState : NodeState}
    (h : node.state = newState) : node.moved newState = node := by
  subst h
  simp [moved]

/-- A node that has been moved stays under the same update. -/
@[simp] theorem GraphNode.moved_moved (node : GraphNode) (newState : NodeState) :
    (node.moved newState).moved newState = node.moved newState := by
  by_cases hvalid : isValidTransition node.state newState = true
  · exact moved_of_state (by simp [moved, hvalid])
  · simp [moved, hvalid]

/-- Only an active node becomes stale. -/
theorem GraphNode.moved_stale (node : GraphNode) :
    node.moved .stale = if node.state = .active then { node with state := .stale } else node := by
  obtain ⟨id, tenantId, workflowId, nodeType, externalRef, label, state, properties, createdAt⟩ :=
    node
  cases state <;> rfl

/-- The items whose nodes an update of the graph makes stale: all artifacts and approvals, and the
side effects that are affected directly, where there are graph data. -/
def AffectedItemsPreview.stale (items : AffectedItemsPreview) : List AffectedItem :=
  if items.status = .available then
    items.affectedArtifacts ++ items.affectedApprovals ++
      items.sideEffects.filter fun sideEffect => sideEffect.impact = .direct
  else []

/-- The nodes that an update of the graph makes stale, each with the reason it is given. -/
def AffectedItemsPreview.marks (items : AffectedItemsPreview) (intentId : Uuid)
    (intentVersion : Int) : List (Uuid × String) :=
  if items.status = .available then
    (items.affectedArtifacts.map fun item =>
      (item.nodeId, s!"Affected by intent {intentId.display} v{intentVersion}")) ++
    (items.affectedApprovals.map fun item =>
      (item.nodeId,
        s!"Approval revalidation needed for intent {intentId.display} v{intentVersion}")) ++
    ((items.sideEffects.filter fun sideEffect => sideEffect.impact = .direct).map fun item =>
      (item.nodeId,
        s!"Directly affected side effect from intent {intentId.display} v{intentVersion}"))
  else []

theorem AffectedItemsPreview.marks_fst (items : AffectedItemsPreview) (intentId : Uuid)
    (intentVersion : Int) :
    (items.marks intentId intentVersion).map Prod.fst = items.stale.map AffectedItem.nodeId := by
  unfold marks stale
  split
  · simp only [List.map_append, List.map_map]
    rfl
  · rfl

section Marks

variable {γ : Type} (o : RebaseOrchestrator γ) (items : AffectedItemsPreview)
  (intentId tenantId : Uuid) (intentVersion : Int)

/-- The update of the graph goes through the marks of the plan. -/
theorem RebaseOrchestrator.updateGraphState_eq :
    o.updateGraphState items intentId tenantId intentVersion =
      (items.marks intentId intentVersion).mapM fun mark =>
        GraphUpdater.updateNodeStateIfAffected o.graphService mark.1 .stale mark.2 := by
  unfold updateGraphState AffectedItemsPreview.marks
  by_cases hstatus : items.status = .available
  · simp [hstatus, List.mapM_append, List.mapM_map, Function.comp_def]
  · simp [hstatus]

theorem RebaseOrchestrator.updateGraphStateWithTx_marks :
    o.updateGraphStateWithTx items intentId tenantId intentVersion =
      (items.marks intentId intentVersion).mapM fun mark =>
        GraphUpdater.updateNodeStateIfAffectedWithTx o.graphService mark.1 .stale mark.2 := by
  unfold updateGraphStateWithTx AffectedItemsPreview.marks
  by_cases hstatus : items.status = .available
  · simp [hstatus, List.mapM_append, List.mapM_map, Function.comp_def]
  · simp [hstatus]

end Marks

/-- Calls that always reach a store: `view` is what they see of its nodes, and `rest` all that it
holds besides. -/
structure NodeStore {σ ρ : Type} (access : NodeAccess σ) (view : σ → Uuid → Option GraphNode)
    (rest : σ → ρ) : Prop where
  getNode : ∀ {s id node}, view s id = some node → (access.getNode id).on s = (.ok node, s)
  getNode_none : ∀ {s id}, view s id = none →
    (access.getNode id).on s = (.error (.graphNodeNotFound id), s)
  updateNodeState : ∀ {s id node} (state : NodeState), view s id = some node →
    ∃ s', (access.updateNodeState id state).on s = (.ok { node with state }, s') ∧
      rest s' = rest s ∧
      ∀ other, view s' other = if other = id then some { node with state } else view s other

section Run

variable {σ ρ : Type} {graphService : GraphService σ} {view : σ → Uuid → Option GraphNode}
  {rest : σ → ρ} (h : NodeStore graphService.toNodeAccess view rest) (newState : NodeState)

include h

/-- One update moves its node, and leaves a store whose node it need not move. -/
theorem NodeStore.updateNodeStateIfAffected_on (s : σ) (id : Uuid) (reason : String) :
    ∃ result s', (GraphUpdater.updateNodeStateIfAffected graphService id newState reason).on s =
        (.ok result, s') ∧
      rest s' = rest s ∧
      (∀ other, view s' other =
        if other = id then (view s id).map fun node => node.moved newState else view s other) ∧
      ((∀ node, view s id = some node → node.moved newState = node) → s' = s) := by
  rw [GraphUpdater.updateNodeStateIfAffected, Effect.on_bind_ok (Effect.on_attempt _ _)]
  cases hview : view s id with
  | none =>
    rw [h.getNode_none hview]
    refine ⟨_, s, rfl, rfl, fun other => ?_, fun _ => rfl⟩
    split
    · next heq => rw [heq, hview, Option.map_none]
    · rfl
  | some node =>
    rw [h.getNode hview]
    dsimp only
    have hstays (hmoved : node.moved newState = node) (other : Uuid) : view s other =
        if other = id then (some node).map fun node => node.moved newState else view s other := by
      split
      · next heq => rw [heq, hview, Option.map_some, hmoved]
      · rfl
    by_cases hvalid : isValidTransition node.state newState = true
    · rw [if_neg (by simp [hvalid])]
      by_cases hstate : node.state = newState
      · rw [if_pos hstate]
        exact ⟨_, s, rfl, rfl, hstays (GraphNode.moved_of_state hstate), fun _ => rfl⟩
      · obtain ⟨s', hupdate, hrest, hview'⟩ := h.updateNodeState newState hview
        have hmoved : node.moved newState = { node with state := newState } := by
          rw [GraphNode.moved, if_pos hvalid]
        rw [if_neg hstate, Effect.on_bind_ok (Effect.on_attempt _ _), hupdate]
        refine ⟨_, s', rfl, hrest, fun other => ?_, fun hfixed => ?_⟩
        · rw [hview', Option.map_some, hmoved]
        · have hnode := hfixed node rfl
          rw [hmoved] at hnode
          exact absurd (congrArg GraphNode.state hnode).symm hstate
    · rw [if_pos (by simpa using hvalid)]
      have hmoved : node.moved newState = node := by rw [GraphNode.moved, if_neg hvalid]
      exact ⟨_, s, rfl, rfl, hstays hmoved, fun _ => rfl⟩

/-- Updates one after the other move each of their nodes, once however often it is listed. -/
theorem NodeStore.mapM_on (marks : List (Uuid × String)) (s : σ) :
    ∃ results s', (marks.mapM fun mark =>
        GraphUpdater.updateNodeStateIfAffected graphService mark.1 newState mark.2).on s =
        (.ok results, s') ∧
      rest s' = rest s ∧
      (∀ id, view s' id =
        if id ∈ marks.map Prod.fst then (view s id).map fun node => node.moved newState
        else view s id) ∧
      ((∀ id ∈ marks.map Prod.fst, ∀ node, view s id = some node → node.moved newState = node) →
        s' = s) := by
  induction marks generalizing s with
  | nil => exact ⟨[], s, rfl, rfl, fun _ => by simp, fun _ => rfl⟩
  | cons mark marks ih =>
    obtain ⟨result, s₁, hfirst, hrest₁, hview₁, hsame₁⟩ :=
      h.updateNodeStateIfAffected_on newState s mark.1 mark.2
    obtain ⟨results, s₂, hothers, hrest₂, hview₂, hsame₂⟩ := ih s₁
    refine ⟨result :: results, s₂, ?_, hrest₂.trans hrest₁, fun id => ?_, fun hfixed => ?_⟩
    · rw [List.mapM_cons, Effect.on_bind_ok hfirst, Effect.on_bind_ok hothers, Effect.on_pure]
    · rw [hview₂, hview₁, List.map_cons]
      by_cases hid : id = mark.1
      · rw [if_pos hid, if_pos (List.mem_cons.mpr (.inl hid)), hid]
        split
        · simp [Option.map_map, Function.comp_def]
        · rfl
      · simp only [List.mem_cons, hid, false_or, if_false]
    · have hs₁ : s₁ = s := hsame₁ (hfixed mark.1 (by simp))
      rw [← hs₁] at hfixed ⊢
      exact hsame₂ fun id hid => hfixed id (List.mem_cons_of_mem _ hid)

end Run

/-- What an update of the graph may change: exactly the nodes that the plan lists and that are
active become stale. -/
structure ChangesAsPlanned {γ ρ : Type} (o : RebaseOrchestrator γ)
    (view : γ → Uuid → Option GraphNode) (rest : γ → ρ) (items : AffectedItemsPreview)
    (intentId tenantId : Uuid) (intentVersion : Int) (s s' : γ) : Prop where
  stale : ∀ id ∈ items.stale.map AffectedItem.nodeId, ∀ node, view s id = some node →
    node.state = .active → view s' id = some { node with state := .stale }
  kept : ∀ id, (id ∉ items.stale.map AffectedItem.nodeId ∨
    ∀ node, view s id = some node → node.state ≠ .active) → view s' id = view s id
  rest : rest s' = rest s
  again : ∃ results,
    (o.updateGraphState items intentId tenantId intentVersion).on s' = (.ok results, s')

/-- The update of the graph over a store always answers, and changes what is planned. -/
theorem NodeStore.updateGraphState_on {γ ρ : Type} {o : RebaseOrchestrator γ}
    {view : γ → Uuid → Option GraphNode} {rest : γ → ρ}
    (h : NodeStore o.graphService.toNodeAccess view rest) (items : AffectedItemsPreview)
    (intentId tenantId : Uuid) (intentVersion : Int) (s : γ) :
    ∃ results s',
      (o.updateGraphState items intentId tenantId intentVersion).on s = (.ok results, s') ∧
      ChangesAsPlanned o view rest items intentId tenantId intentVersion s s' := by
  obtain ⟨results, s', hrun, hrest, hview, -⟩ :=
    h.mapM_on .stale (items.marks intentId intentVersion) s
  obtain ⟨results', s'', hagain, -, -, hsame⟩ :=
    h.mapM_on .stale (items.marks intentId intentVersion) s'
  rw [items.marks_fst] at hview hsame
  rw [← o.updateGraphState_eq items intentId tenantId] at hrun hagain
  have hfixed : s'' = s' := by
    refine hsame fun id hid node hnode => ?_
    rw [hview, if_pos hid] at hnode
    obtain ⟨old, -, rfl⟩ := Option.map_eq_some_iff.mp hnode
    exact old.moved_moved .stale
  refine ⟨results, s', hrun, ?_, ?_, hrest, results', hfixed ▸ hagain⟩
  · intro id hid node hnode hactive
    rw [hview, if_pos hid, hnode, Option.map_some, GraphNode.moved_stale, if_pos hactive]
  · rintro id (hid | hinactive)
    · rw [hview, if_neg hid]
    · rw [hview]
      split
      · cases hnode : view s id with
        | none => rfl
        | some node =>
          rw [Option.map_some, GraphNode.moved_stale, if_neg (hinactive node hnode)]
      · rfl

section Backends

/-- All of the graph in memory but its nodes. -/
def GraphState.besideNodes (s : GraphState) :
    HashMap Uuid GraphEdge × HashMap Uuid (List Uuid) × HashMap Uuid (List Uuid) :=
  (s.edges, s.edgesByFrom, s.edgesByTo)

/-- The graph in memory is a store of its nodes. -/
theorem nodeStore_inMemory :
    NodeStore InMemoryGraphRepository.service.toNodeAccess
      (fun s id => s.nodes.lookup id) GraphState.besideNodes where
  getNode {s id node} h := by
    show (s.getNode id, s) = _
    rw [GraphState.getNode, h]
  getNode_none {s id} h := by
    show (s.getNode id, s) = _
    rw [GraphState.getNode, h]
  updateNodeState {s id node} state h := by
    refine ⟨{ s with nodes := s.nodes.insert id { node with state } }, ?_, rfl,
      fun other => lookup_insert_eq ..⟩
    show (InMemoryGraphRepository.updateNodeState id state).on s = _
    rw [InMemoryGraphRepository.updateNodeState_eq]
    refine Effect.on_transaction_ok ?_
    rw [GraphState.updateNodeState, h]

/-- The nodes that a session does not see. -/
def SqlxGraphTables.unseen (session : Option Uuid) (s : SqlxGraphTables) (id : Uuid) :
    Option GraphNode :=
  (s.node none id).filter fun node => !SqlxGraphRepository.visible session node.tenantId

/-- The tables of the graph are, for each session, a store of the nodes that it sees. -/
theorem nodeStore_session (session : Option Uuid) :
    NodeStore ((Connection.direct SqlxGraphTables).nodeAccess session) (fun s => s.node session)
      (fun s => (s.tables.edges, s.unseen session)) where
  getNode {s id node} h := by
    refine (Connection.getNode_answer (s := s) rfl).trans ?_
    rw [h]
  getNode_none {s id} h := by
    refine (Connection.getNode_answer (s := s) rfl).trans ?_
    rw [h]
  updateNodeState {s id node} state h := by
    obtain ⟨s', hupdate, hedges, hnodes⟩ := SqlxGraphTables.updateState_of_node h state
    have hnode : s'.node session id = some { node with state } := by
      rw [hnodes, if_pos rfl, h, Option.map_some]
    refine ⟨s', ?_, Prod.ext hedges ?_, fun other => ?_⟩
    · have hanswer : ((Connection.direct SqlxGraphTables).execute fun s =>
          s.updateState session id state).on s = (.ok 1, s') := by
        show (Except.ok (s.updateState session id state).1, (s.updateState session id state).2) = _
        rw [hupdate]
      refine (Connection.updateNodeState_answer hanswer).trans ?_
      refine (Connection.getNode_answer (s := s') rfl).trans ?_
      rw [hnode]
    · funext other
      dsimp only [SqlxGraphTables.unseen]
      rw [hnodes]
      split
      · next hid =>
        -- The node that is updated is one that the session sees.
        have hvisible := SqlxGraphTables.node_visible h
        rw [hid, SqlxGraphTables.node_none h, Option.map_some]
        simp [Option.filter, hvisible]
      · rfl
    · rw [hnodes, h, Option.map_some]

/-- What besides the nodes is left also in part. -/
theorem NodeStore.map_rest {σ ρ τ : Type} {access : NodeAccess σ}
    {view : σ → Uuid → Option GraphNode} {rest : σ → ρ} (h : NodeStore access view rest)
    (part : ρ → τ) : NodeStore access view fun s => part (rest s) where
  getNode := h.getNode
  getNode_none := h.getNode_none
  updateNodeState state hnode := by
    obtain ⟨s', hupdate, hrest, hview⟩ := h.updateNodeState state hnode
    exact ⟨s', hupdate, congrArg part hrest, hview⟩

/-- The tables of the graph are a store of the nodes that their rows read back as. -/
theorem nodeStore_sqlx :
    NodeStore SqlxGraphTables.service.toNodeAccess (fun s => s.node none)
      (fun s => s.tables.edges) :=
  (nodeStore_session none).map_rest Prod.fst

end Backends

/-- On the graph in memory and on its tables, for every plan: the update always answers; the active
nodes that the plan lists become stale; every other node, all else about a node and all edges stay;
and the same update again does nothing. -/
theorem updateGraphState_changes_as_planned (checkpointService : CheckpointRepository)
    (runtimeAdapter : RuntimeAdapter) (items : AffectedItemsPreview) (intentId tenantId : Uuid)
    (intentVersion : Int) :
    (∀ s : GraphState, ∃ results s',
      ((RebaseOrchestrator.new checkpointService InMemoryGraphRepository.service
        runtimeAdapter).updateGraphState items intentId tenantId intentVersion).on s =
        (.ok results, s') ∧
      ChangesAsPlanned (.new checkpointService InMemoryGraphRepository.service runtimeAdapter)
        (fun s id => s.nodes.lookup id) GraphState.besideNodes items intentId tenantId
        intentVersion s s') ∧
    ∀ s : SqlxGraphTables, ∃ results s',
      ((RebaseOrchestrator.new checkpointService SqlxGraphTables.service
        runtimeAdapter).updateGraphState items intentId tenantId intentVersion).on s =
        (.ok results, s') ∧
      ChangesAsPlanned (.new checkpointService SqlxGraphTables.service runtimeAdapter)
        (fun s => s.node none) (fun s => s.tables.edges) items intentId tenantId intentVersion
        s s' :=
  ⟨nodeStore_inMemory.updateGraphState_on items intentId tenantId intentVersion,
    nodeStore_sqlx.updateGraphState_on items intentId tenantId intentVersion⟩

section Incomplete

def activeArtifact : GraphNode where
  id := 20
  tenantId := 1
  workflowId := 5
  nodeType := .artifact
  externalRef := none
  label := "report"
  state := .active
  properties := .emptyObject
  createdAt := 0

def listedArtifact : AffectedItem where
  nodeId := 20
  label := "report"
  impact := .direct
  reason := "Directly affected"
  externalRef := none

/-- A preview made without graph data, whose list of artifacts is incomplete. -/
def incompletePreview : AffectedItemsPreview where
  status := .unavailable
  affectedArtifacts := [listedArtifact]
  affectedApprovals := []
  sideEffects := []

/-- Without graph data an update goes through no list, not even one that names an active node. -/
theorem updateGraphState_without_graph_data :
    ¬ ∀ (o : RebaseOrchestrator GraphState) (items : AffectedItemsPreview)
      (intentId tenantId : Uuid) (intentVersion : Int) (s : GraphState),
      o.graphService = InMemoryGraphRepository.service →
      ∀ item ∈ items.affectedArtifacts, ∀ node, s.nodes.lookup item.nodeId = some node →
        node.state = .active →
        ((o.updateGraphState items intentId tenantId intentVersion).on s).2.nodes.lookup
          item.nodeId = some { node with state := .stale } := by
  intro h
  have hstale := h { RebaseOrchestrator.sampleOrchestrator with
    graphService := InMemoryGraphRepository.service } incompletePreview 1 1 2
    { GraphState.empty with nodes := AList.insert 20 activeArtifact ∅ } rfl listedArtifact
    List.mem_cons_self activeArtifact rfl rfl
  have hstored : some activeArtifact = some { activeArtifact with state := .stale } := hstale
  cases hstored

end Incomplete

end IntentRebase
