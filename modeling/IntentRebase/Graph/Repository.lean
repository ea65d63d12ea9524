import IntentRebase.Graph.InMemory
import IntentRebase.Kit.Effect
import IntentRebase.Kit.Transition

/-! The repository's calls as they write the shared state, one map after another, and what holds of
the state after any sequence of them, failed ones included. -/

namespace IntentRebase

open Kit

/-- A call on the graph. -/
abbrev GraphEffect (α : Type) := Effect GraphState IntentRebaseError α

/-- The identifier and the time that a creation takes. -/
structure Draw where
  id : Uuid
  now : DateTime
deriving DecidableEq, Repr

namespace GraphState

variable {s s' : GraphState}

/-- What a successful change of a node's state does. -/
theorem updateNodeState_ok {id : Uuid} {state : NodeState} {node : GraphNode}
    (h : s.updateNodeState id state = .ok (node, s')) :
    ∃ old, s.nodes.lookup id = some old ∧ node = { old with state } ∧
      s' = { s with nodes := s.nodes.insert id node } := by
  unfold updateNodeState at h
  cases hn : s.nodes.lookup id with
  | none => rw [hn] at h; cases h
  | some old =>
    rw [hn] at h
    cases h
    exact ⟨old, rfl, rfl, rfl⟩

theorem deleteEdge_ok {id : Uuid} (h : s.deleteEdge id = .ok s') :
    ∃ edge, s.edges.lookup id = some edge ∧ s' = s.removeEdge id edge := by
  unfold deleteEdge at h
  cases he : s.edges.lookup id with
  | none => rw [he] at h; cases h
  | some edge =>
    rw [he] at h
    cases h
    exact ⟨edge, rfl, rfl⟩

end GraphState

namespace InMemoryGraphRepository

def createNode (draw : Draw) (request : CreateGraphNodeRequest) : GraphEffect GraphNode := do
  let node := GraphState.newNode draw.id draw.now request
  modify fun s => { s with nodes := s.nodes.insert draw.id node }
  return node

def getNode (id : Uuid) : GraphEffect GraphNode := do
  let s ← get
  s.getNode id

def updateNodeState (id : Uuid) (state : NodeState) : GraphEffect GraphNode := do
  let s ← get
  match s.nodes.lookup id with
  | none => throw (.graphNodeNotFound id)
  | some node =>
    let node := { node with state }
    set { s with nodes := s.nodes.insert id node }
    return node

def createEdge (draw : Draw) (request : CreateGraphEdgeRequest) : GraphEffect GraphEdge := do
  let s ← get
  s.checkEndpoint "from_node" request.fromNodeId request.tenantId request.workflowId
  s.checkEndpoint "to_node" request.toNodeId request.tenantId request.workflowId
  let edge := GraphState.newEdge draw.id draw.now request
  modify fun s => { s with edges := s.edges.insert draw.id edge }
  modify fun s => { s with edgesByFrom := pushIndex s.edgesByFrom edge.fromNodeId draw.id }
  modify fun s => { s with edgesByTo := pushIndex s.edgesByTo edge.toNodeId draw.id }
  return edge

def deleteEdge (id : Uuid) : GraphEffect Unit := do
  let s ← get
  -- The edge is taken out of the map before its absence is noticed.
  set { s with edges := s.edges.erase id }
  match s.edges.lookup id with
  | none => throw (.graphEdgeNotFound id)
  | some edge =>
    modify fun s => { s with edgesByFrom := dropIndex s.edgesByFrom edge.fromNodeId id }
    modify fun s => { s with edgesByTo := dropIndex s.edgesByTo edge.toNodeId id }

section AllOrNothing

theorem createNode_on (s : GraphState) (draw : Draw) (request : CreateGraphNodeRequest) :
    (createNode draw request).on s =
      (.ok (GraphState.newNode draw.id draw.now request),
        (s.createNode draw.id draw.now request).2) := rfl

/-- Without a node to change, nothing is written. -/
theorem updateNodeState_eq (id : Uuid) (state : NodeState) :
    updateNodeState id state = Effect.transaction fun s => s.updateNodeState id state := by
  refine Effect.ext fun s => ?_
  rw [Effect.on_transaction, updateNodeState, Effect.on_bind_ok (Effect.on_get s)]
  cases h : s.nodes.lookup id with
  | none => simp [GraphState.updateNodeState, h]
  | some node =>
    simp only [GraphState.updateNodeState, h]
    rfl

/-- All the checks of a new edge come before its first write. -/
theorem createEdge_eq (draw : Draw) (request : CreateGraphEdgeRequest) :
    createEdge draw request =
      Effect.transaction fun s => s.createEdge draw.id draw.now request := by
  refine Effect.ext fun s => ?_
  rw [Effect.on_transaction, createEdge, GraphState.createEdge, Effect.on_bind_ok (Effect.on_get s)]
  cases hfrom : s.checkEndpoint "from_node" request.fromNodeId request.tenantId
      request.workflowId with
  | error e => rfl
  | ok u =>
    cases hto : s.checkEndpoint "to_node" request.toNodeId request.tenantId
        request.workflowId with
    | error e => rfl
    | ok u' => rfl

/-- Taking out an edge that is not there writes the map as it was. -/
theorem deleteEdge_eq (id : Uuid) :
    deleteEdge id = Effect.transaction fun s => (s.deleteEdge id).map fun s' => ((), s') := by
  refine Effect.ext fun s => ?_
  rw [Effect.on_transaction, deleteEdge, Effect.on_bind_ok (Effect.on_get s)]
  cases h : s.edges.lookup id with
  | none =>
    have hsame : s.edges.erase id = s.edges := by
      apply AList.ext
      exact List.kerase_of_notMem_keys (AList.lookup_eq_none.mp h)
    simp only [GraphState.deleteEdge, h, hsame]
    rfl
  | some edge =>
    simp only [GraphState.deleteEdge, h]
    rfl

end AllOrNothing

end InMemoryGraphRepository

/-- A call that writes the graph. -/
inductive GraphCall where
  | createNode (draw : Draw) (request : CreateGraphNodeRequest)
  | updateNodeState (id : Uuid) (state : NodeState)
  | createEdge (draw : Draw) (request : CreateGraphEdgeRequest)
  | deleteEdge (id : Uuid)

namespace GraphCall

/-- The call, its returned value left out. -/
def perform : GraphCall → GraphEffect Unit
  | createNode draw request => discard (InMemoryGraphRepository.createNode draw request)
  | updateNodeState id state => discard (InMemoryGraphRepository.updateNodeState id state)
  | createEdge draw request => discard (InMemoryGraphRepository.createEdge draw request)
  | deleteEdge id => InMemoryGraphRepository.deleteEdge id

theorem on_discard {α : Type} (effect : GraphEffect α) (s : GraphState) :
    ((discard effect).on s).2 = (effect.on s).2 := by
  have h : (discard effect : GraphEffect Unit) = effect >>= fun _ => pure () := rfl
  rw [h, Effect.on_bind]
  cases effect.on s with
  | mk r s' =>
    cases r with
    | ok a => rfl
    | error e => rfl

/-- The identifier of a creation is new. -/
def Fresh (s : GraphState) : GraphCall → Prop
  | createNode draw _ => s.nodes.lookup draw.id = none
  | createEdge draw _ => s.edges.lookup draw.id = none
  | updateNodeState _ _ => True
  | deleteEdge _ => True

/-- The call, successful or not, takes one state to the other. -/
def Step (s : GraphState) (call : GraphCall) (s' : GraphState) : Prop :=
  call.Fresh s ∧ (call.perform.on s).2 = s'

/-- All that a call can do to the state: nothing at all, or its whole change. -/
theorem perform_cases (s : GraphState) (call : GraphCall) :
    (call.perform.on s).2 = s ∨
    (∃ draw request, call = .createNode draw request ∧
      (call.perform.on s).2 = (s.createNode draw.id draw.now request).2) ∨
    (∃ id state node, call = .updateNodeState id state ∧
      s.updateNodeState id state = .ok (node, (call.perform.on s).2)) ∨
    (∃ draw request edge, call = .createEdge draw request ∧
      s.createEdge draw.id draw.now request = .ok (edge, (call.perform.on s).2)) ∨
    ∃ id, call = .deleteEdge id ∧ s.deleteEdge id = .ok (call.perform.on s).2 := by
  cases call with
  | createNode draw request => exact .inr (.inl ⟨draw, request, rfl, rfl⟩)
  | updateNodeState id state =>
    have hon : ((updateNodeState id state).perform.on s).2 =
        ((InMemoryGraphRepository.updateNodeState id state).on s).2 := on_discard _ s
    rw [hon, InMemoryGraphRepository.updateNodeState_eq, Effect.on_transaction]
    cases h : s.updateNodeState id state with
    | error e => exact .inl rfl
    | ok p => exact .inr (.inr (.inl ⟨id, state, p.1, rfl, h⟩))
  | createEdge draw request =>
    have hon : ((createEdge draw request).perform.on s).2 =
        ((InMemoryGraphRepository.createEdge draw request).on s).2 := on_discard _ s
    rw [hon, InMemoryGraphRepository.createEdge_eq, Effect.on_transaction]
    cases h : s.createEdge draw.id draw.now request with
    | error e => exact .inl rfl
    | ok p => exact .inr (.inr (.inr (.inl ⟨draw, request, p.1, rfl, h⟩)))
  | deleteEdge id =>
    rw [perform, InMemoryGraphRepository.deleteEdge_eq, Effect.on_transaction]
    cases h : s.deleteEdge id with
    | error e => exact .inl rfl
    | ok s' => exact .inr (.inr (.inr (.inr ⟨id, rfl, h⟩)))

theorem Step.consistent {s s' : GraphState} {call : GraphCall} (h : Step s call s')
    (hs : s.Consistent) : s'.Consistent := by
  obtain ⟨hfresh, rfl⟩ := h
  rcases perform_cases s call with
    hsame | ⟨draw, request, rfl, hnode⟩ | ⟨id, state, node, rfl, hstate⟩ |
    ⟨draw, request, edge, rfl, hedge⟩ | ⟨id, rfl, hdelete⟩
  · rw [hsame]
    exact hs
  · rw [hnode]
    exact hs.createNode hfresh draw.now request
  · exact hs.updateNodeState hstate
  · exact hs.createEdge hfresh hedge
  · exact hs.deleteEdge hdelete

/-- What holds of the indices holds after any calls. -/
theorem consistent_of_run {s s' : GraphState} {calls : List GraphCall}
    (h : Run Step s calls s') (hs : s.Consistent) : s'.Consistent :=
  h.always (fun _ _ _ hstep hc => hstep.consistent hc) hs

end GraphCall

namespace GraphStore

section Listings

variable {g : GraphStore}

theorem nodup_listEdges (order : IterOrder (Uuid × GraphEdge)) (filter : GraphEdgeFilter) :
    (g.state.listEdges order filter).Nodup := by
  apply List.Nodup.filter
  apply List.Nodup.of_map GraphEdge.id
  have hkeys : (order.apply (pairs g.state.edges)).map (GraphEdge.id ∘ Prod.snd) =
      (order.apply (pairs g.state.edges)).map Prod.fst := by
    refine List.map_congr_left fun p hp => ?_
    obtain ⟨id, e⟩ := p
    exact g.consistent.edgeId id e (mem_pairs.mp (order.mem_apply.mp hp))
  rw [List.map_map, hkeys]
  exact ((order.perm _).map Prod.fst).nodup_iff.mpr (nodup_pairs_keys _)

theorem nodup_index {index : HashMap Uuid (List Uuid)} {endpoint : GraphEdge → Uuid}
    (h : ExactIndex g.state.edges endpoint index) (v : Uuid) :
    ((indexEntry index v).filterMap g.state.edges.lookup).Nodup := by
  refine (h.nodup v).filterMap fun id id' e he he' => ?_
  have hid := g.consistent.edgeId id e he
  have hid' := g.consistent.edgeId id' e he'
  exact hid.symm.trans hid'

/-- The index at a node lists the edges that a listing by that end finds. -/
theorem listEdgesFrom_perm (order : IterOrder (Uuid × GraphEdge)) (v : Uuid) :
    (g.state.listEdgesFrom v).Perm (g.state.listEdges order { fromNodeId := some v }) := by
  refine (List.perm_ext_iff_of_nodup (nodup_index g.consistent.byFrom v)
    (nodup_listEdges order _)).mpr fun e => ?_
  have hleft : e ∈ g.state.listEdgesFrom v ↔ g.HasEdge e ∧ e.fromNodeId = v := mem_listEdgesFrom
  have haccepts : GraphState.acceptsEdge { fromNodeId := some v } e = true ↔ e.fromNodeId = v := by
    simp [GraphState.acceptsEdge]
  exact hleft.trans ((and_congr_right fun _ => haccepts.symm).trans mem_listEdges.symm)

theorem listEdgesTo_perm (order : IterOrder (Uuid × GraphEdge)) (v : Uuid) :
    (g.state.listEdgesTo v).Perm (g.state.listEdges order { toNodeId := some v }) := by
  refine (List.perm_ext_iff_of_nodup (nodup_index g.consistent.byTo v)
    (nodup_listEdges order _)).mpr fun e => ?_
  have hleft : e ∈ g.state.listEdgesTo v ↔ g.HasEdge e ∧ e.toNodeId = v := mem_listEdgesTo
  have haccepts : GraphState.acceptsEdge { toNodeId := some v } e = true ↔ e.toNodeId = v := by
    simp [GraphState.acceptsEdge]
  exact hleft.trans ((and_congr_right fun _ => haccepts.symm).trans mem_listEdges.symm)

end Listings

end GraphStore

/-- After any calls on a new repository, failed ones included, identifiers are keys, edges join
nodes of their own tenant and workflow, both indices are exact, the listings by index are those by
filter, and a creation or deletion of an edge that fails writes nothing. -/
theorem graphCalls_consistent {calls : List GraphCall} {s : GraphState}
    (h : Run GraphCall.Step .empty calls s) :
    s.Consistent ∧
    (∀ order v, (s.listEdgesFrom v).Perm (s.listEdges order { fromNodeId := some v })) ∧
    (∀ order v, (s.listEdgesTo v).Perm (s.listEdges order { toNodeId := some v })) ∧
    (∀ draw request e s', (InMemoryGraphRepository.createEdge draw request).on s = (.error e, s') →
      s' = s) ∧
    ∀ id e s', (InMemoryGraphRepository.deleteEdge id).on s = (.error e, s') → s' = s := by
  have hs : s.Consistent := GraphCall.consistent_of_run h .empty
  refine ⟨hs, fun order v => GraphStore.listEdgesFrom_perm (g := ⟨s, hs⟩) order v,
    fun order v => GraphStore.listEdgesTo_perm (g := ⟨s, hs⟩) order v, ?_, ?_⟩
  · intro draw request
    rw [InMemoryGraphRepository.createEdge_eq]
    exact Effect.atomic_transaction _ s
  · intro id
    rw [InMemoryGraphRepository.deleteEdge_eq]
    exact Effect.atomic_transaction _ s

/-- Calls that succeed and calls that fail. -/
def GraphCall.sample : List GraphCall :=
  [.createNode ⟨1, 0⟩ (GraphStore.plainNode .artifact),
    .createNode ⟨2, 0⟩ (GraphStore.plainNode .approval),
    .createEdge ⟨3, 0⟩ (GraphStore.plainEdge 1 2), .createEdge ⟨4, 0⟩ (GraphStore.plainEdge 1 9),
    .updateNodeState 2 .stale, .deleteEdge 7]

theorem graphCalls_consistent_sample :
    ∃ s, Run GraphCall.Step .empty GraphCall.sample s ∧ s.Consistent ∧ s.edges.keys = [3] := by
  have hrun : Run GraphCall.Step .empty GraphCall.sample _ :=
    .cons ⟨rfl, rfl⟩ (.cons ⟨rfl, rfl⟩ (.cons ⟨rfl, rfl⟩ (.cons ⟨rfl, rfl⟩ (.cons ⟨trivial, rfl⟩
      (.cons ⟨trivial, rfl⟩ (.nil _))))))
  exact ⟨_, hrun, (graphCalls_consistent hrun).1, rfl⟩

end IntentRebase
