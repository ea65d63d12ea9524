import IntentRebase.Graph.Repository

/-! The updater of the graph: changes of the state of single nodes, each checked against the table
of transitions. -/

namespace IntentRebase

open Kit

/-- The name of a state as its derived debug text writes it. -/
def NodeState.debug : NodeState → String
  | .active => "Active"
  | .stale => "Stale"
  | .invalid => "Invalid"
  | .archived => "Archived"

/-- A change made to a node. -/
structure GraphUpdateAction where
  nodeId : Uuid
  nodeType : NodeType
  label : String
  previousState : NodeState
  newState : NodeState
  reason : String
deriving DecidableEq, Repr

structure GraphUpdateResult where
  success : Bool
  action : Option GraphUpdateAction
  error : Option String
deriving DecidableEq, Repr

def GraphUpdateResult.succeeded (action : GraphUpdateAction) : GraphUpdateResult :=
  { success := true, action := some action, error := none }

def GraphUpdateResult.failure (_nodeId : Uuid) (error : String) : GraphUpdateResult :=
  { success := false, action := none, error := some error }

/-- The two calls on stored nodes that the updater makes. -/
structure NodeAccess (σ : Type) where
  getNode : Uuid → Effect σ IntentRebaseError GraphNode
  updateNodeState : Uuid → NodeState → Effect σ IntentRebaseError GraphNode

/-- The service over a repository, which may be the SQL one; that one also makes the two calls
inside a transaction. -/
structure GraphService (σ : Type) extends NodeAccess σ where
  asSqlxRepo : Option (NodeAccess σ)

/-- The service over the repository in memory. -/
def InMemoryGraphRepository.service : GraphService GraphState where
  getNode := InMemoryGraphRepository.getNode
  updateNodeState := InMemoryGraphRepository.updateNodeState
  asSqlxRepo := none

/-- The transitions that the updater makes. -/
def isValidTransition (src dst : NodeState) : Bool :=
  -- The same state is allowed; the updater then writes nothing.
  if src = dst then true
  else
    match src, dst with
    | .active, .stale => true
    | .active, .invalid => true
    | .stale, .active => true
    | .stale, .archived => true
    | .stale, .invalid => true
    | .invalid, _ => false
    | .archived, _ => false
    | _, _ => false

/-- A state that is never left. -/
def NodeState.IsTerminal (state : NodeState) : Prop := state = .invalid ∨ state = .archived

instance (state : NodeState) : Decidable state.IsTerminal :=
  inferInstanceAs (Decidable (_ ∨ _))

/-- From a terminal state the table allows nothing but that state. -/
theorem isValidTransition_terminal {src dst : NodeState} (h : src.IsTerminal) :
    isValidTransition src dst = true ↔ dst = src := by
  rcases h with rfl | rfl <;> cases dst <;> decide

namespace GraphUpdater

variable {σ : Type}

/-- A change of one node's state: read, check, write. -/
def updateNodeStateIfAffected (graphService : GraphService σ) (nodeId : Uuid)
    (newState : NodeState) (reason : String) : Effect σ IntentRebaseError GraphUpdateResult := do
  match ← (graphService.getNode nodeId).attempt with
  | .error e => return .failure nodeId s!"Node not found: {e.display}"
  | .ok node =>
    let previousState := node.state
    if !isValidTransition previousState newState then
      return .failure nodeId s!"Invalid transition: {previousState.debug} -> {newState.debug}"
    else if previousState = newState then
      return .succeeded
        { nodeId, nodeType := node.nodeType, label := node.label, previousState, newState
          reason := s!"No change needed: already in {newState.debug}" }
    else
      match ← (graphService.updateNodeState nodeId newState).attempt with
      | .ok updatedNode =>
        return .succeeded
          { nodeId, nodeType := updatedNode.nodeType, label := updatedNode.label, previousState
            newState, reason }
      | .error e => return .failure nodeId s!"Update failed: {e.display}"

/-- The same change inside a transaction of the SQL repository. -/
def updateNodeStateIfAffectedWithTx (graphService : GraphService σ) (nodeId : Uuid)
    (newState : NodeState) (reason : String) : Effect σ IntentRebaseError GraphUpdateResult := do
  match graphService.asSqlxRepo with
  | none =>
    throw (.internal "update_node_state_if_affected_with_tx requires SQL graph repository")
  | some sqlRepo =>
    match ← (sqlRepo.getNode nodeId).attempt with
    | .error e => return .failure nodeId s!"Node not found: {e.display}"
    | .ok node =>
      let previousState := node.state
      if !isValidTransition previousState newState then
        return .failure nodeId s!"Invalid transition: {previousState.debug} -> {newState.debug}"
      else if previousState = newState then
        return .succeeded
          { nodeId, nodeType := node.nodeType, label := node.label, previousState, newState
            reason := s!"No change needed: already in {newState.debug}" }
      else
        match ← (sqlRepo.updateNodeState nodeId newState).attempt with
        | .ok updatedNode =>
          return .succeeded
            { nodeId, nodeType := updatedNode.nodeType, label := updatedNode.label, previousState
              newState, reason }
        | .error e => return .failure nodeId s!"Update failed: {e.display}"

end GraphUpdater

end IntentRebase
