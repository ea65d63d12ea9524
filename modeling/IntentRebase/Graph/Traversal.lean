import IntentRebase.Graph.InMemory
import IntentRebase.Kit.Search

/-! The traversal primitives of the graph service: breadth-first reachability, the shortest path
between two nodes, and the detection of cycles within a workflow. -/

namespace IntentRebase

open Kit

/-- The edge is of a type that the traversal follows. -/
def edgePassesFilter (edge : GraphEdge) (options : TraversalOptions) : Bool :=
  match options.edgeTypes with
  | some edgeTypes => edgeTypes.contains edge.edgeType
  | none => true

section FindReachable

/-- An entry of the queue: a node, the edge it was reached by, and its depth. -/
structure ReachItem where
  nodeId : Uuid
  edgeId : Option Uuid
  depth : Nat

structure ReachState where
  visited : List Uuid
  incomingEdges : List Uuid

variable (s : GraphState) (startNodeId : Uuid) (options : TraversalOptions)

/-- The entries for the edges that leave a node and pass the filter. -/
def outgoingItems (nodeId : Uuid) (depth : Nat) : List ReachItem :=
  ((s.listEdgesFrom nodeId).filter fun e => edgePassesFilter e options).map fun e =>
    { nodeId := e.toNodeId, edgeId := some e.id, depth }

/-- The node is of a type that the traversal passes through; a node that is not found is not. -/
def passesNodeFilter (nodeId : Uuid) : Bool :=
  match options.nodeTypes with
  | some filterNodeTypes =>
    match s.getNode nodeId with
    | .ok node => filterNodeTypes.contains node.nodeType
    | .error _ => false
  | none => true

/-- One iteration of the search, for the entry at the front of the queue. -/
def reachStep (st : ReachState) (item : ReachItem) :
    Except IntentRebaseError (ReachState × List ReachItem) :=
  if item.nodeId = startNodeId && !options.includeStart then .ok (st, [])
  else if options.maxDepth.any (item.depth > ·) then .ok (st, [])
  else if !passesNodeFilter s options item.nodeId then .ok (st, [])
  else if item.nodeId ∈ st.visited then .ok (st, [])
  else
    let incomingEdges := st.incomingEdges ++ item.edgeId.toList
    let atMaxDepth := options.maxDepth.any (item.depth ≥ ·)
    .ok ({ visited := item.nodeId :: st.visited, incomingEdges },
      if atMaxDepth then [] else outgoingItems s options item.nodeId (item.depth + 1))

/-- The nodes reachable from a start node; `order` is the iteration order of the visited set. -/
def findReachable (order : IterOrder Uuid) (fuel : Nat) :
    Option (Except IntentRebaseError ReachabilityResult) :=
  match s.getNode startNodeId with
  | .error e => some (.error e)
  | .ok _ =>
    let visited := if options.includeStart then [startNodeId] else []
    let queue := outgoingItems s options startNodeId 1
    (worklist (reachStep s startNodeId options) fuel queue { visited, incomingEdges := [] }).map
      fun result => result.map fun st =>
        { reachableNodes := order.apply st.visited, incomingEdges := st.incomingEdges }

end FindReachable

section FindPath

/-- The map from a node to the node before it and the edge between them. -/
abbrev ParentMap := HashMap Uuid (Uuid × Uuid)

structure PathState where
  visited : List Uuid
  parentEdge : ParentMap

/-- The path back from a node, by the parent map: the nodes and edges before it, or nothing if a
parent is missing. -/
def reconstructLoop (source : Uuid) (parentEdge : ParentMap) :
    Nat → Uuid → List Uuid → List Uuid → Option GraphPath
  | 0, _, _, _ => none
  | fuel + 1, current, nodeIds, edgeIds =>
    if current ≠ source then
      match parentEdge.lookup current with
      | some (prev, edgeId) =>
        reconstructLoop source parentEdge fuel prev (nodeIds ++ [prev]) (edgeIds ++ [edgeId])
      | none => some .empty
    else some { nodeIds := nodeIds.reverse, edgeIds := edgeIds.reverse }

def reconstructPath (fuel : Nat) (source target : Uuid) (parentEdge : ParentMap) :
    Option GraphPath :=
  reconstructLoop source parentEdge fuel target [target] []

variable (s : GraphState) (source target : Uuid) (options : TraversalOptions)

/-- The edges that leave a node, one after the other: the target ends the search with its parent
map, and every other node not visited before is marked and pushed. -/
def scanEdges (nodeId : Uuid) (depth : Nat) :
    List GraphEdge → PathState → List (Uuid × Nat) →
      Except ParentMap (PathState × List (Uuid × Nat))
  | [], st, pushed => .ok (st, pushed)
  | edge :: rest, st, pushed =>
    if !edgePassesFilter edge options then scanEdges nodeId depth rest st pushed
    else if edge.toNodeId = target then
      .error (st.parentEdge.insert edge.toNodeId (nodeId, edge.id))
    else if edge.toNodeId ∈ st.visited then scanEdges nodeId depth rest st pushed
    else
      scanEdges nodeId depth rest
        { visited := edge.toNodeId :: st.visited
          parentEdge := st.parentEdge.insert edge.toNodeId (nodeId, edge.id) }
        (pushed ++ [(edge.toNodeId, depth + 1)])

/-- One iteration of the search, for the entry at the front of the queue. -/
def pathStep (st : PathState) (item : Uuid × Nat) :
    Except ParentMap (PathState × List (Uuid × Nat)) :=
  if options.maxDepth.any (item.2 ≥ ·) then .ok (st, [])
  else scanEdges target options item.1 item.2 (s.listEdgesFrom item.1) st []

/-- The search from the source; it ends with a parent map if it finds the target. -/
def pathLoop (fuel : Nat) : Option (Except ParentMap PathState) :=
  worklist (pathStep s target options) fuel [(source, 0)]
    { visited := [source], parentEdge := ∅ }

/-- A shortest path from a source to a target, or the empty path. The search and the reconstruction
each have the fuel. -/
def findPath (fuel : Nat) : Option (Except IntentRebaseError GraphPath) :=
  match s.getNode source with
  | .error e => some (.error e)
  | .ok _ =>
    match s.getNode target with
    | .error e => some (.error e)
    | .ok _ =>
      if source = target then
        if options.includeStart then some (.ok { nodeIds := [source], edgeIds := [] })
        else some (.ok .empty)
      else
        match pathLoop s source target options fuel with
        | none => none
        | some (.ok _) => some (.ok .empty)
        | some (.error parentEdge) => (reconstructPath fuel source target parentEdge).map .ok

end FindPath

section DetectCycles

inductive Color where
  | white | gray | black
deriving DecidableEq, Repr

/-- What the depth-first search carries: the colours, the path from its root, and the cycle found.
-/
structure DfsState where
  color : HashMap Uuid Color
  path : List Uuid
  cycle : Option (List Uuid)

/-- The cycle that the first grey neighbour of a node closes: the path from that neighbour on, and
the neighbour again. -/
def backEdgeCycle (color : HashMap Uuid Color) (path : List Uuid) :
    List Uuid → Option (List Uuid)
  | [] => none
  | neighbor :: rest =>
    if color.lookup neighbor = some .gray then
      match path.idxOf? neighbor with
      | some pos => some (path.drop pos ++ [neighbor])
      | none => backEdgeCycle color path rest
    else backEdgeCycle color path rest

/-- A function on the neighbours in turn, until it reports a cycle. -/
def firstCycle (visit : Uuid → DfsState → Option (Bool × DfsState)) :
    List Uuid → DfsState → Option (Bool × DfsState)
  | [], st => some (false, st)
  | neighbor :: rest, st =>
    if st.color.lookup neighbor = some .white then
      match visit neighbor st with
      | none => none
      | some (true, st') => some (true, st')
      | some (false, st') => firstCycle visit rest st'
    else firstCycle visit rest st

/-- The depth-first search from a node; it reports whether it found a cycle. -/
def dfs (adj : HashMap Uuid (List Uuid)) : Nat → Uuid → DfsState → Option (Bool × DfsState)
  | 0, _, _ => none
  | fuel + 1, node, st =>
    let color := st.color.insert node .gray
    let path := st.path ++ [node]
    let finish (found : Bool) (st : DfsState) : Option (Bool × DfsState) :=
      some (found, { st with path := st.path.dropLast, color := st.color.insert node .black })
    let neighbors := (adj.lookup node).getD []
    match backEdgeCycle color path neighbors with
    | some cycle => finish true { color, path, cycle := some cycle }
    | none =>
      match firstCycle (dfs adj fuel) neighbors { st with color, path } with
      | none => none
      | some (true, st') => some (true, st')
      | some (false, st') => finish false st'

/-- The search from each node that is still white, until it finds a cycle. -/
def dfsAll (adj : HashMap Uuid (List Uuid)) (fuel : Nat) :
    List GraphNode → DfsState → Option DfsState
  | [], st => some st
  | node :: rest, st =>
    if st.color.lookup node.id = some .white then
      match dfs adj fuel node.id { st with path := [] } with
      | none => none
      | some (true, st') => some st'
      | some (false, st') => dfsAll adj fuel rest st'
    else dfsAll adj fuel rest st

/-- The neighbours of every node of the workflow, in the order of the edges. -/
def adjacency (nodes : List GraphNode) (edges : List GraphEdge) : HashMap Uuid (List Uuid) :=
  edges.foldl (fun adj e => pushIndex adj e.fromNodeId e.toNodeId)
    (nodes.foldl (fun adj n => adj.insert n.id (indexEntry adj n.id)) ∅)

/-- Whether the workflow has a cycle, and one if it has. -/
def detectCycles (s : GraphState) (nodeOrder : IterOrder (Uuid × GraphNode))
    (edgeOrder : IterOrder (Uuid × GraphEdge)) (workflowId : Uuid) (fuel : Nat) :
    Option CycleDetectionResult :=
  let nodes := s.listNodes nodeOrder { workflowId := some workflowId }
  if nodes.isEmpty then some { hasCycle := false, cyclePath := none }
  else
    let edges := s.listEdges edgeOrder { workflowId := some workflowId }
    let adj := adjacency nodes edges
    let color : HashMap Uuid Color := nodes.foldl (fun color n => color.insert n.id .white) ∅
    (dfsAll adj fuel nodes { color, path := [], cycle := none }).map fun st =>
      { hasCycle := st.cycle.isSome, cyclePath := st.cycle }

end DetectCycles

end IntentRebase
