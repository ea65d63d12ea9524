import IntentRebase.Types.Common

/-! The dependency graph's nodes and edges, the requests that create and list them, and the options
and results of its searches. -/

namespace IntentRebase

/-- The kind of external entity a node stands for. -/
inductive ExternalRefType where
  | intent | intentVersion | artifact | approval | policySnapshot | sideEffect | checkpoint
deriving DecidableEq, Repr

/-- A reference to the external entity a node stands for. -/
structure ExternalRef where
  refType : ExternalRefType
  refId : Uuid
deriving DecidableEq, Repr

inductive NodeType where
  | intent | intentVersion | artifact | approval | policySnapshot | sideEffect | checkpoint
  | workflow | generic
deriving DecidableEq, Repr

inductive NodeState where
  | active | stale | invalid | archived
deriving DecidableEq, Repr

/-- A node of the dependency graph, scoped to a tenant and a workflow. -/
structure GraphNode where
  id : Uuid
  tenantId : Uuid
  workflowId : Uuid
  nodeType : NodeType
  externalRef : Option ExternalRef
  label : String
  state : NodeState
  properties : Json
  createdAt : DateTime

inductive EdgeType where
  | dependsOn | produces | approves | triggers | defines | generatedFrom | validatedBy | governedBy
  | derivedFrom | storedIn | supersedes | blocks | compensates
deriving DecidableEq, Repr

/-- A typed edge between two nodes. -/
structure GraphEdge where
  id : Uuid
  tenantId : Uuid
  workflowId : Uuid
  fromNodeId : Uuid
  toNodeId : Uuid
  edgeType : EdgeType
  properties : Json
  createdAt : DateTime

structure CreateGraphNodeRequest where
  tenantId : Uuid
  workflowId : Uuid
  nodeType : NodeType
  externalRef : Option ExternalRef
  label : String
  properties : Option Json

structure CreateGraphEdgeRequest where
  tenantId : Uuid
  workflowId : Uuid
  fromNodeId : Uuid
  toNodeId : Uuid
  edgeType : EdgeType
  properties : Option Json

/-- The nodes a listing asks for; an absent field asks for all. -/
structure GraphNodeFilter where
  tenantId : Option Uuid := none
  workflowId : Option Uuid := none
  nodeType : Option NodeType := none
  state : Option NodeState := none

/-- The edges a listing asks for; an absent field asks for all. -/
structure GraphEdgeFilter where
  tenantId : Option Uuid := none
  workflowId : Option Uuid := none
  fromNodeId : Option Uuid := none
  toNodeId : Option Uuid := none
  edgeType : Option EdgeType := none

/-- A path through the graph: its nodes, ends included, and the edges between them. -/
structure GraphPath where
  nodeIds : List Uuid
  edgeIds : List Uuid
deriving DecidableEq, Repr

/-- The path that stands for no path. -/
def GraphPath.empty : GraphPath := { nodeIds := [], edgeIds := [] }

def GraphPath.isEmpty (path : GraphPath) : Bool := path.nodeIds.isEmpty

structure ReachabilityResult where
  reachableNodes : List Uuid
  incomingEdges : List Uuid
deriving DecidableEq, Repr

structure CycleDetectionResult where
  hasCycle : Bool
  cyclePath : Option (List Uuid)
deriving DecidableEq, Repr

structure TraversalOptions where
  maxDepth : Option Nat := none
  edgeTypes : Option (List EdgeType) := none
  nodeTypes : Option (List NodeType) := none
  includeStart : Bool := true

inductive EdgeDirection where
  | incoming | outgoing | both
deriving DecidableEq, Repr

/-- The rules by which a change's impact spreads through the graph. -/
structure PropagationConfig where
  maxDepth : Option Nat
  traversableEdgeTypes : List EdgeType
  traversableDirections : List EdgeDirection
  targetNodeTypes : List NodeType
deriving DecidableEq, Repr

/-- The rules in force when a request names none. -/
def defaultPropagationConfig : PropagationConfig where
  maxDepth := some 3
  traversableEdgeTypes := [.dependsOn, .triggers, .generatedFrom, .validatedBy]
  traversableDirections := [.both]
  targetNodeTypes := [.artifact, .approval, .sideEffect, .generic]

inductive ClassificationImpact where
  | direct | transitive | unchanged
deriving DecidableEq, Repr

structure ClassifiedNode where
  node : GraphNode
  impact : ClassificationImpact
  reason : String

structure ClassifyRequest where
  startNodeId : Uuid
  maxDepth : Option Nat := some 3
  targetNodeTypes : Option (List NodeType) := none
  propagationConfig : Option PropagationConfig := none

structure ClassificationResult where
  classifiedNodes : List ClassifiedNode
  startNodeId : Uuid
  maxDepth : Nat

/-- Whether the affected items of a preview could be computed from the graph. -/
inductive AffectedItemsStatus where
  | available | unavailable
deriving DecidableEq, Repr

structure AffectedItem where
  nodeId : Uuid
  label : String
  impact : ClassificationImpact
  reason : String
  externalRef : Option ExternalRef
deriving DecidableEq, Repr

structure AffectedItemsPreview where
  status : AffectedItemsStatus
  affectedArtifacts : List AffectedItem
  affectedApprovals : List AffectedItem
  sideEffects : List AffectedItem
deriving DecidableEq, Repr

/-- The preview of a plan made without graph data. -/
def AffectedItemsPreview.unavailable : AffectedItemsPreview where
  status := .unavailable
  affectedArtifacts := []
  affectedApprovals := []
  sideEffects := []

end IntentRebase
