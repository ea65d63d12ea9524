import IntentRebase.Graph.Agreement
import IntentRebase.Graph.Repository
import Mathlib.Logic.Relation

/-! The re-evaluation of the edges into a version, which does not flag an edge for an invalid end.
The detection of orphans: the artifacts and side effects of a workflow from which no short path
leads to the version, and when these artifacts are those that no longer depend on it. -/

namespace IntentRebase

open Kit

structure EdgeReevaluationResult where
  edgesExamined : Nat
  validEdges : Nat
  flaggedEdges : Nat
  flaggedEdgeIds : List Uuid
  summary : String

inductive EdgeValidity where
  | valid | targetStale | sourceStale
deriving DecidableEq, Repr

def evaluateEdgeValidity (edge : GraphEdge) : GraphEffect EdgeValidity := do
  let source ← InMemoryGraphRepository.getNode edge.fromNodeId
  let target ← InMemoryGraphRepository.getNode edge.toNodeId
  if source.state = .stale ∨ source.state = .archived then return .sourceStale
  else if target.state = .stale ∨ target.state = .archived then return .targetStale
  else return .valid

/-- The loop over the edges, with those flagged before. -/
def flagEdges : List GraphEdge → List Uuid → GraphEffect (List Uuid)
  | [], flaggedEdgeIds => return flaggedEdgeIds
  | edge :: edges, flaggedEdgeIds => do
    let validity ← evaluateEdgeValidity edge
    flagEdges edges (if validity ≠ .valid then flaggedEdgeIds ++ [edge.id] else flaggedEdgeIds)

/-- The edges into a version, in the order in which they are listed, and those to review. -/
def reevaluateEdgesFromIntentVersion (order : IterOrder (Uuid × GraphEdge))
    (intentVersionNodeId tenantId : Uuid) : GraphEffect EdgeReevaluationResult := do
  let s ← get
  let edges := s.listEdges order { tenantId := some tenantId, toNodeId := some intentVersionNodeId }
  let flaggedEdgeIds ← flagEdges edges []
  let validEdges := edges.length - flaggedEdgeIds.length
  return {
    edgesExamined := edges.length
    validEdges
    flaggedEdges := flaggedEdgeIds.length
    flaggedEdgeIds
    summary := s!"Examined {edges.length} edges from intent version: " ++
      s!"{validEdges} valid, {flaggedEdgeIds.length} flagged" }

namespace GraphStore

variable (g : GraphStore)

/-- Some end of the edge is in such a state. -/
def EndIn (states : List NodeState) (e : GraphEdge) : Prop :=
  ∃ node, node.state ∈ states ∧ (g.state.nodes.lookup e.fromNodeId = some node ∨
    g.state.nodes.lookup e.toNodeId = some node)

/-- The edge is one of the tenant into the version. -/
def Incoming (versionId tenantId : Uuid) (e : GraphEdge) : Prop :=
  g.HasEdge e ∧ e.tenantId = tenantId ∧ e.toNodeId = versionId

/-- All edges of the tenant into the version are examined, and those without two active ends are
flagged, each once. -/
structure ReevaluatedExactly (versionId tenantId : Uuid) (result : EdgeReevaluationResult) :
    Prop where
  examined : ∃ edges : List GraphEdge, edges.Nodup ∧
    (∀ e, e ∈ edges ↔ g.Incoming versionId tenantId e) ∧ result.edgesExamined = edges.length
  nodup : result.flaggedEdgeIds.Nodup
  flagged : ∀ id, id ∈ result.flaggedEdgeIds ↔ ∃ e, g.Incoming versionId tenantId e ∧ e.id = id ∧
    g.EndIn [.stale, .invalid, .archived] e
  count : result.flaggedEdges = result.flaggedEdgeIds.length
  sum : result.validEdges + result.flaggedEdges = result.edgesExamined

end GraphStore

section Reevaluation

variable {g : GraphStore} {versionId tenantId : Uuid}

theorem getNode_on {id : Uuid} {node : GraphNode} (h : g.state.nodes.lookup id = some node) :
    (InMemoryGraphRepository.getNode id).on g.state = (.ok node, g.state) := by
  rw [InMemoryGraphRepository.getNode, Effect.on_bind_ok (Effect.on_get _), Effect.on_lift,
    GraphStore.getNode_ok.mpr h]

/-- An edge is not valid exactly if an end is stale or archived, and only nodes are read. -/
theorem evaluateEdgeValidity_on {e : GraphEdge} (he : g.HasEdge e) : ∃ validity,
    (evaluateEdgeValidity e).on g.state = (.ok validity, g.state) ∧
      (validity ≠ .valid ↔ g.EndIn [.stale, .archived] e) := by
  obtain ⟨source, hsource⟩ := mem_iff_lookup.mp he.from_mem
  obtain ⟨target, htarget⟩ := mem_iff_lookup.mp he.to_mem
  have hend : g.EndIn [.stale, .archived] e ↔
      (source.state = .stale ∨ source.state = .archived) ∨
        (target.state = .stale ∨ target.state = .archived) := by
    rw [GraphStore.EndIn, hsource, htarget]
    simp only [List.mem_cons, List.not_mem_nil, or_false, Option.some.injEq]
    constructor
    · rintro ⟨node, hstate, rfl | rfl⟩
      · exact .inl hstate
      · exact .inr hstate
    · rintro (hstate | hstate)
      · exact ⟨source, hstate, .inl rfl⟩
      · exact ⟨target, hstate, .inr rfl⟩
  rw [evaluateEdgeValidity, Effect.on_bind_ok (getNode_on hsource),
    Effect.on_bind_ok (getNode_on htarget), hend]
  split
  · next hstale => exact ⟨_, rfl, iff_of_true (by decide) (.inl hstale)⟩
  next hsourceActive =>
  split
  · next hstale => exact ⟨_, rfl, iff_of_true (by decide) (.inr hstale)⟩
  · next htargetActive =>
    exact ⟨_, rfl, iff_of_false (by simp) (not_or.mpr ⟨hsourceActive, htargetActive⟩)⟩

open Classical in
/-- The loop flags the edges with a stale or archived end. -/
theorem flagEdges_on {edges : List GraphEdge} (hedges : ∀ e ∈ edges, g.HasEdge e)
    (flagged : List Uuid) : (flagEdges edges flagged).on g.state = (.ok (flagged ++
      (edges.filter fun e => g.EndIn [.stale, .archived] e).map GraphEdge.id), g.state) := by
  induction edges generalizing flagged with
  | nil =>
    rw [flagEdges, Effect.on_pure]
    simp
  | cons e edges ih =>
    obtain ⟨he, hrest⟩ := List.forall_mem_cons.mp hedges
    obtain ⟨validity, hvalidity, hflag⟩ := evaluateEdgeValidity_on he
    rw [flagEdges, Effect.on_bind_ok hvalidity, ih hrest]
    by_cases hend : g.EndIn [.stale, .archived] e
    · rw [if_pos (hflag.mpr hend), List.filter_cons_of_pos (by simpa using hend), List.map_cons,
        List.append_assoc, List.singleton_append]
    · rw [if_neg (fun h => hend (hflag.mp h)), List.filter_cons_of_neg (by simpa using hend)]

theorem mem_listEdges_incoming {order : IterOrder (Uuid × GraphEdge)} {e : GraphEdge} :
    e ∈ g.state.listEdges order { tenantId := some tenantId, toNodeId := some versionId } ↔
      g.Incoming versionId tenantId e := by
  rw [GraphStore.mem_listEdges, GraphStore.Incoming]
  simp [GraphState.acceptsEdge]

/-- The edges into the version are counted, those with a stale or archived end are flagged, and the
graph is only read. -/
theorem reevaluateEdgesFromIntentVersion_on (order : IterOrder (Uuid × GraphEdge)) :
    ∃ edges : List GraphEdge, edges.Nodup ∧ (∀ e, e ∈ edges ↔ g.Incoming versionId tenantId e) ∧
      ∃ result, (reevaluateEdgesFromIntentVersion order versionId tenantId).on g.state =
          (.ok result, g.state) ∧
        result.edgesExamined = edges.length ∧ result.flaggedEdgeIds.Nodup ∧
        (∀ id, id ∈ result.flaggedEdgeIds ↔ ∃ e, g.Incoming versionId tenantId e ∧ e.id = id ∧
          g.EndIn [.stale, .archived] e) ∧
        result.flaggedEdges = result.flaggedEdgeIds.length ∧
        result.validEdges + result.flaggedEdges = edges.length := by
  classical
  let edges := g.state.listEdges order { tenantId := some tenantId, toNodeId := some versionId }
  have hmem : ∀ e, e ∈ edges ↔ g.Incoming versionId tenantId e := fun e => mem_listEdges_incoming
  have hnodup : edges.Nodup := GraphStore.nodup_listEdges order _
  let flagged := edges.filter fun e => g.EndIn [.stale, .archived] e
  have hflag : (flagEdges edges []).on g.state = (.ok (flagged.map GraphEdge.id), g.state) :=
    flagEdges_on (fun e he => ((hmem e).mp he).1) []
  obtain ⟨summary, hon⟩ : ∃ summary, (reevaluateEdgesFromIntentVersion order versionId tenantId).on
      g.state = (.ok ⟨edges.length, edges.length - (flagged.map GraphEdge.id).length,
        (flagged.map GraphEdge.id).length, flagged.map GraphEdge.id, summary⟩, g.state) := by
    rw [reevaluateEdgesFromIntentVersion, Effect.on_bind_ok (Effect.on_get _),
      Effect.on_bind_ok hflag, Effect.on_pure]
    exact ⟨_, rfl⟩
  refine ⟨edges, hnodup, hmem, _, hon, rfl, ?_, fun id => ?_, rfl, ?_⟩
  · refine (hnodup.filter _).map_on fun e he e' he' hid => ?_
    have hstored := ((hmem e).mp (List.mem_of_mem_filter he)).1
    have hstored' := ((hmem e').mp (List.mem_of_mem_filter he')).1
    rw [GraphStore.HasEdge, hid] at hstored
    exact Option.some.inj (hstored.symm.trans hstored')
  · rw [List.mem_map]
    constructor
    · rintro ⟨e, he, rfl⟩
      obtain ⟨hlisted, hend⟩ := List.mem_filter.mp he
      exact ⟨e, (hmem e).mp hlisted, rfl, by simpa using hend⟩
    · rintro ⟨e, hincoming, rfl, hend⟩
      exact ⟨e, List.mem_filter.mpr ⟨(hmem e).mpr hincoming, by simpa using hend⟩, rfl⟩
  · have hle : (flagged.map GraphEdge.id).length ≤ edges.length := by
      rw [List.length_map]
      exact List.length_filter_le _ _
    exact Nat.sub_add_cancel hle

/-- The broken edges are flagged exactly if none of them is broken by an invalid end alone. -/
theorem reevaluated_exactly_iff (g : GraphStore) (order : IterOrder (Uuid × GraphEdge))
    (versionId tenantId : Uuid) : ∃ result,
      (reevaluateEdgesFromIntentVersion order versionId tenantId).on g.state =
          (.ok result, g.state) ∧
        (g.ReevaluatedExactly versionId tenantId result ↔
          ∀ e, g.Incoming versionId tenantId e → g.EndIn [.invalid] e →
            g.EndIn [.stale, .archived] e) := by
  obtain ⟨edges, hnodup, hmem, result, hon, hexamined, hids, hflagged, hcount, hsum⟩ :=
    @reevaluateEdgesFromIntentVersion_on g versionId tenantId order
  refine ⟨result, hon, ?_⟩
  have hbroken : ∀ e, g.EndIn [.stale, .invalid, .archived] e ↔
      g.EndIn [.stale, .archived] e ∨ g.EndIn [.invalid] e := by
    intro e
    simp only [GraphStore.EndIn, List.mem_cons, List.not_mem_nil, or_false, ← exists_or,
      ← or_and_right]
    exact exists_congr fun node => and_congr_left fun _ => by tauto
  constructor
  · intro hexact e hincoming hinvalid
    obtain ⟨e', hincoming', hid, hend⟩ := (hflagged e.id).mp
      ((hexact.flagged e.id).mpr ⟨e, hincoming, rfl, (hbroken e).mpr (.inr hinvalid)⟩)
    have hsame := hincoming'.1
    rw [GraphStore.HasEdge, hid] at hsame
    exact Option.some.inj (hincoming.1.symm.trans hsame) ▸ hend
  · intro hcondition
    refine ⟨⟨edges, hnodup, hmem, hexamined⟩, hids, fun id => ?_, hcount, hsum.trans hexamined.symm⟩
    rw [hflagged id]
    refine exists_congr fun e => and_congr_right fun hincoming => and_congr_right fun _ => ?_
    rw [hbroken e]
    refine ⟨.inl, ?_⟩
    rintro (hstale | hinvalid)
    · exact hstale
    · exact hcondition e hincoming hinvalid

end Reevaluation

/-- An artifact, an intent version, and an edge of the given type from the artifact to the
version. -/
def GraphStore.artifactOf (edgeType : EdgeType) : GraphStore :=
  let nodes := (empty.createNode 1 firstNode_fresh 0 (plainNode .artifact)).createNode 2
    secondNode_fresh 0 (plainNode .intentVersion)
  nodes.createEdge 3 rfl 0 { plainEdge 1 2 with edgeType }

/-- The edge of an invalid artifact is taken for valid. -/
theorem not_reevaluated_exactly : ¬ ∀ (g : GraphStore) (order : IterOrder (Uuid × GraphEdge))
    (versionId tenantId : Uuid), ∃ result,
      (reevaluateEdgesFromIntentVersion order versionId tenantId).on g.state =
          (.ok result, g.state) ∧ g.ReevaluatedExactly versionId tenantId result := by
  intro h
  let g := (GraphStore.artifactOf .dependsOn).updateNodeState 1 .invalid
  obtain ⟨result, hon, hexact⟩ := h g (.id _) 2 0
  obtain ⟨result', hon', hnil⟩ : ∃ result',
      ((reevaluateEdgesFromIntentVersion (.id _) 2 0).on g.state).1 = .ok result' ∧
        result'.flaggedEdgeIds = [] := ⟨_, rfl, rfl⟩
  rw [hon] at hon'
  obtain rfl := Except.ok.inj hon'
  obtain ⟨e, hedge⟩ : ∃ e, g.state.edges.lookup 3 = some e ∧ e.id = 3 ∧ e.fromNodeId = 1 ∧
      e.tenantId = 0 ∧ e.toNodeId = 2 := ⟨_, rfl, rfl, rfl, rfl, rfl⟩
  obtain ⟨hlookup, hid, hfrom, htenant, hto⟩ := hedge
  obtain ⟨node, hnode, hstate⟩ : ∃ node, g.state.nodes.lookup 1 = some node ∧
      node.state = .invalid := ⟨_, rfl, rfl⟩
  have hincoming : g.Incoming 2 0 e := ⟨by rw [GraphStore.HasEdge, hid, hlookup], htenant, hto⟩
  have hbroken : g.EndIn [.stale, .invalid, .archived] e :=
    ⟨node, by simp [hstate], .inl (by rw [hfrom, hnode])⟩
  have hflagged := (hexact.flagged 3).mpr ⟨e, hincoming, hid, hbroken⟩
  rw [hnil] at hflagged
  cases hflagged

/-- Some path of at most `maxDepth` edges joins the nodes. -/
def areConnected (s : GraphState) (sourceId targetId : Uuid) (maxDepth : Option Nat) (fuel : Nat) :
    Option (Except IntentRebaseError Bool) :=
  (findPath s sourceId targetId { maxDepth } fuel).map fun result =>
    result.map fun path => !path.isEmpty

structure OrphanDetectionResult where
  artifactsExamined : Nat
  reachableArtifacts : Nat
  orphanedArtifacts : Nat
  orphanedArtifactIds : List Uuid
  sideEffectsExamined : Nat
  reachableSideEffects : Nat
  orphanedSideEffects : Nat
  orphanedSideEffectIds : List Uuid
  summary : String

/-- The nodes that are connected to the version are counted, and the identifiers of the others are
listed, after those found before. -/
def splitOrphans (s : GraphState) (intentVersionNodeId : Uuid) (fuel : Nat) :
    List GraphNode → Nat × List Uuid → Option (Except IntentRebaseError (Nat × List Uuid))
  | [], found => some (.ok found)
  | node :: rest, (reachable, orphaned) =>
    match areConnected s node.id intentVersionNodeId (some 10) fuel with
    | none => none
    | some (.error e) => some (.error e)
    | some (.ok true) => splitOrphans s intentVersionNodeId fuel rest (reachable + 1, orphaned)
    | some (.ok false) =>
      splitOrphans s intentVersionNodeId fuel rest (reachable, orphaned ++ [node.id])

/-- The artifacts and the side effects that are orphans in the version's workflow, those of one
tenant. The order decides how the nodes of a type are listed. -/
def detectOrphanedNodes (s : GraphState) (order : NodeType → IterOrder (Uuid × GraphNode))
    (intentVersionNodeId tenantId : Uuid) (fuel : Nat) :
    Option (Except IntentRebaseError OrphanDetectionResult) :=
  match s.getNode intentVersionNodeId with
  | .error e => some (.error e)
  | .ok intentVersionNode =>
    let listNodes (nodeType : NodeType) : List GraphNode :=
      s.listNodes (order nodeType)
        { tenantId := some tenantId, workflowId := some intentVersionNode.workflowId,
          nodeType := some nodeType, state := none }
    let allArtifacts := listNodes .artifact
    let allSideEffects := listNodes .sideEffect
    match splitOrphans s intentVersionNodeId fuel allArtifacts (0, []) with
    | none => none
    | some (.error e) => some (.error e)
    | some (.ok (reachableArtifacts, orphanedArtifactIds)) =>
      match splitOrphans s intentVersionNodeId fuel allSideEffects (0, []) with
      | none => none
      | some (.error e) => some (.error e)
      | some (.ok (reachableSideEffects, orphanedSideEffectIds)) =>
        some (.ok {
          artifactsExamined := allArtifacts.length
          reachableArtifacts
          orphanedArtifacts := orphanedArtifactIds.length
          orphanedArtifactIds
          sideEffectsExamined := allSideEffects.length
          reachableSideEffects
          orphanedSideEffects := orphanedSideEffectIds.length
          orphanedSideEffectIds
          summary :=
            s!"Orphan detection: {allArtifacts.length} artifacts " ++
              s!"({orphanedArtifactIds.length} orphaned), " ++
              s!"{allSideEffects.length} side effects ({orphanedSideEffectIds.length} orphaned)" })

/-- A path of at most ten edges of any type leads from one node to the other. -/
def WithinTenEdges (g : GraphStore) (source target : Uuid) : Prop :=
  Connected g source { maxDepth := some 10 } target

/-- A stored dependency leads from one node to the other. -/
def DependsOn (g : GraphStore) (source target : Uuid) : Prop :=
  ∃ e, g.HasEdge e ∧ e.edgeType = .dependsOn ∧ e.fromNodeId = source ∧ e.toNodeId = target

/-- A chain of dependencies, of any length, leads from one node to the other. -/
def DependsOnChain (g : GraphStore) : Uuid → Uuid → Prop := Relation.TransGen (DependsOn g)

section Detection

variable {g : GraphStore} {versionId tenantId : Uuid}

theorem areConnected_run {source target : Uuid} (hsource : source ∈ g.state.nodes)
    (htarget : target ∈ g.state.nodes) (hne : source ≠ target) :
    ∃ connected bound, (∀ fuel, bound < fuel →
        areConnected g.state source target (some 10) fuel = some (.ok connected)) ∧
      (connected = true ↔ WithinTenEdges g source target) := by
  obtain ⟨path, ⟨bound, hrun⟩, hpost⟩ :=
    findPath_run g { maxDepth := some 10 } hsource htarget hne
  refine ⟨!path.isEmpty, bound, fun fuel hfuel => ?_, ?_⟩
  · rw [areConnected, hrun fuel hfuel]
    rfl
  · rcases hpost with ⟨rfl, hnone⟩ | hshort
    · exact iff_of_false (by simp [GraphPath.isEmpty, GraphPath.empty]) hnone
    · rw [hshort.not_empty]
      exact iff_of_true rfl ⟨path.nodeIds, path.edgeIds, hshort.joined, hshort.within⟩

/-- The loop lists the nodes that no path of ten edges joins to the version, and counts the rest. -/
theorem splitOrphans_run (hversion : versionId ∈ g.state.nodes) (nodes : List GraphNode)
    (hnodes : ∀ node ∈ nodes, node.id ∈ g.state.nodes ∧ node.id ≠ versionId) (reachable : Nat)
    (orphaned : List Uuid) :
    ∃ reachable' orphaned' bound, (∀ fuel, bound < fuel →
        splitOrphans g.state versionId fuel nodes (reachable, orphaned) =
          some (.ok (reachable', orphaned'))) ∧
      reachable' + orphaned'.length = reachable + orphaned.length + nodes.length ∧
      ∀ id, id ∈ orphaned' ↔ id ∈ orphaned ∨
        ∃ node ∈ nodes, node.id = id ∧ ¬ WithinTenEdges g id versionId := by
  induction nodes generalizing reachable orphaned with
  | nil => exact ⟨reachable, orphaned, 0, fun _ _ => rfl, rfl, fun id => by simp⟩
  | cons node rest ih =>
    obtain ⟨hnode, hrest⟩ := List.forall_mem_cons.mp hnodes
    obtain ⟨connected, bound, hrun, hconnected⟩ := areConnected_run hnode.1 hversion hnode.2
    cases connected with
    | true =>
      have hwithin := hconnected.mp rfl
      obtain ⟨reachable', orphaned', bound', hrun', hcount, hmem⟩ :=
        ih hrest (reachable + 1) orphaned
      refine ⟨reachable', orphaned', bound + bound', fun fuel hfuel => ?_, ?_, fun id => ?_⟩
      · rw [splitOrphans, hrun fuel (by omega)]
        exact hrun' fuel (by omega)
      · rw [hcount, List.length_cons]
        omega
      · have hconnected : ¬ (node.id = id ∧ ¬ WithinTenEdges g id versionId) := by
          rintro ⟨rfl, hnone⟩
          exact hnone hwithin
        rw [hmem, List.exists_mem_cons_iff, or_iff_right hconnected]
    | false =>
      have hnone : ¬ WithinTenEdges g node.id versionId := fun h => nomatch hconnected.mpr h
      obtain ⟨reachable', orphaned', bound', hrun', hcount, hmem⟩ :=
        ih hrest reachable (orphaned ++ [node.id])
      refine ⟨reachable', orphaned', bound + bound', fun fuel hfuel => ?_, ?_, fun id => ?_⟩
      · rw [splitOrphans, hrun fuel (by omega)]
        exact hrun' fuel (by omega)
      · rw [hcount, List.length_append, List.length_cons, List.length_cons, List.length_nil]
        omega
      · have horphaned : id = node.id ↔ node.id = id ∧ ¬ WithinTenEdges g id versionId :=
          ⟨by rintro rfl; exact ⟨rfl, hnone⟩, fun h => h.1.symm⟩
        rw [hmem, List.mem_append, List.mem_singleton, or_assoc, List.exists_mem_cons_iff,
          ← horphaned]

/-- An edge of any type is a path. -/
theorem GraphStore.HasEdge.withinTenEdges {e : GraphEdge} (h : g.HasEdge e) :
    WithinTenEdges g e.fromNodeId e.toNodeId := by
  refine ⟨[e.fromNodeId, e.toNodeId], [e.id], .cons h rfl (.single e.toNodeId), ?_⟩
  rintro m hm
  obtain rfl := Option.some.inj hm
  exact Nat.le_of_ble_eq_true rfl

variable (order : NodeType → IterOrder (Uuid × GraphNode))

/-- The detection ends with a result, given enough fuel. -/
def DetectsOrphans (g : GraphStore) (order : NodeType → IterOrder (Uuid × GraphNode))
    (versionId tenantId : Uuid) (result : OrphanDetectionResult) : Prop :=
  ∃ bound, ∀ fuel, bound < fuel →
    detectOrphanedNodes g.state order versionId tenantId fuel = some (.ok result)

/-- The detection lists the artifacts of the tenant that no path of ten edges joins to the version.
-/
theorem detectOrphanedNodes_run {version : GraphNode}
    (hversion : g.state.nodes.lookup versionId = some version)
    (htype : version.nodeType = .intentVersion) (tenantId : Uuid) :
    ∃ result, DetectsOrphans g order versionId tenantId result ∧
      result.reachableArtifacts + result.orphanedArtifacts = result.artifactsExamined ∧
      ∀ id, id ∈ result.orphanedArtifactIds ↔
        ∃ artifact, g.state.nodes.lookup id = some artifact ∧ artifact.nodeType = .artifact ∧
          artifact.workflowId = version.workflowId ∧ artifact.tenantId = tenantId ∧
          ¬ WithinTenEdges g id versionId := by
  have hstored : versionId ∈ g.state.nodes := mem_iff_lookup.mpr ⟨version, hversion⟩
  let listed (nodeType : NodeType) := g.state.listNodes (order nodeType)
    { tenantId := some tenantId, workflowId := some version.workflowId,
      nodeType := some nodeType, state := none }
  have hlisted : ∀ nodeType node, node ∈ listed nodeType ↔
      g.state.nodes.lookup node.id = some node ∧ node.nodeType = nodeType ∧
        node.workflowId = version.workflowId ∧ node.tenantId = tenantId := by
    intro nodeType node
    rw [GraphStore.mem_listNodes]
    refine and_congr_right fun _ => ?_
    simp only [GraphState.acceptsNode, Option.all_some, Option.all_none, Bool.and_true,
      Bool.and_eq_true, beq_iff_eq]
    tauto
  have hother : ∀ nodeType, nodeType ≠ .intentVersion → ∀ node ∈ listed nodeType,
      node.id ∈ g.state.nodes ∧ node.id ≠ versionId := by
    intro nodeType hne node hnode
    obtain ⟨hlookup, rfl, -⟩ := (hlisted nodeType node).mp hnode
    refine ⟨mem_iff_lookup.mpr ⟨node, hlookup⟩, ?_⟩
    rintro rfl
    obtain rfl := Option.some.inj (hversion.symm.trans hlookup)
    exact hne htype
  obtain ⟨reachable, orphaned, bound, hrun, hcount, hmem⟩ :=
    splitOrphans_run hstored (listed .artifact) (hother _ nofun) 0 []
  obtain ⟨reachableEffects, orphanedEffects, bound', hrun', -, -⟩ :=
    splitOrphans_run hstored (listed .sideEffect) (hother _ nofun) 0 []
  let result : OrphanDetectionResult := {
    artifactsExamined := (listed .artifact).length
    reachableArtifacts := reachable
    orphanedArtifacts := orphaned.length
    orphanedArtifactIds := orphaned
    sideEffectsExamined := (listed .sideEffect).length
    reachableSideEffects := reachableEffects
    orphanedSideEffects := orphanedEffects.length
    orphanedSideEffectIds := orphanedEffects
    summary :=
      s!"Orphan detection: {(listed .artifact).length} artifacts " ++
        s!"({orphaned.length} orphaned), " ++
        s!"{(listed .sideEffect).length} side effects ({orphanedEffects.length} orphaned)" }
  refine ⟨result, ⟨bound + bound', fun fuel hfuel => ?_⟩, ?_, fun id => ?_⟩
  · rw [detectOrphanedNodes, GraphStore.getNode_ok.mpr hversion]
    simp only [listed] at hrun hrun'
    simp only [hrun fuel (by omega), hrun' fuel (by omega)]
    rfl
  · simpa [result] using hcount
  · rw [hmem id, or_iff_right List.not_mem_nil]
    constructor
    · rintro ⟨node, hnode, rfl, hnone⟩
      obtain ⟨hlookup, htype, hworkflow, htenant⟩ := (hlisted .artifact node).mp hnode
      exact ⟨node, hlookup, htype, hworkflow, htenant, hnone⟩
    · rintro ⟨artifact, hlookup, htype, hworkflow, htenant, hnone⟩
      obtain rfl := g.consistent.nodeId _ _ hlookup
      exact ⟨artifact, (hlisted .artifact artifact).mpr ⟨hlookup, htype, hworkflow, htenant⟩, rfl,
        hnone⟩

theorem DetectsOrphans.unique {result result' : OrphanDetectionResult}
    (h : DetectsOrphans g order versionId tenantId result)
    (h' : DetectsOrphans g order versionId tenantId result') : result = result' := by
  obtain ⟨bound, hbound⟩ := h
  obtain ⟨bound', hbound'⟩ := h'
  exact Except.ok.inj (Option.some.inj ((hbound (bound + bound' + 1) (by omega)).symm.trans
    (hbound' (bound + bound' + 1) (by omega))))

/-- The artifacts of the version's workflow that are listed are those from which no chain of
dependencies leads to the version. -/
def OrphansExact (g : GraphStore) (order : NodeType → IterOrder (Uuid × GraphNode))
    (version : GraphNode) (tenantId : Uuid) : Prop :=
  ∃ result, DetectsOrphans g order version.id tenantId result ∧
    ∀ artifact, g.state.nodes.lookup artifact.id = some artifact → artifact.nodeType = .artifact →
      artifact.workflowId = version.workflowId →
        (artifact.id ∈ result.orphanedArtifactIds ↔ ¬ DependsOnChain g artifact.id version.id)

/-- The detection is right about an artifact: some path of ten edges stands for its dependency, and
an artifact of another tenant, which is never listed, does depend on the version. -/
def JudgesArtifact (g : GraphStore) (version : GraphNode) (tenantId : Uuid)
    (artifact : GraphNode) : Prop :=
  if artifact.tenantId = tenantId then
    WithinTenEdges g artifact.id version.id ↔ DependsOnChain g artifact.id version.id
  else DependsOnChain g artifact.id version.id

/-- The detection is exact if and only if it is right about every artifact of the workflow. -/
theorem detects_dependents_iff (g : GraphStore) (order : NodeType → IterOrder (Uuid × GraphNode))
    {version : GraphNode} (hversion : g.state.nodes.lookup version.id = some version)
    (htype : version.nodeType = .intentVersion) (tenantId : Uuid) :
    OrphansExact g order version tenantId ↔
      ∀ artifact, g.state.nodes.lookup artifact.id = some artifact →
        artifact.nodeType = .artifact → artifact.workflowId = version.workflowId →
          JudgesArtifact g version tenantId artifact := by
  obtain ⟨result, hresult, -, hmem⟩ := detectOrphanedNodes_run order hversion htype tenantId
  have hexact : OrphansExact g order version tenantId ↔
      ∀ artifact, g.state.nodes.lookup artifact.id = some artifact →
        artifact.nodeType = .artifact → artifact.workflowId = version.workflowId →
          (artifact.id ∈ result.orphanedArtifactIds ↔
            ¬ DependsOnChain g artifact.id version.id) := by
    constructor
    · rintro ⟨result', hresult', hall⟩
      rwa [hresult'.unique order hresult] at hall
    · exact fun hall => ⟨result, hresult, hall⟩
  rw [hexact]
  refine forall_congr' fun artifact => forall_congr' fun hlookup => forall_congr' fun hartifact =>
    forall_congr' fun hworkflow => ?_
  have hlisted : artifact.id ∈ result.orphanedArtifactIds ↔
      artifact.tenantId = tenantId ∧ ¬ WithinTenEdges g artifact.id version.id := by
    rw [hmem]
    constructor
    · rintro ⟨other, hother, -, -, htenant, hnone⟩
      obtain rfl := Option.some.inj (hlookup.symm.trans hother)
      exact ⟨htenant, hnone⟩
    · rintro ⟨htenant, hnone⟩
      exact ⟨artifact, hlookup, hartifact, hworkflow, htenant, hnone⟩
  rw [hlisted, JudgesArtifact]
  split
  case isTrue htenant => rw [and_iff_right htenant, not_iff_not]
  case isFalse htenant =>
    have hunlisted : ¬ (artifact.tenantId = tenantId ∧
        ¬ WithinTenEdges g artifact.id version.id) := fun h => htenant h.1
    rw [iff_false_left hunlisted, not_not]

end Detection

section Sample

/-- The version of the sample. -/
def GraphStore.sampleVersion : GraphNode :=
  (artifactOf .dependsOn).state.nodes.lookup 2 |>.get rfl

/-- The only artifact of the sample. -/
theorem GraphStore.artifactOf_artifact {edgeType : EdgeType} {artifact : GraphNode}
    (h : (artifactOf edgeType).state.nodes.lookup artifact.id = some artifact)
    (htype : artifact.nodeType = .artifact) : artifact.id = 1 := by
  have hmem : artifact.id ∈ (artifactOf edgeType).state.nodes := mem_iff_lookup.mpr ⟨artifact, h⟩
  have hkeys : (artifactOf edgeType).state.nodes.keys = [2, 1] := rfl
  rw [AList.mem_keys, hkeys] at hmem
  rcases List.mem_pair.mp hmem with hid | hid
  · rw [hid] at h
    obtain rfl := Option.some.inj h
    cases htype
  · exact hid

/-- The only edge of the sample. -/
theorem GraphStore.artifactOf_edge {edgeType : EdgeType} {e : GraphEdge}
    (h : (artifactOf edgeType).HasEdge e) :
    e.edgeType = edgeType ∧ e.fromNodeId = 1 ∧ e.toNodeId = 2 := by
  have hmem : e.id ∈ (artifactOf edgeType).state.edges := mem_iff_lookup.mpr ⟨e, h⟩
  have hkeys : (artifactOf edgeType).state.edges.keys = [3] := rfl
  rw [AList.mem_keys, hkeys, List.mem_singleton] at hmem
  rw [HasEdge, hmem] at h
  obtain rfl := Option.some.inj h
  exact ⟨rfl, rfl, rfl⟩

theorem detects_dependents_iff_sample :
    OrphansExact (GraphStore.artifactOf .dependsOn) (fun _ => IterOrder.id _)
      GraphStore.sampleVersion 0 := by
  have hversion : (GraphStore.artifactOf .dependsOn).state.nodes.lookup
      GraphStore.sampleVersion.id = some GraphStore.sampleVersion := rfl
  refine (detects_dependents_iff (GraphStore.artifactOf .dependsOn) (fun _ => IterOrder.id _)
    hversion rfl 0).mpr fun artifact hlookup htype _ => ?_
  have hid := GraphStore.artifactOf_artifact hlookup htype
  obtain ⟨e, hedge⟩ : ∃ e, (GraphStore.artifactOf .dependsOn).state.edges.lookup 3 = some e :=
    ⟨_, rfl⟩
  have hstored : (GraphStore.artifactOf .dependsOn).HasEdge e := by
    rwa [GraphStore.HasEdge, (GraphStore.artifactOf .dependsOn).consistent.edgeId _ _ hedge]
  obtain ⟨hdepends, hfrom, hto⟩ := GraphStore.artifactOf_edge hstored
  have hchain : DependsOnChain (GraphStore.artifactOf .dependsOn) artifact.id
      GraphStore.sampleVersion.id := .single ⟨e, hstored, hdepends, hfrom.trans hid.symm, hto⟩
  rw [JudgesArtifact]
  split
  case isTrue =>
    have hwithin := hstored.withinTenEdges
    rw [hfrom, hto] at hwithin
    exact iff_of_true (hid ▸ hwithin) hchain
  case isFalse => exact hchain

/-- An artifact that the version only triggers is not listed, though it depends on nothing. -/
theorem triggered_artifact_not_orphaned :
    ¬ OrphansExact (GraphStore.artifactOf .triggers) (fun _ => IterOrder.id _)
      GraphStore.sampleVersion 0 := by
  rintro ⟨result, ⟨bound, hrun⟩, hexact⟩
  obtain ⟨result', hrun', hnil⟩ : ∃ r, detectOrphanedNodes (GraphStore.artifactOf .triggers).state
      (fun _ => IterOrder.id _) 2 0 (bound + 10) = some (.ok r) ∧ r.orphanedArtifactIds = [] :=
    ⟨_, rfl, rfl⟩
  obtain rfl := Except.ok.inj (Option.some.inj ((hrun (bound + 10) (by omega)).symm.trans hrun'))
  obtain ⟨artifact, hartifact⟩ : ∃ a, (GraphStore.artifactOf .triggers).state.nodes.lookup 1 =
    some a ∧ a.nodeType = .artifact ∧ a.workflowId = 0 ∧ a.id = 1 := ⟨_, rfl, rfl, rfl, rfl⟩
  obtain ⟨hlookup, htype, hworkflow, hid⟩ := hartifact
  have hlisted := (hexact artifact (by rwa [hid]) htype hworkflow).mpr fun hchain => by
    obtain ⟨e, hedge, hdepends, -⟩ : ∃ e, (GraphStore.artifactOf .triggers).HasEdge e ∧
        e.edgeType = .dependsOn ∧ e.fromNodeId = artifact.id := by
      rcases Relation.TransGen.head'_iff.mp hchain with ⟨v, ⟨e, he, hd, hf, -⟩, -⟩
      exact ⟨e, he, hd, hf⟩
    cases hdepends.symm.trans (GraphStore.artifactOf_edge hedge).1
  rw [hnil] at hlisted
  cases hlisted

end Sample

end IntentRebase
