import IntentRebase.Compensation.RepositoryAgreement
import IntentRebase.Graph.IngestionSqlx
import IntentRebase.Graph.Traceability

/-! When the ingestion of an artifact in a transaction of its tenant does what the ingestion into
the graph in memory does. -/

namespace IntentRebase

open Kit

/-- The node is a version of an intent, in the tenant and workflow. -/
def GraphState.HasVersionNode (s : GraphState) (tenantId workflowId v : Uuid) : Prop :=
  ∃ n, s.nodes.lookup v = some n ∧ n.nodeType = .intentVersion ∧ n.tenantId = tenantId ∧
    n.workflowId = workflowId

/-- The artifact names versions, and each of its own tenant and workflow. -/
def ArtifactIngestRequest.Traceable (request : ArtifactIngestRequest) (s : GraphState) : Prop :=
  request.dependsOnIntentVersions ≠ [] ∧ ∀ v ∈ request.dependsOnIntentVersions,
    s.HasVersionNode request.tenantId request.workflowId v

/-- A check passes where `p` holds, and refuses the request as invalid where it does not. -/
def Decides (outcome : Except IntentRebaseError Unit) (p : Prop) : Prop :=
  p ∧ outcome = .ok () ∨ ¬ p ∧ ∃ message, outcome = .error (.invalidIngestRequest message)

section Checks

variable {s : GraphState} {subject : String} {tenantId workflowId : Uuid}

theorem Decides.congr {outcome : Except IntentRebaseError Unit} {p q : Prop}
    (h : Decides outcome p) (hiff : p ↔ q) : Decides outcome q := propext hiff ▸ h

/-- Three comparisons, one after another. -/
theorem decides_ite {p q r : Prop} [Decidable p] [Decidable q] [Decidable r] {m₁ m₂ m₃ : String} :
    Decides (if p then .error (.invalidIngestRequest m₁)
      else if q then .error (.invalidIngestRequest m₂)
      else if r then .error (.invalidIngestRequest m₃)
      else .ok ()) (¬ p ∧ ¬ q ∧ ¬ r) := by
  split
  · next hp => exact .inr ⟨fun h => h.1 hp, _, rfl⟩
  next hp =>
  split
  · next hq => exact .inr ⟨fun h => h.2.1 hq, _, rfl⟩
  next hq =>
  split
  · next hr => exact .inr ⟨fun h => h.2.2 hr, _, rfl⟩
  next hr =>
  exact .inl ⟨⟨hp, hq, hr⟩, rfl⟩

theorem GraphState.hasVersionNode_iff {v : Uuid} {n : GraphNode}
    (hlookup : s.nodes.lookup v = some n) : s.HasVersionNode tenantId workflowId v ↔
      n.nodeType = .intentVersion ∧ n.tenantId = tenantId ∧ n.workflowId = workflowId := by
  refine ⟨?_, fun h => ⟨n, hlookup, h⟩⟩
  rintro ⟨n', hn', h⟩
  cases hlookup.symm.trans hn'
  exact h

variable (s subject tenantId workflowId) in
theorem checkReference_decides (v : Uuid) :
    Decides (checkReference s .intentVersion subject tenantId workflowId v)
      (s.HasVersionNode tenantId workflowId v) := by
  rw [checkReference, GraphState.getNode]
  cases hlookup : s.nodes.lookup v with
  | none =>
    refine .inr ⟨?_, _, rfl⟩
    rintro ⟨n, hn, -⟩
    cases hlookup.symm.trans hn
  | some n =>
    refine decides_ite.congr ?_
    rw [GraphState.hasVersionNode_iff hlookup]
    simp [ReferenceKind.intentVersion]

variable (s subject tenantId workflowId) in
theorem checkReferences_decides (vs : List Uuid) :
    Decides (checkReferences s .intentVersion subject tenantId workflowId vs)
      (∀ v ∈ vs, s.HasVersionNode tenantId workflowId v) := by
  induction vs with
  | nil => exact .inl ⟨by simp, rfl⟩
  | cons v rest ih =>
    rw [checkReferences]
    rcases checkReference_decides s subject tenantId workflowId v with
      ⟨hv, hok⟩ | ⟨hv, message, herror⟩
    · rw [hok]
      exact ih.congr (by simp [hv])
    · rw [herror]
      exact .inr ⟨fun h => hv (h v List.mem_cons_self), message, rfl⟩

end Checks

/-- The tables hold the graph, row by row. -/
structure SqlxGraphRepository.Stores (t : SqlxGraphRepository) (s : GraphState) : Prop where
  nodes : ∀ id, t.nodes.lookup id = (s.nodes.lookup id).map NodeRow.ofNode
  edges : ∀ id, t.edges.lookup id = (s.edges.lookup id).map EdgeRow.ofEdge

namespace SqlxGraphRepository

variable {t t' : SqlxGraphRepository} {s : GraphState} {tenantId workflowId : Uuid}

theorem Stores.insertNode (h : t.Stores s) (n : GraphNode) :
    ({ t with nodes := t.nodes.insert n.id (NodeRow.ofNode n) } : SqlxGraphRepository).Stores
      { s with nodes := s.nodes.insert n.id n } where
  nodes id := by
    rw [lookup_insert_eq, lookup_insert_eq]
    split
    · rfl
    · exact h.nodes id
  edges := h.edges

theorem Stores.insertEdge (h : t.Stores s) (e : GraphEdge) :
    ({ t with edges := t.edges.insert e.id (EdgeRow.ofEdge e) } : SqlxGraphRepository).Stores
      (s.addEdge e) where
  nodes := h.nodes
  edges id := by
    rw [GraphState.addEdge, lookup_insert_eq, lookup_insert_eq]
    split
    · rfl
    · exact h.edges id

section Reads

theorem findNode_eq (h : t.Stores s) (v : Uuid) :
    t.findNode (some tenantId) v =
      ((s.nodes.lookup v).filter fun n => n.tenantId = tenantId).map NodeRow.ofNode := by
  rw [findNode, h.nodes]
  cases s.nodes.lookup v with
  | none => rfl
  | some n =>
    by_cases htenant : n.tenantId = tenantId <;>
      simp [Option.filter, visible, NodeRow.ofNode, htenant]

variable (tenantId workflowId) in
/-- A row that the session does not see is not a version of its tenant. -/
theorem validateIntentVersion_decides (h : t.Stores s) (v : Uuid) :
    Decides (t.validateIntentVersion (some tenantId) tenantId workflowId v)
      (s.HasVersionNode tenantId workflowId v) := by
  rw [validateIntentVersion, findNode_eq h]
  cases hlookup : s.nodes.lookup v with
  | none =>
    refine .inr ⟨?_, _, rfl⟩
    rintro ⟨n, hn, -⟩
    cases hlookup.symm.trans hn
  | some n =>
    by_cases htenant : n.tenantId = tenantId
    · have hfind : ((some n).filter fun n : GraphNode => n.tenantId = tenantId).map NodeRow.ofNode =
          some (.ofNode n) := by
        rw [Option.filter_some, if_pos (decide_eq_true htenant)]
        rfl
      rw [hfind]
      dsimp only
      rw [rowToNode_ofNode]
      refine decides_ite.congr ?_
      rw [GraphState.hasVersionNode_iff hlookup]
      simp only [not_not, ne_eq]
    · have hfind : ((some n).filter fun n : GraphNode => n.tenantId = tenantId).map NodeRow.ofNode =
          none := by
        rw [Option.filter_some, if_neg (by simpa using htenant)]
        rfl
      rw [hfind]
      refine .inr ⟨fun hn => htenant ?_, _, rfl⟩
      exact ((GraphState.hasVersionNode_iff hlookup).mp hn).2.1

variable (tenantId workflowId) in
theorem validateIntentVersions_decides (h : t.Stores s) (vs : List Uuid) :
    Decides (t.validateIntentVersions (some tenantId) tenantId workflowId vs)
      (∀ v ∈ vs, s.HasVersionNode tenantId workflowId v) := by
  induction vs with
  | nil => exact .inl ⟨by simp, rfl⟩
  | cons v rest ih =>
    rw [validateIntentVersions]
    rcases validateIntentVersion_decides tenantId workflowId h v with
      ⟨hv, hok⟩ | ⟨hv, message, herror⟩
    · rw [hok]
      exact ih.congr (by simp [hv])
    · rw [herror]
      exact .inr ⟨fun h => hv (h v List.mem_cons_self), message, rfl⟩

theorem validateEnd_ok (h : t.Stores s) (name : String) {v : Uuid}
    (hscoped : s.Scoped tenantId workflowId v) :
    t.validateEnd (some tenantId) name v tenantId workflowId = .ok () := by
  obtain ⟨n, hn, htenant, hworkflow⟩ := hscoped
  rw [validateEnd, findNode_eq h, hn, Option.filter_some, if_pos (decide_eq_true htenant)]
  simp [NodeRow.ofNode, htenant, hworkflow]

end Reads

end SqlxGraphRepository

/-- What the columns and constraints of `graph_nodes` ask of an artifact: a label of at most 255
characters, no text with the character 0, and an external reference that no node of its tenant and
workflow has. -/
structure ArtifactIngestRequest.Fits (request : ArtifactIngestRequest) (s : GraphState) : Prop where
  length : request.label.length ≤ 255
  label : containsNul request.label = false
  properties : (request.properties.getD .emptyObject).containsNul = false
  externalRef : ∀ id n, s.nodes.lookup id = some n → n.tenantId = request.tenantId →
    n.workflowId = request.workflowId → n.externalRef ≠ some request.externalRef

/-- The request for the edge from an artifact to a version. -/
def dependencyLink (tenantId workflowId nodeId intentVersionId : Uuid) : CreateGraphEdgeRequest :=
  linkRequest tenantId workflowId nodeId intentVersionId .dependsOn "upstream" "IntentVersion"

/-- A dependency of the node on the version is stored. -/
def GraphState.DependencyStored (s : GraphState) (tenantId nodeId v : Uuid) : Prop :=
  ∃ id e, s.edges.lookup id = some e ∧ e.tenantId = tenantId ∧ e.fromNodeId = nodeId ∧
    e.toNodeId = v ∧ e.edgeType = .dependsOn

namespace SqlxGraphRepository

variable {t t' : SqlxGraphRepository} {s : GraphState} {request : ArtifactIngestRequest}

section Node

theorem ofNode_externalRef (n : GraphNode) (ref : ExternalRef) :
    (NodeRow.ofNode n).externalRefType = some (externalRefTypeToString ref.refType) ∧
      (NodeRow.ofNode n).externalRefId = some ref.refId ↔ n.externalRef = some ref := by
  have hrefType {a b : ExternalRefType} :
      externalRefTypeToString a = externalRefTypeToString b ↔ a = b :=
    injective_of_roundTrip externalRefTypeFromString_toString
  obtain ⟨refType, refId⟩ := ref
  rw [NodeRow.ofNode]
  cases n.externalRef with
  | none => simp
  | some other =>
    obtain ⟨refType', refId'⟩ := other
    simp [hrefType]

theorem externalRefTaken_iff (h : t.Stores s) (draw : Draw) :
    t.externalRefTaken (.ofNode (GraphState.newNode draw.id draw.now request.plan.node)) = true ↔
      ∃ id n, s.nodes.lookup id = some n ∧ n.tenantId = request.tenantId ∧
        n.workflowId = request.workflowId ∧ n.externalRef = some request.externalRef := by
  have hrow : t.externalRefTaken
        (.ofNode (GraphState.newNode draw.id draw.now request.plan.node)) = true ↔
      ∃ id row, t.nodes.lookup id = some row ∧ row.tenantId = request.tenantId ∧
        row.workflowId = request.workflowId ∧
        row.externalRefType = some (externalRefTypeToString request.externalRef.refType) ∧
        row.externalRefId = some request.externalRef.refId := by
    simp only [externalRefTaken, List.any_eq_true, Prod.exists, mem_pairs, Bool.and_eq_true,
      beq_iff_eq]
    simp [NodeRow.ofNode, GraphState.newNode, ArtifactIngestRequest.plan, and_assoc]
  rw [hrow]
  constructor
  · rintro ⟨id, row, hlookup, htenant, hworkflow, href⟩
    rw [h.nodes] at hlookup
    obtain ⟨n, hn, rfl⟩ := Option.map_eq_some_iff.mp hlookup
    exact ⟨id, n, hn, htenant, hworkflow, (ofNode_externalRef n _).mp href⟩
  · rintro ⟨id, n, hn, htenant, hworkflow, href⟩
    refine ⟨id, .ofNode n, ?_, htenant, hworkflow, (ofNode_externalRef n _).mpr href⟩
    rw [h.nodes, hn]
    rfl

/-- A new node that fits is stored as the graph in memory stores it. -/
theorem createNode_fits (h : t.Stores s) (draw : Draw) (hnew : s.nodes.lookup draw.id = none)
    (hfits : request.Fits s) :
    ∃ t', t.createNode (some request.tenantId) draw request.plan.node =
        .ok (GraphState.newNode draw.id draw.now request.plan.node, t') ∧
      t'.Stores (s.createNode draw.id draw.now request.plan.node).2 := by
  have hunused : (t.nodes.lookup draw.id).isSome = false := by
    rw [h.nodes, hnew]
    rfl
  have hnottaken : t.externalRefTaken
      (.ofNode (GraphState.newNode draw.id draw.now request.plan.node)) = false := by
    rw [← Bool.not_eq_true, externalRefTaken_iff h]
    rintro ⟨id, n, hn, htenant, hworkflow, href⟩
    exact hfits.externalRef id n hn htenant hworkflow href
  have hinsert : t.insertNode (some request.tenantId)
      (.ofNode (GraphState.newNode draw.id draw.now request.plan.node)) =
        .ok { t with nodes := t.nodes.insert draw.id (NodeRow.ofNode (GraphState.newNode draw.id
          draw.now request.plan.node)) } := by
    have hlabel := varchar_ok hfits.length hfits.label
    have hproperties := jsonb_ok.mpr hfits.properties
    have hvisible : visible (some request.tenantId) request.tenantId = true := by simp [visible]
    rw [insertNode, hnottaken]
    simp only [NodeRow.ofNode, GraphState.newNode, ArtifactIngestRequest.plan, hlabel, hproperties,
      hvisible, hunused]
    rfl
  refine ⟨_, ?_, h.insertNode (GraphState.newNode draw.id draw.now request.plan.node)⟩
  rw [createNode, hinsert]
  rfl

/-- One that does not fit is refused, or its label is cut. -/
theorem createNode_unfit (h : t.Stores s) (draw : Draw) (hunfit : ¬ request.Fits s) :
    (∃ message, t.createNode (some request.tenantId) draw request.plan.node =
      .error (.storageError message)) ∨
    ∃ node t', t.createNode (some request.tenantId) draw request.plan.node = .ok (node, t') ∧
      t'.nodes.lookup draw.id ≠
        some (.ofNode (GraphState.newNode draw.id draw.now request.plan.node)) := by
  rw [createNode]
  cases hinsert : t.insertNode (some request.tenantId)
      (.ofNode (GraphState.newNode draw.id draw.now request.plan.node)) with
  | error e => exact .inl ⟨_, rfl⟩
  | ok t' =>
    refine .inr ⟨_, t', rfl, fun hstored => hunfit ?_⟩
    unfold insertNode at hinsert
    split at hinsert
    · cases hinsert
    next label hlabel =>
    split at hinsert
    · cases hinsert
    next properties hproperties =>
    split at hinsert
    · cases hinsert
    split at hinsert
    · cases hinsert
    next hfree =>
    cases hinsert
    have hrow := Option.some.inj ((AList.lookup_insert t.nodes).symm.trans hstored)
    have hsame : label = request.label := congrArg NodeRow.label hrow
    have hkept : jsonb (request.properties.getD .emptyObject) =
        .ok (request.properties.getD .emptyObject) := by
      have hstays := congrArg NodeRow.properties hrow
      exact hproperties.trans (congrArg Except.ok hstays)
    have hgiven : varchar 255 request.label = .ok label := hlabel
    rw [hsame] at hgiven
    obtain ⟨hlength, hnul⟩ := of_varchar hgiven
    refine ⟨hlength, hnul, jsonb_ok.mp hkept, fun id n hn htenant hworkflow href => hfree ?_⟩
    rw [(externalRefTaken_iff h draw).mpr ⟨id, n, hn, htenant, hworkflow, href⟩, Bool.or_true]

end Node

section Edges

variable {tenantId workflowId nodeId : Uuid}

variable (tenantId workflowId nodeId) in
theorem edgeTaken_iff (h : t.Stores s) (draw : Draw) (v : Uuid) :
    t.edgeTaken (.ofEdge (GraphState.newEdge draw.id draw.now
        (dependencyLink tenantId workflowId nodeId v))) = true ↔
      s.DependencyStored tenantId nodeId v := by
  have htype {e : EdgeType} : edgeTypeToString e = edgeTypeToString .dependsOn ↔ e = .dependsOn :=
    injective_of_roundTrip edgeTypeFromString_toString
  simp only [edgeTaken, List.any_eq_true, Prod.exists, mem_pairs, Bool.and_eq_true, beq_iff_eq,
    h.edges, Option.map_eq_some_iff]
  constructor
  · rintro ⟨id, _, ⟨e, he, rfl⟩, ⟨⟨htenant, hfrom⟩, hto⟩, hdepends⟩
    exact ⟨id, e, he, htenant, hfrom, hto, htype.mp hdepends⟩
  · rintro ⟨id, e, he, htenant, hfrom, hto, hdepends⟩
    exact ⟨id, _, ⟨e, he, rfl⟩, ⟨⟨htenant, hfrom⟩, hto⟩, htype.mpr hdepends⟩

/-- The statement that stores a dependency between nodes of the tenant and workflow is refused for
`unique_edge` only. -/
theorem insertEdge_link (uniqueEdge : Bool) (h : t.Stores s) {draw : Draw} {v : Uuid}
    (hnew : s.edges.lookup draw.id = none) (hfrom : s.Scoped tenantId workflowId nodeId)
    (hto : s.Scoped tenantId workflowId v) :
    t.insertEdge uniqueEdge (some tenantId) (.ofEdge (GraphState.newEdge draw.id draw.now
        (dependencyLink tenantId workflowId nodeId v))) =
      if (uniqueEdge && t.edgeTaken (.ofEdge (GraphState.newEdge draw.id draw.now
          (dependencyLink tenantId workflowId nodeId v)))) = true then
        .error "duplicate key value violates unique constraint"
      else .ok { t with edges := t.edges.insert draw.id (EdgeRow.ofEdge (GraphState.newEdge draw.id
        draw.now (dependencyLink tenantId workflowId nodeId v))) } := by
  have hunused : (t.edges.lookup draw.id).isSome = false := by
    rw [h.edges, hnew]
    rfl
  have hvisible : visible (some tenantId) tenantId = true := by simp [visible]
  have hfromEnd := validateEnd_ok h "from_node_id" hfrom
  have htoEnd := validateEnd_ok h "to_node_id" hto
  have hjson : jsonb (.object [("direction", .string "upstream"),
      ("target_type", .string "IntentVersion")]) = .ok _ := jsonb_ok.mpr (by decide)
  rw [insertEdge]
  generalize (uniqueEdge && t.edgeTaken _) = duplicate
  simp only [EdgeRow.ofEdge, GraphState.newEdge, dependencyLink, linkRequest, Option.getD_some,
    hjson, hfromEnd, htoEnd, hvisible, hunused, Bool.not_true, Bool.false_eq_true, if_false,
    Bool.false_or]

theorem createEdge_link (uniqueEdge : Bool) (h : t.Stores s) {draw : Draw} {v : Uuid}
    (hnew : s.edges.lookup draw.id = none) (hfrom : s.Scoped tenantId workflowId nodeId)
    (hto : s.Scoped tenantId workflowId v) :
    (uniqueEdge = true ∧ s.DependencyStored tenantId nodeId v) ∧
      (∃ message, t.createEdge uniqueEdge (some tenantId) draw
        (dependencyLink tenantId workflowId nodeId v) = .error (.storageError message)) ∨
    ¬ (uniqueEdge = true ∧ s.DependencyStored tenantId nodeId v) ∧
      ∃ t', t.createEdge uniqueEdge (some tenantId) draw
          (dependencyLink tenantId workflowId nodeId v) =
        .ok (GraphState.newEdge draw.id draw.now
          (dependencyLink tenantId workflowId nodeId v), t') ∧
        t'.Stores (s.addEdge (GraphState.newEdge draw.id draw.now
          (dependencyLink tenantId workflowId nodeId v))) := by
  have htaken := edgeTaken_iff tenantId workflowId nodeId h draw v
  rw [createEdge, insertEdge_link uniqueEdge h hnew hfrom hto]
  by_cases hduplicate : uniqueEdge = true ∧ s.DependencyStored tenantId nodeId v
  · refine .inl ⟨hduplicate, ?_⟩
    rw [if_pos (Bool.and_eq_true_iff.mpr ⟨hduplicate.1, htaken.mpr hduplicate.2⟩)]
    exact ⟨_, rfl⟩
  · refine .inr ⟨hduplicate, ?_⟩
    rw [if_neg fun hboth => hduplicate ⟨(Bool.and_eq_true_iff.mp hboth).1,
      htaken.mp (Bool.and_eq_true_iff.mp hboth).2⟩]
    exact ⟨_, rfl, h.insertEdge (GraphState.newEdge ..)⟩

theorem dependencyStored_addEdge {draw : Draw} {v w : Uuid}
    (hnew : s.edges.lookup draw.id = none) :
    (s.addEdge (GraphState.newEdge draw.id draw.now
        (dependencyLink tenantId workflowId nodeId v))).DependencyStored tenantId nodeId w ↔
      w = v ∨ s.DependencyStored tenantId nodeId w := by
  have hlookup (id : Uuid) := lookup_insert_eq s.edges draw.id id (GraphState.newEdge draw.id
    draw.now (dependencyLink tenantId workflowId nodeId v))
  constructor
  · rintro ⟨id, e, he, hedge⟩
    have he' := (hlookup id).symm.trans he
    split at he'
    · cases he'
      exact .inl hedge.2.2.1.symm
    · exact .inr ⟨id, e, he', hedge⟩
  · rintro (rfl | ⟨id, e, he, hedge⟩)
    · exact ⟨draw.id, _, AList.lookup_insert _, rfl, rfl, rfl, rfl⟩
    · refine ⟨id, e, (hlookup id).trans ?_, hedge⟩
      rw [if_neg fun hid => ?_, he]
      rw [hid, hnew] at he
      cases he

/-- The edges of a node are stored unless `unique_edge` refuses one: a version is repeated, or its
edge is stored already. -/
theorem wireEdges_links (uniqueEdge : Bool) (draws : Nat → Draw) {targets : List Uuid} {k : Nat}
    (h : t.Stores s) (hfrom : s.Scoped tenantId workflowId nodeId)
    (hto : ∀ v ∈ targets, s.Scoped tenantId workflowId v)
    (hnodup : ((newEdges draws k (targets.map (dependencyLink tenantId workflowId nodeId))).map
      GraphEdge.id).Nodup)
    (hnew : ∀ e ∈ newEdges draws k (targets.map (dependencyLink tenantId workflowId nodeId)),
      s.edges.lookup e.id = none) :
    (uniqueEdge = true ∧ ((∃ v ∈ targets, s.DependencyStored tenantId nodeId v) ∨
        ¬ targets.Nodup)) ∧
      (∃ message, wireEdges uniqueEdge (some tenantId) draws k
        (targets.map (dependencyLink tenantId workflowId nodeId)) t =
          .error (.storageError message)) ∨
    ¬ (uniqueEdge = true ∧ ((∃ v ∈ targets, s.DependencyStored tenantId nodeId v) ∨
        ¬ targets.Nodup)) ∧
      ∃ t', wireEdges uniqueEdge (some tenantId) draws k
          (targets.map (dependencyLink tenantId workflowId nodeId)) t =
        .ok (newEdges draws k (targets.map (dependencyLink tenantId workflowId nodeId)), t') ∧
        t'.Stores (s.addEdges
          (newEdges draws k (targets.map (dependencyLink tenantId workflowId nodeId)))) := by
  induction targets generalizing t s k with
  | nil => exact .inr ⟨by simp, t, rfl, h⟩
  | cons v rest ih =>
    obtain ⟨hv, hrest⟩ := List.forall_mem_cons.mp hto
    rw [List.map_cons, newEdges, List.map_cons, List.nodup_cons] at hnodup
    rw [List.map_cons, newEdges] at hnew
    obtain ⟨hnewEdge, hnewRest⟩ := List.forall_mem_cons.mp hnew
    rw [List.map_cons, newEdges, wireEdges]
    rcases createEdge_link uniqueEdge h hnewEdge hfrom hv with
      ⟨⟨hunique, hstored⟩, message, herror⟩ | ⟨hfree, t₁, hcreate, hstores⟩
    · rw [herror]
      exact .inl ⟨⟨hunique, .inl ⟨v, List.mem_cons_self, hstored⟩⟩, message, rfl⟩
    · have hkept : ∀ e ∈ newEdges draws (k + 1)
          (rest.map (dependencyLink tenantId workflowId nodeId)),
          (s.addEdge (GraphState.newEdge (draws k).id (draws k).now
            (dependencyLink tenantId workflowId nodeId v))).edges.lookup e.id = none := by
        intro e he
        have hne : e.id ≠ (draws k).id := fun heq =>
          hnodup.1 (List.mem_map.mpr ⟨e, he, heq⟩)
        exact (lookup_insert_eq s.edges (draws k).id e.id _).trans
          ((if_neg hne).trans (hnewRest e he))
      have hdependencies : ((∃ w ∈ rest, (s.addEdge (GraphState.newEdge (draws k).id (draws k).now
            (dependencyLink tenantId workflowId nodeId v))).DependencyStored tenantId nodeId w) ∨
          ¬ rest.Nodup) ↔
          v ∈ rest ∨ (∃ w ∈ rest, s.DependencyStored tenantId nodeId w) ∨ ¬ rest.Nodup := by
        simp only [dependencyStored_addEdge hnewEdge, and_or_left, exists_or, exists_eq_right,
          or_assoc]
      have hall : uniqueEdge = true → (((∃ w ∈ v :: rest, s.DependencyStored tenantId nodeId w) ∨
          ¬ (v :: rest).Nodup) ↔
          v ∈ rest ∨ (∃ w ∈ rest, s.DependencyStored tenantId nodeId w) ∨ ¬ rest.Nodup) := by
        intro hunique
        have hnot : ¬ s.DependencyStored tenantId nodeId v := fun hstored =>
          hfree ⟨hunique, hstored⟩
        simp only [List.mem_cons, exists_eq_or_imp, hnot, false_or, List.nodup_cons, not_and_or,
          not_not]
        exact or_left_comm
      rw [hcreate]
      dsimp only
      rcases ih hstores hfrom hrest hnodup.2 hkept with
        ⟨⟨hunique, hwhich⟩, message, herror⟩ | ⟨hok, t₂, hwire, hstores₂⟩
      · rw [herror]
        exact .inl ⟨⟨hunique, (hall hunique).mpr (hdependencies.mp hwhich)⟩, message, rfl⟩
      · rw [hwire]
        refine .inr ⟨fun ⟨hunique, hwhich⟩ => hok ⟨hunique, ?_⟩, t₂, rfl, hstores₂⟩
        exact hdependencies.mpr ((hall hunique).mp hwhich)

theorem nodes_wireEdges {uniqueEdge : Bool} {session : Option Uuid} {draws : Nat → Draw} {k : Nat}
    {requests : List CreateGraphEdgeRequest} {edges : List GraphEdge}
    (h : wireEdges uniqueEdge session draws k requests t = .ok (edges, t')) :
    t'.nodes = t.nodes := by
  induction requests generalizing t k edges with
  | nil =>
    cases h
    rfl
  | cons request rest ih =>
    rw [wireEdges] at h
    split at h
    · cases h
    next edge t₁ hcreate =>
    split at h
    · cases h
    next edges' t₂ hwire =>
    cases h
    rw [ih hwire]
    rw [createEdge] at hcreate
    split at hcreate
    · cases hcreate
    next hinsert =>
    cases hcreate
    unfold insertEdge at hinsert
    split at hinsert
    · cases hinsert
    split at hinsert
    · cases hinsert
    split at hinsert
    · cases hinsert
    split at hinsert
    · cases hinsert
    split at hinsert
    · cases hinsert
    cases hinsert
    rfl

end Edges

end SqlxGraphRepository

/-- The same answer, errors by their kind, and on success the same graph stored. -/
def SameIngestion : Except IntentRebaseError (IngestorResult × SqlxGraphRepository) →
    Except IntentRebaseError IngestorResult × GraphState → Prop
  | .ok (result, t), (.ok result', s) => result = result' ∧ t.Stores s
  | .error e, (.error e', _) => e.SameKind e'
  | _, _ => False

section Ingestion

open SqlxGraphRepository

variable {uniqueEdge : Bool} {s : GraphState} {t : SqlxGraphRepository} {draws : Nat → Draw}
  {request : ArtifactIngestRequest}

/-- What is not traceable is refused alike, with nothing written. -/
theorem sameIngestion_of_untraceable (h : t.Stores s) (huntraceable : ¬ request.Traceable s) :
    SameIngestion (t.ingestArtifactWithTx uniqueEdge (some request.tenantId) draws request)
      ((ingestArtifact draws request).on s) := by
  have hmemory {e : IntentRebaseError} (hvalidate : request.plan.validate s = .error e) :
      (ingestArtifact draws request).on s = (.error e, s) :=
    ingestArtifact_refused hvalidate
  rw [ingestArtifactWithTx]
  by_cases hempty : request.dependsOnIntentVersions.isEmpty = true
  · have hvalidate : request.plan.validate s = .error .artifactTraceabilityEmpty := by
      rw [ArtifactIngestRequest.plan]
      exact if_pos hempty
    rw [if_pos hempty, hmemory hvalidate]
    exact rfl
  · have hnot : ¬ ∀ v ∈ request.dependsOnIntentVersions,
        s.HasVersionNode request.tenantId request.workflowId v := fun hall =>
      huntraceable ⟨fun hnil => hempty (List.isEmpty_iff.mpr hnil), hall⟩
    have hvalidate : request.plan.validate s = checkReferences s .intentVersion "artifact"
        request.tenantId request.workflowId request.dependsOnIntentVersions := by
      rw [ArtifactIngestRequest.plan]
      exact if_neg hempty
    rcases checkReferences_decides s "artifact" request.tenantId request.workflowId
      request.dependsOnIntentVersions with
      ⟨hall, -⟩ | ⟨-, message, herror⟩
    · exact absurd hall hnot
    rcases validateIntentVersions_decides request.tenantId request.workflowId h
      request.dependsOnIntentVersions with
      ⟨hall, -⟩ | ⟨-, message', herror'⟩
    · exact absurd hall hnot
    rw [if_neg hempty, herror', hmemory (hvalidate.trans herror)]
    exact rfl

/-- What is traceable is ingested alike if it fits, and no version is repeated where `unique_edge`
is in force. -/
theorem sameIngestion_of_traceable (hconsistent : s.Consistent) (h : t.Stores s)
    (hfresh : s.FreshDraws draws request.plan) (htraceable : request.Traceable s) :
    SameIngestion (t.ingestArtifactWithTx uniqueEdge (some request.tenantId) draws request)
        ((ingestArtifact draws request).on s) ↔
      request.Fits s ∧ (uniqueEdge = true → request.dependsOnIntentVersions.Nodup) := by
  have hnonempty : ¬ request.dependsOnIntentVersions.isEmpty = true := fun hempty =>
    htraceable.1 (List.isEmpty_iff.mp hempty)
  have hvalidate : request.plan.validate s = .ok () := by
    rcases checkReferences_decides s "artifact" request.tenantId request.workflowId
      request.dependsOnIntentVersions with ⟨-, hok⟩ | ⟨hnot, -⟩
    · rw [ArtifactIngestRequest.plan]
      exact (if_neg hnonempty).trans hok
    · exact absurd htraceable.2 hnot
  have hvalidate' : t.validateIntentVersions (some request.tenantId) request.tenantId
      request.workflowId request.dependsOnIntentVersions = .ok () := by
    rcases validateIntentVersions_decides request.tenantId request.workflowId h
      request.dependsOnIntentVersions with
      ⟨-, hok⟩ | ⟨hnot, -⟩
    · exact hok
    · exact absurd htraceable.2 hnot
  rw [ingestArtifact_accepted draws hvalidate, ingestArtifactWithTx, if_neg hnonempty, hvalidate']
  dsimp only
  by_cases hfits : request.Fits s
  · obtain ⟨t₁, hcreate, hstores⟩ := createNode_fits h (draws 0) hfresh.node hfits
    have hscoped {v : Uuid} (hv : v = (draws 0).id ∨ v ∈ request.dependsOnIntentVersions) :
        (s.createNode (draws 0).id (draws 0).now request.plan.node).2.Scoped request.tenantId
          request.workflowId v := by
      refine GraphState.scoped_createNode rfl rfl (hv.imp_right fun hmem => ?_)
      obtain ⟨n, hn, -, htenant, hworkflow⟩ := htraceable.2 v hmem
      exact ⟨n, hn, htenant, hworkflow⟩
    -- No edge leaves a node that is not stored.
    have hunlinked (v : Uuid) : ¬ (s.createNode (draws 0).id (draws 0).now
        request.plan.node).2.DependencyStored request.tenantId (draws 0).id v := by
      rintro ⟨id, e, he, -, hfrom, -⟩
      obtain ⟨n, hn, -⟩ := hconsistent.fromNode id e he
      rw [hfrom, hfresh.node] at hn
      cases hn
    have hlinks : request.plan.links (GraphState.newNode (draws 0).id (draws 0).now
        request.plan.node).id = request.dependsOnIntentVersions.map
          (dependencyLink request.tenantId request.workflowId (draws 0).id) := rfl
    rw [hcreate]
    dsimp only
    rcases wireEdges_links uniqueEdge draws (k := 1) hstores (hscoped (.inl rfl))
      (fun v hv => hscoped (.inr hv)) hfresh.nodup hfresh.edges with
      ⟨⟨hunique, hwhich⟩, message, herror⟩ | ⟨hok, t₂, hwire, hstores₂⟩
    · have hnolink : ¬ ∃ v ∈ request.dependsOnIntentVersions, (s.createNode (draws 0).id
          (draws 0).now request.plan.node).2.DependencyStored request.tenantId (draws 0).id v := by
        rintro ⟨v, -, hlinked⟩
        exact hunlinked v hlinked
      have hrepeated := hwhich.resolve_left hnolink
      rw [hlinks, herror]
      exact iff_of_false id fun hboth => hrepeated (hboth.2 hunique)
    · have hnodup : uniqueEdge = true → request.dependsOnIntentVersions.Nodup := fun hunique =>
        by_contra fun hrepeated => hok ⟨hunique, .inr hrepeated⟩
      rw [hlinks, hwire]
      exact iff_of_true ⟨rfl, hstores₂⟩ ⟨hfits, hnodup⟩
  · refine iff_of_false ?_ fun hboth => hfits hboth.1
    rcases createNode_unfit h (draws 0) hfits with ⟨message, herror⟩ | ⟨node, t₁, hcreate, hcut⟩
    · rw [herror]
      exact id
    · rw [hcreate]
      dsimp only
      cases hwire : SqlxGraphRepository.wireEdges uniqueEdge (some request.tenantId) draws 1
          (request.plan.links node.id) t₁ with
      | error e => exact id
      | ok wired =>
        rintro ⟨-, hstores⟩
        refine hcut ?_
        rw [← nodes_wireEdges hwire, hstores.nodes, GraphState.nodes_ingested,
          AList.lookup_insert]
        rfl

/-- The ingestion in a transaction of the request's tenant does what the one in memory does exactly
if what passes the checks fits the tables and, with `unique_edge`, repeats no version. -/
theorem ingestArtifact_agree_iff (uniqueEdge : Bool) (g : GraphStore) (t : SqlxGraphRepository)
    (draws : Nat → Draw) (request : ArtifactIngestRequest) (h : t.Stores g.state)
    (hfresh : g.state.FreshDraws draws request.plan) :
    SameIngestion (t.ingestArtifactWithTx uniqueEdge (some request.tenantId) draws request)
        ((ingestArtifact draws request).on g.state) ↔
      (request.Traceable g.state → request.Fits g.state ∧
        (uniqueEdge = true → request.dependsOnIntentVersions.Nodup)) := by
  by_cases htraceable : request.Traceable g.state
  · rw [sameIngestion_of_traceable g.consistent h hfresh htraceable]
    exact ⟨fun hboth _ => hboth, fun hboth => hboth htraceable⟩
  · exact iff_of_true (sameIngestion_of_untraceable h htraceable) fun htrue =>
      absurd htrue htraceable

end Ingestion

section Sample

/-- A node of tenant 5 and workflow 6. -/
def tenantNode (nodeType : NodeType) (externalRef : Option ExternalRef) :
    CreateGraphNodeRequest where
  tenantId := 5
  workflowId := 6
  nodeType := nodeType
  externalRef := externalRef
  label := "node"
  properties := none

/-- A version, and an artifact that stands for the external one with identifier 9. -/
def versionAndArtifact : GraphStore :=
  (GraphStore.empty.createNode 1 GraphStore.firstNode_fresh 0
    (tenantNode .intentVersion none)).createNode 2 rfl 0
      (tenantNode .artifact (some ⟨.artifact, 9⟩))

def versionAndArtifactTables : SqlxGraphRepository where
  nodes := ((∅ : HashMap Uuid NodeRow).insert 1
    (.ofNode (GraphState.newNode 1 0 (tenantNode .intentVersion none)))).insert 2
      (.ofNode (GraphState.newNode 2 0 (tenantNode .artifact (some ⟨.artifact, 9⟩))))
  edges := ∅

theorem versionAndArtifact_stores : versionAndArtifactTables.Stores versionAndArtifact.state := by
  have hempty : (⟨∅, ∅⟩ : SqlxGraphRepository).Stores .empty := ⟨fun _ => rfl, fun _ => rfl⟩
  exact (hempty.insertNode (GraphState.newNode 1 0 (tenantNode .intentVersion none))).insertNode
    (GraphState.newNode 2 0 (tenantNode .artifact (some ⟨.artifact, 9⟩)))

/-- An artifact with the version, which stands for the external one with the given identifier. -/
def reportRequest (refId : Uuid) : ArtifactIngestRequest where
  tenantId := 5
  workflowId := 6
  externalRef := ⟨.artifact, refId⟩
  label := "report"
  dependsOnIntentVersions := [1]
  properties := none

theorem reportRequest_fresh (refId : Uuid) :
    versionAndArtifact.state.FreshDraws (Draw.from 3) (reportRequest refId).plan :=
  ⟨rfl, by simp [newEdges, ArtifactIngestRequest.plan, reportRequest], by
    intro e he
    exact rfl⟩

theorem ingestArtifact_agree_sample :
    SameIngestion (versionAndArtifactTables.ingestArtifactWithTx true (some 5) (Draw.from 3)
        (reportRequest 8))
      ((ingestArtifact (Draw.from 3) (reportRequest 8)).on versionAndArtifact.state) := by
  refine (ingestArtifact_agree_iff true versionAndArtifact versionAndArtifactTables (Draw.from 3)
    (reportRequest 8) versionAndArtifact_stores (reportRequest_fresh 8)).mpr fun _ =>
      ⟨⟨by decide, by decide, by decide, ?_⟩, fun _ => by decide⟩
  intro id n hn _ _ href
  have hlookup : (((∅ : HashMap Uuid GraphNode).insert 1 (GraphState.newNode 1 0
      (tenantNode .intentVersion none))).insert 2 (GraphState.newNode 2 0
        (tenantNode .artifact (some ⟨.artifact, 9⟩)))).lookup id = some n := hn
  rw [lookup_insert_eq, lookup_insert_eq] at hlookup
  split at hlookup
  · cases hlookup
    exact absurd href (by decide)
  split at hlookup
  · cases hlookup
    cases href
  · cases hlookup

/-- An artifact that stands for an external one that has a node already is ingested in memory, and
refused by the tables. -/
theorem ingestArtifact_disagrees :
    ¬ ∀ (g : GraphStore) (t : SqlxGraphRepository) (draws : Nat → Draw)
      (request : ArtifactIngestRequest), t.Stores g.state → g.state.FreshDraws draws request.plan →
      SameIngestion (t.ingestArtifactWithTx false (some request.tenantId) draws request)
        ((ingestArtifact draws request).on g.state) := by
  intro h
  have hsame := h versionAndArtifact versionAndArtifactTables (Draw.from 3) (reportRequest 9)
    versionAndArtifact_stores (reportRequest_fresh 9)
  have htraceable : (reportRequest 9).Traceable versionAndArtifact.state := by
    refine ⟨by simp [reportRequest], ?_⟩
    simp only [reportRequest, List.forall_mem_singleton]
    exact ⟨_, rfl, rfl, rfl, rfl⟩
  have hfits := ((sameIngestion_of_traceable versionAndArtifact.consistent
    versionAndArtifact_stores (reportRequest_fresh 9) htraceable).mp hsame).1
  exact hfits.externalRef 2 _ rfl rfl rfl rfl

end Sample

end IntentRebase
