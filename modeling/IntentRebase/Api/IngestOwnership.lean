import IntentRebase.Api.ArtifactIngest

/-! An ingestion adds nodes, edges and a side effect of the request's tenant only, on every path. -/

namespace IntentRebase

open Kit

/-- Nodes and edges of the tenant are added, and nothing else differs. -/
structure SqlxGraphRepository.AddsOnlyOf (tenantId : Uuid) (t t' : SqlxGraphRepository) :
    Prop where
  nodes : AddsOnly (fun row => row.tenantId = tenantId) t.nodes t'.nodes
  edges : AddsOnly (fun row => row.tenantId = tenantId) t.edges t'.edges

namespace SqlxGraphRepository

variable {uniqueEdge : Bool} {session : Option Uuid} {t t' t'' : SqlxGraphRepository}
  {tenantId : Uuid} {draws : Nat → Draw}

theorem AddsOnlyOf.refl (tenantId : Uuid) (t : SqlxGraphRepository) :
    t.AddsOnlyOf tenantId t := ⟨.refl _ _, .refl _ _⟩

theorem AddsOnlyOf.trans (h : t.AddsOnlyOf tenantId t') (h' : t'.AddsOnlyOf tenantId t'') :
    t.AddsOnlyOf tenantId t'' := ⟨h.nodes.trans h'.nodes, h.edges.trans h'.edges⟩

/-- A node that is inserted is new. -/
theorem insertNode_ok {row : NodeRow} (h : t.insertNode session row = .ok t') :
    t.nodes.lookup row.nodeId = none ∧ ∃ label properties,
      t' = { t with nodes := t.nodes.insert row.nodeId { row with label, properties } } := by
  unfold insertNode at h
  split at h
  · cases h
  next label _ =>
  split at h
  · cases h
  next properties _ =>
  split at h
  · cases h
  split at h
  · cases h
  next hfree =>
  cases h
  rw [Bool.or_eq_true, not_or, Bool.not_eq_true, Option.isSome_eq_false_iff,
    Option.isNone_iff_eq_none] at hfree
  exact ⟨hfree.1, label, properties, rfl⟩

theorem insertEdge_ok {row : EdgeRow} (h : t.insertEdge uniqueEdge session row = .ok t') :
    t.edges.lookup row.edgeId = none ∧ ∃ properties,
      t' = { t with edges := t.edges.insert row.edgeId { row with properties } } := by
  unfold insertEdge at h
  split at h
  · cases h
  next properties _ =>
  split at h
  · cases h
  split at h
  · cases h
  split at h
  · cases h
  split at h
  · cases h
  next hfree =>
  cases h
  rw [Bool.or_eq_true, not_or, Bool.not_eq_true, Option.isSome_eq_false_iff,
    Option.isNone_iff_eq_none] at hfree
  exact ⟨hfree.1, properties, rfl⟩

theorem createNode_ok {draw : Draw} {request : CreateGraphNodeRequest} {node : GraphNode}
    (h : t.createNode session draw request = .ok (node, t')) :
    node = GraphState.newNode draw.id draw.now request ∧
      t.insertNode session (.ofNode (GraphState.newNode draw.id draw.now request)) = .ok t' := by
  rw [createNode] at h
  split at h
  · cases h
  next hinsert =>
  cases h
  exact ⟨rfl, hinsert⟩

theorem createEdge_ok {draw : Draw} {request : CreateGraphEdgeRequest} {edge : GraphEdge}
    (h : t.createEdge uniqueEdge session draw request = .ok (edge, t')) :
    t.insertEdge uniqueEdge session (.ofEdge (GraphState.newEdge draw.id draw.now request)) =
      .ok t' := by
  rw [createEdge] at h
  split at h
  · cases h
  next hinsert =>
  cases h
  exact hinsert

theorem createNode_addsOnly {draw : Draw} {request : CreateGraphNodeRequest} {node : GraphNode}
    (htenant : request.tenantId = tenantId)
    (h : t.createNode session draw request = .ok (node, t')) : t.AddsOnlyOf tenantId t' := by
  obtain ⟨hnew, label, properties, rfl⟩ := insertNode_ok (createNode_ok h).2
  exact ⟨.insert hnew htenant, .refl _ _⟩

theorem createEdge_addsOnly {draw : Draw} {request : CreateGraphEdgeRequest} {edge : GraphEdge}
    (htenant : request.tenantId = tenantId)
    (h : t.createEdge uniqueEdge session draw request = .ok (edge, t')) :
    t.AddsOnlyOf tenantId t' := by
  obtain ⟨hnew, properties, rfl⟩ := insertEdge_ok (createEdge_ok h)
  exact ⟨.refl _ _, .insert hnew htenant⟩

theorem wireEdges_addsOnly {k : Nat} {requests : List CreateGraphEdgeRequest}
    {edges : List GraphEdge} (htenant : ∀ request ∈ requests, request.tenantId = tenantId)
    (h : wireEdges uniqueEdge session draws k requests t = .ok (edges, t')) :
    t.AddsOnlyOf tenantId t' := by
  induction requests generalizing t k edges with
  | nil =>
    cases h
    exact .refl _ _
  | cons request rest ih =>
    obtain ⟨hrequest, hrest⟩ := List.forall_mem_cons.mp htenant
    rw [wireEdges] at h
    split at h
    · cases h
    next hcreate =>
    split at h
    · cases h
    next hwire =>
    cases h
    exact (createEdge_addsOnly hrequest hcreate).trans (ih hrest hwire)

variable {request : ArtifactIngestRequest}

theorem links_tenant (request : ArtifactIngestRequest) (nodeId : Uuid) :
    ∀ link ∈ request.plan.links nodeId, link.tenantId = request.tenantId := by
  intro link hlink
  obtain ⟨v, -, rfl⟩ := List.mem_map.mp hlink
  rfl

theorem ingestArtifactWithTx_addsOnly {result : IngestorResult}
    (h : t.ingestArtifactWithTx uniqueEdge session draws request = .ok (result, t')) :
    t.AddsOnlyOf request.tenantId t' := by
  rw [ingestArtifactWithTx] at h
  split at h
  · cases h
  split at h
  · cases h
  split at h
  · cases h
  next hcreate =>
  split at h
  · cases h
  next hwire =>
  cases h
  exact (createNode_addsOnly rfl hcreate).trans
    (wireEdges_addsOnly (links_tenant request _) hwire)

section Plain

variable {α : Type} {faults : GraphFaults}

theorem autocommit_addsOnly {statement : Except IntentRebaseError (α × SqlxGraphRepository)}
    (h : ∀ a t', statement = .ok (a, t') → t.AddsOnlyOf tenantId t') :
    t.AddsOnlyOf tenantId (t.autocommit statement).2 := by
  cases statement with
  | error e => exact .refl _ _
  | ok written => exact h written.1 written.2 rfl

theorem createEdges_addsOnly {k : Nat} {requests : List CreateGraphEdgeRequest}
    (htenant : ∀ request ∈ requests, request.tenantId = tenantId) :
    t.AddsOnlyOf tenantId (createEdges faults draws k requests t).2 := by
  induction requests generalizing t k with
  | nil => exact .refl _ _
  | cons request rest ih =>
    obtain ⟨hrequest, hrest⟩ := List.forall_mem_cons.mp htenant
    have hfirst : t.AddsOnlyOf tenantId (Fault.meet (faults.edge k) t
        (t.autocommit (t.createEdge true none (draws k) request))).2 :=
      Fault.meet_keeps (faults.edge k) (p := t.AddsOnlyOf tenantId) (.refl _ _)
        (autocommit_addsOnly fun _ _ hcreate => createEdge_addsOnly hrequest hcreate)
    rw [createEdges]
    split
    · next hcreate =>
      rw [hcreate] at hfirst
      exact hfirst
    · next hcreate =>
      rw [hcreate] at hfirst
      have hlater := hfirst.trans (ih (t := _) (k := k + 1) hrest)
      split
      · next hwire =>
        rw [hwire] at hlater
        exact hlater
      · next hwire =>
        rw [hwire] at hlater
        exact hlater

/-- The edges of an ingestion leave its nodes. -/
theorem nodes_createEdges (k : Nat) (requests : List CreateGraphEdgeRequest) :
    (createEdges faults draws k requests t).2.nodes = t.nodes := by
  have hkept (request : CreateGraphEdgeRequest) (k : Nat) (t : SqlxGraphRepository) :
      (Fault.meet (faults.edge k) t
        (t.autocommit (t.createEdge true none (draws k) request))).2.nodes = t.nodes := by
    refine Fault.meet_keeps (faults.edge k)
      (p := fun t' : SqlxGraphRepository => t'.nodes = t.nodes) rfl ?_
    cases hcreate : t.createEdge true none (draws k) request with
    | error e => rfl
    | ok written =>
      obtain ⟨-, properties, hwritten⟩ := insertEdge_ok (createEdge_ok hcreate)
      change written.2.nodes = t.nodes
      rw [hwritten]
  induction requests generalizing t k with
  | nil => rfl
  | cons request rest ih =>
    have hfirst := hkept request k t
    rw [createEdges]
    split
    · next hcreate =>
      rw [hcreate] at hfirst
      exact hfirst
    · next t₁ hcreate =>
      rw [hcreate] at hfirst
      have hlater := (ih (t := t₁) (k + 1)).trans hfirst
      split
      · next hwire =>
        rw [hwire] at hlater
        exact hlater
      · next hwire =>
        rw [hwire] at hlater
        exact hlater

theorem ingestArtifact_addsOnly :
    t.AddsOnlyOf request.tenantId (t.ingestArtifact faults draws request).2 := by
  have hnode : t.AddsOnlyOf request.tenantId (Fault.meet faults.node t
      (t.autocommit (t.createNode none (draws 0) request.plan.node))).2 :=
    Fault.meet_keeps faults.node (p := t.AddsOnlyOf request.tenantId) (.refl _ _)
      (autocommit_addsOnly fun _ _ hcreate => createNode_addsOnly rfl hcreate)
  rw [ingestArtifact]
  split
  · exact .refl _ _
  split
  · exact .refl _ _
  split
  · next hcreate =>
    rw [hcreate] at hnode
    exact hnode
  · next hcreate =>
    rw [hcreate] at hnode
    exact hnode.trans (createEdges_addsOnly (links_tenant request _))

end Plain

end SqlxGraphRepository

/-- Nodes and edges of the tenant are added, and nothing else differs. -/
def GraphStorage.AddsOnlyOf (tenantId : Uuid) : GraphStorage → GraphStorage → Prop
  | .inMemory s, .inMemory s' =>
    AddsOnly (fun n => n.tenantId = tenantId) s.nodes s'.nodes ∧
      AddsOnly (fun e => e.tenantId = tenantId) s.edges s'.edges
  | .sqlx t, .sqlx t' => t.AddsOnlyOf tenantId t'
  | _, _ => False

theorem GraphStorage.AddsOnlyOf.refl (tenantId : Uuid) (g : GraphStorage) :
    g.AddsOnlyOf tenantId g := by
  cases g <;> exact ⟨.refl _ _, .refl _ _⟩

/-- The identifiers that an ingestion draws are new to the graph. -/
def GraphStorage.UnusedDraws (draws : Nat → Draw) (request : ArtifactIngestRequest) :
    GraphStorage → Prop
  | .inMemory s => s.FreshDraws draws request.plan
  | .sqlx t => t.nodes.lookup (draws 0).id = none

/-- In memory, what an ingestion adds is of the tenant. -/
theorem GraphState.ingested_addsOnly {s : GraphState} {draws : Nat → Draw}
    {request : ArtifactIngestRequest} (hfresh : s.FreshDraws draws request.plan) :
    AddsOnly (fun n => n.tenantId = request.tenantId) s.nodes
        (s.ingested draws request.plan).nodes ∧
      AddsOnly (fun e => e.tenantId = request.tenantId) s.edges
        (s.ingested draws request.plan).edges := by
  constructor
  · rw [GraphState.nodes_ingested]
    exact .insert hfresh.node rfl
  · intro id
    cases hbefore : s.edges.lookup id with
    | some e => exact .inl ((lookup_ingested_edge hfresh).mpr (.inl hbefore))
    | none =>
      refine .inr ⟨rfl, fun e he => ?_⟩
      rcases (lookup_ingested_edge hfresh).mp he with hstored | ⟨hmem, -⟩
      · cases hbefore.symm.trans hstored
      · obtain ⟨link, hlink, i, rfl⟩ := mem_newEdges hmem
        exact SqlxGraphRepository.links_tenant request _ link hlink

theorem GraphStorage.ingestArtifact_addsOnly {g : GraphStorage} (faults : GraphFaults)
    {draws : Nat → Draw} {request : ArtifactIngestRequest} (hunused : g.UnusedDraws draws request) :
    g.AddsOnlyOf request.tenantId (g.ingestArtifact faults draws request).2 := by
  cases g with
  | inMemory s =>
    have hmemory := ingest_cases s draws (.artifact request)
    change (∃ e, (IntentRebase.ingestArtifact draws request).on s = (.error e, s)) ∨
      request.plan.validate s = .ok () ∧ ((IntentRebase.ingestArtifact draws request).on s).2 =
        s.ingested draws request.plan at hmemory
    rcases hmemory with ⟨e, hrefused⟩ | ⟨-, hingested⟩
    · rw [ingestArtifact, hrefused]
      exact ⟨.refl _ _, .refl _ _⟩
    · have hstate : (ingestArtifact faults draws request (.inMemory s)).2 =
          .inMemory ((IntentRebase.ingestArtifact draws request).on s).2 := rfl
      rw [hstate, hingested]
      exact GraphState.ingested_addsOnly hunused
  | sqlx t => exact SqlxGraphRepository.ingestArtifact_addsOnly

/-- Side effects of the tenant are added, and nothing else differs. -/
def SideEffectStorage.AddsOnlyOf (tenantId : Uuid) :
    SideEffectStorage → SideEffectStorage → Prop
  | .inMemory s, .inMemory s' =>
    AddsOnly (fun e => e.tenantId = tenantId) s.sideEffects s'.sideEffects
  | .sqlx table, .sqlx table' => AddsOnly (fun e => e.tenantId = tenantId) table table'
  | _, _ => False

theorem SideEffectStorage.AddsOnlyOf.refl (tenantId : Uuid) (s : SideEffectStorage) :
    s.AddsOnlyOf tenantId s := by
  cases s <;> exact AddsOnly.refl _ _

/-- No side effect has the identifier. -/
def SideEffectStorage.Unused (id : Uuid) : SideEffectStorage → Prop
  | .inMemory s => s.sideEffects.lookup id = none
  | .sqlx table => table.lookup id = none

section SideEffects

variable {table table' : SideEffectTable} {session : Option Uuid} {sideEffect recorded : SideEffect}

/-- What the columns hold is of the same tenant. -/
theorem SqlxSideEffectRepository.columns_ok {row : SideEffect}
    (h : SqlxSideEffectRepository.columns sideEffect = .ok row) :
    row.tenantId = sideEffect.tenantId := by
  unfold columns at h
  cases hType : varchar 100 sideEffect.effectType with
  | error e =>
    rw [hType] at h
    cases h
  | ok effectType =>
    cases hTarget : varchar 500 sideEffect.target with
    | error e =>
      rw [hType, hTarget] at h
      cases h
    | ok target =>
      cases hKey : sideEffect.idempotencyKey.mapM (varchar 255) with
      | error e =>
        rw [hType, hTarget, hKey] at h
        cases h
      | ok key =>
        rw [hType, hTarget, hKey] at h
        cases h
        rfl

theorem SqlxSideEffectRepository.insert_addsOnly
    {onConflict : SideEffect → Except String (SideEffect × SideEffectTable)}
    (hconflict : ∀ existing outcome, onConflict existing = .ok outcome → outcome.2 = table)
    {outcome : SideEffect × SideEffectTable}
    (h : SqlxSideEffectRepository.insert table session sideEffect onConflict = .ok outcome) :
    AddsOnly (fun e => e.tenantId = sideEffect.tenantId) table outcome.2 := by
  unfold SqlxSideEffectRepository.insert at h
  split at h
  · cases h
  next row hcolumns =>
  split at h
  · cases h
  split at h
  · rw [hconflict _ _ h]
    exact .refl _ _
  split at h
  · cases h
  next hnew =>
  cases h
  exact .insert hnew (columns_ok hcolumns)

theorem SqlxSideEffectRepository.recordWithTx_addsOnly
    (h : SqlxSideEffectRepository.recordWithTx table session sideEffect = .ok (recorded, table')) :
    AddsOnly (fun e => e.tenantId = sideEffect.tenantId) table table' := by
  rw [recordWithTx] at h
  split at h
  · rw [getOrCreateIdempotentWithTx] at h
    split at h
    · cases h
    next hinsert =>
    cases h
    exact insert_addsOnly (fun _ _ heq => by cases heq; rfl) hinsert
  · rw [createWithTx] at h
    split at h
    · cases h
    next hinsert =>
    cases h
    exact insert_addsOnly (fun _ _ heq => by cases heq) hinsert

theorem SideEffectStorage.record_addsOnly {s : SideEffectStorage}
    (hunused : s.Unused sideEffect.id) :
    s.AddsOnlyOf sideEffect.tenantId (s.record sideEffect).2 := by
  cases s with
  | inMemory repo =>
    have hstore : AddsOnly (fun e => e.tenantId = sideEffect.tenantId) repo.sideEffects
        (repo.store sideEffect).sideEffects := .insert hunused rfl
    rw [record]
    dsimp only
    split
    · rw [InMemorySideEffectRepository.getOrCreateIdempotent]
      split
      · exact AddsOnly.refl _ _
      · exact hstore
    · exact hstore
  | sqlx table =>
    rw [record]
    split
    · exact AddsOnly.refl _ _
    · next hrecord => exact SqlxSideEffectRepository.recordWithTx_addsOnly hrecord

end SideEffects

/-- What an ingestion adds is of the tenant. -/
structure IngestWorld.AddsOnlyOf (tenantId : Uuid) (w w' : IngestWorld) : Prop where
  graph : w.graph.AddsOnlyOf tenantId w'.graph
  sideEffects : w.sideEffects.AddsOnlyOf tenantId w'.sideEffects

theorem IngestWorld.AddsOnlyOf.refl (tenantId : Uuid) (w : IngestWorld) :
    w.AddsOnlyOf tenantId w := ⟨.refl _ _, .refl _ _⟩

/-- The identifiers that a call draws are new to both repositories. -/
structure IngestRun.Unused (run : IngestRun) (request : ArtifactIngestBody) (w : IngestWorld) :
    Prop where
  graph : w.graph.UnusedDraws run.draws request.toArtifactIngestRequest
  sideEffect : w.sideEffects.Unused run.sideEffectDraw.id

section Handler

variable {run : IngestRun} {request : ArtifactIngestBody} {w w' : IngestWorld}

theorem recordSideEffect_addsOnly (result : IngestorResult)
    (hunused : w'.sideEffects.Unused run.sideEffectDraw.id)
    (h : w.AddsOnlyOf request.tenantId { w' with sideEffects := w.sideEffects })
    (hsame : w'.sideEffects = w.sideEffects) :
    w.AddsOnlyOf request.tenantId (recordSideEffect run request result w').2 := by
  have hrecord (context : SideEffectCaptureContext) : w.sideEffects.AddsOnlyOf request.tenantId
      (Fault.meet run.recordFault w'.sideEffects (w'.sideEffects.record
        (context.sideEffect run.sideEffectDraw request.tenantId))).2 := by
    rw [← hsame]
    exact Fault.meet_keeps run.recordFault (p := w'.sideEffects.AddsOnlyOf request.tenantId)
      (.refl _ _) (SideEffectStorage.record_addsOnly hunused)
  rw [recordSideEffect]
  split
  · exact ⟨h.graph, hsame ▸ .refl _ _⟩
  next context _ =>
  have hrecorded := hrecord context
  split
  · next heq =>
    rw [heq] at hrecorded
    exact ⟨h.graph, hrecorded⟩
  · next heq =>
    rw [heq] at hrecorded
    exact ⟨h.graph, hrecorded⟩

theorem ingestPlain_addsOnly (hunused : run.Unused request w) :
    w.AddsOnlyOf request.tenantId (ingestPlain run request w).2 := by
  have hgraph := GraphStorage.ingestArtifact_addsOnly run.faults hunused.graph
  rw [ingestPlain]
  split
  · next hingest =>
    rw [hingest] at hgraph
    exact ⟨hgraph, .refl _ _⟩
  · next hingest =>
    rw [hingest] at hgraph
    exact recordSideEffect_addsOnly _ hunused.sideEffect ⟨hgraph, .refl _ _⟩ rfl

theorem meetFault_ok {α : Type} {fault : Option IntentRebaseError}
    {statement : Except IntentRebaseError α} {a : α} (h : meetFault fault statement = .ok a) :
    statement = .ok a := by
  cases fault with
  | some e => cases h
  | none => exact h

theorem ingestWithRls_addsOnly {repo : SqlxGraphRepository} (hrepo : w.graph = .sqlx repo)
    (hunused : run.Unused request w) :
    w.AddsOnlyOf request.tenantId (ingestWithRls run request repo w).2 := by
  rw [ingestWithRls]
  split
  · exact .refl _ w
  split
  · exact .refl _ w
  next result graph hingest =>
  have hgraph : w.graph.AddsOnlyOf request.tenantId (.sqlx graph) := by
    rw [hrepo]
    exact SqlxGraphRepository.ingestArtifactWithTx_addsOnly (meetFault_ok hingest)
  split
  · next context table _ htable =>
    split
    · exact .refl _ w
    · next effect table' hrecord =>
      refine Fault.meet_keeps run.commitFault (p := w.AddsOnlyOf request.tenantId) (.refl _ w)
        ⟨hgraph, ?_⟩
      rw [htable]
      exact SqlxSideEffectRepository.recordWithTx_addsOnly (meetFault_ok hrecord)
  · have hcommit : w.AddsOnlyOf request.tenantId (Fault.meet run.commitFault w
          (.ok (), { w with graph := .sqlx graph })).2 ∧
        (Fault.meet run.commitFault w (.ok (), { w with graph := .sqlx graph })).2.sideEffects =
          w.sideEffects :=
      Fault.meet_keeps run.commitFault
        (p := fun w' => w.AddsOnlyOf request.tenantId w' ∧ w'.sideEffects = w.sideEffects)
        ⟨.refl _ w, rfl⟩ ⟨⟨hgraph, .refl _ _⟩, rfl⟩
    split
    · next w' hmet =>
      rw [hmet] at hcommit
      exact hcommit.1
    · next w' hmet =>
      rw [hmet] at hcommit
      obtain ⟨hadds, hsame⟩ := hcommit
      exact recordSideEffect_addsOnly result (hsame ▸ hunused.sideEffect)
        ⟨hadds.graph, .refl _ _⟩ hsame

variable (run request) in
/-- Where there is a pool, an ingestion adds records of the token's tenant only. -/
theorem ingestArtifactHandler_addsOnly (rlsClaims : RlsTenantClaims)
    (hunused : run.Unused request w) : w.AddsOnlyOf rlsClaims.tenantId
      (ingestArtifactHandler run request true (some rlsClaims) w).2 := by
  rw [ingestArtifactHandler.eq_def]
  cases validateArtifactIngestRequest request with
  | error e => exact .refl _ w
  | ok _ =>
    dsimp only
    split
    · exact .refl _ w
    next htenant =>
    rw [← not_ne_iff.mp htenant]
    split
    · next repo hrepo => exact ingestWithRls_addsOnly hrepo hunused
    split
    · exact .refl _ w
    · exact ingestPlain_addsOnly hunused

end Handler

/-- An artifact passes the checks and the constraints of its node, which is then stored. -/
def GraphStorage.StoresNode (faults : GraphFaults) (draws : Nat → Draw)
    (request : ArtifactIngestRequest) : GraphStorage → Prop
  | .inMemory s => request.plan.validate s = .ok ()
  | .sqlx t => request.dependsOnIntentVersions ≠ [] ∧
    t.readReferences faults request.tenantId request.workflowId 0
      request.dependsOnIntentVersions = .ok () ∧
    (∀ e, faults.node ≠ some (.before e)) ∧ (∃ label, varchar 255 request.label = .ok label) ∧
    (∃ properties, jsonb (request.properties.getD .emptyObject) = .ok properties) ∧
    t.externalRefTaken
      (.ofNode (GraphState.newNode (draws 0).id (draws 0).now request.plan.node)) = false

section Node

variable {faults : GraphFaults} {draws : Nat → Draw} {request : ArtifactIngestRequest}
  {tenantId : Uuid}

theorem SqlxGraphRepository.createNode_stores {t : SqlxGraphRepository}
    (hnew : t.nodes.lookup (draws 0).id = none)
    (hlabel : ∃ label, varchar 255 request.label = .ok label)
    (hproperties : ∃ properties,
      jsonb (request.properties.getD .emptyObject) = .ok properties)
    (href : t.externalRefTaken
      (.ofNode (GraphState.newNode (draws 0).id (draws 0).now request.plan.node)) = false) :
    ∃ node row, t.createNode none (draws 0) request.plan.node =
        .ok (node, { t with nodes := t.nodes.insert (draws 0).id row }) ∧
      row.tenantId = request.tenantId := by
  obtain ⟨label, hlabel⟩ := hlabel
  obtain ⟨properties, hproperties⟩ := hproperties
  rw [createNode, insertNode, href]
  simp only [NodeRow.ofNode, GraphState.newNode, ArtifactIngestRequest.plan, hlabel, hproperties,
    visible, hnew, Option.all_none, Bool.not_true, Option.isSome_none, Bool.or_self,
    Bool.false_eq_true, if_false]
  exact ⟨_, _, rfl, rfl⟩

theorem SqlxGraphRepository.createNode_refused {t : SqlxGraphRepository}
    (h : ¬ ((∃ label, varchar 255 request.label = .ok label) ∧
      (∃ properties, jsonb (request.properties.getD .emptyObject) = .ok properties) ∧
      t.externalRefTaken
        (.ofNode (GraphState.newNode (draws 0).id (draws 0).now request.plan.node)) = false)) :
    ∃ e, t.createNode none (draws 0) request.plan.node = .error e := by
  rw [createNode]
  cases hinsert : t.insertNode none
      (.ofNode (GraphState.newNode (draws 0).id (draws 0).now request.plan.node)) with
  | error e => exact ⟨_, rfl⟩
  | ok t' =>
    refine absurd ?_ h
    unfold insertNode at hinsert
    split at hinsert
    · cases hinsert
    next label hlabel =>
    split at hinsert
    · cases hinsert
    next properties hproperties =>
    split at hinsert
    · cases hinsert
    split at hinsert
    · cases hinsert
    next hfree =>
    rw [Bool.or_eq_true, not_or, Bool.not_eq_true, Bool.not_eq_true] at hfree
    exact ⟨⟨label, hlabel⟩, ⟨properties, hproperties⟩, hfree.2⟩

/-- An artifact that is refused changes nothing. -/
theorem GraphStorage.ingestArtifact_refused {g : GraphStorage}
    (h : ¬ g.StoresNode faults draws request) :
    ∃ e, g.ingestArtifact faults draws request = (.error e, g) := by
  cases g with
  | inMemory s =>
    cases hvalidate : request.plan.validate s with
    | ok u => exact absurd hvalidate h
    | error e =>
      exact ⟨e, by rw [ingestArtifact, IntentRebase.ingestArtifact_refused hvalidate]; rfl⟩
  | sqlx t =>
    rw [ingestArtifact, SqlxGraphRepository.ingestArtifact]
    split
    · exact ⟨_, rfl⟩
    next hempty =>
    split
    · exact ⟨_, rfl⟩
    next hread =>
    match hfault : faults.node with
    | some (.before e) => exact ⟨e, rfl⟩
    | none | some (.after _) =>
      have hrefused : ∃ e, t.createNode none (draws 0) request.plan.node = .error e :=
        SqlxGraphRepository.createNode_refused fun hnode =>
          h ⟨fun hnil => hempty (List.isEmpty_iff.mpr hnil), hread,
            fun e hbefore => (by cases hfault.symm.trans hbefore), hnode⟩
      obtain ⟨e, hcreate⟩ := hrefused
      rw [hcreate]
      exact ⟨_, rfl⟩

/-- One that is stored is of the request's tenant. -/
theorem GraphStorage.ingestArtifact_stores {g : GraphStorage}
    (hunused : g.UnusedDraws draws request) (h : g.StoresNode faults draws request)
    (hadds : g.AddsOnlyOf tenantId (g.ingestArtifact faults draws request).2) :
    request.tenantId = tenantId := by
  cases g with
  | inMemory s =>
    rw [ingestArtifact, ingestArtifact_accepted draws h] at hadds
    refine hadds.1.changesOnly.added hunused.node
      (v := GraphState.newNode (draws 0).id (draws 0).now request.plan.node) ?_
    exact (congrArg (AList.lookup (draws 0).id) (s.nodes_ingested draws request.plan)).trans
      (AList.lookup_insert _)
  | sqlx t =>
    obtain ⟨hne, hread, hfault, hlabel, hproperties, href⟩ := h
    obtain ⟨node, row, hcreate, htenant⟩ :=
      SqlxGraphRepository.createNode_stores hunused hlabel hproperties href
    have hnodes : ((t.ingestArtifact faults draws request).2).nodes =
        t.nodes.insert (draws 0).id row := by
      rw [SqlxGraphRepository.ingestArtifact, if_neg (by simpa using hne), hread]
      dsimp only
      rw [hcreate]
      match hnode : faults.node with
      | some (.before e) => exact absurd hnode (hfault e)
      | some (.after e) => rfl
      | none => exact SqlxGraphRepository.nodes_createEdges ..
    have hlookup : ((t.ingestArtifact faults draws request).2).nodes.lookup (draws 0).id =
        some row := by
      rw [hnodes]
      exact AList.lookup_insert _
    exact htenant ▸ hadds.nodes.changesOnly.added hunused hlookup

end Node

/-- Without a pool, the graph is as the plain ingestion leaves it. -/
theorem graph_ingestPlain (run : IngestRun) (request : ArtifactIngestBody) (w : IngestWorld) :
    (ingestPlain run request w).2.graph =
      (w.graph.ingestArtifact run.faults run.draws request.toArtifactIngestRequest).2 := by
  rw [ingestPlain]
  split
  · next hingest => rw [hingest]
  · next hingest =>
    rw [hingest, recordSideEffect]
    split
    · rfl
    split <;> rfl

end IntentRebase
