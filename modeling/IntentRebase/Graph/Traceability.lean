import IntentRebase.Graph.Ingestion

/-! Runs of ingestions and repository calls, and what they keep: every artifact depends on an intent
version of its own tenant and workflow, and no edge leaves its tenant or workflow. -/

namespace IntentRebase

open Kit

/-- What is done to the graph: an ingestion, or a call on the repository. -/
inductive GraphEvent where
  | ingest (draws : Nat → Draw) (request : IngestRequest)
  | call (call : GraphCall)

/-- The same type, tenant and workflow. -/
def GraphNode.SameKind (n n' : GraphNode) : Prop :=
  n'.nodeType = n.nodeType ∧ n'.tenantId = n.tenantId ∧ n'.workflowId = n.workflowId

theorem GraphNode.SameKind.refl (n : GraphNode) : n.SameKind n := ⟨rfl, rfl, rfl⟩

namespace GraphEvent

def perform : GraphEvent → GraphEffect Unit
  | ingest draws request => discard (request.perform draws)
  | call c => c.perform

/-- The identifiers that are drawn are new. -/
def Fresh (s : GraphState) : GraphEvent → Prop
  | ingest draws request => s.FreshDraws draws request.plan
  | call c => c.Fresh s

/-- The event, successful or not, takes one state to the other. -/
def Step (s : GraphState) (event : GraphEvent) (s' : GraphState) : Prop :=
  event.Fresh s ∧ (event.perform.on s).2 = s'

variable {s s' : GraphState} {event : GraphEvent}

/-- All that an event can do to the state. -/
theorem Step.cases (h : Step s event s') :
    s' = s ∨
    (∃ draws request, event = .ingest draws request ∧ request.plan.validate s = .ok () ∧
      s.FreshDraws draws request.plan ∧ s' = s.ingested draws request.plan) ∨
    (∃ draw request, event = .call (.createNode draw request) ∧
      s.nodes.lookup draw.id = none ∧ s' = (s.createNode draw.id draw.now request).2) ∨
    (∃ id state node, event = .call (.updateNodeState id state) ∧
      s.updateNodeState id state = .ok (node, s')) ∨
    (∃ draw request edge, event = .call (.createEdge draw request) ∧
      s.edges.lookup draw.id = none ∧ s.createEdge draw.id draw.now request = .ok (edge, s')) ∨
    ∃ id, event = .call (.deleteEdge id) ∧ s.deleteEdge id = .ok s' := by
  obtain ⟨hfresh, rfl⟩ := h
  cases event with
  | ingest draws request =>
    have hon : ((ingest draws request).perform.on s).2 = ((request.perform draws).on s).2 :=
      GraphCall.on_discard _ s
    rw [hon]
    rcases ingest_cases s draws request with ⟨e, he⟩ | ⟨hvalid, hstate⟩
    · exact .inl (by rw [he])
    · exact .inr (.inl ⟨draws, request, rfl, hvalid, hfresh, hstate⟩)
  | call c =>
    rcases GraphCall.perform_cases s c with
      hsame | ⟨draw, request, rfl, hnode⟩ | ⟨id, state, node, rfl, hstate⟩ |
      ⟨draw, request, edge, rfl, hedge⟩ | ⟨id, rfl, hdelete⟩
    · exact .inl hsame
    · exact .inr (.inr (.inl ⟨draw, request, rfl, hfresh, hnode⟩))
    · exact .inr (.inr (.inr (.inl ⟨id, state, node, rfl, hstate⟩)))
    · exact .inr (.inr (.inr (.inr (.inl ⟨draw, request, edge, rfl, hfresh, hedge⟩))))
    · exact .inr (.inr (.inr (.inr (.inr ⟨id, rfl, hdelete⟩))))

theorem Step.consistent (h : Step s event s') (hs : s.Consistent) : s'.Consistent := by
  rcases h.cases with rfl | ⟨draws, request, _, hvalid, hfresh, rfl⟩ |
    ⟨draw, request, _, hfresh, rfl⟩ | ⟨id, state, node, _, hstate⟩ |
    ⟨draw, request, edge, _, hfresh, hedge⟩ | ⟨id, _, hdelete⟩
  · exact hs
  · exact hs.ingested hfresh (request.linkScoped hvalid (draws 0).id)
  · exact hs.createNode hfresh draw.now request
  · exact hs.updateNodeState hstate
  · exact hs.createEdge hfresh hedge
  · exact hs.deleteEdge hdelete

/-- What holds of the indices holds after any events. -/
theorem consistent_of_run {events : List GraphEvent} (h : Run Step s events s')
    (hs : s.Consistent) : s'.Consistent :=
  h.always (fun _ _ _ hstep hc => hstep.consistent hc) hs

/-- A successful ingestion is an event. -/
theorem step_ingest {draws : Nat → Draw} {request : IngestRequest} {item : IngestorResult}
    (hfresh : s.FreshDraws draws request.plan)
    (h : (request.perform draws).on s = (.ok item, s')) : Step s (.ingest draws request) s' :=
  ⟨hfresh, by rw [perform, GraphCall.on_discard, h]⟩

/-- No event removes a node or changes its type or scope. -/
theorem Step.node_kept (h : Step s event s') {v : Uuid} {n : GraphNode}
    (hn : s.nodes.lookup v = some n) : ∃ n', s'.nodes.lookup v = some n' ∧ n.SameKind n' := by
  have hinsert : ∀ {id : Uuid} {new : GraphNode}, s.nodes.lookup id = none →
      (s.nodes.insert id new).lookup v = some n := by
    intro id new hfresh
    have hne : v ≠ id := by
      rintro rfl
      rw [hfresh] at hn
      cases hn
    rw [lookup_insert_eq, if_neg hne, hn]
  rcases h.cases with rfl | ⟨draws, request, _, _, hfresh, rfl⟩ |
    ⟨draw, request, _, hfresh, rfl⟩ | ⟨id, state, node, _, hstate⟩ |
    ⟨draw, request, edge, _, _, hedge⟩ | ⟨id, _, hdelete⟩
  · exact ⟨n, hn, .refl n⟩
  · refine ⟨n, ?_, .refl n⟩
    rw [GraphState.nodes_ingested]
    exact hinsert hfresh.node
  · exact ⟨n, hinsert hfresh, .refl n⟩
  · obtain ⟨old, hold, rfl, rfl⟩ := GraphState.updateNodeState_ok hstate
    by_cases hv : v = id
    · subst hv
      obtain rfl := Option.some.inj (hold.symm.trans hn)
      exact ⟨{ old with state }, AList.lookup_insert _, rfl, rfl, rfl⟩
    · exact ⟨n, by rw [lookup_insert_eq, if_neg hv, hn], .refl n⟩
  · obtain ⟨_, _, _, rfl⟩ := GraphState.createEdge_ok hedge
    exact ⟨n, hn, .refl n⟩
  · obtain ⟨edge, _, rfl⟩ := GraphState.deleteEdge_ok hdelete
    exact ⟨n, hn, .refl n⟩

theorem Step.mem_nodes (h : Step s event s') {v : Uuid} (hv : v ∈ s.nodes) : v ∈ s'.nodes := by
  obtain ⟨n, hn⟩ := mem_iff_lookup.mp hv
  obtain ⟨n', hn', _⟩ := h.node_kept hn
  exact mem_iff_lookup.mpr ⟨n', hn'⟩

/-- A node was there before the event, or the event has created it. -/
theorem Step.node_origin (h : Step s event s') {v : Uuid} {n' : GraphNode}
    (hn : s'.nodes.lookup v = some n') :
    (∃ n, s.nodes.lookup v = some n ∧ n.SameKind n') ∨
    (∃ draws request, event = .ingest draws request ∧ request.plan.validate s = .ok () ∧
      s.FreshDraws draws request.plan ∧ s' = s.ingested draws request.plan ∧ v = (draws 0).id ∧
      n' = GraphState.newNode (draws 0).id (draws 0).now request.plan.node) ∨
    ∃ draw request, event = .call (.createNode draw request) ∧
      n' = GraphState.newNode draw.id draw.now request := by
  rcases h.cases with rfl | ⟨draws, request, rfl, hvalid, hfresh, rfl⟩ |
    ⟨draw, request, rfl, _, rfl⟩ | ⟨id, state, node, _, hstate⟩ |
    ⟨draw, request, edge, _, _, hedge⟩ | ⟨id, _, hdelete⟩
  · exact .inl ⟨n', hn, .refl n'⟩
  · rw [GraphState.nodes_ingested, lookup_insert_eq] at hn
    split at hn
    · next hv =>
      exact .inr (.inl ⟨draws, request, rfl, hvalid, hfresh, rfl, hv, (Option.some.inj hn).symm⟩)
    · exact .inl ⟨n', hn, .refl n'⟩
  · rw [GraphState.createNode, lookup_insert_eq] at hn
    split at hn
    · exact .inr (.inr ⟨draw, request, rfl, (Option.some.inj hn).symm⟩)
    · exact .inl ⟨n', hn, .refl n'⟩
  · obtain ⟨old, hold, rfl, rfl⟩ := GraphState.updateNodeState_ok hstate
    rw [lookup_insert_eq] at hn
    split at hn
    · next hv =>
      obtain rfl := Option.some.inj hn
      exact .inl ⟨old, by rw [hv, hold], rfl, rfl, rfl⟩
    · exact .inl ⟨n', hn, .refl n'⟩
  · obtain ⟨_, _, _, rfl⟩ := GraphState.createEdge_ok hedge
    exact .inl ⟨n', hn, .refl n'⟩
  · obtain ⟨edge, _, rfl⟩ := GraphState.deleteEdge_ok hdelete
    exact .inl ⟨n', hn, .refl n'⟩

/-- Only its deletion removes an edge. -/
theorem Step.edge_kept (h : Step s event s') {id : Uuid} {e : GraphEdge}
    (he : s.edges.lookup id = some e) (hkeep : event ≠ .call (.deleteEdge id)) :
    s'.edges.lookup id = some e := by
  rcases h.cases with rfl | ⟨draws, request, _, _, hfresh, rfl⟩ |
    ⟨draw, request, _, _, rfl⟩ | ⟨_, state, node, _, hstate⟩ |
    ⟨draw, request, edge, _, hfresh, hedge⟩ | ⟨other, rfl, hdelete⟩
  · exact he
  · exact (GraphState.lookup_ingested_edge hfresh).mpr (.inl he)
  · exact he
  · obtain ⟨_, _, _, rfl⟩ := GraphState.updateNodeState_ok hstate
    exact he
  · obtain ⟨_, _, rfl, rfl⟩ := GraphState.createEdge_ok hedge
    have hne : id ≠ draw.id := by
      rintro rfl
      rw [hfresh] at he
      cases he
    exact (lookup_insert_eq _ _ _ _).trans ((if_neg hne).trans he)
  · obtain ⟨edge, _, rfl⟩ := GraphState.deleteEdge_ok hdelete
    have hne : id ≠ other := by
      rintro rfl
      exact hkeep rfl
    exact (lookup_erase_eq _ _ _).trans ((if_neg hne).trans he)

/-- An edge was there before the event, or the event has created it. -/
theorem Step.edge_origin (h : Step s event s') {id : Uuid} {e : GraphEdge}
    (he : s'.edges.lookup id = some e) :
    s.edges.lookup id = some e ∨
    (∃ draws request, event = .ingest draws request ∧
      s.FreshDraws draws request.plan ∧
      ∃ r ∈ request.plan.links (draws 0).id, ∃ i, e = GraphState.newEdge (draws i).id
        (draws i).now r) ∨
    ∃ draw request, event = .call (.createEdge draw request) ∧
      e = GraphState.newEdge draw.id draw.now request := by
  rcases h.cases with rfl | ⟨draws, request, rfl, _, hfresh, rfl⟩ |
    ⟨draw, request, _, _, rfl⟩ | ⟨_, state, node, _, hstate⟩ |
    ⟨draw, request, edge, rfl, _, hedge⟩ | ⟨other, _, hdelete⟩
  · exact .inl he
  · rcases (GraphState.lookup_ingested_edge hfresh).mp he with hold | ⟨hnew, _⟩
    · exact .inl hold
    · exact .inr (.inl ⟨draws, request, rfl, hfresh, GraphState.mem_newEdges hnew⟩)
  · exact .inl he
  · obtain ⟨_, _, _, rfl⟩ := GraphState.updateNodeState_ok hstate
    exact .inl he
  · obtain ⟨_, _, rfl, rfl⟩ := GraphState.createEdge_ok hedge
    rw [GraphState.addEdge, lookup_insert_eq] at he
    split at he
    · exact .inr (.inr ⟨draw, request, rfl, (Option.some.inj he).symm⟩)
    · exact .inl he
  · obtain ⟨edge, _, rfl⟩ := GraphState.deleteEdge_ok hdelete
    rw [GraphState.removeEdge, lookup_erase_eq] at he
    split at he
    · cases he
    · exact .inl he

end GraphEvent

namespace GraphState

/-- The artifact depends on an intent version of its tenant and workflow. -/
def DependsOnVersion (s : GraphState) (v : Uuid) (n : GraphNode) : Prop :=
  ∃ id e version, s.edges.lookup id = some e ∧ e.edgeType = .dependsOn ∧ e.fromNodeId = v ∧
    s.nodes.lookup e.toNodeId = some version ∧ version.nodeType = .intentVersion ∧
    version.tenantId = n.tenantId ∧ version.workflowId = n.workflowId

/-- Every artifact can be traced to an intent version. -/
def Traceable (s : GraphState) : Prop :=
  ∀ v n, s.nodes.lookup v = some n → n.nodeType = .artifact → s.DependsOnVersion v n

/-- Both ends of every edge belong to the edge's tenant and workflow. -/
def EdgesScoped (s : GraphState) : Prop :=
  ∀ id e, s.edges.lookup id = some e → s.Scoped e.tenantId e.workflowId e.fromNodeId ∧
    s.Scoped e.tenantId e.workflowId e.toNodeId

theorem Consistent.edgesScoped {s : GraphState} (h : s.Consistent) : s.EdgesScoped :=
  fun id e he => ⟨h.fromNode id e he, h.toNode id e he⟩

theorem Traceable.empty : GraphState.empty.Traceable := fun _ _ h => by cases h

/-- An ingested artifact depends on the intent versions that its request names. -/
theorem dependsOnVersion_ingested {s : GraphState} {draws : Nat → Draw}
    {request : ArtifactIngestRequest} (hvalid : request.plan.validate s = .ok ())
    (hfresh : s.FreshDraws draws request.plan) :
    (s.ingested draws request.plan).DependsOnVersion (draws 0).id
      (newNode (draws 0).id (draws 0).now request.plan.node) := by
  simp only [ArtifactIngestRequest.plan] at hvalid
  split at hvalid
  · cases hvalid
  next hnonempty =>
  cases hversions : request.dependsOnIntentVersions with
  | nil => simp [hversions] at hnonempty
  | cons version rest =>
    have hmem : version ∈ request.dependsOnIntentVersions := by simp [hversions]
    obtain ⟨n, hn, htype, htenant, hworkflow⟩ :=
      checkReference_ok (checkReferences_ok hvalid version hmem)
    obtain ⟨i, hi⟩ := newEdge_mem draws 1 (List.mem_map_of_mem (f := fun intentVersionId =>
      linkRequest request.tenantId request.workflowId (draws 0).id intentVersionId .dependsOn
        "upstream" "IntentVersion") hmem)
    have hne : version ≠ (draws 0).id := by
      rintro rfl
      rw [hfresh.node] at hn
      cases hn
    refine ⟨_, _, n, (lookup_ingested_edge hfresh).mpr (.inr ⟨hi, rfl⟩), rfl, rfl, ?_,
      htype _ rfl, htenant, hworkflow⟩
    rw [nodes_ingested, lookup_insert_eq]
    exact (if_neg hne).trans hn

end GraphState

namespace GraphEvent

variable {s s' : GraphState} {event : GraphEvent}

/-- The event neither deletes an edge nor creates an artifact without its dependencies. -/
def KeepsTraces : GraphEvent → Prop
  | ingest _ _ => True
  | call (.createNode _ request) => request.nodeType ≠ .artifact
  | call (.updateNodeState _ _) => True
  | call (.createEdge _ _) => True
  | call (.deleteEdge _) => False

theorem Step.dependsOnVersion (h : Step s event s') (hkeep : event.KeepsTraces) {v : Uuid}
    {n n' : GraphNode} (hsame : n.SameKind n') (hn : s.DependsOnVersion v n) :
    s'.DependsOnVersion v n' := by
  obtain ⟨id, e, version, he, htype, hfrom, hversion, hkind, htenant, hworkflow⟩ := hn
  have hnot : event ≠ .call (.deleteEdge id) := by
    rintro rfl
    exact hkeep
  obtain ⟨version', hversion', hkind', htenant', hworkflow'⟩ := h.node_kept hversion
  exact ⟨id, e, version', h.edge_kept he hnot, htype, hfrom, hversion', hkind'.trans hkind,
    (htenant'.trans htenant).trans hsame.2.1.symm,
    (hworkflow'.trans hworkflow).trans hsame.2.2.symm⟩

theorem Step.traceable (h : Step s event s') (hkeep : event.KeepsTraces) (hs : s.Traceable) :
    s'.Traceable := by
  intro v n' hn' htype
  rcases h.node_origin hn' with ⟨n, hn, hsame⟩ |
    ⟨draws, request, _, hvalid, hfresh, rfl, rfl, rfl⟩ | ⟨draw, request, rfl, rfl⟩
  · exact h.dependsOnVersion hkeep hsame (hs v n hn (hsame.1.symm.trans htype))
  · cases request with
    | artifact request => exact GraphState.dependsOnVersion_ingested hvalid hfresh
    | approval request => cases htype
    | sideEffect request => cases htype
  · exact absurd htype hkeep

/-- What a run of ingestions keeps. -/
theorem run_traceable {events : List GraphEvent} (h : Run Step s events s')
    (hkeep : ∀ event ∈ events, event.KeepsTraces) (hs : s.Consistent ∧ s.Traceable) :
    s'.Consistent ∧ s'.Traceable := by
  have hstep : ∀ (s : GraphState) (event : GraphEvent) (s' : GraphState), event.KeepsTraces →
      Step s event s' → s.Consistent ∧ s.Traceable → s'.Consistent ∧ s'.Traceable :=
    fun _ _ _ hallowed hstep hinv =>
      ⟨hstep.consistent hinv.1, hstep.traceable hallowed hinv.2⟩
  exact (h.invariant hstep hkeep hs :)

end GraphEvent

/-- An ingestion that fails leaves the graph as it was, and runs of ingestions keep every artifact
traceable and every edge within its tenant and workflow. -/
theorem ingestion_atomic :
    (∀ s draws request e s', (IngestRequest.perform draws request).on s = (.error e, s') →
      s' = s) ∧
    (∀ s draw request e s', (InMemoryGraphRepository.createNode draw request).on s =
      (.error e, s') → s' = s) ∧
    ∀ s events s', s.Consistent → s.Traceable → Run GraphEvent.Step s events s' →
      (∀ event ∈ events, event.KeepsTraces) → s'.Traceable ∧ s'.EdgesScoped := by
  refine ⟨fun s draws request e s' h => ?_, fun s draw request e s' h => ?_,
    fun s events s' hs htrace hrun hkeep => ?_⟩
  · rcases ingest_cases s draws request with ⟨e', he'⟩ | ⟨hvalid, _⟩
    · rw [he'] at h
      exact (Prod.mk.inj h).2.symm
    · rw [ingest_accepted hvalid] at h
      cases h
  · rw [InMemoryGraphRepository.createNode_on] at h
    cases h
  · obtain ⟨hs', htrace'⟩ := GraphEvent.run_traceable hrun hkeep ⟨hs, htrace⟩
    exact ⟨htrace', hs'.edgesScoped⟩

section Sample

/-- Consecutive identifiers. -/
def Draw.from (base : Nat) (i : Nat) : Draw := ⟨Fin.ofNat (2 ^ 128) (base + i), 0⟩

/-- An artifact of tenant 0 and workflow 0 that depends on the given intent versions. -/
def sampleArtifact (versions : List Uuid) : IngestRequest :=
  .artifact
    { tenantId := 0, workflowId := 0, externalRef := ⟨.artifact, 0⟩, label := ""
      dependsOnIntentVersions := versions, properties := none }

/-- An intent version, an artifact that depends on it, and an artifact that depends on nothing. -/
def sampleEvents : List GraphEvent :=
  [.call (.createNode ⟨1, 0⟩ (GraphStore.plainNode .intentVersion)),
    .ingest (Draw.from 2) (sampleArtifact [1]), .ingest (Draw.from 4) (sampleArtifact [])]

theorem ingestion_atomic_sample :
    ∃ s, Run GraphEvent.Step .empty sampleEvents s ∧ s.Traceable ∧ s.EdgesScoped ∧
      s.nodes.keys = [2, 1] := by
  have hrun : Run GraphEvent.Step .empty sampleEvents _ :=
    .cons ⟨rfl, rfl⟩ (.cons ⟨⟨rfl, by decide, by decide⟩, rfl⟩
      (.cons ⟨⟨rfl, by decide, by decide⟩, rfl⟩ (.nil _)))
  have hkeep : ∀ event ∈ sampleEvents, event.KeepsTraces := by
    simp [sampleEvents, GraphEvent.KeepsTraces, GraphStore.plainNode]
  obtain ⟨htrace, hscoped⟩ := ingestion_atomic.2.2 _ _ _ .empty .empty hrun hkeep
  exact ⟨_, hrun, htrace, hscoped, rfl⟩

end Sample

end IntentRebase
