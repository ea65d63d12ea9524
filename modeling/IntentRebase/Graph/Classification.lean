import IntentRebase.Graph.InMemory
import IntentRebase.Kit.Search

/-! The classification of a change's impact. The search expands a node of no target type each time
it meets it, so its bound is on the depth; it is nevertheless exact: it reports the nodes of the
target types at their distance from the start, each once. -/

namespace IntentRebase

open Kit

/-- An entry of the queue: a node, its depth, and why it is affected. -/
structure ClassifyItem where
  nodeId : Uuid
  depth : Nat
  reason : String

structure ClassifyState where
  visited : List Uuid
  classified : List ClassifiedNode

namespace ClassifyRequest

variable (request : ClassifyRequest)

/-- The rules in force: the request's own, or the default ones. -/
def config : PropagationConfig := request.propagationConfig.getD defaultPropagationConfig

/-- The depth limit: the rules' own if the request brings rules, and the request's otherwise. -/
def depthLimit : Nat :=
  if request.propagationConfig.isSome then (request.config.maxDepth.or request.maxDepth).getD 3
  else request.maxDepth.getD 3

/-- The types that are reported; rules that come with the request override its own list. -/
def targetTypes : Option (List NodeType) :=
  if request.propagationConfig.isSome then some request.config.targetNodeTypes
  else request.targetNodeTypes.or (some request.config.targetNodeTypes)

end ClassifyRequest

/-- The entries for an edge that enters the start. -/
def seedItems (config : PropagationConfig) (edge : GraphEdge) : List ClassifyItem :=
  (if edge.edgeType == .dependsOn && config.traversableEdgeTypes.contains edge.edgeType then
    [{ nodeId := edge.fromNodeId, depth := 1, reason := "directly depends on" }] else []) ++
  (if edge.edgeType == .validatedBy && config.traversableEdgeTypes.contains edge.edgeType then
    [{ nodeId := edge.fromNodeId, depth := 1, reason := "directly validates this version" }]
    else [])

/-- The entry for an edge that enters an affected node. -/
def incomingItem (config : PropagationConfig) (depth : Nat) (edge : GraphEdge) :
    Option ClassifyItem :=
  if edge.edgeType == .dependsOn && config.traversableEdgeTypes.contains edge.edgeType then
    some { nodeId := edge.fromNodeId, depth, reason := "downstream via dependency chain" }
  else none

/-- The entry for an edge that leaves an affected node. -/
def outgoingItem (config : PropagationConfig) (depth : Nat) (edge : GraphEdge) :
    Option ClassifyItem :=
  match edge.edgeType with
  | .triggers =>
    if config.traversableEdgeTypes.contains .triggers then
      some { nodeId := edge.toNodeId, depth, reason := "downstream via triggered" }
    else none
  | .generatedFrom =>
    if config.traversableEdgeTypes.contains .generatedFrom then
      some { nodeId := edge.toNodeId, depth, reason := "downstream via generated from" }
    else none
  | _ => none

variable (s : GraphState) (request : ClassifyRequest)

def enqueuePropagationEdgesWithConfig (config : PropagationConfig) (nodeId : Uuid)
    (currentDepth : Nat) : List ClassifyItem :=
  (s.listEdgesTo nodeId).filterMap (incomingItem config (currentDepth + 1)) ++
    (s.listEdgesFrom nodeId).filterMap (outgoingItem config (currentDepth + 1))

/-- One iteration of the search, for the entry at the front of the queue. -/
def classifyStep (st : ClassifyState) (item : ClassifyItem) :
    Except IntentRebaseError (ClassifyState × List ClassifyItem) :=
  if item.depth > request.depthLimit then .ok (st, [])
  else if item.nodeId ∈ st.visited then .ok (st, [])
  else
    match s.getNode item.nodeId with
    | .error _ => .ok (st, [])
    | .ok node =>
      let next :=
        if item.depth < request.depthLimit then
          enqueuePropagationEdgesWithConfig s request.config item.nodeId item.depth
        else []
      if request.targetTypes.any fun allowedTypes => !allowedTypes.contains node.nodeType then
        .ok (st, next)
      else
        let impact := if item.depth = 1 then .direct else .transitive
        .ok ({ visited := item.nodeId :: st.visited
               classified := st.classified ++ [{ node, impact, reason := item.reason }] }, next)

/-- The nodes that a change of the start node affects. -/
def classifyImpact (fuel : Nat) : Option (Except IntentRebaseError ClassificationResult) :=
  match s.getNode request.startNodeId with
  | .error e => some (.error e)
  | .ok startNode =>
    let queue := (s.listEdgesTo request.startNodeId).flatMap (seedItems request.config)
    (worklist (classifyStep s request) fuel queue { visited := [], classified := [] }).map
      fun result => result.map fun st =>
        { classifiedNodes := st.classified, startNodeId := startNode.id
          maxDepth := request.depthLimit }

/-- The edge is of one of the types, and the rules follow it. -/
def Follows (config : PropagationConfig) (edgeTypes : List EdgeType) (e : GraphEdge) : Prop :=
  e.edgeType ∈ edgeTypes ∧ e.edgeType ∈ config.traversableEdgeTypes

/-- The first step, backwards along an edge that enters the start. -/
def SeedEdge (g : GraphStore) (config : PropagationConfig) (start v : Uuid) : Prop :=
  ∃ e, g.HasEdge e ∧ Follows config [.dependsOn, .validatedBy] e ∧ e.toNodeId = start ∧
    e.fromNodeId = v

/-- A later step, backwards along a dependency or forwards along what is triggered or generated. -/
def PropagationEdge (g : GraphStore) (config : PropagationConfig) (u v : Uuid) : Prop :=
  (∃ e, g.HasEdge e ∧ Follows config [.dependsOn] e ∧ e.toNodeId = u ∧ e.fromNodeId = v) ∨
  ∃ e, g.HasEdge e ∧ Follows config [.triggers, .generatedFrom] e ∧ e.fromNodeId = u ∧
    e.toNodeId = v

/-- The ways along which the impact of a change spreads from the start. -/
def impactSearch (g : GraphStore) (request : ClassifyRequest) : Search Uuid where
  base := 1
  limit := some request.depthLimit
  init := SeedEdge g request.config request.startNodeId
  edge := PropagationEdge g request.config
  ok _ := True

/-- The type is one of those that the request reports. -/
def IsTarget (request : ClassifyRequest) (nodeType : NodeType) : Prop :=
  ∀ allowedTypes ∈ request.targetTypes, nodeType ∈ allowedTypes

/-- The node and depth of an entry of the queue. -/
def ClassifyItem.position (item : ClassifyItem) : Uuid × Nat := (item.nodeId, item.depth)

section Items

variable {g : GraphStore} {config : PropagationConfig} {start u : Uuid} {d : Nat}

theorem follows_one_iff {edgeType : EdgeType} {e : GraphEdge} :
    (e.edgeType == edgeType && config.traversableEdgeTypes.contains e.edgeType) = true ↔
      e.edgeType = edgeType ∧ e.edgeType ∈ config.traversableEdgeTypes := by
  rw [Bool.and_eq_true, beq_iff_eq, List.contains_iff_mem]

theorem mem_seedItems_edge {e : GraphEdge} {i : ClassifyItem} : i ∈ seedItems config e ↔
    (e.edgeType = .dependsOn ∧ e.edgeType ∈ config.traversableEdgeTypes ∧
      i = { nodeId := e.fromNodeId, depth := 1, reason := "directly depends on" }) ∨
    (e.edgeType = .validatedBy ∧ e.edgeType ∈ config.traversableEdgeTypes ∧
      i = { nodeId := e.fromNodeId, depth := 1, reason := "directly validates this version" }) := by
  rw [seedItems, List.mem_append]
  simp only [List.mem_ite_nil_right, List.mem_singleton, follows_one_iff, and_assoc]

theorem mem_seedItems {p : Uuid × Nat} :
    p ∈ ((g.state.listEdgesTo start).flatMap (seedItems config)).map ClassifyItem.position ↔
      p.2 = 1 ∧ SeedEdge g config start p.1 := by
  simp only [List.mem_map, List.mem_flatMap, GraphStore.mem_listEdgesTo]
  constructor
  · rintro ⟨i, ⟨e, ⟨hedge, hto⟩, hi⟩, rfl⟩
    rcases mem_seedItems_edge.mp hi with ⟨htype, hcontains, rfl⟩ | ⟨htype, hcontains, rfl⟩
    · exact ⟨rfl, e, hedge, ⟨by simp [htype], hcontains⟩, hto, rfl⟩
    · exact ⟨rfl, e, hedge, ⟨by simp [htype], hcontains⟩, hto, rfl⟩
  · obtain ⟨v, depth⟩ := p
    rintro ⟨rfl, e, hedge, ⟨htype, hcontains⟩, hto, rfl⟩
    rw [List.mem_cons, List.mem_singleton] at htype
    rcases htype with htype | htype
    · exact ⟨_, ⟨e, ⟨hedge, hto⟩, mem_seedItems_edge.mpr (.inl ⟨htype, hcontains, rfl⟩)⟩, rfl⟩
    · exact ⟨_, ⟨e, ⟨hedge, hto⟩, mem_seedItems_edge.mpr (.inr ⟨htype, hcontains, rfl⟩)⟩, rfl⟩

theorem incomingItem_eq_some {e : GraphEdge} {i : ClassifyItem} :
    incomingItem config d e = some i ↔ Follows config [.dependsOn] e ∧
      i = { nodeId := e.fromNodeId, depth := d, reason := "downstream via dependency chain" } := by
  rw [incomingItem, Follows, List.mem_singleton]
  split
  · next h =>
    rw [and_iff_right (follows_one_iff.mp h), Option.some.injEq, eq_comm]
  · next h =>
    rw [follows_one_iff] at h
    exact iff_of_false (by simp) fun hf => h hf.1

theorem outgoingItem_isSome {e : GraphEdge} {i : ClassifyItem}
    (h : outgoingItem config d e = some i) :
    Follows config [.triggers, .generatedFrom] e ∧ i.position = (e.toNodeId, d) := by
  unfold outgoingItem at h
  split at h
  · next htype =>
    split at h
    · next hcontains =>
      obtain rfl := Option.some.inj h
      exact ⟨⟨by simp [htype], htype ▸ List.contains_iff_mem.mp hcontains⟩, rfl⟩
    · cases h
  · next htype =>
    split at h
    · next hcontains =>
      obtain rfl := Option.some.inj h
      exact ⟨⟨by simp [htype], htype ▸ List.contains_iff_mem.mp hcontains⟩, rfl⟩
    · cases h
  · cases h

theorem outgoingItem_of_follows {e : GraphEdge} (h : Follows config [.triggers, .generatedFrom] e) :
    ∃ i, outgoingItem config d e = some i ∧ i.position = (e.toNodeId, d) := by
  obtain ⟨htype, hcontains⟩ := h
  rw [List.mem_cons, List.mem_singleton] at htype
  unfold outgoingItem
  rcases htype with htype | htype
  · rw [htype] at hcontains ⊢
    simp only [List.contains_iff_mem.mpr hcontains, if_true]
    exact ⟨_, rfl, rfl⟩
  · rw [htype] at hcontains ⊢
    simp only [List.contains_iff_mem.mpr hcontains, if_true]
    exact ⟨_, rfl, rfl⟩

theorem mem_enqueue {p : Uuid × Nat} :
    p ∈ (enqueuePropagationEdgesWithConfig g.state config u d).map ClassifyItem.position ↔
      p.2 = d + 1 ∧ PropagationEdge g config u p.1 := by
  rw [enqueuePropagationEdgesWithConfig, List.map_append, List.mem_append, List.mem_map,
    List.mem_map]
  constructor
  · rintro (⟨i, hi, rfl⟩ | ⟨i, hi, rfl⟩)
    · obtain ⟨e, he, hsome⟩ := List.mem_filterMap.mp hi
      obtain ⟨hedge, hto⟩ := GraphStore.mem_listEdgesTo.mp he
      obtain ⟨hfollows, rfl⟩ := incomingItem_eq_some.mp hsome
      exact ⟨rfl, .inl ⟨e, hedge, hfollows, hto, rfl⟩⟩
    · obtain ⟨e, he, hsome⟩ := List.mem_filterMap.mp hi
      obtain ⟨hedge, hfrom⟩ := GraphStore.mem_listEdgesFrom.mp he
      obtain ⟨hfollows, hpos⟩ := outgoingItem_isSome hsome
      rw [hpos]
      exact ⟨rfl, .inr ⟨e, hedge, hfollows, hfrom, rfl⟩⟩
  · obtain ⟨v, depth⟩ := p
    rintro ⟨rfl, ⟨e, hedge, hfollows, hto, rfl⟩ | ⟨e, hedge, hfollows, hfrom, rfl⟩⟩
    · have he := GraphStore.mem_listEdgesTo.mpr ⟨hedge, hto⟩
      exact .inl ⟨_, List.mem_filterMap.mpr ⟨e, he, incomingItem_eq_some.mpr ⟨hfollows, rfl⟩⟩, rfl⟩
    · have he := GraphStore.mem_listEdgesFrom.mpr ⟨hedge, hfrom⟩
      obtain ⟨i, hi, hpos⟩ := outgoingItem_of_follows (d := d + 1) hfollows
      exact .inr ⟨i, List.mem_filterMap.mpr ⟨e, he, hi⟩, hpos⟩

theorem length_enqueue_le :
    (enqueuePropagationEdgesWithConfig g.state config u d).length ≤
      2 * g.state.edges.keys.length := by
  rw [enqueuePropagationEdgesWithConfig, List.length_append]
  have hto := (List.length_filterMap_le (incomingItem config (d + 1)) _).trans
    (g.length_listEdgesTo_le u)
  have hfrom := (List.length_filterMap_le (outgoingItem config (d + 1)) _).trans
    (g.length_listEdgesFrom_le u)
  omega

end Items

section Search

variable {g : GraphStore} {request : ClassifyRequest}

/-- Whatever a walk reaches is a node. -/
theorem impact_mem_nodes {n : Nat} {v : Uuid} (h : (impactSearch g request).Walk n v) :
    v ∈ g.state.nodes := by
  cases h with
  | init hseed _ =>
    obtain ⟨e, hedge, _, _, rfl⟩ := hseed
    exact hedge.from_mem
  | step _ hpropagates _ =>
    rcases hpropagates with ⟨e, hedge, _, _, rfl⟩ | ⟨e, hedge, _, _, rfl⟩
    · exact hedge.from_mem
    · exact hedge.to_mem

/-- A correct report: a node of a target type, with the impact that its distance gives it. -/
def Affected (g : GraphStore) (request : ClassifyRequest) (c : ClassifiedNode) : Prop :=
  g.state.nodes.lookup c.node.id = some c.node ∧ IsTarget request c.node.nodeType ∧
    ∃ d, (impactSearch g request).Distance c.node.id d ∧ d ≤ request.depthLimit ∧
      c.impact = if d = 1 then .direct else .transitive

/-- The invariant of the search, with the entries `done` expanded. -/
structure ClassifyInv (g : GraphStore) (request : ClassifyRequest) (st : ClassifyState)
    (queue : List ClassifyItem) (done : List (Uuid × Nat)) : Prop where
  explored : (impactSearch g request).Explored done (queue.map ClassifyItem.position)
  visited : st.visited = (st.classified.map fun c => c.node.id).reverse
  nodup : st.visited.Nodup
  affected : ∀ c ∈ st.classified, Affected g request c
  old : ∀ v ∈ st.visited, ∃ d, (v, d) ∈ done
  complete : ∀ v d node, (v, d) ∈ done → g.state.nodes.lookup v = some node →
    IsTarget request node.nodeType → v ∈ st.visited

section Step

variable {st st' : ClassifyState} {item : ClassifyItem} {queue pushed : List ClassifyItem}
  {done : List (Uuid × Nat)}

theorem any_not_target {nodeType : NodeType} :
    (request.targetTypes.any fun allowedTypes => !allowedTypes.contains nodeType) = true ↔
      ¬ IsTarget request nodeType := by
  rw [IsTarget]
  cases request.targetTypes <;> simp

/-- What an iteration does: it skips the entry, or it pushes the entries one step further and
reports the node if its type is a target. -/
theorem classifyStep_cases (h : classifyStep g.state request st item = .ok (st', pushed)) :
    (st' = st ∧ pushed = [] ∧ (request.depthLimit < item.depth ∨ item.nodeId ∈ st.visited ∨
      item.nodeId ∉ g.state.nodes)) ∨
    (item.depth ≤ request.depthLimit ∧ item.nodeId ∉ st.visited ∧
      pushed = (if item.depth < request.depthLimit then
        enqueuePropagationEdgesWithConfig g.state request.config item.nodeId item.depth else []) ∧
      ∃ node, g.state.nodes.lookup item.nodeId = some node ∧
        ((¬ IsTarget request node.nodeType ∧ st' = st) ∨
          (IsTarget request node.nodeType ∧
            st' = { visited := item.nodeId :: st.visited
                    classified := st.classified ++
                      [{ node, impact := if item.depth = 1 then .direct else .transitive
                         reason := item.reason }] }))) := by
  unfold classifyStep at h
  split at h
  · next hdeep =>
    obtain ⟨rfl, rfl⟩ := Prod.mk.inj (Except.ok.inj h)
    exact .inl ⟨rfl, rfl, .inl hdeep⟩
  next hdeep =>
  split at h
  · next hvisited =>
    obtain ⟨rfl, rfl⟩ := Prod.mk.inj (Except.ok.inj h)
    exact .inl ⟨rfl, rfl, .inr (.inl hvisited)⟩
  next hvisited =>
  cases hnode : g.state.getNode item.nodeId with
  | error e =>
    rw [hnode] at h
    obtain ⟨rfl, rfl⟩ := Prod.mk.inj (Except.ok.inj h)
    refine .inl ⟨rfl, rfl, .inr (.inr fun hmem => ?_)⟩
    obtain ⟨node, hlookup⟩ := mem_iff_lookup.mp hmem
    rw [GraphStore.getNode_ok.mpr hlookup] at hnode
    cases hnode
  | ok node =>
    rw [hnode] at h
    dsimp only at h
    have hlookup := GraphStore.getNode_ok.mp hnode
    split at h
    · next hskip =>
      obtain ⟨rfl, rfl⟩ := Prod.mk.inj (Except.ok.inj h)
      exact .inr ⟨by omega, hvisited, rfl, node, hlookup, .inl ⟨any_not_target.mp hskip, rfl⟩⟩
    · next htarget =>
      obtain ⟨rfl, rfl⟩ := Prod.mk.inj (Except.ok.inj h)
      exact .inr ⟨by omega, hvisited, rfl, node, hlookup,
        .inr ⟨not_not.mp (mt any_not_target.mpr htarget), rfl⟩⟩

theorem ClassifyInv.skip (h : ClassifyInv g request st (item :: queue) done)
    (hskip : request.depthLimit < item.depth ∨ item.nodeId ∈ st.visited ∨
      item.nodeId ∉ g.state.nodes) : ClassifyInv g request st queue done := by
  refine { h with explored := h.explored.drop ?_ }
  rcases hskip with hdeep | hvisited | hmissing
  · refine .inr (.inl fun hin => ?_)
    have := hin request.depthLimit rfl
    have : item.position.2 = item.depth := rfl
    omega
  · exact .inr (.inr (h.old _ hvisited))
  · exact absurd (impact_mem_nodes (h.explored.queueWalk item.position List.mem_cons_self trivial))
      hmissing

/-- Expanding an entry keeps what the search has explored. -/
theorem ClassifyInv.expand (h : ClassifyInv g request st (item :: queue) done)
    (hpushed : pushed = if item.depth < request.depthLimit then
      enqueuePropagationEdgesWithConfig g.state request.config item.nodeId item.depth else []) :
    (impactSearch g request).Explored (done ++ [item.position])
      ((queue ++ pushed).map ClassifyItem.position) := by
  rw [List.map_append]
  refine h.explored.visit trivial (fun p hp => ?_) fun hin y hedge _ => ?_
  · rw [hpushed] at hp
    split at hp
    · exact mem_enqueue.mp hp
    · cases hp
  · have hlt : item.depth + 1 ≤ request.depthLimit := hin request.depthLimit rfl
    rw [hpushed, if_pos (by omega)]
    exact .inl (mem_enqueue.mpr ⟨rfl, hedge⟩)

/-- An entry that is not skipped is explored, and its node reported if its type is a target. -/
theorem ClassifyInv.take (h : ClassifyInv g request st (item :: queue) done)
    (hdeep : item.depth ≤ request.depthLimit) (hvisited : item.nodeId ∉ st.visited)
    (hpushed : pushed = if item.depth < request.depthLimit then
      enqueuePropagationEdgesWithConfig g.state request.config item.nodeId item.depth else [])
    {node : GraphNode} (hlookup : g.state.nodes.lookup item.nodeId = some node)
    (hreport : (¬ IsTarget request node.nodeType ∧ st' = st) ∨
      (IsTarget request node.nodeType ∧
        st' = { visited := item.nodeId :: st.visited
                classified := st.classified ++
                  [{ node, impact := if item.depth = 1 then .direct else .transitive
                     reason := item.reason }] })) :
    ClassifyInv g request st' (queue ++ pushed) (done ++ [item.position]) := by
  have hexpand := h.expand hpushed
  have hid : node.id = item.nodeId := g.consistent.nodeId _ _ hlookup
  rcases hreport with ⟨hother, rfl⟩ | ⟨htarget, rfl⟩
  · refine ⟨hexpand, h.visited, h.nodup, h.affected, fun v hv => ?_, ?_⟩
    · obtain ⟨d, hd⟩ := h.old v hv
      exact ⟨d, List.mem_append_left _ hd⟩
    · intro v d node' hmem hlookup' htarget'
      rcases List.mem_append.mp hmem with hmem | hmem
      · exact h.complete v d node' hmem hlookup' htarget'
      · obtain ⟨rfl, rfl⟩ := Prod.mk.inj (List.mem_singleton.mp hmem)
        obtain rfl := Option.some.inj (hlookup.symm.trans hlookup')
        exact absurd htarget' hother
  · have hnew : ∀ e, (item.nodeId, e) ∉ done := fun e he =>
      hvisited (h.complete _ e node he hlookup htarget)
    have hdistance : (impactSearch g request).Distance item.nodeId item.depth :=
      h.explored.head_distance trivial (fun m hm => Option.some.inj hm ▸ hdeep) hnew
    refine ⟨hexpand, ?_, List.nodup_cons.mpr ⟨hvisited, h.nodup⟩, ?_, fun v hv => ?_, ?_⟩
    · rw [h.visited, List.map_append, List.reverse_append, List.map_singleton, hid]
      rfl
    · intro c hc
      rcases List.mem_append.mp hc with hc | hc
      · exact h.affected c hc
      · obtain rfl := List.mem_singleton.mp hc
        exact ⟨by rw [hid, hlookup], htarget, item.depth, hid ▸ hdistance, hdeep, rfl⟩
    · rcases List.mem_cons.mp hv with rfl | hv
      · exact ⟨item.depth, by simp [ClassifyItem.position]⟩
      · obtain ⟨d, hd⟩ := h.old v hv
        exact ⟨d, List.mem_append_left _ hd⟩
    · intro v d node' hmem hlookup' htarget'
      rcases List.mem_append.mp hmem with hmem | hmem
      · exact List.mem_cons_of_mem _ (h.complete v d node' hmem hlookup' htarget')
      · obtain ⟨rfl, rfl⟩ := Prod.mk.inj (List.mem_singleton.mp hmem)
        exact List.mem_cons_self

theorem ClassifyInv.step (h : ClassifyInv g request st (item :: queue) done)
    (hstep : classifyStep g.state request st item = .ok (st', pushed)) :
    ∃ done', ClassifyInv g request st' (queue ++ pushed) done' := by
  rcases classifyStep_cases hstep with
    ⟨rfl, rfl, hskip⟩ | ⟨hdeep, hvisited, hpushed, node, hlookup, hreport⟩
  · exact ⟨done, by simpa using h.skip hskip⟩
  · exact ⟨_, h.take hdeep hvisited hpushed hlookup hreport⟩

theorem ClassifyInv.initial (g : GraphStore) (request : ClassifyRequest) :
    ClassifyInv g request { visited := [], classified := [] }
      ((g.state.listEdgesTo request.startNodeId).flatMap (seedItems request.config)) [] := by
  have hseed : ∀ p ∈ ((g.state.listEdgesTo request.startNodeId).flatMap
      (seedItems request.config)).map ClassifyItem.position,
      p.2 = 1 ∧ SeedEdge g request.config request.startNodeId p.1 := fun p hp => mem_seedItems.mp hp
  refine ⟨⟨by simp, ?_, ?_, by simp, ?_, ?_⟩, rfl, List.nodup_nil, by simp, by simp, by simp⟩
  · intro p hp _
    obtain ⟨hdepth, hedge⟩ := hseed p hp
    rw [hdepth]
    exact .init hedge trivial
  · intro v hinit _ _
    exact ⟨1, le_rfl, mem_seedItems.mpr ⟨rfl, hinit⟩⟩
  · refine List.pairwise_of_forall_mem_list fun a ha b hb => ?_
    obtain ⟨p, hp, rfl⟩ := List.mem_map.mp ha
    obtain ⟨q, hq, rfl⟩ := List.mem_map.mp hb
    exact ((hseed p hp).1.trans (hseed q hq).1.symm).le
  · intro p hp q hq
    rw [(hseed p hp).1, (hseed q hq).1]
    exact Nat.le_succ 1

/-- The iterations left, at most: each entry of the queue stands for all that can follow from it. -/
def classifyMeasure (s : GraphState) (request : ClassifyRequest) (queue : List ClassifyItem) :
    Nat :=
  (queue.map fun i => depthWork (2 * s.edges.keys.length) request.depthLimit i.depth).sum

theorem classifyMeasure_lt (h : classifyStep g.state request st item = .ok (st', pushed)) :
    classifyMeasure g.state request (queue ++ pushed) <
      classifyMeasure g.state request (item :: queue) := by
  have hlt : (pushed.map fun i =>
      depthWork (2 * g.state.edges.keys.length) request.depthLimit i.depth).sum <
      depthWork (2 * g.state.edges.keys.length) request.depthLimit item.depth := by
    have hnil : 0 < depthWork (2 * g.state.edges.keys.length) request.depthLimit item.depth :=
      depthWork_pos _ _ _
    rcases classifyStep_cases h with ⟨_, rfl, _⟩ | ⟨_, _, rfl, _⟩
    · exact hnil
    · split
      · next hdepth =>
        have hsame : ∀ i ∈ enqueuePropagationEdgesWithConfig g.state request.config item.nodeId
            item.depth, i.depth = item.depth + 1 := fun i hi =>
          (mem_enqueue.mp (List.mem_map_of_mem (f := ClassifyItem.position) hi)).1
        rw [List.map_congr_left fun i hi => by rw [hsame i hi], List.map_const',
          List.sum_replicate_nat]
        exact depthWork_lt length_enqueue_le hdepth
      · exact hnil
  rw [classifyMeasure, classifyMeasure, List.map_append, List.sum_append, List.map_cons,
    List.sum_cons]
  omega

end Step

end Search

/-- The report holds exactly the nodes of the target types within the depth limit, each once, as
directly affected if it is at distance 1 and as transitively affected otherwise. -/
structure ExactClassification (g : GraphStore) (request : ClassifyRequest)
    (result : ClassificationResult) : Prop where
  nodup : (result.classifiedNodes.map fun c => c.node.id).Nodup
  mem : ∀ v, v ∈ result.classifiedNodes.map (fun c => c.node.id) ↔
    ∃ node d, g.state.nodes.lookup v = some node ∧ IsTarget request node.nodeType ∧
      (impactSearch g request).Distance v d ∧ 1 ≤ d ∧ d ≤ request.depthLimit
  impact : ∀ c ∈ result.classifiedNodes, g.state.nodes.lookup c.node.id = some c.node ∧
    ∃ d, (impactSearch g request).Distance c.node.id d ∧
      c.impact = if d = 1 then .direct else .transitive

/-- The iterations of a classification, at most. -/
def classifyBound (s : GraphState) (request : ClassifyRequest) : Nat :=
  classifyMeasure s request
    ((s.listEdgesTo request.startNodeId).flatMap (seedItems request.config))

/-- The search ends within its bound with an exact report, by its invariant and measure. -/
theorem classifyImpact_report (g : GraphStore) (request : ClassifyRequest)
    (hstart : request.startNodeId ∈ g.state.nodes) :
    ∃ result, ExactClassification g request result ∧ ∀ fuel, classifyBound g.state request < fuel →
      classifyImpact g.state request fuel = some (.ok result) := by
  obtain ⟨startNode, hnode⟩ := mem_iff_lookup.mp hstart
  obtain ⟨result, hrun, hpost⟩ := worklist_spec
    (classifyStep g.state request) (fun _ queue => classifyMeasure g.state request queue)
    (fun st queue => ∃ done, ClassifyInv g request st queue done) (fun _ => False)
    (fun st item queue st' pushed hinv hstep => by
      obtain ⟨done, h⟩ := hinv
      exact ⟨h.step hstep, classifyMeasure_lt hstep⟩)
    (fun st item queue r _ herror => by
      unfold classifyStep at herror
      repeat' split at herror
      all_goals cases herror)
    ⟨_, ClassifyInv.initial g request⟩
  obtain ⟨st, rfl, done, h⟩ | ⟨_, _, hfalse⟩ := hpost
  swap
  · exact hfalse.elim
  have hids : st.classified.map (fun c => c.node.id) = st.visited.reverse := by
    rw [h.visited, List.reverse_reverse]
  refine ⟨{ classifiedNodes := st.classified, startNodeId := startNode.id
            maxDepth := request.depthLimit }, ⟨?_, fun v => ?_, ?_⟩, fun fuel hfuel => ?_⟩
  · rw [hids]
    exact List.nodup_reverse.mpr h.nodup
  · constructor
    · intro hv
      obtain ⟨c, hc, rfl⟩ := List.mem_map.mp hv
      obtain ⟨hlookup, htarget, d, hdistance, hle, _⟩ := h.affected c hc
      exact ⟨c.node, d, hlookup, htarget, hdistance, hdistance.walk.base_le, hle⟩
    · rintro ⟨node, d, hlookup, htarget, hdistance, _, hle⟩
      obtain ⟨e, _, hdone⟩ := h.explored.complete hdistance.walk
        fun m hm => Option.some.inj hm ▸ hle
      rw [hids, List.mem_reverse]
      exact h.complete v e node hdone hlookup htarget
  · intro c hc
    obtain ⟨hlookup, _, d, hdistance, _, himpact⟩ := h.affected c hc
    exact ⟨hlookup, d, hdistance, himpact⟩
  · rw [classifyImpact, GraphStore.getNode_ok.mpr hnode]
    simp only [hrun fuel hfuel]
    rfl

/-- `classifyImpact` ends, and its report is exact. -/
theorem classifyImpact_exact (g : GraphStore) (request : ClassifyRequest)
    (hstart : request.startNodeId ∈ g.state.nodes) :
    ∃ result, ExactClassification g request result ∧ ∃ bound, ∀ fuel, bound < fuel →
      classifyImpact g.state request fuel = some (.ok result) := by
  obtain ⟨result, hexact, hruns⟩ := classifyImpact_report g request hstart
  exact ⟨result, hexact, classifyBound g.state request, hruns⟩

theorem classifyImpact_exact_line :
    ∃ result, ExactClassification GraphStore.line { startNodeId := 3 } result ∧
      ∃ bound, ∀ fuel, bound < fuel →
        classifyImpact GraphStore.line.state { startNodeId := 3 } fuel = some (.ok result) :=
  classifyImpact_exact GraphStore.line { startNodeId := 3 } (by decide)

end IntentRebase
