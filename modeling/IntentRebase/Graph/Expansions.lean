import IntentRebase.Graph.Classification

/-! How often the classification enqueues the edges of a node. Only the nodes of the target types
are remembered, so a node of another type is expanded for every entry of it, and the iterations are
bounded by the edges exactly if no such node has two entries. -/

namespace IntentRebase

open Kit

instance (config : PropagationConfig) (edgeTypes : List EdgeType) (e : GraphEdge) :
    Decidable (Follows config edgeTypes e) :=
  inferInstanceAs (Decidable (_ ∧ _))

section Trace

variable (s : GraphState) (request : ClassifyRequest)

/-- The entries that the search starts with. -/
def seedQueue : List ClassifyItem :=
  (s.listEdgesTo request.startNodeId).flatMap (seedItems request.config)

/-- The iteration enqueues the edges of its node. -/
def Expands (st : ClassifyState) (item : ClassifyItem) : Bool :=
  decide (item.depth < request.depthLimit) && decide (item.nodeId ∉ st.visited) &&
    (s.nodes.lookup item.nodeId).isSome

/-- The iterations of the search. -/
def classifyTrace (fuel : Nat) : List (ClassifyState × ClassifyItem) :=
  match s.getNode request.startNodeId with
  | .error _ => []
  | .ok _ =>
    worklistTrace (classifyStep s request) fuel (seedQueue s request)
      { visited := [], classified := [] }

/-- The iterations that enqueue edges. -/
def expanding (past : List (ClassifyState × ClassifyItem)) : List (ClassifyState × ClassifyItem) :=
  past.filter fun p => Expands s request p.1 p.2

/-- The nodes whose edges are enqueued, one after another. -/
def classifyExpansions (fuel : Nat) : List Uuid :=
  (expanding s request (classifyTrace s request fuel)).map fun p => p.2.nodeId

/-- The edges of every node are enqueued once at most, and the search ends after as many iterations
as there are edges and entries at the start. -/
structure ExpandsOnce : Prop where
  nodup : ∀ fuel, (classifyExpansions s request fuel).Nodup
  ends : (classifyImpact s request
    (s.edges.keys.length + (seedQueue s request).length)).isSome

/-- How many edges start the search at the node, if it can be expanded there. -/
def seedArrivals (v : Uuid) : Nat :=
  if 1 < request.depthLimit then
    (s.listEdgesTo request.startNodeId).countP fun e =>
      Follows request.config [.dependsOn, .validatedBy] e ∧ e.fromNodeId = v
  else 0

/-- How many edges the impact spreads along from one node to another. -/
def spreads (u v : Uuid) : Nat :=
  ((s.listEdgesTo u).countP fun e =>
    Follows request.config [.dependsOn] e ∧ e.fromNodeId = v) +
  (s.listEdgesFrom u).countP fun e =>
    Follows request.config [.triggers, .generatedFrom] e ∧ e.toNodeId = v

end Trace

/-- One edge at most leads to the node before the depth limit: from the start, or from the nodes at
a distance of two or more below the limit. -/
def OneArrival (g : GraphStore) (request : ClassifyRequest) (v : Uuid) : Prop :=
  ∀ us : List Uuid, us.Nodup →
    (∀ u ∈ us, ∃ d, (impactSearch g request).Distance u d ∧ d + 1 < request.depthLimit) →
    seedArrivals g.state request v + (us.map fun u => spreads g.state request u v).sum ≤ 1

/-- One edge at most leads to each node of no target type. -/
def OthersArriveOnce (g : GraphStore) (request : ClassifyRequest) : Prop :=
  ∀ v node, g.state.nodes.lookup v = some node → ¬ IsTarget request node.nodeType →
    OneArrival g request v

section Enqueue

variable {g : GraphStore} {request : ClassifyRequest} {st st' : ClassifyState}
  {item : ClassifyItem} {pushed : List ClassifyItem}

theorem expands_eq_true : Expands g.state request st item = true ↔
    item.depth < request.depthLimit ∧ item.nodeId ∉ st.visited ∧ item.nodeId ∈ g.state.nodes := by
  rw [Expands, Bool.and_eq_true, Bool.and_eq_true, decide_eq_true_eq, decide_eq_true_eq, and_assoc,
    Option.isSome_iff_exists, ← mem_iff_lookup]

/-- A skipped entry is not expanded. -/
theorem expands_eq_false (h : request.depthLimit < item.depth ∨ item.nodeId ∈ st.visited ∨
    item.nodeId ∉ g.state.nodes) : Expands g.state request st item = false := by
  rw [← Bool.not_eq_true, expands_eq_true]
  rintro ⟨hdepth, hvisited, hmem⟩
  rcases h with hdeep | hold | hmissing
  · omega
  · exact hvisited hold
  · exact hmissing hmem

/-- The entries for the edges of a node do not depend on the depth, but for theirs. -/
theorem enqueue_nodeIds (s : GraphState) (config : PropagationConfig) (u : Uuid) (d : Nat) :
    (enqueuePropagationEdgesWithConfig s config u d).map ClassifyItem.nodeId =
      (enqueuePropagationEdgesWithConfig s config u 0).map ClassifyItem.nodeId := by
  have hincoming : ∀ e, (incomingItem config (d + 1) e).map ClassifyItem.nodeId =
      (incomingItem config 1 e).map ClassifyItem.nodeId := by
    intro e
    unfold incomingItem
    split <;> rfl
  have houtgoing : ∀ e, (outgoingItem config (d + 1) e).map ClassifyItem.nodeId =
      (outgoingItem config 1 e).map ClassifyItem.nodeId := by
    intro e
    unfold outgoingItem
    repeat' split
    all_goals rfl
  simp only [enqueuePropagationEdgesWithConfig, List.map_append, List.map_filterMap, hincoming,
    houtgoing, Nat.zero_add]

/-- The entries of one node among those for the edges of another are one for each edge between. -/
theorem enqueue_countP (s : GraphState) (request : ClassifyRequest) (u v : Uuid) (d : Nat) :
    (enqueuePropagationEdgesWithConfig s request.config u d).countP
      (fun item => item.nodeId = v) = spreads s request u v := by
  have hincoming : ∀ e, (((incomingItem request.config (d + 1) e).map
      fun item => decide (item.nodeId = v)).getD false) = true ↔
        decide (Follows request.config [.dependsOn] e ∧ e.fromNodeId = v) = true := by
    intro e
    rw [decide_eq_true_eq]
    cases hitem : incomingItem request.config (d + 1) e with
    | none =>
      refine iff_of_false (by simp) fun h => ?_
      rw [incomingItem_eq_some.mpr ⟨h.1, rfl⟩] at hitem
      cases hitem
    | some item =>
      obtain ⟨hfollows, rfl⟩ := incomingItem_eq_some.mp hitem
      rw [Option.map_some, Option.getD_some, decide_eq_true_eq, and_iff_right hfollows]
  have houtgoing : ∀ e, (((outgoingItem request.config (d + 1) e).map
      fun item => decide (item.nodeId = v)).getD false) = true ↔
        decide (Follows request.config [.triggers, .generatedFrom] e ∧ e.toNodeId = v) = true := by
    intro e
    rw [decide_eq_true_eq]
    cases hitem : outgoingItem request.config (d + 1) e with
    | none =>
      refine iff_of_false (by simp) fun h => ?_
      obtain ⟨item, hsome, -⟩ := outgoingItem_of_follows (d := d + 1) h.1
      rw [hsome] at hitem
      cases hitem
    | some item =>
      obtain ⟨hfollows, hposition⟩ := outgoingItem_isSome hitem
      have hnode : item.nodeId = e.toNodeId := congrArg Prod.fst hposition
      rw [Option.map_some, Option.getD_some, decide_eq_true_eq, and_iff_right hfollows, hnode]
  rw [enqueuePropagationEdgesWithConfig, List.countP_append, List.countP_filterMap,
    List.countP_filterMap, spreads]
  exact congrArg₂ _ (List.countP_congr fun e _ => hincoming e)
    (List.countP_congr fun e _ => houtgoing e)

/-- An edge that starts the search has one entry, of the node that it leaves. -/
theorem seedItems_countP (config : PropagationConfig) (v : Uuid) (e : GraphEdge) :
    (seedItems config e).countP (fun item => item.nodeId = v) =
      if Follows config [.dependsOn, .validatedBy] e ∧ e.fromNodeId = v then 1 else 0 := by
  rw [seedItems, List.countP_append]
  simp only [follows_one_iff, Follows, List.mem_cons, List.not_mem_nil, or_false]
  by_cases hdepends : e.edgeType = .dependsOn
  · have hvalidates : e.edgeType ≠ .validatedBy := by simp [hdepends]
    by_cases hcontains : e.edgeType ∈ config.traversableEdgeTypes <;>
      simp [hdepends ▸ hcontains, hdepends, List.countP_cons]
  · by_cases hvalidates : e.edgeType = .validatedBy
    · by_cases hcontains : e.edgeType ∈ config.traversableEdgeTypes <;>
        simp [hvalidates ▸ hcontains, hvalidates, List.countP_cons]
    · simp [hdepends, hvalidates]

theorem seedQueue_countP (s : GraphState) (request : ClassifyRequest) (v : Uuid) :
    (seedQueue s request).countP (fun item => item.nodeId = v) =
      (s.listEdgesTo request.startNodeId).countP fun e =>
        Follows request.config [.dependsOn, .validatedBy] e ∧ e.fromNodeId = v := by
  rw [seedQueue]
  induction s.listEdgesTo request.startNodeId with
  | nil => rfl
  | cons e edges ih =>
    rw [List.flatMap_cons, List.countP_append, ih, seedItems_countP, List.countP_cons, Nat.add_comm]
    simp only [decide_eq_true_eq]

theorem enqueue_length (s : GraphState) (config : PropagationConfig) (u : Uuid) (d : Nat) :
    (enqueuePropagationEdgesWithConfig s config u d).length =
      (enqueuePropagationEdgesWithConfig s config u 0).length := by
  have h := congrArg List.length (enqueue_nodeIds s config u d)
  rwa [List.length_map, List.length_map] at h

end Enqueue

section EdgeCount

variable (g : GraphStore) (config : PropagationConfig)

/-- The edges of a node that are enqueued with it. -/
def spreadEdges (u : Uuid) : List GraphEdge :=
  (g.state.listEdgesTo u).filter (fun e => (incomingItem config 1 e).isSome) ++
    (g.state.listEdgesFrom u).filter fun e => (outgoingItem config 1 e).isSome

/-- The node with which an edge is enqueued. -/
def GraphEdge.spreadFrom (e : GraphEdge) : Uuid :=
  if e.edgeType = .dependsOn then e.toNodeId else e.fromNodeId

variable {g config} {u : Uuid} {e : GraphEdge}

theorem mem_spreadEdges (h : e ∈ spreadEdges g config u) : g.HasEdge e ∧ e.spreadFrom = u := by
  rcases List.mem_append.mp h with hto | hfrom
  · obtain ⟨hmem, hsome⟩ := List.mem_filter.mp hto
    obtain ⟨hedge, htarget⟩ := GraphStore.mem_listEdgesTo.mp hmem
    obtain ⟨i, hi⟩ := Option.isSome_iff_exists.mp hsome
    have htype := (incomingItem_eq_some.mp hi).1.1
    exact ⟨hedge, (if_pos (List.mem_singleton.mp htype)).trans htarget⟩
  · obtain ⟨hmem, hsome⟩ := List.mem_filter.mp hfrom
    obtain ⟨hedge, hsource⟩ := GraphStore.mem_listEdgesFrom.mp hmem
    obtain ⟨i, hi⟩ := Option.isSome_iff_exists.mp hsome
    have htype := (outgoingItem_isSome hi).1.1
    have hother : e.edgeType ≠ .dependsOn := by
      intro heq
      rw [heq] at htype
      simp at htype
    exact ⟨hedge, (if_neg hother).trans hsource⟩

theorem nodup_index {index : HashMap Uuid (List Uuid)} {endpoint : GraphEdge → Uuid}
    (h : ExactIndex g.state.edges endpoint index) (v : Uuid) :
    ((indexEntry index v).filterMap g.state.edges.lookup).Nodup := by
  refine (h.nodup v).filterMap fun id id' e he he' => ?_
  exact (g.consistent.edgeId id e he).symm.trans (g.consistent.edgeId id' e he')

theorem nodup_spreadEdges : (spreadEdges g config u).Nodup := by
  refine List.nodup_append.mpr ⟨(nodup_index g.consistent.byTo u).filter _,
    (nodup_index g.consistent.byFrom u).filter _, ?_⟩
  rintro e hto e' hfrom rfl
  obtain ⟨i, hi⟩ := Option.isSome_iff_exists.mp (List.mem_filter.mp hto).2
  obtain ⟨i', hi'⟩ := Option.isSome_iff_exists.mp (List.mem_filter.mp hfrom).2
  have htype := List.mem_singleton.mp (incomingItem_eq_some.mp hi).1.1
  have htype' := (outgoingItem_isSome hi').1.1
  rw [htype] at htype'
  simp at htype'

theorem length_spreadEdges : (spreadEdges g config u).length =
    (enqueuePropagationEdgesWithConfig g.state config u 0).length := by
  rw [spreadEdges, enqueuePropagationEdgesWithConfig, List.length_append, List.length_append,
    List.length_filterMap_eq_countP, List.length_filterMap_eq_countP, List.countP_eq_length_filter,
    List.countP_eq_length_filter]

/-- Different nodes enqueue no more edges than there are. -/
theorem sum_enqueue_le (g : GraphStore) (config : PropagationConfig) {us : List Uuid}
    (h : us.Nodup) :
    (us.map fun u => (enqueuePropagationEdgesWithConfig g.state config u 0).length).sum ≤
      g.state.edges.keys.length := by
  have hnodup : (us.flatMap (spreadEdges g config)).Nodup := by
    refine List.nodup_flatMap.mpr ⟨fun u _ => nodup_spreadEdges, h.imp fun hne e he he' => ?_⟩
    exact hne ((mem_spreadEdges he).2.symm.trans (mem_spreadEdges he').2)
  have hsub : us.flatMap (spreadEdges g config) ⊆ (pairs g.state.edges).map Prod.snd := by
    intro e he
    obtain ⟨u, -, he⟩ := List.mem_flatMap.mp he
    exact List.mem_map.mpr ⟨(e.id, e), mem_pairs.mpr (mem_spreadEdges he).1, rfl⟩
  have hlength := (List.subperm_of_subset hnodup hsub).length_le
  rw [List.length_flatMap, List.length_map] at hlength
  simp only [length_spreadEdges] at hlength
  have hpairs : (pairs g.state.edges).length = g.state.edges.keys.length := by
    rw [pairs, AList.keys, List.length_map, List.keys, List.length_map]
  exact hpairs ▸ hlength

end EdgeCount

section Accounts

variable {g : GraphStore} {request : ClassifyRequest}

/-- The positions at which the edges of a node were enqueued. -/
def expandedAt (request : ClassifyRequest) (done : List (Uuid × Nat)) : List (Uuid × Nat) :=
  done.filter fun p => p.2 < request.depthLimit

/-- The entry is of the node, and not too deep to be expanded. -/
def arrivesAt (request : ClassifyRequest) (v : Uuid) (item : ClassifyItem) : Bool :=
  decide (item.nodeId = v) && decide (item.depth < request.depthLimit)

/-- The invariant of the search with its accounts, `past` being the iterations so far: every entry
came with the start or with the edges of a node, and those of a node of no target type that can be
expanded are. -/
structure ExpansionInv (g : GraphStore) (request : ClassifyRequest)
    (past : List (ClassifyState × ClassifyItem)) (st : ClassifyState) (queue : List ClassifyItem)
    (done : List (Uuid × Nat)) : Prop where
  inv : ClassifyInv g request st queue done
  expanded : (expanding g.state request past).map (fun p => p.2.position) = expandedAt request done
  taken : past.length + queue.length = (seedQueue g.state request).length +
    ((expandedAt request done).map fun p =>
      (enqueuePropagationEdgesWithConfig g.state request.config p.1 0).length).sum
  arrivals : ∀ v node, g.state.nodes.lookup v = some node → ¬ IsTarget request node.nodeType →
    (expandedAt request done).countP (fun p => p.1 = v) + queue.countP (arrivesAt request v) =
      seedArrivals g.state request v +
        ((done.filter fun p => p.2 + 1 < request.depthLimit).map fun p =>
          spreads g.state request p.1 v).sum

/-- What was expanded is at its distance, each node once. -/
structure ExpandedOnce (g : GraphStore) (request : ClassifyRequest) (done : List (Uuid × Nat)) :
    Prop where
  nodup : ((expandedAt request done).map Prod.fst).Nodup
  distance : ∀ p ∈ expandedAt request done, (impactSearch g request).Distance p.1 p.2

variable {past : List (ClassifyState × ClassifyItem)} {st st' : ClassifyState}
  {item : ClassifyItem} {queue pushed : List ClassifyItem} {done : List (Uuid × Nat)}

theorem expandedAt_append (p : Uuid × Nat) : expandedAt request (done ++ [p]) =
    expandedAt request done ++ if p.2 < request.depthLimit then [p] else [] := by
  rw [expandedAt, List.filter_append, List.filter_cons, List.filter_nil]
  simp only [decide_eq_true_eq, expandedAt]

theorem expanding_append (s : GraphState) : expanding s request (past ++ [(st, item)]) =
    expanding s request past ++ if Expands s request st item then [(st, item)] else [] := by
  rw [expanding, List.filter_append, List.filter_cons, List.filter_nil]
  rfl

/-- Of entries at one depth, those of a node can be expanded if the depth is below the limit. -/
theorem countP_arrivesAt {items : List ClassifyItem} {d : Nat} (h : ∀ item ∈ items, item.depth = d)
    (v : Uuid) : items.countP (arrivesAt request v) =
      if d < request.depthLimit then items.countP fun item => item.nodeId = v else 0 := by
  split
  · next hlimit =>
    refine List.countP_congr fun item hitem => ?_
    rw [arrivesAt, h item hitem, decide_eq_true hlimit, Bool.and_true]
  · next hlimit =>
    refine List.countP_eq_zero.mpr fun item hitem => ?_
    rw [arrivesAt, h item hitem, decide_eq_false hlimit, Bool.and_false]
    exact Bool.false_ne_true

theorem ExpansionInv.initial (g : GraphStore) (request : ClassifyRequest) :
    ExpansionInv g request [] { visited := [], classified := [] } (seedQueue g.state request)
      [] := by
  have hdepth : ∀ item ∈ seedQueue g.state request, item.depth = 1 := fun item hitem =>
    (mem_seedItems.mp (List.mem_map_of_mem (f := ClassifyItem.position) hitem)).1
  refine ⟨ClassifyInv.initial g request, rfl, by simp [expandedAt], fun v node _ _ => ?_⟩
  have hcount : (seedQueue g.state request).countP (arrivesAt request v) =
      seedArrivals g.state request v := by
    rw [countP_arrivesAt hdepth, seedQueue_countP, seedArrivals]
  simp [expandedAt, hcount]

/-- A node that was visited is of a target type. -/
theorem ExpansionInv.target_of_visited (h : ExpansionInv g request past st queue done) {v : Uuid}
    {node : GraphNode} (hlookup : g.state.nodes.lookup v = some node) (hv : v ∈ st.visited) :
    IsTarget request node.nodeType := by
  rw [h.inv.visited, List.mem_reverse] at hv
  obtain ⟨c, hc, rfl⟩ := List.mem_map.mp hv
  obtain ⟨hstored, htarget, -⟩ := h.inv.affected c hc
  exact Option.some.inj (hlookup.symm.trans hstored) ▸ htarget

/-- A skipped entry leaves the accounts as they are. -/
theorem ExpansionInv.skip (h : ExpansionInv g request past st (item :: queue) done)
    (hskip : request.depthLimit < item.depth ∨ item.nodeId ∈ st.visited ∨
      item.nodeId ∉ g.state.nodes) :
    ExpansionInv g request (past ++ [(st, item)]) st queue done := by
  refine ⟨h.inv.skip hskip, ?_, ?_, fun v node hlookup hother => ?_⟩
  · rw [expanding_append, expands_eq_false hskip, if_neg Bool.false_ne_true, List.append_nil]
    exact h.expanded
  · have htaken := h.taken
    rw [List.length_append]
    simp only [List.length_cons, List.length_nil] at htaken ⊢
    omega
  · have harrivals := h.arrivals v node hlookup hother
    rwa [List.countP_cons_of_neg] at harrivals
    -- an entry of the node that can be expanded is not skipped
    rw [arrivesAt, Bool.and_eq_true, decide_eq_true_eq, decide_eq_true_eq]
    rintro ⟨rfl, hdepth⟩
    rcases hskip with hdeep | hold | hmissing
    · omega
    · exact hother (h.target_of_visited hlookup hold)
    · exact hmissing (mem_iff_lookup.mpr ⟨node, hlookup⟩)

/-- The entries for the edges of a node count for another if they are not too deep. -/
theorem enqueue_arrivals (g : GraphStore) (request : ClassifyRequest) (u v : Uuid) (d : Nat) :
    (enqueuePropagationEdgesWithConfig g.state request.config u d).countP (arrivesAt request v) =
      if d + 1 < request.depthLimit then spreads g.state request u v else 0 := by
  have hdepth : ∀ item ∈ enqueuePropagationEdgesWithConfig g.state request.config u d,
      item.depth = d + 1 := fun item hitem =>
    (mem_enqueue.mp (List.mem_map_of_mem (f := ClassifyItem.position) hitem)).1
  rw [countP_arrivesAt hdepth, enqueue_countP]

/-- An entry that is not skipped is expanded if it is not too deep. -/
theorem ExpansionInv.take (h : ExpansionInv g request past st (item :: queue) done)
    (hdeep : item.depth ≤ request.depthLimit) (hvisited : item.nodeId ∉ st.visited)
    (hpushed : pushed = if item.depth < request.depthLimit then
      enqueuePropagationEdgesWithConfig g.state request.config item.nodeId item.depth else [])
    (hlookup : item.nodeId ∈ g.state.nodes)
    (hnext : ClassifyInv g request st' (queue ++ pushed) (done ++ [item.position])) :
    ExpansionInv g request (past ++ [(st, item)]) st' (queue ++ pushed)
      (done ++ [item.position]) := by
  have hexpands : Expands g.state request st item = true ↔ item.depth < request.depthLimit :=
    expands_eq_true.trans (and_iff_left ⟨hvisited, hlookup⟩)
  have htaken := h.taken
  have hdepth : item.position.2 = item.depth := rfl
  have hnode : item.position.1 = item.nodeId := rfl
  refine ⟨hnext, ?_, ?_, fun v node hnodeLookup hother => ?_⟩
  · rw [expanding_append, expandedAt_append, List.map_append, h.expanded, hdepth]
    simp only [hexpands]
    split <;> rfl
  · rw [hpushed, expandedAt_append, hdepth, List.map_append, List.sum_append, List.length_append,
      List.length_append]
    split
    · simp only [enqueue_length, List.length_cons, List.length_nil, List.map_cons, List.map_nil,
        List.sum_cons, List.sum_nil, hnode] at htaken ⊢
      omega
    · simp only [List.length_cons, List.length_nil, List.map_nil, List.sum_nil] at htaken ⊢
      omega
  · have harrivals := h.arrivals v node hnodeLookup hother
    rw [List.countP_cons] at harrivals
    rw [hpushed, expandedAt_append, hdepth, List.countP_append, List.countP_append,
      List.filter_append, List.map_append, List.sum_append]
    have hfurther : [item.position].filter (fun p => p.2 + 1 < request.depthLimit) =
        if item.depth + 1 < request.depthLimit then [item.position] else [] := by
      rw [List.filter_cons, List.filter_nil, hdepth]
      simp only [decide_eq_true_eq]
    rw [hfurther]
    by_cases hlt : item.depth < request.depthLimit
    · have harrives : arrivesAt request v item = decide (item.nodeId = v) := by
        rw [arrivesAt, decide_eq_true hlt, Bool.and_true]
      have hcount : [item.position].countP (fun p => p.1 = v) =
          if decide (item.nodeId = v) then 1 else 0 := List.countP_singleton
      have hspread : ((if item.depth + 1 < request.depthLimit then [item.position] else []).map
          fun p => spreads g.state request p.1 v).sum =
          if item.depth + 1 < request.depthLimit then spreads g.state request item.nodeId v
          else 0 := by
        split <;> rfl
      rw [if_pos hlt, if_pos hlt, hcount, hspread, enqueue_arrivals]
      rw [harrives] at harrivals
      omega
    · have harrives : arrivesAt request v item = false := by
        rw [arrivesAt, decide_eq_false hlt, Bool.and_false]
      rw [harrives, if_neg Bool.false_ne_true] at harrivals
      rw [if_neg hlt, if_neg hlt, if_neg (by omega)]
      exact harrivals

/-- The nodes from which entries that can be expanded were pushed were expanded themselves. -/
theorem further_sublist (request : ClassifyRequest) (done : List (Uuid × Nat)) :
    (done.filter fun p => p.2 + 1 < request.depthLimit).Sublist (expandedAt request done) := by
  apply List.monotone_filter_right
  intro p hp
  rw [decide_eq_true_eq] at hp ⊢
  omega

/-- Where one edge at most leads to a node of no target type, the node of an entry that is taken was
not expanded before: a target node would have been visited, and another node would have this entry
and the one before. -/
theorem ExpansionInv.not_expanded (h : ExpansionInv g request past st (item :: queue) done)
    (hothers : OthersArriveOnce g request) (honce : ExpandedOnce g request done)
    (hvisited : item.nodeId ∉ st.visited) (hlt : item.depth < request.depthLimit)
    {node : GraphNode} (hlookup : g.state.nodes.lookup item.nodeId = some node) :
    item.nodeId ∉ (expandedAt request done).map Prod.fst := by
  intro hmem
  obtain ⟨⟨u, e⟩, hp, rfl⟩ := List.mem_map.mp hmem
  by_cases htarget : IsTarget request node.nodeType
  · exact hvisited (h.inv.complete _ e node (List.mem_of_mem_filter hp) hlookup htarget)
  · have harrivals := h.arrivals _ node hlookup htarget
    have hbefore : 0 < (expandedAt request done).countP fun p => p.1 = item.nodeId :=
      List.countP_pos_iff.mpr ⟨_, hp, decide_eq_true rfl⟩
    have harrives : arrivesAt request item.nodeId item = true := by
      rw [arrivesAt, decide_eq_true hlt, decide_eq_true rfl, Bool.and_true]
    rw [List.countP_cons, if_pos harrives] at harrivals
    have hsublist := further_sublist request done
    have hone := hothers _ node hlookup htarget
      ((done.filter fun p => p.2 + 1 < request.depthLimit).map Prod.fst)
      ((hsublist.map _).nodup honce.nodup) fun u hu => by
        obtain ⟨p, hp, rfl⟩ := List.mem_map.mp hu
        exact ⟨p.2, honce.distance p (hsublist.subset hp),
          of_decide_eq_true (List.mem_filter.mp hp).2⟩
    rw [List.map_map] at hone
    change _ + ((done.filter fun p => p.2 + 1 < request.depthLimit).map
      fun p => spreads g.state request p.1 item.nodeId).sum ≤ 1 at hone
    omega

/-- Where one edge at most leads to a node of no target type, every node is expanded once, and at
its distance. -/
theorem ExpansionInv.once (h : ExpansionInv g request past st (item :: queue) done)
    (hothers : OthersArriveOnce g request) (honce : ExpandedOnce g request done)
    (hvisited : item.nodeId ∉ st.visited) {node : GraphNode}
    (hlookup : g.state.nodes.lookup item.nodeId = some node) :
    ExpandedOnce g request (done ++ [item.position]) := by
  by_cases hlt : item.depth < request.depthLimit
  · have hnew := h.not_expanded hothers honce hvisited hlt hlookup
    have hexpanded : expandedAt request (done ++ [item.position]) =
        expandedAt request done ++ [item.position] := by
      rw [expandedAt_append]
      exact congrArg _ (if_pos hlt)
    have hdistance : (impactSearch g request).Distance item.nodeId item.depth := by
      refine h.inv.explored.head_distance trivial (fun m hm => ?_) fun e he => hnew ?_
      · exact Option.some.inj hm ▸ hlt.le
      · have hle : e ≤ item.depth := h.inv.explored.done_le he List.mem_cons_self
        exact List.mem_map.mpr
          ⟨_, List.mem_filter.mpr ⟨he, decide_eq_true (hle.trans_lt hlt)⟩, rfl⟩
    constructor
    · rw [hexpanded, List.map_append, List.nodup_append_comm]
      exact List.nodup_cons.mpr ⟨hnew, honce.nodup⟩
    · intro p hp
      rw [hexpanded] at hp
      rcases List.mem_append.mp hp with hp | hp
      · exact honce.distance p hp
      · obtain rfl := List.mem_singleton.mp hp
        exact hdistance
  · have hexpanded : expandedAt request (done ++ [item.position]) = expandedAt request done := by
      rw [expandedAt_append]
      exact (congrArg _ (if_neg hlt)).trans (List.append_nil _)
    constructor
    · rw [hexpanded]
      exact honce.nodup
    · rw [hexpanded]
      exact honce.distance

end Accounts

section Runs

variable {g : GraphStore} {request : ClassifyRequest}

/-- What holds after any number of iterations. -/
def SearchedOnce (g : GraphStore) (request : ClassifyRequest)
    (past : List (ClassifyState × ClassifyItem)) (st : ClassifyState)
    (queue : List ClassifyItem) : Prop :=
  ∃ done, ExpansionInv g request past st queue done ∧
    (OthersArriveOnce g request → ExpandedOnce g request done)

theorem SearchedOnce.step {past : List (ClassifyState × ClassifyItem)} {st st' : ClassifyState}
    {item : ClassifyItem} {queue pushed : List ClassifyItem}
    (h : SearchedOnce g request past st (item :: queue))
    (hstep : classifyStep g.state request st item = .ok (st', pushed)) :
    SearchedOnce g request (past ++ [(st, item)]) st' (queue ++ pushed) := by
  obtain ⟨done, hinv, honce⟩ := h
  rcases classifyStep_cases hstep with
    ⟨rfl, rfl, hskip⟩ | ⟨hdeep, hvisited, hpushed, node, hlookup, hreport⟩
  · rw [List.append_nil]
    exact ⟨done, hinv.skip hskip, honce⟩
  · have hnext := hinv.inv.take hdeep hvisited hpushed hlookup hreport
    exact ⟨_, hinv.take hdeep hvisited hpushed (mem_iff_lookup.mpr ⟨node, hlookup⟩) hnext,
      fun hothers => hinv.once hothers (honce hothers) hvisited hlookup⟩

theorem SearchedOnce.initial (g : GraphStore) (request : ClassifyRequest) :
    SearchedOnce g request [] { visited := [], classified := [] } (seedQueue g.state request) :=
  ⟨[], .initial g request, fun _ => ⟨.nil, fun _ hp => absurd hp List.not_mem_nil⟩⟩

/-- The search holds its accounts for as long as it runs. -/
theorem searchedOnce_run (g : GraphStore) (request : ClassifyRequest) (fuel : Nat) :
    let step := classifyStep g.state request
    let queue := seedQueue g.state request
    let initial : ClassifyState := { visited := [], classified := [] }
    ∃ st rest, SearchedOnce g request (worklistTrace step fuel queue initial) st rest ∧
      ((worklist step fuel queue initial = some (.ok st) ∧ rest = []) ∨
        (worklist step fuel queue initial = none ∧ rest ≠ [] ∧
          (worklistTrace step fuel queue initial).length = fuel)) :=
  worklistTrace_spec (classifyStep g.state request) (SearchedOnce g request)
    (fun _ _ _ _ _ _ h hstep => h.step hstep)
    (fun st item r herror => by
      unfold classifyStep at herror
      repeat' split at herror
      all_goals cases herror)
    (SearchedOnce.initial g request) fuel

/-- A search that reaches a node has a start. -/
theorem start_mem_of_walk {n : Nat} {v : Uuid} (h : (impactSearch g request).Walk n v) :
    request.startNodeId ∈ g.state.nodes := by
  induction h with
  | init hseed _ =>
    obtain ⟨e, hedge, -, hto, -⟩ := hseed
    exact hto ▸ hedge.to_mem
  | step _ _ _ ih => exact ih

/-- No edge leads to a node if the start is missing. -/
theorem oneArrival_of_start_missing (h : request.startNodeId ∉ g.state.nodes) (v : Uuid) :
    OneArrival g request v := by
  have hqueue : seedQueue g.state request = [] := by
    refine List.eq_nil_iff_forall_not_mem.mpr fun item hitem => ?_
    obtain ⟨-, e, hedge, -, hto, -⟩ :=
      mem_seedItems.mp (List.mem_map_of_mem (f := ClassifyItem.position) hitem)
    exact h (hto ▸ hedge.to_mem)
  intro us _ hnear
  have hus : us = [] := by
    refine List.eq_nil_iff_forall_not_mem.mpr fun u hu => ?_
    obtain ⟨d, hdistance, -⟩ := hnear u hu
    exact h (start_mem_of_walk hdistance.walk)
  rw [hus, seedArrivals, ← seedQueue_countP, hqueue]
  split <;> simp

theorem classifyTrace_eq (hstart : request.startNodeId ∈ g.state.nodes) (fuel : Nat) :
    classifyTrace g.state request fuel =
      worklistTrace (classifyStep g.state request) fuel (seedQueue g.state request)
        { visited := [], classified := [] } := by
  obtain ⟨node, hnode⟩ := mem_iff_lookup.mp hstart
  rw [classifyTrace, GraphStore.getNode_ok.mpr hnode]

theorem classifyImpact_isSome (hstart : request.startNodeId ∈ g.state.nodes) (fuel : Nat) :
    (classifyImpact g.state request fuel).isSome =
      (worklist (classifyStep g.state request) fuel (seedQueue g.state request)
        { visited := [], classified := [] }).isSome := by
  obtain ⟨node, hnode⟩ := mem_iff_lookup.mp hstart
  rw [classifyImpact, GraphStore.getNode_ok.mpr hnode]
  exact Option.isSome_map

/-- The nodes whose edges were enqueued are those that were expanded. -/
theorem ExpansionInv.expansions {past : List (ClassifyState × ClassifyItem)} {st : ClassifyState}
    {queue : List ClassifyItem} {done : List (Uuid × Nat)}
    (h : ExpansionInv g request past st queue done) :
    (expanding g.state request past).map (fun p => p.2.nodeId) =
      (expandedAt request done).map Prod.fst := by
  rw [← h.expanded, List.map_map]
  rfl

/-- Where one edge at most leads to each node of no target type, every node is expanded once. -/
theorem expandsOnce_of_others (hstart : request.startNodeId ∈ g.state.nodes)
    (hothers : OthersArriveOnce g request) : ExpandsOnce g.state request := by
  constructor
  · intro fuel
    obtain ⟨st, rest, ⟨done, hinv, honce⟩, -⟩ := searchedOnce_run g request fuel
    rw [classifyExpansions, classifyTrace_eq hstart, hinv.expansions]
    exact (honce hothers).nodup
  · rw [classifyImpact_isSome hstart]
    obtain ⟨st, rest, ⟨done, hinv, honce⟩, hend⟩ := searchedOnce_run g request
      (g.state.edges.keys.length + (seedQueue g.state request).length)
    rcases hend with ⟨hrun, -⟩ | ⟨-, hrest, hlength⟩
    · rw [hrun, Option.isSome_some]
    · -- every iteration took an entry of the start or of an edge, and one entry is left
      have htaken := hinv.taken
      have hsum : ((expandedAt request done).map fun p =>
          (enqueuePropagationEdgesWithConfig g.state request.config p.1 0).length).sum ≤
          g.state.edges.keys.length := by
        have hle := sum_enqueue_le g request.config (honce hothers).nodup
        rwa [List.map_map] at hle
      have hpos := List.length_pos_of_ne_nil hrest
      omega

/-- Where every node is expanded once, one edge at most leads to each node of no target type. -/
theorem others_of_expandsOnce (hstart : request.startNodeId ∈ g.state.nodes)
    (h : ExpandsOnce g.state request) : OthersArriveOnce g request := by
  obtain ⟨st, rest, ⟨done, hinv, -⟩, hend⟩ := searchedOnce_run g request
    (g.state.edges.keys.length + (seedQueue g.state request).length)
  have hended := h.ends
  rw [classifyImpact_isSome hstart] at hended
  rcases hend with ⟨-, rfl⟩ | ⟨hrun, -, -⟩
  swap
  · rw [hrun] at hended
    cases hended
  have hnodup := h.nodup (g.state.edges.keys.length + (seedQueue g.state request).length)
  rw [classifyExpansions, classifyTrace_eq hstart, hinv.expansions] at hnodup
  intro v node hlookup hother us hus hnear
  have harrivals := hinv.arrivals v node hlookup hother
  have hcount : (expandedAt request done).countP (fun p => p.1 = v) ≤ 1 := by
    have hle := List.nodup_iff_count_le_one.mp hnodup v
    rw [List.count, List.countP_map] at hle
    refine (List.countP_congr fun p _ => ?_).trans_le hle
    simp
  -- the nodes near enough have all been expanded
  have hsub : us ⊆ (done.filter fun p => p.2 + 1 < request.depthLimit).map Prod.fst := by
    intro u hu
    obtain ⟨d, hdistance, hlt⟩ := hnear u hu
    obtain ⟨e, hle, hmem⟩ := hinv.inv.explored.complete hdistance.walk fun m hm => by
      obtain rfl := Option.some.inj hm
      omega
    exact List.mem_map.mpr ⟨(u, e), List.mem_filter.mpr ⟨hmem, decide_eq_true (by omega)⟩, rfl⟩
  obtain ⟨us', hperm, hsublist⟩ := List.subperm_of_subset hus hsub
  have hsum : (us.map fun u => spreads g.state request u v).sum ≤
      (((done.filter fun p => p.2 + 1 < request.depthLimit).map Prod.fst).map
        fun u => spreads g.state request u v).sum :=
    ((hperm.map _).sum_eq).ge.trans ((hsublist.map _).sum_le_sum fun _ _ => Nat.zero_le _)
  rw [List.map_map] at hsum
  change _ ≤ ((done.filter fun p => p.2 + 1 < request.depthLimit).map
    fun p => spreads g.state request p.1 v).sum at hsum
  rw [List.countP_nil, Nat.add_zero] at harrivals
  omega

/-- The classification expands every node once, and ends after as many iterations as there are edges
and entries at the start, exactly if one edge at most leads to each node of no target type, counting
those that lead there before the depth limit. -/
theorem classifyImpact_expandsOnce_iff (g : GraphStore) (request : ClassifyRequest) :
    ExpandsOnce g.state request ↔ OthersArriveOnce g request := by
  by_cases hstart : request.startNodeId ∈ g.state.nodes
  · exact ⟨others_of_expandsOnce hstart, expandsOnce_of_others hstart⟩
  · refine iff_of_true ?_ fun v _ _ _ => oneArrival_of_start_missing hstart v
    cases hnode : g.state.getNode request.startNodeId with
    | ok node => exact absurd (mem_iff_lookup.mpr ⟨node, GraphStore.getNode_ok.mp hnode⟩) hstart
    | error e =>
      constructor
      · intro fuel
        rw [classifyExpansions, classifyTrace, hnode]
        exact .nil
      · rw [classifyImpact, hnode]
        rfl

/-- Two artifacts that depend on each other. -/
def GraphStore.cycle : GraphStore :=
  let nodes := (empty.createNode 1 rfl 0 (plainNode .artifact)).createNode 2 rfl 0
    (plainNode .artifact)
  (nodes.createEdge 3 rfl 0 (plainEdge 1 2)).createEdge 4 rfl 0 (plainEdge 2 1)

/-- Around a cycle of nodes of no target type, the edges are enqueued until the depth limit. -/
theorem not_classifyImpact_expandsOnce :
    ¬ ExpandsOnce GraphStore.cycle.state
      { startNodeId := 1, maxDepth := some 4, targetNodeTypes := some [.approval] } := by
  intro h
  have hnodup := h.nodup 3
  revert hnodup
  decide

end Runs

end IntentRebase
