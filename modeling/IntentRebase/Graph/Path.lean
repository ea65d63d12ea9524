import IntentRebase.Graph.Reachability

/-! The path search is sound, complete and shortest, and the parent map it builds always leads from
the target back to the source. -/

namespace IntentRebase

open Kit

/-- The nodes, from the first to the last, are joined in turn by the edges, each stored and passing
the filter. -/
inductive JoinedPath (g : GraphStore) (options : TraversalOptions) :
    Uuid → List Uuid → List Uuid → Uuid → Prop
  | single (v : Uuid) : JoinedPath g options v [v] [] v
  | cons {e : GraphEdge} {nodeIds edgeIds : List Uuid} {v : Uuid} : g.HasEdge e →
      edgePassesFilter e options = true → JoinedPath g options e.toNodeId nodeIds edgeIds v →
      JoinedPath g options e.fromNodeId (e.fromNodeId :: nodeIds) (e.id :: edgeIds) v

namespace JoinedPath

variable {g : GraphStore} {options : TraversalOptions} {u v : Uuid} {nodeIds edgeIds : List Uuid}

theorem head? (h : JoinedPath g options u nodeIds edgeIds v) : nodeIds.head? = some u := by
  cases h <;> rfl

theorem getLast? (h : JoinedPath g options u nodeIds edgeIds v) :
    nodeIds.getLast? = some v := by
  induction h with
  | single => rfl
  | cons _ _ hrest ih =>
    rw [List.getLast?_cons, ih]
    rfl

theorem length_nodeIds (h : JoinedPath g options u nodeIds edgeIds v) :
    nodeIds.length = edgeIds.length + 1 := by
  induction h with
  | single => rfl
  | cons _ _ _ ih => rw [List.length_cons, ih, List.length_cons]

/-- One more edge at the end. -/
theorem concat {e : GraphEdge} (h : JoinedPath g options u nodeIds edgeIds e.fromNodeId)
    (he : g.HasEdge e) (hpass : edgePassesFilter e options = true) :
    JoinedPath g options u (nodeIds ++ [e.toNodeId]) (edgeIds ++ [e.id]) e.toNodeId := by
  generalize hv : e.fromNodeId = v at h
  induction h with
  | single v =>
    subst hv
    exact .cons he hpass (.single _)
  | cons he' hpass' _ ih => exact .cons he' hpass' (ih hv)

end JoinedPath

section Walks

variable {g : GraphStore} {options : TraversalOptions} {source v : Uuid} {ok : Uuid → Prop}

theorem exists_path_of_walk {n : Nat} (h : (walksFrom g source options ok).Walk n v) :
    ∃ nodeIds edgeIds, JoinedPath g options source nodeIds edgeIds v ∧ edgeIds.length = n ∧
      ∀ w ∈ nodeIds, ok w := by
  induction h with
  | init hinit hok =>
    obtain rfl : _ = source := hinit
    exact ⟨_, _, .single _, rfl, fun w hw => List.mem_singleton.mp hw ▸ hok⟩
  | step _ hedge hok ih =>
    obtain ⟨nodeIds, edgeIds, hpath, hlen, hall⟩ := ih
    obtain ⟨e, he, hpass, rfl, rfl⟩ := hedge
    refine ⟨_, _, hpath.concat he hpass, by simp [hlen], ?_⟩
    intro w hw
    rcases List.mem_append.mp hw with hw | hw
    · exact hall w hw
    · exact List.mem_singleton.mp hw ▸ hok

theorem walk_of_path {u : Uuid} {nodeIds edgeIds : List Uuid}
    (h : JoinedPath g options u nodeIds edgeIds v) (hok : ∀ w ∈ nodeIds, ok w) {n : Nat}
    (hu : (walksFrom g source options ok).Walk n u) :
    (walksFrom g source options ok).Walk (n + edgeIds.length) v := by
  induction h generalizing n with
  | single => exact hu
  | @cons e nodeIds edgeIds v he hpass hrest ih =>
    have hto : e.toNodeId ∈ nodeIds := List.mem_of_mem_head? hrest.head?
    have hstep := ih (fun w hw => hok w (List.mem_cons_of_mem _ hw))
      (hu.step ⟨e, he, hpass, rfl, rfl⟩ (hok _ (List.mem_cons_of_mem _ hto)))
    rw [List.length_cons, Nat.add_comm edgeIds.length 1, ← Nat.add_assoc]
    exact hstep

/-- Walks are joined paths through the nodes that are `ok`. -/
theorem walk_iff {n : Nat} : (walksFrom g source options ok).Walk n v ↔
    ∃ nodeIds edgeIds, JoinedPath g options source nodeIds edgeIds v ∧ edgeIds.length = n ∧
      ∀ w ∈ nodeIds, ok w := by
  constructor
  · exact exists_path_of_walk
  · rintro ⟨nodeIds, edgeIds, hpath, rfl, hok⟩
    have hsource : ok source := hok _ (List.mem_of_mem_head? hpath.head?)
    have hwalk := walk_of_path hpath hok (.init (S := walksFrom g source options ok) rfl hsource)
    rwa [show (walksFrom g source options ok).base = 0 from rfl, Nat.zero_add] at hwalk

end Walks

/-- Some path of at most `maxDepth` edges of the allowed types leads to the node. -/
def Connected (g : GraphStore) (source : Uuid) (options : TraversalOptions) (v : Uuid) : Prop :=
  ∃ nodeIds edgeIds, JoinedPath g options source nodeIds edgeIds v ∧
    ∀ m ∈ options.maxDepth, edgeIds.length ≤ m

/-- The path joins the two nodes within the limit, and no path between them is shorter. -/
structure IsShortestPath (g : GraphStore) (source : Uuid) (options : TraversalOptions)
    (target : Uuid) (path : GraphPath) : Prop where
  joined : JoinedPath g options source path.nodeIds path.edgeIds target
  within : ∀ m ∈ options.maxDepth, path.edgeIds.length ≤ m
  shortest : ∀ {nodeIds edgeIds}, JoinedPath g options source nodeIds edgeIds target →
    path.edgeIds.length ≤ edgeIds.length

theorem IsShortestPath.not_empty {g : GraphStore} {source target : Uuid}
    {options : TraversalOptions} {path : GraphPath}
    (h : IsShortestPath g source options target path) : path.isEmpty = false := by
  have hlen := h.joined.length_nodeIds
  rw [GraphPath.isEmpty, List.isEmpty_eq_false_iff]
  rintro hnil
  rw [hnil] at hlen
  cases hlen

section Reconstruct

variable {g : GraphStore} {options : TraversalOptions} {source : Uuid}

/-- Each entry is the source at depth 0, or the parent map has a stored edge into it from an entry
one step before it. -/
def ParentChain (g : GraphStore) (options : TraversalOptions) (source : Uuid)
    (parentEdge : ParentMap) (entries : List (Uuid × Nat)) : Prop :=
  ∀ v d, (v, d) ∈ entries → (v = source ∧ d = 0) ∨ (v ≠ source ∧
    ∃ e, g.HasEdge e ∧ edgePassesFilter e options = true ∧ e.toNodeId = v ∧
      parentEdge.lookup v = some (e.fromNodeId, e.id) ∧
      ∃ d', (e.fromNodeId, d') ∈ entries ∧ d = d' + 1)

/-- The path back from an entry ends at the source after as many edges as it is deep. -/
theorem reconstructLoop_of_chain {parentEdge : ParentMap} {entries : List (Uuid × Nat)}
    (h : ParentChain g options source parentEdge entries) {target : Uuid} {d : Nat} :
    ∀ {v nodeIds edgeIds}, (v, d) ∈ entries →
      JoinedPath g options v nodeIds.reverse edgeIds.reverse target →
      ∃ path, (∀ fuel, d < fuel →
          reconstructLoop source parentEdge fuel v nodeIds edgeIds = some path) ∧
        JoinedPath g options source path.nodeIds path.edgeIds target ∧
        path.edgeIds.length = d + edgeIds.length := by
  induction d with
  | zero =>
    intro v nodeIds edgeIds hmem hpath
    rcases h v 0 hmem with ⟨rfl, _⟩ | ⟨_, e, _, _, _, _, d', _, hd⟩
    · refine ⟨{ nodeIds := nodeIds.reverse, edgeIds := edgeIds.reverse }, ?_, hpath, by simp⟩
      intro fuel hfuel
      obtain ⟨fuel, rfl⟩ := Nat.exists_eq_succ_of_ne_zero (Nat.ne_zero_of_lt hfuel)
      rw [reconstructLoop, if_neg (by simp)]
    · cases hd
  | succ d ih =>
    intro v nodeIds edgeIds hmem hpath
    rcases h v (d + 1) hmem with ⟨_, hd⟩ | ⟨hne, e, he, hpass, rfl, hlookup, d', hfrom, hd⟩
    · cases hd
    · obtain rfl : d = d' := by omega
      have hstep : JoinedPath g options e.fromNodeId (nodeIds ++ [e.fromNodeId]).reverse
          (edgeIds ++ [e.id]).reverse target := by
        rw [List.reverse_append, List.reverse_append]
        exact .cons he hpass hpath
      obtain ⟨path, hrun, hjoined, hlen⟩ := ih hfrom hstep
      refine ⟨path, fun fuel hfuel => ?_, hjoined, ?_⟩
      · obtain ⟨fuel, rfl⟩ := Nat.exists_eq_succ_of_ne_zero (Nat.ne_zero_of_lt hfuel)
        rw [reconstructLoop, if_pos hne, hlookup]
        exact hrun fuel (by omega)
      · rw [hlen, List.length_append, List.length_singleton]
        omega

end Reconstruct

section Scan

variable {target : Uuid} {options : TraversalOptions} {nodeId : Uuid} {depth : Nat}

/-- What a scan that does not meet the target has done: the new nodes are marked and pushed, each
with the edge it was reached by. -/
structure Scanned (target : Uuid) (options : TraversalOptions) (nodeId : Uuid) (depth : Nat)
    (edges : List GraphEdge) (st st' : PathState) (new : List (Uuid × Nat)) : Prop where
  visited : st'.visited = (new.map Prod.fst).reverse ++ st.visited
  nodup : st.visited.Nodup → st'.visited.Nodup
  entry : ∀ p ∈ new, p.2 = depth + 1 ∧ p.1 ≠ target ∧ ∃ e ∈ edges,
    edgePassesFilter e options = true ∧ e.toNodeId = p.1 ∧
    st'.parentEdge.lookup p.1 = some (nodeId, e.id)
  old : ∀ v ∈ st.visited, st'.parentEdge.lookup v = st.parentEdge.lookup v
  closed : ∀ e ∈ edges, edgePassesFilter e options = true →
    e.toNodeId ≠ target ∧ e.toNodeId ∈ st'.visited

theorem scanEdges_ok {edges : List GraphEdge} : ∀ {st st' : PathState}
    {pushed pushed' : List (Uuid × Nat)},
    scanEdges target options nodeId depth edges st pushed = .ok (st', pushed') →
    ∃ new, pushed' = pushed ++ new ∧ Scanned target options nodeId depth edges st st' new := by
  induction edges with
  | nil =>
    intro st st' pushed pushed' h
    obtain ⟨rfl, rfl⟩ := Prod.mk.inj (Except.ok.inj h)
    exact ⟨[], by simp, by simp, id, by simp, fun _ _ => rfl, by simp⟩
  | cons edge rest ih =>
    intro st st' pushed pushed' h
    rw [scanEdges] at h
    split at h
    · next hskip =>
      obtain ⟨new, rfl, hs⟩ := ih h
      refine ⟨new, rfl, hs.visited, hs.nodup, fun p hp => ?_, hs.old, fun e he hpass => ?_⟩
      · obtain ⟨hd, ht, e, he, hrest⟩ := hs.entry p hp
        exact ⟨hd, ht, e, List.mem_cons_of_mem _ he, hrest⟩
      · rcases List.mem_cons.mp he with rfl | he
        · rw [hpass] at hskip
          cases hskip
        · exact hs.closed e he hpass
    next hpass =>
    split at h
    · cases h
    next htarget =>
    split at h
    · next hvisited =>
      obtain ⟨new, rfl, hs⟩ := ih h
      refine ⟨new, rfl, hs.visited, hs.nodup, fun p hp => ?_, hs.old, fun e he hpass' => ?_⟩
      · obtain ⟨hd, ht, e, he, hrest⟩ := hs.entry p hp
        exact ⟨hd, ht, e, List.mem_cons_of_mem _ he, hrest⟩
      · rcases List.mem_cons.mp he with rfl | he
        · exact ⟨htarget, hs.visited ▸ List.mem_append_right _ hvisited⟩
        · exact hs.closed e he hpass'
    · next hnew =>
      obtain ⟨new, rfl, hs⟩ := ih h
      have hmark : edge.toNodeId ∈ st'.visited :=
        hs.visited ▸ List.mem_append_right _ List.mem_cons_self
      refine ⟨(edge.toNodeId, depth + 1) :: new, by simp, ?_, ?_, ?_, ?_, ?_⟩
      · rw [hs.visited]
        simp
      · exact fun hnd => hs.nodup (List.nodup_cons.mpr ⟨hnew, hnd⟩)
      · intro p hp
        rcases List.mem_cons.mp hp with rfl | hp
        · refine ⟨rfl, htarget, edge, List.mem_cons_self, by simpa using hpass, rfl, ?_⟩
          rw [hs.old _ List.mem_cons_self, lookup_insert_eq, if_pos rfl]
        · obtain ⟨hd, ht, e, he, hrest⟩ := hs.entry p hp
          exact ⟨hd, ht, e, List.mem_cons_of_mem _ he, hrest⟩
      · intro v hv
        have hne : v ≠ edge.toNodeId := fun heq => hnew (heq ▸ hv)
        rw [hs.old v (List.mem_cons_of_mem _ hv), lookup_insert_eq, if_neg hne]
      · intro e he hpass'
        rcases List.mem_cons.mp he with rfl | he
        · exact ⟨htarget, hmark⟩
        · exact hs.closed e he hpass'

/-- What a scan that meets the target has done: the edge to it is recorded, and the nodes marked
before are as they were. -/
structure FoundTarget (target : Uuid) (options : TraversalOptions) (nodeId : Uuid)
    (edges : List GraphEdge) (st : PathState) (parentEdge : ParentMap) : Prop where
  edge : ∃ e ∈ edges, edgePassesFilter e options = true ∧ e.toNodeId = target ∧
    parentEdge.lookup target = some (nodeId, e.id)
  old : ∀ v ∈ st.visited, v ≠ target → parentEdge.lookup v = st.parentEdge.lookup v

theorem scanEdges_error {edges : List GraphEdge} {parentEdge : ParentMap} : ∀ {st : PathState}
    {pushed : List (Uuid × Nat)},
    scanEdges target options nodeId depth edges st pushed = .error parentEdge →
    FoundTarget target options nodeId edges st parentEdge := by
  induction edges with
  | nil =>
    intro st pushed h
    cases h
  | cons edge rest ih =>
    intro st pushed h
    have hlater : ∀ {st' : PathState}, FoundTarget target options nodeId rest st' parentEdge →
        ∃ e ∈ edge :: rest, edgePassesFilter e options = true ∧ e.toNodeId = target ∧
          parentEdge.lookup target = some (nodeId, e.id) := by
      intro st' hfound
      obtain ⟨e, he, hrest⟩ := hfound.edge
      exact ⟨e, List.mem_cons_of_mem _ he, hrest⟩
    rw [scanEdges] at h
    split at h
    · exact ⟨hlater (ih h), (ih h).old⟩
    next hpass =>
    split at h
    · next htarget =>
      obtain rfl := Except.error.inj h
      refine ⟨⟨edge, List.mem_cons_self, by simpa using hpass, htarget, ?_⟩, fun v _ hne => ?_⟩
      · rw [lookup_insert_eq, if_pos htarget.symm]
      · rw [lookup_insert_eq, if_neg (fun heq => hne (heq.trans htarget))]
    split at h
    · exact ⟨hlater (ih h), (ih h).old⟩
    · next hnew =>
      refine ⟨hlater (ih h), fun v hv hne => ?_⟩
      have hold : v ≠ edge.toNodeId := fun heq => hnew (heq ▸ hv)
      rw [(ih h).old v (List.mem_cons_of_mem _ hv) hne, lookup_insert_eq, if_neg hold]

end Scan

section Search

variable {g : GraphStore} {source target : Uuid} {options : TraversalOptions}

/-- The invariant of the search, with the nodes `done` explored: the nodes marked are those explored
or in the queue, the target is none of them, and the parent map leads back from each. -/
structure PathInv (g : GraphStore) (source target : Uuid) (options : TraversalOptions)
    (st : PathState) (queue done : List (Uuid × Nat)) : Prop where
  explored : (walksFrom g source options fun _ => True).Explored done queue
  within : ∀ p ∈ done ++ queue, ∀ m ∈ options.maxDepth, p.2 ≤ m
  visited : st.visited = ((done ++ queue).map Prod.fst).reverse
  nodup : st.visited.Nodup
  chain : ParentChain g options source st.parentEdge (done ++ queue)
  notTarget : ∀ p ∈ done ++ queue, p.1 ≠ target
  start : (source, 0) ∈ done ++ queue

namespace PathInv

variable {st st' : PathState} {item : Uuid × Nat} {queue pushed done : List (Uuid × Nat)}

theorem mem_visited (h : PathInv g source target options st queue done) {v : Uuid} :
    v ∈ st.visited ↔ ∃ d, (v, d) ∈ done ++ queue := by
  rw [h.visited, List.mem_reverse, List.mem_map]
  constructor
  · rintro ⟨⟨v', d⟩, hmem, rfl⟩
    exact ⟨d, hmem⟩
  · rintro ⟨d, hmem⟩
    exact ⟨(v, d), hmem, rfl⟩

/-- A node at the depth limit is not expanded. -/
theorem skip (h : PathInv g source target options st (item :: queue) done)
    (hdeep : ¬ ∀ m ∈ options.maxDepth, item.2 + 1 ≤ m) :
    PathInv g source target options st (queue ++ []) (done ++ [item]) := by
  have hassoc : done ++ [item] ++ (queue ++ []) = done ++ item :: queue := by simp
  refine ⟨?_, hassoc ▸ h.within, hassoc ▸ h.visited, h.nodup, hassoc ▸ h.chain,
    hassoc ▸ h.notTarget, hassoc ▸ h.start⟩
  exact h.explored.visit trivial (by simp) fun hin => absurd hin hdeep

/-- A scan of the edges of a node keeps the invariant. -/
theorem scan {new : List (Uuid × Nat)}
    (h : PathInv g source target options st (item :: queue) done)
    (hdeep : ∀ m ∈ options.maxDepth, item.2 + 1 ≤ m)
    (hs : Scanned target options item.1 item.2 (g.state.listEdgesFrom item.1) st st' new) :
    PathInv g source target options st' (queue ++ new) (done ++ [item]) := by
  have hassoc : done ++ [item] ++ (queue ++ new) = done ++ item :: queue ++ new := by simp
  have hold : ∀ p ∈ done ++ item :: queue, p.1 ∈ st.visited :=
    fun p hp => h.mem_visited.mpr ⟨p.2, hp⟩
  refine ⟨?_, ?_, ?_, hs.nodup h.nodup, ?_, ?_, hassoc ▸ List.mem_append_left _ h.start⟩
  · refine h.explored.visit trivial (fun p hp => ?_) ?_
    · obtain ⟨hdepth, _, e, he, hpass, hto, _⟩ := hs.entry p hp
      obtain ⟨hedge, hfrom⟩ := GraphStore.mem_listEdgesFrom.mp he
      exact ⟨hdepth, e, hedge, hpass, hfrom, hto⟩
    · rintro _ y ⟨e, hedge, hpass, hfrom, rfl⟩ _
      have hmark := (hs.closed e (GraphStore.mem_listEdgesFrom.mpr ⟨hedge, hfrom⟩) hpass).2
      rw [hs.visited] at hmark
      rcases List.mem_append.mp hmark with hnew | hmark
      · obtain ⟨p, hp, hto⟩ := List.mem_map.mp (List.mem_reverse.mp hnew)
        exact .inl (by rw [← hto, ← (hs.entry p hp).1]; exact hp)
      · exact .inr (h.mem_visited.mp hmark)
  · intro p hp
    rw [hassoc] at hp
    rcases List.mem_append.mp hp with hp | hp
    · exact h.within p hp
    · rw [(hs.entry p hp).1]
      exact hdeep
  · rw [hassoc, hs.visited, h.visited]
    simp
  · intro v d hmem
    rw [hassoc] at hmem ⊢
    rcases List.mem_append.mp hmem with hmem | hmem
    · rcases h.chain v d hmem with hstart | ⟨hne, e, he, hpass, hto, hlookup, d', hfrom, hd⟩
      · exact .inl hstart
      · refine .inr ⟨hne, e, he, hpass, hto, ?_, d', List.mem_append_left _ hfrom, hd⟩
        rw [hs.old v (hold _ hmem), hlookup]
    · obtain ⟨hdepth, _, e, he, hpass, hto, hlookup⟩ := hs.entry _ hmem
      obtain ⟨hedge, hfrom⟩ := GraphStore.mem_listEdgesFrom.mp he
      have hsource : v ≠ source := by
        rintro rfl
        have hnd := hs.nodup h.nodup
        rw [hs.visited] at hnd
        have hnew : v ∈ (new.map Prod.fst).reverse :=
          List.mem_reverse.mpr (List.mem_map_of_mem (f := Prod.fst) hmem)
        exact List.disjoint_of_nodup_append hnd hnew (hold _ h.start)
      refine .inr ⟨hsource, e, hedge, hpass, hto, by rw [hlookup, hfrom], item.2, ?_, hdepth⟩
      rw [hfrom]
      simp
  · intro p hp
    rw [hassoc] at hp
    rcases List.mem_append.mp hp with hp | hp
    · exact h.notTarget p hp
    · exact (hs.entry p hp).2.1

/-- A scan that meets the target leaves a parent map that leads from it back to the source, along a
shortest path. -/
theorem found (h : PathInv g source target options st (item :: queue) done)
    (hne : source ≠ target) (hdeep : ∀ m ∈ options.maxDepth, item.2 + 1 ≤ m)
    {parentEdge : ParentMap} (hf : FoundTarget target options item.1
      (g.state.listEdgesFrom item.1) st parentEdge) :
    ∃ path, (∀ fuel, item.2 + 1 < fuel →
        reconstructPath fuel source target parentEdge = some path) ∧
      IsShortestPath g source options target path ∧ path.edgeIds.length = item.2 + 1 := by
  obtain ⟨e, he, hpass, hto, hlookup⟩ := hf.edge
  obtain ⟨hedge, hfrom⟩ := GraphStore.mem_listEdgesFrom.mp he
  have hitem : item ∈ done ++ item :: queue := by simp
  have hchain : ParentChain g options source parentEdge
      (done ++ item :: queue ++ [(target, item.2 + 1)]) := by
    intro v d hmem
    rcases List.mem_append.mp hmem with hmem | hmem
    · rcases h.chain v d hmem with hstart | ⟨hv, e', he', hpass', hto', hlookup', d', hfrom', hd⟩
      · exact .inl hstart
      · refine .inr ⟨hv, e', he', hpass', hto', ?_, d', List.mem_append_left _ hfrom', hd⟩
        rw [hf.old v (h.mem_visited.mpr ⟨d, hmem⟩) (h.notTarget _ hmem), hlookup']
    · obtain ⟨rfl, rfl⟩ := Prod.mk.inj (List.mem_singleton.mp hmem)
      refine .inr ⟨hne.symm, e, hedge, hpass, hto, by rw [hlookup, hfrom], item.2, ?_, rfl⟩
      rw [hfrom]
      exact List.mem_append_left _ hitem
  have hentry : (target, item.2 + 1) ∈ done ++ item :: queue ++ [(target, item.2 + 1)] := by simp
  have hsingle : JoinedPath g options target [target].reverse ([] : List Uuid).reverse target :=
    .single target
  obtain ⟨path, hrun, hjoined, hlen⟩ := reconstructLoop_of_chain hchain hentry hsingle
  rw [List.length_nil, Nat.add_zero] at hlen
  refine ⟨path, hrun, ⟨hjoined, hlen ▸ hdeep, fun {nodeIds edgeIds} hpath => ?_⟩, hlen⟩
  -- A shorter path would have been found before the head of the queue.
  by_contra hshort
  have hwalk : (walksFrom g source options fun _ => True).Walk edgeIds.length target :=
    walk_iff.mpr ⟨nodeIds, edgeIds, hpath, rfl, fun _ _ => trivial⟩
  have hlow : ∀ p ∈ item :: queue, edgeIds.length ≤ p.2 := by
    intro p hp
    have hhead : item.2 ≤ p.2 := by
      rcases List.mem_cons.mp hp with rfl | hp
      · exact le_rfl
      · exact h.explored.head_le hp
    omega
  have hin : ∀ m ∈ options.maxDepth, edgeIds.length ≤ m := fun m hm => by
    have := hdeep m hm
    omega
  obtain ⟨d, _, hmem⟩ := h.explored.found hwalk hin hlow
  exact h.notTarget _ hmem rfl

/-- When the queue is empty no path within the limit leads to the target. -/
theorem not_connected (h : PathInv g source target options st [] done) :
    ¬ Connected g source options target := by
  rintro ⟨nodeIds, edgeIds, hpath, hin⟩
  have hwalk : (walksFrom g source options fun _ => True).Walk edgeIds.length target :=
    walk_iff.mpr ⟨nodeIds, edgeIds, hpath, rfl, fun _ _ => trivial⟩
  obtain ⟨d, _, hmem⟩ := h.explored.complete hwalk hin
  exact h.notTarget _ (List.mem_append_left _ hmem) rfl

theorem initial (hne : source ≠ target) : PathInv g source target options
    { visited := [source], parentEdge := ∅ } [(source, 0)] [] := by
  refine ⟨⟨by simp, ?_, ?_, by simp, by simp, by simp⟩, by simp, rfl, List.nodup_singleton _, ?_,
    ?_, by simp⟩
  · intro p hp _
    obtain rfl := List.mem_singleton.mp hp
    exact .init rfl trivial
  · rintro v rfl _ _
    exact ⟨0, le_rfl, by simp⟩
  · intro v d hmem
    exact .inl (Prod.mk.inj (List.mem_singleton.mp hmem))
  · intro p hp
    obtain rfl := List.mem_singleton.mp hp
    exact hne

end PathInv

/-- The iterations left: one for each entry of the queue and each node not yet marked. -/
def pathMeasure (s : GraphState) (st : PathState) (queue : List (Uuid × Nat)) : Nat :=
  queue.length + workLeft (fun _ => 1) s.nodes.keys st.visited

/-- What an iteration does: it keeps the invariant and lowers the measure, or it finds the target.
-/
theorem PathInv.step {st st' : PathState} {item : Uuid × Nat}
    {queue pushed done : List (Uuid × Nat)}
    (h : PathInv g source target options st (item :: queue) done)
    (hstep : pathStep g.state target options st item = .ok (st', pushed)) :
    PathInv g source target options st' (queue ++ pushed) (done ++ [item]) ∧
      pathMeasure g.state st' (queue ++ pushed) < pathMeasure g.state st (item :: queue) := by
  unfold pathStep at hstep
  split at hstep
  · next hdeep =>
    obtain ⟨rfl, rfl⟩ := Prod.mk.inj (Except.ok.inj hstep)
    exact ⟨h.skip (any_ge_iff.mp hdeep), by simp [pathMeasure]⟩
  · next hdeep =>
    obtain ⟨new, hpushed, hs⟩ := scanEdges_ok hstep
    rw [List.nil_append] at hpushed
    subst hpushed
    refine ⟨h.scan (not_not.mp (mt any_ge_iff.mpr hdeep)) hs, ?_⟩
    have hwork : workLeft (fun _ => 1) g.state.nodes.keys st'.visited + pushed.length ≤
        workLeft (fun _ => 1) g.state.nodes.keys st.visited := by
      have hnd := hs.nodup h.nodup
      rw [hs.visited] at hnd ⊢
      have happend := workLeft_append (fun _ => 1) g.state.nodes.keys hnd
        fun v hv _ => by
          obtain ⟨p, hp, rfl⟩ := List.mem_map.mp (List.mem_reverse.mp hv)
          obtain ⟨_, _, e, he, _, hto, _⟩ := hs.entry p hp
          exact AList.mem_keys.mp (hto ▸ (GraphStore.mem_listEdgesFrom.mp he).1.to_mem)
      simpa [Function.comp_def] using happend
    rw [pathMeasure, pathMeasure, List.length_append, List.length_cons]
    omega

/-- The search ends: it finds the target and the parent map leads back along a shortest path, or no
path leads to the target. -/
theorem pathLoop_run (g : GraphStore) (options : TraversalOptions) (hne : source ≠ target) :
    ∃ result, (∃ bound, ∀ fuel, bound < fuel →
        pathLoop g.state source target options fuel = some result) ∧
      ((∃ st, result = .ok st ∧ ¬ Connected g source options target) ∨
        ∃ parentEdge, result = .error parentEdge ∧ ∃ path n, (∀ fuel, n < fuel →
          reconstructPath fuel source target parentEdge = some path) ∧
          IsShortestPath g source options target path) := by
  obtain ⟨result, hrun, hpost⟩ := worklist_spec
    (pathStep g.state target options) (pathMeasure g.state)
    (fun st queue => ∃ done, PathInv g source target options st queue done)
    (fun parentEdge => ∃ path n, (∀ fuel, n < fuel →
      reconstructPath fuel source target parentEdge = some path) ∧
      IsShortestPath g source options target path)
    (fun st item queue st' pushed hinv hstep => by
      obtain ⟨done, h⟩ := hinv
      exact ⟨⟨_, (h.step hstep).1⟩, (h.step hstep).2⟩)
    (fun st item queue parentEdge hinv herror => by
      obtain ⟨done, h⟩ := hinv
      unfold pathStep at herror
      split at herror
      · cases herror
      · next hdeep =>
        obtain ⟨path, hpath, hshort, _⟩ := h.found hne (not_not.mp (mt any_ge_iff.mpr hdeep))
          (scanEdges_error herror)
        exact ⟨path, _, hpath, hshort⟩)
    ⟨_, PathInv.initial hne⟩
  refine ⟨result, ⟨_, hrun⟩, ?_⟩
  rcases hpost with ⟨st, rfl, done, h⟩ | ⟨parentEdge, rfl, hpath⟩
  · exact .inl ⟨st, rfl, h.not_connected⟩
  · exact .inr ⟨parentEdge, rfl, hpath⟩

end Search

/-- `findPath` between two distinct nodes ends, with the empty path or a shortest one. -/
theorem findPath_run (g : GraphStore) {source target : Uuid} (options : TraversalOptions)
    (hsource : source ∈ g.state.nodes) (htarget : target ∈ g.state.nodes)
    (hne : source ≠ target) :
    ∃ path, (∃ bound, ∀ fuel, bound < fuel →
        findPath g.state source target options fuel = some (.ok path)) ∧
      ((path = .empty ∧ ¬ Connected g source options target) ∨
        IsShortestPath g source options target path) := by
  obtain ⟨sourceNode, hsource⟩ := mem_iff_lookup.mp hsource
  obtain ⟨targetNode, htarget⟩ := mem_iff_lookup.mp htarget
  obtain ⟨result, ⟨bound, hrun⟩, hpost⟩ := pathLoop_run g options hne
  rcases hpost with ⟨st, rfl, hnone⟩ | ⟨parentEdge, rfl, path, n, hpath, hshort⟩
  · refine ⟨.empty, ⟨bound, fun fuel hfuel => ?_⟩, .inl ⟨rfl, hnone⟩⟩
    simp only [findPath, GraphStore.getNode_ok.mpr hsource, GraphStore.getNode_ok.mpr htarget, hne,
      if_false, hrun fuel hfuel]
  · refine ⟨path, ⟨max bound n, fun fuel hfuel => ?_⟩, .inr hshort⟩
    have hloop := hrun fuel (lt_of_le_of_lt (le_max_left _ _) hfuel)
    have hback := hpath fuel (lt_of_le_of_lt (le_max_right _ _) hfuel)
    simp only [findPath, GraphStore.getNode_ok.mpr hsource, GraphStore.getNode_ok.mpr htarget, hne,
      if_false, hloop, hback, Option.map_some]

/-- `findPath` between two distinct nodes ends; its path is not empty exactly if the target can be
reached, and then it is a shortest one; and no parent map that the search builds lacks the path. -/
theorem findPath_shortest (g : GraphStore) {source target : Uuid} (options : TraversalOptions)
    (hsource : source ∈ g.state.nodes) (htarget : target ∈ g.state.nodes)
    (hne : source ≠ target) :
    (∃ path, (∃ bound, ∀ fuel, bound < fuel →
        findPath g.state source target options fuel = some (.ok path)) ∧
      (path.isEmpty = false ↔ Connected g source options target) ∧
      (path.isEmpty = false → IsShortestPath g source options target path)) ∧
    ∀ fuel parentEdge, pathLoop g.state source target options fuel = some (.error parentEdge) →
      ∃ path, path.isEmpty = false ∧ ∃ bound, ∀ fuel, bound < fuel →
        reconstructPath fuel source target parentEdge = some path := by
  constructor
  · obtain ⟨path, hrun, ⟨rfl, hnone⟩ | hshort⟩ := findPath_run g options hsource htarget hne
    · refine ⟨.empty, hrun, ⟨fun h => ?_, fun h => absurd h hnone⟩, fun h => ?_⟩
      · cases h
      · cases h
    · have hconnected : Connected g source options target :=
        ⟨path.nodeIds, path.edgeIds, hshort.joined, hshort.within⟩
      exact ⟨path, hrun, ⟨fun _ => hconnected, fun _ => hshort.not_empty⟩, fun _ => hshort⟩
  · intro fuel parentEdge hloop
    obtain ⟨result, ⟨bound, hrun⟩, hpost⟩ := pathLoop_run g options hne
    have hsame : result = .error parentEdge := by
      have hmore := worklist_mono hloop (Nat.le_max_left fuel (bound + 1))
      have hbound := hrun (max fuel (bound + 1)) (by omega)
      exact Option.some.inj (hbound.symm.trans hmore)
    rcases hpost with ⟨st, hok, _⟩ | ⟨parentEdge', herror, path, n, hpath, hshort⟩
    · rw [hok] at hsame
      cases hsame
    · rw [herror] at hsame
      obtain rfl := Except.error.inj hsame
      exact ⟨path, hshort.not_empty, n, hpath⟩

theorem findPath_shortest_line :
    (∃ path, (∃ bound, ∀ fuel, bound < fuel →
        findPath GraphStore.line.state 1 3 {} fuel = some (.ok path)) ∧
      (path.isEmpty = false ↔ Connected GraphStore.line 1 {} 3) ∧
      (path.isEmpty = false → IsShortestPath GraphStore.line 1 {} 3 path)) ∧
    ∀ fuel parentEdge, pathLoop GraphStore.line.state 1 3 {} fuel = some (.error parentEdge) →
      ∃ path, path.isEmpty = false ∧ ∃ bound, ∀ fuel, bound < fuel →
        reconstructPath fuel 1 3 parentEdge = some path :=
  findPath_shortest GraphStore.line {} (by decide) (by decide) (by decide)

end IntentRebase
