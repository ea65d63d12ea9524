import IntentRebase.Graph.Traversal

/-! Reachability is exact: the search returns each node at the end of an admissible path once, and
its edges lead from every one of them back to the start. -/

namespace IntentRebase

open Kit

/-- A stored edge that passes the filter leads from one node to the other. -/
def FollowsEdge (g : GraphStore) (options : TraversalOptions) (u v : Uuid) : Prop :=
  ∃ e, g.HasEdge e ∧ edgePassesFilter e options = true ∧ e.fromNodeId = u ∧ e.toNodeId = v

/-- The walks from a start along edges that pass the filter, through the nodes that are `ok`. -/
def walksFrom (g : GraphStore) (start : Uuid) (options : TraversalOptions) (ok : Uuid → Prop) :
    Search Uuid where
  base := 0
  limit := options.maxDepth
  init v := v = start
  edge := FollowsEdge g options
  ok := ok

/-- The walks from the start whose other nodes all pass the node filter. -/
def reachSearch (g : GraphStore) (start : Uuid) (options : TraversalOptions) : Search Uuid :=
  walksFrom g start options fun v => v = start ∨ passesNodeFilter g.state options v = true

/-- Some admissible walk of at most `maxDepth` edges ends at the node. -/
def Reachable (g : GraphStore) (start : Uuid) (options : TraversalOptions) (v : Uuid) : Prop :=
  ∃ n, (reachSearch g start options).Within n ∧ (reachSearch g start options).Walk n v

/-- The node reached after at most `n` steps back along the edges, each from the end of an edge to
its start. -/
def followBack (edges : List GraphEdge) : Nat → Uuid → Uuid
  | 0, v => v
  | n + 1, v =>
    match edges.find? (·.toNodeId = v) with
    | some e => followBack edges n e.fromNodeId
    | none => v

theorem any_gt_iff {limit : Option Nat} {d : Nat} :
    limit.any (d > ·) = true ↔ ¬ ∀ m ∈ limit, d ≤ m := by
  cases limit <;> simp

theorem any_ge_iff {limit : Option Nat} {d : Nat} :
    limit.any (d ≥ ·) = true ↔ ¬ ∀ m ∈ limit, d + 1 ≤ m := by
  cases limit with
  | none => simp
  | some m =>
    have hlt : d ≥ m ↔ ¬ d + 1 ≤ m := by omega
    rw [Option.any_some, decide_eq_true_eq, hlt]
    exact not_congr ⟨fun h m' hm => Option.some.inj hm ▸ h, fun h => h m rfl⟩

/-- The node and depth of an entry of the queue. -/
def ReachItem.position (item : ReachItem) : Uuid × Nat := (item.nodeId, item.depth)

section Step

variable {s : GraphState} {start : Uuid} {options : TraversalOptions} {st st' : ReachState}
  {item : ReachItem} {pushed : List ReachItem}

/-- What an iteration does: it skips the entry, or it visits the node and pushes the entries of the
edges that leave it, if they are within the limit. -/
theorem reachStep_cases (h : reachStep s start options st item = .ok (st', pushed)) :
    (st' = st ∧ pushed = [] ∧ ((item.nodeId = start ∧ options.includeStart = false) ∨
      (¬ ∀ m ∈ options.maxDepth, item.depth ≤ m) ∨
      passesNodeFilter s options item.nodeId = false ∨ item.nodeId ∈ st.visited)) ∨
    (¬ (item.nodeId = start ∧ options.includeStart = false) ∧
      (∀ m ∈ options.maxDepth, item.depth ≤ m) ∧
      passesNodeFilter s options item.nodeId = true ∧ item.nodeId ∉ st.visited ∧
      st' = { visited := item.nodeId :: st.visited
              incomingEdges := st.incomingEdges ++ item.edgeId.toList } ∧
      ((¬ (∀ m ∈ options.maxDepth, item.depth + 1 ≤ m) ∧ pushed = []) ∨
        pushed = outgoingItems s options item.nodeId (item.depth + 1))) := by
  unfold reachStep at h
  split at h
  · next hskip =>
    cases h
    exact .inl ⟨rfl, rfl, .inl (by simpa using hskip)⟩
  next hskip =>
  split at h
  · next hdeep =>
    cases h
    exact .inl ⟨rfl, rfl, .inr (.inl (any_gt_iff.mp hdeep))⟩
  next hdeep =>
  split at h
  · next hfilter =>
    cases h
    exact .inl ⟨rfl, rfl, .inr (.inr (.inl (by simpa using hfilter)))⟩
  next hfilter =>
  split at h
  · next hvisited =>
    cases h
    exact .inl ⟨rfl, rfl, .inr (.inr (.inr hvisited))⟩
  next hvisited =>
  obtain ⟨rfl, rfl⟩ := Prod.mk.inj (Except.ok.inj h)
  refine .inr ⟨by simpa using hskip, not_not.mp (mt any_gt_iff.mpr hdeep), by simpa using hfilter,
    hvisited, rfl, ?_⟩
  split
  · next hmax => exact .inl ⟨any_ge_iff.mp hmax, rfl⟩
  · exact .inr rfl

end Step

section Search

variable {g : GraphStore} {start : Uuid} {options : TraversalOptions}

theorem mem_outgoingItems {v : Uuid} {d : Nat} {i : ReachItem} :
    i ∈ outgoingItems g.state options v d ↔ ∃ e, g.HasEdge e ∧
      edgePassesFilter e options = true ∧ e.fromNodeId = v ∧
      i = { nodeId := e.toNodeId, edgeId := some e.id, depth := d } := by
  simp only [outgoingItems, List.mem_map, List.mem_filter, GraphStore.mem_listEdgesFrom]
  constructor
  · rintro ⟨e, ⟨⟨he, hfrom⟩, hpass⟩, rfl⟩
    exact ⟨e, he, hpass, hfrom, rfl⟩
  · rintro ⟨e, he, hpass, hfrom, rfl⟩
    exact ⟨e, ⟨⟨he, hfrom⟩, hpass⟩, rfl⟩

/-- The edge leads into the node from a node explored one step before it. -/
def LinksTo (g : GraphStore) (options : TraversalOptions) (done : List (Uuid × Nat)) (v : Uuid)
    (d : Nat) (e : GraphEdge) : Prop :=
  g.HasEdge e ∧ edgePassesFilter e options = true ∧ e.toNodeId = v ∧
    ∃ d', (e.fromNodeId, d') ∈ done ∧ d = d' + 1

theorem LinksTo.mono {done done' : List (Uuid × Nat)} {v : Uuid} {d : Nat} {e : GraphEdge}
    (h : LinksTo g options done v d e) (hsub : done ⊆ done') : LinksTo g options done' v d e := by
  obtain ⟨he, hpass, hto, d', hd', hd⟩ := h
  exact ⟨he, hpass, hto, d', hsub hd', hd⟩

/-- The invariant of the search: `done` are the explored nodes and `tree` the edges they were
reached by. -/
structure ReachInv (g : GraphStore) (start : Uuid) (options : TraversalOptions) (st : ReachState)
    (queue : List ReachItem) (done : List (Uuid × Nat)) (tree : List GraphEdge) : Prop where
  explored : (reachSearch g start options).Explored done (queue.map ReachItem.position)
  within : ∀ p ∈ done, (reachSearch g start options).Within p.2
  startDone : (start, 0) ∈ done
  links : ∀ v d, (v, d) ∈ done → v ≠ start → ∃ e ∈ tree, LinksTo g options done v d e
  treeDone : ∀ e ∈ tree, ∃ d, (e.toNodeId, d) ∈ done ∧ LinksTo g options done e.toNodeId d e
  treeNodup : (tree.map GraphEdge.toNodeId).Nodup
  startNotMem : start ∉ tree.map GraphEdge.toNodeId
  visited : st.visited = (tree.map GraphEdge.toNodeId).reverse ++
    if options.includeStart then [start] else []
  incoming : st.incomingEdges = tree.map GraphEdge.id
  items : ∀ i ∈ queue, ∃ e, LinksTo g options done i.nodeId i.depth e ∧ i.edgeId = some e.id

namespace ReachInv

variable {st st' : ReachState} {item : ReachItem} {queue pushed : List ReachItem}
  {done : List (Uuid × Nat)} {tree : List GraphEdge}

theorem mem_visited (h : ReachInv g start options st queue done tree) {v : Uuid} :
    v ∈ st.visited ↔ v ∈ tree.map GraphEdge.toNodeId ∨ v = start ∧ options.includeStart = true := by
  rw [h.visited, List.mem_append, List.mem_reverse]
  cases options.includeStart <;> simp

/-- A node other than the start has been explored if and only if an edge of the tree enters it. -/
theorem mem_tree (h : ReachInv g start options st queue done tree) {v : Uuid} (hv : v ≠ start) :
    v ∈ tree.map GraphEdge.toNodeId ↔ ∃ d, (v, d) ∈ done := by
  constructor
  · intro hmem
    obtain ⟨e, he, rfl⟩ := List.mem_map.mp hmem
    obtain ⟨d, hd, _⟩ := h.treeDone e he
    exact ⟨d, hd⟩
  · rintro ⟨d, hd⟩
    obtain ⟨e, he, _, _, hto, _⟩ := h.links v d hd hv
    exact List.mem_map.mpr ⟨e, he, hto⟩

theorem skip (h : ReachInv g start options st (item :: queue) done tree)
    (hskip : (item.nodeId = start ∧ options.includeStart = false) ∨
      (¬ ∀ m ∈ options.maxDepth, item.depth ≤ m) ∨
      passesNodeFilter g.state options item.nodeId = false ∨ item.nodeId ∈ st.visited) :
    ReachInv g start options st queue done tree := by
  have hdrop : ¬ (reachSearch g start options).ok item.nodeId ∨
      ¬ (reachSearch g start options).Within item.depth ∨ ∃ d', (item.nodeId, d') ∈ done := by
    by_cases hstart : item.nodeId = start
    · exact .inr (.inr ⟨0, hstart ▸ h.startDone⟩)
    rcases hskip with ⟨heq, _⟩ | hdeep | hfilter | hvisited
    · exact absurd heq hstart
    · exact .inr (.inl hdeep)
    · refine .inl ?_
      rintro (heq | hpass)
      · exact hstart heq
      · rw [hfilter] at hpass
        cases hpass
    · rcases h.mem_visited.mp hvisited with htree | ⟨heq, _⟩
      · exact .inr (.inr ((h.mem_tree hstart).mp htree))
      · exact absurd heq hstart
  exact { h with
    explored := h.explored.drop hdrop
    items := fun i hi => h.items i (List.mem_cons_of_mem _ hi) }

theorem visit (h : ReachInv g start options st (item :: queue) done tree)
    (hnew : ¬ (item.nodeId = start ∧ options.includeStart = false))
    (hwithin : ∀ m ∈ options.maxDepth, item.depth ≤ m)
    (hpass : passesNodeFilter g.state options item.nodeId = true)
    (hvisited : item.nodeId ∉ st.visited)
    (hpushed : (¬ (∀ m ∈ options.maxDepth, item.depth + 1 ≤ m) ∧ pushed = []) ∨
      pushed = outgoingItems g.state options item.nodeId (item.depth + 1)) :
    ∃ e, ReachInv g start options
      { visited := item.nodeId :: st.visited
        incomingEdges := st.incomingEdges ++ item.edgeId.toList }
      (queue ++ pushed) (done ++ [item.position]) (tree ++ [e]) := by
  obtain ⟨e, hlink, hid⟩ := h.items item List.mem_cons_self
  have hstart : item.nodeId ≠ start := by
    intro heq
    cases hinclude : options.includeStart with
    | false => exact hnew ⟨heq, hinclude⟩
    | true => exact hvisited (h.mem_visited.mpr (.inr ⟨heq, hinclude⟩))
  have htree : item.nodeId ∉ tree.map GraphEdge.toNodeId := fun hmem =>
    hvisited (h.mem_visited.mpr (.inl hmem))
  have hto : e.toNodeId = item.nodeId := hlink.2.2.1
  have hgrow : done ⊆ done ++ [item.position] := List.subset_append_left _ _
  have hdone : (item.nodeId, item.depth) ∈ done ++ [item.position] := by
    simp [ReachItem.position]
  have hpushedMem : ∀ i ∈ pushed, ∃ e', g.HasEdge e' ∧ edgePassesFilter e' options = true ∧
      e'.fromNodeId = item.nodeId ∧
      i = { nodeId := e'.toNodeId, edgeId := some e'.id, depth := item.depth + 1 } := by
    intro i hi
    rcases hpushed with ⟨_, rfl⟩ | rfl
    · cases hi
    · exact mem_outgoingItems.mp hi
  refine ⟨e, ?_, ?_, ?_, ?_, ?_, ?_, ?_, ?_, ?_, ?_⟩
  · rw [List.map_append]
    refine h.explored.visit (.inr hpass) ?_ ?_
    · intro p hp
      obtain ⟨i, hi, rfl⟩ := List.mem_map.mp hp
      obtain ⟨e', he', hpass', hfrom, rfl⟩ := hpushedMem i hi
      exact ⟨rfl, e', he', hpass', hfrom, rfl⟩
    · rintro hin y ⟨e', he', hpass', hfrom, rfl⟩ _
      rcases hpushed with ⟨hdeep, _⟩ | rfl
      · exact absurd hin hdeep
      · exact .inl (List.mem_map.mpr
          ⟨_, mem_outgoingItems.mpr ⟨e', he', hpass', hfrom, rfl⟩, rfl⟩)
  · intro p hp
    rcases List.mem_append.mp hp with hp | hp
    · exact h.within p hp
    · obtain rfl := List.mem_singleton.mp hp
      exact hwithin
  · exact hgrow h.startDone
  · intro v d hmem hv
    rcases List.mem_append.mp hmem with hmem | hmem
    · obtain ⟨e', he', hlink'⟩ := h.links v d hmem hv
      exact ⟨e', List.mem_append_left _ he', hlink'.mono hgrow⟩
    · obtain ⟨rfl, rfl⟩ := Prod.mk.inj (List.mem_singleton.mp hmem)
      exact ⟨e, by simp, hlink.mono hgrow⟩
  · intro e' he'
    rcases List.mem_append.mp he' with he' | he'
    · obtain ⟨d, hd, hlink'⟩ := h.treeDone e' he'
      exact ⟨d, hgrow hd, hlink'.mono hgrow⟩
    · obtain rfl := List.mem_singleton.mp he'
      rw [hto]
      exact ⟨item.depth, hdone, hlink.mono hgrow⟩
  · rw [List.map_append, List.map_singleton, hto]
    exact h.treeNodup.append (List.nodup_singleton _) (List.disjoint_singleton.mpr htree)
  · rw [List.map_append, List.mem_append, List.map_singleton, List.mem_singleton, hto]
    rintro (hmem | heq)
    · exact h.startNotMem hmem
    · exact hstart heq.symm
  · rw [h.visited]
    simp [hto]
  · rw [h.incoming, hid]
    simp
  · intro i hi
    rcases List.mem_append.mp hi with hi | hi
    · obtain ⟨e', hlink', hid'⟩ := h.items i (List.mem_cons_of_mem _ hi)
      exact ⟨e', hlink'.mono hgrow, hid'⟩
    · obtain ⟨e', he', hpass', hfrom, rfl⟩ := hpushedMem i hi
      exact ⟨e', ⟨he', hpass', rfl, item.depth, hfrom ▸ hdone, rfl⟩, rfl⟩

/-- An iteration keeps the invariant, of some explored nodes and some tree. -/
theorem step (h : ReachInv g start options st (item :: queue) done tree)
    (hstep : reachStep g.state start options st item = .ok (st', pushed)) :
    ∃ done' tree', ReachInv g start options st' (queue ++ pushed) done' tree' := by
  rcases reachStep_cases hstep with ⟨rfl, rfl, hskip⟩ | ⟨hnew, hin, hpass, hvisited, rfl, hpushed⟩
  · exact ⟨done, tree, by simpa using h.skip hskip⟩
  · obtain ⟨e, hinv⟩ := h.visit hnew hin hpass hvisited hpushed
    exact ⟨_, _, hinv⟩

theorem initial (g : GraphStore) (start : Uuid) (options : TraversalOptions) :
    ReachInv g start options
      { visited := if options.includeStart then [start] else [], incomingEdges := [] }
      (outgoingItems g.state options start 1) [(start, 0)] [] := by
  have hwalk : (reachSearch g start options).Walk 0 start := .init rfl (.inl rfl)
  have hitems : ∀ i ∈ outgoingItems g.state options start 1, ∃ e, g.HasEdge e ∧
      edgePassesFilter e options = true ∧ e.fromNodeId = start ∧
      i = { nodeId := e.toNodeId, edgeId := some e.id, depth := 1 } :=
    fun i hi => mem_outgoingItems.mp hi
  have hdepth : ∀ p ∈ (outgoingItems g.state options start 1).map ReachItem.position,
      p.2 = 1 ∧ FollowsEdge g options start p.1 := by
    intro p hp
    obtain ⟨i, hi, rfl⟩ := List.mem_map.mp hp
    obtain ⟨e, he, hpass, hfrom, rfl⟩ := hitems i hi
    exact ⟨rfl, e, he, hpass, hfrom, rfl⟩
  refine ⟨⟨?_, ?_, ?_, ?_, ?_, ?_⟩, ?_, by simp, ?_, by simp, by simp, by simp, by simp, by simp,
    ?_⟩
  · simpa using hwalk
  · intro p hp hok
    obtain ⟨hone, hedge⟩ := hdepth p hp
    rw [hone]
    exact hwalk.step hedge hok
  · rintro v rfl _ _
    exact ⟨0, le_rfl, by simp⟩
  · rintro x d y hx _ ⟨e, he, hpass, hfrom, rfl⟩ _
    obtain ⟨rfl, rfl⟩ := Prod.mk.inj (List.mem_singleton.mp hx)
    exact ⟨1, le_rfl, List.mem_append_right _ (List.mem_map.mpr
      ⟨_, mem_outgoingItems.mpr ⟨e, he, hpass, hfrom, rfl⟩, rfl⟩)⟩
  · rw [List.map_append, List.map_singleton, List.singleton_append, List.pairwise_cons]
    refine ⟨fun d _ => Nat.zero_le d, List.pairwise_of_forall_mem_list fun a ha b hb => ?_⟩
    obtain ⟨p, hp, rfl⟩ := List.mem_map.mp ha
    obtain ⟨q, hq, rfl⟩ := List.mem_map.mp hb
    exact ((hdepth p hp).1.trans (hdepth q hq).1.symm).le
  · intro p hp q hq
    rw [(hdepth p hp).1, (hdepth q hq).1]
    exact Nat.le_succ 1
  · intro p hp m _
    obtain rfl := List.mem_singleton.mp hp
    exact Nat.zero_le m
  · intro v d hmem hv
    exact absurd (Prod.mk.inj (List.mem_singleton.mp hmem)).1 hv
  · intro i hi
    obtain ⟨e, he, hpass, hfrom, rfl⟩ := hitems i hi
    exact ⟨e, ⟨he, hpass, rfl, 0, by simp [hfrom], rfl⟩, rfl⟩

end ReachInv

/-- The number of edges that leave a node. -/
def outDegree (s : GraphState) (v : Uuid) : Nat := (s.listEdgesFrom v).length

theorem mem_keys_of_outDegree {s : GraphState} {v : Uuid} (h : outDegree s v ≠ 0) :
    v ∈ s.edgesByFrom.keys := by
  rw [mem_keys_iff_lookup]
  cases hv : s.edgesByFrom.lookup v with
  | none => simp [outDegree, GraphState.listEdgesFrom, indexEntry, hv] at h
  | some ids => exact ⟨ids, rfl⟩

/-- The iterations left: one for each entry of the queue, and one for each edge that leaves a node
not yet visited. -/
def reachMeasure (s : GraphState) (st : ReachState) (queue : List ReachItem) : Nat :=
  queue.length + workLeft (outDegree s) s.edgesByFrom.keys st.visited

theorem reachMeasure_lt {s : GraphState} {st st' : ReachState} {item : ReachItem}
    {queue pushed : List ReachItem} (h : reachStep s start options st item = .ok (st', pushed)) :
    reachMeasure s st' (queue ++ pushed) < reachMeasure s st (item :: queue) := by
  unfold reachMeasure
  rw [List.length_append, List.length_cons]
  rcases reachStep_cases h with ⟨rfl, rfl, _⟩ | ⟨_, _, _, hvisited, rfl, hpushed⟩
  · rw [List.length_nil]
    omega
  · have hwork := workLeft_cons (outDegree s) s.edgesByFrom.keys hvisited
      mem_keys_of_outDegree
    have hlen : pushed.length ≤ outDegree s item.nodeId := by
      rcases hpushed with ⟨_, rfl⟩ | rfl
      · exact Nat.zero_le _
      · rw [outgoingItems, List.length_map]
        exact List.length_filter_le _ _
    dsimp only
    omega

theorem followBack_start {tree : List GraphEdge} (h : start ∉ tree.map GraphEdge.toNodeId)
    (n : Nat) : followBack tree n start = start := by
  cases n with
  | zero => rfl
  | succ n =>
    have hfind : tree.find? (·.toNodeId = start) = none := by
      rw [List.find?_eq_none]
      intro e he heq
      exact h (List.mem_map.mpr ⟨e, he, by simpa using heq⟩)
    rw [followBack, hfind]

/-- In a list of edges into distinct nodes, an edge is the one that enters its node. -/
theorem find?_of_nodup {tree : List GraphEdge} (hnd : (tree.map GraphEdge.toNodeId).Nodup)
    {e : GraphEdge} (he : e ∈ tree) : tree.find? (·.toNodeId = e.toNodeId) = some e := by
  induction tree with
  | nil => cases he
  | cons f rest ih =>
    rw [List.map_cons, List.nodup_cons] at hnd
    rcases List.mem_cons.mp he with rfl | hmem
    · simp
    · have hne : f.toNodeId ≠ e.toNodeId := fun heq => hnd.1 (heq ▸ List.mem_map_of_mem hmem)
      rw [List.find?_cons_of_neg (by simpa using hne)]
      exact ih hnd.2 hmem

/-- From an explored node the edges of the tree lead back to the start. -/
theorem ReachInv.followBack_done {st : ReachState} {queue : List ReachItem}
    {done : List (Uuid × Nat)} {tree : List GraphEdge}
    (h : ReachInv g start options st queue done tree) {d : Nat} :
    ∀ {v}, (v, d) ∈ done → ∀ n, d ≤ n → followBack tree n v = start := by
  induction d with
  | zero =>
    intro v hv n _
    by_cases hstart : v = start
    · rw [hstart, followBack_start h.startNotMem]
    · obtain ⟨e, _, _, _, _, d', _, hd⟩ := h.links v 0 hv hstart
      cases hd
  | succ d ih =>
    intro v hv n hn
    by_cases hstart : v = start
    · rw [hstart, followBack_start h.startNotMem]
    · obtain ⟨e, he, _, _, rfl, d', hfrom, hd⟩ := h.links v (d + 1) hv hstart
      obtain rfl : d = d' := by omega
      obtain ⟨n, rfl⟩ : ∃ m, n = m + 1 := ⟨n - 1, by omega⟩
      rw [followBack, find?_of_nodup h.treeNodup he]
      exact ih hfrom n (by omega)

/-- The visited nodes are the admissible ones, when the queue is empty. -/
theorem ReachInv.mem_visited_iff {st : ReachState} {done : List (Uuid × Nat)}
    {tree : List GraphEdge} (h : ReachInv g start options st [] done tree) (v : Uuid) :
    v ∈ st.visited ↔
      if v = start then options.includeStart = true else Reachable g start options v := by
  rw [h.mem_visited]
  split
  · next hv =>
    subst hv
    simp [h.startNotMem]
  · next hv =>
    rw [h.mem_tree hv]
    simp only [hv, false_and, or_false]
    constructor
    · rintro ⟨d, hd⟩
      exact ⟨d, h.within _ hd, h.explored.doneWalk _ hd⟩
    · rintro ⟨n, hin, hwalk⟩
      obtain ⟨d, _, hd⟩ := h.explored.complete hwalk hin
      exact ⟨d, hd⟩

theorem ReachInv.nodup_visited {st : ReachState} {queue : List ReachItem}
    {done : List (Uuid × Nat)} {tree : List GraphEdge}
    (h : ReachInv g start options st queue done tree) : st.visited.Nodup := by
  rw [h.visited]
  refine List.Nodup.append (List.nodup_reverse.mpr h.treeNodup) ?_ ?_
  · split <;> simp
  · intro v hv hstart
    rw [List.mem_reverse] at hv
    split at hstart
    · exact h.startNotMem (List.mem_singleton.mp hstart ▸ hv)
    · cases hstart

end Search

/-- The result holds exactly the nodes at the ends of admissible paths, each once, the start itself
if it is asked for; its edges are stored ones, one into each of the other nodes, and lead back from
every node to the start. -/
structure ExactReachability (g : GraphStore) (start : Uuid) (options : TraversalOptions)
    (result : ReachabilityResult) : Prop where
  nodup : result.reachableNodes.Nodup
  mem : ∀ v, v ∈ result.reachableNodes ↔
    if v = start then options.includeStart = true else Reachable g start options v
  tree : ∃ tree : List GraphEdge, tree.map GraphEdge.id = result.incomingEdges ∧
    (∀ e ∈ tree, g.HasEdge e ∧ edgePassesFilter e options = true ∧
      (e.fromNodeId = start ∨ e.fromNodeId ∈ result.reachableNodes)) ∧
    (tree.map GraphEdge.toNodeId).Perm (result.reachableNodes.filter (· ≠ start)) ∧
    ∀ v ∈ result.reachableNodes, ∃ n, ∀ m, n ≤ m → followBack tree m v = start

/-- What the invariant says of the empty queue. -/
theorem ReachInv.exact {g : GraphStore} {start : Uuid} {options : TraversalOptions}
    {st : ReachState} {done : List (Uuid × Nat)} {tree : List GraphEdge}
    (h : ReachInv g start options st [] done tree) (order : IterOrder Uuid) :
    ExactReachability g start options
      { reachableNodes := order.apply st.visited, incomingEdges := st.incomingEdges } := by
  refine ⟨(order.perm _).nodup_iff.mpr h.nodup_visited,
    fun v => order.mem_apply.trans (h.mem_visited_iff v), tree, h.incoming.symm, ?_, ?_, ?_⟩
  · intro e he
    obtain ⟨d, _, hedge, hpass, _, d', hfrom, _⟩ := h.treeDone e he
    refine ⟨hedge, hpass, ?_⟩
    by_cases heq : e.fromNodeId = start
    · exact .inl heq
    · exact .inr (order.mem_apply.mpr (h.mem_visited.mpr (.inl ((h.mem_tree heq).mpr ⟨d', hfrom⟩))))
  · have hfilter : (tree.map GraphEdge.toNodeId).reverse = st.visited.filter (· ≠ start) := by
      rw [h.visited, List.filter_append, List.filter_eq_self.mpr, List.filter_eq_nil_iff.mpr,
        List.append_nil]
      · intro v hv
        split at hv
        · simp [List.mem_singleton.mp hv]
        · cases hv
      · intro v hv
        have hne : v ≠ start := fun heq => h.startNotMem (heq ▸ List.mem_reverse.mp hv)
        simpa using hne
    calc (tree.map GraphEdge.toNodeId).Perm (tree.map GraphEdge.toNodeId).reverse :=
          (List.reverse_perm _).symm
      _ = st.visited.filter (· ≠ start) := hfilter
      (st.visited.filter (· ≠ start)).Perm _ := ((order.perm _).filter _).symm
  · intro v hv
    by_cases hne : v = start
    · exact ⟨0, fun m _ => hne ▸ followBack_start h.startNotMem m⟩
    · obtain hmem | ⟨heq, _⟩ := h.mem_visited.mp (order.mem_apply.mp hv)
      · obtain ⟨d, hd⟩ := (h.mem_tree hne).mp hmem
        exact ⟨d, fun m hm => h.followBack_done hd m hm⟩
      · exact absurd heq hne

/-- The search ends with the queue empty. -/
theorem findReachable_run (g : GraphStore) (start : Uuid) (options : TraversalOptions)
    (order : IterOrder Uuid) (hstart : start ∈ g.state.nodes) :
    ∃ st done tree, ReachInv g start options st [] done tree ∧ ∃ bound, ∀ fuel, bound < fuel →
      findReachable g.state start options order fuel =
        some (.ok { reachableNodes := order.apply st.visited,
                    incomingEdges := st.incomingEdges }) := by
  obtain ⟨node, hnode⟩ := mem_iff_lookup.mp hstart
  obtain ⟨result, hrun, hpost⟩ := worklist_spec
    (reachStep g.state start options) (reachMeasure g.state)
    (fun st queue => ∃ done tree, ReachInv g start options st queue done tree) (fun _ => False)
    (fun st item queue st' pushed hinv hstep => by
      obtain ⟨done, tree, h⟩ := hinv
      exact ⟨h.step hstep, reachMeasure_lt hstep⟩)
    (fun st item queue r _ herror => by
      unfold reachStep at herror
      repeat' split at herror
      all_goals cases herror)
    ⟨_, _, ReachInv.initial g start options⟩
  obtain ⟨st, rfl, done, tree, h⟩ | ⟨_, _, hfalse⟩ := hpost
  swap
  · exact hfalse.elim
  refine ⟨st, done, tree, h, reachMeasure g.state
    { visited := if options.includeStart then [start] else [], incomingEdges := [] }
    (outgoingItems g.state options start 1), fun fuel hfuel => ?_⟩
  rw [findReachable, GraphStore.getNode_ok.mpr hnode]
  simp only [hrun fuel hfuel]
  rfl

/-- `findReachable` ends, and its result is exact. -/
theorem findReachable_exact (g : GraphStore) (start : Uuid) (options : TraversalOptions)
    (order : IterOrder Uuid) (hstart : start ∈ g.state.nodes) :
    ∃ result, ExactReachability g start options result ∧ ∃ bound, ∀ fuel, bound < fuel →
      findReachable g.state start options order fuel = some (.ok result) := by
  obtain ⟨st, done, tree, h, hrun⟩ := findReachable_run g start options order hstart
  exact ⟨_, h.exact order, hrun⟩

theorem findReachable_exact_line :
    ∃ result, ExactReachability GraphStore.line 1 {} result ∧ ∃ bound, ∀ fuel, bound < fuel →
      findReachable GraphStore.line.state 1 {} (IterOrder.id Uuid) fuel = some (.ok result) :=
  findReachable_exact GraphStore.line 1 {} (IterOrder.id Uuid) (by decide)

end IntentRebase
