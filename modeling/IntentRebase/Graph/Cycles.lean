import IntentRebase.Graph.Traversal
import IntentRebase.Kit.DepthFirst

/-! Cycle detection is sound and complete: a reported path is a closed walk of the workflow, and
when none is reported every node has been finished, so that no cycle runs through any of them. -/

namespace IntentRebase

open Kit Relation

/-- The second node is listed as a neighbour of the first. -/
def Adjacent (adj : HashMap Uuid (List Uuid)) (u v : Uuid) : Prop := v ∈ indexEntry adj u

/-- The invariant of the search: grey nodes are those of the path, black ones those that `order`
lists as finished, and the others are white. -/
structure DfsInv (adj : HashMap Uuid (List Uuid)) (nodes : List Uuid) (st : DfsState)
    (order : List Uuid) : Prop where
  white : ∀ v, st.color.lookup v = some .white ↔ v ∈ nodes ∧ v ∉ st.path ∧ v ∉ order
  gray : ∀ v, st.color.lookup v = some .gray ↔ v ∈ st.path
  black : ∀ v, st.color.lookup v = some .black ↔ v ∈ order
  chain : st.path.IsChain (Adjacent adj)
  nodup : st.path.Nodup
  finished : Finished (Adjacent adj) order
  cycle : st.cycle = none

/-- What a search leaves: a closed walk, or the path as it was and the targets finished. -/
inductive DfsPost (adj : HashMap Uuid (List Uuid)) (nodes path order targets : List Uuid) :
    Bool → DfsState → Prop
  | found {st : DfsState} {cycle : List Uuid} : st.cycle = some cycle →
      ClosedWalk (Adjacent adj) cycle → DfsPost adj nodes path order targets true st
  | clear {st : DfsState} {order' : List Uuid} : DfsInv adj nodes st order' → st.path = path →
      order ⊆ order' → targets ⊆ order' → DfsPost adj nodes path order targets false st

section Search

variable {adj : HashMap Uuid (List Uuid)} {nodes order : List Uuid} {st : DfsState} {node : Uuid}

theorem DfsInv.not_mem (h : DfsInv adj nodes st order) {v : Uuid} (hv : v ∈ st.path) :
    v ∉ order := by
  intro hblack
  have hgray := (h.gray v).mpr hv
  rw [(h.black v).mpr hblack] at hgray
  cases hgray

/-- A white node that the path leads to is coloured grey and put on the path. -/
theorem DfsInv.enter (h : DfsInv adj nodes st order) (hwhite : st.color.lookup node = some .white)
    (hedge : ∀ u ∈ st.path.getLast?, Adjacent adj u node) :
    DfsInv adj nodes { st with color := st.color.insert node .gray, path := st.path ++ [node] }
      order := by
  obtain ⟨_, hpath, horder⟩ := (h.white node).mp hwhite
  refine ⟨fun v => ?_, fun v => ?_, fun v => ?_, ?_, ?_, h.finished, h.cycle⟩
  · rw [lookup_insert_eq]
    split
    · next hv => simp [hv]
    · next hv => simp [h.white, hv]
  · rw [lookup_insert_eq]
    split
    · next hv => simp [hv]
    · next hv => simp [h.gray, hv]
  · rw [lookup_insert_eq]
    split
    · next hv => simp [hv, horder]
    · exact h.black v
  · refine h.chain.append (List.isChain_singleton node) fun u hu w hw => ?_
    obtain rfl := Option.some.inj hw
    exact hedge u hu
  · exact h.nodup.append (List.nodup_singleton node) (List.disjoint_singleton.mpr hpath)

/-- The last node of the path, with all its neighbours finished, is finished. -/
theorem DfsInv.leave {path : List Uuid} (h : DfsInv adj nodes st order)
    (hpath : st.path = path ++ [node]) (hnext : ∀ w, Adjacent adj node w → w ∈ order) :
    DfsInv adj nodes
      { st with path := st.path.dropLast, color := st.color.insert node .black }
      (node :: order) := by
  have hdrop : st.path.dropLast = path := by rw [hpath, List.dropLast_concat]
  have hmem : ∀ v, v ∈ st.path ↔ v ∈ path ∨ v = node := by
    intro v
    rw [hpath, List.mem_append, List.mem_singleton]
  have hnode : node ∉ path := by
    have hnd := h.nodup
    rw [hpath, List.nodup_append] at hnd
    exact fun hin => hnd.2.2 node hin node (List.mem_singleton_self node) rfl
  have horder : node ∉ order := h.not_mem ((hmem node).mpr (.inr rfl))
  refine ⟨fun v => ?_, fun v => ?_, fun v => ?_, h.chain.dropLast, ?_, ?_, h.cycle⟩
  · rw [lookup_insert_eq, hdrop]
    split
    · next hv => simp [hv]
    · next hv => simp [h.white, hmem, hv]
  · rw [lookup_insert_eq, hdrop]
    split
    · next hv => simp [hv, hnode]
    · next hv => simp [h.gray, hmem, hv]
  · rw [lookup_insert_eq]
    split
    · next hv => simp [hv]
    · next hv => simp [h.black, hv]
  · rw [hdrop]
    have hnd := h.nodup
    rw [hpath] at hnd
    exact (List.nodup_append.mp hnd).1
  · exact h.finished.cons horder hnext

/-- Without a back edge no neighbour is on the path; with one the path closes a walk. -/
theorem backEdgeCycle_spec (h : DfsInv adj nodes st order) {neighbors : List Uuid}
    (hedge : ∀ w ∈ neighbors, ∀ u ∈ st.path.getLast?, Adjacent adj u w) (hlast : st.path ≠ []) :
    (∃ cycle, backEdgeCycle st.color st.path neighbors = some cycle ∧
      ClosedWalk (Adjacent adj) cycle) ∨
    (backEdgeCycle st.color st.path neighbors = none ∧ ∀ w ∈ neighbors, w ∉ st.path) := by
  induction neighbors with
  | nil => exact .inr ⟨rfl, by simp⟩
  | cons w rest ih =>
    have hrest := ih fun x hx => hedge x (List.mem_cons_of_mem _ hx)
    by_cases hw : w ∈ st.path
    · obtain ⟨i, hi⟩ : ∃ i, st.path.idxOf? w = some i := by
        rw [← Option.isSome_iff_exists, List.isSome_idxOf?]
        exact hw
      obtain ⟨u, hu⟩ : ∃ u, st.path.getLast? = some u :=
        ⟨_, List.getLast?_eq_some_getLast hlast⟩
      refine .inl ⟨st.path.drop i ++ [w], ?_, ?_⟩
      · rw [backEdgeCycle, if_pos ((h.gray w).mpr hw), hi]
      · exact closedWalk_of_backEdge h.chain hu (hedge w List.mem_cons_self u hu) hi
    · have hskip : backEdgeCycle st.color st.path (w :: rest) =
          backEdgeCycle st.color st.path rest := by
        rw [backEdgeCycle, if_neg (mt (h.gray w).mp hw)]
      rw [hskip]
      rcases hrest with hfound | ⟨hnone, hall⟩
      · exact .inl hfound
      · refine .inr ⟨hnone, fun x hx => ?_⟩
        rcases List.mem_cons.mp hx with rfl | hx
        · exact hw
        · exact hall x hx

/-- The nodes still white. -/
def whiteLeft (nodes path order : List Uuid) : Nat := workLeft (fun _ => 1) nodes (path ++ order)

theorem whiteLeft_mono {path path' order' : List Uuid} (hpath : path ⊆ path')
    (horder : order ⊆ order') : whiteLeft nodes path' order' ≤ whiteLeft nodes path order :=
  workLeft_mono _ _ (List.append_subset.mpr
    ⟨List.Subset.trans hpath (List.subset_append_left _ _),
      List.Subset.trans horder (List.subset_append_right _ _)⟩)

theorem whiteLeft_enter {path : List Uuid} (hnode : node ∈ nodes) (hpath : node ∉ path)
    (horder : node ∉ order) :
    whiteLeft nodes (path ++ [node]) order + 1 ≤ whiteLeft nodes path order := by
  have hcons := workLeft_cons (fun _ => 1) nodes
    (show node ∉ path ++ order by simp [hpath, horder]) fun _ => hnode
  have hsame : whiteLeft nodes (path ++ [node]) order ≤
      workLeft (fun _ => 1) nodes (node :: (path ++ order)) :=
    workLeft_mono _ _ (by simp)
  have hdef : whiteLeft nodes path order = workLeft (fun _ => 1) nodes (path ++ order) := rfl
  omega

/-- A visit of a white node does what `DfsPost` says, as long as it has fuel for the white nodes. -/
def VisitSpec (adj : HashMap Uuid (List Uuid)) (nodes : List Uuid) (fuel : Nat)
    (visit : Uuid → DfsState → Option (Bool × DfsState)) : Prop :=
  ∀ {w st order}, DfsInv adj nodes st order → st.color.lookup w = some .white →
    (∀ u ∈ st.path.getLast?, Adjacent adj u w) → whiteLeft nodes st.path order ≤ fuel →
    ∃ found st', visit w st = some (found, st') ∧
      DfsPost adj nodes st.path order [w] found st'

/-- The visits of the neighbours in turn. -/
theorem firstCycle_spec {visit : Uuid → DfsState → Option (Bool × DfsState)} {fuel : Nat}
    (hvisit : VisitSpec adj nodes fuel visit) {neighbors : List Uuid} :
    ∀ {st order}, DfsInv adj nodes st order →
      (∀ w ∈ neighbors, w ∈ nodes ∧ w ∉ st.path ∧ ∀ u ∈ st.path.getLast?, Adjacent adj u w) →
      whiteLeft nodes st.path order ≤ fuel →
      ∃ found st', firstCycle visit neighbors st = some (found, st') ∧
        DfsPost adj nodes st.path order neighbors found st' := by
  induction neighbors with
  | nil =>
    intro st order h _ _
    exact ⟨false, st, rfl, .clear h rfl (List.Subset.refl _) (List.nil_subset _)⟩
  | cons w rest ih =>
    intro st order h hneighbors hfuel
    obtain ⟨hw, hpath, hedge⟩ := hneighbors w List.mem_cons_self
    have hrest : ∀ x ∈ rest, x ∈ nodes ∧ x ∉ st.path ∧ ∀ u ∈ st.path.getLast?, Adjacent adj u x :=
      fun x hx => hneighbors x (List.mem_cons_of_mem _ hx)
    by_cases hwhite : st.color.lookup w = some .white
    · obtain ⟨found, st', hrun, hpost⟩ := hvisit h hwhite hedge hfuel
      cases hpost with
      | found hcycle hwalk =>
        exact ⟨true, st', by rw [firstCycle, if_pos hwhite, hrun], .found hcycle hwalk⟩
      | @clear _ order' h' hpath' hsub htarget =>
        have hfuel' : whiteLeft nodes st'.path order' ≤ fuel := by
          rw [hpath']
          exact (whiteLeft_mono (List.Subset.refl _) hsub).trans hfuel
        obtain ⟨found, st'', hrun', hpost'⟩ := ih h' (by rwa [hpath']) hfuel'
        refine ⟨found, st'', by rw [firstCycle, if_pos hwhite, hrun]; exact hrun', ?_⟩
        cases hpost' with
        | found hcycle hwalk => exact .found hcycle hwalk
        | clear h'' hpath'' hsub' htargets =>
          refine .clear h'' (hpath''.trans hpath') (List.Subset.trans hsub hsub') ?_
          exact List.cons_subset.mpr ⟨hsub' (htarget List.mem_cons_self), htargets⟩
    · obtain ⟨found, st', hrun, hpost⟩ := ih h hrest hfuel
      refine ⟨found, st', by rw [firstCycle, if_neg hwhite]; exact hrun, ?_⟩
      cases hpost with
      | found hcycle hwalk => exact .found hcycle hwalk
      | clear h' hpath' hsub htargets =>
        have hblack : w ∈ order := by
          by_contra horder
          exact hwhite ((h.white w).mpr ⟨hw, hpath, horder⟩)
        exact .clear h' hpath' hsub (List.cons_subset.mpr ⟨hsub hblack, htargets⟩)

/-- The search from a node, by induction on the fuel. -/
theorem dfs_spec (hadj : ∀ u v, Adjacent adj u v → v ∈ nodes) (fuel : Nat) :
    VisitSpec adj nodes fuel (dfs adj fuel) := by
  induction fuel with
  | zero =>
    intro node st order h hwhite _ hfuel
    obtain ⟨hnode, hpath, horder⟩ := (h.white node).mp hwhite
    have hlt := whiteLeft_enter hnode hpath horder
    omega
  | succ fuel ih =>
    intro node st order h hwhite hedge hfuel
    obtain ⟨hnode, hpath, horder⟩ := (h.white node).mp hwhite
    have henter := h.enter hwhite hedge
    have hlast : ∀ u ∈ (st.path ++ [node]).getLast?, u = node := by
      intro u hu
      rw [List.getLast?_concat] at hu
      exact (Option.some.inj hu).symm
    have hneighbors : ∀ w ∈ indexEntry adj node, ∀ u ∈ (st.path ++ [node]).getLast?,
        Adjacent adj u w := by
      intro w hw u hu
      rw [hlast u hu]
      exact hw
    unfold dfs
    rcases backEdgeCycle_spec henter hneighbors (by simp) with
      ⟨cycle, hback, hwalk⟩ | ⟨hback, hoff⟩
    · rw [indexEntry] at hback
      simp only [hback]
      exact ⟨true, _, rfl, .found rfl hwalk⟩
    have hfuel' : whiteLeft nodes (st.path ++ [node]) order ≤ fuel := by
      have hlt := whiteLeft_enter hnode hpath horder
      omega
    obtain ⟨found, st', hrun, hpost⟩ := firstCycle_spec ih henter
      (fun w hw => ⟨hadj node w hw, hoff w hw, hneighbors w hw⟩) hfuel'
    rw [indexEntry] at hback hrun
    simp only [hback, hrun]
    cases hpost with
    | found hcycle hwalk => exact ⟨true, st', rfl, .found hcycle hwalk⟩
    | clear h' hpath' hsub htargets =>
      refine ⟨false, _, rfl, .clear (h'.leave hpath' htargets) ?_
        (List.Subset.trans hsub (List.subset_cons_self _ _)) (by simp)⟩
      show st'.path.dropLast = st.path
      rw [hpath', List.dropLast_concat]

/-- The search from every white node finds a closed walk, or finishes all the nodes. -/
theorem dfsAll_spec (hadj : ∀ u v, Adjacent adj u v → v ∈ nodes) {fuel : Nat}
    {rest : List GraphNode} : ∀ {st order}, DfsInv adj nodes st order → st.path = [] →
      (∀ n ∈ rest, n.id ∈ nodes) → whiteLeft nodes [] order ≤ fuel →
      ∃ st', dfsAll adj fuel rest st = some st' ∧
        ((∃ cycle, st'.cycle = some cycle ∧ ClosedWalk (Adjacent adj) cycle) ∨
          (st'.cycle = none ∧ ∃ order', Finished (Adjacent adj) order' ∧ order ⊆ order' ∧
            ∀ n ∈ rest, n.id ∈ order')) := by
  induction rest with
  | nil =>
    intro st order h _ _ _
    exact ⟨st, rfl, .inr ⟨h.cycle, order, h.finished, List.Subset.refl _, by simp⟩⟩
  | cons node rest ih =>
    intro st order h hpath hnodes hfuel
    have hrest : ∀ n ∈ rest, n.id ∈ nodes := fun n hn => hnodes n (List.mem_cons_of_mem _ hn)
    by_cases hwhite : st.color.lookup node.id = some .white
    · have hst : ({ st with path := [] } : DfsState) = st := by rw [← hpath]
      obtain ⟨found, st', hrun, hpost⟩ := dfs_spec hadj fuel h hwhite (by simp [hpath])
        (by rwa [hpath])
      rw [dfsAll, if_pos hwhite, hst, hrun]
      cases hpost with
      | @found _ cycle hcycle hwalk => exact ⟨st', rfl, .inl ⟨cycle, hcycle, hwalk⟩⟩
      | @clear _ order' h' hpath' hsub htarget =>
        have hfuel' : whiteLeft nodes [] order' ≤ fuel :=
          (whiteLeft_mono (List.Subset.refl _) hsub).trans hfuel
        obtain ⟨st'', hrun', hpost'⟩ := ih h' (hpath'.trans hpath) hrest hfuel'
        refine ⟨st'', hrun', hpost'.imp_right ?_⟩
        rintro ⟨hnone, order'', hfinished, hsub', hall⟩
        refine ⟨hnone, order'', hfinished, List.Subset.trans hsub hsub', ?_⟩
        exact List.forall_mem_cons.mpr ⟨hsub' (htarget List.mem_cons_self), hall⟩
    · obtain ⟨st', hrun, hpost⟩ := ih h hpath hrest hfuel
      refine ⟨st', by rw [dfsAll, if_neg hwhite]; exact hrun, hpost.imp_right ?_⟩
      rintro ⟨hnone, order', hfinished, hsub, hall⟩
      have hblack : node.id ∈ order := by
        by_contra horder
        refine hwhite ((h.white node.id).mpr ⟨hnodes node List.mem_cons_self, ?_, horder⟩)
        simp [hpath]
      exact ⟨hnone, order', hfinished, hsub, List.forall_mem_cons.mpr ⟨hsub hblack, hall⟩⟩

end Search

section Fuel

variable {adj : HashMap Uuid (List Uuid)} {fuel fuel' : Nat} {result : Bool × DfsState}

theorem firstCycle_mono {visit visit' : Uuid → DfsState → Option (Bool × DfsState)}
    (hvisit : ∀ w st r, visit w st = some r → visit' w st = some r) {neighbors : List Uuid} :
    ∀ {st}, firstCycle visit neighbors st = some result →
      firstCycle visit' neighbors st = some result := by
  induction neighbors with
  | nil => exact id
  | cons w rest ih =>
    intro st h
    rw [firstCycle] at h ⊢
    split at h
    · next hwhite =>
      rw [if_pos hwhite]
      cases hrun : visit w st with
      | none => rw [hrun] at h; cases h
      | some r =>
        obtain ⟨found, st'⟩ := r
        rw [hrun] at h
        rw [hvisit w st _ hrun]
        cases found with
        | true => exact h
        | false => exact ih h
    · next hwhite =>
      rw [if_neg hwhite]
      exact ih h

/-- More fuel does not change the result of a search. -/
theorem dfs_mono {node : Uuid} {st : DfsState} (h : dfs adj fuel node st = some result)
    (hle : fuel ≤ fuel') : dfs adj fuel' node st = some result := by
  induction fuel generalizing fuel' node st result with
  | zero => cases h
  | succ fuel ih =>
    obtain ⟨fuel', rfl⟩ := Nat.exists_eq_succ_of_ne_zero (show fuel' ≠ 0 by omega)
    unfold dfs at h ⊢
    dsimp only at h ⊢
    split at h
    · exact h
    · split at h
      · cases h
      · next hrun =>
        rw [firstCycle_mono (fun w st r hr => ih hr (by omega)) hrun]
        exact h
      · next hrun =>
        rw [firstCycle_mono (fun w st r hr => ih hr (by omega)) hrun]
        exact h

theorem dfsAll_mono {nodes : List GraphNode} {st' : DfsState} (hle : fuel ≤ fuel') :
    ∀ {st}, dfsAll adj fuel nodes st = some st' → dfsAll adj fuel' nodes st = some st' := by
  induction nodes with
  | nil => exact id
  | cons node rest ih =>
    intro st h
    rw [dfsAll] at h ⊢
    split at h
    · next hwhite =>
      rw [if_pos hwhite]
      cases hrun : dfs adj fuel node.id { st with path := [] } with
      | none => rw [hrun] at h; cases h
      | some r =>
        obtain ⟨found, st''⟩ := r
        rw [hrun] at h
        rw [dfs_mono hrun hle]
        cases found with
        | true => exact h
        | false => exact ih h
    · next hwhite =>
      rw [if_neg hwhite]
      exact ih h

end Fuel

section Workflow

theorem indexEntry_foldl_push {edges : List GraphEdge} {u v : Uuid} :
    ∀ {adj : HashMap Uuid (List Uuid)},
      v ∈ indexEntry (edges.foldl (fun adj e => pushIndex adj e.fromNodeId e.toNodeId) adj) u ↔
        v ∈ indexEntry adj u ∨ ∃ e ∈ edges, e.fromNodeId = u ∧ e.toNodeId = v := by
  induction edges with
  | nil => simp
  | cons e rest ih =>
    intro adj
    rw [List.foldl_cons, ih, indexEntry_pushIndex]
    by_cases hu : u = e.fromNodeId
    · rw [if_pos hu, List.mem_append, List.mem_singleton, hu]
      simp only [List.mem_cons, exists_eq_or_imp, true_and, or_assoc, eq_comm (a := v)]
    · rw [if_neg hu]
      simp only [List.mem_cons, exists_eq_or_imp, Ne.symm hu, false_and, false_or]

theorem indexEntry_foldl_default {nodes : List GraphNode} {u : Uuid} :
    ∀ {adj : HashMap Uuid (List Uuid)},
      indexEntry (nodes.foldl (fun adj n => adj.insert n.id (indexEntry adj n.id)) adj) u =
        indexEntry adj u := by
  induction nodes with
  | nil => exact rfl
  | cons n rest ih =>
    intro adj
    rw [List.foldl_cons, ih, indexEntry, lookup_insert_eq]
    split
    · next hu =>
      rw [hu]
      rfl
    · rfl

theorem adjacent_adjacency {nodes : List GraphNode} {edges : List GraphEdge} {u v : Uuid} :
    Adjacent (adjacency nodes edges) u v ↔ ∃ e ∈ edges, e.fromNodeId = u ∧ e.toNodeId = v := by
  rw [Adjacent, adjacency, indexEntry_foldl_push, indexEntry_foldl_default]
  simp [indexEntry]

theorem lookup_foldl_white {nodes : List GraphNode} {v : Uuid} :
    ∀ {color : HashMap Uuid Color},
      (nodes.foldl (fun color n => color.insert n.id .white) color).lookup v =
        if v ∈ nodes.map GraphNode.id then some .white else color.lookup v := by
  induction nodes with
  | nil => simp
  | cons n rest ih =>
    intro color
    rw [List.foldl_cons, ih, lookup_insert_eq]
    by_cases hrest : v ∈ rest.map GraphNode.id
    · simp [hrest]
    · by_cases hv : v = n.id
      · simp [hv]
      · simp [hrest, hv]

/-- Before the search every node is white. -/
theorem DfsInv.initial (adj : HashMap Uuid (List Uuid)) (nodes : List GraphNode) :
    DfsInv adj (nodes.map GraphNode.id)
      { color := nodes.foldl (fun color n => color.insert n.id .white) ∅, path := []
        cycle := none } [] := by
  have hlookup : ∀ v (c : Color),
      (nodes.foldl (fun color n => color.insert n.id .white) (∅ : HashMap Uuid Color)).lookup v =
        some c ↔ v ∈ nodes.map GraphNode.id ∧ c = .white := by
    intro v c
    rw [lookup_foldl_white]
    split
    · next hv => simp [hv, eq_comm]
    · next hv => simp [hv]
  exact ⟨fun v => by simp [hlookup], fun v => by simp [hlookup], fun v => by simp [hlookup],
    List.isChain_nil, List.nodup_nil, .nil, rfl⟩

/-- An edge of the workflow leads from the first node to the second. -/
def WorkflowEdge (g : GraphStore) (workflowId : Uuid) (u v : Uuid) : Prop :=
  ∃ e, g.HasEdge e ∧ e.workflowId = workflowId ∧ e.fromNodeId = u ∧ e.toNodeId = v

variable {g : GraphStore} {workflowId : Uuid}

theorem mem_workflow_nodes {order : IterOrder (Uuid × GraphNode)} {v : Uuid} :
    v ∈ (g.state.listNodes order { workflowId := some workflowId }).map GraphNode.id ↔
      ∃ n, g.state.nodes.lookup v = some n ∧ n.workflowId = workflowId := by
  rw [List.mem_map]
  constructor
  · rintro ⟨n, hn, rfl⟩
    obtain ⟨hlookup, haccepts⟩ := GraphStore.mem_listNodes.mp hn
    exact ⟨n, hlookup, by simpa [GraphState.acceptsNode] using haccepts⟩
  · rintro ⟨n, hlookup, hworkflow⟩
    have hid := g.consistent.nodeId v n hlookup
    refine ⟨n, GraphStore.mem_listNodes.mpr ⟨by rw [hid, hlookup], ?_⟩, hid⟩
    simp [GraphState.acceptsNode, hworkflow]

/-- An edge of the workflow joins two of its nodes. -/
theorem WorkflowEdge.mem_nodes {order : IterOrder (Uuid × GraphNode)} {u v : Uuid}
    (h : WorkflowEdge g workflowId u v) :
    u ∈ (g.state.listNodes order { workflowId := some workflowId }).map GraphNode.id ∧
    v ∈ (g.state.listNodes order { workflowId := some workflowId }).map GraphNode.id := by
  obtain ⟨e, he, hworkflow, rfl, rfl⟩ := h
  obtain ⟨n, hn, _, hnw⟩ := g.consistent.fromNode _ e he
  obtain ⟨m, hm, _, hmw⟩ := g.consistent.toNode _ e he
  exact ⟨mem_workflow_nodes.mpr ⟨n, hn, hnw.trans hworkflow⟩,
    mem_workflow_nodes.mpr ⟨m, hm, hmw.trans hworkflow⟩⟩

theorem adjacent_eq_workflowEdge (g : GraphStore) (workflowId : Uuid) (nodes : List GraphNode)
    (order : IterOrder (Uuid × GraphEdge)) :
    Adjacent (adjacency nodes (g.state.listEdges order { workflowId := some workflowId })) =
      WorkflowEdge g workflowId := by
  funext u v
  rw [eq_iff_iff, adjacent_adjacency]
  constructor
  · rintro ⟨e, he, hfrom, hto⟩
    obtain ⟨hedge, haccepts⟩ := GraphStore.mem_listEdges.mp he
    exact ⟨e, hedge, by simpa [GraphState.acceptsEdge] using haccepts, hfrom, hto⟩
  · rintro ⟨e, hedge, hworkflow, hfrom, hto⟩
    refine ⟨e, GraphStore.mem_listEdges.mpr ⟨hedge, ?_⟩, hfrom, hto⟩
    simp [GraphState.acceptsEdge, hworkflow]

end Workflow

/-- `detectCycles` ends, reports a cycle exactly if the workflow has one, and the path it reports is
a closed walk of the workflow. -/
theorem detectCycles_correct (g : GraphStore) (nodeOrder : IterOrder (Uuid × GraphNode))
    (edgeOrder : IterOrder (Uuid × GraphEdge)) (workflowId : Uuid) :
    ∃ result,
      (∃ bound, ∀ fuel, bound ≤ fuel →
        detectCycles g.state nodeOrder edgeOrder workflowId fuel = some result) ∧
      (result.hasCycle = true ↔ ∃ v, TransGen (WorkflowEdge g workflowId) v v) ∧
      result.hasCycle = result.cyclePath.isSome ∧
      ∀ cycle, result.cyclePath = some cycle → ClosedWalk (WorkflowEdge g workflowId) cycle := by
  have hends : ∀ {u v}, WorkflowEdge g workflowId u v →
      u ∈ (g.state.listNodes nodeOrder { workflowId := some workflowId }).map GraphNode.id ∧
      v ∈ (g.state.listNodes nodeOrder { workflowId := some workflowId }).map GraphNode.id :=
    WorkflowEdge.mem_nodes
  unfold detectCycles
  generalize g.state.listNodes nodeOrder { workflowId := some workflowId } = nodes at hends ⊢
  cases hempty : nodes.isEmpty with
  | true =>
    refine ⟨{ hasCycle := false, cyclePath := none }, ⟨0, fun _ _ => if_pos hempty⟩, ?_, rfl,
      by simp⟩
    refine ⟨fun h => (by cases h), ?_⟩
    rintro ⟨v, hcycle⟩
    obtain ⟨w, hedge, _⟩ := TransGen.head'_iff.mp hcycle
    rw [List.isEmpty_iff.mp hempty] at hends
    exact absurd (hends hedge).1 (by simp)
  | false =>
    have hadjacent := adjacent_eq_workflowEdge g workflowId nodes edgeOrder
    have hwhite : whiteLeft (nodes.map GraphNode.id) [] [] ≤ nodes.length := by
      simp [whiteLeft, workLeft, Function.comp_def]
    obtain ⟨st, hrun, hpost⟩ := dfsAll_spec
      (fun u v hedge => (hends (hadjacent ▸ hedge)).2) (DfsInv.initial _ nodes) rfl
      (fun n (hn : n ∈ nodes) => List.mem_map_of_mem hn) hwhite
    refine ⟨{ hasCycle := st.cycle.isSome, cyclePath := st.cycle },
      ⟨nodes.length, fun fuel hfuel => ?_⟩, ?_, rfl, ?_⟩
    · simp only [hempty, Bool.false_eq_true, if_false]
      rw [dfsAll_mono hfuel hrun]
      rfl
    · rw [hadjacent] at hpost
      rcases hpost with ⟨cycle, hcycle, hwalk⟩ | ⟨hnone, order, hfinished, _, hall⟩
      · simp only [hcycle, Option.isSome_some, true_iff]
        exact hwalk.cycle
      · simp only [hnone, Option.isSome_none, Bool.false_eq_true, false_iff]
        rintro ⟨v, hcycle⟩
        obtain ⟨w, hedge, _⟩ := TransGen.head'_iff.mp hcycle
        obtain ⟨n, hn, rfl⟩ := List.mem_map.mp (hends hedge).1
        exact hfinished.acyclic (hall n hn) hcycle
    · intro cycle hcycle
      rw [hadjacent] at hpost
      rcases hpost with ⟨cycle', hcycle', hwalk⟩ | ⟨hnone, _⟩
      · obtain rfl := Option.some.inj (hcycle.symm.trans hcycle')
        exact hwalk
      · simp only [hnone] at hcycle
        cases hcycle

end IntentRebase
