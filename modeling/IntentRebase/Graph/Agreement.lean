import IntentRebase.Graph.Path

/-! The two searches under the same options. The path search does not read the node filter, so they
agree exactly where the filter does not separate the target from the start. -/

namespace IntentRebase

open Kit

section Agreement

variable {g : GraphStore} {start target : Uuid} {options : TraversalOptions}

/-- `findReachable` returns the target. -/
def FindsReachable (g : GraphStore) (order : IterOrder Uuid) (start : Uuid)
    (options : TraversalOptions) (target : Uuid) : Prop :=
  ∃ result, (∃ bound, ∀ fuel, bound < fuel →
    findReachable g.state start options order fuel = some (.ok result)) ∧
    target ∈ result.reachableNodes

/-- `findPath` returns a path from the start to the target. -/
def FindsPath (g : GraphStore) (start : Uuid) (options : TraversalOptions) (target : Uuid) : Prop :=
  ∃ path, (∃ bound, ∀ fuel, bound < fuel →
    findPath g.state start target options fuel = some (.ok path)) ∧
    path.isEmpty = false ∧ path.nodeIds.head? = some start ∧ path.nodeIds.getLast? = some target

/-- Some path of allowed edges within the limit leads to the target, and on each of them lies a node
other than the start that the node filter excludes. -/
def FilterCuts (g : GraphStore) (start : Uuid) (options : TraversalOptions) (target : Uuid) :
    Prop :=
  Connected g start options target ∧
    ∀ {nodeIds edgeIds}, JoinedPath g options start nodeIds edgeIds target →
      (∀ m ∈ options.maxDepth, edgeIds.length ≤ m) →
      ∃ v ∈ nodeIds, v ≠ start ∧ passesNodeFilter g.state options v = false

theorem reachable_iff : Reachable g start options target ↔
    ∃ nodeIds edgeIds, JoinedPath g options start nodeIds edgeIds target ∧
      (∀ m ∈ options.maxDepth, edgeIds.length ≤ m) ∧
      ∀ v ∈ nodeIds, v = start ∨ passesNodeFilter g.state options v = true := by
  constructor
  · rintro ⟨n, hin, hwalk⟩
    obtain ⟨nodeIds, edgeIds, hpath, rfl, hok⟩ := walk_iff.mp hwalk
    exact ⟨nodeIds, edgeIds, hpath, hin, hok⟩
  · rintro ⟨nodeIds, edgeIds, hpath, hin, hok⟩
    exact ⟨edgeIds.length, hin, walk_iff.mpr ⟨nodeIds, edgeIds, hpath, rfl, hok⟩⟩

theorem Reachable.connected (h : Reachable g start options target) :
    Connected g start options target := by
  obtain ⟨nodeIds, edgeIds, hpath, hin, _⟩ := reachable_iff.mp h
  exact ⟨nodeIds, edgeIds, hpath, hin⟩

/-- Both ends of a path between distinct nodes are stored. -/
theorem JoinedPath.mem_nodes {nodeIds edgeIds : List Uuid}
    (h : JoinedPath g options start nodeIds edgeIds target) (hne : start ≠ target) :
    start ∈ g.state.nodes ∧ target ∈ g.state.nodes := by
  induction h with
  | single => exact absurd rfl hne
  | @cons e nodeIds edgeIds v he _ hrest ih =>
    refine ⟨he.from_mem, ?_⟩
    by_cases hv : e.toNodeId = v
    · exact hv ▸ he.to_mem
    · exact (ih hv).2

theorem findsReachable_iff {order : IterOrder Uuid} (hne : start ≠ target) :
    FindsReachable g order start options target ↔ Reachable g start options target := by
  by_cases hstart : start ∈ g.state.nodes
  · obtain ⟨st, done, tree, h, bound, hrun⟩ := findReachable_run g start options order hstart
    have hmem := (h.exact order).mem target
    rw [if_neg hne.symm] at hmem
    rw [← hmem]
    constructor
    · rintro ⟨result, ⟨bound', hrun'⟩, htarget⟩
      have hsame := (hrun (bound + bound' + 1) (by omega)).symm.trans
        (hrun' (bound + bound' + 1) (by omega))
      obtain rfl := Except.ok.inj (Option.some.inj hsame)
      exact htarget
    · exact fun htarget => ⟨_, ⟨bound, hrun⟩, htarget⟩
  · have hnode : g.state.getNode start = .error (.graphNodeNotFound start) := by
      rw [GraphState.getNode, AList.lookup_eq_none.mpr hstart]
    constructor
    · rintro ⟨result, ⟨bound, hrun⟩, _⟩
      have herror := hrun (bound + 1) (by omega)
      rw [findReachable, hnode] at herror
      cases herror
    · intro hreach
      obtain ⟨nodeIds, edgeIds, hpath, _⟩ := hreach.connected
      exact absurd (hpath.mem_nodes hne).1 hstart

theorem findsPath_iff (hne : start ≠ target) :
    FindsPath g start options target ↔ Connected g start options target := by
  by_cases hnodes : start ∈ g.state.nodes ∧ target ∈ g.state.nodes
  · obtain ⟨path, ⟨bound, hrun⟩, hpost⟩ := findPath_run g options hnodes.1 hnodes.2 hne
    constructor
    · rintro ⟨path', ⟨bound', hrun'⟩, hempty, _⟩
      have hsame := (hrun (bound + bound' + 1) (by omega)).symm.trans
        (hrun' (bound + bound' + 1) (by omega))
      obtain rfl := Except.ok.inj (Option.some.inj hsame)
      rcases hpost with ⟨rfl, _⟩ | hshort
      · cases hempty
      · exact ⟨_, _, hshort.joined, hshort.within⟩
    · intro hconnected
      rcases hpost with ⟨_, hnone⟩ | hshort
      · exact absurd hconnected hnone
      · exact ⟨path, ⟨bound, hrun⟩, hshort.not_empty, hshort.joined.head?, hshort.joined.getLast?⟩
  · constructor
    · rintro ⟨path, ⟨bound, hrun⟩, _⟩
      have hfound := hrun (bound + 1) (by omega)
      rw [findPath] at hfound
      refine absurd ⟨?_, ?_⟩ hnodes
      · cases hstart : g.state.getNode start with
        | error e => rw [hstart] at hfound; cases hfound
        | ok n => exact mem_iff_lookup.mpr ⟨n, GraphStore.getNode_ok.mp hstart⟩
      · cases hstart : g.state.getNode start with
        | error e => rw [hstart] at hfound; cases hfound
        | ok n =>
          cases htarget : g.state.getNode target with
          | error e => rw [hstart, htarget] at hfound; cases hfound
          | ok m => exact mem_iff_lookup.mpr ⟨m, GraphStore.getNode_ok.mp htarget⟩
    · rintro ⟨nodeIds, edgeIds, hpath, _⟩
      exact absurd (hpath.mem_nodes hne) hnodes

end Agreement

/-- The two searches agree on the target exactly if the node filter does not cut it off. -/
theorem searches_agree_iff (g : GraphStore) (order : IterOrder Uuid) {start target : Uuid}
    (options : TraversalOptions) (hne : start ≠ target) :
    (FindsReachable g order start options target ↔ FindsPath g start options target) ↔
      ¬ FilterCuts g start options target := by
  rw [findsReachable_iff hne, findsPath_iff hne]
  constructor
  · rintro hagree ⟨hconnected, hcut⟩
    obtain ⟨nodeIds, edgeIds, hpath, hin, hok⟩ := reachable_iff.mp (hagree.mpr hconnected)
    obtain ⟨v, hv, hstart, hfilter⟩ := hcut hpath hin
    rcases hok v hv with heq | hpass
    · exact hstart heq
    · rw [hfilter] at hpass
      cases hpass
  · refine fun hcut => ⟨Reachable.connected, fun hconnected => ?_⟩
    by_contra hreach
    refine hcut ⟨hconnected, fun {nodeIds edgeIds} hpath hin => ?_⟩
    by_contra hnone
    refine hreach (reachable_iff.mpr ⟨nodeIds, edgeIds, hpath, hin, fun v hv => ?_⟩)
    by_contra hbad
    rw [not_or, Bool.not_eq_true] at hbad
    exact hnone ⟨v, hv, hbad⟩

theorem searches_agree_iff_line :
    (FindsReachable GraphStore.line (IterOrder.id Uuid) 1 { nodeTypes := some [.artifact] } 3 ↔
      FindsPath GraphStore.line 1 { nodeTypes := some [.artifact] } 3) ↔
      ¬ FilterCuts GraphStore.line 1 { nodeTypes := some [.artifact] } 3 :=
  searches_agree_iff GraphStore.line (IterOrder.id Uuid) { nodeTypes := some [.artifact] }
    (by decide)

/-- In the line of an artifact, an approval and an artifact, with only artifacts to pass through,
the path search goes through the approval. -/
theorem searches_disagree_line :
    ¬ (FindsReachable GraphStore.line (IterOrder.id Uuid) 1 { nodeTypes := some [.artifact] } 3 ↔
      FindsPath GraphStore.line 1 { nodeTypes := some [.artifact] } 3) := by
  intro hagree
  have hpath : FindsPath GraphStore.line 1 { nodeTypes := some [.artifact] } 3 := by
    refine ⟨{ nodeIds := [1, 2, 3], edgeIds := [4, 5] }, ⟨9, fun fuel hfuel => ?_⟩, rfl, rfl, rfl⟩
    obtain ⟨fuel, rfl⟩ : ∃ n, fuel = n + 10 := ⟨fuel - 10, by omega⟩
    rfl
  obtain ⟨result, ⟨bound, hrun⟩, hmem⟩ := hagree.mpr hpath
  have hnone : findReachable GraphStore.line.state 1 { nodeTypes := some [.artifact] }
      (IterOrder.id Uuid) (bound + 10) =
        some (.ok { reachableNodes := [1], incomingEdges := [] }) :=
    rfl
  obtain rfl := Except.ok.inj (Option.some.inj ((hrun (bound + 10) (by omega)).symm.trans hnone))
  exact absurd hmem (by decide)

end IntentRebase
