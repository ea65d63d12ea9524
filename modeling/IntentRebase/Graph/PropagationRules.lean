import IntentRebase.Graph.Classification
import IntentRebase.Engine.RulePackRegistry

/-! The rules of a request that name no type of node: the search reports nothing, where the list of
every type reports all that a change reaches. -/

namespace IntentRebase

open Kit

/-- The classification answers a request, given enough fuel. -/
def Classifies (g : GraphStore) (request : ClassifyRequest)
    (result : Except IntentRebaseError ClassificationResult) : Prop :=
  ∃ bound, ∀ fuel, bound < fuel → classifyImpact g.state request fuel = some result

/-- The request with rules that name other types. -/
def ClassifyRequest.withTypes (request : ClassifyRequest) (config : PropagationConfig)
    (targetNodeTypes : List NodeType) : ClassifyRequest :=
  { request with propagationConfig := some { config with targetNodeTypes } }

/-- Two requests are answered with the same items, or with the same error. -/
def SameItems (g : GraphStore) (request request' : ClassifyRequest) : Prop :=
  ∃ result result', Classifies g request result ∧ Classifies g request' result' ∧
    result.map ClassificationResult.classifiedNodes =
      result'.map ClassificationResult.classifiedNodes

/-- The change reaches a node at the first step. -/
def ReachesFirst (g : GraphStore) (config : PropagationConfig) (start : Uuid) : Prop :=
  ∃ v, SeedEdge g config start v

section Items

variable {g : GraphStore} {request : ClassifyRequest}
  {result result' : Except IntentRebaseError ClassificationResult}

theorem Classifies.unique (h : Classifies g request result) (h' : Classifies g request result') :
    result = result' := by
  obtain ⟨bound, hbound⟩ := h
  obtain ⟨bound', hbound'⟩ := h'
  exact Option.some.inj ((hbound (bound + bound' + 1) (by omega)).symm.trans
    (hbound' (bound + bound' + 1) (by omega)))

theorem classifies_missing (hstart : g.state.nodes.lookup request.startNodeId = none) :
    Classifies g request (.error (.graphNodeNotFound request.startNodeId)) :=
  ⟨0, fun fuel _ => by simp only [classifyImpact, GraphState.getNode, hstart]⟩

theorem classifies_exact (request : ClassifyRequest)
    (hstart : request.startNodeId ∈ g.state.nodes) :
    ∃ report, ExactClassification g request report ∧ Classifies g request (.ok report) := by
  obtain ⟨report, hexact, hruns⟩ := classifyImpact_report g request hstart
  exact ⟨report, hexact, classifyBound g.state request, hruns⟩

variable {report : ClassificationResult}

/-- Nothing is reported where no type is a target. -/
theorem ExactClassification.items_nil (h : ExactClassification g request report)
    (htargets : ∀ nodeType, ¬ IsTarget request nodeType) : report.classifiedNodes = [] := by
  refine List.eq_nil_iff_forall_not_mem.mpr fun c hc => ?_
  obtain ⟨node, _, _, htarget, _⟩ := (h.mem c.node.id).mp (List.mem_map_of_mem hc)
  exact htargets _ htarget

/-- Where every type is a target, something is reported if the change reaches a node at the first
step, and the depth allows that step. -/
theorem ExactClassification.items_nil_iff (h : ExactClassification g request report)
    (htargets : ∀ nodeType, IsTarget request nodeType) :
    report.classifiedNodes = [] ↔
      request.depthLimit = 0 ∨ ¬ ReachesFirst g request.config request.startNodeId := by
  constructor
  · intro hnil
    by_contra hreaches
    obtain ⟨hlimit, hfirst⟩ := not_or.mp hreaches
    obtain ⟨v, hseed⟩ := not_not.mp hfirst
    have hwalk : (impactSearch g request).Walk 1 v := .init hseed trivial
    obtain ⟨node, hnode⟩ := mem_iff_lookup.mp (impact_mem_nodes hwalk)
    have hdistance : (impactSearch g request).Distance v 1 := ⟨hwalk, Search.Walk.base_le⟩
    have hmem := (h.mem v).mpr ⟨node, 1, hnode, htargets _, hdistance, le_rfl,
      Nat.one_le_iff_ne_zero.mpr hlimit⟩
    rw [hnil] at hmem
    cases hmem
  · intro hnone
    refine List.eq_nil_iff_forall_not_mem.mpr fun c hc => ?_
    obtain ⟨node, d, _, _, hdistance, hpos, hle⟩ :=
      (h.mem c.node.id).mp (List.mem_map_of_mem hc)
    rcases hnone with hlimit | hfirst
    · omega
    · -- Every walk begins with a first step.
      have hstarts : ∀ {n v}, (impactSearch g request).Walk n v →
          ReachesFirst g request.config request.startNodeId := by
        intro n v hwalk
        induction hwalk with
        | init hseed _ => exact ⟨_, hseed⟩
        | step _ _ _ ih => exact ih
      exact hfirst (hstarts hdistance.walk)

end Items

/-- Rules that name no type report what the rules that name every type report exactly if these
report nothing: the start is missing, or the depth limit is zero, or no edge that the rules follow
enters the start. -/
theorem no_types_targets_all_iff (g : GraphStore) (request : ClassifyRequest)
    (config : PropagationConfig) {everyType : List NodeType}
    (hall : ∀ nodeType, nodeType ∈ everyType) :
    SameItems g (request.withTypes config []) (request.withTypes config everyType) ↔
      request.startNodeId ∉ g.state.nodes ∨ (config.maxDepth.or request.maxDepth).getD 3 = 0 ∨
        ¬ ReachesFirst g config request.startNodeId := by
  by_cases hstart : request.startNodeId ∈ g.state.nodes
  · obtain ⟨nothing, hnothing, hnothingRun⟩ :=
      classifies_exact (request.withTypes config []) hstart
    obtain ⟨all, hallExact, hallRun⟩ :=
      classifies_exact (request.withTypes config everyType) hstart
    have hnothingItems : nothing.classifiedNodes = [] := hnothing.items_nil fun nodeType htarget =>
      List.not_mem_nil (htarget [] rfl)
    have hallItems := hallExact.items_nil_iff fun nodeType allowed hallowed => by
      obtain rfl := Option.some.inj hallowed
      exact hall nodeType
    have hsame : SameItems g (request.withTypes config []) (request.withTypes config everyType) ↔
        all.classifiedNodes = [] := by
      constructor
      · rintro ⟨result, result', hrun, hrun', hitems⟩
        rw [hrun.unique hnothingRun, hrun'.unique hallRun] at hitems
        exact (Except.ok.inj hitems).symm.trans hnothingItems
      · intro hnil
        exact ⟨_, _, hnothingRun, hallRun, congrArg Except.ok (hnothingItems.trans hnil.symm)⟩
    rw [hsame, hallItems, or_iff_right (not_not.mpr hstart)]
    exact Iff.rfl
  · refine iff_of_true ?_ (.inl hstart)
    have hlookup := AList.lookup_eq_none.mpr hstart
    exact ⟨_, _, classifies_missing hlookup, classifies_missing hlookup, rfl⟩

section Sample

/-- Every type of node. -/
def everyNodeType : List NodeType :=
  [.intent, .intentVersion, .artifact, .approval, .policySnapshot, .sideEffect, .checkpoint,
    .workflow, .generic]

theorem no_types_targets_all_iff_sample :
    SameItems GraphStore.line
      (ClassifyRequest.withTypes { startNodeId := 1 } defaultPropagationConfig [])
      (ClassifyRequest.withTypes { startNodeId := 1 } defaultPropagationConfig everyNodeType) := by
  refine (no_types_targets_all_iff GraphStore.line { startNodeId := 1 } defaultPropagationConfig
    (fun nodeType => by cases nodeType <;> decide)).mpr (.inr (.inr ?_))
  -- No edge of the line enters its first node.
  rintro ⟨v, e, hedge, -, hto, -⟩
  have hmem := GraphStore.mem_listEdgesTo.mpr ⟨hedge, hto⟩
  have hnil : GraphStore.line.state.listEdgesTo 1 = [] := by decide
  rw [hnil] at hmem
  cases hmem

/-- A change of the last node of the line reaches the other two, and rules without types report
neither. -/
theorem no_types_report_nothing :
    ¬ SameItems GraphStore.line
      (ClassifyRequest.withTypes { startNodeId := 3 } defaultPropagationConfig [])
      (ClassifyRequest.withTypes { startNodeId := 3 } defaultPropagationConfig everyNodeType) := by
  rintro ⟨result, result', hrun, hrun', hitems⟩
  have hnothing : Classifies GraphStore.line
      (ClassifyRequest.withTypes { startNodeId := 3 } defaultPropagationConfig [])
      (.ok { classifiedNodes := [], startNodeId := 3, maxDepth := 3 }) := by
    refine ⟨9, fun fuel hfuel => ?_⟩
    obtain ⟨fuel, rfl⟩ : ∃ n, fuel = n + 10 := ⟨fuel - 10, by omega⟩
    rfl
  have hstart : (ClassifyRequest.withTypes { startNodeId := 3 } defaultPropagationConfig
      everyNodeType).startNodeId ∈ GraphStore.line.state.nodes := by decide
  obtain ⟨report, hexact, hall⟩ := classifies_exact _ hstart
  rw [hrun.unique hnothing, hrun'.unique hall] at hitems
  have hreaches : ReachesFirst GraphStore.line defaultPropagationConfig 3 :=
    ⟨2, (GraphStore.line.state.edges.lookup 5).get (by decide), (Option.some_get _).symm,
      ⟨by decide, by decide⟩, rfl, rfl⟩
  rcases (hexact.items_nil_iff fun nodeType allowed hallowed => by
    obtain rfl := Option.some.inj hallowed
    cases nodeType <;> decide).mp (Except.ok.inj hitems).symm with hlimit | hnone
  · cases hlimit
  · exact hnone hreaches

end Sample

/-! The default rule pack beside a request without rules: which settings decide a classification,
and when those of the two agree. -/

namespace ClassifyRequest

/-- The request with these rules in place of its own. -/
def withRules (request : ClassifyRequest) (rules : Option PropagationConfig) : ClassifyRequest :=
  { request with propagationConfig := rules }

/-- The request's own options are the default ones, given or left out. -/
structure DefaultOptions (request : ClassifyRequest) : Prop where
  maxDepth : request.maxDepth = none ∨ request.maxDepth = some 3
  targetNodeTypes : request.targetNodeTypes = none ∨
    request.targetNodeTypes = some defaultPropagationConfig.targetNodeTypes

end ClassifyRequest

variable {s : GraphState} {request request' : ClassifyRequest} {config config' : PropagationConfig}
  {edge : GraphEdge}

/-- The rules follow the same types of edges, validations aside. -/
def SameEdgeTypes (config config' : PropagationConfig) : Prop :=
  ∀ edgeType, edgeType ≠ .validatedBy → config.traversableEdgeTypes.contains edgeType =
    config'.traversableEdgeTypes.contains edgeType

theorem seedItems_congr (h : SameEdgeTypes config config') (hedge : edge.edgeType ≠ .validatedBy) :
    seedItems config edge = seedItems config' edge := by
  simp only [seedItems, h edge.edgeType hedge]

theorem incomingItem_congr (h : SameEdgeTypes config config') (depth : Nat) (edge : GraphEdge) :
    incomingItem config depth edge = incomingItem config' depth edge := by
  by_cases htype : edge.edgeType = .dependsOn
  · simp only [incomingItem, htype, h .dependsOn (by decide)]
  · simp only [incomingItem, beq_false_of_ne htype, Bool.false_and]

theorem outgoingItem_congr (h : SameEdgeTypes config config') (depth : Nat) (edge : GraphEdge) :
    outgoingItem config depth edge = outgoingItem config' depth edge := by
  unfold outgoingItem
  split
  · simp only [h .triggers (by decide)]
  · simp only [h .generatedFrom (by decide)]
  · rfl

/-- Two requests that agree on the start, the depth, the targets and the types of the edges have the
same classification, where no validation enters the start. -/
theorem classifyImpact_congr (hstart : request.startNodeId = request'.startNodeId)
    (hdepth : request.depthLimit = request'.depthLimit)
    (htargets : request.targetTypes = request'.targetTypes)
    (hconfig : SameEdgeTypes request.config request'.config)
    (hseed : ∀ e ∈ s.listEdgesTo request.startNodeId, e.edgeType ≠ .validatedBy) (fuel : Nat) :
    classifyImpact s request fuel = classifyImpact s request' fuel := by
  have henqueue : enqueuePropagationEdgesWithConfig s request.config =
      enqueuePropagationEdgesWithConfig s request'.config := by
    funext nodeId depth
    rw [enqueuePropagationEdgesWithConfig, enqueuePropagationEdgesWithConfig,
      funext (incomingItem_congr hconfig (depth + 1)),
      funext (outgoingItem_congr hconfig (depth + 1))]
  have hstep : classifyStep s request = classifyStep s request' := by
    funext st item
    rw [classifyStep, classifyStep, hdepth, htargets, henqueue]
  have hqueue : (s.listEdgesTo request.startNodeId).flatMap (seedItems request.config) =
      (s.listEdgesTo request'.startNodeId).flatMap (seedItems request'.config) := by
    rw [← hstart]
    exact List.flatMap_congr fun e he => seedItems_congr hconfig (hseed e he)
  rw [classifyImpact, classifyImpact, hstep, hqueue, hdepth, hstart]

/-- The default pack follows the types of edges that the default rules follow, validations aside. -/
theorem sameEdgeTypes_default :
    SameEdgeTypes RulePack.default.propagationConfig defaultPropagationConfig := by
  intro edgeType h
  cases edgeType <;> first | rfl | exact absurd rfl h

/-- Where no validation enters the start, the default pack classifies as no pack does with the
default options, whatever the options of the request. -/
theorem classifyImpact_default_pack (s : GraphState) (request plain : ClassifyRequest)
    (hstart : plain.startNodeId = request.startNodeId) (hplain : plain.DefaultOptions)
    (hseed : ∀ e ∈ s.listEdgesTo request.startNodeId, e.edgeType ≠ .validatedBy) (fuel : Nat) :
    classifyImpact s (request.withRules (some RulePack.default.propagationConfig)) fuel =
      classifyImpact s (plain.withRules none) fuel := by
  apply classifyImpact_congr
  · exact hstart.symm
  · rcases hplain.maxDepth with h | h <;>
      simp [ClassifyRequest.depthLimit, ClassifyRequest.withRules, h, ClassifyRequest.config,
        RulePack.default, RulePack.new, RulePack.propagationConfig]
  · rcases hplain.targetNodeTypes with h | h <;>
      simp [ClassifyRequest.targetTypes, ClassifyRequest.withRules, h, ClassifyRequest.config,
        RulePack.default, RulePack.new, RulePack.propagationConfig, defaultPropagationConfig]
  · exact sameEdgeTypes_default
  · exact hseed

theorem classifyImpact_default_pack_line :
    classifyImpact GraphStore.line.state (ClassifyRequest.withRules
        { startNodeId := 3, maxDepth := some 1, targetNodeTypes := some [] }
        (some RulePack.default.propagationConfig)) 9 =
      classifyImpact GraphStore.line.state
        (ClassifyRequest.withRules { startNodeId := 3 } none) 9 :=
  classifyImpact_default_pack GraphStore.line.state
    { startNodeId := 3, maxDepth := some 1, targetNodeTypes := some [] } { startNodeId := 3 } rfl
    ⟨.inr rfl, .inl rfl⟩ (by decide) 9

/-- The items that a classification reports, with their impacts. -/
def ClassificationResult.affectedItems (result : ClassificationResult) :
    List (Uuid × ClassificationImpact) :=
  result.classifiedNodes.map fun c => (c.node.id, c.impact)

/-- The default pack reports the same items with the same impacts as no pack. -/
def DefaultPackKeeps (s : GraphState) (request : ClassifyRequest) (fuel : Nat) : Prop :=
  (classifyImpact s (request.withRules (some RulePack.default.propagationConfig)) fuel).map
      (Except.map ClassificationResult.affectedItems) =
    (classifyImpact s (request.withRules none) fuel).map
      (Except.map ClassificationResult.affectedItems)

/-- An approval that validates an artifact. -/
def GraphStore.validated : GraphStore :=
  let nodes := (empty.createNode 6 rfl 0 (plainNode .approval)).createNode 7 rfl 0
    (plainNode .artifact)
  nodes.createEdge 8 rfl 0 { plainEdge 6 7 with edgeType := .validatedBy }

/-- The depth that a request asks for gives way to the pack's, and so does an approval of the start
to the pack's types of edges. -/
theorem not_defaultPackKeeps :
    ¬ DefaultPackKeeps GraphStore.line.state { startNodeId := 3, maxDepth := some 1 } 9 ∧
      ¬ DefaultPackKeeps GraphStore.validated.state { startNodeId := 7 } 9 := by
  unfold DefaultPackKeeps
  decide

end IntentRebase
