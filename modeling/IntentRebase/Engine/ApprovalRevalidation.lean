import IntentRebase.Orchestrator.PlanMonotone

/-! The classifier of approvals: from a plan and the current approvals to those that are stale and
those to be revalidated. Class E comes first, then the risk tier, then the other classes. -/

namespace IntentRebase

/-- A plan that is enriched with the affected items found in the graph. -/
def RebasePlan.enriched (plan : RebasePlan) (items : AffectedItemsPreview) : RebasePlan :=
  { plan with affectedItems := items }

structure ApprovalRevalidationResult where
  strategy : RevalidationStrategy
  staleIds : List String
  revalidationRequired : List ApprovalNeedingRevalidation
  requiresManualReview : Bool
deriving DecidableEq, Repr

/-- The affected approvals of a plan that a change reaches. -/
def changedApprovals (plan : RebasePlan) : List AffectedItem :=
  plan.affectedItems.affectedApprovals.filter fun item => item.impact ≠ .unchanged

/-- The identifiers of the affected approvals: of the external reference, or else of the node. -/
def computeAffectedApprovalIds (plan : RebasePlan) : List String :=
  (changedApprovals plan).map fun item =>
    match item.externalRef with
    | some ext => ext.refId.display
    | none => item.nodeId.display

def revalidationRequired (plan : RebasePlan) : List ApprovalNeedingRevalidation :=
  (changedApprovals plan).map fun item =>
    { nodeId := item.nodeId.display, label := item.label
      originalRuleId := (item.externalRef.map ExternalRef.debug).getD "unknown"
      reason := item.reason }

def classifyApprovals (plan : RebasePlan) (currentApprovals : List String) :
    ApprovalRevalidationResult :=
  if plan.decisionClass = .E then
    { strategy := .deferred, staleIds := [], revalidationRequired := []
      requiresManualReview := true }
  else
    let affectedIds := computeAffectedApprovalIds plan
    let staleIds := affectedIds.filter fun id => id ∈ currentApprovals
    match plan.riskTier with
    | .critical =>
      { strategy := .full, staleIds := currentApprovals, revalidationRequired := []
        requiresManualReview := true }
    | .medium =>
      { strategy := .logNotify, staleIds := [], revalidationRequired := []
        requiresManualReview := false }
    | .low =>
      { strategy := .incremental, staleIds := [], revalidationRequired := []
        requiresManualReview := false }
    | .high =>
      let useIncrementalForHighA := plan.riskTier = .high ∧ plan.decisionClass = .A
      match plan.decisionClass with
      | .A =>
        { strategy := if useIncrementalForHighA then .incremental else .drop
          staleIds := if useIncrementalForHighA then staleIds else currentApprovals
          revalidationRequired := [], requiresManualReview := false }
      | .B =>
        { strategy := .incremental, staleIds, revalidationRequired := revalidationRequired plan
          requiresManualReview := false }
      | .C =>
        { strategy := .full, staleIds, revalidationRequired := revalidationRequired plan
          requiresManualReview := false }
      | .D =>
        { strategy := .full, staleIds, revalidationRequired := revalidationRequired plan
          requiresManualReview := true }
      | .E =>
        { strategy := .deferred, staleIds := [], revalidationRequired := []
          requiresManualReview := true }

section Classifier

variable {plan : RebasePlan} (currentApprovals : List String)

theorem classifyApprovals_E (h : plan.decisionClass = .E) :
    classifyApprovals plan currentApprovals =
      { strategy := .deferred, staleIds := [], revalidationRequired := []
        requiresManualReview := true } := by
  rw [classifyApprovals, if_pos h]

theorem classifyApprovals_critical (hE : plan.decisionClass ≠ .E) (h : plan.riskTier = .critical) :
    classifyApprovals plan currentApprovals =
      { strategy := .full, staleIds := currentApprovals, revalidationRequired := []
        requiresManualReview := true } := by
  simp only [classifyApprovals, if_neg hE, h]

theorem classifyApprovals_stale_subset :
    (classifyApprovals plan currentApprovals).staleIds ⊆ currentApprovals := by
  have hfilter : ((computeAffectedApprovalIds plan).filter fun id => id ∈ currentApprovals) ⊆
      currentApprovals := fun _ hid => of_decide_eq_true (List.mem_filter.mp hid).2
  unfold classifyApprovals
  simp only
  split
  · exact List.nil_subset _
  · split
    · exact List.Subset.refl _
    · exact List.nil_subset _
    · exact List.nil_subset _
    · split
      · dsimp only
        split
        · exact hfilter
        · exact List.Subset.refl _
      · exact hfilter
      · exact hfilter
      · exact hfilter
      · exact List.nil_subset _

/-- The approvals of a critical change are deferred, whatever items it affects. -/
theorem classifyApprovals_enriched {diff : IntentVersionDiff}
    (h : (analyzeDiff diff).severity = .critical) (items : AffectedItemsPreview) :
    classifyApprovals ((RebasePlan.fromDiffAndRisk diff (analyzeDiff diff)).enriched items)
      currentApprovals =
        { strategy := .deferred, staleIds := [], revalidationRequired := []
          requiresManualReview := true } :=
  classifyApprovals_E currentApprovals (planOf_class_critical h)

/-- A critical change between two versions makes a plan of class E, and with any affected items its
approvals are deferred to a manual review: none is stale. Only a plan of the critical tier and
another class invalidates every current approval. -/
theorem critical_defers (orders : VersionDiffOrders) (before after : IntentVersion)
    (h : (analyzeDiff (diffIntentVersion orders before after)).severity = .critical) :
    (∀ (items : AffectedItemsPreview) (currentApprovals : List String),
      classifyApprovals
        ((RebasePlan.fromDiffAndRisk (diffIntentVersion orders before after)
          (analyzeDiff (diffIntentVersion orders before after))).enriched items)
        currentApprovals =
        { strategy := .deferred, staleIds := [], revalidationRequired := []
          requiresManualReview := true }) ∧
    ∀ (plan : RebasePlan) (currentApprovals : List String), plan.riskTier = .critical →
      plan.decisionClass ≠ .E →
        classifyApprovals plan currentApprovals =
          { strategy := .full, staleIds := currentApprovals, revalidationRequired := []
            requiresManualReview := true } := by
  constructor
  · intro items currentApprovals
    exact classifyApprovals_enriched currentApprovals h items
  · intro plan currentApprovals htier hE
    exact classifyApprovals_critical currentApprovals hE htier

end Classifier

section Targeted

/-- The identifier by which an approval is correlated: that of its external reference, or else the
node's. -/
def correlationId (item : AffectedItem) : String :=
  (item.externalRef.map fun ext => ext.refId.display).getD item.nodeId.display

theorem computeAffectedApprovalIds_eq (plan : RebasePlan) :
    computeAffectedApprovalIds plan = (changedApprovals plan).map correlationId := by
  refine List.map_congr_left fun item _ => ?_
  unfold correlationId
  cases item.externalRef <;> rfl

theorem classifyApprovals_high (plan : RebasePlan) (currentApprovals : List String)
    (htier : plan.riskTier = .high)
    (hclass : plan.decisionClass = .C ∨ plan.decisionClass = .D) :
    (classifyApprovals plan currentApprovals).staleIds =
        (computeAffectedApprovalIds plan).filter (fun id => id ∈ currentApprovals) ∧
      (classifyApprovals plan currentApprovals).revalidationRequired =
        revalidationRequired plan := by
  rcases hclass with hclass | hclass
  · simp only [classifyApprovals, hclass, htier, reduceCtorEq, if_false, and_self]
  · simp only [classifyApprovals, hclass, htier, reduceCtorEq, if_false, and_self]

/-- The stale approvals of a high plan of class C or D are the current ones that are the correlation
identifier of a changed approval; the approvals to be revalidated are listed by their nodes. -/
theorem targeted_stale {plan : RebasePlan} (htier : plan.riskTier = .high)
    (hclass : plan.decisionClass = .C ∨ plan.decisionClass = .D) (items : AffectedItemsPreview)
    (currentApprovals : List String) :
    (∀ id, id ∈ (classifyApprovals (plan.enriched items) currentApprovals).staleIds ↔
      id ∈ currentApprovals ∧ ∃ item ∈ items.affectedApprovals, item.impact ≠ .unchanged ∧
        correlationId item = id) ∧
    (classifyApprovals (plan.enriched items) currentApprovals).revalidationRequired.map
        ApprovalNeedingRevalidation.nodeId =
      (items.affectedApprovals.filter fun item => item.impact ≠ .unchanged).map
        fun item => item.nodeId.display := by
  obtain ⟨hstale, hrevalidated⟩ :=
    classifyApprovals_high (plan.enriched items) currentApprovals htier hclass
  have hchanged (item : AffectedItem) : item ∈ changedApprovals (plan.enriched items) ↔
      item ∈ items.affectedApprovals ∧ item.impact ≠ .unchanged := by
    rw [changedApprovals, List.mem_filter, decide_eq_true_eq]
    rfl
  constructor
  · intro id
    rw [hstale, List.mem_filter, decide_eq_true_eq, computeAffectedApprovalIds_eq, List.mem_map,
      and_comm]
    simp only [hchanged, and_assoc]
  · rw [hrevalidated, revalidationRequired, List.map_map]
    rfl

end Targeted

section Sample

/-- A version that needs the approvals of some rules. -/
def versionWithRules (rules : List ApprovalRuleRef) : IntentVersion :=
  let version := versionWithScope []
  { version with
    payload := { version.payload with
      authority := { allowedActions := [], forbiddenActions := [], approvalRequirements := rules } } }

theorem removedRule_critical :
    (analyzeDiff (diffIntentVersion .id (versionWithRules [⟨"release", "sign off"⟩])
      (versionWithRules []))).severity = .critical := by
  decide +kernel

theorem critical_defers_removedRule :
    (classifyApprovals
      ((RebasePlan.fromDiffAndRisk
        (diffIntentVersion .id (versionWithRules [⟨"release", "sign off"⟩]) (versionWithRules []))
        (analyzeDiff (diffIntentVersion .id (versionWithRules [⟨"release", "sign off"⟩])
          (versionWithRules [])))).enriched .unavailable) ["approval-1"]).strategy = .deferred :=
  congrArg ApprovalRevalidationResult.strategy <|
    (critical_defers .id _ _ removedRule_critical).1 .unavailable ["approval-1"]

/-- A removed approval requirement is critical, and leaves a current approval in force. -/
theorem critical_not_stale :
    ¬ ∀ (orders : VersionDiffOrders) (before after : IntentVersion),
      (analyzeDiff (diffIntentVersion orders before after)).severity = .critical →
      ∀ (items : AffectedItemsPreview) (currentApprovals : List String),
        (classifyApprovals
          ((RebasePlan.fromDiffAndRisk (diffIntentVersion orders before after)
            (analyzeDiff (diffIntentVersion orders before after))).enriched items)
          currentApprovals).staleIds = currentApprovals := by
  intro h
  have hstale := h .id (versionWithRules [⟨"release", "sign off"⟩]) (versionWithRules [])
    removedRule_critical .unavailable ["approval-1"]
  rw [classifyApprovals_enriched _ removedRule_critical] at hstale
  cases hstale

/-- The plan of a change that adds an approval requirement. -/
def addedRulePlan : RebasePlan :=
  planOf (diffIntentVersion .id (versionWithRules [])
    (versionWithRules [⟨"release", "sign off"⟩]))

theorem addedRulePlan_high :
    addedRulePlan.riskTier = .high ∧
      (addedRulePlan.decisionClass = .C ∨ addedRulePlan.decisionClass = .D) := by
  have hsev : (analyzeDiff (diffIntentVersion .id (versionWithRules [])
      (versionWithRules [⟨"release", "sign off"⟩]))).severity = .high := by decide +kernel
  have hsections : highSections (diffIntentVersion .id (versionWithRules [])
      (versionWithRules [⟨"release", "sign off"⟩])) = 1 := by decide +kernel
  refine ⟨?_, ?_⟩
  · rw [addedRulePlan, planOf_riskTier, hsev]
    rfl
  · rw [addedRulePlan, planOf_decisionClass, computeDecisionClass_eq,
      isDiffEmpty_of_severity _ (by rw [hsev]; decide), hsev, hsections,
      if_neg Bool.false_ne_true, if_neg (by decide), if_neg (by decide), if_pos rfl]
    split
    · exact .inr rfl
    · exact .inl rfl

/-- Two nodes that refer to approval requests, and one that a change does not reach. -/
def referringApprovals : AffectedItemsPreview where
  status := .available
  affectedArtifacts := []
  affectedApprovals := [⟨1, "a", .direct, "", some ⟨.approval, 7⟩⟩,
    ⟨2, "b", .transitive, "", some ⟨.approval, 8⟩⟩,
    ⟨3, "c", .unchanged, "", some ⟨.approval, 9⟩⟩]
  sideEffects := []

theorem targeted_stale_referring :
    Uuid.display 7 ∈ (classifyApprovals (addedRulePlan.enriched referringApprovals)
        [Uuid.display 7, Uuid.display 9]).staleIds ∧
      (classifyApprovals (addedRulePlan.enriched referringApprovals)
          [Uuid.display 7, Uuid.display 9]).revalidationRequired.map
            ApprovalNeedingRevalidation.nodeId = [Uuid.display 1, Uuid.display 2] := by
  obtain ⟨hmem, hnodes⟩ := targeted_stale addedRulePlan_high.1 addedRulePlan_high.2
    referringApprovals [Uuid.display 7, Uuid.display 9]
  refine ⟨(hmem _).mpr ⟨List.mem_cons_self, ?_⟩, hnodes.trans rfl⟩
  exact ⟨_, List.mem_cons_self, by decide, rfl⟩

/-- What is to be revalidated is not named by the requests that the nodes refer to. -/
theorem revalidation_by_node :
    addedRulePlan.riskTier = .high ∧
      (addedRulePlan.decisionClass = .C ∨ addedRulePlan.decisionClass = .D) ∧
      ∃ entry ∈ (classifyApprovals (addedRulePlan.enriched referringApprovals)
          [Uuid.display 7]).revalidationRequired,
        ∀ item ∈ referringApprovals.affectedApprovals, entry.nodeId ≠ correlationId item := by
  obtain ⟨htier, hclass⟩ := addedRulePlan_high
  refine ⟨htier, hclass, ?_⟩
  rw [(classifyApprovals_high (addedRulePlan.enriched referringApprovals) [Uuid.display 7] htier
    hclass).2]
  decide +kernel

end Sample

end IntentRebase
