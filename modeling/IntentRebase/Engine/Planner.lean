import IntentRebase.Engine.Risk
import IntentRebase.Types.Graph

/-! The rebase planner: from a diff and its risk analysis to a decision class, a risk tier, and the
fields whose execution is deferred. -/

namespace IntentRebase

open Kit

/-- The decision classes: no change, soft review, partial repair, compensation and repair, hard
restart. -/
inductive DecisionClass where
  | A | B | C | D | E
deriving DecidableEq, Repr

/-- The debug text of a decision class. -/
def DecisionClass.debug : DecisionClass → String
  | .A => "A"
  | .B => "B"
  | .C => "C"
  | .D => "D"
  | .E => "E"

structure CheckpointCandidate where
  id : String
  label : String
  description : String
  validated : Bool
deriving DecidableEq, Repr

structure CheckpointSelection where
  ready : Bool
  candidates : List CheckpointCandidate
  selected : Option CheckpointCandidate
  rationale : Option String
deriving DecidableEq, Repr

structure ApprovalNeedingRevalidation where
  nodeId : String
  label : String
  originalRuleId : String
  reason : String
deriving DecidableEq, Repr

inductive RevalidationStrategy where
  | deferred | full | incremental | drop | logNotify
deriving DecidableEq, Repr

/-- The debug text of a strategy. -/
def RevalidationStrategy.debug : RevalidationStrategy → String
  | .deferred => "Deferred"
  | .full => "Full"
  | .incremental => "Incremental"
  | .drop => "Drop"
  | .logNotify => "LogNotify"

structure ApprovalRevalidation where
  ready : Bool
  approvalsNeedingRevalidation : List ApprovalNeedingRevalidation
  strategy : RevalidationStrategy
  rationale : Option String
deriving DecidableEq, Repr

/-- A compensation that the plan foresees; a stored action is another type. -/
structure PotentialCompensation where
  id : String
  label : String
  description : String
  reversible : Bool
  priority : Nat
deriving DecidableEq, Repr

structure CompensationReadiness where
  ready : Bool
  potentialActions : List PotentialCompensation
  hasIrreversibleEffects : Bool
  rationale : Option String
deriving DecidableEq, Repr

structure DeferredFields where
  checkpointSelection : CheckpointSelection
  approvalRevalidation : ApprovalRevalidation
  compensation : CompensationReadiness
deriving DecidableEq, Repr

structure SectionDecision where
  sectionName : String
  changeSummary : String
  recommendedAction : String
deriving DecidableEq, Repr

structure RebasePlan where
  decisionClass : DecisionClass
  sectionDecisions : List SectionDecision
  affectedItems : AffectedItemsPreview
  deferred : DeferredFields
  manualReviewRecommended : Bool
  riskTier : RiskTier
  riskLevel : Nat
deriving DecidableEq, Repr

/-- The preview has graph data and some affected item. -/
def AffectedItemsPreview.hasAffectedItems (items : AffectedItemsPreview) : Bool :=
  items.status = .available &&
    (!items.affectedArtifacts.isEmpty || !items.affectedApprovals.isEmpty ||
      !items.sideEffects.isEmpty)

def computeCheckpointCandidates (decisionClass : DecisionClass)
    (affectedItems : AffectedItemsPreview) : List CheckpointCandidate :=
  if decisionClass = .A then []
  else
    [{ id := "checkpoint-most-recent", label := "Most Recent Checkpoint"
       description := "Resume from the most recent checkpoint before changes"
       validated := false }] ++
    (if affectedItems.hasAffectedItems then
      [{ id := "checkpoint-before-invalidation", label := "Before First Invalidation"
         description := "Resume before any affected items were invalidated by the changes"
         validated := false }] else []) ++
    (if decisionClass = .D ∨ decisionClass = .E then
      [{ id := "checkpoint-before-side-effects", label := "Before Side Effects"
         description :=
          "Resume before any irreversible side effects were triggered by the changes"
         validated := false }] else []) ++
    (if decisionClass = .E then
      [{ id := "checkpoint-last-known-good", label := "Last Known Good State"
         description := "Resume from the last fully validated state before issues began"
         validated := false }] else []) ++
    (if decisionClass = .C then
      [{ id := "checkpoint-minimal", label := "Minimal Checkpoint"
         description := "Resume at the minimal checkpoint needed to repair scope changes"
         validated := false }] else [])

/-- The first of the preferred checkpoints that is a candidate, or else the most recent one. -/
def firstCandidate (candidates : List CheckpointCandidate) (preferred : List String) : String :=
  (preferred.find? fun id => candidates.any fun c => c.id = id).getD "checkpoint-most-recent"

def buildSelectionRationale (decisionClass : DecisionClass) (affectedItems : AffectedItemsPreview)
    (selectedId : String) : String :=
  let affectedCount :=
    if affectedItems.hasAffectedItems then
      affectedItems.affectedArtifacts.length + affectedItems.affectedApprovals.length +
        affectedItems.sideEffects.length
    else 0
  let classReason :=
    match decisionClass with
    | .A => "no semantic changes"
    | .B => "soft review recommended"
    | .C => "partial repair candidate"
    | .D => "compensation and repair needed"
    | .E => "hard restart / manual handoff required"
  let checkpointReason :=
    match selectedId with
    | "checkpoint-most-recent" => "closest checkpoint minimizes re-execution"
    | "checkpoint-before-invalidation" => "ensures affected items are in valid state"
    | "checkpoint-before-side-effects" => "avoids irreversible side effect re-execution"
    | "checkpoint-last-known-good" => "provides clean state for manual review"
    | "checkpoint-minimal" => "minimizes scope of repair"
    | _ => "fallback to most recent checkpoint"
  let name := (selectedId.replace "checkpoint-" "").replace "-" " "
  if 0 < affectedCount then
    s!"Selected {name} for {classReason} with {affectedCount} affected item(s). {checkpointReason}"
  else
    s!"Selected {name} for {classReason}. {checkpointReason}"

def selectBestCheckpoint (candidates : List CheckpointCandidate) (decisionClass : DecisionClass)
    (affectedItems : AffectedItemsPreview) : Option CheckpointCandidate × String :=
  if candidates = [] ∨ decisionClass = .A then
    (none, "No checkpoint needed for Class A (no semantic changes)")
  else
    let selectedId :=
      match decisionClass with
      | .A | .B => "checkpoint-most-recent"
      | .C => firstCandidate candidates ["checkpoint-minimal"]
      | .D =>
        firstCandidate candidates
          ["checkpoint-before-side-effects", "checkpoint-before-invalidation"]
      | .E =>
        firstCandidate candidates ["checkpoint-last-known-good", "checkpoint-before-side-effects"]
    (candidates.find? fun c => c.id = selectedId,
      buildSelectionRationale decisionClass affectedItems selectedId)

def CheckpointSelection.withHeuristic (decisionClass : DecisionClass)
    (affectedItems : AffectedItemsPreview) : CheckpointSelection :=
  let candidates := computeCheckpointCandidates decisionClass affectedItems
  let (selected, rationale) := selectBestCheckpoint candidates decisionClass affectedItems
  { ready := false, candidates, selected, rationale := some rationale }

/-- The debug text of an external reference's kind. -/
def ExternalRefType.debug : ExternalRefType → String
  | .intent => "Intent"
  | .intentVersion => "IntentVersion"
  | .artifact => "Artifact"
  | .approval => "Approval"
  | .policySnapshot => "PolicySnapshot"
  | .sideEffect => "SideEffect"
  | .checkpoint => "Checkpoint"

/-- The debug text of an external reference. -/
def ExternalRef.debug (r : ExternalRef) : String :=
  "ExternalRef \x7b ref_type: " ++ r.refType.debug ++ ", ref_id: " ++ r.refId.display ++ " \x7d"

def ApprovalRevalidation.withAffectedApprovals (decisionClass : DecisionClass)
    (affectedItems : AffectedItemsPreview) : ApprovalRevalidation :=
  let approvals := affectedItems.affectedApprovals.map fun item =>
    { nodeId := item.nodeId.display, label := item.label
      originalRuleId := (item.externalRef.map ExternalRef.debug).getD "unknown"
      reason := item.reason }
  let strategy : RevalidationStrategy :=
    match decisionClass with
    | .A | .B => .drop
    | .C => .incremental
    | .D | .E => .full
  let rationale :=
    if approvals.isEmpty then "No affected approvals detected"
    else
      let count := approvals.length
      s!"{count} approval(s) need revalidation (class {decisionClass.debug}, " ++
        s!"strategy {strategy.debug})"
  { ready := false, approvalsNeedingRevalidation := approvals, strategy
    rationale := some rationale }

def CompensationReadiness.withSideEffects (decisionClass : DecisionClass)
    (affectedItems : AffectedItemsPreview) : CompensationReadiness :=
  let hasIrreversibleEffects := affectedItems.sideEffects.any fun item =>
    item.impact = .direct || item.impact = .transitive
  let potentialActions := affectedItems.sideEffects.map fun item =>
    { id := item.nodeId.display, label := item.label, description := item.reason
      reversible := item.impact = .unchanged
      priority :=
        match item.impact with
        | .direct => 1
        | .transitive => 2
        | .unchanged => 3 }
  let rationale :=
    if potentialActions.isEmpty then "No side effects requiring compensation"
    else
      let count := potentialActions.length
      let irreversible := if hasIrreversibleEffects then "true" else "false"
      s!"{count} potential compensation action(s) identified (irreversible: {irreversible}, " ++
        s!"class {decisionClass.debug})"
  { ready := false, potentialActions, hasIrreversibleEffects, rationale := some rationale }

def DeferredFields.phase1Baseline (decisionClass : DecisionClass)
    (affectedItems : AffectedItemsPreview) : DeferredFields where
  checkpointSelection := .withHeuristic decisionClass affectedItems
  approvalRevalidation := .withAffectedApprovals decisionClass affectedItems
  compensation := .withSideEffects decisionClass affectedItems

def isDiffEmpty (diff : IntentVersionDiff) : Bool :=
  diff.scope.inScope.added.isEmpty && diff.scope.inScope.removed.isEmpty &&
  diff.scope.outOfScope.added.isEmpty && diff.scope.outOfScope.removed.isEmpty &&
  diff.constraints.functional.isEmpty && diff.constraints.nonFunctional.isEmpty &&
  diff.constraints.policy.isEmpty && diff.constraints.budget.isEmpty &&
  diff.constraints.time.isEmpty && diff.acceptanceCriteria.required.isEmpty &&
  diff.acceptanceCriteria.optional.isEmpty && diff.authority.allowedActions.isEmpty &&
  diff.authority.forbiddenActions.isEmpty && diff.authority.approvalRequirements.isEmpty

def computeDecisionClass (diff : IntentVersionDiff) (risk : DiffRiskAnalysis) : DecisionClass :=
  if isDiffEmpty diff then .A
  else if risk.severity = .critical then .E
  else
    let highSeverityCount := risk.sectionRisks.countP fun s => s.severity.isHigh
    if 3 ≤ highSeverityCount then .E
    else if risk.severity = .high then
      if risk.manualReview ∨ 2 ≤ highSeverityCount then .D else .C
    else if risk.severity = .medium then
      let changedSections := risk.sectionRisks.countP fun s => 0 < s.changeCount
      if 3 ≤ changedSections ∨ risk.manualReview then .D
      else if 2 ≤ changedSections then .C
      else .B
    else .B

/-- The items of a list that changed, with a sign, when there are any. -/
def signedCount (sign name : String) (items : List String) : List String :=
  if items.isEmpty then []
  else
    let count := items.length
    [s!"{sign}{count} {name}"]

def computeSectionDecisions (diff : IntentVersionDiff) : List SectionDecision :=
  let scopeParts :=
    signedCount "+" "in_scope" diff.scope.inScope.added ++
    signedCount "-" "in_scope" diff.scope.inScope.removed ++
    signedCount "+" "out_of_scope" diff.scope.outOfScope.added ++
    signedCount "-" "out_of_scope" diff.scope.outOfScope.removed
  let totalConstraints :=
    diff.constraints.functional.length + diff.constraints.nonFunctional.length +
    diff.constraints.policy.length + diff.constraints.budget.length +
    diff.constraints.time.length
  let totalAc :=
    diff.acceptanceCriteria.required.length + diff.acceptanceCriteria.optional.length
  let totalAuth :=
    diff.authority.allowedActions.length + diff.authority.forbiddenActions.length +
    diff.authority.approvalRequirements.length
  (if scopeParts.isEmpty then [] else
    [{ sectionName := "scope", changeSummary := String.intercalate ", " scopeParts
       recommendedAction := "Review scope deltas before proceeding" }]) ++
  (if 0 < totalConstraints then
    [{ sectionName := "constraints"
       changeSummary := s!"{totalConstraints} total constraint changes"
       recommendedAction :=
        if diff.constraints.policy.isEmpty then
          "Review constraint changes for impact on execution"
        else "Policy constraint changes — verify against governing policies" }] else []) ++
  (if 0 < totalAc then
    [{ sectionName := "acceptance_criteria"
       changeSummary := s!"{totalAc} acceptance criteria changes"
       recommendedAction :=
        "Verify acceptance criteria changes maintain success conditions" }] else []) ++
  (if 0 < totalAuth then
    [{ sectionName := "authority"
       changeSummary := s!"{totalAuth} authority changes"
       recommendedAction :=
        "Review authority changes for approval and action implications" }] else [])

def computeRiskLevel (decision : DecisionClass) (risk : DiffRiskAnalysis) : Nat :=
  match decision with
  | .A => 1
  | .B => if risk.confidence < toDouble (1 / 2) then 3 else 2
  | .C => 3
  | .D => 4
  | .E => 5

def RebasePlan.fromDiffAndRisk (diff : IntentVersionDiff) (risk : DiffRiskAnalysis) :
    RebasePlan :=
  let decisionClass := computeDecisionClass diff risk
  { decisionClass
    sectionDecisions := computeSectionDecisions diff
    affectedItems := .unavailable
    deferred := .phase1Baseline decisionClass .unavailable
    manualReviewRecommended :=
      risk.manualReview || risk.severity = .critical || risk.severity = .high ||
        decisionClass ≠ .A
    riskTier := risk.severity.toRiskTier
    riskLevel := computeRiskLevel decisionClass risk }

end IntentRebase
