import IntentRebase.Engine.Diff

/-! The risk analysis of a diff: the severity of each section, the confidence in the matching, and
the reasons for a manual review. -/

namespace IntentRebase

open Kit

inductive Severity where
  | low | medium | high | critical
deriving DecidableEq, Repr

def Severity.rank : Severity → Nat
  | .low => 0
  | .medium => 1
  | .high => 2
  | .critical => 3

theorem Severity.rank_injective : Function.Injective Severity.rank := by
  intro a b h
  cases a <;> cases b <;> simp_all [Severity.rank]

/-- Severities are ordered from low to critical. -/
instance : LinearOrder Severity := LinearOrder.lift' Severity.rank Severity.rank_injective

/-- The overall severity after a further one. -/
def Severity.raise (overall severity : Severity) : Severity :=
  if severity > overall then severity else overall

/-- The severity after an escalation: `floor` where it was below it and the condition holds. -/
def Severity.escalate (severity : Severity) (condition : Bool) (floor : Severity) : Severity :=
  if condition && severity < floor then floor else severity

def Severity.toRiskTier : Severity → RiskTier
  | .low => .low
  | .medium => .medium
  | .high => .high
  | .critical => .critical

inductive ManualReviewReason where
  | criticalSeverity
  | highSeverityAuthorityChange
  | lowConfidence (confidence threshold : Double)
  | policyConstraintChanged
  | multipleHighSeverityChanges (count : Nat)
  | approvalRequirementRemoved
deriving DecidableEq

structure SectionRisk where
  sectionName : String
  severity : Severity
  changeCount : Nat
  highPriorityChanges : Nat
deriving DecidableEq

structure DiffRiskAnalysis where
  severity : Severity
  confidence : Double
  manualReview : Bool
  manualReviewReasons : List ManualReviewReason
  sectionRisks : List SectionRisk
  rationale : Option String
deriving DecidableEq

structure RiskConfig where
  confidenceThreshold : Double := toDouble (7 / 10)
  maxHighSeverityBeforeManualReview : Nat := 3

/-- How the changes of a diff were matched. -/
structure MatchingStats where
  totalChanges : Nat := 0
  uniqueClauseIdMatch : Nat := 0
  ambiguousMatch : Nat := 0
  noMatch : Nat := 0
  removed : Nat := 0
deriving DecidableEq

/-- The sum of two statistics in every field. -/
def MatchingStats.add (a b : MatchingStats) : MatchingStats where
  totalChanges := a.totalChanges + b.totalChanges
  uniqueClauseIdMatch := a.uniqueClauseIdMatch + b.uniqueClauseIdMatch
  ambiguousMatch := a.ambiguousMatch + b.ambiguousMatch
  noMatch := a.noMatch + b.noMatch
  removed := a.removed + b.removed

/-- The sum of two statistics in every field but the removals, which stay those of the first. -/
def MatchingStats.addMatches (a b : MatchingStats) : MatchingStats :=
  { a.add b with removed := a.removed }

/-- The highest of the severities of some entries. -/
def highest {δ : Type} (severity : δ → Severity) (diffs : List δ) : Severity :=
  diffs.foldl (fun overall d => overall.raise (severity d)) .low

def analyzeScopeRisk (scopeDiff : ScopeDiff) : Severity × MatchingStats :=
  let inScopeChanges := scopeDiff.inScope.added.length + scopeDiff.inScope.removed.length
  let outOfScopeChanges := scopeDiff.outOfScope.added.length + scopeDiff.outOfScope.removed.length
  let totalChanges := inScopeChanges + outOfScopeChanges
  if totalChanges = 0 then
    (.low, { totalChanges })
  else
    let severity : Severity := .low
    let severity := if scopeDiff.inScope.added ≠ [] then .medium else severity
    let severity := if scopeDiff.inScope.removed ≠ [] then .medium else severity
    let severity := if scopeDiff.outOfScope.added ≠ [] ∨ scopeDiff.outOfScope.removed ≠ [] then
      .medium else severity
    (severity, { totalChanges, ambiguousMatch := totalChanges })

def computeConstraintSeverity (diff : ConstraintDiff) : Severity :=
  match diff.changeType with
  | .added | .modified =>
    match diff.after with
    | some c => if c.priority = .must then .high else .medium
    | none => .medium
  | .removed => .medium

/-- The entry shows a constraint that must hold: the one before, or else the one after. -/
def isHighPriority (diff : ConstraintDiff) : Bool :=
  match diff.before.or diff.after with
  | some c => c.priority = .must
  | none => false

def analyzeConstraintCategory (categoryName : String) (diffs : List ConstraintDiff) :
    Severity × MatchingStats :=
  let severity := highest computeConstraintSeverity diffs
  let highPriorityChanges := diffs.countP isHighPriority
  let stats : MatchingStats :=
    { totalChanges := diffs.length
      uniqueClauseIdMatch := diffs.countP fun d => d.clauseId.isSome && d.changeType = .modified
      ambiguousMatch := diffs.countP fun d => d.clauseId.isNone
      noMatch := diffs.countP fun d =>
        d.clauseId.isSome && (d.changeType = .added || d.changeType = .removed) }
  let severity := severity.escalate (categoryName = "policy" && !diffs.isEmpty) .high
  let severity :=
    if categoryName = "policy" ∧ 0 < highPriorityChanges then .critical else severity
  (severity, stats)

/-- The analyses of a section's categories as one: the highest severity and all the matches. -/
def combineCategories (categories : List (Severity × MatchingStats)) : Severity × MatchingStats :=
  (highest Prod.fst categories, categories.foldl (fun stats c => stats.addMatches c.2) {})

def analyzeConstraintsRisk (constraintsDiff : ConstraintsDiff) : Severity × MatchingStats :=
  combineCategories
    [analyzeConstraintCategory "functional" constraintsDiff.functional,
      analyzeConstraintCategory "non_functional" constraintsDiff.nonFunctional,
      analyzeConstraintCategory "policy" constraintsDiff.policy,
      analyzeConstraintCategory "budget" constraintsDiff.budget,
      analyzeConstraintCategory "time" constraintsDiff.time]

/-- Whether a text has another as a part. -/
def containsText (text part : String) : Bool :=
  text.toList.tails.any fun rest => part.toList.isPrefixOf rest

def computeAcceptanceCriterionSeverity (diff : AcceptanceCriterionDiff) : Severity :=
  match diff.changeType with
  | .added => if containsText diff.priority "Must" then .high else .medium
  | .removed => .medium
  | .modified =>
    match diff.after with
    | some after => if after.priority = .must then .high else .medium
    | none => .medium

def analyzeAcceptanceCriterionCategory (categoryName : String)
    (diffs : List AcceptanceCriterionDiff) : Severity × MatchingStats :=
  let severity := highest computeAcceptanceCriterionSeverity diffs
  let stats : MatchingStats :=
    { totalChanges := diffs.length
      uniqueClauseIdMatch := diffs.countP fun d => d.clauseId.isSome && d.changeType = .modified
      ambiguousMatch := diffs.countP fun d => d.clauseId.isNone
      noMatch := diffs.countP fun d => d.clauseId.isSome && d.changeType ≠ .modified }
  (severity.escalate (categoryName = "required" && !diffs.isEmpty) .medium, stats)

def analyzeAcceptanceCriteriaRisk (acDiff : AcceptanceCriteriaDiff) : Severity × MatchingStats :=
  combineCategories
    [analyzeAcceptanceCriterionCategory "required" acDiff.required,
      analyzeAcceptanceCriterionCategory "optional" acDiff.optional]

def computeActionRefSeverity (sectionName : String) (diff : ActionRefDiff) : Severity :=
  match diff.changeType with
  | .added => .medium
  | .removed => if sectionName = "forbidden_actions" then .critical else .high
  | .modified => .medium

def analyzeActionRefsRisk (sectionName : String) (diffs : List ActionRefDiff) :
    Severity × MatchingStats :=
  (highest (computeActionRefSeverity sectionName) diffs,
    { totalChanges := diffs.length
      uniqueClauseIdMatch := diffs.countP fun d => d.changeType = .modified
      noMatch := diffs.countP fun d =>
        d.changeType ≠ .modified && (d.before.isNone || d.after.isNone)
      removed := diffs.countP fun d => d.changeType = .removed })

def computeApprovalRuleSeverity (diff : ApprovalRuleDiff) : Severity :=
  match diff.changeType with
  | .added => .medium
  | .removed => .critical
  | .modified => .high

def analyzeApprovalRulesRisk (diffs : List ApprovalRuleDiff) : Severity × MatchingStats :=
  (highest computeApprovalRuleSeverity diffs,
    { totalChanges := diffs.length
      uniqueClauseIdMatch := diffs.countP fun d => d.changeType = .modified
      noMatch := diffs.countP fun d => d.changeType ≠ .modified
      removed := diffs.countP fun d => d.changeType = .removed })

def analyzeAuthorityRisk (authorityDiff : AuthorityDiff) : Severity × MatchingStats :=
  let (allowedSeverity, allowedStats) :=
    analyzeActionRefsRisk "allowed_actions" authorityDiff.allowedActions
  let (forbiddenSeverity, forbiddenStats) :=
    analyzeActionRefsRisk "forbidden_actions" authorityDiff.forbiddenActions
  let (approvalSeverity, approvalStats) :=
    analyzeApprovalRulesRisk authorityDiff.approvalRequirements
  let stats := (allowedStats.add forbiddenStats).add approvalStats
  let overall := allowedSeverity
  let overall := overall.raise forbiddenSeverity
  let overall := overall.escalate (0 < forbiddenStats.removed) .critical
  let overall := overall.raise approvalSeverity
  let overall := overall.escalate (0 < approvalStats.removed) .critical
  (overall.escalate (0 < stats.totalChanges) .high, stats)

/-- The confidence in the matching: full for a matched clause, half for an ambiguous one, and four
fifths for one that is only added or removed. -/
def computeConfidence (stats : MatchingStats) : Double :=
  if stats.totalChanges = 0 then 1
  else
    let total := Double.ofNat stats.totalChanges
    let uniqueRatio := (Double.ofNat stats.uniqueClauseIdMatch).div total
    let ambiguousRatio := (Double.ofNat stats.ambiguousMatch).div total
    let noMatchRatio := (Double.ofNat stats.noMatch).div total
    let confidence :=
      ((uniqueRatio.mul 1).add (ambiguousRatio.mul (toDouble (1 / 2)))).add
        (noMatchRatio.mul (toDouble (4 / 5)))
    Double.clamp 0 1 confidence

def computeOverallSeverity (sectionSeverities : List (String × Severity)) : Severity :=
  highest Prod.snd sectionSeverities

/-- The severity is high or critical. -/
def Severity.isHigh (severity : Severity) : Bool := severity = .high || severity = .critical

def shouldManualReview (severity : Severity) (confidence : Double)
    (sectionSeverities : List (String × Severity)) (policyChanged approvalRemoved : Bool)
    (config : RiskConfig) : Bool × List ManualReviewReason :=
  let highSeverityCount := sectionSeverities.countP fun s => s.2.isHigh
  let reasons :=
    (if severity = .critical then [.criticalSeverity] else []) ++
    (if confidence < config.confidenceThreshold then
      [.lowConfidence confidence config.confidenceThreshold] else []) ++
    (if policyChanged then [.policyConstraintChanged] else []) ++
    (if config.maxHighSeverityBeforeManualReview ≤ highSeverityCount then
      [.multipleHighSeverityChanges highSeverityCount] else []) ++
    (if approvalRemoved then [.approvalRequirementRemoved] else [])
  (!reasons.isEmpty, reasons)

def generateRationale (severity : Severity) (confidence : Double)
    (sectionSeverities : List (String × Severity)) : Option String :=
  if sectionSeverities.all (fun s => s.2 = .low) ∧ toDouble (95 / 100) ≤ confidence then
    some "No semantic changes detected - identical content with matching clause IDs"
  else
    let description :=
      match severity with
      | .critical => "critical severity changes detected"
      | .high => "high severity changes in authority or constraints"
      | .medium => "moderate changes to scope or acceptance criteria"
      | .low => "minor or clarification changes"
    let doubt :=
      if confidence < toDouble (7 / 10) then ["low confidence due to ambiguous clause matching"]
      else []
    some (String.intercalate "; " (description :: doubt))

/-- Whether the diff changes a policy constraint. -/
def policyChanged (constraintsDiff : ConstraintsDiff) : Bool :=
  (constraintsDiff.policy.any fun d =>
    d.changeType ≠ .modified || d.before.map Constraint.priority ≠ d.after.map Constraint.priority)
  || !constraintsDiff.policy.isEmpty

/-- The risk of a section whose changes are of high priority where no clause matched. -/
def sectionRisk (name : String) (analysis : Severity × MatchingStats) : SectionRisk where
  sectionName := name
  severity := analysis.1
  changeCount := analysis.2.totalChanges
  highPriorityChanges := analysis.2.totalChanges - analysis.2.uniqueClauseIdMatch

def analyzeDiffRiskWithConfig (scopeDiff : ScopeDiff) (constraintsDiff : ConstraintsDiff)
    (acDiff : AcceptanceCriteriaDiff) (authorityDiff : AuthorityDiff) (config : RiskConfig) :
    DiffRiskAnalysis :=
  let scope := analyzeScopeRisk scopeDiff
  let constraints := analyzeConstraintsRisk constraintsDiff
  let ac := analyzeAcceptanceCriteriaRisk acDiff
  let authority := analyzeAuthorityRisk authorityDiff
  let sectionSeverities :=
    [("scope", scope.1), ("constraints", constraints.1), ("acceptance_criteria", ac.1),
      ("authority", authority.1)]
  let sectionRisks :=
    [{ sectionRisk "scope" scope with highPriorityChanges := 0 },
      sectionRisk "constraints" constraints, sectionRisk "acceptance_criteria" ac,
      sectionRisk "authority" authority]
  let totalStats := ((scope.2.add constraints.2).add ac.2).add authority.2
  let severity := computeOverallSeverity sectionSeverities
  let confidence := computeConfidence totalStats
  let approvalRemoved := authorityDiff.approvalRequirements.any fun r => r.changeType = .removed
  let (manualReview, manualReviewReasons) :=
    shouldManualReview severity confidence sectionSeverities (policyChanged constraintsDiff)
      approvalRemoved config
  { severity, confidence, manualReview, manualReviewReasons
    sectionRisks := sectionRisks.filter fun r => 0 < r.changeCount
    rationale := generateRationale severity confidence sectionSeverities }

def analyzeDiffRisk (scopeDiff : ScopeDiff) (constraintsDiff : ConstraintsDiff)
    (acDiff : AcceptanceCriteriaDiff) (authorityDiff : AuthorityDiff) : DiffRiskAnalysis :=
  analyzeDiffRiskWithConfig scopeDiff constraintsDiff acDiff authorityDiff {}

end IntentRebase
