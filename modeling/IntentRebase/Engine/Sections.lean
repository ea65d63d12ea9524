import IntentRebase.Engine.RiskProperties

/-! The sections of a diff as one family: the analysis of each, the entries that it counts, and what
the risk analysis makes of the four of them. -/

namespace IntentRebase

open Kit

inductive DiffSection where
  | scope | constraints | acceptanceCriteria | authority
deriving DecidableEq, Repr

/-- The number of entries in the lists of a constraints diff. -/
def ConstraintsDiff.entryCount (d : ConstraintsDiff) : Nat :=
  d.functional.length + d.nonFunctional.length + d.policy.length + d.budget.length + d.time.length

def AcceptanceCriteriaDiff.entryCount (d : AcceptanceCriteriaDiff) : Nat :=
  d.required.length + d.optional.length

def AuthorityDiff.entryCount (d : AuthorityDiff) : Nat :=
  d.allowedActions.length + d.forbiddenActions.length + d.approvalRequirements.length

def ScopeDiff.entryCount (d : ScopeDiff) : Nat :=
  d.inScope.added.length + d.inScope.removed.length +
    (d.outOfScope.added.length + d.outOfScope.removed.length)

/-- The number of entries in all lists of a diff. -/
def IntentVersionDiff.entryCount (diff : IntentVersionDiff) : Nat :=
  diff.scope.entryCount + diff.constraints.entryCount + diff.acceptanceCriteria.entryCount +
    diff.authority.entryCount

namespace DiffSection

/-- The sections in the order in which they are analysed. -/
def all : List DiffSection := [.scope, .constraints, .acceptanceCriteria, .authority]

def name : DiffSection → String
  | .scope => "scope"
  | .constraints => "constraints"
  | .acceptanceCriteria => "acceptance_criteria"
  | .authority => "authority"

def analysis (diff : IntentVersionDiff) : DiffSection → Severity × MatchingStats
  | .scope => analyzeScopeRisk diff.scope
  | .constraints => analyzeConstraintsRisk diff.constraints
  | .acceptanceCriteria => analyzeAcceptanceCriteriaRisk diff.acceptanceCriteria
  | .authority => analyzeAuthorityRisk diff.authority

def risk (diff : IntentVersionDiff) : DiffSection → SectionRisk
  | .scope => { sectionRisk "scope" (analyzeScopeRisk diff.scope) with highPriorityChanges := 0 }
  | s => sectionRisk s.name (s.analysis diff)

def entryCount (diff : IntentVersionDiff) : DiffSection → Nat
  | .scope => diff.scope.entryCount
  | .constraints => diff.constraints.entryCount
  | .acceptanceCriteria => diff.acceptanceCriteria.entryCount
  | .authority => diff.authority.entryCount

/-- The section has no entry in any of its lists. -/
def isEmpty (diff : IntentVersionDiff) : DiffSection → Bool
  | .scope =>
    diff.scope.inScope.added.isEmpty && diff.scope.inScope.removed.isEmpty &&
      diff.scope.outOfScope.added.isEmpty && diff.scope.outOfScope.removed.isEmpty
  | .constraints =>
    diff.constraints.functional.isEmpty && diff.constraints.nonFunctional.isEmpty &&
      diff.constraints.policy.isEmpty && diff.constraints.budget.isEmpty &&
      diff.constraints.time.isEmpty
  | .acceptanceCriteria =>
    diff.acceptanceCriteria.required.isEmpty && diff.acceptanceCriteria.optional.isEmpty
  | .authority =>
    diff.authority.allowedActions.isEmpty && diff.authority.forbiddenActions.isEmpty &&
      diff.authority.approvalRequirements.isEmpty

variable (diff : IntentVersionDiff) (s : DiffSection)

@[simp] theorem mem_all : s ∈ all := by
  cases s <;> decide

@[simp] theorem risk_sectionName : (s.risk diff).sectionName = s.name := by
  cases s <;> rfl

@[simp] theorem risk_severity : (s.risk diff).severity = (s.analysis diff).1 := by
  cases s <;> rfl

@[simp] theorem risk_changeCount : (s.risk diff).changeCount = (s.analysis diff).2.totalChanges := by
  cases s <;> rfl

theorem isEmpty_iff : s.isEmpty diff = true ↔ s.entryCount diff = 0 := by
  cases s <;>
    simp only [isEmpty, entryCount, ScopeDiff.entryCount, ConstraintsDiff.entryCount,
      AcceptanceCriteriaDiff.entryCount, AuthorityDiff.entryCount, Bool.and_eq_true,
      List.isEmpty_iff, Nat.add_eq_zero_iff, List.length_eq_zero_iff, and_assoc]

end DiffSection

section Totals

theorem analyzeScopeRisk_total (d : ScopeDiff) :
    (analyzeScopeRisk d).2.totalChanges = d.entryCount := by
  unfold analyzeScopeRisk ScopeDiff.entryCount
  simp only
  split <;> rfl

theorem analyzeConstraintsRisk_total (d : ConstraintsDiff) :
    (analyzeConstraintsRisk d).2.totalChanges = d.entryCount := by
  simp only [analyzeConstraintsRisk, combineCategories, analyzeConstraintCategory,
    MatchingStats.addMatches, MatchingStats.add, List.foldl_cons, List.foldl_nil,
    ConstraintsDiff.entryCount, Nat.zero_add]

theorem analyzeAcceptanceCriteriaRisk_total (d : AcceptanceCriteriaDiff) :
    (analyzeAcceptanceCriteriaRisk d).2.totalChanges = d.entryCount := by
  simp only [analyzeAcceptanceCriteriaRisk, combineCategories, analyzeAcceptanceCriterionCategory,
    MatchingStats.addMatches, MatchingStats.add, List.foldl_cons, List.foldl_nil,
    AcceptanceCriteriaDiff.entryCount, Nat.zero_add]

theorem analyzeAuthorityRisk_total (d : AuthorityDiff) :
    (analyzeAuthorityRisk d).2.totalChanges = d.entryCount := rfl

theorem DiffSection.analysis_total (diff : IntentVersionDiff) (s : DiffSection) :
    (s.analysis diff).2.totalChanges = s.entryCount diff := by
  cases s with
  | scope => exact analyzeScopeRisk_total _
  | constraints => exact analyzeConstraintsRisk_total _
  | acceptanceCriteria => exact analyzeAcceptanceCriteriaRisk_total _
  | authority => exact analyzeAuthorityRisk_total _

end Totals

section Analysis

variable (diff : IntentVersionDiff)

/-- The sum of the statistics of the sections. -/
def matchingStats : MatchingStats :=
  (((DiffSection.scope.analysis diff).2.add (DiffSection.constraints.analysis diff).2).add
    (DiffSection.acceptanceCriteria.analysis diff).2).add (DiffSection.authority.analysis diff).2

theorem analyzeDiff_severity :
    (analyzeDiff diff).severity = highest (fun s => (s.analysis diff).1) DiffSection.all := rfl

/-- The risks that an analysis reports are those of the sections that count a change. -/
theorem analyzeDiff_sectionRisks : (analyzeDiff diff).sectionRisks =
    (DiffSection.all.filter fun s => 0 < s.entryCount diff).map (·.risk diff) := by
  have hall : (analyzeDiff diff).sectionRisks =
      (DiffSection.all.map (·.risk diff)).filter fun r => 0 < r.changeCount := rfl
  rw [hall, List.filter_map]
  congr 1
  refine List.filter_congr fun s _ => ?_
  rw [Function.comp_apply, DiffSection.risk_changeCount, DiffSection.analysis_total]

theorem matchingStats_total : (matchingStats diff).totalChanges = diff.entryCount := by
  simp only [matchingStats, MatchingStats.add, DiffSection.analysis_total, DiffSection.entryCount,
    IntentVersionDiff.entryCount]

/-- The number of sections that are high or critical. -/
def highSections : Nat := DiffSection.all.countP fun s => (s.analysis diff).1.isHigh

/-- The number of sections with an entry. -/
def changedSections : Nat := DiffSection.all.countP fun s => 0 < s.entryCount diff

theorem DiffSection.analysis_low {s : DiffSection} (h : s.entryCount diff = 0) :
    (s.analysis diff).1 = .low := by
  cases s with
  | scope =>
    have htotal : diff.scope.entryCount = 0 := h
    unfold ScopeDiff.entryCount at htotal
    simp only [analysis, analyzeScopeRisk, htotal, if_pos]
  | constraints =>
    have hempty := (DiffSection.isEmpty_iff diff .constraints).mpr h
    simp only [isEmpty, Bool.and_eq_true, List.isEmpty_iff] at hempty
    obtain ⟨⟨⟨⟨h1, h2⟩, h3⟩, h4⟩, h5⟩ := hempty
    simp only [analysis, analyzeConstraintsRisk, h1, h2, h3, h4, h5]
    decide
  | acceptanceCriteria =>
    have hempty := (DiffSection.isEmpty_iff diff .acceptanceCriteria).mpr h
    simp only [isEmpty, Bool.and_eq_true, List.isEmpty_iff] at hempty
    simp only [analysis, analyzeAcceptanceCriteriaRisk, hempty.1, hempty.2]
    decide
  | authority =>
    have hempty := (DiffSection.isEmpty_iff diff .authority).mpr h
    simp only [isEmpty, Bool.and_eq_true, List.isEmpty_iff] at hempty
    obtain ⟨⟨h1, h2⟩, h3⟩ := hempty
    simp only [analysis, analyzeAuthorityRisk, h1, h2, h3]
    decide

theorem countP_isHigh : (analyzeDiff diff).sectionRisks.countP (fun r => r.severity.isHigh) =
    highSections diff := by
  rw [analyzeDiff_sectionRisks, List.countP_map, List.countP_filter, highSections]
  refine List.countP_congr fun s _ => ?_
  simp only [Function.comp_apply, DiffSection.risk_severity, Bool.and_eq_true, decide_eq_true_eq,
    and_iff_left_iff_imp]
  intro hhigh
  by_contra hnone
  rw [DiffSection.analysis_low diff (Nat.eq_zero_of_not_pos hnone)] at hhigh
  cases hhigh

theorem countP_changed : (analyzeDiff diff).sectionRisks.countP (fun r => 0 < r.changeCount) =
    changedSections diff := by
  rw [analyzeDiff_sectionRisks, List.countP_map, List.countP_filter, changedSections]
  refine List.countP_congr fun s _ => ?_
  simp only [Function.comp_apply, DiffSection.risk_changeCount, DiffSection.analysis_total,
    Bool.and_self]

/-- The decision class of an analysed diff, from the counts of its sections. -/
theorem computeDecisionClass_eq : computeDecisionClass diff (analyzeDiff diff) =
    if isDiffEmpty diff then .A
    else if (analyzeDiff diff).severity = .critical then .E
    else if 3 ≤ highSections diff then .E
    else if (analyzeDiff diff).severity = .high then
      if (analyzeDiff diff).manualReview ∨ 2 ≤ highSections diff then .D else .C
    else if (analyzeDiff diff).severity = .medium then
      if 3 ≤ changedSections diff ∨ (analyzeDiff diff).manualReview then .D
      else if 2 ≤ changedSections diff then .C
      else .B
    else .B := by
  simp only [computeDecisionClass, countP_isHigh, countP_changed]

theorem isDiffEmpty_eq_all :
    isDiffEmpty diff = DiffSection.all.all fun s => s.isEmpty diff := by
  simp only [isDiffEmpty, DiffSection.all, DiffSection.isEmpty, List.all_cons, List.all_nil,
    Bool.and_true, Bool.and_assoc]

theorem isDiffEmpty_iff : isDiffEmpty diff = true ↔ ∀ s : DiffSection, s.entryCount diff = 0 := by
  rw [isDiffEmpty_eq_all, List.all_eq_true]
  constructor
  · intro h s
    exact (s.isEmpty_iff diff).mp (h s s.mem_all)
  · intro h s _
    exact (s.isEmpty_iff diff).mpr (h s)

theorem isDiffEmpty_of_severity (h : (analyzeDiff diff).severity ≠ .low) :
    isDiffEmpty diff = false := by
  refine Bool.eq_false_iff.mpr fun hempty => h (Severity.le_low.mp ?_)
  rw [analyzeDiff_severity]
  exact highest_le fun s _ => (DiffSection.analysis_low diff ((isDiffEmpty_iff diff).mp hempty s)).le

theorem computeDecisionClass_critical (h : (analyzeDiff diff).severity = .critical) :
    computeDecisionClass diff (analyzeDiff diff) = .E := by
  rw [computeDecisionClass_eq, h, isDiffEmpty_of_severity diff (by rw [h]; decide)]
  rfl

end Analysis

end IntentRebase
