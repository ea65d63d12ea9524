import IntentRebase.Engine.RiskMonotone
import IntentRebase.Orchestrator.ApplyPipeline

/-! The table of severities: which changes make a diff critical whatever else it has, and which make
it of high severity at least. -/

namespace IntentRebase

open Kit

section Categories

variable {name : String} {diffs : List ConstraintDiff}

/-- No entry of a category is more severe than the category. -/
theorem computeConstraintSeverity_le {d : ConstraintDiff} (h : d ∈ diffs) :
    computeConstraintSeverity d ≤ (analyzeConstraintCategory name diffs).1 := by
  have hentry := (le_highest computeConstraintSeverity h).trans (Severity.le_escalate _
    (name = "policy" && !diffs.isEmpty) .high)
  unfold analyzeConstraintCategory
  simp only
  split
  · exact Severity.le_critical _
  · exact hentry

/-- A policy category with an entry is of high severity at least. -/
theorem high_le_policyCategory (h : diffs ≠ []) :
    Severity.high ≤ (analyzeConstraintCategory "policy" diffs).1 := by
  have hchanged : diffs.isEmpty = false := List.isEmpty_eq_false_iff.mpr h
  unfold analyzeConstraintCategory
  simp only [hchanged, decide_true, Bool.not_false, Bool.and_self]
  split
  · exact Severity.le_critical _
  · exact Severity.floor_le_escalate _ _

/-- A policy category is critical with an entry that shows a constraint that must hold. -/
theorem policyCategory_critical {d : ConstraintDiff} (h : d ∈ diffs)
    (hmust : isHighPriority d = true) :
    (analyzeConstraintCategory "policy" diffs).1 = .critical := by
  unfold analyzeConstraintCategory
  exact if_pos ⟨rfl, List.countP_pos_iff.mpr ⟨d, h, hmust⟩⟩

theorem isHighPriority_of_must {d : ConstraintDiff} {c : Constraint}
    (h : d.before.or d.after = some c) (hmust : c.priority = .must) : isHighPriority d = true := by
  simp only [isHighPriority, h, hmust, decide_true]

/-- A constraint that is added or modified must hold after: the entry is of high severity. -/
theorem computeConstraintSeverity_must {d : ConstraintDiff} {c : Constraint}
    (hkind : d.changeType ≠ .removed) (h : d.after = some c) (hmust : c.priority = .must) :
    computeConstraintSeverity d = .high := by
  cases hchange : d.changeType with
  | added => simp only [computeConstraintSeverity, hchange, h, hmust, if_true]
  | removed => exact absurd hchange hkind
  | modified => simp only [computeConstraintSeverity, hchange, h, hmust, if_true]

theorem medium_le_computeConstraintSeverity (d : ConstraintDiff) :
    Severity.medium ≤ computeConstraintSeverity d := by
  have hlow := computeConstraintSeverity_ne_low d
  cases h : computeConstraintSeverity d with
  | low => exact absurd h hlow
  | medium => decide
  | high => decide
  | critical => decide

end Categories

section Sections

variable {diff : IntentVersionDiff}

/-- No section is more severe than the whole. -/
theorem analysis_le_severity (s : DiffSection) :
    (s.analysis diff).1 ≤ (analyzeDiff diff).severity := by
  rw [analyzeDiff_severity]
  exact le_highest (fun s : DiffSection => (s.analysis diff).1) s.mem_all

/-- No category of constraints is more severe than the whole. -/
theorem category_le_severity (name : String) {diffs : List ConstraintDiff}
    (h : (name, diffs) ∈ [("functional", diff.constraints.functional),
      ("non_functional", diff.constraints.nonFunctional), ("policy", diff.constraints.policy),
      ("budget", diff.constraints.budget), ("time", diff.constraints.time)]) :
    (analyzeConstraintCategory name diffs).1 ≤ (analyzeDiff diff).severity := by
  have hmem : analyzeConstraintCategory name diffs ∈
      [analyzeConstraintCategory "functional" diff.constraints.functional,
        analyzeConstraintCategory "non_functional" diff.constraints.nonFunctional,
        analyzeConstraintCategory "policy" diff.constraints.policy,
        analyzeConstraintCategory "budget" diff.constraints.budget,
        analyzeConstraintCategory "time" diff.constraints.time] :=
    List.mem_map_of_mem (f := fun p : String × List ConstraintDiff =>
      analyzeConstraintCategory p.1 p.2) h
  exact (le_highest Prod.fst hmem).trans (analysis_le_severity .constraints)

theorem high_le_severity_of_authority (h : 0 < diff.authority.entryCount) :
    Severity.high ≤ (analyzeDiff diff).severity :=
  (high_le_analyzeAuthorityRisk h).trans (analysis_le_severity .authority)

/-- A critical section makes a critical whole. -/
theorem critical_of_analysis {s : DiffSection} (h : (s.analysis diff).1 = .critical) :
    (analyzeDiff diff).severity = .critical :=
  le_antisymm (Severity.le_critical _) (h ▸ analysis_le_severity s)

theorem authority_critical_of_forbidden {d : ActionRefDiff}
    (h : d ∈ diff.authority.forbiddenActions) (hremoved : d.changeType = .removed) :
    (analyzeAuthorityRisk diff.authority).1 = .critical := by
  have hentry : computeActionRefSeverity "forbidden_actions" d = .critical := by
    rw [computeActionRefSeverity, hremoved]
    rfl
  have hlist := hentry ▸ le_highest (computeActionRefSeverity "forbidden_actions") h
  refine le_antisymm (Severity.le_critical _) (hlist.trans ?_)
  simp only [analyzeAuthorityRisk, analyzeActionRefsRisk]
  refine le_trans ?_ (Severity.le_escalate _ _ _)
  refine le_trans ?_ (Severity.le_escalate _ _ _)
  refine le_trans ?_ (Severity.le_raise_left _ _)
  refine le_trans ?_ (Severity.le_escalate _ _ _)
  exact Severity.le_raise_right _ _

theorem authority_critical_of_approval {d : ApprovalRuleDiff}
    (h : d ∈ diff.authority.approvalRequirements) (hremoved : d.changeType = .removed) :
    (analyzeAuthorityRisk diff.authority).1 = .critical := by
  have hentry : computeApprovalRuleSeverity d = .critical := by
    rw [computeApprovalRuleSeverity, hremoved]
  have hlist := hentry ▸ le_highest computeApprovalRuleSeverity h
  refine le_antisymm (Severity.le_critical _) (hlist.trans ?_)
  simp only [analyzeAuthorityRisk, analyzeApprovalRulesRisk]
  refine le_trans ?_ (Severity.le_escalate _ _ _)
  refine le_trans ?_ (Severity.le_escalate _ _ _)
  exact Severity.le_raise_right _ _

end Sections

/-- What the severity of a diff is by the entries of its policy, budget and time constraints and of
its authority. -/
structure SeverityTable (diff : IntentVersionDiff) (severity : Severity) : Prop where
  mustPolicy : ∀ d ∈ diff.constraints.policy, ∀ c, d.before.or d.after = some c →
    c.priority = .must → severity = .critical
  removedForbidden : ∀ d ∈ diff.authority.forbiddenActions, d.changeType = .removed →
    severity = .critical
  removedApproval : ∀ d ∈ diff.authority.approvalRequirements, d.changeType = .removed →
    severity = .critical
  policy : diff.constraints.policy ≠ [] → .high ≤ severity
  authority : 0 < diff.authority.entryCount → .high ≤ severity
  mustLimit : ∀ d ∈ diff.constraints.budget ++ diff.constraints.time, ∀ c,
    d.changeType ≠ .removed → d.after = some c → c.priority = .must → .high ≤ severity
  limit : diff.constraints.budget ++ diff.constraints.time ≠ [] → .medium ≤ severity

theorem severityTable_of_diff (diff : IntentVersionDiff) :
    SeverityTable diff (analyzeDiff diff).severity := by
  have hpolicy : (analyzeConstraintCategory "policy" diff.constraints.policy).1 ≤
      (analyzeDiff diff).severity := category_le_severity "policy" (by simp)
  have hlimit : ∀ d ∈ diff.constraints.budget ++ diff.constraints.time,
      computeConstraintSeverity d ≤ (analyzeDiff diff).severity := by
    intro d hd
    rcases List.mem_append.mp hd with hd | hd
    · exact (computeConstraintSeverity_le hd).trans
        (category_le_severity "budget" (by simp))
    · exact (computeConstraintSeverity_le hd).trans
        (category_le_severity "time" (by simp))
  constructor
  · intro d hd c hc hmust
    have hcategory := policyCategory_critical hd (isHighPriority_of_must hc hmust)
    exact le_antisymm (Severity.le_critical _) (hcategory ▸ hpolicy)
  · exact fun d hd hremoved => critical_of_analysis (s := .authority)
      (authority_critical_of_forbidden hd hremoved)
  · exact fun d hd hremoved => critical_of_analysis (s := .authority)
      (authority_critical_of_approval hd hremoved)
  · exact fun h => (high_le_policyCategory h).trans hpolicy
  · exact high_le_severity_of_authority
  · intro d hd c hkind hc hmust
    exact computeConstraintSeverity_must hkind hc hmust ▸ hlimit d hd
  · intro h
    obtain ⟨d, hd⟩ := List.exists_mem_of_ne_nil _ h
    exact (medium_le_computeConstraintSeverity d).trans (hlimit d hd)

/-- The severity of the diff of two versions follows the table. -/
theorem analyzeDiff_severityTable (orders : VersionDiffOrders) (before after : IntentVersion) :
    SeverityTable (diffIntentVersion orders before after)
      (analyzeDiff (diffIntentVersion orders before after)).severity :=
  severityTable_of_diff _

section Sample

/-- A version with some constraints and forbidden actions. -/
def versionWithLimits (policy budget : List Constraint) (forbiddenActions : List ActionRef) :
    IntentVersion :=
  let version := versionWithScope []
  { version with
    payload := { version.payload with
      constraints := { version.payload.constraints with policy, budget }
      authority := { version.payload.authority with forbiddenActions } } }

/-- A constraint of a priority. -/
def retention (priority : ClausePriority) : Constraint :=
  ⟨some 1, .policy, "retention_days", .lte, .number (.posInt 30), none, priority⟩

/-- A policy constraint that must hold after, and a forbidden action that is added, are of high
severity, and an added budget constraint is of medium severity. -/
theorem severityTable_below :
    (analyzeDiff (diffIntentVersion .id (versionWithLimits [retention .should] [] [])
      (versionWithLimits [retention .must] [] []))).severity = .high ∧
    (analyzeDiff (diffIntentVersion .id (versionWithLimits [] [] [])
      (versionWithLimits [] [] [⟨"merge_to_main", none⟩]))).severity = .high ∧
    (analyzeDiff (diffIntentVersion .id (versionWithLimits [] [] [])
      (versionWithLimits [] [retention .should] []))).severity = .medium := by
  decide +kernel

end Sample

end IntentRebase
