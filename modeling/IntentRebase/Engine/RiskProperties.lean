import IntentRebase.Engine.Planner

/-! The severity of a section bounds the severity of each of its entries, and only a diff without
entries is of low severity. -/

namespace IntentRebase

open Kit

theorem Severity.low_le (s : Severity) : Severity.low ≤ s := Nat.zero_le _

theorem Severity.le_low {s : Severity} : s ≤ .low ↔ s = .low :=
  ⟨fun h => le_antisymm h s.low_le, fun h => h.le⟩

theorem Severity.le_raise_left (overall severity : Severity) :
    overall ≤ overall.raise severity := by
  unfold raise
  split
  · next h => exact h.le
  · exact le_rfl

theorem Severity.le_raise_right (overall severity : Severity) :
    severity ≤ overall.raise severity := by
  unfold raise
  split
  · exact le_rfl
  · next h => exact not_lt.mp h

theorem Severity.raise_eq_max (overall severity : Severity) :
    overall.raise severity = max overall severity := by
  rcases le_total overall severity with h | h
  · rw [max_eq_right h, raise]
    split
    · rfl
    · next hgt => exact le_antisymm h (not_lt.mp hgt)
  · rw [max_eq_left h, raise, if_neg (not_lt.mpr h)]

theorem Severity.le_critical (s : Severity) : s ≤ .critical := by
  cases s <;> decide

theorem Severity.isHigh_iff {s : Severity} : s.isHigh = true ↔ Severity.high ≤ s := by
  cases s <;> decide

theorem Severity.le_escalate (severity : Severity) (condition : Bool) (floor : Severity) :
    severity ≤ severity.escalate condition floor := by
  unfold escalate
  split
  · next h => exact (of_decide_eq_true (Bool.and_eq_true_iff.mp h).2).le
  · exact le_rfl

/-- Under its condition an escalation reaches the floor. -/
theorem Severity.floor_le_escalate (severity floor : Severity) :
    floor ≤ severity.escalate true floor := by
  unfold escalate
  split
  · exact le_rfl
  · next h => exact not_lt.mp (by simpa using h)

theorem Severity.low_of_escalate {severity floor : Severity} {condition : Bool}
    (h : severity.escalate condition floor = .low) : severity = .low :=
  le_low.mp (h ▸ severity.le_escalate condition floor)

section Highest

variable {δ : Type} (severity : δ → Severity)

theorem le_foldl_raise (diffs : List δ) (start : Severity) :
    let overall := diffs.foldl (fun overall d => overall.raise (severity d)) start
    start ≤ overall ∧ ∀ d ∈ diffs, severity d ≤ overall := by
  induction diffs generalizing start with
  | nil => simp
  | cons d rest ih =>
    obtain ⟨hstart, hrest⟩ := ih (start.raise (severity d))
    refine ⟨(start.le_raise_left _).trans hstart, ?_⟩
    intro e he
    rcases List.mem_cons.mp he with rfl | he
    · exact (start.le_raise_right _).trans hstart
    · exact hrest e he

/-- No entry is more severe than the highest. -/
theorem le_highest {diffs : List δ} {d : δ} (h : d ∈ diffs) :
    severity d ≤ highest severity diffs :=
  (le_foldl_raise severity diffs .low).2 d h

variable {severity} in
theorem foldl_raise_le {bound : Severity} {diffs : List δ} {start : Severity} (h : start ≤ bound)
    (hall : ∀ d ∈ diffs, severity d ≤ bound) :
    diffs.foldl (fun overall d => overall.raise (severity d)) start ≤ bound := by
  induction diffs generalizing start with
  | nil => exact h
  | cons d rest ih =>
    refine ih ?_ fun e he => hall e (List.mem_cons_of_mem _ he)
    exact (Severity.raise_eq_max _ _).trans_le (max_le h (hall d List.mem_cons_self))

variable {severity} in
theorem highest_le {bound : Severity} {diffs : List δ} (hall : ∀ d ∈ diffs, severity d ≤ bound) :
    highest severity diffs ≤ bound :=
  foldl_raise_le bound.low_le hall

theorem eq_low_of_highest {diffs : List δ} (h : highest severity diffs = .low) :
    ∀ d ∈ diffs, severity d = .low :=
  fun _ hd => Severity.le_low.mp (h ▸ le_highest severity hd)

variable {severity} in
/-- Entries that are never of low severity make a low section only when there are none. -/
theorem nil_of_highest_low {diffs : List δ} (hne : ∀ d, severity d ≠ .low)
    (h : highest severity diffs = .low) : diffs = [] := by
  cases diffs with
  | nil => rfl
  | cons d rest => exact absurd (eq_low_of_highest severity h d List.mem_cons_self) (hne d)

end Highest

theorem scope_nil_of_low {d : ScopeDiff} (h : (analyzeScopeRisk d).1 = .low) : d = {} := by
  obtain ⟨⟨inAdded, inRemoved⟩, ⟨outAdded, outRemoved⟩⟩ := d
  -- one case for each way the four lists can be empty
  cases inAdded <;> cases inRemoved <;> cases outAdded <;> cases outRemoved <;>
    first
    | rfl
    | simp [analyzeScopeRisk] at h

theorem computeConstraintSeverity_ne_low (d : ConstraintDiff) :
    computeConstraintSeverity d ≠ .low := by
  unfold computeConstraintSeverity
  repeat' split
  all_goals simp

theorem constraints_nil_of_low {name : String} {diffs : List ConstraintDiff}
    (h : (analyzeConstraintCategory name diffs).1 = .low) : diffs = [] := by
  unfold analyzeConstraintCategory at h
  simp only at h
  split at h
  · cases h
  · exact nil_of_highest_low computeConstraintSeverity_ne_low (Severity.low_of_escalate h)

theorem combineCategories_low {categories : List (Severity × MatchingStats)}
    (h : (combineCategories categories).1 = .low) : ∀ c ∈ categories, c.1 = .low :=
  eq_low_of_highest Prod.fst h

theorem constraintsDiff_nil_of_low {d : ConstraintsDiff}
    (h : (analyzeConstraintsRisk d).1 = .low) : d = {} := by
  obtain ⟨functional, nonFunctional, policy, budget, time⟩ := d
  have hlow := combineCategories_low h
  simp only [List.forall_mem_cons, List.not_mem_nil, false_implies, implies_true, and_true] at hlow
  obtain ⟨h1, h2, h3, h4, h5⟩ := hlow
  obtain rfl := constraints_nil_of_low h1
  obtain rfl := constraints_nil_of_low h2
  obtain rfl := constraints_nil_of_low h3
  obtain rfl := constraints_nil_of_low h4
  obtain rfl := constraints_nil_of_low h5
  rfl

theorem computeAcceptanceCriterionSeverity_ne_low (d : AcceptanceCriterionDiff) :
    computeAcceptanceCriterionSeverity d ≠ .low := by
  unfold computeAcceptanceCriterionSeverity
  repeat' split
  all_goals simp

theorem acceptanceCriteria_nil_of_low {name : String} {diffs : List AcceptanceCriterionDiff}
    (h : (analyzeAcceptanceCriterionCategory name diffs).1 = .low) : diffs = [] :=
  nil_of_highest_low computeAcceptanceCriterionSeverity_ne_low (Severity.low_of_escalate h)

theorem acceptanceCriteriaDiff_nil_of_low {d : AcceptanceCriteriaDiff}
    (h : (analyzeAcceptanceCriteriaRisk d).1 = .low) : d = {} := by
  obtain ⟨required, optional⟩ := d
  have hlow := combineCategories_low h
  simp only [List.forall_mem_cons, List.not_mem_nil, false_implies, implies_true, and_true] at hlow
  obtain ⟨h1, h2⟩ := hlow
  obtain rfl := acceptanceCriteria_nil_of_low h1
  obtain rfl := acceptanceCriteria_nil_of_low h2
  rfl

/-- Any change to the authority is of high severity at least. -/
theorem high_le_analyzeAuthorityRisk {d : AuthorityDiff}
    (h : 0 < d.allowedActions.length + d.forbiddenActions.length + d.approvalRequirements.length) :
    Severity.high ≤ (analyzeAuthorityRisk d).1 := by
  simp only [analyzeAuthorityRisk, analyzeActionRefsRisk, analyzeApprovalRulesRisk,
    MatchingStats.add, h, decide_true]
  exact Severity.floor_le_escalate _ _

theorem authorityDiff_nil_of_low {d : AuthorityDiff}
    (h : (analyzeAuthorityRisk d).1 = .low) : d = {} := by
  obtain ⟨allowed, forbidden, approval⟩ := d
  have htotal : ¬ 0 < allowed.length + forbidden.length + approval.length := by
    intro hpos
    have hfloor := high_le_analyzeAuthorityRisk (d := ⟨allowed, forbidden, approval⟩) hpos
    rw [h] at hfloor
    exact absurd hfloor (by decide)
  have h1 : allowed = [] := List.length_eq_zero_iff.mp (by omega)
  have h2 : forbidden = [] := List.length_eq_zero_iff.mp (by omega)
  have h3 : approval = [] := List.length_eq_zero_iff.mp (by omega)
  subst h1 h2 h3
  rfl

/-- The risk analysis of a diff under the default configuration. -/
def analyzeDiff (diff : IntentVersionDiff) : DiffRiskAnalysis :=
  analyzeDiffRisk diff.scope diff.constraints diff.acceptanceCriteria diff.authority

/-- Only a diff without entries is of low severity. -/
theorem diff_empty_of_low {diff : IntentVersionDiff} (h : (analyzeDiff diff).severity = .low) :
    diff = {} := by
  obtain ⟨scope, constraints, ac, authority⟩ := diff
  have hlow := eq_low_of_highest Prod.snd (show highest Prod.snd
    [("scope", (analyzeScopeRisk scope).1), ("constraints", (analyzeConstraintsRisk constraints).1),
      ("acceptance_criteria", (analyzeAcceptanceCriteriaRisk ac).1),
      ("authority", (analyzeAuthorityRisk authority).1)] = .low from h)
  simp only [List.forall_mem_cons, List.not_mem_nil, false_implies, implies_true, and_true] at hlow
  obtain ⟨h1, h2, h3, h4⟩ := hlow
  obtain rfl := scope_nil_of_low h1
  obtain rfl := constraintsDiff_nil_of_low h2
  obtain rfl := acceptanceCriteriaDiff_nil_of_low h3
  obtain rfl := authorityDiff_nil_of_low h4
  rfl

/-- No section is more severe than the whole. -/
theorem sectionRisk_le {diff : IntentVersionDiff} {s : SectionRisk}
    (h : s ∈ (analyzeDiff diff).sectionRisks) : s.severity ≤ (analyzeDiff diff).severity := by
  have hmem := (List.mem_filter.mp h).1
  have hle : ∀ (name : String) {severity : Severity},
      (name, severity) ∈ [("scope", (analyzeScopeRisk diff.scope).1),
        ("constraints", (analyzeConstraintsRisk diff.constraints).1),
        ("acceptance_criteria", (analyzeAcceptanceCriteriaRisk diff.acceptanceCriteria).1),
        ("authority", (analyzeAuthorityRisk diff.authority).1)] →
      severity ≤ (analyzeDiff diff).severity := fun _ _ hm => le_highest Prod.snd hm
  simp only [List.mem_cons, List.not_mem_nil, or_false] at hmem
  rcases hmem with rfl | rfl | rfl | rfl
  · exact hle "scope" (by simp [sectionRisk])
  · exact hle "constraints" (by simp [sectionRisk])
  · exact hle "acceptance_criteria" (by simp [sectionRisk])
  · exact hle "authority" (by simp [sectionRisk])

end IntentRebase
