import IntentRebase.Engine.Sections

/-! More entries in a diff never lower a severity: of an entry's list, of a section, or of the
whole. -/

namespace IntentRebase

open Kit

/-- Every list of `d` is part of the corresponding list of `d'`: the same entries, and possibly
more. -/
structure SubDiff (d d' : IntentVersionDiff) : Prop where
  inScopeAdded : d.scope.inScope.added.Subperm d'.scope.inScope.added
  inScopeRemoved : d.scope.inScope.removed.Subperm d'.scope.inScope.removed
  outOfScopeAdded : d.scope.outOfScope.added.Subperm d'.scope.outOfScope.added
  outOfScopeRemoved : d.scope.outOfScope.removed.Subperm d'.scope.outOfScope.removed
  functional : d.constraints.functional.Subperm d'.constraints.functional
  nonFunctional : d.constraints.nonFunctional.Subperm d'.constraints.nonFunctional
  policy : d.constraints.policy.Subperm d'.constraints.policy
  budget : d.constraints.budget.Subperm d'.constraints.budget
  time : d.constraints.time.Subperm d'.constraints.time
  required : d.acceptanceCriteria.required.Subperm d'.acceptanceCriteria.required
  optional : d.acceptanceCriteria.optional.Subperm d'.acceptanceCriteria.optional
  allowedActions : d.authority.allowedActions.Subperm d'.authority.allowedActions
  forbiddenActions : d.authority.forbiddenActions.Subperm d'.authority.forbiddenActions
  approvalRequirements :
    d.authority.approvalRequirements.Subperm d'.authority.approvalRequirements

namespace Severity

theorem escalate_eq (severity floor : Severity) (condition : Bool) :
    severity.escalate condition floor = if condition then max severity floor else severity := by
  cases condition with
  | false => rfl
  | true =>
    rw [if_pos rfl, ← raise_eq_max, raise, escalate, Bool.true_and]
    simp only [decide_eq_true_eq, gt_iff_lt]

theorem raise_mono {a a' b b' : Severity} (h : a ≤ a') (h' : b ≤ b') : a.raise b ≤ a'.raise b' := by
  rw [raise_eq_max, raise_eq_max]
  exact max_le_max h h'

theorem escalate_mono {a a' floor : Severity} {c c' : Bool} (h : a ≤ a') (hc : c = true → c' = true)
    : a.escalate c floor ≤ a'.escalate c' floor := by
  rw [escalate_eq, escalate_eq]
  split
  · next hcond =>
    rw [if_pos (hc hcond)]
    exact max_le_max h le_rfl
  · split
    · exact h.trans (le_max_left _ _)
    · exact h

theorem isHigh_mono {a b : Severity} (h : a ≤ b) (ha : a.isHigh = true) : b.isHigh = true :=
  isHigh_iff.mpr ((isHigh_iff.mp ha).trans h)

end Severity

section Highest

variable {δ δ' : Type} {severity : δ → Severity} {severity' : δ' → Severity}

theorem highest_mono {diffs : List δ} {diffs' : List δ'}
    (h : ∀ d ∈ diffs, ∃ e ∈ diffs', severity d ≤ severity' e) :
    highest severity diffs ≤ highest severity' diffs' := by
  refine highest_le fun d hd => ?_
  obtain ⟨e, he, hle⟩ := h d hd
  exact hle.trans (le_highest severity' he)

theorem highest_subperm {diffs diffs' : List δ} (h : diffs.Subperm diffs') :
    highest severity diffs ≤ highest severity diffs' :=
  highest_mono fun d hd => ⟨d, h.subset hd, le_rfl⟩

theorem combineCategories_mono {categories categories' : List (Severity × MatchingStats)}
    (h : List.Forall₂ (fun c c' => c.1 ≤ c'.1) categories categories') :
    (combineCategories categories).1 ≤ (combineCategories categories').1 := by
  refine highest_mono fun c hc => ?_
  induction h with
  | nil => cases hc
  | cons hle _ ih =>
    rcases List.mem_cons.mp hc with rfl | hc
    · exact ⟨_, List.mem_cons_self, hle⟩
    · obtain ⟨e, he, hce⟩ := ih hc
      exact ⟨e, List.mem_cons_of_mem _ he, hce⟩

end Highest

section Lists

variable {δ : Type} {l l' : List δ}

theorem not_isEmpty_of_subperm (h : l.Subperm l') (hne : (!l.isEmpty) = true) :
    (!l'.isEmpty) = true := by
  rw [Bool.not_eq_true', List.isEmpty_eq_false_iff] at hne ⊢
  rintro rfl
  exact hne (List.subperm_nil.mp h)

theorem countP_pos_of_subperm {p : δ → Bool} (h : l.Subperm l') (hpos : 0 < l.countP p) :
    0 < l'.countP p :=
  hpos.trans_le (h.countP_le p)

end Lists

section Analyses

theorem analyzeScopeRisk_severity (d : ScopeDiff) :
    (analyzeScopeRisk d).1 = if d = {} then .low else .medium := by
  obtain ⟨⟨inAdded, inRemoved⟩, ⟨outAdded, outRemoved⟩⟩ := d
  -- one case for each way the four lists can be empty
  cases inAdded <;> cases inRemoved <;> cases outAdded <;> cases outRemoved <;>
    simp [analyzeScopeRisk]

theorem analyzeScopeRisk_mono {d d' : ScopeDiff} (h : d' = {} → d = {}) :
    (analyzeScopeRisk d).1 ≤ (analyzeScopeRisk d').1 := by
  rw [analyzeScopeRisk_severity, analyzeScopeRisk_severity]
  by_cases hempty : d' = {}
  · rw [if_pos hempty, if_pos (h hempty)]
  · rw [if_neg hempty]
    split <;> decide

theorem analyzeConstraintCategory_mono (name : String) {diffs diffs' : List ConstraintDiff}
    (h : diffs.Subperm diffs') :
    (analyzeConstraintCategory name diffs).1 ≤ (analyzeConstraintCategory name diffs').1 := by
  have hfloor : (highest computeConstraintSeverity diffs).escalate
        (name = "policy" && !diffs.isEmpty) .high ≤
      (highest computeConstraintSeverity diffs').escalate
        (name = "policy" && !diffs'.isEmpty) .high := by
    refine Severity.escalate_mono (highest_subperm h) fun hc => ?_
    rw [Bool.and_eq_true] at hc ⊢
    exact ⟨hc.1, not_isEmpty_of_subperm h hc.2⟩
  simp only [analyzeConstraintCategory]
  split
  · next hmust =>
    rw [if_pos ⟨hmust.1, countP_pos_of_subperm h hmust.2⟩]
  · split
    · exact hfloor.trans (Severity.le_critical _)
    · exact hfloor

theorem analyzeConstraintsRisk_mono {d d' : IntentVersionDiff} (h : SubDiff d d') :
    (analyzeConstraintsRisk d.constraints).1 ≤ (analyzeConstraintsRisk d'.constraints).1 :=
  combineCategories_mono <|
    .cons (analyzeConstraintCategory_mono _ h.functional) <|
    .cons (analyzeConstraintCategory_mono _ h.nonFunctional) <|
    .cons (analyzeConstraintCategory_mono _ h.policy) <|
    .cons (analyzeConstraintCategory_mono _ h.budget) <|
    .cons (analyzeConstraintCategory_mono _ h.time) .nil

theorem analyzeAcceptanceCriterionCategory_mono (name : String)
    {diffs diffs' : List AcceptanceCriterionDiff} (h : diffs.Subperm diffs') :
    (analyzeAcceptanceCriterionCategory name diffs).1 ≤
      (analyzeAcceptanceCriterionCategory name diffs').1 := by
  refine Severity.escalate_mono (highest_subperm h) fun hc => ?_
  rw [Bool.and_eq_true] at hc ⊢
  exact ⟨hc.1, not_isEmpty_of_subperm h hc.2⟩

theorem analyzeAcceptanceCriteriaRisk_mono {d d' : IntentVersionDiff} (h : SubDiff d d') :
    (analyzeAcceptanceCriteriaRisk d.acceptanceCriteria).1 ≤
      (analyzeAcceptanceCriteriaRisk d'.acceptanceCriteria).1 :=
  combineCategories_mono <|
    .cons (analyzeAcceptanceCriterionCategory_mono _ h.required) <|
    .cons (analyzeAcceptanceCriterionCategory_mono _ h.optional) .nil

theorem analyzeAuthorityRisk_mono {d d' : IntentVersionDiff} (h : SubDiff d d') :
    (analyzeAuthorityRisk d.authority).1 ≤ (analyzeAuthorityRisk d'.authority).1 := by
  have hlength : d.authority.entryCount ≤ d'.authority.entryCount :=
    Nat.add_le_add (Nat.add_le_add h.allowedActions.length_le h.forbiddenActions.length_le)
      h.approvalRequirements.length_le
  simp only [analyzeAuthorityRisk, analyzeActionRefsRisk, analyzeApprovalRulesRisk,
    MatchingStats.add]
  refine Severity.escalate_mono ?_ fun hpos =>
    decide_eq_true ((of_decide_eq_true hpos).trans_le hlength)
  refine Severity.escalate_mono ?_ fun hpos =>
    decide_eq_true (countP_pos_of_subperm h.approvalRequirements (of_decide_eq_true hpos))
  refine Severity.raise_mono ?_ (highest_subperm h.approvalRequirements)
  refine Severity.escalate_mono ?_ fun hpos =>
    decide_eq_true (countP_pos_of_subperm h.forbiddenActions (of_decide_eq_true hpos))
  exact Severity.raise_mono (highest_subperm h.allowedActions) (highest_subperm h.forbiddenActions)

end Analyses

section Diffs

variable {d d' : IntentVersionDiff}

theorem SubDiff.scope_empty (h : SubDiff d d') (hempty : d'.scope = {}) : d.scope = {} := by
  have h1 := h.inScopeAdded
  have h2 := h.inScopeRemoved
  have h3 := h.outOfScopeAdded
  have h4 := h.outOfScopeRemoved
  rw [hempty, List.subperm_nil] at h1 h2 h3 h4
  obtain ⟨⟨⟨inAdded, inRemoved⟩, ⟨outAdded, outRemoved⟩⟩, _, _, _⟩ := d
  obtain rfl : inAdded = [] := h1
  obtain rfl : inRemoved = [] := h2
  obtain rfl : outAdded = [] := h3
  obtain rfl : outRemoved = [] := h4
  rfl

theorem SubDiff.analysis_le (h : SubDiff d d') (s : DiffSection) :
    (s.analysis d).1 ≤ (s.analysis d').1 := by
  cases s with
  | scope => exact analyzeScopeRisk_mono h.scope_empty
  | constraints => exact analyzeConstraintsRisk_mono h
  | acceptanceCriteria => exact analyzeAcceptanceCriteriaRisk_mono h
  | authority => exact analyzeAuthorityRisk_mono h

theorem SubDiff.entryCount_le (h : SubDiff d d') (s : DiffSection) :
    s.entryCount d ≤ s.entryCount d' := by
  have h1 := h.inScopeAdded.length_le
  have h2 := h.inScopeRemoved.length_le
  have h3 := h.outOfScopeAdded.length_le
  have h4 := h.outOfScopeRemoved.length_le
  have h5 := h.functional.length_le
  have h6 := h.nonFunctional.length_le
  have h7 := h.policy.length_le
  have h8 := h.budget.length_le
  have h9 := h.time.length_le
  have h10 := h.required.length_le
  have h11 := h.optional.length_le
  have h12 := h.allowedActions.length_le
  have h13 := h.forbiddenActions.length_le
  have h14 := h.approvalRequirements.length_le
  cases s <;>
    simp only [DiffSection.entryCount, ScopeDiff.entryCount, ConstraintsDiff.entryCount,
      AcceptanceCriteriaDiff.entryCount, AuthorityDiff.entryCount] <;>
    omega

theorem SubDiff.severity_le (h : SubDiff d d') :
    (analyzeDiff d).severity ≤ (analyzeDiff d').severity := by
  rw [analyzeDiff_severity, analyzeDiff_severity]
  exact highest_mono fun s hs => ⟨s, hs, h.analysis_le s⟩

theorem SubDiff.highSections_le (h : SubDiff d d') : highSections d ≤ highSections d' :=
  List.countP_mono_left fun s _ => Severity.isHigh_mono (h.analysis_le s)

theorem SubDiff.changedSections_le (h : SubDiff d d') : changedSections d ≤ changedSections d' :=
  List.countP_mono_left fun s _ hpos =>
    decide_eq_true ((of_decide_eq_true hpos).trans_le (h.entryCount_le s))

/-- A section that the analysis of the smaller diff reports is reported for the larger one, at least
as severe. -/
theorem SubDiff.sectionRisks_le (h : SubDiff d d') {r : SectionRisk}
    (hr : r ∈ (analyzeDiff d).sectionRisks) :
    ∃ r' ∈ (analyzeDiff d').sectionRisks, r'.sectionName = r.sectionName ∧
      r.severity ≤ r'.severity := by
  rw [analyzeDiff_sectionRisks] at hr ⊢
  obtain ⟨s, hs, rfl⟩ := List.mem_map.mp hr
  have hpos := of_decide_eq_true (List.mem_filter.mp hs).2
  refine ⟨s.risk d', List.mem_map_of_mem (List.mem_filter.mpr
    ⟨s.mem_all, decide_eq_true (hpos.trans_le (h.entryCount_le s))⟩), ?_, ?_⟩
  · rw [DiffSection.risk_sectionName, DiffSection.risk_sectionName]
  · rw [DiffSection.risk_severity, DiffSection.risk_severity]
    exact h.analysis_le s

end Diffs

end IntentRebase
