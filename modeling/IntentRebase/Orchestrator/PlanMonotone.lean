import IntentRebase.Engine.RiskMonotone
import IntentRebase.Orchestrator.NoOp

/-! What more entries in a diff do to its plan: the default guard keeps blocking, a review asked for
on any ground but the confidence stays, and the class falls only from D to C, where a broad medium
change becomes a single high section. -/

namespace IntentRebase

open Kit

def DecisionClass.rank : DecisionClass → Nat
  | .A => 0
  | .B => 1
  | .C => 2
  | .D => 3
  | .E => 4

theorem DecisionClass.rank_injective : Function.Injective DecisionClass.rank := by
  intro a b h
  cases a <;> cases b <;> simp_all [DecisionClass.rank]

/-- Decision classes are ordered from no change to hard restart. -/
instance : LinearOrder DecisionClass :=
  LinearOrder.lift' DecisionClass.rank DecisionClass.rank_injective

theorem DecisionClass.le_E (c : DecisionClass) : c ≤ .E := by
  cases c <;> decide

/-- The confidence below which the default configuration asks for a review. -/
def confidenceThreshold : Double := ({} : RiskConfig).confidenceThreshold

/-- A ground for a review other than the confidence in the matching. -/
def FirmGround (diff : IntentVersionDiff) : Prop :=
  (analyzeDiff diff).severity = .critical ∨ policyChanged diff.constraints = true ∨
    3 ≤ highSections diff ∨
    (diff.authority.approvalRequirements.any fun r => r.changeType = .removed) = true

/-- Low confidence is the only reason that the analysis gives for a review. -/
def RestsOnConfidence (diff : IntentVersionDiff) : Prop :=
  ∃ confidence threshold,
    (analyzeDiff diff).manualReviewReasons = [.lowConfidence confidence threshold]

section Review

variable {diff d d' : IntentVersionDiff}

theorem manualReviewReasons_eq : (analyzeDiff diff).manualReviewReasons =
    (if (analyzeDiff diff).severity = .critical then
      [ManualReviewReason.criticalSeverity] else []) ++
    (if (analyzeDiff diff).confidence < confidenceThreshold then
      [.lowConfidence (analyzeDiff diff).confidence confidenceThreshold] else []) ++
    (if policyChanged diff.constraints then [.policyConstraintChanged] else []) ++
    (if 3 ≤ highSections diff then [.multipleHighSeverityChanges (highSections diff)] else []) ++
    (if diff.authority.approvalRequirements.any (fun r => r.changeType = .removed) then
      [.approvalRequirementRemoved] else []) := rfl

theorem manualReview_eq :
    (analyzeDiff diff).manualReview = !(analyzeDiff diff).manualReviewReasons.isEmpty := by
  unfold analyzeDiff analyzeDiffRisk analyzeDiffRiskWithConfig shouldManualReview
  rfl

theorem manualReview_iff : (analyzeDiff diff).manualReview = true ↔
    (analyzeDiff diff).confidence < confidenceThreshold ∨ FirmGround diff := by
  rw [manualReview_eq, Bool.not_eq_true', List.isEmpty_eq_false_iff, manualReviewReasons_eq]
  simp only [ne_eq, List.append_eq_nil_iff, ite_eq_right_iff, List.cons_ne_nil, imp_false]
  constructor
  · intro h
    by_contra hnone
    obtain ⟨hconf, hfirm⟩ := not_or.mp hnone
    exact h ⟨⟨⟨⟨fun hc => hfirm (.inl hc), hconf⟩, fun hp => hfirm (.inr (.inl hp))⟩,
      fun hh => hfirm (.inr (.inr (.inl hh)))⟩, fun ha => hfirm (.inr (.inr (.inr ha)))⟩
  · rintro (hconf | hc | hp | hh | ha) ⟨⟨⟨⟨h1, h2⟩, h3⟩, h4⟩, h5⟩
    · exact h2 hconf
    · exact h1 hc
    · exact h3 hp
    · exact h4 hh
    · exact h5 ha

theorem restsOnConfidence_of_not_firm (hfirm : ¬ FirmGround diff)
    (hconf : (analyzeDiff diff).confidence < confidenceThreshold) : RestsOnConfidence diff := by
  refine ⟨(analyzeDiff diff).confidence, confidenceThreshold, ?_⟩
  rw [manualReviewReasons_eq, if_neg fun hc => hfirm (.inl hc), if_pos hconf,
    if_neg fun hp => hfirm (.inr (.inl hp)), if_neg fun hh => hfirm (.inr (.inr (.inl hh))),
    if_neg fun ha => hfirm (.inr (.inr (.inr ha)))]
  rfl

theorem policyChanged_iff {d : ConstraintsDiff} : policyChanged d = true ↔ d.policy ≠ [] := by
  unfold policyChanged
  cases d.policy <;> simp

theorem SubDiff.firmGround (h : SubDiff d d') : FirmGround d → FirmGround d' := by
  rintro (hc | hp | hh | ha)
  · refine .inl (le_antisymm (Severity.le_critical _) ?_)
    exact hc ▸ h.severity_le
  · refine .inr (.inl (policyChanged_iff.mpr fun hnil => policyChanged_iff.mp hp ?_))
    exact List.subperm_nil.mp (hnil ▸ h.policy)
  · exact .inr (.inr (.inl (hh.trans h.highSections_le)))
  · obtain ⟨r, hr, hremoved⟩ := List.any_eq_true.mp ha
    exact .inr (.inr (.inr (List.any_eq_true.mpr ⟨r, h.approvalRequirements.subset hr, hremoved⟩)))

/-- A review stays when entries are added, unless it rests on a low confidence that they raise. -/
theorem SubDiff.manualReview (h : SubDiff d d')
    (hconf : RestsOnConfidence d → (analyzeDiff d').confidence < confidenceThreshold)
    (hd : (analyzeDiff d).manualReview = true) : (analyzeDiff d').manualReview = true := by
  rw [manualReview_iff] at hd ⊢
  by_cases hfirm : FirmGround d
  · exact .inr (h.firmGround hfirm)
  · rcases hd with hlow | hground
    · exact .inl (hconf (restsOnConfidence_of_not_firm hfirm hlow))
    · exact absurd hground hfirm

end Review

section Classes

variable {diff d d' : IntentVersionDiff}

/-- A medium change over three sections or more becomes a change with one high section and no ground
for a review. -/
structure NarrowHigh (d d' : IntentVersionDiff) : Prop where
  medium : (analyzeDiff d).severity = .medium
  broad : 3 ≤ changedSections d
  high : (analyzeDiff d').severity = .high
  single : highSections d' < 2
  unreviewed : (analyzeDiff d').manualReview = false

theorem highSections_eq_zero (h : (analyzeDiff diff).severity ≤ .medium) :
    highSections diff = 0 := by
  refine List.countP_eq_zero.mpr fun s hs hhigh => ?_
  have hle : (s.analysis diff).1 ≤ (analyzeDiff diff).severity := by
    rw [analyzeDiff_severity]
    exact le_highest (fun s => (s.analysis diff).1) hs
  exact absurd ((Severity.isHigh_iff.mp hhigh).trans (hle.trans h)) (by decide)

theorem planOf_class_critical (h : (analyzeDiff diff).severity = .critical) :
    (planOf diff).decisionClass = .E := by
  rw [planOf_decisionClass, computeDecisionClass_critical diff h]

theorem planOf_class_high (h : (analyzeDiff diff).severity = .high) :
    (planOf diff).decisionClass =
      if 3 ≤ highSections diff then .E
      else if (analyzeDiff diff).manualReview ∨ 2 ≤ highSections diff then .D else .C := by
  rw [planOf_decisionClass, computeDecisionClass_eq, h,
    isDiffEmpty_of_severity diff (by rw [h]; decide)]
  rfl

theorem planOf_class_medium (h : (analyzeDiff diff).severity = .medium) :
    (planOf diff).decisionClass =
      if 3 ≤ changedSections diff ∨ (analyzeDiff diff).manualReview then .D
      else if 2 ≤ changedSections diff then .C
      else .B := by
  rw [planOf_decisionClass, computeDecisionClass_eq, h,
    isDiffEmpty_of_severity diff (by rw [h]; decide), highSections_eq_zero h.le]
  rfl

theorem planOf_class_low (h : (analyzeDiff diff).severity = .low) :
    (planOf diff).decisionClass = .A := by
  rw [diff_empty_of_low h]
  rfl

theorem NarrowHigh.classes (h : NarrowHigh d d') :
    (planOf d).decisionClass = .D ∧ (planOf d').decisionClass = .C := by
  have hsingle := h.single
  constructor
  · rw [planOf_class_medium h.medium, if_pos (.inl h.broad)]
  · rw [planOf_class_high h.high, if_neg (by omega), h.unreviewed,
      if_neg (not_or.mpr ⟨by decide, by omega⟩)]

/-- The class does not fall from a medium diff to a larger high one that is not a narrow one. -/
theorem SubDiff.class_medium_high (hnarrow : ¬ NarrowHigh d d')
    (hreview : (analyzeDiff d).manualReview = true → (analyzeDiff d').manualReview = true)
    (hd : (analyzeDiff d).severity = .medium) (hd' : (analyzeDiff d').severity = .high) :
    (planOf d).decisionClass ≤ (planOf d').decisionClass := by
  rw [planOf_class_medium hd, planOf_class_high hd']
  by_cases hE : 3 ≤ highSections d'
  · rw [if_pos hE]
    exact DecisionClass.le_E _
  rw [if_neg hE]
  by_cases hD : (analyzeDiff d').manualReview ∨ 2 ≤ highSections d'
  · rw [if_pos hD]
    repeat' split
    all_goals decide
  · obtain ⟨hunreviewed, hsingle⟩ := not_or.mp hD
    rw [if_neg hD, if_neg]
    · split <;> decide
    · rintro (hbroad | hmanual)
      · exact hnarrow ⟨hd, hbroad, hd', not_le.mp hsingle, Bool.eq_false_iff.mpr hunreviewed⟩
      · exact hunreviewed (hreview hmanual)

/-- Between diffs of the same severity the class is monotone in the counts and in the review. -/
theorem SubDiff.class_same (h : SubDiff d d')
    (hreview : (analyzeDiff d).manualReview = true → (analyzeDiff d').manualReview = true)
    (hsame : (analyzeDiff d).severity = (analyzeDiff d').severity) :
    (planOf d).decisionClass ≤ (planOf d').decisionClass := by
  have hhigh := h.highSections_le
  have hchanged := h.changedSections_le
  cases hd' : (analyzeDiff d').severity with
  | low =>
    rw [planOf_class_low (hsame.trans hd')]
    exact Nat.zero_le _
  | medium =>
    rw [planOf_class_medium (hsame.trans hd'), planOf_class_medium hd']
    by_cases hD : 3 ≤ changedSections d ∨ (analyzeDiff d).manualReview
    · rw [if_pos hD, if_pos (hD.imp (fun hc => hc.trans hchanged) hreview)]
    · rw [if_neg hD]
      by_cases hC : 2 ≤ changedSections d
      · rw [if_pos hC, if_pos (hC.trans hchanged)]
        split <;> decide
      · rw [if_neg hC]
        repeat' split
        all_goals decide
  | high =>
    rw [planOf_class_high (hsame.trans hd'), planOf_class_high hd']
    by_cases hE : 3 ≤ highSections d
    · rw [if_pos hE, if_pos (hE.trans hhigh)]
    · rw [if_neg hE]
      by_cases hD : (analyzeDiff d).manualReview ∨ 2 ≤ highSections d
      · rw [if_pos hD, if_pos (hD.imp hreview fun hc => hc.trans hhigh)]
        split <;> decide
      · rw [if_neg hD]
        repeat' split
        all_goals decide
  | critical =>
    rw [planOf_class_critical hd']
    exact DecisionClass.le_E _

/-- The class does not fall when entries are added, but for a narrow high change. -/
theorem SubDiff.class_le (h : SubDiff d d') (hnarrow : ¬ NarrowHigh d d')
    (hreview : (analyzeDiff d).manualReview = true → (analyzeDiff d').manualReview = true) :
    (planOf d).decisionClass ≤ (planOf d').decisionClass := by
  rcases h.severity_le.eq_or_lt with hsame | hlt
  · exact h.class_same hreview hsame
  cases hd : (analyzeDiff d).severity with
  | low =>
    rw [planOf_class_low hd]
    exact Nat.zero_le _
  | medium =>
    rw [hd] at hlt
    cases hd' : (analyzeDiff d').severity with
    | low => exact absurd (hd' ▸ hlt) (by decide)
    | medium => exact absurd (hd' ▸ hlt) (by decide)
    | high => exact class_medium_high hnarrow hreview hd hd'
    | critical =>
      rw [planOf_class_critical hd']
      exact DecisionClass.le_E _
  | high =>
    -- above high there is only critical
    have hcritical : (analyzeDiff d').severity = .critical := by
      rw [hd] at hlt
      cases hd' : (analyzeDiff d').severity <;> rw [hd'] at hlt <;>
        first | rfl | exact absurd hlt (by decide)
    rw [planOf_class_critical hcritical]
    exact DecisionClass.le_E _
  | critical =>
    rw [hd] at hlt
    exact absurd hlt (not_lt.mpr (Severity.le_critical _))

end Classes

section Guard

variable {diff d d' : IntentVersionDiff}

/-- The default guard blocks exactly the plans whose analysis is high or critical. -/
theorem guard_blocks_iff :
    (∃ reason, RiskTierGuard.evaluate (planOf diff).riskTier (planOf diff).decisionClass =
      .blocked reason) ↔ Severity.high ≤ (analyzeDiff diff).severity := by
  rw [planOf_riskTier]
  unfold RiskTierGuard.evaluate
  constructor
  · rintro ⟨reason, hblocked⟩
    split at hblocked
    · cases hblocked
    · cases hsev : (analyzeDiff diff).severity with
      | low =>
        rw [hsev] at hblocked
        cases hblocked
      | medium =>
        rw [hsev] at hblocked
        cases hblocked
      | high => exact le_rfl
      | critical => exact Severity.le_critical _
  · intro hhigh
    have hA : (planOf diff).decisionClass ≠ .A := decisionClass_ne_A <|
        isDiffEmpty_of_severity diff <| by
      intro hlow
      exact absurd (hlow ▸ hhigh) (by decide)
    rw [if_neg hA]
    cases hsev : (analyzeDiff diff).severity with
    | low => exact absurd (hsev ▸ hhigh) (by decide)
    | medium => exact absurd (hsev ▸ hhigh) (by decide)
    | high => exact ⟨_, rfl⟩
    | critical => exact ⟨_, rfl⟩

/-- More entries never lower the overall severity or that of a section, and where the default guard
blocks the plan of the smaller diff it blocks that of the larger one. -/
theorem severity_and_blocking_mono (h : SubDiff d d') :
    (analyzeDiff d).severity ≤ (analyzeDiff d').severity ∧
    (∀ s : DiffSection, (s.analysis d).1 ≤ (s.analysis d').1) ∧
    (∀ r ∈ (analyzeDiff d).sectionRisks, ∃ r' ∈ (analyzeDiff d').sectionRisks,
      r'.sectionName = r.sectionName ∧ r.severity ≤ r'.severity) ∧
    ((∃ reason, RiskTierGuard.evaluate (planOf d).riskTier (planOf d).decisionClass =
        .blocked reason) →
      ∃ reason, RiskTierGuard.evaluate (planOf d').riskTier (planOf d').decisionClass =
        .blocked reason) := by
  refine ⟨h.severity_le, h.analysis_le, fun r hr => h.sectionRisks_le hr, fun hblocked => ?_⟩
  exact guard_blocks_iff.mpr ((guard_blocks_iff.mp hblocked).trans h.severity_le)

end Guard

section Samples

/-- An action that is no longer forbidden. -/
def liftedBan : ActionRefDiff where
  changeType := .removed
  before := some ⟨"deploy", none⟩
  after := none
  action := "deploy"
  target := none

/-- An optional criterion that is found again by its identifier. -/
def rewordedCriterion : AcceptanceCriterionDiff where
  changeType := .modified
  before := some ⟨some 7, "fast", .should⟩
  after := some ⟨some 7, "faster", .should⟩
  clauseId := some 7
  priority := "Should"

/-- A budget constraint of the given priority that is found again by its identifier. -/
def retunedConstraint (priority : ClausePriority) : ConstraintDiff where
  changeType := .modified
  before := some ⟨some 8, .budget, "max_cost", .lte, .number (.posInt 10), none, priority⟩
  after := some ⟨some 8, .budget, "max_cost", .lte, .number (.posInt 20), none, priority⟩
  clauseId := some 8
  constraintType := .budget
  key := "max_cost"

/-- A diff with one addition to the scope, and some budget constraints and criteria. -/
def sampleDiff (budget : List ConstraintDiff) (optional : List AcceptanceCriterionDiff) :
    IntentVersionDiff :=
  { scope := { inScope := { added := ["billing"] } }
    constraints := { budget }
    acceptanceCriteria := { optional } }

theorem sampleDiff_sub {budget budget' : List ConstraintDiff}
    {optional optional' : List AcceptanceCriterionDiff} (hb : budget.Subperm budget')
    (ho : optional.Subperm optional') : SubDiff (sampleDiff budget optional)
      (sampleDiff budget' optional') := by
  constructor <;> first | exact .refl _ | exact hb | exact ho

theorem severity_and_blocking_mono_lifted :
    ∃ reason, RiskTierGuard.evaluate
      (planOf { sampleDiff [] [] with authority := { forbiddenActions := [liftedBan] } }).riskTier
      (planOf { sampleDiff [] [] with authority := { forbiddenActions := [liftedBan] } }
        ).decisionClass = .blocked reason := by
  have hsub : SubDiff { authority := { forbiddenActions := [liftedBan] } }
      { sampleDiff [] [] with authority := { forbiddenActions := [liftedBan] } } := by
    constructor <;> first | exact .refl _ | exact List.nil_subperm
  exact (severity_and_blocking_mono hsub).2.2.2 ⟨_, rfl⟩

/-- When entries are added, a review stays unless it rests on a low confidence that they raise to
the threshold; and where it stays, the class falls only from D to C, as a medium change over three
sections or more becomes a change with one high section. -/
theorem plan_mono {d d' : IntentVersionDiff} (h : SubDiff d d')
    (hconf : RestsOnConfidence d → (analyzeDiff d').confidence < confidenceThreshold) :
    ((analyzeDiff d).manualReview = true → (analyzeDiff d').manualReview = true) ∧
    (¬ NarrowHigh d d' → (planOf d).decisionClass ≤ (planOf d').decisionClass) ∧
    (NarrowHigh d d' → (planOf d).decisionClass = .D ∧ (planOf d').decisionClass = .C) :=
  ⟨h.manualReview hconf, fun hnarrow => h.class_le hnarrow (h.manualReview hconf),
    fun hnarrow => hnarrow.classes⟩

theorem plan_mono_reworded :
    ¬ NarrowHigh (sampleDiff [] [rewordedCriterion])
        (sampleDiff [retunedConstraint .should] [rewordedCriterion]) ∧
      (planOf (sampleDiff [] [rewordedCriterion])).decisionClass ≤
        (planOf (sampleDiff [retunedConstraint .should] [rewordedCriterion])).decisionClass := by
  have hnarrow : ¬ NarrowHigh (sampleDiff [] [rewordedCriterion])
      (sampleDiff [retunedConstraint .should] [rewordedCriterion]) := fun hn =>
    absurd hn.high (by decide +kernel)
  have hrests : ¬ RestsOnConfidence (sampleDiff [] [rewordedCriterion]) := by
    rintro ⟨confidence, threshold, hreasons⟩
    rw [show (analyzeDiff (sampleDiff [] [rewordedCriterion])).manualReviewReasons = [] by
      decide +kernel] at hreasons
    cases hreasons
  exact ⟨hnarrow, (plan_mono (sampleDiff_sub List.nil_subperm (.refl _))
    fun hr => absurd hr hrests).2.1 hnarrow⟩

/-- A matched criterion raises the confidence of an addition to the scope to the threshold, so that
the review is lost and the class falls; and a required constraint takes a broad medium change from D
to C, both without a review. -/
theorem plan_not_mono :
    (SubDiff (sampleDiff [] []) (sampleDiff [] [rewordedCriterion]) ∧
      (analyzeDiff (sampleDiff [] [])).manualReview = true ∧
      (analyzeDiff (sampleDiff [] [rewordedCriterion])).manualReview = false ∧
      (planOf (sampleDiff [] [rewordedCriterion])).decisionClass <
        (planOf (sampleDiff [] [])).decisionClass) ∧
    (SubDiff (sampleDiff [retunedConstraint .should] [rewordedCriterion])
        (sampleDiff [retunedConstraint .should, retunedConstraint .must] [rewordedCriterion]) ∧
      (analyzeDiff (sampleDiff [retunedConstraint .should] [rewordedCriterion])).manualReview =
        false ∧
      (planOf (sampleDiff [retunedConstraint .should, retunedConstraint .must]
          [rewordedCriterion])).decisionClass <
        (planOf (sampleDiff [retunedConstraint .should] [rewordedCriterion])).decisionClass) := by
  refine ⟨⟨sampleDiff_sub (.refl _) List.nil_subperm, ?_⟩, ⟨sampleDiff_sub ?_ (.refl _), ?_⟩⟩
  · decide +kernel
  · exact (List.sublist_append_left [retunedConstraint .should] [retunedConstraint .must]).subperm
  · decide +kernel

end Samples

/-! The diff, its risk analysis and its plan as three views of one change: they name the same
sections, and the tier, the class and the recommendation follow from them. -/

/-- The names of the sections whose diff is not empty, in the order of the analysis. -/
def changedSectionNames (diff : IntentVersionDiff) : List String :=
  (DiffSection.all.filter fun s => !s.isEmpty diff).map DiffSection.name

/-- The analysis and the plan agree with the diff and with each other. -/
structure ConsistentViews (diff : IntentVersionDiff) (risk : DiffRiskAnalysis) (plan : RebasePlan) :
    Prop where
  decisions : plan.sectionDecisions.map SectionDecision.sectionName = changedSectionNames diff
  risks : risk.sectionRisks.map SectionRisk.sectionName = changedSectionNames diff
  tier : plan.riskTier =
    ((risk.sectionRisks.map SectionRisk.severity).foldr max Severity.low).toRiskTier
  noChange : plan.decisionClass = .A ↔ diff = {}
  critical : risk.severity = .critical → plan.decisionClass = .E
  recommended : plan.manualReviewRecommended = false ↔
    plan.decisionClass = .A ∧ risk.manualReview = false
  unrecommended : plan.manualReviewRecommended = false ↔ diff = {}

section Names

variable (diff : IntentVersionDiff)

theorem changedSectionNames_eq : changedSectionNames diff =
    (if DiffSection.scope.isEmpty diff then [] else ["scope"]) ++
    (if DiffSection.constraints.isEmpty diff then [] else ["constraints"]) ++
    (if DiffSection.acceptanceCriteria.isEmpty diff then [] else ["acceptance_criteria"]) ++
    (if DiffSection.authority.isEmpty diff then [] else ["authority"]) := by
  unfold changedSectionNames DiffSection.all
  -- one case for each choice of the empty sections
  cases h1 : DiffSection.scope.isEmpty diff <;> cases h2 : DiffSection.constraints.isEmpty diff <;>
    cases h3 : DiffSection.acceptanceCriteria.isEmpty diff <;>
    cases h4 : DiffSection.authority.isEmpty diff <;>
    simp only [List.filter_cons, List.filter_nil, h1, h2, h3, h4] <;> rfl

theorem signedCount_eq_nil {sign name : String} {items : List String} :
    signedCount sign name items = [] ↔ items = [] := by
  unfold signedCount
  cases items <;> simp

theorem scopeParts_isEmpty :
    (signedCount "+" "in_scope" diff.scope.inScope.added ++
      signedCount "-" "in_scope" diff.scope.inScope.removed ++
      signedCount "+" "out_of_scope" diff.scope.outOfScope.added ++
      signedCount "-" "out_of_scope" diff.scope.outOfScope.removed).isEmpty =
    DiffSection.scope.isEmpty diff := by
  rw [Bool.eq_iff_iff]
  simp only [List.isEmpty_iff, List.append_eq_nil_iff, signedCount_eq_nil, DiffSection.isEmpty,
    Bool.and_eq_true]

theorem if_pos_entryCount {α : Type} (s : DiffSection) (decision : α) :
    (if 0 < s.entryCount diff then [decision] else []) =
      if s.isEmpty diff then [] else [decision] := by
  by_cases h : s.isEmpty diff = true
  · rw [if_pos h, if_neg (by rw [(s.isEmpty_iff diff).mp h]; exact Nat.lt_irrefl 0)]
  · rw [if_neg h, if_pos (Nat.pos_of_ne_zero fun hzero => h ((s.isEmpty_iff diff).mpr hzero))]

theorem computeSectionDecisions_names :
    (computeSectionDecisions diff).map SectionDecision.sectionName =
      changedSectionNames diff := by
  rw [changedSectionNames_eq]
  unfold computeSectionDecisions
  simp only [scopeParts_isEmpty]
  rw [show diff.constraints.functional.length + diff.constraints.nonFunctional.length +
      diff.constraints.policy.length + diff.constraints.budget.length +
      diff.constraints.time.length = DiffSection.constraints.entryCount diff from rfl,
    show diff.acceptanceCriteria.required.length + diff.acceptanceCriteria.optional.length =
      DiffSection.acceptanceCriteria.entryCount diff from rfl,
    show diff.authority.allowedActions.length + diff.authority.forbiddenActions.length +
      diff.authority.approvalRequirements.length = DiffSection.authority.entryCount diff from rfl]
  simp only [if_pos_entryCount, List.map_append, apply_ite (List.map SectionDecision.sectionName),
    List.map_cons, List.map_nil]

theorem sectionRisks_names : (analyzeDiff diff).sectionRisks.map SectionRisk.sectionName =
    changedSectionNames diff := by
  rw [analyzeDiff_sectionRisks, List.map_map, changedSectionNames]
  have hname : SectionRisk.sectionName ∘ (fun s : DiffSection => s.risk diff) = DiffSection.name :=
    funext fun s => DiffSection.risk_sectionName diff s
  rw [hname]
  congr 1
  refine List.filter_congr fun s _ => ?_
  rw [Bool.eq_iff_iff, decide_eq_true_eq, Bool.not_eq_true', Bool.eq_false_iff, ne_eq, s.isEmpty_iff]
  exact Nat.pos_iff_ne_zero

end Names

section Tier

theorem foldl_raise_eq {δ : Type} (severity : δ → Severity) (diffs : List δ) (start : Severity) :
    diffs.foldl (fun overall d => overall.raise (severity d)) start =
      max start ((diffs.map severity).foldr max Severity.low) := by
  induction diffs generalizing start with
  | nil => exact (max_eq_left start.low_le).symm
  | cons d rest ih =>
    rw [List.foldl_cons, ih, Severity.raise_eq_max, List.map_cons, List.foldr_cons, max_assoc]

theorem highest_eq_max {δ : Type} (severity : δ → Severity) (diffs : List δ) :
    highest severity diffs = (diffs.map severity).foldr max Severity.low := by
  rw [highest, foldl_raise_eq]
  exact max_eq_right (Severity.low_le _)

/-- The sections that are not reported are of low severity, so the maximum of the others is that of
all. -/
theorem severity_eq_max (diff : IntentVersionDiff) : (analyzeDiff diff).severity =
    ((analyzeDiff diff).sectionRisks.map SectionRisk.severity).foldr max Severity.low := by
  rw [← highest_eq_max]
  refine le_antisymm ?_ (highest_le fun r hr => sectionRisk_le hr)
  rw [analyzeDiff_severity]
  refine highest_le fun s _ => ?_
  by_cases hempty : s.entryCount diff = 0
  · rw [DiffSection.analysis_low diff hempty]
    exact Severity.low_le _
  · have hreported : s.risk diff ∈ (analyzeDiff diff).sectionRisks := by
      rw [analyzeDiff_sectionRisks]
      exact List.mem_map_of_mem
        (List.mem_filter.mpr ⟨s.mem_all, decide_eq_true (Nat.pos_of_ne_zero hempty)⟩)
    rw [← DiffSection.risk_severity]
    exact le_highest SectionRisk.severity hreported

end Tier

theorem manualReview_empty : (analyzeDiff {}).manualReview = false := by
  decide +kernel

/-- For every two versions the diff, the analysis and the plan name the same sections in the same
order; the tier is the maximum of the section severities; the class is A exactly for an empty diff
and E for a critical one; and no review is recommended exactly for an empty diff. -/
theorem plan_consistent (orders : VersionDiffOrders) (before after : IntentVersion) :
    ConsistentViews (diffIntentVersion orders before after)
      (analyzeDiff (diffIntentVersion orders before after))
      (RebasePlan.fromDiffAndRisk (diffIntentVersion orders before after)
        (analyzeDiff (diffIntentVersion orders before after))) := by
  generalize diffIntentVersion orders before after = diff
  have hclass : (planOf diff).decisionClass = .A ↔ diff = {} := planOf_class_A_iff
  have hrecommended : (planOf diff).manualReviewRecommended = false ↔
      (planOf diff).decisionClass = .A ∧ (analyzeDiff diff).manualReview = false := by
    have hunfold : (planOf diff).manualReviewRecommended =
        ((analyzeDiff diff).manualReview || (analyzeDiff diff).severity = .critical ||
          (analyzeDiff diff).severity = .high || (planOf diff).decisionClass ≠ .A) := rfl
    rw [hunfold]
    simp only [Bool.or_eq_false_iff, decide_eq_false_iff_not, not_not]
    constructor
    · rintro ⟨⟨⟨hmanual, -⟩, -⟩, hA⟩
      exact ⟨hA, hmanual⟩
    · rintro ⟨hA, hmanual⟩
      rw [hclass.mp hA] at hmanual ⊢
      exact ⟨⟨⟨hmanual, by decide⟩, by decide⟩, rfl⟩
  refine ⟨computeSectionDecisions_names diff, sectionRisks_names diff, ?_, hclass,
    planOf_class_critical, hrecommended, ?_⟩
  · exact congrArg Severity.toRiskTier (severity_eq_max diff)
  · refine hrecommended.trans ⟨fun h => hclass.mp h.1, fun hempty => ⟨hclass.mpr hempty, ?_⟩⟩
    rw [hempty]
    exact manualReview_empty

end IntentRebase
