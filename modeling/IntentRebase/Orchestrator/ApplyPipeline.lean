import IntentRebase.Engine.RiskProperties

/-! The apply pipeline: the guards that decide from a plan's risk tier and decision class whether it
is applied, and which plans that need a human they let through. -/

namespace IntentRebase

open Kit

inductive ApplyDecision where
  | proceed (notification : Bool)
  | noOp
  | blocked (reason : String)
deriving DecidableEq, Repr

/-- The guard that lets low and medium tiers through, the latter with a notification. -/
def RiskTierGuard.evaluate (riskTier : RiskTier) (decisionClass : DecisionClass) : ApplyDecision :=
  if decisionClass = .A then .noOp
  else
    match riskTier with
    | .low => .proceed false
    | .medium => .proceed true
    | .high | .critical =>
      .blocked (riskTier.debug ++ " risk_tier requires manual review. " ++
        "Auto-apply not permitted for high/critical risk changes.")

/-- The guard that blocks everything. -/
def HighCriticalGuard.evaluate (riskTier : RiskTier) (decisionClass : DecisionClass) :
    ApplyDecision :=
  if decisionClass = .A then
    .blocked "All changes require manual review (HighCriticalGuard mode)"
  else .blocked (riskTier.debug ++ " risk_tier requires manual review (HighCriticalGuard mode)")

/-- The default guard. -/
def StandardGuard.evaluate (riskTier : RiskTier) (decisionClass : DecisionClass) : ApplyDecision :=
  RiskTierGuard.evaluate riskTier decisionClass

/-- A pipeline is its guard. -/
structure ApplyPipeline where
  guard : RiskTier → DecisionClass → ApplyDecision

def ApplyPipeline.new : ApplyPipeline := ⟨StandardGuard.evaluate⟩

def ApplyPipeline.withHighCriticalMode : ApplyPipeline := ⟨HighCriticalGuard.evaluate⟩

def ApplyPipeline.evaluate (pipeline : ApplyPipeline) (riskTier : RiskTier)
    (decisionClass : DecisionClass) : ApplyDecision :=
  pipeline.guard riskTier decisionClass

inductive ApplyOutcome where
  | noOp | autoProceeded | autoProceededWithNotification | blockedManualReview
deriving DecidableEq, Repr

def ApplyPipeline.decisionToOutcome : ApplyDecision → ApplyOutcome
  | .noOp => .noOp
  | .proceed notification =>
    if notification then .autoProceededWithNotification else .autoProceeded
  | .blocked _ => .blockedManualReview

/-- The plan for a diff. -/
def planOf (diff : IntentVersionDiff) : RebasePlan :=
  .fromDiffAndRisk diff (analyzeDiff diff)

/-- The decision of the default pipeline on the plan for a diff. -/
def decisionOn (diff : IntentVersionDiff) : ApplyDecision :=
  ApplyPipeline.new.evaluate (planOf diff).riskTier (planOf diff).decisionClass

/-- The plan's class or its analysis asks for a human. -/
def NeedsHuman (diff : IntentVersionDiff) : Prop :=
  (planOf diff).decisionClass = .D ∨ (planOf diff).decisionClass = .E ∨
    (analyzeDiff diff).manualReview = true

theorem planOf_riskTier (diff : IntentVersionDiff) :
    (planOf diff).riskTier = (analyzeDiff diff).severity.toRiskTier := by
  rw [planOf, RebasePlan.fromDiffAndRisk]

theorem planOf_decisionClass (diff : IntentVersionDiff) :
    (planOf diff).decisionClass = computeDecisionClass diff (analyzeDiff diff) := by
  rw [planOf, RebasePlan.fromDiffAndRisk]

theorem not_needsHuman_empty : ¬ NeedsHuman {} := by
  unfold NeedsHuman
  decide +kernel

/-- A diff that needs a human is of medium severity at least. -/
theorem severity_ne_low {diff : IntentVersionDiff} (h : NeedsHuman diff) :
    (analyzeDiff diff).severity ≠ .low := by
  intro hlow
  rw [diff_empty_of_low hlow] at h
  exact not_needsHuman_empty h

theorem isDiffEmpty_eq {diff : IntentVersionDiff} (h : isDiffEmpty diff = true) : diff = {} := by
  obtain ⟨⟨⟨inAdded, inRemoved⟩, ⟨outAdded, outRemoved⟩⟩, ⟨f, n, p, b, t⟩, ⟨r, o⟩,
    ⟨al, fo, ap⟩⟩ := diff
  simp only [isDiffEmpty, Bool.and_eq_true, List.isEmpty_iff] at h
  simp only [h]

theorem isDiffEmpty_of_needsHuman {diff : IntentVersionDiff} (h : NeedsHuman diff) :
    isDiffEmpty diff = false := by
  by_contra hempty
  have hdiff : diff = {} := isDiffEmpty_eq (by simpa using hempty)
  rw [hdiff] at h
  exact not_needsHuman_empty h

/-- Where no section is high, none is counted as high. -/
theorem countP_isHigh_eq_zero {diff : IntentVersionDiff}
    (h : (analyzeDiff diff).severity = .medium) :
    (analyzeDiff diff).sectionRisks.countP (fun s => s.severity.isHigh) = 0 := by
  rw [List.countP_eq_zero]
  intro s hs hhigh
  have hle := sectionRisk_le hs
  rw [h] at hle
  cases hsev : s.severity <;> rw [hsev] at hhigh hle
  · cases hhigh
  · cases hhigh
  · exact absurd hle (by decide)
  · exact absurd hle (by decide)

/-- A plan of medium severity that needs a human is of class D. -/
theorem decisionClass_of_medium {diff : IntentVersionDiff} (h : NeedsHuman diff)
    (hmedium : (analyzeDiff diff).severity = .medium) : (planOf diff).decisionClass = .D := by
  have hclass : computeDecisionClass diff (analyzeDiff diff) =
      if 3 ≤ (analyzeDiff diff).sectionRisks.countP (fun s => 0 < s.changeCount) ∨
        (analyzeDiff diff).manualReview then .D
      else if 2 ≤ (analyzeDiff diff).sectionRisks.countP (fun s => 0 < s.changeCount) then .C
      else .B := by
    simp [computeDecisionClass, isDiffEmpty_of_needsHuman h, hmedium, countP_isHigh_eq_zero hmedium]
  rw [planOf_decisionClass, hclass]
  rcases h with hD | hE | hreview
  · rwa [planOf_decisionClass, hclass] at hD
  · rw [planOf_decisionClass, hclass] at hE
    split at hE
    · cases hE
    · split at hE <;> cases hE
  · rw [if_pos (.inr hreview)]

/-- A plan for a diff that is not of low severity has a class above A. -/
theorem decisionClass_ne_A {diff : IntentVersionDiff} (h : isDiffEmpty diff = false) :
    (planOf diff).decisionClass ≠ .A := by
  rw [planOf_decisionClass, computeDecisionClass, h]
  simp only [Bool.false_eq_true, ↓reduceIte]
  repeat' split
  all_goals simp

/-- The decision of the default pipeline on a plan that needs a human: a high or critical tier is
blocked; the only other tier is medium, of class D, and is applied with a notification. -/
theorem decisionOn_of_needsHuman (orders : VersionDiffOrders) (before after : IntentVersion)
    (h : NeedsHuman (diffIntentVersion orders before after)) :
    (((planOf (diffIntentVersion orders before after)).riskTier = .high ∨
        (planOf (diffIntentVersion orders before after)).riskTier = .critical) ∧
      ∃ reason, decisionOn (diffIntentVersion orders before after) = .blocked reason) ∨
    ((planOf (diffIntentVersion orders before after)).riskTier = .medium ∧
      (planOf (diffIntentVersion orders before after)).decisionClass = .D ∧
      decisionOn (diffIntentVersion orders before after) = .proceed true) := by
  generalize diffIntentVersion orders before after = diff at h
  have hA := decisionClass_ne_A (isDiffEmpty_of_needsHuman h)
  have hdecision : decisionOn diff =
      RiskTierGuard.evaluate (planOf diff).riskTier (planOf diff).decisionClass := rfl
  unfold RiskTierGuard.evaluate at hdecision
  rw [hdecision, if_neg hA, planOf_riskTier]
  cases hsev : (analyzeDiff diff).severity with
  | low => exact absurd hsev (severity_ne_low h)
  | medium => exact .inr ⟨rfl, decisionClass_of_medium h hsev, rfl⟩
  | high => exact .inl ⟨.inl rfl, _, rfl⟩
  | critical => exact .inl ⟨.inr rfl, _, rfl⟩

/-- A version with nothing in its payload but a scope. -/
def versionWithScope (inScope : List String) : IntentVersion where
  id := 1
  intentId := 2
  versionNumber := 1
  parentVersionId := none
  createdAt := 0
  createdBy := { actorType := "user", actorId := "u" }
  changeReason := "edit"
  changeChannel := .userEdit
  status := .active
  hash := ""
  payload :=
    { objective := { summary := "s", successStatement := "s", domain := "d" }
      scope := { inScope, outOfScope := [] }
      constraints :=
        { functional := [], nonFunctional := [], policy := [], budget := [], time := [] }
      acceptanceCriteria := { required := [], optional := [] }
      authority := { allowedActions := [], forbiddenActions := [], approvalRequirements := [] }
      preferences := { tradeoffs := [] }
      references := { specs := [], tickets := [], repos := [], policies := [] }
      assumptions := { explicit := [] }
      metadata := { riskTier := .low, urgency := .low, confidence := 1 } }

def DiffOrders.id (κ α : Type) : DiffOrders κ α := ⟨.id _, .id _⟩

def VersionDiffOrders.id : VersionDiffOrders where
  functional := .id _ _
  nonFunctional := .id _ _
  policy := .id _ _
  budget := .id _ _
  time := .id _ _
  required := .id _ _
  optional := .id _ _
  allowedActions := .id _ _
  forbiddenActions := .id _ _
  approvalRequirements := .id _ _

/-- One item added to the scope is reviewed for low confidence, and applied all the same. -/
theorem needsHuman_scope_item :
    NeedsHuman (diffIntentVersion .id (versionWithScope []) (versionWithScope ["billing"])) := by
  unfold NeedsHuman
  decide +kernel

theorem decisionOn_of_needsHuman_scope_item :
    (planOf (diffIntentVersion .id (versionWithScope []) (versionWithScope ["billing"]))).riskTier =
        .medium ∧
      decisionOn (diffIntentVersion .id (versionWithScope []) (versionWithScope ["billing"])) =
        .proceed true := by
  rcases decisionOn_of_needsHuman .id (versionWithScope []) (versionWithScope ["billing"])
    needsHuman_scope_item with ⟨htier, _⟩ | ⟨htier, _, hdecision⟩
  · exact absurd htier (by decide +kernel)
  · exact ⟨htier, hdecision⟩

theorem not_blocked_of_needsHuman :
    ¬ ∀ (orders : VersionDiffOrders) (before after : IntentVersion),
      NeedsHuman (diffIntentVersion orders before after) →
      ∀ notification,
        decisionOn (diffIntentVersion orders before after) ≠ .proceed notification := by
  intro h
  exact h .id (versionWithScope []) (versionWithScope ["billing"]) needsHuman_scope_item true
    (by decide +kernel)

end IntentRebase
