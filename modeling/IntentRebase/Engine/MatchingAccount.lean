import IntentRebase.Engine.DiffPatch
import IntentRebase.Engine.Sections
import IntentRebase.Orchestrator.ApplyPipeline
import Mathlib.Algebra.Order.Field.Basic
import Mathlib.Tactic.Linarith
import Mathlib.Tactic.FieldSimp

/-! What the matching statistics count. Every change is counted once, but an entry under a key that
a list repeats is counted as unmatched and not as ambiguous. -/

namespace IntentRebase

open Kit

section Keys

variable {α κ δ : Type} [DecidableEq κ] (key : α → Option κ) (entryKey : δ → Option κ)
  (before after : List α)

/-- No two items of a list have the same key. -/
def NoRepeatedKey (items : List α) : Prop :=
  ∀ k, items.countP (fun a => key a = some k) ≤ 1

/-- The key occurs more than once in one of two lists. -/
def isRepeated (k : κ) : Bool :=
  1 < before.countP (fun a => key a = some k) || 1 < after.countP fun a => key a = some k

/-- An identity is ambiguous that is missing, or that one of the lists repeats. -/
def hasAmbiguousIdentity (d : δ) : Bool :=
  match entryKey d with
  | none => true
  | some k => isRepeated key before after k

/-- The number of entries with an ambiguous identity. -/
def ambiguousChanges (diffs : List δ) : Nat :=
  diffs.countP (hasAmbiguousIdentity key entryKey before after)

/-- The number of entries under a key that one of the lists repeats. -/
def repeatedChanges (diffs : List δ) : Nat :=
  diffs.countP fun d => (entryKey d).any (isRepeated key before after)

variable {key entryKey before after}

/-- The ambiguous entries are those without a key and those under a repeated key. -/
theorem ambiguousChanges_eq (diffs : List δ) :
    ambiguousChanges key entryKey before after diffs =
      diffs.countP (fun d => (entryKey d).isNone) +
        repeatedChanges key entryKey before after diffs := by
  unfold ambiguousChanges repeatedChanges
  induction diffs with
  | nil => rfl
  | cons d rest ih =>
    rw [List.countP_cons, List.countP_cons, List.countP_cons, ih, hasAmbiguousIdentity]
    cases hkey : entryKey d with
    | none =>
      simp only [Option.isNone_none, Option.any_none, if_true, Bool.false_eq_true, if_false]
      omega
    | some k =>
      simp only [Option.isNone_some, Option.any_some, Bool.false_eq_true, if_false]
      omega

theorem isRepeated_eq_false : (∀ k, isRepeated key before after k = false) ↔
    NoRepeatedKey key before ∧ NoRepeatedKey key after := by
  simp only [isRepeated, NoRepeatedKey, Bool.or_eq_false_iff, decide_eq_false_iff_not, not_lt,
    forall_and]

/-- Where each repeated key has an entry, no entry is under a repeated key exactly if the lists
repeat no key. -/
theorem repeatedChanges_eq_zero {diffs : List δ}
    (h : ∀ k, isRepeated key before after k = true → ∃ d ∈ diffs, entryKey d = some k) :
    repeatedChanges key entryKey before after diffs = 0 ↔
      NoRepeatedKey key before ∧ NoRepeatedKey key after := by
  rw [← isRepeated_eq_false, repeatedChanges, List.countP_eq_zero]
  constructor
  · intro hnone k
    refine Bool.eq_false_iff.mpr fun hrepeated => ?_
    obtain ⟨d, hd, hkey⟩ := h k hrepeated
    exact hnone d hd (by rw [hkey]; exact hrepeated)
  · intro hnone d _ hrepeated
    cases hkey : entryKey d with
    | none =>
      rw [hkey] at hrepeated
      cases hrepeated
    | some k =>
      rw [hkey, Option.any_some, hnone k] at hrepeated
      cases hrepeated

end Keys

section Diffs

variable {α κ δ : Type} [LinearOrder κ] {key : α → Option κ} {equal : α → α → Bool}
  {before after : List α}

/-- An item under a key that its list repeats is without a key of its own. -/
theorem exists_ambiguous {items : List α} {k : κ}
    (h : 1 < items.countP fun a => key a = some k) :
    ∃ a ∈ ambiguousItems key items, key a = some k := by
  obtain ⟨a, ha, hkey⟩ := List.countP_pos_iff.mp (Nat.zero_lt_of_lt h)
  have hk := of_decide_eq_true hkey
  refine ⟨a, List.mem_filter.mpr ⟨ha, ?_⟩, hk⟩
  rw [Bool.not_eq_true', Bool.eq_false_iff]
  intro hunique
  obtain ⟨k', hk', hone⟩ := hasUniqueKey_iff.mp hunique
  obtain rfl : k' = k := Option.some.inj (hk'.symm.trans hk)
  exact absurd hone h.ne'

/-- A key that one of the lists repeats has an entry in the diff. -/
theorem diffByKey_repeated (beforeOrder afterOrder : IterOrder (κ × α)) {k : κ}
    (h : isRepeated key before after k = true) :
    ∃ c ∈ diffByKey key equal beforeOrder afterOrder before after, c.id = some k := by
  obtain ⟨beforeItems, afterItems, right, _, _, _, hperm⟩ :=
    diffByKey_perm key equal beforeOrder afterOrder before after
  rcases Bool.or_eq_true_iff.mp h with hbefore | hafter
  · obtain ⟨a, ha, hk⟩ := exists_ambiguous (of_decide_eq_true hbefore)
    refine ⟨removedChange (key a) a, hperm.mem_iff.mpr ?_, hk⟩
    simp only [unsortedChanges, List.mem_append]
    exact .inl (.inr (List.mem_map_of_mem ha))
  · obtain ⟨a, ha, hk⟩ := exists_ambiguous (of_decide_eq_true hafter)
    refine ⟨addedChange (key a) a, hperm.mem_iff.mpr ?_, hk⟩
    simp only [unsortedChanges, List.mem_append]
    exact .inr (List.mem_map_of_mem ha)

theorem repeatedChanges_map {entryKey : δ → Option κ} (f : KeyedChange κ α → δ)
    (beforeOrder afterOrder : IterOrder (κ × α))
    (hkey : ∀ c ∈ diffByKey key equal beforeOrder afterOrder before after,
      entryKey (f c) = c.id) :
    repeatedChanges key entryKey before after
        ((diffByKey key equal beforeOrder afterOrder before after).map f) = 0 ↔
      NoRepeatedKey key before ∧ NoRepeatedKey key after := by
  refine repeatedChanges_eq_zero fun k hrepeated => ?_
  obtain ⟨c, hc, hid⟩ := diffByKey_repeated beforeOrder afterOrder hrepeated
  exact ⟨f c, List.mem_map_of_mem hc, (hkey c hc).trans hid⟩

end Diffs

section Versions

/-- The payload repeats no clause identifier, action with its target or rule identifier within one
of its lists. -/
structure NoRepeatedKeys (payload : IntentPayload) : Prop where
  functional : NoRepeatedKey Constraint.clauseId payload.constraints.functional
  nonFunctional : NoRepeatedKey Constraint.clauseId payload.constraints.nonFunctional
  policy : NoRepeatedKey Constraint.clauseId payload.constraints.policy
  budget : NoRepeatedKey Constraint.clauseId payload.constraints.budget
  time : NoRepeatedKey Constraint.clauseId payload.constraints.time
  required : NoRepeatedKey AcceptanceCriterion.clauseId payload.acceptanceCriteria.required
  optional : NoRepeatedKey AcceptanceCriterion.clauseId payload.acceptanceCriteria.optional
  allowedActions :
    NoRepeatedKey (fun a => some (ActionRef.matchKey a)) payload.authority.allowedActions
  forbiddenActions :
    NoRepeatedKey (fun a => some (ActionRef.matchKey a)) payload.authority.forbiddenActions
  approvalRequirements :
    NoRepeatedKey (fun r => some (ApprovalRuleRef.ruleId r)) payload.authority.approvalRequirements

/-- The sum over the ten keyed lists of a diff of what `constraints`, `criteria`, `actions` and
`rules` make of one of them. -/
def sumKeyed (before after : IntentPayload) (diff : IntentVersionDiff)
    (constraints : List Constraint → List Constraint → List ConstraintDiff → Nat)
    (criteria :
      List AcceptanceCriterion → List AcceptanceCriterion → List AcceptanceCriterionDiff → Nat)
    (actions : List ActionRef → List ActionRef → List ActionRefDiff → Nat)
    (rules : List ApprovalRuleRef → List ApprovalRuleRef → List ApprovalRuleDiff → Nat) : Nat :=
  constraints before.constraints.functional after.constraints.functional
      diff.constraints.functional +
    constraints before.constraints.nonFunctional after.constraints.nonFunctional
      diff.constraints.nonFunctional +
    constraints before.constraints.policy after.constraints.policy diff.constraints.policy +
    constraints before.constraints.budget after.constraints.budget diff.constraints.budget +
    constraints before.constraints.time after.constraints.time diff.constraints.time +
    (criteria before.acceptanceCriteria.required after.acceptanceCriteria.required
        diff.acceptanceCriteria.required +
      criteria before.acceptanceCriteria.optional after.acceptanceCriteria.optional
        diff.acceptanceCriteria.optional) +
    (actions before.authority.allowedActions after.authority.allowedActions
        diff.authority.allowedActions +
      actions before.authority.forbiddenActions after.authority.forbiddenActions
        diff.authority.forbiddenActions +
      rules before.authority.approvalRequirements after.authority.approvalRequirements
        diff.authority.approvalRequirements)

/-- The number of entries of a diff whose identity is ambiguous: every scope text, and the entries
of the keyed lists without a key or under a repeated one. -/
def ambiguousEntries (before after : IntentPayload) (diff : IntentVersionDiff) : Nat :=
  diff.scope.entryCount + sumKeyed before after diff
    (ambiguousChanges Constraint.clauseId ConstraintDiff.clauseId)
    (ambiguousChanges AcceptanceCriterion.clauseId AcceptanceCriterionDiff.clauseId)
    (ambiguousChanges (fun a => some (ActionRef.matchKey a)) ActionRefDiff.entryKey)
    (ambiguousChanges (fun r => some (ApprovalRuleRef.ruleId r)) fun d =>
      some (ApprovalRuleDiff.ruleId d))

/-- The number of entries of a diff under a repeated key. -/
def repeatedEntries (before after : IntentPayload) (diff : IntentVersionDiff) : Nat :=
  sumKeyed before after diff
    (repeatedChanges Constraint.clauseId ConstraintDiff.clauseId)
    (repeatedChanges AcceptanceCriterion.clauseId AcceptanceCriterionDiff.clauseId)
    (repeatedChanges (fun a => some (ActionRef.matchKey a)) ActionRefDiff.entryKey)
    (repeatedChanges (fun r => some (ApprovalRuleRef.ruleId r)) fun d =>
      some (ApprovalRuleDiff.ruleId d))

/-- The confidence in exact arithmetic. -/
def exactConfidence (stats : MatchingStats) : ℚ :=
  if stats.totalChanges = 0 then 1
  else
    let uniqueRatio : ℚ := stats.uniqueClauseIdMatch / stats.totalChanges
    let ambiguousRatio : ℚ := stats.ambiguousMatch / stats.totalChanges
    let noMatchRatio : ℚ := stats.noMatch / stats.totalChanges
    Double.clamp 0 1 (uniqueRatio * 1 + ambiguousRatio * (1 / 2) + noMatchRatio * (4 / 5))

/-- The statistics count every entry once, and as ambiguous those whose identity is. -/
structure MatchingAccounted (before after : IntentPayload) (diff : IntentVersionDiff)
    (stats : MatchingStats) : Prop where
  once : stats.uniqueClauseIdMatch + stats.ambiguousMatch + stats.noMatch = stats.totalChanges
  total : stats.totalChanges = diff.entryCount
  ambiguous : stats.ambiguousMatch = ambiguousEntries before after diff
  confidence : 1 / 2 ≤ exactConfidence stats ∧ exactConfidence stats ≤ 1

end Versions

section Confidence

variable {stats : MatchingStats}

theorem clamp_mem {low high a : ℚ} (h : low ≤ high) :
    low ≤ Double.clamp low high a ∧ Double.clamp low high a ≤ high := by
  unfold Double.clamp
  split
  · exact ⟨le_rfl, h⟩
  · next hlow =>
    split
    · exact ⟨h, le_rfl⟩
    · next hhigh => exact ⟨not_lt.mp hlow, not_lt.mp hhigh⟩

/-- Statistics that count every change once give a confidence of one half at least. -/
theorem exactConfidence_mem
    (h : stats.uniqueClauseIdMatch + stats.ambiguousMatch + stats.noMatch = stats.totalChanges) :
    1 / 2 ≤ exactConfidence stats ∧ exactConfidence stats ≤ 1 := by
  unfold exactConfidence
  split
  · norm_num
  next htotal =>
  refine ⟨?_, (clamp_mem zero_le_one).2⟩
  have hpos : (0 : ℚ) < stats.totalChanges := by exact_mod_cast Nat.pos_of_ne_zero htotal
  have hsum : (stats.uniqueClauseIdMatch : ℚ) + stats.ambiguousMatch + stats.noMatch =
      stats.totalChanges := by exact_mod_cast h
  have hunique : (0 : ℚ) ≤ stats.uniqueClauseIdMatch := Nat.cast_nonneg _
  have hno : (0 : ℚ) ≤ stats.noMatch := Nat.cast_nonneg _
  have hhalf : (1 / 2 : ℚ) ≤ (stats.uniqueClauseIdMatch / stats.totalChanges : ℚ) * 1 +
      (stats.ambiguousMatch / stats.totalChanges : ℚ) * (1 / 2) +
      (stats.noMatch / stats.totalChanges : ℚ) * (4 / 5) := by
    rw [div_mul_eq_mul_div, div_mul_eq_mul_div, div_mul_eq_mul_div, ← add_div, ← add_div,
      le_div_iff₀ hpos]
    linarith
  simp only [Double.clamp]
  split
  · linarith
  · split
    · norm_num
    · exact hhalf

end Confidence

section Once

variable {δ : Type}

theorem countP_three (p q r : δ → Bool) {diffs : List δ}
    (h : ∀ d ∈ diffs, (p d).toNat + (q d).toNat + (r d).toNat = 1) :
    diffs.countP p + diffs.countP q + diffs.countP r = diffs.length := by
  induction diffs with
  | nil => rfl
  | cons d rest ih =>
    have hd := h d List.mem_cons_self
    have hrest := ih fun e he => h e (List.mem_cons_of_mem _ he)
    simp only [List.countP_cons, List.length_cons]
    cases hp : p d <;> cases hq : q d <;> cases hr : r d <;>
      simp only [hp, hq, hr, Bool.toNat_true, Bool.toNat_false, if_true, if_false,
        Bool.false_eq_true] at hd ⊢ <;>
      omega

theorem scope_once (d : ScopeDiff) : (analyzeScopeRisk d).2.uniqueClauseIdMatch = 0 ∧
    (analyzeScopeRisk d).2.ambiguousMatch = d.entryCount ∧ (analyzeScopeRisk d).2.noMatch = 0 := by
  unfold analyzeScopeRisk ScopeDiff.entryCount
  simp only
  split
  · next hzero => exact ⟨rfl, hzero.symm, rfl⟩
  · exact ⟨rfl, rfl, rfl⟩

theorem constraints_once (name : String) (diffs : List ConstraintDiff) :
    let stats := (analyzeConstraintCategory name diffs).2
    stats.uniqueClauseIdMatch + stats.ambiguousMatch + stats.noMatch = diffs.length := by
  refine countP_three _ _ _ fun d _ => ?_
  cases d.clauseId <;> cases d.changeType <;> rfl

theorem criteria_once (name : String) (diffs : List AcceptanceCriterionDiff) :
    let stats := (analyzeAcceptanceCriterionCategory name diffs).2
    stats.uniqueClauseIdMatch + stats.ambiguousMatch + stats.noMatch = diffs.length := by
  refine countP_three _ _ _ fun d _ => ?_
  cases d.clauseId <;> cases d.changeType <;> rfl

theorem actions_once (name : String) {diffs : List ActionRefDiff}
    (h : ∀ d ∈ diffs, (d.before.isSome ↔ d.changeType ≠ .added) ∧
      (d.after.isSome ↔ d.changeType ≠ .removed)) :
    let stats := (analyzeActionRefsRisk name diffs).2
    stats.uniqueClauseIdMatch + stats.ambiguousMatch + stats.noMatch = diffs.length := by
  have hthree := countP_three (fun d : ActionRefDiff => d.changeType = .modified) (fun _ => false)
    (fun d => d.changeType ≠ .modified && (d.before.isNone || d.after.isNone))
    fun d (hd : d ∈ diffs) => by
      obtain ⟨hbefore, hafter⟩ := h d hd
      cases hchange : d.changeType <;> cases hb : d.before <;> cases ha : d.after <;>
        simp_all
  rwa [List.countP_false] at hthree

theorem rules_once (diffs : List ApprovalRuleDiff) :
    let stats := (analyzeApprovalRulesRisk diffs).2
    stats.uniqueClauseIdMatch + stats.ambiguousMatch + stats.noMatch = diffs.length := by
  have hthree := countP_three (fun d : ApprovalRuleDiff => d.changeType = .modified)
    (fun _ => false) (fun d => d.changeType ≠ .modified)
    fun d (_ : d ∈ diffs) => by cases d.changeType <;> rfl
  rwa [List.countP_false] at hthree

/-- The statistics count every entry of a diff once, if the entries for actions have their items. -/
theorem matchingStats_once (diff : IntentVersionDiff)
    (h : ∀ d ∈ diff.authority.allowedActions ++ diff.authority.forbiddenActions,
      (d.before.isSome ↔ d.changeType ≠ .added) ∧ (d.after.isSome ↔ d.changeType ≠ .removed)) :
    (matchingStats diff).uniqueClauseIdMatch + (matchingStats diff).ambiguousMatch +
      (matchingStats diff).noMatch = (matchingStats diff).totalChanges := by
  obtain ⟨hscope, hscope', hscope''⟩ := scope_once diff.scope
  have h1 := constraints_once "functional" diff.constraints.functional
  have h2 := constraints_once "non_functional" diff.constraints.nonFunctional
  have h3 := constraints_once "policy" diff.constraints.policy
  have h4 := constraints_once "budget" diff.constraints.budget
  have h5 := constraints_once "time" diff.constraints.time
  have h6 := criteria_once "required" diff.acceptanceCriteria.required
  have h7 := criteria_once "optional" diff.acceptanceCriteria.optional
  have h8 := actions_once "allowed_actions" fun d hd => h d (List.mem_append_left _ hd)
  have h9 := actions_once "forbidden_actions" fun d hd => h d (List.mem_append_right _ hd)
  have h10 := rules_once diff.authority.approvalRequirements
  rw [matchingStats_total]
  simp only [matchingStats, DiffSection.analysis, MatchingStats.add, MatchingStats.addMatches,
    analyzeConstraintsRisk, analyzeAcceptanceCriteriaRisk, analyzeAuthorityRisk, combineCategories,
    List.foldl_cons, List.foldl_nil, IntentVersionDiff.entryCount, ConstraintsDiff.entryCount,
    AcceptanceCriteriaDiff.entryCount, AuthorityDiff.entryCount]
  omega

end Once

section Ambiguous

variable {before after : IntentPayload} {diff : IntentVersionDiff}

theorem countP_isNone_some {δ κ : Type} (f : δ → κ) (diffs : List δ) :
    diffs.countP (fun d => (some (f d)).isNone) = 0 :=
  List.countP_eq_zero.mpr fun _ _ h => nomatch h

theorem ambiguousEntries_eq : ambiguousEntries before after diff =
    (matchingStats diff).ambiguousMatch + repeatedEntries before after diff := by
  have hscope := (scope_once diff.scope).2.1
  have hactions : ∀ diffs : List ActionRefDiff,
      diffs.countP (fun d => d.entryKey.isNone) = 0 := countP_isNone_some _
  simp only [ambiguousEntries, repeatedEntries, sumKeyed, ambiguousChanges_eq, hactions,
    countP_isNone_some]
  simp only [matchingStats, DiffSection.analysis, MatchingStats.add, MatchingStats.addMatches,
    analyzeConstraintsRisk, analyzeAcceptanceCriteriaRisk, analyzeAuthorityRisk, combineCategories,
    analyzeConstraintCategory, analyzeAcceptanceCriterionCategory, analyzeActionRefsRisk,
    analyzeApprovalRulesRisk, List.foldl_cons, List.foldl_nil]
  omega

theorem repeatedEntries_eq_zero (orders : VersionDiffOrders) (before after : IntentVersion) :
    repeatedEntries before.payload after.payload (diffIntentVersion orders before after) = 0 ↔
      NoRepeatedKeys before.payload ∧ NoRepeatedKeys after.payload := by
  have hconstraints : ∀ (bo ao : IterOrder (Uuid × Constraint)) (b a : List Constraint),
      repeatedChanges Constraint.clauseId ConstraintDiff.clauseId b a
          (diffConstraints bo ao b a) = 0 ↔
        NoRepeatedKey Constraint.clauseId b ∧ NoRepeatedKey Constraint.clauseId a :=
    fun bo ao b a => repeatedChanges_map _ bo ao fun _ _ => rfl
  have hcriteria : ∀ (bo ao : IterOrder (Uuid × AcceptanceCriterion))
      (b a : List AcceptanceCriterion),
      repeatedChanges AcceptanceCriterion.clauseId AcceptanceCriterionDiff.clauseId b a
          (diffAcceptanceCriteria bo ao b a) = 0 ↔
        NoRepeatedKey AcceptanceCriterion.clauseId b ∧
          NoRepeatedKey AcceptanceCriterion.clauseId a :=
    fun bo ao b a => repeatedChanges_map _ bo ao fun _ _ => rfl
  have hactions : ∀ (bo ao : IterOrder (ActionKey × ActionRef)) (b a : List ActionRef),
      repeatedChanges (fun a => some (ActionRef.matchKey a)) ActionRefDiff.entryKey b a
          (diffActionRefs bo ao b a) = 0 ↔
        NoRepeatedKey (fun a => some (ActionRef.matchKey a)) b ∧
          NoRepeatedKey (fun a => some (ActionRef.matchKey a)) a :=
    fun bo ao b a => repeatedChanges_map _ bo ao fun _ hc => (diffByKey_id hc).symm
  have hrules : ∀ (bo ao : IterOrder (String × ApprovalRuleRef)) (b a : List ApprovalRuleRef),
      repeatedChanges (fun r => some (ApprovalRuleRef.ruleId r))
          (fun d => some (ApprovalRuleDiff.ruleId d)) b a (diffApprovalRules bo ao b a) = 0 ↔
        NoRepeatedKey (fun r => some (ApprovalRuleRef.ruleId r)) b ∧
          NoRepeatedKey (fun r => some (ApprovalRuleRef.ruleId r)) a :=
    fun bo ao b a => repeatedChanges_map _ bo ao fun _ hc => (diffByKey_id hc).symm
  simp only [repeatedEntries, sumKeyed, diffIntentVersion, diffConstraintsSection,
    diffAcceptanceCriteriaSection, diffAuthority, Nat.add_eq_zero_iff, hconstraints, hcriteria,
    hactions, hrules, and_assoc]
  constructor
  · rintro ⟨h1, h1', h2, h2', h3, h3', h4, h4', h5, h5', h6, h6', h7, h7', h8, h8', h9, h9', h10,
      h10'⟩
    exact ⟨⟨h1, h2, h3, h4, h5, h6, h7, h8, h9, h10⟩,
      ⟨h1', h2', h3', h4', h5', h6', h7', h8', h9', h10'⟩⟩
  · rintro ⟨⟨h1, h2, h3, h4, h5, h6, h7, h8, h9, h10⟩,
      ⟨h1', h2', h3', h4', h5', h6', h7', h8', h9', h10'⟩⟩
    exact ⟨h1, h1', h2, h2', h3, h3', h4, h4', h5, h5', h6, h6', h7, h7', h8, h8', h9, h9', h10,
      h10'⟩

/-- For every two versions the statistics count each change once, and as ambiguous exactly those
with an ambiguous identity, if and only if no list of the versions repeats a key. -/
theorem accounted_iff (orders : VersionDiffOrders) (before after : IntentVersion) :
    MatchingAccounted before.payload after.payload (diffIntentVersion orders before after)
        (matchingStats (diffIntentVersion orders before after)) ↔
      NoRepeatedKeys before.payload ∧ NoRepeatedKeys after.payload := by
  have honce := matchingStats_once (diffIntentVersion orders before after) <| by
    intro d hd
    rcases List.mem_append.mp hd with hallowed | hforbidden
    · exact (diffActionRefs_isPatch _ _ _ _).presence d hallowed
    · exact (diffActionRefs_isPatch _ _ _ _).presence d hforbidden
  rw [← repeatedEntries_eq_zero orders]
  constructor
  · intro h
    have hambiguous := h.ambiguous
    rw [ambiguousEntries_eq] at hambiguous
    omega
  · intro h
    refine ⟨honce, matchingStats_total _, ?_, exactConfidence_mem honce⟩
    rw [ambiguousEntries_eq, h]
    rfl

/-- A version with some functional constraints. -/
def versionWithConstraints (functional : List Constraint) : IntentVersion :=
  let version := versionWithScope []
  { version with
    payload := { version.payload with
      constraints := { version.payload.constraints with functional } } }

/-- Two constraints that share a clause identifier are counted as unmatched, none as ambiguous. -/
theorem not_accounted_repeated :
    ¬ MatchingAccounted (versionWithConstraints []).payload
      (versionWithConstraints
        [⟨some 8, .functional, "max_tokens", .lte, .number (.posInt 100), none, .must⟩,
          ⟨some 8, .functional, "max_cost", .lte, .number (.posInt 10), none, .must⟩]).payload
      (diffIntentVersion .id (versionWithConstraints []) (versionWithConstraints
        [⟨some 8, .functional, "max_tokens", .lte, .number (.posInt 100), none, .must⟩,
          ⟨some 8, .functional, "max_cost", .lte, .number (.posInt 10), none, .must⟩]))
      (matchingStats (diffIntentVersion .id (versionWithConstraints []) (versionWithConstraints
        [⟨some 8, .functional, "max_tokens", .lte, .number (.posInt 100), none, .must⟩,
          ⟨some 8, .functional, "max_cost", .lte, .number (.posInt 10), none, .must⟩]))) := by
  intro h
  exact absurd h.ambiguous (by decide +kernel)

end Ambiguous

end IntentRebase
