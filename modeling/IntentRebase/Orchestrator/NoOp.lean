import IntentRebase.Engine.DiffPatch
import IntentRebase.Orchestrator.ApplyPipeline

/-! When a plan is of class A: exactly when the payloads agree, up to the order of lists, on the
sections that the diff covers, and every item that has an identity is the only one with it. -/

namespace IntentRebase

open Kit

section Strings

theorem mergeSorted_self (l : List String) : mergeSorted l l = {} := by
  induction l with
  | nil => rw [mergeSorted]
  | cons a rest ih =>
    rw [mergeSorted, Std.compare_self]
    exact ih

theorem mergeSorted_eq_empty {before after : List String} (h : mergeSorted before after = {}) :
    before = after := by
  induction before, after using mergeSorted.induct with
  | case1 => rfl
  | case2 b before =>
    rw [mergeSorted] at h
    cases congrArg ScopeItemsDiff.removed h
  | case3 a after =>
    rw [mergeSorted] at h
    cases congrArg ScopeItemsDiff.added h
  | case4 b before a after hlt =>
    rw [mergeSorted, hlt] at h
    cases congrArg ScopeItemsDiff.removed h
  | case5 b before a after hgt =>
    rw [mergeSorted, hgt] at h
    cases congrArg ScopeItemsDiff.added h
  | case6 b before a after heq ih =>
    rw [mergeSorted, heq] at h
    rw [Std.LawfulEqOrd.eq_of_compare heq, ih h]

/-- Two lists of texts have no differences exactly if they are rearrangements of each other. -/
theorem diffStringLists_eq_empty_iff {before after : List String} :
    diffStringLists before after = {} ↔ before.Perm after := by
  have hbefore := List.perm_insertionSort (· ≤ ·) before
  have hafter := List.perm_insertionSort (· ≤ ·) after
  constructor
  · intro h
    have hsorted := mergeSorted_eq_empty h
    exact hbefore.symm.trans (hsorted ▸ hafter)
  · intro h
    have hsorted : before.insertionSort (· ≤ ·) = after.insertionSort (· ≤ ·) :=
      (hbefore.trans (h.trans hafter.symm)).eq_of_sortedLE List.sortedLE_insertionSort
        List.sortedLE_insertionSort
    rw [diffStringLists, hsorted]
    exact mergeSorted_self _

end Strings

section Keyed

variable {α κ : Type} [LinearOrder κ] {key : α → Option κ} {equal : α → α → Bool}
  {before after : List α}

/-- Every item has a key, and is the only one of its list that has it. -/
def HasUniqueKeys (key : α → Option κ) (items : List α) : Prop :=
  ∀ a ∈ items, ∃ k, key a = some k ∧ items.countP (fun c => key c = some k) = 1

/-- The lists agree up to their order, and the keys of their items are unique. -/
structure SameKeyed (key : α → Option κ) (equal : α → α → Bool) (before after : List α) : Prop where
  unique : HasUniqueKeys key before
  agree : Multiset.Rel (fun a b => key a = key b ∧ equal a b = true) before after

theorem SameKeyed.nil : SameKeyed key equal [] [] where
  unique := fun _ h => absurd h List.not_mem_nil
  agree := .zero

theorem ambiguousItems_eq_nil_iff {items : List α} :
    ambiguousItems key items = [] ↔ HasUniqueKeys key items := by
  rw [ambiguousItems, List.filter_eq_nil_iff]
  refine forall₂_congr fun a _ => ?_
  rw [Bool.not_eq_true', Bool.not_eq_false, hasUniqueKey_iff]

theorem mem_keyed_of_unique {items : List α} (h : HasUniqueKeys key items) {k : κ} {a : α}
    (ha : a ∈ items) (hk : key a = some k) : (k, a) ∈ keyed key (uniqueItems key items) :=
  mem_keyed.mpr ⟨List.mem_filter.mpr ⟨ha, hasUniqueKey_iff.mpr (h a ha)⟩, hk⟩

/-- Agreeing lists have the same keys. -/
theorem SameKeyed.unique_after (h : SameKeyed key equal before after) :
    HasUniqueKeys key after := by
  have hkeys : (before.map key).Perm (after.map key) := by
    rw [← Multiset.coe_eq_coe, ← Multiset.map_coe, ← Multiset.map_coe, ← Multiset.rel_eq,
      Multiset.rel_map]
    exact h.agree.mono fun _ _ _ _ hab => hab.1
  have hcount : ∀ k, before.countP (fun c => key c = some k) =
      after.countP (fun c => key c = some k) := by
    intro k
    have hperm := hkeys.countP_eq fun x => decide (x = some k)
    rwa [List.countP_map, List.countP_map] at hperm
  intro b hb
  obtain ⟨a, ha, hab, _⟩ := Multiset.exists_mem_of_rel_of_mem (Multiset.rel_flip.mpr h.agree) hb
  obtain ⟨k, hk, hone⟩ := h.unique a ha
  exact ⟨k, hab ▸ hk, hcount k ▸ hone⟩

/-- The entries of a diff are none exactly if each of its parts is empty. -/
theorem unsortedChanges_eq_nil_iff {beforeItems afterItems : List (κ × α)}
    {matched : List (κ × α × α)} {beforeAmbiguous afterAmbiguous : List α} :
    unsortedChanges key equal beforeItems afterItems matched beforeAmbiguous afterAmbiguous = [] ↔
      (∀ m ∈ matched, equal m.2.1 m.2.2 = true) ∧
      (∀ p ∈ beforeItems, p.1 ∈ matched.map Prod.fst) ∧
      (∀ p ∈ afterItems, p.1 ∈ matched.map Prod.fst) ∧ beforeAmbiguous = [] ∧
      afterAmbiguous = [] := by
  have hmatched : ∀ m : κ × α × α, matchedChange equal m = none ↔ equal m.2.1 m.2.2 = true := by
    intro m
    rw [matchedChange]
    split
    · next h => exact iff_of_true rfl h
    · next h => exact iff_of_false (by simp) h
  simp only [unsortedChanges, List.append_eq_nil_iff, List.map_eq_nil_iff,
    List.filterMap_eq_nil_iff, List.filter_eq_nil_iff, decide_eq_true_eq, not_not, hmatched,
    and_assoc]

/-- A key of an agreeing list is the key of one pair of items, which are equal. -/
theorem SameKeyed.partner (h : SameKeyed key equal before after) {k : κ} {a : α}
    (ha : (k, a) ∈ keyed key (uniqueItems key before)) :
    ∃ b, (k, b) ∈ keyed key (uniqueItems key after) ∧ equal a b = true := by
  obtain ⟨hmem, hk, _⟩ := mem_keyed_unique ha
  obtain ⟨b, hb, hab, hequal⟩ := Multiset.exists_mem_of_rel_of_mem h.agree hmem
  exact ⟨b, mem_keyed_of_unique h.unique_after hb (hab ▸ hk), hequal⟩

theorem SameKeyed.partner_before (h : SameKeyed key equal before after) {k : κ} {b : α}
    (hb : (k, b) ∈ keyed key (uniqueItems key after)) :
    ∃ a, (k, a) ∈ keyed key (uniqueItems key before) := by
  obtain ⟨hmem, hk, _⟩ := mem_keyed_unique hb
  obtain ⟨a, ha, hab, _⟩ := Multiset.exists_mem_of_rel_of_mem (Multiset.rel_flip.mpr h.agree) hmem
  exact ⟨a, mem_keyed_of_unique h.unique ha (hab.trans hk)⟩

/-- Two lists of items with keys have no differences exactly if they agree up to their order and
the keys of their items are unique. -/
theorem diffByKey_eq_nil_iff (beforeOrder afterOrder : IterOrder (κ × α)) :
    diffByKey key equal beforeOrder afterOrder before after = [] ↔
      SameKeyed key equal before after := by
  obtain ⟨beforeItems, afterItems, right, hbefore, hright, hafter, hperm⟩ :=
    diffByKey_perm key equal beforeOrder afterOrder before after
  have hlookup : ∀ k b, right.lookup k = some b ↔
      (k, b) ∈ keyed key (uniqueItems key after) := by
    intro k b
    rw [← hafter.mem_iff, hright.mem_iff, mem_pairs]
  rw [show diffByKey key equal beforeOrder afterOrder before after = [] ↔ _ from
    ⟨fun h => List.nil_perm.mp (h ▸ hperm), fun h => List.perm_nil.mp (h ▸ hperm)⟩,
    unsortedChanges_eq_nil_iff, ambiguousItems_eq_nil_iff, ambiguousItems_eq_nil_iff]
  constructor
  · rintro ⟨hequal, hleft, hrest, hunique, hunique'⟩
    refine ⟨hunique, ?_⟩
    have hnd : (beforeItems.map Prod.fst).Nodup :=
      (hbefore.map Prod.fst).nodup_iff.mpr (nodup_keyed_unique before)
    have hnone : ∀ {items : List (κ × α)},
        (∀ p ∈ items, p.1 ∈ (join beforeItems right).map Prod.fst) →
        (items.filter fun p => p.1 ∉ (join beforeItems right).map Prod.fst) = [] := by
      intro items hall
      rw [List.filter_eq_nil_iff]
      intro p hp
      simpa using hall p hp
    have hjoin := (join_left right hnd).map Prod.snd
    have hjoin' := (join_right right hnd hright).map Prod.snd
    rw [hnone hleft, List.append_nil, List.map_map] at hjoin
    rw [hnone hrest, List.append_nil, List.map_map] at hjoin'
    have hlist := unique_ambiguous_perm hbefore
    have hlist' := unique_ambiguous_perm hafter
    rw [ambiguousItems_eq_nil_iff.mpr hunique, List.append_nil] at hlist
    rw [ambiguousItems_eq_nil_iff.mpr hunique', List.append_nil] at hlist'
    rw [← Multiset.coe_eq_coe.mpr (hjoin.trans hlist),
      ← Multiset.coe_eq_coe.mpr (hjoin'.trans hlist'), ← Multiset.map_coe, ← Multiset.map_coe,
      Multiset.rel_map]
    refine Multiset.rel_refl_of_refl_on fun m hm => ?_
    obtain ⟨k, a, b⟩ := m
    obtain ⟨ha, hb⟩ := mem_join.mp hm
    obtain ⟨_, hk, _⟩ := mem_keyed_unique (hbefore.mem_iff.mp ha)
    obtain ⟨_, hk', _⟩ := mem_keyed_unique ((hlookup k b).mp hb)
    exact ⟨hk.trans hk'.symm, hequal _ hm⟩
  · intro h
    refine ⟨?_, ?_, ?_, h.unique, h.unique_after⟩
    · rintro ⟨k, a, b⟩ hm
      obtain ⟨ha, hb⟩ := mem_join.mp hm
      obtain ⟨b', hb', hequal⟩ := h.partner (hbefore.mem_iff.mp ha)
      cases (((hlookup k b').mpr hb').symm.trans hb :)
      exact hequal
    · rintro ⟨k, a⟩ hp
      obtain ⟨b, hb, _⟩ := h.partner (hbefore.mem_iff.mp hp)
      exact mem_join_keys.mpr ⟨List.mem_map_of_mem hp, mem_iff_lookup.mpr ⟨b, (hlookup k b).mpr hb⟩⟩
    · rintro ⟨k, b⟩ hp
      have hb := hafter.mem_iff.mp hp
      obtain ⟨a, ha⟩ := h.partner_before hb
      exact mem_join_keys.mpr ⟨List.mem_map.mpr ⟨(k, a), hbefore.mem_iff.mpr ha, rfl⟩,
        mem_iff_lookup.mpr ⟨b, (hlookup k b).mpr hb⟩⟩

end Keyed

section Sections

/-- The constraints of two lists agree, and have unique clause identifiers. -/
abbrev SameConstraints : List Constraint → List Constraint → Prop :=
  SameKeyed Constraint.clauseId constraintsEqual

abbrev SameCriteria : List AcceptanceCriterion → List AcceptanceCriterion → Prop :=
  SameKeyed AcceptanceCriterion.clauseId acceptanceCriteriaEqual

abbrev SameActions : List ActionRef → List ActionRef → Prop :=
  SameKeyed (fun a => some a.matchKey) actionRefsEqual

abbrev SameRules : List ApprovalRuleRef → List ApprovalRuleRef → Prop :=
  SameKeyed (fun a => some a.ruleId) approvalRulesEqual

/-- The payloads agree up to the order of lists on scope, constraints, acceptance criteria and
authority, and the keys of their items are unique. -/
structure SameDiffed (before after : IntentPayload) : Prop where
  inScope : before.scope.inScope.Perm after.scope.inScope
  outOfScope : before.scope.outOfScope.Perm after.scope.outOfScope
  functional : SameConstraints before.constraints.functional after.constraints.functional
  nonFunctional : SameConstraints before.constraints.nonFunctional after.constraints.nonFunctional
  policy : SameConstraints before.constraints.policy after.constraints.policy
  budget : SameConstraints before.constraints.budget after.constraints.budget
  time : SameConstraints before.constraints.time after.constraints.time
  required : SameCriteria before.acceptanceCriteria.required after.acceptanceCriteria.required
  optional : SameCriteria before.acceptanceCriteria.optional after.acceptanceCriteria.optional
  allowedActions : SameActions before.authority.allowedActions after.authority.allowedActions
  forbiddenActions : SameActions before.authority.forbiddenActions after.authority.forbiddenActions
  approvalRequirements :
    SameRules before.authority.approvalRequirements after.authority.approvalRequirements

theorem diffScope_eq_empty_iff {before after : IntentScope} :
    diffScope before after = {} ↔
      before.inScope.Perm after.inScope ∧ before.outOfScope.Perm after.outOfScope := by
  rw [diffScope, ScopeDiff.mk.injEq, diffStringLists_eq_empty_iff, diffStringLists_eq_empty_iff]

theorem diffConstraintsSection_eq_empty_iff {orders : VersionDiffOrders}
    {before after : IntentConstraints} :
    diffConstraintsSection orders before after = {} ↔
      SameConstraints before.functional after.functional ∧
      SameConstraints before.nonFunctional after.nonFunctional ∧
      SameConstraints before.policy after.policy ∧ SameConstraints before.budget after.budget ∧
      SameConstraints before.time after.time := by
  simp only [diffConstraintsSection, ConstraintsDiff.mk.injEq, diffConstraints,
    List.map_eq_nil_iff, diffByKey_eq_nil_iff]

theorem diffAcceptanceCriteriaSection_eq_empty_iff {orders : VersionDiffOrders}
    {before after : AcceptanceCriteria} :
    diffAcceptanceCriteriaSection orders before after = {} ↔
      SameCriteria before.required after.required ∧
      SameCriteria before.optional after.optional := by
  simp only [diffAcceptanceCriteriaSection, AcceptanceCriteriaDiff.mk.injEq,
    diffAcceptanceCriteria, List.map_eq_nil_iff, diffByKey_eq_nil_iff]

theorem diffAuthority_eq_empty_iff {orders : VersionDiffOrders} {before after : IntentAuthority} :
    diffAuthority orders before after = {} ↔
      SameActions before.allowedActions after.allowedActions ∧
      SameActions before.forbiddenActions after.forbiddenActions ∧
      SameRules before.approvalRequirements after.approvalRequirements := by
  simp only [diffAuthority, AuthorityDiff.mk.injEq, diffActionRefs, diffApprovalRules,
    List.map_eq_nil_iff, diffByKey_eq_nil_iff]

/-- The diff of two versions is empty exactly if the payloads agree on what it covers. -/
theorem diffIntentVersion_eq_empty_iff (orders : VersionDiffOrders) (before after : IntentVersion) :
    diffIntentVersion orders before after = {} ↔ SameDiffed before.payload after.payload := by
  rw [diffIntentVersion, IntentVersionDiff.mk.injEq, diffScope_eq_empty_iff,
    diffConstraintsSection_eq_empty_iff, diffAcceptanceCriteriaSection_eq_empty_iff,
    diffAuthority_eq_empty_iff]
  constructor
  · rintro ⟨⟨hin, hout⟩, ⟨hf, hn, hp, hb, ht⟩, ⟨hr, ho⟩, hal, hfo, hap⟩
    exact ⟨hin, hout, hf, hn, hp, hb, ht, hr, ho, hal, hfo, hap⟩
  · rintro ⟨hin, hout, hf, hn, hp, hb, ht, hr, ho, hal, hfo, hap⟩
    exact ⟨⟨hin, hout⟩, ⟨hf, hn, hp, hb, ht⟩, ⟨hr, ho⟩, hal, hfo, hap⟩

end Sections

/-- A diff has class A exactly if it is empty. -/
theorem planOf_class_A_iff {diff : IntentVersionDiff} :
    (planOf diff).decisionClass = .A ↔ diff = {} := by
  constructor
  · intro h
    by_contra hne
    exact decisionClass_ne_A (Bool.eq_false_iff.mpr fun hempty => hne (isDiffEmpty_eq hempty)) h
  · rintro rfl
    rfl

/-- The plan between two versions is of class A, and the diff is empty, exactly if the payloads
agree up to the order of lists on scope, constraints, acceptance criteria and authority, and every
constraint, criterion, action and rule is the only one of its list with its key. -/
theorem plan_noOp_iff (orders : VersionDiffOrders) (before after : IntentVersion) :
    ((RebasePlan.fromDiffAndRisk (diffIntentVersion orders before after)
        (analyzeDiff (diffIntentVersion orders before after))).decisionClass = .A ↔
      SameDiffed before.payload after.payload) ∧
    (diffIntentVersion orders before after = {} ↔ SameDiffed before.payload after.payload) := by
  have hempty := diffIntentVersion_eq_empty_iff orders before after
  exact ⟨planOf_class_A_iff.trans hempty, hempty⟩

section Sample

/-- A version with an objective and some functional constraints. -/
def sampleVersion (objective : String) (functional : List Constraint) : IntentVersion where
  id := 1
  intentId := 2
  versionNumber := 1
  parentVersionId := none
  createdAt := 0
  createdBy := ⟨"user", "u1"⟩
  changeReason := "Initial"
  changeChannel := .userEdit
  status := .active
  hash := ""
  payload :=
    { IntentPayload.ofObjective ⟨objective, "Done", "release"⟩ with
      constraints := ⟨functional, [], [], [], []⟩ }

/-- A changed objective is of class A, and an unchanged constraint without an identity is not. -/
theorem noOp_not_semantic :
    (RebasePlan.fromDiffAndRisk
        (diffIntentVersion .id (sampleVersion "Ship" []) (sampleVersion "Cancel" []))
        (analyzeDiff (diffIntentVersion .id (sampleVersion "Ship" []) (sampleVersion "Cancel" []))
          )).decisionClass = .A ∧
      ∃ constraint : Constraint, ∃ version, version = sampleVersion "Ship" [constraint] ∧
        (RebasePlan.fromDiffAndRisk (diffIntentVersion .id version version)
          (analyzeDiff (diffIntentVersion .id version version))).decisionClass ≠ .A := by
  constructor
  · refine planOf_class_A_iff.mpr ((diffIntentVersion_eq_empty_iff _ _ _).mpr ?_)
    exact ⟨.refl _, .refl _, .nil, .nil, .nil, .nil, .nil, .nil, .nil, .nil, .nil, .nil⟩
  · refine ⟨⟨none, .functional, "max_tokens", .lte, .number (.posInt 100), none, .must⟩, _, rfl,
      fun h => ?_⟩
    have hsame := (diffIntentVersion_eq_empty_iff _ _ _).mp (planOf_class_A_iff.mp h)
    obtain ⟨_, hkey, _⟩ := hsame.functional.unique _ List.mem_cons_self
    cases hkey

end Sample

end IntentRebase
