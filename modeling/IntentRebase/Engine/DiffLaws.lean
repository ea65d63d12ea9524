import IntentRebase.Engine.DiffPatch
import IntentRebase.Kit.OrderBy

/-! Laws of the semantic diff: the diff of two lists of texts is their difference as multisets, the
order in which the maps of a diff are iterated does not show in its entries, and the diff of the
versions the other way round is the mirror of the diff. -/

namespace IntentRebase

open Kit

section Strings

theorem mergeSorted_added_sublist (before after : List String) :
    (mergeSorted before after).added.Sublist after := by
  induction before, after using mergeSorted.induct with
  | case1 =>
    rw [mergeSorted]
  | case2 b before ih =>
    rw [mergeSorted]
    exact ih
  | case3 a after ih =>
    rw [mergeSorted]
    exact ih.cons_cons a
  | case4 b before a after hlt ih =>
    rw [mergeSorted, hlt]
    exact ih
  | case5 b before a after hgt ih =>
    rw [mergeSorted, hgt]
    exact ih.cons_cons a
  | case6 b before a after heq ih =>
    rw [mergeSorted, heq]
    exact ih.cons a

/-- The merge the other way round exchanges what is added and what is removed. -/
theorem mergeSorted_swap (before after : List String) :
    mergeSorted after before =
      ⟨(mergeSorted before after).removed, (mergeSorted before after).added⟩ := by
  induction before, after using mergeSorted.induct with
  | case1 =>
    rw [mergeSorted]
  | case2 b before ih =>
    rw [mergeSorted, mergeSorted, ih]
  | case3 a after ih =>
    rw [mergeSorted, mergeSorted, ih]
  | case4 b before a after hlt ih =>
    rw [mergeSorted, mergeSorted, hlt, Std.OrientedCmp.gt_of_lt hlt, ih]
  | case5 b before a after hgt ih =>
    rw [mergeSorted, mergeSorted, hgt, Std.OrientedCmp.lt_of_gt hgt, ih]
  | case6 b before a after heq ih =>
    rw [mergeSorted, mergeSorted, heq, Std.OrientedCmp.eq_symm heq, ih]

/-- Of sorted lists, a text is added as many times as it is more often after than before. -/
theorem count_mergeSorted_added (s : String) {before after : List String}
    (hbefore : before.Pairwise (· ≤ ·)) (hafter : after.Pairwise (· ≤ ·)) :
    (mergeSorted before after).added.count s = after.count s - before.count s := by
  induction before, after using mergeSorted.induct with
  | case1 =>
    rw [mergeSorted]
    rfl
  | case2 b before ih =>
    rw [mergeSorted, ih hbefore.of_cons hafter]
    simp
  | case3 a after ih =>
    rw [mergeSorted]
    simpa [List.count_cons] using ih hbefore hafter.of_cons
  | case4 b before a after hlt ih =>
    rw [mergeSorted, hlt, ih hbefore.of_cons hafter]
    by_cases hs : s = b
    · -- What is smaller than the first text after is nowhere after.
      have hba : b < a := compare_lt_iff_lt.mp hlt
      have hnone : (a :: after).count s = 0 := by
        rw [List.count_eq_zero]
        intro hmem
        rcases List.mem_cons.mp hmem with heq | hin
        · exact absurd (heq ▸ hs ▸ hba) (lt_irrefl _)
        · exact absurd (hba.trans_le ((List.pairwise_cons.mp hafter).1 s hin)) (hs ▸ lt_irrefl _)
      rw [hnone, Nat.zero_sub, Nat.zero_sub]
    · rw [List.count_cons_of_ne (Ne.symm hs)]
  | case5 b before a after hgt ih =>
    rw [mergeSorted, hgt, List.count_cons, ih hbefore hafter.of_cons]
    by_cases hs : s = a
    · have hab : a < b := compare_gt_iff_gt.mp hgt
      have hnone : (b :: before).count s = 0 := by
        rw [List.count_eq_zero]
        intro hmem
        rcases List.mem_cons.mp hmem with heq | hin
        · exact absurd (heq ▸ hs ▸ hab) (lt_irrefl _)
        · exact absurd (hab.trans_le ((List.pairwise_cons.mp hbefore).1 s hin)) (hs ▸ lt_irrefl _)
      rw [hnone, List.count_cons]
      rfl
    · simp [List.count_cons, Ne.symm hs]
  | case6 b before a after heq ih =>
    rw [mergeSorted, heq, ih hbefore.of_cons hafter.of_cons, Std.LawfulEqOrd.eq_of_compare heq,
      List.count_cons, List.count_cons]
    omega

/-- The diff the other way round exchanges what is added and what is removed. -/
theorem diffStringLists_swap (before after : List String) :
    diffStringLists after before =
      ⟨(diffStringLists before after).removed, (diffStringLists before after).added⟩ :=
  mergeSorted_swap _ _

theorem count_diffStringLists_added (s : String) (before after : List String) :
    (diffStringLists before after).added.count s = after.count s - before.count s := by
  rw [diffStringLists, count_mergeSorted_added s (List.pairwise_insertionSort _ _)
    (List.pairwise_insertionSort _ _), (List.perm_insertionSort _ after).count_eq,
    (List.perm_insertionSort _ before).count_eq]

theorem diffStringLists_added_pairwise (before after : List String) :
    (diffStringLists before after).added.Pairwise (· ≤ ·) :=
  (List.pairwise_insertionSort _ after).sublist (mergeSorted_added_sublist _ _)

/-- The diff of two lists of texts is exact: what is added is the list after without the list
before, what is removed the list before without the list after, each text as often as it occurs. -/
theorem diffStringLists_difference (before after : List String) :
    (↑(diffStringLists before after).added : Multiset String) = ↑after - ↑before ∧
    (↑(diffStringLists before after).removed : Multiset String) = ↑before - ↑after ∧
    (diffStringLists before after).added.Pairwise (· ≤ ·) ∧
    (diffStringLists before after).removed.Pairwise (· ≤ ·) ∧
    (diffStringLists before after).added.Disjoint (diffStringLists before after).removed ∧
    (before.diff (diffStringLists before after).removed ++
      (diffStringLists before after).added).Perm after := by
  have hadded := fun s => count_diffStringLists_added s before after
  have hremoved : ∀ s, (diffStringLists before after).removed.count s =
      before.count s - after.count s := by
    intro s
    rw [← count_diffStringLists_added s after before, diffStringLists_swap before after]
  have hsorted := diffStringLists_added_pairwise after before
  rw [diffStringLists_swap before after] at hsorted
  refine ⟨Multiset.ext.mpr fun s => ?_, Multiset.ext.mpr fun s => ?_,
    diffStringLists_added_pairwise before after, hsorted, fun s hin hout => ?_,
    List.perm_iff_count.mpr fun s => ?_⟩
  · rw [Multiset.count_sub, Multiset.coe_count, Multiset.coe_count, Multiset.coe_count, hadded]
  · rw [Multiset.count_sub, Multiset.coe_count, Multiset.coe_count, Multiset.coe_count, hremoved]
  · have hin' := List.count_pos_iff.mpr hin
    have hout' := List.count_pos_iff.mpr hout
    rw [hadded] at hin'
    rw [hremoved] at hout'
    omega
  · rw [List.count_append, List.count_diff, hadded, hremoved]
    omega

end Strings

/-- The kind of change the other way round. -/
def ChangeType.mirror : ChangeType → ChangeType
  | .added => .removed
  | .removed => .added
  | .modified => .modified

/-- The change the other way round. -/
def ItemChange.mirror {α : Type} (c : ItemChange α) : ItemChange α :=
  ⟨c.changeType.mirror, c.after, c.before⟩

section Keyed

variable {α κ : Type} {key : α → Option κ} {equal : α → α → Bool}

/-- Two orders of the same pairs with distinct keys have the same pairs of each key. -/
theorem filter_key_eq_of_perm {items items' : List (κ × α)} (h : items.Perm items')
    (hnd : (items.map Prod.fst).Nodup) (p : κ → Bool) (hp : ∀ k k', p k → p k' → k = k') :
    items.filter (fun e => p e.1) = items'.filter fun e => p e.1 := by
  have htrue : ∀ l : List (κ × α), l.Pairwise fun _ _ => True := fun l =>
    List.pairwise_of_forall fun _ _ => trivial
  refine List.Perm.eq_of_pairwise (fun a b ha hb _ _ => ?_) (htrue _) (htrue _) (h.filter _)
  obtain ⟨ha, hka⟩ := List.mem_filter.mp ha
  obtain ⟨hb, hkb⟩ := List.mem_filter.mp hb
  exact List.inj_on_of_nodup_map hnd ha (h.mem_iff.mpr hb) (hp _ _ hka hkb)

variable [LinearOrder κ]

/-- The entries of a keyed diff that have an id. -/
theorem filter_unsortedChanges (k : WithBot κ) (beforeItems afterItems : List (κ × α))
    (right : HashMap κ α) (beforeAmbiguous afterAmbiguous : List α) :
    (unsortedChanges key equal beforeItems afterItems (join beforeItems right) beforeAmbiguous
      afterAmbiguous).filter (fun c => noneFirst c.id = k) =
    (join (beforeItems.filter fun p => noneFirst (some p.1) = k) right).filterMap
        (matchedChange equal) ++
      ((beforeItems.filter fun p => noneFirst (some p.1) = k).filter fun p =>
        p.1 ∉ (join beforeItems right).map Prod.fst).map (fun p => removedChange (some p.1) p.2) ++
      ((afterItems.filter fun p => noneFirst (some p.1) = k).filter fun p =>
        p.1 ∉ (join beforeItems right).map Prod.fst).map (fun p => addedChange (some p.1) p.2) ++
      (beforeAmbiguous.filter fun c => noneFirst (key c) = k).map
        (fun c => removedChange (key c) c) ++
      (afterAmbiguous.filter fun c => noneFirst (key c) = k).map
        fun c => addedChange (key c) c := by
  have hmatched : ((join beforeItems right).filterMap (matchedChange equal)).filter
      (fun c => noneFirst c.id = k) =
      (join (beforeItems.filter fun p => noneFirst (some p.1) = k) right).filterMap
        (matchedChange equal) := by
    induction beforeItems with
    | nil => rfl
    | cons p rest ih =>
      cases hlookup : right.lookup p.1 with
      | none =>
        by_cases hk : noneFirst (some p.1) = k <;>
          simpa [join, List.filter_cons, hlookup, hk] using ih
      | some b =>
        cases hequal : equal p.2 b <;> by_cases hk : noneFirst (some p.1) = k <;>
          simpa [join, List.filter_cons, hlookup, matchedChange, hequal, hk] using ih
  simp only [unsortedChanges, List.filter_append, hmatched, List.filter_map, List.filter_filter,
    Function.comp_def, removedChange, addedChange, Bool.and_comm]

/-- The entries of an id do not show the order in which the items with a key of their own come. -/
theorem filter_unsortedChanges_of_perm {beforeItems beforeItems' afterItems afterItems' :
    List (κ × α)} (hbefore : beforeItems.Perm beforeItems') (hafter : afterItems.Perm afterItems')
    (hbeforeKeys : (beforeItems.map Prod.fst).Nodup) (hafterKeys : (afterItems.map Prod.fst).Nodup)
    (k : WithBot κ) (right : HashMap κ α) (beforeAmbiguous afterAmbiguous : List α) :
    (unsortedChanges key equal beforeItems afterItems (join beforeItems right) beforeAmbiguous
      afterAmbiguous).filter (fun c => noneFirst c.id = k) =
    (unsortedChanges key equal beforeItems' afterItems' (join beforeItems' right) beforeAmbiguous
      afterAmbiguous).filter fun c => noneFirst c.id = k := by
  have hone : ∀ x y : κ, decide (noneFirst (some x) = k) = true →
      decide (noneFirst (some y) = k) = true → x = y := by
    intro x y hx hy
    exact Option.some.inj ((of_decide_eq_true hx).trans (of_decide_eq_true hy).symm)
  have hids : ∀ x, x ∈ (join beforeItems right).map Prod.fst ↔
      x ∈ (join beforeItems' right).map Prod.fst := by
    intro x
    rw [mem_join_keys, mem_join_keys, (hbefore.map Prod.fst).mem_iff]
  rw [filter_unsortedChanges, filter_unsortedChanges,
    filter_key_eq_of_perm hbefore hbeforeKeys (fun x => noneFirst (some x) = k) hone,
    filter_key_eq_of_perm hafter hafterKeys (fun x => noneFirst (some x) = k) hone]
  simp only [hids]

variable (key equal) in
/-- The orders in which the maps of a diff are iterated do not show in its entries. -/
theorem diffByKey_order (beforeOrder beforeOrder' afterOrder afterOrder' : IterOrder (κ × α))
    (before after : List α) :
    diffByKey key equal beforeOrder afterOrder before after =
      diffByKey key equal beforeOrder' afterOrder' before after := by
  have hkeys : ∀ (order : IterOrder (κ × α)) (m : HashMap κ α),
      ((order.apply (pairs m)).map Prod.fst).Nodup := fun order m =>
    ((order.perm _).map Prod.fst).nodup_iff.mpr (nodup_pairs_keys m)
  exact insertionSort_eq_of_filter (fun c : KeyedChange κ α => noneFirst c.id) fun k =>
    filter_unsortedChanges_of_perm ((beforeOrder.perm _).trans (beforeOrder'.perm _).symm)
      ((afterOrder.perm _).trans (afterOrder'.perm _).symm) (hkeys beforeOrder _)
      (hkeys afterOrder _) k _ _ _

/-- The entry of the diff the other way round: what was added is removed, what was there before is
there after, and the item shown is again the one before, if there is one. -/
def KeyedChange.mirror (c : KeyedChange κ α) : KeyedChange κ α :=
  { c.toItemChange.mirror with id := c.id, item := c.after.getD c.item }

/-- The matched pairs of the diff the other way round are the matched pairs, exchanged. -/
theorem join_swap {beforeItems afterItems : List (κ × α)} {left right : HashMap κ α}
    (hleft : beforeItems.Perm (pairs left)) (hright : afterItems.Perm (pairs right)) :
    (join afterItems left).Perm ((join beforeItems right).map fun m => (m.1, m.2.2, m.2.1)) := by
  have hkeys : ∀ {items : List (κ × α)} {m m' : HashMap κ α}, items.Perm (pairs m) →
      (join items m').Nodup := by
    intro items m m' h
    refine List.Nodup.of_map Prod.fst ((join_keys_sublist _ _).nodup ?_)
    exact (h.map Prod.fst).nodup_iff.mpr (nodup_pairs_keys m)
  have hinj : Function.Injective fun m : κ × α × α => (m.1, m.2.2, m.2.1) := by
    rintro ⟨k, b, a⟩ ⟨k', b', a'⟩ h
    simp only [Prod.mk.injEq] at h
    obtain ⟨rfl, rfl, rfl⟩ := h
    rfl
  refine (List.perm_ext_iff_of_nodup (hkeys hright) ((hkeys hleft).map hinj)).mpr ?_
  rintro ⟨k, a, b⟩
  rw [mem_join, hright.mem_iff, mem_pairs, List.mem_map]
  constructor
  · rintro ⟨ha, hb⟩
    exact ⟨(k, b, a), mem_join.mpr ⟨hleft.mem_iff.mpr (mem_pairs.mpr hb), ha⟩, rfl⟩
  · rintro ⟨⟨k', b', a'⟩, hmem, heq⟩
    simp only [Prod.mk.injEq] at heq
    obtain ⟨rfl, rfl, rfl⟩ := heq
    obtain ⟨hb, ha⟩ := mem_join.mp hmem
    exact ⟨ha, mem_pairs.mp (hleft.mem_iff.mp hb)⟩

omit [LinearOrder κ] in
theorem matchedChange_swap (hsymm : ∀ a b, equal a b = equal b a) (m : κ × α × α) :
    matchedChange equal (m.1, m.2.2, m.2.1) =
      (matchedChange equal m).map KeyedChange.mirror := by
  unfold matchedChange
  rw [hsymm]
  split
  · rfl
  · rfl

theorem unsortedChanges_swap (hsymm : ∀ a b, equal a b = equal b a)
    {beforeItems afterItems : List (κ × α)} {left right : HashMap κ α}
    (hleft : beforeItems.Perm (pairs left)) (hright : afterItems.Perm (pairs right))
    (beforeAmbiguous afterAmbiguous : List α) :
    (unsortedChanges key equal afterItems beforeItems (join afterItems left) afterAmbiguous
      beforeAmbiguous).Perm
    ((unsortedChanges key equal beforeItems afterItems (join beforeItems right) beforeAmbiguous
      afterAmbiguous).map KeyedChange.mirror) := by
  have hjoin := join_swap hleft hright
  have hids : ∀ k, k ∈ (join afterItems left).map Prod.fst ↔
      k ∈ (join beforeItems right).map Prod.fst := by
    intro k
    rw [(hjoin.map Prod.fst).mem_iff, List.map_map]
    rfl
  have hmatched : ((join afterItems left).filterMap (matchedChange equal)).Perm
      (((join beforeItems right).filterMap (matchedChange equal)).map KeyedChange.mirror) := by
    refine (hjoin.filterMap _).trans (.of_eq ?_)
    rw [List.filterMap_map, List.map_filterMap]
    exact congrArg (fun f => (join beforeItems right).filterMap f)
      (funext (matchedChange_swap hsymm))
  have hremoved : ∀ (id : Option κ) (item : α),
      (removedChange id item).mirror = addedChange id item := fun _ _ => rfl
  have hadded : ∀ (id : Option κ) (item : α),
      (addedChange id item).mirror = removedChange id item := fun _ _ => rfl
  simp only [unsortedChanges, hids, List.map_append, List.map_map, Function.comp_def, hremoved,
    hadded]
  rw [← Multiset.coe_eq_coe]
  have hmatched' := Multiset.coe_eq_coe.mpr hmatched
  simp only [← Multiset.coe_add]
  rw [hmatched']
  abel

variable (key) in
/-- The diff the other way round has the mirrored entries, if the equality of items is symmetric. -/
theorem diffByKey_swap (hsymm : ∀ a b, equal a b = equal b a)
    (beforeOrder afterOrder beforeOrder' afterOrder' : IterOrder (κ × α)) (before after : List α) :
    (diffByKey key equal beforeOrder afterOrder after before).Perm
      ((diffByKey key equal beforeOrder' afterOrder' before after).map KeyedChange.mirror) := by
  rw [diffByKey_order key equal beforeOrder afterOrder' afterOrder beforeOrder' after before]
  exact (List.perm_insertionSort _ _).trans
    ((unsortedChanges_swap hsymm (beforeOrder'.perm _) (afterOrder'.perm _) _ _).trans
      ((List.perm_insertionSort _ _).symm.map _))

variable (key) in
/-- The item that an entry shows the other way round has the key of the item it shows. -/
theorem mirror_item_key (hrefl : ∀ a, equal a a = true)
    {beforeOrder afterOrder : IterOrder (κ × α)} {before after : List α} {c : KeyedChange κ α}
    (h : c ∈ diffByKey key equal beforeOrder afterOrder before after) :
    key c.mirror.item = key c.item := by
  obtain ⟨beforeItems, afterItems, right, -, -, -, hperm⟩ :=
    diffByKey_perm key equal beforeOrder afterOrder before after
  rcases mem_unsorted (hperm.mem_iff.mp h) with ⟨m, -, hm⟩ | ⟨id, item, rfl⟩ | ⟨id, item, rfl⟩
  · obtain ⟨-, -, hchange⟩ := matchedChange_eq_some hm
    obtain ⟨k, b, a, hid, hentry, -, -, -, -, -, hkey, -⟩ :=
      (diffByKey_isPatch hrefl beforeOrder afterOrder before after).modified c h
        (by rw [hchange])
    have hafter : c.after = some a := congrArg ItemChange.after hentry
    rw [← diffByKey_id h, hid, KeyedChange.mirror, hafter]
    exact hkey
  · rfl
  · rfl

end Keyed

/-- A change set can be replayed exactly: each of the four diffs by identity returns the same
entries in the same order, however the maps it makes are iterated. -/
theorem diff_order :
    (∀ (beforeOrder beforeOrder' afterOrder afterOrder' : IterOrder (Uuid × Constraint))
      (before after : List Constraint), diffConstraints beforeOrder afterOrder before after =
        diffConstraints beforeOrder' afterOrder' before after) ∧
    (∀ (beforeOrder beforeOrder' afterOrder afterOrder' : IterOrder (Uuid × AcceptanceCriterion))
      (before after : List AcceptanceCriterion),
      diffAcceptanceCriteria beforeOrder afterOrder before after =
        diffAcceptanceCriteria beforeOrder' afterOrder' before after) ∧
    (∀ (beforeOrder beforeOrder' afterOrder afterOrder' : IterOrder (ActionKey × ActionRef))
      (before after : List ActionRef), diffActionRefs beforeOrder afterOrder before after =
        diffActionRefs beforeOrder' afterOrder' before after) ∧
    (∀ (beforeOrder beforeOrder' afterOrder afterOrder' : IterOrder (String × ApprovalRuleRef))
      (before after : List ApprovalRuleRef), diffApprovalRules beforeOrder afterOrder before after =
        diffApprovalRules beforeOrder' afterOrder' before after) := by
  refine ⟨fun bo bo' ao ao' before after => ?_, fun bo bo' ao ao' before after => ?_,
    fun bo bo' ao ao' before after => ?_, fun bo bo' ao ao' before after => ?_⟩
  · exact congrArg (List.map _) (diffByKey_order _ _ bo bo' ao ao' before after)
  · exact congrArg (List.map _) (diffByKey_order _ _ bo bo' ao ao' before after)
  · exact congrArg (List.map _) (diffByKey_order _ _ bo bo' ao ao' before after)
  · exact congrArg (List.map _) (diffByKey_order _ _ bo bo' ao ao' before after)

section Mirror

/-- The entry the other way round; its header shows the item it then has before, if any. -/
def ConstraintDiff.mirror (d : ConstraintDiff) : ConstraintDiff :=
  { d.toItemChange.mirror with
    clauseId := d.clauseId
    constraintType := (d.after.map Constraint.constraintType).getD d.constraintType
    key := (d.after.map Constraint.key).getD d.key }

def AcceptanceCriterionDiff.mirror (d : AcceptanceCriterionDiff) : AcceptanceCriterionDiff :=
  { d.toItemChange.mirror with
    clauseId := d.clauseId
    priority := (d.after.map fun a => a.priority.debug).getD d.priority }

/-- An entry for an action reference never shows another action or target the other way round. -/
def ActionRefDiff.mirror (d : ActionRefDiff) : ActionRefDiff :=
  { d with toItemChange := d.toItemChange.mirror }

def ApprovalRuleDiff.mirror (d : ApprovalRuleDiff) : ApprovalRuleDiff :=
  { d.toItemChange.mirror with
    ruleId := d.ruleId
    description := (d.after.map ApprovalRuleRef.description).getD d.description }

/-- The diff of two scopes the other way round. -/
def ScopeItemsDiff.mirror (d : ScopeItemsDiff) : ScopeItemsDiff := ⟨d.removed, d.added⟩

def ScopeDiff.mirror (d : ScopeDiff) : ScopeDiff := ⟨d.inScope.mirror, d.outOfScope.mirror⟩

theorem constraintsEqual_symm (a b : Constraint) : constraintsEqual a b = constraintsEqual b a := by
  have hvalue : (a.value == b.value) = (b.value == a.value) := Json.beq_symm _ _
  simp only [constraintsEqual, hvalue, Bool.beq_comm]

theorem acceptanceCriteriaEqual_symm (a b : AcceptanceCriterion) :
    acceptanceCriteriaEqual a b = acceptanceCriteriaEqual b a := by
  simp only [acceptanceCriteriaEqual, Bool.beq_comm]

theorem actionRefsEqual_symm (a b : ActionRef) : actionRefsEqual a b = actionRefsEqual b a := by
  simp only [actionRefsEqual, Bool.beq_comm]

theorem approvalRulesEqual_symm (a b : ApprovalRuleRef) :
    approvalRulesEqual a b = approvalRulesEqual b a := by
  simp only [approvalRulesEqual, Bool.beq_comm]

theorem diffConstraints_swap (orders orders' : DiffOrders Uuid Constraint)
    (before after : List Constraint) :
    (diffConstraints orders.before orders.after after before).Perm
      ((diffConstraints orders'.before orders'.after before after).map ConstraintDiff.mirror) := by
  refine ((diffByKey_swap Constraint.clauseId constraintsEqual_symm orders.before orders.after
    orders'.before orders'.after before after).map _).trans (.of_eq ?_)
  rw [diffConstraints, List.map_map, List.map_map]
  refine List.map_congr_left fun c _ => ?_
  cases h : c.after <;> simp [ConstraintDiff.mirror, KeyedChange.mirror, h]

theorem diffAcceptanceCriteria_swap (orders orders' : DiffOrders Uuid AcceptanceCriterion)
    (before after : List AcceptanceCriterion) :
    (diffAcceptanceCriteria orders.before orders.after after before).Perm
      ((diffAcceptanceCriteria orders'.before orders'.after before after).map
        AcceptanceCriterionDiff.mirror) := by
  refine ((diffByKey_swap AcceptanceCriterion.clauseId acceptanceCriteriaEqual_symm orders.before
    orders.after orders'.before orders'.after before after).map _).trans (.of_eq ?_)
  rw [diffAcceptanceCriteria, List.map_map, List.map_map]
  refine List.map_congr_left fun c _ => ?_
  cases h : c.after <;> simp [AcceptanceCriterionDiff.mirror, KeyedChange.mirror, h]

theorem diffActionRefs_swap (orders orders' : DiffOrders ActionKey ActionRef)
    (before after : List ActionRef) :
    (diffActionRefs orders.before orders.after after before).Perm
      ((diffActionRefs orders'.before orders'.after before after).map ActionRefDiff.mirror) := by
  refine ((diffByKey_swap (fun a : ActionRef => some a.matchKey) actionRefsEqual_symm
    orders.before orders.after orders'.before orders'.after before after).map _).trans (.of_eq ?_)
  rw [diffActionRefs, List.map_map, List.map_map]
  refine List.map_congr_left fun c hc => ?_
  have hrefl : ∀ a, actionRefsEqual a a = true := fun a => by simp [actionRefsEqual]
  have hkey := Option.some.inj
    (mirror_item_key (fun a : ActionRef => some a.matchKey) hrefl hc)
  obtain ⟨haction, htarget⟩ := Prod.mk.inj (toLex.injective hkey)
  have htarget' : c.mirror.item.target = c.item.target := htarget
  simp only [Function.comp_apply, haction, htarget']
  rfl

theorem diffApprovalRules_swap (orders orders' : DiffOrders String ApprovalRuleRef)
    (before after : List ApprovalRuleRef) :
    (diffApprovalRules orders.before orders.after after before).Perm
      ((diffApprovalRules orders'.before orders'.after before after).map
        ApprovalRuleDiff.mirror) := by
  refine ((diffByKey_swap (fun a : ApprovalRuleRef => some a.ruleId) approvalRulesEqual_symm
    orders.before orders.after orders'.before orders'.after before after).map _).trans (.of_eq ?_)
  rw [diffApprovalRules, List.map_map, List.map_map]
  refine List.map_congr_left fun c hc => ?_
  have hrefl : ∀ a, approvalRulesEqual a a = true := fun a => by simp [approvalRulesEqual]
  have hkey : c.mirror.item.ruleId = c.item.ruleId := Option.some.inj
    (mirror_item_key (fun a : ApprovalRuleRef => some a.ruleId) hrefl hc)
  simp only [Function.comp_apply, hkey, ApprovalRuleDiff.mirror]
  cases h : c.after <;> simp [KeyedChange.mirror, h]

/-- The diff of the versions the other way round has the mirrored entries: each of the four diffs by
identity as a multiset, the diff of two scopes list by list. -/
theorem diff_mirror :
    (∀ (orders orders' : DiffOrders Uuid Constraint) (before after : List Constraint),
      (diffConstraints orders.before orders.after after before).Perm
        ((diffConstraints orders'.before orders'.after before after).map
          ConstraintDiff.mirror)) ∧
    (∀ (orders orders' : DiffOrders Uuid AcceptanceCriterion)
      (before after : List AcceptanceCriterion),
      (diffAcceptanceCriteria orders.before orders.after after before).Perm
        ((diffAcceptanceCriteria orders'.before orders'.after before after).map
          AcceptanceCriterionDiff.mirror)) ∧
    (∀ (orders orders' : DiffOrders ActionKey ActionRef) (before after : List ActionRef),
      (diffActionRefs orders.before orders.after after before).Perm
        ((diffActionRefs orders'.before orders'.after before after).map ActionRefDiff.mirror)) ∧
    (∀ (orders orders' : DiffOrders String ApprovalRuleRef) (before after : List ApprovalRuleRef),
      (diffApprovalRules orders.before orders.after after before).Perm
        ((diffApprovalRules orders'.before orders'.after before after).map
          ApprovalRuleDiff.mirror)) ∧
    ∀ before after : IntentScope, diffScope after before = (diffScope before after).mirror := by
  refine ⟨diffConstraints_swap, diffAcceptanceCriteria_swap, diffActionRefs_swap,
    diffApprovalRules_swap, fun before after => ?_⟩
  rw [diffScope, diffStringLists_swap before.inScope, diffStringLists_swap before.outOfScope]
  rfl

/-- The header of a modified entry shows the item before, so it is another the other way round. -/
theorem diff_mirror_header :
    ¬ ∀ (orders orders' : DiffOrders Uuid Constraint) (before after : List Constraint),
      (diffConstraints orders.before orders.after after before).Perm
        ((diffConstraints orders'.before orders'.after before after).map fun d =>
          { d with toItemChange := d.toItemChange.mirror }) := by
  intro h
  let tokens : Constraint :=
    ⟨some 1, .functional, "max_tokens", .lte, .number (.posInt 100), none, .must⟩
  let cost : Constraint := { tokens with key := "max_cost" }
  have hperm := (h ⟨.id _, .id _⟩ ⟨.id _, .id _⟩ [tokens] [cost]).map ConstraintDiff.key
  have hbefore : (diffConstraints (.id _) (.id _) [cost] [tokens]).map ConstraintDiff.key =
      ["max_cost"] := by decide +kernel
  have hafter : ((diffConstraints (.id _) (.id _) [tokens] [cost]).map fun d =>
      { d with toItemChange := d.toItemChange.mirror }).map ConstraintDiff.key =
      ["max_tokens"] := by decide +kernel
  rw [hbefore, hafter] at hperm
  exact absurd (List.perm_singleton.mp hperm) (by decide)

end Mirror

end IntentRebase
