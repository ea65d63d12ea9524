import IntentRebase.Engine.Diff
import Mathlib.Algebra.Order.Group.Multiset
import Mathlib.Tactic.Abel

/-! The semantic diff is a patch: it takes the list before to the list after, up to the equality of
items that the diff itself uses, and it modifies only what it can identify. -/

namespace IntentRebase

open Kit

/-- `diffs` takes the items `before` to the items `after`: what it removes was there, what is kept
and what it adds are together the items `after` up to `equal`, and it modifies an item only under a
key that each list has exactly once. -/
structure IsPatch {α κ δ : Type} [DecidableEq κ] (key : α → Option κ) (equal : α → α → Bool)
    (entryKey : δ → Option κ) (change : δ → ItemChange α) (before after : List α)
    (diffs : List δ) : Prop where
  balance : ∃ kept : Multiset α,
    (before : Multiset α) = ↑(diffs.filterMap fun d => (change d).removedItem) + kept ∧
    Multiset.Rel (fun a b => equal a b = true)
      (kept + ↑(diffs.filterMap fun d => (change d).addedItem)) ↑after
  presence : ∀ d ∈ diffs,
    ((change d).before.isSome ↔ (change d).changeType ≠ .added) ∧
    ((change d).after.isSome ↔ (change d).changeType ≠ .removed)
  modified : ∀ d ∈ diffs, (change d).changeType = .modified → ∃ k b a,
    entryKey d = some k ∧ change d = ⟨.modified, some b, some a⟩ ∧ equal b a = false ∧
    b ∈ before ∧ key b = some k ∧ before.countP (fun c => key c = some k) = 1 ∧
    a ∈ after ∧ key a = some k ∧ after.countP (fun c => key c = some k) = 1

section Items

variable {α : Type} (b a : Option α)

@[simp] theorem removedItem_modified : (ItemChange.mk .modified b a).removedItem = b := rfl

@[simp] theorem removedItem_removed : (ItemChange.mk .removed b a).removedItem = b := rfl

@[simp] theorem removedItem_added : (ItemChange.mk .added b a).removedItem = none := rfl

@[simp] theorem addedItem_modified : (ItemChange.mk .modified b a).addedItem = a := rfl

@[simp] theorem addedItem_removed : (ItemChange.mk .removed b a).addedItem = none := rfl

@[simp] theorem addedItem_added : (ItemChange.mk .added b a).addedItem = a := rfl

end Items

section Keys

variable {α κ : Type} {key : α → Option κ}

theorem mem_keyed {items : List α} {k : κ} {a : α} :
    (k, a) ∈ keyed key items ↔ a ∈ items ∧ key a = some k := by
  simp only [keyed, List.mem_filterMap, Option.map_eq_some_iff, Prod.mk.injEq]
  constructor
  · rintro ⟨a', hmem, k', hk, rfl, rfl⟩
    exact ⟨hmem, hk⟩
  · rintro ⟨hmem, hk⟩
    exact ⟨a, hmem, k, hk, rfl, rfl⟩

theorem keyed_keys (items : List α) : (keyed key items).map Prod.fst = items.filterMap key := by
  rw [keyed, List.map_filterMap]
  congr 1
  funext a
  cases key a <;> rfl

end Keys

section Entries

variable {α β κ : Type} {equal : α → α → Bool}

theorem filterMap_removedItem_matched (matched : List (κ × α × α)) :
    (matched.filterMap (matchedChange equal)).filterMap (fun c => c.toItemChange.removedItem) =
      (matched.filter fun m => !equal m.2.1 m.2.2).map fun m => m.2.1 := by
  induction matched with
  | nil => rfl
  | cons m rest ih =>
    cases h : equal m.2.1 m.2.2 with
    | true => simp [matchedChange, h, ih]
    | false => simp [matchedChange, h, ih]

theorem filterMap_addedItem_matched (matched : List (κ × α × α)) :
    (matched.filterMap (matchedChange equal)).filterMap (fun c => c.toItemChange.addedItem) =
      (matched.filter fun m => !equal m.2.1 m.2.2).map fun m => m.2.2 := by
  induction matched with
  | nil => rfl
  | cons m rest ih =>
    cases h : equal m.2.1 m.2.2 with
    | true => simp [matchedChange, h, ih]
    | false => simp [matchedChange, h, ih]

theorem filterMap_removedItem_removed (id : β → Option κ) (item : β → α) (l : List β) :
    (l.map fun p => removedChange (id p) (item p)).filterMap
      (fun c => c.toItemChange.removedItem) = l.map item := by
  induction l with
  | nil => rfl
  | cons p rest ih => simpa [removedChange] using ih

theorem filterMap_removedItem_added (id : β → Option κ) (item : β → α) (l : List β) :
    (l.map fun p => addedChange (id p) (item p)).filterMap
      (fun c => c.toItemChange.removedItem) = [] := by
  simp [List.filterMap_eq_nil_iff, addedChange]

theorem filterMap_addedItem_removed (id : β → Option κ) (item : β → α) (l : List β) :
    (l.map fun p => removedChange (id p) (item p)).filterMap
      (fun c => c.toItemChange.addedItem) = [] := by
  simp [List.filterMap_eq_nil_iff, removedChange]

theorem filterMap_addedItem_added (id : β → Option κ) (item : β → α) (l : List β) :
    (l.map fun p => addedChange (id p) (item p)).filterMap
      (fun c => c.toItemChange.addedItem) = l.map item := by
  induction l with
  | nil => rfl
  | cons p rest ih => simpa [addedChange] using ih

theorem matchedChange_eq_some {m : κ × α × α} {d : KeyedChange κ α}
    (h : matchedChange equal m = some d) :
    equal m.2.1 m.2.2 = false ∧ d.id = some m.1 ∧
      d.toItemChange = ⟨.modified, some m.2.1, some m.2.2⟩ := by
  unfold matchedChange at h
  split at h
  · cases h
  · next hne =>
    obtain rfl := Option.some.inj h
    exact ⟨by simpa using hne, rfl, rfl⟩

/-- The matched items are those that are equal and those that are not. -/
theorem matched_perm (equal : α → α → Bool) (side : κ × α × α → α) (matched : List (κ × α × α)) :
    ((matched.filter fun m => equal m.2.1 m.2.2).map side ++
      (matched.filter fun m => !equal m.2.1 m.2.2).map side).Perm (matched.map side) := by
  rw [← List.map_append]
  exact (List.filter_append_perm _ matched).map side

/-- One side of a diff: the items of the entries, and those of the equal matched pairs, are the
whole list. -/
theorem side_balance (side : κ × α × α → α) {matched : List (κ × α × α)}
    {unmatched items ambiguous l : List α} (hsplit : (matched.map side ++ unmatched).Perm items)
    (hl : (items ++ ambiguous).Perm l) :
    (↑((matched.filter fun m => !equal m.2.1 m.2.2).map side ++ unmatched ++ ambiguous) +
      ↑((matched.filter fun m => equal m.2.1 m.2.2).map side) : Multiset α) = ↑l := by
  have hmatched := Multiset.coe_eq_coe.mpr (matched_perm equal side matched)
  have hitems := Multiset.coe_eq_coe.mpr hsplit
  have hlist := Multiset.coe_eq_coe.mpr hl
  simp only [← Multiset.coe_add] at hmatched hitems hlist ⊢
  rw [← hlist, ← hitems, ← hmatched]
  abel

end Entries

section Keyed

variable {α κ : Type} [LinearOrder κ] {key : α → Option κ} {equal : α → α → Bool}

theorem hasUniqueKey_iff {items : List α} {a : α} :
    hasUniqueKey key (countBy key items) a = true ↔
      ∃ k, key a = some k ∧ items.countP (fun c => key c = some k) = 1 := by
  unfold hasUniqueKey
  cases h : key a with
  | none => simp
  | some k => simp [lookup_countBy_one]

/-- The items whose key is theirs alone, in a list. -/
def uniqueItems (key : α → Option κ) (items : List α) : List α :=
  items.filter (hasUniqueKey key (countBy key items))

/-- The items without a key of their own. -/
def ambiguousItems (key : α → Option κ) (items : List α) : List α :=
  items.filter fun a => !hasUniqueKey key (countBy key items) a

/-- Every item with a key of its own is keyed. -/
theorem keyed_unique_items (items : List α) :
    (keyed key (uniqueItems key items)).map Prod.snd = uniqueItems key items := by
  have hkeyed : ∀ l : List α, (∀ a ∈ l, ∃ k, key a = some k) → (keyed key l).map Prod.snd = l := by
    intro l hl
    induction l with
    | nil => rfl
    | cons a rest ih =>
      obtain ⟨k, hk⟩ := hl a List.mem_cons_self
      have hrest := ih fun b hb => hl b (List.mem_cons_of_mem _ hb)
      simp only [keyed] at hrest
      simp [keyed, hk, hrest]
  refine hkeyed _ fun a ha => ?_
  obtain ⟨k, hk, _⟩ := hasUniqueKey_iff.mp (List.mem_filter.mp ha).2
  exact ⟨k, hk⟩

/-- No two of them have the same key. -/
theorem nodup_keyed_unique (items : List α) :
    ((keyed key (uniqueItems key items)).map Prod.fst).Nodup := by
  rw [keyed_keys, List.nodup_iff_count_le_one]
  intro k
  by_cases hk : k ∈ (uniqueItems key items).filterMap key
  · obtain ⟨a, ha, hkey⟩ := List.mem_filterMap.mp hk
    obtain ⟨k', hk', hcount⟩ := hasUniqueKey_iff.mp (List.mem_filter.mp ha).2
    obtain rfl : k' = k := Option.some.inj (hk'.symm.trans hkey)
    have hfilter : (uniqueItems key items).Sublist items := List.filter_sublist
    rw [List.count_filterMap]
    calc (uniqueItems key items).countP (fun b => key b == some k')
        = (uniqueItems key items).countP (fun b => key b = some k') :=
          List.countP_congr fun b _ => by simp
      _ ≤ items.countP (fun b => key b = some k') := hfilter.countP_le
      _ ≤ 1 := hcount.le
  · rw [List.count_eq_zero_of_not_mem hk]
    exact Nat.zero_le 1

variable (key equal) in
/-- The diff sorts the entries of two lists of items with distinct keys and of the rest. -/
theorem diffByKey_perm (beforeOrder afterOrder : IterOrder (κ × α)) (before after : List α) :
    ∃ (beforeItems afterItems : List (κ × α)) (right : HashMap κ α),
      beforeItems.Perm (keyed key (uniqueItems key before)) ∧
      afterItems.Perm (pairs right) ∧
      afterItems.Perm (keyed key (uniqueItems key after)) ∧
      (diffByKey key equal beforeOrder afterOrder before after).Perm
        (unsortedChanges key equal beforeItems afterItems (join beforeItems right)
          (ambiguousItems key before) (ambiguousItems key after)) := by
  refine ⟨beforeOrder.apply (pairs (ofPairs (keyed key (uniqueItems key before)))),
    afterOrder.apply (pairs (ofPairs (keyed key (uniqueItems key after)))),
    ofPairs (keyed key (uniqueItems key after)), ?_, ?_, ?_, ?_⟩
  · exact (beforeOrder.perm _).trans (pairs_ofPairs (nodup_keyed_unique before))
  · exact afterOrder.perm _
  · exact (afterOrder.perm _).trans (pairs_ofPairs (nodup_keyed_unique after))
  · unfold diffByKey
    simp only [List.partition_eq_filter_filter]
    exact List.perm_insertionSort _ _

/-- A list is its items with a key of their own, in any order, and the rest. -/
theorem unique_ambiguous_perm {items : List α} {keyedItems : List (κ × α)}
    (h : keyedItems.Perm (keyed key (uniqueItems key items))) :
    (keyedItems.map Prod.snd ++ ambiguousItems key items).Perm items := by
  have hunique := h.map Prod.snd
  rw [keyed_unique_items] at hunique
  exact (hunique.append_right _).trans (List.filter_append_perm _ items)

theorem IsPatch.of_perm {δ : Type} {entryKey : δ → Option κ} {change : δ → ItemChange α}
    {before after : List α} {diffs diffs' : List δ} (hp : diffs.Perm diffs')
    (h : IsPatch key equal entryKey change before after diffs') :
    IsPatch key equal entryKey change before after diffs := by
  obtain ⟨kept, hbefore, hafter⟩ := h.balance
  refine ⟨⟨kept, ?_, ?_⟩, ?_, ?_⟩
  · rw [hbefore, Multiset.coe_eq_coe.mpr (hp.filterMap _)]
  · rwa [Multiset.coe_eq_coe.mpr (hp.filterMap _)]
  · exact fun d hd => h.presence d (hp.mem_iff.mp hd)
  · exact fun d hd => h.modified d (hp.mem_iff.mp hd)

theorem removedItems_unsorted (beforeItems afterItems : List (κ × α))
    (matched : List (κ × α × α)) (beforeAmbiguous afterAmbiguous : List α) :
    (unsortedChanges key equal beforeItems afterItems matched beforeAmbiguous
      afterAmbiguous).filterMap
      (fun c => c.toItemChange.removedItem) =
    (matched.filter fun m => !equal m.2.1 m.2.2).map (fun m => m.2.1) ++
      (beforeItems.filter fun p => p.1 ∉ matched.map Prod.fst).map Prod.snd ++
      beforeAmbiguous := by
  simp only [unsortedChanges, List.filterMap_append, filterMap_removedItem_matched,
    filterMap_removedItem_removed, filterMap_removedItem_added, List.append_nil, List.map_id']

theorem addedItems_unsorted (beforeItems afterItems : List (κ × α))
    (matched : List (κ × α × α)) (beforeAmbiguous afterAmbiguous : List α) :
    (unsortedChanges key equal beforeItems afterItems matched beforeAmbiguous
      afterAmbiguous).filterMap
      (fun c => c.toItemChange.addedItem) =
    (matched.filter fun m => !equal m.2.1 m.2.2).map (fun m => m.2.2) ++
      (afterItems.filter fun p => p.1 ∉ matched.map Prod.fst).map Prod.snd ++
      afterAmbiguous := by
  simp only [unsortedChanges, List.filterMap_append, filterMap_addedItem_matched,
    filterMap_addedItem_removed, filterMap_addedItem_added, List.append_nil, List.map_id']

/-- An entry is of a matched pair of unequal items, of a removed item, or of an added item. -/
theorem mem_unsorted {beforeItems afterItems : List (κ × α)} {matched : List (κ × α × α)}
    {beforeAmbiguous afterAmbiguous : List α} {d : KeyedChange κ α}
    (h : d ∈ unsortedChanges key equal beforeItems afterItems matched beforeAmbiguous
      afterAmbiguous) :
    (∃ m ∈ matched, matchedChange equal m = some d) ∨
    (∃ id item, d = removedChange id item) ∨ ∃ id item, d = addedChange id item := by
  simp only [unsortedChanges, List.mem_append, List.mem_filterMap, List.mem_map] at h
  obtain (((hm | ⟨p, _, rfl⟩) | ⟨p, _, rfl⟩) | ⟨c, _, rfl⟩) | ⟨c, _, rfl⟩ := h
  · exact .inl hm
  · exact .inr (.inl ⟨_, _, rfl⟩)
  · exact .inr (.inr ⟨_, _, rfl⟩)
  · exact .inr (.inl ⟨_, _, rfl⟩)
  · exact .inr (.inr ⟨_, _, rfl⟩)

theorem mem_keyed_unique {items : List α} {k : κ} {a : α}
    (h : (k, a) ∈ keyed key (uniqueItems key items)) :
    a ∈ items ∧ key a = some k ∧ items.countP (fun c => key c = some k) = 1 := by
  obtain ⟨hmem, hk⟩ := mem_keyed.mp h
  obtain ⟨hitem, hunique⟩ := List.mem_filter.mp hmem
  obtain ⟨k', hk', hcount⟩ := hasUniqueKey_iff.mp hunique
  obtain rfl : k' = k := Option.some.inj (hk'.symm.trans hk)
  exact ⟨hitem, hk, hcount⟩

/-- The diff of two lists by key is a patch, whatever the iteration orders. -/
theorem diffByKey_isPatch (hrefl : ∀ a, equal a a = true)
    (beforeOrder afterOrder : IterOrder (κ × α)) (before after : List α) :
    IsPatch key equal KeyedChange.id KeyedChange.toItemChange before after
      (diffByKey key equal beforeOrder afterOrder before after) := by
  obtain ⟨beforeItems, afterItems, right, hbefore, hright, hafter, hperm⟩ :=
    diffByKey_perm key equal beforeOrder afterOrder before after
  have hnd : (beforeItems.map Prod.fst).Nodup :=
    (hbefore.map Prod.fst).nodup_iff.mpr (nodup_keyed_unique before)
  have hleftSplit := (join_left right hnd).map Prod.snd
  have hrightSplit := (join_right right hnd hright).map Prod.snd
  rw [List.map_append, List.map_map] at hleftSplit hrightSplit
  refine IsPatch.of_perm hperm ⟨?_, ?_, ?_⟩
  · refine ⟨↑(((join beforeItems right).filter fun m => equal m.2.1 m.2.2).map fun m => m.2.1),
      ?_, ?_⟩
    · rw [removedItems_unsorted]
      exact (side_balance _ hleftSplit (unique_ambiguous_perm hbefore)).symm
    · have hkept : Multiset.Rel (fun a b => equal a b = true)
          ↑(((join beforeItems right).filter fun m => equal m.2.1 m.2.2).map fun m => m.2.1)
          ↑(((join beforeItems right).filter fun m => equal m.2.1 m.2.2).map fun m => m.2.2) := by
        rw [← Multiset.map_coe, ← Multiset.map_coe, Multiset.rel_map]
        exact Multiset.rel_refl_of_refl_on fun m hm => (List.mem_filter.mp hm).2
      rw [addedItems_unsorted, add_comm,
        ← side_balance _ hrightSplit (unique_ambiguous_perm hafter)]
      exact (Multiset.rel_refl_of_refl_on fun a _ => hrefl a).add hkept
  · intro d hd
    rcases mem_unsorted hd with ⟨m, _, hm⟩ | ⟨id, item, rfl⟩ | ⟨id, item, rfl⟩
    · rw [(matchedChange_eq_some hm).2.2]
      simp
    · simp [removedChange]
    · simp [addedChange]
  · intro d hd hmodified
    rcases mem_unsorted hd with ⟨m, hmatched, hm⟩ | ⟨id, item, rfl⟩ | ⟨id, item, rfl⟩
    · obtain ⟨hne, hid, hchange⟩ := matchedChange_eq_some hm
      obtain ⟨k, b, a⟩ := m
      obtain ⟨hb, ha⟩ := mem_join.mp hmatched
      obtain ⟨hbMem, hbKey, hbCount⟩ := mem_keyed_unique (hbefore.mem_iff.mp hb)
      have haItems : (k, a) ∈ afterItems := hright.mem_iff.mpr (mem_pairs.mpr ha)
      obtain ⟨haMem, haKey, haCount⟩ := mem_keyed_unique (hafter.mem_iff.mp haItems)
      exact ⟨k, b, a, hid, hchange, hne, hbMem, hbKey, hbCount, haMem, haKey, haCount⟩
    · cases hmodified
    · cases hmodified

/-- The id of an entry is the key of the item it shows. -/
theorem diffByKey_id {beforeOrder afterOrder : IterOrder (κ × α)} {before after : List α}
    {d : KeyedChange κ α} (h : d ∈ diffByKey key equal beforeOrder afterOrder before after) :
    d.id = key d.item := by
  obtain ⟨beforeItems, afterItems, right, hbefore, _, hafter, hperm⟩ :=
    diffByKey_perm key equal beforeOrder afterOrder before after
  have hbeforeKey : ∀ p ∈ beforeItems, key p.2 = some p.1 := fun p hp =>
    (mem_keyed_unique (hbefore.mem_iff.mp hp)).2.1
  have hafterKey : ∀ p ∈ afterItems, key p.2 = some p.1 := fun p hp =>
    (mem_keyed_unique (hafter.mem_iff.mp hp)).2.1
  have hd := hperm.mem_iff.mp h
  simp only [unsortedChanges, List.mem_append, List.mem_filterMap, List.mem_map,
    List.mem_filter] at hd
  obtain (((⟨m, hm, hd⟩ | ⟨p, ⟨hp, _⟩, rfl⟩) | ⟨p, ⟨hp, _⟩, rfl⟩) | ⟨c, _, rfl⟩) | ⟨c, _, rfl⟩ := hd
  · obtain ⟨k, b, a⟩ := m
    unfold matchedChange at hd
    split at hd
    · cases hd
    · obtain rfl := Option.some.inj hd
      exact (hbeforeKey _ (mem_join.mp hm).1).symm
  · exact (hbeforeKey p hp).symm
  · exact (hafterKey p hp).symm
  · rfl
  · rfl

/-- Entries that show the same changes under the same keys are the same patch. -/
theorem IsPatch.map {δ ε : Type} {entryKey : δ → Option κ} {change : δ → ItemChange α}
    {entryKey' : ε → Option κ} {change' : ε → ItemChange α} {before after : List α}
    {diffs : List δ} (f : δ → ε) (h : IsPatch key equal entryKey change before after diffs)
    (hkey : ∀ d ∈ diffs, entryKey' (f d) = entryKey d) (hchange : ∀ d, change' (f d) = change d) :
    IsPatch key equal entryKey' change' before after (diffs.map f) := by
  refine ⟨?_, ?_, ?_⟩
  · simpa [List.filterMap_map, Function.comp_def, hchange] using h.balance
  · simpa [hchange] using h.presence
  · intro e he hmodified
    obtain ⟨d, hd, rfl⟩ := List.mem_map.mp he
    rw [hchange] at hmodified ⊢
    rw [hkey d hd]
    exact h.modified d hd hmodified

end Keyed

theorem constraintsEqual_refl (a : Constraint) : constraintsEqual a a = true := by
  simp [constraintsEqual]

theorem diffConstraints_isPatch (beforeOrder afterOrder : IterOrder (Uuid × Constraint))
    (before after : List Constraint) :
    IsPatch Constraint.clauseId constraintsEqual ConstraintDiff.clauseId
      ConstraintDiff.toItemChange before after
      (diffConstraints beforeOrder afterOrder before after) :=
  (diffByKey_isPatch constraintsEqual_refl beforeOrder afterOrder before after).map _
    (fun _ _ => rfl) fun _ => rfl

theorem diffAcceptanceCriteria_isPatch
    (beforeOrder afterOrder : IterOrder (Uuid × AcceptanceCriterion))
    (before after : List AcceptanceCriterion) :
    IsPatch AcceptanceCriterion.clauseId acceptanceCriteriaEqual AcceptanceCriterionDiff.clauseId
      AcceptanceCriterionDiff.toItemChange before after
      (diffAcceptanceCriteria beforeOrder afterOrder before after) :=
  (diffByKey_isPatch (by simp [acceptanceCriteriaEqual]) beforeOrder afterOrder before after).map _
    (fun _ _ => rfl) fun _ => rfl

/-- The key an entry for an action reference is listed under. -/
def ActionRefDiff.entryKey (d : ActionRefDiff) : Option ActionKey :=
  some (toLex (d.action, noneFirst d.target))

theorem diffActionRefs_isPatch (beforeOrder afterOrder : IterOrder (ActionKey × ActionRef))
    (before after : List ActionRef) :
    IsPatch (fun a => some a.matchKey) actionRefsEqual ActionRefDiff.entryKey
      ActionRefDiff.toItemChange before after
      (diffActionRefs beforeOrder afterOrder before after) :=
  (diffByKey_isPatch (by simp [actionRefsEqual]) beforeOrder afterOrder before after).map _
    (fun _ hd => (diffByKey_id hd).symm) fun _ => rfl

theorem diffApprovalRules_isPatch (beforeOrder afterOrder : IterOrder (String × ApprovalRuleRef))
    (before after : List ApprovalRuleRef) :
    IsPatch (fun a => some a.ruleId) approvalRulesEqual (fun d => some d.ruleId)
      ApprovalRuleDiff.toItemChange before after
      (diffApprovalRules beforeOrder afterOrder before after) :=
  (diffByKey_isPatch (by simp [approvalRulesEqual]) beforeOrder afterOrder before after).map _
    (fun _ hd => (diffByKey_id hd).symm) fun _ => rfl

/-- Each of the four diffs by identity is a patch. -/
theorem diff_isPatch :
    (∀ (beforeOrder afterOrder : IterOrder (Uuid × Constraint)) (before after : List Constraint),
      IsPatch Constraint.clauseId constraintsEqual ConstraintDiff.clauseId
        ConstraintDiff.toItemChange before after
        (diffConstraints beforeOrder afterOrder before after)) ∧
    (∀ (beforeOrder afterOrder : IterOrder (Uuid × AcceptanceCriterion))
      (before after : List AcceptanceCriterion),
      IsPatch AcceptanceCriterion.clauseId acceptanceCriteriaEqual
        AcceptanceCriterionDiff.clauseId AcceptanceCriterionDiff.toItemChange before after
        (diffAcceptanceCriteria beforeOrder afterOrder before after)) ∧
    (∀ (beforeOrder afterOrder : IterOrder (ActionKey × ActionRef)) (before after : List ActionRef),
      IsPatch (fun a => some a.matchKey) actionRefsEqual ActionRefDiff.entryKey
        ActionRefDiff.toItemChange before after
        (diffActionRefs beforeOrder afterOrder before after)) ∧
    (∀ (beforeOrder afterOrder : IterOrder (String × ApprovalRuleRef))
      (before after : List ApprovalRuleRef),
      IsPatch (fun a => some a.ruleId) approvalRulesEqual (fun d => some d.ruleId)
        ApprovalRuleDiff.toItemChange before after
        (diffApprovalRules beforeOrder afterOrder before after)) :=
  ⟨diffConstraints_isPatch, diffAcceptanceCriteria_isPatch, diffActionRefs_isPatch,
    diffApprovalRules_isPatch⟩

end IntentRebase
