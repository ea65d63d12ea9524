import Mathlib.Data.Finset.Card
import IntentRebase.Kit.OrderBy

/-! Groups of items by a key, as `GROUP BY` counts them, and a sort whose order is given apart from
the key: when relabelled groups are those of the labels, and when the order in which the groups are
read does not show. -/

namespace Kit

variable {α β κ κ' : Type}

/-- The order that turns the entries around. -/
def IterOrder.reverse (α : Type) : IterOrder α := ⟨List.reverse, List.reverse_perm⟩

section Sorting

variable [LinearOrder β] {key : α → β} {le : α → α → Bool} {items items' : List α}

/-- A sort that never puts a larger key before a smaller one sorts by the key. -/
theorem mergeSort_eq_orderBy (trans : ∀ a b c, le a b = true → le b c = true → le a c = true)
    (total : ∀ a b, (le a b || le b a) = true) (h : items'.Perm items)
    (hkey : ∀ a ∈ items, ∀ b ∈ items, key a = key b → a = b)
    (hle : ∀ a ∈ items, ∀ b ∈ items, key a < key b → le b a = false) :
    items'.mergeSort le = orderBy key items := by
  have hmem : ∀ {a}, a ∈ items'.mergeSort le → a ∈ items := fun ha =>
    h.mem_iff.mp ((List.mergeSort_perm _ _).mem_iff.mp ha)
  have hsorted : (items'.mergeSort le).Pairwise fun a b => key a ≤ key b := by
    refine (List.pairwise_mergeSort trans total items').imp_of_mem fun {a b} ha hb hab => ?_
    by_contra hlt
    rw [hle b (hmem hb) a (hmem ha) (not_le.mp hlt)] at hab
    exact Bool.false_ne_true hab
  refine List.Perm.eq_of_pairwise ?_ hsorted (orderBy_pairwise key items)
    (((List.mergeSort_perm _ _).trans h).trans (orderBy_perm key items).symm)
  intro a b ha hb hab hba
  exact hkey a (hmem ha) b (mem_orderBy.mp hb) (le_antisymm hab hba)

/-- If a list and its reverse are sorted by the key, no larger key may come before a smaller. -/
theorem le_eq_false_of_mergeSort (trans : ∀ a b c, le a b = true → le b c = true → le a c = true)
    (total : ∀ a b, (le a b || le b a) = true)
    (h : items'.mergeSort le = orderBy key items)
    (hreverse : items'.reverse.mergeSort le = orderBy key items) {a b : α} (ha : a ∈ items')
    (hb : b ∈ items') (hlt : key a < key b) : le b a = false := by
  by_contra hba
  rw [Bool.not_eq_false] at hba
  -- The pair of both is a part of the list or of its reverse, and a stable sort keeps it.
  have hpair : [b, a].Sublist (orderBy key items) := by
    obtain ⟨before, after, rfl⟩ := List.append_of_mem ha
    rcases List.mem_append.mp hb with hbefore | hafter
    · have hsub : [b, a].Sublist (before ++ a :: after) :=
        (List.singleton_sublist.mpr hbefore).append (List.singleton_sublist.mpr List.mem_cons_self)
      exact h ▸ List.pair_sublist_mergeSort trans total hba hsub
    · have hne : b ≠ a := fun heq => absurd (heq ▸ hlt) (lt_irrefl _)
      have hsub : [b, a].Sublist (before ++ a :: after).reverse := by
        rw [← List.reverse_sublist, List.reverse_reverse]
        exact (((List.singleton_sublist.mpr ((List.mem_cons.mp hafter).resolve_left hne)).cons_cons
          a)).trans (List.sublist_append_right before _)
      exact hreverse ▸ List.pair_sublist_mergeSort trans total hba hsub
  have hle := List.pairwise_pair.mp ((orderBy_pairwise key items).sublist hpair)
  exact absurd hle (not_le.mpr hlt)

/-- A sorted list that is its own reverse has one item at most, repeated. -/
theorem eq_of_sorted_reverse {sorted : List β} (h : sorted.Pairwise (· ≤ ·))
    (hreverse : sorted.reverse = sorted) {a b : β} (ha : a ∈ sorted) (hb : b ∈ sorted) :
    a = b := by
  have hdown : sorted.Pairwise fun a b => b ≤ a := by
    rw [← hreverse]
    exact List.pairwise_reverse.mpr h
  have heq : sorted.Pairwise (· = ·) := (h.and hdown).imp fun hab => le_antisymm hab.1 hab.2
  exact heq.forall_of_forall (fun _ _ => rfl) ha hb

end Sorting

section Groups

theorem nodup_pairs (m : HashMap κ β) : (pairs m).Nodup := .of_map _ (nodup_pairs_keys m)

variable [DecidableEq κ] [DecidableEq κ'] {key : α → κ} {items items' : List α}

theorem mem_pairs_countBy {k : κ} {n : Nat} :
    (k, n) ∈ pairs (countBy key items) ↔
      (∃ a ∈ items, key a = k) ∧ items.countP (fun a => key a = k) = n := by
  rw [mem_pairs, countBy, lookup_foldl_count, AList.lookup_empty]
  have hpos : 0 < items.countP (fun a => key a = k) ↔ ∃ a ∈ items, key a = k := by
    simp [List.countP_pos_iff]
  rw [← hpos]
  split
  · next hzero => simp [hzero]
  · next hzero => simp [Nat.pos_of_ne_zero hzero]

theorem countBy_perm (h : items.Perm items') :
    (pairs (countBy key items)).Perm (pairs (countBy key items')) := by
  refine (List.perm_ext_iff_of_nodup (nodup_pairs _) (nodup_pairs _)).mpr ?_
  rintro ⟨k, n⟩
  rw [mem_pairs_countBy, mem_pairs_countBy, h.countP_eq]
  simp only [h.mem_iff]

theorem length_countBy : (pairs (countBy key items)).length = (items.map key).toFinset.card := by
  have hkeys : ((pairs (countBy key items)).map Prod.fst).toFinset = (items.map key).toFinset := by
    ext k
    simp only [List.mem_toFinset, List.mem_map, Prod.exists, exists_and_right, exists_eq_right,
      mem_pairs_countBy, exists_eq_right']
  rw [← hkeys, List.toFinset_card_of_nodup (nodup_pairs_keys _), List.length_map]

variable {label : κ → κ'}

/-- Where the labels tell the keys apart, the labelled groups are the groups of the labels. -/
theorem countBy_label
    (h : ∀ a ∈ items, ∀ b ∈ items, label (key a) = label (key b) → key a = key b) :
    ((pairs (countBy key items)).map fun p => (label p.1, p.2)).Perm
      (pairs (countBy (fun a => label (key a)) items)) := by
  have hcount : ∀ a ∈ items, items.countP (fun b => label (key b) = label (key a)) =
      items.countP fun b => key b = key a := by
    intro a ha
    refine List.countP_congr fun b hb => ?_
    simpa using ⟨h b hb a ha, congrArg label⟩
  have hnodup : ((pairs (countBy key items)).map fun p => (label p.1, p.2)).Nodup := by
    refine List.Nodup.map_on ?_ (nodup_pairs _)
    rintro ⟨k, n⟩ hk ⟨k', n'⟩ hk' heq
    obtain ⟨⟨a, ha, rfl⟩, -⟩ := mem_pairs_countBy.mp hk
    obtain ⟨⟨b, hb, rfl⟩, -⟩ := mem_pairs_countBy.mp hk'
    obtain ⟨hlabel, rfl⟩ := Prod.mk.inj heq
    rw [h a ha b hb hlabel]
  refine (List.perm_ext_iff_of_nodup hnodup (nodup_pairs _)).mpr ?_
  rintro ⟨l, n⟩
  rw [mem_pairs_countBy, List.mem_map]
  constructor
  · rintro ⟨⟨k, m⟩, hk, heq⟩
    obtain ⟨⟨a, ha, rfl⟩, rfl⟩ := mem_pairs_countBy.mp hk
    obtain ⟨rfl, rfl⟩ := Prod.mk.inj heq
    exact ⟨⟨a, ha, rfl⟩, hcount a ha⟩
  · rintro ⟨⟨a, ha, rfl⟩, rfl⟩
    exact ⟨(key a, _), mem_pairs_countBy.mpr ⟨⟨a, ha, rfl⟩, rfl⟩, by rw [hcount a ha]⟩

/-- If there are as many groups of the labels as of the keys, the labels tell the keys apart. -/
theorem label_injective_of_length
    (h : (pairs (countBy key items)).length =
      (pairs (countBy (fun a => label (key a)) items)).length) {a b : α} (ha : a ∈ items)
    (hb : b ∈ items) (hlabel : label (key a) = label (key b)) : key a = key b := by
  have himage : (items.map fun a => label (key a)).toFinset =
      (items.map key).toFinset.image label := by
    ext l
    simp
  rw [length_countBy, length_countBy, himage] at h
  have hinjective := Finset.card_image_iff.mp h.symm
  exact hinjective (by simpa using ⟨a, ha, rfl⟩) (by simpa using ⟨b, hb, rfl⟩) hlabel

end Groups

theorem min?_perm [LinearOrder β] {items items' : List β} (h : items.Perm items') :
    items.min? = items'.min? := by
  have hmin : ∀ {items : List β} {a : β},
      items.min? = some a ↔ a ∈ items ∧ ∀ b ∈ items, a ≤ b := List.min?_eq_some_iff
  refine Option.ext fun a => ?_
  rw [hmin, hmin]
  simp only [h.mem_iff]

end Kit
