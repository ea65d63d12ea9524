import Mathlib.Data.List.Sort
import IntentRebase.Kit.HashMap

/-! Listings in the order of a key that tells the items apart, as `ORDER BY` makes them: the order
in which the items are read does not show. -/

namespace Kit

variable {α β γ κ ν ρ : Type} [LinearOrder β]

/-- The items in the order of a key. -/
def orderBy (key : α → β) (items : List α) : List α := items.mergeSort fun a b => key a ≤ key b

theorem orderBy_perm (key : α → β) (items : List α) : (orderBy key items).Perm items :=
  List.mergeSort_perm _ _

theorem mem_orderBy {key : α → β} {items : List α} {a : α} :
    a ∈ orderBy key items ↔ a ∈ items := (orderBy_perm key items).mem_iff

theorem length_orderBy (key : α → β) (items : List α) :
    (orderBy key items).length = items.length := (orderBy_perm key items).length_eq

theorem orderBy_pairwise (key : α → β) (items : List α) :
    (orderBy key items).Pairwise fun a b => key a ≤ key b := by
  have h : (items.mergeSort fun a b => decide (key a ≤ key b)).Pairwise
      fun a b => decide (key a ≤ key b) = true :=
    List.pairwise_mergeSort
      (fun a b c hab hbc => decide_eq_true ((of_decide_eq_true hab).trans (of_decide_eq_true hbc)))
      (fun a b => by simpa using le_total (key a) (key b)) items
  exact h.imp of_decide_eq_true

theorem orderBy_map (key : α → β) (f : γ → α) (items : List γ) :
    orderBy key (items.map f) = (orderBy (key ∘ f) items).map f :=
  (List.map_mergeSort (f := f) fun _ _ _ _ => rfl).symm

/-- Where the key tells the items apart, rearrangements are listed alike. -/
theorem orderBy_eq_of_perm {key : α → β} {items items' : List α} (h : items.Perm items')
    (hkey : ∀ a ∈ items, ∀ b ∈ items, key a = key b → a = b) :
    orderBy key items = orderBy key items' := by
  refine List.Perm.eq_of_pairwise ?_ (orderBy_pairwise key items) (orderBy_pairwise key items')
    (((orderBy_perm key items).trans h).trans (orderBy_perm key items').symm)
  intro a b ha hb hab hba
  exact hkey a (mem_orderBy.mp ha) b (h.mem_iff.mpr (mem_orderBy.mp hb)) (le_antisymm hab hba)

/-- Rearrangements are listed with the same keys, place by place. -/
theorem orderBy_keys (key : α → β) {items items' : List α} (h : items.Perm items') :
    (orderBy key items).map key = (orderBy key items').map key := by
  refine List.Perm.eq_of_pairwise (fun a b _ _ hab hba => le_antisymm hab hba)
    (List.pairwise_map.mpr (orderBy_pairwise key items))
    (List.pairwise_map.mpr (orderBy_pairwise key items')) ?_
  exact (((orderBy_perm key items).trans h).trans (orderBy_perm key items').symm).map key

/-- Of the items before one of the first `n`, there are fewer than `n`. -/
theorem length_filter_lt_of_mem_take {key : α → β} {items : List α} {n : Nat} {a : α}
    (h : a ∈ (orderBy key items).take n) :
    (items.filter fun b => key b < key a).length < n := by
  have hsorted := orderBy_pairwise key items
  rw [← List.take_append_drop n (orderBy key items), List.pairwise_append] at hsorted
  have hlate : ((orderBy key items).drop n).filter (fun b => key b < key a) = [] :=
    List.filter_eq_nil_iff.mpr fun b hb => by simpa using hsorted.2.2 a h b hb
  have hlength := ((orderBy_perm key items).filter fun b => decide (key b < key a)).length_eq
  rw [← List.take_append_drop n (orderBy key items), List.filter_append, hlate,
    List.append_nil] at hlength
  rw [← hlength]
  refine lt_of_lt_of_le ?_ (List.length_take_le n (orderBy key items))
  exact List.length_filter_lt_length_iff_exists.mpr ⟨a, h, by simp⟩

/-- Lists that a sort by a key puts in the same order are rearrangements of each other, and the
other way round where the key tells their items apart. -/
theorem insertionSort_eq_iff (key : α → β) {items items' : List α}
    (hkey : ∀ a ∈ items, ∀ b ∈ items, key a = key b → a = b) :
    items.insertionSort (fun a b => key a ≤ key b) =
      items'.insertionSort (fun a b => key a ≤ key b) ↔ items.Perm items' := by
  constructor
  · intro h
    have hperm := List.perm_insertionSort (fun a b => key a ≤ key b) items
    rw [h] at hperm
    exact hperm.symm.trans (List.perm_insertionSort _ items')
  · intro h
    refine List.Perm.eq_of_pairwise ?_ (List.pairwise_insertionSort _ items)
      (List.pairwise_insertionSort _ items')
      (((List.perm_insertionSort _ items).trans h).trans (List.perm_insertionSort _ items').symm)
    intro a b ha hb hab hba
    rw [List.mem_insertionSort] at ha hb
    exact hkey a ha b (h.mem_iff.mpr hb) (le_antisymm hab hba)

/-- A sort by a key is stable: it leaves the items of each key in their order. -/
theorem filter_insertionSort (key : α → β) (k : β) (items : List α) :
    (items.insertionSort fun a b => key a ≤ key b).filter (fun a => key a = k) =
      items.filter fun a => key a = k := by
  have hinsert : ∀ (a : α) (l : List α),
      (l.orderedInsert (fun a b => key a ≤ key b) a).filter (fun a => key a = k) =
        (a :: l).filter fun a => key a = k := by
    intro a l
    induction l with
    | nil => rfl
    | cons b rest ih =>
      rw [List.orderedInsert_cons]
      split
      · rfl
      · next hlt =>
        -- What the item is put behind has a smaller key.
        by_cases ha : key a = k
        · have hb : key b ≠ k := fun hb => hlt (ha.trans hb.symm).le
          simp [hb, ha, ih]
        · simp [List.filter_cons, ha, ih]
  induction items with
  | nil => rfl
  | cons a rest ih =>
    rw [List.insertionSort_cons, hinsert, List.filter_cons, List.filter_cons, ih]

/-- Sorted lists that have the same items of each key, in the same order, are equal. -/
theorem eq_of_sorted_of_filter (key : α → β) {items items' : List α}
    (h : items.Pairwise fun a b => key a ≤ key b) (h' : items'.Pairwise fun a b => key a ≤ key b)
    (hfilter : ∀ k, items.filter (fun a => key a = k) = items'.filter fun a => key a = k) :
    items = items' := by
  have hmem : ∀ a, a ∈ items ↔ a ∈ items' := fun a => by
    simpa using congrArg (a ∈ ·) (hfilter (key a))
  induction items generalizing items' with
  | nil =>
    refine (List.eq_nil_iff_forall_not_mem.mpr fun a ha => ?_).symm
    exact List.not_mem_nil ((hmem a).mpr ha)
  | cons a rest ih =>
    cases items' with
    | nil => exact absurd ((hmem a).mp List.mem_cons_self) List.not_mem_nil
    | cons a' rest' =>
      rw [List.pairwise_cons] at h h'
      have hle : key a' ≤ key a := by
        rcases List.mem_cons.mp ((hmem a).mp List.mem_cons_self) with heq | hin
        · exact heq ▸ le_refl _
        · exact h'.1 a hin
      have hge : key a ≤ key a' := by
        rcases List.mem_cons.mp ((hmem a').mpr List.mem_cons_self) with heq | hin
        · exact heq ▸ le_refl _
        · exact h.1 a' hin
      have hkey : key a' = key a := le_antisymm hle hge
      have hhead := hfilter (key a)
      simp only [List.filter_cons, decide_true, ↓reduceIte, hkey, List.cons.injEq] at hhead
      obtain ⟨rfl, -⟩ := hhead
      have hrest : ∀ k, rest.filter (fun a => key a = k) = rest'.filter fun a => key a = k := by
        intro k
        have hk := hfilter k
        by_cases ha : key a = k
        · simpa [List.filter_cons, ha] using hk
        · simpa [List.filter_cons, ha] using hk
      rw [ih h.2 h'.2 hrest fun b => by simpa using congrArg (b ∈ ·) (hrest (key b))]

/-- A stable sort does not see how the items of different keys are mixed. -/
theorem insertionSort_eq_of_filter (key : α → β) {items items' : List α}
    (h : ∀ k, items.filter (fun a => key a = k) = items'.filter fun a => key a = k) :
    items.insertionSort (fun a b => key a ≤ key b) =
      items'.insertionSort fun a b => key a ≤ key b :=
  eq_of_sorted_of_filter key (List.pairwise_insertionSort _ items)
    (List.pairwise_insertionSort _ items') fun k => by
      rw [filter_insertionSort, filter_insertionSort, h k]

section Selections

variable {key : α → β} {items : List α} {n : Nat} {a : α}

theorem orderBy_pairwise_lt (hkeys : (items.map key).Nodup) :
    (orderBy key items).Pairwise fun a b => key a < key b := by
  have hne : (orderBy key items).Pairwise fun a b => key a ≠ key b :=
    List.pairwise_map.mp (((orderBy_perm key items).map key).nodup_iff.mpr hkeys)
  exact (orderBy_pairwise key items).imp₂ (fun _ _ hle hne => lt_of_le_of_ne hle hne) hne

/-- Among the first `n` are the items before which there are fewer than `n`. -/
theorem mem_take_orderBy (hkeys : (items.map key).Nodup) :
    a ∈ (orderBy key items).take n ↔ a ∈ items ∧ items.countP (fun b => key b < key a) < n := by
  constructor
  · intro h
    rw [List.countP_eq_length_filter]
    exact ⟨mem_orderBy.mp (List.mem_of_mem_take h), length_filter_lt_of_mem_take h⟩
  · rintro ⟨ha, hcount⟩
    by_contra htake
    have hsorted := orderBy_pairwise_lt hkeys
    have hsplit := List.take_append_drop n (orderBy key items)
    have hdrop : a ∈ (orderBy key items).drop n := by
      have hmem : a ∈ orderBy key items := mem_orderBy.mpr ha
      rw [← hsplit, List.mem_append] at hmem
      exact hmem.resolve_left htake
    rw [← hsplit, List.pairwise_append] at hsorted
    have hbefore : ((orderBy key items).take n).countP (fun b => key b < key a) =
        ((orderBy key items).take n).length :=
      List.countP_eq_length.mpr fun b hb => decide_eq_true (hsorted.2.2 b hb a hdrop)
    have hlength := List.length_pos_of_mem hdrop
    have hle := (List.take_sublist n (orderBy key items)).countP_le (p := fun b => key b < key a)
    rw [hbefore, (orderBy_perm key items).countP_eq, List.length_take] at hle
    rw [List.length_drop] at hlength
    omega

/-- The listing of a selection, cut to a length: what it lists, and how often. -/
theorem mem_take_orderBy_filter (hkeys : (items.map key).Nodup) (p : α → Bool) :
    a ∈ (orderBy key (items.filter p)).take n ↔
      (a ∈ items ∧ p a = true) ∧ items.countP (fun b => p b && decide (key b < key a)) < n := by
  rw [mem_take_orderBy ((List.filter_sublist.map key).nodup hkeys), List.mem_filter,
    List.countP_filter]
  simp only [Bool.and_comm]

/-- Before an item that only one selection has, and that it does not list if all it lists is in the
other as well, as many are in both. -/
theorem le_countP_of_take_subset (hkeys : (items.map key).Nodup) {p q : α → Bool}
    (hlisted : ∀ b ∈ (orderBy key (items.filter p)).take n, q b = true) (ha : a ∈ items)
    (hp : p a = true) (hq : q a ≠ true) :
    n ≤ items.countP fun b => (p b && q b) && key b < key a := by
  have hlate : a ∈ (orderBy key (items.filter p)).drop n := by
    have hmem : a ∈ orderBy key (items.filter p) := mem_orderBy.mpr (List.mem_filter.mpr ⟨ha, hp⟩)
    rw [← List.take_append_drop n (orderBy key (items.filter p)), List.mem_append] at hmem
    exact hmem.resolve_left fun h => hq (hlisted a h)
  have hsorted := orderBy_pairwise_lt ((List.filter_sublist (p := p).map key).nodup hkeys)
  rw [← List.take_append_drop n (orderBy key (items.filter p)), List.pairwise_append] at hsorted
  have hall : ((orderBy key (items.filter p)).take n).countP
      (fun b => (p b && q b) && key b < key a) = n := by
    rw [List.countP_eq_length.mpr, List.length_take]
    · have hlength := List.length_pos_of_mem hlate
      rw [List.length_drop] at hlength
      omega
    · intro b hb
      have hbp := (List.mem_filter.mp (mem_orderBy.mp (List.mem_of_mem_take hb))).2
      simp [hbp, hlisted b hb, hsorted.2.2 b hb a hlate]
  calc n = _ := hall.symm
    _ ≤ (orderBy key (items.filter p)).countP _ := (List.take_sublist n _).countP_le
    _ = (items.filter p).countP _ := (orderBy_perm key _).countP_eq _
    _ ≤ _ := List.filter_sublist.countP_le

/-- Two selections are listed alike up to a length exactly if, before every item that is in one of
them only, as many are in both. -/
theorem take_orderBy_filter_iff (hkeys : (items.map key).Nodup) (p q : α → Bool) :
    (orderBy key (items.filter p)).take n = (orderBy key (items.filter q)).take n ↔
      ∀ a ∈ items, p a ≠ q a → n ≤ items.countP fun b => (p b && q b) && key b < key a := by
  constructor
  · intro h a ha hne
    have hlisted : ∀ (p : α → Bool), ∀ b ∈ (orderBy key (items.filter p)).take n, p b = true :=
      fun p b hb => ((mem_take_orderBy_filter hkeys p).mp hb).1.2
    cases hp : p a with
    | true =>
      refine le_countP_of_take_subset hkeys (fun b hb => hlisted q b (h ▸ hb)) ha hp ?_
      exact fun hq => hne (hp.trans hq.symm)
    | false =>
      have hq : q a = true := by simpa [hp] using hne
      have hcount := le_countP_of_take_subset hkeys (fun b hb => hlisted p b (h ▸ hb)) ha hq
        (by simp [hp])
      simpa only [Bool.and_comm (p _)] using hcount
  · intro hall
    have hsubset : ∀ p q : α → Bool, (∀ a ∈ items, p a ≠ q a →
        n ≤ items.countP fun b => (p b && q b) && key b < key a) →
        ∀ a ∈ (orderBy key (items.filter p)).take n, a ∈ (orderBy key (items.filter q)).take n := by
      intro p q hall a ha
      rw [mem_take_orderBy_filter hkeys] at ha ⊢
      obtain ⟨⟨hmem, hp⟩, hcount⟩ := ha
      -- What is in both before an item up to `a` is in the first before `a`.
      have hearlier : ∀ b ∈ items, key b ≤ key a → p b = q b := by
        intro b hb hle
        by_contra hne
        refine absurd (hall b hb hne) (not_le.mpr (lt_of_le_of_lt ?_ hcount))
        refine List.countP_mono_left fun c _ hc => ?_
        simp only [Bool.and_eq_true, decide_eq_true_eq] at hc ⊢
        exact ⟨hc.1.1, lt_of_lt_of_le hc.2 hle⟩
      refine ⟨⟨hmem, (hearlier a hmem le_rfl).symm.trans hp⟩, lt_of_le_of_lt ?_ hcount⟩
      refine List.countP_mono_left fun b hb hc => ?_
      simp only [Bool.and_eq_true, decide_eq_true_eq] at hc ⊢
      exact ⟨(hearlier b hb hc.2.le).trans hc.1, hc.2⟩
    have hsorted : ∀ p : α → Bool, ((orderBy key (items.filter p)).take n).Pairwise
        fun a b => key a < key b := fun p =>
      (orderBy_pairwise_lt ((List.filter_sublist.map key).nodup hkeys)).sublist
        (List.take_sublist n _)
    have hnodup : ∀ p : α → Bool, ((orderBy key (items.filter p)).take n).Nodup :=
      fun p => (hsorted p).imp fun hlt heq => absurd (congrArg key heq) hlt.ne
    refine List.Perm.eq_of_pairwise (fun a b _ _ hab hba => absurd hba hab.asymm) (hsorted p)
      (hsorted q) ((List.perm_ext_iff_of_nodup (hnodup p) (hnodup q)).mpr fun a => ?_)
    refine ⟨hsubset p q hall a, hsubset q p (fun b hb hne => ?_) a⟩
    simpa only [Bool.and_comm (q _)] using hall b hb hne.symm

end Selections

section Stores

variable [DecidableEq κ] {m : HashMap κ ν} {m' : HashMap κ ρ} {f : ν → ρ}

/-- The values of a map that holds the images of another's are the images of its values. -/
theorem values_perm (h : ∀ k, m'.lookup k = (m.lookup k).map f) :
    ((pairs m').map Prod.snd).Perm (((pairs m).map Prod.snd).map f) := by
  have hpairs : (pairs m').Perm ((pairs m).map fun p => (p.1, f p.2)) := by
    refine (List.perm_ext_iff_of_nodup (.of_map _ (nodup_pairs_keys m')) ?_).mpr ?_
    · apply List.Nodup.of_map Prod.fst
      rw [List.map_map]
      exact nodup_pairs_keys m
    · rintro ⟨k, r⟩
      rw [mem_pairs, h k, Option.map_eq_some_iff, List.mem_map]
      constructor
      · rintro ⟨v, hv, rfl⟩
        exact ⟨(k, v), mem_pairs.mpr hv, rfl⟩
      · rintro ⟨⟨k', v⟩, hmem, heq⟩
        cases heq
        exact ⟨v, mem_pairs.mp hmem, rfl⟩
  refine (hpairs.map Prod.snd).trans (.of_eq ?_)
  rw [List.map_map, List.map_map]
  rfl

end Stores

end Kit
