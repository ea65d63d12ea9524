import IntentRebase.Kit.HashMap

/-! Secondary indices of a store: the identifiers of its values, listed under a key of each value.
An index is exact when every stored identifier is listed once, under its own key. -/

namespace Kit

variable {ι ν κ : Type}

/-- The identifiers under each key. -/
abbrev SecondaryIndex (κ ι : Type) := HashMap κ (List ι)

namespace SecondaryIndex

section Operations

variable [DecidableEq κ]

/-- The identifiers under a key, none if the index does not have it. -/
def bucket (index : SecondaryIndex κ ι) (k : κ) : List ι := (index.lookup k).getD []

/-- The index with one more identifier under a key. -/
def push (index : SecondaryIndex κ ι) (k : κ) (id : ι) : SecondaryIndex κ ι :=
  index.insert k (bucket index k ++ [id])

variable (index : SecondaryIndex κ ι) (k k' : κ) (id id' : ι)

@[simp] theorem bucket_empty : bucket (∅ : SecondaryIndex κ ι) k = [] := rfl

theorem bucket_push :
    bucket (push index k id) k' =
      if k' = k then bucket index k ++ [id] else bucket index k' := by
  rw [push, bucket, lookup_insert_eq]
  split
  · rfl
  · rfl

/-- The last identifier under a key. -/
theorem getLast?_bucket : (bucket index k).getLast? = (index.lookup k).bind List.getLast? := by
  rw [bucket]
  cases index.lookup k <;> rfl

variable [DecidableEq ι]

/-- The index without an identifier under a key. -/
def retain (index : SecondaryIndex κ ι) (k : κ) (id : ι) : SecondaryIndex κ ι :=
  match index.lookup k with
  | some ids => index.insert k (ids.filter (· ≠ id))
  | none => index

/-- The identifier moves from one key to another. -/
def move (index : SecondaryIndex κ ι) (old new : κ) (id : ι) : SecondaryIndex κ ι :=
  push (retain index old id) new id

/-- How often an identifier is listed under a key: once for a stored value of that key, and
otherwise not. -/
def Exact (store : HashMap ι ν) (key : ν → κ) (index : SecondaryIndex κ ι) : Prop :=
  ∀ k id, (bucket index k).count id = if (store.lookup id).map key = some k then 1 else 0

theorem bucket_retain :
    bucket (retain index k id) k' =
      if k' = k then (bucket index k).filter (· ≠ id) else bucket index k' := by
  cases h : index.lookup k with
  | none =>
    simp only [retain, h]
    split
    · next hk =>
      subst hk
      simp [bucket, h]
    · rfl
  | some ids =>
    simp only [retain, bucket, lookup_insert_eq, h]
    split
    · rfl
    · rfl

theorem count_push :
    (bucket (push index k id) k').count id' =
      (bucket index k').count id' + if k' = k ∧ id' = id then 1 else 0 := by
  rw [bucket_push]
  by_cases hk : k' = k
  · subst hk
    by_cases hid : id' = id
    · simp [hid]
    · simp [hid, Ne.symm hid]
  · simp [hk]

theorem count_retain :
    (bucket (retain index k id) k').count id' =
      if k' = k ∧ id' = id then 0 else (bucket index k').count id' := by
  rw [bucket_retain]
  by_cases hk : k' = k
  · subst hk
    by_cases hid : id' = id
    · subst hid
      simp [List.count_eq_zero]
    · simp [hid]
  · simp [hk]

end Operations

section Exact

variable [DecidableEq κ] [DecidableEq ι] {store : HashMap ι ν} {key : ν → κ}
  {index : SecondaryIndex κ ι}

theorem Exact.empty : Exact (∅ : HashMap ι ν) key (∅ : SecondaryIndex κ ι) := by
  intro k id
  simp

/-- A new identifier is listed under the key of its value. -/
theorem Exact.insert (h : Exact store key index) {id : ι} (v : ν)
    (hfresh : store.lookup id = none) :
    Exact (store.insert id v) key (push index (key v) id) := by
  intro k id'
  rw [count_push, h, lookup_insert_eq]
  by_cases hid : id' = id
  · subst hid
    simp [hfresh, eq_comm]
  · simp [hid]

/-- A change that keeps the key of a value keeps the index. -/
theorem Exact.update (h : Exact store key index) {id : ι} {old new : ν}
    (hold : store.lookup id = some old) (hkey : key new = key old) :
    Exact (store.insert id new) key index := by
  intro k id'
  rw [h, lookup_insert_eq]
  by_cases hid : id' = id
  · subst hid
    simp [hold, hkey]
  · simp [hid]

/-- A change of the key of a value moves its identifier. -/
theorem Exact.move (h : Exact store key index) {id : ι} {old : ν} (new : ν)
    (hold : store.lookup id = some old) :
    Exact (store.insert id new) key (move index (key old) (key new) id) := by
  intro k id'
  rw [SecondaryIndex.move, count_push, count_retain, h, lookup_insert_eq]
  by_cases hid : id' = id
  · subst hid
    by_cases hk : k = key old
    · simp [hk, eq_comm]
    · simp [hk, hold, eq_comm]
  · simp [hid]

/-- The identifier of a value that is removed is taken from its key. -/
theorem Exact.erase (h : Exact store key index) {id : ι} {old : ν}
    (hold : store.lookup id = some old) :
    Exact (store.erase id) key (retain index (key old) id) := by
  intro k id'
  rw [count_retain, h, lookup_erase_eq]
  by_cases hid : id' = id
  · subst hid
    simp [hold, eq_comm]
  · simp [hid]

theorem Exact.nodup (h : Exact store key index) (k : κ) : (bucket index k).Nodup := by
  refine List.nodup_iff_count_le_one.mpr fun id => ?_
  rw [h]
  split
  · exact le_rfl
  · exact Nat.zero_le 1

theorem Exact.mem_bucket (h : Exact store key index) {k : κ} {id : ι} :
    id ∈ bucket index k ↔ ∃ v, store.lookup id = some v ∧ key v = k := by
  rw [← List.count_pos_iff, h, ← Option.map_eq_some_iff]
  split
  · next hk => exact iff_of_true Nat.one_pos hk
  · next hk => exact iff_of_false (Nat.lt_irrefl 0) hk

/-- An index is exact if it lists an identifier at most once under a key, and then exactly if its
value has that key. -/
theorem exact_iff : Exact store key index ↔ (∀ k, (bucket index k).Nodup) ∧
    ∀ k id, id ∈ bucket index k ↔ ∃ v, store.lookup id = some v ∧ key v = k := by
  constructor
  · exact fun h => ⟨h.nodup, fun _ _ => h.mem_bucket⟩
  · rintro ⟨hnodup, hmem⟩ k id
    rw [(hnodup k).count]
    exact if_congr ((hmem k id).trans Option.map_eq_some_iff.symm) rfl rfl

/-- The values that the identifiers under a key name are the stored values of that key. -/
theorem Exact.values_perm (h : Exact store key index) (k : κ) :
    ((bucket index k).filterMap store.lookup).Perm
      (((pairs store).map Prod.snd).filter fun v => key v = k) := by
  have hids : (bucket index k).Perm (((pairs store).filter fun p => key p.2 = k).map Prod.fst) := by
    refine (List.perm_ext_iff_of_nodup (h.nodup k) ?_).mpr fun id => ?_
    · exact (List.filter_sublist.map Prod.fst).nodup (nodup_pairs_keys store)
    · rw [h.mem_bucket, List.mem_map]
      constructor
      · rintro ⟨v, hv, hk⟩
        exact ⟨(id, v), List.mem_filter.mpr ⟨mem_pairs.mpr hv, decide_eq_true hk⟩, rfl⟩
      · rintro ⟨⟨id', v⟩, hmem, rfl⟩
        obtain ⟨hpair, hk⟩ := List.mem_filter.mp hmem
        exact ⟨v, mem_pairs.mp hpair, of_decide_eq_true hk⟩
  have hlookup : ∀ p ∈ (pairs store).filter fun p => key p.2 = k,
      (store.lookup ∘ Prod.fst) p = (some ∘ Prod.snd) p := fun p hp =>
    mem_pairs.mp (List.mem_of_mem_filter hp)
  refine (hids.filterMap _).trans (.of_eq ?_)
  rw [List.filterMap_map, List.filterMap_congr hlookup, List.filterMap_eq_map, List.filter_map]
  rfl

end Exact

section Lists

variable [DecidableEq κ] {α : Type} {index : SecondaryIndex κ ι} {ident : α → ι}
  {under : κ → α → Bool} {items : List α} {a : α} {k : κ}

/-- The index lists, under a key, the identifiers of the items that belong there, in their order. -/
def Lists (index : SecondaryIndex κ ι) (ident : α → ι) (under : κ → α → Bool) (items : List α) :
    Prop :=
  ∀ k, bucket index k = (items.filter (under k)).map ident

theorem Lists.empty : Lists (∅ : SecondaryIndex κ ι) ident under [] := fun _ => rfl

/-- A further item is listed under its key. -/
theorem Lists.push (h : Lists index ident under items) (hkey : ∀ k', under k' a = decide (k' = k)) :
    Lists (SecondaryIndex.push index k (ident a)) ident under (items ++ [a]) := by
  intro k'
  rw [bucket_push, List.filter_append, List.map_append, ← h]
  by_cases hk : k' = k
  · simp [hkey, hk]
  · simp [hkey, hk]

/-- An item that belongs nowhere is not listed. -/
theorem Lists.skip (h : Lists index ident under items) (hkey : ∀ k, under k a = false) :
    Lists index ident under (items ++ [a]) := by
  intro k
  rw [List.filter_append, List.map_append, ← h]
  simp [hkey]

/-- Where every item is found, those under a key are found as they are. -/
theorem Lists.values [DecidableEq ι] {store : HashMap ι α} (h : Lists index ident under items)
    (hfinds : ∀ a ∈ items, store.lookup (ident a) = some a) (k : κ) :
    (bucket index k).filterMap store.lookup = items.filter (under k) := by
  rw [h, List.filterMap_map, List.filterMap_congr (g := some), List.filterMap_some]
  exact fun a hmem => hfinds a (List.mem_of_mem_filter hmem)

end Lists

end SecondaryIndex

end Kit
