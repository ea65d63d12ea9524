import Mathlib.Data.List.AList
import Mathlib.Data.List.Perm.Lattice

/-! Hash maps as association lists with distinct keys, the arbitrary order in which they are
iterated, and three ways of building one: counting, indexing and joining. -/

namespace Kit

variable {α β κ ν : Type}

/-- A map from keys to values. -/
abbrev HashMap (κ ν : Type) := AList fun _ : κ => ν

/-- The entries of a map as pairs. -/
def pairs (m : HashMap κ ν) : List (κ × ν) := m.entries.map fun e => (e.1, e.2)

/-- An order of iteration: some rearrangement of the entries it is given. -/
structure IterOrder (α : Type) where
  apply : List α → List α
  perm : ∀ l, (apply l).Perm l

/-- The order that leaves the entries as they are. -/
def IterOrder.id (α : Type) : IterOrder α := ⟨fun l => l, fun _ => .rfl⟩

theorem IterOrder.mem_apply (order : IterOrder α) {l : List α} {a : α} :
    a ∈ order.apply l ↔ a ∈ l := (order.perm l).mem_iff

/-- The order does not show in a search that at most one element meets. -/
theorem IterOrder.find_apply (order order' : IterOrder α) {l : List α} {p : α → Bool}
    (hunique : ∀ a ∈ l, ∀ b ∈ l, p a = true → p b = true → a = b) :
    (order.apply l).find? p = (order'.apply l).find? p := by
  have hsome : ∀ (order : IterOrder α) {a : α}, a ∈ l → p a = true →
      (order.apply l).find? p = some a := by
    intro order a ha hp
    obtain ⟨b, hb⟩ := Option.isSome_iff_exists.mp
      (List.find?_isSome.mpr ⟨a, order.mem_apply.mpr ha, hp⟩)
    have hmem := order.mem_apply.mp (List.mem_of_find?_eq_some hb)
    rw [hb, hunique a ha b hmem hp (List.find?_some hb)]
  cases h : (order.apply l).find? p with
  | some a =>
    exact (hsome order' (order.mem_apply.mp (List.mem_of_find?_eq_some h))
      (List.find?_some h)).symm
  | none =>
    refine (List.find?_eq_none.mpr fun a ha => ?_).symm
    exact List.find?_eq_none.mp h a (order.mem_apply.mpr (order'.mem_apply.mp ha))

theorem pairs_keys (m : HashMap κ ν) : (pairs m).map Prod.fst = m.keys := by
  simp [pairs, AList.keys, List.keys]

theorem nodup_pairs_keys (m : HashMap κ ν) : ((pairs m).map Prod.fst).Nodup := by
  rw [pairs_keys]
  exact m.keys_nodup

@[simp] theorem pairs_empty : pairs (∅ : HashMap κ ν) = [] := rfl

section Lookup

variable [DecidableEq κ]

theorem mem_pairs {m : HashMap κ ν} {k : κ} {v : ν} : (k, v) ∈ pairs m ↔ m.lookup k = some v := by
  rw [← Option.mem_def, AList.mem_lookup_iff]
  constructor
  · intro h
    obtain ⟨⟨k', v'⟩, hmem, heq⟩ := List.mem_map.mp h
    obtain ⟨rfl, rfl⟩ := Prod.mk.inj heq
    exact hmem
  · exact fun h => List.mem_map.mpr ⟨⟨k, v⟩, h, rfl⟩

theorem mem_iff_lookup {m : HashMap κ ν} {k : κ} : k ∈ m ↔ ∃ v, m.lookup k = some v := by
  rw [← AList.lookup_isSome, Option.isSome_iff_exists]

theorem mem_keys_iff_lookup {m : HashMap κ ν} {k : κ} : k ∈ m.keys ↔ ∃ v, m.lookup k = some v := by
  rw [← AList.mem_keys, mem_iff_lookup]

/-- Inserting at a key the map does not have adds one pair. -/
theorem pairs_insert {m : HashMap κ ν} {k : κ} {v : ν} (h : k ∉ m) :
    pairs (m.insert k v) = (k, v) :: pairs m := by
  rw [pairs, AList.entries_insert_of_notMem h, List.map_cons, pairs]

theorem lookup_insert_eq (m : HashMap κ ν) (k k' : κ) (v : ν) :
    (m.insert k v).lookup k' = if k' = k then some v else m.lookup k' := by
  split
  · next h => rw [h, AList.lookup_insert]
  · next h => rw [AList.lookup_insert_ne h]

/-- Where every value has a property, every value has it after an insertion if the new one does. -/
theorem forall_lookup_insert {p : ν → Prop} {m : HashMap κ ν}
    (h : ∀ k v, m.lookup k = some v → p v) (k : κ) (v : ν) :
    (∀ k' v', (m.insert k v).lookup k' = some v' → p v') ↔ p v := by
  constructor
  · intro hall
    exact hall k v (AList.lookup_insert m)
  · intro hv k' v' hlookup
    rw [lookup_insert_eq] at hlookup
    split at hlookup
    · exact Option.some.inj hlookup ▸ hv
    · exact h k' v' hlookup

theorem lookup_erase_eq (m : HashMap κ ν) (k k' : κ) :
    (m.erase k).lookup k' = if k' = k then none else m.lookup k' := by
  split
  · next h => rw [h, AList.lookup_erase]
  · next h => rw [AList.lookup_erase_ne h]

end Lookup

section Count

variable [DecidableEq κ]

/-- How many items of a list have each key. -/
def countBy (key : α → κ) (items : List α) : HashMap κ Nat :=
  items.foldl (fun counts a => counts.insert (key a) ((counts.lookup (key a)).getD 0 + 1)) ∅

theorem lookup_foldl_count (key : α → κ) (k : κ) (items : List α) (counts : HashMap κ Nat) :
    ((items.foldl (fun counts a =>
      counts.insert (key a) ((counts.lookup (key a)).getD 0 + 1)) counts).lookup k) =
    if items.countP (fun a => key a = k) = 0 then counts.lookup k
    else some ((counts.lookup k).getD 0 + items.countP fun a => key a = k) := by
  induction items generalizing counts with
  | nil => simp
  | cons a rest ih =>
    rw [List.foldl_cons, ih, lookup_insert_eq, List.countP_cons]
    by_cases ha : key a = k
    · subst ha
      by_cases hrest : rest.countP (fun b => key b = key a) = 0
      · simp [hrest]
      · simp only [hrest, ↓reduceIte, Option.getD_some, decide_true, Nat.add_eq_zero_iff,
          Nat.one_ne_zero, and_false, Option.some.injEq]
        omega
    · simp only [Ne.symm ha, ↓reduceIte, ha, decide_false, Bool.false_eq_true, Nat.add_zero]

theorem lookup_countBy_one {key : α → κ} {items : List α} {k : κ} :
    (countBy key items).lookup k = some 1 ↔ items.countP (fun a => key a = k) = 1 := by
  rw [countBy, lookup_foldl_count]
  split
  · next h => simp [h]
  · simp

end Count

section Index

variable [DecidableEq κ]

/-- The map that a list of pairs builds, a later pair replacing an earlier one of its key. -/
def ofPairs (items : List (κ × ν)) : HashMap κ ν :=
  items.foldl (fun m p => m.insert p.1 p.2) ∅

theorem pairs_foldl_insert {items : List (κ × ν)} (hnd : (items.map Prod.fst).Nodup)
    {m : HashMap κ ν} (hfresh : ∀ p ∈ items, p.1 ∉ m) :
    (pairs (items.foldl (fun m p => m.insert p.1 p.2) m)).Perm (items ++ pairs m) := by
  induction items generalizing m with
  | nil => simp
  | cons p rest ih =>
    rw [List.map_cons, List.nodup_cons] at hnd
    have hrest : ∀ q ∈ rest, q.1 ∉ m.insert p.1 p.2 := by
      intro q hq hmem
      rcases AList.mem_insert m |>.mp hmem with heq | hin
      · exact hnd.1 (heq ▸ List.mem_map_of_mem hq)
      · exact hfresh q (List.mem_cons_of_mem _ hq) hin
    have hp := ih hnd.2 hrest
    rw [pairs_insert (hfresh p List.mem_cons_self)] at hp
    exact hp.trans List.perm_middle

/-- Pairs with distinct keys are the entries of the map they build. -/
theorem pairs_ofPairs {items : List (κ × ν)} (hnd : (items.map Prod.fst).Nodup) :
    (pairs (ofPairs items)).Perm items := by
  have h := pairs_foldl_insert (m := (∅ : HashMap κ ν)) hnd (by simp)
  rwa [pairs_empty, List.append_nil] at h

end Index

section Join

variable [DecidableEq κ]

/-- The pairs of `left` whose key `right` has too, each with both values. -/
def join (left : List (κ × α)) (right : HashMap κ β) : List (κ × α × β) :=
  left.filterMap fun p => (right.lookup p.1).map fun b => (p.1, p.2, b)

theorem mem_join {left : List (κ × α)} {right : HashMap κ β} {k : κ} {a : α} {b : β} :
    (k, a, b) ∈ join left right ↔ (k, a) ∈ left ∧ right.lookup k = some b := by
  simp only [join, List.mem_filterMap, Option.map_eq_some_iff]
  constructor
  · rintro ⟨⟨k', a'⟩, hmem, b', hb, heq⟩
    obtain ⟨rfl, rfl, rfl⟩ := by simpa using heq
    exact ⟨hmem, hb⟩
  · rintro ⟨hmem, hb⟩
    exact ⟨(k, a), hmem, b, hb, rfl⟩

theorem join_keys_sublist (left : List (κ × α)) (right : HashMap κ β) :
    ((join left right).map Prod.fst).Sublist (left.map Prod.fst) := by
  induction left with
  | nil => simp [join]
  | cons p rest ih =>
    cases h : right.lookup p.1 with
    | none => simpa [join, h] using ih.cons p.1
    | some b => simpa [join, h] using ih.cons_cons p.1

theorem mem_join_keys {left : List (κ × α)} {right : HashMap κ β} {k : κ} :
    k ∈ (join left right).map Prod.fst ↔ k ∈ left.map Prod.fst ∧ k ∈ right := by
  rw [List.mem_map, List.mem_map, mem_iff_lookup]
  constructor
  · rintro ⟨⟨k', a, b⟩, hmem, rfl⟩
    obtain ⟨hleft, hright⟩ := mem_join.mp hmem
    exact ⟨⟨(k', a), hleft, rfl⟩, b, hright⟩
  · rintro ⟨⟨⟨k', a⟩, hleft, rfl⟩, b, hright⟩
    exact ⟨(k', a, b), mem_join.mpr ⟨hleft, hright⟩, rfl⟩

/-- A list of distinct pairs is the part whose keys are in `keys`, if that part is a list `inside`
of distinct pairs, and the rest. -/
theorem perm_split_keys {items inside : List (κ × α)} {keys : List κ} (hitems : items.Nodup)
    (hinside : inside.Nodup) (hmem : ∀ p, p ∈ inside ↔ p ∈ items ∧ p.1 ∈ keys) :
    (inside ++ items.filter fun p => p.1 ∉ keys).Perm items := by
  have hdisjoint : List.Disjoint inside (items.filter fun p => p.1 ∉ keys) := by
    intro p hp hq
    have hout : p.1 ∉ keys := by simpa using (List.mem_filter.mp hq).2
    exact hout ((hmem p).mp hp).2
  refine (List.perm_ext_iff_of_nodup (hinside.append (hitems.filter _) hdisjoint) hitems).mpr ?_
  intro p
  rw [List.mem_append, hmem, List.mem_filter, decide_eq_true_eq]
  tauto

section Split

variable {left : List (κ × α)} (right : HashMap κ β) (hnd : (left.map Prod.fst).Nodup)

include hnd

/-- Every pair on the left is joined, or its key is not. -/
theorem join_left :
    ((join left right).map (fun t => (t.1, t.2.1)) ++
      left.filter fun p => p.1 ∉ (join left right).map Prod.fst).Perm left := by
  refine perm_split_keys (List.Nodup.of_map _ hnd) ?_ ?_
  · apply List.Nodup.of_map Prod.fst
    rw [List.map_map]
    exact (join_keys_sublist left right).nodup hnd
  · rintro ⟨k, a⟩
    rw [mem_join_keys, mem_iff_lookup, List.mem_map]
    constructor
    · rintro ⟨⟨k', a', b⟩, hmem, heq⟩
      obtain ⟨rfl, rfl⟩ := Prod.mk.inj heq
      obtain ⟨hleft, hright⟩ := mem_join.mp hmem
      exact ⟨hleft, List.mem_map_of_mem (f := Prod.fst) hleft, b, hright⟩
    · rintro ⟨hleft, _, b, hright⟩
      exact ⟨(k, a, b), mem_join.mpr ⟨hleft, hright⟩, rfl⟩

/-- Every pair on the right is joined, or its key is not. -/
theorem join_right {items : List (κ × β)} (hitems : items.Perm (pairs right)) :
    ((join left right).map (fun t => (t.1, t.2.2)) ++
      items.filter fun p => p.1 ∉ (join left right).map Prod.fst).Perm items := by
  refine perm_split_keys
    (hitems.nodup_iff.mpr (List.Nodup.of_map _ (nodup_pairs_keys right))) ?_ ?_
  · apply List.Nodup.of_map Prod.fst
    rw [List.map_map]
    exact (join_keys_sublist left right).nodup hnd
  · rintro ⟨k, b⟩
    rw [mem_join_keys, hitems.mem_iff, mem_pairs, List.mem_map]
    constructor
    · rintro ⟨⟨k', a, b'⟩, hmem, heq⟩
      obtain ⟨rfl, rfl⟩ := Prod.mk.inj heq
      obtain ⟨hleft, hright⟩ := mem_join.mp hmem
      exact ⟨hright, List.mem_map_of_mem (f := Prod.fst) hleft, mem_iff_lookup.mpr ⟨b', hright⟩⟩
    · rintro ⟨hright, hleft, _⟩
      obtain ⟨⟨k', a⟩, hmem, rfl⟩ := List.mem_map.mp hleft
      exact ⟨(k', a, b), mem_join.mpr ⟨hmem, hright⟩, rfl⟩

end Split

end Join

end Kit
