import IntentRebase.Kit.HashMap

/-! Changing the entries of a map where a condition holds, and counting them: what a statement
`UPDATE .. WHERE` does to a keyed table. -/

namespace Kit

variable {κ ν : Type}

/-- The entries that are selected, changed by `set`; the other entries as they are. -/
def updateWhere (m : HashMap κ ν) (selected : κ → ν → Bool) (set : ν → ν) : HashMap κ ν where
  entries := m.entries.map fun e => ⟨e.1, if selected e.1 e.2 then set e.2 else e.2⟩
  nodupKeys := by
    have hkeys : (m.entries.map fun e => (⟨e.1, if selected e.1 e.2 then set e.2 else e.2⟩ :
        Sigma fun _ : κ => ν)).keys = m.entries.keys := by
      simp [List.keys, Function.comp_def]
    rw [List.NodupKeys, hkeys]
    exact m.nodupKeys

/-- How many entries are selected. -/
def countWhere (m : HashMap κ ν) (selected : κ → ν → Bool) : Nat :=
  (pairs m).countP fun p => selected p.1 p.2

variable {m : HashMap κ ν} {selected counted : κ → ν → Bool} {set : ν → ν}

theorem pairs_updateWhere : pairs (updateWhere m selected set) =
    (pairs m).map fun p => (p.1, if selected p.1 p.2 then set p.2 else p.2) := by
  simp [pairs, updateWhere, Function.comp_def]

theorem lookup_updateWhere [DecidableEq κ] (k : κ) :
    (updateWhere m selected set).lookup k =
      (m.lookup k).map fun v => if selected k v then set v else v := by
  cases h : m.lookup k with
  | none =>
    cases h' : (updateWhere m selected set).lookup k with
    | none => rfl
    | some v =>
      have hmem := mem_pairs.mpr h'
      rw [pairs_updateWhere, List.mem_map] at hmem
      obtain ⟨p, hp, heq⟩ := hmem
      cases heq
      rw [mem_pairs.mp hp] at h
      cases h
  | some v =>
    refine mem_pairs.mp ?_
    rw [pairs_updateWhere, List.mem_map]
    exact ⟨(k, v), mem_pairs.mpr h, rfl⟩

/-- An update depends on which of the stored entries it selects. -/
theorem updateWhere_congr [DecidableEq κ] {selected' : κ → ν → Bool}
    (h : ∀ k v, m.lookup k = some v → selected k v = selected' k v) :
    updateWhere m selected set = updateWhere m selected' set := by
  refine AList.ext (List.map_congr_left fun e he => ?_)
  rw [h e.1 e.2 (AList.mem_lookup_iff.mpr he)]

/-- An update that selects no stored entry leaves the map. -/
theorem updateWhere_eq_self [DecidableEq κ] (h : ∀ k v, m.lookup k = some v → selected k v = false) :
    updateWhere m selected set = m := by
  refine AList.ext ((List.map_congr_left fun e he => ?_).trans (List.map_id _))
  rw [h e.1 e.2 (AList.mem_lookup_iff.mpr he)]
  rfl

theorem countWhere_eq_zero [DecidableEq κ] :
    countWhere m selected = 0 ↔ ∀ k v, m.lookup k = some v → selected k v = false := by
  rw [countWhere, List.countP_eq_zero]
  constructor
  · intro h k v hv
    exact Bool.eq_false_iff.mpr (h (k, v) (mem_pairs.mpr hv))
  · intro h p hp
    exact Bool.eq_false_iff.mp (h p.1 p.2 (mem_pairs.mp hp))

theorem countWhere_congr [DecidableEq κ]
    (h : ∀ k v, m.lookup k = some v → selected k v = counted k v) :
    countWhere m selected = countWhere m counted :=
  List.countP_congr fun p hp => by rw [h p.1 p.2 (mem_pairs.mp hp)]

/-- As many entries as there are keys in a list are selected, and only under these keys, exactly if
the keys are distinct and the entry of each is selected. -/
theorem length_le_countWhere_iff [DecidableEq κ] {keys : List κ}
    (hkeys : ∀ k v, selected k v = true → k ∈ keys) :
    keys.length ≤ countWhere m selected ↔
      keys.Nodup ∧ ∀ k ∈ keys, ∃ v, m.lookup k = some v ∧ selected k v = true := by
  let found := ((pairs m).filter fun p => selected p.1 p.2).map Prod.fst
  have hcount : countWhere m selected = found.length := by
    rw [countWhere, List.countP_eq_length_filter, List.length_map]
  have hnodup : found.Nodup := (List.filter_sublist.map Prod.fst).nodup (nodup_pairs_keys m)
  have hfound (k : κ) : k ∈ found ↔ ∃ v, m.lookup k = some v ∧ selected k v = true := by
    rw [List.mem_map]
    constructor
    · rintro ⟨⟨k, v⟩, hmem, rfl⟩
      obtain ⟨hpair, hselected⟩ := List.mem_filter.mp hmem
      exact ⟨v, mem_pairs.mp hpair, hselected⟩
    · rintro ⟨v, hv, hselected⟩
      exact ⟨(k, v), List.mem_filter.mpr ⟨mem_pairs.mpr hv, hselected⟩, rfl⟩
  rw [hcount]
  constructor
  · intro hlength
    have hsubset : found ⊆ keys := fun k hk =>
      let ⟨v, _, hselected⟩ := (hfound k).mp hk
      hkeys k v hselected
    have hperm : found.Perm keys := (List.subperm_of_subset hnodup hsubset).perm_of_length_le hlength
    exact ⟨hperm.nodup hnodup, fun k hk => (hfound k).mp (hperm.mem_iff.mpr hk)⟩
  · rintro ⟨hdistinct, hall⟩
    exact (List.subperm_of_subset hdistinct fun k hk => (hfound k).mpr (hall k hk)).length_le

/-- A change of the selected entries that does not show in a count leaves it. -/
theorem countWhere_updateWhere_same [DecidableEq κ]
    (h : ∀ k v, m.lookup k = some v → selected k v = true → counted k (set v) = counted k v) :
    countWhere (updateWhere m selected set) counted = countWhere m counted := by
  rw [countWhere, pairs_updateWhere, List.countP_map, countWhere]
  refine List.countP_congr fun p hp => ?_
  simp only [Function.comp_apply]
  split
  · next hselected => rw [h p.1 p.2 (mem_pairs.mp hp) hselected]
  · rfl

/-- A change that makes each selected entry count, where none did, adds their number. -/
theorem countWhere_updateWhere_add
    (hbefore : ∀ k v, selected k v = true → counted k v = false)
    (hafter : ∀ k v, selected k v = true → counted k (set v) = true) :
    countWhere (updateWhere m selected set) counted =
      countWhere m counted + countWhere m selected := by
  rw [countWhere, pairs_updateWhere, List.countP_map, countWhere, countWhere]
  induction pairs m with
  | nil => rfl
  | cons p rest ih =>
    rw [List.countP_cons, List.countP_cons, List.countP_cons, ih]
    simp only [Function.comp_apply]
    by_cases hselected : selected p.1 p.2 = true
    · simp only [hselected, if_true, hafter p.1 p.2 hselected, hbefore p.1 p.2 hselected,
        Bool.false_eq_true, if_false]
      omega
    · simp only [hselected, Bool.false_eq_true, if_false]
      omega

end Kit
