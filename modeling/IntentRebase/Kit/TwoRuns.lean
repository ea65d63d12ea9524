import Mathlib.Data.Set.Basic
import IntentRebase.Kit.LatestFirst
import IntentRebase.Kit.SecondaryIndex

/-! Two runs of one query, on states that agree on what an owner has: when the answers that the
states can give are the same, so that the query shows nothing of the rest. -/

namespace Kit

section Answers

variable {δ σ α : Type}

/-- The answers that a state can give, over the draws that a query leaves open. A query without an
answer yet has run out of fuel. -/
def Answers (query : δ → σ → Option α) (s : σ) : Set α := {a | ∃ d, query d s = some a}

/-- Related states can give the same answers. -/
def Blind (related : σ → σ → Prop) (query : δ → σ → Option α) : Prop :=
  ∀ s s', related s s' → Answers query s = Answers query s'

variable {related : σ → σ → Prop} {query : δ → σ → Option α}

/-- It is enough to follow every draw in one state by a draw in the other. -/
theorem blind_of_follows (hsymm : ∀ s s', related s s' → related s' s)
    (h : ∀ s s', related s s' → ∀ d, ∃ d', query d' s' = query d s) : Blind related query := by
  have hsub : ∀ s s', related s s' → Answers query s ⊆ Answers query s' := by
    rintro s s' hrel a ⟨d, hd⟩
    obtain ⟨d', hd'⟩ := h s s' hrel d
    exact ⟨d', hd'.trans hd⟩
  exact fun s s' hrel => Set.Subset.antisymm (hsub s s' hrel) (hsub s' s (hsymm s s' hrel))

/-- A query that every state answers alike shows nothing. -/
theorem blind_of_constant (answer : δ → Option α) (h : ∀ d s, query d s = answer d) :
    Blind related query := by
  intro s s' _
  simp only [Answers, h]

/-- An answer that only one of two related states can give tells them apart. -/
theorem not_blind {s s' : σ} {d : δ} {a : α} (hrel : related s s') (hanswer : query d s = some a)
    (hother : ∀ d, query d s' ≠ some a) : ¬ Blind related query := by
  intro hblind
  have hmem : a ∈ Answers query s' := hblind s s' hrel ▸ ⟨d, hanswer⟩
  obtain ⟨d', hd'⟩ := hmem
  exact hother d' hd'

end Answers

section Maps

variable {κ ν : Type} [DecidableEq κ]

/-- A map with one entry. -/
def single (k : κ) (v : ν) : HashMap κ ν := (∅ : HashMap κ ν).insert k v

@[simp] theorem lookup_single_self (k : κ) (v : ν) : (single k v).lookup k = some v :=
  AList.lookup_insert _

@[simp] theorem pairs_single (k : κ) (v : ν) : pairs (single k v) = [(k, v)] :=
  pairs_insert (AList.notMem_empty k)

theorem lookup_single {k k' : κ} {v w : ν} (h : (single k v).lookup k' = some w) : w = v := by
  rw [single, lookup_insert_eq] at h
  split at h
  · exact (Option.some.inj h).symm
  · cases h

/-- The maps have the same entries of an owner. -/
def AgreeOn (owned : ν → Prop) (m m' : HashMap κ ν) : Prop :=
  ∀ k v, owned v → (m.lookup k = some v ↔ m'.lookup k = some v)

namespace AgreeOn

variable {owned : ν → Prop} {m m' : HashMap κ ν} {p : ν → Bool}

theorem refl (owned : ν → Prop) (m : HashMap κ ν) : AgreeOn owned m m := fun _ _ _ => .rfl

theorem symm (h : AgreeOn owned m m') : AgreeOn owned m' m := fun k v hv => (h k v hv).symm

/-- A map without entries of the owner agrees with the empty map. -/
theorem of_none (h : ∀ k v, m.lookup k = some v → ¬ owned v) : AgreeOn owned ∅ m := fun k v hv =>
  iff_of_false (by simp) fun hlookup => h k v hlookup hv

/-- A map with one entry, of another owner, agrees with the empty map. -/
theorem single_empty {k : κ} {v : ν} (h : ¬ owned v) : AgreeOn owned (single k v) ∅ :=
  (of_none fun _ _ hlookup => lookup_single hlookup ▸ h).symm

/-- The entries that meet a test which only the owner's meet. -/
theorem pairs_perm (h : AgreeOn owned m m') (hp : ∀ v, p v = true → owned v) :
    ((pairs m).filter fun e => p e.2).Perm ((pairs m').filter fun e => p e.2) := by
  have hnodup : ∀ m : HashMap κ ν, ((pairs m).filter fun e => p e.2).Nodup := fun m =>
    List.Nodup.filter _ (.of_map _ (nodup_pairs_keys m))
  refine (List.perm_ext_iff_of_nodup (hnodup m) (hnodup m')).mpr ?_
  rintro ⟨k, v⟩
  rw [List.mem_filter, List.mem_filter, mem_pairs, mem_pairs]
  exact and_congr_left fun htest => h k v (hp v htest)

theorem values_perm (h : AgreeOn owned m m') (hp : ∀ v, p v = true → owned v) :
    (((pairs m).map Prod.snd).filter p).Perm (((pairs m').map Prod.snd).filter p) := by
  rw [List.filter_map, List.filter_map]
  exact (h.pairs_perm hp).map _

/-- What the owner has under a key. -/
theorem lookup_filter [DecidablePred owned] (h : AgreeOn owned m m') (k : κ) :
    (m.lookup k).filter (fun v => owned v) = (m'.lookup k).filter fun v => owned v := by
  ext v
  simp only [Option.filter_eq_some_iff, decide_eq_true_eq]
  exact and_congr_left fun hv => h k v hv

end AgreeOn

/-- The order of an iteration can be followed where a test leaves the same items. -/
theorem IterOrder.exists_filter {α : Type} (order : IterOrder α) {l l' : List α} {p : α → Bool}
    (h : (l.filter p).Perm (l'.filter p)) :
    ∃ order' : IterOrder α, (order'.apply l').filter p = (order.apply l).filter p := by
  have htarget : ((order.apply l).filter p ++ l'.filter fun a => !p a).Perm l' := by
    refine List.Perm.trans (List.Perm.append_right _ ?_) (List.filter_append_perm p l')
    exact ((order.perm l).filter p).trans h
  obtain ⟨order', happly⟩ := IterOrder.exists_apply htarget
  refine ⟨order', ?_⟩
  rw [happly, List.filter_append, List.filter_filter, List.filter_filter]
  simp

/-- The order of a scan can be followed where the rows are the same. -/
theorem IterOrder.exists_scan {α : Type} (order : IterOrder α) {l l' : List α} (h : l.Perm l') :
    ∃ order' : IterOrder α, order'.apply l' = order.apply l :=
  IterOrder.exists_apply ((order.perm l).trans h)

/-- The rows of a table that pass a test, latest first, and in any order among rows of one time. -/
def scanLatest {β : Type} [LinearOrder β] (scan : IterOrder ν) (time : ν → β) (test : ν → Bool)
    (table : HashMap κ ν) : List ν :=
  latestFirst time (scan.apply (((pairs table).map Prod.snd).filter test))

theorem mem_scanLatest {β : Type} [LinearOrder β] {scan : IterOrder ν} {time : ν → β}
    {test : ν → Bool} {table : HashMap κ ν} {row : ν} :
    row ∈ scanLatest scan time test table ↔
      (∃ k, table.lookup k = some row) ∧ test row = true := by
  rw [scanLatest, mem_latestFirst, IterOrder.mem_apply, List.mem_filter, List.mem_map]
  refine and_congr_left fun _ => ⟨?_, fun ⟨k, hk⟩ => ⟨(k, row), mem_pairs.mpr hk, rfl⟩⟩
  rintro ⟨⟨k, row⟩, hmem, rfl⟩
  exact ⟨k, mem_pairs.mp hmem⟩

@[simp] theorem scanLatest_empty {β : Type} [LinearOrder β] (scan : IterOrder ν) (time : ν → β)
    (test : ν → Bool) : scanLatest scan time test (∅ : HashMap κ ν) = [] := by
  refine List.eq_nil_iff_forall_not_mem.mpr fun row hrow => ?_
  obtain ⟨⟨k, hlookup⟩, -⟩ := mem_scanLatest.mp hrow
  cases hlookup

theorem scanLatest_single {β : Type} [LinearOrder β] {scan : IterOrder ν} {time : ν → β}
    {test : ν → Bool} {k : κ} {v : ν} (h : test v = true) :
    scanLatest scan time test (single k v) = [v] := by
  have hperm : (scanLatest scan time test (single k v)).Perm [v] := by
    refine (latestFirst_perm _ _).trans ((scan.perm _).trans ?_)
    simp [h]
  exact List.perm_singleton.mp hperm

/-- The listing of rows that only the owner has can be followed. -/
theorem AgreeOn.exists_scanLatest {β : Type} [LinearOrder β] {owned : ν → Prop}
    {m m' : HashMap κ ν} (h : AgreeOn owned m m') (scan : IterOrder ν) (time : ν → β)
    (test : ν → Bool) (htest : ∀ v, test v = true → owned v) :
    ∃ scan' : IterOrder ν, scanLatest scan' time test m' = scanLatest scan time test m := by
  obtain ⟨scan', hscan⟩ := scan.exists_scan (h.values_perm htest)
  exact ⟨scan', by rw [scanLatest, hscan, scanLatest]⟩

end Maps

section Indices

variable {κ ι ν : Type} [DecidableEq κ] [DecidableEq ι]

/-- Under each key, the indices list an owner's values alike. -/
def ListedAlike (owned : ν → Prop) [DecidablePred owned] (m m' : HashMap ι ν)
    (index index' : SecondaryIndex κ ι) : Prop :=
  ∀ k, ((index.bucket k).filterMap m.lookup).filter (fun v => owned v) =
    ((index'.bucket k).filterMap m'.lookup).filter fun v => owned v

namespace ListedAlike

variable {owned : ν → Prop} [DecidablePred owned] {m m' : HashMap ι ν}
  {index index' : SecondaryIndex κ ι} {key : ν → κ} {k : κ}

theorem refl (owned : ν → Prop) [DecidablePred owned] (m : HashMap ι ν)
    (index : SecondaryIndex κ ι) : ListedAlike owned m m index index := fun _ => rfl

theorem symm (h : ListedAlike owned m m' index index') : ListedAlike owned m' m index' index :=
  fun k => (h k).symm

/-- What another owner has, however it is listed, does not show among the owner's values. -/
theorem single_empty {i : ι} {v : ν} (h : ¬ owned v) (index index' : SecondaryIndex κ ι) :
    ListedAlike owned (single i v) ∅ index index' := by
  intro k
  have hother : ∀ w ∈ (index.bucket k).filterMap (single i v).lookup, ¬ owned w := by
    intro w hmem
    obtain ⟨j, -, hlookup⟩ := List.mem_filterMap.mp hmem
    exact lookup_single hlookup ▸ h
  rw [List.filter_eq_nil_iff.mpr fun w hmem howned => hother w hmem (of_decide_eq_true howned)]
  simp

/-- Under a key of the owner, exact indices list the same values. -/
theorem bucket (h : ListedAlike owned m m' index index') (hexact : index.Exact m key)
    (hexact' : index'.Exact m' key) (hkey : ∀ v, key v = k → owned v) :
    (index.bucket k).filterMap m.lookup = (index'.bucket k).filterMap m'.lookup := by
  have hall : ∀ {m : HashMap ι ν} {index : SecondaryIndex κ ι}, index.Exact m key →
      ((index.bucket k).filterMap m.lookup).filter (fun v => owned v) =
        (index.bucket k).filterMap m.lookup := by
    intro m index hexact
    refine List.filter_eq_self.mpr fun v hv => decide_eq_true (hkey v ?_)
    have hmem := (hexact.values_perm k).mem_iff.mp hv
    exact of_decide_eq_true (List.mem_filter.mp hmem).2
  rw [← hall hexact, ← hall hexact', h k]

end ListedAlike

end Indices

end Kit
