import Mathlib.Data.List.Perm.Basic
import IntentRebase.Kit.Transition
import IntentRebase.Kit.TwoRuns

/-! Two implementations of one interface, with choices of their own at each call, such as the order
in which they read their contents: when no sequence of calls tells the one from the other. One of
them may be a table whose rows read back as the values of the other. -/

namespace Kit

variable {σ τ ι ℓ α β : Type}

/-- The answers to a sequence of calls, with the choice at each call by its place, and the state
after them. -/
def runCalls (call : ι → ℓ → σ → α × σ) : (Nat → ι) → σ → List ℓ → List α × σ
  | _, s, [] => ([], s)
  | choice, s, l :: ls =>
    let (answer, s') := call (choice 0) l s
    let (answers, last) := runCalls call (fun n => choice (n + 1)) s' ls
    (answer :: answers, last)

/-- Whatever is chosen, both give the same answers and end in related states. -/
def Agree (left : ι → ℓ → σ → α × σ) (right : ι → ℓ → τ → β × τ) (same : α → β → Prop)
    (related : σ → τ → Prop) (s : σ) (t : τ) (ls : List ℓ) : Prop :=
  ∀ choice : Nat → ι,
    List.Forall₂ same (runCalls left choice s ls).1 (runCalls right choice t ls).1 ∧
    related (runCalls left choice s ls).2 (runCalls right choice t ls).2

variable {left : ι → ℓ → σ → α × σ} {right : ι → ℓ → τ → β × τ} {same : α → β → Prop}
  {related : σ → τ → Prop} {s : σ} {t : τ}

theorem agree_cons (l : ℓ) (ls : List ℓ) :
    Agree left right same related s t (l :: ls) ↔
      (∀ i, same (left i l s).1 (right i l t).1) ∧
      ∀ i, Agree left right same related (left i l s).2 (right i l t).2 ls := by
  constructor
  · intro h
    constructor
    · intro i
      exact (List.forall₂_cons.mp (h fun _ => i).1).1
    · intro first choice
      obtain ⟨hanswers, hlast⟩ := h fun n => if n = 0 then first else choice (n - 1)
      exact ⟨(List.forall₂_cons.mp hanswers).2, hlast⟩
  · rintro ⟨hhead, htail⟩ choice
    obtain ⟨hanswers, hlast⟩ := htail (choice 0) fun n => choice (n + 1)
    exact ⟨.cons (hhead (choice 0)) hanswers, hlast⟩

/-- From related states, two implementations agree on a sequence of calls exactly if every call of
it is in step: a call in step is one that gets the same answer, and it keeps the states related,
which implies what is asked of the last of them. -/
theorem agree_iff_of_final [Nonempty ι] {next : σ → ℓ → σ} {inStep : σ → ℓ → Prop}
    {final : σ → τ → Prop} (hleft : ∀ i l s, (left i l s).2 = next s l)
    (hanswer : ∀ {s t} l, related s t →
      ((∀ i, same (left i l s).1 (right i l t).1) ↔ inStep s l))
    (hnext : ∀ {s t l} i, related s t → inStep s l → related (next s l) (right i l t).2)
    (hfinal : ∀ {s t}, related s t → final s t) (h : related s t) (ls : List ℓ) :
    Agree left right same final s t ls ↔ AllSteps next inStep s ls := by
  induction ls generalizing s t with
  | nil => exact iff_of_true (fun _ => ⟨.nil, hfinal h⟩) trivial
  | cons l ls ih =>
    rw [agree_cons, hanswer l h, AllSteps]
    refine and_congr_right fun hstep => ?_
    constructor
    · intro htail
      obtain ⟨i⟩ := ‹Nonempty ι›
      have hrest := htail i
      rw [hleft] at hrest
      exact (ih (hnext i h hstep)).mp hrest
    · intro htail i
      rw [hleft]
      exact (ih (hnext i h hstep)).mpr htail

/-- Let the implementations be related through what was called so far. Up to every call of a
sequence they agree exactly if every call is in step: a call in step is one that gets the same
answer and leaves what is asked of the last states, and it keeps them related. -/
theorem agree_prefixes_iff [Nonempty ι] {γ : Type} (related : γ → σ → τ → Prop) {next : γ → ℓ → γ}
    {nextLeft : σ → ℓ → σ} {nextRight : τ → ℓ → τ} {fresh inStep : γ → ℓ → Prop}
    {final : σ → τ → Prop} (hleft : ∀ i l s, (left i l s).2 = nextLeft s l)
    (hright : ∀ i l t, (right i l t).2 = nextRight t l)
    (hstep : ∀ {c s t} l, related c s t → fresh c l →
      ((∀ i, same (left i l s).1 (right i l t).1) ∧ final (nextLeft s l) (nextRight t l) ↔
        inStep c l))
    (hnext : ∀ {c s t} l, related c s t → fresh c l → inStep c l →
      related (next c l) (nextLeft s l) (nextRight t l))
    (hfinal : ∀ c s t, related c s t → final s t) {c : γ} (h : related c s t) {ls : List ℓ}
    (hfresh : AllSteps next fresh c ls) :
    (∀ before, before <+: ls → Agree left right same final s t before) ↔
      AllSteps next inStep c ls := by
  have hnil : ∀ {c s t}, related c s t → Agree left right same final s t [] :=
    fun hrelated _ => ⟨.nil, hfinal _ _ _ hrelated⟩
  induction ls generalizing c s t with
  | nil =>
    refine iff_of_true (fun before hbefore => ?_) trivial
    rw [List.prefix_nil.mp hbefore]
    exact hnil h
  | cons l ls ih =>
    obtain ⟨hl, hrest⟩ := hfresh
    obtain ⟨i⟩ := ‹Nonempty ι›
    constructor
    · intro hall
      obtain ⟨hanswers, htail⟩ := (agree_cons l []).mp (hall [l] (by simp))
      have hlast := (htail i fun _ => i).2
      simp only [runCalls, hleft, hright] at hlast
      have hfirst : inStep c l := (hstep l h hl).mp ⟨hanswers, hlast⟩
      refine ⟨hfirst, (ih (hnext l h hl hfirst) hrest).mp fun before hbefore => ?_⟩
      have hlater := ((agree_cons l before).mp
        (hall (l :: before) (List.cons_prefix_cons.mpr ⟨rfl, hbefore⟩))).2 i
      rwa [hleft, hright] at hlater
    · rintro ⟨hfirst, hlater⟩ before hbefore
      cases before with
      | nil => exact hnil h
      | cons l' before =>
        obtain ⟨rfl, hbeforeRest⟩ := List.cons_prefix_cons.mp hbefore
        refine (agree_cons l' before).mpr ⟨((hstep l' h hl).mpr hfirst).1, fun i => ?_⟩
        rw [hleft, hright]
        exact (ih (hnext l' h hl hfirst) hrest).mpr hlater before hbeforeRest

/-- The case in which what was called so far is known by the state of the first. -/
theorem agree_prefixes_iff_of_state [Nonempty ι] {next : σ → ℓ → σ} {nextRight : τ → ℓ → τ}
    {inStep : σ → ℓ → Prop} {final : σ → τ → Prop} (related : σ → τ → Prop)
    (hleft : ∀ i l s, (left i l s).2 = next s l) (hright : ∀ i l t, (right i l t).2 = nextRight t l)
    (hstep : ∀ {s t} l, related s t →
      ((∀ i, same (left i l s).1 (right i l t).1) ∧ final (next s l) (nextRight t l) ↔ inStep s l))
    (hnext : ∀ {s t} l, related s t → final (next s l) (nextRight t l) → inStep s l →
      related (next s l) (nextRight t l))
    (hfinal : ∀ s t, related s t → final s t) (h : related s t) (ls : List ℓ) :
    (∀ before, before <+: ls → Agree left right same final s t before) ↔
      AllSteps next inStep s ls := by
  refine agree_prefixes_iff (fun c s t => c = s ∧ related s t) hleft hright ?_ ?_
    (fun _ _ _ h => hfinal _ _ h.2) ⟨rfl, h⟩ (allSteps_true next s ls)
  · rintro c s t l ⟨rfl, hrelated⟩ -
    exact hstep l hrelated
  · rintro c s t l ⟨rfl, hrelated⟩ - hin
    exact ⟨rfl, hnext l hrelated ((hstep l hrelated).mpr hin).2 hin⟩

section ReadBack

variable {κ ν ρ ε : Type} [DecidableEq κ] {read : ν → Except ε ρ} {table : HashMap κ ν}
  {store : HashMap κ ρ}

/-- Under each key, the row of a table reads back as the value of a store. -/
def ReadsAs (read : ν → Except ε ρ) (table : HashMap κ ν) (store : HashMap κ ρ) : Prop :=
  ∀ k, (table.lookup k).map read = (store.lookup k).map .ok

theorem ReadsAs.lookup_eq_none (h : ReadsAs read table store) {k : κ} :
    table.lookup k = none ↔ store.lookup k = none := by
  rw [← Option.map_eq_none_iff (f := read), h k, Option.map_eq_none_iff]

theorem ReadsAs.read_row (h : ReadsAs read table store) {k : κ} {a : ρ}
    (hstore : store.lookup k = some a) : ∃ row, table.lookup k = some row ∧ read row = .ok a := by
  have hk := h k
  rw [hstore, Option.map_some, Option.map_eq_some_iff] at hk
  exact hk

/-- After an insertion on both sides the new row reads back as the new value. -/
theorem ReadsAs.insert_iff (h : ReadsAs read table store) (k : κ) (row : ν) (a : ρ) :
    ReadsAs read (table.insert k row) (store.insert k a) ↔ read row = .ok a := by
  constructor
  · intro hinsert
    have hk := hinsert k
    rw [AList.lookup_insert, AList.lookup_insert] at hk
    exact Option.some.inj hk
  · intro hrow k'
    rw [lookup_insert_eq, lookup_insert_eq]
    split
    · exact congrArg some hrow
    · exact h k'

/-- The rows read back as the values, in some order. -/
theorem ReadsAs.values (h : ReadsAs read table store) :
    ∃ values, values.Perm ((pairs store).map Prod.snd) ∧
      List.Forall₂ (fun row a => read row = .ok a) ((pairs table).map Prod.snd) values := by
  have hperm : ((pairs table).map fun p => (p.1, read p.2)).Perm
      ((pairs store).map fun p => (p.1, .ok p.2)) := by
    have hnodup : ∀ {ν' : Type} (m : HashMap κ ν') (f : ν' → Except ε ρ),
        ((pairs m).map fun p => (p.1, f p.2)).Nodup := by
      intro ν' m f
      apply List.Nodup.of_map Prod.fst
      rw [List.map_map]
      exact nodup_pairs_keys m
    refine (List.perm_ext_iff_of_nodup (hnodup table read) (hnodup store .ok)).mpr ?_
    have hmem : ∀ {ν' : Type} (m : HashMap κ ν') (f : ν' → Except ε ρ) k r,
        (k, r) ∈ (pairs m).map (fun p => (p.1, f p.2)) ↔ (m.lookup k).map f = some r := by
      intro ν' m f k r
      rw [List.mem_map, Option.map_eq_some_iff]
      constructor
      · rintro ⟨⟨k', v⟩, hpair, heq⟩
        cases heq
        exact ⟨v, mem_pairs.mp hpair, rfl⟩
      · rintro ⟨v, hlookup, rfl⟩
        exact ⟨(k, v), mem_pairs.mpr hlookup, rfl⟩
    rintro ⟨k, r⟩
    rw [hmem table read, hmem store .ok, h k]
  have hreads : (((pairs table).map Prod.snd).map read).Perm
      (((pairs store).map Prod.snd).map .ok) := by
    have hsnd := hperm.map Prod.snd
    rw [List.map_map, List.map_map] at hsnd
    rw [List.map_map, List.map_map]
    exact hsnd
  obtain ⟨values, hvalues, hvaluesPerm⟩ :=
    (congrFun₂ (List.eq_map_comp_perm (Except.ok (ε := ε))) _ _).mpr hreads
  refine ⟨values, hvaluesPerm, ?_⟩
  rw [← List.forall₂_eq_eq_eq, List.forall₂_map_left_iff, List.forall₂_map_right_iff] at hvalues
  exact hvalues

theorem mapM_eq_ok {rows : List ν} {values : List ρ}
    (h : List.Forall₂ (fun row a => read row = .ok a) rows values) :
    rows.mapM read = .ok values := by
  induction h with
  | nil => rfl
  | cons hrow _ ih =>
    rw [List.mapM_cons, hrow, ih]
    rfl

/-- A listing of the rows that pass a test reads back as that of the values which do, whatever the
order of the scan, if no two of them have one time. -/
theorem ReadsAs.scanLatest {β : Type} [LinearOrder β] {time : ν → β} {time' : ρ → β}
    {test : ν → Bool} {test' : ρ → Bool} (h : ReadsAs read table store)
    (hrow : ∀ row a, read row = .ok a → time row = time' a ∧ test row = test' a)
    (scan : IterOrder ν) {items : List ρ}
    (hitems : items.Perm (((pairs store).map Prod.snd).filter test'))
    (hdistinct : (items.map time').Nodup) :
    List.Forall₂ (fun row a => read row = .ok a) (scanLatest scan time test table)
      (latestFirst time' items) := by
  obtain ⟨values, hvalues, hreads⟩ := h.values
  have hfiltered : List.Forall₂ (fun row a => read row = .ok a)
      (((pairs table).map Prod.snd).filter test) (values.filter test') :=
    List.rel_filter (fun row a hread => iff_of_eq (congrArg (· = true) (hrow row a hread).2)) hreads
  have hscanned : (Relation.Comp List.Perm (List.Forall₂ fun row a => read row = .ok a))
      (Kit.scanLatest scan time test table) (values.filter test') :=
    ⟨_, (latestFirst_perm time _).trans (scan.perm _), hfiltered⟩
  rw [← List.forall₂_comp_perm_eq_perm_comp_forall₂] at hscanned
  obtain ⟨sorted, hsorted, hperm⟩ := hscanned
  have hsame : sorted.Perm items := hperm.trans ((hvalues.filter test').trans hitems.symm)
  have htimes : (Kit.scanLatest scan time test table).map time = sorted.map time' := by
    rw [← List.forall₂_eq_eq_eq, List.forall₂_map_left_iff, List.forall₂_map_right_iff]
    exact hsorted.imp fun row a hread => (hrow row a hread).1
  have hpairwise : sorted.Pairwise fun a b => time' b ≤ time' a := by
    have hrows : ((Kit.scanLatest scan time test table).map time).Pairwise fun x y => y ≤ x :=
      List.pairwise_map.mpr (latestFirst_pairwise time _)
    rw [htimes] at hrows
    exact List.pairwise_map.mp hrows
  -- Both are sorted, and no two of the items have one time.
  have heq : sorted = latestFirst time' items := by
    refine List.Perm.eq_of_pairwise ?_ hpairwise (latestFirst_pairwise time' items)
      (hsame.trans (latestFirst_perm time' items).symm)
    intro a b ha hb hab hba
    exact List.inj_on_of_nodup_map hdistinct (hsame.mem_iff.mp ha)
      ((mem_latestFirst time').mp hb) (le_antisymm hba hab)
  exact heq ▸ hsorted

end ReadBack

end Kit
