import Mathlib.Data.List.Sort

/-! Rows selected by a conjunction of conditions, and when leaving conditions out changes nothing.
-/

namespace Kit

variable {ρ γ : Type}

/-- The row meets every condition. -/
def meets (holds : γ → ρ → Bool) (conditions : List γ) (row : ρ) : Bool :=
  conditions.all fun c => holds c row

/-- The rows that meet every condition. -/
def select (holds : γ → ρ → Bool) (conditions : List γ) (rows : List ρ) : List ρ :=
  rows.filter (meets holds conditions)

/-- Any of the conditions can fail alone. -/
def Independent (holds : γ → ρ → Bool) (conditions : List γ) : Prop :=
  ∀ c ∈ conditions, ∃ row, holds c row = false ∧ ∀ c' ∈ conditions, c' ≠ c → holds c' row = true

variable {holds : γ → ρ → Bool} {tested supplied : List γ} {rows : List ρ}

theorem meets_iff {row : ρ} : meets holds tested row = true ↔ ∀ c ∈ tested, holds c row = true := by
  rw [meets, List.all_eq_true]

theorem meets_append (left right : List γ) (row : ρ) :
    meets holds (left ++ right) row = (meets holds left row && meets holds right row) :=
  List.all_append

/-- The condition of an optional field holds of every row if the field is absent. -/
theorem meets_optional {α : Type} (condition : α → γ) (field : Option α) (row : ρ) :
    meets holds (field.toList.map condition) row = field.all fun v => holds (condition v) row := by
  cases field with
  | none => rfl
  | some v => simp [meets]

theorem mem_select {row : ρ} :
    row ∈ select holds tested rows ↔ row ∈ rows ∧ ∀ c ∈ tested, holds c row = true := by
  rw [select, List.mem_filter, meets_iff]

/-- A query that tests only some of the supplied conditions selects the same rows exactly if each
row that passes its tests meets the others too. -/
theorem select_perm_iff (hsub : tested ⊆ supplied) :
    (select holds tested rows).Perm (select holds supplied rows) ↔
      ∀ row ∈ rows, (∀ c ∈ tested, holds c row = true) → ∀ c ∈ supplied, holds c row = true := by
  constructor
  · intro hperm row hrow htested
    exact (mem_select.mp (hperm.mem_iff.mp (mem_select.mpr ⟨hrow, htested⟩))).2
  · intro h
    have hsame : select holds tested rows = select holds supplied rows := by
      refine List.filter_congr fun row hrow => Bool.eq_iff_iff.mpr ?_
      rw [meets_iff, meets_iff]
      exact ⟨h row hrow, fun hall c hc => hall c (hsub hc)⟩
    rw [hsame]

/-- Among independent conditions, a query that selects the right rows of every table of one row
tests all that are supplied. -/
theorem subset_of_select_perm (hsub : tested ⊆ supplied) (hind : Independent holds supplied)
    (h : ∀ row, (select holds tested [row]).Perm (select holds supplied [row])) :
    supplied ⊆ tested := by
  intro c hc
  by_contra hnot
  obtain ⟨row, hfail, hothers⟩ := hind c hc
  have htested : ∀ c' ∈ tested, holds c' row = true := fun c' hc' =>
    hothers c' (hsub hc') (ne_of_mem_of_not_mem hc' hnot)
  have hall := (select_perm_iff hsub).mp (h row) row List.mem_cons_self htested c hc
  rw [hfail] at hall
  cases hall

section Decode

variable {α ε : Type} {decode : ρ → Except ε α} {encode : α → ρ}

/-- Rows that encode values decode to them, in the order of the rows. -/
theorem mapM_decode (h : ∀ a, decode (encode a) = .ok a) {rows : List ρ} {values : List α}
    (hperm : rows.Perm (values.map encode)) :
    ∃ decoded, rows.mapM decode = .ok decoded ∧ decoded.Perm values := by
  have hrows : ∀ {rows : List ρ}, (∀ row ∈ rows, ∃ a, row = encode a) →
      rows.mapM decode = .ok (rows.filterMap fun row => (decode row).toOption) := by
    intro rows hall
    induction rows with
    | nil => rfl
    | cons row rest ih =>
      obtain ⟨⟨a, rfl⟩, hrest⟩ := List.forall_mem_cons.mp hall
      rw [List.mapM_cons, h, ih hrest, List.filterMap_cons, h]
      rfl
  have hvalues : (values.map encode).filterMap (fun row => (decode row).toOption) = values := by
    rw [List.filterMap_map]
    have hsome : (fun row => (decode row).toOption) ∘ encode = some := by
      funext a
      rw [Function.comp_apply, h]
      rfl
    rw [hsome, List.filterMap_some]
  refine ⟨_, hrows fun row hrow => ?_, hvalues ▸ hperm.filterMap _⟩
  obtain ⟨a, _, ha⟩ := List.mem_map.mp (hperm.mem_iff.mp hrow)
  exact ⟨a, ha.symm⟩

end Decode

end Kit
