import Mathlib.Data.List.Basic

/-! Statements with numbered placeholders. A statement sets some columns, each to the parameter of a
number, and the parameters are bound in order: `$n` is the `n`-th. -/

namespace Kit

variable {γ ν : Type}

/-- `column = $n`. -/
structure Assignment (γ : Type) where
  column : γ
  placeholder : Nat
deriving DecidableEq, Repr

/-- The value of `$n` under some bound parameters. -/
def parameter (bound : List ν) : Nat → Option ν
  | 0 => none
  | n + 1 => bound[n]?

/-- The values that a statement sets, if each placeholder has a parameter. -/
def resolve (bound : List ν) (assignments : List (Assignment γ)) : Option (List (γ × ν)) :=
  assignments.mapM fun a => (parameter bound a.placeholder).map fun v => (a.column, v)

/-- The assignments of the fields that are supplied, where the field at each place has a fixed
number, counted from `first`. -/
def assignFixed (first : Nat) : List (γ × Option ν) → List (Assignment γ)
  | [] => []
  | (column, some _) :: fields => ⟨column, first⟩ :: assignFixed (first + 1) fields
  | (_, none) :: fields => assignFixed (first + 1) fields

/-- The fields that are supplied, with their values. -/
def supplied (fields : List (γ × Option ν)) : List (γ × ν) :=
  fields.filterMap fun f => f.2.map fun v => (f.1, v)

/-- The parameters bound for the fields that are supplied. -/
def suppliedValues (fields : List (γ × Option ν)) : List ν := (supplied fields).map Prod.snd

/-- No field is supplied after one that is not. -/
def SuppliedFirst : List (γ × Option ν) → Prop
  | [] => True
  | (_, some _) :: fields => SuppliedFirst fields
  | (_, none) :: fields => supplied fields = []

@[simp] theorem resolve_nil (bound : List ν) : resolve bound ([] : List (Assignment γ)) = some [] :=
  rfl

theorem resolve_cons (bound : List ν) (a : Assignment γ) (rest : List (Assignment γ)) :
    resolve bound (a :: rest) =
      (parameter bound a.placeholder).bind fun v =>
        (resolve bound rest).map fun values => (a.column, v) :: values := by
  simp only [resolve, List.mapM_cons]
  cases parameter bound a.placeholder with
  | none => rfl
  | some v =>
    cases List.mapM (fun a : Assignment γ =>
      (parameter bound a.placeholder).map fun v => (a.column, v)) rest <;> rfl

@[simp] theorem supplied_some (column : γ) (v : ν) (fields : List (γ × Option ν)) :
    supplied ((column, some v) :: fields) = (column, v) :: supplied fields := rfl

@[simp] theorem supplied_none (column : γ) (fields : List (γ × Option ν)) :
    supplied ((column, none) :: fields) = supplied fields := rfl

@[simp] theorem suppliedValues_some (column : γ) (v : ν) (fields : List (γ × Option ν)) :
    suppliedValues ((column, some v) :: fields) = v :: suppliedValues fields := rfl

@[simp] theorem suppliedValues_none (column : γ) (fields : List (γ × Option ν)) :
    suppliedValues ((column, none) :: fields) = suppliedValues fields := rfl

theorem suppliedValues_eq_nil {fields : List (γ × Option ν)} :
    suppliedValues fields = [] ↔ supplied fields = [] := List.map_eq_nil_iff

theorem assignFixed_of_supplied_nil {fields : List (γ × Option ν)} (h : supplied fields = [])
    (first : Nat) : assignFixed first fields = [] := by
  induction fields generalizing first with
  | nil => rfl
  | cons field fields ih =>
    obtain ⟨column, _ | v⟩ := field
    · exact ih h (first + 1)
    · cases h

/-- After a gap the last placeholder lies beyond the parameters. -/
theorem resolve_gap {fields : List (γ × Option ν)} (before : List ν) (first : Nat)
    (hgap : before.length + 1 < first) (hne : supplied fields ≠ []) :
    resolve (before ++ suppliedValues fields) (assignFixed first fields) = none := by
  induction fields generalizing before first with
  | nil => exact absurd rfl hne
  | cons field fields ih =>
    obtain ⟨column, _ | v⟩ := field
    · exact ih before (first + 1) (by omega) hne
    · rw [assignFixed, suppliedValues_some, resolve_cons]
      by_cases hrest : supplied fields = []
      · -- the last supplied field: its number is beyond its place
        obtain ⟨n, rfl⟩ : ∃ n, first = n + 1 := ⟨first - 1, by omega⟩
        have hout : (before ++ [v])[n]? = none := by
          rw [List.getElem?_eq_none_iff, List.length_append, List.length_singleton]
          omega
        rw [suppliedValues_eq_nil.mpr hrest, parameter, hout]
        rfl
      · have hlength : (before ++ [v]).length + 1 < first + 1 := by
          rw [List.length_append, List.length_singleton]
          omega
        have htail := ih (before ++ [v]) (first + 1) hlength hrest
        rw [List.append_assoc, List.singleton_append] at htail
        rw [htail]
        cases parameter (before ++ v :: suppliedValues fields) first <;> rfl

/-- With fixed numbers, and parameters bound only for what is supplied, a statement is complete
exactly if no field is supplied after one that is not; then each field gets its own value. -/
theorem resolve_assignFixed (fields : List (γ × Option ν)) (before : List ν) :
    (SuppliedFirst fields →
      resolve (before ++ suppliedValues fields) (assignFixed (before.length + 1) fields) =
        some (supplied fields)) ∧
    (¬ SuppliedFirst fields →
      resolve (before ++ suppliedValues fields) (assignFixed (before.length + 1) fields) =
        none) := by
  induction fields generalizing before with
  | nil => exact ⟨fun _ => rfl, fun h => absurd trivial h⟩
  | cons field fields ih =>
    obtain ⟨column, _ | v⟩ := field
    · rw [assignFixed, suppliedValues_none, supplied_none]
      constructor
      · intro h
        have hnone : supplied fields = [] := h
        rw [assignFixed_of_supplied_nil hnone, hnone, resolve_nil]
      · exact fun h => resolve_gap before _ (Nat.lt_succ_self _) h
    · obtain ⟨hfirst, hnot⟩ := ih (before ++ [v])
      have hown : parameter (before ++ v :: suppliedValues fields) (before.length + 1) = some v := by
        rw [parameter, List.getElem?_append_right (Nat.le_refl _), Nat.sub_self]
        rfl
      rw [List.append_assoc, List.singleton_append, List.length_append,
        List.length_singleton] at hfirst hnot
      rw [assignFixed, suppliedValues_some, resolve_cons, hown, supplied_some, Option.bind_some]
      constructor
      · intro h
        rw [hfirst h]
        rfl
      · intro h
        rw [hnot h]
        rfl

end Kit
