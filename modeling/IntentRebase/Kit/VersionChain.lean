import Mathlib.Data.List.Sort

/-! Histories: items numbered from one without a gap, each of which names the one before it. -/

namespace Kit

variable {ν ι : Type}

/-- How an item is numbered and named, and which item it names as its parent. -/
structure Versioned (ν ι : Type) where
  number : ν → Int
  id : ν → ι
  parent : ν → Option ι

namespace Versioned

/-- The items are numbered from one in their order, and the parent of each is the one before it. -/
def Chain (on : Versioned ν ι) (items : List ν) : Prop :=
  ∀ (k : Nat) (item : ν), items[k]? = some item →
    on.number item = k + 1 ∧ on.parent item = (items.take k).getLast?.map on.id

variable {on : Versioned ν ι} {items : List ν} {item : ν}

theorem Chain.nil : on.Chain [] := fun _ _ h => nomatch h

theorem Chain.concat (h : on.Chain items) (hnumber : on.number item = items.length + 1)
    (hparent : on.parent item = items.getLast?.map on.id) : on.Chain (items ++ [item]) := by
  intro k other hother
  rcases Nat.lt_trichotomy k items.length with hlt | heq | hgt
  · rw [List.getElem?_append_left hlt] at hother
    rw [List.take_append_of_le_length (Nat.le_of_lt hlt)]
    exact h k other hother
  · subst heq
    rw [List.getElem?_concat_length] at hother
    cases hother
    rw [List.take_left]
    exact ⟨hnumber, hparent⟩
  · rw [List.getElem?_eq_none (by simp; omega)] at hother
    cases hother

theorem Chain.first (h : on.Chain items) (hitem : items[0]? = some item) :
    on.parent item = none := (h 0 item hitem).2

/-- The parent of each item but the first is the item before it. -/
theorem Chain.parent_succ {previous : ν} {k : Nat} (h : on.Chain items)
    (hprevious : items[k]? = some previous) (hitem : items[k + 1]? = some item) :
    on.parent item = some (on.id previous) := by
  rw [(h (k + 1) item hitem).2, List.take_add_one, hprevious]
  simp

theorem Chain.number_inj {item' : ν} {k k' : Nat} (h : on.Chain items)
    (hitem : items[k]? = some item) (hitem' : items[k']? = some item')
    (hnumber : on.number item = on.number item') : k = k' := by
  have hk := (h k item hitem).1
  have hk' := (h k' item' hitem').1
  omega

/-- The search for a number finds the item in its place. -/
theorem Chain.find (h : on.Chain items) {k : Nat} (hitem : items[k]? = some item) :
    items.find? (fun other => on.number other == on.number item) = some item := by
  rw [List.find?_eq_some_iff_getElem]
  obtain ⟨hlt, heq⟩ := List.getElem?_eq_some_iff.mp hitem
  refine ⟨beq_self_eq_true _, k, hlt, heq, fun j hj => ?_⟩
  rw [Bool.not_eq_true', beq_eq_false_iff_ne]
  intro hnumber
  have hother : items[j]? = some items[j] := List.getElem?_eq_getElem (by omega)
  have hsame := h.number_inj hother hitem hnumber
  omega

/-- The items are in the order of their numbers. -/
theorem Chain.sorted (h : on.Chain items) :
    items.Pairwise fun a b => on.number a ≤ on.number b := by
  rw [List.pairwise_iff_getElem]
  intro i j hi hj hij
  have ha := (h i _ (List.getElem?_eq_getElem hi)).1
  have hb := (h j _ (List.getElem?_eq_getElem hj)).1
  omega

theorem Chain.numbers (h : on.Chain items) :
    items.map on.number = (List.range items.length).map fun k : Nat => (k : Int) + 1 := by
  refine List.ext_getElem (by rw [List.length_map, List.length_map, List.length_range]) ?_
  intro k hk _
  rw [List.length_map] at hk
  rw [List.getElem_map, List.getElem_map, List.getElem_range]
  exact (h k _ (List.getElem?_eq_getElem hk)).1

/-- No two items have one number. -/
theorem Chain.countP_number_le (h : on.Chain items) (number : Int) :
    items.countP (fun item => on.number item == number) ≤ 1 := by
  have hcount : items.countP (fun item => on.number item == number) =
      (items.map on.number).count number := by
    rw [List.count_eq_countP, List.countP_map]
    rfl
  rw [hcount, h.numbers]
  refine List.nodup_iff_count_le_one.mp ?_ number
  exact List.nodup_range.map fun a b hab => by omega

end Versioned

end Kit
