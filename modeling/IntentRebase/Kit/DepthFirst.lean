import Mathlib.Data.List.Chain
import Mathlib.Logic.Relation

/-! Depth-first search: the closed walk that an edge back into the current path closes, and the
order in which nodes are finished, through which no cycle runs. -/

namespace Kit

open Relation

variable {α : Type} {E : α → α → Prop}

/-- A walk of at least one edge that ends where it starts. -/
structure ClosedWalk (E : α → α → Prop) (walk : List α) : Prop where
  nontrivial : 2 ≤ walk.length
  joined : walk.IsChain E
  closed : walk.head? = walk.getLast?

theorem transGen_of_isChain {u v : α} {walk : List α} (h : (u :: walk).IsChain E)
    (hlast : walk.getLast? = some v) : TransGen E u v := by
  induction walk generalizing u with
  | nil => cases hlast
  | cons w rest ih =>
    rw [List.isChain_cons_cons] at h
    cases rest with
    | nil =>
      obtain rfl := Option.some.inj hlast
      exact .single h.1
    | cons x rest => exact .head h.1 (ih h.2 (by rwa [List.getLast?_cons_cons] at hlast))

/-- A closed walk is a cycle. -/
theorem ClosedWalk.cycle {walk : List α} (h : ClosedWalk E walk) : ∃ v, TransGen E v v := by
  cases walk with
  | nil => exact absurd h.nontrivial (by simp)
  | cons u rest =>
    cases rest with
    | nil => exact absurd h.nontrivial (by simp)
    | cons w rest =>
      have hclosed := h.closed
      rw [List.head?_cons, List.getLast?_cons_cons] at hclosed
      exact ⟨u, transGen_of_isChain h.joined hclosed.symm⟩

section BackEdge

variable [DecidableEq α]

theorem drop_of_idxOf? {l : List α} {a : α} {i : Nat} (h : l.idxOf? a = some i) :
    ∃ rest, l.drop i = a :: rest := by
  induction l generalizing i with
  | nil => cases h
  | cons b l ih =>
    rw [List.idxOf?_cons] at h
    split at h
    · next heq =>
      obtain rfl := Option.some.inj h
      exact ⟨l, by rw [List.drop_zero, beq_iff_eq.mp heq]⟩
    · obtain ⟨j, hj, rfl⟩ := Option.map_eq_some_iff.mp h
      exact ih hj

/-- An edge from the end of a path back to one of its nodes closes a walk. -/
theorem closedWalk_of_backEdge {path : List α} {u v : α} {i : Nat} (hpath : path.IsChain E)
    (hlast : path.getLast? = some u) (hedge : E u v) (hi : path.idxOf? v = some i) :
    ClosedWalk E (path.drop i ++ [v]) := by
  obtain ⟨rest, hrest⟩ := drop_of_idxOf? hi
  have hdrop : (path.drop i).getLast? = some u := by
    rw [List.getLast?_drop, if_neg, hlast]
    intro hle
    rw [List.drop_eq_nil_of_le hle] at hrest
    cases hrest
  refine ⟨by simp [hrest], (hpath.drop i).append (List.isChain_singleton v) ?_, ?_⟩
  · intro x hx y hy
    rw [hdrop] at hx
    obtain rfl := Option.some.inj hx
    obtain rfl := Option.some.inj hy
    exact hedge
  · rw [List.getLast?_concat, hrest, List.cons_append, List.head?_cons]

end BackEdge

/-- The nodes in the order in which they were finished, the last first: every edge from one leads to
one finished before it. -/
inductive Finished (E : α → α → Prop) : List α → Prop
  | nil : Finished E []
  | cons {v : α} {order : List α} : Finished E order → v ∉ order → (∀ w, E v w → w ∈ order) →
      Finished E (v :: order)

namespace Finished

variable {order : List α}

theorem closed (h : Finished E order) {u v : α} (hu : u ∈ order) (hedge : E u v) :
    v ∈ order := by
  induction h with
  | nil => cases hu
  | cons _ _ hnext ih =>
    rcases List.mem_cons.mp hu with rfl | hu
    · exact List.mem_cons_of_mem _ (hnext v hedge)
    · exact List.mem_cons_of_mem _ (ih hu)

theorem closed_trans (h : Finished E order) {u v : α} (hu : u ∈ order) (hreach : TransGen E u v) :
    v ∈ order := by
  induction hreach with
  | single hedge => exact h.closed hu hedge
  | tail _ hedge ih => exact h.closed ih hedge

/-- No cycle runs through a finished node. -/
theorem acyclic (h : Finished E order) {v : α} (hv : v ∈ order) : ¬ TransGen E v v := by
  induction h with
  | nil => cases hv
  | @cons w order hrest hnew hnext ih =>
    rcases List.mem_cons.mp hv with rfl | hv
    · intro hcycle
      obtain ⟨x, hedge, hback⟩ := TransGen.head'_iff.mp hcycle
      rcases ReflTransGen.cases_head_iff.mp hback with rfl | ⟨y, hxy, hyv⟩
      · exact hnew (hnext _ hedge)
      · exact hnew (hrest.closed_trans (hnext _ hedge) (.head' hxy hyv))
    · exact ih hv

end Finished

end Kit
