import Mathlib.Logic.Function.Basic

/-! Clients that take numbers from the counter of a key and use them later. The numbers of a key are
used in order as long as nobody uses one while another client holds a smaller one. -/

namespace Kit

/-- The last number taken of each key, the numbers used in order, and the number that a client
holds. -/
@[ext] structure Tickets (κ : Type) where
  last : κ → Nat
  used : κ → List Nat
  held : Nat → Option (κ × Nat)

namespace Tickets

variable {κ : Type} {t : Tickets κ} {client n : Nat} {k : κ}

/-- The numbers of each key are used from one on without a gap. -/
def InOrder (t : Tickets κ) : Prop := ∀ k, t.used k = List.range' 1 (t.used k).length

/-- They are, and the numbers that were taken since are held, each by one client. -/
structure Whole (t : Tickets κ) : Prop where
  inOrder : t.InOrder
  bounded : ∀ k, (t.used k).length ≤ t.last k
  range : ∀ client k n, t.held client = some (k, n) → (t.used k).length < n ∧ n ≤ t.last k
  apart : ∀ client other k n, t.held client = some (k, n) → t.held other = some (k, n) →
    client = other
  holder : ∀ k n, (t.used k).length < n → n ≤ t.last k → ∃ client, t.held client = some (k, n)

/-- No client holds a smaller number of the key. -/
def Least (t : Tickets κ) (k : κ) (n : Nat) : Prop :=
  ∀ other n', t.held other = some (k, n') → n ≤ n'

/-- The next number of a key to be used is the least one held. -/
theorem Whole.least_iff (h : t.Whole) (hheld : t.held client = some (k, n)) :
    t.Least k n ↔ n = (t.used k).length + 1 := by
  obtain ⟨hlow, hhigh⟩ := h.range client k n hheld
  constructor
  · intro hleast
    obtain ⟨other, hnext⟩ := h.holder k ((t.used k).length + 1) (Nat.lt_succ_self _)
      (by omega)
    have := hleast other _ hnext
    omega
  · rintro rfl other n' hother
    exact (h.range other k n' hother).1

section Moves

variable [DecidableEq κ]

def take (t : Tickets κ) (client : Nat) (k : κ) : Tickets κ where
  last := Function.update t.last k (t.last k + 1)
  used := t.used
  held := Function.update t.held client (some (k, t.last k + 1))

def use (t : Tickets κ) (client : Nat) (k : κ) (n : Nat) : Tickets κ where
  last := t.last
  used := Function.update t.used k (t.used k ++ [n])
  held := Function.update t.held client none

theorem take_last (k k' : κ) :
    (t.take client k).last k' = if k' = k then t.last k + 1 else t.last k' :=
  Function.update_apply ..

theorem take_held (other : Nat) :
    (t.take client k).held other = if other = client then some (k, t.last k + 1)
      else t.held other := Function.update_apply ..

theorem use_used (k k' : κ) :
    (t.use client k n).used k' = if k' = k then t.used k ++ [n] else t.used k' :=
  Function.update_apply ..

theorem use_held (other : Nat) :
    (t.use client k n).held other = if other = client then none else t.held other :=
  Function.update_apply ..

theorem Whole.take (h : t.Whole) (hfree : t.held client = none) (k : κ) :
    (t.take client k).Whole where
  inOrder := h.inOrder
  bounded := by
    intro k'
    have hold : (t.used k').length ≤ t.last k' := h.bounded k'
    rw [take_last]
    split
    · next heq =>
      subst heq
      exact Nat.le_succ_of_le hold
    · exact hold
  range := by
    intro other k' n hheld
    rw [take_held] at hheld
    rw [take_last]
    split at hheld
    · cases hheld
      have hold : (t.used k).length ≤ t.last k := h.bounded k
      rw [if_pos rfl]
      exact ⟨Nat.lt_succ_of_le hold, Nat.le_refl _⟩
    · obtain ⟨hlow, hhigh⟩ := h.range other k' n hheld
      refine ⟨hlow, ?_⟩
      split
      · next heq =>
        subst heq
        exact Nat.le_succ_of_le hhigh
      · exact hhigh
  apart := by
    -- The new number is above those that are held.
    have hnew : ∀ other, t.held other ≠ some (k, t.last k + 1) := by
      intro other hheld
      exact absurd (h.range other k _ hheld).2 (Nat.not_succ_le_self _)
    intro c other k' n hc hother
    rw [take_held] at hc hother
    split at hc <;> split at hother
    · next hcl hol => rw [hcl, hol]
    · cases hc
      exact absurd hother (hnew other)
    · cases hother
      exact absurd hc (hnew c)
    · exact h.apart c other k' n hc hother
  holder := by
    intro k' n hlow hhigh
    rw [take_last] at hhigh
    by_cases hnew : k' = k ∧ n = t.last k + 1
    · obtain ⟨rfl, rfl⟩ := hnew
      exact ⟨client, by rw [take_held, if_pos rfl]⟩
    · have hbefore : n ≤ t.last k' := by
        split at hhigh
        · next heq =>
          subst heq
          have hne : n ≠ t.last k' + 1 := fun heq => hnew ⟨rfl, heq⟩
          omega
        · exact hhigh
      obtain ⟨other, hheld⟩ := h.holder k' n hlow hbefore
      refine ⟨other, ?_⟩
      rw [take_held, if_neg]
      · exact hheld
      · rintro rfl
        rw [hfree] at hheld
        cases hheld

/-- Using a number leaves the numbers in order exactly if it is the least one held. -/
theorem Whole.use_inOrder_iff (h : t.Whole) (hheld : t.held client = some (k, n)) :
    (t.use client k n).InOrder ↔ t.Least k n := by
  rw [h.least_iff hheld]
  constructor
  · intro horder
    have hk := horder k
    rw [use_used, if_pos rfl, List.length_append, List.length_singleton, List.range'_concat] at hk
    have hlast := (List.append_inj_right' hk rfl)
    rw [List.singleton_inj] at hlast
    omega
  · rintro hn k'
    rw [use_used]
    split
    · next heq =>
      rw [List.length_append, List.length_singleton, List.range'_concat, ← h.inOrder k, hn,
        Nat.one_mul, Nat.add_comm 1]
    · exact h.inOrder k'

theorem Whole.use (h : t.Whole) (hheld : t.held client = some (k, n)) (hleast : t.Least k n) :
    (t.use client k n).Whole where
  inOrder := (h.use_inOrder_iff hheld).mpr hleast
  bounded := by
    intro k'
    rw [use_used]
    split
    · next heq =>
      subst heq
      have hnext := (h.least_iff hheld).mp hleast
      have hhigh : n ≤ t.last k' := (h.range client k' n hheld).2
      rw [List.length_append, List.length_singleton, ← hnext]
      exact hhigh
    · exact h.bounded k'
  range := by
    intro other k' n' hother
    rw [use_held] at hother
    split at hother
    · cases hother
    next hne =>
    obtain ⟨hlow, hhigh⟩ := h.range other k' n' hother
    refine ⟨?_, hhigh⟩
    rw [use_used]
    split
    · next heq =>
      subst heq
      have hnext := (h.least_iff hheld).mp hleast
      have hdistinct : n' ≠ n := by
        rintro rfl
        exact hne (h.apart other client k' n' hother hheld)
      rw [List.length_append, List.length_singleton]
      omega
    · exact hlow
  apart := by
    intro c other k' n' hc hother
    rw [use_held] at hc hother
    split at hc
    · cases hc
    · split at hother
      · cases hother
      · exact h.apart c other k' n' hc hother
  holder := by
    intro k' n' hlow hhigh
    rw [use_used] at hlow
    have hbefore : (t.used k').length < n' ∧ ¬ (k' = k ∧ n' = n) := by
      split at hlow
      · next heq =>
        subst heq
        have hnext := (h.least_iff hheld).mp hleast
        rw [List.length_append, List.length_singleton, ← hnext] at hlow
        exact ⟨by omega, fun heq => by omega⟩
      · next hne => exact ⟨hlow, fun heq => hne heq.1⟩
    obtain ⟨other, hother⟩ := h.holder k' n' hbefore.1 hhigh
    refine ⟨other, ?_⟩
    rw [use_held, if_neg]
    · exact hother
    · rintro rfl
      rw [hheld] at hother
      cases hother
      exact hbefore.2 ⟨rfl, rfl⟩

end Moves

end Tickets

end Kit
