import Mathlib.Logic.Function.Basic
import IntentRebase.Kit.Transition

/-! Many clients of one store. A call is a sequence of atomic steps, and the steps of the calls of
different clients come in any order. -/

namespace Kit

variable {σ ρ κ α : Type}

/-- What a step leaves of its call: a later stage, or the answer. -/
inductive Progress (κ α : Type) where
  | more (stage : κ)
  | done (answer : α)

/-- Calls on a store `σ`: the stage at which a request starts, and the step of each stage. -/
structure Calls (σ ρ κ α : Type) where
  first : ρ → κ
  step : κ → σ → Progress κ α × σ

/-- The rest of a call that no other interrupts, if it ends within so many steps. -/
def Calls.finish (calls : Calls σ ρ κ α) : Nat → κ → σ → Option (α × σ)
  | 0, _, _ => none
  | fuel + 1, k, s =>
    match calls.step k s with
    | (.more k', s') => calls.finish fuel k' s'
    | (.done a, s') => some (a, s')

theorem Calls.finish_more {calls : Calls σ ρ κ α} {k k' : κ} {s s' : σ}
    (h : calls.step k s = (.more k', s')) (fuel : Nat) :
    calls.finish (fuel + 1) k s = calls.finish fuel k' s' := by
  simp only [finish, h]

theorem Calls.finish_done {calls : Calls σ ρ κ α} {k : κ} {s s' : σ} {a : α}
    (h : calls.step k s = (.done a, s')) (fuel : Nat) :
    calls.finish (fuel + 1) k s = some (a, s') := by
  simp only [finish, h]

/-- The store, and the stages of the calls in flight by client. -/
structure Clients (σ κ : Type) where
  store : σ
  stage : Nat → Option κ

/-- A turn of a client: it starts a call, or its call takes a step. -/
inductive Turn (ρ : Type) where
  | call (client : Nat) (request : ρ)
  | step (client : Nat)

namespace Clients

/-- No call is in flight. -/
def idle (store : σ) : Clients σ κ where
  store := store
  stage := fun _ => none

/-- The state after a step of a client's call. -/
def advance (s : Clients σ κ) (client : Nat) : Progress κ α × σ → Clients σ κ
  | (.more k, store) => { store, stage := Function.update s.stage client (some k) }
  | (.done _, store) => { store, stage := Function.update s.stage client none }

@[simp] theorem advance_store (s : Clients σ κ) (client : Nat) (step : Progress κ α × σ) :
    (s.advance client step).store = step.2 := by
  obtain ⟨progress, store⟩ := step
  cases progress <;> rfl

/-- A client has one call at a time; a turn that it cannot take changes nothing. -/
def turn (calls : Calls σ ρ κ α) (s : Clients σ κ) : Turn ρ → Clients σ κ
  | .call client request =>
    match s.stage client with
    | some _ => s
    | none => { s with stage := Function.update s.stage client (some (calls.first request)) }
  | .step client =>
    match s.stage client with
    | none => s
    | some k => s.advance client (calls.step k s.store)

/-- The answer that a turn ends a call with, and the stage that gave it. -/
def answer (calls : Calls σ ρ κ α) (s : Clients σ κ) : Turn ρ → Option (κ × α)
  | .call _ _ => none
  | .step client =>
    match s.stage client with
    | none => none
    | some k =>
      match (calls.step k s.store).1 with
      | .more _ => none
      | .done a => some (k, a)

/-- The state after some turns. -/
def run (calls : Calls σ ρ κ α) (s : Clients σ κ) (turns : List (Turn ρ)) : Clients σ κ :=
  turns.foldl (turn calls) s

/-- The answers of some turns, in order. -/
def answers (calls : Calls σ ρ κ α) : Clients σ κ → List (Turn ρ) → List (κ × α)
  | _, [] => []
  | s, t :: turns => (answer calls s t).toList ++ answers calls (turn calls s t) turns

section Turns

variable {calls : Calls σ ρ κ α} {s : Clients σ κ} {t : Turn ρ}

@[simp] theorem run_nil : run calls s [] = s := rfl

@[simp] theorem run_cons (t : Turn ρ) (turns : List (Turn ρ)) :
    run calls s (t :: turns) = run calls (turn calls s t) turns := rfl

theorem run_append (turns turns' : List (Turn ρ)) :
    run calls s (turns ++ turns') = run calls (run calls s turns) turns' := List.foldl_append

theorem turn_step {client : Nat} {k : κ} (h : s.stage client = some k) :
    turn calls s (.step client) = s.advance client (calls.step k s.store) := by
  simp only [turn, h]

/-- A turn leaves the store, or it is a step of a call in flight. -/
theorem turn_store (calls : Calls σ ρ κ α) (s : Clients σ κ) (t : Turn ρ) :
    (turn calls s t).store = s.store ∨
      ∃ client k, t = .step client ∧ s.stage client = some k ∧
        (turn calls s t).store = (calls.step k s.store).2 := by
  cases t with
  | call client request =>
    left
    rw [turn]
    split <;> rfl
  | step client =>
    cases hstage : s.stage client with
    | none =>
      left
      simp only [turn, hstage]
    | some k =>
      right
      exact ⟨client, k, rfl, hstage, by rw [turn_step hstage, advance_store]⟩

/-- An answer is that of a step of a call in flight, which leaves the store that the step does. -/
theorem answer_some {k : κ} {a : α} (h : answer calls s t = some (k, a)) :
    ∃ client, t = .step client ∧ s.stage client = some k ∧
      calls.step k s.store = (.done a, (turn calls s t).store) := by
  cases t with
  | call client request => cases h
  | step client =>
    cases hstage : s.stage client with
    | none =>
      simp only [answer, hstage] at h
      cases h
    | some k' =>
      rw [turn_step hstage, advance_store]
      simp only [answer, hstage] at h
      split at h
      · cases h
      next hdone =>
        cases h
        exact ⟨client, rfl, hstage, Prod.ext hdone rfl⟩

/-- An answer of some turns is that of one of them. -/
theorem mem_answers {turns : List (Turn ρ)} {answered : κ × α}
    (h : answered ∈ answers calls s turns) :
    ∃ before t after, turns = before ++ t :: after ∧
      answer calls (run calls s before) t = some answered := by
  induction turns generalizing s with
  | nil => cases h
  | cons t turns ih =>
    rw [answers, List.mem_append, Option.mem_toList] at h
    rcases h with hfirst | hrest
    · exact ⟨[], t, turns, rfl, hfirst⟩
    · obtain ⟨before, t', after, rfl, hanswer⟩ := ih hrest
      exact ⟨t :: before, t', after, rfl, hanswer⟩

/-- A stage in flight after an update is the new one, or was in flight before. -/
theorem update_some {stage : Nat → Option κ} {client c : Nat} {k : Option κ} {k' : κ}
    (h : Function.update stage client k c = some k') : k = some k' ∨ stage c = some k' := by
  rw [Function.update_apply] at h
  split at h
  · exact .inl h
  · exact .inr h

/-- What a turn does: nothing, or it starts a call, or a call goes on to a later stage or ends. -/
inductive Took (calls : Calls σ ρ κ α) (s : Clients σ κ) :
    Turn ρ → Option (κ × α) → Clients σ κ → Prop
  | idle (t : Turn ρ) : Took calls s t none s
  | start {client : Nat} {request : ρ} (h : s.stage client = none) :
      Took calls s (.call client request) none
        { s with stage := Function.update s.stage client (some (calls.first request)) }
  | more {client : Nat} {k k' : κ} {store : σ} (h : s.stage client = some k)
      (hstep : calls.step k s.store = (.more k', store)) :
      Took calls s (.step client) none
        { store, stage := Function.update s.stage client (some k') }
  | done {client : Nat} {k : κ} {a : α} {store : σ} (h : s.stage client = some k)
      (hstep : calls.step k s.store = (.done a, store)) :
      Took calls s (.step client) (some (k, a))
        { store, stage := Function.update s.stage client none }

theorem took (calls : Calls σ ρ κ α) (s : Clients σ κ) (t : Turn ρ) :
    Took calls s t (answer calls s t) (turn calls s t) := by
  cases t with
  | call client request =>
    cases hstage : s.stage client with
    | none =>
      simp only [answer, turn, hstage]
      exact .start hstage
    | some k =>
      simp only [answer, turn, hstage]
      exact .idle _
  | step client =>
    cases hstage : s.stage client with
    | none =>
      simp only [answer, turn, hstage]
      exact .idle _
    | some k =>
      rw [turn_step hstage]
      cases hstep : calls.step k s.store with
      | mk progress store =>
        simp only [answer, hstage, hstep]
        cases progress with
        | more k' => exact .more hstage hstep
        | done a => exact .done hstage hstep

/-- What the turns of a sequence add up to. -/
def total (calls : Calls σ ρ κ α) (gain : Clients σ κ → Turn ρ → Nat) :
    Clients σ κ → List (Turn ρ) → Nat
  | _, [] => 0
  | s, t :: turns => gain s t + total calls gain (turn calls s t) turns

@[simp] theorem total_zero (s : Clients σ κ) (turns : List (Turn ρ)) :
    total calls (fun _ _ => 0) s turns = 0 := by
  induction turns generalizing s with
  | nil => rfl
  | cons t turns ih => rw [total, ih]

/-- Along a sequence a weight changes by what its turns bring and take, if each turn balances. -/
theorem total_balance {inv : Clients σ κ → Prop} {weight : Clients σ κ → Nat}
    {brings takes : Clients σ κ → Turn ρ → Nat}
    (hkeep : ∀ s t, inv s → inv (turn calls s t))
    (hturn : ∀ s t, inv s → weight s + brings s t = weight (turn calls s t) + takes s t)
    (hs : inv s) (turns : List (Turn ρ)) :
    weight s + total calls brings s turns =
      weight (run calls s turns) + total calls takes s turns := by
  induction turns generalizing s with
  | nil => rfl
  | cons t turns ih =>
    have hfirst := hturn s t hs
    have hrest := ih (hkeep s t hs)
    rw [total, total, run_cons]
    omega

/-- What every turn keeps holds after each sequence. -/
theorem run_invariant {inv : Clients σ κ → Prop} (hkeep : ∀ s t, inv s → inv (turn calls s t))
    (hs : inv s) (turns : List (Turn ρ)) : inv (run calls s turns) := by
  induction turns generalizing s with
  | nil => exact hs
  | cons t turns ih => exact ih (hkeep s t hs)

end Turns

end Clients

end Kit
