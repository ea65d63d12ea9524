import Mathlib.Data.List.Basic

/-! Calls on a state that may fail, where what a call wrote before it failed stays written: what a
call does from a given state, and when a failed one has done nothing. -/

namespace Kit

variable {σ ε α β : Type}

section Answers

variable {x : Except ε α} {b : β}

/-- What two steps answer, the second does from an answer of the first. -/
theorem ok_of_bind {f : α → Except ε β} (h : (x >>= f) = .ok b) : ∃ a, x = .ok a ∧ f a = .ok b := by
  cases x with
  | error e => cases h
  | ok a => exact ⟨a, rfl, h⟩

theorem ok_of_map {f : α → β} (h : x.map f = .ok b) : ∃ a, x = .ok a ∧ f a = b := by
  cases x with
  | error e => cases h
  | ok a => exact ⟨a, rfl, Except.ok.inj h⟩

theorem ok_of_mapError {ε' : Type} {g : ε → ε'} {a : α} (h : x.mapError g = .ok a) : x = .ok a := by
  cases x with
  | error e => cases h
  | ok a' => exact congrArg Except.ok (Except.ok.inj h)

end Answers

/-- A call on a state `σ` that returns an `α` or fails with an `ε`. -/
abbrev Effect (σ ε α : Type) := ExceptT ε (StateM σ) α

namespace Effect

/-- The outcome of a call from a state, and the state it leaves. -/
def on (call : Effect σ ε α) (s : σ) : Except ε α × σ := call.run.run s

variable (s : σ)

@[simp] theorem on_pure (a : α) : on (pure a : Effect σ ε α) s = (.ok a, s) := rfl

@[simp] theorem on_throw (e : ε) : on (throw e : Effect σ ε α) s = (.error e, s) := rfl

@[simp] theorem on_get : on (get : Effect σ ε σ) s = (.ok s, s) := rfl

@[simp] theorem on_modify (f : σ → σ) : on (modify f : Effect σ ε PUnit) s = (.ok ⟨⟩, f s) := rfl

@[simp] theorem on_lift (r : Except ε α) : on (liftM r : Effect σ ε α) s = (r, s) := rfl

/-- The second call starts where the first one ends, if that returns. -/
theorem on_bind (call : Effect σ ε α) (next : α → Effect σ ε β) :
    on (call >>= next) s =
      match on call s with
      | (.ok a, s') => on (next a) s'
      | (.error e, s') => (.error e, s') := by
  have h : on (call >>= next) s = (ExceptT.bindCont next (on call s).1).run (on call s).2 := rfl
  rw [h]
  cases on call s with
  | mk r s' =>
    cases r with
    | ok a => rfl
    | error e => rfl

variable {s} {s' : σ} {call : Effect σ ε α} {next : α → Effect σ ε β}

theorem on_bind_ok {a : α} (h : on call s = (.ok a, s')) :
    on (call >>= next) s = on (next a) s' := by
  rw [on_bind, h]

theorem on_bind_error {e : ε} (h : on call s = (.error e, s')) :
    on (call >>= next) s = (.error e, s') := by
  rw [on_bind, h]

/-- Two calls in a row that answer have both answered. -/
theorem on_bind_inv {s'' : σ} {b : β} (h : on (call >>= next) s = (.ok b, s'')) :
    ∃ a s', on call s = (.ok a, s') ∧ on (next a) s' = (.ok b, s'') := by
  rw [on_bind] at h
  cases hcall : on call s with
  | mk answer s' =>
    rw [hcall] at h
    cases answer with
    | ok a => exact ⟨a, s', rfl, h⟩
    | error e => cases h

/-- What only turns an answer into another leaves the state of the call. -/
theorem on_bind_pure_snd (call : Effect σ ε α) (f : α → β) (s : σ) :
    (on (call >>= fun a => pure (f a)) s).2 = (on call s).2 := by
  rw [on_bind]
  cases on call s with
  | mk answer s' => cases answer <;> rfl

/-- A failed call has left the state as it was. -/
def Atomic (call : Effect σ ε α) : Prop :=
  ∀ s e s', on call s = (.error e, s') → s' = s

/-- The call that computes its whole effect first and writes it only if there is no error. -/
def transaction (compute : σ → Except ε (α × σ)) : Effect σ ε α := do
  let s ← get
  let (a, s') ← compute s
  set s'
  return a

theorem on_transaction (compute : σ → Except ε (α × σ)) (s : σ) :
    on (transaction compute) s =
      match compute s with
      | .ok (a, s') => (.ok a, s')
      | .error e => (.error e, s) := by
  rw [transaction, on_bind_ok (on_get s), on_bind, on_lift]
  cases compute s with
  | ok p => rfl
  | error e => rfl

theorem on_transaction_ok {compute : σ → Except ε (α × σ)} {a : α}
    (h : compute s = .ok (a, s')) : on (transaction compute) s = (.ok a, s') := by
  rw [on_transaction, h]

theorem atomic_transaction (compute : σ → Except ε (α × σ)) : Atomic (transaction compute) := by
  intro s e s' h
  rw [on_transaction] at h
  cases hc : compute s with
  | ok p =>
    rw [hc] at h
    cases h
  | error e' =>
    rw [hc] at h
    cases h
    rfl

/-- The outcome of a call as a value, an error too. -/
def attempt {ε' : Type} (call : Effect σ ε α) : Effect σ ε' (Except ε α) := fun s =>
  let (outcome, s') := call.on s
  (.ok outcome, s')

@[simp] theorem on_attempt {ε' : Type} (call : Effect σ ε α) (s : σ) :
    on (attempt call : Effect σ ε' (Except ε α)) s = (.ok (call.on s).1, (call.on s).2) := rfl

/-- A call on a part of the state. -/
def within {τ : Type} (part : τ → σ) (put : σ → τ → τ) (call : Effect σ ε α) : Effect τ ε α :=
  fun t =>
    let (outcome, s') := call.on (part t)
    (outcome, put s' t)

@[simp] theorem on_within {τ : Type} (part : τ → σ) (put : σ → τ → τ) (call : Effect σ ε α)
    (t : τ) : on (within part put call) t = ((call.on (part t)).1, put (call.on (part t)).2 t) :=
  rfl

section Relates

/-- However it ends, a call goes from its state to a related one. -/
def Relates (rel : σ → σ → Prop) (call : Effect σ ε α) : Prop := ∀ s, rel s (on call s).2

variable {rel : σ → σ → Prop} (hrefl : ∀ s, rel s s)
  (htrans : ∀ s s' s'', rel s s' → rel s' s'' → rel s s'')

include hrefl in
theorem relates_pure (a : α) : Relates rel (pure a : Effect σ ε α) := hrefl

include hrefl in
theorem relates_lift (r : Except ε α) : Relates rel (liftM r : Effect σ ε α) := hrefl

include htrans in
theorem Relates.bind {call : Effect σ ε α} {next : α → Effect σ ε β} (h : Relates rel call)
    (hnext : ∀ a, Relates rel (next a)) : Relates rel (call >>= next) := by
  intro s
  have hcall := h s
  rw [on_bind]
  cases hon : on call s with
  | mk answer s' =>
    rw [hon] at hcall
    cases answer with
    | error e => exact hcall
    | ok a => exact htrans _ _ _ hcall (hnext a s')

include hrefl htrans in
theorem relates_mapM {ι : Type} {call : ι → Effect σ ε α} (h : ∀ i, Relates rel (call i))
    (items : List ι) : Relates rel (items.mapM call) := by
  induction items with
  | nil => exact relates_pure hrefl []
  | cons i rest ih =>
    rw [List.mapM_cons]
    exact (h i).bind htrans fun a => ih.bind htrans fun _ => relates_pure hrefl _

end Relates

/-- Two calls with the same outcome and the same state after it, from every state. -/
theorem ext {call call' : Effect σ ε α} (h : ∀ s, on call s = on call' s) : call = call' :=
  funext h

end Effect

/-- A failure from outside that a call meets: before it acts, or after it has acted. -/
inductive Fault (ε : Type) where
  | before (error : ε)
  | after (error : ε)

/-- The answer of a call from `s` that may meet a failure. -/
def Fault.meet (fault : Option (Fault ε)) (s : σ) (answer : Except ε α × σ) : Except ε α × σ :=
  match fault with
  | none => answer
  | some (.before e) => (.error e, s)
  | some (.after e) => (.error e, answer.2)

/-- A call that meets a failure before it acts leaves the state; any other acts. -/
theorem Fault.meet_state (fault : Option (Fault ε)) (s : σ) (answer : Except ε α × σ) :
    (∃ e, fault = some (.before e) ∧ (Fault.meet fault s answer).2 = s) ∨
      (∀ e, fault ≠ some (.before e)) ∧ (Fault.meet fault s answer).2 = answer.2 := by
  match fault with
  | none => exact .inr ⟨fun e h => (by cases h), rfl⟩
  | some (.before e) => exact .inl ⟨e, rfl, rfl⟩
  | some (.after e) => exact .inr ⟨fun e h => (by cases h), rfl⟩

/-- A call that answers has met no failure. -/
theorem Fault.meet_ok {fault : Option (Fault ε)} {s s' : σ} {answer : Except ε α × σ} {a : α}
    (h : Fault.meet fault s answer = (.ok a, s')) : fault = none ∧ answer = (.ok a, s') := by
  match fault with
  | none => exact ⟨rfl, h⟩
  | some (.before e) => cases h
  | some (.after e) => cases h

/-- A call that is refused leaves the state, whatever failure it meets. -/
theorem Fault.meet_refused (fault : Option (Fault ε)) (e : ε) :
    ∃ e', Fault.meet fault s ((.error e, s) : Except ε α × σ) = (.error e', s) := by
  match fault with
  | none => exact ⟨e, rfl⟩
  | some (.before e') => exact ⟨e', rfl⟩
  | some (.after e') => exact ⟨e', rfl⟩

/-- What is kept by leaving a state and by a call is kept by the call that meets a failure. -/
theorem Fault.meet_keeps (fault : Option (Fault ε)) {p : σ → Prop} {s : σ}
    {answer : Except ε α × σ} (hs : p s) (hanswer : p answer.2) :
    p (Fault.meet fault s answer).2 := by
  rcases Fault.meet_state fault s answer with ⟨-, -, h⟩ | ⟨-, h⟩
  · rwa [h]
  · rwa [h]

end Kit
