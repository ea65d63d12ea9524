import IntentRebase.Kit.Effect

/-! Transactions of a SQL database. A statement that fails aborts its transaction: each later
statement fails too, and the commit discards every write while it returns without an error. -/

namespace Kit

variable {σ ε α β : Type}

/-- An open transaction on a database `σ`: the state that it sees, and whether a statement of it has
failed. -/
structure Transaction (σ : Type) where
  work : σ
  aborted : Bool

namespace Transaction

/-- A transaction that has run no statement. -/
def start (s : σ) : Transaction σ := ⟨s, false⟩

/-- A statement: what it computes, unless it meets a failure. In an aborted transaction it fails
with the given error. -/
def statement (inAborted : ε) (fault : Option ε) (run : σ → Except ε (α × σ)) (tx : Transaction σ) :
    Except ε α × Transaction σ :=
  if tx.aborted then (.error inAborted, tx)
  else
    match fault with
    | some e => (.error e, { tx with aborted := true })
    | none =>
      match run tx.work with
      | .ok (a, work) => (.ok a, ⟨work, false⟩)
      | .error e => (.error e, { tx with aborted := true })

/-- The database that a commit leaves. -/
def committed (tx : Transaction σ) (s : σ) : σ := if tx.aborted then s else tx.work

/-- The commit, which may meet a failure before or after it acts. -/
def commit (fault : Option (Fault ε)) (tx : Transaction σ) (s : σ) : Except ε Unit × σ :=
  Fault.meet fault s (.ok (), tx.committed s)

variable {inAborted : ε} {fault : Option ε} {run : σ → Except ε (α × σ)} {tx tx' : Transaction σ}
  {s s' : σ}

/-- A statement that answers has run, in a transaction that is not aborted. -/
theorem statement_ok {a : α} (h : statement inAborted fault run tx = (.ok a, tx')) :
    tx.aborted = false ∧ fault = none ∧ run tx.work = .ok (a, tx'.work) ∧ tx'.aborted = false := by
  unfold statement at h
  split at h
  · cases h
  next hopen =>
  split at h
  · cases h
  split at h
  · next hrun =>
    cases h
    exact ⟨by simpa using hopen, rfl, hrun, rfl⟩
  · cases h

/-- A statement that fails has written nothing. -/
theorem statement_error_work {e : ε} (h : statement inAborted fault run tx = (.error e, tx')) :
    tx'.work = tx.work := by
  unfold statement at h
  split at h
  · cases h
    rfl
  split at h
  · cases h
    rfl
  split at h
  · cases h
  · cases h
    rfl

/-- A statement in an open transaction without a failure answers what it computes. -/
theorem statement_run {a : α} {work : σ} (hopen : tx.aborted = false)
    (hrun : run tx.work = .ok (a, work)) :
    statement inAborted none run tx = (.ok a, ⟨work, false⟩) := by
  rw [statement, hopen, hrun]
  rfl

theorem statement_fault (hopen : tx.aborted = false) (e : ε) :
    statement inAborted (some e) run tx = (.error e, { tx with aborted := true }) := by
  rw [statement, hopen]
  rfl

/-- A commit that returns leaves the writes of the transaction, or none if it is aborted. -/
theorem commit_ok {commitFault : Option (Fault ε)} {u : Unit}
    (h : commit commitFault tx s = (.ok u, s')) : commitFault = none ∧ s' = tx.committed s := by
  obtain ⟨hfault, hanswer⟩ := Fault.meet_ok h
  exact ⟨hfault, (congrArg Prod.snd hanswer).symm⟩

/-- Whatever a commit answers, it leaves the database as it was or the writes of an open
transaction. -/
theorem commit_state (commitFault : Option (Fault ε)) (tx : Transaction σ) (s : σ) :
    (commit commitFault tx s).2 = s ∨
      tx.aborted = false ∧ (commit commitFault tx s).2 = tx.work := by
  rcases Fault.meet_state commitFault s (.ok (), tx.committed s) with ⟨_, _, h⟩ | ⟨_, h⟩
  · exact .inl h
  · rw [commit, h, committed]
    cases tx.aborted with
    | true => exact .inl rfl
    | false => exact .inr ⟨rfl, rfl⟩

end Transaction

end Kit
