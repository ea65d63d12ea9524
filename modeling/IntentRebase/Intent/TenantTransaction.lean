import IntentRebase.Intent.VersionTransaction
import IntentRebase.Kit.SqlTransaction

/-! A transaction of a tenant: it is begun under a valid tenant, runs a body of statements, and is
dropped if the body fails. -/

namespace IntentRebase

open Kit

/-- What the database answers in an aborted transaction. -/
def transactionAborted : String :=
  "current transaction is aborted, commands ignored until end of transaction block"

/-- Where a transaction of a tenant failed. -/
inductive RlsFailure where
  | notBegun (message : String)
  | refused (e : IntentRebaseError)
  | notCommitted (message : String)

section InTenant

variable {σ α : Type}

/-- The statements of a body in a transaction of the tenant, which is dropped on an error. -/
def inTenant (tenantId : Uuid) (beginFault : Option String) (commitFault : Option (Fault String))
    (body : Transaction σ → Except IntentRebaseError α × Transaction σ) (s : σ) :
    Except RlsFailure α × σ :=
  match validateTenantIdForRls tenantId with
  | .error e => (.error (.notBegun e), s)
  | .ok _ =>
    match beginFault with
    | some e => (.error (.notBegun e), s)
    | none =>
      match body (.start s) with
      | (.error e, _) => (.error (.refused e), s)
      | (.ok a, tx) =>
        match tx.commit commitFault s with
        | (.error e, s) => (.error (.notCommitted e), s)
        | (.ok _, s) => (.ok a, s)

variable {tenantId : Uuid} {beginFault : Option String} {commitFault : Option (Fault String)}
  {body : Transaction σ → Except IntentRebaseError α × Transaction σ} {s s' : σ} {a : α}

/-- A transaction that answers has begun, run its body and been committed. -/
theorem inTenant_ok (h : inTenant tenantId beginFault commitFault body s = (.ok a, s')) :
    beginFault = none ∧ commitFault = none ∧
      ∃ tx, body (.start s) = (.ok a, tx) ∧ s' = tx.committed s := by
  unfold inTenant at h
  split at h
  · cases h
  split at h
  · cases h
  split at h
  · cases h
  next hbody =>
  split at h
  · cases h
  next hcommit =>
    cases h
    obtain ⟨hfault, hcommitted⟩ := Transaction.commit_ok hcommit
    exact ⟨rfl, hfault, _, hbody, hcommitted⟩

/-- Without a failure, a transaction answers what its body does. -/
theorem inTenant_of_body {tx : Transaction σ} (htenant : tenantId ≠ .nil)
    (hbody : body (.start s) = (.ok a, tx)) :
    inTenant tenantId none none body s = (.ok a, tx.committed s) := by
  rw [inTenant, validateTenantIdForRls_eq htenant]
  dsimp only
  rw [hbody]
  rfl

/-- A body that answers in an open transaction is kept if the commit is reached, also where its answer
is lost. -/
theorem inTenant_reached {tx : Transaction σ} (htenant : tenantId ≠ .nil)
    (hbody : body (.start s) = (.ok a, tx)) (hopen : tx.aborted = false)
    (hreached : ∀ e, commitFault ≠ some (.before e)) :
    (inTenant tenantId none commitFault body s).2 = tx.work := by
  have hcommitted : tx.committed s = tx.work := if_neg (by simp [hopen])
  rw [inTenant, validateTenantIdForRls_eq htenant]
  dsimp only
  rw [hbody, ← hcommitted]
  rcases commitFault with _ | e | e
  · rfl
  · exact absurd rfl (hreached e)
  · rfl

/-- Whatever it answers, a transaction leaves the database, or the writes of an open one whose body
has answered. -/
theorem inTenant_state (tenantId : Uuid) (beginFault : Option String)
    (commitFault : Option (Fault String))
    (body : Transaction σ → Except IntentRebaseError α × Transaction σ) (s : σ) :
    (inTenant tenantId beginFault commitFault body s).2 = s ∨
      ∃ a tx, body (.start s) = (.ok a, tx) ∧ tx.aborted = false ∧
        (inTenant tenantId beginFault commitFault body s).2 = tx.work := by
  unfold inTenant
  split
  · exact .inl rfl
  split
  · exact .inl rfl
  split
  · exact .inl rfl
  next a tx hbody =>
  have hstate := Transaction.commit_state commitFault tx s
  split <;> next hcommit =>
    rw [hcommit] at hstate
    rcases hstate with hsame | ⟨hopen, hwork⟩
    · exact .inl hsame
    · exact .inr ⟨a, tx, hbody, hopen, hwork⟩

end InTenant

end IntentRebase
