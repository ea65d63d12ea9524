import IntentRebase.Compensation.Storage
import IntentRebase.Intent.TenantTransaction

/-! The writes of compensation actions in a transaction of a tenant: one guarded update and, for a
waiver or an execution, the record of the rollback, whose failure is not reported. -/

namespace IntentRebase

open Kit

/-- The failures that the steps of a transaction meet. -/
structure TxFaults where
  beginFault : Option String
  updateFault : Option String
  rollbackRecordFault : Option String
  rollbackFault : Option String
  commitFault : Option (Fault String)

namespace SqlxCompensationActionRepository

section Statements

variable (tenantId : Uuid) (fault : Option String)

/-- An update in a transaction of the tenant, which sees the rows of that tenant only. -/
def updateWithTx (context : String) (actionId : Uuid) (condition : ActionRow → Bool)
    (set : ActionRow → ActionRow) (tx : Transaction ActionTable) :
    Except IntentRebaseError (Option ActionRow) × Transaction ActionTable :=
  match tx.statement transactionAborted fault fun table =>
      .ok (updateReturning table actionId
        (fun row => row.tenantId = tenantId && condition row) set) with
  | (.ok row, tx) => (.ok row, tx)
  | (.error e, tx) => (.error (.storageError s!"{context}: {e}"), tx)

/-- An update under the lock version, whose absence of a row is a conflict. -/
def updateLockedWithTx (context : String) (actionId : Uuid) (lockVersion : Int)
    (set : ActionRow → ActionRow) (tx : Transaction ActionTable) :
    Except IntentRebaseError CompensationAction × Transaction ActionTable :=
  match updateWithTx tenantId fault context actionId (fun row => row.lockVersion = lockVersion) set
      tx with
  | (.ok (some row), tx) => (rowToAction row, tx)
  | (.ok none, tx) => (.error (.concurrencyConflict actionId), tx)
  | (.error e, tx) => (.error e, tx)

def updateStatusWithTx (now : DateTime) (actionId : Uuid) (newStatus : CompensationStatus)
    (lockVersion : Int) (approvedBy waivedBy : Option String) :
    Transaction ActionTable → Except IntentRebaseError CompensationAction × Transaction ActionTable :=
  updateLockedWithTx tenantId fault "update compensation action status" actionId lockVersion
    (setStatus now newStatus approvedBy waivedBy)

def recordResultWithTx (now : DateTime) (actionId : Uuid) (result : ExecutionResult)
    (lockVersion : Int) (executedBy : Option String) :
    Transaction ActionTable → Except IntentRebaseError CompensationAction × Transaction ActionTable :=
  updateLockedWithTx tenantId fault "record compensation result" actionId lockVersion
    (setResult now result executedBy)

/-- Without a row to change, the action is read outside the transaction to tell why. -/
def reapproveWithTx (table : ActionTable) (actionId : Uuid) (lockVersion : Int)
    (tx : Transaction ActionTable) :
    Except IntentRebaseError CompensationAction × Transaction ActionTable :=
  match updateWithTx tenantId fault "reapprove compensation action" actionId
      (fun row => row.lockVersion = lockVersion && row.status == "failed")
      (fun row => { row with
        status := "pending"
        lockVersion := row.lockVersion + 1
        failedAt := none }) tx with
  | (.ok (some row), tx) => (rowToAction row, tx)
  | (.ok none, tx) =>
    match get table actionId with
    | .ok action =>
      if action.status ≠ .failed then
        (.error (.invalidCompensationActionTransition action.status.debug "Pending"
          "Only Failed actions can be reapproved"), tx)
      else (.error (.concurrencyConflict actionId), tx)
    | .error e => (.error e, tx)
  | (.error e, tx) => (.error e, tx)

end Statements

end SqlxCompensationActionRepository

/-- The insertion of a rollback record, which leaves the actions. -/
def createRollbackRecordWithTx (fault : Option String) (tx : Transaction ActionTable) :
    Except IntentRebaseError Unit × Transaction ActionTable :=
  match tx.statement transactionAborted fault fun table => .ok ((), table) with
  | (.ok _, tx) => (.ok (), tx)
  | (.error e, tx) => (.error (.storageError s!"insert rollback record: {e}"), tx)

/-- A write and, where there is an SQL repository of rollback records, the record of it, on a
best-effort basis. -/
def alsoRollbackRecord (sqlRollbackRepo : Bool) (fault : Option String)
    (write : Transaction ActionTable →
      Except IntentRebaseError CompensationAction × Transaction ActionTable)
    (tx : Transaction ActionTable) :
    Except IntentRebaseError CompensationAction × Transaction ActionTable :=
  match write tx with
  | (.error e, tx) => (.error e, tx)
  | (.ok updated, tx) =>
    if sqlRollbackRepo then (.ok updated, (createRollbackRecordWithTx fault tx).2)
    else (.ok updated, tx)

/-- A write of an action in a transaction of the tenant. -/
def withTenant (tenantId : Uuid) (faults : TxFaults)
    (body : Transaction ActionTable →
      Except IntentRebaseError CompensationAction × Transaction ActionTable) (table : ActionTable) :
    Except RlsFailure CompensationAction × ActionTable :=
  inTenant tenantId faults.beginFault faults.commitFault body table

section Writes

variable {table : ActionTable} {actionId tenantId : Uuid} {action updated : CompensationAction}
  {passes : Prop}

/-- A write of a transaction stores the updated action if it passes, and fails otherwise. -/
def TxWrites (table : ActionTable) (actionId : Uuid) (passes : Prop) (updated : CompensationAction)
    (answer : Except IntentRebaseError CompensationAction × Transaction ActionTable) : Prop :=
  (passes ∧ answer = (.ok updated, ⟨table.insert actionId (.ofAction updated), false⟩)) ∨
    (¬ passes ∧ ∃ e tx, answer = (.error e, tx))

open SqlxCompensationActionRepository

theorem updateWithTx_start (h : table.lookup actionId = some (.ofAction action))
    (htenant : action.tenantId = tenantId) (fault : Option String) (context : String)
    (condition : ActionRow → Bool) (set : ActionRow → ActionRow) :
    updateWithTx tenantId fault context actionId condition set (.start table) =
      match fault with
      | some e => (.error (.storageError s!"{context}: {e}"), ⟨table, true⟩)
      | none =>
        if condition (.ofAction action) then
          (.ok (some (set (.ofAction action))),
            ⟨table.insert actionId (set (.ofAction action)), false⟩)
        else (.ok none, ⟨table, false⟩) := by
  have hrow : (ActionRow.ofAction action).tenantId = tenantId := htenant
  cases fault with
  | some e => rfl
  | none =>
    rw [updateWithTx, Transaction.statement, Transaction.start]
    simp only [Bool.false_eq_true, if_false, updateReturning, h, hrow, decide_true, Bool.true_and]
    cases condition (.ofAction action) <;> rfl

/-- The rows of another tenant are not seen. -/
theorem updateWithTx_other (h : table.lookup actionId = some (.ofAction action))
    (htenant : action.tenantId ≠ tenantId) (fault : Option String) (context : String)
    (condition : ActionRow → Bool) (set : ActionRow → ActionRow) :
    updateWithTx tenantId fault context actionId condition set (.start table) =
      match fault with
      | some e => (.error (.storageError s!"{context}: {e}"), ⟨table, true⟩)
      | none => (.ok none, ⟨table, false⟩) := by
  have hrow : (ActionRow.ofAction action).tenantId ≠ tenantId := htenant
  cases fault with
  | some e => rfl
  | none =>
    rw [updateWithTx, Transaction.statement, Transaction.start]
    simp only [Bool.false_eq_true, if_false, updateReturning, h, hrow, decide_false, Bool.false_and]

theorem updateLockedWithTx_writes (h : table.lookup actionId = some (.ofAction action))
    (htenant : action.tenantId = tenantId) (fault : Option String) (context : String)
    (lockVersion : Int) {set : ActionRow → ActionRow}
    (hset : set (.ofAction action) = .ofAction updated) :
    TxWrites table actionId (fault = none ∧ action.lockVersion = lockVersion) updated
      (updateLockedWithTx tenantId fault context actionId lockVersion set (.start table)) := by
  rw [updateLockedWithTx, updateWithTx_start h htenant]
  cases fault with
  | some e => exact .inr ⟨fun h => (nomatch h.1), _, _, rfl⟩
  | none =>
    by_cases hlock : action.lockVersion = lockVersion
    · have hrow : (ActionRow.ofAction action).lockVersion = lockVersion := hlock
      refine .inl ⟨⟨rfl, hlock⟩, ?_⟩
      simp only [hrow, decide_true, if_true, hset, rowToAction_ofAction]
    · have hrow : (ActionRow.ofAction action).lockVersion ≠ lockVersion := hlock
      refine .inr ⟨fun h => hlock h.2, ?_⟩
      simp only [hrow, decide_false, Bool.false_eq_true, if_false]
      exact ⟨_, _, rfl⟩

theorem reapproveWithTx_writes (h : table.lookup actionId = some (.ofAction action))
    (htenant : action.tenantId = tenantId) (fault : Option String) (lockVersion : Int) :
    TxWrites table actionId
      (fault = none ∧ action.lockVersion = lockVersion ∧ action.status = .failed)
      (reapproved action)
      (reapproveWithTx tenantId fault table actionId lockVersion (.start table)) := by
  have hget : SqlxCompensationActionRepository.get table actionId = .ok action := by
    rw [SqlxCompensationActionRepository.get, h]
    exact rowToAction_ofAction action
  have hstatus : ((ActionRow.ofAction action).status == "failed") =
      decide (action.status = .failed) := by
    cases hst : action.status <;> simp [ActionRow.ofAction, compensationStatusToString, hst]
  have hrow : (ActionRow.ofAction action).lockVersion = action.lockVersion := rfl
  rw [reapproveWithTx, updateWithTx_start h htenant]
  cases fault with
  | some e => exact .inr ⟨fun h => (by cases h.1), _, _, rfl⟩
  | none =>
    dsimp only
    rw [hstatus, hrow]
    by_cases hboth : action.lockVersion = lockVersion ∧ action.status = .failed
    · refine .inl ⟨⟨rfl, hboth⟩, ?_⟩
      rw [if_pos (by simpa using hboth)]
      exact congrArg (·, _) (rowToAction_ofAction (reapproved action))
    · refine .inr ⟨fun h => hboth h.2, ?_⟩
      rw [if_neg (by simpa using hboth)]
      dsimp only
      rw [hget]
      dsimp only
      split <;> exact ⟨_, _, rfl⟩

theorem TxWrites.congr {passes' : Prop}
    {answer : Except IntentRebaseError CompensationAction × Transaction ActionTable}
    (h : TxWrites table actionId passes updated answer) (hpasses : passes ↔ passes') :
    TxWrites table actionId passes' updated answer :=
  h.imp (And.imp_left hpasses.mp) (And.imp_left (mt hpasses.mpr))

/-- Without the tenant of the transaction, an update under a lock version is a failure. -/
theorem updateLockedWithTx_scoped (h : table.lookup actionId = some (.ofAction action))
    (tenantId : Uuid) (fault : Option String) (context : String) (lockVersion : Int)
    {set : ActionRow → ActionRow} (hset : set (.ofAction action) = .ofAction updated) :
    TxWrites table actionId
      (fault = none ∧ action.tenantId = tenantId ∧ action.lockVersion = lockVersion) updated
      (updateLockedWithTx tenantId fault context actionId lockVersion set (.start table)) := by
  by_cases htenant : action.tenantId = tenantId
  · exact (updateLockedWithTx_writes h htenant fault context lockVersion hset).congr
      (by simp [htenant])
  · refine .inr ⟨fun hpasses => htenant hpasses.2.1, ?_⟩
    rw [updateLockedWithTx, updateWithTx_other h htenant]
    cases fault <;> exact ⟨_, _, rfl⟩

theorem reapproveWithTx_scoped (h : table.lookup actionId = some (.ofAction action))
    (tenantId : Uuid) (fault : Option String) (lockVersion : Int) :
    TxWrites table actionId
      (fault = none ∧ action.tenantId = tenantId ∧ action.lockVersion = lockVersion ∧
        action.status = .failed)
      (reapproved action)
      (reapproveWithTx tenantId fault table actionId lockVersion (.start table)) := by
  by_cases htenant : action.tenantId = tenantId
  · exact (reapproveWithTx_writes h htenant fault lockVersion).congr (by simp [htenant])
  · refine .inr ⟨fun hpasses => htenant hpasses.2.1, ?_⟩
    rw [reapproveWithTx, updateWithTx_other h htenant]
    cases fault with
    | some e => exact ⟨_, _, rfl⟩
    | none =>
      dsimp only
      cases SqlxCompensationActionRepository.get table actionId with
      | error e => exact ⟨_, _, rfl⟩
      | ok found =>
        dsimp only
        split <;> exact ⟨_, _, rfl⟩

/-- The rollback record of a write is not inserted. -/
def TxFaults.losesRecord (faults : TxFaults) (sqlRollbackRepo : Bool) : Bool :=
  sqlRollbackRepo && faults.rollbackRecordFault.isSome

/-- The transaction begins, and its commit returns. -/
def TxFaults.Completes (faults : TxFaults) : Prop :=
  faults.beginFault = none ∧ faults.commitFault = none

/-- The transaction begins, is not aborted by its rollback record, and is committed. -/
structure TxFaults.Keeps (faults : TxFaults) (sqlRollbackRepo : Bool) : Prop where
  begun : faults.beginFault = none
  recorded : faults.losesRecord sqlRollbackRepo = false
  committed : ∀ e, faults.commitFault ≠ some (.before e)

theorem TxFaults.keeps_iff {faults : TxFaults} {sqlRollbackRepo : Bool} (h : faults.Completes) :
    faults.Keeps sqlRollbackRepo ↔ faults.losesRecord sqlRollbackRepo = false :=
  ⟨Keeps.recorded, fun hrecord => ⟨h.1, hrecord, fun e he => by rw [h.2] at he; cases he⟩⟩

/-- A rollback record that is not inserted aborts the transaction of the write. -/
theorem alsoRollbackRecord_ok {write : Transaction ActionTable →
      Except IntentRebaseError CompensationAction × Transaction ActionTable}
    {tx : Transaction ActionTable} {after : ActionTable} (h : write tx = (.ok updated, ⟨after, false⟩))
    (sqlRollbackRepo : Bool) (faults : TxFaults) :
    alsoRollbackRecord sqlRollbackRepo faults.rollbackRecordFault write tx =
      (.ok updated, ⟨after, faults.losesRecord sqlRollbackRepo⟩) := by
  rw [alsoRollbackRecord, h, TxFaults.losesRecord]
  cases sqlRollbackRepo with
  | false => rfl
  | true => cases faults.rollbackRecordFault <;> rfl

/-- What a write in a transaction of the tenant answers and leaves: it answers if it passes and the
transaction completes, and it is stored if it passes and the transaction keeps it. -/
structure TxOutcome (table : ActionTable) (actionId : Uuid) (passes : Prop)
    (updated : CompensationAction) (sqlRollbackRepo : Bool) (faults : TxFaults)
    (outcome : Except RlsFailure CompensationAction × ActionTable) : Prop where
  answer : (faults.Completes ∧ passes ∧ outcome.1 = .ok updated) ∨
    (¬ (faults.Completes ∧ passes) ∧ ∃ e, outcome.1 = .error e)
  stored : (faults.Keeps sqlRollbackRepo ∧ passes ∧
      outcome.2 = table.insert actionId (.ofAction updated)) ∨
    (¬ (faults.Keeps sqlRollbackRepo ∧ passes) ∧ outcome.2 = table)

theorem withTenant_outcome {write : Transaction ActionTable →
      Except IntentRebaseError CompensationAction × Transaction ActionTable}
    (hwrite : TxWrites table actionId passes updated (write (.start table)))
    (htenant : tenantId ≠ .nil) (sqlRollbackRepo : Bool) (faults : TxFaults) :
    TxOutcome table actionId passes updated sqlRollbackRepo faults (withTenant tenantId faults
      (alsoRollbackRecord sqlRollbackRepo faults.rollbackRecordFault write) table) := by
  rw [withTenant, inTenant.eq_def, validateTenantIdForRls_eq htenant]
  cases hbegin : faults.beginFault with
  | some e =>
    refine ⟨.inr ⟨fun h => ?_, _, rfl⟩, .inr ⟨fun h => ?_, rfl⟩⟩
    · cases hbegin.symm.trans h.1.1
    · cases hbegin.symm.trans h.1.begun
  | none =>
    rcases hwrite with ⟨hpasses, hanswer⟩ | ⟨hpasses, e, tx, hanswer⟩
    · rw [alsoRollbackRecord_ok hanswer]
      dsimp only
      have hloses : ¬ faults.losesRecord sqlRollbackRepo = false →
          ¬ (faults.Keeps sqlRollbackRepo ∧ passes) := fun h hkeeps => h hkeeps.1.recorded
      cases hcommit : faults.commitFault with
      | none =>
        refine ⟨.inl ⟨⟨hbegin, hcommit⟩, hpasses, rfl⟩, ?_⟩
        cases hrecord : faults.losesRecord sqlRollbackRepo with
        | false =>
          exact .inl ⟨(TxFaults.keeps_iff ⟨hbegin, hcommit⟩).mpr hrecord, hpasses, rfl⟩
        | true => exact .inr ⟨hloses (by simp [hrecord]), rfl⟩
      | some fault =>
        have hfails : ¬ (faults.Completes ∧ passes) := fun h => by
          cases hcommit.symm.trans h.1.2
        cases fault with
        | before e =>
          exact ⟨.inr ⟨hfails, _, rfl⟩, .inr ⟨fun h => h.1.committed e hcommit, rfl⟩⟩
        | after e =>
          refine ⟨.inr ⟨hfails, _, rfl⟩, ?_⟩
          cases hrecord : faults.losesRecord sqlRollbackRepo with
          | false =>
            refine .inl ⟨⟨hbegin, hrecord, fun e he => ?_⟩, hpasses, rfl⟩
            cases hcommit.symm.trans he
          | true => exact .inr ⟨hloses (by simp [hrecord]), rfl⟩
    · rw [alsoRollbackRecord, hanswer]
      exact ⟨.inr ⟨fun h => hpasses h.2, _, rfl⟩, .inr ⟨fun h => hpasses h.2, rfl⟩⟩

/-- A write that leaves no rollback record. -/
theorem alsoRollbackRecord_false (fault : Option String) (write : Transaction ActionTable →
      Except IntentRebaseError CompensationAction × Transaction ActionTable) :
    alsoRollbackRecord false fault write = write := by
  funext tx
  rw [alsoRollbackRecord]
  rcases write tx with ⟨_ | _, _⟩ <;> rfl

theorem withTenant_write {write : Transaction ActionTable →
      Except IntentRebaseError CompensationAction × Transaction ActionTable}
    (hwrite : TxWrites table actionId passes updated (write (.start table)))
    (htenant : tenantId ≠ .nil) (faults : TxFaults) :
    TxOutcome table actionId passes updated false faults (withTenant tenantId faults write table) := by
  have houtcome := withTenant_outcome hwrite htenant false faults
  rwa [alsoRollbackRecord_false] at houtcome

end Writes

end IntentRebase
