import IntentRebase.Api.Auth
import IntentRebase.Compensation.RlsTransaction

/-! The handlers that approve, waive, execute and reapprove a compensation action: in a transaction
of the token's tenant where there is a pool and the actions are in SQL, and through the service
otherwise. -/

namespace IntentRebase

open Kit SqlxCompensationActionRepository

/-- What the handlers use of the state of the application: a pool of tenant transactions, an SQL
repository of rollback records, and the recorded side effects. -/
structure CompensationConfig where
  rlsPool : Bool
  sqlRollbackRepo : Bool
  sideEffectRepo : Option SideEffectRepo

/-- The table that transactions of a tenant write, if there is a pool of them. -/
def rlsTable (config : CompensationConfig) : ActionStorage → Option ActionTable
  | .inMemory _ => none
  | .sqlx table => if config.rlsPool then some table else none

/-- The message that rejects a token of another tenant than the action's. -/
def actionTenantMismatch (jwtTenantId tenantId : Uuid) : String :=
  s!"Tenant mismatch: JWT tenant_id ({jwtTenantId.display}) does not match action tenant_id " ++
    s!"({tenantId.display})"

def RlsFailure.toError : RlsFailure → IntentRebaseError
  | .notBegun e => .internal s!"failed to begin RLS transaction: {e}"
  | .refused e => e
  | .notCommitted e => .storageError s!"failed to commit RLS transaction: {e}"

/-- The error of an execution, which also rolls back a transaction whose write failed. -/
def RlsFailure.toExecuteError (faults : TxFaults) : RlsFailure → IntentRebaseError
  | .notBegun e => .internal s!"Failed to begin RLS transaction: {e}"
  | .refused e =>
    match faults.rollbackFault with
    | some rollbackError => .internal s!"Failed to rollback transaction: {rollbackError}"
    | none => e
  | .notCommitted e => .storageError s!"failed to commit RLS transaction: {e}"

/-- A handler of one action, by its two paths. -/
def onAction (config : CompensationConfig) (claims : Option RlsTenantClaims) (actionId : Uuid)
    (rls : RlsTenantClaims → CompensationAction → ActionTable → Answered ActionTable)
    (service : ActionStorage → Answered ActionStorage) (s : ActionStorage) :
    Answered ActionStorage :=
  match s.get actionId with
  | .error e => (.error e, s)
  | .ok action =>
    match claims with
    | none => service s
    | some rlsClaims =>
      if action.tenantId ≠ rlsClaims.tenantId then
        (.error (.unauthorized (actionTenantMismatch rlsClaims.tenantId action.tenantId)), s)
      else
        match rlsTable config s with
        | some table => (rls rlsClaims action table).map id .sqlx
        | none => service s

section Handlers

variable (config : CompensationConfig) (faults : TxFaults) (claims : Option RlsTenantClaims)
  (now : DateTime) (actionId : Uuid)

def approveCompensationAction (lockVersion : Int) (approvedBy : Option String) :
    ActionStorage → Answered ActionStorage :=
  onAction config claims actionId
    (fun rlsClaims action table =>
      match action.checkTransition .approved with
      | .error e => (.error e, table)
      | .ok _ =>
        (withTenant rlsClaims.tenantId faults (updateStatusWithTx rlsClaims.tenantId
          faults.updateFault now actionId .approved lockVersion approvedBy none) table).map
          (.mapError RlsFailure.toError) id)
    fun s => s.approveAction now actionId lockVersion approvedBy

def waiveCompensationAction (lockVersion : Int) (waivedBy : Option String) :
    ActionStorage → Answered ActionStorage :=
  onAction config claims actionId
    (fun rlsClaims action table =>
      match action.checkTransition .waived with
      | .error e => (.error e, table)
      | .ok _ =>
        (withTenant rlsClaims.tenantId faults
          (alsoRollbackRecord config.sqlRollbackRepo faults.rollbackRecordFault
            (updateStatusWithTx rlsClaims.tenantId faults.updateFault now actionId .waived
              lockVersion none waivedBy)) table).map (.mapError RlsFailure.toError) id)
    fun s => s.waiveAction now actionId lockVersion waivedBy

/-- The bounded executor for an action, where there are recorded side effects. -/
def dispatchExecutor {ε : Type} (ofError : IntentRebaseError → ε) (unavailable unsupported : ε)
    (sideEffectRepo : Option SideEffectRepo) (action : CompensationAction) :
    Except ε ExecutionResult :=
  match sideEffectRepo with
  | none => .error unavailable
  | some sideEffects =>
    let run (executor : BoundedExecutor) : Except ε ExecutionResult :=
      (executor.execute sideEffects now action).mapError ofError
    match action.strategyType, action.feasibility with
    | .rollback, .automatic => run rollbackExecutor
    | .counterAction, .semiAutomatic => run counterActionExecutor
    | .followupNotice, .manualOnly => run followupNoticeExecutor
    | .escalation, .notPossible => run escalationExecutor
    | _, _ => .error unsupported

/-- For an allowed combination, the executor runs where there are recorded side effects. -/
theorem dispatchExecutor_ok {ε : Type} (ofError : IntentRebaseError → ε)
    (unavailable unsupported : ε) (sideEffectRepo : Option SideEffectRepo)
    {action : CompensationAction}
    (hcombo : isAllowedCombo action.strategyType action.feasibility = true) :
    (∃ sideEffects result, sideEffectRepo = some sideEffects ∧
      runExecutor sideEffectRepo now action = .ok result ∧
      dispatchExecutor now ofError unavailable unsupported sideEffectRepo action = .ok result) ∨
    (sideEffectRepo = none ∧
      dispatchExecutor now ofError unavailable unsupported sideEffectRepo action =
        .error unavailable) := by
  cases sideEffectRepo with
  | none => exact .inr ⟨rfl, rfl⟩
  | some sideEffects =>
    obtain ⟨result, hresult⟩ := runExecutor_ok (some sideEffects) now action
    refine .inl ⟨sideEffects, result, rfl, hresult, ?_⟩
    rw [runExecutor] at hresult
    rw [dispatchExecutor]
    dsimp only at hresult ⊢
    -- Only the four allowed combinations are left.
    cases hstrategy : action.strategyType <;> cases hfeasibility : action.feasibility <;>
      rw [hstrategy, hfeasibility] at hcombo <;> try cases hcombo
    all_goals
      simp only [hstrategy, hfeasibility] at hresult ⊢
      rw [hresult]
      rfl

/-- The recording of a result in a transaction of the tenant, with its rollback record. -/
def recordInTransaction (tenantId : Uuid) (action : CompensationAction) (result : ExecutionResult)
    (executedBy : Option String) :
    ActionTable → Except RlsFailure CompensationAction × ActionTable :=
  withTenant tenantId faults
    (alsoRollbackRecord config.sqlRollbackRepo faults.rollbackRecordFault
      (recordResultWithTx tenantId faults.updateFault now actionId result action.lockVersion
        (some (executionActor executedBy))))

def executeCompensationAction (executedBy : Option String) :
    ActionStorage → Answered ActionStorage :=
  onAction config claims actionId
    (fun rlsClaims action table =>
      match action.checkExecutable actionId with
      | .error e => (.error e, table)
      | .ok _ =>
        match dispatchExecutor now id (.compensationActionNotExecutable actionId)
          (.compensationActionNotExecutable actionId) config.sideEffectRepo action with
        | .error e => (.error e, table)
        | .ok result =>
          (recordInTransaction config faults now actionId rlsClaims.tenantId action result
            executedBy table).map (.mapError (RlsFailure.toExecuteError faults)) id)
    fun s => s.executeAction config.sideEffectRepo now actionId executedBy

def reapproveCompensationAction (lockVersion : Int) : ActionStorage → Answered ActionStorage :=
  onAction config claims actionId
    (fun rlsClaims action table =>
      match action.checkReapprovable actionId with
      | .error e => (.error e, table)
      | .ok _ =>
        (withTenant rlsClaims.tenantId faults (reapproveWithTx rlsClaims.tenantId
          faults.updateFault table actionId lockVersion) table).map
          (.mapError RlsFailure.toError) id)
    fun s => s.reapproveAction actionId lockVersion

/-- The handlers of the build without tokens. -/
def approveCompensationActionWithoutJwt (lockVersion : Int) (approvedBy : Option String)
    (s : ActionStorage) : Answered ActionStorage :=
  s.approveAction now actionId lockVersion approvedBy

def waiveCompensationActionWithoutJwt (lockVersion : Int) (waivedBy : Option String)
    (s : ActionStorage) : Answered ActionStorage :=
  s.waiveAction now actionId lockVersion waivedBy

def executeCompensationActionWithoutJwt (executedBy : Option String) (s : ActionStorage) :
    Answered ActionStorage :=
  s.executeAction config.sideEffectRepo now actionId executedBy

def reapproveCompensationActionWithoutJwt (lockVersion : Int) (s : ActionStorage) :
    Answered ActionStorage :=
  s.reapproveAction actionId lockVersion

end Handlers

/-! Whether the action that a handler answers with is the one that is stored. -/

/-- The stored action has the status and the lock version of the one that is answered. -/
def StoredAsAnswered (actionId : Uuid) (answer : Answered ActionStorage) : Prop :=
  ∀ updated, answer.1 = .ok updated → ∃ stored, answer.2.get actionId = .ok stored ∧
    stored.status = updated.status ∧ stored.lockVersion = updated.lockVersion

section Writes

variable {s : ActionStorage} {table : ActionTable} {actionId tenantId : Uuid}
  {action updated : CompensationAction} {passes : Prop}

theorem StoredAsAnswered.error {e : IntentRebaseError} :
    StoredAsAnswered actionId (.error e, s) := by
  intro updated h
  cases h

theorem StoredAsAnswered.put : StoredAsAnswered actionId (.ok updated, s.put actionId updated) := by
  intro answered h
  cases h
  exact ⟨updated, by rw [ActionStorage.get_put, if_pos rfl], rfl, rfl⟩

/-- An answer with a higher lock version than the stored action's is not stored. -/
theorem StoredAsAnswered.not_lost (h : s.get actionId = .ok action)
    (hversion : updated.lockVersion = action.lockVersion + 1) :
    ¬ StoredAsAnswered actionId (.ok updated, s) := by
  intro hstored
  obtain ⟨stored, hget, -, hlock⟩ := hstored updated rfl
  cases h.symm.trans hget
  omega

theorem storedAsAnswered_updateStatus (h : s.get actionId = .ok action) (now : DateTime)
    (newStatus : CompensationStatus) (lockVersion : Int) (approvedBy waivedBy : Option String) :
    StoredAsAnswered actionId
      (s.updateStatus now actionId newStatus lockVersion approvedBy waivedBy) := by
  rw [ActionStorage.updateStatus_eq h]
  split
  · exact .put
  · exact .error

theorem storedAsAnswered_recordResult (h : s.get actionId = .ok action) (now : DateTime)
    (result : ExecutionResult) (lockVersion : Int) (executedBy : Option String) :
    StoredAsAnswered actionId (s.recordResult now actionId result lockVersion executedBy) := by
  rw [ActionStorage.recordResult_eq h]
  split
  · exact .put
  · exact .error

/-- The answer of a write in a transaction is stored unless the transaction loses the record of the
rollback and goes through otherwise. -/
theorem storedAsAnswered_withTenant {write : Transaction ActionTable →
      Except IntentRebaseError CompensationAction × Transaction ActionTable}
    (h : (ActionStorage.sqlx table).get actionId = .ok action)
    (hversion : updated.lockVersion = action.lockVersion + 1)
    (hwrite : TxWrites table actionId passes updated (write (.start table)))
    (htenant : tenantId ≠ .nil) (sqlRollbackRepo : Bool) (faults : TxFaults)
    (toError : RlsFailure → IntentRebaseError) :
    StoredAsAnswered actionId (((withTenant tenantId faults (alsoRollbackRecord sqlRollbackRepo
        faults.rollbackRecordFault write) table).map (.mapError toError) id).map id .sqlx) ↔
      ¬ (faults.losesRecord sqlRollbackRepo = true ∧ faults.Completes ∧ passes) := by
  have houtcome := withTenant_outcome hwrite htenant sqlRollbackRepo faults
  cases hresult : withTenant tenantId faults
      (alsoRollbackRecord sqlRollbackRepo faults.rollbackRecordFault write) table with
  | mk answer after =>
    rw [hresult] at houtcome
    rcases houtcome.answer with ⟨hcompletes, hpasses, rfl⟩ | ⟨hfails, e, rfl⟩
    · rcases houtcome.stored with ⟨hkeeps, -, rfl⟩ | ⟨hloses, rfl⟩
      · refine iff_of_true (StoredAsAnswered.put (s := .sqlx table)) fun h => ?_
        cases hkeeps.recorded.symm.trans h.1
      · refine iff_of_false (StoredAsAnswered.not_lost (s := .sqlx after) h hversion) ?_
        rw [not_not]
        refine ⟨?_, hcompletes, hpasses⟩
        by_contra hrecord
        exact hloses ⟨(TxFaults.keeps_iff hcompletes).mpr (by simpa using hrecord), hpasses⟩
    · exact iff_of_true .error fun h => hfails h.2

end Writes

section Handlers

variable (config : CompensationConfig) (faults : TxFaults) (claims : Option RlsTenantClaims)
  (now : DateTime) (actionId : Uuid) (s : ActionStorage)

/-- The transaction of the call's tenant goes through but for the record of the rollback, which it
loses. -/
def LosesTransaction (claims : Option RlsTenantClaims) (s : ActionStorage)
    (action : CompensationAction) : Prop :=
  (rlsTable config s).isSome ∧
    (∃ rlsClaims, claims = some rlsClaims ∧ action.tenantId = rlsClaims.tenantId) ∧
    faults.losesRecord config.sqlRollbackRepo = true ∧ faults.Completes ∧ faults.updateFault = none

/-- The waiver of a pending action under its lock version loses its transaction. -/
def WaiveLoses (lockVersion : Int) : Prop :=
  ∃ action, s.get actionId = .ok action ∧ action.status = .pending ∧
    action.lockVersion = lockVersion ∧ LosesTransaction config faults claims s action

/-- The execution of an action that the gates let pass loses its transaction. -/
def ExecuteLoses : Prop :=
  ∃ action, s.get actionId = .ok action ∧ action.checkExecutable actionId = .ok () ∧
    config.sideEffectRepo.isSome ∧ LosesTransaction config faults claims s action

variable {config faults claims now actionId s}

theorem rlsTable_eq_some {table : ActionTable} (h : rlsTable config s = some table) :
    s = .sqlx table := by
  cases s with
  | inMemory => cases h
  | sqlx table' =>
    rw [rlsTable] at h
    split at h
    · cases h
      rfl
    · cases h

variable (faults) in
/-- A handler stores what it answers if its path does, and loses it where its transaction does. -/
theorem storedAsAnswered_onAction
    {rls : RlsTenantClaims → CompensationAction → ActionTable → Answered ActionTable}
    {service : ActionStorage → Answered ActionStorage} (goes : CompensationAction → Prop)
    (hrls : ∀ rlsClaims action table, s = .sqlx table → s.get actionId = .ok action →
      action.tenantId = rlsClaims.tenantId →
      (StoredAsAnswered actionId ((rls rlsClaims action table).map id .sqlx) ↔
        ¬ (goes action ∧ faults.losesRecord config.sqlRollbackRepo = true ∧ faults.Completes ∧
          faults.updateFault = none)))
    (hservice : ∀ action, s.get actionId = .ok action → StoredAsAnswered actionId (service s)) :
    StoredAsAnswered actionId (onAction config claims actionId rls service s) ↔
      ¬ ∃ action, s.get actionId = .ok action ∧ goes action ∧
        LosesTransaction config faults claims s action := by
  rw [onAction]
  cases hget : s.get actionId with
  | error e => exact iff_of_true .error fun ⟨_, h, _⟩ => nomatch h
  | ok action =>
    simp only [Except.ok.injEq, exists_eq_left']
    rw [LosesTransaction]
    cases claims with
    | none => exact iff_of_true (hservice action hget) fun ⟨_, _, ⟨_, h, _⟩, _⟩ => nomatch h
    | some rlsClaims =>
      dsimp only
      by_cases htenant : action.tenantId = rlsClaims.tenantId
      · rw [if_neg (not_not.mpr htenant)]
        cases htable : rlsTable config s with
        | none => exact iff_of_true (hservice action hget) fun ⟨_, h, _⟩ => nomatch h
        | some table =>
          refine (hrls rlsClaims action table (rlsTable_eq_some htable) hget htenant).trans
            (not_congr ?_)
          simp [htenant]
      · rw [if_pos htenant]
        refine iff_of_true .error ?_
        rintro ⟨_, _, ⟨_, hclaims, howner⟩, _⟩
        cases hclaims
        exact htenant howner

theorem waive_stored_iff (lockVersion : Int) (waivedBy : Option String) :
    StoredAsAnswered actionId
        (waiveCompensationAction config faults claims now actionId lockVersion waivedBy s) ↔
      ¬ WaiveLoses config faults claims actionId s lockVersion := by
  rw [waiveCompensationAction, WaiveLoses]
  refine (storedAsAnswered_onAction faults
    (fun action => action.status = .pending ∧ action.lockVersion = lockVersion) ?_ ?_).trans
    (by simp only [and_assoc])
  · intro rlsClaims action table hs hget htenant
    have hallowed := action.checkTransition_ok (u := ())
      (.inr (rfl : CompensationStatus.waived = .waived))
    cases hcheck : action.checkTransition .waived with
    | error e =>
      rw [hcheck] at hallowed
      exact iff_of_true .error fun h => nomatch hallowed.mpr h.1.1
    | ok _ =>
      rw [hs] at hget
      have hset := setStatus_ofAction now .waived none waivedBy action
      have hwrite := updateLockedWithTx_writes (ActionStorage.sqlx_get_ok hget) htenant
        faults.updateFault "update compensation action status" lockVersion hset
      refine (storedAsAnswered_withTenant hget rfl hwrite rlsClaims.notNil config.sqlRollbackRepo
        faults RlsFailure.toError).trans (not_congr ?_)
      have hpending := hallowed.mp hcheck
      tauto
  · intro action hget
    rw [ActionStorage.waiveAction, hget]
    dsimp only
    cases action.checkTransition .waived with
    | error e => exact .error
    | ok _ => exact storedAsAnswered_updateStatus hget _ _ _ _ _

theorem execute_stored_iff (executedBy : Option String) :
    StoredAsAnswered actionId
        (executeCompensationAction config faults claims now actionId executedBy s) ↔
      ¬ ExecuteLoses config faults claims actionId s := by
  rw [executeCompensationAction, ExecuteLoses]
  refine (storedAsAnswered_onAction faults
    (fun action => action.checkExecutable actionId = .ok () ∧
      config.sideEffectRepo.isSome) ?_ ?_).trans (by simp only [and_assoc])
  · intro rlsClaims action table hs hget htenant
    cases hcheck : action.checkExecutable actionId with
    | error e => exact iff_of_true .error fun h => nomatch h.1.1
    | ok _ =>
      dsimp only
      rcases dispatchExecutor_ok now id (.compensationActionNotExecutable actionId)
          (.compensationActionNotExecutable actionId) config.sideEffectRepo
          ((action.checkExecutable_ok actionId).mp hcheck).2 with
        ⟨sideEffects, result, hrepo, -, hrun⟩ | ⟨hrepo, hrun⟩
      · rw [hrun]
        rw [hs] at hget
        have hset := setResult_ofAction now result (some (executionActor executedBy)) action
        have hwrite := updateLockedWithTx_writes (ActionStorage.sqlx_get_ok hget) htenant
          faults.updateFault "record compensation result" action.lockVersion hset
        refine (storedAsAnswered_withTenant hget rfl hwrite rlsClaims.notNil config.sqlRollbackRepo
          faults (RlsFailure.toExecuteError faults)).trans (not_congr ?_)
        simp [hrepo]
      · rw [hrun, hrepo]
        exact iff_of_true .error fun h => nomatch h.1.2
  · intro action hget
    rw [ActionStorage.executeAction, hget]
    dsimp only
    cases action.checkExecutable actionId with
    | error e => exact .error
    | ok _ =>
      dsimp only
      obtain ⟨result, hresult⟩ := runExecutor_ok config.sideEffectRepo now action
      rw [hresult]
      exact storedAsAnswered_recordResult hget _ _ _ _

end Handlers

end IntentRebase
