import IntentRebase.Api.BatchPass

/-! Whether the actions that an execution of a batch reports as done are stored as it reports them.
-/

namespace IntentRebase

open Kit SqlxCompensationActionRepository

/-- The success of an execution does not depend on its time. -/
theorem runExecutor_success (sideEffectRepo : Option SideEffectRepo) (now now' : DateTime)
    (action : CompensationAction) :
    (runExecutor sideEffectRepo now action).map ExecutionResult.success =
      (runExecutor sideEffectRepo now' action).map ExecutionResult.success := by
  rw [runExecutor_at sideEffectRepo now now']
  cases runExecutor sideEffectRepo now action <;> rfl

/-- The status that an execution leaves. -/
def executedStatus (sideEffectRepo : Option SideEffectRepo) (action : CompensationAction) :
    CompensationStatus :=
  match runExecutor sideEffectRepo 0 action with
  | .ok result => if result.success then .executed else .failed
  | .error _ => .failed

theorem executedStatus_eq {sideEffectRepo : Option SideEffectRepo} {now : DateTime}
    {action : CompensationAction} {result : ExecutionResult}
    (h : runExecutor sideEffectRepo now action = .ok result) :
    executedStatus sideEffectRepo action = if result.success then .executed else .failed := by
  obtain ⟨result', h'⟩ := runExecutor_ok sideEffectRepo 0 action
  have hsuccess := runExecutor_success sideEffectRepo 0 now action
  rw [h, h'] at hsuccess
  rw [executedStatus, h', ← Except.ok.inj hsuccess]

/-- An execution leaves no action that can be executed again. -/
theorem executedStatus_ne_approved (sideEffectRepo : Option SideEffectRepo)
    (action : CompensationAction) : executedStatus sideEffectRepo action ≠ .approved := by
  unfold executedStatus
  split
  · split <;> nofun
  · nofun

section Items

/-- An item executes an approved action of the tenant that the executors support; in a transaction,
it needs recorded side effects to check. -/
def executeRule (config : CompensationConfig) (tenantId : Uuid) : ItemRule where
  mayWrite inTx actionId action :=
    action.tenantId = tenantId ∧ action.checkExecutable actionId = .ok () ∧
      (inTx = true → config.sideEffectRepo.isSome)
  recordsRollback := config.sqlRollbackRepo
  writes action updated :=
    updated.status = executedStatus config.sideEffectRepo action ∧
      updated.lockVersion = action.lockVersion + 1 ∧ updated.tenantId = action.tenantId

variable {config : CompensationConfig} {faults : Nat → TxFaults} {clock : Nat → DateTime}
  {initiatedBy : Option String} {rlsClaims : RlsTenantClaims} {s : ActionStorage} {n : Nat}
  {tenantId actionId : Uuid} {action : CompensationAction}

/-- An action that may not be executed is neither reported nor stored. -/
theorem executeItem_unchanged (hget : s.get actionId = .ok action)
    (h : ¬ (executeRule config tenantId).Allows config s actionId) (e : String) :
    ∃ updated, (executeRule config tenantId).Outcome config faults s n actionId (.error e, s)
      updated := by
  refine ⟨{ action with
    status := executedStatus config.sideEffectRepo action
    lockVersion := action.lockVersion + 1 }, .unchanged h ?_ e⟩
  exact ⟨action, hget, rfl, rfl, rfl⟩

variable (config) in
/-- An execution of the service is reported and stored if the gates let the action pass. -/
theorem executeAction_outcome (h : s.get actionId = .ok action)
    (htenant : action.tenantId = tenantId) (htable : rlsTable config s = none) :
    ∃ updated, (executeRule config tenantId).Outcome config faults s n actionId
      ((s.executeAction config.sideEffectRepo (clock n) actionId initiatedBy).map
        (.mapError IntentRebaseError.display) id) updated := by
  rw [ActionStorage.executeAction, h]
  dsimp only
  cases hcheck : action.checkExecutable actionId with
  | error e =>
    refine executeItem_unchanged h (fun hallows => ?_) e.display
    cases hcheck.symm.trans ((ItemRule.allows_iff h).mp hallows).2.1
  | ok _ =>
    have hallows : (executeRule config tenantId).Allows config s actionId :=
      (ItemRule.allows_iff h).mpr ⟨htenant, hcheck, by simp [htable]⟩
    obtain ⟨result, hresult⟩ := runExecutor_ok config.sideEffectRepo (clock n) action
    dsimp only
    rw [hresult]
    dsimp only
    rw [ActionStorage.recordResult_eq h, if_pos rfl]
    have hwritten := s.resultWritten_from (clock n) result initiatedBy action
    refine ⟨_, ItemRule.Outcome.ofService hallows htable
      ⟨action, h, ?_, hwritten.1.lockVersion, hwritten.1.tenantId⟩⟩
    exact hwritten.2.trans (executedStatus_eq hresult).symm

/-- An execution in a transaction is reported and stored, each under its own condition. -/
theorem recordInTransaction_outcome {table : ActionTable} {result : ExecutionResult}
    (h : (ActionStorage.sqlx table).get actionId = .ok action)
    (hallows : (executeRule config rlsClaims.tenantId).Allows config (.sqlx table) actionId)
    (htable : rlsTable config (.sqlx table) = some table)
    (hresult : runExecutor config.sideEffectRepo (clock n) action = .ok result) :
    ∃ updated, (executeRule config rlsClaims.tenantId).Outcome config faults (.sqlx table) n
      actionId ((recordInTransaction config (faults n) (clock n) actionId rlsClaims.tenantId action result
        initiatedBy table).map (.mapError RlsFailure.batchExecuteText) .sqlx) updated := by
  have hset := setResult_ofAction (clock n) result (some (executionActor initiatedBy)) action
  have hwrite := updateLockedWithTx_writes (ActionStorage.sqlx_get_ok h)
    ((ItemRule.allows_iff h).mp hallows).1 (faults n).updateFault "record compensation result"
    action.lockVersion hset
  have houtcome := withTenant_outcome hwrite rlsClaims.notNil config.sqlRollbackRepo (faults n)
  exact ⟨_, ItemRule.Outcome.ofTx (executeRule config rlsClaims.tenantId) houtcome
    (by simp [hallows]) htable ⟨action, h, (executedStatus_eq hresult).symm, rfl, rfl⟩
    RlsFailure.batchExecuteText⟩

theorem executeItem_outcome (h : s.get actionId = .ok action) :
    ∃ updated, (executeRule config rlsClaims.tenantId).Outcome config faults s n actionId
      (executeItem config faults clock initiatedBy rlsClaims n actionId action s) updated := by
  rw [executeItem]
  by_cases htenant : action.tenantId = rlsClaims.tenantId
  swap
  · rw [if_pos htenant]
    exact executeItem_unchanged h (fun hallows => htenant ((ItemRule.allows_iff h).mp hallows).1) _
  rw [if_neg (not_not.mpr htenant)]
  cases htable : rlsTable config s with
  | none => exact executeAction_outcome config h htenant htable
  | some table =>
    dsimp only
    have hgates (hallows : (executeRule config rlsClaims.tenantId).Allows config s actionId) :=
      (action.checkExecutable_ok actionId).mp ((ItemRule.allows_iff h).mp hallows).2.1
    by_cases hstatus : action.status = .approved
    swap
    · rw [if_pos hstatus]
      exact executeItem_unchanged h (fun hallows => hstatus (hgates hallows).1) _
    rw [if_neg (not_not.mpr hstatus)]
    cases hcombo : isAllowedCombo action.strategyType action.feasibility with
    | false =>
      rw [if_pos Bool.not_false]
      exact executeItem_unchanged h (fun hallows => nomatch hcombo.symm.trans (hgates hallows).2) _
    | true =>
      rw [if_neg (by simp)]
      have hcheck := (action.checkExecutable_ok actionId (u := ())).mpr ⟨hstatus, hcombo⟩
      rcases dispatchExecutor_ok (clock n) IntentRebaseError.display
          "Side effect repository not available" "Unsupported strategy/feasibility combo"
          config.sideEffectRepo hcombo with
        ⟨sideEffects, result, hrepo, hresult, hrun⟩ | ⟨hrepo, hrun⟩
      · rw [hrun]
        obtain rfl := rlsTable_eq_some htable
        have hallows :
            (executeRule config rlsClaims.tenantId).Allows config (.sqlx table) actionId :=
          (ItemRule.allows_iff h).mpr ⟨htenant, hcheck, by simp [hrepo]⟩
        exact recordInTransaction_outcome h hallows htable hresult
      · rw [hrun]
        refine executeItem_unchanged h (fun hallows => ?_) _
        have hsome := ((ItemRule.allows_iff h).mp hallows).2.2 (by simp [htable])
        simp [hrepo] at hsome

/-- An execution leaves no action that is approved. -/
theorem executeRule_once (config : CompensationConfig) (tenantId : Uuid) (inTx : Bool)
    (actionId : Uuid) (action updated : CompensationAction)
    (h : (executeRule config tenantId).writes action updated) :
    ¬ (executeRule config tenantId).mayWrite inTx actionId updated := fun hmay =>
  executedStatus_ne_approved _ action
    (h.1.symm.trans ((updated.checkExecutable_ok actionId).mp hmay.2.1).1)

theorem executeItem_describes (config : CompensationConfig) (faults : Nat → TxFaults)
    (clock : Nat → DateTime) (initiatedBy : Option String) (rlsClaims : RlsTenantClaims) :
    (executeRule config rlsClaims.tenantId).Describes config faults
      (executeItem config faults clock initiatedBy rlsClaims) where
  outcome _ _ _ _ h := executeItem_outcome h
  owner _ _ hwrites := hwrites.2.2
  once := executeRule_once config rlsClaims.tenantId

end Items

/-- Each success of a batch reports an action that is stored with its status and lock version. -/
def BatchStoredAsAnswered
    (answer : Except IntentRebaseError BatchOrchestrationResponse × ActionStorage) : Prop :=
  ∀ response, answer.1 = .ok response → ∀ o ∈ response.outcomes, o.success = true →
    ∃ updated stored, o.result = some updated ∧ answer.2.get o.actionId = .ok stored ∧
      stored.status = updated.status ∧ stored.lockVersion = updated.lockVersion

section Batch

variable (config : CompensationConfig) (faults : Nat → TxFaults) (clock : Nat → DateTime)
  (initiatedBy : Option String) (rlsClaims : RlsTenantClaims) (tenantId : Uuid)
  (actionIds : List Uuid) (s : ActionStorage)

/-- Each action whose execution some item of the batch reports is stored by some item of it. -/
def BatchKeeps : Prop :=
  ∀ actionId,
    SomeItem ((executeRule config rlsClaims.tenantId).Reports config faults s) 0 actionIds
      actionId →
    SomeItem ((executeRule config rlsClaims.tenantId).Stores config faults s) 0 actionIds actionId

theorem batchExecute_stored_iff :
    BatchStoredAsAnswered (batchExecuteCompensationActions config faults clock initiatedBy
        (some rlsClaims) tenantId actionIds s) ↔
      BatchKeeps config faults rlsClaims actionIds s := by
  obtain ⟨outcomes, houtcomes, hpass⟩ :=
    (executeItem_describes config faults clock initiatedBy rlsClaims).pass
      "Compensation action not found" actionIds 0 (.start actionIds []) s
  rw [batchExecuteCompensationActions]
  generalize claimsItems (executeItem config faults clock initiatedBy rlsClaims)
    "Compensation action not found" 0 actionIds (.start actionIds []) s = run at houtcomes hpass ⊢
  obtain ⟨response, after⟩ := run
  obtain rfl : response.outcomes = outcomes := houtcomes
  constructor
  · intro hstored actionId hreports
    by_contra hlost
    obtain ⟨o, ho, rfl, hsuccess⟩ := (hpass actionId).reports hreports hlost
    obtain ⟨-, updated, hresult, action, hget, -, hversion, -⟩ :=
      (hpass _).reported o ho rfl hsuccess
    obtain ⟨updated', stored, hresult', hafter, -, hlock⟩ := hstored response rfl o ho hsuccess
    cases hresult.symm.trans hresult'
    cases (((hpass _).kept hlost).trans hget).symm.trans hafter
    omega
  · intro hkeeps response' h o ho hsuccess
    cases h
    obtain ⟨hreports, updated, hresult, action, hget, hstatus, hversion, -⟩ :=
      (hpass _).reported o ho rfl hsuccess
    obtain ⟨stored, hafter, action', hget', hstatus', hversion', -⟩ :=
      (hpass _).stored (hkeeps _ hreports)
    cases hget.symm.trans hget'
    exact ⟨updated, stored, hresult, hafter, hstatus'.trans hstatus.symm,
      hversion'.trans hversion.symm⟩

variable (itemFaults : Nat → TxFaults) (txFaults : TxFaults) (claims : Option RlsTenantClaims)
  (now : DateTime) (actionId : Uuid) (lockVersion : Int) (actor : Option String)

/-- A handler stores what it answers unless its transaction loses the record of the rollback, and a
batch unless that is so of every item that reports some action. -/
theorem answers_stored_iff :
    (StoredAsAnswered actionId
        (waiveCompensationAction config txFaults claims now actionId lockVersion actor s) ↔
      ¬ WaiveLoses config txFaults claims actionId s lockVersion) ∧
    (StoredAsAnswered actionId
        (executeCompensationAction config txFaults claims now actionId actor s) ↔
      ¬ ExecuteLoses config txFaults claims actionId s) ∧
    (BatchStoredAsAnswered (batchExecuteCompensationActions config itemFaults clock actor
        (some rlsClaims) tenantId actionIds s) ↔
      BatchKeeps config itemFaults rlsClaims actionIds s) :=
  ⟨waive_stored_iff lockVersion actor, execute_stored_iff actor,
    batchExecute_stored_iff config itemFaults clock actor rlsClaims tenantId actionIds s⟩

end Batch

section Sample

/-- A pending action of tenant 5. -/
def tenantAction : CompensationAction := { CompensationAction.sample 7 0 with tenantId := 5 }

/-- The table that holds an action. -/
def tableOf (action : CompensationAction) : ActionTable :=
  (∅ : ActionTable).insert action.id (.ofAction action)

theorem get_tableOf (action : CompensationAction) :
    (ActionStorage.sqlx (tableOf action)).get action.id = .ok action := by
  rw [ActionStorage.get, SqlxCompensationActionRepository.get, tableOf, AList.lookup_insert]
  exact rowToAction_ofAction action

/-- A waiver is answered with success when its rollback record is not inserted, and is not stored.
-/
theorem waive_answered_not_stored :
    ¬ (∀ (config : CompensationConfig) (faults : TxFaults) (claims : Option RlsTenantClaims)
        (now : DateTime) (actionId : Uuid) (lockVersion : Int) (waivedBy : Option String)
        (s : ActionStorage), StoredAsAnswered actionId
          (waiveCompensationAction config faults claims now actionId lockVersion waivedBy s)) := by
  intro h
  have hloses : WaiveLoses ⟨true, true, none⟩ ⟨none, none, some "disk full", none, none⟩
      (some sampleClaims) tenantAction.id (.sqlx (tableOf tenantAction)) 0 :=
    ⟨tenantAction, get_tableOf tenantAction, rfl, rfl, rfl, ⟨sampleClaims, rfl, rfl⟩, rfl,
      ⟨rfl, rfl⟩, rfl⟩
  exact (waive_stored_iff 0 none).mp (h ⟨true, true, none⟩ _ _ 10 _ 0 none _) hloses

end Sample

end IntentRebase
