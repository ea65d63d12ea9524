import IntentRebase.Api.BatchAccounting
import IntentRebase.Api.CompensationInterleaving
import IntentRebase.Kit.Ownership

/-! A handler of compensation actions that is called with claims changes actions of the token's
tenant only, alone and in a batch, in a transaction and through the service. -/

namespace IntentRebase

open Kit SqlxCompensationActionRepository

namespace ActionStorage

/-- No action but the tenant's differs. -/
def ChangesOnlyOf (tenantId : Uuid) : ActionStorage → ActionStorage → Prop
  | .inMemory repo, .inMemory repo' =>
    ChangesOnly (fun action => action.tenantId = tenantId) repo repo'
  | .sqlx table, .sqlx table' => ChangesOnly (fun row => row.tenantId = tenantId) table table'
  | _, _ => False

namespace ChangesOnlyOf

variable {tenantId actionId : Uuid} {s next after : ActionStorage}
  {action updated : CompensationAction}

theorem refl (tenantId : Uuid) (s : ActionStorage) : ChangesOnlyOf tenantId s s := by
  cases s <;> exact ChangesOnly.refl _ _

theorem trans (h : ChangesOnlyOf tenantId s next) (h' : ChangesOnlyOf tenantId next after) :
    ChangesOnlyOf tenantId s after := by
  cases s <;> cases next <;> try cases h
  all_goals
    cases after <;> try cases h'
    exact ChangesOnly.trans h h'

/-- An action of the tenant is written over itself. -/
theorem put (hget : s.get actionId = .ok action) (hbefore : action.tenantId = tenantId)
    (hafter : updated.tenantId = tenantId) :
    ChangesOnlyOf tenantId s (s.put actionId updated) := by
  cases s with
  | inMemory repo =>
    refine ChangesOnly.insert (fun stored hstored => ?_) hafter
    cases hstored.symm.trans (get_ok hget)
    exact hbefore
  | sqlx table =>
    refine ChangesOnly.insert (fun stored hstored => ?_) hafter
    cases hstored.symm.trans (sqlx_get_ok hget)
    exact hbefore

/-- An action that is stored afterwards is the tenant's, or was stored before. -/
theorem owned_or_stored (h : ChangesOnlyOf tenantId s after) (hget : after.get actionId = .ok action) :
    action.tenantId = tenantId ∨ s.get actionId = .ok action := by
  cases s <;> cases after <;> try cases h
  case inMemory.inMemory repo repo' =>
    rcases h actionId with hsame | ⟨-, hown⟩
    · right
      rw [get, ActionRepo.get] at hget ⊢
      rwa [← hsame]
    · exact .inl (hown action (get_ok hget))
  case sqlx.sqlx table table' =>
    rcases h actionId with hsame | ⟨-, hown⟩
    · right
      rw [get, SqlxCompensationActionRepository.get] at hget ⊢
      rwa [← hsame]
    · exact .inl (hown _ (sqlx_get_ok hget))

end ChangesOnlyOf

end ActionStorage

open ActionStorage (ChangesOnlyOf)

section Single

variable {s : ActionStorage} {table : ActionTable} {actionId tenantId : Uuid}
  {stored : CompensationAction}

/-- A write leaves the actions, or stores a version of its action, of the same tenant. -/
theorem CheckedWrite.apply_owner (h : s.get actionId = .ok stored) (now : DateTime)
    (checked : CheckedWrite) :
    (checked.apply now actionId s).2 = s ∨ ∃ updated, updated.tenantId = stored.tenantId ∧
      (checked.apply now actionId s).2 = s.put actionId updated := by
  have hguarded {passes : Prop} [Decidable passes] {updated : CompensationAction}
      {e : IntentRebaseError} {answer : Answered ActionStorage}
      (howner : updated.tenantId = stored.tenantId)
      (hanswer : answer = if passes then (.ok updated, s.put actionId updated) else (.error e, s)) :
      answer.2 = s ∨ ∃ updated, updated.tenantId = stored.tenantId ∧
        answer.2 = s.put actionId updated := by
    rw [hanswer]
    split
    · exact .inr ⟨updated, howner, rfl⟩
    · exact .inl rfl
  cases checked with
  | approve lockVersion approvedBy =>
    exact hguarded (s.statusWritten_from now .approved approvedBy none stored).1.tenantId
      (ActionStorage.updateStatus_eq h now .approved lockVersion approvedBy none)
  | waive lockVersion waivedBy =>
    exact hguarded (s.statusWritten_from now .waived none waivedBy stored).1.tenantId
      (ActionStorage.updateStatus_eq h now .waived lockVersion none waivedBy)
  | record result lockVersion executedBy =>
    exact hguarded (s.resultWritten_from now result executedBy stored).1.tenantId
      (ActionStorage.recordResult_eq h now result lockVersion executedBy)
  | reapprove lockVersion =>
    rcases ActionStorage.reapprove_cases h lockVersion with ⟨-, -, hanswer⟩ | ⟨-, e, hanswer⟩
    · exact .inr ⟨reapproved stored, rfl, congrArg Prod.snd hanswer⟩
    · exact .inl (congrArg Prod.snd hanswer)

/-- So does a write in a transaction of the tenant. -/
theorem CheckedWrite.applyTx_owner (h : (ActionStorage.sqlx table).get actionId = .ok stored)
    (htenant : tenantId ≠ .nil) (now : DateTime) (config : CompensationConfig) (faults : TxFaults)
    (checked : CheckedWrite) :
    (checked.applyTx now actionId config faults tenantId table).2 = table ∨
      ∃ updated, updated.tenantId = stored.tenantId ∧
        (checked.applyTx now actionId config faults tenantId table).2 =
          table.insert actionId (.ofAction updated) := by
  have hlookup := ActionStorage.sqlx_get_ok h
  have hstored {passes : Prop} {updated : CompensationAction} {sqlRollbackRepo : Bool}
      {outcome : Except RlsFailure CompensationAction × ActionTable}
      (houtcome : TxOutcome table actionId passes updated sqlRollbackRepo faults outcome)
      (howner : updated.tenantId = stored.tenantId) :
      outcome.2 = table ∨ ∃ updated, updated.tenantId = stored.tenantId ∧
        outcome.2 = table.insert actionId (.ofAction updated) := by
    rcases houtcome.stored with ⟨-, -, hafter⟩ | ⟨-, hafter⟩
    · exact .inr ⟨updated, howner, hafter⟩
    · exact .inl hafter
  cases checked with
  | approve lockVersion approvedBy =>
    have hwrite := updateLockedWithTx_scoped hlookup tenantId faults.updateFault
      "update compensation action status" lockVersion
      (setStatus_ofAction now .approved approvedBy none stored)
    exact hstored (withTenant_write hwrite htenant faults) rfl
  | waive lockVersion waivedBy =>
    have hwrite := updateLockedWithTx_scoped hlookup tenantId faults.updateFault
      "update compensation action status" lockVersion
      (setStatus_ofAction now .waived none waivedBy stored)
    exact hstored (withTenant_outcome hwrite htenant config.sqlRollbackRepo faults) rfl
  | record result lockVersion executedBy =>
    have hwrite := updateLockedWithTx_scoped hlookup tenantId faults.updateFault
      "record compensation result" lockVersion (setResult_ofAction now result executedBy stored)
    exact hstored (withTenant_outcome hwrite htenant config.sqlRollbackRepo faults) rfl
  | reapprove lockVersion =>
    have hwrite := reapproveWithTx_scoped hlookup tenantId faults.updateFault lockVersion
    exact hstored (withTenant_write hwrite htenant faults) rfl

/-- A handler with claims changes actions of the token's tenant only. -/
theorem handler_changesOnly (config : CompensationConfig) (rlsClaims : RlsTenantClaims)
    (faults : TxFaults) (request : ActionRequest) (s : ActionStorage) :
    ChangesOnlyOf rlsClaims.tenantId s
      ((ActionCall.handler (some rlsClaims) faults request).apply config s).2 := by
  rw [handler_apply_eq, onAction]
  cases hget : s.get request.actionId with
  | error e => exact .refl _ s
  | ok action =>
    dsimp only
    by_cases htenant : action.tenantId = rlsClaims.tenantId
    swap
    · rw [if_pos htenant]
      exact .refl _ s
    rw [if_neg (not_not.mpr htenant)]
    cases htable : rlsTable config s with
    | none =>
      dsimp only
      rw [service_apply_eq, hget]
      dsimp only
      cases request.check action config.sideEffectRepo with
      | error e => exact .refl _ s
      | ok checked =>
        dsimp only
        rcases CheckedWrite.apply_owner hget request.now checked with
          hsame | ⟨updated, howner, hafter⟩
        · rw [hsame]
          exact .refl _ s
        · rw [hafter]
          exact .put hget htenant (howner.trans htenant)
    | some table =>
      obtain rfl := rlsTable_eq_some htable
      dsimp only [Prod.map]
      cases request.checkTx action config.sideEffectRepo with
      | error e => exact .refl _ _
      | ok checked =>
        dsimp only
        rcases CheckedWrite.applyTx_owner hget rlsClaims.notNil request.now config faults checked
          with hsame | ⟨updated, howner, hafter⟩
        · rw [hsame]
          exact .refl _ _
        · rw [hafter]
          exact .put hget htenant (howner.trans htenant)

end Single

section Batch

variable {rule : ItemRule} {config : CompensationConfig} {faults : Nat → TxFaults}
  {s : ActionStorage} {tenantId : Uuid} {item : ItemHandler}

/-- An item changes its own action, if it is the tenant's. -/
theorem ItemRule.Step.changesOnly {next : ActionStorage} {n : Nat} {actionId : Uuid}
    (hrule : rule.Describes config faults item) (h : rule.Step config faults s n actionId next)
    (howner : ∀ action, s.get actionId = .ok action → rule.Allows config s actionId →
      action.tenantId = tenantId) : ChangesOnlyOf tenantId s next := by
  cases h with
  | kept => exact .refl _ s
  | stored hstores hversion =>
    obtain ⟨action, hget, hwrites⟩ := hversion
    have htenant := howner action hget hstores.1
    exact .put hget htenant ((hrule.owner _ _ hwrites).trans htenant)

/-- A pass changes actions of the tenant only, if at each place the items may write no others. -/
theorem claimsItems_changesOnly (hrule : rule.Describes config faults item) (missing : String)
    (actionIds : List Uuid)
    (howner : ∀ after, ChangesOnlyOf tenantId s after → ∀ actionId ∈ actionIds, ∀ action,
      after.get actionId = .ok action → rule.Allows config after actionId →
      action.tenantId = tenantId)
    (n : Nat) (response : BatchOrchestrationResponse) :
    ChangesOnlyOf tenantId s (claimsItems item missing n actionIds response s).2 := by
  induction actionIds generalizing n response s with
  | nil => exact .refl _ s
  | cons actionId rest ih =>
    rw [claimsItems_cons]
    have hstep := (hrule.step s n actionId missing response).1.changesOnly hrule
      (howner s (.refl _ s) actionId List.mem_cons_self)
    refine hstep.trans (ih (fun after hafter other hmem => ?_) _ _)
    exact howner after (hstep.trans hafter) other (List.mem_cons_of_mem _ hmem)

/-- A batch that is let pass finds actions of the tenant only, also after its own changes. -/
theorem preValidatedBatch_changesOnly {rlsClaims : RlsTenantClaims}
    (hrule : rule.Describes config faults item) (actionIds : List Uuid) (s : ActionStorage) :
    ChangesOnlyOf rlsClaims.tenantId s (preValidatedBatch rlsClaims item actionIds s).2 := by
  rw [preValidatedBatch]
  rcases preValidate_cases rlsClaims s actionIds with ⟨hvalid, hok⟩ | ⟨-, e, herror⟩
  · rw [hok]
    refine claimsItems_changesOnly hrule _ _ (fun after hafter actionId hmem action hget _ => ?_) _ _
    rcases hafter.owned_or_stored hget with htenant | hbefore
    · exact htenant
    · rcases hvalid actionId hmem with ⟨id, hmissing⟩ | ⟨found, hfound, htenant⟩
      · cases hmissing.symm.trans hbefore
      · cases hfound.symm.trans hbefore
        exact htenant
  · rw [herror]
    exact .refl _ s

variable (config faults) (clock : Nat → DateTime) (initiatedBy : Option String)
  (rlsClaims : RlsTenantClaims) (requestTenantId : Uuid) (actionIds : List Uuid)
  (s : ActionStorage)

theorem batchApprove_changesOnly : ChangesOnlyOf rlsClaims.tenantId s
    (batchApproveCompensationActions config faults clock initiatedBy (some rlsClaims)
      requestTenantId actionIds s).2 :=
  preValidatedBatch_changesOnly
    (approveItem_describes config faults clock initiatedBy rlsClaims) actionIds s

theorem batchReapprove_changesOnly : ChangesOnlyOf rlsClaims.tenantId s
    (batchReapproveCompensationActions config faults clock (some rlsClaims) requestTenantId
      actionIds s).2 :=
  preValidatedBatch_changesOnly (reapproveItem_describes config faults rlsClaims) actionIds s

/-- Each item of an execution checks the tenant of its action. -/
theorem batchExecute_changesOnly : ChangesOnlyOf rlsClaims.tenantId s
    (batchExecuteCompensationActions config faults clock initiatedBy (some rlsClaims)
      requestTenantId actionIds s).2 := by
  rw [batchExecuteCompensationActions]
  refine claimsItems_changesOnly
    (executeItem_describes config faults clock initiatedBy rlsClaims) _ _
    (fun after _ actionId _ action hget hallows => ?_) _ _
  exact ((ItemRule.allows_iff hget).mp hallows).1

end Batch

end IntentRebase
