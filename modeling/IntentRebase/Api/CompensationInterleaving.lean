import IntentRebase.Api.StoredBatch

/-! Many requests on the compensation actions, of the service and of the handlers. A request reads
its action, checks it, and writes it later; the steps of the requests come in any order. -/

namespace IntentRebase

open Kit SqlxCompensationActionRepository

/-- What a request asks for, with the lock version that its client sends. -/
inductive ActionOp where
  | approve (lockVersion : Int) (approvedBy : Option String)
  | waive (lockVersion : Int) (waivedBy : Option String)
  | execute (executedBy : Option String)
  | reapprove (lockVersion : Int)

structure ActionRequest where
  op : ActionOp
  actionId : Uuid
  now : DateTime

/-- A call of a service method, or a request to a handler, with the failures that its transaction
meets. -/
inductive ActionCall where
  | service (request : ActionRequest)
  | handler (claims : Option RlsTenantClaims) (faults : TxFaults) (request : ActionRequest)

/-- The call without others in between. -/
def ActionCall.apply (config : CompensationConfig) (s : ActionStorage) :
    ActionCall → Answered ActionStorage
  | service ⟨.approve lockVersion approvedBy, actionId, now⟩ =>
    s.approveAction now actionId lockVersion approvedBy
  | service ⟨.waive lockVersion waivedBy, actionId, now⟩ =>
    s.waiveAction now actionId lockVersion waivedBy
  | service ⟨.execute executedBy, actionId, now⟩ =>
    s.executeAction config.sideEffectRepo now actionId executedBy
  | service ⟨.reapprove lockVersion, actionId, _⟩ => s.reapproveAction actionId lockVersion
  | handler claims faults ⟨.approve lockVersion approvedBy, actionId, now⟩ =>
    approveCompensationAction config faults claims now actionId lockVersion approvedBy s
  | handler claims faults ⟨.waive lockVersion waivedBy, actionId, now⟩ =>
    waiveCompensationAction config faults claims now actionId lockVersion waivedBy s
  | handler claims faults ⟨.execute executedBy, actionId, now⟩ =>
    executeCompensationAction config faults claims now actionId executedBy s
  | handler claims faults ⟨.reapprove lockVersion, actionId, _⟩ =>
    reapproveCompensationAction config faults claims actionId lockVersion s

/-- The write that a check lets through. An execution writes under the lock version that it read,
and the others under the client's. -/
inductive CheckedWrite where
  | approve (lockVersion : Int) (approvedBy : Option String)
  | waive (lockVersion : Int) (waivedBy : Option String)
  | record (result : ExecutionResult) (lockVersion : Int) (executedBy : Option String)
  | reapprove (lockVersion : Int)

namespace CheckedWrite

variable (now : DateTime) (actionId : Uuid)

/-- The write through the repository. -/
def apply (s : ActionStorage) : CheckedWrite → Answered ActionStorage
  | approve lockVersion approvedBy =>
    s.updateStatus now actionId .approved lockVersion approvedBy none
  | waive lockVersion waivedBy => s.updateStatus now actionId .waived lockVersion none waivedBy
  | record result lockVersion executedBy =>
    s.recordResult now actionId result lockVersion executedBy
  | reapprove lockVersion => s.reapprove actionId lockVersion

/-- The write in a transaction of the tenant. -/
def applyTx (config : CompensationConfig) (faults : TxFaults) (tenantId : Uuid)
    (table : ActionTable) : CheckedWrite → Answered ActionTable
  | approve lockVersion approvedBy =>
    (withTenant tenantId faults (updateStatusWithTx tenantId faults.updateFault now actionId
      .approved lockVersion approvedBy none) table).map (.mapError RlsFailure.toError) id
  | waive lockVersion waivedBy =>
    (withTenant tenantId faults
      (alsoRollbackRecord config.sqlRollbackRepo faults.rollbackRecordFault
        (updateStatusWithTx tenantId faults.updateFault now actionId .waived lockVersion none
          waivedBy)) table).map (.mapError RlsFailure.toError) id
  | record result lockVersion executedBy =>
    (withTenant tenantId faults
      (alsoRollbackRecord config.sqlRollbackRepo faults.rollbackRecordFault
        (recordResultWithTx tenantId faults.updateFault now actionId result lockVersion
          executedBy)) table).map (.mapError (RlsFailure.toExecuteError faults)) id
  | reapprove lockVersion =>
    (withTenant tenantId faults (reapproveWithTx tenantId faults.updateFault table actionId
      lockVersion) table).map (.mapError RlsFailure.toError) id

end CheckedWrite

namespace ActionRequest

variable (request : ActionRequest) (action : CompensationAction)

/-- The check of the service. -/
def check (sideEffectRepo : Option SideEffectRepo) : Except IntentRebaseError CheckedWrite :=
  match request.op with
  | .approve lockVersion approvedBy =>
    (action.checkTransition .approved).map fun _ => .approve lockVersion approvedBy
  | .waive lockVersion waivedBy =>
    (action.checkTransition .waived).map fun _ => .waive lockVersion waivedBy
  | .execute executedBy =>
    match action.checkExecutable request.actionId with
    | .error e => .error e
    | .ok _ =>
      (runExecutor sideEffectRepo request.now action).map fun result =>
        .record result action.lockVersion executedBy
  | .reapprove lockVersion =>
    (action.checkReapprovable request.actionId).map fun _ => .reapprove lockVersion

/-- The check of a handler before its transaction. -/
def checkTx (sideEffectRepo : Option SideEffectRepo) : Except IntentRebaseError CheckedWrite :=
  match request.op with
  | .approve lockVersion approvedBy =>
    (action.checkTransition .approved).map fun _ => .approve lockVersion approvedBy
  | .waive lockVersion waivedBy =>
    (action.checkTransition .waived).map fun _ => .waive lockVersion waivedBy
  | .execute executedBy =>
    match action.checkExecutable request.actionId with
    | .error e => .error e
    | .ok _ =>
      (dispatchExecutor request.now id (.compensationActionNotExecutable request.actionId)
        (.compensationActionNotExecutable request.actionId) sideEffectRepo action).map fun result =>
        .record result action.lockVersion (some (executionActor executedBy))
  | .reapprove lockVersion =>
    (action.checkReapprovable request.actionId).map fun _ => .reapprove lockVersion

end ActionRequest

/-- How far a call has come. After its check it holds the action that it has read. -/
inductive ActionStage where
  | fetch (claims : Option RlsTenantClaims) (faults : TxFaults) (request : ActionRequest)
  | read (request : ActionRequest)
  | write (request : ActionRequest) (action : CompensationAction) (checked : CheckedWrite)
  | writeTx (rlsClaims : RlsTenantClaims) (faults : TxFaults) (request : ActionRequest)
    (action : CompensationAction) (checked : CheckedWrite)

/-- The calls on the actions. A transaction of the tenant is one step, as is each other call of the
repository. -/
def actionCalls (config : CompensationConfig) :
    Calls ActionStorage ActionCall ActionStage (Except IntentRebaseError CompensationAction) where
  first
    | .service request => .read request
    | .handler claims faults request => .fetch claims faults request
  step
    | .fetch claims faults request, s =>
      match s.get request.actionId with
      | .error e => (.done (.error e), s)
      | .ok action =>
        match claims with
        | none => (.more (.read request), s)
        | some rlsClaims =>
          if action.tenantId ≠ rlsClaims.tenantId then
            (.done (.error (.unauthorized
              (actionTenantMismatch rlsClaims.tenantId action.tenantId))), s)
          else
            match rlsTable config s with
            | none => (.more (.read request), s)
            | some _ =>
              match request.checkTx action config.sideEffectRepo with
              | .error e => (.done (.error e), s)
              | .ok checked => (.more (.writeTx rlsClaims faults request action checked), s)
    | .read request, s =>
      match s.get request.actionId with
      | .error e => (.done (.error e), s)
      | .ok action =>
        match request.check action config.sideEffectRepo with
        | .error e => (.done (.error e), s)
        | .ok checked => (.more (.write request action checked), s)
    | .write request _ checked, s => (checked.apply request.now request.actionId s).map .done id
    | .writeTx rlsClaims faults request _ checked, s =>
      match s with
      | .inMemory repo => (.done (.error (.compensationActionNotFound request.actionId)),
          .inMemory repo)
      | .sqlx table =>
        (checked.applyTx request.now request.actionId config faults rlsClaims.tenantId table).map
          .done .sqlx

section Alone

variable (config : CompensationConfig) (s : ActionStorage)

/-- A service method is a read, a check and, if that succeeds, a write. -/
theorem service_apply_eq (request : ActionRequest) :
    (ActionCall.service request).apply config s =
      match s.get request.actionId with
      | .error e => (.error e, s)
      | .ok action =>
        match request.check action config.sideEffectRepo with
        | .error e => (.error e, s)
        | .ok checked => checked.apply request.now request.actionId s := by
  obtain ⟨op, actionId, now⟩ := request
  cases op with
  | approve =>
    rw [ActionCall.apply, ActionStorage.approveAction]
    refine congrArg _ (funext fun action => ?_)
    rw [ActionRequest.check]
    cases action.checkTransition .approved <;> rfl
  | waive =>
    rw [ActionCall.apply, ActionStorage.waiveAction]
    refine congrArg _ (funext fun action => ?_)
    rw [ActionRequest.check]
    cases action.checkTransition .waived <;> rfl
  | execute =>
    rw [ActionCall.apply, ActionStorage.executeAction]
    refine congrArg _ (funext fun action => ?_)
    rw [ActionRequest.check]
    dsimp only
    cases action.checkExecutable actionId with
    | error => rfl
    | ok =>
      dsimp only
      cases runExecutor config.sideEffectRepo now action <;> rfl
  | reapprove =>
    rw [ActionCall.apply, ActionStorage.reapproveAction]
    refine congrArg _ (funext fun action => ?_)
    rw [ActionRequest.check]
    cases action.checkReapprovable actionId <;> rfl

/-- A handler is a read and, in a transaction of the tenant, a check of it and a write. -/
theorem handler_apply_eq (claims : Option RlsTenantClaims) (faults : TxFaults)
    (request : ActionRequest) :
    (ActionCall.handler claims faults request).apply config s =
      onAction config claims request.actionId
        (fun rlsClaims action table =>
          match request.checkTx action config.sideEffectRepo with
          | .error e => (.error e, table)
          | .ok checked =>
            checked.applyTx request.now request.actionId config faults rlsClaims.tenantId table)
        (fun s => (ActionCall.service request).apply config s) s := by
  obtain ⟨op, actionId, now⟩ := request
  cases op with
  | approve =>
    rw [ActionCall.apply, approveCompensationAction]
    refine congrArg (onAction config claims actionId · _ s) ?_
    funext rlsClaims action table
    rw [ActionRequest.checkTx]
    cases action.checkTransition .approved <;> rfl
  | waive =>
    rw [ActionCall.apply, waiveCompensationAction]
    refine congrArg (onAction config claims actionId · _ s) ?_
    funext rlsClaims action table
    rw [ActionRequest.checkTx]
    cases action.checkTransition .waived <;> rfl
  | execute =>
    rw [ActionCall.apply, executeCompensationAction]
    refine congrArg (onAction config claims actionId · _ s) ?_
    funext rlsClaims action table
    rw [ActionRequest.checkTx]
    dsimp only
    cases action.checkExecutable actionId with
    | error => rfl
    | ok =>
      dsimp only
      cases dispatchExecutor now id (.compensationActionNotExecutable actionId)
        (.compensationActionNotExecutable actionId) config.sideEffectRepo action <;> rfl
  | reapprove =>
    rw [ActionCall.apply, reapproveCompensationAction]
    refine congrArg (onAction config claims actionId · _ s) ?_
    funext rlsClaims action table
    rw [ActionRequest.checkTx]
    cases action.checkReapprovable actionId <;> rfl

theorem actionCalls_finish_read (fuel : Nat) (request : ActionRequest) :
    (actionCalls config).finish (fuel + 2) (.read request) s =
      some ((ActionCall.service request).apply config s) := by
  rw [service_apply_eq]
  have hstep : (actionCalls config).step (.read request) s =
      match s.get request.actionId with
      | .error e => (.done (.error e), s)
      | .ok action =>
        match request.check action config.sideEffectRepo with
        | .error e => (.done (.error e), s)
        | .ok checked => (.more (.write request action checked), s) := rfl
  cases hget : s.get request.actionId with
  | error e =>
    rw [hget] at hstep
    exact Calls.finish_done hstep _
  | ok action =>
    rw [hget] at hstep
    dsimp only at hstep ⊢
    cases hcheck : request.check action config.sideEffectRepo with
    | error e =>
      rw [hcheck] at hstep
      exact Calls.finish_done hstep _
    | ok checked =>
      rw [hcheck] at hstep
      rw [Calls.finish_more hstep]
      exact Calls.finish_done rfl _

/-- A call that no other interrupts is the service method or the handler. -/
theorem actionCalls_finish (call : ActionCall) :
    (actionCalls config).finish 3 ((actionCalls config).first call) s =
      some (call.apply config s) := by
  cases call with
  | service request => exact actionCalls_finish_read config s 1 request
  | handler claims faults request =>
    rw [handler_apply_eq, onAction]
    have hstep : (actionCalls config).step (.fetch claims faults request) s =
        match s.get request.actionId with
        | .error e => (.done (.error e), s)
        | .ok action =>
          match claims with
          | none => (.more (.read request), s)
          | some rlsClaims =>
            if action.tenantId ≠ rlsClaims.tenantId then
              (.done (.error (.unauthorized
                (actionTenantMismatch rlsClaims.tenantId action.tenantId))), s)
            else
              match rlsTable config s with
              | none => (.more (.read request), s)
              | some _ =>
                match request.checkTx action config.sideEffectRepo with
                | .error e => (.done (.error e), s)
                | .ok checked =>
                  (.more (.writeTx rlsClaims faults request action checked), s) := rfl
    cases hget : s.get request.actionId with
    | error e =>
      rw [hget] at hstep
      exact Calls.finish_done hstep 2
    | ok action =>
      rw [hget] at hstep
      cases claims with
      | none =>
        refine (Calls.finish_more hstep 2).trans ?_
        exact actionCalls_finish_read config s 0 request
      | some rlsClaims =>
        dsimp only at hstep ⊢
        by_cases htenant : action.tenantId ≠ rlsClaims.tenantId
        · rw [if_pos htenant] at hstep ⊢
          exact Calls.finish_done hstep 2
        · rw [if_neg htenant] at hstep ⊢
          cases htable : rlsTable config s with
          | none =>
            rw [htable] at hstep
            refine (Calls.finish_more hstep 2).trans ?_
            exact actionCalls_finish_read config s 0 request
          | some table =>
            obtain rfl := rlsTable_eq_some htable
            rw [htable] at hstep
            dsimp only at hstep ⊢
            cases hcheck : request.checkTx action config.sideEffectRepo with
            | error e =>
              rw [hcheck] at hstep
              exact Calls.finish_done hstep 2
            | ok checked =>
              rw [hcheck] at hstep
              refine (Calls.finish_more hstep 2).trans ?_
              exact Calls.finish_done rfl 1

end Alone

namespace CheckedWrite

section Writes

variable {s : ActionStorage} {table : ActionTable} {actionId : Uuid} {stored : CompensationAction}
  (now : DateTime) (checked : CheckedWrite)

/-- The lock version that the write is guarded by. -/
def lockVersion : CheckedWrite → Int
  | approve lockVersion _ | waive lockVersion _ | record _ lockVersion _ | reapprove lockVersion =>
    lockVersion

/-- The status that the write leaves. -/
def target : CheckedWrite → CompensationStatus
  | approve .. => .approved
  | waive .. => .waived
  | record result .. => if result.success then .executed else .failed
  | reapprove _ => .pending

/-- The write finds its lock version; a reapproval also finds a failed action. -/
def Finds (stored : CompensationAction) : Prop :=
  stored.lockVersion = checked.lockVersion ∧
    ∀ lockVersion, checked = .reapprove lockVersion → stored.status = .failed

/-- The transaction of a write also records a rollback. -/
def recordsRollback (config : CompensationConfig) : CheckedWrite → Bool
  | approve .. | reapprove _ => false
  | waive .. | record .. => config.sqlRollbackRepo

/-- The action after a write is stored if the write passes. -/
structure Spec (actionId : Uuid) (s : ActionStorage) (stored : CompensationAction) (passes : Prop)
    (after : ActionStorage) (updated : CompensationAction) : Prop where
  lockVersion : updated.lockVersion = stored.lockVersion + 1
  status : updated.status = checked.target
  after : (passes ∧ after = s.put actionId updated) ∨ (¬ passes ∧ after = s)

theorem apply_spec (h : s.get actionId = .ok stored) :
    ∃ updated, checked.Spec actionId s stored (checked.Finds stored)
      (checked.apply now actionId s).2 updated := by
  have hguarded {passes : Prop} [Decidable passes] {updated : CompensationAction}
      {e : IntentRebaseError} {answer : Answered ActionStorage}
      (hanswer : answer = if passes then (.ok updated, s.put actionId updated) else (.error e, s)) :
      (passes ∧ answer.2 = s.put actionId updated) ∨ (¬ passes ∧ answer.2 = s) := by
    rw [hanswer]
    split
    · next hpasses => exact .inl ⟨hpasses, rfl⟩
    · next hnot => exact .inr ⟨hnot, rfl⟩
  have hfinds (hne : ∀ lockVersion, checked ≠ .reapprove lockVersion) :
      checked.Finds stored ↔ stored.lockVersion = checked.lockVersion :=
    and_iff_left fun lockVersion heq => absurd heq (hne lockVersion)
  cases checked with
  | approve lockVersion approvedBy =>
    have hwritten := s.statusWritten_from now .approved approvedBy none stored
    refine ⟨_, hwritten.1.lockVersion, hwritten.2, ?_⟩
    rw [hfinds nofun]
    exact hguarded (ActionStorage.updateStatus_eq h now .approved lockVersion approvedBy none)
  | waive lockVersion waivedBy =>
    have hwritten := s.statusWritten_from now .waived none waivedBy stored
    refine ⟨_, hwritten.1.lockVersion, hwritten.2, ?_⟩
    rw [hfinds nofun]
    exact hguarded (ActionStorage.updateStatus_eq h now .waived lockVersion none waivedBy)
  | record result lockVersion executedBy =>
    have hwritten := s.resultWritten_from now result executedBy stored
    refine ⟨_, hwritten.1.lockVersion, hwritten.2, ?_⟩
    rw [hfinds nofun]
    exact hguarded (ActionStorage.recordResult_eq h now result lockVersion executedBy)
  | reapprove lockVersion =>
    refine ⟨reapproved stored, rfl, rfl, ?_⟩
    rcases ActionStorage.reapprove_cases h lockVersion with
      ⟨hlock, hfailed, hanswer⟩ | ⟨hnot, e, hanswer⟩
    · exact .inl ⟨⟨hlock, fun _ _ => hfailed⟩, congrArg Prod.snd hanswer⟩
    · exact .inr ⟨fun hfinds => hnot ⟨hfinds.1, hfinds.2 _ rfl⟩, congrArg Prod.snd hanswer⟩

variable (config : CompensationConfig) (faults : TxFaults) {tenantId : Uuid}

/-- The transaction keeps its update of the stored action. -/
def KeptTx (config : CompensationConfig) (faults : TxFaults) (tenantId : Uuid)
    (checked : CheckedWrite) (stored : CompensationAction) : Prop :=
  faults.Keeps (checked.recordsRollback config) ∧ faults.updateFault = none ∧
    stored.tenantId = tenantId

theorem applyTx_spec (h : (ActionStorage.sqlx table).get actionId = .ok stored)
    (htenant : tenantId ≠ .nil) :
    ∃ updated, checked.Spec actionId (.sqlx table) stored
      (checked.KeptTx config faults tenantId stored ∧ checked.Finds stored)
      (.sqlx (checked.applyTx now actionId config faults tenantId table).2) updated := by
  have hlookup := ActionStorage.sqlx_get_ok h
  have hfinds (hne : ∀ lockVersion, checked ≠ .reapprove lockVersion) :
      checked.Finds stored ↔ stored.lockVersion = checked.lockVersion :=
    and_iff_left fun lockVersion heq => absurd heq (hne lockVersion)
  have hstored {passes : Prop} {updated : CompensationAction}
      {outcome : Except RlsFailure CompensationAction × ActionTable}
      (houtcome : TxOutcome table actionId passes updated (checked.recordsRollback config) faults
        outcome)
      (hpasses : passes ↔ (faults.updateFault = none ∧ stored.tenantId = tenantId) ∧
        checked.Finds stored) :
      ((checked.KeptTx config faults tenantId stored ∧ checked.Finds stored) ∧
          ActionStorage.sqlx outcome.2 = (ActionStorage.sqlx table).put actionId updated) ∨
        (¬ (checked.KeptTx config faults tenantId stored ∧ checked.Finds stored) ∧
          ActionStorage.sqlx outcome.2 = .sqlx table) := by
    have hiff : (faults.Keeps (checked.recordsRollback config) ∧ passes) ↔
        checked.KeptTx config faults tenantId stored ∧ checked.Finds stored := by
      rw [hpasses, KeptTx]
      tauto
    rcases houtcome.stored with ⟨hkeeps, hpass, hafter⟩ | ⟨hnot, hafter⟩
    · exact .inl ⟨hiff.mp ⟨hkeeps, hpass⟩, congrArg ActionStorage.sqlx hafter⟩
    · exact .inr ⟨fun hboth => hnot (hiff.mpr hboth), congrArg ActionStorage.sqlx hafter⟩
  cases checked with
  | approve lockVersion approvedBy =>
    have hset := setStatus_ofAction now .approved approvedBy none stored
    have hwrite := updateLockedWithTx_scoped hlookup tenantId faults.updateFault
      "update compensation action status" lockVersion hset
    refine ⟨_, rfl, rfl, hstored (withTenant_write hwrite htenant faults) ?_⟩
    rw [hfinds nofun]
    exact and_assoc.symm
  | waive lockVersion waivedBy =>
    have hset := setStatus_ofAction now .waived none waivedBy stored
    have hwrite := updateLockedWithTx_scoped hlookup tenantId faults.updateFault
      "update compensation action status" lockVersion hset
    have houtcome := withTenant_outcome hwrite htenant config.sqlRollbackRepo faults
    refine ⟨_, rfl, rfl, hstored houtcome ?_⟩
    rw [hfinds nofun]
    exact and_assoc.symm
  | record result lockVersion executedBy =>
    have hset := setResult_ofAction now result executedBy stored
    have hwrite := updateLockedWithTx_scoped hlookup tenantId faults.updateFault
      "record compensation result" lockVersion hset
    have houtcome := withTenant_outcome hwrite htenant config.sqlRollbackRepo faults
    refine ⟨_, rfl, rfl, hstored houtcome ?_⟩
    rw [hfinds nofun]
    exact and_assoc.symm
  | reapprove lockVersion =>
    have hwrite := reapproveWithTx_scoped hlookup tenantId faults.updateFault lockVersion
    refine ⟨reapproved stored, rfl, rfl, hstored (withTenant_write hwrite htenant faults) ?_⟩
    have hiff : (CheckedWrite.reapprove lockVersion).Finds stored ↔
        stored.lockVersion = lockVersion ∧ stored.status = .failed :=
      and_congr_right fun _ => ⟨fun h => h _ rfl, fun h _ _ => h⟩
    rw [hiff]
    tauto

end Writes

end CheckedWrite

/-- What the check of a write has seen of the action that was read. -/
def CheckedFor (action : CompensationAction) : CheckedWrite → Prop
  | .approve .. | .waive .. => action.status = .pending
  | .record _ lockVersion _ => action.status = .approved ∧ lockVersion = action.lockVersion
  | .reapprove _ => True

section Checks

variable {request : ActionRequest} {action : CompensationAction}
  {sideEffectRepo : Option SideEffectRepo} {checked : CheckedWrite}

theorem check_checkedFor (h : request.check action sideEffectRepo = .ok checked) :
    CheckedFor action checked := by
  obtain ⟨op, actionId, now⟩ := request
  rw [ActionRequest.check] at h
  cases op with
  | approve | waive =>
    obtain ⟨_, hcheck, rfl⟩ := ok_of_map h
    exact (action.checkTransition_ok (by simp)).mp hcheck
  | execute =>
    dsimp only at h
    cases hcheck : action.checkExecutable actionId with
    | error => rw [hcheck] at h; cases h
    | ok =>
      rw [hcheck] at h
      obtain ⟨result, -, rfl⟩ := ok_of_map h
      exact ⟨((action.checkExecutable_ok actionId).mp hcheck).1, rfl⟩
  | reapprove =>
    obtain ⟨_, -, rfl⟩ := ok_of_map h
    trivial

theorem checkTx_checkedFor (h : request.checkTx action sideEffectRepo = .ok checked) :
    CheckedFor action checked := by
  obtain ⟨op, actionId, now⟩ := request
  rw [ActionRequest.checkTx] at h
  cases op with
  | approve | waive =>
    obtain ⟨_, hcheck, rfl⟩ := ok_of_map h
    exact (action.checkTransition_ok (by simp)).mp hcheck
  | execute =>
    dsimp only at h
    cases hcheck : action.checkExecutable actionId with
    | error => rw [hcheck] at h; cases h
    | ok =>
      rw [hcheck] at h
      obtain ⟨result, -, rfl⟩ := ok_of_map h
      exact ⟨((action.checkExecutable_ok actionId).mp hcheck).1, rfl⟩
  | reapprove =>
    obtain ⟨_, -, rfl⟩ := ok_of_map h
    trivial

end Checks

namespace ActionStage

/-- The write of a call that has checked its action. -/
def pending : ActionStage → Option (ActionRequest × CompensationAction × CheckedWrite)
  | fetch .. | read _ => none
  | write request action checked => some (request, action, checked)
  | writeTx _ _ request action checked => some (request, action, checked)

/-- The database keeps the write of the stored action. -/
def Kept (config : CompensationConfig) (stored : CompensationAction) : ActionStage → Prop
  | writeTx rlsClaims faults _ _ checked => checked.KeptTx config faults rlsClaims.tenantId stored
  | _ => True

/-- The call writes in a transaction. -/
def InTx : ActionStage → Prop
  | writeTx .. => True
  | _ => False

end ActionStage

/-- The actions and the requests on them. -/
abbrev ActionClients := Clients ActionStorage ActionStage

/-- A call that has checked its action still finds it stored, as it was read or in a later
version. -/
structure HoldsRead (store : ActionStorage) (stage : ActionStage) (request : ActionRequest)
    (action : CompensationAction) (checked : CheckedWrite) : Prop where
  stored : ∃ stored, store.get request.actionId = .ok stored ∧
    action.lockVersion ≤ stored.lockVersion ∧
    (stored.lockVersion = action.lockVersion → stored = action)
  checked : CheckedFor action checked
  table : stage.InTx → ∃ table, store = .sqlx table

/-- Every call that has checked its action still finds it stored. -/
def HoldsReads (s : ActionClients) : Prop :=
  ∀ client stage request action checked, s.stage client = some stage →
    stage.pending = some (request, action, checked) →
    HoldsRead s.store stage request action checked

section Steps

variable {config : CompensationConfig} {store : ActionStorage} {stage : ActionStage}
  {request : ActionRequest} {action stored : CompensationAction} {checked : CheckedWrite}

variable (stage) in
theorem HoldsRead.of_read (hget : store.get request.actionId = .ok action)
    (hchecked : CheckedFor action checked) (htable : stage.InTx → ∃ table, store = .sqlx table) :
    HoldsRead store stage request action checked :=
  ⟨⟨action, hget, le_rfl, fun _ => rfl⟩, hchecked, htable⟩

/-- A step leaves the actions, and a call that it lets go on to a write holds what it has read. -/
structure OnlyReads (store : ActionStorage)
    (result : Progress ActionStage (Except IntentRebaseError CompensationAction) × ActionStorage) :
    Prop where
  kept : result.2 = store
  holds : ∀ stage, result.1 = .more stage → ∀ request action checked,
    stage.pending = some (request, action, checked) →
    HoldsRead store stage request action checked

theorem OnlyReads.done (answer : Except IntentRebaseError CompensationAction) :
    OnlyReads store (.done answer, store) := by
  refine ⟨rfl, fun stage h => ?_⟩
  cases h

theorem OnlyReads.read (request : ActionRequest) :
    OnlyReads store (.more (.read request), store) := by
  refine ⟨rfl, fun stage h _ _ _ hpending => ?_⟩
  cases h
  cases hpending

theorem OnlyReads.goesOn (hpending : stage.pending = some (request, action, checked))
    (hread : HoldsRead store stage request action checked) :
    OnlyReads store (.more stage, store) := by
  refine ⟨rfl, fun stage' h _ _ _ hpending' => ?_⟩
  cases h
  cases hpending.symm.trans hpending'
  exact hread

variable (config store) in
theorem step_reads (hpending : stage.pending = none) :
    OnlyReads store ((actionCalls config).step stage store) := by
  cases stage with
  | write => cases hpending
  | writeTx => cases hpending
  | read request =>
    dsimp only [actionCalls]
    cases hget : store.get request.actionId with
    | error e => exact .done _
    | ok action =>
      dsimp only
      cases hcheck : request.check action config.sideEffectRepo with
      | error e => exact .done _
      | ok checked => exact .goesOn rfl (.of_read _ hget (check_checkedFor hcheck) False.elim)
  | fetch claims faults request =>
    dsimp only [actionCalls]
    cases hget : store.get request.actionId with
    | error e => exact .done _
    | ok action =>
      cases claims with
      | none => exact .read request
      | some rlsClaims =>
        dsimp only
        split
        · exact .done _
        cases htable : rlsTable config store with
        | none => exact .read request
        | some table =>
          dsimp only
          cases hcheck : request.checkTx action config.sideEffectRepo with
          | error e => exact .done _
          | ok checked =>
            have hread := HoldsRead.of_read (.writeTx rlsClaims faults request action checked)
              hget (checkTx_checkedFor hcheck) fun _ => ⟨table, rlsTable_eq_some htable⟩
            exact .goesOn rfl hread

variable (config) in
/-- A write ends its call, and is stored if it is kept and finds its lock version. -/
theorem step_writes (hpending : stage.pending = some (request, action, checked))
    (hget : store.get request.actionId = .ok stored)
    (htable : stage.InTx → ∃ table, store = .sqlx table) :
    (∃ answer, ((actionCalls config).step stage store).1 = .done answer) ∧
      ∃ updated, checked.Spec request.actionId store stored
        (stage.Kept config stored ∧ checked.Finds stored)
        ((actionCalls config).step stage store).2 updated := by
  cases stage with
  | fetch => cases hpending
  | read => cases hpending
  | write request' action' checked' =>
    cases hpending
    obtain ⟨updated, hspec⟩ := checked.apply_spec request.now hget
    refine ⟨⟨_, rfl⟩, updated, hspec.lockVersion, hspec.status, ?_⟩
    rw [show (ActionStage.write request action checked).Kept config stored ∧
      checked.Finds stored ↔ checked.Finds stored from and_iff_right trivial]
    exact hspec.after
  | writeTx rlsClaims faults request' action' checked' =>
    cases hpending
    obtain ⟨table, rfl⟩ := htable trivial
    obtain ⟨updated, hspec⟩ := checked.applyTx_spec request.now config faults hget rlsClaims.notNil
    exact ⟨⟨_, rfl⟩, updated, hspec⟩

end Steps

section Turns

variable (config : CompensationConfig) (s : ActionClients) (t : Turn ActionCall)

/-- The turn is a write that is stored: it is kept, and finds the stored action in its version. -/
structure Writes (request : ActionRequest) (action : CompensationAction) (checked : CheckedWrite)
    (stored : CompensationAction) : Prop where
  pending : ∃ client stage, t = .step client ∧ s.stage client = some stage ∧
    stage.pending = some (request, action, checked) ∧ stage.Kept config stored
  found : s.store.get request.actionId = .ok stored
  finds : checked.Finds stored

/-- What a turn does: it leaves the actions and is no write that is stored, or it is one. -/
inductive TurnOutcome : ActionStorage → Prop
  | kept : (∀ request action checked stored, ¬ Writes config s t request action checked stored) →
      TurnOutcome s.store
  | written {request : ActionRequest} {action stored updated : CompensationAction}
      {checked : CheckedWrite} : Writes config s t request action checked stored →
      HoldsRead s.store (.write request action checked) request action checked →
      updated.lockVersion = stored.lockVersion + 1 → updated.status = checked.target →
      TurnOutcome (s.store.put request.actionId updated)

variable {config s t}

variable (config t) in
theorem turn_outcome (hs : HoldsReads s) :
    TurnOutcome config s t (Clients.turn (actionCalls config) s t).store := by
  cases t with
  | call client request =>
    have hstore : (Clients.turn (actionCalls config) s (.call client request)).store = s.store := by
      rw [Clients.turn]
      split <;> rfl
    rw [hstore]
    refine .kept ?_
    rintro _ _ _ _ ⟨⟨_, _, h, _⟩, _, _⟩
    cases h
  | step client =>
    cases hstage : s.stage client with
    | none =>
      have hstore : (Clients.turn (actionCalls config) s (.step client)).store = s.store := by
        simp only [Clients.turn, hstage]
      rw [hstore]
      refine .kept ?_
      rintro _ _ _ _ ⟨⟨client', _, h, hstage', _⟩, _, _⟩
      cases h
      cases hstage.symm.trans hstage'
    | some stage =>
      rw [Clients.turn_step hstage, Clients.advance_store]
      cases hpending : stage.pending with
      | none =>
        rw [(step_reads _ _ hpending).kept]
        refine .kept ?_
        rintro _ _ _ _ ⟨⟨client', stage', h, hstage', hpending', _⟩, _, _⟩
        cases h
        cases hstage.symm.trans hstage'
        cases hpending.symm.trans hpending'
      | some write =>
        obtain ⟨request, action, checked⟩ := write
        have hread := hs client stage request action checked hstage hpending
        obtain ⟨stored, hget, -⟩ := hread.stored
        obtain ⟨-, updated, hspec⟩ := step_writes config hpending hget hread.table
        rcases hspec.after with ⟨⟨hkept, hfinds⟩, hafter⟩ | ⟨hnot, hafter⟩
        · rw [hafter]
          exact .written ⟨⟨client, stage, rfl, hstage, hpending, hkept⟩, hget, hfinds⟩
            ⟨hread.stored, hread.checked, False.elim⟩ hspec.lockVersion hspec.status
        · rw [hafter]
          refine .kept ?_
          rintro _ _ _ stored' ⟨⟨client', stage', h, hstage', hpending', hkept⟩, hget', hfinds⟩
          cases h
          cases hstage.symm.trans hstage'
          cases hpending.symm.trans hpending'
          cases hget.symm.trans hget'
          exact hnot ⟨hkept, hfinds⟩

/-- An action in the store after a turn, if it was there before. -/
theorem TurnOutcome.get {after : ActionStorage} (h : TurnOutcome config s t after) {id : Uuid}
    {action : CompensationAction} (hget : s.store.get id = .ok action) :
    ∃ updated, after.get id = .ok updated ∧
      (updated = action ∨ action.lockVersion < updated.lockVersion) := by
  cases h with
  | kept => exact ⟨action, hget, .inl rfl⟩
  | @written request _ stored updated _ hwrites _ hlock _ =>
    rw [ActionStorage.get_put]
    split
    · next hid =>
      cases (hid ▸ hget).symm.trans hwrites.found
      exact ⟨updated, rfl, .inr (by omega)⟩
    · exact ⟨action, hget, .inl rfl⟩

/-- The repository stays in SQL. -/
theorem TurnOutcome.table {after : ActionStorage} (h : TurnOutcome config s t after)
    (htable : ∃ table, s.store = .sqlx table) : ∃ table, after = .sqlx table := by
  obtain ⟨table, hstore⟩ := htable
  cases h with
  | kept => exact ⟨table, hstore⟩
  | written =>
    rw [hstore]
    exact ⟨_, rfl⟩

theorem HoldsRead.turn {after : ActionStorage} {stage : ActionStage} {request : ActionRequest}
    {action : CompensationAction} {checked : CheckedWrite}
    (hread : HoldsRead s.store stage request action checked) (h : TurnOutcome config s t after) :
    HoldsRead after stage request action checked := by
  obtain ⟨stored, hget, hle, hsame⟩ := hread.stored
  refine ⟨?_, hread.checked, fun htx => h.table (hread.table htx)⟩
  obtain ⟨updated, hafter, rfl | hlt⟩ := h.get hget
  · exact ⟨updated, hafter, hle, hsame⟩
  · exact ⟨updated, hafter, by omega, fun heq => by omega⟩

theorem holdsReads_turn (config : CompensationConfig) (s : ActionClients) (t : Turn ActionCall)
    (hs : HoldsReads s) : HoldsReads (Clients.turn (actionCalls config) s t) := by
  have houtcome := turn_outcome config t hs
  have hkeep {client : Nat} {stage : ActionStage} {request : ActionRequest}
      {action : CompensationAction} {checked : CheckedWrite} (hstage : s.stage client = some stage)
      (hpending : stage.pending = some (request, action, checked)) :
      HoldsRead (Clients.turn (actionCalls config) s t).store stage request action checked :=
    (hs client stage request action checked hstage hpending).turn houtcome
  intro client stage request action checked hstage hpending
  have htook := Clients.took (actionCalls config) s t
  revert hstage hkeep
  generalize Clients.answer (actionCalls config) s t = answered at htook
  generalize Clients.turn (actionCalls config) s t = next at htook
  intro hkeep hstage
  cases htook with
  | idle => exact hkeep hstage hpending
  | @start client' request' hidle =>
    rcases Clients.update_some hstage with hnew | hold
    · cases hnew
      cases request' <;> cases hpending
    · exact hkeep hold hpending
  | @more client' k k' store hk hstep =>
    rcases Clients.update_some hstage with hnew | hold
    · cases hnew
      cases hk' : k.pending with
      | none =>
        have hreads := step_reads config s.store hk'
        rw [hstep] at hreads
        obtain rfl : store = s.store := hreads.kept
        exact hreads.holds stage rfl request action checked hpending
      | some write =>
        obtain ⟨request', action', checked'⟩ := write
        have hread := hs client' k request' action' checked' hk hk'
        obtain ⟨stored, hget, -⟩ := hread.stored
        obtain ⟨⟨answer, hdone⟩, -⟩ := step_writes config hk' hget hread.table
        rw [hstep] at hdone
        cases hdone
    · exact hkeep hold hpending
  | done hk hstep =>
    rcases Clients.update_some hstage with hnew | hold
    · cases hnew
    · exact hkeep hold hpending

theorem holdsReads_idle (store : ActionStorage) :
    HoldsReads (Clients.idle store : ActionClients) := by
  intro _ _ _ _ _ hstage
  cases hstage

end Turns

section Lifecycle

variable (config : CompensationConfig) (s : ActionClients) (t : Turn ActionCall)

/-- A change of an action keeps a terminal status, and approves a pending action only. -/
structure KeepsTerminal (action updated : CompensationAction) : Prop where
  terminal : action.status.isTerminal = true → updated.status = action.status
  approved : updated.status = .approved → action.status ≠ .approved → action.status = .pending

section Keeps

variable {action updated : CompensationAction}

theorem KeepsTerminal.refl (action : CompensationAction) : KeepsTerminal action action :=
  ⟨fun _ => rfl, fun h h' => absurd h h'⟩

theorem KeepsTerminal.of_pending (h : action.status = .pending) : KeepsTerminal action updated := by
  refine ⟨fun hterminal => ?_, fun _ _ => h⟩
  rw [h] at hterminal
  cases hterminal

theorem KeepsTerminal.of_approved (h : action.status = .approved) :
    KeepsTerminal action updated := by
  refine ⟨fun hterminal => ?_, fun _ hnot => absurd h hnot⟩
  rw [h] at hterminal
  cases hterminal

theorem KeepsTerminal.of_failed (h : action.status = .failed) (h' : updated.status = .pending) :
    KeepsTerminal action updated := by
  refine ⟨fun hterminal => ?_, fun happroved => ?_⟩
  · rw [h] at hterminal
    cases hterminal
  · cases h'.symm.trans happroved

end Keeps

/-- The turn changes each stored action so. -/
def LawfulTurn : Prop :=
  ∀ id action, s.store.get id = .ok action →
    ∃ updated, (Clients.turn (actionCalls config) s t).store.get id = .ok updated ∧
      KeepsTerminal action updated

/-- The write takes the stored action where its check would not have let it. -/
def Overrides (stored : CompensationAction) : CheckedWrite → Prop
  | .approve .. => stored.status ≠ .pending ∧ stored.status ≠ .approved
  | .waive .. => stored.status = .executed
  | .record .. | .reapprove _ => False

/-- An approval or a waiver is stored whose client sent the version of an action that has moved on
since its check, to a status that the check would not have let pass. -/
def Overtaken : Prop :=
  ∃ request action checked stored, Writes config s t request action checked stored ∧
    stored.lockVersion ≠ action.lockVersion ∧ Overrides stored checked

variable {config s t}

/-- A write whose check is up to date changes its action lawfully. -/
theorem keepsTerminal_of_written {request : ActionRequest}
    {action stored updated : CompensationAction} {checked : CheckedWrite}
    (hwrites : Writes config s t request action checked stored)
    (hread : HoldsRead s.store (.write request action checked) request action checked)
    (hstatus : updated.status = checked.target)
    (hsound : stored.lockVersion ≠ action.lockVersion → ¬ Overrides stored checked) :
    KeepsTerminal stored updated := by
  obtain ⟨stored', hget, -, hsame⟩ := hread.stored
  cases hget.symm.trans hwrites.found
  have hchecked := hread.checked
  have hlock : stored.lockVersion = checked.lockVersion := hwrites.finds.1
  by_cases hcurrent : stored.lockVersion = action.lockVersion
  · -- The action is still the one that was checked.
    obtain rfl := hsame hcurrent
    cases checked with
    | approve | waive => exact .of_pending hchecked
    | record => exact .of_approved hchecked.1
    | reapprove => exact .of_failed (hwrites.finds.2 _ rfl) hstatus
  · have hlawful := hsound hcurrent
    cases checked with
    | approve =>
      have hcases : stored.status = .pending ∨ stored.status = .approved := by
        by_contra hnot
        exact hlawful (not_or.mp hnot)
      exact hcases.elim .of_pending .of_approved
    | waive =>
      refine ⟨fun hterminal => ?_, fun happroved => ?_⟩
      · rw [hstatus]
        cases hst : stored.status <;> rw [hst] at hterminal
        case executed => exact absurd hst hlawful
        case waived => rfl
        all_goals cases hterminal
      · cases hstatus.symm.trans happroved
    | record => exact absurd (hlock.trans hchecked.2) hcurrent
    | reapprove => exact .of_failed (hwrites.finds.2 _ rfl) hstatus

/-- A turn is lawful unless it is overtaken. -/
theorem lawfulTurn_iff (hs : HoldsReads s) : LawfulTurn config s t ↔ ¬ Overtaken config s t := by
  have houtcome := turn_outcome config t hs
  rw [LawfulTurn]
  generalize (Clients.turn (actionCalls config) s t).store = after at houtcome
  cases houtcome with
  | kept hnone =>
    refine iff_of_true (fun id action hget => ⟨action, hget, .refl action⟩) ?_
    rintro ⟨request, action, checked, stored, hwrites, -⟩
    exact hnone _ _ _ _ hwrites
  | @written request action stored updated checked hwrites hread hlock hstatus =>
    constructor
    · rintro hlawful ⟨request', action', checked', stored', hwrites', -, hoverrides⟩
      obtain ⟨client, stage, ht, hstage, hpending, -⟩ := hwrites.pending
      obtain ⟨client', stage', ht', hstage', hpending', -⟩ := hwrites'.pending
      cases ht.symm.trans ht'
      cases hstage.symm.trans hstage'
      cases hpending.symm.trans hpending'
      cases hwrites.found.symm.trans hwrites'.found
      obtain ⟨found, hfound, hkeeps⟩ := hlawful _ _ hwrites.found
      rw [ActionStorage.get_put, if_pos rfl] at hfound
      cases hfound
      cases checked with
      | approve => exact hoverrides.1 (hkeeps.approved hstatus hoverrides.2)
      | waive =>
        have hexecuted : stored.status = .executed := hoverrides
        have hsame := hkeeps.terminal (by rw [hexecuted]; rfl)
        cases (hstatus.symm.trans hsame).trans hexecuted
      | record => exact hoverrides
      | reapprove => exact hoverrides
    · intro hnot id found hget
      rw [ActionStorage.get_put]
      split
      · next hid =>
        cases (hid ▸ hget).symm.trans hwrites.found
        refine ⟨updated, rfl, keepsTerminal_of_written hwrites hread hstatus fun hmoved => ?_⟩
        exact fun hoverrides => hnot ⟨_, _, _, _, hwrites, hmoved, hoverrides⟩
      · exact ⟨found, hget, .refl found⟩

end Lifecycle

section Runs

variable (config : CompensationConfig) (s : ActionClients) (turns : List (Turn ActionCall))

/-- In a sequence of turns no terminal status changes, and only a pending action becomes approved.
-/
structure TerminalForever : Prop where
  terminal : ∀ before middle after id action, turns = before ++ middle ++ after →
    (Clients.run (actionCalls config) s before).store.get id = .ok action →
    action.status.isTerminal = true →
    ∃ later, (Clients.run (actionCalls config) s (before ++ middle)).store.get id = .ok later ∧
      later.status = action.status
  approved : ∀ before t after id action updated, turns = before ++ t :: after →
    (Clients.run (actionCalls config) s before).store.get id = .ok action →
    (Clients.run (actionCalls config) s (before ++ [t])).store.get id = .ok updated →
    updated.status = .approved → action.status ≠ .approved → action.status = .pending

variable {config s turns}

/-- Lawful turns keep a terminal status. -/
theorem lawful_terminal
    (h : AllSteps (Clients.turn (actionCalls config)) (LawfulTurn config) s turns)
    {id : Uuid} {action : CompensationAction} (hget : s.store.get id = .ok action)
    (hterminal : action.status.isTerminal = true) :
    ∃ later, (Clients.run (actionCalls config) s turns).store.get id = .ok later ∧
      later.status = action.status := by
  induction turns generalizing s action with
  | nil => exact ⟨action, hget, rfl⟩
  | cons t turns ih =>
    obtain ⟨updated, hupdated, hkeeps⟩ := h.1 id action hget
    have hsame := hkeeps.terminal hterminal
    obtain ⟨later, hlater, hstatus⟩ := ih h.2 hupdated (by rw [hsame]; exact hterminal)
    exact ⟨later, hlater, hstatus.trans hsame⟩

theorem terminalForever_iff_lawful (hs : HoldsReads s) : TerminalForever config s turns ↔
    AllSteps (Clients.turn (actionCalls config)) (LawfulTurn config) s turns := by
  constructor
  · intro h
    refine allSteps_of_first fun before t after hsplit _ id action hget => ?_
    have hrun := Clients.run_invariant (holdsReads_turn config) hs before
    obtain ⟨updated, hupdated, -⟩ := (turn_outcome config t hrun).get hget
    have hone : Clients.run (actionCalls config) s (before ++ [t]) =
        Clients.turn (actionCalls config) (Clients.run (actionCalls config) s before) t :=
      Clients.run_append before [t]
    refine ⟨updated, hupdated, fun hterminal => ?_, fun happroved hnot => ?_⟩
    · obtain ⟨later, hlater, hstatus⟩ := h.terminal before [t] after id action (by simp [hsplit])
        hget hterminal
      rw [hone] at hlater
      cases hlater.symm.trans hupdated
      exact hstatus
    · exact h.approved before t after id action updated hsplit hget (hone ▸ hupdated) happroved hnot
  · intro h
    refine ⟨fun before middle after id action hsplit hget hterminal => ?_,
      fun before t after id action updated hsplit hget hupdated happroved hnot => ?_⟩
    · rw [hsplit] at h
      rw [Clients.run_append]
      exact lawful_terminal h.append.1.append.2 hget hterminal
    · rw [hsplit] at h
      obtain ⟨found, hfound, hkeeps⟩ := h.append.2.1 id action hget
      rw [Clients.run_append] at hupdated
      cases hfound.symm.trans hupdated
      exact hkeeps.approved happroved hnot

/-- The terminal statuses are terminal in exactly the sequences without an overtaken approval or
waiver. -/
theorem terminalForever_iff (config : CompensationConfig) (store : ActionStorage)
    (turns : List (Turn ActionCall)) :
    TerminalForever config (Clients.idle store) turns ↔
      AllSteps (Clients.turn (actionCalls config)) (fun s t => ¬ Overtaken config s t)
        (Clients.idle store) turns :=
  (terminalForever_iff_lawful (holdsReads_idle store)).trans
    (allSteps_iff HoldsReads (fun _ _ hs => lawfulTurn_iff hs)
      (fun s t hs _ => holdsReads_turn config s t hs) (holdsReads_idle store) turns)

/-- An approval is checked, a waiver is answered, and the approval is written under the version that
the waiver left. -/
def overtakingTurns : List (Turn ActionCall) :=
  [.call 0 (.service ⟨.approve 1 none, 7, 10⟩), .step 0, .call 1 (.service ⟨.waive 0 none, 7, 20⟩),
    .step 1, .step 1, .step 0]

theorem waived_becomes_approved :
    ¬ (∀ (config : CompensationConfig) (store : ActionStorage) (turns : List (Turn ActionCall)),
      TerminalForever config (Clients.idle store) turns) := by
  intro h
  have hforever := h ⟨false, false, none⟩ (.sqlx (tableOf tenantAction)) overtakingTurns
  let waived : CompensationAction :=
    { tenantAction with status := .waived, lockVersion := 1, waivedAt := some 20 }
  obtain ⟨later, hlater, hstatus⟩ :=
    hforever.terminal (overtakingTurns.take 5) [.step 0] [] 7 waived
    rfl rfl rfl
  have happroved : (Clients.run (actionCalls ⟨false, false, none⟩)
      (Clients.idle (.sqlx (tableOf tenantAction))) overtakingTurns).store.get 7 =
      .ok { waived with status := .approved, lockVersion := 2, approvedAt := some 10 } := rfl
  cases hlater.symm.trans happroved
  cases hstatus

end Runs

end IntentRebase
