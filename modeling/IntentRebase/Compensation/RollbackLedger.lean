import IntentRebase.Compensation.RecordedService

/-! The rollback records that the service keeps in memory, against the lifecycle of the actions:
what one call adds to the records of its action, and what they say of it after any sequence of
calls. -/

namespace IntentRebase

open Kit

/-- A call of the service that moves an action. -/
inductive LedgerCall where
  | approve (actionId : Uuid) (lockVersion : Int) (approvedBy : Option String)
  | waive (actionId : Uuid) (lockVersion : Int) (waivedBy : Option String)
  | execute (actionId : Uuid) (executedBy : Option String)
  | reapprove (actionId : Uuid) (lockVersion : Int)

def LedgerCall.actionId : LedgerCall → Uuid
  | .approve actionId _ _ => actionId
  | .waive actionId _ _ => actionId
  | .execute actionId _ => actionId
  | .reapprove actionId _ => actionId

/-- A call with what it draws, and the side effects that are recorded at its time. -/
structure ServiceStep where
  sideEffectRepo : Option SideEffectRepo
  draws : ServiceDraws
  call : LedgerCall

/-- The state with the rollback records in memory. -/
abbrev LedgerState (τ : Type) := ServiceState InMemoryRollbackRecordRepository τ

section Run

variable {τ : Type} (auditRepo : Option (AuditRepository τ))

def ServiceStep.repositories (step : ServiceStep) :
    ServiceRepositories InMemoryRollbackRecordRepository τ where
  sideEffectRepo := step.sideEffectRepo
  rollbackRecordRepo := some InMemoryRollbackRecordRepository.repository
  auditRepo := auditRepo

def ServiceStep.apply (step : ServiceStep) (w : LedgerState τ) :
    RecordedAnswer InMemoryRollbackRecordRepository τ :=
  match step.call with
  | .approve actionId lockVersion approvedBy =>
    w.approveAction step.draws actionId lockVersion approvedBy
  | .waive actionId lockVersion waivedBy =>
    w.waiveAction (step.repositories auditRepo) step.draws actionId lockVersion waivedBy
  | .execute actionId executedBy =>
    w.executeAction (step.repositories auditRepo) step.draws actionId executedBy
  | .reapprove actionId lockVersion => w.reapproveAction actionId lockVersion

/-- The state after a sequence of calls, whatever they answer. -/
def runSteps (w : LedgerState τ) (steps : List ServiceStep) : LedgerState τ :=
  steps.foldl (fun w step => (step.apply auditRepo w).2) w

end Run

/-- What an accepted call does to its action, with the records that it adds. -/
inductive LedgerMove (action updated : CompensationAction) : List SideEffectRollbackRecord → Prop
  | unrecorded (hbefore : action.status ≠ .executed ∧ action.status ≠ .waived)
      (hafter : updated.status ≠ .executed ∧ updated.status ≠ .waived)
      (hattempts : updated.attemptCount = action.attemptCount) : LedgerMove action updated []
  | waived (record : SideEffectRollbackRecord) (hresult : record.result = .waived)
      (hbefore : action.status = .pending) (hafter : updated.status = .waived)
      (hattempts : updated.attemptCount = action.attemptCount) : LedgerMove action updated [record]
  | executed (record : SideEffectRollbackRecord) (hresult : record.result = .success)
      (hbefore : action.status = .approved) (hafter : updated.status = .executed)
      (hattempts : updated.attemptCount = action.attemptCount + 1) :
      LedgerMove action updated [record]
  | failed (record : SideEffectRollbackRecord) (hresult : record.result = .failure)
      (hbefore : action.status = .approved) (hafter : updated.status = .failed)
      (hattempts : updated.attemptCount = action.attemptCount + 1) :
      LedgerMove action updated [record]

/-- The record is one of the action, under the identifier drawn for it. -/
structure RecordOf (action : CompensationAction) (draw : Draw) (record : SideEffectRollbackRecord) :
    Prop where
  id : record.id = draw.id
  compensationActionId : record.compensationActionId = action.id
  tenantId : record.tenantId = action.tenantId
  sideEffectId : record.sideEffectId = action.sideEffectId
  intentId : record.intentId = action.intentId

/-- Records of an attempt. -/
def SideEffectRollbackRecord.isAttempt (record : SideEffectRollbackRecord) : Bool :=
  record.result = .success || record.result = .failure

/-- The records of an action say what has become of it: as many attempts as it counts, a success
exactly if it is executed, and a waiver exactly if it is waived. -/
structure LedgerOf (action : CompensationAction) (records : List SideEffectRollbackRecord) :
    Prop where
  attempts : (records.countP SideEffectRollbackRecord.isAttempt : Int) = action.attemptCount
  success : records.countP (fun record => record.result = .success) =
    if action.status = .executed then 1 else 0
  waived : records.countP (fun record => record.result = .waived) =
    if action.status = .waived then 1 else 0

section Moves

variable {action updated : CompensationAction} {records added : List SideEffectRollbackRecord}

/-- A pending action without an attempt has no records. -/
theorem LedgerOf.fresh (hstatus : action.status = .pending) (hattempts : action.attemptCount = 0) :
    LedgerOf action [] where
  attempts := by simp [hattempts]
  success := by simp [hstatus]
  waived := by simp [hstatus]

theorem LedgerOf.move (h : LedgerOf action records) (hmove : LedgerMove action updated added) :
    LedgerOf updated (records ++ added) := by
  have hattempts := h.attempts
  have hsuccess := h.success
  have hwaived := h.waived
  cases hmove with
  | unrecorded hbefore hafter heq =>
    rw [List.append_nil]
    constructor
    · rw [hattempts, heq]
    · rw [hsuccess, if_neg hbefore.1, if_neg hafter.1]
    · rw [hwaived, if_neg hbefore.2, if_neg hafter.2]
  | waived record hresult hbefore hafter heq =>
    rw [hbefore] at hsuccess hwaived
    constructor
    · simp [List.countP_append, SideEffectRollbackRecord.isAttempt, hresult, hattempts, heq]
    · simp [List.countP_append, hresult, hsuccess, hafter]
    · simp [List.countP_append, hresult, hwaived, hafter]
  | executed record hresult hbefore hafter heq =>
    rw [hbefore] at hsuccess hwaived
    constructor
    · simp [List.countP_append, SideEffectRollbackRecord.isAttempt, hresult, hattempts, heq]
    · simp [List.countP_append, hresult, hsuccess, hafter]
    · simp [List.countP_append, hresult, hwaived, hafter]
  | failed record hresult hbefore hafter heq =>
    rw [hbefore] at hsuccess hwaived
    constructor
    · simp [List.countP_append, SideEffectRollbackRecord.isAttempt, hresult, hattempts, heq]
    · simp [List.countP_append, hresult, hsuccess, hafter]
    · simp [List.countP_append, hresult, hwaived, hafter]

end Moves

/-- What a call leaves: the actions and records as they were, or its action moved and the records of
the move added. -/
def StepLeaves {τ : Type} (step : ServiceStep) (w w' : LedgerState τ) : Prop :=
  (w'.actions = w.actions ∧ w'.rollbackRecords = w.rollbackRecords) ∨
    ∃ action updated added, w.actions.get step.call.actionId = .ok action ∧
      w'.actions = w.actions.put step.call.actionId updated ∧ SamePlan action updated ∧
      LedgerMove action updated added ∧
      (∀ record ∈ added, RecordOf action step.draws.rollbackRecord record) ∧
      w'.rollbackRecords = added.foldl (fun ledger record => (ledger.create record).2)
        w.rollbackRecords

section Steps

variable {τ : Type} {auditRepo : Option (AuditRepository τ)} {step : ServiceStep}
  {w : LedgerState τ} {actionId : Uuid} {action : CompensationAction} {s : ActionStorage}

theorem statusWritten_attemptCount (s : ActionStorage) (now : DateTime)
    (newStatus : CompensationStatus) (approvedBy waivedBy : Option String)
    (action : CompensationAction) :
    (s.statusWritten now newStatus approvedBy waivedBy action).attemptCount =
      action.attemptCount := by
  cases s with
  | inMemory => cases newStatus <;> rfl
  | sqlx => rfl

theorem resultWritten_attemptCount (s : ActionStorage) (now : DateTime) (result : ExecutionResult)
    (executedBy : Option String) (action : CompensationAction) :
    (s.resultWritten now result executedBy action).attemptCount = action.attemptCount + 1 := by
  cases s with
  | inMemory => exact withResult_attemptCount result executedBy
  | sqlx => rfl

/-- Without a record, a call leaves the actions alone, or moves its action unrecorded. -/
theorem StepLeaves.ofStatus (hget : w.actions.get step.call.actionId = .ok action)
    {updated : CompensationAction} (hfrom : SamePlan action updated)
    (hmove : LedgerMove action updated []) :
    StepLeaves step w { w with actions := w.actions.put step.call.actionId updated } :=
  .inr ⟨action, updated, [], hget, rfl, hfrom, hmove, fun _ h => absurd h List.not_mem_nil, rfl⟩

theorem approveAction_leaves (lockVersion : Int) (approvedBy : Option String)
    (hcall : step.call = .approve actionId lockVersion approvedBy) :
    StepLeaves step w (w.approveAction step.draws actionId lockVersion approvedBy).2 := by
  have hid : step.call.actionId = actionId := by rw [hcall]; rfl
  rw [ServiceState.approveAction, ActionStorage.approveAction]
  cases hget : w.actions.get actionId with
  | error e => exact .inl ⟨rfl, rfl⟩
  | ok action =>
    dsimp only
    cases hcheck : action.checkTransition .approved with
    | error e => exact .inl ⟨rfl, rfl⟩
    | ok _ =>
      have hpending := (action.checkTransition_ok (.inl rfl)).mp hcheck
      dsimp only
      rw [ActionStorage.updateStatus_eq hget]
      split
      · have hwritten :=
          w.actions.statusWritten_from step.draws.now .approved approvedBy none action
        have hattempts := statusWritten_attemptCount w.actions step.draws.now .approved approvedBy
          none action
        rw [← hid] at hget ⊢
        exact .ofStatus hget hwritten.1.toSamePlan
          (.unrecorded (by simp [hpending]) (by simp [hwritten.2]) hattempts)
      · exact .inl ⟨rfl, rfl⟩

theorem reapproveAction_leaves (lockVersion : Int)
    (hcall : step.call = .reapprove actionId lockVersion) :
    StepLeaves step w (w.reapproveAction actionId lockVersion).2 := by
  have hid : step.call.actionId = actionId := by rw [hcall]; rfl
  rw [ServiceState.reapproveAction, ActionStorage.reapproveAction]
  cases hget : w.actions.get actionId with
  | error e => exact .inl ⟨rfl, rfl⟩
  | ok action =>
    dsimp only
    cases action.checkReapprovable actionId with
    | error e => exact .inl ⟨rfl, rfl⟩
    | ok _ =>
      dsimp only
      rcases ActionStorage.reapprove_cases hget lockVersion with
        ⟨-, hfailed, hanswer⟩ | ⟨-, e, hanswer⟩
      · rw [hanswer]
        have hwritten := ActionStorage.reapproved_from action
        rw [← hid] at hget ⊢
        exact .ofStatus hget hwritten.1.toSamePlan
          (.unrecorded (by simp [hfailed]) (by simp [hwritten.2]) rfl)
      · rw [hanswer]
        exact .inl ⟨rfl, rfl⟩

theorem waiveAction_leaves (lockVersion : Int) (waivedBy : Option String)
    (hcall : step.call = .waive actionId lockVersion waivedBy) :
    StepLeaves step w
      (w.waiveAction (step.repositories auditRepo) step.draws actionId lockVersion waivedBy).2 := by
  have hid : step.call.actionId = actionId := by rw [hcall]; rfl
  rw [ServiceState.waiveAction]
  cases hget : w.actions.get actionId with
  | error e => exact .inl ⟨rfl, rfl⟩
  | ok action =>
    dsimp only
    cases hcheck : action.checkTransition .waived with
    | error e => exact .inl ⟨rfl, rfl⟩
    | ok _ =>
      have hpending := (action.checkTransition_ok (.inr rfl)).mp hcheck
      dsimp only
      rw [ActionStorage.updateStatus_eq hget]
      by_cases hlock : action.lockVersion = lockVersion
      · rw [if_pos hlock]
        have hwritten := w.actions.statusWritten_from step.draws.now .waived none waivedBy action
        have hattempts := statusWritten_attemptCount w.actions step.draws.now .waived none waivedBy
          action
        rw [← hid] at hget ⊢
        refine .inr ⟨action, _, [_], hget, rfl, hwritten.1.toSamePlan,
          .waived _ rfl hpending hwritten.2 hattempts, ?_, rfl⟩
        intro record hmem
        obtain rfl := List.mem_singleton.mp hmem
        exact ⟨rfl, rfl, rfl, rfl, rfl⟩
      · rw [if_neg hlock]
        exact .inl ⟨rfl, rfl⟩

theorem executionRecord_of (draw : Draw) (action : CompensationAction) (result : ExecutionResult)
    (recordedBy : Option String) :
    RecordOf action draw (executionRecord draw action result recordedBy) := by
  rw [executionRecord]
  split <;> exact ⟨rfl, rfl, rfl, rfl, rfl⟩

/-- An attempt moves its action by its result, and records it. -/
theorem executed_moves {result : ExecutionResult} (draws : ServiceDraws)
    (executedBy : Option String) (happroved : action.status = .approved) :
    LedgerMove action (s.resultWritten draws.now result executedBy action)
      [executionRecord draws.rollbackRecord action result executedBy] := by
  have hstatus := (s.resultWritten_from draws.now result executedBy action).2
  have hattempts := resultWritten_attemptCount s draws.now result executedBy action
  rw [executionRecord]
  cases hsuccess : result.success with
  | true =>
    rw [hsuccess, if_pos rfl] at hstatus
    rw [if_pos rfl]
    exact .executed _ rfl happroved hstatus hattempts
  | false =>
    rw [hsuccess, if_neg Bool.false_ne_true] at hstatus
    rw [if_neg Bool.false_ne_true]
    exact .failed _ rfl happroved hstatus hattempts

theorem executeAction_leaves (executedBy : Option String)
    (hcall : step.call = .execute actionId executedBy) :
    StepLeaves step w
      (w.executeAction (step.repositories auditRepo) step.draws actionId executedBy).2 := by
  have hid : step.call.actionId = actionId := by rw [hcall]; rfl
  rw [ServiceState.executeAction]
  cases hget : w.actions.get actionId with
  | error e => exact .inl ⟨rfl, rfl⟩
  | ok action =>
    dsimp only
    cases hcheck : action.checkExecutable actionId with
    | error e => exact .inl ⟨rfl, rfl⟩
    | ok _ =>
      have happroved := ((action.checkExecutable_ok actionId).mp hcheck).1
      dsimp only
      cases runExecutor (step.repositories auditRepo).sideEffectRepo step.draws.now action with
      | error e => exact .inl ⟨rfl, rfl⟩
      | ok result =>
        dsimp only
        rw [ServiceState.createAuditEvent_actions, ActionStorage.recordResult_eq hget, if_pos rfl]
        have hwritten := w.actions.resultWritten_from step.draws.now result executedBy action
        rw [← hid] at hget ⊢
        refine .inr ⟨action, _, _, hget, ?_, hwritten.1.toSamePlan,
          executed_moves step.draws executedBy happroved, ?_, ?_⟩
        · simp
        · intro record hmem
          obtain rfl := List.mem_singleton.mp hmem
          exact executionRecord_of _ _ _ _
        · simp [ServiceState.createRollbackRecord, ServiceStep.repositories,
            InMemoryRollbackRecordRepository.repository]

variable (auditRepo step w) in
theorem apply_leaves : StepLeaves step w (step.apply auditRepo w).2 := by
  rw [ServiceStep.apply]
  cases hcall : step.call with
  | approve actionId lockVersion approvedBy => exact approveAction_leaves _ _ hcall
  | waive actionId lockVersion waivedBy => exact waiveAction_leaves _ _ hcall
  | execute actionId executedBy => exact executeAction_leaves _ hcall
  | reapprove actionId lockVersion => exact reapproveAction_leaves _ hcall

end Steps

/-- The records under the keys of an action. -/
structure UnderKeysOf (action : CompensationAction) (record : SideEffectRollbackRecord) : Prop where
  tenantId : record.tenantId = action.tenantId
  sideEffectId : record.sideEffectId = action.sideEffectId
  intentId : record.intentId = action.intentId

/-- The repository holds the created records, and those of each stored action say what has become of
it, under its keys. -/
structure Mirrors {τ : Type} (w : LedgerState τ) (created : List SideEffectRollbackRecord) :
    Prop where
  holds : w.rollbackRecords.Holds created
  keyed : ∀ actionId action, w.actions.get actionId = .ok action → action.id = actionId
  ledger : ∀ actionId action, w.actions.get actionId = .ok action →
    LedgerOf action (created.filter fun record => record.compensationActionId = actionId)
  keys : ∀ actionId action, w.actions.get actionId = .ok action → ∀ record ∈ created,
    record.compensationActionId = actionId → UnderKeysOf action record

section Mirror

variable {τ : Type} {auditRepo : Option (AuditRepository τ)} {step : ServiceStep}
  {w w' : LedgerState τ} {created added : List SideEffectRollbackRecord}
  {action updated : CompensationAction}

theorem LedgerMove.added_cases (h : LedgerMove action updated added) :
    added = [] ∨ ∃ record, added = [record] := by
  cases h with
  | unrecorded => exact .inl rfl
  | waived record => exact .inr ⟨record, rfl⟩
  | executed record => exact .inr ⟨record, rfl⟩
  | failed record => exact .inr ⟨record, rfl⟩

theorem Mirrors.congr (h : Mirrors w created) (hactions : w'.actions = w.actions)
    (hrecords : w'.rollbackRecords = w.rollbackRecords) : Mirrors w' created where
  holds := hrecords ▸ h.holds
  keyed := hactions ▸ h.keyed
  ledger := hactions ▸ h.ledger
  keys := hactions ▸ h.keys

/-- A call whose record gets an identifier of its own keeps the records in step with the actions. -/
theorem Mirrors.leaves (h : Mirrors w created) (hleaves : StepLeaves step w w')
    (hnew : step.draws.rollbackRecord.id ∉ created.map SideEffectRollbackRecord.id) :
    ∃ added, Mirrors w' (created ++ added) ∧
      ∀ record ∈ added, record.id = step.draws.rollbackRecord.id := by
  rcases hleaves with ⟨hactions, hrecords⟩ |
    ⟨action, updated, added, hget, hactions, hplan, hmove, hof, hrecords⟩
  · refine ⟨[], ?_, fun _ hmem => absurd hmem List.not_mem_nil⟩
    rw [List.append_nil]
    exact h.congr hactions hrecords
  have hid : action.id = step.call.actionId := h.keyed _ action hget
  have hget' (actionId : Uuid) : w'.actions.get actionId =
      if actionId = step.call.actionId then .ok updated else w.actions.get actionId :=
    (congrArg (·.get actionId) hactions).trans (ActionStorage.get_put _ _ _ _)
  refine ⟨added, ?_, fun record hmem => (hof record hmem).id⟩
  constructor
  case holds =>
    rcases hmove.added_cases with rfl | ⟨record, rfl⟩
    · rw [List.append_nil, hrecords]
      exact h.holds
    · rw [hrecords]
      exact h.holds.create ((hof record List.mem_cons_self).id ▸ hnew)
  case keyed =>
    intro actionId found hfound
    rw [hget'] at hfound
    split at hfound
    · next heq =>
      cases hfound
      rw [hplan.id, hid, heq]
    · exact h.keyed actionId found hfound
  case ledger =>
    intro actionId found hfound
    rw [hget'] at hfound
    rw [List.filter_append]
    split at hfound
    · next heq =>
      cases hfound
      have hall : (added.filter fun record => record.compensationActionId = actionId) = added :=
        List.filter_eq_self.mpr fun record hmem => by
          simp [(hof record hmem).compensationActionId, hid, heq]
      rw [hall, heq]
      exact (h.ledger _ action hget).move hmove
    · next hne =>
      have hnone : (added.filter fun record => record.compensationActionId = actionId) = [] :=
        List.filter_eq_nil_iff.mpr fun record hmem => by
          simp [(hof record hmem).compensationActionId, hid, Ne.symm hne]
      rw [hnone, List.append_nil]
      exact h.ledger actionId found hfound
  case keys =>
    intro actionId found hfound record hmem hrecord
    rw [hget'] at hfound
    split at hfound
    · next heq =>
      cases hfound
      rcases List.mem_append.mp hmem with hold | hadded
      · have hkeys := h.keys _ action hget record hold (hrecord.trans heq)
        exact ⟨hkeys.tenantId.trans hplan.tenantId.symm,
          hkeys.sideEffectId.trans hplan.sideEffectId.symm,
          hkeys.intentId.trans hplan.intentId.symm⟩
      · have hkeys := hof record hadded
        exact ⟨hkeys.tenantId.trans hplan.tenantId.symm,
          hkeys.sideEffectId.trans hplan.sideEffectId.symm,
          hkeys.intentId.trans hplan.intentId.symm⟩
    · next hne =>
      rcases List.mem_append.mp hmem with hold | hadded
      · exact h.keys actionId found hfound record hold hrecord
      · have hother := (hof record hadded).compensationActionId
        exact absurd (hrecord.symm.trans (hother.trans hid)) hne

/-- The identifiers that the calls draw for their records. -/
def drawnIds (steps : List ServiceStep) : List Uuid :=
  steps.map fun step => step.draws.rollbackRecord.id

variable (auditRepo) in
theorem Mirrors.run (h : Mirrors w created) {steps : List ServiceStep}
    (hids : (created.map SideEffectRollbackRecord.id ++ drawnIds steps).Nodup) :
    ∃ created', Mirrors (runSteps auditRepo w steps) created' := by
  induction steps generalizing w created with
  | nil => exact ⟨created, h⟩
  | cons step rest ih =>
    have hsplit := List.nodup_append.mp hids
    have hnew : step.draws.rollbackRecord.id ∉ created.map SideEffectRollbackRecord.id :=
      fun hmem => hsplit.2.2 _ hmem _ List.mem_cons_self rfl
    obtain ⟨added, hmirrors, hadded⟩ := h.leaves (apply_leaves auditRepo step w) hnew
    refine ih hmirrors ?_
    have hrest := List.nodup_cons.mp hsplit.2.1
    have hfresh := hmirrors.holds.nodup_ids
    refine List.nodup_append.mpr ⟨hfresh, hrest.2, fun id hid other hother heq => ?_⟩
    subst heq
    rw [List.map_append, List.mem_append] at hid
    rcases hid with hold | hnewer
    · exact hsplit.2.2 _ hold _ (List.mem_cons_of_mem _ hother) rfl
    · obtain ⟨record, hmem, rfl⟩ := List.mem_map.mp hnewer
      have hdrawn : step.draws.rollbackRecord.id ∈ drawnIds rest := hadded record hmem ▸ hother
      exact hrest.1 hdrawn

end Mirror

/-- The stored records of an action. -/
def InMemoryRollbackRecordRepository.recordsOf (s : InMemoryRollbackRecordRepository)
    (actionId : Uuid) : List SideEffectRollbackRecord :=
  ((pairs s.records).map Prod.snd).filter fun record => record.compensationActionId = actionId

/-- The stored records of an action say what has become of it, and each is listed once under its
keys, which are the action's. -/
structure MirroredIn (ledger : InMemoryRollbackRecordRepository) (action : CompensationAction) :
    Prop where
  told : LedgerOf action (ledger.recordsOf action.id)
  listed : ∀ record ∈ ledger.recordsOf action.id,
    UnderKeysOf action record ∧ ledger.ListedOnce record

/-- An action as it is planned: pending, under its own identifier, and not attempted. -/
structure FreshlyCreated (actionId : Uuid) (action : CompensationAction) : Prop where
  id : action.id = actionId
  status : action.status = .pending
  attemptCount : action.attemptCount = 0

section Law

variable {τ : Type} {w : LedgerState τ} {created : List SideEffectRollbackRecord}

theorem LedgerOf.perm {action : CompensationAction}
    {records records' : List SideEffectRollbackRecord} (h : LedgerOf action records)
    (hperm : records.Perm records') : LedgerOf action records' where
  attempts := hperm.countP_eq _ ▸ h.attempts
  success := hperm.countP_eq _ ▸ h.success
  waived := hperm.countP_eq _ ▸ h.waived

theorem Mirrors.mirroredIn (h : Mirrors w created) {actionId : Uuid} {action : CompensationAction}
    (hget : w.actions.get actionId = .ok action) : MirroredIn w.rollbackRecords action := by
  have hperm : (created.filter fun record => record.compensationActionId = action.id).Perm
      (w.rollbackRecords.recordsOf action.id) := by
    have hvalues : (created.map fun record => (record.id, record)).map Prod.snd = created := by
      rw [List.map_map]
      exact List.map_id _
    have hstored := (h.holds.stored.map Prod.snd).symm
    rw [hvalues] at hstored
    exact hstored.filter _
  obtain rfl := h.keyed actionId action hget
  refine ⟨(h.ledger action.id action hget).perm hperm, fun record hmem => ?_⟩
  obtain ⟨hcreated, hid⟩ := List.mem_filter.mp (hperm.mem_iff.mpr hmem)
  exact ⟨h.keys action.id action hget record hcreated (of_decide_eq_true hid),
    h.holds.listedOnce hcreated⟩

theorem mirrors_fresh (hledger : w.rollbackRecords = .new)
    (hfresh : ∀ actionId action, w.actions.get actionId = .ok action →
      FreshlyCreated actionId action) : Mirrors w [] where
  holds := hledger ▸ .new
  keyed actionId action hget := (hfresh actionId action hget).id
  ledger actionId action hget :=
    .fresh (hfresh actionId action hget).status (hfresh actionId action hget).attemptCount
  keys _ _ _ _ hmem := absurd hmem List.not_mem_nil

/-- From freshly created actions and an empty ledger, any calls leave the records of every action in
step with its lifecycle. -/
theorem ledger_mirrors_lifecycle {τ : Type} (auditRepo : Option (AuditRepository τ))
    (w : LedgerState τ) (steps : List ServiceStep) (hledger : w.rollbackRecords = .new)
    (hfresh : ∀ actionId action, w.actions.get actionId = .ok action →
      FreshlyCreated actionId action)
    (hids : (drawnIds steps).Nodup) :
    ∀ actionId action, (runSteps auditRepo w steps).actions.get actionId = .ok action →
      MirroredIn (runSteps auditRepo w steps).rollbackRecords action := by
  obtain ⟨created, hmirrors⟩ := (mirrors_fresh hledger hfresh).run auditRepo hids
  exact fun actionId action hget => hmirrors.mirroredIn hget

end Law

section Sample

/-- The state with one planned action. -/
def plannedState : LedgerState (List AuditEvent) where
  actions := (ActionStorage.inMemory ∅).put 7 (.sample 7 0)
  rollbackRecords := .new
  auditEvents := []

/-- A step without recorded side effects, whose record would get the identifier. -/
def plannedStep (recordId : Uuid) (call : LedgerCall) : ServiceStep where
  sideEffectRepo := some ∅
  draws := {
    now := 1
    rollbackRecord := ⟨recordId, 1⟩
    started := ⟨200, 1⟩
    ended := ⟨201, 1⟩
    traceContext := ⟨none, none⟩ }
  call := call

def plannedSteps : List ServiceStep :=
  [plannedStep 100 (.approve 7 0 (some "user:alice")), plannedStep 101 (.execute 7 none),
    plannedStep 102 (.execute 7 none)]

theorem ledger_mirrors_lifecycle_sample :
    ∃ action, (runSteps (some .log) plannedState plannedSteps).actions.get 7 = .ok action ∧
      MirroredIn (runSteps (some .log) plannedState plannedSteps).rollbackRecords action := by
  refine ⟨_, rfl, ledger_mirrors_lifecycle (some .log) plannedState plannedSteps rfl ?_ (by decide)
    7 _ rfl⟩
  intro actionId action hget
  rw [plannedState, ActionStorage.get_put] at hget
  split at hget
  · next heq =>
    cases hget
    exact ⟨heq.symm, rfl, rfl⟩
  · cases hget

end Sample

end IntentRebase
