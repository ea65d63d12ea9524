import IntentRebase.Api.StoredBatch

/-! The gates of a reapproval: on every way to reapprove but one, an action leaves the failed status
only with retries left and a transient error. -/

namespace IntentRebase

open Kit SqlxCompensationActionRepository

/-- The documented gates: the action has failed, it has retries left, and the error code that is
recorded, if any, is a transient one. -/
structure CompensationAction.GatesOpen (action : CompensationAction) : Prop where
  failed : action.status = .failed
  budget : action.attemptCount < action.maxRetries
  transient : ∀ code, action.errorCode = some code →
    (classifyErrorCode code).retryable = .retryable

theorem CompensationAction.canBeReapproved_iff {action : CompensationAction} :
    action.canBeReapproved = true ↔ action.GatesOpen := by
  unfold canBeReapproved
  split
  · next hstatus => exact iff_of_false nofun fun h => hstatus h.failed
  next hstatus =>
  split
  · next hbudget => exact iff_of_false nofun fun h => absurd h.budget (not_lt.mpr hbudget)
  next hbudget =>
  have hopen (htransient : ∀ code, action.errorCode = some code →
      (classifyErrorCode code).retryable = .retryable) : action.GatesOpen :=
    ⟨not_not.mp hstatus, not_le.mp hbudget, htransient⟩
  cases hcode : action.errorCode with
  | none => exact iff_of_true rfl (hopen (by simp [hcode]))
  | some code =>
    refine ⟨fun h => hopen fun code' hcode' => ?_, fun h => beq_iff_eq.mpr (h.transient code hcode)⟩
    cases hcode.symm.trans hcode'
    exact beq_iff_eq.mp h

/-- No action goes from failed to pending unless the gates are open. -/
def EnforcesGates (s after : ActionStorage) : Prop :=
  ∀ actionId action updated, s.get actionId = .ok action → after.get actionId = .ok updated →
    action.status = .failed → updated.status = .pending → action.GatesOpen

/-- Each action is kept, or is reapproved through the open gates. -/
def OnlyReapproves (s after : ActionStorage) : Prop :=
  ∀ actionId, after.get actionId = s.get actionId ∨
    ∃ action, s.get actionId = .ok action ∧ action.GatesOpen ∧
      after.get actionId = .ok (reapproved action)

namespace OnlyReapproves

variable {s next after : ActionStorage} {actionId : Uuid} {action : CompensationAction}

theorem refl (s : ActionStorage) : OnlyReapproves s s := fun _ => .inl rfl

/-- A reapproved action is pending, so that it is not reapproved again. -/
theorem trans (h : OnlyReapproves s next) (h' : OnlyReapproves next after) :
    OnlyReapproves s after := by
  intro actionId
  rcases h actionId with hkept | ⟨action, hget, hopen, hnext⟩
  · have hsecond := h' actionId
    rwa [hkept] at hsecond
  · refine .inr ⟨action, hget, hopen, ?_⟩
    rcases h' actionId with hkept | ⟨again, hagain, hopen', -⟩
    · exact hkept.trans hnext
    · cases hnext.symm.trans hagain
      cases hopen'.failed

theorem put (hget : s.get actionId = .ok action) (hopen : action.GatesOpen) :
    OnlyReapproves s (s.put actionId (reapproved action)) := by
  intro other
  rw [ActionStorage.get_put]
  split
  · next h => exact .inr ⟨action, h ▸ hget, hopen, rfl⟩
  · exact .inl rfl

theorem enforces (h : OnlyReapproves s after) : EnforcesGates s after := by
  intro actionId action updated hget hafter hfailed hpending
  rcases h actionId with hkept | ⟨action', hget', hopen, -⟩
  · cases (hkept.trans hget).symm.trans hafter
    cases hfailed.symm.trans hpending
  · cases hget.symm.trans hget'
    exact hopen

end OnlyReapproves

section Single

variable {config : CompensationConfig} {faults : TxFaults} {claims : Option RlsTenantClaims}
  {s : ActionStorage} {actionId : Uuid}

theorem reapproveAction_onlyReapproves (s : ActionStorage) (actionId : Uuid) (lockVersion : Int) :
    OnlyReapproves s (s.reapproveAction actionId lockVersion).2 := by
  rw [ActionStorage.reapproveAction]
  cases hget : s.get actionId with
  | error e => exact .refl s
  | ok action =>
    dsimp only
    cases hcheck : action.checkReapprovable actionId with
    | error e => exact .refl s
    | ok _ =>
      have hopen := CompensationAction.canBeReapproved_iff.mp
        ((action.checkReapprovable_ok actionId).mp hcheck)
      rcases ActionStorage.reapprove_cases hget lockVersion with
        ⟨-, -, hanswer⟩ | ⟨-, e, hanswer⟩
      · dsimp only
        rw [hanswer]
        exact .put hget hopen
      · dsimp only
        rw [hanswer]
        exact .refl s

theorem reapproveCompensationAction_onlyReapproves (lockVersion : Int) :
    OnlyReapproves s
      (reapproveCompensationAction config faults claims actionId lockVersion s).2 := by
  rw [reapproveCompensationAction, onAction]
  cases hget : s.get actionId with
  | error e => exact .refl s
  | ok action =>
    cases claims with
    | none => exact reapproveAction_onlyReapproves s actionId lockVersion
    | some rlsClaims =>
      dsimp only
      split
      · exact .refl s
      cases htable : rlsTable config s with
      | none => exact reapproveAction_onlyReapproves s actionId lockVersion
      | some table =>
        obtain rfl := rlsTable_eq_some htable
        cases hcheck : action.checkReapprovable actionId with
        | error e => exact .refl _
        | ok _ =>
          have hopen := CompensationAction.canBeReapproved_iff.mp
            ((action.checkReapprovable_ok actionId).mp hcheck)
          have houtcome := withTenant_write (reapproveWithTx_scoped
            (ActionStorage.sqlx_get_ok hget) rlsClaims.tenantId faults.updateFault lockVersion)
            rlsClaims.notNil faults
          rcases houtcome.stored with ⟨-, -, hstored⟩ | ⟨-, hstored⟩
          · dsimp only [Prod.map]
            rw [hstored]
            exact .put hget hopen
          · dsimp only [Prod.map]
            rw [hstored]
            exact .refl _

theorem batchReapprove_onlyReapproves (clock : Nat → DateTime) (tenantId : Uuid)
    (actionIds : List Uuid) (s : ActionStorage) :
    OnlyReapproves s (ActionStorage.batchReapprove clock tenantId actionIds s).2 :=
  ActionStorage.batchItems_keeps _ clock tenantId OnlyReapproves.refl OnlyReapproves.trans
    (fun _ actionId action s _ _ => reapproveAction_onlyReapproves s actionId action.lockVersion)
    0 actionIds (.start actionIds) s

end Single

section Items

/-- An item reapproves a failed action: in a transaction any one of the tenant, and through the
service one whose gates are open. -/
def reapproveRule (rlsClaims : RlsTenantClaims) : ItemRule where
  mayWrite inTx _ action :=
    action.status = .failed ∧ (inTx = true → action.tenantId = rlsClaims.tenantId) ∧
      (inTx = false → action.GatesOpen)
  recordsRollback := false
  writes action updated := updated = reapproved action

variable {config : CompensationConfig} {faults : Nat → TxFaults} {rlsClaims : RlsTenantClaims}
  {s : ActionStorage} {n : Nat} {actionId : Uuid} {action : CompensationAction}

theorem reapproveItem_unchanged (hget : s.get actionId = .ok action)
    (h : ¬ (reapproveRule rlsClaims).Allows config s actionId) (e : String) :
    ∃ updated, (reapproveRule rlsClaims).Outcome config faults s n actionId (.error e, s) updated :=
  ⟨reapproved action, .unchanged h ⟨action, hget, rfl⟩ e⟩

theorem reapproveItem_service (hget : s.get actionId = .ok action)
    (hfailed : action.status = .failed) (htable : rlsTable config s = none) :
    ∃ updated, (reapproveRule rlsClaims).Outcome config faults s n actionId
      ((s.reapproveAction actionId action.lockVersion).map (.mapError IntentRebaseError.display) id)
      updated := by
  rw [ActionStorage.reapproveAction, hget]
  dsimp only
  have hgates : action.checkReapprovable actionId = .ok () ↔ action.GatesOpen :=
    (action.checkReapprovable_ok actionId).trans CompensationAction.canBeReapproved_iff
  cases hcheck : action.checkReapprovable actionId with
  | error e =>
    refine reapproveItem_unchanged hget (fun hallows => ?_) e.display
    have hopen := ((ItemRule.allows_iff hget).mp hallows).2.2 (by simp [htable])
    cases hcheck.symm.trans (hgates.mpr hopen)
  | ok _ =>
    have hallows : (reapproveRule rlsClaims).Allows config s actionId :=
      (ItemRule.allows_iff hget).mpr ⟨hfailed, by simp [htable], fun _ => hgates.mp hcheck⟩
    rcases ActionStorage.reapprove_cases hget action.lockVersion with
      ⟨-, -, hanswer⟩ | ⟨hnot, -⟩
    · dsimp only
      rw [hanswer]
      exact ⟨_, ItemRule.Outcome.ofService hallows htable ⟨action, hget, rfl⟩⟩
    · exact absurd ⟨rfl, hfailed⟩ hnot

theorem reapproveItem_describes (config : CompensationConfig) (faults : Nat → TxFaults)
    (rlsClaims : RlsTenantClaims) :
    (reapproveRule rlsClaims).Describes config faults (reapproveItem config faults rlsClaims) where
  outcome s n actionId action hget := by
    rw [reapproveItem]
    by_cases hfailed : action.status = .failed
    swap
    · rw [if_pos hfailed]
      exact reapproveItem_unchanged hget
        (fun hallows => hfailed ((ItemRule.allows_iff hget).mp hallows).1) _
    rw [if_neg (not_not.mpr hfailed)]
    cases htable : rlsTable config s with
    | none => exact reapproveItem_service hget hfailed htable
    | some table =>
      obtain rfl := rlsTable_eq_some htable
      have houtcome := withTenant_write (reapproveWithTx_scoped (ActionStorage.sqlx_get_ok hget)
        rlsClaims.tenantId (faults n).updateFault action.lockVersion) rlsClaims.notNil (faults n)
      have hallows : (reapproveRule rlsClaims).Allows config (.sqlx table) actionId ↔
          action.tenantId = rlsClaims.tenantId := by
        rw [ItemRule.allows_iff hget]
        simp [reapproveRule, hfailed, htable]
      exact ⟨_, ItemRule.Outcome.ofTx (reapproveRule rlsClaims) houtcome
        (by rw [hallows]; simp [hfailed, and_comm]) htable ⟨action, hget, rfl⟩ RlsFailure.batchText⟩
  owner _ _ hwrites := hwrites ▸ rfl
  once _ _ action updated hwrites hmay := by
    have hpending : updated.status = .pending := hwrites ▸ rfl
    cases hpending.symm.trans hmay.1

end Items

section Batch

variable (config : CompensationConfig) (faults : Nat → TxFaults) (clock : Nat → DateTime)
  (rlsClaims : RlsTenantClaims) (tenantId : Uuid) (actionIds : List Uuid) (s : ActionStorage)

/-- Some item of a batch that is let pass reapproves, in its own transaction, a failed action whose
gates are not open. -/
def SkipsGates : Prop :=
  (rlsTable config s).isSome ∧ Validated rlsClaims s actionIds ∧
    ∃ actionId, SomeItem (fun n actionId => ∃ action, s.get actionId = .ok action ∧
      action.status = .failed ∧ ¬ action.GatesOpen ∧ (faults n).Keeps false ∧
      (faults n).updateFault = none) 0 actionIds actionId

/-- The batch of a token's tenant enforces the gates unless some item skips them. -/
theorem batchReapprove_enforces_iff :
    EnforcesGates s (batchReapproveCompensationActions config faults clock (some rlsClaims)
        tenantId actionIds s).2 ↔
      ¬ SkipsGates config faults rlsClaims actionIds s := by
  rw [batchReapproveCompensationActions, preValidatedBatch]
  rcases preValidate_cases rlsClaims s actionIds with
    ⟨hvalid, hok⟩ | ⟨hinvalid, e, herror⟩
  swap
  · rw [herror]
    exact iff_of_true (OnlyReapproves.refl s).enforces fun h => hinvalid h.2.1
  rw [hok]
  obtain ⟨_, _, hpass⟩ := (reapproveItem_describes config faults rlsClaims).pass
    "Action not found" actionIds 0 (.start actionIds (missingIds s actionIds)) s
  dsimp only [Prod.map, id]
  constructor
  · rintro henforces ⟨htable, -, actionId, n, hn, action, hget, hfailed, hshut, hkeeps, hupdate⟩
    have howner : action.tenantId = rlsClaims.tenantId := by
      rcases hvalid actionId (List.mem_of_getElem? hn) with ⟨id, hmissing⟩ | ⟨_, hget', howner⟩
      · cases hget.symm.trans hmissing
      · cases hget.symm.trans hget'
        exact howner
    have hallows : (reapproveRule rlsClaims).Allows config s actionId :=
      (ItemRule.allows_iff hget).mpr ⟨hfailed, fun _ => howner, by simp [htable]⟩
    obtain ⟨updated, hafter, action', hget', hwrites⟩ :=
      (hpass actionId).stored ⟨n, hn, hallows, fun _ => ⟨hkeeps, hupdate⟩⟩
    cases hget.symm.trans hget'
    exact hshut (henforces actionId action updated hget hafter hfailed (hwrites ▸ rfl))
  · intro hnever actionId action updated hget hafter hfailed hpending
    by_contra hshut
    have hkept : ¬ SomeItem ((reapproveRule rlsClaims).Stores config faults s) 0 actionIds
        actionId := by
      rintro ⟨n, hn, hallows, htx⟩
      have hmay := (ItemRule.allows_iff hget).mp hallows
      cases htable : (rlsTable config s).isSome with
      | false => exact hshut (hmay.2.2 htable)
      | true =>
        obtain ⟨hkeeps, hupdate⟩ := htx htable
        exact hnever ⟨htable, hvalid, actionId, n, hn, action, hget, hfailed, hshut, hkeeps, hupdate⟩
    cases (((hpass actionId).kept hkept).trans hget).symm.trans hafter
    cases hfailed.symm.trans hpending

end Batch

section Calls

/-- The ways to reapprove: the handlers of both builds, and the service's own operations. -/
inductive ReapproveCall where
  | handler (faults : TxFaults) (claims : Option RlsTenantClaims) (actionId : Uuid)
    (lockVersion : Int)
  | batchHandler (faults : Nat → TxFaults) (claims : Option RlsTenantClaims) (tenantId : Uuid)
    (actionIds : List Uuid)
  | handlerWithoutJwt (actionId : Uuid) (lockVersion : Int)
  | batchHandlerWithoutJwt (tenantId : Uuid) (actionIds : List Uuid)
  | reapproveAction (actionId : Uuid) (lockVersion : Int)
  | batchReapprove (tenantId : Uuid) (actionIds : List Uuid)

namespace ReapproveCall

variable (config : CompensationConfig) (clock : Nat → DateTime) (s : ActionStorage)

/-- The actions after a call. -/
def run : ReapproveCall → ActionStorage
  | handler faults claims actionId lockVersion =>
    (reapproveCompensationAction config faults claims actionId lockVersion s).2
  | batchHandler faults claims tenantId actionIds =>
    (batchReapproveCompensationActions config faults clock claims tenantId actionIds s).2
  | handlerWithoutJwt actionId lockVersion =>
    (reapproveCompensationActionWithoutJwt actionId lockVersion s).2
  | batchHandlerWithoutJwt tenantId actionIds =>
    (batchReapproveCompensationActionsWithoutJwt clock tenantId actionIds s).2
  | reapproveAction actionId lockVersion => (s.reapproveAction actionId lockVersion).2
  | batchReapprove tenantId actionIds =>
    (ActionStorage.batchReapprove clock tenantId actionIds s).2

/-- The call is a batch with claims, some item of which skips the gates. -/
def Skips : ReapproveCall → Prop
  | batchHandler faults (some rlsClaims) _ actionIds =>
    SkipsGates config faults rlsClaims actionIds s
  | _ => False

end ReapproveCall

/-- Every way to reapprove enforces the gates, but for a batch that skips them. -/
theorem reapproval_enforces_iff (config : CompensationConfig) (clock : Nat → DateTime)
    (s : ActionStorage) (call : ReapproveCall) :
    EnforcesGates s (call.run config clock s) ↔ ¬ call.Skips config s := by
  cases call with
  | handler faults claims actionId lockVersion =>
    exact iff_of_true (reapproveCompensationAction_onlyReapproves lockVersion).enforces not_false
  | batchHandler faults claims tenantId actionIds =>
    cases claims with
    | none =>
      exact iff_of_true (batchReapprove_onlyReapproves clock tenantId actionIds s).enforces
        not_false
    | some rlsClaims =>
      exact batchReapprove_enforces_iff config faults clock rlsClaims tenantId actionIds s
  | handlerWithoutJwt actionId lockVersion | reapproveAction actionId lockVersion =>
    exact iff_of_true (reapproveAction_onlyReapproves s actionId lockVersion).enforces not_false
  | batchHandlerWithoutJwt tenantId actionIds | batchReapprove tenantId actionIds =>
    exact iff_of_true (batchReapprove_onlyReapproves clock tenantId actionIds s).enforces not_false

/-- A failed action of tenant 5 without retries left. -/
def exhaustedAction : CompensationAction :=
  { tenantAction with status := .failed, attemptCount := 3, maxRetries := 3 }

/-- A batch of its tenant reapproves it. -/
theorem batchReapprove_skips_gates :
    ¬ (∀ (config : CompensationConfig) (clock : Nat → DateTime) (s : ActionStorage)
        (call : ReapproveCall), EnforcesGates s (call.run config clock s)) := by
  intro h
  have hget := get_tableOf exhaustedAction
  have hskips : SkipsGates ⟨true, false, none⟩ (fun _ => ⟨none, none, none, none, none⟩)
      sampleClaims [7] (.sqlx (tableOf exhaustedAction)) := by
    refine ⟨rfl, fun actionId hmem => ?_, 7, 0, rfl, exhaustedAction, hget, rfl, fun hopen => ?_,
      ⟨rfl, rfl, nofun⟩, rfl⟩
    · obtain rfl := List.mem_singleton.mp hmem
      exact .inr ⟨exhaustedAction, hget, rfl⟩
    · exact absurd hopen.budget (by decide)
  exact (batchReapprove_enforces_iff _ _ _ sampleClaims 5 [7] _).mp
    (h _ (fun _ => 10) _ (.batchHandler _ (some sampleClaims) 5 [7])) hskips

end Calls

end IntentRebase
