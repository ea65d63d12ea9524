import IntentRebase.Api.ReapprovalGates
import Mathlib.Data.Set.Card

/-! What the answer of a batch counts: an outcome for each requested identifier, the successes and
the failures, and the identifiers that are not found; with claims and through the service. -/

namespace IntentRebase

open Kit SqlxCompensationActionRepository

/-- What a pass adds to the answer for the identifiers of its items, some of which are missing. -/
structure Counted (missing : Uuid → Bool) (actionIds : List Uuid)
    (response result : BatchOrchestrationResponse) (added : List BatchItemOutcomeResponse) :
    Prop where
  outcomes : result.outcomes = response.outcomes ++ added
  requested : added.map BatchItemOutcomeResponse.actionId = actionIds
  notFound : result.notFound = response.notFound ++ actionIds.filter missing
  total : result.summary.total = response.summary.total
  succeeded : result.summary.succeeded =
    response.summary.succeeded + added.countP BatchItemOutcomeResponse.success
  failed : result.summary.failed =
    response.summary.failed + added.countP fun o => !o.success
  counted : result.summary.notFound =
    response.summary.notFound + (actionIds.filter missing).length

namespace Counted

variable {missing : Uuid → Bool} {actionId other : Uuid} {actionIds : List Uuid}
  {response result middle : BatchOrchestrationResponse} {o : BatchItemOutcomeResponse}
  {added : List BatchItemOutcomeResponse}

theorem nil : Counted missing [] response response [] :=
  ⟨(List.append_nil _).symm, rfl, (List.append_nil _).symm, rfl, rfl, rfl, rfl⟩

variable (response) in
theorem addFailed (h : missing actionId = false) (e : String) :
    ∃ o, Counted missing [actionId] response (response.addFailed actionId e) [o] := by
  have hids : [actionId].filter missing = [] := by simp [h]
  exact ⟨_, rfl, rfl, by rw [hids, List.append_nil]; rfl, rfl, rfl, rfl, by rw [hids]; rfl⟩

variable (response) in
theorem addSucceeded (h : missing actionId = false) (updated : CompensationAction) :
    ∃ o, Counted missing [actionId] response (response.addSucceeded actionId updated) [o] := by
  have hids : [actionId].filter missing = [] := by simp [h]
  exact ⟨_, rfl, rfl, by rw [hids, List.append_nil]; rfl, rfl, rfl, rfl, by rw [hids]; rfl⟩

variable (response) in
theorem addNotFound (h : missing actionId = true) (e : String) :
    ∃ o, Counted missing [actionId] response (response.addNotFound actionId e) [o] := by
  have hids : [actionId].filter missing = [actionId] := by simp [h]
  exact ⟨_, rfl, rfl, by rw [hids]; rfl, rfl, rfl, rfl, by rw [hids]; rfl⟩

theorem cons (h : Counted missing [other] response middle [o])
    (h' : Counted missing actionIds middle result added) :
    Counted missing (other :: actionIds) response result (o :: added) := by
  have hfilter : (other :: actionIds).filter missing =
      [other].filter missing ++ actionIds.filter missing := List.filter_append [other] actionIds
  refine ⟨?_, ?_, ?_, h'.total.trans h.total, ?_, ?_, ?_⟩
  · rw [h'.outcomes, h.outcomes, List.append_assoc, List.singleton_append]
  · rw [List.map_cons, h'.requested]
    exact congrArg (· ++ actionIds) h.requested
  · rw [h'.notFound, h.notFound, List.append_assoc, ← hfilter]
  · rw [h'.succeeded, h.succeeded, Nat.add_assoc, ← List.countP_append, List.singleton_append]
  · rw [h'.failed, h.failed, Nat.add_assoc, ← List.countP_append, List.singleton_append]
  · rw [h'.counted, h.counted, hfilter, List.length_append, Nat.add_assoc]

end Counted

section Passes

variable {rule : ItemRule} {config : CompensationConfig} {faults : Nat → TxFaults}
  {item : ItemHandler} {s next : ActionStorage} {n : Nat} {actionId : Uuid}

/-- An item adds one outcome, and lists an identifier that is not stored. -/
theorem itemStep_counted (item : ItemHandler) (missing : String) (n : Nat) (actionId : Uuid)
    (s : ActionStorage) (response : BatchOrchestrationResponse) :
    ∃ o, Counted (isMissing s) [actionId] response
      ((itemStep item missing n actionId s).1 response) [o] := by
  rw [itemStep]
  by_cases hmissing : ∃ id, s.get actionId = .error (.compensationActionNotFound id)
  · obtain ⟨id, hget⟩ := hmissing
    rw [hget]
    exact Counted.addNotFound _ (by rw [isMissing, hget]) missing
  · have hfound : isMissing s actionId = false := by
      rw [isMissing]
      split
      · next hget => exact absurd ⟨_, hget⟩ hmissing
      · rfl
    cases hget : s.get actionId with
    | error e =>
      cases e
      case compensationActionNotFound id => exact absurd ⟨id, hget⟩ hmissing
      all_goals exact Counted.addFailed _ hfound _
    | ok action =>
      dsimp only
      rcases item n actionId action s with ⟨e | updated, after⟩
      · exact Counted.addFailed _ hfound e
      · exact Counted.addSucceeded _ hfound updated

/-- The items keep what is stored under which identifier. -/
theorem ItemRule.Step.isMissing_eq (h : rule.Step config faults s n actionId next) :
    isMissing next = isMissing s := by
  funext other
  rw [isMissing, isMissing]
  cases h with
  | kept => rfl
  | stored hstores =>
    rw [ActionStorage.get_put]
    by_cases hother : other = actionId
    · obtain ⟨action, hget, -⟩ := hstores.1
      rw [if_pos hother, hother, hget]
    · rw [if_neg hother]

theorem ItemRule.Describes.counted (hrule : rule.Describes config faults item) (missing : String)
    (actionIds : List Uuid) (n : Nat) (response : BatchOrchestrationResponse) (s : ActionStorage) :
    ∃ added, Counted (isMissing s) actionIds response
      (claimsItems item missing n actionIds response s).1 added := by
  induction actionIds generalizing n response s with
  | nil => exact ⟨[], .nil⟩
  | cons other rest ih =>
    rw [claimsItems_cons]
    obtain ⟨o, ho⟩ := itemStep_counted item missing n other s response
    obtain ⟨added, hadded⟩ := ih (n + 1) _ _
    rw [(hrule.step _ _ _ missing response).1.isMissing_eq] at hadded
    exact ⟨o :: added, ho.cons hadded⟩

/-- The requested actions that the rule allows. -/
def ItemRule.allowed (rule : ItemRule) (config : CompensationConfig) (s : ActionStorage)
    (actionIds : List Uuid) : Set Uuid :=
  {actionId | actionId ∈ actionIds ∧ rule.Allows config s actionId}

theorem ItemRule.allowed_finite (actionIds : List Uuid) :
    (rule.allowed config s actionIds).Finite :=
  actionIds.finite_toSet.subset fun _ h => h.1

/-- No step of a transaction fails. -/
def TxFaults.quiet : TxFaults := ⟨none, none, none, none, none⟩

theorem ItemRule.reports_quiet :
    rule.Reports config (fun _ => .quiet) s n actionId ↔ rule.Allows config s actionId :=
  and_iff_left fun _ => ⟨⟨rfl, rfl⟩, rfl⟩

theorem ItemRule.stores_quiet :
    rule.Stores config (fun _ => .quiet) s n actionId ↔ rule.Allows config s actionId :=
  and_iff_left fun _ => ⟨⟨rfl, Bool.and_false _, nofun⟩, rfl⟩

variable (s n actionId) in
/-- Without failures, an item succeeds exactly if the rule allows its action. -/
theorem ItemRule.Describes.step_succeeded (hrule : rule.Describes config (fun _ => .quiet) item)
    (missing : String) (response : BatchOrchestrationResponse) :
    (rule.Allows config s actionId ∧
      ((itemStep item missing n actionId s).1 response).summary.succeeded =
        response.summary.succeeded + 1) ∨
    (¬ rule.Allows config s actionId ∧
      ((itemStep item missing n actionId s).1 response).summary.succeeded =
        response.summary.succeeded) := by
  obtain ⟨-, o, ho, houtcomes⟩ := hrule.step s n actionId missing response
  obtain ⟨o', hcounted⟩ := itemStep_counted item missing n actionId s response
  obtain rfl : o = o' := by
    have happend := houtcomes.symm.trans hcounted.outcomes
    exact (List.cons.inj (List.append_cancel_left happend)).1
  rw [hcounted.succeeded]
  rcases ho.2 with ⟨hreports, hsuccess, -⟩ | ⟨hsilent, hfails⟩
  · exact .inl ⟨ItemRule.reports_quiet.mp hreports, by simp [hsuccess]⟩
  · exact .inr ⟨fun hallows => hsilent (ItemRule.reports_quiet.mpr hallows), by simp [hfails]⟩

theorem ItemRule.Describes.succeeded (hrule : rule.Describes config (fun _ => .quiet) item)
    (missing : String) (actionIds : List Uuid) (n : Nat) (response : BatchOrchestrationResponse)
    (s : ActionStorage) :
    (claimsItems item missing n actionIds response s).1.summary.succeeded =
      response.summary.succeeded + (rule.allowed config s actionIds).ncard := by
  induction actionIds generalizing n response s with
  | nil =>
    have hempty : rule.allowed config s [] = ∅ :=
      Set.eq_empty_of_forall_notMem fun _ h => nomatch h.1
    rw [claimsItems, hempty, Set.ncard_empty]
    rfl
  | cons other rest ih =>
    rw [claimsItems_cons, ih]
    have hstep := (hrule.step s n other missing response).1
    rcases hrule.step_succeeded s n other missing response with
      ⟨hallows, hcount⟩ | ⟨hnot, hcount⟩
    · have honce := (hstep.once hrule (ItemRule.stores_quiet.mpr hallows)).1
      have hinsert : rule.allowed config s (other :: rest) = insert other
          (rule.allowed config (itemStep item missing n other s).2 rest) := by
        ext actionId
        by_cases hsame : actionId = other
        · subst hsame
          exact iff_of_true ⟨List.mem_cons_self, hallows⟩ (Set.mem_insert _ _)
        · have hiff := hstep.allows_iff (hstep.frame (.inl hsame))
          simp only [ItemRule.allowed, Set.mem_ofPred_eq, Set.mem_insert_iff, List.mem_cons, hsame,
            false_or, hiff]
      rw [hinsert, Set.ncard_insert_of_notMem (fun h => honce h.2) (ItemRule.allowed_finite rest),
        hcount]
      omega
    · have hkept : ¬ rule.Stores config (fun _ => .quiet) s n other :=
        mt ItemRule.stores_quiet.mp hnot
      have hsame : rule.allowed config s (other :: rest) =
          rule.allowed config (itemStep item missing n other s).2 rest := by
        ext actionId
        have hframe : (itemStep item missing n other s).2.get actionId = s.get actionId :=
          hstep.frame (.inr hkept)
        have hiff := hstep.allows_iff hframe
        simp only [ItemRule.allowed, Set.mem_ofPred_eq, List.mem_cons, hiff]
        refine and_congr_left fun hallows => or_iff_right ?_
        rintro rfl
        exact hnot hallows
      rw [hsame, hcount]

end Passes

section Rules

/-- An item approves a pending action: in a transaction, one of the tenant. -/
def approveRule (rlsClaims : RlsTenantClaims) : ItemRule where
  mayWrite inTx _ action :=
    action.status = .pending ∧ (inTx = true → action.tenantId = rlsClaims.tenantId)
  recordsRollback := false
  writes action updated := updated.status = .approved ∧ updated.tenantId = action.tenantId

variable {config : CompensationConfig} {faults : Nat → TxFaults} {clock : Nat → DateTime}
  {initiatedBy : Option String} {rlsClaims : RlsTenantClaims} {s : ActionStorage} {n : Nat}
  {actionId : Uuid} {action : CompensationAction}

theorem approveItem_unchanged (hget : s.get actionId = .ok action)
    (h : ¬ (approveRule rlsClaims).Allows config s actionId) (e : String) :
    ∃ updated,
      (approveRule rlsClaims).Outcome config faults s n actionId (.error e, s) updated := by
  refine ⟨{ action with status := .approved }, .unchanged h ?_ e⟩
  exact ⟨action, hget, rfl, rfl⟩

theorem approveItem_describes (config : CompensationConfig) (faults : Nat → TxFaults)
    (clock : Nat → DateTime) (initiatedBy : Option String) (rlsClaims : RlsTenantClaims) :
    (approveRule rlsClaims).Describes config faults
      (approveItem config faults clock initiatedBy rlsClaims) where
  outcome s n actionId action hget := by
    rw [approveItem]
    have hallowed : (action.status.canTransitionTo .approved).allowed = true ↔
        action.status = .pending := by
      cases action.status <;> simp [CompensationStatus.canTransitionTo]
    by_cases hpending : action.status = .pending
    swap
    · rw [if_pos (by simpa using mt hallowed.mp hpending)]
      exact approveItem_unchanged hget
        (fun hallows => hpending ((ItemRule.allows_iff hget).mp hallows).1) _
    rw [if_neg (by simpa using hallowed.mpr hpending)]
    cases htable : rlsTable config s with
    | none =>
      have hallows : (approveRule rlsClaims).Allows config s actionId :=
        (ItemRule.allows_iff hget).mpr ⟨hpending, by simp [htable]⟩
      have hwritten := s.statusWritten_from (clock n) .approved initiatedBy none action
      have hcheck := (action.checkTransition_ok (u := ()) (.inl rfl)).mpr hpending
      dsimp only
      rw [ActionStorage.approveAction, hget]
      dsimp only
      rw [hcheck]
      dsimp only
      rw [ActionStorage.updateStatus_eq hget, if_pos rfl]
      exact ⟨_, ItemRule.Outcome.ofService hallows htable
        ⟨action, hget, hwritten.2, hwritten.1.tenantId⟩⟩
    | some table =>
      obtain rfl := rlsTable_eq_some htable
      have hallows : (approveRule rlsClaims).Allows config (.sqlx table) actionId ↔
          action.tenantId = rlsClaims.tenantId := by
        rw [ItemRule.allows_iff hget]
        simp [approveRule, hpending, htable]
      have hset := setStatus_ofAction (clock n) .approved initiatedBy none action
      have houtcome := withTenant_write (updateLockedWithTx_scoped (ActionStorage.sqlx_get_ok hget)
        rlsClaims.tenantId (faults n).updateFault "update compensation action status"
        action.lockVersion hset) rlsClaims.notNil (faults n)
      exact ⟨_, ItemRule.Outcome.ofTx (approveRule rlsClaims) houtcome
        (by rw [hallows]; simp [and_comm]) htable ⟨action, hget, rfl, rfl⟩ RlsFailure.batchText⟩
  owner _ _ hwrites := hwrites.2
  once _ _ action updated hwrites hmay := by cases hwrites.1.symm.trans hmay.1

end Rules

section Service

/-- The service's operation on an item of its batch, which is of the tenant. -/
def serviceItem (call : ActionStorage.ItemCall) (clock : Nat → DateTime) (tenantId : Uuid) :
    ItemHandler := fun n actionId action s =>
  if action.tenantId ≠ tenantId then (.error "Action not found or access denied", s)
  else (call (clock n) actionId action s).map (.mapError IntentRebaseError.display) id

/-- The configuration in which every path is the service's. -/
def CompensationConfig.withoutPool (config : CompensationConfig) : CompensationConfig :=
  { config with rlsPool := false }

theorem rlsTable_withoutPool (config : CompensationConfig) (s : ActionStorage) :
    rlsTable config.withoutPool s = none := by
  cases s <;> rfl

/-- The service approves the pending actions of the tenant. -/
def serviceApproveRule (tenantId : Uuid) : ItemRule where
  mayWrite _ _ action := action.tenantId = tenantId ∧ action.status = .pending
  recordsRollback := false
  writes action updated := updated.status = .approved ∧ updated.tenantId = action.tenantId

/-- The service reapproves the actions of the tenant whose gates are open. -/
def serviceReapproveRule (tenantId : Uuid) : ItemRule where
  mayWrite _ _ action := action.tenantId = tenantId ∧ action.GatesOpen
  recordsRollback := false
  writes action updated := updated = reapproved action

/-- A handler of the service is described by what its call does with the actions of the tenant. -/
theorem serviceItem_describes {rule : ItemRule} {call : ActionStorage.ItemCall}
    {clock : Nat → DateTime} {tenantId : Uuid} {config : CompensationConfig}
    {faults : Nat → TxFaults}
    (hown : ∀ action actionId inTx, rule.mayWrite inTx actionId action →
      action.tenantId = tenantId)
    (hversion : ∀ action, ∃ updated, rule.writes action updated)
    (hcall : ∀ s n actionId action, s.get actionId = .ok action → action.tenantId = tenantId →
      ∃ updated, rule.Outcome config faults s n actionId
        ((call (clock n) actionId action s).map (.mapError IntentRebaseError.display) id) updated)
    (howner : ∀ action updated, rule.writes action updated → updated.tenantId = action.tenantId)
    (honce : ∀ inTx actionId action updated, rule.writes action updated →
      ¬ rule.mayWrite inTx actionId updated) :
    rule.Describes config faults (serviceItem call clock tenantId) where
  outcome s n actionId action hget := by
    rw [serviceItem]
    by_cases htenant : action.tenantId = tenantId
    · rw [if_neg (not_not.mpr htenant)]
      exact hcall s n actionId action hget htenant
    · rw [if_pos htenant]
      obtain ⟨updated, hwrites⟩ := hversion action
      have hnot : ¬ rule.Allows config s actionId := fun hallows =>
        htenant (hown _ _ _ ((ItemRule.allows_iff hget).mp hallows))
      exact ⟨updated, .unchanged hnot ⟨action, hget, hwrites⟩ _⟩
  owner := howner
  once := honce

variable (config : CompensationConfig) (faults : Nat → TxFaults) (clock : Nat → DateTime)
  (initiatedBy : Option String) (tenantId : Uuid)

theorem serviceApprove_describes :
    (serviceApproveRule tenantId).Describes config.withoutPool faults
      (serviceItem (fun now actionId action s =>
        s.approveAction now actionId action.lockVersion initiatedBy) clock tenantId) := by
  refine serviceItem_describes (fun _ _ _ hmay => hmay.1)
    (fun action => ⟨{ action with status := .approved }, rfl, rfl⟩) ?_
    (fun _ _ hwrites => hwrites.2) ?_
  · intro s n actionId action hget htenant
    rw [ActionStorage.approveAction, hget]
    dsimp only
    cases hcheck : action.checkTransition .approved with
    | error e =>
      have hnot : ¬ (serviceApproveRule tenantId).Allows config.withoutPool s actionId := by
        intro hallows
        have hpending := ((ItemRule.allows_iff hget).mp hallows).2
        cases hcheck.symm.trans ((action.checkTransition_ok (u := ()) (.inl rfl)).mpr hpending)
      have hversion : (serviceApproveRule tenantId).VersionOf s actionId
          { action with status := .approved } := ⟨action, hget, rfl, rfl⟩
      exact ⟨_, .unchanged hnot hversion e.display⟩
    | ok _ =>
      have hpending := (action.checkTransition_ok (.inl rfl)).mp hcheck
      have hallows : (serviceApproveRule tenantId).Allows config.withoutPool s actionId :=
        (ItemRule.allows_iff hget).mpr ⟨htenant, hpending⟩
      have hwritten := s.statusWritten_from (clock n) .approved initiatedBy none action
      dsimp only
      rw [ActionStorage.updateStatus_eq hget, if_pos rfl]
      exact ⟨_, ItemRule.Outcome.ofService hallows (rlsTable_withoutPool config s)
        ⟨action, hget, hwritten.2, hwritten.1.tenantId⟩⟩
  · intro _ _ action updated hwrites hmay
    cases hwrites.1.symm.trans hmay.2

theorem serviceReapprove_describes :
    (serviceReapproveRule tenantId).Describes config.withoutPool faults
      (serviceItem (fun _ actionId action s => s.reapproveAction actionId action.lockVersion)
        clock tenantId) := by
  refine serviceItem_describes (fun _ _ _ hmay => hmay.1) (fun action => ⟨reapproved action, rfl⟩) ?_
    (fun _ _ hwrites => hwrites ▸ rfl) ?_
  · intro s n actionId action hget htenant
    rw [ActionStorage.reapproveAction, hget]
    dsimp only
    have hgates : action.checkReapprovable actionId = .ok () ↔ action.GatesOpen :=
      (action.checkReapprovable_ok actionId).trans CompensationAction.canBeReapproved_iff
    cases hcheck : action.checkReapprovable actionId with
    | error e =>
      have hnot : ¬ (serviceReapproveRule tenantId).Allows config.withoutPool s actionId := by
        intro hallows
        have hopen := ((ItemRule.allows_iff hget).mp hallows).2
        cases hcheck.symm.trans (hgates.mpr hopen)
      exact ⟨_, .unchanged hnot ⟨action, hget, rfl⟩ e.display⟩
    | ok _ =>
      have hopen := hgates.mp hcheck
      have hallows : (serviceReapproveRule tenantId).Allows config.withoutPool s actionId :=
        (ItemRule.allows_iff hget).mpr ⟨htenant, hopen⟩
      rcases ActionStorage.reapprove_cases hget action.lockVersion with
        ⟨-, -, hanswer⟩ | ⟨hnot, -⟩
      · dsimp only
        rw [hanswer]
        exact ⟨_, ItemRule.Outcome.ofService hallows (rlsTable_withoutPool config s)
          ⟨action, hget, rfl⟩⟩
      · exact absurd ⟨rfl, hopen.failed⟩ hnot
  · intro _ _ action updated hwrites hmay
    have hpending : updated.status = .pending := hwrites ▸ rfl
    cases hpending.symm.trans hmay.2.failed

theorem serviceExecute_describes :
    (executeRule config.withoutPool tenantId).Describes config.withoutPool faults
      (serviceItem (fun now actionId _ s =>
        s.executeAction config.sideEffectRepo now actionId initiatedBy) clock tenantId) := by
  refine serviceItem_describes (fun _ _ _ hmay => hmay.1) (fun action => ?_) ?_
    (fun _ _ hwrites => hwrites.2.2) (executeRule_once config.withoutPool tenantId)
  · exact ⟨{ action with
      status := executedStatus config.sideEffectRepo action
      lockVersion := action.lockVersion + 1 }, rfl, rfl, rfl⟩
  · intro s n actionId action hget htenant
    exact executeAction_outcome config.withoutPool hget htenant
      (rlsTable_withoutPool config s)

end Service

section ServicePass

section Mapped

variable (batch : BatchOrchestrationResult) (actionId : Uuid)

theorem map_addFailed (e : IntentRebaseError) :
    mapBatchResultToResponse (batch.addFailed actionId e) =
      (mapBatchResultToResponse batch).addFailed actionId e.display := by
  simp [mapBatchResultToResponse, BatchOrchestrationResult.addFailed,
    BatchOrchestrationResponse.addFailed, Except.toOption]

theorem map_addNotFound (reason : String) :
    mapBatchResultToResponse (batch.addNotFound actionId reason) =
      (mapBatchResultToResponse batch).addNotFound actionId reason := by
  simp [mapBatchResultToResponse, BatchOrchestrationResult.addNotFound,
    BatchOrchestrationResponse.addNotFound, BatchOrchestrationResponse.addFailed, Except.toOption]

theorem map_addSucceeded (updated : CompensationAction) :
    mapBatchResultToResponse (batch.addSucceeded actionId updated) =
      (mapBatchResultToResponse batch).addSucceeded actionId updated := by
  simp [mapBatchResultToResponse, BatchOrchestrationResult.addSucceeded,
    BatchOrchestrationResponse.addSucceeded, Except.toOption]

end Mapped

/-- No action of the tenant is stored under the identifier. -/
def isHidden (s : ActionStorage) (tenantId actionId : Uuid) : Bool :=
  match s.get actionId with
  | .ok action => action.tenantId ≠ tenantId
  | .error (.compensationActionNotFound _) => true
  | .error _ => false

variable {rule : ItemRule} {config : CompensationConfig} {faults : Nat → TxFaults}
  {item : ItemHandler} {call : ActionStorage.ItemCall} {clock : Nat → DateTime} {tenantId : Uuid}
  {s next : ActionStorage} {n : Nat} {actionId : Uuid}

theorem ItemRule.Step.isHidden_eq (hrule : rule.Describes config faults item)
    (h : rule.Step config faults s n actionId next) (tenantId : Uuid) :
    isHidden next tenantId = isHidden s tenantId := by
  funext other
  rw [isHidden, isHidden]
  cases h with
  | kept => rfl
  | stored _ hversion =>
    rw [ActionStorage.get_put]
    by_cases hother : other = actionId
    · obtain ⟨action, hget, hwrites⟩ := hversion
      rw [if_pos hother, hother, hget]
      dsimp only
      rw [hrule.owner _ _ hwrites]
    · rw [if_neg hother]

theorem ItemRule.Step.validated {rlsClaims : RlsTenantClaims} {actionIds : List Uuid}
    (hrule : rule.Describes config faults item)
    (h : rule.Step config faults s n actionId next) (hvalid : Validated rlsClaims s actionIds) :
    Validated rlsClaims next actionIds := by
  intro other hmem
  cases h with
  | kept => exact hvalid other hmem
  | @stored updated _ hversion =>
    rw [ActionStorage.get_put]
    by_cases hother : other = actionId
    · obtain ⟨action, hget, hwrites⟩ := hversion
      rw [if_pos hother]
      refine .inr ⟨updated, rfl, (hrule.owner _ _ hwrites).trans ?_⟩
      rcases hvalid other hmem with ⟨id, hmissing⟩ | ⟨action', hget', howner⟩
      · cases (hother ▸ hmissing).symm.trans hget
      · cases (hother ▸ hget').symm.trans hget
        exact howner
    · rw [if_neg hother]
      exact hvalid other hmem

/-- What the handler of the service's items does with an action of the tenant. -/
theorem itemStep_serviceItem {action : CompensationAction} (hget : s.get actionId = .ok action)
    (htenant : action.tenantId = tenantId) (missing : String) :
    itemStep (serviceItem call clock tenantId) missing n actionId s =
      match call (clock n) actionId action s with
      | (.ok updated, after) => ((·.addSucceeded actionId updated), after)
      | (.error e, after) => ((·.addFailed actionId e.display), after) := by
  rw [itemStep, hget]
  dsimp only
  rw [serviceItem, if_neg (not_not.mpr htenant)]
  rcases call (clock n) actionId action s with ⟨_ | _, _⟩ <;> rfl

/-- A batch of the service that answers lists the identifiers that are hidden from the tenant. -/
theorem batchItems_counted
    (hrule : rule.Describes config faults (serviceItem call clock tenantId))
    (actionIds : List Uuid) (n : Nat) (batch : BatchOrchestrationResult) (s : ActionStorage)
    {result : BatchOrchestrationResult}
    (h : (ActionStorage.batchItems call clock tenantId n actionIds batch s).1 = .ok result) :
    ∃ added, Counted (isHidden s tenantId) actionIds (mapBatchResultToResponse batch)
      (mapBatchResultToResponse result) added := by
  induction actionIds generalizing n batch s with
  | nil =>
    cases h
    exact ⟨[], .nil⟩
  | cons actionId rest ih =>
    rw [ActionStorage.batchItems] at h
    cases hget : s.get actionId with
    | error e =>
      rw [hget] at h
      cases e
      case compensationActionNotFound id =>
        have hmissing : isHidden s tenantId actionId = true := by rw [isHidden, hget]
        obtain ⟨o, ho⟩ := Counted.addNotFound (mapBatchResultToResponse batch) hmissing
          "Compensation action not found"
        obtain ⟨added, hadded⟩ := ih (n + 1) _ s h
        rw [map_addNotFound] at hadded
        exact ⟨o :: added, ho.cons hadded⟩
      all_goals cases h
    | ok action =>
      rw [hget] at h
      dsimp only at h
      by_cases htenant : action.tenantId = tenantId
      · rw [if_neg (not_not.mpr htenant)] at h
        have hfound : isHidden s tenantId actionId = false := by
          rw [isHidden, hget]
          simpa using htenant
        have hsame := ((hrule.step s n actionId ""
          (mapBatchResultToResponse batch)).1).isHidden_eq hrule tenantId
        rw [itemStep_serviceItem hget htenant] at hsame
        rcases hanswer : call (clock n) actionId action s with ⟨e | updated, after⟩ <;>
          rw [hanswer] at h hsame
        · obtain ⟨o, ho⟩ := Counted.addFailed (mapBatchResultToResponse batch) hfound
            e.display
          obtain ⟨added, hadded⟩ := ih (n + 1) _ after h
          rw [map_addFailed, hsame] at hadded
          exact ⟨o :: added, ho.cons hadded⟩
        · obtain ⟨o, ho⟩ := Counted.addSucceeded (mapBatchResultToResponse batch) hfound
            updated
          obtain ⟨added, hadded⟩ := ih (n + 1) _ after h
          rw [map_addSucceeded, hsame] at hadded
          exact ⟨o :: added, ho.cons hadded⟩
      · rw [if_pos htenant] at h
        have hmissing : isHidden s tenantId actionId = true := by
          rw [isHidden, hget]
          simpa using htenant
        obtain ⟨o, ho⟩ := Counted.addNotFound (mapBatchResultToResponse batch) hmissing
          "Action not found or access denied"
        obtain ⟨added, hadded⟩ := ih (n + 1) _ s h
        rw [map_addNotFound] at hadded
        exact ⟨o :: added, ho.cons hadded⟩

/-- On actions of the tenant, a batch of the service is a pass of its handler. -/
theorem batchItems_claimsItems {rlsClaims : RlsTenantClaims}
    (hrule : rule.Describes config faults (serviceItem call clock rlsClaims.tenantId))
    (actionIds : List Uuid) (n : Nat) (batch : BatchOrchestrationResult) (s : ActionStorage)
    (hvalid : Validated rlsClaims s actionIds) :
    ∃ result, (ActionStorage.batchItems call clock rlsClaims.tenantId n actionIds batch s).1 =
        .ok result ∧
      mapBatchResultToResponse result = (claimsItems (serviceItem call clock rlsClaims.tenantId)
        "Compensation action not found" n actionIds (mapBatchResultToResponse batch) s).1 := by
  induction actionIds generalizing n batch s with
  | nil => exact ⟨batch, rfl, rfl⟩
  | cons actionId rest ih =>
    have hrest : Validated rlsClaims s rest :=
      fun other hmem => hvalid other (List.mem_cons_of_mem _ hmem)
    rw [ActionStorage.batchItems, claimsItems_cons]
    rcases hvalid actionId List.mem_cons_self with ⟨id, hget⟩ | ⟨action, hget, htenant⟩
    · rw [itemStep, hget]
      dsimp only
      rw [← map_addNotFound]
      exact ih (n + 1) _ s hrest
    · have hstep := (hrule.step s n actionId
        "Compensation action not found" (mapBatchResultToResponse batch)).1
      rw [hget]
      dsimp only
      rw [if_neg (not_not.mpr htenant)]
      have hafter := hstep.validated hrule hrest
      rw [itemStep_serviceItem hget htenant] at hafter ⊢
      rcases hanswer : call (clock n) actionId action s with ⟨e | updated, after⟩ <;>
        rw [hanswer] at hafter
      · dsimp only
        rw [← map_addFailed]
        exact ih (n + 1) _ after hafter
      · dsimp only
        rw [← map_addSucceeded]
        exact ih (n + 1) _ after hafter

end ServicePass

section Operations

/-- The operations of the batch handlers. -/
inductive BatchOperation where
  | approve | reapprove | execute

variable (op : BatchOperation) (config : CompensationConfig) (faults : Nat → TxFaults)
  (clock : Nat → DateTime) (initiatedBy : Option String) (claims : Option RlsTenantClaims)
  (rlsClaims : RlsTenantClaims) (tenantId : Uuid) (actionIds : List Uuid) (s : ActionStorage)

namespace BatchOperation

def run : Except IntentRebaseError BatchOrchestrationResponse × ActionStorage :=
  match op with
  | approve =>
    batchApproveCompensationActions config faults clock initiatedBy claims tenantId actionIds s
  | reapprove => batchReapproveCompensationActions config faults clock claims tenantId actionIds s
  | execute =>
    batchExecuteCompensationActions config faults clock initiatedBy claims tenantId actionIds s

/-- The items of a batch with claims, and how they are described. -/
def item : ItemHandler :=
  match op with
  | approve => approveItem config faults clock initiatedBy rlsClaims
  | reapprove => reapproveItem config faults rlsClaims
  | execute => executeItem config faults clock initiatedBy rlsClaims

def rule : ItemRule :=
  match op with
  | approve => approveRule rlsClaims
  | reapprove => reapproveRule rlsClaims
  | execute => executeRule config rlsClaims.tenantId

/-- The items of a batch of the service, and how they are described. -/
def call : ActionStorage.ItemCall :=
  match op with
  | approve => fun now actionId action s =>
    s.approveAction now actionId action.lockVersion initiatedBy
  | reapprove => fun _ actionId action s => s.reapproveAction actionId action.lockVersion
  | execute => fun now actionId _ s =>
    s.executeAction config.sideEffectRepo now actionId initiatedBy

def serviceRule : ItemRule :=
  match op with
  | approve => serviceApproveRule tenantId
  | reapprove => serviceReapproveRule tenantId
  | execute => executeRule config.withoutPool tenantId

theorem item_describes : (op.rule config rlsClaims).Describes config faults
    (op.item config faults clock initiatedBy rlsClaims) := by
  cases op with
  | approve => exact approveItem_describes config faults clock initiatedBy rlsClaims
  | reapprove => exact reapproveItem_describes config faults rlsClaims
  | execute => exact executeItem_describes config faults clock initiatedBy rlsClaims

theorem call_describes : (op.serviceRule config tenantId).Describes config.withoutPool faults
    (serviceItem (op.call config initiatedBy) clock tenantId) := by
  cases op with
  | approve => exact serviceApprove_describes config faults clock initiatedBy tenantId
  | reapprove => exact serviceReapprove_describes config faults clock tenantId
  | execute => exact serviceExecute_describes config faults clock initiatedBy tenantId

theorem run_service : op.run config faults clock initiatedBy none tenantId actionIds s =
    serviceBatch (ActionStorage.batchItems (op.call config initiatedBy) clock tenantId 0 actionIds
      (.start actionIds)) s := by
  cases op <;> rfl

/-- The identifiers that the answer of a batch with claims lists before its first item. -/
def prelisted : List Uuid :=
  match op with
  | approve | reapprove => missingIds s actionIds
  | execute => []

/-- What the answer of a batch with claims is made of after its last item. -/
def finish : BatchOrchestrationResponse → BatchOrchestrationResponse :=
  match op with
  | approve | reapprove => BatchOrchestrationResponse.countNotFound
  | execute => id

def missingText : String :=
  match op with
  | approve | reapprove => "Action not found"
  | execute => "Compensation action not found"

/-- The answer of a batch with claims that is not rejected. -/
def answer : BatchOrchestrationResponse :=
  op.finish (claimsItems (op.item config faults clock initiatedBy rlsClaims) op.missingText 0
    actionIds (.start actionIds (op.prelisted actionIds s)) s).1

theorem run_claims (h : Validated rlsClaims s actionIds ∨ op = execute) :
    (op.run config faults clock initiatedBy (some rlsClaims) tenantId actionIds s).1 =
      .ok (op.answer config faults clock initiatedBy rlsClaims actionIds s) := by
  have hpre (h : Validated rlsClaims s actionIds) : preValidateBatchActionTenants rlsClaims s
      actionIds = .ok (missingIds s actionIds) := by
    rcases preValidate_cases rlsClaims s actionIds with
      ⟨-, hok⟩ | ⟨hinvalid, -⟩
    · exact hok
    · exact absurd h hinvalid
  cases op with
  | approve =>
    have hvalid := h.resolve_right fun h => (by cases h)
    rw [run, batchApproveCompensationActions, preValidatedBatch, hpre hvalid]
    rfl
  | reapprove =>
    have hvalid := h.resolve_right fun h => (by cases h)
    rw [run, batchReapproveCompensationActions, preValidatedBatch, hpre hvalid]
    rfl
  | execute => rfl

theorem run_claims_rejected (h : ¬ (Validated rlsClaims s actionIds ∨ op = execute)) :
    ∃ e, (op.run config faults clock initiatedBy (some rlsClaims) tenantId actionIds s).1 =
      .error e := by
  rcases preValidate_cases rlsClaims s actionIds with
    ⟨hvalid, -⟩ | ⟨-, e, herror⟩
  · exact absurd (.inl hvalid) h
  · cases op with
    | approve =>
      rw [run, batchApproveCompensationActions, preValidatedBatch, herror]
      exact ⟨e, rfl⟩
    | reapprove =>
      rw [run, batchReapproveCompensationActions, preValidatedBatch, herror]
      exact ⟨e, rfl⟩
    | execute => exact absurd (.inr rfl) h

end BatchOperation

/-- The answer accounts for each requested identifier, with the given ones as not found. -/
structure BatchAccounted (actionIds notFound : List Uuid) (response : BatchOrchestrationResponse) :
    Prop where
  requested : response.outcomes.map BatchItemOutcomeResponse.actionId = actionIds
  total : response.summary.total = actionIds.length
  sum : response.summary.succeeded + response.summary.failed = response.summary.total
  notFound : response.notFound = notFound
  counted : response.summary.notFound = response.notFound.length

/-- Two answers that account for the same identifiers differ only in what succeeds. -/
theorem BatchAccounted.same {actionIds notFound : List Uuid}
    {response response' : BatchOrchestrationResponse}
    (h : BatchAccounted actionIds notFound response)
    (h' : BatchAccounted actionIds notFound response')
    (hsucceeded : response.summary.succeeded = response'.summary.succeeded) :
    response.notFound = response'.notFound ∧ response.summary = response'.summary := by
  have hlisted : response.notFound = response'.notFound := h.notFound.trans h'.notFound.symm
  have hcounted := h.counted
  have hcounted' := h'.counted
  rw [← hlisted] at hcounted'
  refine ⟨hlisted, ?_⟩
  have htotal := h.total
  have htotal' := h'.total
  have hsum := h.sum
  have hsum' := h'.sum
  revert hcounted hcounted' htotal htotal' hsum hsum' hsucceeded
  cases response.summary
  cases response'.summary
  dsimp only
  intros
  congr 1 <;> omega

/-- A pass that starts from an empty answer accounts for its items. -/
theorem Counted.accounted {missing : Uuid → Bool} {actionIds : List Uuid} (listed : List Uuid)
    {result : BatchOrchestrationResponse} {added : List BatchItemOutcomeResponse}
    (h : Counted missing actionIds (.start actionIds listed) result added) :
    result.outcomes.map BatchItemOutcomeResponse.actionId = actionIds ∧
      result.summary.total = actionIds.length ∧
      result.summary.succeeded + result.summary.failed = result.summary.total := by
  refine ⟨by rw [h.outcomes]; exact h.requested, h.total, ?_⟩
  have hlength := List.length_eq_countP_add_countP BatchItemOutcomeResponse.success (l := added)
  have hadded : added.length = actionIds.length := by rw [← h.requested, List.length_map]
  have htotal : result.summary.total = actionIds.length := h.total
  have hsucceeded := h.succeeded
  have hfailed := h.failed
  simp only [BatchOrchestrationResponse.start, Nat.zero_add] at hsucceeded hfailed
  simp only [Bool.not_eq_true, ← Bool.not_eq_true'] at hlength
  rw [htotal, ← hadded, hlength, hsucceeded, hfailed]
  simp

namespace BatchOperation

/-- What the answer with claims lists and counts as not found. -/
theorem answer_counted :
    BatchAccounted actionIds (op.prelisted actionIds s ++ missingIds s actionIds)
      (op.answer config faults clock initiatedBy rlsClaims actionIds s) := by
  obtain ⟨added, hcounted⟩ := (op.item_describes config faults clock initiatedBy rlsClaims).counted
    op.missingText actionIds 0 (.start actionIds (op.prelisted actionIds s)) s
  obtain ⟨hrequested, htotal, hsum⟩ := hcounted.accounted
  rw [answer]
  generalize claimsItems (op.item config faults clock initiatedBy rlsClaims) op.missingText 0
    actionIds (.start actionIds (op.prelisted actionIds s)) s = run at *
  cases op with
  | approve | reapprove => exact ⟨hrequested, htotal, hsum, hcounted.notFound, rfl⟩
  | execute =>
    refine ⟨hrequested, htotal, hsum, hcounted.notFound, ?_⟩
    have hlength := hcounted.counted
    rw [BatchOrchestrationResponse.start, Nat.zero_add] at hlength
    refine hlength.trans ?_
    exact (congrArg List.length hcounted.notFound).symm

theorem answer_succeeded :
    (op.answer config (fun _ => .quiet) clock initiatedBy rlsClaims actionIds s).summary.succeeded =
      ((op.rule config rlsClaims).allowed config s actionIds).ncard := by
  have hsucceeded := (op.item_describes config (fun _ => .quiet) clock initiatedBy rlsClaims)
    |>.succeeded op.missingText actionIds 0 (.start actionIds (op.prelisted actionIds s)) s
  rw [BatchOrchestrationResponse.start, Nat.zero_add] at hsucceeded
  rw [← hsucceeded, answer]
  cases op <;> rfl

/-- A batch of the service that answers accounts for its items. -/
theorem service_counted {response : BatchOrchestrationResponse}
    (h : (op.run config faults clock initiatedBy none tenantId actionIds s).1 =
      .ok response) :
    BatchAccounted actionIds (actionIds.filter (isHidden s tenantId)) response := by
  rw [run_service, serviceBatch] at h
  cases hresult : (ActionStorage.batchItems (op.call config initiatedBy) clock tenantId 0
      actionIds (.start actionIds) s).1 with
  | error e =>
    dsimp only [Prod.map] at h
    rw [hresult] at h
    cases h
  | ok result =>
    dsimp only [Prod.map] at h
    rw [hresult] at h
    cases h
    obtain ⟨added, hcounted⟩ := batchItems_counted (op.call_describes config faults clock
      initiatedBy tenantId) actionIds 0 (.start actionIds) s hresult
    obtain ⟨hrequested, htotal, hsum⟩ := Counted.accounted [] hcounted
    refine ⟨hrequested, htotal, hsum, hcounted.notFound, ?_⟩
    have hlength := hcounted.counted
    rw [hcounted.notFound]
    exact hlength.trans (Nat.zero_add _)

/-- On actions of the tenant, the service answers and succeeds as its rule allows. -/
theorem service_succeeded (hvalid : Validated rlsClaims s actionIds) :
    ∃ response, (op.run config faults clock initiatedBy none rlsClaims.tenantId actionIds s).1 =
        .ok response ∧
      response.notFound = missingIds s actionIds ∧
      response.summary.succeeded =
        ((op.serviceRule config rlsClaims.tenantId).allowed config.withoutPool s
          actionIds).ncard := by
  have hdescribes := op.call_describes config (fun _ => .quiet) clock initiatedBy
    rlsClaims.tenantId
  obtain ⟨result, hresult, hmapped⟩ := batchItems_claimsItems hdescribes actionIds 0
    (.start actionIds) s hvalid
  refine ⟨mapBatchResultToResponse result, ?_, ?_, ?_⟩
  · rw [run_service, serviceBatch]
    dsimp only [Prod.map]
    rw [hresult]
    rfl
  · obtain ⟨added, hcounted⟩ := hdescribes.counted "Compensation action not found" actionIds 0
      (mapBatchResultToResponse (.start actionIds)) s
    rw [hmapped, hcounted.notFound]
    rfl
  · rw [hmapped, hdescribes.succeeded]
    exact Nat.zero_add _

/-- Some requested action is one that only one of the two paths lets succeed. -/
def Diverges : Prop :=
  (rlsTable config s).isSome ∧
    match op with
    | approve => False
    | reapprove => ∃ actionId ∈ actionIds, ∃ action, s.get actionId = .ok action ∧
        action.status = .failed ∧ ¬ action.GatesOpen
    | execute => config.sideEffectRepo = none ∧ ∃ actionId ∈ actionIds, ∃ action,
        s.get actionId = .ok action ∧ action.checkExecutable actionId = .ok ()

theorem ncard_eq_iff_of_subset {a b : Set Uuid} (h : a ⊆ b) (hfinite : b.Finite) :
    a.ncard = b.ncard ↔ ¬ ∃ x ∈ b, x ∉ a := by
  constructor
  · rintro hcard ⟨x, hb, ha⟩
    rw [Set.eq_of_subset_of_ncard_le h hcard.ge hfinite] at ha
    exact ha hb
  · intro hnone
    have hsub : b ⊆ a := fun x hb => by
      by_contra ha
      exact hnone ⟨x, hb, ha⟩
    rw [hsub.antisymm h]

theorem allowed_ncard_iff (hvalid : Validated rlsClaims s actionIds) :
    ((op.rule config rlsClaims).allowed config s actionIds).ncard =
        ((op.serviceRule config rlsClaims.tenantId).allowed config.withoutPool s actionIds).ncard ↔
      ¬ op.Diverges config actionIds s := by
  have howner {actionId : Uuid} {action : CompensationAction} (hmem : actionId ∈ actionIds)
      (hget : s.get actionId = .ok action) : action.tenantId = rlsClaims.tenantId := by
    rcases hvalid actionId hmem with ⟨id, hmissing⟩ | ⟨action', hget', howner⟩
    · cases hmissing.symm.trans hget
    · cases hget'.symm.trans hget
      exact howner
  have hpool : (rlsTable config.withoutPool s).isSome = false := by
    rw [rlsTable_withoutPool]
    rfl
  cases op with
  | approve =>
    refine iff_of_true (congrArg Set.ncard (Set.ext fun actionId => ?_)) fun h => h.2
    refine and_congr_right fun hmem => exists_congr fun action => and_congr_right fun hget => ?_
    simp [rule, serviceRule, approveRule, serviceApproveRule, howner hmem hget]
  | reapprove =>
    rw [eq_comm, ncard_eq_iff_of_subset _ (ItemRule.allowed_finite actionIds), not_iff_not]
    · constructor
      · rintro ⟨actionId, ⟨hmem, action, hget, hfailed, -, hgates⟩, hnot⟩
        have hshut : ¬ action.GatesOpen := fun hopen =>
          hnot ⟨hmem, action, hget, howner hmem hget, hopen⟩
        refine ⟨?_, actionId, hmem, action, hget, hfailed, hshut⟩
        by_contra htable
        exact hshut (hgates (by simpa using htable))
      · rintro ⟨htable, actionId, hmem, action, hget, hfailed, hshut⟩
        refine ⟨actionId, ⟨hmem, action, hget, hfailed, fun _ => howner hmem hget, ?_⟩, ?_⟩
        · simp [htable]
        · rintro ⟨-, action', hget', -, hopen⟩
          cases hget.symm.trans hget'
          exact hshut hopen
    · rintro actionId ⟨hmem, action, hget, htenant, hopen⟩
      exact ⟨hmem, action, hget, hopen.failed, fun _ => htenant, fun _ => hopen⟩
  | execute =>
    rw [ncard_eq_iff_of_subset _ (ItemRule.allowed_finite actionIds), not_iff_not]
    · constructor
      · rintro ⟨actionId, ⟨hmem, action, hget, htenant, hcheck, -⟩, hnot⟩
        have hblocked : ¬ ((rlsTable config s).isSome = true → config.sideEffectRepo.isSome) :=
          fun hrepo => hnot ⟨hmem, action, hget, htenant, hcheck, hrepo⟩
        obtain ⟨htable, hrepo⟩ := Classical.not_imp.mp hblocked
        exact ⟨htable, by simpa using hrepo, actionId, hmem, action, hget, hcheck⟩
      · rintro ⟨htable, hrepo, actionId, hmem, action, hget, hcheck⟩
        refine ⟨actionId, ⟨hmem, action, hget, howner hmem hget, hcheck, by simp [hpool]⟩, ?_⟩
        rintro ⟨-, action', -, -, -, hsome⟩
        have hsome := hsome htable
        rw [hrepo] at hsome
        cases hsome
    · rintro actionId ⟨hmem, action, hget, htenant, hcheck, -⟩
      exact ⟨hmem, action, hget, htenant, hcheck, by simp [hpool]⟩

end BatchOperation

/-- The answers of a batch are accounted for, with claims and without, and on actions of the
tenant, without failures, the two paths list and count the same. -/
structure CountsAlike : Prop where
  claims : ∀ response, (op.run config faults clock initiatedBy (some rlsClaims) tenantId actionIds
    s).1 = .ok response → BatchAccounted actionIds (missingIds s actionIds) response
  service : ∀ response, (op.run config faults clock initiatedBy none tenantId actionIds s).1 =
    .ok response → BatchAccounted actionIds (actionIds.filter (isHidden s tenantId)) response
  same : Validated rlsClaims s actionIds → ∀ response response',
    (op.run config (fun _ => .quiet) clock initiatedBy (some rlsClaims) tenantId actionIds s).1 =
      .ok response →
    (op.run config (fun _ => .quiet) clock initiatedBy none rlsClaims.tenantId actionIds s).1 =
      .ok response' →
    response.notFound = response'.notFound ∧ response.summary = response'.summary

/-- Some requested identifier of an approval or a reapproval with claims is not stored, or the two
paths diverge. -/
def Miscounts : Prop :=
  Validated rlsClaims s actionIds ∧
    (op.prelisted actionIds s ≠ [] ∨ op.Diverges config actionIds s)

theorem countsAlike_iff :
    CountsAlike op config faults clock initiatedBy rlsClaims tenantId actionIds s ↔
      ¬ Miscounts op config rlsClaims actionIds s := by
  have hcounted (faults : Nat → TxFaults) :=
    op.answer_counted config faults clock initiatedBy rlsClaims actionIds s
  constructor
  · rintro h ⟨hvalid, hmiscounts⟩
    have hanswer := op.run_claims config faults clock initiatedBy rlsClaims tenantId actionIds s
      (.inl hvalid)
    have hquiet := op.run_claims config (fun _ => .quiet) clock initiatedBy rlsClaims tenantId
      actionIds s (.inl hvalid)
    have hlisted : op.prelisted actionIds s = [] := by
      have hnotFound := (hcounted faults).notFound.symm.trans (h.claims _ hanswer).notFound
      simpa using hnotFound
    obtain ⟨response', hservice, -, hsucceeded⟩ := op.service_succeeded config (fun _ => .quiet)
      clock initiatedBy rlsClaims actionIds s hvalid
    have hsame := (h.same hvalid _ _ hquiet hservice).2
    rcases hmiscounts with hlists | hdiverges
    · exact hlists hlisted
    · refine (op.allowed_ncard_iff config rlsClaims actionIds s hvalid).mp ?_ hdiverges
      rw [← op.answer_succeeded config clock initiatedBy rlsClaims actionIds s, ← hsucceeded, hsame]
  · intro hcounts
    have hlisted (h : Validated rlsClaims s actionIds ∨ op = .execute) :
        op.prelisted actionIds s = [] := by
      rcases h with hvalid | rfl
      · by_contra hlists
        exact hcounts ⟨hvalid, .inl hlists⟩
      · rfl
    have hclaims (faults : Nat → TxFaults) (response : BatchOrchestrationResponse)
        (h : (op.run config faults clock initiatedBy (some rlsClaims) tenantId actionIds s).1 =
          .ok response) :
        response = op.answer config faults clock initiatedBy rlsClaims actionIds s ∧
          BatchAccounted actionIds (missingIds s actionIds) response := by
      by_cases hpasses : Validated rlsClaims s actionIds ∨ op = .execute
      · have hanswer := op.run_claims config faults clock initiatedBy rlsClaims tenantId actionIds s
          hpasses
        obtain rfl := Except.ok.inj (hanswer.symm.trans h)
        have haccounted := hcounted faults
        rw [hlisted hpasses, List.nil_append] at haccounted
        exact ⟨rfl, haccounted⟩
      · obtain ⟨e, herror⟩ := op.run_claims_rejected config faults clock initiatedBy rlsClaims
          tenantId actionIds s hpasses
        cases h.symm.trans herror
    refine ⟨fun response h => (hclaims faults response h).2,
      fun response h => op.service_counted config faults clock initiatedBy tenantId actionIds s h,
      fun hvalid response response' h h' => ?_⟩
    obtain ⟨hanswer, haccounted⟩ := hclaims _ response h
    obtain ⟨response'', hservice, hlisted', hsucceeded⟩ := op.service_succeeded config
      (fun _ => .quiet) clock initiatedBy rlsClaims actionIds s hvalid
    obtain rfl := Except.ok.inj (hservice.symm.trans h')
    have haccounted' := op.service_counted config (fun _ => .quiet) clock initiatedBy
      rlsClaims.tenantId actionIds s h'
    rw [← haccounted'.notFound, hlisted'] at haccounted'
    refine haccounted.same haccounted' ?_
    rw [hanswer, op.answer_succeeded, hsucceeded]
    exact (op.allowed_ncard_iff config rlsClaims actionIds s hvalid).mpr
      fun hdiverges => hcounts ⟨hvalid, .inr hdiverges⟩

/-- An approval with claims lists and counts an unknown identifier twice. -/
theorem batchApprove_counts_twice :
    ¬ (∀ (op : BatchOperation) (config : CompensationConfig) (faults : Nat → TxFaults)
        (clock : Nat → DateTime) (initiatedBy : Option String) (rlsClaims : RlsTenantClaims)
        (tenantId : Uuid) (actionIds : List Uuid) (s : ActionStorage),
      CountsAlike op config faults clock initiatedBy rlsClaims tenantId actionIds s) := by
  intro h
  have hcounts := h .approve ⟨false, false, none⟩ (fun _ => .quiet) (fun _ => 10) none sampleClaims
    5 [9] (.sqlx ∅)
  have hvalid : Validated sampleClaims (.sqlx ∅) [9] := fun actionId _ => .inl ⟨actionId, rfl⟩
  have hanswer := hcounts.claims _ (BatchOperation.run_claims _ _ _ _ _ _ _ _ _ (.inl hvalid))
  have htwice := (BatchOperation.answer_counted .approve ⟨false, false, none⟩ (fun _ => .quiet)
    (fun _ => 10) none sampleClaims [9] (.sqlx ∅)).notFound
  exact absurd (htwice.symm.trans hanswer.notFound) (by decide)

end Operations

end IntentRebase
