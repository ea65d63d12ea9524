import IntentRebase.Compensation.Executor

/-! The lifecycle of a compensation action: what a service call does to the action it names, and
what holds of every action after any sequence of calls. -/

namespace IntentRebase

open Kit ActionRepo

/-- What a service call that succeeds does to an action. -/
inductive Moves : CompensationAction → CompensationAction → Prop
  | approve {action : CompensationAction} (now : DateTime) (approvedBy : Option String)
      (h : action.status = .pending) :
      Moves action { withStatus now .approved approvedBy none action with
        lockVersion := action.lockVersion + 1 }
  | waive {action : CompensationAction} (now : DateTime) (waivedBy : Option String)
      (h : action.status = .pending) :
      Moves action { withStatus now .waived none waivedBy action with
        lockVersion := action.lockVersion + 1 }
  | execute {action : CompensationAction} (result : ExecutionResult) (executedBy : Option String)
      (h : action.status = .approved) :
      Moves action { withResult result executedBy action with
        lockVersion := action.lockVersion + 1 }
  | reapprove {action : CompensationAction} (h : action.canBeReapproved = true) :
      Moves action { action with
        status := .pending
        failedAt := none
        lockVersion := action.lockVersion + 1 }

/-- A service call, with its arguments. The executor of an execution is arbitrary; the service's own
is `runExecutor`. -/
inductive Call where
  | approve (now : DateTime) (actionId : Uuid) (lockVersion : Int) (approvedBy : Option String)
  | waive (now : DateTime) (actionId : Uuid) (lockVersion : Int) (waivedBy : Option String)
  | execute (executor : Executor) (actionId : Uuid) (executedBy : Option String)
  | reapprove (actionId : Uuid) (lockVersion : Int)

def Call.actionId : Call → Uuid
  | .approve _ actionId _ _ => actionId
  | .waive _ actionId _ _ => actionId
  | .execute _ actionId _ => actionId
  | .reapprove actionId _ => actionId

def Call.apply (call : Call) (repo : ActionRepo) : Outcome :=
  match call with
  | .approve now actionId lockVersion approvedBy =>
    approveAction repo now actionId lockVersion approvedBy
  | .waive now actionId lockVersion waivedBy => waiveAction repo now actionId lockVersion waivedBy
  | .execute executor actionId executedBy => executeAction repo executor actionId executedBy
  | .reapprove actionId lockVersion => reapproveAction repo actionId lockVersion

/-- The repository after a sequence of calls, whatever they answer. -/
def runCalls (repo : ActionRepo) (calls : List Call) : ActionRepo :=
  calls.foldl (fun repo call => (call.apply repo).2) repo

section Inversion

variable {repo after : ActionRepo} {actionId : Uuid} {lockVersion : Int} {now : DateTime}
  {updated : CompensationAction} {e : IntentRebaseError}

theorem get_ok {action : CompensationAction} (h : repo.get actionId = .ok action) :
    repo.lookup actionId = some action := by
  unfold ActionRepo.get at h
  split at h
  · next hlookup =>
    cases h
    exact hlookup
  · cases h

theorem validateTransition_ok {action : CompensationAction} {target : CompensationStatus}
    (h : validateTransition repo actionId target = .ok action) :
    repo.lookup actionId = some action ∧ (action.status.canTransitionTo target).allowed = true := by
  unfold validateTransition at h
  split at h
  · cases h
  next hget =>
  dsimp only at h
  split at h
  · cases h
  next hallowed =>
  cases h
  exact ⟨get_ok hget, by simpa using hallowed⟩

theorem selectForExecution_ok {action : CompensationAction}
    (h : selectForExecution repo actionId = .ok action) :
    repo.lookup actionId = some action ∧ action.status = .approved ∧
      isAllowedCombo action.strategyType action.feasibility = true := by
  unfold selectForExecution at h
  split at h
  · cases h
  next hget =>
  split at h
  · cases h
  next hstatus =>
  split at h
  · cases h
  next hcombo =>
  cases h
  exact ⟨get_ok hget, not_not.mp hstatus, by simpa using hcombo⟩

theorem selectForReapproval_ok {action : CompensationAction}
    (h : selectForReapproval repo actionId = .ok action) :
    repo.lookup actionId = some action ∧ action.canBeReapproved = true := by
  unfold selectForReapproval at h
  split at h
  · cases h
  next hget =>
  split at h
  · cases h
  split at h
  · cases h
  split at h
  · cases h
  next hdenial =>
  cases h
  exact ⟨get_ok hget, action.reapprovalDenialReason_eq_none.mp hdenial⟩

/-- An update that follows the check of its transition finds the action in a status from which it is
documented. -/
theorem updateStatus_ok {action : CompensationAction} {target : CompensationStatus}
    {approvedBy waivedBy : Option String}
    (hvalid : validateTransition repo actionId target = .ok action)
    (h : repo.updateStatus now actionId target lockVersion approvedBy waivedBy =
      (.ok updated, after)) :
    repo.lookup actionId = some action ∧ CompensationStatus.Documented action.status target ∧
      updated = { withStatus now target approvedBy waivedBy action with
        lockVersion := action.lockVersion + 1 } ∧
      after = repo.insert actionId updated := by
  obtain ⟨hlookup, hallowed⟩ := validateTransition_ok hvalid
  obtain ⟨current, changed, hcurrent, -, hchange, hupdated, hafter⟩ := lockedUpdate_ok h
  obtain rfl : current = action := Option.some.inj (hcurrent.symm.trans hlookup)
  cases Except.ok.inj hchange
  exact ⟨hlookup, .of_allowed hallowed, hupdated, hafter⟩

theorem approveAction_ok {approvedBy : Option String}
    (h : approveAction repo now actionId lockVersion approvedBy = (.ok updated, after)) :
    ∃ action, repo.lookup actionId = some action ∧ Moves action updated ∧
      after = repo.insert actionId updated := by
  unfold approveAction at h
  split at h
  · cases h
  next action hvalid =>
  obtain ⟨hlookup, hdocumented, rfl, hafter⟩ := updateStatus_ok hvalid h
  exact ⟨action, hlookup, .approve now approvedBy hdocumented.approved_from, hafter⟩

/-- The approval of a pending action under its lock version succeeds. -/
theorem approveAction_pending (now : DateTime) (approvedBy : Option String)
    {action : CompensationAction} (hlookup : repo.lookup actionId = some action)
    (hpending : action.status = .pending) :
    approveAction repo now actionId action.lockVersion approvedBy =
      (let updated := { withStatus now .approved approvedBy none action with
        lockVersion := action.lockVersion + 1 }
      (.ok updated, repo.insert actionId updated)) := by
  simp [approveAction, validateTransition, ActionRepo.get, updateStatus, lockedUpdate, hlookup,
    hpending, CompensationStatus.canTransitionTo]

theorem waiveAction_ok {waivedBy : Option String}
    (h : waiveAction repo now actionId lockVersion waivedBy = (.ok updated, after)) :
    ∃ action, repo.lookup actionId = some action ∧ Moves action updated ∧
      updated.status = .waived ∧ after = repo.insert actionId updated := by
  unfold waiveAction at h
  split at h
  · cases h
  next action hvalid =>
  obtain ⟨hlookup, hdocumented, rfl, hafter⟩ := updateStatus_ok hvalid h
  exact ⟨action, hlookup, .waive now waivedBy hdocumented.waived_from, rfl, hafter⟩

theorem executeAction_ok {executor : Executor} {executedBy : Option String}
    (h : executeAction repo executor actionId executedBy = (.ok updated, after)) :
    ∃ action, repo.lookup actionId = some action ∧ Moves action updated ∧
      action.status = .approved ∧ after = repo.insert actionId updated := by
  unfold executeAction at h
  split at h
  · cases h
  next hselect =>
  split at h
  · cases h
  next result _ =>
  obtain ⟨hlookup, hstatus, -⟩ := selectForExecution_ok hselect
  obtain ⟨action, changed, hcurrent, -, hchange, rfl, hafter⟩ := lockedUpdate_ok h
  cases Except.ok.inj hchange
  obtain rfl : action = _ := Option.some.inj (hcurrent.symm.trans hlookup)
  exact ⟨action, hcurrent, .execute result executedBy hstatus, hstatus, hafter⟩

theorem reapproveAction_ok (h : reapproveAction repo actionId lockVersion = (.ok updated, after)) :
    ∃ action, repo.lookup actionId = some action ∧ Moves action updated ∧
      action.status = .failed ∧ after = repo.insert actionId updated := by
  unfold reapproveAction at h
  split at h
  · cases h
  next hselect =>
  obtain ⟨hlookup, hreapprovable⟩ := selectForReapproval_ok hselect
  obtain ⟨action, changed, hcurrent, -, hchange, rfl, hafter⟩ := lockedUpdate_ok h
  obtain rfl : action = _ := Option.some.inj (hcurrent.symm.trans hlookup)
  have hfailed := (action.canBeReapproved_spec hreapprovable).1
  rw [if_neg (not_not.mpr hfailed)] at hchange
  cases Except.ok.inj hchange
  exact ⟨action, hcurrent, .reapprove hreapprovable, hfailed, hafter⟩

/-- A call that succeeds moves the action it names. -/
theorem Call.apply_ok {call : Call} (h : call.apply repo = (.ok updated, after)) :
    ∃ action, repo.lookup call.actionId = some action ∧ Moves action updated ∧
      after = repo.insert call.actionId updated := by
  cases call with
  | approve =>
    exact approveAction_ok h
  | waive =>
    obtain ⟨action, hlookup, hmoves, -, hafter⟩ := waiveAction_ok h
    exact ⟨action, hlookup, hmoves, hafter⟩
  | execute =>
    obtain ⟨action, hlookup, hmoves, -, hafter⟩ := executeAction_ok h
    exact ⟨action, hlookup, hmoves, hafter⟩
  | reapprove =>
    obtain ⟨action, hlookup, hmoves, -, hafter⟩ := reapproveAction_ok h
    exact ⟨action, hlookup, hmoves, hafter⟩

/-- A call that fails leaves the repository as it was. -/
theorem Call.apply_error {call : Call} (h : call.apply repo = (.error e, after)) :
    after = repo := by
  cases call with
  | approve =>
    simp only [Call.apply, approveAction, updateStatus] at h
    split at h
    · cases h
      rfl
    · exact lockedUpdate_error h
  | waive =>
    simp only [Call.apply, waiveAction, updateStatus] at h
    split at h
    · cases h
      rfl
    · exact lockedUpdate_error h
  | execute =>
    simp only [Call.apply, executeAction, recordResult] at h
    split at h
    · cases h
      rfl
    split at h
    · cases h
      rfl
    · exact lockedUpdate_error h
  | reapprove =>
    simp only [Call.apply, reapproveAction, ActionRepo.reapprove] at h
    split at h
    · cases h
      rfl
    · exact lockedUpdate_error h

/-- A call changes no action but the one it names. -/
theorem Call.apply_other {call : Call} {other : Uuid} (h : other ≠ call.actionId) :
    (call.apply repo).2.lookup other = repo.lookup other := by
  rcases hresult : call.apply repo with ⟨_ | updated, after⟩
  · rw [Call.apply_error hresult]
  · obtain ⟨action, -, -, rfl⟩ := Call.apply_ok hresult
    exact AList.lookup_insert_ne h

end Inversion

section Moves

variable {action updated : CompensationAction}

/-- Two actions with the same plan: they differ in their progress only. -/
structure SamePlan (action updated : CompensationAction) : Prop where
  id : updated.id = action.id
  tenantId : updated.tenantId = action.tenantId
  sideEffectId : updated.sideEffectId = action.sideEffectId
  intentId : updated.intentId = action.intentId
  triggerContext : updated.triggerContext = action.triggerContext
  feasibility : updated.feasibility = action.feasibility
  strategyType : updated.strategyType = action.strategyType
  rationale : updated.rationale = action.rationale
  maxRetries : updated.maxRetries = action.maxRetries
  generatedAt : updated.generatedAt = action.generatedAt

theorem samePlan_withResult (action : CompensationAction) (result : ExecutionResult)
    (executedBy : Option String) :
    SamePlan action (withResult result executedBy action) := by
  unfold withResult
  dsimp only
  split <;> constructor <;> rfl

theorem Moves.samePlan (h : Moves action updated) : SamePlan action updated := by
  cases h with
  | approve => constructor <;> rfl
  | waive => constructor <;> rfl
  | execute result executedBy =>
    have h := samePlan_withResult action result executedBy
    exact ⟨h.id, h.tenantId, h.sideEffectId, h.intentId, h.triggerContext, h.feasibility,
      h.strategyType, h.rationale, h.maxRetries, h.generatedAt⟩
  | reapprove => constructor <;> rfl

theorem Moves.lockVersion (h : Moves action updated) :
    updated.lockVersion = action.lockVersion + 1 := by
  cases h <;> rfl

theorem withResult_status (result : ExecutionResult) (executedBy : Option String) :
    (withResult result executedBy action).status =
      if result.success then .executed else .failed := by
  unfold withResult
  dsimp only
  split <;> rfl

theorem withResult_attemptCount (result : ExecutionResult) (executedBy : Option String) :
    (withResult result executedBy action).attemptCount = action.attemptCount + 1 := by
  unfold withResult
  dsimp only
  split <;> rfl

theorem Moves.documented (h : Moves action updated) :
    CompensationStatus.Documented action.status updated.status := by
  cases h with
  | approve now approvedBy h =>
    rw [h]
    exact .approve
  | waive now waivedBy h =>
    rw [h]
    exact .waive
  | execute result executedBy h =>
    rw [h]
    dsimp only
    rw [withResult_status]
    split
    · exact .execute
    · exact .fail
  | reapprove h =>
    rw [(action.canBeReapproved_spec h).1]
    exact .reapprove

/-- How far the lock version is ahead of the three changes that each attempt takes. -/
def CompensationStatus.lead : CompensationStatus → Int
  | .pending => 0
  | .approved | .waived => 1
  | .executed | .failed => -1

/-- The counters of an action agree with its status and its budget. The source keeps them as `i32`,
and here they stay small. -/
structure Accounted (action : CompensationAction) : Prop where
  started : 0 ≤ action.attemptCount
  retries : action.maxRetries = CompensationAction.defaultMaxRetries
  budget : action.attemptCount ≤ max 1 action.maxRetries
  spare : action.status = .pending ∨ action.status = .approved →
    action.attemptCount < max 1 action.maxRetries
  lock : action.lockVersion = 3 * action.attemptCount + action.status.lead

theorem Moves.accounted (h : Moves action updated) (ha : Accounted action) : Accounted updated := by
  have hstarted := ha.started
  have hbudget := ha.budget
  have hlock := ha.lock
  cases h with
  | approve now approvedBy h =>
    rw [h] at hlock
    refine ⟨hstarted, ha.retries, hbudget, fun _ => ha.spare (.inl h), ?_⟩
    dsimp only [withStatus, CompensationStatus.lead] at hlock ⊢
    omega
  | waive now waivedBy h =>
    rw [h] at hlock
    refine ⟨hstarted, ha.retries, hbudget, fun hopen => by simp [withStatus] at hopen, ?_⟩
    dsimp only [withStatus, CompensationStatus.lead] at hlock ⊢
    omega
  | execute result executedBy h =>
    have hspare := ha.spare (.inr h)
    have hretries := (samePlan_withResult action result executedBy).maxRetries
    rw [h] at hlock
    constructor
    · dsimp only
      rw [withResult_attemptCount]
      omega
    · dsimp only
      rw [hretries, ha.retries]
    · dsimp only
      rw [withResult_attemptCount, hretries]
      omega
    · dsimp only
      rw [withResult_status]
      split <;> simp
    · dsimp only
      rw [withResult_attemptCount, withResult_status]
      dsimp only [CompensationStatus.lead] at hlock
      split <;> dsimp only [CompensationStatus.lead] <;> omega
  | reapprove h =>
    obtain ⟨hfailed, hremaining⟩ := action.canBeReapproved_spec h
    rw [hfailed] at hlock
    refine ⟨hstarted, ha.retries, hbudget, fun _ => lt_max_of_lt_right hremaining, ?_⟩
    dsimp only [CompensationStatus.lead] at hlock ⊢
    omega

end Moves

section Planned

/-- A property of every stored action and its key. -/
def AllActions (p : Uuid → CompensationAction → Prop) (repo : ActionRepo) : Prop :=
  ∀ actionId action, repo.lookup actionId = some action → p actionId action

/-- Every stored action is one that the planner made. -/
def Planned : ActionRepo → Prop :=
  AllActions fun actionId action => ∃ now tenantId sideEffect rebaseContext,
    classifyAndPlanAction actionId now tenantId sideEffect rebaseContext = some action

theorem planned_empty : Planned ∅ := by
  intro actionId action h
  rw [AList.lookup_empty] at h
  cases h

/-- A planned action is the one generated for a side effect other than a pure read. -/
theorem classifyAndPlanAction_eq {id tenantId : Uuid} {now : DateTime} {sideEffect : SideEffect}
    {rebaseContext : RebaseContext} {action : CompensationAction}
    (h : classifyAndPlanAction id now tenantId sideEffect rebaseContext = some action) :
    ∃ strategy rationale, action =
      .fromSideEffect id now tenantId sideEffect rebaseContext strategy rationale := by
  unfold classifyAndPlanAction at h
  dsimp only at h
  split at h
  · cases h
  all_goals exact ⟨_, _, (Option.some.inj h).symm⟩

theorem accounted_planned {id tenantId : Uuid} {now : DateTime} {sideEffect : SideEffect}
    {rebaseContext : RebaseContext} {action : CompensationAction}
    (h : classifyAndPlanAction id now tenantId sideEffect rebaseContext = some action) :
    Accounted action := by
  obtain ⟨strategy, rationale, rfl⟩ := classifyAndPlanAction_eq h
  have hbudget : (0 : Int) < max 1 CompensationAction.defaultMaxRetries := by decide
  exact ⟨Int.le_refl 0, rfl, Int.le_of_lt hbudget, fun _ => hbudget, rfl⟩

/-- Storing planned actions keeps a repository planned. -/
theorem Planned.create {repo : ActionRepo} (h : Planned repo) {actions : List CompensationAction}
    (hactions : ∀ action ∈ actions, ∃ now tenantId sideEffect rebaseContext,
      classifyAndPlanAction action.id now tenantId sideEffect rebaseContext = some action) :
    Planned (actions.foldl ActionRepo.create repo) := by
  induction actions generalizing repo with
  | nil => exact h
  | cons first rest ih =>
    rw [List.forall_mem_cons] at hactions
    refine ih (fun actionId action hlookup => ?_) hactions.2
    rw [ActionRepo.create, lookup_insert_eq] at hlookup
    split at hlookup
    · next heq =>
      obtain rfl := Option.some.inj hlookup
      rw [heq]
      exact hactions.1
    · exact h actionId action hlookup

theorem planned_planCompensationActions {repo : ActionRepo} (h : Planned repo)
    (fresh : SideEffect → Uuid) (now : DateTime) (tenantId : Uuid) (rebaseContext : RebaseContext)
    (sideEffects : List SideEffect) :
    Planned (planCompensationActions repo fresh now tenantId rebaseContext sideEffects).2 := by
  refine h.create fun action hmem => ?_
  obtain ⟨sideEffect, -, hplan⟩ := List.mem_filterMap.mp hmem
  have hid : action.id = fresh sideEffect := by
    obtain ⟨strategy, rationale, rfl⟩ := classifyAndPlanAction_eq hplan
    rfl
  exact ⟨now, tenantId, sideEffect, rebaseContext, hid ▸ hplan⟩

end Planned

section Sample

/-- A side effect of a class. -/
def SideEffect.sample (effectClass : SideEffectClass) : SideEffect where
  id := 1
  tenantId := 2
  intentId := 3
  intentVersion := 1
  effectClass := effectClass
  effectType := "deploy"
  target := "production"
  occurredAt := 0
  idempotencyKey := none

/-- The repository with the action that is planned for such a side effect, under identifier 7. -/
def ActionRepo.sample (effectClass : SideEffectClass) : ActionRepo :=
  (planCompensationActions ∅ (fun _ => 7) 0 2
    { intentId := 3, fromVersion := 1, toVersion := 2, workflowId := 4 }
    [SideEffect.sample effectClass]).2

theorem planned_sample (effectClass : SideEffectClass) : Planned (ActionRepo.sample effectClass) :=
  planned_planCompensationActions planned_empty _ _ _ _ _

end Sample

section Calls

variable {repo : ActionRepo}

theorem Planned.allAccounted (h : Planned repo) : AllActions (fun _ => Accounted) repo := by
  intro actionId action hlookup
  obtain ⟨now, tenantId, sideEffect, rebaseContext, hplan⟩ := h actionId action hlookup
  exact accounted_planned hplan

/-- What a call does to one action: nothing, or a move. -/
theorem Call.apply_lookup (call : Call) {actionId : Uuid} {action : CompensationAction}
    (h : repo.lookup actionId = some action) :
    (call.apply repo).2.lookup actionId = some action ∨
      ∃ updated, (call.apply repo).2.lookup actionId = some updated ∧ Moves action updated := by
  by_cases hid : actionId = call.actionId
  · rcases hresult : call.apply repo with ⟨e | updated, after⟩
    · rw [Call.apply_error hresult]
      exact .inl h
    · obtain ⟨current, hlookup, hmoves, rfl⟩ := Call.apply_ok hresult
      rw [← hid] at hlookup
      obtain rfl : action = current := Option.some.inj (h.symm.trans hlookup)
      rw [hid]
      exact .inr ⟨updated, AList.lookup_insert _, hmoves⟩
  · rw [Call.apply_other hid]
    exact .inl h

theorem Call.apply_none (call : Call) {actionId : Uuid} (h : repo.lookup actionId = none) :
    (call.apply repo).2.lookup actionId = none := by
  rcases hresult : call.apply repo with ⟨e | updated, after⟩
  · rw [Call.apply_error hresult]
    exact h
  · obtain ⟨action, hlookup, -, -⟩ := Call.apply_ok hresult
    have hid : actionId ≠ call.actionId := by
      rintro rfl
      rw [h] at hlookup
      cases hlookup
    rw [← hresult, Call.apply_other hid]
    exact h

section Invariant

variable {p : Uuid → CompensationAction → Prop}
  (hmoves : ∀ actionId action updated, Moves action updated → p actionId action →
    p actionId updated)

include hmoves

/-- What the moves keep of an action, a call keeps of every action. -/
theorem Call.apply_all (call : Call) (h : AllActions p repo) :
    AllActions p (call.apply repo).2 := by
  intro actionId updated hupdated
  cases hlookup : repo.lookup actionId with
  | none =>
    rw [call.apply_none hlookup] at hupdated
    cases hupdated
  | some action =>
    have hp := h actionId action hlookup
    rcases call.apply_lookup hlookup with hsame | ⟨moved, hmoved, hmove⟩
    · obtain rfl := Option.some.inj (hsame.symm.trans hupdated)
      exact hp
    · obtain rfl := Option.some.inj (hmoved.symm.trans hupdated)
      exact hmoves actionId action moved hmove hp

theorem runCalls_all (calls : List Call) (h : AllActions p repo) :
    AllActions p (runCalls repo calls) := by
  induction calls generalizing repo with
  | nil => exact h
  | cons call rest ih => exact ih (call.apply_all hmoves h)

end Invariant

/-- An action in a terminal status stays as it is. -/
theorem lookup_runCalls_terminal (calls : List Call) {actionId : Uuid} {action : CompensationAction}
    (h : repo.lookup actionId = some action) (hterminal : action.status.isTerminal = true) :
    (runCalls repo calls).lookup actionId = some action := by
  induction calls generalizing repo with
  | nil => exact h
  | cons call rest ih =>
    apply ih
    rcases call.apply_lookup h with hsame | ⟨updated, -, hmoves⟩
    · exact hsame
    · rw [hmoves.documented.not_terminal] at hterminal
      cases hterminal

/-- What the lifecycle asks of a call on a repository. -/
structure FollowsLifecycle (repo : ActionRepo) (call : Call) : Prop where
  /-- A call that fails leaves every action as it was. -/
  failed : ∀ e, (call.apply repo).1 = .error e → (call.apply repo).2 = repo
  /-- A call that succeeds increases the lock version of the action it names by one. -/
  succeeded : ∀ updated, (call.apply repo).1 = .ok updated →
    ∃ action, repo.lookup call.actionId = some action ∧
      (call.apply repo).2.lookup call.actionId = some updated ∧
      updated.lockVersion = action.lockVersion + 1
  /-- Every other action stays as it was. -/
  others : ∀ actionId, actionId ≠ call.actionId →
    (call.apply repo).2.lookup actionId = repo.lookup actionId
  /-- A status changes along the documented transitions only. -/
  documented : ∀ actionId action, repo.lookup actionId = some action →
    ∃ updated, (call.apply repo).2.lookup actionId = some updated ∧
      (updated = action ∨ CompensationStatus.Documented action.status updated.status)
  /-- Only an approved action becomes executed. -/
  executed : ∀ actionId action updated, repo.lookup actionId = some action →
    (call.apply repo).2.lookup actionId = some updated → updated.status = .executed →
    updated = action ∨ action.status = .approved

theorem followsLifecycle (repo : ActionRepo) (call : Call) : FollowsLifecycle repo call where
  failed e h := by
    have hresult : call.apply repo = (.error e, (call.apply repo).2) := Prod.ext h rfl
    exact Call.apply_error hresult
  succeeded updated h := by
    have hresult : call.apply repo = (.ok updated, (call.apply repo).2) := Prod.ext h rfl
    obtain ⟨action, hlookup, hmoves, hafter⟩ := Call.apply_ok hresult
    refine ⟨action, hlookup, ?_, hmoves.lockVersion⟩
    rw [hafter]
    exact AList.lookup_insert _
  others actionId h := Call.apply_other h
  documented actionId action h := by
    rcases call.apply_lookup h with hsame | ⟨updated, hupdated, hmoves⟩
    · exact ⟨action, hsame, .inl rfl⟩
    · exact ⟨updated, hupdated, .inr hmoves.documented⟩
  executed actionId action updated h hupdated hexecuted := by
    rcases call.apply_lookup h with hsame | ⟨moved, hmoved, hmoves⟩
    · exact .inl (Option.some.inj (hupdated.symm.trans hsame))
    · obtain rfl := Option.some.inj (hmoved.symm.trans hupdated)
      have hdocumented := hmoves.documented
      rw [hexecuted] at hdocumented
      exact .inr hdocumented.executed_from

/-- From planned actions, after any sequence of calls: no action has used more attempts than its
budget, the next call follows the lifecycle, and terminal actions stay as they are for ever. -/
theorem lifecycle_of_planned (hplanned : Planned repo) (calls : List Call) :
    (∀ actionId action, (runCalls repo calls).lookup actionId = some action →
      action.attemptCount ≤ max 1 action.maxRetries) ∧
    (∀ call, FollowsLifecycle (runCalls repo calls) call) ∧
    ∀ actionId action rest, (runCalls repo calls).lookup actionId = some action →
      action.status.isTerminal = true →
      (runCalls (runCalls repo calls) rest).lookup actionId = some action := by
  refine ⟨?_, ?_, ?_⟩
  · intro actionId action hlookup
    have haccounted := runCalls_all (fun _ _ _ h ha => h.accounted ha) calls hplanned.allAccounted
    exact (haccounted actionId action hlookup).budget
  · intro call
    exact followsLifecycle _ call
  · intro actionId action rest hlookup hterminal
    exact lookup_runCalls_terminal rest hlookup hterminal

theorem lifecycle_of_planned_sample :
    Planned (.sample .s1InternalReversible) ∧
      FollowsLifecycle
        (runCalls (.sample .s1InternalReversible) [.approve 10 7 0 (some "reviewer")])
        (.execute (runExecutor none 20) 7 none) :=
  ⟨planned_sample _, (lifecycle_of_planned (planned_sample _) _).2.1 _⟩

end Calls

end IntentRebase
