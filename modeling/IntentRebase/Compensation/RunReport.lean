import IntentRebase.Compensation.Batch

/-! What runs and batches report of their items, against what the stored actions say once the item
is done. -/

namespace IntentRebase

open Kit ActionRepo

def ActionRepo.storedStatus (repo : ActionRepo) (actionId : Uuid) : Option CompensationStatus :=
  (repo.lookup actionId).map CompensationAction.status

theorem storedStatus_eq {repo : ActionRepo} {actionId : Uuid} {action : CompensationAction}
    (h : repo.lookup actionId = some action) : repo.storedStatus actionId = some action.status := by
  rw [storedStatus, h]
  rfl

theorem storedStatus_insert (repo : ActionRepo) (actionId : Uuid) (action : CompensationAction) :
    storedStatus (repo.insert actionId action) actionId = some action.status :=
  storedStatus_eq (AList.lookup_insert _)

/-- The two tables of what the service may execute are one. -/
theorem isAllowedCombo_eq (action : CompensationAction) :
    isAllowedCombo action.strategyType action.feasibility = action.isServiceExecutable := by
  unfold isAllowedCombo CompensationAction.isServiceExecutable
  cases action.strategyType <;> cases action.feasibility <;> rfl

/-- What each decision says of its action. -/
theorem decision_iff (action : CompensationAction) :
    (action.decision = .approve ↔ action.status = .pending) ∧
    (action.decision = .execute ↔ action.status = .approved ∧ action.isServiceExecutable = true) ∧
    (action.decision = .reapprove ↔ action.status = .failed ∧ action.canBeReapproved = true) ∧
    action.decision ≠ .notFound := by
  unfold CompensationAction.decision
  cases action.status with
  | approved => cases action.isServiceExecutable <;> simp
  | failed => cases action.canBeReapproved <;> simp
  | pending | executed | waived => simp

theorem decision_eq_execute {action : CompensationAction} :
    action.decision = .execute ↔ action.status = .approved ∧ action.isServiceExecutable = true :=
  (decision_iff action).2.1

/-- A skipped action calls for nothing. -/
theorem decidedCall_skip {action : CompensationAction} (now : DateTime) (executor : Executor)
    (h : action.decision = .skip) : decidedCall now executor action = none := by
  unfold CompensationAction.decision at h
  unfold decidedCall
  cases hstatus : action.status with
  | pending => simp [hstatus] at h
  | approved => simpa [hstatus] using h
  | failed => simpa [hstatus] using h
  | executed | waived => rfl

section Calls

variable {repo : ActionRepo} {actionId : Uuid} {action : CompensationAction}

/-- An action on which an item decides to execute passes the gates of its execution. -/
theorem selectForExecution_execute (hlookup : repo.lookup actionId = some action)
    (hdecision : action.decision = .execute) : selectForExecution repo actionId = .ok action := by
  obtain ⟨hstatus, hexecutable⟩ := decision_eq_execute.mp hdecision
  simp [selectForExecution, ActionRepo.get, hlookup, hstatus, isAllowedCombo_eq, hexecutable]

theorem executeAction_executor_error {executor : Executor} {e : IntentRebaseError}
    (executedBy : Option String) (hlookup : repo.lookup actionId = some action)
    (hdecision : action.decision = .execute) (hrun : executor action = .error e) :
    executeAction repo executor actionId executedBy = (.error e, repo) := by
  simp only [executeAction, selectForExecution_execute hlookup hdecision, hrun]

/-- Whatever result the executor has is stored, and the execution succeeds. -/
theorem executeAction_executor_ok {executor : Executor} {result : ExecutionResult}
    (executedBy : Option String) (hlookup : repo.lookup actionId = some action)
    (hdecision : action.decision = .execute) (hrun : executor action = .ok result) :
    executeAction repo executor actionId executedBy =
      (let updated := { withResult result executedBy action with
        lockVersion := action.lockVersion + 1 }
      (.ok updated, repo.insert actionId updated)) := by
  simp only [executeAction, selectForExecution_execute hlookup hdecision, hrun, recordResult,
    lockedUpdate, hlookup, ne_eq, not_true_eq_false, if_false]

/-- Any other action is not executable. -/
theorem executeAction_other (executor : Executor) (executedBy : Option String)
    (hlookup : repo.lookup actionId = some action) (hdecision : action.decision ≠ .execute) :
    executeAction repo executor actionId executedBy =
      (.error (.compensationActionNotExecutable actionId), repo) := by
  have hnot : ¬ (action.status = .approved ∧ action.isServiceExecutable = true) :=
    mt decision_eq_execute.mpr hdecision
  have hselect : selectForExecution repo actionId =
      .error (.compensationActionNotExecutable actionId) := by
    by_cases hstatus : action.status = .approved
    · have hexecutable : action.isServiceExecutable = false := by simpa [hstatus] using hnot
      simp [selectForExecution, ActionRepo.get, hlookup, hstatus, isAllowedCombo_eq, hexecutable]
    · simp [selectForExecution, ActionRepo.get, hlookup, hstatus]
  rw [executeAction, hselect]

/-- A failed action that can be reapproved is reapproved, under its lock version. -/
theorem reapproveAction_reapprovable (hlookup : repo.lookup actionId = some action)
    (hreapprovable : action.canBeReapproved = true) :
    reapproveAction repo actionId action.lockVersion =
      (let updated := { action with
        status := .pending
        failedAt := none
        lockVersion := action.lockVersion + 1 }
      (.ok updated, repo.insert actionId updated)) := by
  obtain ⟨hfailed, hremaining⟩ := action.canBeReapproved_spec hreapprovable
  have hdenial := action.reapprovalDenialReason_eq_none.mpr hreapprovable
  simp [reapproveAction, selectForReapproval, ActionRepo.get, ActionRepo.reapprove, lockedUpdate,
    hlookup, hfailed, hdenial, not_le.mpr hremaining]

end Calls

/-- The status that an item is to bring its action to. -/
def OrchestrationActionDecision.aim : OrchestrationActionDecision → Option CompensationStatus
  | .approve => some .approved
  | .reapprove => some .pending
  | .execute => some .executed
  | .skip | .notFound => none

namespace Attempt

variable {attempt : Attempt} {action : CompensationAction}

/-- The item of a run fails: its action is not found, or not stored with the status that the item
is to bring it to. -/
def Fails (attempt : Attempt) : Prop :=
  match attempt.decision.aim with
  | some status => attempt.process.2.storedStatus attempt.actionId ≠ some status
  | none => attempt.decision = .notFound

/-- The item executes its action, and the executor reports that the compensation failed. -/
def ExecutorFails (attempt : Attempt) : Prop :=
  ∃ action result, attempt.found = some action ∧ action.decision = .execute ∧
    attempt.executor action = .ok result ∧ result.success = false

/-- The item finds a stored action and decides to execute it. -/
theorem found_of_execute (h : attempt.decision = .execute) :
    ∃ action, attempt.found = some action ∧ action.decision = .execute := by
  unfold decision at h
  split at h
  · next action hfound => exact ⟨action, hfound, h⟩
  · cases h

theorem decision_eq (hfound : attempt.found = some action) :
    attempt.decision = action.decision := by
  rw [decision, hfound]

/-- An item whose call succeeds is reported successful. -/
theorem process_answer {call : Call} {updated : CompensationAction}
    (hfound : attempt.found = some action)
    (hcall : decidedCall attempt.now attempt.executor action = some call)
    (hanswer : call.apply attempt.actions =
      (.ok updated, attempt.actions.insert attempt.actionId updated)) :
    attempt.result.success = true ∧
      attempt.process.2.storedStatus attempt.actionId = some updated.status := by
  obtain ⟨reason, hprocess⟩ := process_call hfound hcall
  rw [result, hprocess, hanswer]
  exact ⟨rfl, storedStatus_insert _ _ _⟩

/-- An item whose call fails is reported so, and leaves the action as it is. -/
theorem process_error {call : Call} {e : IntentRebaseError} (hfound : attempt.found = some action)
    (hcall : decidedCall attempt.now attempt.executor action = some call)
    (hanswer : call.apply attempt.actions = (.error e, attempt.actions)) :
    attempt.result.success = false ∧
      attempt.process.2.storedStatus attempt.actionId = some action.status := by
  obtain ⟨reason, hprocess⟩ := process_call hfound hcall
  obtain ⟨hlookup, -⟩ := found_eq_some.mp hfound
  rw [result, hprocess, hanswer]
  exact ⟨rfl, storedStatus_eq hlookup⟩

/-- An item that approves its action does so. -/
theorem process_approve (hkeyed : Keyed attempt.actions) (hfound : attempt.found = some action)
    (hstatus : action.status = .pending) :
    attempt.result.success = true ∧
      attempt.process.2.storedStatus attempt.actionId = some .approved := by
  obtain ⟨hlookup, -⟩ := found_eq_some.mp hfound
  have hcall : decidedCall attempt.now attempt.executor action =
      some (.approve attempt.now attempt.actionId action.lockVersion none) := by
    rw [decidedCall, hstatus, hkeyed attempt.actionId action hlookup]
  exact process_answer hfound hcall (approveAction_pending attempt.now none hlookup hstatus)

/-- An item that reapproves its action does so. -/
theorem process_reapprove (hkeyed : Keyed attempt.actions) (hfound : attempt.found = some action)
    (hreapprovable : action.canBeReapproved = true) :
    attempt.result.success = true ∧
      attempt.process.2.storedStatus attempt.actionId = some .pending := by
  obtain ⟨hlookup, -⟩ := found_eq_some.mp hfound
  have hcall : decidedCall attempt.now attempt.executor action =
      some (.reapprove attempt.actionId action.lockVersion) := by
    rw [decidedCall, (action.canBeReapproved_spec hreapprovable).1,
      hkeyed attempt.actionId action hlookup]
    simp only [hreapprovable, if_true]
  exact process_answer hfound hcall (reapproveAction_reapprovable hlookup hreapprovable)

/-- An item that executes its action is reported successful if the executor has a result, and the
action is stored as executed if the result is a success. -/
theorem process_execute (hkeyed : Keyed attempt.actions) (hfound : attempt.found = some action)
    (hdecision : action.decision = .execute) :
    (attempt.result.success = true ↔ ∃ result, attempt.executor action = .ok result) ∧
      (attempt.process.2.storedStatus attempt.actionId = some .executed ↔
        ∃ result, attempt.executor action = .ok result ∧ result.success = true) := by
  obtain ⟨hlookup, -⟩ := found_eq_some.mp hfound
  obtain ⟨hstatus, hexecutable⟩ := decision_eq_execute.mp hdecision
  have hcall : decidedCall attempt.now attempt.executor action =
      some (.execute attempt.executor attempt.actionId none) := by
    rw [decidedCall, hstatus, hkeyed attempt.actionId action hlookup]
    simp only [hexecutable, if_true]
  cases hrun : attempt.executor action with
  | error e =>
    obtain ⟨hreported, hstored⟩ :=
      process_error hfound hcall (executeAction_executor_error none hlookup hdecision hrun)
    rw [hreported, hstored, hstatus]
    simp
  | ok result =>
    obtain ⟨hreported, hstored⟩ :=
      process_answer hfound hcall (executeAction_executor_ok none hlookup hdecision hrun)
    rw [hreported, hstored]
    dsimp only
    rw [withResult_status]
    cases hsuccess : result.success <;> simp [hsuccess]

theorem ExecutorFails.decision (h : attempt.ExecutorFails) : attempt.decision = .execute := by
  obtain ⟨action, _, hfound, hdecision, -⟩ := h
  rw [decision_eq hfound, hdecision]

theorem executorFails_iff (hfound : attempt.found = some action)
    (hdecision : action.decision = .execute) :
    attempt.ExecutorFails ↔
      ∃ result, attempt.executor action = .ok result ∧ result.success = false := by
  unfold ExecutorFails
  rw [hfound]
  constructor
  · rintro ⟨_, result, ⟨⟩, -, hrun, hfails⟩
    exact ⟨result, hrun, hfails⟩
  · rintro ⟨result, hrun, hfails⟩
    exact ⟨action, result, rfl, hdecision, hrun, hfails⟩

/-- An execution is reported as it is stored if and only if the executor does not fail. -/
theorem reported_iff_executed (hkeyed : Keyed attempt.actions)
    (hdecision : attempt.decision = .execute) :
    (attempt.result.success = true ↔
      attempt.process.2.storedStatus attempt.actionId = some .executed) ↔
      ¬ attempt.ExecutorFails := by
  obtain ⟨action, hfound, hexecutes⟩ := found_of_execute hdecision
  obtain ⟨hreported, hstored⟩ := process_execute hkeyed hfound hexecutes
  rw [hreported, hstored, executorFails_iff hfound hexecutes]
  cases attempt.executor action with
  | error e => simp
  | ok result => cases hsuccess : result.success <;> simp [hsuccess]

/-- Unless the executor fails, a run takes for failed exactly the items that fail. -/
theorem success_iff_not_fails (hkeyed : Keyed attempt.actions) (hruns : ¬ attempt.ExecutorFails) :
    attempt.result.success = true ↔ ¬ attempt.Fails := by
  unfold Fails
  cases hfound : attempt.found with
  | none =>
    have hdecision : attempt.decision = .notFound := by rw [decision, hfound]
    rw [hdecision, result, process_none hfound]
    simp [OrchestrationActionDecision.aim, OrchestrationRun.itemResult]
  | some action =>
    have hdecision := decision_eq hfound
    cases haim : action.decision with
    | approve =>
      obtain ⟨hreported, hstored⟩ :=
        process_approve hkeyed hfound ((decision_iff action).1.mp haim)
      rw [hdecision, haim, hreported]
      simp [OrchestrationActionDecision.aim, hstored]
    | reapprove =>
      obtain ⟨hreported, hstored⟩ :=
        process_reapprove hkeyed hfound ((decision_iff action).2.2.1.mp haim).2
      rw [hdecision, haim, hreported]
      simp [OrchestrationActionDecision.aim, hstored]
    | execute =>
      rw [haim] at hdecision
      rw [(reported_iff_executed hkeyed hdecision).mpr hruns, hdecision]
      simp [OrchestrationActionDecision.aim]
    | skip =>
      obtain ⟨-, reason, hprocess⟩ := process_skip hfound (decidedCall_skip _ _ haim)
      rw [hdecision, haim, result, hprocess]
      simp [OrchestrationActionDecision.aim, OrchestrationRun.itemResult, RunItemResult.skipped]
    | notFound => exact absurd haim (decision_iff action).2.2.2

end Attempt

section History

/-- The items of a run so far, after an event on a store: a run that is created anew has none, and
each execution adds its own. -/
def RunEvent.itemsOf (event : RunEvent) (runId : Uuid) (store : OrchestrationStore)
    (items : List Attempt) : List Attempt :=
  match event with
  | .create createdId .. => if createdId = runId then [] else items
  | .execute executor clock executedId =>
    if executedId = runId then
      match store.runs.lookup runId with
      | some run => items ++ runAttempts executor clock run.tenantId run.actionIds store.actions
      | none => items
    else items
  | .plan _ | .request _ => items

/-- The store after a history, and the items of a run over all of its executions. -/
def runHistory (runId : Uuid) (events : List RunEvent) : OrchestrationStore × List Attempt :=
  events.foldl
    (fun (store, items) event => (event.apply store, event.itemsOf runId store items))
    ({ runs := ∅, actions := ∅ }, [])

theorem runHistory_concat {runId : Uuid} {events : List RunEvent} {event : RunEvent} :
    runHistory runId (events ++ [event]) =
      (event.apply (runHistory runId events).1,
        event.itemsOf runId (runHistory runId events).1 (runHistory runId events).2) := by
  rw [runHistory, List.foldl_append]
  rfl

theorem runHistory_store (runId : Uuid) (events : List RunEvent) :
    (runHistory runId events).1 = runEvents events := by
  induction events using List.reverseRecOn with
  | nil => rfl
  | append_singleton events event ih => rw [runHistory_concat, runEvents_concat, ih]

/-- The items of a run over all of its executions. -/
def itemsOf (runId : Uuid) (events : List RunEvent) : List Attempt := (runHistory runId events).2

theorem itemsOf_concat {runId : Uuid} {events : List RunEvent} {event : RunEvent} :
    itemsOf runId (events ++ [event]) =
      event.itemsOf runId (runEvents events) (itemsOf runId events) := by
  rw [itemsOf, runHistory_concat, runHistory_store]
  rfl

theorem Keyed.runActivities {repo : ActionRepo} (h : Keyed repo) (activities : List Activity) :
    Keyed (runActivities repo activities) := by
  induction activities generalizing repo with
  | nil => exact h
  | cons activity rest ih => exact ih (h.apply activity)

theorem Keyed.create {repo : ActionRepo} (h : Keyed repo) (action : CompensationAction) :
    Keyed (repo.create action) := by
  intro actionId stored hlookup
  rw [ActionRepo.create, lookup_insert_eq] at hlookup
  split at hlookup
  · next heq =>
    obtain rfl := Option.some.inj hlookup
    exact heq.symm
  · exact h actionId stored hlookup

/-- Every action of a history is stored under its own identifier. -/
theorem runEvents_keyed (events : List RunEvent) : Keyed (runEvents events).actions := by
  induction events using List.reverseRecOn with
  | nil =>
    intro actionId action h
    rw [runEvents, List.foldl_nil, AList.lookup_empty] at h
    cases h
  | append_singleton events event ih =>
    rw [runEvents_concat]
    cases event with
    | create => exact ih
    | request call => exact ih.apply (.request call)
    | plan action => exact ih.create action
    | execute executor clock runId =>
      cases hlookup : (runEvents events).runs.lookup runId with
      | none =>
        rw [RunEvent.apply, executeExistingRun_none executor clock hlookup]
        exact ih
      | some run =>
        obtain rfl := (runEvents_kept events hlookup).id
        rw [RunEvent.apply, executeExistingRun_actions executor clock hlookup]
        exact ih.runActivities _

theorem runAttempts_keyed {executor : DateTime → Executor} {clock : Nat → DateTime}
    {tenantId : Uuid} {actionIds : List Uuid} {actions : ActionRepo} (h : Keyed actions) :
    ∀ attempt ∈ runAttempts executor clock tenantId actionIds actions, Keyed attempt.actions := by
  refine attempts_all (fun attempt hkeyed => ?_) h
  exact hkeyed.apply (.item attempt.now attempt.executor attempt.tenantId attempt.actionId)

/-- The results of a stored run are those of its items, which find every action under its own
identifier. -/
theorem itemsOf_spec (events : List RunEvent) (runId : Uuid) :
    (∀ attempt ∈ itemsOf runId events, Keyed attempt.actions) ∧
      ∀ run, (runEvents events).runs.lookup runId = some run →
        run.itemResults = (itemsOf runId events).map Attempt.result := by
  induction events using List.reverseRecOn with
  | nil =>
    refine ⟨fun _ hmem => absurd hmem List.not_mem_nil, fun run h => ?_⟩
    rw [runEvents, List.foldl_nil, AList.lookup_empty] at h
    cases h
  | append_singleton events event ih =>
    rw [runEvents_concat, itemsOf_concat]
    cases event with
    | plan | request => exact ih
    | create createdId now tenantId actionIds initiatedBy intentId =>
      rw [RunEvent.apply, RunRepo.create, RunEvent.itemsOf]
      split
      · next heq =>
        refine ⟨fun _ hmem => absurd hmem List.not_mem_nil, fun run h => ?_⟩
        subst heq
        obtain rfl := Option.some.inj ((AList.lookup_insert _).symm.trans h)
        rfl
      · next hne =>
        refine ⟨ih.1, fun run h => ih.2 run ?_⟩
        exact (AList.lookup_insert_ne (Ne.symm hne)).symm.trans h
    | execute executor clock executedId =>
      rw [RunEvent.apply, RunEvent.itemsOf]
      cases hlookup : (runEvents events).runs.lookup executedId with
      | none =>
        rw [executeExistingRun_none executor clock hlookup]
        split
        · next heq =>
          subst heq
          rw [hlookup] at ih ⊢
          exact ih
        · exact ih
      | some before =>
        have hkept := runEvents_kept events hlookup
        obtain ⟨finished, after, hrun, hfinished, hothers, -, hpassed⟩ :=
          executeExistingRun_passed executor clock hlookup hkept.id
        rw [hrun]
        split
        · next heq =>
          subst heq
          rw [hlookup]
          constructor
          · rw [List.forall_mem_append]
            exact ⟨ih.1, runAttempts_keyed (runEvents_keyed events)⟩
          · intro run h
            obtain rfl := Option.some.inj (hfinished.symm.trans h)
            change finished.itemResults = _
            rw [hpassed.results, List.map_append]
            exact congrArg (· ++ _) (ih.2 before hlookup)
        · next hne =>
          exact ⟨ih.1, fun run h => ih.2 run ((hothers runId (Ne.symm hne)).symm.trans h)⟩

end History

section Run

namespace OrchestrationRun

/-- A run reports what happened: each item that is decided to execute is successful if and only if
its action is then stored as executed, and the run is completed without errors if and only if no
item failed. -/
structure ReportsWhatHappened (run : OrchestrationRun) (items : List Attempt) : Prop where
  executions : List.Forall₂ (fun attempt item => item.actionTaken = .execute →
    (item.success = true ↔
      attempt.process.2.storedStatus attempt.actionId = some .executed)) items run.itemResults
  completion : run.status = .completed ↔ ∀ attempt ∈ items, ¬ attempt.Fails

variable {run : OrchestrationRun} {items : List Attempt}

theorem markCompleted_status (htallied : run.Tallied) (now : DateTime) :
    (run.markCompleted now).status = .completed ↔
      ∀ item ∈ run.itemResults, item.success = true := by
  have hcount : run.failedCount = 0 ∧ run.notFoundCount = 0 ↔
      ∀ item ∈ run.itemResults, item.success = true := by
    rw [← Nat.add_eq_zero_iff, htallied.failed, List.countP_eq_zero]
    simp
  rw [← hcount, markCompleted]
  dsimp only
  split
  · next h => simp [h]
  · next h => split <;> simp [h]

/-- With its items' results, a completed run reports what happened if and only if no executor
failed. -/
theorem reports_iff (hkeyed : ∀ attempt ∈ items, Keyed attempt.actions)
    (hresults : run.itemResults = items.map Attempt.result) (htallied : run.Tallied)
    (now : DateTime) :
    (run.markCompleted now).ReportsWhatHappened items ↔
      ∀ attempt ∈ items, ¬ attempt.ExecutorFails := by
  have hstatus := markCompleted_status htallied now
  constructor
  · intro hreports attempt hmem hfails
    have hexecutions := hreports.executions
    change List.Forall₂ _ items run.itemResults at hexecutions
    rw [hresults, List.forall₂_map_right_iff, List.forall₂_same] at hexecutions
    have hdecision := hfails.decision
    have hreported := hexecutions attempt hmem (Attempt.result_actionTaken.trans hdecision)
    exact (Attempt.reported_iff_executed (hkeyed attempt hmem) hdecision).mp hreported hfails
  · intro hruns
    constructor
    · change List.Forall₂ _ items run.itemResults
      rw [hresults, List.forall₂_map_right_iff, List.forall₂_same]
      intro attempt hmem hexecute
      rw [Attempt.result_actionTaken] at hexecute
      exact (Attempt.reported_iff_executed (hkeyed attempt hmem) hexecute).mpr (hruns attempt hmem)
    · rw [hstatus, hresults, List.forall_mem_map]
      exact forall₂_congr fun attempt hmem =>
        Attempt.success_iff_not_fails (hkeyed attempt hmem) (hruns attempt hmem)

end OrchestrationRun

/-- In every history, an execution stores and answers a run that reports what happened if and only
if no executor failed in any of its executions. -/
theorem executeExistingRun_reports (executor : DateTime → Executor) (clock : Nat → DateTime)
    {events : List RunEvent} {runId : Uuid} {returned : OrchestrationRun}
    {after : OrchestrationStore}
    (hok : executeExistingRun executor clock (runEvents events) runId = (.ok returned, after)) :
    let items := itemsOf runId (events ++ [.execute executor clock runId])
    after.runs.lookup runId = some returned ∧
      (returned.ReportsWhatHappened items ↔ ∀ attempt ∈ items, ¬ attempt.ExecutorFails) := by
  intro items
  obtain ⟨hkeyed, hresults⟩ := itemsOf_spec (events ++ [.execute executor clock runId]) runId
  rw [runEvents_concat, RunEvent.apply, hok] at hresults
  cases hstored : (runEvents events).runs.lookup runId with
  | none =>
    rw [executeExistingRun_none executor clock hstored] at hok
    cases hok
  | some run =>
    have hkept := runEvents_kept events hstored
    obtain ⟨finished, _, hrun, hreturned, -, -, hpassed⟩ :=
      executeExistingRun_passed executor clock hstored hkept.id
    rw [hok] at hrun
    obtain ⟨rfl, rfl⟩ : returned = _ ∧ after = _ := by simpa using hrun
    have hstarted : (run.markStarted (clock 0)).Tallied :=
      ⟨hkept.tallied.1, hkept.tallied.2, hkept.tallied.3⟩
    have hcompleted := hresults _ hreturned
    have hfinished : finished.itemResults = items.map Attempt.result := hcompleted
    exact ⟨hreturned,
      OrchestrationRun.reports_iff hkeyed hfinished (hpassed.tallied hstarted) _⟩

end Run

section Batch

/-- A count of fewer elements is the same if and only if the elements are. -/
theorem countP_eq_iff {α : Type} {p q : α → Bool} {l : List α}
    (h : ∀ a ∈ l, q a = true → p a = true) :
    l.countP p = l.countP q ↔ ∀ a ∈ l, p a = true → q a = true := by
  induction l with
  | nil => simp
  | cons a rest ih =>
    obtain ⟨ha, htail⟩ := List.forall_mem_cons.mp h
    have hrest : rest.countP q ≤ rest.countP p := List.countP_mono_left htail
    rw [List.countP_cons, List.countP_cons, List.forall_mem_cons, ← ih htail]
    by_cases hq : q a = true
    · simp [hq, ha hq]
    · by_cases hp : p a = true
      · simp only [hp, hq, if_true, Bool.false_eq_true, if_false, forall_const, false_and, iff_false]
        omega
      · simp [hq, hp]

namespace Attempt

variable {executor : DateTime → Executor} {executedBy : Option String} {attempt : Attempt}
  {action : CompensationAction}

theorem attempts_executor {clock : Nat → DateTime} {tenantId : Uuid} {item : Attempt → ActionRepo}
    {tick : Nat} {actionIds : List Uuid} {actions : ActionRepo} :
    ∀ attempt ∈ attempts executor clock tenantId item tick actionIds actions,
      attempt.executor = executor attempt.now := by
  induction actionIds generalizing tick actions with
  | nil => exact fun _ hmem => absurd hmem List.not_mem_nil
  | cons actionId rest ih =>
    rw [attempts, List.forall_mem_cons]
    exact ⟨rfl, ih⟩

/-- The call of an item that finds its action. -/
theorem called_execute (hfound : attempt.found = some action)
    (hexecutor : attempt.executor = executor attempt.now) :
    attempt.called (executeCall executor executedBy) =
      some (executeAction attempt.actions attempt.executor attempt.actionId executedBy) := by
  rw [called, hfound, hexecutor]
  rfl

/-- An item that does not execute its action is no success. -/
theorem not_succeeds (hexecutor : attempt.executor = executor attempt.now)
    (hdecision : attempt.decision ≠ .execute) :
    attempt.succeeds (executeCall executor executedBy) = false := by
  cases hfound : attempt.found with
  | none =>
    rw [succeeds, called, hfound]
    rfl
  | some action =>
    rw [decision_eq hfound] at hdecision
    rw [succeeds, called_execute hfound hexecutor,
      executeAction_other _ _ (found_eq_some.mp hfound).1 hdecision]

/-- An item that executes its action is a success if the executor has a result, and the action is
stored as executed if the result is a success. -/
theorem afterCall_execute (executedBy : Option String)
    (hexecutor : attempt.executor = executor attempt.now)
    (hfound : attempt.found = some action) (hdecision : action.decision = .execute) :
    (attempt.succeeds (executeCall executor executedBy) = true ↔
        ∃ result, attempt.executor action = .ok result) ∧
      ((attempt.afterCall (executeCall executor executedBy)).storedStatus attempt.actionId =
          some .executed ↔
        ∃ result, attempt.executor action = .ok result ∧ result.success = true) := by
  obtain ⟨hlookup, -⟩ := found_eq_some.mp hfound
  rw [succeeds, afterCall, called_execute hfound hexecutor]
  cases hrun : attempt.executor action with
  | error e =>
    rw [executeAction_executor_error executedBy hlookup hdecision hrun]
    dsimp only
    rw [storedStatus_eq hlookup, (decision_eq_execute.mp hdecision).1]
    simp
  | ok result =>
    rw [executeAction_executor_ok executedBy hlookup hdecision hrun]
    dsimp only
    rw [storedStatus_insert]
    dsimp only
    rw [withResult_status]
    cases hsuccess : result.success <;> simp [hsuccess]

/-- The item executes its action, which is then stored as executed. -/
def executed (call : BatchCall) (attempt : Attempt) : Bool :=
  attempt.decision = .execute ∧
    (attempt.afterCall call).storedStatus attempt.actionId = some .executed

/-- The successes of a batch are the items that execute their actions, and those whose executor
fails. -/
theorem succeeds_iff (executedBy : Option String)
    (hexecutor : attempt.executor = executor attempt.now) :
    attempt.succeeds (executeCall executor executedBy) = true ↔
      attempt.executed (executeCall executor executedBy) = true ∨ attempt.ExecutorFails := by
  unfold executed
  rw [decide_eq_true_iff]
  by_cases hdecision : attempt.decision = .execute
  · obtain ⟨action, hfound, hexecutes⟩ := found_of_execute hdecision
    obtain ⟨hreported, hstored⟩ := afterCall_execute executedBy hexecutor hfound hexecutes
    rw [hreported, hstored, executorFails_iff hfound hexecutes]
    cases attempt.executor action with
    | error e => simp
    | ok result => cases hsuccess : result.success <;> simp [hsuccess, hdecision]
  · rw [not_succeeds hexecutor hdecision]
    simp [hdecision, mt ExecutorFails.decision hdecision]

/-- An action whose executor fails is not stored as executed. -/
theorem ExecutorFails.not_executed (h : attempt.ExecutorFails)
    (hexecutor : attempt.executor = executor attempt.now) :
    attempt.executed (executeCall executor executedBy) = false := by
  obtain ⟨action, result, hfound, hexecutes, hrun, hfails⟩ := h
  obtain ⟨-, hstored⟩ := afterCall_execute executedBy hexecutor hfound hexecutes
  rw [executed, decide_eq_false_iff_not, hstored, hrun]
  simp [hfails]

end Attempt

/-- A batch of executions counts as succeeded exactly the actions that it executes, if and only if
no executor fails. -/
theorem batchExecute_reports {executor : DateTime → Executor} {clock : Nat → DateTime}
    {tenantId : Uuid} {repo after : ActionRepo} {actionIds : List Uuid}
    {executedBy : Option String} {result : BatchOrchestrationResult}
    (hok : batchExecute clock tenantId executor repo actionIds executedBy = (.ok result, after)) :
    let call := executeCall executor executedBy
    let items := attempts executor clock tenantId (Attempt.afterCall call) 0 actionIds repo
    result.summary.succeeded = items.countP (Attempt.executed call) ↔
      ∀ attempt ∈ items, ¬ attempt.ExecutorFails := by
  intro call items
  obtain ⟨_, _, hrun, hbatched⟩ :=
    batchItems_batched executor call clock tenantId 0 actionIds (.start actionIds) repo
  rw [batchExecute] at hok
  have hsame := hok.symm.trans hrun
  cases hsame
  have hexecutor : ∀ attempt ∈ items, attempt.executor = executor attempt.now :=
    Attempt.attempts_executor
  have hsucceeds (attempt : Attempt) (hmem : attempt ∈ items) :=
    Attempt.succeeds_iff executedBy (hexecutor attempt hmem)
  rw [hbatched.succeeded, BatchOrchestrationResult.start, Nat.zero_add,
    countP_eq_iff fun attempt hmem hexecuted => (hsucceeds attempt hmem).mpr (.inl hexecuted)]
  constructor
  · intro hall attempt hmem hfails
    have hexecuted := hall attempt hmem ((hsucceeds attempt hmem).mpr (.inr hfails))
    rw [hfails.not_executed (hexecutor attempt hmem)] at hexecuted
    cases hexecuted
  · intro hruns attempt hmem hsuccess
    exact ((hsucceeds attempt hmem).mp hsuccess).resolve_right (hruns attempt hmem)

end Batch

section Report

/-- Runs and batches report what happened if and only if no executor fails: at the end of every
history, an execution of a run over all of its items so far, and every batch over its own. -/
theorem reports_iff_no_executor_fails (executor : DateTime → Executor) (clock : Nat → DateTime) :
    (∀ (events : List RunEvent) (runId : Uuid) (returned : OrchestrationRun)
        (after : OrchestrationStore),
      executeExistingRun executor clock (runEvents events) runId = (.ok returned, after) →
      let items := itemsOf runId (events ++ [.execute executor clock runId])
      after.runs.lookup runId = some returned ∧
        (returned.ReportsWhatHappened items ↔ ∀ attempt ∈ items, ¬ attempt.ExecutorFails)) ∧
    (∀ (tenantId : Uuid) (repo after : ActionRepo) (actionIds : List Uuid)
        (executedBy : Option String) (result : BatchOrchestrationResult),
      batchExecute clock tenantId executor repo actionIds executedBy = (.ok result, after) →
      let call := executeCall executor executedBy
      let items := attempts executor clock tenantId (Attempt.afterCall call) 0 actionIds repo
      result.summary.succeeded = items.countP (Attempt.executed call) ↔
        ∀ attempt ∈ items, ¬ attempt.ExecutorFails) := by
  constructor
  · intro events runId returned after hok
    exact executeExistingRun_reports executor clock hok
  · intro tenantId repo after actionIds executedBy result hok
    exact batchExecute_reports hok

/-- The stub that stands in for the executors never fails. -/
theorem runExecutor_stub {action : CompensationAction} (now : DateTime)
    (hexecutable : action.isServiceExecutable = true) :
    runExecutor none now action = .ok (stubResult now action) := by
  unfold CompensationAction.isServiceExecutable at hexecutable
  unfold runExecutor
  cases hstrategy : action.strategyType <;> cases hfeasibility : action.feasibility <;>
    simp [hstrategy, hfeasibility] at hexecutable ⊢

theorem Attempt.not_executorFails_stub {attempt : Attempt}
    (h : attempt.executor = runExecutor none attempt.now) : ¬ attempt.ExecutorFails := by
  rintro ⟨action, result, -, hdecision, hrun, hfails⟩
  rw [h, runExecutor_stub attempt.now (decision_eq_execute.mp hdecision).2] at hrun
  cases hrun
  cases hfails

/-- The sample run over an action that is approved. -/
def approvedRun : List RunEvent :=
  sampleRun [7] ++ [.request (.approve 0 7 0 (some "reviewer"))]

theorem reports_iff_no_executor_fails_sample :
    ∃ returned after,
      executeExistingRun (runExecutor none) sampleClock (runEvents approvedRun) 9 =
        (.ok returned, after) ∧
      returned.ReportsWhatHappened
        (itemsOf 9 (approvedRun ++ [.execute (runExecutor none) sampleClock 9])) := by
  have hstored : (runEvents approvedRun).runs.lookup 9 = some (.new 9 0 2 [7] none none) := rfl
  obtain ⟨finished, after, hrun, -⟩ :=
    executeExistingRun_passed (runExecutor none) sampleClock hstored rfl
  refine ⟨_, after, hrun, ?_⟩
  have hreports :=
    (reports_iff_no_executor_fails (runExecutor none) sampleClock).1 approvedRun 9 _ after hrun
  refine hreports.2.mpr fun attempt hmem => Attempt.not_executorFails_stub ?_
  have hitems : itemsOf 9 (approvedRun ++ [.execute (runExecutor none) sampleClock 9]) =
      runAttempts (runExecutor none) sampleClock 2 [7] (runEvents approvedRun).actions := rfl
  rw [hitems] at hmem
  exact Attempt.attempts_executor attempt hmem

/-- An approved action whose side effect is not recorded: its executor fails, and the run and the
batch that execute it count it as a success. -/
theorem not_reported :
    ¬ (∀ (events : List RunEvent) (executor : DateTime → Executor) (clock : Nat → DateTime)
        (runId : Uuid) (returned : OrchestrationRun) (after : OrchestrationStore),
      executeExistingRun executor clock (runEvents events) runId = (.ok returned, after) →
      returned.ReportsWhatHappened
        (itemsOf runId (events ++ [.execute executor clock runId]))) ∧
    ¬ (∀ (executor : DateTime → Executor) (clock : Nat → DateTime) (tenantId : Uuid)
        (repo after : ActionRepo) (actionIds : List Uuid) (executedBy : Option String)
        (result : BatchOrchestrationResult),
      batchExecute clock tenantId executor repo actionIds executedBy = (.ok result, after) →
      let call := executeCall executor executedBy
      result.summary.succeeded =
        (attempts executor clock tenantId (Attempt.afterCall call) 0 actionIds repo).countP
          (Attempt.executed call)) := by
  constructor
  · intro hclaim
    have hstored : (runEvents approvedRun).runs.lookup 9 = some (.new 9 0 2 [7] none none) := rfl
    obtain ⟨finished, after, hrun, -⟩ :=
      executeExistingRun_passed (runExecutor (some ∅)) sampleClock hstored rfl
    have hruns := (executeExistingRun_reports _ _ hrun).2.mp (hclaim _ _ _ _ _ _ hrun)
    exact hruns _ List.mem_cons_self ⟨_, _, rfl, rfl, rfl, rfl⟩
  · intro hclaim
    have hsucceeded := hclaim (runExecutor (some ∅)) sampleClock 2 (runEvents approvedRun).actions _
      [7] none _ rfl
    exact absurd hsucceeded (by decide)

end Report

end IntentRebase
