import IntentRebase.Compensation.Orchestration

/-! What a run keeps of its items: the results and the counters, over any number of executions of
any runs, with other calls on the actions in between. -/

namespace IntentRebase

open Kit

namespace OrchestrationRun

/-- The result that a run keeps of an item. -/
def itemResult (actionId : Uuid) : Except IntentRebaseError RunItemResult → RunItemResult
  | .ok item => { item with actionId }
  | .error (.compensationActionNotFound _) =>
    { actionId
      actionTaken := .notFound
      success := false
      reason := "Action not found or access denied"
      resultingStatus := "not_found" }
  | .error e =>
    { actionId, actionTaken := .skip, success := false, reason := e.display
      resultingStatus := "error" }

variable {run : OrchestrationRun} {actionId : Uuid} {result : Except IntentRebaseError RunItemResult}

theorem itemResult_actionId : (itemResult actionId result).actionId = actionId := by
  unfold itemResult
  split <;> rfl

/-- The counters agree with the results, and nothing is counted as skipped. -/
structure Tallied (run : OrchestrationRun) : Prop where
  succeeded : run.succeededCount = run.itemResults.countP RunItemResult.success
  failed : run.failedCount + run.notFoundCount =
    run.itemResults.countP fun item => !item.success
  skipped : run.skippedCount = 0

/-- What recording an item leaves as it is. -/
structure SameRequest (run run' : OrchestrationRun) : Prop where
  id : run'.id = run.id
  tenantId : run'.tenantId = run.tenantId
  actionIds : run'.actionIds = run.actionIds
  totalCount : run'.totalCount = run.totalCount
  startedAt : run'.startedAt = run.startedAt

theorem SameRequest.trans {run run' run'' : OrchestrationRun} (h : SameRequest run run')
    (h' : SameRequest run' run'') : SameRequest run run'' where
  id := h'.id.trans h.id
  tenantId := h'.tenantId.trans h.tenantId
  actionIds := h'.actionIds.trans h.actionIds
  totalCount := h'.totalCount.trans h.totalCount
  startedAt := h'.startedAt.trans h.startedAt

theorem recordItem_sameRequest : SameRequest run (run.recordItem actionId result) := by
  unfold recordItem
  repeat' split
  all_goals exact ⟨rfl, rfl, rfl, rfl, rfl⟩

/-- Each record function adds one result and counts it. -/
theorem recordItem_results :
    (run.recordItem actionId result).itemResults =
      run.itemResults ++ [itemResult actionId result] := by
  unfold recordItem itemResult
  cases result with
  | ok item =>
    cases hsuccess : item.success with
    | true => simp [recordSuccess, hsuccess]
    | false => simp [recordFailure, hsuccess]
  | error e => cases e <;> rfl

theorem Tallied.recordItem (h : Tallied run) : Tallied (run.recordItem actionId result) := by
  obtain ⟨hsucceeded, hfailed, hskipped⟩ := h
  have hsuccess (decision : OrchestrationActionDecision) (reason status : String) :
      Tallied (run.recordSuccess actionId decision reason status) := by
    constructor
    · simp [recordSuccess, hsucceeded]
    · simp [recordSuccess, hfailed]
    · exact hskipped
  have hfailure (decision : OrchestrationActionDecision) (reason status : String) :
      Tallied (run.recordFailure actionId decision reason status) := by
    constructor
    · simp [recordFailure, hsucceeded]
    · simp only [recordFailure, List.countP_append, ← hfailed]
      simp +arith
    · exact hskipped
  have hnotFound : Tallied (run.recordNotFound actionId) := by
    constructor
    · simp [recordNotFound, hsucceeded]
    · simp only [recordNotFound, List.countP_append, ← hfailed]
      simp +arith
    · exact hskipped
  unfold OrchestrationRun.recordItem
  split
  · split
    · exact hsuccess _ _ _
    · exact hfailure _ _ _
  · exact hnotFound
  · exact hfailure _ _ _

/-- The counters of a tallied run add up to its results. -/
theorem Tallied.sum (h : Tallied run) :
    run.succeededCount + run.failedCount + run.skippedCount + run.notFoundCount =
      run.itemResults.length := by
  have hlength := List.length_eq_countP_add_countP RunItemResult.success (l := run.itemResults)
  have hnot : run.itemResults.countP (fun item => decide ¬item.success = true) =
      run.itemResults.countP fun item => !item.success := by
    simp
  have hsucceeded := h.succeeded
  have hfailed := h.failed
  have hskipped := h.skipped
  omega

end OrchestrationRun

/-- One item of a pass over action identifiers, with the actions as the earlier items left them. -/
structure Attempt where
  now : DateTime
  executor : Executor
  tenantId : Uuid
  actionId : Uuid
  actions : ActionRepo

namespace Attempt

variable (attempt : Attempt)

/-- The item as a run processes it. -/
def process : Except IntentRebaseError RunItemResult × ActionRepo :=
  processSingleAction attempt.actions attempt.now attempt.executor attempt.tenantId attempt.actionId

/-- The result that a run keeps of the item. -/
def result : RunItemResult := OrchestrationRun.itemResult attempt.actionId attempt.process.1

/-- The action that the item is about: a stored one, of the tenant. -/
def found : Option CompensationAction :=
  (attempt.actions.lookup attempt.actionId).filter fun action =>
    action.tenantId == attempt.tenantId

end Attempt

/-- The decision on an action, by its status. -/
def CompensationAction.decision (action : CompensationAction) : OrchestrationActionDecision :=
  match action.status with
  | .pending => .approve
  | .approved => if action.isServiceExecutable then .execute else .skip
  | .failed => if action.canBeReapproved then .reapprove else .skip
  | .executed | .waived => .skip

namespace Attempt

variable {attempt : Attempt} {action : CompensationAction} {call : Call}

/-- The decision on the item. -/
def decision (attempt : Attempt) : OrchestrationActionDecision :=
  match attempt.found with
  | some action => action.decision
  | none => .notFound

/-- The item finds a terminal action, an approved one that the service does not execute, or a failed
one that cannot be reapproved. -/
def FindsNothingToDo (attempt : Attempt) : Prop :=
  ∃ action, attempt.found = some action ∧
    (action.status.isTerminal = true ∨
      action.status = .approved ∧ action.isServiceExecutable = false ∨
      action.status = .failed ∧ action.canBeReapproved = false)

theorem found_eq_some : attempt.found = some action ↔
    attempt.actions.lookup attempt.actionId = some action ∧ action.tenantId = attempt.tenantId := by
  rw [found, Option.filter_eq_some_iff, beq_iff_eq]

theorem decision_eq_skip : attempt.decision = .skip ↔ attempt.FindsNothingToDo := by
  unfold decision FindsNothingToDo
  cases attempt.found with
  | none => simp
  | some action =>
    simp only [CompensationAction.decision, Option.some.injEq, exists_eq_left']
    cases action.status <;> simp [CompensationStatus.isTerminal]

/-- An item whose action calls for nothing is skipped. -/
theorem process_skip (hfound : attempt.found = some action)
    (hcall : decidedCall attempt.now attempt.executor action = none) :
    action.decision = .skip ∧
      ∃ reason, attempt.process = (.ok (.skipped action reason), attempt.actions) := by
  obtain ⟨hlookup, htenant⟩ := found_eq_some.mp hfound
  unfold decidedCall at hcall
  unfold CompensationAction.decision process processSingleAction ActionRepo.get
  simp only [hlookup, htenant, ne_eq, not_true_eq_false, if_false]
  cases hstatus : action.status with
  | pending => simp [hstatus] at hcall
  | approved =>
    simp only [hstatus] at hcall ⊢
    split at hcall
    · cases hcall
    · next hexecutable =>
      rw [handleApprovedAction, if_neg hexecutable, if_neg hexecutable]
      exact ⟨rfl, _, rfl⟩
  | failed =>
    simp only [hstatus] at hcall ⊢
    split at hcall
    · cases hcall
    · next hreapprovable =>
      rw [handleFailedAction, if_neg hreapprovable, if_neg hreapprovable]
      exact ⟨rfl, _, rfl⟩
  | executed => exact ⟨rfl, _, rfl⟩
  | waived => exact ⟨rfl, _, rfl⟩

/-- Any other item makes the service call that its action calls for. -/
theorem process_call (hfound : attempt.found = some action)
    (hcall : decidedCall attempt.now attempt.executor action = some call) :
    ∃ reason, attempt.process =
      (RunItemResult.ofOutcome action action.decision reason (call.apply attempt.actions)).map
        .ok id := by
  obtain ⟨hlookup, htenant⟩ := found_eq_some.mp hfound
  unfold decidedCall at hcall
  unfold CompensationAction.decision process processSingleAction ActionRepo.get
  simp only [hlookup, htenant, ne_eq, not_true_eq_false, if_false]
  cases hstatus : action.status with
  | pending =>
    simp only [hstatus, Option.some.injEq] at hcall
    subst hcall
    exact ⟨_, rfl⟩
  | approved =>
    simp only [hstatus] at hcall ⊢
    split at hcall
    · next hexecutable =>
      rw [handleApprovedAction, if_pos hexecutable, if_pos hexecutable]
      obtain rfl := Option.some.inj hcall
      exact ⟨_, rfl⟩
    · cases hcall
  | failed =>
    simp only [hstatus] at hcall ⊢
    split at hcall
    · next hreapprovable =>
      rw [handleFailedAction, if_pos hreapprovable, if_pos hreapprovable]
      obtain rfl := Option.some.inj hcall
      exact ⟨_, rfl⟩
    · cases hcall
  | executed => simp [hstatus] at hcall
  | waived => simp [hstatus] at hcall

/-- An item that finds no action of its tenant leaves the actions as they are. -/
theorem process_none (hfound : attempt.found = none) :
    attempt.process = (.error (.compensationActionNotFound attempt.actionId), attempt.actions) := by
  unfold found at hfound
  unfold process processSingleAction ActionRepo.get
  cases hlookup : attempt.actions.lookup attempt.actionId with
  | none => rfl
  | some action =>
    have htenant : action.tenantId ≠ attempt.tenantId := by
      simpa [hlookup, Option.filter_eq_none_iff] using hfound
    simp only [htenant, ne_eq, not_false_eq_true, if_true]

/-- The run keeps the decision on the item. -/
theorem result_actionTaken : attempt.result.actionTaken = attempt.decision := by
  unfold result decision
  cases hfound : attempt.found with
  | none => rw [process_none hfound, OrchestrationRun.itemResult]
  | some action =>
    cases hcall : decidedCall attempt.now attempt.executor action with
    | none =>
      obtain ⟨hdecision, reason, hprocess⟩ := process_skip hfound hcall
      rw [hprocess]
      exact hdecision.symm
    | some call =>
      obtain ⟨reason, hprocess⟩ := process_call hfound hcall
      rw [hprocess]
      rcases call.apply attempt.actions with ⟨_ | _, _⟩ <;> rfl

end Attempt

section Pass

variable (executor : DateTime → Executor) (clock : Nat → DateTime) (tenantId : Uuid)

/-- The items of a pass, for what an item does to the actions. -/
def attempts (item : Attempt → ActionRepo) : Nat → List Uuid → ActionRepo → List Attempt
  | _, [], _ => []
  | tick, actionId :: rest, actions =>
    let attempt : Attempt :=
      { now := clock tick, executor := executor (clock tick), tenantId, actionId, actions }
    attempt :: attempts item (tick + 1) rest (item attempt)

/-- The items of a run over the actions as they are when it starts. -/
def runAttempts (actionIds : List Uuid) (actions : ActionRepo) : List Attempt :=
  attempts executor clock tenantId (fun attempt => attempt.process.2) 1 actionIds actions

variable {executor clock tenantId} {item : Attempt → ActionRepo} {tick : Nat}
  {actionIds : List Uuid} {actions : ActionRepo}

theorem attempts_actionId :
    (attempts executor clock tenantId item tick actionIds actions).map Attempt.actionId =
      actionIds := by
  induction actionIds generalizing tick actions with
  | nil => rfl
  | cons actionId rest ih => rw [attempts, List.map_cons, ih]

theorem attempts_length :
    (attempts executor clock tenantId item tick actionIds actions).length = actionIds.length := by
  induction actionIds generalizing tick actions with
  | nil => rfl
  | cons actionId rest ih => rw [attempts, List.length_cons, List.length_cons, ih]

/-- What the items keep of the actions holds of the actions that each item finds. -/
theorem attempts_all {p : ActionRepo → Prop}
    (hkeep : ∀ attempt : Attempt, p attempt.actions → p (item attempt)) (h : p actions) :
    ∀ attempt ∈ attempts executor clock tenantId item tick actionIds actions,
      p attempt.actions := by
  induction actionIds generalizing tick actions with
  | nil => exact fun _ hmem => absurd hmem List.not_mem_nil
  | cons actionId rest ih =>
    rw [attempts, List.forall_mem_cons]
    exact ⟨h, ih (hkeep _ h)⟩

end Pass

/-- What a pass over a stored run leaves of it. -/
structure Passed (items : List Attempt) (run finished : OrchestrationRun) : Prop where
  request : run.SameRequest finished
  tallied : run.Tallied → finished.Tallied
  results : finished.itemResults = run.itemResults ++ items.map Attempt.result

section Runs

variable (executor : DateTime → Executor) (clock : Nat → DateTime)

/-- The pass over a stored run stores its items' results in it, changes no other run, and does to
the actions what its items do in turn. -/
theorem processItems_passed (tenantId : Uuid) (tick : Nat) (actionIds : List Uuid)
    {run : OrchestrationRun} {store : OrchestrationStore}
    (h : store.runs.lookup run.id = some run) :
    ∃ finished after,
      processItems executor clock tenantId tick actionIds run store = (.ok finished, after) ∧
      after.runs.lookup run.id = some finished ∧
      (∀ other, other ≠ run.id → after.runs.lookup other = store.runs.lookup other) ∧
      after.actions =
        runActivities store.actions (itemActivities executor clock tenantId tick actionIds) ∧
      Passed (attempts executor clock tenantId (fun attempt => attempt.process.2) tick actionIds
        store.actions) run finished := by
  induction actionIds generalizing tick run store with
  | nil =>
    exact ⟨run, store, rfl, h, fun _ _ => rfl, rfl, ⟨rfl, rfl, rfl, rfl, rfl⟩, id,
      (List.append_nil _).symm⟩
  | cons actionId rest ih =>
    let attempt : Attempt :=
      { now := clock tick, executor := executor (clock tick), tenantId, actionId
        actions := store.actions }
    let recorded := run.recordItem actionId attempt.process.1
    have hid : recorded.id = run.id := run.recordItem_id _ _
    let next : OrchestrationStore :=
      { runs := store.runs.insert recorded.id recorded, actions := attempt.process.2 }
    have hupdate : store.runs.update recorded = .ok next.runs :=
      RunRepo.update_stored (hid ▸ h)
    have hnext : next.runs.lookup recorded.id = some recorded := AList.lookup_insert _
    obtain ⟨finished, after, hrun, hfinished, hothers, hactions, hpassed⟩ := ih (tick + 1) hnext
    refine ⟨finished, after, ?_, hid ▸ hfinished, ?_, hactions, ?_, ?_, ?_⟩
    · have hitem : processSingleAction store.actions (clock tick) (executor (clock tick)) tenantId
          actionId = (attempt.process.1, attempt.process.2) := rfl
      simp only [processItems, hitem]
      rw [hupdate]
      exact hrun
    · intro other hother
      rw [← hid] at hother
      rw [hothers other hother]
      exact AList.lookup_insert_ne hother
    · exact OrchestrationRun.recordItem_sameRequest.trans hpassed.request
    · exact fun htallied => hpassed.tallied htallied.recordItem
    · rw [hpassed.results, OrchestrationRun.recordItem_results, List.append_assoc]
      rfl

theorem executeExistingRun_none {store : OrchestrationStore} {runId : Uuid}
    (h : store.runs.lookup runId = none) :
    executeExistingRun executor clock store runId =
      (.error (.orchestrationRunNotFound runId), store) := by
  simp only [executeExistingRun, RunRepo.get, h]

/-- An execution of a stored run goes once through its identifiers, completes it and stores it, and
does to the actions what its items do in turn. -/
theorem executeExistingRun_passed {store : OrchestrationStore} {runId : Uuid}
    {run : OrchestrationRun} (hstored : store.runs.lookup runId = some run) (hid : run.id = runId) :
    ∃ finished after,
      let completed := finished.markCompleted (clock (finished.actionIds.length + 1))
      executeExistingRun executor clock store runId = (.ok completed, after) ∧
      after.runs.lookup runId = some completed ∧
      (∀ other, other ≠ runId → after.runs.lookup other = store.runs.lookup other) ∧
      after.actions =
        runActivities store.actions (itemActivities executor clock run.tenantId 1 run.actionIds) ∧
      Passed (runAttempts executor clock run.tenantId run.actionIds store.actions)
        (run.markStarted (clock 0)) finished := by
  subst hid
  let started := run.markStarted (clock 0)
  let next : OrchestrationStore := { store with runs := store.runs.insert run.id started }
  have hstarted : store.runs.update started = .ok next.runs := RunRepo.update_stored hstored
  have hnext : next.runs.lookup started.id = some started := AList.lookup_insert _
  obtain ⟨finished, after, hrun, hfinished, hothers, hactions, hpassed⟩ :=
    processItems_passed executor clock run.tenantId 1 run.actionIds hnext
  have hid : finished.id = run.id := hpassed.request.id
  let completed := finished.markCompleted (clock (finished.actionIds.length + 1))
  have hcompleted : after.runs.update completed = .ok (after.runs.insert run.id completed) := by
    have hlookup : after.runs.lookup completed.id = some finished := by
      change after.runs.lookup finished.id = some finished
      rw [hid]
      exact hfinished
    rw [RunRepo.update_stored hlookup]
    exact congrArg (fun id => Except.ok (after.runs.insert id completed)) hid
  have hget : store.runs.get run.id = .ok run := by rw [RunRepo.get, hstored]
  refine ⟨finished, { after with runs := after.runs.insert run.id completed }, ?_, ?_, ?_, hactions,
    hpassed⟩
  · simp only [executeExistingRun, hget]
    rw [hstarted]
    dsimp only
    rw [hrun]
    dsimp only
    rw [hcompleted]
  · exact AList.lookup_insert _
  · intro other hother
    calc (after.runs.insert run.id completed).lookup other = after.runs.lookup other :=
          AList.lookup_insert_ne hother
      _ = next.runs.lookup other := hothers other hother
      _ = store.runs.lookup other := AList.lookup_insert_ne hother

/-- A stored run does to the actions what its items do in turn. -/
theorem executeExistingRun_actions {store : OrchestrationStore} {run : OrchestrationRun}
    (h : store.runs.lookup run.id = some run) :
    (executeExistingRun executor clock store run.id).2.actions =
      runActivities store.actions (itemActivities executor clock run.tenantId 1 run.actionIds) := by
  obtain ⟨finished, after, hrun, -, -, hactions, -⟩ :=
    executeExistingRun_passed executor clock h rfl
  rw [hrun]
  exact hactions

end Runs

/-- What happens to the stored runs and actions: an action is created, a run is created or executed,
or a service call comes from elsewhere. -/
inductive RunEvent where
  | plan (action : CompensationAction)
  | create (runId : Uuid) (now : DateTime) (tenantId : Uuid) (actionIds : List Uuid)
      (initiatedBy : Option String) (intentId : Option Uuid)
  | execute (executor : DateTime → Executor) (clock : Nat → DateTime) (runId : Uuid)
  | request (call : Call)

def RunEvent.apply (event : RunEvent) (store : OrchestrationStore) : OrchestrationStore :=
  match event with
  | .plan action => { store with actions := store.actions.create action }
  | .create runId now tenantId actionIds initiatedBy intentId =>
    { store with
      runs := store.runs.create (.new runId now tenantId actionIds initiatedBy intentId) }
  | .execute executor clock runId => (executeExistingRun executor clock store runId).2
  | .request call => { store with actions := (call.apply store.actions).2 }

/-- The store after a history that starts with no runs and no actions. -/
def runEvents (events : List RunEvent) : OrchestrationStore :=
  events.foldl (fun store event => event.apply store) { runs := ∅, actions := ∅ }

theorem runEvents_concat {events : List RunEvent} {event : RunEvent} :
    runEvents (events ++ [event]) = event.apply (runEvents events) := by
  rw [runEvents, List.foldl_append]
  rfl

/-- What every stored run keeps through its executions. -/
structure OrchestrationRun.Kept (runId : Uuid) (run : OrchestrationRun) : Prop where
  id : run.id = runId
  total : run.totalCount = run.actionIds.length
  tallied : run.Tallied
  /-- A run that has not been started has no results, and a started one has some. -/
  unstarted : run.itemResults = [] ↔ run.startedAt = none ∨ run.actionIds = []

namespace OrchestrationRun

theorem kept_new {runId tenantId : Uuid} {now : DateTime} {actionIds : List Uuid}
    {initiatedBy : Option String} {intentId : Option Uuid} :
    Kept runId (.new runId now tenantId actionIds initiatedBy intentId) where
  id := rfl
  total := rfl
  tallied := ⟨rfl, rfl, rfl⟩
  unstarted := ⟨fun _ => .inl rfl, fun _ => rfl⟩

/-- An execution keeps what a stored run keeps. -/
theorem Kept.passed {runId : Uuid} {run finished : OrchestrationRun} {now later : DateTime}
    {executor : DateTime → Executor} {clock : Nat → DateTime} {actions : ActionRepo}
    (h : Kept runId run)
    (hpassed : Passed (runAttempts executor clock run.tenantId run.actionIds actions)
      (run.markStarted now) finished) : Kept runId (finished.markCompleted later) where
  id := hpassed.request.id.trans h.id
  total := by
    have htotal : finished.totalCount = run.totalCount := hpassed.request.totalCount
    have hids : finished.actionIds = run.actionIds := hpassed.request.actionIds
    change finished.totalCount = finished.actionIds.length
    rw [htotal, hids, h.total]
  tallied := by
    have hstarted : (run.markStarted now).Tallied := ⟨h.tallied.1, h.tallied.2, h.tallied.3⟩
    have hfinished := hpassed.tallied hstarted
    exact ⟨hfinished.1, hfinished.2, hfinished.3⟩
  unstarted := by
    have hids : finished.actionIds = run.actionIds := hpassed.request.actionIds
    have hstarted : finished.startedAt = some now := hpassed.request.startedAt
    have hresults : finished.itemResults = run.itemResults ++ _ := hpassed.results
    change finished.itemResults = [] ↔ finished.startedAt = none ∨ finished.actionIds = []
    rw [hresults, hstarted, hids, List.append_eq_nil_iff, List.map_eq_nil_iff,
      ← List.length_eq_zero_iff (l := runAttempts _ _ _ _ _), runAttempts, attempts_length,
      List.length_eq_zero_iff, h.unstarted]
    simp +contextual

end OrchestrationRun

/-- Every stored run keeps this, in every history. -/
theorem runEvents_kept (events : List RunEvent) {runId : Uuid} {run : OrchestrationRun}
    (h : (runEvents events).runs.lookup runId = some run) : run.Kept runId := by
  induction events using List.reverseRecOn generalizing runId run with
  | nil =>
    rw [runEvents, List.foldl_nil, AList.lookup_empty] at h
    cases h
  | append_singleton events event ih =>
    rw [runEvents_concat] at h
    cases event with
    | plan action => exact ih h
    | request call => exact ih h
    | create createdId now tenantId actionIds initiatedBy intentId =>
      rw [RunEvent.apply, RunRepo.create, lookup_insert_eq] at h
      split at h
      · next heq =>
        obtain rfl := Option.some.inj h
        rw [heq]
        exact OrchestrationRun.kept_new
      · exact ih h
    | execute executor clock executedId =>
      cases hlookup : (runEvents events).runs.lookup executedId with
      | none =>
        rw [RunEvent.apply, executeExistingRun_none executor clock hlookup] at h
        exact ih h
      | some before =>
        have hkept := ih hlookup
        obtain ⟨finished, after, hrun, hfinished, hothers, -, hpassed⟩ :=
          executeExistingRun_passed executor clock hlookup hkept.id
        rw [RunEvent.apply, hrun] at h
        by_cases heq : runId = executedId
        · subst heq
          obtain rfl := Option.some.inj (hfinished.symm.trans h)
          exact hkept.passed hpassed
        · exact ih ((hothers runId heq).symm.trans h)

section Accounting

/-- The account that a run gives of its items. -/
structure OrchestrationRun.Balanced (run : OrchestrationRun) : Prop where
  total : run.succeededCount + run.failedCount + run.skippedCount + run.notFoundCount =
    run.totalCount
  results : run.itemResults.length = run.totalCount
  /-- Exactly one result for each requested action, in the order of the request. -/
  actionIds : run.itemResults.map RunItemResult.actionId = run.actionIds
  skipped : run.skippedCount =
    run.itemResults.countP fun item => item.actionTaken = OrchestrationActionDecision.skip

variable {executor : DateTime → Executor} {clock : Nat → DateTime}

theorem runAttempts_actionId {tenantId : Uuid} {actionIds : List Uuid} {actions : ActionRepo} :
    ((runAttempts executor clock tenantId actionIds actions).map Attempt.result).map
      RunItemResult.actionId = actionIds := by
  have hid : RunItemResult.actionId ∘ Attempt.result = Attempt.actionId :=
    funext fun _ => OrchestrationRun.itemResult_actionId
  rw [List.map_map, hid]
  exact attempts_actionId

theorem Attempt.not_skipped {items : List Attempt} :
    (∀ item ∈ items.map Attempt.result, item.actionTaken ≠ .skip) ↔
      ∀ attempt ∈ items, ¬ attempt.FindsNothingToDo := by
  simp only [List.forall_mem_map, result_actionTaken, ne_eq, decision_eq_skip]

/-- A run that keeps its tally is balanced if and only if it has one result for each action and
nothing was skipped. -/
theorem OrchestrationRun.Kept.balanced_iff {runId : Uuid} {run : OrchestrationRun}
    (h : run.Kept runId) : run.Balanced ↔
      run.itemResults.map RunItemResult.actionId = run.actionIds ∧
        ∀ item ∈ run.itemResults, item.actionTaken ≠ .skip := by
  constructor
  · intro hbalanced
    refine ⟨hbalanced.actionIds, ?_⟩
    have hnone := hbalanced.skipped
    rw [h.tallied.skipped, eq_comm, List.countP_eq_zero] at hnone
    simpa using hnone
  · rintro ⟨hids, hnone⟩
    have hlength : run.itemResults.length = run.actionIds.length := by
      rw [← hids, List.length_map]
    refine ⟨?_, hlength.trans h.total.symm, hids, ?_⟩
    · rw [h.tallied.sum, hlength, h.total]
    · rw [h.tallied.skipped, eq_comm, List.countP_eq_zero]
      simpa using hnone

/-- In every history, a call that executes a run answers and stores a balanced run if and only if it
is the first one on it (or the run lists no actions), and no item of it finds its action with
nothing to do. -/
theorem balanced_iff_first_nothing_skipped {events : List RunEvent} {runId : Uuid}
    {run returned : OrchestrationRun} {after : OrchestrationStore}
    (hstored : (runEvents events).runs.lookup runId = some run)
    (hok : executeExistingRun executor clock (runEvents events) runId = (.ok returned, after)) :
    (after.runs.lookup runId = some returned ∧ returned.Balanced) ↔
      (run.startedAt = none ∨ run.actionIds = []) ∧
        ∀ attempt ∈ runAttempts executor clock run.tenantId run.actionIds
          (runEvents events).actions, ¬ attempt.FindsNothingToDo := by
  have hkept := runEvents_kept events hstored
  obtain ⟨finished, _, hrun, hreturned, -, -, hpassed⟩ :=
    executeExistingRun_passed executor clock hstored hkept.id
  rw [hok] at hrun
  obtain ⟨rfl, rfl⟩ : returned = _ ∧ after = _ := by simpa using hrun
  have hids : finished.actionIds = run.actionIds := hpassed.request.actionIds
  have hresults : finished.itemResults = run.itemResults ++ _ := hpassed.results
  rw [and_iff_right hreturned, (hkept.passed hpassed).balanced_iff, ← hkept.unstarted,
    ← Attempt.not_skipped]
  change finished.itemResults.map _ = finished.actionIds ∧ (∀ item ∈ finished.itemResults, _) ↔ _
  rw [hresults, hids]
  constructor
  · rintro ⟨hmap, hnone⟩
    have hlength := congrArg List.length hmap
    rw [List.map_append, runAttempts_actionId, List.length_append, List.length_map,
      Nat.add_eq_right, List.length_eq_zero_iff] at hlength
    exact ⟨hlength, fun item hmem => hnone item (List.mem_append_right _ hmem)⟩
  · rintro ⟨hfirst, hnone⟩
    rw [hfirst, List.nil_append]
    exact ⟨runAttempts_actionId, hnone⟩

/-- A clock that is read once a second. -/
def sampleClock (tick : Nat) : DateTime := tick

/-- A planned action 7, and a run 9 on it that is not started yet. -/
def sampleRun (actionIds : List Uuid) : List RunEvent :=
  let context : RebaseContext := { intentId := 3, fromVersion := 1, toVersion := 2, workflowId := 4 }
  (classifyAndPlanAction 7 0 2 (SideEffect.sample .s1InternalReversible) context).toList.map
      RunEvent.plan ++
    [.create 9 0 2 actionIds none none]

/-- The first execution of a run: it approves an action, and another is not found. -/
theorem balanced_sample :
    ∃ returned after,
      executeExistingRun (runExecutor none) sampleClock (runEvents (sampleRun [7, 8])) 9 =
        (.ok returned, after) ∧
      after.runs.lookup 9 = some returned ∧ returned.Balanced := by
  have hstored : (runEvents (sampleRun [7, 8])).runs.lookup 9 =
      some (.new 9 0 2 [7, 8] none none) := rfl
  obtain ⟨finished, after, hrun, -⟩ :=
    executeExistingRun_passed (runExecutor none) sampleClock hstored rfl
  refine ⟨_, after, hrun, (balanced_iff_first_nothing_skipped hstored hrun).mpr ⟨.inl rfl, ?_⟩⟩
  simp only [← Attempt.decision_eq_skip]
  decide

/-- A second execution of a run counts its items again, and the item of a waived action is counted
as a success. -/
theorem not_balanced :
    ¬ (∀ (events : List RunEvent) (executor : DateTime → Executor) (clock : Nat → DateTime)
        (runId : Uuid) (returned : OrchestrationRun) (after : OrchestrationStore),
      executeExistingRun executor clock (runEvents events) runId = (.ok returned, after) →
      returned.succeededCount + returned.failedCount + returned.skippedCount +
        returned.notFoundCount = returned.totalCount) ∧
    ¬ (∀ (events : List RunEvent) (executor : DateTime → Executor) (clock : Nat → DateTime)
        (runId : Uuid) (returned : OrchestrationRun) (after : OrchestrationStore),
      executeExistingRun executor clock (runEvents events) runId = (.ok returned, after) →
      returned.skippedCount = returned.itemResults.countP fun item =>
        item.actionTaken = OrchestrationActionDecision.skip) := by
  constructor
  · intro hclaim
    have htwice := hclaim (sampleRun [7] ++ [.execute (runExecutor none) sampleClock 9])
      (runExecutor none) sampleClock 9 _ _ rfl
    exact absurd htwice (by decide)
  · intro hclaim
    have hwaived := hclaim (sampleRun [7] ++ [.request (.waive 0 7 0 none)])
      (runExecutor none) sampleClock 9 _ _ rfl
    exact absurd hwaived (by decide)

end Accounting

end IntentRebase
