import IntentRebase.Compensation.ActionQueries
import IntentRebase.Compensation.InMemoryRepository
import IntentRebase.Compensation.RunReport
import IntentRebase.Kit.TwoRuns

/-! The dry run of an orchestration: what it proposes for each action of a list without touching
any, against what a run over the same list then decides. -/

namespace IntentRebase

open Kit

inductive OrchestrationAction where
  | approve | reapprove | execute | noAction
deriving DecidableEq, Repr

structure OrchestrationActionProposal where
  actionId : Uuid
  proposedAction : OrchestrationAction
  reason : String
  currentStatus : CompensationStatus
deriving DecidableEq, Repr

structure OrchestrationDryRunSummary where
  total : Nat
  canApprove : Nat
  canReapprove : Nat
  canExecute : Nat
  noAction : Nat
  notFound : Nat
deriving DecidableEq, Repr

structure OrchestrationDryRunResult where
  proposals : List OrchestrationActionProposal
  notFound : List Uuid
  summary : OrchestrationDryRunSummary
deriving DecidableEq, Repr

/-- The proposal for a stored action, by its status. -/
def computeActionProposal (action : CompensationAction) : OrchestrationActionProposal :=
  let feasibility := formatFeasibility action.feasibility
  let (proposedAction, reason) : OrchestrationAction × String :=
    match action.status with
    | .pending =>
      if (action.status.canTransitionTo .approved).allowed then
        (.approve, s!"Action is pending approval with {feasibility} feasibility")
      else (.noAction, "Action is pending but cannot transition to approved")
    | .approved =>
      if action.isServiceExecutable then
        (.execute,
          s!"Action is approved with {feasibility} feasibility and no blocking conditions")
      else (.noAction, s!"Action is approved but requires manual execution ({feasibility})")
    | .failed =>
      if action.canBeReapproved then
        (.reapprove,
          s!"Action failed but can be reapproved ({action.maxRetries - action.attemptCount} " ++
            s!"retry attempts remaining, {feasibility} feasibility)")
      else
        match action.reapprovalDenialReason with
        | some reason => (.noAction, reason)
        | none =>
          (.noAction, "Action failed with non-retryable error or exhausted budget " ++
            s!"({feasibility} feasibility)")
    | .executed => (.noAction, "Action has already been executed (terminal state)")
    | .waived => (.noAction, "Action has been waived (terminal state)")
  { actionId := action.id, proposedAction, reason, currentStatus := action.status }

namespace OrchestrationDryRunResult

/-- The result before the first action. -/
def start (total : Nat) : OrchestrationDryRunResult where
  proposals := []
  notFound := []
  summary :=
    { total, canApprove := 0, canReapprove := 0, canExecute := 0, noAction := 0, notFound := 0 }

variable (result : OrchestrationDryRunResult)

def addNotFound (actionId : Uuid) : OrchestrationDryRunResult :=
  { result with
    notFound := result.notFound ++ [actionId]
    summary := { result.summary with
      notFound := result.summary.notFound + 1
      noAction := result.summary.noAction + 1 } }

def addProposal (proposal : OrchestrationActionProposal) : OrchestrationDryRunResult :=
  let summary := result.summary
  { result with
    proposals := result.proposals ++ [proposal]
    summary :=
      match proposal.proposedAction with
      | .approve => { summary with canApprove := summary.canApprove + 1 }
      | .reapprove => { summary with canReapprove := summary.canReapprove + 1 }
      | .execute => { summary with canExecute := summary.canExecute + 1 }
      | .noAction => { summary with noAction := summary.noAction + 1 } }

end OrchestrationDryRunResult

section Plan

variable (repo : ActionRepo) (tenantId : Uuid)

/-- The pass over the identifiers. An action of another tenant counts as not found. -/
def planItems : List Uuid → OrchestrationDryRunResult →
    Except IntentRebaseError OrchestrationDryRunResult
  | [], result => .ok result
  | actionId :: rest, result =>
    match repo.get actionId with
    | .ok action =>
      if action.tenantId ≠ tenantId then planItems rest (result.addNotFound actionId)
      else planItems rest (result.addProposal (computeActionProposal action))
    | .error (.compensationActionNotFound _) => planItems rest (result.addNotFound actionId)
    | .error e => .error e

def planOrchestrationActions (actionIds : List Uuid) :
    Except IntentRebaseError OrchestrationDryRunResult :=
  planItems repo tenantId actionIds (.start actionIds.length)

/-- The stored action of the tenant under an identifier. -/
def ownAction (actionId : Uuid) : Option CompensationAction :=
  (repo.lookup actionId).filter fun action => action.tenantId == tenantId

/-- One identifier adds the proposal for the tenant's own action, or itself as not found. -/
theorem planItems_cons (actionId : Uuid) (rest : List Uuid) (result : OrchestrationDryRunResult) :
    planItems repo tenantId (actionId :: rest) result = planItems repo tenantId rest
      (((ownAction repo tenantId actionId).map fun action =>
        result.addProposal (computeActionProposal action)).getD (result.addNotFound actionId)) := by
  rw [planItems, ActionRepo.get, ownAction]
  cases hlookup : repo.lookup actionId with
  | none => rfl
  | some action =>
    dsimp only
    by_cases htenant : action.tenantId = tenantId
    · simp [Option.filter, htenant]
    · simp [Option.filter, htenant]

/-- A dry run always answers: it proposes for the tenant's own actions, in order, and names the
other identifiers as not found. -/
theorem planItems_ok (actionIds : List Uuid) (result : OrchestrationDryRunResult) :
    ∃ plan, planItems repo tenantId actionIds result = .ok plan ∧
      plan.proposals = result.proposals ++ actionIds.filterMap (fun actionId =>
        (ownAction repo tenantId actionId).map computeActionProposal) ∧
      plan.notFound = result.notFound ++ actionIds.filter (fun actionId =>
        (ownAction repo tenantId actionId).isNone) := by
  induction actionIds generalizing result with
  | nil => exact ⟨result, rfl, by simp, by simp⟩
  | cons actionId rest ih =>
    rw [planItems_cons]
    cases hown : ownAction repo tenantId actionId with
    | none =>
      obtain ⟨plan, hplan, hproposals, hnotFound⟩ := ih (result.addNotFound actionId)
      refine ⟨plan, hplan, ?_, ?_⟩
      · rw [hproposals]
        simp [OrchestrationDryRunResult.addNotFound, hown]
      · rw [hnotFound]
        simp [OrchestrationDryRunResult.addNotFound, hown]
    | some action =>
      obtain ⟨plan, hplan, hproposals, hnotFound⟩ :=
        ih (result.addProposal (computeActionProposal action))
      refine ⟨plan, hplan, ?_, ?_⟩
      · rw [hproposals]
        simp [OrchestrationDryRunResult.addProposal, hown]
      · rw [hnotFound]
        simp [OrchestrationDryRunResult.addProposal, hown]

end Plan

/-- The decision of a run that a proposal foresees. -/
def OrchestrationAction.decision : OrchestrationAction → OrchestrationActionDecision
  | .approve => .approve
  | .reapprove => .reapprove
  | .execute => .execute
  | .noAction => .skip

/-- The proposal for an action is the decision on it. -/
theorem computeActionProposal_decision (action : CompensationAction) :
    (computeActionProposal action).proposedAction.decision = action.decision := by
  unfold computeActionProposal CompensationAction.decision
  cases hstatus : action.status with
  | pending => simp [CompensationStatus.canTransitionTo, OrchestrationAction.decision]
  | approved =>
    dsimp only
    split <;> rfl
  | failed =>
    dsimp only
    split
    · rfl
    · cases action.reapprovalDenialReason <;> rfl
  | executed => rfl
  | waived => rfl

/-- The gate lets an action pass exactly if a run decides to execute it. -/
theorem computeGateStatus_eligible (action : CompensationAction) :
    computeGateStatus action = .eligible ↔ action.decision = .execute :=
  eligible_iff.trans decision_eq_execute.symm

section Agreement

variable {repo : ActionRepo} {tenantId : Uuid} {executor : DateTime → Executor}
  {clock : Nat → DateTime}

/-- An item leaves what is stored under any other identifier. -/
theorem Activity.item_lookup_ne {now : DateTime} {executor : Executor} {itemId actionId : Uuid}
    (hkeyed : Keyed repo) (hne : actionId ≠ itemId) :
    ((Activity.item now executor tenantId itemId).apply repo).lookup actionId =
      repo.lookup actionId := by
  rw [Activity.apply_eq, Activity.calls, itemCall]
  cases hitem : repo.lookup itemId with
  | none => rfl
  | some target =>
    dsimp only
    split
    · cases hcall : decidedCall now executor target with
      | none => rfl
      | some call =>
        refine Call.apply_other ?_
        rwa [decidedCall_actionId hcall, hkeyed itemId target hitem]
    · rfl

/-- Among distinct identifiers, each item of a pass finds its action as the pass began with it. -/
theorem attempts_lookup (hkeyed : Keyed repo) {tick : Nat} {actionIds : List Uuid}
    (hdistinct : actionIds.Nodup) :
    ∀ attempt ∈ attempts executor clock tenantId (fun attempt => attempt.process.2) tick actionIds
      repo, attempt.tenantId = tenantId ∧
        attempt.actions.lookup attempt.actionId = repo.lookup attempt.actionId := by
  induction actionIds generalizing tick repo with
  | nil => exact fun _ hmem => absurd hmem List.not_mem_nil
  | cons actionId rest ih =>
    obtain ⟨hfresh, hrest⟩ := List.nodup_cons.mp hdistinct
    rw [attempts, List.forall_mem_cons]
    refine ⟨⟨rfl, rfl⟩, fun attempt hmem => ?_⟩
    let item := Activity.item (clock tick) (executor (clock tick)) tenantId actionId
    obtain ⟨htenant, hlookup⟩ := ih (hkeyed.apply item) hrest attempt hmem
    have hid : attempt.actionId ∈ rest := by
      have hmapped := List.mem_map_of_mem (f := Attempt.actionId) hmem
      rwa [attempts_actionId] at hmapped
    refine ⟨htenant, hlookup.trans (Activity.item_lookup_ne hkeyed ?_)⟩
    rintro rfl
    exact hfresh hid

/-- The decision that a run takes on an identifier, from the actions as it begins. -/
def plannedDecision (repo : ActionRepo) (tenantId actionId : Uuid) : OrchestrationActionDecision :=
  match ownAction repo tenantId actionId with
  | some action => action.decision
  | none => .notFound

theorem attempts_decision (hkeyed : Keyed repo) {tick : Nat} {actionIds : List Uuid}
    (hdistinct : actionIds.Nodup) :
    ∀ attempt ∈ attempts executor clock tenantId (fun attempt => attempt.process.2) tick actionIds
      repo, attempt.decision = plannedDecision repo tenantId attempt.actionId := by
  intro attempt hmem
  obtain ⟨htenant, hlookup⟩ := attempts_lookup hkeyed hdistinct attempt hmem
  rw [Attempt.decision, Attempt.found, hlookup, htenant]
  rfl

end Agreement

/-- The dry run foresees a decision on an identifier: it does not find its action, or proposes that
decision for it. -/
def OrchestrationDryRunResult.Foresees (plan : OrchestrationDryRunResult) (actionId : Uuid)
    (decision : OrchestrationActionDecision) : Prop :=
  (actionId ∈ plan.notFound ∧ decision = .notFound) ∨
  ∃ proposal ∈ plan.proposals, proposal.actionId = actionId ∧
    proposal.proposedAction.decision = decision

theorem ownAction_id {repo : ActionRepo} {tenantId actionId : Uuid} {action : CompensationAction}
    (hkeyed : Keyed repo) (h : ownAction repo tenantId actionId = some action) :
    action.id = actionId :=
  hkeyed actionId action (Option.filter_eq_some_iff.mp h).1

/-- On each of its identifiers a dry run foresees the decision of a run, and no other. -/
theorem foresees_iff {repo : ActionRepo} {tenantId : Uuid} {actionIds : List Uuid}
    {plan : OrchestrationDryRunResult} (hkeyed : Keyed repo)
    (hplan : planOrchestrationActions repo tenantId actionIds = .ok plan) {actionId : Uuid}
    (hlisted : actionId ∈ actionIds) (decision : OrchestrationActionDecision) :
    plan.Foresees actionId decision ↔ plannedDecision repo tenantId actionId = decision := by
  obtain ⟨plan', hplan', hproposals, hnotFound⟩ :=
    planItems_ok repo tenantId actionIds (.start actionIds.length)
  obtain rfl : plan = plan' := Except.ok.inj (hplan.symm.trans hplan')
  have hproposed : (∃ proposal ∈ plan.proposals, proposal.actionId = actionId ∧
      proposal.proposedAction.decision = decision) ↔
      ∃ action, ownAction repo tenantId actionId = some action ∧ action.decision = decision := by
    rw [hproposals]
    constructor
    · rintro ⟨proposal, hmem, hid, hdecision⟩
      obtain ⟨listed, -, hproposal⟩ := List.mem_filterMap.mp hmem
      obtain ⟨action, hown, rfl⟩ := Option.map_eq_some_iff.mp hproposal
      obtain rfl : listed = actionId := (ownAction_id hkeyed hown).symm.trans hid
      exact ⟨action, hown, (computeActionProposal_decision action).symm.trans hdecision⟩
    · rintro ⟨action, hown, hdecision⟩
      refine ⟨computeActionProposal action, List.mem_filterMap.mpr ⟨actionId, hlisted, ?_⟩,
        ownAction_id hkeyed hown, (computeActionProposal_decision action).trans hdecision⟩
      rw [hown, Option.map_some]
  rw [OrchestrationDryRunResult.Foresees, hproposed, hnotFound, plannedDecision]
  cases hown : ownAction repo tenantId actionId with
  | none => simp [OrchestrationDryRunResult.start, hlisted, hown, eq_comm]
  | some action => simp [OrchestrationDryRunResult.start, hown]

/-- The gates of the listed actions. -/
theorem mem_evaluations {actions : List CompensationAction} {evaluation : PolicyGateEvaluation} :
    evaluation ∈ (evaluatePolicyGatesFromActions actions).evaluations ↔
      ∃ action ∈ actions, evaluateSingleAction action = evaluation := List.mem_map

/-- Among the tenant's actions, the gate is open for the one under an identifier exactly if a run
decides to execute it. -/
theorem eligible_listed_iff {repo : ActionRepo} {tenantId : Uuid}
    {actions : List CompensationAction} (hkeyed : Keyed repo)
    (hactions : ∀ action, action ∈ actions ↔
      action.tenantId = tenantId ∧ ∃ actionId, repo.lookup actionId = some action)
    (actionId : Uuid) :
    (∃ evaluation ∈ (evaluatePolicyGatesFromActions actions).evaluations,
      evaluation.action.id = actionId ∧ evaluation.gateStatus = .eligible) ↔
      plannedDecision repo tenantId actionId = .execute := by
  rw [plannedDecision]
  constructor
  · rintro ⟨_, hmem, hid, heligible⟩
    obtain ⟨action, haction, rfl⟩ := mem_evaluations.mp hmem
    obtain ⟨htenant, storedId, hlookup⟩ := (hactions action).mp haction
    obtain rfl : storedId = actionId := (hkeyed storedId action hlookup).symm.trans hid
    have hown : ownAction repo tenantId storedId = some action := by
      simp [ownAction, hlookup, htenant]
    rw [hown]
    exact (computeGateStatus_eligible action).mp heligible
  · intro hdecision
    cases hown : ownAction repo tenantId actionId with
    | none =>
      rw [hown] at hdecision
      cases hdecision
    | some action =>
      rw [hown] at hdecision
      obtain ⟨hlookup, htenant⟩ := Option.filter_eq_some_iff.mp hown
      refine ⟨evaluateSingleAction action, mem_evaluations.mpr ⟨action, ?_, rfl⟩,
        ownAction_id hkeyed hown, (computeGateStatus_eligible action).mpr hdecision⟩
      exact (hactions action).mpr ⟨beq_iff_eq.mp htenant, actionId, hlookup⟩

/-- A dry run over distinct identifiers always answers, and a run from the same store takes on each
of them the one decision that it foresees; the gate of the tenant's actions is open for exactly
those that the run executes. -/
theorem dry_run_agrees (executor : DateTime → Executor) (clock : Nat → DateTime)
    (store : OrchestrationStore) (hkeyed : Keyed store.actions) (runId tenantId : Uuid)
    (actionIds : List Uuid) (hdistinct : actionIds.Nodup) (initiatedBy : Option String)
    (intentId : Option Uuid) (actions : List CompensationAction)
    (hactions : ∀ action, action ∈ actions ↔
      action.tenantId = tenantId ∧ ∃ actionId, store.actions.lookup actionId = some action) :
    ∃ plan run after,
      planOrchestrationActions store.actions tenantId actionIds = .ok plan ∧
      executeRun executor clock store runId tenantId actionIds initiatedBy intentId =
        (.ok run, after) ∧
      run.itemResults.map RunItemResult.actionId = actionIds ∧
      ∀ item ∈ run.itemResults,
        (∀ decision, plan.Foresees item.actionId decision ↔ item.actionTaken = decision) ∧
        ((∃ evaluation ∈ (evaluatePolicyGatesFromActions actions).evaluations,
            evaluation.action.id = item.actionId ∧ evaluation.gateStatus = .eligible) ↔
          item.actionTaken = .execute) := by
  obtain ⟨plan, hplan, -⟩ :=
    planItems_ok store.actions tenantId actionIds (.start actionIds.length)
  let run := OrchestrationRun.new runId (clock 0) tenantId actionIds initiatedBy intentId
  let created : OrchestrationStore := { store with runs := store.runs.create run }
  have hcreated : created.runs.lookup runId = some run := AList.lookup_insert _
  obtain ⟨finished, after, hrun, -, -, -, hpassed⟩ :=
    executeExistingRun_passed executor clock hcreated rfl
  have hresults : finished.itemResults =
      (runAttempts executor clock tenantId actionIds store.actions).map Attempt.result :=
    hpassed.results
  have hids : finished.itemResults.map RunItemResult.actionId = actionIds := by
    rw [hresults, runAttempts_actionId]
  refine ⟨plan, finished.markCompleted (clock (finished.actionIds.length + 1)), after, hplan, hrun,
    hids, fun item hitem => ?_⟩
  have hlisted : item.actionId ∈ actionIds := hids ▸ List.mem_map_of_mem hitem
  have hdecision : item.actionTaken = plannedDecision store.actions tenantId item.actionId := by
    have hmem : item ∈ finished.itemResults := hitem
    rw [hresults] at hmem
    obtain ⟨attempt, hattempt, rfl⟩ := List.mem_map.mp hmem
    have hid : attempt.result.actionId = attempt.actionId := OrchestrationRun.itemResult_actionId
    rw [Attempt.result_actionTaken, hid]
    exact attempts_decision hkeyed hdistinct attempt hattempt
  rw [hdecision]
  exact ⟨fun decision => foresees_iff hkeyed hplan hlisted decision,
    eligible_listed_iff hkeyed hactions item.actionId⟩

section Sample

def plannedAction : CompensationAction :=
  { CompensationAction.sample 7 0 with status := .approved }

/-- A store with one approved action. -/
def approvedStore : OrchestrationStore where
  runs := ∅
  actions := single 7 plannedAction

theorem dry_run_agrees_sample :
    ∃ plan run after,
      planOrchestrationActions approvedStore.actions 2 [8, 7] = .ok plan ∧
      executeRun (runExecutor none) (fun tick => tick) approvedStore 9 2 [8, 7] none none =
        (.ok run, after) ∧
      ∀ item ∈ run.itemResults, ∀ decision,
        plan.Foresees item.actionId decision ↔ item.actionTaken = decision := by
  have hkeyed : Keyed approvedStore.actions := by
    intro actionId action hlookup
    rw [approvedStore, single, lookup_insert_eq] at hlookup
    split at hlookup
    · next hid =>
      cases hlookup
      exact hid.symm
    · cases hlookup
  obtain ⟨plan, run, after, hplan, hrun, -, hitems⟩ := dry_run_agrees (runExecutor none)
    (fun tick => tick) approvedStore hkeyed 9 2 [8, 7] (by decide) none none
    [plannedAction] (by
      intro action
      rw [List.mem_singleton]
      constructor
      · rintro rfl
        exact ⟨rfl, 7, lookup_single_self _ _⟩
      · rintro ⟨-, actionId, hlookup⟩
        exact lookup_single hlookup)
  exact ⟨plan, run, after, hplan, hrun, fun item hitem => (hitems item hitem).1⟩

end Sample

end IntentRebase
