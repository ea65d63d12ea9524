import IntentRebase.Compensation.RunReport
import IntentRebase.Compensation.Simulator
import IntentRebase.Compensation.Storage
import IntentRebase.Kit.TwoRuns

/-! What the planner, the simulation and the execution make of a side effect, each with its own
table of strategies: the simulation foresees how the execution of a planned action ends. -/

namespace IntentRebase

open Kit

/-- The actions planned for side effects, each with the identifier and the time of its turn. -/
def planFromSideEffects (fresh : Nat → Uuid) (now : Nat → DateTime) (tenantId : Uuid)
    (rebaseContext : RebaseContext) (sideEffects : List SideEffect) : List CompensationAction :=
  sideEffects.zipIdx.filterMap fun (sideEffect, turn) =>
    classifyAndPlanAction (fresh turn) (now turn) tenantId sideEffect rebaseContext

/-- The action is a pending one for the side effect, which the service can execute. -/
structure PlannedFor (tenantId : Uuid) (rebaseContext : RebaseContext) (sideEffect : SideEffect)
    (action : CompensationAction) : Prop where
  sideEffectId : action.sideEffectId = sideEffect.id
  tenantId : action.tenantId = tenantId
  intentId : action.intentId = sideEffect.intentId
  triggerContext : action.triggerContext = rebaseContext
  pending : action.status = .pending
  accepts : action.strategyType.accepts sideEffect.effectClass = true
  serviceExecutable : action.isServiceExecutable = true

section Planner

variable {id tenantId : Uuid} {now : DateTime} {sideEffect : SideEffect}
  {rebaseContext : RebaseContext} {action : CompensationAction}

/-- Only a pure read has no action. -/
theorem classifyAndPlanAction_isSome (id : Uuid) (now : DateTime) (tenantId : Uuid)
    (sideEffect : SideEffect) (rebaseContext : RebaseContext) :
    (classifyAndPlanAction id now tenantId sideEffect rebaseContext).isSome = true ↔
      sideEffect.effectClass ≠ .s0PureRead := by
  unfold classifyAndPlanAction
  cases sideEffect.effectClass <;> simp

theorem classifyAndPlanAction_plannedFor
    (h : classifyAndPlanAction id now tenantId sideEffect rebaseContext = some action) :
    PlannedFor tenantId rebaseContext sideEffect action := by
  have hexecutable := planned_executable h
  obtain ⟨strategy, rationale, heq⟩ := classifyAndPlanAction_eq h
  have haccepts : action.strategyType.accepts sideEffect.effectClass = true := by
    unfold classifyAndPlanAction at h
    cases hclass : sideEffect.effectClass <;> rw [hclass] at h <;> cases h <;> rfl
  subst heq
  exact ⟨rfl, rfl, rfl, rfl, rfl, haccepts, hexecutable⟩

/-- Each side effect but the pure reads has one action, in the order of the side effects. -/
theorem planFromSideEffects_plannedFor (fresh : Nat → Uuid) (now : Nat → DateTime)
    (tenantId : Uuid) (rebaseContext : RebaseContext) (sideEffects : List SideEffect) :
    List.Forall₂ (PlannedFor tenantId rebaseContext)
      (sideEffects.filter fun sideEffect => sideEffect.effectClass ≠ .s0PureRead)
      (planFromSideEffects fresh now tenantId rebaseContext sideEffects) := by
  -- The induction shifts the turns, so it is over every start of the count.
  have hfrom : ∀ turn, List.Forall₂ (PlannedFor tenantId rebaseContext)
      (sideEffects.filter fun sideEffect => sideEffect.effectClass ≠ .s0PureRead)
      ((sideEffects.zipIdx turn).filterMap fun (sideEffect, turn) =>
        classifyAndPlanAction (fresh turn) (now turn) tenantId sideEffect rebaseContext) := by
    induction sideEffects with
    | nil => exact fun _ => .nil
    | cons sideEffect rest ih =>
      intro turn
      rw [List.zipIdx_cons]
      have hsome := classifyAndPlanAction_isSome (fresh turn) (now turn) tenantId sideEffect
        rebaseContext
      cases hplan : classifyAndPlanAction (fresh turn) (now turn) tenantId sideEffect
          rebaseContext with
      | none =>
        rw [hplan] at hsome
        have hread : ¬ sideEffect.effectClass ≠ .s0PureRead := fun h => nomatch hsome.mpr h
        simp only [List.filter_cons, hread, decide_false, Bool.false_eq_true, if_false,
          List.filterMap_cons, hplan]
        exact ih (turn + 1)
      | some action =>
        rw [hplan] at hsome
        have hkept : sideEffect.effectClass ≠ .s0PureRead := hsome.mp rfl
        simp only [List.filter_cons, ne_eq, hkept, not_false_eq_true, decide_true, if_true,
          List.filterMap_cons, hplan]
        exact .cons (classifyAndPlanAction_plannedFor hplan) (ih (turn + 1))
  exact hfrom 0

end Planner

section Simulation

variable {config : SimulationConfig} {nanos : UInt64} {now : DateTime}
  {action : CompensationAction}

/-- A deterministic simulation predicts the success of exactly the actions that the service can
execute. -/
theorem simulateSingleAction_success_iff (hmode : config.mode = .deterministic) :
    (simulateSingleAction config nanos now action).predictedSuccess = true ↔
      action.isServiceExecutable = true := by
  rw [CompensationAction.isServiceExecutable]
  cases hstrategy : action.strategyType <;> cases hfeasibility : action.feasibility <;>
    simp [simulateSingleAction, executorForStrategy, mockRollbackExecutor,
      mockCounterActionExecutor, mockFollowupNoticeExecutor, mockEscalationExecutor, mockExecute,
      hstrategy, hfeasibility, hmode, ExecutionResult.succeed, ExecutionResult.failure,
      SimulationOutcome.success, SimulationOutcome.failure]

end Simulation

section Execution

variable {s : ActionStorage} {sideEffectRepo : Option SideEffectRepo} {now : DateTime}
  {actionId : Uuid} {executedBy : Option String} {action : CompensationAction}

/-- The execution of an action answers with it executed, and stores it so. -/
def EndsExecuted (s : ActionStorage) (sideEffectRepo : Option SideEffectRepo) (now : DateTime)
    (actionId : Uuid) (executedBy : Option String) : Prop :=
  ∃ updated after,
    s.executeAction sideEffectRepo now actionId executedBy = (.ok updated, after) ∧
      updated.status = .executed ∧ after.get actionId = .ok updated

/-- An execution of an approved action that the service cannot execute is refused. -/
theorem executeAction_notExecutable (hget : s.get actionId = .ok action)
    (h : action.isServiceExecutable = false) :
    s.executeAction sideEffectRepo now actionId executedBy =
      (.error (.compensationActionNotExecutable actionId), s) := by
  simp only [ActionStorage.executeAction, hget, CompensationAction.checkExecutable,
    isAllowedCombo_eq, h, Bool.not_false, if_true, ite_self]

/-- The result of a supported action is a success, once its side effect is in the ledger, if there
is one. -/
theorem runExecutor_acknowledges (now : DateTime) (hexecutable : action.isServiceExecutable = true)
    (hledger : ∀ ledger, sideEffectRepo = some ledger → Acknowledged ledger action) :
    ∃ result, runExecutor sideEffectRepo now action = .ok result ∧ result.success = true := by
  obtain ⟨result, hresult⟩ := runExecutor_ok sideEffectRepo now action
  refine ⟨result, hresult, ?_⟩
  have hcombo := (isAllowedCombo_eq action).trans hexecutable
  cases sideEffectRepo with
  | some ledger => exact (runExecutor_success_iff hcombo hresult).mpr (hledger ledger rfl)
  | none =>
    -- The stub stands in for the executors of the four allowed combinations.
    rw [runExecutor] at hresult
    cases hstrategy : action.strategyType <;> cases hfeasibility : action.feasibility <;>
      rw [hstrategy, hfeasibility] at hcombo <;> try cases hcombo
    all_goals
      simp only [hstrategy, hfeasibility] at hresult
      rw [← Except.ok.inj hresult]
      rfl

/-- An approved action ends executed if the service can execute it, where its side effect is in
the ledger. -/
theorem endsExecuted_iff (hget : s.get actionId = .ok action)
    (happroved : action.status = .approved)
    (hledger : ∀ ledger, sideEffectRepo = some ledger → Acknowledged ledger action) :
    EndsExecuted s sideEffectRepo now actionId executedBy ↔ action.isServiceExecutable = true := by
  constructor
  · rintro ⟨updated, after, hanswer, -⟩
    by_contra hnot
    rw [executeAction_notExecutable hget (Bool.not_eq_true _ ▸ hnot)] at hanswer
    cases hanswer
  · intro hexecutable
    obtain ⟨result, hresult, hsuccess⟩ := runExecutor_acknowledges now hexecutable hledger
    have hcheck : action.checkExecutable actionId = .ok () :=
      (action.checkExecutable_ok actionId).mpr
        ⟨happroved, (isAllowedCombo_eq action).trans hexecutable⟩
    have hstatus := (s.resultWritten_from now result executedBy action).2
    rw [hsuccess, if_pos rfl] at hstatus
    let updated := s.resultWritten now result executedBy action
    refine ⟨updated, s.put actionId updated, ?_, hstatus, ?_⟩
    · rw [ActionStorage.executeAction, hget]
      dsimp only
      rw [hcheck]
      dsimp only
      rw [hresult]
      dsimp only
      rw [ActionStorage.recordResult_eq hget, if_pos rfl]
    · rw [ActionStorage.get_put, if_pos rfl]

end Execution

/-- The ledger has the side effect, of its class, with the tenant and the intent of its action. -/
def SideEffect.InLedger (sideEffect : SideEffect) (tenantId : Uuid) (ledger : SideEffectRepo) :
    Prop :=
  ∃ recorded, ledger.lookup sideEffect.id = some recorded ∧ recorded.tenantId = tenantId ∧
    recorded.intentId = sideEffect.intentId ∧ recorded.effectClass = sideEffect.effectClass

/-- The deterministic simulation of an action predicts success exactly if an execution ends with
it executed, whatever its storage and the executors' ledger, once the action is approved. -/
def ForeseenBySimulation (tenantId : Uuid) (sideEffect : SideEffect)
    (action : CompensationAction) : Prop :=
  ∀ (config : SimulationConfig) (nanos : UInt64) (simulatedAt now : DateTime)
    (sideEffectRepo : Option SideEffectRepo) (s : ActionStorage) (approved : CompensationAction)
    (executedBy : Option String), config.mode = .deterministic →
    s.get action.id = .ok approved → SamePlan action approved → approved.status = .approved →
    (∀ ledger, sideEffectRepo = some ledger → sideEffect.InLedger tenantId ledger) →
    ((simulateSingleAction config nanos simulatedAt action).predictedSuccess = true ↔
      EndsExecuted s sideEffectRepo now action.id executedBy)

theorem PlannedFor.foreseen {tenantId : Uuid} {rebaseContext : RebaseContext}
    {sideEffect : SideEffect} {action : CompensationAction}
    (h : PlannedFor tenantId rebaseContext sideEffect action) :
    ForeseenBySimulation tenantId sideEffect action := by
  intro config nanos simulatedAt now sideEffectRepo s approved executedBy hmode hget hplan
    happroved hledger
  have hexecutable : approved.isServiceExecutable = action.isServiceExecutable := by
    rw [CompensationAction.isServiceExecutable, CompensationAction.isServiceExecutable,
      hplan.strategyType, hplan.feasibility]
  have hacknowledged : ∀ ledger, sideEffectRepo = some ledger → Acknowledged ledger approved := by
    intro ledger hrepo
    obtain ⟨recorded, hlookup, htenant, hintent, hclass⟩ := hledger ledger hrepo
    refine ⟨recorded, ?_, ?_, ?_, ?_⟩
    · rw [hplan.sideEffectId, h.sideEffectId, hlookup]
    · rw [hplan.tenantId, h.tenantId, htenant]
    · rw [hplan.intentId, h.intentId, hintent]
    · rw [hplan.strategyType, hclass, h.accepts]
  rw [simulateSingleAction_success_iff hmode, endsExecuted_iff hget happroved hacknowledged,
    hexecutable]

/-- The planner has one action for each side effect but the pure reads, in their order. The service
can execute each, and a deterministic simulation foresees whether the execution succeeds. -/
theorem planned_actions_foreseen (fresh : Nat → Uuid) (now : Nat → DateTime) (tenantId : Uuid)
    (rebaseContext : RebaseContext) (sideEffects : List SideEffect) :
    List.Forall₂
      (fun sideEffect action => PlannedFor tenantId rebaseContext sideEffect action ∧
        ForeseenBySimulation tenantId sideEffect action)
      (sideEffects.filter fun sideEffect => sideEffect.effectClass ≠ .s0PureRead)
      (planFromSideEffects fresh now tenantId rebaseContext sideEffects) :=
  (planFromSideEffects_plannedFor fresh now tenantId rebaseContext sideEffects).imp
    fun _ _ h => ⟨h, h.foreseen⟩

section Sample

/-- The action planned for a side effect of the second class. -/
def counterAction : CompensationAction :=
  .fromSideEffect 7 0 2 (.sample .s2ExternalReversible)
    { intentId := 3, fromVersion := 1, toVersion := 2, workflowId := 4 } .counterAction
    ("Counter-action for external reversible effect 'deploy' targeting production " ++
      "for rebase v1 -> v2")

theorem planned_actions_foreseen_sample :
    EndsExecuted (.inMemory (single 7 { counterAction with status := .approved }))
      (some (single 1 (.sample .s2ExternalReversible))) 5 7 none := by
  have hplanned := planned_actions_foreseen (fun _ => 7) (fun _ => 0) 2
    { intentId := 3, fromVersion := 1, toVersion := 2, workflowId := 4 }
    [.sample .s2ExternalReversible]
  obtain ⟨hplan, hforeseen⟩ : PlannedFor 2 _ (.sample .s2ExternalReversible) counterAction ∧
      ForeseenBySimulation 2 (.sample .s2ExternalReversible) counterAction := by
    cases hplanned with
    | cons h _ => exact h
  refine (hforeseen {} 0 0 5 _ _ { counterAction with status := .approved } none rfl rfl
    ⟨rfl, rfl, rfl, rfl, rfl, rfl, rfl, rfl, rfl, rfl⟩ rfl fun ledger hledger => ?_).mp
    (simulateSingleAction_executable rfl hplan.serviceExecutable)
  obtain rfl := Option.some.inj hledger
  exact ⟨.sample .s2ExternalReversible, lookup_single_self _ _, rfl, rfl, rfl⟩

end Sample

end IntentRebase
