import IntentRebase.Compensation.Lifecycle
import IntentRebase.Kit.LatestFirst
import IntentRebase.Kit.SecondaryIndex
import IntentRebase.Kit.Transition

/-! Orchestration runs: a run goes once through a list of action identifiers and, by the status of
each action, approves, executes, reapproves or skips it. -/

namespace IntentRebase

open Kit

inductive RunStatus where
  | pending | running | completed | completedWithErrors | failed
deriving DecidableEq, Repr

inductive OrchestrationActionDecision where
  | approve | reapprove | execute | skip | notFound
deriving DecidableEq, Repr

structure RunItemResult where
  actionId : Uuid
  actionTaken : OrchestrationActionDecision
  success : Bool
  reason : String
  resultingStatus : String
deriving DecidableEq, Repr

structure OrchestrationRun where
  id : Uuid
  tenantId : Uuid
  intentId : Option Uuid
  actionIds : List Uuid
  status : RunStatus
  initiatedBy : Option String
  createdAt : DateTime
  startedAt : Option DateTime
  completedAt : Option DateTime
  succeededCount : Nat
  failedCount : Nat
  skippedCount : Nat
  notFoundCount : Nat
  totalCount : Nat
  itemResults : List RunItemResult
deriving DecidableEq, Repr

namespace OrchestrationRun

def new (id : Uuid) (now : DateTime) (tenantId : Uuid) (actionIds : List Uuid)
    (initiatedBy : Option String) (intentId : Option Uuid) : OrchestrationRun where
  id := id
  tenantId := tenantId
  intentId := intentId
  actionIds := actionIds
  status := .pending
  initiatedBy := initiatedBy
  createdAt := now
  startedAt := none
  completedAt := none
  succeededCount := 0
  failedCount := 0
  skippedCount := 0
  notFoundCount := 0
  totalCount := actionIds.length
  itemResults := []

variable (run : OrchestrationRun)

def markStarted (now : DateTime) : OrchestrationRun :=
  { run with status := .running, startedAt := some now }

def markCompleted (now : DateTime) : OrchestrationRun :=
  { run with
    completedAt := some now
    status :=
      if run.failedCount = 0 ∧ run.notFoundCount = 0 then .completed
      else if run.succeededCount = 0 then .failed
      else .completedWithErrors }

def recordSuccess (actionId : Uuid) (decision : OrchestrationActionDecision)
    (reason resultingStatus : String) : OrchestrationRun :=
  { run with
    succeededCount := run.succeededCount + 1
    itemResults := run.itemResults ++
      [{ actionId, actionTaken := decision, success := true, reason, resultingStatus }] }

def recordFailure (actionId : Uuid) (decision : OrchestrationActionDecision)
    (reason resultingStatus : String) : OrchestrationRun :=
  { run with
    failedCount := run.failedCount + 1
    itemResults := run.itemResults ++
      [{ actionId, actionTaken := decision, success := false, reason, resultingStatus }] }

def recordNotFound (actionId : Uuid) : OrchestrationRun :=
  { run with
    notFoundCount := run.notFoundCount + 1
    itemResults := run.itemResults ++
      [{ actionId
         actionTaken := .notFound
         success := false
         reason := "Action not found or access denied"
         resultingStatus := "not_found" }] }

/-- The run with the outcome of one of its items. -/
def recordItem (actionId : Uuid) : Except IntentRebaseError RunItemResult → OrchestrationRun
  | .ok item =>
    if item.success then
      run.recordSuccess actionId item.actionTaken item.reason item.resultingStatus
    else run.recordFailure actionId item.actionTaken item.reason item.resultingStatus
  | .error (.compensationActionNotFound _) => run.recordNotFound actionId
  | .error e => run.recordFailure actionId .skip e.display "error"

theorem recordItem_id (actionId : Uuid) (result : Except IntentRebaseError RunItemResult) :
    (run.recordItem actionId result).id = run.id := by
  unfold recordItem
  repeat' split
  all_goals rfl

end OrchestrationRun

/-- The stored runs. -/
abbrev RunRepo := HashMap Uuid OrchestrationRun

namespace RunRepo

variable (runs : RunRepo)

def create (run : OrchestrationRun) : RunRepo := runs.insert run.id run

def get (runId : Uuid) : Except IntentRebaseError OrchestrationRun :=
  match runs.lookup runId with
  | some run => .ok run
  | none => .error (.orchestrationRunNotFound runId)

def update (run : OrchestrationRun) : Except IntentRebaseError RunRepo :=
  match runs.lookup run.id with
  | some _ => .ok (runs.insert run.id run)
  | none => .error (.orchestrationRunNotFound run.id)

end RunRepo

/-- A repository of orchestration runs whose state is a `σ`. -/
structure OrchestrationRunRepository (σ : Type) where
  create : σ → OrchestrationRun → Except IntentRebaseError OrchestrationRun × σ
  get : σ → Uuid → Except IntentRebaseError OrchestrationRun
  update : σ → OrchestrationRun → Except IntentRebaseError OrchestrationRun × σ
  listByTenant : σ → Uuid → Option Nat → Except IntentRebaseError (List OrchestrationRun)

structure InMemoryOrchestrationRunRepository where
  runs : RunRepo
  byTenant : SecondaryIndex Uuid Uuid

namespace InMemoryOrchestrationRunRepository

def new : InMemoryOrchestrationRunRepository := ⟨∅, ∅⟩

variable (s : InMemoryOrchestrationRunRepository)

def create (run : OrchestrationRun) :
    Except IntentRebaseError OrchestrationRun × InMemoryOrchestrationRunRepository :=
  (.ok run, {
    runs := s.runs.create run
    byTenant := s.byTenant.push run.tenantId run.id })

def get (runId : Uuid) : Except IntentRebaseError OrchestrationRun := s.runs.get runId

def update (run : OrchestrationRun) :
    Except IntentRebaseError OrchestrationRun × InMemoryOrchestrationRunRepository :=
  match s.runs.update run with
  | .ok runs => (.ok run, { s with runs })
  | .error e => (.error e, s)

def listByTenant (tenantId : Uuid) (limit : Option Nat) :
    Except IntentRebaseError (List OrchestrationRun) :=
  let found := latestFirst OrchestrationRun.createdAt
    ((s.byTenant.bucket tenantId).filterMap s.runs.lookup)
  .ok (match limit with
    | some limit => found.take limit
    | none => found)

def repository : OrchestrationRunRepository InMemoryOrchestrationRunRepository :=
  { create, get, update, listByTenant }

end InMemoryOrchestrationRunRepository

def formatFeasibility (feasibility : CompensationFeasibility) : String := feasibility.debug

section Item

/-- The item's result for the answer of a service operation on the action. -/
def RunItemResult.ofOutcome (action : CompensationAction) (decision : OrchestrationActionDecision)
    (reason : String) (outcome : Outcome) : RunItemResult × ActionRepo :=
  match outcome with
  | (.ok updated, after) =>
    ({ actionId := action.id
       actionTaken := decision
       success := true
       reason := reason
       resultingStatus := updated.status.debug }, after)
  | (.error e, after) =>
    ({ actionId := action.id
       actionTaken := decision
       success := false
       reason := e.display
       resultingStatus := action.status.debug }, after)

/-- The result of an item that is left as it is. -/
def RunItemResult.skipped (action : CompensationAction) (reason : String) : RunItemResult where
  actionId := action.id
  actionTaken := .skip
  success := true
  reason := reason
  resultingStatus := action.status.debug

variable (repo : ActionRepo) (now : DateTime) (executor : Executor) (action : CompensationAction)

/-- A pending action is approved, in nobody's name. -/
def handlePendingAction : RunItemResult × ActionRepo :=
  RunItemResult.ofOutcome action .approve "Action approved successfully"
    (approveAction repo now action.id action.lockVersion none)

def handleApprovedAction : RunItemResult × ActionRepo :=
  if action.isServiceExecutable then
    RunItemResult.ofOutcome action .execute "Action executed successfully"
      (executeAction repo executor action.id none)
  else
    (.skipped action ("Action requires manual execution or is unsupported " ++
      s!"({formatFeasibility action.feasibility}, {action.strategyType.debug})"), repo)

def handleFailedAction : RunItemResult × ActionRepo :=
  if action.canBeReapproved then
    RunItemResult.ofOutcome action .reapprove "Action reapproved successfully"
      (reapproveAction repo action.id action.lockVersion)
  else
    (.skipped action
      (action.reapprovalDenialReason.getD "DLQ candidate or non-retryable error"), repo)

/-- One item of a run: the decision depends on the current status alone. -/
def processSingleAction (tenantId actionId : Uuid) :
    Except IntentRebaseError RunItemResult × ActionRepo :=
  match repo.get actionId with
  | .error (.compensationActionNotFound _) => (.error (.compensationActionNotFound actionId), repo)
  | .error e => (.error e, repo)
  | .ok action =>
    -- An action of another tenant is reported as not found.
    if action.tenantId ≠ tenantId then (.error (.compensationActionNotFound actionId), repo)
    else
      match action.status with
      | .pending => (handlePendingAction repo now action).map .ok id
      | .approved => (handleApprovedAction repo executor action).map .ok id
      | .failed => (handleFailedAction repo action).map .ok id
      | .executed | .waived =>
        (.ok (.skipped action s!"Action is in {action.status.debug} status (terminal)"), repo)

end Item

/-- The stored runs and actions. -/
structure OrchestrationStore where
  runs : RunRepo
  actions : ActionRepo

section Runs

variable (executor : DateTime → Executor) (clock : Nat → DateTime)

/-- The pass over the items of a run; the run is stored after each. The clock is read once for each
item. -/
def processItems (tenantId : Uuid) : Nat → List Uuid → OrchestrationRun → OrchestrationStore →
    Except IntentRebaseError OrchestrationRun × OrchestrationStore
  | _, [], run, store => (.ok run, store)
  | tick, actionId :: rest, run, store =>
    let (result, actions) :=
      processSingleAction store.actions (clock tick) (executor (clock tick)) tenantId actionId
    let run := run.recordItem actionId result
    match store.runs.update run with
    | .error e => (.error e, { store with actions })
    | .ok runs => processItems tenantId (tick + 1) rest run { runs, actions }

def executeExistingRun (store : OrchestrationStore) (runId : Uuid) :
    Except IntentRebaseError OrchestrationRun × OrchestrationStore :=
  match store.runs.get runId with
  | .error e => (.error e, store)
  | .ok run =>
    let started := run.markStarted (clock 0)
    match store.runs.update started with
    | .error e => (.error e, store)
    | .ok runs =>
      match processItems executor clock run.tenantId 1 run.actionIds started
        { store with runs } with
      | (.error e, store) => (.error e, store)
      | (.ok run, store) =>
        let completed := run.markCompleted (clock (run.actionIds.length + 1))
        match store.runs.update completed with
        | .error e => (.error e, store)
        | .ok runs => (.ok completed, { store with runs })

def executeRun (store : OrchestrationStore) (runId tenantId : Uuid) (actionIds : List Uuid)
    (initiatedBy : Option String) (intentId : Option Uuid) :
    Except IntentRebaseError OrchestrationRun × OrchestrationStore :=
  let run := OrchestrationRun.new runId (clock 0) tenantId actionIds initiatedBy intentId
  executeExistingRun executor clock { store with runs := store.runs.create run } run.id

end Runs

section Decision

variable {repo : ActionRepo} {now : DateTime} {executor : Executor} {action : CompensationAction}
  {tenantId actionId : Uuid}

/-- The service call that an item decides on, if any. -/
def decidedCall (now : DateTime) (executor : Executor) (action : CompensationAction) :
    Option Call :=
  match action.status with
  | .pending => some (.approve now action.id action.lockVersion none)
  | .approved =>
    if action.isServiceExecutable then some (.execute executor action.id none) else none
  | .failed =>
    if action.canBeReapproved then some (.reapprove action.id action.lockVersion) else none
  | .executed | .waived => none

theorem decidedCall_actionId {call : Call} (h : decidedCall now executor action = some call) :
    call.actionId = action.id := by
  unfold decidedCall at h
  repeat' split at h
  all_goals cases h
  all_goals rfl

/-- The service call that an item makes on a repository, if any. -/
def itemCall (now : DateTime) (executor : Executor) (tenantId actionId : Uuid) (repo : ActionRepo) :
    Option Call :=
  match repo.lookup actionId with
  | some action => if action.tenantId = tenantId then decidedCall now executor action else none
  | none => none

theorem ofOutcome_snd (decision : OrchestrationActionDecision) (reason : String)
    (outcome : Outcome) :
    (RunItemResult.ofOutcome action decision reason outcome).2 = outcome.2 := by
  obtain ⟨result, after⟩ := outcome
  cases result <;> rfl

/-- An item makes one service call, or none. -/
theorem processSingleAction_snd :
    (processSingleAction repo now executor tenantId actionId).2 =
      runCalls repo (itemCall now executor tenantId actionId repo).toList := by
  unfold processSingleAction itemCall ActionRepo.get
  cases repo.lookup actionId with
  | none => rfl
  | some action =>
    by_cases htenant : action.tenantId = tenantId
    · simp only [htenant, ne_eq, not_true_eq_false, if_false, if_true, decidedCall]
      cases action.status with
      | pending => exact ofOutcome_snd _ _ _
      | approved =>
        dsimp only [handleApprovedAction]
        split
        · exact ofOutcome_snd _ _ _
        · rfl
      | failed =>
        dsimp only [handleFailedAction]
        split
        · exact ofOutcome_snd _ _ _
        · rfl
      | executed => rfl
      | waived => rfl
    · simp only [htenant, ne_eq, not_false_eq_true, if_true, if_false]
      rfl

end Decision

/-- What happens to the stored actions: one item of some run, or a service call from elsewhere. -/
inductive Activity where
  | item (now : DateTime) (executor : Executor) (tenantId actionId : Uuid)
  | request (call : Call)

namespace Activity

def apply (activity : Activity) (repo : ActionRepo) : ActionRepo :=
  match activity with
  | .item now executor tenantId actionId =>
    (processSingleAction repo now executor tenantId actionId).2
  | .request call => (call.apply repo).2

/-- The service calls that an activity makes on a repository. -/
def calls (activity : Activity) (repo : ActionRepo) : List Call :=
  match activity with
  | .item now executor tenantId actionId => (itemCall now executor tenantId actionId repo).toList
  | .request call => [call]

theorem apply_eq (activity : Activity) (repo : ActionRepo) :
    activity.apply repo = runCalls repo (activity.calls repo) := by
  cases activity with
  | item => exact processSingleAction_snd
  | request => rfl

end Activity

/-- The repository after a sequence of activities. -/
def runActivities (repo : ActionRepo) (activities : List Activity) : ActionRepo :=
  activities.foldl (fun repo activity => activity.apply repo) repo

section Sequences

variable (executor : DateTime → Executor) (clock : Nat → DateTime)

/-- The items of a run. -/
def itemActivities (tenantId : Uuid) (tick : Nat) (actionIds : List Uuid) : List Activity :=
  (actionIds.zipIdx tick).map fun (actionId, tick) =>
    .item (clock tick) (executor (clock tick)) tenantId actionId

theorem RunRepo.update_stored {runs : RunRepo} {run stored : OrchestrationRun}
    (h : runs.lookup run.id = some stored) : runs.update run = .ok (runs.insert run.id run) := by
  rw [RunRepo.update, h]

/-- The request for a run, and the times at which it reads the clock. -/
structure RunRequest where
  runId : Uuid
  tenantId : Uuid
  actionIds : List Uuid
  initiatedBy : Option String
  intentId : Option Uuid
  clock : Nat → DateTime

/-- The store after a sequence of runs, whatever they answer. -/
def executeRuns (store : OrchestrationStore) (requests : List RunRequest) : OrchestrationStore :=
  requests.foldl (fun store request =>
    (executeRun executor request.clock store request.runId request.tenantId request.actionIds
      request.initiatedBy request.intentId).2) store

end Sequences

section Attendance

variable (sideEffects : SideEffectRepo)

/-- The action is not to be executed unattended: it cannot be compensated, or its side effect is of
a class other than S1. -/
def needsApprover (action : CompensationAction) : Bool :=
  action.feasibility == .notPossible ||
    match sideEffects.lookup action.sideEffectId with
    | some sideEffect => sideEffect.effectClass != .s1InternalReversible
    | none => false

/-- The action is still to be approved, by somebody. -/
def awaitsApprover (action : CompensationAction) : Bool :=
  action.status == .pending && needsApprover sideEffects action

/-- The activity approves such an action in nobody's name: it is the item of a run of the action's
tenant, or an approve call that names no approver. -/
def Activity.unattended (repo : ActionRepo) : Activity → Bool
  | .item _ _ tenantId actionId =>
    match repo.lookup actionId with
    | some action => action.tenantId == tenantId && awaitsApprover sideEffects action
    | none => false
  | .request (.approve _ actionId _ none) =>
    match repo.lookup actionId with
    | some action => awaitsApprover sideEffects action
    | none => false
  | .request _ => false

/-- A step that is not such an activity. -/
def AttendedStep (repo : ActionRepo) (activity : Activity) (after : ActionRepo) : Prop :=
  activity.unattended sideEffects repo = false ∧ after = activity.apply repo

/-- Every action is stored under its own identifier. -/
def Keyed : ActionRepo → Prop := AllActions fun actionId action => action.id = actionId

/-- Every action is pending, under its own identifier. -/
def AllPending : ActionRepo → Prop :=
  AllActions fun actionId action => action.id = actionId ∧ action.status = .pending

variable {sideEffects} {repo after : ActionRepo} {activity : Activity} {actionId : Uuid}
  {action : CompensationAction}

theorem Planned.allPending (h : Planned repo) : AllPending repo := by
  intro actionId action hlookup
  obtain ⟨now, tenantId, sideEffect, rebaseContext, hplan⟩ := h actionId action hlookup
  obtain ⟨strategy, rationale, rfl⟩ := classifyAndPlanAction_eq hplan
  exact ⟨rfl, rfl⟩

theorem Keyed.apply (h : Keyed repo) (activity : Activity) : Keyed (activity.apply repo) := by
  rw [activity.apply_eq]
  refine runCalls_all (fun actionId action updated hmoves hid => ?_) _ h
  rw [hmoves.samePlan.id, hid]

theorem AttendedStep.keyed (h : AttendedStep sideEffects repo activity after)
    (hkeyed : Keyed repo) : Keyed after := h.2 ▸ hkeyed.apply activity

theorem Activity.apply_terminal (hlookup : repo.lookup actionId = some action)
    (hterminal : action.status.isTerminal = true) :
    (activity.apply repo).lookup actionId = some action := by
  rw [activity.apply_eq]
  exact lookup_runCalls_terminal _ hlookup hterminal

/-- An item of another action, or of another tenant, leaves the action as it is. -/
theorem Activity.item_apply_other {now : DateTime} {executor : Executor} {tenantId itemId : Uuid}
    (hkeyed : Keyed repo) (hlookup : repo.lookup actionId = some action)
    (hother : itemId = actionId → action.tenantId ≠ tenantId) :
    ((Activity.item now executor tenantId itemId).apply repo).lookup actionId = some action := by
  rw [Activity.apply_eq, Activity.calls, itemCall]
  cases hitem : repo.lookup itemId with
  | none => exact hlookup
  | some target =>
    dsimp only
    split
    · next htenant =>
      cases hcall : decidedCall now executor target with
      | none => exact hlookup
      | some call =>
        have hne : actionId ≠ call.actionId := by
          rw [decidedCall_actionId hcall, hkeyed itemId target hitem]
          rintro rfl
          obtain rfl := Option.some.inj (hitem.symm.trans hlookup)
          exact hother rfl htenant
        exact (Call.apply_other hne).trans hlookup
    · exact hlookup

/-- The call approves the action, naming the approver. -/
def ApprovesByName (repo : ActionRepo) (actionId : Uuid) (activity : Activity) : Prop :=
  ∃ now lockVersion approver updated,
    activity = .request (.approve now actionId lockVersion (some approver)) ∧
    (approveAction repo now actionId lockVersion (some approver)).1 = .ok updated

/-- What an attended step does to an action that awaits its approver: nothing, a waiver, or an
approval by name. -/
theorem AttendedStep.cases_awaiting (h : AttendedStep sideEffects repo activity after)
    (hkeyed : Keyed repo) (hlookup : repo.lookup actionId = some action)
    (hawaits : awaitsApprover sideEffects action = true) :
    after.lookup actionId = some action ∨
      (∃ updated, after.lookup actionId = some updated ∧ updated.status = .waived) ∨
      ApprovesByName repo actionId activity := by
  obtain ⟨hattended, rfl⟩ := h
  have hpending : action.status = .pending := by
    simp only [awaitsApprover, Bool.and_eq_true, beq_iff_eq] at hawaits
    exact hawaits.1
  cases activity with
  | item now executor tenantId itemId =>
    refine .inl (Activity.item_apply_other hkeyed hlookup ?_)
    rintro rfl htenant
    simp [Activity.unattended, hlookup, htenant, hawaits] at hattended
  | request call =>
    by_cases hid : actionId = call.actionId
    · rcases hresult : call.apply repo with ⟨e | updated, after⟩
      · rw [Activity.apply, hresult, Call.apply_error hresult]
        exact .inl hlookup
      · rw [Activity.apply, hresult]
        cases call with
        | approve now approvedId lockVersion approvedBy =>
          obtain rfl : actionId = approvedId := hid
          cases approvedBy with
          | none => simp [Activity.unattended, hlookup, hawaits] at hattended
          | some approver =>
            exact .inr (.inr ⟨now, lockVersion, approver, updated, rfl, congrArg Prod.fst hresult⟩)
        | waive now waivedId lockVersion waivedBy =>
          obtain rfl : actionId = waivedId := hid
          obtain ⟨_, -, -, hstatus, rfl⟩ := waiveAction_ok hresult
          exact .inr (.inl ⟨updated, AList.lookup_insert _, hstatus⟩)
        | execute executor executedId executedBy =>
          obtain rfl : actionId = executedId := hid
          obtain ⟨current, hcurrent, -, hstatus, -⟩ := executeAction_ok hresult
          obtain rfl := Option.some.inj (hcurrent.symm.trans hlookup)
          rw [hpending] at hstatus
          cases hstatus
        | reapprove reapprovedId lockVersion =>
          obtain rfl : actionId = reapprovedId := hid
          obtain ⟨current, hcurrent, -, hstatus, -⟩ := reapproveAction_ok hresult
          obtain rfl := Option.some.inj (hcurrent.symm.trans hlookup)
          rw [hpending] at hstatus
          cases hstatus
    · exact .inl ((Call.apply_other hid).trans hlookup)

/-- In a run of attended steps, an action that awaits its approver is not executed before some step
has approved it by name. -/
theorem Run.approved_by_name {activities : List Activity} {updated : CompensationAction}
    (hrun : Run (AttendedStep sideEffects) repo activities after) (hkeyed : Keyed repo)
    (hlookup : repo.lookup actionId = some action)
    (hawaits : awaitsApprover sideEffects action = true)
    (hafter : after.lookup actionId = some updated) (hexecuted : updated.status = .executed) :
    ∃ before activity rest middle, activities = before ++ activity :: rest ∧
      Run (AttendedStep sideEffects) repo before middle ∧
      ApprovesByName middle actionId activity := by
  induction hrun with
  | nil =>
    obtain rfl := Option.some.inj (hlookup.symm.trans hafter)
    simp [awaitsApprover, hexecuted] at hawaits
  | @cons repo next after activity rest hstep hrest ih =>
    have hnext : Keyed next := hstep.keyed hkeyed
    rcases hstep.cases_awaiting hkeyed hlookup hawaits with
      hsame | ⟨waived, hwaived, hstatus⟩ | hnamed
    · obtain ⟨before, named, later, middle, rfl, hbefore, happroves⟩ := ih hnext hsame hafter
      exact ⟨activity :: before, named, later, middle, rfl, .cons hstep hbefore, happroves⟩
    · -- A waived action stays waived.
      have hterminal : waived.status.isTerminal = true := by rw [hstatus]; rfl
      have hkept := hrest.invariant (fun _ _ _ _ h hl => h.2 ▸ Activity.apply_terminal hl hterminal)
        (fun _ _ => trivial) hwaived
      obtain rfl := Option.some.inj (hkept.symm.trans hafter)
      rw [hstatus] at hexecuted
      cases hexecuted
    · exact ⟨[], activity, rest, repo, rfl, .nil repo, hnamed⟩

/-- From pending actions, in every run of attended steps: an action that is not to be executed
unattended, and goes from pending to executed, is approved by name in between. -/
theorem executed_only_by_name {start : ActionRepo} {earlier later : List Activity}
    {updated : CompensationAction} (hstart : AllPending start)
    (hearlier : Run (AttendedStep sideEffects) start earlier repo)
    (hlater : Run (AttendedStep sideEffects) repo later after)
    (hlookup : repo.lookup actionId = some action) (hpending : action.status = .pending)
    (hneeds : needsApprover sideEffects action = true)
    (hafter : after.lookup actionId = some updated) (hexecuted : updated.status = .executed) :
    ∃ before activity rest middle, later = before ++ activity :: rest ∧
      Run (AttendedStep sideEffects) repo before middle ∧
      ApprovesByName middle actionId activity := by
  have hkeyed : Keyed repo := by
    have hfirst : Keyed start := fun id action h => (hstart id action h).1
    have hkeep : ∀ repo activity after, True → AttendedStep sideEffects repo activity after →
        Keyed repo → Keyed after := fun _ _ _ _ h => h.keyed
    exact hearlier.invariant hkeep (fun _ _ => trivial) hfirst
  have hawaits : awaitsApprover sideEffects action = true := by
    simp [awaitsApprover, hpending, hneeds]
  exact Run.approved_by_name hlater hkeyed hlookup hawaits hafter hexecuted

/-- The side effect of the sample action: an irreversible one. -/
def irreversible : SideEffectRepo := ofPairs [(1, SideEffect.sample .s4Irreversible)]

/-- An approval by name, and an item of a run that then executes the action. -/
def attendedSample : List Activity :=
  [.request (.approve 10 7 0 (some "reviewer")), .item 20 (runExecutor (some irreversible) 20) 2 7]

theorem executed_only_by_name_sample :
    ∃ before activity rest middle, attendedSample = before ++ activity :: rest ∧
      Run (AttendedStep irreversible) (.sample .s4Irreversible) before middle ∧
      ApprovesByName middle 7 activity := by
  have hlater : Run (AttendedStep irreversible) (.sample .s4Irreversible) attendedSample
      (runActivities (.sample .s4Irreversible) attendedSample) :=
    .cons ⟨rfl, rfl⟩ (.cons ⟨rfl, rfl⟩ (.nil _))
  exact executed_only_by_name (planned_sample _).allPending (.nil _) hlater rfl rfl rfl rfl rfl

/-- A run that lists an action twice approves it and then executes it, though its side effect is
irreversible and nobody has approved it. -/
theorem executed_unattended :
    ¬ ∀ (sideEffects : SideEffectRepo) (store : OrchestrationStore) (requests : List RunRequest)
        (actionId : Uuid) (action updated : CompensationAction), AllPending store.actions →
      store.actions.lookup actionId = some action → needsApprover sideEffects action = true →
      (executeRuns (runExecutor (some sideEffects)) store requests).actions.lookup actionId =
        some updated → updated.status ≠ .executed := by
  intro hclaim
  let store : OrchestrationStore := { runs := ∅, actions := .sample .s4Irreversible }
  let request : RunRequest :=
    { runId := 9, tenantId := 2, actionIds := [7, 7], initiatedBy := none, intentId := none
      clock := fun tick => tick }
  exact hclaim irreversible store [request] 7 _ _ (planned_sample _).allPending rfl rfl rfl rfl

end Attendance

end IntentRebase
