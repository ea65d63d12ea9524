import IntentRebase.Api.ActionOwnership
import IntentRebase.Api.IntentMutation

/-! The handler that plans compensation actions for the side effects of an intent, and stores them
for the tenant that the request names. -/

namespace IntentRebase

open Kit

structure PlanCompensationActionsRequest where
  intentId : Uuid
  tenantId : Uuid
  fromVersion : Int
  toVersion : Int
  workflowId : Uuid
deriving DecidableEq, Repr

structure FeasibilityCounts where
  automatic : Nat
  semiAutomatic : Nat
  manualOnly : Nat
  notPossible : Nat
deriving DecidableEq, Repr

def FeasibilityCounts.ofActions (actions : List CompensationAction) : FeasibilityCounts :=
  let count (feasibility : CompensationFeasibility) : Nat :=
    actions.countP fun action => action.feasibility = feasibility
  { automatic := count .automatic
    semiAutomatic := count .semiAutomatic
    manualOnly := count .manualOnly
    notPossible := count .notPossible }

structure PlanCompensationActionsResponse where
  actions : List CompensationAction
  total : Nat
  feasibilityCounts : FeasibilityCounts
deriving DecidableEq

/-- What a call draws, the recorded side effects where the service has a repository of them, and the
failures of the creations. -/
structure PlanRun where
  fresh : SideEffect → Uuid
  now : DateTime
  listByIntent : Option (Uuid → Uuid → Except IntentRebaseError (List SideEffect))
  createFaults : CompensationAction → Option (Fault IntentRebaseError)

namespace ActionStorage

def create (action : CompensationAction) : ActionStorage → Answered ActionStorage
  | .inMemory repo => (.ok action, .inMemory (repo.create action))
  | .sqlx table => (SqlxCompensationActionRepository.create table action).map id .sqlx

/-- No action is stored under the identifier. -/
def Unused (actionId : Uuid) : ActionStorage → Prop
  | .inMemory repo => repo.lookup actionId = none
  | .sqlx table => table.lookup actionId = none

section Plan

variable (run : PlanRun)

/-- The generated actions are stored one by one; those stored before an error stay. -/
def createActions : List CompensationAction → ActionStorage →
    Except IntentRebaseError (List CompensationAction) × ActionStorage
  | [], s => (.ok [], s)
  | action :: rest, s =>
    match Fault.meet (run.createFaults action) s (s.create action) with
    | (.error e, s) => (.error e, s)
    | (.ok created, s) => (createActions rest s).map (.map (created :: ·)) id

def planCompensationActions (intentId tenantId : Uuid) (rebaseContext : RebaseContext)
    (s : ActionStorage) : Except IntentRebaseError (List CompensationAction) × ActionStorage :=
  match run.listByIntent with
  | none =>
    (.error (.internal "side_effect_repo is required for bounded compensation planning"), s)
  | some listByIntent =>
    match listByIntent intentId tenantId with
    | .error e => (.error e, s)
    | .ok sideEffects =>
      createActions run (sideEffects.filterMap fun sideEffect =>
        classifyAndPlanAction (run.fresh sideEffect) run.now tenantId sideEffect rebaseContext) s

end Plan

end ActionStorage

namespace CompensationPlannerHandlers

variable (run : PlanRun) (request : PlanCompensationActionsRequest)

def planCompensationActionsWithoutJwt (s : ActionStorage) :
    Except IntentRebaseError PlanCompensationActionsResponse × ActionStorage :=
  let rebaseContext : RebaseContext := {
    intentId := request.intentId
    fromVersion := request.fromVersion
    toVersion := request.toVersion
    workflowId := request.workflowId }
  (s.planCompensationActions run request.intentId request.tenantId rebaseContext).map
    (.map fun actions => {
      actions
      total := actions.length
      feasibilityCounts := .ofActions actions }) id

def planCompensationActions (claims : Option RlsTenantClaims) (s : ActionStorage) :
    Except IntentRebaseError PlanCompensationActionsResponse × ActionStorage :=
  match claims with
  | none => planCompensationActionsWithoutJwt run request s
  | some rlsClaims =>
    if request.tenantId ≠ rlsClaims.tenantId then
      (.error (.unauthorized (requestTenantMismatch rlsClaims.tenantId request.tenantId)), s)
    else planCompensationActionsWithoutJwt run request s

end CompensationPlannerHandlers

open ActionStorage (ChangesOnlyOf)

section Ownership

variable {run : PlanRun} {s : ActionStorage} {tenantId : Uuid}

/-- What is stored under the identifier is the tenant's, if anything is. -/
def ActionStorage.FreeFor (tenantId actionId : Uuid) : ActionStorage → Prop
  | .inMemory repo => ∀ action, repo.lookup actionId = some action → action.tenantId = tenantId
  | .sqlx table => ∀ row, table.lookup actionId = some row → row.tenantId = tenantId

theorem ActionStorage.Unused.freeFor {actionId : Uuid} (h : s.Unused actionId) :
    s.FreeFor tenantId actionId := by
  cases s <;> exact fun _ hlookup => by cases (Eq.symm h).trans hlookup

/-- It stays so where actions of the tenant are written. -/
theorem ActionStorage.ChangesOnlyOf.freeFor {after : ActionStorage}
    (h : ChangesOnlyOf tenantId s after) {actionId : Uuid} (hfree : s.FreeFor tenantId actionId) :
    after.FreeFor tenantId actionId := by
  cases s <;> cases after <;> try cases h
  all_goals
    rcases h actionId with hsame | ⟨-, hafter⟩
    · exact fun stored hstored => hfree stored (hsame ▸ hstored)
    · exact hafter

theorem create_changesOnly {action : CompensationAction} (hfree : s.FreeFor tenantId action.id)
    (htenant : action.tenantId = tenantId) : ChangesOnlyOf tenantId s (s.create action).2 := by
  cases s with
  | inMemory repo => exact ChangesOnly.insert hfree htenant
  | sqlx table =>
    rw [ActionStorage.create, SqlxCompensationActionRepository.create]
    cases table.lookup action.id with
    | some row => exact .refl _ _
    | none => exact ChangesOnly.insert hfree htenant

theorem createActions_changesOnly {actions : List CompensationAction}
    (hactions : ∀ action ∈ actions, s.FreeFor tenantId action.id ∧ action.tenantId = tenantId) :
    ChangesOnlyOf tenantId s (s.createActions run actions).2 := by
  induction actions generalizing s with
  | nil => exact .refl _ s
  | cons action rest ih =>
    obtain ⟨hfree, htenant⟩ := hactions action List.mem_cons_self
    have hcreate : ChangesOnlyOf tenantId s
        (Fault.meet (run.createFaults action) s (s.create action)).2 :=
      Fault.meet_keeps _ (p := ChangesOnlyOf tenantId s) (.refl _ s)
        (create_changesOnly hfree htenant)
    rw [ActionStorage.createActions]
    revert hcreate
    rcases Fault.meet (run.createFaults action) s (s.create action) with ⟨_ | created, next⟩
    · exact id
    · intro hcreate
      refine hcreate.trans (ih fun other hmem => ?_)
      have hother := hactions other (List.mem_cons_of_mem _ hmem)
      exact ⟨hcreate.freeFor hother.1, hother.2⟩

/-- With claims, the planned actions are of the token's tenant; drawn identifiers are new. -/
theorem planCompensationActions_changesOnly (request : PlanCompensationActionsRequest)
    (rlsClaims : RlsTenantClaims) (hdraws : ∀ sideEffect, s.Unused (run.fresh sideEffect)) :
    ChangesOnlyOf rlsClaims.tenantId s
      (CompensationPlannerHandlers.planCompensationActions run request (some rlsClaims) s).2 := by
  rw [CompensationPlannerHandlers.planCompensationActions]
  split
  · exact .refl _ s
  next htenant =>
  rw [CompensationPlannerHandlers.planCompensationActionsWithoutJwt]
  dsimp only [Prod.map, id]
  rw [ActionStorage.planCompensationActions, not_not.mp htenant]
  cases run.listByIntent with
  | none => exact .refl _ s
  | some listByIntent =>
    dsimp only
    cases listByIntent request.intentId rlsClaims.tenantId with
    | error e => exact .refl _ s
    | ok sideEffects =>
      refine createActions_changesOnly fun action hmem => ?_
      obtain ⟨sideEffect, -, hplan⟩ := List.mem_filterMap.mp hmem
      obtain ⟨strategy, rationale, rfl⟩ := classifyAndPlanAction_eq hplan
      exact ⟨(hdraws sideEffect).freeFor, rfl⟩

end Ownership

end IntentRebase
