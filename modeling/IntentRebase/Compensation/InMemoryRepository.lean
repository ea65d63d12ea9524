import IntentRebase.Kit.LatestFirst
import IntentRebase.Kit.SecondaryIndex
import IntentRebase.Kit.Transition
import IntentRebase.Compensation.Lifecycle

/-! The in-memory repository of compensation actions as it is stored: the actions, and four indices
that every mutation maintains by hand. -/

namespace IntentRebase

open Kit ActionRepo

/-- What a mutation answers, and the state that it leaves. -/
abbrev Answered (σ : Type) := Except IntentRebaseError CompensationAction × σ

/-- A repository of compensation actions whose state is a `σ`. A call that stamps a time takes it
from the clock as an argument. -/
structure CompensationActionRepository (σ : Type) where
  create : σ → CompensationAction → Answered σ
  get : σ → Uuid → Except IntentRebaseError CompensationAction
  listByTenant : σ → Uuid → Option Nat → Except IntentRebaseError (List CompensationAction)
  updateStatus : σ → DateTime → Uuid → CompensationStatus → Int → Option String → Option String →
    Answered σ
  recordResult : σ → DateTime → Uuid → ExecutionResult → Int → Option String → Answered σ
  reapprove : σ → Uuid → Int → Answered σ

namespace CompensationActionRepository

variable {σ : Type} (repo : CompensationActionRepository σ) (s : σ)

/-- The transition that an approval or a waiver makes, checked against the action's status first. -/
def transition (now : DateTime) (actionId : Uuid) (target : CompensationStatus)
    (lockVersion : Int) (approvedBy waivedBy : Option String) : Answered σ :=
  match repo.get s actionId with
  | .error e => (.error e, s)
  | .ok action =>
    let validation := action.status.canTransitionTo target
    if !validation.allowed then
      (.error (.invalidCompensationActionTransition action.status.debug target.debug
        (validation.reason.getD "")), s)
    else repo.updateStatus s now actionId target lockVersion approvedBy waivedBy

def approveAction (now : DateTime) (actionId : Uuid) (lockVersion : Int)
    (approvedBy : Option String) : Answered σ :=
  repo.transition s now actionId .approved lockVersion approvedBy none

def waiveAction (now : DateTime) (actionId : Uuid) (lockVersion : Int)
    (waivedBy : Option String) : Answered σ :=
  repo.transition s now actionId .waived lockVersion none waivedBy

end CompensationActionRepository

/-- The actions, with their identifiers listed under four keys. -/
structure InMemoryCompensationActionRepository where
  actions : HashMap Uuid CompensationAction
  byTenant : SecondaryIndex Uuid Uuid
  bySideEffect : SecondaryIndex Uuid Uuid
  byStatus : SecondaryIndex (Uuid × CompensationStatus) Uuid
  byIntent : SecondaryIndex (Uuid × Uuid) Uuid

namespace CompensationAction

variable (action : CompensationAction)

/-- The key of an action in the index by status. -/
def statusKey : Uuid × CompensationStatus := (action.tenantId, action.status)

/-- The key of an action in the index by intent. -/
def intentKey : Uuid × Uuid := (action.tenantId, action.intentId)

/-- The action that is planned for a side effect, under an identifier and at a time. -/
def sample (id : Uuid) (generatedAt : DateTime) : CompensationAction :=
  .fromSideEffect id generatedAt 2 (.sample .s1InternalReversible)
    { intentId := 3, fromVersion := 1, toVersion := 2, workflowId := 4 } .rollback "undo"

end CompensationAction

namespace InMemoryCompensationActionRepository

/-- The empty repository. -/
def new : InMemoryCompensationActionRepository where
  actions := ∅
  byTenant := ∅
  bySideEffect := ∅
  byStatus := ∅
  byIntent := ∅

variable (s : InMemoryCompensationActionRepository)

def create (action : CompensationAction) : Answered InMemoryCompensationActionRepository :=
  (.ok action,
    { actions := s.actions.insert action.id action
      byTenant := s.byTenant.push action.tenantId action.id
      bySideEffect := s.bySideEffect.push action.sideEffectId action.id
      byStatus := s.byStatus.push (action.tenantId, action.status) action.id
      byIntent := s.byIntent.push (action.tenantId, action.intentId) action.id })

def get (actionId : Uuid) : Except IntentRebaseError CompensationAction :=
  match s.actions.lookup actionId with
  | some action => .ok action
  | none => .error (.compensationActionNotFound actionId)

def listByTenant (tenantId : Uuid) (limit : Option Nat) :
    Except IntentRebaseError (List CompensationAction) :=
  let ids := s.byTenant.bucket tenantId
  let result := latestFirst CompensationAction.generatedAt (ids.filterMap s.actions.lookup)
  .ok (match limit with
    | some l => result.take l
    | none => result)

def listBySideEffect (sideEffectId tenantId : Uuid) : List CompensationAction :=
  ((s.bySideEffect.bucket sideEffectId).filterMap s.actions.lookup).filter
    fun a => a.tenantId = tenantId

def listByIntent (intentId tenantId : Uuid) : List CompensationAction :=
  (s.byIntent.bucket (tenantId, intentId)).filterMap s.actions.lookup

def listByStatus (tenantId : Uuid) (status : CompensationStatus) : List CompensationAction :=
  (s.byStatus.bucket (tenantId, status)).filterMap s.actions.lookup

/-- A change of one action under its optimistic lock. On success the identifier moves to the bucket
of the new status. -/
def lockedUpdate (actionId : Uuid) (lockVersion : Int)
    (change : CompensationAction → Except IntentRebaseError CompensationAction) :
    Answered InMemoryCompensationActionRepository :=
  match s.actions.lookup actionId with
  | none => (.error (.compensationActionNotFound actionId), s)
  | some action =>
    if action.lockVersion ≠ lockVersion then (.error (.concurrencyConflict actionId), s)
    else
      match change action with
      | .error e => (.error e, s)
      | .ok changed =>
        let updated := { changed with lockVersion := action.lockVersion + 1 }
        (.ok updated,
          { s with
            actions := s.actions.insert actionId updated
            byStatus := s.byStatus.move (action.tenantId, action.status)
              (action.tenantId, updated.status) actionId })

def updateStatus (now : DateTime) (actionId : Uuid) (newStatus : CompensationStatus)
    (lockVersion : Int) (approvedBy waivedBy : Option String) :
    Answered InMemoryCompensationActionRepository :=
  s.lockedUpdate actionId lockVersion fun action =>
    .ok (withStatus now newStatus approvedBy waivedBy action)

def recordResult (actionId : Uuid) (result : ExecutionResult) (lockVersion : Int)
    (executedBy : Option String) : Answered InMemoryCompensationActionRepository :=
  s.lockedUpdate actionId lockVersion fun action => .ok (withResult result executedBy action)

def reapprove (actionId : Uuid) (lockVersion : Int) :
    Answered InMemoryCompensationActionRepository :=
  s.lockedUpdate actionId lockVersion fun action =>
    if action.status ≠ .failed then
      .error (.invalidCompensationActionTransition action.status.debug "Pending"
        "Only Failed actions can be reapproved")
    else .ok { action with status := .pending, failedAt := none }

/-- The in-memory repository as a repository. A result is stamped with its own time, not the
clock's. -/
def repository : CompensationActionRepository InMemoryCompensationActionRepository where
  create := create
  get := get
  listByTenant := listByTenant
  updateStatus := updateStatus
  recordResult s _ := s.recordResult
  reapprove := reapprove

end InMemoryCompensationActionRepository

/-- A call of the repository or, for an approval or a waiver, of the service on top of it. -/
inductive RepositoryCall where
  | create (action : CompensationAction)
  | get (actionId : Uuid)
  | listByTenant (tenantId : Uuid) (limit : Option Nat)
  | updateStatus (now : DateTime) (actionId : Uuid) (newStatus : CompensationStatus)
      (lockVersion : Int) (approvedBy waivedBy : Option String)
  | recordResult (now : DateTime) (actionId : Uuid) (result : ExecutionResult)
      (lockVersion : Int) (executedBy : Option String)
  | approve (now : DateTime) (actionId : Uuid) (lockVersion : Int) (approvedBy : Option String)
  | waive (now : DateTime) (actionId : Uuid) (lockVersion : Int) (waivedBy : Option String)
  | reapprove (actionId : Uuid) (lockVersion : Int)

/-- What a call returns: one action or a list of them. -/
inductive Answer where
  | action (result : Except IntentRebaseError CompensationAction)
  | actions (result : Except IntentRebaseError (List CompensationAction))

def Answer.isError : Answer → Bool
  | .action (.error _) | .actions (.error _) => true
  | _ => false

namespace RepositoryCall

def apply {σ : Type} (repo : CompensationActionRepository σ) (s : σ) : RepositoryCall → Answer × σ
  | .create action => (repo.create s action).map .action id
  | .get actionId => (.action (repo.get s actionId), s)
  | .listByTenant tenantId limit => (.actions (repo.listByTenant s tenantId limit), s)
  | .updateStatus now actionId newStatus lockVersion approvedBy waivedBy =>
    (repo.updateStatus s now actionId newStatus lockVersion approvedBy waivedBy).map .action id
  | .recordResult now actionId result lockVersion executedBy =>
    (repo.recordResult s now actionId result lockVersion executedBy).map .action id
  | .approve now actionId lockVersion approvedBy =>
    (repo.approveAction s now actionId lockVersion approvedBy).map .action id
  | .waive now actionId lockVersion waivedBy =>
    (repo.waiveAction s now actionId lockVersion waivedBy).map .action id
  | .reapprove actionId lockVersion => (repo.reapprove s actionId lockVersion).map .action id

end RepositoryCall

namespace InMemoryCompensationActionRepository

/-- Identifiers are keys, and every index lists each action once, under its own key. -/
structure Consistent (s : InMemoryCompensationActionRepository) : Prop where
  actionId : ∀ id action, s.actions.lookup id = some action → action.id = id
  byTenant : s.byTenant.Exact s.actions CompensationAction.tenantId
  bySideEffect : s.bySideEffect.Exact s.actions CompensationAction.sideEffectId
  byStatus : s.byStatus.Exact s.actions CompensationAction.statusKey
  byIntent : s.byIntent.Exact s.actions CompensationAction.intentKey

variable {s : InMemoryCompensationActionRepository} {actionId : Uuid} {lockVersion : Int}
  {change : CompensationAction → Except IntentRebaseError CompensationAction}

theorem Consistent.new : InMemoryCompensationActionRepository.new.Consistent where
  actionId _ _ h := by cases h
  byTenant := .empty
  bySideEffect := .empty
  byStatus := .empty
  byIntent := .empty

theorem Consistent.create (h : s.Consistent) {action : CompensationAction}
    (hfresh : s.actions.lookup action.id = none) : (s.create action).2.Consistent where
  actionId id a ha := by
    rw [InMemoryCompensationActionRepository.create, lookup_insert_eq] at ha
    split at ha
    · next hid =>
      cases ha
      exact hid.symm
    · exact h.actionId id a ha
  byTenant := h.byTenant.insert action hfresh
  bySideEffect := h.bySideEffect.insert action hfresh
  byStatus := h.byStatus.insert action hfresh
  byIntent := h.byIntent.insert action hfresh

/-- An update of one action as it is stored moves it to the bucket of its new status. -/
theorem Consistent.update (h : s.Consistent) {action updated : CompensationAction}
    (hlookup : s.actions.lookup actionId = some action) (hplan : SamePlan action updated) :
    ({ s with
      actions := s.actions.insert actionId updated
      byStatus := s.byStatus.move (action.tenantId, action.status)
        (action.tenantId, updated.status) actionId } :
      InMemoryCompensationActionRepository).Consistent where
  actionId id a ha := by
    rw [lookup_insert_eq] at ha
    split at ha
    · next hid =>
      cases ha
      rw [hplan.id, hid]
      exact h.actionId actionId action hlookup
    · exact h.actionId id a ha
  byTenant := h.byTenant.update hlookup hplan.tenantId
  bySideEffect := h.bySideEffect.update hlookup hplan.sideEffectId
  byStatus := by
    have hmove := h.byStatus.move updated hlookup
    rw [CompensationAction.statusKey, CompensationAction.statusKey, hplan.tenantId] at hmove
    exact hmove
  byIntent := by
    refine h.byIntent.update hlookup ?_
    rw [CompensationAction.intentKey, CompensationAction.intentKey, hplan.tenantId, hplan.intentId]

/-- The three outcomes of a change under the lock: it fails and leaves all five maps, or it stores
the changed action. -/
theorem lockedUpdate_cases (s : InMemoryCompensationActionRepository) (actionId : Uuid)
    (lockVersion : Int)
    (change : CompensationAction → Except IntentRebaseError CompensationAction) :
    (∃ e, s.lockedUpdate actionId lockVersion change = (.error e, s)) ∨
      ∃ action changed updated, s.actions.lookup actionId = some action ∧
        change action = .ok changed ∧
        updated = { changed with lockVersion := action.lockVersion + 1 } ∧
        s.lockedUpdate actionId lockVersion change = (.ok updated,
          { s with
            actions := s.actions.insert actionId updated
            byStatus := s.byStatus.move (action.tenantId, action.status)
              (action.tenantId, updated.status) actionId }) := by
  unfold lockedUpdate
  split
  · exact .inl ⟨_, rfl⟩
  next action hlookup =>
  split
  · exact .inl ⟨_, rfl⟩
  split
  · exact .inl ⟨_, rfl⟩
  · next changed hchange => exact .inr ⟨action, changed, _, hlookup, hchange, rfl, rfl⟩

theorem Consistent.lockedUpdate (h : s.Consistent)
    (hplan : ∀ action changed, change action = .ok changed → SamePlan action changed) :
    (s.lockedUpdate actionId lockVersion change).2.Consistent := by
  rcases lockedUpdate_cases s actionId lockVersion change with
    ⟨e, heq⟩ | ⟨action, changed, updated, hlookup, hchange, hupdated, heq⟩
  · rw [heq]
    exact h
  · rw [heq]
    have hsame := hplan action changed hchange
    refine h.update hlookup ?_
    rw [hupdated]
    exact ⟨hsame.id, hsame.tenantId, hsame.sideEffectId, hsame.intentId, hsame.triggerContext,
      hsame.feasibility, hsame.strategyType, hsame.rationale, hsame.maxRetries, hsame.generatedAt⟩

/-- A failed change under the lock leaves all five maps as they were. -/
theorem lockedUpdate_unchanged {e : IntentRebaseError}
    (h : (s.lockedUpdate actionId lockVersion change).1 = .error e) :
    (s.lockedUpdate actionId lockVersion change).2 = s := by
  rcases lockedUpdate_cases s actionId lockVersion change with ⟨e', heq⟩ | ⟨_, _, _, _, _, _, heq⟩
  · rw [heq]
  · rw [heq] at h
    cases h

/-- The stored actions go through the same change as those of `ActionRepo`. -/
theorem lockedUpdate_actions (s : InMemoryCompensationActionRepository) (actionId : Uuid)
    (lockVersion : Int)
    (change : CompensationAction → Except IntentRebaseError CompensationAction) :
    (s.lockedUpdate actionId lockVersion change).map id actions =
      ActionRepo.lockedUpdate s.actions actionId lockVersion change := by
  unfold lockedUpdate ActionRepo.lockedUpdate
  cases s.actions.lookup actionId with
  | none => rfl
  | some action =>
    dsimp only
    split
    · rfl
    · cases change action <;> rfl

theorem reapprove_actions (s : InMemoryCompensationActionRepository) :
    (s.reapprove actionId lockVersion).map id actions =
      ActionRepo.reapprove s.actions actionId lockVersion :=
  s.lockedUpdate_actions _ _ _

theorem samePlan_withStatus (action : CompensationAction) (now : DateTime)
    (newStatus : CompensationStatus) (approvedBy waivedBy : Option String) :
    SamePlan action (withStatus now newStatus approvedBy waivedBy action) := by
  cases newStatus <;> constructor <;> rfl

theorem samePlan_reapproved {action changed : CompensationAction}
    (h : (if action.status ≠ .failed then
        .error (.invalidCompensationActionTransition action.status.debug "Pending"
          "Only Failed actions can be reapproved")
      else .ok { action with status := .pending, failedAt := none } :
        Except IntentRebaseError CompensationAction) = .ok changed) :
    SamePlan action changed := by
  split at h
  · cases h
  · cases h
    constructor <;> rfl

theorem Consistent.updateStatus (h : s.Consistent) (now : DateTime) (newStatus : CompensationStatus)
    (approvedBy waivedBy : Option String) :
    (s.updateStatus now actionId newStatus lockVersion approvedBy waivedBy).2.Consistent := by
  refine h.lockedUpdate fun action changed hchange => ?_
  cases hchange
  exact samePlan_withStatus action now newStatus approvedBy waivedBy

theorem Consistent.recordResult (h : s.Consistent) (result : ExecutionResult)
    (executedBy : Option String) :
    (s.recordResult actionId result lockVersion executedBy).2.Consistent := by
  refine h.lockedUpdate fun action changed hchange => ?_
  cases hchange
  exact samePlan_withResult action result executedBy

theorem Consistent.reapprove (h : s.Consistent) :
    (s.reapprove actionId lockVersion).2.Consistent :=
  h.lockedUpdate fun _ _ => samePlan_reapproved

/-- An approval or a waiver refuses, or is the update of the status. -/
theorem transition_cases {σ : Type} (repo : CompensationActionRepository σ) (s : σ) (now : DateTime)
    (actionId : Uuid) (target : CompensationStatus) (lockVersion : Int)
    (approvedBy waivedBy : Option String) :
    (∃ e, repo.transition s now actionId target lockVersion approvedBy waivedBy = (.error e, s)) ∨
      repo.transition s now actionId target lockVersion approvedBy waivedBy =
        repo.updateStatus s now actionId target lockVersion approvedBy waivedBy := by
  unfold CompensationActionRepository.transition
  split
  · exact .inl ⟨_, rfl⟩
  dsimp only
  split
  · exact .inl ⟨_, rfl⟩
  · exact .inr rfl

theorem Consistent.transition (h : s.Consistent) (now : DateTime) (target : CompensationStatus)
    (approvedBy waivedBy : Option String) :
    (repository.transition s now actionId target lockVersion approvedBy waivedBy).2.Consistent := by
  rcases transition_cases repository s now actionId target lockVersion approvedBy waivedBy with
    ⟨e, heq⟩ | heq
  · rw [heq]
    exact h
  · rw [heq]
    exact h.updateStatus now target approvedBy waivedBy

theorem transition_error {now : DateTime} {target : CompensationStatus}
    {approvedBy waivedBy : Option String} {e : IntentRebaseError}
    (h : (repository.transition s now actionId target lockVersion approvedBy waivedBy).1 =
      .error e) :
    (repository.transition s now actionId target lockVersion approvedBy waivedBy).2 = s := by
  rcases transition_cases repository s now actionId target lockVersion approvedBy waivedBy with
    ⟨e', heq⟩ | heq
  · rw [heq]
  · rw [heq] at h ⊢
    exact lockedUpdate_unchanged h

section Listings

variable (h : s.Consistent)

/-- The stored actions that a predicate selects. -/
def select (s : InMemoryCompensationActionRepository) (p : CompensationAction → Prop)
    [DecidablePred p] : List CompensationAction :=
  ((pairs s.actions).map Prod.snd).filter fun action => p action

include h

theorem tenantActions_perm (tenantId : Uuid) :
    ((s.byTenant.bucket tenantId).filterMap s.actions.lookup).Perm
      (s.select fun action => action.tenantId = tenantId) :=
  h.byTenant.values_perm tenantId

theorem listByStatus_perm (tenantId : Uuid) (status : CompensationStatus) :
    (s.listByStatus tenantId status).Perm
      (s.select fun action => action.tenantId = tenantId ∧ action.status = status) := by
  refine (h.byStatus.values_perm (tenantId, status)).trans (.of_eq ?_)
  simp only [CompensationAction.statusKey, Prod.mk.injEq, select]

end Listings

end InMemoryCompensationActionRepository

namespace RepositoryCall

open InMemoryCompensationActionRepository

/-- A new action comes under an identifier that the repository does not have. -/
def Fresh (s : InMemoryCompensationActionRepository) : RepositoryCall → Prop
  | .create action => s.actions.lookup action.id = none
  | _ => True

/-- The state after a call. -/
def next (s : InMemoryCompensationActionRepository) (call : RepositoryCall) :
    InMemoryCompensationActionRepository := (call.apply repository s).2

/-- The step of a call, whatever it answers. -/
def Step (s : InMemoryCompensationActionRepository) (call : RepositoryCall)
    (s' : InMemoryCompensationActionRepository) : Prop :=
  call.Fresh s ∧ call.next s = s'

variable {s s' : InMemoryCompensationActionRepository} {call : RepositoryCall}

theorem consistent_next (hfresh : call.Fresh s) (h : s.Consistent) : (call.next s).Consistent := by
  cases call with
  | create action => exact h.create hfresh
  | get actionId => exact h
  | listByTenant tenantId limit => exact h
  | updateStatus now actionId newStatus lockVersion approvedBy waivedBy =>
    exact h.updateStatus now newStatus approvedBy waivedBy
  | recordResult now actionId result lockVersion executedBy =>
    exact h.recordResult result executedBy
  | approve now actionId lockVersion approvedBy => exact h.transition now .approved approvedBy none
  | waive now actionId lockVersion waivedBy => exact h.transition now .waived none waivedBy
  | reapprove actionId lockVersion => exact h.reapprove

theorem Answer.isError_action {r : Except IntentRebaseError CompensationAction}
    (h : (Answer.action r).isError = true) : ∃ e, r = .error e := by
  cases r with
  | error e => exact ⟨e, rfl⟩
  | ok action => cases h

/-- A call that fails leaves the repository as it was. -/
theorem next_of_isError (h : (call.apply repository s).1.isError = true) : call.next s = s := by
  cases call with
  | create action => cases h
  | get actionId => rfl
  | listByTenant tenantId limit => rfl
  | updateStatus now actionId newStatus lockVersion approvedBy waivedBy =>
    have hfail : ∃ e, (s.updateStatus now actionId newStatus lockVersion approvedBy waivedBy).1 =
        .error e := Answer.isError_action h
    exact lockedUpdate_unchanged hfail.choose_spec
  | recordResult now actionId result lockVersion executedBy =>
    have hfail : ∃ e, (s.recordResult actionId result lockVersion executedBy).1 = .error e :=
      Answer.isError_action h
    exact lockedUpdate_unchanged hfail.choose_spec
  | approve now actionId lockVersion approvedBy =>
    have hfail : ∃ e, (repository.transition s now actionId .approved lockVersion approvedBy
        none).1 = .error e := Answer.isError_action h
    exact transition_error hfail.choose_spec
  | waive now actionId lockVersion waivedBy =>
    have hfail : ∃ e, (repository.transition s now actionId .waived lockVersion none
        waivedBy).1 = .error e := Answer.isError_action h
    exact transition_error hfail.choose_spec
  | reapprove actionId lockVersion =>
    have hfail : ∃ e, (s.reapprove actionId lockVersion).1 = .error e := Answer.isError_action h
    exact lockedUpdate_unchanged hfail.choose_spec

/-- After any sequence of calls on a new repository, creations under new identifiers, the indices
are exact, and a call that fails changes nothing. -/
theorem indices_exact_of_run {calls : List RepositoryCall} (h : Run Step .new calls s) :
    s.Consistent ∧
      ∀ call : RepositoryCall, (call.apply repository s).1.isError = true → call.next s = s := by
  constructor
  · refine h.always (fun s call s' hstep hs => ?_) Consistent.new
    rw [← hstep.2]
    exact consistent_next hstep.1 hs
  · exact fun call hfail => next_of_isError hfail

theorem indices_exact_of_run_sample :
    ((new.create (.sample 3 0)).2.updateStatus 1 3 .approved 0 none none).2.Consistent := by
  have hrun : Run Step .new [.create (.sample 3 0), .updateStatus 1 3 .approved 0 none none] _ :=
    .cons ⟨rfl, rfl⟩ (.cons ⟨trivial, rfl⟩ (.nil _))
  exact (indices_exact_of_run hrun).1

end RepositoryCall

end IntentRebase
