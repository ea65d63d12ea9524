import IntentRebase.Compensation.RunAccounting

/-! Batches: one service operation on each action of a list of identifiers, with an outcome for each
and a summary of the outcomes. -/

namespace IntentRebase

open Kit

structure BatchOrchestrationSummary where
  total : Nat
  succeeded : Nat
  failed : Nat
  notFound : Nat
deriving DecidableEq, Repr

structure BatchItemOutcome where
  actionId : Uuid
  success : Bool
  result : Except String CompensationAction

structure BatchOrchestrationResult where
  outcomes : List BatchItemOutcome
  notFound : List Uuid
  summary : BatchOrchestrationSummary

namespace BatchOrchestrationResult

/-- The result of a batch before its first item. -/
def start (actionIds : List Uuid) : BatchOrchestrationResult where
  outcomes := []
  notFound := []
  summary := { total := actionIds.length, succeeded := 0, failed := 0, notFound := 0 }

variable (batch : BatchOrchestrationResult) (actionId : Uuid)

/-- An action that is not found is also counted as failed. -/
def addNotFound (reason : String) : BatchOrchestrationResult where
  outcomes := batch.outcomes ++ [{ actionId, success := false, result := .error reason }]
  notFound := batch.notFound ++ [actionId]
  summary :=
    { batch.summary with
      notFound := batch.summary.notFound + 1
      failed := batch.summary.failed + 1 }

def addSucceeded (updated : CompensationAction) : BatchOrchestrationResult :=
  { batch with
    outcomes := batch.outcomes ++ [{ actionId, success := true, result := .ok updated }]
    summary := { batch.summary with succeeded := batch.summary.succeeded + 1 } }

def addFailed (e : IntentRebaseError) : BatchOrchestrationResult :=
  { batch with
    outcomes := batch.outcomes ++ [{ actionId, success := false, result := .error e.display }]
    summary := { batch.summary with failed := batch.summary.failed + 1 } }

end BatchOrchestrationResult

/-- The service call on a stored action, given the time, the requested identifier and the lock
version of the action. -/
abbrev BatchCall := DateTime → Uuid → Int → Call

section Batch

variable (call : BatchCall) (clock : Nat → DateTime) (tenantId : Uuid)

/-- The pass over the items of a batch. The clock is read once for each item. -/
def batchItems :
    Nat → List Uuid → BatchOrchestrationResult → ActionRepo →
      Except IntentRebaseError BatchOrchestrationResult × ActionRepo
  | _, [], batch, repo => (.ok batch, repo)
  | tick, actionId :: rest, batch, repo =>
    match repo.get actionId with
    | .ok action =>
      -- An action of another tenant is reported as not found.
      if action.tenantId ≠ tenantId then
        batchItems (tick + 1) rest
          (batch.addNotFound actionId "Action not found or access denied") repo
      else
        match (call (clock tick) actionId action.lockVersion).apply repo with
        | (.ok updated, after) =>
          batchItems (tick + 1) rest (batch.addSucceeded actionId updated) after
        | (.error e, after) => batchItems (tick + 1) rest (batch.addFailed actionId e) after
    | .error (.compensationActionNotFound _) =>
      batchItems (tick + 1) rest (batch.addNotFound actionId "Compensation action not found") repo
    | .error e => (.error e, repo)

def batchApprove (repo : ActionRepo) (actionIds : List Uuid) (approvedBy : Option String) :
    Except IntentRebaseError BatchOrchestrationResult × ActionRepo :=
  batchItems (fun now actionId lockVersion => .approve now actionId lockVersion approvedBy) clock
    tenantId 0 actionIds (.start actionIds) repo

def batchReapprove (repo : ActionRepo) (actionIds : List Uuid) :
    Except IntentRebaseError BatchOrchestrationResult × ActionRepo :=
  batchItems (fun _ actionId lockVersion => .reapprove actionId lockVersion) clock tenantId 0
    actionIds (.start actionIds) repo

/-- The executor of a batch, and who runs it. -/
def executeCall (executor : DateTime → Executor) (executedBy : Option String) : BatchCall :=
  fun now actionId _ => .execute (executor now) actionId executedBy

def batchExecute (executor : DateTime → Executor) (repo : ActionRepo) (actionIds : List Uuid)
    (executedBy : Option String) :
    Except IntentRebaseError BatchOrchestrationResult × ActionRepo :=
  batchItems (executeCall executor executedBy) clock tenantId 0 actionIds (.start actionIds) repo

end Batch

namespace Attempt

variable (call : BatchCall) (attempt : Attempt)

/-- The answer of the call that a batch makes for the item, if it finds the action. -/
def called : Option Outcome :=
  attempt.found.map fun action =>
    (call attempt.now attempt.actionId action.lockVersion).apply attempt.actions

/-- The actions after the item of a batch. -/
def afterCall : ActionRepo :=
  match attempt.called call with
  | some (_, after) => after
  | none => attempt.actions

/-- The batch reports a success for the item. -/
def succeeds : Bool :=
  match attempt.called call with
  | some (.ok _, _) => true
  | _ => false

end Attempt

/-- What the items of a batch add to its result. -/
structure Batched (call : BatchCall) (items : List Attempt)
    (batch result : BatchOrchestrationResult) : Prop where
  actionIds : result.outcomes.map BatchItemOutcome.actionId =
    batch.outcomes.map BatchItemOutcome.actionId ++ items.map Attempt.actionId
  successes : result.outcomes.map BatchItemOutcome.success =
    batch.outcomes.map BatchItemOutcome.success ++ items.map (Attempt.succeeds call)
  notFound : result.notFound = batch.notFound ++
    (items.filter fun attempt => attempt.found.isNone).map Attempt.actionId
  total : result.summary.total = batch.summary.total
  succeeded : result.summary.succeeded =
    batch.summary.succeeded + items.countP (Attempt.succeeds call)
  failed : result.summary.failed =
    batch.summary.failed + items.countP fun attempt => !attempt.succeeds call

namespace Batched

variable {call : BatchCall} {attempt : Attempt} {items items' : List Attempt}
  {batch batch' result : BatchOrchestrationResult}

theorem append (h : Batched call items batch batch') (h' : Batched call items' batch' result) :
    Batched call (items ++ items') batch result where
  actionIds := by rw [h'.actionIds, h.actionIds, List.map_append, List.append_assoc]
  successes := by rw [h'.successes, h.successes, List.map_append, List.append_assoc]
  notFound := by
    rw [h'.notFound, h.notFound, List.filter_append, List.map_append, List.append_assoc]
  total := h'.total.trans h.total
  succeeded := by rw [h'.succeeded, h.succeeded, List.countP_append, Nat.add_assoc]
  failed := by rw [h'.failed, h.failed, List.countP_append, Nat.add_assoc]

theorem addNotFound (hfound : attempt.found = none) (reason : String) :
    Batched call [attempt] batch (batch.addNotFound attempt.actionId reason) := by
  have hfails : attempt.succeeds call = false := by
    rw [Attempt.succeeds, Attempt.called, hfound]
    rfl
  constructor <;> simp [BatchOrchestrationResult.addNotFound, hfound, hfails]

theorem addSucceeded {updated : CompensationAction} {after : ActionRepo}
    (hcalled : attempt.called call = some (.ok updated, after)) :
    Batched call [attempt] batch (batch.addSucceeded attempt.actionId updated) := by
  have hfound : attempt.found ≠ none := by
    intro hnone
    rw [Attempt.called, hnone] at hcalled
    cases hcalled
  have hsucceeds : attempt.succeeds call = true := by rw [Attempt.succeeds, hcalled]
  constructor <;> simp [BatchOrchestrationResult.addSucceeded, hfound, hsucceeds]

theorem addFailed {e : IntentRebaseError} {after : ActionRepo}
    (hcalled : attempt.called call = some (.error e, after)) :
    Batched call [attempt] batch (batch.addFailed attempt.actionId e) := by
  have hfound : attempt.found ≠ none := by
    intro hnone
    rw [Attempt.called, hnone] at hcalled
    cases hcalled
  have hfails : attempt.succeeds call = false := by rw [Attempt.succeeds, hcalled]
  constructor <;> simp [BatchOrchestrationResult.addFailed, hfound, hfails]

end Batched

section Pass

variable (executor : DateTime → Executor) (call : BatchCall) (clock : Nat → DateTime)
  (tenantId : Uuid)

/-- One item of a batch adds its outcome, and leaves the rest to the other items. -/
theorem batchItems_cons (tick : Nat) (actionId : Uuid) (rest : List Uuid)
    (batch : BatchOrchestrationResult) (repo : ActionRepo) :
    let attempt : Attempt :=
      { now := clock tick, executor := executor (clock tick), tenantId, actionId, actions := repo }
    ∃ batch', batchItems call clock tenantId tick (actionId :: rest) batch repo =
        batchItems call clock tenantId (tick + 1) rest batch' (attempt.afterCall call) ∧
      Batched call [attempt] batch batch' := by
  intro attempt
  rw [batchItems, ActionRepo.get]
  cases hlookup : repo.lookup actionId with
  | none =>
    have hfound : attempt.found = none := by rw [Attempt.found, hlookup]; rfl
    refine ⟨_, ?_, .addNotFound hfound "Compensation action not found"⟩
    rw [Attempt.afterCall, Attempt.called, hfound]
    rfl
  | some action =>
    by_cases htenant : action.tenantId = tenantId
    · have hfound : attempt.found = some action := Attempt.found_eq_some.mpr ⟨hlookup, htenant⟩
      have hcalled : attempt.called call =
          some ((call (clock tick) actionId action.lockVersion).apply repo) := by
        rw [Attempt.called, hfound]
        rfl
      simp only [htenant, ne_eq, not_true_eq_false, if_false]
      rcases hanswer : (call (clock tick) actionId action.lockVersion).apply repo with
        ⟨e | updated, after⟩
      · rw [hanswer] at hcalled
        refine ⟨_, ?_, .addFailed hcalled⟩
        rw [Attempt.afterCall, hcalled]
      · rw [hanswer] at hcalled
        refine ⟨_, ?_, .addSucceeded hcalled⟩
        rw [Attempt.afterCall, hcalled]
    · have hfound : attempt.found = none := by
        rw [Attempt.found, hlookup]
        simp [htenant, attempt]
      simp only [htenant, ne_eq, not_false_eq_true, if_true]
      refine ⟨_, ?_, .addNotFound hfound "Action not found or access denied"⟩
      rw [Attempt.afterCall, Attempt.called, hfound]
      rfl

/-- Every batch goes through all of its items. -/
theorem batchItems_batched (tick : Nat) (actionIds : List Uuid)
    (batch : BatchOrchestrationResult) (repo : ActionRepo) :
    ∃ result after,
      batchItems call clock tenantId tick actionIds batch repo = (.ok result, after) ∧
      Batched call (attempts executor clock tenantId (Attempt.afterCall call) tick actionIds repo)
        batch result := by
  induction actionIds generalizing tick batch repo with
  | nil => exact ⟨batch, repo, rfl, by constructor <;> simp [attempts]⟩
  | cons actionId rest ih =>
    obtain ⟨batch', hcons, hitem⟩ :=
      batchItems_cons executor call clock tenantId tick actionId rest batch repo
    obtain ⟨result, after, hrest, hresult⟩ := ih (tick + 1) batch' _
    exact ⟨result, after, hcons.trans hrest, hitem.append hresult⟩

end Pass

end IntentRebase
