import IntentRebase.Api.CompensationMutation
import IntentRebase.Compensation.Batch

/-! The handlers that approve, reapprove and execute a list of compensation actions: with claims,
item by item in transactions of the token's tenant; without claims, through the service. -/

namespace IntentRebase

open Kit SqlxCompensationActionRepository

structure BatchItemOutcomeResponse where
  actionId : Uuid
  success : Bool
  result : Option CompensationAction
  error : Option String
deriving DecidableEq

structure BatchOrchestrationResponse where
  outcomes : List BatchItemOutcomeResponse
  notFound : List Uuid
  summary : BatchOrchestrationSummary
deriving DecidableEq

/-- The answer for the result of a batch of the service. -/
def mapBatchResultToResponse (result : BatchOrchestrationResult) : BatchOrchestrationResponse where
  outcomes := result.outcomes.map fun o => {
    actionId := o.actionId
    success := o.success
    result := o.result.toOption
    error :=
      match o.result with
      | .ok _ => none
      | .error e => some e }
  notFound := result.notFound
  summary := result.summary

namespace ActionStorage

section Service

/-- A service operation on a stored action, given the time and the requested identifier. -/
abbrev ItemCall := DateTime → Uuid → CompensationAction → ActionStorage → Answered ActionStorage

variable (call : ItemCall) (clock : Nat → DateTime) (tenantId : Uuid)

/-- The pass of the service over the items of a batch. -/
def batchItems :
    Nat → List Uuid → BatchOrchestrationResult → ActionStorage →
      Except IntentRebaseError BatchOrchestrationResult × ActionStorage
  | _, [], batch, s => (.ok batch, s)
  | tick, actionId :: rest, batch, s =>
    match s.get actionId with
    | .ok action =>
      if action.tenantId ≠ tenantId then
        batchItems (tick + 1) rest
          (batch.addNotFound actionId "Action not found or access denied") s
      else
        match call (clock tick) actionId action s with
        | (.ok updated, after) =>
          batchItems (tick + 1) rest (batch.addSucceeded actionId updated) after
        | (.error e, after) => batchItems (tick + 1) rest (batch.addFailed actionId e) after
    | .error (.compensationActionNotFound _) =>
      batchItems (tick + 1) rest (batch.addNotFound actionId "Compensation action not found") s
    | .error e => (.error e, s)

/-- A preorder that the calls of a batch keep holds between the actions before and after it. -/
theorem batchItems_keeps {r : ActionStorage → ActionStorage → Prop} (hrefl : ∀ s, r s s)
    (htrans : ∀ {s s' s''}, r s s' → r s' s'' → r s s'')
    (hcall : ∀ now actionId action s, s.get actionId = .ok action → action.tenantId = tenantId →
      r s (call now actionId action s).2)
    (tick : Nat) (actionIds : List Uuid) (batch : BatchOrchestrationResult) (s : ActionStorage) :
    r s (batchItems call clock tenantId tick actionIds batch s).2 := by
  induction actionIds generalizing tick batch s with
  | nil => exact hrefl s
  | cons actionId rest ih =>
    rw [batchItems]
    cases hget : s.get actionId with
    | error e => cases e <;> first | exact ih .. | exact hrefl s
    | ok action =>
      dsimp only
      split
      · exact ih ..
      next htenant =>
      have hstep := hcall (clock tick) actionId action s hget (not_not.mp htenant)
      rcases hanswer : call (clock tick) actionId action s with ⟨_ | updated, after⟩ <;>
        rw [hanswer] at hstep <;> exact htrans hstep (ih ..)

def batchApprove (actionIds : List Uuid) (approvedBy : Option String) :
    ActionStorage → Except IntentRebaseError BatchOrchestrationResult × ActionStorage :=
  batchItems (fun now actionId action s =>
    s.approveAction now actionId action.lockVersion approvedBy) clock tenantId 0 actionIds
    (.start actionIds)

def batchReapprove (actionIds : List Uuid) :
    ActionStorage → Except IntentRebaseError BatchOrchestrationResult × ActionStorage :=
  batchItems (fun _ actionId action s => s.reapproveAction actionId action.lockVersion) clock
    tenantId 0 actionIds (.start actionIds)

def batchExecute (sideEffectRepo : Option SideEffectRepo) (actionIds : List Uuid)
    (executedBy : Option String) :
    ActionStorage → Except IntentRebaseError BatchOrchestrationResult × ActionStorage :=
  batchItems (fun now actionId _ s => s.executeAction sideEffectRepo now actionId executedBy) clock
    tenantId 0 actionIds (.start actionIds)

end Service

end ActionStorage

namespace BatchOrchestrationResponse

/-- The answer before the first item, with the identifiers that are already known as not found. -/
def start (actionIds notFound : List Uuid) : BatchOrchestrationResponse where
  outcomes := []
  notFound := notFound
  summary := { total := actionIds.length, succeeded := 0, failed := 0, notFound := 0 }

variable (response : BatchOrchestrationResponse) (actionId : Uuid)

def addFailed (error : String) : BatchOrchestrationResponse :=
  { response with
    outcomes := response.outcomes ++
      [{ actionId, success := false, result := none, error := some error }]
    summary := { response.summary with failed := response.summary.failed + 1 } }

/-- An action that is not found is also counted as failed. -/
def addNotFound (error : String) : BatchOrchestrationResponse :=
  let response := response.addFailed actionId error
  { response with
    notFound := response.notFound ++ [actionId]
    summary := { response.summary with notFound := response.summary.notFound + 1 } }

def addSucceeded (updated : CompensationAction) : BatchOrchestrationResponse :=
  { response with
    outcomes := response.outcomes ++
      [{ actionId, success := true, result := some updated, error := none }]
    summary := { response.summary with succeeded := response.summary.succeeded + 1 } }

/-- The answer of the approvals and reapprovals counts the identifiers that it lists. -/
def countNotFound : BatchOrchestrationResponse :=
  { response with summary := { response.summary with notFound := response.notFound.length } }

end BatchOrchestrationResponse

/-- The identifiers that are not found; an action of another tenant rejects the batch. -/
def preValidateBatchActionTenants (rlsClaims : RlsTenantClaims) (s : ActionStorage) :
    List Uuid → Except IntentRebaseError (List Uuid)
  | [] => .ok []
  | actionId :: rest =>
    match s.get actionId with
    | .ok action =>
      if action.tenantId ≠ rlsClaims.tenantId then
        .error (.unauthorized (s!"Tenant mismatch: JWT tenant_id ({rlsClaims.tenantId.display}) " ++
          s!"does not match action {actionId.display} tenant_id ({action.tenantId.display})"))
      else preValidateBatchActionTenants rlsClaims s rest
    | .error (.compensationActionNotFound _) =>
      (preValidateBatchActionTenants rlsClaims s rest).map (actionId :: ·)
    | .error e => .error e

/-- What a handler does with an action of the batch: the updated action, or the text of an error. -/
abbrev ItemHandler := Nat → Uuid → CompensationAction → ActionStorage →
  Except String CompensationAction × ActionStorage

/-- The pass of a handler over the items of a batch with claims. -/
def claimsItems (item : ItemHandler) (missing : String) :
    Nat → List Uuid → BatchOrchestrationResponse → ActionStorage →
      BatchOrchestrationResponse × ActionStorage
  | _, [], response, s => (response, s)
  | n, actionId :: rest, response, s =>
    match s.get actionId with
    | .error (.compensationActionNotFound _) =>
      claimsItems item missing (n + 1) rest (response.addNotFound actionId missing) s
    | .error e => claimsItems item missing (n + 1) rest (response.addFailed actionId e.display) s
    | .ok action =>
      match item n actionId action s with
      | (.ok updated, after) =>
        claimsItems item missing (n + 1) rest (response.addSucceeded actionId updated) after
      | (.error e, after) =>
        claimsItems item missing (n + 1) rest (response.addFailed actionId e) after

/-- The text of a failed transaction in an approval or a reapproval of a batch. -/
def RlsFailure.batchText : RlsFailure → String
  | .notBegun e => s!"failed to begin RLS transaction: {e}"
  | .refused e => e.display
  | .notCommitted e => s!"failed to commit: {e}"

/-- The text of a failed transaction in an execution of a batch. -/
def RlsFailure.batchExecuteText : RlsFailure → String
  | .notBegun e => s!"Failed to begin RLS transaction: {e}"
  | .refused e => e.display
  | .notCommitted e => s!"Failed to commit RLS transaction: {e}"

section Handlers

variable (config : CompensationConfig) (faults : Nat → TxFaults) (clock : Nat → DateTime)
  (initiatedBy : Option String) (rlsClaims : RlsTenantClaims)

def approveItem : ItemHandler := fun n actionId action s =>
  let validation := action.status.canTransitionTo .approved
  if !validation.allowed then
    let reason := validation.reason.getD ""
    (.error s!"Invalid transition: {action.status.debug} -> Approved ({reason})", s)
  else
    match rlsTable config s with
    | some table =>
      (withTenant rlsClaims.tenantId (faults n) (updateStatusWithTx rlsClaims.tenantId
        (faults n).updateFault (clock n) actionId .approved action.lockVersion initiatedBy none)
        table).map (.mapError RlsFailure.batchText) .sqlx
    | none =>
      (s.approveAction (clock n) actionId action.lockVersion initiatedBy).map
        (.mapError IntentRebaseError.display) id

/-- In a transaction, the status is the only gate that is checked. -/
def reapproveItem : ItemHandler := fun n actionId action s =>
  if action.status ≠ .failed then
    (.error (s!"Invalid transition: {action.status.debug} -> Pending " ++
      "(Only Failed actions can be reapproved)"), s)
  else
    match rlsTable config s with
    | some table =>
      (withTenant rlsClaims.tenantId (faults n) (reapproveWithTx rlsClaims.tenantId
        (faults n).updateFault table actionId action.lockVersion) table).map
        (.mapError RlsFailure.batchText) .sqlx
    | none =>
      (s.reapproveAction actionId action.lockVersion).map (.mapError IntentRebaseError.display) id

def executeItem : ItemHandler := fun n actionId action s =>
  if action.tenantId ≠ rlsClaims.tenantId then
    (.error "Tenant mismatch: action not found or access denied", s)
  else
    match rlsTable config s with
    | some table =>
      if action.status ≠ .approved then (.error "Action is not in Approved status", s)
      else if !isAllowedCombo action.strategyType action.feasibility then
        (.error "Action is not service-executable", s)
      else
        match dispatchExecutor (clock n) IntentRebaseError.display
          "Side effect repository not available" "Unsupported strategy/feasibility combo"
          config.sideEffectRepo action with
        | .error e => (.error e, s)
        | .ok result =>
          (recordInTransaction config (faults n) (clock n) actionId rlsClaims.tenantId action result
            initiatedBy table).map (.mapError RlsFailure.batchExecuteText) .sqlx
    | none =>
      (s.executeAction config.sideEffectRepo (clock n) actionId initiatedBy).map
        (.mapError IntentRebaseError.display) id

/-- A batch with claims that is rejected if an action is of another tenant. -/
def preValidatedBatch (item : ItemHandler) (actionIds : List Uuid) (s : ActionStorage) :
    Except IntentRebaseError BatchOrchestrationResponse × ActionStorage :=
  match preValidateBatchActionTenants rlsClaims s actionIds with
  | .error e => (.error e, s)
  | .ok notFound =>
    (claimsItems item "Action not found" 0 actionIds (.start actionIds notFound) s).map
      (fun response => .ok response.countNotFound) id

/-- The answer of a batch of the service. -/
def serviceBatch (batch : ActionStorage →
      Except IntentRebaseError BatchOrchestrationResult × ActionStorage) (s : ActionStorage) :
    Except IntentRebaseError BatchOrchestrationResponse × ActionStorage :=
  (batch s).map (.map mapBatchResultToResponse) id

variable (claims : Option RlsTenantClaims) (tenantId : Uuid) (actionIds : List Uuid)

/-- The handlers of the build without tokens. -/
def batchApproveCompensationActionsWithoutJwt :
    ActionStorage → Except IntentRebaseError BatchOrchestrationResponse × ActionStorage :=
  serviceBatch (ActionStorage.batchApprove clock tenantId actionIds initiatedBy)

def batchReapproveCompensationActionsWithoutJwt :
    ActionStorage → Except IntentRebaseError BatchOrchestrationResponse × ActionStorage :=
  serviceBatch (ActionStorage.batchReapprove clock tenantId actionIds)

def batchExecuteCompensationActionsWithoutJwt :
    ActionStorage → Except IntentRebaseError BatchOrchestrationResponse × ActionStorage :=
  serviceBatch (ActionStorage.batchExecute clock tenantId config.sideEffectRepo actionIds
    initiatedBy)

def batchApproveCompensationActions :
    ActionStorage → Except IntentRebaseError BatchOrchestrationResponse × ActionStorage :=
  match claims with
  | some rlsClaims =>
    preValidatedBatch rlsClaims (approveItem config faults clock initiatedBy rlsClaims) actionIds
  | none => batchApproveCompensationActionsWithoutJwt clock initiatedBy tenantId actionIds

def batchReapproveCompensationActions :
    ActionStorage → Except IntentRebaseError BatchOrchestrationResponse × ActionStorage :=
  match claims with
  | some rlsClaims => preValidatedBatch rlsClaims (reapproveItem config faults rlsClaims) actionIds
  | none => batchReapproveCompensationActionsWithoutJwt clock tenantId actionIds

def batchExecuteCompensationActions (s : ActionStorage) :
    Except IntentRebaseError BatchOrchestrationResponse × ActionStorage :=
  match claims with
  | some rlsClaims =>
    (claimsItems (executeItem config faults clock initiatedBy rlsClaims)
      "Compensation action not found" 0 actionIds (.start actionIds []) s).map .ok id
  | none =>
    batchExecuteCompensationActionsWithoutJwt config clock initiatedBy tenantId actionIds s

end Handlers

section Validation

variable {rlsClaims : RlsTenantClaims} {s : ActionStorage} {actionIds : List Uuid}

/-- Each requested action is the tenant's, or is not stored. -/
def Validated (rlsClaims : RlsTenantClaims) (s : ActionStorage) (actionIds : List Uuid) : Prop :=
  ∀ actionId ∈ actionIds, (∃ id, s.get actionId = .error (.compensationActionNotFound id)) ∨
    ∃ action, s.get actionId = .ok action ∧ action.tenantId = rlsClaims.tenantId

/-- No action is stored under the identifier. -/
def isMissing (s : ActionStorage) (actionId : Uuid) : Bool :=
  match s.get actionId with
  | .error (.compensationActionNotFound _) => true
  | _ => false

/-- The identifiers of a batch that are not stored. -/
def missingIds (s : ActionStorage) (actionIds : List Uuid) : List Uuid :=
  actionIds.filter (isMissing s)

variable (rlsClaims s actionIds) in
/-- The validation of a batch lets it pass with the identifiers that are not stored, or rejects it.
-/
theorem preValidate_cases :
    (Validated rlsClaims s actionIds ∧
      preValidateBatchActionTenants rlsClaims s actionIds = .ok (missingIds s actionIds)) ∨
    (¬ Validated rlsClaims s actionIds ∧
      ∃ e, preValidateBatchActionTenants rlsClaims s actionIds = .error e) := by
  induction actionIds with
  | nil => exact .inl ⟨nofun, rfl⟩
  | cons actionId rest ih =>
    have hrest : Validated rlsClaims s (actionId :: rest) → Validated rlsClaims s rest :=
      fun h other hmem => h other (List.mem_cons_of_mem _ hmem)
    rw [preValidateBatchActionTenants, missingIds]
    cases hget : s.get actionId with
    | ok action =>
      dsimp only
      by_cases htenant : action.tenantId = rlsClaims.tenantId
      · rw [if_neg (not_not.mpr htenant), List.filter_cons_of_neg (by simp [isMissing, hget])]
        rcases ih with ⟨hvalid, hok⟩ | ⟨hinvalid, herror⟩
        · refine .inl ⟨fun other hmem => ?_, hok⟩
          rcases List.mem_cons.mp hmem with rfl | hmem
          · exact .inr ⟨action, hget, htenant⟩
          · exact hvalid other hmem
        · exact .inr ⟨fun h => hinvalid (hrest h), herror⟩
      · rw [if_pos htenant]
        refine .inr ⟨fun h => ?_, _, rfl⟩
        rcases h actionId List.mem_cons_self with ⟨_, herror⟩ | ⟨_, hok, howner⟩
        · cases hget.symm.trans herror
        · cases hget.symm.trans hok
          exact htenant howner
    | error e =>
      by_cases hmissing : ∃ id, e = .compensationActionNotFound id
      · obtain ⟨id, rfl⟩ := hmissing
        dsimp only
        rw [List.filter_cons_of_pos (by simp [isMissing, hget])]
        rcases ih with ⟨hvalid, hok⟩ | ⟨hinvalid, e, herror⟩
        · refine .inl ⟨fun other hmem => ?_, by rw [hok]; rfl⟩
          rcases List.mem_cons.mp hmem with rfl | hmem
          · exact .inl ⟨id, hget⟩
          · exact hvalid other hmem
        · exact .inr ⟨fun h => hinvalid (hrest h), e, by rw [herror]; rfl⟩
      · refine .inr ⟨fun h => ?_, ?_⟩
        · rcases h actionId List.mem_cons_self with ⟨id, herror⟩ | ⟨_, hok, -⟩
          · exact hmissing ⟨id, Except.error.inj (hget.symm.trans herror)⟩
          · cases hget.symm.trans hok
        · cases e
          case compensationActionNotFound id => exact absurd ⟨id, rfl⟩ hmissing
          all_goals exact ⟨_, rfl⟩

end Validation

end IntentRebase
