import IntentRebase.Api.CompensationPlanner
import IntentRebase.Api.IntentOwnership

/-! Authentication, from the token to the stored records: the middleware gives a request the claims
of its token, the extractor reads a tenant from them, and a handler that changes compensation
actions or intents acts with that tenant, or as without a token where there is none. -/

namespace IntentRebase

open Kit

/-- What the handlers use of the state of the application; `actions` has its pool. -/
structure MutationState where
  actions : CompensationConfig
  service : IntentServiceConfig

def MutationState.intents (state : MutationState) : IntentMutationState where
  rlsPool := state.actions.rlsPool
  service := state.service

structure MutationWorld where
  actions : ActionStorage
  intents : IntentWorld

/-- A request to a handler that changes compensation actions or intents, with what the call draws
and meets. -/
inductive MutatingCall where
  | action (faults : TxFaults) (request : ActionRequest)
  | planActions (run : PlanRun) (request : PlanCompensationActionsRequest)
  | batchApprove (faults : Nat → TxFaults) (clock : Nat → DateTime) (initiatedBy : Option String)
    (tenantId : Uuid) (actionIds : List Uuid)
  | batchReapprove (faults : Nat → TxFaults) (clock : Nat → DateTime) (tenantId : Uuid)
    (actionIds : List Uuid)
  | batchExecute (faults : Nat → TxFaults) (clock : Nat → DateTime) (initiatedBy : Option String)
    (tenantId : Uuid) (actionIds : List Uuid)
  | createIntent (run : CreateIntentRun) (request : CreateIntentRequest)
  | createVersion (run : CreateVersionRun) (intentId : Uuid) (headers : HttpHeaderMap)
    (request : CreateVersionRequest)

inductive MutationAnswer where
  | action (answer : Except IntentRebaseError CompensationAction)
  | plan (answer : Except IntentRebaseError PlanCompensationActionsResponse)
  | batch (answer : Except IntentRebaseError BatchOrchestrationResponse)
  | intent (answer : Except IntentRebaseError (StatusCode × CreateIntentResponse))
  | version (answer : Except IntentRebaseError (StatusCode × CreateVersionResponse))

/-- The last segment of the route of an operation. -/
def ActionOp.segment : ActionOp → String
  | .approve .. => "approve"
  | .waive .. => "waive"
  | .execute _ => "execute"
  | .reapprove _ => "reapprove"

/-- The handler of the build without tokens. -/
def ActionRequest.runWithoutJwt (config : CompensationConfig) :
    ActionRequest → ActionStorage → Answered ActionStorage
  | ⟨.approve lockVersion approvedBy, actionId, now⟩ =>
    approveCompensationActionWithoutJwt now actionId lockVersion approvedBy
  | ⟨.waive lockVersion waivedBy, actionId, now⟩ =>
    waiveCompensationActionWithoutJwt now actionId lockVersion waivedBy
  | ⟨.execute executedBy, actionId, now⟩ =>
    executeCompensationActionWithoutJwt config now actionId executedBy
  | ⟨.reapprove lockVersion, actionId, _⟩ =>
    reapproveCompensationActionWithoutJwt actionId lockVersion

/-- What a handler of actions answers and leaves. -/
def onActions {α : Type} (answer : α → MutationAnswer) (w : MutationWorld)
    (outcome : α × ActionStorage) : MutationAnswer × MutationWorld :=
  outcome.map answer fun actions => { w with actions }

/-- What a handler of intents answers and leaves. -/
def onIntents {α : Type} (answer : α → MutationAnswer) (w : MutationWorld)
    (outcome : α × IntentWorld) : MutationAnswer × MutationWorld :=
  outcome.map answer fun intents => { w with intents }

/-- `/compensation-actions/{id}/{op}` -/
def actionPath (actionId : Uuid) (op : ActionOp) : String :=
  "/compensation-actions/" ++ (actionId.display ++ ("/" ++ op.segment))

/-- `/intents/{id}/versions` -/
def versionsPath (intentId : Uuid) : String :=
  "/intents/" ++ (intentId.display ++ "/versions")

namespace MutatingCall

/-- The path of the request. -/
def path : MutatingCall → String
  | action _ request => actionPath request.actionId request.op
  | planActions .. => "/compensation-actions/plan"
  | batchApprove .. => "/compensation-actions/batch-approve"
  | batchReapprove .. => "/compensation-actions/batch-reapprove"
  | batchExecute .. => "/compensation-actions/batch-execute"
  | createIntent .. => "/intents"
  | createVersion _ intentId .. => versionsPath intentId

variable (state : MutationState)

/-- The handler with the claims that the extractor gives it. -/
def run (claims : Option RlsTenantClaims) (w : MutationWorld) :
    MutatingCall → MutationAnswer × MutationWorld
  | action faults request =>
    onActions .action w ((ActionCall.handler claims faults request).apply state.actions w.actions)
  | planActions run request =>
    onActions .plan w
      (CompensationPlannerHandlers.planCompensationActions run request claims w.actions)
  | batchApprove faults clock initiatedBy tenantId actionIds =>
    onActions .batch w (batchApproveCompensationActions state.actions faults clock initiatedBy
      claims tenantId actionIds w.actions)
  | batchReapprove faults clock tenantId actionIds =>
    onActions .batch w (batchReapproveCompensationActions state.actions faults clock claims tenantId
      actionIds w.actions)
  | batchExecute faults clock initiatedBy tenantId actionIds =>
    onActions .batch w (batchExecuteCompensationActions state.actions faults clock initiatedBy
      claims tenantId actionIds w.actions)
  | createIntent run request =>
    onIntents .intent w (IntentRebase.createIntent state.intents run request claims w.intents)
  | createVersion run intentId headers request =>
    onIntents .version w
      (IntentRebase.createVersion state.intents run intentId headers request claims w.intents)

/-- The handler of the build without tokens. -/
def runWithoutJwt (w : MutationWorld) : MutatingCall → MutationAnswer × MutationWorld
  | action _ request => onActions .action w (request.runWithoutJwt state.actions w.actions)
  | planActions run request =>
    onActions .plan w
      (CompensationPlannerHandlers.planCompensationActionsWithoutJwt run request w.actions)
  | batchApprove _ clock initiatedBy tenantId actionIds =>
    onActions .batch w
      (batchApproveCompensationActionsWithoutJwt clock initiatedBy tenantId actionIds w.actions)
  | batchReapprove _ clock tenantId actionIds =>
    onActions .batch w
      (batchReapproveCompensationActionsWithoutJwt clock tenantId actionIds w.actions)
  | batchExecute _ clock initiatedBy tenantId actionIds =>
    onActions .batch w (batchExecuteCompensationActionsWithoutJwt state.actions clock initiatedBy
      tenantId actionIds w.actions)
  | createIntent run request =>
    onIntents .intent w (createIntentWithoutJwt state.intents run request w.intents)
  | createVersion run intentId headers request =>
    onIntents .version w
      (createVersionWithoutJwt state.intents run intentId headers request w.intents)

/-- The handler compares the tenant of the claims: always, but where a creation of an intent or a
version finds no pool. -/
def ChecksTenant : MutatingCall → Prop
  | createIntent .. | createVersion .. => state.actions.rlsPool = true
  | _ => True

/-- The identifiers that a plan draws are new. -/
def DrawsUnused (w : MutationWorld) : MutatingCall → Prop
  | planActions run _ => ∀ sideEffect, w.actions.Unused (run.fresh sideEffect)
  | _ => True

end MutatingCall

/-- A request: through the middleware and the extractor to the handler. -/
def serve (decode : String → String → Except String Claims) (config : AuthConfig)
    (parseStr : String → Except String Uuid) (state : MutationState)
    (authorization : Option String) (call : MutatingCall) (w : MutationWorld) :
    Except String MutationAnswer × MutationWorld :=
  match jwtAuthAsync decode config call.path authorization with
  | .error message => (.error message, w)
  | .ok extension => (call.run state (RlsTenantClaims.optional parseStr extension) w).map .ok id

/-- Nothing but the tenant's records differs. -/
structure MutationWorld.ChangesOnlyOf (tenantId : Uuid) (w w' : MutationWorld) : Prop where
  actions : w.actions.ChangesOnlyOf tenantId w'.actions
  intents : w.intents.ChangesOnlyOf tenantId w'.intents

section Extractor

variable {parseStr : String → Except String Uuid} {claims : Claims}

/-- The tenant of the claims is the identifier that their text is read as. -/
theorem RlsTenantClaims.new_of_parse {tenantId : Uuid}
    (hparse : parseStr claims.tenantId = .ok tenantId) (htenant : tenantId ≠ .nil) :
    ∃ rlsClaims, RlsTenantClaims.new parseStr claims = .ok rlsClaims ∧
      rlsClaims.tenantId = tenantId := by
  have hvalid := validateTenantIdForRls_eq htenant
  rw [RlsTenantClaims.new, hparse]
  dsimp only
  split
  · next herror => cases hvalid.symm.trans herror
  · exact ⟨_, rfl, rfl⟩

/-- A text that is not an identifier, or the nil one, gives no claims. -/
theorem RlsTenantClaims.optional_none
    (h : ∀ tenantId, parseStr claims.tenantId = .ok tenantId → tenantId = .nil) :
    RlsTenantClaims.optional parseStr (some claims) = none := by
  rw [RlsTenantClaims.optional, RlsTenantClaims.new]
  cases hparse : parseStr claims.tenantId with
  | error e => rfl
  | ok tenantId =>
    obtain rfl := h tenantId hparse
    rfl

end Extractor

section Calls

variable (state : MutationState) (w : MutationWorld) (call : MutatingCall)

theorem actionPath_eq (actionId : Uuid) (op : ActionOp) :
    actionPath actionId op =
      "/compensation-actions/" ++ (actionId.display ++ ("/" ++ op.segment)) := by
  delta actionPath
  with_reducible rfl

theorem versionsPath_eq (intentId : Uuid) :
    versionsPath intentId = "/intents/" ++ (intentId.display ++ "/versions") := by
  delta versionsPath
  with_reducible rfl

/-- The path is none of the public ones. -/
theorem MutatingCall.path_protected : publicPaths.contains call.path = false := by
  have hstart : ∃ first rest, call.path = first ++ rest ∧
      first ∈ ["/compensation-actions/", "/intents", "/intents/"] := by
    cases call with
    | action _ request =>
      exact ⟨"/compensation-actions/", _, actionPath_eq request.actionId request.op, by decide⟩
    | planActions => exact ⟨"/compensation-actions/", "plan", rfl, by decide⟩
    | batchApprove => exact ⟨"/compensation-actions/", "batch-approve", rfl, by decide⟩
    | batchReapprove => exact ⟨"/compensation-actions/", "batch-reapprove", rfl, by decide⟩
    | batchExecute => exact ⟨"/compensation-actions/", "batch-execute", rfl, by decide⟩
    | createIntent => exact ⟨"/intents", "", rfl, by decide⟩
    | createVersion _ intentId => exact ⟨"/intents/", _, versionsPath_eq intentId, by decide⟩
  obtain ⟨first, rest, hpath, hfirst⟩ := hstart
  have hopens : ∀ first ∈ ["/compensation-actions/", "/intents", "/intents/"],
      ∀ other ∈ publicPaths, first.toList.take 2 ≠ other.toList.take 2 ∧
        2 ≤ first.toList.length := by
    decide
  rw [← Bool.not_eq_true, List.contains_iff_mem, hpath]
  intro hmem
  obtain ⟨hdiffers, hlength⟩ := hopens first hfirst _ hmem
  rw [String.toList_append, List.take_append_of_le_length hlength] at hdiffers
  exact hdiffers rfl

/-- Without claims, a handler is that of the build without tokens. -/
theorem MutatingCall.run_none : call.run state none w = call.runWithoutJwt state w := by
  cases call with
  | action faults request =>
    have hservice : (ActionCall.service request).apply state.actions w.actions =
        request.runWithoutJwt state.actions w.actions := by
      obtain ⟨op, actionId, now⟩ := request
      cases op <;> rfl
    rw [run, runWithoutJwt, ← hservice, handler_apply_eq, onAction]
    cases hget : w.actions.get request.actionId with
    | error e => rw [service_apply_eq, hget]
    | ok action => rfl
  | createIntent run request =>
    rw [MutatingCall.run, runWithoutJwt, IntentRebase.createIntent.eq_def, createIntentWithoutJwt]
    cases state.intents.rlsPool <;> rfl
  | createVersion run intentId headers request =>
    rw [MutatingCall.run, runWithoutJwt, IntentRebase.createVersion.eq_def,
      createVersionWithoutJwt]
    cases state.intents.rlsPool <;> rfl
  | _ => rfl

/-- With claims, a handler that compares their tenant changes records of it only. -/
theorem MutatingCall.run_changesOnly (rlsClaims : RlsTenantClaims)
    (hchecks : call.ChecksTenant state) (hdraws : call.DrawsUnused w) :
    w.ChangesOnlyOf rlsClaims.tenantId (call.run state (some rlsClaims) w).2 := by
  have hactions {actions : ActionStorage} (h : w.actions.ChangesOnlyOf rlsClaims.tenantId actions) :
      w.ChangesOnlyOf rlsClaims.tenantId { w with actions } := ⟨h, .refl _ _⟩
  have hintents {intents : IntentWorld} (h : w.intents.ChangesOnlyOf rlsClaims.tenantId intents) :
      w.ChangesOnlyOf rlsClaims.tenantId { w with intents } := ⟨.refl _ _, h⟩
  cases call with
  | action faults request => exact hactions (handler_changesOnly state.actions rlsClaims faults ..)
  | planActions run request =>
    exact hactions (planCompensationActions_changesOnly request rlsClaims hdraws)
  | batchApprove faults clock initiatedBy tenantId actionIds =>
    exact hactions (batchApprove_changesOnly state.actions faults clock initiatedBy rlsClaims
      tenantId actionIds w.actions)
  | batchReapprove faults clock tenantId actionIds =>
    exact hactions (batchReapprove_changesOnly state.actions faults clock rlsClaims tenantId
      actionIds w.actions)
  | batchExecute faults clock initiatedBy tenantId actionIds =>
    exact hactions (batchExecute_changesOnly state.actions faults clock initiatedBy rlsClaims
      tenantId actionIds w.actions)
  | createIntent run request =>
    exact hintents (createIntent_changesOnly state.intents _ _ hchecks ..)
  | createVersion run intentId headers request =>
    exact hintents (createVersion_changesOnly state.intents _ _ hchecks ..)

end Calls

/-- A request changes nothing unless its token verifies. If the tenant of the token is an identifier
other than the nil one, the handlers that compare it change records of that tenant only; if not,
each handler acts as that of the build without tokens. -/
theorem mutations_authenticated (decode : String → String → Except String Claims)
    (config : AuthConfig) (parseStr : String → Except String Uuid) (state : MutationState)
    (authorization : Option String) (call : MutatingCall) (w : MutationWorld) :
    match jwtAuthAsync decode config call.path authorization with
    | .error message =>
      serve decode config parseStr state authorization call w = (.error message, w)
    | .ok none => False
    | .ok (some claims) =>
      (∀ tenantId, parseStr claims.tenantId = .ok tenantId → tenantId ≠ .nil →
        call.ChecksTenant state → call.DrawsUnused w →
        w.ChangesOnlyOf tenantId
          (serve decode config parseStr state authorization call w).2) ∧
      ((∀ tenantId, parseStr claims.tenantId = .ok tenantId → tenantId = .nil) →
        serve decode config parseStr state authorization call w =
          (call.runWithoutJwt state w).map .ok id) := by
  cases hauth : jwtAuthAsync decode config call.path authorization with
  | error message =>
    dsimp only
    rw [serve, hauth]
  | ok extension =>
    cases extension with
    | none =>
      dsimp only
      rw [jwtAuthAsync.eq_def, call.path_protected, if_neg Bool.false_ne_true] at hauth
      split at hauth
      · split at hauth
        · split at hauth <;> cases hauth
        · cases hauth
      · cases hauth
    | some claims =>
      refine ⟨fun tenantId hparse htenant hchecks hdraws => ?_, fun hinvalid => ?_⟩
      · obtain ⟨rlsClaims, hnew, rfl⟩ := RlsTenantClaims.new_of_parse hparse htenant
        rw [serve, hauth]
        dsimp only
        rw [RlsTenantClaims.optional, hnew]
        exact call.run_changesOnly state w rlsClaims hchecks hdraws
      · rw [serve, hauth]
        dsimp only
        rw [RlsTenantClaims.optional_none hinvalid, call.run_none]

section Sample

def sampleAuth : AuthConfig := ⟨"secret", none⟩

/-- A token of tenant 5. -/
def tenantToken : Claims := ⟨"user", "00000000-0000-0000-0000-000000000005", [], 0, 0⟩

/-- A token whose tenant is empty. -/
def emptyToken : Claims := { tenantToken with tenantId := "" }

/-- Reads the text that `tenantToken` has, and refuses any other. -/
def parseSample (text : String) : Except String Uuid :=
  if text = tenantToken.tenantId then .ok 5 else .error "invalid length"

def approveSample : MutatingCall := .action .quiet ⟨.approve 0 (some "user"), tenantAction.id, 10⟩

def mutationState : MutationState where
  actions := ⟨false, false, none⟩
  service := ⟨fun _ => "", false, false, none⟩

/-- A pending action of tenant 5, and no intents. -/
def mutationWorld : MutationWorld where
  actions := .sqlx (tableOf tenantAction)
  intents := ⟨.inMemory .new, .inMemory .new⟩

theorem jwtAuthAsync_bearer (claims : Claims) (call : MutatingCall) :
    jwtAuthAsync (fun _ _ => .ok claims) sampleAuth call.path (some "Bearer token") =
      .ok (some claims) := by
  rw [jwtAuthAsync.eq_def, call.path_protected, if_neg Bool.false_ne_true]
  rfl

/-- The token of tenant 5 changes nothing of another tenant; the one without a tenant is answered as
no token is. -/
theorem mutations_authenticated_sample :
    mutationWorld.ChangesOnlyOf 5
        (serve (fun _ _ => .ok tenantToken) sampleAuth parseSample mutationState
          (some "Bearer token") approveSample mutationWorld).2 ∧
      serve (fun _ _ => .ok emptyToken) sampleAuth parseSample mutationState (some "Bearer token")
          approveSample mutationWorld =
        (approveSample.runWithoutJwt mutationState mutationWorld).map .ok id := by
  have htenant := mutations_authenticated (fun _ _ => .ok tenantToken) sampleAuth parseSample
    mutationState (some "Bearer token") approveSample mutationWorld
  have hempty := mutations_authenticated (fun _ _ => .ok emptyToken) sampleAuth parseSample
    mutationState (some "Bearer token") approveSample mutationWorld
  rw [jwtAuthAsync_bearer] at htenant hempty
  exact ⟨htenant.1 5 rfl (by decide) trivial trivial, hempty.2 (by rintro _ ⟨⟩)⟩

/-- A verified token without a tenant approves an action of tenant 5. -/
theorem empty_tenant_approves :
    ¬ ∀ (decode : String → String → Except String Claims) (config : AuthConfig)
      (parseStr : String → Except String Uuid) (state : MutationState)
      (authorization : Option String) (call : MutatingCall) (w : MutationWorld) (claims : Claims),
      jwtAuthAsync decode config call.path authorization = .ok (some claims) →
      ∀ actionId action, w.actions.get actionId = .ok action →
        (serve decode config parseStr state authorization call w).2.actions.get actionId ≠
          .ok action →
        parseStr claims.tenantId = .ok action.tenantId := by
  intro h
  have hauth := jwtAuthAsync_bearer emptyToken approveSample
  have hget : mutationWorld.actions.get tenantAction.id = .ok tenantAction :=
    get_tableOf tenantAction
  have hstatus : ((approveSample.runWithoutJwt mutationState mutationWorld).2.actions.get
      tenantAction.id).map (·.status) = .ok .approved := rfl
  have hserve : serve (fun _ _ => .ok emptyToken) sampleAuth parseSample mutationState
      (some "Bearer token") approveSample mutationWorld =
        (approveSample.runWithoutJwt mutationState mutationWorld).map .ok id := by
    rw [serve, hauth]
    dsimp only
    rw [RlsTenantClaims.optional_none (by rintro _ ⟨⟩), approveSample.run_none]
  have hparse := h _ sampleAuth parseSample mutationState _ approveSample mutationWorld _ hauth
    tenantAction.id tenantAction hget (by
      rw [hserve]
      intro hkept
      have hkept' : (approveSample.runWithoutJwt mutationState mutationWorld).2.actions.get
        tenantAction.id = .ok tenantAction := hkept
      rw [hkept'] at hstatus
      cases hstatus)
  cases hparse

end Sample

end IntentRebase
