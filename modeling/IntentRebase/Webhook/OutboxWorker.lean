import IntentRebase.Kit.Clients
import IntentRebase.Webhook.DeliveryLife

/-! The outbox worker: `process_once` as a sequence of atomic steps, beside the operators that
replay failed records and the calls that create new ones. What the surroundings decide at a step
(the time, the outcome of a dispatch, a failure or a crash) is given with the call. -/

namespace IntentRebase

open Kit

inductive WebhookDispatchFailure where
  | retryable (reason : String)
  | terminal (reason : String)

/-- What the surroundings decide at one step of a call. -/
structure StepEnv (ι : Type) where
  now : DateTime
  /-- The caller stops before the step. -/
  crashes : Bool
  /-- The repository call of the step fails without effect. -/
  fails : Bool
  /-- The order in which the repository reads. -/
  choice : ι
  dispatch : WebhookOutboxRecord → Except WebhookDispatchFailure Unit
  /-- The backoff before an attempt, which is random. -/
  computeBackoffDelay : Nat → Int

/-- A new record: pending, and not attempted. -/
structure NewOutboxRecord where
  record : WebhookOutboxRecord
  pending : record.status = .pending
  unattempted : record.attemptCount = 0

/-- A call of `process_once`, with the surroundings of its steps in order. -/
structure ProcessOnce (ι : Type) where
  enabled : Bool
  tenantId : Uuid
  batchSize : Int64
  env : Nat → StepEnv ι

inductive OutboxRequest (ι : Type) where
  | create (env : StepEnv ι) (new : NewOutboxRecord)
  | replayFailed (env : StepEnv ι) (id tenantId : Uuid) (replayedBy : Option String)
  | processOnce (call : ProcessOnce ι)

/-- How far a call has come. -/
inductive OutboxStage (ι : Type) where
  | create (env : StepEnv ι) (new : NewOutboxRecord)
  | replayFailed (env : StepEnv ι) (id tenantId : Uuid) (replayedBy : Option String)
  | listPending (call : ProcessOnce ι)
  | claim (call : ProcessOnce ι) (records : List WebhookOutboxRecord) (processed : Nat)
  | dispatch (call : ProcessOnce ι) (claimed : WebhookOutboxRecord)
      (rest : List WebhookOutboxRecord) (processed : Nat)
  | mark (call : ProcessOnce ι) (claimed : WebhookOutboxRecord)
      (result : Except WebhookDispatchFailure Unit) (rest : List WebhookOutboxRecord)
      (processed : Nat)

inductive OutboxOutcome where
  | record (result : Except IntentRebaseError WebhookOutboxRecord)
  | processed (result : Except IntentRebaseError Nat)
  | crashed

/-- The repository, and what has happened to its records. -/
structure OutboxWorld (σ : Type) where
  repo : σ
  log : List OutboxEvent

def OutboxRequest.first {ι : Type} : OutboxRequest ι → OutboxStage ι
  | .create env new => .create env new
  | .replayFailed env id tenantId replayedBy => .replayFailed env id tenantId replayedBy
  | .processOnce call => .listPending call

/-- The call with the surroundings of its later steps. -/
def ProcessOnce.later {ι : Type} (call : ProcessOnce ι) : ProcessOnce ι :=
  { call with env := fun n => call.env (n + 1) }

namespace OutboxStage

variable {σ ι : Type}

/-- A repository call, or its failure without effect. -/
def attempt (env : StepEnv ι) (s : σ) (answer : OutboxAnswer σ) : OutboxAnswer σ :=
  if env.fails then (.error (.storageError "unavailable"), s) else answer

/-- The write that follows a dispatch. -/
def followUp (repo : WebhookOutboxRepository σ) (s : σ) (env : StepEnv ι) (tenantId : Uuid)
    (claimed : WebhookOutboxRecord) : Except WebhookDispatchFailure Unit → OutboxAnswer σ
  | .ok () => repo.markDelivered s env.now claimed.id tenantId
  | .error (.retryable reason) =>
    if claimed.exhausted then
      repo.markFailed s env.now claimed.id tenantId reason
    else
      let delay := env.computeBackoffDelay (max (claimed.attemptCount + 1).toInt 0).toNat
      repo.rescheduleRetry s env.now claimed.id tenantId reason (env.now + delay)
  | .error (.terminal reason) => repo.markFailed s env.now claimed.id tenantId reason

/-- The processed count after a follow-up write that succeeded. -/
def counted (processed : Nat) : Except WebhookDispatchFailure Unit → Nat
  | .ok () => processed + 1
  | .error _ => processed

/-- The step of a stage. A worker that stops, or whose follow-up write fails, abandons the record
that it has claimed. -/
def step (repo : ι → WebhookOutboxRepository σ) (stage : OutboxStage ι) (w : OutboxWorld σ) :
    Progress (OutboxStage ι) OutboxOutcome × OutboxWorld σ :=
  match stage with
  | .create env new =>
    let (answer, s) := attempt env w.repo ((repo env.choice).create w.repo new.record)
    (.done (.record answer), { w with repo := s })
  | .replayFailed env id tenantId replayedBy =>
    match attempt env w.repo
      ((repo env.choice).replayFailed w.repo env.now id tenantId replayedBy) with
    | (.ok record, s) =>
      (.done (.record (.ok record)), { repo := s, log := w.log ++ [.replayed id] })
    | (.error e, s) => (.done (.record (.error e)), { w with repo := s })
  | .listPending call =>
    let env := call.env 0
    if !call.enabled then (.done (.processed (.ok 0)), w)
    else if env.crashes then (.done .crashed, w)
    else if env.fails then (.done (.processed (.error (.storageError "unavailable"))), w)
    else
      match (repo env.choice).listPending w.repo call.tenantId call.batchSize with
      | .error e => (.done (.processed (.error e)), w)
      | .ok pending => (.more (.claim call.later pending 0), w)
  | .claim _ [] processed => (.done (.processed (.ok processed)), w)
  | .claim call (record :: rest) processed =>
    let env := call.env 0
    if env.crashes then (.done .crashed, w)
    else
      match attempt env w.repo
        ((repo env.choice).claim w.repo env.now record.id call.tenantId "local-worker") with
      | (.ok claimed, s) =>
        (.more (.dispatch call.later claimed rest processed), { w with repo := s })
      | (.error _, s) => (.more (.claim call.later rest processed), { w with repo := s })
  | .dispatch call claimed rest processed =>
    let env := call.env 0
    if env.crashes then (.done .crashed, { w with log := w.log ++ [.abandoned claimed.id] })
    else
      (.more (.mark call.later claimed (env.dispatch claimed) rest processed),
        { w with log := w.log ++ [.dispatched claimed] })
  | .mark call claimed result rest processed =>
    let env := call.env 0
    if env.crashes then (.done .crashed, { w with log := w.log ++ [.abandoned claimed.id] })
    else
      match attempt env w.repo
        (followUp (repo env.choice) w.repo env call.tenantId claimed result) with
      | (.ok _, s) =>
        (.more (.claim call.later rest (counted processed result)), { w with repo := s })
      | (.error _, s) =>
        (.more (.claim call.later rest processed),
          { repo := s, log := w.log ++ [.abandoned claimed.id] })

end OutboxStage

/-- The calls on an outbox. -/
def outboxCalls {σ ι : Type} (repo : ι → WebhookOutboxRepository σ) :
    Calls (OutboxWorld σ) (OutboxRequest ι) (OutboxStage ι) OutboxOutcome where
  first := OutboxRequest.first
  step := OutboxStage.step repo

end IntentRebase
