import IntentRebase.Nats.Dlq

/-! The adapter that hands the messages of a stream to an event consumer, and what becomes of a
message that it has processed. -/

namespace IntentRebase

/-- The configuration of the adapter that decides what it does with a message. -/
structure NatsPullConsumerAdapter where
  dlqHelper : Bool
  tenantScope : Option Uuid

/-- The policy of the consumer that the adapter creates. -/
def NatsPullConsumerAdapter.ackPolicy : AckPolicy := .none

/-- The fourth part of a subject, if it is an identifier. -/
def extractTenantIdFromSubject (parseStr : String → Option Uuid) (subject : String) : Option Uuid :=
  match (subject.toList.splitOn '.')[3]? with
  | some part => parseStr (String.ofList part)
  | none => none

/-- What the consumer, the stream and the clock answer while a message is processed. -/
structure ProcessEnv where
  consume : PublishedEvent → ConsumeResult
  publish : PublishOutcome
  timestamp : String
  ack : AckOutcome

/-- What became of a message: whether it was consumed, the dead letter that is stored for it, and
whether the server takes it as acknowledged. -/
structure MessageFate where
  consumed : Bool
  deadLetter : Option NatsMessage
  acknowledged : Bool

namespace MessageFate

variable (message : NatsMessage) (fate : MessageFate)

/-- The dead letter of the message is stored: under the subject of its dead letters, with its
payload, and with the subject that it came from, how often it was delivered, and a reason. -/
def KeptFor : Prop :=
  ∃ letter reason, fate.deadLetter = some letter ∧
    deriveDlqSubject message.subject = .ok letter.subject ∧ letter.payload = message.payload ∧
    letter.headers.lookup HeaderMap.origSubject = some message.subject ∧
    letter.headers.lookup HeaderMap.deliveryCount = some (toString (message.delivered.getD 1)) ∧
    letter.headers.lookup HeaderMap.dlqReason = some reason

/-- The message was consumed, or it is not acknowledged, or its dead letter is stored. -/
def Accounted : Prop :=
  fate.consumed = true ∨ fate.acknowledged = false ∨ KeptFor message fate

end MessageFate

namespace NatsPullConsumerAdapter

variable (fromSlice : List UInt8 → Except String Json) (parseStr : String → Option Uuid)
  (adapter : NatsPullConsumerAdapter) (env : ProcessEnv) (message : NatsMessage)

def checkTenantScope (subject : String) : Except String Unit :=
  match adapter.tenantScope with
  | none => .ok ()
  | some expected =>
    match extractTenantIdFromSubject parseStr subject with
    | some actual =>
      if actual = expected then .ok ()
      else .error (s!"tenant scope mismatch: expected {expected.display}, got {actual.display} " ++
        s!"(subject: {subject})")
    | none => .error (s!"tenant scope mismatch: expected {expected.display}, but subject has no " ++
        s!"tenant_id (subject: {subject})")

/-- The event that is made of a message with its payload. -/
def toEvent (payload : Json) : PublishedEvent where
  subject := message.subject
  sequence := 0
  payload := payload

/-- The publication as a dead letter of a message that was not consumed, with a DLQ helper. -/
def sendToDlq (reason : String) : Option NatsMessage :=
  if adapter.dlqHelper then
    (DlqHelper.publishToDlq env.publish env.timestamp message.subject message.payload
      (message.delivered.getD 1) reason).2
  else none

/-- A message that is acknowledged without being consumed. -/
def giveUp (deadLetter : Option NatsMessage) : MessageFate where
  consumed := false
  deadLetter := deadLetter
  acknowledged := ackPolicy.acknowledged env.ack

def processOne : Except String Unit × MessageFate :=
  match adapter.checkTenantScope parseStr message.subject with
  | .error reason => (.error reason, giveUp env none)
  | .ok () =>
    match fromSlice message.payload with
    | .error e => (.error s!"invalid payload JSON: {e}", giveUp env none)
    | .ok payload =>
      match env.consume (toEvent message payload) with
      | .consumed _ _ =>
        (env.ack.answer.mapError fun e => s!"ack failed: {e}",
          { consumed := true, deadLetter := none, acknowledged := ackPolicy.acknowledged env.ack })
      | .failed reason =>
        (.error s!"consumer failed: {reason}", giveUp env (adapter.sendToDlq env message reason))
      | .retryable reason =>
        (.error s!"retryable: {reason}", giveUp env (adapter.sendToDlq env message reason))

/-- The reason of a result that is not a consumption. -/
def failureReason : ConsumeResult → Option String
  | .consumed _ _ => none
  | .failed reason => some reason
  | .retryable reason => some reason

/-- The adapter stores a dead letter for a message: it has a helper, the subject has one of its own,
and the stream stores what is published there. -/
def KeepsDeadLetter : Prop :=
  adapter.dlqHelper = true ∧ env.publish.stored = true ∧
    ∃ dlqSubject, deriveDlqSubject message.subject = .ok dlqSubject

/-- The messages that the adapter gives up without a trace in the stream: those outside its tenant
scope, those that are not JSON, and those that fail, for good or for now, and for which no dead
letter is stored. -/
inductive Dropped : Prop
  | outOfScope (reason : String) : adapter.checkTenantScope parseStr message.subject = .error reason →
      Dropped
  | notJson (e : String) : fromSlice message.payload = .error e → Dropped
  | notKept (payload : Json) (reason : String) : fromSlice message.payload = .ok payload →
      failureReason (env.consume (toEvent message payload)) = some reason →
      ¬ adapter.KeepsDeadLetter env message → Dropped

/-- A dead letter is stored exactly if the adapter keeps one, and then it is that of the message. -/
theorem sendToDlq_cases (reason : String) :
    (¬ adapter.KeepsDeadLetter env message ∧ adapter.sendToDlq env message reason = none) ∨
      adapter.KeepsDeadLetter env message ∧
        MessageFate.KeptFor message (giveUp env (adapter.sendToDlq env message reason)) := by
  rw [sendToDlq]
  cases hhelper : adapter.dlqHelper with
  | false => exact .inl ⟨fun h => Bool.false_ne_true (hhelper.symm.trans h.1), rfl⟩
  | true =>
    rw [if_pos rfl, DlqHelper.publishToDlq]
    cases hsubject : deriveDlqSubject message.subject with
    | error e =>
      refine .inl ⟨fun h => ?_, rfl⟩
      obtain ⟨_, _, dlqSubject, hok⟩ := h
      rw [hsubject] at hok
      cases hok
    | ok dlqSubject =>
      cases hstored : env.publish.stored with
      | false => exact .inl ⟨fun h => Bool.false_ne_true (hstored.symm.trans h.2.1), rfl⟩
      | true =>
        exact .inr ⟨⟨hhelper, hstored, dlqSubject, hsubject⟩, _, reason, rfl, hsubject, rfl, rfl, rfl,
          rfl⟩

/-- What becomes of a message, which the server does not deliver again: it is consumed, or it is
given up with an error, dropped or with its dead letter stored. -/
theorem processOne_cases :
    let (answer, fate) := adapter.processOne fromSlice parseStr env message
    fate.acknowledged = true ∧
      ((fate.consumed = true ∧ answer = env.ack.answer.mapError (fun e => s!"ack failed: {e}") ∧
          ¬ adapter.Dropped fromSlice parseStr env message) ∨
        ∃ text, answer = .error text ∧ fate.consumed = false ∧
          ((adapter.Dropped fromSlice parseStr env message ∧ fate.deadLetter = none) ∨
            ¬ adapter.Dropped fromSlice parseStr env message ∧
              MessageFate.KeptFor message fate)) := by
  rw [processOne]
  cases hscope : adapter.checkTenantScope parseStr message.subject with
  | error reason =>
    exact ⟨rfl, .inr ⟨_, rfl, rfl, .inl ⟨.outOfScope reason hscope, rfl⟩⟩⟩
  | ok _ =>
  cases hpayload : fromSlice message.payload with
  | error e => exact ⟨rfl, .inr ⟨_, rfl, rfl, .inl ⟨.notJson e hpayload, rfl⟩⟩⟩
  | ok payload =>
  -- What is left to drop the message is a failure that leaves no dead letter.
  have hdropped : adapter.Dropped fromSlice parseStr env message →
      ∃ reason, failureReason (env.consume (toEvent message payload)) = some reason ∧
        ¬ adapter.KeepsDeadLetter env message := by
    intro h
    cases h with
    | outOfScope reason h' => cases hscope.symm.trans h'
    | notJson e h' => cases hpayload.symm.trans h'
    | notKept payload' reason h' hreason hkeeps =>
      cases hpayload.symm.trans h'
      exact ⟨reason, hreason, hkeeps⟩
  have hfails : ∀ reason, failureReason (env.consume (toEvent message payload)) = some reason →
      (adapter.Dropped fromSlice parseStr env message ∧
          adapter.sendToDlq env message reason = none) ∨
        ¬ adapter.Dropped fromSlice parseStr env message ∧
          MessageFate.KeptFor message (giveUp env (adapter.sendToDlq env message reason)) := by
    intro reason hreason
    rcases adapter.sendToDlq_cases env message reason with ⟨hnot, hnone⟩ | ⟨hkeeps, hkept⟩
    · exact .inl ⟨.notKept payload reason hpayload hreason hnot, hnone⟩
    · refine .inr ⟨fun h => ?_, hkept⟩
      obtain ⟨_, _, hnot⟩ := hdropped h
      exact hnot hkeeps
  cases hconsume : env.consume (toEvent message payload) with
  | consumed subject sequence =>
    simp only [hconsume]
    refine ⟨rfl, .inl ⟨trivial, trivial, fun h => ?_⟩⟩
    obtain ⟨reason, hreason, _⟩ := hdropped h
    rw [hconsume] at hreason
    cases hreason
  | failed reason =>
    simp only [hconsume]
    exact ⟨rfl, .inr ⟨_, rfl, rfl, hfails reason (by rw [hconsume]; rfl)⟩⟩
  | retryable reason =>
    simp only [hconsume]
    exact ⟨rfl, .inr ⟨_, rfl, rfl, hfails reason (by rw [hconsume]; rfl)⟩⟩

end NatsPullConsumerAdapter

end IntentRebase
