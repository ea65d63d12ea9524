import Mathlib.Data.List.Forall2
import IntentRebase.Nats.Consumer

/-! The worker that replays dead letters, and what it leaves of each. -/

namespace IntentRebase

structure DlqReplayWorkerConfig where
  dlqSubject : String
  maxReplay : Nat

namespace DlqReplayWorkerConfig

/-- How often the durable consumer of the worker is given a message. -/
def maxDeliver : Nat := 1

def ackPolicy : AckPolicy := .explicit

end DlqReplayWorkerConfig

/-- A dead letter in the stream, as the durable consumer of the worker knows it. -/
structure DlqEntry where
  message : NatsMessage
  deliveries : Nat
  acknowledged : Bool
deriving DecidableEq

/-- A message is delivered, again too, until it is acknowledged or has been delivered as often as the
consumer is given it. -/
def DlqEntry.deliverable (entry : DlqEntry) : Bool :=
  !entry.acknowledged && entry.deliveries < DlqReplayWorkerConfig.maxDeliver

/-- What the stream answers while a dead letter is replayed. -/
structure ReplayEnv where
  publish : PublishOutcome
  ack : AckOutcome

/-- What a poll leaves: how many dead letters it replayed, the entries, and the messages that the
stream stores for them. -/
structure ReplayPoll where
  replayed : Nat
  entries : List DlqEntry
  stored : List NatsMessage

namespace DlqReplayWorker

variable (config : DlqReplayWorkerConfig) (reads : Nat → Option ReplayEnv)

/-- The entry after its delivery, and whether the replay succeeded. -/
def deliver (env : ReplayEnv) (entry : DlqEntry) : Bool × DlqEntry :=
  let entry := { entry with deliveries := entry.deliveries + 1 }
  match (DlqHelper.replayFromDlq env.publish entry.message).1 with
  | .ok () => (true, { entry with
      acknowledged := DlqReplayWorkerConfig.ackPolicy.acknowledged env.ack })
  | .error _ => (false, entry)

/-- The loop over the messages that the consumer is given. A read ends the poll if it fails, finds
the stream at its end, or times out. -/
def replayEntries : Nat → List DlqEntry → ReplayPoll
  | replayed, [] => ⟨replayed, [], []⟩
  | replayed, entry :: rest =>
    if replayed < config.maxReplay then
      if entry.deliverable then
        match reads replayed with
        | none => ⟨replayed, entry :: rest, []⟩
        | some env =>
          let stored := (DlqHelper.replayFromDlq env.publish entry.message).2.toList
          match deliver env entry with
          | (true, entry') =>
            let poll := replayEntries (replayed + 1) rest
            { poll with entries := entry' :: poll.entries, stored := stored ++ poll.stored }
          -- The entry is not acknowledged, and the poll ends.
          | (false, entry') => ⟨replayed, entry' :: rest, stored⟩
      else
        let poll := replayEntries replayed rest
        { poll with entries := entry :: poll.entries }
    else ⟨replayed, entry :: rest, []⟩

def replayDlqSubject (entries : List DlqEntry) : ReplayPoll := replayEntries config reads 0 entries

/-- The replay of an entry meets no error: the entry names the subject that it came from, and the
publication there is answered. -/
def Replays (env : ReplayEnv) (entry : DlqEntry) : Prop :=
  (entry.message.headers.lookup HeaderMap.origSubject).isSome = true ∧ env.publish.answer = .ok ()

/-- What a poll does with an entry: it leaves it, or it delivers it, and then it acknowledges it only
if it has replayed it. -/
inductive Polled : DlqEntry → DlqEntry → Prop
  | left (entry : DlqEntry) : Polled entry entry
  | replayed {n : Nat} {env : ReplayEnv} {entry : DlqEntry} : reads n = some env →
      entry.deliverable = true → Replays env entry →
      Polled entry { entry with
        deliveries := entry.deliveries + 1
        acknowledged := env.ack.takesEffect }
  | failed {n : Nat} {env : ReplayEnv} {entry : DlqEntry} : reads n = some env →
      entry.deliverable = true → ¬ Replays env entry →
      Polled entry { entry with deliveries := entry.deliveries + 1 }

variable {reads}

theorem polled_deliver {n : Nat} {env : ReplayEnv} {entry : DlqEntry} (hread : reads n = some env)
    (hdeliverable : entry.deliverable = true) : Polled reads entry (deliver env entry).2 := by
  rw [deliver, DlqHelper.replayFromDlq]
  cases hsubject : entry.message.headers.lookup HeaderMap.origSubject with
  | none =>
    refine .failed hread hdeliverable fun h => ?_
    rw [Replays, hsubject] at h
    cases h.1
  | some originalSubject =>
    cases hanswer : env.publish.answer with
    | error e =>
      refine .failed hread hdeliverable fun h => ?_
      cases hanswer.symm.trans h.2
    | ok _ => exact .replayed hread hdeliverable ⟨by rw [hsubject]; rfl, hanswer⟩

variable (reads)

/-- A poll leaves or delivers each entry. -/
theorem replayEntries_polled (replayed : Nat) (entries : List DlqEntry) :
    List.Forall₂ (Polled reads) entries (replayEntries config reads replayed entries).entries := by
  induction entries generalizing replayed with
  | nil => exact .nil
  | cons entry rest ih =>
    have hleft (entries : List DlqEntry) : List.Forall₂ (Polled reads) entries entries :=
      List.forall₂_same.mpr fun e _ => .left e
    rw [replayEntries]
    split
    · split
      · next hdeliverable =>
        cases hread : reads replayed with
        | none => exact hleft (entry :: rest)
        | some env =>
          have hdelivered := polled_deliver hread hdeliverable
          cases hdeliver : deliver env entry with
          | mk succeeded entry' =>
            rw [hdeliver] at hdelivered
            simp only [hdeliver]
            cases succeeded with
            | true => exact .cons hdelivered (ih (replayed + 1))
            | false => exact .cons hdelivered (hleft rest)
      · exact .cons (.left entry) (ih replayed)
    · exact hleft (entry :: rest)

/-- A message that is processed, which the server does not deliver again, was consumed, or its dead
letter is stored, or it is dropped with an error; and a poll of the worker acknowledges only dead
letters whose replay was answered without an error. -/
theorem failed_events_accounted (fromSlice : List UInt8 → Except String Json)
    (parseStr : String → Option Uuid) (adapter : NatsPullConsumerAdapter) (env : ProcessEnv)
    (message : NatsMessage) (config : DlqReplayWorkerConfig) (reads : Nat → Option ReplayEnv)
    (entries : List DlqEntry) :
    let (answer, fate) := adapter.processOne fromSlice parseStr env message
    (fate.acknowledged = true ∧
      (fate.consumed = true ∨ MessageFate.KeptFor message fate ∨
        adapter.Dropped fromSlice parseStr env message ∧ ∃ text, answer = .error text)) ∧
    List.Forall₂ (Polled reads) entries (replayDlqSubject config reads entries).entries := by
  refine ⟨?_, replayEntries_polled config reads 0 entries⟩
  rcases adapter.processOne_cases fromSlice parseStr env message with
    ⟨hack, ⟨hconsumed, _, _⟩ | ⟨text, hanswer, _, ⟨hdropped, _⟩ | ⟨_, hkept⟩⟩⟩
  · exact ⟨hack, .inl hconsumed⟩
  · exact ⟨hack, .inr (.inr ⟨hdropped, text, hanswer⟩)⟩
  · exact ⟨hack, .inr (.inl hkept)⟩

/-- A message whose consumer fails is acknowledged without a dead letter; and a dead letter whose
replay failed is not delivered again. -/
theorem failed_event_lost :
    ¬ (∀ (fromSlice : List UInt8 → Except String Json) (parseStr : String → Option Uuid)
        (adapter : NatsPullConsumerAdapter) (env : ProcessEnv) (message : NatsMessage),
      MessageFate.Accounted message (adapter.processOne fromSlice parseStr env message).2) ∧
    ¬ (∀ (config : DlqReplayWorkerConfig) (env : ReplayEnv) (entry : DlqEntry),
      entry.deliverable = true → ¬ Replays env entry → 0 < config.maxReplay →
      ∀ entry' ∈ (replayDlqSubject config (fun _ => some env) [entry]).entries,
        entry'.deliverable = true) := by
  let message : NatsMessage := ⟨"audit.events.v1.intent", [], [], some 1⟩
  let done : AckOutcome := ⟨.ok (), true⟩
  constructor
  · intro h
    have hlost := h (fun _ => .ok .emptyObject) (fun _ => none) ⟨false, none⟩
      ⟨fun _ => .failed "missing intent_id in event payload", ⟨.ok (), true⟩, "", done⟩ message
    rcases hlost with hlost | hlost | ⟨letter, _, hlost, _⟩ <;> cases hlost
  · intro h
    let entry : DlqEntry := ⟨message, 0, false⟩
    have hagain := h ⟨"audit.events.v1.DLQ", 10⟩ ⟨⟨.error "no responders", false⟩, done⟩ entry rfl
      (fun hreplays => by cases hreplays.2) (by decide) { entry with deliveries := 1 } (.head _)
    cases hagain

end DlqReplayWorker

end IntentRebase
