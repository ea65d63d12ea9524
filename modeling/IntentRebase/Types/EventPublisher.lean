import IntentRebase.Kit.Clients
import IntentRebase.Kit.HashMap
import IntentRebase.Kit.Tickets
import IntentRebase.Types.Event

/-! The publisher that keeps its events in memory. A call takes the next number of its subject under
one lock and appends its event under another, so that other calls come between. -/

namespace IntentRebase

open Kit

/-- An event as the publisher stores it. -/
structure StoredEvent extends PublishedEvent where
  schemaVersion : String
  traceId : Option String
  spanId : Option String
  publishedAt : DateTime

/-- The arguments of a call, and the time that it reads. -/
structure PublishRequest where
  subject : String
  schemaVersion : String
  payload : Json
  traceId : Option String
  spanId : Option String
  publishedAt : DateTime

def PublishRequest.event (request : PublishRequest) (sequence : Nat) : StoredEvent where
  subject := request.subject
  schemaVersion := request.schemaVersion
  sequence := sequence
  traceId := request.traceId
  spanId := request.spanId
  payload := request.payload
  publishedAt := request.publishedAt

inductive PublishResult where
  | published (subject : String) (sequence : Nat)
  | skipped (reason : String)
deriving DecidableEq, Repr

structure InMemoryEventPublisher where
  events : HashMap String (List StoredEvent)
  sequences : HashMap String Nat
  failPublish : Bool

namespace InMemoryEventPublisher

def new : InMemoryEventPublisher := ⟨∅, ∅, false⟩

variable (p : InMemoryEventPublisher) (subject : String)

def getEventsForSubject : List StoredEvent := (p.events.lookup subject).getD []

/-- The last number given to a subject. -/
def lastSequence : Nat := (p.sequences.lookup subject).getD 0

/-- The next number of a subject, in 64 bits, and the publisher that has given it. -/
def nextSequence : Nat × InMemoryEventPublisher :=
  let seq := (p.lastSequence subject + 1) % 2 ^ 64
  (seq, { p with sequences := p.sequences.insert subject seq })

def push (event : StoredEvent) : InMemoryEventPublisher :=
  { p with
    events := p.events.insert event.subject (p.getEventsForSubject event.subject ++ [event]) }

/-- The numbers of the stored events of a subject. -/
def sequencesOf : List Nat := (p.getEventsForSubject subject).map fun e => e.sequence

end InMemoryEventPublisher

/-- A call of the publisher, or of the switch that makes its calls fail. -/
inductive PublisherRequest where
  | publish (request : PublishRequest)
  | setFailPublish (fail : Bool)

inductive PublishStage where
  | checking (request : PublishRequest)
  | numbering (request : PublishRequest)
  | appending (request : PublishRequest) (sequence : Nat)
  | setting (fail : Bool)

/-- A call reads the switch, takes a number and appends its event; the switch answers nothing. -/
def publisherCalls :
    Calls InMemoryEventPublisher PublisherRequest PublishStage (Option PublishResult) where
  first
    | .publish request => .checking request
    | .setFailPublish fail => .setting fail
  step
    | .checking request, p =>
      if p.failPublish then (.done (some (.skipped "simulated publish failure")), p)
      else (.more (.numbering request), p)
    | .numbering request, p =>
      let (sequence, p) := p.nextSequence request.subject
      (.more (.appending request sequence), p)
    | .appending request sequence, p =>
      (.done (some (.published request.subject sequence)), p.push (request.event sequence))
    | .setting fail, p => (.done none, { p with failPublish := fail })

/-- The publisher and the calls in flight. -/
abbrev Publishing := Clients InMemoryEventPublisher PublishStage

namespace Publishing

/-- A step that takes a number finds one left. -/
def Room (s : Publishing) (t : Turn PublisherRequest) : Prop :=
  ∀ client request, t = .step client → s.stage client = some (.numbering request) →
    s.store.lastSequence request.subject + 1 < 2 ^ 64

/-- A step that appends an event leaves no call of the subject behind that has a smaller number. -/
def InTurn (s : Publishing) (t : Turn PublisherRequest) : Prop :=
  ∀ client request sequence, t = .step client →
    s.stage client = some (.appending request sequence) →
    ∀ other request' sequence', s.stage other = some (.appending request' sequence') →
      request'.subject = request.subject → sequence ≤ sequence'

/-- The number that a stage holds. -/
def heldNumber : PublishStage → Option (String × Nat)
  | .appending request sequence => some (request.subject, sequence)
  | .checking _ | .numbering _ | .setting _ => none

/-- The numbers of the subjects. -/
def tickets (s : Publishing) : Tickets String where
  last := s.store.lastSequence
  used := s.store.sequencesOf
  held := fun client => (s.stage client).bind heldNumber

end Publishing

/-- An answer that reports an event of a subject. -/
def publishedTo (subject : String) : Option PublishResult → Bool
  | some (.published subject' _) => subject' = subject
  | some (.skipped _) | none => false

/-- The events of each subject are numbered from one on in the order in which they are stored, at
any moment; in the end, as many as were published to it; and the number that a call answers is the
place of its event. -/
structure PublishesInOrder (s : Publishing) (turns : List (Turn PublisherRequest)) : Prop where
  gapless : ∀ before, before <+: turns → ∀ subject,
    (s.run publisherCalls before).store.sequencesOf subject =
      List.range' 1 ((s.run publisherCalls before).store.getEventsForSubject subject).length
  finished : (∀ client, (s.run publisherCalls turns).stage client = none) → ∀ subject,
    (s.run publisherCalls turns).store.sequencesOf subject =
      List.range' 1 ((s.answers publisherCalls turns).countP fun answered =>
        publishedTo subject answered.2)
  returned : ∀ stage subject sequence,
    (stage, some (.published subject sequence)) ∈ s.answers publisherCalls turns →
      ∃ request, stage = .appending request sequence ∧ request.subject = subject ∧
        0 < sequence ∧
        ((s.run publisherCalls turns).store.getEventsForSubject subject)[sequence - 1]? =
          some (request.event sequence)

namespace InMemoryEventPublisher

variable (p : InMemoryEventPublisher) (subject : String) (event : StoredEvent)

theorem getEventsForSubject_push :
    (p.push event).getEventsForSubject subject =
      if subject = event.subject then p.getEventsForSubject event.subject ++ [event]
      else p.getEventsForSubject subject := by
  unfold push getEventsForSubject
  rw [lookup_insert_eq]
  split <;> rfl

theorem lastSequence_nextSequence (subject' : String)
    (h : p.lastSequence subject + 1 < 2 ^ 64) :
    (p.nextSequence subject).2.lastSequence subject' =
      if subject' = subject then p.lastSequence subject + 1 else p.lastSequence subject' := by
  unfold nextSequence lastSequence at *
  dsimp only
  rw [lookup_insert_eq, Nat.mod_eq_of_lt h]
  split <;> rfl

end InMemoryEventPublisher

namespace Publishing

variable {s : Publishing} {t : Turn PublisherRequest} {client : Nat}

theorem held_update (stage : Option PublishStage) :
    (fun other => (Function.update s.stage client stage other).bind heldNumber) =
      Function.update s.tickets.held client (stage.bind heldNumber) := by
  funext other
  rw [Function.update_apply, Function.update_apply]
  split <;> rfl

/-- A stage that holds what the one before it held. -/
theorem held_update_same {stage : Option PublishStage}
    (h : stage.bind heldNumber = (s.stage client).bind heldNumber) :
    (fun other => (Function.update s.stage client stage other).bind heldNumber) =
      s.tickets.held := by
  rw [held_update, h]
  exact Function.update_eq_self ..

theorem tickets_numbering {request : PublishRequest}
    (hstage : s.stage client = some (.numbering request))
    (hroom : s.store.lastSequence request.subject + 1 < 2 ^ 64) :
    tickets (s.turn publisherCalls (.step client)) = s.tickets.take client request.subject := by
  rw [Clients.turn_step hstage]
  apply Tickets.ext
  · funext subject
    rw [Tickets.take_last]
    exact InMemoryEventPublisher.lastSequence_nextSequence _ _ _ hroom
  · rfl
  · refine (held_update _).trans ?_
    simp only [Option.bind_some, heldNumber]
    rw [Nat.mod_eq_of_lt hroom]
    rfl

theorem tickets_appending {request : PublishRequest} {sequence : Nat}
    (hstage : s.stage client = some (.appending request sequence)) :
    tickets (s.turn publisherCalls (.step client)) =
      s.tickets.use client request.subject sequence := by
  rw [Clients.turn_step hstage]
  apply Tickets.ext
  · rfl
  · funext subject
    rw [Tickets.use_used]
    simp only [publisherCalls, Clients.advance, tickets, InMemoryEventPublisher.sequencesOf,
      InMemoryEventPublisher.getEventsForSubject_push]
    change List.map _ (if subject = request.subject then _ else _) = _
    split
    · rw [List.map_append]
      rfl
    · rfl
  · exact held_update none

/-- What a turn does to the numbers: nothing, or a call takes the next one or uses the one that it
holds. -/
theorem tickets_turn (hroom : s.Room t) :
    tickets (s.turn publisherCalls t) = s.tickets ∨
    (∃ client request, t = .step client ∧ s.stage client = some (.numbering request) ∧
      tickets (s.turn publisherCalls t) = s.tickets.take client request.subject) ∨
    (∃ client request sequence, t = .step client ∧
      s.stage client = some (.appending request sequence) ∧
      tickets (s.turn publisherCalls t) =
        s.tickets.use client request.subject sequence) := by
  cases t with
  | call client request =>
    left
    cases hstage : s.stage client with
    | some stage => simp only [Clients.turn, hstage]
    | none =>
      simp only [Clients.turn, hstage]
      refine Tickets.ext rfl rfl (held_update_same ?_)
      rw [hstage]
      cases request <;> rfl
  | step client =>
    cases hstage : s.stage client with
    | none =>
      left
      simp only [Clients.turn, hstage]
    | some stage =>
      cases stage with
      | checking request =>
        left
        rw [Clients.turn_step hstage]
        simp only [publisherCalls]
        split <;> exact Tickets.ext rfl rfl (held_update_same (by rw [hstage]; rfl))
      | numbering request =>
        refine .inr (.inl ⟨client, request, rfl, hstage, ?_⟩)
        exact tickets_numbering hstage (hroom client request rfl hstage)
      | appending request sequence =>
        exact .inr (.inr ⟨client, request, sequence, rfl, hstage, tickets_appending hstage⟩)
      | setting fail =>
        left
        rw [Clients.turn_step hstage]
        exact Tickets.ext rfl rfl (held_update_same (by rw [hstage]; rfl))

/-- What the state looks like from one subject's events. -/
theorem inOrder_iff : s.tickets.InOrder ↔ ∀ subject,
    s.store.sequencesOf subject = List.range' 1 (s.store.getEventsForSubject subject).length := by
  refine forall_congr' fun subject => ?_
  change s.store.sequencesOf subject = List.range' 1 (s.store.sequencesOf subject).length ↔ _
  rw [InMemoryEventPublisher.sequencesOf, List.length_map]

theorem held_eq_some {subject : String} {n : Nat} :
    s.tickets.held client = some (subject, n) ↔
      ∃ request, s.stage client = some (.appending request n) ∧ request.subject = subject := by
  change (s.stage client).bind heldNumber = _ ↔ _
  cases s.stage client with
  | none => simp
  | some stage => cases stage <;> simp [heldNumber, and_comm]

/-- An append in turn uses the least number that is held of its subject. -/
theorem inTurn_iff {request : PublishRequest} {sequence : Nat}
    (hstage : s.stage client = some (.appending request sequence)) :
    s.InTurn (.step client) ↔ s.tickets.Least request.subject sequence := by
  constructor
  · intro h other n hother
    obtain ⟨request', hother', hsubject⟩ := held_eq_some.mp hother
    exact h client request sequence rfl hstage other request' n hother' hsubject
  · rintro h _ request' sequence' ⟨⟩ hstage' other request'' n hother hsubject
    rw [hstage] at hstage'
    cases hstage'
    exact h other n (held_eq_some.mpr ⟨request'', hother, hsubject⟩)

theorem turn_whole (h : s.tickets.Whole) (hroom : s.Room t) (hturn : s.InTurn t) :
    (tickets (s.turn publisherCalls t)).Whole := by
  obtain hsame | ⟨client, request, rfl, hstage, htake⟩ |
    ⟨client, request, sequence, rfl, hstage, huse⟩ := tickets_turn hroom
  · rw [hsame]
    exact h
  · rw [htake]
    refine h.take ?_ request.subject
    change (s.stage client).bind heldNumber = none
    rw [hstage]
    rfl
  · rw [huse]
    exact h.use (held_eq_some.mpr ⟨request, hstage, rfl⟩) ((inTurn_iff hstage).mp hturn)

theorem inTurn_of_inOrder (h : s.tickets.Whole)
    (horder : (tickets (s.turn publisherCalls t)).InOrder) : s.InTurn t := by
  rintro client request sequence rfl hstage
  have hheld : s.tickets.held client = some (request.subject, sequence) :=
    held_eq_some.mpr ⟨request, hstage, rfl⟩
  rw [tickets_appending hstage, h.use_inOrder_iff hheld] at horder
  exact (inTurn_iff hstage).mpr horder client request sequence rfl hstage

/-- From a state with the numbers in order, they stay so all along exactly if every append is in
turn. -/
theorem inOrder_iff_allSteps (h : s.tickets.Whole) {turns : List (Turn PublisherRequest)}
    (hroom : AllSteps (Clients.turn publisherCalls) Room s turns) :
    (∀ before, before <+: turns → (tickets (s.run publisherCalls before)).InOrder) ↔
      AllSteps (Clients.turn publisherCalls) InTurn s turns := by
  have hkeep : ∀ (s : Publishing) t, s.tickets.Whole → s.Room t → s.InTurn t →
      (tickets (s.turn publisherCalls t)).Whole := fun _ _ => turn_whole
  have hshow : ∀ (s : Publishing) t, s.tickets.Whole → s.Room t →
      (tickets (s.turn publisherCalls t)).InOrder → s.InTurn t :=
    fun _ _ hwhole _ => inTurn_of_inOrder hwhole
  exact seen_iff_allSteps (fun _ hwhole => hwhole.inOrder) hkeep hshow h hroom

theorem idle_whole : (tickets (.idle .new)).Whole where
  inOrder := fun _ => rfl
  bounded := fun _ => Nat.le_refl _
  range := by
    rintro _ _ _ ⟨⟩
  apart := by
    rintro _ _ _ _ ⟨⟩
  holder := by
    intro _ n hlow hhigh
    exact absurd hhigh (Nat.not_le_of_lt hlow)

/-- The event of a subject that a call ending at a stage has appended. -/
def appendedTo (subject : String) : PublishStage → Option StoredEvent
  | .appending request sequence =>
    if request.subject = subject then some (request.event sequence) else none
  | .checking _ | .numbering _ | .setting _ => none

/-- A call that ends has appended an event exactly if it answers so. -/
theorem step_done {stage : PublishStage} {p p' : InMemoryEventPublisher}
    {answer : Option PublishResult} (h : publisherCalls.step stage p = (.done answer, p'))
    (subject : String) :
    publishedTo subject answer = (appendedTo subject stage).isSome ∧
    p'.getEventsForSubject subject =
      p.getEventsForSubject subject ++ (appendedTo subject stage).toList := by
  cases stage with
  | checking request =>
    simp only [publisherCalls] at h
    split at h <;> cases h
    simp [publishedTo, appendedTo]
  | numbering request => cases h
  | appending request sequence =>
    cases h
    rw [InMemoryEventPublisher.getEventsForSubject_push]
    simp only [publishedTo, appendedTo, PublishRequest.event]
    by_cases hsubject : request.subject = subject
    · simp [hsubject]
    · simp [hsubject, Ne.symm hsubject]
  | setting fail =>
    cases h
    simp [publishedTo, appendedTo, InMemoryEventPublisher.getEventsForSubject]

theorem step_more {stage stage' : PublishStage} {p p' : InMemoryEventPublisher}
    (h : publisherCalls.step stage p = (.more stage', p')) (subject : String) :
    p'.getEventsForSubject subject = p.getEventsForSubject subject := by
  cases stage with
  | checking request =>
    simp only [publisherCalls] at h
    split at h <;> cases h
    rfl
  | numbering request =>
    cases h
    rfl
  | appending request sequence => cases h
  | setting fail => cases h

theorem stored_turn (s : Publishing) (t : Turn PublisherRequest) (subject : String) :
    (s.turn publisherCalls t).store.getEventsForSubject subject =
      s.store.getEventsForSubject subject ++
        (s.answer publisherCalls t).toList.filterMap fun answered =>
          appendedTo subject answered.1 := by
  have htook := Clients.took publisherCalls s t
  generalize s.answer publisherCalls t = answered at htook
  generalize s.turn publisherCalls t = s' at htook
  cases htook with
  | idle | start => simp
  | more _ hstep => simp [step_more hstep]
  | @done _ stage _ _ _ hstep =>
    rw [(step_done hstep subject).2]
    cases h : appendedTo subject stage <;> simp [h]

/-- The events of a subject are those that the calls so far have appended, in their order. -/
theorem stored_run (s : Publishing) (turns : List (Turn PublisherRequest)) (subject : String) :
    (s.run publisherCalls turns).store.getEventsForSubject subject =
      s.store.getEventsForSubject subject ++
        (s.answers publisherCalls turns).filterMap fun answered =>
          appendedTo subject answered.1 := by
  induction turns generalizing s with
  | nil => simp [Clients.answers]
  | cons t turns ih =>
    rw [Clients.run_cons, ih, stored_turn, Clients.answers, List.filterMap_append,
      List.append_assoc]

/-- Each answer of a run is that of a step. -/
theorem answered {s : Publishing} {turns : List (Turn PublisherRequest)} {stage : PublishStage}
    {answer : Option PublishResult} (h : (stage, answer) ∈ s.answers publisherCalls turns) :
    ∃ p p', publisherCalls.step stage p = (.done answer, p') := by
  obtain ⟨before, t, after, -, hanswer⟩ := Clients.mem_answers h
  obtain ⟨client, -, -, hstep⟩ := Clients.answer_some hanswer
  exact ⟨_, _, hstep⟩

/-- A subject has as many events as were published to it. -/
theorem length_stored (s : Publishing) (turns : List (Turn PublisherRequest)) (subject : String) :
    ((s.run publisherCalls turns).store.getEventsForSubject subject).length =
      (s.store.getEventsForSubject subject).length +
        (s.answers publisherCalls turns).countP fun answered =>
          publishedTo subject answered.2 := by
  rw [stored_run, List.length_append, List.length_filterMap_eq_countP]
  congr 1
  refine List.countP_congr fun a ha => ?_
  obtain ⟨p, p', hstep⟩ := answered ha
  rw [(step_done hstep subject).1]

/-- Only an append answers that an event was published. -/
theorem step_published {stage : PublishStage} {p p' : InMemoryEventPublisher} {subject : String}
    {sequence : Nat}
    (h : publisherCalls.step stage p = (.done (some (.published subject sequence)), p')) :
    ∃ request, stage = .appending request sequence ∧ request.subject = subject := by
  cases stage with
  | checking request =>
    simp only [publisherCalls] at h
    split at h <;> cases h
  | numbering request => cases h
  | appending request sequence' =>
    cases h
    exact ⟨request, rfl, rfl⟩
  | setting fail => cases h

/-- If the numbers of a subject are in order after a run, each answer of the run for it is the place
of its call's event. -/
theorem answered_place {s : Publishing} {turns : List (Turn PublisherRequest)} {subject : String}
    (horder : (s.run publisherCalls turns).store.sequencesOf subject = List.range' 1
      ((s.run publisherCalls turns).store.getEventsForSubject subject).length)
    {stage : PublishStage} {sequence : Nat}
    (h : (stage, some (.published subject sequence)) ∈ s.answers publisherCalls turns) :
    ∃ request, stage = .appending request sequence ∧ request.subject = subject ∧ 0 < sequence ∧
      ((s.run publisherCalls turns).store.getEventsForSubject subject)[sequence - 1]? =
        some (request.event sequence) := by
  obtain ⟨p, p', hstep⟩ := answered h
  obtain ⟨request, rfl, rfl⟩ := step_published hstep
  have hstored : request.event sequence ∈
      (s.run publisherCalls turns).store.getEventsForSubject request.subject := by
    rw [stored_run]
    refine List.mem_append_right _ (List.mem_filterMap.mpr ⟨_, h, ?_⟩)
    exact if_pos rfl
  obtain ⟨i, hi⟩ := List.mem_iff_getElem?.mp hstored
  -- The number of the event at a place is the place, counted from one.
  have hnumber : some sequence = some (1 + i) := by
    have hlt := (List.getElem?_eq_some_iff.mp hi).1
    calc some sequence
        = ((s.run publisherCalls turns).store.sequencesOf request.subject)[i]? := by
          rw [InMemoryEventPublisher.sequencesOf, List.getElem?_map, hi]
          rfl
      _ = some (1 + i) := by
          rw [horder, List.getElem?_range' hlt, Nat.one_mul]
  have hplace : sequence = 1 + i := Option.some.inj hnumber
  refine ⟨request, rfl, rfl, by omega, ?_⟩
  rw [show sequence - 1 = i by omega]
  exact hi

end Publishing

/-- Let the numbers of no subject run out. Then the events are stored in the order of their numbers
exactly if no call appends its event while another holds a smaller number of the subject. -/
theorem publishesInOrder_iff {turns : List (Turn PublisherRequest)}
    (hroom : AllSteps (Clients.turn publisherCalls) Publishing.Room (.idle .new) turns) :
    PublishesInOrder (.idle .new) turns ↔
      AllSteps (Clients.turn publisherCalls) Publishing.InTurn (.idle .new) turns := by
  rw [← Publishing.inOrder_iff_allSteps Publishing.idle_whole hroom]
  constructor
  · intro h before hbefore
    exact Publishing.inOrder_iff.mpr (h.gapless before hbefore)
  · intro h
    have hgapless : ∀ before, before <+: turns → ∀ subject, _ :=
      fun before hbefore => Publishing.inOrder_iff.mp (h before hbefore)
    constructor
    · exact hgapless
    · intro _ subject
      rw [hgapless turns List.prefix_rfl subject, Publishing.length_stored]
      congr 1
      exact Nat.zero_add _
    · intro stage subject sequence hanswer
      exact Publishing.answered_place (hgapless turns List.prefix_rfl subject) hanswer

namespace Publishing

def sampleRequest (payload : Json) : PublisherRequest := .publish {
  subject := "audit", schemaVersion := "v1", payload, traceId := none, spanId := none
  publishedAt := 0 }

/-- Two calls that take the numbers one and two, and append their events in that order. -/
def sampleTurns : List (Turn PublisherRequest) :=
  [.call 0 (sampleRequest .null), .call 1 (sampleRequest (.bool true)), .step 0, .step 0, .step 1,
    .step 1, .step 0, .step 1]

theorem sampleTurns_room :
    AllSteps (Clients.turn publisherCalls) Room (.idle .new) sampleTurns := by
  refine ⟨?_, ?_, ?_, ?_, ?_, ?_, ?_, ?_, trivial⟩ <;> intro client request hturn hstage <;>
    cases hturn <;> cases hstage
  -- The steps that take a number.
  · decide
  · decide

theorem sampleTurns_inTurn :
    AllSteps (Clients.turn publisherCalls) InTurn (.idle .new) sampleTurns := by
  refine ⟨?_, ?_, ?_, ?_, ?_, ?_, ?_, ?_, trivial⟩ <;>
    intro client request sequence hturn hstage <;> cases hturn <;> cases hstage
  -- The steps that append an event.
  · rintro (_ | _ | other) request' sequence' hother _ <;> cases hother <;> decide
  · rintro (_ | _ | other) request' sequence' hother _ <;> cases hother
    decide

end Publishing

theorem publishesInOrder_iff_sample : PublishesInOrder (.idle .new) Publishing.sampleTurns :=
  (publishesInOrder_iff Publishing.sampleTurns_room).mpr Publishing.sampleTurns_inTurn

/-- Two calls take the numbers one and two, and the second appends its event first. -/
theorem not_publishesInOrder : ¬ ∀ turns, PublishesInOrder (.idle .new) turns := by
  intro h
  have hgapless := (h [.call 0 (Publishing.sampleRequest .null), .step 0, .step 0,
    .call 1 (Publishing.sampleRequest (.bool true)), .step 1, .step 1, .step 1,
    .step 0]).gapless _ List.prefix_rfl "audit"
  exact absurd hgapless (by decide)

end IntentRebase
