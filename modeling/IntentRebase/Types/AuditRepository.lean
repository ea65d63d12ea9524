import Mathlib.Algebra.Group.Int.Defs
import Mathlib.Data.List.Count
import IntentRebase.Kit.LatestFirst
import IntentRebase.Kit.SecondaryIndex
import IntentRebase.Types.Audit
import IntentRebase.Types.Column

/-! The repositories of audit events, in memory and in PostgreSQL: when the one in memory keeps
every event it accepts, and answers as the other does. -/

namespace IntentRebase

open Kit

def auditEventTypeToString : AuditEventType → String
  | .intentCreated => "IntentCreated"
  | .intentUpdated => "IntentUpdated"
  | .intentArchived => "IntentArchived"
  | .rebaseDetected => "RebaseDetected"
  | .rebasePreviewGenerated => "RebasePreviewGenerated"
  | .rebaseApplied => "RebaseApplied"
  | .rebaseApplyBlocked => "RebaseApplyBlocked"
  | .approvalRequired => "ApprovalRequired"
  | .approvalRequested => "ApprovalRequested"
  | .approvalGranted => "ApprovalGranted"
  | .approvalRevoked => "ApprovalRevoked"
  | .approvalCancelled => "ApprovalCancelled"
  | .approvalExpired => "ApprovalExpired"
  | .replayInitiated => "ReplayInitiated"
  | .artifactProduced => "ArtifactProduced"
  | .artifactInvalidated => "ArtifactInvalidated"
  | .compensationPlanned => "CompensationPlanned"
  | .compensationStarted => "CompensationStarted"
  | .compensationCompleted => "CompensationCompleted"
  | .compensationFailed => "CompensationFailed"
  | .forensicBundleRequested => "ForensicBundleRequested"
  | .forensicBundleGenerated => "ForensicBundleGenerated"

/-- An unknown text is read as the most common type. -/
def auditEventTypeFromString : String → AuditEventType
  | "IntentCreated" => .intentCreated
  | "IntentUpdated" => .intentUpdated
  | "IntentArchived" => .intentArchived
  | "RebaseDetected" => .rebaseDetected
  | "RebasePreviewGenerated" => .rebasePreviewGenerated
  | "RebaseApplied" => .rebaseApplied
  | "RebaseApplyBlocked" => .rebaseApplyBlocked
  | "ApprovalRequired" => .approvalRequired
  | "ApprovalRequested" => .approvalRequested
  | "ApprovalGranted" => .approvalGranted
  | "ApprovalRevoked" => .approvalRevoked
  | "ApprovalCancelled" => .approvalCancelled
  | "ApprovalExpired" => .approvalExpired
  | "ReplayInitiated" => .replayInitiated
  | "ArtifactProduced" => .artifactProduced
  | "ArtifactInvalidated" => .artifactInvalidated
  | "CompensationPlanned" => .compensationPlanned
  | "CompensationStarted" => .compensationStarted
  | "CompensationCompleted" => .compensationCompleted
  | "CompensationFailed" => .compensationFailed
  | "ForensicBundleRequested" => .forensicBundleRequested
  | "ForensicBundleGenerated" => .forensicBundleGenerated
  | _ => .rebaseApplied

theorem auditEventTypeFromString_toString (eventType : AuditEventType) :
    auditEventTypeFromString (auditEventTypeToString eventType) = eventType := by
  cases eventType <;> rfl

/-- A repository of audit events whose state is a `σ`. -/
structure AuditRepository (σ : Type) where
  createAuditEvent : σ → AuditEvent → Except IntentRebaseError Unit × σ
  getAuditEvent : σ → Uuid → Uuid → Except IntentRebaseError AuditEvent
  listByIntent : σ → Uuid → Uuid → Except IntentRebaseError (List AuditEvent)
  listByTenant : σ → Uuid → UInt64 → Except IntentRebaseError (List AuditEvent)

namespace AuditRepository

variable {σ τ : Type}

/-- The repository that is the list of what was created in it. -/
def log : AuditRepository (List AuditEvent) where
  createAuditEvent events event := (.ok (), events ++ [event])
  getAuditEvent events eventId tenantId :=
    match events.find? fun event => event.id = eventId && event.tenantId = tenantId with
    | some event => .ok event
    | none => .error (.artifactNotFound eventId)
  listByIntent events intentId tenantId := .ok (latestFirst AuditEvent.occurredAt
    (events.filter fun event => event.intentId = some intentId && event.tenantId = tenantId))
  listByTenant events tenantId limit := .ok ((latestFirst AuditEvent.occurredAt
    (events.filter fun event => event.tenantId = tenantId)).take limit.toNat)

/-- The answers to the creation of events, one after another, and the repository after them. -/
def record (repo : AuditRepository σ) : σ → List AuditEvent →
    List (Except IntentRebaseError Unit) × σ
  | s, [] => ([], s)
  | s, event :: rest =>
    let (answer, s') := repo.createAuditEvent s event
    let (answers, last) := repo.record s' rest
    (answer :: answers, last)

/-- The creation of the event is one of those that succeed. -/
def Accepts (repo : AuditRepository σ) (s : σ) (events : List AuditEvent) (event : AuditEvent) :
    Prop :=
  (event, .ok ()) ∈ events.zip (repo.record s events).1

open Classical in
/-- After the creation of the events, each accepted one is returned as it was given and listed once
for its tenant and, where it names an intent, once for the intent; no listing has an event of
another tenant. -/
structure AppendOnly (repo : AuditRepository σ) (s : σ) (events : List AuditEvent)
    (limit : UInt64) : Prop where
  kept : ∀ event, repo.Accepts s events event →
    repo.getAuditEvent (repo.record s events).2 event.id event.tenantId = .ok event
  tenantOnce : ∀ event, repo.Accepts s events event →
    ∃ listed, repo.listByTenant (repo.record s events).2 event.tenantId limit = .ok listed ∧
      listed.count event = 1
  intentOnce : ∀ event, repo.Accepts s events event → ∀ intentId, event.intentId = some intentId →
    ∃ listed, repo.listByIntent (repo.record s events).2 intentId event.tenantId = .ok listed ∧
      listed.count event = 1
  tenantScoped : ∀ tenantId limit' listed,
    repo.listByTenant (repo.record s events).2 tenantId limit' = .ok listed →
      ∀ event ∈ listed, event.tenantId = tenantId
  intentScoped : ∀ intentId tenantId listed,
    repo.listByIntent (repo.record s events).2 intentId tenantId = .ok listed →
      ∀ event ∈ listed, event.tenantId = tenantId

/-- The same events with their times in the same order: events of one time may change places. -/
def ListedAlike : Except IntentRebaseError (List AuditEvent) →
    Except IntentRebaseError (List AuditEvent) → Prop
  | .ok listed, .ok listed' =>
    listed.Perm listed' ∧ listed.map AuditEvent.occurredAt = listed'.map AuditEvent.occurredAt
  | .error e, .error e' => e = e'
  | _, _ => False

/-- Two repositories answer the creation of the events alike, and every read after it. -/
structure Agrees (left : AuditRepository σ) (right : AuditRepository τ) (s : σ) (t : τ)
    (events : List AuditEvent) (limit : UInt64) : Prop where
  created : (left.record s events).1 = (right.record t events).1
  got : ∀ eventId tenantId, left.getAuditEvent (left.record s events).2 eventId tenantId =
    right.getAuditEvent (right.record t events).2 eventId tenantId
  byIntent : ∀ intentId tenantId,
    ListedAlike (left.listByIntent (left.record s events).2 intentId tenantId)
      (right.listByIntent (right.record t events).2 intentId tenantId)
  byTenant : ∀ tenantId, ListedAlike (left.listByTenant (left.record s events).2 tenantId limit)
    (right.listByTenant (right.record t events).2 tenantId limit)

end AuditRepository

structure InMemoryAuditRepository where
  events : HashMap Uuid AuditEvent
  byIntent : SecondaryIndex Uuid Uuid
  byTenant : SecondaryIndex Uuid Uuid

namespace InMemoryAuditRepository

def new : InMemoryAuditRepository := ⟨∅, ∅, ∅⟩

section Calls

variable (s : InMemoryAuditRepository)

def createAuditEvent (event : AuditEvent) :
    Except IntentRebaseError Unit × InMemoryAuditRepository :=
  let byIntent := match event.intentId with
    | some intentId => s.byIntent.push intentId event.id
    | none => s.byIntent
  (.ok (), {
    events := s.events.insert event.id event
    byIntent
    byTenant := s.byTenant.push event.tenantId event.id })

def getAuditEvent (eventId tenantId : Uuid) : Except IntentRebaseError AuditEvent :=
  match s.events.lookup eventId with
  | none => .error (.artifactNotFound eventId)
  | some event =>
    if event.tenantId ≠ tenantId then .error (.artifactNotFound eventId) else .ok event

def listByIntent (intentId tenantId : Uuid) : Except IntentRebaseError (List AuditEvent) :=
  let found := (s.byIntent.bucket intentId).filterMap s.events.lookup
  .ok (latestFirst AuditEvent.occurredAt (found.filter fun event => event.tenantId = tenantId))

def listByTenant (tenantId : Uuid) (limit : UInt64) : Except IntentRebaseError (List AuditEvent) :=
  let found := (s.byTenant.bucket tenantId).filterMap s.events.lookup
  .ok ((latestFirst AuditEvent.occurredAt found).take limit.toNat)

end Calls

def repository : AuditRepository InMemoryAuditRepository :=
  { createAuditEvent, getAuditEvent, listByIntent, listByTenant }

/-- The repository after the creation of the events. -/
structure Holds (s : InMemoryAuditRepository) (events : List AuditEvent) : Prop where
  lookup : ∀ id, s.events.lookup id = events.reverse.find? fun event => event.id = id
  byIntent : s.byIntent.Lists AuditEvent.id (fun intentId event => event.intentId = some intentId)
    events
  byTenant : s.byTenant.Lists AuditEvent.id (fun tenantId event => event.tenantId = tenantId) events

/-- Every event is found under its identifier. -/
def Finds (s : InMemoryAuditRepository) (events : List AuditEvent) : Prop :=
  ∀ event ∈ events, s.events.lookup event.id = some event

section Runs

variable {s : InMemoryAuditRepository} {events before : List AuditEvent}

theorem Holds.new : Holds new [] where
  lookup _ := rfl
  byIntent := .empty
  byTenant := .empty

theorem Holds.createAuditEvent (h : s.Holds before) (event : AuditEvent) :
    (s.createAuditEvent event).2.Holds (before ++ [event]) where
  lookup id := by
    rw [InMemoryAuditRepository.createAuditEvent, lookup_insert_eq, h.lookup, List.reverse_append,
      List.reverse_singleton, List.singleton_append, List.find?_cons]
    by_cases hid : id = event.id
    · simp [hid]
    · simp [hid, Ne.symm hid]
  byIntent := by
    rw [InMemoryAuditRepository.createAuditEvent]
    cases hintent : event.intentId with
    | none => exact h.byIntent.skip fun intentId => by simp [hintent]
    | some named => exact h.byIntent.push fun intentId => by simp [hintent, eq_comm]
  byTenant := h.byTenant.push fun tenantId => by simp [eq_comm]

theorem Holds.record (h : s.Holds before) :
    (repository.record s events).2.Holds (before ++ events) := by
  induction events generalizing s before with
  | nil => rwa [List.append_nil]
  | cons event rest ih =>
    rw [List.append_cons]
    exact ih (h.createAuditEvent event)

variable (events) in
theorem record_holds : (repository.record new events).2.Holds events := Holds.new.record

/-- No creation fails. -/
theorem record_answers : (repository.record s events).1 = events.map fun _ => .ok () := by
  induction events generalizing s with
  | nil => rfl
  | cons event rest ih => exact congrArg (Except.ok () :: ·) ih

theorem accepts_iff {event : AuditEvent} : repository.Accepts s events event ↔ event ∈ events := by
  rw [AuditRepository.Accepts, record_answers]
  induction events with
  | nil => simp
  | cons first rest ih =>
    rw [List.map_cons, List.zip_cons_cons, List.mem_cons, ih, List.mem_cons]
    simp

/-- An event is returned to its tenant if it is what its identifier finds. -/
theorem getAuditEvent_ok {event : AuditEvent} :
    s.getAuditEvent event.id event.tenantId = .ok event ↔
      s.events.lookup event.id = some event := by
  rw [getAuditEvent]
  cases s.events.lookup event.id with
  | none => simp
  | some found =>
    by_cases htenant : found.tenantId = event.tenantId
    · simp [htenant]
    · have hne : found ≠ event := fun heq => htenant (heq ▸ rfl)
      simp [htenant, hne]

/-- Distinct identifiers find every event, since none is stored over. -/
theorem Holds.finds (h : s.Holds events) (hnodup : (events.map AuditEvent.id).Nodup) :
    s.Finds events := by
  intro event hmem
  have hsome : (events.reverse.find? fun other => other.id = event.id).isSome :=
    List.find?_isSome.mpr ⟨event, List.mem_reverse.mpr hmem, decide_eq_true rfl⟩
  obtain ⟨found, hfound⟩ := Option.isSome_iff_exists.mp hsome
  have hid : found.id = event.id := by simpa using List.find?_some hfound
  have hin : found ∈ events := List.mem_reverse.mp (List.mem_of_find?_eq_some hfound)
  rw [h.lookup, hfound, List.inj_on_of_nodup_map hnodup hin hmem hid]

/-- Where every event is found, the listings are those of the log. -/
theorem Finds.listByTenant (h : s.Finds events) (hs : s.Holds events) (tenantId : Uuid)
    (limit : UInt64) :
    s.listByTenant tenantId limit = AuditRepository.log.listByTenant events tenantId limit := by
  rw [AuditRepository.log, InMemoryAuditRepository.listByTenant, hs.byTenant.values h]

theorem Finds.listByIntent (h : s.Finds events) (hs : s.Holds events) (intentId tenantId : Uuid) :
    s.listByIntent intentId tenantId = AuditRepository.log.listByIntent events intentId tenantId := by
  rw [AuditRepository.log, InMemoryAuditRepository.listByIntent, hs.byIntent.values h, List.filter_filter]
  simp only [Bool.and_comm]

/-- A listing that is as long as the log is not cut. -/
theorem log_listByTenant {limit : UInt64} (hlimit : events.length ≤ limit.toNat)
    (tenantId : Uuid) : AuditRepository.log.listByTenant events tenantId limit =
      .ok (latestFirst AuditEvent.occurredAt
        (events.filter fun event => event.tenantId = tenantId)) := by
  refine congrArg Except.ok (List.take_of_length_le ?_)
  rw [(latestFirst_perm _ _).length_eq]
  exact (List.length_filter_le _ events).trans hlimit

open Classical in
theorem count_listed {p : AuditEvent → Bool} {event : AuditEvent} (hp : p event = true) :
    (latestFirst AuditEvent.occurredAt (events.filter p)).count event = events.count event := by
  rw [(latestFirst_perm _ _).count_eq, List.count_filter hp]

end Runs

/-- The log is kept exactly where no identifier is repeated. -/
theorem appendOnly_iff {events : List AuditEvent} {limit : UInt64}
    (hlimit : events.length ≤ limit.toNat) :
    repository.AppendOnly new events limit ↔ (events.map AuditEvent.id).Nodup := by
  classical
  have hholds := record_holds events
  constructor
  · intro h
    have hfinds : (repository.record new events).2.Finds events := fun event hmem =>
      getAuditEvent_ok.mp (h.kept event (accepts_iff.mpr hmem))
    have hnodup : events.Nodup := by
      refine List.nodup_iff_count_eq_one.mpr fun event hmem => ?_
      obtain ⟨listed, hlisted, hcount⟩ := h.tenantOnce event (accepts_iff.mpr hmem)
      have heq := (hfinds.listByTenant hholds event.tenantId limit).symm.trans hlisted
      rw [log_listByTenant hlimit] at heq
      rwa [← Except.ok.inj heq, count_listed (decide_eq_true rfl)] at hcount
    refine hnodup.map_on fun a ha b hb hid => ?_
    exact Option.some.inj ((hfinds a ha).symm.trans (hid ▸ hfinds b hb))
  · intro hnodup
    have hfinds := hholds.finds hnodup
    have hcount : ∀ event ∈ events, events.count event = 1 :=
      List.nodup_iff_count_eq_one.mp (hnodup.of_map _)
    constructor
    case kept =>
      exact fun event haccepts => getAuditEvent_ok.mpr (hfinds event (accepts_iff.mp haccepts))
    case tenantOnce =>
      intro event haccepts
      have hlisted := hfinds.listByTenant hholds event.tenantId limit
      refine ⟨_, hlisted.trans (log_listByTenant hlimit event.tenantId), ?_⟩
      rw [count_listed (decide_eq_true rfl)]
      exact hcount event (accepts_iff.mp haccepts)
    case intentOnce =>
      intro event haccepts intentId hintent
      refine ⟨_, hfinds.listByIntent hholds intentId event.tenantId, ?_⟩
      rw [count_listed (by simp [hintent])]
      exact hcount event (accepts_iff.mp haccepts)
    case tenantScoped =>
      intro tenantId limit' listed hlisted event hmem
      have hspec := hfinds.listByTenant hholds tenantId limit'
      obtain rfl := Except.ok.inj (hspec.symm.trans hlisted)
      have hin := (mem_latestFirst _).mp (List.mem_of_mem_take hmem)
      exact of_decide_eq_true (List.mem_filter.mp hin).2
    case intentScoped =>
      intro intentId tenantId listed hlisted event hmem
      have hspec := hfinds.listByIntent hholds intentId tenantId
      obtain rfl := Except.ok.inj (hspec.symm.trans hlisted)
      have hin := (List.mem_filter.mp ((mem_latestFirst _).mp hmem)).2
      exact of_decide_eq_true (Bool.and_eq_true_iff.mp hin).2

end InMemoryAuditRepository

/-- A row of the table `audit_events`. -/
structure AuditRow where
  id : Uuid
  tenantId : Uuid
  eventType : String
  actorId : String
  intentId : Option Uuid
  artifactId : Option Uuid
  payload : Json
  traceId : Option String
  spanId : Option String
  occurredAt : DateTime

def rowToEvent (row : AuditRow) : AuditEvent where
  id := row.id
  tenantId := row.tenantId
  eventType := auditEventTypeFromString row.eventType
  actorId := row.actorId
  intentId := row.intentId
  artifactId := row.artifactId
  payload := row.payload
  traceId := row.traceId
  spanId := row.spanId
  occurredAt := row.occurredAt

/-- The labels of the type `audit_event_type`. -/
def auditEventTypeLabels : List String :=
  ["IntentCreated", "IntentUpdated", "IntentArchived", "RebaseDetected", "RebasePreviewGenerated",
    "RebaseApplied", "ApprovalRequired", "ApprovalGranted", "ApprovalRevoked", "ArtifactProduced",
    "ArtifactInvalidated", "RebaseApplyBlocked"]

/-- `$3::audit_event_type` -/
def auditEventTypeColumn (label : String) : Except String String :=
  if label ∈ auditEventTypeLabels then .ok label
  else .error s!"invalid input value for enum audit_event_type: \"{label}\""

/-- The row that holds the values bound for an event. -/
def AuditRow.bind (event : AuditEvent) : Except String AuditRow := do
  let eventType ← auditEventTypeColumn (auditEventTypeToString event.eventType)
  let actorId ← varchar 255 event.actorId
  let payload ← jsonb event.payload
  let traceId ← nullableVarchar 64 event.traceId
  let spanId ← nullableVarchar 32 event.spanId
  return {
    id := event.id
    tenantId := event.tenantId
    eventType, actorId
    intentId := event.intentId
    artifactId := event.artifactId
    payload, traceId, spanId
    occurredAt := timestamptz event.occurredAt }

/-- The table `audit_events`, by its primary key. -/
abbrev AuditTable := HashMap Uuid AuditRow

/-- What the columns of `audit_events` ask of an event, to hold it as it is. -/
structure AuditEvent.Fits (event : AuditEvent) : Prop where
  eventType : auditEventTypeToString event.eventType ∈ auditEventTypeLabels
  actorId : event.actorId.length ≤ 255 ∧ containsNul event.actorId = false
  payload : event.payload.containsNul = false
  traceId : ∀ text, event.traceId = some text → text.length ≤ 64 ∧ containsNul text = false
  spanId : ∀ text, event.spanId = some text → text.length ≤ 32 ∧ containsNul text = false
  occurredAt : event.occurredAt % 1000 = 0

/-- The row of an event that the columns hold as it is. -/
def AuditRow.ofEvent (event : AuditEvent) : AuditRow where
  id := event.id
  tenantId := event.tenantId
  eventType := auditEventTypeToString event.eventType
  actorId := event.actorId
  intentId := event.intentId
  artifactId := event.artifactId
  payload := event.payload
  traceId := event.traceId
  spanId := event.spanId
  occurredAt := event.occurredAt

theorem rowToEvent_ofEvent (event : AuditEvent) : rowToEvent (.ofEvent event) = event := by
  rw [rowToEvent, AuditRow.ofEvent, auditEventTypeFromString_toString]

/-- The values that a row is bound from. -/
theorem AuditRow.bind_ok {event : AuditEvent} {row : AuditRow} (h : bind event = .ok row) :
    row.id = event.id ∧ row.tenantId = event.tenantId ∧
      auditEventTypeColumn (auditEventTypeToString event.eventType) = .ok row.eventType ∧
      varchar 255 event.actorId = .ok row.actorId ∧ jsonb event.payload = .ok row.payload ∧
      nullableVarchar 64 event.traceId = .ok row.traceId ∧
      nullableVarchar 32 event.spanId = .ok row.spanId ∧
      row.occurredAt = timestamptz event.occurredAt := by
  rw [bind] at h
  cases htype : auditEventTypeColumn (auditEventTypeToString event.eventType) with
  | error e => rw [htype] at h; cases h
  | ok eventType =>
  cases hactor : varchar 255 event.actorId with
  | error e => rw [htype, hactor] at h; cases h
  | ok actorId =>
  cases hpayload : jsonb event.payload with
  | error e => rw [htype, hactor, hpayload] at h; cases h
  | ok payload =>
  cases htrace : nullableVarchar 64 event.traceId with
  | error e => rw [htype, hactor, hpayload, htrace] at h; cases h
  | ok traceId =>
  cases hspan : nullableVarchar 32 event.spanId with
  | error e => rw [htype, hactor, hpayload, htrace, hspan] at h; cases h
  | ok spanId =>
    rw [htype, hactor, hpayload, htrace, hspan] at h
    cases h
    exact ⟨rfl, rfl, rfl, rfl, rfl, rfl, rfl, rfl⟩

theorem AuditEvent.Fits.bind {event : AuditEvent} (h : event.Fits) :
    AuditRow.bind event = .ok (.ofEvent event) := by
  have htype : auditEventTypeColumn (auditEventTypeToString event.eventType) =
      .ok (auditEventTypeToString event.eventType) := if_pos h.eventType
  rw [AuditRow.bind, htype, varchar_eq_self.mpr h.actorId, jsonb_ok.mpr h.payload,
    nullableVarchar_eq_self.mpr h.traceId, nullableVarchar_eq_self.mpr h.spanId]
  exact congrArg (fun occurredAt => Except.ok { AuditRow.ofEvent event with occurredAt })
    (timestamptz_eq_self.mpr h.occurredAt)

/-- An event that is read back as it was given fits the columns. -/
theorem AuditEvent.fits_of_bind {event : AuditEvent} {row : AuditRow}
    (h : AuditRow.bind event = .ok row) (hrow : rowToEvent row = event) : event.Fits := by
  obtain ⟨-, -, htype, hactor, hpayload, htrace, hspan, htime⟩ := AuditRow.bind_ok h
  have hactorId : row.actorId = event.actorId := congrArg AuditEvent.actorId hrow
  have hpayload' : row.payload = event.payload := congrArg AuditEvent.payload hrow
  have htraceId : row.traceId = event.traceId := congrArg AuditEvent.traceId hrow
  have hspanId : row.spanId = event.spanId := congrArg AuditEvent.spanId hrow
  have hoccurredAt : row.occurredAt = event.occurredAt := congrArg AuditEvent.occurredAt hrow
  constructor
  case eventType =>
    rw [auditEventTypeColumn] at htype
    split at htype
    · assumption
    · cases htype
  case actorId => exact varchar_eq_self.mp (hactorId ▸ hactor)
  case payload => exact jsonb_ok.mp (hpayload' ▸ hpayload)
  case traceId => exact nullableVarchar_eq_self.mp (htraceId ▸ htrace)
  case spanId => exact nullableVarchar_eq_self.mp (hspanId ▸ hspan)
  case occurredAt => exact timestamptz_eq_self.mp (htime.symm.trans hoccurredAt)

namespace SqlxAuditRepository

def createAuditEvent (t : AuditTable) (event : AuditEvent) :
    Except IntentRebaseError Unit × AuditTable :=
  match AuditRow.bind event with
  | .error e => (.error (.storageError s!"insert audit event: {e}"), t)
  | .ok row =>
    match t.lookup row.id with
    | some _ =>
      (.error (.storageError
        "insert audit event: duplicate key value violates unique constraint"), t)
    | none => (.ok (), t.insert row.id row)

def getAuditEvent (t : AuditTable) (eventId tenantId : Uuid) :
    Except IntentRebaseError AuditEvent :=
  match (t.lookup eventId).filter fun row => row.tenantId = tenantId with
  | some row => .ok (rowToEvent row)
  | none => .error (.artifactNotFound eventId)

/-- The rows of the table in the order of a scan. -/
def rows (scan : IterOrder (Uuid × AuditRow)) (t : AuditTable) : List AuditRow :=
  (scan.apply (pairs t)).map Prod.snd

variable (scan : IterOrder (Uuid × AuditRow)) (t : AuditTable)

def listByIntent (intentId tenantId : Uuid) : Except IntentRebaseError (List AuditEvent) :=
  let found := (rows scan t).filter fun row =>
    row.intentId = some intentId && row.tenantId = tenantId
  .ok ((latestFirst AuditRow.occurredAt found).map rowToEvent)

/-- The limit is bound as a signed number. -/
def listByTenant (tenantId : Uuid) (limit : UInt64) : Except IntentRebaseError (List AuditEvent) :=
  let bound := limit.toInt64.toInt
  if bound < 0 then
    .error (.storageError "list audit events by tenant: LIMIT must not be negative")
  else
    let found := (rows scan t).filter fun row => row.tenantId = tenantId
    .ok (((latestFirst AuditRow.occurredAt found).take bound.toNat).map rowToEvent)

def repository : AuditRepository AuditTable where
  createAuditEvent := createAuditEvent
  getAuditEvent := getAuditEvent
  listByIntent := listByIntent scan
  listByTenant := listByTenant scan

section Runs

variable {t : AuditTable} {events before : List AuditEvent}

/-- The table has a row for each event, and no other. -/
def Stores (t : AuditTable) (events : List AuditEvent) : Prop :=
  (pairs t).Perm (events.map fun event => (event.id, .ofEvent event))

theorem Stores.lookup (h : Stores t events) {event : AuditEvent} (hmem : event ∈ events) :
    t.lookup event.id = some (.ofEvent event) :=
  mem_pairs.mp (h.mem_iff.mpr (List.mem_map.mpr ⟨event, hmem, rfl⟩))

theorem Stores.lookup_none (h : Stores t events) {id : Uuid}
    (hid : id ∉ events.map AuditEvent.id) : t.lookup id = none := by
  refine Option.eq_none_iff_forall_ne_some.mpr fun row hrow => hid ?_
  obtain ⟨event, hmem, heq⟩ := List.mem_map.mp (h.mem_iff.mp (mem_pairs.mpr hrow))
  exact List.mem_map.mpr ⟨event, hmem, congrArg Prod.fst heq⟩

/-- An event that fits the columns, under a new identifier, is stored as it is. -/
theorem Stores.createAuditEvent (h : Stores t before) {event : AuditEvent} (hfits : event.Fits)
    (hnew : event.id ∉ before.map AuditEvent.id) :
    (createAuditEvent t event).1 = .ok () ∧
      Stores (createAuditEvent t event).2 (before ++ [event]) := by
  have hnone : t.lookup (AuditRow.ofEvent event).id = none := h.lookup_none hnew
  rw [SqlxAuditRepository.createAuditEvent, hfits.bind]
  dsimp only
  rw [hnone]
  have hnotMem : (AuditRow.ofEvent event).id ∉ t := fun hmem => by
    obtain ⟨row, hrow⟩ := mem_iff_lookup.mp hmem
    cases hnone.symm.trans hrow
  refine ⟨rfl, ?_⟩
  rw [Stores, pairs_insert hnotMem, List.map_append]
  exact (h.cons _).trans (List.perm_append_singleton _ _).symm

variable (scan : IterOrder (Uuid × AuditRow))

theorem Stores.record (h : Stores t before) (hfits : ∀ event ∈ events, event.Fits)
    (hnodup : ((before ++ events).map AuditEvent.id).Nodup) :
    ((repository scan).record t events).1 = events.map (fun _ => .ok ()) ∧
      Stores ((repository scan).record t events).2 (before ++ events) := by
  induction events generalizing t before with
  | nil => exact ⟨rfl, by rwa [List.append_nil]⟩
  | cons event rest ih =>
    have hnew : event.id ∉ before.map AuditEvent.id := by
      rw [List.map_append] at hnodup
      exact fun hmem => (List.nodup_append.mp hnodup).2.2 _ hmem _ List.mem_cons_self rfl
    obtain ⟨hok, hstores⟩ := h.createAuditEvent (hfits event List.mem_cons_self) hnew
    rw [List.append_cons] at hnodup ⊢
    obtain ⟨hoks, hlast⟩ := ih hstores (fun e hmem => hfits e (List.mem_cons_of_mem _ hmem)) hnodup
    exact ⟨congrArg₂ List.cons hok hoks, hlast⟩

/-- What is stored stays as it is. -/
theorem record_keeps {id : Uuid} {row : AuditRow} (h : t.lookup id = some row) :
    ((repository scan).record t events).2.lookup id = some row := by
  induction events generalizing t with
  | nil => exact h
  | cons event rest ih =>
    refine ih (t := (createAuditEvent t event).2) ?_
    rw [SqlxAuditRepository.createAuditEvent]
    cases hbind : AuditRow.bind event with
    | error e => exact h
    | ok bound =>
      dsimp only
      cases hlookup : t.lookup bound.id with
      | some _ => exact h
      | none =>
        have hne : id ≠ bound.id := fun heq => by
          rw [heq, hlookup] at h
          cases h
        exact (lookup_insert_eq _ _ _ _).trans ((if_neg hne).trans h)

/-- Where no creation fails, every event is bound to the row under its identifier. -/
theorem record_bound (h : ((repository scan).record t events).1 = events.map fun _ => .ok ()) :
    ∀ event ∈ events, ∃ row, AuditRow.bind event = .ok row ∧
      ((repository scan).record t events).2.lookup event.id = some row := by
  induction events generalizing t with
  | nil => exact fun _ hmem => absurd hmem List.not_mem_nil
  | cons first rest ih =>
    obtain ⟨hfirst, hrest⟩ := List.cons.inj h
    intro event hmem
    rcases List.mem_cons.mp hmem with rfl | hmem
    · have hcreate : (createAuditEvent t event).1 = .ok () := hfirst
      cases hbind : AuditRow.bind event with
      | error e =>
        rw [createAuditEvent, hbind] at hcreate
        cases hcreate
      | ok row =>
        refine ⟨row, rfl, record_keeps (t := (createAuditEvent t event).2) scan ?_⟩
        have hid : row.id = event.id := (AuditRow.bind_ok hbind).1
        rw [createAuditEvent, hbind] at hcreate ⊢
        dsimp only at hcreate ⊢
        cases hlookup : t.lookup row.id with
        | some _ =>
          rw [hlookup] at hcreate
          cases hcreate
        | none => exact (lookup_insert_eq _ _ _ _).trans (if_pos hid.symm)
    · exact ih hrest event hmem

/-- The rows of the events that meet a condition, read in the order of a scan. -/
theorem Stores.rows (h : Stores t events) (p : AuditRow → Bool) :
    (((SqlxAuditRepository.rows scan t).filter p).map rowToEvent).Perm
      (events.filter fun event => p (.ofEvent event)) := by
  have hrows : (SqlxAuditRepository.rows scan t).Perm (events.map AuditRow.ofEvent) := by
    refine (((scan.perm (pairs t)).trans h).map Prod.snd).trans (.of_eq ?_)
    rw [List.map_map]
    rfl
  refine ((hrows.filter p).map rowToEvent).trans (.of_eq ?_)
  rw [List.filter_map, List.map_map]
  exact (List.map_congr_left fun event _ => rowToEvent_ofEvent event).trans (List.map_id _)

/-- Rows and events are listed in one order of times. -/
theorem map_latestFirst (found : List AuditRow) :
    (latestFirst AuditRow.occurredAt found).map rowToEvent =
      latestFirst AuditEvent.occurredAt (found.map rowToEvent) :=
  (latestFirst_map AuditEvent.occurredAt rowToEvent found).symm

theorem Stores.listByIntent (h : Stores t events) (intentId tenantId : Uuid) :
    ∃ found, found.Perm (events.filter fun event =>
        event.intentId = some intentId && event.tenantId = tenantId) ∧
      listByIntent scan t intentId tenantId =
        .ok (latestFirst AuditEvent.occurredAt found) := by
  refine ⟨_, h.rows scan fun row => row.intentId = some intentId && row.tenantId = tenantId, ?_⟩
  rw [SqlxAuditRepository.listByIntent, map_latestFirst]

/-- A limit of 2^63 or more is bound as a negative number. -/
theorem toInt_limit (limit : UInt64) : limit.toInt64.toInt =
    if limit.toNat < 2 ^ 63 then (limit.toNat : Int) else limit.toNat - 2 ^ 64 := by
  have hcond := BitVec.toInt_eq_toNat_cond limit.toBitVec
  rw [UInt64.toNat_toBitVec] at hcond
  have hbits : limit.toInt64.toInt = limit.toBitVec.toInt := rfl
  rw [hbits, hcond]
  split <;> split <;> omega

theorem Stores.listByTenant (h : Stores t events) {limit : UInt64}
    (hlimit : events.length ≤ limit.toNat) (hbound : limit.toNat < 2 ^ 63) (tenantId : Uuid) :
    ∃ found, found.Perm (events.filter fun event => event.tenantId = tenantId) ∧
      listByTenant scan t tenantId limit = .ok (latestFirst AuditEvent.occurredAt found) := by
  have hperm := h.rows scan fun row => row.tenantId = tenantId
  have hlength := hperm.length_eq
  refine ⟨_, hperm, ?_⟩
  rw [SqlxAuditRepository.listByTenant, toInt_limit, if_pos hbound]
  dsimp only
  rw [if_neg (by omega), Int.toNat_natCast, List.take_of_length_le, map_latestFirst]
  rw [(latestFirst_perm _ _).length_eq, ← List.length_map rowToEvent, hlength]
  exact (List.length_filter_le _ events).trans hlimit

theorem listByTenant_negative {limit : UInt64} (hbound : ¬ limit.toNat < 2 ^ 63)
    (tenantId : Uuid) : listByTenant scan t tenantId limit =
      .error (.storageError "list audit events by tenant: LIMIT must not be negative") := by
  have hlt := limit.toNat_lt
  rw [listByTenant, toInt_limit, if_neg hbound]
  exact if_pos (by omega)

end Runs

end SqlxAuditRepository

namespace InMemoryAuditRepository

open AuditRepository

variable {events : List AuditEvent} {limit : UInt64} {t : AuditTable}

/-- Where every event is found, and the table stores the same events, one is returned alike. -/
theorem Finds.got {s : InMemoryAuditRepository} (h : s.Finds events) (hs : s.Holds events)
    (ht : SqlxAuditRepository.Stores t events) (eventId tenantId : Uuid) :
    s.getAuditEvent eventId tenantId = SqlxAuditRepository.getAuditEvent t eventId tenantId := by
  rw [getAuditEvent, SqlxAuditRepository.getAuditEvent]
  by_cases hid : eventId ∈ events.map AuditEvent.id
  · obtain ⟨event, hmem, rfl⟩ := List.mem_map.mp hid
    rw [h event hmem, ht.lookup hmem]
    have htenant : (AuditRow.ofEvent event).tenantId = event.tenantId := rfl
    by_cases heq : event.tenantId = tenantId
    · simp [Option.filter, htenant, heq, rowToEvent_ofEvent]
    · simp [Option.filter, htenant, heq]
  · have hnone : s.events.lookup eventId = none := by
      rw [hs.lookup, List.find?_eq_none]
      intro event hmem heq
      exact hid (List.mem_map.mpr ⟨event, List.mem_reverse.mp hmem, of_decide_eq_true heq⟩)
    rw [hnone, ht.lookup_none hid]
    rfl

/-- Listings of rearranged events. -/
theorem listedAlike_of_perm {found found' : List AuditEvent} (h : found.Perm found') :
    ListedAlike (.ok (latestFirst AuditEvent.occurredAt found))
      (.ok (latestFirst AuditEvent.occurredAt found')) :=
  ⟨(latestFirst_perm _ found).trans (h.trans (latestFirst_perm _ found').symm),
    latestFirst_times _ h⟩

theorem agrees_of_fits (hlimit : events.length ≤ limit.toNat) (hbound : limit.toNat < 2 ^ 63)
    (hnodup : (events.map AuditEvent.id).Nodup) (hfits : ∀ event ∈ events, event.Fits)
    (scan : IterOrder (Uuid × AuditRow)) :
    Agrees repository (SqlxAuditRepository.repository scan) new ∅ events limit := by
  have hholds := record_holds events
  have hfinds := hholds.finds hnodup
  have hempty : SqlxAuditRepository.Stores ∅ [] := .rfl
  obtain ⟨hanswers, hstores⟩ := hempty.record scan hfits hnodup
  rw [List.nil_append] at hstores
  constructor
  case created => exact record_answers.trans hanswers.symm
  case got => exact hfinds.got hholds hstores
  case byIntent =>
    intro intentId tenantId
    obtain ⟨found, hperm, hlisted⟩ := hstores.listByIntent scan intentId tenantId
    have heq := hfinds.listByIntent hholds intentId tenantId
    exact (congrArg₂ ListedAlike heq hlisted).mpr (listedAlike_of_perm hperm.symm)
  case byTenant =>
    intro tenantId
    obtain ⟨found, hperm, hlisted⟩ := hstores.listByTenant scan hlimit hbound tenantId
    have heq := hfinds.listByTenant hholds tenantId limit
    rw [log_listByTenant hlimit] at heq
    exact (congrArg₂ ListedAlike heq hlisted).mpr (listedAlike_of_perm hperm.symm)

/-- An event that both return alike fits the columns. -/
theorem fits_of_agrees {scan : IterOrder (Uuid × AuditRow)}
    (h : Agrees repository (SqlxAuditRepository.repository scan) new ∅ events limit)
    (hnodup : (events.map AuditEvent.id).Nodup) : ∀ event ∈ events, event.Fits := by
  intro event hmem
  have hanswers := h.created.symm.trans record_answers
  obtain ⟨row, hbind, hlookup⟩ := SqlxAuditRepository.record_bound scan hanswers event hmem
  have hkept := getAuditEvent_ok.mpr ((record_holds events).finds hnodup event hmem)
  have hgot := (h.got event.id event.tenantId).symm.trans hkept
  refine AuditEvent.fits_of_bind hbind ?_
  have hread : SqlxAuditRepository.getAuditEvent
      ((SqlxAuditRepository.repository scan).record ∅ events).2 event.id event.tenantId =
        .ok (rowToEvent row) := by
    have htenant : row.tenantId = event.tenantId := (AuditRow.bind_ok hbind).2.1
    rw [SqlxAuditRepository.getAuditEvent, hlookup, Option.filter_some,
      if_pos (decide_eq_true htenant)]
  exact Except.ok.inj (hread.symm.trans hgot)

/-- A limit for which both list alike is not bound as a negative number. -/
theorem limit_of_agrees {scan : IterOrder (Uuid × AuditRow)}
    (h : Agrees repository (SqlxAuditRepository.repository scan) new ∅ events limit) :
    limit.toNat < 2 ^ 63 := by
  by_contra hbound
  have hlisted := h.byTenant 0
  have herror := SqlxAuditRepository.listByTenant_negative
    (t := ((SqlxAuditRepository.repository scan).record ∅ events).2) scan hbound 0
  exact (congrArg (ListedAlike (.ok _)) herror).mp hlisted

/-- The log in memory is append-only and answers as the table does exactly where no identifier is
repeated, the columns hold each event as it is, and the limit is not bound as a negative number. -/
theorem appendOnly_agrees_iff (events : List AuditEvent) (limit : UInt64)
    (hlimit : events.length ≤ limit.toNat) :
    (repository.AppendOnly new events limit ∧ ∀ scan,
        Agrees repository (SqlxAuditRepository.repository scan) new ∅ events limit) ↔
      (events.map AuditEvent.id).Nodup ∧ (∀ event ∈ events, event.Fits) ∧
        limit.toNat < 2 ^ 63 := by
  constructor
  · rintro ⟨happend, hagrees⟩
    have hnodup := (appendOnly_iff hlimit).mp happend
    have h := hagrees (.id _)
    exact ⟨hnodup, fits_of_agrees h hnodup, limit_of_agrees h⟩
  · rintro ⟨hnodup, hfits, hbound⟩
    exact ⟨(appendOnly_iff hlimit).mpr hnodup, agrees_of_fits hlimit hbound hnodup hfits⟩

/-- An event of a tenant. -/
def sampleEvent (tenantId : Uuid) (occurredAt : DateTime) : AuditEvent where
  id := 1
  tenantId
  eventType := .intentCreated
  actorId := "user:alice"
  intentId := some 7
  artifactId := none
  payload := .emptyObject
  traceId := none
  spanId := none
  occurredAt

/-- Two events of a tenant, the later one first, and one of another tenant. -/
def sampleEvents : List AuditEvent :=
  [sampleEvent 2 2000, { sampleEvent 2 1000 with id := 2, traceId := some "t" },
    { sampleEvent 3 2000 with id := 3, payload := .string "p" }]

theorem appendOnly_agrees_sample : repository.AppendOnly new sampleEvents 100 ∧
    ∀ scan, Agrees repository (SqlxAuditRepository.repository scan) new ∅ sampleEvents 100 := by
  refine (appendOnly_agrees_iff sampleEvents 100 (by decide)).mpr ⟨by decide, ?_, by decide⟩
  simp only [sampleEvents, List.forall_mem_cons, List.not_mem_nil, false_implies, implies_true]
  refine ⟨?_, ?_, ?_, trivial⟩
  · exact ⟨by decide, by decide, by decide, nofun, nofun, by decide⟩
  · exact ⟨by decide, by decide, by decide, by decide, nofun, by decide⟩
  · exact ⟨by decide, by decide, by decide, nofun, nofun, by decide⟩

/-- An event of another tenant under the identifier of a stored one takes its place: the first is
no longer returned, and its tenant is shown the second. -/
theorem stored_over :
    ¬ ∀ (events : List AuditEvent) (limit : UInt64), events.length ≤ limit.toNat →
      repository.AppendOnly new events limit ∧ ∀ scan,
        Agrees repository (SqlxAuditRepository.repository scan) new ∅ events limit := by
  intro h
  have happend := (h [sampleEvent 2 1000, sampleEvent 3 2000] 100 (by decide)).1
  have hmem : sampleEvent 3 2000 ∈
      (latestFirst AuditEvent.occurredAt [sampleEvent 3 2000]).take 100 := by
    rw [latestFirst, List.mergeSort_singleton]
    exact List.mem_cons_self
  have hscoped : (3 : Uuid) = 2 := happend.tenantScoped 2 100 _ rfl _ hmem
  exact absurd hscoped (by decide)

end InMemoryAuditRepository

end IntentRebase
