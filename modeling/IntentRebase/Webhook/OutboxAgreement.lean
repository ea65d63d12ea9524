import IntentRebase.Kit.Agreement
import IntentRebase.Types.Column
import IntentRebase.Webhook.OutboxStatistics

/-! The in-memory and the SQL repository of the webhook outbox, call by call, with the limits of the
columns: exactly when a sequence of calls cannot tell one from the other. -/

namespace IntentRebase

open Kit

section Columns

/-- The record with the values that the columns take for it. -/
def WebhookOutboxRecord.bind (record : WebhookOutboxRecord) :
    Except String WebhookOutboxRecord := do
  let eventType ← textColumn record.eventType
  let payload ← jsonb record.payload
  let webhookUrl ← nullableText record.webhookUrl
  let lockedBy ← nullableText record.lockedBy
  let lastError ← nullableText record.lastError
  let replayedBy ← nullableText record.replayedBy
  let versionHash ← nullableText record.versionHash
  return { record with
    eventType, payload, webhookUrl, lockedBy, lastError, replayedBy, versionHash
    scheduledAt := timestamptz record.scheduledAt
    lockedAt := record.lockedAt.map timestamptz
    deliveredAt := record.deliveredAt.map timestamptz
    replayedAt := record.replayedAt.map timestamptz
    createdAt := timestamptz record.createdAt
    updatedAt := timestamptz record.updatedAt }

/-- What the columns of `webhook_outbox` ask of a record, to hold it as it is. -/
structure WebhookOutboxRecord.Fits (record : WebhookOutboxRecord) : Prop where
  eventType : containsNul record.eventType = false
  payload : record.payload.containsNul = false
  webhookUrl : ∀ text ∈ record.webhookUrl, containsNul text = false
  lockedBy : ∀ text ∈ record.lockedBy, containsNul text = false
  lastError : ∀ text ∈ record.lastError, containsNul text = false
  replayedBy : ∀ text ∈ record.replayedBy, containsNul text = false
  versionHash : ∀ text ∈ record.versionHash, containsNul text = false
  scheduledAt : record.scheduledAt % 1000 = 0
  lockedAt : ∀ time ∈ record.lockedAt, time % 1000 = 0
  deliveredAt : ∀ time ∈ record.deliveredAt, time % 1000 = 0
  replayedAt : ∀ time ∈ record.replayedAt, time % 1000 = 0
  createdAt : record.createdAt % 1000 = 0
  updatedAt : record.updatedAt % 1000 = 0

theorem WebhookOutboxRecord.bind_eq_self {record : WebhookOutboxRecord} :
    bind record = .ok record ↔ record.Fits := by
  simp only [bind, bind_eq_ok]
  constructor
  · rintro ⟨_, heventType, _, hpayload, _, hwebhookUrl, _, hlockedBy, _, hlastError, _, hreplayedBy,
      _, hversionHash, hrecord⟩
    have hfield : ∀ {α : Type} (field : WebhookOutboxRecord → α), _ = field record :=
      fun field => congrArg field (Except.ok.inj hrecord)
    exact {
      eventType := (textColumn_ok.mp heventType).1
      payload := jsonb_ok.mp (hpayload.trans (congrArg Except.ok (hfield (·.payload))))
      webhookUrl := (nullableText_ok.mp hwebhookUrl).1
      lockedBy := (nullableText_ok.mp hlockedBy).1
      lastError := (nullableText_ok.mp hlastError).1
      replayedBy := (nullableText_ok.mp hreplayedBy).1
      versionHash := (nullableText_ok.mp hversionHash).1
      scheduledAt := timestamptz_eq_self.mp (hfield (·.scheduledAt))
      lockedAt := map_timestamptz_eq_self.mp (hfield (·.lockedAt))
      deliveredAt := map_timestamptz_eq_self.mp (hfield (·.deliveredAt))
      replayedAt := map_timestamptz_eq_self.mp (hfield (·.replayedAt))
      createdAt := timestamptz_eq_self.mp (hfield (·.createdAt))
      updatedAt := timestamptz_eq_self.mp (hfield (·.updatedAt)) }
  · intro h
    refine ⟨_, textColumn_ok.mpr ⟨h.eventType, rfl⟩, _, jsonb_ok.mpr h.payload, _,
      nullableText_ok.mpr ⟨h.webhookUrl, rfl⟩, _, nullableText_ok.mpr ⟨h.lockedBy, rfl⟩, _,
      nullableText_ok.mpr ⟨h.lastError, rfl⟩, _, nullableText_ok.mpr ⟨h.replayedBy, rfl⟩, _,
      nullableText_ok.mpr ⟨h.versionHash, rfl⟩, ?_⟩
    rw [timestamptz_eq_self.mpr h.scheduledAt, map_timestamptz_eq_self.mpr h.lockedAt,
      map_timestamptz_eq_self.mpr h.deliveredAt, map_timestamptz_eq_self.mpr h.replayedAt,
      timestamptz_eq_self.mpr h.createdAt, timestamptz_eq_self.mpr h.updatedAt]
    rfl

theorem WebhookOutboxRecord.id_of_bind {record bound : WebhookOutboxRecord}
    (h : bind record = .ok bound) : bound.id = record.id := by
  simp only [bind, bind_eq_ok] at h
  obtain ⟨_, -, _, -, _, -, _, -, _, -, _, -, _, -, hbound⟩ := h
  exact congrArg (fun r => r.id) (Except.ok.inj hbound).symm

/-! The statements with the values that the columns take for their arguments. The times that they
set are the database's own. -/

namespace OutboxColumns

variable (table : OutboxTable)

def create (record : WebhookOutboxRecord) : OutboxAnswer OutboxTable :=
  match record.bind with
  | .error e => (.error (.storageError s!"insert outbox record: {e}"), table)
  | .ok bound =>
    match SqlxWebhookOutboxRepository.create table bound with
    | (.ok _, table) => (.ok record, table)
    | (.error e, table) => (.error e, table)

/-- A statement for which a value is bound. -/
def bound {α : Type} (what : String) (value : Except String α)
    (statement : α → OutboxAnswer OutboxTable) : OutboxAnswer OutboxTable :=
  match value with
  | .error e => (.error (.storageError s!"{what}: {e}"), table)
  | .ok value => statement value

def claim (now : DateTime) (id tenantId : Uuid) (lockedBy : String) : OutboxAnswer OutboxTable :=
  bound table "claim outbox record" (textColumn lockedBy)
    (SqlxWebhookOutboxRepository.claim table now id tenantId)

def markFailed (now : DateTime) (id tenantId : Uuid) (lastError : String) :
    OutboxAnswer OutboxTable :=
  bound table "mark failed" (textColumn lastError)
    (SqlxWebhookOutboxRepository.markFailed table now id tenantId)

def rescheduleRetry (now : DateTime) (id tenantId : Uuid) (lastError : String)
    (scheduledAt : DateTime) : OutboxAnswer OutboxTable :=
  bound table "reschedule retry" (textColumn lastError) fun lastError =>
    SqlxWebhookOutboxRepository.rescheduleRetry table now id tenantId lastError
      (timestamptz scheduledAt)

def replayFailed (now : DateTime) (id tenantId : Uuid) (replayedBy : Option String) :
    OutboxAnswer OutboxTable :=
  bound table "replay failed outbox record" (nullableText replayedBy)
    (SqlxWebhookOutboxRepository.replayFailed table now id tenantId)

def repository (collation : Collation) (scans : SqlxWebhookOutboxRepository.Scans) :
    WebhookOutboxRepository OutboxTable :=
  { SqlxWebhookOutboxRepository.repository collation scans with
    create := create
    claim := claim
    markFailed := markFailed
    rescheduleRetry := rescheduleRetry
    replayFailed := replayFailed
    listFailedOlderThan := fun table tenantId before =>
      SqlxWebhookOutboxRepository.listFailedOlderThan scans.rows table tenantId (timestamptz before)
    listReplayed := fun table tenantId since =>
      SqlxWebhookOutboxRepository.listReplayed scans.rows table tenantId (since.map timestamptz) }

end OutboxColumns

end Columns

inductive OutboxCall where
  | create (record : WebhookOutboxRecord)
  | get (id tenantId : Uuid)
  | listPending (tenantId : Uuid) (limit : Int64)
  | claim (now : DateTime) (id tenantId : Uuid) (lockedBy : String)
  | markDelivered (now : DateTime) (id tenantId : Uuid)
  | markFailed (now : DateTime) (id tenantId : Uuid) (lastError : String)
  | rescheduleRetry (now : DateTime) (id tenantId : Uuid) (lastError : String)
      (scheduledAt : DateTime)
  | listFailed (tenantId : Uuid) (limit : Int64)
  | replayFailed (now : DateTime) (id tenantId : Uuid) (replayedBy : Option String)
  | listFailedOlderThan (tenantId : Uuid) (before : DateTime) (limit : Int64)
  | listDistinctPendingTenants
  | listReplayed (tenantId : Uuid) (since : Option DateTime) (limit : Int64)
  | dlqStats (now : DateTime) (tenantId : Uuid)

inductive OutboxReply where
  | record (result : Except IntentRebaseError WebhookOutboxRecord)
  | records (result : OutboxListing)
  | tenants (result : Except IntentRebaseError (List Uuid))
  | stats (result : Except IntentRebaseError WebhookOutboxDlqStats)

inductive OutboxReply.Same : OutboxReply → OutboxReply → Prop
  | record {r r' : Except IntentRebaseError WebhookOutboxRecord} (h : SameResult r r') :
      Same (.record r) (.record r')
  | records {r r' : OutboxListing} (h : SameResult r r') : Same (.records r) (.records r')
  | tenants {r r' : Except IntentRebaseError (List Uuid)} (h : SameResult r r') :
      Same (.tenants r) (.tenants r')
  | stats {r r' : Except IntentRebaseError WebhookOutboxDlqStats} (h : SameResult r r') :
      Same (.stats r) (.stats r')

/-- An answer as the reply to a call. -/
def OutboxAnswer.reply {σ : Type} (answer : OutboxAnswer σ) : OutboxReply × σ :=
  (.record answer.1, answer.2)

/-- What a repository replies to a call, and its contents after it. -/
def OutboxCall.apply {σ : Type} (repo : WebhookOutboxRepository σ) (s : σ) :
    OutboxCall → OutboxReply × σ
  | .create record => OutboxAnswer.reply (repo.create s record)
  | .get id tenantId => (.record (repo.get s id tenantId), s)
  | .listPending tenantId limit => (.records (repo.listPending s tenantId limit), s)
  | .claim now id tenantId lockedBy =>
    OutboxAnswer.reply (repo.claim s now id tenantId lockedBy)
  | .markDelivered now id tenantId => OutboxAnswer.reply (repo.markDelivered s now id tenantId)
  | .markFailed now id tenantId lastError =>
    OutboxAnswer.reply (repo.markFailed s now id tenantId lastError)
  | .rescheduleRetry now id tenantId lastError scheduledAt =>
    OutboxAnswer.reply (repo.rescheduleRetry s now id tenantId lastError scheduledAt)
  | .listFailed tenantId limit => (.records (repo.listFailed s tenantId limit), s)
  | .replayFailed now id tenantId replayedBy =>
    OutboxAnswer.reply (repo.replayFailed s now id tenantId replayedBy)
  | .listFailedOlderThan tenantId before limit =>
    (.records (repo.listFailedOlderThan s tenantId before limit), s)
  | .listDistinctPendingTenants => (.tenants (repo.listDistinctPendingTenants s), s)
  | .listReplayed tenantId since limit => (.records (repo.listReplayed s tenantId since limit), s)
  | .dlqStats now tenantId => (.stats (repo.dlqStats s now tenantId), s)

def inMemoryOutboxCall (orders : OutboxOrders) (call : OutboxCall) (s : OutboxRecords) :
    OutboxReply × OutboxRecords :=
  call.apply (InMemoryWebhookOutboxRepository.repository orders.1) s

def sqlxOutboxCall (collation : Collation) (orders : OutboxOrders) (call : OutboxCall)
    (t : OutboxTable) : OutboxReply × OutboxTable :=
  call.apply (OutboxColumns.repository collation orders.2) t

/-- The records in memory after a call. -/
def OutboxCall.next (s : OutboxRecords) (call : OutboxCall) : OutboxRecords :=
  (call.apply (InMemoryWebhookOutboxRepository.repository (.id _)) s).2

/-- A change that reaches a record counts up no counter at the largest value, and the columns hold
its values as they are. -/
def ChangeFits (s : OutboxRecords) (id tenantId : Uuid) (required : Option WebhookOutboxStatus)
    (counters : WebhookOutboxRecord → List Int32) (fits : Prop) : Prop :=
  ∀ r, Reached (s.lookup id) tenantId required r → Int32.maxValue ∉ counters r ∧ fits

/-- The call does not reach a difference between the two repositories. -/
def OutboxCall.InStep (collation : Collation) (s : OutboxRecords) : OutboxCall → Prop
  | .create record => s.lookup record.id = none → record.Fits
  | .get .. => True
  | .listPending _ limit | .listFailed _ limit => 0 ≤ limit.toInt
  | .listFailedOlderThan tenantId before limit =>
    ListedAlike s limit OutboxFields.failedKey
      (fun r => r.tenantId = tenantId && r.status = .failed && r.updatedAt < before)
      (fun r => r.tenantId = tenantId && r.status = .failed && r.updatedAt < timestamptz before)
  | .listReplayed tenantId since limit =>
    ListedAlike s limit OutboxFields.replayedKey
      (fun r => r.tenantId = tenantId && r.isReplayed since)
      (fun r => r.tenantId = tenantId && r.isReplayed (since.map timestamptz))
  | .claim _ id tenantId lockedBy =>
    ChangeFits s id tenantId (some .pending) (fun r => [r.lockVersion])
      (containsNul lockedBy = false)
  | .markDelivered _ id tenantId =>
    ChangeFits s id tenantId none (fun r => [r.lockVersion]) True
  | .markFailed _ id tenantId lastError =>
    ChangeFits s id tenantId none (fun r => [r.lockVersion]) (containsNul lastError = false)
  | .rescheduleRetry _ id tenantId lastError scheduledAt =>
    ChangeFits s id tenantId none (fun r => [r.attemptCount, r.lockVersion])
      (containsNul lastError = false ∧ scheduledAt % 1000 = 0)
  | .replayFailed _ id tenantId replayedBy =>
    ChangeFits s id tenantId (some .failed) (fun r => [r.replayCount, r.lockVersion])
      (∀ text ∈ replayedBy, containsNul text = false)
  | .listDistinctPendingTenants => OnePendingTenant s
  | .dlqStats _ tenantId => SummarisedAlike collation (failedRecords s tenantId)

section Runs

variable {collation : Collation} {s : OutboxRecords} {t : OutboxTable}

/-- Storage errors are of one kind, whatever their texts. -/
theorem sameKind_storageError (text text' : String) :
    (IntentRebaseError.storageError text).SameKind (.storageError text') := rfl

namespace SameOutbox

/-- The creation agrees exactly if the identifier is stored, or the record fits the columns. -/
theorem create (h : SameOutbox s t) (record : WebhookOutboxRecord) :
    SameResult (InMemoryWebhookOutboxRepository.create s record).1
          (OutboxColumns.create t record).1 ∧
        SameOutbox (InMemoryWebhookOutboxRepository.create s record).2
          (OutboxColumns.create t record).2 ↔
      (s.lookup record.id = none → record.Fits) := by
  rw [← WebhookOutboxRecord.bind_eq_self, InMemoryWebhookOutboxRepository.create,
    OutboxColumns.create]
  cases hlookup : s.lookup record.id with
  | some r =>
    refine iff_of_true ?_ fun hnone => nomatch hnone
    cases hbind : record.bind with
    | error e => exact ⟨.error (sameKind_storageError _ _), h⟩
    | ok bound =>
      dsimp only
      rw [SqlxWebhookOutboxRepository.create, WebhookOutboxRecord.id_of_bind hbind, h.lookup,
        hlookup]
      exact ⟨.error (sameKind_storageError _ _), h⟩
  | none =>
    simp only [true_imp_iff]
    cases hbind : record.bind with
    | error e => exact iff_of_false (fun hsame => nomatch hsame.1) fun hok => nomatch hok
    | ok bound =>
      have hid := WebhookOutboxRecord.id_of_bind hbind
      dsimp only
      rw [SqlxWebhookOutboxRepository.create, hid, h.lookup, hlookup]
      dsimp only [Option.map_none]
      constructor
      · rintro ⟨-, hcontents⟩
        have hnew := hcontents.lookup record.id
        rw [lookup_insert_eq, if_pos rfl, lookup_insert_eq, if_pos rfl] at hnew
        have hread := congrArg mapRow (Option.some.inj hnew)
        rw [mapRow_ofRecord, mapRow_ofRecord] at hread
        exact congrArg Except.ok (Except.ok.inj hread)
      · intro hok
        obtain rfl := Except.ok.inj hok
        exact ⟨.ok bound, h.insert bound.id rfl⟩

/-- A change for which values are bound agrees exactly if it fits, where it does with the values as
they are given, and where one that they do not fit is refused. -/
theorem changeFits_iff (h : SameOutbox s t) {id tenantId : Uuid}
    {required : Option WebhookOutboxStatus} {change : WebhookOutboxRecord → WebhookOutboxRecord}
    {counters : WebhookOutboxRecord → List Int32} {fits : Prop} {answer : OutboxAnswer OutboxTable}
    (hfits : fits → ChangedAlike (CountsUp s id tenantId required counters)
      (InMemoryWebhookOutboxRepository.modify s id tenantId required change) answer)
    (hreached : ∀ r, Reached (s.lookup id) tenantId required r → ¬ fits →
      ¬ SameResult (.ok (change r)) answer.1)
    (hunreached : (∀ r, ¬ Reached (s.lookup id) tenantId required r) → ¬ fits →
      ∃ text, answer = (.error (.storageError text), t)) :
    SameResult (InMemoryWebhookOutboxRepository.modify s id tenantId required change).1 answer.1 ∧
        SameOutbox (InMemoryWebhookOutboxRepository.modify s id tenantId required change).2
          answer.2 ↔
      ChangeFits s id tenantId required counters fits := by
  by_cases hfit : fits
  · obtain ⟨hsame, hcontents⟩ := hfits hfit
    have hcounts : ChangeFits s id tenantId required counters fits ↔
        CountsUp s id tenantId required counters :=
      ⟨fun hall r hr => (hall r hr).1, fun hall r hr => ⟨hall r hr, hfit⟩⟩
    rw [hcounts]
    exact ⟨fun hboth => hsame.mp hboth.1, fun hall => ⟨hsame.mpr hall, hcontents hall⟩⟩
  by_cases hreach : ∃ r, Reached (s.lookup id) tenantId required r
  · obtain ⟨r, hr⟩ := hreach
    rw [InMemoryWebhookOutboxRepository.modify_reached hr]
    exact iff_of_false (fun hboth => hreached r hr hfit hboth.1) fun hall => hfit (hall r hr).2
  · have hnone : ∀ r, ¬ Reached (s.lookup id) tenantId required r := fun r hr => hreach ⟨r, hr⟩
    obtain ⟨text, rfl⟩ := hunreached hnone hfit
    obtain ⟨text', hmodify⟩ := InMemoryWebhookOutboxRepository.modify_unreached change hnone
    rw [hmodify]
    exact iff_of_true ⟨.error (sameKind_storageError _ _), h⟩ fun r hr => absurd hr (hnone r)

/-- The case of a value that is taken as it is, or refused. -/
theorem bound (h : SameOutbox s t) (what : String) {id tenantId : Uuid}
    {required : Option WebhookOutboxStatus} {change : WebhookOutboxRecord → WebhookOutboxRecord}
    {counters : WebhookOutboxRecord → List Int32} {fits : Prop} {α : Type}
    {value : Except String α} {given : α} (hvalue : ∀ v, value = .ok v ↔ fits ∧ v = given)
    {statement : α → OutboxAnswer OutboxTable}
    (hsame : ChangedAlike (CountsUp s id tenantId required counters)
      (InMemoryWebhookOutboxRepository.modify s id tenantId required change) (statement given)) :
    SameResult (InMemoryWebhookOutboxRepository.modify s id tenantId required change).1
          (OutboxColumns.bound t what value statement).1 ∧
        SameOutbox (InMemoryWebhookOutboxRepository.modify s id tenantId required change).2
          (OutboxColumns.bound t what value statement).2 ↔
      ChangeFits s id tenantId required counters fits := by
  have hrefused : ¬ fits → ∃ text,
      OutboxColumns.bound t what value statement = (.error (.storageError text), t) := by
    intro hfit
    cases value with
    | error e => exact ⟨_, rfl⟩
    | ok v => exact absurd ((hvalue v).mp rfl).1 hfit
  refine h.changeFits_iff (fun hfit => ?_) (fun r _ hfit hresult => ?_) fun _ hfit => hrefused hfit
  · obtain rfl := (hvalue given).mpr ⟨hfit, rfl⟩
    exact hsame
  · obtain ⟨text, heq⟩ := hrefused hfit
    rw [heq] at hresult
    cases hresult

/-- A rescheduled record is due when the statement says. -/
theorem rescheduleRetry_scheduledAt {now : DateTime} {id tenantId : Uuid} {lastError : String}
    {scheduledAt : DateTime} {record : WebhookOutboxRecord}
    (hok : (SqlxWebhookOutboxRepository.rescheduleRetry t now id tenantId lastError
      scheduledAt).1 = .ok record) : record.scheduledAt = scheduledAt := by
  rw [SqlxWebhookOutboxRepository.rescheduleRetry,
    SqlxWebhookOutboxRepository.updateReturning] at hok
  split at hok
  · cases hok
  split at hok
  · cases hok
  next row hset =>
  obtain ⟨attemptCount, -, hset⟩ := Option.bind_eq_some_iff.mp hset
  obtain ⟨lockVersion, -, hset⟩ := Option.bind_eq_some_iff.mp hset
  obtain rfl := Option.some.inj hset
  obtain ⟨status, -, hrecord⟩ := bind_eq_ok.mp hok
  obtain rfl := Except.ok.inj hrecord
  rfl

/-- A retry agrees exactly if it fits: the text is taken, and the time is in whole microseconds. -/
theorem rescheduleRetry (h : SameOutbox s t) (now : DateTime) (id tenantId : Uuid)
    (lastError : String) (scheduledAt : DateTime) :
    SameResult (InMemoryWebhookOutboxRepository.rescheduleRetry s now id tenantId lastError
            scheduledAt).1
          (OutboxColumns.rescheduleRetry t now id tenantId lastError scheduledAt).1 ∧
        SameOutbox (InMemoryWebhookOutboxRepository.rescheduleRetry s now id tenantId lastError
            scheduledAt).2
          (OutboxColumns.rescheduleRetry t now id tenantId lastError scheduledAt).2 ↔
      ChangeFits s id tenantId none (fun r => [r.attemptCount, r.lockVersion])
        (containsNul lastError = false ∧ scheduledAt % 1000 = 0) := by
  refine h.changeFits_iff ?_ ?_ ?_
  · rintro ⟨htext, htime⟩
    rw [OutboxColumns.rescheduleRetry, textColumn_ok.mpr ⟨htext, rfl⟩,
      timestamptz_eq_self.mpr htime]
    exact rescheduleRetry_same h now id tenantId lastError scheduledAt
  · intro r _ hfit hsame
    rw [OutboxColumns.rescheduleRetry] at hsame
    cases htext : textColumn lastError with
    | error e =>
      rw [htext] at hsame
      cases hsame
    | ok text =>
      rw [htext, OutboxColumns.bound] at hsame
      generalize hanswer : (SqlxWebhookOutboxRepository.rescheduleRetry t now id tenantId text
        (timestamptz scheduledAt)).1 = answer at hsame
      cases hsame
      exact hfit ⟨(textColumn_ok.mp htext).1,
        timestamptz_eq_self.mp (rescheduleRetry_scheduledAt hanswer).symm⟩
  · intro hreach _
    rw [OutboxColumns.rescheduleRetry]
    cases htext : textColumn lastError with
    | error e => exact ⟨_, rfl⟩
    | ok text =>
      rw [OutboxColumns.bound, SqlxWebhookOutboxRepository.rescheduleRetry,
        SqlxWebhookOutboxRepository.updateReturning, h.find_eq_none no_condition hreach]
      exact ⟨_, rfl⟩

theorem get (h : SameOutbox s t) (id tenantId : Uuid) :
    SameResult (InMemoryWebhookOutboxRepository.get s id tenantId)
      (SqlxWebhookOutboxRepository.get t id tenantId) := by
  rw [InMemoryWebhookOutboxRepository.get, SqlxWebhookOutboxRepository.get,
    SqlxWebhookOutboxRepository.find, h.lookup]
  cases s.lookup id with
  | none =>
    rw [Option.map_none, Option.filter_none]
    exact .error (sameKind_storageError _ _)
  | some r =>
    have htenant : (OutboxRow.ofRecord r).tenantId = r.tenantId := rfl
    simp only [Option.map_some, Option.filter_some, htenant, Bool.and_true, decide_eq_true_eq]
    by_cases hsame : r.tenantId = tenantId
    · simp only [hsame, ne_eq, not_true, if_true, if_false, mapRow_ofRecord]
      exact .ok r
    · simp only [hsame, ne_eq, not_false_eq_true, if_true, if_false]
      exact .error (sameKind_storageError _ _)

end SameOutbox

namespace OutboxReply

variable {r r' : Except IntentRebaseError WebhookOutboxRecord} {rs rs' : OutboxListing}

theorem sameRecord_iff : Same (.record r) (.record r') ↔ SameResult r r' :=
  ⟨fun h => by cases h; assumption, .record⟩

theorem sameRecords_iff : Same (.records rs) (.records rs') ↔ SameResult rs rs' :=
  ⟨fun h => by cases h; assumption, .records⟩

theorem sameTenants_iff {ts ts' : Except IntentRebaseError (List Uuid)} :
    Same (.tenants ts) (.tenants ts') ↔ SameResult ts ts' :=
  ⟨fun h => by cases h; assumption, .tenants⟩

theorem sameStats_iff {x x' : Except IntentRebaseError WebhookOutboxDlqStats} :
    Same (.stats x) (.stats x') ↔ SameResult x x' :=
  ⟨fun h => by cases h; assumption, .stats⟩

end OutboxReply

instance : Nonempty OutboxOrders := ⟨.id _, .id _, .id _, .id _⟩

/-- The answers to a change, which do not depend on the orders, as replies. -/
theorem reply_same {answer : OutboxAnswer OutboxRecords} {answer' : OutboxAnswer OutboxTable}
    {condition : Prop}
    (h : SameResult answer.1 answer'.1 ∧ SameOutbox answer.2 answer'.2 ↔ condition) :
    (∀ _ : OutboxOrders, OutboxReply.Same answer.reply.1 answer'.reply.1) ∧
        SameOutbox answer.reply.2 answer'.reply.2 ↔ condition :=
  (and_congr_left' ((forall_const _).trans OutboxReply.sameRecord_iff)).trans h

/-- Some orders. -/
def OutboxOrders.default : OutboxOrders := (.id _, ⟨.id _, .id _, .id _⟩)

/-- The replies to a call are the same, whatever the orders, and it leaves the same contents,
exactly if it is in step. -/
theorem outboxCall_same (h : SameOutbox s t) (call : OutboxCall) :
    (∀ orders, OutboxReply.Same (inMemoryOutboxCall orders call s).1
          (sqlxOutboxCall collation orders call t).1) ∧
        SameOutbox (call.next s) (sqlxOutboxCall collation .default call t).2 ↔
      call.InStep collation s := by
  cases call with
  | create record => exact reply_same (h.create record)
  | get id tenantId => exact iff_of_true ⟨fun _ => .record (h.get id tenantId), h⟩ trivial
  | listPending tenantId limit =>
    refine (and_iff_left h).trans ((forall_congr' fun orders => ?_).trans (forall_const _))
    exact OutboxReply.sameRecords_iff.trans (h.listing orders.1 orders.2.rows _ limit pendingKey_id
      fun r => congrArg _ (decide_status .pending r))
  | claim now id tenantId lockedBy =>
    exact reply_same (h.bound _ (fun _ => textColumn_ok) (claim_same h now id tenantId lockedBy))
  | markDelivered now id tenantId =>
    refine reply_same (h.changeFits_iff (fun _ => markDelivered_same h now id tenantId) ?_ ?_)
    · exact fun _ _ hfit => absurd trivial hfit
    · exact fun _ hfit => absurd trivial hfit
  | markFailed now id tenantId lastError =>
    exact reply_same (h.bound _ (fun _ => textColumn_ok)
      (markFailed_same h now id tenantId lastError))
  | rescheduleRetry now id tenantId lastError scheduledAt =>
    exact reply_same (h.rescheduleRetry now id tenantId lastError scheduledAt)
  | replayFailed now id tenantId replayedBy =>
    exact reply_same (h.bound _ (fun _ => nullableText_ok)
      (replayFailed_same h now id tenantId replayedBy))
  | listFailed tenantId limit =>
    refine (and_iff_left h).trans ((forall_congr' fun orders => ?_).trans (forall_const _))
    exact OutboxReply.sameRecords_iff.trans (h.listing orders.1 orders.2.rows _ limit failedKey_id
      fun r => congrArg _ (decide_status .failed r))
  | listFailedOlderThan tenantId before limit =>
    refine (and_iff_left h).trans ((forall_congr' fun orders => ?_).trans (forall_const _))
    exact OutboxReply.sameRecords_iff.trans (h.listing_iff orders.1 orders.2.rows _ limit
      failedKey_id fun r => congrArg (fun b => decide _ && b && decide _) (decide_status .failed r))
  | listReplayed tenantId since limit =>
    refine (and_iff_left h).trans ((forall_congr' fun orders => ?_).trans (forall_const _))
    exact OutboxReply.sameRecords_iff.trans
      (h.listing_iff orders.1 orders.2.rows _ limit replayedKey_id fun _ => rfl)
  | listDistinctPendingTenants =>
    exact (and_iff_left h).trans ((forall_congr' fun _ => OutboxReply.sameTenants_iff).trans
      h.listDistinctPendingTenants)
  | dlqStats now tenantId =>
    exact (and_iff_left h).trans ((forall_congr' fun _ => OutboxReply.sameStats_iff).trans
      (h.dlqStats now tenantId))

theorem inMemoryOutboxCall_next (orders : OutboxOrders) (call : OutboxCall) (s : OutboxRecords) :
    (inMemoryOutboxCall orders call s).2 = call.next s := by
  cases call <;> rfl

theorem sqlxOutboxCall_state (orders orders' : OutboxOrders) (call : OutboxCall) (t : OutboxTable) :
    (sqlxOutboxCall collation orders call t).2 = (sqlxOutboxCall collation orders' call t).2 := by
  cases call <;> simp only [sqlxOutboxCall, OutboxCall.apply, OutboxColumns.repository,
    SqlxWebhookOutboxRepository.repository]

/-- The in-memory and the SQL outbox cannot be told apart by any part of a sequence of calls from
its start. -/
def OutboxesInterchangeable (collation : Collation) (s : OutboxRecords) (t : OutboxTable)
    (calls : List OutboxCall) : Prop :=
  ∀ before, before <+: calls →
    Agree inMemoryOutboxCall (sqlxOutboxCall collation) OutboxReply.Same SameOutbox s t before

/-- From the same contents the repositories give the same replies and have the same contents up to
every call of a sequence, whatever the orders in which they read, exactly if every call of it is in
step. -/
theorem outboxRepositories_agree_iff (collation : Collation) (s : OutboxRecords) (t : OutboxTable)
    (h : SameOutbox s t) (calls : List OutboxCall) :
    OutboxesInterchangeable collation s t calls ↔
      AllSteps OutboxCall.next (OutboxCall.InStep collation) s calls := by
  have hright := fun orders => @sqlxOutboxCall_state collation orders .default
  refine agree_prefixes_iff_of_state SameOutbox inMemoryOutboxCall_next hright ?_ ?_
    (fun _ _ h => h) h calls
  · exact fun call h => outboxCall_same h call
  · exact fun _ _ hcontents _ => hcontents

theorem sameOutbox_empty : SameOutbox ∅ ∅ where
  lookup := fun _ => rfl
  keyed := fun _ _ h => nomatch h

def WebhookOutboxRecord.sample : WebhookOutboxRecord :=
  .new 0 1 2 3 4 "intent_changed" .null (some "https://example.com/webhook")

/-- A record that is created, listed, claimed and delivered looks the same in both. -/
theorem outboxRepositories_agree_sample :
    OutboxesInterchangeable .bytes ∅ ∅
      [.create .sample, .listPending 2 10, .listDistinctPendingTenants, .claim 5 1 2 "worker",
        .markDelivered 6 1 2] := by
  refine (outboxRepositories_agree_iff .bytes ∅ ∅ sameOutbox_empty _).mpr
    ⟨?_, ?_, ?_, ?_, ?_, trivial⟩
  · intro _
    exact {
      eventType := by decide
      payload := rfl
      webhookUrl := fun _ hurl => Option.some.inj hurl ▸ by decide
      lockedBy := fun _ hnone => nomatch hnone
      lastError := fun _ hnone => nomatch hnone
      replayedBy := fun _ hnone => nomatch hnone
      versionHash := fun _ hnone => nomatch hnone
      scheduledAt := rfl
      lockedAt := fun _ hnone => nomatch hnone
      deliveredAt := fun _ hnone => nomatch hnone
      replayedAt := fun _ hnone => nomatch hnone
      createdAt := rfl
      updatedAt := rfl }
  · change (0 : Int) ≤ (10 : Int64).toInt
    decide
  · have hstored : ∀ id r, ((∅ : OutboxRecords).insert 1 .sample).lookup id = some r →
        r = WebhookOutboxRecord.sample := by
      intro id r hr
      rw [lookup_insert_eq] at hr
      split at hr
      · exact (Option.some.inj hr).symm
      · cases hr
    intro id r id' r' hr hr' _ _
    rw [hstored id r hr, hstored id' r' hr']
  · intro r hr
    obtain rfl : WebhookOutboxRecord.sample = r := Option.some.inj hr.found
    exact ⟨by decide, by decide⟩
  · intro r hr
    obtain rfl : WebhookOutboxRecord.sample.claim 5 "worker" = r := Option.some.inj hr.found
    exact ⟨by decide, trivial⟩

/-- A negative limit lists everything in memory and is refused in SQL. -/
theorem outboxRepositories_differ :
    ¬ ∀ (s : OutboxRecords) (t : OutboxTable), SameOutbox s t → ∀ calls : List OutboxCall,
      Agree inMemoryOutboxCall (sqlxOutboxCall .bytes) OutboxReply.Same SameOutbox s t calls := by
  intro h
  have hagree := h ∅ ∅ sameOutbox_empty [.listPending 2 (-1)] fun _ => .default
  have hreply := (List.forall₂_cons.mp hagree.1).1
  cases OutboxReply.sameRecords_iff.mp hreply

end Runs

end IntentRebase
