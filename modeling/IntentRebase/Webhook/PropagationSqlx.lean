import IntentRebase.Kit.Ownership
import IntentRebase.Types.Column
import IntentRebase.Webhook.OutboxSqlx
import IntentRebase.Webhook.Propagation

/-! The SQL repository of propagation records, statement by statement, and what it and the in-memory
repository promise of the records. -/

namespace IntentRebase

open Kit

/-- `format!("{:?}", status).to_lowercase()` -/
def PropagationStatus.lowercase : PropagationStatus → String
  | .pending => "pending"
  | .acknowledged => "acknowledged"
  | .failed => "failed"

/-- A row of `propagation_records`. -/
structure PropagationRow where
  id : Uuid
  tenantId : Uuid
  intentId : Uuid
  downstreamSystemId : String
  status : String
  lastSeenVersion : Int32
  signaledAt : DateTime
  acknowledgedAt : Option DateTime
  failedAt : Option DateTime
  failureReason : Option String
  deliveryAttemptCount : Int32
  lastDeliveryAttemptAt : Option DateTime
  lockVersion : Int32
  createdAt : DateTime
  updatedAt : DateTime

def mapRowToRecord (row : PropagationRow) : PropagationRecord where
  id := row.id
  tenantId := row.tenantId
  intentId := row.intentId
  downstreamSystemId := row.downstreamSystemId
  status :=
    match row.status with
    | "acknowledged" => .acknowledged
    | "failed" => .failed
    | _ => .pending
  lastSeenVersion := row.lastSeenVersion
  signaledAt := row.signaledAt
  acknowledgedAt := row.acknowledgedAt
  failedAt := row.failedAt
  failureReason := row.failureReason
  deliveryAttemptCount := row.deliveryAttemptCount
  lastDeliveryAttemptAt := row.lastDeliveryAttemptAt
  lockVersion := row.lockVersion
  createdAt := row.createdAt
  updatedAt := row.updatedAt

/-- The row that an insertion binds. A missing reason is bound as an empty one. -/
def PropagationRow.ofRecord (r : PropagationRecord) : PropagationRow where
  id := r.id
  tenantId := r.tenantId
  intentId := r.intentId
  downstreamSystemId := r.downstreamSystemId
  status := r.status.lowercase
  lastSeenVersion := r.lastSeenVersion
  signaledAt := timestamptz r.signaledAt
  acknowledgedAt := r.acknowledgedAt.map timestamptz
  failedAt := r.failedAt.map timestamptz
  failureReason := some (r.failureReason.getD "")
  deliveryAttemptCount := r.deliveryAttemptCount
  lastDeliveryAttemptAt := r.lastDeliveryAttemptAt.map timestamptz
  lockVersion := r.lockVersion
  createdAt := timestamptz r.createdAt
  updatedAt := timestamptz r.updatedAt

/-- The rows of `propagation_records` by their primary key. -/
abbrev PropagationTable := HashMap Uuid PropagationRow

namespace SqlxPropagationRecordRepository

variable (scan : IterOrder PropagationRow) (table : PropagationTable)

/-- `UNIQUE(tenant_id, intent_id, downstream_system_id)` -/
def taken (row : PropagationRow) : Bool :=
  (pairs table).any fun (_, other) => other.tenantId == row.tenantId &&
    other.intentId == row.intentId && other.downstreamSystemId == row.downstreamSystemId

def createRecord (record : PropagationRecord) : PropagationAnswer PropagationTable :=
  let row := PropagationRow.ofRecord record
  let fails (e : String) : PropagationAnswer PropagationTable :=
    (.error (.storageError s!"Failed to create propagation record: {e}"), table)
  if containsNul record.downstreamSystemId || containsNul (record.failureReason.getD "") then
    fails "invalid byte sequence for encoding \"UTF8\": 0x00"
  else if (table.lookup row.id).isSome || taken table row then
    fails "duplicate key value violates unique constraint"
  else (.ok (mapRowToRecord row), table.insert row.id row)

def notFound (id : Uuid) : IntentRebaseError :=
  .storageError s!"Propagation record not found: {id.display}"

def getRecord (id tenantId : Uuid) : Except IntentRebaseError PropagationRecord :=
  match (table.lookup id).filter fun row => row.tenantId = tenantId with
  | some row => .ok (mapRowToRecord row)
  | none => .error (notFound id)

/-- The rows of an intent, the one updated last first, and in any order among rows of one time. -/
def listByIntent (intentId tenantId : Uuid) : Except IntentRebaseError (List PropagationRecord) :=
  let rows := (scan.apply ((pairs table).map Prod.snd)).filter fun row =>
    row.intentId = intentId && row.tenantId = tenantId
  .ok ((orderBy (fun row => OrderDual.toDual row.updatedAt) rows).map mapRowToRecord)

/-- `UPDATE … SET … WHERE id AND tenant_id RETURNING …` -/
def update (what : String) (id tenantId : Uuid)
    (set : PropagationRow → Except String PropagationRow) : PropagationAnswer PropagationTable :=
  match (table.lookup id).filter fun row => row.tenantId = tenantId with
  | none => (.error (notFound id), table)
  | some row =>
    match set row with
    | .error e => (.error (.storageError s!"{what}: {e}"), table)
    | .ok row => (.ok (mapRowToRecord row), table.insert id row)

/-- `column + 1` -/
def succ (n : Int32) : Except String Int32 :=
  match int4Succ n with
  | some n => .ok n
  | none => .error "integer out of range"

def updateStatus (now : DateTime) (id tenantId : Uuid) (status : PropagationStatus)
    (lastSeenVersion : Int32) : PropagationAnswer PropagationTable :=
  update table "Failed to update propagation record" id tenantId fun row =>
    (succ row.lockVersion).map fun lockVersion =>
      { row with
        status := status.lowercase
        lastSeenVersion := lastSeenVersion
        acknowledgedAt := if status = .acknowledged then some (timestamptz now) else none
        failedAt := if status = .failed then some (timestamptz now) else none
        updatedAt := timestamptz now
        lockVersion := lockVersion }

def recordDeliveryAttempt (now : DateTime) (id tenantId : Uuid) :
    PropagationAnswer PropagationTable :=
  update table "Failed to record delivery attempt" id tenantId fun row => do
    let deliveryAttemptCount ← succ row.deliveryAttemptCount
    let lockVersion ← succ row.lockVersion
    return { row with
      deliveryAttemptCount
      lastDeliveryAttemptAt := some (timestamptz now)
      updatedAt := timestamptz now
      lockVersion }

def recordDeliveryOutcome (now : DateTime) (id tenantId : Uuid) (status : PropagationStatus)
    (failureReason : Option String) : PropagationAnswer PropagationTable :=
  let what := "Failed to record delivery outcome"
  if containsNul (failureReason.getD "") then
    (.error (.storageError s!"{what}: invalid byte sequence for encoding \"UTF8\": 0x00"), table)
  else
    update table what id tenantId fun row =>
      (succ row.lockVersion).map fun lockVersion =>
        { row with
          status := status.lowercase
          acknowledgedAt := if status = .acknowledged then some (timestamptz now) else none
          failedAt := if status = .failed then some (timestamptz now) else none
          failureReason := some (failureReason.getD "")
          updatedAt := timestamptz now
          lockVersion := lockVersion }

def repository : PropagationRecordRepository PropagationTable where
  createRecord := createRecord
  getRecord := getRecord
  listByIntent := listByIntent scan
  updateStatus := updateStatus
  recordDeliveryAttempt := recordDeliveryAttempt
  recordDeliveryOutcome := recordDeliveryOutcome

end SqlxPropagationRecordRepository

section Laws

variable {ρ : Type}

/-- The records that a repository holds. -/
abbrev PropagationView := Uuid → Option PropagationRecord

/-- A call leaves the records, or it changes the one under an identifier, which stays that of its
downstream system. -/
def Rewrites (view : ρ → PropagationView) (s s' : ρ) (id : Uuid)
    (change : PropagationRecord → PropagationRecord → Prop) : Prop :=
  view s' = view s ∨ ∃ r r', view s id = some r ∧ view s' = Function.update (view s) id (some r') ∧
    (r'.tenantId = r.tenantId ∧ r'.intentId = r.intentId ∧
      r'.downstreamSystemId = r.downstreamSystemId) ∧ change r r'

/-- What the calls write into the status and the version of a record. -/
structure PropagationLaws (repo : PropagationRecordRepository ρ) (view : ρ → PropagationView) :
    Prop where
  updateStatus : ∀ s now id tenantId status version,
    Rewrites view s (repo.updateStatus s now id tenantId status version).2 id
      fun _ r' => r'.status = status ∧ r'.lastSeenVersion = version
  recordDeliveryAttempt : ∀ s now id tenantId,
    Rewrites view s (repo.recordDeliveryAttempt s now id tenantId).2 id
      fun r r' => r'.status = r.status ∧ r'.lastSeenVersion = r.lastSeenVersion
  recordDeliveryOutcome : ∀ s now id tenantId status failureReason,
    Rewrites view s (repo.recordDeliveryOutcome s now id tenantId status failureReason).2 id
      fun r r' => r'.status = status ∧ r'.lastSeenVersion = r.lastSeenVersion

/-- Nothing but the tenant's records differs. -/
abbrev RecordsChangeOnlyOf (tenantId : Uuid) : PropagationView → PropagationView → Prop :=
  ViewChangesOnly fun r => r.tenantId = tenantId

/-- Each write changes records of the tenant that it names only. -/
structure OwnWrites (repo : PropagationRecordRepository ρ) (view : ρ → PropagationView) : Prop where
  updateStatus : ∀ s now id tenantId status version, RecordsChangeOnlyOf tenantId (view s)
    (view (repo.updateStatus s now id tenantId status version).2)
  recordDeliveryAttempt : ∀ s now id tenantId, RecordsChangeOnlyOf tenantId (view s)
    (view (repo.recordDeliveryAttempt s now id tenantId).2)
  recordDeliveryOutcome : ∀ s now id tenantId status failureReason,
    RecordsChangeOnlyOf tenantId (view s)
      (view (repo.recordDeliveryOutcome s now id tenantId status failureReason).2)

/-- A call that finds no record of the tenant, and else rewrites it, changes its records only. -/
theorem Rewrites.changesOnly {view : ρ → PropagationView} {s s' : ρ} {id tenantId : Uuid}
    {change : PropagationRecord → PropagationRecord → Prop} (h : Rewrites view s s' id change)
    (hforeign : ∀ r, view s id = some r → r.tenantId ≠ tenantId → s' = s) :
    RecordsChangeOnlyOf tenantId (view s) (view s') := by
  rcases h with hsame | ⟨r, r', hlookup, hupdate, ⟨htenant, -⟩, -⟩
  · rw [hsame]
    exact .refl _ _
  · by_cases howned : r.tenantId = tenantId
    · rw [hupdate]
      exact .update hlookup howned (htenant.trans howned)
    · rw [hforeign r hlookup howned]
      exact .refl _ _

end Laws

namespace InMemoryPropagationRecordRepository

def view (s : PropagationStore) : PropagationView := s.records.lookup

theorem modify_rewrites (s : PropagationStore) (id tenantId : Uuid)
    {change : PropagationRecord → PropagationRecord}
    {allowed : PropagationRecord → PropagationRecord → Prop}
    (hplace : ∀ r, (change r).tenantId = r.tenantId ∧ (change r).intentId = r.intentId ∧
      (change r).downstreamSystemId = r.downstreamSystemId)
    (hallowed : ∀ r, allowed r (change r)) :
    Rewrites view s (modify s id tenantId change).2 id allowed := by
  unfold modify getRecord
  cases hfound : (s.records.lookup id).filter fun r => r.tenantId = tenantId with
  | none => exact .inl rfl
  | some r =>
    have hlookup := (Option.filter_eq_some_iff.mp hfound).1
    refine .inr ⟨r, change r, hlookup, ?_, hplace r, hallowed r⟩
    funext k
    simp only [view, lookup_insert_eq, Function.update_apply]

theorem laws : PropagationLaws repository view where
  updateStatus s _ id tenantId _ _ :=
    modify_rewrites s id tenantId (fun _ => ⟨rfl, rfl, rfl⟩) fun _ => ⟨rfl, rfl⟩
  recordDeliveryAttempt s _ id tenantId :=
    modify_rewrites s id tenantId (fun _ => ⟨rfl, rfl, rfl⟩) fun _ => ⟨rfl, rfl⟩
  recordDeliveryOutcome s _ id tenantId _ _ :=
    modify_rewrites s id tenantId (fun _ => ⟨rfl, rfl, rfl⟩) fun _ => ⟨rfl, rfl⟩

theorem modify_foreign {s : PropagationStore} {id tenantId : Uuid}
    {change : PropagationRecord → PropagationRecord} (r : PropagationRecord)
    (hr : view s id = some r) (hforeign : r.tenantId ≠ tenantId) :
    (modify s id tenantId change).2 = s := by
  have hlookup : s.records.lookup id = some r := hr
  have hnone : (some r).filter (fun r => r.tenantId = tenantId) = none := by simp [hforeign]
  unfold modify getRecord
  rw [hlookup, hnone]

theorem ownWrites : OwnWrites repository view where
  updateStatus s now id tenantId status version :=
    (laws.updateStatus s now id tenantId status version).changesOnly modify_foreign
  recordDeliveryAttempt s now id tenantId :=
    (laws.recordDeliveryAttempt s now id tenantId).changesOnly modify_foreign
  recordDeliveryOutcome s now id tenantId status failureReason :=
    (laws.recordDeliveryOutcome s now id tenantId status failureReason).changesOnly modify_foreign

end InMemoryPropagationRecordRepository

namespace SqlxPropagationRecordRepository

def view (table : PropagationTable) : PropagationView :=
  fun id => (table.lookup id).map mapRowToRecord

/-- The status that a row is given reads back. -/
theorem mapRowToRecord_status {row : PropagationRow} {status : PropagationStatus}
    (h : row.status = status.lowercase) : (mapRowToRecord row).status = status := by
  unfold mapRowToRecord
  rw [h]
  cases status <;> rfl

theorem update_rewrites (table : PropagationTable) (what : String) (id tenantId : Uuid)
    {set : PropagationRow → Except String PropagationRow}
    {allowed : PropagationRecord → PropagationRecord → Prop}
    (hset : ∀ row row', set row = .ok row' → (row'.tenantId = row.tenantId ∧
      row'.intentId = row.intentId ∧ row'.downstreamSystemId = row.downstreamSystemId) ∧
        allowed (mapRowToRecord row) (mapRowToRecord row')) :
    Rewrites view table (update table what id tenantId set).2 id allowed := by
  unfold update
  cases hfound : (table.lookup id).filter fun row => row.tenantId = tenantId with
  | none => exact .inl rfl
  | some row =>
    have hlookup := (Option.filter_eq_some_iff.mp hfound).1
    cases hrow : set row with
    | error e => exact .inl (by simp only [hrow])
    | ok row' =>
      obtain ⟨hplace, hallowed⟩ := hset row row' hrow
      refine .inr ⟨mapRowToRecord row, mapRowToRecord row', ?_, ?_, hplace, hallowed⟩
      · rw [view, hlookup, Option.map_some]
      · funext k
        simp only [hrow, view, lookup_insert_eq, Function.update_apply]
        split <;> rfl

theorem laws (scan : IterOrder PropagationRow) : PropagationLaws (repository scan) view where
  updateStatus table now id tenantId status version := by
    refine update_rewrites table _ id tenantId fun row row' hset => ?_
    cases hlock : succ row.lockVersion with
    | error e =>
      rw [hlock] at hset
      cases hset
    | ok lockVersion =>
      rw [hlock] at hset
      cases hset
      exact ⟨⟨rfl, rfl, rfl⟩, mapRowToRecord_status rfl, rfl⟩
  recordDeliveryAttempt table now id tenantId := by
    refine update_rewrites table _ id tenantId fun row row' hset => ?_
    cases hcount : succ row.deliveryAttemptCount with
    | error e =>
      rw [hcount] at hset
      cases hset
    | ok count =>
      cases hlock : succ row.lockVersion with
      | error e =>
        rw [hcount, hlock] at hset
        cases hset
      | ok lockVersion =>
        rw [hcount, hlock] at hset
        cases hset
        exact ⟨⟨rfl, rfl, rfl⟩, rfl, rfl⟩
  recordDeliveryOutcome table now id tenantId status failureReason := by
    change Rewrites view table (recordDeliveryOutcome table now id tenantId status failureReason).2
      id _
    unfold recordDeliveryOutcome
    split
    · exact .inl rfl
    · refine update_rewrites table _ id tenantId fun row row' hset => ?_
      cases hlock : succ row.lockVersion with
      | error e =>
        rw [hlock] at hset
        cases hset
      | ok lockVersion =>
        rw [hlock] at hset
        cases hset
        exact ⟨⟨rfl, rfl, rfl⟩, mapRowToRecord_status rfl, rfl⟩

theorem update_foreign {table : PropagationTable} {what : String} {id tenantId : Uuid}
    {set : PropagationRow → Except String PropagationRow} (r : PropagationRecord)
    (hr : view table id = some r) (hforeign : r.tenantId ≠ tenantId) :
    (update table what id tenantId set).2 = table := by
  obtain ⟨row, hlookup, rfl⟩ := Option.map_eq_some_iff.mp hr
  have hnone : (some row).filter (fun row => row.tenantId = tenantId) = none := by
    have hrow : row.tenantId ≠ tenantId := hforeign
    simp [hrow]
  unfold update
  rw [hlookup, hnone]

theorem ownWrites (scan : IterOrder PropagationRow) : OwnWrites (repository scan) view where
  updateStatus table now id tenantId status version :=
    ((laws scan).updateStatus table now id tenantId status version).changesOnly update_foreign
  recordDeliveryAttempt table now id tenantId :=
    ((laws scan).recordDeliveryAttempt table now id tenantId).changesOnly update_foreign
  recordDeliveryOutcome table now id tenantId status failureReason := by
    refine ((laws scan).recordDeliveryOutcome table now id tenantId status
      failureReason).changesOnly fun r hr hforeign => ?_
    change (recordDeliveryOutcome table now id tenantId status failureReason).2 = table
    unfold recordDeliveryOutcome
    split
    · rfl
    · exact update_foreign r hr hforeign

end SqlxPropagationRecordRepository

end IntentRebase
