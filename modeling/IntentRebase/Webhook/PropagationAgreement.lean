import IntentRebase.Compensation.RepositoryAgreement
import IntentRebase.Kit.Agreement
import IntentRebase.Webhook.PropagationSqlx

/-! The in-memory and the SQL repository of propagation records, call by call. The insertion and the
outcome of a delivery bind an empty text for a missing reason, so the table has a reason that the
map does not have; and only the table refuses a second record of one downstream system. -/

namespace IntentRebase

open Kit

/-- What the columns ask of a text that may be missing, to read back as it was. -/
def ReasonKept (failureReason : Option String) : Prop :=
  ∃ text, failureReason = some text ∧ containsNul text = false

/-- What the columns of `propagation_records` ask of a record, to read back as it was. -/
structure PropagationRecord.Fits (r : PropagationRecord) : Prop where
  downstreamSystemId : containsNul r.downstreamSystemId = false
  failureReason : ReasonKept r.failureReason
  signaledAt : r.signaledAt % 1000 = 0
  acknowledgedAt : ∀ time ∈ r.acknowledgedAt, time % 1000 = 0
  failedAt : ∀ time ∈ r.failedAt, time % 1000 = 0
  lastDeliveryAttemptAt : ∀ time ∈ r.lastDeliveryAttemptAt, time % 1000 = 0
  createdAt : r.createdAt % 1000 = 0
  updatedAt : r.updatedAt % 1000 = 0

inductive PropagationCall where
  | create (record : PropagationRecord)
  | get (id tenantId : Uuid)
  | listByIntent (intentId tenantId : Uuid)
  | updateStatus (now : DateTime) (id tenantId : Uuid) (status : PropagationStatus)
      (lastSeenVersion : Int32)
  | recordDeliveryAttempt (now : DateTime) (id tenantId : Uuid)
  | recordDeliveryOutcome (now : DateTime) (id tenantId : Uuid) (status : PropagationStatus)
      (failureReason : Option String)

inductive PropagationReply where
  | record (result : Except IntentRebaseError PropagationRecord)
  | records (result : Except IntentRebaseError (List PropagationRecord))

/-- The same result, and listings of the same records in one order, but for records that were
updated at one time. -/
inductive PropagationReply.Same : PropagationReply → PropagationReply → Prop
  | record {r r' : Except IntentRebaseError PropagationRecord} (h : SameResult r r') :
      Same (.record r) (.record r')
  | records {rs rs' : List PropagationRecord} (hperm : rs.Perm rs')
      (htimes : rs.map PropagationRecord.updatedAt = rs'.map PropagationRecord.updatedAt) :
      Same (.records (.ok rs)) (.records (.ok rs'))

/-- An answer as the reply to a call. -/
def PropagationAnswer.reply {ρ : Type} (answer : PropagationAnswer ρ) : PropagationReply × ρ :=
  (.record answer.1, answer.2)

/-- What a repository replies to a call, and its contents after it. -/
def PropagationCall.apply {ρ : Type} (repo : PropagationRecordRepository ρ) (s : ρ) :
    PropagationCall → PropagationReply × ρ
  | .create record => PropagationAnswer.reply (repo.createRecord s record)
  | .get id tenantId => (.record (repo.getRecord s id tenantId), s)
  | .listByIntent intentId tenantId => (.records (repo.listByIntent s intentId tenantId), s)
  | .updateStatus now id tenantId status lastSeenVersion =>
    PropagationAnswer.reply (repo.updateStatus s now id tenantId status lastSeenVersion)
  | .recordDeliveryAttempt now id tenantId =>
    PropagationAnswer.reply (repo.recordDeliveryAttempt s now id tenantId)
  | .recordDeliveryOutcome now id tenantId status failureReason =>
    PropagationAnswer.reply (repo.recordDeliveryOutcome s now id tenantId status failureReason)

def inMemoryPropagationCall (_ : IterOrder PropagationRow) (call : PropagationCall)
    (s : PropagationStore) : PropagationReply × PropagationStore :=
  call.apply InMemoryPropagationRecordRepository.repository s

def sqlxPropagationCall (scan : IterOrder PropagationRow) (call : PropagationCall)
    (t : PropagationTable) : PropagationReply × PropagationTable :=
  call.apply (SqlxPropagationRecordRepository.repository scan) t

/-- The map and its index after a call. -/
def PropagationCall.next (s : PropagationStore) (call : PropagationCall) : PropagationStore :=
  (call.apply InMemoryPropagationRecordRepository.repository s).2

/-- The two repositories hold the same records. -/
def SameRecords (s : PropagationStore) (t : PropagationTable) : Prop :=
  SqlxPropagationRecordRepository.view t = InMemoryPropagationRecordRepository.view s

/-- The tenant and the intent under which a record is listed. -/
def PropagationRecord.indexKey (r : PropagationRecord) : Uuid × Uuid := (r.tenantId, r.intentId)

/-- The two repositories hold the same records, each under its own identifier, and the index of the
map lists every record of it once. -/
structure SamePropagation (s : PropagationStore) (t : PropagationTable) : Prop where
  records : SameRecords s t
  keyed : ∀ id r, s.records.lookup id = some r → r.id = id
  indexed : SecondaryIndex.Exact s.records PropagationRecord.indexKey s.byIntent

/-- If the tenant has the record, then it is as required. -/
def OwnedRecord (s : PropagationStore) (id tenantId : Uuid) (required : PropagationRecord → Prop) :
    Prop :=
  ∀ r, s.records.lookup id = some r → r.tenantId = tenantId → required r

/-- The call does not reach a difference between the two repositories. -/
def PropagationCall.InStep (s : PropagationStore) : PropagationCall → Prop
  | .create record =>
    record.Fits ∧ s.records.lookup record.id = none ∧
      ∀ id r, s.records.lookup id = some r → ¬ (r.tenantId = record.tenantId ∧
        r.intentId = record.intentId ∧ r.downstreamSystemId = record.downstreamSystemId)
  | .get .. | .listByIntent .. => True
  | .updateStatus now id tenantId _ _ =>
    OwnedRecord s id tenantId fun r => r.lockVersion ≠ Int32.maxValue ∧ now % 1000 = 0
  | .recordDeliveryAttempt now id tenantId =>
    OwnedRecord s id tenantId fun r => r.deliveryAttemptCount ≠ Int32.maxValue ∧
      r.lockVersion ≠ Int32.maxValue ∧ now % 1000 = 0
  | .recordDeliveryOutcome now id tenantId _ failureReason =>
    OwnedRecord s id tenantId fun r => ReasonKept failureReason ∧
      r.lockVersion ≠ Int32.maxValue ∧ now % 1000 = 0

section Columns

theorem reasonKept_iff {failureReason : Option String} :
    ReasonKept failureReason ↔
      containsNul (failureReason.getD "") = false ∧
        some (failureReason.getD "") = failureReason := by
  cases failureReason with
  | none =>
    refine iff_of_false ?_ ?_
    · rintro ⟨text, h, -⟩
      cases h
    · rintro ⟨-, h⟩
      cases h
  | some text =>
    constructor
    · rintro ⟨text', h, hnul⟩
      cases h
      exact ⟨hnul, rfl⟩
    · rintro ⟨hnul, -⟩
      exact ⟨text, rfl, hnul⟩

/-- A record is read back as it was given exactly if it fits the columns. -/
theorem PropagationRecord.fits_iff {r : PropagationRecord} :
    r.Fits ↔ (containsNul r.downstreamSystemId || containsNul (r.failureReason.getD "")) = false ∧
      mapRowToRecord (.ofRecord r) = r := by
  rw [Bool.or_eq_false_iff]
  constructor
  · intro h
    obtain ⟨hnul, hreason⟩ := reasonKept_iff.mp h.failureReason
    refine ⟨⟨h.downstreamSystemId, hnul⟩, ?_⟩
    have hstatus := SqlxPropagationRecordRepository.mapRowToRecord_status
      (show (PropagationRow.ofRecord r).status = r.status.lowercase from rfl)
    obtain ⟨id, tenantId, intentId, system, status, version, signaledAt, acknowledgedAt, failedAt,
      failureReason, count, attemptAt, lock, createdAt, updatedAt⟩ := r
    rw [mapRowToRecord, PropagationRecord.mk.injEq]
    exact ⟨rfl, rfl, rfl, rfl, hstatus, rfl, timestamptz_eq_self.mpr h.signaledAt,
      map_timestamptz_eq_self.mpr h.acknowledgedAt, map_timestamptz_eq_self.mpr h.failedAt,
      hreason, rfl, map_timestamptz_eq_self.mpr h.lastDeliveryAttemptAt, rfl,
      timestamptz_eq_self.mpr h.createdAt, timestamptz_eq_self.mpr h.updatedAt⟩
  · rintro ⟨⟨hsystem, hnul⟩, h⟩
    constructor
    case downstreamSystemId => exact hsystem
    case failureReason =>
      exact reasonKept_iff.mpr ⟨hnul, congrArg PropagationRecord.failureReason h⟩
    case signaledAt => exact timestamptz_eq_self.mp (congrArg PropagationRecord.signaledAt h)
    case acknowledgedAt =>
      exact map_timestamptz_eq_self.mp (congrArg PropagationRecord.acknowledgedAt h)
    case failedAt => exact map_timestamptz_eq_self.mp (congrArg PropagationRecord.failedAt h)
    case lastDeliveryAttemptAt =>
      exact map_timestamptz_eq_self.mp (congrArg PropagationRecord.lastDeliveryAttemptAt h)
    case createdAt => exact timestamptz_eq_self.mp (congrArg PropagationRecord.createdAt h)
    case updatedAt => exact timestamptz_eq_self.mp (congrArg PropagationRecord.updatedAt h)

end Columns

section Insertion

variable {t : PropagationTable} {record : PropagationRecord}

/-- The table takes the record, as its columns hold it. -/
def Insertable (t : PropagationTable) (record : PropagationRecord) : Prop :=
  (containsNul record.downstreamSystemId || containsNul (record.failureReason.getD "")) = false ∧
    t.lookup record.id = none ∧
    SqlxPropagationRecordRepository.taken t (.ofRecord record) = false

theorem createRecord_ok (h : Insertable t record) :
    SqlxPropagationRecordRepository.createRecord t record =
      (.ok (mapRowToRecord (.ofRecord record)), t.insert record.id (.ofRecord record)) := by
  obtain ⟨hnul, hnone, hfree⟩ := h
  have hheld : t.lookup (PropagationRow.ofRecord record).id = none := hnone
  simp only [SqlxPropagationRecordRepository.createRecord, hnul, hheld, hfree,
    Option.isSome_none, Bool.or_self, Bool.false_eq_true, if_false]
  rfl

theorem createRecord_error (h : ¬ Insertable t record) :
    ∃ text, SqlxPropagationRecordRepository.createRecord t record =
      (.error (.storageError text), t) := by
  rw [SqlxPropagationRecordRepository.createRecord]
  dsimp only
  split
  · exact ⟨_, rfl⟩
  next hnul =>
  split
  · exact ⟨_, rfl⟩
  next hheld =>
  rw [Bool.not_eq_true, Bool.or_eq_false_iff, Option.isSome_eq_false_iff,
    Option.isNone_iff_eq_none] at hheld
  exact absurd ⟨Bool.eq_false_iff.mpr hnul, hheld⟩ h

end Insertion

section Updates

variable {now : DateTime} {row : PropagationRow} {status : PropagationStatus}

theorem succ_eq (n : Int32) : SqlxPropagationRecordRepository.succ n =
    if n = Int32.maxValue then .error "integer out of range" else .ok (n + 1) := by
  rw [SqlxPropagationRecordRepository.succ, int4Succ]
  by_cases hmax : n = Int32.maxValue
  · rw [if_pos hmax, if_pos hmax]
  · rw [if_neg hmax, if_neg hmax]

/-- A statement that counts a column up writes a row unless the column is at its largest value. -/
theorem map_succ_iff {n : Int32} {write : Int32 → PropagationRow} {p : PropagationRow → Prop} :
    (∃ row', (SqlxPropagationRecordRepository.succ n).map write = .ok row' ∧ p row') ↔
      n ≠ Int32.maxValue ∧ p (write (n + 1)) := by
  rw [succ_eq]
  split
  · next hmax =>
    refine iff_of_false ?_ fun h => h.1 hmax
    rintro ⟨row', hok, -⟩
    cases hok
  · next hmax =>
    constructor
    · rintro ⟨row', hok, hrow⟩
      cases hok
      exact ⟨hmax, hrow⟩
    · exact fun h => ⟨_, rfl, h.2⟩

/-- The row of a status and a version reads back as the record of them, at a whole time. -/
theorem updateStatus_row (lastSeenVersion : Int32) :
    mapRowToRecord { row with
        status := status.lowercase
        lastSeenVersion := lastSeenVersion
        acknowledgedAt := if status = .acknowledged then some (timestamptz now) else none
        failedAt := if status = .failed then some (timestamptz now) else none
        updatedAt := timestamptz now
        lockVersion := row.lockVersion + 1 } =
      (mapRowToRecord row).updateStatus now status lastSeenVersion ↔ now % 1000 = 0 := by
  rw [← timestamptz_eq_self]
  constructor
  · exact fun h => congrArg PropagationRecord.updatedAt h
  · intro hnow
    rw [hnow]
    cases status <;> rfl

theorem recordDeliveryAttempt_row :
    mapRowToRecord { row with
        deliveryAttemptCount := row.deliveryAttemptCount + 1
        lastDeliveryAttemptAt := some (timestamptz now)
        updatedAt := timestamptz now
        lockVersion := row.lockVersion + 1 } =
      (mapRowToRecord row).recordDeliveryAttempt now ↔ now % 1000 = 0 := by
  rw [← timestamptz_eq_self]
  constructor
  · exact fun h => congrArg PropagationRecord.updatedAt h
  · intro hnow
    rw [hnow]
    rfl

/-- The row of an outcome has a reason, so only one with a reason reads back. -/
theorem recordDeliveryOutcome_row (failureReason : Option String) :
    mapRowToRecord { row with
        status := status.lowercase
        acknowledgedAt := if status = .acknowledged then some (timestamptz now) else none
        failedAt := if status = .failed then some (timestamptz now) else none
        failureReason := some (failureReason.getD "")
        updatedAt := timestamptz now
        lockVersion := row.lockVersion + 1 } =
      (mapRowToRecord row).recordDeliveryOutcome now status failureReason ↔
        some (failureReason.getD "") = failureReason ∧ now % 1000 = 0 := by
  rw [← timestamptz_eq_self]
  constructor
  · exact fun h => ⟨congrArg PropagationRecord.failureReason h,
      congrArg PropagationRecord.updatedAt h⟩
  · rintro ⟨hreason, hnow⟩
    rw [hnow, hreason]
    cases status <;> rfl

end Updates

namespace SamePropagation

variable {s : PropagationStore} {t : PropagationTable}

theorem lookup (h : SamePropagation s t) (id : Uuid) :
    (t.lookup id).map mapRowToRecord = s.records.lookup id := congrFun h.records id

/-- The row that a statement finds reads back as the record that the map has for the tenant. -/
theorem find (h : SamePropagation s t) (id tenantId : Uuid) :
    ((t.lookup id).filter fun row => row.tenantId = tenantId).map mapRowToRecord =
      (s.records.lookup id).filter fun r => r.tenantId = tenantId := by
  rw [← h.lookup]
  cases t.lookup id with
  | none => rfl
  | some row =>
    have htenant : (mapRowToRecord row).tenantId = row.tenantId := rfl
    rw [Option.map_some, Option.filter_some, Option.filter_some, htenant]
    split <;> rfl

theorem values (h : SamePropagation s t) :
    (((pairs t).map Prod.snd).map mapRowToRecord).Perm ((pairs s.records).map Prod.snd) :=
  (values_perm fun id => (h.lookup id).symm).symm

theorem get (h : SamePropagation s t) (id tenantId : Uuid) :
    SqlxPropagationRecordRepository.getRecord t id tenantId =
      InMemoryPropagationRecordRepository.getRecord s id tenantId := by
  rw [SqlxPropagationRecordRepository.getRecord, InMemoryPropagationRecordRepository.getRecord,
    ← h.find]
  cases (t.lookup id).filter fun row => row.tenantId = tenantId <;> rfl

/-- The rows of an intent, as they are scanned. -/
def scanned (scan : IterOrder PropagationRow) (t : PropagationTable) (intentId tenantId : Uuid) :
    List PropagationRow :=
  (scan.apply ((pairs t).map Prod.snd)).filter fun row =>
    row.intentId = intentId && row.tenantId = tenantId

theorem scanned_perm (h : SamePropagation s t) (scan : IterOrder PropagationRow)
    (intentId tenantId : Uuid) :
    ((scanned scan t intentId tenantId).map mapRowToRecord).Perm
      (((pairs s.records).map Prod.snd).filter fun r => r.indexKey = (tenantId, intentId)) := by
  have hkey : ∀ row : PropagationRow, (row.intentId = intentId && row.tenantId = tenantId) =
      decide ((mapRowToRecord row).indexKey = (tenantId, intentId)) := by
    intro row
    rw [← Bool.decide_and, decide_eq_decide, and_comm]
    exact Prod.mk.injEq .. ▸ Iff.rfl
  have hfilter : (scanned scan t intentId tenantId).map mapRowToRecord =
      ((scan.apply ((pairs t).map Prod.snd)).map mapRowToRecord).filter
        fun r => r.indexKey = (tenantId, intentId) := by
    rw [scanned, List.filter_map]
    exact congrArg _ (List.filter_congr fun row _ => hkey row)
  rw [hfilter]
  exact (((scan.perm _).map mapRowToRecord).trans h.values).filter _

/-- The listings have the same records, and in one order but for those of one time. -/
theorem listByIntent (h : SamePropagation s t) (scan : IterOrder PropagationRow)
    (intentId tenantId : Uuid) :
    PropagationReply.Same
      (.records (InMemoryPropagationRecordRepository.listByIntent s intentId tenantId))
      (.records (SqlxPropagationRecordRepository.listByIntent scan t intentId tenantId)) := by
  have hperm : ((SecondaryIndex.bucket s.byIntent (tenantId, intentId)).filterMap
      s.records.lookup).Perm ((scanned scan t intentId tenantId).map mapRowToRecord) :=
    (h.indexed.values_perm _).trans (h.scanned_perm scan intentId tenantId).symm
  have hkeys := orderBy_keys (fun r : PropagationRecord => OrderDual.toDual r.updatedAt) hperm
  have hsql : SqlxPropagationRecordRepository.listByIntent scan t intentId tenantId =
      .ok (orderBy (fun r : PropagationRecord => OrderDual.toDual r.updatedAt)
        ((scanned scan t intentId tenantId).map mapRowToRecord)) :=
    congrArg Except.ok (orderBy_map (fun r : PropagationRecord => OrderDual.toDual r.updatedAt)
      mapRowToRecord (scanned scan t intentId tenantId)).symm
  rw [hsql]
  exact .records (((orderBy_perm _ _).trans hperm).trans (orderBy_perm _ _).symm) hkeys

/-- A record under its identifier, where the map had none or one of the same intent. -/
theorem insert (h : SamePropagation s t) {row : PropagationRow} {r : PropagationRecord}
    (hrow : mapRowToRecord row = r) {index : HashMap (Uuid × Uuid) (List Uuid)}
    (hindex : SecondaryIndex.Exact (s.records.insert r.id r) PropagationRecord.indexKey index) :
    SamePropagation { records := s.records.insert r.id r, byIntent := index }
      (t.insert r.id row) where
  records := by
    funext id
    rw [SqlxPropagationRecordRepository.view, InMemoryPropagationRecordRepository.view,
      lookup_insert_eq, lookup_insert_eq]
    split
    · exact congrArg some hrow
    · exact h.lookup id
  keyed := by
    intro id r' hr'
    rw [lookup_insert_eq] at hr'
    split at hr'
    · next heq =>
      obtain rfl := Option.some.inj hr'
      exact heq.symm
    · exact h.keyed id r' hr'
  indexed := hindex

/-- Where the tenant has the record, the statement and the map change it alike exactly if it is as
the statement requires; otherwise neither finds it. -/
theorem modify (h : SamePropagation s t) (what : String) (id tenantId : Uuid)
    {set : PropagationRow → Except String PropagationRow}
    {change : PropagationRecord → PropagationRecord} {required : PropagationRecord → Prop}
    (hplace : ∀ r, (change r).id = r.id ∧ (change r).indexKey = r.indexKey)
    (hset : ∀ row, (∃ row', set row = .ok row' ∧
      mapRowToRecord row' = change (mapRowToRecord row)) ↔ required (mapRowToRecord row)) :
    let inMemory := InMemoryPropagationRecordRepository.modify s id tenantId change
    let sqlx := SqlxPropagationRecordRepository.update t what id tenantId set
    (SameResult inMemory.1 sqlx.1 ↔ OwnedRecord s id tenantId required) ∧
      (OwnedRecord s id tenantId required → SamePropagation inMemory.2 sqlx.2) := by
  simp only [InMemoryPropagationRecordRepository.modify,
    InMemoryPropagationRecordRepository.getRecord, SqlxPropagationRecordRepository.update,
    ← h.find]
  cases hfound : (t.lookup id).filter fun row => row.tenantId = tenantId with
  | none =>
    refine ⟨iff_of_true (.error rfl) fun r hr htenant => ?_, fun _ => h⟩
    -- a record of the tenant would be found
    have hnone := h.find id tenantId
    rw [hfound, hr, Option.filter_some, if_pos (decide_eq_true htenant)] at hnone
    cases hnone
  | some row =>
    have hrecord := h.find id tenantId
    rw [hfound] at hrecord
    obtain ⟨hlookup, htenant⟩ := Option.filter_eq_some_iff.mp hrecord.symm
    have howned : OwnedRecord s id tenantId required ↔ required (mapRowToRecord row) := by
      constructor
      · exact fun hall => hall _ hlookup (of_decide_eq_true htenant)
      · intro hrequired r hr _
        rwa [Option.some.inj (hr.symm.trans hlookup)]
    have hid : (change (mapRowToRecord row)).id = id :=
      (hplace _).1.trans (h.keyed id _ hlookup)
    rw [howned, ← hset row]
    simp only [Option.map_some]
    cases hrow : set row with
    | error e =>
      refine ⟨iff_of_false (fun hsame => by cases hsame) ?_, ?_⟩
      · rintro ⟨row', hok, -⟩
        cases hok
      · rintro ⟨row', hok, -⟩
        cases hok
    | ok row' =>
      dsimp only
      constructor
      · constructor
        · intro hsame
          refine ⟨row', rfl, ?_⟩
          generalize hchanged : change (mapRowToRecord row) = r at hsame
          generalize mapRowToRecord row' = r' at hsame
          cases hsame
          rfl
        · rintro ⟨row'', hok, hchanged⟩
          cases hok
          rw [hchanged]
          exact .refl _
      · rintro ⟨row'', hok, hchanged⟩
        cases hok
        have hinsert := h.insert hchanged
          (h.indexed.update (hid.symm ▸ hlookup) (hplace (mapRowToRecord row)).2)
        rwa [hid] at hinsert

/-- Where the statement is refused, the map agrees if it does not find the record either. -/
theorem modify_refused (h : SamePropagation s t) (text : String) (id tenantId : Uuid)
    {change : PropagationRecord → PropagationRecord} {required : PropagationRecord → Prop}
    (hrefused : ∀ r, ¬ required r) :
    let inMemory := InMemoryPropagationRecordRepository.modify s id tenantId change
    (SameResult inMemory.1 (.error (.storageError text)) ↔ OwnedRecord s id tenantId required) ∧
      (OwnedRecord s id tenantId required → SamePropagation inMemory.2 t) := by
  rw [InMemoryPropagationRecordRepository.modify, InMemoryPropagationRecordRepository.getRecord]
  cases hfound : (s.records.lookup id).filter fun r => r.tenantId = tenantId with
  | none =>
    refine ⟨iff_of_true (.error rfl) fun r hr htenant => ?_, fun _ => h⟩
    rw [hr, Option.filter_some, if_pos (decide_eq_true htenant)] at hfound
    cases hfound
  | some r =>
    obtain ⟨hlookup, htenant⟩ := Option.filter_eq_some_iff.mp hfound
    have hnone : ¬ OwnedRecord s id tenantId required := fun hall =>
      hrefused r (hall r hlookup (of_decide_eq_true htenant))
    exact ⟨iff_of_false (fun hsame => by cases hsame) hnone, fun hall => absurd hall hnone⟩

theorem taken (h : SamePropagation s t) (record : PropagationRecord) :
    SqlxPropagationRecordRepository.taken t (.ofRecord record) = false ↔
      ∀ id r, s.records.lookup id = some r → ¬ (r.tenantId = record.tenantId ∧
        r.intentId = record.intentId ∧ r.downstreamSystemId = record.downstreamSystemId) := by
  rw [SqlxPropagationRecordRepository.taken, List.any_eq_false]
  constructor
  · rintro hany id r hr ⟨htenant, hintent, hsystem⟩
    rw [← h.lookup, Option.map_eq_some_iff] at hr
    obtain ⟨row, hrow, rfl⟩ := hr
    refine hany (id, row) (mem_pairs.mpr hrow) ?_
    rw [Bool.and_eq_true, Bool.and_eq_true, beq_iff_eq, beq_iff_eq, beq_iff_eq]
    exact ⟨⟨htenant, hintent⟩, hsystem⟩
  · rintro hfree ⟨id, row⟩ hmem htaken
    rw [Bool.and_eq_true, Bool.and_eq_true, beq_iff_eq, beq_iff_eq, beq_iff_eq] at htaken
    obtain ⟨⟨htenant, hintent⟩, hsystem⟩ := htaken
    have hr : s.records.lookup id = some (mapRowToRecord row) := by
      rw [← h.lookup, mem_pairs.mp hmem, Option.map_some]
    exact hfree id (mapRowToRecord row) hr ⟨htenant, hintent, hsystem⟩

/-- The map takes any record; the table takes one that it can read back, under a new identifier and
for a new downstream system. -/
theorem create (h : SamePropagation s t) (record : PropagationRecord) :
    (SameResult (InMemoryPropagationRecordRepository.createRecord s record).1
        (SqlxPropagationRecordRepository.createRecord t record).1 ↔
      PropagationCall.InStep s (.create record)) ∧
    (PropagationCall.InStep s (.create record) →
      SamePropagation (InMemoryPropagationRecordRepository.createRecord s record).2
        (SqlxPropagationRecordRepository.createRecord t record).2) := by
  have hstep : PropagationCall.InStep s (.create record) ↔
      Insertable t record ∧ mapRowToRecord (.ofRecord record) = record := by
    rw [PropagationCall.InStep, PropagationRecord.fits_iff, Insertable, ← h.taken, ← h.lookup,
      Option.map_eq_none_iff]
    tauto
  rw [hstep, InMemoryPropagationRecordRepository.createRecord]
  by_cases hinsertable : Insertable t record
  · rw [createRecord_ok hinsertable]
    refine ⟨⟨fun hsame => ⟨hinsertable, ?_⟩, fun hback => ?_⟩, fun hback => ?_⟩
    · generalize mapRowToRecord (.ofRecord record) = r at hsame
      cases hsame
      rfl
    · rw [hback.2]
      exact .refl _
    · refine h.insert hback.2 (h.indexed.insert record ?_)
      rw [← h.lookup, hinsertable.2.1, Option.map_none]
  · obtain ⟨text, herror⟩ := createRecord_error hinsertable
    rw [herror]
    exact ⟨iff_of_false (fun hsame => by cases hsame) fun hin => hinsertable hin.1,
      fun hin => absurd hin.1 hinsertable⟩

theorem updateStatus (h : SamePropagation s t) (now : DateTime) (id tenantId : Uuid)
    (status : PropagationStatus) (lastSeenVersion : Int32) :
    let call := PropagationCall.updateStatus now id tenantId status lastSeenVersion
    (SameResult
        (InMemoryPropagationRecordRepository.updateStatus s now id tenantId status
          lastSeenVersion).1
        (SqlxPropagationRecordRepository.updateStatus t now id tenantId status
          lastSeenVersion).1 ↔ call.InStep s) ∧
      (call.InStep s → SamePropagation
        (InMemoryPropagationRecordRepository.updateStatus s now id tenantId status
          lastSeenVersion).2
        (SqlxPropagationRecordRepository.updateStatus t now id tenantId status
          lastSeenVersion).2) :=
  h.modify _ id tenantId (fun _ => ⟨rfl, rfl⟩) fun _ =>
    map_succ_iff.trans (and_congr_right fun _ => updateStatus_row lastSeenVersion)

theorem recordDeliveryAttempt (h : SamePropagation s t) (now : DateTime) (id tenantId : Uuid) :
    let call := PropagationCall.recordDeliveryAttempt now id tenantId
    (SameResult
        (InMemoryPropagationRecordRepository.recordDeliveryAttempt s now id tenantId).1
        (SqlxPropagationRecordRepository.recordDeliveryAttempt t now id tenantId).1 ↔
          call.InStep s) ∧
      (call.InStep s → SamePropagation
        (InMemoryPropagationRecordRepository.recordDeliveryAttempt s now id tenantId).2
        (SqlxPropagationRecordRepository.recordDeliveryAttempt t now id tenantId).2) := by
  refine h.modify _ id tenantId (fun _ => ⟨rfl, rfl⟩) fun row => ?_
  have hcount : (mapRowToRecord row).deliveryAttemptCount = row.deliveryAttemptCount := rfl
  rw [hcount, succ_eq]
  split
  · next hmax =>
    refine iff_of_false ?_ fun hin => hin.1 hmax
    rintro ⟨row', hok, -⟩
    cases hok
  · next hmax =>
    refine (map_succ_iff (p := fun row' => mapRowToRecord row' = _)).trans ?_
    rw [recordDeliveryAttempt_row]
    exact (and_iff_right hmax).symm

theorem recordDeliveryOutcome (h : SamePropagation s t) (now : DateTime) (id tenantId : Uuid)
    (status : PropagationStatus) (failureReason : Option String) :
    let call := PropagationCall.recordDeliveryOutcome now id tenantId status failureReason
    (SameResult
        (InMemoryPropagationRecordRepository.recordDeliveryOutcome s now id tenantId status
          failureReason).1
        (SqlxPropagationRecordRepository.recordDeliveryOutcome t now id tenantId status
          failureReason).1 ↔ call.InStep s) ∧
      (call.InStep s → SamePropagation
        (InMemoryPropagationRecordRepository.recordDeliveryOutcome s now id tenantId status
          failureReason).2
        (SqlxPropagationRecordRepository.recordDeliveryOutcome t now id tenantId status
          failureReason).2) := by
  rw [SqlxPropagationRecordRepository.recordDeliveryOutcome]
  dsimp only
  cases hnul : containsNul (failureReason.getD "") with
  | true =>
    refine h.modify_refused _ id tenantId fun r hin => ?_
    have hfree := (reasonKept_iff.mp hin.1).1
    rw [hnul] at hfree
    cases hfree
  | false =>
    refine h.modify _ id tenantId (fun _ => ⟨rfl, rfl⟩) fun row => map_succ_iff.trans ?_
    have hkept : ReasonKept failureReason ↔ some (failureReason.getD "") = failureReason :=
      reasonKept_iff.trans (and_iff_right hnul)
    rw [recordDeliveryOutcome_row, hkept]
    exact and_left_comm

end SamePropagation

section Runs

variable {s : PropagationStore} {t : PropagationTable}

theorem same_propagation_iff {r r' : Except IntentRebaseError PropagationRecord} :
    PropagationReply.Same (.record r) (.record r') ↔ SameResult r r' := by
  refine ⟨fun h => ?_, .record⟩
  cases h with
  | record h => exact h

/-- A call gets the same reply from both, whatever the scan, exactly if it is in step. -/
theorem propagationCall_same (h : SamePropagation s t) (call : PropagationCall) :
    (∀ scan, PropagationReply.Same (inMemoryPropagationCall (.id _) call s).1
      (sqlxPropagationCall scan call t).1) ↔ call.InStep s := by
  have hscan : Nonempty (IterOrder PropagationRow) := ⟨.id _⟩
  cases call with
  | create record =>
    exact (forall_const _).trans (same_propagation_iff.trans (h.create record).1)
  | get id tenantId =>
    refine iff_of_true (fun scan => .record ?_) trivial
    change SameResult (InMemoryPropagationRecordRepository.getRecord s id tenantId)
      (SqlxPropagationRecordRepository.getRecord t id tenantId)
    rw [h.get]
    exact .refl _
  | listByIntent intentId tenantId =>
    exact iff_of_true (fun scan => h.listByIntent scan intentId tenantId) trivial
  | updateStatus now id tenantId status lastSeenVersion =>
    exact (forall_const _).trans (same_propagation_iff.trans
      (h.updateStatus now id tenantId status lastSeenVersion).1)
  | recordDeliveryAttempt now id tenantId =>
    exact (forall_const _).trans
      (same_propagation_iff.trans (h.recordDeliveryAttempt now id tenantId).1)
  | recordDeliveryOutcome now id tenantId status failureReason =>
    exact (forall_const _).trans (same_propagation_iff.trans
      (h.recordDeliveryOutcome now id tenantId status failureReason).1)

theorem propagationCall_next (h : SamePropagation s t) {call : PropagationCall}
    (hstep : call.InStep s) (scan : IterOrder PropagationRow) :
    SamePropagation (call.next s) (sqlxPropagationCall scan call t).2 := by
  cases call with
  | create record => exact (h.create record).2 hstep
  | get id tenantId => exact h
  | listByIntent intentId tenantId => exact h
  | updateStatus now id tenantId status lastSeenVersion =>
    exact (h.updateStatus now id tenantId status lastSeenVersion).2 hstep
  | recordDeliveryAttempt now id tenantId => exact (h.recordDeliveryAttempt now id tenantId).2 hstep
  | recordDeliveryOutcome now id tenantId status failureReason =>
    exact (h.recordDeliveryOutcome now id tenantId status failureReason).2 hstep

/-- From the same records, the repositories give the same replies to a sequence of calls and end
with the same records exactly if every call of it is in step: a creation is of a new record for a
new downstream system that fits the columns, the reason of its failure given, and a change that
finds its record leaves no counter at its largest value, names a time in whole microseconds and,
for an outcome, gives a reason. -/
theorem propagationRepositories_agree_iff (h : SamePropagation s t)
    (calls : List PropagationCall) :
    Agree inMemoryPropagationCall sqlxPropagationCall PropagationReply.Same SameRecords s t calls ↔
      AllSteps PropagationCall.next (fun s call => call.InStep s) s calls := by
  have hscan : Nonempty (IterOrder PropagationRow) := ⟨.id _⟩
  apply agree_iff_of_final
  · intro scan call s
    rfl
  · intro s t call h
    exact propagationCall_same h call
  · intro s t call scan h hstep
    exact propagationCall_next h hstep scan
  · exact SamePropagation.records
  · exact h

theorem samePropagation_empty : SamePropagation { records := ∅, byIntent := ∅ } ∅ where
  records := rfl
  keyed := fun _ _ h => (by cases h)
  indexed := .empty

/-- A record of a failure that a delivery then makes good. -/
def PropagationRecord.sample : PropagationRecord :=
  { new 0 1 2 3 "system-a" with
    status := .failed
    failedAt := some 0
    failureReason := some "connection refused" }

/-- It looks the same in both, as long as every outcome gives a reason. -/
theorem propagationRepositories_agree_sample :
    Agree inMemoryPropagationCall sqlxPropagationCall PropagationReply.Same SameRecords
      { records := ∅, byIntent := ∅ } ∅
      [.create .sample, .recordDeliveryAttempt 1000 1 2,
        .recordDeliveryOutcome 2000 1 2 .acknowledged (some "retried"), .get 1 2] := by
  refine (propagationRepositories_agree_iff samePropagation_empty _).mpr
    ⟨⟨?_, rfl, fun _ _ h => (by cases h)⟩, ?_, ?_, trivial, trivial⟩
  · constructor
    case failureReason => exact ⟨"connection refused", rfl, by decide⟩
    all_goals decide
  · intro r hr _
    cases hr
    decide
  · intro r hr _
    cases hr
    exact ⟨⟨"retried", rfl, by decide⟩, by decide⟩

/-- A record that is new has no reason, and reads back with an empty one from the table. -/
theorem propagationRepositories_differ :
    ¬ ∀ (s : PropagationStore) (t : PropagationTable), SamePropagation s t →
      ∀ calls : List PropagationCall, Agree inMemoryPropagationCall sqlxPropagationCall
        PropagationReply.Same SameRecords s t calls := by
  intro h
  have hagree := h _ _ samePropagation_empty [.create (.new 0 1 2 3 "system-a")] fun _ => .id _
  have hreply := (List.forall₂_cons.mp hagree.1).1
  have hstep := (samePropagation_empty.create _).1.mp (same_propagation_iff.mp hreply)
  obtain ⟨text, hreason, -⟩ := hstep.1.failureReason
  cases hreason

end Runs

end IntentRebase
