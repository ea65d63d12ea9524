import IntentRebase.Compensation.RepositoryAgreement
import IntentRebase.Compensation.SqlxQueries
import IntentRebase.Kit.Agreement

/-! The in-memory and the SQL repositories of rollback records and of orchestration runs, call by
call. The map of rollback records names another error for a missing record, and lists in the order
of creation what the table lists by time; the update of a run replaces the value in the map, but
only some of the columns of the row; and the table lists a hundred at most when no limit is
given. -/

namespace IntentRebase

open Kit

/-- The limit of a SQL listing is not negative and cuts as many of `n` values as the caller's. -/
structure LimitAlike (limit : Option Nat) (n : Nat) : Prop where
  nonneg : 0 ≤ asI32 (limit.getD 100)
  length : min (asI32 (limit.getD 100)).toNat n = min (limit.getD n) n

section Listings

variable {ν ρ : Type} {read : ν → Except IntentRebaseError ρ} {rows : List ν} {items : List ρ}

/-- Rows that read back as the items are listed alike exactly if they are the items in order. -/
theorem sameResult_mapM {sorted : List ρ}
    (h : List.Forall₂ (fun row a => read row = .ok a) rows sorted) :
    SameResult (.ok items) (rows.mapM read) ↔ items = sorted := by
  rw [mapM_eq_ok h]
  exact sameResult_ok

/-- Rows that read back as the items are cut alike exactly if the limits are alike. -/
theorem limited_iff (h : List.Forall₂ (fun row a => read row = .ok a) rows items)
    (limit : Option Nat) (text : String) :
    SameResult
        (.ok (match limit with
          | some limit => items.take limit
          | none => items))
        (if asI32 (limit.getD 100) < 0 then .error (.storageError text)
          else (rows.take (asI32 (limit.getD 100)).toNat).mapM read) ↔
      LimitAlike limit items.length := by
  have hcut : (match limit with
      | some limit => items.take limit
      | none => items) = items.take (limit.getD items.length) := by
    cases limit with
    | some limit => rfl
    | none => exact items.take_length.symm
  rw [hcut]
  split
  · next hneg =>
    refine iff_of_false (fun hsame => by cases hsame) fun halike => ?_
    exact absurd halike.nonneg (not_le.mpr hneg)
  · next hnonneg =>
    rw [sameResult_mapM (List.forall₂_take _ h), List.take_eq_take_iff]
    constructor
    · exact fun hlength => ⟨not_lt.mp hnonneg, hlength.symm⟩
    · exact fun halike => halike.length.symm

end Listings

section RollbackColumns

/-- The row of a record that the columns hold as it is. -/
def RollbackRow.ofRecord (record : SideEffectRollbackRecord) : RollbackRow where
  id := record.id
  tenantId := record.tenantId
  compensationActionId := record.compensationActionId
  sideEffectId := record.sideEffectId
  intentId := record.intentId
  result := record.result.asStr
  summary := record.summary
  errorCode := record.errorCode
  errorDetail := record.errorDetail
  recordedBy := record.recordedBy
  recordedAt := record.recordedAt
  lockVersion := record.lockVersion

/-- What the columns of `side_effect_rollback_records` ask of a record, to hold it as it is. -/
structure SideEffectRollbackRecord.Fits (record : SideEffectRollbackRecord) : Prop where
  summary : containsNul record.summary = false
  errorCode : ∀ text, record.errorCode = some text → text.length ≤ 100 ∧ containsNul text = false
  errorDetail : ∀ text ∈ record.errorDetail, containsNul text = false
  recordedBy : ∀ text, record.recordedBy = some text → text.length ≤ 255 ∧ containsNul text = false
  recordedAt : record.recordedAt % 1000 = 0

theorem RollbackRecordResult.fromDbStr_eq_some {s : String} {result : RollbackRecordResult} :
    fromDbStr s = some result ↔ s = result.asStr := by
  constructor
  · intro h
    unfold fromDbStr at h
    split at h <;> cases h <;> rfl
  · rintro rfl
    exact fromDbStr_asStr result

/-- A row reads back as the record of which it is the row. -/
theorem rowToRecord_eq_ok {row : RollbackRow} {record : SideEffectRollbackRecord} :
    rowToRecord row = .ok record ↔ row = .ofRecord record := by
  constructor
  · intro h
    rw [rowToRecord] at h
    split at h
    · cases h
    · next result hresult =>
      cases h
      have hlabel := RollbackRecordResult.fromDbStr_eq_some.mp hresult
      cases row
      exact congrArg (fun result => RollbackRow.mk _ _ _ _ _ result _ _ _ _ _ _) hlabel
  · rintro rfl
    rw [rowToRecord, RollbackRow.ofRecord, RollbackRecordResult.fromDbStr_asStr]

/-- The values that a row is bound from. -/
theorem RollbackRow.bind_ok {record : SideEffectRollbackRecord} {row : RollbackRow}
    (h : bind record = .ok row) :
    row.id = record.id ∧ textColumn record.summary = .ok row.summary ∧
      nullableVarchar 100 record.errorCode = .ok row.errorCode ∧
      nullableText record.errorDetail = .ok row.errorDetail ∧
      nullableVarchar 255 record.recordedBy = .ok row.recordedBy ∧
      row.recordedAt = timestamptz record.recordedAt := by
  rw [bind] at h
  cases hsummary : textColumn record.summary with
  | error e => rw [hsummary] at h; cases h
  | ok summary =>
  cases hcode : nullableVarchar 100 record.errorCode with
  | error e => rw [hsummary, hcode] at h; cases h
  | ok errorCode =>
  cases hdetail : nullableText record.errorDetail with
  | error e => rw [hsummary, hcode, hdetail] at h; cases h
  | ok errorDetail =>
  cases hby : nullableVarchar 255 record.recordedBy with
  | error e => rw [hsummary, hcode, hdetail, hby] at h; cases h
  | ok recordedBy =>
    rw [hsummary, hcode, hdetail, hby] at h
    cases h
    exact ⟨rfl, rfl, rfl, rfl, rfl, rfl⟩

/-- The row that is bound for a record is its own exactly if the record fits the columns. -/
theorem RollbackRow.bind_eq_ofRecord {record : SideEffectRollbackRecord} :
    bind record = .ok (.ofRecord record) ↔ record.Fits := by
  constructor
  · intro h
    obtain ⟨-, hsummary, hcode, hdetail, hby, htime⟩ := bind_ok h
    exact {
      summary := (textColumn_ok.mp hsummary).1
      errorCode := nullableVarchar_eq_self.mp hcode
      errorDetail := (nullableText_ok.mp hdetail).1
      recordedBy := nullableVarchar_eq_self.mp hby
      recordedAt := timestamptz_eq_self.mp htime.symm }
  · intro h
    rw [bind, textColumn_ok.mpr ⟨h.summary, rfl⟩, nullableVarchar_eq_self.mpr h.errorCode,
      nullableText_ok.mpr ⟨h.errorDetail, rfl⟩, nullableVarchar_eq_self.mpr h.recordedBy]
    exact congrArg (fun recordedAt => Except.ok { ofRecord record with recordedAt })
      (timestamptz_eq_self.mpr h.recordedAt)

end RollbackColumns

section RollbackCalls

inductive RollbackCall where
  | create (record : SideEffectRollbackRecord)
  | get (recordId : Uuid)
  | listByTenant (tenantId : Uuid) (limit : Option Nat)
  | listByCompensationAction (compensationActionId tenantId : Uuid)
  | listBySideEffect (sideEffectId tenantId : Uuid)
  | listByIntent (intentId tenantId : Uuid)
  | listByResult (tenantId : Uuid) (result : RollbackRecordResult)

inductive RollbackReply where
  | record (result : Except IntentRebaseError SideEffectRollbackRecord)
  | records (result : Except IntentRebaseError (List SideEffectRollbackRecord))

inductive RollbackReply.Same : RollbackReply → RollbackReply → Prop
  | record {r r' : Except IntentRebaseError SideEffectRollbackRecord} (h : SameResult r r') :
      Same (.record r) (.record r')
  | records {r r' : Except IntentRebaseError (List SideEffectRollbackRecord)}
      (h : SameResult r r') : Same (.records r) (.records r')

theorem RollbackReply.same_record {r r' : Except IntentRebaseError SideEffectRollbackRecord} :
    RollbackReply.Same (.record r) (.record r') ↔ SameResult r r' := by
  refine ⟨fun h => ?_, .record⟩
  cases h with
  | record h => exact h

theorem RollbackReply.same_records
    {r r' : Except IntentRebaseError (List SideEffectRollbackRecord)} :
    RollbackReply.Same (.records r) (.records r') ↔ SameResult r r' := by
  refine ⟨fun h => ?_, .records⟩
  cases h with
  | records h => exact h

/-- What a repository replies to a call, and its state after it. -/
def RollbackCall.apply {σ : Type} (repo : RollbackRecordRepository σ) (s : σ) :
    RollbackCall → RollbackReply × σ
  | .create record => (.record (repo.create s record).1, (repo.create s record).2)
  | .get recordId => (.record (repo.get s recordId), s)
  | .listByTenant tenantId limit => (.records (repo.listByTenant s tenantId limit), s)
  | .listByCompensationAction compensationActionId tenantId =>
    (.records (repo.listByCompensationAction s compensationActionId tenantId), s)
  | .listBySideEffect sideEffectId tenantId =>
    (.records (repo.listBySideEffect s sideEffectId tenantId), s)
  | .listByIntent intentId tenantId => (.records (repo.listByIntent s intentId tenantId), s)
  | .listByResult tenantId result => (.records (repo.listByResult s tenantId result), s)

def inMemoryRollbackCall (_ : IterOrder RollbackRow) (call : RollbackCall)
    (s : InMemoryRollbackRecordRepository) : RollbackReply × InMemoryRollbackRecordRepository :=
  call.apply InMemoryRollbackRecordRepository.repository s

def sqlxRollbackCall (scan : IterOrder RollbackRow) (call : RollbackCall) (t : RollbackTable) :
    RollbackReply × RollbackTable :=
  call.apply (SqlxRollbackRecordRepository.repository scan) t

/-- The records after a call, in the order of their creation. -/
def RollbackCall.next (created : List SideEffectRollbackRecord) (call : RollbackCall) :
    List SideEffectRollbackRecord :=
  (call.apply RollbackRecordRepository.log created).2

/-- The table has a row for each record of the map, and no other. -/
def SameRollbackRecords (s : InMemoryRollbackRecordRepository) (t : RollbackTable) : Prop :=
  ReadsAs rowToRecord t s.records

/-- Both hold the records that were created, each at a time of its own. -/
structure SameRollbacks (created : List SideEffectRollbackRecord)
    (s : InMemoryRollbackRecordRepository) (t : RollbackTable) : Prop where
  holds : s.Holds created
  records : SameRollbackRecords s t
  times : (created.map SideEffectRollbackRecord.recordedAt).Nodup

/-- A record is created under a new identifier, at a new time. -/
def RollbackCall.Fresh (created : List SideEffectRollbackRecord) : RollbackCall → Prop
  | .create record => record.id ∉ created.map SideEffectRollbackRecord.id ∧
      record.recordedAt ∉ created.map SideEffectRollbackRecord.recordedAt
  | _ => True

/-- The records that pass a test were created from the latest recorded on. -/
def NewestFirst (created : List SideEffectRollbackRecord)
    (test : SideEffectRollbackRecord → Bool) : Prop :=
  (created.filter test).Pairwise fun a b => b.recordedAt ≤ a.recordedAt

/-- The call does not reach a difference between the two repositories. -/
def RollbackCall.InStep (created : List SideEffectRollbackRecord) : RollbackCall → Prop
  | .create record => record.Fits
  | .get recordId => recordId ∈ created.map SideEffectRollbackRecord.id
  | .listByTenant tenantId limit =>
    LimitAlike limit (created.filter fun record => record.tenantId = tenantId).length
  | .listByCompensationAction compensationActionId tenantId =>
    NewestFirst created fun record =>
      record.tenantId = tenantId && record.compensationActionId = compensationActionId
  | .listBySideEffect sideEffectId tenantId =>
    NewestFirst created fun record =>
      record.tenantId = tenantId && record.sideEffectId = sideEffectId
  | .listByIntent intentId tenantId =>
    NewestFirst created fun record => (record.tenantId, record.intentId) = (tenantId, intentId)
  | .listByResult tenantId result =>
    NewestFirst created fun record => (record.tenantId, record.result) = (tenantId, result)

end RollbackCalls

namespace SameRollbacks

variable {created : List SideEffectRollbackRecord} {s : InMemoryRollbackRecordRepository}
  {t : RollbackTable}

/-- The rows that pass a test read back as the records that do, sorted. -/
theorem scanned (h : SameRollbacks created s t) (scan : IterOrder RollbackRow)
    (test : RollbackRow → Bool) (test' : SideEffectRollbackRecord → Bool)
    (htest : ∀ record, test (.ofRecord record) = test' record) :
    List.Forall₂ (fun row record => rowToRecord row = .ok record)
      (scanLatest scan RollbackRow.recordedAt test t)
      (latestFirst SideEffectRollbackRecord.recordedAt (created.filter test')) := by
  have hrow : ∀ row record, rowToRecord row = .ok record →
      row.recordedAt = record.recordedAt ∧ test row = test' record := by
    intro row record hread
    obtain rfl := rowToRecord_eq_ok.mp hread
    exact ⟨rfl, htest record⟩
  refine ReadsAs.scanLatest h.records hrow scan ?_ ?_
  · have hvalues := h.holds.stored.map Prod.snd
    rw [List.map_map] at hvalues
    exact ((hvalues.trans (.of_eq (List.map_id' created))).filter test').symm
  · exact (List.filter_sublist.map _).nodup h.times

theorem listWhere (h : SameRollbacks created s t) (scan : IterOrder RollbackRow)
    {test : RollbackRow → Bool} {test' : SideEffectRollbackRecord → Bool}
    (htest : ∀ record, test (.ofRecord record) = test' record) :
    SameResult (.ok (created.filter test')) (SqlxRollbackRecordRepository.listWhere scan t test) ↔
      NewestFirst created test' := by
  rw [SqlxRollbackRecordRepository.listWhere, sameResult_mapM (h.scanned scan test test' htest),
    eq_comm]
  exact latestFirst_eq_self SideEffectRollbackRecord.recordedAt

theorem listByTenant (h : SameRollbacks created s t) (scan : IterOrder RollbackRow)
    (tenantId : Uuid) (limit : Option Nat) :
    SameResult (s.listByTenant tenantId limit)
        (SqlxRollbackRecordRepository.listByTenant scan t tenantId limit) ↔
      RollbackCall.InStep created (.listByTenant tenantId limit) := by
  rw [h.holds.listByTenant]
  have hscanned := h.scanned scan (fun row => row.tenantId = tenantId)
    (fun record => record.tenantId = tenantId) fun record => rfl
  have hlimited := limited_iff hscanned limit
    "list rollback records by tenant: LIMIT must not be negative"
  rw [(latestFirst_perm SideEffectRollbackRecord.recordedAt _).length_eq] at hlimited
  exact hlimited

theorem get (h : SameRollbacks created s t) (recordId : Uuid) :
    SameResult (s.get recordId) (SqlxRollbackRecordRepository.get t recordId) ↔
      recordId ∈ created.map SideEffectRollbackRecord.id := by
  have hstored : (∃ record, s.records.lookup recordId = some record) ↔
      recordId ∈ created.map SideEffectRollbackRecord.id := by
    constructor
    · rintro ⟨record, hrecord⟩
      obtain ⟨record', hmem, heq⟩ :=
        List.mem_map.mp (h.holds.stored.mem_iff.mp (mem_pairs.mpr hrecord))
      exact List.mem_map.mpr ⟨record', hmem, congrArg Prod.fst heq⟩
    · intro hmem
      obtain ⟨record, hrecord, rfl⟩ := List.mem_map.mp hmem
      exact ⟨record, h.holds.lookup record hrecord⟩
  rw [← hstored, InMemoryRollbackRecordRepository.get, SqlxRollbackRecordRepository.get]
  cases hlookup : s.records.lookup recordId with
  | none =>
    rw [ReadsAs.lookup_eq_none h.records |>.mpr hlookup]
    refine iff_of_false (fun hsame => ?_) (by simp)
    cases hsame with
    | error hkind => cases hkind
  | some record =>
    obtain ⟨row, hrow, hread⟩ := ReadsAs.read_row h.records hlookup
    rw [hrow]
    dsimp only
    rw [hread]
    exact iff_of_true (.refl _) ⟨record, rfl⟩

/-- The map takes any record; the table takes one as it is that fits the columns. -/
theorem create (h : SameRollbacks created s t) {record : SideEffectRollbackRecord}
    (hnew : record.id ∉ created.map SideEffectRollbackRecord.id) :
    SameResult (s.create record).1 (SqlxRollbackRecordRepository.create t record).1 ∧
        SameRollbackRecords (s.create record).2 (SqlxRollbackRecordRepository.create t record).2 ↔
      record.Fits := by
  have hfree : t.lookup record.id = none := by
    rw [ReadsAs.lookup_eq_none h.records]
    by_contra hsome
    obtain ⟨stored, hstored⟩ := Option.ne_none_iff_exists'.mp hsome
    obtain ⟨record', hmem, heq⟩ :=
      List.mem_map.mp (h.holds.stored.mem_iff.mp (mem_pairs.mpr hstored))
    exact hnew (List.mem_map.mpr ⟨record', hmem, congrArg Prod.fst heq⟩)
  rw [← RollbackRow.bind_eq_ofRecord, SqlxRollbackRecordRepository.create]
  cases hbind : RollbackRow.bind record with
  | error e => exact iff_of_false (fun hboth => by cases hboth.1) (by simp)
  | ok row =>
    have hid : row.id = record.id := (RollbackRow.bind_ok hbind).1
    dsimp only
    rw [hid, hfree, Except.ok.injEq, ← rowToRecord_eq_ok,
      ← ReadsAs.insert_iff h.records record.id row record]
    exact and_iff_right (.refl _)

theorem next (h : SameRollbacks created s t) {call : RollbackCall} (hfresh : call.Fresh created)
    (hstep : call.InStep created) (scan : IterOrder RollbackRow) :
    SameRollbacks (call.next created)
      (call.apply InMemoryRollbackRecordRepository.repository s).2
      (sqlxRollbackCall scan call t).2 := by
  cases call with
  | create record =>
    exact {
      holds := h.holds.create hfresh.1
      records := ((h.create hfresh.1).mpr hstep).2
      times := by
        change ((created ++ [record]).map _).Nodup
        rw [List.map_append, List.nodup_append_comm]
        exact List.nodup_cons.mpr ⟨hfresh.2, h.times⟩ }
  | _ => exact h

theorem listByCompensationAction (h : SameRollbacks created s t) (scan : IterOrder RollbackRow)
    (compensationActionId tenantId : Uuid) :
    SameResult (s.listByCompensationAction compensationActionId tenantId)
        (SqlxRollbackRecordRepository.listByCompensationAction scan t compensationActionId
          tenantId) ↔
      RollbackCall.InStep created (.listByCompensationAction compensationActionId tenantId) := by
  rw [h.holds.listByCompensationAction]
  exact h.listWhere scan fun record => Bool.and_comm _ _

theorem listBySideEffect (h : SameRollbacks created s t) (scan : IterOrder RollbackRow)
    (sideEffectId tenantId : Uuid) :
    SameResult (s.listBySideEffect sideEffectId tenantId)
        (SqlxRollbackRecordRepository.listBySideEffect scan t sideEffectId tenantId) ↔
      RollbackCall.InStep created (.listBySideEffect sideEffectId tenantId) := by
  rw [h.holds.listBySideEffect]
  exact h.listWhere scan fun record => Bool.and_comm _ _

theorem listByIntent (h : SameRollbacks created s t) (scan : IterOrder RollbackRow)
    (intentId tenantId : Uuid) :
    SameResult (s.listByIntent intentId tenantId)
        (SqlxRollbackRecordRepository.listByIntent scan t intentId tenantId) ↔
      RollbackCall.InStep created (.listByIntent intentId tenantId) := by
  rw [h.holds.listByIntent]
  refine h.listWhere scan fun record => ?_
  rw [← Bool.decide_and, decide_eq_decide, Prod.mk.injEq, and_comm]
  exact Iff.rfl

theorem listByResult (h : SameRollbacks created s t) (scan : IterOrder RollbackRow)
    (tenantId : Uuid) (result : RollbackRecordResult) :
    SameResult (s.listByResult tenantId result)
        (SqlxRollbackRecordRepository.listByResult scan t tenantId result) ↔
      RollbackCall.InStep created (.listByResult tenantId result) := by
  rw [h.holds.listByResult]
  refine h.listWhere scan fun record => ?_
  have hlabel : record.result.asStr = result.asStr ↔ record.result = result := by
    rw [← RollbackRecordResult.fromDbStr_eq_some, RollbackRecordResult.fromDbStr_asStr,
      Option.some.injEq]
  rw [← Bool.decide_and, decide_eq_decide, Prod.mk.injEq, ← hlabel]
  exact Iff.rfl

/-- A listing is in step if it is listed alike whatever the scan. -/
theorem listing (h : SameRollbacks created s t)
    {r : Except IntentRebaseError (List SideEffectRollbackRecord)}
    {r' : IterOrder RollbackRow → Except IntentRebaseError (List SideEffectRollbackRecord)}
    {inStep : Prop} (hlisting : ∀ scan, SameResult r (r' scan) ↔ inStep) :
    (∀ scan, RollbackReply.Same (.records r) (.records (r' scan))) ∧ SameRollbackRecords s t ↔
      inStep := by
  constructor
  · exact fun hsame => (hlisting (.id _)).mp (RollbackReply.same_records.mp (hsame.1 (.id _)))
  · exact fun hin => ⟨fun scan => .records ((hlisting scan).mpr hin), h.records⟩

/-- A call gets the same reply from both, whatever the scan, and leaves the same records exactly if
it is in step. -/
theorem call (h : SameRollbacks created s t) {call : RollbackCall} (hfresh : call.Fresh created) :
    (∀ scan, RollbackReply.Same (inMemoryRollbackCall scan call s).1
        (sqlxRollbackCall scan call t).1) ∧
      SameRollbackRecords (inMemoryRollbackCall (.id _) call s).2
        (sqlxRollbackCall (.id _) call t).2 ↔ call.InStep created := by
  cases call with
  | create record =>
    refine Iff.trans (and_congr_left fun _ => ?_) (h.create hfresh.1)
    exact ⟨fun hsame => RollbackReply.same_record.mp (hsame (.id _)), fun hsame _ => .record hsame⟩
  | get recordId =>
    refine (and_iff_left h.records).trans (Iff.trans ?_ (h.get recordId))
    exact ⟨fun hsame => RollbackReply.same_record.mp (hsame (.id _)), fun hsame _ => .record hsame⟩
  | listByTenant tenantId limit =>
    exact h.listing fun scan => h.listByTenant scan tenantId limit
  | listByCompensationAction compensationActionId tenantId =>
    exact h.listing fun scan => h.listByCompensationAction scan compensationActionId tenantId
  | listBySideEffect sideEffectId tenantId =>
    exact h.listing fun scan => h.listBySideEffect scan sideEffectId tenantId
  | listByIntent intentId tenantId =>
    exact h.listing fun scan => h.listByIntent scan intentId tenantId
  | listByResult tenantId result =>
    exact h.listing fun scan => h.listByResult scan tenantId result

end SameRollbacks

/-- The two repositories of rollback records cannot be told apart by any part of a sequence of calls
from its start. -/
def RollbacksInterchangeable (s : InMemoryRollbackRecordRepository) (t : RollbackTable)
    (calls : List RollbackCall) : Prop :=
  ∀ before, before <+: calls →
    Agree inMemoryRollbackCall sqlxRollbackCall RollbackReply.Same SameRollbackRecords s t before

theorem sqlxRollbackCall_state (scan scan' : IterOrder RollbackRow) (call : RollbackCall)
    (t : RollbackTable) : (sqlxRollbackCall scan call t).2 = (sqlxRollbackCall scan' call t).2 := by
  cases call <;> simp only [sqlxRollbackCall, RollbackCall.apply,
    SqlxRollbackRecordRepository.repository]

theorem rollbacksInterchangeable_iff {created : List SideEffectRollbackRecord}
    {s : InMemoryRollbackRecordRepository} {t : RollbackTable} (h : SameRollbacks created s t)
    {calls : List RollbackCall}
    (hfresh : AllSteps RollbackCall.next (fun created call => call.Fresh created) created calls) :
    RollbacksInterchangeable s t calls ↔
      AllSteps RollbackCall.next (fun created call => call.InStep created) created calls := by
  have hscan : Nonempty (IterOrder RollbackRow) := ⟨.id _⟩
  have hleft : ∀ scan (call : RollbackCall) s, (inMemoryRollbackCall scan call s).2 =
      (inMemoryRollbackCall (.id _) call s).2 := fun _ _ _ => rfl
  have hright := fun scan => sqlxRollbackCall_state scan (.id _)
  refine agree_prefixes_iff SameRollbacks hleft hright ?_ ?_ (fun _ _ _ h => h.records) h hfresh
  · exact fun _ h hfresh => h.call hfresh
  · exact fun _ h hfresh hstep => h.next hfresh hstep (.id _)

section RunColumns

/-- The column of a count, an `i32`, gives the count back as it was. -/
def CountKept (n : Nat) : Prop := n < 2 ^ 31 ∨ 2 ^ 64 - 2 ^ 31 ≤ n ∧ n < 2 ^ 64

theorem asUsize_asI32 {n : Nat} : asUsize (asI32 n) = n ↔ CountKept n := by
  unfold asUsize asI32 CountKept
  rw [Int.bmod_def]
  split
  · omega
  · omega

/-- What the columns `JSONB` ask of the results of the items. -/
def ItemsFit (items : List RunItemResult) : Prop :=
  ∀ item ∈ items, containsNul item.reason = false ∧ containsNul item.resultingStatus = false

theorem itemResultsColumn_ok {items value : List RunItemResult} :
    itemResultsColumn items = .ok value ↔ ItemsFit items ∧ value = items := by
  have hany : (items.any fun item => containsNul item.reason ||
      containsNul item.resultingStatus) = false ↔ ItemsFit items := by
    rw [List.any_eq_false, ItemsFit]
    simp only [Bool.not_eq_true, Bool.or_eq_false_iff]
  rw [itemResultsColumn, ← hany]
  split
  · next htrue => exact iff_of_false (fun h => by cases h) (by simp [htrue])
  · next hfalse => simp [Bool.not_eq_true _ ▸ hfalse, eq_comm]

/-- What the columns of the progress of a run ask of it, to hold it as it is. -/
structure OrchestrationRun.ProgressFits (run : OrchestrationRun) : Prop where
  startedAt : ∀ time ∈ run.startedAt, time % 1000 = 0
  completedAt : ∀ time ∈ run.completedAt, time % 1000 = 0
  succeededCount : CountKept run.succeededCount
  failedCount : CountKept run.failedCount
  skippedCount : CountKept run.skippedCount
  notFoundCount : CountKept run.notFoundCount
  totalCount : CountKept run.totalCount

/-- What the columns of `orchestration_runs` ask of a run, to hold it as it is. -/
structure OrchestrationRun.Fits (run : OrchestrationRun) : Prop where
  initiatedBy : ∀ text, run.initiatedBy = some text → text.length ≤ 255 ∧ containsNul text = false
  createdAt : run.createdAt % 1000 = 0
  progress : run.ProgressFits
  itemResults : ItemsFit run.itemResults

/-- The runs agree in the columns that an update does not set. -/
structure OrchestrationRun.SameOrigin (run old : OrchestrationRun) : Prop where
  tenantId : run.tenantId = old.tenantId
  intentId : run.intentId = old.intentId
  actionIds : run.actionIds = old.actionIds
  initiatedBy : run.initiatedBy = old.initiatedBy
  createdAt : run.createdAt = old.createdAt

/-- A run with its progress as the columns hold it. -/
def OrchestrationRun.progressInColumns (run : OrchestrationRun) : OrchestrationRun :=
  { run with
    startedAt := run.startedAt.map timestamptz
    completedAt := run.completedAt.map timestamptz
    succeededCount := asUsize (asI32 run.succeededCount)
    failedCount := asUsize (asI32 run.failedCount)
    skippedCount := asUsize (asI32 run.skippedCount)
    notFoundCount := asUsize (asI32 run.notFoundCount)
    totalCount := asUsize (asI32 run.totalCount) }

theorem OrchestrationRun.progressInColumns_eq {run : OrchestrationRun} :
    run.progressInColumns = run ↔ run.ProgressFits := by
  constructor
  · intro h
    exact {
      startedAt := map_timestamptz_eq_self.mp (congrArg startedAt h)
      completedAt := map_timestamptz_eq_self.mp (congrArg completedAt h)
      succeededCount := asUsize_asI32.mp (congrArg succeededCount h)
      failedCount := asUsize_asI32.mp (congrArg failedCount h)
      skippedCount := asUsize_asI32.mp (congrArg skippedCount h)
      notFoundCount := asUsize_asI32.mp (congrArg notFoundCount h)
      totalCount := asUsize_asI32.mp (congrArg totalCount h) }
  · intro h
    rw [progressInColumns, map_timestamptz_eq_self.mpr h.startedAt,
      map_timestamptz_eq_self.mpr h.completedAt, asUsize_asI32.mpr h.succeededCount,
      asUsize_asI32.mpr h.failedCount, asUsize_asI32.mpr h.skippedCount,
      asUsize_asI32.mpr h.notFoundCount, asUsize_asI32.mpr h.totalCount]

/-- The row that is bound for a run reads back as the run in its columns. -/
theorem RunRow.bind_ok {run : OrchestrationRun} {row : RunRow} (h : bind run = .ok row) :
    row.id = run.id ∧ ItemsFit run.itemResults ∧
      nullableVarchar 255 run.initiatedBy = .ok row.initiatedBy ∧
      rowToRun row = .ok { run.progressInColumns with
        initiatedBy := row.initiatedBy
        createdAt := timestamptz run.createdAt } := by
  rw [bind] at h
  cases hby : nullableVarchar 255 run.initiatedBy with
  | error e => rw [hby] at h; cases h
  | ok initiatedBy =>
  cases hitems : itemResultsColumn run.itemResults with
  | error e => rw [hby, hitems] at h; cases h
  | ok itemResults =>
    obtain ⟨hfit, rfl⟩ := itemResultsColumn_ok.mp hitems
    rw [hby, hitems] at h
    cases h
    refine ⟨rfl, hfit, rfl, ?_⟩
    rw [rowToRun, runStatusFromString_toString]
    rfl

/-- The columns take a run as it is exactly if it fits them. -/
theorem RunRow.bind_iff {run : OrchestrationRun} :
    (∃ row, bind run = .ok row ∧ rowToRun row = .ok run) ↔ run.Fits := by
  constructor
  · rintro ⟨row, hbind, hrow⟩
    obtain ⟨-, hitems, hby, hread⟩ := bind_ok hbind
    have hkept := Except.ok.inj (hread.symm.trans hrow)
    have hinitiatedBy : row.initiatedBy = run.initiatedBy :=
      congrArg OrchestrationRun.initiatedBy hkept
    have hcreatedAt : timestamptz run.createdAt = run.createdAt :=
      congrArg OrchestrationRun.createdAt hkept
    rw [hinitiatedBy, hcreatedAt] at hkept
    exact {
      initiatedBy := nullableVarchar_eq_self.mp (hinitiatedBy ▸ hby)
      createdAt := timestamptz_eq_self.mp hcreatedAt
      progress := OrchestrationRun.progressInColumns_eq.mp hkept
      itemResults := hitems }
  · intro h
    have hbind : ∃ row, bind run = .ok row ∧ row.initiatedBy = run.initiatedBy := by
      rw [bind, nullableVarchar_eq_self.mpr h.initiatedBy,
        itemResultsColumn_ok.mpr ⟨h.itemResults, rfl⟩]
      exact ⟨_, rfl, rfl⟩
    obtain ⟨row, hbind, hby⟩ := hbind
    refine ⟨row, hbind, ?_⟩
    rw [(bind_ok hbind).2.2.2, hby, timestamptz_eq_self.mpr h.createdAt,
      OrchestrationRun.progressInColumns_eq.mpr h.progress]

/-- The values of a run that its row holds as they are. -/
theorem rowToRun_origin {row : RunRow} {run : OrchestrationRun} (h : rowToRun row = .ok run) :
    row.id = run.id ∧ row.tenantId = run.tenantId ∧ row.intentId = run.intentId ∧
      row.actionIds = run.actionIds ∧ row.initiatedBy = run.initiatedBy ∧
      row.createdAt = run.createdAt := by
  rw [rowToRun] at h
  cases hstatus : runStatusFromString row.status with
  | error e => rw [hstatus] at h; cases h
  | ok status =>
    rw [hstatus] at h
    cases h
    exact ⟨rfl, rfl, rfl, rfl, rfl, rfl⟩

/-- A run in its columns, where the ones that an update does not set hold those of another. -/
def OrchestrationRun.setOn (run old : OrchestrationRun) : OrchestrationRun :=
  { run.progressInColumns with
    id := old.id
    tenantId := old.tenantId
    intentId := old.intentId
    actionIds := old.actionIds
    initiatedBy := old.initiatedBy
    createdAt := old.createdAt }

theorem rowToRun_set {row : RunRow} {old : OrchestrationRun} (h : rowToRun row = .ok old)
    (run : OrchestrationRun) :
    rowToRun (row.set run run.itemResults) = .ok (run.setOn old) := by
  obtain ⟨hid, htenant, hintent, hactions, hby, hcreated⟩ := rowToRun_origin h
  rw [rowToRun, RunRow.set, runStatusFromString_toString, OrchestrationRun.setOn, ← hid, ← htenant,
    ← hintent, ← hactions, ← hby, ← hcreated]
  rfl

/-- A run is set on one of its identifier as it is exactly if its progress fits and the columns that
are not set hold what it has. -/
theorem OrchestrationRun.eq_setOn {run old : OrchestrationRun} (hid : old.id = run.id) :
    run = run.setOn old ↔ run.ProgressFits ∧ run.SameOrigin old := by
  rw [← progressInColumns_eq]
  constructor
  · intro h
    have horigin : run.SameOrigin old := {
      tenantId := (congrArg tenantId h).trans rfl
      intentId := (congrArg intentId h).trans rfl
      actionIds := (congrArg actionIds h).trans rfl
      initiatedBy := (congrArg initiatedBy h).trans rfl
      createdAt := (congrArg createdAt h).trans rfl }
    refine ⟨?_, horigin⟩
    rw [setOn, hid, ← horigin.tenantId, ← horigin.intentId, ← horigin.actionIds,
      ← horigin.initiatedBy, ← horigin.createdAt] at h
    exact h.symm
  · rintro ⟨hkept, horigin⟩
    rw [setOn, hkept, hid, ← horigin.tenantId, ← horigin.intentId, ← horigin.actionIds,
      ← horigin.initiatedBy, ← horigin.createdAt]

end RunColumns

section RunCalls

inductive RunCall where
  | create (run : OrchestrationRun)
  | get (runId : Uuid)
  | update (run : OrchestrationRun)
  | listByTenant (tenantId : Uuid) (limit : Option Nat)

inductive RunReply where
  | run (result : Except IntentRebaseError OrchestrationRun)
  | runs (result : Except IntentRebaseError (List OrchestrationRun))

inductive RunReply.Same : RunReply → RunReply → Prop
  | run {r r' : Except IntentRebaseError OrchestrationRun} (h : SameResult r r') :
      Same (.run r) (.run r')
  | runs {r r' : Except IntentRebaseError (List OrchestrationRun)} (h : SameResult r r') :
      Same (.runs r) (.runs r')

theorem RunReply.same_run {r r' : Except IntentRebaseError OrchestrationRun} :
    RunReply.Same (.run r) (.run r') ↔ SameResult r r' := by
  refine ⟨fun h => ?_, .run⟩
  cases h with
  | run h => exact h

theorem RunReply.same_runs {r r' : Except IntentRebaseError (List OrchestrationRun)} :
    RunReply.Same (.runs r) (.runs r') ↔ SameResult r r' := by
  refine ⟨fun h => ?_, .runs⟩
  cases h with
  | runs h => exact h

/-- What a repository replies to a call, and its state after it. -/
def RunCall.apply {σ : Type} (repo : OrchestrationRunRepository σ) (s : σ) :
    RunCall → RunReply × σ
  | .create run => (.run (repo.create s run).1, (repo.create s run).2)
  | .get runId => (.run (repo.get s runId), s)
  | .update run => (.run (repo.update s run).1, (repo.update s run).2)
  | .listByTenant tenantId limit => (.runs (repo.listByTenant s tenantId limit), s)

def inMemoryRunCall (_ : IterOrder RunRow) (call : RunCall)
    (s : InMemoryOrchestrationRunRepository) : RunReply × InMemoryOrchestrationRunRepository :=
  call.apply InMemoryOrchestrationRunRepository.repository s

def sqlxRunCall (scan : IterOrder RunRow) (call : RunCall) (t : SqlxRunRepository) :
    RunReply × SqlxRunRepository :=
  call.apply (SqlxRunRepository.repository scan) t

/-- The map and its index after a call. -/
def RunCall.next (s : InMemoryOrchestrationRunRepository) (call : RunCall) :
    InMemoryOrchestrationRunRepository :=
  (call.apply InMemoryOrchestrationRunRepository.repository s).2

/-- The table has a row for each run of the map, and no other. -/
def SameRunRecords (s : InMemoryOrchestrationRunRepository) (t : SqlxRunRepository) : Prop :=
  ReadsAs rowToRun t.rows s.runs

/-- Both hold the same runs, each under its own identifier and created at a time of its own, and
the index of the map lists every run of it once. -/
structure SameRuns (s : InMemoryOrchestrationRunRepository) (t : SqlxRunRepository) : Prop where
  records : SameRunRecords s t
  keyed : ∀ id run, s.runs.lookup id = some run → run.id = id
  indexed : SecondaryIndex.Exact s.runs OrchestrationRun.tenantId s.byTenant
  times : ∀ id id' run run', s.runs.lookup id = some run → s.runs.lookup id' = some run' →
    run.createdAt = run'.createdAt → id = id'

/-- A run is created under a new identifier, at a new time. -/
def RunCall.Fresh (s : InMemoryOrchestrationRunRepository) : RunCall → Prop
  | .create run => s.runs.lookup run.id = none ∧
      ∀ id old, s.runs.lookup id = some old → old.createdAt ≠ run.createdAt
  | _ => True

/-- The call does not reach a difference between the two repositories. -/
def RunCall.InStep (s : InMemoryOrchestrationRunRepository) : RunCall → Prop
  | .create run => run.Fits
  | .get _ => True
  | .update run => ItemsFit run.itemResults ∧ ∀ old, s.runs.lookup run.id = some old →
      run.ProgressFits ∧ run.SameOrigin old
  | .listByTenant tenantId limit =>
    LimitAlike limit
      (((pairs s.runs).map Prod.snd).filter fun run => run.tenantId = tenantId).length

end RunCalls

section RunStatements

variable {t : SqlxRunRepository} {run : OrchestrationRun}

theorem SqlxRunRepository.create_error {e : String} (h : RunRow.bind run = .error e) :
    t.create run = (.error (.storageError s!"insert orchestration run: {e}"), t) := by
  rw [create]
  split
  · next e' hbind =>
    rw [h] at hbind
    cases hbind
    rfl
  · next row hbind =>
    rw [h] at hbind
    cases hbind

theorem SqlxRunRepository.create_ok {row : RunRow} (h : RunRow.bind run = .ok row)
    (hfree : t.rows.lookup row.id = none) :
    (t.create run).1 = .ok run ∧ (t.create run).2.rows = t.rows.insert row.id row := by
  rw [create]
  split
  · next e hbind =>
    rw [h] at hbind
    cases hbind
  · next row' hbind =>
    rw [h] at hbind
    cases hbind
    rw [hfree]
    exact ⟨rfl, rfl⟩

end RunStatements

namespace SameRuns

variable {s : InMemoryOrchestrationRunRepository} {t : SqlxRunRepository} {run : OrchestrationRun}

theorem get (h : SameRuns s t) (runId : Uuid) : SameResult (s.get runId) (t.get runId) := by
  rw [InMemoryOrchestrationRunRepository.get, RunRepo.get, SqlxRunRepository.get]
  cases hlookup : s.runs.lookup runId with
  | none =>
    rw [(ReadsAs.lookup_eq_none h.records).mpr hlookup]
    exact .refl _
  | some run =>
    obtain ⟨row, hrow, hread⟩ := ReadsAs.read_row h.records hlookup
    rw [hrow]
    dsimp only
    rw [hread]
    exact .refl _

/-- The runs of a tenant are created at different times. -/
theorem nodup_times (h : SameRuns s t) (tenantId : Uuid) :
    ((((pairs s.runs).map Prod.snd).filter fun run => run.tenantId = tenantId).map
      OrchestrationRun.createdAt).Nodup := by
  refine (List.filter_sublist.map _).nodup ?_
  rw [List.map_map]
  refine List.Nodup.map_on ?_ (.of_map Prod.fst (nodup_pairs_keys s.runs))
  rintro ⟨id, run⟩ hmem ⟨id', run'⟩ hmem' htime
  have hrun := mem_pairs.mp hmem
  have hrun' := mem_pairs.mp hmem'
  obtain rfl := h.times id id' run run' hrun hrun' htime
  rw [Option.some.inj (hrun.symm.trans hrun')]

theorem listByTenant (h : SameRuns s t) (scan : IterOrder RunRow) (tenantId : Uuid)
    (limit : Option Nat) :
    SameResult (s.listByTenant tenantId limit) (t.listByTenant scan tenantId limit) ↔
      RunCall.InStep s (.listByTenant tenantId limit) := by
  have hrow : ∀ row run, rowToRun row = .ok run → row.createdAt = run.createdAt ∧
      decide (row.tenantId = tenantId) = decide (run.tenantId = tenantId) := by
    intro row run hread
    obtain ⟨-, htenant, -, -, -, hcreated⟩ := rowToRun_origin hread
    exact ⟨hcreated, by rw [htenant]⟩
  have hlisted := h.indexed.values_perm tenantId
  have hscanned := ReadsAs.scanLatest h.records hrow scan hlisted
    ((hlisted.map _).nodup_iff.mpr (h.nodup_times tenantId))
  have hlimited := limited_iff hscanned limit
    "list orchestration runs by tenant: LIMIT must not be negative"
  rw [(latestFirst_perm OrchestrationRun.createdAt _).length_eq, hlisted.length_eq] at hlimited
  exact hlimited

/-- The map takes any run; the table takes one as it is that fits the columns. -/
theorem create (h : SameRuns s t) (hfree : s.runs.lookup run.id = none) :
    SameResult (s.create run).1 (t.create run).1 ∧
        SameRunRecords (s.create run).2 (t.create run).2 ↔
      run.Fits := by
  rw [← RunRow.bind_iff]
  cases hbind : RunRow.bind run with
  | error e =>
    rw [SqlxRunRepository.create_error hbind]
    exact iff_of_false (fun hboth => by cases hboth.1) (by simp)
  | ok row =>
    have hid : row.id = run.id := (RunRow.bind_ok hbind).1
    have hfree' : t.rows.lookup row.id = none := by
      rw [hid]
      exact (ReadsAs.lookup_eq_none h.records).mpr hfree
    obtain ⟨hanswer, hrows⟩ := SqlxRunRepository.create_ok hbind hfree'
    have hinsert := ReadsAs.insert_iff h.records run.id row run
    rw [hanswer, SameRunRecords, hrows, hid]
    simp only [Except.ok.injEq, exists_eq_left']
    exact (and_iff_right (.refl _)).trans hinsert

/-- The map replaces a stored run; the table sets some of its columns. -/
theorem update (h : SameRuns s t) :
    SameResult (s.update run).1 (t.update run).1 ∧
        SameRunRecords (s.update run).2 (t.update run).2 ↔
      RunCall.InStep s (.update run) := by
  rw [InMemoryOrchestrationRunRepository.update, RunRepo.update, SqlxRunRepository.update]
  cases hitems : itemResultsColumn run.itemResults with
  | error e =>
    have hunfit : ¬ ItemsFit run.itemResults := fun hfit => by
      rw [itemResultsColumn_ok.mpr ⟨hfit, rfl⟩] at hitems
      cases hitems
    refine iff_of_false (fun hboth => ?_) fun hin => hunfit hin.1
    have hsame := hboth.1
    cases hlookup : s.runs.lookup run.id with
    | none =>
      rw [hlookup] at hsame
      cases hsame with
      | error hkind => cases hkind
    | some old =>
      rw [hlookup] at hsame
      cases hsame
  | ok itemResults =>
    obtain ⟨hfit, rfl⟩ := itemResultsColumn_ok.mp hitems
    cases hlookup : s.runs.lookup run.id with
    | none =>
      rw [(ReadsAs.lookup_eq_none h.records).mpr hlookup]
      refine iff_of_true ⟨.refl _, h.records⟩ ⟨hfit, fun old hold => ?_⟩
      rw [hlookup] at hold
      cases hold
    | some old =>
      obtain ⟨row, hrow, hread⟩ := ReadsAs.read_row h.records hlookup
      rw [hrow]
      dsimp only
      rw [rowToRun_set hread run, sameResult_ok, OrchestrationRun.eq_setOn (h.keyed _ _ hlookup)]
      have hinsert := (ReadsAs.insert_iff h.records run.id (row.set run run.itemResults) run).symm
      rw [rowToRun_set hread run, Except.ok.injEq, eq_comm,
        OrchestrationRun.eq_setOn (h.keyed _ _ hlookup)] at hinsert
      constructor
      · rintro ⟨hset, -⟩
        refine ⟨hfit, fun old' hold => ?_⟩
        obtain rfl := Option.some.inj (hlookup.symm.trans hold)
        exact hset
      · rintro ⟨-, hset⟩
        exact ⟨hset old hlookup, hinsert.mp (hset old hlookup)⟩

/-- A value put under its identifier leaves each value under its own. -/
theorem keyed_insert (h : SameRuns s t) (run : OrchestrationRun) (id : Uuid)
    (run' : OrchestrationRun) (hrun' : (s.runs.insert run.id run).lookup id = some run') :
    run'.id = id := by
  rw [lookup_insert_eq] at hrun'
  split at hrun'
  · next heq =>
    obtain rfl := Option.some.inj hrun'
    exact heq.symm
  · exact h.keyed id run' hrun'

/-- A run whose time no run has but the one it replaces leaves each time to one run. -/
theorem times_insert (h : SameRuns s t)
    (hnew : ∀ id old, s.runs.lookup id = some old → old.createdAt = run.createdAt → id = run.id) :
    ∀ id id' r r', (s.runs.insert run.id run).lookup id = some r →
      (s.runs.insert run.id run).lookup id' = some r' → r.createdAt = r'.createdAt → id = id' := by
  intro id id' r r' hr hr' htime
  rw [lookup_insert_eq] at hr hr'
  split at hr
  · next hid =>
    obtain rfl := Option.some.inj hr
    split at hr'
    · next hid' => exact hid.trans hid'.symm
    · exact hid.trans (hnew id' r' hr' htime.symm).symm
  · split at hr'
    · next hid' =>
      obtain rfl := Option.some.inj hr'
      exact (hnew id r hr htime).trans hid'.symm
    · exact h.times id id' r r' hr hr' htime

/-- A call in step leaves both with the same runs. -/
theorem next (h : SameRuns s t) {call : RunCall} (hfresh : call.Fresh s) (hstep : call.InStep s)
    (scan : IterOrder RunRow) : SameRuns (call.next s) (sqlxRunCall scan call t).2 := by
  cases call with
  | create run =>
    exact {
      records := ((h.create hfresh.1).mpr hstep).2
      keyed := h.keyed_insert run
      indexed := h.indexed.insert run hfresh.1
      times := h.times_insert fun id old hold htime => absurd htime (hfresh.2 id old hold) }
  | update run =>
    have hrecords : SameRunRecords (s.update run).2 (t.update run).2 := (h.update.mpr hstep).2
    change SameRuns (s.update run).2 (t.update run).2
    cases hlookup : s.runs.lookup run.id with
    | none =>
      have hstate : (s.update run).2 = s := by
        rw [InMemoryOrchestrationRunRepository.update, RunRepo.update, hlookup]
      rw [hstate] at hrecords ⊢
      exact { h with records := hrecords }
    | some old =>
      have hstate : (s.update run).2 = { s with runs := s.runs.insert run.id run } := by
        rw [InMemoryOrchestrationRunRepository.update, RunRepo.update_stored hlookup]
      have horigin := (hstep.2 old hlookup).2
      rw [hstate] at hrecords ⊢
      exact {
        records := hrecords
        keyed := h.keyed_insert run
        indexed := h.indexed.update hlookup horigin.tenantId
        times := h.times_insert fun id other hother htime =>
          h.times id run.id other old hother hlookup (htime.trans horigin.createdAt) }
  | get runId => exact h
  | listByTenant tenantId limit => exact h

/-- A call gets the same reply from both, whatever the scan, and leaves the same runs exactly if it
is in step. -/
theorem call (h : SameRuns s t) {call : RunCall} (hfresh : call.Fresh s) :
    (∀ scan, RunReply.Same (inMemoryRunCall scan call s).1 (sqlxRunCall scan call t).1) ∧
      SameRunRecords (call.next s) (sqlxRunCall (.id _) call t).2 ↔ call.InStep s := by
  cases call with
  | create run =>
    refine Iff.trans (and_congr_left fun _ => ?_) (h.create hfresh.1)
    exact ⟨fun hsame => RunReply.same_run.mp (hsame (.id _)), fun hsame _ => .run hsame⟩
  | get runId => exact iff_of_true ⟨fun _ => .run (h.get runId), h.records⟩ trivial
  | update run =>
    refine Iff.trans (and_congr_left fun _ => ?_) h.update
    exact ⟨fun hsame => RunReply.same_run.mp (hsame (.id _)), fun hsame _ => .run hsame⟩
  | listByTenant tenantId limit =>
    constructor
    · exact fun hsame =>
        (h.listByTenant (.id _) tenantId limit).mp (RunReply.same_runs.mp (hsame.1 (.id _)))
    · exact fun hin =>
        ⟨fun scan => .runs ((h.listByTenant scan tenantId limit).mpr hin), h.records⟩

end SameRuns

/-- The two repositories of runs cannot be told apart by any part of a sequence of calls from its
start. -/
def RunsInterchangeable (s : InMemoryOrchestrationRunRepository) (t : SqlxRunRepository)
    (calls : List RunCall) : Prop :=
  ∀ before, before <+: calls →
    Agree inMemoryRunCall sqlxRunCall RunReply.Same SameRunRecords s t before

theorem sqlxRunCall_state (scan scan' : IterOrder RunRow) (call : RunCall)
    (t : SqlxRunRepository) : (sqlxRunCall scan call t).2 = (sqlxRunCall scan' call t).2 := by
  cases call <;> simp only [sqlxRunCall, RunCall.apply, SqlxRunRepository.repository]

theorem runsInterchangeable_iff {s : InMemoryOrchestrationRunRepository} {t : SqlxRunRepository}
    (h : SameRuns s t) {calls : List RunCall}
    (hfresh : AllSteps RunCall.next (fun s call => call.Fresh s) s calls) :
    RunsInterchangeable s t calls ↔
      AllSteps RunCall.next (fun s call => call.InStep s) s calls := by
  have hscan : Nonempty (IterOrder RunRow) := ⟨.id _⟩
  have hleft : ∀ scan (call : RunCall) s, (inMemoryRunCall scan call s).2 = call.next s :=
    fun _ _ _ => rfl
  have hright := fun scan => sqlxRunCall_state scan (.id _)
  -- the runs so far are those of the map
  refine agree_prefixes_iff (fun c s t => c = s ∧ SameRuns s t) hleft hright ?_ ?_
    (fun _ _ _ h => h.2.records) ⟨rfl, h⟩ hfresh
  · rintro c s t call ⟨rfl, h⟩ hfresh
    exact h.call hfresh
  · rintro c s t call ⟨rfl, h⟩ hfresh hstep
    exact ⟨rfl, h.next hfresh hstep (.id _)⟩

/-- From the same contents, and for calls that create records and runs under new identifiers at new
times, the repositories of rollback records and those of orchestration runs are interchangeable
exactly if every call is in step. For rollback records, a creation is of a record that fits the
columns, a record that is asked for exists, the limit of a tenant's listing cuts alike, and every
other listing is of records that were created from the latest recorded on. For runs, a creation is
of a run that fits the columns, an update names items that fit and, of a stored run, a progress that
fits and the stored values of the other columns, and the limit of a listing cuts alike. -/
theorem recordRepositories_interchangeable_iff {created : List SideEffectRollbackRecord}
    {records : InMemoryRollbackRecordRepository} {recordTable : RollbackTable}
    (hrecords : SameRollbacks created records recordTable)
    {runs : InMemoryOrchestrationRunRepository} {runTable : SqlxRunRepository}
    (hruns : SameRuns runs runTable)
    (recordCalls : List RollbackCall) (runCalls : List RunCall)
    (hfreshRecords : AllSteps RollbackCall.next (fun created call => call.Fresh created) created
      recordCalls)
    (hfreshRuns : AllSteps RunCall.next (fun s call => call.Fresh s) runs runCalls) :
    (RollbacksInterchangeable records recordTable recordCalls ↔
      AllSteps RollbackCall.next (fun created call => call.InStep created) created recordCalls) ∧
    (RunsInterchangeable runs runTable runCalls ↔
      AllSteps RunCall.next (fun s call => call.InStep s) runs runCalls) :=
  ⟨rollbacksInterchangeable_iff hrecords hfreshRecords, runsInterchangeable_iff hruns hfreshRuns⟩

theorem sameRollbacks_empty : SameRollbacks [] .new ∅ where
  holds := .new
  records := fun _ => rfl
  times := .nil

def SqlxRunRepository.empty : SqlxRunRepository := ⟨∅, readable_empty⟩

theorem sameRuns_empty : SameRuns .new .empty where
  records := fun _ => rfl
  keyed := fun _ _ h => (by cases h)
  indexed := .empty
  times := fun _ _ _ _ h => (by cases h)

/-- The record of a refund. -/
def SideEffectRollbackRecord.sample : SideEffectRollbackRecord :=
  .success ⟨7, 1000⟩ 1 2 3 4 "refunded" (some "operator")

/-- A run that was not started. -/
def OrchestrationRun.sample : OrchestrationRun := .new 9 1000 1 [2] (some "operator") none

/-- A record that is created, read and listed, and a run that is created, started and listed, look
the same in both. -/
theorem recordRepositories_interchangeable_sample :
    RollbacksInterchangeable .new ∅
        [.create .sample, .get 7, .listByTenant 1 none, .listByIntent 4 1] ∧
      RunsInterchangeable .new .empty
        [.create .sample, .update (OrchestrationRun.sample.markStarted 2000),
          .listByTenant 1 (some 5)] := by
  have hlimit : LimitAlike none 1 := ⟨by unfold asI32; decide, by unfold asI32; decide⟩
  have hlimit' : LimitAlike (some 5) 1 := ⟨by unfold asI32; decide, by unfold asI32; decide⟩
  have hitems : ItemsFit [] := fun _ h => (by cases h)
  obtain ⟨hrecords, hruns⟩ := recordRepositories_interchangeable_iff sameRollbacks_empty
    sameRuns_empty
    [.create .sample, .get 7, .listByTenant 1 none, .listByIntent 4 1]
    [.create .sample, .update (OrchestrationRun.sample.markStarted 2000), .listByTenant 1 (some 5)]
    ⟨⟨List.not_mem_nil, List.not_mem_nil⟩, trivial, trivial, trivial, trivial⟩
    ⟨⟨rfl, fun _ _ h => (by cases h)⟩, trivial, trivial, trivial⟩
  constructor
  · refine hrecords.mpr ⟨?_, List.mem_singleton.mpr rfl, hlimit, List.pairwise_singleton _ _,
      trivial⟩
    constructor
    all_goals decide
  · have hzero : CountKept 0 := .inl (by decide)
    have hone : CountKept 1 := .inl (by decide)
    have hcreated : OrchestrationRun.sample.ProgressFits :=
      ⟨by decide, by decide, hzero, hzero, hzero, hzero, hone⟩
    have hstarted : (OrchestrationRun.sample.markStarted 2000).ProgressFits :=
      ⟨by decide, by decide, hzero, hzero, hzero, hzero, hone⟩
    refine hruns.mpr ⟨⟨by decide, by decide, hcreated, hitems⟩,
      ⟨hitems, fun old hold => ⟨hstarted, ?_⟩⟩, hlimit', trivial⟩
    cases hold
    exact ⟨rfl, rfl, rfl, rfl, rfl⟩

/-- The error of the map for a record that it does not have is another than that of the table. -/
theorem not_recordRepositories_interchangeable :
    ¬ ∀ (created : List SideEffectRollbackRecord) (records : InMemoryRollbackRecordRepository)
      (table : RollbackTable), SameRollbacks created records table → ∀ calls,
      AllSteps RollbackCall.next (fun created call => call.Fresh created) created calls →
        RollbacksInterchangeable records table calls := by
  intro h
  have hsame := h [] .new ∅ sameRollbacks_empty [.get 7] ⟨trivial, trivial⟩ _ List.prefix_rfl
    fun _ => .id _
  obtain ⟨hanswer, -⟩ := List.forall₂_cons.mp hsame.1
  cases hanswer with
  | record hresult =>
    cases hresult with
    | error hkind => cases hkind

end IntentRebase
