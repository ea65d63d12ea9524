import IntentRebase.Graph.Repository
import IntentRebase.Kit.LatestFirst

/-! The records of executed and waived compensation actions, and the repository that keeps them in
memory, under five indexes. -/

namespace IntentRebase

open Kit

inductive RollbackRecordResult where
  | success | failure | waived
deriving DecidableEq, Repr

/-- A record of an executed or waived compensation action. -/
structure SideEffectRollbackRecord where
  id : Uuid
  tenantId : Uuid
  compensationActionId : Uuid
  sideEffectId : Uuid
  intentId : Uuid
  result : RollbackRecordResult
  summary : String
  errorCode : Option String
  errorDetail : Option String
  recordedBy : Option String
  recordedAt : DateTime
  lockVersion : Int
deriving DecidableEq, Repr

namespace SideEffectRollbackRecord

section Constructors

variable (draw : Draw) (tenantId compensationActionId sideEffectId intentId : Uuid)
  (summary : String)

def success (recordedBy : Option String) : SideEffectRollbackRecord where
  id := draw.id
  tenantId := tenantId
  compensationActionId := compensationActionId
  sideEffectId := sideEffectId
  intentId := intentId
  result := .success
  summary := summary
  errorCode := none
  errorDetail := none
  recordedBy := recordedBy
  recordedAt := draw.now
  lockVersion := 0

def failureWithActor (errorCode : String) (errorDetail recordedBy : Option String) :
    SideEffectRollbackRecord where
  id := draw.id
  tenantId := tenantId
  compensationActionId := compensationActionId
  sideEffectId := sideEffectId
  intentId := intentId
  result := .failure
  summary := summary
  errorCode := some errorCode
  errorDetail := errorDetail
  recordedBy := recordedBy
  recordedAt := draw.now
  lockVersion := 0

def waived (recordedBy : Option String) : SideEffectRollbackRecord where
  id := draw.id
  tenantId := tenantId
  compensationActionId := compensationActionId
  sideEffectId := sideEffectId
  intentId := intentId
  result := .waived
  summary := summary
  errorCode := none
  errorDetail := none
  recordedBy := recordedBy
  recordedAt := draw.now
  lockVersion := 0

end Constructors

end SideEffectRollbackRecord

/-- A repository of rollback records whose state is a `σ`. -/
structure RollbackRecordRepository (σ : Type) where
  create : σ → SideEffectRollbackRecord → Except IntentRebaseError SideEffectRollbackRecord × σ
  get : σ → Uuid → Except IntentRebaseError SideEffectRollbackRecord
  listByTenant : σ → Uuid → Option Nat → Except IntentRebaseError (List SideEffectRollbackRecord)
  listByCompensationAction : σ → Uuid → Uuid →
    Except IntentRebaseError (List SideEffectRollbackRecord)
  listBySideEffect : σ → Uuid → Uuid → Except IntentRebaseError (List SideEffectRollbackRecord)
  listByIntent : σ → Uuid → Uuid → Except IntentRebaseError (List SideEffectRollbackRecord)
  listByResult : σ → Uuid → RollbackRecordResult →
    Except IntentRebaseError (List SideEffectRollbackRecord)

/-- The repository that is the list of what was created in it. -/
def RollbackRecordRepository.log : RollbackRecordRepository (List SideEffectRollbackRecord) where
  create created record := (.ok record, created ++ [record])
  get created recordId :=
    match created.find? fun record => record.id = recordId with
    | some record => .ok record
    | none => .error (.internal s!"rollback record not found: {recordId.display}")
  listByTenant created tenantId limit :=
    let found := latestFirst SideEffectRollbackRecord.recordedAt
      (created.filter fun record => record.tenantId = tenantId)
    .ok (match limit with
      | some limit => found.take limit
      | none => found)
  listByCompensationAction created compensationActionId tenantId :=
    .ok (created.filter fun record =>
      record.tenantId = tenantId && record.compensationActionId = compensationActionId)
  listBySideEffect created sideEffectId tenantId :=
    .ok (created.filter fun record =>
      record.tenantId = tenantId && record.sideEffectId = sideEffectId)
  listByIntent created intentId tenantId :=
    .ok (created.filter fun record => (record.tenantId, record.intentId) = (tenantId, intentId))
  listByResult created tenantId result :=
    .ok (created.filter fun record => (record.tenantId, record.result) = (tenantId, result))

structure InMemoryRollbackRecordRepository where
  records : HashMap Uuid SideEffectRollbackRecord
  byTenant : SecondaryIndex Uuid Uuid
  byCompensationAction : SecondaryIndex Uuid Uuid
  bySideEffect : SecondaryIndex Uuid Uuid
  /-- By tenant and intent. -/
  byIntent : SecondaryIndex (Uuid × Uuid) Uuid
  /-- By tenant and result. -/
  byResult : SecondaryIndex (Uuid × RollbackRecordResult) Uuid

namespace InMemoryRollbackRecordRepository

def new : InMemoryRollbackRecordRepository := ⟨∅, ∅, ∅, ∅, ∅, ∅⟩

section Calls

variable (s : InMemoryRollbackRecordRepository)

def create (record : SideEffectRollbackRecord) :
    Except IntentRebaseError SideEffectRollbackRecord × InMemoryRollbackRecordRepository :=
  (.ok record, {
    records := s.records.insert record.id record
    byTenant := s.byTenant.push record.tenantId record.id
    byCompensationAction := s.byCompensationAction.push record.compensationActionId record.id
    bySideEffect := s.bySideEffect.push record.sideEffectId record.id
    byIntent := s.byIntent.push (record.tenantId, record.intentId) record.id
    byResult := s.byResult.push (record.tenantId, record.result) record.id })

def get (recordId : Uuid) : Except IntentRebaseError SideEffectRollbackRecord :=
  match s.records.lookup recordId with
  | some record => .ok record
  | none => .error (.internal s!"rollback record not found: {recordId.display}")

def listByTenant (tenantId : Uuid) (limit : Option Nat) :
    Except IntentRebaseError (List SideEffectRollbackRecord) :=
  let found := latestFirst SideEffectRollbackRecord.recordedAt
    ((s.byTenant.bucket tenantId).filterMap s.records.lookup)
  .ok (match limit with
    | some limit => found.take limit
    | none => found)

def listByCompensationAction (compensationActionId tenantId : Uuid) :
    Except IntentRebaseError (List SideEffectRollbackRecord) :=
  .ok (((s.byCompensationAction.bucket compensationActionId).filterMap s.records.lookup).filter
    fun record => record.tenantId = tenantId)

def listBySideEffect (sideEffectId tenantId : Uuid) :
    Except IntentRebaseError (List SideEffectRollbackRecord) :=
  .ok (((s.bySideEffect.bucket sideEffectId).filterMap s.records.lookup).filter
    fun record => record.tenantId = tenantId)

def listByIntent (intentId tenantId : Uuid) :
    Except IntentRebaseError (List SideEffectRollbackRecord) :=
  .ok ((s.byIntent.bucket (tenantId, intentId)).filterMap s.records.lookup)

def listByResult (tenantId : Uuid) (result : RollbackRecordResult) :
    Except IntentRebaseError (List SideEffectRollbackRecord) :=
  .ok ((s.byResult.bucket (tenantId, result)).filterMap s.records.lookup)

end Calls

def repository : RollbackRecordRepository InMemoryRollbackRecordRepository :=
  { create, get, listByTenant, listByCompensationAction, listBySideEffect, listByIntent,
    listByResult }

/-- The repository holds the records, created in this order under identifiers of their own. -/
structure Holds (s : InMemoryRollbackRecordRepository) (created : List SideEffectRollbackRecord) :
    Prop where
  stored : (pairs s.records).Perm (created.map fun record => (record.id, record))
  byTenant : s.byTenant.Lists SideEffectRollbackRecord.id
    (fun tenantId record => record.tenantId = tenantId) created
  byCompensationAction : s.byCompensationAction.Lists SideEffectRollbackRecord.id
    (fun actionId record => record.compensationActionId = actionId) created
  bySideEffect : s.bySideEffect.Lists SideEffectRollbackRecord.id
    (fun sideEffectId record => record.sideEffectId = sideEffectId) created
  byIntent : s.byIntent.Lists SideEffectRollbackRecord.id
    (fun key record => (record.tenantId, record.intentId) = key) created
  byResult : s.byResult.Lists SideEffectRollbackRecord.id
    (fun key record => (record.tenantId, record.result) = key) created

variable {s : InMemoryRollbackRecordRepository} {created : List SideEffectRollbackRecord}

theorem Holds.new : Holds new [] where
  stored := .rfl
  byTenant := .empty
  byCompensationAction := .empty
  bySideEffect := .empty
  byIntent := .empty
  byResult := .empty

theorem Holds.lookup (h : s.Holds created) :
    ∀ record ∈ created, s.records.lookup record.id = some record := fun record hmem =>
  mem_pairs.mp (h.stored.mem_iff.mpr (List.mem_map.mpr ⟨record, hmem, rfl⟩))

theorem Holds.create (h : s.Holds created) {record : SideEffectRollbackRecord}
    (hnew : record.id ∉ created.map SideEffectRollbackRecord.id) :
    (s.create record).2.Holds (created ++ [record]) where
  stored := by
    have hnotMem : record.id ∉ s.records := fun hmem => by
      obtain ⟨stored, hstored⟩ := mem_iff_lookup.mp hmem
      obtain ⟨other, hother, heq⟩ := List.mem_map.mp (h.stored.mem_iff.mp (mem_pairs.mpr hstored))
      exact hnew (List.mem_map.mpr ⟨other, hother, congrArg Prod.fst heq⟩)
    rw [InMemoryRollbackRecordRepository.create, pairs_insert hnotMem, List.map_append]
    exact (h.stored.cons _).trans (List.perm_append_singleton _ _).symm
  byTenant := h.byTenant.push fun _ => by simp [eq_comm]
  byCompensationAction := h.byCompensationAction.push fun _ => by simp [eq_comm]
  bySideEffect := h.bySideEffect.push fun _ => by simp [eq_comm]
  byIntent := h.byIntent.push fun _ => by simp [eq_comm]
  byResult := h.byResult.push fun _ => by simp [eq_comm]

/-- The listings are those of the log of the created records. -/
theorem Holds.listByTenant (h : s.Holds created) (tenantId : Uuid) (limit : Option Nat) :
    s.listByTenant tenantId limit =
      RollbackRecordRepository.log.listByTenant created tenantId limit := by
  unfold InMemoryRollbackRecordRepository.listByTenant
  rw [h.byTenant.values h.lookup]
  rfl

theorem Holds.listByCompensationAction (h : s.Holds created) (actionId tenantId : Uuid) :
    s.listByCompensationAction actionId tenantId =
      RollbackRecordRepository.log.listByCompensationAction created actionId tenantId := by
  rw [InMemoryRollbackRecordRepository.listByCompensationAction,
    h.byCompensationAction.values h.lookup, List.filter_filter]
  rfl

theorem Holds.listBySideEffect (h : s.Holds created) (sideEffectId tenantId : Uuid) :
    s.listBySideEffect sideEffectId tenantId =
      RollbackRecordRepository.log.listBySideEffect created sideEffectId tenantId := by
  rw [InMemoryRollbackRecordRepository.listBySideEffect, h.bySideEffect.values h.lookup,
    List.filter_filter]
  rfl

theorem Holds.listByIntent (h : s.Holds created) (intentId tenantId : Uuid) :
    s.listByIntent intentId tenantId =
      RollbackRecordRepository.log.listByIntent created intentId tenantId := by
  rw [InMemoryRollbackRecordRepository.listByIntent, h.byIntent.values h.lookup]
  rfl

theorem Holds.listByResult (h : s.Holds created) (tenantId : Uuid) (result : RollbackRecordResult) :
    s.listByResult tenantId result =
      RollbackRecordRepository.log.listByResult created tenantId result := by
  rw [InMemoryRollbackRecordRepository.listByResult, h.byResult.values h.lookup]
  rfl

/-- The record is in each of the listings under its own keys once. -/
structure ListedOnce (s : InMemoryRollbackRecordRepository) (record : SideEffectRollbackRecord) :
    Prop where
  byCompensationAction : ∃ listed, listed.count record = 1 ∧
    repository.listByCompensationAction s record.compensationActionId record.tenantId = .ok listed
  bySideEffect : ∃ listed, listed.count record = 1 ∧
    repository.listBySideEffect s record.sideEffectId record.tenantId = .ok listed
  byIntent : ∃ listed, listed.count record = 1 ∧
    repository.listByIntent s record.intentId record.tenantId = .ok listed
  byResult : ∃ listed, listed.count record = 1 ∧
    repository.listByResult s record.tenantId record.result = .ok listed

/-- The created records have identifiers of their own. -/
theorem Holds.nodup_ids (h : s.Holds created) :
    (created.map SideEffectRollbackRecord.id).Nodup := by
  have hkeys := nodup_pairs_keys s.records
  rwa [(h.stored.map Prod.fst).nodup_iff, List.map_map] at hkeys

theorem Holds.listedOnce (h : s.Holds created) {record : SideEffectRollbackRecord}
    (hmem : record ∈ created) : s.ListedOnce record := by
  have hcount : ∀ p : SideEffectRollbackRecord → Bool, p record = true →
      (created.filter p).count record = 1 := fun p hp => by
    rw [List.count_filter hp]
    exact List.nodup_iff_count_eq_one.mp (h.nodup_ids.of_map _) record hmem
  exact {
    byCompensationAction := ⟨_, hcount _ (by simp), h.listByCompensationAction _ _⟩
    bySideEffect := ⟨_, hcount _ (by simp), h.listBySideEffect _ _⟩
    byIntent := ⟨_, hcount _ (by simp), h.listByIntent _ _⟩
    byResult := ⟨_, hcount _ (by simp), h.listByResult _ _⟩ }

end InMemoryRollbackRecordRepository

end IntentRebase
