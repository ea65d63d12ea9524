import IntentRebase.Kit.SecondaryIndex
import IntentRebase.Kit.Transition
import IntentRebase.Kit.VersionChain
import IntentRebase.Types.Intent

/-! The in-memory repository of intents and their versions. Every call holds the locks of the three
maps, so that the calls of any clients come one after another. -/

namespace IntentRebase

open Kit

/-- What a creation of an intent draws: two identifiers, a tenant for a request without one, and the
time. -/
structure CreateIntentDraw where
  intentId : Uuid
  versionId : Uuid
  tenantId : Uuid
  now : DateTime

/-- What a creation of a version draws. -/
structure CreateVersionDraw where
  versionId : Uuid
  now : DateTime

structure InMemoryIntentRepository where
  intents : HashMap Uuid Intent
  versions : HashMap Uuid IntentVersion
  versionsByIntent : SecondaryIndex Uuid Uuid

namespace InMemoryIntentRepository

/-- The empty repository. -/
def new : InMemoryIntentRepository where
  intents := ∅
  versions := ∅
  versionsByIntent := ∅

section Operations

variable (computePayloadHash : IntentPayload → String) (s : InMemoryIntentRepository)

/-- The intent document of a request. -/
def newIntent (draw : CreateIntentDraw) (request : CreateIntentRequest) : Intent where
  id := draw.intentId
  tenantId := request.tenantId.getD draw.tenantId
  workflowId := request.workflowId
  currentVersion := 1
  status := .active
  createdAt := draw.now
  createdBy := request.createdBy
  sourceRefs := request.sourceRefs
  tags := request.tags

/-- The first version of a request's intent. -/
def initialVersion (draw : CreateIntentDraw) (request : CreateIntentRequest) : IntentVersion where
  id := draw.versionId
  intentId := draw.intentId
  versionNumber := 1
  parentVersionId := none
  createdAt := draw.now
  createdBy := request.createdBy
  changeReason := "Initial creation"
  changeChannel := .userEdit
  status := .active
  hash := computePayloadHash request.payload
  payload := request.payload

/-- A further version of an intent. -/
def nextVersion (draw : CreateVersionDraw) (intentId : Uuid) (request : CreateVersionRequest)
    (newVersionNumber : Int) (parentVersionId : Option Uuid) : IntentVersion where
  id := draw.versionId
  intentId := intentId
  versionNumber := newVersionNumber
  parentVersionId := parentVersionId
  createdAt := draw.now
  createdBy := request.createdBy
  changeReason := request.changeReason
  changeChannel := request.changeChannel
  status := .active
  hash := computePayloadHash request.payload
  payload := request.payload

def createIntentTx (draw : CreateIntentDraw) (request : CreateIntentRequest) :
    Except IntentRebaseError CreateIntentResponse × InMemoryIntentRepository :=
  (.ok { intentId := draw.intentId, currentVersion := 1, status := .active },
    { intents := s.intents.insert draw.intentId (newIntent draw request)
      versions := s.versions.insert draw.versionId
        (initialVersion computePayloadHash draw request)
      versionsByIntent := s.versionsByIntent.insert draw.intentId [draw.versionId] })

def getIntent (id : Uuid) : Except IntentRebaseError Intent :=
  match s.intents.lookup id with
  | some intent => .ok intent
  | none => .error (.intentNotFound id)

/-- The row version is not tracked here. -/
def createVersionWithOcc (draw : CreateVersionDraw) (intentId : Uuid)
    (request : CreateVersionRequest) (expectedVersion _expectedRowVersion : Int) :
    Except IntentRebaseError CreateVersionResponse × InMemoryIntentRepository :=
  match s.intents.lookup intentId with
  | none => (.error (.intentNotFound intentId), s)
  | some intent =>
    if intent.currentVersion ≠ expectedVersion then (.error (.concurrencyConflict intentId), s)
    else
      let newVersionNumber := intent.currentVersion + 1
      let parentVersionId := (s.versionsByIntent.lookup intentId).bind List.getLast?
      let version := nextVersion computePayloadHash draw intentId request newVersionNumber
        parentVersionId
      (.ok { intentVersionId := draw.versionId, intentId, versionNumber := newVersionNumber
             status := .active },
        { intents := s.intents.insert intentId { intent with currentVersion := newVersionNumber }
          versions := s.versions.insert draw.versionId version
          versionsByIntent := s.versionsByIntent.push intentId draw.versionId })

def getVersion (id : Uuid) : Except IntentRebaseError IntentVersion :=
  match s.versions.lookup id with
  | some version => .ok version
  | none => .error (.intentVersionNotFound id)

def getVersionsByIntent (intentId : Uuid) : List IntentVersion :=
  let versionIds := s.versionsByIntent.bucket intentId
  let result := versionIds.filterMap s.versions.lookup
  result.insertionSort fun a b => a.versionNumber ≤ b.versionNumber

def getVersionByIntentAndNumber (intentId : Uuid) (versionNumber : Int) :
    Except IntentRebaseError IntentVersion :=
  match (s.getVersionsByIntent intentId).find? fun v => v.versionNumber == versionNumber with
  | some version => .ok version
  | none => .error (.invalidIntentVersion
      s!"version {versionNumber} not found for intent {intentId.display}")

/-- The row version is a placeholder here. -/
def getIntentForUpdate (id : Uuid) : Except IntentRebaseError (Intent × Int) :=
  match s.getIntent id with
  | .ok intent => .ok (intent, 0)
  | .error e => .error e

end Operations

end InMemoryIntentRepository

/-- A call that creates an intent or a version, with what it draws. -/
inductive IntentCall where
  | createIntent (draw : CreateIntentDraw) (request : CreateIntentRequest)
  | createVersion (draw : CreateVersionDraw) (intentId : Uuid) (request : CreateVersionRequest)
      (expectedVersion expectedRowVersion : Int)

inductive IntentResponse where
  | intent (response : CreateIntentResponse)
  | version (response : CreateVersionResponse)

/-- The intent and the version number that a response reports as created. -/
def IntentResponse.created : IntentResponse → Uuid × Int
  | .intent response => (response.intentId, response.currentVersion)
  | .version response => (response.intentId, response.versionNumber)

/-- A call and its answer. -/
structure IntentEvent where
  call : IntentCall
  answer : Except IntentRebaseError IntentResponse

namespace IntentEvent

/-- The event creates this version of this intent. -/
def creates (intentId : Uuid) (number : Int) (event : IntentEvent) : Bool :=
  match event.answer with
  | .ok response => response.created = (intentId, number)
  | .error _ => false

end IntentEvent

namespace InMemoryIntentRepository

variable (computePayloadHash : IntentPayload → String)

/-- A call on the repository. -/
def apply (s : InMemoryIntentRepository) :
    IntentCall → Except IntentRebaseError IntentResponse × InMemoryIntentRepository
  | .createIntent draw request =>
    let (answer, s') := s.createIntentTx computePayloadHash draw request
    (answer.map .intent, s')
  | .createVersion draw intentId request expectedVersion expectedRowVersion =>
    let (answer, s') := s.createVersionWithOcc computePayloadHash draw intentId request
      expectedVersion expectedRowVersion
    (answer.map .version, s')

/-- The identifiers that a call draws are new. -/
def Fresh (s : InMemoryIntentRepository) : IntentCall → Prop
  | .createIntent draw _ =>
    s.intents.lookup draw.intentId = none ∧ s.versions.lookup draw.versionId = none
  | .createVersion draw _ _ _ _ => s.versions.lookup draw.versionId = none

/-- A call whose identifiers are new, and its answer. -/
def Step (s : InMemoryIntentRepository) (event : IntentEvent) (s' : InMemoryIntentRepository) :
    Prop :=
  s.Fresh event.call ∧ s.apply computePayloadHash event.call = (event.answer, s')

end InMemoryIntentRepository

/-- How the versions of an intent are numbered and linked. -/
def IntentVersion.versioned : Versioned IntentVersion Uuid where
  number := IntentVersion.versionNumber
  id := IntentVersion.id
  parent := IntentVersion.parentVersionId

namespace InMemoryIntentRepository

/-- The maps are aligned with a history for each intent. -/
structure Aligned (s : InMemoryIntentRepository) (history : Uuid → List IntentVersion) :
    Prop where
  chain : ∀ id, IntentVersion.versioned.Chain (history id)
  owner : ∀ id version, version ∈ history id → version.intentId = id
  stored : ∀ id version, s.versions.lookup id = some version ↔
    version.id = id ∧ version ∈ history version.intentId
  listed : ∀ id, s.versionsByIntent.bucket id = (history id).map IntentVersion.id
  current : ∀ id intent, s.intents.lookup id = some intent →
    intent.currentVersion = (history id).length
  unknown : ∀ id, s.intents.lookup id = none → history id = []
  begun : ∀ id intent, s.intents.lookup id = some intent → history id ≠ []

/-- The histories with one more version. -/
def recorded (history : Uuid → List IntentVersion) (version : IntentVersion) :
    Uuid → List IntentVersion :=
  Function.update history version.intentId (history version.intentId ++ [version])

section Proofs

variable {computePayloadHash : IntentPayload → String} {s s' : InMemoryIntentRepository}
  {history : Uuid → List IntentVersion} {version : IntentVersion} {event : IntentEvent}

theorem mem_recorded {id : Uuid} {other : IntentVersion} :
    other ∈ recorded history version id ↔
      other ∈ history id ∨ id = version.intentId ∧ other = version := by
  rw [recorded, Function.update_apply]
  split
  · next hid => simp [hid]
  · next hid => simp [hid]

theorem Aligned.new : InMemoryIntentRepository.new.Aligned fun _ => [] where
  chain _ := .nil
  owner _ _ h := nomatch h
  stored _ _ := iff_of_false (fun h => nomatch h) (fun h => nomatch h.2)
  listed _ := rfl
  current _ _ h := nomatch h
  unknown _ _ := rfl
  begun _ _ h := nomatch h

/-- A new version at the end of a history keeps the maps aligned. -/
theorem Aligned.record (intent : Intent) (version : IntentVersion) (h : s.Aligned history)
    (hfresh : s.versions.lookup version.id = none)
    (hnumber : version.versionNumber = (history version.intentId).length + 1)
    (hparent : version.parentVersionId =
      (history version.intentId).getLast?.map IntentVersion.id)
    (hcurrent : intent.currentVersion = version.versionNumber)
    (hintents : s'.intents = s.intents.insert version.intentId intent)
    (hversions : s'.versions = s.versions.insert version.id version)
    (hlisted : ∀ id, s'.versionsByIntent.bucket id =
      if id = version.intentId then (history id).map IntentVersion.id ++ [version.id]
      else s.versionsByIntent.bucket id) :
    s'.Aligned (recorded history version) where
  chain id := by
    rw [recorded, Function.update_apply]
    split
    · exact (h.chain version.intentId).concat hnumber hparent
    · exact h.chain id
  owner id other hmem := by
    rcases mem_recorded.mp hmem with hold | ⟨hid, rfl⟩
    · exact h.owner id other hold
    · exact hid.symm
  stored id other := by
    rw [hversions, lookup_insert_eq, mem_recorded]
    split
    · next hid =>
      subst hid
      constructor
      · intro heq
        cases heq
        exact ⟨rfl, .inr ⟨rfl, rfl⟩⟩
      · rintro ⟨hid, hold | ⟨-, rfl⟩⟩
        · have hstored := (h.stored version.id other).mpr ⟨hid, hold⟩
          rw [hfresh] at hstored
          cases hstored
        · rfl
    · next hid =>
      rw [h.stored]
      constructor
      · rintro ⟨rfl, hold⟩
        exact ⟨rfl, .inl hold⟩
      · rintro ⟨rfl, hold | ⟨-, rfl⟩⟩
        · exact ⟨rfl, hold⟩
        · exact absurd rfl hid
  listed id := by
    rw [hlisted, recorded, Function.update_apply]
    split
    · next hid => rw [hid, List.map_append, List.map_singleton]
    · exact h.listed id
  current id other hlookup := by
    rw [hintents, lookup_insert_eq] at hlookup
    rw [recorded, Function.update_apply]
    split at hlookup
    · next hid =>
      cases hlookup
      rw [if_pos hid, hcurrent, hnumber, List.length_append, List.length_singleton]
      rfl
    · next hid =>
      rw [if_neg hid]
      exact h.current id other hlookup
  unknown id hlookup := by
    rw [hintents, lookup_insert_eq] at hlookup
    rw [recorded, Function.update_apply]
    split at hlookup
    · cases hlookup
    · next hid =>
      rw [if_neg hid]
      exact h.unknown id hlookup
  begun id other hlookup := by
    rw [hintents, lookup_insert_eq] at hlookup
    rw [recorded, Function.update_apply]
    split at hlookup
    · next hid =>
      rw [if_pos hid]
      exact List.append_ne_nil_of_right_ne_nil _ (List.cons_ne_nil _ _)
    · next hid =>
      rw [if_neg hid]
      exact h.begun id other hlookup

/-- The versions that the repository lists for an intent are its history. -/
theorem Aligned.getVersionsByIntent (h : s.Aligned history) (id : Uuid) :
    s.getVersionsByIntent id = history id := by
  have hlookup : ∀ version ∈ history id, s.versions.lookup version.id = some version := by
    intro version hmem
    exact (h.stored version.id version).mpr ⟨rfl, (h.owner id version hmem).symm ▸ hmem⟩
  have hread : (s.versionsByIntent.bucket id).filterMap s.versions.lookup = history id := by
    rw [h.listed, List.filterMap_map]
    calc (history id).filterMap (s.versions.lookup ∘ IntentVersion.id)
        = (history id).filterMap some := List.filterMap_congr hlookup
      _ = history id := List.filterMap_some
  rw [InMemoryIntentRepository.getVersionsByIntent]
  simp only [hread]
  exact (h.chain id).sorted.insertionSort_eq

/-- What a step does: it creates nothing and changes nothing, or it records one version. -/
theorem Aligned.step (h : s.Aligned history) (hstep : Step computePayloadHash s event s') :
    (s' = s ∧ ∀ id number, event.creates id number = false) ∨
      ∃ version, s'.Aligned (recorded history version) ∧
        ∀ id number, event.creates id number =
          decide ((version.intentId, version.versionNumber) = (id, number)) := by
  obtain ⟨call, answer⟩ := event
  obtain ⟨hfresh, happly⟩ := hstep
  cases call with
  | createIntent draw request =>
    obtain ⟨hintent, hversion⟩ := hfresh
    have hhistory := h.unknown draw.intentId hintent
    cases happly
    right
    refine ⟨initialVersion computePayloadHash draw request, ?_, fun id number => rfl⟩
    refine h.record (newIntent draw request) (initialVersion computePayloadHash draw request)
      hversion ?_ ?_ rfl rfl rfl fun id => ?_
    · simp [initialVersion, hhistory]
    · simp [initialVersion, hhistory]
    · rw [SecondaryIndex.bucket, lookup_insert_eq]
      split
      · next hid => simp [initialVersion, hid, hhistory]
      · next hid => exact (if_neg hid).symm
  | createVersion draw intentId request expectedVersion expectedRowVersion =>
    simp only [apply, createVersionWithOcc] at happly
    split at happly
    · cases happly
      exact .inl ⟨rfl, fun id number => rfl⟩
    next intent hintent =>
    split at happly
    · cases happly
      exact .inl ⟨rfl, fun id number => rfl⟩
    · cases happly
      right
      refine ⟨_, h.record { intent with currentVersion := intent.currentVersion + 1 }
        (nextVersion computePayloadHash draw intentId request (intent.currentVersion + 1)
          ((s.versionsByIntent.lookup intentId).bind List.getLast?))
        hfresh ?_ ?_ rfl rfl rfl fun id => ?_, fun id number => rfl⟩
      · simp only [nextVersion, h.current intentId intent hintent]
      · simp only [nextVersion, ← SecondaryIndex.getLast?_bucket, h.listed, List.getLast?_map]
      · rw [SecondaryIndex.bucket_push]
        split
        · next hid =>
          rw [← hid, h.listed]
          exact (if_pos rfl).symm
        · next hid => exact (if_neg hid).symm

/-- Along a run the maps stay aligned, and each version was created by one call. -/
theorem Aligned.run {events : List IntentEvent}
    (h : Run (Step computePayloadHash) InMemoryIntentRepository.new events s) :
    ∃ history, s.Aligned history ∧ (∀ id, (history id).length ≤ events.length) ∧
      ∀ id number, events.countP (IntentEvent.creates id number) =
        (history id).countP fun version => version.versionNumber == number := by
  refine h.history (fun before s => ∃ history, s.Aligned history ∧
    (∀ id, (history id).length ≤ before.length) ∧ ∀ id number,
      before.countP (IntentEvent.creates id number) =
        (history id).countP fun version => version.versionNumber == number) ?_
    ⟨fun _ => [], .new, fun _ => Nat.le_refl _, fun _ _ => rfl⟩
  rintro before event after s₁ s₂ - - hstep ⟨history, haligned, hlength, hcount⟩
  rcases haligned.step hstep with ⟨rfl, hnone⟩ | ⟨version, hrecorded, hone⟩
  · refine ⟨history, haligned, fun id => ?_, fun id number => ?_⟩
    · rw [List.length_append]
      exact (hlength id).trans (Nat.le_add_right _ _)
    rw [List.countP_append, hcount, List.countP_singleton, hnone, if_neg Bool.false_ne_true]
    rfl
  · refine ⟨_, hrecorded, fun id => ?_, fun id number => ?_⟩
    · rw [recorded, Function.update_apply, List.length_append]
      split
      · rw [List.length_append]
        exact Nat.add_le_add_right (hlength _) 1
      · exact (hlength id).trans (Nat.le_add_right _ _)
    rw [List.countP_append, hcount, List.countP_singleton, hone, recorded, Function.update_apply]
    by_cases hid : id = version.intentId
    · rw [if_pos hid, List.countP_append, List.countP_singleton, hid]
      simp
    · rw [if_neg hid, if_neg (by simp [Ne.symm hid]), Nat.add_zero]

/-- A version is found by its number at its place in the history. -/
theorem Aligned.getVersionByIntentAndNumber (h : s.Aligned history) {id : Uuid} {number : Int} :
    s.getVersionByIntentAndNumber id number = .ok version ↔
      ∃ k : Nat, (history id)[k]? = some version ∧ number = k + 1 := by
  rw [InMemoryIntentRepository.getVersionByIntentAndNumber, h.getVersionsByIntent]
  constructor
  · intro hget
    split at hget
    · next found hfind =>
      cases hget
      obtain ⟨k, hk⟩ := List.mem_iff_getElem?.mp (List.mem_of_find?_eq_some hfind)
      have hnumber := List.find?_some hfind
      refine ⟨k, hk, ?_⟩
      rw [← eq_of_beq hnumber]
      exact (h.chain id k version hk).1
    · cases hget
  · rintro ⟨k, hk, rfl⟩
    have hfind := (h.chain id).find hk
    rw [(h.chain id k version hk).1] at hfind
    have hfind : (history id).find? (fun v => v.versionNumber == (k : Int) + 1) = some version :=
      hfind
    rw [hfind]

end Proofs

/-- The versions of an intent are numbered from one to its current version without a gap, linked to
one another and found by their numbers, and a stale expectation changes nothing. -/
structure GapFree (computePayloadHash : IntentPayload → String) (s : InMemoryIntentRepository)
    (intentId : Uuid) (intent : Intent) : Prop where
  current : intent.currentVersion = (s.getVersionsByIntent intentId).length
  numbers : (s.getVersionsByIntent intentId).map IntentVersion.versionNumber =
    (List.range (s.getVersionsByIntent intentId).length).map fun k : Nat => (k : Int) + 1
  complete : ∀ id version, s.versions.lookup id = some version → version.intentId = intentId →
    version ∈ s.getVersionsByIntent intentId
  found : ∀ (k : Nat) version, (s.getVersionsByIntent intentId)[k]? = some version →
    s.getVersionByIntentAndNumber intentId (k + 1) = .ok version
  root : ∀ version, s.getVersionByIntentAndNumber intentId 1 = .ok version →
    version.parentVersionId = none
  parent : ∀ number version next, s.getVersionByIntentAndNumber intentId number = .ok version →
    s.getVersionByIntentAndNumber intentId (number + 1) = .ok next →
    next.parentVersionId = some version.id
  stale : ∀ draw request expectedVersion expectedRowVersion,
    expectedVersion ≠ intent.currentVersion →
    s.createVersionWithOcc computePayloadHash draw intentId request expectedVersion
      expectedRowVersion = (.error (.concurrencyConflict intentId), s)

/-- After every run of calls, the history of each intent is free of gaps, and no version number of
an intent was created by two calls. No version number exceeds the number of calls, so that an `i32`
holds it in a run of fewer than `2 ^ 31` of them. -/
theorem versions_gapFree {computePayloadHash : IntentPayload → String}
    {s : InMemoryIntentRepository} {events : List IntentEvent}
    (h : Run (Step computePayloadHash) new events s) :
    (∀ intentId intent, s.intents.lookup intentId = some intent →
      s.GapFree computePayloadHash intentId intent ∧ intent.currentVersion ≤ events.length) ∧
    ∀ intentId number, events.countP (IntentEvent.creates intentId number) ≤ 1 := by
  obtain ⟨history, haligned, hlength, hcount⟩ := Aligned.run h
  constructor
  · intro intentId intent hintent
    have hlist := haligned.getVersionsByIntent intentId
    refine ⟨⟨?_, ?_, ?_, ?_, ?_, ?_, ?_⟩, ?_⟩
    · rw [hlist]
      exact haligned.current intentId intent hintent
    · rw [hlist]
      exact (haligned.chain intentId).numbers
    · rintro id version hversion rfl
      rw [hlist]
      exact ((haligned.stored id version).mp hversion).2
    · intro k version hk
      rw [hlist] at hk
      exact haligned.getVersionByIntentAndNumber.mpr ⟨k, hk, rfl⟩
    · intro version hget
      obtain ⟨k, hk, hnumber⟩ := haligned.getVersionByIntentAndNumber.mp hget
      obtain rfl : k = 0 := by omega
      exact (haligned.chain intentId).first hk
    · intro number version next hget hnext
      obtain ⟨k, hk, rfl⟩ := haligned.getVersionByIntentAndNumber.mp hget
      obtain ⟨k', hk', hnumber⟩ := haligned.getVersionByIntentAndNumber.mp hnext
      obtain rfl : k' = k + 1 := by omega
      exact (haligned.chain intentId).parent_succ hk hk'
    · intro draw request expectedVersion expectedRowVersion hstale
      rw [createVersionWithOcc, hintent]
      exact if_pos hstale.symm
    · rw [haligned.current intentId intent hintent]
      exact Int.ofNat_le.mpr (hlength intentId)
  · intro intentId number
    rw [hcount]
    exact (haligned.chain intentId).countP_number_le number

/-- The payload of the sample calls, and its SHA-256 digest. -/
def samplePayload : IntentPayload := .ofObjective ⟨"Ship", "Shipped", "release"⟩

def sampleHash (_ : IntentPayload) : String :=
  "f0ed589ef656ec501f50ebdf57798abd41c991589f73eda31230de0186f5ec6e"

/-- A request that carries a tenant. -/
def sampleIntentRequest : CreateIntentRequest where
  tenantId := some 5
  workflowId := 2
  sourceRefs := []
  payload := samplePayload
  createdBy := ⟨"user", "u1"⟩
  tags := []

def sampleVersionRequest : CreateVersionRequest where
  payload := samplePayload
  changeReason := "Tighten"
  changeChannel := .userEdit
  createdBy := ⟨"user", "u1"⟩

/-- An intent, a second version, and a call that still expects the first one. -/
def sampleCalls : List IntentCall :=
  [.createIntent ⟨10, 20, 30, 0⟩ sampleIntentRequest,
   .createVersion ⟨21, 1⟩ 10 sampleVersionRequest 1 0,
   .createVersion ⟨22, 2⟩ 10 sampleVersionRequest 1 0]

theorem sampleCalls_run : ∃ (s : InMemoryIntentRepository) (events : List IntentEvent),
    events.map IntentEvent.call = sampleCalls ∧ (s.intents.lookup 10).isSome ∧
      Run (Step sampleHash) new events s :=
  ⟨_, [⟨_, _⟩, ⟨_, _⟩, ⟨_, _⟩], rfl, rfl,
    .cons ⟨⟨rfl, rfl⟩, rfl⟩ (.cons ⟨rfl, rfl⟩ (.cons ⟨rfl, rfl⟩ (.nil _)))⟩

theorem versions_gapFree_sample :
    ∃ (s : InMemoryIntentRepository) (events : List IntentEvent),
      events.map IntentEvent.call = sampleCalls ∧ (s.intents.lookup 10).isSome ∧
      (∀ intent, s.intents.lookup 10 = some intent → s.GapFree sampleHash 10 intent ∧
        intent.currentVersion ≤ events.length) ∧
      events.countP (IntentEvent.creates 10 2) ≤ 1 := by
  obtain ⟨s, events, hcalls, hstored, hrun⟩ := sampleCalls_run
  have hsafe := versions_gapFree hrun
  exact ⟨s, events, hcalls, hstored, hsafe.1 10, hsafe.2 10 2⟩

end InMemoryIntentRepository

end IntentRebase
