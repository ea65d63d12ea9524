import IntentRebase.Forensic.BundleService
import IntentRebase.Intent.InMemoryRepository
import IntentRebase.Intent.PolicySnapshotRepository
import IntentRebase.Types.AuditRepository
import Mathlib.Algebra.BigOperators.Group.List.Basic

/-! The collection of the records of intents in a range of time, and the count of those that are
available: without a tenant, the count asks for the records of the nil tenant. -/

namespace IntentRebase

open Kit

def ChangeChannel.debug : ChangeChannel → String
  | .userEdit => "UserEdit"
  | .webhook => "Webhook"
  | .policyUpdate => "PolicyUpdate"
  | .systemNormalization => "SystemNormalization"

structure CollectionCounts where
  intentCount : Nat
  versionCount : Nat
  auditEventCount : Nat
  policySnapshotCount : Nat

/-- The sum of what is counted in each collected intent. -/
def CollectionResult.sum (result : CollectionResult) (count : CollectedIntentData → Nat) : Nat :=
  (result.intents.map count).sum

/-- The counts are the numbers of the intents, versions, events and snapshots collected. -/
structure CollectionCounts.Agree (counts : CollectionCounts) (result : CollectionResult) :
    Prop where
  intents : counts.intentCount = result.intents.length
  versions : counts.versionCount = result.sum fun data => data.versions.length
  auditEvents : counts.auditEventCount = result.sum fun data => data.auditEvents.length
  policySnapshots :
    counts.policySnapshotCount = result.sum fun data => data.policySnapshots.length

/-- The repositories, as what they answer. -/
structure RealForensicDataCollector where
  getIntent : Uuid → Except IntentRebaseError Intent
  getVersionsByIntent : Uuid → Except IntentRebaseError (List IntentVersion)
  listAuditEvents : Uuid → Uuid → Except IntentRebaseError (List AuditEvent)
  listPolicySnapshots : Uuid → Uuid → Except IntentRebaseError (List PolicySnapshot)

/-- The snapshots of an intent, the newest version first. -/
def InMemoryPolicySnapshotRepository.listByIntent (s : InMemoryPolicySnapshotRepository)
    (intentId tenantId : Uuid) : Except IntentRebaseError (List PolicySnapshot) :=
  let found := (s.byIntent.bucket intentId).filterMap s.snapshots.lookup
  .ok (latestFirst PolicySnapshot.intentVersion
    (found.filter fun snapshot => snapshot.tenantId = tenantId))

/-- The time is between the two, or one of them. -/
def inTimeRange (timeRange : DateTime × DateTime) (t : DateTime) : Bool :=
  timeRange.1 ≤ t && t ≤ timeRange.2

namespace RealForensicDataCollector

/-- The collector over the repositories in memory. -/
def inMemory (intents : InMemoryIntentRepository) (audit : InMemoryAuditRepository)
    (snapshots : InMemoryPolicySnapshotRepository) : RealForensicDataCollector where
  getIntent := intents.getIntent
  getVersionsByIntent intentId := .ok (intents.getVersionsByIntent intentId)
  listAuditEvents := audit.listByIntent
  listPolicySnapshots := snapshots.listByIntent

section Collection

variable (self : RealForensicDataCollector) (tenantId : Option Uuid)
  (timeRange : DateTime × DateTime)

def verifyTenantAccess (intentId : Uuid) (intent : Intent) : Except CollectorError Unit :=
  match tenantId with
  | none => .ok ()
  | some tid =>
    if intent.tenantId ≠ tid then
      .error (.tenantAccessDenied
        s!"intent {intentId.display} does not belong to tenant {tid.display}")
    else .ok ()

def collectIntent (intentId : Uuid) : Except CollectorError CollectedIntentData := do
  let intent ← (self.getIntent intentId).mapError fun e =>
    .repository s!"failed to get intent {intentId.display}: {e.display}"
  verifyTenantAccess tenantId intentId intent
  let versions ← (self.getVersionsByIntent intentId).mapError fun e =>
    .repository s!"failed to get versions for intent {intentId.display}: {e.display}"
  let auditEvents ← (self.listAuditEvents intentId intent.tenantId).mapError fun e =>
    .repository s!"failed to get audit events for intent {intentId.display}: {e.display}"
  let policySnapshots ← (self.listPolicySnapshots intentId intent.tenantId).mapError fun e =>
    .repository s!"failed to get policy snapshots for intent {intentId.display}: {e.display}"
  return {
    intentId
    tenantId := some intent.tenantId
    name := s!"intent-{intentId.display}"
    versions := (versions.filter fun v => inTimeRange timeRange v.createdAt).map fun v => {
      versionNumber := .ofInt v.versionNumber
      summary := s!"Version {v.versionNumber}"
      changeType := v.changeChannel.debug
      createdAt := v.createdAt }
    policySnapshots := policySnapshots.filter fun s => inTimeRange timeRange s.createdAt
    auditEvents := auditEvents.filter fun e => inTimeRange timeRange e.occurredAt }

/-- The intents one after another; the first that cannot be read ends the collection. -/
def collectIntents : List Uuid → CollectionResult → Except CollectorError CollectionResult
  | [], result => .ok result
  | intentId :: rest, result => do
    let data ← self.collectIntent tenantId timeRange intentId
    collectIntents rest { result with
      intents := result.intents ++ [data]
      totalAuditEvents := result.totalAuditEvents + data.auditEvents.length
      totalPolicySnapshots := result.totalPolicySnapshots + data.policySnapshots.length }

def collect (now : DateTime) (intentIds : List Uuid) : Except CollectorError CollectionResult :=
  if timeRange.2 < timeRange.1 then
    .error (.invalidTimeRange "start time must be before end time")
  else
    self.collectIntents tenantId timeRange intentIds {
      tenantId
      intentId := intentIds.head?.getD .nil
      collectedAt := now
      intents := []
      totalAuditEvents := 0
      totalPolicySnapshots := 0 }

/-- How many rows of an answer are in the range; an answer that failed has none. -/
def countInRange {α : Type} (time : α → DateTime) : Except IntentRebaseError (List α) → Nat
  | .ok rows => (rows.filter fun row => inTimeRange timeRange (time row)).length
  | .error _ => 0

/-- One more intent is counted, unless it is missing or of another tenant. -/
def countIntent (counts : CollectionCounts) (intentId : Uuid) : CollectionCounts :=
  match self.getIntent intentId with
  | .error _ => counts
  | .ok intent =>
    if tenantId.any fun tid => intent.tenantId ≠ tid then counts
    else
      let tenantUuid := tenantId.getD .nil
      { intentCount := counts.intentCount + 1
        versionCount := counts.versionCount +
          countInRange timeRange IntentVersion.createdAt (self.getVersionsByIntent intentId)
        auditEventCount := counts.auditEventCount +
          countInRange timeRange AuditEvent.occurredAt (self.listAuditEvents intentId tenantUuid)
        policySnapshotCount := counts.policySnapshotCount +
          countInRange timeRange PolicySnapshot.createdAt
            (self.listPolicySnapshots intentId tenantUuid) }

def countAvailable (intentIds : List Uuid) : Except CollectorError CollectionCounts :=
  if timeRange.2 < timeRange.1 then
    .error (.invalidTimeRange "start time must be before end time")
  else .ok (intentIds.foldl (self.countIntent tenantId timeRange) ⟨0, 0, 0, 0⟩)

/-- The collector of the bundle service, at a time. -/
def collector (now : DateTime) : ForensicDataCollector where
  collect tenantId intentIds timeRange := self.collect tenantId timeRange now intentIds

end Collection

section Agreement

variable (self : RealForensicDataCollector) (timeRange : DateTime × DateTime)

/-- The tenant of a stored intent. -/
def ownerOf (intentId : Uuid) : Uuid :=
  match self.getIntent intentId with
  | .ok intent => intent.tenantId
  | .error _ => .nil

/-- The events in the range, each intent's as a tenant is shown them. -/
def auditEventsOf (tenantOf : Uuid → Uuid) (intentIds : List Uuid) : Nat :=
  (intentIds.map fun intentId => countInRange timeRange AuditEvent.occurredAt
    (self.listAuditEvents intentId (tenantOf intentId))).sum

/-- The snapshots in the range, each intent's as a tenant is shown them. -/
def policySnapshotsOf (tenantOf : Uuid → Uuid) (intentIds : List Uuid) : Nat :=
  (intentIds.map fun intentId => countInRange timeRange PolicySnapshot.createdAt
    (self.listPolicySnapshots intentId (tenantOf intentId))).sum

/-- In the range the nil tenant is shown as many events and snapshots as the intents' tenants. -/
def NilTenantSeesAll (intentIds : List Uuid) : Prop :=
  self.auditEventsOf timeRange (fun _ => .nil) intentIds =
      self.auditEventsOf timeRange self.ownerOf intentIds ∧
    self.policySnapshotsOf timeRange (fun _ => .nil) intentIds =
      self.policySnapshotsOf timeRange self.ownerOf intentIds

variable {self timeRange} {tenantId : Option Uuid} {intentId : Uuid} {data : CollectedIntentData}

theorem verifyTenantAccess_ok {intent : Intent} :
    verifyTenantAccess tenantId intentId intent = .ok () ↔
      ∀ tid ∈ tenantId, intent.tenantId = tid := by
  cases tenantId with
  | none => simp [verifyTenantAccess]
  | some tid => simp [verifyTenantAccess]

/-- What a collected intent holds, and of whom. -/
structure Collected (collector : RealForensicDataCollector) (tenantId : Option Uuid)
    (timeRange : DateTime × DateTime) (intentId : Uuid) (data : CollectedIntentData) : Prop where
  stored : ∃ intent, collector.getIntent intentId = .ok intent ∧
    ∀ tid ∈ tenantId, intent.tenantId = tid
  versions : data.versions.length =
    countInRange timeRange IntentVersion.createdAt (collector.getVersionsByIntent intentId)
  auditEvents : data.auditEvents.length = countInRange timeRange AuditEvent.occurredAt
    (collector.listAuditEvents intentId (collector.ownerOf intentId))
  policySnapshots : data.policySnapshots.length = countInRange timeRange PolicySnapshot.createdAt
    (collector.listPolicySnapshots intentId (collector.ownerOf intentId))

theorem collectIntent_ok (h : self.collectIntent tenantId timeRange intentId = .ok data) :
    self.Collected tenantId timeRange intentId data := by
  obtain ⟨intent, hintent, h⟩ := ok_of_bind h
  obtain ⟨⟨⟩, htenant, h⟩ := ok_of_bind h
  obtain ⟨versions, hversions, h⟩ := ok_of_bind h
  obtain ⟨auditEvents, haudit, h⟩ := ok_of_bind h
  obtain ⟨policySnapshots, hsnapshots, h⟩ := ok_of_bind h
  obtain rfl := Except.ok.inj h
  have howner : self.ownerOf intentId = intent.tenantId := by rw [ownerOf, ok_of_mapError hintent]
  exact {
    stored := ⟨intent, ok_of_mapError hintent, verifyTenantAccess_ok.mp htenant⟩
    versions := by rw [ok_of_mapError hversions, countInRange, List.length_map]
    auditEvents := by rw [howner, ok_of_mapError haudit, countInRange]
    policySnapshots := by rw [howner, ok_of_mapError hsnapshots, countInRange] }

/-- A collected intent is counted, with the events and snapshots that the named tenant is shown. -/
theorem countIntent_collected (h : self.Collected tenantId timeRange intentId data)
    (counts : CollectionCounts) :
    self.countIntent tenantId timeRange counts intentId = {
      intentCount := counts.intentCount + 1
      versionCount := counts.versionCount + data.versions.length
      auditEventCount := counts.auditEventCount + countInRange timeRange AuditEvent.occurredAt
        (self.listAuditEvents intentId (tenantId.getD .nil))
      policySnapshotCount := counts.policySnapshotCount +
        countInRange timeRange PolicySnapshot.createdAt
          (self.listPolicySnapshots intentId (tenantId.getD .nil)) } := by
  obtain ⟨intent, hintent, htenant⟩ := h.stored
  have hown : tenantId.any (fun tid => decide (intent.tenantId ≠ tid)) = false := by
    cases tenantId with
    | none => rfl
    | some tid => simpa using htenant tid rfl
  rw [countIntent, hintent, h.versions]
  simp only [hown, Bool.false_eq_true, if_false]

variable {intentIds : List Uuid}

/-- The collection appends what is collected of every intent, and adds to the totals. -/
theorem collectIntents_ok {result result' : CollectionResult}
    (h : self.collectIntents tenantId timeRange intentIds result = .ok result') :
    ∃ items, result'.intents = result.intents ++ items ∧
      List.Forall₂ (self.Collected tenantId timeRange) intentIds items ∧
      result'.totalAuditEvents =
        result.totalAuditEvents + (items.map fun data => data.auditEvents.length).sum ∧
      result'.totalPolicySnapshots =
        result.totalPolicySnapshots + (items.map fun data => data.policySnapshots.length).sum := by
  induction intentIds generalizing result with
  | nil =>
    obtain rfl := Except.ok.inj h
    exact ⟨[], by simp⟩
  | cons intentId rest ih =>
    obtain ⟨data, hdata, hrest⟩ := ok_of_bind h
    obtain ⟨items, hitems, hcollected, haudit, hsnapshots⟩ := ih hrest
    refine ⟨data :: items, ?_, .cons (collectIntent_ok hdata) hcollected, ?_, ?_⟩
    · rw [hitems, List.append_assoc, List.singleton_append]
    · rw [haudit, List.map_cons, List.sum_cons, Nat.add_assoc]
    · rw [hsnapshots, List.map_cons, List.sum_cons, Nat.add_assoc]

theorem countIntents_collected {items : List CollectedIntentData}
    (h : List.Forall₂ (self.Collected tenantId timeRange) intentIds items)
    (counts : CollectionCounts) :
    intentIds.foldl (self.countIntent tenantId timeRange) counts = {
      intentCount := counts.intentCount + items.length
      versionCount := counts.versionCount + (items.map fun data => data.versions.length).sum
      auditEventCount := counts.auditEventCount +
        self.auditEventsOf timeRange (fun _ => tenantId.getD .nil) intentIds
      policySnapshotCount := counts.policySnapshotCount +
        self.policySnapshotsOf timeRange (fun _ => tenantId.getD .nil) intentIds } := by
  induction h generalizing counts with
  | nil => rfl
  | cons hdata _ ih =>
    rw [List.foldl_cons, ih, countIntent_collected hdata]
    simp only [auditEventsOf, policySnapshotsOf, List.map_cons, List.sum_cons, List.length_cons,
      CollectionCounts.mk.injEq]
    omega

/-- What is collected are the events and snapshots that the intents' own tenants are shown. -/
theorem owned_collected {items : List CollectedIntentData}
    (h : List.Forall₂ (self.Collected tenantId timeRange) intentIds items) :
    (items.map fun data => data.auditEvents.length).sum =
        self.auditEventsOf timeRange self.ownerOf intentIds ∧
      (items.map fun data => data.policySnapshots.length).sum =
        self.policySnapshotsOf timeRange self.ownerOf intentIds := by
  induction h with
  | nil => exact ⟨rfl, rfl⟩
  | cons hdata _ ih =>
    simp only [auditEventsOf, policySnapshotsOf, List.map_cons, List.sum_cons] at ih ⊢
    rw [hdata.auditEvents, hdata.policySnapshots, ih.1, ih.2]
    exact ⟨rfl, rfl⟩

/-- Where a tenant is named, every collected intent is its own. -/
theorem ownerOf_collected {tid : Uuid} {items : List CollectedIntentData}
    (h : List.Forall₂ (self.Collected (some tid) timeRange) intentIds items) :
    ∀ intentId ∈ intentIds, self.ownerOf intentId = tid := by
  induction h with
  | nil => exact fun _ hmem => nomatch hmem
  | cons hdata _ ih =>
    refine List.forall_mem_cons.mpr ⟨?_, ih⟩
    obtain ⟨intent, hintent, htenant⟩ := hdata.stored
    rw [ownerOf, hintent]
    exact htenant tid rfl

end Agreement

/-- A collection that succeeds is counted as it is if and only if a tenant is named, or the nil
tenant is shown as much as the intents' own tenants. -/
theorem collected_counts_iff (self : RealForensicDataCollector) (tenantId : Option Uuid)
    (timeRange : DateTime × DateTime) (now : DateTime) (intentIds : List Uuid)
    {result : CollectionResult}
    (h : self.collect tenantId timeRange now intentIds = .ok result) :
    (∃ counts, self.countAvailable tenantId timeRange intentIds = .ok counts ∧
        counts.Agree result) ↔
      tenantId.isSome ∨ self.NilTenantSeesAll timeRange intentIds := by
  rw [collect] at h
  split at h
  case isTrue => cases h
  case isFalse hrange =>
  obtain ⟨items, hitems, hcollected, -⟩ := collectIntents_ok h
  rw [List.nil_append] at hitems
  obtain ⟨haudit, hsnapshots⟩ := owned_collected hcollected
  have hagree : (∃ counts, self.countAvailable tenantId timeRange intentIds = .ok counts ∧
      counts.Agree result) ↔
      self.auditEventsOf timeRange (fun _ => tenantId.getD .nil) intentIds =
          self.auditEventsOf timeRange self.ownerOf intentIds ∧
        self.policySnapshotsOf timeRange (fun _ => tenantId.getD .nil) intentIds =
          self.policySnapshotsOf timeRange self.ownerOf intentIds := by
    rw [countAvailable, if_neg hrange, countIntents_collected hcollected, ← haudit, ← hsnapshots]
    simp only [Nat.zero_add]
    constructor
    · rintro ⟨counts, hcounts, hsame⟩
      obtain rfl := Except.ok.inj hcounts
      refine ⟨hsame.auditEvents.trans ?_, hsame.policySnapshots.trans ?_⟩
      · rw [CollectionResult.sum, hitems]
      · rw [CollectionResult.sum, hitems]
    · rintro ⟨hevents, hshots⟩
      refine ⟨_, rfl, ⟨?_, ?_, ?_, ?_⟩⟩
      · rw [hitems]
      · rw [CollectionResult.sum, hitems]
      · rw [CollectionResult.sum, hitems, hevents]
      · rw [CollectionResult.sum, hitems, hshots]
  rw [hagree]
  cases tenantId with
  | none => exact (or_iff_right (by simp)).symm
  | some tid =>
    have hown := ownerOf_collected hcollected
    refine iff_of_true ⟨congrArg List.sum (List.map_congr_left fun intentId hmem => ?_),
      congrArg List.sum (List.map_congr_left fun intentId hmem => ?_)⟩ (.inl rfl)
    · rw [hown intentId hmem, Option.getD_some]
    · rw [hown intentId hmem, Option.getD_some]

section Sample

/-- An event of tenant 5 about the intent 10. -/
def sampleEvent : AuditEvent where
  id := 1
  tenantId := 5
  eventType := .intentCreated
  actorId := "user:u1"
  intentId := some 10
  artifactId := none
  payload := .null
  traceId := none
  spanId := none
  occurredAt := 0

/-- The intent 10 of tenant 5 with its first version, and the event. -/
def sample : RealForensicDataCollector :=
  inMemory (InMemoryIntentRepository.new.createIntentTx InMemoryIntentRepository.sampleHash
    ⟨10, 20, 30, 0⟩ InMemoryIntentRepository.sampleIntentRequest).2
    (InMemoryAuditRepository.new.createAuditEvent sampleEvent).2 .new

theorem sample_events : sample.listAuditEvents 10 5 = .ok [sampleEvent] :=
  congrArg Except.ok (List.mergeSort_singleton sampleEvent)

theorem sample_events_nil : sample.listAuditEvents 10 .nil = .ok [] :=
  congrArg Except.ok List.mergeSort_nil

theorem sample_collect (tenantId : Option Uuid) (h : tenantId = none ∨ tenantId = some 5) :
    ∃ result, sample.collect tenantId (0, 9) 9 [10] = .ok result ∧
      result.sum (fun data => data.auditEvents.length) = 1 := by
  obtain ⟨intent, hintent, htenant⟩ : ∃ intent, sample.getIntent 10 = .ok intent ∧
      intent.tenantId = 5 := ⟨_, rfl, rfl⟩
  obtain ⟨versions, hversions⟩ : ∃ versions, sample.getVersionsByIntent 10 = .ok versions :=
    ⟨_, rfl⟩
  have hsnapshots : sample.listPolicySnapshots 10 5 = .ok [] :=
    congrArg Except.ok List.mergeSort_nil
  have haccess : verifyTenantAccess tenantId 10 intent = .ok () := by
    rcases h with rfl | rfl
    · rfl
    · rw [verifyTenantAccess, htenant]
      rfl
  have hrange : inTimeRange (0, 9) sampleEvent.occurredAt = true := by decide
  simp [collect, collectIntents, collectIntent, hintent, htenant, haccess, hversions, hsnapshots,
    sample_events, hrange, Except.mapError, bind, Except.bind, pure, Except.pure,
    CollectionResult.sum]

theorem collected_counts_iff_sample :
    ∃ result, sample.collect (some 5) (0, 9) 9 [10] = .ok result ∧
      ∃ counts, sample.countAvailable (some 5) (0, 9) [10] = .ok counts ∧ counts.Agree result := by
  obtain ⟨result, hcollect, -⟩ := sample_collect (some 5) (.inr rfl)
  exact ⟨result, hcollect, (collected_counts_iff sample (some 5) (0, 9) 9 [10] hcollect).mpr
    (.inl rfl)⟩

/-- Without a tenant the event is collected and not counted. -/
theorem unscoped_count_misses_event :
    ∃ result, sample.collect none (0, 9) 9 [10] = .ok result ∧
      ¬ ∃ counts, sample.countAvailable none (0, 9) [10] = .ok counts ∧ counts.Agree result := by
  obtain ⟨result, hcollect, hevents⟩ := sample_collect none (.inl rfl)
  refine ⟨result, hcollect, ?_⟩
  rintro ⟨counts, hcounts, hagree⟩
  have hnone : counts.auditEventCount = 0 := by
    obtain rfl := Except.ok.inj hcounts
    have hnil : countInRange (0, 9) AuditEvent.occurredAt (sample.listAuditEvents 10 .nil) = 0 := by
      rw [sample_events_nil]
      rfl
    exact (Nat.zero_add _).trans hnil
  cases hnone.symm.trans (hagree.auditEvents.trans hevents)

end Sample

end RealForensicDataCollector

end IntentRebase
