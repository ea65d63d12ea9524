import IntentRebase.Forensic.BundleService

/-! What the section hashes of a bundle bind of the collected data: the entries keep identifiers,
numbers, times of artifacts and scope hashes, and drop everything else. -/

namespace IntentRebase

open Kit

namespace CollectionResult

variable (result : CollectionResult)

/-- The intent and the number of each version. -/
def versionNumbers : List (Uuid × UInt64) :=
  result.intents.flatMap fun intent =>
    intent.versions.map fun v => (intent.intentId, v.versionNumber)

/-- The artifact and the time of each event that has an artifact. -/
def artifactTimes : List (Uuid × DateTime) :=
  result.intents.flatMap fun intent => intent.auditEvents.filterMap fun e =>
    e.artifactId.map fun artifactId => (artifactId, e.occurredAt)

/-- The identifier of each event, and its place among the events of its intent. -/
def eventPlaces : List (Uuid × Nat) :=
  result.intents.flatMap fun intent => intent.auditEvents.zipIdx.map fun p => (p.1.id, p.2)

/-- The identifier and the scope hash of each policy snapshot. -/
def snapshotScopes : List (Uuid × String) :=
  result.intents.flatMap fun intent => intent.policySnapshots.map fun s => (s.id, s.scopeHash)

end CollectionResult

/-- The two results agree on what the entries keep of them. -/
structure SameCovered (result result' : CollectionResult) : Prop where
  versionNumbers : result.versionNumbers = result'.versionNumbers
  artifactTimes : result.artifactTimes = result'.artifactTimes
  eventPlaces : result.eventPlaces = result'.eventPlaces
  snapshotScopes : result.snapshotScopes = result'.snapshotScopes

variable {hasher : Hasher} {request : CreateForensicBundleRequest}
  {result result' : CollectionResult}

theorem hex32_inj {n m : Nat} (hn : n < 16 ^ 32) (hm : m < 16 ^ 32) (h : hex32 n = hex32 m) :
    n = m := hexDigits_inj hn hm (String.ofList_injective h)

/-- The entry of a version has its whole number in its hash, whatever the cast leaves of it. -/
theorem versionEntry_injective : Function.Injective fun p : Uuid × UInt64 =>
    ({ intentId := p.1, version := asI32 p.2.toNat, contentHash := hex32 p.2.toNat } :
      IntentVersionEntry) := by
  rintro ⟨id, n⟩ ⟨id', n'⟩ h
  obtain ⟨hid, _, hhash⟩ := IntentVersionEntry.mk.inj h
  have hn : n.toNat < 16 ^ 32 := n.toNat_lt.trans (by decide)
  have hn' : n'.toNat < 16 ^ 32 := n'.toNat_lt.trans (by decide)
  exact Prod.ext hid (UInt64.toNat_inj.mp (hex32_inj hn hn' hhash))

theorem artifactEntry_injective (hasher : Hasher) : Function.Injective fun p : Uuid × DateTime =>
    ({ artifactId := p.1, contentHash := computeSha256 hasher p.1, collectedAt := p.2 } :
      ArtifactEntry) := by
  rintro ⟨id, time⟩ ⟨id', time'⟩ h
  obtain ⟨hid, _, htime⟩ := ArtifactEntry.mk.inj h
  exact Prod.ext hid htime

theorem eventEntry_injective : Function.Injective fun p : Uuid × Nat =>
    ({ eventId := p.1, contentHash := hex32 p.2, eventIndex := p.2 } : AuditEventEntry) := by
  rintro ⟨id, index⟩ ⟨id', index'⟩ h
  obtain ⟨hid, _, hindex⟩ := AuditEventEntry.mk.inj h
  exact Prod.ext hid hindex

theorem snapshotEntry_injective : Function.Injective fun p : Uuid × String =>
    ({ snapshotId := p.1, scopeHash := p.2 } : PolicySnapshotEntry) := by
  rintro ⟨id, scope⟩ ⟨id', scope'⟩ h
  obtain ⟨hid, hscope⟩ := PolicySnapshotEntry.mk.inj h
  exact Prod.ext hid hscope

theorem intentVersions_eq : (generationRequest hasher request result).intentVersions =
    result.versionNumbers.map fun p =>
      { intentId := p.1, version := asI32 p.2.toNat, contentHash := hex32 p.2.toNat } := by
  simp [generationRequest, CollectionResult.versionNumbers, List.map_flatMap, Function.comp_def]

theorem artifacts_eq : (generationRequest hasher request result).artifacts =
    result.artifactTimes.map fun p =>
      { artifactId := p.1, contentHash := computeSha256 hasher p.1, collectedAt := p.2 } := by
  simp [generationRequest, CollectionResult.artifactTimes, List.map_flatMap, List.map_filterMap,
    Function.comp_def]

theorem auditEvents_eq : (generationRequest hasher request result).auditEvents =
    result.eventPlaces.map fun p =>
      { eventId := p.1, contentHash := hex32 p.2, eventIndex := p.2 } := by
  simp [generationRequest, CollectionResult.eventPlaces, List.map_flatMap, Function.comp_def]

theorem policySnapshots_eq : (generationRequest hasher request result).policySnapshots =
    result.snapshotScopes.map fun p => { snapshotId := p.1, scopeHash := p.2 } := by
  simp [generationRequest, CollectionResult.snapshotScopes, List.map_flatMap, Function.comp_def]

/-- Two results have the same sections exactly if they agree on what the entries keep. -/
theorem sections_eq_iff : (generationRequest hasher request result).sections =
    (generationRequest hasher request result').sections ↔ SameCovered result result' := by
  simp only [GenerateBundleRequest.sections, BundleGeneratorService.buildVerificationSections,
    ContentSectionsForVerification.mk.injEq, IntentVersionsForHash.mk.injEq,
    ArtifactsForHash.mk.injEq, ApprovalsForHash.mk.injEq, AuditEventsForHash.mk.injEq,
    PolicySnapshotsForHash.mk.injEq, intentVersions_eq, artifacts_eq, auditEvents_eq,
    policySnapshots_eq, (List.map_injective_iff.mpr versionEntry_injective).eq_iff,
    (List.map_injective_iff.mpr (artifactEntry_injective hasher)).eq_iff,
    (List.map_injective_iff.mpr eventEntry_injective).eq_iff,
    (List.map_injective_iff.mpr snapshotEntry_injective).eq_iff]
  constructor
  · rintro ⟨hversions, hartifacts, _, hevents, hsnapshots⟩
    exact ⟨hversions, hartifacts, hevents, hsnapshots⟩
  · rintro ⟨hversions, hartifacts, hevents, hsnapshots⟩
    exact ⟨hversions, hartifacts, rfl, hevents, hsnapshots⟩

namespace ForensicBundleService

variable {σ τ : Type} {service : ForensicBundleService σ τ} {env env' : CreationEnvironment}
  {s s' s₁ s₁' : σ × τ} {response response' : CreateForensicBundleResponse}

/-- The section hashes that a creation answers are those of the entries of what it collects. -/
theorem sectionHashes_createBundle
    (hcollect : env.collector.collect (some request.tenantId) request.intentIds
      (request.timeRange.start, request.timeRange.stop) = .ok result)
    (h : service.createBundle env request s = (.ok response, s₁)) :
    response.bundle.integrity.sectionHashes =
      (generationRequest service.hasher request result).sections.hashes service.hasher := by
  obtain ⟨bundle, _, hprepare, hresponse, _⟩ := createBundle_ok h
  obtain ⟨collected, hcollected, rfl⟩ := prepareBundle_ok hprepare
  obtain rfl := Except.ok.inj (hcollect.symm.trans hcollected)
  rw [hresponse, readyBundle_integrity, BundleGeneratorService.sectionHashes_generate]

/-- The bundles of two collections differ in a section hash exactly if the collections differ in
what the entries keep of them. -/
theorem sectionHashes_differ_iff (htime : Function.Injective service.hasher.timeText)
    (hcollect : env.collector.collect (some request.tenantId) request.intentIds
      (request.timeRange.start, request.timeRange.stop) = .ok result)
    (hcollect' : env'.collector.collect (some request.tenantId) request.intentIds
      (request.timeRange.start, request.timeRange.stop) = .ok result')
    (h : service.createBundle env request s = (.ok response, s₁))
    (h' : service.createBundle env' request s' = (.ok response', s₁'))
    (hfree : CollisionFree service.hasher.digest
      ((generationRequest service.hasher request result).sections.documents
          service.hasher.timeText ++
        (generationRequest service.hasher request result').sections.documents
          service.hasher.timeText)) :
    response.bundle.integrity.sectionHashes ≠ response'.bundle.integrity.sectionHashes ↔
      ¬ SameCovered result result' := by
  rw [sectionHashes_createBundle hcollect h, sectionHashes_createBundle hcollect' h', ne_eq,
    (hashesBind htime hfree).hashes_eq, sections_eq_iff]

/-- An event with a payload. -/
def sampleEvent (payload : Json) : AuditEvent where
  id := 0
  tenantId := 1
  eventType := .intentCreated
  actorId := "system"
  intentId := some 7
  artifactId := none
  payload := payload
  traceId := none
  spanId := none
  occurredAt := 0

/-- An intent with one event and some versions. -/
def sampleIntent (versions : List CollectedVersionData) (payload : Json) : CollectedIntentData where
  intentId := 7
  tenantId := some 1
  name := "intent-7"
  versions := versions
  policySnapshots := []
  auditEvents := [sampleEvent payload]

/-- A version and the one after it. -/
def sampleVersions : List CollectedVersionData := [⟨1, "first", "Api", 0⟩, ⟨2, "second", "Api", 0⟩]

theorem sectionHashes_differ_iff_sample : ∃ response response' s₁ s₁',
    (inMemory BundleReplayService.entriesHasher).createBundle
        (sampleEnvironment [sampleIntent sampleVersions .null]) sampleRequest (.new, .new) =
          (.ok response, s₁) ∧
      (inMemory BundleReplayService.entriesHasher).createBundle
        (sampleEnvironment [sampleIntent (sampleVersions.take 1) .null]) sampleRequest
        (.new, .new) = (.ok response', s₁') ∧
      response.bundle.integrity.sectionHashes ≠ response'.bundle.integrity.sectionHashes := by
  obtain ⟨response, s₁, h⟩ : ∃ response s₁,
      (inMemory BundleReplayService.entriesHasher).createBundle
        (sampleEnvironment [sampleIntent sampleVersions .null]) sampleRequest (.new, .new) =
          (.ok response, s₁) := ⟨_, _, rfl⟩
  obtain ⟨response', s₁', h'⟩ : ∃ response s₁,
      (inMemory BundleReplayService.entriesHasher).createBundle
        (sampleEnvironment [sampleIntent (sampleVersions.take 1) .null]) sampleRequest
        (.new, .new) = (.ok response, s₁) := ⟨_, _, rfl⟩
  have hsections : (generationRequest BundleReplayService.entriesHasher sampleRequest
        (collected [sampleIntent sampleVersions .null])).sections =
          BundleReplayService.twoVersions.sections ∧
      (generationRequest BundleReplayService.entriesHasher sampleRequest
        (collected [sampleIntent (sampleVersions.take 1) .null])).sections =
          BundleReplayService.oneVersion.sections := by decide +kernel
  have hfree := BundleReplayService.collisionFree_entries
  rw [← hsections.1, ← hsections.2] at hfree
  have hcollect : ∀ intents, (sampleEnvironment intents).collector.collect
      (some sampleRequest.tenantId) sampleRequest.intentIds
      (sampleRequest.timeRange.start, sampleRequest.timeRange.stop) = .ok (collected intents) :=
    fun _ => rfl
  have hdiffer := sectionHashes_differ_iff sampleTimeText_injective (hcollect _) (hcollect _) h h'
    hfree
  refine ⟨response, response', s₁, s₁', h, h', hdiffer.mpr fun hsame => ?_⟩
  cases hsame.versionNumbers

/-- A summary and a payload can be altered without a trace in the section hashes, whatever the
hasher. -/
theorem not_altered_evidence_detected :
    ¬ ∃ hasher, ∀ intents intents' : List CollectedIntentData,
      intents.map (·.intentId) = intents'.map (·.intentId) → intents ≠ intents' →
      ∀ response response' s₁ s₁',
        (inMemory hasher).createBundle (sampleEnvironment intents) sampleRequest (.new, .new) =
          (.ok response, s₁) →
        (inMemory hasher).createBundle (sampleEnvironment intents') sampleRequest (.new, .new) =
          (.ok response', s₁') →
        response.bundle.integrity.sectionHashes ≠ response'.bundle.integrity.sectionHashes := by
  rintro ⟨hasher, h⟩
  refine h [sampleIntent [⟨1, "first", "Api", 0⟩] .null]
    [sampleIntent [⟨1, "altered", "Api", 0⟩] (.bool true)] rfl ?_ _ _ _ _ rfl rfl rfl
  simp [sampleIntent]

end ForensicBundleService

end IntentRebase
