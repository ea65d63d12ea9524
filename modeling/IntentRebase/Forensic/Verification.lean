import IntentRebase.Forensic.RealCollector

/-! The verification of a request for one intent, which reports what a bundle would hold. It goes by
the counts of what is available, which do not include the artifacts. -/

namespace IntentRebase

open Kit

inductive VerificationPurpose where
  | incidentInvestigation | complianceAudit | legal
deriving DecidableEq, Repr

structure VerificationTimeRange where
  start : DateTime
  stop : DateTime

structure ForensicVerificationRequest where
  tenantId : Uuid
  intentId : Uuid
  timeRange : VerificationTimeRange
  purpose : VerificationPurpose := .incidentInvestigation
  includeArtifacts : Bool := true
  includeAuditEvents : Bool := true
  includePolicySnapshots : Bool := true

inductive VerificationStatus where
  | ready | incomplete | notSupported
deriving DecidableEq, Repr

structure IntentVersionCoverage where
  intentExists : Bool
  intentId : Uuid
  versionCount : Nat
  earliestVersion : Option DateTime
  latestVersion : Option DateTime
  hasArtifactTraceability : Bool

structure ArtifactCoverage where
  artifactCount : Nat
  artifactsWithProvenance : Nat
  coverageComplete : Bool

structure AuditEventCoverage where
  eventCount : Nat
  timeRangeComplete : Bool
  firstEvent : Option DateTime
  lastEvent : Option DateTime

structure PolicySnapshotCoverage where
  snapshotCount : Nat
  coverageComplete : Bool

structure ForensicVerificationResponse where
  verificationId : Uuid
  verifiedAt : DateTime
  status : VerificationStatus
  statusReason : String
  tenantId : Uuid
  intentId : Uuid
  timeRange : VerificationTimeRange
  purpose : VerificationPurpose
  intentVersionCoverage : IntentVersionCoverage
  artifactCoverage : Option ArtifactCoverage
  auditEventCoverage : Option AuditEventCoverage
  policySnapshotCoverage : Option PolicySnapshotCoverage
  estimatedBundleItemCount : Nat

/-- A response without coverage. The identifier is drawn at random, and the time is the clock. -/
def ForensicVerificationResponse.new (verificationId : Uuid) (verifiedAt : DateTime)
    (tenantId intentId : Uuid) (timeRange : VerificationTimeRange)
    (purpose : VerificationPurpose) : ForensicVerificationResponse where
  verificationId := verificationId
  verifiedAt := verifiedAt
  status := .ready
  statusReason := ""
  tenantId := tenantId
  intentId := intentId
  timeRange := timeRange
  purpose := purpose
  intentVersionCoverage :=
    { intentExists := false, intentId, versionCount := 0, earliestVersion := none
      latestVersion := none, hasArtifactTraceability := false }
  artifactCoverage := none
  auditEventCoverage := none
  policySnapshotCoverage := none
  estimatedBundleItemCount := 0

def ForensicVerificationResponse.computeEstimatedCount (response : ForensicVerificationResponse) :
    ForensicVerificationResponse :=
  let count := response.intentVersionCoverage.versionCount
  let count := match response.artifactCoverage with
    | some artifact => count + artifact.artifactCount
    | none => count
  let count := match response.auditEventCoverage with
    | some audit => count + audit.eventCount
    | none => count
  let count := match response.policySnapshotCoverage with
    | some policy => count + policy.snapshotCount
    | none => count
  { response with estimatedBundleItemCount := count }

namespace RealForensicVerificationService

variable (collector : RealForensicDataCollector) (verificationId : Uuid) (verifiedAt : DateTime)
  (request : ForensicVerificationRequest)

/-- A response with the coverage that is requested, and the status, of some counts. -/
def withCounts (counts : CollectionCounts) (response : ForensicVerificationResponse) :
    ForensicVerificationResponse :=
  let response := { response with
    intentVersionCoverage := { response.intentVersionCoverage with
      intentExists := decide (counts.intentCount > 0)
      versionCount := counts.versionCount } }
  let response := if request.includeArtifacts then
      -- the counts do not include the artifacts
      { response with
        artifactCoverage := some
          { artifactCount := 0, artifactsWithProvenance := 0, coverageComplete := false } }
    else response
  let response := if request.includeAuditEvents then
      { response with
        auditEventCoverage := some
          { eventCount := counts.auditEventCount, timeRangeComplete := false
            firstEvent := none, lastEvent := none } }
    else response
  let response := if request.includePolicySnapshots then
      { response with
        policySnapshotCoverage := some
          { snapshotCount := counts.policySnapshotCount, coverageComplete := false } }
    else response
  if counts.intentCount = 0 then
    { response with
      status := .incomplete
      statusReason := "No matching intents found for tenant in time range" }
  else
    { response with
      status := .ready
      statusReason := "All referenced entities exist and are within time range" }

def verify : ForensicVerificationResponse :=
  let response := ForensicVerificationResponse.new verificationId verifiedAt request.tenantId
    request.intentId request.timeRange request.purpose
  let response := match collector.countAvailable (some request.tenantId)
      (request.timeRange.start, request.timeRange.stop) [request.intentId] with
    | .ok counts => withCounts request counts response
    | .error e =>
      { response with status := .incomplete, statusReason := s!"Failed to verify: {e.display}" }
  response.computeEstimatedCount

end RealForensicVerificationService

/-- The counts of a response are those of the sections of a bundle that its request includes, and
the estimate is their sum. -/
structure Predicts (request : ForensicVerificationRequest)
    (response : ForensicVerificationResponse) (contents : BundleContents) : Prop where
  versions : response.intentVersionCoverage.versionCount = contents.intentVersions
  artifacts : (response.artifactCoverage.map fun c => c.artifactCount) =
    if request.includeArtifacts then some contents.artifacts else none
  auditEvents : (response.auditEventCoverage.map fun c => c.eventCount) =
    if request.includeAuditEvents then some contents.auditEvents else none
  policySnapshots : (response.policySnapshotCoverage.map fun c => c.snapshotCount) =
    if request.includePolicySnapshots then some contents.policySnapshots else none
  estimate : response.estimatedBundleItemCount = contents.intentVersions +
    (if request.includeArtifacts then contents.artifacts else 0) +
    (if request.includeAuditEvents then contents.auditEvents else 0) +
    (if request.includePolicySnapshots then contents.policySnapshots else 0)

/-- The listings of the repositories do not fail. -/
structure RealForensicDataCollector.Answers (collector : RealForensicDataCollector) : Prop where
  versions : ∀ intentId, ∃ rows, collector.getVersionsByIntent intentId = .ok rows
  auditEvents : ∀ intentId tenantId, ∃ rows,
    collector.listAuditEvents intentId tenantId = .ok rows
  policySnapshots : ∀ intentId tenantId, ∃ rows,
    collector.listPolicySnapshots intentId tenantId = .ok rows

/-- A creation of a bundle for the tenant, the intent and the range of a request. -/
structure ForensicVerificationRequest.SameScope (request : ForensicVerificationRequest)
    (creation : CreateForensicBundleRequest) : Prop where
  tenantId : creation.tenantId = request.tenantId
  intentIds : creation.intentIds = [request.intentId]
  timeRange : creation.timeRange = ⟨request.timeRange.start, request.timeRange.stop⟩

namespace RealForensicVerificationService

section Coverage

variable (request : ForensicVerificationRequest) (counts : CollectionCounts)
  (response : ForensicVerificationResponse)

theorem withCounts_versionCount :
    (withCounts request counts response).intentVersionCoverage.versionCount =
      counts.versionCount := by
  unfold withCounts
  dsimp only
  split_ifs <;> rfl

theorem withCounts_artifactCoverage :
    (withCounts request counts response).artifactCoverage =
      if request.includeArtifacts then some ⟨0, 0, false⟩ else response.artifactCoverage := by
  unfold withCounts
  dsimp only
  split_ifs <;> rfl

theorem withCounts_auditEventCoverage :
    (withCounts request counts response).auditEventCoverage =
      if request.includeAuditEvents then some ⟨counts.auditEventCount, false, none, none⟩
      else response.auditEventCoverage := by
  unfold withCounts
  dsimp only
  split_ifs <;> rfl

theorem withCounts_policySnapshotCoverage :
    (withCounts request counts response).policySnapshotCoverage =
      if request.includePolicySnapshots then some ⟨counts.policySnapshotCount, false⟩
      else response.policySnapshotCoverage := by
  unfold withCounts
  dsimp only
  split_ifs <;> rfl

theorem withCounts_status :
    (withCounts request counts response).status = .ready ↔ 0 < counts.intentCount := by
  unfold withCounts
  dsimp only
  split_ifs <;> simp <;> omega

/-- The estimate adds the counts that are reported. -/
theorem computeEstimatedCount_eq :
    response.computeEstimatedCount.estimatedBundleItemCount =
      response.intentVersionCoverage.versionCount +
      (response.artifactCoverage.map fun c => c.artifactCount).getD 0 +
      (response.auditEventCoverage.map fun c => c.eventCount).getD 0 +
      (response.policySnapshotCoverage.map fun c => c.snapshotCount).getD 0 := by
  unfold ForensicVerificationResponse.computeEstimatedCount
  cases response.artifactCoverage <;> cases response.auditEventCoverage <;>
    cases response.policySnapshotCoverage <;> rfl

end Coverage

/-- The response with some counts predicts a bundle of as many items, but for the artifacts. -/
theorem predicts_withCounts {request : ForensicVerificationRequest} {counts : CollectionCounts}
    {contents : BundleContents} (hversions : counts.versionCount = contents.intentVersions)
    (haudit : counts.auditEventCount = contents.auditEvents)
    (hsnapshots : counts.policySnapshotCount = contents.policySnapshots)
    {response : ForensicVerificationResponse} (hartifacts : response.artifactCoverage = none)
    (hevents : response.auditEventCoverage = none)
    (hpolicies : response.policySnapshotCoverage = none) :
    Predicts request (withCounts request counts response).computeEstimatedCount
      { contents with artifacts := 0 } where
  versions := (withCounts_versionCount ..).trans hversions
  artifacts := by
    change (withCounts request counts response).artifactCoverage.map _ = _
    rw [withCounts_artifactCoverage, hartifacts]
    split <;> rfl
  auditEvents := by
    change (withCounts request counts response).auditEventCoverage.map _ = _
    rw [withCounts_auditEventCoverage, hevents, haudit]
    split <;> rfl
  policySnapshots := by
    change (withCounts request counts response).policySnapshotCoverage.map _ = _
    rw [withCounts_policySnapshotCoverage, hpolicies, hsnapshots]
    split <;> rfl
  estimate := by
    rw [computeEstimatedCount_eq, withCounts_versionCount, withCounts_artifactCoverage,
      withCounts_auditEventCoverage, withCounts_policySnapshotCoverage, hartifacts, hevents,
      hpolicies, hversions, haudit, hsnapshots]
    congr 1
    · congr 1
      · congr 1
        split <;> rfl
      · split <;> rfl
    · split <;> rfl

end RealForensicVerificationService

namespace RealForensicDataCollector

variable {self : RealForensicDataCollector} {tid intentId : Uuid}
  {timeRange : DateTime × DateTime} {now : DateTime}

theorem collectIntent_of_answers (h : self.Answers) {intent : Intent}
    (hintent : self.getIntent intentId = .ok intent) (htenant : intent.tenantId = tid) :
    ∃ data, self.collectIntent (some tid) timeRange intentId = .ok data := by
  obtain ⟨versions, hversions⟩ := h.versions intentId
  obtain ⟨events, hevents⟩ := h.auditEvents intentId intent.tenantId
  obtain ⟨snapshots, hsnapshots⟩ := h.policySnapshots intentId intent.tenantId
  have haccess : verifyTenantAccess (some tid) intentId intent = .ok () :=
    verifyTenantAccess_ok.mpr fun _ hmem => htenant.trans (Option.mem_some_iff.mp hmem)
  rw [collectIntent, hintent, hversions]
  simp only [Except.mapError, bind, Except.bind, haccess, hevents, hsnapshots]
  exact ⟨_, rfl⟩

/-- What is counted of one intent that is collected. -/
theorem countAvailable_of_collect {result : CollectionResult}
    (h : self.collect (some tid) timeRange now [intentId] = .ok result) :
    ∃ data counts, result.intents = [data] ∧
      self.countAvailable (some tid) timeRange [intentId] = .ok counts ∧ counts.intentCount = 1 ∧
      counts.versionCount = data.versions.length ∧
      counts.auditEventCount = data.auditEvents.length ∧
      counts.policySnapshotCount = data.policySnapshots.length := by
  rw [collect] at h
  split at h
  · cases h
  next hrange =>
  obtain ⟨items, hitems, hcollected, -, -⟩ := collectIntents_ok h
  have howner : self.ownerOf intentId = tid :=
    ownerOf_collected hcollected intentId List.mem_cons_self
  cases hcollected with
  | cons hdata hrest =>
    cases hrest
    rw [countAvailable, if_neg hrange]
    refine ⟨_, _, hitems, rfl, ?_⟩
    rw [List.foldl_cons, countIntent_collected hdata, hdata.auditEvents, hdata.policySnapshots,
      howner]
    simp

/-- An intent that is counted can be collected. -/
theorem collect_of_countAvailable (h : self.Answers) {counts : CollectionCounts}
    (hcount : self.countAvailable (some tid) timeRange [intentId] = .ok counts)
    (hpos : 0 < counts.intentCount) (now : DateTime) :
    ∃ result, self.collect (some tid) timeRange now [intentId] = .ok result := by
  rw [countAvailable] at hcount
  split at hcount
  · cases hcount
  next hrange =>
  have hcounts := Except.ok.inj hcount
  rw [List.foldl_cons, List.foldl_nil, countIntent] at hcounts
  rw [collect, if_neg hrange, collectIntents]
  cases hintent : self.getIntent intentId with
  | error e =>
    rw [hintent] at hcounts
    subst hcounts
    exact absurd hpos (Nat.lt_irrefl 0)
  | ok intent =>
    rw [hintent] at hcounts
    by_cases htenant : intent.tenantId = tid
    · obtain ⟨data, hdata⟩ := collectIntent_of_answers h hintent htenant
      rw [hdata]
      exact ⟨_, rfl⟩
    · have hforeign : (some tid).any (fun tid => decide (intent.tenantId ≠ tid)) = true := by
        simpa using htenant
      simp only [hforeign, if_true] at hcounts
      subst hcounts
      exact absurd hpos (Nat.lt_irrefl 0)

end RealForensicDataCollector

namespace RealForensicVerificationService

theorem verify_ready_iff {collector : RealForensicDataCollector} {verificationId : Uuid}
    {verifiedAt : DateTime} {request : ForensicVerificationRequest} :
    (verify collector verificationId verifiedAt request).status = .ready ↔
      ∃ counts, collector.countAvailable (some request.tenantId)
        (request.timeRange.start, request.timeRange.stop) [request.intentId] = .ok counts ∧
        0 < counts.intentCount := by
  unfold verify
  cases collector.countAvailable (some request.tenantId)
    (request.timeRange.start, request.timeRange.stop) [request.intentId] with
  | error e => simp [ForensicVerificationResponse.computeEstimatedCount]
  | ok counts =>
    refine (withCounts_status request counts _).trans ?_
    simp

/-- The sections of the bundle of one intent are as long as what is collected of it. -/
theorem contents_generate (hasher : Hasher) (draws : GenerationDraws)
    (creation : CreateForensicBundleRequest) {result : CollectionResult}
    {data : CollectedIntentData} (h : result.intents = [data]) :
    let contents := (BundleGeneratorService.generate hasher draws
      (generationRequest hasher creation result)).bundle.contents
    contents.intentVersions = data.versions.length ∧
      contents.auditEvents = data.auditEvents.length ∧
      contents.policySnapshots = data.policySnapshots.length := by
  dsimp only [BundleGeneratorService.generate, ForensicBundle.new, generationRequest]
  rw [h]
  simp

/-- With no listing failing, a request is ready exactly if the collection for a bundle succeeds with
some intent, and then its response predicts the bundle, but for the artifacts: the counts do not
include them, so none are reported. -/
theorem verify_predicts {σ τ : Type} (service : ForensicBundleService σ τ)
    {collector : RealForensicDataCollector} (h : collector.Answers) (verificationId : Uuid)
    (verifiedAt now : DateTime) (env : CreationEnvironment)
    (henv : env.collector = collector.collector now) {request : ForensicVerificationRequest}
    {creation : CreateForensicBundleRequest} (hscope : request.SameScope creation) :
    ((verify collector verificationId verifiedAt request).status = .ready ↔
      ∃ result, env.collector.collect (some creation.tenantId) creation.intentIds
        (creation.timeRange.start, creation.timeRange.stop) = .ok result ∧
        0 < result.intents.length) ∧
    ((verify collector verificationId verifiedAt request).status = .ready →
      ∃ bundle bundleJson, service.prepareBundle env creation = .ok (bundle, bundleJson) ∧
        Predicts request (verify collector verificationId verifiedAt request)
          { bundle.contents with artifacts := 0 }) := by
  have hcollects : env.collector.collect (some creation.tenantId) creation.intentIds
      (creation.timeRange.start, creation.timeRange.stop) =
      collector.collect (some request.tenantId) (request.timeRange.start, request.timeRange.stop)
        now [request.intentId] := by
    rw [henv, hscope.tenantId, hscope.intentIds, hscope.timeRange]
    rfl
  rw [verify_ready_iff, hcollects]
  constructor
  · constructor
    · rintro ⟨counts, hcount, hpos⟩
      obtain ⟨result, hresult⟩ :=
        RealForensicDataCollector.collect_of_countAvailable h hcount hpos now
      obtain ⟨data, _, hintents, -⟩ := RealForensicDataCollector.countAvailable_of_collect hresult
      exact ⟨result, hresult, by rw [hintents]; exact Nat.one_pos⟩
    · rintro ⟨result, hresult, -⟩
      obtain ⟨_, counts, -, hcount, hone, -⟩ :=
        RealForensicDataCollector.countAvailable_of_collect hresult
      exact ⟨counts, hcount, by rw [hone]; exact Nat.one_pos⟩
  · rintro ⟨counts, hcount, hpos⟩
    obtain ⟨result, hresult⟩ :=
      RealForensicDataCollector.collect_of_countAvailable h hcount hpos now
    obtain ⟨data, counts', hintents, hcount', -, hversions, hevents, hsnapshots⟩ :=
      RealForensicDataCollector.countAvailable_of_collect hresult
    obtain rfl := Except.ok.inj (hcount.symm.trans hcount')
    have hrange : ¬ creation.timeRange.start > creation.timeRange.stop := by
      intro hlt
      rw [hscope.timeRange] at hlt
      rw [RealForensicDataCollector.countAvailable, if_pos hlt] at hcount
      cases hcount
    refine ⟨_, _, by rw [ForensicBundleService.prepareBundle, if_neg hrange, hcollects, hresult],
      ?_⟩
    obtain ⟨hversions', hevents', hsnapshots'⟩ :=
      contents_generate service.hasher env.draws creation hintents
    rw [verify, hcount]
    exact predicts_withCounts (hversions.trans hversions'.symm) (hevents.trans hevents'.symm)
      (hsnapshots.trans hsnapshots'.symm) rfl rfl rfl

section Sample

/-- An event of the intent 10 that has an artifact. -/
def artifactEvent : AuditEvent := { RealForensicDataCollector.sampleEvent with artifactId := some 7 }

/-- The intent 10 of tenant 5 with its first version, and the event. -/
def sample : RealForensicDataCollector :=
  .inMemory (InMemoryIntentRepository.new.createIntentTx InMemoryIntentRepository.sampleHash
    ⟨10, 20, 30, 0⟩ InMemoryIntentRepository.sampleIntentRequest).2
    (InMemoryAuditRepository.new.createAuditEvent artifactEvent).2 .new

def sampleRequest : ForensicVerificationRequest where
  tenantId := 5
  intentId := 10
  timeRange := ⟨0, 9⟩

def sampleCreation : CreateForensicBundleRequest where
  tenantId := 5
  intentIds := [10]
  timeRange := ⟨0, 9⟩
  purpose := .legal
  createdBy := "system"

def sampleEnvironment : CreationEnvironment where
  collector := sample.collector 9
  draws := ⟨1, 0, 0, 0, 0⟩

/-- The service over the repository and the store in memory, with a hasher that knows no digest. -/
def sampleService : ForensicBundleService InMemoryBundleRepository InMemoryBundleStorage :=
  .inMemory (sampleHasher [])

theorem sample_answers : sample.Answers where
  versions _ := ⟨_, rfl⟩
  auditEvents _ _ := ⟨_, rfl⟩
  policySnapshots _ _ := ⟨_, rfl⟩

theorem sample_scope : sampleRequest.SameScope sampleCreation := ⟨rfl, rfl, rfl⟩

theorem sample_events : sample.listAuditEvents 10 5 = .ok [artifactEvent] :=
  congrArg Except.ok (List.mergeSort_singleton artifactEvent)

theorem sample_ready (verificationId : Uuid) (verifiedAt : DateTime) :
    (verify sample verificationId verifiedAt sampleRequest).status = .ready := by
  rw [verify_ready_iff]
  refine ⟨_, rfl, ?_⟩
  decide

theorem verify_predicts_sample : ∃ bundle bundleJson,
    sampleService.prepareBundle sampleEnvironment sampleCreation = .ok (bundle, bundleJson) ∧
      Predicts sampleRequest (verify sample 1 0 sampleRequest)
        { bundle.contents with artifacts := 0 } :=
  (verify_predicts sampleService sample_answers 1 0 9 sampleEnvironment rfl sample_scope).2
    (sample_ready 1 0)

/-- One artifact is collected. -/
theorem sample_artifacts {bundle : ForensicBundle} {bundleJson : String}
    (h : sampleService.prepareBundle sampleEnvironment sampleCreation = .ok (bundle, bundleJson)) :
    bundle.contents.artifacts = 1 := by
  obtain ⟨result, hresult, rfl⟩ := ForensicBundleService.prepareBundle_ok h
  obtain ⟨intent, hintent, htenant⟩ : ∃ intent, sample.getIntent 10 = .ok intent ∧
      intent.tenantId = 5 := ⟨_, rfl, rfl⟩
  obtain ⟨versions, hversions⟩ : ∃ versions, sample.getVersionsByIntent 10 = .ok versions :=
    ⟨_, rfl⟩
  obtain ⟨snapshots, hsnapshots⟩ : ∃ snapshots, sample.listPolicySnapshots 10 5 = .ok snapshots :=
    ⟨_, rfl⟩
  have haccess : RealForensicDataCollector.verifyTenantAccess (some 5) 10 intent = .ok () :=
    RealForensicDataCollector.verifyTenantAccess_ok.mpr fun _ hmem =>
      htenant.trans (Option.mem_some_iff.mp hmem)
  obtain ⟨data, hdata, hevents⟩ : ∃ data,
      sample.collectIntent (some 5) (0, 9) 10 = .ok data ∧ data.auditEvents = [artifactEvent] := by
    rw [RealForensicDataCollector.collectIntent, hintent, hversions]
    simp only [Except.mapError, bind, Except.bind, haccess, htenant, sample_events, hsnapshots]
    exact ⟨_, rfl, rfl⟩
  have hcollect : sampleEnvironment.collector.collect (some 5) [10] (0, 9) =
      .ok ⟨some 5, 10, 9, [data], data.auditEvents.length, data.policySnapshots.length⟩ := by
    change sample.collect (some 5) (0, 9) 9 [10] = _
    rw [RealForensicDataCollector.collect, if_neg (by decide),
      RealForensicDataCollector.collectIntents, hdata]
    simp [RealForensicDataCollector.collectIntents, bind, Except.bind]
  rw [show sampleCreation.intentIds = [10] from rfl] at hresult
  obtain rfl := Except.ok.inj (hcollect.symm.trans hresult)
  simp [BundleGeneratorService.generate, ForensicBundle.new, generationRequest, hevents,
    artifactEvent]

/-- The bundle has an artifact, and the verification reports none. -/
theorem not_verify_predicts : ¬ ∀ (collector : RealForensicDataCollector), collector.Answers →
    ∀ (request : ForensicVerificationRequest) (creation : CreateForensicBundleRequest)
      (env : CreationEnvironment) (now : DateTime), request.SameScope creation →
      env.collector = collector.collector now →
      (verify collector 1 0 request).status = .ready →
      ∃ bundle bundleJson, sampleService.prepareBundle env creation = .ok (bundle, bundleJson) ∧
        Predicts request (verify collector 1 0 request) bundle.contents := by
  intro h
  obtain ⟨bundle, bundleJson, hprepare, hpredicts⟩ := h sample sample_answers sampleRequest
    sampleCreation sampleEnvironment 9 sample_scope rfl (sample_ready 1 0)
  have hreported := hpredicts.artifacts
  rw [sample_artifacts hprepare] at hreported
  have hnone : ((verify sample 1 0 sampleRequest).artifactCoverage.map fun c =>
      c.artifactCount) = some 0 := by
    change (withCounts sampleRequest _ _).artifactCoverage.map _ = _
    rw [withCounts_artifactCoverage]
    rfl
  cases hnone.symm.trans hreported

end Sample

end RealForensicVerificationService

end IntentRebase
