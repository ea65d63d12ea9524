import IntentRebase.Forensic.BundleReplay
import IntentRebase.Forensic.BundleRepository
import IntentRebase.Kit.Effect
import IntentRebase.Types.Audit
import IntentRebase.Kit.TwoRuns

/-! The creation of a bundle from collected data: what its section hashes cover of the data, and
that its manifest hash is of a manifest that is not stored. -/

namespace IntentRebase

open Kit

structure CollectedVersionData where
  versionNumber : UInt64
  summary : String
  changeType : String
  createdAt : DateTime

/-- The data of one intent. -/
structure CollectedIntentData where
  intentId : Uuid
  tenantId : Option Uuid
  name : String
  versions : List CollectedVersionData
  policySnapshots : List PolicySnapshot
  auditEvents : List AuditEvent

structure CollectionResult where
  tenantId : Option Uuid
  intentId : Uuid
  collectedAt : DateTime
  intents : List CollectedIntentData
  totalAuditEvents : Nat
  totalPolicySnapshots : Nat

inductive CollectorError where
  | repository (message : String)
  | tenantAccessDenied (message : String)
  | invalidTimeRange (message : String)
  | timeout (message : String)
deriving DecidableEq, Repr

def CollectorError.display : CollectorError → String
  | .repository m => s!"Repository error: {m}"
  | .tenantAccessDenied m => s!"Tenant access denied: {m}"
  | .invalidTimeRange m => s!"Invalid time range: {m}"
  | .timeout m => s!"Collection timeout: {m}"

/-- A collector, as the data are when it is asked. -/
structure ForensicDataCollector where
  collect : Option Uuid → List Uuid → DateTime × DateTime → Except CollectorError CollectionResult

inductive BundleStorageError where
  | notFound (id : Uuid)
  | storage (message : String)
  | serialization (message : String)
deriving DecidableEq, Repr

def BundleStorageError.display : BundleStorageError → String
  | .notFound id => s!"bundle not found: {id.display}"
  | .storage m => s!"storage error: {m}"
  | .serialization m => s!"serialization error: {m}"

/-- A store of the texts of bundles, by bundle and tenant. What is put is there afterwards, and what
was there stays. -/
structure LawfulBundleStorage (τ : Type) where
  put : τ → Uuid → Uuid → String → Except BundleStorageError Unit × τ
  get : τ → Uuid → Uuid → Except BundleStorageError String
  location : String
  put_ok : ∀ t bundleId tenantId data, ∃ t', put t bundleId tenantId data = (.ok (), t') ∧
    get t' bundleId tenantId = .ok data ∧
    ∀ id tenant old, get t id tenant = .ok old → ∃ new, get t' id tenant = .ok new

/-- The texts, whatever their tenant, and the identifiers of each tenant. -/
structure InMemoryBundleStorage where
  store : HashMap Uuid String
  byTenant : SecondaryIndex Uuid Uuid

namespace InMemoryBundleStorage

/-- The empty store. -/
def new : InMemoryBundleStorage where
  store := ∅
  byTenant := ∅

variable (t : InMemoryBundleStorage)

def put (bundleId tenantId : Uuid) (data : String) :
    Except BundleStorageError Unit × InMemoryBundleStorage :=
  (.ok (),
    { store := t.store.insert bundleId data, byTenant := t.byTenant.push tenantId bundleId })

def get (bundleId _tenantId : Uuid) : Except BundleStorageError String :=
  match t.store.lookup bundleId with
  | some data => .ok data
  | none => .error (.notFound bundleId)

def storage (location : String) : LawfulBundleStorage InMemoryBundleStorage where
  put := put
  get := get
  location := location
  put_ok t bundleId tenantId data := by
    refine ⟨_, rfl, ?_, fun id tenant old h => ?_⟩
    · simp only [get, AList.lookup_insert]
    · simp only [get, lookup_insert_eq] at h ⊢
      by_cases hid : id = bundleId
      · exact ⟨data, by rw [if_pos hid]⟩
      · exact ⟨old, by rw [if_neg hid]; exact h⟩

end InMemoryBundleStorage

structure CreateForensicBundleRequest where
  tenantId : Uuid
  intentIds : List Uuid
  timeRange : BundleTimeRange
  purpose : BundlePurpose
  createdBy : String

structure CreateForensicBundleResponse where
  bundle : ForensicBundle
  storageLocation : String
  bundleSizeBytes : Nat
  message : String

inductive ForensicBundleServiceError where
  | notFound (id : Uuid)
  | collection (error : CollectorError)
  | generation (message : String)
  | storage (message : String)
  | repository (error : IntentRebaseError)
  | serialization (message : String)
  | invalidTimeRange (message : String)
  | replay (message : String)
deriving DecidableEq, Repr

def ForensicBundleServiceError.display : ForensicBundleServiceError → String
  | .notFound id => s!"bundle not found: {id.display}"
  | .collection e => s!"collection failed: {e.display}"
  | .generation m => s!"generation failed: {m}"
  | .storage m => s!"storage failed: {m}"
  | .repository e => s!"repository error: {e.display}"
  | .serialization m => s!"serialization failed: {m}"
  | .invalidTimeRange m => s!"invalid time range: {m}"
  | .replay m => s!"replay verification failed: {m}"

structure ForensicBundleService (σ τ : Type) where
  repo : LawfulBundleRepository σ
  storage : LawfulBundleStorage τ
  hasher : Hasher

/-- What one call to create a bundle meets: the collector, its draws, and the failures. -/
structure CreationEnvironment where
  collector : ForensicDataCollector
  draws : GenerationDraws
  createFault : Option (Fault IntentRebaseError) := none
  putFault : Option (Fault BundleStorageError) := none
  updateFault : Option (Fault IntentRebaseError) := none

/-- A number of 64 bits in 32 hexadecimal digits. -/
def hex32 (n : Nat) : String := String.ofList (hexDigits 32 n)

/-- The entries that the collected data are reduced to. No approvals are collected. -/
def generationRequest (hasher : Hasher) (request : CreateForensicBundleRequest)
    (result : CollectionResult) : GenerateBundleRequest where
  tenantId := request.tenantId
  timeRange := request.timeRange
  purpose := request.purpose
  createdBy := request.createdBy
  intentVersions := result.intents.flatMap fun intent => intent.versions.map fun v =>
    { intentId := intent.intentId
      version := asI32 v.versionNumber.toNat
      contentHash := hex32 v.versionNumber.toNat }
  artifacts := result.intents.flatMap fun intent => intent.auditEvents.filterMap fun e =>
    e.artifactId.map fun artifactId =>
      { artifactId, contentHash := computeSha256 hasher artifactId, collectedAt := e.occurredAt }
  approvals := []
  auditEvents := result.intents.flatMap fun intent => intent.auditEvents.zipIdx.map fun p =>
    { eventId := p.1.id, contentHash := hex32 p.2, eventIndex := p.2 }
  policySnapshots := result.intents.flatMap fun intent => intent.policySnapshots.map fun s =>
    { snapshotId := s.id, scopeHash := s.scopeHash }

namespace ForensicBundleService

variable {σ τ : Type} (service : ForensicBundleService σ τ)

/-- The bundle and its text, without storing either. -/
def prepareBundle (env : CreationEnvironment) (request : CreateForensicBundleRequest) :
    Except ForensicBundleServiceError (ForensicBundle × String) :=
  if request.timeRange.start > request.timeRange.stop then
    .error (.invalidTimeRange "start must be before end")
  else
    match env.collector.collect (some request.tenantId) request.intentIds
      (request.timeRange.start, request.timeRange.stop) with
    | .error e => .error (.collection e)
    | .ok collectionResult =>
      let genResult := BundleGeneratorService.generate service.hasher env.draws
        (generationRequest service.hasher request collectionResult)
      let bundle := genResult.bundle
      .ok (bundle, service.hasher.jsonText (Serialize.toJson service.hasher.timeText bundle))

/-- The bundle is recorded before it is put, so that its status can change afterwards. -/
def createBundle (env : CreationEnvironment) (request : CreateForensicBundleRequest) (s : σ × τ) :
    Except ForensicBundleServiceError CreateForensicBundleResponse × (σ × τ) :=
  match service.prepareBundle env request with
  | .error e => (.error e, s)
  | .ok (bundle, bundleJson) =>
    match Fault.meet env.createFault s.1 (service.repo.create s.1 bundle) with
    | (.error e, r) => (.error (.repository e), (r, s.2))
    | (.ok _, r) =>
      match Fault.meet env.putFault s.2
        (service.storage.put s.2 bundle.bundleId bundle.tenantId bundleJson) with
      | (.error e, t) => (.error (.storage e.display), (r, t))
      | (.ok _, t) =>
        match Fault.meet env.updateFault r (service.repo.updateStatus r bundle.bundleId .ready) with
        | (.error e, r') => (.error (.repository e), (r', t))
        | (.ok finalBundle, r') => (.ok
            { bundle := finalBundle
              storageLocation := s!"{service.storage.location}/{bundle.bundleId.display}"
              bundleSizeBytes := bundleJson.utf8ByteSize
              message := "Bundle generated and stored successfully" }, (r', t))

def getBundle (bundleId : Uuid) (s : σ × τ) : Except ForensicBundleServiceError ForensicBundle :=
  match service.repo.get s.1 bundleId with
  | .ok bundle => .ok bundle
  | .error (.forensicBundleNotFound id) => .error (.notFound id)
  | .error e => .error (.repository e)

section Outcomes

variable {service} {env : CreationEnvironment} {request : CreateForensicBundleRequest}
  {s s' : σ × τ} {bundle : ForensicBundle} {bundleJson : String}

/-- A bundle that is prepared is the one generated from what is collected. -/
theorem prepareBundle_ok (h : service.prepareBundle env request = .ok (bundle, bundleJson)) :
    ∃ result, env.collector.collect (some request.tenantId) request.intentIds
        (request.timeRange.start, request.timeRange.stop) = .ok result ∧
      bundle = (BundleGeneratorService.generate service.hasher env.draws
        (generationRequest service.hasher request result)).bundle := by
  unfold prepareBundle at h
  split at h
  · cases h
  split at h
  · cases h
  · next result hcollect =>
    obtain ⟨rfl, _⟩ := Prod.mk.inj (Except.ok.inj h)
    exact ⟨result, hcollect, rfl⟩

/-- The stored bundle, once it is ready. -/
def readyBundle (service : ForensicBundleService σ τ) (bundle : ForensicBundle) : ForensicBundle :=
  { service.repo.kept bundle with status := .ready }

/-- What the three writes of a creation do when none of them meets a failure. -/
structure Writes (service : ForensicBundleService σ τ) (s : σ × τ) (bundle : ForensicBundle)
    (bundleJson : String) (r r' : σ) (t : τ) : Prop where
  create : service.repo.create s.1 bundle = (.ok bundle, r)
  created : service.repo.record r =
    Function.update (service.repo.record s.1) bundle.bundleId (some (service.repo.kept bundle))
  put : service.storage.put s.2 bundle.bundleId bundle.tenantId bundleJson = (.ok (), t)
  held : service.storage.get t bundle.bundleId bundle.tenantId = .ok bundleJson
  keeps : ∀ id tenant old, service.storage.get s.2 id tenant = .ok old →
    ∃ new, service.storage.get t id tenant = .ok new
  update : service.repo.updateStatus r bundle.bundleId .ready =
    (.ok (readyBundle service bundle), r')
  updated : service.repo.record r' =
    Function.update (service.repo.record s.1) bundle.bundleId (some (readyBundle service bundle))

theorem exists_writes (hprepare : service.prepareBundle env request = .ok (bundle, bundleJson))
    (hnew : service.repo.record s.1 bundle.bundleId = none) :
    ∃ r r' t, Writes service s bundle bundleJson r r' t := by
  obtain ⟨r, hcreate, hcreated⟩ := service.repo.create_new s.1 bundle hnew
  obtain ⟨t, hput, hheld, hkeeps⟩ :=
    service.storage.put_ok s.2 bundle.bundleId bundle.tenantId bundleJson
  have hrecord : service.repo.record r bundle.bundleId = some (service.repo.kept bundle) := by
    rw [hcreated, Function.update_self]
  have hallowed : (service.repo.kept bundle).status.canTransitionTo .ready = true := by
    obtain ⟨result, _, rfl⟩ := prepareBundle_ok hprepare
    rw [service.repo.kept_status]
    rfl
  obtain ⟨r', hupdate, hupdated⟩ :=
    service.repo.updateStatus_allowed r bundle.bundleId _ .ready hrecord hallowed
  refine ⟨r, r', t, hcreate, hcreated, hput, hheld, hkeeps, hupdate, ?_⟩
  rw [hupdated, hcreated, Function.update_idem]
  rfl

/-- A creation that succeeds has made all its writes, and answers with the stored bundle. -/
theorem createBundle_ok {response : CreateForensicBundleResponse}
    (h : service.createBundle env request s = (.ok response, s')) :
    ∃ bundle bundleJson, service.prepareBundle env request = .ok (bundle, bundleJson) ∧
      response.bundle = readyBundle service bundle ∧
      service.repo.record s'.1 bundle.bundleId = some (readyBundle service bundle) := by
  unfold createBundle at h
  cases hprepare : service.prepareBundle env request with
  | error e =>
    rw [hprepare] at h
    cases h
  | ok prepared =>
    obtain ⟨bundle, bundleJson⟩ := prepared
    refine ⟨bundle, bundleJson, rfl, ?_⟩
    rw [hprepare] at h
    dsimp only at h
    split at h
    · cases h
    next created r hcreate =>
    split at h
    · cases h
    next t hput =>
    split at h
    · cases h
    next finalBundle r' hupdate =>
    obtain ⟨_, hcreate⟩ := Fault.meet_ok hcreate
    obtain ⟨_, hupdate⟩ := Fault.meet_ok hupdate
    have hnew : service.repo.record s.1 bundle.bundleId = none := by
      rw [Option.eq_none_iff_forall_ne_some]
      intro old hold
      obtain ⟨e, he⟩ := service.repo.create_old s.1 bundle old hold
      rw [he] at hcreate
      cases hcreate
    obtain ⟨r₁, r₂, _, hwrites⟩ := exists_writes hprepare hnew
    rw [hwrites.create] at hcreate
    obtain ⟨_, rfl⟩ := Prod.mk.inj hcreate
    rw [hwrites.update] at hupdate
    obtain ⟨hfinal, rfl⟩ := Prod.mk.inj hupdate
    obtain ⟨hresponse, rfl⟩ := Prod.mk.inj h
    refine ⟨?_, ?_⟩
    · rw [← Except.ok.inj hresponse]
      exact (Except.ok.inj hfinal).symm
    · rw [hwrites.updated, Function.update_self]

/-- The stored bundle is the generated one with another status. -/
theorem readyBundle_integrity : (readyBundle service bundle).integrity = bundle.integrity :=
  service.repo.kept_integrity bundle

/-- The bundle that a successful creation leaves does not verify: its manifest was hashed while it
was generating, and it is stored as ready. -/
theorem createBundle_not_verified {response : CreateForensicBundleResponse}
    (hprepare : service.prepareBundle env request = .ok (bundle, bundleJson))
    (hcreate : service.createBundle env request s = (.ok response, s'))
    (hfree : CollisionFree service.hasher.digest
      [Serialize.toJson service.hasher.timeText bundle.withoutManifestHash,
        Serialize.toJson service.hasher.timeText response.bundle.withoutManifestHash]) :
    ∃ stored, service.getBundle response.bundle.bundleId s' = .ok stored ∧
      BundleReplayService.verifyManifestIntegrity service.hasher stored = false := by
  obtain ⟨bundle', bundleJson', hprepare', hresponse, hrecord⟩ := createBundle_ok hcreate
  obtain ⟨rfl, _⟩ := Prod.mk.inj (Except.ok.inj (hprepare.symm.trans hprepare'))
  obtain ⟨result, _, hbundle⟩ := prepareBundle_ok hprepare
  have hid : response.bundle.bundleId = bundle.bundleId := by
    rw [hresponse]
    exact service.repo.kept_bundleId bundle
  refine ⟨readyBundle service bundle, ?_, ?_⟩
  · rw [getBundle, hid, service.repo.get_some _ _ _ hrecord]
  · rw [hresponse] at hfree
    refine BundleReplayService.verifyManifestIntegrity_of_status_ne hfree ?_ ?_
    · rw [hbundle]
      exact fun h => nomatch h
    · rw [readyBundle_integrity, hbundle]
      exact BundleGeneratorService.manifestHash_generate

end Outcomes

section Sample

/-- A request for the bundle of no intent. -/
def sampleRequest : CreateForensicBundleRequest where
  tenantId := 1
  intentIds := []
  timeRange := ⟨0, 0⟩
  purpose := .legal
  createdBy := "system"

/-- What is collected when it is these data. -/
def collected (intents : List CollectedIntentData) : CollectionResult where
  tenantId := some 1
  intentId := .nil
  collectedAt := 0
  intents := intents
  totalAuditEvents := (intents.flatMap fun intent => intent.auditEvents).length
  totalPolicySnapshots := (intents.flatMap fun intent => intent.policySnapshots).length

/-- A call that meets no failure and collects these data. -/
def sampleEnvironment (intents : List CollectedIntentData) : CreationEnvironment where
  collector := ⟨fun _ _ _ => .ok (collected intents)⟩
  draws := ⟨1, 0, 0, 0, 0⟩

/-- The service over the repository and the store in memory. -/
def inMemory (hasher : Hasher) :
    ForensicBundleService InMemoryBundleRepository InMemoryBundleStorage where
  repo := InMemoryBundleRepository.repository
  storage := InMemoryBundleStorage.storage "bundles"
  hasher := hasher

/-- A hasher that knows the digests of the empty sections and of the manifest of an empty bundle,
while it is generating and once it is ready. -/
def manifestHasher : Hasher :=
  let manifest := (BundleGeneratorService.generate (sampleHasher BundleReplayService.sampleSections)
    ⟨1, 0, 0, 0, 0⟩ BundleReplayService.emptyRequest).bundle.withoutManifestHash
  let text := fun status =>
    Json.compact (Serialize.toJson sampleTimeText { manifest with status := status })
  sampleHasher (BundleReplayService.sampleSections ++
    [(text .generating, "2c9c2ebbab345441545416a689fd2837040cae0181dbb27359fd163c1756df7c"),
      (text .ready, "0880a47f425a114a296ab8337fc7e12f0fb7144532592f27f0fa389e74962f18")])

/-- The manifest of an empty bundle as it is generated. -/
def sampleBundle : ForensicBundle :=
  (BundleGeneratorService.generate manifestHasher ⟨1, 0, 0, 0, 0⟩
    BundleReplayService.emptyRequest).bundle

theorem createBundle_sample : ∃ bundleJson response s',
    (inMemory manifestHasher).prepareBundle (sampleEnvironment []) sampleRequest =
        .ok (sampleBundle, bundleJson) ∧
      (inMemory manifestHasher).createBundle (sampleEnvironment []) sampleRequest (.new, .new) =
        (.ok response, s') ∧
      response.bundle = { sampleBundle with status := .ready } ∧
      (inMemory manifestHasher).getBundle response.bundle.bundleId s' = .ok response.bundle :=
  ⟨_, _, _, rfl, rfl, rfl, rfl⟩

theorem collisionFree_sample : CollisionFree manifestHasher.digest
    [Serialize.toJson sampleTimeText sampleBundle.withoutManifestHash,
      Serialize.toJson sampleTimeText
        { sampleBundle with status := .ready }.withoutManifestHash] :=
  CollisionFree.of_nodup (List.Subset.refl _) (by decide +kernel)

theorem createBundle_not_verified_sample : ∃ response s' stored,
    (inMemory manifestHasher).createBundle (sampleEnvironment []) sampleRequest (.new, .new) =
        (.ok response, s') ∧
      (inMemory manifestHasher).getBundle response.bundle.bundleId s' = .ok stored ∧
      BundleReplayService.verifyManifestIntegrity manifestHasher stored = false := by
  obtain ⟨_, response, s', hprepare, hcreate, hresponse, _⟩ := createBundle_sample
  have hfree := collisionFree_sample
  rw [← hresponse] at hfree
  obtain ⟨stored, hstored⟩ := createBundle_not_verified hprepare hcreate hfree
  exact ⟨response, s', stored, hcreate, hstored⟩

/-- The bundle of no intent is stored, and does not verify. -/
theorem not_createBundle_verified :
    ¬ ∀ env request s response s', (inMemory manifestHasher).createBundle env request s =
        (.ok response, s') →
      ∃ stored, (inMemory manifestHasher).getBundle response.bundle.bundleId s' = .ok stored ∧
        BundleReplayService.verifyManifestIntegrity manifestHasher stored = true := by
  intro h
  obtain ⟨_, response, s', _, hcreate, hresponse, hget⟩ := createBundle_sample
  obtain ⟨stored, hstored, hverified⟩ := h _ _ _ _ _ hcreate
  obtain rfl := Except.ok.inj (hget.symm.trans hstored)
  have hfree := collisionFree_sample
  rw [← hresponse] at hfree
  have hfalse := BundleReplayService.verifyManifestIntegrity_of_status_ne hfree
    (by rw [hresponse]; exact fun hstatus => nomatch hstatus)
    (by rw [hresponse]; exact BundleGeneratorService.manifestHash_generate)
  rw [hfalse] at hverified
  cases hverified

end Sample

end ForensicBundleService

/-! The queries of bundles: their listing, plain and in a transaction of a tenant, and the download
of a bundle's text. -/

structure ForensicBundleIntegrityInfo where
  manifestHash : String
  chainVerified : Bool
  verificationTimestamp : DateTime
deriving DecidableEq

structure ForensicBundleSummary where
  bundleId : Uuid
  createdAt : DateTime
  createdBy : String
  tenantId : Uuid
  timeRange : BundleTimeRange
  status : BundleStatus
  purpose : BundlePurpose
  contents : BundleContents
  integrity : ForensicBundleIntegrityInfo

def ForensicBundleSummary.fromBundle (bundle : ForensicBundle) : ForensicBundleSummary where
  bundleId := bundle.bundleId
  createdAt := bundle.createdAt
  createdBy := bundle.createdBy
  tenantId := bundle.tenantId
  timeRange := bundle.timeRange
  status := bundle.status
  purpose := bundle.purpose
  contents := bundle.contents
  integrity :=
    { manifestHash := bundle.integrity.manifestHash
      chainVerified := bundle.integrity.chainVerified
      verificationTimestamp := bundle.integrity.verificationTimestamp }

namespace SqlxBundleRepository

variable (s : SqlxBundleRepository)

/-- `list_by_tenant` in no session, and `list_by_tenant_with_tx` in that of a tenant, which sees the
rows of that tenant only. -/
def listByTenant (session : Option Uuid) (scan : IterOrder BundleRow) (tenantId : Uuid)
    (limit : Option Nat) : Except IntentRebaseError (List ForensicBundle) :=
  let limit := asI32 (limit.getD 100)
  if limit < 0 then
    .error (.storageError "list forensic bundles by tenant: LIMIT must not be negative")
  else
    ((scanLatest scan BundleRow.createdAt
      (fun row => session.all (row.tenantId == ·) && row.tenantId = tenantId)
      s.rows).take limit.toNat).mapM rowToBundle

/-- `get_with_tx` in the session of a tenant. -/
def getWithTx (session bundleId : Uuid) : Except IntentRebaseError ForensicBundle :=
  match (s.rows.lookup bundleId).filter fun row => row.tenantId = session with
  | some row => rowToBundle row
  | none => .error (.forensicBundleNotFound bundleId)

end SqlxBundleRepository

theorem rowToBundle_ok {row : BundleRow} {bundle : ForensicBundle} (h : rowToBundle row = .ok bundle) :
    bundle.tenantId = row.tenantId := by
  unfold rowToBundle at h
  cases hpurpose : bundlePurposeFromString row.purpose with
  | error e => rw [hpurpose] at h; cases h
  | ok purpose =>
    cases hstatus : bundleStatusFromString row.status with
    | error e => rw [hpurpose, hstatus] at h; cases h
    | ok status => rw [hpurpose, hstatus] at h; cases h; rfl

section Service

variable (get : Uuid → Except IntentRebaseError ForensicBundle)
  (storage : Uuid → Uuid → Except BundleStorageError String)

/-- The service's reading of a bundle, over its repository. -/
def bundleOf (bundleId : Uuid) : Except ForensicBundleServiceError ForensicBundle :=
  match get bundleId with
  | .ok bundle => .ok bundle
  | .error (.forensicBundleNotFound id) => .error (.notFound id)
  | .error e => .error (.repository e)

/-- The text of a bundle that the repository has, from the store. -/
def downloadBundleBytes (bundleId : Uuid) : Except ForensicBundleServiceError String :=
  match bundleOf get bundleId with
  | .error e => .error e
  | .ok bundle =>
    match storage bundleId bundle.tenantId with
    | .ok data => .ok data
    | .error (.notFound _) => .error (.notFound bundleId)
    | .error e => .error (.storage e.display)

end Service

end IntentRebase
