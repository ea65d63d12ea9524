import IntentRebase.Forensic.BundleGenerator

/-! The verification of a stored bundle: of given sections against the hashes that its manifest
records, and of the manifest against its own hash. -/

namespace IntentRebase

open Kit

structure ReplaySectionResult where
  sectionName : String
  verified : Bool
  itemCount : Nat
  recordedHash : String
  computedHash : String
  details : String
deriving DecidableEq, Repr

structure ReplayVerificationReport where
  bundleId : Uuid
  tenantId : Uuid
  verifiedAt : DateTime
  overallVerified : Bool
  purpose : BundlePurpose
  timeRange : BundleTimeRange
  sections : List ReplaySectionResult
  totalItems : BundleContents
  summary : String
  sectionsPassed : Nat
  sectionsFailed : Nat
deriving DecidableEq, Repr

structure VerifyBundleReplayResponse where
  report : ReplayVerificationReport
  bundle : ForensicBundle
  sectionHashes : List ContentSectionHash
deriving DecidableEq, Repr

inductive BundleReplayError where
  | invalidBundleState (bundleId : Uuid) (status : BundleStatus) (reason : String)
  | verificationFailed (bundleId : Uuid) (failures : List String)
  | bundleNotReady (bundleId : Uuid) (currentStatus : BundleStatus)
deriving DecidableEq, Repr

/-- The report on a bundle from the results for its sections. -/
def ReplayVerificationReport.fromResults (verifiedAt : DateTime) (bundle : ForensicBundle)
    (sectionResults : List ReplaySectionResult) : ReplayVerificationReport :=
  let sectionsPassed := (sectionResults.filter fun s => s.verified).length
  let sectionsFailed := (sectionResults.filter fun s => !s.verified).length
  let overallVerified := sectionsFailed == 0
  let summary := if overallVerified then
      s!"Bundle {bundle.bundleId.display} verified successfully. " ++
        s!"All {sectionResults.length} sections passed integrity check."
    else
      s!"Bundle {bundle.bundleId.display} verification FAILED. " ++
        s!"{sectionsFailed}/{sectionResults.length} sections failed integrity check."
  { bundleId := bundle.bundleId, tenantId := bundle.tenantId, verifiedAt, overallVerified
    purpose := bundle.purpose, timeRange := bundle.timeRange, sections := sectionResults
    totalItems := bundle.contents, summary, sectionsPassed, sectionsFailed }

/-- The result for one section. -/
def replaySection (sectionName : String) (itemCount : Nat) (recordedHash computedHash : String) :
    ReplaySectionResult :=
  let verified := computedHash == recordedHash
  { sectionName, verified, itemCount, recordedHash, computedHash
    details := if verified then s!"{sectionName} verified: {itemCount} items, hash match"
      else s!"{sectionName} FAILED: {itemCount} items, hash mismatch" }

namespace BundleReplayService

variable (hasher : Hasher)

def verifyBundleFromIntegrity (verifiedAt : DateTime) (bundle : ForensicBundle)
    (contentSections : ContentSectionsForVerification) :
    Except BundleReplayError VerifyBundleReplayResponse :=
  if bundle.status ≠ .ready then .error (.bundleNotReady bundle.bundleId bundle.status)
  else
    let computedIntentHash := computeSha256 hasher contentSections.intentVersions
    let computedArtifactsHash := computeSha256 hasher contentSections.artifacts
    let computedApprovalsHash := computeSha256 hasher contentSections.approvals
    let computedAuditHash := computeSha256 hasher contentSections.auditEvents
    let computedPolicyHash := computeSha256 hasher contentSections.policySnapshots
    let intentCount := contentSections.intentVersions.versions.length
    let artifactsCount := contentSections.artifacts.artifacts.length
    let approvalsCount := contentSections.approvals.approvals.length
    let auditCount := contentSections.auditEvents.events.length
    let policyCount := contentSections.policySnapshots.snapshots.length
    let sectionHashes :=
      [⟨"intent_versions", computedIntentHash, intentCount⟩,
        ⟨"artifacts", computedArtifactsHash, artifactsCount⟩,
        ⟨"approvals", computedApprovalsHash, approvalsCount⟩,
        ⟨"audit_events", computedAuditHash, auditCount⟩,
        ⟨"policy_snapshots", computedPolicyHash, policyCount⟩]
    let sectionResults :=
      [replaySection "intent_versions" intentCount bundle.integrity.intentVersionsHash
          computedIntentHash,
        replaySection "artifacts" artifactsCount bundle.integrity.artifactsHash
          computedArtifactsHash,
        replaySection "approvals" approvalsCount bundle.integrity.approvalsHash
          computedApprovalsHash,
        replaySection "audit_events" auditCount bundle.integrity.auditEventsHash computedAuditHash,
        replaySection "policy_snapshots" policyCount bundle.integrity.policySnapshotsHash
          computedPolicyHash]
    let report := ReplayVerificationReport.fromResults verifiedAt bundle sectionResults
    .ok { report, bundle, sectionHashes }

/-- The recorded hash of the manifest is that of the manifest as it is now. -/
def verifyManifestIntegrity (bundle : ForensicBundle) : Bool :=
  computeSha256 hasher bundle.withoutManifestHash == bundle.integrity.manifestHash

variable {hasher}

theorem overallVerified_iff {verifiedAt : DateTime} {bundle : ForensicBundle}
    {results : List ReplaySectionResult} :
    (ReplayVerificationReport.fromResults verifiedAt bundle results).overallVerified = true ↔
      ∀ result ∈ results, result.verified = true := by
  simp [ReplayVerificationReport.fromResults]

/-- A manifest that was hashed with one status and is stored with another one does not verify. -/
theorem verifyManifestIntegrity_of_status_ne {hashed stored : ForensicBundle}
    (hfree : CollisionFree hasher.digest
      [Serialize.toJson hasher.timeText hashed.withoutManifestHash,
        Serialize.toJson hasher.timeText stored.withoutManifestHash])
    (hstatus : hashed.status ≠ stored.status)
    (hrecorded : stored.integrity.manifestHash = computeSha256 hasher hashed.withoutManifestHash) :
    verifyManifestIntegrity hasher stored = false := by
  rw [verifyManifestIntegrity, hrecorded, beq_eq_false_iff_ne]
  intro hsame
  have hjson := hfree _ (by simp) _ (by simp) hsame.symm
  exact hstatus (show hashed.withoutManifestHash.status = stored.withoutManifestHash.status from
    ForensicBundle.status_of_toJson_eq hjson)

/-- The verification of a generated bundle, once it is ready, reports each section verified exactly
if it is the generated one, and the bundle verified exactly if all five are. -/
theorem verifyBundleFromIntegrity_exact (hasher : Hasher) (verifiedAt : DateTime)
    (draws : GenerationDraws) (request : GenerateBundleRequest)
    (sections : ContentSectionsForVerification) (htime : Function.Injective hasher.timeText)
    (hfree : CollisionFree hasher.digest (sections.documents hasher.timeText ++
      request.sections.documents hasher.timeText)) :
    ∃ response, verifyBundleFromIntegrity hasher verifiedAt
        { (BundleGeneratorService.generate hasher draws request).bundle with status := .ready }
        sections = .ok response ∧
      (response.report.overallVerified = true ↔ sections = request.sections) ∧
      response.report.sections.map (fun result => (result.sectionName, result.verified)) =
        [("intent_versions", decide (sections.intentVersions = request.sections.intentVersions)),
          ("artifacts", decide (sections.artifacts = request.sections.artifacts)),
          ("approvals", decide (sections.approvals = request.sections.approvals)),
          ("audit_events", decide (sections.auditEvents = request.sections.auditEvents)),
          ("policy_snapshots",
            decide (sections.policySnapshots = request.sections.policySnapshots))] := by
  have hbind := hashesBind htime hfree
  refine ⟨_, rfl, ?_, ?_⟩
  · rw [overallVerified_iff, ← hbind.hashes_eq]
    simp [replaySection, ContentSectionsForVerification.hashes, BundleGeneratorService.generate,
      GenerateBundleRequest.sections, BundleGeneratorService.buildVerificationSections]
  · simp only [ReplayVerificationReport.fromResults, replaySection, List.map_cons, List.map_nil,
      ← hbind.intentVersions, ← hbind.artifacts, ← hbind.approvals, ← hbind.auditEvents,
      ← hbind.policySnapshots]
    rfl

/-- What the direct verification says of a section that the replay reports as failed. -/
def ReplaySectionResult.mismatch (r : ReplaySectionResult) : String :=
  s!"{r.sectionName} hash mismatch: expected {r.recordedHash}, got {r.computedHash}"

/-- The mismatches of a report, in its order. -/
def mismatches (results : List ReplaySectionResult) : List String :=
  (results.filter fun result => !result.verified).map ReplaySectionResult.mismatch

theorem mismatches_replaySection (sectionName : String) (itemCount : Nat)
    (expected computed : String) (results : List ReplaySectionResult) :
    mismatches (replaySection sectionName itemCount expected computed :: results) =
      sectionFailure sectionName expected computed ++ mismatches results := by
  unfold mismatches replaySection sectionFailure
  by_cases hsame : computed = expected
  · simp [hsame]
  · simp [hsame, ReplaySectionResult.mismatch]

theorem mismatches_isEmpty {results : List ReplaySectionResult} :
    (mismatches results).isEmpty = true ↔ ∀ result ∈ results, result.verified = true := by
  rw [List.isEmpty_iff, mismatches, List.map_eq_nil_iff, List.filter_eq_nil_iff]
  simp

/-- Whatever the digest and the sections, collisions or not: the direct verification of a generated
bundle and its replay once it is ready answer alike, and the failures of the one name the sections
that fail in the other, with the same hashes. -/
theorem verifyIntegrity_agrees (hasher : Hasher) (verifiedAt : DateTime) (draws : GenerationDraws)
    (request : GenerateBundleRequest) (sections : ContentSectionsForVerification) :
    ∃ response, verifyBundleFromIntegrity hasher verifiedAt
        { (BundleGeneratorService.generate hasher draws request).bundle with status := .ready }
        sections = .ok response ∧
      BundleGeneratorService.verifyIntegrity hasher
          (BundleGeneratorService.generate hasher draws request).integrityHash sections =
        if response.report.overallVerified then .ok ()
        else .error ⟨mismatches response.report.sections⟩ := by
  refine ⟨_, rfl, ?_⟩
  have hverdict (results : List ReplaySectionResult) :
      (ReplayVerificationReport.fromResults verifiedAt
          { (BundleGeneratorService.generate hasher draws request).bundle with status := .ready }
          results).overallVerified = (mismatches results).isEmpty := by
    rw [Bool.eq_iff_iff, overallVerified_iff, mismatches_isEmpty]
  rw [hverdict, BundleGeneratorService.verifyIntegrity, verifyBundleIntegrity]
  have hnone : mismatches [] = [] := rfl
  simp only [ReplayVerificationReport.fromResults, mismatches_replaySection, hnone, List.append_nil,
    List.append_assoc]
  rfl

/-- The digests of the empty sections. -/
def sampleSections : List (String × String) :=
  [("\x7b\"versions\":[]\x7d",
      "e64db0fde59206a0cf85c783e644f5e2ffd6a519dbf7d720cc9e5b0ace3d46a4"),
    ("\x7b\"artifacts\":[]\x7d",
      "bf551427bb93b2762e29fc326bedde7a8e2cac4e25b3126cea8fc66f46d2e55b"),
    ("\x7b\"approvals\":[]\x7d",
      "e9a7583c1b202906a5e60289c8f47abcd06dfde19486cda09f4cf75212594bf0"),
    ("\x7b\"events\":[]\x7d",
      "24de1c4a19c43ad41b013f13dcd858c17b0daa7f33a53f19913e5b11366d1c2e"),
    ("\x7b\"snapshots\":[]\x7d",
      "6a4389c5f63920b03b2a4e70118c9f376786d6ff5ba3f73c4570f0440ab770ad")]

/-- A request without entries. -/
def emptyRequest : GenerateBundleRequest where
  tenantId := 1
  timeRange := ⟨0, 0⟩
  purpose := .legal
  createdBy := "system"
  intentVersions := []
  artifacts := []
  approvals := []
  auditEvents := []
  policySnapshots := []

/-- A request with some versions and an event. -/
def entriesRequest (intentVersions : List IntentVersionEntry) : GenerateBundleRequest :=
  { emptyRequest with
    intentVersions, auditEvents := [⟨0, "00000000000000000000000000000000", 0⟩] }

def oneVersion : GenerateBundleRequest :=
  entriesRequest [⟨7, 1, "00000000000000000000000000000001"⟩]

def twoVersions : GenerateBundleRequest :=
  entriesRequest [⟨7, 1, "00000000000000000000000000000001"⟩,
    ⟨7, 2, "00000000000000000000000000000002"⟩]

/-- A hasher that knows the digests of their sections, and of their manifests as generated. -/
def entriesHasher : Hasher :=
  let text {α : Type} [Serialize α] (value : α) :=
    Json.compact (Serialize.toJson sampleTimeText value)
  let sections := sampleSections ++
    [(text oneVersion.sections.intentVersions,
        "5087950c026e14534ce7c41b10e6ecc53d330c1ecb9dd1495048c3de6a045cde"),
      (text twoVersions.sections.intentVersions,
        "062d3ee752d7b52dbbad82c1523ebad5e9c0cb94d66c600a036a8d79cd9a5300"),
      (text oneVersion.sections.auditEvents,
        "46381c5ae9293fb14d12be730d7c6977d44fbad6e59e4bf72dfdfcd6440fa6fe")]
  let manifest (request : GenerateBundleRequest) := (BundleGeneratorService.generate
    (sampleHasher sections) ⟨1, 0, 0, 0, 0⟩ request).bundle.withoutManifestHash
  sampleHasher (sections ++
    [(text (manifest oneVersion),
        "d48181798cfb02ae4a3ea4763b9215a08e0e43843c1b63e01f1ed386f39f96f1"),
      (text (manifest twoVersions),
        "b749af0e6e96bcd4a32604616703f60951df41361c9c2b694193191a0289a782")])

theorem collisionFree_entries : CollisionFree entriesHasher.digest
    (twoVersions.sections.documents sampleTimeText ++
      oneVersion.sections.documents sampleTimeText) := by
  refine CollisionFree.of_nodup (?_ : _ ⊆
    Serialize.toJson sampleTimeText twoVersions.sections.intentVersions ::
      oneVersion.sections.documents sampleTimeText) (by decide +kernel)
  simp [ContentSectionsForVerification.documents, oneVersion, twoVersions, entriesRequest,
    emptyRequest, GenerateBundleRequest.sections, BundleGeneratorService.buildVerificationSections]

/-- A version too many is reported, and the other sections are verified. -/
theorem verifyBundleFromIntegrity_exact_sample : ∃ response,
    verifyBundleFromIntegrity entriesHasher 0
        { (BundleGeneratorService.generate entriesHasher ⟨1, 0, 0, 0, 0⟩ oneVersion).bundle with
          status := .ready } twoVersions.sections = .ok response ∧
      response.report.overallVerified = false ∧
      response.report.sections.map (fun result => (result.sectionName, result.verified)) =
        [("intent_versions", false), ("artifacts", true), ("approvals", true),
          ("audit_events", true), ("policy_snapshots", true)] := by
  obtain ⟨response, hresponse, hoverall, hsections⟩ := verifyBundleFromIntegrity_exact
    entriesHasher 0 ⟨1, 0, 0, 0, 0⟩ oneVersion twoVersions.sections
    sampleTimeText_injective collisionFree_entries
  refine ⟨response, hresponse, Bool.eq_false_iff.mpr fun h => ?_, hsections.trans (by decide)⟩
  cases hoverall.mp h

end BundleReplayService

end IntentRebase
