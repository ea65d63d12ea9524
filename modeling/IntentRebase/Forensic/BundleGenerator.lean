import IntentRebase.Forensic.BundleHasher

/-! The generation of a bundle: the hashes of its sections, and the hash of its manifest. -/

namespace IntentRebase

open Kit

structure GenerateBundleRequest where
  tenantId : Uuid
  timeRange : BundleTimeRange
  purpose : BundlePurpose
  createdBy : String
  intentVersions : List IntentVersionEntry
  artifacts : List ArtifactEntry
  approvals : List ApprovalEntry
  auditEvents : List AuditEventEntry
  policySnapshots : List PolicySnapshotEntry

structure BundleGenerationResult where
  bundle : ForensicBundle
  integrityHash : BundleIntegrityHash
  sectionHashes : List ContentSectionHash

/-- What a generation draws: an identifier, and the clock where it reads it. -/
structure GenerationDraws where
  bundleId : Uuid
  computedAt : DateTime
  createdAt : DateTime
  initialVerificationTimestamp : DateTime
  verificationTimestamp : DateTime

/-- The manifest as it is hashed, because a hash cannot include itself. -/
def ForensicBundle.withoutManifestHash (bundle : ForensicBundle) : ForensicBundle :=
  { bundle with integrity := { bundle.integrity with manifestHash := "" } }

namespace BundleGeneratorService

/-- The sections that a verification is given for these entries. -/
def buildVerificationSections (intentVersions : List IntentVersionEntry)
    (artifacts : List ArtifactEntry) (approvals : List ApprovalEntry)
    (auditEvents : List AuditEventEntry) (policySnapshots : List PolicySnapshotEntry) :
    ContentSectionsForVerification where
  intentVersions := { versions := intentVersions }
  artifacts := { artifacts }
  approvals := { approvals }
  auditEvents := { events := auditEvents }
  policySnapshots := { snapshots := policySnapshots }

variable (hasher : Hasher) (draws : GenerationDraws) (request : GenerateBundleRequest)

def generate : BundleGenerationResult :=
  let contents : BundleContents :=
    { intentVersions := request.intentVersions.length
      artifacts := request.artifacts.length
      approvals := request.approvals.length
      auditEvents := request.auditEvents.length
      policySnapshots := request.policySnapshots.length }
  let intentVersionsForHash : IntentVersionsForHash := { versions := request.intentVersions }
  let artifactsForHash : ArtifactsForHash := { artifacts := request.artifacts }
  let approvalsForHash : ApprovalsForHash := { approvals := request.approvals }
  let auditEventsForHash : AuditEventsForHash := { events := request.auditEvents }
  let policySnapshotsForHash : PolicySnapshotsForHash := { snapshots := request.policySnapshots }
  let intentVersionsHash := computeSha256 hasher intentVersionsForHash
  let artifactsHash := computeSha256 hasher artifactsForHash
  let approvalsHash := computeSha256 hasher approvalsForHash
  let auditEventsHash := computeSha256 hasher auditEventsForHash
  let policySnapshotsHash := computeSha256 hasher policySnapshotsForHash
  let integrityHash : BundleIntegrityHash :=
    { manifestHash := ""
      intentVersionsHash, intentVersionsCount := contents.intentVersions
      artifactsHash, artifactsCount := contents.artifacts
      approvalsHash, approvalsCount := contents.approvals
      auditEventsHash, auditEventsCount := contents.auditEvents
      policySnapshotsHash, policySnapshotsCount := contents.policySnapshots
      computedAt := draws.computedAt }
  let bundle := ForensicBundle.new draws.bundleId draws.createdAt
    draws.initialVerificationTimestamp request.tenantId request.timeRange request.purpose contents
    request.createdBy none
  let bundle := { bundle with status := .generating }
  -- the section hashes come first, so that the hash of the manifest covers them
  let bundle := { bundle with
    integrity := { bundle.integrity with
      intentVersionsHash, artifactsHash, approvalsHash, auditEventsHash, policySnapshotsHash
      verificationTimestamp := draws.verificationTimestamp } }
  let sectionHashes :=
    [⟨"intent_versions", intentVersionsHash, bundle.contents.intentVersions⟩,
      ⟨"artifacts", artifactsHash, bundle.contents.artifacts⟩,
      ⟨"approvals", approvalsHash, bundle.contents.approvals⟩,
      ⟨"audit_events", auditEventsHash, bundle.contents.auditEvents⟩,
      ⟨"policy_snapshots", policySnapshotsHash, bundle.contents.policySnapshots⟩]
  let manifestHash := computeSha256 hasher bundle.withoutManifestHash
  { bundle := { bundle with integrity := { bundle.integrity with manifestHash } }
    integrityHash := { integrityHash with manifestHash }
    sectionHashes }

def verifyIntegrity (recordedIntegrity : BundleIntegrityHash)
    (contentSections : ContentSectionsForVerification) :
    Except IntegrityVerificationFailure Unit :=
  verifyBundleIntegrity hasher recordedIntegrity contentSections

end BundleGeneratorService

/-- The sections of a request. -/
def GenerateBundleRequest.sections (request : GenerateBundleRequest) :
    ContentSectionsForVerification :=
  BundleGeneratorService.buildVerificationSections request.intentVersions request.artifacts
    request.approvals request.auditEvents request.policySnapshots

/-- The five section hashes of a manifest. -/
def BundleIntegrity.sectionHashes (integrity : BundleIntegrity) : List String :=
  [integrity.intentVersionsHash, integrity.artifactsHash, integrity.approvalsHash,
    integrity.auditEventsHash, integrity.policySnapshotsHash]

/-- The hashes of the five sections. -/
def ContentSectionsForVerification.hashes (hasher : Hasher)
    (sections : ContentSectionsForVerification) : List String :=
  [computeSha256 hasher sections.intentVersions, computeSha256 hasher sections.artifacts,
    computeSha256 hasher sections.approvals, computeSha256 hasher sections.auditEvents,
    computeSha256 hasher sections.policySnapshots]

namespace BundleGeneratorService

variable {hasher : Hasher} {draws : GenerationDraws} {request : GenerateBundleRequest}

@[simp] theorem status_generate : (generate hasher draws request).bundle.status = .generating := rfl

@[simp] theorem bundleId_generate :
    (generate hasher draws request).bundle.bundleId = draws.bundleId := rfl

/-- The manifest records the hashes of the request's sections. -/
@[simp] theorem sectionHashes_generate :
    (generate hasher draws request).bundle.integrity.sectionHashes =
      request.sections.hashes hasher := rfl

/-- The manifest records its own hash, as it is when it is generated. -/
theorem manifestHash_generate :
    (generate hasher draws request).bundle.integrity.manifestHash =
      computeSha256 hasher (generate hasher draws request).bundle.withoutManifestHash := rfl

end BundleGeneratorService

section Sections

variable {hasher : Hasher} {sections sections' : ContentSectionsForVerification}

/-- What the hashes of two bundles' sections say of the sections, one by one. -/
structure HashesBind (hasher : Hasher) (sections sections' : ContentSectionsForVerification) :
    Prop where
  intentVersions : computeSha256 hasher sections.intentVersions =
    computeSha256 hasher sections'.intentVersions ↔
      sections.intentVersions = sections'.intentVersions
  artifacts : computeSha256 hasher sections.artifacts = computeSha256 hasher sections'.artifacts ↔
    sections.artifacts = sections'.artifacts
  approvals : computeSha256 hasher sections.approvals = computeSha256 hasher sections'.approvals ↔
    sections.approvals = sections'.approvals
  auditEvents : computeSha256 hasher sections.auditEvents =
    computeSha256 hasher sections'.auditEvents ↔ sections.auditEvents = sections'.auditEvents
  policySnapshots : computeSha256 hasher sections.policySnapshots =
    computeSha256 hasher sections'.policySnapshots ↔
      sections.policySnapshots = sections'.policySnapshots

theorem hashesBind (htime : Function.Injective hasher.timeText)
    (hfree : CollisionFree hasher.digest
      (sections.documents hasher.timeText ++ sections'.documents hasher.timeText)) :
    HashesBind hasher sections sections' := by
  unfold ContentSectionsForVerification.documents at hfree
  constructor <;> exact computeSha256_inj htime hfree (by simp) (by simp)

/-- Two lists of section hashes are the same exactly if the sections are. -/
theorem HashesBind.hashes_eq (h : HashesBind hasher sections sections') :
    sections.hashes hasher = sections'.hashes hasher ↔ sections = sections' := by
  cases sections
  cases sections'
  simp only [ContentSectionsForVerification.hashes, List.cons.injEq, h.intentVersions,
    h.artifacts, h.approvals, h.auditEvents, h.policySnapshots,
    ContentSectionsForVerification.mk.injEq, and_true]

end Sections

end IntentRebase
