import IntentRebase.Forensic.Bundle
import IntentRebase.Kit.HashChain
import IntentRebase.Types.Event

/-! The hashes of a bundle: the JSON value of what is hashed, and that it determines the sections of
a bundle and the status of a manifest. -/

namespace IntentRebase

open Kit

/-- The functions of other crates under a hash: the compact text of a JSON value, the hexadecimal
SHA-256 digest of a text, and the text of a time in JSON. -/
structure Hasher where
  jsonText : Json → String
  sha256 : String → String
  timeText : DateTime → String

/-- The digest of a JSON value's text. -/
def Hasher.digest (hasher : Hasher) (value : Json) : String := hasher.sha256 (hasher.jsonText value)

/-- The hash of a value. Nothing that is hashed can fail to serialize: it has no map and no
serialization of its own. -/
def computeSha256 {α : Type} [Serialize α] (hasher : Hasher) (value : α) : String :=
  hasher.digest (Serialize.toJson hasher.timeText value)

structure IntentVersionEntry where
  intentId : Uuid
  version : Int
  contentHash : String
deriving DecidableEq, Repr

structure ArtifactEntry where
  artifactId : Uuid
  contentHash : String
  collectedAt : DateTime
deriving DecidableEq, Repr

structure ApprovalEntry where
  approvalId : Uuid
  contentHash : String
deriving DecidableEq, Repr

structure AuditEventEntry where
  eventId : Uuid
  contentHash : String
  eventIndex : Nat
deriving DecidableEq, Repr

structure PolicySnapshotEntry where
  snapshotId : Uuid
  scopeHash : String
deriving DecidableEq, Repr

instance : Serialize IntentVersionEntry where
  toJson _ entry := .object [("intent_id", .string entry.intentId.display),
    ("version", .ofInt entry.version), ("content_hash", .string entry.contentHash)]

instance : Serialize ArtifactEntry where
  toJson timeText entry := .object [("artifact_id", .string entry.artifactId.display),
    ("content_hash", .string entry.contentHash),
    ("collected_at", .string (timeText entry.collectedAt))]

instance : Serialize ApprovalEntry where
  toJson _ entry := .object [("approval_id", .string entry.approvalId.display),
    ("content_hash", .string entry.contentHash)]

instance : Serialize AuditEventEntry where
  toJson _ entry := .object [("event_id", .string entry.eventId.display),
    ("content_hash", .string entry.contentHash), ("event_index", .ofNat entry.eventIndex)]

instance : Serialize PolicySnapshotEntry where
  toJson _ entry := .object [("snapshot_id", .string entry.snapshotId.display),
    ("scope_hash", .string entry.scopeHash)]

structure IntentVersionsForHash where
  versions : List IntentVersionEntry := []
deriving DecidableEq, Repr

structure ArtifactsForHash where
  artifacts : List ArtifactEntry := []
deriving DecidableEq, Repr

structure ApprovalsForHash where
  approvals : List ApprovalEntry := []
deriving DecidableEq, Repr

structure AuditEventsForHash where
  events : List AuditEventEntry := []
deriving DecidableEq, Repr

structure PolicySnapshotsForHash where
  snapshots : List PolicySnapshotEntry := []
deriving DecidableEq, Repr

/-- A section: an object whose one field has its entries. -/
def sectionJson {α : Type} [Serialize α] (field : String) (timeText : DateTime → String)
    (entries : List α) : Json :=
  .object [(field, .array (entries.map (Serialize.toJson timeText)))]

instance : Serialize IntentVersionsForHash where
  toJson timeText value := sectionJson "versions" timeText value.versions

instance : Serialize ArtifactsForHash where
  toJson timeText value := sectionJson "artifacts" timeText value.artifacts

instance : Serialize ApprovalsForHash where
  toJson timeText value := sectionJson "approvals" timeText value.approvals

instance : Serialize AuditEventsForHash where
  toJson timeText value := sectionJson "events" timeText value.events

instance : Serialize PolicySnapshotsForHash where
  toJson timeText value := sectionJson "snapshots" timeText value.snapshots

structure ContentSectionHash where
  sectionName : String
  contentHash : String
  itemCount : Nat
deriving DecidableEq, Repr

structure BundleIntegrityHash where
  manifestHash : String
  intentVersionsHash : String
  intentVersionsCount : Nat
  artifactsHash : String
  artifactsCount : Nat
  approvalsHash : String
  approvalsCount : Nat
  auditEventsHash : String
  auditEventsCount : Nat
  policySnapshotsHash : String
  policySnapshotsCount : Nat
  computedAt : DateTime
deriving DecidableEq, Repr

structure ContentSectionsForVerification where
  intentVersions : IntentVersionsForHash := {}
  artifacts : ArtifactsForHash := {}
  approvals : ApprovalsForHash := {}
  auditEvents : AuditEventsForHash := {}
  policySnapshots : PolicySnapshotsForHash := {}
deriving DecidableEq, Repr

structure IntegrityVerificationFailure where
  failures : List String
deriving DecidableEq, Repr

/-- The failure of a section whose hash is not the recorded one. -/
def sectionFailure (sectionName expected computed : String) : List String :=
  if computed ≠ expected then
    [s!"{sectionName} hash mismatch: expected {expected}, got {computed}"]
  else []

def verifyBundleIntegrity (hasher : Hasher) (computed : BundleIntegrityHash)
    (sections : ContentSectionsForVerification) : Except IntegrityVerificationFailure Unit :=
  let failures :=
    sectionFailure "intent_versions" computed.intentVersionsHash
      (computeSha256 hasher sections.intentVersions) ++
    sectionFailure "artifacts" computed.artifactsHash (computeSha256 hasher sections.artifacts) ++
    sectionFailure "approvals" computed.approvalsHash (computeSha256 hasher sections.approvals) ++
    sectionFailure "audit_events" computed.auditEventsHash
      (computeSha256 hasher sections.auditEvents) ++
    sectionFailure "policy_snapshots" computed.policySnapshotsHash
      (computeSha256 hasher sections.policySnapshots)
  if failures.isEmpty then .ok () else .error { failures }

def BundleStatus.toJson : BundleStatus → Json
  | .pending => .string "pending"
  | .generating => .string "generating"
  | .ready => .string "ready"
  | .failed => .string "failed"

def BundlePurpose.toJson : BundlePurpose → Json
  | .incidentInvestigation => .string "incident_investigation"
  | .complianceAudit => .string "compliance_audit"
  | .legal => .string "legal"

def RetentionPolicy.toJson : RetentionPolicy → Json
  | .hot => .string "hot"
  | .cold => .string "cold"
  | .archive => .string "archive"

instance : Serialize BundleRetention where
  toJson timeText retention := .object [("policy", retention.policy.toJson),
    ("expires_at", .ofOption (fun t => .string (timeText t)) retention.expiresAt),
    ("retention_set_at", .string (timeText retention.retentionSetAt)),
    ("retention_set_by", .string retention.retentionSetBy)]

instance : Serialize BundleIntegrity where
  toJson timeText integrity := .object [("manifest_hash", .string integrity.manifestHash),
    ("previous_bundle_hash", .ofOption .string integrity.previousBundleHash),
    ("chain_verified", .bool integrity.chainVerified),
    ("verification_timestamp", .string (timeText integrity.verificationTimestamp)),
    ("intent_versions_hash", .string integrity.intentVersionsHash),
    ("artifacts_hash", .string integrity.artifactsHash),
    ("approvals_hash", .string integrity.approvalsHash),
    ("audit_events_hash", .string integrity.auditEventsHash),
    ("policy_snapshots_hash", .string integrity.policySnapshotsHash)]

instance : Serialize BundleTimeRange where
  toJson timeText range := .object [("start", .string (timeText range.start)),
    ("end", .string (timeText range.stop))]

instance : Serialize BundleContents where
  toJson _ contents := .object [("intent_versions", .ofNat contents.intentVersions),
    ("artifacts", .ofNat contents.artifacts), ("approvals", .ofNat contents.approvals),
    ("audit_events", .ofNat contents.auditEvents),
    ("policy_snapshots", .ofNat contents.policySnapshots)]

instance : Serialize ForensicBundle where
  toJson timeText bundle := .object [("bundle_id", .string bundle.bundleId.display),
    ("bundle_version", .string bundle.bundleVersion),
    ("created_at", .string (timeText bundle.createdAt)), ("created_by", .string bundle.createdBy),
    ("tenant_id", .string bundle.tenantId.display),
    ("time_range", Serialize.toJson timeText bundle.timeRange),
    ("purpose", bundle.purpose.toJson), ("status", bundle.status.toJson),
    ("contents", Serialize.toJson timeText bundle.contents),
    ("integrity", Serialize.toJson timeText bundle.integrity),
    ("retention", .ofOption (Serialize.toJson timeText) bundle.retention)]

/-- Different values of the type have different JSON values, where different times have different
texts. -/
class LawfulSerialize (α : Type) [Serialize α] : Prop where
  injective : ∀ timeText : DateTime → String, Function.Injective timeText →
    Function.Injective (Serialize.toJson timeText : α → Json)

instance : LawfulSerialize IntentVersionEntry where
  injective _ _ := by
    rintro ⟨id, version, hash⟩ ⟨id', version', hash'⟩ h
    simp only [Serialize.toJson, Json.object.injEq, List.cons.injEq, Prod.mk.injEq,
      Json.string.injEq, true_and, and_true] at h
    rw [Uuid.display_injective h.1, Json.ofInt_injective h.2.1, h.2.2]

instance : LawfulSerialize ArtifactEntry where
  injective _ htime := by
    rintro ⟨id, hash, time⟩ ⟨id', hash', time'⟩ h
    simp only [Serialize.toJson, Json.object.injEq, List.cons.injEq, Prod.mk.injEq,
      Json.string.injEq, true_and, and_true] at h
    rw [Uuid.display_injective h.1, h.2.1, htime h.2.2]

instance : LawfulSerialize ApprovalEntry where
  injective _ _ := by
    rintro ⟨id, hash⟩ ⟨id', hash'⟩ h
    simp only [Serialize.toJson, Json.object.injEq, List.cons.injEq, Prod.mk.injEq,
      Json.string.injEq, true_and, and_true] at h
    rw [Uuid.display_injective h.1, h.2]

instance : LawfulSerialize AuditEventEntry where
  injective _ _ := by
    rintro ⟨id, hash, index⟩ ⟨id', hash', index'⟩ h
    simp only [Serialize.toJson, Json.ofNat, Json.object.injEq, List.cons.injEq, Prod.mk.injEq,
      Json.string.injEq, Json.number.injEq, JsonNumber.posInt.injEq, true_and, and_true] at h
    rw [Uuid.display_injective h.1, h.2.1, h.2.2]

instance : LawfulSerialize PolicySnapshotEntry where
  injective _ _ := by
    rintro ⟨id, hash⟩ ⟨id', hash'⟩ h
    simp only [Serialize.toJson, Json.object.injEq, List.cons.injEq, Prod.mk.injEq,
      Json.string.injEq, true_and, and_true] at h
    rw [Uuid.display_injective h.1, h.2]

section

variable {α : Type} [Serialize α] [LawfulSerialize α]

/-- The JSON value of a section has its entries, in order. -/
theorem sectionJson_injective (field : String) {timeText : DateTime → String}
    (htime : Function.Injective timeText) :
    Function.Injective (sectionJson field timeText : List α → Json) := by
  intro entries entries' h
  simp only [sectionJson, Json.object.injEq, List.cons.injEq, Prod.mk.injEq, Json.array.injEq,
    true_and, and_true] at h
  exact List.map_injective_iff.mpr (LawfulSerialize.injective timeText htime) h

/-- Where the digests of the documents do not collide, values that are hashed from them have the
same hash only if they are the same. -/
theorem computeSha256_inj {hasher : Hasher} {documents : List Json}
    (htime : Function.Injective hasher.timeText) (hfree : CollisionFree hasher.digest documents)
    {a b : α} (ha : Serialize.toJson hasher.timeText a ∈ documents)
    (hb : Serialize.toJson hasher.timeText b ∈ documents) :
    computeSha256 hasher a = computeSha256 hasher b ↔ a = b :=
  ⟨fun h => LawfulSerialize.injective hasher.timeText htime (hfree _ ha _ hb h), congrArg _⟩

end

instance : LawfulSerialize IntentVersionsForHash where
  injective _ htime a b h := by
    have hentries : a.versions = b.versions := sectionJson_injective "versions" htime h
    exact congrArg IntentVersionsForHash.mk hentries

instance : LawfulSerialize ArtifactsForHash where
  injective _ htime a b h := by
    have hentries : a.artifacts = b.artifacts := sectionJson_injective "artifacts" htime h
    exact congrArg ArtifactsForHash.mk hentries

instance : LawfulSerialize ApprovalsForHash where
  injective _ htime a b h := by
    have hentries : a.approvals = b.approvals := sectionJson_injective "approvals" htime h
    exact congrArg ApprovalsForHash.mk hentries

instance : LawfulSerialize AuditEventsForHash where
  injective _ htime a b h := by
    have hentries : a.events = b.events := sectionJson_injective "events" htime h
    exact congrArg AuditEventsForHash.mk hentries

instance : LawfulSerialize PolicySnapshotsForHash where
  injective _ htime a b h := by
    have hentries : a.snapshots = b.snapshots := sectionJson_injective "snapshots" htime h
    exact congrArg PolicySnapshotsForHash.mk hentries

theorem BundleStatus.toJson_injective : Function.Injective BundleStatus.toJson := by
  intro status status' h
  cases status <;> cases status' <;> simp [BundleStatus.toJson] at h ⊢

/-- The JSON value of a manifest has its status. -/
theorem ForensicBundle.status_of_toJson_eq {timeText : DateTime → String}
    {bundle bundle' : ForensicBundle}
    (h : Serialize.toJson timeText bundle = Serialize.toJson timeText bundle') :
    bundle.status = bundle'.status := by
  simp only [Serialize.toJson, Json.object.injEq, List.cons.injEq, Prod.mk.injEq] at h
  exact BundleStatus.toJson_injective h.2.2.2.2.2.2.2.1.2

/-- The JSON values of the five sections. -/
def ContentSectionsForVerification.documents (timeText : DateTime → String)
    (sections : ContentSectionsForVerification) : List Json :=
  [Serialize.toJson timeText sections.intentVersions, Serialize.toJson timeText sections.artifacts,
    Serialize.toJson timeText sections.approvals, Serialize.toJson timeText sections.auditEvents,
    Serialize.toJson timeText sections.policySnapshots]

section Sample

mutual

/-- The compact text of a JSON value without fractions, whose strings need no escapes. -/
def Json.compact : Json → String
  | .null => "null"
  | .bool value => if value then "true" else "false"
  | .number (.posInt n) => toString n
  | .number (.negInt n) => toString n
  | .number (.float _) => ""
  | .string value => "\"" ++ value ++ "\""
  | .array items => "[" ++ String.intercalate "," (Json.compactItems items) ++ "]"
  | .object fields => "\x7b" ++ String.intercalate "," (Json.compactFields fields) ++ "\x7d"

def Json.compactItems : List Json → List String
  | [] => []
  | item :: rest => Json.compact item :: Json.compactItems rest

def Json.compactFields : List (String × Json) → List String
  | [] => []
  | (name, value) :: rest =>
    ("\"" ++ name ++ "\":" ++ Json.compact value) :: Json.compactFields rest

end

/-- The text of the epoch, and some other text for each other time. -/
def sampleTimeText (time : DateTime) : String :=
  if time = 0 then "1970-01-01T00:00:00Z"
  else String.ofList ((if 0 < time then '+' else '-') :: List.replicate time.natAbs '0')

theorem sampleTimeText_injective : Function.Injective sampleTimeText := by
  have hother : ∀ time : Int, time ≠ 0 → (sampleTimeText time).toList =
      (if 0 < time then '+' else '-') :: List.replicate time.natAbs '0' := by
    intro time hne
    rw [sampleTimeText, if_neg hne, String.toList_ofList]
  have hsign : ∀ time : Int, time ≠ 0 → sampleTimeText time ≠ sampleTimeText 0 := by
    intro time hne h
    have hlist := congrArg String.toList h
    rw [hother time hne] at hlist
    split_ifs at hlist <;> cases (List.cons.inj hlist).1
  intro (time : Int) (time' : Int) h
  by_cases hzero : time = 0
  · subst hzero
    exact (not_not.mp fun hne => hsign time' (Ne.symm hne) h.symm)
  by_cases hzero' : time' = 0
  · subst hzero'
    exact absurd h (hsign time hzero)
  have hlist := congrArg String.toList h
  rw [hother time hzero, hother time' hzero'] at hlist
  obtain ⟨hhead, htail⟩ := List.cons.inj hlist
  have habs := congrArg List.length htail
  rw [List.length_replicate, List.length_replicate] at habs
  show (time : Int) = time'
  split_ifs at hhead <;> first | omega | cases hhead

/-- A hasher that knows the digests of the texts in a table. -/
def sampleHasher (table : List (String × String)) : Hasher where
  jsonText := Json.compact
  sha256 text := (table.lookup text).getD ""
  timeText := sampleTimeText

end Sample

end IntentRebase
