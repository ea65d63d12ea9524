import IntentRebase.Types.Common

/-! The manifest of a forensic bundle and the states of its generation. -/

namespace IntentRebase

inductive BundleStatus where
  | pending | generating | ready | failed
deriving DecidableEq, Repr

namespace BundleStatus

/-- The name that a debug print shows. -/
def debug : BundleStatus → String
  | pending => "Pending"
  | generating => "Generating"
  | ready => "Ready"
  | failed => "Failed"

def isTerminal : BundleStatus → Bool
  | ready | failed => true
  | pending | generating => false

/-- A transition to the same status is a no-op; a terminal status has no other one. -/
def canTransitionTo (status target : BundleStatus) : Bool :=
  if status = target then true
  else match status, target with
    | ready, _ => false
    | failed, _ => false
    | pending, generating => true
    | pending, failed => true
    | generating, ready => true
    | generating, failed => true
    | _, _ => false

/-- A terminal status is left by no transition. -/
theorem canTransitionTo_of_isTerminal {status target : BundleStatus}
    (h : status.isTerminal = true) : status.canTransitionTo target = true ↔ status = target := by
  cases status <;> cases target <;> simp_all [isTerminal, canTransitionTo]

end BundleStatus

inductive BundlePurpose where
  | incidentInvestigation | complianceAudit | legal
deriving DecidableEq, Repr

/-- A retention tier; nothing enforces it yet. -/
inductive RetentionPolicy where
  | hot | cold | archive
deriving DecidableEq, Repr

structure BundleRetention where
  policy : RetentionPolicy
  expiresAt : Option DateTime
  retentionSetAt : DateTime
  retentionSetBy : String
deriving DecidableEq, Repr

/-- The hashes that a manifest records. -/
structure BundleIntegrity where
  manifestHash : String
  previousBundleHash : Option String
  chainVerified : Bool
  verificationTimestamp : DateTime
  intentVersionsHash : String
  artifactsHash : String
  approvalsHash : String
  auditEventsHash : String
  policySnapshotsHash : String
deriving DecidableEq, Repr

structure BundleTimeRange where
  start : DateTime
  stop : DateTime
deriving DecidableEq, Repr

/-- How many items of each kind a bundle has. -/
structure BundleContents where
  intentVersions : Nat := 0
  artifacts : Nat := 0
  approvals : Nat := 0
  auditEvents : Nat := 0
  policySnapshots : Nat := 0
deriving DecidableEq, Repr

structure ForensicBundle where
  bundleId : Uuid
  bundleVersion : String
  createdAt : DateTime
  createdBy : String
  tenantId : Uuid
  timeRange : BundleTimeRange
  purpose : BundlePurpose
  status : BundleStatus
  contents : BundleContents
  integrity : BundleIntegrity
  retention : Option BundleRetention
deriving DecidableEq, Repr

/-- A pending manifest without hashes. `bundleId` is drawn at random, and `createdAt` and
`verifiedAt` are the clock. -/
def ForensicBundle.new (bundleId : Uuid) (createdAt verifiedAt : DateTime) (tenantId : Uuid)
    (timeRange : BundleTimeRange) (purpose : BundlePurpose) (contents : BundleContents)
    (createdBy : String) (retention : Option BundleRetention) : ForensicBundle where
  bundleId := bundleId
  bundleVersion := "v1"
  createdAt := createdAt
  createdBy := createdBy
  tenantId := tenantId
  timeRange := timeRange
  purpose := purpose
  status := .pending
  contents := contents
  integrity :=
    { manifestHash := "", previousBundleHash := none, chainVerified := false
      verificationTimestamp := verifiedAt, intentVersionsHash := "", artifactsHash := ""
      approvalsHash := "", auditEventsHash := "", policySnapshotsHash := "" }
  retention := retention

end IntentRebase
