import IntentRebase.Forensic.Bundle
import IntentRebase.Kit.LatestFirst
import IntentRebase.Kit.SecondaryIndex
import IntentRebase.Types.Column

/-! The repositories of bundle manifests, in memory and in SQL: what a creation and a change of the
status leave in either. -/

namespace IntentRebase

open Kit

/-- What a mutation answers, and the state that it leaves. -/
abbrev BundleAnswer (σ : Type) := Except IntentRebaseError ForensicBundle × σ

/-- A repository of bundles whose state is a `σ`, with the calls that a creation makes. -/
structure BundleRepository (σ : Type) where
  create : σ → ForensicBundle → BundleAnswer σ
  get : σ → Uuid → Except IntentRebaseError ForensicBundle
  updateStatus : σ → Uuid → BundleStatus → BundleAnswer σ

/-- A repository that has a record for each identifier: a creation makes a new one, as `kept` says,
and an update changes the status of one and nothing else, where the transition is allowed. A call
that fails changes nothing. -/
structure LawfulBundleRepository (σ : Type) extends BundleRepository σ where
  record : σ → Uuid → Option ForensicBundle
  kept : ForensicBundle → ForensicBundle
  kept_bundleId : ∀ bundle, (kept bundle).bundleId = bundle.bundleId
  kept_tenantId : ∀ bundle, (kept bundle).tenantId = bundle.tenantId
  kept_status : ∀ bundle, (kept bundle).status = bundle.status
  kept_integrity : ∀ bundle, (kept bundle).integrity = bundle.integrity
  get_some : ∀ s id bundle, record s id = some bundle → get s id = .ok bundle
  get_none : ∀ s id, record s id = none → get s id = .error (.forensicBundleNotFound id)
  create_new : ∀ s bundle, record s bundle.bundleId = none →
    ∃ s', create s bundle = (.ok bundle, s') ∧
      record s' = Function.update (record s) bundle.bundleId (some (kept bundle))
  create_old : ∀ s bundle old, record s bundle.bundleId = some old →
    ∃ e, create s bundle = (.error e, s)
  updateStatus_allowed : ∀ s id bundle target, record s id = some bundle →
    bundle.status.canTransitionTo target = true →
    ∃ s', updateStatus s id target = (.ok { bundle with status := target }, s') ∧
      record s' = Function.update (record s) id (some { bundle with status := target })
  updateStatus_refused : ∀ s id target,
    (∀ bundle, record s id = some bundle → bundle.status.canTransitionTo target = false) →
    ∃ e, updateStatus s id target = (.error e, s)

/-- The bundles, with their identifiers listed under three keys. -/
structure InMemoryBundleRepository where
  bundles : HashMap Uuid ForensicBundle
  byTenant : SecondaryIndex Uuid Uuid
  byStatus : SecondaryIndex (Uuid × BundleStatus) Uuid
  byPurpose : SecondaryIndex (Uuid × BundlePurpose) Uuid

namespace InMemoryBundleRepository

/-- The empty repository. -/
def new : InMemoryBundleRepository where
  bundles := ∅
  byTenant := ∅
  byStatus := ∅
  byPurpose := ∅

variable (s : InMemoryBundleRepository)

def create (bundle : ForensicBundle) : BundleAnswer InMemoryBundleRepository :=
  match s.bundles.lookup bundle.bundleId with
  | some _ =>
    (.error (.internal s!"bundle with id '{bundle.bundleId.display}' already exists"), s)
  | none => (.ok bundle,
      { bundles := s.bundles.insert bundle.bundleId bundle
        byTenant := s.byTenant.push bundle.tenantId bundle.bundleId
        byStatus := s.byStatus.push (bundle.tenantId, bundle.status) bundle.bundleId
        byPurpose := s.byPurpose.push (bundle.tenantId, bundle.purpose) bundle.bundleId })

def get (bundleId : Uuid) : Except IntentRebaseError ForensicBundle :=
  match s.bundles.lookup bundleId with
  | some bundle => .ok bundle
  | none => .error (.forensicBundleNotFound bundleId)

def listByTenant (tenantId : Uuid) (limit : Option Nat) : List ForensicBundle :=
  let ids := s.byTenant.bucket tenantId
  let result := latestFirst ForensicBundle.createdAt (ids.filterMap s.bundles.lookup)
  match limit with
  | some l => result.take l
  | none => result

def listByTenantAndStatus (tenantId : Uuid) (status : BundleStatus) : List ForensicBundle :=
  (s.byStatus.bucket (tenantId, status)).filterMap s.bundles.lookup

def listByTenantAndPurpose (tenantId : Uuid) (purpose : BundlePurpose) : List ForensicBundle :=
  (s.byPurpose.bucket (tenantId, purpose)).filterMap s.bundles.lookup

def listTerminalBundles (tenantId : Uuid) (limit : Option Nat) : List ForensicBundle :=
  let ids := s.byTenant.bucket tenantId
  let terminal := (ids.filterMap s.bundles.lookup).filter fun b => b.status.isTerminal
  let result := latestFirst ForensicBundle.createdAt terminal
  match limit with
  | some l => result.take l
  | none => result

def updateStatus (bundleId : Uuid) (newStatus : BundleStatus) :
    BundleAnswer InMemoryBundleRepository :=
  match s.bundles.lookup bundleId with
  | none => (.error (.forensicBundleNotFound bundleId), s)
  | some bundle =>
    if !bundle.status.canTransitionTo newStatus then
      (.error (.invalidForensicBundleStatusTransition bundle.status.debug newStatus.debug
        "invalid status transition"), s)
    else
      let updated := { bundle with status := newStatus }
      (.ok updated,
        { s with
          bundles := s.bundles.insert bundleId updated
          byStatus := s.byStatus.move (bundle.tenantId, bundle.status)
            (bundle.tenantId, newStatus) bundleId })

def updateContents (bundleId : Uuid) (contents : BundleContents) :
    BundleAnswer InMemoryBundleRepository :=
  match s.bundles.lookup bundleId with
  | none => (.error (.forensicBundleNotFound bundleId), s)
  | some bundle =>
    let updated := { bundle with contents }
    (.ok updated, { s with bundles := s.bundles.insert bundleId updated })

/-- The record of an insertion is that of an update. -/
theorem lookup_insert_update (bundles : HashMap Uuid ForensicBundle) (id : Uuid)
    (bundle : ForensicBundle) : (bundles.insert id bundle).lookup =
      Function.update bundles.lookup id (some bundle) := by
  funext id'
  rw [lookup_insert_eq, Function.update_apply]

/-- The in-memory repository keeps a bundle as it is. -/
def repository : LawfulBundleRepository InMemoryBundleRepository where
  create := create
  get := get
  updateStatus := updateStatus
  record s := s.bundles.lookup
  kept := id
  kept_bundleId _ := rfl
  kept_tenantId _ := rfl
  kept_status _ := rfl
  kept_integrity _ := rfl
  get_some s id bundle h := by rw [get, h]
  get_none s id h := by rw [get, h]
  create_new s bundle h := by
    rw [create, h]
    exact ⟨_, rfl, lookup_insert_update _ _ _⟩
  create_old s bundle old h := by
    rw [create, h]
    exact ⟨_, rfl⟩
  updateStatus_allowed s id bundle target h hallowed := by
    rw [updateStatus, h]
    simp only [hallowed, Bool.not_true, Bool.false_eq_true, if_false]
    exact ⟨_, rfl, lookup_insert_update _ _ _⟩
  updateStatus_refused s id target h := by
    rw [updateStatus]
    cases hlookup : s.bundles.lookup id with
    | none => exact ⟨_, rfl⟩
    | some bundle =>
      simp only [h bundle hlookup, Bool.not_false, if_true]
      exact ⟨_, rfl⟩

end InMemoryBundleRepository

/-- A row of the table of bundles. The columns of JSON hold what they are given. -/
structure BundleRow where
  bundleId : Uuid
  tenantId : Uuid
  bundleVersion : String
  createdAt : DateTime
  createdBy : String
  timeRangeStart : DateTime
  timeRangeEnd : DateTime
  purpose : String
  status : String
  contents : BundleContents
  integrity : BundleIntegrity
  retention : Option BundleRetention

def bundleStatusToString : BundleStatus → String
  | .pending => "pending"
  | .generating => "generating"
  | .ready => "ready"
  | .failed => "failed"

def bundleStatusFromString (s : String) : Except IntentRebaseError BundleStatus :=
  match s with
  | "pending" => .ok .pending
  | "generating" => .ok .generating
  | "ready" => .ok .ready
  | "failed" => .ok .failed
  | other => .error (.internal s!"unknown bundle status: {other}")

def bundlePurposeToString : BundlePurpose → String
  | .incidentInvestigation => "incident_investigation"
  | .complianceAudit => "compliance_audit"
  | .legal => "legal"

def bundlePurposeFromString (s : String) : Except IntentRebaseError BundlePurpose :=
  match s with
  | "incident_investigation" => .ok .incidentInvestigation
  | "compliance_audit" => .ok .complianceAudit
  | "legal" => .ok .legal
  | other => .error (.internal s!"unknown bundle purpose: {other}")

theorem bundleStatusFromString_toString (status : BundleStatus) :
    bundleStatusFromString (bundleStatusToString status) = .ok status := by
  cases status <;> rfl

theorem bundlePurposeFromString_toString (purpose : BundlePurpose) :
    bundlePurposeFromString (bundlePurposeToString purpose) = .ok purpose := by
  cases purpose <;> rfl

def rowToBundle (row : BundleRow) : Except IntentRebaseError ForensicBundle := do
  let purpose ← bundlePurposeFromString row.purpose
  let status ← bundleStatusFromString row.status
  return { bundleId := row.bundleId
           bundleVersion := row.bundleVersion
           createdAt := row.createdAt
           createdBy := row.createdBy
           tenantId := row.tenantId
           timeRange := ⟨row.timeRangeStart, row.timeRangeEnd⟩
           purpose, status
           contents := row.contents
           integrity := row.integrity
           retention := row.retention }

/-- The row that an insertion binds. -/
def BundleRow.ofBundle (bundle : ForensicBundle) : BundleRow where
  bundleId := bundle.bundleId
  tenantId := bundle.tenantId
  bundleVersion := bundle.bundleVersion
  createdAt := timestamptz bundle.createdAt
  createdBy := bundle.createdBy
  timeRangeStart := timestamptz bundle.timeRange.start
  timeRangeEnd := timestamptz bundle.timeRange.stop
  purpose := bundlePurposeToString bundle.purpose
  status := bundleStatusToString bundle.status
  contents := bundle.contents
  integrity := bundle.integrity
  retention := bundle.retention

/-- A bundle as its row holds it. -/
def ForensicBundle.inColumns (bundle : ForensicBundle) : ForensicBundle :=
  { bundle with
    createdAt := timestamptz bundle.createdAt
    timeRange := ⟨timestamptz bundle.timeRange.start, timestamptz bundle.timeRange.stop⟩ }

theorem rowToBundle_ofBundle (bundle : ForensicBundle) :
    rowToBundle (.ofBundle bundle) = .ok bundle.inColumns := by
  simp only [rowToBundle, BundleRow.ofBundle, bundlePurposeFromString_toString,
    bundleStatusFromString_toString]
  rfl

theorem rowToBundle_status {row : BundleRow} {bundle : ForensicBundle}
    (h : rowToBundle row = .ok bundle) (target : BundleStatus) :
    rowToBundle { row with status := bundleStatusToString target } =
      .ok { bundle with status := target } := by
  simp only [rowToBundle] at h ⊢
  cases hpurpose : bundlePurposeFromString row.purpose with
  | error e =>
    rw [hpurpose] at h
    cases h
  | ok purpose =>
    rw [hpurpose] at h
    cases hstatus : bundleStatusFromString row.status with
    | error e =>
      rw [hstatus] at h
      cases h
    | ok status =>
      rw [hstatus] at h
      rw [bundleStatusFromString_toString]
      cases h
      rfl

/-- The table of bundles: every row reads back as a bundle. -/
structure SqlxBundleRepository where
  rows : HashMap Uuid BundleRow
  readable : ∀ id row, rows.lookup id = some row → ∃ bundle, rowToBundle row = .ok bundle

namespace SqlxBundleRepository

/-- The empty table. -/
def new : SqlxBundleRepository where
  rows := ∅
  readable _ _ h := by cases h

/-- The table with the row of a bundle. -/
def insertRow (s : SqlxBundleRepository) (bundle : ForensicBundle) : SqlxBundleRepository where
  rows := s.rows.insert bundle.bundleId (.ofBundle bundle)
  readable id row hlookup := by
    rw [lookup_insert_eq] at hlookup
    split at hlookup
    · obtain rfl := Option.some.inj hlookup
      exact ⟨_, rowToBundle_ofBundle bundle⟩
    · exact s.readable id row hlookup

/-- The table with another status in one row. -/
def setStatus (s : SqlxBundleRepository) (bundleId : Uuid) (newStatus : BundleStatus) :
    SqlxBundleRepository where
  rows := match s.rows.lookup bundleId with
    | some row => s.rows.insert bundleId { row with status := bundleStatusToString newStatus }
    | none => s.rows
  readable id row hlookup := by
    split at hlookup
    · next old hold =>
      rw [lookup_insert_eq] at hlookup
      split at hlookup
      · obtain rfl := Option.some.inj hlookup
        obtain ⟨bundle, hbundle⟩ := s.readable bundleId old hold
        exact ⟨_, rowToBundle_status hbundle newStatus⟩
      · exact s.readable id row hlookup
    · exact s.readable id row hlookup

variable (s : SqlxBundleRepository)

def create (bundle : ForensicBundle) : BundleAnswer SqlxBundleRepository :=
  match s.rows.lookup bundle.bundleId with
  | some _ => (.error (.storageError
      "insert forensic bundle: duplicate key value violates unique constraint"), s)
  | none => (.ok bundle, s.insertRow bundle)

def get (bundleId : Uuid) : Except IntentRebaseError ForensicBundle :=
  match s.rows.lookup bundleId with
  | some row => rowToBundle row
  | none => .error (.forensicBundleNotFound bundleId)

def updateStatus (bundleId : Uuid) (newStatus : BundleStatus) :
    BundleAnswer SqlxBundleRepository :=
  match s.get bundleId with
  | .error e => (.error e, s)
  | .ok current =>
    if !current.status.canTransitionTo newStatus then
      (.error (.invalidForensicBundleStatusTransition current.status.debug newStatus.debug
        "invalid status transition"), s)
    else
      match s.rows.lookup bundleId with
      | none => (.error (.forensicBundleNotFound bundleId), s)
      | some row => (rowToBundle { row with status := bundleStatusToString newStatus },
          s.setStatus bundleId newStatus)

/-- The bundle of an identifier, if the table has its row. -/
def record (bundleId : Uuid) : Option ForensicBundle := (s.get bundleId).toOption

variable {s}

theorem record_eq_none {id : Uuid} : s.record id = none ↔ s.rows.lookup id = none := by
  rw [record, get]
  cases hrow : s.rows.lookup id with
  | none => exact iff_of_true rfl rfl
  | some row =>
    obtain ⟨bundle, hbundle⟩ := s.readable id row hrow
    dsimp only
    rw [hbundle]
    exact iff_of_false (by simp [Except.toOption]) (by simp)

theorem record_eq_some {id : Uuid} {bundle : ForensicBundle} :
    s.record id = some bundle ↔
      ∃ row, s.rows.lookup id = some row ∧ rowToBundle row = .ok bundle := by
  rw [record, get]
  cases hrow : s.rows.lookup id with
  | none => simp [Except.toOption]
  | some row =>
    obtain ⟨bundle', hbundle⟩ := s.readable id row hrow
    simp [hbundle, Except.toOption]

theorem get_of_record {id : Uuid} {bundle : ForensicBundle} (h : s.record id = some bundle) :
    s.get id = .ok bundle := by
  obtain ⟨row, hrow, hbundle⟩ := record_eq_some.mp h
  rw [get, hrow]
  exact hbundle

/-- A written row is the record of its identifier, and leaves the other records. -/
theorem record_of_insert {s' : SqlxBundleRepository} {id : Uuid} {row : BundleRow}
    {bundle : ForensicBundle} (h : s'.rows = s.rows.insert id row)
    (hbundle : rowToBundle row = .ok bundle) :
    s'.record = Function.update s.record id (some bundle) := by
  funext id'
  rw [Function.update_apply, record, record, get, get, h, lookup_insert_eq]
  by_cases hid : id' = id
  · simp only [hid, if_true, hbundle]
    rfl
  · simp only [hid, if_false]

theorem record_setStatus {id : Uuid} {bundle : ForensicBundle} (h : s.record id = some bundle)
    (target : BundleStatus) : (s.setStatus id target).record =
      Function.update s.record id (some { bundle with status := target }) := by
  obtain ⟨row, hrow, hbundle⟩ := record_eq_some.mp h
  have hrows : (s.setStatus id target).rows =
      s.rows.insert id { row with status := bundleStatusToString target } := by
    simp only [setStatus, hrow]
  exact record_of_insert hrows (rowToBundle_status hbundle target)

/-- The SQL repository keeps a bundle as its columns hold it. -/
def repository : LawfulBundleRepository SqlxBundleRepository where
  create := create
  get := get
  updateStatus := updateStatus
  record := record
  kept := ForensicBundle.inColumns
  kept_bundleId _ := rfl
  kept_tenantId _ := rfl
  kept_status _ := rfl
  kept_integrity _ := rfl
  get_some s id bundle h := get_of_record h
  get_none s id h := by rw [get, record_eq_none.mp h]
  create_new s bundle h := by
    rw [create, record_eq_none.mp h]
    exact ⟨_, rfl, record_of_insert rfl (rowToBundle_ofBundle bundle)⟩
  create_old s bundle old h := by
    obtain ⟨row, hrow, _⟩ := record_eq_some.mp h
    rw [create, hrow]
    exact ⟨_, rfl⟩
  updateStatus_allowed s id bundle target h hallowed := by
    obtain ⟨row, hrow, hbundle⟩ := record_eq_some.mp h
    rw [updateStatus, get_of_record h]
    simp only [hallowed, Bool.not_true, Bool.false_eq_true, if_false, hrow]
    rw [rowToBundle_status hbundle]
    exact ⟨_, rfl, record_setStatus h target⟩
  updateStatus_refused s id target h := by
    rw [updateStatus]
    cases hget : s.get id with
    | error e => exact ⟨e, rfl⟩
    | ok bundle =>
      have hrecord : s.record id = some bundle := by rw [record, hget]; rfl
      simp only [h bundle hrecord, Bool.not_false, if_true]
      exact ⟨_, rfl⟩

end SqlxBundleRepository

end IntentRebase
