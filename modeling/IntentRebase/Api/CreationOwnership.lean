import IntentRebase.Api.IngestOwnership
import IntentRebase.Api.IntentOwnership

/-! When a creation with a token adds records of the token's tenant only: where there is a pool, and
elsewhere if it writes nothing for another tenant. -/

namespace IntentRebase

open Kit

/-- The stored versions stay, and so do the intents up to their heads. -/
structure SqlxIntentRepository.Keeps (s s' : SqlxIntentRepository) : Prop where
  intents : ∀ id row, s.intents.lookup id = some row → ∃ currentVersion rowVersion,
    s'.intents.lookup id = some { row with currentVersion, rowVersion }
  versions : ∀ id row, s.versions.lookup id = some row → s'.versions.lookup id = some row

structure InMemoryIntentRepository.Keeps (s s' : InMemoryIntentRepository) : Prop where
  intents : ∀ id intent, s.intents.lookup id = some intent → ∃ currentVersion,
    s'.intents.lookup id = some { intent with currentVersion }
  versions : ∀ id version, s.versions.lookup id = some version →
    s'.versions.lookup id = some version

def IntentStore.Keeps : IntentStore → IntentStore → Prop
  | .inMemory repo, .inMemory repo' => repo.Keeps repo'
  | .sqlx repo, .sqlx repo' => repo.Keeps repo'
  | _, _ => False

theorem SqlxIntentRepository.Keeps.refl (s : SqlxIntentRepository) : s.Keeps s :=
  ⟨fun _ row h => ⟨row.currentVersion, row.rowVersion, h⟩, fun _ _ h => h⟩

theorem InMemoryIntentRepository.Keeps.refl (s : InMemoryIntentRepository) : s.Keeps s :=
  ⟨fun _ intent h => ⟨intent.currentVersion, h⟩, fun _ _ h => h⟩

theorem IntentStore.Keeps.refl (s : IntentStore) : s.Keeps s := by
  cases s with
  | inMemory repo => exact InMemoryIntentRepository.Keeps.refl repo
  | sqlx repo => exact SqlxIntentRepository.Keeps.refl repo

namespace SqlxIntentRepository

variable {computePayloadHash : IntentPayload → String} {s s' : SqlxIntentRepository}
  {session : Option Uuid}

theorem createIntentStatements_keeps {draw : CreateIntentDraw} {request : CreateIntentRequest}
    {tenantId : Uuid} {response : CreateIntentResponse}
    (h : s.createIntentStatements computePayloadHash session draw request tenantId =
      .ok (response, s')) : s.Keeps s' := by
  obtain ⟨hintent, hversion⟩ := createIntentStatements_new h
  obtain ⟨hintents, hversions⟩ := createIntentStatements_ok h
  refine ⟨fun id row hrow => ⟨row.currentVersion, row.rowVersion, ?_⟩, fun id row hrow => ?_⟩
  · rw [hintents]
    exact lookup_insert_kept hintent hrow
  · rw [hversions]
    exact lookup_insert_kept hversion hrow

theorem bumpVersion_lookup {intentId id : Uuid} {newVersionNumber expectedRowVersion : Int}
    {row : IntentRow}
    (h : s.bumpVersion session intentId newVersionNumber expectedRowVersion = some s')
    (hrow : s.intents.lookup id = some row) : ∃ currentVersion rowVersion,
      s'.intents.lookup id = some { row with currentVersion, rowVersion } := by
  unfold bumpVersion at h
  split at h
  · cases h
  next head hhead =>
  split at h
  swap
  · cases h
  cases h
  rw [putIntent, lookup_insert_eq]
  split
  · next hid =>
    rw [hid, hhead] at hrow
    cases hrow
    exact ⟨_, _, rfl⟩
  · exact ⟨row.currentVersion, row.rowVersion, hrow⟩

theorem createVersionStatements_keeps {draw : CreateVersionDraw} {intentId : Uuid}
    {request : CreateVersionRequest} {expectedVersion expectedRowVersion : Int}
    {response : CreateVersionResponse}
    (h : s.createVersionStatements computePayloadHash session draw intentId request expectedVersion
      expectedRowVersion = .ok (response, s')) : s.Keeps s' := by
  have hversions := createVersionStatements_ok h
  obtain ⟨_, haccepts⟩ := accepts_of_ok h
  unfold createVersionStatements at h
  split at h
  · cases h
  split at h
  · cases h
  split at h
  · cases h
  dsimp only at h
  split at h
  · cases h
  next s₁ hinsert =>
  split at h
  · cases h
  next s₂ hbump =>
  cases h
  obtain ⟨number, hversions⟩ := hversions
  refine ⟨fun id row hrow => bumpVersion_lookup hbump ?_, fun id row hrow => ?_⟩
  · rw [(insertVersion_ok hinsert).1, hrow]
  · rw [hversions]
    exact lookup_insert_kept haccepts.fresh hrow

end SqlxIntentRepository

namespace IntentStore

section CreateIntent

variable (computePayloadHash : IntentPayload → String) (resolved : Option Uuid)
  (draw : CreateIntentDraw) (request : CreateIntentRequest)

/-- The tenant that a creation without a transaction gives an intent: the request's in memory, and
the resolver's in SQL. -/
def assignedTenant : IntentStore → Uuid
  | .inMemory _ => request.tenantId.getD draw.tenantId
  | .sqlx _ => SqlxIntentRepository.resolveTenantIdOrDefault resolved draw

/-- The identifiers of a new intent and its version are not in use. -/
def Unused (intentId versionId : Uuid) : IntentStore → Prop
  | .inMemory repo =>
    repo.intents.lookup intentId = none ∧ repo.versions.lookup versionId = none
  | .sqlx repo => repo.intents.lookup intentId = none ∧ repo.versions.lookup versionId = none

variable {draw} {s : IntentStore}

theorem createIntentTx_changesOnly (hunused : s.Unused draw.intentId draw.versionId) :
    s.ChangesOnlyOf (s.assignedTenant resolved draw request)
      (s.createIntentTx computePayloadHash resolved draw request).2 := by
  cases s with
  | inMemory repo =>
    have hintents : AddsOnly (fun intent => intent.tenantId =
        (inMemory repo).assignedTenant resolved draw request) repo.intents
        (repo.intents.insert draw.intentId (InMemoryIntentRepository.newIntent draw request)) :=
      .insert hunused.1 rfl
    exact ⟨hintents.changesOnly,
      (AddsOnly.insert hunused.2 ⟨_, AList.lookup_insert _, rfl⟩).changesOnly⟩
  | sqlx repo =>
    obtain ⟨response, s', hcreate⟩ := SqlxIntentRepository.createIntentStatements_fresh
      computePayloadHash none request (SqlxIntentRepository.resolveTenantIdOrDefault resolved draw)
      rfl hunused.1 hunused.2
    rw [createIntentTx, SqlxIntentRepository.createIntentTx, hcreate]
    exact SqlxIntentRepository.createIntentStatements_changesOnly hcreate

theorem createIntentTx_keeps (hunused : s.Unused draw.intentId draw.versionId) :
    s.Keeps (s.createIntentTx computePayloadHash resolved draw request).2 := by
  cases s with
  | inMemory repo =>
    exact ⟨fun id intent h => ⟨intent.currentVersion, lookup_insert_kept hunused.1 h⟩,
      fun id version h => lookup_insert_kept hunused.2 h⟩
  | sqlx repo =>
    obtain ⟨response, s', hcreate⟩ := SqlxIntentRepository.createIntentStatements_fresh
      computePayloadHash none request (SqlxIntentRepository.resolveTenantIdOrDefault resolved draw)
      rfl hunused.1 hunused.2
    rw [createIntentTx, SqlxIntentRepository.createIntentTx, hcreate]
    exact SqlxIntentRepository.createIntentStatements_keeps hcreate

/-- The intent that is created is of the tenant that it is assigned. -/
theorem createIntentTx_assigned {tenantId : Uuid}
    (hunused : s.Unused draw.intentId draw.versionId)
    (h : s.ChangesOnlyOf tenantId (s.createIntentTx computePayloadHash resolved draw request).2) :
    s.assignedTenant resolved draw request = tenantId := by
  cases s with
  | inMemory repo =>
    exact h.1.added hunused.1 (v := InMemoryIntentRepository.newIntent draw request)
      (AList.lookup_insert _)
  | sqlx repo =>
    obtain ⟨response, s', hcreate⟩ := SqlxIntentRepository.createIntentStatements_fresh
      computePayloadHash none request (SqlxIntentRepository.resolveTenantIdOrDefault resolved draw)
      rfl hunused.1 hunused.2
    rw [createIntentTx, SqlxIntentRepository.createIntentTx, hcreate] at h
    refine h.intents.added hunused.1 (v := SqlxIntentRepository.newIntentRow draw request
      (SqlxIntentRepository.resolveTenantIdOrDefault resolved draw)) ?_
    exact (congrArg (AList.lookup draw.intentId)
      (SqlxIntentRepository.createIntentStatements_ok hcreate).1).trans (AList.lookup_insert _)

end CreateIntent

section CreateVersion

/-- The identifier of a new version is not in use. -/
def UnusedVersion (versionId : Uuid) : IntentStore → Prop
  | .inMemory repo => repo.versions.lookup versionId = none
  | .sqlx repo => repo.versions.lookup versionId = none

/-- A tenant's intent is at the version that a call expects, and in SQL at the row version, with the
number of the next version free. -/
def AtVersion (versionId intentId : Uuid) (expectedVersion expectedRowVersion : Option Int)
    (tenantId : Uuid) : IntentStore → Prop
  | .inMemory repo => ∃ intent, repo.intents.lookup intentId = some intent ∧
    intent.tenantId = tenantId ∧ expectedVersion.getD intent.currentVersion = intent.currentVersion
  | .sqlx repo => ∃ row, row.tenantId = tenantId ∧ repo.Accepts none versionId intentId
    (expectedVersion.getD row.currentVersion) (expectedRowVersion.getD row.rowVersion) row

variable (computePayloadHash : IntentPayload → String) {draw : CreateVersionDraw} {intentId : Uuid}
  (request : CreateVersionRequest) {expectedVersion expectedRowVersion : Option Int}
  {s : IntentStore} {intent : Intent} {rowVersion : Int}

theorem AtVersion.head {tenantId : Uuid} (h : s.AtVersion draw.versionId intentId expectedVersion
    expectedRowVersion tenantId) : ∃ intent rowVersion,
      s.getIntentForUpdate intentId = .ok (intent, rowVersion) ∧ intent.tenantId = tenantId := by
  cases s with
  | inMemory repo =>
    obtain ⟨intent, hintent, htenant, -⟩ := h
    refine ⟨intent, 0, ?_, htenant⟩
    rw [getIntentForUpdate, InMemoryIntentRepository.getIntentForUpdate,
      InMemoryIntentRepository.getIntent, hintent]
  | sqlx repo =>
    obtain ⟨row, htenant, haccepts⟩ := h
    refine ⟨rowToIntent row, row.rowVersion, ?_, htenant⟩
    rw [getIntentForUpdate, SqlxIntentRepository.getIntentForUpdate, haccepts.stored]

theorem getIntentForUpdate_inMemory {repo : InMemoryIntentRepository}
    (h : (inMemory repo).getIntentForUpdate intentId = .ok (intent, rowVersion)) :
    repo.intents.lookup intentId = some intent := by
  rw [getIntentForUpdate, InMemoryIntentRepository.getIntentForUpdate,
    InMemoryIntentRepository.getIntent] at h
  cases hlookup : repo.intents.lookup intentId with
  | none =>
    rw [hlookup] at h
    cases h
  | some stored =>
    rw [hlookup] at h
    cases h
    rfl

theorem getIntentForUpdate_sqlx {repo : SqlxIntentRepository}
    (h : (sqlx repo).getIntentForUpdate intentId = .ok (intent, rowVersion)) :
    ∃ row, repo.intents.lookup intentId = some row ∧ intent = rowToIntent row ∧
      rowVersion = row.rowVersion := by
  rw [getIntentForUpdate, SqlxIntentRepository.getIntentForUpdate] at h
  cases hlookup : repo.intents.lookup intentId with
  | none =>
    rw [hlookup] at h
    cases h
  | some row =>
    rw [hlookup] at h
    cases h
    exact ⟨row, rfl, rfl, rfl⟩

/-- A call that finds no such head writes nothing. -/
theorem createVersionWithOcc_refused
    (hhead : s.getIntentForUpdate intentId = .ok (intent, rowVersion))
    (h : ¬ s.AtVersion draw.versionId intentId expectedVersion expectedRowVersion
      intent.tenantId) :
    ∃ e, s.createVersionWithOcc computePayloadHash draw intentId request
      (expectedVersion.getD intent.currentVersion) (expectedRowVersion.getD rowVersion) =
        (.error e, s) := by
  cases s with
  | inMemory repo =>
    have hintent := getIntentForUpdate_inMemory hhead
    have hnot : intent.currentVersion ≠ expectedVersion.getD intent.currentVersion := fun hsame =>
      h ⟨intent, hintent, rfl, hsame.symm⟩
    rw [createVersionWithOcc, InMemoryIntentRepository.createVersionWithOcc, hintent]
    dsimp only
    rw [if_pos hnot]
    exact ⟨_, rfl⟩
  | sqlx repo =>
    obtain ⟨row, hrow, rfl, rfl⟩ := getIntentForUpdate_sqlx hhead
    rw [createVersionWithOcc, SqlxIntentRepository.createVersionWithOcc]
    cases hstatements : repo.createVersionStatements computePayloadHash none draw intentId request
        (expectedVersion.getD (rowToIntent row).currentVersion)
        (expectedRowVersion.getD row.rowVersion) with
    | error e => exact ⟨e, rfl⟩
    | ok written =>
      obtain ⟨row', haccepts⟩ := SqlxIntentRepository.accepts_of_ok hstatements
      cases hrow.symm.trans haccepts.stored
      exact absurd ⟨row, rfl, haccepts⟩ h

variable (expectedVersion expectedRowVersion) in
/-- What a call writes is of the intent's tenant. -/
theorem createVersionWithOcc_changesOnly (hunused : s.UnusedVersion draw.versionId)
    (hhead : s.getIntentForUpdate intentId = .ok (intent, rowVersion)) :
    s.ChangesOnlyOf intent.tenantId (s.createVersionWithOcc computePayloadHash draw intentId request
        (expectedVersion.getD intent.currentVersion) (expectedRowVersion.getD rowVersion)).2 ∧
      s.Keeps (s.createVersionWithOcc computePayloadHash draw intentId request
        (expectedVersion.getD intent.currentVersion) (expectedRowVersion.getD rowVersion)).2 := by
  cases s with
  | inMemory repo =>
    have hintent := getIntentForUpdate_inMemory hhead
    rw [createVersionWithOcc, InMemoryIntentRepository.createVersionWithOcc, hintent]
    dsimp only
    split
    · exact ⟨.refl _ _, .refl _⟩
    · refine ⟨⟨.insert (fun intent' hintent' => ?_) rfl,
        (AddsOnly.insert hunused ⟨_, AList.lookup_insert _, rfl⟩).changesOnly⟩,
        fun id intent' hintent' => ?_, fun id version h => lookup_insert_kept hunused h⟩
      · cases hintent.symm.trans hintent'
        rfl
      · rw [lookup_insert_eq]
        split
        · next hid =>
          rw [hid, hintent] at hintent'
          cases hintent'
          exact ⟨_, rfl⟩
        · exact ⟨intent'.currentVersion, hintent'⟩
  | sqlx repo =>
    obtain ⟨row, hrow, rfl, rfl⟩ := getIntentForUpdate_sqlx hhead
    rw [createVersionWithOcc, SqlxIntentRepository.createVersionWithOcc]
    cases hstatements : repo.createVersionStatements computePayloadHash none draw intentId request
        (expectedVersion.getD (rowToIntent row).currentVersion)
        (expectedRowVersion.getD row.rowVersion) with
    | error e => exact ⟨.refl _ (sqlx repo), .refl (sqlx repo)⟩
    | ok written =>
      refine ⟨SqlxIntentRepository.createVersionStatements_changesOnly (fun row' hrow' _ => ?_)
        hstatements, SqlxIntentRepository.createVersionStatements_keeps hstatements⟩
      cases hrow.symm.trans hrow'
      rfl

/-- A version of an intent that is not the tenant's is not among its changes. -/
theorem createVersionWithOcc_foreign {tenantId : Uuid} (hunused : s.UnusedVersion draw.versionId)
    (hhead : s.getIntentForUpdate intentId = .ok (intent, rowVersion))
    (h : s.AtVersion draw.versionId intentId expectedVersion expectedRowVersion intent.tenantId)
    (hchanges : s.ChangesOnlyOf tenantId (s.createVersionWithOcc computePayloadHash draw intentId
      request (expectedVersion.getD intent.currentVersion)
      (expectedRowVersion.getD rowVersion)).2) : intent.tenantId = tenantId := by
  by_contra hforeign
  cases s with
  | inMemory repo =>
    obtain ⟨intent', hintent', -, hversion⟩ := h
    have hintent := getIntentForUpdate_inMemory hhead
    cases hintent.symm.trans hintent'
    rw [createVersionWithOcc, InMemoryIntentRepository.createVersionWithOcc, hintent] at hchanges
    dsimp only at hchanges
    rw [if_neg (not_ne_iff.mpr hversion.symm)] at hchanges
    obtain ⟨hintents, hversions⟩ := hchanges
    obtain ⟨owner, howner, htenant⟩ := hversions.added hunused (AList.lookup_insert _)
    cases (hintents.kept hintent hforeign).symm.trans howner
    exact hforeign htenant
  | sqlx repo =>
    obtain ⟨row, hrow, rfl, rfl⟩ := getIntentForUpdate_sqlx hhead
    obtain ⟨row', -, haccepts⟩ := h
    cases hrow.symm.trans haccepts.stored
    obtain ⟨s', hstatements, hversions⟩ := haccepts.statements computePayloadHash request
    have hwritten : ((sqlx repo).createVersionWithOcc computePayloadHash draw intentId request
        (expectedVersion.getD (rowToIntent row).currentVersion)
        (expectedRowVersion.getD row.rowVersion)).2 = sqlx s' :=
      congrArg (fun r => ((repo.commit r).map id sqlx).2) hstatements
    rw [hwritten] at hchanges
    have hadded := (congrArg (AList.lookup draw.versionId) hversions).trans
      (AList.lookup_insert _)
    obtain ⟨owner, howner, htenant⟩ := hchanges.versions.added hunused hadded
    cases (hchanges.intents.kept hrow hforeign).symm.trans howner
    exact hforeign htenant

end CreateVersion

end IntentStore

/-- What is created is of the tenant, and nothing else differs but its heads and requests. -/
structure IntentWorld.CreatesOnlyOf (tenantId : Uuid) (w w' : IntentWorld) : Prop where
  changes : w.ChangesOnlyOf tenantId w'
  keeps : w.intents.Keeps w'.intents

theorem IntentWorld.CreatesOnlyOf.refl (tenantId : Uuid) (w : IntentWorld) :
    w.CreatesOnlyOf tenantId w := ⟨.refl _ _, .refl _⟩

section Handlers

variable (state : IntentMutationState) (rlsClaims : RlsTenantClaims) {w : IntentWorld}

section CreateIntent

variable (run : CreateIntentRun) (request : CreateIntentRequest)

/-- Without a transaction, a creation stores an intent of another tenant. -/
structure CreateIntentRun.StoresForeign (config : IntentServiceConfig) (tenantId : Uuid)
    (w : IntentWorld) : Prop where
  valid : validateCreateIntentRequest request = .ok ()
  stored : ∀ e, run.storeFault ≠ some (.before e)
  tenant : w.intents.assignedTenant config.resolved run.draw request ≠ tenantId

variable {run} in
theorem createIntent_createsOnly_iff
    (hunused : w.intents.Unused run.draw.intentId run.draw.versionId) :
    w.CreatesOnlyOf rlsClaims.tenantId (createIntent state run request (some rlsClaims) w).2 ↔
      ¬ (state.rlsPool = false ∧
        run.StoresForeign request state.service rlsClaims.tenantId w) := by
  cases hpool : state.rlsPool with
  | true =>
    refine iff_of_true ?_ fun h => (by cases h.1)
    refine createIntent_keeps state rlsClaims w hpool run request (.refl _ w) ?_
    refine w.createIntentWithRls_keeps state.service rlsClaims.tenantId run request (.refl _ w)
      fun repo response intents hstore hcreate => ⟨⟨?_, ChangesOnly.refl _ _⟩, ?_⟩
    · rw [hstore]
      exact SqlxIntentRepository.createIntentStatements_changesOnly hcreate
    · rw [hstore]
      exact SqlxIntentRepository.createIntentStatements_keeps hcreate
  | false =>
    rw [createIntent.eq_def, hpool]
    cases hvalid : validateCreateIntentRequest request with
    | error e =>
      refine iff_of_true (.refl _ w) fun h => ?_
      cases hvalid.symm.trans h.2.valid
    | ok _ =>
      have hchanges := IntentStore.createIntentTx_changesOnly state.service.computePayloadHash
        state.service.resolved request hunused
      have hkeeps := IntentStore.createIntentTx_keeps state.service.computePayloadHash
        state.service.resolved request hunused
      have hstate : (answerCreated (w.createIntent state.service run request)).2 =
          { w with intents := (Fault.meet run.storeFault w.intents
            (w.intents.createIntentTx state.service.computePayloadHash state.service.resolved
              run.draw request)).2 } := rfl
      dsimp only
      rw [hstate]
      rcases Fault.meet_state run.storeFault w.intents (w.intents.createIntentTx
        state.service.computePayloadHash state.service.resolved run.draw request) with
        ⟨e, hfault, hmet⟩ | ⟨hfault, hmet⟩
      · rw [hmet]
        exact iff_of_true (.refl _ w) fun h => h.2.stored e hfault
      · rw [hmet]
        constructor
        · intro h hforeign
          exact hforeign.2.tenant (IntentStore.createIntentTx_assigned _ _ request hunused
            h.changes.intents)
        · intro h
          have htenant := not_ne_iff.mp fun hne => h ⟨rfl, hvalid, hfault, hne⟩
          exact ⟨⟨htenant ▸ hchanges, ChangesOnly.refl _ _⟩, hkeeps⟩

end CreateIntent

section CreateVersion

variable (run : CreateVersionRun) (intentId : Uuid) (headers : HttpHeaderMap)
  (request : CreateVersionRequest)

/-- Without a transaction, a creation stores a version of another tenant's intent. -/
structure CreateVersionRun.StoresForeign (expected expectedRow : Option Int) (tenantId : Uuid)
    (w : IntentWorld) : Prop where
  read : run.readFault = none
  stored : ∀ e, run.storeFault ≠ some (.before e)
  foreign : ∃ owner, owner ≠ tenantId ∧
    w.intents.AtVersion run.draw.versionId intentId expected expectedRow owner

/-- A creation without a transaction that has read the head. -/
theorem IntentWorld.createVersion_writes (config : IntentServiceConfig)
    (expectedVersion expectedRowVersion : Option Int) {intent : Intent} {rowVersion : Int}
    (hread : run.readFault = none)
    (hhead : w.intents.getIntentForUpdate intentId = .ok (intent, rowVersion)) :
    ∃ approvals, w.approvals.ChangesOnlyOf intent.tenantId approvals ∧
      (∀ e intents, Fault.meet run.storeFault w.intents (w.intents.createVersionWithOcc
          config.computePayloadHash run.draw intentId request
          (expectedVersion.getD intent.currentVersion) (expectedRowVersion.getD rowVersion)) =
            (.error e, intents) → approvals = w.approvals) ∧
      (w.createVersion config run intentId request expectedVersion expectedRowVersion).2 =
        { intents := (Fault.meet run.storeFault w.intents (w.intents.createVersionWithOcc
            config.computePayloadHash run.draw intentId request
            (expectedVersion.getD intent.currentVersion) (expectedRowVersion.getD rowVersion))).2
          approvals } := by
  rw [createVersion, hread]
  dsimp only
  rw [hhead]
  dsimp only
  cases hmet : Fault.meet run.storeFault w.intents (w.intents.createVersionWithOcc
      config.computePayloadHash run.draw intentId request
      (expectedVersion.getD intent.currentVersion) (expectedRowVersion.getD rowVersion)) with
  | mk answer intents =>
    cases answer with
    | error e => exact ⟨w.approvals, ChangesOnly.refl _ _, fun _ _ _ => rfl, rfl⟩
    | ok result =>
      exact ⟨_, cancelPending_changesOnly config intent.tenantId run intentId
        intent.currentVersion result.versionNumber w.approvals, fun _ _ h => (by cases h), rfl⟩

variable {run} in
theorem IntentWorld.createVersion_createsOnly_iff (config : IntentServiceConfig) (tenantId : Uuid)
    (hunused : w.intents.UnusedVersion run.draw.versionId)
    (expectedVersion expectedRowVersion : Option Int) :
    w.CreatesOnlyOf tenantId
        (w.createVersion config run intentId request expectedVersion expectedRowVersion).2 ↔
      ¬ run.StoresForeign intentId expectedVersion expectedRowVersion tenantId w := by
  cases hread : run.readFault with
  | some e =>
    rw [createVersion, hread]
    refine iff_of_true (.refl _ w) fun h => ?_
    cases hread.symm.trans h.read
  | none =>
    cases hhead : w.intents.getIntentForUpdate intentId with
    | error e =>
      rw [createVersion, hread, hhead]
      refine iff_of_true (.refl _ w) fun h => ?_
      obtain ⟨owner, -, hat⟩ := h.foreign
      obtain ⟨_, _, hfound, -⟩ := hat.head
      cases hhead.symm.trans hfound
    | ok head =>
      obtain ⟨intent, rowVersion⟩ := head
      obtain ⟨approvals, hcancel, hsame, hwrites⟩ := createVersion_writes run intentId request
        config expectedVersion expectedRowVersion hread hhead
      have howner (owner : Uuid) (hat : w.intents.AtVersion run.draw.versionId intentId
          expectedVersion expectedRowVersion owner) : intent.tenantId = owner := by
        obtain ⟨_, _, hfound, htenant⟩ := hat.head
        cases hhead.symm.trans hfound
        exact htenant
      rw [hwrites]
      by_cases hstores : (∀ e, run.storeFault ≠ some (.before e)) ∧ w.intents.AtVersion
        run.draw.versionId intentId expectedVersion expectedRowVersion intent.tenantId
      · have hmet := (Fault.meet_state run.storeFault w.intents (w.intents.createVersionWithOcc
          config.computePayloadHash run.draw intentId request
          (expectedVersion.getD intent.currentVersion)
          (expectedRowVersion.getD rowVersion))).resolve_left (by
            rintro ⟨e, hfault, -⟩
            exact hstores.1 e hfault)
        rw [hmet.2]
        constructor
        · intro h hforeign
          obtain ⟨owner, hne, hat⟩ := hforeign.foreign
          refine hne ((howner owner hat).symm.trans ?_)
          exact IntentStore.createVersionWithOcc_foreign _ request hunused hhead hstores.2
            h.changes.intents
        · intro h
          obtain ⟨hchanges, hkeeps⟩ := IntentStore.createVersionWithOcc_changesOnly
            config.computePayloadHash request expectedVersion expectedRowVersion hunused hhead
          have htenant : intent.tenantId = tenantId := by_contra fun hne =>
            h ⟨hread, hstores.1, intent.tenantId, hne, hstores.2⟩
          exact ⟨⟨htenant ▸ hchanges, htenant ▸ hcancel⟩, hkeeps⟩
      · have hrefused : ∃ e, Fault.meet run.storeFault w.intents (w.intents.createVersionWithOcc
            config.computePayloadHash run.draw intentId request
            (expectedVersion.getD intent.currentVersion) (expectedRowVersion.getD rowVersion)) =
              (.error e, w.intents) := by
          by_cases hbefore : ∃ e, run.storeFault = some (.before e)
          · obtain ⟨e, hfault⟩ := hbefore
            rw [hfault]
            exact ⟨e, rfl⟩
          · obtain ⟨e, hocc⟩ := IntentStore.createVersionWithOcc_refused config.computePayloadHash
              request hhead fun hat => hstores ⟨fun e hfault => hbefore ⟨e, hfault⟩, hat⟩
            rw [hocc]
            exact Fault.meet_refused _ e
        obtain ⟨e, hmet⟩ := hrefused
        rw [hsame e _ hmet, hmet]
        refine iff_of_true (.refl _ w) fun h => hstores ⟨h.stored, ?_⟩
        obtain ⟨owner, -, hat⟩ := h.foreign
        exact howner owner hat ▸ hat

variable {run} in
theorem createVersion_createsOnly_iff (hunused : w.intents.UnusedVersion run.draw.versionId) :
    w.CreatesOnlyOf rlsClaims.tenantId
        (createVersion state run intentId headers request (some rlsClaims) w).2 ↔
      ¬ (state.rlsPool = false ∧ ∃ expectedVersion expectedRowVersion,
        parseOptionalHeader headers "x-expected-version" = .ok expectedVersion ∧
        parseOptionalHeader headers "x-expected-row-version" = .ok expectedRowVersion ∧
        run.StoresForeign intentId expectedVersion expectedRowVersion rlsClaims.tenantId w) := by
  cases hpool : state.rlsPool with
  | true =>
    refine iff_of_true ?_ fun h => (by cases h.1)
    refine createVersion_keeps state rlsClaims w hpool run intentId headers request (.refl _ w)
      fun expectedVersion expectedRowVersion => ?_
    refine w.createVersionWithRls_keeps state.service rlsClaims.tenantId run intentId request
      expectedVersion expectedRowVersion (.refl _ w)
      (fun _ hcancel => ⟨⟨.refl _ _, hcancel⟩, .refl _⟩)
      fun repo _ _ response intents approvals hstore hcreate hcancel => ⟨⟨?_, hcancel⟩, ?_⟩
    · rw [hstore]
      exact SqlxIntentRepository.createVersionStatements_changesOnly
        (fun _ _ hseen => SqlxIntentRepository.visible_some.mp hseen) hcreate
    · rw [hstore]
      exact SqlxIntentRepository.createVersionStatements_keeps hcreate
  | false =>
    rw [createVersion.eq_def, hpool]
    cases hversion : parseOptionalHeader headers "x-expected-version" with
    | error e =>
      refine iff_of_true (.refl _ w) ?_
      rintro ⟨-, _, _, hparsed, -⟩
      cases hparsed
    | ok expectedVersion =>
      cases hrowVersion : parseOptionalHeader headers "x-expected-row-version" with
      | error e =>
        refine iff_of_true (.refl _ w) ?_
        rintro ⟨-, _, _, -, hparsed, -⟩
        cases hparsed
      | ok expectedRowVersion =>
        refine (IntentWorld.createVersion_createsOnly_iff intentId request state.service
          rlsClaims.tenantId hunused expectedVersion expectedRowVersion).trans (not_congr ?_)
        refine ⟨fun h => ⟨rfl, _, _, rfl, rfl, h⟩, ?_⟩
        rintro ⟨-, _, _, hversion, hrowVersion, h⟩
        cases hversion
        cases hrowVersion
        exact h

end CreateVersion

section Ingest

variable {run : IngestRun} {request : ArtifactIngestBody} {w : IngestWorld}

/-- Without a transaction, an ingestion stores a node of another tenant. -/
structure IngestRun.StoresForeign (run : IngestRun) (request : ArtifactIngestBody)
    (tenantId : Uuid) (w : IngestWorld) : Prop where
  valid : validateArtifactIngestRequest request = .ok ()
  stored : w.graph.StoresNode run.faults run.draws request.toArtifactIngestRequest
  tenant : request.tenantId ≠ tenantId

theorem ingestArtifactHandler_addsOnly_iff (rlsPool : Bool) (hunused : run.Unused request w) :
    w.AddsOnlyOf rlsClaims.tenantId
        (ingestArtifactHandler run request rlsPool (some rlsClaims) w).2 ↔
      ¬ (rlsPool = false ∧ run.StoresForeign request rlsClaims.tenantId w) := by
  cases rlsPool with
  | true =>
    exact iff_of_true (ingestArtifactHandler_addsOnly run request rlsClaims hunused)
      fun h => (by cases h.1)
  | false =>
    rw [ingestArtifactHandler.eq_def]
    cases hvalid : validateArtifactIngestRequest request with
    | error e =>
      refine iff_of_true (.refl _ w) fun h => ?_
      cases hvalid.symm.trans h.2.valid
    | ok _ =>
      dsimp only
      by_cases hstores : w.graph.StoresNode run.faults run.draws request.toArtifactIngestRequest
      · constructor
        · intro h hforeign
          refine hforeign.2.tenant (GraphStorage.ingestArtifact_stores hunused.graph hstores ?_)
          rw [← graph_ingestPlain]
          exact h.graph
        · intro h
          have htenant : request.tenantId = rlsClaims.tenantId := by_contra fun hne =>
            h ⟨rfl, hvalid, hstores, hne⟩
          exact htenant ▸ ingestPlain_addsOnly hunused
      · obtain ⟨e, hrefused⟩ := GraphStorage.ingestArtifact_refused hstores
        have hsame : (ingestPlain run request w).2 = w := by rw [ingestPlain, hrefused]
        rw [hsame]
        exact iff_of_true (.refl _ w) fun h => hstores h.2.stored

end Ingest

end Handlers

/-- A call of one of the three handlers that create records. -/
inductive CreationCall where
  | createIntent (run : CreateIntentRun) (request : CreateIntentRequest)
  | createVersion (run : CreateVersionRun) (intentId : Uuid) (headers : HttpHeaderMap)
      (request : CreateVersionRequest)
  | ingestArtifact (run : IngestRun) (request : ArtifactIngestBody)

/-- The repositories that they write. -/
structure CreationWorld where
  intents : IntentWorld
  ingest : IngestWorld

/-- What a call leaves, whether it answers or fails. -/
def CreationCall.next (state : IntentMutationState) (claims : Option RlsTenantClaims)
    (w : CreationWorld) : CreationCall → CreationWorld
  | .createIntent run request =>
    { w with intents := (IntentRebase.createIntent state run request claims w.intents).2 }
  | .createVersion run intentId headers request =>
    { w with intents :=
        (IntentRebase.createVersion state run intentId headers request claims w.intents).2 }
  | .ingestArtifact run request =>
    { w with ingest := (ingestArtifactHandler run request state.rlsPool claims w.ingest).2 }

/-- The identifiers that a call draws are not in use. -/
def CreationCall.DrawsUnused (w : CreationWorld) : CreationCall → Prop
  | .createIntent run _ => w.intents.intents.Unused run.draw.intentId run.draw.versionId
  | .createVersion run _ _ _ => w.intents.intents.UnusedVersion run.draw.versionId
  | .ingestArtifact run request => run.Unused request w.ingest

/-- Without a transaction, a call stores a record of another tenant. -/
def CreationCall.StoresForeign (config : IntentServiceConfig) (tenantId : Uuid)
    (w : CreationWorld) : CreationCall → Prop
  | .createIntent run request => run.StoresForeign request config tenantId w.intents
  | .createVersion run intentId headers _ => ∃ expectedVersion expectedRowVersion,
    parseOptionalHeader headers "x-expected-version" = .ok expectedVersion ∧
    parseOptionalHeader headers "x-expected-row-version" = .ok expectedRowVersion ∧
    run.StoresForeign intentId expectedVersion expectedRowVersion tenantId w.intents
  | .ingestArtifact run request => run.StoresForeign request tenantId w.ingest

/-- Every intent, version, node, edge and side effect that is added is of the tenant. -/
structure CreationWorld.CreatesOnlyOf (tenantId : Uuid) (w w' : CreationWorld) : Prop where
  intents : w.intents.CreatesOnlyOf tenantId w'.intents
  ingest : w.ingest.AddsOnlyOf tenantId w'.ingest

/-- A creation with a token stays with the token's tenant unless it runs without a transaction and
stores a record of another. -/
theorem creations_isolated_iff (state : IntentMutationState) (rlsClaims : RlsTenantClaims)
    (call : CreationCall) (w : CreationWorld) (hunused : call.DrawsUnused w) :
    w.CreatesOnlyOf rlsClaims.tenantId (call.next state (some rlsClaims) w) ↔
      ¬ (state.rlsPool = false ∧ call.StoresForeign state.service rlsClaims.tenantId w) := by
  cases call with
  | createIntent run request =>
    exact ⟨fun h => (createIntent_createsOnly_iff state rlsClaims request hunused).mp h.intents,
      fun h => ⟨(createIntent_createsOnly_iff state rlsClaims request hunused).mpr h, .refl _ _⟩⟩
  | createVersion run intentId headers request =>
    have hiff := createVersion_createsOnly_iff state rlsClaims intentId headers request hunused
    exact ⟨fun h => hiff.mp h.intents, fun h => ⟨hiff.mpr h, .refl _ _⟩⟩
  | ingestArtifact run request =>
    have hiff := ingestArtifactHandler_addsOnly_iff rlsClaims state.rlsPool hunused
    exact ⟨fun h => hiff.mp h.ingest, fun h => ⟨.refl _ _, hiff.mpr h⟩⟩

section Sample

/-- A service in memory, without a pool. -/
def memoryState : IntentMutationState where
  rlsPool := false
  service := ⟨InMemoryIntentRepository.sampleHash, false, true, none⟩

def emptyWorld : CreationWorld where
  intents := ⟨.inMemory .new, .inMemory .new⟩
  ingest := ⟨.inMemory .empty, .inMemory .new⟩

/-- The creation of an intent of tenant 5. -/
def createSample : CreationCall :=
  .createIntent ⟨⟨10, 20, 30, 0⟩, none, none, none, none⟩
    InMemoryIntentRepository.sampleIntentRequest

/-- With a token of tenant 5 it stays with that tenant. -/
theorem creations_isolated_sample : emptyWorld.CreatesOnlyOf 5
    (createSample.next memoryState (some sampleClaims) emptyWorld) :=
  (creations_isolated_iff memoryState sampleClaims createSample emptyWorld ⟨rfl, rfl⟩).mpr
    fun h => h.2.tenant rfl

/-- A token of tenant 7. -/
def otherClaims : RlsTenantClaims where
  tenantId := 7
  claims := ⟨"user", "00000000-0000-0000-0000-000000000007", [], 0, 0⟩
  notNil := by decide

/-- With a token of tenant 7 it stores an intent of tenant 5. -/
theorem creation_for_another_tenant :
    ¬ ∀ (state : IntentMutationState) (rlsClaims : RlsTenantClaims) (call : CreationCall)
      (w : CreationWorld), call.DrawsUnused w →
      w.CreatesOnlyOf rlsClaims.tenantId (call.next state (some rlsClaims) w) := by
  intro h
  have hcreates := h memoryState otherClaims createSample emptyWorld ⟨rfl, rfl⟩
  have hintents : ChangesOnly (fun intent : Intent => intent.tenantId = 7) ∅
      ((∅ : HashMap Uuid Intent).insert 10 (InMemoryIntentRepository.newIntent ⟨10, 20, 30, 0⟩
        InMemoryIntentRepository.sampleIntentRequest)) := hcreates.intents.changes.intents.1
  have htenant := hintents.added rfl (AList.lookup_insert _)
  exact absurd htenant (by decide)

end Sample

end IntentRebase
