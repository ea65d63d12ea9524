import IntentRebase.Api.IntentMutation

/-! A creation of an intent or a version in a transaction of a tenant changes records of that tenant
only: its intents, their versions, and its approval requests. -/

namespace IntentRebase

open Kit

namespace SqlxIntentRepository

/-- A version whose intent is the tenant's. -/
def OwnedVersion (intents : HashMap Uuid IntentRow) (tenantId : Uuid) (version : IntentVersionRow) :
    Prop :=
  ∃ row, intents.lookup version.intentId = some row ∧ row.tenantId = tenantId

/-- No intent and no version but the tenant's differs. -/
structure ChangesOnlyOf (tenantId : Uuid) (s s' : SqlxIntentRepository) : Prop where
  intents : ChangesOnly (fun row => row.tenantId = tenantId) s.intents s'.intents
  versions : ChangesOnly (OwnedVersion s'.intents tenantId) s.versions s'.versions

section Statements

variable {computePayloadHash : IntentPayload → String} {s s' : SqlxIntentRepository}
  {tenantId : Uuid}

theorem visible_some {row : IntentRow} : visible (some tenantId) row = true ↔
    row.tenantId = tenantId := by
  rw [visible, Option.all_some, beq_iff_eq]

/-- The statements of a creation insert new rows only. -/
theorem createIntentStatements_new {session : Option Uuid} {draw : CreateIntentDraw}
    {request : CreateIntentRequest} {response : CreateIntentResponse}
    (h : s.createIntentStatements computePayloadHash session draw request tenantId =
      .ok (response, s')) :
    s.intents.lookup draw.intentId = none ∧ s.versions.lookup draw.versionId = none := by
  unfold createIntentStatements at h
  split at h
  · cases h
  next s₁ hintent =>
  split at h
  · cases h
  next s₂ hversion =>
  have hnew := (insertVersion_accepted hversion).1
  unfold insertIntent at hintent
  split at hintent
  · cases hintent
  · split at hintent
    · cases hintent
    · next hlookup =>
      cases hintent
      exact ⟨hlookup, hnew⟩

theorem createIntentStatements_changesOnly {session : Option Uuid} {draw : CreateIntentDraw}
    {request : CreateIntentRequest} {response : CreateIntentResponse}
    (h : s.createIntentStatements computePayloadHash session draw request tenantId =
      .ok (response, s')) : ChangesOnlyOf tenantId s s' := by
  obtain ⟨hintent, hversion⟩ := createIntentStatements_new h
  obtain ⟨hintents, hversions⟩ := createIntentStatements_ok h
  refine ⟨?_, ?_⟩
  · rw [hintents]
    refine .insert (fun row hrow => ?_) rfl
    cases hintent.symm.trans hrow
  · rw [hversions]
    refine .insert (fun row hrow => ?_) ⟨newIntentRow draw request tenantId, ?_, rfl⟩
    · cases hversion.symm.trans hrow
    · rw [hintents]
      exact AList.lookup_insert _

/-- The statements of a creation of a version write its row and the head of its intent. -/
theorem createVersionStatements_changesOnly {session : Option Uuid} {draw : CreateVersionDraw}
    {intentId : Uuid} {request : CreateVersionRequest} {expectedVersion expectedRowVersion : Int}
    {response : CreateVersionResponse}
    (howner : ∀ row, s.intents.lookup intentId = some row → visible session row = true →
      row.tenantId = tenantId)
    (h : s.createVersionStatements computePayloadHash session draw intentId request
      expectedVersion expectedRowVersion = .ok (response, s')) : ChangesOnlyOf tenantId s s' := by
  unfold createVersionStatements at h
  split at h
  · cases h
  next row hrow =>
  obtain ⟨hstored, hseen⟩ := Option.filter_eq_some_iff.mp hrow
  have htenant := howner row hstored hseen
  split at h
  · cases h
  split at h
  · cases h
  dsimp only at h
  split at h
  · cases h
  next s₁ hinsert =>
  split at h
  · cases h
  next s₂ hbump =>
  cases h
  obtain ⟨hintents, hversions⟩ := insertVersion_ok hinsert
  have hnew := (insertVersion_accepted hinsert).1
  have hstored₁ : s₁.intents.lookup intentId = some row := hintents ▸ hstored
  unfold bumpVersion at hbump
  rw [hstored₁] at hbump
  dsimp only at hbump
  split at hbump
  swap
  · cases hbump
  cases hbump
  refine ⟨?_, ?_⟩
  · dsimp only [putIntent]
    rw [hintents]
    refine .insert (fun row' hrow' => ?_) htenant
    cases hstored.symm.trans hrow'
    exact htenant
  · dsimp only [putIntent]
    rw [hversions]
    refine .insert (fun version hversion => ?_) ⟨_, AList.lookup_insert _, htenant⟩
    cases hnew.symm.trans hversion

end Statements

end SqlxIntentRepository

/-- No intent and no version but the tenant's differs. -/
def IntentStore.ChangesOnlyOf (tenantId : Uuid) : IntentStore → IntentStore → Prop
  | .inMemory repo, .inMemory repo' =>
    ChangesOnly (fun intent => intent.tenantId = tenantId) repo.intents repo'.intents ∧
      ChangesOnly (fun version => ∃ intent, repo'.intents.lookup version.intentId = some intent ∧
        intent.tenantId = tenantId) repo.versions repo'.versions
  | .sqlx repo, .sqlx repo' => repo.ChangesOnlyOf tenantId repo'
  | _, _ => False

theorem IntentStore.ChangesOnlyOf.refl (tenantId : Uuid) (s : IntentStore) :
    s.ChangesOnlyOf tenantId s := by
  cases s <;> exact ⟨.refl _ _, .refl _ _⟩

/-- Nor does a request of another tenant. -/
def ApprovalStorage.ChangesOnlyOf (tenantId : Uuid) (s s' : ApprovalStorage) : Prop :=
  ChangesOnly (fun request => request.tenantId = tenantId) s.requests s'.requests

section Cancellation

variable (s : ApprovalStorage) (now : DateTime) (intentId tenantId : Uuid)
  (cancelledBy reason : String)

theorem ApprovalStorage.requests_cancelPendingByIntent :
    (s.cancelPendingByIntent now intentId tenantId cancelledBy reason).2.requests =
      updateWhere s.requests
        (fun _ r => r.intentId = intentId ∧ r.tenantId = tenantId ∧ r.status = .pending)
        (ApprovalRequest.resolve .cancelled now cancelledBy (some reason)) := by
  cases s <;> rfl

theorem ApprovalStorage.cancelPendingByIntent_changesOnly : s.ChangesOnlyOf tenantId
    (s.cancelPendingByIntent now intentId tenantId cancelledBy reason).2 := by
  rw [ChangesOnlyOf, requests_cancelPendingByIntent]
  exact .updateWhere (fun _ _ _ hselected => (of_decide_eq_true hselected).2.1)
    fun _ howner => howner

end Cancellation

namespace IntentWorld

/-- Nothing but the tenant's records differs. -/
structure ChangesOnlyOf (tenantId : Uuid) (w w' : IntentWorld) : Prop where
  intents : w.intents.ChangesOnlyOf tenantId w'.intents
  approvals : w.approvals.ChangesOnlyOf tenantId w'.approvals

theorem ChangesOnlyOf.refl (tenantId : Uuid) (w : IntentWorld) : w.ChangesOnlyOf tenantId w :=
  ⟨.refl _ _, ChangesOnly.refl _ _⟩

variable (config : IntentServiceConfig) (w : IntentWorld) (tenantId : Uuid)

/-- In the transaction, a creation leaves the records or writes what its statements do. -/
theorem createIntentWithRls_keeps {p : IntentWorld → Prop} (run : CreateIntentRun)
    (request : CreateIntentRequest) (hw : p w)
    (hwritten : ∀ repo response intents, w.intents = .sqlx repo →
      repo.createIntentStatements config.computePayloadHash (some tenantId) run.draw request
        tenantId = .ok (response, intents) → p { w with intents := .sqlx intents }) :
    p (w.createIntentWithRls config run request tenantId).2 := by
  rw [createIntentWithRls]
  split
  · exact hw
  cases validateTenantIdForRls tenantId with
  | error e => exact hw
  | ok _ =>
    cases run.beginFault with
    | some e => exact hw
    | none =>
      cases hstore : w.intents with
      | inMemory repo => exact hw
      | sqlx repo =>
        dsimp only [IntentStore.asSqlxRepo]
        cases run.statementFault with
        | some e => exact hw
        | none =>
          dsimp only
          cases hcreate : repo.createIntentWithTx config.computePayloadHash (some tenantId) run.draw
              request tenantId with
          | error e => exact hw
          | ok written =>
            exact Fault.meet_keeps run.commitFault (p := p) hw
              (hwritten repo written.1 written.2 hstore hcreate)

theorem createIntentWithRls_changesOnly (run : CreateIntentRun) (request : CreateIntentRequest) :
    w.ChangesOnlyOf tenantId (w.createIntentWithRls config run request tenantId).2 := by
  refine w.createIntentWithRls_keeps config tenantId run request (.refl _ w)
    fun repo response intents hstore hcreate => ⟨?_, ChangesOnly.refl _ _⟩
  rw [hstore]
  exact SqlxIntentRepository.createIntentStatements_changesOnly hcreate

theorem cancelPending_changesOnly (run : CreateVersionRun) (intentId : Uuid)
    (oldVersion newVersion : Int) (s : ApprovalStorage) : s.ChangesOnlyOf tenantId
      (cancelPending config run intentId tenantId oldVersion newVersion s) := by
  rw [cancelPending]
  split
  · exact Fault.meet_keeps run.cancelFault (p := s.ChangesOnlyOf tenantId) (ChangesOnly.refl _ _)
      (s.cancelPendingByIntent_changesOnly _ _ _ _ _)
  · exact ChangesOnly.refl _ _

/-- A creation of a version leaves the records, or it cancels requests of the tenant and its
statements write; the cancellation stays where the commit fails. -/
theorem createVersionWithRls_keeps {p : IntentWorld → Prop} (run : CreateVersionRun)
    (intentId : Uuid) (request : CreateVersionRequest)
    (expectedVersion expectedRowVersion : Option Int) (hw : p w)
    (hcancelled : ∀ approvals, w.approvals.ChangesOnlyOf tenantId approvals →
      p { w with approvals })
    (hwritten : ∀ repo expVer expRowVer response intents approvals, w.intents = .sqlx repo →
      repo.createVersionStatements config.computePayloadHash (some tenantId) run.draw intentId
        request expVer expRowVer = .ok (response, intents) →
      w.approvals.ChangesOnlyOf tenantId approvals → p { intents := .sqlx intents, approvals }) :
    p (w.createVersionWithRls config run intentId request expectedVersion expectedRowVersion
      tenantId).2 := by
  rw [createVersionWithRls]
  dsimp only
  cases htransaction : (rlsService config w).transaction config.computePayloadHash
      ⟨w.intents.asSqlxRepo.getD .new, .new⟩
      (rlsCall run intentId request expectedVersion expectedRowVersion tenantId) with
  | error e => exact hw
  | ok written =>
    obtain ⟨row, hwrites, -, hstatements⟩ := RlsService.statements_of_ok htransaction
    obtain ⟨oldVersion, result, intents⟩ := written
    have hcancel := cancelPending_changesOnly config tenantId run intentId oldVersion
      result.versionNumber w.approvals
    refine Fault.meet_keeps run.commitFault (p := p) (hcancelled _ hcancel) ?_
    cases hstore : w.intents with
    | inMemory repo =>
      have hsql := hwrites.sqlRepo
      rw [rlsService, hstore] at hsql
      cases hsql
    | sqlx repo =>
      rw [hstore] at hstatements
      exact hwritten repo _ _ result intents _ hstore hstatements hcancel

theorem createVersionWithRls_changesOnly (run : CreateVersionRun) (intentId : Uuid)
    (request : CreateVersionRequest) (expectedVersion expectedRowVersion : Option Int) :
    w.ChangesOnlyOf tenantId (w.createVersionWithRls config run intentId request expectedVersion
      expectedRowVersion tenantId).2 := by
  refine w.createVersionWithRls_keeps config tenantId run intentId request expectedVersion
    expectedRowVersion (.refl _ w) (fun _ hcancel => ⟨.refl _ _, hcancel⟩)
    fun repo _ _ response intents _ hstore hcreate hcancel => ⟨?_, hcancel⟩
  rw [hstore]
  exact SqlxIntentRepository.createVersionStatements_changesOnly
    (fun _ _ hseen => SqlxIntentRepository.visible_some.mp hseen) hcreate

end IntentWorld

section Handlers

variable (state : IntentMutationState) (rlsClaims : RlsTenantClaims) (w : IntentWorld)

/-- Where there is a pool, a creation with claims leaves the records or runs in a transaction of the
token's tenant. -/
theorem createIntent_keeps {p : IntentWorld → Prop} (hpool : state.rlsPool = true)
    (run : CreateIntentRun) (request : CreateIntentRequest) (hw : p w)
    (hcreate : p (w.createIntentWithRls state.service run request rlsClaims.tenantId).2) :
    p (createIntent state run request (some rlsClaims) w).2 := by
  rw [createIntent.eq_def, hpool]
  cases validateCreateIntentRequest request with
  | error e => exact hw
  | ok _ =>
    dsimp only
    cases request.tenantId with
    | none => exact hcreate
    | some requestTenantId =>
      dsimp only
      split
      · exact hw
      · exact hcreate

theorem createIntent_changesOnly (hpool : state.rlsPool = true) (run : CreateIntentRun)
    (request : CreateIntentRequest) :
    w.ChangesOnlyOf rlsClaims.tenantId (createIntent state run request (some rlsClaims) w).2 :=
  createIntent_keeps state rlsClaims w hpool run request (.refl _ w)
    (w.createIntentWithRls_changesOnly state.service rlsClaims.tenantId run request)

theorem createVersion_keeps {p : IntentWorld → Prop} (hpool : state.rlsPool = true)
    (run : CreateVersionRun) (intentId : Uuid) (headers : HttpHeaderMap)
    (request : CreateVersionRequest) (hw : p w)
    (hcreate : ∀ expectedVersion expectedRowVersion, p (w.createVersionWithRls state.service run
      intentId request expectedVersion expectedRowVersion rlsClaims.tenantId).2) :
    p (createVersion state run intentId headers request (some rlsClaims) w).2 := by
  rw [createVersion.eq_def, hpool]
  cases parseOptionalHeader headers "x-expected-version" with
  | error e => exact hw
  | ok expectedVersion =>
    cases parseOptionalHeader headers "x-expected-row-version" with
    | error e => exact hw
    | ok expectedRowVersion =>
      cases run.headFault with
      | some e => exact hw
      | none =>
        cases w.intents.getIntentHead intentId with
        | error e => exact hw
        | ok intentHead =>
          dsimp only
          split
          · exact hw
          · exact hcreate _ _

theorem createVersion_changesOnly (hpool : state.rlsPool = true) (run : CreateVersionRun)
    (intentId : Uuid) (headers : HttpHeaderMap) (request : CreateVersionRequest) :
    w.ChangesOnlyOf rlsClaims.tenantId
      (createVersion state run intentId headers request (some rlsClaims) w).2 :=
  createVersion_keeps state rlsClaims w hpool run intentId headers request (.refl _ w)
    fun _ _ => w.createVersionWithRls_changesOnly ..

end Handlers

end IntentRebase
