import IntentRebase.Intent.InMemoryRepository

/-! The SQL repository of intents and their versions: two tables with their constraints, the plain
calls, which run in a transaction of their own, and the calls that run in a transaction of a tenant.
-/

namespace IntentRebase

open Kit

/-- A row of the table of intents. The JSON column holds what it is given. -/
structure IntentRow where
  intentId : Uuid
  tenantId : Uuid
  workflowId : Uuid
  currentVersion : Int
  status : String
  createdAt : DateTime
  createdByActorType : String
  createdByActorId : String
  sourceRefs : List SourceRef
  tags : List String
  rowVersion : Int

/-- A row of the table of versions. -/
structure IntentVersionRow where
  intentVersionId : Uuid
  intentId : Uuid
  versionNumber : Int
  parentVersionId : Option Uuid
  createdAt : DateTime
  createdByActorType : String
  createdByActorId : String
  changeReason : String
  changeChannel : String
  status : String
  hash : String
  payload : IntentPayload

def changeChannelToString : ChangeChannel → String
  | .userEdit => "user_edit"
  | .webhook => "webhook"
  | .policyUpdate => "policy_update"
  | .systemNormalization => "system_normalization"

def changeChannelFromString (s : String) : ChangeChannel :=
  match s with
  | "webhook" => .webhook
  | "policy_update" => .policyUpdate
  | "system_normalization" => .systemNormalization
  | _ => .userEdit

def statusFromString (s : String) : IntentStatus :=
  match s with
  | "archived" => .archived
  | "superseded" => .superseded
  | _ => .active

def versionStatusFromString (s : String) : VersionStatus :=
  match s with
  | "draft" => .draft
  | "rejected" => .rejected
  | "superseded" => .superseded
  | _ => .active

def rowToIntent (row : IntentRow) : Intent where
  id := row.intentId
  tenantId := row.tenantId
  workflowId := row.workflowId
  currentVersion := row.currentVersion
  status := statusFromString row.status
  createdAt := row.createdAt
  createdBy := ⟨row.createdByActorType, row.createdByActorId⟩
  sourceRefs := row.sourceRefs
  tags := row.tags

def rowToVersion (row : IntentVersionRow) : IntentVersion where
  id := row.intentVersionId
  intentId := row.intentId
  versionNumber := row.versionNumber
  parentVersionId := row.parentVersionId
  createdAt := row.createdAt
  createdBy := ⟨row.createdByActorType, row.createdByActorId⟩
  changeReason := row.changeReason
  changeChannel := changeChannelFromString row.changeChannel
  status := versionStatusFromString row.status
  hash := row.hash
  payload := row.payload

/-- The two tables. A version belongs to a stored intent, and an intent has one version of a number.
-/
structure SqlxIntentRepository where
  intents : HashMap Uuid IntentRow
  versions : HashMap Uuid IntentVersionRow
  foreignKey : ∀ id row, versions.lookup id = some row → (intents.lookup row.intentId).isSome
  unique : ∀ id id' row row', versions.lookup id = some row → versions.lookup id' = some row' →
    row.intentId = row'.intentId → row.versionNumber = row'.versionNumber → id = id'

namespace SqlxIntentRepository

/-- The empty tables. -/
def new : SqlxIntentRepository where
  intents := ∅
  versions := ∅
  foreignKey _ _ h := nomatch h
  unique _ _ _ _ h := nomatch h

/-- The policy of the table of intents lets a session see the row: it has no tenant, or the row's.
-/
def visible (session : Option Uuid) (row : IntentRow) : Bool := session.all (row.tenantId == ·)

/-- The tables with an intent row written under its key. -/
def putIntent (s : SqlxIntentRepository) (intentId : Uuid) (row : IntentRow) :
    SqlxIntentRepository where
  intents := s.intents.insert intentId row
  versions := s.versions
  foreignKey id version hversion := by
    rw [lookup_insert_eq]
    split
    · rfl
    · exact s.foreignKey id version hversion
  unique := s.unique

/-- The tables with a version row written, if the constraints allow it. -/
def putVersion (s : SqlxIntentRepository) (row : IntentVersionRow)
    (hforeign : (s.intents.lookup row.intentId).isSome)
    (hunique : ∀ id other, s.versions.lookup id = some other → other.intentId = row.intentId →
      other.versionNumber ≠ row.versionNumber) : SqlxIntentRepository where
  intents := s.intents
  versions := s.versions.insert row.intentVersionId row
  foreignKey id version hversion := by
    rw [lookup_insert_eq] at hversion
    split at hversion
    · cases hversion
      exact hforeign
    · exact s.foreignKey id version hversion
  unique id id' version version' hversion hversion' hintent hnumber := by
    rw [lookup_insert_eq] at hversion hversion'
    split at hversion <;> split at hversion'
    · next hid hid' => exact hid.trans hid'.symm
    · cases hversion
      exact absurd hnumber.symm (hunique id' version' hversion' hintent.symm)
    · cases hversion'
      exact absurd hnumber (hunique id version hversion hintent)
    · exact s.unique id id' version version' hversion hversion' hintent hnumber

section Statements

variable (s : SqlxIntentRepository)

/-- `INSERT INTO intents` in a session. -/
def insertIntent (session : Option Uuid) (row : IntentRow) :
    Except IntentRebaseError SqlxIntentRepository :=
  if !visible session row then
    .error (.storageError "insert intent: new row violates row-level security policy")
  else
    match s.intents.lookup row.intentId with
    | some _ => .error (.storageError
        "insert intent: duplicate key value violates unique constraint")
    | none => .ok (s.putIntent row.intentId row)

/-- `INSERT INTO intent_versions`. -/
def insertVersion (row : IntentVersionRow) : Except IntentRebaseError SqlxIntentRepository :=
  match s.versions.lookup row.intentVersionId with
  | some _ => .error (.storageError
      "insert version: duplicate key value violates unique constraint")
  | none =>
    if hunique : ∀ p ∈ pairs s.versions, p.2.intentId = row.intentId →
        p.2.versionNumber ≠ row.versionNumber then
      if hforeign : (s.intents.lookup row.intentId).isSome then
        .ok (s.putVersion row hforeign fun id other hother =>
          hunique (id, other) (mem_pairs.mpr hother))
      else .error (.storageError "insert version: violates foreign key constraint")
    else .error (.storageError
      "insert version: duplicate key value violates unique constraint")

/-- `UPDATE intents SET current_version, row_version WHERE intent_id AND row_version`: the tables
after it, if it affected a row. -/
def bumpVersion (session : Option Uuid) (intentId : Uuid)
    (newVersionNumber expectedRowVersion : Int) : Option SqlxIntentRepository :=
  match s.intents.lookup intentId with
  | none => none
  | some row =>
    if visible session row ∧ row.rowVersion = expectedRowVersion then
      some (s.putIntent intentId
        { row with currentVersion := newVersionNumber, rowVersion := row.rowVersion + 1 })
    else none

variable (computePayloadHash : IntentPayload → String)

/-- The row of a request's intent, for a tenant. -/
def newIntentRow (draw : CreateIntentDraw) (request : CreateIntentRequest) (tenantId : Uuid) :
    IntentRow where
  intentId := draw.intentId
  tenantId := tenantId
  workflowId := request.workflowId
  currentVersion := 1
  status := "active"
  createdAt := draw.now
  createdByActorType := request.createdBy.actorType
  createdByActorId := request.createdBy.actorId
  sourceRefs := request.sourceRefs
  tags := request.tags
  rowVersion := 1

/-- The row of the first version. -/
def initialVersionRow (draw : CreateIntentDraw) (request : CreateIntentRequest) :
    IntentVersionRow where
  intentVersionId := draw.versionId
  intentId := draw.intentId
  versionNumber := 1
  parentVersionId := none
  createdAt := draw.now
  createdByActorType := request.createdBy.actorType
  createdByActorId := request.createdBy.actorId
  changeReason := "Initial creation"
  changeChannel := "user_edit"
  status := "active"
  hash := computePayloadHash request.payload
  payload := request.payload

/-- The row of a further version: its parent is left out. -/
def nextVersionRow (draw : CreateVersionDraw) (intentId : Uuid) (request : CreateVersionRequest)
    (newVersionNumber : Int) : IntentVersionRow where
  intentVersionId := draw.versionId
  intentId := intentId
  versionNumber := newVersionNumber
  parentVersionId := none
  createdAt := draw.now
  createdByActorType := request.createdBy.actorType
  createdByActorId := request.createdBy.actorId
  changeReason := request.changeReason
  changeChannel := changeChannelToString request.changeChannel
  status := "active"
  hash := computePayloadHash request.payload
  payload := request.payload

/-- The statements of a creation of an intent. -/
def createIntentStatements (session : Option Uuid) (draw : CreateIntentDraw)
    (request : CreateIntentRequest) (tenantId : Uuid) :
    Except IntentRebaseError (CreateIntentResponse × SqlxIntentRepository) :=
  match s.insertIntent session (newIntentRow draw request tenantId) with
  | .error e => .error e
  | .ok s₁ =>
    match s₁.insertVersion (initialVersionRow computePayloadHash draw request) with
    | .error e => .error e
    | .ok s₂ =>
      .ok ({ intentId := draw.intentId, currentVersion := 1, status := .active }, s₂)

/-- The statements of a creation of a version: the row locked, the two checks, the new row, and the
update of the head. -/
def createVersionStatements (session : Option Uuid) (draw : CreateVersionDraw) (intentId : Uuid)
    (request : CreateVersionRequest) (expectedVersion expectedRowVersion : Int) :
    Except IntentRebaseError (CreateVersionResponse × SqlxIntentRepository) :=
  match (s.intents.lookup intentId).filter (visible session) with
  | none => .error (.intentNotFound intentId)
  | some row =>
    if row.currentVersion ≠ expectedVersion then .error (.concurrencyConflict intentId)
    else if row.rowVersion ≠ expectedRowVersion then .error (.concurrencyConflict intentId)
    else
      let newVersionNumber := row.currentVersion + 1
      match s.insertVersion
        (nextVersionRow computePayloadHash draw intentId request newVersionNumber) with
      | .error e => .error e
      | .ok s₁ =>
        match s₁.bumpVersion session intentId newVersionNumber expectedRowVersion with
        | none => .error (.concurrencyConflict intentId)
        | some s₂ => .ok ({ intentVersionId := draw.versionId, intentId
                            versionNumber := newVersionNumber, status := .active }, s₂)

/-- What a transaction of its own leaves: the tables after the statements if none failed. -/
def commit {α : Type} (statements : Except IntentRebaseError (α × SqlxIntentRepository)) :
    Except IntentRebaseError α × SqlxIntentRepository :=
  match statements with
  | .ok (a, s') => (.ok a, s')
  | .error e => (.error e, s)

/-- The resolver's tenant, or one drawn. -/
def resolveTenantIdOrDefault (resolved : Option Uuid) (draw : CreateIntentDraw) : Uuid :=
  resolved.getD draw.tenantId

/-- The row gets the tenant that the resolver has; the one of the request is read and not used. -/
def createIntentTx (resolved : Option Uuid) (draw : CreateIntentDraw)
    (request : CreateIntentRequest) :
    Except IntentRebaseError CreateIntentResponse × SqlxIntentRepository :=
  let tenantId := resolveTenantIdOrDefault resolved draw
  s.commit (s.createIntentStatements computePayloadHash none draw request tenantId)

def createVersionWithOcc (draw : CreateVersionDraw) (intentId : Uuid)
    (request : CreateVersionRequest) (expectedVersion expectedRowVersion : Int) :
    Except IntentRebaseError CreateVersionResponse × SqlxIntentRepository :=
  s.commit (s.createVersionStatements computePayloadHash none draw intentId request
    expectedVersion expectedRowVersion)

def createIntentWithTx (session : Option Uuid) (draw : CreateIntentDraw)
    (request : CreateIntentRequest) (tenantId : Uuid) :
    Except IntentRebaseError (CreateIntentResponse × SqlxIntentRepository) :=
  s.createIntentStatements computePayloadHash session draw request tenantId

def createVersionWithTx (session : Option Uuid) (draw : CreateVersionDraw) (intentId : Uuid)
    (request : CreateVersionRequest) (expectedVersion expectedRowVersion : Int) :
    Except IntentRebaseError (CreateVersionResponse × SqlxIntentRepository) :=
  s.createVersionStatements computePayloadHash session draw intentId request expectedVersion
    expectedRowVersion

def getIntent (id : Uuid) : Except IntentRebaseError Intent :=
  match s.intents.lookup id with
  | some row => .ok (rowToIntent row)
  | none => .error (.intentNotFound id)

def getVersion (id : Uuid) : Except IntentRebaseError IntentVersion :=
  match s.versions.lookup id with
  | some row => .ok (rowToVersion row)
  | none => .error (.intentVersionNotFound id)

def getIntentForUpdate (id : Uuid) : Except IntentRebaseError (Intent × Int) :=
  match s.intents.lookup id with
  | some row => .ok (rowToIntent row, row.rowVersion)
  | none => .error (.intentNotFound id)

end Statements

section Writes

variable {computePayloadHash : IntentPayload → String} {s s' : SqlxIntentRepository}
  {session : Option Uuid} {draw : CreateIntentDraw} {request : CreateIntentRequest}
  {tenantId : Uuid}

theorem insertVersion_ok {row : IntentVersionRow} (h : s.insertVersion row = .ok s') :
    s'.intents = s.intents ∧ s'.versions = s.versions.insert row.intentVersionId row := by
  unfold insertVersion at h
  split at h
  · cases h
  · split at h
    · split at h
      · cases h
        exact ⟨rfl, rfl⟩
      · cases h
    · cases h

/-- A row that breaks no constraint is inserted. -/
theorem insertVersion_new {row : IntentVersionRow}
    (hnew : s.versions.lookup row.intentVersionId = none)
    (hunique : ∀ id other, s.versions.lookup id = some other → other.intentId = row.intentId →
      other.versionNumber ≠ row.versionNumber)
    (hforeign : (s.intents.lookup row.intentId).isSome) :
    ∃ s', s.insertVersion row = .ok s' := by
  have hpairs : ∀ p ∈ pairs s.versions, p.2.intentId = row.intentId →
      p.2.versionNumber ≠ row.versionNumber :=
    fun p hp => hunique p.1 p.2 (mem_pairs.mp hp)
  unfold insertVersion
  rw [hnew]
  simp only [dif_pos hpairs, dif_pos hforeign]
  exact ⟨_, rfl⟩

theorem bumpVersion_some {intentId : Uuid} {newVersionNumber expectedRowVersion : Int}
    (h : s.bumpVersion session intentId newVersionNumber expectedRowVersion = some s') :
    s'.versions = s.versions := by
  unfold bumpVersion at h
  split at h
  · cases h
  · split at h
    · cases h
      rfl
    · cases h

/-- A creation that succeeds has written both rows. -/
theorem createIntentStatements_ok {response : CreateIntentResponse}
    (h : s.createIntentStatements computePayloadHash session draw request tenantId =
      .ok (response, s')) :
    s'.intents = s.intents.insert draw.intentId (newIntentRow draw request tenantId) ∧
      s'.versions =
        s.versions.insert draw.versionId (initialVersionRow computePayloadHash draw request) := by
  unfold createIntentStatements at h
  split at h
  · cases h
  next s₁ hintent =>
  split at h
  · cases h
  next s₂ hversion =>
  cases h
  obtain ⟨hintents, hversions⟩ := insertVersion_ok hversion
  unfold insertIntent at hintent
  split at hintent
  · cases hintent
  · split at hintent
    · cases hintent
    · cases hintent
      exact ⟨hintents, hversions⟩

variable (computePayloadHash session request tenantId) in
/-- With new identifiers, and in a session that may write the tenant, a creation succeeds. -/
theorem createIntentStatements_fresh (hsession : session.all (tenantId == ·) = true)
    (hintent : s.intents.lookup draw.intentId = none)
    (hversion : s.versions.lookup draw.versionId = none) :
    ∃ response s', s.createIntentStatements computePayloadHash session draw request tenantId =
      .ok (response, s') := by
  have hinsert : s.insertIntent session (newIntentRow draw request tenantId) =
      .ok (s.putIntent draw.intentId (newIntentRow draw request tenantId)) := by
    have hvisible : visible session (newIntentRow draw request tenantId) = true := hsession
    simp only [insertIntent, hvisible, Bool.not_true, Bool.false_eq_true, if_false]
    simp only [newIntentRow, hintent]
  have hinserted : ∃ s', (s.putIntent draw.intentId
      (newIntentRow draw request tenantId)).insertVersion
        (initialVersionRow computePayloadHash draw request) = .ok s' := by
    refine insertVersion_new hversion (fun id other hother howner => ?_) ?_
    · have hforeign := s.foreignKey id other hother
      rw [howner] at hforeign
      have hforeign : (s.intents.lookup draw.intentId).isSome := hforeign
      rw [hintent] at hforeign
      cases hforeign
    · exact Option.isSome_iff_exists.mpr ⟨_, AList.lookup_insert _⟩
  obtain ⟨s', hs'⟩ := hinserted
  refine ⟨⟨draw.intentId, 1, .active⟩, s', ?_⟩
  simp only [createIntentStatements, hinsert, hs']

/-- A session that may write the tenant does not show in a creation. -/
theorem createIntentStatements_session (hsession : session.all (tenantId == ·) = true) :
    s.createIntentStatements computePayloadHash session draw request tenantId =
      s.createIntentStatements computePayloadHash none draw request tenantId := by
  have hvisible : visible session (newIntentRow draw request tenantId) =
      visible none (newIntentRow draw request tenantId) := hsession
  simp only [createIntentStatements, insertIntent, hvisible]

/-- The session of the intent's tenant does not show in a creation of a version. -/
theorem createVersionStatements_session {draw : CreateVersionDraw} {intentId : Uuid}
    {request : CreateVersionRequest} {expectedVersion expectedRowVersion : Int}
    (hsession : ∀ row, s.intents.lookup intentId = some row → visible session row = true) :
    s.createVersionStatements computePayloadHash session draw intentId request expectedVersion
        expectedRowVersion =
      s.createVersionStatements computePayloadHash none draw intentId request expectedVersion
        expectedRowVersion := by
  unfold createVersionStatements
  cases hrow : s.intents.lookup intentId with
  | none => rfl
  | some row =>
    have hvisible := hsession row hrow
    have hnone : visible none row = true := rfl
    simp only [Option.filter_some, hvisible, hnone, if_true]
    split
    · rfl
    split
    · rfl
    split
    · rfl
    next s₁ hinsert =>
      have hrow₁ : s₁.intents.lookup intentId = some row := by
        rw [(insertVersion_ok hinsert).1, hrow]
      simp only [bumpVersion, hrow₁, hvisible, hnone]

/-- A call that creates a version adds its row, and that row has no parent. -/
theorem createVersionStatements_ok {draw : CreateVersionDraw} {intentId : Uuid}
    {request : CreateVersionRequest} {expectedVersion expectedRowVersion : Int}
    {response : CreateVersionResponse}
    (h : s.createVersionStatements computePayloadHash session draw intentId request expectedVersion
      expectedRowVersion = .ok (response, s')) :
    ∃ number, s'.versions = s.versions.insert draw.versionId
      (nextVersionRow computePayloadHash draw intentId request number) := by
  unfold createVersionStatements at h
  split at h
  · cases h
  next row hrow =>
  split at h
  · cases h
  split at h
  · cases h
  dsimp only at h
  split at h
  · cases h
  next s₁ hinsert =>
  split at h
  · cases h
  next s₂ hbump =>
  cases h
  exact ⟨_, by rw [bumpVersion_some hbump, (insertVersion_ok hinsert).2]; rfl⟩

/-- An inserted version breaks no constraint. -/
theorem insertVersion_accepted {row : IntentVersionRow} (h : s.insertVersion row = .ok s') :
    s.versions.lookup row.intentVersionId = none ∧
      ∀ id other, s.versions.lookup id = some other → other.intentId = row.intentId →
        other.versionNumber ≠ row.versionNumber := by
  unfold insertVersion at h
  split at h
  · cases h
  next hnew =>
  split at h
  next hunique => exact ⟨hnew, fun id other hother => hunique (id, other) (mem_pairs.mpr hother)⟩
  · cases h

/-- The session finds the intent at the version and the row version that a call expects, and the
version that follows can be stored under the identifier. -/
structure Accepts (s : SqlxIntentRepository) (session : Option Uuid) (versionId intentId : Uuid)
    (expectedVersion expectedRowVersion : Int) (row : IntentRow) : Prop where
  stored : s.intents.lookup intentId = some row
  seen : visible session row = true
  version : row.currentVersion = expectedVersion
  rowVersion : row.rowVersion = expectedRowVersion
  fresh : s.versions.lookup versionId = none
  next : ∀ id other, s.versions.lookup id = some other → other.intentId = intentId →
    other.versionNumber ≠ row.currentVersion + 1

section Accepts

variable {versionDraw : CreateVersionDraw} {intentId : Uuid} {versionRequest : CreateVersionRequest}
  {expectedVersion expectedRowVersion : Int}

variable (computePayloadHash versionRequest) in
theorem Accepts.statements {row : IntentRow}
    (h : s.Accepts session versionDraw.versionId intentId expectedVersion expectedRowVersion row) :
    ∃ s', s.createVersionStatements computePayloadHash session versionDraw intentId versionRequest
        expectedVersion expectedRowVersion =
          .ok ({ intentVersionId := versionDraw.versionId, intentId
                 versionNumber := row.currentVersion + 1, status := .active }, s') ∧
      s'.versions = s.versions.insert versionDraw.versionId
        (nextVersionRow computePayloadHash versionDraw intentId versionRequest
          (row.currentVersion + 1)) := by
  obtain ⟨s₁, hinsert⟩ : ∃ s₁, s.insertVersion (nextVersionRow computePayloadHash versionDraw
      intentId versionRequest (row.currentVersion + 1)) = .ok s₁ :=
    insertVersion_new h.fresh h.next (Option.isSome_iff_exists.mpr ⟨row, h.stored⟩)
  obtain ⟨hintents, hversions⟩ := insertVersion_ok hinsert
  have hrow : s₁.intents.lookup intentId = some row := by rw [hintents, h.stored]
  obtain ⟨s₂, hbump⟩ : ∃ s₂, s₁.bumpVersion session intentId (row.currentVersion + 1)
      expectedRowVersion = some s₂ := by
    simp only [bumpVersion, hrow, h.seen, h.rowVersion, true_and, if_true]
    exact ⟨_, rfl⟩
  refine ⟨s₂, ?_, (bumpVersion_some hbump).trans hversions⟩
  simp only [createVersionStatements, h.stored, Option.filter_some, h.seen, if_true, h.version,
    h.rowVersion, ne_eq, not_true_eq_false, if_false] at hinsert hbump ⊢
  simp only [hinsert, hbump]

theorem accepts_of_ok {response : CreateVersionResponse}
    (h : s.createVersionStatements computePayloadHash session versionDraw intentId versionRequest
      expectedVersion expectedRowVersion = .ok (response, s')) :
    ∃ row, s.Accepts session versionDraw.versionId intentId expectedVersion expectedRowVersion
      row := by
  unfold createVersionStatements at h
  split at h
  · cases h
  next row hrow =>
  obtain ⟨hstored, hseen⟩ := Option.filter_eq_some_iff.mp hrow
  split at h
  · cases h
  next hversion =>
  split at h
  · cases h
  next hrowVersion =>
  dsimp only at h
  split at h
  · cases h
  next s₁ hinsert =>
  obtain ⟨hfresh, hnext⟩ := insertVersion_accepted hinsert
  exact ⟨row, hstored, hseen, not_ne_iff.mp hversion, not_ne_iff.mp hrowVersion, hfresh, hnext⟩

end Accepts

end Writes

end SqlxIntentRepository

/-! The reads of the intent service: the head of an intent and its versions by their number, from
either repository. -/

/-- The head of an intent. -/
structure IntentHeadResponse where
  intent : Intent
  version : IntentVersion
  rowVersion : Int

def SqlxIntentRepository.getVersionByIntentAndNumber (s : SqlxIntentRepository) (intentId : Uuid)
    (versionNumber : Int) : Except IntentRebaseError IntentVersion :=
  match (pairs s.versions).find? fun entry =>
      entry.2.intentId == intentId && entry.2.versionNumber == versionNumber with
  | some entry => .ok (rowToVersion entry.2)
  | none => .error (.invalidIntentVersion
      s!"version {versionNumber} not found for intent {intentId.display}")

/-- The repository of the service. -/
inductive IntentStore where
  | inMemory (repo : InMemoryIntentRepository)
  | sqlx (repo : SqlxIntentRepository)

namespace IntentStore

variable (repo : IntentStore) (intentId : Uuid)

def getIntentForUpdate : Except IntentRebaseError (Intent × Int) :=
  match repo with
  | .inMemory repo => repo.getIntentForUpdate intentId
  | .sqlx repo => repo.getIntentForUpdate intentId

def getVersionByIntentAndNumber (versionNumber : Int) : Except IntentRebaseError IntentVersion :=
  match repo with
  | .inMemory repo => repo.getVersionByIntentAndNumber intentId versionNumber
  | .sqlx repo => repo.getVersionByIntentAndNumber intentId versionNumber

def getIntentHead : Except IntentRebaseError IntentHeadResponse := do
  let (intent, rowVersion) ← repo.getIntentForUpdate intentId
  let version ← repo.getVersionByIntentAndNumber intentId intent.currentVersion
  return { intent, version, rowVersion }

def getVersion (versionNumber : Int) : Except IntentRebaseError IntentVersion :=
  repo.getVersionByIntentAndNumber intentId versionNumber

/-- The intent has a stored version of the number. -/
def HasVersion (versionNumber : Int) : Prop :=
  match repo with
  | .inMemory repo =>
    ∃ version ∈ repo.getVersionsByIntent intentId, version.versionNumber = versionNumber
  | .sqlx repo =>
    ∃ id row, repo.versions.lookup id = some row ∧ row.intentId = intentId ∧
      row.versionNumber = versionNumber

variable {repo intentId}

/-- A version can be read if it is stored, and only then. -/
theorem getVersion_ok_iff {versionNumber : Int} :
    (∃ version, repo.getVersion intentId versionNumber = .ok version) ↔
      repo.HasVersion intentId versionNumber := by
  cases repo with
  | inMemory repo =>
    simp only [getVersion, getVersionByIntentAndNumber, HasVersion,
      InMemoryIntentRepository.getVersionByIntentAndNumber]
    cases h : (repo.getVersionsByIntent intentId).find? fun v => v.versionNumber == versionNumber with
    | some version =>
      refine iff_of_true ⟨version, rfl⟩ ⟨version, List.mem_of_find?_eq_some h, ?_⟩
      simpa using List.find?_some h
    | none =>
      refine iff_of_false ?_ ?_
      · rintro ⟨_, h⟩
        cases h
      · rintro ⟨version, hmem, hnumber⟩
        exact List.find?_eq_none.mp h version hmem (by simpa using hnumber)
  | sqlx repo =>
    simp only [getVersion, getVersionByIntentAndNumber, HasVersion,
      SqlxIntentRepository.getVersionByIntentAndNumber]
    cases h : (pairs repo.versions).find? fun entry =>
        entry.2.intentId == intentId && entry.2.versionNumber == versionNumber with
    | some entry =>
      have hfound := List.find?_some h
      simp only [Bool.and_eq_true, beq_iff_eq] at hfound
      exact iff_of_true ⟨_, rfl⟩
        ⟨entry.1, entry.2, mem_pairs.mp (List.mem_of_find?_eq_some h), hfound⟩
    | none =>
      refine iff_of_false ?_ ?_
      · rintro ⟨_, h⟩
        cases h
      · rintro ⟨id, row, hlookup, hfound⟩
        exact List.find?_eq_none.mp h (id, row) (mem_pairs.mpr hlookup) (by simpa using hfound)

end IntentStore

end IntentRebase
