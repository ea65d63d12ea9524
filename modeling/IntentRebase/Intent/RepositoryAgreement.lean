import IntentRebase.Intent.SqlxRepository
import IntentRebase.Types.Column

/-! The in-memory and the SQL repository of intents under the same calls, with the limits of the
columns: exactly when they end with the same intents and versions. -/

namespace IntentRebase

open Kit

/-- A call, with the tenant that the resolver of the SQL repository has at that time. -/
structure ResolvedCall where
  call : IntentCall
  resolved : Option Uuid

section Columns

/-- The values of the columns `VARCHAR` of an actor. -/
def ActorRef.bind (actor : ActorRef) : Except String ActorRef := do
  let actorType ← varchar 50 actor.actorType
  let actorId ← varchar 255 actor.actorId
  return { actorType, actorId }

def DocRef.texts (ref : DocRef) : List String := ref.refType :: ref.id :: ref.uri.toList

def Constraint.containsNul (clause : Constraint) : Bool :=
  (clause.key :: clause.rationale.toList).any IntentRebase.containsNul || clause.value.containsNul

namespace IntentPayload

variable (payload : IntentPayload)

/-- The constraints of all types. -/
def clauses : List Constraint :=
  payload.constraints.functional ++ payload.constraints.nonFunctional ++
    payload.constraints.policy ++ payload.constraints.budget ++ payload.constraints.time

/-- The texts of a payload outside its constraints. -/
def texts : List String :=
  [payload.objective.summary, payload.objective.successStatement, payload.objective.domain] ++
    payload.scope.inScope ++ payload.scope.outOfScope ++
    (payload.acceptanceCriteria.required ++ payload.acceptanceCriteria.optional).map
      (·.description) ++
    (payload.authority.allowedActions ++ payload.authority.forbiddenActions).flatMap
      (fun action => action.action :: action.target.toList) ++
    payload.authority.approvalRequirements.flatMap (fun rule => [rule.ruleId, rule.description]) ++
    (payload.references.specs ++ payload.references.tickets ++ payload.references.repos ++
      payload.references.policies).flatMap DocRef.texts ++
    payload.assumptions.explicit

/-- A text of the payload holds the character with code 0. -/
def containsNul : Bool :=
  payload.texts.any IntentRebase.containsNul || payload.clauses.any Constraint.containsNul

end IntentPayload

/-- The request with the values that the columns take for it, which are refused if a text or the
payload holds the character with code 0. -/
def CreateIntentRequest.bind (request : CreateIntentRequest) :
    Except String CreateIntentRequest := do
  let texts := request.sourceRefs.flatMap (fun ref => [ref.refType, ref.id]) ++ request.tags
  if texts.any containsNul || request.payload.containsNul then
    throw "invalid byte sequence for encoding \"UTF8\": 0x00"
  let createdBy ← request.createdBy.bind
  return { request with createdBy }

def CreateVersionRequest.bind (request : CreateVersionRequest) :
    Except String CreateVersionRequest := do
  if containsNul request.changeReason || request.payload.containsNul then
    throw "invalid byte sequence for encoding \"UTF8\": 0x00"
  let createdBy ← request.createdBy.bind
  return { request with createdBy }

/-- The identifier that a call draws for the version. -/
def ResolvedCall.versionId (c : ResolvedCall) : Uuid :=
  match c.call with
  | .createIntent draw _ => draw.versionId
  | .createVersion draw _ _ _ _ => draw.versionId

/-- The call with the values that the columns take for its request. -/
def ResolvedCall.bind (c : ResolvedCall) : Except String ResolvedCall :=
  match c.call with
  | .createIntent draw request => do
    let request ← request.bind
    return { c with call := .createIntent draw request }
  | .createVersion draw intentId request expectedVersion expectedRowVersion => do
    let request ← request.bind
    return { c with
      call := .createVersion draw intentId request expectedVersion expectedRowVersion }

/-- What the columns ask of a request for an intent, to hold it as it is. -/
structure CreateIntentRequest.Fits (request : CreateIntentRequest) : Prop where
  actorType : request.createdBy.actorType.length ≤ 50 ∧
    containsNul request.createdBy.actorType = false
  actorId : request.createdBy.actorId.length ≤ 255 ∧ containsNul request.createdBy.actorId = false
  sourceRefs : ∀ ref ∈ request.sourceRefs, containsNul ref.refType = false ∧
    containsNul ref.id = false
  tags : ∀ tag ∈ request.tags, containsNul tag = false
  payload : request.payload.containsNul = false

theorem ActorRef.bind_eq_self {actor : ActorRef} :
    actor.bind = .ok actor ↔
      (actor.actorType.length ≤ 50 ∧ containsNul actor.actorType = false) ∧
        actor.actorId.length ≤ 255 ∧ containsNul actor.actorId = false := by
  rw [← varchar_eq_self, ← varchar_eq_self]
  simp only [bind, bind_eq_ok]
  constructor
  · rintro ⟨actorType, htype, actorId, hid, hactor⟩
    obtain rfl := Except.ok.inj hactor
    exact ⟨htype, hid⟩
  · rintro ⟨htype, hid⟩
    exact ⟨_, htype, _, hid, rfl⟩

/-- What the columns take for a request has its payload, and is the request exactly if it has the
same actor. -/
theorem CreateIntentRequest.bind_ok {request bound : CreateIntentRequest}
    (h : request.bind = .ok bound) :
    bound = { request with createdBy := bound.createdBy } ∧
      (bound.createdBy = request.createdBy → request.Fits) := by
  simp only [bind] at h
  split at h
  · cases h
  next hnul =>
  obtain ⟨createdBy, hactor, hbound⟩ := bind_eq_ok.mp h
  obtain rfl := Except.ok.inj hbound
  refine ⟨rfl, ?_⟩
  rintro rfl
  obtain ⟨htype, hid⟩ := ActorRef.bind_eq_self.mp hactor
  simp only [Bool.not_eq_true, Bool.or_eq_false_iff, List.any_eq_false, List.mem_append,
    List.mem_flatMap] at hnul
  refine ⟨htype, hid, fun ref href => ?_, fun tag htag => hnul.1 tag (.inr htag), hnul.2⟩
  exact ⟨hnul.1 _ (.inl ⟨ref, href, by simp⟩), hnul.1 _ (.inl ⟨ref, href, by simp⟩)⟩

theorem CreateIntentRequest.Fits.bind {request : CreateIntentRequest} (h : request.Fits) :
    request.bind = .ok request := by
  have hnul : ((request.sourceRefs.flatMap (fun ref => [ref.refType, ref.id]) ++
      request.tags).any containsNul || request.payload.containsNul) = false := by
    simp only [Bool.or_eq_false_iff, List.any_eq_false, List.mem_append, List.mem_flatMap,
      Bool.not_eq_true]
    refine ⟨?_, h.payload⟩
    rintro text (⟨ref, href, htext⟩ | htag)
    · rcases List.mem_pair.mp htext with rfl | rfl
      · exact (h.sourceRefs ref href).1
      · exact (h.sourceRefs ref href).2
    · exact h.tags text htag
  simp only [CreateIntentRequest.bind, hnul]
  rw [ActorRef.bind_eq_self.mpr ⟨h.actorType, h.actorId⟩]
  rfl

end Columns

/-- The intent without the tenant and the time, which a creation may draw. -/
def Intent.content (intent : Intent) : Intent := { intent with tenantId := .nil, createdAt := 0 }

/-- The version without its time. -/
def IntentVersion.content (version : IntentVersion) : IntentVersion :=
  { version with createdAt := 0 }

namespace SqlxIntentRepository

variable (computePayloadHash : IntentPayload → String) (s : SqlxIntentRepository)

/-- The row version that a client which has just read the intent passes back. -/
def rowVersionOf (intentId : Uuid) : Int := ((s.intents.lookup intentId).map (·.rowVersion)).getD 0

/-- The tables after a plain call. -/
def plain (c : ResolvedCall) : SqlxIntentRepository :=
  match c.call with
  | .createIntent draw request =>
    (s.createIntentTx computePayloadHash c.resolved draw request).2
  | .createVersion draw intentId request expectedVersion _ =>
    (s.createVersionWithOcc computePayloadHash draw intentId request expectedVersion
      (s.rowVersionOf intentId)).2

/-- The tables after the same call in a transaction of the tenant: the one that the request carries,
or the intent's. -/
def withTx (c : ResolvedCall) : SqlxIntentRepository :=
  match c.call with
  | .createIntent draw request =>
    let tenantId := request.tenantId.getD (resolveTenantIdOrDefault c.resolved draw)
    (s.commit (s.createIntentWithTx computePayloadHash (some tenantId) draw request tenantId)).2
  | .createVersion draw intentId request expectedVersion _ =>
    let session := (s.intents.lookup intentId).map (·.tenantId)
    (s.commit (s.createVersionWithTx computePayloadHash session draw intentId request
      expectedVersion (s.rowVersionOf intentId))).2

/-- The tables after a plain call whose values the columns take; one whose values they refuse leaves
them, as each runs in a transaction. -/
def stored (c : ResolvedCall) : SqlxIntentRepository :=
  match c.bind with
  | .ok bound => s.plain computePayloadHash bound
  | .error _ => s

/-- The tables after the same call in a transaction of the tenant. -/
def storedWithTx (c : ResolvedCall) : SqlxIntentRepository :=
  match c.bind with
  | .ok bound => s.withTx computePayloadHash bound
  | .error _ => s

end SqlxIntentRepository

/-- The two repositories. -/
structure IntentRepositories where
  inMemory : InMemoryIntentRepository
  sqlx : SqlxIntentRepository

namespace IntentRepositories

/-- Both empty. -/
def new : IntentRepositories := ⟨.new, .new⟩

section Calls

variable (computePayloadHash : IntentPayload → String)

/-- The same call on both. -/
def next (r : IntentRepositories) (c : ResolvedCall) : IntentRepositories where
  inMemory := (r.inMemory.apply computePayloadHash c.call).2
  sqlx := r.sqlx.stored computePayloadHash c

/-- The identifiers that a call draws are new. -/
def Fresh (r : IntentRepositories) (c : ResolvedCall) : Prop :=
  r.inMemory.Fresh c.call ∧
    match c.call with
    | .createIntent draw _ =>
      r.sqlx.intents.lookup draw.intentId = none ∧ r.sqlx.versions.lookup draw.versionId = none
    | .createVersion draw _ _ _ _ => r.sqlx.versions.lookup draw.versionId = none

/-- Both after some calls. -/
def after (calls : List ResolvedCall) : IntentRepositories :=
  calls.foldl (next computePayloadHash) new

/-- After the calls both have the same intents and versions, up to what is drawn; the tenants are
the same where the requests carry one; and at each call the variant in a transaction stores what the
plain one does. -/
structure Refines (calls : List ResolvedCall) : Prop where
  intents : ∀ id, ((after computePayloadHash calls).sqlx.getIntent id).map Intent.content =
    ((after computePayloadHash calls).inMemory.getIntent id).map Intent.content
  versions : ∀ id, ((after computePayloadHash calls).sqlx.getVersion id).map IntentVersion.content =
    ((after computePayloadHash calls).inMemory.getVersion id).map IntentVersion.content
  tenants : ∀ c ∈ calls, ∀ draw request tenantId, c.call = .createIntent draw request →
    request.tenantId = some tenantId →
    ((after computePayloadHash calls).sqlx.getIntent draw.intentId).map Intent.tenantId =
      ((after computePayloadHash calls).inMemory.getIntent draw.intentId).map Intent.tenantId
  variants : ∀ before c rest, calls = before ++ c :: rest →
    (after computePayloadHash before).sqlx.storedWithTx computePayloadHash c =
      (after computePayloadHash before).sqlx.stored computePayloadHash c

end Calls

/-- The call does not reach a column that cannot hold its value or is bound to another source: the
columns hold the request as it is, its tenant is the resolver's too, and no version follows
another. -/
def Faithful (r : IntentRepositories) (c : ResolvedCall) : Prop :=
  match c.call with
  | .createIntent draw request => request.Fits ∧ ∀ tenantId, request.tenantId = some tenantId →
      SqlxIntentRepository.resolveTenantIdOrDefault c.resolved draw = tenantId
  | .createVersion _ intentId _ expectedVersion _ =>
    ∀ intent, r.inMemory.intents.lookup intentId = some intent →
      intent.currentVersion ≠ expectedVersion

/-- Both have the same intents and versions, but for the tenants. -/
structure Same (r : IntentRepositories) : Prop where
  intents : ∀ id, (r.sqlx.intents.lookup id).map (fun row => (rowToIntent row).content) =
    (r.inMemory.intents.lookup id).map Intent.content
  versions : ∀ id, (r.sqlx.versions.lookup id).map rowToVersion = r.inMemory.versions.lookup id

section Proofs

variable {computePayloadHash : IntentPayload → String} {r : IntentRepositories} {c : ResolvedCall}
  {draw : CreateIntentDraw} {request : CreateIntentRequest} {resolved : Option Uuid}

theorem Same.new : Same .new := ⟨fun _ => rfl, fun _ => rfl⟩

theorem Same.getIntent (h : r.Same) (id : Uuid) :
    (r.sqlx.getIntent id).map Intent.content = (r.inMemory.getIntent id).map Intent.content := by
  have hid := h.intents id
  rw [SqlxIntentRepository.getIntent, InMemoryIntentRepository.getIntent]
  cases hrow : r.sqlx.intents.lookup id with
  | none =>
    cases hintent : r.inMemory.intents.lookup id with
    | none => rfl
    | some intent =>
      rw [hrow, hintent] at hid
      cases hid
  | some row =>
    rw [hrow] at hid
    cases hintent : r.inMemory.intents.lookup id with
    | none =>
      rw [hintent] at hid
      cases hid
    | some intent =>
      rw [hintent] at hid
      exact congrArg Except.ok (Option.some.inj hid)

theorem Same.getVersion (h : r.Same) (id : Uuid) :
    r.sqlx.getVersion id = r.inMemory.getVersion id := by
  rw [SqlxIntentRepository.getVersion, InMemoryIntentRepository.getVersion, ← h.versions id]
  cases r.sqlx.versions.lookup id <;> rfl

/-- Both have the same intents, at the same versions. -/
theorem Same.currentVersion (h : r.Same) (id : Uuid) :
    (r.sqlx.intents.lookup id).map (·.currentVersion) =
      (r.inMemory.intents.lookup id).map (·.currentVersion) := by
  have hid := congrArg (Option.map Intent.currentVersion) (h.intents id)
  rw [Option.map_map, Option.map_map] at hid
  exact hid

variable (computePayloadHash) in
/-- The creation of an intent with new identifiers writes one row of each table. -/
theorem plain_createIntent (hfresh : r.Fresh ⟨.createIntent draw request, resolved⟩) :
    (r.sqlx.plain computePayloadHash ⟨.createIntent draw request, resolved⟩).intents =
        r.sqlx.intents.insert draw.intentId (SqlxIntentRepository.newIntentRow draw request
          (SqlxIntentRepository.resolveTenantIdOrDefault resolved draw)) ∧
      (r.sqlx.plain computePayloadHash ⟨.createIntent draw request, resolved⟩).versions =
        r.sqlx.versions.insert draw.versionId
          (SqlxIntentRepository.initialVersionRow computePayloadHash draw request) := by
  obtain ⟨-, hintent, hversion⟩ := hfresh
  obtain ⟨response, s', hs'⟩ := SqlxIntentRepository.createIntentStatements_fresh
    computePayloadHash none request (SqlxIntentRepository.resolveTenantIdOrDefault resolved draw)
    rfl hintent hversion
  simp only [SqlxIntentRepository.plain, SqlxIntentRepository.createIntentTx, hs',
    SqlxIntentRepository.commit]
  exact SqlxIntentRepository.createIntentStatements_ok hs'

theorem stored_of_bind {s : SqlxIntentRepository} {bound : ResolvedCall}
    (h : c.bind = .ok bound) :
    s.stored computePayloadHash c = s.plain computePayloadHash bound ∧
      s.storedWithTx computePayloadHash c = s.withTx computePayloadHash bound := by
  rw [SqlxIntentRepository.stored, SqlxIntentRepository.storedWithTx, h]
  exact ⟨rfl, rfl⟩

theorem stored_of_error {s : SqlxIntentRepository} {e : String} (h : c.bind = .error e) :
    s.stored computePayloadHash c = s ∧ s.storedWithTx computePayloadHash c = s := by
  rw [SqlxIntentRepository.stored, SqlxIntentRepository.storedWithTx, h]
  exact ⟨rfl, rfl⟩

/-- The columns take a request that fits them as it is. -/
theorem bind_createIntent (hfits : request.Fits) :
    (⟨.createIntent draw request, resolved⟩ : ResolvedCall).bind =
      .ok ⟨.createIntent draw request, resolved⟩ := by
  simp only [ResolvedCall.bind, hfits.bind]
  rfl

section CreateVersion

variable {versionDraw : CreateVersionDraw} {intentId : Uuid} {versionRequest : CreateVersionRequest}
  {expectedVersion expectedRowVersion : Int}

theorem bind_createVersion {bound : ResolvedCall}
    (h : (⟨.createVersion versionDraw intentId versionRequest expectedVersion expectedRowVersion,
      resolved⟩ : ResolvedCall).bind = .ok bound) :
    ∃ request, bound =
      ⟨.createVersion versionDraw intentId request expectedVersion expectedRowVersion, resolved⟩ := by
  obtain ⟨request, -, hbound⟩ := bind_eq_ok.mp h
  exact ⟨request, (Except.ok.inj hbound).symm⟩

/-- A creation of a version that finds no intent at the version it expects changes nothing. -/
theorem plain_createVersion (hsame : r.Same)
    (h : ∀ intent, r.inMemory.intents.lookup intentId = some intent →
      intent.currentVersion ≠ expectedVersion) :
    r.sqlx.plain computePayloadHash ⟨.createVersion versionDraw intentId versionRequest
      expectedVersion expectedRowVersion, resolved⟩ = r.sqlx := by
  have hcurrent := hsame.currentVersion intentId
  simp only [SqlxIntentRepository.plain, SqlxIntentRepository.createVersionWithOcc,
    SqlxIntentRepository.createVersionStatements]
  cases hrow : r.sqlx.intents.lookup intentId with
  | none => rfl
  | some row =>
    rw [hrow, Option.map_some, eq_comm, Option.map_eq_some_iff] at hcurrent
    obtain ⟨intent, hintent, heq⟩ := hcurrent
    have hne : row.currentVersion ≠ expectedVersion := heq ▸ h intent hintent
    have hvisible : SqlxIntentRepository.visible none row = true := rfl
    simp only [hne, hvisible, Option.filter_some, ne_eq, not_false_eq_true, if_true,
      SqlxIntentRepository.commit]

theorem next_createVersion (hsame : r.Same)
    (h : r.Faithful ⟨.createVersion versionDraw intentId versionRequest expectedVersion
      expectedRowVersion, resolved⟩) :
    r.next computePayloadHash ⟨.createVersion versionDraw intentId versionRequest expectedVersion
      expectedRowVersion, resolved⟩ = r := by
  have hsqlx : r.sqlx.stored computePayloadHash ⟨.createVersion versionDraw intentId versionRequest
      expectedVersion expectedRowVersion, resolved⟩ = r.sqlx := by
    cases hbind : (⟨.createVersion versionDraw intentId versionRequest expectedVersion
        expectedRowVersion, resolved⟩ : ResolvedCall).bind with
    | error e => exact (stored_of_error hbind).1
    | ok bound =>
      obtain ⟨request, rfl⟩ := bind_createVersion hbind
      rw [(stored_of_bind hbind).1]
      exact plain_createVersion hsame h
  have hmemory : (r.inMemory.apply computePayloadHash (.createVersion versionDraw intentId
      versionRequest expectedVersion expectedRowVersion)).2 = r.inMemory := by
    simp only [InMemoryIntentRepository.apply, InMemoryIntentRepository.createVersionWithOcc]
    cases hintent : r.inMemory.intents.lookup intentId with
    | none => rfl
    | some intent =>
      have hne : intent.currentVersion ≠ expectedVersion := h intent hintent
      simp only [hne, ne_eq, not_false_eq_true, if_true]
  rw [next, hsqlx, hmemory]

end CreateVersion

variable (computePayloadHash) in
/-- The creation of an intent whose request fits the columns writes the rows of the request. -/
theorem stored_createIntent (hfresh : r.Fresh ⟨.createIntent draw request, resolved⟩)
    (hfits : request.Fits) :
    (r.sqlx.stored computePayloadHash ⟨.createIntent draw request, resolved⟩).intents =
        r.sqlx.intents.insert draw.intentId (SqlxIntentRepository.newIntentRow draw request
          (SqlxIntentRepository.resolveTenantIdOrDefault resolved draw)) ∧
      (r.sqlx.stored computePayloadHash ⟨.createIntent draw request, resolved⟩).versions =
        r.sqlx.versions.insert draw.versionId
          (SqlxIntentRepository.initialVersionRow computePayloadHash draw request) := by
  rw [(stored_of_bind (bind_createIntent hfits)).1]
  exact plain_createIntent computePayloadHash hfresh

/-- A faithful call keeps the repositories the same. -/
theorem Same.next (h : r.Same) (hfresh : r.Fresh c) (hfaithful : r.Faithful c) :
    (r.next computePayloadHash c).Same := by
  obtain ⟨call, resolved⟩ := c
  cases call with
  | createIntent draw request =>
    obtain ⟨hintents, hversions⟩ := stored_createIntent computePayloadHash hfresh hfaithful.1
    constructor
    · intro id
      simp only [IntentRepositories.next, hintents, InMemoryIntentRepository.apply,
        InMemoryIntentRepository.createIntentTx, lookup_insert_eq]
      split
      · rfl
      · exact h.intents id
    · intro id
      simp only [IntentRepositories.next, hversions, InMemoryIntentRepository.apply,
        InMemoryIntentRepository.createIntentTx, lookup_insert_eq]
      split
      · rfl
      · exact h.versions id
  | createVersion draw intentId request expectedVersion expectedRowVersion =>
    rw [next_createVersion h hfaithful]
    exact h

/-- A stored version is never written over. -/
theorem version_kept {id : Uuid} {version : IntentVersion} (hfresh : r.Fresh c)
    (h : r.inMemory.versions.lookup id = some version) :
    (r.next computePayloadHash c).inMemory.versions.lookup id = some version := by
  obtain ⟨call, resolved⟩ := c
  obtain ⟨hnew, -⟩ := hfresh
  cases call with
  | createIntent draw request =>
    have hne : id ≠ draw.versionId := fun hid => by
      rw [hid, hnew.2] at h
      cases h
    exact (AList.lookup_insert_ne hne).trans h
  | createVersion draw intentId request expectedVersion expectedRowVersion =>
    have hnew : r.inMemory.versions.lookup draw.versionId = none := hnew
    have hne : id ≠ draw.versionId := fun hid => by
      rw [hid, hnew] at h
      cases h
    simp only [next, InMemoryIntentRepository.apply,
      InMemoryIntentRepository.createVersionWithOcc]
    split
    · exact h
    · split
      · exact h
      · exact (AList.lookup_insert_ne hne).trans h

variable (computePayloadHash) in
/-- A call writes at most one row of the table of versions: under the identifier that it draws, and
without a parent. -/
theorem stored_versions (s : SqlxIntentRepository) (c : ResolvedCall) :
    (s.stored computePayloadHash c).versions = s.versions ∨
      ∃ row, (s.stored computePayloadHash c).versions = s.versions.insert c.versionId row ∧
        row.parentVersionId = none := by
  have hplain : ∀ c : ResolvedCall, (s.plain computePayloadHash c).versions = s.versions ∨
      ∃ row, (s.plain computePayloadHash c).versions = s.versions.insert c.versionId row ∧
        row.parentVersionId = none := by
    rintro ⟨call, resolved⟩
    cases call with
    | createIntent draw request =>
      simp only [SqlxIntentRepository.plain, SqlxIntentRepository.createIntentTx,
        SqlxIntentRepository.commit]
      split
      · next response s' hok =>
        exact .inr ⟨_, (SqlxIntentRepository.createIntentStatements_ok hok).2, rfl⟩
      · exact .inl rfl
    | createVersion draw intentId request expectedVersion expectedRowVersion =>
      simp only [SqlxIntentRepository.plain, SqlxIntentRepository.createVersionWithOcc,
        SqlxIntentRepository.commit]
      split
      · next response s' hok =>
        obtain ⟨number, hs'⟩ := SqlxIntentRepository.createVersionStatements_ok hok
        exact .inr ⟨_, hs', rfl⟩
      · exact .inl rfl
  cases hbind : c.bind with
  | error e =>
    rw [(stored_of_error hbind).1]
    exact .inl rfl
  | ok bound =>
    have hid : bound.versionId = c.versionId := by
      obtain ⟨call, resolved⟩ := c
      cases call with
      | createIntent draw request =>
        obtain ⟨_, -, hbound⟩ := bind_eq_ok.mp hbind
        obtain rfl := Except.ok.inj hbound
        rfl
      | createVersion draw intentId request expectedVersion expectedRowVersion =>
        obtain ⟨_, rfl⟩ := bind_createVersion hbind
        rfl
    rw [(stored_of_bind hbind).1, ← hid]
    exact hplain bound

theorem parent_stored {s : SqlxIntentRepository} (c : ResolvedCall)
    (h : ∀ id row, s.versions.lookup id = some row → row.parentVersionId = none) (id : Uuid)
    (row : IntentVersionRow)
    (hrow : (s.stored computePayloadHash c).versions.lookup id = some row) :
    row.parentVersionId = none := by
  rcases stored_versions computePayloadHash s c with hs | ⟨new, hs, hnew⟩
  · exact h id row (hs ▸ hrow)
  · rw [hs, lookup_insert_eq] at hrow
    split at hrow
    · cases hrow
      exact hnew
    · exact h id row hrow

/-- Nor does a call change the row of a stored version. -/
theorem version_settled {id : Uuid} {version : IntentVersion} (hfresh : r.Fresh c)
    (h : r.inMemory.versions.lookup id = some version) :
    (r.next computePayloadHash c).sqlx.versions.lookup id = r.sqlx.versions.lookup id := by
  have hnew : r.inMemory.versions.lookup c.versionId = none := by
    obtain ⟨call, resolved⟩ := c
    cases call with
    | createIntent draw request => exact hfresh.1.2
    | createVersion draw intentId request expectedVersion expectedRowVersion => exact hfresh.1
  have hne : id ≠ c.versionId := fun hid => by
    rw [hid, hnew] at h
    cases h
  rcases stored_versions computePayloadHash r.sqlx c with hs | ⟨new, hs, -⟩
  · exact congrArg (AList.lookup id) hs
  · exact (congrArg (AList.lookup id) hs).trans (AList.lookup_insert_ne hne)

variable (computePayloadHash resolved) in
/-- A creation of a version that finds its intent at the version it expects links the new version to
the one before. -/
theorem parent_createVersion (draw : CreateVersionDraw) {intentId : Uuid} {intent : Intent}
    (request : CreateVersionRequest) (expectedRowVersion : Int)
    {history : Uuid → List IntentVersion} (haligned : r.inMemory.Aligned history)
    (hintent : r.inMemory.intents.lookup intentId = some intent) :
    ∃ version parent, (r.next computePayloadHash ⟨.createVersion draw intentId request
        intent.currentVersion expectedRowVersion, resolved⟩).inMemory.versions.lookup
          draw.versionId = some version ∧ version.parentVersionId = some parent := by
  obtain ⟨last, hlast⟩ := Option.ne_none_iff_exists'.mp
    (mt List.getLast?_eq_none_iff.mp (haligned.begun intentId intent hintent))
  have hparent : (r.inMemory.versionsByIntent.lookup intentId).bind List.getLast? =
      some last.id := by
    rw [← SecondaryIndex.getLast?_bucket, haligned.listed, List.getLast?_map, hlast]
    rfl
  refine ⟨InMemoryIntentRepository.nextVersion computePayloadHash draw intentId request
    (intent.currentVersion + 1) (some last.id), last.id, ?_, rfl⟩
  simp only [next, InMemoryIntentRepository.apply,
    InMemoryIntentRepository.createVersionWithOcc, hintent, ne_eq, not_true_eq_false, if_false,
    hparent]
  exact AList.lookup_insert _

/-- The two tenants of an intent whose request carried one stay what they are. -/
theorem tenants_kept {id tenantId : Uuid} (hsame : r.Same) (hfresh : r.Fresh c)
    (hfaithful : r.Faithful c)
    (hsqlx : (r.sqlx.getIntent id).map Intent.tenantId = .ok tenantId)
    (hmemory : (r.inMemory.getIntent id).map Intent.tenantId = .ok tenantId) :
    ((r.next computePayloadHash c).sqlx.getIntent id).map Intent.tenantId = .ok tenantId ∧
      ((r.next computePayloadHash c).inMemory.getIntent id).map Intent.tenantId =
        .ok tenantId := by
  obtain ⟨call, resolved⟩ := c
  cases call with
  | createIntent draw request =>
    have hne : id ≠ draw.intentId := fun hid => by
      rw [InMemoryIntentRepository.getIntent, hid, hfresh.1.1] at hmemory
      cases hmemory
    have hintents := (stored_createIntent computePayloadHash hfresh hfaithful.1).1
    constructor
    · rw [SqlxIntentRepository.getIntent, next, hintents, AList.lookup_insert_ne hne]
      exact hsqlx
    · have hlookup : (r.next computePayloadHash
          ⟨.createIntent draw request, resolved⟩).inMemory.intents.lookup id =
            r.inMemory.intents.lookup id := AList.lookup_insert_ne hne
      rw [InMemoryIntentRepository.getIntent, hlookup]
      exact hmemory
  | createVersion draw intentId request expectedVersion expectedRowVersion =>
    rw [next_createVersion hsame hfaithful]
    exact ⟨hsqlx, hmemory⟩

/-- A call stores in a transaction of its tenant what it stores plainly, if the resolver has the
tenant. -/
theorem withTx_eq_plain (htenant : ∀ draw request tenantId, c.call = .createIntent draw request →
      request.tenantId = some tenantId →
      SqlxIntentRepository.resolveTenantIdOrDefault c.resolved draw = tenantId) :
    r.sqlx.withTx computePayloadHash c = r.sqlx.plain computePayloadHash c := by
  obtain ⟨call, resolved⟩ := c
  cases call with
  | createIntent draw request =>
    have hresolved : request.tenantId.getD
        (SqlxIntentRepository.resolveTenantIdOrDefault resolved draw) =
          SqlxIntentRepository.resolveTenantIdOrDefault resolved draw := by
      cases hrequest : request.tenantId with
      | none => rfl
      | some tenantId => exact (htenant draw request tenantId rfl hrequest).symm
    simp only [SqlxIntentRepository.withTx, SqlxIntentRepository.plain, hresolved,
      SqlxIntentRepository.createIntentWithTx, SqlxIntentRepository.createIntentTx]
    rw [SqlxIntentRepository.createIntentStatements_session (by simp)]
  | createVersion draw intentId request expectedVersion expectedRowVersion =>
    simp only [SqlxIntentRepository.withTx, SqlxIntentRepository.plain,
      SqlxIntentRepository.createVersionWithTx, SqlxIntentRepository.createVersionWithOcc]
    rw [SqlxIntentRepository.createVersionStatements_session]
    intro row hrow
    rw [hrow]
    simp [SqlxIntentRepository.visible]

theorem storedWithTx_eq_stored (hfaithful : r.Faithful c) :
    r.sqlx.storedWithTx computePayloadHash c = r.sqlx.stored computePayloadHash c := by
  cases hbind : c.bind with
  | error e => rw [(stored_of_error hbind).1, (stored_of_error hbind).2]
  | ok bound =>
    rw [(stored_of_bind hbind).1, (stored_of_bind hbind).2]
    refine withTx_eq_plain fun draw request tenantId hcall htenant => ?_
    obtain ⟨call, resolved⟩ := c
    cases call with
    | createVersion draw' intentId request' expectedVersion expectedRowVersion =>
      obtain ⟨_, rfl⟩ := bind_createVersion hbind
      cases hcall
    | createIntent draw' request' =>
      rw [bind_createIntent hfaithful.1] at hbind
      obtain rfl := Except.ok.inj hbind
      cases hcall
      exact hfaithful.2 tenantId htenant

section Sequences

variable {calls before rest : List ResolvedCall}

theorem after_split : after computePayloadHash (before ++ rest) =
    rest.foldl (next computePayloadHash) (after computePayloadHash before) := List.foldl_append

theorem fresh_split (h : AllSteps (next computePayloadHash) Fresh new (before ++ c :: rest)) :
    AllSteps (next computePayloadHash) Fresh new before ∧
      (after computePayloadHash before).Fresh c ∧
      AllSteps (next computePayloadHash) Fresh
        ((after computePayloadHash before).next computePayloadHash c) rest :=
  ⟨h.append.1, h.append.2.1, h.append.2.2⟩

theorem same_after (hfresh : AllSteps (next computePayloadHash) Fresh new calls)
    (hfaithful : AllSteps (next computePayloadHash) Faithful new calls) :
    (after computePayloadHash calls).Same := by
  have hkeep : ∀ (r : IntentRepositories) (c : ResolvedCall), r.Fresh c ∧ r.Faithful c →
      r.Same → (r.next computePayloadHash c).Same :=
    fun _ _ hc hsame => hsame.next hc.1 hc.2
  exact (hfresh.and hfaithful).invariant hkeep Same.new

theorem aligned_after (h : AllSteps (next computePayloadHash) Fresh new calls) :
    ∃ history, (after computePayloadHash calls).inMemory.Aligned history := by
  have hkeep : ∀ (r : IntentRepositories) (c : ResolvedCall), r.Fresh c →
      (∃ history, r.inMemory.Aligned history) →
      ∃ history, (r.next computePayloadHash c).inMemory.Aligned history := by
    rintro r c hfresh ⟨history, haligned⟩
    have hstep : InMemoryIntentRepository.Step computePayloadHash r.inMemory
        ⟨c.call, (r.inMemory.apply computePayloadHash c.call).1⟩
        (r.next computePayloadHash c).inMemory := ⟨hfresh.1, rfl⟩
    rcases haligned.step hstep with ⟨hsame, -⟩ | ⟨version, hrecorded, -⟩
    · exact ⟨history, by rw [hsame]; exact haligned⟩
    · exact ⟨_, hrecorded⟩
  exact h.invariant hkeep ⟨_, .new⟩

variable (computePayloadHash) in
theorem parents_after (calls : List ResolvedCall) (id : Uuid) (row : IntentVersionRow)
    (hrow : (after computePayloadHash calls).sqlx.versions.lookup id = some row) :
    row.parentVersionId = none := by
  induction calls using List.reverseRecOn generalizing id row with
  | nil => cases hrow
  | append_singleton calls c ih =>
    rw [after_split] at hrow
    exact parent_stored c ih id row hrow

/-- After faithful calls both repositories have the tenant that a request carried. -/
theorem tenants_after {tenantId : Uuid}
    (hfresh : AllSteps (next computePayloadHash) Fresh new
      (before ++ ⟨.createIntent draw request, resolved⟩ :: rest))
    (hfaithful : AllSteps (next computePayloadHash) Faithful new
      (before ++ ⟨.createIntent draw request, resolved⟩ :: rest))
    (htenant : request.tenantId = some tenantId) :
    let r := after computePayloadHash (before ++ ⟨.createIntent draw request, resolved⟩ :: rest)
    (r.sqlx.getIntent draw.intentId).map Intent.tenantId = .ok tenantId ∧
      (r.inMemory.getIntent draw.intentId).map Intent.tenantId = .ok tenantId := by
  obtain ⟨hbefore, hc, hrest⟩ := fresh_split hfresh
  have hsame := same_after hbefore hfaithful.append.1
  have hfits := hfaithful.append.2.1.1
  have hresolver := hfaithful.append.2.1.2 tenantId htenant
  have hintents := (stored_createIntent computePayloadHash hc hfits).1
  rw [after_split, List.foldl_cons]
  have hkeep : ∀ (r : IntentRepositories) (c : ResolvedCall), r.Fresh c ∧ r.Faithful c →
      (r.Same ∧ (r.sqlx.getIntent draw.intentId).map Intent.tenantId = .ok tenantId ∧
        (r.inMemory.getIntent draw.intentId).map Intent.tenantId = .ok tenantId) →
      (r.next computePayloadHash c).Same ∧
        ((r.next computePayloadHash c).sqlx.getIntent draw.intentId).map Intent.tenantId =
          .ok tenantId ∧
        ((r.next computePayloadHash c).inMemory.getIntent draw.intentId).map Intent.tenantId =
          .ok tenantId := by
    rintro r c ⟨hfresh, hfaithful⟩ ⟨hsame, hsqlx, hmemory⟩
    exact ⟨hsame.next hfresh hfaithful, tenants_kept hsame hfresh hfaithful hsqlx hmemory⟩
  refine ((hrest.and hfaithful.append.2.2).invariant hkeep ?_).2
  · refine ⟨hsame.next hc hfaithful.append.2.1, ?_, ?_⟩
    · rw [SqlxIntentRepository.getIntent, next, hintents, AList.lookup_insert, hresolver]
      rfl
    · have hlookup : ((after computePayloadHash before).next computePayloadHash
          ⟨.createIntent draw request, resolved⟩).inMemory.intents.lookup draw.intentId =
            some (InMemoryIntentRepository.newIntent draw request) := AList.lookup_insert _
      rw [InMemoryIntentRepository.getIntent, hlookup]
      simp only [InMemoryIntentRepository.newIntent, htenant, Option.getD_some]
      rfl

/-- In a refining sequence the columns hold each request for an intent as it is. -/
theorem Refines.fits (hrefines : Refines computePayloadHash
      (before ++ ⟨.createIntent draw request, resolved⟩ :: rest))
    (hfresh : AllSteps (IntentRepositories.next computePayloadHash) Fresh new
      (before ++ ⟨.createIntent draw request, resolved⟩ :: rest)) : request.Fits := by
  obtain ⟨-, hc, hrest⟩ := fresh_split hfresh
  have hmemory : ((after computePayloadHash before).next computePayloadHash
      ⟨.createIntent draw request, resolved⟩).inMemory.versions.lookup draw.versionId =
        some (InMemoryIntentRepository.initialVersion computePayloadHash draw request) :=
    AList.lookup_insert _
  have hend := hrefines.versions draw.versionId
  rw [after_split, List.foldl_cons] at hend
  generalize hnext : (after computePayloadHash before).next computePayloadHash
    ⟨.createIntent draw request, resolved⟩ = first at hrest hmemory hend
  have hkeep : ∀ (r' : IntentRepositories) (c : ResolvedCall), r'.Fresh c →
      (r'.inMemory.versions.lookup draw.versionId =
          some (InMemoryIntentRepository.initialVersion computePayloadHash draw request) ∧
        r'.sqlx.versions.lookup draw.versionId = first.sqlx.versions.lookup draw.versionId) →
      (r'.next computePayloadHash c).inMemory.versions.lookup draw.versionId =
          some (InMemoryIntentRepository.initialVersion computePayloadHash draw request) ∧
        (r'.next computePayloadHash c).sqlx.versions.lookup draw.versionId =
          first.sqlx.versions.lookup draw.versionId :=
    fun _ _ hc h => ⟨version_kept hc h.1, (version_settled hc h.1).trans h.2⟩
  obtain ⟨hlast, hrow⟩ := hrest.invariant hkeep ⟨hmemory, rfl⟩
  rw [InMemoryIntentRepository.getVersion, hlast, SqlxIntentRepository.getVersion, hrow, ← hnext,
    next] at hend
  cases hbind : request.bind with
  | error e =>
    have hcall : (⟨.createIntent draw request, resolved⟩ : ResolvedCall).bind = .error e := by
      simp only [ResolvedCall.bind, hbind]
      rfl
    dsimp only at hend
    rw [(stored_of_error hcall).1, hc.2.2] at hend
    cases hend
  | ok bound =>
    have hcall : (⟨.createIntent draw request, resolved⟩ : ResolvedCall).bind =
        .ok ⟨.createIntent draw bound, resolved⟩ := by
      simp only [ResolvedCall.bind, hbind]
      rfl
    have hboundFresh : (after computePayloadHash before).Fresh
        ⟨.createIntent draw bound, resolved⟩ := hc
    dsimp only at hend
    rw [(stored_of_bind hcall).1, (plain_createIntent computePayloadHash hboundFresh).2,
      AList.lookup_insert] at hend
    exact (CreateIntentRequest.bind_ok hbind).2
      (congrArg IntentVersion.createdBy (Except.ok.inj hend))

/-- In a refining sequence the tenants of a request and of the resolver are one. -/
theorem Refines.tenant (hrefines : Refines computePayloadHash
      (before ++ ⟨.createIntent draw request, resolved⟩ :: rest)) (hfits : request.Fits)
    (hfresh : (after computePayloadHash before).Fresh ⟨.createIntent draw request, resolved⟩)
    {tenantId : Uuid} (htenant : request.tenantId = some tenantId) :
    SqlxIntentRepository.resolveTenantIdOrDefault resolved draw = tenantId := by
  have hplain := (plain_createIntent computePayloadHash hfresh).1
  obtain ⟨-, hintent, hversion⟩ := hfresh
  have hvariant := hrefines.variants before _ rest rfl
  rw [(stored_of_bind (bind_createIntent hfits)).1,
    (stored_of_bind (bind_createIntent hfits)).2] at hvariant
  obtain ⟨response, s', hs'⟩ := SqlxIntentRepository.createIntentStatements_fresh
    computePayloadHash (some tenantId) request tenantId (by simp) hintent hversion
  have hwith : ((after computePayloadHash before).sqlx.withTx computePayloadHash
      ⟨.createIntent draw request, resolved⟩).intents =
        (after computePayloadHash before).sqlx.intents.insert draw.intentId
          (SqlxIntentRepository.newIntentRow draw request tenantId) := by
    simp only [SqlxIntentRepository.withTx, htenant, Option.getD_some,
      SqlxIntentRepository.createIntentWithTx, hs', SqlxIntentRepository.commit]
    exact (SqlxIntentRepository.createIntentStatements_ok hs').1
  have hrow := congrArg (fun s => s.intents.lookup draw.intentId) hvariant
  simp only [hwith, hplain, AList.lookup_insert] at hrow
  exact (congrArg IntentRow.tenantId (Option.some.inj hrow)).symm

/-- In a refining sequence no version follows another. -/
theorem Refines.no_successor {draw : CreateVersionDraw} {intentId : Uuid} {intent : Intent}
    {request : CreateVersionRequest} {expectedRowVersion : Int}
    (hrefines : Refines computePayloadHash (before ++ ⟨.createVersion draw intentId request
      intent.currentVersion expectedRowVersion, resolved⟩ :: rest))
    (hfresh : AllSteps (IntentRepositories.next computePayloadHash) Fresh new
      (before ++ ⟨.createVersion draw intentId request intent.currentVersion expectedRowVersion,
        resolved⟩ :: rest)) :
    (after computePayloadHash before).inMemory.intents.lookup intentId ≠ some intent := by
  intro hintent
  obtain ⟨hbefore, -, hrest⟩ := fresh_split hfresh
  obtain ⟨history, haligned⟩ := aligned_after hbefore
  obtain ⟨version, parent, hversion, hparent⟩ := parent_createVersion
    computePayloadHash resolved draw request expectedRowVersion haligned hintent
  have hkeep : ∀ (r : IntentRepositories) (c : ResolvedCall), r.Fresh c →
      r.inMemory.versions.lookup draw.versionId = some version →
      (r.next computePayloadHash c).inMemory.versions.lookup draw.versionId = some version :=
    fun _ _ hc hkept => version_kept hc hkept
  have hstored := hrest.invariant hkeep hversion
  have hend := hrefines.versions draw.versionId
  rw [after_split, List.foldl_cons] at hend
  rw [InMemoryIntentRepository.getVersion, hstored, SqlxIntentRepository.getVersion] at hend
  split at hend
  · next row hrow =>
    have hnone := parents_after computePayloadHash
      (before ++ ⟨.createVersion draw intentId request intent.currentVersion expectedRowVersion,
        resolved⟩ :: rest) draw.versionId row (by rw [after_split, List.foldl_cons]; exact hrow)
    have hlinks : row.parentVersionId = version.parentVersionId :=
      congrArg IntentVersion.parentVersionId (Except.ok.inj hend)
    rw [hnone, hparent] at hlinks
    cases hlinks
  · cases hend

/-- The SQL repository ends with what the in-memory one does exactly after the sequences in which
the columns hold each request for an intent, its tenant is the resolver's too, and no version
follows another. -/
theorem refines_iff {calls : List ResolvedCall}
    (h : AllSteps (next computePayloadHash) Fresh new calls) :
    Refines computePayloadHash calls ↔ AllSteps (next computePayloadHash) Faithful new calls := by
  constructor
  · intro hrefines
    refine allSteps_of_first fun before c rest hsplit _ => ?_
    subst hsplit
    obtain ⟨call, resolved⟩ := c
    cases call with
    | createIntent draw request =>
      have hfits := hrefines.fits h
      exact ⟨hfits, fun tenantId htenant => hrefines.tenant hfits (fresh_split h).2.1 htenant⟩
    | createVersion draw intentId request expectedVersion expectedRowVersion =>
      rintro intent hintent rfl
      exact hrefines.no_successor h hintent
  · intro hfaithful
    have hsame := same_after h hfaithful
    refine ⟨hsame.getIntent, fun id => congrArg _ (hsame.getVersion id), ?_, ?_⟩
    · intro c hc draw request tenantId hcall htenant
      obtain ⟨before, rest, rfl⟩ := List.append_of_mem hc
      obtain ⟨call, resolved⟩ := c
      cases hcall
      obtain ⟨hsqlx, hmemory⟩ := tenants_after h hfaithful htenant
      exact hsqlx.trans hmemory.symm
    · rintro before c rest rfl
      exact storedWithTx_eq_stored hfaithful.append.2.1

end Sequences

end Proofs

section Sample

open InMemoryIntentRepository (sampleHash sampleIntentRequest sampleVersionRequest)

/-- An intent of tenant 5, under a resolver. -/
def sampleCall (resolved : Option Uuid) : ResolvedCall where
  call := .createIntent ⟨10, 20, 30, 0⟩ sampleIntentRequest
  resolved := resolved

theorem sampleCall_fresh (resolved : Option Uuid) : Fresh new (sampleCall resolved) :=
  ⟨⟨rfl, rfl⟩, rfl, rfl⟩

/-- A version that expects a version which the intent does not have. -/
def staleCall : ResolvedCall where
  call := .createVersion ⟨21, 1⟩ 10 sampleVersionRequest 7 1
  resolved := some 5

theorem refines_iff_sample : Refines sampleHash [sampleCall (some 5), staleCall] := by
  have hfresh : AllSteps (next sampleHash) Fresh new [sampleCall (some 5), staleCall] :=
    ⟨sampleCall_fresh (some 5), ⟨rfl, rfl⟩, trivial⟩
  refine (refines_iff hfresh).mpr ⟨⟨?_, ?_⟩, ?_, trivial⟩
  · exact {
      actorType := by decide
      actorId := by decide
      sourceRefs := fun _ href => nomatch href
      tags := fun _ htag => nomatch htag
      payload := by decide }
  · exact fun tenantId htenant => Option.some.inj htenant
  · intro intent hintent
    obtain rfl := Option.some.inj hintent
    decide

/-- Under a resolver without a tenant the row gets another tenant than the request has. -/
theorem tenant_lost :
    ¬ ∀ (computePayloadHash : IntentPayload → String) (calls : List ResolvedCall),
      AllSteps (next computePayloadHash) Fresh new calls → Refines computePayloadHash calls := by
  intro hclaim
  have hfresh : AllSteps (next sampleHash) Fresh new [sampleCall none] :=
    ⟨sampleCall_fresh none, trivial⟩
  have htenant := (hclaim sampleHash _ hfresh).tenants _ List.mem_cons_self _ _ 5 rfl rfl
  revert htenant
  decide +kernel

/-- With the right tenant, a second version still does not name the first. -/
example :
    ¬ Refines sampleHash [sampleCall (some 5),
      ⟨.createVersion ⟨21, 1⟩ 10 sampleVersionRequest 1 1, some 5⟩] := by
  intro hrefines
  have hparent := congrArg (Except.map IntentVersion.parentVersionId) (hrefines.versions 21)
  revert hparent
  decide +kernel

end Sample

end IntentRepositories

end IntentRebase
