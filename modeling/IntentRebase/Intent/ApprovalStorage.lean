import IntentRebase.Intent.TenantTransaction

/-! The approval requests that the handlers use, kept in memory or in SQL, their writes in a
transaction of a tenant, and what creations and cancellations do to the stored requests. -/

namespace IntentRebase

open Kit

namespace SqlxApprovalRequestRepository

/-- The rows of an intent, the table scanned in some order, newest first. -/
def listByIntent (s : SqlxApprovalRequestRepository) (scan : IterOrder ApprovalRequest)
    (intentId tenantId : Uuid) : List ApprovalRequest :=
  latestFirst ApprovalRequest.createdAt ((scan.apply ((pairs s.rows).map Prod.snd)).filter
    fun row => row.intentId = intentId ∧ row.tenantId = tenantId)

section Transactions

variable (tenantId : Uuid) (fault : Option String)

/-- An `UPDATE` in a transaction of the tenant, which sees the rows of that tenant only. -/
def updateWithTx (context : String) (selected : Uuid → ApprovalRequest → Bool)
    (set : ApprovalRequest → ApprovalRequest) (tx : Transaction SqlxApprovalRequestRepository) :
    Except IntentRebaseError Nat × Transaction SqlxApprovalRequestRepository :=
  match tx.statement transactionAborted fault fun s =>
      .ok (s.update (fun id row => row.tenantId = tenantId && selected id row) set) with
  | (.ok affected, tx) => (.ok affected, tx)
  | (.error e, tx) => (.error (.storageError s!"{context}: {e}"), tx)

def getApprovalRequestWithTx (id : Uuid) (tx : Transaction SqlxApprovalRequestRepository) :
    Except IntentRebaseError ApprovalRequest × Transaction SqlxApprovalRequestRepository :=
  match tx.statement transactionAborted fault fun s =>
      .ok ((s.rows.lookup id).filter fun row => row.tenantId = tenantId, s) with
  | (.ok (some row), tx) => (.ok row, tx)
  | (.ok none, tx) => (.error (.approvalRequestNotFound id), tx)
  | (.error e, tx) => (.error (.storageError s!"fetch approval request: {e}"), tx)

/-- An `INSERT` in a transaction of the tenant, whose policy rejects a row of another one. -/
def createApprovalRequestWithTx (request : ApprovalRequest)
    (tx : Transaction SqlxApprovalRequestRepository) :
    Except IntentRebaseError ApprovalRequest × Transaction SqlxApprovalRequestRepository :=
  match tx.statement transactionAborted fault fun s =>
      if request.tenantId ≠ tenantId then
        .error "new row violates row-level security policy for table \"approval_requests\""
      else
        match s.rows.lookup request.id with
        | some _ => .error "duplicate key value violates unique constraint"
        | none => .ok (request, ⟨s.rows.insert request.id request⟩) with
  | (.ok created, tx) => (.ok created, tx)
  | (.error e, tx) => (.error (.storageError s!"insert approval request: {e}"), tx)

def cancelApprovedByIntentWithTx (now : DateTime) (intentId ownerId : Uuid)
    (cancelledBy reason : String) :
    Transaction SqlxApprovalRequestRepository →
      Except IntentRebaseError Nat × Transaction SqlxApprovalRequestRepository :=
  updateWithTx tenantId fault "cancel approved approval requests by intent"
    (fun _ row => row.intentId = intentId ∧ row.tenantId = ownerId ∧ row.status = .approved)
    (ApprovalRequest.resolve .cancelled now cancelledBy (some reason))

def cancelApprovedByIdsWithTx (now : DateTime) (approvalIds : List Uuid) (ownerId : Uuid)
    (cancelledBy reason : String) (tx : Transaction SqlxApprovalRequestRepository) :
    Except IntentRebaseError Nat × Transaction SqlxApprovalRequestRepository :=
  if approvalIds.isEmpty then (.ok 0, tx)
  else updateWithTx tenantId fault "cancel specific approved approval requests by ids"
    (fun id row => id ∈ approvalIds ∧ row.tenantId = ownerId ∧ row.status = .approved)
    (ApprovalRequest.resolve .cancelled now cancelledBy (some reason)) tx

variable (fetchFault : Option String)

def updateStatusWithTx (now : DateTime) (id : Uuid) (status : ApprovalRequestStatus)
    (resolvedBy : String) (resolutionNotes : Option String)
    (tx : Transaction SqlxApprovalRequestRepository) :
    Except IntentRebaseError ApprovalRequest × Transaction SqlxApprovalRequestRepository :=
  match updateWithTx tenantId fault "update approval request status"
      (fun k row => k == id && row.status = .pending)
      (ApprovalRequest.resolve status now resolvedBy resolutionNotes) tx with
  | (.ok affected, tx) =>
    if affected = 0 then
      (.error (.approvalRequestNotPending id
        "atomic update failed - request not in pending status"), tx)
    else getApprovalRequestWithTx tenantId fetchFault id tx
  | (.error e, tx) => (.error e, tx)

def markExpiredWithTx (now : DateTime) (id : Uuid) (expiredBy reason : String)
    (tx : Transaction SqlxApprovalRequestRepository) :
    Except IntentRebaseError ApprovalRequest × Transaction SqlxApprovalRequestRepository :=
  match updateWithTx tenantId fault "expire approval request"
      (fun k row => k == id && row.status = .pending)
      (ApprovalRequest.resolve .expired now expiredBy (some reason)) tx with
  | (.ok affected, tx) =>
    if affected = 0 then
      match getApprovalRequestWithTx tenantId fetchFault id tx with
      | (.ok request, tx) =>
        (.error (.approvalRequestNotPending id request.status.debug), tx)
      | (.error _, tx) => (.error (.approvalRequestNotFound id), tx)
    else getApprovalRequestWithTx tenantId fetchFault id tx
  | (.error e, tx) => (.error e, tx)

end Transactions

end SqlxApprovalRequestRepository

/-- The repository of the handlers. -/
inductive ApprovalStorage where
  | inMemory (repo : InMemoryApprovalRequestRepository)
  | sqlx (repo : SqlxApprovalRequestRepository)

namespace ApprovalStorage

section Operations

variable (s : ApprovalStorage)

/-- The stored requests. -/
def requests : HashMap Uuid ApprovalRequest :=
  match s with
  | inMemory repo => repo.requests
  | sqlx repo => repo.rows

def asSqlxApprovalRepo : Option SqlxApprovalRequestRepository :=
  match s with
  | inMemory _ => none
  | sqlx repo => some repo

def createApprovalRequest (request : ApprovalRequest) :
    Except IntentRebaseError ApprovalRequest × ApprovalStorage :=
  match s with
  | inMemory repo => (repo.createApprovalRequest request).map id inMemory
  | sqlx repo => (repo.insertRequest request).map id sqlx

def getApprovalRequest (id : Uuid) : Except IntentRebaseError ApprovalRequest :=
  match s with
  | inMemory repo => repo.getApprovalRequest id
  | sqlx repo => repo.getApprovalRequest id

def updateApprovalRequestStatus (now : DateTime) (requestId : Uuid)
    (status : ApprovalRequestStatus) (resolvedBy : String) (resolutionNotes : Option String) :
    Except IntentRebaseError ApprovalRequest × ApprovalStorage :=
  match s with
  | inMemory repo =>
    (repo.updateApprovalRequestStatus now requestId status resolvedBy resolutionNotes).map id
      inMemory
  | sqlx repo =>
    (repo.updateStatusInDb now requestId status resolvedBy resolutionNotes).map id sqlx

def markExpired (now : DateTime) (requestId : Uuid) (expiredBy reason : String) :
    Except IntentRebaseError ApprovalRequest × ApprovalStorage :=
  match s with
  | inMemory repo => (repo.markExpired now requestId expiredBy reason).map id inMemory
  | sqlx repo => (repo.markExpired now requestId expiredBy reason).map id sqlx

def listByIntent (scan : IterOrder ApprovalRequest) (intentId tenantId : Uuid) :
    List ApprovalRequest :=
  match s with
  | inMemory repo => repo.listByIntent intentId tenantId
  | sqlx repo => repo.listByIntent scan intentId tenantId

def cancelApprovedByIntent (now : DateTime) (intentId tenantId : Uuid)
    (cancelledBy reason : String) : Except IntentRebaseError Nat × ApprovalStorage :=
  match s with
  | inMemory repo =>
    (repo.cancelApprovedByIntent now intentId tenantId cancelledBy reason).map id inMemory
  | sqlx repo => (repo.cancelApprovedByIntent now intentId tenantId cancelledBy reason).map id sqlx

def cancelApprovedByIds (now : DateTime) (approvalIds : List Uuid) (tenantId : Uuid)
    (cancelledBy reason : String) : Except IntentRebaseError Nat × ApprovalStorage :=
  match s with
  | inMemory repo =>
    (repo.cancelApprovedByIds now approvalIds tenantId cancelledBy reason).map id inMemory
  | sqlx repo => (repo.cancelApprovedByIds now approvalIds tenantId cancelledBy reason).map id sqlx

end Operations

/-- The storage with the selected requests changed. -/
def update (s : ApprovalStorage) (selected : Uuid → ApprovalRequest → Bool)
    (set : ApprovalRequest → ApprovalRequest) : ApprovalStorage :=
  match s with
  | inMemory repo => inMemory { repo with requests := updateWhere repo.requests selected set }
  | sqlx repo => sqlx ⟨updateWhere repo.rows selected set⟩

/-- Each request is stored under its identifier and, in memory, listed once under its intent. -/
structure Sound (s : ApprovalStorage) : Prop where
  keyed : ∀ id request, s.requests.lookup id = some request → request.id = id
  indexed : ∀ repo, s = inMemory repo →
    repo.byIntent.Exact repo.requests ApprovalRequest.intentId

/-- A request that the three-column condition of the cancellations selects. -/
def Approved (intentId tenantId : Uuid) (request : ApprovalRequest) : Prop :=
  request.intentId = intentId ∧ request.tenantId = tenantId ∧ request.status = .approved

end ApprovalStorage

/-- The requests after those that are selected, and no others, have been cancelled. -/
structure CancelsWhere (cancelledBy : String) (selected : ApprovalRequest → Prop)
    (before after : HashMap Uuid ApprovalRequest) : Prop where
  absent : ∀ id, before.lookup id = none → after.lookup id = none
  cancelled : ∀ id request, before.lookup id = some request → selected request →
    ∃ now reason, after.lookup id =
      some (ApprovalRequest.resolve .cancelled now cancelledBy (some reason) request)
  kept : ∀ id request, before.lookup id = some request → ¬ selected request →
    after.lookup id = some request

namespace CancelsWhere

variable {cancelledBy : String} {p q : ApprovalRequest → Prop}
  {m m₁ m₂ : HashMap Uuid ApprovalRequest}

theorem ofUpdate {selected : Uuid → ApprovalRequest → Bool} (now : DateTime) (reason : String)
    (h : ∀ id request, m.lookup id = some request → (selected id request = true ↔ p request)) :
    CancelsWhere cancelledBy p m (updateWhere m selected
      (ApprovalRequest.resolve .cancelled now cancelledBy (some reason))) := by
  refine ⟨fun id hid => ?_, fun id request hid hp => ⟨now, reason, ?_⟩,
    fun id request hid hp => ?_⟩ <;> rw [lookup_updateWhere, hid]
  · rfl
  · rw [Option.map_some, if_pos ((h id request hid).mpr hp)]
  · rw [Option.map_some, if_neg (mt (h id request hid).mp hp)]

theorem none (h : ∀ id request, m.lookup id = some request → ¬ p request) :
    CancelsWhere cancelledBy p m m :=
  ⟨fun _ h => h, fun id request hid hp => absurd hp (h id request hid), fun _ _ hid _ => hid⟩

theorem congr (h : CancelsWhere cancelledBy p m m₁)
    (hiff : ∀ id request, m.lookup id = some request → (p request ↔ q request)) :
    CancelsWhere cancelledBy q m m₁ where
  absent := h.absent
  cancelled id request hid hq := h.cancelled id request hid ((hiff id request hid).mpr hq)
  kept id request hid hq := h.kept id request hid (mt (hiff id request hid).mp hq)

/-- No selected request is left, where only approved requests are selected. -/
theorem none_left (h : CancelsWhere cancelledBy p m m₁)
    (happroved : ∀ request, p request → request.status = .approved) {id : Uuid}
    {request : ApprovalRequest} (hlookup : m₁.lookup id = some request) : ¬ p request := by
  intro hp
  cases hbefore : m.lookup id with
  | none => cases hlookup.symm.trans (h.absent id hbefore)
  | some stored =>
    by_cases hstored : p stored
    · obtain ⟨now, reason, hcancelled⟩ := h.cancelled id stored hbefore hstored
      cases hcancelled.symm.trans hlookup
      cases happroved _ hp
    · cases (h.kept id stored hbefore hstored).symm.trans hlookup
      exact hstored hp

/-- A cancellation of more requests cancels what an earlier one has left. -/
theorem trans (h₁ : CancelsWhere cancelledBy p m m₁) (h₂ : CancelsWhere cancelledBy q m₁ m₂)
    (hpq : ∀ id request, m.lookup id = some request → p request → q request)
    (happroved : ∀ request, q request → request.status = .approved) :
    CancelsWhere cancelledBy q m m₂ := by
  refine ⟨fun id hid => h₂.absent id (h₁.absent id hid), fun id request hid hq => ?_,
    fun id request hid hq => ?_⟩
  · by_cases hp : p request
    · obtain ⟨now, reason, hcancelled⟩ := h₁.cancelled id request hid hp
      -- A cancelled request is not approved, and the second cancellation leaves it.
      refine ⟨now, reason, h₂.kept id _ hcancelled fun h => ?_⟩
      cases happroved _ h
    · exact h₂.cancelled id request (h₁.kept id request hid hp) hq
  · exact h₂.kept id request (h₁.kept id request hid (mt (hpq id request hid) hq)) hq

end CancelsWhere

/-- Some of the requests that are selected have been cancelled, and nothing else is changed: what
cancellations that may fail leave. -/
def MayCancel (selected : ApprovalRequest → Prop) (before after : HashMap Uuid ApprovalRequest) :
    Prop :=
  ∀ id, after.lookup id = before.lookup id ∨
    ∃ request now cancelledBy reason, before.lookup id = some request ∧ selected request ∧
      after.lookup id =
        some (ApprovalRequest.resolve .cancelled now cancelledBy (some reason) request)

namespace MayCancel

variable {selected : ApprovalRequest → Prop} {m m₁ m₂ : HashMap Uuid ApprovalRequest}

theorem refl (selected : ApprovalRequest → Prop) (m : HashMap Uuid ApprovalRequest) :
    MayCancel selected m m := fun _ => .inl rfl

theorem update {p : Uuid → ApprovalRequest → Bool} (now : DateTime) (cancelledBy reason : String)
    (h : ∀ id request, p id request = true → selected request) :
    MayCancel selected m
      (updateWhere m p (ApprovalRequest.resolve .cancelled now cancelledBy (some reason))) := by
  intro id
  rw [lookup_updateWhere]
  cases hlookup : m.lookup id with
  | none => exact .inl rfl
  | some request =>
    rw [Option.map_some]
    split
    · next hp => exact .inr ⟨request, now, cancelledBy, reason, rfl, h id request hp, rfl⟩
    · exact .inl rfl

/-- Where only approved requests are selected, one cancellation may follow another. -/
theorem trans (h₁ : MayCancel selected m m₁) (h₂ : MayCancel selected m₁ m₂)
    (happroved : ∀ request, selected request → request.status = .approved) :
    MayCancel selected m m₂ := by
  intro id
  rcases h₁ id with hsame | ⟨request, now, cancelledBy, reason, hlookup, hselected, hafter⟩
  · rw [← hsame]
    exact h₂ id
  · refine .inr ⟨request, now, cancelledBy, reason, hlookup, hselected, ?_⟩
    rcases h₂ id with hsame | ⟨again, _, _, _, hagain, hreselected, _⟩
    · rw [hsame, hafter]
    · cases hafter.symm.trans hagain
      cases happroved _ hreselected

/-- A request that is not selected is left. -/
theorem kept (h : MayCancel selected m m₁) {id : Uuid} {request : ApprovalRequest}
    (hlookup : m.lookup id = some request) (hnot : ¬ selected request) :
    m₁.lookup id = some request := by
  rcases h id with hsame | ⟨other, _, _, _, hother, hselected, _⟩
  · rw [hsame, hlookup]
  · cases hlookup.symm.trans hother
    exact absurd hselected hnot

theorem absent (h : MayCancel selected m m₁) {id : Uuid} (hlookup : m.lookup id = none) :
    m₁.lookup id = none := by
  rcases h id with hsame | ⟨_, _, _, _, hother, _⟩
  · rw [hsame, hlookup]
  · cases hlookup.symm.trans hother

end MayCancel

/-- What is cancelled with certainty may be cancelled. -/
theorem CancelsWhere.mayCancel {cancelledBy : String} {p selected : ApprovalRequest → Prop}
    {m m₁ : HashMap Uuid ApprovalRequest} (h : CancelsWhere cancelledBy p m m₁)
    (hp : ∀ request, p request → selected request) : MayCancel selected m m₁ := by
  intro id
  cases hlookup : m.lookup id with
  | none => exact .inl (h.absent id hlookup)
  | some request =>
    by_cases hselected : p request
    · obtain ⟨now, reason, hcancelled⟩ := h.cancelled id request hlookup hselected
      exact .inr ⟨request, now, cancelledBy, reason, rfl, hp request hselected, hcancelled⟩
    · exact .inl (h.kept id request hlookup hselected)

/-- The requests that a cancellation by identifiers selects. -/
def approvedAmong (ids : List Uuid) (tenantId : Uuid) (id : Uuid) (request : ApprovalRequest) :
    Bool :=
  id ∈ ids ∧ request.tenantId = tenantId ∧ request.status = .approved

namespace ApprovalStorage

section Specs

variable {s s' : ApprovalStorage} {request created : ApprovalRequest}
  {intentId tenantId id : Uuid}

theorem createApprovalRequest_ok (h : s.createApprovalRequest request = (.ok created, s')) :
    created = request ∧ s'.requests = s.requests.insert request.id request := by
  cases s with
  | inMemory repo =>
    cases h
    exact ⟨rfl, rfl⟩
  | sqlx repo =>
    rw [createApprovalRequest, SqlxApprovalRequestRepository.insertRequest] at h
    cases hlookup : repo.rows.lookup request.id with
    | some row =>
      rw [hlookup] at h
      cases h
    | none =>
      rw [hlookup] at h
      cases h
      exact ⟨rfl, rfl⟩

/-- A creation answers the request, or is refused and leaves the storage. -/
theorem createApprovalRequest_cases (s : ApprovalStorage) (request : ApprovalRequest) :
    (∃ s', s.createApprovalRequest request = (.ok request, s')) ∨
      ∃ e, s.createApprovalRequest request = (.error e, s) := by
  cases s with
  | inMemory repo => exact .inl ⟨_, rfl⟩
  | sqlx repo =>
    rw [createApprovalRequest, SqlxApprovalRequestRepository.insertRequest]
    cases repo.rows.lookup request.id with
    | none => exact .inl ⟨_, rfl⟩
    | some row => exact .inr ⟨_, rfl⟩

/-- Under a new identifier, a creation succeeds. -/
theorem createApprovalRequest_fresh (h : s.requests.lookup request.id = none) :
    ∃ s', s.createApprovalRequest request = (.ok request, s') := by
  cases s with
  | inMemory repo => exact ⟨_, rfl⟩
  | sqlx repo =>
    have hlookup : repo.rows.lookup request.id = none := h
    rw [createApprovalRequest, SqlxApprovalRequestRepository.insertRequest, hlookup]
    exact ⟨_, rfl⟩

theorem Sound.create (h : s.Sound) (hfresh : s.requests.lookup request.id = none)
    (hcreate : s.createApprovalRequest request = (.ok created, s')) : s'.Sound := by
  obtain ⟨rfl, hrequests⟩ := createApprovalRequest_ok hcreate
  refine ⟨fun id stored hlookup => ?_, fun repo' hs' => ?_⟩
  · rw [hrequests, lookup_insert_eq] at hlookup
    split at hlookup
    · next hid =>
      cases hlookup
      exact hid.symm
    · exact h.keyed id stored hlookup
  · cases s with
    | sqlx repo =>
      rw [createApprovalRequest] at hcreate
      rw [hs'] at hcreate
      cases congrArg Prod.snd hcreate
    | inMemory repo =>
      cases hcreate
      cases hs'
      exact (h.indexed repo rfl).insert created hfresh

@[simp] theorem requests_update (s : ApprovalStorage) (selected : Uuid → ApprovalRequest → Bool)
    (set : ApprovalRequest → ApprovalRequest) :
    (s.update selected set).requests = updateWhere s.requests selected set := by
  cases s <;> rfl

section Updates

variable (s : ApprovalStorage) (now : DateTime) (id : Uuid)

theorem update_eq_self {selected : Uuid → ApprovalRequest → Bool}
    {set : ApprovalRequest → ApprovalRequest}
    (h : ∀ k request, s.requests.lookup k = some request → selected k request = false) :
    s.update selected set = s := by
  cases s with
  | inMemory repo =>
    exact congrArg (fun m => inMemory { repo with requests := m }) (updateWhere_eq_self h)
  | sqlx repo => exact congrArg (fun m => sqlx ⟨m⟩) (updateWhere_eq_self h)

/-- The request under an identifier, while it is pending. -/
def pendingAt (id : Uuid) (k : Uuid) (request : ApprovalRequest) : Bool :=
  k == id && request.status = .pending

variable {s} {id} in
/-- In memory, the request that was found pending is changed. -/
theorem modify_eq_update {repo : InMemoryApprovalRequestRepository} {request : ApprovalRequest}
    (hlookup : repo.requests.lookup id = some request) (hpending : request.status = .pending)
    (set : ApprovalRequest → ApprovalRequest) :
    inMemory (repo.modify id set) = (inMemory repo).update (pendingAt id) set := by
  refine congrArg (fun m => inMemory { repo with requests := m }) (updateWhere_congr ?_)
  intro k stored hstored
  by_cases hk : k = id
  · subst hk
    cases hlookup.symm.trans hstored
    simp [pendingAt, hpending]
  · simp [pendingAt, hk]

variable {s} {id} in
theorem update_pendingAt_eq_self {set : ApprovalRequest → ApprovalRequest}
    (h : ∀ request, s.requests.lookup id = some request → request.status ≠ .pending) :
    s.update (pendingAt id) set = s := by
  refine s.update_eq_self fun k request hlookup => ?_
  by_cases hk : k = id
  · subst hk
    simp [pendingAt, h request hlookup]
  · simp [pendingAt, hk]

variable {s} {id} in
/-- In memory, a call that changes the request while it is pending, and nothing otherwise. -/
theorem changePending_eq_update {repo after : InMemoryApprovalRequestRepository}
    {set : ApprovalRequest → ApprovalRequest}
    (hpending : ∀ request, repo.requests.lookup id = some request → request.status = .pending →
      after = repo.modify id set)
    (hother : (∀ request, repo.requests.lookup id = some request → request.status ≠ .pending) →
      after = repo) :
    inMemory after = (inMemory repo).update (pendingAt id) set := by
  by_cases h : ∃ request, repo.requests.lookup id = some request ∧ request.status = .pending
  · obtain ⟨request, hlookup, hstatus⟩ := h
    rw [hpending request hlookup hstatus]
    exact modify_eq_update hlookup hstatus set
  · have hnone : ∀ request, repo.requests.lookup id = some request → request.status ≠ .pending :=
      fun request hlookup hstatus => h ⟨request, hlookup, hstatus⟩
    rw [hother hnone]
    exact (update_pendingAt_eq_self hnone).symm

/-- A change of a status resolves the request if it is pending. -/
theorem updateApprovalRequestStatus_state (status : ApprovalRequestStatus) (resolvedBy : String)
    (notes : Option String) :
    (s.updateApprovalRequestStatus now id status resolvedBy notes).2 =
      s.update (pendingAt id) (ApprovalRequest.resolve status now resolvedBy notes) := by
  cases s with
  | inMemory repo =>
    refine changePending_eq_update (fun request hlookup hpending => ?_) fun hother => ?_
    · change (repo.updateApprovalRequestStatus now id status resolvedBy notes).2 = _
      rw [InMemoryApprovalRequestRepository.updateApprovalRequestStatus, hlookup]
      exact congrArg Prod.snd (if_neg (not_not.mpr hpending))
    · change (repo.updateApprovalRequestStatus now id status resolvedBy notes).2 = _
      rw [InMemoryApprovalRequestRepository.updateApprovalRequestStatus]
      cases hlookup : repo.requests.lookup id with
      | none => rfl
      | some request => exact congrArg Prod.snd (if_pos (hother request hlookup))
  | sqlx repo =>
    rw [updateApprovalRequestStatus, SqlxApprovalRequestRepository.updateStatusInDb]
    dsimp only
    split <;> rfl

/-- An expiry resolves the request if it is pending. -/
theorem markExpired_state (expiredBy reason : String) :
    (s.markExpired now id expiredBy reason).2 =
      s.update (pendingAt id) (ApprovalRequest.resolve .expired now expiredBy (some reason)) := by
  cases s with
  | inMemory repo =>
    refine changePending_eq_update (fun request hlookup hpending => ?_) fun hother => ?_
    · change (repo.markExpired now id expiredBy reason).2 = _
      rw [InMemoryApprovalRequestRepository.markExpired, hlookup]
      exact congrArg Prod.snd (if_neg (not_not.mpr hpending))
    · change (repo.markExpired now id expiredBy reason).2 = _
      rw [InMemoryApprovalRequestRepository.markExpired]
      cases hlookup : repo.requests.lookup id with
      | none => rfl
      | some request => exact congrArg Prod.snd (if_pos (hother request hlookup))
  | sqlx repo =>
    rw [markExpired, SqlxApprovalRequestRepository.markExpired]
    dsimp only
    split <;> rfl

end Updates

/-- The requests of an intent within a tenant are those listed. -/
theorem Sound.mem_listByIntent (h : s.Sound) (scan : IterOrder ApprovalRequest) :
    id ∈ (s.listByIntent scan intentId tenantId).map ApprovalRequest.id ↔
      ∃ request, s.requests.lookup id = some request ∧ request.intentId = intentId ∧
        request.tenantId = tenantId := by
  have hlisted (request : ApprovalRequest) : request ∈ s.listByIntent scan intentId tenantId ↔
      s.requests.lookup request.id = some request ∧ request.intentId = intentId ∧
        request.tenantId = tenantId := by
    cases s with
    | inMemory repo =>
      simp only [listByIntent, InMemoryApprovalRequestRepository.listByIntent,
        InMemoryApprovalRequestRepository.listed, (latestFirst_perm _ _).mem_iff, List.mem_filter,
        List.mem_filterMap, (h.indexed repo rfl).mem_bucket, decide_eq_true_eq]
      constructor
      · rintro ⟨⟨key, ⟨v, hv, hintent⟩, hlookup⟩, htenant⟩
        cases hlookup.symm.trans hv
        cases h.keyed key request hlookup
        exact ⟨hlookup, hintent, htenant⟩
      · rintro ⟨hlookup, hintent, htenant⟩
        exact ⟨⟨request.id, ⟨request, hlookup, hintent⟩, hlookup⟩, htenant⟩
    | sqlx repo =>
      simp only [listByIntent, SqlxApprovalRequestRepository.listByIntent,
        (latestFirst_perm _ _).mem_iff, List.mem_filter, scan.mem_apply, decide_eq_true_eq]
      refine and_congr_left fun _ => ?_
      rw [List.mem_map]
      constructor
      · rintro ⟨⟨key, v⟩, hmem, rfl⟩
        have hlookup := mem_pairs.mp hmem
        have hkey : v.id = key := h.keyed key v hlookup
        rw [hkey]
        exact hlookup
      · intro hlookup
        exact ⟨(request.id, request), mem_pairs.mpr hlookup, rfl⟩
  rw [List.mem_map]
  constructor
  · rintro ⟨request, hmem, rfl⟩
    exact ⟨request, (hlisted request).mp hmem⟩
  · rintro ⟨request, hlookup, howner⟩
    obtain rfl := h.keyed id request hlookup
    exact ⟨request, (hlisted request).mpr ⟨hlookup, howner⟩, rfl⟩

variable (s) (now : DateTime) (cancelledBy reason : String)

/-- The approved requests of a tenant. -/
def ApprovedOf (tenantId : Uuid) (request : ApprovalRequest) : Prop :=
  request.tenantId = tenantId ∧ request.status = .approved

theorem cancelApprovedByIntent_mayCancel (intentId tenantId : Uuid) :
    MayCancel (ApprovedOf tenantId) s.requests
      (s.cancelApprovedByIntent now intentId tenantId cancelledBy reason).2.requests := by
  have hstate : (s.cancelApprovedByIntent now intentId tenantId cancelledBy reason).2 =
      s.update (fun _ r => r.intentId = intentId ∧ r.tenantId = tenantId ∧ r.status = .approved)
        (ApprovalRequest.resolve .cancelled now cancelledBy (some reason)) := by
    cases s <;> rfl
  rw [hstate, requests_update]
  exact .update now cancelledBy reason fun id request h => (of_decide_eq_true h).2

theorem cancelApprovedByIds_mayCancel (ids : List Uuid) (tenantId : Uuid) :
    MayCancel (ApprovedOf tenantId) s.requests
      (s.cancelApprovedByIds now ids tenantId cancelledBy reason).2.requests := by
  cases s with
  | inMemory repo =>
    have hstate : ((inMemory repo).cancelApprovedByIds now ids tenantId cancelledBy reason).2 =
        (inMemory repo).update
          (fun _ r => r.id ∈ ids ∧ r.tenantId = tenantId ∧ r.status = .approved)
          (ApprovalRequest.resolve .cancelled now cancelledBy (some reason)) := rfl
    rw [hstate, requests_update]
    exact .update now cancelledBy reason fun id request h => (of_decide_eq_true h).2
  | sqlx repo =>
    cases ids with
    | nil => exact .refl _ _
    | cons first rest =>
      have hstate : ((sqlx repo).cancelApprovedByIds now (first :: rest) tenantId cancelledBy
          reason).2 = (sqlx repo).update
            (fun k r => k ∈ first :: rest ∧ r.tenantId = tenantId ∧ r.status = .approved)
            (ApprovalRequest.resolve .cancelled now cancelledBy (some reason)) := rfl
      rw [hstate, requests_update]
      exact .update now cancelledBy reason fun id request h => (of_decide_eq_true h).2

theorem cancelApprovedByIntent_cancels (intentId tenantId : Uuid) :
    ∃ count s', s.cancelApprovedByIntent now intentId tenantId cancelledBy reason =
        (.ok count, s') ∧
      CancelsWhere cancelledBy (Approved intentId tenantId) s.requests s'.requests := by
  cases s <;>
  · refine ⟨_, _, rfl, ?_⟩
    dsimp only [requests]
    refine CancelsWhere.ofUpdate now reason ?_
    intro id request _
    exact decide_eq_true_iff

variable {s} in
theorem Sound.cancelApprovedByIds_cancels (h : s.Sound) (ids : List Uuid) (tenantId : Uuid) :
    ∃ s', s.cancelApprovedByIds now ids tenantId cancelledBy reason =
        (.ok (countWhere s.requests (approvedAmong ids tenantId)), s') ∧
      CancelsWhere cancelledBy (fun request => approvedAmong ids tenantId request.id request = true)
        s.requests s'.requests := by
  cases s with
  | inMemory repo =>
    refine ⟨_, congrArg (Prod.mk · _) (congrArg Except.ok (countWhere_congr ?_)), ?_⟩
    · intro id request hlookup
      rw [← h.keyed id request hlookup]
      rfl
    · dsimp only [requests]
      refine CancelsWhere.ofUpdate now reason ?_
      intro id request _
      exact Iff.rfl
  | sqlx repo =>
    rw [cancelApprovedByIds, SqlxApprovalRequestRepository.cancelApprovedByIds]
    cases ids with
    | nil =>
      have hnone : countWhere repo.rows (approvedAmong [] tenantId) = 0 :=
        countWhere_eq_zero.mpr fun _ _ _ => by simp [approvedAmong]
      refine ⟨sqlx repo, ?_, .none fun _ _ _ => by simp [approvedAmong]⟩
      exact congrArg (fun count => (Except.ok count, sqlx repo)) hnone.symm
    | cons first rest =>
      refine ⟨_, rfl, ?_⟩
      dsimp only [requests]
      refine CancelsWhere.ofUpdate now reason ?_
      intro id request hlookup
      rw [h.keyed id request hlookup]
      exact Iff.rfl

end Specs

end ApprovalStorage

namespace SqlxApprovalRequestRepository

section Specs

variable {tx tx' : Transaction SqlxApprovalRequestRepository} {tenantId : Uuid}

theorem updateWithTx_ok {fault : Option String} {context : String}
    {selected : Uuid → ApprovalRequest → Bool} {set : ApprovalRequest → ApprovalRequest}
    {affected : Nat}
    (h : updateWithTx tenantId fault context selected set tx = (.ok affected, tx')) :
    fault = none ∧ tx.aborted = false ∧ tx'.aborted = false ∧
      affected = countWhere tx.work.rows
        (fun id row => row.tenantId = tenantId && selected id row) ∧
      tx'.work.rows = updateWhere tx.work.rows
        (fun id row => row.tenantId = tenantId && selected id row) set := by
  unfold updateWithTx at h
  split at h
  · next hstatement =>
    cases h
    obtain ⟨hopen, hfault, hrun, hafter⟩ := Transaction.statement_ok hstatement
    have hupdate := Except.ok.inj hrun
    exact ⟨hfault, hopen, hafter, (congrArg Prod.fst hupdate).symm,
      (congrArg (fun update => update.2.rows) hupdate).symm⟩
  · cases h

/-- An update that fails changes no row. -/
theorem updateWithTx_error {fault : Option String} {context : String}
    {selected : Uuid → ApprovalRequest → Bool} {set : ApprovalRequest → ApprovalRequest}
    {e : IntentRebaseError}
    (h : updateWithTx tenantId fault context selected set tx = (.error e, tx')) :
    tx'.work = tx.work := by
  unfold updateWithTx at h
  split at h
  · cases h
  · next hstatement =>
    cases h
    exact Transaction.statement_error_work hstatement

/-- Whatever it answers, a cancellation in a transaction cancels some of the selected requests. -/
theorem updateWithTx_mayCancel (fault : Option String) (context : String)
    {selected : Uuid → ApprovalRequest → Bool} {p : ApprovalRequest → Prop} (now : DateTime)
    (cancelledBy reason : String) (h : ∀ id request, selected id request = true → p request)
    (tx : Transaction SqlxApprovalRequestRepository) :
    MayCancel p tx.work.rows (updateWithTx tenantId fault context selected
      (ApprovalRequest.resolve .cancelled now cancelledBy (some reason)) tx).2.work.rows := by
  cases hrun : updateWithTx tenantId fault context selected
      (ApprovalRequest.resolve .cancelled now cancelledBy (some reason)) tx with
  | mk answer tx' =>
    cases answer with
    | ok affected =>
      obtain ⟨-, -, -, -, hrows⟩ := updateWithTx_ok hrun
      rw [hrows]
      refine MayCancel.update now cancelledBy reason fun id request hselected => ?_
      rw [Bool.and_eq_true] at hselected
      exact h id request hselected.2
    | error e =>
      rw [updateWithTx_error hrun]
      exact .refl _ _

/-- A creation that answers has inserted the request under an identifier that was not in use. -/
theorem createApprovalRequestWithTx_ok {fault : Option String} {request created : ApprovalRequest}
    (h : createApprovalRequestWithTx tenantId fault request tx = (.ok created, tx')) :
    created = request ∧ tx'.aborted = false ∧ tx.work.rows.lookup request.id = none ∧
      tx'.work.rows = tx.work.rows.insert request.id request := by
  unfold createApprovalRequestWithTx at h
  split at h
  · next hstatement =>
    cases h
    obtain ⟨-, -, hrun, hafter⟩ := Transaction.statement_ok hstatement
    split at hrun
    · cases hrun
    split at hrun
    · cases hrun
    next hlookup =>
      obtain ⟨hcreated, hwork⟩ := Prod.mk.inj (Except.ok.inj hrun)
      rw [← hcreated, ← hwork]
      exact ⟨rfl, hafter, hlookup, rfl⟩
  · cases h

theorem cancelApprovedByIntentWithTx_ok {fault : Option String} {now : DateTime} {intentId : Uuid}
    {cancelledBy reason : String} {count : Nat}
    (h : cancelApprovedByIntentWithTx tenantId fault now intentId tenantId cancelledBy reason tx =
      (.ok count, tx')) :
    tx'.aborted = false ∧
      CancelsWhere cancelledBy (ApprovalStorage.Approved intentId tenantId) tx.work.rows
        tx'.work.rows := by
  obtain ⟨-, -, hafter, -, hrows⟩ := updateWithTx_ok h
  refine ⟨hafter, ?_⟩
  rw [hrows]
  refine CancelsWhere.ofUpdate now reason ?_
  intro id request _
  simp only [Bool.and_eq_true, decide_eq_true_eq, ApprovalStorage.Approved]
  exact and_iff_right_of_imp fun h => h.2.1

variable (hopen : tx.aborted = false)
include hopen

/-- Without a failure, a request of the tenant is created under a new identifier. -/
theorem createApprovalRequestWithTx_run {request : ApprovalRequest}
    (htenant : request.tenantId = tenantId) (hfresh : tx.work.rows.lookup request.id = none) :
    ∃ tx', createApprovalRequestWithTx tenantId none request tx = (.ok request, tx') := by
  have hrun : (if request.tenantId ≠ tenantId then
        .error "new row violates row-level security policy for table \"approval_requests\""
      else
        match tx.work.rows.lookup request.id with
        | some _ => .error "duplicate key value violates unique constraint"
        | none => .ok (request, ⟨tx.work.rows.insert request.id request⟩) :
      Except String (ApprovalRequest × SqlxApprovalRequestRepository)) =
      .ok (request, ⟨tx.work.rows.insert request.id request⟩) := by
    rw [if_neg (not_not.mpr htenant), hfresh]
  rw [createApprovalRequestWithTx, Transaction.statement_run hopen hrun]
  exact ⟨_, rfl⟩

variable (tenantId) in
/-- Without a failure, an update answers in a transaction that is open. -/
theorem updateWithTx_run (context : String) (selected : Uuid → ApprovalRequest → Bool)
    (set : ApprovalRequest → ApprovalRequest) :
    ∃ affected tx', updateWithTx tenantId none context selected set tx = (.ok affected, tx') := by
  rw [updateWithTx, Transaction.statement_run hopen rfl]
  exact ⟨_, _, rfl⟩

variable (now : DateTime) (cancelledBy reason : String)

variable (tenantId) in
/-- Without a failure, an update leaves an open transaction open. -/
theorem updateWithTx_open (context : String) (selected : Uuid → ApprovalRequest → Bool)
    (set : ApprovalRequest → ApprovalRequest) :
    (updateWithTx tenantId none context selected set tx).2.aborted = false := by
  obtain ⟨affected, tx', hrun⟩ := updateWithTx_run tenantId hopen context selected set
  rw [hrun]
  exact (updateWithTx_ok hrun).2.2.1

theorem cancelApprovedByIntentWithTx_cancels (intentId : Uuid) :
    ∃ count tx', cancelApprovedByIntentWithTx tenantId none now intentId tenantId cancelledBy
        reason tx = (.ok count, tx') ∧ tx'.aborted = false ∧
      CancelsWhere cancelledBy (ApprovalStorage.Approved intentId tenantId) tx.work.rows
        tx'.work.rows := by
  obtain ⟨count, tx', hrun⟩ := updateWithTx_run tenantId hopen _ _ _
  exact ⟨count, tx', hrun, cancelApprovedByIntentWithTx_ok hrun⟩

theorem cancelApprovedByIdsWithTx_cancels
    (hkeyed : ∀ id row, tx.work.rows.lookup id = some row → row.id = id) {ids : List Uuid}
    (hids : ids ≠ []) :
    ∃ tx', cancelApprovedByIdsWithTx tenantId none now ids tenantId cancelledBy reason tx =
        (.ok (countWhere tx.work.rows (approvedAmong ids tenantId)), tx') ∧ tx'.aborted = false ∧
      CancelsWhere cancelledBy (fun request => approvedAmong ids tenantId request.id request = true)
        tx.work.rows tx'.work.rows := by
  have hselected (id : Uuid) (row : ApprovalRequest) :
      (decide (row.tenantId = tenantId) &&
        decide (id ∈ ids ∧ row.tenantId = tenantId ∧ row.status = .approved)) =
      approvedAmong ids tenantId id row := by
    rw [approvedAmong, ← Bool.decide_and]
    exact decide_eq_decide.mpr (and_iff_right_of_imp fun h => h.2.1)
  obtain ⟨count, tx', hrun⟩ := updateWithTx_run tenantId hopen
    "cancel specific approved approval requests by ids"
    (fun id row => id ∈ ids ∧ row.tenantId = tenantId ∧ row.status = .approved)
    (ApprovalRequest.resolve .cancelled now cancelledBy (some reason))
  obtain ⟨-, -, hafter, hcount, hrows⟩ := updateWithTx_ok hrun
  simp only [hselected] at hcount hrows
  refine ⟨tx', ?_, hafter, ?_⟩
  · rw [cancelApprovedByIdsWithTx, if_neg (by simpa using hids), hrun, hcount]
  · rw [hrows]
    refine CancelsWhere.ofUpdate now reason ?_
    intro id request hlookup
    rw [hkeyed id request hlookup]

end Specs

end SqlxApprovalRequestRepository

end IntentRebase
