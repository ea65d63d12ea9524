import IntentRebase.Api.IntentOwnership

/-! The handlers that resolve a pending approval request. They compare the tenant of the token where
there is a pool; without one, the request of any tenant is resolved. -/

namespace IntentRebase

open Kit

structure ApprovalRequestResponse where
  id : Uuid
  intentId : Uuid
  status : String
  resolvedBy : String
  resolvedAt : Option DateTime
  resolutionNotes : Option String
deriving DecidableEq, Repr

def approvalRequestResponse (updated : ApprovalRequest) : ApprovalRequestResponse where
  id := updated.id
  intentId := updated.intentId
  status := updated.status.debug
  resolvedBy := updated.resolvedBy.getD ""
  resolvedAt := updated.resolvedAt
  resolutionNotes := updated.resolutionNotes

/-- The message that rejects a token of another tenant than the request's. -/
def approvalTenantMismatch (jwtTenantId tenantId : Uuid) : String :=
  s!"Tenant mismatch: JWT tenant_id ({jwtTenantId.display}) does not match approval request " ++
    s!"tenant_id ({tenantId.display})"

/-- The time that a call of a handler reads, and the failures that it meets. -/
structure ApprovalMutationRun where
  now : DateTime
  getFault : Option IntentRebaseError
  beginFault : Option String
  txUpdateFault : Option String
  txFetchFault : Option String
  commitFault : Option (Fault String)
  updateFault : Option (Fault IntentRebaseError)

def ApprovalMutationRun.quiet (now : DateTime) : ApprovalMutationRun where
  now := now
  getFault := none
  beginFault := none
  txUpdateFault := none
  txFetchFault := none
  commitFault := none
  updateFault := none

/-- What a handler asks of the repository, on its own and in a transaction of a tenant, and the word
for it in an error. -/
structure ApprovalMutation where
  word : String
  plain : ApprovalStorage → Except IntentRebaseError ApprovalRequest × ApprovalStorage
  withTx : Uuid → Transaction SqlxApprovalRequestRepository →
    Except IntentRebaseError ApprovalRequest × Transaction SqlxApprovalRequestRepository

section Handlers

variable (rlsPool : Bool) (run : ApprovalMutationRun) (claims : Option RlsTenantClaims)
  (approvalRequestId : Uuid)

/-- The error of a transaction that failed. -/
def approvalMutationFailure (word : String) : RlsFailure → IntentRebaseError
  | .notBegun e => .internal s!"failed to begin RLS transaction: {e}"
  | .refused e => .storageError s!"RLS {word} status update failed: {e.display}"
  | .notCommitted e => .storageError s!"failed to commit RLS transaction: {e}"

/-- The update without a transaction. -/
def ApprovalMutation.runPlain (mutation : ApprovalMutation) :
    Effect ApprovalStorage IntentRebaseError ApprovalRequest := fun s =>
  Fault.meet run.updateFault s (mutation.plain s)

/-- The update in a transaction of the tenant. A repository in memory has none: the transaction is
begun, and the update made without it. -/
def ApprovalMutation.runWithTx (mutation : ApprovalMutation) (tenantId : Uuid) :
    Effect ApprovalStorage IntentRebaseError ApprovalRequest := fun s =>
  match s with
  | .sqlx repo =>
    match inTenant tenantId run.beginFault run.commitFault (mutation.withTx tenantId) repo with
    | (.ok updated, repo) => (.ok updated, .sqlx repo)
    | (.error e, repo) => (.error (approvalMutationFailure mutation.word e), .sqlx repo)
  | .inMemory _ =>
    match validateTenantIdForRls tenantId, run.beginFault with
    | .error e, _ => (.error (approvalMutationFailure mutation.word (.notBegun e)), s)
    | .ok _, some e => (.error (approvalMutationFailure mutation.word (.notBegun e)), s)
    | .ok _, none => (mutation.runPlain run).on s

/-- The update of a request that was read: in a transaction where there are claims and a pool. -/
def ApprovalMutation.update (mutation : ApprovalMutation) (approvalRequest : ApprovalRequest) :
    Effect ApprovalStorage IntentRebaseError ApprovalRequest :=
  match claims with
  | some rlsClaims =>
    if rlsPool then
      if approvalRequest.tenantId ≠ rlsClaims.tenantId then
        throw (.unauthorized (approvalTenantMismatch rlsClaims.tenantId approvalRequest.tenantId))
      else mutation.runWithTx run rlsClaims.tenantId
    else mutation.runPlain run
  | none => mutation.runPlain run

/-- The read of the request, which may fail. -/
def readApprovalRequest (s : ApprovalStorage) : Except IntentRebaseError ApprovalRequest :=
  match run.getFault with
  | some e => .error e
  | none => s.getApprovalRequest approvalRequestId

/-- The handler of a mutation. -/
def ApprovalMutation.handle (mutation : ApprovalMutation) :
    Effect ApprovalStorage IntentRebaseError ApprovalRequestResponse := do
  let s ← get
  let approvalRequest ← readApprovalRequest run approvalRequestId s
  let updated ← mutation.update rlsPool run claims approvalRequest
  return approvalRequestResponse updated

/-- A change to a status by an actor. -/
def statusMutation (word : String) (status : ApprovalRequestStatus) (actorId : String)
    (resolutionNotes : Option String) : ApprovalMutation where
  word := word
  plain s := s.updateApprovalRequestStatus run.now approvalRequestId status actorId resolutionNotes
  withTx tenantId := SqlxApprovalRequestRepository.updateStatusWithTx tenantId run.txUpdateFault
    run.txFetchFault run.now approvalRequestId status actorId resolutionNotes

def expiryMutation (actorId reason : String) : ApprovalMutation where
  word := "expiry"
  plain s := s.markExpired run.now approvalRequestId actorId reason
  withTx tenantId := SqlxApprovalRequestRepository.markExpiredWithTx tenantId run.txUpdateFault
    run.txFetchFault run.now approvalRequestId actorId reason

def approveApprovalRequest (resolutionNotes : Option String) :
    Effect ApprovalStorage IntentRebaseError ApprovalRequestResponse :=
  (statusMutation run approvalRequestId "approval" .approved "external-api/approver"
    resolutionNotes).handle rlsPool run claims approvalRequestId

def rejectApprovalRequest (resolutionNotes : Option String) :
    Effect ApprovalStorage IntentRebaseError ApprovalRequestResponse :=
  (statusMutation run approvalRequestId "rejection" .rejected "external-api/rejector"
    resolutionNotes).handle rlsPool run claims approvalRequestId

def expireApprovalRequest (reason : Option String) :
    Effect ApprovalStorage IntentRebaseError ApprovalRequestResponse :=
  (expiryMutation run approvalRequestId "system/expire"
    (reason.getD "Approval time limit exceeded")).handle rlsPool run claims approvalRequestId

end Handlers

section Mutations

/-- A mutation resolves the request under the identifier while it is pending: in a transaction, if
it is one of the tenant's. -/
structure ApprovalMutation.Resolves (mutation : ApprovalMutation) (id : Uuid)
    (set : ApprovalRequest → ApprovalRequest) : Prop where
  plain : ∀ s, (mutation.plain s).2 = s.update (ApprovalStorage.pendingAt id) set
  withTx : ∀ tenantId repo updated tx,
    mutation.withTx tenantId (.start repo) = (.ok updated, tx) →
      tx.work.rows = updateWhere repo.rows
        (fun k row => row.tenantId = tenantId && ApprovalStorage.pendingAt id k row) set
  tenant : ∀ request, (set request).tenantId = request.tenantId
  resolved : ∀ request, (set request).status ≠ .pending

variable {tenantId : Uuid} {tx tx' : Transaction SqlxApprovalRequestRepository} {id : Uuid}

/-- A read in a transaction writes nothing. -/
theorem getApprovalRequestWithTx_ok {fault : Option String} {request : ApprovalRequest}
    (h : SqlxApprovalRequestRepository.getApprovalRequestWithTx tenantId fault id tx =
      (.ok request, tx')) : tx'.work = tx.work := by
  unfold SqlxApprovalRequestRepository.getApprovalRequestWithTx at h
  split at h
  · next hstatement =>
    cases h
    obtain ⟨-, -, hrun, -⟩ := Transaction.statement_ok hstatement
    exact (congrArg Prod.snd (Except.ok.inj hrun)).symm
  · cases h
  · cases h

theorem statusMutation_resolves (run : ApprovalMutationRun) (id : Uuid) (word : String)
    {status : ApprovalRequestStatus} (hstatus : status ≠ .pending) (actorId : String)
    (notes : Option String) :
    (statusMutation run id word status actorId notes).Resolves id
      (ApprovalRequest.resolve status run.now actorId notes) where
  plain s := s.updateApprovalRequestStatus_state run.now id status actorId notes
  withTx tenantId repo updated tx h := by
    change SqlxApprovalRequestRepository.updateStatusWithTx _ _ _ _ _ _ _ _ _ = _ at h
    unfold SqlxApprovalRequestRepository.updateStatusWithTx at h
    split at h
    · next hupdate =>
      split at h
      · cases h
      · rw [getApprovalRequestWithTx_ok h]
        exact (SqlxApprovalRequestRepository.updateWithTx_ok hupdate).2.2.2.2
    · cases h
  tenant _ := rfl
  resolved _ := hstatus

theorem expiryMutation_resolves (run : ApprovalMutationRun) (id : Uuid) (actorId reason : String) :
    (expiryMutation run id actorId reason).Resolves id
      (ApprovalRequest.resolve .expired run.now actorId (some reason)) where
  plain s := s.markExpired_state run.now id actorId reason
  withTx tenantId repo updated tx h := by
    change SqlxApprovalRequestRepository.markExpiredWithTx _ _ _ _ _ _ _ _ = _ at h
    unfold SqlxApprovalRequestRepository.markExpiredWithTx at h
    split at h
    · next hupdate =>
      split at h
      · split at h <;> cases h
      · rw [getApprovalRequestWithTx_ok h]
        exact (SqlxApprovalRequestRepository.updateWithTx_ok hupdate).2.2.2.2
    · cases h
  tenant _ := rfl
  resolved _ := by rw [ApprovalRequest.resolve_status]; decide

end Mutations

section Isolation

variable {rlsPool : Bool} {run : ApprovalMutationRun} {rlsClaims : RlsTenantClaims} {id : Uuid}
  {mutation : ApprovalMutation} {set : ApprovalRequest → ApprovalRequest} {s : ApprovalStorage}

theorem ApprovalStorage.getApprovalRequest_ok {request : ApprovalRequest} :
    s.getApprovalRequest id = .ok request ↔ s.requests.lookup id = some request := by
  cases s with
  | inMemory repo =>
    rw [getApprovalRequest, InMemoryApprovalRequestRepository.getApprovalRequest, requests]
    cases repo.requests.lookup id <;> simp
  | sqlx repo =>
    rw [getApprovalRequest, SqlxApprovalRequestRepository.getApprovalRequest, requests]
    cases repo.rows.lookup id <;> simp

theorem readApprovalRequest_ok {request : ApprovalRequest}
    (h : readApprovalRequest run id s = .ok request) :
    run.getFault = none ∧ s.requests.lookup id = some request := by
  unfold readApprovalRequest at h
  split at h
  · cases h
  · next hget => exact ⟨hget, ApprovalStorage.getApprovalRequest_ok.mp h⟩

/-- Without a pool, a call reaches the pending request of another tenant. -/
def ResolvesForeign (rlsPool : Bool) (run : ApprovalMutationRun) (tenantId id : Uuid)
    (s : ApprovalStorage) : Prop :=
  rlsPool = false ∧ run.getFault = none ∧ (∀ e, run.updateFault ≠ some (.before e)) ∧
    ∃ request, s.requests.lookup id = some request ∧ request.status = .pending ∧
      request.tenantId ≠ tenantId

/-- An update of the pending request under an identifier changes the tenant's requests only, unless
it is one of another tenant. -/
theorem update_changesOnly_iff (hset : ∀ request, (set request).tenantId = request.tenantId)
    (hresolved : ∀ request, (set request).status ≠ .pending) (tenantId : Uuid) :
    s.ChangesOnlyOf tenantId (s.update (ApprovalStorage.pendingAt id) set) ↔
      ∀ request, s.requests.lookup id = some request → request.status = .pending →
        request.tenantId = tenantId := by
  rw [ApprovalStorage.ChangesOnlyOf, ApprovalStorage.requests_update]
  constructor
  · intro hchanges request hlookup hpending
    by_contra hforeign
    have hkept := hchanges.kept hlookup hforeign
    rw [lookup_updateWhere, hlookup, Option.map_some, if_pos (by
      simp [ApprovalStorage.pendingAt, hpending])] at hkept
    have hstill : (set request).status = .pending := by
      rw [Option.some.inj hkept, hpending]
    exact hresolved request hstill
  · intro howned
    refine .updateWhere (fun k request hlookup hselected => ?_) fun request howner => ?_
    · simp only [ApprovalStorage.pendingAt, Bool.and_eq_true, beq_iff_eq,
        decide_eq_true_eq] at hselected
      obtain ⟨rfl, hpending⟩ := hselected
      exact howned request hlookup hpending
    · rw [hset, howner]

variable (h : mutation.Resolves id set)
include h

theorem ApprovalMutation.Resolves.runPlain_changesOnly_iff (run : ApprovalMutationRun)
    (tenantId : Uuid) (s : ApprovalStorage) :
    s.ChangesOnlyOf tenantId ((mutation.runPlain run).on s).2 ↔
      ((∀ e, run.updateFault ≠ some (.before e)) → ∀ request,
        s.requests.lookup id = some request → request.status = .pending →
          request.tenantId = tenantId) := by
  have hon : (mutation.runPlain run).on s = Fault.meet run.updateFault s (mutation.plain s) := rfl
  rw [hon]
  rcases Fault.meet_state run.updateFault s (mutation.plain s) with
    ⟨e, hfault, hstate⟩ | ⟨hreached, hstate⟩
  · rw [hstate]
    exact iff_of_true (ChangesOnly.refl _ _) fun hreached => absurd hfault (hreached e)
  · rw [hstate, h.plain, update_changesOnly_iff h.tenant h.resolved]
    exact ⟨fun howned _ => howned, fun howned => howned hreached⟩

/-- In a transaction of the tenant only its requests are changed; so they are in memory, where the
request was found to be one of them. -/
theorem ApprovalMutation.Resolves.runWithTx_changesOnly (run : ApprovalMutationRun)
    {tenantId : Uuid}
    (howned : ∀ request, s.requests.lookup id = some request → request.tenantId = tenantId) :
    s.ChangesOnlyOf tenantId ((mutation.runWithTx run tenantId).on s).2 := by
  cases s with
  | inMemory repo =>
    have hplain := (h.runPlain_changesOnly_iff run tenantId (.inMemory repo)).mpr
      fun _ request hlookup _ => howned request hlookup
    change ChangesOnly _ _ (mutation.runWithTx run tenantId (.inMemory repo)).2.requests
    unfold ApprovalMutation.runWithTx
    dsimp only
    split
    · exact ChangesOnly.refl _ _
    · exact ChangesOnly.refl _ _
    · exact hplain
  | sqlx repo =>
    have hstate := inTenant_state tenantId run.beginFault run.commitFault
      (mutation.withTx tenantId) repo
    have hchanges : ChangesOnly (fun request : ApprovalRequest => request.tenantId = tenantId)
        repo.rows (inTenant tenantId run.beginFault run.commitFault (mutation.withTx tenantId)
          repo).2.rows := by
      rcases hstate with hsame | ⟨updated, tx, hbody, -, hwork⟩
      · rw [hsame]
        exact .refl _ _
      · rw [hwork, h.withTx tenantId repo updated tx hbody]
        refine .updateWhere (fun k row _ hselected => ?_) fun request howner => ?_
        · rw [Bool.and_eq_true, decide_eq_true_eq] at hselected
          exact hselected.1
        · rw [h.tenant, howner]
    change ChangesOnly _ _ (mutation.runWithTx run tenantId (.sqlx repo)).2.requests
    unfold ApprovalMutation.runWithTx
    dsimp only
    split <;> next hrun =>
      rw [hrun] at hchanges
      exact hchanges

/-- A call with claims changes the requests of their tenant only, except where without a pool it
reaches the pending request of another one. -/
theorem ApprovalMutation.Resolves.handle_changesOnly_iff (rlsPool : Bool)
    (run : ApprovalMutationRun) (rlsClaims : RlsTenantClaims) (s : ApprovalStorage) :
    s.ChangesOnlyOf rlsClaims.tenantId
        ((mutation.handle rlsPool run (some rlsClaims) id).on s).2 ↔
      ¬ ResolvesForeign rlsPool run rlsClaims.tenantId id s := by
  rw [ApprovalMutation.handle, Effect.on_bind_ok (Effect.on_get s), Effect.on_bind, Effect.on_lift]
  cases hread : readApprovalRequest run id s with
  | error e =>
    refine iff_of_true (ChangesOnly.refl _ _) ?_
    rintro ⟨-, hget, -, request, hlookup, -⟩
    rw [readApprovalRequest, hget] at hread
    cases hread.symm.trans (ApprovalStorage.getApprovalRequest_ok.mpr hlookup)
  | ok request =>
    obtain ⟨hget, hlookup⟩ := readApprovalRequest_ok hread
    dsimp only
    rw [Effect.on_bind_pure_snd, ApprovalMutation.update]
    cases rlsPool with
    | false =>
      rw [if_neg Bool.false_ne_true, h.runPlain_changesOnly_iff]
      simp [ResolvesForeign, hget, hlookup]
    | true =>
      rw [if_pos rfl]
      refine iff_of_true ?_ fun hforeign => (by cases hforeign.1)
      split
      · exact ChangesOnly.refl _ _
      · next htenant =>
        refine h.runWithTx_changesOnly run fun stored hstored => ?_
        cases hlookup.symm.trans hstored
        exact not_not.mp htenant

end Isolation

end IntentRebase
