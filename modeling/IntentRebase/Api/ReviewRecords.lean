import IntentRebase.Api.BlockedApply
import IntentRebase.Api.TriggerReapproval

/-! What is left of a request for an approval when calls fail: a blocked apply adds at most its own
pending request, and a reapproval that is answered as created has stored its request. -/

namespace IntentRebase

open Kit

/-- The request is added or not, and approved ones of its tenant may be cancelled. -/
def Asked (new : ApprovalRequest) (before after : HashMap Uuid ApprovalRequest) : Prop :=
  MayCancel (ApprovalStorage.ApprovedOf new.tenantId) before after ∨
    MayCancel (ApprovalStorage.ApprovedOf new.tenantId) (before.insert new.id new) after

namespace Asked

variable {new : ApprovalRequest} {before after : HashMap Uuid ApprovalRequest}

/-- A request that is there afterwards and was not before is the new one. -/
theorem added (h : Asked new before after) {id : Uuid} {request : ApprovalRequest}
    (hbefore : before.lookup id = none) (hafter : after.lookup id = some request)
    (hpending : new.status = .pending) : id = new.id ∧ request = new := by
  rcases h with h | h
  · cases hafter.symm.trans (h.absent hbefore)
  · by_cases hid : id = new.id
    · subst hid
      have hkept := h.kept (AList.lookup_insert _) fun happroved => by
        cases hpending.symm.trans happroved.2
      exact ⟨rfl, Option.some.inj (hafter.symm.trans hkept)⟩
    · have hnone : (before.insert new.id new).lookup id = none := by
        rw [AList.lookup_insert_ne hid, hbefore]
      cases hafter.symm.trans (h.absent hnone)

end Asked

section Plain

variable (parseStr : String → Except String Uuid) (faults : ApprovalFaults) (draws : ApprovalDraws)
  (plan : RebasePlan) (intentId tenantId : Uuid)

theorem approvedOf_approved (request : ApprovalRequest)
    (h : ApprovalStorage.ApprovedOf tenantId request) : request.status = .approved := h.2

/-- Whichever of them fail, the cancellations cancel approved requests of the tenant. -/
theorem cancelAfter_mayCancel (created : ApprovalRequest) (s : ApprovalStorage) :
    MayCancel (ApprovalStorage.ApprovedOf tenantId) s.requests
      (cancelAfter parseStr faults draws plan intentId tenantId created s).requests := by
  have hflat (s : ApprovalStorage) := cancelExistingApprovedAndAudit_mayCancel faults.flatFault
    draws.flatAt s intentId tenantId rebaseApplyActor created.id
  rw [cancelAfter]
  split
  · split
    · exact hflat s
    · dsimp only
      split
      · split
        · refine (cancelSpecificApprovedAndAudit_mayCancel faults.targetedFault draws.targetedAt s
            parseStr _ ⟨intentId, tenantId, rebaseApplyActor, created.id⟩).trans (hflat _)
            (approvedOf_approved tenantId)
        · exact cancelSpecificApprovedAndAudit_mayCancel faults.targetedFault draws.targetedAt s
            parseStr _ ⟨intentId, tenantId, rebaseApplyActor, created.id⟩
      · exact hflat s
  · exact hflat s

variable {request : ApprovalRequest} (htenant : request.tenantId = tenantId)
include htenant

/-- A creation that is reached stores the request, also where its answer is lost. -/
theorem createAndCancel_stores {s s' : ApprovalStorage} {created : ApprovalRequest}
    (hcreate : s.createApprovalRequest request = (.ok created, s'))
    (hreached : ∀ e, faults.createFault ≠ some (.before e)) :
    MayCancel (ApprovalStorage.ApprovedOf request.tenantId)
      (s.requests.insert request.id request)
      (createAndCancel parseStr faults draws plan intentId tenantId request s).requests := by
  obtain ⟨rfl, hrequests⟩ := ApprovalStorage.createApprovalRequest_ok hcreate
  rw [← hrequests, createAndCancel, hcreate, htenant]
  cases hfault : faults.createFault with
  | none => exact cancelAfter_mayCancel parseStr faults draws plan intentId tenantId created s'
  | some fault =>
    cases fault with
    | before e => exact absurd hfault (hreached e)
    | after e => exact .refl _ _

omit htenant in
/-- A creation that is not reached or refused leaves the storage. -/
theorem createAndCancel_refused {s : ApprovalStorage}
    (h : (∃ e, faults.createFault = some (.before e)) ∨
      ∃ e, s.createApprovalRequest request = (.error e, s)) :
    createAndCancel parseStr faults draws plan intentId tenantId request s = s := by
  rcases h with ⟨e, hfault⟩ | ⟨e, hcreate⟩
  · rw [createAndCancel, hfault]
    rfl
  · rw [createAndCancel, hcreate]
    cases faults.createFault with
    | none => rfl
    | some fault => cases fault <;> rfl

theorem createAndCancel_asked (s : ApprovalStorage) : Asked request s.requests
    (createAndCancel parseStr faults draws plan intentId tenantId request s).requests := by
  by_cases hreached : ∀ e, faults.createFault ≠ some (.before e)
  · rcases s.createApprovalRequest_cases request with ⟨s', hcreate⟩ | ⟨e, hcreate⟩
    · exact .inr (createAndCancel_stores parseStr faults draws plan intentId tenantId htenant
        hcreate hreached)
    · rw [createAndCancel_refused parseStr faults draws plan intentId tenantId (.inr ⟨e, hcreate⟩)]
      exact .inl (.refl _ _)
  · simp only [ne_eq, not_forall, not_not] at hreached
    rw [createAndCancel_refused parseStr faults draws plan intentId tenantId (.inl hreached)]
    exact .inl (.refl _ _)

end Plain

section InTransaction

variable (parseStr : String → Except String Uuid) (faults : ApprovalFaults) (draws : ApprovalDraws)
  (plan : RebasePlan) (intentId tenantId rlsTenantId : Uuid) (cancellationReason : String)
  (repo : SqlxApprovalRequestRepository) (tx : Transaction SqlxApprovalRequestRepository)

theorem flatCancelWithTx_work :
    (flatCancelWithTx faults draws intentId tenantId rlsTenantId cancellationReason tx).2 =
      (SqlxApprovalRequestRepository.cancelApprovedByIntentWithTx rlsTenantId faults.txFlatFault
        draws.txFlatAt intentId tenantId rebaseApplyActor cancellationReason tx).2 := by
  rw [flatCancelWithTx]
  split <;> next h => rw [h]

/-- What a cancellation in a transaction does with any failures: it cancels approved requests of the
tenant, and if its statements do not fail, the transaction stays open. -/
structure TxCancels (before after : Transaction SqlxApprovalRequestRepository) : Prop where
  cancelled : MayCancel (ApprovalStorage.ApprovedOf tenantId) before.work.rows after.work.rows
  opened : faults.txTargetedFault = none → faults.txFlatFault = none → before.aborted = false →
    after.aborted = false

theorem flatCancelWithTx_any : TxCancels faults tenantId tx
    (flatCancelWithTx faults draws intentId tenantId rlsTenantId cancellationReason tx).2 := by
  rw [flatCancelWithTx_work]
  refine ⟨?_, fun _ hfault hopen => ?_⟩
  · refine SqlxApprovalRequestRepository.updateWithTx_mayCancel _ _ _ _ _ (fun id row h => ?_) tx
    exact (of_decide_eq_true h).2
  · rw [hfault]
    exact SqlxApprovalRequestRepository.updateWithTx_open _ hopen _ _ _

theorem cancelByIdsWithTx_any (now : DateTime) (ids : List Uuid) :
    TxCancels faults tenantId tx
      (SqlxApprovalRequestRepository.cancelApprovedByIdsWithTx rlsTenantId
        faults.txTargetedFault now ids tenantId rebaseApplyActor cancellationReason tx).2 := by
  rw [SqlxApprovalRequestRepository.cancelApprovedByIdsWithTx]
  split
  · exact ⟨.refl _ _, fun _ _ hopen => hopen⟩
  · refine ⟨?_, fun hfault _ hopen => ?_⟩
    · refine SqlxApprovalRequestRepository.updateWithTx_mayCancel _ _ _ _ _ (fun id row h => ?_) tx
      exact (of_decide_eq_true h).2
    · rw [hfault]
      exact SqlxApprovalRequestRepository.updateWithTx_open _ hopen _ _ _

variable {faults tenantId} in
theorem TxCancels.trans {tx tx₁ tx₂ : Transaction SqlxApprovalRequestRepository}
    (h₁ : TxCancels faults tenantId tx tx₁) (h₂ : TxCancels faults tenantId tx₁ tx₂) :
    TxCancels faults tenantId tx tx₂ :=
  ⟨h₁.cancelled.trans h₂.cancelled fun _ h => h.2,
    fun htargeted hflat hopen => h₂.opened htargeted hflat (h₁.opened htargeted hflat hopen)⟩

theorem cancelWithTx_any : TxCancels faults tenantId tx
    (cancelWithTx parseStr faults draws plan intentId tenantId rlsTenantId cancellationReason repo
      tx).2 := by
  have hflat (tx : Transaction SqlxApprovalRequestRepository) :=
    flatCancelWithTx_any faults draws intentId tenantId rlsTenantId cancellationReason tx
  have htargeted (ids : List Uuid) := cancelByIdsWithTx_any faults tenantId rlsTenantId
    cancellationReason tx draws.txTargetedAt ids
  rw [cancelWithTx]
  dsimp only
  split
  · split
    · exact hflat tx
    · split
      · split
        · generalize parseIds parseStr _ = ids
          have hids := htargeted ids
          split
          · next hanswer =>
            rw [hanswer] at hids
            split
            · exact hids.trans (hflat _)
            · exact hids
          · next hanswer =>
            rw [hanswer] at hids
            exact hids.trans (hflat _)
        · exact hflat tx
      · exact hflat tx
  · exact hflat tx

variable {parseStr faults draws plan intentId tenantId rlsTenantId repo tx}
  {request : ApprovalRequest}

/-- A transaction that has created the request has inserted it, and may have cancelled approved
ones; it is open if no cancellation has failed. -/
theorem createAndCancelWithTx_ok {answer : ApprovalRequest × Nat}
    (htenant : request.tenantId = tenantId)
    (h : createAndCancelWithTx parseStr faults draws plan intentId tenantId rlsTenantId request repo
      (.start repo) = (.ok answer, tx)) :
    MayCancel (ApprovalStorage.ApprovedOf request.tenantId)
      (repo.rows.insert request.id request) tx.work.rows ∧
    (faults.txTargetedFault = none → faults.txFlatFault = none → tx.aborted = false) := by
  unfold createAndCancelWithTx at h
  split at h
  · cases h
  next created tx₁ hcreate =>
    dsimp only at h
    obtain ⟨-, hopen, -, hrows⟩ :=
      SqlxApprovalRequestRepository.createApprovalRequestWithTx_ok hcreate
    have hcancels := cancelWithTx_any parseStr faults draws plan intentId tenantId rlsTenantId
      s!"Superseded by new approval request {created.id.display} due to rebase apply" repo tx₁
    have htx : (cancelWithTx parseStr faults draws plan intentId tenantId rlsTenantId
        s!"Superseded by new approval request {created.id.display} due to rebase apply" repo
        tx₁).2 = tx := congrArg Prod.snd h
    rw [htx] at hcancels
    rw [htenant, ← show tx₁.work.rows = repo.rows.insert request.id request from hrows]
    exact ⟨hcancels.cancelled, fun htargeted hflat => hcancels.opened htargeted hflat hopen⟩

/-- In a transaction of its tenant, a request under a new identifier is created, if that meets no
failure. -/
theorem createAndCancelWithTx_run (hfault : faults.txCreateFault = none)
    (htenant : request.tenantId = rlsTenantId) (hfresh : repo.rows.lookup request.id = none) :
    ∃ answer tx, createAndCancelWithTx parseStr faults draws plan intentId tenantId rlsTenantId
      request repo (.start repo) = (.ok answer, tx) := by
  have hstart : (Transaction.start repo).aborted = false := rfl
  obtain ⟨tx, hcreate⟩ := SqlxApprovalRequestRepository.createApprovalRequestWithTx_run hstart
    htenant hfresh
  rw [createAndCancelWithTx, hfault, hcreate]
  exact ⟨_, _, rfl⟩

end InTransaction

section Review

variable (parseStr : String → Except String Uuid) (faults : ApprovalFaults) (draws : ApprovalDraws)
  (plan : RebasePlan) (intentId tenantId : Uuid) (rlsPool : Bool)
  (claims : Option RlsTenantClaims) {request : ApprovalRequest}
  (htenant : request.tenantId = tenantId) (hpending : request.status = .pending)
include hpending

theorem stored_of_mayCancel {before after : HashMap Uuid ApprovalRequest}
    (h : MayCancel (ApprovalStorage.ApprovedOf request.tenantId)
      (before.insert request.id request) after) : after.lookup request.id = some request :=
  h.kept (AList.lookup_insert _) fun happroved => by cases hpending.symm.trans happroved.2

omit hpending in
/-- A request that a transaction has stored is not stored again. -/
theorem createAndCancel_again {repo : SqlxApprovalRequestRepository}
    (hstored : repo.rows.lookup request.id = some request) :
    createAndCancel parseStr faults draws plan intentId tenantId request (.sqlx repo) =
      .sqlx repo := by
  have hrefused : (ApprovalStorage.sqlx repo).createApprovalRequest request =
      (.error (.storageError
        "insert approval request: duplicate key value violates unique constraint"),
        .sqlx repo) := by
    rw [ApprovalStorage.createApprovalRequest, SqlxApprovalRequestRepository.insertRequest, hstored]
    rfl
  exact createAndCancel_refused parseStr faults draws plan intentId tenantId (.inr ⟨_, hrefused⟩)

include htenant

/-- Whichever calls fail, a review adds at most its own request and cancels only approved requests
of its tenant. -/
theorem requestReview_asked (s : ApprovalStorage) : Asked request s.requests
    (requestReview parseStr faults draws plan intentId tenantId rlsPool claims request
      s).requests := by
  have hplain (s : ApprovalStorage) :=
    createAndCancel_asked parseStr faults draws plan intentId tenantId htenant s
  unfold requestReview
  split
  · next rlsClaims repo =>
    split
    · have hstate := inTenant_state rlsClaims.tenantId faults.beginFault faults.commitFault
        (createAndCancelWithTx parseStr faults draws plan intentId tenantId rlsClaims.tenantId
          request repo) repo
      split
      · next answer repo' hrun =>
        rw [hrun] at hstate
        rcases hstate with rfl | ⟨answer, tx, hbody, hopen, rfl⟩
        · exact .inl (.refl _ _)
        · exact .inr (createAndCancelWithTx_ok htenant hbody).1
      · next e repo' hrun =>
        rw [hrun] at hstate
        rcases hstate with rfl | ⟨answer, tx, hbody, hopen, rfl⟩
        · exact hplain _
        · have hcancels := (createAndCancelWithTx_ok htenant hbody).1
          dsimp only
          rw [createAndCancel_again parseStr faults draws plan intentId tenantId
            (stored_of_mayCancel hpending hcancels)]
          exact .inr hcancels
    · exact hplain _
  · exact hplain _

omit htenant hpending in
/-- Without a pool, a review is asked for on a best-effort basis. -/
theorem requestReview_withoutPool (s : ApprovalStorage) :
    requestReview parseStr faults draws plan intentId tenantId false claims request s =
      createAndCancel parseStr faults draws plan intentId tenantId request s := by
  unfold requestReview
  split <;> rfl

/-- One of the two creations of a review is reached and not undone: the plain one, or the one in a
transaction that begins and whose commit is reached. -/
def CreationReached (faults : ApprovalFaults) (rlsPool : Bool) (claims : Option RlsTenantClaims)
    (s : ApprovalStorage) : Prop :=
  (∀ e, faults.createFault ≠ some (.before e)) ∨
    (UsesTransaction rlsPool claims s ∧ faults.beginFault = none ∧ faults.txCreateFault = none ∧
      ∀ e, faults.commitFault ≠ some (.before e))

variable {parseStr faults draws plan intentId tenantId rlsPool claims}

/-- If a creation is reached, and no cancellation in a transaction fails, the request is stored. -/
theorem requestReview_stores
    (hclaims : ∀ rlsClaims, claims = some rlsClaims → rlsClaims.tenantId = tenantId)
    {s : ApprovalStorage} (hfresh : s.requests.lookup request.id = none)
    (htargeted : faults.txTargetedFault = none) (hflat : faults.txFlatFault = none)
    (hreached : CreationReached faults rlsPool claims s) :
    (requestReview parseStr faults draws plan intentId tenantId rlsPool claims request
      s).requests.lookup request.id = some request := by
  have hplain (hplainReached : ∀ e, faults.createFault ≠ some (.before e)) :
      (createAndCancel parseStr faults draws plan intentId tenantId request s).requests.lookup
        request.id = some request := by
    obtain ⟨s', hcreate⟩ := ApprovalStorage.createApprovalRequest_fresh hfresh
    exact stored_of_mayCancel hpending (createAndCancel_stores parseStr faults draws plan intentId
      tenantId htenant hcreate hplainReached)
  unfold requestReview
  split
  · next rlsClaims repo =>
    split
    · have hstate := inTenant_state rlsClaims.tenantId faults.beginFault faults.commitFault
        (createAndCancelWithTx parseStr faults draws plan intentId tenantId rlsClaims.tenantId
          request repo) repo
      have hstored {answer : ApprovalRequest × Nat} {tx : Transaction SqlxApprovalRequestRepository}
          (hbody : createAndCancelWithTx parseStr faults draws plan intentId tenantId
            rlsClaims.tenantId request repo (.start repo) = (.ok answer, tx)) :=
        stored_of_mayCancel hpending (createAndCancelWithTx_ok htenant hbody).1
      split
      · next answer repo' hrun =>
        obtain ⟨-, -, tx, hbody, rfl⟩ := inTenant_ok hrun
        have hopen := (createAndCancelWithTx_ok htenant hbody).2 htargeted hflat
        have hwork : tx.committed repo = tx.work := if_neg (by simp [hopen])
        rw [hwork]
        exact hstored hbody
      · next e repo' hrun =>
        rw [hrun] at hstate
        dsimp only
        rcases hstate with rfl | ⟨answer, tx, hbody, hopen, rfl⟩
        · refine hplain (hreached.resolve_right fun ⟨_, hbegin, hcreate, hcommit⟩ => ?_)
          -- A transaction that begins and reaches its commit does not leave the table as it was.
          obtain ⟨answer, tx, hbody⟩ := createAndCancelWithTx_run hcreate
            (htenant.trans (hclaims rlsClaims rfl).symm) hfresh
          have hopen := (createAndCancelWithTx_ok htenant hbody).2 htargeted hflat
          have hkept := inTenant_reached rlsClaims.notNil hbody hopen hcommit
          rw [← hbegin, hrun] at hkept
          have hpresent := hstored hbody
          rw [← show _ = tx.work from hkept] at hpresent
          cases hfresh.symm.trans hpresent
        · rw [createAndCancel_again parseStr faults draws plan intentId tenantId (hstored hbody)]
          exact hstored hbody
    · next hpool =>
      exact hplain (hreached.resolve_right fun h => hpool h.1.1)
  · next hnot =>
    refine hplain (hreached.resolve_right fun ⟨⟨_, hsome, hsqlx⟩, _⟩ => ?_)
    obtain ⟨rlsClaims, rfl⟩ := Option.isSome_iff_exists.mp hsome
    cases s with
    | inMemory repo => cases hsqlx
    | sqlx repo => exact hnot rlsClaims repo rfl rfl

end Review

/-- A pending request for the approval of a version pair of an intent. -/
structure PendingFor (intentId : Uuid) (fromVersion toVersion : Int) (request : ApprovalRequest) :
    Prop where
  pending : request.status = .pending
  intent : request.intentId = intentId
  fromVersion : request.intentVersionFrom = fromVersion
  toVersion : request.intentVersionTo = toVersion

/-- The tenant of an intent, as its head in the service names it. -/
def TenantOf (service : IntentStore) (intentId tenantId : Uuid) : Prop :=
  ∃ intentHead, service.getIntentHead intentId = .ok intentHead ∧
    intentHead.intent.tenantId = tenantId

section Work

variable {γ ρ : Type}

theorem rebaseApply_leaves_work {parseStr : String → Except String Uuid}
    {state : RebaseApplyState γ ρ} {run : RebaseApplyRun} {intentId : Uuid} {request : DiffRequest}
    {claims : Option RlsTenantClaims} {w w' : RebaseApplyWorld γ ρ} {response : RebaseApplyResponse}
    (hfresh : w.approvals.requests.lookup run.draws.id = none)
    (h : (rebaseApply parseStr state run intentId request claims).on w =
      (.ok (.accepted, response), w')) :
    ∃ new, PendingFor intentId request.fromVersion request.toVersion new ∧
      TenantOf state.service intentId new.tenantId ∧ new.id = run.draws.id ∧
      (∀ id stored, w.approvals.requests.lookup id = none →
        w'.approvals.requests.lookup id = some stored → id = new.id ∧ stored = new) ∧
      (run.approvalFaults.txTargetedFault = none → run.approvalFaults.txFlatFault = none →
        CreationReached run.approvalFaults state.rlsPool claims w.approvals →
        w'.approvals.requests.lookup new.id = some new) := by
  obtain ⟨intentHead, fromVersion, toVersion, plan, applyResult, hplanned, happrovals⟩ :=
    rebaseApply_accepted h
  rw [happrovals]
  refine ⟨reviewRequest run intentId request intentHead.intent plan applyResult,
    ⟨rfl, rfl, rfl, rfl⟩, ⟨intentHead, hplanned.head, rfl⟩, rfl,
    fun id stored hbefore hafter => ?_, fun htargeted hflat hreached => ?_⟩
  · exact (requestReview_asked parseStr run.approvalFaults run.draws plan intentId _ state.rlsPool
      claims rfl rfl w.approvals).added hbefore hafter rfl
  · exact requestReview_stores rfl rfl hplanned.tenant hfresh htargeted hflat hreached

theorem triggerReapproval_leaves_work {state : TriggerReapprovalState} {run : TriggerReapprovalRun}
    {request : TriggerReapprovalRequest} {claims : Option RlsTenantClaims} {s s' : ApprovalStorage}
    {answer : StatusCode × TriggerReapprovalResponse}
    (h : (triggerReapproval state run request claims).on s = (.ok answer, s')) :
    answer.1 = .created ∧
    ∃ new, PendingFor request.intentId request.originalVersionFrom request.currentVersionTo new ∧
      TenantOf state.service request.intentId new.tenantId ∧
      new.id = answer.2.approvalRequestId ∧ s'.requests.lookup new.id = some new ∧
      (run.cancelFault = none ∨ UsesTransaction state.rlsPool claims s →
        NoneApproved request.intentId new.tenantId s'.requests) := by
  obtain ⟨intentHead, hhead, rfl, hreapproved⟩ := triggerReapproval_ok h
  exact ⟨rfl, reapprovalRequest run request intentHead.intent, ⟨rfl, rfl, rfl, rfl⟩,
    ⟨intentHead, (reapprovalHead_ok hhead).1, rfl⟩, rfl, hreapproved.stored rfl,
    hreapproved.noneApproved⟩

variable (γ ρ) in
/-- Whichever calls fail, a blocked apply adds at most its own pending request, of the intent's
tenant, and has stored it if a creation is reached and no cancellation in a transaction fails. A
reapproval that is answered as created has stored its pending request, and has left no approved
request of the intent in its tenant unless a cancellation outside a transaction has failed. -/
theorem reviews_leave_work :
    (∀ (parseStr : String → Except String Uuid) (state : RebaseApplyState γ ρ)
        (run : RebaseApplyRun) (intentId : Uuid) (request : DiffRequest)
        (claims : Option RlsTenantClaims) (w w' : RebaseApplyWorld γ ρ)
        (response : RebaseApplyResponse),
      w.approvals.requests.lookup run.draws.id = none →
      (rebaseApply parseStr state run intentId request claims).on w =
        (.ok (.accepted, response), w') →
      ∃ new, PendingFor intentId request.fromVersion request.toVersion new ∧
        TenantOf state.service intentId new.tenantId ∧ new.id = run.draws.id ∧
        (∀ id stored, w.approvals.requests.lookup id = none →
          w'.approvals.requests.lookup id = some stored → id = new.id ∧ stored = new) ∧
        (run.approvalFaults.txTargetedFault = none → run.approvalFaults.txFlatFault = none →
          CreationReached run.approvalFaults state.rlsPool claims w.approvals →
          w'.approvals.requests.lookup new.id = some new)) ∧
    ∀ (state : TriggerReapprovalState) (run : TriggerReapprovalRun)
        (request : TriggerReapprovalRequest) (claims : Option RlsTenantClaims)
        (s s' : ApprovalStorage) (answer : StatusCode × TriggerReapprovalResponse),
      (triggerReapproval state run request claims).on s = (.ok answer, s') →
      answer.1 = .created ∧
      ∃ new, PendingFor request.intentId request.originalVersionFrom request.currentVersionTo new ∧
        TenantOf state.service request.intentId new.tenantId ∧
        new.id = answer.2.approvalRequestId ∧ s'.requests.lookup new.id = some new ∧
        (run.cancelFault = none ∨ UsesTransaction state.rlsPool claims s →
          NoneApproved request.intentId new.tenantId s'.requests) := by
  constructor
  · intro parseStr state run intentId request claims w w' response hfresh h
    exact rebaseApply_leaves_work hfresh h
  · intro state run request claims s s' answer h
    exact triggerReapproval_leaves_work h

section Sample

/-- A drift of the scope of intent 7. -/
def driftRequest : TriggerReapprovalRequest where
  intentId := 7
  originalVersionFrom := 1
  currentVersionTo := 2
  originalScopeHash := "a"
  currentScopeHash := "b"
  reapprovalReason := "The scope has drifted"

/-- A call that draws the identifier 30 and meets no failure. -/
def driftRun : TriggerReapprovalRun where
  id := 30
  createdAt := 4
  cancelledAt := 5
  beginFault := none
  txCreateFault := none
  txCancelFault := none
  commitFault := none
  createFault := none
  cancelFault := none

/-- A blocked apply whose transaction does not begin, and a reapproval without a pool, on a table
with two approved requests. -/
theorem reviews_leave_work_sample :
    (∃ response w' new,
      (rebaseApply readDisplayed (appliedState (retunedPlan [31]) true)
        (appliedRun { ApprovalFaults.quiet with beginFault := some "connection refused" }) 7 ⟨1, 2⟩
        (some sampleClaims)).on appliedWorld = (.ok (.accepted, response), w') ∧
      PendingFor 7 1 2 new ∧ new.tenantId = 5 ∧ w'.approvals.requests.lookup 30 = some new) ∧
    ∃ answer s' new,
      (triggerReapproval ⟨appliedService, false⟩ driftRun driftRequest none).on
        appliedWorld.approvals = (.ok answer, s') ∧
      s'.requests.lookup new.id = some new ∧ NoneApproved 7 5 s'.requests := by
  have hwork := reviews_leave_work GraphState Unit
  have htenant {tenantId : Uuid} (h : TenantOf appliedService 7 tenantId) : tenantId = 5 := by
    obtain ⟨intentHead, hhead, rfl⟩ := h
    cases hhead
    rfl
  constructor
  · obtain ⟨intentHead, fromVersion, toVersion, -, hplanned⟩ :=
      appliedState_planned (retunedPlan [31]) true appliedWorld.world.graph
    obtain ⟨reason, hblocked⟩ := appliedState_blocked [31] true
    obtain ⟨response, hrun⟩ := rebaseApply_blocked readDisplayed
      (appliedRun { ApprovalFaults.quiet with beginFault := some "connection refused" }) hplanned
      hblocked
    obtain ⟨new, hpending, howned, hid, -, hstored⟩ := hwork.1 _ _ _ _ _ _ appliedWorld _ _ rfl hrun
    have hlookup := hstored rfl rfl (.inl fun e h => by cases h)
    rw [hid] at hlookup
    exact ⟨response, _, new, hrun, hpending, htenant howned, hlookup⟩
  · obtain ⟨answer, s', hrun⟩ : ∃ answer s', (triggerReapproval ⟨appliedService, false⟩ driftRun
        driftRequest none).on appliedWorld.approvals = (.ok answer, s') := ⟨_, _, rfl⟩
    obtain ⟨-, new, -, howned, -, hstored, hnone⟩ := hwork.2 _ _ _ _ _ _ _ hrun
    exact ⟨answer, s', new, hrun, hstored, htenant howned ▸ hnone (.inl rfl)⟩

/-- Without a pool, a blocked apply whose request cannot be stored is still answered as accepted. -/
theorem rebaseApply_unrecorded :
    ¬ ∀ (parseStr : String → Except String Uuid) (state : RebaseApplyState GraphState Unit)
        (run : RebaseApplyRun) (intentId : Uuid) (request : DiffRequest)
        (claims : Option RlsTenantClaims) (w w' : RebaseApplyWorld GraphState Unit)
        (response : RebaseApplyResponse),
      w.approvals.requests.lookup run.draws.id = none →
      (rebaseApply parseStr state run intentId request claims).on w =
        (.ok (.accepted, response), w') →
      ∃ id stored, w'.approvals.requests.lookup id = some stored ∧
        PendingFor intentId request.fromVersion request.toVersion stored := by
  intro h
  let unreachable := { ApprovalFaults.quiet with
    createFault := some (.before (.storageError "insert approval request: connection refused")) }
  let w : RebaseApplyWorld GraphState Unit := { appliedWorld with approvals := .sqlx .new }
  obtain ⟨intentHead, fromVersion, toVersion, -, hplanned⟩ :=
    appliedState_planned (retunedPlan [31]) false appliedWorld.world.graph
  obtain ⟨reason, hblocked⟩ := appliedState_blocked [31] false
  obtain ⟨response, hrun⟩ := rebaseApply_blocked readDisplayed (appliedRun unreachable) (w := w)
    hplanned hblocked
  have hpool : (appliedState (retunedPlan [31]) false).rlsPool = false := rfl
  have hfault : (appliedRun unreachable).approvalFaults.createFault = some (.before _) := rfl
  rw [hpool, requestReview_withoutPool,
    createAndCancel_refused _ _ _ _ _ _ (.inl ⟨_, hfault⟩)] at hrun
  obtain ⟨id, stored, hlookup, -⟩ := h _ _ _ _ _ _ w _ response rfl hrun
  cases hlookup

end Sample

end Work

end IntentRebase
