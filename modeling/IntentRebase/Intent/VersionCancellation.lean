import IntentRebase.Intent.ApprovalRequest
import IntentRebase.Intent.InMemoryRepository
import IntentRebase.Kit.Clients
import IntentRebase.Kit.Effect

/-! The creation of versions by the intent service, which cancels the approval requests that the new
version makes stale, while clients approve and reject requests. Each repository call is one step. -/

namespace IntentRebase

open Kit

/-- The two repositories of the service. -/
structure IntentServiceStore where
  intents : InMemoryIntentRepository
  approvals : InMemoryApprovalRequestRepository

/-- A call of `create_version`, with what it draws, the time of its cancellation, and the failure
that this meets. -/
structure VersionCall where
  draw : CreateVersionDraw
  intentId : Uuid
  request : CreateVersionRequest
  expectedVersion : Option Int
  expectedRowVersion : Option Int
  cancelledAt : DateTime
  cancelFault : Option (Fault IntentRebaseError)

/-- A call of `update_approval_request_status`, with the time and the failure that it meets. -/
structure StatusCall where
  now : DateTime
  id : Uuid
  status : ApprovalRequestStatus
  resolvedBy : String
  resolutionNotes : Option String
  fault : Option (Fault IntentRebaseError)

namespace IntentService

/-- The actor of the service's own changes. -/
def systemActorId : String := "intent-service/system"

/-- The reason of the cancellation after a new version. -/
def cancellationReason (oldVersion newVersion : Int) : String :=
  s!"Intent version changed from v{oldVersion} to v{newVersion}"

section Steps

variable (computePayloadHash : IntentPayload → String) (s : IntentServiceStore)

/-- The creation of the version, after the intent has been read. -/
def storeVersion (call : VersionCall) (intent : Intent) (rowVersion : Int) :
    Except IntentRebaseError CreateVersionResponse × IntentServiceStore :=
  let expVer := call.expectedVersion.getD intent.currentVersion
  let expRowVer := call.expectedRowVersion.getD rowVersion
  let (answer, intents) := s.intents.createVersionWithOcc computePayloadHash call.draw call.intentId
    call.request expVer expRowVer
  (answer, { s with intents })

/-- The cancellation of the pending requests. Its error is dropped, and so is its count, which only
the audit record shows. -/
def cancelPending (call : VersionCall) (intent : Intent) (result : CreateVersionResponse) :
    IntentServiceStore :=
  let (_, approvals) := Fault.meet call.cancelFault s.approvals
    (s.approvals.cancelPendingByIntent call.cancelledAt call.intentId intent.tenantId systemActorId
      (cancellationReason intent.currentVersion result.versionNumber))
  { s with approvals }

/-- The call without others in between. -/
def createVersion (call : VersionCall) :
    Except IntentRebaseError CreateVersionResponse × IntentServiceStore :=
  match s.intents.getIntentForUpdate call.intentId with
  | .error e => (.error e, s)
  | .ok (intent, rowVersion) =>
    match storeVersion computePayloadHash s call intent rowVersion with
    | (.error e, s') => (.error e, s')
    | (.ok result, s') => (.ok result, cancelPending s' call intent result)

/-- A change of a request's status. -/
def updateStatus (call : StatusCall) :
    Except IntentRebaseError ApprovalRequest × IntentServiceStore :=
  let (answer, approvals) := Fault.meet call.fault s.approvals
    (s.approvals.updateApprovalRequestStatus call.now call.id call.status call.resolvedBy
      call.resolutionNotes)
  (answer, { s with approvals })

end Steps

end IntentService

/-- A call of a client. -/
inductive ServiceCall where
  | createVersion (call : VersionCall)
  | updateStatus (call : StatusCall)

inductive ServiceAnswer where
  | version (answer : Except IntentRebaseError CreateVersionResponse)
  | request (answer : Except IntentRebaseError ApprovalRequest)

/-- How far a call has come. -/
inductive ServiceStage where
  | read (call : VersionCall)
  | store (call : VersionCall) (intent : Intent) (rowVersion : Int)
  | cancel (call : VersionCall) (intent : Intent) (result : CreateVersionResponse)
  | update (call : StatusCall)

/-- The first stage of a call. -/
def ServiceStage.first : ServiceCall → ServiceStage
  | .createVersion call => .read call
  | .updateStatus call => .update call

/-- The calls of the service, one repository call a step. -/
def serviceCalls (computePayloadHash : IntentPayload → String) :
    Calls IntentServiceStore ServiceCall ServiceStage ServiceAnswer where
  first := ServiceStage.first
  step
    | .read call, s =>
      match s.intents.getIntentForUpdate call.intentId with
      | .error e => (.done (.version (.error e)), s)
      | .ok (intent, rowVersion) => (.more (.store call intent rowVersion), s)
    | .store call intent rowVersion, s =>
      match IntentService.storeVersion computePayloadHash s call intent rowVersion with
      | (.error e, s') => (.done (.version (.error e)), s')
      | (.ok result, s') => (.more (.cancel call intent result), s')
    | .cancel call intent result, s =>
      (.done (.version (.ok result)), IntentService.cancelPending s call intent result)
    | .update call, s =>
      let (answer, s') := IntentService.updateStatus s call
      (.done (.request answer), s')

/-- A creation that no other call interrupts is the service's. -/
theorem serviceCalls_finish (computePayloadHash : IntentPayload → String) (s : IntentServiceStore)
    (call : VersionCall) :
    (serviceCalls computePayloadHash).finish 3 (.read call) s =
      some ((IntentService.createVersion computePayloadHash s call).map .version id) := by
  rw [IntentService.createVersion]
  cases hread : s.intents.getIntentForUpdate call.intentId with
  | error e => exact Calls.finish_done (by simp only [serviceCalls, hread, id_eq]) 2
  | ok read =>
    obtain ⟨intent, rowVersion⟩ := read
    have hstep : (serviceCalls computePayloadHash).step (.read call) s =
        (.more (.store call intent rowVersion), s) := by simp only [serviceCalls, hread]
    rw [Calls.finish_more hstep]
    cases hstore : IntentService.storeVersion computePayloadHash s call intent rowVersion with
    | mk answer s' =>
      cases answer with
      | error e =>
        simp only [hstore]
        exact Calls.finish_done (by simp only [serviceCalls, hstore, id_eq]) 1
      | ok result =>
        have hstep' : (serviceCalls computePayloadHash).step (.store call intent rowVersion) s =
            (.more (.cancel call intent result), s') := by simp only [serviceCalls, hstore]
        simp only [hstore]
        rw [Calls.finish_more hstep']
        exact Calls.finish_done rfl 0

namespace IntentServiceStore

/-- A version of the request's intent is stored that comes after the one it is for. -/
def Superseded (s : IntentServiceStore) (request : ApprovalRequest) : Prop :=
  ∃ id version, s.intents.versions.lookup id = some version ∧
    version.intentId = request.intentId ∧ request.intentVersionTo < version.versionNumber

/-- No request is pending for a version before one that is stored. -/
def Current (s : IntentServiceStore) : Prop :=
  ∀ id request, s.approvals.requests.lookup id = some request → request.status = .pending →
    ¬ s.Superseded request

end IntentServiceStore

/-- The service and its clients. -/
abbrev ServiceClients := Clients IntentServiceStore ServiceStage

section Grants

variable (computePayloadHash : IntentPayload → String)

/-- No stale request is granted in a sequence of turns: none that is pending for a version before a
stored one becomes Approved, and none before the version that a creation reports is still pending
when it does. -/
structure NeverGranted (s : ServiceClients) (turns : List (Turn ServiceCall)) : Prop where
  approved : ∀ before t after id request, turns = before ++ t :: after →
    let s' := Clients.run (serviceCalls computePayloadHash) s before
    s'.store.approvals.requests.lookup id = some request → request.status = .pending →
    s'.store.Superseded request →
    ((Clients.turn (serviceCalls computePayloadHash) s' t).store.approvals.requests.lookup id).map
      ApprovalRequest.status ≠ some .approved
  cancelled : ∀ before t after k result id request, turns = before ++ t :: after →
    let s' := Clients.run (serviceCalls computePayloadHash) s before
    Clients.answer (serviceCalls computePayloadHash) s' t = some (k, .version (.ok result)) →
    (Clients.turn (serviceCalls computePayloadHash) s' t).store.approvals.requests.lookup id =
      some request →
    request.intentId = result.intentId → request.intentVersionTo < result.versionNumber →
    request.status ≠ .pending

end Grants

namespace ServiceClients

/-- A creation has stored a version of the intent, and has still to cancel. -/
def Cancelling (s : ServiceClients) (intentId : Uuid) : Prop :=
  ∃ client call intent result, s.stage client = some (.cancel call intent result) ∧
    call.intentId = intentId

/-- What the service takes for granted of a turn. -/
structure Undisturbed (s : ServiceClients) (t : Turn ServiceCall) : Prop where
  /-- An approval that takes place is not of a stale request whose intent has a creation under way
  that has still to cancel. -/
  approval : ∀ client call request, t = .step client →
    s.stage client = some (.update call) → call.status = .approved →
    (∀ e, call.fault ≠ some (.before e)) →
    s.store.approvals.requests.lookup call.id = some request → request.status = .pending →
    s.Cancelling request.intentId → ¬ s.store.Superseded request
  /-- A cancellation takes place, and finds no request of another tenant, if there is a pending
  request for a version before the new one. -/
  cancellation : ∀ client call intent result id request, t = .step client →
    s.stage client = some (.cancel call intent result) →
    s.store.approvals.requests.lookup id = some request → request.status = .pending →
    request.intentId = call.intentId → request.intentVersionTo < result.versionNumber →
    request.tenantId = intent.tenantId ∧ ∀ e, call.cancelFault ≠ some (.before e)

section Steps

variable {computePayloadHash : IntentPayload → String} {s : ServiceClients}
  {t : Turn ServiceCall} {store store' : IntentServiceStore} {k k' : ServiceStage}

/-- A request after a change is one before it, of the same intent, version and tenant; if it is
pending it was pending. -/
def Kept (store store' : IntentServiceStore) : Prop :=
  ∀ id request', store'.approvals.requests.lookup id = some request' →
    ∃ request, store.approvals.requests.lookup id = some request ∧
      request'.intentId = request.intentId ∧
      request'.intentVersionTo = request.intentVersionTo ∧
      request'.tenantId = request.tenantId ∧
      (request'.status = .pending → request.status = .pending)

theorem Kept.refl : Kept store store :=
  fun _ request hrequest => ⟨request, hrequest, rfl, rfl, rfl, fun h => h⟩

/-- A request after an update that takes place or not. -/
theorem lookup_updateWhere_some {m : HashMap Uuid ApprovalRequest}
    {selected : Uuid → ApprovalRequest → Bool} {set : ApprovalRequest → ApprovalRequest} {id : Uuid}
    {request' : ApprovalRequest} (h : (updateWhere m selected set).lookup id = some request') :
    ∃ request, m.lookup id = some request ∧
      request' = if selected id request then set request else request := by
  rw [lookup_updateWhere] at h
  obtain ⟨request, hrequest, rfl⟩ := Option.map_eq_some_iff.mp h
  exact ⟨request, hrequest, rfl⟩

theorem kept_updateWhere {selected : Uuid → ApprovalRequest → Bool}
    {status : ApprovalRequestStatus} {now : DateTime} {resolvedBy : String} {notes : Option String}
    (hselected : ∀ id request, store.approvals.requests.lookup id = some request →
      selected id request = true → request.status = .pending)
    (h : store'.approvals.requests = updateWhere store.approvals.requests selected
      (ApprovalRequest.resolve status now resolvedBy notes)) : Kept store store' := by
  intro id request' hrequest'
  rw [h] at hrequest'
  obtain ⟨request, hrequest, rfl⟩ := lookup_updateWhere_some hrequest'
  refine ⟨request, hrequest, ?_⟩
  split
  · next hsel => exact ⟨rfl, rfl, rfl, fun _ => hselected id request hrequest hsel⟩
  · exact ⟨rfl, rfl, rfl, fun hpending => hpending⟩

/-- What a cancellation does: nothing, or it cancels the pending requests of intent and tenant. -/
theorem cancelPending_cases (store : IntentServiceStore) (call : VersionCall) (intent : Intent)
    (result : CreateVersionResponse) :
    let store' := IntentService.cancelPending store call intent result
    store'.intents = store.intents ∧
      ((∃ e, call.cancelFault = some (.before e) ∧ store' = store) ∨
        (∀ e, call.cancelFault ≠ some (.before e)) ∧
          store'.approvals.requests = updateWhere store.approvals.requests
            (fun _ r => r.intentId = call.intentId ∧ r.tenantId = intent.tenantId ∧
              r.status = .pending)
            (ApprovalRequest.resolve .cancelled call.cancelledAt IntentService.systemActorId
              (some (IntentService.cancellationReason intent.currentVersion
                result.versionNumber)))) := by
  refine ⟨rfl, ?_⟩
  rw [IntentService.cancelPending]
  rcases Fault.meet_state call.cancelFault store.approvals
    (store.approvals.cancelPendingByIntent call.cancelledAt call.intentId intent.tenantId
      IntentService.systemActorId
      (IntentService.cancellationReason intent.currentVersion result.versionNumber)) with
    ⟨e, hfault, hsame⟩ | ⟨hfault, hacts⟩
  · left
    exact ⟨e, hfault, by simp only [hsame]⟩
  · right
    refine ⟨hfault, ?_⟩
    simp only [hacts]
    rfl

/-- What a change of a status does: nothing, or it resolves the pending request. -/
theorem updateStatus_cases (store : IntentServiceStore) (call : StatusCall) :
    let store' := (IntentService.updateStatus store call).2
    store' = store ∨ store'.intents = store.intents ∧ (∀ e, call.fault ≠ some (.before e)) ∧
      ∃ request, store.approvals.requests.lookup call.id = some request ∧
        request.status = .pending ∧
        store'.approvals.requests = updateWhere store.approvals.requests (fun k _ => k == call.id)
          (ApprovalRequest.resolve call.status call.now call.resolvedBy call.resolutionNotes) := by
  rw [IntentService.updateStatus]
  rcases Fault.meet_state call.fault store.approvals
    (store.approvals.updateApprovalRequestStatus call.now call.id call.status call.resolvedBy
      call.resolutionNotes) with ⟨e, _, hsame⟩ | ⟨hfault, hacts⟩
  · left
    simp only [hsame]
  · rcases store.approvals.updateApprovalRequestStatus_cases call.now call.id call.status
      call.resolvedBy call.resolutionNotes with hsame | ⟨request, hrequest, hpending, hset⟩
    · left
      simp only [hacts, hsame]
    · right
      simp only [hacts, hset]
      exact ⟨trivial, hfault, request, hrequest, hpending, rfl⟩

theorem storeVersion_error {call : VersionCall} {intent : Intent} {rowVersion : Int}
    {e : IntentRebaseError}
    (h : IntentService.storeVersion computePayloadHash store call intent rowVersion =
      (.error e, store')) : store' = store := by
  simp only [IntentService.storeVersion, InMemoryIntentRepository.createVersionWithOcc] at h
  split at h
  · cases h
    rfl
  · split at h
    · cases h
      rfl
    · cases h

/-- A stored version supersedes the requests for an earlier version of its intent, and no others. -/
theorem storeVersion_ok {call : VersionCall} {intent : Intent} {rowVersion : Int}
    {result : CreateVersionResponse}
    (h : IntentService.storeVersion computePayloadHash store call intent rowVersion =
      (.ok result, store')) :
    result.intentId = call.intentId ∧ store'.approvals = store.approvals ∧
      ∀ request, store'.Superseded request → store.Superseded request ∨
        call.intentId = request.intentId ∧ request.intentVersionTo < result.versionNumber := by
  simp only [IntentService.storeVersion, InMemoryIntentRepository.createVersionWithOcc] at h
  split at h
  · cases h
  · split at h
    · cases h
    · cases h
      refine ⟨rfl, rfl, ?_⟩
      rintro request ⟨id, version, hversion, hintent, hnumber⟩
      rw [lookup_insert_eq] at hversion
      split at hversion
      · cases hversion
        exact .inr ⟨hintent, hnumber⟩
      · exact .inl ⟨id, version, hversion, hintent, hnumber⟩

theorem superseded_congr {request request' : ApprovalRequest}
    (hintent : request'.intentId = request.intentId)
    (hversion : request'.intentVersionTo = request.intentVersionTo) :
    store.Superseded request' ↔ store.Superseded request := by
  rw [IntentServiceStore.Superseded, IntentServiceStore.Superseded, hintent, hversion]

/-- Each stale request is waited for by a creation that has still to cancel it. -/
structure Awaited (s : ServiceClients) : Prop where
  stale : ∀ id request, s.store.approvals.requests.lookup id = some request →
    request.status = .pending → s.store.Superseded request →
    ∃ client call intent result, s.stage client = some (.cancel call intent result) ∧
      call.intentId = request.intentId ∧ request.intentVersionTo < result.versionNumber
  named : ∀ client call intent result, s.stage client = some (.cancel call intent result) →
    result.intentId = call.intentId

theorem awaited_idle (h : store.Current) : Awaited (Clients.idle store) where
  stale id request hrequest hpending hsuperseded :=
    absurd hsuperseded (h id request hrequest hpending)
  named _ _ _ _ hstage := by cases hstage

theorem Awaited.update {client : Nat} {k : Option ServiceStage} (hs : Awaited s)
    (hkept : Kept s.store store')
    (hsuperseded : ∀ request, store'.Superseded request → s.store.Superseded request ∨
      ∃ call intent result, k = some (.cancel call intent result) ∧
        call.intentId = request.intentId ∧ request.intentVersionTo < result.versionNumber)
    (hclient : ∀ call intent result id request,
      s.stage client = some (.cancel call intent result) →
      store'.approvals.requests.lookup id = some request → request.status = .pending →
      request.intentId = call.intentId → ¬ request.intentVersionTo < result.versionNumber)
    (hnamed : ∀ call intent result, k = some (.cancel call intent result) →
      result.intentId = call.intentId) :
    Awaited { store := store', stage := Function.update s.stage client k } where
  stale id request' hrequest' hpending' hsuperseded' := by
    rcases hsuperseded request' hsuperseded' with hold | ⟨call, intent, result, hk, hnew⟩
    · obtain ⟨request, hrequest, hintent, hversion, -, hpending⟩ := hkept id request' hrequest'
      obtain ⟨waiting, call, intent, result, hstage, hcall, hnumber⟩ := hs.stale id request hrequest
        (hpending hpending') ((superseded_congr hintent hversion).mp hold)
      rw [← hintent] at hcall
      rw [← hversion] at hnumber
      have hne : waiting ≠ client := by
        rintro rfl
        exact hclient call intent result id request' hstage hrequest' hpending' hcall.symm hnumber
      refine ⟨waiting, call, intent, result, ?_, hcall, hnumber⟩
      exact (Function.update_of_ne hne _ _).trans hstage
    · refine ⟨client, call, intent, result, ?_, hnew⟩
      exact (Function.update_self _ _ _).trans hk
  named c call intent result hstage := by
    rcases Clients.update_some hstage with hnew | hold
    · exact hnamed call intent result hnew
    · exact hs.named c call intent result hold

/-- A step of a call that has nothing to cancel, before it or after, and that stores no version. -/
theorem Awaited.update_other {client : Nat} {k : Option ServiceStage} (hs : Awaited s)
    (hkept : Kept s.store store')
    (hsuperseded : ∀ request, store'.Superseded request → s.store.Superseded request)
    (hbefore : ∀ call intent result, s.stage client ≠ some (.cancel call intent result))
    (hafter : ∀ call intent result, k ≠ some (.cancel call intent result)) :
    Awaited { store := store', stage := Function.update s.stage client k } :=
  hs.update hkept (fun request h => .inl (hsuperseded request h))
    (fun call intent result _ _ hcancel => absurd hcancel (hbefore call intent result))
    (fun call intent result hcancel => absurd hcancel (hafter call intent result))

theorem kept_cancelPending (call : VersionCall) (intent : Intent) (result : CreateVersionResponse) :
    Kept store (IntentService.cancelPending store call intent result) := by
  obtain ⟨_, ⟨_, _, hsame⟩ | ⟨_, hset⟩⟩ := cancelPending_cases store call intent result
  · rw [hsame]
    exact Kept.refl
  · refine kept_updateWhere (fun id request _ hselected => ?_) hset
    exact (of_decide_eq_true hselected).2.2

theorem kept_updateStatus (call : StatusCall) :
    Kept store (IntentService.updateStatus store call).2 := by
  rcases updateStatus_cases store call with hsame | ⟨_, _, request, hrequest, hpending, hset⟩
  · rw [hsame]
    exact Kept.refl
  · refine kept_updateWhere (fun id request' hrequest' hselected => ?_) hset
    cases beq_iff_eq.mp hselected
    rw [Option.some.inj (hrequest'.symm.trans hrequest)]
    exact hpending

/-- After a cancellation that takes place no request of the intent and the tenant is pending. -/
theorem cancelPending_settles {call : VersionCall} {intent : Intent}
    {result : CreateVersionResponse} {id : Uuid} {request : ApprovalRequest}
    (hfault : ∀ e, call.cancelFault ≠ some (.before e))
    (hrequest : (IntentService.cancelPending store call intent result).approvals.requests.lookup
      id = some request)
    (hintent : request.intentId = call.intentId) (htenant : request.tenantId = intent.tenantId) :
    request.status ≠ .pending := by
  obtain ⟨_, ⟨e, hbefore, _⟩ | ⟨_, hset⟩⟩ := cancelPending_cases store call intent result
  · exact absurd hbefore (hfault e)
  · rw [hset] at hrequest
    obtain ⟨request', _, rfl⟩ := lookup_updateWhere_some hrequest
    split
    · simp
    · next hselected =>
      rw [if_neg hselected] at hintent htenant
      exact fun hpending => hselected (decide_eq_true ⟨hintent, htenant, hpending⟩)

/-- The steps that leave their call in flight. -/
theorem step_more (h : (serviceCalls computePayloadHash).step k store = (.more k', store')) :
    (∃ call intent rowVersion, k = .read call ∧ k' = .store call intent rowVersion ∧
      store' = store) ∨
    ∃ call intent rowVersion result, k = .store call intent rowVersion ∧
      k' = .cancel call intent result ∧
      IntentService.storeVersion computePayloadHash store call intent rowVersion =
        (.ok result, store') := by
  cases k with
  | read call =>
    simp only [serviceCalls] at h
    split at h
    · cases h
    · cases h
      exact .inl ⟨_, _, _, rfl, rfl, rfl⟩
  | store call intent rowVersion =>
    simp only [serviceCalls] at h
    split at h
    · cases h
    next hstore =>
      cases h
      exact .inr ⟨_, _, _, _, rfl, rfl, hstore⟩
  | cancel call intent result => cases h
  | update call => cases h

/-- The steps that answer. -/
theorem step_done {a : ServiceAnswer}
    (h : (serviceCalls computePayloadHash).step k store = (.done a, store')) :
    ((∀ call intent result, k ≠ .cancel call intent result) ∧ store' = store ∧
      ∃ e, a = .version (.error e)) ∨
    (∃ call intent result, k = .cancel call intent result ∧ a = .version (.ok result) ∧
      store' = IntentService.cancelPending store call intent result) ∨
    ∃ call answer, k = .update call ∧ a = .request answer ∧
      store' = (IntentService.updateStatus store call).2 := by
  cases k with
  | read call =>
    simp only [serviceCalls] at h
    split at h
    · cases h
      exact .inl ⟨by simp, rfl, _, rfl⟩
    · cases h
  | store call intent rowVersion =>
    simp only [serviceCalls] at h
    split at h
    next hstore =>
      cases h
      exact .inl ⟨by simp, storeVersion_error hstore, _, rfl⟩
    · cases h
  | cancel call intent result =>
    cases h
    exact .inr (.inl ⟨_, _, _, rfl, rfl, rfl⟩)
  | update call =>
    cases h
    exact .inr (.inr ⟨_, _, rfl, rfl, rfl⟩)

theorem superseded_of_intents {request : ApprovalRequest} (h : store'.intents = store.intents) :
    store'.Superseded request ↔ store.Superseded request := by
  rw [IntentServiceStore.Superseded, h, IntentServiceStore.Superseded]

theorem Awaited.turn (hs : Awaited s) (hturn : Undisturbed s t) :
    Awaited (Clients.turn (serviceCalls computePayloadHash) s t) := by
  have htook := Clients.took (serviceCalls computePayloadHash) s t
  generalize Clients.answer (serviceCalls computePayloadHash) s t = answer at htook
  generalize Clients.turn (serviceCalls computePayloadHash) s t = s' at htook ⊢
  cases htook with
  | idle => exact hs
  | @start client request hstage =>
    refine hs.update_other Kept.refl (fun _ h => h) (by simp [hstage]) fun _ _ _ hk => ?_
    cases request <;> cases hk
  | @more client k k' store' hstage hstep =>
    rcases step_more hstep with ⟨call, intent, rowVersion, rfl, rfl, rfl⟩ |
      ⟨call, intent, rowVersion, result, rfl, rfl, hstore⟩
    · exact hs.update_other Kept.refl (fun _ h => h) (by simp [hstage]) (by simp)
    · obtain ⟨hnamed, happrovals, hsuperseded⟩ := storeVersion_ok hstore
      refine hs.update ?_ ?_ ?_ ?_
      · intro id request hrequest
        rw [happrovals] at hrequest
        exact Kept.refl id request hrequest
      · intro request hafter
        rcases hsuperseded request hafter with hold | hnew
        · exact .inl hold
        · exact .inr ⟨call, intent, result, rfl, hnew⟩
      · intro _ _ _ _ _ hcancel
        rw [hstage] at hcancel
        cases hcancel
      · intro _ _ _ hk
        cases hk
        exact hnamed
  | @done client k a store' hstage hstep =>
    rcases step_done hstep with ⟨hk, rfl, _⟩ | ⟨call, intent, result, rfl, rfl, rfl⟩ |
      ⟨call, answer, rfl, rfl, rfl⟩
    · refine hs.update_other Kept.refl (fun _ h => h) (fun _ _ _ hcancel => ?_) (by simp)
      rw [hstage] at hcancel
      exact hk _ _ _ (Option.some.inj hcancel)
    · refine hs.update (kept_cancelPending call intent result) (fun _ h => .inl h) ?_ ?_
      · intro _ _ _ id request' hcancel hrequest' hpending' hintent' hnumber'
        cases hstage.symm.trans hcancel
        obtain ⟨request, hrequest, hintent, hversion, htenant, hpending⟩ :=
          kept_cancelPending call intent result id request' hrequest'
        obtain ⟨htenants, hfault⟩ := hturn.cancellation client call intent result id request rfl
          hstage hrequest (hpending hpending') (hintent ▸ hintent') (hversion ▸ hnumber')
        exact cancelPending_settles hfault hrequest' hintent' (htenant.trans htenants) hpending'
      · intro _ _ _ hnone
        cases hnone
    · refine hs.update_other (kept_updateStatus call) (fun request h => ?_) (by simp [hstage])
        (by simp)
      rcases updateStatus_cases s.store call with hsame | ⟨hintents, _⟩
      · rwa [hsame] at h
      · exact (superseded_of_intents hintents).mp h

/-- A change that takes place of a pending request resolves it. -/
theorem updateStatus_acts {call : StatusCall} {request : ApprovalRequest}
    (hfault : ∀ e, call.fault ≠ some (.before e))
    (hrequest : store.approvals.requests.lookup call.id = some request)
    (hpending : request.status = .pending) :
    ((IntentService.updateStatus store call).2.approvals.requests.lookup call.id).map
      ApprovalRequest.status = some call.status := by
  have hset : (store.approvals.updateApprovalRequestStatus call.now call.id call.status
      call.resolvedBy call.resolutionNotes).2 = store.approvals.modify call.id
        (ApprovalRequest.resolve call.status call.now call.resolvedBy call.resolutionNotes) := by
    simp only [InMemoryApprovalRequestRepository.updateApprovalRequestStatus, hrequest, hpending,
      ne_eq, not_true_eq_false, if_false]
  rcases Fault.meet_state call.fault store.approvals
    (store.approvals.updateApprovalRequestStatus call.now call.id call.status call.resolvedBy
      call.resolutionNotes) with ⟨e, hbefore, _⟩ | ⟨_, hacts⟩
  · exact absurd hbefore (hfault e)
  · simp only [IntentService.updateStatus, hacts, hset, InMemoryApprovalRequestRepository.modify,
      lookup_updateWhere, hrequest, Option.map_some, beq_self_eq_true, if_true,
      ApprovalRequest.resolve_status]

/-- A pending request that is approved by a turn is approved by an update that takes place. -/
theorem approved_turn {id : Uuid} {request : ApprovalRequest}
    (hrequest : s.store.approvals.requests.lookup id = some request)
    (hpending : request.status = .pending)
    (happroved :
      ((Clients.turn (serviceCalls computePayloadHash) s t).store.approvals.requests.lookup id).map
        ApprovalRequest.status = some .approved) :
    ∃ client call, t = .step client ∧ s.stage client = some (.update call) ∧ call.id = id ∧
      call.status = .approved ∧ ∀ e, call.fault ≠ some (.before e) := by
  have hstays : ∀ {store : IntentServiceStore},
      store.approvals.requests.lookup id = some request →
      (store.approvals.requests.lookup id).map ApprovalRequest.status ≠ some .approved := by
    intro store hlookup hstatus
    rw [hlookup, Option.map_some, hpending] at hstatus
    cases hstatus
  rcases Clients.turn_store (serviceCalls computePayloadHash) s t with
    hsame | ⟨client, k, rfl, hstage, hstore⟩
  · rw [hsame] at happroved
    exact absurd happroved (hstays hrequest)
  rw [hstore] at happroved
  cases hstep : (serviceCalls computePayloadHash).step k s.store with
  | mk progress store' =>
    rw [hstep] at happroved
    cases progress with
    | more k' =>
      rcases step_more hstep with ⟨_, _, _, _, _, rfl⟩ | ⟨_, _, _, _, _, _, hstored⟩
      · exact absurd happroved (hstays hrequest)
      · rw [(storeVersion_ok hstored).2.1] at happroved
        exact absurd happroved (hstays hrequest)
    | done a =>
      rcases step_done hstep with ⟨_, rfl, _⟩ | ⟨call, intent, result, _, _, rfl⟩ |
        ⟨call, answer, rfl, _, rfl⟩
      · exact absurd happroved (hstays hrequest)
      · obtain ⟨_, ⟨_, _, hsame⟩ | ⟨_, hset⟩⟩ := cancelPending_cases s.store call intent result
        · rw [hsame] at happroved
          exact absurd happroved (hstays hrequest)
        · simp only [hset, lookup_updateWhere, hrequest, Option.map_some] at happroved
          split at happroved
          · cases happroved
          · rw [hpending] at happroved
            cases happroved
      · rcases updateStatus_cases s.store call with hsame | ⟨_, hfault, _, _, _, hset⟩
        · rw [hsame] at happroved
          exact absurd happroved (hstays hrequest)
        · simp only [hset, lookup_updateWhere, hrequest, Option.map_some] at happroved
          split at happroved
          · next hid =>
            exact ⟨client, call, rfl, hstage, (beq_iff_eq.mp hid).symm,
              Option.some.inj happroved, hfault⟩
          · rw [hpending] at happroved
            cases happroved

/-- A creation that reports a version has just cancelled. -/
theorem version_answer {k : ServiceStage} {result : CreateVersionResponse}
    (h : Clients.answer (serviceCalls computePayloadHash) s t = some (k, .version (.ok result))) :
    ∃ client call intent, t = .step client ∧ s.stage client = some (.cancel call intent result) ∧
      (Clients.turn (serviceCalls computePayloadHash) s t).store =
        IntentService.cancelPending s.store call intent result := by
  obtain ⟨client, ht, hstage, hstep⟩ := Clients.answer_some h
  rcases step_done hstep with ⟨_, _, _, herror⟩ | ⟨call, intent, result', rfl, hanswer, hstore⟩ |
    ⟨_, _, _, hrequest, _⟩
  · cases herror
  · cases hanswer
    exact ⟨client, call, intent, ht, hstage, hstore⟩
  · cases hrequest

theorem undisturbed_of_granted
    (h : NeverGranted computePayloadHash s [t]) (hs : Awaited s) : Undisturbed s t where
  approval client call request ht hstage hstatus hfault hrequest hpending _ hsuperseded := by
    subst ht
    refine h.approved [] _ [] call.id request rfl hrequest hpending hsuperseded ?_
    rw [Clients.run_nil, Clients.turn_step hstage, Clients.advance_store, ← hstatus]
    exact updateStatus_acts hfault hrequest hpending
  cancellation client call intent result id request ht hstage hrequest hpending hintent
      hnumber := by
    subst ht
    have hanswer : Clients.answer (serviceCalls computePayloadHash) s (.step client) =
        some (.cancel call intent result, .version (.ok result)) := by
      simp only [Clients.answer, hstage, serviceCalls]
    have hstore : (Clients.turn (serviceCalls computePayloadHash) s (.step client)).store =
        IntentService.cancelPending s.store call intent result := by
      rw [Clients.turn_step hstage, Clients.advance_store]
      rfl
    have hgone : (IntentService.cancelPending s.store call intent result).approvals.requests.lookup
        id ≠ some request := by
      intro hstill
      refine h.cancelled [] _ [] _ result id request rfl hanswer ?_ ?_ hnumber hpending
      · rw [Clients.run_nil, hstore, hstill]
      · rw [hintent, hs.named client call intent result hstage]
    obtain ⟨_, ⟨e, _, hsame⟩ | ⟨hfault, hset⟩⟩ :=
      cancelPending_cases s.store call intent result
    · rw [hsame] at hgone
      exact absurd hrequest hgone
    · refine ⟨?_, hfault⟩
      by_contra htenant
      refine hgone ?_
      rw [hset, lookup_updateWhere, hrequest, Option.map_some]
      simp only [htenant, false_and, and_false, decide_false, Bool.false_eq_true, if_false]

theorem neverGranted_at {before after : List (Turn ServiceCall)}
    (h : NeverGranted computePayloadHash s (before ++ t :: after)) :
    NeverGranted computePayloadHash (Clients.run (serviceCalls computePayloadHash) s before)
      [t] := by
  refine ⟨fun before' t' after' id request hsplit => ?_,
    fun before' t' after' k result id request hsplit => ?_⟩
  · have hplace : before ++ t :: after = (before ++ before') ++ t' :: (after' ++ after) := by
      rw [List.append_assoc, ← List.cons_append, ← List.append_assoc before', ← hsplit]
      rfl
    rw [← Clients.run_append]
    exact h.approved _ t' _ id request hplace
  · have hplace : before ++ t :: after = (before ++ before') ++ t' :: (after' ++ after) := by
      rw [List.append_assoc, ← List.cons_append, ← List.append_assoc before', ← hsplit]
      rfl
    rw [← Clients.run_append]
    exact h.cancelled _ t' _ k result id request hplace

theorem awaited_run (hs : Awaited s) {turns : List (Turn ServiceCall)}
    (h : AllSteps (Clients.turn (serviceCalls computePayloadHash)) Undisturbed s turns) :
    Awaited (Clients.run (serviceCalls computePayloadHash) s turns) :=
  h.invariant (fun _ _ hturn hs => hs.turn hturn) hs

/-- No stale request is granted, from repositories without one, exactly in the runs in which no
request is approved between a new version and its cancellation, and each cancellation that has a
request to cancel succeeds and is of its tenant. -/
theorem neverGranted_iff (h : store.Current) (turns : List (Turn ServiceCall)) :
    NeverGranted computePayloadHash (Clients.idle store) turns ↔
      AllSteps (Clients.turn (serviceCalls computePayloadHash)) Undisturbed (Clients.idle store)
        turns := by
  constructor
  · intro hgranted
    refine allSteps_of_first fun before t after hsplit hbefore => ?_
    rw [hsplit] at hgranted
    exact undisturbed_of_granted (neverGranted_at hgranted) (awaited_run (awaited_idle h) hbefore)
  · intro hall
    constructor
    · intro before t after id request hsplit s' hrequest hpending hsuperseded happroved
      rw [hsplit] at hall
      have hs : Awaited s' := awaited_run (awaited_idle h) hall.append.1
      obtain ⟨client, call, rfl, hstage, rfl, hstatus, hfault⟩ :=
        approved_turn hrequest hpending happroved
      obtain ⟨waiting, call', intent, result, hwaiting, hintent, _⟩ :=
        hs.stale call.id request hrequest hpending hsuperseded
      exact hall.append.2.1.approval client call request rfl hstage hstatus hfault hrequest
        hpending ⟨waiting, call', intent, result, hwaiting, hintent⟩ hsuperseded
    · intro before t after k result id request hsplit s' hanswer hrequest hintent hnumber hpending
      rw [hsplit] at hall
      have hs : Awaited s' := awaited_run (awaited_idle h) hall.append.1
      obtain ⟨client, call, intent, rfl, hstage, hstore⟩ := version_answer hanswer
      rw [hstore] at hrequest
      rw [hs.named client call intent result hstage] at hintent
      obtain ⟨request', hrequest', hintent', hversion, htenant, hbefore⟩ :=
        kept_cancelPending call intent result id request hrequest
      obtain ⟨htenants, hfault⟩ := hall.append.2.1.cancellation client call intent result id
        request' rfl hstage hrequest' (hbefore hpending) (hintent' ▸ hintent) (hversion ▸ hnumber)
      exact cancelPending_settles hfault hrequest hintent (htenant.trans htenants) hpending

/-- A step of a creation that has not stored its version disturbs nothing. -/
theorem undisturbed_early {client : Nat} (hstage : s.stage client = some k)
    (hupdate : ∀ call, k ≠ .update call)
    (hcancel : ∀ call intent result, k ≠ .cancel call intent result) :
    Undisturbed s (.step client) where
  approval _ call _ ht hk := by
    cases ht
    exact absurd (Option.some.inj (hstage.symm.trans hk)) (hupdate call)
  cancellation _ call intent result _ _ ht hk := by
    cases ht
    exact absurd (Option.some.inj (hstage.symm.trans hk)) (hcancel call intent result)

end Steps

/-- An intent at its second version, and the pending request for it. -/
def sampleRequest : ApprovalRequest :=
  .newPending 4 3 10 1 2 2 5 "agent" "agent" "D" "rebase"

def sampleStore : IntentServiceStore where
  intents :=
    let created := (InMemoryIntentRepository.new.createIntentTx
      InMemoryIntentRepository.sampleHash ⟨10, 20, 30, 0⟩
      InMemoryIntentRepository.sampleIntentRequest).2
    (created.createVersionWithOcc InMemoryIntentRepository.sampleHash ⟨21, 1⟩ 10
      InMemoryIntentRepository.sampleVersionRequest 1 0).2
  approvals := (InMemoryApprovalRequestRepository.new.createApprovalRequest sampleRequest).2

theorem sampleStore_request {id : Uuid} {request : ApprovalRequest}
    (h : sampleStore.approvals.requests.lookup id = some request) : request = sampleRequest := by
  have hinsert : sampleStore.approvals.requests =
    (∅ : HashMap Uuid ApprovalRequest).insert 4 sampleRequest := rfl
  rw [hinsert, lookup_insert_eq] at h
  split at h
  · exact (Option.some.inj h).symm
  · cases h

theorem sampleStore_current : sampleStore.Current := by
  rintro id request hrequest - ⟨versionId, version, hversion, -, hnumber⟩
  cases sampleStore_request hrequest
  have hle : version.versionNumber ≤ 2 := by
    have hinsert : sampleStore.intents.versions =
      ((∅ : HashMap Uuid IntentVersion).insert 20 (InMemoryIntentRepository.initialVersion
        InMemoryIntentRepository.sampleHash ⟨10, 20, 30, 0⟩
        InMemoryIntentRepository.sampleIntentRequest)).insert 21
        (InMemoryIntentRepository.nextVersion InMemoryIntentRepository.sampleHash ⟨21, 1⟩ 10
          InMemoryIntentRepository.sampleVersionRequest 2 (some 20)) := rfl
    rw [hinsert, lookup_insert_eq, lookup_insert_eq] at hversion
    split at hversion
    · cases hversion
      exact Int.le_refl 2
    · split at hversion
      · cases hversion
        exact Int.le_of_lt (by decide)
      · cases hversion
  have hto : sampleRequest.intentVersionTo = 2 := rfl
  omega

/-- A third version, created from the second. -/
def sampleVersionCall : VersionCall where
  draw := ⟨22, 4⟩
  intentId := 10
  request := InMemoryIntentRepository.sampleVersionRequest
  expectedVersion := some 2
  expectedRowVersion := none
  cancelledAt := 4
  cancelFault := none

/-- A creation that no other call disturbs. -/
theorem neverGranted_iff_sample :
    NeverGranted InMemoryIntentRepository.sampleHash (Clients.idle sampleStore)
      [.call 0 (.createVersion sampleVersionCall), .step 0, .step 0, .step 0] := by
  refine (neverGranted_iff sampleStore_current _).mpr ⟨?_, ?_, ?_, ?_, trivial⟩
  · refine ⟨?_, ?_⟩
    · intro _ _ _ ht
      cases ht
    · intro _ _ _ _ _ _ ht
      cases ht
  · exact undisturbed_early (k := .read sampleVersionCall) rfl (by simp) (by simp)
  · exact undisturbed_early (k := .store sampleVersionCall _ _) rfl (by simp) (by simp)
  · refine ⟨fun client call request ht hstage => ?_, ?_⟩
    · cases ht
      cases hstage
    · intro client call intent result id request ht hstage hrequest
      cases ht
      cases hstage
      cases sampleStore_request hrequest
      exact fun _ _ _ => ⟨rfl, fun e h => by cases h⟩

/-- An approval of the request for the second version. -/
def sampleApproval : StatusCall where
  now := 5
  id := 4
  status := .approved
  resolvedBy := "ana"
  resolutionNotes := none
  fault := none

/-- The third version is stored when the request is approved, and its cancellation comes later. -/
def approvalBetween : List (Turn ServiceCall) :=
  [.call 0 (.createVersion sampleVersionCall), .step 0, .step 0,
   .call 1 (.updateStatus sampleApproval), .step 1, .step 0]

theorem stale_granted :
    ¬ ∀ (computePayloadHash : IntentPayload → String) (store : IntentServiceStore)
      (turns : List (Turn ServiceCall)), store.Current →
      NeverGranted computePayloadHash (Clients.idle store) turns := by
  intro hclaim
  have hgranted := hclaim InMemoryIntentRepository.sampleHash sampleStore approvalBetween
    sampleStore_current
  refine hgranted.approved (approvalBetween.take 4) (.step 1) [.step 0] 4 sampleRequest rfl
    rfl rfl ⟨22, _, rfl, rfl, ?_⟩ rfl
  decide

end ServiceClients

end IntentRebase
