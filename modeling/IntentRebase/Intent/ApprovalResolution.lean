import IntentRebase.Intent.ApprovalRequest
import IntentRebase.Kit.Clients

/-! Approvals, rejections, expiries and cancellations of approval requests by many clients at once,
and what one step of them does. In memory a call is atomic. In SQL its `UPDATE` is, and a query
after it reads the answer. -/

namespace IntentRebase

open Kit

/-- The calls that change the status of a request. -/
inductive ApprovalCall where
  | approve (id : Uuid) (resolvedBy : String) (resolutionNotes : Option String)
  | reject (id : Uuid) (resolvedBy : String) (resolutionNotes : Option String)
  | markExpired (id : Uuid) (expiredBy reason : String)
  | cancelPendingByIntent (intentId tenantId : Uuid) (cancelledBy reason : String)
  | cancelApprovedByIntent (intentId tenantId : Uuid) (cancelledBy reason : String)
  | cancelApprovedByIds (approvalIds : List Uuid) (tenantId : Uuid) (cancelledBy reason : String)

/-- A call, with the time that it reads. -/
structure Resolution where
  now : DateTime
  call : ApprovalCall

/-- What a call answers: the request, or the number of requests it cancelled. -/
inductive ResolutionAnswer where
  | request (answer : Except IntentRebaseError ApprovalRequest)
  | count (answer : Except IntentRebaseError Nat)

namespace ResolutionAnswer

/-- The answer reports a success. -/
def succeeds : ResolutionAnswer → Bool
  | request (.ok _) => true
  | request (.error _) => false
  | count (.ok _) => true
  | count (.error _) => false

/-- The number of requests that the answer says were cancelled. -/
def cancelled : ResolutionAnswer → Nat
  | count (.ok n) => n
  | count (.error _) => 0
  | request _ => 0

variable {σ : Type}

/-- The answer of a call that ends with a request. -/
def ofRequest (r : Except IntentRebaseError ApprovalRequest × σ) : ResolutionAnswer × σ :=
  (request r.1, r.2)

/-- The answer of a call that ends with a count. -/
def ofCount (r : Except IntentRebaseError Nat × σ) : ResolutionAnswer × σ := (count r.1, r.2)

end ResolutionAnswer

/-- How far a call has come. After its `UPDATE` it reads the request, for the answer or for the
error. -/
inductive ResolutionStage where
  | start (resolution : Resolution)
  | fetch (id : Uuid)
  | explain (id : Uuid)

namespace InMemoryApprovalRequestRepository

/-- The call of the repository that a resolution is. -/
def resolve (s : InMemoryApprovalRequestRepository) (r : Resolution) :
    ResolutionAnswer × InMemoryApprovalRequestRepository :=
  match r.call with
  | .approve id resolvedBy notes =>
    ResolutionAnswer.ofRequest (s.updateApprovalRequestStatus r.now id .approved resolvedBy notes)
  | .reject id resolvedBy notes =>
    ResolutionAnswer.ofRequest (s.updateApprovalRequestStatus r.now id .rejected resolvedBy notes)
  | .markExpired id expiredBy reason =>
    ResolutionAnswer.ofRequest (s.markExpired r.now id expiredBy reason)
  | .cancelPendingByIntent intentId tenantId cancelledBy reason =>
    ResolutionAnswer.ofCount (s.cancelPendingByIntent r.now intentId tenantId cancelledBy reason)
  | .cancelApprovedByIntent intentId tenantId cancelledBy reason =>
    ResolutionAnswer.ofCount (s.cancelApprovedByIntent r.now intentId tenantId cancelledBy reason)
  | .cancelApprovedByIds approvalIds tenantId cancelledBy reason =>
    ResolutionAnswer.ofCount (s.cancelApprovedByIds r.now approvalIds tenantId cancelledBy reason)

/-- The calls in memory, which hold the lock. They have no stage but the first. -/
def resolutions : Calls InMemoryApprovalRequestRepository Resolution ResolutionStage
    ResolutionAnswer where
  first := .start
  step
    | .start r, s =>
      let (answer, s') := s.resolve r
      (.done answer, s')
    | .fetch id, s => (.done (.request (s.getApprovalRequest id)), s)
    | .explain id, s => (.done (.request (.error (.approvalRequestNotFound id))), s)

end InMemoryApprovalRequestRepository

namespace SqlxApprovalRequestRepository

/-- The call of the repository that a resolution is. -/
def resolve (s : SqlxApprovalRequestRepository) (r : Resolution) :
    ResolutionAnswer × SqlxApprovalRequestRepository :=
  match r.call with
  | .approve id resolvedBy notes =>
    ResolutionAnswer.ofRequest (s.updateStatusInDb r.now id .approved resolvedBy notes)
  | .reject id resolvedBy notes =>
    ResolutionAnswer.ofRequest (s.updateStatusInDb r.now id .rejected resolvedBy notes)
  | .markExpired id expiredBy reason =>
    ResolutionAnswer.ofRequest (s.markExpired r.now id expiredBy reason)
  | .cancelPendingByIntent intentId tenantId cancelledBy reason =>
    ResolutionAnswer.ofCount (s.cancelPendingByIntent r.now intentId tenantId cancelledBy reason)
  | .cancelApprovedByIntent intentId tenantId cancelledBy reason =>
    ResolutionAnswer.ofCount (s.cancelApprovedByIntent r.now intentId tenantId cancelledBy reason)
  | .cancelApprovedByIds approvalIds tenantId cancelledBy reason =>
    ResolutionAnswer.ofCount (s.cancelApprovedByIds r.now approvalIds tenantId cancelledBy reason)

/-- The statement of `update_status_in_db`, and what follows from the rows it affects. -/
def startUpdateStatus (s : SqlxApprovalRequestRepository) (now : DateTime) (id : Uuid)
    (status : ApprovalRequestStatus) (resolvedBy : String) (resolutionNotes : Option String) :
    Progress ResolutionStage ResolutionAnswer × SqlxApprovalRequestRepository :=
  let (affected, s') := s.updatePending id status now resolvedBy resolutionNotes
  if affected = 0 then
    (.done (.request (.error (.approvalRequestNotPending id
      "atomic update failed - request not in pending status"))), s')
  else (.more (.fetch id), s')

/-- The statement of `mark_expired`. -/
def startMarkExpired (s : SqlxApprovalRequestRepository) (now : DateTime) (id : Uuid)
    (expiredBy reason : String) :
    Progress ResolutionStage ResolutionAnswer × SqlxApprovalRequestRepository :=
  let (affected, s') := s.updatePending id .expired now expiredBy (some reason)
  if affected = 0 then (.more (.explain id), s') else (.more (.fetch id), s')

/-- The calls in SQL, one statement a step. The cancellations have one statement. -/
def resolutions : Calls SqlxApprovalRequestRepository Resolution ResolutionStage
    ResolutionAnswer where
  first := .start
  step
    | .start r, s =>
      match r.call with
      | .approve id resolvedBy notes => s.startUpdateStatus r.now id .approved resolvedBy notes
      | .reject id resolvedBy notes => s.startUpdateStatus r.now id .rejected resolvedBy notes
      | .markExpired id expiredBy reason => s.startMarkExpired r.now id expiredBy reason
      | .cancelPendingByIntent .. | .cancelApprovedByIntent .. | .cancelApprovedByIds .. =>
        let (answer, s') := s.resolve r
        (.done answer, s')
    | .fetch id, s => (.done (.request (s.getApprovalRequest id)), s)
    | .explain id, s => (.done (.request (.error (s.notExpired id))), s)

end SqlxApprovalRequestRepository

namespace SqlxApprovalRequestRepository

theorem startUpdateStatus_finish {s : SqlxApprovalRequestRepository} {r : Resolution} {id : Uuid}
    {status : ApprovalRequestStatus} {resolvedBy : String} {notes : Option String}
    (hstep : resolutions.step (.start r) s =
      s.startUpdateStatus r.now id status resolvedBy notes) :
    resolutions.finish 2 (.start r) s =
      some (ResolutionAnswer.ofRequest (s.updateStatusInDb r.now id status resolvedBy notes)) := by
  rw [startUpdateStatus] at hstep
  rw [updateStatusInDb]
  by_cases h : (s.updatePending id status r.now resolvedBy notes).1 = 0
  · simp only [h, if_true] at hstep ⊢
    exact Calls.finish_done hstep 1
  · simp only [h, if_false] at hstep ⊢
    rw [Calls.finish_more hstep]
    exact Calls.finish_done rfl 0

theorem startMarkExpired_finish {s : SqlxApprovalRequestRepository} {r : Resolution} {id : Uuid}
    {expiredBy reason : String}
    (hstep : resolutions.step (.start r) s = s.startMarkExpired r.now id expiredBy reason) :
    resolutions.finish 2 (.start r) s =
      some (ResolutionAnswer.ofRequest (s.markExpired r.now id expiredBy reason)) := by
  rw [startMarkExpired] at hstep
  rw [markExpired]
  by_cases h : (s.updatePending id .expired r.now expiredBy (some reason)).1 = 0
  · simp only [h, if_true] at hstep ⊢
    rw [Calls.finish_more hstep]
    exact Calls.finish_done rfl 0
  · simp only [h, if_false] at hstep ⊢
    rw [Calls.finish_more hstep]
    exact Calls.finish_done rfl 0

/-- A call that no other interrupts is the repository's. -/
theorem resolutions_finish (s : SqlxApprovalRequestRepository) (r : Resolution) :
    resolutions.finish 2 (.start r) s = some (s.resolve r) := by
  obtain ⟨now, call⟩ := r
  cases call with
  | approve id resolvedBy notes => exact startUpdateStatus_finish rfl
  | reject id resolvedBy notes => exact startUpdateStatus_finish rfl
  | markExpired id expiredBy reason => exact startMarkExpired_finish rfl
  | cancelPendingByIntent intentId tenantId cancelledBy reason => exact Calls.finish_done rfl 1
  | cancelApprovedByIntent intentId tenantId cancelledBy reason => exact Calls.finish_done rfl 1
  | cancelApprovedByIds approvalIds tenantId cancelledBy reason => exact Calls.finish_done rfl 1

end SqlxApprovalRequestRepository

/-- What the calls can change: the requests by identifier, and how many are cancelled. -/
@[ext] structure RequestTable where
  request : Uuid → Option ApprovalRequest
  cancelled : Nat

namespace RequestTable

/-- The table of some stored requests. -/
def ofRequests (m : HashMap Uuid ApprovalRequest) : RequestTable where
  request := m.lookup
  cancelled := countWhere m fun _ r => r.status = .cancelled

/-- The requests after a change of those that are selected. -/
def changed (t : RequestTable) (selected : Uuid → ApprovalRequest → Bool)
    (set : ApprovalRequest → ApprovalRequest) (id : Uuid) : Option ApprovalRequest :=
  (t.request id).map fun r => if selected id r then set r else r

/-- The status of a stored request. -/
def status (t : RequestTable) (id : Uuid) : Option ApprovalRequestStatus :=
  (t.request id).map ApprovalRequest.status

variable {m : HashMap Uuid ApprovalRequest} {selected : Uuid → ApprovalRequest → Bool}
  {set : ApprovalRequest → ApprovalRequest}

theorem status_ofRequests (id : Uuid) :
    (ofRequests m).status id = (m.lookup id).map ApprovalRequest.status := rfl

theorem cancelled_ofRequests :
    (ofRequests m).cancelled = countWhere m fun _ r => r.status = .cancelled := rfl

theorem request_updateWhere : (ofRequests (updateWhere m selected set)).request =
    (ofRequests m).changed selected set :=
  funext fun id => lookup_updateWhere id

/-- A change between other statuses cancels nothing. -/
theorem cancelled_updateWhere_same
    (hbefore : ∀ k r, m.lookup k = some r → selected k r = true → r.status ≠ .cancelled)
    (hafter : ∀ r, (set r).status ≠ .cancelled) :
    (ofRequests (updateWhere m selected set)).cancelled = (ofRequests m).cancelled := by
  rw [cancelled_ofRequests, cancelled_ofRequests]
  refine countWhere_updateWhere_same fun k r hr hselected => ?_
  simp only [hbefore k r hr hselected, hafter r]

/-- A cancellation of requests that are not cancelled adds their number. -/
theorem cancelled_updateWhere_add
    (hbefore : ∀ k r, selected k r = true → r.status ≠ .cancelled)
    (hafter : ∀ r, (set r).status = .cancelled) :
    (ofRequests (updateWhere m selected set)).cancelled =
      (ofRequests m).cancelled + countWhere m selected :=
  countWhere_updateWhere_add (fun k r h => decide_eq_false (hbefore k r h))
    fun _ r _ => decide_eq_true (hafter r)

/-- A statement that selects nothing leaves the table. -/
theorem updateWhere_none (h : countWhere m selected = 0) :
    ofRequests (updateWhere m selected set) = ofRequests m := by
  have hnone := countWhere_eq_zero.mp h
  refine RequestTable.ext (funext fun id => ?_) ?_
  · rw [request_updateWhere]
    cases hr : m.lookup id with
    | none => simp only [changed, ofRequests, hr, Option.map_none]
    | some r =>
      simp only [changed, ofRequests, hr, Option.map_some, hnone id r hr, Bool.false_eq_true,
        if_false]
  · rw [cancelled_ofRequests, cancelled_ofRequests]
    refine countWhere_updateWhere_same fun k r hr hselected => ?_
    rw [hnone k r hr] at hselected
    cases hselected

end RequestTable

namespace ApprovalCall

/-- The request that a call is about, and the status it gives. -/
def resolves : ApprovalCall → Option (Uuid × ApprovalRequestStatus)
  | approve id _ _ => some (id, .approved)
  | reject id _ _ => some (id, .rejected)
  | markExpired id _ _ => some (id, .expired)
  | cancelPendingByIntent .. | cancelApprovedByIntent .. | cancelApprovedByIds .. => none

/-- The status of the requests that a call cancels. -/
def cancels : ApprovalCall → Option ApprovalRequestStatus
  | approve .. | reject .. | markExpired .. => none
  | cancelPendingByIntent .. => some .pending
  | cancelApprovedByIntent .. | cancelApprovedByIds .. => some .approved

/-- The call takes the request out of Pending. -/
def competes (call : ApprovalCall) (id : Uuid) (request : ApprovalRequest) : Bool :=
  match call with
  | approve id' _ _ | reject id' _ _ | markExpired id' _ _ => id' = id
  | cancelPendingByIntent intentId tenantId _ _ =>
    request.intentId = intentId ∧ request.tenantId = tenantId
  | cancelApprovedByIntent .. | cancelApprovedByIds .. => false

end ApprovalCall

/-- What the steps of the calls do: a change of one request finds it pending and sets its status, or
not, and leaves the table; a cancellation sets the status of all that it selects. -/
inductive ResolutionOutcome (t t' : RequestTable) :
    ResolutionStage → Progress ResolutionStage ResolutionAnswer → Prop
  | won {r : Resolution} {id : Uuid} {status : ApprovalRequestStatus} {resolvedBy : String}
      {notes : Option String} {progress : Progress ResolutionStage ResolutionAnswer}
      (hcall : r.call.resolves = some (id, status)) (hpending : t.status id = some .pending)
      (hrequest : t'.request =
        t.changed (fun k _ => k = id) (ApprovalRequest.resolve status r.now resolvedBy notes))
      (hcancelled : t'.cancelled = t.cancelled)
      (hprogress : progress = .more (.fetch id) ∨ ∃ a, progress = .done (.request (.ok a))) :
      ResolutionOutcome t t' (.start r) progress
  | lost {r : Resolution} {id : Uuid} {status : ApprovalRequestStatus}
      {progress : Progress ResolutionStage ResolutionAnswer}
      (hcall : r.call.resolves = some (id, status)) (hpending : t.status id ≠ some .pending)
      (hsame : t' = t)
      (hprogress :
        progress = .more (.explain id) ∨ ∃ e, progress = .done (.request (.error e))) :
      ResolutionOutcome t t' (.start r) progress
  | swept {r : Resolution} {guard : ApprovalRequestStatus}
      {selected : Uuid → ApprovalRequest → Bool} {cancelledBy : String} {notes : Option String}
      {n : Nat} (hcall : r.call.cancels = some guard)
      (hguard : ∀ k a, selected k a = true → a.status = guard)
      (hcompetes :
        ∀ k a, r.call.competes k a = true → a.status = .pending → selected k a = true)
      (hrequest : t'.request =
        t.changed selected (ApprovalRequest.resolve .cancelled r.now cancelledBy notes))
      (hcancelled : t'.cancelled = t.cancelled + n) :
      ResolutionOutcome t t' (.start r) (.done (.count (.ok n)))
  | fetched {id : Uuid} {answer : Except IntentRebaseError ApprovalRequest} (hsame : t' = t)
      (hanswer : (t.request id).isSome → ∃ a, answer = .ok a) :
      ResolutionOutcome t t' (.fetch id) (.done (.request answer))
  | explained {id : Uuid} {e : IntentRebaseError} (hsame : t' = t) :
      ResolutionOutcome t t' (.explain id) (.done (.request (.error e)))

namespace ResolutionOutcome

variable {m : HashMap Uuid ApprovalRequest} {selected : Uuid → ApprovalRequest → Bool}
  {r : Resolution} {id : Uuid} {status : ApprovalRequestStatus} {resolvedBy : String}
  {notes : Option String}

/-- A change of the one pending request that is selected wins. -/
theorem won_updateWhere {progress : Progress ResolutionStage ResolutionAnswer}
    (hcall : r.call.resolves = some (id, status))
    (hpending : (RequestTable.ofRequests m).status id = some .pending)
    (hselected : ∀ k a, m.lookup k = some a → (selected k a = true ↔ k = id))
    (hprogress : progress = .more (.fetch id) ∨ ∃ a, progress = .done (.request (.ok a))) :
    ResolutionOutcome (.ofRequests m)
      (.ofRequests (updateWhere m selected (ApprovalRequest.resolve status r.now resolvedBy notes)))
      (.start r) progress := by
  have hrequest : (RequestTable.ofRequests m).changed selected
        (ApprovalRequest.resolve status r.now resolvedBy notes) =
      (RequestTable.ofRequests m).changed (fun k _ => k = id)
        (ApprovalRequest.resolve status r.now resolvedBy notes) := by
    funext k
    cases hk : m.lookup k with
    | none => simp only [RequestTable.changed, RequestTable.ofRequests, hk, Option.map_none]
    | some a =>
      simp only [RequestTable.changed, RequestTable.ofRequests, hk, Option.map_some,
        hselected k a hk, decide_eq_true_eq]
  refine .won hcall hpending (RequestTable.request_updateWhere.trans hrequest)
    (RequestTable.cancelled_updateWhere_same ?_ ?_) hprogress
  · intro k a hk hsel
    cases (hselected k a hk).mp hsel
    rw [RequestTable.status_ofRequests, hk] at hpending
    rw [Option.some.inj hpending]
    decide
  · intro a
    have hstatus : status ≠ .cancelled := by
      cases hc : r.call <;> rw [hc] at hcall <;> cases hcall <;> decide
    exact hstatus

/-- A cancellation of the requests with a status that it finds sweeps them. -/
theorem swept_updateWhere {guard : ApprovalRequestStatus}
    (hcall : r.call.cancels = some guard)
    (hguard : ∀ k a, selected k a = true → a.status = guard)
    (hcompetes :
      ∀ k a, r.call.competes k a = true → a.status = .pending → selected k a = true) :
    ResolutionOutcome (.ofRequests m)
      (.ofRequests (updateWhere m selected
        (ApprovalRequest.resolve .cancelled r.now resolvedBy notes)))
      (.start r) (.done (.count (.ok (countWhere m selected)))) := by
  refine .swept hcall hguard hcompetes RequestTable.request_updateWhere
    (RequestTable.cancelled_updateWhere_add ?_ fun _ => rfl)
  intro k a hsel
  rw [hguard k a hsel]
  cases hc : r.call <;> rw [hc] at hcall <;> cases hcall <;> decide

/-- A cancellation of approved requests takes none out of Pending. -/
theorem swept_approved (hcall : r.call.cancels = some .approved)
    (hguard : ∀ k a, selected k a = true → a.status = .approved) :
    ResolutionOutcome (.ofRequests m)
      (.ofRequests (updateWhere m selected
        (ApprovalRequest.resolve .cancelled r.now resolvedBy notes)))
      (.start r) (.done (.count (.ok (countWhere m selected)))) := by
  refine swept_updateWhere hcall hguard fun k a h => ?_
  cases hc : r.call with
  | cancelApprovedByIntent _ _ _ _ | cancelApprovedByIds _ _ _ _ =>
    rw [hc] at h
    cases h
  | approve _ _ _ | reject _ _ _ | markExpired _ _ _ | cancelPendingByIntent _ _ _ _ =>
    rw [hc] at hcall
    cases hcall

/-- A cancellation of no request. -/
theorem swept_none {t : RequestTable} {guard : ApprovalRequestStatus}
    (hcall : r.call.cancels = some guard) (hcompetes : ∀ k a, r.call.competes k a ≠ true) :
    ResolutionOutcome t t (.start r) (.done (.count (.ok 0))) := by
  have hsame : t.request = t.changed (fun _ _ => false)
      (ApprovalRequest.resolve .cancelled r.now "" none) := by
    funext k
    simp only [RequestTable.changed, Bool.false_eq_true, if_false, Option.map_id']
  refine .swept hcall ?_ ?_ hsame rfl
  · intro _ _ h
    cases h
  · exact fun k a h => absurd h (hcompetes k a)

end ResolutionOutcome

namespace InMemoryApprovalRequestRepository

/-- The table that the repository keeps. -/
def table (s : InMemoryApprovalRequestRepository) : RequestTable := .ofRequests s.requests

variable (s : InMemoryApprovalRequestRepository)

/-- A change of one request, with its error for one that is not there. -/
theorem outcome_change {r : Resolution} {id : Uuid} {status : ApprovalRequestStatus}
    {resolvedBy : String} {notes : Option String} {missing : IntentRebaseError}
    {result : Except IntentRebaseError ApprovalRequest × InMemoryApprovalRequestRepository}
    (hcall : r.call.resolves = some (id, status))
    (hresult : result = match s.requests.lookup id with
      | none => (.error missing, s)
      | some request =>
        if request.status ≠ .pending then
          (.error (.approvalRequestNotPending id request.status.debug), s)
        else
          let set := ApprovalRequest.resolve status r.now resolvedBy notes
          (.ok (set request), s.modify id set)) :
    ResolutionOutcome s.table result.2.table (.start r) (.done (.request result.1)) := by
  subst hresult
  cases hrequest : s.requests.lookup id with
  | none =>
    refine .lost hcall ?_ rfl (.inr ⟨_, rfl⟩)
    rw [table, RequestTable.status_ofRequests, hrequest]
    simp
  | some request =>
    by_cases hpending : request.status = .pending
    · simp only [hpending, ne_eq, not_true_eq_false, if_false]
      refine ResolutionOutcome.won_updateWhere hcall ?_ (fun k a _ => beq_iff_eq)
        (.inr ⟨_, rfl⟩)
      rw [RequestTable.status_ofRequests, hrequest, Option.map_some, hpending]
    · simp only [hpending, ne_eq, not_false_eq_true, if_true]
      refine .lost hcall ?_ rfl (.inr ⟨_, rfl⟩)
      rw [table, RequestTable.status_ofRequests, hrequest, Option.map_some]
      exact fun h => hpending (Option.some.inj h)

theorem outcome (k : ResolutionStage) :
    ResolutionOutcome s.table (resolutions.step k s).2.table k (resolutions.step k s).1 := by
  cases k with
  | start r =>
    obtain ⟨now, call⟩ := r
    cases call with
    | approve id resolvedBy notes => exact s.outcome_change rfl rfl
    | reject id resolvedBy notes => exact s.outcome_change rfl rfl
    | markExpired id expiredBy reason => exact s.outcome_change rfl rfl
    | cancelPendingByIntent intentId tenantId cancelledBy reason =>
      refine ResolutionOutcome.swept_updateWhere rfl ?_ ?_
      · intro _ a h
        simp only [decide_eq_true_eq] at h
        exact h.2.2
      · intro _ a h hpending
        simp only [ApprovalCall.competes, decide_eq_true_eq] at h ⊢
        exact ⟨h.1, h.2, hpending⟩
    | cancelApprovedByIntent intentId tenantId cancelledBy reason =>
      exact ResolutionOutcome.swept_approved rfl fun _ _ h => (of_decide_eq_true h).2.2
    | cancelApprovedByIds approvalIds tenantId cancelledBy reason =>
      exact ResolutionOutcome.swept_approved rfl fun _ _ h => (of_decide_eq_true h).2.2
  | fetch id =>
    refine .fetched rfl fun h => ?_
    obtain ⟨a, ha⟩ := Option.isSome_iff_exists.mp h
    exact ⟨a, by simp only [getApprovalRequest, show s.requests.lookup id = some a from ha]⟩
  | explain id => exact .explained rfl

end InMemoryApprovalRequestRepository

namespace SqlxApprovalRequestRepository

/-- The table that the repository keeps. -/
def table (s : SqlxApprovalRequestRepository) : RequestTable := .ofRequests s.rows

variable {s : SqlxApprovalRequestRepository}

/-- A change of one request affects no row if it is not pending. -/
theorem updatePending_zero {id : Uuid} {status : ApprovalRequestStatus} {now : DateTime}
    {resolvedBy : String} {notes : Option String} :
    (s.updatePending id status now resolvedBy notes).1 = 0 ↔
      s.table.status id ≠ some .pending := by
  rw [updatePending, update, countWhere_eq_zero, table, RequestTable.status_ofRequests]
  constructor
  · intro h hstatus
    obtain ⟨row, hrow, hpending⟩ := Option.map_eq_some_iff.mp hstatus
    have hselected := h id row hrow
    simp only [hpending, beq_self_eq_true, decide_true, Bool.and_self, Bool.true_eq_false]
      at hselected
  · intro h k row hrow
    refine Bool.eq_false_iff.mpr fun hselected => ?_
    rw [Bool.and_eq_true, beq_iff_eq, decide_eq_true_eq] at hselected
    obtain ⟨rfl, hpending⟩ := hselected
    exact h (by rw [hrow, Option.map_some, hpending])

section Change

variable {r : Resolution} {id : Uuid} {status : ApprovalRequestStatus} {resolvedBy : String}
  {notes : Option String} (hcall : r.call.resolves = some (id, status))

include hcall

theorem outcome_updatePending_won
    (h : (s.updatePending id status r.now resolvedBy notes).1 ≠ 0) :
    ResolutionOutcome s.table (s.updatePending id status r.now resolvedBy notes).2.table
      (.start r) (.more (.fetch id)) := by
  have hpending := not_ne_iff.mp (mt updatePending_zero.mpr h)
  refine ResolutionOutcome.won_updateWhere hcall hpending ?_ (.inl rfl)
  intro k row hrow
  rw [Bool.and_eq_true, beq_iff_eq, decide_eq_true_eq]
  refine ⟨And.left, fun hk => ⟨hk, ?_⟩⟩
  cases hk
  rw [table, RequestTable.status_ofRequests, hrow] at hpending
  exact Option.some.inj hpending

theorem outcome_updatePending_lost {progress : Progress ResolutionStage ResolutionAnswer}
    (h : (s.updatePending id status r.now resolvedBy notes).1 = 0)
    (hprogress :
      progress = .more (.explain id) ∨ ∃ e, progress = .done (.request (.error e))) :
    ResolutionOutcome s.table (s.updatePending id status r.now resolvedBy notes).2.table
      (.start r) progress :=
  .lost hcall (updatePending_zero.mp h) (RequestTable.updateWhere_none h) hprogress

theorem outcome_startUpdateStatus : ResolutionOutcome s.table
    (s.startUpdateStatus r.now id status resolvedBy notes).2.table (.start r)
    (s.startUpdateStatus r.now id status resolvedBy notes).1 := by
  rw [startUpdateStatus]
  by_cases h : (s.updatePending id status r.now resolvedBy notes).1 = 0
  · simp only [h, if_true]
    exact outcome_updatePending_lost hcall h (.inr ⟨_, rfl⟩)
  · simp only [h, if_false]
    exact outcome_updatePending_won hcall h

end Change

theorem outcome_startMarkExpired {r : Resolution} {id : Uuid} {expiredBy reason : String}
    (hcall : r.call.resolves = some (id, .expired)) : ResolutionOutcome s.table
      (s.startMarkExpired r.now id expiredBy reason).2.table (.start r)
      (s.startMarkExpired r.now id expiredBy reason).1 := by
  rw [startMarkExpired]
  by_cases h : (s.updatePending id .expired r.now expiredBy (some reason)).1 = 0
  · simp only [h, if_true]
    exact outcome_updatePending_lost hcall h (.inl rfl)
  · simp only [h, if_false]
    exact outcome_updatePending_won hcall h

theorem outcome (s : SqlxApprovalRequestRepository) (k : ResolutionStage) :
    ResolutionOutcome s.table (resolutions.step k s).2.table k (resolutions.step k s).1 := by
  cases k with
  | start r =>
    obtain ⟨now, call⟩ := r
    cases call with
    | approve id resolvedBy notes => exact outcome_startUpdateStatus rfl
    | reject id resolvedBy notes => exact outcome_startUpdateStatus rfl
    | markExpired id expiredBy reason => exact outcome_startMarkExpired rfl
    | cancelPendingByIntent intentId tenantId cancelledBy reason =>
      refine ResolutionOutcome.swept_updateWhere rfl ?_ ?_
      · intro _ a h
        simp only [decide_eq_true_eq] at h
        exact h.2.2
      · intro _ a h hpending
        simp only [ApprovalCall.competes, decide_eq_true_eq] at h ⊢
        exact ⟨h.1, h.2, hpending⟩
    | cancelApprovedByIntent intentId tenantId cancelledBy reason =>
      exact ResolutionOutcome.swept_approved rfl fun _ _ h => (of_decide_eq_true h).2.2
    | cancelApprovedByIds approvalIds tenantId cancelledBy reason =>
      cases approvalIds with
      | nil =>
        refine ResolutionOutcome.swept_none rfl fun _ _ h => ?_
        cases h
      | cons approvalId approvalIds =>
        exact ResolutionOutcome.swept_approved rfl fun _ _ h => (of_decide_eq_true h).2.2
  | fetch id =>
    refine .fetched rfl fun h => ?_
    obtain ⟨a, ha⟩ := Option.isSome_iff_exists.mp h
    exact ⟨a, by simp only [getApprovalRequest, show s.rows.lookup id = some a from ha]⟩
  | explain id => exact .explained rfl

end SqlxApprovalRequestRepository

/-- Calls that start with their first statement, and whose steps have the outcomes above. -/
structure Resolves {σ : Type} (calls : Calls σ Resolution ResolutionStage ResolutionAnswer)
    (table : σ → RequestTable) : Prop where
  first : ∀ r, calls.first r = .start r
  outcome : ∀ k s, ResolutionOutcome (table s) (table (calls.step k s).2) k (calls.step k s).1

theorem InMemoryApprovalRequestRepository.resolves :
    Resolves InMemoryApprovalRequestRepository.resolutions
      InMemoryApprovalRequestRepository.table :=
  ⟨fun _ => rfl, fun k s => s.outcome k⟩

theorem SqlxApprovalRequestRepository.resolves :
    Resolves SqlxApprovalRequestRepository.resolutions SqlxApprovalRequestRepository.table :=
  ⟨fun _ => rfl, fun k s => s.outcome k⟩

end IntentRebase
