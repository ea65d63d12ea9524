import IntentRebase.Intent.ApprovalResolution

/-! Approval requests are resolved once, whatever the order of the steps of the calls. -/

namespace IntentRebase

open Kit

namespace Resolves

/-- A later status is the same, or the request was pending, or it was approved and is cancelled. -/
def Later (before after : Option ApprovalRequestStatus) : Prop :=
  after = before ∨ (before = some .pending ∧ after ≠ some .pending) ∨
    (before = some .approved ∧ after = some .cancelled)

section Outcome

variable {t t' : RequestTable} {k : ResolutionStage}
  {progress : Progress ResolutionStage ResolutionAnswer} {id : Uuid} {request : ApprovalRequest}

theorem changed_cases {selected : Uuid → ApprovalRequest → Bool}
    {set : ApprovalRequest → ApprovalRequest} (h : t'.request = t.changed selected set)
    (id : Uuid) : t'.request id = t.request id ∨ ∃ request, t.request id = some request ∧
      selected id request = true ∧ t'.request id = some (set request) := by
  rw [h, RequestTable.changed]
  cases hrequest : t.request id with
  | none => exact .inl rfl
  | some request =>
    by_cases hselected : selected id request = true
    · exact .inr ⟨request, rfl, hselected, by simp only [Option.map_some, hselected, if_true]⟩
    · exact .inl (by simp only [Option.map_some, hselected, Bool.false_eq_true, if_false])

theorem resolves_ne {call : ApprovalCall} {status : ApprovalRequestStatus}
    (h : call.resolves = some (id, status)) : status ≠ .pending := by
  cases call <;> cases h <;> decide

/-- A step leaves a request, or resolves one that is pending, or cancels one that is approved. -/
theorem request_cases (h : ResolutionOutcome t t' k progress) (id : Uuid) :
    t'.request id = t.request id ∨ ∃ request status now resolvedBy notes,
      t.request id = some request ∧
      t'.request id = some (ApprovalRequest.resolve status now resolvedBy notes request) ∧
      (request.status = .pending ∧ status ≠ .pending ∨
        request.status = .approved ∧ status = .cancelled) := by
  cases h with
  | won hcall hpending hrequest =>
    rcases changed_cases hrequest id with hsame | ⟨request, hr, hselected, hset⟩
    · exact .inl hsame
    · cases of_decide_eq_true hselected
      rw [RequestTable.status, hr] at hpending
      exact .inr ⟨request, _, _, _, _, hr, hset,
        .inl ⟨Option.some.inj hpending, resolves_ne hcall⟩⟩
  | @swept r guard selected cancelledBy notes n hcall hguard _ hrequest =>
    rcases changed_cases hrequest id with hsame | ⟨request, hr, hselected, hset⟩
    · exact .inl hsame
    · have hstatus := hguard id request hselected
      refine .inr ⟨request, _, _, _, _, hr, hset, ?_⟩
      rw [hstatus]
      cases hc : r.call <;> rw [hc] at hcall <;> cases hcall <;> decide
  | lost _ _ hsame => exact .inl (by rw [hsame])
  | fetched hsame => exact .inl (by rw [hsame])
  | explained hsame => exact .inl (by rw [hsame])

/-- A step keeps each request, of the same intent and tenant. -/
theorem request_kept (h : ResolutionOutcome t t' k progress) (hr : t.request id = some request) :
    ∃ request', t'.request id = some request' ∧ request'.intentId = request.intentId ∧
      request'.tenantId = request.tenantId := by
  rcases request_cases h id with hsame | ⟨request', status, now, resolvedBy, notes, hr', hset, _⟩
  · exact ⟨request, hsame.trans hr, rfl, rfl⟩
  · cases hr.symm.trans hr'
    exact ⟨_, hset, rfl, rfl⟩

theorem status_later (h : ResolutionOutcome t t' k progress) (id : Uuid) :
    Later (t.status id) (t'.status id) := by
  rw [RequestTable.status, RequestTable.status]
  rcases request_cases h id with
    hsame | ⟨request, status, now, resolvedBy, notes, hr, hset, hfrom⟩
  · rw [hsame]
    exact .inl rfl
  · rw [hr, hset, Option.map_some, Option.map_some, ApprovalRequest.resolve_status]
    rcases hfrom with ⟨hpending, hne⟩ | ⟨happroved, hcancelled⟩
    · exact .inr (.inl ⟨by rw [hpending], fun h => hne (Option.some.inj h)⟩)
    · exact .inr (.inr ⟨by rw [happroved], by rw [hcancelled]⟩)

theorem resolves_id {call : ApprovalCall} {id' : Uuid} {status : ApprovalRequestStatus}
    (hcall : call.resolves = some (id', status)) (hcompetes : call.competes id request = true) :
    id' = id := by
  cases call <;> cases hcall <;> exact of_decide_eq_true hcompetes

/-- A call that takes a request out of Pending leaves it in another status. -/
theorem competes_settles {r : Resolution} (h : ResolutionOutcome t t' (.start r) progress)
    (hr : t.request id = some request) (hcompetes : r.call.competes id request = true) :
    t'.status id ≠ some .pending := by
  cases h with
  | won hcall _ hrequest =>
    rw [RequestTable.status, hrequest, RequestTable.changed, hr, resolves_id hcall hcompetes]
    simp only [decide_true, if_true, Option.map_some, ApprovalRequest.resolve_status]
    exact fun h => resolves_ne hcall (Option.some.inj h)
  | lost hcall hpending hsame =>
    rw [hsame, ← resolves_id hcall hcompetes]
    exact hpending
  | swept _ _ hselects hrequest =>
    rw [RequestTable.status, hrequest, RequestTable.changed, hr, Option.map_some, Option.map_some]
    split
    · simp
    · next hselected =>
      exact fun hpending => hselected (hselects id request hcompetes (Option.some.inj hpending))

end Outcome

end Resolves

/-- The stage is of a call that takes the request out of Pending. -/
def ResolutionStage.competes (stage : ResolutionStage) (id : Uuid)
    (request : ApprovalRequest) : Bool :=
  match stage with
  | start r => r.call.competes id request
  | fetch id' | explain id' => id' = id

/-- Whether an answer of a stage reports the resolution of a request: a success of a call about it,
or of a cancellation at which it leaves Pending. -/
def ResolutionStage.reports (stage : ResolutionStage) (answer : ResolutionAnswer) (id : Uuid)
    (leaves : Bool) : Bool :=
  answer.succeeds &&
    match stage with
    | start r =>
      match r.call.resolves with
      | some (id', _) => id' = id
      | none => leaves
    | fetch id' | explain id' => id' = id

theorem ResolutionStage.competes_congr {stage : ResolutionStage} {id : Uuid}
    {request request' : ApprovalRequest} (hintent : request'.intentId = request.intentId)
    (htenant : request'.tenantId = request.tenantId) :
    stage.competes id request' = stage.competes id request := by
  cases stage with
  | start r =>
    rw [competes, competes]
    cases r.call with
    | cancelPendingByIntent intentId tenantId _ _ =>
      rw [ApprovalCall.competes, ApprovalCall.competes, hintent, htenant]
    | _ => rfl
  | fetch id' => rfl
  | explain id' => rfl

section ResolvedOnce

variable {σ : Type} (calls : Calls σ Resolution ResolutionStage ResolutionAnswer)
  (table : σ → RequestTable)

/-- The status of a request before a turn. -/
abbrev statusAt (s : Clients σ ResolutionStage) (id : Uuid) : Option ApprovalRequestStatus :=
  (table s.store).status id

/-- Whether a turn takes a request out of Pending. -/
def leavesPending (id : Uuid) (s : Clients σ ResolutionStage) (t : Turn Resolution) : Bool :=
  statusAt table s id = some .pending ∧
    statusAt table (Clients.turn calls s t) id ≠ some .pending

/-- Whether a turn reports the resolution of a request. -/
def reportsResolution (id : Uuid) (s : Clients σ ResolutionStage) (t : Turn Resolution) : Bool :=
  match Clients.answer calls s t with
  | none => false
  | some (k, a) => k.reports a id (leavesPending calls table id s t)

/-- The number of cancelled requests that a turn reports. -/
def reportedCancelled (s : Clients σ ResolutionStage) (t : Turn Resolution) : Nat :=
  match Clients.answer calls s t with
  | none => 0
  | some (_, a) => a.cancelled

/-- Each request is resolved once in a sequence of turns. -/
structure ResolvedOnce (s : Clients σ ResolutionStage) (turns : List (Turn Resolution)) : Prop where
  /-- A request leaves Pending at most once. -/
  leaves : ∀ id, Clients.total calls (fun s t => (leavesPending calls table id s t).toNat) s
    turns ≤ 1
  /-- At most one resolution of a request reports a success. -/
  reports : ∀ id, Clients.total calls (fun s t => (reportsResolution calls table id s t).toNat) s
    turns ≤ 1
  /-- One resolution of a request has reported a success when it has left Pending, unless the call
  that resolved it has still to read its answer. -/
  winner : ∀ id, statusAt table s id = some .pending →
    (∀ client, (Clients.run calls s turns).stage client ≠ some (.fetch id)) →
    (statusAt table (Clients.run calls s turns) id ≠ some .pending ↔
      Clients.total calls (fun s t => (reportsResolution calls table id s t).toNat) s turns = 1)
  /-- A request has left Pending when a call that takes it out has answered. -/
  competed : ∀ id request k a, (table s.store).request id = some request →
    (k, a) ∈ Clients.answers calls s turns → k.competes id request = true →
    statusAt table (Clients.run calls s turns) id ≠ some .pending
  /-- Rejected, Expired and Cancelled never change, and Approved only to Cancelled. -/
  settled : ∀ id earlier later status, earlier ++ later <+: turns → status ≠ .pending →
    statusAt table (Clients.run calls s earlier) id = some status →
    statusAt table (Clients.run calls s (earlier ++ later)) id = some status ∨
      status = .approved ∧
        statusAt table (Clients.run calls s (earlier ++ later)) id = some .cancelled
  /-- The counts of the cancellations add up to the requests that they cancelled. -/
  counts : (table s.store).cancelled + Clients.total calls (reportedCancelled calls) s turns =
    (table (Clients.run calls s turns).store).cancelled

end ResolvedOnce

namespace Resolves

variable {σ : Type} {calls : Calls σ Resolution ResolutionStage ResolutionAnswer}
  {table : σ → RequestTable} {s : Clients σ ResolutionStage} {t : Turn Resolution} {id : Uuid}
  (h : Resolves calls table)

include h

/-- A turn does nothing to the table, or it has the outcome of a step. -/
theorem turn_outcome (s : Clients σ ResolutionStage) (t : Turn Resolution) :
    table (Clients.turn calls s t).store = table s.store ∨
      ∃ k progress, ResolutionOutcome (table s.store)
        (table (Clients.turn calls s t).store) k progress := by
  rcases Clients.turn_store calls s t with hsame | ⟨client, k, _, _, hstore⟩
  · exact .inl (by rw [hsame])
  · exact .inr ⟨k, _, hstore ▸ h.outcome k s.store⟩

theorem turn_later (s : Clients σ ResolutionStage) (t : Turn Resolution) (id : Uuid) :
    Later (statusAt table s id) (statusAt table (Clients.turn calls s t) id) := by
  rcases h.turn_outcome s t with hsame | ⟨k, progress, houtcome⟩
  · exact .inl (by rw [statusAt, hsame])
  · exact status_later houtcome id

/-- A request that is not pending never is again. -/
theorem notPending_turn (hs : statusAt table s id ≠ some .pending) (t : Turn Resolution) :
    statusAt table (Clients.turn calls s t) id ≠ some .pending := by
  rcases h.turn_later s t id with hsame | ⟨hpending, _⟩ | ⟨_, hcancelled⟩
  · rwa [hsame]
  · exact absurd hpending hs
  · rw [hcancelled]
    simp

theorem notPending_run (hs : statusAt table s id ≠ some .pending) (turns : List (Turn Resolution)) :
    statusAt table (Clients.run calls s turns) id ≠ some .pending := by
  have hkeep : ∀ (s : Clients σ ResolutionStage) (t : Turn Resolution),
      statusAt table s id ≠ some .pending →
      statusAt table (Clients.turn calls s t) id ≠ some .pending :=
    fun _ t hs => h.notPending_turn hs t
  exact Clients.run_invariant hkeep hs turns

theorem settled_run {status : ApprovalRequestStatus} (hstatus : status ≠ .pending)
    (hs : statusAt table s id = some status) (turns : List (Turn Resolution)) :
    statusAt table (Clients.run calls s turns) id = some status ∨
      status = .approved ∧ statusAt table (Clients.run calls s turns) id = some .cancelled := by
  have hkeep : ∀ (s : Clients σ ResolutionStage) (t : Turn Resolution),
      (statusAt table s id = some status ∨
        status = .approved ∧ statusAt table s id = some .cancelled) →
      (statusAt table (Clients.turn calls s t) id = some status ∨
        status = .approved ∧ statusAt table (Clients.turn calls s t) id = some .cancelled) := by
    intro s t hs
    rcases h.turn_later s t id with hsame | ⟨hpending, _⟩ | ⟨happroved, hcancelled⟩
    · rwa [hsame]
    · rcases hs with hs | ⟨_, hs⟩
      · exact absurd (Option.some.inj (hs.symm.trans hpending)) hstatus
      · cases hs.symm.trans hpending
    · rcases hs with hs | ⟨_, hs⟩
      · exact .inr ⟨Option.some.inj (hs.symm.trans happroved), hcancelled⟩
      · cases hs.symm.trans happroved
  exact Clients.run_invariant hkeep (.inl hs) turns

/-- A request stays, of the same intent and tenant. -/
theorem request_run {request : ApprovalRequest} (hs : (table s.store).request id = some request)
    (turns : List (Turn Resolution)) :
    ∃ request', (table (Clients.run calls s turns).store).request id = some request' ∧
      request'.intentId = request.intentId ∧ request'.tenantId = request.tenantId := by
  have hkeep : ∀ (s : Clients σ ResolutionStage) (t : Turn Resolution),
      (∃ request', (table s.store).request id = some request' ∧
        request'.intentId = request.intentId ∧ request'.tenantId = request.tenantId) →
      ∃ request', (table (Clients.turn calls s t).store).request id = some request' ∧
        request'.intentId = request.intentId ∧ request'.tenantId = request.tenantId := by
    rintro s t ⟨request', hr, hintent, htenant⟩
    rcases h.turn_outcome s t with hsame | ⟨k, progress, houtcome⟩
    · exact ⟨request', by rw [hsame, hr], hintent, htenant⟩
    · obtain ⟨request'', hr', hintent', htenant'⟩ := request_kept houtcome hr
      exact ⟨request'', hr', hintent'.trans hintent, htenant'.trans htenant⟩
  exact Clients.run_invariant hkeep ⟨request, hs, rfl, rfl⟩ turns

omit h

/-- What a turn is for one request: a call resolves it and has still to read its answer, or resolves
it and answers, or reads the answer of a resolution; or it does nothing of these. -/
inductive Phase (table : σ → RequestTable) (id : Uuid) (s s' : Clients σ ResolutionStage)
    (reported : Bool) : Prop
  | quiet (hpending : statusAt table s' id = some .pending ↔ statusAt table s id = some .pending)
      (hstage : ∀ c, s'.stage c = some (.fetch id) ↔ s.stage c = some (.fetch id))
      (hreported : reported = false)
  | resolved (client : Nat) (hpending : statusAt table s id = some .pending)
      (hsettled : statusAt table s' id ≠ some .pending)
      (hstage : ∀ c, s'.stage c = some (.fetch id) ↔ c = client ∨ s.stage c = some (.fetch id))
      (hreported : reported = false)
  | reported (hpending : statusAt table s id = some .pending)
      (hsettled : statusAt table s' id ≠ some .pending)
      (hstage : ∀ c, s'.stage c = some (.fetch id) ↔ s.stage c = some (.fetch id))
      (hreported : reported = true)
  | answered (client : Nat) (hclient : s.stage client = some (.fetch id))
      (hpending : statusAt table s' id = statusAt table s id)
      (hstage : ∀ c, s'.stage c = some (.fetch id) ↔ c ≠ client ∧ s.stage c = some (.fetch id))
      (hreported : reported = true)

theorem stage_update {stage : Nat → Option ResolutionStage} {client : Nat}
    {k : Option ResolutionStage} (hbefore : stage client ≠ some (.fetch id))
    (hafter : k ≠ some (.fetch id)) (c : Nat) :
    Function.update stage client k c = some (.fetch id) ↔ stage c = some (.fetch id) := by
  rw [Function.update_apply]
  split
  · next hc =>
    rw [hc]
    exact ⟨fun hk => absurd hk hafter, fun hk => absurd hk hbefore⟩
  · rfl

theorem stage_update_fetch {stage : Nat → Option ResolutionStage} (client c : Nat) :
    Function.update stage client (some (.fetch id)) c = some (.fetch id) ↔
      c = client ∨ stage c = some (.fetch id) := by
  rw [Function.update_apply]
  split
  · next hc => simp only [hc, true_or]
  · next hc => simp only [hc, false_or]

theorem stage_update_none {stage : Nat → Option ResolutionStage} (client c : Nat) :
    Function.update stage client none c = some (.fetch id) ↔
      c ≠ client ∧ stage c = some (.fetch id) := by
  rw [Function.update_apply]
  split
  · next hc => simp only [hc, ne_eq, not_true_eq_false, false_and, reduceCtorEq]
  · next hc => simp only [hc, ne_eq, not_false_eq_true, true_and]

/-- A resolution of another request leaves the status. -/
theorem status_of_other {t t' : RequestTable} {id' : Uuid}
    {set : ApprovalRequest → ApprovalRequest} (hne : id' ≠ id)
    (hrequest : t'.request = t.changed (fun k _ => k = id') set) : t'.status id = t.status id := by
  rw [RequestTable.status, RequestTable.status]
  rcases changed_cases hrequest id with hsame | ⟨request, _, hselected, _⟩
  · rw [hsame]
  · exact absurd (of_decide_eq_true hselected).symm hne

theorem status_of_won {t t' : RequestTable} {status : ApprovalRequestStatus} {now : DateTime}
    {resolvedBy : String} {notes : Option String} (hpending : t.status id = some .pending)
    (hrequest : t'.request =
      t.changed (fun k _ => k = id) (ApprovalRequest.resolve status now resolvedBy notes)) :
    t'.status id = some status := by
  obtain ⟨request, hr, _⟩ := Option.map_eq_some_iff.mp hpending
  rw [RequestTable.status, hrequest, RequestTable.changed, hr]
  simp only [decide_true, if_true, Option.map_some, ApprovalRequest.resolve_status]

theorem phase_more {client : Nat} {k k' : ResolutionStage} {store : σ}
    (hclient : s.stage client = some k)
    (h : ResolutionOutcome (table s.store) (table store) k (.more k')) :
    Phase table id s { store, stage := Function.update s.stage client (some k') } false := by
  cases h with
  | @won _ id' _ _ _ _ hcall hpending hrequest _ hprogress =>
    rcases hprogress with hmore | ⟨_, hdone⟩
    next =>
      cases hmore
      by_cases hid : id' = id
      · cases hid
        refine .resolved client hpending ?_ (stage_update_fetch client) rfl
        rw [statusAt, status_of_won hpending hrequest]
        exact fun hstatus => resolves_ne hcall (Option.some.inj hstatus)
      · refine .quiet ?_ (stage_update (by rw [hclient]; simp) (by simpa using hid)) rfl
        rw [statusAt, status_of_other hid hrequest]
    next => cases hdone
  | lost _ _ hsame hprogress =>
    rcases hprogress with hmore | ⟨_, hdone⟩
    next =>
      cases hmore
      exact .quiet (by rw [statusAt, hsame]) (stage_update (by rw [hclient]; simp) (by simp)) rfl
    next => cases hdone

theorem phase_done {client : Nat} {k : ResolutionStage} {a : ResolutionAnswer} {store : σ}
    (hclient : s.stage client = some k)
    (h : ResolutionOutcome (table s.store) (table store) k (.done a))
    (hpresent : k = .fetch id → ((table s.store).request id).isSome) :
    Phase table id s { store, stage := Function.update s.stage client none }
      (k.reports a id (statusAt table s id = some .pending ∧
        (table store).status id ≠ some .pending)) := by
  have hothers (hk : k ≠ .fetch id) (c : Nat) :
      Function.update s.stage client none c = some (.fetch id) ↔ s.stage c = some (.fetch id) :=
    stage_update (by rw [hclient]; simpa using hk) (by simp) c
  have hlater := status_later h id
  cases h with
  | @won _ id' _ _ _ _ hcall hpending hrequest _ hprogress =>
    rcases hprogress with hmore | ⟨request, hdone⟩
    next => cases hmore
    next =>
      cases hdone
      by_cases hid : id' = id
      · cases hid
        refine .reported hpending ?_ (hothers (by simp)) ?_
        · rw [statusAt, status_of_won hpending hrequest]
          exact fun hstatus => resolves_ne hcall (Option.some.inj hstatus)
        · simp only [ResolutionStage.reports, hcall, ResolutionAnswer.succeeds, decide_true,
            Bool.and_self]
      · refine .quiet ?_ (hothers (by simp)) ?_
        · rw [statusAt, status_of_other hid hrequest]
        · simp only [ResolutionStage.reports, hcall, hid, decide_false, Bool.and_false]
  | lost _ _ hsame hprogress =>
    rcases hprogress with hmore | ⟨_, hdone⟩
    next => cases hmore
    next =>
      cases hdone
      exact .quiet (by rw [statusAt, hsame]) (hothers (by simp)) rfl
  | @swept r _ _ _ _ _ hcall =>
    have hnone : r.call.resolves = none := by
      cases hc : r.call <;> rw [hc] at hcall <;> cases hcall <;> rfl
    simp only [ResolutionStage.reports, hnone, ResolutionAnswer.succeeds, Bool.true_and]
    by_cases hleaves : statusAt table s id = some .pending ∧
      (table store).status id ≠ some .pending
    · exact .reported hleaves.1 hleaves.2 (hothers (by simp)) (decide_eq_true hleaves)
    · refine .quiet ⟨fun hstill => ?_, fun hpending => ?_⟩ (hothers (by simp))
        (decide_eq_false hleaves)
      · rcases hlater with hsame | ⟨hpending, _⟩ | ⟨_, hcancelled⟩
        · exact hsame.symm.trans hstill
        · exact hpending
        · cases hcancelled.symm.trans hstill
      · by_contra hstill
        exact hleaves ⟨hpending, hstill⟩
  | @fetched id' _ hsame hanswer =>
    by_cases hid : id' = id
    · cases hid
      obtain ⟨request, rfl⟩ := hanswer (hpresent rfl)
      refine .answered client hclient (by rw [statusAt, hsame]) (stage_update_none client) ?_
      simp only [ResolutionStage.reports, ResolutionAnswer.succeeds, decide_true, Bool.and_self]
    · refine .quiet (by rw [statusAt, hsame]) (hothers (by simpa using hid)) ?_
      simp only [ResolutionStage.reports, hid, decide_false, Bool.and_false]
  | explained hsame => exact .quiet (by rw [statusAt, hsame]) (hothers (by simp)) rfl

include h

theorem phase (hpresent : ∀ c, s.stage c = some (.fetch id) →
      ((table s.store).request id).isSome) (t : Turn Resolution) :
    Phase table id s (Clients.turn calls s t) (reportsResolution calls table id s t) := by
  have htook := Clients.took calls s t
  rw [reportsResolution, leavesPending]
  generalize Clients.answer calls s t = answer at htook ⊢
  generalize Clients.turn calls s t = s' at htook ⊢
  cases htook with
  | idle => exact .quiet Iff.rfl (fun _ => Iff.rfl) rfl
  | start hclient =>
    rw [h.first]
    exact .quiet Iff.rfl (stage_update (by rw [hclient]; simp) (by simp)) rfl
  | @more client k k' store hclient hstep =>
    have houtcome := h.outcome k s.store
    rw [hstep] at houtcome
    exact phase_more hclient houtcome
  | @done client k a store hclient hstep =>
    have houtcome := h.outcome k s.store
    rw [hstep] at houtcome
    exact phase_done hclient houtcome fun hk => hpresent client (hclient.trans (by rw [hk]))

omit h

/-- What holds of the calls that have resolved a request and have still to read it: there is one at
most, and it finds the request, which has left Pending. -/
structure InFlight (table : σ → RequestTable) (id : Uuid) (s : Clients σ ResolutionStage) :
    Prop where
  single : ∀ c c', s.stage c = some (.fetch id) → s.stage c' = some (.fetch id) → c = c'
  present : ∀ c, s.stage c = some (.fetch id) → ((table s.store).request id).isSome
  settled : ∀ c, s.stage c = some (.fetch id) → statusAt table s id ≠ some .pending

theorem inFlight_idle (store : σ) (id : Uuid) : InFlight table id (Clients.idle store) where
  single := fun _ _ h => by cases h
  present := fun _ h => by cases h
  settled := fun _ h => by cases h

/-- A request that is not there is not pending. -/
theorem isSome_of_status {status : ApprovalRequestStatus}
    (hs : statusAt table s id = some status) : ((table s.store).request id).isSome := by
  obtain ⟨request, hr, _⟩ := Option.map_eq_some_iff.mp hs
  rw [hr, Option.isSome_some]

include h

theorem isSome_turn (hs : ((table s.store).request id).isSome) (t : Turn Resolution) :
    ((table (Clients.turn calls s t).store).request id).isSome := by
  obtain ⟨request, hr⟩ := Option.isSome_iff_exists.mp hs
  obtain ⟨request', hr', _, _⟩ := h.request_run hr [t]
  exact Option.isSome_iff_exists.mpr ⟨request', hr'⟩

theorem InFlight.turn (hs : InFlight table id s) (t : Turn Resolution) :
    InFlight table id (Clients.turn calls s t) := by
  have hkept : ((table s.store).request id).isSome →
      ((table (Clients.turn calls s t).store).request id).isSome :=
    fun hpresent => h.isSome_turn hpresent t
  cases h.phase hs.present t with
  | quiet hpending hstage _ =>
    refine ⟨fun c c' hc hc' => ?_, fun c hc => ?_, fun c hc => ?_⟩
    · exact hs.single c c' ((hstage c).mp hc) ((hstage c').mp hc')
    · exact hkept (hs.present c ((hstage c).mp hc))
    · exact mt hpending.mp (hs.settled c ((hstage c).mp hc))
  | resolved client hpending hsettled hstage _ =>
    have hnone : ∀ c, s.stage c ≠ some (.fetch id) := fun c hc => hs.settled c hc hpending
    have honly : ∀ c, (Clients.turn calls s t).stage c = some (.fetch id) → c = client :=
      fun c hc => ((hstage c).mp hc).resolve_right (hnone c)
    refine ⟨fun c c' hc hc' => ?_, fun c hc => ?_, fun c hc => hsettled⟩
    · rw [honly c hc, honly c' hc']
    · exact hkept (isSome_of_status hpending)
  | reported hpending hsettled hstage _ =>
    refine ⟨fun c c' hc hc' => ?_, fun c hc => ?_, fun c hc => hsettled⟩
    · exact hs.single c c' ((hstage c).mp hc) ((hstage c').mp hc')
    · exact hkept (isSome_of_status hpending)
  | answered client hclient hpending hstage _ =>
    refine ⟨fun c c' hc hc' => ?_, fun c hc => ?_, fun c hc => ?_⟩
    · exact hs.single c c' ((hstage c).mp hc).2 ((hstage c').mp hc').2
    · exact hkept (hs.present c ((hstage c).mp hc).2)
    · rw [hpending]
      exact hs.settled c ((hstage c).mp hc).2

omit h

open Classical in
/-- The success about a request that is still to be reported: of a resolution to come if it is
pending, or of the call that has resolved it. -/
noncomputable def outstanding (table : σ → RequestTable) (id : Uuid)
    (s : Clients σ ResolutionStage) : Nat :=
  (if statusAt table s id = some .pending then 1 else 0) +
    if ∃ c, s.stage c = some (.fetch id) then 1 else 0

theorem Phase.outstanding {s' : Clients σ ResolutionStage} {reported : Bool}
    (hphase : Phase table id s s' reported) (hs : InFlight table id s) :
    outstanding table id s = outstanding table id s' + reported.toNat := by
  rw [Resolves.outstanding, Resolves.outstanding]
  cases hphase with
  | quiet hpending hstage hreported =>
    have hheld : (∃ c, s'.stage c = some (.fetch id)) ↔ ∃ c, s.stage c = some (.fetch id) :=
      exists_congr hstage
    rw [if_congr hpending rfl rfl, hreported, Bool.toNat_false, Nat.add_zero]
    by_cases hsome : ∃ c, s.stage c = some (.fetch id)
    · rw [if_pos hsome, if_pos (hheld.mpr hsome)]
    · rw [if_neg hsome, if_neg (mt hheld.mp hsome)]
  | resolved client hpending hsettled hstage hreported =>
    have hnone : ¬ ∃ c, s.stage c = some (.fetch id) := fun ⟨c, hc⟩ => hs.settled c hc hpending
    have hone : ∃ c, s'.stage c = some (.fetch id) := ⟨client, (hstage client).mpr (.inl rfl)⟩
    rw [if_pos hpending, if_neg hnone, if_neg hsettled, if_pos hone, hreported, Bool.toNat_false]
  | reported hpending hsettled hstage hreported =>
    have hnone : ¬ ∃ c, s.stage c = some (.fetch id) := fun ⟨c, hc⟩ => hs.settled c hc hpending
    have hnone' : ¬ ∃ c, s'.stage c = some (.fetch id) :=
      fun ⟨c, hc⟩ => hnone ⟨c, (hstage c).mp hc⟩
    rw [if_pos hpending, if_neg hnone, if_neg hsettled, if_neg hnone', hreported, Bool.toNat_true]
  | answered client hclient hpending hstage hreported =>
    have hnone : ¬ ∃ c, s'.stage c = some (.fetch id) := fun ⟨c, hc⟩ =>
      ((hstage c).mp hc).1 (hs.single c client ((hstage c).mp hc).2 hclient)
    have hone : ∃ c, s.stage c = some (.fetch id) := ⟨client, hclient⟩
    rw [hpending, if_pos hone, if_neg hnone, hreported, Bool.toNat_true, Nat.add_zero]

/-- The explanations of failed expiries find the request out of Pending. -/
def Explained (table : σ → RequestTable) (id : Uuid) (s : Clients σ ResolutionStage) : Prop :=
  ∀ c, s.stage c = some (.explain id) → statusAt table s id ≠ some .pending

theorem explain_lost {t t' : RequestTable} {k : ResolutionStage}
    (h : ResolutionOutcome t t' k (.more (.explain id))) : t'.status id ≠ some .pending := by
  cases h with
  | won _ _ _ _ hprogress =>
    rcases hprogress with hmore | ⟨_, hdone⟩
    next => cases hmore
    next => cases hdone
  | lost _ hpending hsame hprogress =>
    rcases hprogress with hmore | ⟨_, hdone⟩
    next =>
      cases hmore
      rw [hsame]
      exact hpending
    next => cases hdone

include h

theorem Explained.turn (hs : Explained table id s) (t : Turn Resolution) :
    Explained table id (Clients.turn calls s t) := by
  intro c hc
  have hkept := fun hold => h.notPending_turn (hs c hold) t
  have htook := Clients.took calls s t
  generalize Clients.answer calls s t = answer at htook
  generalize Clients.turn calls s t = s' at htook hkept hc ⊢
  cases htook with
  | idle => exact hkept hc
  | start _ =>
    rcases Clients.update_some hc with hnew | hold
    · rw [h.first] at hnew
      cases hnew
    · exact hkept hold
  | @more client k k' store hclient hstep =>
    have houtcome := h.outcome k s.store
    rw [hstep] at houtcome
    rcases Clients.update_some hc with hnew | hold
    · cases hnew
      exact explain_lost houtcome
    · exact hkept hold
  | done _ _ =>
    rcases Clients.update_some hc with hnew | hold
    · cases hnew
    · exact hkept hold

/-- A request that leaves Pending was pending, and is not after the turn. -/
theorem pending_turn (s : Clients σ ResolutionStage) (t : Turn Resolution) (id : Uuid) :
    (decide (statusAt table s id = some .pending)).toNat =
      (decide (statusAt table (Clients.turn calls s t) id = some .pending)).toNat +
        (leavesPending calls table id s t).toNat := by
  rw [leavesPending]
  by_cases hs : statusAt table s id = some .pending
  · by_cases hs' : statusAt table (Clients.turn calls s t) id = some .pending
    · simp only [hs, hs', ne_eq, not_true_eq_false, and_false, decide_true, decide_false,
        Bool.toNat_true, Bool.toNat_false]
    · simp only [hs, hs', ne_eq, not_false_eq_true, and_true, decide_true, decide_false,
        Bool.toNat_true, Bool.toNat_false]
  · simp only [hs, h.notPending_turn hs t, false_and, decide_false, Bool.toNat_false]

/-- A turn cancels the requests that it reports. -/
theorem cancelled_turn (s : Clients σ ResolutionStage) (t : Turn Resolution) :
    (table s.store).cancelled + reportedCancelled calls s t =
      (table (Clients.turn calls s t).store).cancelled := by
  have htook := Clients.took calls s t
  rw [reportedCancelled]
  generalize Clients.answer calls s t = answer at htook ⊢
  generalize Clients.turn calls s t = s' at htook ⊢
  cases htook with
  | idle => rfl
  | start _ => rfl
  | @more client k k' store hclient hstep =>
    have houtcome := h.outcome k s.store
    rw [hstep] at houtcome
    cases houtcome with
    | won _ _ _ hcancelled => exact hcancelled.symm
    | lost _ _ hsame => rw [hsame, Nat.add_zero]
  | @done client k a store hclient hstep =>
    have houtcome := h.outcome k s.store
    rw [hstep] at houtcome
    cases houtcome with
    | won _ _ _ hcancelled hprogress =>
      rcases hprogress with hmore | ⟨_, hdone⟩
      next => cases hmore
      next =>
        cases hdone
        exact hcancelled.symm
    | lost _ _ hsame hprogress =>
      rcases hprogress with hmore | ⟨_, hdone⟩
      next => cases hmore
      next =>
        cases hdone
        rw [hsame]
        rfl
    | swept _ _ _ _ hcancelled => exact hcancelled.symm
    | fetched hsame =>
      rw [hsame]
      rfl
    | explained hsame =>
      rw [hsame]
      rfl

theorem leaves_total (s : Clients σ ResolutionStage) (turns : List (Turn Resolution)) (id : Uuid) :
    (decide (statusAt table s id = some .pending)).toNat =
      (decide (statusAt table (Clients.run calls s turns) id = some .pending)).toNat +
        Clients.total calls (fun s t => (leavesPending calls table id s t).toNat) s turns := by
  have hkeep : ∀ (s : Clients σ ResolutionStage) (t : Turn Resolution), True → True :=
    fun _ _ htrue => htrue
  have hturn : ∀ (s : Clients σ ResolutionStage) (t : Turn Resolution), True →
      (decide (statusAt table s id = some .pending)).toNat + 0 =
        (decide (statusAt table (Clients.turn calls s t) id = some .pending)).toNat +
          (leavesPending calls table id s t).toNat := fun s t _ => h.pending_turn s t id
  have hbalance := Clients.total_balance hkeep hturn trivial turns (s := s)
  rwa [Clients.total_zero] at hbalance

theorem counts_total (s : Clients σ ResolutionStage) (turns : List (Turn Resolution)) :
    (table s.store).cancelled + Clients.total calls (reportedCancelled calls) s turns =
      (table (Clients.run calls s turns).store).cancelled := by
  have hkeep : ∀ (s : Clients σ ResolutionStage) (t : Turn Resolution), True → True :=
    fun _ _ htrue => htrue
  have hturn : ∀ (s : Clients σ ResolutionStage) (t : Turn Resolution), True →
      (table s.store).cancelled + reportedCancelled calls s t =
        (table (Clients.turn calls s t).store).cancelled + 0 := fun s t _ => h.cancelled_turn s t
  have hbalance := Clients.total_balance hkeep hturn trivial turns (s := s)
  rwa [Clients.total_zero] at hbalance

theorem reports_total (hs : InFlight table id s) (turns : List (Turn Resolution)) :
    outstanding table id s = outstanding table id (Clients.run calls s turns) +
      Clients.total calls (fun s t => (reportsResolution calls table id s t).toNat) s turns := by
  have hkeep : ∀ (s : Clients σ ResolutionStage) (t : Turn Resolution), InFlight table id s →
      InFlight table id (Clients.turn calls s t) := fun s t hs => InFlight.turn h hs t
  have hturn : ∀ (s : Clients σ ResolutionStage) (t : Turn Resolution), InFlight table id s →
      outstanding table id s + 0 = outstanding table id (Clients.turn calls s t) +
        (reportsResolution calls table id s t).toNat :=
    fun s t hs => (h.phase hs.present t).outstanding hs
  have hbalance := Clients.total_balance hkeep hturn hs turns
  rwa [Clients.total_zero] at hbalance

/-- A call that takes a request out of Pending has done so when it answers. -/
theorem answer_settles {request : ApprovalRequest} {k : ResolutionStage} {a : ResolutionAnswer}
    (hflight : InFlight table id s) (hexplained : Explained table id s)
    (hrequest : (table s.store).request id = some request)
    (hanswer : Clients.answer calls s t = some (k, a)) (hcompetes : k.competes id request = true) :
    statusAt table (Clients.turn calls s t) id ≠ some .pending := by
  obtain ⟨client, _, hstage, hstep⟩ := Clients.answer_some hanswer
  cases k with
  | start r =>
    have houtcome := h.outcome (.start r) s.store
    rw [hstep] at houtcome
    exact competes_settles houtcome hrequest hcompetes
  | fetch id' =>
    cases of_decide_eq_true hcompetes
    exact h.notPending_turn (hflight.settled client hstage) t
  | explain id' =>
    cases of_decide_eq_true hcompetes
    exact h.notPending_turn (hexplained client hstage) t

theorem competed_run {request : ApprovalRequest} {k : ResolutionStage} {a : ResolutionAnswer}
    {turns : List (Turn Resolution)} (hflight : InFlight table id s)
    (hexplained : Explained table id s) (hrequest : (table s.store).request id = some request)
    (hanswer : (k, a) ∈ Clients.answers calls s turns) (hcompetes : k.competes id request = true) :
    statusAt table (Clients.run calls s turns) id ≠ some .pending := by
  obtain ⟨before, t, after, rfl, hlast⟩ := Clients.mem_answers hanswer
  obtain ⟨request', hrequest', hintent, htenant⟩ := h.request_run hrequest before
  have hcompetes' : k.competes id request' = true := by
    rw [← hcompetes]
    exact ResolutionStage.competes_congr hintent htenant
  have hkeep : ∀ (s : Clients σ ResolutionStage) (t : Turn Resolution),
      InFlight table id s ∧ Explained table id s →
      InFlight table id (Clients.turn calls s t) ∧ Explained table id (Clients.turn calls s t) :=
    fun s t hs => ⟨InFlight.turn h hs.1 t, Explained.turn h hs.2 t⟩
  have hbefore := Clients.run_invariant hkeep ⟨hflight, hexplained⟩ before
  have hsettled := h.answer_settles hbefore.1 hbefore.2 hrequest' hlast hcompetes'
  rw [Clients.run_append, Clients.run_cons]
  exact h.notPending_run hsettled after

/-- Calls with these outcomes resolve each request once, from any store. -/
theorem resolvedOnce (store : σ) (turns : List (Turn Resolution)) :
    ResolvedOnce calls table (Clients.idle store) turns := by
  have hidle : ∀ id, outstanding table id (Clients.idle store) =
      if statusAt table (Clients.idle store) id = some .pending then 1 else 0 := by
    intro id
    have hnone : ¬ ∃ c, (Clients.idle store : Clients σ ResolutionStage).stage c =
      some (.fetch id) := fun ⟨c, hc⟩ => by cases hc
    rw [outstanding, if_neg hnone, Nat.add_zero]
  refine ⟨fun id => ?_, fun id => ?_, fun id hpending hend => ?_, ?_, ?_, h.counts_total _ turns⟩
  · have hbalance := h.leaves_total (Clients.idle store) turns id
    have hone := Bool.toNat_le (decide (statusAt table (Clients.idle store) id = some .pending))
    omega
  · have hbalance := h.reports_total (inFlight_idle store id) turns
    rw [hidle] at hbalance
    split at hbalance <;> omega
  · have hbalance := h.reports_total (inFlight_idle store id) turns
    have hnone : ¬ ∃ c, (Clients.run calls (Clients.idle store) turns).stage c =
      some (.fetch id) := fun ⟨c, hc⟩ => hend c hc
    rw [hidle, if_pos hpending, outstanding, if_neg hnone] at hbalance
    split at hbalance
    · next hstill =>
      refine ⟨fun hsettled => absurd hstill hsettled, fun hone => ?_⟩
      omega
    · next hsettled => exact ⟨fun _ => by omega, fun _ => hsettled⟩
  · intro id request k a hrequest hanswer hcompetes
    refine h.competed_run (inFlight_idle store id) ?_ hrequest hanswer hcompetes
    intro _ hc
    cases hc
  · intro id earlier later status _ hstatus hs
    rw [Clients.run_append]
    exact h.settled_run hstatus hs later

end Resolves

/-- Each request is resolved once whatever the interleaving of the calls, in memory and in SQL. -/
theorem requests_resolvedOnce (memory : InMemoryApprovalRequestRepository)
    (sqlx : SqlxApprovalRequestRepository) (turns : List (Turn Resolution)) :
    ResolvedOnce InMemoryApprovalRequestRepository.resolutions
        InMemoryApprovalRequestRepository.table (Clients.idle memory) turns ∧
      ResolvedOnce SqlxApprovalRequestRepository.resolutions
        SqlxApprovalRequestRepository.table (Clients.idle sqlx) turns :=
  ⟨InMemoryApprovalRequestRepository.resolves.resolvedOnce memory turns,
    SqlxApprovalRequestRepository.resolves.resolvedOnce sqlx turns⟩

/-- An approval and a rejection that race: the first statement wins, and a later cancellation finds
the request approved. -/
example :
    let request := ApprovalRequest.newPending 4 0 1 1 2 0 5 "agent" "agent" "C" "rebase"
    let s := Clients.run SqlxApprovalRequestRepository.resolutions
      (Clients.idle (SqlxApprovalRequestRepository.new.insertRequest request).2)
      [.call 0 ⟨10, .approve 4 "ana" none⟩, .call 1 ⟨11, .reject 4 "ben" none⟩, .step 0, .step 1,
        .call 1 ⟨12, .cancelApprovedByIds [4] 5 "ben" "late"⟩, .step 1, .step 0]
    statusAt SqlxApprovalRequestRepository.table s 4 = some .cancelled := by decide +kernel

end IntentRebase
