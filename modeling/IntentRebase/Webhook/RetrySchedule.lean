import IntentRebase.Webhook.WorkerTurns

/-! When the outbox worker sends a record again. A retry is scheduled for a later time, and a
receiver may ask to wait; but a run takes up every pending record, and the dispatcher tells the
worker of a wait in a text only. -/

namespace IntentRebase

open Kit

variable {σ ι : Type}

section Schedule

/-- The time at which the receiver lets the record come again. -/
def TimedDispatch.release (d : TimedDispatch) : DateTime :=
  match d.retryAfter with
  | none => d.time
  | some retryAfter => d.time + ((min retryAfter webhookRetryAfterCap : Nat) : Int)

/-- Before a time that is not before the dispatch, if the wait that is asked for ends by then. -/
theorem TimedDispatch.release_le {d : TimedDispatch} {time : DateTime} (h : d.time ≤ time)
    (hwait : ∀ retryAfter, d.retryAfter = some retryAfter →
      d.time + ((min retryAfter webhookRetryAfterCap : Nat) : Int) ≤ time) : d.release ≤ time := by
  rw [release]
  cases hretry : d.retryAfter with
  | none => exact h
  | some retryAfter => exact hwait retryAfter hretry

/-- What holds of the dispatches so far, and of the records that may be sent again. -/
structure Scheduled (records : OutboxView) (sent : List TimedDispatch) : Prop where
  due : ∀ d ∈ sent, d.record.scheduledAt ≤ d.time
  released : sent.Pairwise fun d d' => d.record.id = d'.record.id → d.release ≤ d'.time
  pending : ∀ d ∈ sent, ∀ r, records d.record.id = some r → r.status = .pending →
    d.release ≤ r.scheduledAt

theorem Scheduled.onSchedule {records : OutboxView} {sent : List TimedDispatch}
    (h : Scheduled records sent) : OnSchedule sent where
  due := h.due
  waits := h.released.imp fun {d d'} hreleased hid retryAfter hretry => by
    have hle := hreleased hid
    rw [TimedDispatch.release, hretry] at hle
    exact hle

/-- A change of one record keeps the schedule if that of the record does. -/
theorem Scheduled.update {records : OutboxView} {sent : List TimedDispatch}
    (h : Scheduled records sent) {id : Uuid} {r : WebhookOutboxRecord}
    (hr : r.status = .pending → ∀ d ∈ sent, d.record.id = id → d.release ≤ r.scheduledAt) :
    Scheduled (Function.update records id (some r)) sent where
  due := h.due
  released := h.released
  pending := by
    intro d hd r' hr' hpending
    rw [Function.update_apply] at hr'
    split at hr'
    · next hid =>
      obtain rfl := Option.some.inj hr'
      exact hr hpending d hd hid
    · exact h.pending d hd r' hr' hpending

/-- A dispatch of a record that is not pending, and that its receiver lets come, at its time. -/
theorem Scheduled.append {records : OutboxView} {sent : List TimedDispatch} {d : TimedDispatch}
    (h : Scheduled records sent) (hdue : d.record.scheduledAt ≤ d.time)
    (hreleased : ∀ d' ∈ sent, d'.record.id = d.record.id → d'.release ≤ d.time)
    (hstatus : ∀ r, records d.record.id = some r → r.status ≠ .pending) :
    Scheduled records (sent ++ [d]) where
  due := by
    intro d' hd'
    rcases List.mem_append.mp hd' with hold | hnew
    · exact h.due d' hold
    · obtain rfl := List.mem_singleton.mp hnew
      exact hdue
  released := by
    refine List.pairwise_append.mpr ⟨h.released, List.pairwise_singleton _ _, ?_⟩
    intro d' hd' d'' hd'' hid
    obtain rfl := List.mem_singleton.mp hd''
    exact hreleased d' hd' hid
  pending := by
    intro d' hd' r hr hpending
    rcases List.mem_append.mp hd' with hold | hnew
    · exact h.pending d' hold r hr hpending
    · obtain rfl := List.mem_singleton.mp hnew
      exact absurd hpending (hstatus r hr)

/-- The rest of a batch: records as they are stored, each once, pending and due. -/
structure Batch (records : OutboxView) (now : DateTime) (batch : List WebhookOutboxRecord) :
    Prop where
  nodup : (batch.map fun r => r.id).Nodup
  stored : ∀ r ∈ batch, records r.id = some r ∧ r.status = .pending ∧ r.scheduledAt ≤ now

theorem Batch.later {records : OutboxView} {now now' : DateTime}
    {batch : List WebhookOutboxRecord} (h : Batch records now batch) (hnow : now ≤ now') :
    Batch records now' batch where
  nodup := h.nodup
  stored := fun r hr => ⟨(h.stored r hr).1, (h.stored r hr).2.1, (h.stored r hr).2.2.trans hnow⟩

/-- A change of a record that is not in the rest of a batch. -/
theorem Batch.update {records : OutboxView} {now : DateTime} {batch : List WebhookOutboxRecord}
    (h : Batch records now batch) {id : Uuid} (hid : ∀ r ∈ batch, r.id ≠ id)
    (r : WebhookOutboxRecord) : Batch (Function.update records id (some r)) now batch where
  nodup := h.nodup
  stored := fun r' hr' => by
    rw [Function.update_of_ne (hid r' hr')]
    exact h.stored r' hr'

/-- A call holds a claimed record, and the rest of its batch is apart from it. -/
structure Holding (records : OutboxView) (call : ProcessOnce ι) (claimed : WebhookOutboxRecord)
    (rest : List WebhookOutboxRecord) : Prop where
  forward : call.Forward
  batch : Batch records (call.env 0).now rest
  apart : ∀ r ∈ rest, r.id ≠ claimed.id
  stored : records claimed.id = some claimed
  status : claimed.status = .claimed

/-- What holds at a stage of a run: what it has listed is due, and what it has claimed may be sent,
or after the dispatch may be sent again once its backoff is over. -/
def StageSound (records : OutboxView) (sent : List TimedDispatch) : OutboxStage ι → Prop
  | .create .. | .replayFailed .. => False
  | .listPending call => call.Forward
  | .claim call batch _ => call.Forward ∧ Batch records (call.env 0).now batch
  | .dispatch call claimed rest _ =>
    Holding records call claimed rest ∧ claimed.scheduledAt ≤ (call.env 0).now ∧
      ∀ d ∈ sent, d.record.id = claimed.id → d.release ≤ claimed.scheduledAt
  | .mark call claimed _ rest _ =>
    Holding records call claimed rest ∧ (claimed.exhausted = false →
      (call.env 0).crashes = false → (call.env 0).fails = false →
      ∀ d ∈ sent, d.record.id = claimed.id →
        d.release ≤ (call.env 0).now + retryDelay (call.env 0) claimed)

theorem ProcessOnce.Forward.later {call : ProcessOnce ι} (h : call.Forward) :
    call.later.Forward where
  clock := fun n => h.clock (n + 1)
  backoff := fun n => h.backoff (n + 1)

theorem Holding.later {records : OutboxView} {call : ProcessOnce ι}
    {claimed : WebhookOutboxRecord} {rest : List WebhookOutboxRecord}
    (h : Holding records call claimed rest) : Holding records call.later claimed rest where
  forward := h.forward.later
  batch := h.batch.later (h.forward.clock 0)
  apart := h.apart
  stored := h.stored
  status := h.status

end Schedule

section Steps

variable {view : σ → OutboxView} {valid : σ → Prop}
  {repo : DeliveryChoice ι → WebhookOutboxRepository σ} {crates : SigningCrates}
  {w w' : OutboxWorld σ} {sent : List TimedDispatch}
  {progress : Progress (OutboxStage (DeliveryChoice ι)) OutboxOutcome}
  {call : ProcessOnce (DeliveryChoice ι)} {claimed : WebhookOutboxRecord}
  {rest : List WebhookOutboxRecord} {processed : Nat}

/-- What a step leaves: the records on schedule, and a stage that is sound. -/
structure Leaves (view : σ → OutboxView) (valid : σ → Prop) (sent : List TimedDispatch)
    (progress : Progress (OutboxStage (DeliveryChoice ι)) OutboxOutcome) (w : OutboxWorld σ) :
    Prop where
  valid : valid w.repo
  scheduled : Scheduled (view w.repo) sent
  stage : ∀ k, progress = .more k → StageSound (view w.repo) sent k

theorem Leaves.stop {a : OutboxOutcome} (hvalid : valid w.repo)
    (hs : Scheduled (view w.repo) sent) :
    Leaves view valid sent (.done a : Progress (OutboxStage (DeliveryChoice ι)) _) w :=
  ⟨hvalid, hs, fun _ h => by cases h⟩

/-- The call goes on to the rest of its batch. -/
theorem Leaves.goOn (hvalid : valid w.repo) (hs : Scheduled (view w.repo) sent)
    (hforward : call.Forward) (hrest : Batch (view w.repo) (call.env 0).now rest) :
    Leaves view valid sent (.more (.claim call.later rest processed)) w := by
  refine ⟨hvalid, hs, fun k hk => ?_⟩
  cases hk
  exact ⟨hforward.later, hrest.later (hforward.clock 0)⟩

theorem listPending_leaves (laws : ∀ i, OutboxLaws (repo i) view valid)
    (lists : ∀ i, ListsPending (repo i) view valid) (hvalid : valid w.repo)
    (hs : Scheduled (view w.repo) sent) (hforward : call.Forward)
    (hin : (OutboxStage.listPending call).InStep crates (view w.repo))
    (hstep : (OutboxStage.listPending call).step repo w = (progress, w')) :
    Leaves view valid sent progress w' := by
  simp only [OutboxStage.step] at hstep
  split at hstep
  · cases hstep
    exact .stop hvalid hs
  next henabled =>
  split at hstep
  · cases hstep
    exact .stop hvalid hs
  next hcrashes =>
  split at hstep
  · cases hstep
    exact .stop hvalid hs
  next hfails =>
  split at hstep
  · cases hstep
    exact .stop hvalid hs
  next pending hpending =>
  cases hstep
  obtain ⟨stored, hnodup, hstored, rfl⟩ := lists _ call.tenantId call.batchSize hvalid hpending
  have hdue := hin (by simpa using henabled) (by simpa using hcrashes) (by simpa using hfails)
  refine .goOn hvalid hs hforward ⟨?_, fun r hr => ?_⟩
  · have hsorted := ((orderBy_perm (fun r : WebhookOutboxRecord => r.pendingKey) stored).map
      fun r => r.id).nodup_iff.mpr hnodup
    exact ((List.take_sublist _ _).map _).nodup hsorted
  · obtain ⟨hlookup, -, hstatus⟩ := (hstored r).mp (mem_orderBy.mp (List.mem_of_mem_take hr))
    exact ⟨hlookup, hstatus, hdue.listed ((laws (call.env 0).choice).keyed hvalid) hstored hr⟩

theorem claim_leaves (laws : ∀ i, OutboxLaws (repo i) view valid) (hvalid : valid w.repo)
    (hs : Scheduled (view w.repo) sent) (hforward : call.Forward)
    {batch : List WebhookOutboxRecord} (hbatch : Batch (view w.repo) (call.env 0).now batch)
    (hstep : (OutboxStage.claim call batch processed).step repo w = (progress, w')) :
    Leaves view valid sent progress w' := by
  cases batch with
  | nil =>
    cases hstep
    exact .stop hvalid hs
  | cons record rest =>
    have hnodup := List.nodup_cons.mp hbatch.nodup
    have hrest : Batch (view w.repo) (call.env 0).now rest :=
      ⟨hnodup.2, fun r hr => hbatch.stored r (List.mem_cons_of_mem _ hr)⟩
    simp only [OutboxStage.step] at hstep
    split at hstep
    · cases hstep
      exact .stop hvalid hs
    have hclaim := (laws (call.env 0).choice).claim (call.env 0).now record.id call.tenantId
      "local-worker" hvalid
    rcases attempt_changed hclaim (call.env 0) with ⟨r, s, hr, hok, hv, hview⟩ | ⟨e, hfails⟩
    · rw [hok] at hstep
      cases hstep
      obtain ⟨hlookup, hstatus, hdue⟩ := hbatch.stored record List.mem_cons_self
      obtain rfl : record = r := Option.some.inj (hlookup.symm.trans hr.found)
      have hapart : ∀ r ∈ rest, r.id ≠ record.id := fun r hr heq =>
        hnodup.1 (List.mem_map.mpr ⟨r, hr, heq⟩)
      refine ⟨hv, ?_, fun k hk => ?_⟩
      · rw [hview]
        exact hs.update fun hpending => by cases hpending
      · cases hk
        rw [hview]
        refine ⟨⟨hforward.later, (hrest.update hapart _).later (hforward.clock 0), hapart,
          Function.update_self .., rfl⟩, hdue.trans (hforward.clock 0), fun d hd hid => ?_⟩
        exact hs.pending d hd record (by rwa [hid]) hstatus
    · rw [hfails] at hstep
      cases hstep
      exact .goOn hvalid hs hforward hrest

theorem dispatch_leaves (hvalid : valid w.repo) (hs : Scheduled (view w.repo) sent)
    (hk : StageSound (view w.repo) sent (.dispatch call claimed rest processed))
    (hin : (OutboxStage.dispatch call claimed rest processed).InStep crates (view w.repo))
    (hstep : (OutboxStage.dispatch call claimed rest processed).step repo w = (progress, w')) :
    Leaves view valid
      (sent ++ ((OutboxStage.dispatch call claimed rest processed).sends crates).toList)
      progress w' := by
  obtain ⟨hholding, hdue, hreleased⟩ := hk
  rw [OutboxStage.InStep] at hin
  simp only [OutboxStage.step] at hstep
  rw [OutboxStage.sends] at hin ⊢
  split at hstep
  · next hcrashes =>
    cases hstep
    rw [if_pos hcrashes]
    exact ⟨hvalid, by rwa [Option.toList_none, List.append_nil], fun _ h => (by cases h)⟩
  · next hcrashes =>
    cases hstep
    rw [if_neg hcrashes] at hin ⊢
    have hstatus : ∀ r, view w.repo claimed.id = some r → r.status ≠ .pending := by
      intro r hr
      rw [← Option.some.inj (hholding.stored.symm.trans hr), hholding.status]
      exact fun h => by cases h
    refine ⟨hvalid, hs.append hdue (fun d hd hid => (hreleased d hd hid).trans hdue) hstatus,
      fun k hk => ?_⟩
    cases hk
    refine ⟨hholding.later, fun hexhausted hlater hwrites d hd hid => ?_⟩
    have hnow := hholding.forward.clock 0
    have hbackoff : 0 ≤ retryDelay (call.env 1) claimed := hholding.forward.backoff 1 _
    have hsooner : (call.env 0).now ≤ (call.env 1).now + retryDelay (call.env 1) claimed :=
      hnow.trans (le_add_of_nonneg_right hbackoff)
    rcases List.mem_append.mp hd with hold | hnew
    · exact ((hreleased d hold hid).trans hdue).trans hsooner
    · rw [Option.toList_some, List.mem_singleton] at hnew
      refine TimedDispatch.release_le (hnew ▸ hsooner) fun retryAfter hretry => ?_
      have hwait := hin d retryAfter (congrArg some hnew.symm) hretry hexhausted hlater hwrites
      rw [hnew]
      exact add_le_add hnow hwait

/-- The write that follows a dispatch leaves a record pending only with its backoff. -/
theorem followUp_pending (laws : ∀ i, OutboxLaws (repo i) view valid) {s : σ} (hvalid : valid s)
    (env : StepEnv (DeliveryChoice ι)) (tenantId : Uuid) (claimed : WebhookOutboxRecord)
    (result : Except WebhookDispatchFailure Unit) :
    ∃ change, Changed view valid s claimed.id tenantId none change
        (OutboxStage.followUp (repo env.choice) s env tenantId claimed result) ∧
      ∀ r, (change r).status = .pending → claimed.exhausted = false ∧
        (change r).scheduledAt = env.now + retryDelay env claimed := by
  have hlaws := laws env.choice
  cases result with
  | ok _ => exact ⟨_, hlaws.markDelivered env.now _ _ hvalid, fun _ h => (by cases h)⟩
  | error failure =>
    cases failure with
    | terminal reason =>
      exact ⟨_, hlaws.markFailed env.now _ _ reason hvalid, fun _ h => (by cases h)⟩
    | retryable reason =>
      simp only [OutboxStage.followUp]
      cases claimed.exhausted with
      | true => exact ⟨_, hlaws.markFailed env.now _ _ reason hvalid, fun _ h => (by cases h)⟩
      | false =>
        exact ⟨_, hlaws.rescheduleRetry env.now _ _ reason _ hvalid, fun _ _ => ⟨rfl, rfl⟩⟩

theorem mark_leaves (laws : ∀ i, OutboxLaws (repo i) view valid) (hvalid : valid w.repo)
    (hs : Scheduled (view w.repo) sent) {result : Except WebhookDispatchFailure Unit}
    (hk : StageSound (view w.repo) sent (.mark call claimed result rest processed))
    (hstep : (OutboxStage.mark call claimed result rest processed).step repo w = (progress, w')) :
    Leaves view valid sent progress w' := by
  obtain ⟨hholding, hreleased⟩ := hk
  simp only [OutboxStage.step] at hstep
  split at hstep
  · cases hstep
    exact .stop hvalid hs
  next hcrashes =>
  obtain ⟨change, hchanged, hpending⟩ :=
    followUp_pending laws hvalid (call.env 0) call.tenantId claimed result
  cases hfails : (call.env 0).fails with
  | true =>
    rw [OutboxStage.attempt, if_pos hfails] at hstep
    cases hstep
    exact .goOn hvalid hs hholding.forward hholding.batch
  | false =>
    rw [OutboxStage.attempt, if_neg (Bool.eq_false_iff.mp hfails)] at hstep
    rcases hchanged with ⟨r, s, hr, hok, hv, hview⟩ | ⟨e, herror⟩
    · rw [hok] at hstep
      cases hstep
      refine .goOn hv ?_ hholding.forward ?_
      · rw [hview]
        refine hs.update fun hstatus d hd hid => ?_
        obtain ⟨hexhausted, hscheduled⟩ := hpending r hstatus
        rw [hscheduled]
        exact hreleased hexhausted (Bool.eq_false_iff.mpr hcrashes) hfails d hd hid
      · rw [hview]
        exact hholding.batch.update hholding.apart _
    · rw [herror] at hstep
      cases hstep
      exact .goOn hvalid hs hholding.forward hholding.batch

/-- A step that is in step keeps the schedule. -/
theorem step_leaves (laws : ∀ i, OutboxLaws (repo i) view valid)
    (lists : ∀ i, ListsPending (repo i) view valid) (hvalid : valid w.repo)
    (hs : Scheduled (view w.repo) sent) {k : OutboxStage (DeliveryChoice ι)}
    (hk : StageSound (view w.repo) sent k) (hin : k.InStep crates (view w.repo))
    (hstep : k.step repo w = (progress, w')) :
    Leaves view valid (sent ++ (k.sends crates).toList) progress w' := by
  cases k with
  | create env new => cases hk
  | replayFailed env id tenantId replayedBy => cases hk
  | listPending call =>
    rw [OutboxStage.sends, Option.toList_none, List.append_nil]
    exact listPending_leaves laws lists hvalid hs hk hin hstep
  | claim call batch processed =>
    rw [OutboxStage.sends, Option.toList_none, List.append_nil]
    exact claim_leaves laws hvalid hs hk.1 hk.2 hstep
  | dispatch call claimed rest processed => exact dispatch_leaves hvalid hs hk hin hstep
  | mark call claimed result rest processed =>
    rw [OutboxStage.sends, Option.toList_none, List.append_nil]
    exact mark_leaves laws hvalid hs hk hstep

end Steps

section Runs

variable {view : σ → OutboxView} {valid : σ → Prop} {repo : ι → WebhookOutboxRepository σ}
  {crates : SigningCrates} {s : OutboxClients σ (DeliveryChoice ι)} {sent : List TimedDispatch}

/-- What holds between two turns of the worker. -/
structure WorkerSound (view : σ → OutboxView) (valid : σ → Prop)
    (s : OutboxClients σ (DeliveryChoice ι)) (sent : List TimedDispatch) : Prop where
  valid : valid s.store.repo
  scheduled : Scheduled (view s.store.repo) sent
  stage : ∀ k, s.stage 0 = some k → StageSound (view s.store.repo) sent k

theorem turn_sound (laws : ∀ i, OutboxLaws (repo i) view valid)
    (lists : ∀ i, ListsPending (repo i) view valid) (h : WorkerSound view valid s sent)
    {t : WorkerTurn ι} (hin : t.InStep view crates s) :
    WorkerSound view valid (workerNext repo crates s t)
      (sent ++ (t.sends crates s).toList) := by
  cases t with
  | start run =>
    rw [WorkerTurn.sends, Option.toList_none, List.append_nil, workerNext, WorkerTurn.turn,
      Clients.turn]
    split
    · exact h
    · refine ⟨h.valid, h.scheduled, fun k hk => ?_⟩
      dsimp only at hk
      rw [Function.update_self] at hk
      cases hk
      exact ⟨hin, fun n attemptNumber => Int.natCast_nonneg _⟩
  | step =>
    rw [workerNext, WorkerTurn.turn]
    cases hstage : s.stage 0 with
    | none =>
      simp only [Clients.turn, WorkerTurn.sends, hstage, Option.bind_none, Option.toList_none,
        List.append_nil]
      exact h
    | some k =>
      rw [Clients.turn_step hstage]
      cases hstep : (outboxCalls fun choice : DeliveryChoice ι => repo choice.order).step k
          s.store with
      | mk progress w =>
        have hleaves := step_leaves (fun i => laws i.order) (fun i => lists i.order) h.valid
          h.scheduled (h.stage k hstage) (hin k hstage) hstep
        have hsends : WorkerTurn.sends crates s .step = k.sends crates := by
          rw [WorkerTurn.sends, hstage, Option.bind_some]
        rw [hsends]
        cases progress with
        | more k' =>
          refine ⟨hleaves.valid, hleaves.scheduled, fun k'' hk => ?_⟩
          dsimp only [Clients.advance] at hk
          rw [Function.update_self] at hk
          exact hleaves.stage k'' (congrArg Progress.more (Option.some.inj hk))
        | done a =>
          refine ⟨hleaves.valid, hleaves.scheduled, fun k'' hk => ?_⟩
          dsimp only [Clients.advance] at hk
          rw [Function.update_self] at hk
          cases hk

/-- Turns that are in step keep every dispatch on schedule. -/
theorem turns_onSchedule (laws : ∀ i, OutboxLaws (repo i) view valid)
    (lists : ∀ i, ListsPending (repo i) view valid) (h : WorkerSound view valid s sent)
    {turns : List (WorkerTurn ι)}
    (hin : AllSteps (workerNext repo crates) (WorkerTurn.InStep view crates) s turns) :
    OnSchedule (sent ++ timedDispatches repo crates s turns) := by
  induction turns generalizing s sent with
  | nil =>
    rw [timedDispatches, List.append_nil]
    exact h.scheduled.onSchedule
  | cons t turns ih =>
    rw [timedDispatches, ← List.append_assoc]
    exact ih (turn_sound laws lists h hin.1) hin.2

/-- What workers dispatch on an outbox, when nobody is at work at first. -/
def workerDispatches (repo : ι → WebhookOutboxRepository σ) (crates : SigningCrates) (outbox : σ)
    (turns : List (WorkerTurn ι)) : List TimedDispatch :=
  timedDispatches repo crates (.idle ⟨outbox, []⟩) turns

/-- The turns are in step, from an outbox with nobody at work. -/
def RunsInStep (repo : ι → WebhookOutboxRepository σ) (view : σ → OutboxView)
    (crates : SigningCrates) (outbox : σ) (turns : List (WorkerTurn ι)) : Prop :=
  AllSteps (workerNext repo crates) (WorkerTurn.InStep view crates) (.idle ⟨outbox, []⟩) turns

theorem workerDispatches_onSchedule (laws : ∀ i, OutboxLaws (repo i) view valid)
    (lists : ∀ i, ListsPending (repo i) view valid) {outbox : σ} (hvalid : valid outbox)
    {turns : List (WorkerTurn ι)} (hin : RunsInStep repo view crates outbox turns) :
    OnSchedule (workerDispatches repo crates outbox turns) := by
  have hsound : WorkerSound view valid
      (Clients.idle ⟨outbox, []⟩ : OutboxClients σ (DeliveryChoice ι)) [] :=
    ⟨hvalid, ⟨fun _ h => (by cases h), .nil, fun _ h => (by cases h)⟩, fun _ h => (by cases h)⟩
  exact turns_onSchedule laws lists hsound hin

end Runs

/-- In the in-memory and in the SQL repository: where each run lists a batch that is due, its clock
does not go back, and no backoff is shorter than the wait that the receiver asked for, every
dispatch is on schedule. -/
theorem webhookRetries_onSchedule (crates : SigningCrates) :
    (∀ records, InMemoryWebhookOutboxRepository.Keyed records →
      ∀ turns, RunsInStep InMemoryWebhookOutboxRepository.repository (fun records => records.lookup)
        crates records turns →
      OnSchedule (workerDispatches InMemoryWebhookOutboxRepository.repository crates records
        turns)) ∧
    ∀ collation table, SqlxWebhookOutboxRepository.OfRecords table →
      ∀ turns, RunsInStep (SqlxWebhookOutboxRepository.repository collation)
        SqlxWebhookOutboxRepository.view crates table turns →
      OnSchedule (workerDispatches (SqlxWebhookOutboxRepository.repository collation) crates table
        turns) := by
  constructor
  · intro records hkeyed turns hin
    exact workerDispatches_onSchedule InMemoryWebhookOutboxRepository.laws
      InMemoryWebhookOutboxRepository.listsPending hkeyed hin
  · intro collation table hrecords turns hin
    exact workerDispatches_onSchedule (SqlxWebhookOutboxRepository.laws collation)
      (SqlxWebhookOutboxRepository.listsPending collation) hrecords hin

section Samples

/-- The condition of a step, where every record in memory is due. -/
def OutboxStage.checks (crates : SigningCrates) (records : OutboxRecords) :
    OutboxStage (DeliveryChoice ι) → Bool
  | .listPending call => (pairs records).all fun p => p.2.scheduledAt ≤ (call.env 0).now
  | .dispatch call claimed rest processed =>
    ((OutboxStage.sends crates (.dispatch call claimed rest processed)).bind
      TimedDispatch.retryAfter).all fun retryAfter =>
        ((min retryAfter webhookRetryAfterCap : Nat) : Int) ≤ retryDelay (call.env 1) claimed
  | .create .. | .replayFailed .. | .claim .. | .mark .. => true

theorem OutboxStage.inStep_of_checks {crates : SigningCrates} {records : OutboxRecords}
    {k : OutboxStage (DeliveryChoice ι)} (h : k.checks crates records = true) :
    k.InStep crates records.lookup := by
  cases k with
  | create | replayFailed | claim | mark => trivial
  | listPending call =>
    refine fun _ _ _ => .inl fun id r hr _ => ?_
    exact of_decide_eq_true (List.all_eq_true.mp h (id, r) (mem_pairs.mpr hr))
  | dispatch call claimed rest processed =>
    intro d retryAfter hsends hretry _ _ _
    rw [checks, hsends, Option.bind_some, hretry] at h
    exact of_decide_eq_true h

theorem WorkerTurn.inStep_of_checks {crates : SigningCrates}
    {s : OutboxClients OutboxRecords (DeliveryChoice ι)}
    (h : ((s.stage 0).all fun k => k.checks crates s.store.repo) = true) :
    WorkerTurn.InStep (fun records : OutboxRecords => records.lookup) crates s .step := by
  intro k hk
  rw [hk] at h
  exact OutboxStage.inStep_of_checks h

namespace RetrySample

def crates : SigningCrates where
  jsonText := fun _ => "null"
  timeText := fun _ => "1970-01-01T00:00:00Z"
  toRfc3339 := fun _ => "1970-01-01T00:00:00+00:00"
  hmacSha256 := fun _ _ => .ok []

/-- A record of one tenant, scheduled for a time. -/
def records (scheduledAt : DateTime) : OutboxRecords :=
  (∅ : OutboxRecords).insert 1 { WebhookOutboxRecord.new 0 1 2 3 4 "intent_changed" .null
    (some "https://example.com/webhook") with scheduledAt }

/-- A run in which nothing fails and the receiver asks to wait. -/
def run (now : DateTime) (retryAfter : Duration) : WorkerRun (IterOrder WebhookOutboxRecord) where
  enabled := true
  tenantId := 2
  batchSize := 10
  env := fun _ =>
    { order := .id _
      sending := ⟨now, none, fun _ _ _ => .ok (.rateLimited (some retryAfter))⟩
      now := now
      crashes := false
      fails := false
      random := 1 / 2 }

/-- A run, which lists, claims, sends and writes, and one that is about to write. -/
def turns (first second : DateTime) (retryAfter : Duration) :
    List (WorkerTurn (IterOrder WebhookOutboxRecord)) :=
  [.start (run first retryAfter), .step, .step, .step, .step, .step,
    .start (run second retryAfter), .step, .step, .step]

theorem keyed_records (scheduledAt : DateTime) :
    InMemoryWebhookOutboxRepository.Keyed (records scheduledAt) :=
  InMemoryWebhookOutboxRepository.Keyed.insert (fun _ _ h => by cases h) rfl

end RetrySample

/-- A receiver asks for a second, the backoff is as long, and the next run is after it. -/
theorem webhookRetries_onSchedule_sample :
    let sent := workerDispatches InMemoryWebhookOutboxRepository.repository RetrySample.crates
      (RetrySample.records 0) (RetrySample.turns 0 (Duration.ofSecs 1) (.ofSecs 1))
    sent.map (fun d => d.time) = [0, (Duration.ofSecs 1 : Nat)] ∧ OnSchedule sent := by
  refine ⟨by decide +kernel, (webhookRetries_onSchedule RetrySample.crates).1 _
    (RetrySample.keyed_records 0) _ ?_⟩
  refine ⟨fun _ => le_rfl, ?_, ?_, ?_, ?_, ?_, fun _ => le_rfl, ?_, ?_, ?_, trivial⟩
  all_goals exact WorkerTurn.inStep_of_checks (by decide +kernel)

/-- A record that is scheduled in an hour is sent at once; and one whose receiver asks for a minute
is sent again after a second. -/
theorem webhookRetries_early :
    (¬ ∀ records, InMemoryWebhookOutboxRepository.Keyed records → ∀ turns, ∀ d ∈ workerDispatches
      InMemoryWebhookOutboxRepository.repository RetrySample.crates records turns,
        d.record.scheduledAt ≤ d.time) ∧
    ¬ ∀ records, InMemoryWebhookOutboxRepository.Keyed records → ∀ turns, OnSchedule
      (workerDispatches InMemoryWebhookOutboxRepository.repository RetrySample.crates records
        turns) := by
  constructor
  · intro h
    have hearly : ((workerDispatches InMemoryWebhookOutboxRepository.repository RetrySample.crates
        (RetrySample.records (Duration.ofSecs 3600))
        (RetrySample.turns 0 (Duration.ofSecs 1) 0)).all fun d =>
          d.record.scheduledAt ≤ d.time) = false := by
      decide +kernel
    rw [List.all_eq_true.mpr fun d hd => decide_eq_true (h _ (RetrySample.keyed_records _) _ d hd)]
      at hearly
    cases hearly
  · intro h
    have hwaits := (h _ (RetrySample.keyed_records 0)
      (RetrySample.turns 0 (Duration.ofSecs 1) (.ofSecs 60))).waits
    have hsent : (workerDispatches InMemoryWebhookOutboxRepository.repository RetrySample.crates
        (RetrySample.records 0) (RetrySample.turns 0 (Duration.ofSecs 1) (.ofSecs 60))).map
          (fun d => (d.record.id, d.time, d.retryAfter)) =
        [((1 : Uuid), (0 : DateTime), some (Duration.ofSecs 60)),
          ((1 : Uuid), ((Duration.ofSecs 1 : Nat) : DateTime), some (Duration.ofSecs 60))] := by
      decide +kernel
    obtain ⟨d, rest, hlist, hd, hrest⟩ := List.map_eq_cons_iff.mp hsent
    obtain ⟨d', rfl, hd'⟩ := List.map_eq_singleton_iff.mp hrest
    rw [hlist] at hwaits
    simp only [Prod.mk.injEq] at hd hd'
    have hwait := (List.pairwise_cons.mp hwaits).1 d' List.mem_cons_self
      (hd.1.trans hd'.1.symm) _ hd.2.2
    rw [hd.2.1, hd'.2.1] at hwait
    exact absurd hwait (by decide)

end Samples

end IntentRebase
