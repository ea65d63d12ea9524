import IntentRebase.Webhook.OneOwner

/-! What workers send for a new record while nobody replays: one change, to one URL and under one
identifier, and no more often than its allowance. -/

namespace IntentRebase

open Kit

variable {σ ι : Type} {view : σ → OutboxView} {valid : σ → Prop}
  {repo : ι → WebhookOutboxRepository σ}

/-- What every operation leaves of a record. -/
structure OutboxChange where
  id : Uuid
  tenantId : Uuid
  intentId : Uuid
  subscriptionId : Uuid
  eventType : String
  payload : Json
  webhookUrl : Option String
  maxAttempts : Int32
  version : Int32
  versionHash : Option String
  previousVersion : Option Int32

def WebhookOutboxRecord.change (r : WebhookOutboxRecord) : OutboxChange where
  id := r.id
  tenantId := r.tenantId
  intentId := r.intentId
  subscriptionId := r.subscriptionId
  eventType := r.eventType
  payload := r.payload
  webhookUrl := r.webhookUrl
  maxAttempts := r.maxAttempts
  version := r.version
  versionHash := r.versionHash
  previousVersion := r.previousVersion

theorem WebhookOutboxRecord.allowance_congr {r r' : WebhookOutboxRecord}
    (h : r.change = r'.change) : r.allowance = r'.allowance := by
  have hmax : r.maxAttempts = r'.maxAttempts := congrArg OutboxChange.maxAttempts h
  rw [allowance, allowance, hmax]

namespace OutboxDelivery

/-- There is a record, and it is of a change. -/
def Carries (change : OutboxChange) (d : OutboxDelivery) : Prop :=
  ∃ r, d.record = some r ∧ r.change = change

variable {change : OutboxChange} {d d' : OutboxDelivery}

theorem Moves.carries {e : Option OutboxEvent} (h : Moves d e d') (hd : d.Carries change) :
    d'.Carries change ∧ ∀ r, e = some (.dispatched r) → r.change = change := by
  obtain ⟨r, hr, rfl⟩ := hd
  cases h with
  | stay => exact ⟨⟨r, hr, rfl⟩, fun _ he => nomatch he⟩
  | create hpending hfresh => cases hr
  | dispatch r' owner =>
    obtain rfl := Option.some.inj hr
    exact ⟨⟨r', rfl, rfl⟩, fun _ he => by cases he; rfl⟩
  | claim | abandonClaimed | abandonSent | deliver | fail | retry | replay =>
    cases hr
    exact ⟨⟨_, rfl, rfl⟩, fun _ he => nomatch he⟩

theorem carries_run {es : List (Option OutboxEvent)} (h : Run Moves d es d')
    (hd : d.Carries change) :
    d'.Carries change ∧ ∀ r, .dispatched r ∈ es.reduceOption → r.change = change := by
  induction h with
  | nil => exact ⟨hd, fun _ hmem => nomatch hmem⟩
  | cons hstep _ ih =>
    obtain ⟨hnext, hfirst⟩ := hstep.carries hd
    obtain ⟨hlast, hrest⟩ := ih hnext
    refine ⟨hlast, fun r hmem => ?_⟩
    rw [List.reduceOption_mem_iff, List.mem_cons] at hmem
    rcases hmem with heq | hmem
    · exact hfirst r heq.symm
    · exact hrest r (List.reduceOption_mem_iff.mpr hmem)

end OutboxDelivery

theorem mem_dispatches {r : WebhookOutboxRecord} {events : List OutboxEvent}
    (h : r ∈ dispatches events) : .dispatched r ∈ events := by
  obtain ⟨e, hmem, he⟩ := List.mem_filterMap.mp h
  cases e with
  | dispatched r' =>
    cases he
    exact hmem
  | replayed id | abandoned id => cases he

/-- Without a replay, all dispatches are since the creation. -/
theorem sentSince_eq_dispatches {events : List OutboxEvent}
    (h : ∀ id, .replayed id ∉ events) : sentSince events = dispatches events := by
  have hfold : ∀ sent, events.foldl sentAfter sent = sent ++ dispatches events := by
    induction events with
    | nil => exact fun sent => (List.append_nil sent).symm
    | cons e events ih =>
      have hrest := ih fun id hmem => h id (List.mem_cons_of_mem e hmem)
      intro sent
      rw [List.foldl_cons, hrest]
      cases e with
      | replayed id => exact absurd List.mem_cons_self (h id)
      | dispatched r => exact List.append_assoc sent [r] _
      | abandoned id => rfl
  exact hfold []

/-- A stage of a worker's call. -/
def OutboxStage.ofWorker : OutboxStage ι → Bool
  | .create .. | .replayFailed .. => false
  | .listPending _ | .claim .. | .dispatch .. | .mark .. => true

/-- A turn of a worker. -/
def workerTurn : Turn (ProcessOnce ι) → Turn (OutboxRequest ι)
  | .call client request => .call client (.processOnce request)
  | .step client => .step client

/-- A worker's step is followed by a worker's stage, and replays nothing. -/
theorem step_ofWorker {k : OutboxStage ι} {w w' : OutboxWorld σ}
    {progress : Progress (OutboxStage ι) OutboxOutcome} (hk : k.ofWorker = true)
    (hstep : k.step repo w = (progress, w')) :
    (∀ k', progress = .more k' → k'.ofWorker = true) ∧
      ∀ id, .replayed id ∈ w'.log → .replayed id ∈ w.log := by
  cases k with
  | create env new | replayFailed env id tenantId replayedBy => cases hk
  | listPending call =>
    simp only [OutboxStage.step] at hstep
    repeat' split at hstep
    all_goals
      obtain ⟨rfl, rfl⟩ := Prod.mk.inj hstep
      exact ⟨fun _ h => by cases h <;> rfl, fun _ hmem => hmem⟩
  | claim call records processed =>
    cases records with
    | nil =>
      obtain ⟨rfl, rfl⟩ := Prod.mk.inj hstep
      exact ⟨fun _ h => (by cases h), fun _ hmem => hmem⟩
    | cons record rest =>
      simp only [OutboxStage.step] at hstep
      repeat' split at hstep
      all_goals
        obtain ⟨rfl, rfl⟩ := Prod.mk.inj hstep
        exact ⟨fun _ h => by cases h <;> rfl, fun _ hmem => hmem⟩
  | dispatch call claimed rest processed =>
    simp only [OutboxStage.step] at hstep
    split at hstep <;> obtain ⟨rfl, rfl⟩ := Prod.mk.inj hstep
    all_goals exact ⟨fun _ h => by cases h <;> rfl, fun _ hmem => by simpa using hmem⟩
  | mark call claimed result rest processed =>
    simp only [OutboxStage.step] at hstep
    repeat' split at hstep
    all_goals
      obtain ⟨rfl, rfl⟩ := Prod.mk.inj hstep
      exact ⟨fun _ h => by cases h <;> rfl, fun _ hmem => by simpa using hmem⟩

/-- Only workers are at work, and nothing was replayed. -/
structure WorkersOnly (s : OutboxClients σ ι) : Prop where
  stages : ∀ client k, s.stage client = some k → k.ofWorker = true
  log : ∀ id, .replayed id ∉ s.store.log

theorem WorkersOnly.turn {s : OutboxClients σ ι} (h : WorkersOnly s) (t : Turn (ProcessOnce ι)) :
    WorkersOnly (Clients.turn (outboxCalls repo) s (workerTurn t)) := by
  cases t with
  | call client request =>
    rw [workerTurn, Clients.turn]
    split
    · exact h
    · refine ⟨fun c k hk => ?_, h.log⟩
      rcases Clients.update_some hk with hnew | hold
      · obtain rfl := Option.some.inj hnew
        rfl
      · exact h.stages c k hold
  | step client =>
    rw [workerTurn]
    cases hstage : s.stage client with
    | none =>
      simp only [Clients.turn, hstage]
      exact h
    | some k =>
      rw [Clients.turn_step hstage]
      cases hstep : (outboxCalls repo).step k s.store with
      | mk progress w' =>
        obtain ⟨hnext, hlog⟩ := step_ofWorker (h.stages client k hstage) hstep
        cases progress with
        | more k' =>
          refine ⟨fun c k'' hk => ?_, fun id hmem => h.log id (hlog id hmem)⟩
          rcases Clients.update_some hk with hnew | hold
          · obtain rfl := Option.some.inj hnew
            exact hnext _ rfl
          · exact h.stages c k'' hold
        | done a =>
          refine ⟨fun c k'' hk => ?_, fun id hmem => h.log id (hlog id hmem)⟩
          rcases Clients.update_some hk with hnew | hold
          · cases hnew
          · exact h.stages c k'' hold

/-- The state after some turns of the workers. -/
abbrev OutboxClients.afterWorkers (repo : ι → WebhookOutboxRepository σ) (s : OutboxClients σ ι)
    (turns : List (Turn (ProcessOnce ι))) : OutboxClients σ ι :=
  s.after repo (turns.map workerTurn)

theorem WorkersOnly.run {s : OutboxClients σ ι} (h : WorkersOnly s)
    (turns : List (Turn (ProcessOnce ι))) : WorkersOnly (s.afterWorkers repo turns) := by
  induction turns generalizing s with
  | nil => exact h
  | cons t turns ih => exact ih (h.turn t)

/-- What happens when workers start on an outbox. -/
def workersLog (repo : ι → WebhookOutboxRepository σ) (outbox : σ)
    (turns : List (Turn (ProcessOnce ι))) : List OutboxEvent :=
  (OutboxClients.afterWorkers repo (.idle ⟨outbox, []⟩) turns).store.log

/-- What workers have sent for a record. -/
structure SentFor (r : WebhookOutboxRecord) (log : List OutboxEvent) : Prop where
  bounded : (dispatches (history r.id log)).length ≤ r.allowance
  change : ∀ r' ∈ dispatches (history r.id log), r'.change = r.change

/-- Workers send a new record's change, and within its allowance. -/
theorem workers_sentFor (laws : ∀ i, OutboxLaws (repo i) view valid) {outbox : σ}
    (hvalid : valid outbox) {r : WebhookOutboxRecord} (hr : view outbox r.id = some r)
    (hpending : r.status = .pending) (hfresh : r.attemptCount = 0)
    (turns : List (Turn (ProcessOnce ι))) :
    SentFor r (workersLog repo outbox turns) := by
  have hshows : Shows view r.id (Clients.idle ⟨outbox, []⟩ : OutboxClients σ ι) (.pending r) :=
    ⟨hr, fun _ => rfl, (OutboxDelivery.Moves.create hpending hfresh).sound
      OutboxDelivery.sound_absent⟩
  have honly : WorkersOnly (Clients.idle ⟨outbox, []⟩ : OutboxClients σ ι) :=
    ⟨fun _ _ h => (nomatch h), fun _ h => nomatch h⟩
  obtain ⟨es, d, hrun, hd, hlog⟩ :=
    (run_follows laws hvalid (turns.map workerTurn)).2 r.id _ hshows
  obtain ⟨⟨r', hr', hchange⟩, hsent⟩ := OutboxDelivery.carries_run hrun ⟨r, rfl, rfl⟩
  have hnone : ∀ id, .replayed id ∉ workersLog repo outbox turns := (honly.run turns).log
  have hsince : sentSince (history r.id (workersLog repo outbox turns)) = _ :=
    sentSince_eq_dispatches fun id hmem => hnone id (List.mem_of_mem_filter hmem)
  have hbounded : (sentSince (history r.id (workersLog repo outbox turns))).length ≤ _ :=
    hd.sound.bounded hr'
  rw [hsince] at hbounded
  refine ⟨hbounded.trans (WebhookOutboxRecord.allowance_congr hchange).le, fun r'' hmem => ?_⟩
  have hdispatched := mem_dispatches hmem
  rw [workersLog, hlog] at hdispatched
  exact hsent r'' hdispatched

end IntentRebase
