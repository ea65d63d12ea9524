import IntentRebase.Webhook.Dispatch
import IntentRebase.Webhook.OutboxOwnership

/-! One outbox worker with the delivery dispatcher, run after run: when it sends a record, what the
receiver answers, and what a run lists. The listing of pending records does not read the time for
which they are scheduled. -/

namespace IntentRebase

open Kit

variable {σ ι : Type}

/-- The order in which a repository reads, and what the delivery dispatcher meets. -/
structure DeliveryChoice (ι : Type) where
  order : ι
  sending : DispatcherEnv

/-- What the surroundings decide at one step of a worker with the delivery dispatcher. -/
structure DeliveryEnv (ι : Type) extends DeliveryChoice ι where
  now : DateTime
  crashes : Bool
  fails : Bool
  /-- The random number of a backoff, from `0` up to `1`. -/
  random : Double

def DeliveryEnv.stepEnv (crates : SigningCrates) (env : DeliveryEnv ι) :
    StepEnv (DeliveryChoice ι) where
  now := env.now
  crashes := env.crashes
  fails := env.fails
  choice := env.toDeliveryChoice
  dispatch := fun record => (WebhookDeliveryDispatcher.dispatch crates env.sending record).2
  computeBackoffDelay := fun attemptNumber => computeBackoffDelay env.random attemptNumber

/-- A run of the worker, with the surroundings of its steps in order. -/
structure WorkerRun (ι : Type) where
  enabled : Bool
  tenantId : Uuid
  batchSize : Int64
  env : Nat → DeliveryEnv ι

def WorkerRun.processOnce (crates : SigningCrates) (run : WorkerRun ι) :
    ProcessOnce (DeliveryChoice ι) where
  enabled := run.enabled
  tenantId := run.tenantId
  batchSize := run.batchSize
  env := fun n => (run.env n).stepEnv crates

/-- One worker, run after run: it starts a run once the last has ended, or takes a step of it. -/
inductive WorkerTurn (ι : Type) where
  | start (run : WorkerRun ι)
  | step

def WorkerTurn.turn (crates : SigningCrates) :
    WorkerTurn ι → Turn (OutboxRequest (DeliveryChoice ι))
  | .start run => .call 0 (.processOnce (run.processOnce crates))
  | .step => .step 0

/-- A dispatch: the record as it was claimed, the time, and what was sent, if anything. -/
structure TimedDispatch where
  record : WebhookOutboxRecord
  time : DateTime
  send : Option WebhookSend

/-- The time for which the receiver asks to wait, if it limits the rate and says so. -/
def TimedDispatch.retryAfter (d : TimedDispatch) : Option Duration :=
  match d.send with
  | none => none
  | some send =>
    match send.answer with
    | .ok (.rateLimited retryAfter) => retryAfter
    | .ok .success | .ok (.retryableFailure _) | .ok (.nonRetryableFailure _) | .error _ => none

/-- The dispatch that a stage makes. -/
def OutboxStage.sends (crates : SigningCrates) :
    OutboxStage (DeliveryChoice ι) → Option TimedDispatch
  | .dispatch call claimed _ _ =>
    let env := call.env 0
    if env.crashes then none
    else
      some ⟨claimed, env.now,
        (WebhookDeliveryDispatcher.dispatch crates env.choice.sending claimed).1⟩
  | .create .. | .replayFailed .. | .listPending _ | .claim .. | .mark .. => none

section Worker

variable (repo : ι → WebhookOutboxRepository σ) (crates : SigningCrates)

/-- The outbox and the worker after a turn. -/
def workerNext (s : OutboxClients σ (DeliveryChoice ι)) (t : WorkerTurn ι) :
    OutboxClients σ (DeliveryChoice ι) :=
  Clients.turn (outboxCalls fun choice => repo choice.order) s (t.turn crates)

/-- The dispatch of a turn. -/
def WorkerTurn.sends (s : OutboxClients σ (DeliveryChoice ι)) : WorkerTurn ι → Option TimedDispatch
  | .start _ => none
  | .step => (s.stage 0).bind (OutboxStage.sends crates)

/-- The dispatches of some turns, in order. -/
def timedDispatches : OutboxClients σ (DeliveryChoice ι) → List (WorkerTurn ι) → List TimedDispatch
  | _, [] => []
  | s, t :: turns =>
    (t.sends crates s).toList ++ timedDispatches (workerNext repo crates s t) turns

end Worker

/-- A record is not sent before its time, nor again while the receiver wants it to wait. -/
structure OnSchedule (sent : List TimedDispatch) : Prop where
  due : ∀ d ∈ sent, d.record.scheduledAt ≤ d.time
  waits : sent.Pairwise fun d d' => d.record.id = d'.record.id → ∀ retryAfter,
    d.retryAfter = some retryAfter →
      d.time + ((min retryAfter webhookRetryAfterCap : Nat) : Int) ≤ d'.time

/-- The clock of a call does not go back, and no backoff is negative. -/
structure ProcessOnce.Forward (call : ProcessOnce ι) : Prop where
  clock : ∀ n, (call.env n).now ≤ (call.env (n + 1)).now
  backoff : ∀ n attemptNumber, 0 ≤ (call.env n).computeBackoffDelay attemptNumber

/-- A record is pending, and a tenant's. -/
def WebhookOutboxRecord.PendingOf (r : WebhookOutboxRecord) (tenantId : Uuid) : Prop :=
  r.tenantId = tenantId ∧ r.status = .pending

/-- The next batch of a tenant is due: all of its pending records are, or as many as a batch
has. -/
def BatchDue (records : OutboxView) (tenantId : Uuid) (batchSize : Int64) (now : DateTime) : Prop :=
  (∀ id r, records id = some r → r.PendingOf tenantId → r.scheduledAt ≤ now) ∨
  ∃ ids : List Uuid, ids.Nodup ∧
    ids.length = InMemoryWebhookOutboxRepository.limitAsUsize batchSize ∧
    ∀ id ∈ ids, ∃ r, records id = some r ∧ r.PendingOf tenantId ∧ r.scheduledAt ≤ now

/-- The backoff of a record that a worker schedules again. -/
def retryDelay (env : StepEnv ι) (claimed : WebhookOutboxRecord) : Int :=
  env.computeBackoffDelay (max (claimed.attemptCount + 1).toInt 0).toNat

/-- The step does not reach what ignores the schedule: a run lists a batch that is due, and the
backoff that follows an answer is not shorter than the wait that the receiver asks for. -/
def OutboxStage.InStep (crates : SigningCrates) (records : OutboxView) :
    OutboxStage (DeliveryChoice ι) → Prop
  | .listPending call =>
    call.enabled = true → (call.env 0).crashes = false → (call.env 0).fails = false →
      BatchDue records call.tenantId call.batchSize (call.env 0).now
  | .dispatch call claimed rest processed =>
    ∀ d retryAfter, OutboxStage.sends crates (.dispatch call claimed rest processed) = some d →
      d.retryAfter = some retryAfter → claimed.exhausted = false →
      (call.env 1).crashes = false → (call.env 1).fails = false →
      (min retryAfter webhookRetryAfterCap : Nat) ≤ retryDelay (call.env 1) claimed
  | .create .. | .replayFailed .. | .claim .. | .mark .. => True

/-- The same of a turn; the clock of a run that starts does not go back. -/
def WorkerTurn.InStep (view : σ → OutboxView) (crates : SigningCrates)
    (s : OutboxClients σ (DeliveryChoice ι)) : WorkerTurn ι → Prop
  | .start run => ∀ n, (run.env n).now ≤ (run.env (n + 1)).now
  | .step => ∀ k, s.stage 0 = some k → k.InStep crates (view s.store.repo)

section Listing

/-- A listing of pending records has the first of a tenant's in the order of the schedule. -/
def ListsPending (repo : WebhookOutboxRepository σ) (view : σ → OutboxView) (valid : σ → Prop) :
    Prop :=
  ∀ {s} tenantId limit {listed}, valid s → repo.listPending s tenantId limit = .ok listed →
    ∃ stored : List WebhookOutboxRecord, (stored.map fun r => r.id).Nodup ∧
      (∀ r, r ∈ stored ↔ view s r.id = some r ∧ r.PendingOf tenantId) ∧
      listed = (orderBy (fun r => r.pendingKey) stored).take
        (InMemoryWebhookOutboxRepository.limitAsUsize limit)

theorem InMemoryWebhookOutboxRepository.listsPending (order : IterOrder WebhookOutboxRecord) :
    ListsPending (repository order) (fun records => records.lookup) Keyed := by
  intro records tenantId limit listed hkeyed hlisted
  cases hlisted
  have hvalues : ∀ r, r ∈ values order records ↔ records.lookup r.id = some r := by
    intro r
    refine ⟨fun hmem => ?_, mem_values order⟩
    obtain ⟨⟨id, r'⟩, hpair, rfl⟩ := List.mem_map.mp (order.mem_apply.mp hmem)
    have hlookup := mem_pairs.mp hpair
    rwa [hkeyed id r' hlookup]
  refine ⟨(values order records).filter fun r => r.tenantId = tenantId && r.status = .pending,
    ?_, fun r => ?_, rfl⟩
  · have hids : ((values order records).map fun r => r.id).Perm ((pairs records).map Prod.fst) := by
      refine ((order.perm _).map _).trans (.of_eq ?_)
      rw [List.map_map]
      exact List.map_congr_left fun p hp => hkeyed p.1 p.2 (mem_pairs.mp hp)
    exact (List.filter_sublist.map _).nodup (hids.nodup_iff.mpr (nodup_pairs_keys records))
  · rw [List.mem_filter, hvalues, Bool.and_eq_true, decide_eq_true_eq, decide_eq_true_eq]
    exact Iff.rfl

theorem SqlxWebhookOutboxRepository.listsPending (collation : Collation) (scans : Scans) :
    ListsPending (repository collation scans) view OfRecords := by
  rintro table tenantId limit listed ⟨records, hsame⟩ hlisted
  change listPending scans.rows table tenantId limit = .ok listed at hlisted
  have hagree : SameResult
      (InMemoryWebhookOutboxRepository.listPending (.id _) records tenantId limit)
      (listPending scans.rows table tenantId limit) ↔ 0 ≤ limit.toInt :=
    hsame.listing (.id _) scans.rows _ limit pendingKey_id
      fun r => congrArg _ (decide_status .pending r)
  have hlimit : 0 ≤ limit.toInt := by
    by_contra hneg
    rw [listPending, listing, if_pos (not_le.mp hneg)] at hlisted
    cases hlisted
  have hmemory : InMemoryWebhookOutboxRepository.listPending (.id _) records tenantId limit =
      .ok listed := by
    have hsameList := hagree.mpr hlimit
    rw [hlisted] at hsameList
    generalize InMemoryWebhookOutboxRepository.listPending (.id _) records tenantId limit = answer
      at hsameList ⊢
    cases hsameList
    rfl
  rw [view_eq hsame]
  exact InMemoryWebhookOutboxRepository.listsPending (.id _) tenantId limit hsame.keyed hmemory

/-- What is listed of a batch that is due is due. -/
theorem BatchDue.listed {records : OutboxView} {tenantId : Uuid} {batchSize : Int64}
    {now : DateTime} (h : BatchDue records tenantId batchSize now)
    {stored : List WebhookOutboxRecord}
    (hkeyed : ∀ id r, records id = some r → r.id = id)
    (hstored : ∀ r, r ∈ stored ↔ records r.id = some r ∧ r.PendingOf tenantId)
    {r : WebhookOutboxRecord} (hr : r ∈ (orderBy (fun r => r.pendingKey) stored).take
      (InMemoryWebhookOutboxRepository.limitAsUsize batchSize)) : r.scheduledAt ≤ now := by
  obtain ⟨hlookup, hpending⟩ := (hstored r).mp (mem_orderBy.mp (List.mem_of_mem_take hr))
  rcases h with hall | ⟨ids, hnodup, hlength, hdue⟩
  · exact hall r.id r hlookup hpending
  · by_contra hlate
    rw [not_le] at hlate
    -- as many as a batch has come before the record, so it is not in the batch
    have hbefore : ids ⊆ (stored.filter fun r' => r'.pendingKey < r.pendingKey).map
        fun r' => r'.id := by
      intro id hid
      obtain ⟨r', hr', hpending', hnow⟩ := hdue id hid
      obtain rfl := hkeyed id r' hr'
      refine List.mem_map_of_mem (List.mem_filter.mpr ⟨(hstored r').mpr ⟨hr', hpending'⟩, ?_⟩)
      exact decide_eq_true (Prod.Lex.toLex_lt_toLex.mpr (.inl (lt_of_le_of_lt hnow hlate)))
    have hcount := (hnodup.subperm hbefore).length_le
    rw [List.length_map, hlength] at hcount
    exact absurd (length_filter_lt_of_mem_take hr) (not_lt.mpr hcount)

end Listing

end IntentRebase
