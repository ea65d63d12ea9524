import IntentRebase.Webhook.Dispatch
import IntentRebase.Webhook.WorkerSends

/-! What is sent for a change: a dispatch serves each subscription once, and each of the two ways
sends to it under one idempotency key and a bounded number of times. The keys of the two ways
differ: a record in the outbox is sent by the workers although the dispatch has sent its change. -/

namespace IntentRebase

open Kit

variable {ρ σ ι : Type} {view : σ → OutboxView} {valid : σ → Prop}
  {repo : ι → WebhookOutboxRepository σ}

namespace DispatchCall

variable (call : DispatchCall ρ σ ι)

/-- The propagation records that a dispatch finds. -/
def listed (propagation : ρ) : List PropagationRecord :=
  match call.repo.listByIntent propagation call.intentId call.tenantId with
  | .ok records => records
  | .error _ => []

/-- The subscriptions that a dispatch serves: those resolved, unless one of its reads fails. -/
def resolved (propagation : ρ) : List WebhookSubscription :=
  match call.repo.listByIntent propagation call.intentId call.tenantId with
  | .error _ => []
  | .ok _ =>
    match call.resolver call.tenantId call.intentId with
    | .error _ => []
    | .ok subscriptions => subscriptions

/-- A message about the change to a subscription, under a delivery's identifier. -/
structure OfChange (sub : WebhookSubscription) (deliveryId : Uuid) (send : WebhookSend) : Prop where
  url : send.url = sub.webhookUrl
  key : send.headers.idempotencyKey = deliveryId.display
  delivery : send.payload.deliveryId = deliveryId
  event : send.payload.eventType = "intent_changed"
  tenant : send.payload.tenantId = call.tenantId
  intent : send.payload.intentId = call.intentId
  version : send.payload.version = call.version
  subscription : send.payload.subscriptionId = sub.subscriptionId

/-- The attempts of the dispatch itself. -/
structure SentDirectly (sub : WebhookSubscription) (attempts : List WebhookAttempt) : Prop where
  sent : attempts ≠ []
  bounded : attempts.length ≤ 3
  change : ∃ deliveryId, ∀ a ∈ attempts, call.OfChange sub deliveryId a.toWebhookSend
  numbered : ∀ (i : Nat) (a : WebhookAttempt), attempts[i]? = some a →
    a.payload.attemptNumber.toInt = i + 1
  retried : ∀ (i : Nat) (a : WebhookAttempt), attempts[i]? = some a → i + 1 < attempts.length →
    a.answer.isRetryable = true

/-- The dispatches of a queued record by workers. -/
structure SentByWorkers (sub : WebhookSubscription) (queued : WebhookOutboxRecord)
    (log : List OutboxEvent) : Prop where
  bounded : (dispatches (history queued.id log)).length ≤ 3
  change : ∀ crates env r send, r ∈ dispatches (history queued.id log) →
    (WebhookDeliveryDispatcher.dispatch crates env r).1 = some send →
    call.OfChange sub queued.id send

/-- The record is the one of a subscription's downstream system. -/
def RecordOf (propagation : ρ) (sub : WebhookSubscription) (record : PropagationRecord) : Prop :=
  record ∈ call.listed propagation ∧ record.downstreamSystemId = sub.downstreamSystemId.getD ""

/-- What becomes of a subscription, given what the workers do later. -/
def Serves (propagation : ρ) (log : List OutboxEvent) (sub : WebhookSubscription) :
    DispatchOutcome → Prop
  | .noRecord => ∀ record, ¬ call.RecordOf propagation sub record
  | .notRecorded record error => call.RecordOf propagation sub record ∧
    ∃ p now, (call.repo.recordDeliveryAttempt p now record.id call.tenantId).1 = .error error
  | .sent record queued attempts => call.RecordOf propagation sub record ∧
    call.SentDirectly sub attempts ∧ ∀ q, queued = some q → call.SentByWorkers sub q log

theorem ofChange_payload {env : DispatchEnv ι} {sub : WebhookSubscription} {count : Int32}
    {a : WebhookAttempt} {number : Int32} (hurl : a.url = sub.webhookUrl)
    (hpayload : a.payload = { call.payload env sub count with attemptNumber := number })
    (hheaders : a.headers = .new env.deliveryId) :
    call.OfChange sub env.deliveryId a.toWebhookSend where
  url := hurl
  key := by rw [hheaders]; rfl
  delivery := by rw [hpayload]; rfl
  event := by rw [hpayload]; rfl
  tenant := by rw [hpayload]; rfl
  intent := by rw [hpayload]; rfl
  version := by rw [hpayload]; rfl
  subscription := by rw [hpayload]; rfl

theorem i32OrOne_toInt {n : Nat} (h : n ≤ 3) : (i32OrOne n).toInt = n := by
  have hall : ∀ n : Fin 4, (i32OrOne n).toInt = n := by decide
  exact hall ⟨n, by omega⟩

/-- The retry loop sends the change under one key. -/
theorem sentDirectly (env : DispatchEnv ι) (sub : WebhookSubscription) (count : Int32) :
    call.SentDirectly sub (sendWebhookWithRetries env.sending sub.webhookUrl
      (call.payload env sub count) (.new env.deliveryId)).1 := by
  have h := sendWebhookWithRetries_attempts env.sending sub.webhookUrl
    (call.payload env sub count) (.new env.deliveryId)
  have hbounded : _ ≤ 3 := Nat.le_of_succ_le_succ h.bounded
  refine ⟨h.sent, hbounded, ⟨env.deliveryId, fun a ha => ?_⟩, fun i a hi => ?_, h.retried⟩
  · obtain ⟨i, hi⟩ := List.mem_iff_getElem?.mp ha
    obtain ⟨-, hurl, hpayload, hheaders⟩ := h.attempt i a hi
    exact call.ofChange_payload hurl hpayload hheaders
  · obtain ⟨-, -, hpayload, -⟩ := h.attempt i a hi
    obtain ⟨hlt, -⟩ := List.getElem?_eq_some_iff.mp hi
    rw [hpayload]
    change (i32OrOne (1 + i)).toInt = i + 1
    rw [i32OrOne_toInt (by omega)]
    omega

/-- The workers send a queued record's change under the record's own key. -/
theorem sentByWorkers {env : DispatchEnv ι} {sub : WebhookSubscription} {payload : WebhookPayload}
    {log : List OutboxEvent} (h : SentFor (call.outboxRecord env sub payload) log) :
    call.SentByWorkers sub (call.outboxRecord env sub payload) log where
  bounded := h.bounded
  change := by
    intro crates denv r send hr hsend
    have hchange := h.change r hr
    obtain ⟨hurl, hpayload, hkey⟩ := WebhookDeliveryDispatcher.dispatch_send crates denv hsend
    have hid : r.id = env.outboxId := congrArg OutboxChange.id hchange
    refine ⟨?_, hkey.trans (by rw [hid]; rfl), ?_, ?_, ?_, ?_, ?_, ?_⟩
    · exact Option.some.inj (hurl.trans (congrArg OutboxChange.webhookUrl hchange))
    · rw [hpayload]
      exact hid
    · rw [hpayload]
      rfl
    · rw [hpayload]
      exact congrArg OutboxChange.tenantId hchange
    · rw [hpayload]
      exact congrArg OutboxChange.intentId hchange
    · rw [hpayload]
      exact congrArg OutboxChange.version hchange
    · rw [hpayload]
      exact congrArg OutboxChange.subscriptionId hchange

/-- An outbox holds what another does. -/
structure Extends (view : σ → OutboxView) (valid : σ → Prop) (outbox outbox' : σ) : Prop where
  valid : valid outbox'
  held : ∀ id r, view outbox id = some r → view outbox' id = some r

/-- What was put into the outbox for a subscription is there, as new. -/
def Queued (view : σ → OutboxView) (outbox : σ) (sub : WebhookSubscription)
    (queued : Option WebhookOutboxRecord) : Prop :=
  ∀ q, queued = some q → view outbox q.id = some q ∧
    ∃ env payload, q = call.outboxRecord env sub payload

/-- What is known of a subscription when its round of the loop is over. -/
def Served (view : σ → OutboxView) (outbox : σ) (records : List PropagationRecord)
    (sub : WebhookSubscription) : DispatchOutcome → Prop
  | .noRecord => recordFor records sub = none
  | .notRecorded record error => recordFor records sub = some record ∧
    ∃ p now, (call.repo.recordDeliveryAttempt p now record.id call.tenantId).1 = .error error
  | .sent record queued attempts => recordFor records sub = some record ∧
    call.SentDirectly sub attempts ∧ call.Queued view outbox sub queued

variable {call}

theorem Extends.refl {outbox : σ} (h : valid outbox) : Extends view valid outbox outbox :=
  ⟨h, fun _ _ hr => hr⟩

theorem Extends.trans {outbox outbox' outbox'' : σ} (h : Extends view valid outbox outbox')
    (h' : Extends view valid outbox' outbox'') : Extends view valid outbox outbox'' :=
  ⟨h'.valid, fun id r hr => h'.held id r (h.held id r hr)⟩

theorem Queued.mono {outbox outbox' : σ} {sub : WebhookSubscription}
    {queued : Option WebhookOutboxRecord} (h : call.Queued view outbox sub queued)
    (hext : Extends view valid outbox outbox') : call.Queued view outbox' sub queued :=
  fun q hq => ⟨hext.held _ _ (h q hq).1, (h q hq).2⟩

theorem Served.mono {outbox outbox' : σ} {records : List PropagationRecord}
    {sub : WebhookSubscription} {outcome : DispatchOutcome}
    (h : call.Served view outbox records sub outcome) (hext : Extends view valid outbox outbox') :
    call.Served view outbox' records sub outcome := by
  cases outcome with
  | noRecord | notRecorded record error => exact h
  | sent record queued attempts => exact ⟨h.1, h.2.1, h.2.2.mono hext⟩

section Serving

variable (laws : ∀ r, call.outboxRepo = some r → ∀ i, OutboxLaws (r i) view valid)

include laws

theorem queue_spec (env : DispatchEnv ι) {outbox : σ} (hvalid : valid outbox)
    (sub : WebhookSubscription) (payload : WebhookPayload) :
    Extends view valid outbox
        (call.queue env outbox (call.outboxRecord env sub payload)).2 ∧
      call.Queued view (call.queue env outbox (call.outboxRecord env sub payload)).2 sub
        (call.queue env outbox (call.outboxRecord env sub payload)).1 := by
  have hnone : call.Queued view outbox sub none := fun q hq => nomatch hq
  rw [queue]
  split
  · exact ⟨.refl hvalid, hnone⟩
  next repo hrepo =>
    split
    · exact ⟨.refl hvalid, hnone⟩
    rcases (laws repo hrepo env.choice).create (call.outboxRecord env sub payload) hvalid with
      ⟨outbox', habsent, hcreate, hvalid', hview⟩ | ⟨e, hfails⟩
    · rw [hcreate]
      refine ⟨⟨hvalid', fun id r hr => ?_⟩, fun q hq => ?_⟩
      · have hne : id ≠ (call.outboxRecord env sub payload).id := by
          rintro rfl
          rw [habsent] at hr
          cases hr
        rw [hview, Function.update_of_ne hne]
        exact hr
      · obtain rfl := Option.some.inj hq
        exact ⟨by rw [hview, Function.update_self], env, payload, rfl⟩
    · rw [hfails]
      exact ⟨.refl hvalid, hnone⟩

theorem serve_spec (env : DispatchEnv ι) (records : List PropagationRecord)
    (sub : WebhookSubscription) {s : DispatchStores ρ σ} (hvalid : valid s.outbox) :
    Extends view valid s.outbox (call.serve env records sub s).2.outbox ∧
      call.Served view (call.serve env records sub s).2.outbox records sub
        (call.serve env records sub s).1 := by
  rw [serve]
  split
  next hnone => exact ⟨.refl hvalid, hnone⟩
  next record hrecord =>
    split
    next e propagation hfails =>
      exact ⟨.refl hvalid, hrecord, s.propagation, env.attemptAt, congrArg Prod.fst hfails⟩
    next updated propagation hok =>
      obtain ⟨hext, hqueued⟩ := queue_spec laws env hvalid sub
        (call.payload env sub updated.deliveryAttemptCount)
      exact ⟨hext, hrecord, call.sentDirectly env sub updated.deliveryAttemptCount, hqueued⟩

/-- The whole loop, by induction on the subscriptions. -/
theorem serveAll_spec (records : List PropagationRecord) (env : Nat → DispatchEnv ι)
    (subs : List WebhookSubscription) {s : DispatchStores ρ σ} (hvalid : valid s.outbox) :
    Extends view valid s.outbox (call.serveAll records env subs s).2.outbox ∧
      (call.serveAll records env subs s).1.map (·.subscription) = subs ∧
      ∀ d ∈ (call.serveAll records env subs s).1,
        call.Served view (call.serveAll records env subs s).2.outbox records d.subscription
          d.outcome := by
  induction subs generalizing env s with
  | nil => exact ⟨.refl hvalid, rfl, fun _ h => nomatch h⟩
  | cons sub subs ih =>
    obtain ⟨hfirst, hserved⟩ := serve_spec laws (env 0) records sub hvalid
    obtain ⟨hrest, hmap, hall⟩ := ih (fun n => env (n + 1)) hfirst.valid
    refine ⟨hfirst.trans hrest, congrArg (sub :: ·) hmap, fun d hd => ?_⟩
    rcases List.mem_cons.mp hd with rfl | hd
    · exact hserved.mono hrest
    · exact hall d hd

theorem dispatch_spec (propagation : ρ) {outbox : σ} (hvalid : valid outbox) :
    let result := call.dispatchWebhooksForIntentWithOutbox ⟨propagation, outbox⟩
    valid result.2.outbox ∧ result.1.map (·.subscription) = call.resolved propagation ∧
      ∀ d ∈ result.1, call.Served view result.2.outbox (call.listed propagation) d.subscription
        d.outcome := by
  cases hlist : call.repo.listByIntent propagation call.intentId call.tenantId with
  | error e =>
    simp only [dispatchWebhooksForIntentWithOutbox, resolved, listed, hlist]
    exact ⟨hvalid, rfl, fun _ h => nomatch h⟩
  | ok records =>
    cases hresolve : call.resolver call.tenantId call.intentId with
    | error e =>
      simp only [dispatchWebhooksForIntentWithOutbox, resolved, listed, hlist, hresolve]
      exact ⟨hvalid, rfl, fun _ h => nomatch h⟩
    | ok subs =>
      simp only [dispatchWebhooksForIntentWithOutbox, resolved, listed, hlist, hresolve]
      obtain ⟨hext, hmap, hall⟩ := serveAll_spec (s := ⟨propagation, outbox⟩) laws records call.env
        subs hvalid
      exact ⟨hext.valid, hmap, hall⟩

end Serving

theorem recordOf_of_find {propagation : ρ} {sub : WebhookSubscription} {record : PropagationRecord}
    (h : recordFor (call.listed propagation) sub = some record) :
    call.RecordOf propagation sub record :=
  ⟨List.mem_of_find?_eq_some h, by simpa using List.find?_some h⟩

/-- Workers send what the dispatch has queued. -/
theorem Served.serves (laws : ∀ i, OutboxLaws (repo i) view valid) {propagation : ρ} {outbox : σ}
    {sub : WebhookSubscription} {outcome : DispatchOutcome}
    (h : call.Served view outbox (call.listed propagation) sub outcome) (hvalid : valid outbox)
    (turns : List (Turn (ProcessOnce ι))) :
    call.Serves propagation (workersLog repo outbox turns) sub outcome := by
  cases outcome with
  | noRecord =>
    intro record hrecord
    have hfind := List.find?_eq_none.mp h record hrecord.1
    exact hfind (decide_eq_true hrecord.2)
  | notRecorded record error => exact ⟨recordOf_of_find h.1, h.2⟩
  | sent record queued attempts =>
    refine ⟨recordOf_of_find h.1, h.2.1, fun q hq => ?_⟩
    obtain ⟨hview, env, payload, rfl⟩ := h.2.2 q hq
    exact call.sentByWorkers (workers_sentFor laws hvalid hview rfl rfl turns)

end DispatchCall

/-- One dispatch into an outbox with any contents, and then any runs of workers: the subscriptions
resolved are served once each, and each of the two ways keeps to one key and to three messages. -/
def OneKeyEachWay (repo : ι → WebhookOutboxRepository σ) (empty : σ) : Prop :=
  ∀ (ρ : Type) (call : DispatchCall ρ σ ι) (propagation : ρ)
    (earlier : List (Turn (OutboxRequest ι))) (turns : List (Turn (ProcessOnce ι))),
    (∀ r, call.outboxRepo = some r → r = repo) →
    let outbox := (OutboxClients.after repo (.initial empty) earlier).store.repo
    let result := call.dispatchWebhooksForIntentWithOutbox ⟨propagation, outbox⟩
    result.1.map (·.subscription) = call.resolved propagation ∧
      ∀ d ∈ result.1, d.subscription.status = "active" →
        "intent_changed" ∈ d.subscription.eventTypes →
          call.Serves propagation (workersLog repo result.2.outbox turns) d.subscription d.outcome

theorem oneKeyEachWay (laws : ∀ i, OutboxLaws (repo i) view valid) {empty : σ}
    (hempty : valid empty) : OneKeyEachWay repo empty := by
  intro ρ call propagation earlier turns hrepo outbox result
  have houtbox : valid outbox :=
    (run_follows (s := OutboxClients.initial empty) laws hempty earlier).1
  obtain ⟨hvalid, hmap, hserved⟩ := DispatchCall.dispatch_spec
    (fun r hr i => by rw [hrepo r hr]; exact laws i) propagation houtbox
  exact ⟨hmap, fun d hd _ _ => (hserved d hd).serves laws hvalid turns⟩

/-- With the in-memory and with the SQL outbox, for any propagation records and resolver. -/
theorem dispatch_oneKeyEachWay :
    OneKeyEachWay InMemoryWebhookOutboxRepository.repository ∅ ∧
      ∀ collation, OneKeyEachWay (SqlxWebhookOutboxRepository.repository collation) ∅ := by
  constructor
  · exact oneKeyEachWay InMemoryWebhookOutboxRepository.laws fun _ _ h => nomatch h
  · intro collation
    exact oneKeyEachWay (SqlxWebhookOutboxRepository.laws collation)
      ⟨∅, fun _ => rfl, fun _ _ h => nomatch h⟩

/-- All that is sent to a subscription for a change: by the dispatch, and by workers with a
dispatcher. -/
def SubscriptionDispatch.sends (crates : SigningCrates) (env : DispatcherEnv)
    (log : List OutboxEvent) (d : SubscriptionDispatch) : List WebhookSend :=
  match d.outcome with
  | .noRecord | .notRecorded _ _ => []
  | .sent _ queued attempts =>
    attempts.map WebhookAttempt.toWebhookSend ++
      (queued.toList.flatMap fun q => dispatches (history q.id log)).filterMap fun r =>
        (WebhookDeliveryDispatcher.dispatch crates env r).1

/-- A change is sent to the subscriptions that ask for it, under one key and within the limit of
each, and to no other. -/
structure SentOnce (sub : WebhookSubscription) (sends : List WebhookSend) : Prop where
  asked : sub.status = "active" → "intent_changed" ∈ sub.eventTypes →
    sends ≠ [] ∧ sends.length ≤ sub.maxAttempts.toInt ∧
      ∃ key, ∀ send ∈ sends, send.headers.idempotencyKey = key
  unasked : ¬ (sub.status = "active" ∧ "intent_changed" ∈ sub.eventTypes) → sends = []

namespace DispatchSample

def subscription : WebhookSubscription where
  id := 5
  tenantId := 2
  intentId := 3
  subscriptionId := 6
  webhookUrl := "https://example.com/webhook"
  downstreamSystemId := some "workflow-runner-a"
  status := "active"
  maxAttempts := 3
  eventTypes := ["intent_changed"]

/-- A subscription whose downstream system has no propagation record. -/
def unrecorded : WebhookSubscription :=
  { subscription with id := 9, subscriptionId := 10, downstreamSystemId := none }

def crates : SigningCrates where
  jsonText := fun _ => "null"
  timeText := fun _ => "1970-01-01T00:00:00Z"
  toRfc3339 := fun _ => "1970-01-01T00:00:00+00:00"
  hmacSha256 := fun _ _ => .ok []

/-- A worker whose receiver answers. -/
def dispatcher : DispatcherEnv where
  now := 5
  secret := none
  send := fun _ _ _ => .ok .success

/-- Surroundings in which the receiver answers at once. -/
def env : DispatchEnv (IterOrder WebhookOutboxRecord) where
  attemptAt := 1
  payloadAt := 2
  deliveryId := 7
  outboxAt := 3
  outboxId := 8
  createFails := false
  choice := .id _
  sending := ⟨fun _ _ _ _ => .ok .success, fun _ => 0, fun _ => 0⟩
  outcomeAt := 4

def call : DispatchCall PropagationStore OutboxRecords (IterOrder WebhookOutboxRecord) where
  repo := InMemoryPropagationRecordRepository.repository
  resolver := InMemoryWebhookSubscriptionResolver.resolveByIntent [subscription, unrecorded]
  tenantId := 2
  intentId := 3
  version := 2
  outboxRepo := some InMemoryWebhookOutboxRepository.repository
  timeText := crates.timeText
  env := fun _ => env

def propagation : PropagationStore :=
  (InMemoryPropagationRecordRepository.createRecord ⟨∅, ∅⟩
    (.new 0 4 2 3 "workflow-runner-a")).2

def result :
    List SubscriptionDispatch × DispatchStores PropagationStore OutboxRecords :=
  call.dispatchWebhooksForIntentWithOutbox ⟨propagation, ∅⟩

/-- A worker lists, claims, sends and marks the record that was queued. -/
def turns : List (Turn (ProcessOnce (IterOrder WebhookOutboxRecord))) :=
  [.call 0 ⟨true, 2, 10, fun _ => { StepEnv.sample false with
      dispatch := fun r => (WebhookDeliveryDispatcher.dispatch crates dispatcher r).2 }⟩,
    .step 0, .step 0, .step 0, .step 0]

def log : List OutboxEvent :=
  workersLog InMemoryWebhookOutboxRepository.repository result.2.outbox turns

end DispatchSample

/-- Both subscriptions, one of them without a propagation record, are served by a dispatch into an
empty outbox and a run of a worker. -/
theorem dispatch_oneKeyEachWay_sample :
    DispatchSample.result.1.map (·.subscription) =
        [DispatchSample.subscription, DispatchSample.unrecorded] ∧
      ∀ d ∈ DispatchSample.result.1, DispatchSample.call.Serves DispatchSample.propagation
        DispatchSample.log d.subscription d.outcome := by
  obtain ⟨hresolved, hserves⟩ := dispatch_oneKeyEachWay.1 _ DispatchSample.call
    DispatchSample.propagation [] DispatchSample.turns fun r hr => (Option.some.inj hr).symm
  have hmap : DispatchSample.result.1.map (·.subscription) =
      [DispatchSample.subscription, DispatchSample.unrecorded] := hresolved
  refine ⟨hmap, fun d hd => ?_⟩
  have hmem : d.subscription ∈ [DispatchSample.subscription, DispatchSample.unrecorded] :=
    hmap ▸ List.mem_map_of_mem hd
  have hasked : d.subscription.status = "active" ∧ "intent_changed" ∈ d.subscription.eventTypes := by
    rcases List.mem_cons.mp hmem with hone | hother
    · rw [hone]
      exact ⟨rfl, List.mem_singleton_self _⟩
    · rw [List.mem_singleton.mp hother]
      exact ⟨rfl, List.mem_singleton_self _⟩
  exact hserves d hd hasked.1 hasked.2

/-- A change that a dispatch has sent is sent again by a worker, under another key; and a
subscription without a propagation record is sent nothing. -/
theorem dispatch_notSentOnce : ∃ d d', DispatchSample.result.1 = [d, d'] ∧
    ¬ SentOnce d.subscription
      (d.sends DispatchSample.crates DispatchSample.dispatcher DispatchSample.log) ∧
    ¬ SentOnce d'.subscription
      (d'.sends DispatchSample.crates DispatchSample.dispatcher DispatchSample.log) := by
  have hrun : DispatchSample.result.1.map (fun d =>
      (d.subscription.status, d.subscription.eventTypes,
        (d.sends DispatchSample.crates DispatchSample.dispatcher DispatchSample.log).map
          fun send => send.headers.idempotencyKey)) =
      [("active", ["intent_changed"], [(7 : Uuid).display, (8 : Uuid).display]),
        ("active", ["intent_changed"], [])] := by
    decide +kernel
  obtain ⟨d, rest, hlist, hd, hrest⟩ := List.map_eq_cons_iff.mp hrun
  obtain ⟨d', rfl, hd'⟩ := List.map_eq_singleton_iff.mp hrest
  simp only [Prod.mk.injEq] at hd hd'
  refine ⟨d, d', hlist, fun h => ?_, fun h => ?_⟩
  · obtain ⟨hactive, hevents, hkeys⟩ := hd
    obtain ⟨-, -, key, hkey⟩ := h.asked hactive (by simp [hevents])
    have hall : ∀ k ∈ [(7 : Uuid).display, (8 : Uuid).display], k = key := by
      rw [← hkeys]
      exact List.forall_mem_map.mpr hkey
    have h7 := hall _ List.mem_cons_self
    have h8 := hall _ (List.mem_cons_of_mem _ List.mem_cons_self)
    exact absurd (Uuid.display_injective (h7.trans h8.symm)) (by decide)
  · obtain ⟨hactive, hevents, hnone⟩ := hd'
    exact (h.asked hactive (by simp [hevents])).1 (List.map_eq_nil_iff.mp hnone)

end IntentRebase
