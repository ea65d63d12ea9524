import IntentRebase.Webhook.Delivery
import IntentRebase.Webhook.OutboxWorker
import IntentRebase.Webhook.Propagation
import IntentRebase.Webhook.Subscription

/-! The two ways in which a change reaches the subscriptions of an intent: the dispatch after the
change, which sends at once and may put a record into the outbox beside it, and the dispatcher with
which the outbox worker sends such a record. -/

namespace IntentRebase

open Kit

/-- A subscription as a dispatch sees it. -/
structure WebhookSubscription where
  id : Uuid
  tenantId : Uuid
  intentId : Uuid
  subscriptionId : Uuid
  webhookUrl : String
  downstreamSystemId : Option String
  status : String
  maxAttempts : Int32
  eventTypes : List String
deriving DecidableEq

/-- The interface of a resolver: from a tenant and an intent to its subscriptions. -/
abbrev WebhookSubscriptionResolver :=
  Uuid → Uuid → Except IntentRebaseError (List WebhookSubscription)

def EmptyWebhookSubscriptionResolver.resolveByIntent : WebhookSubscriptionResolver :=
  fun _ _ => .ok []

def InMemoryWebhookSubscriptionResolver.resolveByIntent (subscriptions : List WebhookSubscription) :
    WebhookSubscriptionResolver :=
  fun tenantId intentId =>
    .ok (subscriptions.filter fun s => s.tenantId = tenantId ∧ s.intentId = intentId)

/-- A row of the subscriptions as a resolver reads it. -/
def WebhookSubscription.ofRow (row : WebhookSubscriptionRecord) : WebhookSubscription where
  id := row.id
  tenantId := row.tenantId
  intentId := row.intentId
  subscriptionId := row.subscriptionId
  webhookUrl := row.webhookUrl
  downstreamSystemId := row.downstreamSystemId
  status := row.status
  maxAttempts := row.maxAttempts
  eventTypes := row.eventTypes

/-- The rows of an intent, the table scanned in some order. -/
def SqlxWebhookSubscriptionResolver.resolveByIntent (table : SubscriptionStore)
    (scan : IterOrder WebhookSubscriptionRecord) : WebhookSubscriptionResolver :=
  fun tenantId intentId =>
    let rows := (scan.apply ((pairs table).map Prod.snd)).filter fun row =>
      row.tenantId = tenantId ∧ row.intentId = intentId
    .ok (rows.map .ofRow)

/-- The functions of other crates under a signature: the compact text of a JSON value, the text of a
time in JSON, its text in RFC 3339, and the HMAC-SHA256 digest of a text under a secret. -/
structure SigningCrates where
  jsonText : Json → String
  timeText : DateTime → String
  toRfc3339 : DateTime → String
  hmacSha256 : String → String → Except String (List UInt8)

def hexEncode (data : List UInt8) : String :=
  String.ofList (data.flatMap fun b => hexDigits 2 b.toNat)

/-- The bytes of a digest are determined by their digits. -/
theorem hexEncode_injective : Function.Injective hexEncode := by
  intro data data' h
  have hdigits := String.ofList_injective h
  clear h
  induction data generalizing data' with
  | nil =>
    cases data' with
    | nil => rfl
    | cons b' rest' =>
      have hlength := congrArg List.length hdigits
      simp [length_hexDigits] at hlength
      omega
  | cons b rest ih =>
    cases data' with
    | nil =>
      have hlength := congrArg List.length hdigits
      simp [length_hexDigits] at hlength
    | cons b' rest' =>
      rw [List.flatMap_cons, List.flatMap_cons] at hdigits
      obtain ⟨hhead, htail⟩ := List.append_inj hdigits (by simp [length_hexDigits])
      have hbyte : b = b' := UInt8.toNat_inj.mp (hexDigits_inj b.toNat_lt b'.toNat_lt hhead)
      rw [hbyte, ih htail]

def signPayload (crates : SigningCrates) (secret payload : String) : Except String String :=
  match crates.hmacSha256 secret payload with
  | .ok digest => .ok (hexEncode digest)
  | .error e => .error s!"HMAC init error: {e}"

theorem signPayload_ok {crates : SigningCrates} {secret payload : String} {digest : List UInt8} :
    signPayload crates secret payload = .ok (hexEncode digest) ↔
      crates.hmacSha256 secret payload = .ok digest := by
  rw [signPayload]
  cases hdigest : crates.hmacSha256 secret payload with
  | error e => simp
  | ok digest' => simp [hexEncode_injective.eq_iff]

def buildCanonicalString (timestamp deliveryId body : String) : String :=
  s!"{timestamp}.{deliveryId}.{body}"

theorem toList_buildCanonicalString (timestamp deliveryId body : String) :
    (buildCanonicalString timestamp deliveryId body).toList =
      timestamp.toList ++ '.' :: (deliveryId.toList ++ '.' :: body.toList) := by
  simp [buildCanonicalString, toString]

/-- The request that a client makes. -/
structure WebhookRequest where
  url : String
  headers : List (String × String)
  body : String

def sendWebhook (crates : SigningCrates) (url : String) (payload : WebhookPayload)
    (headers : WebhookHeaders) : WebhookRequest where
  url := url
  headers := [("Content-Type", headers.contentType), ("X-Idempotency-Key", headers.idempotencyKey)]
    ++ (headers.signature.map fun signature => ("X-Webhook-Signature", signature)).toList
  body := crates.jsonText (Serialize.toJson crates.timeText payload)

/-- What the surroundings decide when the worker's dispatcher sends a record. -/
structure DispatcherEnv where
  now : DateTime
  /-- The secret in the environment, if it is set. -/
  secret : Option String
  send : String → WebhookPayload → WebhookHeaders → WebhookSendAnswer

namespace WebhookDeliveryDispatcher

variable (crates : SigningCrates) (env : DispatcherEnv)

def payload (record : WebhookOutboxRecord) : WebhookPayload :=
  buildWebhookPayload env.now {
    intentId := record.intentId
    tenantId := record.tenantId
    version := record.version
    versionHash := record.versionHash
    previousVersion := record.previousVersion
    deliveryId := record.id
    attemptNumber := record.attemptCount + 1
    subscriptionId := record.subscriptionId }

/-- The headers, signed if there is a secret. -/
def headers (record : WebhookOutboxRecord) : Except WebhookDispatchFailure WebhookHeaders :=
  match env.secret with
  | none => .ok (.new record.id)
  | some secret =>
    let payload := payload env record
    let body := crates.jsonText (Serialize.toJson crates.timeText payload)
    let canonical :=
      buildCanonicalString (crates.toRfc3339 payload.timestamp) record.id.display body
    match signPayload crates secret canonical with
    | .ok signature => .ok ((WebhookHeaders.new record.id).withSignature signature)
    | .error e => .error (.terminal s!"HMAC sign error: {e}")

/-- What the worker is told of an answer. -/
def classify : WebhookSendAnswer → Except WebhookDispatchFailure Unit
  | .ok .success => .ok ()
  | .ok (.nonRetryableFailure reason) => .error (.terminal (sanitizeFailureReason reason))
  | .ok (.retryableFailure reason) => .error (.retryable (sanitizeFailureReason reason))
  | .ok (.rateLimited retryAfter) =>
    .error (.retryable s!"rate limited: retry_after={Duration.debugOption retryAfter}")
  | .error (.network reason) => .error (.retryable (sanitizeFailureReason reason))

/-- What is sent for a record, if anything, and what the worker is told. -/
def dispatch (record : WebhookOutboxRecord) :
    Option WebhookSend × Except WebhookDispatchFailure Unit :=
  match record.webhookUrl with
  | none => (none, .error (.terminal "No webhook_url in outbox record"))
  | some url =>
    match headers crates env record with
    | .error failure => (none, .error failure)
    | .ok headers =>
      let answer := env.send url (payload env record) headers
      (some ⟨url, payload env record, headers, answer⟩, classify answer)

/-- A dispatcher sends a record's change, to its URL and under its identifier. -/
theorem dispatch_send {record : WebhookOutboxRecord} {send : WebhookSend}
    (h : (dispatch crates env record).1 = some send) :
    some send.url = record.webhookUrl ∧ send.payload = payload env record ∧
      send.headers.idempotencyKey = record.id.display := by
  rw [dispatch] at h
  split at h
  · cases h
  next url hurl =>
    split at h
    · cases h
    next headers' hheaders =>
      cases h
      refine ⟨hurl.symm, rfl, ?_⟩
      rw [headers] at hheaders
      split at hheaders
      · cases hheaders
        rfl
      next secret hsecret =>
        dsimp only at hheaders
        split at hheaders
        · cases hheaders
          rfl
        · cases hheaders

/-- In UTC a time ends with `Z` in JSON, and with an offset in RFC 3339. -/
structure UtcTexts (crates : SigningCrates) : Prop where
  json : ∀ t, "Z".toList <:+ (crates.timeText t).toList
  rfc3339 : ∀ t, "+00:00".toList <:+ (crates.toRfc3339 t).toList

/-- The body of a request for a record. -/
def body (record : WebhookOutboxRecord) : String :=
  crates.jsonText (Serialize.toJson crates.timeText (payload env record))

/-- The text that is signed for a record. -/
def signedText (record : WebhookOutboxRecord) : String :=
  buildCanonicalString (crates.toRfc3339 env.now) record.id.display (body crates env record)

/-- The text to sign as a receiver reads it in the body. -/
def readText (record : WebhookOutboxRecord) : String :=
  buildCanonicalString (crates.timeText env.now) record.id.display (body crates env record)

/-- A signature is that of the fields as they are written in the body, and of the body. -/
def SelfSigned (secret : String) (send : WebhookSend) : Prop :=
  let request := sendWebhook crates send.url send.payload send.headers
  ∀ signature, request.headers.lookup "X-Webhook-Signature" = some signature →
    ∃ timestamp deliveryId,
      (send.payload.fields crates.timeText).lookup "timestamp" = some (.string timestamp) ∧
      (send.payload.fields crates.timeText).lookup "delivery_id" = some (.string deliveryId) ∧
      signPayload crates secret (buildCanonicalString timestamp deliveryId request.body) =
        .ok signature

section Signature

variable {crates : SigningCrates} {env : DispatcherEnv} {record : WebhookOutboxRecord}
  {secret : String} {send : WebhookSend}

theorem signedText_ne_readText (hutc : UtcTexts crates) :
    signedText crates env record ≠ readText crates env record := by
  intro h
  have htimes : crates.toRfc3339 env.now = crates.timeText env.now := by
    have hlist := congrArg String.toList h
    rw [signedText, readText, toList_buildCanonicalString, toList_buildCanonicalString] at hlist
    exact String.toList_inj.mp (List.append_cancel_right hlist)
  obtain ⟨json, hjson⟩ := hutc.json env.now
  obtain ⟨rfc, hrfc⟩ := hutc.rfc3339 env.now
  rw [← htimes, ← hrfc] at hjson
  have hlast := congrArg List.getLast? hjson
  simp at hlast

/-- What a dispatch sends is signed by the digest of the signed text. -/
theorem dispatch_signature (hsecret : env.secret = some secret)
    (h : (dispatch crates env record).1 = some send) : ∃ digest,
    crates.hmacSha256 secret (signedText crates env record) = .ok digest ∧
      send.headers.signature = some (hexEncode digest) ∧ send.payload = payload env record := by
  obtain ⟨-, hpayload, -⟩ := dispatch_send crates env h
  rw [dispatch] at h
  split at h
  · cases h
  split at h
  · cases h
  next headers' hheaders =>
    cases h
    rw [headers, hsecret] at hheaders
    dsimp only at hheaders
    split at hheaders
    · next signature hsign =>
      cases hheaders
      change signPayload crates secret (signedText crates env record) = .ok signature at hsign
      rw [signPayload] at hsign
      split at hsign
      · next digest hdigest =>
        obtain rfl := Except.ok.inj hsign
        exact ⟨digest, hdigest, rfl, rfl⟩
      · cases hsign
    · cases hheaders

/-- A signature verifies only where the digests of two different texts are the same. -/
theorem selfSigned_iff (hutc : UtcTexts crates) (hsecret : env.secret = some secret)
    (h : (dispatch crates env record).1 = some send) :
    signedText crates env record ≠ readText crates env record ∧
      (SelfSigned crates secret send ↔
        crates.hmacSha256 secret (signedText crates env record) =
          crates.hmacSha256 secret (readText crates env record)) := by
  refine ⟨signedText_ne_readText hutc, ?_⟩
  obtain ⟨digest, hdigest, hsignature, hpayload⟩ := dispatch_signature hsecret h
  have hbody : (sendWebhook crates send.url send.payload send.headers).body =
      body crates env record := by rw [hpayload]; rfl
  have hheader : (sendWebhook crates send.url send.payload send.headers).headers.lookup
      "X-Webhook-Signature" = some (hexEncode digest) := by
    rw [sendWebhook, hsignature]
    rfl
  have htimestamp := lookup_timestamp (p := send.payload) crates.timeText
  have hdelivery := lookup_deliveryId (p := send.payload) crates.timeText
  rw [SelfSigned, hbody, hheader]
  constructor
  · intro hself
    obtain ⟨timestamp, deliveryId, htime, hid, hsign⟩ := hself _ rfl
    obtain rfl := Json.string.inj (Option.some.inj (htimestamp.symm.trans htime))
    obtain rfl := Json.string.inj (Option.some.inj (hdelivery.symm.trans hid))
    rw [hpayload] at hsign
    exact hdigest.trans (signPayload_ok.mp hsign).symm
  · rintro hsame signature hsig
    obtain rfl := Option.some.inj hsig
    refine ⟨_, _, htimestamp, hdelivery, ?_⟩
    rw [hpayload]
    exact signPayload_ok.mpr (hsame.symm.trans hdigest)

end Signature

end WebhookDeliveryDispatcher

namespace SignatureSample

open WebhookDeliveryDispatcher

/-- The digest of the text that is signed. -/
def signedDigest : List UInt8 :=
  [150, 201, 10, 162, 245, 25, 139, 106, 108, 254, 167, 59, 39, 124, 73, 188, 241, 182, 78, 27, 241,
    211, 187, 100, 4, 146, 243, 108, 230, 219, 227, 217]

/-- The digest of the text that is read. -/
def readDigest : List UInt8 :=
  [86, 202, 158, 69, 110, 107, 87, 79, 21, 46, 40, 67, 90, 17, 249, 76, 20, 59, 7, 153, 156, 123,
    187, 18, 212, 183, 67, 122, 113, 49, 204, 36]

/-- The crates at the epoch, for one body and one secret; the two texts differ in the sign of the
offset. -/
def crates : SigningCrates where
  jsonText := fun _ => "\x7b\"event_type\":\"intent_changed\"," ++
    "\"intent_id\":\"00000000-0000-0000-0000-000000000003\"," ++
    "\"tenant_id\":\"00000000-0000-0000-0000-000000000002\",\"version\":2," ++
    "\"timestamp\":\"1970-01-01T00:00:00Z\"," ++
    "\"delivery_id\":\"00000000-0000-0000-0000-000000000001\",\"attempt_number\":1," ++
    "\"subscription_id\":\"00000000-0000-0000-0000-000000000004\"\x7d"
  timeText := fun _ => "1970-01-01T00:00:00Z"
  toRfc3339 := fun _ => "1970-01-01T00:00:00+00:00"
  hmacSha256 := fun _ text =>
    .ok (if text.toList[19]? = some '+' then signedDigest else readDigest)

def env : DispatcherEnv where
  now := 0
  secret := some "secret"
  send := fun _ _ _ => .ok .success

def record : WebhookOutboxRecord :=
  (WebhookOutboxRecord.new 0 1 2 3 4 "intent_changed" .null
    (some "https://example.com/webhook")).withVersion 2

def send : WebhookSend where
  url := "https://example.com/webhook"
  payload := payload env record
  headers := (WebhookHeaders.new 1).withSignature
    "96c90aa2f5198b6a6cfea73b277c49bcf1b64e1bf1d3bb640492f36ce6dbe3d9"
  answer := .ok .success

theorem utcTexts : UtcTexts crates where
  json _ := (by decide : "Z".toList <:+ "1970-01-01T00:00:00Z".toList)
  rfc3339 _ := (by decide : "+00:00".toList <:+ "1970-01-01T00:00:00+00:00".toList)

theorem hmac_signed (secret deliveryId body : String) : crates.hmacSha256 secret
    (buildCanonicalString "1970-01-01T00:00:00+00:00" deliveryId body) = .ok signedDigest := by
  refine congrArg Except.ok (if_pos ?_)
  rw [toList_buildCanonicalString, List.getElem?_append_left (by decide)]
  decide

theorem hmac_read (secret deliveryId body : String) : crates.hmacSha256 secret
    (buildCanonicalString "1970-01-01T00:00:00Z" deliveryId body) = .ok readDigest := by
  refine congrArg Except.ok (if_neg ?_)
  rw [toList_buildCanonicalString, List.getElem?_append_left (by decide)]
  decide

theorem dispatch_record : (dispatch crates env record).1 = some send := by
  have hsign : signPayload crates "secret" (buildCanonicalString
      (crates.toRfc3339 (payload env record).timestamp) record.id.display
      (crates.jsonText (Serialize.toJson crates.timeText (payload env record)))) =
      .ok (hexEncode signedDigest) := signPayload_ok.mpr (hmac_signed _ _ _)
  have hhex : hexEncode signedDigest =
      "96c90aa2f5198b6a6cfea73b277c49bcf1b64e1bf1d3bb640492f36ce6dbe3d9" := by decide +kernel
  have hsecret : env.secret = some "secret" := rfl
  have hheaders : headers crates env record = .ok send.headers := by
    rw [headers, hsecret]
    dsimp only
    rw [hsign, hhex]
    rfl
  rw [dispatch, hheaders]
  rfl

theorem digests_ne : crates.hmacSha256 "secret" (signedText crates env record) ≠
    crates.hmacSha256 "secret" (readText crates env record) := by
  have hsigned : crates.hmacSha256 "secret" (signedText crates env record) = .ok signedDigest :=
    hmac_signed _ _ _
  have hread : crates.hmacSha256 "secret" (readText crates env record) = .ok readDigest :=
    hmac_read _ _ _
  rw [hsigned, hread]
  decide

end SignatureSample

namespace WebhookDeliveryDispatcher

/-- The signature of a request is not that of the time in its body. -/
theorem selfSigned_iff_sample :
    ¬ SelfSigned SignatureSample.crates "secret" SignatureSample.send := fun h =>
  SignatureSample.digests_ne ((selfSigned_iff SignatureSample.utcTexts rfl
    SignatureSample.dispatch_record).2.mp h)

/-- A receiver that reads the body cannot verify the signature. -/
theorem not_selfSigned : ¬ ∀ env record secret send, env.secret = some secret →
    (dispatch SignatureSample.crates env record).1 = some send →
      SelfSigned SignatureSample.crates secret send := by
  intro h
  have hself := h SignatureSample.env SignatureSample.record "secret" _ rfl
    SignatureSample.dispatch_record
  obtain ⟨timestamp, deliveryId, htime, hid, hsign⟩ := hself _ rfl
  obtain rfl : "1970-01-01T00:00:00Z" = timestamp := Json.string.inj (Option.some.inj htime)
  rw [signPayload, SignatureSample.hmac_read] at hsign
  exact absurd (Except.ok.inj hsign) (by decide +kernel)

end WebhookDeliveryDispatcher

/-- What the surroundings decide while one subscription is served. -/
structure DispatchEnv (ι : Type) where
  attemptAt : DateTime
  payloadAt : DateTime
  deliveryId : Uuid
  outboxAt : DateTime
  outboxId : Uuid
  /-- The call that creates the outbox record fails without effect. -/
  createFails : Bool
  /-- The order in which the outbox reads. -/
  choice : ι
  sending : SendEnv
  outcomeAt : DateTime

/-- What becomes of a subscription in a dispatch. -/
inductive DispatchOutcome where
  | noRecord
  | notRecorded (record : PropagationRecord) (error : IntentRebaseError)
  | sent (record : PropagationRecord) (queued : Option WebhookOutboxRecord)
      (attempts : List WebhookAttempt)

structure SubscriptionDispatch where
  subscription : WebhookSubscription
  outcome : DispatchOutcome

/-- The stores that a dispatch writes. -/
structure DispatchStores (ρ σ : Type) where
  propagation : ρ
  outbox : σ

/-- The arguments of a dispatch, and how a time is written in JSON. -/
structure DispatchCall (ρ σ ι : Type) where
  repo : PropagationRecordRepository ρ
  resolver : WebhookSubscriptionResolver
  tenantId : Uuid
  intentId : Uuid
  version : Int32
  outboxRepo : Option (ι → WebhookOutboxRepository σ)
  timeText : DateTime → String
  env : Nat → DispatchEnv ι

namespace DispatchCall

variable {ρ σ ι : Type} (call : DispatchCall ρ σ ι)

/-- The payload for a subscription, given the attempts at its propagation record. -/
def payload (env : DispatchEnv ι) (sub : WebhookSubscription) (deliveryAttemptCount : Int32) :
    WebhookPayload :=
  buildWebhookPayload env.payloadAt {
    intentId := call.intentId
    tenantId := call.tenantId
    version := call.version
    versionHash := none
    previousVersion := none
    deliveryId := env.deliveryId
    attemptNumber := deliveryAttemptCount
    subscriptionId := sub.subscriptionId }

/-- The outbox record for a subscription. -/
def outboxRecord (env : DispatchEnv ι) (sub : WebhookSubscription) (payload : WebhookPayload) :
    WebhookOutboxRecord :=
  (WebhookOutboxRecord.new env.outboxAt env.outboxId call.tenantId call.intentId sub.subscriptionId
    payload.eventType (payload.toValue call.timeText) (some sub.webhookUrl)).withVersion
    call.version

/-- Puts a record into the outbox if there is one; the record that was put there. -/
def queue (env : DispatchEnv ι) (outbox : σ) (record : WebhookOutboxRecord) :
    Option WebhookOutboxRecord × σ :=
  match call.outboxRepo with
  | none => (none, outbox)
  | some repo =>
    if env.createFails then (none, outbox)
    else
      match (repo env.choice).create outbox record with
      | (.ok created, outbox) => (some created, outbox)
      | (.error _, outbox) => (none, outbox)

/-- Writes down how the delivery went; a write that fails is passed over. -/
def recordOutcome (now : DateTime) (propagation : ρ) (recordId : Uuid) : WebhookSendAnswer → ρ
  | .ok .success =>
    (call.repo.recordDeliveryOutcome propagation now recordId call.tenantId .acknowledged none).2
  | .ok (.nonRetryableFailure reason) =>
    (call.repo.recordDeliveryOutcome propagation now recordId call.tenantId .failed
      (some (sanitizeFailureReason reason))).2
  | .ok (.retryableFailure _) | .ok (.rateLimited _) | .error (.network _) => propagation

/-- The first record of the downstream system of a subscription. -/
def recordFor (records : List PropagationRecord) (sub : WebhookSubscription) :
    Option PropagationRecord :=
  records.find? fun r => r.downstreamSystemId = sub.downstreamSystemId.getD ""

/-- One round of the loop over the subscriptions. -/
def serve (env : DispatchEnv ι) (records : List PropagationRecord) (sub : WebhookSubscription)
    (s : DispatchStores ρ σ) : DispatchOutcome × DispatchStores ρ σ :=
  match recordFor records sub with
  | none => (.noRecord, s)
  | some record =>
    match call.repo.recordDeliveryAttempt s.propagation env.attemptAt record.id call.tenantId with
    | (.error e, propagation) => (.notRecorded record e, { s with propagation })
    | (.ok updated, propagation) =>
      let payload := call.payload env sub updated.deliveryAttemptCount
      let headers := WebhookHeaders.new payload.deliveryId
      let (queued, outbox) := call.queue env s.outbox (call.outboxRecord env sub payload)
      let (attempts, result) :=
        sendWebhookWithRetries env.sending sub.webhookUrl payload headers
      (.sent record queued attempts,
        { propagation := call.recordOutcome env.outcomeAt propagation record.id result, outbox })

/-- The rest of the loop. -/
def serveAll (records : List PropagationRecord) : (Nat → DispatchEnv ι) →
    List WebhookSubscription → DispatchStores ρ σ →
    List SubscriptionDispatch × DispatchStores ρ σ
  | _, [], s => ([], s)
  | env, sub :: subs, s =>
    let (outcome, s) := call.serve (env 0) records sub s
    let (served, s) := serveAll records (fun n => env (n + 1)) subs s
    (⟨sub, outcome⟩ :: served, s)

/-- What becomes of the subscriptions of an intent after a change. -/
def dispatchWebhooksForIntentWithOutbox (s : DispatchStores ρ σ) :
    List SubscriptionDispatch × DispatchStores ρ σ :=
  match call.repo.listByIntent s.propagation call.intentId call.tenantId with
  | .error _ => ([], s)
  | .ok records =>
    match call.resolver call.tenantId call.intentId with
    | .error _ => ([], s)
    | .ok subscriptions => call.serveAll records call.env subscriptions s

end DispatchCall

end IntentRebase
