import IntentRebase.Kit.Binary64
import IntentRebase.Kit.OrderBy
import IntentRebase.Kit.Replacement
import IntentRebase.Types.Event

/-! The delivery of a webhook: its payload and headers, the failure reasons that are written down,
and the retry loop. What the surroundings decide (the clock, the answers of the receiver, the random
part of a delay) is given with the call. Durations are in nanoseconds. -/

namespace IntentRebase

open Kit

structure WebhookPayload where
  eventType : String
  intentId : Uuid
  tenantId : Uuid
  version : Int32
  versionHash : Option String
  previousVersion : Option Int32
  timestamp : DateTime
  deliveryId : Uuid
  attemptNumber : Int32
  subscriptionId : Uuid

/-- The fields of a payload as they are written; two of them are left out when absent. -/
def WebhookPayload.fields (timeText : DateTime → String) (p : WebhookPayload) :
    List (String × Json) :=
  let hash := p.versionHash.map fun hash => ("version_hash", Json.string hash)
  let previous := p.previousVersion.map fun version =>
    ("previous_version", Json.ofInt version.toInt)
  ("event_type", .string p.eventType) :: ("intent_id", .string p.intentId.display) ::
    ("tenant_id", .string p.tenantId.display) :: ("version", .ofInt p.version.toInt) ::
    (hash.toList ++ (previous.toList ++
      [("timestamp", Json.string (timeText p.timestamp)),
        ("delivery_id", Json.string p.deliveryId.display),
        ("attempt_number", Json.ofInt p.attemptNumber.toInt),
        ("subscription_id", Json.string p.subscriptionId.display)]))

section Fields

variable {p : WebhookPayload} (timeText : DateTime → String)

theorem lookup_timestamp :
    (p.fields timeText).lookup "timestamp" = some (.string (timeText p.timestamp)) := by
  cases hhash : p.versionHash <;> cases hprevious : p.previousVersion <;>
    simp [WebhookPayload.fields, hhash, hprevious, List.lookup_cons]

theorem lookup_deliveryId :
    (p.fields timeText).lookup "delivery_id" = some (.string p.deliveryId.display) := by
  cases hhash : p.versionHash <;> cases hprevious : p.previousVersion <;>
    simp [WebhookPayload.fields, hhash, hprevious, List.lookup_cons]

end Fields

instance : Serialize WebhookPayload where
  toJson timeText p := .object (p.fields timeText)

/-- The JSON value of a payload. -/
def WebhookPayload.toValue (timeText : DateTime → String) (p : WebhookPayload) : Json :=
  .object (orderBy Prod.fst (p.fields timeText))

structure WebhookPayloadInput where
  intentId : Uuid
  tenantId : Uuid
  version : Int32
  versionHash : Option String
  previousVersion : Option Int32
  deliveryId : Uuid
  attemptNumber : Int32
  subscriptionId : Uuid

def buildWebhookPayload (now : DateTime) (input : WebhookPayloadInput) : WebhookPayload where
  eventType := "intent_changed"
  intentId := input.intentId
  tenantId := input.tenantId
  version := input.version
  versionHash := input.versionHash
  previousVersion := input.previousVersion
  timestamp := now
  deliveryId := input.deliveryId
  attemptNumber := input.attemptNumber
  subscriptionId := input.subscriptionId

structure WebhookHeaders where
  contentType : String
  idempotencyKey : String
  signature : Option String

def WebhookHeaders.new (deliveryId : Uuid) : WebhookHeaders where
  contentType := "application/json"
  idempotencyKey := deliveryId.display
  signature := none

def WebhookHeaders.withSignature (signature : String) (h : WebhookHeaders) : WebhookHeaders :=
  { h with signature := some signature }

/-- A character with the Unicode property `White_Space`. -/
def isWhitespace (c : Char) : Bool :=
  let n := c.toNat
  (9 ≤ n && n ≤ 13) || n == 0x20 || n == 0x85 || n == 0xA0 || n == 0x1680 ||
    (0x2000 ≤ n && n ≤ 0x200A) || n == 0x2028 || n == 0x2029 || n == 0x202F || n == 0x205F ||
    n == 0x3000

/-- The replacement of what starts with a scheme. -/
def redaction (scheme : String) (hscheme : scheme.toList ≠ [])
    (hruns : ∀ c ∈ scheme.toList, (isWhitespace c || c == '\'' || c == '"') = false)
    (hmark : ∀ c ∈ "[URL_REDACTED]".toList, c ∉ scheme.toList) : Replacement Char where
  pattern := scheme.toList
  stops := fun c => isWhitespace c || c == '\'' || c == '"'
  mark := "[URL_REDACTED]".toList
  pattern_ne := hscheme
  mark_ne := by decide
  runs := hruns
  disjoint := hmark

def httpRedaction : Replacement Char :=
  redaction "http://" (by decide) (by simp [isWhitespace]) (by simp)

def httpsRedaction : Replacement Char :=
  redaction "https://" (by decide) (by simp [isWhitespace]) (by simp)

/-- The reason without the URLs in it. -/
def sanitizeFailureReason (reason : String) : String :=
  String.ofList (httpsRedaction.replaceAll (httpRedaction.replaceAll reason.toList))

/-- The two loops, in at most so many rounds each. -/
def sanitizeWithin (fuel : Nat) (reason : String) : Option String := do
  let result ← httpRedaction.replaceWithin fuel reason.toList
  let result ← httpsRedaction.replaceWithin fuel result
  return String.ofList result

/-- The end of a URL: whitespace or a quote. -/
def endsUrl (c : Char) : Bool := isWhitespace c || c == '\'' || c == '"'

/-- The reason with each run from one of the schemes up to whitespace or a quote replaced. -/
def withoutUrls (reason : List Char) : List Char :=
  replaceRuns ["http://".toList, "https://".toList] endsUrl "[URL_REDACTED]".toList reason

theorem redaction_patterns : ∀ scheme ∈ ["http://".toList, "https://".toList], scheme ≠ [] ∧
    (∀ c ∈ scheme, endsUrl c = false) ∧ ∀ c ∈ "[URL_REDACTED]".toList, c ∉ scheme := by
  intro scheme hmem
  rcases List.mem_cons.mp hmem with rfl | hmem
  · exact ⟨httpRedaction.pattern_ne, httpRedaction.runs, httpRedaction.disjoint⟩
  · obtain rfl := List.mem_singleton.mp hmem
    exact ⟨httpsRedaction.pattern_ne, httpsRedaction.runs, httpsRedaction.disjoint⟩

theorem redaction_mark_runs : ∀ c ∈ "[URL_REDACTED]".toList, endsUrl c = false := by
  simp [endsUrl, isWhitespace]

theorem toList_sanitizeFailureReason (reason : String) :
    (sanitizeFailureReason reason).toList = withoutUrls reason.toList := by
  rw [sanitizeFailureReason, String.toList_ofList, replaceAll_eq_replaceRuns,
    replaceAll_eq_replaceRuns]
  exact replaceRuns_replaceRuns httpRedaction.mark_ne redaction_mark_runs redaction_patterns
    (by simp) reason.toList

theorem not_infix_withoutUrls {scheme : List Char}
    (hscheme : scheme ∈ ["http://".toList, "https://".toList]) (reason : List Char) :
    ¬ scheme <:+: withoutUrls reason := by
  obtain ⟨hne, _, hdisjoint⟩ := redaction_patterns scheme hscheme
  exact not_infix_replaceRuns httpRedaction.mark_ne hscheme hne hdisjoint

/-- A failure reason is fully redacted: the loops end, no URL is left for another pass, and what is
replaced are the runs from a scheme to the end of the URL. -/
theorem sanitizeFailureReason_redacts (reason : String) :
    (∃ rounds, ∀ fuel, rounds ≤ fuel →
      sanitizeWithin fuel reason = some (sanitizeFailureReason reason)) ∧
    (¬ "http://".toList <:+: (sanitizeFailureReason reason).toList) ∧
    (¬ "https://".toList <:+: (sanitizeFailureReason reason).toList) ∧
    sanitizeFailureReason (sanitizeFailureReason reason) = sanitizeFailureReason reason ∧
    (sanitizeFailureReason reason).toList = withoutUrls reason.toList := by
  have hresult := toList_sanitizeFailureReason reason
  refine ⟨?_, ?_, ?_, ?_, hresult⟩
  · let middle := httpRedaction.replaceAll reason.toList
    refine ⟨httpRedaction.occurrences reason.toList + httpsRedaction.occurrences middle + 1,
      fun fuel hfuel => ?_⟩
    have hfirst : httpRedaction.replaceWithin fuel reason.toList = some middle :=
      httpRedaction.replaceWithin_eq (by omega)
    have hsecond : httpsRedaction.replaceWithin fuel middle =
        some (httpsRedaction.replaceAll middle) := httpsRedaction.replaceWithin_eq (by omega)
    rw [sanitizeWithin, hfirst, Option.bind_eq_bind, Option.bind_some, hsecond]
    rfl
  · rw [hresult]
    exact not_infix_withoutUrls List.mem_cons_self _
  · rw [hresult]
    exact not_infix_withoutUrls (List.mem_cons_of_mem _ List.mem_cons_self) _
  · rw [← String.toList_inj, toList_sanitizeFailureReason, hresult]
    exact replaceRuns_eq_self fun scheme hscheme => not_infix_withoutUrls hscheme _

example : sanitizeFailureReason "GET https://a/b: 'http://c' failed" =
    "GET [URL_REDACTED] '[URL_REDACTED]' failed" := by decide +kernel

/-- A duration in nanoseconds. -/
abbrev Duration := Nat

namespace Duration

def ofSecs (secs : Nat) : Duration := secs * 1000000000

/-- The digits of a fraction of `10 ^ width` parts, without the zeros at its end. -/
def fractionDigits (width fraction : Nat) : List Char :=
  let digits := ((List.range width).map fun i => Nat.digitChar (fraction / 10 ^ i % 10))
  (digits.dropWhile (· == '0')).reverse

/-- A number with a fraction, and its unit. -/
def decimal (whole width fraction : Nat) (unit : String) : String :=
  match fractionDigits width fraction with
  | [] => s!"{whole}{unit}"
  | digits => s!"{whole}.{String.ofList digits}{unit}"

/-- The debug text, in the largest unit that fits. -/
def debug (d : Duration) : String :=
  if 1000000000 ≤ d then decimal (d / 1000000000) 9 (d % 1000000000) "s"
  else if 1000000 ≤ d then decimal (d / 1000000) 6 (d % 1000000) "ms"
  else if 1000 ≤ d then decimal (d / 1000) 3 (d % 1000) "µs"
  else decimal d 0 0 "ns"

def debugOption : Option Duration → String
  | none => "None"
  | some d => s!"Some({d.debug})"

end Duration

example : Duration.debugOption (some 1500000000) = "Some(1.5s)" := by decide +kernel

/-- The hard ceiling for all attempts. -/
def webhookMaxTotalDuration : Duration := .ofSecs 120

def webhookMaxAttempts : Nat := 3

/-- The most that a receiver may ask to wait. -/
def webhookRetryAfterCap : Duration := .ofSecs 60

/-- The backoff before the attempt after this one, with a random number from `0` up to `1`. -/
def computeBackoffDelay (random : Double) (attemptNumber : Nat) : Duration :=
  let rawDelaySecs : Double := 2 * 2 ^ (attemptNumber - 1)
  let cappedDelaySecs := min rawDelaySecs 30
  let jitteredSecs := Double.mul random cappedDelaySecs
  (roundEven (jitteredSecs * 1000000000)).toNat

inductive WebhookDeliveryResult where
  | success
  | retryableFailure (reason : String)
  | nonRetryableFailure (reason : String)
  | rateLimited (retryAfter : Option Duration)
deriving DecidableEq

inductive WebhookSendError where
  | network (reason : String)
deriving DecidableEq

abbrev WebhookSendAnswer := Except WebhookSendError WebhookDeliveryResult

/-- What the surroundings decide in a retry loop, by attempt. -/
structure SendEnv where
  send : Nat → String → WebhookPayload → WebhookHeaders → WebhookSendAnswer
  /-- The time since the start, when the answer is there. -/
  elapsed : Nat → Duration
  random : Nat → Double

/-- What was sent where, and the answer. -/
structure WebhookSend where
  url : String
  payload : WebhookPayload
  headers : WebhookHeaders
  answer : WebhookSendAnswer

/-- An attempt at a delivery, and the sleep after it. -/
structure WebhookAttempt extends WebhookSend where
  number : Nat
  sleep : Option Duration

/-- Whether a sleep would end after the ceiling. -/
def wouldExceedMaxDuration (elapsed delay : Duration) : Bool :=
  elapsed + delay > webhookMaxTotalDuration

/-- What an attempt leads to. -/
inductive Verdict where
  | done (result : WebhookDeliveryResult)
  | retry (delay : Duration)

/-- The verdict on a failure that is worth another attempt. -/
def retryVerdict (elapsed : Duration) (attempt : Nat) (exhausted : String) (delay : Duration) :
    Verdict :=
  if attempt ≥ webhookMaxAttempts then .done (.nonRetryableFailure exhausted)
  else if wouldExceedMaxDuration elapsed delay then
    .done (.nonRetryableFailure "timeout: max_total_duration_exceeded")
  else .retry delay

/-- The verdict on the answer to an attempt. -/
def verdict (env : SendEnv) (attempt : Nat) : WebhookSendAnswer → Verdict
  | .ok .success => .done .success
  | .ok (.nonRetryableFailure reason) => .done (.nonRetryableFailure reason)
  | .ok (.rateLimited retryAfter) =>
    let delay := min (retryAfter.getD (computeBackoffDelay (env.random attempt) attempt))
      webhookRetryAfterCap
    retryVerdict (env.elapsed attempt) attempt
      s!"rate limited after {attempt} attempts, retry_after={Duration.debugOption retryAfter}" delay
  | .ok (.retryableFailure reason) =>
    retryVerdict (env.elapsed attempt) attempt s!"retry exhausted: {reason}"
      (computeBackoffDelay (env.random attempt) attempt)
  | .error (.network reason) =>
    retryVerdict (env.elapsed attempt) attempt
      s!"network error after {attempt} attempts: {reason}"
      (computeBackoffDelay (env.random attempt) attempt)

theorem retryVerdict_retry {elapsed delay delay' : Duration} {attempt : Nat} {exhausted : String}
    (h : retryVerdict elapsed attempt exhausted delay = .retry delay') :
    attempt < webhookMaxAttempts ∧ elapsed + delay' ≤ webhookMaxTotalDuration := by
  rw [retryVerdict] at h
  split at h
  · cases h
  split at h
  · cases h
  · next hattempt hexceeds =>
    obtain rfl := Verdict.retry.inj h
    rw [wouldExceedMaxDuration, decide_eq_true_eq] at hexceeds
    exact ⟨Nat.lt_of_not_le hattempt, Nat.le_of_not_lt hexceeds⟩

theorem retryVerdict_done {elapsed delay : Duration} {attempt : Nat} {exhausted : String}
    {result : WebhookDeliveryResult}
    (h : retryVerdict elapsed attempt exhausted delay = .done result) :
    ∃ reason, result = .nonRetryableFailure reason := by
  rw [retryVerdict] at h
  split at h
  · exact ⟨_, (Verdict.done.inj h).symm⟩
  split at h
  · exact ⟨_, (Verdict.done.inj h).symm⟩
  · cases h

/-- The answer calls for another attempt: a failure that may pass, a rate limit or no answer. -/
def WebhookSendAnswer.isRetryable : WebhookSendAnswer → Bool
  | .ok .success | .ok (.nonRetryableFailure _) => false
  | .ok (.rateLimited _) | .ok (.retryableFailure _) | .error (.network _) => true

/-- There is another attempt only after such an answer, not after the last attempt, and not after a
sleep past the ceiling. -/
theorem verdict_retry {env : SendEnv} {attempt : Nat} {answer : WebhookSendAnswer}
    {delay : Duration} (h : verdict env attempt answer = .retry delay) :
    attempt < webhookMaxAttempts ∧ answer.isRetryable = true ∧
      env.elapsed attempt + delay ≤ webhookMaxTotalDuration := by
  match answer with
  | .ok .success => cases h
  | .ok (.nonRetryableFailure reason) => cases h
  | .ok (.rateLimited retryAfter) =>
    obtain ⟨hattempt, hceiling⟩ := retryVerdict_retry h
    exact ⟨hattempt, rfl, hceiling⟩
  | .ok (.retryableFailure reason) =>
    obtain ⟨hattempt, hceiling⟩ := retryVerdict_retry h
    exact ⟨hattempt, rfl, hceiling⟩
  | .error (.network reason) =>
    obtain ⟨hattempt, hceiling⟩ := retryVerdict_retry h
    exact ⟨hattempt, rfl, hceiling⟩

/-- The loop ends with a success on a success, and otherwise with a failure. -/
theorem verdict_done {env : SendEnv} {attempt : Nat} {answer : WebhookSendAnswer}
    {result : WebhookDeliveryResult} (h : verdict env attempt answer = .done result) :
    (answer = .ok .success ∧ result = .success) ∨
      (answer ≠ .ok .success ∧ ∃ reason, result = .nonRetryableFailure reason) := by
  match answer with
  | .ok .success => exact .inl ⟨rfl, (Verdict.done.inj h).symm⟩
  | .ok (.nonRetryableFailure reason) =>
    exact .inr ⟨by simp, reason, (Verdict.done.inj h).symm⟩
  | .ok (.rateLimited retryAfter) => exact .inr ⟨by simp, retryVerdict_done h⟩
  | .ok (.retryableFailure reason) => exact .inr ⟨by simp, retryVerdict_done h⟩
  | .error (.network reason) => exact .inr ⟨by simp, retryVerdict_done h⟩

/-- The conversion `i32::try_from(n).unwrap_or(1)`. -/
def i32OrOne (n : Nat) : Int32 := if n < 2147483648 then Int32.ofNat n else 1

/-- The attempts from one on, and the result of the loop. -/
def sendFrom (env : SendEnv) (url : String) (payload : WebhookPayload) (headers : WebhookHeaders)
    (attempt : Nat) : List WebhookAttempt × WebhookDeliveryResult :=
  let currentPayload := { payload with attemptNumber := i32OrOne attempt }
  let answer := env.send attempt url currentPayload headers
  match h : verdict env attempt answer with
  | .done result => ([⟨⟨url, currentPayload, headers, answer⟩, attempt, none⟩], result)
  | .retry delay =>
    have := (verdict_retry h).1
    let (attempts, result) := sendFrom env url payload headers (attempt + 1)
    (⟨⟨url, currentPayload, headers, answer⟩, attempt, some delay⟩ :: attempts, result)
termination_by webhookMaxAttempts - attempt

/-- Attempts at one delivery, numbered from one on. -/
structure Attempts (url : String) (payload : WebhookPayload) (headers : WebhookHeaders)
    (first : Nat) (attempts : List WebhookAttempt) : Prop where
  sent : attempts ≠ []
  bounded : attempts.length + first ≤ webhookMaxAttempts + 1
  attempt : ∀ (i : Nat) (a : WebhookAttempt), attempts[i]? = some a → a.number = first + i ∧
    a.url = url ∧ a.payload = { payload with attemptNumber := i32OrOne (first + i) } ∧
    a.headers = headers
  retried : ∀ (i : Nat) (a : WebhookAttempt), attempts[i]? = some a → i + 1 < attempts.length →
    a.answer.isRetryable = true

section Attempts

variable {env : SendEnv} {url : String} {payload : WebhookPayload} {headers : WebhookHeaders}
  {first : Nat} {a : WebhookAttempt} {rest : List WebhookAttempt}

theorem Attempts.single (hfirst : first ≤ webhookMaxAttempts) (hnumber : a.number = first)
    (hurl : a.url = url) (hpayload : a.payload = { payload with attemptNumber := i32OrOne first })
    (hheaders : a.headers = headers) : Attempts url payload headers first [a] where
  sent := List.cons_ne_nil _ _
  bounded := by
    rw [List.length_singleton]
    omega
  attempt := by
    intro i a' hi
    cases i with
    | zero =>
      obtain rfl := Option.some.inj hi
      exact ⟨hnumber, hurl, hpayload, hheaders⟩
    | succ i => cases hi
  retried := by
    intro i a' _ hlt
    rw [List.length_singleton] at hlt
    omega

theorem Attempts.cons (h : Attempts url payload headers (first + 1) rest)
    (hnumber : a.number = first) (hurl : a.url = url)
    (hpayload : a.payload = { payload with attemptNumber := i32OrOne first })
    (hheaders : a.headers = headers) (hanswer : a.answer.isRetryable = true) :
    Attempts url payload headers first (a :: rest) where
  sent := List.cons_ne_nil _ _
  bounded := by
    have hbounded := h.bounded
    rw [List.length_cons]
    omega
  attempt := by
    intro i a' hi
    cases i with
    | zero =>
      obtain rfl := Option.some.inj hi
      exact ⟨hnumber, hurl, hpayload, hheaders⟩
    | succ i =>
      rw [List.getElem?_cons_succ] at hi
      rw [Nat.add_comm i 1, ← Nat.add_assoc]
      exact h.attempt i a' hi
  retried := by
    intro i a' hi hlt
    cases i with
    | zero =>
      obtain rfl := Option.some.inj hi
      exact hanswer
    | succ i =>
      rw [List.getElem?_cons_succ] at hi
      exact h.retried i a' hi (Nat.lt_of_succ_lt_succ hlt)

theorem sendFrom_attempts (h : first ≤ webhookMaxAttempts) :
    Attempts url payload headers first (sendFrom env url payload headers first).1 := by
  fun_induction sendFrom env url payload headers first with
  | case1 first currentPayload answer result hverdict => exact .single h rfl rfl rfl rfl
  | case2 first currentPayload answer delay hverdict hlt attempts result hrest ih =>
    rw [hrest] at ih
    exact (ih hlt).cons rfl rfl rfl rfl (verdict_retry hverdict).2.1

end Attempts

/-- The loop never ends with an error of the sender. -/
def sendWebhookWithRetries (env : SendEnv) (url : String) (payload : WebhookPayload)
    (headers : WebhookHeaders) : List WebhookAttempt × WebhookSendAnswer :=
  let (attempts, result) := sendFrom env url payload headers 1
  (attempts, .ok result)

theorem sendWebhookWithRetries_attempts (env : SendEnv) (url : String) (payload : WebhookPayload)
    (headers : WebhookHeaders) :
    Attempts url payload headers 1 (sendWebhookWithRetries env url payload headers).1 :=
  sendFrom_attempts (by decide)

/-- The loop asks the sender, and sleeps within the ceiling. -/
structure Paced (env : SendEnv) (a : WebhookAttempt) : Prop where
  answered : a.answer = env.send a.number a.url a.payload a.headers
  slept : ∀ delay ∈ a.sleep, env.elapsed a.number + delay ≤ webhookMaxTotalDuration

section Loop

variable {env : SendEnv} {url : String} {payload : WebhookPayload} {headers : WebhookHeaders}
  {first : Nat}

theorem sendFrom_paced : ∀ a ∈ (sendFrom env url payload headers first).1, Paced env a := by
  fun_induction sendFrom env url payload headers first with
  | case1 first currentPayload answer result hverdict =>
    refine List.forall_mem_singleton.mpr ⟨rfl, fun delay hdelay => ?_⟩
    cases hdelay
  | case2 first currentPayload answer delay hverdict hlt attempts result hrest ih =>
    rw [hrest] at ih
    refine List.forall_mem_cons.mpr ⟨⟨rfl, fun delay' hdelay => ?_⟩, ih⟩
    obtain rfl := Option.some.inj hdelay
    exact (verdict_retry hverdict).2.2

/-- The result of the loop is that of its last attempt. -/
theorem sendFrom_result : ∃ last,
    (sendFrom env url payload headers first).1.getLast? = some last ∧
      ((last.answer = .ok .success ∧ (sendFrom env url payload headers first).2 = .success) ∨
        (last.answer ≠ .ok .success ∧
          ∃ reason, (sendFrom env url payload headers first).2 = .nonRetryableFailure reason)) := by
  fun_induction sendFrom env url payload headers first with
  | case1 first currentPayload answer result hverdict =>
    exact ⟨_, rfl, verdict_done hverdict⟩
  | case2 first currentPayload answer delay hverdict hlt attempts result hrest ih =>
    rw [hrest] at ih
    obtain ⟨last, hlast, hresult⟩ := ih
    refine ⟨last, ?_, hresult⟩
    rw [List.getLast?_cons, hlast, Option.getD_some]

end Loop

/-- At most three attempts with the numbers 1, 2 and 3, each but the first after an answer that
calls for it and a sleep that ends within 120 seconds, and a success exactly if the last one
succeeds. -/
structure BoundedRetries (env : SendEnv) (url : String) (payload : WebhookPayload)
    (headers : WebhookHeaders) (attempts : List WebhookAttempt) (answer : WebhookSendAnswer) :
    Prop where
  bounded : attempts.length ≤ 3
  numbered : attempts.map (fun a => a.payload) =
    ([1, 2, 3].map fun n => { payload with attemptNumber := n }).take attempts.length
  sent : ∀ a ∈ attempts, a.url = url ∧ a.headers = headers ∧
    a.answer = env.send a.number url a.payload headers
  retried : ∀ (i : Nat) (a : WebhookAttempt), attempts[i]? = some a → i + 1 < attempts.length →
    a.answer.isRetryable = true
  slept : ∀ a ∈ attempts, ∀ delay ∈ a.sleep, env.elapsed a.number + delay ≤ .ofSecs 120
  success : answer = .ok .success ↔ ∃ last, attempts.getLast? = some last ∧
    last.answer = .ok .success
  failure : answer ≠ .ok .success → ∃ reason, answer = .ok (.nonRetryableFailure reason)

/-- However the sender and the clock behave, the retries are bounded and the result is faithful. -/
theorem sendWebhookWithRetries_bounded (env : SendEnv) (url : String) (payload : WebhookPayload)
    (headers : WebhookHeaders) : BoundedRetries env url payload headers
      (sendWebhookWithRetries env url payload headers).1
      (sendWebhookWithRetries env url payload headers).2 := by
  have hattempts := sendWebhookWithRetries_attempts env url payload headers
  have hpaced : ∀ a ∈ (sendWebhookWithRetries env url payload headers).1, Paced env a :=
    sendFrom_paced
  have hfields : ∀ a ∈ (sendWebhookWithRetries env url payload headers).1,
      a.url = url ∧ a.headers = headers := by
    intro a hmem
    obtain ⟨i, hi⟩ := List.mem_iff_getElem?.mp hmem
    obtain ⟨-, hurl, -, hheaders⟩ := hattempts.attempt i a hi
    exact ⟨hurl, hheaders⟩
  obtain ⟨last, hlast, hresult⟩ := @sendFrom_result env url payload headers 1
  have hbounded : (sendWebhookWithRetries env url payload headers).1.length ≤ 3 := by
    have hle := hattempts.bounded
    rw [webhookMaxAttempts] at hle
    omega
  refine ⟨hbounded, ?_, fun a hmem => ?_, hattempts.retried, fun a hmem => (hpaced a hmem).slept,
    ?_, ?_⟩
  · refine List.ext_getElem? fun i => ?_
    rw [List.getElem?_map]
    cases hi : (sendWebhookWithRetries env url payload headers).1[i]? with
    | none =>
      have hlength := List.getElem?_eq_none_iff.mp hi
      rw [List.getElem?_take_eq_none hlength]
      rfl
    | some a =>
      have hlt : i < (sendWebhookWithRetries env url payload headers).1.length :=
        (List.getElem?_eq_some_iff.mp hi).1
      obtain ⟨-, -, hpayload, -⟩ := hattempts.attempt i a hi
      rw [List.getElem?_take_of_lt hlt, Option.map_some, hpayload]
      have hcases : i = 0 ∨ i = 1 ∨ i = 2 := by omega
      rcases hcases with rfl | rfl | rfl <;> rfl
  · obtain ⟨hurl, hheaders⟩ := hfields a hmem
    have hanswered := (hpaced a hmem).answered
    rw [hurl, hheaders] at hanswered
    exact ⟨hurl, hheaders, hanswered⟩
  · constructor
    · intro hsuccess
      obtain ⟨hok, -⟩ | ⟨-, reason, hreason⟩ := hresult
      · exact ⟨last, hlast, hok⟩
      · cases hreason.symm.trans (Except.ok.inj hsuccess)
    · rintro ⟨last', hlast', hok⟩
      obtain rfl := Option.some.inj (hlast'.symm.trans hlast)
      obtain ⟨-, hsuccess⟩ | ⟨hfails, -⟩ := hresult
      · exact congrArg Except.ok hsuccess
      · exact absurd hok hfails
  · intro hfails
    obtain ⟨-, hsuccess⟩ | ⟨-, reason, hreason⟩ := hresult
    · exact absurd (congrArg Except.ok hsuccess) hfails
    · exact ⟨reason, congrArg Except.ok hreason⟩

end IntentRebase
