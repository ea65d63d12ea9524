import IntentRebase.Nats.Consumer
import IntentRebase.Types.EventPublisher

/-! The trace of an event from the span under which it is published to the event that a consumer is
given: the header in which it travels, and where it is lost. -/

namespace IntentRebase

deriving instance DecidableEq for TraceContext

namespace TraceContext

instance : Inhabited TraceContext := ⟨none, none⟩

def isSome (context : TraceContext) : Bool := context.traceId.isSome && context.spanId.isSome

end TraceContext

/-- The identifiers of a span, as OpenTelemetry has them. -/
structure SpanContext where
  traceId : BitVec 128
  spanId : BitVec 64
deriving DecidableEq, Repr

/-- Neither identifier is zero. -/
def SpanContext.isValid (span : SpanContext) : Bool := span.traceId != 0 && span.spanId != 0

def fromSpanContext (span : SpanContext) : TraceContext :=
  if !span.isValid then default
  else
    { traceId := some (String.ofList (hexDigits 32 span.traceId.toNat))
      spanId := some (String.ofList (hexDigits 16 span.spanId.toNat)) }

inductive TraceparentError where
  | empty
  | invalidFormat
  | invalidVersion
  | invalidTraceId
  | invalidSpanId
  | invalidTraceFlags
deriving DecidableEq, Repr

/-- The part has another length than `width` bytes, or a character that is no hexadecimal digit. -/
def notHex (width : Nat) (part : List Char) : Bool :=
  byteLength part != width || !part.all Char.isHexDigit

/-- Reads `version-trace_id-span_id-trace_flags`. -/
def parseTraceparent (value : String) : Except TraceparentError TraceContext :=
  if value.isEmpty then .error .empty
  else
    match value.toList.splitOn '-' with
    | [version, traceId, spanId, traceFlags] =>
      if version != "00".toList then .error .invalidVersion
      else if notHex 32 traceId then .error .invalidTraceId
      else if notHex 16 spanId then .error .invalidSpanId
      else if notHex 2 traceFlags then .error .invalidTraceFlags
      else .ok { traceId := some (String.ofList traceId), spanId := some (String.ofList spanId) }
    | _ => .error .invalidFormat

def buildTraceparent (traceId spanId : String) (sampled : Bool) : String :=
  let flags := if sampled then "01" else "00"
  s!"00-{traceId}-{spanId}-{flags}"

/-- The context of a message, or none if its header is missing or malformed. -/
def extractTraceContext (headers : HeaderMap) : TraceContext :=
  match (headers.lookup "traceparent").map parseTraceparent with
  | some (.ok context) => context
  | _ => default

section Format

/-- The text is that many hexadecimal digits. -/
structure IsHex (width : Nat) (text : List Char) : Prop where
  length : text.length = width
  digits : ∀ c ∈ text, c.isHexDigit = true

variable {width : Nat} {text traceId spanId traceFlags : List Char}

theorem isHexDigit_lt {c : Char} (h : c.isHexDigit = true) : c.val.toNat < 128 := by
  simp only [Char.isHexDigit, Bool.or_eq_true, Bool.and_eq_true, decide_eq_true_eq,
    Char.isDigit, UInt32.le_iff_toNat_le, ge_iff_le] at h
  have hf : ('f' : Char).val.toNat = 102 := rfl
  have hF : ('F' : Char).val.toNat = 70 := rfl
  have h9 : ('9' : Char).val.toNat = 57 := rfl
  omega

/-- Digits are one byte each. -/
theorem byteLength_of_digits (h : ∀ c ∈ text, c.isHexDigit = true) :
    byteLength text = text.length := by
  induction text with
  | nil => rfl
  | cons c rest ih =>
    have hc : c.utf8Size = 1 := by
      have hlt := isHexDigit_lt (h c (.head _))
      exact if_pos (UInt32.le_iff_toNat_le.mpr (Nat.le_of_lt_succ hlt))
    rw [byteLength_cons, hc, ih fun c' hc' => h c' (.tail _ hc'), List.length_cons, Nat.add_comm]

theorem notHex_eq_false : notHex width text = false ↔ IsHex width text := by
  rw [notHex, Bool.or_eq_false_iff, bne_eq_false_iff_eq, Bool.not_eq_false', List.all_eq_true]
  constructor
  · rintro ⟨hlength, hdigits⟩
    exact ⟨(byteLength_of_digits hdigits).symm.trans hlength, hdigits⟩
  · rintro ⟨hlength, hdigits⟩
    exact ⟨(byteLength_of_digits hdigits).trans hlength, hdigits⟩

/-- No digit is a hyphen. -/
theorem IsHex.hyphen_notMem (h : IsHex width text) : '-' ∉ text := fun hmem =>
  absurd (h.digits _ hmem) (by decide)

/-- The four parts with their hyphens. -/
def headerText (traceId spanId traceFlags : List Char) : List Char :=
  ['-'].intercalate ["00".toList, traceId, spanId, traceFlags]

theorem headerText_eq : headerText traceId spanId traceFlags =
    "00-".toList ++ traceId ++ '-' :: spanId ++ '-' :: traceFlags := by
  simp [headerText, List.intercalate]

/-- Parts without a hyphen are read back. -/
theorem splitOn_headerText (ht : '-' ∉ traceId) (hs : '-' ∉ spanId) (hf : '-' ∉ traceFlags) :
    (headerText traceId spanId traceFlags).splitOn '-' =
      ["00".toList, traceId, spanId, traceFlags] := by
  refine List.splitOn_intercalate '-' ?_ (by simp)
  intro part hpart
  simp only [List.mem_cons, List.not_mem_nil, or_false] at hpart
  rcases hpart with rfl | rfl | rfl | rfl
  · decide
  · exact ht
  · exact hs
  · exact hf

theorem parseTraceparent_headerText (ht : IsHex 32 traceId) (hs : IsHex 16 spanId)
    (hf : IsHex 2 traceFlags) :
    parseTraceparent (String.ofList (headerText traceId spanId traceFlags)) =
      .ok ⟨some (String.ofList traceId), some (String.ofList spanId)⟩ := by
  have hne : (String.ofList (headerText traceId spanId traceFlags)).isEmpty = false := by
    rw [headerText_eq]
    simp
  rw [parseTraceparent, hne, String.toList_ofList,
    splitOn_headerText ht.hyphen_notMem hs.hyphen_notMem hf.hyphen_notMem]
  simp only [Bool.false_eq_true, if_false, bne_self_eq_false, notHex_eq_false.mpr ht,
    notHex_eq_false.mpr hs, notHex_eq_false.mpr hf]

/-- What is accepted is exactly the version 00 and three fields of 32, 16 and 2 hexadecimal digits,
and the context has the first two as they are written. -/
theorem parseTraceparent_eq_ok {value : String} {context : TraceContext} :
    parseTraceparent value = .ok context ↔ ∃ traceId spanId traceFlags,
      IsHex 32 traceId ∧ IsHex 16 spanId ∧ IsHex 2 traceFlags ∧
      value = String.ofList (headerText traceId spanId traceFlags) ∧
      context = ⟨some (String.ofList traceId), some (String.ofList spanId)⟩ := by
  constructor
  swap
  · rintro ⟨traceId, spanId, traceFlags, ht, hs, hf, rfl, rfl⟩
    exact parseTraceparent_headerText ht hs hf
  intro h
  rw [parseTraceparent] at h
  split at h
  · cases h
  split at h
  swap
  · cases h
  next version traceId spanId traceFlags hparts =>
  split at h
  · cases h
  next hversion =>
  split at h
  · cases h
  next ht =>
  split at h
  · cases h
  next hs =>
  split at h
  · cases h
  next hf =>
  cases h
  refine ⟨traceId, spanId, traceFlags, notHex_eq_false.mp (Bool.eq_false_iff.mpr ht),
    notHex_eq_false.mp (Bool.eq_false_iff.mpr hs), notHex_eq_false.mp (Bool.eq_false_iff.mpr hf),
    ?_, rfl⟩
  have hzero : version = "00".toList := by simpa using hversion
  rw [headerText, ← hzero, ← hparts, List.intercalate_splitOn, String.ofList_toList]

theorem buildTraceparent_eq (traceId spanId : String) (sampled : Bool) :
    buildTraceparent traceId spanId sampled = String.ofList
      (headerText traceId.toList spanId.toList (if sampled then "01" else "00").toList) := by
  rw [headerText_eq, buildTraceparent, ← String.toList_inj, String.toList_ofList]
  cases sampled <;> simp [toString]

theorem isHex_flags (sampled : Bool) : IsHex 2 (if sampled then "01" else "00").toList := by
  cases sampled <;> exact ⟨rfl, List.all_eq_true.mp (by decide)⟩

/-- A header that is built is read back exactly if its identifiers are hexadecimal digits of the
right number. -/
theorem parse_buildTraceparent_iff (traceId spanId : String) (sampled : Bool) :
    parseTraceparent (buildTraceparent traceId spanId sampled) =
        .ok ⟨some traceId, some spanId⟩ ↔
      IsHex 32 traceId.toList ∧ IsHex 16 spanId.toList := by
  rw [parseTraceparent_eq_ok]
  constructor
  · rintro ⟨traceId', spanId', _, ht, hs, _, _, hcontext⟩
    obtain ⟨htrace, hspan⟩ := TraceContext.mk.inj hcontext
    rw [Option.some.inj htrace, Option.some.inj hspan, String.toList_ofList, String.toList_ofList]
    exact ⟨ht, hs⟩
  · rintro ⟨ht, hs⟩
    refine ⟨_, _, _, ht, hs, isHex_flags sampled, buildTraceparent_eq traceId spanId sampled, ?_⟩
    rw [String.ofList_toList, String.ofList_toList]

theorem isHex_hexDigits (width n : Nat) : IsHex width (hexDigits width n) := by
  refine ⟨length_hexDigits width n, fun c hc => ?_⟩
  rw [hexDigits, List.mem_reverse, List.mem_map] at hc
  obtain ⟨i, _, rfl⟩ := hc
  have hall : ∀ d : Fin 16, (Nat.digitChar d).isHexDigit = true := by decide
  exact hall ⟨n / 16 ^ i % 16, Nat.mod_lt _ (by decide)⟩

/-- The header format accepts exactly its well-formed texts, and a header that is built is read back
exactly if its identifiers are well formed. -/
theorem traceparent_roundTrip :
    (∀ value context, parseTraceparent value = .ok context ↔ ∃ traceId spanId traceFlags,
      IsHex 32 traceId ∧ IsHex 16 spanId ∧ IsHex 2 traceFlags ∧
      value = String.ofList (headerText traceId spanId traceFlags) ∧
      context = ⟨some (String.ofList traceId), some (String.ofList spanId)⟩) ∧
    ∀ traceId spanId sampled,
      parseTraceparent (buildTraceparent traceId spanId sampled) =
          .ok ⟨some traceId, some spanId⟩ ↔
        IsHex 32 traceId.toList ∧ IsHex 16 spanId.toList :=
  ⟨fun _ _ => parseTraceparent_eq_ok, parse_buildTraceparent_iff⟩

end Format

structure NatsEventPublisher where
  tenantScope : Option Uuid

inductive AttemptAnswer where
  | ok
  | failed (e : String)
  | timedOut

/-- What comes of an attempt to publish: its answer within the time allowed, and whether the server
has received the message. -/
structure PublishAttempt where
  answer : AttemptAnswer
  received : Bool

/-- What the connection, the serialization and the two attempts answer. -/
structure NatsPublishEnv where
  getClient : Except String Unit
  toVec : Json → Except String (List UInt8)
  first : PublishAttempt
  retry : PublishAttempt

namespace NatsEventPublisher

/-- The headers of an event: its trace, if the context is complete. -/
def traceHeaders (context : TraceContext) : HeaderMap :=
  if context.isSome then
    match context.traceId, context.spanId with
    | some traceId, some spanId => [("traceparent", buildTraceparent traceId spanId true)]
    | _, _ => []
  else []

/-- The messages that an attempt leaves with the server. -/
def received (attempt : PublishAttempt) (message : NatsMessage) : List NatsMessage :=
  if attempt.received then [message] else []

/-- The answer, and the messages that the server has received. -/
def publishWithRetry (env : NatsPublishEnv) (message : NatsMessage) :
    Except String Unit × List NatsMessage :=
  match env.first.answer with
  | .ok => (.ok (), received env.first message)
  | .failed _ | .timedOut =>
    let messages := received env.first message ++ received env.retry message
    match env.retry.answer with
    | .ok => (.ok (), messages)
    | .failed e => (.error s!"NATS publish failed: {e}", messages)
    | .timedOut => (.error "NATS publish timed out", messages)

variable (publisher : NatsEventPublisher) (env : NatsPublishEnv) (subject : EventSubject)
  (payload : Json) (context : TraceContext)

/-- The publication of an event whose subject is within the scope. -/
def publishInScope : PublishResult × List NatsMessage :=
  match env.getClient with
  | .error e => (.skipped s!"NATS connection failed: {e}", [])
  | .ok () =>
    match env.toVec payload with
    | .error e => (.skipped s!"payload serialization failed: {e}", [])
    | .ok bytes =>
      match publishWithRetry env ⟨subject.subject, traceHeaders context, bytes, none⟩ with
      | (.ok (), messages) => (.published subject.subject 0, messages)
      | (.error e, messages) => (.skipped s!"NATS publish failed: {e}", messages)

def publish : PublishResult × List NatsMessage :=
  match publisher.tenantScope with
  | some expected =>
    if subject.tenantId ≠ expected then
      (.skipped (s!"tenant scope mismatch: expected {expected.display}, " ++
        s!"got {subject.tenantId.display} (subject: {subject.subject})"), [])
    else publishInScope env subject payload context
  | none => publishInScope env subject payload context

variable {publisher env subject payload context} {message : NatsMessage}

theorem eq_of_mem_received {attempt : PublishAttempt} {sent : NatsMessage}
    (h : message ∈ received attempt sent) : message = sent := by
  rw [received] at h
  split at h
  · exact List.mem_singleton.mp h
  · cases h

/-- Both attempts send the same message. -/
theorem eq_of_mem_publishWithRetry {sent : NatsMessage}
    (h : message ∈ (publishWithRetry env sent).2) : message = sent := by
  have htwo : message ∈ received env.first sent ++ received env.retry sent := by
    rw [publishWithRetry] at h
    split at h
    · exact List.mem_append_left _ h
    · dsimp only at h
      split at h <;> exact h
    · dsimp only at h
      split at h <;> exact h
  rcases List.mem_append.mp htwo with hfirst | hretry
  · exact eq_of_mem_received hfirst
  · exact eq_of_mem_received hretry

/-- A message that a publication leaves with the server has the subject and the trace of the event,
and the bytes of its payload. -/
theorem mem_publish (h : message ∈ (publisher.publish env subject payload context).2) :
    message.subject = subject.subject ∧ message.headers = traceHeaders context ∧
      env.toVec payload = .ok message.payload := by
  have hin : message ∈ (publishInScope env subject payload context).2 := by
    rw [publish] at h
    split at h
    · split at h
      · cases h
      · exact h
    · exact h
  rw [publishInScope] at hin
  split at hin
  · cases hin
  split at hin
  · cases hin
  next bytes hbytes =>
  have hsent : message ∈
      (publishWithRetry env ⟨subject.subject, traceHeaders context, bytes, none⟩).2 := by
    split at hin
    · next heq =>
      rw [heq]
      exact hin
    · next heq =>
      rw [heq]
      exact hin
  rw [eq_of_mem_publishWithRetry hsent]
  exact ⟨rfl, rfl, hbytes⟩

/-- The headers of a span's context are read back. -/
theorem extractTraceContext_traceHeaders (span : SpanContext) :
    extractTraceContext (traceHeaders (fromSpanContext span)) = fromSpanContext span := by
  cases hvalid : span.isValid with
  | false =>
    rw [fromSpanContext, hvalid]
    rfl
  | true =>
    have hread := (parse_buildTraceparent_iff (String.ofList (hexDigits 32 span.traceId.toNat))
      (String.ofList (hexDigits 16 span.spanId.toNat)) true).mpr
        (by
          rw [String.toList_ofList, String.toList_ofList]
          exact ⟨isHex_hexDigits 32 _, isHex_hexDigits 16 _⟩)
    have hcontext : fromSpanContext span =
        ⟨some (String.ofList (hexDigits 32 span.traceId.toNat)),
          some (String.ofList (hexDigits 16 span.spanId.toNat))⟩ := by
      rw [fromSpanContext, hvalid]
      rfl
    have hheaders (traceId spanId : String) : traceHeaders ⟨some traceId, some spanId⟩ =
        [("traceparent", buildTraceparent traceId spanId true)] := rfl
    rw [hcontext, hheaders]
    simp only [extractTraceContext, List.lookup_cons, beq_self_eq_true, Option.map_some, hread]

end NatsEventPublisher

/-- The event that the adapter gives to its consumer. -/
def NatsPullConsumerAdapter.receivedEvent (message : NatsMessage) (payload : Json)
    (publishedAt : DateTime) : StoredEvent :=
  let context := extractTraceContext message.headers
  { toEvent message payload with
    schemaVersion := "v1"
    traceId := context.traceId
    spanId := context.spanId
    publishedAt := publishedAt }

/-- A message, and what becomes of it when it is kept as a dead letter and replayed, any number of
times. -/
inductive Redelivered (message : NatsMessage) : Nat → NatsMessage → Prop
  | direct : Redelivered message 0 message
  | replayed {hops count : Nat} {last letter next : NatsMessage} {outcome outcome' : PublishOutcome}
      {timestamp reason : String} : Redelivered message hops last →
      (DlqHelper.publishToDlq outcome timestamp last.subject last.payload count reason).2 =
        some letter →
      (DlqHelper.replayFromDlq outcome' letter).2 = some next →
      Redelivered message (hops + 1) next

namespace DlqHelper

/-- A dead letter has no header of a trace, and so its replay has none. -/
theorem replay_of_publish {outcome outcome' : PublishOutcome} {timestamp reason : String}
    {count : Nat} {last letter next : NatsMessage}
    (hletter : (publishToDlq outcome timestamp last.subject last.payload count reason).2 =
      some letter) (hnext : (replayFromDlq outcome' letter).2 = some next) :
    next.subject = last.subject ∧ next.payload = last.payload ∧
      next.headers.lookup "traceparent" = none := by
  rw [publishToDlq] at hletter
  split at hletter
  · cases hletter
  dsimp only at hletter
  split at hletter
  swap
  · cases hletter
  cases hletter
  rw [replayFromDlq] at hnext
  have horig : (deadLetter ‹_› last.subject last.payload count reason timestamp).headers.lookup
      HeaderMap.origSubject = some last.subject := rfl
  rw [horig] at hnext
  dsimp only at hnext
  split at hnext
  · cases hnext
    exact ⟨rfl, rfl, rfl⟩
  · cases hnext

end DlqHelper

/-- However often it is kept as a dead letter and replayed, an event comes with its subject and its
payload. With the trace of the span under which it was published it comes only the first time: a
dead letter does not keep the header, although the replay would copy it. -/
theorem redelivered_trace {publisher : NatsEventPublisher} {env : NatsPublishEnv}
    {subject : EventSubject} {payload : Json} {span : SpanContext} {message last : NatsMessage}
    {hops : Nat}
    (hmessage : message ∈ (publisher.publish env subject payload (fromSpanContext span)).2)
    (h : Redelivered message hops last) (body : Json) (publishedAt : DateTime) :
    let event := NatsPullConsumerAdapter.receivedEvent last body publishedAt
    event.subject = subject.subject ∧ last.payload = message.payload ∧
      ⟨event.traceId, event.spanId⟩ = if hops = 0 then fromSpanContext span else default := by
  obtain ⟨hsubject, hheaders, -⟩ := NatsEventPublisher.mem_publish hmessage
  suffices last.subject = subject.subject ∧ last.payload = message.payload ∧
      extractTraceContext last.headers = if hops = 0 then fromSpanContext span else default from
    this
  induction h with
  | direct =>
    rw [hheaders]
    exact ⟨hsubject, rfl, NatsEventPublisher.extractTraceContext_traceHeaders span⟩
  | replayed _ hletter hnext ih =>
    obtain ⟨hsubject', hpayload', hnone⟩ := DlqHelper.replay_of_publish hletter hnext
    refine ⟨hsubject'.trans ih.1, hpayload'.trans ih.2.1, ?_⟩
    rw [extractTraceContext, hnone]
    rfl

/-- An event of span 2 in trace 1 whose consumption fails once: it comes again without its trace. -/
theorem redelivered_trace_sample :
    let env : NatsPublishEnv := ⟨.ok (), fun _ => .ok [123, 125], ⟨.ok, true⟩, ⟨.ok, true⟩⟩
    let subject := EventSubject.fromAuditEvent 1 "RebaseApplied"
    let stored : PublishOutcome := ⟨.ok (), true⟩
    ∃ message ∈ (NatsEventPublisher.publish ⟨none⟩ env subject .emptyObject
        (fromSpanContext ⟨1, 2⟩)).2,
      ∃ letter, (DlqHelper.publishToDlq stored "1970-01-01T00:00:00+00:00" message.subject
          message.payload 1 "missing intent_id in event payload").2 = some letter ∧
        ∃ last, (DlqHelper.replayFromDlq stored letter).2 = some last ∧
          let event := NatsPullConsumerAdapter.receivedEvent last .emptyObject 0
          event.subject = subject.subject ∧ last.payload = message.payload ∧
            (⟨event.traceId, event.spanId⟩ : TraceContext) = default := by
  intro env subject stored
  let message : NatsMessage :=
    ⟨subject.subject, NatsEventPublisher.traceHeaders (fromSpanContext ⟨1, 2⟩), [123, 125], none⟩
  have hmessage : message ∈ (NatsEventPublisher.publish ⟨none⟩ env subject .emptyObject
      (fromSpanContext ⟨1, 2⟩)).2 := .head _
  let letter := DlqHelper.deadLetter (message.subject ++ dlqSuffix) message.subject message.payload 1
    "missing intent_id in event payload" "1970-01-01T00:00:00+00:00"
  have hletter : (DlqHelper.publishToDlq stored "1970-01-01T00:00:00+00:00" message.subject
      message.payload 1 "missing intent_id in event payload").2 = some letter := by
    have hderive : deriveDlqSubject message.subject = .ok (message.subject ++ dlqSuffix) := by
      decide
    rw [DlqHelper.publishToDlq, hderive]
    rfl
  have hlast : (DlqHelper.replayFromDlq stored letter).2 =
      some (DlqHelper.replayed message.subject letter) := rfl
  exact ⟨message, hmessage, letter, hletter, _, hlast,
    redelivered_trace hmessage (.replayed .direct hletter hlast) .emptyObject 0⟩

end IntentRebase
