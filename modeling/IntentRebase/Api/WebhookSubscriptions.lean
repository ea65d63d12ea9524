import IntentRebase.Api.ApprovalInvalidation
import IntentRebase.Webhook.Dispatch
import IntentRebase.Webhook.SubscriptionAgreement

/-! The handlers that create, update and delete webhook subscriptions. Each calls the repository
once, so calls that overlap are calls in some order. The response has the fields of the record. -/

namespace IntentRebase

open Kit

structure CreateWebhookSubscriptionRequest where
  tenantId : Uuid
  intentId : Uuid
  subscriptionId : Uuid
  webhookUrl : String
  downstreamSystemId : Option String
  maxAttempts : Option Int32
  eventTypes : Option (List String)

/-- The body of an update supplies or omits the fields that an update can set. -/
abbrev UpdateWebhookSubscriptionRequest := SubscriptionFields

def WebhookSubscriptionRecord.withMaxAttempts (maxAttempts : Int32)
    (r : WebhookSubscriptionRecord) : WebhookSubscriptionRecord := { r with maxAttempts }

/-- The repository of the state, if one is configured. -/
abbrev SubscriptionRepo := Option SubscriptionStore

def allowedSubscriptionStatuses : List String := ["active", "paused", "disabled", "deleted"]

/-- The limits that an update accepts. -/
def allowedMaxAttempts (maxAttempts : Int32) : Bool := 1 ≤ maxAttempts && maxAttempts ≤ 100

section Handlers

variable (repo : SubscriptionRepo)

/-- The record that a body asks for. -/
def CreateWebhookSubscriptionRequest.record (now : DateTime) (id : Uuid)
    (body : CreateWebhookSubscriptionRequest) : WebhookSubscriptionRecord :=
  let record := WebhookSubscriptionRecord.new now id body.tenantId body.intentId
    body.subscriptionId body.webhookUrl body.downstreamSystemId
    (body.eventTypes.getD ["intent_changed"])
  match body.maxAttempts with
  | some maxAttempts => record.withMaxAttempts maxAttempts
  | none => record

def createSubscription (now : DateTime) (id : Uuid) (body : CreateWebhookSubscriptionRequest) :
    Except IntentRebaseError (StatusCode × WebhookSubscriptionRecord) × SubscriptionRepo :=
  match repo with
  | none => (.error (.internal "Webhook subscription repository is not configured"), none)
  | some records =>
    match InMemoryWebhookSubscriptionRepository.create records (body.record now id) with
    | (.ok created, records) => (.ok (.created, created), some records)
    | (.error (.storageError message), records) => (.error (.storageError message), some records)
    | (.error e, records) => (.error (.internal e.display), some records)

/-- What is wrong with the status and the limit of an update, the status first. -/
def UpdateWebhookSubscriptionRequest.validate (body : UpdateWebhookSubscriptionRequest) :
    Except IntentRebaseError Unit := do
  if let some status := body.status then
    if status ∉ allowedSubscriptionStatuses then
      throw (.invalidIngestRequest
        (s!"Invalid status '{status}'. Allowed values: " ++
          "[\"active\", \"paused\", \"disabled\", \"deleted\"]"))
  if let some maxAttempts := body.maxAttempts then
    if !allowedMaxAttempts maxAttempts then
      throw (.invalidIngestRequest "max_attempts must be between 1 and 100")

def updateSubscription (now : DateTime) (id tenantId : Uuid)
    (body : UpdateWebhookSubscriptionRequest) :
    Except IntentRebaseError WebhookSubscriptionRecord × SubscriptionRepo :=
  match repo with
  | none => (.error (.webhookSubscriptionNotFound id), none)
  | some records =>
    match body.validate with
    | .error e => (.error e, some records)
    | .ok () =>
      let (answer, records) :=
        InMemoryWebhookSubscriptionRepository.update records now id tenantId body
      (answer, some records)

def deleteSubscription (now : DateTime) (id tenantId : Uuid) :
    Except IntentRebaseError WebhookSubscriptionRecord × SubscriptionRepo :=
  match repo with
  | none => (.error (.webhookSubscriptionNotFound id), none)
  | some records =>
    let (answer, records) :=
      InMemoryWebhookSubscriptionRepository.softDelete records now id tenantId
    (answer, some records)

end Handlers

/-- A call of a handler, with the time and the identifier that it draws. -/
inductive SubscriptionRequest where
  | create (now : DateTime) (id : Uuid) (body : CreateWebhookSubscriptionRequest)
  | update (now : DateTime) (id tenantId : Uuid) (body : UpdateWebhookSubscriptionRequest)
  | delete (now : DateTime) (id tenantId : Uuid)

/-- The repository after a call. -/
def SubscriptionRequest.serve (repo : SubscriptionRepo) : SubscriptionRequest → SubscriptionRepo
  | .create now id body => (createSubscription repo now id body).2
  | .update now id tenantId body => (updateSubscription repo now id tenantId body).2
  | .delete now id tenantId => (deleteSubscription repo now id tenantId).2

def WebhookSubscriptionRecord.Valid (r : WebhookSubscriptionRecord) : Prop :=
  r.status ∈ allowedSubscriptionStatuses ∧ 1 ≤ r.maxAttempts ∧ r.maxAttempts ≤ 100

/-- What is stored is valid, so no limit that a dispatch reads of a subscription, or leaves to the
outbox worker for it, is less than one. -/
structure SubscriptionLaw (repo : SubscriptionRepo) : Prop where
  valid : ∀ records, repo = some records → ∀ id r, records.lookup id = some r → r.Valid
  positive : ∀ records, repo = some records → ∀ scan tenantId intentId subs,
    SqlxWebhookSubscriptionResolver.resolveByIntent records scan tenantId intentId = .ok subs →
      ∀ sub ∈ subs, 0 < sub.maxAttempts ∧
        ∀ {ρ σ ι : Type} (call : DispatchCall ρ σ ι) (env : DispatchEnv ι)
          (payload : WebhookPayload), 0 < (call.outboxRecord env sub payload).maxAttempts

/-- A creation under an identifier that is not stored asks for a limit in range or for none. -/
def SubscriptionRequest.InRange (repo : SubscriptionRepo) : SubscriptionRequest → Prop
  | .create _ id body => ∀ records, repo = some records → records.lookup id = none →
    ∀ maxAttempts, body.maxAttempts = some maxAttempts → 1 ≤ maxAttempts ∧ maxAttempts ≤ 100
  | .update .. | .delete .. => True

theorem mem_resolveByIntent {records : SubscriptionStore}
    {scan : IterOrder WebhookSubscriptionRecord} {tenantId intentId : Uuid}
    {subs : List WebhookSubscription} {sub : WebhookSubscription}
    (h : SqlxWebhookSubscriptionResolver.resolveByIntent records scan tenantId intentId = .ok subs)
    (hsub : sub ∈ subs) : ∃ id r, records.lookup id = some r ∧ sub = .ofRow r := by
  cases h
  obtain ⟨r, hr, rfl⟩ := List.mem_map.mp hsub
  obtain ⟨⟨id, r'⟩, hpair, rfl⟩ := List.mem_map.mp (scan.mem_apply.mp (List.mem_filter.mp hr).1)
  exact ⟨id, r', mem_pairs.mp hpair, rfl⟩

/-- The limits need no more than the records. -/
theorem subscriptionLaw_iff {records : SubscriptionStore} :
    SubscriptionLaw (some records) ↔ ∀ id r, records.lookup id = some r → r.Valid := by
  constructor
  · intro h
    exact h.valid records rfl
  · intro h
    constructor
    · intro records' hrecords
      cases hrecords
      exact h
    · intro records' hrecords scan tenantId intentId subs hsubs sub hsub
      cases hrecords
      obtain ⟨id, r, hr, rfl⟩ := mem_resolveByIntent hsubs hsub
      -- The limit of an outbox record is three, whatever the subscription's is.
      have hthree : (0 : Int32) < 3 := by decide
      exact ⟨Int32.lt_of_lt_of_le (by decide) (h id r hr).2.1, fun _ _ _ => hthree⟩

section Effects

variable {records : SubscriptionStore} (now : DateTime) (id tenantId : Uuid)

theorem record_id (body : CreateWebhookSubscriptionRequest) : (body.record now id).id = id := by
  unfold CreateWebhookSubscriptionRequest.record
  cases body.maxAttempts <;> rfl

/-- The record of a creation is active, with the limit of the body or with three. -/
theorem record_valid (body : CreateWebhookSubscriptionRequest) :
    (body.record now id).Valid ↔ ∀ maxAttempts, body.maxAttempts = some maxAttempts →
      1 ≤ maxAttempts ∧ maxAttempts ≤ 100 := by
  have hactive : "active" ∈ allowedSubscriptionStatuses := by decide
  have hthree : (1 : Int32) ≤ 3 ∧ (3 : Int32) ≤ 100 := by decide
  unfold CreateWebhookSubscriptionRequest.record
  cases body.maxAttempts with
  | none => exact iff_of_true ⟨hactive, hthree⟩ (by simp)
  | some maxAttempts =>
    constructor
    · rintro ⟨-, hrange⟩ _ ⟨⟩
      exact hrange
    · intro h
      exact ⟨hactive, h maxAttempts rfl⟩

theorem serve_create (body : CreateWebhookSubscriptionRequest) :
    (SubscriptionRequest.create now id body).serve (some records) =
      some (if records.lookup id = none then records.insert id (body.record now id)
        else records) := by
  have hstored : (SubscriptionRequest.create now id body).serve (some records) =
      some (InMemoryWebhookSubscriptionRepository.create records (body.record now id)).2 := by
    dsimp only [SubscriptionRequest.serve, createSubscription]
    generalize InMemoryWebhookSubscriptionRepository.create records (body.record now id) = called
    split <;> rfl
  rw [hstored]
  unfold InMemoryWebhookSubscriptionRepository.create
  rw [record_id]
  cases hlookup : records.lookup id <;> simp

/-- An update that is accepted has a status and a limit that a valid record can have. -/
theorem validate_ok {body : UpdateWebhookSubscriptionRequest} (h : body.validate = .ok ()) :
    (∀ status, body.status = some status → status ∈ allowedSubscriptionStatuses) ∧
    (∀ maxAttempts, body.maxAttempts = some maxAttempts →
      1 ≤ maxAttempts ∧ maxAttempts ≤ 100) := by
  have hlimit : ∀ maxAttempts, allowedMaxAttempts maxAttempts = true →
      1 ≤ maxAttempts ∧ maxAttempts ≤ 100 := by
    intro maxAttempts hallowed
    simpa [allowedMaxAttempts] using hallowed
  unfold UpdateWebhookSubscriptionRequest.validate at h
  constructor
  · intro status hstatus
    by_contra hnot
    rw [hstatus] at h
    dsimp only at h
    rw [if_pos hnot] at h
    cases h
  · intro maxAttempts hmax
    by_contra hnot
    rw [hmax] at h
    dsimp only at h
    rw [if_pos (by simpa using mt (hlimit maxAttempts) hnot)] at h
    split at h
    · split at h <;> cases h
    · cases h

/-- A record is changed in place or nothing is. -/
theorem modify_valid {change : WebhookSubscriptionRecord → WebhookSubscriptionRecord}
    (h : ∀ id r, records.lookup id = some r → r.Valid)
    (hchange : ∀ r : WebhookSubscriptionRecord, r.Valid → (change r).Valid) :
    ∀ id' r, (InMemoryWebhookSubscriptionRepository.modify records id tenantId change).2.lookup id'
      = some r → r.Valid := by
  unfold InMemoryWebhookSubscriptionRepository.modify
  cases hr : records.lookup id with
  | none => exact h
  | some r =>
    dsimp only
    split
    · exact h
    · exact (forall_lookup_insert h id (change r)).mpr (hchange r (h id r hr))

theorem assign_valid {body : UpdateWebhookSubscriptionRequest} (h : body.validate = .ok ())
    {r : WebhookSubscriptionRecord} (hr : r.Valid) :
    (InMemoryWebhookSubscriptionRepository.assign now body r).Valid := by
  obtain ⟨hstatus, hmax⟩ := validate_ok h
  rw [assign_eq_applied]
  constructor
  · change body.status.getD r.status ∈ allowedSubscriptionStatuses
    cases hsupplied : body.status with
    | none => exact hr.1
    | some status => exact hstatus status hsupplied
  · change 1 ≤ body.maxAttempts.getD r.maxAttempts ∧ body.maxAttempts.getD r.maxAttempts ≤ 100
    cases hsupplied : body.maxAttempts with
    | none => exact hr.2
    | some maxAttempts => exact hmax maxAttempts hsupplied

/-- A call keeps the law exactly if it is in range: an update checks what it sets, a deletion sets
a status that a valid record can have, and a creation checks nothing. -/
theorem serve_lawful_iff {repo : SubscriptionRepo} (h : SubscriptionLaw repo)
    (call : SubscriptionRequest) : SubscriptionLaw (call.serve repo) ↔ call.InRange repo := by
  cases repo with
  | none =>
    refine iff_of_true ?_ ?_
    · cases call <;> exact h
    · cases call with
      | create now id body =>
        intro records hrecords
        cases hrecords
      | update | delete => trivial
  | some records =>
    have hvalid := subscriptionLaw_iff.mp h
    cases call with
    | create now id body =>
      rw [serve_create, subscriptionLaw_iff]
      by_cases hlookup : records.lookup id = none
      · rw [if_pos hlookup, forall_lookup_insert hvalid, record_valid]
        constructor
        · rintro hrange _ ⟨⟩ -
          exact hrange
        · intro hrange
          exact hrange records rfl hlookup
      · rw [if_neg hlookup]
        refine iff_of_true hvalid ?_
        rintro _ ⟨⟩ hnone
        exact absurd hnone hlookup
    | update now id tenantId body =>
      refine iff_of_true ?_ trivial
      unfold SubscriptionRequest.serve updateSubscription
      dsimp only
      split
      · exact h
      · next hbody =>
        exact subscriptionLaw_iff.mpr
          (modify_valid id tenantId hvalid fun r => assign_valid now hbody)
    | delete now id tenantId =>
      refine iff_of_true (subscriptionLaw_iff.mpr (modify_valid id tenantId hvalid ?_)) trivial
      have hdeleted : "deleted" ∈ allowedSubscriptionStatuses := by decide
      intro r hr
      exact ⟨hdeleted, hr.2⟩

end Effects

/-- In every state that a sequence of calls reaches from the empty repository the subscriptions are
valid, exactly if every creation of a new subscription in it is in range. -/
theorem subscriptions_valid_iff (calls : List SubscriptionRequest) :
    (∀ before, before <+: calls →
      SubscriptionLaw (before.foldl SubscriptionRequest.serve (some ∅))) ↔
    AllSteps SubscriptionRequest.serve (fun repo call => call.InRange repo) (some ∅) calls := by
  have hempty : SubscriptionLaw (some ∅) := by
    refine subscriptionLaw_iff.mpr fun id r hr => ?_
    cases hr
  have hstep : ∀ (repo : SubscriptionRepo) (call : SubscriptionRequest), SubscriptionLaw repo →
      (SubscriptionLaw (call.serve repo) ↔ call.InRange repo) :=
    fun repo call h => serve_lawful_iff h call
  exact invariant_iff_allSteps hstep hempty calls

/-- A creation with the limit zero is accepted, and the subscription is stored with it. -/
theorem not_subscriptions_valid : ¬ ∀ calls : List SubscriptionRequest,
    SubscriptionLaw (calls.foldl SubscriptionRequest.serve (some ∅)) := by
  intro h
  have hlaw := h [.create 0 1 {
    tenantId := 2, intentId := 3, subscriptionId := 4, webhookUrl := "https://example.com/webhook"
    downstreamSystemId := none, maxAttempts := some 0, eventTypes := none }]
  have hvalid := hlaw.valid _ (serve_create ..) 1 _ rfl
  exact absurd hvalid.2.1 (by decide)

end IntentRebase
