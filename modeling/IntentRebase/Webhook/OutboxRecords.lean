import IntentRebase.Webhook.OutboxAgreement
import IntentRebase.Webhook.OutboxLaws

/-! What calls on an outbox repository never change of the records it holds, whoever makes them. -/

namespace IntentRebase

open Kit

/-- The record without what the operations set. -/
def WebhookOutboxRecord.origin (r : WebhookOutboxRecord) : WebhookOutboxRecord :=
  { r with
    status := .pending, attemptCount := 0, scheduledAt := 0, lockedAt := none, lockedBy := none
    deliveredAt := none, lastError := none, replayCount := 0, replayedAt := none
    replayedBy := none, lockVersion := 0, updatedAt := 0 }

/-- No record disappears, changes its origin or stops being delivered. -/
def OutboxView.Keeps (view view' : OutboxView) : Prop :=
  ∀ id r, view id = some r → ∃ r', view' id = some r' ∧ r'.origin = r.origin ∧
    (r.deliveredAt.isSome → r'.deliveredAt.isSome)

theorem OutboxView.Keeps.refl (view : OutboxView) : view.Keeps view :=
  fun _ r hr => ⟨r, hr, rfl, id⟩

section Laws

variable {σ : Type} {repo : WebhookOutboxRepository σ} {view : σ → OutboxView} {valid : σ → Prop}
  {s : σ}

theorem Changed.keeps {id tenantId : Uuid} {required : Option WebhookOutboxStatus}
    {change : WebhookOutboxRecord → WebhookOutboxRecord} {answer : OutboxAnswer σ}
    (h : Changed view valid s id tenantId required change answer) (hs : valid s)
    (hchange : ∀ r, (change r).origin = r.origin ∧
      (r.deliveredAt.isSome → (change r).deliveredAt.isSome)) :
    valid answer.2 ∧ (view s).Keeps (view answer.2) := by
  rcases h with ⟨r, s', hreached, rfl, hvalid, hview⟩ | ⟨e, rfl⟩
  · refine ⟨hvalid, fun other found hfound => ?_⟩
    rw [hview]
    by_cases hid : other = id
    · subst hid
      obtain rfl := Option.some.inj (hreached.found.symm.trans hfound)
      exact ⟨_, Function.update_self .., hchange r⟩
    · exact ⟨found, (Function.update_of_ne hid ..).trans hfound, rfl, fun h => h⟩
  · exact ⟨hs, .refl _⟩

theorem OutboxLaws.apply_keeps (laws : OutboxLaws repo view valid) (hs : valid s)
    (call : OutboxCall) :
    valid (call.apply repo s).2 ∧ (view s).Keeps (view (call.apply repo s).2) := by
  cases call with
  | create record =>
    show valid (repo.create s record).2 ∧ (view s).Keeps (view (repo.create s record).2)
    rcases laws.create record hs with ⟨s', hnone, hcreate, hvalid, hview⟩ | ⟨e, hcreate⟩
    · rw [hcreate]
      refine ⟨hvalid, fun id r hr => ⟨r, ?_, rfl, fun h => h⟩⟩
      have hid : id ≠ record.id := by
        rintro rfl
        cases hnone.symm.trans hr
      exact (congrFun hview id).trans ((Function.update_of_ne hid ..).trans hr)
    · rw [hcreate]
      exact ⟨hs, .refl _⟩
  | claim now id tenantId lockedBy =>
    exact (laws.claim now id tenantId lockedBy hs).keeps hs fun _ => ⟨rfl, fun h => h⟩
  | markDelivered now id tenantId =>
    exact (laws.markDelivered now id tenantId hs).keeps hs fun _ => ⟨rfl, fun _ => rfl⟩
  | markFailed now id tenantId lastError =>
    exact (laws.markFailed now id tenantId lastError hs).keeps hs fun _ => ⟨rfl, fun h => h⟩
  | rescheduleRetry now id tenantId lastError at' =>
    exact (laws.rescheduleRetry now id tenantId lastError at' hs).keeps hs
      fun _ => ⟨rfl, fun h => h⟩
  | replayFailed now id tenantId by' =>
    exact (laws.replayFailed now id tenantId by' hs).keeps hs fun _ => ⟨rfl, fun h => h⟩
  | _ => exact ⟨hs, .refl _⟩

/-- The contents after a sequence of calls. -/
def WebhookOutboxRepository.after (repo : WebhookOutboxRepository σ) (calls : List OutboxCall)
    (s : σ) : σ :=
  calls.foldl (fun s call => (call.apply repo s).2) s

theorem OutboxLaws.after_keeps (laws : OutboxLaws repo view valid) (hs : valid s)
    (calls : List OutboxCall) :
    valid (repo.after calls s) ∧ (view s).Keeps (view (repo.after calls s)) := by
  induction calls generalizing s with
  | nil => exact ⟨hs, .refl _⟩
  | cons call calls ih =>
    obtain ⟨hvalid, hkeeps⟩ := laws.apply_keeps hs call
    obtain ⟨hafter, hrest⟩ := ih hvalid
    refine ⟨hafter, fun id r hr => ?_⟩
    obtain ⟨r', hr', horigin, hdelivered⟩ := hkeeps id r hr
    obtain ⟨r'', hr'', horigin', hdelivered'⟩ := hrest id r' hr'
    exact ⟨r'', hr'', horigin'.trans horigin, hdelivered' ∘ hdelivered⟩

end Laws

/-- In memory and in the database, whatever is called in whatever order: a record is never lost, its
origin never changes, and once delivered it has a time of delivery for good. -/
theorem outbox_records_kept (before after : List OutboxCall) :
    (∀ order, let repo := InMemoryWebhookOutboxRepository.repository order
      OutboxView.Keeps (repo.after before ∅).lookup (repo.after after (repo.after before ∅)).lookup) ∧
    ∀ collation scans, let repo := SqlxWebhookOutboxRepository.repository collation scans
      OutboxView.Keeps (SqlxWebhookOutboxRepository.view (repo.after before ∅))
        (SqlxWebhookOutboxRepository.view (repo.after after (repo.after before ∅))) := by
  constructor
  · intro order
    have laws := InMemoryWebhookOutboxRepository.laws order
    have hempty : InMemoryWebhookOutboxRepository.Keyed ∅ := fun _ _ h => nomatch h
    exact (laws.after_keeps (laws.after_keeps hempty before).1 after).2
  · intro collation scans
    have laws := SqlxWebhookOutboxRepository.laws collation scans
    have hempty : SqlxWebhookOutboxRepository.OfRecords ∅ := ⟨∅, sameOutbox_empty⟩
    exact (laws.after_keeps (laws.after_keeps hempty before).1 after).2

end IntentRebase
