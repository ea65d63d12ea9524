import Mathlib.Data.List.ReduceOption
import IntentRebase.Kit.Transition
import IntentRebase.Webhook.Outbox

/-! The life of one delivery, as the outbox is meant to lead it: a record has one owner from its
claim to the write that follows its dispatch, and is sent a bounded number of times. -/

namespace IntentRebase

open Kit

/-- What happens to a record besides its changes. -/
inductive OutboxEvent where
  | replayed (id : Uuid)
  | dispatched (record : WebhookOutboxRecord)
  | abandoned (id : Uuid)

/-- The record that an event is about. -/
def OutboxEvent.recordId : OutboxEvent → Uuid
  | .replayed id => id
  | .dispatched record => record.id
  | .abandoned id => id

/-- The events of a log that are about a record. -/
def history (id : Uuid) (log : List OutboxEvent) : List OutboxEvent :=
  log.filter fun e => e.recordId = id

/-- The dispatches since the last replay, after one more event. -/
def sentAfter (sent : List WebhookOutboxRecord) : OutboxEvent → List WebhookOutboxRecord
  | .replayed _ => []
  | .dispatched record => sent ++ [record]
  | .abandoned _ => sent

/-- The dispatches of a record since its last replay, or since its creation. -/
def sentSince (events : List OutboxEvent) : List WebhookOutboxRecord := events.foldl sentAfter []

/-- All dispatches. -/
def dispatches (events : List OutboxEvent) : List WebhookOutboxRecord :=
  events.filterMap fun
    | .dispatched record => some record
    | .replayed _ => none
    | .abandoned _ => none

theorem sentSince_append (events events' : List OutboxEvent) :
    sentSince (events ++ events') = events'.foldl sentAfter (sentSince events) := List.foldl_append

namespace WebhookOutboxRecord

/-- How often a record may be dispatched before it is replayed. -/
def allowance (r : WebhookOutboxRecord) : Nat := max 1 r.maxAttempts.toInt.toNat

/-- The attempts are used up, as the worker counts them. -/
def exhausted (r : WebhookOutboxRecord) : Bool := r.attemptCount + 1 ≥ r.maxAttempts

end WebhookOutboxRecord

/-- Where a delivery is in its life, and its record. -/
inductive OutboxDelivery where
  | absent
  | pending (record : WebhookOutboxRecord)
  | claimed (record : WebhookOutboxRecord) (owner : Nat)
  | sent (record : WebhookOutboxRecord) (owner : Nat)
  | abandoned (record : WebhookOutboxRecord)
  | resolved (record : WebhookOutboxRecord)

namespace OutboxDelivery

def record : OutboxDelivery → Option WebhookOutboxRecord
  | .absent => none
  | .pending r | .claimed r _ | .sent r _ | .abandoned r | .resolved r => some r

/-- The record that a client holds, and whether it was sent. -/
def heldBy (client : Nat) : OutboxDelivery → Option (WebhookOutboxRecord × Bool)
  | .claimed r owner => if client = owner then some (r, false) else none
  | .sent r owner => if client = owner then some (r, true) else none
  | .absent | .pending _ | .abandoned _ | .resolved _ => none

/-- The steps of a life, with what happens to the record. -/
inductive Moves : OutboxDelivery → Option OutboxEvent → OutboxDelivery → Prop
  | stay (d : OutboxDelivery) : Moves d none d
  | create {r : WebhookOutboxRecord} (hpending : r.status = .pending)
      (hfresh : r.attemptCount = 0) : Moves .absent none (.pending r)
  | claim (r : WebhookOutboxRecord) (now : DateTime) (lockedBy : String) (owner : Nat) :
      Moves (.pending r) none (.claimed (r.claim now lockedBy) owner)
  | dispatch (r : WebhookOutboxRecord) (owner : Nat) :
      Moves (.claimed r owner) (some (.dispatched r)) (.sent r owner)
  | abandonClaimed (r : WebhookOutboxRecord) (owner : Nat) :
      Moves (.claimed r owner) (some (.abandoned r.id)) (.abandoned r)
  | abandonSent (r : WebhookOutboxRecord) (owner : Nat) :
      Moves (.sent r owner) (some (.abandoned r.id)) (.abandoned r)
  | deliver (r : WebhookOutboxRecord) (owner : Nat) (now : DateTime) :
      Moves (.sent r owner) none (.resolved (r.markDelivered now))
  | fail (r : WebhookOutboxRecord) (owner : Nat) (now : DateTime) (lastError : String) :
      Moves (.sent r owner) none (.resolved (r.markFailed now lastError))
  | retry {r : WebhookOutboxRecord} (owner : Nat) (now : DateTime) (lastError : String)
      (scheduledAt : DateTime) (h : r.exhausted = false) :
      Moves (.sent r owner) none (.pending (r.rescheduleRetry now lastError scheduledAt))
  | replay {r : WebhookOutboxRecord} (now : DateTime) (replayedBy : Option String)
      (h : r.status = .failed) :
      Moves (.resolved r) (some (.replayed r.id)) (.pending (r.replayFailed now replayedBy))

/-- What is known of the record at each point, with the number of its dispatches. -/
def Counts (dispatched : Nat) : OutboxDelivery → Prop
  | .absent => dispatched = 0
  | .pending r =>
    r.status = .pending ∧ r.attemptCount.toInt = dispatched ∧ dispatched < r.allowance
  | .claimed r _ =>
    r.status = .claimed ∧ r.attemptCount.toInt = dispatched ∧ dispatched < r.allowance
  | .sent r _ =>
    r.status = .claimed ∧ r.attemptCount.toInt + 1 = dispatched ∧ dispatched ≤ r.allowance
  | .abandoned r => r.status = .claimed ∧ dispatched ≤ r.allowance
  | .resolved r => (r.status = .delivered ∨ r.status = .failed) ∧ dispatched ≤ r.allowance

/-- The `n`-th dispatch carries `n - 1` as its attempt count. -/
def Numbered (sent : List WebhookOutboxRecord) : Prop :=
  ∀ (n : Nat) (r : WebhookOutboxRecord), sent[n]? = some r → r.attemptCount.toInt = n

theorem numbered_nil : Numbered [] := fun _ _ h => nomatch h

theorem Numbered.append {sent : List WebhookOutboxRecord} {r : WebhookOutboxRecord}
    (h : Numbered sent) (hr : r.attemptCount.toInt = sent.length) : Numbered (sent ++ [r]) := by
  intro n r' hn
  rw [List.getElem?_append] at hn
  split at hn
  · exact h n r' hn
  · next hle =>
    rw [List.getElem?_singleton] at hn
    split at hn
    · next hzero =>
      obtain rfl := Option.some.inj hn
      omega
    · cases hn

/-- The owner has given the record up. -/
def isAbandoned : OutboxDelivery → Bool
  | .abandoned _ => true
  | .absent | .pending _ | .claimed .. | .sent .. | .resolved _ => false

/-- What holds of a delivery after the events of its record. -/
structure Sound (d : OutboxDelivery) (events : List OutboxEvent) : Prop where
  counts : d.Counts (sentSince events).length
  numbered : Numbered (sentSince events)
  abandoned : d.isAbandoned = true ↔ ∃ id, .abandoned id ∈ events

theorem sound_absent : absent.Sound [] where
  counts := rfl
  numbered := numbered_nil
  abandoned := by simp [isAbandoned]

theorem Sound.bounded {d : OutboxDelivery} {events : List OutboxEvent} (h : d.Sound events)
    {r : WebhookOutboxRecord} (hr : d.record = some r) :
    (sentSince events).length ≤ r.allowance := by
  have hcounts := h.counts
  cases d with
  | absent => cases hr
  | pending r' | claimed r' owner =>
    obtain rfl := Option.some.inj hr
    exact hcounts.2.2.le
  | sent r' owner =>
    obtain rfl := Option.some.inj hr
    exact hcounts.2.2
  | abandoned r' | resolved r' =>
    obtain rfl := Option.some.inj hr
    exact hcounts.2

section Inversion

variable {d : OutboxDelivery} {r : WebhookOutboxRecord} {client : Nat}

theorem eq_absent (h : d.record = none) : d = .absent := by
  cases d with
  | absent => rfl
  | pending r' | claimed r' owner | sent r' owner | abandoned r' | resolved r' => cases h

theorem eq_pending {dispatched : Nat} (hcounts : d.Counts dispatched) (h : d.record = some r)
    (hstatus : r.status = .pending) : d = .pending r := by
  cases d with
  | absent => cases h
  | pending r' =>
    cases h
    rfl
  | claimed r' owner | sent r' owner | abandoned r' =>
    cases h
    exact absurd (hcounts.1.symm.trans hstatus) (by decide)
  | resolved r' =>
    cases h
    rcases hcounts.1 with hr | hr <;> exact absurd (hr.symm.trans hstatus) (by decide)

theorem eq_resolved {dispatched : Nat} (hcounts : d.Counts dispatched) (h : d.record = some r)
    (hstatus : r.status = .delivered ∨ r.status = .failed) : d = .resolved r := by
  cases d with
  | absent => cases h
  | resolved r' =>
    cases h
    rfl
  | pending r' | claimed r' owner | sent r' owner | abandoned r' =>
    cases h
    rcases hstatus with hr | hr <;> exact absurd (hcounts.1.symm.trans hr) (by decide)

theorem eq_claimed (h : d.heldBy client = some (r, false)) : d = .claimed r client := by
  cases d with
  | claimed r' owner =>
    simp only [heldBy, Option.ite_none_right_eq_some, Option.some.injEq, Prod.mk.injEq,
      and_true] at h
    rw [h.1, h.2]
  | sent r' owner => simp [heldBy] at h
  | absent | pending r' | abandoned r' | resolved r' => cases h

theorem eq_sent (h : d.heldBy client = some (r, true)) : d = .sent r client := by
  cases d with
  | sent r' owner =>
    simp only [heldBy, Option.ite_none_right_eq_some, Option.some.injEq, Prod.mk.injEq,
      and_true] at h
    rw [h.1, h.2]
  | claimed r' owner => simp [heldBy] at h
  | absent | pending r' | abandoned r' | resolved r' => cases h

end Inversion

theorem allowance_pos (r : WebhookOutboxRecord) : 0 < r.allowance :=
  Nat.lt_of_lt_of_le Nat.one_pos (Nat.le_max_left _ _)

/-- An attempt within the allowance does not overflow the count. -/
theorem attemptCount_succ {r : WebhookOutboxRecord} {dispatched : Nat}
    (hcount : r.attemptCount.toInt + 1 = dispatched) (hbound : dispatched ≤ r.allowance)
    (h : r.exhausted = false) :
    (r.attemptCount + 1).toInt = dispatched ∧ dispatched < r.allowance := by
  have hmax := r.maxAttempts.toInt_lt
  have hleft : (r.attemptCount + 1).toInt < r.maxAttempts.toInt := by
    rw [← Int32.lt_iff_toInt_lt]
    simpa [WebhookOutboxRecord.exhausted] using h
  have hsum : (r.attemptCount + 1).toInt = r.attemptCount.toInt + 1 := by
    have hlow := r.attemptCount.le_toInt
    rw [WebhookOutboxRecord.allowance] at hbound
    rw [Int32.toInt_add]
    exact Int.bmod_eq_of_le (by simp; omega) (by simp; omega)
  rw [WebhookOutboxRecord.allowance] at hbound ⊢
  omega

theorem Moves.counts {d d' : OutboxDelivery} {e : Option OutboxEvent} (h : Moves d e d')
    {sent : List WebhookOutboxRecord} (hcounts : d.Counts sent.length)
    (hnumbered : Numbered sent) :
    d'.Counts (e.toList.foldl sentAfter sent).length ∧
      Numbered (e.toList.foldl sentAfter sent) := by
  cases h with
  | stay => exact ⟨hcounts, hnumbered⟩
  | create hpending hfresh =>
    obtain rfl := List.length_eq_zero_iff.mp hcounts
    exact ⟨⟨hpending, by rw [hfresh]; rfl, allowance_pos _⟩, hnumbered⟩
  | claim r now lockedBy owner => exact ⟨⟨rfl, hcounts.2⟩, hnumbered⟩
  | dispatch r owner =>
    obtain ⟨hstatus, hcount, hbound⟩ := hcounts
    have hlength : (sentAfter sent (.dispatched r)).length = sent.length + 1 :=
      List.length_append
    refine ⟨⟨hstatus, ?_, ?_⟩, hnumbered.append hcount⟩
    · simp only [Option.toList_some, List.foldl_cons, List.foldl_nil, hlength]
      omega
    · simp only [Option.toList_some, List.foldl_cons, List.foldl_nil, hlength]
      omega
  | abandonClaimed r owner => exact ⟨⟨hcounts.1, hcounts.2.2.le⟩, hnumbered⟩
  | abandonSent r owner => exact ⟨⟨hcounts.1, hcounts.2.2⟩, hnumbered⟩
  | deliver r owner now => exact ⟨⟨.inl rfl, hcounts.2.2⟩, hnumbered⟩
  | fail r owner now lastError => exact ⟨⟨.inr rfl, hcounts.2.2⟩, hnumbered⟩
  | retry owner now lastError scheduledAt hleft =>
    exact ⟨⟨rfl, attemptCount_succ hcounts.2.1 hcounts.2.2 hleft⟩, hnumbered⟩
  | replay now replayedBy hfailed => exact ⟨⟨rfl, rfl, allowance_pos _⟩, numbered_nil⟩

/-- A delivery is given up in the step that says so, and for good. -/
theorem Moves.isAbandoned {d d' : OutboxDelivery} {e : Option OutboxEvent} (h : Moves d e d') :
    d'.isAbandoned = true ↔ d.isAbandoned = true ∨ ∃ id, e = some (.abandoned id) := by
  cases h <;> simp [OutboxDelivery.isAbandoned]

theorem Moves.sound {d d' : OutboxDelivery} {e : Option OutboxEvent} (h : Moves d e d')
    {events : List OutboxEvent} (hs : d.Sound events) : d'.Sound (events ++ e.toList) := by
  obtain ⟨hcounts, hnumbered⟩ := h.counts hs.counts hs.numbered
  rw [← sentSince_append] at hcounts hnumbered
  refine ⟨hcounts, hnumbered, ?_⟩
  rw [h.isAbandoned, hs.abandoned]
  simp only [List.mem_append, Option.mem_toList, exists_or]

/-- A delivery that is resolved as delivered stays as it is. -/
theorem delivered_final {r : WebhookOutboxRecord} {d : OutboxDelivery}
    {es : List (Option OutboxEvent)}
    (h : Run Moves (.resolved r) es d) (hr : r.status = .delivered) :
    d = .resolved r ∧ es.reduceOption = [] := by
  generalize hstart : OutboxDelivery.resolved r = start at h
  induction h with
  | nil => exact ⟨rfl, rfl⟩
  | cons hstep _ ih =>
    subst hstart
    cases hstep with
    | stay => exact ih rfl
    | replay now replayedBy hfailed =>
      rw [hr] at hfailed
      cases hfailed

/-- An abandoned delivery stays so: no call ends its claim. -/
theorem abandoned_final {r : WebhookOutboxRecord} {d : OutboxDelivery}
    {es : List (Option OutboxEvent)}
    (h : Run Moves (.abandoned r) es d) : d = .abandoned r := by
  generalize hstart : OutboxDelivery.abandoned r = start at h
  induction h with
  | nil => rfl
  | cons hstep _ ih =>
    subst hstart
    cases hstep with
    | stay => exact ih rfl

end OutboxDelivery

end IntentRebase
