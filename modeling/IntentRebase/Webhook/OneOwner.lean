import IntentRebase.Webhook.OutboxOwnership

/-! What the life of a delivery means for the outbox: one owner at a time, a bounded number of
dispatches with their attempts counted, and nothing after a delivery. -/

namespace IntentRebase

open Kit

variable {σ ι : Type} {view : σ → OutboxView} {valid : σ → Prop}
  {repo : ι → WebhookOutboxRepository σ}

namespace OutboxClients

/-- A worker has claimed a record, and has not yet come to the write that follows its dispatch. -/
def Holds (s : OutboxClients σ ι) (client : Nat) (r : WebhookOutboxRecord) : Prop :=
  ∃ stage wasSent, s.stage client = some stage ∧ stage.held = some (r, wasSent)

/-- The dispatches of a record since its creation or its last replay. -/
def attempts (s : OutboxClients σ ι) (id : Uuid) : List WebhookOutboxRecord :=
  sentSince (history id s.store.log)

/-- What holds of an outbox at any time. -/
structure OneOwner (view : σ → OutboxView) (s : OutboxClients σ ι) : Prop where
  held : ∀ client r, s.Holds client r → view s.store.repo r.id = some r ∧ r.status = .claimed
  owner : ∀ client client' r r', s.Holds client r → s.Holds client' r' → r.id = r'.id →
    client = client'
  bounded : ∀ id r, view s.store.repo id = some r →
    (s.attempts id).length ≤ max 1 r.maxAttempts.toInt.toNat
  numbered : ∀ (id : Uuid) (n : Nat) (r : WebhookOutboxRecord), (s.attempts id)[n]? = some r →
    r.attemptCount.toInt = n

/-- An outbox without records and without clients. -/
def initial (empty : σ) : OutboxClients σ ι := .idle ⟨empty, []⟩

end OutboxClients

/-- Whatever the turns of the clients, a record has one owner at a time and is sent a bounded
number of times; and a record that is delivered stays as it is, and is not sent again. -/
structure WorkedByOneOwner (repo : ι → WebhookOutboxRepository σ) (view : σ → OutboxView)
    (s : OutboxClients σ ι) : Prop where
  always : ∀ turns, (s.after repo turns).OneOwner view
  delivered : ∀ turns later id r, view (s.after repo turns).store.repo id = some r →
    r.status = .delivered → view (s.after repo (turns ++ later)).store.repo id = some r ∧
      dispatches (history id (s.after repo (turns ++ later)).store.log) =
        dispatches (history id (s.after repo turns).store.log)

section Guarantees

variable {s : OutboxClients σ ι}

theorem Shows.holds {client : Nat} {r : WebhookOutboxRecord} {d : OutboxDelivery}
    (hd : Shows view r.id s d) (h : s.Holds client r) :
    ∃ wasSent, d.heldBy client = some (r, wasSent) := by
  obtain ⟨stage, wasSent, hstage, hheld⟩ := h
  refine ⟨wasSent, ?_⟩
  rw [← hd.held, heldOf, hstage, Option.bind_some, hheld]
  simp

theorem OutboxDelivery.heldBy_record {d : OutboxDelivery} {client : Nat} {r : WebhookOutboxRecord}
    {wasSent : Bool} (h : d.heldBy client = some (r, wasSent)) {dispatched : Nat}
    (hcounts : d.Counts dispatched) : d.record = some r ∧ r.status = .claimed := by
  cases wasSent with
  | false =>
    obtain rfl := eq_claimed h
    exact ⟨rfl, hcounts.1⟩
  | true =>
    obtain rfl := eq_sent h
    exact ⟨rfl, hcounts.1⟩

theorem OutboxDelivery.heldBy_unique {d : OutboxDelivery} {client client' : Nat}
    {held held' : WebhookOutboxRecord × Bool} (h : d.heldBy client = some held)
    (h' : d.heldBy client' = some held') : client = client' := by
  cases d with
  | claimed r owner | sent r owner =>
    simp only [heldBy, Option.ite_none_right_eq_some] at h h'
    exact h.1.trans h'.1.symm
  | absent | pending r | abandoned r | resolved r => cases h

/-- An outbox that shows every delivery has one owner for each. -/
theorem oneOwner_of_shows (h : ∀ id, ∃ d, Shows view id s d) : s.OneOwner view where
  held := by
    intro client r hholds
    obtain ⟨d, hd⟩ := h r.id
    obtain ⟨wasSent, hheld⟩ := hd.holds hholds
    obtain ⟨hrecord, hstatus⟩ := OutboxDelivery.heldBy_record hheld hd.sound.counts
    exact ⟨hd.record.trans hrecord, hstatus⟩
  owner := by
    intro client client' r r' hholds hholds' hid
    obtain ⟨d, hd⟩ := h r.id
    obtain ⟨_, hheld⟩ := hd.holds hholds
    obtain ⟨_, hheld'⟩ := Shows.holds (hid ▸ hd) hholds'
    exact OutboxDelivery.heldBy_unique hheld hheld'
  bounded := by
    intro id r hr
    obtain ⟨d, hd⟩ := h id
    exact hd.sound.bounded (hd.record.symm.trans hr)
  numbered := by
    intro id
    obtain ⟨d, hd⟩ := h id
    exact hd.sound.numbered

theorem shows_initial {empty : σ} (hempty : view empty = fun _ => none) (id : Uuid) :
    Shows view id (OutboxClients.initial empty : OutboxClients σ ι) .absent where
  record := by
    change view empty id = none
    rw [hempty]
  held := fun _ => rfl
  sound := OutboxDelivery.sound_absent

variable (laws : ∀ i, OutboxLaws (repo i) view valid)

include laws

theorem shows_run (hvalid : valid s.store.repo) (h : ∀ id, ∃ d, Shows view id s d)
    (turns : List (Turn (OutboxRequest ι))) : ∀ id, ∃ d, Shows view id (s.after repo turns) d := by
  intro id
  obtain ⟨d, hd⟩ := h id
  obtain ⟨-, d', -, hd', -⟩ := (run_follows laws hvalid turns).2 id d hd
  exact ⟨d', hd'⟩

/-- Every repository that keeps the laws has its records worked by one owner. -/
theorem workedByOneOwner (hvalid : valid s.store.repo) (h : ∀ id, ∃ d, Shows view id s d) :
    WorkedByOneOwner repo view s where
  always := fun turns => oneOwner_of_shows (shows_run laws hvalid h turns)
  delivered := by
    intro turns later id r hr hstatus
    obtain ⟨d, hd⟩ := shows_run laws hvalid h turns id
    have hvalid' := (run_follows laws hvalid turns).1
    obtain ⟨es, d', hrun, hd', hlog⟩ := (run_follows laws hvalid' later).2 id d hd
    obtain rfl :=
      OutboxDelivery.eq_resolved hd.sound.counts (hd.record.symm.trans hr) (.inl hstatus)
    obtain ⟨rfl, hes⟩ := OutboxDelivery.delivered_final hrun hstatus
    rw [hes, List.append_nil] at hlog
    rw [OutboxClients.after, Clients.run_append]
    exact ⟨hd'.record, congrArg dispatches hlog⟩

end Guarantees

/-- In the in-memory and in the SQL repository, for any number of workers and operators and in any
interleaving of their steps, each of which may fail. -/
theorem outbox_workedByOneOwner :
    WorkedByOneOwner InMemoryWebhookOutboxRepository.repository (fun records => records.lookup)
        (.initial ∅) ∧
      ∀ collation, WorkedByOneOwner (SqlxWebhookOutboxRepository.repository collation)
        SqlxWebhookOutboxRepository.view (.initial ∅) := by
  constructor
  · exact workedByOneOwner InMemoryWebhookOutboxRepository.laws (fun _ _ h => nomatch h)
      fun id => ⟨.absent, shows_initial rfl id⟩
  · intro collation
    exact workedByOneOwner (SqlxWebhookOutboxRepository.laws collation)
      ⟨∅, fun _ => rfl, fun _ _ h => nomatch h⟩ fun id => ⟨.absent, shows_initial rfl id⟩

/-! The deliveries that no worker works on. Each is offered again, resolved, or left claimed by a
worker that stopped or could not write down the outcome; such a claim is not taken back. -/

namespace OutboxClients

/-- No worker is processing a record. -/
def Idle (s : OutboxClients σ ι) (id : Uuid) : Prop := ∀ client r, s.Holds client r → r.id ≠ id

/-- The worker that claimed a record stopped before the write that follows its dispatch, or that
write failed. -/
def Abandoned (s : OutboxClients σ ι) (id : Uuid) : Prop := .abandoned id ∈ s.store.log

end OutboxClients

/-- A record that no worker is processing is never left claimed. -/
def NeverStranded (repo : ι → WebhookOutboxRepository σ) (view : σ → OutboxView)
    (s : OutboxClients σ ι) : Prop :=
  ∀ turns id r, view (s.after repo turns).store.repo id = some r →
    (s.after repo turns).Idle id →
    r.status = .pending ∨ r.status = .delivered ∨ r.status = .failed

/-- Where the records are that no worker is processing. -/
structure Recoverable (repo : ι → WebhookOutboxRepository σ) (view : σ → OutboxView)
    (s : OutboxClients σ ι) : Prop where
  idle : ∀ turns id r, view (s.after repo turns).store.repo id = some r →
    (s.after repo turns).Idle id →
    (r.status = .pending ∨ r.status = .delivered ∨ r.status = .failed) ∨
      r.status = .claimed ∧ (s.after repo turns).Abandoned id
  offers : ∀ turns id r i, view (s.after repo turns).store.repo id = some r →
    OutboxOffers (repo i) (s.after repo turns).store.repo id r
  abandoned : ∀ turns later id, (s.after repo turns).Abandoned id →
    (s.after repo (turns ++ later)).Idle id ∧ ∃ r, r.status = .claimed ∧
      view (s.after repo turns).store.repo id = some r ∧
      view (s.after repo (turns ++ later)).store.repo id = some r

section Guarantees

variable {s : OutboxClients σ ι} {id : Uuid} {d : OutboxDelivery}

theorem Shows.abandoned_iff (hd : Shows view id s d) : d.isAbandoned = true ↔ s.Abandoned id := by
  rw [hd.sound.abandoned]
  constructor
  · rintro ⟨id', hmem⟩
    obtain ⟨hlog, hid⟩ := List.mem_filter.mp hmem
    obtain rfl : id' = id := of_decide_eq_true hid
    exact hlog
  · intro hlog
    exact ⟨id, List.mem_filter.mpr ⟨hlog, decide_eq_true rfl⟩⟩

theorem Shows.holds_of_heldBy (hd : Shows view id s d) {client : Nat} {r : WebhookOutboxRecord}
    {wasSent : Bool} (h : d.heldBy client = some (r, wasSent)) : s.Holds client r ∧ r.id = id := by
  rw [← hd.held, heldOf, Option.filter_eq_some_iff, Option.bind_eq_some_iff] at h
  obtain ⟨⟨stage, hstage, hheld⟩, hid⟩ := h
  exact ⟨⟨stage, wasSent, hstage, hheld⟩, of_decide_eq_true hid⟩

theorem Shows.idle (hd : Shows view id s d) (h : ∀ client, d.heldBy client = none) : s.Idle id := by
  rintro client r hholds rfl
  obtain ⟨wasSent, hheld⟩ := hd.holds hholds
  rw [h client] at hheld
  cases hheld

theorem OutboxDelivery.eq_abandoned (h : d.isAbandoned = true) : ∃ r, d = .abandoned r := by
  cases d with
  | abandoned r => exact ⟨r, rfl⟩
  | absent | pending r | claimed r owner | sent r owner | resolved r => cases h

/-- The claim of a record that nobody processes was abandoned. -/
theorem Shows.unclaimed (hd : Shows view id s d) (hidle : s.Idle id) {r : WebhookOutboxRecord}
    (hr : view s.store.repo id = some r) :
    (r.status = .pending ∨ r.status = .delivered ∨ r.status = .failed) ∨
      r.status = .claimed ∧ s.Abandoned id := by
  have hcounts := hd.sound.counts
  have hrecord := hd.record.symm.trans hr
  have hfree : ∀ client r', d.heldBy client ≠ some r' := by
    rintro client ⟨r', wasSent⟩ hheld
    obtain ⟨hholds, hid⟩ := hd.holds_of_heldBy hheld
    exact hidle client r' hholds hid
  cases d with
  | absent => cases hrecord
  | pending r' =>
    cases hrecord
    exact .inl (.inl hcounts.1)
  | claimed r' owner => exact absurd (if_pos rfl) (hfree owner (r', false))
  | sent r' owner => exact absurd (if_pos rfl) (hfree owner (r', true))
  | abandoned r' =>
    cases hrecord
    exact .inr ⟨hcounts.1, hd.abandoned_iff.mp rfl⟩
  | resolved r' =>
    cases hrecord
    exact .inl (.inr hcounts.1)

variable (laws : ∀ i, OutboxLaws (repo i) view valid)

include laws

theorem recoverable (hvalid : valid s.store.repo) (h : ∀ id, ∃ d, Shows view id s d)
    (hoffers : ∀ i s id r, valid s → view s id = some r → OutboxOffers (repo i) s id r) :
    Recoverable repo view s where
  idle := by
    intro turns id r hr hidle
    obtain ⟨d, hd⟩ := shows_run laws hvalid h turns id
    exact hd.unclaimed hidle hr
  offers := fun turns id r i hr => hoffers i _ id r (run_follows laws hvalid turns).1 hr
  abandoned := by
    intro turns later id habandoned
    obtain ⟨d, hd⟩ := shows_run laws hvalid h turns id
    obtain ⟨r, rfl⟩ := OutboxDelivery.eq_abandoned (hd.abandoned_iff.mpr habandoned)
    have hvalid' := (run_follows laws hvalid turns).1
    obtain ⟨es, d', hrun, hd', -⟩ := (run_follows laws hvalid' later).2 id _ hd
    obtain rfl := OutboxDelivery.abandoned_final hrun
    have happend : s.after repo (turns ++ later) = (s.after repo turns).after repo later :=
      Clients.run_append turns later
    rw [happend]
    exact ⟨hd'.idle fun _ => rfl, r, hd.sound.counts.1, hd.record, hd'.record⟩

end Guarantees

theorem recoverable_inMemory :
    Recoverable InMemoryWebhookOutboxRepository.repository (fun records => records.lookup)
      (.initial ∅) :=
  recoverable InMemoryWebhookOutboxRepository.laws (fun _ _ h => nomatch h)
    (fun id => ⟨.absent, shows_initial rfl id⟩)
    fun order _ _ _ _ hr => InMemoryWebhookOutboxRepository.offers order hr

/-- In the in-memory and in the SQL repository, for every sequence of worker runs, failing calls
and crashes. -/
theorem outbox_recoverable :
    Recoverable InMemoryWebhookOutboxRepository.repository (fun records => records.lookup)
        (.initial ∅) ∧
      ∀ collation, Recoverable (SqlxWebhookOutboxRepository.repository collation)
        SqlxWebhookOutboxRepository.view (.initial ∅) := by
  refine ⟨recoverable_inMemory, fun collation => ?_⟩
  exact recoverable (SqlxWebhookOutboxRepository.laws collation)
    ⟨∅, fun _ => rfl, fun _ _ h => nomatch h⟩ (fun id => ⟨.absent, shows_initial rfl id⟩)
    fun scans _ _ _ hs hr => SqlxWebhookOutboxRepository.offers collation scans hs hr

/-- The surroundings of a step in which nothing goes wrong. -/
def StepEnv.sample (fails : Bool) : StepEnv (IterOrder WebhookOutboxRecord) where
  now := 5
  crashes := false
  fails := fails
  choice := .id _
  dispatch := fun _ => .ok ()
  computeBackoffDelay := fun _ => 0

def NewOutboxRecord.sample : NewOutboxRecord where
  record := .new 0 1 2 3 4 "intent_changed" .null (some "https://example.com/webhook")
  pending := rfl
  unattempted := rfl

/-- A record is created, claimed and sent, and the write that follows fails. -/
def unwrittenDelivery : List (Turn (OutboxRequest (IterOrder WebhookOutboxRecord))) :=
  [.call 0 (.create (.sample false) .sample), .step 0,
    .call 0 (.processOnce ⟨true, 2, 10, fun n => .sample (n == 3)⟩), .step 0, .step 0, .step 0,
    .step 0]

/-- A delivery whose outcome cannot be written stays claimed. -/
theorem outbox_strands :
    ¬ NeverStranded InMemoryWebhookOutboxRepository.repository (fun records => records.lookup)
      (.initial ∅) := by
  intro h
  have habandoned : (OutboxClients.after InMemoryWebhookOutboxRepository.repository
      (.initial ∅) unwrittenDelivery).Abandoned 1 := by
    have hany : ((OutboxClients.after InMemoryWebhookOutboxRepository.repository (.initial ∅)
        unwrittenDelivery).store.log.any fun
          | .abandoned id => id = 1
          | .replayed _ | .dispatched _ => false) = true := by
      decide +kernel
    obtain ⟨e, hmem, he⟩ := List.any_eq_true.mp hany
    cases e with
    | abandoned id =>
      obtain rfl : id = 1 := of_decide_eq_true he
      exact hmem
    | replayed id | dispatched record => cases he
  obtain ⟨hidle, r, hstatus, hr, -⟩ :=
    recoverable_inMemory.abandoned unwrittenDelivery [] 1 habandoned
  rcases h unwrittenDelivery 1 r hr hidle with hp | hd | hf
  · exact absurd (hstatus.symm.trans hp) (by decide)
  · exact absurd (hstatus.symm.trans hd) (by decide)
  · exact absurd (hstatus.symm.trans hf) (by decide)

end IntentRebase
