import IntentRebase.Webhook.Dispatch
import IntentRebase.Webhook.PropagationSqlx

/-! The signals after an apply: a run tells the propagation records of an intent of its new version,
and delivers it to the subscriptions. The runs of several applies overlap: each is a call of many
steps, and between two of them the others go on. -/

namespace IntentRebase

open Kit

/-- What the runs for one intent share. The order in which the repository scans is an argument. -/
structure SignalSystem (ρ σ ι γ : Type) where
  repo : γ → PropagationRecordRepository ρ
  tenantId : Uuid
  intentId : Uuid
  subscriptions : SubscriptionStore
  rlsPool : Bool
  outboxRepo : Option (ι → WebhookOutboxRepository σ)
  timeText : DateTime → String

/-- A run for a version, with what the surroundings decide in it. A call with a fault is answered
by it and changes nothing. -/
structure SignalRun (ι γ : Type) where
  version : Int32
  deliveryEnabled : Bool
  listOrder : γ
  listFault : Option IntentRebaseError
  signalAt : Nat → DateTime
  signalFault : Nat → Option IntentRebaseError
  relistOrder : γ
  relistFault : Option IntentRebaseError
  resolveOrder : IterOrder WebhookSubscriptionRecord
  resolveFault : Option IntentRebaseError
  env : Nat → DispatchEnv ι
  attemptFault : Nat → Option IntentRebaseError
  outcomeFault : Nat → Option IntentRebaseError

/-- The stores, with the deliveries that have succeeded: to which subscription, of which version. -/
structure SignalStore (ρ σ : Type) extends DispatchStores ρ σ where
  delivered : List (WebhookSubscription × Int32)

/-- A delivery under way: the place in the loop, the subscription with its record, and the rest. -/
structure OpenDelivery where
  index : Nat
  records : List PropagationRecord
  record : PropagationRecord
  sub : WebhookSubscription
  subs : List WebhookSubscription

/-- What a run does next. -/
inductive SignalStage where
  | list
  | signal (index : Nat) (records : List PropagationRecord)
  | relist
  | resolve (records : List PropagationRecord)
  | attempt (index : Nat) (records : List PropagationRecord) (subs : List WebhookSubscription)
  | queue (d : OpenDelivery) (deliveryAttemptCount : Int32)
  | send (d : OpenDelivery) (deliveryAttemptCount : Int32)
  | outcome (d : OpenDelivery) (answer : WebhookSendAnswer)

namespace SignalSystem

variable {ρ σ ι γ : Type} (sys : SignalSystem ρ σ ι γ) (run : SignalRun ι γ)

/-- The resolver, which finds no subscription where there is no pool. -/
def resolver : WebhookSubscriptionResolver :=
  if sys.rlsPool then
    SqlxWebhookSubscriptionResolver.resolveByIntent sys.subscriptions run.resolveOrder
  else EmptyWebhookSubscriptionResolver.resolveByIntent

/-- The dispatch at the end of a run. -/
def call : DispatchCall ρ σ ι where
  repo := sys.repo run.relistOrder
  resolver := sys.resolver run
  tenantId := sys.tenantId
  intentId := sys.intentId
  version := run.version
  outboxRepo := sys.outboxRepo
  timeText := sys.timeText
  env := run.env

/-- One step of a run, and what it does next. -/
def step : SignalStage → SignalStore ρ σ → Option SignalStage × SignalStore ρ σ
  | .list, s =>
    match run.listFault, (sys.repo run.listOrder).listByIntent s.propagation sys.intentId
        sys.tenantId with
    | none, .ok (record :: records) => (some (.signal 0 (record :: records)), s)
    | none, .ok [] | none, .error _ | some _, _ => (none, s)
  | .signal _ [], s => (if run.deliveryEnabled then some .relist else none, s)
  | .signal i (record :: records), s =>
    let propagation :=
      match run.signalFault i with
      | some _ => s.propagation
      | none =>
        ((sys.repo run.listOrder).updateStatus s.propagation (run.signalAt i) record.id
          sys.tenantId .pending run.version).2
    (some (.signal (i + 1) records), { s with propagation })
  | .relist, s =>
    match run.relistFault, (sys.call run).repo.listByIntent s.propagation sys.intentId
        sys.tenantId with
    | none, .ok records => (some (.resolve records), s)
    | none, .error _ | some _, _ => (none, s)
  | .resolve records, s =>
    match run.resolveFault, (sys.call run).resolver sys.tenantId sys.intentId with
    | none, .ok subscriptions => (some (.attempt 0 records subscriptions), s)
    | none, .error _ | some _, _ => (none, s)
  | .attempt _ _ [], s => (none, s)
  | .attempt i records (sub :: subs), s =>
    match DispatchCall.recordFor records sub, run.attemptFault i with
    | none, _ | some _, some _ => (some (.attempt (i + 1) records subs), s)
    | some record, none =>
      match (sys.call run).repo.recordDeliveryAttempt s.propagation (run.env i).attemptAt record.id
          sys.tenantId with
      | (.error _, propagation) => (some (.attempt (i + 1) records subs), { s with propagation })
      | (.ok updated, propagation) =>
        (some (.queue ⟨i, records, record, sub, subs⟩ updated.deliveryAttemptCount),
          { s with propagation })
  | .queue d deliveryAttemptCount, s =>
    let payload := (sys.call run).payload (run.env d.index) d.sub deliveryAttemptCount
    let (_, outbox) := (sys.call run).queue (run.env d.index) s.outbox
      ((sys.call run).outboxRecord (run.env d.index) d.sub payload)
    (some (.send d deliveryAttemptCount), { s with outbox })
  | .send d deliveryAttemptCount, s =>
    let payload := (sys.call run).payload (run.env d.index) d.sub deliveryAttemptCount
    let (_, answer) := sendWebhookWithRetries (run.env d.index).sending d.sub.webhookUrl payload
      (.new payload.deliveryId)
    let delivered :=
      if answer = .ok .success then s.delivered ++ [(d.sub, run.version)] else s.delivered
    (some (.outcome d answer), { s with delivered })
  | .outcome d answer, s =>
    let propagation :=
      match run.outcomeFault d.index with
      | some _ => s.propagation
      | none =>
        (sys.call run).recordOutcome (run.env d.index).outcomeAt s.propagation d.record.id answer
    (some (.attempt (d.index + 1) d.records d.subs), { s with propagation })

/-- The runs as calls on the stores. -/
def calls : Calls (SignalStore ρ σ) (SignalRun ι γ) (SignalRun ι γ × SignalStage) Unit where
  first run := (run, .list)
  step := fun (run, stage) s =>
    match sys.step run stage s with
    | (some stage, s) => (.more (run, stage), s)
    | (none, s) => (.done (), s)

section Uninterrupted

/-- The records told of the version, one after the other. -/
def signalAll : Nat → List PropagationRecord → ρ → ρ
  | _, [], propagation => propagation
  | i, record :: records, propagation =>
    signalAll (i + 1) records <|
      match run.signalFault i with
      | some _ => propagation
      | none =>
        ((sys.repo run.listOrder).updateStatus propagation (run.signalAt i) record.id
          sys.tenantId .pending run.version).2

/-- A run that no other interrupts. -/
def createPropagationSignalsAfterApplyInner (s : DispatchStores ρ σ) : DispatchStores ρ σ :=
  match run.listFault, (sys.repo run.listOrder).listByIntent s.propagation sys.intentId
      sys.tenantId with
  | none, .ok (record :: records) =>
    let s := { s with propagation := sys.signalAll run 0 (record :: records) s.propagation }
    if run.deliveryEnabled then ((sys.call run).dispatchWebhooksForIntentWithOutbox s).2 else s
  | none, .ok [] | none, .error _ | some _, _ => s

/-- The database answers the dispatch of a run. -/
structure Served (run : SignalRun ι γ) : Prop where
  relist : run.relistFault = none
  resolve : run.resolveFault = none
  attempt : ∀ i, run.attemptFault i = none
  outcome : ∀ i, run.outcomeFault i = none

/-- The rest of a run that no other interrupts ends in some stores. -/
def Ends (stage : SignalStage) (s : SignalStore ρ σ) (stores : DispatchStores ρ σ) : Prop :=
  ∃ fuel s', sys.calls.finish fuel (run, stage) s = some ((), s') ∧ s'.toDispatchStores = stores

variable {sys run} {stage stage' : SignalStage} {s s' : SignalStore ρ σ}
  {stores : DispatchStores ρ σ}

theorem Ends.more (hstep : sys.step run stage s = (some stage', s'))
    (h : sys.Ends run stage' s' stores) : sys.Ends run stage s stores := by
  obtain ⟨fuel, s'', hfinish, hstores⟩ := h
  have hcall : sys.calls.step (run, stage) s = (.more (run, stage'), s') := by
    simp only [calls, hstep]
  exact ⟨fuel + 1, s'', (Calls.finish_more hcall fuel).trans hfinish, hstores⟩

theorem Ends.done (hstep : sys.step run stage s = (none, s')) (h : s'.toDispatchStores = stores) :
    sys.Ends run stage s stores := by
  have hcall : sys.calls.step (run, stage) s = (.done (), s') := by simp only [calls, hstep]
  exact ⟨1, s', Calls.finish_done hcall 0, h⟩

/-- A round of the loop is that of the dispatch. -/
theorem ends_serve (hserved : Served run) {i : Nat} {records : List PropagationRecord}
    {sub : WebhookSubscription} {subs : List WebhookSubscription}
    (h : ∀ s', s'.toDispatchStores =
      ((sys.call run).serve (run.env i) records sub s.toDispatchStores).2 →
        sys.Ends run (.attempt (i + 1) records subs) s' stores) :
    sys.Ends run (.attempt i records (sub :: subs)) s stores := by
  unfold DispatchCall.serve at h
  cases hrecord : DispatchCall.recordFor records sub with
  | none =>
    rw [hrecord] at h
    refine .more ?_ (h s rfl)
    simp only [step, hrecord]
  | some record =>
    cases hattempt : (sys.call run).repo.recordDeliveryAttempt s.propagation (run.env i).attemptAt
        record.id sys.tenantId with
    | mk answer propagation =>
      have hattempt' : (sys.call run).repo.recordDeliveryAttempt s.propagation
          (run.env i).attemptAt record.id (sys.call run).tenantId = (answer, propagation) :=
        hattempt
      simp only [hrecord, hattempt'] at h
      cases answer with
      | error e =>
        refine .more ?_ (h { s with propagation } rfl)
        simp only [step, hrecord, hserved.attempt i, hattempt]
      | ok updated =>
        let d : OpenDelivery := ⟨i, records, record, sub, subs⟩
        have hfirst : sys.step run (.attempt i records (sub :: subs)) s =
            (some (.queue d updated.deliveryAttemptCount), { s with propagation }) := by
          simp only [step, hrecord, hserved.attempt i, hattempt, d]
        refine .more hfirst (.more rfl (.more rfl (.more rfl (h _ ?_))))
        simp only [hserved.outcome, d]
        rfl

theorem ends_attempt (hserved : Served run) (records : List PropagationRecord) (i : Nat)
    (subs : List WebhookSubscription) (s : SignalStore ρ σ) :
    sys.Ends run (.attempt i records subs) s
      ((sys.call run).serveAll records (fun n => run.env (i + n)) subs s.toDispatchStores).2 := by
  induction subs generalizing i s with
  | nil => exact .done rfl rfl
  | cons sub subs ih =>
    have henv : (fun n => run.env (i + (n + 1))) = fun n => run.env (i + 1 + n) := by
      funext n
      rw [Nat.add_right_comm, Nat.add_assoc]
    refine ends_serve hserved fun s' hs' => ?_
    have hrest := ih (i + 1) s'
    rw [hs', ← henv] at hrest
    exact hrest

theorem ends_relist (hserved : Served run) (s : SignalStore ρ σ) : sys.Ends run .relist s
    ((sys.call run).dispatchWebhooksForIntentWithOutbox s.toDispatchStores).2 := by
  unfold DispatchCall.dispatchWebhooksForIntentWithOutbox
  cases hlist : (sys.call run).repo.listByIntent s.propagation (sys.call run).intentId
      (sys.call run).tenantId with
  | error e =>
    have hlist' : (sys.call run).repo.listByIntent s.propagation sys.intentId sys.tenantId =
        .error e := hlist
    exact .done (by simp only [step, hserved.relist, hlist']) rfl
  | ok records =>
    have hlist' : (sys.call run).repo.listByIntent s.propagation sys.intentId sys.tenantId =
        .ok records := hlist
    have hrelist : sys.step run .relist s = (some (.resolve records), s) := by
      simp only [step, hserved.relist, hlist']
    refine .more hrelist ?_
    cases hresolve : (sys.call run).resolver (sys.call run).tenantId (sys.call run).intentId with
    | error e =>
      have hresolve' : (sys.call run).resolver sys.tenantId sys.intentId = .error e := hresolve
      exact .done (by simp only [step, hserved.resolve, hresolve']) rfl
    | ok subs =>
      have hresolve' : (sys.call run).resolver sys.tenantId sys.intentId = .ok subs := hresolve
      have hstep : sys.step run (.resolve records) s = (some (.attempt 0 records subs), s) := by
        simp only [step, hserved.resolve, hresolve']
      refine .more hstep ?_
      have hattempt : sys.Ends run (.attempt 0 records subs) s ((sys.call run).serveAll records
        (fun n => run.env (0 + n)) subs s.toDispatchStores).2 := ends_attempt hserved records 0 subs s
      simp only [Nat.zero_add] at hattempt
      exact hattempt

theorem ends_signal (hserved : Served run) (i : Nat) (records : List PropagationRecord)
    (s : SignalStore ρ σ) :
    let told : DispatchStores ρ σ :=
      { s.toDispatchStores with propagation := sys.signalAll run i records s.propagation }
    sys.Ends run (.signal i records) s
      (if run.deliveryEnabled then ((sys.call run).dispatchWebhooksForIntentWithOutbox told).2
      else told) := by
  induction records generalizing i s with
  | nil =>
    cases hdelivery : run.deliveryEnabled with
    | false => exact .done (by simp only [step, hdelivery, Bool.false_eq_true, if_false]) rfl
    | true =>
      exact .more (by simp only [step, hdelivery, if_true]) (ends_relist hserved s)
  | cons record records ih => exact .more rfl (ih (i + 1) _)

/-- Without interruption a run tells the records and dispatches. -/
theorem ends_list (hserved : Served run) (s : SignalStore ρ σ) : sys.Ends run .list s
    (sys.createPropagationSignalsAfterApplyInner run s.toDispatchStores) := by
  unfold createPropagationSignalsAfterApplyInner
  cases hfault : run.listFault with
  | some e => exact .done (by simp only [step, hfault]) rfl
  | none =>
    cases hlist : (sys.repo run.listOrder).listByIntent s.propagation sys.intentId
        sys.tenantId with
    | error e => exact .done (by simp only [step, hfault, hlist]) rfl
    | ok records =>
      cases records with
      | nil => exact .done (by simp only [step, hfault, hlist]) rfl
      | cons record records =>
        have hstep : sys.step run .list s = (some (.signal 0 (record :: records)), s) := by
          simp only [step, hfault, hlist]
        exact .more hstep (ends_signal hserved 0 (record :: records) s)

end Uninterrupted

end SignalSystem

end IntentRebase
