import IntentRebase.Kit.TwoRuns
import IntentRebase.Webhook.PropagationSignals

/-! What the propagation records say of the deliveries: when the version of a record never goes
back, and an acknowledged one has been delivered to all the active subscriptions of its system. -/

namespace IntentRebase

open Kit

variable {ρ σ ι γ : Type}

namespace SignalSystem

variable (sys : SignalSystem ρ σ ι γ)

/-- The runs in flight, on the stores. -/
abbrev Flights (ρ σ ι γ : Type) := Clients (SignalStore ρ σ) (SignalRun ι γ × SignalStage)

/-- The flights after some turns. -/
def after (s : Flights ρ σ ι γ) (turns : List (Turn (SignalRun ι γ))) : Flights ρ σ ι γ :=
  Clients.run sys.calls s turns

/-- An active subscription of the intent for a downstream system. -/
def Awaits (downstreamSystemId : String) (sub : WebhookSubscription) : Prop :=
  (∃ id row, sys.subscriptions.lookup id = some row ∧ row.tenantId = sys.tenantId ∧
    row.intentId = sys.intentId ∧ sub = .ofRow row) ∧
      sub.status = "active" ∧ sub.downstreamSystemId.getD "" = downstreamSystemId

variable (view : ρ → PropagationView)

/-- An acknowledged record of the intent stands for deliveries of its version, or a later one, to
every active subscription of its system. -/
def Vouched (delivered : List (WebhookSubscription × Int32)) (r : PropagationRecord) : Prop :=
  r.tenantId = sys.tenantId → r.intentId = sys.intentId → r.status = .acknowledged →
    ∀ sub, sys.Awaits r.downstreamSystemId sub →
      ∃ version, (sub, version) ∈ delivered ∧ r.lastSeenVersion ≤ version

def Truthful (s : SignalStore ρ σ) : Prop :=
  ∀ id r, view s.propagation id = some r → sys.Vouched s.delivered r

/-- In every state of a run of turns the records tell the truth, and between any two of them no
version goes back. -/
structure TruthfulRun (s : Flights ρ σ ι γ) (turns : List (Turn (SignalRun ι γ))) : Prop where
  truthful : ∀ before after, turns = before ++ after →
    sys.Truthful view (sys.after s before).store
  monotone : ∀ before between after, turns = before ++ between ++ after → ∀ id r,
    view (sys.after s before).store.propagation id = some r →
      ∃ r', view (sys.after s (before ++ between)).store.propagation id = some r' ∧
        r.lastSeenVersion ≤ r'.lastSeenVersion

/-- The step writes no earlier version into a record than is there, and acknowledges a record only
if that is done already, or of no later version than the run's, for its only subscription. -/
def OrderlyStep (run : SignalRun ι γ) (s : SignalStore ρ σ) : SignalStage → Prop
  | .signal i (record :: _) => run.signalFault i = none →
    ∀ r, view s.propagation record.id = some r → r.lastSeenVersion ≤ run.version
  | .outcome d (.ok .success) => run.outcomeFault d.index = none →
    ∀ r, view s.propagation d.record.id = some r → r.status = .acknowledged ∨
      (r.lastSeenVersion ≤ run.version ∧ ∀ sub, sys.Awaits r.downstreamSystemId sub → sub = d.sub)
  | _ => True

/-- Each turn of a sequence is orderly in the state before it. -/
def OrderlyRun (s : Flights ρ σ ι γ) (turns : List (Turn (SignalRun ι γ))) : Prop :=
  ∀ before client after run stage, turns = before ++ .step client :: after →
    (sys.after s before).stage client = some (run, stage) →
      sys.OrderlyStep view run (sys.after s before).store stage

section Steps

/-- What a step does to the records. -/
inductive Effect (run : SignalRun ι γ) (s s' : SignalStore ρ σ) : SignalStage → Prop
  | quiet (stage : SignalStage) (h : view s'.propagation = view s.propagation) :
      Effect run s s' stage
  | signaled {i : Nat} {record : PropagationRecord} {records : List PropagationRecord}
      (hfault : run.signalFault i = none)
      (h : Rewrites view s.propagation s'.propagation record.id
        fun _ r' => r'.status = .pending ∧ r'.lastSeenVersion = run.version) :
      Effect run s s' (.signal i (record :: records))
  | attempted (stage : SignalStage) (id : Uuid)
      (h : Rewrites view s.propagation s'.propagation id
        fun r r' => r'.status = r.status ∧ r'.lastSeenVersion = r.lastSeenVersion) :
      Effect run s s' stage
  | acknowledged {d : OpenDelivery} (hfault : run.outcomeFault d.index = none)
      (h : Rewrites view s.propagation s'.propagation d.record.id
        fun r r' => r'.status = .acknowledged ∧ r'.lastSeenVersion = r.lastSeenVersion) :
      Effect run s s' (.outcome d (.ok .success))
  | failed {d : OpenDelivery} {answer : WebhookSendAnswer}
      (h : Rewrites view s.propagation s'.propagation d.record.id
        fun r r' => r'.status = .failed ∧ r'.lastSeenVersion = r.lastSeenVersion) :
      Effect run s s' (.outcome d answer)

variable {sys view} {run : SignalRun ι γ} {s s' : SignalStore ρ σ}
  {stage : SignalStage}

theorem outcome_effect (laws : ∀ order, PropagationLaws (sys.repo order) view) (d : OpenDelivery)
    (answer : WebhookSendAnswer) :
    Effect view run s (sys.step run (.outcome d answer) s).2 (.outcome d answer) := by
  simp only [step]
  cases hfault : run.outcomeFault d.index with
  | some e => exact .quiet _ rfl
  | none =>
    cases answer with
    | ok result =>
      cases result with
      | success =>
        exact .acknowledged hfault ((laws run.relistOrder).recordDeliveryOutcome s.propagation
          (run.env d.index).outcomeAt d.record.id sys.tenantId .acknowledged none)
      | nonRetryableFailure reason =>
        exact .failed ((laws run.relistOrder).recordDeliveryOutcome s.propagation
          (run.env d.index).outcomeAt d.record.id sys.tenantId .failed
          (some (sanitizeFailureReason reason)))
      | retryableFailure reason => exact .quiet _ rfl
      | rateLimited after => exact .quiet _ rfl
    | error e =>
      cases e
      exact .quiet _ rfl

theorem step_effect (laws : ∀ order, PropagationLaws (sys.repo order) view) (stage : SignalStage) :
    Effect view run s (sys.step run stage s).2 stage := by
  cases stage with
  | list =>
    simp only [step]
    split <;> exact .quiet _ rfl
  | signal i records =>
    cases records with
    | nil => exact .quiet _ rfl
    | cons record records =>
      simp only [step]
      cases hfault : run.signalFault i with
      | some e => exact .quiet _ rfl
      | none =>
        exact .signaled hfault ((laws run.listOrder).updateStatus s.propagation (run.signalAt i)
          record.id sys.tenantId .pending run.version)
  | relist =>
    simp only [step]
    split <;> exact .quiet _ rfl
  | resolve records =>
    simp only [step]
    split <;> exact .quiet _ rfl
  | attempt i records subs =>
    cases subs with
    | nil => exact .quiet _ rfl
    | cons sub subs =>
      simp only [step]
      split
      · exact .quiet _ rfl
      · exact .quiet _ rfl
      · next record _ _ =>
        have hattempt : Rewrites view s.propagation ((sys.call run).repo.recordDeliveryAttempt
            s.propagation (run.env i).attemptAt record.id sys.tenantId).2 record.id _ :=
          (laws run.relistOrder).recordDeliveryAttempt s.propagation (run.env i).attemptAt
            record.id sys.tenantId
        split
        · next hresult =>
          rw [hresult] at hattempt
          exact .attempted _ record.id hattempt
        · next hresult =>
          rw [hresult] at hattempt
          exact .attempted _ record.id hattempt
  | queue d count => exact .quiet _ rfl
  | send d count => exact .quiet _ rfl
  | outcome d answer => exact outcome_effect laws d answer

/-- Deliveries are not forgotten. -/
theorem step_delivered (stage : SignalStage) {entry : WebhookSubscription × Int32}
    (h : entry ∈ s.delivered) : entry ∈ (sys.step run stage s).2.delivered := by
  cases stage with
  | list | relist | resolve records =>
    simp only [step]
    split <;> exact h
  | signal i records => cases records <;> exact h
  | attempt i records subs =>
    cases subs with
    | nil => exact h
    | cons sub subs =>
      simp only [step]
      split
      · exact h
      · exact h
      · split <;> exact h
  | queue d count => exact h
  | send d count =>
    simp only [step]
    split
    · exact List.mem_append_left _ h
    · exact h
  | outcome d answer => exact h

/-- A run that is about to acknowledge has delivered its version. -/
theorem step_sent {d : OpenDelivery}
    (h : (sys.step run stage s).1 = some (.outcome d (.ok .success))) :
    (d.sub, run.version) ∈ (sys.step run stage s).2.delivered := by
  cases stage with
  | send d' count =>
    simp only [step, Option.some.injEq, SignalStage.outcome.injEq] at h ⊢
    obtain ⟨rfl, hanswer⟩ := h
    rw [if_pos hanswer]
    exact List.mem_append_right _ (List.mem_singleton_self _)
  | list | relist | resolve records =>
    simp only [step] at h
    split at h <;> cases h
  | signal i records =>
    cases records with
    | nil =>
      simp only [step] at h
      split at h <;> cases h
    | cons record records => cases h
  | attempt i records subs =>
    cases subs with
    | nil => cases h
    | cons sub subs =>
      simp only [step] at h
      split at h
      · cases h
      · cases h
      · split at h <;> cases h
  | queue d' count => cases h
  | outcome d' answer => cases h

end Steps

section Records

variable {sys view} {s s' : SignalStore ρ σ} {id : Uuid}
  {change : PropagationRecord → PropagationRecord → Prop}

theorem Vouched.mono {delivered delivered' : List (WebhookSubscription × Int32)}
    {r : PropagationRecord} (h : sys.Vouched delivered r) (hmore : delivered ⊆ delivered') :
    sys.Vouched delivered' r := by
  intro htenant hintent hstatus sub hsub
  obtain ⟨version, hmem, hle⟩ := h htenant hintent hstatus sub hsub
  exact ⟨version, hmore hmem, hle⟩

/-- The records stay truthful if the one that is changed does. -/
theorem Truthful.rewrites (h : sys.Truthful view s) (hmore : s.delivered ⊆ s'.delivered)
    (hwrite : Rewrites view s.propagation s'.propagation id change)
    (hnew : ∀ r r', view s.propagation id = some r → r'.tenantId = r.tenantId →
      r'.intentId = r.intentId → r'.downstreamSystemId = r.downstreamSystemId → change r r' →
        sys.Vouched s'.delivered r') : sys.Truthful view s' := by
  intro k r hr
  rcases hwrite with hsame | ⟨old, new, hold, hview, ⟨htenant, hintent, hsystem⟩, hchange⟩
  · exact (h k r (hsame ▸ hr)).mono hmore
  · rw [hview, Function.update_apply] at hr
    split at hr
    · obtain rfl := Option.some.inj hr
      exact hnew old new hold htenant hintent hsystem hchange
    · exact (h k r hr).mono hmore

/-- No version goes back from one store to another. -/
def Advances (view : ρ → PropagationView) (s s' : SignalStore ρ σ) : Prop :=
  ∀ id r, view s.propagation id = some r →
    ∃ r', view s'.propagation id = some r' ∧ r.lastSeenVersion ≤ r'.lastSeenVersion

theorem Advances.refl (s : SignalStore ρ σ) : Advances view s s :=
  fun _ r h => ⟨r, h, Int32.le_refl _⟩

theorem Advances.trans {s s' s'' : SignalStore ρ σ} (h : Advances view s s')
    (h' : Advances view s' s'') : Advances view s s'' := by
  intro id r hr
  obtain ⟨r', hr', hle⟩ := h id r hr
  obtain ⟨r'', hr'', hle'⟩ := h' id r' hr'
  exact ⟨r'', hr'', Int32.le_trans hle hle'⟩

theorem Advances.rewrites (hwrite : Rewrites view s.propagation s'.propagation id change)
    (hchange : ∀ r r', view s.propagation id = some r → change r r' →
      r.lastSeenVersion ≤ r'.lastSeenVersion) : Advances view s s' := by
  intro k r hr
  rcases hwrite with hsame | ⟨old, new, hold, hview, -, hnew⟩
  · exact ⟨r, hsame ▸ hr, Int32.le_refl _⟩
  · rw [hview]
    by_cases hk : k = id
    · subst hk
      obtain rfl := Option.some.inj (hold.symm.trans hr)
      exact ⟨new, Function.update_self .., hchange _ _ hr hnew⟩
    · exact ⟨r, by rw [Function.update_of_ne hk, hr], Int32.le_refl _⟩

end Records

section Runs

variable {sys view} {run : SignalRun ι γ} {s s' : SignalStore ρ σ} {stage : SignalStage}

/-- What an orderly step keeps, once the deliveries that it builds on are there. -/
theorem step_truthful (h : sys.Truthful view s) (hmore : s.delivered ⊆ s'.delivered)
    (horderly : sys.OrderlyStep view run s stage) (heffect : Effect view run s s' stage)
    (hsent : ∀ d, stage = .outcome d (.ok .success) → (d.sub, run.version) ∈ s.delivered) :
    sys.Truthful view s' := by
  cases heffect with
  | quiet stage hsame => exact fun id r hr => (h id r (hsame ▸ hr)).mono hmore
  | signaled hfault hwrite =>
    refine h.rewrites hmore hwrite fun r r' _ _ _ _ ⟨hstatus, _⟩ _ _ hacknowledged => ?_
    rw [hstatus] at hacknowledged
    cases hacknowledged
  | attempted stage id hwrite =>
    refine h.rewrites hmore hwrite fun r r' hr htenant hintent hsystem ⟨hstatus, hversion⟩ => ?_
    have hold := (h id r hr).mono hmore
    unfold Vouched at hold ⊢
    rwa [htenant, hintent, hsystem, hstatus, hversion]
  | @acknowledged d hfault hwrite =>
    refine h.rewrites hmore hwrite fun r r' hr htenant hintent hsystem ⟨_, hversion⟩ => ?_
    rcases horderly hfault r hr with hdone | ⟨hle, honly⟩
    · intro htenant' hintent' _
      rw [hsystem, hversion]
      exact (h _ r hr).mono hmore (htenant ▸ htenant') (hintent ▸ hintent') hdone
    · intro _ _ _ sub hsub
      rw [hsystem] at hsub
      obtain rfl := honly sub hsub
      exact ⟨run.version, hmore (hsent d rfl), hversion ▸ hle⟩
  | failed hwrite =>
    refine h.rewrites hmore hwrite fun r r' _ _ _ _ ⟨hstatus, _⟩ _ _ hacknowledged => ?_
    rw [hstatus] at hacknowledged
    cases hacknowledged

theorem step_advances (horderly : sys.OrderlyStep view run s stage)
    (heffect : Effect view run s s' stage) : Advances view s s' := by
  cases heffect with
  | quiet stage hsame => exact fun id r hr => ⟨r, hsame ▸ hr, Int32.le_refl _⟩
  | signaled hfault hwrite =>
    exact .rewrites hwrite fun r r' hr hnew => hnew.2 ▸ horderly hfault r hr
  | attempted stage id hwrite =>
    exact .rewrites hwrite fun r r' _ hnew => hnew.2 ▸ Int32.le_refl _
  | acknowledged hfault hwrite =>
    exact .rewrites hwrite fun r r' _ hnew => hnew.2 ▸ Int32.le_refl _
  | failed hwrite => exact .rewrites hwrite fun r r' _ hnew => hnew.2 ▸ Int32.le_refl _

/-- The records are truthful, and each run that is about to acknowledge has delivered. -/
structure Sound (sys : SignalSystem ρ σ ι γ) (view : ρ → PropagationView)
    (s : Flights ρ σ ι γ) : Prop where
  truthful : sys.Truthful view s.store
  sent : ∀ client run d, s.stage client = some (run, .outcome d (.ok .success)) →
    (d.sub, run.version) ∈ s.store.delivered

theorem calls_step {stage : SignalStage} {s s' : SignalStore ρ σ}
    {progress : Progress (SignalRun ι γ × SignalStage) Unit}
    (h : sys.calls.step (run, stage) s = (progress, s')) :
    s' = (sys.step run stage s).2 ∧ ∀ next, progress = .more next →
      next.1 = run ∧ (sys.step run stage s).1 = some next.2 := by
  simp only [calls] at h
  split at h
  · next stage' store hstep =>
    obtain ⟨rfl, rfl⟩ := Prod.mk.inj h
    rw [hstep]
    exact ⟨rfl, fun next hnext => by cases hnext; exact ⟨rfl, rfl⟩⟩
  · next store hstep =>
    obtain ⟨rfl, rfl⟩ := Prod.mk.inj h
    rw [hstep]
    exact ⟨rfl, fun next hnext => by cases hnext⟩

theorem Sound.step (laws : ∀ order, PropagationLaws (sys.repo order) view) {s : Flights ρ σ ι γ}
    (h : Sound sys view s) {client : Nat} {stage : SignalStage}
    (hstage : s.stage client = some (run, stage))
    (horderly : sys.OrderlyStep view run s.store stage) :
    sys.Truthful view (sys.step run stage s.store).2 ∧
      Advances view s.store (sys.step run stage s.store).2 := by
  have heffect : Effect view run s.store (sys.step run stage s.store).2 stage :=
    step_effect laws stage
  refine ⟨step_truthful h.truthful (fun _ => step_delivered stage) horderly heffect ?_,
    step_advances horderly heffect⟩
  rintro d rfl
  exact h.sent client run d hstage

/-- An orderly turn keeps the flights sound, and no version goes back in it. -/
theorem turn_sound (laws : ∀ order, PropagationLaws (sys.repo order) view) {s : Flights ρ σ ι γ}
    (h : Sound sys view s) (t : Turn (SignalRun ι γ))
    (horderly : ∀ client run stage, t = .step client → s.stage client = some (run, stage) →
      sys.OrderlyStep view run s.store stage) :
    Sound sys view (Clients.turn sys.calls s t) ∧
      Advances view s.store (Clients.turn sys.calls s t).store := by
  have htook := Clients.took sys.calls s t
  generalize Clients.turn sys.calls s t = s' at htook ⊢
  generalize Clients.answer sys.calls s t = answered at htook
  cases htook with
  | idle => exact ⟨h, .refl _⟩
  | @start client request hfree =>
    refine ⟨⟨h.truthful, fun c run d hstage => ?_⟩, .refl _⟩
    rcases Clients.update_some hstage with hnew | hold
    · cases hnew
    · exact h.sent c run d hold
  | @more client k k' store hstage hstep =>
    obtain ⟨run, stage⟩ := k
    obtain ⟨rfl, hnext⟩ := calls_step hstep
    obtain ⟨hrun, hstage'⟩ := hnext k' rfl
    have hkept := h.step laws hstage (horderly client run stage rfl hstage)
    refine ⟨⟨hkept.1, fun c run' d hflight => ?_⟩, hkept.2⟩
    rcases Clients.update_some hflight with hnew | hold
    · obtain rfl := Option.some.inj hnew
      subst hrun
      exact step_sent hstage'
    · exact step_delivered stage (h.sent c run' d hold)
  | @done client k a store hstage hstep =>
    obtain ⟨run, stage⟩ := k
    obtain ⟨rfl, -⟩ := calls_step hstep
    have hkept := h.step laws hstage (horderly client run stage rfl hstage)
    refine ⟨⟨hkept.1, fun c run' d hflight => ?_⟩, hkept.2⟩
    rcases Clients.update_some hflight with hnew | hold
    · cases hnew
    · exact step_delivered stage (h.sent c run' d hold)

/-- Orderly turns keep the flights sound, and no version goes back over them. -/
theorem run_sound (laws : ∀ order, PropagationLaws (sys.repo order) view) {s : Flights ρ σ ι γ}
    (h : Sound sys view s) {turns : List (Turn (SignalRun ι γ))}
    (horderly : sys.OrderlyRun view s turns) :
    Sound sys view (sys.after s turns) ∧ Advances view s.store (sys.after s turns).store := by
  induction turns generalizing s with
  | nil => exact ⟨h, .refl _⟩
  | cons t turns ih =>
    have hturn := turn_sound laws h t fun client run stage ht hstage =>
      horderly [] client turns run stage (by subst ht; rfl) hstage
    have hrest := ih hturn.1 fun before client after run stage hturns hstage =>
      horderly (t :: before) client after run stage (by subst hturns; rfl) hstage
    exact ⟨hrest.1, hturn.2.trans hrest.2⟩

theorem after_append (s : Flights ρ σ ι γ) (turns turns' : List (Turn (SignalRun ι γ))) :
    sys.after s (turns ++ turns') = sys.after (sys.after s turns) turns' :=
  Clients.run_append turns turns'

theorem OrderlyRun.append {s : Flights ρ σ ι γ} {turns turns' : List (Turn (SignalRun ι γ))}
    (h : sys.OrderlyRun view s (turns ++ turns')) :
    sys.OrderlyRun view s turns ∧ sys.OrderlyRun view (sys.after s turns) turns' := by
  constructor
  · rintro before client after run stage rfl hstage
    exact h before client (after ++ turns') run stage (by simp) hstage
  · rintro before client after run stage rfl hstage
    rw [← after_append] at hstage ⊢
    exact h (turns ++ before) client after run stage (by simp) hstage

theorem OrderlyRun.nil (s : Flights ρ σ ι γ) : sys.OrderlyRun view s [] := by
  intro before client after run stage hturns
  exact absurd hturns (List.append_ne_nil_of_right_ne_nil _ (List.cons_ne_nil _ _)).symm

theorem OrderlyRun.cons {s : Flights ρ σ ι γ} {t : Turn (SignalRun ι γ)}
    {turns : List (Turn (SignalRun ι γ))}
    (hfirst : ∀ client run stage, t = .step client → s.stage client = some (run, stage) →
      sys.OrderlyStep view run s.store stage)
    (hrest : sys.OrderlyRun view (Clients.turn sys.calls s t) turns) :
    sys.OrderlyRun view s (t :: turns) := by
  intro before client after run stage hturns hstage
  cases before with
  | nil =>
    obtain ⟨rfl, rfl⟩ := List.cons.inj hturns
    exact hfirst client run stage rfl hstage
  | cons t' before =>
    obtain ⟨rfl, rfl⟩ := List.cons.inj hturns
    exact hrest before client after run stage rfl hstage

theorem truthfulRun_of_orderly (laws : ∀ order, PropagationLaws (sys.repo order) view)
    {s : Flights ρ σ ι γ} (h : Sound sys view s) {turns : List (Turn (SignalRun ι γ))}
    (horderly : sys.OrderlyRun view s turns) : sys.TruthfulRun view s turns where
  truthful := by
    rintro before after rfl
    exact (run_sound laws h horderly.append.1).1.truthful
  monotone := by
    rintro before between after rfl
    have hfirst := horderly.append.1.append
    have hsound := (run_sound laws h hfirst.1).1
    rw [after_append]
    exact (run_sound laws hsound hfirst.2).2

end Runs

end SignalSystem

/-- The two repositories of propagation records. -/
inductive PropagationBackend where
  | inMemory
  | sqlx

namespace PropagationBackend

abbrev Store : PropagationBackend → Type
  | inMemory => PropagationStore
  | sqlx => PropagationTable

/-- What is left open of the order in which a repository reads. -/
abbrev Order : PropagationBackend → Type
  | inMemory => Unit
  | sqlx => IterOrder PropagationRow

def repo : (b : PropagationBackend) → b.Order → PropagationRecordRepository b.Store
  | inMemory => fun _ => InMemoryPropagationRecordRepository.repository
  | sqlx => SqlxPropagationRecordRepository.repository

def view : (b : PropagationBackend) → b.Store → PropagationView
  | inMemory => InMemoryPropagationRecordRepository.view
  | sqlx => SqlxPropagationRecordRepository.view

theorem laws (b : PropagationBackend) (order : b.Order) :
    PropagationLaws (b.repo order) b.view := by
  cases b with
  | inMemory => exact InMemoryPropagationRecordRepository.laws
  | sqlx => exact SqlxPropagationRecordRepository.laws order

theorem ownWrites (b : PropagationBackend) (order : b.Order) :
    OwnWrites (b.repo order) b.view := by
  cases b with
  | inMemory => exact InMemoryPropagationRecordRepository.ownWrites
  | sqlx => exact SqlxPropagationRecordRepository.ownWrites order

end PropagationBackend

/-- Orderly runs from truthful records tell the truth. -/
theorem orderlySignals_truthful {σ ι : Type} (backend : PropagationBackend)
    (sys : SignalSystem backend.Store σ ι backend.Order) (hrepo : sys.repo = backend.repo)
    (store : SignalStore backend.Store σ) (hstore : sys.Truthful backend.view store)
    (turns : List (Turn (SignalRun ι backend.Order)))
    (horderly : sys.OrderlyRun backend.view (.idle store) turns) :
    sys.TruthfulRun backend.view (.idle store) turns := by
  have hlaws : ∀ order, PropagationLaws (sys.repo order) backend.view := fun order => by
    rw [hrepo]
    exact backend.laws order
  have hsound : sys.Sound backend.view (.idle store) :=
    { truthful := hstore, sent := fun _ _ _ h => by cases h }
  exact SignalSystem.truthfulRun_of_orderly hlaws hsound horderly

namespace SignalSample

/-- The record of the only downstream system. -/
def record : PropagationRecord := .new 0 7 1 2 "billing"

/-- The row of its subscription. -/
def row : WebhookSubscriptionRecord :=
  .new 0 5 1 2 6 "https://example.com/webhook" (some "billing") ["intent_changed"]

def store : SignalStore PropagationStore Unit where
  propagation := { records := single 7 record, byIntent := single (1, 2) [7] }
  outbox := ()
  delivered := []

def system : SignalSystem PropagationStore Unit Unit Unit where
  repo := PropagationBackend.inMemory.repo
  tenantId := 1
  intentId := 2
  subscriptions := single 5 row
  rlsPool := true
  outboxRepo := none
  timeText _ := ""

/-- A run for a version, whose receiver answers at once. -/
def run (version : Int32) : SignalRun Unit Unit where
  version := version
  deliveryEnabled := true
  listOrder := ()
  listFault := none
  signalAt _ := 1
  signalFault _ := none
  relistOrder := ()
  relistFault := none
  resolveOrder := .id _
  resolveFault := none
  env _ :=
    { attemptAt := 1, payloadAt := 1, deliveryId := 3, outboxAt := 1, outboxId := 4
      createFails := false, choice := ()
      sending :=
        { send := fun _ _ _ _ => .ok .success, elapsed := fun _ => 0, random := fun _ => 0 }
      outcomeAt := 1 }
  attemptFault _ := none
  outcomeFault _ := none

theorem truthful_store : system.Truthful PropagationBackend.inMemory.view store := by
  intro id r hr _ _ hstatus
  obtain rfl := lookup_single hr
  cases hstatus

theorem calls_list (version : Int32) : system.calls.step (run version, .list) store =
    (.more (run version, .signal 0 [record]), store) := by
  have hlist : InMemoryPropagationRecordRepository.listByIntent store.propagation 2 1 =
      .ok [record] := by
    simp [InMemoryPropagationRecordRepository.listByIntent, store, orderBy]
  simp [SignalSystem.calls, SignalSystem.step, run, system, PropagationBackend.repo,
    InMemoryPropagationRecordRepository.repository, hlist]

theorem turn_list {s : SignalSystem.Flights PropagationStore Unit Unit Unit} {client : Nat}
    {version : Int32} (hstage : s.stage client = some (run version, .list))
    (hstore : s.store = store) : Clients.turn system.calls s (.step client) =
      { store, stage := Function.update s.stage client
          (some (run version, .signal 0 [record])) } := by
  rw [Clients.turn_step hstage, hstore, calls_list]
  rfl

/-- Both runs have started. -/
def started : SignalSystem.Flights PropagationStore Unit Unit Unit :=
  system.after (.idle store) [.call 0 (run 1), .call 1 (run 2)]

/-- Both runs have read the records. -/
def read : SignalSystem.Flights PropagationStore Unit Unit Unit where
  store := store
  stage := Function.update (Function.update started.stage 0 (some (run 1, .signal 0 [record]))) 1
    (some (run 2, .signal 0 [record]))

def reads : List (Turn (SignalRun Unit Unit)) :=
  [.call 0 (run 1), .call 1 (run 2), .step 0, .step 1]

theorem after_reads : system.after (.idle store) reads = read := by
  change Clients.turn system.calls (Clients.turn system.calls started (.step 0)) (.step 1) = read
  have hfirst : started.stage 0 = some (run 1, .list) := rfl
  rw [turn_list hfirst rfl]
  exact turn_list rfl rfl

/-- The version of the record after the reads and some more turns. -/
def versionAfter (turns : List (Turn (SignalRun Unit Unit))) : Option Int32 :=
  ((system.after (.idle store) (reads ++ turns)).store.propagation.records.lookup 7).map
    PropagationRecord.lastSeenVersion

theorem versionAfter_later : versionAfter [.step 1] = some 2 := by
  rw [versionAfter, SignalSystem.after_append, after_reads]
  decide

theorem versionAfter_earlier : versionAfter [.step 1, .step 0] = some 1 := by
  rw [versionAfter, SignalSystem.after_append, after_reads]
  decide

/-- Two runs that overlap. The later version is delivered first, and then the earlier one. -/
def overlapping : List (Turn (SignalRun Unit Unit)) :=
  reads ++ [.step 0, .step 1, .step 0, .step 1] ++ List.replicate 6 (.step 1) ++
    List.replicate 6 (.step 0)

/-- The condition of an orderly step, with the only subscription. -/
def orderlyAt (run : SignalRun Unit Unit) (s : SignalStore PropagationStore Unit) :
    SignalStage → Bool
  | .signal _ (record :: _) =>
    (s.propagation.records.lookup record.id).all fun r => decide (r.lastSeenVersion ≤ run.version)
  | .outcome d (.ok .success) =>
    (s.propagation.records.lookup d.record.id).all fun r => decide (r.status = .acknowledged ∨
      (r.lastSeenVersion ≤ run.version ∧ d.sub = .ofRow row))
  | _ => true

theorem orderlyStep_of_orderlyAt {run : SignalRun Unit Unit}
    {s : SignalStore PropagationStore Unit} {stage : SignalStage}
    (h : orderlyAt run s stage = true) :
    system.OrderlyStep PropagationBackend.inMemory.view run s stage := by
  unfold SignalSystem.OrderlyStep
  split
  · intro _ r hr
    have hlookup : s.propagation.records.lookup _ = some r := hr
    rw [orderlyAt, hlookup] at h
    exact of_decide_eq_true h
  · intro _ r hr
    have hlookup : s.propagation.records.lookup _ = some r := hr
    rw [orderlyAt, hlookup] at h
    refine (of_decide_eq_true h).imp_right fun ⟨hversion, hsub⟩ => ⟨hversion, ?_⟩
    rintro sub ⟨⟨id, row', hrow, _, _, rfl⟩, _, _⟩
    rw [hsub, lookup_single hrow]
  · trivial

def orderlyTurn (s : SignalSystem.Flights PropagationStore Unit Unit Unit) :
    Turn (SignalRun Unit Unit) → Bool
  | .step client => (s.stage client).all fun p => orderlyAt p.1 s.store p.2
  | _ => true

def orderly (s : SignalSystem.Flights PropagationStore Unit Unit Unit) :
    List (Turn (SignalRun Unit Unit)) → Bool
  | [] => true
  | t :: turns => orderlyTurn s t && orderly (Clients.turn system.calls s t) turns

theorem orderlyRun_of_orderly {s : SignalSystem.Flights PropagationStore Unit Unit Unit}
    {turns : List (Turn (SignalRun Unit Unit))} (h : orderly s turns = true) :
    system.OrderlyRun PropagationBackend.inMemory.view s turns := by
  induction turns generalizing s with
  | nil => exact .nil s
  | cons t turns ih =>
    rw [orderly, Bool.and_eq_true] at h
    refine .cons (fun client run stage hclient hstage => ?_) (ih h.2)
    subst hclient
    have hturn : orderlyTurn s (.step client) = true := h.1
    rw [orderlyTurn, hstage] at hturn
    exact orderlyStep_of_orderlyAt hturn

end SignalSample

/-- Two overlapping runs deliver both versions, and the record stands acknowledged at the later. -/
theorem orderlySignals_truthful_overlapping :
    SignalSample.system.TruthfulRun PropagationBackend.inMemory.view (.idle SignalSample.store)
        SignalSample.overlapping ∧
      ((SignalSample.system.after (.idle SignalSample.store)
        SignalSample.overlapping).store.propagation.records.lookup 7).map
          (fun r => (r.status, r.lastSeenVersion)) = some (.acknowledged, 2) :=
  ⟨orderlySignals_truthful .inMemory SignalSample.system rfl SignalSample.store
    SignalSample.truthful_store SignalSample.overlapping
    (SignalSample.orderlyRun_of_orderly (by decide +kernel)), by decide +kernel⟩

/-- The run for the later version writes it first, and that for the earlier one takes it back. -/
theorem signals_not_always_truthful : ¬ ∀ (σ ι : Type) (backend : PropagationBackend)
    (sys : SignalSystem backend.Store σ ι backend.Order) (_ : sys.repo = backend.repo)
    (store : SignalStore backend.Store σ) (_ : sys.Truthful backend.view store)
    (turns : List (Turn (SignalRun ι backend.Order))),
    sys.TruthfulRun backend.view (.idle store) turns := by
  intro h
  have hrun := h Unit Unit .inMemory SignalSample.system rfl SignalSample.store
    SignalSample.truthful_store (SignalSample.reads ++ [.step 1, .step 0])
  obtain ⟨r, hr, hversion⟩ := Option.map_eq_some_iff.mp SignalSample.versionAfter_later
  obtain ⟨r', hr', hversion'⟩ := Option.map_eq_some_iff.mp SignalSample.versionAfter_earlier
  have hturns : SignalSample.reads ++ [.step 1, .step 0] =
      (SignalSample.reads ++ [.step 1]) ++ [.step 0] ++ [] := by simp
  obtain ⟨r'', hr'', hle⟩ := hrun.monotone _ _ _ hturns 7 r hr
  rw [List.append_assoc] at hr''
  obtain rfl : r' = r'' := Option.some.inj (hr'.symm.trans hr'')
  rw [hversion, hversion'] at hle
  exact absurd hle (by decide)

end IntentRebase
