import IntentRebase.Webhook.OutboxLaws
import IntentRebase.Webhook.OutboxWorker

/-! Many workers and operators on one outbox lead the life of every delivery: whatever the order of
their steps and whichever of them fail, each turn is a step of that life for one record at most. -/

namespace IntentRebase

open Kit

variable {σ ι : Type} {view : σ → OutboxView} {valid : σ → Prop}
  {repo : ι → WebhookOutboxRepository σ}

/-- The clients of an outbox. -/
abbrev OutboxClients (σ ι : Type) := Clients (OutboxWorld σ) (OutboxStage ι)

/-- The claimed record that a call holds, and whether it was sent. -/
def OutboxStage.held : OutboxStage ι → Option (WebhookOutboxRecord × Bool)
  | .dispatch _ claimed _ _ => some (claimed, false)
  | .mark _ claimed _ _ _ => some (claimed, true)
  | .create .. | .replayFailed .. | .listPending _ | .claim .. => none

/-- The claimed record of an identifier that a call holds. -/
def heldOf (id : Uuid) (stage : Option (OutboxStage ι)) : Option (WebhookOutboxRecord × Bool) :=
  (stage.bind OutboxStage.held).filter fun p => p.1.id = id

/-- A change of a record that was sent ends the hold on it. -/
structure Settles (r : WebhookOutboxRecord) (change : WebhookOutboxRecord → WebhookOutboxRecord)
    (d : OutboxDelivery) : Prop where
  record : d.record = some (change r)
  free : ∀ client, d.heldBy client = none
  moves : ∀ owner, OutboxDelivery.Moves (.sent r owner) none d

/-- What a step does: nothing, or one thing to one record. -/
inductive OutboxEffect (view : σ → OutboxView) (valid : σ → Prop) (w : OutboxWorld σ) :
    Option Uuid → Option (WebhookOutboxRecord × Bool) → Option (WebhookOutboxRecord × Bool) →
    OutboxWorld σ → Prop
  | quiet : OutboxEffect view valid w none none none w
  | create {r : WebhookOutboxRecord} {s : σ} (hnone : view w.repo r.id = none)
      (hpending : r.status = .pending) (hfresh : r.attemptCount = 0) (hvalid : valid s)
      (hview : view s = Function.update (view w.repo) r.id (some r)) :
      OutboxEffect view valid w (some r.id) none none { w with repo := s }
  | replay {r : WebhookOutboxRecord} {s : σ} (now : DateTime) (replayedBy : Option String)
      (hfound : view w.repo r.id = some r) (hfailed : r.status = .failed) (hvalid : valid s)
      (hview : view s =
        Function.update (view w.repo) r.id (some (r.replayFailed now replayedBy))) :
      OutboxEffect view valid w (some r.id) none none
        { repo := s, log := w.log ++ [.replayed r.id] }
  | claim {r : WebhookOutboxRecord} {s : σ} (now : DateTime) (lockedBy : String)
      (hfound : view w.repo r.id = some r) (hpending : r.status = .pending) (hvalid : valid s)
      (hview : view s = Function.update (view w.repo) r.id (some (r.claim now lockedBy))) :
      OutboxEffect view valid w (some r.id) none (some (r.claim now lockedBy, false))
        { w with repo := s }
  | dispatch (r : WebhookOutboxRecord) :
      OutboxEffect view valid w (some r.id) (some (r, false)) (some (r, true))
        { w with log := w.log ++ [.dispatched r] }
  | abandon (r : WebhookOutboxRecord) (wasSent : Bool) :
      OutboxEffect view valid w (some r.id) (some (r, wasSent)) none
        { w with log := w.log ++ [.abandoned r.id] }
  | followUp {r stored : WebhookOutboxRecord} {s : σ} {d : OutboxDelivery}
      {change : WebhookOutboxRecord → WebhookOutboxRecord} (hsettles : Settles r change d)
      (hfound : view w.repo r.id = some stored) (hvalid : valid s)
      (hview : view s = Function.update (view w.repo) r.id (some (change stored))) :
      OutboxEffect view valid w (some r.id) (some (r, true)) none { w with repo := s }

/-- The claimed record that a call holds after a step. -/
def heldAfter : Progress (OutboxStage ι) OutboxOutcome → Option (WebhookOutboxRecord × Bool)
  | .more k => k.held
  | .done _ => none

section Steps

variable {w : OutboxWorld σ} (laws : ∀ i, OutboxLaws (repo i) view valid) (hvalid : valid w.repo)

theorem attempt_cases (env : StepEnv ι) (s : σ) (answer : OutboxAnswer σ) :
    OutboxStage.attempt env s answer = answer ∨
      ∃ e, OutboxStage.attempt env s answer = (.error e, s) := by
  rw [OutboxStage.attempt]
  cases env.fails
  · exact .inl rfl
  · exact .inr ⟨_, rfl⟩

theorem attempt_changed {s : σ} {id tenantId : Uuid} {required : Option WebhookOutboxStatus}
    {change : WebhookOutboxRecord → WebhookOutboxRecord} {answer : OutboxAnswer σ}
    (h : Changed view valid s id tenantId required change answer) (env : StepEnv ι) :
    Changed view valid s id tenantId required change (OutboxStage.attempt env s answer) := by
  rcases attempt_cases env s answer with hsame | hfails
  · rwa [hsame]
  · exact .inr hfails

include laws hvalid

/-- The write that follows a dispatch ends the hold on the record. -/
theorem followUp_settles (env : StepEnv ι) (tenantId : Uuid) (claimed : WebhookOutboxRecord)
    (result : Except WebhookDispatchFailure Unit) :
    ∃ (change : WebhookOutboxRecord → WebhookOutboxRecord) (d : OutboxDelivery),
      Settles claimed change d ∧ Changed view valid w.repo claimed.id tenantId none change
        (OutboxStage.followUp (repo env.choice) w.repo env tenantId claimed result) := by
  have hlaws := laws env.choice
  match result with
  | .ok () =>
    exact ⟨_, .resolved (claimed.markDelivered env.now),
      ⟨rfl, fun _ => rfl, fun owner => .deliver claimed owner env.now⟩,
      hlaws.markDelivered env.now _ _ hvalid⟩
  | .error (.terminal reason) =>
    exact ⟨_, .resolved (claimed.markFailed env.now reason),
      ⟨rfl, fun _ => rfl, fun owner => .fail claimed owner env.now reason⟩,
      hlaws.markFailed env.now _ _ reason hvalid⟩
  | .error (.retryable reason) =>
    simp only [OutboxStage.followUp]
    cases hexhausted : claimed.exhausted with
    | true =>
      exact ⟨_, .resolved (claimed.markFailed env.now reason),
        ⟨rfl, fun _ => rfl, fun owner => .fail claimed owner env.now reason⟩,
        hlaws.markFailed env.now _ _ reason hvalid⟩
    | false =>
      exact ⟨_, .pending (claimed.rescheduleRetry env.now reason _),
        ⟨rfl, fun _ => rfl, fun owner => .retry owner env.now reason _ hexhausted⟩,
        hlaws.rescheduleRetry env.now _ _ reason _ hvalid⟩

theorem step_effect {k : OutboxStage ι} {w' : OutboxWorld σ}
    {progress : Progress (OutboxStage ι) OutboxOutcome}
    (hstep : k.step repo w = (progress, w')) :
    ∃ touched, OutboxEffect view valid w touched k.held (heldAfter progress) w' := by
  cases k with
  | create env new =>
    have hcreate := (laws env.choice).create new.record hvalid
    simp only [OutboxStage.step, Prod.mk.injEq] at hstep
    obtain ⟨rfl, rfl⟩ := hstep
    rcases attempt_cases env w.repo ((repo env.choice).create w.repo new.record) with
      hsame | ⟨e, hfails⟩
    · rw [hsame]
      rcases hcreate with ⟨s, hnone, hok, hv, hview⟩ | ⟨e, hfails⟩
      · rw [hok]
        exact ⟨_, .create hnone new.pending new.unattempted hv hview⟩
      · rw [hfails]
        exact ⟨_, .quiet⟩
    · rw [hfails]
      exact ⟨_, .quiet⟩
  | replayFailed env id tenantId replayedBy =>
    simp only [OutboxStage.step] at hstep
    rcases attempt_changed ((laws env.choice).replayFailed env.now id tenantId replayedBy hvalid)
      env with ⟨r, s, hr, hok, hv, hview⟩ | ⟨e, hfails⟩
    · obtain rfl : r.id = id := (laws env.choice).keyed hvalid id r hr.found
      rw [hok] at hstep
      obtain ⟨rfl, rfl⟩ := Prod.mk.inj hstep
      exact ⟨_, .replay env.now replayedBy hr.found (hr.status _ rfl) hv hview⟩
    · rw [hfails] at hstep
      obtain ⟨rfl, rfl⟩ := Prod.mk.inj hstep
      exact ⟨_, .quiet⟩
  | listPending call =>
    simp only [OutboxStage.step] at hstep
    repeat' split at hstep
    all_goals
      obtain ⟨rfl, rfl⟩ := Prod.mk.inj hstep
      exact ⟨_, .quiet⟩
  | claim call records processed =>
    cases records with
    | nil =>
      obtain ⟨rfl, rfl⟩ := Prod.mk.inj hstep
      exact ⟨_, .quiet⟩
    | cons record rest =>
      simp only [OutboxStage.step] at hstep
      split at hstep
      · obtain ⟨rfl, rfl⟩ := Prod.mk.inj hstep
        exact ⟨_, .quiet⟩
      have hclaim := (laws (call.env 0).choice).claim (call.env 0).now record.id call.tenantId
        "local-worker" hvalid
      rcases attempt_changed hclaim (call.env 0) with ⟨r, s, hr, hok, hv, hview⟩ | ⟨e, hfails⟩
      · have hid : r.id = record.id := (laws (call.env 0).choice).keyed hvalid _ r hr.found
        rw [hok] at hstep
        obtain ⟨rfl, rfl⟩ := Prod.mk.inj hstep
        rw [← hid] at hview
        exact ⟨_, .claim _ _ (hid ▸ hr.found) (hr.status _ rfl) hv hview⟩
      · rw [hfails] at hstep
        obtain ⟨rfl, rfl⟩ := Prod.mk.inj hstep
        exact ⟨_, .quiet⟩
  | dispatch call claimed rest processed =>
    simp only [OutboxStage.step] at hstep
    split at hstep <;> obtain ⟨rfl, rfl⟩ := Prod.mk.inj hstep
    · exact ⟨_, .abandon claimed false⟩
    · exact ⟨_, .dispatch claimed⟩
  | mark call claimed result rest processed =>
    simp only [OutboxStage.step] at hstep
    split at hstep
    · obtain ⟨rfl, rfl⟩ := Prod.mk.inj hstep
      exact ⟨_, .abandon claimed true⟩
    obtain ⟨change, d, hsettles, hchanged⟩ := followUp_settles laws hvalid (call.env 0)
      call.tenantId claimed result
    rcases attempt_changed hchanged (call.env 0) with ⟨stored, s, hr, hok, hv, hview⟩ | ⟨e, hfails⟩
    · rw [hok] at hstep
      obtain ⟨rfl, rfl⟩ := Prod.mk.inj hstep
      exact ⟨_, .followUp hsettles hr.found hv hview⟩
    · rw [hfails] at hstep
      obtain ⟨rfl, rfl⟩ := Prod.mk.inj hstep
      exact ⟨_, .abandon claimed true⟩

end Steps

theorem history_self {id : Uuid} {log : List OutboxEvent} {e : OutboxEvent} (h : e.recordId = id) :
    history id (log ++ [e]) = history id log ++ [e] := by
  simp [history, h]

theorem history_other {id : Uuid} {log : List OutboxEvent} {e : OutboxEvent}
    (h : e.recordId ≠ id) : history id (log ++ [e]) = history id log := by
  simp [history, h]

/-- A delivery is as the outbox shows it. -/
structure Shows (view : σ → OutboxView) (id : Uuid) (s : OutboxClients σ ι) (d : OutboxDelivery) :
    Prop where
  record : view s.store.repo id = d.record
  held : ∀ client, heldOf id (s.stage client) = d.heldBy client
  sound : d.Sound (history id s.store.log)

/-- Every delivery of the one state goes on to the other in a step of its life. -/
def LeadsOn (view : σ → OutboxView) (s s' : OutboxClients σ ι) : Prop :=
  ∀ id d, Shows view id s d → ∃ e d', OutboxDelivery.Moves d e d' ∧ Shows view id s' d' ∧
    history id s'.store.log = history id s.store.log ++ e.toList

section LeadsOn

variable {s : OutboxClients σ ι} {client : Nat} {next : Option (OutboxStage ι)}
  {w' : OutboxWorld σ} {id : Uuid} {d : OutboxDelivery}

theorem Shows.other (hd : Shows view id s d) (hview : view w'.repo id = view s.store.repo id)
    (hlog : history id w'.log = history id s.store.log)
    (hbefore : heldOf id (s.stage client) = none) (hafter : heldOf id next = none) :
    ∃ e d', OutboxDelivery.Moves d e d' ∧
      Shows view id { store := w', stage := Function.update s.stage client next } d' ∧
      history id w'.log = history id s.store.log ++ e.toList := by
  refine ⟨none, d, .stay d, ⟨hview.trans hd.record, fun c => ?_, hlog ▸ hd.sound⟩,
    by simpa using hlog⟩
  change heldOf id (Function.update s.stage client next c) = d.heldBy c
  rw [Function.update_apply]
  split
  · next heq => rw [hafter, ← hd.held, heq, hbefore]
  · exact hd.held c

/-- A delivery that the step moves. -/
theorem Shows.move (hd : Shows view id s d) {e : Option OutboxEvent} {d' : OutboxDelivery}
    (hmove : OutboxDelivery.Moves d e d') (hview : view w'.repo id = d'.record)
    (hlog : history id w'.log = history id s.store.log ++ e.toList)
    (hafter : heldOf id next = d'.heldBy client)
    (hothers : ∀ c, c ≠ client → d'.heldBy c = d.heldBy c) :
    ∃ e d', OutboxDelivery.Moves d e d' ∧
      Shows view id { store := w', stage := Function.update s.stage client next } d' ∧
      history id w'.log = history id s.store.log ++ e.toList := by
  refine ⟨e, d', hmove, ⟨hview, fun c => ?_, ?_⟩, hlog⟩
  · change heldOf id (Function.update s.stage client next c) = d'.heldBy c
    rw [Function.update_apply]
    split
    · next heq => rw [hafter, heq]
    · next hne => rw [hothers c hne, hd.held]
  · change d'.Sound (history id w'.log)
    rw [hlog]
    exact hmove.sound hd.sound

theorem OutboxEffect.elsewhere {w : OutboxWorld σ} {touched : Option Uuid}
    {h h' : Option (WebhookOutboxRecord × Bool)}
    (he : OutboxEffect view valid w touched h h' w') (hid : touched ≠ some id) :
    view w'.repo id = view w.repo id ∧ history id w'.log = history id w.log ∧
      (h.filter fun p => p.1.id = id) = none ∧ (h'.filter fun p => p.1.id = id) = none := by
  cases he with
  | quiet => exact ⟨rfl, rfl, rfl, rfl⟩
  | @create r s hnone hpending hfresh hvalid hview =>
    have hne : id ≠ r.id := fun heq => hid (congrArg some heq.symm)
    exact ⟨by rw [hview, Function.update_of_ne hne], rfl, rfl, rfl⟩
  | @replay r s now replayedBy hfound hfailed hvalid hview =>
    have hne : id ≠ r.id := fun heq => hid (congrArg some heq.symm)
    exact ⟨by rw [hview, Function.update_of_ne hne], history_other hne.symm, rfl, rfl⟩
  | @claim r s now lockedBy hfound hpending hvalid hview =>
    have hne : id ≠ r.id := fun heq => hid (congrArg some heq.symm)
    refine ⟨by rw [hview, Function.update_of_ne hne], rfl, rfl, ?_⟩
    simp [WebhookOutboxRecord.claim, hne.symm]
  | dispatch r =>
    have hne : id ≠ r.id := fun heq => hid (congrArg some heq.symm)
    refine ⟨rfl, history_other hne.symm, ?_, ?_⟩ <;> simp [hne.symm]
  | abandon r wasSent =>
    have hne : id ≠ r.id := fun heq => hid (congrArg some heq.symm)
    refine ⟨rfl, history_other hne.symm, ?_, rfl⟩
    simp [hne.symm]
  | @followUp r stored s d change hsettles hfound hvalid hview =>
    have hne : id ≠ r.id := fun heq => hid (congrArg some heq.symm)
    refine ⟨by rw [hview, Function.update_of_ne hne], rfl, ?_, rfl⟩
    simp [hne.symm]

/-- What a step does to a record is a step of its life. -/
theorem OutboxEffect.moves {h h' : Option (WebhookOutboxRecord × Bool)}
    (he : OutboxEffect view valid s.store (some id) h h' w')
    (hbefore : (s.stage client).bind OutboxStage.held = h)
    (hafter : next.bind OutboxStage.held = h') (hd : Shows view id s d) :
    ∃ e d', OutboxDelivery.Moves d e d' ∧
      Shows view id { store := w', stage := Function.update s.stage client next } d' ∧
      history id w'.log = history id s.store.log ++ e.toList := by
  have hheld : d.heldBy client = h.filter fun p => p.1.id = id := by
    rw [← hd.held, heldOf, hbefore]
  have hheld' : heldOf id next = h'.filter fun p => p.1.id = id := by rw [heldOf, hafter]
  cases he with
  | @create r repo hnone hpending hfresh hvalid hview =>
    obtain rfl := OutboxDelivery.eq_absent (hd.record.symm.trans hnone)
    refine hd.move (.create hpending hfresh) ?_ (List.append_nil _).symm hheld' fun _ _ => rfl
    rw [hview, Function.update_self]
    rfl
  | @replay r repo now replayedBy hfound hfailed hvalid hview =>
    obtain rfl :=
      OutboxDelivery.eq_resolved hd.sound.counts (hd.record.symm.trans hfound) (.inr hfailed)
    refine hd.move (.replay now replayedBy hfailed) ?_ (history_self rfl) hheld' fun _ _ => rfl
    rw [hview, Function.update_self]
    rfl
  | @claim r repo now lockedBy hfound hpending hvalid hview =>
    obtain rfl := OutboxDelivery.eq_pending hd.sound.counts (hd.record.symm.trans hfound) hpending
    refine hd.move (.claim r now lockedBy client) ?_ (List.append_nil _).symm ?_ fun c hc => ?_
    · rw [hview, Function.update_self]
      rfl
    · rw [hheld']
      simp [OutboxDelivery.heldBy, WebhookOutboxRecord.claim]
    · simp [OutboxDelivery.heldBy, hc]
  | dispatch r =>
    have hclaimed : d.heldBy client = some (r, false) := hheld.trans (by simp)
    obtain rfl := OutboxDelivery.eq_claimed hclaimed
    refine hd.move (.dispatch r client) hd.record (history_self rfl) ?_ fun c hc => ?_
    · rw [hheld']
      simp [OutboxDelivery.heldBy]
    · simp [OutboxDelivery.heldBy, hc]
  | abandon r wasSent =>
    have hclaimed : d.heldBy client = some (r, wasSent) := hheld.trans (by simp)
    cases wasSent with
    | false =>
      obtain rfl := OutboxDelivery.eq_claimed hclaimed
      refine hd.move (.abandonClaimed r client) hd.record (history_self rfl) hheld' fun c hc => ?_
      simp [OutboxDelivery.heldBy, hc]
    | true =>
      obtain rfl := OutboxDelivery.eq_sent hclaimed
      refine hd.move (.abandonSent r client) hd.record (history_self rfl) hheld' fun c hc => ?_
      simp [OutboxDelivery.heldBy, hc]
  | @followUp r stored repo d' change hsettles hfound hvalid hview =>
    have hsent : d.heldBy client = some (r, true) := hheld.trans (by simp)
    obtain rfl := OutboxDelivery.eq_sent hsent
    obtain rfl : r = stored := Option.some.inj (hd.record.symm.trans hfound)
    refine hd.move (hsettles.moves client) ?_ (List.append_nil _).symm ?_ fun c hc => ?_
    · rw [hview, Function.update_self, hsettles.record]
    · rw [hheld', hsettles.free]
      rfl
    · rw [hsettles.free]
      simp [OutboxDelivery.heldBy, hc]

theorem OutboxEffect.follows {touched : Option Uuid} {h h' : Option (WebhookOutboxRecord × Bool)}
    (he : OutboxEffect view valid s.store touched h h' w')
    (hbefore : (s.stage client).bind OutboxStage.held = h)
    (hafter : next.bind OutboxStage.held = h') :
    LeadsOn view s { store := w', stage := Function.update s.stage client next } := by
  intro id d hd
  by_cases hid : touched = some id
  · subst hid
    exact he.moves hbefore hafter hd
  · obtain ⟨hview, hlog, hnone, hnone'⟩ := he.elsewhere hid
    exact hd.other hview hlog (by rw [heldOf, hbefore, hnone]) (by rw [heldOf, hafter, hnone'])

theorem OutboxEffect.keeps_valid {w : OutboxWorld σ} {touched : Option Uuid}
    {h h' : Option (WebhookOutboxRecord × Bool)} (he : OutboxEffect view valid w touched h h' w')
    (hw : valid w.repo) : valid w'.repo := by
  cases he with
  | quiet | dispatch r | abandon r wasSent => exact hw
  | create _ _ _ hvalid _ | replay _ _ _ _ hvalid _ | claim _ _ _ _ hvalid _
  | followUp _ _ hvalid _ => exact hvalid

end LeadsOn

section Runs

variable {s : OutboxClients σ ι} (laws : ∀ i, OutboxLaws (repo i) view valid)

/-- The state after some turns of the clients. -/
abbrev OutboxClients.after (repo : ι → WebhookOutboxRepository σ) (s : OutboxClients σ ι)
    (turns : List (Turn (OutboxRequest ι))) : OutboxClients σ ι :=
  Clients.run (outboxCalls repo) s turns

include laws

/-- Every turn is a step of every delivery's life. -/
theorem turn_follows (hvalid : valid s.store.repo) (t : Turn (OutboxRequest ι)) :
    valid (Clients.turn (outboxCalls repo) s t).store.repo ∧
      LeadsOn view s (Clients.turn (outboxCalls repo) s t) := by
  have htook := Clients.took (outboxCalls repo) s t
  generalize Clients.turn (outboxCalls repo) s t = s' at htook ⊢
  generalize Clients.answer (outboxCalls repo) s t = answer at htook
  cases htook with
  | idle => exact ⟨hvalid, fun id d hd => ⟨none, d, .stay d, hd, (List.append_nil _).symm⟩⟩
  | @start client request hstage =>
    have hquiet : OutboxEffect view valid s.store none none none s.store := .quiet
    refine ⟨hvalid, hquiet.follows (by rw [hstage]; rfl) ?_⟩
    cases request <;> rfl
  | more hstage hstep =>
    obtain ⟨touched, heffect⟩ := step_effect laws hvalid hstep
    exact ⟨heffect.keeps_valid hvalid, heffect.follows (by rw [hstage]; rfl) rfl⟩
  | done hstage hstep =>
    obtain ⟨touched, heffect⟩ := step_effect laws hvalid hstep
    exact ⟨heffect.keeps_valid hvalid, heffect.follows (by rw [hstage]; rfl) rfl⟩

/-- Every run leads every delivery along its life. -/
theorem run_follows (hvalid : valid s.store.repo) (turns : List (Turn (OutboxRequest ι))) :
    valid (s.after repo turns).store.repo ∧ ∀ id d, Shows view id s d →
      ∃ es d', Run OutboxDelivery.Moves d es d' ∧ Shows view id (s.after repo turns) d' ∧
        history id (s.after repo turns).store.log =
          history id s.store.log ++ es.reduceOption := by
  induction turns generalizing s with
  | nil => exact ⟨hvalid, fun id d hd => ⟨[], d, .nil d, hd, (List.append_nil _).symm⟩⟩
  | cons t turns ih =>
    obtain ⟨hnext, hfollows⟩ := turn_follows laws hvalid t
    obtain ⟨hlast, hrest⟩ := ih hnext
    refine ⟨hlast, fun id d hd => ?_⟩
    obtain ⟨e, d₁, hmove, hd₁, hlog⟩ := hfollows id d hd
    obtain ⟨es, d₂, hrun, hd₂, hlog'⟩ := hrest id d₁ hd₁
    refine ⟨e :: es, d₂, .cons hmove hrun, hd₂, hlog'.trans ?_⟩
    rw [hlog, List.append_assoc]
    cases e <;> rfl

end Runs

end IntentRebase
