import Mathlib.Logic.Function.Basic
import IntentRebase.Kit.Transition
import IntentRebase.Compensation.Lifecycle

/-! Many clients of one repository. A call is a read, which checks it, and a later write under the
lock version; an execution runs its executor between the two. The steps of the clients come in any
order. -/

namespace IntentRebase

open Kit ActionRepo

/-- The write that a call ends with. -/
inductive Write where
  | approve (now : DateTime) (actionId : Uuid) (lockVersion : Int) (approvedBy : Option String)
  | waive (now : DateTime) (actionId : Uuid) (lockVersion : Int) (waivedBy : Option String)
  | record (actionId : Uuid) (result : ExecutionResult) (lockVersion : Int)
      (executedBy : Option String)
  | reapprove (actionId : Uuid) (lockVersion : Int)

namespace Write

def actionId : Write → Uuid
  | .approve _ actionId _ _ => actionId
  | .waive _ actionId _ _ => actionId
  | .record actionId _ _ _ => actionId
  | .reapprove actionId _ => actionId

def lockVersion : Write → Int
  | .approve _ _ lockVersion _ => lockVersion
  | .waive _ _ lockVersion _ => lockVersion
  | .record _ _ lockVersion _ => lockVersion
  | .reapprove _ lockVersion => lockVersion

def isApproval : Write → Bool
  | .approve .. => true
  | _ => false

def apply (write : Write) (repo : ActionRepo) : Outcome :=
  match write with
  | .approve now actionId lockVersion approvedBy =>
    repo.updateStatus now actionId .approved lockVersion approvedBy none
  | .waive now actionId lockVersion waivedBy =>
    repo.updateStatus now actionId .waived lockVersion none waivedBy
  | .record actionId result lockVersion executedBy =>
    repo.recordResult actionId result lockVersion executedBy
  | .reapprove actionId lockVersion => repo.reapprove actionId lockVersion

end Write

/-- A call after its read: an execution holds the action that it read until its executor has run. -/
inductive InFlight where
  | selected (executor : Executor) (actionId : Uuid) (action : CompensationAction)
      (executedBy : Option String)
  | writing (write : Write)

/-- The read of a call. -/
def Call.read (call : Call) (repo : ActionRepo) : Except IntentRebaseError InFlight :=
  match call with
  | .approve now actionId lockVersion approvedBy =>
    match validateTransition repo actionId .approved with
    | .error e => .error e
    | .ok _ => .ok (.writing (.approve now actionId lockVersion approvedBy))
  | .waive now actionId lockVersion waivedBy =>
    match validateTransition repo actionId .waived with
    | .error e => .error e
    | .ok _ => .ok (.writing (.waive now actionId lockVersion waivedBy))
  | .execute executor actionId executedBy =>
    match selectForExecution repo actionId with
    | .error e => .error e
    | .ok action => .ok (.selected executor actionId action executedBy)
  | .reapprove actionId lockVersion =>
    match selectForReapproval repo actionId with
    | .error e => .error e
    | .ok _ => .ok (.writing (.reapprove actionId lockVersion))

/-- The repository, and the calls in flight by client. -/
structure System where
  repo : ActionRepo
  calls : Nat → Option InFlight

def System.set (s : System) (client : Nat) (inFlight : Option InFlight) : System :=
  { s with calls := Function.update s.calls client inFlight }

theorem System.set_calls_self (s : System) (client : Nat) (inFlight : Option InFlight) :
    (s.set client inFlight).calls client = inFlight := Function.update_self ..

theorem System.set_calls_ne {s : System} {client other : Nat} {inFlight : Option InFlight}
    (h : other ≠ client) : (s.set client inFlight).calls other = s.calls other :=
  Function.update_of_ne h ..

/-- No call is in flight. -/
def System.Quiet (s : System) : Prop := ∀ client, s.calls client = none

inductive Event where
  | refused (client : Nat) (call : Call) (e : IntentRebaseError)
  | began (client : Nat) (call : Call)
  | invoked (client : Nat) (actionId : Uuid)
  | wrote (client : Nat) (write : Write) (answer : Except IntentRebaseError CompensationAction)

/-- One step of one client. -/
inductive Step : System → Event → System → Prop
  | refuse {s : System} {client : Nat} {call : Call} {e : IntentRebaseError}
      (idle : s.calls client = none) (h : call.read s.repo = .error e) :
      Step s (.refused client call e) s
  | begin {s : System} {client : Nat} {call : Call} {inFlight : InFlight}
      (idle : s.calls client = none) (h : call.read s.repo = .ok inFlight) :
      Step s (.began client call) (s.set client (some inFlight))
  | invoke {s : System} {client : Nat} {executor : Executor} {actionId : Uuid}
      {action : CompensationAction} {executedBy : Option String} {result : ExecutionResult}
      (h : s.calls client = some (.selected executor actionId action executedBy))
      (hrun : executor action = .ok result) :
      Step s (.invoked client actionId)
        (s.set client (some (.writing (.record actionId result action.lockVersion executedBy))))
  | invokeError {s : System} {client : Nat} {executor : Executor} {actionId : Uuid}
      {action : CompensationAction} {executedBy : Option String} {e : IntentRebaseError}
      (h : s.calls client = some (.selected executor actionId action executedBy))
      (hrun : executor action = .error e) :
      Step s (.invoked client actionId) (s.set client none)
  | write {s : System} {client : Nat} {write : Write}
      {answer : Except IntentRebaseError CompensationAction} {after : ActionRepo}
      (h : s.calls client = some (.writing write)) (hwrite : write.apply s.repo = (answer, after)) :
      Step s (.wrote client write answer) { s.set client none with repo := after }

namespace Event

/-- The event is an approval of the action. -/
def approves (actionId : Uuid) : Event → Bool
  | .wrote _ write (.ok _) => write.isApproval && write.actionId == actionId
  | _ => false

/-- The event records the result of an execution of the action. -/
def records (actionId : Uuid) : Event → Bool
  | .wrote _ (.record recordedId _ _ _) (.ok _) => recordedId == actionId
  | _ => false

/-- The event is a run of an executor for the action. -/
def invokes (actionId : Uuid) : Event → Bool
  | .invoked _ invokedId => invokedId == actionId
  | _ => false

/-- The event is a read that starts an execution of the action. -/
def beginsExecution (actionId : Uuid) : Event → Bool
  | .began _ (.execute _ selectedId _) => selectedId == actionId
  | _ => false

end Event

section Writes

variable {repo after : ActionRepo} {write : Write} {updated : CompensationAction}
  {e : IntentRebaseError}

/-- What a write does to the action whose lock version it holds. -/
def Write.change : Write → CompensationAction → Except IntentRebaseError CompensationAction
  | .approve now _ _ approvedBy => fun action =>
    .ok (withStatus now .approved approvedBy none action)
  | .waive now _ _ waivedBy => fun action => .ok (withStatus now .waived none waivedBy action)
  | .record _ result _ executedBy => fun action => .ok (withResult result executedBy action)
  | .reapprove _ _ => fun action =>
    if action.status ≠ .failed then
      .error (.invalidCompensationActionTransition action.status.debug "Pending"
        "Only Failed actions can be reapproved")
    else .ok { action with status := .pending, failedAt := none }

theorem Write.apply_eq (write : Write) (repo : ActionRepo) :
    write.apply repo = repo.lockedUpdate write.actionId write.lockVersion write.change := by
  cases write <;> rfl

/-- Only an approval leaves an action approved. -/
theorem Write.change_approved {action changed : CompensationAction}
    (h : write.change action = .ok changed) (hstatus : changed.status = .approved) :
    write.isApproval = true := by
  cases write with
  | approve => rfl
  | waive =>
    cases Except.ok.inj h
    cases hstatus
  | record actionId result lockVersion executedBy =>
    cases Except.ok.inj h
    rw [withResult_status] at hstatus
    split at hstatus <;> cases hstatus
  | reapprove =>
    rw [Write.change] at h
    dsimp only at h
    split at h
    · cases h
    · cases Except.ok.inj h
      cases hstatus

/-- What a write that succeeds does to the action: it found the lock version it was given. -/
structure Write.Written (write : Write) (repo : ActionRepo) (action updated : CompensationAction) :
    Prop where
  found : repo.lookup write.actionId = some action
  current : action.lockVersion = write.lockVersion
  lockVersion : updated.lockVersion = action.lockVersion + 1
  approved : updated.status = .approved → write.isApproval = true

theorem Write.apply_ok (h : write.apply repo = (.ok updated, after)) :
    (∃ action, write.Written repo action updated) ∧ after = repo.insert write.actionId updated := by
  rw [Write.apply_eq] at h
  obtain ⟨action, changed, hlookup, hlock, hchange, rfl, hafter⟩ := lockedUpdate_ok h
  have hwritten : write.Written repo action
      { changed with lockVersion := action.lockVersion + 1 } :=
    ⟨hlookup, hlock, rfl, fun hstatus => Write.change_approved hchange hstatus⟩
  exact ⟨⟨action, hwritten⟩, hafter⟩

theorem Write.apply_error (h : write.apply repo = (.error e, after)) : after = repo := by
  rw [Write.apply_eq] at h
  exact lockedUpdate_error h

/-- The recording of a result for a stored action fails only if the lock version has changed. -/
theorem recordResult_error {actionId : Uuid} {action : CompensationAction}
    {result : ExecutionResult} {lockVersion : Int} {executedBy : Option String}
    (h : repo.recordResult actionId result lockVersion executedBy = (.error e, after))
    (hlookup : repo.lookup actionId = some action) : e = .concurrencyConflict actionId := by
  rw [recordResult, lockedUpdate, hlookup] at h
  dsimp only at h
  split at h
  · cases h
    rfl
  · cases h

end Writes

section Captured

/-- The lock version that an execution of the action has read and will write under. -/
def InFlight.captured (actionId : Uuid) : InFlight → Option Int
  | .selected _ selectedId action _ =>
    if selectedId = actionId then some action.lockVersion else none
  | .writing (.record recordedId _ lockVersion _) =>
    if recordedId = actionId then some lockVersion else none
  | .writing _ => none

/-- Some execution of the action in flight has read this lock version. -/
def Holds (s : System) (actionId : Uuid) (lockVersion : Int) : Prop :=
  ∃ client inFlight, s.calls client = some inFlight ∧
    inFlight.captured actionId = some lockVersion

variable {s s' : System} {event : Event} {actionId : Uuid} {lockVersion : Int}

/-- The read of an execution finds the action approved, at the lock version it captures. -/
theorem Call.read_captured {call : Call} {repo : ActionRepo} {inFlight : InFlight}
    (h : call.read repo = .ok inFlight)
    (hcaptured : inFlight.captured actionId = some lockVersion) :
    ∃ action, repo.lookup actionId = some action ∧ action.status = .approved ∧
      action.lockVersion = lockVersion := by
  cases call with
  | approve =>
    rw [Call.read] at h
    split at h <;> cases h
    cases hcaptured
  | waive =>
    rw [Call.read] at h
    split at h <;> cases h
    cases hcaptured
  | execute executor selectedId =>
    rw [Call.read] at h
    split at h
    · cases h
    next action hselect =>
    cases h
    rw [InFlight.captured] at hcaptured
    split at hcaptured
    · next hid =>
      obtain ⟨hlookup, hstatus, -⟩ := selectForExecution_ok hselect
      exact ⟨action, hid ▸ hlookup, hstatus, Option.some.inj hcaptured⟩
    · cases hcaptured
  | reapprove =>
    rw [Call.read] at h
    split at h <;> cases h
    cases hcaptured

theorem Holds.of_set {client : Nat} {inFlight : Option InFlight}
    (h : Holds (s.set client inFlight) actionId lockVersion) :
    Holds s actionId lockVersion ∨
      ∃ placed, inFlight = some placed ∧ placed.captured actionId = some lockVersion := by
  obtain ⟨holder, held, hcalls, hcaptured⟩ := h
  by_cases hholder : holder = client
  · rw [hholder, System.set_calls_self] at hcalls
    exact .inr ⟨held, hcalls, hcaptured⟩
  · rw [System.set_calls_ne hholder] at hcalls
    exact .inl ⟨holder, held, hcalls, hcaptured⟩

/-- An execution that a step leaves in flight was there before, or has just read the action. -/
theorem Step.holds (h : Step s event s') (hheld : Holds s' actionId lockVersion) :
    Holds s actionId lockVersion ∨
      ∃ action, s.repo.lookup actionId = some action ∧ action.status = .approved ∧
        action.lockVersion = lockVersion := by
  cases h with
  | refuse => exact .inl hheld
  | @begin client call inFlight idle hread =>
    rcases hheld.of_set with hbefore | ⟨placed, hplaced, hcaptured⟩
    · exact .inl hbefore
    · cases hplaced
      exact .inr (call.read_captured hread hcaptured)
  | @invoke client executor selectedId action executedBy result hcalls hrun =>
    rcases hheld.of_set with hbefore | ⟨placed, hplaced, hcaptured⟩
    · exact .inl hbefore
    · cases hplaced
      exact .inl ⟨client, _, hcalls, hcaptured⟩
  | invokeError hcalls hrun =>
    rcases hheld.of_set with hbefore | ⟨placed, hplaced, -⟩
    · exact .inl hbefore
    · cases hplaced
  | write hcalls hwrite =>
    rcases Holds.of_set (s := s) hheld with hbefore | ⟨placed, hplaced, -⟩
    · exact .inl hbefore
    · cases hplaced

/-- A write that succeeds was in flight, and stores the action that it answers. -/
theorem Step.wrote {client : Nat} {write : Write} {updated : CompensationAction}
    (h : Step s (.wrote client write (.ok updated)) s') :
    s.calls client = some (.writing write) ∧
      (∃ action, write.Written s.repo action updated) ∧
      s'.repo = s.repo.insert write.actionId updated := by
  cases h with
  | write hcalls hwrite => exact ⟨hcalls, Write.apply_ok hwrite⟩

/-- What a step does to the action: nothing, or it writes it. -/
theorem Step.lookup (h : Step s event s') (actionId : Uuid) :
    s'.repo.lookup actionId = s.repo.lookup actionId ∨
      ∃ client write updated, event = .wrote client write (.ok updated) ∧
        write.actionId = actionId := by
  cases h with
  | refuse => exact .inl rfl
  | begin => exact .inl rfl
  | invoke => exact .inl rfl
  | invokeError => exact .inl rfl
  | @write client write answer after hcalls hwrite =>
    cases answer with
    | error e => exact .inl (by rw [Write.apply_error hwrite])
    | ok updated =>
      by_cases hid : actionId = write.actionId
      · exact .inr ⟨client, write, updated, rfl, hid.symm⟩
      · rw [(Write.apply_ok hwrite).2]
        exact .inl (AList.lookup_insert_ne hid)

end Captured

section Contention

/-- A repository with an approved action, and no call in flight. -/
def System.approved : System where
  repo := runCalls (.sample .s1InternalReversible) [.approve 10 7 0 (some "reviewer")]
  calls := fun _ => none

/-- The execution of its action by the service's own executor. -/
def Call.sampleExecution : Call :=
  .execute (runExecutor (some (ofPairs [(1, SideEffect.sample .s1InternalReversible)])) 20) 7 none

/-- Two clients that read the action before either writes it, and run the executor. -/
def contention : List Event :=
  [.began 0 .sampleExecution, .began 1 .sampleExecution, .invoked 0 7, .invoked 1 7]

theorem contention_run : ∃ s, Run Step .approved contention s :=
  ⟨_, .cons (.begin rfl rfl) (.cons (.begin rfl rfl)
    (.cons (.invoke rfl rfl) (.cons (.invoke rfl rfl) (.nil _))))⟩

end Contention

section OneRecord

variable {s s' : System} {event : Event} {actionId : Uuid}

/-- No execution in flight has read a lock version that is still to come. -/
def NoneAhead (actionId : Uuid) (s : System) : Prop :=
  ∀ lockVersion, Holds s actionId lockVersion →
    ∃ action, s.repo.lookup actionId = some action ∧ lockVersion ≤ action.lockVersion

/-- The action is approved, or an execution in flight holds its current lock version. -/
def Armed (actionId : Uuid) (s : System) : Prop :=
  ∃ action, s.repo.lookup actionId = some action ∧
    (action.status = .approved ∨ Holds s actionId action.lockVersion)

theorem System.Quiet.noneAhead (h : s.Quiet) (actionId : Uuid) : NoneAhead actionId s := by
  rintro lockVersion ⟨client, inFlight, hcalls, -⟩
  rw [h client] at hcalls
  cases hcalls

theorem NoneAhead.step (hn : NoneAhead actionId s) (h : Step s event s') :
    NoneAhead actionId s' := by
  intro lockVersion hheld
  have hbound : ∃ action, s.repo.lookup actionId = some action ∧
      lockVersion ≤ action.lockVersion := by
    rcases h.holds hheld with hbefore | ⟨action, hlookup, -, rfl⟩
    · exact hn lockVersion hbefore
    · exact ⟨action, hlookup, Int.le_refl _⟩
  obtain ⟨action, hlookup, hle⟩ := hbound
  rcases h.lookup actionId with hsame | ⟨client, write, updated, rfl, rfl⟩
  · exact ⟨action, hsame.trans hlookup, hle⟩
  · obtain ⟨-, ⟨current, hwritten⟩, hafter⟩ := h.wrote
    obtain rfl := Option.some.inj (hwritten.found.symm.trans hlookup)
    refine ⟨updated, by rw [hafter, AList.lookup_insert], ?_⟩
    have hlock := hwritten.lockVersion
    omega

/-- A write other than an approval disarms the action: nothing in flight holds the new lock version.
-/
theorem Step.disarms {client : Nat} {write : Write} {updated : CompensationAction}
    (hn : NoneAhead write.actionId s) (h : Step s (.wrote client write (.ok updated)) s')
    (hwrite : write.isApproval = false) : ¬ Armed write.actionId s' := by
  obtain ⟨-, ⟨action, hwritten⟩, hafter⟩ := h.wrote
  rintro ⟨stored, hstored, hcause⟩
  rw [hafter, AList.lookup_insert] at hstored
  obtain rfl := Option.some.inj hstored
  rcases hcause with happroved | hheld
  · rw [hwritten.approved happroved] at hwrite
    cases hwrite
  · have hle : updated.lockVersion ≤ action.lockVersion := by
      rcases h.holds hheld with hbefore | ⟨current, hread, -, heq⟩
      · obtain ⟨current, hcurrent, hle⟩ := hn _ hbefore
        obtain rfl := Option.some.inj (hcurrent.symm.trans hwritten.found)
        exact hle
      · obtain rfl := Option.some.inj (hread.symm.trans hwritten.found)
        exact Int.le_of_eq heq.symm
    have hlock := hwritten.lockVersion
    omega

/-- Only an approval arms the action. -/
theorem Armed.of_step (hn : NoneAhead actionId s) (h : Step s event s')
    (hevent : event.approves actionId = false) (harmed : Armed actionId s') : Armed actionId s := by
  rcases h.lookup actionId with hsame | ⟨client, write, updated, rfl, rfl⟩
  · obtain ⟨action, hlookup, hcause⟩ := harmed
    rw [hsame] at hlookup
    rcases hcause with happroved | hheld
    · exact ⟨action, hlookup, .inl happroved⟩
    · rcases h.holds hheld with hbefore | ⟨current, hread, happroved, -⟩
      · exact ⟨action, hlookup, .inr hbefore⟩
      · exact ⟨current, hread, .inl happroved⟩
  · have hwrite : write.isApproval = false := by simpa [Event.approves] using hevent
    exact absurd harmed (h.disarms hn hwrite)

theorem Event.records_eq (h : event.records actionId = true) :
    ∃ client result lockVersion executedBy updated,
      event = .wrote client (.record actionId result lockVersion executedBy) (.ok updated) := by
  unfold Event.records at h
  split at h
  · obtain rfl := eq_of_beq h
    exact ⟨_, _, _, _, _, rfl⟩
  · cases h

/-- A result is recorded only under the current lock version. -/
theorem Armed.of_records (h : Step s event s') (hevent : event.records actionId = true) :
    Armed actionId s := by
  obtain ⟨client, result, lockVersion, executedBy, updated, rfl⟩ := Event.records_eq hevent
  obtain ⟨hcalls, ⟨action, hwritten⟩, -⟩ := h.wrote
  refine ⟨action, hwritten.found, .inr ⟨client, _, hcalls, ?_⟩⟩
  rw [InFlight.captured, if_pos rfl, hwritten.current]
  rfl

/-- The recording of a result can happen once after each approval. -/
theorem oneShot_records (actionId : Uuid) :
    Run.OneShot Step (NoneAhead actionId) (Armed actionId) (Event.records actionId)
      (Event.approves actionId) where
  keep h hn := hn.step h
  ready h _ hevent := Armed.of_records h hevent
  rearm h hn hevent harmed := harmed.of_step hn h hevent
  disarm h hn hevent := by
    obtain ⟨client, result, lockVersion, executedBy, updated, rfl⟩ := Event.records_eq hevent
    have hn : NoneAhead (Write.record actionId result lockVersion executedBy).actionId _ := hn
    exact h.disarms hn rfl

/-- A call starts an execution only of an approved action. -/
theorem gated_beginsExecution (actionId : Uuid) :
    Run.Gated Step (NoneAhead actionId) (Armed actionId) (Event.beginsExecution actionId)
      (Event.approves actionId) where
  keep h hn := hn.step h
  ready h _ hevent := by
    cases h with
    | refuse => cases hevent
    | @begin client call inFlight idle hread =>
      cases call with
      | execute executor selectedId executedBy =>
        obtain rfl := eq_of_beq hevent
        rw [Call.read] at hread
        split at hread
        · cases hread
        next action hselect =>
        obtain ⟨hlookup, happroved, -⟩ := selectForExecution_ok hselect
        exact ⟨action, hlookup, .inl happroved⟩
      | _ => cases hevent
    | invoke => cases hevent
    | invokeError => cases hevent
    | write => cases hevent
  rearm h hn hevent harmed := harmed.of_step hn h hevent

theorem NoneAhead.run {events : List Event} (hn : NoneAhead actionId s) (h : Run Step s events s') :
    NoneAhead actionId s' := by
  have hkeep : ∀ s event s', True → Step s event s' → NoneAhead actionId s →
      NoneAhead actionId s' := fun _ _ _ _ hstep hs => hs.step hstep
  exact h.invariant hkeep (fun _ _ => trivial) hn

/-- An execution in flight is of a stored action. -/
theorem NoneAhead.stored {client : Nat} {result : ExecutionResult} {lockVersion : Int}
    {executedBy : Option String} (hn : NoneAhead actionId s)
    (h : s.calls client = some (.writing (.record actionId result lockVersion executedBy))) :
    ∃ action, s.repo.lookup actionId = some action := by
  obtain ⟨action, hlookup, -⟩ := hn lockVersion ⟨client, _, h, if_pos rfl⟩
  exact ⟨action, hlookup⟩

/-- What holds of the executions of an action between two approvals, however the clients interleave:
at most one result is recorded; from then on no call starts an execution; and the recording of any
other result ends in a conflict that leaves the repository as it was. -/
theorem executions_between_approvals {start : System} {before : List Event} (hquiet : start.Quiet)
    (hbefore : Run Step start before s) (actionId : Uuid) :
    (∀ events s', Run Step s events s' → (∀ event ∈ events, event.approves actionId = false) →
      events.countP (Event.records actionId) ≤ 1 ∧
      ∀ earlier event later, events = earlier ++ event :: later →
        event.records actionId = true → later.countP (Event.beginsExecution actionId) = 0) ∧
    ∀ client result lockVersion executedBy e s',
      Step s (.wrote client (.record actionId result lockVersion executedBy) (.error e)) s' →
      e = .concurrencyConflict actionId ∧ s'.repo = s.repo := by
  have hn : NoneAhead actionId s := (hquiet.noneAhead actionId).run hbefore
  constructor
  · intro events s' hrun happrovals
    refine ⟨(oneShot_records actionId).atMostOnce hrun hn happrovals, ?_⟩
    rintro earlier event later rfl hevent
    obtain ⟨middle, hearlier, hrest⟩ := hrun.split
    cases hrest with
    | cons hstep hlater =>
      have hmiddle := hn.run hearlier
      exact (gated_beginsExecution actionId).never hlater (hmiddle.step hstep)
        ((oneShot_records actionId).disarm hstep hmiddle hevent)
        (fun other hother => happrovals other (by simp [hother]))
  · intro client result lockVersion executedBy e s' hstep
    cases hstep with
    | write hcalls hwrite =>
      obtain ⟨action, hlookup⟩ := hn.stored hcalls
      exact ⟨recordResult_error hwrite hlookup, Write.apply_error hwrite⟩

theorem executions_between_approvals_contention :
    ∃ s, Run Step .approved contention s ∧ ∀ events s', Run Step s events s' →
      (∀ event ∈ events, event.approves 7 = false) → events.countP (Event.records 7) ≤ 1 := by
  obtain ⟨s, hrun⟩ := contention_run
  refine ⟨s, hrun, fun events s' hevents happrovals => ?_⟩
  exact ((executions_between_approvals (fun _ => rfl) hrun 7).1 events s' hevents happrovals).1

/-- An executor can run twice between two approvals. -/
theorem invoked_twice_between_approvals :
    ¬ ∀ (actionId : Uuid) (start s : System) (events : List Event), start.Quiet →
      (∃ action, start.repo.lookup actionId = some action ∧ action.status = .approved) →
      Run Step start events s → (∀ event ∈ events, event.approves actionId = false) →
      events.countP (Event.invokes actionId) ≤ 1 := by
  intro hclaim
  obtain ⟨s, hrun⟩ := contention_run
  have hle := hclaim 7 .approved s contention (fun _ => rfl) ⟨_, rfl, rfl⟩ hrun
    (by simp [contention, Event.approves])
  simp [contention, Event.invokes] at hle

end OneRecord

end IntentRebase
