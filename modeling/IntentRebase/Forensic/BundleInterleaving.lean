import IntentRebase.Forensic.BundleRepository
import IntentRebase.Kit.Clients

/-! Many changes of bundle statuses at once, in SQL. A change reads its bundle, checks the
transition from what it read, and writes with one statement; nothing holds the row in between. -/

namespace IntentRebase

open Kit

namespace SqlxBundleRepository

/-- The statement `UPDATE .. SET status WHERE bundle_id RETURNING`. -/
def writeStatus (s : SqlxBundleRepository) (bundleId : Uuid) (newStatus : BundleStatus) :
    BundleAnswer SqlxBundleRepository :=
  match s.rows.lookup bundleId with
  | none => (.error (.forensicBundleNotFound bundleId), s)
  | some row => (rowToBundle { row with status := bundleStatusToString newStatus },
      s.setStatus bundleId newStatus)

variable {s s' : SqlxBundleRepository} {bundleId : Uuid} {newStatus : BundleStatus}

/-- The status of a stored bundle. -/
def statusOf (s : SqlxBundleRepository) (bundleId : Uuid) : Option BundleStatus :=
  (s.record bundleId).map ForensicBundle.status

theorem writeStatus_record {bundle : ForensicBundle} (h : s.record bundleId = some bundle) :
    s.writeStatus bundleId newStatus =
      (.ok { bundle with status := newStatus }, s.setStatus bundleId newStatus) := by
  obtain ⟨row, hrow, hbundle⟩ := record_eq_some.mp h
  simp only [writeStatus, hrow, rowToBundle_status hbundle]

theorem writeStatus_none (h : s.record bundleId = none) :
    s.writeStatus bundleId newStatus = (.error (.forensicBundleNotFound bundleId), s) := by
  simp only [writeStatus, record_eq_none.mp h]

/-- The statement sets the status of the stored bundle, and leaves the other bundles. -/
theorem statusOf_writeStatus (s : SqlxBundleRepository) (bundleId other : Uuid)
    (newStatus : BundleStatus) :
    (s.writeStatus bundleId newStatus).2.statusOf other =
      if other = bundleId then (s.statusOf bundleId).map fun _ => newStatus
      else s.statusOf other := by
  cases hrecord : s.record bundleId with
  | none =>
    rw [writeStatus_none hrecord]
    split
    · next hid => simp only [hid, statusOf, hrecord, Option.map_none]
    · rfl
  | some bundle =>
    rw [writeStatus_record hrecord, statusOf, record_setStatus hrecord, Function.update_apply]
    split
    · simp only [statusOf, hrecord, Option.map_some]
    · rfl

/-- A statement that returns a row has set its status. -/
theorem writeStatus_ok {bundle : ForensicBundle}
    (h : s.writeStatus bundleId newStatus = (.ok bundle, s')) :
    s'.statusOf bundleId = some newStatus := by
  have hs' : s' = (s.writeStatus bundleId newStatus).2 := by rw [h]
  cases hrecord : s.record bundleId with
  | none =>
    rw [writeStatus_none hrecord] at h
    cases h
  | some stored =>
    rw [hs', statusOf_writeStatus, if_pos rfl, statusOf, hrecord]
    rfl

end SqlxBundleRepository

/-- A call of `update_status`. -/
structure StatusUpdate where
  bundleId : Uuid
  newStatus : BundleStatus

/-- How far a call has come. One that goes on to write has had its transition checked, from the
status that it read. -/
inductive StatusUpdateStage where
  | get (update : StatusUpdate)
  | check (update : StatusUpdate) (current : ForensicBundle)
  | write (update : StatusUpdate) (current : ForensicBundle)
      (allowed : current.status.canTransitionTo update.newStatus = true)

/-- The step of a stage. -/
def StatusUpdateStage.step (stage : StatusUpdateStage) (repo : SqlxBundleRepository) :
    Progress StatusUpdateStage (Except IntentRebaseError ForensicBundle) × SqlxBundleRepository :=
  match stage with
  | .get update =>
    match repo.get update.bundleId with
    | .error e => (.done (.error e), repo)
    | .ok current => (.more (.check update current), repo)
  | .check update current =>
    if h : current.status.canTransitionTo update.newStatus = true then
      (.more (.write update current h), repo)
    else
      (.done (.error (.invalidForensicBundleStatusTransition current.status.debug
        update.newStatus.debug "invalid status transition")), repo)
  | .write update _ _ =>
    let (answer, repo') := repo.writeStatus update.bundleId update.newStatus
    (.done answer, repo')

/-- The calls of `update_status`. -/
def statusUpdates : Calls SqlxBundleRepository StatusUpdate StatusUpdateStage
    (Except IntentRebaseError ForensicBundle) where
  first := .get
  step := StatusUpdateStage.step

/-- A call that no other interrupts is the repository's. -/
theorem statusUpdates_finish (update : StatusUpdate) (repo : SqlxBundleRepository) :
    statusUpdates.finish 3 (.get update) repo =
      some (repo.updateStatus update.bundleId update.newStatus) := by
  rw [SqlxBundleRepository.updateStatus]
  cases hget : repo.get update.bundleId with
  | error e =>
    exact Calls.finish_done (by simp only [statusUpdates, StatusUpdateStage.step, hget]) 2
  | ok current =>
    have hget' : statusUpdates.step (.get update) repo = (.more (.check update current), repo) := by
      simp only [statusUpdates, StatusUpdateStage.step, hget]
    rw [Calls.finish_more hget']
    by_cases hallowed : current.status.canTransitionTo update.newStatus = true
    · have hcheck : statusUpdates.step (.check update current) repo =
          (.more (.write update current hallowed), repo) := by
        simp only [statusUpdates, StatusUpdateStage.step, hallowed, dite_true]
      rw [Calls.finish_more hcheck]
      simp only [hallowed, Bool.not_true, Bool.false_eq_true, if_false]
      exact Calls.finish_done rfl 0
    · simp only [hallowed, Bool.not_false, if_true]
      exact Calls.finish_done
        (by simp only [statusUpdates, StatusUpdateStage.step, dif_neg hallowed]) 1

/-- The clients of the table of bundles. -/
abbrev BundleClients := Clients SqlxBundleRepository StatusUpdateStage

namespace BundleClients

variable {s : BundleClients} {t : Turn StatusUpdate} {turns : List (Turn StatusUpdate)}
  {bundleId : Uuid}

/-- The state after some turns. -/
abbrev after (s : BundleClients) (turns : List (Turn StatusUpdate)) : BundleClients :=
  Clients.run statusUpdates s turns

/-- A status that is Ready or Failed after some of the turns is the same after all later ones. -/
def TerminalKept (bundleId : Uuid) (s : BundleClients) (turns : List (Turn StatusUpdate)) : Prop :=
  ∀ earlier later status, earlier ++ later <+: turns → status.isTerminal = true →
    (s.after earlier).store.statusOf bundleId = some status →
    (s.after (earlier ++ later)).store.statusOf bundleId = some status

/-- Some call of the turns that sets the status of the bundle succeeds. -/
def Sets (bundleId : Uuid) (newStatus : BundleStatus) (s : BundleClients)
    (turns : List (Turn StatusUpdate)) : Prop :=
  ∃ current allowed bundle, (.write ⟨bundleId, newStatus⟩ current allowed, .ok bundle) ∈
    Clients.answers statusUpdates s turns

/-- The turn does not write a status over a Ready or Failed that its call has not read. -/
def Undisturbed (bundleId : Uuid) (s : BundleClients) (t : Turn StatusUpdate) : Prop :=
  ∀ client newStatus current allowed stored, t = .step client →
    s.stage client = some (.write ⟨bundleId, newStatus⟩ current allowed) →
    s.store.statusOf bundleId = some stored → stored.isTerminal = true →
    stored = current.status ∨ stored = newStatus

/-- What a turn does to the status of a bundle: nothing, or it is a write. -/
theorem statusOf_turn (bundleId : Uuid) (s : BundleClients) (t : Turn StatusUpdate) :
    (Clients.turn statusUpdates s t).store.statusOf bundleId = s.store.statusOf bundleId ∨
      ∃ client newStatus current allowed, t = .step client ∧
        s.stage client = some (.write ⟨bundleId, newStatus⟩ current allowed) ∧
        (Clients.turn statusUpdates s t).store.statusOf bundleId =
          (s.store.statusOf bundleId).map fun _ => newStatus := by
  rcases Clients.turn_store statusUpdates s t with hsame | ⟨client, k, rfl, hstage, hstore⟩
  · exact .inl (by rw [hsame])
  rw [hstore]
  cases k with
  | get update =>
    left
    simp only [statusUpdates, StatusUpdateStage.step]
    split <;> rfl
  | check update current =>
    left
    simp only [statusUpdates, StatusUpdateStage.step]
    split <;> rfl
  | write update current allowed =>
    obtain ⟨id, newStatus⟩ := update
    have hwrite := SqlxBundleRepository.statusOf_writeStatus s.store id bundleId newStatus
    by_cases hid : bundleId = id
    · subst hid
      rw [if_pos rfl] at hwrite
      exact .inr ⟨client, newStatus, current, allowed, rfl, hstage, hwrite⟩
    · rw [if_neg hid] at hwrite
      exact .inl hwrite

/-- A terminal status outlives an undisturbed turn. -/
theorem Undisturbed.keeps {status : BundleStatus} (h : Undisturbed bundleId s t)
    (hterminal : status.isTerminal = true) (hs : s.store.statusOf bundleId = some status) :
    (Clients.turn statusUpdates s t).store.statusOf bundleId = some status := by
  rcases statusOf_turn bundleId s t with hsame | ⟨client, newStatus, current, allowed, ht, hk, hset⟩
  · rw [hsame, hs]
  · rw [hset, hs, Option.map_some]
    rcases h client newStatus current allowed status ht hk hs hterminal with hread | hwritten
    · subst hread
      rw [(BundleStatus.canTransitionTo_of_isTerminal hterminal).mp allowed]
    · rw [hwritten]

/-- A call that succeeds has set its status. -/
theorem statusOf_of_answer {newStatus : BundleStatus} {current bundle : ForensicBundle}
    {allowed : current.status.canTransitionTo newStatus = true}
    (h : Clients.answer statusUpdates s t =
      some (.write ⟨bundleId, newStatus⟩ current allowed, .ok bundle)) :
    (Clients.turn statusUpdates s t).store.statusOf bundleId = some newStatus := by
  obtain ⟨client, -, -, hstep⟩ := Clients.answer_some h
  cases hwrite : s.store.writeStatus bundleId newStatus with
  | mk answer store =>
    simp only [statusUpdates, StatusUpdateStage.step, hwrite, Prod.mk.injEq,
      Progress.done.injEq] at hstep
    obtain ⟨rfl, hstore⟩ := hstep
    exact SqlxBundleRepository.writeStatus_ok (hstore ▸ hwrite)

/-- A turn that overwrites a Ready or Failed changes it. -/
theorem undisturbed_of_kept (h : TerminalKept bundleId s [t]) : Undisturbed bundleId s t := by
  intro client newStatus current allowed stored ht hstage hstored hterminal
  subst ht
  have hkept := h [] [.step client] stored (List.prefix_refl _) hterminal hstored
  have hset : (s.after [.step client]).store.statusOf bundleId = some newStatus := by
    have hwrite := SqlxBundleRepository.statusOf_writeStatus s.store bundleId bundleId newStatus
    rw [if_pos rfl, hstored, Option.map_some] at hwrite
    simp only [after, Clients.run_cons, Clients.run_nil, Clients.turn_step hstage,
      Clients.advance_store]
    exact hwrite
  exact .inr (Option.some.inj (hkept.symm.trans hset))

theorem TerminalKept.of_append_right {before later : List (Turn StatusUpdate)}
    (h : TerminalKept bundleId s (before ++ later)) :
    TerminalKept bundleId (s.after before) later := by
  intro earlier rest status hle hterminal hstatus
  rw [after, after, ← Clients.run_append] at hstatus ⊢
  rw [← List.append_assoc]
  refine h (before ++ earlier) rest status ?_ hterminal hstatus
  rw [List.append_assoc]
  exact (List.prefix_append_right_inj before).mpr hle

theorem TerminalKept.of_append_left {before later : List (Turn StatusUpdate)}
    (h : TerminalKept bundleId s (before ++ later)) : TerminalKept bundleId s before :=
  fun earlier rest status hle =>
    h earlier rest status (hle.trans (List.prefix_append before later))

/-- Kept terminal statuses are those that no turn overwrites. -/
theorem terminalKept_iff : TerminalKept bundleId s turns ↔
    AllSteps (Clients.turn statusUpdates) (Undisturbed bundleId) s turns := by
  constructor
  · intro h
    refine allSteps_of_first fun before t rest hsplit _ => undisturbed_of_kept ?_
    rw [hsplit, ← List.singleton_append] at h
    exact h.of_append_right.of_append_left
  · intro h earlier later status hle hterminal hstatus
    obtain ⟨rest, rfl⟩ := hle
    have hkeep : ∀ (s : BundleClients) (t : Turn StatusUpdate), Undisturbed bundleId s t →
        s.store.statusOf bundleId = some status →
        (Clients.turn statusUpdates s t).store.statusOf bundleId = some status :=
      fun s t hturn hs => hturn.keeps hterminal hs
    rw [after, Clients.run_append]
    exact h.append.1.append.2.invariant hkeep hstatus

/-- The status that a call set was stored after some of the turns. -/
theorem Sets.stored {newStatus : BundleStatus} (h : Sets bundleId newStatus s turns) :
    ∃ earlier, earlier <+: turns ∧ (s.after earlier).store.statusOf bundleId = some newStatus := by
  obtain ⟨current, allowed, bundle, hmem⟩ := h
  obtain ⟨before, t, rest, rfl, hanswer⟩ := Clients.mem_answers hmem
  refine ⟨before ++ [t], ⟨rest, by simp⟩, ?_⟩
  rw [after, Clients.run_append]
  exact statusOf_of_answer hanswer

/-- If terminal statuses are kept, only one of them is ever set. -/
theorem TerminalKept.oneWinner {status status' : BundleStatus} (h : TerminalKept bundleId s turns)
    (hterminal : status.isTerminal = true) (hterminal' : status'.isTerminal = true)
    (hset : Sets bundleId status s turns) (hset' : Sets bundleId status' s turns) :
    status = status' := by
  obtain ⟨earlier, hle, hstored⟩ := hset.stored
  obtain ⟨earlier', hle', hstored'⟩ := hset'.stored
  rcases List.prefix_or_prefix_of_prefix hle hle' with ⟨rest, rfl⟩ | ⟨rest, rfl⟩
  · have hkept := h earlier rest status hle' hterminal hstored
    exact Option.some.inj (hkept.symm.trans hstored')
  · have hkept := h earlier' rest status' hle hterminal' hstored'
    exact Option.some.inj (hstored.symm.trans hkept)

/-- The terminal statuses of a bundle are kept, and not both Ready and Failed are set, exactly in
the runs in which no call overwrites a terminal status that it has not read. -/
theorem terminal_safe_iff (bundleId : Uuid) (s : BundleClients) (turns : List (Turn StatusUpdate)) :
    (TerminalKept bundleId s turns ∧
      ¬ (Sets bundleId .ready s turns ∧ Sets bundleId .failed s turns)) ↔
    AllSteps (Clients.turn statusUpdates) (Undisturbed bundleId) s turns := by
  rw [← terminalKept_iff]
  constructor
  · exact And.left
  · intro h
    refine ⟨h, fun ⟨hready, hfailed⟩ => ?_⟩
    cases h.oneWinner rfl rfl hready hfailed

/-- A bundle that is being generated. -/
def generatingBundle : ForensicBundle :=
  { ForensicBundle.new 7 0 0 1 ⟨0, 0⟩ .legal {} "system" none with status := .generating }

/-- Two calls that read the bundle before either writes. -/
def readsFirst : List (Turn StatusUpdate) :=
  [.call 0 ⟨7, .ready⟩, .call 1 ⟨7, .failed⟩, .step 0, .step 1, .step 0, .step 1, .step 0, .step 1]

/-- Both calls succeed, and the status that the first one set is lost. -/
theorem terminal_overwritten :
    ¬ ∀ (bundleId : Uuid) (repo : SqlxBundleRepository) (turns : List (Turn StatusUpdate)),
      TerminalKept bundleId (Clients.idle repo) turns ∧
        ¬ (Sets bundleId .ready (Clients.idle repo) turns ∧
          Sets bundleId .failed (Clients.idle repo) turns) := by
  intro hclaim
  have hkept := (hclaim 7 (SqlxBundleRepository.new.insertRow generatingBundle) readsFirst).1
  have hready := hkept (readsFirst.take 7) (readsFirst.drop 7) .ready (by simp) rfl
    (by decide +kernel)
  revert hready
  decide +kernel

end BundleClients

end IntentRebase
