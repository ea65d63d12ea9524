import IntentRebase.Compensation.RepositoryAgreement
import IntentRebase.Kit.Agreement
import IntentRebase.Types.Column

/-! The in-memory and the SQL repository of compensation actions, call by call, with the limits of
the columns: exactly when a sequence of calls cannot tell one from the other. -/

namespace IntentRebase

open Kit ActionRepo

inductive Answer.Same : Answer → Answer → Prop
  | action {r r' : Except IntentRebaseError CompensationAction} (h : SameResult r r') :
      Answer.Same (.action r) (.action r')
  | actions {r r' : Except IntentRebaseError (List CompensationAction)} (h : SameResult r r') :
      Answer.Same (.actions r) (.actions r')

section Columns

/-- A text of the result holds the character with code 0. -/
def ExecutionResult.containsNul (result : ExecutionResult) : Bool :=
  [some result.summary, result.errorCode, result.errorDetail].any
    fun text => text.any IntentRebase.containsNul

/-- The value of the column `execution_result_payload`, which is JSON. -/
def resultColumn : Option ExecutionResult → Except String (Option ExecutionResult)
  | none => .ok none
  | some result =>
    if result.containsNul then .error "unsupported Unicode escape sequence" else .ok (some result)

/-- The row that holds the values bound for an action. -/
def ActionRow.bind (action : CompensationAction) : Except String ActionRow := do
  let executionResultPayload ← resultColumn action.executionResultPayload
  let rationale ← textColumn action.rationale
  let approvedBy ← nullableVarchar 255 action.approvedBy
  let waivedBy ← nullableVarchar 255 action.waivedBy
  let executedBy ← nullableVarchar 255 action.executedBy
  return { ofAction action with
    executionResultPayload, rationale, approvedBy, waivedBy, executedBy
    generatedAt := timestamptz action.generatedAt
    approvedAt := action.approvedAt.map timestamptz
    waivedAt := action.waivedAt.map timestamptz
    executedAt := action.executedAt.map timestamptz
    failedAt := action.failedAt.map timestamptz }

/-! The statements of the repository on the columns of the table, which refuse a value that they
cannot hold. A text is refused where it is bound, or too long only where a row is changed. -/

namespace ActionColumns

variable (table : ActionTable)

def create (action : CompensationAction) : Answered ActionTable :=
  match ActionRow.bind action with
  | .error e => (.error (.storageError s!"insert compensation action: {e}"), table)
  | .ok row =>
    match table.lookup row.id with
    | some _ => (.error (.storageError
        "insert compensation action: duplicate key value violates unique constraint"), table)
    | none => (.ok action, table.insert row.id row)

/-- An update whose condition is the lock version. -/
def updateLocked (what : String) (texts : List (Option String)) (actionId : Uuid)
    (lockVersion : Int) (set : ActionRow → Except String ActionRow) : Answered ActionTable :=
  if texts.any fun text => text.any containsNul then
    (.error (.storageError s!"{what}: invalid byte sequence for encoding \"UTF8\": 0x00"), table)
  else
    match table.lookup actionId with
    | none => (.error (.concurrencyConflict actionId), table)
    | some row =>
      if row.lockVersion ≠ lockVersion then (.error (.concurrencyConflict actionId), table)
      else
        match set row with
        | .error e => (.error (.storageError s!"{what}: {e}"), table)
        | .ok row => (rowToAction row, table.insert actionId row)

def setStatus (now : DateTime) (newStatus : CompensationStatus)
    (approvedBy waivedBy : Option String) (row : ActionRow) : Except String ActionRow := do
  let approvedBy ← nullableVarchar 255 approvedBy
  let waivedBy ← nullableVarchar 255 waivedBy
  let lockVersion ← integerColumn (row.lockVersion + 1)
  return { SqlxCompensationActionRepository.setStatus (timestamptz now) newStatus approvedBy
    waivedBy row with lockVersion }

def updateStatus (now : DateTime) (actionId : Uuid) (newStatus : CompensationStatus)
    (lockVersion : Int) (approvedBy waivedBy : Option String) : Answered ActionTable :=
  updateLocked table "update compensation action status" [approvedBy, waivedBy] actionId
    lockVersion (setStatus now newStatus approvedBy waivedBy)

def setResult (now : DateTime) (result : ExecutionResult) (executedBy : Option String)
    (row : ActionRow) : Except String ActionRow := do
  let executedBy ← nullableVarchar 255 executedBy
  let attemptCount ← integerColumn (row.attemptCount + 1)
  let lockVersion ← integerColumn (row.lockVersion + 1)
  return { SqlxCompensationActionRepository.setResult (timestamptz now) result executedBy row with
    attemptCount, lockVersion }

def recordResult (now : DateTime) (actionId : Uuid) (result : ExecutionResult) (lockVersion : Int)
    (executedBy : Option String) : Answered ActionTable :=
  updateLocked table "record compensation result"
    [some result.summary, result.errorCode, result.errorDetail, executedBy] actionId lockVersion
    (setResult now result executedBy)

def reapprove (actionId : Uuid) (lockVersion : Int) : Answered ActionTable :=
  match (table.lookup actionId).filter
      fun row => row.lockVersion = lockVersion && row.status == "failed" with
  | some row =>
    match integerColumn (row.lockVersion + 1) with
    | .error e => (.error (.storageError s!"reapprove compensation action: {e}"), table)
    | .ok _ => SqlxCompensationActionRepository.reapprove table actionId lockVersion
  | none => SqlxCompensationActionRepository.reapprove table actionId lockVersion

def repository (scan : IterOrder ActionRow) : CompensationActionRepository ActionTable where
  create := create
  get := SqlxCompensationActionRepository.get
  listByTenant table := SqlxCompensationActionRepository.listByTenant table scan
  updateStatus := updateStatus
  recordResult := recordResult
  reapprove := reapprove

end ActionColumns

/-- What the columns of `compensation_actions` ask of an action, to hold it as it is. -/
structure CompensationAction.Fits (action : CompensationAction) : Prop where
  rationale : containsNul action.rationale = false
  executionResultPayload : ∀ result ∈ action.executionResultPayload, result.containsNul = false
  approvedBy : ∀ text, action.approvedBy = some text → text.length ≤ 255 ∧ containsNul text = false
  waivedBy : ∀ text, action.waivedBy = some text → text.length ≤ 255 ∧ containsNul text = false
  executedBy : ∀ text, action.executedBy = some text → text.length ≤ 255 ∧ containsNul text = false
  generatedAt : action.generatedAt % 1000 = 0
  approvedAt : ∀ time ∈ action.approvedAt, time % 1000 = 0
  waivedAt : ∀ time ∈ action.waivedAt, time % 1000 = 0
  executedAt : ∀ time ∈ action.executedAt, time % 1000 = 0
  failedAt : ∀ time ∈ action.failedAt, time % 1000 = 0

/-- The column of an actor holds after an update what the map does: the actor of the update's own
status is held as it is given, and any other is not given, or the one that is stored. -/
structure ActorFits (own : Prop) (given stored : Option String) : Prop where
  kept : own → ∀ text, given = some text → text.length ≤ 255 ∧ containsNul text = false
  stored : ¬ own → given = none ∨ nullableVarchar 255 given = .ok stored

/-- An update of the status sets of an action what the map does. -/
structure StatusFits (now : DateTime) (newStatus : CompensationStatus) (lockVersion : Int)
    (approvedBy waivedBy : Option String) (action : CompensationAction) : Prop where
  texts : ∀ given ∈ [approvedBy, waivedBy], ∀ text ∈ given, containsNul text = false
  counter : action.lockVersion = lockVersion → IsI32 (action.lockVersion + 1)
  time : action.lockVersion = lockVersion → newStatus ≠ .pending → now % 1000 = 0
  approvedBy : action.lockVersion = lockVersion →
    ActorFits (newStatus = .approved) approvedBy action.approvedBy
  waivedBy : action.lockVersion = lockVersion →
    ActorFits (newStatus = .waived) waivedBy action.waivedBy

/-- The recording of a result sets of an action what the map does. -/
structure ResultFits (now : DateTime) (result : ExecutionResult) (lockVersion : Int)
    (executedBy : Option String) (action : CompensationAction) : Prop where
  texts : ∀ given ∈ [some result.summary, result.errorCode, result.errorDetail, executedBy],
    ∀ text ∈ given, containsNul text = false
  counters : action.lockVersion = lockVersion →
    IsI32 (action.attemptCount + 1) ∧ IsI32 (action.lockVersion + 1)
  time : action.lockVersion = lockVersion → timestamptz now = result.completedAt
  executedBy : action.lockVersion = lockVersion →
    ActorFits (result.success = true) executedBy action.executedBy

end Columns

/-- The call does not reach a difference between the two repositories. -/
def RepositoryCall.InStep (s : InMemoryCompensationActionRepository) : RepositoryCall → Prop
  | .create action => s.actions.lookup action.id = none ∧ action.Fits
  | .get _ => True
  | .listByTenant tenantId limit =>
    ListsAlike limit (s.select fun action => action.tenantId = tenantId)
  | .updateStatus now actionId newStatus lockVersion approvedBy waivedBy =>
    ∃ action, s.actions.lookup actionId = some action ∧
      StatusFits now newStatus lockVersion approvedBy waivedBy action
  | .recordResult now actionId result lockVersion executedBy =>
    ∃ action, s.actions.lookup actionId = some action ∧
      ResultFits now result lockVersion executedBy action
  | .approve now actionId lockVersion approvedBy =>
    ∀ action, s.actions.lookup actionId = some action →
      (action.status.canTransitionTo .approved).allowed = true →
      StatusFits now .approved lockVersion approvedBy none action
  | .waive now actionId lockVersion waivedBy =>
    ∀ action, s.actions.lookup actionId = some action →
      (action.status.canTransitionTo .waived).allowed = true →
      StatusFits now .waived lockVersion none waivedBy action
  | .reapprove actionId lockVersion =>
    ∀ action, s.actions.lookup actionId = some action →
      if action.lockVersion = lockVersion then
        action.status = .failed → IsI32 (action.lockVersion + 1)
      else action.status = .failed

def inMemoryActionCall (_ : IterOrder ActionRow) (call : RepositoryCall)
    (s : InMemoryCompensationActionRepository) : Answer × InMemoryCompensationActionRepository :=
  call.apply InMemoryCompensationActionRepository.repository s

def sqlxActionCall (scan : IterOrder ActionRow) (call : RepositoryCall) (table : ActionTable) :
    Answer × ActionTable :=
  call.apply (ActionColumns.repository scan) table

/-- Whatever the order in which the database scans its rows, up to every call of a sequence the two
repositories give the same answers and have the same contents. -/
def Interchangeable (s : InMemoryCompensationActionRepository) (table : ActionTable)
    (calls : List RepositoryCall) : Prop :=
  ∀ before, before <+: calls →
    Agree inMemoryActionCall sqlxActionCall Answer.Same SameContents s table before

/-- Every call of a sequence is in step. -/
def AllInStep : InMemoryCompensationActionRepository → List RepositoryCall → Prop :=
  AllSteps (fun s call => call.next s) fun s call => call.InStep s

section Updates

variable {s : InMemoryCompensationActionRepository} {table : ActionTable}

/-- An action has one row. -/
theorem ofAction_injective {action action' : CompensationAction}
    (h : ActionRow.ofAction action = .ofAction action') : action = action' := by
  have hread := congrArg rowToAction h
  rw [rowToAction_ofAction, rowToAction_ofAction] at hread
  exact Except.ok.inj hread

/-- The row that is bound for an action is its own exactly if the action fits the columns. -/
theorem ActionRow.bind_eq_ofAction {action : CompensationAction} :
    bind action = .ok (.ofAction action) ↔ action.Fits := by
  have hresult : ∀ result : Option ExecutionResult, resultColumn result = .ok result ↔
      ∀ r ∈ result, r.containsNul = false := by
    intro result
    cases result with
    | none => simp [resultColumn]
    | some r => simp [resultColumn]
  simp only [bind, bind_eq_ok]
  constructor
  · rintro ⟨payload, hpayload, rationale, hrationale, approvedBy, happroved, waivedBy, hwaived,
      executedBy, hexecuted, hrow⟩
    have hfields := Except.ok.inj hrow
    simp only [ofAction, ActionRow.mk.injEq, true_and] at hfields
    obtain ⟨rfl, rfl, hgenerated, hat, rfl, hwaivedAt, rfl, hexecutedAt, rfl, hfailedAt⟩ := hfields
    exact {
      rationale := (textColumn_ok.mp hrationale).1
      executionResultPayload := (hresult _).mp hpayload
      approvedBy := nullableVarchar_eq_self.mp happroved
      waivedBy := nullableVarchar_eq_self.mp hwaived
      executedBy := nullableVarchar_eq_self.mp hexecuted
      generatedAt := timestamptz_eq_self.mp hgenerated
      approvedAt := map_timestamptz_eq_self.mp hat
      waivedAt := map_timestamptz_eq_self.mp hwaivedAt
      executedAt := map_timestamptz_eq_self.mp hexecutedAt
      failedAt := map_timestamptz_eq_self.mp hfailedAt }
  · intro h
    refine ⟨_, (hresult _).mpr h.executionResultPayload, _, textColumn_ok.mpr ⟨h.rationale, rfl⟩,
      _, nullableVarchar_eq_self.mpr h.approvedBy, _, nullableVarchar_eq_self.mpr h.waivedBy, _,
      nullableVarchar_eq_self.mpr h.executedBy, ?_⟩
    rw [timestamptz_eq_self.mpr h.generatedAt, map_timestamptz_eq_self.mpr h.approvedAt,
      map_timestamptz_eq_self.mpr h.waivedAt, map_timestamptz_eq_self.mpr h.executedAt,
      map_timestamptz_eq_self.mpr h.failedAt]
    rfl

/-- The insertion agrees exactly if the identifier is new and the action fits the columns. -/
theorem create_same (h : SameContents s table) (action : CompensationAction) :
    SameResult (s.create action).1 (ActionColumns.create table action).1 ∧
        SameContents (s.create action).2 (ActionColumns.create table action).2 ↔
      s.actions.lookup action.id = none ∧ action.Fits := by
  rw [ActionColumns.create]
  cases hbind : ActionRow.bind action with
  | error e =>
    refine iff_of_false (fun hsame => by cases hsame.1) fun hstep => ?_
    rw [ActionRow.bind_eq_ofAction.mpr hstep.2] at hbind
    cases hbind
  | ok row =>
    have hid : row.id = action.id := by
      simp only [ActionRow.bind, bind_eq_ok] at hbind
      obtain ⟨_, -, _, -, _, -, _, -, _, -, hrow⟩ := hbind
      exact congrArg ActionRow.id (Except.ok.inj hrow).symm
    dsimp only
    rw [hid, h action.id]
    cases hlookup : s.actions.lookup action.id with
    | some old => exact iff_of_false (fun hsame => by cases hsame.1) (by simp)
    | none =>
      rw [← ActionRow.bind_eq_ofAction, hbind]
      dsimp only [Option.map_none]
      constructor
      · rintro ⟨-, hcontents⟩
        have hnew := hcontents action.id
        rw [lookup_insert_eq, if_pos rfl, InMemoryCompensationActionRepository.create,
          lookup_insert_eq, if_pos rfl] at hnew
        exact ⟨rfl, congrArg Except.ok (Option.some.inj hnew)⟩
      · rintro ⟨-, hrow⟩
        obtain rfl := Except.ok.inj hrow
        exact ⟨.ok action, h.insert action.id action rfl⟩

/-- Both updates of one action, the in-memory one by `change` and the SQL one by `set`, agree
exactly if the action is stored, the texts can be bound and, under its lock version, the row of the
changed action is set. -/
theorem updateLocked_same (h : SameContents s table) (what : String)
    (texts : List (Option String)) {actionId : Uuid} {lockVersion : Int}
    {change : CompensationAction → CompensationAction} {set : ActionRow → Except String ActionRow} :
    SameResult (s.lockedUpdate actionId lockVersion fun action => .ok (change action)).1
          (ActionColumns.updateLocked table what texts actionId lockVersion set).1 ∧
        SameContents (s.lockedUpdate actionId lockVersion fun action => .ok (change action)).2
          (ActionColumns.updateLocked table what texts actionId lockVersion set).2 ↔
      ∃ action, s.actions.lookup actionId = some action ∧
        (∀ given ∈ texts, ∀ text ∈ given, containsNul text = false) ∧
        (action.lockVersion = lockVersion → set (.ofAction action) =
          .ok (.ofAction { change action with lockVersion := action.lockVersion + 1 })) := by
  have htexts : (texts.any fun text => text.any containsNul) = false ↔
      ∀ given ∈ texts, ∀ text ∈ given, containsNul text = false := by
    simp only [List.any_eq_false, Option.any_eq_true, Option.mem_def, not_exists, not_and,
      Bool.not_eq_true]
  rw [ActionColumns.updateLocked, h actionId, InMemoryCompensationActionRepository.lockedUpdate,
    ← htexts]
  cases s.actions.lookup actionId with
  | none =>
    refine iff_of_false (fun hsame => ?_) (by simp)
    have hanswer := hsame.1
    dsimp only [Option.map_none] at hanswer
    split at hanswer <;> cases hanswer with
    | error hkind => cases hkind
  | some action =>
    have hlock : (ActionRow.ofAction action).lockVersion = action.lockVersion := rfl
    simp only [Option.map_some, hlock, Option.some.injEq, exists_eq_left']
    by_cases hrefused : texts.any fun text => text.any containsNul
    · simp only [hrefused, ↓reduceIte, Bool.true_eq_false, false_and, iff_false]
      rintro ⟨hanswer, -⟩
      split at hanswer
      · cases hanswer with
        | error hkind => cases hkind
      · cases hanswer
    simp only [hrefused, Bool.false_eq_true, ↓reduceIte, true_and]
    by_cases hmatch : action.lockVersion = lockVersion
    · simp only [hmatch, ne_eq, not_true_eq_false, ↓reduceIte, true_imp_iff]
      cases set (.ofAction action) with
      | error e => exact iff_of_false (fun hsame => by cases hsame.1) (by simp)
      | ok row =>
        constructor
        · rintro ⟨-, hcontents⟩
          have hnew := hcontents actionId
          rw [lookup_insert_eq, if_pos rfl, lookup_insert_eq, if_pos rfl] at hnew
          exact congrArg Except.ok (Option.some.inj hnew)
        · intro hrow
          obtain rfl := Except.ok.inj hrow
          dsimp only
          rw [rowToAction_ofAction]
          exact ⟨.ok _, h.insert actionId _ rfl⟩
    · simp only [hmatch, ne_eq, not_false_eq_true, ↓reduceIte, false_imp_iff, iff_true]
      exact ⟨.refl _, h⟩

end Updates

section Changes

variable (now : DateTime) (newStatus : CompensationStatus) (approvedBy waivedBy : Option String)
  (result : ExecutionResult) (executedBy : Option String) (action : CompensationAction)

/-- The actor that `COALESCE` leaves is the one in the map exactly if it fits. -/
theorem actorFits_iff {own : Prop} [Decidable own] {given stored : Option String} :
    (∃ value, nullableVarchar 255 given = .ok value ∧
        (if own then given.or stored else stored) = value.or stored) ↔
      ActorFits own given stored := by
  by_cases hown : own
  · have hfits : ActorFits own given stored ↔ nullableVarchar 255 given = .ok given :=
      ⟨fun h => nullableVarchar_eq_self.mpr (h.kept hown),
        fun h => ⟨fun _ => nullableVarchar_eq_self.mp h, fun hnot => absurd hown hnot⟩⟩
    rw [hfits]
    cases given with
    | none => simp [hown, nullableVarchar]
    | some text =>
      cases hvalue : varchar 255 text <;>
        simp [hown, nullableVarchar, hvalue, Except.map, eq_comm]
  · have hfits : ActorFits own given stored ↔
        given = none ∨ nullableVarchar 255 given = .ok stored :=
      ⟨fun h => h.stored hown, fun h => ⟨fun h' => absurd h' hown, fun _ => h⟩⟩
    rw [hfits]
    cases given with
    | none => simp [hown, nullableVarchar]
    | some text =>
      cases hvalue : varchar 255 text <;>
        simp [hown, nullableVarchar, hvalue, Except.map, eq_comm]

theorem ok_ofAction_inj {action action' : CompensationAction} :
    (Except.ok (ActionRow.ofAction action) : Except String ActionRow) = .ok (.ofAction action') ↔
      action = action' :=
  ⟨fun h => ofAction_injective (Except.ok.inj h), fun h => h ▸ rfl⟩

/-- The columns of a status are set as the map does exactly if the update fits. -/
theorem setStatus_iff (lockVersion : Int) :
    ((∀ given ∈ [approvedBy, waivedBy], ∀ text ∈ given, containsNul text = false) ∧
        (action.lockVersion = lockVersion →
          ActionColumns.setStatus now newStatus approvedBy waivedBy (.ofAction action) =
            .ok (.ofAction { withStatus now newStatus approvedBy waivedBy action with
              lockVersion := action.lockVersion + 1 }))) ↔
      StatusFits now newStatus lockVersion approvedBy waivedBy action := by
  have hset : ActionColumns.setStatus now newStatus approvedBy waivedBy (.ofAction action) =
        .ok (.ofAction { withStatus now newStatus approvedBy waivedBy action with
          lockVersion := action.lockVersion + 1 }) ↔
      IsI32 (action.lockVersion + 1) ∧ (newStatus ≠ .pending → now % 1000 = 0) ∧
        ActorFits (newStatus = .approved) approvedBy action.approvedBy ∧
        ActorFits (newStatus = .waived) waivedBy action.waivedBy := by
    simp only [ActionColumns.setStatus, bind_eq_ok, integerColumn_ok, ← actorFits_iff,
      setStatus_ofAction]
    have hchange : ∀ a w, statusSet (timestamptz now) newStatus a w action =
          { withStatus now newStatus approvedBy waivedBy action with
            lockVersion := action.lockVersion + 1 } ↔
        (newStatus ≠ .pending → now % 1000 = 0) ∧
          (if newStatus = .approved then approvedBy.or action.approvedBy else action.approvedBy) =
            a.or action.approvedBy ∧
          (if newStatus = .waived then waivedBy.or action.waivedBy else action.waivedBy) =
            w.or action.waivedBy := by
      intro a w
      rw [← timestamptz_eq_self]
      cases newStatus <;>
        simp [withStatus, statusSet, eq_comm, and_comm, and_left_comm]
    constructor
    · rintro ⟨a, ha, w, hw, _, ⟨hroom, rfl⟩, hrow⟩
      obtain ⟨htime, happroved, hwaived⟩ := (hchange a w).mp (ok_ofAction_inj.mp hrow)
      exact ⟨hroom, htime, ⟨a, ha, happroved⟩, ⟨w, hw, hwaived⟩⟩
    · rintro ⟨hroom, htime, ⟨a, ha, happroved⟩, ⟨w, hw, hwaived⟩⟩
      exact ⟨a, ha, w, hw, _, ⟨hroom, rfl⟩,
        ok_ofAction_inj.mpr ((hchange a w).mpr ⟨htime, happroved, hwaived⟩)⟩
  constructor
  · rintro ⟨htexts, hrow⟩
    exact ⟨htexts, fun hlock => (hset.mp (hrow hlock)).1, fun hlock => (hset.mp (hrow hlock)).2.1,
      fun hlock => (hset.mp (hrow hlock)).2.2.1, fun hlock => (hset.mp (hrow hlock)).2.2.2⟩
  · intro h
    exact ⟨h.texts, fun hlock =>
      hset.mpr ⟨h.counter hlock, h.time hlock, h.approvedBy hlock, h.waivedBy hlock⟩⟩

/-- The columns of a result are set as the map does exactly if the recording fits. -/
theorem setResult_iff (lockVersion : Int) :
    ((∀ given ∈ [some result.summary, result.errorCode, result.errorDetail, executedBy],
          ∀ text ∈ given, containsNul text = false) ∧
        (action.lockVersion = lockVersion →
          ActionColumns.setResult now result executedBy (.ofAction action) =
            .ok (.ofAction { withResult result executedBy action with
              lockVersion := action.lockVersion + 1 }))) ↔
      ResultFits now result lockVersion executedBy action := by
  have hset : ActionColumns.setResult now result executedBy (.ofAction action) =
        .ok (.ofAction { withResult result executedBy action with
          lockVersion := action.lockVersion + 1 }) ↔
      (IsI32 (action.attemptCount + 1) ∧ IsI32 (action.lockVersion + 1)) ∧
        timestamptz now = result.completedAt ∧
        ActorFits (result.success = true) executedBy action.executedBy := by
    simp only [ActionColumns.setResult, bind_eq_ok, integerColumn_ok, ← actorFits_iff,
      setResult_ofAction]
    have hchange : ∀ a, resultSet (timestamptz now) result a action =
          { withResult result executedBy action with
            lockVersion := action.lockVersion + 1 } ↔
        timestamptz now = result.completedAt ∧
          (if result.success = true then executedBy.or action.executedBy else action.executedBy) =
            a.or action.executedBy := by
      intro a
      cases hsuccess : result.success <;>
        simp [withResult, resultSet, hsuccess, eq_comm, and_comm]
    constructor
    · rintro ⟨a, ha, _, ⟨hattempt, rfl⟩, _, ⟨hroom, rfl⟩, hrow⟩
      obtain ⟨htime, hexecuted⟩ := (hchange a).mp (ok_ofAction_inj.mp hrow)
      exact ⟨⟨hattempt, hroom⟩, htime, ⟨a, ha, hexecuted⟩⟩
    · rintro ⟨⟨hattempt, hroom⟩, htime, ⟨a, ha, hexecuted⟩⟩
      exact ⟨a, ha, _, ⟨hattempt, rfl⟩, _, ⟨hroom, rfl⟩,
        ok_ofAction_inj.mpr ((hchange a).mpr ⟨htime, hexecuted⟩)⟩
  constructor
  · rintro ⟨htexts, hrow⟩
    exact ⟨htexts, fun hlock => (hset.mp (hrow hlock)).1, fun hlock => (hset.mp (hrow hlock)).2.1,
      fun hlock => (hset.mp (hrow hlock)).2.2⟩
  · intro h
    exact ⟨h.texts, fun hlock => hset.mpr ⟨h.counters hlock, h.time hlock, h.executedBy hlock⟩⟩

end Changes

section Calls

variable {s : InMemoryCompensationActionRepository} {table : ActionTable}

/-- The reapproval agrees exactly if what it finds is Failed, unless only the lock version is right,
and the lock version can be counted up. -/
theorem reapproveColumns_same (h : SameContents s table) (actionId : Uuid) (lockVersion : Int) :
    SameResult (s.reapprove actionId lockVersion).1
          (ActionColumns.reapprove table actionId lockVersion).1 ∧
        SameContents (s.reapprove actionId lockVersion).2
          (ActionColumns.reapprove table actionId lockVersion).2 ↔
      RepositoryCall.InStep s (.reapprove actionId lockVersion) := by
  have hplain : (SameResult (s.reapprove actionId lockVersion).1
        (SqlxCompensationActionRepository.reapprove table actionId lockVersion).1 ∧
      SameContents (s.reapprove actionId lockVersion).2
        (SqlxCompensationActionRepository.reapprove table actionId lockVersion).2) ↔
      ∀ action, s.actions.lookup actionId = some action → action.lockVersion ≠ lockVersion →
        action.status = .failed :=
    ⟨fun hsame => (reapprove_same h actionId lockVersion).mp hsame.1,
      fun hstep => ⟨(reapprove_same h actionId lockVersion).mpr hstep,
        reapprove_sameContents h actionId lockVersion⟩⟩
  rw [ActionColumns.reapprove, h actionId]
  cases hlookup : s.actions.lookup actionId with
  | none =>
    dsimp only [Option.map_none, Option.filter_none]
    rw [hplain, RepositoryCall.InStep, hlookup]
    simp
  | some action =>
    have hlock : (ActionRow.ofAction action).lockVersion = action.lockVersion := rfl
    have hstatus : ((ActionRow.ofAction action).status == "failed") =
        decide (action.status = .failed) := by
      cases hst : action.status <;> simp [ActionRow.ofAction, compensationStatusToString, hst]
    rw [Option.map_some, Option.filter_some, hlock, hstatus, RepositoryCall.InStep, hlookup]
    simp only [Option.some.injEq, forall_eq']
    by_cases hmatch : action.lockVersion = lockVersion ∧ action.status = .failed
    · simp only [hmatch.1, hmatch.2, hlock, decide_true, Bool.and_self, ↓reduceIte, true_imp_iff]
      by_cases hroom : IsI32 (lockVersion + 1)
      · rw [integerColumn_ok.mpr ⟨hroom, rfl⟩]
        refine iff_of_true (hplain.mpr fun a ha _ => ?_) hroom
        obtain rfl := Option.some.inj (hlookup.symm.trans ha)
        exact hmatch.2
      · rw [integerColumn, if_neg hroom]
        refine iff_of_false (fun hsame => ?_) hroom
        have hmemory := congrArg Prod.fst (reapprove_eq s actionId lockVersion)
        rw [Prod.map_fst, id_eq, hlookup] at hmemory
        have hanswer := hsame.1
        rw [hmemory] at hanswer
        simp only [hmatch.1, hmatch.2, ne_eq, not_true_eq_false, ↓reduceIte] at hanswer
        cases hanswer
    · rw [show (decide (action.lockVersion = lockVersion) && decide (action.status = .failed)) =
        false by simpa using hmatch]
      simp only [Bool.false_eq_true, ↓reduceIte]
      rw [hplain, hlookup]
      simp only [Option.some.injEq, forall_eq']
      by_cases hlock' : action.lockVersion = lockVersion
      · simp only [hlock', ne_eq, not_true_eq_false, false_imp_iff, ↓reduceIte, true_iff]
        exact fun hfailed => absurd ⟨hlock', hfailed⟩ hmatch
      · simp only [hlock', ne_eq, not_false_eq_true, true_imp_iff, ↓reduceIte]

/-- The update of the status agrees exactly if the action is stored and the update fits. -/
theorem updateStatus_same (h : SameContents s table) (now : DateTime) (actionId : Uuid)
    (newStatus : CompensationStatus) (lockVersion : Int) (approvedBy waivedBy : Option String) :
    SameResult (s.updateStatus now actionId newStatus lockVersion approvedBy waivedBy).1
          (ActionColumns.updateStatus table now actionId newStatus lockVersion approvedBy
            waivedBy).1 ∧
        SameContents (s.updateStatus now actionId newStatus lockVersion approvedBy waivedBy).2
          (ActionColumns.updateStatus table now actionId newStatus lockVersion approvedBy
            waivedBy).2 ↔
      RepositoryCall.InStep s
        (.updateStatus now actionId newStatus lockVersion approvedBy waivedBy) := by
  refine (updateLocked_same h _ [approvedBy, waivedBy]).trans ?_
  simp only [setStatus_iff]
  exact Iff.rfl

theorem recordResult_same (h : SameContents s table) (now : DateTime) (actionId : Uuid)
    (result : ExecutionResult) (lockVersion : Int) (executedBy : Option String) :
    SameResult (s.recordResult actionId result lockVersion executedBy).1
          (ActionColumns.recordResult table now actionId result lockVersion executedBy).1 ∧
        SameContents (s.recordResult actionId result lockVersion executedBy).2
          (ActionColumns.recordResult table now actionId result lockVersion executedBy).2 ↔
      RepositoryCall.InStep s (.recordResult now actionId result lockVersion executedBy) := by
  refine (updateLocked_same h _ _).trans ?_
  simp only [setResult_iff]
  exact Iff.rfl

/-- An approval or a waiver agrees exactly if the update of the status that it makes fits, where
the action's status allows it. -/
theorem transition_same (h : SameContents s table) (scan : IterOrder ActionRow) (now : DateTime)
    (actionId : Uuid) (target : CompensationStatus) (lockVersion : Int)
    (approvedBy waivedBy : Option String) :
    SameResult (InMemoryCompensationActionRepository.repository.transition s now actionId target
            lockVersion approvedBy waivedBy).1
          ((ActionColumns.repository scan).transition table now actionId target lockVersion
            approvedBy waivedBy).1 ∧
        SameContents (InMemoryCompensationActionRepository.repository.transition s now actionId
            target lockVersion approvedBy waivedBy).2
          ((ActionColumns.repository scan).transition table now actionId target lockVersion
            approvedBy waivedBy).2 ↔
      ∀ action, s.actions.lookup actionId = some action →
        (action.status.canTransitionTo target).allowed = true →
        StatusFits now target lockVersion approvedBy waivedBy action := by
  have hget : (ActionColumns.repository scan).get table actionId =
      InMemoryCompensationActionRepository.repository.get s actionId := h.get actionId
  rw [CompensationActionRepository.transition, CompensationActionRepository.transition, hget]
  cases hread : InMemoryCompensationActionRepository.repository.get s actionId with
  | error e =>
    refine iff_of_true ⟨.refl _, h⟩ fun action hlookup => ?_
    have hfound : InMemoryCompensationActionRepository.repository.get s actionId = .ok action := by
      change InMemoryCompensationActionRepository.get s actionId = .ok action
      rw [InMemoryCompensationActionRepository.get, hlookup]
    rw [hread] at hfound
    cases hfound
  | ok action =>
    have hlookup : s.actions.lookup actionId = some action := get_ok hread
    dsimp only
    cases hallowed : (action.status.canTransitionTo target).allowed with
    | false =>
      simp only [Bool.not_false, ↓reduceIte]
      exact iff_of_true ⟨.refl _, h⟩ (by simp [hlookup, hallowed])
    | true =>
      simp only [Bool.not_true, Bool.false_eq_true, ↓reduceIte, hlookup, Option.some.injEq,
        forall_eq', hallowed, true_imp_iff]
      refine (updateStatus_same h now actionId target lockVersion approvedBy waivedBy).trans ?_
      rw [RepositoryCall.InStep, hlookup]
      simp

end Calls

section Runs

variable {s : InMemoryCompensationActionRepository} {table : ActionTable} {call : RepositoryCall}

theorem same_action {r r' : Except IntentRebaseError CompensationAction} :
    Answer.Same (.action r) (.action r') ↔ SameResult r r' := by
  refine ⟨fun h => ?_, .action⟩
  cases h with
  | action h => exact h

theorem same_actions {r r' : Except IntentRebaseError (List CompensationAction)} :
    Answer.Same (.actions r) (.actions r') ↔ SameResult r r' := by
  refine ⟨fun h => ?_, .actions⟩
  cases h with
  | actions h => exact h

/-- What a call does does not depend on the scan unless it lists. -/
theorem sqlxActionCall_scan
    (hlist : ∀ tenantId limit, call ≠ .listByTenant tenantId limit) (scan scan' : IterOrder ActionRow)
    (table : ActionTable) : sqlxActionCall scan call table = sqlxActionCall scan' call table := by
  cases call with
  | listByTenant tenantId limit => exact absurd rfl (hlist tenantId limit)
  | _ =>
    simp only [sqlxActionCall, RepositoryCall.apply, ActionColumns.repository,
      CompensationActionRepository.approveAction, CompensationActionRepository.waiveAction,
      CompensationActionRepository.transition]

theorem sqlxActionCall_state (scan scan' : IterOrder ActionRow) (call : RepositoryCall)
    (table : ActionTable) :
    (sqlxActionCall scan call table).2 = (sqlxActionCall scan' call table).2 := by
  cases call with
  | listByTenant tenantId limit => simp only [sqlxActionCall, RepositoryCall.apply]
  | _ => rw [sqlxActionCall_scan (fun _ _ h => by cases h) scan scan']

theorem forall_scan_same (hlist : ∀ tenantId limit, call ≠ .listByTenant tenantId limit) :
    (∀ scan, Answer.Same (inMemoryActionCall scan call s).1 (sqlxActionCall scan call table).1) ↔
      Answer.Same (call.apply InMemoryCompensationActionRepository.repository s).1
        (sqlxActionCall (.id _) call table).1 := by
  constructor
  · exact fun h => h (.id _)
  · intro h scan
    rw [sqlxActionCall_scan hlist scan (.id _)]
    exact h

/-- A call gets the same answer from both repositories, and leaves the same contents, exactly if it
is in step. -/
theorem apply_same (hs : s.Consistent) (h : SameContents s table) (call : RepositoryCall) :
    (∀ scan, Answer.Same (inMemoryActionCall scan call s).1 (sqlxActionCall scan call table).1) ∧
        SameContents (call.next s) (sqlxActionCall (.id _) call table).2 ↔
      call.InStep s := by
  cases call with
  | create action =>
    rw [forall_scan_same fun _ _ h => by cases h]
    exact (and_congr_left' same_action).trans (create_same h action)
  | get actionId =>
    refine iff_of_true ⟨fun scan => .action ?_, h⟩ trivial
    have hget : (ActionColumns.repository scan).get table actionId =
        InMemoryCompensationActionRepository.repository.get s actionId := h.get actionId
    rw [hget]
    exact .refl _
  | listByTenant tenantId limit =>
    refine (and_iff_left h).trans ?_
    exact (forall_congr' fun scan => same_actions).trans (listing_iff hs h tenantId limit)
  | updateStatus now actionId newStatus lockVersion approvedBy waivedBy =>
    rw [forall_scan_same fun _ _ h => by cases h]
    exact (and_congr_left' same_action).trans
      (updateStatus_same h now actionId newStatus lockVersion approvedBy waivedBy)
  | recordResult now actionId result lockVersion executedBy =>
    rw [forall_scan_same fun _ _ h => by cases h]
    exact (and_congr_left' same_action).trans
      (recordResult_same h now actionId result lockVersion executedBy)
  | approve now actionId lockVersion approvedBy =>
    rw [forall_scan_same fun _ _ h => by cases h]
    exact (and_congr_left' same_action).trans
      (transition_same h (.id _) now actionId .approved lockVersion approvedBy none)
  | waive now actionId lockVersion waivedBy =>
    rw [forall_scan_same fun _ _ h => by cases h]
    exact (and_congr_left' same_action).trans
      (transition_same h (.id _) now actionId .waived lockVersion none waivedBy)
  | reapprove actionId lockVersion =>
    rw [forall_scan_same fun _ _ h => by cases h]
    exact (and_congr_left' same_action).trans (reapproveColumns_same h actionId lockVersion)

theorem RepositoryCall.InStep.fresh (h : call.InStep s) : call.Fresh s := by
  cases call with
  | create action => exact h.1
  | _ => exact trivial

/-- From the same contents, the repositories cannot be told apart up to every call of a sequence
exactly if each of its calls is in step. -/
theorem interchangeable_iff (hs : s.Consistent) (h : SameContents s table)
    (calls : List RepositoryCall) : Interchangeable s table calls ↔ AllInStep s calls := by
  have hscan : Nonempty (IterOrder ActionRow) := ⟨.id ActionRow⟩
  have hleft : ∀ scan call s, (inMemoryActionCall scan call s).2 = call.next s := fun _ _ _ => rfl
  have hright := fun scan => sqlxActionCall_state scan (.id _)
  refine agree_prefixes_iff_of_state (fun s table => s.Consistent ∧ SameContents s table) hleft
    hright ?_ ?_ (fun _ _ h => h.2) ⟨hs, h⟩ calls
  · exact fun call h => apply_same h.1 h.2 call
  · exact fun call h hcontents hstep => ⟨call.consistent_next hstep.fresh h.1, hcontents⟩

theorem sameContents_new : SameContents .new ∅ := fun _ => rfl

/-- An action that is created, approved and executed looks the same in both. -/
theorem interchangeable_iff_sample :
    Interchangeable .new ∅ [.create (.sample 3 0), .approve 1000 3 0 (some "operator"),
      .recordResult 2000 3 (.succeed 2000 "undone") 1 (some "operator")] := by
  refine (interchangeable_iff .new sameContents_new _).mpr ⟨⟨rfl, ?_⟩, ?_, ⟨_, rfl, ?_⟩, trivial⟩
  · constructor <;> simp [CompensationAction.sample, CompensationAction.fromSideEffect]
    · decide
  · rintro action haction -
    obtain rfl := Option.some.inj haction
    exact {
      texts := by simp; decide
      counter := fun _ => by decide
      time := fun _ _ => by decide
      approvedBy := fun _ => ⟨fun _ text htext => Option.some.inj htext ▸ by decide,
        fun hother => absurd rfl hother⟩
      waivedBy := fun _ => ⟨fun _ _ htext => (by cases htext), fun _ => .inl rfl⟩ }
  · exact {
      texts := by simp [ExecutionResult.succeed]; decide
      counters := fun _ => by decide
      time := fun _ => by decide
      executedBy := fun _ => ⟨fun _ text htext => Option.some.inj htext ▸ by decide,
        fun hother => absurd rfl hother⟩ }

/-- An update of an action that does not exist is not found in memory, and a conflict in SQL. -/
theorem not_interchangeable_missing :
    SameContents .new ∅ ∧
      ¬ Agree inMemoryActionCall sqlxActionCall Answer.Same SameContents .new ∅
        [.updateStatus 0 1 .approved 0 (some "operator") none] := by
  refine ⟨sameContents_new, fun h => ?_⟩
  have hanswers := (h fun _ => .id _).1
  cases same_action.mp (List.forall₂_cons.mp hanswers).1 with
  | error hkind => cases hkind

end Runs

end IntentRebase
