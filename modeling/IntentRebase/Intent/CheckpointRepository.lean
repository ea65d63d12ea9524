import IntentRebase.Kit.LatestFirst
import IntentRebase.Kit.SecondaryIndex
import IntentRebase.Kit.UpdateWhere
import IntentRebase.Orchestrator.CheckpointAligner

/-! The two repositories that keep checkpoints, and what both do to the checkpoint stored under an
identifier. -/

namespace IntentRebase

open Kit

def checkpointTypeToString : CheckpointType → String
  | .initial => "initial"
  | .preFlight => "pre_flight"
  | .intentReceived => "intent_received"
  | .intentValidated => "intent_validated"
  | .rebaseStarted => "rebase_started"
  | .rebaseCompleted => "rebase_completed"
  | .final => "final"
  | .custom => "custom"

def checkpointTypeFromString (s : String) : CheckpointType :=
  if s = "pre_flight" then .preFlight
  else if s = "intent_received" then .intentReceived
  else if s = "intent_validated" then .intentValidated
  else if s = "rebase_started" then .rebaseStarted
  else if s = "rebase_completed" then .rebaseCompleted
  else if s = "final" then .final
  else if s = "custom" then .custom
  else .initial

def checkpointStatusToString : CheckpointStatus → String
  | .pending => "pending"
  | .created => "created"
  | .active => "active"
  | .superseded => "superseded"
  | .expired => "expired"
  | .invalidated => "invalidated"

def checkpointStatusFromString (s : String) : CheckpointStatus :=
  if s = "created" then .created
  else if s = "active" then .active
  else if s = "superseded" then .superseded
  else if s = "expired" then .expired
  else if s = "invalidated" then .invalidated
  else .pending

theorem checkpointTypeFromString_toString (t : CheckpointType) :
    checkpointTypeFromString (checkpointTypeToString t) = t := by
  cases t <;> decide

theorem checkpointStatusFromString_toString (status : CheckpointStatus) :
    checkpointStatusFromString (checkpointStatusToString status) = status := by
  cases status <;> decide

/-- Only one text stands for Expired. -/
theorem checkpointStatusFromString_expired {s : String} :
    checkpointStatusFromString s = .expired ↔ s = checkpointStatusToString .expired := by
  rw [checkpointStatusFromString, checkpointStatusToString]
  constructor
  · intro h
    repeat' split at h
    all_goals first | assumption | cases h
  · rintro rfl
    decide

/-- The operations of a repository that write, and the query by identifier. -/
structure CheckpointStorage (σ : Type) where
  createCheckpoint : Checkpoint → σ → Except IntentRebaseError Checkpoint × σ
  getCheckpoint : Uuid → σ → Except IntentRebaseError Checkpoint
  updateStatus : Uuid → CheckpointStatus → σ → Except IntentRebaseError Checkpoint × σ
  expireCheckpoints : DateTime → σ → Except IntentRebaseError Nat × σ

namespace Checkpoint

/-- The time at which the checkpoint expires has passed. -/
def isExpired (now : DateTime) (c : Checkpoint) : Bool := c.expiresAt.any (· < now)

/-- The checkpoint after the expiry job. -/
def expire (now : DateTime) (c : Checkpoint) : Checkpoint :=
  if c.isExpired now then { c with status := .expired } else c

/-- The job need not write a checkpoint that it finds expired. -/
theorem expire_eq (now : DateTime) (c : Checkpoint) :
    (if c.isExpired now && c.status ≠ .expired then { c with status := .expired } else c) =
      c.expire now := by
  obtain ⟨_, _, _, _, _, _, _, _, _, status, _⟩ := c
  rw [expire]
  by_cases hstatus : status = .expired
  · cases hstatus
    simp only [ne_eq, not_true_eq_false, decide_false, Bool.and_false, Bool.false_eq_true, ite_self]
  · simp only [hstatus, ne_eq, not_false_eq_true, decide_true, Bool.and_true]

end Checkpoint

/-- The checkpoints, with their identifiers listed by workflow and by intent. -/
structure InMemoryCheckpointRepository where
  checkpoints : HashMap Uuid Checkpoint
  byWorkflow : SecondaryIndex Uuid Uuid
  byIntent : SecondaryIndex Uuid Uuid

namespace InMemoryCheckpointRepository

/-- The empty repository. -/
def new : InMemoryCheckpointRepository where
  checkpoints := ∅
  byWorkflow := ∅
  byIntent := ∅

variable (s : InMemoryCheckpointRepository)

def createCheckpoint (checkpoint : Checkpoint) :
    Except IntentRebaseError Checkpoint × InMemoryCheckpointRepository :=
  (.ok checkpoint,
    { checkpoints := s.checkpoints.insert checkpoint.checkpointId checkpoint
      byWorkflow := s.byWorkflow.push checkpoint.workflowId checkpoint.checkpointId
      byIntent := s.byIntent.push checkpoint.intentId checkpoint.checkpointId })

def getCheckpoint (checkpointId : Uuid) : Except IntentRebaseError Checkpoint :=
  match s.checkpoints.lookup checkpointId with
  | some checkpoint => .ok checkpoint
  | none => .error (.internal s!"checkpoint not found: {checkpointId.display}")

/-- The checkpoints of a tenant under some identifiers, newest first. -/
def listed (ids : List Uuid) (tenantId : Uuid) : List Checkpoint :=
  latestFirst Checkpoint.createdAt
    ((ids.filterMap s.checkpoints.lookup).filter fun c => c.tenantId = tenantId)

def listByWorkflow (workflowId tenantId : Uuid) : List Checkpoint :=
  s.listed (s.byWorkflow.bucket workflowId) tenantId

def listByIntent (intentId tenantId : Uuid) : List Checkpoint :=
  s.listed (s.byIntent.bucket intentId) tenantId

def updateStatus (checkpointId : Uuid) (status : CheckpointStatus) :
    Except IntentRebaseError Checkpoint × InMemoryCheckpointRepository :=
  match s.checkpoints.lookup checkpointId with
  | none => (.error (.internal s!"checkpoint not found: {checkpointId.display}"), s)
  | some checkpoint =>
    (.ok { checkpoint with status },
      { s with checkpoints := s.checkpoints.insert checkpointId { checkpoint with status } })

def expireCheckpoints (now : DateTime) :
    Except IntentRebaseError Nat × InMemoryCheckpointRepository :=
  let due (_ : Uuid) (c : Checkpoint) : Bool := c.isExpired now && c.status ≠ .expired
  (.ok (countWhere s.checkpoints due),
    { s with checkpoints := updateWhere s.checkpoints due fun c => { c with status := .expired } })

/-- The operations of the repository. -/
def storage : CheckpointStorage InMemoryCheckpointRepository where
  createCheckpoint checkpoint s := s.createCheckpoint checkpoint
  getCheckpoint id s := s.getCheckpoint id
  updateStatus id status s := s.updateStatus id status
  expireCheckpoints now s := s.expireCheckpoints now

end InMemoryCheckpointRepository

/-- A row of the table of checkpoints. -/
structure CheckpointRow where
  checkpointId : Uuid
  intentId : Uuid
  intentVersion : Int
  workflowId : Uuid
  tenantId : Uuid
  workflowState : Json
  checkpointType : String
  createdAt : DateTime
  expiresAt : Option DateTime
  status : String
  metadata : Json

def rowToCheckpoint (row : CheckpointRow) : Checkpoint where
  checkpointId := row.checkpointId
  intentId := row.intentId
  intentVersion := row.intentVersion
  workflowId := row.workflowId
  tenantId := row.tenantId
  workflowState := row.workflowState
  checkpointType := checkpointTypeFromString row.checkpointType
  createdAt := row.createdAt
  expiresAt := row.expiresAt
  status := checkpointStatusFromString row.status
  metadata := row.metadata

/-- The row that an insertion writes. -/
def checkpointToRow (c : Checkpoint) : CheckpointRow where
  checkpointId := c.checkpointId
  intentId := c.intentId
  intentVersion := c.intentVersion
  workflowId := c.workflowId
  tenantId := c.tenantId
  workflowState := c.workflowState
  checkpointType := checkpointTypeToString c.checkpointType
  createdAt := c.createdAt
  expiresAt := c.expiresAt
  status := checkpointStatusToString c.status
  metadata := c.metadata

theorem rowToCheckpoint_toRow (c : Checkpoint) : rowToCheckpoint (checkpointToRow c) = c := by
  simp only [rowToCheckpoint, checkpointToRow, checkpointTypeFromString_toString,
    checkpointStatusFromString_toString]

/-- The table of checkpoints. Its rows keep any time and any JSON: left out is that the columns hold
whole microseconds and refuse the character U+0000. -/
structure SqlxCheckpointRepository where
  rows : HashMap Uuid CheckpointRow

namespace SqlxCheckpointRepository

/-- The empty table. -/
def new : SqlxCheckpointRepository := ⟨∅⟩

variable (s : SqlxCheckpointRepository)

def createCheckpoint (checkpoint : Checkpoint) :
    Except IntentRebaseError Checkpoint × SqlxCheckpointRepository :=
  match s.rows.lookup checkpoint.checkpointId with
  | some _ => (.error (.storageError
      "insert checkpoint: duplicate key value violates unique constraint"), s)
  | none => (.ok checkpoint, ⟨s.rows.insert checkpoint.checkpointId (checkpointToRow checkpoint)⟩)

def getCheckpoint (checkpointId : Uuid) : Except IntentRebaseError Checkpoint :=
  match s.rows.lookup checkpointId with
  | some row => .ok (rowToCheckpoint row)
  | none => .error (.internal s!"checkpoint not found: {checkpointId.display}")

/-- `UPDATE checkpoints SET status WHERE checkpoint_id`, and the query of the row. -/
def updateStatus (checkpointId : Uuid) (status : CheckpointStatus) :
    Except IntentRebaseError Checkpoint × SqlxCheckpointRepository :=
  let s' : SqlxCheckpointRepository := ⟨updateWhere s.rows (fun k _ => k == checkpointId) fun row =>
    { row with status := checkpointStatusToString status }⟩
  (s'.getCheckpoint checkpointId, s')

/-- `UPDATE checkpoints SET status WHERE expires_at AND status NOT IN ..`. -/
def expireCheckpoints (now : DateTime) :
    Except IntentRebaseError Nat × SqlxCheckpointRepository :=
  let expiredStatus := checkpointStatusToString .expired
  let due (_ : Uuid) (row : CheckpointRow) : Bool :=
    row.expiresAt.any (· < now) && row.status ∉ [expiredStatus, expiredStatus]
  (.ok (countWhere s.rows due),
    ⟨updateWhere s.rows due fun row => { row with status := expiredStatus }⟩)

/-- The operations of the repository. -/
def storage : CheckpointStorage SqlxCheckpointRepository where
  createCheckpoint checkpoint s := s.createCheckpoint checkpoint
  getCheckpoint id s := s.getCheckpoint id
  updateStatus id status s := s.updateStatus id status
  expireCheckpoints now s := s.expireCheckpoints now

end SqlxCheckpointRepository

namespace CheckpointStorage

variable {σ : Type}

/-- What the operations do to the checkpoint stored under an identifier. -/
structure Lawful (storage : CheckpointStorage σ) (record : σ → Uuid → Option Checkpoint) :
    Prop where
  create : ∀ c s, record s c.checkpointId = none →
    (storage.createCheckpoint c s).1 = .ok c ∧
    ∀ id, record (storage.createCheckpoint c s).2 id =
      if id = c.checkpointId then some c else record s id
  update : ∀ id status s k, record (storage.updateStatus id status s).2 k =
    if k = id then (record s id).map fun c => { c with status } else record s k
  expire : ∀ now s id, record (storage.expireCheckpoints now s).2 id =
    (record s id).map (Checkpoint.expire now)

end CheckpointStorage

namespace InMemoryCheckpointRepository

/-- The checkpoint stored under an identifier. -/
def record (s : InMemoryCheckpointRepository) (id : Uuid) : Option Checkpoint :=
  s.checkpoints.lookup id

theorem lawful : storage.Lawful record where
  create c s _ := ⟨rfl, fun id => lookup_insert_eq _ _ _ _⟩
  update id status s k := by
    cases hid : s.checkpoints.lookup id with
    | none =>
      simp only [storage, updateStatus, record, hid, Option.map_none]
      split
      · next hk => rw [hk, hid]
      · rfl
    | some checkpoint =>
      simp only [storage, updateStatus, record, hid, lookup_insert_eq, Option.map_some]
  expire now s id := by
    simp only [storage, expireCheckpoints, record, lookup_updateWhere]
    refine Option.map_congr fun c _ => ?_
    exact c.expire_eq now

end InMemoryCheckpointRepository

namespace SqlxCheckpointRepository

/-- The checkpoint stored under an identifier. -/
def record (s : SqlxCheckpointRepository) (id : Uuid) : Option Checkpoint :=
  (s.rows.lookup id).map rowToCheckpoint

theorem lawful : storage.Lawful record where
  create c s hfresh := by
    have hnone : s.rows.lookup c.checkpointId = none := Option.map_eq_none_iff.mp hfresh
    simp only [storage, createCheckpoint, hnone, true_and]
    intro id
    rw [record, lookup_insert_eq, apply_ite (Option.map rowToCheckpoint), Option.map_some,
      rowToCheckpoint_toRow, record]
  update id status s k := by
    simp only [storage, updateStatus, record, lookup_updateWhere, Option.map_map]
    by_cases hk : k = id
    · rw [if_pos hk, hk]
      refine Option.map_congr fun row _ => ?_
      simp only [Function.comp_apply, beq_self_eq_true, if_true, rowToCheckpoint,
        checkpointStatusFromString_toString]
    · rw [if_neg hk]
      refine Option.map_congr fun row _ => ?_
      simp only [Function.comp_apply, beq_eq_false_iff_ne.mpr hk, Bool.false_eq_true, if_false]
  expire now s id := by
    simp only [storage, expireCheckpoints, record, lookup_updateWhere, Option.map_map]
    refine Option.map_congr fun row _ => ?_
    have hdue : (row.expiresAt.any (· < now) && row.status ∉ [checkpointStatusToString .expired,
        checkpointStatusToString .expired]) =
        ((rowToCheckpoint row).isExpired now && (rowToCheckpoint row).status ≠ .expired) := by
      simp [Checkpoint.isExpired, rowToCheckpoint, checkpointStatusFromString_expired]
    rw [Function.comp_apply, Function.comp_apply, ← Checkpoint.expire_eq, hdue]
    split
    · simp only [rowToCheckpoint, checkpointStatusFromString_toString]
    · rfl

end SqlxCheckpointRepository

end IntentRebase
