import IntentRebase.Engine.Planner

/-! The checkpoint aligner: the stored checkpoint that a plan's selection stands for, read from the
repository or through a transaction of the SQL one. -/

namespace IntentRebase

inductive CheckpointType where
  | initial | preFlight | intentReceived | intentValidated | rebaseStarted | rebaseCompleted
  | final | custom
deriving DecidableEq, Repr

inductive CheckpointStatus where
  | pending | created | active | superseded | expired | invalidated
deriving DecidableEq, Repr

/-- A point of a workflow's execution from which it can be resumed. -/
structure Checkpoint where
  checkpointId : Uuid
  intentId : Uuid
  intentVersion : Int
  workflowId : Uuid
  tenantId : Uuid
  workflowState : Json
  checkpointType : CheckpointType
  createdAt : DateTime
  expiresAt : Option DateTime
  status : CheckpointStatus
  metadata : Json

/-- The reads of stored checkpoints. -/
structure CheckpointReads where
  getCheckpoint : Uuid → Except IntentRebaseError Checkpoint
  listByWorkflow : Uuid → Uuid → Except IntentRebaseError (List Checkpoint)
  listByIntent : Uuid → Uuid → Except IntentRebaseError (List Checkpoint)

/-- A repository, which may be the SQL one; that one also reads inside a transaction. -/
structure CheckpointRepository extends CheckpointReads where
  asSqlxRepo : Option CheckpointReads

inductive CheckpointAlignmentOutcome where
  | aligned | closestMatch | noCheckpointRequired | noCheckpointFound | multipleCandidates
deriving DecidableEq, Repr

def CheckpointAlignmentOutcome.debug : CheckpointAlignmentOutcome → String
  | .aligned => "Aligned"
  | .closestMatch => "ClosestMatch"
  | .noCheckpointRequired => "NoCheckpointRequired"
  | .noCheckpointFound => "NoCheckpointFound"
  | .multipleCandidates => "MultipleCandidates"

structure AlignedCheckpoint where
  checkpointId : Option Uuid
  checkpoint : Option Checkpoint
  outcome : CheckpointAlignmentOutcome
  rationale : String

/-- The selection of a planner that made none. -/
def CheckpointSelection.deferred : CheckpointSelection :=
  { ready := false, candidates := [], selected := none, rationale := none }

/-- An element of greatest key, the last one of several. -/
def maxByKey {α : Type} (key : α → Int) (items : List α) : Option α :=
  items.foldl (fun best item =>
    match best with
    | none => some item
    | some b => if key b ≤ key item then some item else some b) none

theorem maxByKey_mem {α : Type} {key : α → Int} {items : List α} {a : α}
    (h : maxByKey key items = some a) : a ∈ items := by
  have hfold : ∀ (rest : List α) (best : Option α),
      rest.foldl (fun best item =>
        match best with
        | none => some item
        | some b => if key b ≤ key item then some item else some b) best = some a →
      a ∈ rest ∨ best = some a := by
    intro rest
    induction rest with
    | nil =>
      intro best hbest
      exact .inr hbest
    | cons item rest ih =>
      intro best hbest
      rw [List.foldl_cons] at hbest
      rcases ih _ hbest with hmem | hnext
      · exact .inl (List.mem_cons_of_mem item hmem)
      · cases best with
        | none =>
          cases hnext
          exact .inl List.mem_cons_self
        | some b =>
          dsimp only at hnext
          split at hnext
          · cases hnext
            exact .inl List.mem_cons_self
          · exact .inr hnext
  rcases hfold items none h with hmem | hnone
  · exact hmem
  · cases hnone

namespace CheckpointAligner

variable (repo : CheckpointRepository)

section Plain

/-- The latest active checkpoint of the workflow, or else the first one listed. -/
def alignBestEffort (_selection : CheckpointSelection) (_intentId tenantId workflowId : Uuid) :
    Except IntentRebaseError AlignedCheckpoint := do
  let checkpoints ← repo.listByWorkflow workflowId tenantId
  if checkpoints.isEmpty then
    return {
      checkpointId := none
      checkpoint := none
      outcome := .noCheckpointFound
      rationale := "No checkpoints available in storage for this workflow" }
  else
    match maxByKey Checkpoint.createdAt (checkpoints.filter fun c => c.status = .active) with
    | some checkpoint => return {
        checkpointId := some checkpoint.checkpointId
        checkpoint := some checkpoint
        outcome := .closestMatch
        rationale := "Best-effort alignment: selected most recent active checkpoint" }
    | none =>
      match checkpoints.head? with
      | some checkpoint => return {
          checkpointId := some checkpoint.checkpointId
          checkpoint := some checkpoint
          outcome := .closestMatch
          rationale :=
            "Best-effort alignment: selected most recent checkpoint regardless of status" }
      | none => return {
          checkpointId := none
          checkpoint := none
          outcome := .noCheckpointFound
          rationale := "No checkpoints available in storage" }

/-- The latest checkpoint of the intent. -/
def alignMostRecent (intentId tenantId workflowId : Uuid) :
    Except IntentRebaseError AlignedCheckpoint := do
  let checkpoints ← repo.listByIntent intentId tenantId
  if checkpoints.isEmpty then
    alignBestEffort repo .deferred intentId tenantId workflowId
  else
    match maxByKey Checkpoint.createdAt checkpoints with
    | some checkpoint => return {
        checkpointId := some checkpoint.checkpointId
        checkpoint := some checkpoint
        outcome := .closestMatch
        rationale := s!"Selected most recent checkpoint for intent {intentId.display} " ++
          s!"v{checkpoint.intentVersion}" }
    | none => return {
        checkpointId := none
        checkpoint := none
        outcome := .noCheckpointFound
        rationale := "No checkpoints found for this intent" }

/-- The stored checkpoint that a planner's candidate names. -/
def alignCandidate (candidate : CheckpointCandidate) (intentId tenantId workflowId : Uuid) :
    Except IntentRebaseError AlignedCheckpoint := do
  let checkpoints ← repo.listByWorkflow workflowId tenantId
  let matching := (checkpoints.filter fun c =>
      containsText c.checkpointId.display candidate.id || containsText candidate.id "most-recent")
    |>.filter fun c => c.status = .active || c.status = .created
  let matchingCount := matching.length
  if matching.isEmpty then
    alignMostRecent repo intentId tenantId workflowId
  else
    match matching with
    | [checkpoint] => return {
        checkpointId := some checkpoint.checkpointId
        checkpoint := some checkpoint
        outcome := .aligned
        rationale := s!"Aligned to checkpoint {checkpoint.checkpointId.display} " ++
          s!"via candidate {candidate.id}" }
    | _ =>
      match maxByKey Checkpoint.createdAt matching with
      | some checkpoint => return {
          checkpointId := some checkpoint.checkpointId
          checkpoint := some checkpoint
          outcome := .multipleCandidates
          rationale := s!"Selected most recent from {matchingCount} candidates " ++
            s!"for {candidate.id}" }
      | none => alignMostRecent repo intentId tenantId workflowId

/-- The checkpoint that a plan's selection stands for. -/
def align (plan : RebasePlan) (intentId tenantId workflowId : Uuid) :
    Except IntentRebaseError AlignedCheckpoint :=
  let selection := plan.deferred.checkpointSelection
  if plan.decisionClass = .A then
    return {
      checkpointId := none
      checkpoint := none
      outcome := .noCheckpointRequired
      rationale := "Class A: No semantic changes, no checkpoint needed" }
  else if !selection.ready then
    alignBestEffort repo selection intentId tenantId workflowId
  else if selection.candidates.isEmpty then
    alignBestEffort repo selection intentId tenantId workflowId
  else
    match selection.selected with
    | some selected => alignCandidate repo selected intentId tenantId workflowId
    | none => alignBestEffort repo selection intentId tenantId workflowId

end Plain

section Transactional

def alignBestEffortWithTx (_selection : CheckpointSelection)
    (_intentId tenantId workflowId : Uuid) : Except IntentRebaseError AlignedCheckpoint :=
  match repo.asSqlxRepo with
  | none =>
    throw (.internal "align_best_effort_with_tx requires SQL checkpoint repository")
  | some sqlRepo => do
    let checkpoints ← sqlRepo.listByWorkflow workflowId tenantId
    if checkpoints.isEmpty then
      return {
        checkpointId := none
        checkpoint := none
        outcome := .noCheckpointFound
        rationale := "No checkpoints available in storage for this workflow" }
    else
      match maxByKey Checkpoint.createdAt (checkpoints.filter fun c => c.status = .active) with
      | some checkpoint => return {
          checkpointId := some checkpoint.checkpointId
          checkpoint := some checkpoint
          outcome := .closestMatch
          rationale := "Best-effort alignment: selected most recent active checkpoint" }
      | none =>
        match checkpoints.head? with
        | some checkpoint => return {
            checkpointId := some checkpoint.checkpointId
            checkpoint := some checkpoint
            outcome := .closestMatch
            rationale :=
              "Best-effort alignment: selected most recent checkpoint regardless of status" }
        | none => return {
            checkpointId := none
            checkpoint := none
            outcome := .noCheckpointFound
            rationale := "No checkpoints available in storage" }

def alignMostRecentWithTx (intentId tenantId workflowId : Uuid) :
    Except IntentRebaseError AlignedCheckpoint :=
  match repo.asSqlxRepo with
  | none =>
    throw (.internal "align_most_recent_with_tx requires SQL checkpoint repository")
  | some sqlRepo => do
    let checkpoints ← sqlRepo.listByIntent intentId tenantId
    if checkpoints.isEmpty then
      alignBestEffortWithTx repo .deferred intentId tenantId workflowId
    else
      match maxByKey Checkpoint.createdAt checkpoints with
      | some checkpoint => return {
          checkpointId := some checkpoint.checkpointId
          checkpoint := some checkpoint
          outcome := .closestMatch
          rationale := s!"Selected most recent checkpoint for intent {intentId.display} " ++
            s!"v{checkpoint.intentVersion}" }
      | none => return {
          checkpointId := none
          checkpoint := none
          outcome := .noCheckpointFound
          rationale := "No checkpoints found for this intent" }

/-- The alignment of a candidate is written out here. -/
def alignWithTx (plan : RebasePlan) (intentId tenantId workflowId : Uuid) :
    Except IntentRebaseError AlignedCheckpoint :=
  match repo.asSqlxRepo with
  | none => throw (.internal "align_with_tx requires SQL checkpoint repository")
  | some sqlRepo =>
    let selection := plan.deferred.checkpointSelection
    if plan.decisionClass = .A then
      return {
        checkpointId := none
        checkpoint := none
        outcome := .noCheckpointRequired
        rationale := "Class A: No semantic changes, no checkpoint needed" }
    else if !selection.ready then
      alignBestEffortWithTx repo selection intentId tenantId workflowId
    else if selection.candidates.isEmpty then
      alignBestEffortWithTx repo selection intentId tenantId workflowId
    else
      match selection.selected with
      | some selected => do
        let checkpoints ← sqlRepo.listByWorkflow workflowId tenantId
        let matching := (checkpoints.filter fun c =>
            containsText c.checkpointId.display selected.id ||
              containsText selected.id "most-recent")
          |>.filter fun c => c.status = .active || c.status = .created
        let matchingCount := matching.length
        if matching.isEmpty then
          alignMostRecentWithTx repo intentId tenantId workflowId
        else
          match matching with
          | [checkpoint] => return {
              checkpointId := some checkpoint.checkpointId
              checkpoint := some checkpoint
              outcome := .aligned
              rationale := s!"Aligned to checkpoint {checkpoint.checkpointId.display} " ++
                s!"via candidate {selected.id}" }
          | _ =>
            match maxByKey Checkpoint.createdAt matching with
            | some checkpoint => return {
                checkpointId := some checkpoint.checkpointId
                checkpoint := some checkpoint
                outcome := .multipleCandidates
                rationale := s!"Selected most recent from {matchingCount} candidates " ++
                  s!"for {selected.id}" }
            | none => alignMostRecentWithTx repo intentId tenantId workflowId
      | none => alignBestEffortWithTx repo selection intentId tenantId workflowId

end Transactional

section Agreement

/-- The lists of a tenant read inside a transaction are the plain ones. -/
structure SameLists (sqlRepo : CheckpointReads) (tenantId : Uuid) : Prop where
  isSqlx : repo.asSqlxRepo = some sqlRepo
  listByWorkflow : ∀ workflowId,
    sqlRepo.listByWorkflow workflowId tenantId = repo.listByWorkflow workflowId tenantId
  listByIntent : ∀ intentId,
    sqlRepo.listByIntent intentId tenantId = repo.listByIntent intentId tenantId

variable {repo} {sqlRepo : CheckpointReads} {tenantId : Uuid} (h : SameLists repo sqlRepo tenantId)

include h

theorem alignBestEffortWithTx_eq (selection : CheckpointSelection) (intentId workflowId : Uuid) :
    alignBestEffortWithTx repo selection intentId tenantId workflowId =
      alignBestEffort repo selection intentId tenantId workflowId := by
  rw [alignBestEffortWithTx, h.isSqlx]
  dsimp only
  rw [h.listByWorkflow, alignBestEffort]

theorem alignMostRecentWithTx_eq (intentId workflowId : Uuid) :
    alignMostRecentWithTx repo intentId tenantId workflowId =
      alignMostRecent repo intentId tenantId workflowId := by
  rw [alignMostRecentWithTx, h.isSqlx]
  dsimp only
  rw [h.listByIntent, alignBestEffortWithTx_eq h, alignMostRecent]

/-- The copy of the candidate's alignment has every branch of the original. -/
theorem alignWithTx_eq (plan : RebasePlan) (intentId workflowId : Uuid) :
    alignWithTx repo plan intentId tenantId workflowId =
      align repo plan intentId tenantId workflowId := by
  rw [alignWithTx, h.isSqlx]
  dsimp only
  simp only [alignBestEffortWithTx_eq h, alignMostRecentWithTx_eq h, h.listByWorkflow]
  rw [align]
  rfl

end Agreement

end CheckpointAligner

/-! The table of checkpoints and what its queries return: to a session without a tenant from all of
its rows, to the session of a tenant from the rows of that tenant. -/

open Kit

/-- The stored checkpoints. The identifier is their key. -/
structure CheckpointTable where
  rows : List Checkpoint
  nodup : (rows.map Checkpoint.checkpointId).Nodup

namespace CheckpointTable

/-- The rows that the policy of the table lets a session see. -/
def visible (table : CheckpointTable) (session : Option Uuid) : List Checkpoint :=
  table.rows.filter fun c => session.all (c.tenantId == ·)

/-- Rows in descending order of creation, and in any order among rows of one time. -/
def orderByCreatedAt (scan : IterOrder Checkpoint) (rows : List Checkpoint) : List Checkpoint :=
  (scan.apply rows).mergeSort fun a b => b.createdAt ≤ a.createdAt

/-- The queries of one session. -/
def reads (table : CheckpointTable) (scan : IterOrder Checkpoint) (session : Option Uuid) :
    CheckpointReads where
  getCheckpoint id :=
    match (table.visible session).find? fun c => c.checkpointId == id with
    | some c => .ok c
    | none => .error (.internal s!"checkpoint not found: {id.display}")
  listByWorkflow workflowId tenantId :=
    .ok (orderByCreatedAt scan ((table.visible session).filter fun c =>
      c.workflowId == workflowId && c.tenantId == tenantId))
  listByIntent intentId tenantId :=
    .ok (orderByCreatedAt scan ((table.visible session).filter fun c =>
      c.intentId == intentId && c.tenantId == tenantId))

/-- The SQL repository: its plain queries run in sessions without a tenant, those of a transaction
in the session given. -/
def repository (table : CheckpointTable) (scan : IterOrder Checkpoint) (session : Option Uuid) :
    CheckpointRepository where
  toCheckpointReads := table.reads scan none
  asSqlxRepo := some (table.reads scan session)

variable {table : CheckpointTable} {scan : IterOrder Checkpoint} {session : Option Uuid}
  {c : Checkpoint} {id workflowId intentId tenantId : Uuid}

theorem mem_visible :
    c ∈ table.visible session ↔ c ∈ table.rows ∧ ∀ t, session = some t → c.tenantId = t := by
  rw [visible, List.mem_filter]
  cases session with
  | none => simp
  | some t => simp

theorem visible_none : table.visible none = table.rows := by
  simp [visible]

theorem eq_of_checkpointId {c' : Checkpoint} (h : c ∈ table.rows) (h' : c' ∈ table.rows)
    (hid : c.checkpointId = c'.checkpointId) : c = c' :=
  List.inj_on_of_nodup_map table.nodup h h' hid

/-- A query by identifier finds the visible row under it. -/
theorem getCheckpoint_ok :
    (table.reads scan session).getCheckpoint id = .ok c ↔
      c ∈ table.visible session ∧ c.checkpointId = id := by
  unfold reads
  dsimp only
  cases hfind : (table.visible session).find? fun c => c.checkpointId == id with
  | none =>
    refine ⟨nofun, fun ⟨hmem, hid⟩ => ?_⟩
    simpa [hid] using List.find?_eq_none.mp hfind c hmem
  | some found =>
    have hfound := List.find?_some hfind
    have hmem := List.mem_of_find?_eq_some hfind
    rw [beq_iff_eq] at hfound
    constructor
    · intro h
      cases h
      exact ⟨hmem, hfound⟩
    · rintro ⟨hc, rfl⟩
      rw [eq_of_checkpointId (mem_visible.mp hc).1 (mem_visible.mp hmem).1 hfound.symm]

theorem getCheckpoint_error (h : ∀ c ∈ table.visible session, c.checkpointId ≠ id) :
    ∃ e, (table.reads scan session).getCheckpoint id = .error e := by
  cases hget : (table.reads scan session).getCheckpoint id with
  | error e => exact ⟨e, rfl⟩
  | ok c =>
    obtain ⟨hmem, hid⟩ := getCheckpoint_ok.mp hget
    exact absurd hid (h c hmem)

theorem mem_orderByCreatedAt {rows : List Checkpoint} :
    c ∈ orderByCreatedAt scan rows ↔ c ∈ rows := by
  rw [orderByCreatedAt, List.mem_mergeSort, scan.mem_apply]

/-- A tenant's own session hides none of its rows. -/
theorem visible_filter (condition : Checkpoint → Bool) :
    (table.visible (some tenantId)).filter (fun c => condition c && c.tenantId == tenantId) =
      table.rows.filter fun c => condition c && c.tenantId == tenantId := by
  rw [visible, List.filter_filter]
  refine List.filter_congr fun c _ => ?_
  simp only [Option.all_some, Bool.and_assoc, Bool.and_self]

/-- In a transaction of a tenant's session, the lists of that tenant are the plain ones. -/
theorem sameLists :
    CheckpointAligner.SameLists (table.repository scan (some tenantId))
      (table.reads scan (some tenantId)) tenantId where
  isSqlx := rfl
  listByWorkflow workflowId := by
    have h : (table.reads scan (some tenantId)).listByWorkflow workflowId tenantId =
        (table.reads scan none).listByWorkflow workflowId tenantId := by
      simp only [reads]
      rw [visible_filter, visible_none]
    exact h
  listByIntent intentId := by
    have h : (table.reads scan (some tenantId)).listByIntent intentId tenantId =
        (table.reads scan none).listByIntent intentId tenantId := by
      simp only [reads]
      rw [visible_filter, visible_none]
    exact h

/-- The two tables hold the same checkpoints of a tenant, in the same order. -/
def AgreeOn (tenantId : Uuid) (table table' : CheckpointTable) : Prop :=
  table.visible (some tenantId) = table'.visible (some tenantId)

end CheckpointTable

end IntentRebase
