import IntentRebase.Intent.CheckpointService
import IntentRebase.Intent.PolicySnapshotRepository
import IntentRebase.Kit.Redelivery

/-! The consumers of the events of applied rebases, and which of them take an event that comes again
for a new one. -/

namespace IntentRebase

open Kit

/-- A delivery of an event, with what its consumption draws. -/
structure Delivery (δ : Type) where
  event : PublishedEvent
  draw : δ

namespace PublishedEvent

variable (parseStr : String → Option Uuid) (event : PublishedEvent)

/-- Only an applied rebase of some intent is acted upon. -/
def Acts : Prop := event.isRebaseApplied = true ∧ (event.extractIntentId parseStr).isSome

def extractScopeType : ScopeType :=
  match (event.payload.get "scope_type").bind Json.asStr with
  | some s => if s = "full" then .full else if s = "partial" then .partially else .none
  | none => .none

def buildScopeDefinition : ScopeDefinition where
  scopeType := event.extractScopeType
  affectedResources := event.arrayField "affected_resources"
  requiredApprovers := event.arrayField "required_approvers"
  minApprovals := event.i32Field "min_approvals" 1

/-- The records of the event's intent version are the same in both states. -/
def SameRecords {σ ρ : Type} (record : σ → Uuid → Option ρ) (isOf : Uuid → Int → ρ → Bool)
    (s s' : σ) : Prop :=
  ∀ intentId, event.extractIntentId parseStr = some intentId → ∀ id,
    (record s' id).filter (isOf intentId event.extractIntentVersion) =
      (record s id).filter (isOf intentId event.extractIntentVersion)

end PublishedEvent

def Checkpoint.isOf (intentId : Uuid) (intentVersion : Int) (c : Checkpoint) : Bool :=
  c.intentId == intentId && c.intentVersion == intentVersion

def PolicySnapshot.isOf (intentId : Uuid) (intentVersion : Int) (s : PolicySnapshot) : Bool :=
  s.intentId == intentId && s.intentVersion == intentVersion

namespace CheckpointCreatorConsumer

def mapOutcomeToCheckpointType (outcome : String) : CheckpointType :=
  match outcome with
  | "auto_proceeded" => .rebaseCompleted
  | "requires_approval" => .rebaseCompleted
  | "approval_denied" => .rebaseCompleted
  | "rejected" => .rebaseCompleted
  | _ => .rebaseCompleted

variable {σ : Type} (checkpointService : CheckpointService σ) (parseStr : String → Option Uuid)

/-- The arguments of the creation that an event asks for. -/
def checkpointRequest (event : PublishedEvent) (intentId : Uuid) : CheckpointRequest where
  intentId := intentId
  intentVersion := event.extractIntentVersion
  workflowId := event.extractWorkflowId parseStr
  tenantId := event.extractTenantId parseStr
  checkpointType := mapOutcomeToCheckpointType event.extractOutcome
  workflowState := .object
    [("decision_class", .string (event.strField "decision_class" "unknown")),
      ("from_version", .ofInt event.extractFromVersion),
      ("outcome", .string event.extractOutcome),
      ("to_version", .ofInt event.extractIntentVersion)]

def consume (event : PublishedEvent) (draw : CheckpointDraw) (s : σ) : ConsumeResult × σ :=
  if !event.isRebaseApplied then (.consumed event.subject event.sequence, s)
  else
    match event.extractIntentId parseStr with
    | none => (.failed "missing intent_id in event payload", s)
    | some intentId =>
      match checkpointService.createCheckpointWithDefaults draw
        (checkpointRequest parseStr event intentId) s with
      | (.ok _, s') => (.consumed event.subject event.sequence, s')
      | (.error e, s') => (.failed s!"checkpoint creation failed: {e.display}", s')

/-- The repository after a delivery. -/
def next (s : σ) (d : Delivery CheckpointDraw) : σ :=
  (consume checkpointService parseStr d.event d.draw s).2

end CheckpointCreatorConsumer

/-- What a creation of a snapshot draws. -/
structure SnapshotDraw where
  snapshotId : Uuid
  now : DateTime

/-- The repository of the snapshots and the storage of their texts. -/
structure SnapshotCreatorConsumer (σ τ : Type) where
  policySnapshotRepo : PolicySnapshotRepository σ
  snapshotStorage : SnapshotStorage τ

namespace SnapshotCreatorConsumer

variable {σ τ : Type} (consumer : SnapshotCreatorConsumer σ τ) (hasher : Hasher)
  (parseStr : String → Option Uuid)

/-- The snapshot that an event asks for, before its text is stored. -/
def eventSnapshot (event : PublishedEvent) (draw : SnapshotDraw) (intentId : Uuid) :
    PolicySnapshot :=
  .new hasher draw.snapshotId draw.now (event.extractTenantId parseStr) intentId
    event.extractIntentVersion event.extractRulePackVersion event.buildScopeDefinition

/-- The snapshot with the address of its text; it keeps the placeholder if the storage fails. -/
def storeBlob (snapshot : PolicySnapshot) (store : τ) : PolicySnapshot × τ :=
  match consumer.snapshotStorage.put snapshot store with
  | (.ok uri, store') => ({ snapshot with snapshotUri := uri }, store')
  | (.error _, store') => (snapshot, store')

def consume (event : PublishedEvent) (draw : SnapshotDraw) (s : σ × τ) : ConsumeResult × (σ × τ) :=
  if !event.isRebaseApplied then (.consumed event.subject event.sequence, s)
  else
    match event.extractIntentId parseStr with
    | none => (.failed "missing intent_id in event payload", s)
    | some intentId =>
      if event.extractIntentVersion = 0 then (.failed "missing to_version in event payload", s)
      else
        let (snapshot, store) :=
          consumer.storeBlob (eventSnapshot hasher parseStr event draw intentId) s.2
        match consumer.policySnapshotRepo.createSnapshot snapshot s.1 with
        | (.ok _, repo) => (.consumed event.subject event.sequence, (repo, store))
        | (.error e, repo) =>
          (.failed s!"policy snapshot creation failed: {e.display}", (repo, store))

/-- The repository and the storage after a delivery. -/
def next (s : σ × τ) (d : Delivery SnapshotDraw) : σ × τ :=
  (consumer.consume hasher parseStr d.event d.draw s).2

end SnapshotCreatorConsumer

section Records

variable {σ ρ : Type} {record : σ → Uuid → Option ρ} {isOf : Uuid → Int → ρ → Bool}
  {parseStr : String → Option Uuid} {event : PublishedEvent} {s s' : σ}

theorem PublishedEvent.SameRecords.refl (s : σ) :
    event.SameRecords parseStr record isOf s s := fun _ _ _ => rfl

/-- A new record of the event's intent version is a difference. -/
theorem PublishedEvent.not_sameRecords {intentId id : Uuid} {new : ρ}
    (hintent : event.extractIntentId parseStr = some intentId) (hfresh : record s id = none)
    (hnew : record s' id = some new)
    (hof : isOf intentId event.extractIntentVersion new = true) :
    ¬ event.SameRecords parseStr record isOf s s' := by
  intro h
  have hid := h intentId hintent id
  rw [hfresh, hnew, Option.filter_some, if_pos hof] at hid
  cases hid

end Records

namespace CheckpointCreatorConsumer

variable {σ : Type} {service : CheckpointService σ} {record : σ → Uuid → Option Checkpoint}
  {parseStr : String → Option Uuid} {s : σ} {d : Delivery CheckpointDraw}

/-- The delivery draws a new identifier. -/
def Fresh (record : σ → Uuid → Option Checkpoint) (s : σ) (d : Delivery CheckpointDraw) : Prop :=
  record s d.draw.checkpointId = none

/-- What a delivery does: nothing, or the creation of a checkpoint of its event's intent version. -/
theorem next_cases (service : CheckpointService σ) (parseStr : String → Option Uuid) (s : σ)
    (d : Delivery CheckpointDraw) :
    (¬ d.event.Acts parseStr ∧ next service parseStr s d = s) ∨
    ∃ intentId checkpoint, d.event.Acts parseStr ∧
      d.event.extractIntentId parseStr = some intentId ∧
      checkpoint.checkpointId = d.draw.checkpointId ∧ checkpoint.intentId = intentId ∧
      checkpoint.intentVersion = d.event.extractIntentVersion ∧
      next service parseStr s d = (service.repo.createCheckpoint checkpoint s).2 := by
  by_cases happlied : d.event.isRebaseApplied = true
  swap
  · refine .inl ⟨fun h => happlied h.1, ?_⟩
    simp only [next, consume, happlied, Bool.not_false, if_true]
  cases hintent : d.event.extractIntentId parseStr with
  | none =>
    refine .inl ⟨fun h => ?_, ?_⟩
    · have hsome := h.2
      rw [hintent] at hsome
      cases hsome
    · simp only [next, consume, happlied, hintent, Bool.not_true, Bool.false_eq_true, if_false]
  | some intentId =>
    refine .inr ⟨intentId, CheckpointService.newCheckpoint d.draw
      (checkpointRequest parseStr d.event intentId) service.defaultTtl .emptyObject,
      ⟨happlied, by rw [hintent]; rfl⟩, rfl, rfl, rfl, rfl, ?_⟩
    have hnext : next service parseStr s d = (service.createCheckpointWithDefaults d.draw
        (checkpointRequest parseStr d.event intentId) s).2 := by
      simp only [next, consume, happlied, hintent, Bool.not_true, Bool.false_eq_true, if_false]
      split
      · next heq => rw [heq]
      · next heq => rw [heq]
    exact hnext

/-- A delivery adds a checkpoint exactly if its event is acted upon. -/
theorem sameRecords_next_iff (hlawful : service.repo.Lawful record) (hfresh : Fresh record s d) :
    d.event.SameRecords parseStr record Checkpoint.isOf s (next service parseStr s d) ↔
      ¬ d.event.Acts parseStr := by
  rcases next_cases service parseStr s d with
    ⟨hidle, hnext⟩ | ⟨intentId, checkpoint, hacts, hintent, hid, hof, hversion, hnext⟩
  · refine iff_of_true ?_ hidle
    rw [hnext]
    exact .refl s
  · refine iff_of_false ?_ fun h => h hacts
    rw [Fresh, ← hid] at hfresh
    have hnew : record (next service parseStr s d) checkpoint.checkpointId = some checkpoint := by
      rw [hnext, (hlawful.create checkpoint s hfresh).2, if_pos rfl]
    refine PublishedEvent.not_sameRecords hintent hfresh hnew ?_
    rw [Checkpoint.isOf, Bool.and_eq_true, beq_iff_eq, beq_iff_eq]
    exact ⟨hof, hversion⟩

/-- Deliveries that draw different identifiers, of which none is stored, each draw a new one. -/
theorem fresh_of_distinct (hlawful : service.repo.Lawful record)
    {deliveries : List (Delivery CheckpointDraw)}
    (hdistinct : deliveries.Pairwise fun d d' => d.draw.checkpointId ≠ d'.draw.checkpointId)
    (hs : ∀ d ∈ deliveries, Fresh record s d) :
    AllSteps (next service parseStr) (Fresh record) s deliveries := by
  refine allSteps_of_pairwise (fun s d d' hd hne hd' => ?_) hdistinct hs
  rcases next_cases service parseStr s d with
    ⟨_, hnext⟩ | ⟨_, checkpoint, _, _, hid, _, _, hnext⟩
  · rwa [hnext]
  · rw [Fresh, ← hid] at hd
    rw [Fresh, hnext, (hlawful.create checkpoint s hd).2, hid, if_neg hne.symm]
    exact hd'

/-- A run of deliveries with new identifiers is idempotent exactly if no event that is acted upon
comes twice. -/
theorem acts_once_iff (hlawful : service.repo.Lawful record)
    {deliveries : List (Delivery CheckpointDraw)}
    (hfresh : AllSteps (next service parseStr) (Fresh record) s deliveries) :
    Idempotent (next service parseStr) Delivery.event
        (fun event => event.SameRecords parseStr record Checkpoint.isOf) s deliveries ↔
      ∀ event, List.Duplicate event (deliveries.map Delivery.event) → ¬ event.Acts parseStr :=
  idempotent_iff_acts_once (fun _ _ hd => sameRecords_next_iff hlawful hd) hfresh

end CheckpointCreatorConsumer

namespace SnapshotCreatorConsumer

variable {σ τ : Type} {consumer : SnapshotCreatorConsumer σ τ} {hasher : Hasher}
  {parseStr : String → Option Uuid} {record : σ → Uuid → Option PolicySnapshot} {s : σ × τ}
  {d : Delivery SnapshotDraw}

/-- The delivery draws a new identifier. -/
def Fresh (record : σ → Uuid → Option PolicySnapshot) (s : σ × τ) (d : Delivery SnapshotDraw) :
    Prop :=
  record s.1 d.draw.snapshotId = none

/-- Only an applied rebase to a version of some intent is acted upon. -/
def Acts (parseStr : String → Option Uuid) (event : PublishedEvent) : Prop :=
  event.Acts parseStr ∧ event.extractIntentVersion ≠ 0

/-- The storage of the text changes only the address of a snapshot. -/
theorem storeBlob_eq (consumer : SnapshotCreatorConsumer σ τ) (snapshot : PolicySnapshot)
    (store : τ) : ∃ uri, (consumer.storeBlob snapshot store).1 =
      { snapshot with snapshotUri := uri } := by
  unfold storeBlob
  split
  · next uri _ _ => exact ⟨uri, rfl⟩
  · exact ⟨snapshot.snapshotUri, rfl⟩

/-- What a delivery does: nothing, or the creation of a snapshot of its event's intent version. -/
theorem next_cases (consumer : SnapshotCreatorConsumer σ τ) (hasher : Hasher)
    (parseStr : String → Option Uuid) (s : σ × τ) (d : Delivery SnapshotDraw) :
    (¬ Acts parseStr d.event ∧ consumer.next hasher parseStr s d = s) ∨
    ∃ intentId snapshot, Acts parseStr d.event ∧
      d.event.extractIntentId parseStr = some intentId ∧ snapshot.id = d.draw.snapshotId ∧
      snapshot.intentId = intentId ∧ snapshot.intentVersion = d.event.extractIntentVersion ∧
      (consumer.next hasher parseStr s d).1 =
        (consumer.policySnapshotRepo.createSnapshot snapshot s.1).2 := by
  by_cases happlied : d.event.isRebaseApplied = true
  swap
  · refine .inl ⟨fun h => happlied h.1.1, ?_⟩
    simp only [next, consume, happlied, Bool.not_false, if_true]
  cases hintent : d.event.extractIntentId parseStr with
  | none =>
    refine .inl ⟨fun h => ?_, ?_⟩
    · have hsome := h.1.2
      rw [hintent] at hsome
      cases hsome
    · simp only [next, consume, happlied, hintent, Bool.not_true, Bool.false_eq_true, if_false]
  | some intentId =>
    by_cases hversion : d.event.extractIntentVersion = 0
    · refine .inl ⟨fun h => h.2 hversion, ?_⟩
      simp only [next, consume, happlied, hintent, hversion, Bool.not_true, Bool.false_eq_true,
        if_false, if_true]
    obtain ⟨uri, huri⟩ :=
      storeBlob_eq consumer (eventSnapshot hasher parseStr d.event d.draw intentId) s.2
    refine .inr ⟨intentId, _, ⟨⟨happlied, by rw [hintent]; rfl⟩, hversion⟩, rfl,
      (congrArg PolicySnapshot.id huri).trans rfl,
      (congrArg PolicySnapshot.intentId huri).trans rfl,
      (congrArg PolicySnapshot.intentVersion huri).trans rfl, ?_⟩
    simp only [next, consume, happlied, hintent, hversion, Bool.not_true, Bool.false_eq_true,
      if_false]
    split
    · next heq => rw [heq]
    · next heq => rw [heq]

section InMemory

variable {consumer : SnapshotCreatorConsumer InMemoryPolicySnapshotRepository τ}
  {s : InMemoryPolicySnapshotRepository × τ}

/-- In memory, a delivery adds a snapshot exactly if its event is acted upon. -/
theorem sameRecords_inMemory_iff
    (hrepo : consumer.policySnapshotRepo = InMemoryPolicySnapshotRepository.repository)
    (hfresh : Fresh InMemoryPolicySnapshotRepository.record s d) :
    d.event.SameRecords parseStr InMemoryPolicySnapshotRepository.record PolicySnapshot.isOf s.1
      (consumer.next hasher parseStr s d).1 ↔ ¬ Acts parseStr d.event := by
  rcases next_cases consumer hasher parseStr s d with
    ⟨hidle, hnext⟩ | ⟨intentId, snapshot, hacts, hintent, hid, hsnapshot, hversion, hnext⟩
  · refine iff_of_true ?_ hidle
    rw [hnext]
    exact .refl s.1
  · refine iff_of_false ?_ fun h => h hacts
    have hnew : (consumer.next hasher parseStr s d).1.record d.draw.snapshotId = some snapshot := by
      rw [hnext, hrepo]
      exact (lookup_insert_eq _ _ _ _).trans (if_pos hid.symm)
    refine PublishedEvent.not_sameRecords hintent hfresh hnew ?_
    rw [PolicySnapshot.isOf, Bool.and_eq_true, beq_iff_eq, beq_iff_eq]
    exact ⟨hsnapshot, hversion⟩

/-- Deliveries that draw different identifiers, of which none is stored, each draw a new one. -/
theorem fresh_of_distinct_inMemory
    (hrepo : consumer.policySnapshotRepo = InMemoryPolicySnapshotRepository.repository)
    {deliveries : List (Delivery SnapshotDraw)}
    (hdistinct : deliveries.Pairwise fun d d' => d.draw.snapshotId ≠ d'.draw.snapshotId)
    (hs : ∀ d ∈ deliveries, Fresh InMemoryPolicySnapshotRepository.record s d) :
    AllSteps (consumer.next hasher parseStr) (Fresh InMemoryPolicySnapshotRepository.record) s
      deliveries := by
  refine allSteps_of_pairwise (fun s d d' _ hne hd' => ?_) hdistinct hs
  rcases next_cases consumer hasher parseStr s d with
    ⟨_, hnext⟩ | ⟨_, snapshot, _, _, hid, _, _, hnext⟩
  · rwa [hnext]
  · rw [hrepo] at hnext
    have hother : (consumer.next hasher parseStr s d).1.record d'.draw.snapshotId =
        s.1.record d'.draw.snapshotId := by
      rw [hnext]
      exact (lookup_insert_eq _ _ _ _).trans (if_neg (hid.symm ▸ hne.symm))
    exact hother.trans hd'

/-- In memory, a run of deliveries with new identifiers is idempotent exactly if no event that is
acted upon comes twice. -/
theorem acts_once_inMemory_iff
    (hrepo : consumer.policySnapshotRepo = InMemoryPolicySnapshotRepository.repository)
    {deliveries : List (Delivery SnapshotDraw)}
    (hfresh : AllSteps (consumer.next hasher parseStr)
      (Fresh InMemoryPolicySnapshotRepository.record) s deliveries) :
    Idempotent (consumer.next hasher parseStr) Delivery.event
        (fun event s s' => event.SameRecords parseStr InMemoryPolicySnapshotRepository.record
          PolicySnapshot.isOf s.1 s'.1) s deliveries ↔
      ∀ event, List.Duplicate event (deliveries.map Delivery.event) → ¬ Acts parseStr event :=
  idempotent_iff_acts_once (fun _ _ hd => sameRecords_inMemory_iff hrepo hd) hfresh

end InMemory

section Sqlx

variable {consumer : SnapshotCreatorConsumer SqlxPolicySnapshotRepository τ}
  {s : SqlxPolicySnapshotRepository × τ}

/-- The table takes no snapshot for the event, or no further one. -/
def Done (parseStr : String → Option Uuid) (event : PublishedEvent)
    (s : SqlxPolicySnapshotRepository × τ) : Prop :=
  ∀ intentId, event.extractIntentId parseStr = some intentId → Acts parseStr event →
    s.1.hasVersion intentId event.extractIntentVersion = true ∨ intentId ∉ s.1.intents

/-- What a delivery does to the table: nothing, as the event is done or not acted upon, or it adds
the only snapshot of the event's intent version. -/
theorem next_sqlx_cases
    (hrepo : consumer.policySnapshotRepo = SqlxPolicySnapshotRepository.repository)
    (hfresh : Fresh SqlxPolicySnapshotRepository.record s d) :
    Done parseStr d.event s ∧ (consumer.next hasher parseStr s d).1 = s.1 ∨
    ∃ intentId row, ¬ Done parseStr d.event s ∧ s.1.rows.lookup d.draw.snapshotId = none ∧
      d.event.extractIntentId parseStr = some intentId ∧ row.intentId = intentId ∧
      row.intentVersion = d.event.extractIntentVersion ∧
      (consumer.next hasher parseStr s d).1 =
        { s.1 with rows := s.1.rows.insert d.draw.snapshotId row } := by
  rcases next_cases consumer hasher parseStr s d with
    ⟨hidle, hnext⟩ | ⟨intentId, snapshot, hacts, hintent, hid, rfl, hversion, hnext⟩
  · exact .inl ⟨fun _ _ hacts => absurd hacts hidle, by rw [hnext]⟩
  have hnone : s.1.rows.lookup d.draw.snapshotId = none := Option.map_eq_none_iff.mp hfresh
  rw [hrepo] at hnext
  have hnext' : (consumer.next hasher parseStr s d).1 = (s.1.insertSnapshot snapshot).2 := hnext
  rcases s.1.insertSnapshot_cases snapshot with
    ⟨hsame, hrefused⟩ | ⟨_, hnew, hstored, hinsert⟩
  · refine .inl ⟨fun intentId hintent' _ => ?_, hnext'.trans hsame⟩
    rw [hintent] at hintent'
    cases hintent'
    rw [hid, hnone, hversion] at hrefused
    exact hrefused.resolve_left (by simp)
  · refine .inr ⟨snapshot.intentId, snapshotToRow snapshot, fun hdone => ?_, hnone, hintent, rfl,
      hversion, ?_⟩
    · rw [hversion] at hnew
      rcases hdone snapshot.intentId hintent hacts with hold | hmissing
      · rw [hold] at hnew
        cases hnew
      · exact hmissing hstored
    · rw [hnext', hinsert, hid]

/-- Deliveries that draw different identifiers, of which none is stored, each draw a new one. -/
theorem fresh_of_distinct_sqlx
    (hrepo : consumer.policySnapshotRepo = SqlxPolicySnapshotRepository.repository)
    {deliveries : List (Delivery SnapshotDraw)}
    (hdistinct : deliveries.Pairwise fun d d' => d.draw.snapshotId ≠ d'.draw.snapshotId)
    (hs : ∀ d ∈ deliveries, Fresh SqlxPolicySnapshotRepository.record s d) :
    AllSteps (consumer.next hasher parseStr) (Fresh SqlxPolicySnapshotRepository.record) s
      deliveries := by
  refine allSteps_of_pairwise (fun s d d' hd hne hd' => ?_) hdistinct hs
  rcases next_sqlx_cases hrepo hd with ⟨_, hnext⟩ | ⟨_, row, _, _, _, _, _, hnext⟩
  · rwa [Fresh, hnext]
  · rw [Fresh, SqlxPolicySnapshotRepository.record, hnext, lookup_insert_eq, if_neg hne.symm]
    exact hd'

/-- With the table, every run of deliveries is idempotent. -/
theorem idempotent_sqlx
    (hrepo : consumer.policySnapshotRepo = SqlxPolicySnapshotRepository.repository)
    {deliveries : List (Delivery SnapshotDraw)}
    (hfresh : AllSteps (consumer.next hasher parseStr) (Fresh SqlxPolicySnapshotRepository.record)
      s deliveries) :
    Idempotent (consumer.next hasher parseStr) Delivery.event
      (fun event s s' => event.SameRecords parseStr SqlxPolicySnapshotRepository.record
        PolicySnapshot.isOf s.1 s'.1) s deliveries := by
  refine idempotent_of_done (Done parseStr) ?_ ?_ ?_ hfresh
  · intro s d hd intentId hintent hacts
    rcases next_sqlx_cases hrepo hd with
      ⟨hdone, hsame⟩ | ⟨intentId', row, _, hnone, hintent', hrow, hversion, hnext⟩
    · rw [hsame]
      exact hdone intentId hintent hacts
    · rw [hintent] at hintent'
      cases hintent'
      rw [hnext, SqlxPolicySnapshotRepository.hasVersion_insert hnone]
      exact .inl (.inl ⟨hrow, hversion⟩)
  · intro e s d hd hdone intentId hintent hacts
    rcases next_sqlx_cases hrepo hd with ⟨_, hsame⟩ | ⟨_, row, _, hnone, _, _, _, hnext⟩
    · rw [hsame]
      exact hdone intentId hintent hacts
    · rw [hnext, SqlxPolicySnapshotRepository.hasVersion_insert hnone]
      exact (hdone intentId hintent hacts).imp_left .inr
  · intro s d hd hdone
    rcases next_sqlx_cases hrepo hd with ⟨_, hsame⟩ | ⟨_, _, hundone, _⟩
    · show d.event.SameRecords parseStr _ _ s.1 (consumer.next hasher parseStr s d).1
      rw [hsame]
      exact .refl s.1
    · exact absurd hdone hundone

end Sqlx

end SnapshotCreatorConsumer

section Repositories

variable (hasher : Hasher) (parseStr : String → Option Uuid) (defaultTtl : Option Int)

/-- The consumer with the snapshots in memory. -/
def inMemorySnapshots {τ : Type} (snapshotStorage : SnapshotStorage τ) :
    SnapshotCreatorConsumer InMemoryPolicySnapshotRepository τ where
  policySnapshotRepo := InMemoryPolicySnapshotRepository.repository
  snapshotStorage := snapshotStorage

/-- The consumer with the table of snapshots. -/
def sqlxSnapshots {τ : Type} (snapshotStorage : SnapshotStorage τ) :
    SnapshotCreatorConsumer SqlxPolicySnapshotRepository τ where
  policySnapshotRepo := SqlxPolicySnapshotRepository.repository
  snapshotStorage := snapshotStorage

/-- Deliveries to the checkpoint consumer over a repository are idempotent. -/
def CheckpointsIdempotent {σ : Type} (service : CheckpointService σ)
    (record : σ → Uuid → Option Checkpoint) (s : σ) (ds : List (Delivery CheckpointDraw)) : Prop :=
  Idempotent (CheckpointCreatorConsumer.next service parseStr) Delivery.event
    (fun event => event.SameRecords parseStr record Checkpoint.isOf) s ds

/-- Deliveries to the snapshot consumer over a repository are idempotent. -/
def SnapshotsIdempotent {σ τ : Type} (consumer : SnapshotCreatorConsumer σ τ)
    (record : σ → Uuid → Option PolicySnapshot) (s : σ × τ) (ds : List (Delivery SnapshotDraw)) :
    Prop :=
  Idempotent (consumer.next hasher parseStr) Delivery.event
    (fun event s s' => event.SameRecords parseStr record PolicySnapshot.isOf s.1 s'.1) s ds

/-- A run of deliveries, each with a new identifier, is idempotent for checkpoints, over either
repository, exactly if no applied rebase of an intent comes twice; for snapshots in memory exactly
if no applied rebase to a version of an intent does; and for the table of snapshots always. -/
theorem consumers_idempotent_iff {τ : Type} (snapshotStorage : SnapshotStorage τ)
    (cs : List (Delivery CheckpointDraw)) (ds : List (Delivery SnapshotDraw)) :
    (∀ s, AllSteps (CheckpointCreatorConsumer.next (inMemoryCheckpoints defaultTtl) parseStr)
        (CheckpointCreatorConsumer.Fresh InMemoryCheckpointRepository.record) s cs →
      (CheckpointsIdempotent parseStr (inMemoryCheckpoints defaultTtl)
          InMemoryCheckpointRepository.record s cs ↔
        ∀ event, List.Duplicate event (cs.map Delivery.event) → ¬ event.Acts parseStr)) ∧
    (∀ s, AllSteps (CheckpointCreatorConsumer.next (sqlxCheckpoints defaultTtl) parseStr)
        (CheckpointCreatorConsumer.Fresh SqlxCheckpointRepository.record) s cs →
      (CheckpointsIdempotent parseStr (sqlxCheckpoints defaultTtl)
          SqlxCheckpointRepository.record s cs ↔
        ∀ event, List.Duplicate event (cs.map Delivery.event) → ¬ event.Acts parseStr)) ∧
    (∀ s, AllSteps ((inMemorySnapshots snapshotStorage).next hasher parseStr)
        (SnapshotCreatorConsumer.Fresh InMemoryPolicySnapshotRepository.record) s ds →
      (SnapshotsIdempotent hasher parseStr (inMemorySnapshots snapshotStorage)
          InMemoryPolicySnapshotRepository.record s ds ↔
        ∀ event, List.Duplicate event (ds.map Delivery.event) →
          ¬ SnapshotCreatorConsumer.Acts parseStr event)) ∧
    ∀ s, AllSteps ((sqlxSnapshots snapshotStorage).next hasher parseStr)
        (SnapshotCreatorConsumer.Fresh SqlxPolicySnapshotRepository.record) s ds →
      SnapshotsIdempotent hasher parseStr (sqlxSnapshots snapshotStorage)
        SqlxPolicySnapshotRepository.record s ds := by
  refine ⟨fun s hfresh => ?_, fun s hfresh => ?_, fun s hfresh => ?_, fun s hfresh => ?_⟩
  · have hlawful : (inMemoryCheckpoints defaultTtl).repo.Lawful
        InMemoryCheckpointRepository.record := InMemoryCheckpointRepository.lawful
    exact CheckpointCreatorConsumer.acts_once_iff hlawful hfresh
  · have hlawful : (sqlxCheckpoints defaultTtl).repo.Lawful
        SqlxCheckpointRepository.record := SqlxCheckpointRepository.lawful
    exact CheckpointCreatorConsumer.acts_once_iff hlawful hfresh
  · exact SnapshotCreatorConsumer.acts_once_inMemory_iff rfl hfresh
  · exact SnapshotCreatorConsumer.idempotent_sqlx rfl hfresh

end Repositories

section Sample

/-- The reading of the two identifiers in the sample event. -/
def sampleParse (s : String) : Option Uuid := [5, 10].find? fun id => id.display == s

/-- A rebase of intent 10 of tenant 5 from version 1 to version 2. -/
def sampleApplied : PublishedEvent where
  subject := "audit.events.v1.00000000-0000-0000-0000-000000000005.RebaseApplied"
  sequence := 1
  payload := .object
    [("from_version", .ofInt 1), ("intent_id", .string "00000000-0000-0000-0000-00000000000a"),
      ("to_version", .ofInt 2)]

theorem sampleApplied_acts : SnapshotCreatorConsumer.Acts sampleParse sampleApplied :=
  ⟨⟨by decide +kernel, by decide +kernel⟩, by decide +kernel⟩

/-- A hasher that knows the digest of the event's scope. -/
def scopeHasher : Hasher :=
  sampleHasher
    [("\x7b\"affected_resources\":[],\"min_approvals\":1,\"required_approvers\":[]," ++
        "\"scope_type\":\"none\"\x7d",
      "317d1b85088b635c62d1e25ed6b36b6626fe4b34b51a9a38c50974d51f5b5365")]

/-- The event is delivered twice to either consumer, with new identifiers. -/
def twiceToCheckpoints : List (Delivery CheckpointDraw) :=
  [⟨sampleApplied, ⟨1, 0, 0⟩⟩, ⟨sampleApplied, ⟨2, 1, 1⟩⟩]

def twiceToSnapshots : List (Delivery SnapshotDraw) :=
  [⟨sampleApplied, ⟨1, 0⟩⟩, ⟨sampleApplied, ⟨2, 1⟩⟩]

/-- The empty table of snapshots, with intent 10 stored. -/
def tableOfIntent : SqlxPolicySnapshotRepository × HashMap String PolicySnapshot := (⟨∅, [10]⟩, ∅)

/-- Delivered once, the event leaves one checkpoint; delivered twice, it leaves one row of the table
of snapshots. -/
theorem consumers_idempotent_sample :
    CheckpointsIdempotent sampleParse (inMemoryCheckpoints none)
        InMemoryCheckpointRepository.record .new [⟨sampleApplied, ⟨1, 0, 0⟩⟩] ∧
      SnapshotsIdempotent scopeHasher sampleParse (sqlxSnapshots InMemorySnapshotStorage.storage)
        SqlxPolicySnapshotRepository.record tableOfIntent twiceToSnapshots := by
  have hall := consumers_idempotent_iff scopeHasher sampleParse none
    InMemorySnapshotStorage.storage [⟨sampleApplied, ⟨1, 0, 0⟩⟩] twiceToSnapshots
  constructor
  · refine (hall.1 .new ⟨rfl, trivial⟩).mpr fun event htwice => ?_
    exact absurd htwice (by simp)
  · exact hall.2.2.2 tableOfIntent
      (SnapshotCreatorConsumer.fresh_of_distinct_sqlx rfl (by decide) fun _ _ => rfl)

/-- Delivered twice, the event leaves two checkpoints in either repository, and two snapshots in
memory. -/
theorem redelivered_twice_recorded :
    ¬ CheckpointsIdempotent sampleParse (inMemoryCheckpoints none)
        InMemoryCheckpointRepository.record .new twiceToCheckpoints ∧
      ¬ CheckpointsIdempotent sampleParse (sqlxCheckpoints none)
        SqlxCheckpointRepository.record .new twiceToCheckpoints ∧
      ¬ SnapshotsIdempotent scopeHasher sampleParse
        (inMemorySnapshots InMemorySnapshotStorage.storage)
        InMemoryPolicySnapshotRepository.record (.new, ∅) twiceToSnapshots := by
  have htwice : List.Duplicate sampleApplied [sampleApplied, sampleApplied] :=
    .cons_mem List.mem_cons_self
  refine ⟨fun h => ?_, fun h => ?_, fun h => ?_⟩
  · have hlawful : (inMemoryCheckpoints none).repo.Lawful
        InMemoryCheckpointRepository.record := InMemoryCheckpointRepository.lawful
    have hfresh : AllSteps (CheckpointCreatorConsumer.next (inMemoryCheckpoints none) sampleParse)
        (CheckpointCreatorConsumer.Fresh InMemoryCheckpointRepository.record) .new twiceToCheckpoints :=
      CheckpointCreatorConsumer.fresh_of_distinct hlawful (by decide) fun _ _ => rfl
    have honce := (CheckpointCreatorConsumer.acts_once_iff hlawful hfresh).mp h
    exact honce sampleApplied htwice sampleApplied_acts.1
  · have hlawful : (sqlxCheckpoints none).repo.Lawful
        SqlxCheckpointRepository.record := SqlxCheckpointRepository.lawful
    have hfresh : AllSteps (CheckpointCreatorConsumer.next (sqlxCheckpoints none) sampleParse)
        (CheckpointCreatorConsumer.Fresh SqlxCheckpointRepository.record) .new twiceToCheckpoints :=
      CheckpointCreatorConsumer.fresh_of_distinct hlawful (by decide) fun _ _ => rfl
    have honce := (CheckpointCreatorConsumer.acts_once_iff hlawful hfresh).mp h
    exact honce sampleApplied htwice sampleApplied_acts.1
  · have hfresh : AllSteps ((inMemorySnapshots InMemorySnapshotStorage.storage).next scopeHasher
        sampleParse) (SnapshotCreatorConsumer.Fresh InMemoryPolicySnapshotRepository.record)
        (.new, ∅) twiceToSnapshots :=
      SnapshotCreatorConsumer.fresh_of_distinct_inMemory rfl (by decide) fun _ _ => rfl
    have honce := (SnapshotCreatorConsumer.acts_once_inMemory_iff rfl hfresh).mp h
    exact honce sampleApplied htwice sampleApplied_acts

end Sample

end IntentRebase
