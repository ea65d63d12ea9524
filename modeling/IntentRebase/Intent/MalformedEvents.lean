import IntentRebase.Intent.EventConsumer

/-! What the consumers make of malformed events: when a checkpoint is stored only for an event whose
subject and payload name its tenant, intent and version, and when both consumers refuse the same
events. -/

namespace IntentRebase

open Kit

namespace PublishedEvent

variable (parseStr : String → Option Uuid) (event : PublishedEvent)

/-- The tenant that the subject names in its fourth part. -/
def subjectTenant : Option Uuid :=
  (event.subject.toList.splitOn '.')[3]?.bind fun part => parseStr (String.ofList part)

/-- The integer of 64 bits in the payload's field of the version. -/
def toVersion : Option Int := (event.payload.get "to_version").bind Json.asI64

/-- The subject names a tenant, and the version is an integer of 32 bits other than zero. -/
def Named : Prop :=
  (∃ tenantId, event.subjectTenant parseStr = some tenantId) ∧
  ∃ version, event.toVersion = some version ∧ -2147483648 ≤ version ∧ version < 2147483648 ∧
    version ≠ 0

variable {parseStr event}

theorem extractTenantId_eq :
    event.extractTenantId parseStr = (event.subjectTenant parseStr).getD .nil := by
  unfold extractTenantId subjectTenant
  cases (event.subject.toList.splitOn '.')[3]? <;> rfl

theorem extractIntentVersion_eq :
    event.extractIntentVersion = (event.toVersion.map i64AsI32).getD 0 := rfl

/-- The cast to 32 bits keeps exactly the integers of 32 bits. -/
theorem i64AsI32_eq_self_iff {n : Int} :
    i64AsI32 n = n ↔ -2147483648 ≤ n ∧ n < 2147483648 := by
  unfold i64AsI32
  constructor
  · intro h
    have hlower := Int.le_bmod (x := n) (m := 2 ^ 32) (by decide)
    have hupper := Int.bmod_lt (x := n) (m := 2 ^ 32) (by decide)
    omega
  · rintro ⟨hlower, hupper⟩
    exact Int.bmod_eq_of_le (by omega) (by omega)

/-- The tenant and the version that are read are those that the event names, and the version is not
zero, exactly if the event names them. -/
theorem named_iff :
    event.Named parseStr ↔
      event.subjectTenant parseStr = some (event.extractTenantId parseStr) ∧
      event.toVersion = some event.extractIntentVersion ∧ event.extractIntentVersion ≠ 0 := by
  rw [extractTenantId_eq, extractIntentVersion_eq, Named]
  cases htenant : event.subjectTenant parseStr with
  | none => simp
  | some tenantId =>
    cases hversion : event.toVersion with
    | none => simp
    | some version =>
      simp only [Option.some.injEq, exists_eq', Option.getD_some, true_and, Option.map_some]
      constructor
      · rintro ⟨_, rfl, hlower, hupper, hzero⟩
        have hcast := i64AsI32_eq_self_iff.mpr ⟨hlower, hupper⟩
        exact ⟨hcast.symm, by rwa [hcast]⟩
      · rintro ⟨hcast, hzero⟩
        obtain ⟨hlower, hupper⟩ := i64AsI32_eq_self_iff.mp hcast.symm
        rw [← hcast] at hzero
        exact ⟨version, rfl, hlower, hupper, hzero⟩

end PublishedEvent

/-- The result is a failure. -/
def ConsumeResult.IsFailed (result : ConsumeResult) : Prop := ∃ reason, result = .failed reason

/-- The snapshot consumer refuses the event, whatever snapshots are stored. -/
def SnapshotCreatorConsumer.Refuses {σ τ : Type} (consumer : SnapshotCreatorConsumer σ τ)
    (hasher : Hasher) (parseStr : String → Option Uuid) (store : τ) (event : PublishedEvent) :
    Prop :=
  ∀ draw s, (consumer.consume hasher parseStr event draw (s, store)).1.IsFailed

/-- A delivery that stores a checkpoint stores the tenant, intent and version that the event names;
otherwise an applied rebase is failed and nothing changes; and it is failed exactly if the snapshot
consumer refuses the event, over either repository. -/
structure MalformedSafe {σ τ : Type} (service : CheckpointService σ)
    (record : σ → Uuid → Option Checkpoint) (snapshotStorage : SnapshotStorage τ)
    (hasher : Hasher) (parseStr : String → Option Uuid) (d : Delivery CheckpointDraw) (s : σ)
    (store : τ) : Prop where
  stored : ∀ c,
    record (CheckpointCreatorConsumer.next service parseStr s d) d.draw.checkpointId = some c →
    d.event.subjectTenant parseStr = some c.tenantId ∧
      d.event.toVersion = some c.intentVersion ∧
      d.event.extractIntentId parseStr = some c.intentId
  refused : d.event.isRebaseApplied = true →
    record (CheckpointCreatorConsumer.next service parseStr s d) d.draw.checkpointId = none →
    (CheckpointCreatorConsumer.consume service parseStr d.event d.draw s).1.IsFailed ∧
      CheckpointCreatorConsumer.next service parseStr s d = s
  agreesInMemory :
    (CheckpointCreatorConsumer.consume service parseStr d.event d.draw s).1.IsFailed ↔
      (inMemorySnapshots snapshotStorage).Refuses hasher parseStr store d.event
  agreesSqlx :
    (CheckpointCreatorConsumer.consume service parseStr d.event d.draw s).1.IsFailed ↔
      (sqlxSnapshots snapshotStorage).Refuses hasher parseStr store d.event

section Snapshots

variable {τ : Type} {snapshotStorage : SnapshotStorage τ} {hasher : Hasher}
  {parseStr : String → Option Uuid} {store : τ} {event : PublishedEvent}

/-- What the snapshot consumer refuses whatever its repositories. -/
theorem SnapshotCreatorConsumer.isFailed_of_missing {σ : Type}
    (consumer : SnapshotCreatorConsumer σ τ) (happlied : event.isRebaseApplied = true)
    (hmissing : event.extractIntentId parseStr = none ∨ event.extractIntentVersion = 0)
    (draw : SnapshotDraw) (s : σ × τ) :
    (consumer.consume hasher parseStr event draw s).1.IsFailed := by
  unfold consume
  rw [happlied]
  rcases hmissing with hintent | hversion
  · rw [hintent]
    exact ⟨_, rfl⟩
  · rw [hversion]
    cases event.extractIntentId parseStr with
    | none => exact ⟨_, rfl⟩
    | some intentId => exact ⟨_, rfl⟩

/-- An event that the repository takes is not refused. -/
theorem SnapshotCreatorConsumer.not_refuses {σ : Type} {consumer : SnapshotCreatorConsumer σ τ}
    (s : σ) (draw : SnapshotDraw)
    (hs : ∀ intentId, event.extractIntentId parseStr = some intentId → ∀ snapshot : PolicySnapshot,
      snapshot.id = draw.snapshotId → snapshot.intentId = intentId →
      ∃ created, (consumer.policySnapshotRepo.createSnapshot snapshot s).1 = .ok created)
    (hnamed : event.isRebaseApplied = true →
      (event.extractIntentId parseStr).isSome ∧ event.extractIntentVersion ≠ 0) :
    ¬ consumer.Refuses hasher parseStr store event := by
  intro h
  obtain ⟨reason, hreason⟩ := h draw s
  unfold consume at hreason
  cases happlied : event.isRebaseApplied with
  | false =>
    rw [happlied] at hreason
    cases hreason
  | true =>
    obtain ⟨hintent, hversion⟩ := hnamed happlied
    obtain ⟨intentId, hintent⟩ := Option.isSome_iff_exists.mp hintent
    obtain ⟨uri, huri⟩ := storeBlob_eq consumer
      (eventSnapshot hasher parseStr event draw intentId) store
    obtain ⟨created, hcreated⟩ := hs intentId hintent
      (consumer.storeBlob (eventSnapshot hasher parseStr event draw intentId) store).1
      (congrArg PolicySnapshot.id huri) (congrArg PolicySnapshot.intentId huri)
    simp only [happlied, hintent, hversion, Bool.not_true, Bool.false_eq_true, if_false] at hreason
    split at hreason
    · cases hreason
    · next heq =>
      rw [heq] at hcreated
      cases hcreated

variable (snapshotStorage hasher parseStr store event) in
/-- The snapshot consumer refuses an applied rebase without an intent, or whose version is read as
zero, and nothing else. -/
theorem refuses_iff :
    ((inMemorySnapshots snapshotStorage).Refuses hasher parseStr store event ↔
      event.isRebaseApplied = true ∧
        (event.extractIntentId parseStr = none ∨ event.extractIntentVersion = 0)) ∧
    ((sqlxSnapshots snapshotStorage).Refuses hasher parseStr store event ↔
      event.isRebaseApplied = true ∧
        (event.extractIntentId parseStr = none ∨ event.extractIntentVersion = 0)) := by
  have hnamed : ¬ (event.isRebaseApplied = true ∧
      (event.extractIntentId parseStr = none ∨ event.extractIntentVersion = 0)) →
      event.isRebaseApplied = true →
      (event.extractIntentId parseStr).isSome ∧ event.extractIntentVersion ≠ 0 := by
    intro h happlied
    obtain ⟨hintent, hversion⟩ := not_or.mp (not_and.mp h happlied)
    exact ⟨Option.isSome_iff_ne_none.mpr hintent, hversion⟩
  constructor
  · constructor
    · intro h
      by_contra hne
      exact SnapshotCreatorConsumer.not_refuses .new ⟨0, 0⟩ (fun _ _ snapshot _ _ => ⟨_, rfl⟩)
        (hnamed hne) h
    · exact fun h draw s => SnapshotCreatorConsumer.isFailed_of_missing _ h.1 h.2 draw _
  · constructor
    · intro h
      by_contra hne
      -- Over a table that has the intent, and no snapshot.
      refine SnapshotCreatorConsumer.not_refuses
        ⟨∅, (event.extractIntentId parseStr).toList⟩ ⟨0, 0⟩ ?_ (hnamed hne) h
      intro intentId hintent snapshot _ hof
      have hstored : snapshot.intentId ∈ (event.extractIntentId parseStr).toList := by
        rw [hintent, hof]
        exact List.mem_singleton_self _
      refine ⟨snapshot, ?_⟩
      show (SqlxPolicySnapshotRepository.insertSnapshot ⟨∅, _⟩ snapshot).1 = _
      rw [SqlxPolicySnapshotRepository.insertSnapshot]
      simp only [AList.lookup_empty, Option.isSome_none, SqlxPolicySnapshotRepository.hasVersion,
        pairs_empty, List.any_nil, hstored, not_true_eq_false, Bool.false_eq_true, if_false]
    · exact fun h draw s => SnapshotCreatorConsumer.isFailed_of_missing _ h.1 h.2 draw _

end Snapshots

section Checkpoints

variable {σ τ : Type} {service : CheckpointService σ} {record : σ → Uuid → Option Checkpoint}
  {snapshotStorage : SnapshotStorage τ} {hasher : Hasher} {parseStr : String → Option Uuid}
  {d : Delivery CheckpointDraw} {s : σ} {store : τ}

/-- The checkpoint that a delivery asks for. -/
def deliveredCheckpoint (service : CheckpointService σ) (parseStr : String → Option Uuid)
    (d : Delivery CheckpointDraw) (intentId : Uuid) : Checkpoint :=
  CheckpointService.newCheckpoint d.draw
    (CheckpointCreatorConsumer.checkpointRequest parseStr d.event intentId) service.defaultTtl
    .emptyObject

/-- An applied rebase of an intent is consumed, and its checkpoint stored. -/
theorem consume_intent (hlawful : service.repo.Lawful record)
    (hfresh : CheckpointCreatorConsumer.Fresh record s d)
    (happlied : d.event.isRebaseApplied = true) {intentId : Uuid}
    (hintent : d.event.extractIntentId parseStr = some intentId) :
    (CheckpointCreatorConsumer.consume service parseStr d.event d.draw s).1 =
        .consumed d.event.subject d.event.sequence ∧
      record (CheckpointCreatorConsumer.next service parseStr s d) d.draw.checkpointId =
        some (deliveredCheckpoint service parseStr d intentId) := by
  obtain ⟨hok, hrecord⟩ :=
    hlawful.create (deliveredCheckpoint service parseStr d intentId) s hfresh
  have hcreate : service.createCheckpointWithDefaults d.draw
      (CheckpointCreatorConsumer.checkpointRequest parseStr d.event intentId) s =
      service.repo.createCheckpoint (deliveredCheckpoint service parseStr d intentId) s := rfl
  have hstored := hrecord d.draw.checkpointId
  have hid : d.draw.checkpointId =
      (deliveredCheckpoint service parseStr d intentId).checkpointId := rfl
  rw [← hcreate, if_pos hid] at hstored
  rw [← hcreate] at hok
  simp only [CheckpointCreatorConsumer.next, CheckpointCreatorConsumer.consume, happlied, hintent,
    Bool.not_true, Bool.false_eq_true, if_false]
  split
  · next heq =>
    rw [heq] at hstored
    exact ⟨rfl, hstored⟩
  · next heq =>
    rw [heq] at hok
    cases hok

/-- With a new identifier, a delivery of a malformed event is safe exactly if the event is not of an
applied rebase of some intent, or it names its tenant and a version other than zero. -/
theorem malformedSafe_iff (hlawful : service.repo.Lawful record)
    (hfresh : CheckpointCreatorConsumer.Fresh record s d) :
    MalformedSafe service record snapshotStorage hasher parseStr d s store ↔
      (d.event.Acts parseStr → d.event.Named parseStr) := by
  obtain ⟨hmemory, hsqlx⟩ := refuses_iff snapshotStorage hasher parseStr store d.event
  by_cases happlied : d.event.isRebaseApplied = true
  swap
  · -- An event of another type is consumed, and nothing is stored.
    have hconsume : CheckpointCreatorConsumer.consume service parseStr d.event d.draw s =
        (.consumed d.event.subject d.event.sequence, s) := by
      simp only [CheckpointCreatorConsumer.consume, happlied, Bool.not_false, if_true]
    have hsucceeds : ¬ (CheckpointCreatorConsumer.consume service parseStr d.event d.draw
        s).1.IsFailed := by
      rw [hconsume]
      rintro ⟨_, h⟩
      cases h
    refine iff_of_true ⟨fun c hc => ?_, fun h => absurd h happlied, ?_, ?_⟩
      fun h => absurd h.1 happlied
    · rw [CheckpointCreatorConsumer.next, hconsume, hfresh] at hc
      cases hc
    · exact iff_of_false hsucceeds fun h => happlied (hmemory.mp h).1
    · exact iff_of_false hsucceeds fun h => happlied (hsqlx.mp h).1
  cases hintent : d.event.extractIntentId parseStr with
  | none =>
    have hconsume : CheckpointCreatorConsumer.consume service parseStr d.event d.draw s =
        (.failed "missing intent_id in event payload", s) := by
      simp only [CheckpointCreatorConsumer.consume, happlied, hintent, Bool.not_true,
        Bool.false_eq_true, if_false]
    have hfails : (CheckpointCreatorConsumer.consume service parseStr d.event d.draw
        s).1.IsFailed := ⟨_, congrArg Prod.fst hconsume⟩
    refine iff_of_true ⟨fun c hc => ?_, fun _ _ => ⟨hfails, congrArg Prod.snd hconsume⟩, ?_, ?_⟩
      fun h => ?_
    · rw [CheckpointCreatorConsumer.next, hconsume, hfresh] at hc
      cases hc
    · exact iff_of_true hfails (hmemory.mpr ⟨happlied, .inl hintent⟩)
    · exact iff_of_true hfails (hsqlx.mpr ⟨happlied, .inl hintent⟩)
    · have hsome := h.2
      rw [hintent] at hsome
      cases hsome
  | some intentId =>
    obtain ⟨hresult, hrecord⟩ := consume_intent hlawful hfresh happlied hintent
    have hsucceeds : ¬ (CheckpointCreatorConsumer.consume service parseStr d.event d.draw
        s).1.IsFailed := by
      rw [hresult]
      rintro ⟨_, h⟩
      cases h
    have hacts : d.event.Acts parseStr := ⟨happlied, by rw [hintent]; rfl⟩
    rw [forall_prop_of_true hacts, PublishedEvent.named_iff]
    constructor
    · intro h
      obtain ⟨htenant, hversion, -⟩ := h.stored _ hrecord
      refine ⟨htenant, hversion, fun hzero => hsucceeds ?_⟩
      exact h.agreesInMemory.mpr (hmemory.mpr ⟨happlied, .inr hzero⟩)
    · rintro ⟨htenant, hversion, hzero⟩
      have haccepted : ¬ (d.event.isRebaseApplied = true ∧
          (d.event.extractIntentId parseStr = none ∨ d.event.extractIntentVersion = 0)) := by
        rintro ⟨-, hnone | hzero'⟩
        · rw [hintent] at hnone
          cases hnone
        · exact hzero hzero'
      refine ⟨fun c hc => ?_, fun _ hnone => ?_, ?_, ?_⟩
      · cases hrecord.symm.trans hc
        exact ⟨htenant, hversion, hintent⟩
      · rw [hrecord] at hnone
        cases hnone
      · exact iff_of_false hsucceeds fun h => haccepted (hmemory.mp h)
      · exact iff_of_false hsucceeds fun h => haccepted (hsqlx.mp h)

end Checkpoints

/-- Over either repository of checkpoints, a delivery with a new identifier is safe exactly if its
event is not of an applied rebase of some intent, or its subject names a tenant and its version is
an integer of 32 bits other than zero. -/
theorem checkpoints_malformedSafe_iff {τ : Type} (defaultTtl : Option Int)
    (snapshotStorage : SnapshotStorage τ) (hasher : Hasher) (parseStr : String → Option Uuid)
    (store : τ) (d : Delivery CheckpointDraw) :
    (∀ s, CheckpointCreatorConsumer.Fresh InMemoryCheckpointRepository.record s d →
      (MalformedSafe (inMemoryCheckpoints defaultTtl) InMemoryCheckpointRepository.record
          snapshotStorage hasher parseStr d s store ↔
        (d.event.Acts parseStr → d.event.Named parseStr))) ∧
    ∀ s, CheckpointCreatorConsumer.Fresh SqlxCheckpointRepository.record s d →
      (MalformedSafe (sqlxCheckpoints defaultTtl) SqlxCheckpointRepository.record
          snapshotStorage hasher parseStr d s store ↔
        (d.event.Acts parseStr → d.event.Named parseStr)) := by
  constructor
  · intro s hfresh
    have hlawful : (inMemoryCheckpoints defaultTtl).repo.Lawful
        InMemoryCheckpointRepository.record := InMemoryCheckpointRepository.lawful
    exact malformedSafe_iff hlawful hfresh
  · intro s hfresh
    have hlawful : (sqlxCheckpoints defaultTtl).repo.Lawful
        SqlxCheckpointRepository.record := SqlxCheckpointRepository.lawful
    exact malformedSafe_iff hlawful hfresh

section Sample

/-- The sample event names its tenant and its version. -/
theorem checkpoints_malformedSafe_sample :
    MalformedSafe (inMemoryCheckpoints none) InMemoryCheckpointRepository.record
        InMemorySnapshotStorage.storage scopeHasher sampleParse ⟨sampleApplied, ⟨1, 0, 0⟩⟩ .new ∅ ∧
      MalformedSafe (sqlxCheckpoints none) SqlxCheckpointRepository.record
        InMemorySnapshotStorage.storage scopeHasher sampleParse ⟨sampleApplied, ⟨1, 0, 0⟩⟩ .new
        ∅ := by
  have hnamed : sampleApplied.Named sampleParse :=
    ⟨⟨5, by decide +kernel⟩, 2, by decide +kernel, by decide, by decide, by decide⟩
  obtain ⟨hmemory, hsqlx⟩ := checkpoints_malformedSafe_iff none InMemorySnapshotStorage.storage
    scopeHasher sampleParse ∅ ⟨sampleApplied, ⟨1, 0, 0⟩⟩
  exact ⟨(hmemory .new rfl).mpr fun _ => hnamed, (hsqlx .new rfl).mpr fun _ => hnamed⟩

/-- An applied rebase of intent 10, whose subject names no tenant and which has no version. -/
def malformedApplied : PublishedEvent where
  subject := "audit.events.v1.acme.RebaseApplied"
  sequence := 1
  payload := .object [("intent_id", .string "00000000-0000-0000-0000-00000000000a")]

/-- It leaves a checkpoint of the nil tenant in either repository. -/
theorem malformed_stored :
    ¬ MalformedSafe (inMemoryCheckpoints none) InMemoryCheckpointRepository.record
        InMemorySnapshotStorage.storage scopeHasher sampleParse ⟨malformedApplied, ⟨1, 0, 0⟩⟩
        .new ∅ ∧
      ¬ MalformedSafe (sqlxCheckpoints none) SqlxCheckpointRepository.record
        InMemorySnapshotStorage.storage scopeHasher sampleParse ⟨malformedApplied, ⟨1, 0, 0⟩⟩
        .new ∅ := by
  have happlied : malformedApplied.isRebaseApplied = true := by decide +kernel
  have hintent : malformedApplied.extractIntentId sampleParse = some 10 := by decide +kernel
  have htenant : malformedApplied.subjectTenant sampleParse = none := by decide +kernel
  constructor
  · intro h
    have hlawful : (inMemoryCheckpoints none).repo.Lawful
        InMemoryCheckpointRepository.record := InMemoryCheckpointRepository.lawful
    have hfresh : CheckpointCreatorConsumer.Fresh InMemoryCheckpointRepository.record .new
        ⟨malformedApplied, ⟨1, 0, 0⟩⟩ := rfl
    have hnamed := (h.stored _ (consume_intent hlawful hfresh happlied hintent).2).1
    cases htenant.symm.trans hnamed
  · intro h
    have hlawful : (sqlxCheckpoints none).repo.Lawful
        SqlxCheckpointRepository.record := SqlxCheckpointRepository.lawful
    have hfresh : CheckpointCreatorConsumer.Fresh SqlxCheckpointRepository.record .new
        ⟨malformedApplied, ⟨1, 0, 0⟩⟩ := rfl
    have hnamed := (h.stored _ (consume_intent hlawful hfresh happlied hintent).2).1
    cases htenant.symm.trans hnamed

end Sample

end IntentRebase
