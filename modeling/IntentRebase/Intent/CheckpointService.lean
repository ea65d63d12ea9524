import IntentRebase.Intent.CheckpointRepository
import IntentRebase.Kit.Transition

/-! The checkpoint service, when checkpoints that have expired, or have been superseded or
invalidated, are never active again, and when the default lifetime bounds every checkpoint. -/

namespace IntentRebase

open Kit

/-- What a creation of a checkpoint draws: an identifier, and the two times it reads. -/
structure CheckpointDraw where
  checkpointId : Uuid
  expiresFrom : DateTime
  createdAt : DateTime

/-- The arguments of a creation that both kinds have. -/
structure CheckpointRequest where
  intentId : Uuid
  intentVersion : Int
  workflowId : Uuid
  tenantId : Uuid
  checkpointType : CheckpointType
  workflowState : Json

/-- The service over a repository, with the lifetime of checkpoints that are given none. -/
structure CheckpointService (σ : Type) where
  repo : CheckpointStorage σ
  defaultTtl : Option Int

namespace CheckpointService

variable {σ : Type} (service : CheckpointService σ)

/-- A pending checkpoint. -/
def newCheckpoint (draw : CheckpointDraw) (request : CheckpointRequest) (expiresIn : Option Int)
    (metadata : Json) : Checkpoint where
  checkpointId := draw.checkpointId
  intentId := request.intentId
  intentVersion := request.intentVersion
  workflowId := request.workflowId
  tenantId := request.tenantId
  workflowState := request.workflowState
  checkpointType := request.checkpointType
  createdAt := draw.createdAt
  expiresAt := expiresIn.map fun d => draw.expiresFrom + d
  status := .pending
  metadata := metadata

def createCheckpoint (draw : CheckpointDraw) (request : CheckpointRequest) (expiresIn : Option Int)
    (metadata : Option Json) (s : σ) : Except IntentRebaseError Checkpoint × σ :=
  service.repo.createCheckpoint
    (newCheckpoint draw request expiresIn (metadata.getD .emptyObject)) s

def createCheckpointWithDefaults (draw : CheckpointDraw) (request : CheckpointRequest) (s : σ) :
    Except IntentRebaseError Checkpoint × σ :=
  service.repo.createCheckpoint (newCheckpoint draw request service.defaultTtl .emptyObject) s

def activateCheckpoint (checkpointId : Uuid) (s : σ) : Except IntentRebaseError Checkpoint × σ :=
  service.repo.updateStatus checkpointId .active s

def supersedeCheckpoint (checkpointId : Uuid) (s : σ) : Except IntentRebaseError Checkpoint × σ :=
  service.repo.updateStatus checkpointId .superseded s

def invalidateCheckpoint (checkpointId : Uuid) (s : σ) : Except IntentRebaseError Checkpoint × σ :=
  service.repo.updateStatus checkpointId .invalidated s

def runExpiration (now : DateTime) (s : σ) : Except IntentRebaseError Nat × σ :=
  service.repo.expireCheckpoints now s

end CheckpointService

/-- A call of the service. -/
inductive CheckpointCall where
  | create (draw : CheckpointDraw) (request : CheckpointRequest) (expiresIn : Option Int)
      (metadata : Option Json)
  | createWithDefaults (draw : CheckpointDraw) (request : CheckpointRequest)
  | activate (checkpointId : Uuid)
  | supersede (checkpointId : Uuid)
  | invalidate (checkpointId : Uuid)
  | runExpiration

/-- A call, and the time at which it is made. -/
structure TimedCheckpointCall where
  now : DateTime
  call : CheckpointCall

/-- The draw of a creation that is given no lifetime. -/
def TimedCheckpointCall.defaulted (t : TimedCheckpointCall) : Option CheckpointDraw :=
  match t.call with
  | .create draw _ none _ | .createWithDefaults draw _ => some draw
  | .create _ _ (some _) _ | .activate _ | .supersede _ | .invalidate _ | .runExpiration => none

/-- The call is `create_checkpoint`, and it is given no lifetime. -/
def TimedCheckpointCall.forgetsDefault (t : TimedCheckpointCall) : Bool :=
  match t.call with
  | .create _ _ none _ => true
  | .create _ _ (some _) _ | .createWithDefaults _ _ | .activate _ | .supersede _ | .invalidate _
  | .runExpiration => false

/-- The status that a call leaves a stored checkpoint in. -/
def TimedCheckpointCall.statusAfter (t : TimedCheckpointCall) (id : Uuid) (c : Checkpoint) :
    CheckpointStatus :=
  match t.call with
  | .create _ _ _ _ | .createWithDefaults _ _ => c.status
  | .activate id' => if id = id' then .active else c.status
  | .supersede id' => if id = id' then .superseded else c.status
  | .invalidate id' => if id = id' then .invalidated else c.status
  | .runExpiration => (c.expire t.now).status

/-- The statuses of checkpoints that are not to be used again. -/
def CheckpointStatus.isDead : CheckpointStatus → Bool
  | pending | created | active => false
  | superseded | expired | invalidated => true

namespace CheckpointService

variable {σ : Type} (service : CheckpointService σ) (record : σ → Uuid → Option Checkpoint)

/-- The state after a call. -/
def next (s : σ) (t : TimedCheckpointCall) : σ :=
  match t.call with
  | .create draw request expiresIn metadata =>
    (service.createCheckpoint draw request expiresIn metadata s).2
  | .createWithDefaults draw request => (service.createCheckpointWithDefaults draw request s).2
  | .activate checkpointId => (service.activateCheckpoint checkpointId s).2
  | .supersede checkpointId => (service.supersedeCheckpoint checkpointId s).2
  | .invalidate checkpointId => (service.invalidateCheckpoint checkpointId s).2
  | .runExpiration => (service.runExpiration t.now s).2

/-- The state after some calls. -/
def after (s : σ) (calls : List TimedCheckpointCall) : σ := calls.foldl service.next s

/-- A creation draws a new identifier. -/
def Fresh (s : σ) (t : TimedCheckpointCall) : Prop :=
  match t.call with
  | .create draw _ _ _ | .createWithDefaults draw _ => record s draw.checkpointId = none
  | .activate _ | .supersede _ | .invalidate _ | .runExpiration => True

/-- A checkpoint that is dead after some of the calls is active after none of the later ones, and
one whose expiry has passed is not made active. -/
structure DeadForGood (s : σ) (calls : List TimedCheckpointCall) : Prop where
  dead : ∀ id earlier later c c', earlier ++ later <+: calls →
    record (service.after s earlier) id = some c → c.status.isDead = true →
    record (service.after s (earlier ++ later)) id = some c' → c'.status ≠ .active
  expired : ∀ id earlier t c c', earlier ++ [t] <+: calls →
    record (service.after s earlier) id = some c → c.isExpired t.now = true →
    c.status ≠ .active → record (service.after s (earlier ++ [t])) id = some c' →
    c'.status ≠ .active

/-- The call does not activate a checkpoint that is dead, or one whose expiry has passed and that is
not active. -/
def Timely (s : σ) (t : TimedCheckpointCall) : Prop :=
  ∀ id c, t.call = .activate id → record s id = some c →
    c.status.isDead = false ∧ (c.isExpired t.now = true → c.status = .active)

/-- Every checkpoint that is created without a lifetime of its own has the default one from the time
at which its creation reads the clock, and is expired after an expiration later than that. -/
def DefaultTtlBounds (ttl : Int) (s : σ) (calls : List TimedCheckpointCall) : Prop :=
  ∀ t ∈ calls, ∀ draw, t.defaulted = some draw →
    ∃ c, record (service.after s calls) draw.checkpointId = some c ∧
      c.expiresAt = some (draw.expiresFrom + ttl) ∧
      ∀ now, draw.expiresFrom + ttl < now →
        ∃ c', record (service.runExpiration now (service.after s calls)).2 draw.checkpointId =
          some c' ∧ c'.status = .expired

section Proofs

variable {service record} {s : σ} {t : TimedCheckpointCall} {calls : List TimedCheckpointCall}
  {id : Uuid} {c : Checkpoint} (hlawful : service.repo.Lawful record)

include hlawful

/-- A call changes a stored checkpoint in its status at most. -/
theorem record_next_status (hfresh : Fresh record s t) (hc : record s id = some c) :
    record (service.next s t) id = some { c with status := t.statusAfter id c } := by
  obtain ⟨now, call⟩ := t
  have hcreate : ∀ new : Checkpoint, record s new.checkpointId = none →
      record (service.repo.createCheckpoint new s).2 id = some c := by
    intro new hnew
    rw [(hlawful.create new s hnew).2 id]
    split
    · next hid =>
      rw [hid, hnew] at hc
      cases hc
    · exact hc
  have hupdate : ∀ (id' : Uuid) (status : CheckpointStatus),
      record (service.repo.updateStatus id' status s).2 id =
        some { c with status := if id = id' then status else c.status } := by
    intro id' status
    rw [hlawful.update]
    split
    · next hid => rw [← hid, hc, Option.map_some]
    · exact hc
  cases call with
  | create draw request expiresIn metadata => exact hcreate _ hfresh
  | createWithDefaults draw request => exact hcreate _ hfresh
  | activate id' => exact hupdate id' .active
  | supersede id' => exact hupdate id' .superseded
  | invalidate id' => exact hupdate id' .invalidated
  | runExpiration =>
    refine (hlawful.expire now s id).trans ?_
    rw [hc, Option.map_some, TimedCheckpointCall.statusAfter, Checkpoint.expire]
    split
    · rfl
    · rfl

/-- What a call does to a stored checkpoint: nothing, or it activates it, or leaves it dead. -/
theorem record_next (hfresh : Fresh record s t) (hc : record s id = some c) :
    ∃ c', record (service.next s t) id = some c' ∧
      (c' = c ∨ t.call = .activate id ∧ c'.status = .active ∨ c'.status.isDead = true) := by
  refine ⟨_, record_next_status hlawful hfresh hc, ?_⟩
  obtain ⟨now, call⟩ := t
  have hupdate : ∀ (id' : Uuid) (status : CheckpointStatus), status.isDead = true →
      { c with status := if id = id' then status else c.status } = c ∨
      (if id = id' then status else c.status).isDead = true := by
    intro id' status hdead
    split
    · exact .inr hdead
    · exact .inl rfl
  cases call with
  | create draw request expiresIn metadata => exact .inl rfl
  | createWithDefaults draw request => exact .inl rfl
  | activate id' =>
    simp only [TimedCheckpointCall.statusAfter]
    split
    · next hid => exact .inr (.inl ⟨by rw [hid], rfl⟩)
    · exact .inl rfl
  | supersede id' => exact (hupdate id' .superseded rfl).imp_right .inr
  | invalidate id' => exact (hupdate id' .invalidated rfl).imp_right .inr
  | runExpiration =>
    simp only [TimedCheckpointCall.statusAfter, Checkpoint.expire]
    split
    · exact .inr (.inr rfl)
    · exact .inl rfl

/-- An activation of a stored checkpoint makes it active. -/
theorem record_activate (ht : t.call = .activate id) (hc : record s id = some c) :
    record (service.next s t) id = some { c with status := .active } := by
  rw [next, ht]
  exact (hlawful.update id .active s id).trans (by rw [if_pos rfl, hc, Option.map_some])

/-- Dead checkpoints stay dead under timely calls. -/
theorem Timely.dead (htimely : Timely record s t) (hfresh : Fresh record s t)
    (hs : ∃ c, record s id = some c ∧ c.status.isDead = true) :
    ∃ c, record (service.next s t) id = some c ∧ c.status.isDead = true := by
  obtain ⟨c, hc, hdead⟩ := hs
  obtain ⟨c', hc', rfl | ⟨hactivate, _⟩ | hdead'⟩ := record_next hlawful hfresh hc
  · exact ⟨c', hc', hdead⟩
  · rw [(htimely id c hactivate hc).1] at hdead
    cases hdead
  · exact ⟨c', hc', hdead'⟩

/-- With new identifiers, dead checkpoints stay dead exactly if every activation is timely. -/
theorem deadForGood_iff (hfresh : AllSteps service.next (Fresh record) s calls) :
    DeadForGood service record s calls ↔ AllSteps service.next (Timely record) s calls := by
  constructor
  · intro h
    refine allSteps_of_first fun before t rest hsplit _ id c ht hc => ?_
    have hplace : before ++ [t] <+: calls := ⟨rest, by rw [hsplit]; simp⟩
    have hactive : record (service.after s (before ++ [t])) id =
        some { c with status := .active } := by
      rw [after, List.foldl_append]
      exact record_activate hlawful ht hc
    refine ⟨Bool.eq_false_iff.mpr fun hdead => ?_, fun hexpired => ?_⟩
    · exact h.dead id before [t] c _ hplace hc hdead hactive rfl
    · by_contra hinactive
      exact h.expired id before t c _ hplace hc hexpired hinactive hactive rfl
  · intro h
    constructor
    · rintro id earlier later c c' ⟨rest, rfl⟩ hc hdead hc' hactive
      have hkeep : ∀ (s : σ) (t : TimedCheckpointCall), Timely record s t ∧ Fresh record s t →
          (∃ c, record s id = some c ∧ c.status.isDead = true) →
          ∃ c, record (service.next s t) id = some c ∧ c.status.isDead = true :=
        fun s t ht hs => Timely.dead hlawful ht.1 ht.2 hs
      have hlater := (h.and hfresh).append.1.append.2
      obtain ⟨d, hd, hdead'⟩ := hlater.invariant hkeep ⟨c, hc, hdead⟩
      rw [after, List.foldl_append, hd] at hc'
      cases hc'
      rw [hactive] at hdead'
      cases hdead'
    · rintro id earlier t c c' ⟨rest, rfl⟩ hc hexpired hinactive hc' hactive
      have ht := (h.and hfresh).append.1.append.2.1
      rw [after, List.foldl_append] at hc'
      obtain ⟨d, hd, rfl | ⟨hactivate, _⟩ | hdead⟩ := record_next hlawful ht.2 hc
      · cases hd.symm.trans hc'
        exact hinactive hactive
      · exact hinactive ((ht.1 id c hactivate hc).2 hexpired)
      · cases hd.symm.trans hc'
        rw [hactive] at hdead
        cases hdead

/-- The checkpoint of a creation that is given no lifetime. -/
theorem record_defaulted {draw : CheckpointDraw} (hfresh : Fresh record s t)
    (ht : t.defaulted = some draw) :
    ∃ c, record (service.next s t) draw.checkpointId = some c ∧
      c.expiresAt = if t.forgetsDefault then none
        else service.defaultTtl.map fun d => draw.expiresFrom + d := by
  obtain ⟨now, call⟩ := t
  have hcreate : ∀ new : Checkpoint, record s new.checkpointId = none →
      record (service.repo.createCheckpoint new s).2 new.checkpointId = some new := by
    intro new hnew
    rw [(hlawful.create new s hnew).2, if_pos rfl]
  cases call with
  | create draw' request expiresIn metadata =>
    cases expiresIn with
    | none =>
      cases ht
      exact ⟨_, hcreate (newCheckpoint draw request none _) hfresh, rfl⟩
    | some d => cases ht
  | createWithDefaults draw' request =>
    cases ht
    exact ⟨_, hcreate (newCheckpoint draw request service.defaultTtl _) hfresh, rfl⟩
  | activate id' => cases ht
  | supersede id' => cases ht
  | invalidate id' => cases ht
  | runExpiration => cases ht

/-- Calls leave the expiry of a stored checkpoint as it is. -/
theorem record_after_expiresAt (hfresh : AllSteps service.next (Fresh record) s calls)
    (hc : record s id = some c) :
    ∃ c', record (service.after s calls) id = some c' ∧ c'.expiresAt = c.expiresAt := by
  have hstep : ∀ (s : σ) (t : TimedCheckpointCall), Fresh record s t →
      (∃ c', record s id = some c' ∧ c'.expiresAt = c.expiresAt) →
      ∃ c', record (service.next s t) id = some c' ∧ c'.expiresAt = c.expiresAt := by
    rintro s t ht ⟨c', hc', hexpires⟩
    exact ⟨_, record_next_status hlawful ht hc', hexpires⟩
  exact (hfresh.invariant hstep ⟨c, hc, rfl⟩ :)

/-- With new identifiers, a creation without a lifetime has its checkpoint at the end. -/
theorem record_after_defaulted {draw : CheckpointDraw}
    (hfresh : AllSteps service.next (Fresh record) s calls) (hmem : t ∈ calls)
    (ht : t.defaulted = some draw) :
    ∃ c, record (service.after s calls) draw.checkpointId = some c ∧
      c.expiresAt = if t.forgetsDefault then none
        else service.defaultTtl.map fun d => draw.expiresFrom + d := by
  obtain ⟨before, later, rfl⟩ := List.append_of_mem hmem
  obtain ⟨hfirst, hlater⟩ := hfresh.append.2
  obtain ⟨c, hc, hexpires⟩ := record_defaulted hlawful hfirst ht
  obtain ⟨c', hc', hsame⟩ := record_after_expiresAt hlawful hlater hc
  refine ⟨c', ?_, hsame.trans hexpires⟩
  rw [after, List.foldl_append, List.foldl_cons]
  exact hc'

/-- With new identifiers, the default lifetime bounds every checkpoint that is given none exactly in
the runs in which no `create_checkpoint` is given none. -/
theorem defaultTtlBounds_iff {ttl : Int} (httl : service.defaultTtl = some ttl)
    (hfresh : AllSteps service.next (Fresh record) s calls) :
    DefaultTtlBounds service record ttl s calls ↔ ∀ t ∈ calls, t.forgetsDefault = false := by
  constructor
  · intro h t hmem
    refine Bool.eq_false_iff.mpr fun hforgets => ?_
    have hdefaulted : ∃ draw, t.defaulted = some draw := by
      unfold TimedCheckpointCall.forgetsDefault at hforgets
      unfold TimedCheckpointCall.defaulted
      split at hforgets
      · next draw _ _ hcall => exact ⟨draw, by rw [hcall]⟩
      all_goals cases hforgets
    obtain ⟨draw, hdraw⟩ := hdefaulted
    obtain ⟨c, hc, hexpires, -⟩ := h t hmem draw hdraw
    obtain ⟨c', hc', hexpires'⟩ := record_after_defaulted hlawful hfresh hmem hdraw
    cases hc.symm.trans hc'
    rw [hexpires, if_pos hforgets] at hexpires'
    cases hexpires'
  · intro h t hmem draw hdraw
    obtain ⟨c, hc, hexpires⟩ := record_after_defaulted hlawful hfresh hmem hdraw
    rw [h t hmem, httl] at hexpires
    refine ⟨c, hc, hexpires, fun now hnow => ⟨c.expire now, ?_, ?_⟩⟩
    · exact (hlawful.expire now _ _).trans (by rw [hc, Option.map_some])
    · have hpassed : c.isExpired now = true := by
        rw [Checkpoint.isExpired, hexpires]
        exact decide_eq_true hnow
      rw [Checkpoint.expire, if_pos hpassed]

end Proofs

end CheckpointService

section Repositories

variable (defaultTtl : Option Int)

/-- The service over the repository in memory. -/
def inMemoryCheckpoints : CheckpointService InMemoryCheckpointRepository where
  repo := InMemoryCheckpointRepository.storage
  defaultTtl := defaultTtl

/-- The service over the table. -/
def sqlxCheckpoints : CheckpointService SqlxCheckpointRepository where
  repo := SqlxCheckpointRepository.storage
  defaultTtl := defaultTtl

open CheckpointService

/-- Over either repository, dead checkpoints stay dead exactly in the runs in which no call
activates a checkpoint that is dead, or one whose expiry has passed and that is not active. -/
theorem checkpoints_deadForGood_iff (calls : List TimedCheckpointCall) :
    (∀ s : InMemoryCheckpointRepository,
      AllSteps (inMemoryCheckpoints defaultTtl).next
        (Fresh InMemoryCheckpointRepository.record) s calls →
      (DeadForGood (inMemoryCheckpoints defaultTtl) InMemoryCheckpointRepository.record s calls ↔
        AllSteps (inMemoryCheckpoints defaultTtl).next
          (Timely InMemoryCheckpointRepository.record) s calls)) ∧
    ∀ s : SqlxCheckpointRepository,
      AllSteps (sqlxCheckpoints defaultTtl).next
        (Fresh SqlxCheckpointRepository.record) s calls →
      (DeadForGood (sqlxCheckpoints defaultTtl) SqlxCheckpointRepository.record s calls ↔
        AllSteps (sqlxCheckpoints defaultTtl).next
          (Timely SqlxCheckpointRepository.record) s calls) := by
  constructor
  · intro s hfresh
    have hlawful : (inMemoryCheckpoints defaultTtl).repo.Lawful
        InMemoryCheckpointRepository.record := InMemoryCheckpointRepository.lawful
    exact deadForGood_iff hlawful hfresh
  · intro s hfresh
    have hlawful : (sqlxCheckpoints defaultTtl).repo.Lawful
        SqlxCheckpointRepository.record := SqlxCheckpointRepository.lawful
    exact deadForGood_iff hlawful hfresh

/-- Over either repository, the default lifetime bounds every checkpoint that is created without
one of its own exactly in the runs without a `create_checkpoint` that is given none. -/
theorem checkpoints_defaultTtl_iff (ttl : Int) (calls : List TimedCheckpointCall) :
    (∀ s : InMemoryCheckpointRepository,
      AllSteps (inMemoryCheckpoints (some ttl)).next
        (Fresh InMemoryCheckpointRepository.record) s calls →
      (DefaultTtlBounds (inMemoryCheckpoints (some ttl)) InMemoryCheckpointRepository.record ttl s
        calls ↔ ∀ t ∈ calls, t.forgetsDefault = false)) ∧
    ∀ s : SqlxCheckpointRepository,
      AllSteps (sqlxCheckpoints (some ttl)).next (Fresh SqlxCheckpointRepository.record) s calls →
      (DefaultTtlBounds (sqlxCheckpoints (some ttl)) SqlxCheckpointRepository.record ttl s calls ↔
        ∀ t ∈ calls, t.forgetsDefault = false) := by
  constructor
  · intro s hfresh
    have hlawful : (inMemoryCheckpoints (some ttl)).repo.Lawful
        InMemoryCheckpointRepository.record := InMemoryCheckpointRepository.lawful
    exact defaultTtlBounds_iff hlawful rfl hfresh
  · intro s hfresh
    have hlawful : (sqlxCheckpoints (some ttl)).repo.Lawful
        SqlxCheckpointRepository.record := SqlxCheckpointRepository.lawful
    exact defaultTtlBounds_iff hlawful rfl hfresh

end Repositories

section Sample

open CheckpointService

/-- A checkpoint is created, with an expiry at time 10, and invalidated. -/
def sampleCheckpointCalls : List TimedCheckpointCall :=
  [⟨0, .create ⟨1, 0, 0⟩ ⟨10, 1, 20, 5, .custom, .emptyObject⟩ (some 10) none⟩,
    ⟨1, .invalidate 1⟩]

/-- It is not activated, so it stays dead over both repositories. -/
theorem checkpoints_deadForGood_sample :
    DeadForGood (inMemoryCheckpoints none) InMemoryCheckpointRepository.record
        InMemoryCheckpointRepository.new sampleCheckpointCalls ∧
      DeadForGood (sqlxCheckpoints none) SqlxCheckpointRepository.record
        SqlxCheckpointRepository.new sampleCheckpointCalls := by
  have htimely : ∀ (σ : Type) (record : σ → Uuid → Option Checkpoint) (next) (s : σ),
      AllSteps next (Timely record) s sampleCheckpointCalls :=
    fun _ _ _ _ => ⟨fun _ _ h => (nomatch h), fun _ _ h => (nomatch h), trivial⟩
  obtain ⟨hmemory, hsqlx⟩ := checkpoints_deadForGood_iff none sampleCheckpointCalls
  constructor
  · have hfresh : AllSteps (inMemoryCheckpoints none).next
        (Fresh InMemoryCheckpointRepository.record) InMemoryCheckpointRepository.new
        sampleCheckpointCalls := by
      refine ⟨?_, trivial, trivial⟩
      show InMemoryCheckpointRepository.new.record 1 = none
      rfl
    exact (hmemory _ hfresh).mpr (htimely _ _ _ _)
  · have hfresh : AllSteps (sqlxCheckpoints none).next
        (Fresh SqlxCheckpointRepository.record) SqlxCheckpointRepository.new
        sampleCheckpointCalls := by
      refine ⟨?_, trivial, trivial⟩
      show SqlxCheckpointRepository.new.record 1 = none
      rfl
    exact (hsqlx _ hfresh).mpr (htimely _ _ _ _)

/-- An invalidated checkpoint is activated, after its expiry, and is active again. -/
theorem invalidated_activated :
    ¬ DeadForGood (inMemoryCheckpoints none) InMemoryCheckpointRepository.record
        InMemoryCheckpointRepository.new (sampleCheckpointCalls ++ [⟨20, .activate 1⟩]) ∧
      ¬ DeadForGood (sqlxCheckpoints none) SqlxCheckpointRepository.record
        SqlxCheckpointRepository.new (sampleCheckpointCalls ++ [⟨20, .activate 1⟩]) := by
  constructor
  · intro h
    exact h.dead 1 sampleCheckpointCalls [⟨20, .activate 1⟩] _ _ (List.prefix_refl _) rfl rfl rfl
      rfl
  · intro h
    exact h.dead 1 sampleCheckpointCalls [⟨20, .activate 1⟩] _ _ (List.prefix_refl _) rfl rfl rfl
      rfl

/-- A creation with the defaults alone is bounded over both repositories. -/
theorem checkpoints_defaultTtl_sample :
    DefaultTtlBounds (inMemoryCheckpoints (some 10)) InMemoryCheckpointRepository.record 10
        InMemoryCheckpointRepository.new
        [⟨0, .createWithDefaults ⟨1, 0, 0⟩ ⟨10, 1, 20, 5, .custom, .emptyObject⟩⟩] ∧
      DefaultTtlBounds (sqlxCheckpoints (some 10)) SqlxCheckpointRepository.record 10
        SqlxCheckpointRepository.new
        [⟨0, .createWithDefaults ⟨1, 0, 0⟩ ⟨10, 1, 20, 5, .custom, .emptyObject⟩⟩] := by
  obtain ⟨hmemory, hsqlx⟩ := checkpoints_defaultTtl_iff 10
    [⟨0, .createWithDefaults ⟨1, 0, 0⟩ ⟨10, 1, 20, 5, .custom, .emptyObject⟩⟩]
  have hremembers : ∀ t ∈ ([⟨0, .createWithDefaults ⟨1, 0, 0⟩
      ⟨10, 1, 20, 5, .custom, .emptyObject⟩⟩] : List TimedCheckpointCall),
      t.forgetsDefault = false := by
    intro t ht
    rw [List.mem_singleton.mp ht]
    rfl
  exact ⟨(hmemory InMemoryCheckpointRepository.new ⟨rfl, trivial⟩).mpr hremembers,
    (hsqlx SqlxCheckpointRepository.new ⟨rfl, trivial⟩).mpr hremembers⟩

/-- A checkpoint that is created with no lifetime is given none, whatever the default. -/
theorem default_forgotten :
    ¬ DefaultTtlBounds (inMemoryCheckpoints (some 10)) InMemoryCheckpointRepository.record 10
        InMemoryCheckpointRepository.new
        [⟨0, .create ⟨1, 0, 0⟩ ⟨10, 1, 20, 5, .custom, .emptyObject⟩ none none⟩] ∧
      ¬ DefaultTtlBounds (sqlxCheckpoints (some 10)) SqlxCheckpointRepository.record 10
        SqlxCheckpointRepository.new
        [⟨0, .create ⟨1, 0, 0⟩ ⟨10, 1, 20, 5, .custom, .emptyObject⟩ none none⟩] := by
  constructor
  · intro h
    obtain ⟨c, hc, hexpires, -⟩ := h _ List.mem_cons_self _ rfl
    cases Option.some.inj hc
    cases hexpires
  · intro h
    obtain ⟨c, hc, hexpires, -⟩ := h _ List.mem_cons_self _ rfl
    cases Option.some.inj hc
    cases hexpires

end Sample

end IntentRebase
