import IntentRebase.Orchestrator.Replay

/-! Replay and the tenants of the table of checkpoints: which requests use a checkpoint of their own
tenant and workflow, and notice nothing of the rows of others. -/

namespace IntentRebase

open Kit

namespace RebaseOrchestrator

variable {γ : Type}

/-- The orchestrator over a table, its transactions in a session of the tenant if there is one. -/
def onTable (o : RebaseOrchestrator γ) (scan : IterOrder Checkpoint) (session : Option Uuid)
    (table : CheckpointTable) : RebaseOrchestrator γ :=
  { o with checkpointService := table.repository scan session }

/-- The orchestrator whose plain reads are those of a session. -/
def inSession (o : RebaseOrchestrator γ) (scan : IterOrder Checkpoint) (session : Option Uuid)
    (table : CheckpointTable) : RebaseOrchestrator γ :=
  { o with checkpointService := { toCheckpointReads := table.reads scan session, asSqlxRepo := none } }

/-- The replay from the checkpoint that was found, as the runtime is asked for it. -/
def HandsOver (checkpoint : Checkpoint) (call : RuntimeCall) : Prop :=
  ∃ runtimeCp intentRef, call = .replayFromCheckpoint runtimeCp intentRef ∧
    runtimeCp.id = checkpoint.checkpointId.display ∧ runtimeCp.timestamp = checkpoint.createdAt

section Outcome

variable (o : RebaseOrchestrator γ) (params : ReplayParams) (w : World γ)

/-- Where the checkpoint of a replay comes from: the store's answer to the named identifier, or the
list of the workflow. -/
def Resolves (reads : CheckpointReads) (cp : Checkpoint) : Prop :=
  match params.checkpointId with
  | some id => reads.getCheckpoint id = .ok cp
  | none => ∃ checkpoints,
      reads.listByWorkflow params.workflowId params.tenantId = .ok checkpoints ∧ cp ∈ checkpoints

/-- The checkpoint of a replay is found with its identifier, or the request named none. -/
theorem replayCheckpoint_ok {aligned : AlignedCheckpoint}
    (h : o.replayCheckpoint params = .ok aligned) :
    (params.checkpointId = none ∧ aligned.checkpoint = none ∧ aligned.checkpointId = none) ∨
    ∃ cp, aligned.checkpoint = some cp ∧ aligned.checkpointId = some cp.checkpointId ∧
      Resolves params o.checkpointService.toCheckpointReads cp := by
  unfold replayCheckpoint at h
  unfold Resolves
  cases hid : params.checkpointId with
  | some id =>
    rw [hid] at h
    dsimp only at h
    split at h
    · next cp hget =>
      cases h
      exact .inr ⟨cp, rfl, rfl, hget⟩
    · cases h
  | none =>
    rw [hid] at h
    dsimp only at h
    cases hlist : o.checkpointService.listByWorkflow params.workflowId params.tenantId with
    | error e =>
      rw [hlist] at h
      cases h
    | ok checkpoints =>
      rw [hlist] at h
      simp only [bind, Except.bind] at h
      split at h
      · next cp hmax =>
        cases h
        exact .inr ⟨cp, rfl, rfl, checkpoints, rfl, List.mem_of_mem_filter (maxByKey_mem hmax)⟩
      · split at h
        · next cp hhead =>
          cases h
          exact .inr ⟨cp, rfl, rfl, checkpoints, rfl, List.mem_of_mem_head? hhead⟩
        · cases h
          exact .inl ⟨rfl, rfl, rfl⟩

theorem replay_error {e : IntentRebaseError} (h : o.replayCheckpoint params = .error e) :
    (o.replay params).on w = (.error e, w) := by
  rw [replay, Effect.on_bind, Effect.on_lift, h]

/-- A replay whose checkpoint is resolved returns it, and hands the runtime at most that one. -/
theorem replay_resolved {aligned : AlignedCheckpoint}
    (h : o.replayCheckpoint params = .ok aligned) :
    ∃ result handed, (o.replay params).on w = (.ok result, { w with calls := w.calls ++ handed }) ∧
      result.alignedCheckpointId = aligned.checkpointId ∧
      ∀ call ∈ handed, ∃ cp, aligned.checkpoint = some cp ∧ HandsOver cp call := by
  rw [replay, Effect.on_bind, Effect.on_lift, h]
  dsimp only
  cases hcp : aligned.checkpoint with
  | none => exact ⟨_, [], by simp; rfl, rfl, by simp⟩
  | some cp =>
    dsimp only
    rw [Effect.on_bind_ok (Effect.on_attempt _ _), RuntimeAdapter.checkReady_on]
    dsimp only
    cases o.runtimeAdapter.isAdapterReady w.calls with
    | error e => exact ⟨_, [], by simp; rfl, rfl, by simp⟩
    | ok status =>
      cases status with
      | initializing => exact ⟨_, [], by simp; rfl, rfl, by simp⟩
      | notReady => exact ⟨_, [], by simp; rfl, rfl, by simp⟩
      | ready =>
        dsimp only
        rw [Effect.on_bind_ok (Effect.on_attempt _ _), RuntimeAdapter.replay_on]
        dsimp only
        split
        · exact ⟨_, _, rfl, rfl, by simp [HandsOver]⟩
        · exact ⟨_, _, rfl, rfl, by simp [HandsOver]⟩

/-- The replay knows the store only by the checkpoint that it resolves. -/
theorem replay_congr {o o' : RebaseOrchestrator γ}
    (h : o.replayCheckpoint params = o'.replayCheckpoint params)
    (hadapter : o.runtimeAdapter = o'.runtimeAdapter) :
    o.replay params = o'.replay params := by
  unfold replay
  rw [h, hadapter]

end Outcome

section Isolation

variable (o : RebaseOrchestrator γ) (scan : IterOrder Checkpoint) (session : Option Uuid)
  (table : CheckpointTable) (params : ReplayParams) (w : World γ)

/-- A checkpoint of the request's tenant and workflow. -/
def Own (cp : Checkpoint) : Prop :=
  cp.tenantId = params.tenantId ∧ cp.workflowId = params.workflowId

/-- A call either fails or uses a stored checkpoint of the request's tenant and workflow, the one
that it returns and hands to the runtime. A call that names none may also use none. -/
def UsesOwn (call : Effect (World γ) IntentRebaseError ReplayResult) : Prop :=
  ∀ result w', call.on w = (.ok result, w') →
    (params.checkpointId = none ∧ result.alignedCheckpointId = none ∧ w' = w) ∨
    ∃ cp ∈ table.rows, Own params cp ∧ result.alignedCheckpointId = some cp.checkpointId ∧
      ∃ handed, w' = { w with calls := w.calls ++ handed } ∧ ∀ call ∈ handed, HandsOver cp call

/-- Over any table with the same rows of the request's tenant, the call has the same result and
hands the same to the runtime. -/
def Unaffected (call : CheckpointTable → Effect (World γ) IntentRebaseError ReplayResult) : Prop :=
  ∀ table', CheckpointTable.AgreeOn params.tenantId table table' →
    (call table').on w = (call table).on w

/-- The request names no checkpoint, or a stored one of its own tenant and workflow. -/
def NamesOwn : Prop :=
  ∀ id, params.checkpointId = some id → ∃ cp ∈ table.rows, cp.checkpointId = id ∧ Own params cp

variable {o scan session table params w}

theorem replay_onTable : (o.onTable scan session table).replay params =
    (o.inSession scan none table).replay params :=
  replay_congr params rfl rfl

/-- A replay inside a transaction is one whose plain reads are those of its session. -/
theorem replayWithTx_onTable : (o.onTable scan session table).replayWithTx params =
    (o.inSession scan session table).replay params := by
  rfl

/-- The checkpoint that a session resolves for a request is one that it sees, and if the request
names none it is one of its own. -/
theorem resolves_visible {cp : Checkpoint} (h : Resolves params (table.reads scan session) cp) :
    cp ∈ table.visible session ∧
      ((∃ id, params.checkpointId = some id ∧ cp.checkpointId = id) ∨ Own params cp) := by
  unfold Resolves at h
  cases hid : params.checkpointId with
  | some id =>
    rw [hid] at h
    obtain ⟨hmem, hcp⟩ := CheckpointTable.getCheckpoint_ok.mp h
    exact ⟨hmem, .inl ⟨id, rfl, hcp⟩⟩
  | none =>
    rw [hid] at h
    obtain ⟨checkpoints, hlist, hmem⟩ := h
    cases hlist
    rw [CheckpointTable.mem_orderByCreatedAt, List.mem_filter, Bool.and_eq_true, beq_iff_eq,
      beq_iff_eq] at hmem
    exact ⟨hmem.1, .inr ⟨hmem.2.2, hmem.2.1⟩⟩

/-- A request is served with its own checkpoints exactly if the named one, where the session sees
it, is one of them. -/
theorem usesOwn_iff :
    UsesOwn table params w ((o.inSession scan session table).replay params) ↔
      ∀ id, params.checkpointId = some id → ∀ cp ∈ table.visible session,
        cp.checkpointId = id → Own params cp := by
  constructor
  · intro huses id hid cp hcp hcpId
    have hget : (table.reads scan session).getCheckpoint id = .ok cp :=
      CheckpointTable.getCheckpoint_ok.mpr ⟨hcp, hcpId⟩
    have hresolved : (o.inSession scan session table).replayCheckpoint params = .ok {
        checkpointId := some cp.checkpointId
        checkpoint := some cp
        outcome := .aligned
        rationale := s!"Replay using specified checkpoint {id.display}" } := by
      rw [replayCheckpoint, hid]
      dsimp only [inSession]
      rw [hget]
      rfl
    obtain ⟨result, handed, hon, haligned, -⟩ := replay_resolved _ params w hresolved
    rcases huses result _ hon with ⟨hnone, -⟩ | ⟨used, hused, hown, husedId, -⟩
    · rw [hid] at hnone
      cases hnone
    · rw [haligned, Option.some.injEq] at husedId
      rwa [CheckpointTable.eq_of_checkpointId (CheckpointTable.mem_visible.mp hcp).1 hused husedId]
  · intro hnamed result w' hon
    cases hresolve : (o.inSession scan session table).replayCheckpoint params with
    | error e =>
      rw [replay_error _ params w hresolve] at hon
      cases hon
    | ok aligned =>
      obtain ⟨resolved, handed, hresolved, haligned, hhanded⟩ := replay_resolved _ params w hresolve
      rw [hresolved] at hon
      cases hon
      rcases replayCheckpoint_ok _ params hresolve with ⟨hnone, hrecord, hid⟩ |
        ⟨cp, hrecord, hid, hfrom⟩
      · refine .inl ⟨hnone, haligned.trans hid, ?_⟩
        have hempty : handed = [] := by
          refine List.eq_nil_iff_forall_not_mem.mpr fun call hcall => ?_
          obtain ⟨cp, hcp, -⟩ := hhanded call hcall
          rw [hrecord] at hcp
          cases hcp
        rw [hempty, List.append_nil]
      · obtain ⟨hvisible, hown⟩ := resolves_visible hfrom
        refine .inr ⟨cp, (CheckpointTable.mem_visible.mp hvisible).1, ?_, haligned.trans hid, handed,
          rfl, fun call hcall => ?_⟩
        · rcases hown with ⟨id, hname, hcpId⟩ | hown
          · exact hnamed id hname cp hvisible hcpId
          · exact hown
        · obtain ⟨used, hused, hhands⟩ := hhanded call hcall
          rw [hrecord] at hused
          cases hused
          exact hhands

/-- In a session of its tenant, a request notices no other tenant's rows. -/
theorem unaffected_inSession :
    Unaffected table params w fun table =>
      (o.inSession scan (some params.tenantId) table).replay params := by
  intro table' hagree
  have hreads : table'.reads scan (some params.tenantId) =
      table.reads scan (some params.tenantId) := by
    unfold CheckpointTable.reads
    rw [← hagree]
  dsimp only
  rw [inSession, hreads, ← inSession]

/-- The rows of a tenant and no others. -/
def ownRows (table : CheckpointTable) (tenantId : Uuid) : CheckpointTable where
  rows := table.visible (some tenantId)
  nodup := table.nodup.sublist (List.filter_sublist.map _)

theorem ownRows_agree (table : CheckpointTable) (tenantId : Uuid) :
    CheckpointTable.AgreeOn tenantId table (ownRows table tenantId) := by
  unfold CheckpointTable.AgreeOn CheckpointTable.visible ownRows
  dsimp only [CheckpointTable.visible]
  rw [List.filter_filter]
  simp

/-- The rows of a tenant, and another tenant's checkpoint under an identifier that none of them has.
-/
def withForeign (table : CheckpointTable) (tenantId : Uuid) (foreign : Checkpoint)
    (h : ∀ cp ∈ table.visible (some tenantId), cp.checkpointId ≠ foreign.checkpointId) :
    CheckpointTable where
  rows := foreign :: table.visible (some tenantId)
  nodup := by
    rw [List.map_cons, List.nodup_cons, List.mem_map]
    refine ⟨fun ⟨cp, hcp, hid⟩ => h cp hcp hid, (ownRows table tenantId).nodup⟩

theorem withForeign_agree {tenantId : Uuid} {foreign : Checkpoint}
    (h : ∀ cp ∈ table.visible (some tenantId), cp.checkpointId ≠ foreign.checkpointId)
    (hforeign : foreign.tenantId ≠ tenantId) :
    CheckpointTable.AgreeOn tenantId table (withForeign table tenantId foreign h) := by
  refine (ownRows_agree table tenantId).trans ?_
  unfold CheckpointTable.visible withForeign ownRows
  rw [List.filter_cons_of_neg (by simpa using hforeign)]

/-- A request that names a checkpoint which none of its tenant's rows is notices whether another
tenant has one. -/
theorem affected_of_foreign {id : Uuid} (hid : params.checkpointId = some id)
    (h : ∀ cp ∈ table.visible (some params.tenantId), cp.checkpointId ≠ id) :
    ¬ Unaffected table params w fun table => (o.inSession scan none table).replay params := by
  intro hunaffected
  let foreign : Checkpoint := sampleCheckpoint id (params.tenantId + 1) params.workflowId
  have hforeign : foreign.tenantId ≠ params.tenantId := Uuid.succ_ne _
  have hwith := hunaffected _ (withForeign_agree h hforeign)
  have hwithout := hunaffected _ (ownRows_agree table params.tenantId)
  have hfound : ((withForeign table params.tenantId foreign h).reads scan none).getCheckpoint id =
      .ok foreign := by
    rw [CheckpointTable.getCheckpoint_ok, CheckpointTable.visible_none]
    exact ⟨List.mem_cons_self, rfl⟩
  have hok : (o.inSession scan none (withForeign table params.tenantId foreign h)).replayCheckpoint
      params = .ok {
        checkpointId := some foreign.checkpointId
        checkpoint := some foreign
        outcome := .aligned
        rationale := s!"Replay using specified checkpoint {id.display}" } := by
    rw [replayCheckpoint, hid]
    dsimp only [inSession]
    rw [hfound]
    rfl
  have herror : (o.inSession scan none (ownRows table params.tenantId)).replayCheckpoint params =
      .error (.checkpointNotFound id) := by
    have hmissing : ∀ cp ∈ (ownRows table params.tenantId).visible none, cp.checkpointId ≠ id := by
      rw [CheckpointTable.visible_none]
      exact h
    obtain ⟨e, he⟩ : ∃ e, ((ownRows table params.tenantId).reads scan none).getCheckpoint id =
        .error e := CheckpointTable.getCheckpoint_error hmissing
    rw [replayCheckpoint, hid]
    dsimp only [inSession]
    rw [he]
    rfl
  obtain ⟨result, handed, hon, -⟩ := replay_resolved _ params w hok
  have hfail := replay_error _ params w herror
  rw [hwith, ← hwithout, hfail] at hon
  cases hon

theorem unaffected_iff :
    Unaffected table params w (fun table => (o.inSession scan none table).replay params) ↔
      ∀ id, params.checkpointId = some id → ∃ cp ∈ table.rows, cp.checkpointId = id ∧
        cp.tenantId = params.tenantId := by
  constructor
  · intro hunaffected id hid
    by_contra hnone
    refine affected_of_foreign hid (fun cp hcp hcpId => hnone ?_) hunaffected
    obtain ⟨hmem, htenant⟩ := CheckpointTable.mem_visible.mp hcp
    exact ⟨cp, hmem, hcpId, htenant _ rfl⟩
  · intro hnamed table' hagree
    have hsame : (o.inSession scan none table').replayCheckpoint params =
        (o.inSession scan none table).replayCheckpoint params := by
      unfold replayCheckpoint
      cases hid : params.checkpointId with
      | some id =>
        obtain ⟨cp, hmem, hcpId, htenant⟩ := hnamed id hid
        have hget : ∀ t : CheckpointTable, cp ∈ t.rows →
            (t.reads scan none).getCheckpoint id = .ok cp := fun t ht =>
          CheckpointTable.getCheckpoint_ok.mpr ⟨CheckpointTable.visible_none.symm ▸ ht, hcpId⟩
        have hmem' : cp ∈ table'.rows := by
          have hvisible : cp ∈ table.visible (some params.tenantId) :=
            CheckpointTable.mem_visible.mpr ⟨hmem, fun t ht => Option.some.inj ht ▸ htenant⟩
          rw [hagree] at hvisible
          exact (CheckpointTable.mem_visible.mp hvisible).1
        dsimp only [inSession]
        rw [hget table hmem, hget table' hmem']
      | none =>
        have hlist : ∀ t : CheckpointTable,
            (t.reads scan none).listByWorkflow params.workflowId params.tenantId =
              (t.reads scan (some params.tenantId)).listByWorkflow params.workflowId
                params.tenantId := fun t =>
          (CheckpointTable.sameLists.listByWorkflow params.workflowId).symm
        dsimp only [inSession]
        rw [hlist table, hlist table']
        unfold CheckpointTable.reads
        rw [hagree]
    exact congrArg (fun call => call.on w) (replay_congr params hsame rfl)

/-- A plain replay is isolated exactly if the request names no checkpoint or one that its own tenant
and workflow have stored. One inside a transaction of the tenant's session is isolated exactly if
the named checkpoint, where the tenant has it, is one of the request's workflow. -/
theorem replay_isolated_iff (o : RebaseOrchestrator γ) (scan : IterOrder Checkpoint)
    (table : CheckpointTable) (params : ReplayParams) (w : World γ) :
    ((UsesOwn table params w ((o.onTable scan none table).replay params) ∧
        Unaffected table params w fun table => (o.onTable scan none table).replay params) ↔
      NamesOwn table params) ∧
    ((UsesOwn table params w ((o.onTable scan (some params.tenantId) table).replayWithTx params) ∧
        Unaffected table params w fun table =>
          (o.onTable scan (some params.tenantId) table).replayWithTx params) ↔
      ∀ id, params.checkpointId = some id → ∀ cp ∈ table.rows, cp.checkpointId = id →
        cp.tenantId = params.tenantId → cp.workflowId = params.workflowId) := by
  simp only [replay_onTable, replayWithTx_onTable, usesOwn_iff, unaffected_iff]
  constructor
  · constructor
    · rintro ⟨huses, hunaffected⟩ id hid
      obtain ⟨cp, hmem, hcpId, -⟩ := hunaffected id hid
      exact ⟨cp, hmem, hcpId, huses id hid cp (CheckpointTable.visible_none.symm ▸ hmem) hcpId⟩
    · intro hnamed
      refine ⟨fun id hid cp hcp hcpId => ?_, fun id hid => ?_⟩
      · obtain ⟨own, hown, hownId, h⟩ := hnamed id hid
        rw [CheckpointTable.visible_none] at hcp
        rwa [CheckpointTable.eq_of_checkpointId hcp hown (hcpId.trans hownId.symm)]
      · obtain ⟨own, hown, hownId, h⟩ := hnamed id hid
        exact ⟨own, hown, hownId, h.1⟩
  · constructor
    · rintro ⟨huses, -⟩ id hid cp hmem hcpId htenant
      exact (huses id hid cp (CheckpointTable.mem_visible.mpr ⟨hmem, fun t ht =>
        Option.some.inj ht ▸ htenant⟩) hcpId).2
    · intro hnamed
      refine ⟨fun id hid cp hcp hcpId => ?_, unaffected_inSession⟩
      obtain ⟨hmem, htenant⟩ := CheckpointTable.mem_visible.mp hcp
      exact ⟨htenant _ rfl, hnamed id hid cp hmem hcpId (htenant _ rfl)⟩

/-- Tenant 2 replays, under the session of no tenant, from the checkpoint of tenant 1 that it names.
-/
theorem replay_not_isolated :
    ¬ ∀ (table : CheckpointTable) (params : ReplayParams) (w : World GraphState),
      UsesOwn table params w ((sampleOrchestrator.onTable (.id _) none table).replay params) ∧
      Unaffected table params w fun table =>
        (sampleOrchestrator.onTable (.id _) none table).replay params := by
  intro h
  have huses := (h sampleTable { sampleReplay with tenantId := 2 } ⟨.empty, []⟩).1
  rcases huses _ _ rfl with ⟨hnone, -⟩ | ⟨cp, hcp, hown, hid, -⟩
  · cases hnone
  · rcases List.mem_cons.mp hcp with rfl | hcp
    · cases hown.1
    · rcases List.mem_singleton.mp hcp with rfl
      cases hid

end Isolation

end RebaseOrchestrator

end IntentRebase
