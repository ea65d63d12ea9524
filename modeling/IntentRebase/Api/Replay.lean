import IntentRebase.Api.Auth
import IntentRebase.Orchestrator.Replay

/-! The handlers that start a replay: with the claims of a tenant, without claims, and in the build
without tokens. They validate the versions of the request on all paths but the one with claims. -/

namespace IntentRebase

open Kit

structure ReplayRequest where
  fromVersion : Option Int
  toVersion : Int
  checkpointId : Option Uuid
deriving DecidableEq, Repr

structure ReplayResponse where
  intentId : Uuid
  fromVersion : Int
  toVersion : Int
  alignedCheckpointId : Option Uuid
  checkpointSelectionOutcome : String
  runtimeExecutionStatus : String
  signalSent : Bool
  replayAttempted : Bool
  replayCompleted : Bool
deriving DecidableEq, Repr

structure ReplayAuditPayload where
  fromVersion : Option Int
  toVersion : Option Int
  checkpointId : Option Uuid
  checkpointSelectionOutcome : String
  replayInitiatedVia : String
  rationale : String
deriving DecidableEq, Repr

/-- A recorded event that a replay was initiated. -/
structure ReplayInitiated where
  tenantId : Uuid
  actorId : String
  intentId : Uuid
  payload : ReplayAuditPayload
deriving DecidableEq, Repr

def runtimeExecutionStatusLabel : RuntimeExecutionStatus → String
  | .notApplicable => "not_applicable"
  | .skippedNotReady => "skipped_not_ready"
  | .degraded => "degraded"
  | .succeeded => "succeeded"
  | .succeededNoReplay => "succeeded_no_replay"

/-- The message that rejects a token of another tenant than the intent's. -/
def intentTenantMismatch (jwtTenantId tenantId : Uuid) : String :=
  s!"Tenant mismatch: JWT tenant_id ({jwtTenantId.display}) does not match intent tenant_id " ++
    s!"({tenantId.display})"

/-- The world of the orchestrator, the replays that it was handed, and the recorded events. -/
structure ReplayWorld (γ : Type) where
  world : World γ
  requested : List ReplayParams
  initiated : List ReplayInitiated

/-- What the handlers use of the state of the application. -/
structure ReplayState (γ : Type) where
  service : IntentStore
  orchestrator : RebaseOrchestrator γ
  rlsPool : Bool

/-- The failures that a call of a handler meets. -/
structure ReplayFaults where
  beginFault : Option String
  commitFault : Option String
  auditFault : Option (Fault IntentRebaseError)

section Handlers

variable {γ : Type} (state : ReplayState γ) (faults : ReplayFaults) (intentId : Uuid)
  (request : ReplayRequest)

/-- The replay that the orchestrator is handed. -/
def replayParams (intentHead : IntentHeadResponse) : ReplayParams where
  intentId := intentId
  tenantId := intentHead.intent.tenantId
  workflowId := intentHead.intent.workflowId
  fromVersion := request.fromVersion.getD intentHead.version.versionNumber
  toVersion := request.toVersion
  checkpointId := request.checkpointId

/-- The orchestrator is handed a replay. -/
def handReplay (params : ReplayParams)
    (call : Effect (World γ) IntentRebaseError ReplayResult) :
    Effect (ReplayWorld γ) IntentRebaseError ReplayResult := do
  modify fun w => { w with requested := w.requested ++ [params] }
  call.within ReplayWorld.world fun world w => { w with world }

def replayAuditPayload (params : ReplayParams) (replayResult : ReplayResult) :
    ReplayAuditPayload where
  fromVersion := some params.fromVersion
  toVersion := some params.toVersion
  checkpointId := replayResult.alignedCheckpointId
  checkpointSelectionOutcome := replayResult.checkpointSelectionOutcome
  replayInitiatedVia := "post-intents-intent-id-replay"
  rationale := s!"Bounded replay initiated from v{params.fromVersion} to v{params.toVersion} " ++
    "via public replay endpoint"

/-- The event is recorded on a best-effort basis. -/
def recordReplayInitiated (params : ReplayParams) (replayResult : ReplayResult) :
    Effect (ReplayWorld γ) IntentRebaseError Unit := fun w =>
  let event : ReplayInitiated := {
    tenantId := params.tenantId
    actorId := "external-api/replay"
    intentId := intentId
    payload := replayAuditPayload params replayResult }
  (.ok (), (Fault.meet faults.auditFault w
    (.ok (), { w with initiated := w.initiated ++ [event] })).2)

def replayResponse (params : ReplayParams) (replayResult : ReplayResult) : ReplayResponse where
  intentId := intentId
  fromVersion := params.fromVersion
  toVersion := params.toVersion
  alignedCheckpointId := replayResult.alignedCheckpointId
  checkpointSelectionOutcome := replayResult.checkpointSelectionOutcome
  runtimeExecutionStatus :=
    runtimeExecutionStatusLabel replayResult.runtimeExecutionResult.status
  signalSent := replayResult.runtimeExecutionResult.signalSent
  replayAttempted := replayResult.runtimeExecutionResult.replayAttempted
  replayCompleted := replayResult.runtimeExecutionResult.replayCompleted

/-- The event and the answer that follow a replay. -/
def finishReplay (params : ReplayParams) (replayResult : ReplayResult) :
    Effect (ReplayWorld γ) IntentRebaseError ReplayResponse := do
  recordReplayInitiated faults intentId params replayResult
  return replayResponse intentId params replayResult

/-- The checks of the versions before a replay. -/
def validateVersions (params : ReplayParams) : Except IntentRebaseError Unit := do
  let _ ← state.service.getVersion intentId params.toVersion
  if request.fromVersion.isSome then
    let _ ← state.service.getVersion intentId params.fromVersion

/-- The handler of the build without tokens. -/
def replayIntentWithoutJwt : Effect (ReplayWorld γ) IntentRebaseError ReplayResponse := do
  let intentHead ← state.service.getIntentHead intentId
  let params := replayParams intentId request intentHead
  validateVersions state intentId request params
  let replayResult ← handReplay params (state.orchestrator.replay params)
  finishReplay faults intentId params replayResult

/-- The replay in a transaction of the tenant. -/
def replayInTransaction (tenantId : Uuid) (params : ReplayParams) :
    Effect (ReplayWorld γ) IntentRebaseError ReplayResult := do
  match validateTenantIdForRls tenantId with
  | .error e => throw (.internal s!"failed to begin RLS transaction: {e}")
  | .ok _ => pure ()
  if let some e := faults.beginFault then
    throw (.internal s!"failed to begin RLS transaction: {e}")
  let replayResult ← handReplay params (state.orchestrator.replayWithTx params)
  if let some e := faults.commitFault then
    throw (.storageError s!"failed to commit RLS transaction: {e}")
  return replayResult

/-- The handler of the build with tokens. With claims, no version is looked up. -/
def replayIntent (claims : Option RlsTenantClaims) :
    Effect (ReplayWorld γ) IntentRebaseError ReplayResponse :=
  match claims with
  | some rlsClaims => do
    let intentHead ← state.service.getIntentHead intentId
    if intentHead.intent.tenantId ≠ rlsClaims.tenantId then
      throw (.unauthorized
        (intentTenantMismatch rlsClaims.tenantId intentHead.intent.tenantId))
    let params := replayParams intentId request intentHead
    let replayResult ←
      if state.rlsPool then replayInTransaction state faults rlsClaims.tenantId params
      else handReplay params (state.orchestrator.replay params)
    finishReplay faults intentId params replayResult
  | none => replayIntentWithoutJwt state faults intentId request

end Handlers

section Versions

variable {γ : Type} (state : ReplayState γ) (faults : ReplayFaults) (intentId : Uuid)
  (request : ReplayRequest)

/-- The versions that the request names are stored versions of the intent. -/
def ReplayRequest.VersionsExist : Prop :=
  state.service.HasVersion intentId request.toVersion ∧
    ∀ fromVersion, request.fromVersion = some fromVersion →
      state.service.HasVersion intentId fromVersion

/-- The call hands the orchestrator a replay. -/
def HandsReplay (call : Effect (ReplayWorld γ) IntentRebaseError ReplayResponse)
    (w : ReplayWorld γ) : Prop := (call.on w).2.requested ≠ w.requested

/-- The call hands over or records a replay only if the versions of the request are stored. -/
def ValidatesVersions (call : Effect (ReplayWorld γ) IntentRebaseError ReplayResponse)
    (w : ReplayWorld γ) : Prop :=
  HandsReplay call w ∨ (call.on w).2.initiated ≠ w.initiated →
    request.VersionsExist state intentId

/-- The intent has a head of the tenant, and its transaction begins where there is a pool. -/
def ReachesReplay (tenantId : Uuid) : Prop :=
  (∃ intentHead, state.service.getIntentHead intentId = .ok intentHead ∧
    intentHead.intent.tenantId = tenantId) ∧
  (state.rlsPool = true → faults.beginFault = none)

variable {state faults intentId request} {w : ReplayWorld γ}

theorem finishReplay_requested (params : ReplayParams) (replayResult : ReplayResult) :
    ((finishReplay faults intentId params replayResult).on w).2.requested = w.requested := by
  rw [finishReplay, Effect.on_bind]
  show (Fault.meet faults.auditFault w _).2.requested = w.requested
  match faults.auditFault with
  | none => rfl
  | some (.before _) => rfl
  | some (.after _) => rfl

theorem handReplay_requested (params : ReplayParams)
    (call : Effect (World γ) IntentRebaseError ReplayResult) :
    ((handReplay params call).on w).2.requested = w.requested ++ [params] := by
  rw [handReplay, Effect.on_bind_ok (Effect.on_modify w _), Effect.on_within]

/-- A handed replay stays handed, whatever follows it. -/
theorem requested_bind {call : Effect (ReplayWorld γ) IntentRebaseError ReplayResult}
    {params : ReplayParams} (h : (call.on w).2.requested = w.requested ++ [params]) :
    ((call >>= fun replayResult => finishReplay faults intentId params replayResult).on
      w).2.requested = w.requested ++ [params] := by
  rw [Effect.on_bind]
  cases hcall : call.on w with
  | mk answer w' =>
    rw [hcall] at h
    cases answer with
    | ok replayResult => rw [finishReplay_requested, h]
    | error e => exact h

theorem handsReplay_of_requested {params : ReplayParams}
    {call : Effect (ReplayWorld γ) IntentRebaseError ReplayResponse}
    (h : (call.on w).2.requested = w.requested ++ [params]) : HandsReplay call w := by
  intro hsame
  rw [h] at hsame
  simp at hsame

theorem replayInTransaction_on {tenantId : Uuid} (htenant : tenantId ≠ .nil)
    (params : ReplayParams) :
    (faults.beginFault = none ∧
      ((replayInTransaction state faults tenantId params).on w).2.requested =
        w.requested ++ [params]) ∨
    (faults.beginFault ≠ none ∧
      ∃ e, (replayInTransaction state faults tenantId params).on w = (.error e, w)) := by
  rw [replayInTransaction, validateTenantIdForRls_eq htenant]
  cases hbegin : faults.beginFault with
  | some e => exact .inr ⟨nofun, _, rfl⟩
  | none =>
    refine .inl ⟨rfl, ?_⟩
    have hhanded := handReplay_requested (w := w) params (state.orchestrator.replayWithTx params)
    change (((handReplay params (state.orchestrator.replayWithTx params)) >>= _).on
      w).2.requested = _
    rw [Effect.on_bind]
    cases hcall : (handReplay params (state.orchestrator.replayWithTx params)).on w with
    | mk answer w' =>
      rw [hcall] at hhanded
      cases answer with
      | error e => exact hhanded
      | ok replayResult =>
        cases faults.commitFault with
        | none => exact hhanded
        | some e => exact hhanded

theorem validateVersions_ok_iff {intentHead : IntentHeadResponse} :
    validateVersions state intentId request (replayParams intentId request intentHead) = .ok () ↔
      request.VersionsExist state intentId := by
  have hstored (number : Int) := @IntentStore.getVersion_ok_iff state.service intentId number
  rw [ReplayRequest.VersionsExist, ← hstored, validateVersions, replayParams]
  dsimp only
  cases state.service.getVersion intentId request.toVersion with
  | error e => exact iff_of_false nofun fun ⟨⟨_, h⟩, _⟩ => by cases h
  | ok version =>
    cases hrequest : request.fromVersion with
    | none => exact iff_of_true rfl ⟨⟨version, rfl⟩, nofun⟩
    | some number =>
      simp only [Option.some.injEq, forall_eq', ← hstored]
      cases hread : state.service.getVersion intentId number with
      | error e =>
        refine iff_of_false (fun h => ?_) fun ⟨_, _, h⟩ => by cases h
        rw [Option.isSome_some, if_pos rfl, Option.getD_some, hread] at h
        cases h
      | ok version' =>
        refine iff_of_true ?_ ⟨⟨version, rfl⟩, version', rfl⟩
        rw [Option.isSome_some, if_pos rfl, Option.getD_some, hread]
        rfl

/-- The read of the head as a step of a handler. -/
theorem headRead {intentHead : IntentHeadResponse}
    (hhead : state.service.getIntentHead intentId = .ok intentHead) :
    (liftM (state.service.getIntentHead intentId) :
      Effect (ReplayWorld γ) IntentRebaseError IntentHeadResponse).on w = (.ok intentHead, w) := by
  rw [hhead, Effect.on_lift]

/-- Without claims, a replay of stored versions is handed over and any other request is refused. -/
theorem replayIntentWithoutJwt_on {intentHead : IntentHeadResponse}
    (hhead : state.service.getIntentHead intentId = .ok intentHead) (faults : ReplayFaults)
    (request : ReplayRequest) (w : ReplayWorld γ) :
    (request.VersionsExist state intentId ∧
      HandsReplay (replayIntentWithoutJwt state faults intentId request) w) ∨
    (¬ request.VersionsExist state intentId ∧
      ∃ e, (replayIntentWithoutJwt state faults intentId request).on w = (.error e, w)) := by
  rw [HandsReplay, replayIntentWithoutJwt, Effect.on_bind_ok (headRead hhead)]
  dsimp only
  cases hcheck : validateVersions state intentId request
      (replayParams intentId request intentHead) with
  | error e =>
    refine .inr ⟨fun h => ?_, e, rfl⟩
    cases hcheck.symm.trans (validateVersions_ok_iff.mpr h)
  | ok _ =>
    exact .inl ⟨validateVersions_ok_iff.mp hcheck,
      handsReplay_of_requested (requested_bind (handReplay_requested _ _))⟩

variable (state faults intentId request w) in
/-- With claims, a replay is handed over whenever it is reached. -/
theorem replayIntent_claims_on (rlsClaims : RlsTenantClaims) :
    (ReachesReplay state faults intentId rlsClaims.tenantId ∧
      HandsReplay (replayIntent state faults intentId request (some rlsClaims)) w) ∨
    (¬ ReachesReplay state faults intentId rlsClaims.tenantId ∧
      ∃ e, (replayIntent state faults intentId request (some rlsClaims)).on w = (.error e, w)) := by
  rw [ReachesReplay, HandsReplay, replayIntent]
  cases hhead : state.service.getIntentHead intentId with
  | error e => exact .inr ⟨fun ⟨⟨_, h, _⟩, _⟩ => (by cases h), e, rfl⟩
  | ok intentHead =>
    rw [← hhead]
    dsimp only
    rw [Effect.on_bind_ok (headRead hhead)]
    by_cases htenant : intentHead.intent.tenantId = rlsClaims.tenantId
    · rw [if_neg (not_not.mpr htenant)]
      cases hpool : state.rlsPool with
      | false =>
        refine .inl ⟨⟨⟨intentHead, hhead, htenant⟩, nofun⟩, ?_⟩
        exact handsReplay_of_requested (requested_bind (handReplay_requested
          (replayParams intentId request intentHead) _))
      | true =>
        rcases replayInTransaction_on rlsClaims.notNil (replayParams intentId request intentHead)
          with ⟨hbegin, hhanded⟩ | ⟨hbegin, e, hrefused⟩
        · refine .inl ⟨⟨⟨intentHead, hhead, htenant⟩, fun _ => hbegin⟩, ?_⟩
          exact handsReplay_of_requested (requested_bind hhanded)
        · refine .inr ⟨fun h => hbegin (h.2 rfl), e, ?_⟩
          exact Effect.on_bind_error hrefused
    · rw [if_pos htenant]
      refine .inr ⟨fun ⟨⟨_, h, howner⟩, _⟩ => ?_, _, rfl⟩
      cases hhead.symm.trans h
      exact htenant howner

/-- A call that refuses validates. -/
theorem ValidatesVersions.of_refused {e : IntentRebaseError}
    {call : Effect (ReplayWorld γ) IntentRebaseError ReplayResponse}
    (h : call.on w = (.error e, w)) (state : ReplayState γ) (intentId : Uuid)
    (request : ReplayRequest) :
    ValidatesVersions state intentId request call w ∧ ¬ HandsReplay call w := by
  rw [ValidatesVersions, HandsReplay, h]
  exact ⟨fun hchanged => absurd hchanged (by simp), fun h => h rfl⟩

variable (state faults intentId request w) in
/-- Without claims, versions are validated, and only stored ones are replayed. -/
theorem replayIntentWithoutJwt_validates :
    ValidatesVersions state intentId request
      (replayIntentWithoutJwt state faults intentId request) w ∧
    ((∃ intentHead, state.service.getIntentHead intentId = .ok intentHead) →
      (HandsReplay (replayIntentWithoutJwt state faults intentId request) w ↔
        request.VersionsExist state intentId)) := by
  cases hhead : state.service.getIntentHead intentId with
  | error e =>
    have hrefused : (replayIntentWithoutJwt state faults intentId request).on w =
        (.error e, w) := by
      rw [replayIntentWithoutJwt, hhead]
      rfl
    refine ⟨(ValidatesVersions.of_refused hrefused state intentId request).1, ?_⟩
    rintro ⟨_, h⟩
    cases h
  | ok intentHead =>
    rcases replayIntentWithoutJwt_on hhead faults request w with
      ⟨hexist, hhanded⟩ | ⟨hmissing, e, hrefused⟩
    · exact ⟨fun _ => hexist, fun _ => iff_of_true hhanded hexist⟩
    · have hquiet := ValidatesVersions.of_refused hrefused state intentId request
      exact ⟨hquiet.1, fun _ => iff_of_false hquiet.2 hmissing⟩

variable (state faults intentId request) (w)

/-- A handler validates the versions of a request exactly if it has no claims, or refuses the
request before the replay, or the versions are stored. For a request of the owning tenant, the paths
accept alike exactly if the versions are stored. -/
theorem replayIntent_validates_iff (claims : Option RlsTenantClaims) :
    (ValidatesVersions state intentId request (replayIntent state faults intentId request claims)
        w ↔
      ∀ rlsClaims, claims = some rlsClaims →
        ReachesReplay state faults intentId rlsClaims.tenantId →
        request.VersionsExist state intentId) ∧
    ValidatesVersions state intentId request
      (replayIntentWithoutJwt state faults intentId request) w ∧
    ∀ rlsClaims : RlsTenantClaims, ReachesReplay state faults intentId rlsClaims.tenantId →
      ((HandsReplay (replayIntent state faults intentId request (some rlsClaims)) w ↔
          HandsReplay (replayIntent state faults intentId request none) w) ↔
        request.VersionsExist state intentId) := by
  have hplain := replayIntentWithoutJwt_validates state faults intentId request w
  refine ⟨?_, hplain.1, ?_⟩
  · cases claims with
    | none => exact iff_of_true hplain.1 nofun
    | some rlsClaims =>
      simp only [Option.some.injEq, forall_eq']
      rcases replayIntent_claims_on state faults intentId request w rlsClaims with
        ⟨hreach, hhanded⟩ | ⟨hreach, e, hrefused⟩
      · exact ⟨fun h _ => h (.inl hhanded), fun h _ => h hreach⟩
      · exact iff_of_true (ValidatesVersions.of_refused hrefused _ _ _).1 fun h => absurd h hreach
  · intro rlsClaims hreach
    rcases replayIntent_claims_on state faults intentId request w rlsClaims with
      ⟨_, hhanded⟩ | ⟨hunreached, _⟩
    · rw [iff_true_left hhanded, replayIntent]
      exact hplain.2 ⟨_, hreach.1.choose_spec.1⟩
    · exact absurd hreach hunreached

section Sample

/-- An intent of tenant 5 with one version, and no pool. -/
def replayedState : ReplayState GraphState where
  service := .inMemory (InMemoryIntentRepository.new.createIntentTx
    InMemoryIntentRepository.sampleHash ⟨7, 8, 5, 0⟩
    InMemoryIntentRepository.sampleIntentRequest).2
  orchestrator := RebaseOrchestrator.sampleOrchestrator
  rlsPool := false

/-- With a token of its tenant, an intent is replayed to a version that it does not have. -/
theorem replayIntent_skips_validation :
    ¬ (∀ (state : ReplayState GraphState) (faults : ReplayFaults) (intentId : Uuid)
        (request : ReplayRequest) (claims : Option RlsTenantClaims) (w : ReplayWorld GraphState),
      ValidatesVersions state intentId request
        (replayIntent state faults intentId request claims) w) := by
  intro h
  let request : ReplayRequest := ⟨none, 99, none⟩
  let w : ReplayWorld GraphState := ⟨⟨.empty, []⟩, [], []⟩
  have hhanded : HandsReplay
      (replayIntent replayedState ⟨none, none, none⟩ 7 request (some sampleClaims)) w := by
    rcases replayIntent_claims_on replayedState ⟨none, none, none⟩ 7 request w sampleClaims with
      ⟨_, h⟩ | ⟨h, _⟩
    · exact h
    · exact absurd ⟨⟨_, rfl, rfl⟩, nofun⟩ h
  obtain ⟨version, hmem, hnumber⟩ := (h _ _ _ _ _ _ (.inl hhanded)).1
  revert version
  decide

end Sample

end Versions

end IntentRebase
