import IntentRebase.Api.ForeignRecords

/-! Whether the answer to a read request depends on another tenant's records: over every
configuration and request, and two states that agree on all that the token's tenant has. -/

namespace IntentRebase

open Kit

/-- The repositories that a server runs on; those of SQL with a pool for the transactions of a
tenant, or without. -/
inductive ReadConfiguration where
  | inMemory
  | sqlx (rlsPool : Bool)
deriving DecidableEq

namespace ReadConfiguration

abbrev State : ReadConfiguration → Type
  | inMemory => InMemoryReadState
  | sqlx _ => SqlxReadState

def reads : (c : ReadConfiguration) → c.State → ReadDraws → Reads
  | inMemory => InMemoryReadState.reads
  | sqlx rlsPool => SqlxReadState.reads rlsPool

def AgreeFor (tenantId : Uuid) : (c : ReadConfiguration) → c.State → c.State → Prop
  | inMemory => InMemoryReadState.AgreeFor tenantId
  | sqlx _ => SqlxReadState.AgreeFor tenantId

variable {c : ReadConfiguration} {tenantId : Uuid} {s s' : c.State}

theorem AgreeFor.symm (h : c.AgreeFor tenantId s s') : c.AgreeFor tenantId s' s := by
  cases c with
  | inMemory => exact InMemoryReadState.AgreeFor.symm h
  | sqlx rlsPool => exact SqlxReadState.AgreeFor.symm h

/-- What one state answers, with any draws, an agreeing state can answer. -/
def Follows (c : ReadConfiguration) (s s' : c.State) {α : Type} (answer : Reads → α) : Prop :=
  ∀ draws, ∃ draws', answer (c.reads s' draws') = answer (c.reads s draws)

/-- What depends on the reads only through an answer is followed with it. -/
theorem Follows.of_eq {α β : Type} {answer : Reads → α} {handler : Reads → β}
    (h : c.Follows s s' answer)
    (hhandler : ∀ reads reads', answer reads = answer reads' → handler reads = handler reads') :
    c.Follows s s' handler := by
  intro draws
  obtain ⟨draws', hdraws⟩ := h draws
  exact ⟨draws', hhandler _ _ hdraws⟩

section Runs

theorem getOrchestrationRun_inMemory (s : InMemoryReadState) (draws : ReadDraws)
    (runId tenantId : Uuid) :
    ReadHandlers.getOrchestrationRun (s.reads draws) none runId tenantId =
      ((s.runs.lookup runId).filter fun run => run.tenantId = tenantId).elim
        (.error (.orchestrationRunNotFound runId)) .ok := by
  simp only [ReadHandlers.getOrchestrationRun, ReadHandlers.forTenant, InMemoryReadState.reads,
    RunRepo.get]
  cases s.runs.lookup runId with
  | none => rfl
  | some run => by_cases howner : run.tenantId = tenantId <;> simp [Option.filter, howner]

theorem getOrchestrationRun_sqlx (rlsPool : Bool) (s : SqlxReadState) (draws : ReadDraws)
    (runId tenantId : Uuid) :
    ReadHandlers.getOrchestrationRun (s.reads rlsPool draws) none runId tenantId =
      ((s.runs.rows.lookup runId).filter fun row => row.tenantId = tenantId).elim
        (.error (.orchestrationRunNotFound runId)) rowToRun := by
  simp only [ReadHandlers.getOrchestrationRun, ReadHandlers.forTenant, SqlxReadState.reads,
    SqlxRunRepository.get]
  cases hrow : s.runs.rows.lookup runId with
  | none => rfl
  | some row =>
    obtain ⟨run, hrun⟩ := s.runs.readable runId row hrow
    have htenant := rowToRun_ok hrun
    by_cases howner : row.tenantId = tenantId <;> simp [Option.filter, hrun, htenant, howner]

end Runs

namespace AgreeFor

variable (h : c.AgreeFor tenantId s s')
include h

theorem follows_listNodes (filter : GraphNodeFilter) (hfilter : filter.tenantId = some tenantId) :
    c.Follows s s' fun reads => reads.listNodes filter := by
  intro draws
  cases c with
  | inMemory =>
    obtain ⟨order, horder⟩ := exists_listNodes h.nodes draws.nodeOrder hfilter
    exact ⟨{ draws with nodeOrder := order }, congrArg Except.ok horder⟩
  | sqlx rlsPool =>
    obtain ⟨scan, hscan⟩ := SqlxGraphTables.exists_listNodes h.nodes draws.nodeScan hfilter
    exact ⟨{ draws with nodeScan := scan }, hscan⟩

theorem follows_listEdges (filter : GraphEdgeFilter) (hfilter : filter.tenantId = some tenantId) :
    c.Follows s s' fun reads => reads.listEdges filter := by
  intro draws
  cases c with
  | inMemory =>
    obtain ⟨order, horder⟩ := exists_listEdges h.edges draws.edgeOrder hfilter
    exact ⟨{ draws with edgeOrder := order }, congrArg Except.ok horder⟩
  | sqlx rlsPool =>
    obtain ⟨scan, hscan⟩ := SqlxGraphTables.exists_listEdges h.edges draws.edgeScan hfilter
    exact ⟨{ draws with edgeScan := scan }, hscan⟩

theorem follows_listSideEffects (intentId : Uuid) :
    c.Follows s s' fun reads => reads.listSideEffectsByIntent intentId tenantId := by
  intro draws
  cases c with
  | inMemory => exact ⟨draws, congrArg Except.ok (h.listSideEffects_eq intentId)⟩
  | sqlx rlsPool =>
    obtain ⟨scan, hscan⟩ := h.exists_listSideEffects draws.sideEffectScan intentId
    exact ⟨{ draws with sideEffectScan := scan }, hscan⟩

theorem follows_listActionsByTenant :
    c.Follows s s' fun reads => reads.listActionsByTenant tenantId := by
  intro draws
  cases c with
  | inMemory => exact ⟨draws, h.listActionsByTenant_eq⟩
  | sqlx rlsPool =>
    obtain ⟨scan, hscan⟩ := h.exists_listActionsByTenant draws.tenantScan
    exact ⟨{ draws with tenantScan := scan }, hscan⟩

theorem follows_listActionsByIntent (intentId : Uuid) :
    c.Follows s s' fun reads => reads.listActionsByIntent intentId tenantId := by
  intro draws
  cases c with
  | inMemory => exact ⟨draws, congrArg Except.ok (h.listActionsByIntent_eq intentId)⟩
  | sqlx rlsPool =>
    obtain ⟨scan, hscan⟩ := h.exists_listActionsByIntent draws.intentScan intentId
    exact ⟨{ draws with intentScan := scan }, hscan⟩

/-- All the statuses are followed by one draw. -/
theorem follows_listActionsByStatus :
    c.Follows s s' fun reads => reads.listActionsByStatus tenantId := by
  intro draws
  cases c with
  | inMemory =>
    exact ⟨draws, funext fun status => congrArg Except.ok (h.listActionsByStatus_eq status)⟩
  | sqlx rlsPool =>
    choose scan hscan using fun status =>
      h.exists_listActionsByStatus (draws.statusScan status) status
    exact ⟨{ draws with statusScan := scan }, funext hscan⟩

/-- A run of another tenant answers as no run does. -/
theorem follows_getOrchestrationRun (runId : Uuid) : c.Follows s s' fun reads =>
    ReadHandlers.getOrchestrationRun reads none runId tenantId := by
  intro draws
  refine ⟨draws, ?_⟩
  cases c with
  | inMemory =>
    have hsame := h.runs.lookup_filter runId
    exact (getOrchestrationRun_inMemory s' draws runId tenantId).trans
      (hsame ▸ (getOrchestrationRun_inMemory s draws runId tenantId).symm)
  | sqlx rlsPool =>
    have hsame := h.runs.lookup_filter runId
    exact (getOrchestrationRun_sqlx rlsPool s' draws runId tenantId).trans
      (hsame ▸ (getOrchestrationRun_sqlx rlsPool s draws runId tenantId).symm)

/-- The listing of bundles runs in a transaction of the tenant, or outside. -/
theorem follows_listForensicBundles {claims : RlsTenantClaims}
    (hclaims : claims.tenantId = tenantId) (limit : Option Nat) : c.Follows s s' fun reads =>
      ReadHandlers.listForensicBundles reads (some claims) tenantId limit := by
  subst hclaims
  intro draws
  cases c with
  | inMemory =>
    refine ⟨draws, ?_⟩
    simp only [ReadHandlers.listForensicBundles, reads, InMemoryReadState.reads, h.listBundles_eq]
  | sqlx rlsPool =>
    cases rlsPool with
    | false =>
      obtain ⟨scan, hscan⟩ := h.exists_listBundles none draws.bundleScan limit
      refine ⟨{ draws with bundleScan := scan }, ?_⟩
      simp [ReadHandlers.listForensicBundles, reads, SqlxReadState.reads, hscan]
    | true =>
      obtain ⟨scan, hscan⟩ := h.exists_listBundles (some claims.tenantId) draws.bundleScan limit
      refine ⟨{ draws with bundleScan := scan }, ?_⟩
      simp [ReadHandlers.listForensicBundles, reads, SqlxReadState.reads, hscan]

end AgreeFor

section Download

theorem readInTenant_ok {α : Type} {beginFault commitFault : Option String}
    {body : Except IntentRebaseError α} {a : α}
    (h : readInTenant beginFault commitFault body = .ok a) : body = .ok a := by
  cases beginFault with
  | some e => cases h
  | none =>
    cases body with
    | error e => cases h
    | ok b =>
      cases commitFault with
      | some e => cases h
      | none => exact h

/-- A bundle that passes the check in a transaction is stored as the tenant's. -/
theorem checkDownload_ok {s : SqlxReadState} {draws : ReadDraws} {claims : RlsTenantClaims}
    {bundleId : Uuid}
    (h : ReadHandlers.checkDownload (s.reads true draws) claims bundleId = .ok ()) :
    ∃ row, s.bundles.rows.lookup bundleId = some row ∧ row.tenantId = claims.tenantId := by
  have hbody := readInTenant_ok h
  cases hrow : (s.bundles.rows.lookup bundleId).filter
      fun row => row.tenantId = claims.tenantId with
  | none => simp [SqlxBundleRepository.getWithTx, hrow] at hbody
  | some row =>
    obtain ⟨hlookup, howner⟩ := Option.filter_eq_some_iff.mp hrow
    exact ⟨row, hlookup, of_decide_eq_true howner⟩

variable {claims : RlsTenantClaims} {s s' : SqlxReadState}

/-- The download after a check in a transaction of the tenant. -/
theorem follows_downloadForensicBundle (h : s.AgreeFor claims.tenantId s') (bundleId : Uuid) :
    (sqlx true).Follows s s' fun reads =>
      ReadHandlers.downloadForensicBundle reads (some claims) bundleId := by
  intro draws
  refine ⟨draws, ?_⟩
  have hget : s'.bundles.getWithTx claims.tenantId bundleId =
      s.bundles.getWithTx claims.tenantId bundleId := by
    simp only [SqlxBundleRepository.getWithTx, h.bundles.lookup_filter bundleId]
  have hcheck : ReadHandlers.checkDownload (s'.reads true draws) claims bundleId =
      ReadHandlers.checkDownload (s.reads true draws) claims bundleId := by
    simp [ReadHandlers.checkDownload, SqlxReadState.reads, hget]
  have hbytes : ReadHandlers.checkDownload (s.reads true draws) claims bundleId = .ok () →
      downloadBundleBytes s'.bundles.get s'.bundleText bundleId =
        downloadBundleBytes s.bundles.get s.bundleText bundleId := by
    intro hok
    obtain ⟨row, hlookup, howner⟩ := checkDownload_ok hok
    obtain ⟨bundle, hbundle⟩ := s.bundles.readable bundleId row hlookup
    have hlookup' := (h.bundles bundleId row howner).mp hlookup
    have htext := h.bundleText bundleId row hlookup howner
    have htenant := (rowToBundle_ok hbundle).trans howner
    simp only [downloadBundleBytes, bundleOf, SqlxBundleRepository.get, hlookup, hlookup', hbundle,
      htenant, htext]
  simp only [ReadHandlers.downloadForensicBundle, Option.elim_some, reads, hcheck]
  cases hok : ReadHandlers.checkDownload (s.reads true draws) claims bundleId with
  | error e => rfl
  | ok _ =>
    have hsame := hbytes hok
    simp only [SqlxReadState.reads, hsame]

end Download

section Foreign

variable {f : ForeignRecords}

/-- The other tenant's records can be all that a state has, and an agreeing state can have none. -/
theorem exists_foreign (c : ReadConfiguration) (h : f.tenantId ≠ tenantId) :
    ∃ s s' : c.State, c.AgreeFor tenantId s s' ∧ (∀ draws, f.ShownBy (c.reads s draws)) ∧
      ∀ draws, (c.reads s' draws).ShowNothing := by
  cases c with
  | inMemory =>
    exact ⟨f.inMemory, .empty, f.agreeFor_inMemory h, f.shownBy_inMemory,
      InMemoryReadState.empty_showNothing⟩
  | sqlx rlsPool =>
    exact ⟨f.sqlx, .empty, f.agreeFor_sqlx h, f.shownBy_sqlx rlsPool,
      SqlxReadState.empty_showNothing rlsPool⟩

theorem bundleTransactions_none (h : c ≠ .sqlx true) (s : c.State) (draws : ReadDraws) :
    (c.reads s draws).bundleTransactions = none := by
  cases c with
  | inMemory => rfl
  | sqlx rlsPool =>
    cases rlsPool with
    | false => rfl
    | true => exact absurd rfl h

end Foreign

end ReadConfiguration

/-- Nothing is reordered and nothing fails. -/
def ReadDraws.id : ReadDraws where
  moment := { now := 0, nanos := 0, fresh := fun _ => 0 }
  nodeOrder := .id _
  edgeOrder := .id _
  nodeScan := .id _
  edgeScan := .id _
  sideEffectScan := .id _
  tenantScan := .id _
  intentScan := .id _
  statusScan _ := .id _
  bundleScan := .id _
  diffOrders := .id
  fuel := 0
  beginFault := none
  commitFault := none

namespace ReadRequest

section Isolation

variable (c : ReadConfiguration) (claims : RlsTenantClaims)

/-- The answer to a request with a token, in a state. -/
def query (request : ReadRequest) (draws : ReadDraws) (s : c.State) :
    Option (Except IntentRebaseError ReadResponse) :=
  request.respond (c.reads s draws) draws.moment (some claims)

/-- The answers to the request depend on nothing but the records of the token's tenant. -/
def Isolated (request : ReadRequest) : Prop :=
  Blind (c.AgreeFor claims.tenantId) (request.query c claims)

/-- The handler asks for the tenant's records only. -/
def Scoped (tenantId : Uuid) : ReadRequest → Prop
  | listGraphNodes query => query.tenantId = some tenantId
  | getGraphNode _ => False
  | listGraphEdges query => query.tenantId = some tenantId
  | listEdgesFromNode _ => False
  | listSideEffects _ _ => True
  | listCompensationActions _ _ => True
  | listDlqCandidates _ => True
  | listBatchCandidates _ => True
  | getCompensationPolicyGate _ => True
  | getIntentCompensationPolicyGate _ _ => True
  | getOrchestrationCoordination _ => True
  | getIntentOrchestrationCoordination _ _ => True
  | getOrchestrationRun _ _ => True
  | getImpactReport _ query => query.tenantId ≠ tenantId
  | rebaseSimulation _ _ => False
  | listForensicBundles _ _ => True
  | downloadForensicBundle _ => c = .sqlx true

end Isolation

variable {c : ReadConfiguration} {claims : RlsTenantClaims} {request : ReadRequest}

section Scoped

theorem isolated_of_follows {answer : Reads → Option (Except IntentRebaseError ReadResponse)}
    (hrespond : ∀ reads moment, request.respond reads moment (some claims) = answer reads)
    (h : ∀ s s', c.AgreeFor claims.tenantId s s' → c.Follows s s' answer) :
    Isolated c claims request := by
  refine blind_of_follows (fun _ _ hagree => hagree.symm) fun s s' hagree draws => ?_
  obtain ⟨draws', hdraws⟩ := h s s' hagree draws
  exact ⟨draws', by rw [query, query, hrespond, hrespond, hdraws]⟩

/-- A handler that refuses the queries of other tenants is isolated if the own ones are. -/
theorem isolated_of_forTenant {α : Type} (tenantId : Uuid) (wrap : α → ReadResponse)
    (answer : Reads → Except IntentRebaseError α)
    (hrespond : ∀ reads moment, request.respond reads moment (some claims) =
      some ((ReadHandlers.forTenant (some claims) tenantId (answer reads)).map wrap))
    (h : tenantId = claims.tenantId → ∀ s s', c.AgreeFor claims.tenantId s s' →
      c.Follows s s' answer) :
    Isolated c claims request := by
  refine isolated_of_follows hrespond fun s s' hagree => ?_
  by_cases htenant : tenantId = claims.tenantId
  · exact (h htenant s s' hagree).of_eq fun _ _ heq => by simp only [heq]
  · have hrefused : ∀ reads, ReadHandlers.forTenant (some claims) tenantId (answer reads) =
        .error (.unauthorized (queryTenantMismatch claims.tenantId tenantId)) :=
      fun reads => if_pos htenant
    exact fun draws => ⟨draws, by simp only [hrefused]⟩

theorem forTenant_forTenant {α : Type} (tenantId : Uuid) (answer : Except IntentRebaseError α) :
    ReadHandlers.forTenant (some claims) tenantId
        (ReadHandlers.forTenant (some claims) tenantId answer) =
      ReadHandlers.forTenant (some claims) tenantId answer := by
  simp only [ReadHandlers.forTenant]
  split <;> rfl

theorem isolated_of_scoped (h : Scoped c claims.tenantId request) : Isolated c claims request := by
  cases request with
  | listGraphNodes query =>
    refine isolated_of_follows (fun _ _ => rfl) fun s s' hagree => ?_
    refine (hagree.follows_listNodes ⟨query.tenantId, query.workflowId, query.nodeType, none⟩
      h).of_eq fun _ _ heq => ?_
    simp only [ReadHandlers.listGraphNodes, heq]
  | getGraphNode nodeId => exact h.elim
  | listGraphEdges query =>
    refine isolated_of_follows (fun _ _ => rfl) fun s s' hagree => ?_
    refine (hagree.follows_listEdges
      ⟨query.tenantId, query.workflowId, query.fromNodeId, none, query.edgeType⟩ h).of_eq
      fun _ _ heq => ?_
    simp only [ReadHandlers.listGraphEdges, heq]
  | listEdgesFromNode nodeId => exact h.elim
  | listSideEffects intentId tenantId =>
    refine isolated_of_forTenant tenantId .sideEffects
      (ReadHandlers.listSideEffects · none intentId tenantId)
      (fun _ _ => rfl) ?_
    rintro rfl s s' hagree
    exact (hagree.follows_listSideEffects intentId).of_eq fun _ _ heq => by
      simp only [ReadHandlers.listSideEffects, heq]
  | listCompensationActions intentId tenantId =>
    refine isolated_of_forTenant tenantId .actions
      (ReadHandlers.listCompensationActions · none intentId tenantId)
      (fun _ _ => rfl) ?_
    rintro rfl s s' hagree
    exact (hagree.follows_listActionsByIntent intentId).of_eq fun _ _ heq => by
      simp only [ReadHandlers.listCompensationActions, heq]
  | listDlqCandidates tenantId =>
    refine isolated_of_forTenant tenantId .dlqCandidates
      (ReadHandlers.listDlqCandidates · none tenantId)
      (fun _ _ => rfl) ?_
    rintro rfl s s' hagree
    exact hagree.follows_listActionsByStatus.of_eq fun _ _ heq => by
      simp only [ReadHandlers.listDlqCandidates, heq]
  | listBatchCandidates tenantId =>
    refine isolated_of_forTenant tenantId .batchCandidates
      (ReadHandlers.listBatchCandidates · none tenantId)
      (fun _ _ => rfl) ?_
    rintro rfl s s' hagree
    exact hagree.follows_listActionsByStatus.of_eq fun _ _ heq => by
      simp only [ReadHandlers.listBatchCandidates, ReadHandlers.batchCandidates, heq]
  | getCompensationPolicyGate tenantId =>
    refine isolated_of_forTenant tenantId .policyGate
      (ReadHandlers.getCompensationPolicyGate · none tenantId)
      (fun _ _ => rfl) ?_
    rintro rfl s s' hagree
    exact hagree.follows_listActionsByTenant.of_eq fun _ _ heq => by
      simp only [ReadHandlers.getCompensationPolicyGate, heq]
  | getIntentCompensationPolicyGate intentId tenantId =>
    refine isolated_of_forTenant tenantId .policyGate
      (ReadHandlers.getIntentCompensationPolicyGate · none intentId tenantId) (fun _ _ => rfl) ?_
    rintro rfl s s' hagree
    exact (hagree.follows_listActionsByIntent intentId).of_eq fun _ _ heq => by
      simp only [ReadHandlers.getIntentCompensationPolicyGate, heq]
  | getOrchestrationCoordination tenantId =>
    refine isolated_of_forTenant tenantId .coordination
      (ReadHandlers.getOrchestrationCoordination · none tenantId)
      (fun _ _ => rfl) ?_
    rintro rfl s s' hagree
    exact hagree.follows_listActionsByTenant.of_eq fun _ _ heq => by
      simp only [ReadHandlers.getOrchestrationCoordination, heq]
  | getIntentOrchestrationCoordination intentId tenantId =>
    refine isolated_of_forTenant tenantId .coordination
      (ReadHandlers.getIntentOrchestrationCoordination · none intentId tenantId) (fun _ _ => rfl) ?_
    rintro rfl s s' hagree
    exact (hagree.follows_listActionsByIntent intentId).of_eq fun _ _ heq => by
      simp only [ReadHandlers.getIntentOrchestrationCoordination, heq]
  | getOrchestrationRun runId tenantId =>
    refine isolated_of_forTenant tenantId .run
      (ReadHandlers.getOrchestrationRun · none runId tenantId)
      (fun _ _ => rfl) ?_
    rintro rfl s s' hagree
    exact hagree.follows_getOrchestrationRun runId
  | getImpactReport intentId query =>
    have hrefused : ReadHandlers.forTenant (some claims) query.tenantId (.ok ()) =
        .error (.unauthorized (queryTenantMismatch claims.tenantId query.tenantId)) := if_pos h
    refine blind_of_constant (fun _ => some (.error (.unauthorized
      (queryTenantMismatch claims.tenantId query.tenantId)))) fun draws s => ?_
    simp only [ReadRequest.query, respond, ReadHandlers.getImpactReport, hrefused]
    rfl
  | rebaseSimulation intentId query => exact h.elim
  | listForensicBundles tenantId limit =>
    refine isolated_of_forTenant tenantId .bundles
      (ReadHandlers.listForensicBundles · (some claims) tenantId limit)
      (fun reads _ => ?_) ?_
    · simp only [respond, ReadHandlers.listForensicBundles, forTenant_forTenant]
    · rintro rfl s s' hagree
      exact hagree.follows_listForensicBundles rfl limit
  | downloadForensicBundle bundleId =>
    obtain rfl : c = .sqlx true := h
    refine isolated_of_follows (fun _ _ => rfl) fun s s' hagree => ?_
    exact (ReadConfiguration.follows_downloadForensicBundle hagree bundleId).of_eq
      fun _ _ heq => by simp only [heq]

end Scoped

section Unscoped

/-- A handler that answers one way where no record shows, and another where another tenant's do, is
not isolated. -/
theorem not_isolated (f : ForeignRecords) (hf : f.tenantId ≠ claims.tenantId)
    (nothing : Except IntentRebaseError ReadResponse)
    (hnothing : ∀ s draws, (c.reads s draws).ShowNothing →
      request.query c claims draws s = some nothing)
    (hshown : ∀ s draws, f.ShownBy (c.reads s draws) →
      ∃ answer, answer ≠ nothing ∧ request.query c claims draws s = some answer) :
    ¬ Isolated c claims request := by
  obtain ⟨s, s', hagree, hs, hs'⟩ := ReadConfiguration.exists_foreign c hf
  obtain ⟨answer, hne, hanswer⟩ := hshown s .id (hs .id)
  refine not_blind hagree hanswer fun draws hother => hne ?_
  exact Option.some.inj (hother.symm.trans (hnothing s' draws (hs' draws)))

/-- Records of the tenant after the token's. -/
def foreignTo (claims : RlsTenantClaims) (id : Uuid) : ForeignRecords where
  tenantId := claims.tenantId + 1
  workflowId := 0
  id := id
  nodeType := .generic
  edgeType := .dependsOn

theorem getD_ne {tenantId : Option Uuid} (h : tenantId ≠ some claims.tenantId) :
    tenantId.getD (claims.tenantId + 1) ≠ claims.tenantId := by
  cases tenantId with
  | none => exact Uuid.succ_ne _
  | some tenantId => exact fun heq => h (congrArg some heq)

theorem all_beq_getD {α : Type} [DecidableEq α] (asked : Option α) (other : α) :
    asked.all (asked.getD other == ·) = true := by
  cases asked <;> simp

theorem getImpactReport_own {query : ImpactReportQuery} (h : query.tenantId = claims.tenantId)
    {reads : Reads} {moment : ReadMoment} {intentId : Uuid} :
    ReadHandlers.getImpactReport reads moment (some claims) intentId query =
      ReadHandlers.reportForTenant reads moment intentId query := by
  have hallowed : ReadHandlers.forTenant (some claims) query.tenantId (.ok ()) =
      (.ok () : Except IntentRebaseError Unit) := if_neg (not_not.mpr h)
  simp only [ReadHandlers.getImpactReport, hallowed]

theorem checkVersions_error {fromVersion toVersion : Int} {e : IntentRebaseError}
    (h : ReadHandlers.checkVersions fromVersion toVersion = .error e) :
    ∃ message, e = .invalidIntentVersion message := by
  unfold ReadHandlers.checkVersions at h
  split at h
  · exact ⟨_, (Except.error.inj h).symm⟩
  · split at h
    · exact ⟨_, (Except.error.inj h).symm⟩
    · split at h
      · exact ⟨_, (Except.error.inj h).symm⟩
      · cases h

theorem not_isolated_of_not_scoped (h : ¬ Scoped c claims.tenantId request) :
    ¬ Isolated c claims request := by
  have hforeign := Uuid.succ_ne claims.tenantId
  cases request with
  | listGraphNodes query =>
    let f : ForeignRecords :=
      { foreignTo claims 0 with
        tenantId := query.tenantId.getD (claims.tenantId + 1)
        workflowId := query.workflowId.getD 0
        nodeType := query.nodeType.getD .generic }
    have hf : f.tenantId ≠ claims.tenantId := getD_ne h
    refine not_isolated f hf (.ok (.nodes [])) (fun s draws hnothing => ?_) fun s draws hshown => ?_
    · simp only [ReadRequest.query, respond, ReadHandlers.listGraphNodes, hnothing.listNodes]
      rfl
    · obtain ⟨nodes, hnodes, hmem⟩ := hshown.listNodes
        ⟨query.tenantId, query.workflowId, query.nodeType, none⟩
        (by simp [GraphState.acceptsNode, ForeignRecords.node, f, all_beq_getD])
      refine ⟨.ok (.nodes nodes), fun heq => ?_, ?_⟩
      · cases heq
        cases hmem
      · simp only [ReadRequest.query, respond, ReadHandlers.listGraphNodes, hnodes]
        rfl
  | getGraphNode nodeId =>
    refine not_isolated (foreignTo claims nodeId) hforeign (.error (.graphNodeNotFound nodeId))
      (fun s draws hnothing => ?_) fun s draws hshown => ?_
    · simp only [query, respond, ReadHandlers.getGraphNode, hnothing.getNode]
      rfl
    · have hnode : (c.reads s draws).getNode nodeId = .ok (foreignTo claims nodeId).node :=
        hshown.getNode
      refine ⟨.ok (.node (foreignTo claims nodeId).node), fun heq => (by cases heq), ?_⟩
      simp only [query, respond, ReadHandlers.getGraphNode, hnode]
      rfl
  | listGraphEdges query =>
    let f : ForeignRecords :=
      { tenantId := query.tenantId.getD (claims.tenantId + 1)
        workflowId := query.workflowId.getD 0
        id := query.fromNodeId.getD 0
        nodeType := .generic
        edgeType := query.edgeType.getD .dependsOn }
    have hf : f.tenantId ≠ claims.tenantId := getD_ne h
    refine not_isolated f hf (.ok (.edges [])) (fun s draws hnothing => ?_) fun s draws hshown => ?_
    · simp only [ReadRequest.query, respond, ReadHandlers.listGraphEdges, hnothing.listEdges]
      rfl
    · obtain ⟨edges, hedges, hmem⟩ := hshown.listEdges
        ⟨query.tenantId, query.workflowId, query.fromNodeId, none, query.edgeType⟩
        (by simp [GraphState.acceptsEdge, ForeignRecords.edge, f, all_beq_getD])
      refine ⟨.ok (.edges edges), fun heq => ?_, ?_⟩
      · cases heq
        cases hmem
      · simp only [ReadRequest.query, respond, ReadHandlers.listGraphEdges, hedges]
        rfl
  | listEdgesFromNode nodeId =>
    refine not_isolated (foreignTo claims nodeId) hforeign (.ok (.edges []))
      (fun s draws hnothing => ?_) fun s draws hshown => ?_
    · simp only [query, respond, ReadHandlers.listEdgesFromNode, hnothing.listEdgesFrom]
      rfl
    · have hedges : (c.reads s draws).listEdgesFrom nodeId = .ok [(foreignTo claims nodeId).edge] :=
        hshown.listEdgesFrom
      refine ⟨.ok (.edges [(foreignTo claims nodeId).edge]), fun heq => (by cases heq), ?_⟩
      simp only [query, respond, ReadHandlers.listEdgesFromNode, hedges]
      rfl
  | getImpactReport intentId query =>
    have htenant : query.tenantId = claims.tenantId := not_not.mp h
    refine not_isolated (foreignTo claims intentId) hforeign (.error (.intentNotFound intentId))
      (fun s draws hnothing => ?_) fun s draws hshown => ?_
    · simp only [ReadRequest.query, respond, getImpactReport_own htenant,
        ReadHandlers.reportForTenant, hnothing.getIntentHead]
      rfl
    · obtain ⟨head, hhead, howner⟩ := hshown.getIntentHead
      have hother : head.intent.tenantId ≠ query.tenantId := by
        rw [howner, htenant]
        exact hforeign
      refine ⟨.error (.unauthorized (reportTenantMismatch head.intent.tenantId query.tenantId)),
        fun heq => (by cases heq), ?_⟩
      have hhead' : (c.reads s draws).getIntentHead intentId = .ok head := hhead
      simp only [ReadRequest.query, respond, getImpactReport_own htenant,
        ReadHandlers.reportForTenant, hhead', if_pos hother]
      rfl
  | rebaseSimulation intentId query =>
    refine not_isolated (foreignTo claims intentId) hforeign (.error (.intentNotFound intentId))
      (fun s draws hnothing => ?_) fun s draws hshown => ?_
    · simp only [ReadRequest.query, respond, ReadHandlers.rebaseSimulation, hnothing.getIntentHead]
      rfl
    · obtain ⟨head, hhead, -⟩ := hshown.getIntentHead
      have hhead' : (c.reads s draws).getIntentHead intentId = .ok head := hhead
      refine ⟨_, ?_, rfl⟩
      simp only [ReadHandlers.rebaseSimulation, hhead', hshown.listSideEffects]
      cases hversions : ReadHandlers.checkVersions query.fromVersion query.toVersion with
      | error e =>
        obtain ⟨message, rfl⟩ := checkVersions_error hversions
        exact fun heq => (by cases heq)
      | ok _ => exact fun heq => (by cases heq)
  | downloadForensicBundle bundleId =>
    refine not_isolated (foreignTo claims bundleId) hforeign
      (.error (.forensicBundleNotFound bundleId)) (fun s draws hnothing => ?_)
      fun s draws hshown => ?_
    · have hnone := ReadConfiguration.bundleTransactions_none h s draws
      simp only [query, respond, ReadHandlers.downloadForensicBundle, Option.elim_some,
        ReadHandlers.checkDownload, hnone, bundleOf, hnothing.getBundle]
      rfl
    · obtain ⟨bundle, hbundle, howner⟩ := hshown.getBundle
      have hnone := ReadConfiguration.bundleTransactions_none h s draws
      have hbundle' : (c.reads s draws).getBundle bundleId = .ok bundle := hbundle
      have hother : bundle.tenantId ≠ claims.tenantId := howner ▸ hforeign
      refine ⟨.error (.unauthorized (bundleTenantMismatch bundle.tenantId claims.tenantId)),
        fun heq => (by cases heq), ?_⟩
      simp only [query, respond, ReadHandlers.downloadForensicBundle, Option.elim_some,
        ReadHandlers.checkDownload, hnone, bundleOf, hbundle', ReadHandlers.checkBundleTenant,
        if_pos hother]
      rfl
  | listSideEffects intentId tenantId => exact absurd trivial h
  | listCompensationActions intentId tenantId => exact absurd trivial h
  | listDlqCandidates tenantId => exact absurd trivial h
  | listBatchCandidates tenantId => exact absurd trivial h
  | getCompensationPolicyGate tenantId => exact absurd trivial h
  | getIntentCompensationPolicyGate intentId tenantId => exact absurd trivial h
  | getOrchestrationCoordination tenantId => exact absurd trivial h
  | getIntentOrchestrationCoordination intentId tenantId => exact absurd trivial h
  | getOrchestrationRun runId tenantId => exact absurd trivial h
  | listForensicBundles tenantId limit => exact absurd trivial h

end Unscoped

/-- The answers depend on the tenant's records only exactly if the handler asks for these only. -/
theorem isolated_iff_scoped (c : ReadConfiguration) (claims : RlsTenantClaims)
    (request : ReadRequest) : Isolated c claims request ↔ Scoped c claims.tenantId request :=
  ⟨fun h => by_contra fun hscoped => not_isolated_of_not_scoped hscoped h, isolated_of_scoped⟩

/-- A node by its identifier, with transactions of the tenant or without. -/
theorem not_all_isolated : ¬ ∀ c claims request, Isolated c claims request := by
  intro h
  have hscoped : ¬ Scoped (.sqlx true) sampleClaims.tenantId (getGraphNode 7) := id
  exact not_isolated_of_not_scoped hscoped (h (.sqlx true) sampleClaims (getGraphNode 7))

end ReadRequest

end IntentRebase
