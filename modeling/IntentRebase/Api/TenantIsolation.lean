import IntentRebase.Api.ApprovalMutation
import IntentRebase.Api.ReviewRecords
import IntentRebase.Orchestrator.GraphMarks
import IntentRebase.Orchestrator.ReplayIsolation
import IntentRebase.Webhook.PropagationTruth

/-! What the handlers change that resolve approval requests, ask for new ones, apply a rebase and
start a replay: which records of other tenants than the token's. -/

namespace IntentRebase

open Kit

section Propagation

variable {ρ σ ι : Type} {view : ρ → PropagationView}

namespace DispatchCall

variable {call : DispatchCall ρ σ ι} (hown : OwnWrites call.repo view)
include hown

theorem recordOutcome_own (now : DateTime) (propagation : ρ) (recordId : Uuid)
    (answer : WebhookSendAnswer) : RecordsChangeOnlyOf call.tenantId (view propagation)
      (view (call.recordOutcome now propagation recordId answer)) := by
  match answer with
  | .ok .success => exact hown.recordDeliveryOutcome _ _ _ _ _ _
  | .ok (.nonRetryableFailure _) => exact hown.recordDeliveryOutcome _ _ _ _ _ _
  | .ok (.retryableFailure _) => exact .refl _ _
  | .ok (.rateLimited _) => exact .refl _ _
  | .error (.network _) => exact .refl _ _

theorem serve_own (env : DispatchEnv ι) (records : List PropagationRecord)
    (sub : WebhookSubscription) (s : DispatchStores ρ σ) :
    RecordsChangeOnlyOf call.tenantId (view s.propagation)
      (view (call.serve env records sub s).2.propagation) := by
  unfold serve
  split
  · exact .refl _ _
  · next record hrecord =>
    have hattempt := hown.recordDeliveryAttempt s.propagation env.attemptAt record.id call.tenantId
    split
    · next hanswer =>
      rw [hanswer] at hattempt
      exact hattempt
    · next hanswer =>
      rw [hanswer] at hattempt
      exact hattempt.trans (recordOutcome_own hown _ _ _ _)

theorem serveAll_own (records : List PropagationRecord) (env : Nat → DispatchEnv ι)
    (subs : List WebhookSubscription) (s : DispatchStores ρ σ) :
    RecordsChangeOnlyOf call.tenantId (view s.propagation)
      (view (call.serveAll records env subs s).2.propagation) := by
  induction subs generalizing env s with
  | nil => exact .refl _ _
  | cons sub subs ih =>
    exact (serve_own hown (env 0) records sub s).trans (ih (fun n => env (n + 1)) _)

theorem dispatch_own (s : DispatchStores ρ σ) :
    RecordsChangeOnlyOf call.tenantId (view s.propagation)
      (view (call.dispatchWebhooksForIntentWithOutbox s).2.propagation) := by
  unfold dispatchWebhooksForIntentWithOutbox
  split
  · exact .refl _ _
  · split
    · exact .refl _ _
    · exact serveAll_own hown _ _ _ _

end DispatchCall

theorem signalRecords_own {signals : PropagationSignals ρ} (hown : OwnWrites signals.repo view)
    (tenantId : Uuid) (toVersion : Int32) (n : Nat) (records : List PropagationRecord) (s : ρ) :
    RecordsChangeOnlyOf tenantId (view s)
      (view (signalRecords signals tenantId toVersion n records s)) := by
  induction records generalizing n s with
  | nil => exact .refl _ _
  | cons record rest ih =>
    exact (hown.updateStatus s (signals.clock n) record.id tenantId .pending toVersion).trans
      (ih (n + 1) _)

/-- The signals after an apply change propagation records of the intent's tenant only. -/
theorem createPropagationSignalsAfterApply_own {signals : Option (PropagationSignals ρ)}
    (hown : ∀ sig, signals = some sig → OwnWrites sig.repo view) (intentId tenantId : Uuid)
    (toVersion : Int32) (s : ρ) :
    RecordsChangeOnlyOf tenantId (view s)
      (view (createPropagationSignalsAfterApply signals intentId tenantId toVersion s)) := by
  unfold createPropagationSignalsAfterApply
  split
  · exact .refl _ _
  next sig =>
  have hrepo := hown sig rfl
  split
  · exact .refl _ _
  next records hlist =>
  split
  · exact .refl _ _
  have hsignalled := signalRecords_own hrepo tenantId toVersion 0 records s
  dsimp only
  split
  · exact hsignalled
  · next delivery hdelivery =>
    let call : DispatchCall ρ Unit Unit := {
      repo := sig.repo
      resolver := delivery.resolver
      tenantId
      intentId
      version := toVersion
      outboxRepo := none
      timeText := delivery.timeText
      env := delivery.env }
    have hcall : OwnWrites call.repo view := hrepo
    exact hsignalled.trans (DispatchCall.dispatch_own hcall _)

end Propagation

/-- The two repositories of the graph. -/
inductive GraphBackend where
  | inMemory
  | sqlx

namespace GraphBackend

abbrev Store : GraphBackend → Type
  | inMemory => GraphState
  | sqlx => SqlxGraphTables

/-- What a repository keeps besides the nodes. -/
abbrev Edges : GraphBackend → Type
  | inMemory => HashMap Uuid GraphEdge × HashMap Uuid (List Uuid) × HashMap Uuid (List Uuid)
  | sqlx => HashMap Uuid EdgeRow

/-- The service, whose transactions in SQL are those of a tenant. -/
def service (rlsTenantId : Uuid) : (b : GraphBackend) → GraphService b.Store
  | inMemory => InMemoryGraphRepository.service
  | sqlx => {
      toNodeAccess := (Connection.direct SqlxGraphTables).nodeAccess none
      asSqlxRepo := some ((Connection.direct SqlxGraphTables).nodeAccess (some rlsTenantId)) }

def node : (b : GraphBackend) → b.Store → Uuid → Option GraphNode
  | inMemory => fun s id => s.nodes.lookup id
  | sqlx => fun s => s.node none

def edges : (b : GraphBackend) → b.Store → b.Edges
  | inMemory => GraphState.besideNodes
  | sqlx => fun s => s.tables.edges

theorem nodeStore (b : GraphBackend) (rlsTenantId : Uuid) :
    NodeStore (b.service rlsTenantId).toNodeAccess b.node b.edges := by
  cases b with
  | inMemory => exact nodeStore_inMemory
  | sqlx => exact nodeStore_sqlx

/-- No node but the tenant's differs, and nothing else. -/
structure ChangesOnlyOf (b : GraphBackend) (tenantId : Uuid) (g g' : b.Store) : Prop where
  nodes : ViewChangesOnly (fun node : GraphNode => node.tenantId = tenantId) (b.node g) (b.node g')
  edges : b.edges g' = b.edges g

variable {b : GraphBackend} {tenantId : Uuid}

theorem ChangesOnlyOf.refl (g : b.Store) : b.ChangesOnlyOf tenantId g g := ⟨.refl _ _, rfl⟩

theorem ChangesOnlyOf.of_eq {g g' : b.Store} (h : g' = g) : b.ChangesOnlyOf tenantId g g' := by
  rw [h]
  exact .refl g

theorem ChangesOnlyOf.trans (g g' g'' : b.Store) (h : b.ChangesOnlyOf tenantId g g')
    (h' : b.ChangesOnlyOf tenantId g' g'') : b.ChangesOnlyOf tenantId g g'' :=
  ⟨h.nodes.trans h'.nodes, h'.edges.trans h.edges⟩

variable {o : RebaseOrchestrator b.Store} (hservice : o.graphService = b.service tenantId)
  (items : AffectedItemsPreview) (intentId ownerId : Uuid) (intentVersion : Int) (g : b.Store)
include hservice

/-- Outside a transaction, an update changes the tenant's nodes only, unless the plan lists an
active node of another tenant. -/
theorem updateGraphState_changesOnly_iff :
    b.ChangesOnlyOf tenantId g
        ((o.updateGraphState items intentId ownerId intentVersion).on g).2 ↔
      ∀ id ∈ items.stale.map AffectedItem.nodeId, ∀ node, b.node g id = some node →
        node.state = .active → node.tenantId = tenantId := by
  have hstore : NodeStore o.graphService.toNodeAccess b.node b.edges := by
    rw [hservice]
    exact b.nodeStore tenantId
  obtain ⟨results, g', hrun, hplanned⟩ :=
    hstore.updateGraphState_on items intentId ownerId intentVersion g
  rw [hrun]
  constructor
  · intro hchanges id hid node hnode hactive
    by_contra hforeign
    have hstale := hplanned.stale id hid node hnode hactive
    have hsame := Option.some.inj ((hchanges.nodes.kept hnode hforeign).symm.trans hstale)
    rw [hsame] at hactive
    cases hactive
  · intro howned
    refine ⟨fun id => ?_, hplanned.rest⟩
    by_cases hlisted : id ∈ items.stale.map AffectedItem.nodeId ∧
        ∃ node, b.node g id = some node ∧ node.state = .active
    · obtain ⟨hid, node, hnode, hactive⟩ := hlisted
      have howner := howned id hid node hnode hactive
      refine .inr ⟨fun v hv => ?_, fun v hv => ?_⟩
      · cases hnode.symm.trans hv
        exact howner
      · cases (hplanned.stale id hid node hnode hactive).symm.trans hv
        exact howner
    · refine .inl (hplanned.kept id ?_)
      by_cases hid : id ∈ items.stale.map AffectedItem.nodeId
      · exact .inr fun node hnode hactive => hlisted ⟨hid, node, hnode, hactive⟩
      · exact .inl hid

/-- In a transaction of the tenant, an update changes the tenant's nodes only; in memory there is no
such transaction, and nothing is changed. -/
theorem updateGraphStateWithTx_changesOnly :
    b.ChangesOnlyOf tenantId g
      ((o.updateGraphStateWithTx items intentId ownerId intentVersion).on g).2 := by
  rw [RebaseOrchestrator.updateGraphStateWithTx_marks]
  cases b with
  | inMemory =>
    have hnothing : Effect.Relates (fun g g' : GraphState => g' = g)
        ((items.marks intentId intentVersion).mapM fun mark =>
          GraphUpdater.updateNodeStateIfAffectedWithTx o.graphService mark.1 .stale mark.2) := by
      refine Effect.relates_mapM ?_ ?_ (fun mark => ?_) _
      · exact fun _ => rfl
      · exact fun _ _ _ hfirst hsecond => hsecond.trans hfirst
      · rw [GraphUpdater.updateNodeStateIfAffectedWithTx, hservice]
        exact fun _ => rfl
    rw [hnothing g]
    exact .refl g
  | sqlx =>
    let session : GraphService SqlxGraphTables := {
      toNodeAccess := (Connection.direct SqlxGraphTables).nodeAccess (some tenantId)
      asSqlxRepo := none }
    have hplain (mark : Uuid × String) :
        GraphUpdater.updateNodeStateIfAffectedWithTx o.graphService mark.1 .stale mark.2 =
          GraphUpdater.updateNodeStateIfAffected session mark.1 .stale mark.2 := by
      rw [GraphUpdater.updateNodeStateIfAffectedWithTx, hservice]
      rfl
    have hstore : NodeStore session.toNodeAccess (fun s => s.node (some tenantId))
        (fun s => (s.tables.edges, s.unseen (some tenantId))) := nodeStore_session (some tenantId)
    obtain ⟨results, g', hrun, hrest, -, -⟩ :=
      hstore.mapM_on .stale (items.marks intentId intentVersion) g
    rw [funext hplain, hrun]
    obtain ⟨hedges, hunseen⟩ := Prod.mk.inj hrest
    refine ⟨.of_others (fun node hseen => ?_) fun id => congrFun hunseen id, hedges⟩
    simpa [SqlxGraphRepository.visible] using hseen

/-- So does one that is committed at its end. -/
theorem inWriteTransaction_changesOnly (commitFault : Option (Fault String)) :
    b.ChangesOnlyOf tenantId g ((inWriteTransaction commitFault
      (o.updateGraphStateWithTx items intentId ownerId intentVersion)).on g).2 := by
  have hchanges := updateGraphStateWithTx_changesOnly hservice items intentId ownerId intentVersion
    g
  rw [inWriteTransaction_run]
  cases hcall : (o.updateGraphStateWithTx items intentId ownerId intentVersion).on g with
  | mk answer g' =>
    rw [hcall] at hchanges
    cases answer with
    | error e => exact .refl g
    | ok updates =>
      have hkept : b.ChangesOnlyOf tenantId g (Fault.meet commitFault g
          ((.ok (), g') : Except String Unit × b.Store)).2 :=
        Fault.meet_keeps commitFault (p := b.ChangesOnlyOf tenantId g) (.refl g) hchanges
      dsimp only
      split <;> next hcommit =>
        rw [hcommit] at hkept
        exact hkept

end GraphBackend

section Approvals

/-- What may be cancelled of a tenant's requests is a change of that tenant's. -/
theorem MayCancel.changesOnly {selected : ApprovalRequest → Prop} {tenantId : Uuid}
    {before after : HashMap Uuid ApprovalRequest} (h : MayCancel selected before after)
    (hselected : ∀ request, selected request → request.tenantId = tenantId) :
    ChangesOnly (fun request => request.tenantId = tenantId) before after := by
  intro id
  rcases h id with hsame | ⟨request, now, cancelledBy, reason, hlookup, howned, hafter⟩
  · exact .inl hsame
  · refine .inr ⟨fun v hv => ?_, fun v hv => ?_⟩
    · cases hlookup.symm.trans hv
      exact hselected request howned
    · cases hafter.symm.trans hv
      exact hselected request howned

variable {new : ApprovalRequest} {before after : HashMap Uuid ApprovalRequest}

theorem changesOnly_of_inserted (hfresh : before.lookup new.id = none)
    (h : MayCancel (ApprovalStorage.ApprovedOf new.tenantId) (before.insert new.id new) after) :
    ChangesOnly (fun request => request.tenantId = new.tenantId) before after := by
  refine .trans (.insert (fun v hv => ?_) rfl) (h.changesOnly fun _ howned => howned.1)
  cases hfresh.symm.trans hv

/-- A review that is asked for under a new identifier changes requests of its tenant only. -/
theorem Asked.changesOnly (h : Asked new before after) (hfresh : before.lookup new.id = none) :
    ChangesOnly (fun request => request.tenantId = new.tenantId) before after := by
  rcases h with h | h
  · exact h.changesOnly fun _ howned => howned.1
  · exact changesOnly_of_inserted hfresh h

variable {run : TriggerReapprovalRun} {request : TriggerReapprovalRequest} {intent : Intent}
  {s : ApprovalStorage} (hfresh : s.requests.lookup run.id = none)
include hfresh

theorem createAndSupersede_changesOnly :
    s.ChangesOnlyOf intent.tenantId ((createAndSupersede run request intent).on s).2 := by
  have hcreate : s.ChangesOnlyOf intent.tenantId (Fault.meet run.createFault s
      (s.createApprovalRequest (reapprovalRequest run request intent))).2 := by
    refine Fault.meet_keeps run.createFault (p := s.ChangesOnlyOf intent.tenantId)
      (ChangesOnly.refl _ _) ?_
    let new := reapprovalRequest run request intent
    obtain ⟨s', hcreated⟩ : ∃ s', s.createApprovalRequest new = (.ok new, s') :=
      ApprovalStorage.createApprovalRequest_fresh hfresh
    have hinserted : ChangesOnly (fun r => r.tenantId = new.tenantId) s.requests
        (s.requests.insert new.id new) := changesOnly_of_inserted hfresh (.refl _ _)
    rw [hcreated, ApprovalStorage.ChangesOnlyOf,
      (ApprovalStorage.createApprovalRequest_ok hcreated).2]
    exact hinserted
  change s.ChangesOnlyOf intent.tenantId (createAndSupersede run request intent s).2
  unfold createAndSupersede
  split
  · next hanswer =>
    rw [hanswer] at hcreate
    exact hcreate
  · next created s' hanswer =>
    rw [hanswer] at hcreate
    refine hcreate.trans ?_
    exact (cancelExistingApprovedAndAudit_mayCancel run.cancelFault run.cancelledAt s'
      request.intentId intent.tenantId triggerReapprovalActor created.id).changesOnly
        fun _ howned => howned.1

/-- A reapproval of an intent of the token's tenant changes requests of that tenant only. -/
theorem reapprove_changesOnly {state : TriggerReapprovalState} {rlsClaims : RlsTenantClaims}
    (htenant : rlsClaims.tenantId = intent.tenantId) :
    s.ChangesOnlyOf intent.tenantId
      ((reapprove state run request (some rlsClaims) intent).on s).2 := by
  have hplain : s.ChangesOnlyOf intent.tenantId ((createAndSupersede run request intent).on s).2 :=
    createAndSupersede_changesOnly hfresh
  change s.ChangesOnlyOf intent.tenantId (reapprove state run request (some rlsClaims) intent s).2
  cases s with
  | inMemory repo => exact hplain
  | sqlx repo =>
    unfold reapprove
    dsimp only
    split
    · have hstate := inTenant_state rlsClaims.tenantId run.beginFault run.commitFault
        (reapproveWithTx run request rlsClaims.tenantId intent) repo
      have hchanges : ChangesOnly (fun r : ApprovalRequest => r.tenantId = intent.tenantId)
          repo.rows (inTenant rlsClaims.tenantId run.beginFault run.commitFault
            (reapproveWithTx run request rlsClaims.tenantId intent) repo).2.rows := by
        rcases hstate with hsame | ⟨created, tx, hbody, -, hwork⟩
        · rw [hsame]
          exact .refl _ _
        · rw [htenant] at hbody
          obtain ⟨rfl, -, hreapproved⟩ := reapproveWithTx_ok hbody
          rw [hwork]
          exact changesOnly_of_inserted hfresh hreapproved.cancelled
      split <;> next hrun =>
        rw [hrun] at hchanges
        exact hchanges
    · exact hplain

/-- A call that asks for a reapproval changes requests of the token's tenant only. -/
theorem triggerReapproval_changesOnly (state : TriggerReapprovalState)
    (rlsClaims : RlsTenantClaims) :
    s.ChangesOnlyOf rlsClaims.tenantId
      ((triggerReapproval state run request (some rlsClaims)).on s).2 := by
  rw [triggerReapproval, Effect.on_bind, Effect.on_lift]
  cases hhead : reapprovalHead state request (some rlsClaims) with
  | error e => exact ChangesOnly.refl _ _
  | ok intentHead =>
    have htenant := (reapprovalHead_ok hhead).2 rlsClaims rfl
    dsimp only
    rw [Effect.on_bind_pure_snd, htenant]
    exact reapprove_changesOnly hfresh htenant

end Approvals

section Rebase

variable {b : GraphBackend} {backend : PropagationBackend} {tenantId : Uuid}

/-- What an apply leaves of the graph: what its update of it leaves, if the guard lets the plan
proceed and it is aligned; and else what was there. -/
theorem applyRebase_graph {γ : Type} (o : RebaseOrchestrator γ) (now : DateTime)
    (intentId ownerId workflowId : Uuid) (fromVersion toVersion : IntentVersion)
    (plan : RebasePlan) (items : AffectedItemsPreview) (w : World γ) :
    ((∃ notification aligned, o.evaluateApply plan = .proceed notification ∧
        CheckpointAligner.align o.checkpointService plan intentId ownerId workflowId =
          .ok aligned) ∧
      ((o.applyRebase now intentId ownerId workflowId fromVersion toVersion plan items).on
        w).2.graph =
        ((o.updateGraphState items intentId ownerId toVersion.versionNumber).on w.graph).2) ∨
    ((¬ ∃ notification aligned, o.evaluateApply plan = .proceed notification ∧
        CheckpointAligner.align o.checkpointService plan intentId ownerId workflowId =
          .ok aligned) ∧
      ((o.applyRebase now intentId ownerId workflowId fromVersion toVersion plan items).on
        w).2.graph = w.graph) := by
  unfold RebaseOrchestrator.applyRebase RebaseOrchestrator.evaluateApply
  cases o.applyPipeline.evaluate plan.riskTier plan.decisionClass with
  | noOp => exact .inr ⟨fun ⟨_, _, h, _⟩ => (by cases h), rfl⟩
  | blocked reason => exact .inr ⟨fun ⟨_, _, h, _⟩ => (by cases h), rfl⟩
  | proceed notification =>
    dsimp only
    rw [Effect.on_bind, Effect.on_lift]
    cases CheckpointAligner.align o.checkpointService plan intentId ownerId workflowId with
    | error e => exact .inr ⟨fun ⟨_, _, _, h⟩ => (by cases h), rfl⟩
    | ok aligned =>
      refine .inl ⟨⟨notification, aligned, rfl, rfl⟩, ?_⟩
      dsimp only
      rw [Effect.on_bind, World.onGraph, Effect.on_within]
      cases (o.updateGraphState items intentId ownerId toVersion.versionNumber).on w.graph with
      | mk answer graph =>
        cases answer with
        | error e => rfl
        | ok graphUpdates =>
          dsimp only
          obtain ⟨result, sent, hsend, -⟩ := o.sendRuntimeRebaseSignal_on now intentId ownerId
            workflowId aligned { w with graph }
          rw [Effect.on_bind_ok (Effect.on_attempt _ _), hsend]
          rfl

variable {state : RebaseApplyState b.Store backend.Store}
  (hservice : state.orchestrator.graphService = b.service tenantId)
include hservice

/-- In transactions of the tenant, a rebase that proceeds changes the tenant's nodes only. -/
theorem proceedInTransactions_changesOnly (run : RebaseApplyRun) (intentId : Uuid)
    (rlsClaims : RlsTenantClaims) (intent : Intent) (toVersion : IntentVersion) (plan : RebasePlan)
    (notification : Bool) :
    Effect.Relates (fun w w' : World b.Store => b.ChangesOnlyOf tenantId w.graph w'.graph)
      (proceedInTransactions state run intentId rlsClaims intent toVersion plan notification) := by
  have hrefl (w : World b.Store) : b.ChangesOnlyOf tenantId w.graph w.graph := .refl _
  have htrans (w w' w'' : World b.Store) (h : b.ChangesOnlyOf tenantId w.graph w'.graph)
      (h' : b.ChangesOnlyOf tenantId w'.graph w''.graph) :
      b.ChangesOnlyOf tenantId w.graph w''.graph := h.trans _ _ _ h'
  have hwrite : Effect.Relates
      (fun w w' : World b.Store => b.ChangesOnlyOf tenantId w.graph w'.graph)
      (World.onGraph (inWriteTransaction run.proceedFaults.writeCommitFault
        (state.orchestrator.updateGraphStateWithTx plan.affectedItems intentId intent.tenantId
          toVersion.versionNumber))) := by
    intro w
    rw [World.onGraph, Effect.on_within]
    exact GraphBackend.inWriteTransaction_changesOnly hservice _ _ _ _ _ _
  have hsignal (aligned : AlignedCheckpoint) : Effect.Relates
      (fun w w' : World b.Store => b.ChangesOnlyOf tenantId w.graph w'.graph)
      ((state.orchestrator.sendRuntimeRebaseSignal run.now intentId intent.tenantId
        intent.workflowId aligned).attempt : Effect _ IntentRebaseError _) := by
    intro w
    obtain ⟨result, sent, hsend, -⟩ := state.orchestrator.sendRuntimeRebaseSignal_on run.now
      intentId intent.tenantId intent.workflowId aligned w
    rw [Effect.on_attempt, hsend]
    exact .refl _
  unfold proceedInTransactions proceedWith
  refine (Effect.relates_lift hrefl _).bind htrans fun _ => ?_
  refine (Effect.relates_lift hrefl _).bind htrans fun aligned => ?_
  cases run.proceedFaults.readCommitFault with
  | some e => exact hrefl
  | none =>
    refine (Effect.relates_lift hrefl _).bind htrans fun _ => ?_
    refine hwrite.bind htrans fun graphUpdates => ?_
    exact (hsignal aligned).bind htrans fun _ => hrefl

omit hservice in
/-- An apply without a pool proceeds over a plan that lists an active node of another tenant. -/
def MarksForeign (state : RebaseApplyState b.Store backend.Store) (tenantId intentId : Uuid)
    (intent : Intent) (plan : RebasePlan) (g : b.Store) : Prop :=
  state.rlsPool = false ∧
    (∃ notification aligned, state.orchestrator.evaluateApply plan = .proceed notification ∧
      CheckpointAligner.align state.orchestrator.checkpointService plan intentId intent.tenantId
        intent.workflowId = .ok aligned) ∧
    ∃ id ∈ plan.affectedItems.stale.map AffectedItem.nodeId, ∃ node, b.node g id = some node ∧
      node.state = .active ∧ node.tenantId ≠ tenantId

theorem applyPlan_changesOnly_iff (run : RebaseApplyRun) (intentId : Uuid)
    (rlsClaims : RlsTenantClaims) (intent : Intent) (fromVersion toVersion : IntentVersion)
    (plan : RebasePlan) (w : World b.Store) :
    b.ChangesOnlyOf tenantId w.graph ((applyPlan state run intentId (some rlsClaims) intent
        fromVersion toVersion plan).on w).2.graph ↔
      ¬ MarksForeign state tenantId intentId intent plan w.graph := by
  have hplain := applyRebase_graph state.orchestrator run.now intentId intent.tenantId
    intent.workflowId fromVersion toVersion plan plan.affectedItems w
  unfold applyPlan MarksForeign
  dsimp only
  cases hpool : state.rlsPool with
  | true =>
    refine iff_of_true ?_ fun hforeign => (by cases hforeign.1)
    rw [if_pos rfl]
    have hstill (hnot : ∀ notification,
        state.orchestrator.evaluateApply plan ≠ .proceed notification) :
        b.ChangesOnlyOf tenantId w.graph ((state.orchestrator.applyRebase run.now intentId
          intent.tenantId intent.workflowId fromVersion toVersion plan plan.affectedItems).on
            w).2.graph := by
      rcases hplain with ⟨⟨notification, _, hproceed, _⟩, _⟩ | ⟨_, hgraph⟩
      · exact absurd hproceed (hnot notification)
      · rw [hgraph]
        exact .refl _
    cases hdecision : state.orchestrator.evaluateApply plan with
    | noOp => exact hstill fun _ h => (by cases hdecision.symm.trans h)
    | blocked reason => exact hstill fun _ h => (by cases hdecision.symm.trans h)
    | proceed notification =>
      exact proceedInTransactions_changesOnly hservice run intentId rlsClaims intent toVersion plan
        notification w
  | false =>
    rw [if_neg Bool.false_ne_true]
    rcases hplain with ⟨hproceeds, hgraph⟩ | ⟨hnot, hgraph⟩
    · rw [hgraph, GraphBackend.updateGraphState_changesOnly_iff hservice]
      constructor
      · rintro howned ⟨-, -, id, hid, node, hnode, hactive, hforeign⟩
        exact hforeign (howned id hid node hnode hactive)
      · intro hnone id hid node hnode hactive
        by_contra hforeign
        exact hnone ⟨rfl, hproceeds, id, hid, node, hnode, hactive, hforeign⟩
    · rw [hgraph]
      exact iff_of_true (.refl _) fun hforeign => hnot hforeign.2.1

omit hservice in
/-- What follows the application of a plan leaves the world of the orchestrator. -/
theorem appliedOutcome_world {parseStr : String → Except String Uuid} {run : RebaseApplyRun}
    {intentId : Uuid} {request : DiffRequest} {claims : Option RlsTenantClaims}
    {intentHead : IntentHeadResponse} {fromVersion toVersion : IntentVersion} {plan : RebasePlan}
    {w : RebaseApplyWorld b.Store backend.Store} :
    (appliedOutcome parseStr state run intentId request claims w intentHead fromVersion toVersion
      plan).2.world =
      ((applyPlan state run intentId claims intentHead.intent fromVersion toVersion plan).on
        w.world).2 := by
  unfold appliedOutcome
  split
  · next happlied =>
    rw [happlied]
    unfold afterApply
    split <;> rfl
  · next happlied => rw [happlied]

/-- No record of another tenant differs. -/
structure RebaseApplyWorld.ChangesOnlyOf (b : GraphBackend) (backend : PropagationBackend)
    (tenantId : Uuid) (w w' : RebaseApplyWorld b.Store backend.Store) : Prop where
  graph : b.ChangesOnlyOf tenantId w.world.graph w'.world.graph
  approvals : w.approvals.ChangesOnlyOf tenantId w'.approvals
  propagation : RecordsChangeOnlyOf tenantId (backend.view w.propagation)
    (backend.view w'.propagation)

omit hservice in
/-- What follows an apply changes records of the intent's tenant only, and nothing of the graph. -/
theorem afterApply_changesOnly {parseStr : String → Except String Uuid} {run : RebaseApplyRun}
    {intentId : Uuid} {request : DiffRequest} {claims : Option RlsTenantClaims} {intent : Intent}
    {toVersion : IntentVersion} {plan : RebasePlan}
    (hsignals : ∀ signals, state.signals = some signals → OwnWrites signals.repo backend.view)
    (w : RebaseApplyWorld b.Store backend.Store)
    (hfresh : w.approvals.requests.lookup run.draws.id = none) (applyResult : RebaseApplyResult) :
    RebaseApplyWorld.ChangesOnlyOf b backend intent.tenantId w
      (afterApply parseStr state run intentId request claims intent toVersion plan applyResult w)
      := by
  have hsignalled : RebaseApplyWorld.ChangesOnlyOf b backend intent.tenantId w
      { w with
        propagation := createPropagationSignalsAfterApply state.signals intentId intent.tenantId
          (Int32.ofInt toVersion.versionNumber) w.propagation } :=
    ⟨.refl _, ChangesOnly.refl _ _, createPropagationSignalsAfterApply_own hsignals _ _ _ _⟩
  unfold afterApply
  split
  · exact ⟨.refl _, ChangesOnly.refl _ _, .refl _ _⟩
  · exact hsignalled
  · exact hsignalled
  · let new := reviewRequest run intentId request intent plan applyResult
    have hasked : Asked new w.approvals.requests (requestReview parseStr run.approvalFaults
        run.draws plan intentId intent.tenantId state.rlsPool claims new w.approvals).requests :=
      requestReview_asked parseStr run.approvalFaults run.draws plan intentId intent.tenantId
        state.rlsPool claims rfl rfl w.approvals
    exact ⟨.refl _, hasked.changesOnly hfresh, .refl _ _⟩

/-- With claims, an apply changes records of their tenant only, except where without a pool it marks
an active node of another one. -/
theorem rebaseApply_changesOnly_iff (parseStr : String → Except String Uuid)
    {run : RebaseApplyRun} (intentId : Uuid) (request : DiffRequest) {rlsClaims : RlsTenantClaims}
    (htenant : rlsClaims.tenantId = tenantId)
    (hsignals : ∀ signals, state.signals = some signals → OwnWrites signals.repo backend.view)
    {w : RebaseApplyWorld b.Store backend.Store}
    (hfresh : w.approvals.requests.lookup run.draws.id = none) :
    RebaseApplyWorld.ChangesOnlyOf b backend tenantId w
        ((rebaseApply parseStr state run intentId request (some rlsClaims)).on w).2 ↔
      ∀ intentHead fromVersion toVersion plan,
        PlannedApply state intentId request (some rlsClaims) w.world.graph intentHead fromVersion
          toVersion plan →
        ¬ MarksForeign state tenantId intentId intentHead.intent plan w.world.graph := by
  constructor
  · intro hchanges intentHead fromVersion toVersion plan hplanned
    have hgraph := hchanges.graph
    rw [rebaseApply_planned hplanned, appliedOutcome_world] at hgraph
    exact (applyPlan_changesOnly_iff hservice run intentId rlsClaims intentHead.intent fromVersion
      toVersion plan w.world).mp hgraph
  · intro hnone
    rcases rebaseApply_refused_or_planned parseStr state run intentId request (some rlsClaims) w
      with ⟨e, hrefused⟩ | ⟨intentHead, fromVersion, toVersion, plan, hplanned⟩
    · rw [hrefused]
      exact ⟨.refl _, ChangesOnly.refl _ _, .refl _ _⟩
    · have hgraph := (applyPlan_changesOnly_iff hservice run intentId rlsClaims intentHead.intent
        fromVersion toVersion plan w.world).mpr (hnone _ _ _ _ hplanned)
      rw [rebaseApply_planned hplanned, appliedOutcome]
      cases happlied : (applyPlan state run intentId (some rlsClaims) intentHead.intent fromVersion
          toVersion plan).on w.world with
      | mk answer world =>
        rw [happlied] at hgraph
        cases answer with
        | error e => exact ⟨hgraph, ChangesOnly.refl _ _, .refl _ _⟩
        | ok applyResult =>
          obtain rfl : tenantId = intentHead.intent.tenantId :=
            htenant.symm.trans (hplanned.tenant rlsClaims rfl)
          have hafter : RebaseApplyWorld.ChangesOnlyOf b backend intentHead.intent.tenantId
              { w with world } (afterApply parseStr state run intentId request (some rlsClaims)
                intentHead.intent toVersion plan applyResult { w with world }) :=
            afterApply_changesOnly hsignals { w with world } hfresh applyResult
          exact ⟨hgraph.trans _ _ _ hafter.graph, hafter.approvals, hafter.propagation⟩

end Rebase

section Replays

variable {γ : Type}

/-- A replay writes nothing of the graph. -/
theorem replay_graph (o : RebaseOrchestrator γ) (params : ReplayParams) (w : World γ) :
    ((o.replay params).on w).2.graph = w.graph := by
  cases hcheckpoint : o.replayCheckpoint params with
  | error e => rw [RebaseOrchestrator.replay_error o params w hcheckpoint]
  | ok aligned =>
    obtain ⟨result, handed, hon, -⟩ := RebaseOrchestrator.replay_resolved o params w hcheckpoint
    rw [hon]

theorem replayWithTx_graph (o : RebaseOrchestrator γ) (params : ReplayParams) (w : World γ) :
    ((o.replayWithTx params).on w).2.graph = w.graph := by
  cases hsql : o.checkpointService.asSqlxRepo with
  | none =>
    rw [RebaseOrchestrator.replayWithTx, hsql]
    rfl
  | some sqlRepo =>
    have hplain : o.replayWithTx params =
        { o with checkpointService := ⟨sqlRepo, none⟩ }.replay params := by
      rw [RebaseOrchestrator.replayWithTx, hsql]
      rfl
    rw [hplain, replay_graph]

/-- The graph is as it was, and what was handed over or recorded is the tenant's. -/
structure ReplayWorld.ReplaysOnlyOf (tenantId : Uuid) (w w' : ReplayWorld γ) : Prop where
  graph : w'.world.graph = w.world.graph
  requested : ∃ more, w'.requested = w.requested ++ more ∧
    ∀ params ∈ more, params.tenantId = tenantId
  initiated : ∃ more, w'.initiated = w.initiated ++ more ∧ ∀ event ∈ more, event.tenantId = tenantId

namespace ReplayWorld.ReplaysOnlyOf

variable {tenantId : Uuid}

theorem refl (w : ReplayWorld γ) : w.ReplaysOnlyOf tenantId w :=
  ⟨rfl, ⟨[], by simp⟩, ⟨[], by simp⟩⟩

theorem trans (w w' w'' : ReplayWorld γ) (h : w.ReplaysOnlyOf tenantId w')
    (h' : w'.ReplaysOnlyOf tenantId w'') : w.ReplaysOnlyOf tenantId w'' := by
  obtain ⟨requested, hrequested, hparams⟩ := h.requested
  obtain ⟨requested', hrequested', hparams'⟩ := h'.requested
  obtain ⟨initiated, hinitiated, hevents⟩ := h.initiated
  obtain ⟨initiated', hinitiated', hevents'⟩ := h'.initiated
  refine ⟨h'.graph.trans h.graph, ⟨requested ++ requested', ?_, ?_⟩,
    ⟨initiated ++ initiated', ?_, ?_⟩⟩
  · rw [hrequested', hrequested, List.append_assoc]
  · exact List.forall_mem_append.mpr ⟨hparams, hparams'⟩
  · rw [hinitiated', hinitiated, List.append_assoc]
  · exact List.forall_mem_append.mpr ⟨hevents, hevents'⟩

end ReplayWorld.ReplaysOnlyOf

section Handler

variable {state : ReplayState γ} (faults : ReplayFaults) (intentId : Uuid) {tenantId : Uuid}
  {params : ReplayParams} (hparams : params.tenantId = tenantId)
include hparams

theorem handReplay_own {call : Effect (World γ) IntentRebaseError ReplayResult}
    (hgraph : ∀ w, (call.on w).2.graph = w.graph) :
    Effect.Relates (ReplayWorld.ReplaysOnlyOf tenantId) (handReplay params call) := by
  intro w
  rw [handReplay, Effect.on_bind_ok (Effect.on_modify w _), Effect.on_within]
  exact ⟨hgraph w.world, ⟨[params], rfl, List.forall_mem_singleton.mpr hparams⟩, ⟨[], by simp⟩⟩

theorem finishReplay_own (replayResult : ReplayResult) :
    Effect.Relates (ReplayWorld.ReplaysOnlyOf tenantId)
      (finishReplay (γ := γ) faults intentId params replayResult) := by
  have hrecord : Effect.Relates (ReplayWorld.ReplaysOnlyOf (γ := γ) tenantId)
      (recordReplayInitiated faults intentId params replayResult) := by
    intro w
    change w.ReplaysOnlyOf tenantId (Fault.meet faults.auditFault w _).2
    refine Fault.meet_keeps faults.auditFault (p := w.ReplaysOnlyOf tenantId) (.refl w) ?_
    exact ⟨rfl, ⟨[], by simp⟩, ⟨_, rfl, List.forall_mem_singleton.mpr hparams⟩⟩
  exact hrecord.bind ReplayWorld.ReplaysOnlyOf.trans fun _ => .refl

theorem replayInTransaction_own (rlsTenantId : Uuid) :
    Effect.Relates (ReplayWorld.ReplaysOnlyOf tenantId)
      (replayInTransaction state faults rlsTenantId params) := by
  have hhand := handReplay_own hparams (replayWithTx_graph state.orchestrator params)
  unfold replayInTransaction
  cases validateTenantIdForRls rlsTenantId with
  | error e => exact .refl
  | ok _ =>
    cases faults.beginFault with
    | some e => exact .refl
    | none =>
      refine hhand.bind ReplayWorld.ReplaysOnlyOf.trans fun replayResult => ?_
      cases faults.commitFault with
      | some e => exact .refl
      | none => exact .refl

end Handler

/-- With claims, a replay is one of an intent of their tenant. -/
theorem replayIntent_own (state : ReplayState γ) (faults : ReplayFaults) (intentId : Uuid)
    (request : ReplayRequest) (rlsClaims : RlsTenantClaims) :
    Effect.Relates (ReplayWorld.ReplaysOnlyOf rlsClaims.tenantId)
      (replayIntent state faults intentId request (some rlsClaims)) := by
  unfold replayIntent
  dsimp only
  refine Effect.Relates.bind ReplayWorld.ReplaysOnlyOf.trans
    (Effect.relates_lift .refl _) fun intentHead => ?_
  by_cases htenant : intentHead.intent.tenantId = rlsClaims.tenantId
  · rw [if_neg (not_not.mpr htenant)]
    have hparams : (replayParams intentId request intentHead).tenantId = rlsClaims.tenantId :=
      htenant
    have hfinish {call : Effect (ReplayWorld γ) IntentRebaseError ReplayResult}
        (hcall : Effect.Relates (ReplayWorld.ReplaysOnlyOf rlsClaims.tenantId) call) :=
      hcall.bind ReplayWorld.ReplaysOnlyOf.trans fun replayResult =>
        finishReplay_own faults intentId hparams replayResult
    split
    · exact hfinish (replayInTransaction_own faults hparams _)
    · exact hfinish (handReplay_own hparams (replay_graph _ _))
  · rw [if_pos htenant]
    exact .refl

end Replays

section Mutations

variable {γ ρ : Type}

/-- What the handlers use of the state of the application. -/
structure TenantHandlers (γ ρ : Type) extends RebaseApplyState γ ρ where
  parseStr : String → Except String Uuid

/-- What the handlers change: the world of the orchestrator, the approval requests, the propagation
records, and what was handed over and recorded of replays. -/
structure TenantWorld (γ ρ : Type) extends RebaseApplyWorld γ ρ where
  requested : List ReplayParams
  initiated : List ReplayInitiated

/-- The calls of the handlers. -/
inductive TenantMutation where
  | approve (run : ApprovalMutationRun) (approvalRequestId : Uuid)
      (resolutionNotes : Option String)
  | reject (run : ApprovalMutationRun) (approvalRequestId : Uuid)
      (resolutionNotes : Option String)
  | expire (run : ApprovalMutationRun) (approvalRequestId : Uuid) (reason : Option String)
  | triggerReapproval (run : TriggerReapprovalRun) (request : TriggerReapprovalRequest)
  | rebaseApply (run : RebaseApplyRun) (intentId : Uuid) (request : DiffRequest)
  | replayIntent (faults : ReplayFaults) (intentId : Uuid) (request : ReplayRequest)

/-- The error of a call, if it has one, and what it leaves. -/
def outcomeOf {σ α τ : Type} (call : Effect σ IntentRebaseError α) (s : σ) (put : σ → τ) :
    Option IntentRebaseError × τ :=
  (match (call.on s).1 with | .ok _ => none | .error e => some e, put (call.on s).2)

namespace TenantMutation

/-- A call with the claims of a tenant. -/
def run (state : TenantHandlers γ ρ) (rlsClaims : RlsTenantClaims) (w : TenantWorld γ ρ) :
    TenantMutation → Option IntentRebaseError × TenantWorld γ ρ
  | approve run approvalRequestId resolutionNotes =>
    outcomeOf (approveApprovalRequest state.rlsPool run (some rlsClaims) approvalRequestId
      resolutionNotes) w.approvals fun approvals => { w with approvals }
  | reject run approvalRequestId resolutionNotes =>
    outcomeOf (rejectApprovalRequest state.rlsPool run (some rlsClaims) approvalRequestId
      resolutionNotes) w.approvals fun approvals => { w with approvals }
  | expire run approvalRequestId reason =>
    outcomeOf (expireApprovalRequest state.rlsPool run (some rlsClaims) approvalRequestId reason)
      w.approvals fun approvals => { w with approvals }
  | triggerReapproval run request =>
    outcomeOf (IntentRebase.triggerReapproval ⟨state.service, state.rlsPool⟩ run request
      (some rlsClaims)) w.approvals fun approvals => { w with approvals }
  | rebaseApply run intentId request =>
    outcomeOf (IntentRebase.rebaseApply state.parseStr state.toRebaseApplyState run intentId
      request (some rlsClaims)) w.toRebaseApplyWorld fun applied =>
        { w with toRebaseApplyWorld := applied }
  | replayIntent faults intentId request =>
    outcomeOf (IntentRebase.replayIntent ⟨state.service, state.orchestrator, state.rlsPool⟩ faults
      intentId request (some rlsClaims)) ⟨w.world, w.requested, w.initiated⟩ fun replayed =>
        { w with
          world := replayed.world
          requested := replayed.requested
          initiated := replayed.initiated }

/-- The identifiers that are drawn for new requests are not in use. -/
def DrawsUnused (w : TenantWorld γ ρ) : TenantMutation → Prop
  | triggerReapproval run _ => w.approvals.requests.lookup run.id = none
  | rebaseApply run _ _ => w.approvals.requests.lookup run.draws.id = none
  | _ => True

/-- The call meets a record of another tenant, and no comparison: a pending request that it resolves
without a pool, or an active node that it marks without one. -/
def ReachesForeign {b : GraphBackend} {backend : PropagationBackend}
    (state : TenantHandlers b.Store backend.Store) (rlsClaims : RlsTenantClaims)
    (w : TenantWorld b.Store backend.Store) : TenantMutation → Prop
  | approve run approvalRequestId _ | reject run approvalRequestId _
  | expire run approvalRequestId _ =>
    ResolvesForeign state.rlsPool run rlsClaims.tenantId approvalRequestId w.approvals
  | triggerReapproval _ _ | replayIntent _ _ _ => False
  | rebaseApply _ intentId request => ∃ intentHead fromVersion toVersion plan,
      PlannedApply state.toRebaseApplyState intentId request (some rlsClaims) w.world.graph
        intentHead fromVersion toVersion plan ∧
      MarksForeign state.toRebaseApplyState rlsClaims.tenantId intentId intentHead.intent plan
        w.world.graph

end TenantMutation

/-- No record of another tenant differs, and what was handed over or recorded of replays is the
tenant's. -/
structure TenantWorld.ChangesOnlyOf (b : GraphBackend) (backend : PropagationBackend)
    (tenantId : Uuid) (w w' : TenantWorld b.Store backend.Store) : Prop where
  applied : RebaseApplyWorld.ChangesOnlyOf b backend tenantId w.toRebaseApplyWorld
    w'.toRebaseApplyWorld
  requested : ∃ more, w'.requested = w.requested ++ more ∧
    ∀ params ∈ more, params.tenantId = tenantId
  initiated : ∃ more, w'.initiated = w.initiated ++ more ∧ ∀ event ∈ more, event.tenantId = tenantId

/-- A call is refused as unauthorized and changes nothing, or changes the tenant's records only. -/
def TenantWorld.Isolated (b : GraphBackend) (backend : PropagationBackend) (tenantId : Uuid)
    (w : TenantWorld b.Store backend.Store)
    (outcome : Option IntentRebaseError × TenantWorld b.Store backend.Store) : Prop :=
  (∃ message, outcome = (some (.unauthorized message), w)) ∨
    w.ChangesOnlyOf b backend tenantId outcome.2

section Isolated

variable {b : GraphBackend} {backend : PropagationBackend} {tenantId : Uuid}
  {w : TenantWorld b.Store backend.Store}

theorem TenantWorld.isolated_iff
    {outcome : Option IntentRebaseError × TenantWorld b.Store backend.Store} :
    w.Isolated b backend tenantId outcome ↔ w.ChangesOnlyOf b backend tenantId outcome.2 := by
  refine or_iff_right_of_imp ?_
  rintro ⟨message, rfl⟩
  exact ⟨⟨.refl _, ChangesOnly.refl _ _, .refl _ _⟩, ⟨[], by simp⟩, ⟨[], by simp⟩⟩

/-- A call on the approval requests changes nothing else. -/
theorem changesOnlyOf_approvals {approvals : ApprovalStorage} :
    w.ChangesOnlyOf b backend tenantId { w with approvals } ↔
      w.approvals.ChangesOnlyOf tenantId approvals :=
  ⟨fun h => h.applied.approvals,
    fun h => ⟨⟨.refl _, h, .refl _ _⟩, ⟨[], by simp⟩, ⟨[], by simp⟩⟩⟩

end Isolated

/-- With claims, a call is refused or changes records of their tenant only, except where without a
pool it resolves a pending request or marks an active node of another tenant. -/
theorem mutations_isolated_iff (b : GraphBackend) (backend : PropagationBackend)
    (state : TenantHandlers b.Store backend.Store) (rlsClaims : RlsTenantClaims)
    (hgraph : state.orchestrator.graphService = b.service rlsClaims.tenantId)
    (hsignals : ∀ signals, state.signals = some signals →
      ∃ order, signals.repo = backend.repo order)
    (call : TenantMutation) (w : TenantWorld b.Store backend.Store) (hdraws : call.DrawsUnused w) :
    w.Isolated b backend rlsClaims.tenantId (call.run state rlsClaims w) ↔
      ¬ call.ReachesForeign state rlsClaims w := by
  rw [TenantWorld.isolated_iff]
  cases call with
  | approve run approvalRequestId resolutionNotes =>
    exact changesOnlyOf_approvals.trans ((statusMutation_resolves run approvalRequestId _
      (by decide) _ _).handle_changesOnly_iff state.rlsPool run rlsClaims w.approvals)
  | reject run approvalRequestId resolutionNotes =>
    exact changesOnlyOf_approvals.trans ((statusMutation_resolves run approvalRequestId _
      (by decide) _ _).handle_changesOnly_iff state.rlsPool run rlsClaims w.approvals)
  | expire run approvalRequestId reason =>
    exact changesOnlyOf_approvals.trans ((expiryMutation_resolves run approvalRequestId _
      _).handle_changesOnly_iff state.rlsPool run rlsClaims w.approvals)
  | triggerReapproval run request =>
    exact iff_of_true (changesOnlyOf_approvals.mpr (triggerReapproval_changesOnly hdraws _ _))
      not_false
  | rebaseApply run intentId request =>
    have hown (signals : PropagationSignals backend.Store) (h : state.signals = some signals) :
        OwnWrites signals.repo backend.view := by
      obtain ⟨order, hrepo⟩ := hsignals signals h
      rw [hrepo]
      exact backend.ownWrites order
    have happlied := rebaseApply_changesOnly_iff hgraph state.parseStr intentId request rfl hown
      hdraws
    constructor
    · rintro hchanges ⟨intentHead, fromVersion, toVersion, plan, hplanned, hmarks⟩
      exact happlied.mp hchanges.applied intentHead fromVersion toVersion plan hplanned hmarks
    · intro hnone
      refine ⟨happlied.mpr fun intentHead fromVersion toVersion plan hplanned hmarks => ?_,
        ⟨[], by simp [TenantMutation.run, outcomeOf]⟩,
        ⟨[], by simp [TenantMutation.run, outcomeOf]⟩⟩
      exact hnone ⟨intentHead, fromVersion, toVersion, plan, hplanned, hmarks⟩
  | replayIntent faults intentId request =>
    have hreplays := replayIntent_own ⟨state.service, state.orchestrator, state.rlsPool⟩ faults
      intentId request rlsClaims ⟨w.world, w.requested, w.initiated⟩
    exact iff_of_true ⟨⟨.of_eq hreplays.graph, ChangesOnly.refl _ _, .refl _ _⟩,
      hreplays.requested, hreplays.initiated⟩ not_false

section Sample

/-- Repositories in memory and no pool. -/
def memoryHandlers : TenantHandlers GraphState PropagationStore where
  service := .inMemory .new
  computeRebasePreviewWithGraph _ intentId _ _ := .error (.intentNotFound intentId)
  orchestrator := { RebaseOrchestrator.sampleOrchestrator with
    graphService := InMemoryGraphRepository.service }
  rlsPool := false
  signals := none
  parseStr _ := .error "invalid length"

/-- A pending request of a tenant. -/
def pendingOf (tenantId : Uuid) : ApprovalRequest :=
  .newPending 40 1 7 1 2 3 tenantId "external-api/unknown" "external-api" "B" "blocked"

/-- The pending request is stored, and nothing else. -/
def worldWith (request : ApprovalRequest) : TenantWorld GraphState PropagationStore where
  world := ⟨.empty, []⟩
  approvals := ((ApprovalStorage.inMemory .new).createApprovalRequest request).2
  propagation := ⟨∅, ∅⟩
  requested := []
  initiated := []

/-- The call approves the request. -/
def approvePending : TenantMutation := .approve (.quiet 9) 40 none

/-- A token of tenant 5 approves the request of its tenant. -/
theorem mutations_isolated_sample :
    (worldWith (pendingOf 5)).Isolated .inMemory .inMemory 5
      (approvePending.run memoryHandlers sampleClaims (worldWith (pendingOf 5))) := by
  refine (mutations_isolated_iff .inMemory .inMemory memoryHandlers sampleClaims rfl
    (fun _ h => (by cases h)) approvePending (worldWith (pendingOf 5)) trivial).mpr ?_
  rintro ⟨-, -, -, request, hlookup, -, hforeign⟩
  obtain rfl : pendingOf 5 = request := Option.some.inj hlookup
  exact hforeign rfl

/-- Without a pool, it approves the request of tenant 6 as well. -/
theorem foreign_request_approved :
    ¬ (worldWith (pendingOf 6)).Isolated .inMemory .inMemory 5
      (approvePending.run memoryHandlers sampleClaims (worldWith (pendingOf 6))) := by
  intro hisolated
  have hchanges := (TenantWorld.isolated_iff.mp hisolated).applied.approvals
  have hkept := hchanges.kept (k := 40) (v := pendingOf 6) rfl (by decide)
  have hstatus : ((approvePending.run memoryHandlers sampleClaims
      (worldWith (pendingOf 6))).2.approvals.requests.lookup 40).map ApprovalRequest.status =
        some .approved := rfl
  rw [hkept] at hstatus
  cases hstatus

end Sample

end Mutations

end IntentRebase
