import IntentRebase.Api.RebaseApply
import IntentRebase.Orchestrator.CheckpointChoice
import IntentRebase.Orchestrator.GraphReports
import Mathlib.Data.Finset.Card
import Mathlib.Data.Finset.Dedup

/-! What a rebase that proceeds reports of the graph. Inside a transaction a statement that fails
discards the updates before it, which stay reported. -/

namespace IntentRebase

open Kit

section Statements

variable {δ : Type} {faults : Nat → Option String} {s : δ} {m : Nat} {α : Type}

theorem inTransaction_on (run : δ → α × δ) (t : Sent (Transaction δ)) :
    ((Connection.inTransaction δ faults).execute run).on t =
      ((t.state.statement Connection.inAborted (faults t.sent) fun s => .ok (run s)).1,
        ⟨(t.state.statement Connection.inAborted (faults t.sent) fun s => .ok (run s)).2,
          t.sent + 1⟩) :=
  rfl

/-- A statement in an open transaction that meets no failure runs. -/
theorem inTransaction_run (h : faults m = none) (run : δ → α × δ) :
    ((Connection.inTransaction δ faults).execute run).on ⟨⟨s, false⟩, m⟩ =
      (.ok (run s).1, ⟨⟨(run s).2, false⟩, m + 1⟩) := by
  rw [inTransaction_on, h, Transaction.statement_run rfl rfl]

theorem inTransaction_fault {e : String} (h : faults m = some e) (run : δ → α × δ) :
    ((Connection.inTransaction δ faults).execute run).on ⟨⟨s, false⟩, m⟩ =
      (.error e, ⟨⟨s, true⟩, m + 1⟩) := by
  rw [inTransaction_on, h, Transaction.statement_fault rfl]

theorem inTransaction_aborted (run : δ → α × δ) :
    ((Connection.inTransaction δ faults).execute run).on ⟨⟨s, true⟩, m⟩ =
      (.error Connection.inAborted, ⟨⟨s, true⟩, m + 1⟩) :=
  rfl

end Statements

/-- The service over the SQL repository, whose statements go through a transaction of a tenant. -/
def SqlxGraphTables.txService (tenantId : Uuid) (faults : Nat → Option String) :
    GraphService (Sent (Transaction SqlxGraphTables)) where
  toNodeAccess := (Connection.inTransaction SqlxGraphTables faults).nodeAccess (some tenantId)
  asSqlxRepo := some ((Connection.inTransaction SqlxGraphTables faults).nodeAccess (some tenantId))

/-- The tenant sees the node, and it is active. -/
def SqlxGraphTables.activeFor (s : SqlxGraphTables) (tenantId id : Uuid) : Bool :=
  (s.node (some tenantId) id).any fun node => node.state = .active

/-- How many statements are sent for the nodes if none fails: one for each, and two more for one
that is active then. -/
def statementsSent (active : Uuid → Bool) : List Uuid → Nat
  | [] => 0
  | id :: rest =>
    if active id then 3 + statementsSent (fun other => active other && other ≠ id) rest
    else 1 + statementsSent active rest

theorem statementsSent_eq (active : Uuid → Bool) (ids : List Uuid) :
    statementsSent active ids = ids.length + 2 * (ids.filter active).toFinset.card := by
  induction ids generalizing active with
  | nil => rfl
  | cons id rest ih =>
    rw [statementsSent]
    split
    · next hactive =>
      have hothers : (rest.filter fun other => active other && decide (other ≠ id)).toFinset =
          (rest.filter active).toFinset.erase id := by
        ext other
        simp only [List.mem_toFinset, List.mem_filter, Finset.mem_erase, Bool.and_eq_true,
          decide_eq_true_eq]
        tauto
      rw [ih, List.filter_cons_of_pos hactive, List.toFinset_cons, List.length_cons, hothers]
      have hcard : (insert id (rest.filter active).toFinset).card =
          ((rest.filter active).toFinset.erase id).card + 1 := by
        rw [← Finset.card_insert_of_notMem (Finset.notMem_erase id _)]
        congr 1
        ext other
        by_cases hother : other = id
        · simp [hother]
        · simp [hother]
      omega
    · next hinactive =>
      rw [ih, List.filter_cons_of_neg hinactive, List.length_cons]
      omega

section Marks

variable {tenantId : Uuid} {faults : Nat → Option String} {s : SqlxGraphTables} {m : Nat}

/-- One update of a node to stale, in the transaction. -/
abbrev markStale (tenantId : Uuid) (faults : Nat → Option String) (id : Uuid) (reason : String) :
    Effect (Sent (Transaction SqlxGraphTables)) IntentRebaseError GraphUpdateResult :=
  GraphUpdater.updateNodeStateIfAffected (SqlxGraphTables.txService tenantId faults) id .stale
    reason

/-- An update whose query fails is not reported. -/
theorem markStale_error {t t' : Sent (Transaction SqlxGraphTables)} {id : Uuid} {e : String}
    (h : ((Connection.inTransaction SqlxGraphTables faults).execute fun s =>
      (s.tables.findNode (some tenantId) id, s)).on t = (.error e, t')) (reason : String) :
    ∃ result, (markStale tenantId faults id reason).on t = (.ok result, t') ∧
      result.success = false := by
  have hget : ((SqlxGraphTables.txService tenantId faults).getNode id).on t =
      (.error (.storageError s!"fetch graph node: {e}"), t') := Connection.getNode_error h
  rw [markStale, GraphUpdater.updateNodeStateIfAffected, Effect.on_bind_ok (Effect.on_attempt _ _),
    hget]
  exact ⟨_, rfl, rfl⟩

theorem markStale_aborted (id : Uuid) (reason : String) :
    ∃ result, (markStale tenantId faults id reason).on ⟨⟨s, true⟩, m⟩ =
      (.ok result, ⟨⟨s, true⟩, m + 1⟩) ∧ result.success = false :=
  markStale_error (inTransaction_aborted _) reason

theorem markStale_fault (h : faults m ≠ none) (id : Uuid) (reason : String) :
    ∃ result, (markStale tenantId faults id reason).on ⟨⟨s, false⟩, m⟩ =
      (.ok result, ⟨⟨s, true⟩, m + 1⟩) ∧ result.success = false := by
  obtain ⟨e, he⟩ := Option.ne_none_iff_exists'.mp h
  exact markStale_error (inTransaction_fault he _) reason

/-- The query of an update, in an open transaction that meets no failure. -/
theorem txService_getNode (h : faults m = none) (id : Uuid) :
    ((SqlxGraphTables.txService tenantId faults).getNode id).on ⟨⟨s, false⟩, m⟩ =
      (match s.node (some tenantId) id with
        | some node => .ok node
        | none => .error (.graphNodeNotFound id), ⟨⟨s, false⟩, m + 1⟩) :=
  Connection.getNode_answer (inTransaction_run h _)

theorem markStale_inactive (h : faults m = none) {id : Uuid}
    (hactive : s.activeFor tenantId id = false) (reason : String) :
    ∃ result, (markStale tenantId faults id reason).on ⟨⟨s, false⟩, m⟩ =
      (.ok result, ⟨⟨s, false⟩, m + 1⟩) ∧ result.Stored (s.node none) := by
  rw [markStale, GraphUpdater.updateNodeStateIfAffected, Effect.on_bind_ok (Effect.on_attempt _ _),
    txService_getNode h]
  rw [SqlxGraphTables.activeFor] at hactive
  cases hnode : s.node (some tenantId) id with
  | none => exact ⟨_, rfl, (GraphUpdateResult.failure_stored _ .stale _ _).1⟩
  | some node =>
    rw [hnode] at hactive
    dsimp only
    split
    · exact ⟨_, rfl, (GraphUpdateResult.failure_stored _ .stale _ _).1⟩
    · next hvalid =>
      have hstale : node.state = .stale := by
        have hother : node.state ≠ .active := by simpa using hactive
        cases hstate : node.state with
        | active => exact absurd hstate hother
        | stale => rfl
        | invalid => simp [hstate, isValidTransition] at hvalid
        | archived => simp [hstate, isValidTransition] at hvalid
      rw [if_pos hstale]
      exact ⟨_, rfl, (GraphUpdateResult.succeeded_stored
        ⟨node, SqlxGraphTables.node_none hnode, hstale⟩).1⟩

theorem activeFor_iff {id : Uuid} : s.activeFor tenantId id = true ↔
    ∃ node, s.node (some tenantId) id = some node ∧ node.state = .active := by
  rw [SqlxGraphTables.activeFor]
  cases s.node (some tenantId) id <;> simp

/-- What is reported of an active node is what its update answers. -/
theorem markStale_update (h : faults m = none) {id : Uuid}
    {answer : Except IntentRebaseError GraphNode} {t : Sent (Transaction SqlxGraphTables)}
    (hactive : s.activeFor tenantId id = true)
    (hupdate : ((SqlxGraphTables.txService tenantId faults).updateNodeState id .stale).on
      ⟨⟨s, false⟩, m + 1⟩ = (answer, t)) (reason : String) :
    ∃ result, (markStale tenantId faults id reason).on ⟨⟨s, false⟩, m⟩ = (.ok result, t) ∧
      (∀ e, answer = .error e → result.success = false) ∧
      ∀ node, answer = .ok node → ¬ result.Stored (s.node none) := by
  obtain ⟨node, hnode, hstate⟩ := activeFor_iff.mp hactive
  rw [markStale, GraphUpdater.updateNodeStateIfAffected, Effect.on_bind_ok (Effect.on_attempt _ _),
    txService_getNode h, hnode]
  dsimp only
  rw [hstate, if_neg (by decide), if_neg (by decide), Effect.on_bind_ok (Effect.on_attempt _ _),
    hupdate]
  cases answer with
  | error e => exact ⟨_, rfl, fun _ _ => rfl, fun _ hok => (by cases hok)⟩
  | ok updatedNode =>
    refine ⟨_, rfl, fun _ herror => (by cases herror), fun _ _ hstored => ?_⟩
    obtain ⟨action, haction, found, hfound, hnew⟩ := hstored rfl
    obtain rfl := Option.some.inj haction
    obtain rfl := Option.some.inj ((SqlxGraphTables.node_none hnode).symm.trans hfound)
    cases hstate.symm.trans hnew

/-- An update of an active node one of whose other statements fails is not reported. -/
theorem markStale_active_fault (h : faults m = none)
    (hfault : faults (m + 1) ≠ none ∨ faults (m + 2) ≠ none) {id : Uuid}
    (hactive : s.activeFor tenantId id = true) (reason : String) :
    ∃ result work sent, (markStale tenantId faults id reason).on ⟨⟨s, false⟩, m⟩ =
      (.ok result, ⟨⟨work, true⟩, sent⟩) ∧ result.success = false := by
  obtain ⟨node, hnode, -⟩ := activeFor_iff.mp hactive
  obtain ⟨work, hwrite, -, -⟩ := SqlxGraphTables.updateState_of_node hnode .stale
  have hupdate : ∃ e work sent, ((SqlxGraphTables.txService tenantId faults).updateNodeState id
      .stale).on ⟨⟨s, false⟩, m + 1⟩ = (.error e, ⟨⟨work, true⟩, sent⟩) := by
    cases hsecond : faults (m + 1) with
    | some e =>
      exact ⟨_, s, m + 2, Connection.updateNodeState_error (inTransaction_fault hsecond _)⟩
    | none =>
      obtain ⟨e, hthird⟩ := Option.ne_none_iff_exists'.mp (hfault.resolve_left (by simp [hsecond]))
      have hrun := inTransaction_run (s := s) hsecond fun s =>
        s.updateState (some tenantId) id .stale
      rw [hwrite] at hrun
      exact ⟨_, work, m + 3, (Connection.updateNodeState_answer hrun).trans
        (Connection.getNode_error (inTransaction_fault hthird _))⟩
  obtain ⟨e, work, sent, hupdate⟩ := hupdate
  obtain ⟨result, hrun, hfailed, -⟩ := markStale_update h hactive hupdate reason
  exact ⟨result, work, sent, hrun, hfailed e rfl⟩

theorem markStale_active (h : ∀ k < 3, faults (m + k) = none) {id : Uuid}
    (hactive : s.activeFor tenantId id = true) (reason : String) :
    ∃ result work, (markStale tenantId faults id reason).on ⟨⟨s, false⟩, m⟩ =
        (.ok result, ⟨⟨work, false⟩, m + 3⟩) ∧ ¬ result.Stored (s.node none) ∧
      ∀ other, work.activeFor tenantId other = (s.activeFor tenantId other && other ≠ id) := by
  obtain ⟨node, hnode, -⟩ := activeFor_iff.mp hactive
  obtain ⟨work, hwrite, -, hnodes⟩ := SqlxGraphTables.updateState_of_node hnode .stale
  have hrun := inTransaction_run (s := s) (h 1 (by decide)) fun s =>
    s.updateState (some tenantId) id .stale
  rw [hwrite] at hrun
  have hupdate := (Connection.updateNodeState_answer hrun).trans
    (txService_getNode (h 2 (by decide)) id)
  rw [hnodes, if_pos rfl, hnode] at hupdate
  obtain ⟨result, hmark, -, hreported⟩ := markStale_update (h 0 (by decide)) hactive hupdate reason
  refine ⟨result, work, hmark, hreported _ rfl, fun other => ?_⟩
  rw [SqlxGraphTables.activeFor, hnodes]
  by_cases hother : other = id
  · simp [hother, hnode]
  · simp [hother, SqlxGraphTables.activeFor]

/-- The updates of nodes one after the other, in the transaction. -/
abbrev markAllStale (tenantId : Uuid) (faults : Nat → Option String)
    (marks : List (Uuid × String)) :
    Effect (Sent (Transaction SqlxGraphTables)) IntentRebaseError (List GraphUpdateResult) :=
  marks.mapM fun mark => markStale tenantId faults mark.1 mark.2

variable (tenantId faults) in
theorem markAllStale_aborted (marks : List (Uuid × String)) (t : Sent (Transaction SqlxGraphTables))
    (ht : t.state.aborted = true) :
    ∃ results t', (markAllStale tenantId faults marks).on t = (.ok results, t') ∧
      t'.state.aborted = true ∧ ∀ result ∈ results, result.success = false := by
  induction marks generalizing t with
  | nil => exact ⟨[], t, rfl, ht, fun _ hmem => absurd hmem List.not_mem_nil⟩
  | cons mark marks ih =>
    obtain ⟨⟨work, aborted⟩, sent⟩ := t
    obtain rfl : aborted = true := ht
    obtain ⟨result, hfirst, hfailed⟩ := markStale_aborted mark.1 mark.2
    obtain ⟨results, t', hothers, haborted, hall⟩ := ih ⟨⟨work, true⟩, sent + 1⟩ rfl
    refine ⟨result :: results, t', ?_, haborted, List.forall_mem_cons.mpr ⟨hfailed, hall⟩⟩
    rw [markAllStale, List.mapM_cons, Effect.on_bind_ok hfirst, Effect.on_bind_ok hothers,
      Effect.on_pure]

/-- Every listed node is inactive, or a statement fails before the first update is complete. -/
def WritesNothing (active : Uuid → Bool) (ids : List Uuid) (faults : Nat → Option String)
    (m : Nat) : Prop :=
  (∀ id ∈ ids, active id = false) ∨ ∃ k < ids.findIdx active + 3, faults (m + k) ≠ none

theorem writesNothing_fault {active : Uuid → Bool} {ids : List Uuid} (h : faults m ≠ none) :
    WritesNothing active ids faults m :=
  .inr ⟨0, Nat.succ_pos _, h⟩

/-- Statements that do not fail are passed over. -/
theorem exists_fault_add {j n : Nat} (h : ∀ k < j, faults (m + k) = none) :
    (∃ k < j + n, faults (m + k) ≠ none) ↔ ∃ k < n, faults (m + j + k) ≠ none := by
  constructor
  · rintro ⟨k, hk, hfault⟩
    have hle : j ≤ k := by
      by_contra hlt
      exact hfault (h k (by omega))
    refine ⟨k - j, by omega, ?_⟩
    rwa [Nat.add_assoc, Nat.add_sub_cancel' hle]
  · rintro ⟨k, hk, hfault⟩
    exact ⟨j + k, by omega, by rwa [← Nat.add_assoc]⟩

theorem writesNothing_inactive {active : Uuid → Bool} {id : Uuid} {ids : List Uuid}
    (h : faults m = none) (hactive : active id = false) :
    WritesNothing active (id :: ids) faults m ↔ WritesNothing active ids faults (m + 1) := by
  have hskip : ∀ k < 1, faults (m + k) = none := fun k hk => by
    obtain rfl : k = 0 := by omega
    exact h
  have hlength : (id :: ids).findIdx active + 3 = 1 + (ids.findIdx active + 3) := by
    rw [List.findIdx_cons, hactive]
    simp only [cond_false]
    omega
  rw [WritesNothing, WritesNothing, hlength, exists_fault_add hskip, List.forall_mem_cons,
    and_iff_right hactive]

theorem writesNothing_active {active : Uuid → Bool} {id : Uuid} {ids : List Uuid}
    (hactive : active id = true) :
    WritesNothing active (id :: ids) faults m ↔ ∃ k < 3, faults (m + k) ≠ none := by
  have hfirst : (id :: ids).findIdx active = 0 := by
    rw [List.findIdx_cons, hactive]
    rfl
  rw [WritesNothing, hfirst, or_iff_right fun hall => ?_]
  cases hactive.symm.trans (hall id List.mem_cons_self)

theorem reportsTruthfully_failed {view : Uuid → Option GraphNode} {results : List GraphUpdateResult}
    (h : ∀ result ∈ results, result.success = false) : ReportsTruthfully view results :=
  fun result hmem hsuccess => by cases hsuccess.symm.trans (h result hmem)

variable (tenantId faults) in
/-- The updates abort the transaction if a statement that they send fails; and what they report is
in the tables before them if and only if none of them is complete. -/
theorem markAllStale_on (marks : List (Uuid × String)) (s : SqlxGraphTables) (m : Nat) :
    ∃ results t, (markAllStale tenantId faults marks).on ⟨⟨s, false⟩, m⟩ = (.ok results, t) ∧
      (t.state.aborted = true ↔
        ∃ k < statementsSent (s.activeFor tenantId) (marks.map Prod.fst), faults (m + k) ≠ none) ∧
      (ReportsTruthfully (s.node none) results ↔
        WritesNothing (s.activeFor tenantId) (marks.map Prod.fst) faults m) := by
  induction marks generalizing s m with
  | nil =>
    refine ⟨[], _, rfl, iff_of_false (by simp) (by simp [statementsSent]), iff_of_true ?_ (.inl ?_)⟩
    · exact fun _ hmem => absurd hmem List.not_mem_nil
    · exact fun _ hmem => absurd hmem List.not_mem_nil
  | cons mark marks ih =>
    -- An update that aborts the transaction is followed by failures only.
    have hstops : ∀ result work sent, (markStale tenantId faults mark.1 mark.2).on ⟨⟨s, false⟩, m⟩ =
        (.ok result, ⟨⟨work, true⟩, sent⟩) → result.success = false →
        ∃ results t, (markAllStale tenantId faults (mark :: marks)).on ⟨⟨s, false⟩, m⟩ =
          (.ok results, t) ∧ t.state.aborted = true ∧ ReportsTruthfully (s.node none) results := by
      intro result work sent hfirst hfailed
      obtain ⟨results, t, hothers, haborted, hall⟩ :=
        markAllStale_aborted tenantId faults marks ⟨⟨work, true⟩, sent⟩ rfl
      refine ⟨result :: results, t, ?_, haborted,
        reportsTruthfully_failed (List.forall_mem_cons.mpr ⟨hfailed, hall⟩)⟩
      rw [markAllStale, List.mapM_cons, Effect.on_bind_ok hfirst, Effect.on_bind_ok hothers,
        Effect.on_pure]
    rw [List.map_cons, statementsSent]
    by_cases hquery : faults m = none
    · cases hactive : s.activeFor tenantId mark.1 with
      | false =>
        obtain ⟨result, hfirst, hstored⟩ := markStale_inactive hquery hactive mark.2
        obtain ⟨results, t, hothers, haborted, htruth⟩ := ih s (m + 1)
        refine ⟨result :: results, t, ?_, ?_, ?_⟩
        · rw [markAllStale, List.mapM_cons, Effect.on_bind_ok hfirst, Effect.on_bind_ok hothers,
            Effect.on_pure]
        · rw [haborted, if_neg Bool.false_ne_true, exists_fault_add fun k hk => ?_]
          obtain rfl : k = 0 := by omega
          exact hquery
        · rw [writesNothing_inactive hquery hactive, ← htruth, ReportsTruthfully,
            List.forall_mem_cons, and_iff_right hstored]
          exact Iff.rfl
      | true =>
        rw [if_pos rfl]
        by_cases hrest : ∀ k < 3, faults (m + k) = none
        · obtain ⟨result, work, hfirst, hunstored, hactive'⟩ :=
            markStale_active hrest hactive mark.2
          obtain ⟨results, t, hothers, haborted, -⟩ := ih work (m + 3)
          refine ⟨result :: results, t, ?_, ?_, ?_⟩
          · rw [markAllStale, List.mapM_cons, Effect.on_bind_ok hfirst, Effect.on_bind_ok hothers,
              Effect.on_pure]
          · rw [haborted, exists_fault_add hrest, funext hactive']
          · rw [writesNothing_active hactive]
            refine iff_of_false (fun htruth => hunstored (htruth result List.mem_cons_self)) ?_
            rintro ⟨k, hk, hfault⟩
            exact hfault (hrest k hk)
        · simp only [not_forall] at hrest
          obtain ⟨k, hk, hfault⟩ := hrest
          have hother : faults (m + 1) ≠ none ∨ faults (m + 2) ≠ none := by
            match k, hk with
            | 0, _ => exact absurd hquery hfault
            | 1, _ => exact .inl hfault
            | 2, _ => exact .inr hfault
          obtain ⟨result, work, sent, hfirst, hfailed⟩ :=
            markStale_active_fault hquery hother hactive mark.2
          obtain ⟨results, t, hall, haborted, htruth⟩ := hstops result work sent hfirst hfailed
          refine ⟨results, t, hall, iff_of_true haborted ⟨k, by omega, hfault⟩,
            iff_of_true htruth ?_⟩
          exact (writesNothing_active hactive).mpr ⟨k, hk, hfault⟩
    · obtain ⟨result, hfirst, hfailed⟩ := markStale_fault (s := s) hquery mark.1 mark.2
      obtain ⟨results, t, hall, haborted, htruth⟩ := hstops result s (m + 1) hfirst hfailed
      refine ⟨results, t, hall, iff_of_true haborted ⟨0, ?_, hquery⟩,
        iff_of_true htruth (writesNothing_fault hquery)⟩
      split <;> omega

end Marks

section Branch

/-- The same orchestrator over another graph. -/
def RebaseOrchestrator.over {γ γ' : Type} (o : RebaseOrchestrator γ)
    (graphService : GraphService γ') : RebaseOrchestrator γ' where
  checkpointService := o.checkpointService
  graphService := graphService
  applyPipeline := o.applyPipeline
  runtimeAdapter := o.runtimeAdapter

/-- The updates of the graph as statements of a transaction of the tenant, which is dropped on an
error. -/
def RebaseOrchestrator.updateInTransaction (o : RebaseOrchestrator SqlxGraphTables)
    (rlsTenantId : Uuid) (faults : Nat → Option String) (commitFault : Option (Fault String))
    (items : AffectedItemsPreview) (intentId tenantId : Uuid) (intentVersion : Int) :
    Effect SqlxGraphTables IntentRebaseError (List GraphUpdateResult) := fun s =>
  match ((o.over (SqlxGraphTables.txService rlsTenantId faults)).updateGraphStateWithTx items
      intentId tenantId intentVersion).on ⟨.start s, 0⟩ with
  | (.error e, _) => (.error e, s)
  | (.ok graphUpdates, t) =>
    match t.state.commit commitFault s with
    | (.ok _, s) => (.ok graphUpdates, s)
    | (.error e, s) => (.error (.storageError s!"failed to commit write tx: {e}"), s)

section Updates

variable (o : RebaseOrchestrator SqlxGraphTables) (rlsTenantId : Uuid)
  (faults : Nat → Option String) (commitFault : Option (Fault String))
  (items : AffectedItemsPreview) (intentId tenantId : Uuid) (intentVersion : Int)

theorem updateInTransaction_run (s : SqlxGraphTables) :
    (o.updateInTransaction rlsTenantId faults commitFault items intentId tenantId intentVersion).on
        s =
      match ((o.over (SqlxGraphTables.txService rlsTenantId faults)).updateGraphStateWithTx items
        intentId tenantId intentVersion).on ⟨.start s, 0⟩ with
      | (.error e, _) => (.error e, s)
      | (.ok graphUpdates, t) =>
        match t.state.commit commitFault s with
        | (.ok _, s) => (.ok graphUpdates, s)
        | (.error e, s) => (.error (.storageError s!"failed to commit write tx: {e}"), s) :=
  rfl

theorem updateInTransaction_on {s : SqlxGraphTables} {results : List GraphUpdateResult}
    {t : Sent (Transaction SqlxGraphTables)}
    (h : (markAllStale rlsTenantId faults (items.marks intentId intentVersion)).on ⟨.start s, 0⟩ =
      (.ok results, t)) :
    (o.updateInTransaction rlsTenantId faults commitFault items intentId tenantId intentVersion).on
        s =
      match t.state.commit commitFault s with
      | (.ok _, s) => (.ok results, s)
      | (.error e, s) => (.error (.storageError s!"failed to commit write tx: {e}"), s) := by
  have hmarks : (o.over (SqlxGraphTables.txService rlsTenantId faults)).updateGraphStateWithTx items
      intentId tenantId intentVersion =
        markAllStale rlsTenantId faults (items.marks intentId intentVersion) := by
    rw [RebaseOrchestrator.updateGraphStateWithTx_marks]
    rfl
  rw [updateInTransaction_run, hmarks, h]

/-- Updates that are committed report what is stored if no statement that they send fails, or if one
fails before anything is written, and only then. -/
theorem updateInTransaction_truthful {s s' : SqlxGraphTables} {updates : List GraphUpdateResult}
    (h : (o.updateInTransaction rlsTenantId faults commitFault items intentId tenantId
      intentVersion).on s = (.ok updates, s')) :
    ReportsTruthfully (s'.node none) updates ↔
      (∀ k < statementsSent (s.activeFor rlsTenantId) (items.stale.map AffectedItem.nodeId),
        faults k = none) ∨
      WritesNothing (s.activeFor rlsTenantId) (items.stale.map AffectedItem.nodeId) faults 0 := by
  obtain ⟨results, t, hrun, haborted, htruth⟩ :=
    markAllStale_on rlsTenantId faults (items.marks intentId intentVersion) s 0
  rw [items.marks_fst] at haborted htruth
  have hhonest : HonestAccess (SqlxGraphTables.txService rlsTenantId faults).toNodeAccess
      (fun t => t.state.work.node none) :=
    Connection.RunsOrFails.honest (Connection.inTransaction_runsOrFails faults)
  obtain ⟨results', t', hrun', -, hwork⟩ :=
    hhonest.mapM_on .stale (items.marks intentId intentVersion) ⟨.start s, 0⟩
  obtain ⟨hresults, rfl⟩ := Prod.mk.inj (hrun.symm.trans hrun')
  obtain rfl := Except.ok.inj hresults
  rw [updateInTransaction_on o rlsTenantId faults commitFault items intentId tenantId intentVersion
    hrun] at h
  cases hcommit : t.state.commit commitFault s with
  | mk answer committed =>
    rw [hcommit] at h
    cases answer with
    | error e => cases h
    | ok u =>
      obtain ⟨hupdates, rfl⟩ := Prod.mk.inj h
      obtain rfl := Except.ok.inj hupdates
      obtain ⟨-, rfl⟩ := Transaction.commit_ok hcommit
      have hquiet : t.state.aborted = false ↔ ∀ k < statementsSent (s.activeFor rlsTenantId)
          (items.stale.map AffectedItem.nodeId), faults k = none := by
        rw [← Bool.not_eq_true, haborted]
        simp
      rw [← hquiet, Transaction.committed]
      cases t.state.aborted with
      | false => exact iff_of_true hwork (.inl rfl)
      | true =>
        rw [or_iff_right Bool.false_ne_true.symm]
        exact htruth

end Updates

variable {γ ρ : Type}

/-- What a rebase that returns reports is what its updates answered; the graph stays as they left it
while the signal is sent. -/
theorem proceedWith_ok {write : Effect γ IntentRebaseError (List GraphUpdateResult)}
    {state : RebaseApplyState γ ρ} {run : RebaseApplyRun} {intentId : Uuid}
    {rlsClaims : RlsTenantClaims} {intent : Intent} {plan : RebasePlan} {notification : Bool}
    {w w' : World γ} {result : RebaseApplyResult}
    (h : (proceedWith write state run intentId rlsClaims intent plan notification).on w =
      (.ok result, w')) :
    write.on w.graph = (.ok result.graphUpdates, w'.graph) := by
  obtain ⟨_, w₁, hbegin, h⟩ := Effect.on_bind_inv h
  obtain ⟨-, rfl⟩ := Prod.mk.inj hbegin
  obtain ⟨aligned, w₂, haligned, h⟩ := Effect.on_bind_inv h
  obtain ⟨-, rfl⟩ := Prod.mk.inj haligned
  cases hfault : run.proceedFaults.readCommitFault with
  | some e =>
    rw [hfault] at h
    cases h
  | none =>
    rw [hfault] at h
    obtain ⟨_, w₃, hbegin', h⟩ := Effect.on_bind_inv h
    obtain ⟨-, rfl⟩ := Prod.mk.inj hbegin'
    obtain ⟨updates, w₄, hwrite, h⟩ := Effect.on_bind_inv h
    rw [World.onGraph, Effect.on_within] at hwrite
    obtain ⟨hupdates, rfl⟩ := Prod.mk.inj hwrite
    obtain ⟨sent, w₅, hsent, h⟩ := Effect.on_bind_inv h
    obtain ⟨_, calls, hsignal, -⟩ := state.orchestrator.sendRuntimeRebaseSignal_on run.now intentId
      intent.tenantId intent.workflowId aligned { w with graph := (write.on w.graph).2 }
    rw [Effect.on_attempt, hsignal] at hsent
    obtain ⟨-, rfl⟩ := Prod.mk.inj hsent
    obtain ⟨hresult, rfl⟩ := Prod.mk.inj h
    obtain rfl := Except.ok.inj hresult
    exact Prod.ext hupdates rfl

/-- A rebase that meets no other failure returns what its updates answered. -/
theorem proceedWith_returns {write : Effect γ IntentRebaseError (List GraphUpdateResult)}
    {state : RebaseApplyState γ ρ} {run : RebaseApplyRun} {intentId : Uuid}
    {rlsClaims : RlsTenantClaims} {intent : Intent} {plan : RebasePlan} (notification : Bool)
    {w : World γ} {aligned : AlignedCheckpoint} {updates : List GraphUpdateResult} {graph : γ}
    (hquiet : run.proceedFaults = .quiet)
    (htenant : beginWithTenant rlsClaims.tenantId none = .ok ())
    (haligned : CheckpointAligner.alignWithTx state.orchestrator.checkpointService plan intentId
      intent.tenantId intent.workflowId = .ok aligned)
    (hwrite : write.on w.graph = (.ok updates, graph)) :
    ∃ result w', (proceedWith write state run intentId rlsClaims intent plan notification).on w =
      (.ok result, w') := by
  obtain ⟨answer, calls, hsignal, -⟩ := state.orchestrator.sendRuntimeRebaseSignal_on run.now
    intentId intent.tenantId intent.workflowId aligned { w with graph }
  have hgraph : (World.onGraph write).on w = (.ok updates, { w with graph }) := by
    rw [World.onGraph, Effect.on_within, hwrite]
  rw [proceedWith, hquiet]
  simp only [ProceedFaults.quiet]
  rw [htenant, haligned, Effect.on_bind_ok (Effect.on_lift w _),
    Effect.on_bind_ok (Effect.on_lift w _), Effect.on_bind_ok (Effect.on_lift w _),
    Effect.on_bind_ok hgraph, Effect.on_bind_ok (Effect.on_attempt _ _), hsignal]
  exact ⟨_, _, rfl⟩

/-- What an apply that returns reports, where it reports updates, is what its updates answered. -/
theorem applyRebase_ok {o : RebaseOrchestrator γ} {now : DateTime}
    {intentId tenantId workflowId : Uuid} {fromVersion toVersion : IntentVersion}
    {plan : RebasePlan} {items : AffectedItemsPreview} {w w' : World γ} {result : RebaseApplyResult}
    (h : (o.applyRebase now intentId tenantId workflowId fromVersion toVersion plan items).on w =
      (.ok result, w')) :
    result.graphUpdates = [] ∨
      (o.updateGraphState items intentId tenantId toVersion.versionNumber).on w.graph =
        (.ok result.graphUpdates, w'.graph) := by
  rw [RebaseOrchestrator.applyRebase] at h
  cases hdecision : o.applyPipeline.evaluate plan.riskTier plan.decisionClass with
  | noOp =>
    rw [hdecision] at h
    obtain rfl := Except.ok.inj (Prod.mk.inj h).1
    exact .inl rfl
  | blocked reason =>
    rw [hdecision] at h
    obtain rfl := Except.ok.inj (Prod.mk.inj h).1
    exact .inl rfl
  | proceed notification =>
    rw [hdecision] at h
    obtain ⟨aligned, w₁, haligned, h⟩ := Effect.on_bind_inv h
    obtain ⟨-, rfl⟩ := Prod.mk.inj haligned
    obtain ⟨updates, w₂, hwrite, h⟩ := Effect.on_bind_inv h
    rw [World.onGraph, Effect.on_within] at hwrite
    obtain ⟨hupdates, rfl⟩ := Prod.mk.inj hwrite
    obtain ⟨sent, w₃, hsent, h⟩ := Effect.on_bind_inv h
    obtain ⟨_, calls, hsignal, -⟩ := o.sendRuntimeRebaseSignal_on now intentId tenantId workflowId
      aligned { w with graph := ((o.updateGraphState items intentId tenantId
        toVersion.versionNumber).on w.graph).2 }
    rw [Effect.on_attempt, hsignal] at hsent
    obtain ⟨-, rfl⟩ := Prod.mk.inj hsent
    obtain ⟨hresult, rfl⟩ := Prod.mk.inj h
    obtain rfl := Except.ok.inj hresult
    exact .inr (Prod.ext hupdates rfl)

/-- Outside a transaction an apply reports what is stored, over any calls that show and write what
is there. -/
theorem HonestAccess.applyRebase_truthful {o : RebaseOrchestrator γ}
    {view : γ → Uuid → Option GraphNode} (hhonest : HonestAccess o.graphService.toNodeAccess view)
    {now : DateTime} {intentId tenantId workflowId : Uuid} {fromVersion toVersion : IntentVersion}
    {plan : RebasePlan} {items : AffectedItemsPreview} {w w' : World γ} {result : RebaseApplyResult}
    (h : (o.applyRebase now intentId tenantId workflowId fromVersion toVersion plan items).on w =
      (.ok result, w')) : ReportsTruthfully (view w'.graph) result.graphUpdates := by
  rcases applyRebase_ok h with hnone | hupdates
  · rw [hnone]
    exact fun _ hmem => absurd hmem List.not_mem_nil
  · obtain ⟨results, s', hrun, -, htruth⟩ :=
      hhonest.mapM_on .stale (items.marks intentId toVersion.versionNumber) w.graph
    rw [o.updateGraphState_eq items intentId tenantId] at hupdates
    obtain ⟨hresults, rfl⟩ := Prod.mk.inj (hrun.symm.trans hupdates)
    obtain rfl := Except.ok.inj hresults
    exact htruth

end Branch

/-- Outside a transaction, in memory and in SQL, whichever statements fail, an apply that returns
reports what is stored when the runtime is signalled. In transactions it does if and only if no
statement that the updates send fails, or every listed node is inactive, or a statement fails before
the first update is complete. -/
theorem graph_updates_truthful_iff {ρ : Type} :
    (∀ (o : RebaseOrchestrator GraphState) (now : DateTime) (intentId tenantId workflowId : Uuid)
      (fromVersion toVersion : IntentVersion) (plan : RebasePlan) (items : AffectedItemsPreview)
      (w w' : World GraphState) (result : RebaseApplyResult),
      o.graphService = InMemoryGraphRepository.service →
      (o.applyRebase now intentId tenantId workflowId fromVersion toVersion plan items).on w =
        (.ok result, w') →
      ReportsTruthfully (fun id => w'.graph.nodes.lookup id) result.graphUpdates) ∧
    (∀ (faults : Nat → Option (Fault String)) (o : RebaseOrchestrator (Sent SqlxGraphTables))
      (now : DateTime) (intentId tenantId workflowId : Uuid) (fromVersion toVersion : IntentVersion)
      (plan : RebasePlan) (items : AffectedItemsPreview) (w w' : World (Sent SqlxGraphTables))
      (result : RebaseApplyResult),
      o.graphService.toNodeAccess =
        (Connection.pooled SqlxGraphTables faults).nodeAccess none →
      (o.applyRebase now intentId tenantId workflowId fromVersion toVersion plan items).on w =
        (.ok result, w') →
      ReportsTruthfully (w'.graph.state.node none) result.graphUpdates) ∧
    ∀ (faults : Nat → Option String) (state : RebaseApplyState SqlxGraphTables ρ)
      (run : RebaseApplyRun) (intentId : Uuid) (rlsClaims : RlsTenantClaims) (intent : Intent)
      (toVersion : IntentVersion) (plan : RebasePlan) (notification : Bool)
      (w w' : World SqlxGraphTables) (result : RebaseApplyResult),
      (proceedWith (state.orchestrator.updateInTransaction rlsClaims.tenantId faults
        run.proceedFaults.writeCommitFault plan.affectedItems intentId intent.tenantId
        toVersion.versionNumber) state run intentId rlsClaims intent plan notification).on w =
        (.ok result, w') →
      let ids := plan.affectedItems.stale.map AffectedItem.nodeId
      let active := w.graph.activeFor rlsClaims.tenantId
      (ReportsTruthfully (w'.graph.node none) result.graphUpdates ↔
        (∀ k < ids.length + 2 * (ids.filter active).toFinset.card, faults k = none) ∨
          (∀ id ∈ ids, active id = false) ∨ ∃ k < ids.findIdx active + 3, faults k ≠ none) := by
  refine ⟨?_, ?_, ?_⟩
  · intro o now intentId tenantId workflowId fromVersion toVersion plan items w w' result hmemory h
    have hhonest : HonestAccess o.graphService.toNodeAccess fun s id => s.nodes.lookup id := by
      rw [hmemory]
      exact nodeStore_inMemory.honest
    exact hhonest.applyRebase_truthful h
  · intro faults o now intentId tenantId workflowId fromVersion toVersion plan items w w' result
      hpooled h
    have hhonest : HonestAccess o.graphService.toNodeAccess fun t => t.state.node none := by
      rw [hpooled]
      exact Connection.RunsOrFails.honest (Connection.pooled_runsOrFails faults)
    exact hhonest.applyRebase_truthful h
  · intro faults state run intentId rlsClaims intent toVersion plan notification w w' result h ids
      active
    rw [updateInTransaction_truthful _ _ _ _ _ _ _ _ (proceedWith_ok h), statementsSent_eq]
    simp only [WritesNothing, Nat.zero_add]
    exact Iff.rfl

section Sample

/-- The table of one active artifact. -/
def oneArtifact : SqlxGraphTables where
  tables := { nodes := AList.insert 20 (.ofNode activeArtifact) ∅, edges := ∅ }
  nodesReadable id row h := by
    rw [lookup_insert_eq] at h
    split at h
    · obtain rfl := Option.some.inj h
      exact ⟨activeArtifact, rowToNode_ofNode activeArtifact⟩
    · cases h
  edgesReadable _ _ h := by cases h

theorem oneArtifact_node : oneArtifact.node (some 1) 20 = some activeArtifact := by
  have hrow : oneArtifact.tables.findNode (some 1) 20 = some (.ofNode activeArtifact) := rfl
  rw [SqlxGraphTables.node, hrow, Option.bind_some, rowToNode_ofNode]
  rfl

theorem oneArtifact_active : oneArtifact.activeFor 1 20 = true :=
  activeFor_iff.mpr ⟨activeArtifact, oneArtifact_node, rfl⟩

/-- A low risk that makes an artifact stale, and then a node that is not there. -/
def twoItemsPlan : RebasePlan :=
  { unselectedPlan with
    affectedItems := {
      status := .available
      affectedArtifacts := [listedArtifact, { listedArtifact with nodeId := 21 }]
      affectedApprovals := []
      sideEffects := [] } }

def twoItemsState : RebaseApplyState SqlxGraphTables Unit where
  service := .inMemory .new
  computeRebasePreviewWithGraph _ _ _ _ := .ok twoItemsPlan
  orchestrator :=
    let checkpoints := checkpointAlone (RebaseOrchestrator.sampleCheckpoint 10 1 5)
    .new { checkpoints with asSqlxRepo := some checkpoints.toCheckpointReads }
      SqlxGraphTables.service RebaseOrchestrator.readyRuntime
  rlsPool := true
  signals := none

def twoItemsRun : RebaseApplyRun where
  now := 3
  approvalFaults := .quiet
  draws := {
    id := 30
    createdAt := 4
    txScan := .id _
    txTargetedAt := 5
    txFlatAt := 6
    scan := .id _
    targetedAt := 5
    flatAt := 6 }
  proceedFaults := .quiet

def twoItemsIntent : Intent where
  id := 1
  tenantId := 1
  workflowId := 5
  currentVersion := 2
  status := .active
  createdAt := 0
  createdBy := ⟨"user", "u1"⟩
  sourceRefs := []
  tags := []

def twoItemsClaims : RlsTenantClaims where
  tenantId := 1
  claims := sampleClaims.claims
  notNil := by decide

/-- The rebase of the two items returns, whichever statement of its updates fails. -/
theorem twoItems_returns (faults : Nat → Option String) :
    ∃ result w', (proceedWith (twoItemsState.orchestrator.updateInTransaction 1 faults none
        twoItemsPlan.affectedItems 1 1 2) twoItemsState twoItemsRun 1 twoItemsClaims twoItemsIntent
      twoItemsPlan false).on ⟨oneArtifact, []⟩ = (.ok result, w') := by
  obtain ⟨results, t, hmarks, -, -⟩ := markAllStale_on 1 faults
    (twoItemsPlan.affectedItems.marks 1 2) oneArtifact 0
  have hwrite := updateInTransaction_on twoItemsState.orchestrator 1 faults none
    twoItemsPlan.affectedItems 1 1 2 hmarks
  have hcommit : (t.state.commit (none : Option (Fault String)) oneArtifact) =
      (.ok (), t.state.committed oneArtifact) := rfl
  rw [hcommit] at hwrite
  obtain ⟨aligned, haligned⟩ : ∃ aligned, CheckpointAligner.alignWithTx
      twoItemsState.orchestrator.checkpointService twoItemsPlan 1 1 5 = .ok aligned := ⟨_, rfl⟩
  exact proceedWith_returns false rfl rfl haligned hwrite

/-- Where no statement fails, the two entries are those that are stored. -/
theorem graph_updates_truthful_sample :
    ∃ result w', (proceedWith (twoItemsState.orchestrator.updateInTransaction 1 (fun _ => none) none
        twoItemsPlan.affectedItems 1 1 2) twoItemsState twoItemsRun 1 twoItemsClaims twoItemsIntent
        twoItemsPlan false).on ⟨oneArtifact, []⟩ = (.ok result, w') ∧
      ReportsTruthfully (w'.graph.node none) result.graphUpdates := by
  obtain ⟨result, w', hrun⟩ := twoItems_returns fun _ => none
  refine ⟨result, w', hrun, ?_⟩
  let toVersion : IntentVersion := { versionWithScope [] with versionNumber := 2 }
  exact (graph_updates_truthful_iff.2.2 (fun _ => none) twoItemsState twoItemsRun 1 twoItemsClaims
    twoItemsIntent toVersion twoItemsPlan false _ _ _ hrun).mpr (.inl fun _ _ => rfl)

/-- The query of the second item fails, the statement after the three that update the first. -/
def fourthFails (k : Nat) : Option String := if k = 3 then some "statement timeout" else none

/-- The update of the first item is reported and not stored. -/
theorem aborted_update_reported :
    twoItemsState.orchestrator.evaluateApply twoItemsPlan = .proceed false ∧
    ∃ result w', (proceedWith (twoItemsState.orchestrator.updateInTransaction 1 fourthFails none
        twoItemsPlan.affectedItems 1 1 2) twoItemsState twoItemsRun 1 twoItemsClaims twoItemsIntent
        twoItemsPlan false).on ⟨oneArtifact, []⟩ = (.ok result, w') ∧
      ¬ ReportsTruthfully (w'.graph.node none) result.graphUpdates := by
  obtain ⟨result, w', hrun⟩ := twoItems_returns fourthFails
  refine ⟨rfl, result, w', hrun, fun htruth => ?_⟩
  have hids : twoItemsPlan.affectedItems.stale.map AffectedItem.nodeId = [20, 21] := rfl
  rw [updateInTransaction_truthful _ _ _ _ _ _ _ _ (proceedWith_ok hrun), hids] at htruth
  rcases htruth with hquiet | hunwritten
  · have hsent : 3 < statementsSent (oneArtifact.activeFor 1) [20, 21] := by
      rw [statementsSent, if_pos oneArtifact_active, statementsSent]
      split <;> omega
    exact absurd (hquiet 3 hsent) (by decide)
  · obtain ⟨k, hk, hfault⟩ := (writesNothing_active oneArtifact_active).mp hunwritten
    rw [Nat.zero_add, fourthFails, if_neg (Nat.ne_of_lt hk)] at hfault
    exact hfault rfl

end Sample

end IntentRebase
