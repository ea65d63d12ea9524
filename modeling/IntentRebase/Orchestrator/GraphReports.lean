import IntentRebase.Kit.SqlTransaction
import IntentRebase.Orchestrator.GraphMarks

/-! What the update of the graph reports, whichever of its statements fail: a reported update is
one that the calls on the nodes have left in what they see. -/

namespace IntentRebase

open Kit

/-- What the statements act on, with how many have been sent. -/
structure Sent (σ : Type) where
  state : σ
  sent : Nat

namespace Connection

variable (δ : Type)

/-- A connection outside a transaction, each of whose statements may meet a failure. -/
def pooled (faults : Nat → Option (Fault String)) : Connection δ (Sent δ) where
  execute run := fun t =>
    let (answer, state) := Fault.meet (faults t.sent) t.state (.ok (run t.state).1, (run t.state).2)
    (answer, ⟨state, t.sent + 1⟩)

/-- What is answered to a statement in an aborted transaction. -/
def inAborted : String :=
  "current transaction is aborted, commands ignored until end of transaction block"

/-- The connection of a transaction, each of whose statements may meet a failure. -/
def inTransaction (faults : Nat → Option String) : Connection δ (Sent (Transaction δ)) where
  execute run := fun t =>
    let (answer, tx) := t.state.statement inAborted (faults t.sent) fun s => .ok (run s)
    (answer, ⟨tx, t.sent + 1⟩)

end Connection

/-- The node is seen, in the given state. -/
def HasState (view : Uuid → Option GraphNode) (state : NodeState) (id : Uuid) : Prop :=
  ∃ node, view id = some node ∧ node.state = state

/-- An update that is reported as made is seen. -/
def GraphUpdateResult.Stored (view : Uuid → Option GraphNode) (result : GraphUpdateResult) : Prop :=
  result.success = true →
    ∃ action, result.action = some action ∧ HasState view action.newState action.nodeId

/-- A failure reports no update. -/
theorem GraphUpdateResult.failure_stored (view : Uuid → Option GraphNode) (newState : NodeState)
    (nodeId : Uuid) (error : String) :
    (GraphUpdateResult.failure nodeId error).Stored view ∧ ∀ action,
      (GraphUpdateResult.failure nodeId error).action = some action →
        action.newState = newState := by
  constructor
  · intro hsuccess
    cases hsuccess
  · intro action haction
    cases haction

/-- An update of a node that is seen in its new state is reported as it is. -/
theorem GraphUpdateResult.succeeded_stored {view : Uuid → Option GraphNode}
    {action : GraphUpdateAction} (h : HasState view action.newState action.nodeId) :
    (GraphUpdateResult.succeeded action).Stored view ∧ ∀ action',
      (GraphUpdateResult.succeeded action).action = some action' →
        action'.newState = action.newState := by
  constructor
  · exact fun _ => ⟨action, rfl, h⟩
  · intro action' haction
    obtain rfl := Option.some.inj haction
    rfl

/-- Every update that is reported as made is seen. -/
def ReportsTruthfully (view : Uuid → Option GraphNode) (results : List GraphUpdateResult) : Prop :=
  ∀ result ∈ results, result.Stored view

/-- Calls that show and write what is there: a node that they answer is seen, and an update of a
node that is seen writes its state or nothing. -/
structure HonestAccess {σ : Type} (access : NodeAccess σ) (view : σ → Uuid → Option GraphNode) :
    Prop where
  getNode : ∀ {s id answer s'}, (access.getNode id).on s = (answer, s') →
    view s' = view s ∧ ∀ node, answer = .ok node → view s id = some node
  updateNodeState : ∀ {s id node state answer s'}, view s id = some node →
    (access.updateNodeState id state).on s = (answer, s') →
      (view s' = view s ∨ ∀ other, view s' other =
        if other = id then some { node with state } else view s other) ∧
      ∀ updated, answer = .ok updated → HasState (view s') state id

section Honest

variable {σ : Type} {graphService : GraphService σ} {view : σ → Uuid → Option GraphNode}
  (h : HonestAccess graphService.toNodeAccess view) (newState : NodeState)

include h

/-- What one update reports is seen after it, and the nodes of the new state stay in it. -/
theorem HonestAccess.updateNodeStateIfAffected_on (s : σ) (id : Uuid) (reason : String) :
    ∃ result s', (GraphUpdater.updateNodeStateIfAffected graphService id newState reason).on s =
        (.ok result, s') ∧
      (∀ other, HasState (view s) newState other → HasState (view s') newState other) ∧
      result.Stored (view s') ∧
      ∀ action, result.action = some action → action.newState = newState := by
  rw [GraphUpdater.updateNodeStateIfAffected, Effect.on_bind_ok (Effect.on_attempt _ _)]
  obtain ⟨answer, s₁, hget⟩ : ∃ answer s₁, (graphService.getNode id).on s = (answer, s₁) :=
    ⟨_, _, rfl⟩
  obtain ⟨hview, hnode⟩ := h.getNode hget
  have hkept : ∀ other, HasState (view s) newState other → HasState (view s₁) newState other := by
    rw [hview]
    exact fun _ hother => hother
  rw [hget]
  cases answer with
  | error e => exact ⟨_, s₁, rfl, hkept, GraphUpdateResult.failure_stored ..⟩
  | ok node =>
    have hseen : view s₁ id = some node := by
      rw [hview]
      exact hnode node rfl
    dsimp only
    split
    · exact ⟨_, s₁, rfl, hkept, GraphUpdateResult.failure_stored ..⟩
    · split
      · next hsame =>
        exact ⟨_, s₁, rfl, hkept, GraphUpdateResult.succeeded_stored ⟨node, hseen, hsame⟩⟩
      · obtain ⟨updated, s₂, hupdate⟩ : ∃ updated s₂,
            (graphService.updateNodeState id newState).on s₁ = (updated, s₂) := ⟨_, _, rfl⟩
        obtain ⟨hwritten, hstored⟩ := h.updateNodeState hseen hupdate
        have hkept' : ∀ other, HasState (view s) newState other →
            HasState (view s₂) newState other := by
          intro other hother
          obtain ⟨found, hfound, hstate⟩ := hkept other hother
          rcases hwritten with hsame | hwritten
          · exact ⟨found, by rw [hsame, hfound], hstate⟩
          · rw [HasState, hwritten]
            split
            · exact ⟨_, rfl, rfl⟩
            · exact ⟨found, hfound, hstate⟩
        rw [Effect.on_bind_ok (Effect.on_attempt _ _), hupdate]
        cases updated with
        | error e => exact ⟨_, s₂, rfl, hkept', GraphUpdateResult.failure_stored ..⟩
        | ok updatedNode =>
          exact ⟨_, s₂, rfl, hkept',
            GraphUpdateResult.succeeded_stored (hstored updatedNode rfl)⟩

/-- What updates to one state report is seen after them all. -/
theorem HonestAccess.mapM_on (marks : List (Uuid × String)) (s : σ) :
    ∃ results s', (marks.mapM fun mark =>
        GraphUpdater.updateNodeStateIfAffected graphService mark.1 newState mark.2).on s =
        (.ok results, s') ∧
      (∀ other, HasState (view s) newState other → HasState (view s') newState other) ∧
      ReportsTruthfully (view s') results := by
  induction marks generalizing s with
  | nil =>
    exact ⟨[], s, rfl, fun _ hother => hother, fun _ hmem => absurd hmem List.not_mem_nil⟩
  | cons mark marks ih =>
    obtain ⟨result, s₁, hfirst, hkept₁, hstored, hstate⟩ :=
      h.updateNodeStateIfAffected_on newState s mark.1 mark.2
    obtain ⟨results, s₂, hothers, hkept₂, htruth⟩ := ih s₁
    refine ⟨result :: results, s₂, ?_, fun other hother => hkept₂ other (hkept₁ other hother),
      List.forall_mem_cons.mpr ⟨fun hsuccess => ?_, htruth⟩⟩
    · rw [List.mapM_cons, Effect.on_bind_ok hfirst, Effect.on_bind_ok hothers, Effect.on_pure]
    · obtain ⟨action, haction, hseen⟩ := hstored hsuccess
      rw [hstate action haction] at hseen
      exact ⟨action, haction, by rw [hstate action haction]; exact hkept₂ _ hseen⟩

end Honest

/-- Calls that always reach a store show and write what is there. -/
theorem NodeStore.honest {σ ρ : Type} {access : NodeAccess σ}
    {view : σ → Uuid → Option GraphNode} {rest : σ → ρ} (h : NodeStore access view rest) :
    HonestAccess access view where
  getNode {s id answer s'} hget := by
    cases hview : view s id with
    | none =>
      obtain ⟨rfl, rfl⟩ := Prod.mk.inj ((h.getNode_none hview).symm.trans hget)
      exact ⟨rfl, fun _ hnode => by cases hnode⟩
    | some node =>
      obtain ⟨rfl, rfl⟩ := Prod.mk.inj ((h.getNode hview).symm.trans hget)
      exact ⟨rfl, fun _ hnode => congrArg some (Except.ok.inj hnode)⟩
  updateNodeState {s id node state answer s'} hview hupdate := by
    obtain ⟨s₁, hon, -, hwritten⟩ := h.updateNodeState state hview
    obtain ⟨rfl, rfl⟩ := Prod.mk.inj (hon.symm.trans hupdate)
    refine ⟨.inr hwritten, fun _ _ => ⟨{ node with state }, ?_, rfl⟩⟩
    rw [hwritten, if_pos rfl]

/-- An update of a node that its session does not see affects no row. -/
theorem SqlxGraphTables.updateState_of_none {s : SqlxGraphTables} {session : Option Uuid}
    {id : Uuid} (h : s.node session id = none) (state : NodeState) :
    s.updateState session id state = (0, s) := by
  rw [SqlxGraphTables.node_eq_none] at h
  unfold SqlxGraphTables.updateState
  split
  · rfl
  · next row hrow => cases h.symm.trans hrow

namespace Connection

variable {τ : Type} {connection : Connection SqlxGraphTables τ} {tables : τ → SqlxGraphTables}
  {session : Option Uuid}

/-- A statement runs, or it fails and has run or not. -/
def RunsOrFails (connection : Connection SqlxGraphTables τ) (tables : τ → SqlxGraphTables) : Prop :=
  ∀ {α : Type} (run : SqlxGraphTables → α × SqlxGraphTables) (t : τ),
    ∃ answer t', (connection.execute run).on t = (answer, t') ∧
      (tables t' = tables t ∨ tables t' = (run (tables t)).2) ∧
      ∀ a, answer = .ok a → a = (run (tables t)).1 ∧ tables t' = (run (tables t)).2

theorem updateNodeState_none {id : Uuid} {state : NodeState} {t t' : τ}
    (h : (connection.execute fun s => s.updateState session id state).on t = (.ok 0, t')) :
    (connection.updateNodeState session id state).on t =
      (.error (.graphNodeNotFound id), t') := by
  rw [updateNodeState, Effect.on_bind_ok (Effect.on_attempt _ _), h]
  rfl

/-- A query that runs or fails changes nothing, and answers what its session sees. -/
theorem RunsOrFails.getNode_on (h : RunsOrFails connection tables) (session : Option Uuid) (t : τ)
    (id : Uuid) :
    ∃ answer t', (connection.getNode session id).on t = (answer, t') ∧ tables t' = tables t ∧
      ∀ node, answer = .ok node → (tables t).node session id = some node := by
  obtain ⟨answer, t', hquery, hkept, hok⟩ := h (fun s => (s.tables.findNode session id, s)) t
  have hsame : tables t' = tables t := hkept.elim (fun hkept => hkept) fun hrun => hrun
  cases answer with
  | error e => exact ⟨_, t', getNode_error hquery, hsame, fun _ hnode => by cases hnode⟩
  | ok found =>
    obtain rfl := (hok found rfl).1
    refine ⟨_, t', getNode_answer hquery, hsame, fun node hnode => ?_⟩
    cases hseen : (tables t).node session id with
    | none =>
      rw [hseen] at hnode
      cases hnode
    | some seen =>
      rw [hseen] at hnode
      exact congrArg some (Except.ok.inj hnode)

/-- Over a connection whose statements run or fail, the calls show and write what is there. -/
theorem RunsOrFails.honest (h : RunsOrFails connection tables) :
    HonestAccess (connection.nodeAccess session) fun t => (tables t).node none where
  getNode {t id answer t'} hget := by
    obtain ⟨answer', t₁, hon, hsame, hseen⟩ := h.getNode_on session t id
    obtain ⟨rfl, rfl⟩ := Prod.mk.inj (hon.symm.trans hget)
    exact ⟨by rw [hsame], fun node hnode => SqlxGraphTables.node_none (hseen node hnode)⟩
  updateNodeState {t id node state answer t'} hview hupdate := by
    obtain ⟨affected, t₁, hstatement, hkept, hok⟩ :=
      h (fun s => s.updateState session id state) t
    cases hnode : (tables t).node session id with
    | none =>
      rw [SqlxGraphTables.updateState_of_none hnode state] at hkept hok
      have hsame : tables t₁ = tables t := hkept.elim (fun hkept => hkept) fun hrun => hrun
      cases affected with
      | error e =>
        obtain ⟨rfl, rfl⟩ := Prod.mk.inj ((updateNodeState_error hstatement).symm.trans hupdate)
        exact ⟨.inl (by rw [hsame]), fun _ hupdated => by cases hupdated⟩
      | ok count =>
        obtain ⟨rfl, -⟩ := hok count rfl
        obtain ⟨rfl, rfl⟩ := Prod.mk.inj ((updateNodeState_none hstatement).symm.trans hupdate)
        exact ⟨.inl (by rw [hsame]), fun _ hupdated => by cases hupdated⟩
    | some seen =>
      obtain ⟨s', hwrite, -, hnodes⟩ := SqlxGraphTables.updateState_of_node hnode state
      have hwritten : ∀ other, s'.node none other =
          if other = id then some { node with state } else (tables t).node none other := by
        intro other
        rw [hnodes, hview, Option.map_some]
      rw [hwrite] at hkept hok
      cases affected with
      | error e =>
        obtain ⟨rfl, rfl⟩ := Prod.mk.inj ((updateNodeState_error hstatement).symm.trans hupdate)
        refine ⟨?_, fun _ hupdated => by cases hupdated⟩
        rcases hkept with hsame | hrun
        · exact .inl (by rw [hsame])
        · exact .inr (by rwa [hrun])
      | ok count =>
        obtain ⟨rfl, hrun⟩ := hok count rfl
        obtain ⟨answer', t₂, hon, hsame, hseen⟩ := h.getNode_on session t₁ id
        obtain ⟨rfl, rfl⟩ := Prod.mk.inj
          (((updateNodeState_answer hstatement).trans hon).symm.trans hupdate)
        rw [hsame, hrun]
        refine ⟨.inr hwritten, fun updated _ => ⟨{ node with state }, ?_, rfl⟩⟩
        rw [hwritten, if_pos rfl]

theorem pooled_runsOrFails (faults : Nat → Option (Fault String)) :
    RunsOrFails (pooled SqlxGraphTables faults) Sent.state := by
  intro α run t
  let answer : Except String α × SqlxGraphTables := (.ok (run t.state).1, (run t.state).2)
  refine ⟨(Fault.meet (faults t.sent) t.state answer).1,
    ⟨(Fault.meet (faults t.sent) t.state answer).2, t.sent + 1⟩, rfl, ?_, fun a ha => ?_⟩
  · rcases Fault.meet_state (faults t.sent) t.state answer with ⟨-, -, hsame⟩ | ⟨-, hrun⟩
    · exact .inl hsame
    · exact .inr hrun
  · obtain ⟨-, hanswer⟩ := Fault.meet_ok (Prod.ext ha rfl)
    exact ⟨(Except.ok.inj (congrArg Prod.fst hanswer)).symm, (congrArg Prod.snd hanswer).symm⟩

theorem inTransaction_runsOrFails (faults : Nat → Option String) :
    RunsOrFails (inTransaction SqlxGraphTables faults) fun t => t.state.work := by
  intro α run t
  let answered := t.state.statement inAborted (faults t.sent) fun s => .ok (run s)
  refine ⟨answered.1, ⟨answered.2, t.sent + 1⟩, rfl, ?_⟩
  cases hstatement : answered with
  | mk answer tx =>
    cases answer with
    | error e =>
      exact ⟨.inl (Transaction.statement_error_work hstatement), fun _ ha => by cases ha⟩
    | ok a =>
      obtain ⟨-, -, hrun, -⟩ := Transaction.statement_ok hstatement
      have hanswer := Except.ok.inj hrun
      refine ⟨.inr (congrArg Prod.snd hanswer).symm, fun a' ha => ?_⟩
      obtain rfl := Except.ok.inj ha
      exact ⟨(congrArg Prod.fst hanswer).symm, (congrArg Prod.snd hanswer).symm⟩

end Connection

end IntentRebase
