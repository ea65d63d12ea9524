import Mathlib.Logic.Function.Basic
import IntentRebase.Orchestrator.GraphUpdater

/-! Many changes of node states at once. A change reads its node, checks the transition from what it
read, and writes; the three steps of the changes come in any order. -/

namespace IntentRebase

open Kit

structure UpdateRequest where
  nodeId : Uuid
  newState : NodeState
  reason : String
deriving DecidableEq, Repr

/-- How far a change has come. -/
inductive UpdateStage where
  | fetched (node : GraphNode)
  | validated (node : GraphNode)
  | finished (result : GraphUpdateResult)

namespace UpdateRequest

/-- What the read leaves. -/
def afterRead (request : UpdateRequest) : Except IntentRebaseError GraphNode → UpdateStage
  | .error e => .finished (.failure request.nodeId s!"Node not found: {e.display}")
  | .ok node => .fetched node

/-- What the check of the transition leaves. -/
def check (request : UpdateRequest) (node : GraphNode) : UpdateStage :=
  if !isValidTransition node.state request.newState then
    .finished (.failure request.nodeId
      s!"Invalid transition: {node.state.debug} -> {request.newState.debug}")
  else if node.state = request.newState then
    .finished (.succeeded
      { nodeId := request.nodeId, nodeType := node.nodeType, label := node.label
        previousState := node.state, newState := request.newState
        reason := s!"No change needed: already in {request.newState.debug}" })
  else .validated node

/-- What the write leaves. -/
def afterWrite (request : UpdateRequest) (node : GraphNode) :
    Except IntentRebaseError GraphNode → UpdateStage
  | .ok updatedNode => .finished (.succeeded
      { nodeId := request.nodeId, nodeType := updatedNode.nodeType, label := updatedNode.label
        previousState := node.state, newState := request.newState, reason := request.reason })
  | .error e => .finished (.failure request.nodeId s!"Update failed: {e.display}")

/-- A change goes on to write only between two states that the table joins. -/
theorem check_validated {request : UpdateRequest} {node node' : GraphNode}
    (h : request.check node = .validated node') :
    node' = node ∧ isValidTransition node.state request.newState = true ∧
      node.state ≠ request.newState := by
  unfold check at h
  split at h
  · cases h
  next hvalid =>
    split at h
    · cases h
    next hne =>
      cases h
      exact ⟨rfl, by simpa using hvalid, hne⟩

theorem check_ne_fetched (request : UpdateRequest) (node node' : GraphNode) :
    request.check node ≠ .fetched node' := by
  unfold check
  split
  · nofun
  · split <;> nofun

end UpdateRequest

/-- The graph, and how far each change has come. -/
structure Updaters (ι : Type) where
  graph : GraphState
  stage : ι → Option (UpdateRequest × UpdateStage)

/-- A step of one change. -/
inductive UpdateEvent (ι : Type) where
  | read (op : ι) (request : UpdateRequest)
  | validate (op : ι)
  | write (op : ι) (request : UpdateRequest)
deriving DecidableEq

namespace Updaters

variable {ι : Type} [DecidableEq ι]

/-- No change has begun. -/
def start (graph : GraphState) : Updaters ι where
  graph := graph
  stage := fun _ => none

def setStage (s : Updaters ι) (op : ι) (request : UpdateRequest) (stage : UpdateStage) :
    Updaters ι :=
  { s with stage := Function.update s.stage op (some (request, stage)) }

/-- The stored state of a node. -/
def stateOf (s : Updaters ι) (id : Uuid) : Option NodeState :=
  (s.graph.nodes.lookup id).map GraphNode.state

theorem setStage_self (s : Updaters ι) (op : ι) (request : UpdateRequest) (stage : UpdateStage) :
    (s.setStage op request stage).stage op = some (request, stage) := Function.update_self ..

theorem setStage_ne {s : Updaters ι} {op other : ι} {request : UpdateRequest}
    {stage : UpdateStage} (h : other ≠ op) :
    (s.setStage op request stage).stage other = s.stage other := Function.update_of_ne h ..

@[simp] theorem setStage_setStage (s : Updaters ι) (op : ι) (request request' : UpdateRequest)
    (stage stage' : UpdateStage) :
    (s.setStage op request stage).setStage op request' stage' = s.setStage op request' stage' := by
  simp [setStage]

/-- One step of one change. -/
inductive Step : Updaters ι → UpdateEvent ι → Updaters ι → Prop
  | read {s : Updaters ι} {op : ι} {request : UpdateRequest} (idle : s.stage op = none) :
      Step s (.read op request)
        (s.setStage op request (request.afterRead (s.graph.getNode request.nodeId)))
  | validate {s : Updaters ι} {op : ι} {request : UpdateRequest} {node : GraphNode}
      (h : s.stage op = some (request, .fetched node)) :
      Step s (.validate op) (s.setStage op request (request.check node))
  | write {s : Updaters ι} {op : ι} {request : UpdateRequest} {node : GraphNode}
      {answer : Except IntentRebaseError GraphNode} {graph : GraphState}
      (h : s.stage op = some (request, .validated node))
      (hwrite : (InMemoryGraphRepository.updateNodeState request.nodeId request.newState).on
        s.graph = (answer, graph)) :
      Step s (.write op request)
        { s.setStage op request (request.afterWrite node answer) with graph }

section Alone

variable {s : Updaters ι} {op : ι} {request : UpdateRequest}

/-- A change that no other interrupts is a call of the updater. -/
theorem run_alone (idle : s.stage op = none) :
    ∃ events result graph,
      (GraphUpdater.updateNodeStateIfAffected InMemoryGraphRepository.service request.nodeId
        request.newState request.reason).on s.graph = (.ok result, graph) ∧
      Run Step s events { s.setStage op request (.finished result) with graph } := by
  have hread : Step s (.read op request)
      (s.setStage op request (request.afterRead (s.graph.getNode request.nodeId))) := .read idle
  rw [GraphUpdater.updateNodeStateIfAffected, Effect.on_bind_ok (Effect.on_attempt _ _)]
  have hget : (InMemoryGraphRepository.service.getNode request.nodeId).on s.graph =
      (s.graph.getNode request.nodeId, s.graph) := rfl
  rw [hget]
  dsimp only
  cases hnode : s.graph.getNode request.nodeId with
  | error e =>
    rw [hnode] at hread
    exact ⟨_, _, _, rfl, .cons hread (.nil _)⟩
  | ok node =>
    rw [hnode] at hread
    have hcheck : Step (s.setStage op request (.fetched node)) (.validate op)
        (s.setStage op request (request.check node)) := by
      have h := Step.validate (setStage_self s op request (.fetched node))
      rwa [setStage_setStage] at h
    dsimp only
    by_cases hvalid : isValidTransition node.state request.newState = true
    · by_cases hsame : node.state = request.newState
      · rw [UpdateRequest.check, if_neg (by simp [hvalid]), if_pos hsame] at hcheck
        rw [if_neg (by simp [hvalid]), if_pos hsame]
        exact ⟨_, _, _, rfl, .cons hread (.cons hcheck (.nil _))⟩
      · rw [UpdateRequest.check, if_neg (by simp [hvalid]), if_neg hsame] at hcheck
        rw [if_neg (by simp [hvalid]), if_neg hsame, Effect.on_bind_ok (Effect.on_attempt _ _)]
        cases hwrite : (InMemoryGraphRepository.updateNodeState request.nodeId
            request.newState).on s.graph with
        | mk answer graph =>
          have hwrote : Step (s.setStage op request (.validated node)) (.write op request)
              { s.setStage op request (request.afterWrite node answer) with graph } := by
            have h := Step.write (setStage_self s op request (.validated node)) hwrite
            rwa [setStage_setStage] at h
          have hservice : (InMemoryGraphRepository.service.updateNodeState request.nodeId
              request.newState).on s.graph = (answer, graph) := hwrite
          rw [hservice]
          cases answer with
          | ok updatedNode =>
            exact ⟨_, _, _, rfl, .cons hread (.cons hcheck (.cons hwrote (.nil _)))⟩
          | error e => exact ⟨_, _, _, rfl, .cons hread (.cons hcheck (.cons hwrote (.nil _)))⟩
    · rw [UpdateRequest.check, if_pos (by simp [hvalid])] at hcheck
      rw [if_pos (by simp [hvalid])]
      exact ⟨_, _, _, rfl, .cons hread (.cons hcheck (.nil _))⟩

end Alone

section Terminal

/-- A write of a terminal state to the node of a request, other than the state it asks for. -/
def Forecloses (request : UpdateRequest) (event : UpdateEvent ι) : Prop :=
  ∃ other written, event = .write other written ∧ written.nodeId = request.nodeId ∧
    written.newState.IsTerminal ∧ written.newState ≠ request.newState

/-- Between the read of a change and this point, another change has made its node terminal. -/
def Overtaken (before : List (UpdateEvent ι)) (op : ι) (request : UpdateRequest) : Prop :=
  ∃ early late, before = early ++ .read op request :: late ∧ ∃ event ∈ late,
    Forecloses request event

/-- No change that was overtaken writes. -/
def Undisturbed (events : List (UpdateEvent ι)) : Prop :=
  ∀ before op request after, events = before ++ .write op request :: after →
    ¬ Overtaken before op request

/-- Once a node is terminal, it holds no state that the table forbids from there. -/
def KeepsTerminal (s : Updaters ι) (events : List (UpdateEvent ι)) : Prop :=
  ∀ before between after s₁ s₂, events = before ++ between ++ after →
    Run Step s before s₁ → Run Step s₁ between s₂ →
    ∀ id src dst, s₁.stateOf id = some src → src.IsTerminal → s₂.stateOf id = some dst →
      isValidTransition src dst = true

/-- The change has read its node and has not finished. -/
def Pending (s : Updaters ι) (op : ι) (request : UpdateRequest) (node : GraphNode) : Prop :=
  s.stage op = some (request, .fetched node) ∨ s.stage op = some (request, .validated node)

variable {s s' : Updaters ι} {op : ι} {request : UpdateRequest} {node : GraphNode}
  {before : List (UpdateEvent ι)} {event : UpdateEvent ι}

omit [DecidableEq ι] in
theorem overtaken_concat :
    Overtaken (before ++ [event]) op request ↔
      Overtaken before op request ∨ (.read op request ∈ before ∧ Forecloses request event) := by
  constructor
  · rintro ⟨early, late, hsplit, last, hlast, hforecloses⟩
    rcases split_concat hsplit with ⟨-, -, rfl⟩ | ⟨late', hbefore, rfl⟩
    · cases hlast
    · rcases List.mem_append.mp hlast with hmem | hmem
      · exact .inl ⟨early, late', hbefore, last, hmem, hforecloses⟩
      · rw [List.mem_singleton.mp hmem] at hforecloses
        exact .inr ⟨by simp [hbefore], hforecloses⟩
  · rintro (⟨early, late, rfl, last, hlast, hforecloses⟩ | ⟨hread, hforecloses⟩)
    · exact ⟨early, late ++ [event], by simp, last, List.mem_append_left _ hlast, hforecloses⟩
    · obtain ⟨early, late, rfl⟩ := List.append_of_mem hread
      exact ⟨early, late ++ [event], by simp, event, by simp, hforecloses⟩

omit [DecidableEq ι] in
theorem undisturbed_concat (h : Undisturbed before)
    (hlast : ∀ op request, event = .write op request → ¬ Overtaken before op request) :
    Undisturbed (before ++ [event]) := by
  intro early op request after hsplit
  rcases split_concat hsplit with ⟨rfl, hevent, -⟩ | ⟨after', hbefore, -⟩
  · exact hlast op request hevent.symm
  · exact h early op request after' hbefore

/-- What a step does to the stored states: nothing, or the write of a change that was checked. -/
theorem Step.stateOf_cases (h : Step s event s') :
    ((∀ id, s'.stateOf id = s.stateOf id) ∧
      ∀ op request, event = .write op request → s.stateOf request.nodeId = none) ∨
    ∃ op request node, event = .write op request ∧ s.stage op = some (request, .validated node) ∧
      (∃ state, s.stateOf request.nodeId = some state) ∧
      s'.stateOf request.nodeId = some request.newState ∧
      ∀ id, id ≠ request.nodeId → s'.stateOf id = s.stateOf id := by
  cases h with
  | read idle => exact .inl ⟨fun id => rfl, by rintro _ _ h; cases h⟩
  | validate h => exact .inl ⟨fun id => rfl, by rintro _ _ h; cases h⟩
  | @write op request node answer graph h hwrite =>
    rw [InMemoryGraphRepository.updateNodeState_eq, Effect.on_transaction] at hwrite
    cases hupdate : s.graph.updateNodeState request.nodeId request.newState with
    | error e =>
      rw [hupdate] at hwrite
      cases hwrite
      refine .inl ⟨fun id => rfl, ?_⟩
      rintro _ _ h
      cases h
      cases hnode : s.graph.nodes.lookup request.nodeId with
      | none => simp [stateOf, hnode]
      | some old =>
        rw [GraphState.updateNodeState, hnode] at hupdate
        cases hupdate
    | ok p =>
      obtain ⟨updated, after⟩ := p
      rw [hupdate] at hwrite
      cases hwrite
      obtain ⟨old, hold, rfl, rfl⟩ := GraphState.updateNodeState_ok hupdate
      refine .inr ⟨op, request, node, rfl, h, ⟨old.state, by simp [stateOf, hold]⟩, ?_, ?_⟩
      · simp [stateOf]
      · intro id hid
        simp [stateOf, AList.lookup_insert_ne hid]

/-- What a step does to one change: nothing, or its next stage. -/
theorem Step.stage_cases (h : Step s event s') (op : ι) :
    (s'.stage op = s.stage op ∧ ∀ request, event ≠ .read op request) ∨
    (∃ request, event = .read op request ∧ s.stage op = none ∧
      s'.stage op = some (request, request.afterRead (s.graph.getNode request.nodeId))) ∨
    (∃ request node, s.stage op = some (request, .fetched node) ∧
      s'.stage op = some (request, request.check node)) ∨
    ∃ request result, s'.stage op = some (request, .finished result) := by
  cases h with
  | @read actor request idle =>
    by_cases hop : op = actor
    · subst hop
      exact .inr (.inl ⟨request, rfl, idle, setStage_self ..⟩)
    · exact .inl ⟨setStage_ne hop, by rintro _ h; cases h; exact hop rfl⟩
  | @validate actor request node hstage =>
    by_cases hop : op = actor
    · subst hop
      exact .inr (.inr (.inl ⟨request, node, hstage, setStage_self ..⟩))
    · exact .inl ⟨setStage_ne hop, by rintro _ h; cases h⟩
  | @write actor request node answer graph hstage hwrite =>
    by_cases hop : op = actor
    · subst hop
      have hself : (s.setStage op request (request.afterWrite node answer)).stage op =
          some (request, request.afterWrite node answer) := setStage_self ..
      cases answer with
      | ok updated => exact .inr (.inr (.inr ⟨request, _, hself⟩))
      | error e => exact .inr (.inr (.inr ⟨request, _, hself⟩))
    · exact .inl ⟨setStage_ne hop, by rintro _ h; cases h⟩

/-- A change that a step leaves pending has just read its node, or was pending before. -/
theorem Step.pending (h : Step s event s') (hpending : Pending s' op request node) :
    (event = .read op request ∧ s.stage op = none ∧ s.stateOf request.nodeId = some node.state) ∨
    Pending s op request node := by
  unfold Pending at hpending
  rcases h.stage_cases op with ⟨hsame, -⟩ | ⟨read, rfl, idle, hafter⟩ |
    ⟨checked, found, hbefore, hafter⟩ | ⟨written, result, hafter⟩
  · rw [hsame] at hpending
    exact .inr hpending
  · rw [hafter, GraphState.getNode] at hpending
    cases hnode : s.graph.nodes.lookup read.nodeId with
    | none =>
      rw [hnode] at hpending
      rcases hpending with hstage | hstage <;> cases hstage
    | some stored =>
      rw [hnode] at hpending
      rcases hpending with hstage | hstage
      · cases hstage
        exact .inl ⟨rfl, idle, by simp [stateOf, hnode]⟩
      · cases hstage
  · rw [hafter, Option.some.injEq, Prod.mk.injEq, Option.some.injEq, Prod.mk.injEq] at hpending
    rcases hpending with ⟨rfl, hcheck⟩ | ⟨rfl, hcheck⟩
    · exact absurd hcheck (UpdateRequest.check_ne_fetched _ _ _)
    · obtain ⟨rfl, -⟩ := UpdateRequest.check_validated hcheck
      exact .inr (.inl hbefore)
  · rw [hafter] at hpending
    rcases hpending with hstage | hstage <;> cases hstage

/-- A change that a step leaves checked was checked before, or the table allows it. -/
theorem Step.validated (h : Step s event s')
    (hstage : s'.stage op = some (request, .validated node)) :
    s.stage op = some (request, .validated node) ∨
    (isValidTransition node.state request.newState = true ∧ node.state ≠ request.newState) := by
  rcases h.stage_cases op with ⟨hsame, -⟩ | ⟨read, rfl, idle, hafter⟩ |
    ⟨checked, found, hbefore, hafter⟩ | ⟨written, result, hafter⟩
  · exact .inl (hsame.symm.trans hstage)
  · rw [hafter, Option.some.injEq, Prod.mk.injEq] at hstage
    obtain ⟨rfl, hread⟩ := hstage
    cases hget : s.graph.getNode read.nodeId with
    | error e => rw [hget] at hread; cases hread
    | ok stored => rw [hget] at hread; cases hread
  · rw [hafter, Option.some.injEq, Prod.mk.injEq] at hstage
    obtain ⟨rfl, hcheck⟩ := hstage
    obtain ⟨rfl, hvalid⟩ := UpdateRequest.check_validated hcheck
    exact .inr hvalid
  · rw [hafter] at hstage
    cases hstage

/-- What is known of the changes after the events so far. -/
structure Tracked (before : List (UpdateEvent ι)) (s : Updaters ι) : Prop where
  unread : ∀ op request, s.stage op = none → .read op request ∉ before
  read : ∀ op request node, Pending s op request node → .read op request ∈ before
  stored : ∀ op request node, Pending s op request node →
    ∃ state, s.stateOf request.nodeId = some state
  allowed : ∀ op request node, s.stage op = some (request, .validated node) →
    isValidTransition node.state request.newState = true ∧ node.state ≠ request.newState
  /-- A node that became terminal behind a change's back did so by a write that overtook it. -/
  overtaken : ∀ op request node, Pending s op request node → ¬ node.state.IsTerminal →
    ∀ state, s.stateOf request.nodeId = some state → state.IsTerminal →
      state ≠ request.newState → Overtaken before op request
  /-- A node that made a change late has stayed terminal. -/
  late : ∀ op request node, Pending s op request node → Overtaken before op request →
    ∃ state, s.stateOf request.nodeId = some state ∧ state.IsTerminal ∧ state ≠ request.newState

omit [DecidableEq ι] in
theorem Tracked.start (graph : GraphState) : Tracked (ι := ι) [] (start graph) where
  unread _ _ _ := List.not_mem_nil
  read op request node h := by rcases h with h | h <;> cases h
  stored op request node h := by rcases h with h | h <;> cases h
  allowed op request node h := by cases h
  overtaken op request node h := by rcases h with h | h <;> cases h
  late op request node h := by rcases h with h | h <;> cases h

/-- No step but the write of an overtaken change takes a node out of a terminal state. -/
theorem Tracked.keeps (ht : Tracked before s) (h : Step s event s')
    (hlast : ∀ op request, event = .write op request → ¬ Overtaken before op request)
    {id : Uuid} {state : NodeState} (hstate : s.stateOf id = some state)
    (hterminal : state.IsTerminal) : s'.stateOf id = some state := by
  rcases h.stateOf_cases with ⟨hsame, -⟩ | ⟨op, request, node, rfl, hstage, -, hnew, hothers⟩
  · rw [hsame, hstate]
  · by_cases hid : id = request.nodeId
    · subst hid
      obtain ⟨hvalid, hne⟩ := ht.allowed op request node hstage
      have hlive : ¬ node.state.IsTerminal := fun hdead =>
        hne ((isValidTransition_terminal hdead).mp hvalid).symm
      have hwritten : state = request.newState := by
        by_contra hother
        exact hlast op request rfl
          (ht.overtaken op request node (.inr hstage) hlive state hstate hterminal hother)
      rw [hnew, hwritten]
    · rw [hothers id hid, hstate]

/-- Each node that a pending change has read stays stored. -/
theorem Step.stored (h : Step s event s') {id : Uuid} {state : NodeState}
    (hstate : s.stateOf id = some state) : ∃ state', s'.stateOf id = some state' := by
  rcases h.stateOf_cases with ⟨hsame, -⟩ | ⟨op, request, node, -, -, -, hnew, hothers⟩
  · exact ⟨state, by rw [hsame, hstate]⟩
  · by_cases hid : id = request.nodeId
    · exact ⟨request.newState, by rw [hid, hnew]⟩
    · exact ⟨state, by rw [hothers id hid, hstate]⟩

theorem Tracked.step (ht : Tracked before s) (h : Step s event s')
    (hlast : ∀ op request, event = .write op request → ¬ Overtaken before op request) :
    Tracked (before ++ [event]) s' where
  unread op request hidle hread := by
    rcases h.stage_cases op with ⟨hsame, hother⟩ | ⟨_, _, _, hafter⟩ | ⟨_, _, _, hafter⟩ |
      ⟨_, _, hafter⟩
    · rcases List.mem_append.mp hread with hmem | hmem
      · exact ht.unread op request (hsame.symm.trans hidle) hmem
      · exact hother request (List.mem_singleton.mp hmem).symm
    all_goals
      rw [hafter] at hidle
      cases hidle
  read op request node hpending := by
    rcases h.pending hpending with ⟨rfl, -⟩ | hbefore
    · simp
    · exact List.mem_append_left _ (ht.read op request node hbefore)
  stored op request node hpending := by
    rcases h.pending hpending with ⟨-, -, hstate⟩ | hbefore
    · exact h.stored hstate
    · obtain ⟨state, hstate⟩ := ht.stored op request node hbefore
      exact h.stored hstate
  allowed op request node hstage := by
    rcases h.validated hstage with hbefore | hvalid
    · exact ht.allowed op request node hbefore
    · exact hvalid
  overtaken op request node hpending hlive state hstate hterminal hne := by
    rw [overtaken_concat]
    rcases h.stateOf_cases with ⟨hsame, -⟩ |
      ⟨other, written, node', rfl, hstage, -, hnew, hothers⟩
    · rw [hsame] at hstate
      rcases h.pending hpending with ⟨-, -, hfound⟩ | hbefore
      · rw [hfound] at hstate
        cases hstate
        exact absurd hterminal hlive
      · exact .inl (ht.overtaken op request node hbefore hlive state hstate hterminal hne)
    · rcases h.pending hpending with ⟨hread, -⟩ | hbefore
      · cases hread
      · by_cases hid : request.nodeId = written.nodeId
        · rw [hid, hnew] at hstate
          cases hstate
          exact .inr ⟨ht.read op request node hbefore, other, written, rfl, hid.symm, hterminal,
            hne⟩
        · rw [hothers _ hid] at hstate
          exact .inl (ht.overtaken op request node hbefore hlive state hstate hterminal hne)
  late op request node hpending hovertaken := by
    rcases h.pending hpending with ⟨rfl, hidle, -⟩ | hbefore
    · -- A change that has just read its node was not overtaken: it is read only once.
      rcases overtaken_concat.mp hovertaken with ⟨early, late, hsplit, -⟩ | ⟨hread, -⟩
      · exact absurd (hsplit ▸ by simp) (ht.unread op request hidle)
      · exact absurd hread (ht.unread op request hidle)
    · rcases overtaken_concat.mp hovertaken with hearlier |
        ⟨-, other, written, rfl, hid, hforeclosed⟩
      · obtain ⟨state, hstate, hterminal, hne⟩ := ht.late op request node hbefore hearlier
        exact ⟨state, ht.keeps h hlast hstate hterminal, hterminal, hne⟩
      · obtain ⟨state, hstate⟩ := ht.stored op request node hbefore
        rcases h.stateOf_cases with ⟨-, hmissing⟩ | ⟨_, _, _, hevent, -, -, hnew, -⟩
        · rw [← hid, hmissing other written rfl] at hstate
          cases hstate
        · cases hevent
          exact ⟨written.newState, by rw [← hid, hnew], hforeclosed⟩

/-- The changes of a run in which no overtaken one writes. -/
theorem Tracked.of_run {graph : GraphState} {events : List (UpdateEvent ι)}
    (h : Run Step (.start graph) events s) (hundisturbed : Undisturbed events) :
    Tracked events s := by
  refine h.history Tracked ?_ (.start graph)
  intro before event after s₁ s₂ hsplit _ hstep ht
  exact ht.step hstep fun op request hwrite => hundisturbed before op request after (hwrite ▸ hsplit)

/-- An overtaken change that writes takes its node out of a terminal state. -/
theorem Tracked.leaves (ht : Tracked before s) (h : Step s (.write op request) s')
    (hovertaken : Overtaken before op request) :
    ∃ src, s.stateOf request.nodeId = some src ∧ src.IsTerminal ∧ src ≠ request.newState ∧
      s'.stateOf request.nodeId = some request.newState := by
  rcases h.stateOf_cases with ⟨-, hmissing⟩ | ⟨_, _, node, hevent, hstage, -, hnew, -⟩
  · cases h with
    | write hstage =>
      obtain ⟨state, hstate⟩ := ht.stored op request _ (.inr hstage)
      rw [hmissing op request rfl] at hstate
      cases hstate
  · cases hevent
    obtain ⟨src, hsrc, hterminal, hne⟩ := ht.late op request node (.inr hstage) hovertaken
    exact ⟨src, hsrc, hterminal, hne, hnew⟩

/-- In any interleaving of any number of changes, the terminal states are kept exactly if no change
writes whose node another has made terminal, in another state than it asks for, since it read it. -/
theorem keepsTerminal_iff_undisturbed {graph : GraphState} {events : List (UpdateEvent ι)}
    (h : Run Step (.start graph) events s) :
    KeepsTerminal (.start graph) events ↔ Undisturbed events := by
  constructor
  · intro hkeeps
    have hhistory : Undisturbed events ∧ Tracked events s := by
      refine h.history (fun before s => Undisturbed before ∧ Tracked before s) ?_ ?_
      · rintro before event after s₁ s₂ hsplit hrun hstep ⟨hundisturbed, ht⟩
        have hlast : ∀ op request, event = .write op request → ¬ Overtaken before op request := by
          rintro op request rfl hovertaken
          obtain ⟨src, hsrc, hterminal, hne, hdst⟩ := ht.leaves hstep hovertaken
          have hvalid := hkeeps before [.write op request] after s₁ s₂ (by simp [hsplit]) hrun
            (.cons hstep (.nil s₂)) request.nodeId src request.newState hsrc hterminal hdst
          exact hne ((isValidTransition_terminal hterminal).mp hvalid).symm
        exact ⟨undisturbed_concat hundisturbed hlast, ht.step hstep hlast⟩
      · exact ⟨by simp [Undisturbed], .start graph⟩
    exact hhistory.1
  · intro hundisturbed before between after s₁ s₂ hsplit hbefore hbetween id src dst hsrc hterminal
      hdst
    have hprefix : Undisturbed before := fun early op request rest hearly =>
      hundisturbed early op request (rest ++ between ++ after) (by simp [hsplit, hearly])
    have hkept : Tracked (before ++ between) s₂ ∧ s₂.stateOf id = some src := by
      have hfirst : Tracked (before ++ []) s₁ ∧ s₁.stateOf id = some src := by
        rw [List.append_nil]
        exact ⟨.of_run hbefore hprefix, hsrc⟩
      refine hbetween.history
        (fun part s => Tracked (before ++ part) s ∧ s.stateOf id = some src) ?_ hfirst
      rintro part event rest s₃ s₄ hpart - hstep ⟨ht, hstate⟩
      have hlast : ∀ op request, event = .write op request →
          ¬ Overtaken (before ++ part) op request := by
        rintro op request rfl
        exact hundisturbed (before ++ part) op request (rest ++ after) (by simp [hsplit, hpart])
      rw [← List.append_assoc]
      exact ⟨ht.step hstep hlast, ht.keeps hstep hlast hstate hterminal⟩
    rw [hkept.2, Option.some.injEq] at hdst
    exact (isValidTransition_terminal hterminal).mpr hdst.symm

/-- One stale node. -/
def staleGraph : GraphState :=
  let node := GraphState.newNode 1 0 (GraphStore.plainNode .artifact)
  { GraphState.empty with nodes := GraphState.empty.nodes.insert 1 { node with state := .stale } }

def archive : UpdateRequest := { nodeId := 1, newState := .archived, reason := "Superseded" }

def revalidate : UpdateRequest where
  nodeId := 1
  newState := .active
  reason := "Re-validated after successful rebase to v2"

/-- An archival, then a revalidation that finds the node archived. -/
def inTurn : List (UpdateEvent Bool) :=
  [.read true archive, .validate true, .write true archive, .read false revalidate,
    .validate false]

theorem undisturbed_inTurn : Undisturbed inTurn := by
  rintro _ op request after hsplit ⟨early, late, rfl, event, hevent, other, written, rfl, -⟩
  -- An overtaken write is the second one of its run.
  let isWrite : UpdateEvent Bool → Bool := fun event => event matches .write _ _
  have hone : inTurn.countP isWrite = 1 := rfl
  have hearlier : 0 < late.countP isWrite := List.countP_pos_iff.mpr ⟨_, hevent, rfl⟩
  have hlast : isWrite (.write op request) = true := rfl
  rw [hsplit, List.countP_append, List.countP_append, List.countP_cons, List.countP_cons,
    if_pos hlast] at hone
  omega

theorem keepsTerminal_iff_undisturbed_inTurn :
    ∃ s, Run Step (.start staleGraph) inTurn s ∧ KeepsTerminal (.start staleGraph) inTurn := by
  have hrun : Run Step (.start staleGraph) inTurn _ :=
    .cons (.read rfl) (.cons (.validate rfl) (.cons (.write rfl rfl) (.cons (.read rfl)
      (.cons (.validate rfl) (.nil _)))))
  exact ⟨_, hrun, (keepsTerminal_iff_undisturbed hrun).mpr undisturbed_inTurn⟩

/-- A revalidation that was checked before the node was archived, and writes after. -/
def race : List (UpdateEvent Bool) :=
  [.read false revalidate, .validate false, .read true archive, .validate true,
    .write true archive, .write false revalidate]

theorem race_not_keepsTerminal :
    ∃ s, Run Step (.start staleGraph) race s ∧ ¬ KeepsTerminal (.start staleGraph) race := by
  have hbefore : Run Step (.start staleGraph) (race.take 5) _ :=
    .cons (.read rfl) (.cons (.validate rfl) (.cons (.read rfl) (.cons (.validate rfl)
      (.cons (.write rfl rfl) (.nil _)))))
  refine ⟨_, hbefore.append (.cons (.write rfl rfl) (.nil _)), fun hkeeps => ?_⟩
  have hvalid := hkeeps (race.take 5) [.write false revalidate] [] _ _ rfl hbefore
    (.cons (.write rfl rfl) (.nil _)) 1 .archived .active rfl (.inr rfl) rfl
  cases hvalid

end Terminal

end Updaters

end IntentRebase
