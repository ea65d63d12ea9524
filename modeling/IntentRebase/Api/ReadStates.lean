import IntentRebase.Api.ReadHandlers
import IntentRebase.Compensation.SqlxQueries
import IntentRebase.Graph.IngestionSqlx

/-! The states that the handlers read, in memory and in SQL, what the repositories answer in them,
and when two states agree on all that a tenant has. -/

namespace IntentRebase

open Kit

/-- What decides the order of the rows and entries that a query leaves open, what fails in a
transaction, and how long a search may run. -/
structure ReadDraws where
  moment : ReadMoment
  nodeOrder : IterOrder (Uuid × GraphNode)
  edgeOrder : IterOrder (Uuid × GraphEdge)
  nodeScan : IterOrder NodeRow
  edgeScan : IterOrder EdgeRow
  sideEffectScan : IterOrder SideEffectRow
  tenantScan : IterOrder ActionRow
  intentScan : IterOrder ActionRow
  statusScan : CompensationStatus → IterOrder ActionRow
  bundleScan : IterOrder BundleRow
  diffOrders : VersionDiffOrders
  fuel : Nat
  beginFault : Option String
  commitFault : Option String

/-- The repositories in memory, with the indices that they keep exact. -/
structure InMemoryReadState where
  intents : InMemoryIntentRepository
  graph : GraphStore
  sideEffects : InMemorySideEffectRepository
  actions : InMemoryCompensationActionRepository
  actionsConsistent : actions.Consistent
  runs : RunRepo
  bundles : InMemoryBundleRepository
  bundlesByTenant : bundles.byTenant.Exact bundles.bundles ForensicBundle.tenantId
  bundleText : Uuid → Uuid → Except BundleStorageError String

namespace InMemoryReadState

/-- The repositories without a record. -/
def empty : InMemoryReadState where
  intents := .new
  graph := .empty
  sideEffects := .new
  actions := .new
  actionsConsistent := .new
  runs := ∅
  bundles := .new
  bundlesByTenant := .empty
  bundleText id _ := .error (.notFound id)

def reads (s : InMemoryReadState) (draws : ReadDraws) : Reads where
  listNodes filter := .ok (s.graph.state.listNodes draws.nodeOrder filter)
  getNode := s.graph.state.getNode
  listEdges filter := .ok (s.graph.state.listEdges draws.edgeOrder filter)
  listEdgesFrom nodeId := .ok (s.graph.state.listEdgesFrom nodeId)
  getIntentHead := (IntentStore.inMemory s.intents).getIntentHead
  computeRebasePreviewWithGraph intentId fromVersion toVersion :=
    computeRebasePreviewWithGraph s.intents.versionReads draws.diffOrders draws.nodeOrder
      (some s.graph.state) intentId fromVersion toVersion draws.fuel
  listSideEffectsByIntent intentId tenantId := .ok (s.sideEffects.listByIntent intentId tenantId)
  listActionsByTenant tenantId := s.actions.listByTenant tenantId none
  listActionsByIntent intentId tenantId := .ok (s.actions.listByIntent intentId tenantId)
  listActionsByStatus tenantId status := .ok (s.actions.listByStatus tenantId status)
  getRun := s.runs.get
  listBundles tenantId limit := .ok (s.bundles.listByTenant tenantId limit)
  getBundle := s.bundles.get
  bundleText := s.bundleText
  bundleTransactions := none

/-- The states have the same records of a tenant, listed alike by every index. -/
structure AgreeFor (tenantId : Uuid) (s s' : InMemoryReadState) : Prop where
  intents : AgreeOn (fun i => i.tenantId = tenantId) s.intents.intents s'.intents.intents
  versions : ∀ id intent, s.intents.intents.lookup id = some intent → intent.tenantId = tenantId →
    s.intents.getVersionsByIntent id = s'.intents.getVersionsByIntent id
  nodes : AgreeOn (fun n => n.tenantId = tenantId) s.graph.state.nodes s'.graph.state.nodes
  edges : AgreeOn (fun e => e.tenantId = tenantId) s.graph.state.edges s'.graph.state.edges
  edgesByFrom : ListedAlike (fun e => e.tenantId = tenantId) s.graph.state.edges
    s'.graph.state.edges s.graph.state.edgesByFrom s'.graph.state.edgesByFrom
  edgesByTo : ListedAlike (fun e => e.tenantId = tenantId) s.graph.state.edges
    s'.graph.state.edges s.graph.state.edgesByTo s'.graph.state.edgesByTo
  sideEffects : AgreeOn (fun e => e.tenantId = tenantId) s.sideEffects.sideEffects
    s'.sideEffects.sideEffects
  sideEffectsByIntent : ListedAlike (fun e => e.tenantId = tenantId) s.sideEffects.sideEffects
    s'.sideEffects.sideEffects s.sideEffects.byIntent s'.sideEffects.byIntent
  actions : AgreeOn (fun a => a.tenantId = tenantId) s.actions.actions s'.actions.actions
  actionsByTenant : ListedAlike (fun a => a.tenantId = tenantId) s.actions.actions
    s'.actions.actions s.actions.byTenant s'.actions.byTenant
  actionsBySideEffect : ListedAlike (fun a => a.tenantId = tenantId) s.actions.actions
    s'.actions.actions s.actions.bySideEffect s'.actions.bySideEffect
  actionsByStatus : ListedAlike (fun a => a.tenantId = tenantId) s.actions.actions
    s'.actions.actions s.actions.byStatus s'.actions.byStatus
  actionsByIntent : ListedAlike (fun a => a.tenantId = tenantId) s.actions.actions
    s'.actions.actions s.actions.byIntent s'.actions.byIntent
  runs : AgreeOn (fun r => r.tenantId = tenantId) s.runs s'.runs
  bundles : AgreeOn (fun b => b.tenantId = tenantId) s.bundles.bundles s'.bundles.bundles
  bundlesByTenant : ListedAlike (fun b => b.tenantId = tenantId) s.bundles.bundles
    s'.bundles.bundles s.bundles.byTenant s'.bundles.byTenant
  bundleText : ∀ id bundle, s.bundles.bundles.lookup id = some bundle →
    bundle.tenantId = tenantId → s.bundleText id tenantId = s'.bundleText id tenantId

variable {tenantId : Uuid} {s s' : InMemoryReadState}

theorem AgreeFor.symm (h : AgreeFor tenantId s s') : AgreeFor tenantId s' s where
  intents := h.intents.symm
  versions id intent hlookup howner :=
    (h.versions id intent ((h.intents id intent howner).mpr hlookup) howner).symm
  nodes := h.nodes.symm
  edges := h.edges.symm
  edgesByFrom := h.edgesByFrom.symm
  edgesByTo := h.edgesByTo.symm
  sideEffects := h.sideEffects.symm
  sideEffectsByIntent := h.sideEffectsByIntent.symm
  actions := h.actions.symm
  actionsByTenant := h.actionsByTenant.symm
  actionsBySideEffect := h.actionsBySideEffect.symm
  actionsByStatus := h.actionsByStatus.symm
  actionsByIntent := h.actionsByIntent.symm
  runs := h.runs.symm
  bundles := h.bundles.symm
  bundlesByTenant := h.bundlesByTenant.symm
  bundleText id bundle hlookup howner :=
    (h.bundleText id bundle ((h.bundles id bundle howner).mpr hlookup) howner).symm

namespace AgreeFor

variable (h : AgreeFor tenantId s s')
include h

theorem listSideEffects_eq (intentId : Uuid) :
    s'.sideEffects.listByIntent intentId tenantId =
      s.sideEffects.listByIntent intentId tenantId :=
  congrArg (latestFirst SideEffect.occurredAt) (h.sideEffectsByIntent intentId).symm

theorem listActionsByTenant_eq :
    s'.actions.listByTenant tenantId none = s.actions.listByTenant tenantId none := by
  have hlist := h.actionsByTenant.bucket s.actionsConsistent.byTenant s'.actionsConsistent.byTenant
    (k := tenantId) fun a hkey => hkey
  simp only [InMemoryCompensationActionRepository.listByTenant, hlist]

theorem listActionsByIntent_eq (intentId : Uuid) :
    s'.actions.listByIntent intentId tenantId = s.actions.listByIntent intentId tenantId :=
  (h.actionsByIntent.bucket s.actionsConsistent.byIntent s'.actionsConsistent.byIntent
    (k := (tenantId, intentId)) fun _ hkey => (Prod.mk.inj hkey).1).symm

theorem listActionsByStatus_eq (status : CompensationStatus) :
    s'.actions.listByStatus tenantId status = s.actions.listByStatus tenantId status :=
  (h.actionsByStatus.bucket s.actionsConsistent.byStatus s'.actionsConsistent.byStatus
    (k := (tenantId, status)) fun _ hkey => (Prod.mk.inj hkey).1).symm

theorem listBundles_eq (limit : Option Nat) :
    s'.bundles.listByTenant tenantId limit = s.bundles.listByTenant tenantId limit := by
  have hlist := h.bundlesByTenant.bucket s.bundlesByTenant s'.bundlesByTenant
    (k := tenantId) fun b hkey => hkey
  simp only [InMemoryBundleRepository.listByTenant, hlist]

end AgreeFor

end InMemoryReadState

/-- The tables. -/
structure SqlxReadState where
  intents : SqlxIntentRepository
  graph : SqlxGraphTables
  sideEffects : SideEffectRows
  actions : ActionTable
  runs : SqlxRunRepository
  bundles : SqlxBundleRepository
  bundleText : Uuid → Uuid → Except BundleStorageError String

namespace SqlxReadState

/-- The tables without a row. -/
def empty : SqlxReadState where
  intents := .new
  graph := .empty
  sideEffects := ∅
  actions := ∅
  runs := { rows := ∅, readable := SqlxRunRepository.readable_empty }
  bundles := .new
  bundleText id _ := .error (.notFound id)

/-- The answers of the SQL repositories, which have transactions of a tenant where there is a pool
of them. -/
def reads (rlsPool : Bool) (s : SqlxReadState) (draws : ReadDraws) : Reads where
  listNodes := s.graph.listNodes draws.nodeScan
  getNode := s.graph.getNode
  listEdges := s.graph.listEdges draws.edgeScan
  listEdgesFrom := s.graph.listEdgesFrom draws.edgeScan
  getIntentHead := (IntentStore.sqlx s.intents).getIntentHead
  computeRebasePreviewWithGraph intentId fromVersion toVersion :=
    computeRebasePreviewWithGraph ⟨s.intents.getVersionByIntentAndNumber⟩ draws.diffOrders
      (latestOrder draws.nodeOrder) (some (s.graph.graph draws.edgeScan)) intentId fromVersion
      toVersion draws.fuel
  listSideEffectsByIntent :=
    SqlxSideEffectRepository.listByIntent s.sideEffects draws.sideEffectScan
  listActionsByTenant tenantId :=
    SqlxCompensationActionRepository.listByTenant s.actions draws.tenantScan tenantId none
  listActionsByIntent :=
    SqlxCompensationActionRepository.listByIntent s.actions draws.intentScan
  listActionsByStatus tenantId status :=
    SqlxCompensationActionRepository.listByStatus s.actions (draws.statusScan status) tenantId status
  getRun := s.runs.get
  listBundles := s.bundles.listByTenant none draws.bundleScan
  getBundle := s.bundles.get
  bundleText := s.bundleText
  bundleTransactions :=
    if rlsPool then some
      { beginFault := draws.beginFault
        commitFault := draws.commitFault
        listByTenantWithTx := fun session => s.bundles.listByTenant (some session) draws.bundleScan
        getWithTx := s.bundles.getWithTx }
    else none

/-- The tables have the same rows of a tenant. -/
structure AgreeFor (tenantId : Uuid) (s s' : SqlxReadState) : Prop where
  intents : AgreeOn (fun row => row.tenantId = tenantId) s.intents.intents s'.intents.intents
  versions : ∀ id row, s.intents.intents.lookup id = some row → row.tenantId = tenantId →
    AgreeOn (fun version => version.intentId = id) s.intents.versions s'.intents.versions
  nodes : AgreeOn (fun row => row.tenantId = tenantId) s.graph.tables.nodes s'.graph.tables.nodes
  edges : AgreeOn (fun row => row.tenantId = tenantId) s.graph.tables.edges s'.graph.tables.edges
  sideEffects : AgreeOn (fun row => row.tenantId = tenantId) s.sideEffects s'.sideEffects
  actions : AgreeOn (fun row => row.tenantId = tenantId) s.actions s'.actions
  runs : AgreeOn (fun row => row.tenantId = tenantId) s.runs.rows s'.runs.rows
  bundles : AgreeOn (fun row => row.tenantId = tenantId) s.bundles.rows s'.bundles.rows
  bundleText : ∀ id row, s.bundles.rows.lookup id = some row → row.tenantId = tenantId →
    s.bundleText id tenantId = s'.bundleText id tenantId

variable {tenantId : Uuid} {s s' : SqlxReadState}

theorem AgreeFor.symm (h : AgreeFor tenantId s s') : AgreeFor tenantId s' s where
  intents := h.intents.symm
  versions id row hlookup howner :=
    (h.versions id row ((h.intents id row howner).mpr hlookup) howner).symm
  nodes := h.nodes.symm
  edges := h.edges.symm
  sideEffects := h.sideEffects.symm
  actions := h.actions.symm
  runs := h.runs.symm
  bundles := h.bundles.symm
  bundleText id row hlookup howner :=
    (h.bundleText id row ((h.bundles id row howner).mpr hlookup) howner).symm

namespace AgreeFor

variable (h : AgreeFor tenantId s s')
include h

theorem exists_listSideEffects (scan : IterOrder SideEffectRow) (intentId : Uuid) :
    ∃ scan', SqlxSideEffectRepository.listByIntent s'.sideEffects scan' intentId tenantId =
      SqlxSideEffectRepository.listByIntent s.sideEffects scan intentId tenantId := by
  obtain ⟨scan', hscan⟩ := h.sideEffects.exists_scanLatest scan SideEffectRow.occurredAt
    (fun row => row.intentId = intentId && row.tenantId = tenantId)
    fun row htest => by simp only [Bool.and_eq_true, decide_eq_true_eq] at htest; exact htest.2
  exact ⟨scan', congrArg (List.mapM rowToSideEffect) hscan⟩

theorem exists_listActionsByTenant (scan : IterOrder ActionRow) :
    ∃ scan', SqlxCompensationActionRepository.listByTenant s'.actions scan' tenantId none =
      SqlxCompensationActionRepository.listByTenant s.actions scan tenantId none := by
  obtain ⟨scan', hscan⟩ := scan.exists_scan (h.actions.values_perm
    (p := fun row => row.tenantId = tenantId) fun row htest => of_decide_eq_true htest)
  refine ⟨scan', ?_⟩
  simp only [SqlxCompensationActionRepository.listByTenant, hscan]

theorem exists_listActionsByIntent (scan : IterOrder ActionRow) (intentId : Uuid) :
    ∃ scan', SqlxCompensationActionRepository.listByIntent s'.actions scan' intentId tenantId =
      SqlxCompensationActionRepository.listByIntent s.actions scan intentId tenantId := by
  obtain ⟨scan', hscan⟩ := h.actions.exists_scanLatest scan ActionRow.generatedAt
    (fun row => row.intentId = intentId && row.tenantId = tenantId)
    fun row htest => by simp only [Bool.and_eq_true, decide_eq_true_eq] at htest; exact htest.2
  exact ⟨scan', congrArg (List.mapM rowToAction) hscan⟩

theorem exists_listActionsByStatus (scan : IterOrder ActionRow) (status : CompensationStatus) :
    ∃ scan', SqlxCompensationActionRepository.listByStatus s'.actions scan' tenantId status =
      SqlxCompensationActionRepository.listByStatus s.actions scan tenantId status := by
  obtain ⟨scan', hscan⟩ := h.actions.exists_scanLatest scan ActionRow.generatedAt
    (fun row => row.tenantId = tenantId && row.status = compensationStatusToString status)
    fun row htest => by simp only [Bool.and_eq_true, decide_eq_true_eq] at htest; exact htest.1
  exact ⟨scan', congrArg (List.mapM rowToAction) hscan⟩

theorem exists_listBundles (session : Option Uuid) (scan : IterOrder BundleRow)
    (limit : Option Nat) :
    ∃ scan', s'.bundles.listByTenant session scan' tenantId limit =
      s.bundles.listByTenant session scan tenantId limit := by
  obtain ⟨scan', hscan⟩ := h.bundles.exists_scanLatest scan BundleRow.createdAt
    (fun row => session.all (row.tenantId == ·) && row.tenantId = tenantId)
    fun row htest => by simp only [Bool.and_eq_true, decide_eq_true_eq] at htest; exact htest.2
  refine ⟨scan', ?_⟩
  simp only [SqlxBundleRepository.listByTenant, hscan]

end AgreeFor

end SqlxReadState

end IntentRebase
