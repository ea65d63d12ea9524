import IntentRebase.Api.IntentMutation
import IntentRebase.Compensation.SideEffectRepository
import IntentRebase.Graph.IngestionSqlx

/-! The handler that ingests an artifact and records its side effect: in one transaction of the
token's tenant where there is a pool and both repositories are in SQL, and one call after another
otherwise. -/

namespace IntentRebase

open Kit

structure SideEffectCaptureContext where
  sourceIntentId : Uuid
  sourceIntentVersion : Int
  effectType : String
  target : String
  effectClass : Option SideEffectClass
  idempotencyKey : Option String

/-- The body of a request to ingest an artifact. -/
structure ArtifactIngestBody extends ArtifactIngestRequest where
  sideEffectContext : Option SideEffectCaptureContext

structure ArtifactIngestResponse where
  node : GraphNode
  edges : List GraphEdge
  sideEffectRecorded : Bool
  sideEffectId : Option Uuid

def validateSideEffectContext (context : SideEffectCaptureContext) :
    Except IntentRebaseError Unit :=
  if context.sourceIntentId = .nil then
    .error (.invalidIngestRequest "side_effect_context.source_intent_id cannot be nil")
  else if context.sourceIntentVersion ≤ 0 then
    .error (.invalidIngestRequest ("side_effect_context.source_intent_version must be > 0, got " ++
      s!"{context.sourceIntentVersion}"))
  else if isBlank context.effectType then
    .error (.invalidIngestRequest "side_effect_context.effect_type cannot be empty")
  else if isBlank context.target then
    .error (.invalidIngestRequest "side_effect_context.target cannot be empty")
  else if context.idempotencyKey.any isBlank then
    .error (.invalidIngestRequest "side_effect_context.idempotency_key cannot be empty")
  else .ok ()

def validateArtifactIngestRequest (request : ArtifactIngestBody) : Except IntentRebaseError Unit :=
  if request.tenantId = .nil then .error (.invalidIngestRequest "tenant_id cannot be nil")
  else if request.workflowId = .nil then .error (.invalidIngestRequest "workflow_id cannot be nil")
  else if isBlank request.label then .error (.invalidIngestRequest "label cannot be empty")
  else if request.externalRef.refId = .nil then
    .error (.invalidIngestRequest "external_ref.ref_id cannot be nil")
  else
    match request.sideEffectContext with
    | some context => validateSideEffectContext context
    | none => .ok ()

/-- The side effect of a context: `new`, or `with_idempotency_key` where it has a key. -/
def SideEffectCaptureContext.sideEffect (context : SideEffectCaptureContext) (draw : Draw)
    (tenantId : Uuid) : SideEffect where
  id := draw.id
  tenantId := tenantId
  intentId := context.sourceIntentId
  intentVersion := context.sourceIntentVersion
  effectClass := context.effectClass.getD .s2ExternalReversible
  effectType := context.effectType
  target := context.target
  occurredAt := draw.now
  idempotencyKey := context.idempotencyKey

/-- The table `side_effects`. -/
abbrev SideEffectTable := HashMap Uuid SideEffect

namespace SqlxSideEffectRepository

variable (table : SideEffectTable) (session : Option Uuid) (sideEffect : SideEffect)

/-- The columns of a side effect. -/
def columns : Except String SideEffect := do
  let effectType ← varchar 100 sideEffect.effectType
  let target ← varchar 500 sideEffect.target
  let idempotencyKey ← sideEffect.idempotencyKey.mapM (varchar 255)
  return { sideEffect with effectType, target, idempotencyKey }

/-- The row that has the tenant and key of another. -/
def sameKey (row : SideEffect) : Option SideEffect :=
  ((pairs table).map Prod.snd).find? fun other =>
    other.scopedKey.isSome && other.scopedKey == row.scopedKey

/-- `INSERT INTO side_effects`, with what is done about a row of the same tenant and key. -/
def insert (onConflict : SideEffect → Except String (SideEffect × SideEffectTable)) :
    Except String (SideEffect × SideEffectTable) :=
  match columns sideEffect with
  | .error e => .error e
  | .ok row =>
    if !session.all (row.tenantId == ·) then
      .error "new row violates row-level security policy for table \"side_effects\""
    else
      match sameKey table row with
      | some existing => onConflict existing
      | none =>
        match table.lookup row.id with
        | some _ => .error "duplicate key value violates unique constraint"
        | none => .ok (row, table.insert row.id row)

/-- The side effect is returned as it was given. -/
def createWithTx : Except IntentRebaseError (SideEffect × SideEffectTable) :=
  match insert table session sideEffect fun _ =>
      .error "duplicate key value violates unique constraint" with
  | .error e => .error (.storageError s!"insert side effect: {e}")
  | .ok (_, table') => .ok (sideEffect, table')

/-- The row that the statement returns: the one that has the key already, or the new one. -/
def getOrCreateIdempotentWithTx : Except IntentRebaseError (SideEffect × SideEffectTable) :=
  match insert table session sideEffect fun existing => .ok (existing, table) with
  | .error e => .error (.storageError s!"upsert side effect: {e}")
  | .ok outcome => .ok outcome

/-- By the idempotency key, where the side effect has one. -/
def recordWithTx : Except IntentRebaseError (SideEffect × SideEffectTable) :=
  if sideEffect.idempotencyKey.isSome then getOrCreateIdempotentWithTx table session sideEffect
  else createWithTx table session sideEffect

end SqlxSideEffectRepository

/-- The repository of the side-effect service. -/
inductive SideEffectStorage where
  | inMemory (repo : InMemorySideEffectRepository)
  | sqlx (table : SideEffectTable)

/-- `record_side_effect`, and `record_side_effect_with_idempotency` where there is a key. -/
def SideEffectStorage.record (sideEffect : SideEffect) :
    SideEffectStorage → Except IntentRebaseError SideEffect × SideEffectStorage
  | .inMemory repo =>
    let outcome := if sideEffect.idempotencyKey.isSome then repo.getOrCreateIdempotent sideEffect
      else repo.create sideEffect
    (.ok outcome.1, .inMemory outcome.2)
  | .sqlx table =>
    match SqlxSideEffectRepository.recordWithTx table none sideEffect with
    | .error e => (.error e, .sqlx table)
    | .ok (recorded, table') => (.ok recorded, .sqlx table')

/-- The failures that an ingestion meets in the calls of its repository in SQL. -/
structure GraphFaults where
  read : Nat → Option IntentRebaseError
  node : Option (Fault IntentRebaseError)
  edge : Nat → Option (Fault IntentRebaseError)

namespace SqlxGraphRepository

variable (faults : GraphFaults) (draws : Nat → Draw)

/-- The references of an artifact, each read by a call of its own. -/
def readReferences (s : SqlxGraphRepository) (tenantId workflowId : Uuid) :
    Nat → List Uuid → Except IntentRebaseError Unit
  | _, [] => .ok ()
  | k, intentVersionId :: rest =>
    match faults.read k with
    | some e => .error e
    | none =>
      match s.validateIntentVersion none tenantId workflowId intentVersionId with
      | .error e => .error e
      | .ok _ => readReferences s tenantId workflowId (k + 1) rest

/-- What a statement on its own leaves: its writes, or the tables as they were. -/
def autocommit {α : Type} (s : SqlxGraphRepository)
    (statement : Except IntentRebaseError (α × SqlxGraphRepository)) :
    Except IntentRebaseError α × SqlxGraphRepository :=
  match statement with
  | .ok (a, s') => (.ok a, s')
  | .error e => (.error e, s)

/-- The edges, each in a statement on its own: those before a failure stay. -/
def createEdges : Nat → List CreateGraphEdgeRequest → SqlxGraphRepository →
    Except IntentRebaseError (List GraphEdge) × SqlxGraphRepository
  | _, [], s => (.ok [], s)
  | k, request :: rest, s =>
    match Fault.meet (faults.edge k) s
        (s.autocommit (s.createEdge true none (draws k) request)) with
    | (.error e, s₁) => (.error e, s₁)
    | (.ok edge, s₁) =>
      match createEdges (k + 1) rest s₁ with
      | (.error e, s₂) => (.error e, s₂)
      | (.ok edges, s₂) => (.ok (edge :: edges), s₂)

/-- The ingestion of the graph service on the repository in SQL. -/
def ingestArtifact (request : ArtifactIngestRequest) (s : SqlxGraphRepository) :
    Except IntentRebaseError IngestorResult × SqlxGraphRepository :=
  if request.dependsOnIntentVersions.isEmpty then (.error .artifactTraceabilityEmpty, s)
  else
    match readReferences faults s request.tenantId request.workflowId 0
        request.dependsOnIntentVersions with
    | .error e => (.error e, s)
    | .ok _ =>
      match Fault.meet faults.node s
          (s.autocommit (s.createNode none (draws 0) request.plan.node)) with
      | (.error e, s₁) => (.error e, s₁)
      | (.ok node, s₁) =>
        (createEdges faults draws 1 (request.plan.links node.id) s₁).map
          (.map fun edges => { node, edges }) id

end SqlxGraphRepository

/-- The repository of the graph service. -/
inductive GraphStorage where
  | inMemory (s : GraphState)
  | sqlx (repo : SqlxGraphRepository)

def GraphStorage.ingestArtifact (faults : GraphFaults) (draws : Nat → Draw)
    (request : ArtifactIngestRequest) :
    GraphStorage → Except IntentRebaseError IngestorResult × GraphStorage
  | .inMemory s => ((IntentRebase.ingestArtifact draws request).on s).map id .inMemory
  | .sqlx repo => (repo.ingestArtifact faults draws request).map id .sqlx

structure IngestWorld where
  graph : GraphStorage
  sideEffects : SideEffectStorage

/-- What a call draws, and the failures that it meets: in the plain calls, and in the steps of a
transaction. -/
structure IngestRun where
  draws : Nat → Draw
  sideEffectDraw : Draw
  faults : GraphFaults
  recordFault : Option (Fault IntentRebaseError)
  beginFault : Option String
  ingestFault : Option IntentRebaseError
  sideEffectFault : Option IntentRebaseError
  commitFault : Option (Fault String)

/-- A statement of a transaction that may meet a failure. -/
def meetFault {α : Type} (fault : Option IntentRebaseError)
    (statement : Except IntentRebaseError α) : Except IntentRebaseError α :=
  match fault with
  | some e => .error e
  | none => statement

section Handler

variable (run : IngestRun) (request : ArtifactIngestBody)

/-- The side effect is recorded where there is a context; the answer does not depend on whether that
succeeds. -/
def recordSideEffect (result : IngestorResult) (w : IngestWorld) :
    Except IntentRebaseError (StatusCode × ArtifactIngestResponse) × IngestWorld :=
  match request.sideEffectContext with
  | none => (.ok (.created, { result with sideEffectRecorded := false, sideEffectId := none }), w)
  | some context =>
    match Fault.meet run.recordFault w.sideEffects
        (w.sideEffects.record (context.sideEffect run.sideEffectDraw request.tenantId)) with
    | (.ok effect, sideEffects) =>
      (.ok (.created, { result with sideEffectRecorded := true, sideEffectId := some effect.id }),
        { w with sideEffects })
    | (.error _, sideEffects) =>
      (.ok (.created, { result with sideEffectRecorded := false, sideEffectId := none }),
        { w with sideEffects })

/-- The calls without a transaction. -/
def ingestPlain (w : IngestWorld) :
    Except IntentRebaseError (StatusCode × ArtifactIngestResponse) × IngestWorld :=
  match w.graph.ingestArtifact run.faults run.draws request.toArtifactIngestRequest with
  | (.error e, graph) => (.error e, { w with graph })
  | (.ok result, graph) => recordSideEffect run request result { w with graph }

def ingestArtifactWithoutJwt (w : IngestWorld) :
    Except IntentRebaseError (StatusCode × ArtifactIngestResponse) × IngestWorld :=
  match validateArtifactIngestRequest request with
  | .error e => (.error e, w)
  | .ok _ => ingestPlain run request w

/-- The artifact and its side effect in one transaction, where both repositories are in SQL; with
other side effects, the artifact only. -/
def ingestWithRls (repo : SqlxGraphRepository) (w : IngestWorld) :
    Except IntentRebaseError (StatusCode × ArtifactIngestResponse) × IngestWorld :=
  match run.beginFault with
  | some e => (.error (.internal s!"failed to begin RLS transaction: {e}"), w)
  | none =>
    match meetFault run.ingestFault (repo.ingestArtifactWithTx true (some request.tenantId)
        run.draws request.toArtifactIngestRequest) with
    | .error e => (.error (.storageError s!"RLS artifact ingest failed: {e.display}"), w)
    | .ok (result, graph) =>
      match request.sideEffectContext, w.sideEffects with
      | some context, .sqlx table =>
        match meetFault run.sideEffectFault (SqlxSideEffectRepository.recordWithTx table
            (some request.tenantId) (context.sideEffect run.sideEffectDraw request.tenantId)) with
        | .error e =>
          (.error (.storageError ("RLS side-effect recording failed (artifact ingest rolled " ++
            s!"back): {e.display}")), w)
        | .ok (effect, table') =>
          (Fault.meet run.commitFault w
            (.ok (.created, { result with sideEffectRecorded := true
                                          sideEffectId := some effect.id }),
              { graph := .sqlx graph, sideEffects := .sqlx table' })).map
            (.mapError fun e => .storageError s!"failed to commit RLS transaction: {e}") id
      | _, _ =>
        match Fault.meet run.commitFault w (.ok (), { w with graph := .sqlx graph }) with
        | (.error e, w') => (.error (.storageError s!"failed to commit RLS transaction: {e}"), w')
        | (.ok _, w') => recordSideEffect run request result w'

/-- A token of another tenant than the request's is rejected where there is a pool. -/
def ingestArtifactHandler (rlsPool : Bool) (claims : Option RlsTenantClaims) (w : IngestWorld) :
    Except IntentRebaseError (StatusCode × ArtifactIngestResponse) × IngestWorld :=
  match validateArtifactIngestRequest request with
  | .error e => (.error e, w)
  | .ok _ =>
    match rlsPool, claims with
    | true, some rlsClaims =>
      if request.tenantId ≠ rlsClaims.tenantId then
        (.error (.unauthorized (requestTenantMismatch rlsClaims.tenantId request.tenantId)), w)
      else
        match w.graph with
        | .sqlx repo => ingestWithRls run request repo w
        | .inMemory _ =>
          match run.beginFault with
          | some e => (.error (.internal s!"failed to begin RLS transaction: {e}"), w)
          | none => ingestPlain run request w
    | _, _ => ingestPlain run request w

end Handler

end IntentRebase
