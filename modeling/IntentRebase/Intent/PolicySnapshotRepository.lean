import IntentRebase.Forensic.BundleHasher
import IntentRebase.Kit.SecondaryIndex
import IntentRebase.Types.Audit
import Mathlib.Data.List.Sort

/-! Policy snapshots: the hash of their scope, where their text is stored, and the two repositories
that keep their records. -/

namespace IntentRebase

open Kit

def scopeTypeToString : ScopeType → String
  | .full => "full"
  | .partially => "partial"
  | .none => "none"

def scopeTypeFromString (s : String) : ScopeType :=
  if s = "full" then .full else if s = "partial" then .partially else .none

theorem scopeTypeFromString_toString (t : ScopeType) :
    scopeTypeFromString (scopeTypeToString t) = t := by
  cases t <;> decide

mutual

/-- The value with the fields of every object in the order of their names. -/
def canonicalizeJsonValue : Json → Json
  | .object fields => .object ((canonicalizeFields fields).insertionSort fun p q => p.1 ≤ q.1)
  | .array items => .array (canonicalizeItems items)
  | .null => .null
  | .bool b => .bool b
  | .number n => .number n
  | .string s => .string s

def canonicalizeItems : List Json → List Json
  | [] => []
  | v :: rest => canonicalizeJsonValue v :: canonicalizeItems rest

def canonicalizeFields : List (String × Json) → List (String × Json)
  | [] => []
  | (k, v) :: rest => (k, canonicalizeJsonValue v) :: canonicalizeFields rest

end

section Hash

variable (hasher : Hasher)

/-- The items in the order of their texts. -/
def canonicalizeArraySorted (items : List Json) : List Json :=
  (canonicalizeItems items).insertionSort fun a b => hasher.jsonText a ≤ hasher.jsonText b

def canonicalizeScopeDefinition (scope : ScopeDefinition) : Json :=
  .object
    [("affected_resources", .array (canonicalizeArraySorted hasher scope.affectedResources)),
      ("min_approvals", .ofInt scope.minApprovals),
      ("required_approvers", .array (canonicalizeArraySorted hasher scope.requiredApprovers)),
      ("scope_type", .string (scopeTypeToString scope.scopeType))]

def computeScopeHash (scope : ScopeDefinition) : String :=
  hasher.digest (canonicalizeScopeDefinition hasher scope)

/-- A snapshot whose text is not stored yet. -/
def PolicySnapshot.new (draw : Uuid) (now : DateTime) (tenantId intentId : Uuid)
    (intentVersion : Int) (rulePackVersion : String) (scopeDefinition : ScopeDefinition) :
    PolicySnapshot where
  id := draw
  tenantId := tenantId
  intentId := intentId
  intentVersion := intentVersion
  rulePackVersion := rulePackVersion
  scopeDefinition := scopeDefinition
  scopeHash := computeScopeHash hasher scopeDefinition
  snapshotUri := s!"memory://policy-snapshots/{intentId.display}/v{intentVersion}"
  createdAt := now
  canonicalizedAt := now

end Hash

inductive SnapshotStorageError where
  | notFound (intentId : Uuid) (intentVersion : Int)
  | storage (message : String)
  | serialization (message : String)
  | integrity (message : String)
deriving DecidableEq, Repr

/-- A storage of the snapshots' texts; it answers with the address of what it has stored. -/
structure SnapshotStorage (τ : Type) where
  put : PolicySnapshot → τ → Except SnapshotStorageError String × τ

namespace InMemorySnapshotStorage

def buildKey (tenantId intentId : Uuid) (intentVersion : Int) : String :=
  let digits (id : Uuid) := String.ofList (hexDigits 32 id.val)
  s!"{digits tenantId}/{digits intentId}/v{intentVersion}/snapshot.json"

/-- The storage in memory. -/
def storage : SnapshotStorage (HashMap String PolicySnapshot) where
  put snapshot store :=
    (.ok (s!"memory://policy-snapshots/{snapshot.tenantId.display}/" ++
      s!"{snapshot.intentId.display}/v{snapshot.intentVersion}"),
      store.insert (buildKey snapshot.tenantId snapshot.intentId snapshot.intentVersion) snapshot)

end InMemorySnapshotStorage

/-- The operation of a repository that writes. -/
structure PolicySnapshotRepository (σ : Type) where
  createSnapshot : PolicySnapshot → σ → Except IntentRebaseError PolicySnapshot × σ

/-- The snapshots, with their identifiers listed by intent. -/
structure InMemoryPolicySnapshotRepository where
  snapshots : HashMap Uuid PolicySnapshot
  byIntent : SecondaryIndex Uuid Uuid

namespace InMemoryPolicySnapshotRepository

/-- The empty repository. -/
def new : InMemoryPolicySnapshotRepository := ⟨∅, ∅⟩

def createSnapshot (s : InMemoryPolicySnapshotRepository) (snapshot : PolicySnapshot) :
    Except IntentRebaseError PolicySnapshot × InMemoryPolicySnapshotRepository :=
  (.ok snapshot,
    { snapshots := s.snapshots.insert snapshot.id snapshot
      byIntent := s.byIntent.push snapshot.intentId snapshot.id })

/-- The operation of the repository. -/
def repository : PolicySnapshotRepository InMemoryPolicySnapshotRepository where
  createSnapshot snapshot s := s.createSnapshot snapshot

/-- The snapshot stored under an identifier. -/
def record (s : InMemoryPolicySnapshotRepository) (id : Uuid) : Option PolicySnapshot :=
  s.snapshots.lookup id

end InMemoryPolicySnapshotRepository

/-- A row of the table of snapshots. -/
structure PolicySnapshotRow where
  id : Uuid
  tenantId : Uuid
  intentId : Uuid
  intentVersion : Int
  rulePackVersion : String
  scopeType : String
  affectedResources : Json
  requiredApprovers : Json
  minApprovals : Int
  scopeHash : String
  snapshotUri : String
  createdAt : DateTime
  canonicalizedAt : DateTime

def rowToSnapshot (row : PolicySnapshotRow) : PolicySnapshot where
  id := row.id
  tenantId := row.tenantId
  intentId := row.intentId
  intentVersion := row.intentVersion
  rulePackVersion := row.rulePackVersion
  scopeDefinition :=
    { scopeType := scopeTypeFromString row.scopeType
      affectedResources := row.affectedResources.asArray.getD []
      requiredApprovers := row.requiredApprovers.asArray.getD []
      minApprovals := row.minApprovals }
  scopeHash := row.scopeHash
  snapshotUri := row.snapshotUri
  createdAt := row.createdAt
  canonicalizedAt := row.canonicalizedAt

/-- The row that an insertion writes. -/
def snapshotToRow (snapshot : PolicySnapshot) : PolicySnapshotRow where
  id := snapshot.id
  tenantId := snapshot.tenantId
  intentId := snapshot.intentId
  intentVersion := snapshot.intentVersion
  rulePackVersion := snapshot.rulePackVersion
  scopeType := scopeTypeToString snapshot.scopeDefinition.scopeType
  affectedResources := .array snapshot.scopeDefinition.affectedResources
  requiredApprovers := .array snapshot.scopeDefinition.requiredApprovers
  minApprovals := snapshot.scopeDefinition.minApprovals
  scopeHash := snapshot.scopeHash
  snapshotUri := snapshot.snapshotUri
  createdAt := snapshot.createdAt
  canonicalizedAt := snapshot.canonicalizedAt

/-- The table of snapshots, beside the identifiers in the table of intents, to which its rows
refer. -/
structure SqlxPolicySnapshotRepository where
  rows : HashMap Uuid PolicySnapshotRow
  intents : List Uuid

namespace SqlxPolicySnapshotRepository

variable (s : SqlxPolicySnapshotRepository)

/-- Some row is of the version of the intent; the table takes one at most. -/
def hasVersion (intentId : Uuid) (intentVersion : Int) : Bool :=
  (pairs s.rows).any fun p => p.2.intentId == intentId && p.2.intentVersion == intentVersion

def insertSnapshot (snapshot : PolicySnapshot) :
    Except IntentRebaseError PolicySnapshot × SqlxPolicySnapshotRepository :=
  let refused (constraint : String) : IntentRebaseError :=
    .storageError s!"insert policy snapshot: violates {constraint}"
  if (s.rows.lookup snapshot.id).isSome then (.error (refused "PRIMARY KEY (id)"), s)
  else if s.hasVersion snapshot.intentId snapshot.intentVersion then
    (.error (refused "UNIQUE (intent_id, intent_version)"), s)
  else if snapshot.intentId ∉ s.intents then
    (.error (refused "REFERENCES intents (intent_id)"), s)
  else (.ok snapshot, { s with rows := s.rows.insert snapshot.id (snapshotToRow snapshot) })

/-- The operation of the repository. -/
def repository : PolicySnapshotRepository SqlxPolicySnapshotRepository where
  createSnapshot snapshot s := s.insertSnapshot snapshot

/-- The snapshot stored under an identifier. -/
def record (id : Uuid) : Option PolicySnapshot := (s.rows.lookup id).map rowToSnapshot

variable {s} {snapshot : PolicySnapshot}

/-- The table takes a snapshot with a new identifier of a new version of a stored intent, and no
other. -/
theorem insertSnapshot_cases (s : SqlxPolicySnapshotRepository) (snapshot : PolicySnapshot) :
    (s.insertSnapshot snapshot).2 = s ∧ ((s.rows.lookup snapshot.id).isSome ∨
      s.hasVersion snapshot.intentId snapshot.intentVersion = true ∨
      snapshot.intentId ∉ s.intents) ∨
    s.rows.lookup snapshot.id = none ∧
      s.hasVersion snapshot.intentId snapshot.intentVersion = false ∧
      snapshot.intentId ∈ s.intents ∧
      (s.insertSnapshot snapshot).2 =
        { s with rows := s.rows.insert snapshot.id (snapshotToRow snapshot) } := by
  unfold insertSnapshot
  dsimp only
  split
  · next hid => exact .inl ⟨rfl, .inl hid⟩
  next hid =>
  split
  · next hversion => exact .inl ⟨rfl, .inr (.inl hversion)⟩
  next hversion =>
  split
  · next hintent => exact .inl ⟨rfl, .inr (.inr hintent)⟩
  next hintent =>
  exact .inr ⟨Option.not_isSome_iff_eq_none.mp hid, Bool.eq_false_iff.mpr hversion,
    not_not.mp hintent, rfl⟩

theorem hasVersion_iff {intentId : Uuid} {intentVersion : Int} :
    s.hasVersion intentId intentVersion = true ↔ ∃ id row, s.rows.lookup id = some row ∧
      row.intentId = intentId ∧ row.intentVersion = intentVersion := by
  rw [hasVersion, List.any_eq_true]
  constructor
  · rintro ⟨⟨id, row⟩, hmem, hrow⟩
    rw [Bool.and_eq_true, beq_iff_eq, beq_iff_eq] at hrow
    exact ⟨id, row, mem_pairs.mp hmem, hrow⟩
  · rintro ⟨id, row, hlookup, hintent, hversion⟩
    exact ⟨(id, row), mem_pairs.mpr hlookup, by simp [hintent, hversion]⟩

theorem hasVersion_insert {row : PolicySnapshotRow} {id intentId : Uuid} {intentVersion : Int}
    (hfresh : s.rows.lookup id = none) :
    ({ s with rows := s.rows.insert id row } : SqlxPolicySnapshotRepository).hasVersion intentId
        intentVersion = true ↔
      row.intentId = intentId ∧ row.intentVersion = intentVersion ∨
        s.hasVersion intentId intentVersion = true := by
  rw [hasVersion_iff, hasVersion_iff]
  simp only [lookup_insert_eq]
  constructor
  · rintro ⟨id', row', hlookup, hrow⟩
    split at hlookup
    · cases hlookup
      exact .inl hrow
    · exact .inr ⟨id', row', hlookup, hrow⟩
  · rintro (hrow | ⟨id', row', hlookup, hrow⟩)
    · exact ⟨id, row, by rw [if_pos rfl], hrow⟩
    · refine ⟨id', row', ?_, hrow⟩
      have hne : id' ≠ id := by
        rintro rfl
        rw [hfresh] at hlookup
        cases hlookup
      rw [if_neg hne, hlookup]

end SqlxPolicySnapshotRepository

end IntentRebase
