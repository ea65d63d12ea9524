import Mathlib.Data.Prod.Lex
import IntentRebase.Kit.OrderBy
import IntentRebase.Kit.Placeholder
import IntentRebase.Types.Common

/-! The webhook subscriptions of intents, in memory and in SQL. A row holds the values that its
columns take, so it is a record; times that a repository reads are arguments. -/

namespace IntentRebase

open Kit

structure WebhookSubscriptionRecord where
  id : Uuid
  tenantId : Uuid
  intentId : Uuid
  subscriptionId : Uuid
  webhookUrl : String
  downstreamSystemId : Option String
  status : String
  maxAttempts : Int32
  eventTypes : List String
  createdAt : DateTime
  updatedAt : DateTime
deriving DecidableEq

/-- A new active subscription. -/
def WebhookSubscriptionRecord.new (now : DateTime) (id tenantId intentId subscriptionId : Uuid)
    (webhookUrl : String) (downstreamSystemId : Option String) (eventTypes : List String) :
    WebhookSubscriptionRecord where
  id := id
  tenantId := tenantId
  intentId := intentId
  subscriptionId := subscriptionId
  webhookUrl := webhookUrl
  downstreamSystemId := downstreamSystemId
  status := "active"
  maxAttempts := 3
  eventTypes := eventTypes
  createdAt := now
  updatedAt := now

/-- The fields of an update, each supplied or omitted. -/
structure SubscriptionFields where
  webhookUrl : Option String := none
  downstreamSystemId : Option (Option String) := none
  status : Option String := none
  maxAttempts : Option Int32 := none
  eventTypes : Option (List String) := none
deriving DecidableEq

/-- The key of the listings: the time of creation, then the identifier. -/
def WebhookSubscriptionRecord.listKey (r : WebhookSubscriptionRecord) : DateTime ×ₗ Uuid :=
  toLex (r.createdAt, r.id)

/-- The subscriptions by identifier. -/
abbrev SubscriptionStore := HashMap Uuid WebhookSubscriptionRecord

abbrev SubscriptionAnswer := Except IntentRebaseError WebhookSubscriptionRecord × SubscriptionStore

namespace InMemoryWebhookSubscriptionRepository

variable (records : SubscriptionStore)

def create (record : WebhookSubscriptionRecord) : SubscriptionAnswer :=
  match records.lookup record.id with
  | some _ =>
    (.error (.storageError s!"Webhook subscription {record.id.display} already exists"), records)
  | none => (.ok record, records.insert record.id record)

/-- The listing of an intent, the map's values read in some order. -/
def listByIntent (order : IterOrder WebhookSubscriptionRecord) (tenantId intentId : Uuid) :
    Except IntentRebaseError (List WebhookSubscriptionRecord) :=
  let list := (order.apply ((pairs records).map Prod.snd)).filter fun r =>
    r.tenantId = tenantId ∧ r.intentId = intentId
  .ok (orderBy WebhookSubscriptionRecord.listKey list)

def get (id tenantId : Uuid) : Except IntentRebaseError WebhookSubscriptionRecord :=
  match records.lookup id with
  | none => .error (.webhookSubscriptionNotFound id)
  | some record =>
    if record.tenantId ≠ tenantId then .error (.webhookSubscriptionNotFound id) else .ok record

/-- Changes the record of an identifier, if the tenant has it. -/
def modify (id tenantId : Uuid) (change : WebhookSubscriptionRecord → WebhookSubscriptionRecord) :
    SubscriptionAnswer :=
  match records.lookup id with
  | none => (.error (.webhookSubscriptionNotFound id), records)
  | some record =>
    if record.tenantId ≠ tenantId then (.error (.webhookSubscriptionNotFound id), records)
    else (.ok (change record), records.insert id (change record))

/-- The assignments of an update, one after the other. -/
def assign (now : DateTime) (fields : SubscriptionFields) (record : WebhookSubscriptionRecord) :
    WebhookSubscriptionRecord :=
  let record := match fields.webhookUrl with
    | some url => { record with webhookUrl := url }
    | none => record
  let record := match fields.downstreamSystemId with
    | some dsid => { record with downstreamSystemId := dsid }
    | none => record
  let record := match fields.status with
    | some s => { record with status := s }
    | none => record
  let record := match fields.maxAttempts with
    | some ma => { record with maxAttempts := ma }
    | none => record
  let record := match fields.eventTypes with
    | some et => { record with eventTypes := et }
    | none => record
  { record with updatedAt := now }

def update (now : DateTime) (id tenantId : Uuid) (fields : SubscriptionFields) :
    SubscriptionAnswer :=
  modify records id tenantId (assign now fields)

def softDelete (now : DateTime) (id tenantId : Uuid) : SubscriptionAnswer :=
  modify records id tenantId fun record => { record with status := "deleted", updatedAt := now }

end InMemoryWebhookSubscriptionRepository

/-- The columns that an update can set. -/
inductive SubscriptionColumn where
  | webhookUrl | downstreamSystemId | status | maxAttempts | eventTypes
deriving DecidableEq, Repr

/-- A bound parameter. -/
inductive SqlValue where
  | uuid (v : Uuid)
  | text (v : String)
  | nullableText (v : Option String)
  | int4 (v : Int32)
  | textArray (v : List String)
deriving DecidableEq

namespace SqlxWebhookSubscriptionRepository

/-- A column takes values of its type. -/
def setColumn (row : WebhookSubscriptionRecord) :
    SubscriptionColumn × SqlValue → Option WebhookSubscriptionRecord
  | (.webhookUrl, .text v) => some { row with webhookUrl := v }
  | (.downstreamSystemId, .nullableText v) => some { row with downstreamSystemId := v }
  | (.status, .text v) => some { row with status := v }
  | (.maxAttempts, .int4 v) => some { row with maxAttempts := v }
  | (.eventTypes, .textArray v) => some { row with eventTypes := v }
  | _ => none

/-- The set clauses of the supplied fields, after `updated_at = NOW()`. -/
def setClauses (fields : SubscriptionFields) : List (Assignment SubscriptionColumn) :=
  (if fields.webhookUrl.isSome then [⟨.webhookUrl, 3⟩] else []) ++
  (if fields.downstreamSystemId.isSome then [⟨.downstreamSystemId, 4⟩] else []) ++
  (if fields.status.isSome then [⟨.status, 5⟩] else []) ++
  (if fields.maxAttempts.isSome then [⟨.maxAttempts, 6⟩] else []) ++
  (if fields.eventTypes.isSome then [⟨.eventTypes, 7⟩] else [])

/-- The parameters that an update binds. -/
def bindings (id tenantId : Uuid) (fields : SubscriptionFields) : List SqlValue :=
  [.uuid id, .uuid tenantId] ++ (fields.webhookUrl.map .text).toList ++
    (fields.downstreamSystemId.map .nullableText).toList ++ (fields.status.map .text).toList ++
    (fields.maxAttempts.map .int4).toList ++ (fields.eventTypes.map .textArray).toList

variable (table : SubscriptionStore)

/-- `UNIQUE (tenant_id, intent_id, subscription_id)`: some row has the subscription of a record. -/
def taken (record : WebhookSubscriptionRecord) : Bool :=
  (pairs table).any fun p => p.2.tenantId = record.tenantId ∧ p.2.intentId = record.intentId ∧
    p.2.subscriptionId = record.subscriptionId

def create (record : WebhookSubscriptionRecord) : SubscriptionAnswer :=
  if (table.lookup record.id).isSome ∨ taken table record then
    (.error (.storageError
      "insert webhook subscription: duplicate key value violates unique constraint"), table)
  else (.ok record, table.insert record.id record)

/-- The rows of an intent, the table scanned in some order. -/
def listByIntent (scan : IterOrder WebhookSubscriptionRecord) (tenantId intentId : Uuid) :
    Except IntentRebaseError (List WebhookSubscriptionRecord) :=
  let rows := (scan.apply ((pairs table).map Prod.snd)).filter fun row =>
    row.tenantId = tenantId ∧ row.intentId = intentId
  .ok (orderBy WebhookSubscriptionRecord.listKey rows)

/-- `WHERE id = … AND tenant_id = …`. -/
def find (id tenantId : Uuid) : Option WebhookSubscriptionRecord :=
  (table.lookup id).filter fun row => row.tenantId = tenantId

def get (id tenantId : Uuid) : Except IntentRebaseError WebhookSubscriptionRecord :=
  match find table id tenantId with
  | some row => .ok row
  | none => .error (.webhookSubscriptionNotFound id)

def update (now : DateTime) (id tenantId : Uuid) (fields : SubscriptionFields) :
    SubscriptionAnswer :=
  match resolve (bindings id tenantId fields) (setClauses fields) with
  | none =>
    (.error (.storageError "update webhook subscription: a placeholder has no parameter"), table)
  | some values =>
    match find table id tenantId with
    | none => (.error (.webhookSubscriptionNotFound id), table)
    | some row =>
      match values.foldlM setColumn { row with updatedAt := now } with
      | none =>
        (.error (.storageError "update webhook subscription: a value is not of its column's type"),
          table)
      | some row => (.ok row, table.insert id row)

/-- `UPDATE … WHERE id = … AND tenant_id = … RETURNING …`. -/
def updateReturning (id tenantId : Uuid)
    (set : WebhookSubscriptionRecord → WebhookSubscriptionRecord) : SubscriptionAnswer :=
  match find table id tenantId with
  | none => (.error (.webhookSubscriptionNotFound id), table)
  | some row => (.ok (set row), table.insert id (set row))

def softDelete (now : DateTime) (id tenantId : Uuid) : SubscriptionAnswer :=
  updateReturning table id tenantId fun row => { row with status := "deleted", updatedAt := now }

end SqlxWebhookSubscriptionRepository

end IntentRebase
