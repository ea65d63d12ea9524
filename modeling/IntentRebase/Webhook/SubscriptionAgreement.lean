import IntentRebase.Compensation.RepositoryAgreement
import IntentRebase.Kit.Agreement
import IntentRebase.Types.Column
import IntentRebase.Webhook.Subscription

/-! The in-memory and the SQL repository of webhook subscriptions, call by call. The SQL update
numbers its placeholders by field and binds only what is supplied, so it runs only when no field is
supplied after an omitted one; only the table refuses a second record of one subscription; and its
columns hold no text with U+0000 and times in whole microseconds. -/

namespace IntentRebase

open Kit

namespace SubscriptionFields

/-- The columns of the fields with what is supplied for them, in the order of the update. -/
def columns (fields : SubscriptionFields) : List (SubscriptionColumn × Option SqlValue) :=
  [(.webhookUrl, fields.webhookUrl.map .text),
    (.downstreamSystemId, fields.downstreamSystemId.map .nullableText),
    (.status, fields.status.map .text), (.maxAttempts, fields.maxAttempts.map .int4),
    (.eventTypes, fields.eventTypes.map .textArray)]

/-- No field is supplied after one that is omitted. -/
def Leading (fields : SubscriptionFields) : Prop := SuppliedFirst fields.columns

/-- The record with the supplied fields at their values and every other field unchanged, but for
the time of the update. -/
def applied (fields : SubscriptionFields) (now : DateTime) (r : WebhookSubscriptionRecord) :
    WebhookSubscriptionRecord :=
  { r with
    webhookUrl := fields.webhookUrl.getD r.webhookUrl
    downstreamSystemId := fields.downstreamSystemId.getD r.downstreamSystemId
    status := fields.status.getD r.status
    maxAttempts := fields.maxAttempts.getD r.maxAttempts
    eventTypes := fields.eventTypes.getD r.eventTypes
    updatedAt := now }

end SubscriptionFields

section Update

variable (now : DateTime) (fields : SubscriptionFields) (r : WebhookSubscriptionRecord)

theorem assign_eq_applied :
    InMemoryWebhookSubscriptionRepository.assign now fields r = fields.applied now r := by
  obtain ⟨url, dsid, status, attempts, events⟩ := fields
  cases url <;> cases dsid <;> cases status <;> cases attempts <;> cases events <;> rfl

theorem setClauses_eq :
    SqlxWebhookSubscriptionRepository.setClauses fields = assignFixed 3 fields.columns := by
  obtain ⟨url, dsid, status, attempts, events⟩ := fields
  cases url <;> cases dsid <;> cases status <;> cases attempts <;> cases events <;> rfl

theorem bindings_eq (id tenantId : Uuid) :
    SqlxWebhookSubscriptionRepository.bindings id tenantId fields =
      [.uuid id, .uuid tenantId] ++ suppliedValues fields.columns := by
  obtain ⟨url, dsid, status, attempts, events⟩ := fields
  cases url <;> cases dsid <;> cases status <;> cases attempts <;> cases events <;> rfl

/-- Every supplied value is of its column's type, and sets that column alone. -/
theorem foldlM_setColumn :
    (supplied fields.columns).foldlM SqlxWebhookSubscriptionRepository.setColumn
      { r with updatedAt := now } = some (fields.applied now r) := by
  obtain ⟨url, dsid, status, attempts, events⟩ := fields
  cases url <;> cases dsid <;> cases status <;> cases attempts <;> cases events <;> rfl

end Update

section Statement

variable {table : SubscriptionStore} (now : DateTime) (id tenantId : Uuid)
  {fields : SubscriptionFields}

theorem find_eq_some {row : WebhookSubscriptionRecord} :
    SqlxWebhookSubscriptionRepository.find table id tenantId = some row ↔
      table.lookup id = some row ∧ row.tenantId = tenantId := by
  rw [SqlxWebhookSubscriptionRepository.find, Option.filter_eq_some_iff, decide_eq_true_eq]

/-- With leading fields the statement runs, and sets each supplied field. -/
theorem sqlxUpdate_leading (h : fields.Leading) :
    SqlxWebhookSubscriptionRepository.update table now id tenantId fields =
      SqlxWebhookSubscriptionRepository.updateReturning table id tenantId (fields.applied now) := by
  have hresolve := (resolve_assignFixed fields.columns
    [SqlValue.uuid id, SqlValue.uuid tenantId]).1 h
  rw [SqlxWebhookSubscriptionRepository.update, bindings_eq, setClauses_eq,
    SqlxWebhookSubscriptionRepository.updateReturning]
  simp only [List.length_cons, List.length_nil] at hresolve
  rw [hresolve]
  dsimp only
  cases SqlxWebhookSubscriptionRepository.find table id tenantId with
  | none => rfl
  | some row =>
    dsimp only
    rw [foldlM_setColumn]

/-- With a field supplied after an omitted one the statement is refused. -/
theorem sqlxUpdate_refused (h : ¬ fields.Leading) :
    SqlxWebhookSubscriptionRepository.update table now id tenantId fields =
      (.error (.storageError "update webhook subscription: a placeholder has no parameter"),
        table) := by
  have hresolve := (resolve_assignFixed fields.columns
    [SqlValue.uuid id, SqlValue.uuid tenantId]).2 h
  rw [SqlxWebhookSubscriptionRepository.update, bindings_eq, setClauses_eq]
  simp only [List.length_cons, List.length_nil] at hresolve
  rw [hresolve]

end Statement

section Columns

/-- The record with the values that the columns take for it. -/
def WebhookSubscriptionRecord.bind (record : WebhookSubscriptionRecord) :
    Except String WebhookSubscriptionRecord := do
  let webhookUrl ← textColumn record.webhookUrl
  let downstreamSystemId ← nullableText record.downstreamSystemId
  let status ← textColumn record.status
  let eventTypes ← textArray record.eventTypes
  return { record with
    webhookUrl, downstreamSystemId, status, eventTypes
    createdAt := timestamptz record.createdAt
    updatedAt := timestamptz record.updatedAt }

/-- What the columns of `webhook_subscriptions` ask of a record, to hold it as it is. -/
structure WebhookSubscriptionRecord.Fits (record : WebhookSubscriptionRecord) : Prop where
  webhookUrl : containsNul record.webhookUrl = false
  downstreamSystemId : ∀ text ∈ record.downstreamSystemId, containsNul text = false
  status : containsNul record.status = false
  eventTypes : ∀ text ∈ record.eventTypes, containsNul text = false
  createdAt : record.createdAt % 1000 = 0
  updatedAt : record.updatedAt % 1000 = 0

theorem WebhookSubscriptionRecord.bind_eq_self {record : WebhookSubscriptionRecord} :
    bind record = .ok record ↔ record.Fits := by
  simp only [bind, bind_eq_ok]
  constructor
  · rintro ⟨_, hurl, _, hsystem, _, hstatus, _, htypes, hrecord⟩
    have hfield : ∀ {α : Type} (field : WebhookSubscriptionRecord → α), _ = field record :=
      fun field => congrArg field (Except.ok.inj hrecord)
    exact {
      webhookUrl := (textColumn_ok.mp hurl).1
      downstreamSystemId := (nullableText_ok.mp hsystem).1
      status := (textColumn_ok.mp hstatus).1
      eventTypes := (textArray_ok.mp htypes).1
      createdAt := timestamptz_eq_self.mp (hfield (·.createdAt))
      updatedAt := timestamptz_eq_self.mp (hfield (·.updatedAt)) }
  · intro h
    refine ⟨_, textColumn_ok.mpr ⟨h.webhookUrl, rfl⟩, _,
      nullableText_ok.mpr ⟨h.downstreamSystemId, rfl⟩, _, textColumn_ok.mpr ⟨h.status, rfl⟩, _,
      textArray_ok.mpr ⟨h.eventTypes, rfl⟩, ?_⟩
    rw [timestamptz_eq_self.mpr h.createdAt, timestamptz_eq_self.mpr h.updatedAt]
    rfl

/-- What is bound is of the same subscription. -/
theorem WebhookSubscriptionRecord.keys_of_bind {record bound : WebhookSubscriptionRecord}
    (h : bind record = .ok bound) :
    bound.id = record.id ∧
      ∀ table, SqlxWebhookSubscriptionRepository.taken table bound =
        SqlxWebhookSubscriptionRepository.taken table record := by
  simp only [bind, bind_eq_ok] at h
  obtain ⟨_, -, _, -, _, -, _, -, hbound⟩ := h
  obtain rfl := Except.ok.inj hbound
  exact ⟨rfl, fun _ => rfl⟩

namespace SubscriptionFields

/-- The fields with the values that the columns take for what is supplied. -/
def bind (fields : SubscriptionFields) : Except String SubscriptionFields := do
  let webhookUrl ← suppliedColumn textColumn fields.webhookUrl
  let downstreamSystemId ← suppliedColumn nullableText fields.downstreamSystemId
  let status ← suppliedColumn textColumn fields.status
  let eventTypes ← suppliedColumn textArray fields.eventTypes
  return { fields with webhookUrl, downstreamSystemId, status, eventTypes }

/-- No text that is supplied holds the character with code 0. -/
structure Fits (fields : SubscriptionFields) : Prop where
  webhookUrl : ∀ text ∈ fields.webhookUrl, containsNul text = false
  downstreamSystemId : ∀ value ∈ fields.downstreamSystemId, ∀ text ∈ value, containsNul text = false
  status : ∀ text ∈ fields.status, containsNul text = false
  eventTypes : ∀ texts ∈ fields.eventTypes, ∀ text ∈ texts, containsNul text = false

theorem bind_ok {fields bound : SubscriptionFields} :
    bind fields = .ok bound ↔ fields.Fits ∧ bound = fields := by
  simp only [bind, bind_eq_ok, suppliedColumn_ok textColumn_ok, suppliedColumn_ok nullableText_ok,
    suppliedColumn_ok textArray_ok]
  constructor
  · rintro ⟨_, ⟨hurl, rfl⟩, _, ⟨hsystem, rfl⟩, _, ⟨hstatus, rfl⟩, _, ⟨htypes, rfl⟩, hbound⟩
    exact ⟨⟨hurl, hsystem, hstatus, htypes⟩, (Except.ok.inj hbound).symm⟩
  · rintro ⟨h, rfl⟩
    exact ⟨_, ⟨h.webhookUrl, rfl⟩, _, ⟨h.downstreamSystemId, rfl⟩, _, ⟨h.status, rfl⟩, _,
      ⟨h.eventTypes, rfl⟩, rfl⟩

end SubscriptionFields

/-! The statements with the values that the columns take for their arguments. -/

namespace SubscriptionColumns

variable (table : SubscriptionStore)

/-- The insertion answers the record that it was given. -/
def create (record : WebhookSubscriptionRecord) : SubscriptionAnswer :=
  match record.bind with
  | .error e => (.error (.storageError s!"insert webhook subscription: {e}"), table)
  | .ok bound =>
    match SqlxWebhookSubscriptionRepository.create table bound with
    | (.ok _, table) => (.ok record, table)
    | (.error e, table) => (.error e, table)

def update (now : DateTime) (id tenantId : Uuid) (fields : SubscriptionFields) :
    SubscriptionAnswer :=
  match fields.bind with
  | .error e => (.error (.storageError s!"update webhook subscription: {e}"), table)
  | .ok fields =>
    SqlxWebhookSubscriptionRepository.update table (timestamptz now) id tenantId fields

def softDelete (now : DateTime) (id tenantId : Uuid) : SubscriptionAnswer :=
  SqlxWebhookSubscriptionRepository.softDelete table (timestamptz now) id tenantId

variable {table} {fields : SubscriptionFields} (now : DateTime) (id tenantId : Uuid)

/-- With leading fields that fit the statement runs, and sets each supplied field. -/
theorem update_runs (h : fields.Leading ∧ fields.Fits) :
    update table now id tenantId fields = SqlxWebhookSubscriptionRepository.updateReturning table id
      tenantId (fields.applied (timestamptz now)) := by
  rw [update, SubscriptionFields.bind_ok.mpr ⟨h.2, rfl⟩]
  exact sqlxUpdate_leading (timestamptz now) id tenantId h.1

variable (table) in
/-- With other fields it is refused. -/
theorem update_refused (h : ¬ (fields.Leading ∧ fields.Fits)) :
    ∃ text, update table now id tenantId fields = (.error (.storageError text), table) := by
  rw [update]
  cases hbind : fields.bind with
  | error e => exact ⟨_, rfl⟩
  | ok bound =>
    obtain ⟨hfits, rfl⟩ := SubscriptionFields.bind_ok.mp hbind
    exact ⟨_, sqlxUpdate_refused (timestamptz now) id tenantId fun hleading => h ⟨hleading, hfits⟩⟩

end SubscriptionColumns

end Columns

inductive SubscriptionCall where
  | create (record : WebhookSubscriptionRecord)
  | listByIntent (tenantId intentId : Uuid)
  | get (id tenantId : Uuid)
  | update (now : DateTime) (id tenantId : Uuid) (fields : SubscriptionFields)
  | softDelete (now : DateTime) (id tenantId : Uuid)

inductive SubscriptionReply where
  | record (result : Except IntentRebaseError WebhookSubscriptionRecord)
  | records (result : Except IntentRebaseError (List WebhookSubscriptionRecord))

inductive SubscriptionReply.Same : SubscriptionReply → SubscriptionReply → Prop
  | record {r r' : Except IntentRebaseError WebhookSubscriptionRecord} (h : SameResult r r') :
      Same (.record r) (.record r')
  | records {r r' : Except IntentRebaseError (List WebhookSubscriptionRecord)}
      (h : SameResult r r') : Same (.records r) (.records r')

/-- The orders in which one call reads the map and the table. -/
abbrev ReadOrders := IterOrder WebhookSubscriptionRecord × IterOrder WebhookSubscriptionRecord

/-- An answer as that of a call. -/
def replying (answer : SubscriptionAnswer) : SubscriptionReply × SubscriptionStore :=
  (.record answer.1, answer.2)

def inMemoryCall (orders : ReadOrders) (call : SubscriptionCall) (s : SubscriptionStore) :
    SubscriptionReply × SubscriptionStore :=
  match call with
  | .create record => replying (InMemoryWebhookSubscriptionRepository.create s record)
  | .listByIntent tenantId intentId =>
    (.records (InMemoryWebhookSubscriptionRepository.listByIntent s orders.1 tenantId intentId), s)
  | .get id tenantId => (.record (InMemoryWebhookSubscriptionRepository.get s id tenantId), s)
  | .update now id tenantId fields =>
    replying (InMemoryWebhookSubscriptionRepository.update s now id tenantId fields)
  | .softDelete now id tenantId =>
    replying (InMemoryWebhookSubscriptionRepository.softDelete s now id tenantId)

def sqlxCall (orders : ReadOrders) (call : SubscriptionCall) (t : SubscriptionStore) :
    SubscriptionReply × SubscriptionStore :=
  match call with
  | .create record => replying (SubscriptionColumns.create t record)
  | .listByIntent tenantId intentId =>
    (.records (SqlxWebhookSubscriptionRepository.listByIntent t orders.2 tenantId intentId), t)
  | .get id tenantId => (.record (SqlxWebhookSubscriptionRepository.get t id tenantId), t)
  | .update now id tenantId fields =>
    replying (SubscriptionColumns.update t now id tenantId fields)
  | .softDelete now id tenantId => replying (SubscriptionColumns.softDelete t now id tenantId)

/-- The records in memory after a call. -/
def SubscriptionCall.next (s : SubscriptionStore) (call : SubscriptionCall) : SubscriptionStore :=
  (inMemoryCall (.id _, .id _) call s).2

/-- The map and the table hold the same records, and each under its own identifier. -/
structure SameSubscriptions (s t : SubscriptionStore) : Prop where
  lookup : ∀ id, t.lookup id = s.lookup id
  keyed : ∀ id r, s.lookup id = some r → r.id = id

/-- A change that reaches a record sets a time in whole microseconds. -/
def ChangedOnTime (s : SubscriptionStore) (now : DateTime) (id tenantId : Uuid) : Prop :=
  ∀ r, s.lookup id = some r → r.tenantId = tenantId → now % 1000 = 0

/-- A creation under a new identifier is of a subscription that no other record has, and its record
fits the columns. An update supplies no field after an omitted one, and texts that fit. -/
def SubscriptionCall.InStep (s : SubscriptionStore) : SubscriptionCall → Prop
  | .create record => s.lookup record.id = none →
    SqlxWebhookSubscriptionRepository.taken s record = false ∧ record.Fits
  | .update now id tenantId fields =>
    (fields.Leading ∧ fields.Fits) ∧ ChangedOnTime s now id tenantId
  | .softDelete now id tenantId => ChangedOnTime s now id tenantId
  | .listByIntent .. | .get .. => True

section Agreement

variable {s t : SubscriptionStore}

theorem SameSubscriptions.values (h : SameSubscriptions s t) :
    ((pairs t).map Prod.snd).Perm ((pairs s).map Prod.snd) := by
  have hperm : ((pairs t).map Prod.snd).Perm (((pairs s).map Prod.snd).map fun r => r) :=
    values_perm fun k => by rw [h.lookup k, Option.map_id']
  rwa [List.map_id'] at hperm

theorem SameSubscriptions.taken (h : SameSubscriptions s t) (record : WebhookSubscriptionRecord) :
    SqlxWebhookSubscriptionRepository.taken t record =
      SqlxWebhookSubscriptionRepository.taken s record := by
  have hany : ∀ m : SubscriptionStore, SqlxWebhookSubscriptionRepository.taken m record =
      ((pairs m).map Prod.snd).any fun r => r.tenantId = record.tenantId ∧
        r.intentId = record.intentId ∧ r.subscriptionId = record.subscriptionId := by
    intro m
    rw [SqlxWebhookSubscriptionRepository.taken, List.any_map]
    rfl
  rw [hany, hany, h.values.any_eq]

/-- The listings are the same, whatever the orders in which the map and the table are read. -/
theorem SameSubscriptions.listByIntent (h : SameSubscriptions s t) (orders : ReadOrders)
    (tenantId intentId : Uuid) :
    SqlxWebhookSubscriptionRepository.listByIntent t orders.2 tenantId intentId =
      InMemoryWebhookSubscriptionRepository.listByIntent s orders.1 tenantId intentId := by
  have hperm : (orders.2.apply ((pairs t).map Prod.snd)).Perm
      (orders.1.apply ((pairs s).map Prod.snd)) :=
    ((orders.2.perm _).trans h.values).trans (orders.1.perm _).symm
  rw [SqlxWebhookSubscriptionRepository.listByIntent,
    InMemoryWebhookSubscriptionRepository.listByIntent]
  refine congrArg Except.ok (orderBy_eq_of_perm (hperm.filter _) ?_)
  have hstored : ∀ r ∈ (orders.2.apply ((pairs t).map Prod.snd)).filter (fun row =>
      decide (row.tenantId = tenantId ∧ row.intentId = intentId)), s.lookup r.id = some r := by
    intro r hr
    have hmem := h.values.mem_iff.mp ((orders.2.perm _).mem_iff.mp (List.mem_filter.mp hr).1)
    obtain ⟨⟨id, r'⟩, hpair, rfl⟩ := List.mem_map.mp hmem
    have hlookup := mem_pairs.mp hpair
    rwa [h.keyed id r' hlookup]
  intro a ha b hb hkey
  have hid : a.id = b.id := (Prod.ext_iff.mp (toLex.injective hkey)).2
  exact Option.some.inj ((hstored a ha).symm.trans (hid ▸ hstored b hb))

theorem SameSubscriptions.insert (h : SameSubscriptions s t) (id : Uuid)
    {r : WebhookSubscriptionRecord} (hid : r.id = id) :
    SameSubscriptions (s.insert id r) (t.insert id r) := by
  constructor
  · intro k
    rw [lookup_insert_eq, lookup_insert_eq, h.lookup]
  · intro k r' hk
    rw [lookup_insert_eq] at hk
    split at hk
    · next heq =>
      obtain rfl := Option.some.inj hk
      rw [hid, heq]
    · exact h.keyed k r' hk

/-- Where the tenant has the record, both sides change it, and do so alike if the changes make the
same of it; otherwise neither finds it. -/
theorem SameSubscriptions.modify (h : SameSubscriptions s t) (id tenantId : Uuid)
    (change change' : WebhookSubscriptionRecord → WebhookSubscriptionRecord)
    (hid : ∀ r, (change r).id = r.id) :
    SameResult (InMemoryWebhookSubscriptionRepository.modify s id tenantId change).1
          (SqlxWebhookSubscriptionRepository.updateReturning t id tenantId change').1 ∧
        SameSubscriptions (InMemoryWebhookSubscriptionRepository.modify s id tenantId change).2
          (SqlxWebhookSubscriptionRepository.updateReturning t id tenantId change').2 ↔
      ∀ r, s.lookup id = some r → r.tenantId = tenantId → change r = change' r := by
  simp only [InMemoryWebhookSubscriptionRepository.modify,
    SqlxWebhookSubscriptionRepository.updateReturning, SqlxWebhookSubscriptionRepository.find,
    h.lookup id]
  cases hlookup : s.lookup id with
  | none => exact iff_of_true ⟨.error rfl, h⟩ fun r hr => nomatch hr
  | some r =>
    by_cases htenant : r.tenantId = tenantId
    · simp only [Option.filter_some, htenant, decide_true, if_true, ne_eq, not_true, if_false,
        Option.some.injEq, forall_eq', true_imp_iff, sameResult_ok]
      refine ⟨And.left, fun hsame => ⟨hsame, ?_⟩⟩
      rw [← hsame]
      exact h.insert id ((hid r).trans (h.keyed id r hlookup))
    · simp only [Option.filter_some, htenant, decide_false, Bool.false_eq_true, if_false, ne_eq,
        not_false_eq_true, if_true]
      refine iff_of_true ⟨.error rfl, h⟩ fun r' hr' hsame => ?_
      exact absurd (Option.some.inj hr' ▸ hsame) htenant

theorem SameSubscriptions.softDelete (h : SameSubscriptions s t) (now : DateTime)
    (id tenantId : Uuid) :
    SameResult (InMemoryWebhookSubscriptionRepository.softDelete s now id tenantId).1
          (SubscriptionColumns.softDelete t now id tenantId).1 ∧
        SameSubscriptions (InMemoryWebhookSubscriptionRepository.softDelete s now id tenantId).2
          (SubscriptionColumns.softDelete t now id tenantId).2 ↔
      ChangedOnTime s now id tenantId := by
  refine (h.modify id tenantId (fun r => { r with status := "deleted", updatedAt := now })
    (fun r => { r with status := "deleted", updatedAt := timestamptz now }) fun _ => rfl).trans
    (forall₃_congr fun r _ _ => ?_)
  rw [← timestamptz_eq_self, WebhookSubscriptionRecord.mk.injEq]
  simp only [true_and, @eq_comm _ now]

theorem SameSubscriptions.get (h : SameSubscriptions s t) (id tenantId : Uuid) :
    SqlxWebhookSubscriptionRepository.get t id tenantId =
      InMemoryWebhookSubscriptionRepository.get s id tenantId := by
  rw [SqlxWebhookSubscriptionRepository.get, SqlxWebhookSubscriptionRepository.find, h.lookup id,
    InMemoryWebhookSubscriptionRepository.get]
  cases s.lookup id with
  | none => rfl
  | some r =>
    by_cases htenant : r.tenantId = tenantId
    · simp only [Option.filter_some, htenant, decide_true, if_true, ne_eq, not_true, if_false]
    · simp only [Option.filter_some, htenant, decide_false, Bool.false_eq_true, if_false, ne_eq,
        not_false_eq_true, if_true]

/-- Both refuse an identifier that is taken; the table also refuses a taken subscription, and a
record that does not fit its columns or is not held as it is. -/
theorem SameSubscriptions.create (h : SameSubscriptions s t) (record : WebhookSubscriptionRecord) :
    SameResult (InMemoryWebhookSubscriptionRepository.create s record).1
          (SubscriptionColumns.create t record).1 ∧
        SameSubscriptions (InMemoryWebhookSubscriptionRepository.create s record).2
          (SubscriptionColumns.create t record).2 ↔
      (s.lookup record.id = none →
        SqlxWebhookSubscriptionRepository.taken s record = false ∧ record.Fits) := by
  rw [← WebhookSubscriptionRecord.bind_eq_self, InMemoryWebhookSubscriptionRepository.create,
    SubscriptionColumns.create]
  cases hbind : record.bind with
  | error e =>
    cases hlookup : s.lookup record.id with
    | some r => exact iff_of_true ⟨.error rfl, h⟩ fun hnone => nomatch hnone
    | none => exact iff_of_false (fun hsame => nomatch hsame.1) fun hnew => nomatch (hnew rfl).2
  | ok bound =>
    obtain ⟨hid, htaken⟩ := WebhookSubscriptionRecord.keys_of_bind hbind
    dsimp only
    rw [SqlxWebhookSubscriptionRepository.create, hid, htaken, h.lookup, h.taken]
    cases hlookup : s.lookup record.id with
    | some r =>
      rw [if_pos (.inl rfl)]
      exact iff_of_true ⟨.error rfl, h⟩ fun hnone => nomatch hnone
    | none =>
      cases SqlxWebhookSubscriptionRepository.taken s record with
      | true =>
        rw [if_pos (.inr rfl)]
        exact iff_of_false (fun hsame => nomatch hsame.1) fun hnew => nomatch (hnew rfl).1
      | false =>
        rw [if_neg (by simp)]
        simp only [true_imp_iff, true_and]
        constructor
        · rintro ⟨-, hcontents⟩
          have hnew := hcontents.lookup record.id
          rw [lookup_insert_eq, if_pos rfl, lookup_insert_eq, if_pos rfl] at hnew
          rw [Option.some.inj hnew]
        · intro hok
          obtain rfl := Except.ok.inj hok
          exact ⟨.ok bound, h.insert bound.id rfl⟩

theorem SameSubscriptions.update (h : SameSubscriptions s t) (now : DateTime)
    (id tenantId : Uuid) (fields : SubscriptionFields) :
    SameResult (InMemoryWebhookSubscriptionRepository.update s now id tenantId fields).1
          (SubscriptionColumns.update t now id tenantId fields).1 ∧
        SameSubscriptions (InMemoryWebhookSubscriptionRepository.update s now id tenantId fields).2
          (SubscriptionColumns.update t now id tenantId fields).2 ↔
      (fields.Leading ∧ fields.Fits) ∧ ChangedOnTime s now id tenantId := by
  have hchange : InMemoryWebhookSubscriptionRepository.assign now fields = fields.applied now :=
    funext fun r => assign_eq_applied now fields r
  rw [InMemoryWebhookSubscriptionRepository.update, hchange]
  by_cases hruns : fields.Leading ∧ fields.Fits
  · rw [SubscriptionColumns.update_runs now id tenantId hruns, and_iff_right hruns]
    refine (h.modify id tenantId (fields.applied now) _ fun _ => rfl).trans
      (forall₃_congr fun r _ _ => ?_)
    rw [SubscriptionFields.applied, SubscriptionFields.applied, ← timestamptz_eq_self,
      WebhookSubscriptionRecord.mk.injEq]
    simp only [true_and, @eq_comm _ now]
  · obtain ⟨text, hrefused⟩ := SubscriptionColumns.update_refused t now id tenantId hruns
    refine iff_of_false (fun ⟨hsame, _⟩ => ?_) fun hstep => hruns hstep.1
    rw [hrefused, InMemoryWebhookSubscriptionRepository.modify] at hsame
    -- in memory the call succeeds, or does not find the record
    split at hsame
    · cases hsame with
      | error hkind => cases hkind
    · split at hsame
      · cases hsame with
        | error hkind => cases hkind
      · cases hsame

end Agreement

section Runs

variable {s t : SubscriptionStore}

theorem same_record {r r' : Except IntentRebaseError WebhookSubscriptionRecord} :
    SubscriptionReply.Same (.record r) (.record r') ↔ SameResult r r' := by
  refine ⟨fun h => ?_, .record⟩
  cases h with
  | record h => exact h

instance : Nonempty ReadOrders := ⟨.id _, .id _⟩

/-- The answers to a change, which do not depend on the orders, as replies. -/
theorem replying_same {answer answer' : SubscriptionAnswer} {condition : Prop}
    (h : SameResult answer.1 answer'.1 ∧ SameSubscriptions answer.2 answer'.2 ↔ condition) :
    (∀ _ : ReadOrders, SubscriptionReply.Same (replying answer).1 (replying answer').1) ∧
        SameSubscriptions (replying answer).2 (replying answer').2 ↔ condition :=
  (and_congr_left' ((forall_const _).trans same_record)).trans h

/-- The records of the table after a call. -/
def SubscriptionCall.sqlxNext (t : SubscriptionStore) (call : SubscriptionCall) :
    SubscriptionStore :=
  (sqlxCall (.id _, .id _) call t).2

/-- A call gets the same answer from both, and leaves the same contents, exactly if it is in
step. -/
theorem subscriptionCall_same (h : SameSubscriptions s t) (call : SubscriptionCall) :
    (∀ orders, SubscriptionReply.Same (inMemoryCall orders call s).1
        (sqlxCall orders call t).1) ∧ SameSubscriptions (call.next s) (call.sqlxNext t) ↔
      call.InStep s := by
  cases call with
  | create record => exact replying_same (h.create record)
  | listByIntent tenantId intentId =>
    refine iff_of_true ⟨fun orders => .records ?_, h⟩ trivial
    rw [h.listByIntent]
    exact .refl _
  | get id tenantId =>
    refine iff_of_true ⟨fun orders => .record ?_, h⟩ trivial
    rw [h.get]
    exact .refl _
  | update now id tenantId fields => exact replying_same (h.update now id tenantId fields)
  | softDelete now id tenantId => exact replying_same (h.softDelete now id tenantId)

theorem inMemoryCall_next (orders : ReadOrders) (call : SubscriptionCall) (s : SubscriptionStore) :
    (inMemoryCall orders call s).2 = call.next s := by
  cases call <;> rfl

theorem sqlxCall_next (orders : ReadOrders) (call : SubscriptionCall) (t : SubscriptionStore) :
    (sqlxCall orders call t).2 = call.sqlxNext t := by
  cases call <;> rfl

/-- The repositories cannot be told apart by any part of a sequence of calls from its start. -/
def SubscriptionsInterchangeable (s t : SubscriptionStore) (calls : List SubscriptionCall) : Prop :=
  ∀ before, before <+: calls →
    Agree inMemoryCall sqlxCall SubscriptionReply.Same SameSubscriptions s t before

/-- In memory an update sets exactly the supplied fields; in SQL it does so exactly if no field is
supplied after an omitted one and the texts fit. From the same contents the repositories give the
same results and contents up to every call of a sequence exactly if every call of it is in step. -/
theorem subscriptionRepositories_agree_iff (h : SameSubscriptions s t)
    (calls : List SubscriptionCall) :
    (∀ (now : DateTime) (id : Uuid) (fields : SubscriptionFields) (r : WebhookSubscriptionRecord),
      s.lookup id = some r →
      InMemoryWebhookSubscriptionRepository.update s now id r.tenantId fields =
          (.ok (fields.applied now r), s.insert id (fields.applied now r)) ∧
        (SubscriptionColumns.update s now id r.tenantId fields =
            (.ok (fields.applied (timestamptz now) r),
              s.insert id (fields.applied (timestamptz now) r)) ↔
          fields.Leading ∧ fields.Fits)) ∧
    (SubscriptionsInterchangeable s t calls ↔
      AllSteps SubscriptionCall.next (fun s call => call.InStep s) s calls) := by
  constructor
  · intro now id fields r hlookup
    constructor
    · rw [InMemoryWebhookSubscriptionRepository.update,
        InMemoryWebhookSubscriptionRepository.modify, hlookup]
      simp only [ne_eq, not_true, if_false, assign_eq_applied]
    · constructor
      · intro hupdate
        by_contra hruns
        obtain ⟨text, hrefused⟩ := SubscriptionColumns.update_refused _ now id r.tenantId hruns
        rw [hrefused] at hupdate
        cases hupdate
      · intro hruns
        rw [SubscriptionColumns.update_runs now id r.tenantId hruns,
          SqlxWebhookSubscriptionRepository.updateReturning,
          (find_eq_some id r.tenantId).mpr ⟨hlookup, rfl⟩]
  · refine agree_prefixes_iff_of_state SameSubscriptions inMemoryCall_next sqlxCall_next ?_ ?_
      (fun _ _ h => h) h calls
    · exact fun call h => subscriptionCall_same h call
    · exact fun _ _ hcontents _ => hcontents

theorem sameSubscriptions_empty : SameSubscriptions ∅ ∅ where
  lookup := fun _ => rfl
  keyed := fun _ _ h => nomatch h

def WebhookSubscriptionRecord.sample : WebhookSubscriptionRecord :=
  .new 0 1 2 3 4 "https://example.com/webhook" (some "system-a") ["intent_changed"]

/-- A subscription that is created, gets a new address and is deleted looks the same in both. -/
theorem subscriptionRepositories_agree_sample :
    SubscriptionsInterchangeable ∅ ∅
      [.create .sample, .update 5000 1 2 { webhookUrl := some "https://example.com/next" },
        .listByIntent 2 3, .softDelete 9000 1 2, .get 1 2] := by
  refine (subscriptionRepositories_agree_iff sameSubscriptions_empty _).2.mpr
    ⟨fun _ => ⟨rfl, ?_⟩, ⟨⟨rfl, ?_⟩, fun _ _ _ => rfl⟩, trivial, fun _ _ _ => rfl, trivial,
      trivial⟩
  · exact {
      webhookUrl := by decide
      downstreamSystemId := fun _ hsystem => Option.some.inj hsystem ▸ by decide
      status := by decide
      eventTypes := fun _ htype => List.mem_singleton.mp htype ▸ by decide
      createdAt := rfl
      updatedAt := rfl }
  · exact {
      webhookUrl := fun _ hurl => Option.some.inj hurl ▸ by decide
      downstreamSystemId := fun _ hnone => nomatch hnone
      status := fun _ hnone => nomatch hnone
      eventTypes := fun _ hnone => nomatch hnone }

/-- A status alone is set in memory and refused in SQL. -/
theorem subscriptionRepositories_differ :
    ¬ ∀ (s t : SubscriptionStore), SameSubscriptions s t → ∀ calls : List SubscriptionCall,
      Agree inMemoryCall sqlxCall SubscriptionReply.Same SameSubscriptions s t calls := by
  intro h
  have hagree := h ∅ ∅ sameSubscriptions_empty
    [.create .sample, .update 5000 1 2 { status := some "paused" }] fun _ => (.id _, .id _)
  have hreply := (List.forall₂_cons.mp (List.forall₂_cons.mp hagree.1).2).1
  cases same_record.mp hreply

end Runs

end IntentRebase
