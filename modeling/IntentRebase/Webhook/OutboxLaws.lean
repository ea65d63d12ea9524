import Mathlib.Logic.Function.Basic
import IntentRebase.Webhook.OutboxContents

/-! What an outbox repository promises of the records it holds, and that the in-memory and the SQL
repository keep it. A call that fails changes nothing. -/

namespace IntentRebase

open Kit

/-- The records that a repository holds. -/
abbrev OutboxView := Uuid → Option WebhookOutboxRecord

variable {σ : Type}

/-- A call changes the record that it reaches, or it fails. -/
def Changed (view : σ → OutboxView) (valid : σ → Prop) (s : σ) (id tenantId : Uuid)
    (required : Option WebhookOutboxStatus) (change : WebhookOutboxRecord → WebhookOutboxRecord)
    (answer : OutboxAnswer σ) : Prop :=
  (∃ r s', Reached (view s id) tenantId required r ∧ answer = (.ok (change r), s') ∧ valid s' ∧
    view s' = Function.update (view s) id (some (change r))) ∨
  ∃ e, answer = (.error e, s)

/-- A listing without a bound has a record. -/
def Lists (listing : Int64 → OutboxListing) (r : WebhookOutboxRecord) : Prop :=
  ∃ count : Nat, ∀ limit : Int64, count ≤ limit.toInt → ∃ listed, listing limit = .ok listed ∧
    r ∈ listed

/-- The operations that the worker, the operators and the creation of records use. -/
structure OutboxLaws (repo : WebhookOutboxRepository σ) (view : σ → OutboxView)
    (valid : σ → Prop) : Prop where
  keyed : ∀ {s}, valid s → ∀ id r, view s id = some r → r.id = id
  create : ∀ {s} record, valid s →
    (∃ s', view s record.id = none ∧ repo.create s record = (.ok record, s') ∧ valid s' ∧
      view s' = Function.update (view s) record.id (some record)) ∨
    ∃ e, repo.create s record = (.error e, s)
  claim : ∀ {s} now id tenantId lockedBy, valid s →
    Changed view valid s id tenantId (some .pending) (fun r => r.claim now lockedBy)
      (repo.claim s now id tenantId lockedBy)
  markDelivered : ∀ {s} now id tenantId, valid s →
    Changed view valid s id tenantId none (fun r => r.markDelivered now)
      (repo.markDelivered s now id tenantId)
  markFailed : ∀ {s} now id tenantId lastError, valid s →
    Changed view valid s id tenantId none (fun r => r.markFailed now lastError)
      (repo.markFailed s now id tenantId lastError)
  rescheduleRetry : ∀ {s} now id tenantId lastError scheduledAt, valid s →
    Changed view valid s id tenantId none (fun r => r.rescheduleRetry now lastError scheduledAt)
      (repo.rescheduleRetry s now id tenantId lastError scheduledAt)
  replayFailed : ∀ {s} now id tenantId replayedBy, valid s →
    Changed view valid s id tenantId (some .failed) (fun r => r.replayFailed now replayedBy)
      (repo.replayFailed s now id tenantId replayedBy)

/-- How the records that are not claimed or delivered are found again. -/
structure OutboxOffers (repo : WebhookOutboxRepository σ) (s : σ) (id : Uuid)
    (r : WebhookOutboxRecord) : Prop where
  pending : r.status = .pending → Lists (repo.listPending s r.tenantId) r ∧
    ∃ tenants, repo.listDistinctPendingTenants s = .ok tenants ∧ r.tenantId ∈ tenants
  failed : r.status = .failed → Lists (repo.listFailed s r.tenantId) r ∧
    ∀ now replayedBy, Int32.maxValue ∉ [r.replayCount, r.lockVersion] →
      (repo.replayFailed s now id r.tenantId replayedBy).1 = .ok (r.replayFailed now replayedBy)

namespace InMemoryWebhookOutboxRepository

/-- Each record is under its own identifier. -/
def Keyed (records : OutboxRecords) : Prop := ∀ id r, records.lookup id = some r → r.id = id

variable {records : OutboxRecords}

theorem Keyed.insert (h : Keyed records) {id : Uuid} {r : WebhookOutboxRecord} (hid : r.id = id) :
    Keyed (records.insert id r) := by
  intro k r' hk
  rw [lookup_insert_eq] at hk
  split at hk
  · next heq =>
    obtain rfl := Option.some.inj hk
    rw [hid, heq]
  · exact h k r' hk

theorem lookup_insert (records : OutboxRecords) (id : Uuid) (r : WebhookOutboxRecord) :
    (records.insert id r).lookup = Function.update records.lookup id (some r) := by
  funext k
  rw [lookup_insert_eq, Function.update_apply]

theorem modify_changed (h : Keyed records) (id tenantId : Uuid)
    (required : Option WebhookOutboxStatus) {change : WebhookOutboxRecord → WebhookOutboxRecord}
    (hid : ∀ r, (change r).id = r.id) :
    Changed (fun records => records.lookup) Keyed records id tenantId required change
      (modify records id tenantId required change) := by
  by_cases hreach : ∃ r, Reached (records.lookup id) tenantId required r
  · obtain ⟨r, hr⟩ := hreach
    rw [modify_reached hr]
    exact .inl ⟨r, _, hr, rfl, h.insert ((hid r).trans (h id r hr.found)),
      lookup_insert records id _⟩
  · obtain ⟨text, hmodify⟩ := modify_unreached change fun r hr => hreach ⟨r, hr⟩
    rw [hmodify]
    exact .inr ⟨_, rfl⟩

theorem laws (order : IterOrder WebhookOutboxRecord) :
    OutboxLaws (repository order) (fun records => records.lookup) Keyed where
  keyed := fun h => h
  create := by
    intro records record h
    change (∃ s', _ ∧ create records record = _ ∧ _ ∧ _) ∨ ∃ e, create records record = _
    rw [create]
    cases hlookup : records.lookup record.id with
    | none => exact .inl ⟨_, rfl, rfl, h.insert rfl, lookup_insert records record.id record⟩
    | some r => exact .inr ⟨_, rfl⟩
  claim := fun _ id tenantId _ h => modify_changed h id tenantId _ fun _ => rfl
  markDelivered := fun _ id tenantId h => modify_changed h id tenantId _ fun _ => rfl
  markFailed := fun _ id tenantId _ h => modify_changed h id tenantId _ fun _ => rfl
  rescheduleRetry := fun _ id tenantId _ _ h => modify_changed h id tenantId _ fun _ => rfl
  replayFailed := fun _ id tenantId _ h => modify_changed h id tenantId _ fun _ => rfl

theorem mem_values (order : IterOrder WebhookOutboxRecord) {id : Uuid} {r : WebhookOutboxRecord}
    (h : records.lookup id = some r) : r ∈ values order records :=
  order.mem_apply.mpr (List.mem_map_of_mem (f := Prod.snd) (mem_pairs.mpr h))

theorem lists (order : IterOrder WebhookOutboxRecord) {id : Uuid} {r : WebhookOutboxRecord}
    (h : records.lookup id = some r) {β : Type} [LinearOrder β] (key : OutboxFields → β)
    {selected : WebhookOutboxRecord → Bool} (hselected : selected r = true) :
    Lists (listing order records selected key) r := by
  refine ⟨(values order records).length, fun limit hlimit => ⟨_, rfl, ?_⟩⟩
  rw [SameOutbox.limitAsUsize_of_nonneg (by omega), List.take_of_length_le]
  · exact mem_orderBy.mpr (List.mem_filter.mpr ⟨mem_values order h, hselected⟩)
  · rw [length_orderBy]
    exact (List.length_filter_le _ _).trans (by omega)

/-- Every record in memory is found again. -/
theorem offers (order : IterOrder WebhookOutboxRecord) {id : Uuid} {r : WebhookOutboxRecord}
    (h : records.lookup id = some r) : OutboxOffers (repository order) records id r where
  pending := by
    intro hpending
    refine ⟨lists order h _ (by simp [hpending]), _, rfl, mem_orderBy.mpr ?_⟩
    rw [List.mem_dedup]
    exact List.mem_map.mpr
      ⟨r, List.mem_filter.mpr ⟨mem_values order h, by simpa using hpending⟩, rfl⟩
  failed := by
    intro hfailed
    refine ⟨lists order h _ (by simp [hfailed]), fun now replayedBy _ => ?_⟩
    have hreached : Reached (records.lookup id) r.tenantId (some .failed) r :=
      ⟨h, rfl, fun status hstatus => hfailed.trans (Option.some.inj hstatus)⟩
    exact congrArg Prod.fst (modify_reached hreached)

end InMemoryWebhookOutboxRepository

namespace SqlxWebhookOutboxRepository

/-- The records that the rows of a table say. -/
def view (table : OutboxTable) : OutboxView := fun id =>
  (table.lookup id).bind fun row => (mapRow row).toOption

/-- The rows are those of records in memory. -/
def OfRecords (table : OutboxTable) : Prop := ∃ records, SameOutbox records table

variable {records : OutboxRecords} {table : OutboxTable}

theorem view_eq (h : SameOutbox records table) : view table = records.lookup := by
  funext id
  rw [view, h.lookup]
  cases records.lookup id with
  | none => rfl
  | some r =>
    rw [Option.map_some, Option.bind_some, mapRow_ofRecord]
    rfl

theorem updateReturning_changed (h : OfRecords table) (what missing : String) (id tenantId : Uuid)
    {required : Option WebhookOutboxStatus} {change : WebhookOutboxRecord → WebhookOutboxRecord}
    {counters : WebhookOutboxRecord → List Int32} {condition : OutboxRow → Bool}
    {set : OutboxRow → Option OutboxRow}
    (hcondition : ∀ r : WebhookOutboxRecord, condition (.ofRecord r) = true ↔
      ∀ status ∈ required, r.status = status)
    (hset : ∀ r, set (.ofRecord r) =
      if Int32.maxValue ∈ counters r then none else some (.ofRecord (change r)))
    (hid : ∀ r, (change r).id = r.id) :
    Changed view OfRecords table id tenantId required change
      (updateReturning table what missing id tenantId condition set) := by
  obtain ⟨records, hsame⟩ := h
  rw [updateReturning, Changed, view_eq hsame]
  cases hfind : find table id tenantId condition with
  | none => exact .inr ⟨_, rfl⟩
  | some row =>
    obtain ⟨r, hr, rfl⟩ := (hsame.find_eq_some hcondition).mp hfind
    dsimp only
    rw [hset]
    by_cases hmax : Int32.maxValue ∈ counters r
    · rw [if_pos hmax]
      exact .inr ⟨_, rfl⟩
    · rw [if_neg hmax]
      dsimp only
      have hinsert := hsame.insert id ((hid r).trans (hsame.keyed id r hr.found))
      rw [mapRow_ofRecord]
      refine .inl ⟨r, _, hr, rfl, ⟨_, hinsert⟩, ?_⟩
      rw [view_eq hinsert, InMemoryWebhookOutboxRepository.lookup_insert]

theorem laws (collation : Collation) (scans : Scans) :
    OutboxLaws (repository collation scans) view OfRecords where
  keyed := fun ⟨_, hsame⟩ id r hr => hsame.keyed id r ((congrFun (view_eq hsame) id).symm.trans hr)
  create := by
    rintro table record ⟨records, hsame⟩
    change (∃ s', _ ∧ create table record = _ ∧ _ ∧ _) ∨ ∃ e, create table record = _
    rw [create, view_eq hsame, hsame.lookup]
    cases hlookup : records.lookup record.id with
    | none =>
      have hinsert := hsame.insert record.id rfl
      refine .inl ⟨_, hlookup, rfl, ⟨_, hinsert⟩, ?_⟩
      rw [← InMemoryWebhookOutboxRepository.lookup_insert]
      exact view_eq hinsert
    | some r => exact .inr ⟨_, rfl⟩
  claim := fun _ id tenantId _ h =>
    updateReturning_changed h _ _ id tenantId (status_condition .pending)
      (fun r => count_up r.lockVersion _) fun _ => rfl
  markDelivered := fun _ id tenantId h =>
    updateReturning_changed h _ _ id tenantId no_condition
      (fun r => count_up r.lockVersion _) fun _ => rfl
  markFailed := fun _ id tenantId _ h =>
    updateReturning_changed h _ _ id tenantId no_condition
      (fun r => count_up r.lockVersion _) fun _ => rfl
  rescheduleRetry := fun _ id tenantId _ _ h =>
    updateReturning_changed h _ _ id tenantId no_condition
      (fun r => count_up_two r.attemptCount r.lockVersion _) fun _ => rfl
  replayFailed := fun _ id tenantId _ h =>
    updateReturning_changed h _ _ id tenantId (status_condition .failed)
      (fun r => count_up_two r.replayCount r.lockVersion _) fun _ => rfl

theorem lists (h : SameOutbox records table) (scan : IterOrder OutboxRow) (what : String)
    {id : Uuid} {r : WebhookOutboxRecord} (hr : records.lookup id = some r) {β : Type}
    [LinearOrder β] {key : OutboxFields → β}
    (hkey : ∀ {a b : OutboxFields}, key a = key b → a.id = b.id)
    (selected : WebhookOutboxRecord → Bool) {condition : OutboxRow → Bool}
    (hcondition : ∀ r, condition (.ofRecord r) = selected r) (hselected : selected r = true) :
    Lists (listing scan table what condition key) r := by
  obtain ⟨count, hlists⟩ := InMemoryWebhookOutboxRepository.lists (.id _) hr key hselected
  refine ⟨count, fun limit hlimit => ?_⟩
  obtain ⟨listed, hok, hmem⟩ := hlists limit hlimit
  have hagree := (h.listing (.id _) scan what limit hkey hcondition).mpr (by omega)
  rw [hok] at hagree
  generalize listing scan table what condition key limit = answer at hagree ⊢
  cases hagree
  exact ⟨listed, rfl, hmem⟩

/-- Every record in the table is found again. -/
theorem offers (collation : Collation) (scans : Scans) (h : OfRecords table) {id : Uuid}
    {r : WebhookOutboxRecord} (hr : view table id = some r) :
    OutboxOffers (repository collation scans) table id r := by
  obtain ⟨records, hsame⟩ := h
  rw [view_eq hsame] at hr
  constructor
  · intro hpending
    refine ⟨lists hsame scans.rows _ hr pendingKey_id
      (fun r' => r'.tenantId = r.tenantId && r'.status = .pending)
      (fun r' => congrArg _ (decide_status .pending r')) (by simp [hpending]), _, rfl, ?_⟩
    rw [scans.tenants.mem_apply, List.mem_dedup]
    refine List.mem_map.mpr ⟨.ofRecord r, List.mem_filter.mpr ⟨?_, ?_⟩, rfl⟩
    · exact (hsame.rows_perm (.id _) scans.rows).mem_iff.mpr
        (List.mem_map_of_mem (InMemoryWebhookOutboxRepository.mem_values (.id _) hr))
    · exact (decide_status .pending r).trans (by simpa using hpending)
  · intro hfailed
    refine ⟨lists hsame scans.rows _ hr failedKey_id
      (fun r' => r'.tenantId = r.tenantId && r'.status = .failed)
      (fun r' => congrArg _ (decide_status .failed r')) (by simp [hfailed]), ?_⟩
    intro now replayedBy hcounters
    have hreached : Reached (records.lookup id) r.tenantId (some .failed) r :=
      ⟨hr, rfl, fun status hstatus => hfailed.trans (Option.some.inj hstatus)⟩
    have hcounts : CountsUp records id r.tenantId (some .failed) fun r =>
        [r.replayCount, r.lockVersion] := fun r' hr' => hreached.unique hr' ▸ hcounters
    have hagree := (replayFailed_same hsame now id r.tenantId replayedBy).1.mpr hcounts
    rw [InMemoryWebhookOutboxRepository.replayFailed,
      InMemoryWebhookOutboxRepository.modify_reached hreached] at hagree
    change (replayFailed table now id r.tenantId replayedBy).1 = _
    generalize (replayFailed table now id r.tenantId replayedBy).1 = answer at hagree ⊢
    cases hagree
    rfl

end SqlxWebhookOutboxRepository

end IntentRebase
