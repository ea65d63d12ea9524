import IntentRebase.Compensation.RepositoryAgreement
import IntentRebase.Kit.Grouping
import IntentRebase.Webhook.OutboxSqlx

/-! The same records in memory and in the table of the webhook outbox: when a change or a listing
of records is the same in both. -/

namespace IntentRebase

open Kit

/-- The orders in which one call reads the map and the table. -/
abbrev OutboxOrders := IterOrder WebhookOutboxRecord × SqlxWebhookOutboxRepository.Scans

/-- The table has a row for each record of the map, which has each under its own identifier. -/
structure SameOutbox (s : OutboxRecords) (t : OutboxTable) : Prop where
  lookup : ∀ id, t.lookup id = (s.lookup id).map .ofRecord
  keyed : ∀ id r, s.lookup id = some r → r.id = id

/-- The counters that a change of a record would count up are below the largest value. -/
def CountsUp (s : OutboxRecords) (id tenantId : Uuid) (required : Option WebhookOutboxStatus)
    (counters : WebhookOutboxRecord → List Int32) : Prop :=
  ∀ r, Reached (s.lookup id) tenantId required r → Int32.maxValue ∉ counters r

/-- The answers to a change are the same exactly under a condition, which keeps the contents the
same. -/
def ChangedAlike (condition : Prop) (inMemory : OutboxAnswer OutboxRecords)
    (sqlx : OutboxAnswer OutboxTable) : Prop :=
  (SameResult inMemory.1 sqlx.1 ↔ condition) ∧ (condition → SameOutbox inMemory.2 sqlx.2)

/-- The limit of a listing is not negative, and before every record that only one of two selections
has, there are as many as are listed that both have. -/
def ListedAlike {β : Type} [LinearOrder β] (s : OutboxRecords) (limit : Int64)
    (key : OutboxFields → β) (selected selected' : WebhookOutboxRecord → Bool) : Prop :=
  0 ≤ limit.toInt ∧ ∀ id r, s.lookup id = some r → selected r ≠ selected' r →
    limit.toInt.toNat ≤ (InMemoryWebhookOutboxRepository.values (.id _) s).countP
      fun b => (selected b && selected' b) && key b.toOutboxFields < key r.toOutboxFields

/-- All pending records are of one tenant. -/
def OnePendingTenant (s : OutboxRecords) : Prop :=
  ∀ id r id' r', s.lookup id = some r → s.lookup id' = some r' → r.status = .pending →
    r'.status = .pending → r.tenantId = r'.tenantId

theorem pendingKey_id {a b : OutboxFields} (h : a.pendingKey = b.pendingKey) : a.id = b.id :=
  (Prod.ext_iff.mp (toLex.injective h)).2

theorem failedKey_id {a b : OutboxFields} (h : a.failedKey = b.failedKey) : a.id = b.id :=
  (Prod.ext_iff.mp (toLex.injective h)).2

theorem replayedKey_id {a b : OutboxFields} (h : a.replayedKey = b.replayedKey) : a.id = b.id :=
  (Prod.ext_iff.mp (toLex.injective h)).2

theorem int4Succ_bind {α : Type} (n : Int32) (f : Int32 → Option α) :
    (int4Succ n).bind f = if n = Int32.maxValue then none else f (n + 1) := by
  rw [int4Succ]
  split <;> rfl

/-- What an update that counts a column up writes. -/
theorem count_up {α : Type} (n : Int32) (row : Int32 → α) :
    ((int4Succ n).bind fun n => some (row n)) =
      if Int32.maxValue ∈ [n] then none else some (row (n + 1)) := by
  simp only [int4Succ_bind, List.mem_singleton, eq_comm]

theorem decide_status (status : WebhookOutboxStatus) (r : WebhookOutboxRecord) :
    decide ((OutboxRow.ofRecord r).status = statusToStr status) = decide (r.status = status) :=
  decide_eq_decide.mpr statusToStr_injective.eq_iff

theorem status_condition (status : WebhookOutboxStatus) (r : WebhookOutboxRecord) :
    decide ((OutboxRow.ofRecord r).status = statusToStr status) = true ↔
      ∀ required ∈ some status, r.status = required := by
  rw [decide_status, decide_eq_true_eq]
  exact ⟨fun h _ hrequired => h.trans (Option.some.inj hrequired), fun h => h status rfl⟩

theorem no_condition (r : WebhookOutboxRecord) :
    (true = true) ↔ ∀ required ∈ (none : Option WebhookOutboxStatus), r.status = required :=
  iff_of_true rfl fun _ h => nomatch h

theorem count_up_two {α : Type} (m n : Int32) (row : Int32 → Int32 → α) :
    ((int4Succ m).bind fun m => (int4Succ n).bind fun n => some (row m n)) =
      if Int32.maxValue ∈ [m, n] then none else some (row (m + 1) (n + 1)) := by
  rw [int4Succ_bind, int4Succ_bind]
  by_cases hm : m = Int32.maxValue <;> by_cases hn : n = Int32.maxValue <;>
    simp [hm, hn, Ne.symm]

namespace SameOutbox

variable {s : OutboxRecords} {t : OutboxTable}

theorem insert (h : SameOutbox s t) (id : Uuid) {r : WebhookOutboxRecord} (hid : r.id = id) :
    SameOutbox (s.insert id r) (t.insert id (.ofRecord r)) := by
  constructor
  · intro k
    rw [lookup_insert_eq, lookup_insert_eq]
    split
    · rfl
    · exact h.lookup k
  · intro k r' hk
    rw [lookup_insert_eq] at hk
    split at hk
    · next heq =>
      obtain rfl := Option.some.inj hk
      rw [hid, heq]
    · exact h.keyed k r' hk

/-- A statement finds the row of the record that a call in memory reaches. -/
theorem find_eq_some (h : SameOutbox s t) {id tenantId : Uuid}
    {required : Option WebhookOutboxStatus} {condition : OutboxRow → Bool}
    (hcondition : ∀ r : WebhookOutboxRecord, condition (.ofRecord r) = true ↔
      ∀ status ∈ required, r.status = status) {row : OutboxRow} :
    SqlxWebhookOutboxRepository.find t id tenantId condition = some row ↔
      ∃ r, Reached (s.lookup id) tenantId required r ∧ .ofRecord r = row := by
  rw [SqlxWebhookOutboxRepository.find, h.lookup id, Option.filter_eq_some_iff,
    Option.map_eq_some_iff]
  constructor
  · rintro ⟨⟨r, hfound, rfl⟩, hwhere⟩
    rw [Bool.and_eq_true, decide_eq_true_eq, hcondition] at hwhere
    exact ⟨r, ⟨hfound, hwhere.1, hwhere.2⟩, rfl⟩
  · rintro ⟨r, ⟨hfound, htenant, hstatus⟩, rfl⟩
    refine ⟨⟨r, hfound, rfl⟩, ?_⟩
    rw [Bool.and_eq_true, decide_eq_true_eq, hcondition]
    exact ⟨htenant, hstatus⟩

/-- A statement finds no row where a call in memory reaches no record. -/
theorem find_eq_none (h : SameOutbox s t) {id tenantId : Uuid}
    {required : Option WebhookOutboxStatus} {condition : OutboxRow → Bool}
    (hcondition : ∀ r : WebhookOutboxRecord, condition (.ofRecord r) = true ↔
      ∀ status ∈ required, r.status = status)
    (hreach : ∀ r, ¬ Reached (s.lookup id) tenantId required r) :
    SqlxWebhookOutboxRepository.find t id tenantId condition = none := by
  by_contra hsome
  obtain ⟨row, hrow⟩ := Option.ne_none_iff_exists'.mp hsome
  obtain ⟨r, hr, -⟩ := (h.find_eq_some hcondition).mp hrow
  exact hreach r hr

/-- A change that counts up agrees exactly if the counters are below the largest value. -/
theorem modify (h : SameOutbox s t) (what missing : String) (id tenantId : Uuid)
    {required : Option WebhookOutboxStatus} {change : WebhookOutboxRecord → WebhookOutboxRecord}
    {counters : WebhookOutboxRecord → List Int32} {condition : OutboxRow → Bool}
    {set : OutboxRow → Option OutboxRow}
    (hcondition : ∀ r : WebhookOutboxRecord, condition (.ofRecord r) = true ↔
      ∀ status ∈ required, r.status = status)
    (hset : ∀ r, set (.ofRecord r) =
      if Int32.maxValue ∈ counters r then none else some (.ofRecord (change r)))
    (hid : ∀ r, (change r).id = r.id) :
    ChangedAlike (CountsUp s id tenantId required counters)
      (InMemoryWebhookOutboxRepository.modify s id tenantId required change)
      (SqlxWebhookOutboxRepository.updateReturning t what missing id tenantId condition set) := by
  rw [SqlxWebhookOutboxRepository.updateReturning, ChangedAlike]
  by_cases hreach : ∃ r, Reached (s.lookup id) tenantId required r
  · obtain ⟨r, hr⟩ := hreach
    have hcounts : CountsUp s id tenantId required counters ↔ Int32.maxValue ∉ counters r :=
      ⟨fun hall => hall r hr, fun hone r' hr' => hr.unique hr' ▸ hone⟩
    rw [InMemoryWebhookOutboxRepository.modify_reached hr,
      (h.find_eq_some hcondition).mpr ⟨r, hr, rfl⟩, hcounts]
    simp only [hset]
    by_cases hmax : Int32.maxValue ∈ counters r
    · simp only [hmax, if_true, not_true]
      exact ⟨iff_of_false (fun hsame => nomatch hsame) not_false, False.elim⟩
    · simp only [hmax, if_false, mapRow_ofRecord]
      exact ⟨iff_of_true (.refl _) not_false,
        fun _ => h.insert id ((hid r).trans (h.keyed id r hr.found))⟩
  · have hnone := h.find_eq_none hcondition fun r hr => hreach ⟨r, hr⟩
    have hcounts : CountsUp s id tenantId required counters := fun r hr =>
      absurd ⟨r, hr⟩ hreach
    obtain ⟨text, hmodify⟩ := InMemoryWebhookOutboxRepository.modify_unreached
      change fun r hr => hreach ⟨r, hr⟩
    rw [hmodify, hnone]
    exact ⟨iff_of_true (.error rfl) hcounts, fun _ => h⟩

section Listings

theorem rows_perm (h : SameOutbox s t) (order : IterOrder WebhookOutboxRecord)
    (scan : IterOrder OutboxRow) :
    (SqlxWebhookOutboxRepository.rows scan t).Perm
      ((InMemoryWebhookOutboxRepository.values order s).map .ofRecord) :=
  ((scan.perm _).trans (values_perm h.lookup)).trans ((order.perm _).symm.map _)

theorem filter_perm (h : SameOutbox s t) (order : IterOrder WebhookOutboxRecord)
    (scan : IterOrder OutboxRow) {selected : WebhookOutboxRecord → Bool}
    {condition : OutboxRow → Bool} (hselected : ∀ r, condition (.ofRecord r) = selected r) :
    ((SqlxWebhookOutboxRepository.rows scan t).filter condition).Perm
      (((InMemoryWebhookOutboxRepository.values order s).filter selected).map .ofRecord) := by
  refine ((h.rows_perm order scan).filter condition).trans (.of_eq ?_)
  rw [List.filter_map]
  exact congrArg _ (congrArg (List.filter · _) (funext hselected))

theorem lookup_of_mem_rows (h : SameOutbox s t) {scan : IterOrder OutboxRow} {row : OutboxRow}
    (hrow : row ∈ SqlxWebhookOutboxRepository.rows scan t) : t.lookup row.id = some row := by
  obtain ⟨⟨k, row'⟩, hpair, rfl⟩ := List.mem_map.mp (scan.mem_apply.mp hrow)
  have hk := mem_pairs.mp hpair
  have hfound := h.lookup k
  rw [hk, eq_comm, Option.map_eq_some_iff] at hfound
  obtain ⟨r, hr, rfl⟩ := hfound
  have hid : (OutboxRow.ofRecord r).id = k := h.keyed k r hr
  rwa [hid]

theorem mapM_mapRow (rs : List WebhookOutboxRecord) :
    (rs.map OutboxRow.ofRecord).mapM mapRow = .ok rs := by
  induction rs with
  | nil => rfl
  | cons r rs ih =>
    rw [List.map_cons, List.mapM_cons, mapRow_ofRecord, ih]
    rfl

theorem limitAsUsize_of_nonneg {limit : Int64} (h : 0 ≤ limit.toInt) :
    InMemoryWebhookOutboxRepository.limitAsUsize limit = limit.toInt.toNat := by
  have hlt := limit.toInt_lt
  rw [InMemoryWebhookOutboxRepository.limitAsUsize, Int.emod_eq_of_lt h (by omega)]

/-- A key that only one identifier has tells the records of a map apart. -/
theorem nodup_keys (h : SameOutbox s t) (order : IterOrder WebhookOutboxRecord) {β : Type}
    {key : OutboxFields → β} (hkey : ∀ {a b : OutboxFields}, key a = key b → a.id = b.id) :
    ((InMemoryWebhookOutboxRepository.values order s).map
      fun r => key r.toOutboxFields).Nodup := by
  have hids : ((pairs s).map Prod.snd).map (fun r => r.id) = (pairs s).map Prod.fst := by
    rw [List.map_map]
    exact List.map_congr_left fun p hp => h.keyed p.1 p.2 (mem_pairs.mp hp)
  have hnodup : (((pairs s).map Prod.snd).map fun r => r.id).Nodup := hids ▸ nodup_pairs_keys s
  have hvalues : (InMemoryWebhookOutboxRepository.values order s).Pairwise
      fun a b => a.id ≠ b.id := by
    refine ((order.perm _).pairwise_iff fun hne => hne.symm).mpr ?_
    exact List.pairwise_map.mp hnodup
  exact List.pairwise_map.mpr (hvalues.imp fun hne heq => hne (hkey heq))

/-- A listing agrees exactly if its limit is not negative, and the records that only one of the
repositories selects come after as many as are listed. -/
theorem listing_iff (h : SameOutbox s t) (order : IterOrder WebhookOutboxRecord)
    (scan : IterOrder OutboxRow) (what : String) (limit : Int64) {β : Type} [LinearOrder β]
    {key : OutboxFields → β} (hkey : ∀ {a b : OutboxFields}, key a = key b → a.id = b.id)
    {selected selected' : WebhookOutboxRecord → Bool} {condition : OutboxRow → Bool}
    (hselected : ∀ r, condition (.ofRecord r) = selected' r) :
    SameResult (InMemoryWebhookOutboxRepository.listing order s selected key limit)
        (SqlxWebhookOutboxRepository.listing scan t what condition key limit) ↔
      ListedAlike s limit key selected selected' := by
  rw [SqlxWebhookOutboxRepository.listing, ListedAlike]
  by_cases hlimit : 0 ≤ limit.toInt
  · have hrows := @orderBy_eq_of_perm _ _ _ (fun row : OutboxRow => key row.toOutboxFields) _ _
      (h.filter_perm order scan hselected) fun a ha b hb hab => by
        have hfound := h.lookup_of_mem_rows (List.mem_filter.mp ha).1
        rw [hkey hab, h.lookup_of_mem_rows (List.mem_filter.mp hb).1] at hfound
        exact (Option.some.inj hfound).symm
    rw [if_neg (not_lt.mpr hlimit), hrows, orderBy_map, ← List.map_take, mapM_mapRow,
      InMemoryWebhookOutboxRepository.listing, limitAsUsize_of_nonneg hlimit, sameResult_ok]
    refine (take_orderBy_filter_iff (h.nodup_keys order hkey) selected selected').trans ?_
    have hperm : (InMemoryWebhookOutboxRepository.values order s).Perm
        (InMemoryWebhookOutboxRepository.values (.id _) s) := order.perm _
    have hmem : ∀ r, r ∈ InMemoryWebhookOutboxRepository.values order s ↔
        ∃ id, s.lookup id = some r := by
      intro r
      simp only [InMemoryWebhookOutboxRepository.values, order.mem_apply, List.mem_map,
        Prod.exists, exists_eq_right, mem_pairs]
    simp only [hlimit, true_and, hmem, hperm.countP_eq, forall_exists_index]
    exact forall_comm
  · rw [if_pos (not_le.mp hlimit)]
    exact iff_of_false (fun hsame => nomatch hsame) fun halike => hlimit halike.1

/-- A listing of the same selection agrees exactly if its limit is not negative. -/
theorem listing (h : SameOutbox s t) (order : IterOrder WebhookOutboxRecord)
    (scan : IterOrder OutboxRow) (what : String) (limit : Int64) {β : Type} [LinearOrder β]
    {key : OutboxFields → β} (hkey : ∀ {a b : OutboxFields}, key a = key b → a.id = b.id)
    {selected : WebhookOutboxRecord → Bool} {condition : OutboxRow → Bool}
    (hselected : ∀ r, condition (.ofRecord r) = selected r) :
    SameResult (InMemoryWebhookOutboxRepository.listing order s selected key limit)
        (SqlxWebhookOutboxRepository.listing scan t what condition key limit) ↔
      0 ≤ limit.toInt := by
  rw [h.listing_iff order scan what limit hkey hselected]
  exact and_iff_left fun _ _ _ hne => absurd rfl hne

/-- The distinct tenants agree, whatever the orders of the scans, exactly if there is one at
most. -/
theorem listDistinctPendingTenants (h : SameOutbox s t) :
    (∀ orders : OutboxOrders,
      SameResult (InMemoryWebhookOutboxRepository.listDistinctPendingTenants orders.1 s)
        (SqlxWebhookOutboxRepository.listDistinctPendingTenants orders.2.rows t
          orders.2.tenants)) ↔
      OnePendingTenant s := by
  have hmem : ∀ (order : IterOrder WebhookOutboxRecord) (tenant : Uuid),
      tenant ∈ (((InMemoryWebhookOutboxRepository.values order s).filter fun r =>
        r.status = .pending).map fun r => r.tenantId).dedup ↔
      ∃ id r, s.lookup id = some r ∧ r.status = .pending ∧ r.tenantId = tenant := by
    intro order tenant
    simp only [List.mem_dedup, List.mem_map, List.mem_filter, decide_eq_true_eq,
      InMemoryWebhookOutboxRepository.values, order.mem_apply, Prod.exists, exists_eq_right,
      mem_pairs]
    exact ⟨fun ⟨r, ⟨⟨id, hr⟩, hp⟩, ht⟩ => ⟨id, r, hr, hp, ht⟩,
      fun ⟨id, r, hr, hp, ht⟩ => ⟨r, ⟨⟨id, hr⟩, hp⟩, ht⟩⟩
  constructor
  · intro hall id r id' r' hr hr' hpending hpending'
    have hforward := sameResult_ok.mp (hall (.id _, ⟨.id _, .id _, .id _⟩))
    have hbackward := sameResult_ok.mp (hall (.id _, ⟨.id _, .reverse _, .id _⟩))
    refine eq_of_sorted_reverse (orderBy_pairwise (fun tenant => tenant) _) ?_
      (mem_orderBy.mpr ((hmem (.id _) _).mpr ⟨id, r, hr, hpending, rfl⟩))
      (mem_orderBy.mpr ((hmem (.id _) _).mpr ⟨id', r', hr', hpending', rfl⟩))
    exact (congrArg List.reverse hforward).trans hbackward.symm
  · rintro hone ⟨order, scans⟩
    have hrows : ((SqlxWebhookOutboxRepository.rows scans.rows t).filter fun row =>
        row.status = "pending").Perm
        (((InMemoryWebhookOutboxRepository.values order s).filter fun r =>
          r.status = .pending).map .ofRecord) :=
      h.filter_perm order scans.rows (decide_status .pending)
    have htenants := hrows.map fun row => row.tenantId
    rw [List.map_map] at htenants
    have hlisted : ∀ tenant, tenant ∈ orderBy (fun tenant : Uuid => tenant)
        (((InMemoryWebhookOutboxRepository.values order s).filter fun r =>
          r.status = .pending).map fun r => r.tenantId).dedup →
        ∃ id r, s.lookup id = some r ∧ r.status = .pending ∧ r.tenantId = tenant :=
      fun tenant htenant => (hmem order tenant).mp (mem_orderBy.mp htenant)
    have hperm := ((orderBy_perm (fun tenant : Uuid => tenant) _).trans htenants.dedup.symm).trans
      (scans.tenants.perm _).symm
    refine sameResult_ok.mpr (hperm.eq_of_pairwise ?_
      (List.pairwise_of_forall (R := fun _ _ => True) fun _ _ => trivial)
      (List.pairwise_of_forall fun _ _ => trivial))
    intro a b ha hb _ _
    obtain ⟨id, r, hr, hpending, rfl⟩ := hlisted a ha
    obtain ⟨id', r', hr', hpending', rfl⟩ := hlisted b (hperm.mem_iff.mpr hb)
    exact hone id r id' r' hr hr' hpending hpending'

end Listings

end SameOutbox

section Changes

variable {s : OutboxRecords} {t : OutboxTable} (h : SameOutbox s t) (now : DateTime)
  (id tenantId : Uuid)

include h

theorem claim_same (lockedBy : String) :
    ChangedAlike (CountsUp s id tenantId (some .pending) fun r => [r.lockVersion])
      (InMemoryWebhookOutboxRepository.claim s now id tenantId lockedBy)
      (SqlxWebhookOutboxRepository.claim t now id tenantId lockedBy) :=
  h.modify _ _ id tenantId (status_condition .pending)
    (fun r => count_up r.lockVersion _) fun _ => rfl

theorem markDelivered_same :
    ChangedAlike (CountsUp s id tenantId none fun r => [r.lockVersion])
      (InMemoryWebhookOutboxRepository.markDelivered s now id tenantId)
      (SqlxWebhookOutboxRepository.markDelivered t now id tenantId) :=
  h.modify _ _ id tenantId no_condition (fun r => count_up r.lockVersion _) fun _ => rfl

theorem markFailed_same (lastError : String) :
    ChangedAlike (CountsUp s id tenantId none fun r => [r.lockVersion])
      (InMemoryWebhookOutboxRepository.markFailed s now id tenantId lastError)
      (SqlxWebhookOutboxRepository.markFailed t now id tenantId lastError) :=
  h.modify _ _ id tenantId no_condition (fun r => count_up r.lockVersion _) fun _ => rfl

theorem rescheduleRetry_same (lastError : String) (scheduledAt : DateTime) :
    ChangedAlike (CountsUp s id tenantId none fun r => [r.attemptCount, r.lockVersion])
      (InMemoryWebhookOutboxRepository.rescheduleRetry s now id tenantId lastError scheduledAt)
      (SqlxWebhookOutboxRepository.rescheduleRetry t now id tenantId lastError scheduledAt) :=
  h.modify _ _ id tenantId no_condition
    (fun r => count_up_two r.attemptCount r.lockVersion _) fun _ => rfl

theorem replayFailed_same (replayedBy : Option String) :
    ChangedAlike (CountsUp s id tenantId (some .failed) fun r => [r.replayCount, r.lockVersion])
      (InMemoryWebhookOutboxRepository.replayFailed s now id tenantId replayedBy)
      (SqlxWebhookOutboxRepository.replayFailed t now id tenantId replayedBy) :=
  h.modify _ _ id tenantId (status_condition .failed)
    (fun r => count_up_two r.replayCount r.lockVersion _) fun _ => rfl

end Changes

end IntentRebase
