import IntentRebase.Webhook.OutboxContents

/-! The statistics of the failed records, in memory and in SQL: when the summaries of the errors are
the same in both. -/

namespace IntentRebase

open Kit

/-- The failed records of a tenant. -/
def failedRecords (s : OutboxRecords) (tenantId : Uuid) : List WebhookOutboxRecord :=
  ((pairs s).map Prod.snd).filter fun r => r.tenantId = tenantId && r.status = .failed

/-- The text under which the statistics count an error. -/
def errorLabel (lastError : Option String) : String := lastError.getD "unknown"

/-- No error is absent where another is `unknown`, and the collation puts errors that are equally
frequent in the order of their bytes. -/
structure SummarisedAlike (collation : Collation) (failed : List WebhookOutboxRecord) : Prop where
  labelled : ∀ a ∈ failed, ∀ b ∈ failed, a.lastError = none → b.lastError ≠ some "unknown"
  collated : ∀ a ∈ failed, ∀ b ∈ failed, errorLabel a.lastError < errorLabel b.lastError →
    (failed.countP fun r => errorLabel r.lastError = errorLabel a.lastError) =
      (failed.countP fun r => errorLabel r.lastError = errorLabel b.lastError) →
    collation.le (errorLabel b.lastError) (errorLabel a.lastError) = false

section Statistics

variable {collation : Collation} {failed : List WebhookOutboxRecord}

/-- A group of errors as a summary. -/
def errorSummary (p : Option String × Nat) : WebhookOutboxDlqErrorSummary :=
  ⟨errorLabel p.1, p.2⟩

theorem summaryLe_trans (a b c : WebhookOutboxDlqErrorSummary)
    (hab : SqlxWebhookOutboxRepository.summaryLe collation a b = true)
    (hbc : SqlxWebhookOutboxRepository.summaryLe collation b c = true) :
    SqlxWebhookOutboxRepository.summaryLe collation a c = true := by
  simp only [SqlxWebhookOutboxRepository.summaryLe, Bool.or_eq_true, Bool.and_eq_true,
    decide_eq_true_eq] at hab hbc ⊢
  rcases hab with hab | ⟨hab, hle⟩ <;> rcases hbc with hbc | ⟨hbc, hle'⟩
  · exact .inl (hbc.trans hab)
  · exact .inl (hbc ▸ hab)
  · exact .inl (hab ▸ hbc)
  · exact .inr ⟨hab.trans hbc, collation.trans _ _ _ hle hle'⟩

theorem summaryLe_total (a b : WebhookOutboxDlqErrorSummary) :
    (SqlxWebhookOutboxRepository.summaryLe collation a b ||
      SqlxWebhookOutboxRepository.summaryLe collation b a) = true := by
  have htotal := collation.total a.errorPattern b.errorPattern
  rw [Bool.or_eq_true] at htotal ⊢
  simp only [SqlxWebhookOutboxRepository.summaryLe, Bool.or_eq_true, Bool.and_eq_true,
    decide_eq_true_eq]
  rcases lt_trichotomy a.count b.count with hlt | heq | hgt
  · exact .inr (.inl hlt)
  · exact htotal.imp (fun hle => .inr ⟨heq, hle⟩) fun hle => .inr ⟨heq.symm, hle⟩
  · exact .inl (.inl hgt)

theorem summaryKey_injective : Function.Injective InMemoryWebhookOutboxRepository.summaryKey := by
  rintro ⟨text, count⟩ ⟨text', count'⟩ h
  have hpair := Prod.ext_iff.mp (toLex.injective h)
  obtain rfl : count = count' := OrderDual.toDual.injective hpair.1
  obtain rfl : text = text' := hpair.2
  rfl

/-- A summary comes before another if it counts more, or the same of a smaller text. -/
theorem summaryKey_lt {a b : WebhookOutboxDlqErrorSummary} :
    InMemoryWebhookOutboxRepository.summaryKey a < InMemoryWebhookOutboxRepository.summaryKey b ↔
      b.count < a.count ∨ a.count = b.count ∧ a.errorPattern < b.errorPattern :=
  Prod.Lex.toLex_lt_toLex

namespace SummarisedAlike

theorem label_injective
    (h : ∀ a ∈ failed, ∀ b ∈ failed, a.lastError = none → b.lastError ≠ some "unknown") :
    ∀ a ∈ failed, ∀ b ∈ failed, errorLabel a.lastError = errorLabel b.lastError →
      a.lastError = b.lastError := by
  intro a ha b hb hlabel
  cases hea : a.lastError with
  | none =>
    cases heb : b.lastError with
    | none => rfl
    | some text =>
      rw [hea, heb] at hlabel
      exact absurd (heb.trans (congrArg some hlabel.symm)) (h a ha b hb hea)
  | some text =>
    cases heb : b.lastError with
    | none =>
      rw [hea, heb] at hlabel
      exact absurd (hea.trans (congrArg some hlabel)) (h b hb a ha heb)
    | some text' =>
      rw [hea, heb] at hlabel
      exact congrArg some hlabel

/-- The summaries of the labels in the order of the bytes. -/
def summaries (failed : List WebhookOutboxRecord) : List WebhookOutboxDlqErrorSummary :=
  (pairs (countBy (fun r : WebhookOutboxRecord => errorLabel r.lastError) failed)).map fun p =>
    ⟨p.1, p.2⟩

theorem mem_summaries {x : WebhookOutboxDlqErrorSummary} :
    x ∈ summaries failed ↔ ∃ a ∈ failed, errorLabel a.lastError = x.errorPattern ∧
      (failed.countP fun r => errorLabel r.lastError = errorLabel a.lastError) = x.count := by
  rw [summaries, List.mem_map]
  constructor
  · rintro ⟨⟨text, count⟩, hpair, rfl⟩
    obtain ⟨⟨a, ha, rfl⟩, hcount⟩ := mem_pairs_countBy.mp hpair
    exact ⟨a, ha, rfl, hcount⟩
  · rintro ⟨a, ha, hlabel, hcount⟩
    refine ⟨(x.errorPattern, x.count), mem_pairs_countBy.mpr ⟨⟨a, ha, hlabel⟩, ?_⟩, rfl⟩
    rw [← hlabel]
    exact hcount

/-- Groups by the errors, read in any order, are shown as the groups of the labels exactly if the
errors are summarised alike. -/
theorem iff_sorted {groups : List (Option String × Nat)}
    (hgroups : groups.Perm
      (pairs (countBy (fun r : WebhookOutboxRecord => r.lastError) failed))) :
    (∀ order : IterOrder (Option String × Nat),
      ((order.apply groups).map errorSummary).mergeSort
          (SqlxWebhookOutboxRepository.summaryLe collation) =
        orderBy InMemoryWebhookOutboxRepository.summaryKey (summaries failed)) ↔
      SummarisedAlike collation failed := by
  have hlabelled : (∀ a ∈ failed, ∀ b ∈ failed, errorLabel a.lastError = errorLabel b.lastError →
      a.lastError = b.lastError) → (groups.map errorSummary).Perm (summaries failed) := by
    intro hinjective
    have hlabels := (countBy_label hinjective).map fun p : String × Nat =>
      (⟨p.1, p.2⟩ : WebhookOutboxDlqErrorSummary)
    rw [List.map_map] at hlabels
    exact (hgroups.map _).trans hlabels
  constructor
  · intro hall
    have hforward := hall (.id _)
    have hbackward := hall (.reverse _)
    have hlength := congrArg List.length hforward
    rw [List.length_mergeSort, length_orderBy, List.length_map, summaries, List.length_map]
      at hlength
    have hinjective : ∀ a ∈ failed, ∀ b ∈ failed,
        errorLabel a.lastError = errorLabel b.lastError → a.lastError = b.lastError :=
      fun a ha b hb => label_injective_of_length (hgroups.length_eq.symm.trans hlength) ha hb
    constructor
    · intro a ha b hb hnone hunknown
      have hsame := hinjective a ha b hb (by rw [hnone, hunknown]; rfl)
      rw [hnone, hunknown] at hsame
      cases hsame
    · intro a ha b hb hlt hcount
      have hmem : ∀ c ∈ failed, (⟨errorLabel c.lastError,
          failed.countP fun r => errorLabel r.lastError = errorLabel c.lastError⟩ :
          WebhookOutboxDlqErrorSummary) ∈ groups.map errorSummary := fun c hc =>
        (hlabelled hinjective).mem_iff.mpr (mem_summaries.mpr ⟨c, hc, rfl, rfl⟩)
      have hreverse : ((groups.map errorSummary).reverse).mergeSort
          (SqlxWebhookOutboxRepository.summaryLe collation) =
          orderBy InMemoryWebhookOutboxRepository.summaryKey (summaries failed) := by
        rw [← List.map_reverse]
        exact hbackward
      have hle := le_eq_false_of_mergeSort summaryLe_trans summaryLe_total hforward hreverse
        (hmem a ha) (hmem b hb) (summaryKey_lt.mpr (.inr ⟨hcount, hlt⟩))
      rw [SqlxWebhookOutboxRepository.summaryLe, hcount] at hle
      simpa using hle
  · intro halike order
    refine mergeSort_eq_orderBy summaryLe_trans summaryLe_total
      (((order.perm groups).map _).trans (hlabelled (label_injective halike.labelled)))
      (fun a _ b _ hab => summaryKey_injective hab) ?_
    intro x hx y hy hlt
    obtain ⟨a, ha, hlabel, hcount⟩ := mem_summaries.mp hx
    obtain ⟨b, hb, hlabel', hcount'⟩ := mem_summaries.mp hy
    rw [SqlxWebhookOutboxRepository.summaryLe, Bool.or_eq_false_iff, Bool.and_eq_false_iff,
      decide_eq_false_iff_not, decide_eq_false_iff_not]
    rcases summaryKey_lt.mp hlt with hmore | ⟨hsame, htext⟩
    · exact ⟨by omega, .inl (by omega)⟩
    · refine ⟨by omega, .inr ?_⟩
      rw [← hlabel, ← hlabel']
      exact halike.collated a ha b hb (by rwa [hlabel, hlabel']) (by rw [hcount, hcount', hsame])

end SummarisedAlike

variable {s : OutboxRecords} {t : OutboxTable}

/-- The groups of the errors of a tenant's failed rows. -/
def errorGroups (scan : IterOrder OutboxRow) (t : OutboxTable) (tenantId : Uuid) :
    List (Option String × Nat) :=
  pairs (countBy (fun row : OutboxRow => row.lastError)
    ((SqlxWebhookOutboxRepository.rows scan t).filter fun row =>
      row.tenantId = tenantId && row.status = "failed"))

namespace SameOutbox

theorem errorGroups_perm (h : SameOutbox s t) (scan : IterOrder OutboxRow) (tenantId : Uuid) :
    (errorGroups scan t tenantId).Perm
      (pairs (countBy (fun r : WebhookOutboxRecord => r.lastError)
        (failedRecords s tenantId))) := by
  have hrows : ((SqlxWebhookOutboxRepository.rows scan t).filter fun row =>
      row.tenantId = tenantId && row.status = "failed").Perm
      ((failedRecords s tenantId).map .ofRecord) :=
    h.filter_perm (.id _) scan fun r => congrArg _ (decide_status .failed r)
  refine (countBy_perm hrows).trans (.of_eq ?_)
  rw [countBy, List.foldl_map]
  rfl

/-- All of the statistics agree but for the summaries of the errors. -/
theorem dlqStats_summaries (h : SameOutbox s t) (orders : OutboxOrders) (now : DateTime)
    (tenantId : Uuid) :
    SameResult (InMemoryWebhookOutboxRepository.dlqStats orders.1 s now tenantId)
        (SqlxWebhookOutboxRepository.dlqStats collation orders.2.rows t orders.2.groups now
          tenantId) ↔
      ((orders.2.groups.apply (errorGroups orders.2.rows t tenantId)).map errorSummary).mergeSort
          (SqlxWebhookOutboxRepository.summaryLe collation) =
        orderBy InMemoryWebhookOutboxRepository.summaryKey
          (SummarisedAlike.summaries (failedRecords s tenantId)) := by
  have hrows : ((SqlxWebhookOutboxRepository.rows orders.2.rows t).filter fun row =>
      row.tenantId = tenantId && row.status = "failed").Perm
      (((InMemoryWebhookOutboxRepository.values orders.1 s).filter fun r =>
        r.tenantId = tenantId && r.status = .failed).map .ofRecord) :=
    h.filter_perm orders.1 orders.2.rows fun r => congrArg _ (decide_status .failed r)
  have hsummaries : orderBy InMemoryWebhookOutboxRepository.summaryKey
      (SummarisedAlike.summaries
        ((InMemoryWebhookOutboxRepository.values orders.1 s).filter fun r =>
          r.tenantId = tenantId && r.status = .failed)) =
      orderBy InMemoryWebhookOutboxRepository.summaryKey
        (SummarisedAlike.summaries (failedRecords s tenantId)) :=
    orderBy_eq_of_perm ((countBy_perm ((orders.1.perm _).filter _)).map _)
      fun a _ b _ hab => summaryKey_injective hab
  have holdest := min?_perm (hrows.map fun row : OutboxRow => row.updatedAt)
  rw [List.map_map] at holdest
  have hreplayed := (h.rows_perm orders.1 orders.2.rows).countP_eq fun row =>
    decide (row.tenantId = tenantId) && decide (0 < row.replayCount)
  rw [List.countP_map] at hreplayed
  have hlength := hrows.length_eq
  rw [List.length_map] at hlength
  rw [InMemoryWebhookOutboxRepository.dlqStats, SqlxWebhookOutboxRepository.dlqStats, sameResult_ok,
    WebhookOutboxDlqStats.mk.injEq, hlength, holdest, hreplayed, ← hsummaries]
  constructor
  · rintro ⟨-, -, -, hsame⟩
    exact hsame.symm
  · intro hsame
    exact ⟨rfl, rfl, rfl, hsame.symm⟩

/-- The statistics agree, whatever the orders of the scans, exactly if the errors are summarised
alike. -/
theorem dlqStats (h : SameOutbox s t) (now : DateTime) (tenantId : Uuid) :
    (∀ orders : OutboxOrders,
      SameResult (InMemoryWebhookOutboxRepository.dlqStats orders.1 s now tenantId)
        (SqlxWebhookOutboxRepository.dlqStats collation orders.2.rows t orders.2.groups now
          tenantId)) ↔
      SummarisedAlike collation (failedRecords s tenantId) := by
  constructor
  · intro hall
    refine (SummarisedAlike.iff_sorted (h.errorGroups_perm (.id _) tenantId)).mp fun order => ?_
    exact (h.dlqStats_summaries (.id _, ⟨.id _, .id _, order⟩) now tenantId).mp (hall _)
  · intro halike orders
    exact (h.dlqStats_summaries orders now tenantId).mpr
      ((SummarisedAlike.iff_sorted (h.errorGroups_perm orders.2.rows tenantId)).mpr halike
        orders.2.groups)

end SameOutbox

end Statistics

end IntentRebase
