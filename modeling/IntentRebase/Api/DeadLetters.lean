import IntentRebase.Api.ReadIsolation
import IntentRebase.Compensation.RepositoryAgreement
import IntentRebase.Kit.Grouping

/-! The candidates for a batch divide the actions of a tenant that something can still be done
with: each is listed once, under one heading. -/

namespace IntentRebase

open Kit

/-- The actions that a batch lists. -/
def CompensationAction.IsBatchCandidate (action : CompensationAction) : Prop :=
  action.status = .pending ∨ action.status = .failed ∨
    action.status = .approved ∧ action.isServiceExecutable = true

/-- The headings of a batch. -/
inductive BatchCategory where
  | pendingApproval
  | approvedServiceExecutable
  | retryableFailed
  | dlq
deriving DecidableEq, Repr

namespace BatchCategory

/-- What a batch lists under a heading. -/
def listed (batch : BatchCandidates) : BatchCategory → List CompensationAction
  | .pendingApproval => batch.pendingApprovalCandidates
  | .approvedServiceExecutable => batch.approvedServiceExecutableCandidates
  | .retryableFailed => batch.retryableFailedCandidates
  | .dlq => batch.dlqCandidates

/-- What a heading says of the actions under it. -/
def Admits (action : CompensationAction) : BatchCategory → Prop
  | .pendingApproval => action.status = .pending
  | .approvedServiceExecutable => action.status = .approved ∧ action.isServiceExecutable = true
  | .retryableFailed => action.status = .failed ∧ action.canBeReapproved = true
  | .dlq => action.status = .failed ∧ action.isDlqCandidate = true

variable {action : CompensationAction}

theorem Admits.isBatchCandidate {category : BatchCategory} (h : category.Admits action) :
    action.IsBatchCandidate := by
  cases category with
  | pendingApproval => exact .inl h
  | approvedServiceExecutable => exact .inr (.inr h)
  | retryableFailed => exact .inr (.inl h.1)
  | dlq => exact .inr (.inl h.1)

/-- A failed action is under the one of its two headings that its retries and its error choose. -/
theorem existsUnique_admits_of_failed (h : action.status = .failed) :
    ∃! category : BatchCategory, category.Admits action := by
  have hdlq := action.isDlqCandidate_eq_not_canBeReapproved h
  cases hreapproved : action.canBeReapproved with
  | true =>
    refine ⟨.retryableFailed, ⟨h, hreapproved⟩, fun category hadmits => ?_⟩
    cases category with
    | retryableFailed => rfl
    | pendingApproval => exact nomatch h.symm.trans hadmits
    | approvedServiceExecutable => exact nomatch h.symm.trans hadmits.1
    | dlq =>
      rw [hreapproved] at hdlq
      exact nomatch hdlq.symm.trans hadmits.2
  | false =>
    rw [hreapproved] at hdlq
    refine ⟨.dlq, ⟨h, hdlq⟩, fun category hadmits => ?_⟩
    cases category with
    | dlq => rfl
    | pendingApproval => exact nomatch h.symm.trans hadmits
    | approvedServiceExecutable => exact nomatch h.symm.trans hadmits.1
    | retryableFailed => exact nomatch hreapproved.symm.trans hadmits.2

theorem existsUnique_admits (h : action.IsBatchCandidate) :
    ∃! category : BatchCategory, category.Admits action := by
  rcases h with hpending | hfailed | ⟨happroved, hservice⟩
  · refine ⟨.pendingApproval, hpending, fun category hadmits => ?_⟩
    cases category with
    | pendingApproval => rfl
    | approvedServiceExecutable => exact nomatch hpending.symm.trans hadmits.1
    | retryableFailed => exact nomatch hpending.symm.trans hadmits.1
    | dlq => exact nomatch hpending.symm.trans hadmits.1
  · exact existsUnique_admits_of_failed hfailed
  · refine ⟨.approvedServiceExecutable, ⟨happroved, hservice⟩, fun category hadmits => ?_⟩
    cases category with
    | approvedServiceExecutable => rfl
    | pendingApproval => exact nomatch happroved.symm.trans hadmits
    | retryableFailed => exact nomatch happroved.symm.trans hadmits.1
    | dlq => exact nomatch happroved.symm.trans hadmits.1

end BatchCategory

/-- Among the stored actions a batch lists each candidate once, under one heading, and no other
action. -/
structure BatchCandidates.Partitions (batch : BatchCandidates)
    (stored : CompensationAction → Prop) : Prop where
  listed_once : ∀ action, stored action → action.IsBatchCandidate →
    ∃! category : BatchCategory, action ∈ category.listed batch
  nodup : ∀ category : BatchCategory, (category.listed batch).Nodup
  candidates_only : ∀ category : BatchCategory, ∀ action ∈ category.listed batch,
    stored action ∧ action.IsBatchCandidate

/-- The lists by status have each stored action once, in the list of its status. -/
structure ListsByStatus (lists : CompensationStatus → List CompensationAction)
    (stored : CompensationAction → Prop) : Prop where
  mem_iff : ∀ status action, action ∈ lists status ↔ stored action ∧ action.status = status
  nodup : ∀ status, (lists status).Nodup

namespace ListsByStatus

variable {lists : CompensationStatus → List CompensationAction}
  {stored : CompensationAction → Prop} (h : ListsByStatus lists stored)
include h

theorem mem_listed (category : BatchCategory) (action : CompensationAction) :
    action ∈ category.listed (.ofActions (lists .pending) (lists .approved) (lists .failed)) ↔
      stored action ∧ category.Admits action := by
  cases category with
  | pendingApproval => exact h.mem_iff .pending action
  | approvedServiceExecutable =>
    exact List.mem_filter.trans ((and_congr_left' (h.mem_iff .approved action)).trans and_assoc)
  | retryableFailed =>
    exact List.mem_filter.trans ((and_congr_left' (h.mem_iff .failed action)).trans and_assoc)
  | dlq =>
    exact List.mem_filter.trans ((and_congr_left' (h.mem_iff .failed action)).trans and_assoc)

theorem nodup_listed (category : BatchCategory) :
    (category.listed (.ofActions (lists .pending) (lists .approved) (lists .failed))).Nodup := by
  cases category with
  | pendingApproval => exact h.nodup .pending
  | approvedServiceExecutable => exact (h.nodup .approved).filter _
  | retryableFailed => exact (h.nodup .failed).filter _
  | dlq => exact (h.nodup .failed).filter _

theorem partitions :
    (BatchCandidates.ofActions (lists .pending) (lists .approved)
      (lists .failed)).Partitions stored where
  listed_once action hstored hcandidate := by
    obtain ⟨category, hadmits, hunique⟩ := BatchCategory.existsUnique_admits hcandidate
    exact ⟨category, (h.mem_listed category action).mpr ⟨hstored, hadmits⟩,
      fun other hlisted => hunique other ((h.mem_listed other action).mp hlisted).2⟩
  nodup := h.nodup_listed
  candidates_only category action hlisted := by
    obtain ⟨hstored, hadmits⟩ := (h.mem_listed category action).mp hlisted
    exact ⟨hstored, hadmits.isBatchCandidate⟩

/-- Lists of the same actions, in whatever order. -/
theorem perm {lists' : CompensationStatus → List CompensationAction}
    (hperm : ∀ status, (lists' status).Perm (lists status)) : ListsByStatus lists' stored where
  mem_iff status action := (hperm status).mem_iff.trans (h.mem_iff status action)
  nodup status := (hperm status).nodup_iff.mpr (h.nodup status)

end ListsByStatus

section Repositories

variable {s : InMemoryCompensationActionRepository}

/-- The actions that a repository has of a tenant. -/
def InMemoryCompensationActionRepository.HasOf (s : InMemoryCompensationActionRepository)
    (tenantId : Uuid) (action : CompensationAction) : Prop :=
  action.tenantId = tenantId ∧ ∃ actionId, s.actions.lookup actionId = some action

theorem compensationStatusToString_inj {status status' : CompensationStatus} :
    compensationStatusToString status = compensationStatusToString status' ↔ status = status' := by
  constructor
  · intro h
    have hread := congrArg compensationStatusFromString h
    rw [compensationStatusFromString_toString, compensationStatusFromString_toString] at hread
    exact Except.ok.inj hread
  · exact congrArg compensationStatusToString

open InMemoryCompensationActionRepository

theorem InMemoryCompensationActionRepository.Consistent.nodup_values (h : s.Consistent) :
    ((pairs s.actions).map Prod.snd).Nodup := by
  refine List.Nodup.map_on ?_ (nodup_pairs s.actions)
  rintro ⟨id, action⟩ hmem ⟨id', action'⟩ hmem' rfl
  have hid : action.id = id := h.actionId id action (mem_pairs.mp hmem)
  have hid' : action.id = id' := h.actionId id' action (mem_pairs.mp hmem')
  rw [← hid, ← hid']

theorem InMemoryCompensationActionRepository.Consistent.listsByStatus (h : s.Consistent)
    (tenantId : Uuid) : ListsByStatus (s.listByStatus tenantId) (s.HasOf tenantId) where
  mem_iff status action := by
    rw [(listByStatus_perm h tenantId status).mem_iff, InMemoryCompensationActionRepository.select,
      List.mem_filter, List.mem_map, decide_eq_true_iff]
    constructor
    · rintro ⟨⟨⟨actionId, _⟩, hmem, rfl⟩, htenant, hstatus⟩
      exact ⟨⟨htenant, actionId, mem_pairs.mp hmem⟩, hstatus⟩
    · rintro ⟨⟨htenant, actionId, hlookup⟩, hstatus⟩
      exact ⟨⟨(actionId, action), mem_pairs.mpr hlookup, rfl⟩, htenant, hstatus⟩
  nodup status :=
    (listByStatus_perm h tenantId status).nodup_iff.mpr (h.nodup_values.filter _)

/-- The rows of a status decode to what the repository in memory lists, in another order. -/
theorem SameContents.listByStatus_perm {table : ActionTable} (hsame : SameContents s table)
    (h : s.Consistent) (scan : IterOrder ActionRow) (tenantId : Uuid)
    (status : CompensationStatus) :
    ∃ listed,
      SqlxCompensationActionRepository.listByStatus table scan tenantId status = .ok listed ∧
      listed.Perm (s.listByStatus tenantId status) := by
  have hrows : (scanLatest scan ActionRow.generatedAt (fun row => row.tenantId = tenantId &&
      row.status = compensationStatusToString status) table).Perm
      ((s.select fun action => action.tenantId = tenantId ∧ action.status = status).map
        .ofAction) := by
    refine (latestFirst_perm _ _).trans ((scan.perm _).trans ((hsame.rows_perm.filter _).trans ?_))
    rw [List.filter_map]
    refine .of_eq (congrArg _ (List.filter_congr fun action _ => ?_))
    rw [Bool.eq_iff_iff]
    simp only [Function.comp_apply, Bool.and_eq_true, decide_eq_true_iff]
    exact and_congr_right' compensationStatusToString_inj
  obtain ⟨listed, hlisted, hperm⟩ := mapM_decode rowToAction_ofAction hrows
  exact ⟨listed, hlisted, hperm.trans
    (InMemoryCompensationActionRepository.listByStatus_perm h tenantId status).symm⟩

section Services

variable {tenantId : Uuid} {reads : Reads} {stored : CompensationAction → Prop}
  {lists : CompensationStatus → List CompensationAction}

theorem batchCandidates_of_lists
    (hlists : ∀ status, reads.listActionsByStatus tenantId status = .ok (lists status)) :
    ReadHandlers.batchCandidates reads tenantId =
      .ok (.ofActions (lists .pending) (lists .approved) (lists .failed)) := by
  simp only [ReadHandlers.batchCandidates, hlists]
  rfl

theorem inMemory_batchCandidates (s : InMemoryReadState) (draws : ReadDraws) (tenantId : Uuid) :
    ∃ batch, ReadHandlers.batchCandidates (s.reads draws) tenantId = .ok batch ∧
      batch.Partitions (s.actions.HasOf tenantId) :=
  ⟨_, batchCandidates_of_lists fun _ => rfl,
    (s.actionsConsistent.listsByStatus tenantId).partitions⟩

theorem sqlx_batchCandidates {s : InMemoryCompensationActionRepository} (h : s.Consistent)
    {tables : SqlxReadState} (hsame : SameContents s tables.actions) (rlsPool : Bool)
    (draws : ReadDraws) (tenantId : Uuid) :
    ∃ batch, ReadHandlers.batchCandidates (tables.reads rlsPool draws) tenantId = .ok batch ∧
      batch.Partitions (s.HasOf tenantId) := by
  choose lists hlists hperm using fun status =>
    hsame.listByStatus_perm h (draws.statusScan status) tenantId status
  exact ⟨_, batchCandidates_of_lists hlists,
    ((h.listsByStatus tenantId).perm hperm).partitions⟩

end Services

/-- A failed action either can be reapproved or is dead, it has a reason against a reapproval unless
it can be reapproved, and a batch divides the candidates of a tenant, in memory and in SQL. -/
theorem dead_letters_partition :
    (∀ action : CompensationAction,
      (action.status = .failed →
        Xor (action.canBeReapproved = true) (action.isDlqCandidate = true)) ∧
      (action.reapprovalDenialReason = none ↔ action.canBeReapproved = true)) ∧
    (∀ (s : InMemoryReadState) (draws : ReadDraws) (tenantId : Uuid),
      ∃ batch, ReadHandlers.batchCandidates (s.reads draws) tenantId = .ok batch ∧
        batch.Partitions (s.actions.HasOf tenantId)) ∧
    (∀ (s : InMemoryCompensationActionRepository) (tables : SqlxReadState), s.Consistent →
      SameContents s tables.actions → ∀ (rlsPool : Bool) (draws : ReadDraws) (tenantId : Uuid),
        ∃ batch, ReadHandlers.batchCandidates (tables.reads rlsPool draws) tenantId = .ok batch ∧
          batch.Partitions (s.HasOf tenantId)) := by
  refine ⟨fun action => ⟨fun h => ?_, action.reapprovalDenialReason_eq_none⟩,
    inMemory_batchCandidates, fun s tables h hsame => sqlx_batchCandidates h hsame⟩
  rw [action.isDlqCandidate_eq_not_canBeReapproved h]
  cases action.canBeReapproved with
  | true => exact .inl ⟨rfl, Bool.false_ne_true⟩
  | false => exact .inr ⟨rfl, Bool.false_ne_true⟩

section Sample

/-- A repository with a pending action. -/
def pendingRepository : InMemoryCompensationActionRepository :=
  (InMemoryCompensationActionRepository.new.create (.sample 3 0)).2

theorem pendingRepository_consistent : pendingRepository.Consistent :=
  @RepositoryCall.consistent_next .new (.create (.sample 3 0)) rfl .new

theorem dead_letters_partition_sample :
    ∃ batch,
      ReadHandlers.batchCandidates
        (({ SqlxReadState.empty with actions := single 3 (.ofAction (.sample 3 0)) }).reads false
          .id) 2 = .ok batch ∧
        batch.Partitions (pendingRepository.HasOf 2) :=
  dead_letters_partition.2.2 pendingRepository _ pendingRepository_consistent (fun id => by
      rw [SqlxReadState.empty, pendingRepository, single, lookup_insert_eq]
      change _ = ((single 3 (CompensationAction.sample 3 0)).lookup id).map _
      rw [single, lookup_insert_eq]
      split <;> rfl) false .id 2

end Sample

end Repositories

end IntentRebase
