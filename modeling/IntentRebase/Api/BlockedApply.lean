import IntentRebase.Api.RebaseApply

/-! What a blocked apply does to the approval requests. It adds one that is pending and cancels
approved ones of the intent: those that the plan names, if the classifier calls some of the intent's
requests stale but not all of them, and else all of them. -/

namespace IntentRebase

open Kit

section Stale

variable {parseStr : String → Except String Uuid}
  (hparse : ∀ id : Uuid, parseStr id.display = .ok id)
include hparse

/-- Identifiers that are shown are read back. -/
theorem parseIds_display {ids : List String} (h : ∀ text ∈ ids, ∃ id : Uuid, text = id.display) :
    (parseIds parseStr ids).map Uuid.display = ids := by
  induction ids with
  | nil => rfl
  | cons first rest ih =>
    obtain ⟨id, rfl⟩ := h first List.mem_cons_self
    have hrest := ih fun text htext => h text (List.mem_cons_of_mem _ htext)
    have hfirst : (parseStr id.display).toOption = some id := by
      rw [hparse]
      rfl
    rw [parseIds, List.filterMap_cons_some (f := fun text => (parseStr text).toOption) hfirst,
      List.map_cons]
    exact congrArg _ hrest

variable {plan : RebasePlan} {current : List Uuid}

/-- The current requests that the classifier calls stale are read back. -/
theorem parseIds_stale :
    (parseIds parseStr (classifyApprovals plan (current.map Uuid.display)).staleIds).map
      Uuid.display = (classifyApprovals plan (current.map Uuid.display)).staleIds := by
  refine parseIds_display hparse fun text htext => ?_
  obtain ⟨id, _, rfl⟩ := List.mem_map.mp (classifyApprovals_stale_subset _ htext)
  exact ⟨id, rfl⟩

theorem length_parseIds_stale :
    (parseIds parseStr (classifyApprovals plan (current.map Uuid.display)).staleIds).length =
      (classifyApprovals plan (current.map Uuid.display)).staleIds.length := by
  conv_rhs => rw [← parseIds_stale hparse, List.length_map]

theorem mem_parseIds_stale {id : Uuid} :
    id ∈ parseIds parseStr (classifyApprovals plan (current.map Uuid.display)).staleIds ↔
      id.display ∈ (classifyApprovals plan (current.map Uuid.display)).staleIds := by
  conv_rhs => rw [← parseIds_stale hparse]
  rw [List.mem_map_of_injective Uuid.display_injective]

theorem mem_current_of_stale {id : Uuid}
    (h : id ∈ parseIds parseStr (classifyApprovals plan (current.map Uuid.display)).staleIds) :
    id ∈ current :=
  (List.mem_map_of_injective Uuid.display_injective).mp
    (classifyApprovals_stale_subset _ ((mem_parseIds_stale hparse).mp h))

/-- A request whose identifier is stale is one of the intent, if those that are current are. -/
theorem intent_of_stale {requests : HashMap Uuid ApprovalRequest} {intentId : Uuid}
    (hkeyed : ∀ id request, requests.lookup id = some request → request.id = id)
    (hcurrent : ∀ id ∈ current, ∃ request, requests.lookup id = some request ∧
      request.intentId = intentId) {id : Uuid} {request : ApprovalRequest}
    (hlookup : requests.lookup id = some request)
    (h : request.id ∈
      parseIds parseStr (classifyApprovals plan (current.map Uuid.display)).staleIds) :
    request.intentId = intentId := by
  obtain ⟨listed, hlisted, hintent⟩ := hcurrent _ (mem_current_of_stale hparse h)
  rw [hkeyed id request hlookup, hlookup] at hlisted
  cases hlisted
  exact hintent

end Stale

/-- The identifiers of a targeted cancellation. -/
def targets (parseStr : String → Except String Uuid) (plan : RebasePlan) (current : List Uuid) :
    List Uuid :=
  if plan.usesClassifier then
    parseIds parseStr (classifyApprovals plan (current.map Uuid.display)).staleIds
  else []

/-- A cancellation by identifiers cancels as many requests as it is given identifiers. -/
def HitsAll (requests : HashMap Uuid ApprovalRequest) (tenantId : Uuid) (ids : List Uuid) : Prop :=
  ids ≠ [] ∧ ids.length ≤ countWhere requests (approvedAmong ids tenantId)

/-- The requests that are cancelled: the approved ones of the intent, or those of them that a
cancellation by identifiers reaches if it misses none. -/
def Chosen (requests : HashMap Uuid ApprovalRequest) (intentId tenantId : Uuid) (ids : List Uuid)
    (request : ApprovalRequest) : Prop :=
  ApprovalStorage.Approved intentId tenantId request ∧
    (HitsAll requests tenantId ids → request.id ∈ ids)

section Choice

variable {before targeted after : HashMap Uuid ApprovalRequest} {intentId tenantId : Uuid}
  {ids : List Uuid}

/-- Without identifiers, the approved requests of the intent are cancelled. -/
theorem Chosen.cancels_flat
    (h : CancelsWhere rebaseApplyActor (ApprovalStorage.Approved intentId tenantId) before after) :
    CancelsWhere rebaseApplyActor (Chosen before intentId tenantId []) before after :=
  h.congr fun _ _ _ => (and_iff_left fun hhits => absurd rfl hhits.1).symm

variable
  (hids : ∀ id request, before.lookup id = some request → request.id ∈ ids →
    request.intentId = intentId)
  (htargeted : CancelsWhere rebaseApplyActor
    (fun request => approvedAmong ids tenantId request.id request = true) before targeted)
include hids htargeted

/-- A cancellation by identifiers that misses none stands. -/
theorem Chosen.cancels_targeted (hhits : HitsAll before tenantId ids) :
    CancelsWhere rebaseApplyActor (Chosen before intentId tenantId ids) before targeted := by
  refine htargeted.congr fun id request hlookup => ?_
  rw [approvedAmong, decide_eq_true_eq, Chosen, ApprovalStorage.Approved]
  constructor
  · rintro ⟨hmem, htenant, happroved⟩
    exact ⟨⟨hids id request hlookup hmem, htenant, happroved⟩, fun _ => hmem⟩
  · rintro ⟨⟨_, htenant, happroved⟩, hmem⟩
    exact ⟨hmem hhits, htenant, happroved⟩

/-- One that misses some is followed by a cancellation of all. -/
theorem Chosen.cancels_after (hmissed : ¬ HitsAll before tenantId ids)
    (hflat : CancelsWhere rebaseApplyActor (ApprovalStorage.Approved intentId tenantId) targeted
      after) :
    CancelsWhere rebaseApplyActor (Chosen before intentId tenantId ids) before after := by
  refine (htargeted.trans hflat ?_ fun _ h => h.2.2).congr fun _ _ _ =>
    (and_iff_left fun hhits => absurd hhits hmissed).symm
  intro id request hlookup hamong
  rw [approvedAmong, decide_eq_true_eq] at hamong
  exact ⟨hids id request hlookup hamong.1, hamong.2⟩

end Choice

section Cancellations

variable {parseStr : String → Except String Uuid}
  (hparse : ∀ id : Uuid, parseStr id.display = .ok id) (draws : ApprovalDraws) (plan : RebasePlan)
  (intentId tenantId : Uuid)
include hparse

/-- One call after the other, the requests that are cancelled are chosen among those listed. -/
theorem cancelAfter_cancels (created : ApprovalRequest) {s : ApprovalStorage} (hs : s.Sound) :
    CancelsWhere rebaseApplyActor
      (Chosen s.requests intentId tenantId (targets parseStr plan
        ((s.listByIntent draws.scan intentId tenantId).map ApprovalRequest.id)))
      s.requests
      (cancelAfter parseStr .quiet draws plan intentId tenantId created s).requests := by
  have hflat (s : ApprovalStorage) := cancelExistingApprovedAndAudit_cancels draws.flatAt s intentId
    tenantId rebaseApplyActor created.id
  obtain ⟨current, hcurrent⟩ : ∃ current,
      (s.listByIntent draws.scan intentId tenantId).map ApprovalRequest.id = current := ⟨_, rfl⟩
  obtain ⟨staleIds, hstale⟩ : ∃ staleIds,
      (classifyApprovals plan (current.map Uuid.display)).staleIds = staleIds := ⟨_, rfl⟩
  have hlength : (parseIds parseStr staleIds).length = staleIds.length := by
    rw [← hstale]
    exact length_parseIds_stale hparse
  have hids (id : Uuid) (request : ApprovalRequest) (hlookup : s.requests.lookup id = some request)
      (hmem : request.id ∈ parseIds parseStr staleIds) : request.intentId = intentId := by
    rw [← hstale] at hmem
    refine intent_of_stale hparse hs.keyed (fun id hid => ?_) hlookup hmem
    rw [← hcurrent] at hid
    obtain ⟨listed, hlisted, hintent, -⟩ := (hs.mem_listByIntent draws.scan).mp hid
    exact ⟨listed, hlisted, hintent⟩
  have hlisted : ((s.listByIntent draws.scan intentId tenantId).map fun a => a.id.display) =
      current.map Uuid.display := by
    rw [← hcurrent, List.map_map]
    rfl
  rw [cancelAfter, targets, hcurrent, hstale]
  dsimp only [ApprovalFaults.quiet]
  rw [hlisted, hstale]
  by_cases husing : plan.usesClassifier = true
  · rw [if_pos husing, if_pos husing]
    by_cases hnone : staleIds = []
    · rw [hnone]
      exact Chosen.cancels_flat (hflat s)
    · have hsome : parseIds parseStr staleIds ≠ [] := fun h => by
        rw [h] at hlength
        exact hnone (List.length_eq_zero_iff.mp hlength.symm)
      obtain ⟨s', htargeted, hcancels⟩ := cancelSpecificApprovedAndAudit_cancels draws.targetedAt hs
        hsome ⟨intentId, tenantId, rebaseApplyActor, created.id⟩
      rw [if_pos (by simpa using hnone), htargeted]
      dsimp only at hcancels ⊢
      by_cases hfew : countWhere s.requests (approvedAmong (parseIds parseStr staleIds) tenantId) <
          staleIds.length
      · rw [if_pos hfew]
        refine Chosen.cancels_after hids hcancels (fun hhits => ?_) (hflat s')
        have hall := hhits.2
        omega
      · rw [if_neg hfew]
        exact Chosen.cancels_targeted hids hcancels ⟨hsome, by omega⟩
  · rw [if_neg husing, if_neg husing]
    exact Chosen.cancels_flat (hflat s)

/-- In a transaction of the tenant, the requests that are cancelled are chosen among those listed
outside it. -/
theorem cancelWithTx_cancels (cancellationReason : String) {repo : SqlxApprovalRequestRepository}
    (hrepo : (ApprovalStorage.sqlx repo).Sound) {tx : Transaction SqlxApprovalRequestRepository}
    (hopen : tx.aborted = false)
    (hkeyed : ∀ id row, tx.work.rows.lookup id = some row → row.id = id)
    (hgrown : ∀ id row, repo.rows.lookup id = some row → tx.work.rows.lookup id = some row) :
    ∃ count tx', cancelWithTx parseStr .quiet draws plan intentId tenantId tenantId
        cancellationReason repo tx = (count, tx') ∧ tx'.aborted = false ∧
      CancelsWhere rebaseApplyActor
        (Chosen tx.work.rows intentId tenantId (targets parseStr plan
          ((repo.listByIntent draws.txScan intentId tenantId).map ApprovalRequest.id)))
        tx.work.rows tx'.work.rows := by
  have hflat {tx : Transaction SqlxApprovalRequestRepository} (hopen : tx.aborted = false) :
      ∃ count tx', flatCancelWithTx .quiet draws intentId tenantId tenantId cancellationReason tx =
          (count, tx') ∧ tx'.aborted = false ∧
        CancelsWhere rebaseApplyActor (ApprovalStorage.Approved intentId tenantId) tx.work.rows
          tx'.work.rows := by
    obtain ⟨count, tx', hrun, hafter, hcancels⟩ :=
      SqlxApprovalRequestRepository.cancelApprovedByIntentWithTx_cancels hopen draws.txFlatAt
        rebaseApplyActor cancellationReason intentId
    refine ⟨count, tx', ?_, hafter, hcancels⟩
    rw [flatCancelWithTx, ApprovalFaults.quiet, hrun]
  obtain ⟨current, hcurrent⟩ : ∃ current,
      (repo.listByIntent draws.txScan intentId tenantId).map ApprovalRequest.id = current :=
    ⟨_, rfl⟩
  obtain ⟨staleIds, hstale⟩ : ∃ staleIds,
      (classifyApprovals plan (current.map Uuid.display)).staleIds = staleIds := ⟨_, rfl⟩
  have hlength : (parseIds parseStr staleIds).length = staleIds.length := by
    rw [← hstale]
    exact length_parseIds_stale hparse
  have hids (id : Uuid) (row : ApprovalRequest) (hlookup : tx.work.rows.lookup id = some row)
      (hmem : row.id ∈ parseIds parseStr staleIds) : row.intentId = intentId := by
    rw [← hstale] at hmem
    refine intent_of_stale hparse hkeyed (fun id hid => ?_) hlookup hmem
    rw [← hcurrent] at hid
    obtain ⟨listed, hlisted, hintent, -⟩ := (hrepo.mem_listByIntent draws.txScan).mp hid
    exact ⟨listed, hgrown id listed hlisted, hintent⟩
  have hlisted : ((repo.listByIntent draws.txScan intentId tenantId).map fun a => a.id.display) =
      current.map Uuid.display := by
    rw [← hcurrent, List.map_map]
    rfl
  have hnoFault : ApprovalFaults.quiet.txListFault = none := rfl
  rw [cancelWithTx, targets, hcurrent, hstale, hnoFault]
  dsimp only
  rw [hlisted, hstale]
  by_cases husing : plan.usesClassifier = true
  · rw [if_pos husing, if_pos husing]
    by_cases hnone : staleIds = []
    · rw [hnone]
      obtain ⟨count, tx', hrun, hafter, hcancels⟩ := hflat hopen
      exact ⟨count, tx', hrun, hafter, Chosen.cancels_flat hcancels⟩
    · have hsome : parseIds parseStr staleIds ≠ [] := fun h => by
        rw [h] at hlength
        exact hnone (List.length_eq_zero_iff.mp hlength.symm)
      obtain ⟨tx₁, htargeted, hopen₁, hcancels⟩ :=
        SqlxApprovalRequestRepository.cancelApprovedByIdsWithTx_cancels hopen draws.txTargetedAt
          rebaseApplyActor cancellationReason hkeyed hsome
      rw [if_pos (by simpa using hnone), if_pos (by simpa using hsome), ApprovalFaults.quiet,
        htargeted]
      dsimp only
      by_cases hfew :
          countWhere tx.work.rows (approvedAmong (parseIds parseStr staleIds) tenantId) <
            staleIds.length
      · rw [if_pos hfew]
        obtain ⟨flatCount, tx', hrun, hafter, hall⟩ := hflat hopen₁
        refine ⟨_, tx', congrArg (fun p => (_ + p.1, p.2)) hrun, hafter, ?_⟩
        refine Chosen.cancels_after hids hcancels (fun hhits => ?_) hall
        have hhit := hhits.2
        omega
      · rw [if_neg hfew]
        exact ⟨_, tx₁, rfl, hopen₁, Chosen.cancels_targeted hids hcancels ⟨hsome, by omega⟩⟩
  · rw [if_neg husing, if_neg husing]
    obtain ⟨count, tx', hrun, hafter, hcancels⟩ := hflat hopen
    exact ⟨count, tx', hrun, hafter, Chosen.cancels_flat hcancels⟩

end Cancellations

/-- The plan names the approved requests that are cancelled: it has graph data, is of the high tier
and not of class E, and of the requests of the intent it names some. -/
structure CancelsNamed (plan : RebasePlan) (requests : HashMap Uuid ApprovalRequest)
    (intentId tenantId : Uuid) : Prop where
  available : plan.affectedItems.status = .available
  tier : plan.riskTier = .high
  notE : plan.decisionClass ≠ .E
  names : ∃ id request, requests.lookup id = some request ∧ request.intentId = intentId ∧
    request.tenantId = tenantId ∧ id.display ∈ computeAffectedApprovalIds plan

/-- Of the requests of the intent, the plan names none twice, and only approved ones. -/
structure NamesApproved (plan : RebasePlan) (requests : HashMap Uuid ApprovalRequest)
    (intentId tenantId : Uuid) : Prop where
  once : ∀ id request, requests.lookup id = some request → request.intentId = intentId →
    request.tenantId = tenantId → (computeAffectedApprovalIds plan).count id.display ≤ 1
  approved : ∀ id request, requests.lookup id = some request → request.intentId = intentId →
    request.tenantId = tenantId → id.display ∈ computeAffectedApprovalIds plan →
    request.status = .approved

/-- The requests that a blocked apply cancels: the approved ones of the intent, and only those that
the plan names if it names what is cancelled. -/
def CancelledByReview (plan : RebasePlan) (requests : HashMap Uuid ApprovalRequest)
    (intentId tenantId : Uuid) (request : ApprovalRequest) : Prop :=
  ApprovalStorage.Approved intentId tenantId request ∧
    (CancelsNamed plan requests intentId tenantId →
      request.id.display ∈ computeAffectedApprovalIds plan)

section Choice

variable {plan : RebasePlan}

theorem staleIds_high {current : List String} (hE : plan.decisionClass ≠ .E)
    (htier : plan.riskTier = .high) :
    (classifyApprovals plan current).staleIds =
      (computeAffectedApprovalIds plan).filter fun id => id ∈ current := by
  rw [classifyApprovals, if_neg hE]
  simp only [htier]
  cases hclass : plan.decisionClass with
  | A => rfl
  | B => rfl
  | C => rfl
  | D => rfl
  | E => exact absurd hclass hE

/-- Only a plan of the high tier makes some but not all of the current requests stale. -/
theorem staleIds_other {current : List String}
    (h : plan.decisionClass = .E ∨ plan.riskTier ≠ .high) :
    (classifyApprovals plan current).staleIds = [] ∨
      (classifyApprovals plan current).staleIds = current := by
  rw [classifyApprovals]
  by_cases hE : plan.decisionClass = .E
  · rw [if_pos hE]
    exact .inl rfl
  · rw [if_neg hE]
    dsimp only
    cases htier : plan.riskTier with
    | low => exact .inl rfl
    | medium => exact .inl rfl
    | critical => exact .inr rfl
    | high => exact absurd htier (h.resolve_left hE)

variable {parseStr : String → Except String Uuid}
  (hparse : ∀ id : Uuid, parseStr id.display = .ok id) {current : List Uuid}
include hparse

theorem targets_display (husing : plan.usesClassifier = true) :
    (targets parseStr plan current).map Uuid.display =
      (classifyApprovals plan (current.map Uuid.display)).staleIds := by
  rw [targets, if_pos husing]
  exact parseIds_stale hparse

theorem mem_targets_high (hE : plan.decisionClass ≠ .E) (htier : plan.riskTier = .high)
    (husing : plan.usesClassifier = true) {id : Uuid} :
    id ∈ targets parseStr plan current ↔
      id.display ∈ computeAffectedApprovalIds plan ∧ id ∈ current := by
  rw [← List.mem_map_of_injective Uuid.display_injective, targets_display hparse husing,
    staleIds_high hE htier, List.mem_filter, decide_eq_true_eq,
    List.mem_map_of_injective Uuid.display_injective]

end Choice

theorem usesClassifier_iff {plan : RebasePlan} : plan.usesClassifier = true ↔
    plan.affectedItems.status = .available ∧ plan.affectedItems.affectedApprovals ≠ [] := by
  simp [RebasePlan.usesClassifier]

/-- Requests after a pending one has been added under a new identifier that the plan does not name,
and identifiers of requests of the intent, those of all earlier ones among them. Where the plan names
what is cancelled, it names approved requests. -/
structure Listing (plan : RebasePlan) (before after : HashMap Uuid ApprovalRequest)
    (intentId tenantId : Uuid) (current : List Uuid) (new : ApprovalRequest) : Prop where
  keyed : ∀ id request, before.lookup id = some request → request.id = id
  fresh : before.lookup new.id = none
  added : after = before.insert new.id new
  pending : new.status = .pending
  unnamed : new.id.display ∉ computeAffectedApprovalIds plan
  names : CancelsNamed plan before intentId tenantId → NamesApproved plan before intentId tenantId
  owned : ∀ id ∈ current, ∃ request, after.lookup id = some request ∧
    request.intentId = intentId ∧ request.tenantId = tenantId
  listed : ∀ id request, before.lookup id = some request → request.intentId = intentId →
    request.tenantId = tenantId → id ∈ current

namespace Listing

variable {plan : RebasePlan} {before after : HashMap Uuid ApprovalRequest}
  {intentId tenantId : Uuid} {current : List Uuid} {new : ApprovalRequest}
  (h : Listing plan before after intentId tenantId current new)
include h

/-- Under another identifier than the new one, the same requests are stored. -/
theorem lookup_iff {id : Uuid} (hid : id ≠ new.id) {request : ApprovalRequest} :
    after.lookup id = some request ↔ before.lookup id = some request := by
  rw [h.added, AList.lookup_insert_ne hid]

theorem ne_of_named {id : Uuid} (hid : id.display ∈ computeAffectedApprovalIds plan) :
    id ≠ new.id := by
  rintro rfl
  exact h.unnamed hid

/-- A current request that the plan names was stored before. -/
theorem named {id : Uuid} (hid : id ∈ current)
    (hnamed : id.display ∈ computeAffectedApprovalIds plan) :
    ∃ request, before.lookup id = some request ∧ request.intentId = intentId ∧
      request.tenantId = tenantId := by
  obtain ⟨request, hlookup, howner⟩ := h.owned id hid
  exact ⟨request, (h.lookup_iff (h.ne_of_named hnamed)).mp hlookup, howner⟩

variable {parseStr : String → Except String Uuid}
  (hparse : ∀ id : Uuid, parseStr id.display = .ok id)
include hparse

/-- What an earlier request of the intent is, is current. -/
theorem mem_targets (hE : plan.decisionClass ≠ .E) (htier : plan.riskTier = .high)
    (husing : plan.usesClassifier = true) {id : Uuid} {request : ApprovalRequest}
    (hlookup : before.lookup id = some request) (hintent : request.intentId = intentId)
    (htenant : request.tenantId = tenantId) :
    id ∈ targets parseStr plan current ↔ id.display ∈ computeAffectedApprovalIds plan := by
  rw [mem_targets_high hparse hE htier husing]
  exact and_iff_left (h.listed id request hlookup hintent htenant)

/-- For a plan of the high tier that names no request of the intent twice, the targets are
distinct. -/
theorem nodup_targets (hE : plan.decisionClass ≠ .E) (htier : plan.riskTier = .high)
    (husing : plan.usesClassifier = true) (hnames : NamesApproved plan before intentId tenantId) :
    (targets parseStr plan current).Nodup := by
  rw [← List.nodup_map_iff Uuid.display_injective, targets_display hparse husing,
    staleIds_high hE htier, List.nodup_iff_count_le_one]
  intro text
  by_cases htext : text ∈ (computeAffectedApprovalIds plan).filter fun text =>
      text ∈ current.map Uuid.display
  · obtain ⟨hnamed, hcurrent⟩ := List.mem_filter.mp htext
    obtain ⟨id, hid, rfl⟩ := List.mem_map.mp (of_decide_eq_true hcurrent)
    obtain ⟨request, hlookup, hintent, htenant⟩ := h.named hid hnamed
    have hcount : ((computeAffectedApprovalIds plan).filter fun text =>
        text ∈ current.map Uuid.display).count id.display = _ := List.count_filter hcurrent
    rw [hcount]
    exact hnames.once id request hlookup hintent htenant
  · rw [List.count_eq_zero_of_not_mem htext]
    exact Nat.zero_le 1

/-- For a plan of the high tier, the cancellation by identifiers hits all of them exactly if the
plan names what is cancelled. -/
theorem hitsAll_iff (hE : plan.decisionClass ≠ .E) (htier : plan.riskTier = .high) :
    HitsAll after tenantId (targets parseStr plan current) ↔
      CancelsNamed plan before intentId tenantId := by
  have hkeys (id : Uuid) (request : ApprovalRequest)
      (hamong : approvedAmong (targets parseStr plan current) tenantId id request = true) :
      id ∈ targets parseStr plan current := (of_decide_eq_true hamong).1
  rw [HitsAll, length_le_countWhere_iff hkeys]
  constructor
  · rintro ⟨hsome, -, -⟩
    have husing : plan.usesClassifier = true := by
      by_contra hnot
      exact hsome (if_neg hnot)
    obtain ⟨first, hfirst⟩ := List.exists_mem_of_ne_nil _ hsome
    obtain ⟨hnamed, hcurrent⟩ := (mem_targets_high hparse hE htier husing).mp hfirst
    obtain ⟨request, hlookup, hintent, htenant⟩ := h.named hcurrent hnamed
    exact ⟨(usesClassifier_iff.mp husing).1, htier, hE,
      ⟨first, request, hlookup, hintent, htenant, hnamed⟩⟩
  · intro hcancels
    have hnames := h.names hcancels
    have husing : plan.usesClassifier = true := by
      refine usesClassifier_iff.mpr ⟨hcancels.available, fun hnone => ?_⟩
      obtain ⟨id, _, _, _, _, hnamed⟩ := hcancels.names
      rw [computeAffectedApprovalIds, changedApprovals, hnone] at hnamed
      cases hnamed
    refine ⟨?_, h.nodup_targets hparse hE htier husing hnames, ?_⟩
    · obtain ⟨id, request, hlookup, hintent, htenant, hnamed⟩ := hcancels.names
      exact List.ne_nil_of_mem
        ((h.mem_targets hparse hE htier husing hlookup hintent htenant).mpr hnamed)
    · intro id hid
      obtain ⟨hnamed, hcurrent⟩ := (mem_targets_high hparse hE htier husing).mp hid
      obtain ⟨request, hlookup, hintent, htenant⟩ := h.named hcurrent hnamed
      refine ⟨request, (h.lookup_iff (h.ne_of_named hnamed)).mpr hlookup, ?_⟩
      exact decide_eq_true
        ⟨hid, htenant, hnames.approved id request hlookup hintent htenant hnamed⟩

/-- Among the approved requests, those that are chosen are those that a review cancels. -/
theorem chosen_iff {id : Uuid} {request : ApprovalRequest}
    (hlookup : after.lookup id = some request) :
    Chosen after intentId tenantId (targets parseStr plan current) request ↔
      CancelledByReview plan before intentId tenantId request := by
  rw [Chosen, CancelledByReview]
  refine and_congr_right fun happroved => ?_
  obtain ⟨hintent, htenant, hstatus⟩ := happroved
  have hid : id ≠ new.id := by
    rintro rfl
    rw [h.added, AList.lookup_insert] at hlookup
    cases hlookup
    cases hstatus.symm.trans h.pending
  have hstored := (h.lookup_iff hid).mp hlookup
  rw [h.keyed id request hstored]
  by_cases hother : plan.decisionClass = .E ∨ plan.riskTier ≠ .high
  · refine iff_of_true (fun hhits => ?_) fun hnames => ?_
    · have husing : plan.usesClassifier = true := by
        by_contra hnot
        exact hhits.1 (if_neg hnot)
      have hdisplay : (targets parseStr plan current).map Uuid.display = _ :=
        targets_display hparse husing
      rcases staleIds_other hother with hnone | hall
      · rw [hnone, List.map_eq_nil_iff] at hdisplay
        exact absurd hdisplay hhits.1
      · rw [hall] at hdisplay
        rw [Uuid.display_injective.list_map hdisplay]
        exact h.listed id request hstored hintent htenant
    · exact absurd hother (by simp [hnames.notE, hnames.tier])
  · obtain ⟨hE, htier⟩ := not_or.mp hother
    have htier := not_not.mp htier
    rw [h.hitsAll_iff hparse hE htier]
    refine forall_congr' fun hnames => ?_
    have husing : plan.usesClassifier = true := by
      by_contra hnot
      exact ((h.hitsAll_iff hparse hE htier).mpr hnames).1 (if_neg hnot)
    exact h.mem_targets hparse hE htier husing hstored hintent htenant

end Listing

/-- The requests after a review was asked for: the new one is added, of the others those that are
selected are cancelled, and no more is changed. -/
structure ReviewRequested (selected : ApprovalRequest → Prop) (new : ApprovalRequest)
    (before after : HashMap Uuid ApprovalRequest) : Prop where
  added : after.lookup new.id = some new
  cancelled : ∀ id request, before.lookup id = some request → selected request →
    ∃ now reason, after.lookup id =
      some (ApprovalRequest.resolve .cancelled now rebaseApplyActor (some reason) request)
  kept : ∀ id request, before.lookup id = some request → ¬ selected request →
    after.lookup id = some request
  noOther : ∀ id, id ≠ new.id → before.lookup id = none → after.lookup id = none

theorem ReviewRequested.of_cancels {selected : ApprovalRequest → Prop} {new : ApprovalRequest}
    {before after : HashMap Uuid ApprovalRequest}
    (h : CancelsWhere rebaseApplyActor selected (before.insert new.id new) after)
    (hfresh : before.lookup new.id = none) (hnew : ¬ selected new) :
    ReviewRequested selected new before after := by
  have hinserted {id : Uuid} {request : ApprovalRequest}
      (hlookup : before.lookup id = some request) :
      (before.insert new.id new).lookup id = some request := by
    rw [AList.lookup_insert_ne, hlookup]
    rintro rfl
    cases hfresh.symm.trans hlookup
  refine ⟨h.kept _ _ (AList.lookup_insert _) hnew,
    fun id request hlookup => h.cancelled id request (hinserted hlookup),
    fun id request hlookup => h.kept id request (hinserted hlookup), fun id hid hnone => ?_⟩
  exact h.absent id (by rw [AList.lookup_insert_ne hid, hnone])

theorem not_cancelledByReview {plan : RebasePlan} {request : ApprovalRequest}
    (hpending : request.status = .pending) (requests : HashMap Uuid ApprovalRequest)
    (intentId tenantId : Uuid) : ¬ CancelledByReview plan requests intentId tenantId request := by
  rintro ⟨⟨_, _, happroved⟩, _⟩
  cases hpending.symm.trans happroved

section Review

variable {parseStr : String → Except String Uuid}
  (hparse : ∀ id : Uuid, parseStr id.display = .ok id) (draws : ApprovalDraws) {plan : RebasePlan}
  (intentId tenantId : Uuid) {request : ApprovalRequest} (hpending : request.status = .pending)
  (hunnamed : request.id.display ∉ computeAffectedApprovalIds plan)
include hparse hpending hunnamed

theorem createAndCancel_requests {s : ApprovalStorage} (hs : s.Sound)
    (hfresh : s.requests.lookup request.id = none)
    (hnames : CancelsNamed plan s.requests intentId tenantId →
      NamesApproved plan s.requests intentId tenantId) :
    ReviewRequested (CancelledByReview plan s.requests intentId tenantId) request s.requests
      (createAndCancel parseStr .quiet draws plan intentId tenantId request s).requests := by
  obtain ⟨s', hcreate⟩ := ApprovalStorage.createApprovalRequest_fresh hfresh
  have hs' := hs.create hfresh hcreate
  have hadded := (ApprovalStorage.createApprovalRequest_ok hcreate).2
  have hlisting : Listing plan s.requests s'.requests intentId tenantId
      ((s'.listByIntent draws.scan intentId tenantId).map ApprovalRequest.id) request := by
    refine ⟨hs.keyed, hfresh, hadded, hpending, hunnamed, hnames,
      fun id hid => (hs'.mem_listByIntent draws.scan).mp hid, fun id stored hlookup hi ht => ?_⟩
    refine (hs'.mem_listByIntent draws.scan).mpr ⟨stored, ?_, hi, ht⟩
    rw [hadded, AList.lookup_insert_ne, hlookup]
    rintro rfl
    cases hfresh.symm.trans hlookup
  rw [createAndCancel, hcreate]
  have hcancels := (cancelAfter_cancels hparse draws plan intentId tenantId request hs').congr
    fun id stored hlookup => hlisting.chosen_iff hparse hlookup
  rw [hadded] at hcancels
  exact .of_cancels hcancels hfresh (not_cancelledByReview hpending _ _ _)

variable (htenant : request.tenantId = tenantId)
include htenant

theorem createAndCancelWithTx_requests {repo : SqlxApprovalRequestRepository}
    (hrepo : (ApprovalStorage.sqlx repo).Sound) (hfresh : repo.rows.lookup request.id = none)
    (hnames : CancelsNamed plan repo.rows intentId tenantId →
      NamesApproved plan repo.rows intentId tenantId) :
    ∃ answer tx, createAndCancelWithTx parseStr .quiet draws plan intentId tenantId tenantId request
        repo (.start repo) = (.ok answer, tx) ∧ tx.aborted = false ∧
      ReviewRequested (CancelledByReview plan repo.rows intentId tenantId) request repo.rows
        tx.work.rows := by
  have hstart : (Transaction.start repo).aborted = false := rfl
  obtain ⟨tx, hcreate⟩ := SqlxApprovalRequestRepository.createApprovalRequestWithTx_run hstart
    htenant hfresh
  obtain ⟨-, hopen, -, hadded⟩ :=
    SqlxApprovalRequestRepository.createApprovalRequestWithTx_ok hcreate
  have hgrown (id : Uuid) (row : ApprovalRequest) (hlookup : repo.rows.lookup id = some row) :
      tx.work.rows.lookup id = some row := by
    rw [hadded, AList.lookup_insert_ne, Transaction.start, hlookup]
    rintro rfl
    cases hfresh.symm.trans hlookup
  have hkeyed (id : Uuid) (row : ApprovalRequest) (hlookup : tx.work.rows.lookup id = some row) :
      row.id = id := by
    rw [hadded, lookup_insert_eq] at hlookup
    split at hlookup
    · next hid =>
      cases hlookup
      exact hid.symm
    · exact hrepo.keyed id row hlookup
  have hlisting : Listing plan repo.rows tx.work.rows intentId tenantId
      ((repo.listByIntent draws.txScan intentId tenantId).map ApprovalRequest.id) request := by
    refine ⟨hrepo.keyed, hfresh, hadded, hpending, hunnamed, hnames, fun id hid => ?_,
      fun id row hlookup hi ht => (hrepo.mem_listByIntent draws.txScan).mpr ⟨row, hlookup, hi, ht⟩⟩
    obtain ⟨row, hlookup, howner⟩ := (hrepo.mem_listByIntent draws.txScan).mp hid
    exact ⟨row, hgrown id row hlookup, howner⟩
  obtain ⟨count, tx', hcancel, hafter, hcancels⟩ := cancelWithTx_cancels hparse draws plan intentId
    tenantId s!"Superseded by new approval request {request.id.display} due to rebase apply" hrepo
    hopen hkeyed hgrown
  refine ⟨(request, count), tx', ?_, hafter, ?_⟩
  · have hnoFault : ApprovalFaults.quiet.txCreateFault = none := rfl
    rw [createAndCancelWithTx, hnoFault, hcreate]
    dsimp only
    rw [hcancel]
  · have hchosen := hcancels.congr fun id row hlookup => hlisting.chosen_iff hparse hlookup
    rw [hadded] at hchosen
    exact .of_cancels hchosen hfresh (not_cancelledByReview hpending _ _ _)

/-- Without a failure, a review is asked for in a transaction as it is without one. -/
theorem requestReview_requests (rlsPool : Bool) {claims : Option RlsTenantClaims}
    (hclaims : ∀ rlsClaims, claims = some rlsClaims → rlsClaims.tenantId = tenantId)
    {s : ApprovalStorage} (hs : s.Sound) (hfresh : s.requests.lookup request.id = none)
    (hnames : CancelsNamed plan s.requests intentId tenantId →
      NamesApproved plan s.requests intentId tenantId) :
    ReviewRequested (CancelledByReview plan s.requests intentId tenantId) request s.requests
      (requestReview parseStr .quiet draws plan intentId tenantId rlsPool claims request s).requests
      := by
  have hplain := createAndCancel_requests hparse draws intentId tenantId hpending hunnamed hs hfresh
    hnames
  unfold requestReview
  split
  · next rlsClaims repo =>
    split
    · obtain rfl := hclaims rlsClaims rfl
      obtain ⟨answer, tx, hbody, hopen, hrequested⟩ := createAndCancelWithTx_requests hparse draws
        intentId _ hpending hunnamed htenant hs hfresh hnames
      have hcommitted := inTenant_of_body rlsClaims.notNil hbody
      have hwork : tx.committed repo = tx.work := if_neg (by simp [hopen])
      rw [hwork] at hcommitted
      rw [ApprovalFaults.quiet] at hcommitted ⊢
      rw [hcommitted]
      exact hrequested
    · exact hplain
  · exact hplain

end Review

section Blocked

variable {γ ρ : Type} {parseStr : String → Except String Uuid} {state : RebaseApplyState γ ρ}
  {run : RebaseApplyRun} {intentId : Uuid} {request : DiffRequest}
  {claims : Option RlsTenantClaims} {w : RebaseApplyWorld γ ρ} {intentHead : IntentHeadResponse}
  {fromVersion toVersion : IntentVersion} {plan : RebasePlan} {reason : String}

/-- Without a failure, a blocked apply adds its pending request and cancels the approved requests of
the intent; only those that the plan names, if it has graph data, is of the high tier but not of
class E, and names some requests of the intent, which then are approved and named once. -/
theorem blockedApply_cancels (hparse : ∀ id : Uuid, parseStr id.display = .ok id)
    (hplanned : PlannedApply state intentId request claims w.world.graph intentHead fromVersion
      toVersion plan)
    (hblocked : state.orchestrator.evaluateApply plan = .blocked reason)
    (hquiet : run.approvalFaults = .quiet) (hsound : w.approvals.Sound)
    (hfresh : w.approvals.requests.lookup run.draws.id = none)
    (hunnamed : run.draws.id.display ∉ computeAffectedApprovalIds plan)
    (hnames : CancelsNamed plan w.approvals.requests intentId intentHead.intent.tenantId →
      NamesApproved plan w.approvals.requests intentId intentHead.intent.tenantId) :
    ∃ response w', (rebaseApply parseStr state run intentId request claims).on w =
        (.ok (.accepted, response), w') ∧
      ReviewRequested
        (CancelledByReview plan w.approvals.requests intentId intentHead.intent.tenantId)
        (.newPending run.draws.id run.draws.createdAt intentId request.fromVersion request.toVersion
          intentHead.intent.workflowId intentHead.intent.tenantId rebaseApplyActor "external-api"
          plan.decisionClass.debug reason)
        w.approvals.requests w'.approvals.requests := by
  obtain ⟨response, hrun⟩ := rebaseApply_blocked parseStr run hplanned hblocked
  refine ⟨response, _, hrun, ?_⟩
  rw [hquiet]
  refine requestReview_requests hparse run.draws intentId _ ?_ ?_ ?_ state.rlsPool hplanned.tenant
    hsound hfresh hnames
  · rfl
  · exact hunnamed
  · rfl

section Sample

open InMemoryIntentRepository (sampleHash sampleIntentRequest sampleVersionRequest)

/-- An intent of tenant 5 with two versions. -/
def appliedService : IntentStore :=
  .inMemory ((InMemoryIntentRepository.new.createIntentTx sampleHash ⟨7, 8, 5, 0⟩
    sampleIntentRequest).2.createVersionWithOcc sampleHash ⟨9, 1⟩ 7 sampleVersionRequest 1 0).2

/-- The node of an approval that refers to a request. -/
def approvalItem (requestId : Uuid) : AffectedItem where
  nodeId := 40
  label := "approval"
  impact := .direct
  reason := "Depends on the version"
  externalRef := some ⟨.approval, requestId⟩

/-- The plan for a diff, which affects the approvals that refer to some requests. -/
def affectingPlan (diff : IntentVersionDiff) (requestIds : List Uuid) : RebasePlan :=
  (planOf diff).enriched
    { status := .available
      affectedArtifacts := []
      affectedApprovals := requestIds.map approvalItem
      sideEffects := [] }

theorem affectingPlan_affected (diff : IntentVersionDiff) (requestIds : List Uuid) :
    computeAffectedApprovalIds (affectingPlan diff requestIds) = requestIds.map Uuid.display := by
  have hchanged : changedApprovals (affectingPlan diff requestIds) =
      requestIds.map approvalItem := by
    refine List.filter_eq_self.mpr fun item hitem => ?_
    obtain ⟨requestId, _, rfl⟩ := List.mem_map.mp hitem
    rfl
  rw [computeAffectedApprovalIds, hchanged, List.map_map]
  rfl

/-- The plan of a required constraint that is changed. -/
def retunedPlan : List Uuid → RebasePlan :=
  affectingPlan { constraints := { budget := [retunedConstraint .must] } }

theorem retunedPlan_high (requestIds : List Uuid) :
    (retunedPlan requestIds).riskTier = .high ∧ (retunedPlan requestIds).decisionClass = .C := by
  show (planOf { constraints := { budget := [retunedConstraint .must] } }).riskTier = .high ∧
    (planOf { constraints := { budget := [retunedConstraint .must] } }).decisionClass = .C
  decide +kernel

/-- A required policy that is changed. -/
def changedPolicy : ConstraintDiff where
  changeType := .modified
  before := some ⟨some 9, .policy, "retention_days", .lte, .number (.posInt 30), none, .must⟩
  after := some ⟨some 9, .policy, "retention_days", .lte, .number (.posInt 60), none, .must⟩
  clauseId := some 9
  constraintType := .policy
  key := "retention_days"

/-- The plan of a required policy that is changed. -/
def policyPlan : List Uuid → RebasePlan :=
  affectingPlan { constraints := { policy := [changedPolicy] } }

theorem policyPlan_critical (requestIds : List Uuid) :
    (policyPlan requestIds).riskTier = .critical ∧ (policyPlan requestIds).decisionClass = .E := by
  show (planOf { constraints := { policy := [changedPolicy] } }).riskTier = .critical ∧
    (planOf { constraints := { policy := [changedPolicy] } }).decisionClass = .E
  decide +kernel

/-- A state in which previews answer one plan. -/
def appliedState (plan : RebasePlan) (rlsPool : Bool) : RebaseApplyState GraphState Unit where
  service := appliedService
  computeRebasePreviewWithGraph _ _ _ _ := .ok plan
  orchestrator := RebaseOrchestrator.sampleOrchestrator
  rlsPool := rlsPool
  signals := none

/-- A call that draws the identifier 30 and meets the given failures. -/
def appliedRun (approvalFaults : ApprovalFaults) : RebaseApplyRun where
  now := 3
  approvalFaults := approvalFaults
  draws := {
    id := 30
    createdAt := 4
    txScan := .id _
    txTargetedAt := 5
    txFlatAt := 6
    scan := .id _
    targetedAt := 5
    flatAt := 6 }
  proceedFaults := .quiet

theorem appliedState_planned (plan : RebasePlan) (rlsPool : Bool) (graph : GraphState) :
    ∃ intentHead fromVersion toVersion, intentHead.intent.tenantId = 5 ∧
      PlannedApply (appliedState plan rlsPool) 7 ⟨1, 2⟩ (some sampleClaims) graph intentHead
        fromVersion toVersion plan := by
  refine ⟨_, _, _, ?_, rfl, ?_, rfl, rfl, rfl⟩
  · rfl
  · rintro _ ⟨⟩
    rfl

theorem appliedState_blocked (requestIds : List Uuid) (rlsPool : Bool) :
    ∃ reason, (appliedState (retunedPlan requestIds) rlsPool).orchestrator.evaluateApply
      (retunedPlan requestIds) = .blocked reason := by
  obtain ⟨htier, hclass⟩ := retunedPlan_high requestIds
  rw [RebaseOrchestrator.evaluateApply, htier, hclass]
  exact ⟨_, rfl⟩

/-- A request of the intent in some status. -/
def storedRequest (id : Uuid) (status : ApprovalRequestStatus) : ApprovalRequest :=
  { ApprovalRequest.newPending id 0 7 1 2 2 5 "user" "external-api" "C" "Retuned" with status }

/-- A table of requests. -/
def requestTable (requests : List ApprovalRequest) : SqlxApprovalRequestRepository :=
  ⟨requests.foldr (fun request m => m.insert request.id request) ∅⟩

theorem requestTable_sound (requests : List ApprovalRequest) :
    (ApprovalStorage.sqlx (requestTable requests)).Sound := by
  refine ⟨?_, fun repo h => by cases h⟩
  induction requests with
  | nil =>
    intro id request h
    cases h
  | cons first rest ih =>
    intro id request h
    have hlookup : ((requestTable rest).rows.insert first.id first).lookup id = some request := h
    rw [lookup_insert_eq] at hlookup
    split at hlookup
    · next hid =>
      cases hlookup
      exact hid.symm
    · exact ih id request hlookup

/-- Two approved requests and a pending one. -/
def appliedWorld : RebaseApplyWorld GraphState Unit where
  world := ⟨.empty, []⟩
  approvals := .sqlx (requestTable [storedRequest 31 .approved, storedRequest 32 .approved,
    storedRequest 33 .pending])
  propagation := ()

/-- Reads the identifiers that are shown. -/
noncomputable def readDisplayed (text : String) : Except String Uuid :=
  .ok (Function.invFun Uuid.display text)

theorem readDisplayed_display (id : Uuid) : readDisplayed id.display = .ok id :=
  congrArg Except.ok (Function.leftInverse_invFun Uuid.display_injective id)

theorem named_iff {diff : IntentVersionDiff} {requestIds : List Uuid} {id : Uuid} :
    id.display ∈ computeAffectedApprovalIds (affectingPlan diff requestIds) ↔ id ∈ requestIds := by
  rw [affectingPlan_affected, List.mem_map_of_injective Uuid.display_injective]

/-- With a pool, a plan that names one of two approved requests. -/
theorem blockedApply_cancels_named :
    ∃ new response w',
      (rebaseApply readDisplayed (appliedState (retunedPlan [31]) true) (appliedRun .quiet) 7 ⟨1, 2⟩
        (some sampleClaims)).on appliedWorld = (.ok (.accepted, response), w') ∧
      ReviewRequested (CancelledByReview (retunedPlan [31]) appliedWorld.approvals.requests 7 5) new
        appliedWorld.approvals.requests w'.approvals.requests := by
  obtain ⟨intentHead, fromVersion, toVersion, htenant, hplanned⟩ :=
    appliedState_planned (retunedPlan [31]) true appliedWorld.world.graph
  obtain ⟨reason, hblocked⟩ := appliedState_blocked [31] true
  have hquiet : (appliedRun .quiet).approvalFaults = .quiet := rfl
  have hnames : NamesApproved (retunedPlan [31]) appliedWorld.approvals.requests 7 5 := by
    constructor
    · intro id request _ _ _
      rw [retunedPlan, affectingPlan_affected]
      exact List.count_le_length
    · intro id request hlookup _ _ hnamed
      obtain rfl := List.mem_singleton.mp (named_iff.mp hnamed)
      obtain rfl : storedRequest 31 .approved = request := Option.some.inj hlookup
      rfl
  obtain ⟨response, w', hrun, hrequested⟩ := blockedApply_cancels readDisplayed_display hplanned
    hblocked hquiet (requestTable_sound _) rfl (named_iff.not.mpr (by decide)) fun _ => htenant ▸ hnames
  rw [htenant] at hrequested
  exact ⟨_, response, w', hrun, hrequested⟩

/-- The requests that are named where the graph has data and names an approved one, and all the
approved requests of the intent elsewhere. -/
def NamedOrAll (plan : RebasePlan) (requests : HashMap Uuid ApprovalRequest)
    (intentId tenantId : Uuid) (request : ApprovalRequest) : Prop :=
  ApprovalStorage.Approved intentId tenantId request ∧
    ((plan.affectedItems.status = .available ∧ ∃ id stored, requests.lookup id = some stored ∧
        ApprovalStorage.Approved intentId tenantId stored ∧
        id.display ∈ computeAffectedApprovalIds plan) →
      request.id.display ∈ computeAffectedApprovalIds plan)

/-- A plan of class E that names one of two approved requests has both cancelled. -/
theorem blockedApply_cancels_unnamed :
    ¬ ∀ (parseStr : String → Except String Uuid) (state : RebaseApplyState GraphState Unit)
        (run : RebaseApplyRun) (intentId : Uuid) (request : DiffRequest)
        (claims : Option RlsTenantClaims) (w w' : RebaseApplyWorld GraphState Unit)
        (intentHead : IntentHeadResponse) (fromVersion toVersion : IntentVersion)
        (plan : RebasePlan) (reason : String) (response : RebaseApplyResponse),
      (∀ id : Uuid, parseStr id.display = .ok id) →
      PlannedApply state intentId request claims w.world.graph intentHead fromVersion toVersion
        plan →
      state.orchestrator.evaluateApply plan = .blocked reason →
      run.approvalFaults = .quiet → w.approvals.Sound →
      w.approvals.requests.lookup run.draws.id = none →
      run.draws.id.display ∉ computeAffectedApprovalIds plan →
      (rebaseApply parseStr state run intentId request claims).on w =
        (.ok (.accepted, response), w') →
      ReviewRequested (NamedOrAll plan w.approvals.requests intentId intentHead.intent.tenantId)
        (.newPending run.draws.id run.draws.createdAt intentId request.fromVersion request.toVersion
          intentHead.intent.workflowId intentHead.intent.tenantId rebaseApplyActor "external-api"
          plan.decisionClass.debug reason)
        w.approvals.requests w'.approvals.requests := by
  intro h
  let plan := policyPlan [31]
  have hnew : (30 : Uuid).display ∉ computeAffectedApprovalIds plan := named_iff.not.mpr (by decide)
  obtain ⟨intentHead, fromVersion, toVersion, htenant, hplanned⟩ :=
    appliedState_planned plan false appliedWorld.world.graph
  obtain ⟨htier, hclass⟩ := policyPlan_critical [31]
  obtain ⟨reason, hblocked⟩ :
      ∃ reason, (appliedState plan false).orchestrator.evaluateApply plan = .blocked reason := by
    rw [RebaseOrchestrator.evaluateApply, htier, hclass]
    exact ⟨_, rfl⟩
  obtain ⟨response, hrun⟩ := rebaseApply_blocked readDisplayed (appliedRun .quiet) hplanned hblocked
  have hsound : appliedWorld.approvals.Sound := requestTable_sound _
  have hclaimed := h _ _ (appliedRun .quiet) 7 ⟨1, 2⟩ _ appliedWorld _ intentHead fromVersion
    toVersion plan reason response readDisplayed_display hplanned hblocked rfl hsound rfl hnew hrun
  have hnot : ¬ CancelsNamed plan appliedWorld.approvals.requests 7 5 := fun hnames =>
    hnames.notE hclass
  have hpending : (reviewRequest (appliedRun .quiet) 7 ⟨1, 2⟩ intentHead.intent plan
    (blockedResult reason)).status = .pending := rfl
  have howner (rlsClaims : RlsTenantClaims) (hclaims : some sampleClaims = some rlsClaims) :
      rlsClaims.tenantId = 5 := by
    cases hclaims
    rfl
  have hdone := requestReview_requests readDisplayed_display (appliedRun .quiet).draws 7 5 hpending
    hnew htenant false howner hsound rfl fun hnames => absurd hnames hnot
  obtain ⟨now, cancelled, hcancelled⟩ := hdone.cancelled 32 (storedRequest 32 .approved) rfl
    ⟨⟨rfl, rfl, rfl⟩, fun hnames => absurd hnames hnot⟩
  have hkept := hclaimed.kept 32 (storedRequest 32 .approved) rfl fun hselected => by
    have hnamed : (32 : Uuid).display ∉ computeAffectedApprovalIds plan :=
      named_iff.not.mpr (by decide)
    refine hnamed (hselected.2 ⟨rfl, 31, storedRequest 31 .approved, rfl, ?_, ?_⟩)
    · exact ⟨rfl, htenant.symm, rfl⟩
    · exact named_iff.mpr (by decide)
  rw [← htenant] at hcancelled
  cases hcancelled.symm.trans hkept

end Sample

end Blocked

end IntentRebase
