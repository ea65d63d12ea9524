import IntentRebase.Orchestrator.Replay

/-! Which stored checkpoint a plan or a replay resumes from: what each strategy selects from the
lists that it reads, and when a checkpoint that is past its use can be selected. -/

namespace IntentRebase

open Kit

/-- The status of a checkpoint that can still be resumed from. -/
def CheckpointStatus.IsUsable (status : CheckpointStatus) : Prop :=
  status ≠ .superseded ∧ status ≠ .expired ∧ status ≠ .invalidated

instance (status : CheckpointStatus) : Decidable status.IsUsable :=
  inferInstanceAs (Decidable (_ ∧ _ ∧ _))

section MaxByKey

variable {α : Type} {key : α → Int}

/-- The search for a greatest key from a first element on. -/
theorem foldl_greatest (key : α → Int) (items : List α) (first : α) :
    ∃ a, items.foldl (fun best item =>
        match best with
        | none => some item
        | some b => if key b ≤ key item then some item else some b) (some first) = some a ∧
      key first ≤ key a ∧ ∀ b ∈ items, key b ≤ key a := by
  induction items generalizing first with
  | nil => exact ⟨first, rfl, le_refl _, by simp⟩
  | cons item rest ih =>
    rw [List.foldl_cons]
    dsimp only
    split
    · next hle =>
      obtain ⟨a, hfold, hitem, hrest⟩ := ih item
      exact ⟨a, hfold, hle.trans hitem, List.forall_mem_cons.mpr ⟨hitem, hrest⟩⟩
    · next hgt =>
      obtain ⟨a, hfold, hfirst, hrest⟩ := ih first
      exact ⟨a, hfold, hfirst, List.forall_mem_cons.mpr ⟨by omega, hrest⟩⟩

theorem maxByKey_eq_none {items : List α} : maxByKey key items = none ↔ items = [] := by
  cases items with
  | nil => exact iff_of_true rfl rfl
  | cons item rest =>
    obtain ⟨a, hfold, -⟩ := foldl_greatest key rest item
    exact iff_of_false (fun h => by cases hfold.symm.trans h) (List.cons_ne_nil item rest)

theorem le_maxByKey {items : List α} {a b : α} (h : maxByKey key items = some a) (hb : b ∈ items) :
    key b ≤ key a := by
  cases items with
  | nil => cases hb
  | cons item rest =>
    obtain ⟨a', hfold, hitem, hrest⟩ := foldl_greatest key rest item
    obtain rfl : a = a' := Option.some.inj (h.symm.trans hfold)
    rcases List.mem_cons.mp hb with rfl | hb
    · exact hitem
    · exact hrest b hb

end MaxByKey

/-- A checkpoint of a list than which none in it was created later. -/
structure IsLatest (checkpoints : List Checkpoint) (c : Checkpoint) : Prop where
  mem : c ∈ checkpoints
  latest : ∀ c' ∈ checkpoints, c'.createdAt ≤ c.createdAt

theorem isLatest_maxByKey {checkpoints : List Checkpoint} {c : Checkpoint}
    (h : maxByKey Checkpoint.createdAt checkpoints = some c) : IsLatest checkpoints c :=
  ⟨maxByKey_mem h, fun _ => le_maxByKey h⟩

/-- The selection from the list of a workflow: a latest active checkpoint, and where none is active
the first one of the list, whatever its status. -/
inductive BestEffortChoice (ofWorkflow : List Checkpoint) : Option Checkpoint → Prop
  | active {c : Checkpoint} (h : IsLatest (ofWorkflow.filter fun c => c.status = .active) c) :
      BestEffortChoice ofWorkflow (some c)
  | anyStatus (h : ∀ c ∈ ofWorkflow, c.status ≠ .active) :
      BestEffortChoice ofWorkflow ofWorkflow.head?

/-- The selection of a latest checkpoint of the intent, whatever its status, and where it has none
from the list of the workflow. -/
inductive MostRecentChoice (ofIntent ofWorkflow : List Checkpoint) : Option Checkpoint → Prop
  | latest {c : Checkpoint} (h : IsLatest ofIntent c) :
      MostRecentChoice ofIntent ofWorkflow (some c)
  | bestEffort {selected : Option Checkpoint} (hnone : ofIntent = [])
      (h : BestEffortChoice ofWorkflow selected) : MostRecentChoice ofIntent ofWorkflow selected

/-- The active and the created checkpoints that a candidate names, all of them if it asks for the
most recent one. -/
def CheckpointCandidate.matching (candidate : CheckpointCandidate)
    (ofWorkflow : List Checkpoint) : List Checkpoint :=
  (ofWorkflow.filter fun c =>
      containsText c.checkpointId.display candidate.id || containsText candidate.id "most-recent")
    |>.filter fun c => c.status = .active || c.status = .created

/-- The candidate that a plan resumes from, if its selection is ready and has one among others. -/
def RebasePlan.selectedCandidate (plan : RebasePlan) : Option CheckpointCandidate :=
  let selection := plan.deferred.checkpointSelection
  if selection.ready && !selection.candidates.isEmpty then selection.selected else none

/-- The selection for a plan: none for class A; for another class by its candidate, where it has
one, and with best effort where it has none. -/
inductive AlignChoice (plan : RebasePlan) (ofIntent ofWorkflow : List Checkpoint) :
    Option Checkpoint → Prop
  | notRequired (hclass : plan.decisionClass = .A) : AlignChoice plan ofIntent ofWorkflow none
  | bestEffort {selected : Option Checkpoint} (hclass : plan.decisionClass ≠ .A)
      (hselected : plan.selectedCandidate = none) (h : BestEffortChoice ofWorkflow selected) :
      AlignChoice plan ofIntent ofWorkflow selected
  | candidate {candidate : CheckpointCandidate} {c : Checkpoint} (hclass : plan.decisionClass ≠ .A)
      (hselected : plan.selectedCandidate = some candidate)
      (h : IsLatest (candidate.matching ofWorkflow) c) :
      AlignChoice plan ofIntent ofWorkflow (some c)
  | mostRecent {candidate : CheckpointCandidate} {selected : Option Checkpoint}
      (hclass : plan.decisionClass ≠ .A) (hselected : plan.selectedCandidate = some candidate)
      (hnone : candidate.matching ofWorkflow = [])
      (h : MostRecentChoice ofIntent ofWorkflow selected) :
      AlignChoice plan ofIntent ofWorkflow selected

namespace CheckpointAligner

variable {repo : CheckpointRepository} {intentId tenantId workflowId : Uuid}
  {ofIntent ofWorkflow : List Checkpoint} {aligned : AlignedCheckpoint}

theorem alignBestEffort_choice
    (hworkflow : repo.listByWorkflow workflowId tenantId = .ok ofWorkflow)
    {selection : CheckpointSelection}
    (h : alignBestEffort repo selection intentId tenantId workflowId = .ok aligned) :
    BestEffortChoice ofWorkflow aligned.checkpoint := by
  rw [alignBestEffort, hworkflow] at h
  change (if ofWorkflow.isEmpty then _ else _) = _ at h
  split at h
  · next hempty =>
    cases h
    rw [List.isEmpty_iff.mp hempty]
    exact .anyStatus (by simp)
  · split at h
    · next c hactive =>
      cases h
      exact .active (isLatest_maxByKey hactive)
    · next hnone =>
      have hinactive : ∀ c ∈ ofWorkflow, c.status ≠ .active := by
        simpa [List.filter_eq_nil_iff] using maxByKey_eq_none.mp hnone
      have hchoice := BestEffortChoice.anyStatus hinactive
      split at h
      · next c hhead =>
        cases h
        exact hhead ▸ hchoice
      · next hhead =>
        cases h
        exact hhead ▸ hchoice

theorem alignMostRecent_choice (hintent : repo.listByIntent intentId tenantId = .ok ofIntent)
    (hworkflow : repo.listByWorkflow workflowId tenantId = .ok ofWorkflow)
    (h : alignMostRecent repo intentId tenantId workflowId = .ok aligned) :
    MostRecentChoice ofIntent ofWorkflow aligned.checkpoint := by
  rw [alignMostRecent, hintent] at h
  change (if ofIntent.isEmpty then _ else _) = _ at h
  split at h
  · next hempty =>
    exact .bestEffort (List.isEmpty_iff.mp hempty) (alignBestEffort_choice hworkflow h)
  · next hsome =>
    split at h
    · next c hlatest =>
      cases h
      exact .latest (isLatest_maxByKey hlatest)
    · next hnone =>
      rw [maxByKey_eq_none.mp hnone] at hsome
      exact absurd rfl hsome

/-- A candidate selects a latest of the checkpoints that it names, if it names one in use. -/
theorem alignCandidate_choice {plan : RebasePlan} {candidate : CheckpointCandidate}
    (hclass : plan.decisionClass ≠ .A) (hselected : plan.selectedCandidate = some candidate)
    (hintent : repo.listByIntent intentId tenantId = .ok ofIntent)
    (hworkflow : repo.listByWorkflow workflowId tenantId = .ok ofWorkflow)
    (h : alignCandidate repo candidate intentId tenantId workflowId = .ok aligned) :
    AlignChoice plan ofIntent ofWorkflow aligned.checkpoint := by
  rw [alignCandidate, hworkflow] at h
  change (if (candidate.matching ofWorkflow).isEmpty then _ else _) = _ at h
  split at h
  · next hempty =>
    exact .mostRecent hclass hselected (List.isEmpty_iff.mp hempty)
      (alignMostRecent_choice hintent hworkflow h)
  · next hsome =>
    split at h
    · next c hone =>
      cases h
      have hmatching : candidate.matching ofWorkflow = [c] := hone
      exact .candidate hclass hselected ⟨by simp [hmatching], by simp [hmatching]⟩
    · split at h
      · next c hlatest =>
        cases h
        exact .candidate hclass hselected (isLatest_maxByKey hlatest)
      · next hnone =>
        have hmatching : candidate.matching ofWorkflow = [] := maxByKey_eq_none.mp hnone
        rw [hmatching] at hsome
        exact absurd rfl hsome

theorem align_choice {plan : RebasePlan}
    (hintent : repo.listByIntent intentId tenantId = .ok ofIntent)
    (hworkflow : repo.listByWorkflow workflowId tenantId = .ok ofWorkflow)
    (h : align repo plan intentId tenantId workflowId = .ok aligned) :
    AlignChoice plan ofIntent ofWorkflow aligned.checkpoint := by
  unfold align at h
  dsimp only at h
  split at h
  · next hclass =>
    cases h
    exact .notRequired hclass
  next hclass =>
  have hbestEffort (hnone : plan.selectedCandidate = none)
      (h : alignBestEffort repo plan.deferred.checkpointSelection intentId tenantId workflowId =
        .ok aligned) : AlignChoice plan ofIntent ofWorkflow aligned.checkpoint :=
    .bestEffort hclass hnone (alignBestEffort_choice hworkflow h)
  split at h
  · next hready =>
    refine hbestEffort (if_neg fun hboth => ?_) h
    rw [(Bool.and_eq_true_iff.mp hboth).1] at hready
    cases hready
  next hready =>
  split at h
  · next hempty =>
    refine hbestEffort (if_neg fun hboth => ?_) h
    have hnonempty := (Bool.and_eq_true_iff.mp hboth).2
    rw [hempty] at hnonempty
    cases hnonempty
  next hempty =>
  have hcandidate : plan.selectedCandidate = plan.deferred.checkpointSelection.selected :=
    if_pos (by simpa using And.intro hready hempty)
  split at h
  · next candidate hselected =>
    exact alignCandidate_choice hclass (hcandidate.trans hselected) hintent hworkflow h
  · next hselected => exact hbestEffort (hcandidate.trans hselected) h

end CheckpointAligner

/-- A replay that names no checkpoint falls back to one of its workflow. -/
theorem RebaseOrchestrator.replayCheckpoint_choice {γ : Type} {o : RebaseOrchestrator γ}
    {params : ReplayParams} {ofWorkflow : List Checkpoint} {aligned : AlignedCheckpoint}
    (hworkflow : o.checkpointService.listByWorkflow params.workflowId params.tenantId =
      .ok ofWorkflow)
    (hnamed : params.checkpointId = none) (h : o.replayCheckpoint params = .ok aligned) :
    BestEffortChoice ofWorkflow aligned.checkpoint := by
  rw [replayCheckpoint, hnamed] at h
  dsimp only at h
  rw [hworkflow] at h
  dsimp only [bind, Except.bind] at h
  split at h
  · next c hactive =>
    cases h
    exact .active (isLatest_maxByKey hactive)
  · next hnone =>
    have hinactive : ∀ c ∈ ofWorkflow, c.status ≠ .active := by
      simpa [List.filter_eq_nil_iff] using maxByKey_eq_none.mp hnone
    have hchoice := BestEffortChoice.anyStatus hinactive
    split at h
    · next c hhead =>
      cases h
      exact hhead ▸ hchoice
    · next hhead =>
      cases h
      exact hhead ▸ hchoice

section Usable

variable {ofIntent ofWorkflow : List Checkpoint} {c : Checkpoint}

/-- The selection from a workflow's list can be resumed from, unless none of the list is active. -/
theorem BestEffortChoice.usable_or_first (h : BestEffortChoice ofWorkflow (some c)) :
    c.status.IsUsable ∨ (∀ c' ∈ ofWorkflow, c'.status ≠ .active) ∧ ofWorkflow.head? = some c := by
  generalize hselected : some c = selected at h
  cases h with
  | active hlatest =>
    cases hselected
    have hactive : c.status = .active := by simpa using List.of_mem_filter hlatest.mem
    exact .inl (by rw [hactive]; decide)
  | anyStatus hnone => exact .inr ⟨hnone, rfl⟩

theorem CheckpointCandidate.usable_of_matching {candidate : CheckpointCandidate}
    (h : c ∈ candidate.matching ofWorkflow) : c.status.IsUsable := by
  have hstatus : c.status = .active ∨ c.status = .created := by
    simpa using List.of_mem_filter h
  rcases hstatus with hactive | hcreated
  · rw [hactive]
    decide
  · rw [hcreated]
    decide

/-- The selection for a plan can be resumed from, unless none of the workflow's list is active, or
the candidate names none in use and a latest checkpoint of the intent is taken. -/
theorem AlignChoice.usable_or_fallback {plan : RebasePlan}
    (h : AlignChoice plan ofIntent ofWorkflow (some c)) :
    c.status.IsUsable ∨
    (∀ c' ∈ ofWorkflow, c'.status ≠ .active) ∧ ofWorkflow.head? = some c ∨
    IsLatest ofIntent c ∧
      ∃ candidate, plan.selectedCandidate = some candidate ∧ candidate.matching ofWorkflow = [] := by
  generalize hselected : some c = selected at h
  cases h with
  | notRequired => cases hselected
  | bestEffort _ _ hchoice =>
    subst hselected
    exact hchoice.usable_or_first.imp id .inl
  | candidate _ _ hlatest =>
    cases hselected
    exact .inl (CheckpointCandidate.usable_of_matching hlatest.mem)
  | mostRecent _ hcandidate hnone hchoice =>
    cases hchoice with
    | latest hlatest =>
      cases hselected
      exact .inr (.inr ⟨hlatest, _, hcandidate, hnone⟩)
    | bestEffort _ hchoice =>
      subst hselected
      exact hchoice.usable_or_first.imp id .inl

end Usable

section Sample

open RebaseOrchestrator

/-- A plan without a checkpoint selection. -/
def unselectedPlan : RebasePlan where
  decisionClass := .B
  sectionDecisions := []
  affectedItems := .unavailable
  deferred := .phase1Baseline .B .unavailable
  manualReviewRecommended := false
  riskTier := .low
  riskLevel := 0

/-- A repository with one checkpoint. -/
def checkpointAlone (c : Checkpoint) : CheckpointRepository where
  getCheckpoint _ := .ok c
  listByWorkflow _ _ := .ok [c]
  listByIntent _ _ := .ok [c]
  asSqlxRepo := none

end Sample

end IntentRebase
