import IntentRebase.Intent.ApprovalStorage
import IntentRebase.Orchestrator.Rebase

/-! The helpers that the handlers share: the labels of outcomes, and the cancellations of approved
requests, which do not fail. -/

namespace IntentRebase

open Kit

/-- The status of an answer. -/
inductive StatusCode where
  | ok | created | accepted
deriving DecidableEq, Repr

def applyStatusCode : ApplyOutcome → StatusCode
  | .blockedManualReview => .accepted
  | .noOp | .autoProceeded | .autoProceededWithNotification => .ok

def applyOutcomeLabel : ApplyOutcome → String
  | .noOp => "no_op"
  | .autoProceeded => "auto_proceeded"
  | .autoProceededWithNotification => "auto_proceeded_with_notification"
  | .blockedManualReview => "blocked_manual_review"

def checkpointAlignmentLabel : CheckpointAlignmentOutcome → String
  | .aligned => "aligned"
  | .closestMatch => "closest_match"
  | .noCheckpointRequired => "no_checkpoint_required"
  | .noCheckpointFound => "no_checkpoint_found"
  | .multipleCandidates => "multiple_candidates"

/-- Only a blocked apply is accepted without being done. -/
theorem applyStatusCode_eq_accepted {outcome : ApplyOutcome} :
    applyStatusCode outcome = .accepted ↔ outcome = .blockedManualReview := by
  cases outcome <;> simp [applyStatusCode]

/-- A call that only cancels does so too if it meets a failure. -/
theorem meet_mayCancel {α : Type} {selected : ApprovalRequest → Prop} {s : ApprovalStorage}
    {answer : Except IntentRebaseError α × ApprovalStorage}
    (fault : Option (Fault IntentRebaseError))
    (h : MayCancel selected s.requests answer.2.requests) :
    MayCancel selected s.requests (Fault.meet fault s answer).2.requests := by
  rcases Fault.meet_state fault s answer with ⟨_, _, hstate⟩ | ⟨_, hstate⟩
  · rw [hstate]
    exact .refl _ _
  · rw [hstate]
    exact h

section Cancellations

variable (fault : Option (Fault IntentRebaseError)) (now : DateTime)

/-- The approved requests of an intent are cancelled. An error counts as none. -/
def cancelExistingApprovedAndAudit (intentId tenantId : Uuid) (actorId : String)
    (newApprovalId : Uuid) (s : ApprovalStorage) : Nat × ApprovalStorage :=
  let cancellationReason :=
    s!"Superseded by new approval request {newApprovalId.display} due to rebase apply"
  match Fault.meet fault s
      (s.cancelApprovedByIntent now intentId tenantId actorId cancellationReason) with
  | (.ok count, s) => (count, s)
  | (.error _, s) => (0, s)

structure CancelApprovalContext where
  intentId : Uuid
  tenantId : Uuid
  actorId : String
  newApprovalId : Uuid

/-- The identifiers that can be read; others are passed over. -/
def parseIds (parseStr : String → Except String Uuid) (ids : List String) : List Uuid :=
  ids.filterMap fun id => (parseStr id).toOption

/-- The approved requests among those named are cancelled. An error counts as none. -/
def cancelSpecificApprovedAndAudit (parseStr : String → Except String Uuid)
    (staleIds : List String) (ctx : CancelApprovalContext) (s : ApprovalStorage) :
    Nat × ApprovalStorage :=
  if staleIds.isEmpty then (0, s)
  else
    let parsedIds := parseIds parseStr staleIds
    if parsedIds.isEmpty then (0, s)
    else
      let cancellationReason :=
        s!"Superseded by new approval request {ctx.newApprovalId.display} " ++
          "due to rebase apply (targeted cancellation)"
      match Fault.meet fault s
          (s.cancelApprovedByIds now parsedIds ctx.tenantId ctx.actorId cancellationReason) with
      | (.ok count, s) => (count, s)
      | (.error _, s) => (0, s)

variable (s : ApprovalStorage)

/-- With any failure, only approved requests of the tenant are cancelled. -/
theorem cancelExistingApprovedAndAudit_mayCancel (intentId tenantId : Uuid) (actorId : String)
    (newApprovalId : Uuid) :
    MayCancel (ApprovalStorage.ApprovedOf tenantId) s.requests
      (cancelExistingApprovedAndAudit fault now intentId tenantId actorId newApprovalId
        s).2.requests := by
  rw [cancelExistingApprovedAndAudit]
  have hcancel := s.cancelApprovedByIntent_mayCancel now actorId
    s!"Superseded by new approval request {newApprovalId.display} due to rebase apply" intentId
    tenantId
  have hmet := meet_mayCancel fault hcancel
  split <;> next hanswer => rw [hanswer] at hmet; exact hmet

theorem cancelSpecificApprovedAndAudit_mayCancel (parseStr : String → Except String Uuid)
    (staleIds : List String) (ctx : CancelApprovalContext) :
    MayCancel (ApprovalStorage.ApprovedOf ctx.tenantId) s.requests
      (cancelSpecificApprovedAndAudit fault now parseStr staleIds ctx s).2.requests := by
  rw [cancelSpecificApprovedAndAudit]
  split
  · exact .refl _ _
  dsimp only
  split
  · exact .refl _ _
  have hcancel := s.cancelApprovedByIds_mayCancel now ctx.actorId
    (s!"Superseded by new approval request {ctx.newApprovalId.display} " ++
      "due to rebase apply (targeted cancellation)") (parseIds parseStr staleIds) ctx.tenantId
  have hmet := meet_mayCancel fault hcancel
  split <;> next hanswer => rw [hanswer] at hmet; exact hmet

/-- Without a failure, the approved requests of the intent are cancelled. -/
theorem cancelExistingApprovedAndAudit_cancels (intentId tenantId : Uuid) (actorId : String)
    (newApprovalId : Uuid) :
    CancelsWhere actorId (ApprovalStorage.Approved intentId tenantId) s.requests
      (cancelExistingApprovedAndAudit none now intentId tenantId actorId newApprovalId s).2.requests
      := by
  obtain ⟨count, s', hcancel, hcancels⟩ := s.cancelApprovedByIntent_cancels now actorId
    s!"Superseded by new approval request {newApprovalId.display} due to rebase apply" intentId
    tenantId
  rw [cancelExistingApprovedAndAudit, Fault.meet, hcancel]
  exact hcancels

variable {s}

/-- Without a failure, the approved requests among those that can be read are cancelled and
counted. -/
theorem cancelSpecificApprovedAndAudit_cancels (hs : s.Sound)
    {parseStr : String → Except String Uuid} {staleIds : List String}
    (hread : parseIds parseStr staleIds ≠ []) (ctx : CancelApprovalContext) :
    ∃ s', cancelSpecificApprovedAndAudit none now parseStr staleIds ctx s =
        (countWhere s.requests (approvedAmong (parseIds parseStr staleIds) ctx.tenantId), s') ∧
      CancelsWhere ctx.actorId
        (fun request =>
          approvedAmong (parseIds parseStr staleIds) ctx.tenantId request.id request = true)
        s.requests s'.requests := by
  have hstale : staleIds ≠ [] := by
    rintro rfl
    exact hread rfl
  obtain ⟨s', hcancel, hcancels⟩ := hs.cancelApprovedByIds_cancels now ctx.actorId
    (s!"Superseded by new approval request {ctx.newApprovalId.display} " ++
      "due to rebase apply (targeted cancellation)") (parseIds parseStr staleIds) ctx.tenantId
  refine ⟨s', ?_, hcancels⟩
  rw [cancelSpecificApprovedAndAudit, if_neg (by simpa using hstale)]
  dsimp only
  rw [if_neg (by simpa using hread), Fault.meet, hcancel]

end Cancellations

end IntentRebase
