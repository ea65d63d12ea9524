import Mathlib.Data.List.Perm.Basic
import IntentRebase.Compensation.SqlxRepository

/-! The in-memory and the SQL repository of compensation actions with the same contents: what an
update changes in each, and when their listings and their reapprovals agree. -/

namespace IntentRebase

open Kit ActionRepo

/-- Two errors of one kind. -/
def IntentRebaseError.SameKind (e e' : IntentRebaseError) : Prop := e.ctorIdx = e'.ctorIdx

/-- Both return the same value, or errors of one kind. -/
inductive SameResult {α : Type} : Except IntentRebaseError α → Except IntentRebaseError α → Prop
  | ok (a : α) : SameResult (.ok a) (.ok a)
  | error {e e' : IntentRebaseError} (h : e.SameKind e') : SameResult (.error e) (.error e')

/-- The table has a row for each stored action, and no other. -/
def SameContents (s : InMemoryCompensationActionRepository) (table : ActionTable) : Prop :=
  ∀ id, table.lookup id = (s.actions.lookup id).map .ofAction

/-- The limit of the SQL listing is not negative and cuts no more than the caller's, and no two
actions of one time are among those listed. -/
structure ListsAlike (limit : Option Nat) (actions : List CompensationAction) : Prop where
  nonneg : 0 ≤ asI32 (limit.getD 100)
  length : min (asI32 (limit.getD 100)).toNat actions.length =
    min (limit.getD actions.length) actions.length
  settled : Settled CompensationAction.generatedAt (asI32 (limit.getD 100)).toNat actions

section Updates

variable {s : InMemoryCompensationActionRepository} {table : ActionTable}

theorem SameResult.refl {α : Type} (r : Except IntentRebaseError α) : SameResult r r := by
  cases r with
  | ok a => exact .ok a
  | error e => exact .error rfl

theorem sameResult_ok {α : Type} {a b : α} :
    SameResult (.ok a : Except IntentRebaseError α) (.ok b) ↔ a = b := by
  constructor
  · intro h
    cases h
    rfl
  · rintro rfl
    exact .ok a

theorem SameContents.get (h : SameContents s table) (actionId : Uuid) :
    SqlxCompensationActionRepository.get table actionId = s.get actionId := by
  rw [SqlxCompensationActionRepository.get, h actionId, InMemoryCompensationActionRepository.get]
  cases s.actions.lookup actionId with
  | none => rfl
  | some action => exact rowToAction_ofAction action

/-- The same change of one stored action keeps the contents the same. -/
theorem SameContents.insert (h : SameContents s table) (actionId : Uuid)
    (action : CompensationAction) {s' : InMemoryCompensationActionRepository}
    (hs' : s'.actions = s.actions.insert actionId action) :
    SameContents s' (table.insert actionId (.ofAction action)) := by
  intro id
  rw [hs', lookup_insert_eq, lookup_insert_eq]
  split
  · rfl
  · exact h id

end Updates

section Changes

variable (now : DateTime) (newStatus : CompensationStatus) (approvedBy waivedBy : Option String)
  (result : ExecutionResult) (executedBy : Option String) (action : CompensationAction)

/-- The action with the columns that the SQL update of the status sets. -/
def statusSet : CompensationAction :=
  { action with
    status := newStatus
    lockVersion := action.lockVersion + 1
    approvedAt := if newStatus = .approved then some now else action.approvedAt
    waivedAt := if newStatus = .waived then some now else action.waivedAt
    executedAt := if newStatus = .executed then some now else action.executedAt
    failedAt := if newStatus = .failed then some now else action.failedAt
    approvedBy := approvedBy.or action.approvedBy
    waivedBy := waivedBy.or action.waivedBy }

/-- The action with the columns that the SQL recording of a result sets. -/
def resultSet : CompensationAction :=
  { action with
    status := if result.success then .executed else .failed
    attemptCount := action.attemptCount + 1
    lockVersion := action.lockVersion + 1
    executedAt := if result.success then some now else action.executedAt
    failedAt := if !result.success then some now else action.failedAt
    executionResultPayload := some result
    executedBy := executedBy.or action.executedBy }

theorem setStatus_ofAction :
    SqlxCompensationActionRepository.setStatus now newStatus approvedBy waivedBy
        (.ofAction action) =
      .ofAction (statusSet now newStatus approvedBy waivedBy action) := by
  cases newStatus <;> rfl

theorem setResult_ofAction :
    SqlxCompensationActionRepository.setResult now result executedBy (.ofAction action) =
      .ofAction (resultSet now result executedBy action) := rfl

end Changes

section Listings

variable {s : InMemoryCompensationActionRepository} {table : ActionTable}

/-- The table's rows are those of the stored actions. -/
theorem SameContents.rows_perm (h : SameContents s table) :
    ((pairs table).map Prod.snd).Perm (((pairs s.actions).map Prod.snd).map .ofAction) := by
  have hpairs : (pairs table).Perm
      ((pairs s.actions).map fun p => (p.1, ActionRow.ofAction p.2)) := by
    refine (List.perm_ext_iff_of_nodup (.of_map _ (nodup_pairs_keys table)) ?_).mpr ?_
    · apply List.Nodup.of_map Prod.fst
      rw [List.map_map]
      exact nodup_pairs_keys s.actions
    · rintro ⟨id, row⟩
      rw [mem_pairs, h id, Option.map_eq_some_iff, List.mem_map]
      constructor
      · rintro ⟨action, haction, rfl⟩
        exact ⟨(id, action), mem_pairs.mpr haction, rfl⟩
      · rintro ⟨⟨id', action⟩, hmem, heq⟩
        cases heq
        exact ⟨action, mem_pairs.mp hmem, rfl⟩
  refine (hpairs.map Prod.snd).trans (.of_eq ?_)
  rw [List.map_map, List.map_map]
  rfl

/-- The rows of a tenant are those of its actions. -/
theorem SameContents.tenantRows_perm (h : SameContents s table) (tenantId : Uuid) :
    (((pairs table).map Prod.snd).filter fun row => row.tenantId = tenantId).Perm
      ((s.select fun action => action.tenantId = tenantId).map .ofAction) := by
  refine (h.rows_perm.filter _).trans (.of_eq ?_)
  rw [List.filter_map]
  rfl

/-- What the SQL listing returns, given the order in which it reads the actions. -/
def readListing (limit : Option Nat) (read : List CompensationAction) :
    Except IntentRebaseError (List CompensationAction) :=
  if asI32 (limit.getD 100) < 0 then
    .error (.storageError "list compensation actions by tenant: LIMIT must not be negative")
  else
    .ok ((latestFirst CompensationAction.generatedAt read).take (asI32 (limit.getD 100)).toNat)

theorem listByTenant_read {scan : IterOrder ActionRow} {tenantId : Uuid}
    {read : List CompensationAction}
    (h : scan.apply (((pairs table).map Prod.snd).filter fun row => row.tenantId = tenantId) =
      read.map .ofAction) (limit : Option Nat) :
    SqlxCompensationActionRepository.listByTenant table scan tenantId limit =
      readListing limit read := by
  rw [SqlxCompensationActionRepository.listByTenant, readListing]
  dsimp only
  split
  · rfl
  · have hdecode : ∀ actions : List CompensationAction,
        (actions.map ActionRow.ofAction).mapM rowToAction = .ok actions := by
      intro actions
      have hpure : rowToAction ∘ ActionRow.ofAction = fun action => pure action :=
        funext rowToAction_ofAction
      rw [List.mapM_map, hpure, List.mapM_pure, List.map_id']
      rfl
    rw [h, latestFirst_map, ← List.map_take, hdecode]
    rfl

/-- The database may read a tenant's actions in any order, and reads them in some. -/
theorem SameContents.forall_listing (h : SameContents s table) (tenantId : Uuid)
    (limit : Option Nat)
    (p : Except IntentRebaseError (List CompensationAction) → Prop) :
    (∀ scan, p (SqlxCompensationActionRepository.listByTenant table scan tenantId limit)) ↔
      ∀ read, read.Perm (s.select fun action => action.tenantId = tenantId) →
        p (readListing limit read) := by
  constructor
  · intro hall read hread
    obtain ⟨scan, hscan⟩ := IterOrder.exists_apply
      ((hread.map ActionRow.ofAction).trans (h.tenantRows_perm tenantId).symm)
    rw [← listByTenant_read hscan]
    exact hall scan
  · intro hall scan
    have hperm := (scan.perm _).trans (h.tenantRows_perm tenantId)
    obtain ⟨read, hscan, hread⟩ :=
      (congrFun₂ (List.eq_map_comp_perm ActionRow.ofAction) _ _).mpr hperm
    rw [listByTenant_read hscan]
    exact hall read hread

/-- The in-memory listing sorts the tenant's actions as its index lists them, and cuts them at the
limit, if there is one. -/
theorem listByTenant_eq (hs : s.Consistent) (tenantId : Uuid) (limit : Option Nat) :
    ∃ listed, listed.Perm (s.select fun action => action.tenantId = tenantId) ∧
      s.listByTenant tenantId limit =
        .ok ((latestFirst CompensationAction.generatedAt listed).take
          (limit.getD (s.select fun action => action.tenantId = tenantId).length)) := by
  refine ⟨_, InMemoryCompensationActionRepository.tenantActions_perm hs tenantId, ?_⟩
  cases limit with
  | some l => rfl
  | none =>
    have hlength := ((latestFirst_perm CompensationAction.generatedAt _).trans
      (InMemoryCompensationActionRepository.tenantActions_perm hs tenantId)).length_eq
    rw [InMemoryCompensationActionRepository.listByTenant, Option.getD_none, ← hlength,
      List.take_length]

/-- The two listings agree whatever the order of the rows exactly if the limits cut alike and no
tie is listed. -/
theorem listing_iff (hs : s.Consistent) (h : SameContents s table) (tenantId : Uuid)
    (limit : Option Nat) :
    (∀ scan, SameResult (s.listByTenant tenantId limit)
        (SqlxCompensationActionRepository.listByTenant table scan tenantId limit)) ↔
      ListsAlike limit (s.select fun action => action.tenantId = tenantId) := by
  rw [h.forall_listing tenantId limit]
  obtain ⟨listed, hlisted, hlisting⟩ := listByTenant_eq hs tenantId limit
  rw [hlisting]
  generalize (s.select fun action => action.tenantId = tenantId) = actions at hlisted ⊢
  constructor
  · intro hall
    have hnonneg : 0 ≤ asI32 (limit.getD 100) := by
      by_contra hneg
      have hsame := hall actions (.refl actions)
      rw [readListing, if_pos (not_le.mp hneg)] at hsame
      cases hsame
    have htake : ∀ read, read.Perm actions →
        (latestFirst CompensationAction.generatedAt listed).take (limit.getD actions.length) =
          (latestFirst CompensationAction.generatedAt read).take
            (asI32 (limit.getD 100)).toNat := by
      intro read hread
      have hsame := hall read hread
      rwa [readListing, if_neg (not_lt.mpr hnonneg), sameResult_ok] at hsame
    refine ⟨hnonneg, ?_, ?_⟩
    · have hlength := congrArg List.length (htake actions .rfl)
      rw [List.length_take, List.length_take, (latestFirst_perm _ _).length_eq,
        (latestFirst_perm _ _).length_eq, hlisted.length_eq] at hlength
      exact hlength.symm
    · exact settled_iff.mpr fun l l' hl hl' => (htake l hl).symm.trans (htake l' hl')
  · intro halike read hread
    rw [readListing, if_neg (not_lt.mpr halike.nonneg)]
    have hlength : (latestFirst CompensationAction.generatedAt listed).length = actions.length :=
      (latestFirst_perm _ _).length_eq.trans hlisted.length_eq
    have hcut : (latestFirst CompensationAction.generatedAt listed).take
        (limit.getD actions.length) = (latestFirst CompensationAction.generatedAt listed).take
          (asI32 (limit.getD 100)).toNat := by
      rw [List.take_eq_take_iff, hlength]
      exact halike.length.symm
    exact sameResult_ok.mpr (hcut.trans (settled_iff.mp halike.settled listed read hlisted hread))

end Listings

section Calls

variable {s : InMemoryCompensationActionRepository} {table : ActionTable}

/-- The action after a reapproval. -/
def reapproved (action : CompensationAction) : CompensationAction :=
  { action with
    status := .pending
    lockVersion := action.lockVersion + 1
    failedAt := none }

/-- The SQL reapproval of an action that has a row: it looks at the status before it reports a
conflict. -/
theorem sqlxReapprove_row {actionId : Uuid} {action : CompensationAction}
    (h : table.lookup actionId = some (.ofAction action)) (lockVersion : Int) :
    SqlxCompensationActionRepository.reapprove table actionId lockVersion =
      if action.lockVersion = lockVersion ∧ action.status = .failed then
        (.ok (reapproved action), table.insert actionId (.ofAction (reapproved action)))
      else if action.status ≠ .failed then
        (.error (.invalidCompensationActionTransition action.status.debug "Pending"
          "Only Failed actions can be reapproved"), table)
      else (.error (.concurrencyConflict actionId), table) := by
  have hget : SqlxCompensationActionRepository.get table actionId = .ok action := by
    rw [SqlxCompensationActionRepository.get, h]
    exact rowToAction_ofAction action
  rw [SqlxCompensationActionRepository.reapprove,
    SqlxCompensationActionRepository.updateReturning, h]
  have hlock : (ActionRow.ofAction action).lockVersion = action.lockVersion := rfl
  have hstatus : ((ActionRow.ofAction action).status == "failed") =
      decide (action.status = .failed) := by
    cases hst : action.status <;> simp [ActionRow.ofAction, compensationStatusToString, hst]
  dsimp only
  rw [hlock, hstatus]
  by_cases hboth : action.lockVersion = lockVersion ∧ action.status = .failed
  · have hrow : { ActionRow.ofAction action with
        status := "pending"
        lockVersion := action.lockVersion + 1
        failedAt := none } = .ofAction (reapproved action) := rfl
    rw [if_pos hboth, if_pos (by simp [hboth]), hrow]
    dsimp only
    rw [rowToAction_ofAction]
  · rw [if_neg hboth, if_neg (by simpa using hboth)]
    dsimp only
    rw [hget]

/-- The SQL reapproval in terms of the stored actions. -/
theorem sqlxReapprove_eq (h : SameContents s table) (actionId : Uuid) (lockVersion : Int) :
    SqlxCompensationActionRepository.reapprove table actionId lockVersion =
      match s.actions.lookup actionId with
      | none => (.error (.compensationActionNotFound actionId), table)
      | some action =>
        if action.lockVersion = lockVersion ∧ action.status = .failed then
          (.ok (reapproved action), table.insert actionId (.ofAction (reapproved action)))
        else if action.status ≠ .failed then
          (.error (.invalidCompensationActionTransition action.status.debug "Pending"
            "Only Failed actions can be reapproved"), table)
        else (.error (.concurrencyConflict actionId), table) := by
  cases hlookup : s.actions.lookup actionId with
  | none =>
    have hmissing : table.lookup actionId = none := by rw [h actionId, hlookup, Option.map_none]
    rw [SqlxCompensationActionRepository.reapprove,
      SqlxCompensationActionRepository.updateReturning, hmissing]
    dsimp only
    rw [SqlxCompensationActionRepository.get, hmissing]
  | some action =>
    exact sqlxReapprove_row (by rw [h actionId, hlookup, Option.map_some]) lockVersion

/-- The in-memory reapproval looks at the lock version before the status. -/
theorem reapprove_eq (s : InMemoryCompensationActionRepository) (actionId : Uuid)
    (lockVersion : Int) :
    (s.reapprove actionId lockVersion).map id InMemoryCompensationActionRepository.actions =
      match s.actions.lookup actionId with
      | none => (.error (.compensationActionNotFound actionId), s.actions)
      | some action =>
        if action.lockVersion ≠ lockVersion then
          (.error (.concurrencyConflict actionId), s.actions)
        else if action.status ≠ .failed then
          (.error (.invalidCompensationActionTransition action.status.debug "Pending"
            "Only Failed actions can be reapproved"), s.actions)
        else (.ok (reapproved action), s.actions.insert actionId (reapproved action)) := by
  rw [InMemoryCompensationActionRepository.reapprove_actions, ActionRepo.reapprove,
    ActionRepo.lockedUpdate]
  cases AList.lookup actionId s.actions with
  | none => rfl
  | some action =>
    dsimp only
    split
    · rfl
    · by_cases hfailed : action.status = .failed
      · simp only [hfailed, ne_eq, not_true_eq_false, ↓reduceIte, reapproved]
      · simp only [hfailed, ne_eq, not_false_eq_true, ↓reduceIte]

/-- The reapproval agrees unless the lock version and the status are both wrong: then one reports
the conflict and the other the status. -/
theorem reapprove_same (h : SameContents s table) (actionId : Uuid) (lockVersion : Int) :
    SameResult (s.reapprove actionId lockVersion).1
        (SqlxCompensationActionRepository.reapprove table actionId lockVersion).1 ↔
      ∀ action, s.actions.lookup actionId = some action → action.lockVersion ≠ lockVersion →
        action.status = .failed := by
  have hmemory := congrArg Prod.fst (reapprove_eq s actionId lockVersion)
  rw [Prod.map_fst, id_eq] at hmemory
  rw [hmemory, sqlxReapprove_eq h]
  cases s.actions.lookup actionId with
  | none => exact iff_of_true (.refl _) (by simp)
  | some action =>
    simp only [Option.some.injEq, forall_eq']
    by_cases hlock : action.lockVersion = lockVersion
    · by_cases hfailed : action.status = .failed
      · simp only [hlock, hfailed, ne_eq, not_true_eq_false, ↓reduceIte, and_self]
        exact iff_of_true (.refl _) (by simp)
      · simp only [hlock, hfailed, ne_eq, not_true_eq_false, not_false_eq_true, ↓reduceIte,
          and_false]
        exact iff_of_true (.refl _) (by simp)
    · by_cases hfailed : action.status = .failed
      · simp only [hlock, hfailed, ne_eq, not_true_eq_false, not_false_eq_true, ↓reduceIte,
          false_and]
        exact iff_of_true (.refl _) (by simp)
      · simp only [hlock, hfailed, ne_eq, not_false_eq_true, ↓reduceIte, false_and]
        refine iff_of_false (fun hsame => ?_) (fun hall => hall trivial)
        cases hsame with
        | error hkind => cases hkind

theorem reapprove_sameContents (h : SameContents s table) (actionId : Uuid) (lockVersion : Int) :
    SameContents (s.reapprove actionId lockVersion).2
      (SqlxCompensationActionRepository.reapprove table actionId lockVersion).2 := by
  have hmemory := congrArg Prod.snd (reapprove_eq s actionId lockVersion)
  rw [Prod.map_snd] at hmemory
  rw [sqlxReapprove_eq h]
  cases hlookup : s.actions.lookup actionId with
  | none =>
    rw [hlookup] at hmemory
    exact fun id => hmemory ▸ h id
  | some action =>
    rw [hlookup] at hmemory
    dsimp only at hmemory ⊢
    by_cases hboth : action.lockVersion = lockVersion ∧ action.status = .failed
    · rw [if_pos hboth]
      rw [if_neg (not_not.mpr hboth.1), if_neg (not_not.mpr hboth.2)] at hmemory
      exact h.insert actionId _ hmemory
    · rw [if_neg hboth]
      have hkeep : (s.reapprove actionId lockVersion).2.actions = s.actions := by
        rw [hmemory]
        split
        · rfl
        · split
          · rfl
          · next hlock hstatus => exact absurd ⟨not_not.mp hlock, not_not.mp hstatus⟩ hboth
      have hsql : (if action.status ≠ .failed then
          (.error (.invalidCompensationActionTransition action.status.debug "Pending"
            "Only Failed actions can be reapproved"), table)
        else (.error (.concurrencyConflict actionId), table) : Answered ActionTable).2 = table := by
        split
        · rfl
        · rfl
      rw [hsql]
      exact fun id => hkeep ▸ h id

end Calls

end IntentRebase
