import IntentRebase.Api.CompensationBatch

/-! What a pass over the items of a batch reports and stores of each action, from what the handler
of its items requires of an action and the version that it writes of it. -/

namespace IntentRebase

open Kit

/-- Some item of a batch is for the identifier, at a place where the property holds. -/
def SomeItem (p : Nat → Uuid → Prop) (n : Nat) (actionIds : List Uuid) (actionId : Uuid) : Prop :=
  ∃ m, actionIds[m]? = some actionId ∧ p (n + m) actionId

section Places

variable {p q : Nat → Uuid → Prop} {n : Nat} {actionIds : List Uuid} {actionId other : Uuid}

theorem SomeItem.not_nil : ¬ SomeItem p n [] actionId := by
  rintro ⟨m, hm, -⟩
  cases hm

theorem someItem_cons : SomeItem p n (other :: actionIds) actionId ↔
    (other = actionId ∧ p n actionId) ∨ SomeItem p (n + 1) actionIds actionId := by
  constructor
  · rintro ⟨m, hm, hp⟩
    cases m with
    | zero => exact .inl ⟨Option.some.inj hm, hp⟩
    | succ m => exact .inr ⟨m, hm, by rwa [Nat.add_right_comm]⟩
  · rintro (⟨rfl, hp⟩ | ⟨m, hm, hp⟩)
    · exact ⟨0, rfl, hp⟩
    · exact ⟨m + 1, hm, by rwa [Nat.add_right_comm] at hp⟩

theorem SomeItem.congr (h : ∀ n, p n actionId ↔ q n actionId) :
    SomeItem p n actionIds actionId ↔ SomeItem q n actionIds actionId :=
  exists_congr fun _ => and_congr_right fun _ => h _

end Places

section Pass

variable (item : ItemHandler) (missing : String) (n : Nat) (actionId : Uuid)

/-- What a pass does with one item: how it changes the answer, and the actions that it leaves. -/
def itemStep (s : ActionStorage) :
    (BatchOrchestrationResponse → BatchOrchestrationResponse) × ActionStorage :=
  match s.get actionId with
  | .error (.compensationActionNotFound _) => ((·.addNotFound actionId missing), s)
  | .error e => ((·.addFailed actionId e.display), s)
  | .ok action =>
    match item n actionId action s with
    | (.ok updated, after) => ((·.addSucceeded actionId updated), after)
    | (.error e, after) => ((·.addFailed actionId e), after)

theorem claimsItems_cons (rest : List Uuid) (response : BatchOrchestrationResponse)
    (s : ActionStorage) :
    claimsItems item missing n (actionId :: rest) response s =
      claimsItems item missing (n + 1) rest ((itemStep item missing n actionId s).1 response)
        (itemStep item missing n actionId s).2 := by
  rw [claimsItems, itemStep]
  cases s.get actionId with
  | error e => cases e <;> rfl
  | ok action =>
    dsimp only
    rcases item n actionId action s with ⟨_ | _, _⟩ <;> rfl

end Pass

/-- What an item requires of its action, in a transaction of the tenant or not, whether its
transaction also records a rollback, and the versions that it writes. -/
structure ItemRule where
  mayWrite : Bool → Uuid → CompensationAction → Prop
  recordsRollback : Bool
  writes : CompensationAction → CompensationAction → Prop

namespace ItemRule

section Definitions

variable (rule : ItemRule) (config : CompensationConfig) (faults : Nat → TxFaults)
  (s : ActionStorage) (n : Nat) (actionId : Uuid)

/-- The stored action meets what the item requires. -/
def Allows : Prop :=
  ∃ action, s.get actionId = .ok action ∧
    rule.mayWrite (rlsTable config s).isSome actionId action

/-- The item at a place reports a new version of the action. -/
def Reports : Prop :=
  rule.Allows config s actionId ∧
    ((rlsTable config s).isSome → (faults n).Completes ∧ (faults n).updateFault = none)

/-- The item at a place stores a new version of the action. -/
def Stores : Prop :=
  rule.Allows config s actionId ∧
    ((rlsTable config s).isSome →
      (faults n).Keeps rule.recordsRollback ∧ (faults n).updateFault = none)

/-- The action is a version that the item writes of the stored one. -/
def VersionOf (updated : CompensationAction) : Prop :=
  ∃ action, s.get actionId = .ok action ∧ rule.writes action updated

/-- What an item answers and leaves: a version that it reports, and one that it stores, each under
its own condition. -/
structure Outcome (outcome : Except String CompensationAction × ActionStorage)
    (updated : CompensationAction) : Prop where
  version : rule.VersionOf s actionId updated
  answer : (rule.Reports config faults s n actionId ∧ outcome.1 = .ok updated) ∨
    (¬ rule.Reports config faults s n actionId ∧ ∃ e, outcome.1 = .error e)
  stored : (rule.Stores config faults s n actionId ∧ outcome.2 = s.put actionId updated) ∨
    (¬ rule.Stores config faults s n actionId ∧ outcome.2 = s)

/-- The handler does with each action what the rule says; the versions that it writes are of the
action's tenant, and may not be written again. -/
structure Describes (item : ItemHandler) : Prop where
  outcome : ∀ s n actionId action, s.get actionId = .ok action →
    ∃ updated, rule.Outcome config faults s n actionId (item n actionId action s) updated
  owner : ∀ action updated, rule.writes action updated → updated.tenantId = action.tenantId
  once : ∀ inTx actionId action updated, rule.writes action updated →
    ¬ rule.mayWrite inTx actionId updated

end Definitions

variable {rule : ItemRule} {config : CompensationConfig} {faults : Nat → TxFaults}
  {s next after : ActionStorage} {n : Nat} {actionId other : Uuid}
  {action updated : CompensationAction}

theorem allows_iff (h : s.get actionId = .ok action) :
    rule.Allows config s actionId ↔ rule.mayWrite (rlsTable config s).isSome actionId action := by
  rw [Allows, h]
  simp

section Items

/-- An action that may not be written is neither reported nor stored. -/
theorem Outcome.unchanged (h : ¬ rule.Allows config s actionId)
    (hversion : rule.VersionOf s actionId updated) (e : String) :
    rule.Outcome config faults s n actionId (.error e, s) updated :=
  ⟨hversion, .inr ⟨fun hreports => h hreports.1, e, rfl⟩, .inr ⟨fun hstores => h hstores.1, rfl⟩⟩

/-- Without transactions of the tenant, an action that may be written is reported and stored. -/
theorem Outcome.ofService (h : rule.Allows config s actionId) (htable : rlsTable config s = none)
    (hversion : rule.VersionOf s actionId updated) :
    rule.Outcome config faults s n actionId (.ok updated, s.put actionId updated) updated :=
  ⟨hversion, .inl ⟨⟨h, by simp [htable]⟩, rfl⟩, .inl ⟨⟨h, by simp [htable]⟩, rfl⟩⟩

variable (rule) in
/-- In a transaction of the tenant, what may be written is reported if the transaction completes,
and stored if it is kept. -/
theorem Outcome.ofTx {table : ActionTable} {passes : Prop}
    {outcome : Except RlsFailure CompensationAction × ActionTable}
    (h : TxOutcome table actionId passes updated rule.recordsRollback (faults n) outcome)
    (hpasses : passes ↔
      rule.Allows config (.sqlx table) actionId ∧ (faults n).updateFault = none)
    (htable : rlsTable config (.sqlx table) = some table)
    (hversion : rule.VersionOf (.sqlx table) actionId updated) (text : RlsFailure → String) :
    rule.Outcome config faults (.sqlx table) n actionId (outcome.map (.mapError text) .sqlx)
      updated := by
  refine ⟨hversion, ?_, ?_⟩
  · rcases h.answer with ⟨hcompletes, hp, hanswer⟩ | ⟨hfails, e, hanswer⟩
    · obtain ⟨hallows, hupdate⟩ := hpasses.mp hp
      refine .inl ⟨⟨hallows, fun _ => ⟨hcompletes, hupdate⟩⟩, ?_⟩
      exact congrArg (Except.mapError text) hanswer
    · refine .inr ⟨fun hreports => ?_, text e, congrArg (Except.mapError text) hanswer⟩
      obtain ⟨hcompletes, hupdate⟩ := hreports.2 (by simp [htable])
      exact hfails ⟨hcompletes, hpasses.mpr ⟨hreports.1, hupdate⟩⟩
  · rcases h.stored with ⟨hkeeps, hp, hstored⟩ | ⟨hloses, hstored⟩
    · obtain ⟨hallows, hupdate⟩ := hpasses.mp hp
      exact .inl ⟨⟨hallows, fun _ => ⟨hkeeps, hupdate⟩⟩, congrArg ActionStorage.sqlx hstored⟩
    · refine .inr ⟨fun hstores => ?_, congrArg ActionStorage.sqlx hstored⟩
      obtain ⟨hkeeps, hupdate⟩ := hstores.2 (by simp [htable])
      exact hloses ⟨hkeeps, hpasses.mpr ⟨hstores.1, hupdate⟩⟩

end Items

section Steps

variable (rule config faults s n actionId) in
/-- An item leaves the actions as they are, or stores a version of its own action. -/
inductive Step : ActionStorage → Prop
  | kept : ¬ rule.Stores config faults s n actionId → Step s
  | stored {updated : CompensationAction} : rule.Stores config faults s n actionId →
      rule.VersionOf s actionId updated → Step (s.put actionId updated)

variable (rule config faults s n actionId) in
/-- The outcome of an item is a success exactly where it reports a version. -/
def OutcomeOf (o : BatchItemOutcomeResponse) : Prop :=
  o.actionId = actionId ∧
    ((rule.Reports config faults s n actionId ∧ o.success = true ∧
        ∃ updated, o.result = some updated ∧ rule.VersionOf s actionId updated) ∨
      (¬ rule.Reports config faults s n actionId ∧ o.success = false))

theorem not_allows_of_error {e : IntentRebaseError} (h : s.get actionId = .error e) :
    ¬ rule.Allows config s actionId := by
  rintro ⟨action, hget, -⟩
  cases h.symm.trans hget

variable (s n actionId) in
theorem Describes.step {item : ItemHandler} (h : rule.Describes config faults item)
    (missing : String) (response : BatchOrchestrationResponse) :
    rule.Step config faults s n actionId (itemStep item missing n actionId s).2 ∧
      ∃ o, rule.OutcomeOf config faults s n actionId o ∧
        ((itemStep item missing n actionId s).1 response).outcomes = response.outcomes ++ [o] := by
  rw [itemStep]
  cases hget : s.get actionId with
  | error e =>
    have hnot : ¬ rule.Allows config s actionId := not_allows_of_error hget
    cases e
    all_goals
      exact ⟨.kept fun h => hnot h.1, _, ⟨rfl, .inr ⟨fun h => hnot h.1, rfl⟩⟩, rfl⟩
  | ok action =>
    dsimp only
    obtain ⟨updated, houtcome⟩ := h.outcome s n actionId action hget
    have hstep : rule.Step config faults s n actionId (item n actionId action s).2 := by
      rcases houtcome.stored with ⟨hstores, hafter⟩ | ⟨hkept, hafter⟩
      · rw [hafter]
        exact .stored hstores houtcome.version
      · rw [hafter]
        exact .kept hkept
    have hanswer := houtcome.answer
    have hversion := houtcome.version
    clear houtcome
    revert hstep hanswer
    cases item n actionId action s with
    | mk answer after =>
      intro hstep hanswer
      rcases hanswer with ⟨hreports, rfl⟩ | ⟨hsilent, e, rfl⟩
      · exact ⟨hstep, _, ⟨rfl, .inl ⟨hreports, rfl, updated, rfl, hversion⟩⟩, rfl⟩
      · exact ⟨hstep, _, ⟨rfl, .inr ⟨hsilent, rfl⟩⟩, rfl⟩

/-- An item leaves the other actions. -/
theorem Step.frame (h : rule.Step config faults s n actionId next)
    (hother : other ≠ actionId ∨ ¬ rule.Stores config faults s n actionId) :
    next.get other = s.get other := by
  cases h with
  | kept => rfl
  | stored hstores => rw [ActionStorage.get_put, if_neg (hother.resolve_right (not_not.mpr hstores))]

theorem rlsTable_put_isSome (config : CompensationConfig) (s : ActionStorage) (actionId : Uuid)
    (updated : CompensationAction) :
    (rlsTable config (s.put actionId updated)).isSome = (rlsTable config s).isSome := by
  cases s with
  | inMemory => rfl
  | sqlx table =>
    rw [ActionStorage.put, rlsTable, rlsTable]
    cases config.rlsPool <;> rfl

theorem Step.table (h : rule.Step config faults s n actionId next) :
    (rlsTable config next).isSome = (rlsTable config s).isSome := by
  cases h with
  | kept => rfl
  | stored => exact rlsTable_put_isSome config s actionId _

/-- What an item does depends on its own action only. -/
theorem Step.allows_iff (h : rule.Step config faults s n actionId next)
    (hget : next.get other = s.get other) :
    rule.Allows config next other ↔ rule.Allows config s other := by
  rw [Allows, Allows, h.table, hget]

theorem Step.reports_iff (h : rule.Step config faults s n actionId next)
    (hget : next.get other = s.get other) (m : Nat) :
    rule.Reports config faults next m other ↔ rule.Reports config faults s m other := by
  rw [Reports, Reports, h.allows_iff hget, h.table]

theorem Step.stores_iff (h : rule.Step config faults s n actionId next)
    (hget : next.get other = s.get other) (m : Nat) :
    rule.Stores config faults next m other ↔ rule.Stores config faults s m other := by
  rw [Stores, Stores, h.allows_iff hget, h.table]

theorem versionOf_congr (hget : next.get actionId = s.get actionId) :
    rule.VersionOf next actionId updated ↔ rule.VersionOf s actionId updated := by
  rw [VersionOf, VersionOf, hget]

/-- A stored version may not be written again. -/
theorem Step.once {item : ItemHandler} (hrule : rule.Describes config faults item)
    (h : rule.Step config faults s n actionId next)
    (hstores : rule.Stores config faults s n actionId) :
    ¬ rule.Allows config next actionId ∧
      ∃ updated, next.get actionId = .ok updated ∧ rule.VersionOf s actionId updated := by
  cases h with
  | kept hkept => exact absurd hstores hkept
  | @stored updated _ hversion =>
    have hget : (s.put actionId updated).get actionId = .ok updated := by
      rw [ActionStorage.get_put, if_pos rfl]
    obtain ⟨action, hold, hwrites⟩ := hversion
    refine ⟨fun hallows => ?_, updated, hget, action, hold, hwrites⟩
    exact hrule.once _ _ _ _ hwrites ((ItemRule.allows_iff hget).mp hallows)

end Steps

section Passes

variable (rule config faults) in
/-- What a pass over items reports and stores of an action. -/
structure Pass (s : ActionStorage) (n : Nat) (actionIds : List Uuid)
    (outcomes : List BatchItemOutcomeResponse) (after : ActionStorage) (actionId : Uuid) :
    Prop where
  reported : ∀ o ∈ outcomes, o.actionId = actionId → o.success = true →
    SomeItem (rule.Reports config faults s) n actionIds actionId ∧
      ∃ updated, o.result = some updated ∧ rule.VersionOf s actionId updated
  reports : SomeItem (rule.Reports config faults s) n actionIds actionId →
    ¬ SomeItem (rule.Stores config faults s) n actionIds actionId →
    ∃ o ∈ outcomes, o.actionId = actionId ∧ o.success = true
  stored : SomeItem (rule.Stores config faults s) n actionIds actionId →
    ∃ updated, after.get actionId = .ok updated ∧ rule.VersionOf s actionId updated
  kept : ¬ SomeItem (rule.Stores config faults s) n actionIds actionId →
    after.get actionId = s.get actionId

variable {item : ItemHandler} {actionIds : List Uuid} {o : BatchItemOutcomeResponse}
  {outcomes : List BatchItemOutcomeResponse}

/-- After an item that stores a version of the action, the pass leaves it. -/
theorem Pass.cons_stored (hrule : rule.Describes config faults item)
    (hstep : rule.Step config faults s n actionId next)
    (ho : rule.OutcomeOf config faults s n actionId o)
    (h : rule.Pass config faults next (n + 1) actionIds outcomes after actionId)
    (hstores : rule.Stores config faults s n actionId) :
    rule.Pass config faults s n (actionId :: actionIds) (o :: outcomes) after actionId := by
  obtain ⟨honce, updated, hnext, hversion⟩ := hstep.once hrule hstores
  have hsome : SomeItem (rule.Stores config faults s) n (actionId :: actionIds) actionId :=
    someItem_cons.mpr (.inl ⟨rfl, hstores⟩)
  have hnone : ¬ SomeItem (rule.Stores config faults next) (n + 1) actionIds actionId := by
    rintro ⟨m, -, hstores⟩
    exact honce hstores.1
  refine ⟨?_, fun _ hlost => absurd hsome hlost, fun _ => ?_, fun hlost => absurd hsome hlost⟩
  · intro o' ho' hid hsuccess
    rcases List.mem_cons.mp ho' with rfl | ho'
    · rcases ho.2 with ⟨hreports, -, hresult⟩ | ⟨-, hfails⟩
      · exact ⟨someItem_cons.mpr (.inl ⟨rfl, hreports⟩), hresult⟩
      · cases hsuccess.symm.trans hfails
    · obtain ⟨⟨m, -, hreports⟩, -⟩ := h.reported o' ho' hid hsuccess
      exact absurd hreports.1 honce
  · exact ⟨updated, (h.kept hnone).trans hnext, hversion⟩

/-- An item that leaves the action adds its outcome to those of the pass. -/
theorem Pass.cons_kept (hstep : rule.Step config faults s n other next)
    (ho : rule.OutcomeOf config faults s n other o)
    (h : rule.Pass config faults next (n + 1) actionIds outcomes after actionId)
    (hkept : actionId ≠ other ∨ ¬ rule.Stores config faults s n other) :
    rule.Pass config faults s n (other :: actionIds) (o :: outcomes) after actionId := by
  have hget := hstep.frame hkept
  have hreports : SomeItem (rule.Reports config faults next) (n + 1) actionIds actionId ↔
      SomeItem (rule.Reports config faults s) (n + 1) actionIds actionId :=
    SomeItem.congr fun n => hstep.reports_iff hget n
  have hstores : SomeItem (rule.Stores config faults s) n (other :: actionIds) actionId ↔
      SomeItem (rule.Stores config faults next) (n + 1) actionIds actionId := by
    rw [someItem_cons, or_iff_right]
    · exact .symm (SomeItem.congr fun n => hstep.stores_iff hget n)
    · rintro ⟨rfl, hhead⟩
      exact hkept.elim (· rfl) (· hhead)
  refine ⟨?_, ?_, ?_, ?_⟩
  · intro o' ho' hid hsuccess
    rw [someItem_cons]
    rcases List.mem_cons.mp ho' with rfl | ho'
    · obtain rfl : other = actionId := ho.1.symm.trans hid
      rcases ho.2 with ⟨hhead, -, hresult⟩ | ⟨-, hfails⟩
      · exact ⟨.inl ⟨rfl, hhead⟩, hresult⟩
      · cases hsuccess.symm.trans hfails
    · obtain ⟨hsome, updated, hresult, hversion⟩ := h.reported o' ho' hid hsuccess
      exact ⟨.inr (hreports.mp hsome), updated, hresult, (versionOf_congr hget).mp hversion⟩
  · rw [someItem_cons, hstores]
    rintro (⟨rfl, hhead⟩ | hsome) hlost
    · rcases ho.2 with ⟨-, hsuccess, -⟩ | ⟨hsilent, -⟩
      · exact ⟨o, List.mem_cons_self, ho.1, hsuccess⟩
      · exact absurd hhead hsilent
    · obtain ⟨o', ho', hid, hsuccess⟩ := h.reports (hreports.mpr hsome) hlost
      exact ⟨o', List.mem_cons_of_mem _ ho', hid, hsuccess⟩
  · rw [hstores]
    intro hsome
    obtain ⟨updated, hafter, hversion⟩ := h.stored hsome
    exact ⟨updated, hafter, (versionOf_congr hget).mp hversion⟩
  · rw [hstores]
    intro hlost
    exact (h.kept hlost).trans hget

theorem Pass.cons (hrule : rule.Describes config faults item)
    (hstep : rule.Step config faults s n other next)
    (ho : rule.OutcomeOf config faults s n other o)
    (h : rule.Pass config faults next (n + 1) actionIds outcomes after actionId) :
    rule.Pass config faults s n (other :: actionIds) (o :: outcomes) after actionId := by
  by_cases hsame : actionId = other
  · subst hsame
    by_cases hstores : rule.Stores config faults s n actionId
    · exact h.cons_stored hrule hstep ho hstores
    · exact h.cons_kept hstep ho (.inr hstores)
  · exact h.cons_kept hstep ho (.inl hsame)

/-- A pass over the items of a handler adds one outcome for each item. -/
theorem Describes.pass (hrule : rule.Describes config faults item) (missing : String)
    (actionIds : List Uuid) (n : Nat) (response : BatchOrchestrationResponse) (s : ActionStorage) :
    ∃ outcomes, (claimsItems item missing n actionIds response s).1.outcomes =
        response.outcomes ++ outcomes ∧
      ∀ actionId, rule.Pass config faults s n actionIds outcomes
        (claimsItems item missing n actionIds response s).2 actionId := by
  induction actionIds generalizing n response s with
  | nil =>
    refine ⟨[], (List.append_nil _).symm, fun actionId => ⟨?_, ?_, ?_, fun _ => rfl⟩⟩
    · intro o ho
      cases ho
    · exact fun hsome => absurd hsome SomeItem.not_nil
    · exact fun hsome => absurd hsome SomeItem.not_nil
  | cons other rest ih =>
    rw [claimsItems_cons]
    obtain ⟨hstep, o, ho, houtcomes⟩ := hrule.step _ _ _ missing response
    obtain ⟨outcomes, happend, hpass⟩ := ih (n + 1) _ _
    refine ⟨o :: outcomes, ?_, fun actionId => (hpass actionId).cons hrule hstep ho⟩
    rw [happend, houtcomes, List.append_assoc, List.singleton_append]

end Passes

end ItemRule

end IntentRebase
