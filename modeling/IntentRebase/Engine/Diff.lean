import IntentRebase.Kit.HashMap
import IntentRebase.Types.Intent
import Mathlib.Data.List.Sort
import Mathlib.Data.Prod.Lex
import Mathlib.Order.WithBot

/-! The semantic diff of two intent versions. Items with a key that is unique on both sides are
matched; every other item is removed and added, never modified. -/

namespace IntentRebase

open Kit

inductive ChangeType where
  | added | removed | modified
deriving DecidableEq, Repr

/-- What an entry of a diff says of one item: `before` is present if it was removed or modified,
`after` if it was added or modified. -/
structure ItemChange (α : Type) where
  changeType : ChangeType
  before : Option α
  after : Option α
deriving DecidableEq

/-- The item an entry takes out of the list before. -/
def ItemChange.removedItem {α : Type} (c : ItemChange α) : Option α :=
  match c.changeType with
  | .removed | .modified => c.before
  | .added => none

/-- The item an entry puts into the list after. -/
def ItemChange.addedItem {α : Type} (c : ItemChange α) : Option α :=
  match c.changeType with
  | .added | .modified => c.after
  | .removed => none

structure ConstraintDiff extends ItemChange Constraint where
  clauseId : Option Uuid
  constraintType : ClauseType
  key : String

structure ConstraintsDiff where
  functional : List ConstraintDiff := []
  nonFunctional : List ConstraintDiff := []
  policy : List ConstraintDiff := []
  budget : List ConstraintDiff := []
  time : List ConstraintDiff := []

structure AcceptanceCriterionDiff extends ItemChange AcceptanceCriterion where
  clauseId : Option Uuid
  priority : String

structure AcceptanceCriteriaDiff where
  required : List AcceptanceCriterionDiff := []
  optional : List AcceptanceCriterionDiff := []

structure ActionRefDiff extends ItemChange ActionRef where
  action : String
  target : Option String

structure ApprovalRuleDiff extends ItemChange ApprovalRuleRef where
  ruleId : String
  description : String

structure AuthorityDiff where
  allowedActions : List ActionRefDiff := []
  forbiddenActions : List ActionRefDiff := []
  approvalRequirements : List ApprovalRuleDiff := []

structure ScopeItemsDiff where
  added : List String := []
  removed : List String := []
deriving DecidableEq

structure ScopeDiff where
  inScope : ScopeItemsDiff := {}
  outOfScope : ScopeItemsDiff := {}
deriving DecidableEq

structure IntentVersionDiff where
  scope : ScopeDiff := {}
  constraints : ConstraintsDiff := {}
  acceptanceCriteria : AcceptanceCriteriaDiff := {}
  authority : AuthorityDiff := {}

/-- The merge of two sorted lists: what only the one has is removed, what only the other has is
added. -/
def mergeSorted : List String → List String → ScopeItemsDiff
  | [], [] => {}
  | b :: before, [] =>
    let rest := mergeSorted before []
    { rest with removed := b :: rest.removed }
  | [], a :: after =>
    let rest := mergeSorted [] after
    { rest with added := a :: rest.added }
  | b :: before, a :: after =>
    match compare b a with
    | .lt =>
      let rest := mergeSorted before (a :: after)
      { rest with removed := b :: rest.removed }
    | .gt =>
      let rest := mergeSorted (b :: before) after
      { rest with added := a :: rest.added }
    | .eq => mergeSorted before after
termination_by before after => before.length + after.length

def diffStringLists (before after : List String) : ScopeItemsDiff :=
  mergeSorted (before.insertionSort (· ≤ ·)) (after.insertionSort (· ≤ ·))

def diffScope (before after : IntentScope) : ScopeDiff where
  inScope := diffStringLists before.inScope after.inScope
  outOfScope := diffStringLists before.outOfScope after.outOfScope

section Keyed

variable {α κ : Type} [LinearOrder κ]

/-- An entry of a keyed diff: the key, and the item whose fields the entry shows. -/
structure KeyedChange (κ α : Type) extends ItemChange α where
  id : Option κ
  item : α

/-- Options in their order as sort keys, `None` before every key. -/
def noneFirst (key : Option κ) : WithBot κ := key

/-- The item has a key, and it is the only item of its list that has it. -/
def hasUniqueKey (key : α → Option κ) (count : HashMap (Option κ) Nat) (item : α) : Bool :=
  match key item with
  | some id => count.lookup (some id) == some 1
  | none => false

/-- The items of a list that have a key, each with its key. -/
def keyed (key : α → Option κ) (items : List α) : List (κ × α) :=
  items.filterMap fun item => (key item).map fun id => (id, item)

/-- The entry of a key that both sides have: none if the two items are equal. -/
def matchedChange (equal : α → α → Bool) (m : κ × α × α) : Option (KeyedChange κ α) :=
  if equal m.2.1 m.2.2 then none
  else some
    { changeType := .modified, before := some m.2.1, after := some m.2.2, id := some m.1
      item := m.2.1 }

def removedChange (id : Option κ) (item : α) : KeyedChange κ α :=
  { changeType := .removed, before := some item, after := none, id, item }

def addedChange (id : Option κ) (item : α) : KeyedChange κ α :=
  { changeType := .added, before := none, after := some item, id, item }

/-- The entries of a keyed diff before they are sorted: of the matched items, of the unmatched ones,
and of the items without a key of their own. -/
def unsortedChanges (key : α → Option κ) (equal : α → α → Bool)
    (beforeItems afterItems : List (κ × α)) (matched : List (κ × α × α))
    (beforeAmbiguous afterAmbiguous : List α) :
    List (KeyedChange κ α) :=
  let matchedIds := matched.map Prod.fst
  matched.filterMap (matchedChange equal) ++
  (beforeItems.filter fun p => p.1 ∉ matchedIds).map (fun p => removedChange (some p.1) p.2) ++
  (afterItems.filter fun p => p.1 ∉ matchedIds).map (fun p => addedChange (some p.1) p.2) ++
  beforeAmbiguous.map (fun c => removedChange (key c) c) ++
  afterAmbiguous.map (fun c => addedChange (key c) c)

/-- The diff of two lists by the items' keys. The maps of the items with a unique key are iterated
in the given orders: first the one of `before`, twice, then the one of `after`. -/
def diffByKey (key : α → Option κ) (equal : α → α → Bool)
    (beforeOrder afterOrder : IterOrder (κ × α)) (before after : List α) :
    List (KeyedChange κ α) :=
  let beforeIdCount := countBy key before
  let afterIdCount := countBy key after
  let (beforeUnique, beforeAmbiguous) := before.partition (hasUniqueKey key beforeIdCount)
  let (afterUnique, afterAmbiguous) := after.partition (hasUniqueKey key afterIdCount)
  let beforeByUniqueId := ofPairs (keyed key beforeUnique)
  let afterByUniqueId := ofPairs (keyed key afterUnique)
  let beforeItems := beforeOrder.apply (pairs beforeByUniqueId)
  let afterItems := afterOrder.apply (pairs afterByUniqueId)
  let changes := unsortedChanges key equal beforeItems afterItems (join beforeItems afterByUniqueId)
    beforeAmbiguous afterAmbiguous
  changes.insertionSort fun c d => noneFirst c.id ≤ noneFirst d.id

end Keyed

/-- Equality of constraints by content; the identity plays no part in it. -/
def constraintsEqual (a b : Constraint) : Bool :=
  a.key == b.key && a.operator == b.operator && a.value == b.value &&
    a.constraintType == b.constraintType && a.priority == b.priority && a.rationale == b.rationale

def diffConstraints (beforeOrder afterOrder : IterOrder (Uuid × Constraint))
    (before after : List Constraint) : List ConstraintDiff :=
  (diffByKey Constraint.clauseId constraintsEqual beforeOrder afterOrder before after).map fun c =>
    { c.toItemChange with
      clauseId := c.id, constraintType := c.item.constraintType, key := c.item.key }

def acceptanceCriteriaEqual (a b : AcceptanceCriterion) : Bool :=
  a.description == b.description && a.priority == b.priority

def diffAcceptanceCriteria (beforeOrder afterOrder : IterOrder (Uuid × AcceptanceCriterion))
    (before after : List AcceptanceCriterion) : List AcceptanceCriterionDiff :=
  (diffByKey AcceptanceCriterion.clauseId acceptanceCriteriaEqual beforeOrder afterOrder
    before after).map fun c =>
    { c.toItemChange with clauseId := c.id, priority := c.item.priority.debug }

/-- The key of an action reference: the action, then the target, an absent target first. -/
abbrev ActionKey := String ×ₗ WithBot String

def ActionRef.matchKey (a : ActionRef) : ActionKey := toLex (a.action, noneFirst a.target)

def actionRefsEqual (a b : ActionRef) : Bool := a.action == b.action && a.target == b.target

def diffActionRefs (beforeOrder afterOrder : IterOrder (ActionKey × ActionRef))
    (before after : List ActionRef) : List ActionRefDiff :=
  (diffByKey (fun a => some a.matchKey) actionRefsEqual beforeOrder afterOrder before after).map
    fun c => { c.toItemChange with action := c.item.action, target := c.item.target }

def approvalRulesEqual (a b : ApprovalRuleRef) : Bool :=
  a.ruleId == b.ruleId && a.description == b.description

def diffApprovalRules (beforeOrder afterOrder : IterOrder (String × ApprovalRuleRef))
    (before after : List ApprovalRuleRef) : List ApprovalRuleDiff :=
  (diffByKey (fun a => some a.ruleId) approvalRulesEqual beforeOrder afterOrder before after).map
    fun c => { c.toItemChange with ruleId := c.item.ruleId, description := c.item.description }

/-- The iteration orders of the maps that one diff of two lists makes. -/
structure DiffOrders (κ α : Type) where
  before : IterOrder (κ × α)
  after : IterOrder (κ × α)

/-- The iteration orders of every map that a diff of two versions makes. -/
structure VersionDiffOrders where
  functional : DiffOrders Uuid Constraint
  nonFunctional : DiffOrders Uuid Constraint
  policy : DiffOrders Uuid Constraint
  budget : DiffOrders Uuid Constraint
  time : DiffOrders Uuid Constraint
  required : DiffOrders Uuid AcceptanceCriterion
  optional : DiffOrders Uuid AcceptanceCriterion
  allowedActions : DiffOrders ActionKey ActionRef
  forbiddenActions : DiffOrders ActionKey ActionRef
  approvalRequirements : DiffOrders String ApprovalRuleRef

def diffConstraintsSection (orders : VersionDiffOrders) (before after : IntentConstraints) :
    ConstraintsDiff where
  functional := diffConstraints orders.functional.before orders.functional.after
    before.functional after.functional
  nonFunctional := diffConstraints orders.nonFunctional.before orders.nonFunctional.after
    before.nonFunctional after.nonFunctional
  policy := diffConstraints orders.policy.before orders.policy.after before.policy after.policy
  budget := diffConstraints orders.budget.before orders.budget.after before.budget after.budget
  time := diffConstraints orders.time.before orders.time.after before.time after.time

def diffAcceptanceCriteriaSection (orders : VersionDiffOrders) (before after : AcceptanceCriteria) :
    AcceptanceCriteriaDiff where
  required := diffAcceptanceCriteria orders.required.before orders.required.after
    before.required after.required
  optional := diffAcceptanceCriteria orders.optional.before orders.optional.after
    before.optional after.optional

def diffAuthority (orders : VersionDiffOrders) (before after : IntentAuthority) :
    AuthorityDiff where
  allowedActions := diffActionRefs orders.allowedActions.before orders.allowedActions.after
    before.allowedActions after.allowedActions
  forbiddenActions := diffActionRefs orders.forbiddenActions.before orders.forbiddenActions.after
    before.forbiddenActions after.forbiddenActions
  approvalRequirements := diffApprovalRules orders.approvalRequirements.before
    orders.approvalRequirements.after before.approvalRequirements after.approvalRequirements

def diffIntentVersion (orders : VersionDiffOrders) (before after : IntentVersion) :
    IntentVersionDiff where
  scope := diffScope before.payload.scope after.payload.scope
  constraints := diffConstraintsSection orders before.payload.constraints after.payload.constraints
  acceptanceCriteria := diffAcceptanceCriteriaSection orders before.payload.acceptanceCriteria
    after.payload.acceptanceCriteria
  authority := diffAuthority orders before.payload.authority after.payload.authority

end IntentRebase
