import IntentRebase.Engine.Risk
import IntentRebase.Types.Graph
import IntentRebase.Kit.Transition

/-! Rule packs: the versioned settings of the risk analysis and of the spread of an impact. -/

namespace IntentRebase

open Kit

structure RulePackVersion where
  value : String
deriving DecidableEq, Repr

/-- The current stable version. -/
def RulePackVersion.current : RulePackVersion := ⟨"v1.0.0"⟩

inductive RulePackStatus where
  | draft | active | deprecated | superseded
deriving DecidableEq, Repr

/-- The name that a debug print shows. -/
def RulePackStatus.debug : RulePackStatus → String
  | .draft => "Draft"
  | .active => "Active"
  | .deprecated => "Deprecated"
  | .superseded => "Superseded"

structure RulePackRiskConfig where
  confidenceThreshold : Double := toDouble (7 / 10)
  maxHighSeveritySections : Nat := 3

structure RulePackPropagationConfig where
  maxDepth : Option Nat := some 3
  traversableEdgeTypes : List EdgeType := [.dependsOn, .triggers, .generatedFrom]
  traversableDirections : List EdgeDirection := [.both]
  targetNodeTypes : List NodeType := [.artifact, .approval, .sideEffect, .generic]

structure RulePack where
  version : RulePackVersion
  name : String
  status : RulePackStatus
  risk : RulePackRiskConfig
  propagation : RulePackPropagationConfig
  description : Option String

namespace RulePack

/-- A pack with the default settings. -/
def new (name : String) : RulePack where
  version := .current
  name := name
  status := .active
  risk := {}
  propagation := {}
  description := some ("Default rule pack v" ++ RulePackVersion.current.value)

def default : RulePack := new "default"

variable (pack : RulePack)

/-- The settings of the propagation. -/
def propagationConfig : PropagationConfig where
  maxDepth := pack.propagation.maxDepth
  traversableEdgeTypes := pack.propagation.traversableEdgeTypes
  traversableDirections := pack.propagation.traversableDirections
  targetNodeTypes := pack.propagation.targetNodeTypes

end RulePack

/-! The registry of rule packs by tenant and version: what one tenant sees of it, and when a tenant
has at most one active pack. -/

inductive RulePackRegistryError where
  | notFound (message : String)
  | unauthorized
  | versionConflict (message : String)
  | invalidStatusTransition (message : String)
  | storageError (message : String)
deriving DecidableEq, Repr

/-- The packs of one tenant, by version. -/
abbrev TenantPacks := HashMap RulePackVersion RulePack

/-- The packs of every tenant. -/
abbrev TenantRulePackRepository := HashMap Uuid TenantPacks

namespace TenantRulePackRepository

variable (repo : TenantRulePackRepository) (tenantId : Uuid)

/-- The tenant's packs, in the order in which the map is iterated. -/
def listPacks (order : IterOrder (RulePackVersion × RulePack))
    (statusFilter : Option RulePackStatus) : List RulePack :=
  let tenantPacks := ((repo.lookup tenantId).map fun t =>
    (order.apply (pairs t)).map Prod.snd).getD []
  match statusFilter with
  | some status => tenantPacks.filter fun p => p.status = status
  | none => tenantPacks

def getPack (version : RulePackVersion) : Except RulePackRegistryError RulePack :=
  match (repo.lookup tenantId).bind fun t => t.lookup version with
  | some pack => .ok pack
  | none => .error (.notFound s!"tenant={tenantId.display}, version={version.value}")

/-- The first active pack, in the order in which the map is iterated. -/
def getActivePack (order : IterOrder (RulePackVersion × RulePack)) :
    Except RulePackRegistryError RulePack :=
  match repo.lookup tenantId with
  | some packsMap =>
    match ((order.apply (pairs packsMap)).map Prod.snd).find? fun p => p.status = .active with
    | some pack => .ok pack
    | none => .error (.notFound s!"no active pack for tenant={tenantId.display}")
  | none => .error (.notFound s!"no packs found for tenant={tenantId.display}")

/-- The tenant's versions; they are sorted, so that the order of the map does not show. -/
def listVersions : List RulePackVersion :=
  ((repo.lookup tenantId).map fun t =>
    t.keys.mergeSort fun a b => decide (a.value ≤ b.value)).getD []

/-- A new pack is active, whatever status it comes with. -/
def createPack (pack : RulePack) :
    Except RulePackRegistryError RulePack × TenantRulePackRepository :=
  let pack := { pack with status := .active }
  let tenantPacks := (repo.lookup tenantId).getD ∅
  match tenantPacks.lookup pack.version with
  | some _ => (.error (.versionConflict
      s!"version {pack.version.value} already exists for tenant {tenantId.display}"), repo)
  | none => (.ok pack, repo.insert tenantId (tenantPacks.insert pack.version pack))

/-- The transitions that an update allows. -/
def allowsTransition : RulePackStatus → RulePackStatus → Bool
  | .active, .deprecated => true
  | .active, .superseded => true
  | .deprecated, .active => true
  | _, _ => false

def updatePackStatus (version : RulePackVersion) (newStatus : RulePackStatus) :
    Except RulePackRegistryError RulePack × TenantRulePackRepository :=
  match repo.lookup tenantId with
  | none => (.error (.notFound s!"tenant={tenantId.display}"), repo)
  | some tenantPacks =>
    match tenantPacks.lookup version with
    | none =>
      (.error (.notFound s!"tenant={tenantId.display}, version={version.value}"), repo)
    | some pack =>
      if allowsTransition pack.status newStatus then
        let updated := { pack with status := newStatus }
        (.ok updated, repo.insert tenantId (tenantPacks.insert version updated))
      else
        (.error (.invalidStatusTransition
          s!"cannot transition from {pack.status.debug} to {newStatus.debug}"), repo)

end TenantRulePackRepository

/-- A call that may change the registry. -/
inductive RulePackCall where
  | createPack (tenantId : Uuid) (pack : RulePack)
  | updatePackStatus (tenantId : Uuid) (version : RulePackVersion) (newStatus : RulePackStatus)

namespace RulePackCall

/-- The tenant that makes a call. -/
def tenantId : RulePackCall → Uuid
  | createPack tenantId _ => tenantId
  | updatePackStatus tenantId _ _ => tenantId

def apply (repo : TenantRulePackRepository) :
    RulePackCall → Except RulePackRegistryError RulePack × TenantRulePackRepository
  | createPack tenantId pack => repo.createPack tenantId pack
  | updatePackStatus tenantId version newStatus =>
    repo.updatePackStatus tenantId version newStatus

/-- The registry after a call. -/
def next (repo : TenantRulePackRepository) (call : RulePackCall) : TenantRulePackRepository :=
  (call.apply repo).2

end RulePackCall

/-- The tenant has the pack, under its version. -/
def HasPack (repo : TenantRulePackRepository) (tenantId : Uuid) (version : RulePackVersion)
    (pack : RulePack) : Prop :=
  ((repo.lookup tenantId).getD ∅).lookup version = some pack

/-- No tenant has two active packs. -/
def OneActive (repo : TenantRulePackRepository) : Prop :=
  ∀ tenantId version version' pack pack', HasPack repo tenantId version pack →
    HasPack repo tenantId version' pack' → pack.status = .active → pack'.status = .active →
    version = version'

/-- What one tenant can read of the registry, by any of the four reading operations. -/
structure SameView (repo repo' : TenantRulePackRepository) (tenantId : Uuid) : Prop where
  listPacks : ∀ order filter, repo.listPacks tenantId order filter =
    repo'.listPacks tenantId order filter
  getPack : ∀ version, repo.getPack tenantId version = repo'.getPack tenantId version
  getActivePack : ∀ order, repo.getActivePack tenantId order = repo'.getActivePack tenantId order
  listVersions : repo.listVersions tenantId = repo'.listVersions tenantId

namespace RulePackCall

/-- What tenants rely on around a call: none has two active packs after it, so that the active pack
does not depend on the order of a map; it changes nothing that another tenant reads; and what it
answers and leaves to its own tenant does not depend on the other tenants' packs. -/
structure Sound (repo : TenantRulePackRepository) (call : RulePackCall) : Prop where
  oneActive : OneActive (call.next repo)
  determined : ∀ tenantId order order', (call.next repo).getActivePack tenantId order =
    (call.next repo).getActivePack tenantId order'
  untouched : ∀ tenantId, tenantId ≠ call.tenantId → SameView (call.next repo) repo tenantId
  blind : ∀ repo' : TenantRulePackRepository,
    repo'.lookup call.tenantId = repo.lookup call.tenantId →
    (call.apply repo').1 = (call.apply repo).1 ∧
      SameView (call.next repo') (call.next repo) call.tenantId

/-- The call makes a pack of its tenant active, one that is stored under this version. -/
def Activates (repo : TenantRulePackRepository) : RulePackCall → RulePackVersion → Prop
  | createPack tenantId pack, version =>
    version = pack.version ∧ ∀ old, ¬ HasPack repo tenantId version old
  | updatePackStatus tenantId version' newStatus, version =>
    version = version' ∧ newStatus = .active ∧
      ∃ old, HasPack repo tenantId version old ∧ old.status = .deprecated

/-- When the call makes a pack active, its tenant has no active pack. -/
def ActivatesAlone (repo : TenantRulePackRepository) (call : RulePackCall) : Prop :=
  ∀ version, call.Activates repo version →
    ∀ version' pack, HasPack repo call.tenantId version' pack → pack.status ≠ .active

/-- In an update, a tenant that has no packs is one whose map is empty. -/
def store (repo : TenantRulePackRepository) (tenantId : Uuid) (version : RulePackVersion)
    (pack : RulePack) : TenantRulePackRepository :=
  repo.insert tenantId (((repo.lookup tenantId).getD ∅).insert version pack)

variable {repo repo' : TenantRulePackRepository} {call : RulePackCall} {tenantId : Uuid}

theorem hasPack_store {tenantId' : Uuid} {version version' : RulePackVersion}
    {pack pack' : RulePack} :
    HasPack (store repo tenantId version pack) tenantId' version' pack' ↔
      (if tenantId' = tenantId ∧ version' = version then pack' = pack
        else HasPack repo tenantId' version' pack') := by
  rw [HasPack, store, lookup_insert_eq]
  by_cases ht : tenantId' = tenantId
  · subst ht
    rw [if_pos rfl, Option.getD_some, lookup_insert_eq]
    by_cases hv : version' = version
    · simp [hv, eq_comm]
    · simp [hv, HasPack]
  · simp [ht, HasPack]

/-- The outcomes of a call: it refuses and changes nothing, or it stores a pack, which was not
stored, or was with another status. -/
theorem apply_cases (repo : TenantRulePackRepository) (call : RulePackCall) :
    (∃ e, call.apply repo = (.error e, repo) ∧ ∀ version, ¬ call.Activates repo version) ∨
      ∃ version pack, call.apply repo = (.ok pack, store repo call.tenantId version pack) ∧
        (pack.status = .active → call.Activates repo version) ∧
        (∀ version', call.Activates repo version' →
          version' = version ∧ pack.status = .active) := by
  cases call with
  | createPack tenantId pack =>
    rw [apply, TenantRulePackRepository.createPack]
    cases hlookup : ((repo.lookup tenantId).getD ∅).lookup pack.version with
    | some old =>
      refine .inl ⟨_, rfl, ?_⟩
      rintro version ⟨rfl, hnone⟩
      exact hnone old hlookup
    | none =>
      refine .inr ⟨pack.version, { pack with status := .active }, rfl, fun _ => ⟨rfl, ?_⟩, ?_⟩
      · intro old hold
        cases hlookup.symm.trans hold
      · rintro version' ⟨rfl, _⟩
        exact ⟨rfl, rfl⟩
  | updatePackStatus tenantId version newStatus =>
    have hnot : (∀ old, ¬ HasPack repo tenantId version old) → ∀ version',
        ¬ (updatePackStatus tenantId version newStatus).Activates repo version' := by
      rintro hnone version' ⟨rfl, _, old, hold, _⟩
      exact hnone old hold
    rw [apply, TenantRulePackRepository.updatePackStatus]
    cases hpacks : repo.lookup tenantId with
    | none =>
      refine .inl ⟨_, rfl, hnot fun old hold => ?_⟩
      rw [HasPack, hpacks] at hold
      cases hold
    | some tenantPacks =>
      dsimp only
      cases hlookup : tenantPacks.lookup version with
      | none =>
        refine .inl ⟨_, rfl, hnot fun old hold => ?_⟩
        rw [HasPack, hpacks] at hold
        cases hlookup.symm.trans hold
      | some pack =>
        have hhas : HasPack repo tenantId version pack := by
          rw [HasPack, hpacks]
          exact hlookup
        dsimp only
        split
        · next hallowed =>
          refine .inr ⟨version, { pack with status := newStatus }, ?_, fun hactive => ?_, ?_⟩
          · rw [store, RulePackCall.tenantId, hpacks]
            rfl
          · refine ⟨rfl, hactive, pack, hhas, ?_⟩
            obtain rfl : newStatus = .active := hactive
            cases hstatus : pack.status <;> rw [hstatus] at hallowed <;>
              first | rfl | cases hallowed
          · rintro version' ⟨rfl, hactive, _⟩
            exact ⟨rfl, hactive⟩
        · next hrefused =>
          refine .inl ⟨_, rfl, ?_⟩
          rintro version' ⟨rfl, rfl, old, hold, hdeprecated⟩
          obtain rfl := Option.some.inj (hhas.symm.trans hold)
          rw [hdeprecated] at hrefused
          exact hrefused rfl

theorem OneActive.new : OneActive ∅ := by
  intro tenantId version version' pack pack' h
  cases h

/-- A call that activates alone leaves each tenant one active pack at most. -/
theorem oneActive_next (h : OneActive repo) (halone : call.ActivatesAlone repo) :
    OneActive (call.next repo) := by
  rcases apply_cases repo call with ⟨e, heq, _⟩ | ⟨version, pack, heq, hactivates, _⟩
  · rw [next, heq]
    exact h
  · rw [next, heq]
    intro tenantId v v' p p' hv hv' hp hp'
    rw [hasPack_store] at hv hv'
    split at hv
    · next hnew =>
      split at hv'
      · next hnew' => exact hnew.2.trans hnew'.2.symm
      · subst hv
        rw [hnew.1] at hv'
        exact absurd hp' (halone version (hactivates hp) v' p' hv')
    · split at hv'
      · next hnew' =>
        subst hv'
        rw [hnew'.1] at hv
        exact absurd hp (halone version (hactivates hp') v p hv)
      · exact h tenantId v v' p p' hv hv' hp hp'

/-- A call that activates a pack beside another leaves two. -/
theorem activatesAlone_of_oneActive (h : OneActive (call.next repo)) :
    call.ActivatesAlone repo := by
  intro version hactivates version' pack' hpack' hactive'
  rcases apply_cases repo call with ⟨e, _, hnot⟩ | ⟨stored, pack, heq, _, hstored⟩
  · exact hnot version hactivates
  obtain ⟨rfl, hactive⟩ := hstored version hactivates
  have hother : version' ≠ version := by
    rintro rfl
    cases call with
    | createPack tenantId new => exact hactivates.2 pack' hpack'
    | updatePackStatus tenantId v newStatus =>
      obtain ⟨_, _, old, hold, hdeprecated⟩ := hactivates
      obtain rfl := Option.some.inj (hold.symm.trans hpack')
      rw [hdeprecated] at hactive'
      cases hactive'
  have hnew : HasPack (call.next repo) call.tenantId version pack := by
    rw [next, heq, hasPack_store, if_pos ⟨rfl, rfl⟩]
  have hold : HasPack (call.next repo) call.tenantId version' pack' := by
    rw [next, heq, hasPack_store, if_neg fun hsame => hother hsame.2]
    exact hpack'
  exact hother (h call.tenantId version' version pack' pack hold hnew hactive' hactive)

/-- With one active pack at most, the active pack does not depend on the order of the map. -/
theorem getActivePack_order (h : OneActive repo) (tenantId : Uuid)
    (order order' : IterOrder (RulePackVersion × RulePack)) :
    repo.getActivePack tenantId order = repo.getActivePack tenantId order' := by
  rw [TenantRulePackRepository.getActivePack, TenantRulePackRepository.getActivePack]
  cases hpacks : repo.lookup tenantId with
  | none => rfl
  | some packsMap =>
    dsimp only
    rw [List.find?_map, List.find?_map, order.find_apply order']
    rintro ⟨version, pack⟩ hmem ⟨version', pack'⟩ hmem' hactive hactive'
    have hpack : HasPack repo tenantId version pack := by
      rw [HasPack, hpacks]
      exact mem_pairs.mp hmem
    have hpack' : HasPack repo tenantId version' pack' := by
      rw [HasPack, hpacks]
      exact mem_pairs.mp hmem'
    obtain rfl := h tenantId version version' pack pack' hpack hpack' (of_decide_eq_true hactive)
      (of_decide_eq_true hactive')
    rw [Option.some.inj (hpack.symm.trans hpack')]

/-- A tenant reads its own packs only. -/
theorem sameView_of_lookup (h : repo.lookup tenantId = repo'.lookup tenantId) :
    SameView repo repo' tenantId where
  listPacks order filter := by
    simp only [TenantRulePackRepository.listPacks, h]
  getPack version := by
    rw [TenantRulePackRepository.getPack, TenantRulePackRepository.getPack, h]
  getActivePack order := by
    rw [TenantRulePackRepository.getActivePack, TenantRulePackRepository.getActivePack, h]
  listVersions := by
    rw [TenantRulePackRepository.listVersions, TenantRulePackRepository.listVersions, h]

/-- A call leaves the packs of the other tenants. -/
theorem lookup_next_ne (repo : TenantRulePackRepository) (call : RulePackCall)
    (h : tenantId ≠ call.tenantId) :
    (call.next repo).lookup tenantId = repo.lookup tenantId := by
  rcases apply_cases repo call with ⟨e, heq, _⟩ | ⟨version, pack, heq, _⟩
  · rw [next, heq]
  · rw [next, heq, store]
    exact AList.lookup_insert_ne h

/-- What a call answers, and leaves to its tenant, depends on that tenant's packs only. -/
theorem apply_of_lookup (call : RulePackCall)
    (h : repo'.lookup call.tenantId = repo.lookup call.tenantId) :
    (call.apply repo').1 = (call.apply repo).1 ∧
      (call.next repo').lookup call.tenantId = (call.next repo).lookup call.tenantId := by
  cases call with
  | createPack tenantId pack =>
    have h' : repo'.lookup tenantId = repo.lookup tenantId := h
    simp only [next, apply, RulePackCall.tenantId, TenantRulePackRepository.createPack, h']
    split
    · exact ⟨rfl, h'⟩
    · exact ⟨rfl, by rw [AList.lookup_insert, AList.lookup_insert]⟩
  | updatePackStatus tenantId version newStatus =>
    have h' : repo'.lookup tenantId = repo.lookup tenantId := h
    simp only [next, apply, RulePackCall.tenantId, TenantRulePackRepository.updatePackStatus, h']
    cases hpacks : repo.lookup tenantId with
    | none => exact ⟨rfl, h'⟩
    | some tenantPacks =>
      dsimp only
      cases tenantPacks.lookup version with
      | none => exact ⟨rfl, h'⟩
      | some pack =>
        dsimp only
        split
        · exact ⟨rfl, by rw [AList.lookup_insert, AList.lookup_insert]⟩
        · exact ⟨rfl, h'⟩

/-- A call is sound exactly if it activates alone. -/
theorem sound_iff (h : OneActive repo) : call.Sound repo ↔ call.ActivatesAlone repo := by
  constructor
  · exact fun hsound => activatesAlone_of_oneActive hsound.oneActive
  · intro halone
    have hnext := oneActive_next h halone
    refine ⟨hnext, getActivePack_order hnext, fun tenantId hother => ?_, fun repo' hsame => ?_⟩
    · exact sameView_of_lookup (lookup_next_ne repo call hother)
    · obtain ⟨hanswer, hlookup⟩ := apply_of_lookup call hsame
      exact ⟨hanswer, sameView_of_lookup hlookup⟩

/-- In any sequence of calls on a new registry, every call is sound exactly if none activates a
pack while its tenant has an active one. -/
theorem registry_sound_iff (calls : List RulePackCall) :
    AllSteps next Sound ∅ calls ↔ AllSteps next ActivatesAlone ∅ calls := by
  refine allSteps_iff OneActive (fun repo call h => sound_iff h) (fun repo call h halone => ?_)
    OneActive.new calls
  exact oneActive_next h halone

/-- Two creations for one tenant: both packs are active. -/
theorem not_sound_two_creations :
    ¬ AllSteps next Sound ∅
      [.createPack 1 (.new "first"),
        .createPack 1 { RulePack.new "second" with version := ⟨"v1.1.0"⟩ }] := by
  rintro ⟨_, hsecond, _⟩
  have hversion := hsecond.oneActive 1 ⟨"v1.0.0"⟩ ⟨"v1.1.0"⟩ _ _ rfl rfl rfl rfl
  revert hversion
  decide

end RulePackCall

end IntentRebase
