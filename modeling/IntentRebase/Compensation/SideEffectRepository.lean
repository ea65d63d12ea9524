import IntentRebase.Kit.LatestFirst
import IntentRebase.Kit.SecondaryIndex
import IntentRebase.Kit.Transition
import IntentRebase.Compensation.Lifecycle

/-! The in-memory repository of side effects, whose index by idempotency key is to find a record
again. Every call holds the locks of all three maps, so that the calls of any clients come one after
another. -/

namespace IntentRebase

open Kit

/-- The tenant and the idempotency key of a side effect that has one. -/
def SideEffect.scopedKey (sideEffect : SideEffect) : Option (Uuid × String) :=
  sideEffect.idempotencyKey.map fun key => (sideEffect.tenantId, key)

structure InMemorySideEffectRepository where
  sideEffects : HashMap Uuid SideEffect
  byIntent : SecondaryIndex Uuid Uuid
  byIdempotencyKey : HashMap (Uuid × String) Uuid

namespace InMemorySideEffectRepository

/-- The empty repository. -/
def new : InMemorySideEffectRepository where
  sideEffects := ∅
  byIntent := ∅
  byIdempotencyKey := ∅

variable (s : InMemorySideEffectRepository)

/-- The record under the identifier that the index has for a tenant's key. -/
def find (key : Uuid × String) : Option SideEffect :=
  (s.byIdempotencyKey.lookup key).bind s.sideEffects.lookup

/-- The repository with a side effect stored and listed in both indices. -/
def store (sideEffect : SideEffect) : InMemorySideEffectRepository where
  sideEffects := s.sideEffects.insert sideEffect.id sideEffect
  byIntent := s.byIntent.push sideEffect.intentId sideEffect.id
  byIdempotencyKey :=
    match sideEffect.scopedKey with
    | some key => s.byIdempotencyKey.insert key sideEffect.id
    | none => s.byIdempotencyKey

/-- A creation does not look for a record of the same key. -/
def create (sideEffect : SideEffect) : SideEffect × InMemorySideEffectRepository :=
  (sideEffect, s.store sideEffect)

def getOrCreateIdempotent (sideEffect : SideEffect) :
    SideEffect × InMemorySideEffectRepository :=
  match sideEffect.scopedKey.bind s.find with
  | some existing => (existing, s)
  | none => (sideEffect, s.store sideEffect)

def get (sideEffectId : Uuid) : Except IntentRebaseError SideEffect :=
  match s.sideEffects.lookup sideEffectId with
  | some sideEffect => .ok sideEffect
  | none => .error (.internal s!"side effect not found: {sideEffectId.display}")

def listByIntent (intentId tenantId : Uuid) : List SideEffect :=
  let sideEffects := (s.byIntent.bucket intentId).filterMap s.sideEffects.lookup
  latestFirst SideEffect.occurredAt (sideEffects.filter fun e => e.tenantId = tenantId)

def findByIdempotencyKey (idempotencyKey : String) (tenantId : Uuid) : Option SideEffect :=
  s.find (tenantId, idempotencyKey)

end InMemorySideEffectRepository

/-- A call that may record a side effect. -/
inductive SideEffectCall where
  | create (sideEffect : SideEffect)
  | getOrCreateIdempotent (sideEffect : SideEffect)

namespace SideEffectCall

open InMemorySideEffectRepository

/-- The side effect that a call brings. -/
def sideEffect : SideEffectCall → SideEffect
  | create sideEffect => sideEffect
  | getOrCreateIdempotent sideEffect => sideEffect

/-- What a call returns, and the repository after it. -/
def apply (s : InMemorySideEffectRepository) :
    SideEffectCall → SideEffect × InMemorySideEffectRepository
  | create sideEffect => s.create sideEffect
  | getOrCreateIdempotent sideEffect => s.getOrCreateIdempotent sideEffect

/-- The repository after a call. -/
def next (s : InMemorySideEffectRepository) (call : SideEffectCall) :
    InMemorySideEffectRepository := (call.apply s).2

/-- The call stores its side effect: it does not look for a record, or finds none. -/
def Stores (s : InMemorySideEffectRepository) : SideEffectCall → Prop
  | create _ => True
  | getOrCreateIdempotent sideEffect => sideEffect.scopedKey.bind s.find = none

/-- What a call stores is not stored over the record of a key: every record that has a key, and
shares it or its identifier with the new one, is the new one already. -/
def KeepsRecords (s : InMemorySideEffectRepository) (call : SideEffectCall) : Prop :=
  call.Stores s → ∀ id record, s.sideEffects.lookup id = some record → record.scopedKey ≠ none →
    record.scopedKey = call.sideEffect.scopedKey ∨ id = call.sideEffect.id →
    record = call.sideEffect

/-- What idempotent recording asks of a call: after it, no two records of one tenant have the same
key, every key still finds the record that it found, and a get-or-create has returned the record
that its key finds. -/
structure Idempotent (s : InMemorySideEffectRepository) (call : SideEffectCall) : Prop where
  unique : ∀ id id' record record' key, (call.next s).sideEffects.lookup id = some record →
    (call.next s).sideEffects.lookup id' = some record' → record.scopedKey = some key →
    record'.scopedKey = some key → id = id'
  kept : ∀ key record, s.find key = some record → (call.next s).find key = some record
  returned : ∀ sideEffect key, call = .getOrCreateIdempotent sideEffect →
    sideEffect.scopedKey = some key → (call.next s).find key = some (call.apply s).1

end SideEffectCall

namespace InMemorySideEffectRepository

/-- Identifiers are keys, the index finds every record that has a key, and finds nothing else. -/
structure Keyed (s : InMemorySideEffectRepository) : Prop where
  recordId : ∀ id record, s.sideEffects.lookup id = some record → record.id = id
  indexed : ∀ id record key, s.sideEffects.lookup id = some record → record.scopedKey = some key →
    s.byIdempotencyKey.lookup key = some id
  sound : ∀ key id, s.byIdempotencyKey.lookup key = some id →
    ∃ record, s.sideEffects.lookup id = some record ∧ record.scopedKey = some key

variable {s : InMemorySideEffectRepository} {sideEffect : SideEffect}

theorem Keyed.new : InMemorySideEffectRepository.new.Keyed where
  recordId _ _ h := by cases h
  indexed _ _ _ h := by cases h
  sound _ _ h := by cases h

theorem find_iff (h : s.Keyed) {key : Uuid × String} {record : SideEffect} :
    s.find key = some record ↔
      s.sideEffects.lookup record.id = some record ∧ record.scopedKey = some key := by
  rw [find, Option.bind_eq_some_iff]
  constructor
  · rintro ⟨id, hindex, hlookup⟩
    obtain ⟨record', hlookup', hkey⟩ := h.sound key id hindex
    obtain rfl := Option.some.inj (hlookup.symm.trans hlookup')
    rw [h.recordId id record hlookup]
    exact ⟨hlookup, hkey⟩
  · rintro ⟨hlookup, hkey⟩
    exact ⟨record.id, h.indexed record.id record key hlookup hkey, hlookup⟩

/-- The index after a side effect is stored. -/
theorem lookup_store (s : InMemorySideEffectRepository) (sideEffect : SideEffect)
    (key : Uuid × String) :
    (s.store sideEffect).byIdempotencyKey.lookup key =
      if sideEffect.scopedKey = some key then some sideEffect.id
      else s.byIdempotencyKey.lookup key := by
  rw [store]
  cases sideEffect.scopedKey with
  | none => simp
  | some key' =>
    dsimp only
    rw [lookup_insert_eq]
    simp only [Option.some.injEq, eq_comm]

/-- The records after a side effect is stored. -/
theorem lookup_store_sideEffects (s : InMemorySideEffectRepository) (sideEffect : SideEffect)
    (id : Uuid) :
    (s.store sideEffect).sideEffects.lookup id =
      if id = sideEffect.id then some sideEffect else s.sideEffects.lookup id :=
  lookup_insert_eq _ _ _ _

/-- A side effect that is stored over no other record of a key keeps the index exact. -/
theorem Keyed.store (h : s.Keyed)
    (hkeep : ∀ id record, s.sideEffects.lookup id = some record → record.scopedKey ≠ none →
      record.scopedKey = sideEffect.scopedKey ∨ id = sideEffect.id → record = sideEffect) :
    (s.store sideEffect).Keyed where
  recordId id record hlookup := by
    rw [lookup_store_sideEffects] at hlookup
    split at hlookup
    · next hid =>
      cases hlookup
      exact hid.symm
    · exact h.recordId id record hlookup
  indexed id record key hlookup hkey := by
    rw [lookup_store_sideEffects] at hlookup
    rw [lookup_store]
    split at hlookup
    · next hid =>
      cases hlookup
      rw [if_pos hkey, hid]
    · next hid =>
      split
      · next hshared =>
        have heq := hkeep id record hlookup (by rw [hkey]; simp) (.inl (hkey.trans hshared.symm))
        rw [← heq, h.recordId id record hlookup]
      · exact h.indexed id record key hlookup hkey
  sound key id hindex := by
    rw [lookup_store] at hindex
    rw [lookup_store_sideEffects]
    split at hindex
    · next hkey =>
      cases hindex
      exact ⟨sideEffect, if_pos rfl, hkey⟩
    · obtain ⟨record, hlookup, hkey⟩ := h.sound key id hindex
      split
      · next hid =>
        have heq := hkeep id record hlookup (by rw [hkey]; simp) (.inr hid)
        exact ⟨sideEffect, rfl, heq ▸ hkey⟩
      · exact ⟨record, hlookup, hkey⟩

end InMemorySideEffectRepository

namespace SideEffectCall

open InMemorySideEffectRepository

variable {s : InMemorySideEffectRepository} {call : SideEffectCall}

/-- A call stores its side effect and returns it, or leaves the repository and returns the record
that it found. -/
theorem apply_cases (s : InMemorySideEffectRepository) (call : SideEffectCall) :
    (call.Stores s ∧ call.apply s = (call.sideEffect, s.store call.sideEffect)) ∨
      ∃ existing, call.sideEffect.scopedKey.bind s.find = some existing ∧
        ¬ call.Stores s ∧ call.apply s = (existing, s) := by
  cases call with
  | create sideEffect => exact .inl ⟨trivial, rfl⟩
  | getOrCreateIdempotent sideEffect =>
    cases hfind : sideEffect.scopedKey.bind s.find with
    | none =>
      refine .inl ⟨hfind, ?_⟩
      rw [apply, InMemorySideEffectRepository.getOrCreateIdempotent, hfind]
      rfl
    | some existing =>
      refine .inr ⟨existing, hfind, fun hstores => ?_, ?_⟩
      · rw [Stores, hfind] at hstores
        cases hstores
      · rw [apply, InMemorySideEffectRepository.getOrCreateIdempotent, hfind]

theorem keyed_next (h : s.Keyed) (hkeep : call.KeepsRecords s) : (call.next s).Keyed := by
  rcases apply_cases s call with ⟨hstores, heq⟩ | ⟨existing, _, _, heq⟩
  · rw [next, heq]
    exact h.store (hkeep hstores)
  · rw [next, heq]
    exact h

/-- A call that stores over no record of a key is idempotent. -/
theorem idempotent_of_keepsRecords (h : s.Keyed) (hkeep : call.KeepsRecords s) :
    call.Idempotent s := by
  have hnext := keyed_next h hkeep
  refine ⟨?_, ?_, ?_⟩
  · intro id id' record record' key hlookup hlookup' hkey hkey'
    have hindex := hnext.indexed id record key hlookup hkey
    rw [hnext.indexed id' record' key hlookup' hkey'] at hindex
    exact (Option.some.inj hindex).symm
  · intro key record hfind
    obtain ⟨hlookup, hkey⟩ := (find_iff h).mp hfind
    rw [find_iff hnext]
    refine ⟨?_, hkey⟩
    rcases apply_cases s call with ⟨hstores, heq⟩ | ⟨existing, _, _, heq⟩
    · rw [next, heq, lookup_store_sideEffects]
      split
      · next hid =>
        rw [hkeep hstores record.id record hlookup (by rw [hkey]; simp) (.inr hid)]
      · exact hlookup
    · rw [next, heq]
      exact hlookup
  · rintro sideEffect key rfl hkey
    rcases apply_cases s (.getOrCreateIdempotent sideEffect) with
      ⟨_, heq⟩ | ⟨existing, hfind, _, heq⟩
    · have hstored : ((getOrCreateIdempotent sideEffect).next s).sideEffects.lookup sideEffect.id =
          some sideEffect := by
        rw [next, heq, lookup_store_sideEffects]
        exact if_pos rfl
      rw [heq]
      exact (find_iff hnext).mpr ⟨hstored, hkey⟩
    · rw [next, heq]
      exact (congrArg (Option.bind · s.find) hkey).symm.trans hfind

/-- A call that stores over a record of a key loses it. -/
theorem keepsRecords_of_idempotent (h : s.Keyed) (hidem : call.Idempotent s) :
    call.KeepsRecords s := by
  intro hstores id record hlookup hkeyed hshared
  obtain ⟨key, hkey⟩ := Option.ne_none_iff_exists'.mp hkeyed
  have hid := h.recordId id record hlookup
  have hfind : s.find key = some record := (find_iff h).mpr ⟨hid ▸ hlookup, hkey⟩
  have hafter := hidem.kept key record hfind
  rcases apply_cases s call with ⟨_, heq⟩ | ⟨_, _, hnot, _⟩
  · rw [next, heq, find, lookup_store] at hafter
    split at hafter
    · rw [Option.bind_some, lookup_store_sideEffects, if_pos rfl] at hafter
      exact (Option.some.inj hafter).symm
    · next hother =>
      have hsame := hshared.resolve_left fun hk => hother (hk.symm.trans hkey)
      rw [h.indexed id record key hlookup hkey, Option.bind_some, lookup_store_sideEffects,
        if_pos hsame] at hafter
      exact (Option.some.inj hafter).symm
  · exact absurd hstores hnot

/-- In any sequence of calls on a new repository, every call is idempotent exactly if none stores
over the record of a key. -/
theorem idempotent_iff (calls : List SideEffectCall) :
    AllSteps next Idempotent .new calls ↔ AllSteps next KeepsRecords .new calls := by
  refine allSteps_iff InMemorySideEffectRepository.Keyed (fun s call h => ?_)
    (fun s call h hkeep => ?_) InMemorySideEffectRepository.Keyed.new calls
  · exact ⟨keepsRecords_of_idempotent h, idempotent_of_keepsRecords h⟩
  · exact keyed_next h hkeep

/-- A side effect with a key, under an identifier. -/
def keyedSample (id : Uuid) : SideEffect :=
  { SideEffect.sample .s2ExternalReversible with id := id, idempotencyKey := some "deploy-42" }

/-- Two creations with one key: the key finds the second record, and the first stays stored. -/
theorem not_idempotent_two_creations :
    ¬ AllSteps next Idempotent .new [.create (keyedSample 5), .create (keyedSample 6)] := by
  rintro ⟨_, hsecond, _⟩
  have hfound := hsecond.kept (2, "deploy-42") (keyedSample 5) rfl
  have hid := congrArg (Option.map SideEffect.id) hfound
  revert hid
  decide

end SideEffectCall

end IntentRebase
