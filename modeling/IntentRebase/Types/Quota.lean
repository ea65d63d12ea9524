import IntentRebase.Kit.Clients
import IntentRebase.Kit.HashMap
import IntentRebase.Types.Common

/-! The quotas of tenants. An enforcement reads the count, compares it with the limit and increments
the count in calls of their own, so that other clients come between. -/

namespace IntentRebase

open Kit

structure InMemoryQuotaRepository where
  counts : HashMap (Uuid × String) Int32
  limits : HashMap Uuid (HashMap String Int32)
  defaults : HashMap String Int32

namespace InMemoryQuotaRepository

def new : InMemoryQuotaRepository := ⟨∅, ∅, ∅⟩

variable (s : InMemoryQuotaRepository) (tenantId : Uuid) (resource : String)

def getCount : Int32 := (s.counts.lookup (tenantId, resource)).getD 0

/-- The addition wraps, as in a build without overflow checks. -/
def increment : InMemoryQuotaRepository :=
  { s with counts := s.counts.insert (tenantId, resource) (s.getCount tenantId resource + 1) }

def decrement : InMemoryQuotaRepository :=
  match s.counts.lookup (tenantId, resource) with
  | some current => { s with counts := s.counts.insert (tenantId, resource) (max (current - 1) 0) }
  | none => s

def setCount (count : Int32) : InMemoryQuotaRepository :=
  { s with counts := s.counts.insert (tenantId, resource) (max count 0) }

def setLimit (limit : Int32) : InMemoryQuotaRepository :=
  let tenantLimits := ((s.limits.lookup tenantId).getD ∅).insert resource limit
  { s with limits := s.limits.insert tenantId tenantLimits }

/-- The tenant's limit, or the default of the repository. -/
def getLimit : Option Int32 :=
  match (s.limits.lookup tenantId).bind (·.lookup resource) with
  | some limit => some limit
  | none => s.defaults.lookup resource

end InMemoryQuotaRepository

namespace QuotaService

/-- The limits of the service where the repository has none. -/
def defaultLimits : HashMap String Int32 :=
  ((∅ : HashMap String Int32).insert "intents" 10000).insert "artifacts" 100000

def getEffectiveLimit (s : InMemoryQuotaRepository) (tenantId : Uuid) (resource : String) : Int32 :=
  match s.getLimit tenantId resource with
  | some limit => limit
  | none => (defaultLimits.lookup resource).getD .maxValue

end QuotaService

inductive QuotaRequest where
  | enforce (tenantId : Uuid) (resource : String)
  | release (tenantId : Uuid) (resource : String)
deriving DecidableEq

/-- How far a call has come: the repository's call that comes next. -/
inductive QuotaStage where
  | getCount (tenantId : Uuid) (resource : String)
  | getLimit (tenantId : Uuid) (resource : String) (current : Int32)
  | increment (tenantId : Uuid) (resource : String) (current : Int32)
  | decrement (tenantId : Uuid) (resource : String)
deriving DecidableEq

/-- The new count of an enforcement, or that a release is done. -/
inductive QuotaAnswer where
  | enforced (count : Int32)
  | released
deriving DecidableEq

namespace QuotaService

/-- The calls of the service on the repository. -/
def calls : Calls InMemoryQuotaRepository QuotaRequest QuotaStage
    (Except IntentRebaseError QuotaAnswer) where
  first
    | .enforce tenantId resource => .getCount tenantId resource
    | .release tenantId resource => .decrement tenantId resource
  step
    | .getCount tenantId resource, s =>
      (.more (.getLimit tenantId resource (s.getCount tenantId resource)), s)
    | .getLimit tenantId resource current, s =>
      let limit := getEffectiveLimit s tenantId resource
      if current ≥ limit then
        (.done (.error (.quotaExceeded tenantId resource current.toInt limit.toInt)), s)
      else (.more (.increment tenantId resource current), s)
    | .increment tenantId resource current, s =>
      (.done (.ok (.enforced (current + 1))), s.increment tenantId resource)
    | .decrement tenantId resource, s =>
      (.done (.ok .released), s.decrement tenantId resource)

/-- The repository, and the calls of its clients in flight. -/
abbrev State := Clients InMemoryQuotaRepository QuotaStage

variable (tenantId : Uuid) (resource : String)

/-- The count that a successful enforcement for the tenant and resource returns. -/
def enforcedCount : QuotaStage × Except IntentRebaseError QuotaAnswer → Option Int32
  | (.increment tenantId' resource' _, .ok (.enforced count)) =>
    if tenantId' = tenantId ∧ resource' = resource then some count else none
  | _ => none

/-- The counts that the successful enforcements of some turns return. -/
def enforcedCounts (s : State) (turns : List (Turn QuotaRequest)) : List Int32 :=
  (Clients.answers calls s turns).filterMap (enforcedCount tenantId resource)

/-- An increment finds no more than the count that its check has read. -/
def Undisturbed (s : State) : Turn QuotaRequest → Prop
  | .call _ _ => True
  | .step client => ∀ current, s.stage client = some (.increment tenantId resource current) →
    s.store.getCount tenantId resource ≤ current

/-- No turn starts a release for the tenant and resource. -/
def NoRelease (turns : List (Turn QuotaRequest)) : Prop :=
  ∀ client, .call client (.release tenantId resource) ∉ turns

end QuotaService

/-- A count below another one is not the greatest. -/
theorem toInt_add_one {a b : Int32} (h : a < b) : (a + 1).toInt = a.toInt + 1 := by
  rw [Int32.lt_iff_toInt_lt] at h
  have hlow := a.le_toInt
  have hhigh := b.toInt_lt
  have hone : (1 : Int32).toInt = 1 := rfl
  rw [Int32.toInt_add, hone]
  exact Int.bmod_eq_of_le (by omega) (by omega)

theorem toInt_max_sub_one {a : Int32} (h : 0 ≤ a) :
    (max (a - 1) 0).toInt = max (a.toInt - 1) 0 := by
  have hzero : (0 : Int32).toInt = 0 := rfl
  have hone : (1 : Int32).toInt = 1 := rfl
  rw [Int32.le_iff_toInt_le, hzero] at h
  have hhigh := a.toInt_lt
  have hsub : (a - 1).toInt = a.toInt - 1 := by
    rw [Int32.toInt_sub, hone]
    exact Int.bmod_eq_of_le (by omega) (by omega)
  change (if a - 1 ≤ 0 then 0 else a - 1).toInt = _
  split
  · next hle =>
    rw [Int32.le_iff_toInt_le, hsub, hzero] at hle
    rw [hzero, max_eq_right hle]
  · next hlt =>
    rw [Int32.not_le, Int32.lt_iff_toInt_lt, hsub, hzero] at hlt
    rw [hsub, max_eq_left hlt.le]

namespace InMemoryQuotaRepository

variable (s : InMemoryQuotaRepository) (tenantId tenantId' : Uuid) (resource resource' : String)

theorem getCount_insert (count : Int32) :
    ({ s with counts := s.counts.insert (tenantId', resource') count } :
      InMemoryQuotaRepository).getCount tenantId resource =
        if tenantId' = tenantId ∧ resource' = resource then count
        else s.getCount tenantId resource := by
  rw [getCount, lookup_insert_eq]
  simp only [Prod.mk.injEq, eq_comm (a := tenantId), eq_comm (a := resource)]
  split <;> rfl

theorem getCount_increment : (s.increment tenantId' resource').getCount tenantId resource =
    if tenantId' = tenantId ∧ resource' = resource then s.getCount tenantId resource + 1
    else s.getCount tenantId resource := by
  rw [increment, getCount_insert]
  split
  · next h => rw [h.1, h.2]
  · rfl

theorem getCount_decrement (h : 0 ≤ s.getCount tenantId resource) :
    ((s.decrement tenantId resource).getCount tenantId resource).toInt =
      max ((s.getCount tenantId resource).toInt - 1) 0 := by
  have hcount : s.getCount tenantId resource = (s.counts.lookup (tenantId, resource)).getD 0 := rfl
  rw [decrement]
  split
  · next current hcurrent =>
    rw [getCount_insert, if_pos ⟨rfl, rfl⟩]
    rw [hcount, hcurrent] at h ⊢
    exact toInt_max_sub_one h
  · next habsent =>
    rw [hcount, habsent]
    rfl

theorem getCount_decrement_other (h : ¬ (tenantId' = tenantId ∧ resource' = resource)) :
    (s.decrement tenantId' resource').getCount tenantId resource =
      s.getCount tenantId resource := by
  rw [decrement]
  split
  · rw [getCount_insert, if_neg h]
  · rfl

theorem getEffectiveLimit_decrement :
    QuotaService.getEffectiveLimit (s.decrement tenantId' resource') tenantId resource =
      QuotaService.getEffectiveLimit s tenantId resource := by
  rw [decrement]
  split <;> rfl

end InMemoryQuotaRepository

namespace QuotaService

section Runs

variable (tenantId : Uuid) (resource : String)

/-- What a turn is to a tenant and resource: the limit stays, a stage in flight was in flight or
follows from what is stored, and the count stays, or a call ends that increments or decrements it.
-/
structure Counts (s : State) (t : Turn QuotaRequest) (s' : State) (returned : Option Int32) :
    Prop where
  limit : getEffectiveLimit s'.store tenantId resource =
    getEffectiveLimit s.store tenantId resource
  reads : ∀ client current, s'.stage client = some (.getLimit tenantId resource current) →
    s.stage client = some (.getLimit tenantId resource current) ∨
      current = s.store.getCount tenantId resource
  increments : ∀ client current, s'.stage client = some (.increment tenantId resource current) →
    s.stage client = some (.increment tenantId resource current) ∨
      s.stage client = some (.getLimit tenantId resource current) ∧
        current < getEffectiveLimit s.store tenantId resource
  decrements : ∀ client, s'.stage client = some (.decrement tenantId resource) →
    s.stage client = some (.decrement tenantId resource) ∨
      t = .call client (.release tenantId resource)
  count : s'.store.getCount tenantId resource = s.store.getCount tenantId resource ∧
      returned = none ∨
    (∃ client current, t = .step client ∧
      s.stage client = some (.increment tenantId resource current) ∧
      s'.store.getCount tenantId resource = s.store.getCount tenantId resource + 1 ∧
      returned = some (current + 1)) ∨
    ∃ client, s.stage client = some (.decrement tenantId resource) ∧
      s'.store = s.store.decrement tenantId resource ∧ returned = none

theorem counts_turn (s : State) (t : Turn QuotaRequest) :
    Counts tenantId resource s t (Clients.turn calls s t)
      ((Clients.answer calls s t).bind (enforcedCount tenantId resource)) := by
  have htook := Clients.took calls s t
  generalize Clients.answer calls s t = answered, Clients.turn calls s t = s' at htook
  cases htook with
  | idle => exact ⟨rfl, fun _ _ => .inl, fun _ _ => .inl, fun _ => .inl, .inl ⟨rfl, rfl⟩⟩
  | @start client request hidle =>
    refine ⟨rfl, fun c current hc => ?_, fun c current hc => ?_, fun c hc => ?_, .inl ⟨rfl, rfl⟩⟩
    · rcases Clients.update_some hc with hstart | hbefore
      · cases request <;> cases hstart
      · exact .inl hbefore
    · rcases Clients.update_some hc with hstart | hbefore
      · cases request <;> cases hstart
      · exact .inl hbefore
    · dsimp only at hc
      rw [Function.update_apply] at hc
      split at hc
      · next hclient =>
        cases request <;> cases hc
        exact .inr (by rw [hclient])
      · exact .inl hc
  | @more client k k' store hstage hstep =>
    cases k with
    | getCount tenantId' resource' =>
      cases hstep
      refine ⟨rfl, fun c current hc => ?_, fun c current hc => ?_, fun c hc => ?_,
        .inl ⟨rfl, rfl⟩⟩
      · rcases Clients.update_some hc with hread | hbefore
        · cases hread
          exact .inr rfl
        · exact .inl hbefore
      · rcases Clients.update_some hc with hread | hbefore
        · cases hread
        · exact .inl hbefore
      · rcases Clients.update_some hc with hread | hbefore
        · cases hread
        · exact .inl hbefore
    | getLimit tenantId' resource' current' =>
      simp only [calls] at hstep
      split at hstep
      · cases hstep
      next hbelow =>
      cases hstep
      refine ⟨rfl, fun c current hc => ?_, fun c current hc => ?_, fun c hc => ?_,
        .inl ⟨rfl, rfl⟩⟩
      · rcases Clients.update_some hc with hpassed | hbefore
        · cases hpassed
        · exact .inl hbefore
      · dsimp only at hc
        rw [Function.update_apply] at hc
        split at hc
        · next hclient =>
          cases hc
          exact .inr ⟨hclient ▸ hstage, Int32.not_le.mp hbelow⟩
        · exact .inl hc
      · rcases Clients.update_some hc with hpassed | hbefore
        · cases hpassed
        · exact .inl hbefore
    | increment tenantId' resource' current' => cases hstep
    | decrement tenantId' resource' => cases hstep
  | @done client k a store hstage hstep =>
    have hbefore {stage : QuotaStage} {c : Nat}
        (hc : Function.update s.stage client none c = some stage) : s.stage c = some stage :=
      (Clients.update_some hc).resolve_left fun hdone => (by cases hdone)
    cases k with
    | getCount tenantId' resource' => cases hstep
    | getLimit tenantId' resource' current' =>
      simp only [calls] at hstep
      split at hstep
      · cases hstep
        exact ⟨rfl, fun _ _ hc => .inl (hbefore hc), fun _ _ hc => .inl (hbefore hc),
          fun _ hc => .inl (hbefore hc), .inl ⟨rfl, rfl⟩⟩
      · cases hstep
    | increment tenantId' resource' current' =>
      cases hstep
      refine ⟨rfl, fun _ _ hc => .inl (hbefore hc), fun _ _ hc => .inl (hbefore hc),
        fun _ hc => .inl (hbefore hc), ?_⟩
      rw [InMemoryQuotaRepository.getCount_increment, Option.bind_some, enforcedCount]
      split
      · next hkey =>
        rw [hkey.1, hkey.2] at hstage
        exact .inr (.inl ⟨client, current', rfl, hstage, rfl, rfl⟩)
      · exact .inl ⟨rfl, rfl⟩
    | decrement tenantId' resource' =>
      cases hstep
      refine ⟨InMemoryQuotaRepository.getEffectiveLimit_decrement ..,
        fun _ _ hc => .inl (hbefore hc), fun _ _ hc => .inl (hbefore hc),
        fun _ hc => .inl (hbefore hc), ?_⟩
      by_cases hkey : tenantId' = tenantId ∧ resource' = resource
      · rw [hkey.1, hkey.2] at hstage ⊢
        exact .inr (.inr ⟨client, hstage, rfl, rfl⟩)
      · exact .inl ⟨InMemoryQuotaRepository.getCount_decrement_other _ _ _ _ _ hkey, rfl⟩

variable {tenantId resource} {s s' : State} {t : Turn QuotaRequest} {limit initial : Int32}
  {returned : Option Int32}

/-- The count is within the bound, and so is what the coming increments have read. -/
structure Bounded (tenantId : Uuid) (resource : String) (limit initial : Int32) (s : State) :
    Prop where
  effective : getEffectiveLimit s.store tenantId resource = limit
  nonneg : 0 ≤ s.store.getCount tenantId resource
  bound : (s.store.getCount tenantId resource).toInt ≤ max limit.toInt initial.toInt
  checked : ∀ client current, s.stage client = some (.increment tenantId resource current) →
    current < limit

theorem Bounded.idle {s : InMemoryQuotaRepository} (h : 0 ≤ s.getCount tenantId resource) :
    Bounded tenantId resource (getEffectiveLimit s tenantId resource)
      (s.getCount tenantId resource) (Clients.idle s) where
  effective := rfl
  nonneg := h
  bound := le_max_right _ _
  checked _ _ h := nomatch h

/-- An undisturbed turn stays within the bound. -/
theorem Bounded.turn (h : Bounded tenantId resource limit initial s)
    (hundisturbed : Undisturbed tenantId resource s t) :
    Bounded tenantId resource limit initial (Clients.turn calls s t) := by
  have hturn := counts_turn tenantId resource s t
  have hzero : (0 : Int32).toInt = 0 := rfl
  have hnonneg := Int32.le_iff_toInt_le.mp h.nonneg
  have hbound := h.bound
  suffices hcount : 0 ≤ ((Clients.turn calls s t).store.getCount tenantId resource).toInt ∧
      ((Clients.turn calls s t).store.getCount tenantId resource).toInt ≤
        max limit.toInt initial.toInt from
    { effective := hturn.limit.trans h.effective
      nonneg := Int32.le_iff_toInt_le.mpr hcount.1
      bound := hcount.2
      checked := fun client current hc => by
        rcases hturn.increments client current hc with hbefore | ⟨-, hbelow⟩
        · exact h.checked client current hbefore
        · rwa [h.effective] at hbelow }
  rcases hturn.count with ⟨hsame, -⟩ | ⟨client, current, rfl, hstage, hadded, -⟩ |
    ⟨client, -, hstore, -⟩
  · rw [hsame]
    omega
  · have hread := hundisturbed current hstage
    have hlimit := h.checked client current hstage
    have hless := Int32.lt_of_le_of_lt hread hlimit
    rw [hadded, toInt_add_one hless]
    rw [Int32.lt_iff_toInt_lt] at hless
    omega
  · rw [hstore, InMemoryQuotaRepository.getCount_decrement _ _ _ h.nonneg]
    omega

/-- Nothing releases, the counts that are returned are all different and reach from the first count
to the stored one, and a coming increment has read a count after which all of them are there. -/
structure Counted (tenantId : Uuid) (resource : String) (initial : Int32) (counts : List Int32)
    (s : State) : Prop where
  unreleased : ∀ client, s.stage client ≠ some (.decrement tenantId resource)
  read : ∀ client current, s.stage client = some (.getLimit tenantId resource current) ∨
      s.stage client = some (.increment tenantId resource current) →
    current ≤ s.store.getCount tenantId resource ∧
      ∀ v, current < v → v ≤ s.store.getCount tenantId resource → v ∈ counts
  below : ∀ v ∈ counts, v ≤ s.store.getCount tenantId resource
  nodup : counts.Nodup
  total : initial.toInt + counts.length = (s.store.getCount tenantId resource).toInt

variable {counts : List Int32}

theorem Counted.idle {s : InMemoryQuotaRepository} :
    Counted tenantId resource (s.getCount tenantId resource) [] (Clients.idle s) where
  unreleased _ h := nomatch h
  read _ _ h := nomatch h
  below _ h := nomatch h
  nodup := .nil
  total := Int.add_zero _

theorem Counted.turn (h : Counted tenantId resource initial counts s)
    (hbounded : Bounded tenantId resource limit initial s)
    (hundisturbed : Undisturbed tenantId resource s t)
    (hrelease : ∀ client, t ≠ .call client (.release tenantId resource)) :
    Counted tenantId resource initial (counts ++ ((Clients.answer calls s t).bind
      (enforcedCount tenantId resource)).toList) (Clients.turn calls s t) := by
  have hturn := counts_turn tenantId resource s t
  have hunreleased (client : Nat) :
      (Clients.turn calls s t).stage client ≠ some (.decrement tenantId resource) := fun hc =>
    (hturn.decrements client hc).elim (h.unreleased client) (hrelease client)
  have hread (client : Nat) (current : Int32)
      (hc : (Clients.turn calls s t).stage client = some (.getLimit tenantId resource current) ∨
        (Clients.turn calls s t).stage client = some (.increment tenantId resource current)) :
      current ≤ s.store.getCount tenantId resource ∧
        ∀ v, current < v → v ≤ s.store.getCount tenantId resource → v ∈ counts := by
    have hbefore : (s.stage client = some (.getLimit tenantId resource current) ∨
        s.stage client = some (.increment tenantId resource current)) ∨
          current = s.store.getCount tenantId resource := by
      rcases hc with hc | hc
      · exact (hturn.reads client current hc).imp_left .inl
      · exact .inl ((hturn.increments client current hc).elim .inr fun hread => .inl hread.1)
    rcases hbefore with hbefore | rfl
    · exact h.read client current hbefore
    · exact ⟨Int32.le_refl _, fun v hlt hle => absurd hle (Int32.not_le.mpr hlt)⟩
  rcases hturn.count with ⟨hsame, hnone⟩ | ⟨client, current, rfl, hstage, hadded, hreturned⟩ |
    ⟨client, hstage, -⟩
  · rw [hnone, Option.toList_none, List.append_nil]
    refine ⟨hunreleased, ?_, ?_, h.nodup, ?_⟩
    · rw [hsame]
      exact hread
    · rw [hsame]
      exact h.below
    · rw [hsame]
      exact h.total
  · have hchecked := hbounded.checked client current hstage
    obtain ⟨hle, -⟩ := h.read client current (.inr hstage)
    have hcurrent : current = s.store.getCount tenantId resource :=
      Int32.le_antisymm hle (hundisturbed current hstage)
    subst hcurrent
    have hnext := toInt_add_one hchecked
    have hgrows (v : Int32) : v ≤ s.store.getCount tenantId resource + 1 ↔
        v ≤ s.store.getCount tenantId resource ∨
          v = s.store.getCount tenantId resource + 1 := by
      rw [Int32.le_iff_toInt_le, Int32.le_iff_toInt_le, ← Int32.toInt_inj, hnext]
      omega
    have hnew : s.store.getCount tenantId resource + 1 ∉ counts := fun hmem => by
      have hle := h.below _ hmem
      rw [Int32.le_iff_toInt_le, hnext] at hle
      omega
    rw [hreturned, Option.toList_some]
    refine ⟨hunreleased, fun c current hc => ?_, fun v hv => ?_, ?_, ?_⟩
    · obtain ⟨hle, hall⟩ := hread c current hc
      rw [hadded]
      refine ⟨(hgrows current).mpr (.inl hle), fun v hlt hv => List.mem_append.mpr ?_⟩
      exact ((hgrows v).mp hv).imp (hall v hlt) List.mem_singleton.mpr
    · rw [hadded, hgrows]
      rw [List.mem_append, List.mem_singleton] at hv
      exact hv.imp_left (h.below v)
    · exact List.nodup_append.mpr ⟨h.nodup, List.nodup_singleton _, fun a ha b hb hab =>
        hnew (List.mem_singleton.mp hb ▸ hab ▸ ha)⟩
    · have htotal := h.total
      rw [hadded, hnext, List.length_append, List.length_singleton]
      push_cast
      omega
  · exact absurd hstage (h.unreleased client)

/-- A turn that disturbs a check returns a count that was returned before. -/
theorem Counted.disturbed (h : Counted tenantId resource initial counts s)
    (hdisturbed : ¬ Undisturbed tenantId resource s t) :
    ∃ v ∈ counts, (Clients.answer calls s t).bind (enforcedCount tenantId resource) = some v := by
  cases t with
  | call client request => exact absurd trivial hdisturbed
  | step client =>
    simp only [Undisturbed, not_forall, Int32.not_le] at hdisturbed
    obtain ⟨current, hstage, hless⟩ := hdisturbed
    refine ⟨current + 1, (h.read client current (.inr hstage)).2 _ ?_ ?_, ?_⟩
    · rw [Int32.lt_iff_toInt_lt, toInt_add_one hless]
      omega
    · rw [Int32.le_iff_toInt_le, toInt_add_one hless]
      rw [Int32.lt_iff_toInt_lt] at hless
      omega
    · simp only [Clients.answer, hstage]
      exact if_pos ⟨rfl, rfl⟩

variable (tenantId resource) in
theorem enforcedCounts_cons (s : State) (t : Turn QuotaRequest) (turns : List (Turn QuotaRequest)) :
    enforcedCounts tenantId resource s (t :: turns) =
      ((Clients.answer calls s t).bind (enforcedCount tenantId resource)).toList ++
        enforcedCounts tenantId resource (Clients.turn calls s t) turns := by
  rw [enforcedCounts, Clients.answers, List.filterMap_append, enforcedCounts]
  cases Clients.answer calls s t with
  | none => rfl
  | some answered =>
    rw [Option.toList_some, List.filterMap_cons, Option.bind_some]
    cases enforcedCount tenantId resource answered <;> rfl

theorem NoRelease.cons {turns : List (Turn QuotaRequest)}
    (h : NoRelease tenantId resource (t :: turns)) :
    (∀ client, t ≠ .call client (.release tenantId resource)) ∧ NoRelease tenantId resource turns :=
  ⟨fun client ht => h client (List.mem_cons.mpr (.inl ht.symm)),
    fun client hmem => h client (List.mem_cons_of_mem _ hmem)⟩

theorem Counted.run (h : Counted tenantId resource initial counts s)
    (hbounded : Bounded tenantId resource limit initial s) {turns : List (Turn QuotaRequest)}
    (hundisturbed : AllSteps (Clients.turn calls) (Undisturbed tenantId resource) s turns)
    (hrelease : NoRelease tenantId resource turns) :
    Counted tenantId resource initial (counts ++ enforcedCounts tenantId resource s turns)
      (Clients.run calls s turns) := by
  induction turns generalizing s counts with
  | nil => exact (List.append_nil counts).symm ▸ h
  | cons t turns ih =>
    have hfirst := h.turn hbounded hundisturbed.1 hrelease.cons.1
    have hrest := ih hfirst (hbounded.turn hundisturbed.1) hundisturbed.2 hrelease.cons.2
    rw [List.append_assoc, ← enforcedCounts_cons] at hrest
    exact hrest

/-- Where nothing releases and the counts returned are all different, no check is disturbed. -/
theorem Counted.undisturbed (h : Counted tenantId resource initial counts s)
    (hbounded : Bounded tenantId resource limit initial s) {turns : List (Turn QuotaRequest)}
    (hrelease : NoRelease tenantId resource turns)
    (hnodup : (counts ++ enforcedCounts tenantId resource s turns).Nodup) :
    AllSteps (Clients.turn calls) (Undisturbed tenantId resource) s turns := by
  induction turns generalizing s counts with
  | nil => trivial
  | cons t turns ih =>
    rw [enforcedCounts_cons, ← List.append_assoc] at hnodup
    have hfirst : Undisturbed tenantId resource s t := by
      by_contra hdisturbed
      obtain ⟨v, hv, hreturned⟩ := h.disturbed hdisturbed
      rw [hreturned] at hnodup
      have hsplit := (List.nodup_append.mp hnodup).1
      exact (List.nodup_append.mp hsplit).2.2 v hv v List.mem_cons_self rfl
    exact ⟨hfirst, ih (h.turn hbounded hfirst hrelease.cons.1) (hbounded.turn hfirst)
      hrelease.cons.2 hnodup⟩

variable (tenantId resource) in
/-- If every increment finds no more than its check has read, the count stays between zero and the
limit or the first count; without releases the counts returned are then all different and as many
as the count has grown by, and they are all different only then. -/
theorem quota_holds (s : InMemoryQuotaRepository) (turns : List (Turn QuotaRequest))
    (hcount : 0 ≤ s.getCount tenantId resource) :
    (AllSteps (Clients.turn calls) (Undisturbed tenantId resource) (Clients.idle s) turns →
      let count :=
        ((Clients.run calls (Clients.idle s) turns).store.getCount tenantId resource).toInt
      0 ≤ count ∧
      count ≤
        max (getEffectiveLimit s tenantId resource).toInt (s.getCount tenantId resource).toInt ∧
      (NoRelease tenantId resource turns →
        (enforcedCounts tenantId resource (Clients.idle s) turns).Nodup ∧
        (s.getCount tenantId resource).toInt +
          (enforcedCounts tenantId resource (Clients.idle s) turns).length = count)) ∧
    (NoRelease tenantId resource turns →
      (enforcedCounts tenantId resource (Clients.idle s) turns).Nodup →
      AllSteps (Clients.turn calls) (Undisturbed tenantId resource) (Clients.idle s) turns) := by
  have hidle := Bounded.idle hcount
  refine ⟨fun hundisturbed => ?_, fun hrelease hnodup =>
    Counted.idle.undisturbed hidle hrelease hnodup⟩
  have hbounded := hundisturbed.invariant (fun _ _ ht h => h.turn ht) hidle
  refine ⟨Int32.le_iff_toInt_le.mp hbounded.nonneg, hbounded.bound, fun hrelease => ?_⟩
  have hcounted := Counted.idle.run hidle hundisturbed hrelease
  rw [List.nil_append] at hcounted
  exact ⟨hcounted.nodup, hcounted.total⟩

end Runs

section Sample

/-- A limit of one intent, and none yet. -/
def oneIntent : InMemoryQuotaRepository :=
  (InMemoryQuotaRepository.new.setLimit 5 "intents" 1).setCount 5 "intents" 0

/-- An enforcement and a release, one after the other. -/
def enforceAndRelease : List (Turn QuotaRequest) :=
  [.call 0 (.enforce 5 "intents"), .step 0, .step 0, .step 0, .call 1 (.release 5 "intents"),
   .step 1]

theorem quota_holds_sample :
    ((Clients.run calls (Clients.idle oneIntent) enforceAndRelease).store.getCount 5
      "intents").toInt ≤ 1 :=
  ((quota_holds 5 "intents" oneIntent enforceAndRelease (by decide)).1
    ⟨trivial, nofun, nofun, by rintro _ ⟨⟩; decide, trivial, nofun, trivial⟩).2.1

/-- Two enforcements that both read the count before either increments it. -/
def twoEnforce : List (Turn QuotaRequest) :=
  [.call 0 (.enforce 5 "intents"), .call 1 (.enforce 5 "intents"), .step 0, .step 1, .step 0,
   .step 1, .step 0, .step 1]

/-- They store two intents where the limit is one. -/
theorem quota_exceeded :
    ¬ ∀ (s : InMemoryQuotaRepository) (tenantId : Uuid) (resource : String)
      (turns : List (Turn QuotaRequest)), 0 ≤ s.getCount tenantId resource →
      ((Clients.run calls (Clients.idle s) turns).store.getCount tenantId resource).toInt ≤
        max (getEffectiveLimit s tenantId resource).toInt (s.getCount tenantId resource).toInt := by
  intro h
  exact absurd (h oneIntent 5 "intents" twoEnforce (by decide)) (by decide)

end Sample

end QuotaService

end IntentRebase
