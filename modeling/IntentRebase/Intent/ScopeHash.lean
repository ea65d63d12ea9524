import IntentRebase.Intent.PolicySnapshotRepository
import IntentRebase.Kit.OrderBy
import Mathlib.Data.List.Perm.Basic

/-! What the hash of a policy scope tells apart: not the order of its resources and approvers, nor
that of the fields of an object, and everything else. -/

namespace IntentRebase

open Kit

mutual

/-- The fields of each object, at every depth, have different names. -/
def Json.DistinctNames : Json → Prop
  | .array items => Json.DistinctNamesItems items
  | .object fields => (fields.map Prod.fst).Nodup ∧ Json.DistinctNamesFields fields
  | .null | .bool _ | .number _ | .string _ => True

def Json.DistinctNamesItems : List Json → Prop
  | [] => True
  | v :: rest => v.DistinctNames ∧ Json.DistinctNamesItems rest

def Json.DistinctNamesFields : List (String × Json) → Prop
  | [] => True
  | (_, v) :: rest => v.DistinctNames ∧ Json.DistinctNamesFields rest

end

mutual

/-- The values are equal but for the order of the fields of their objects, at every depth. -/
def Json.Same : Json → Json → Prop
  | .array items, .array items' => Json.SameItems items items'
  | .object fields, .object fields' =>
    (fields.map Prod.fst).Perm (fields'.map Prod.fst) ∧ Json.SameFields fields fields'
  | .null, .null => True
  | .bool b, .bool b' => b = b'
  | .number n, .number n' => n = n'
  | .string s, .string s' => s = s'
  | _, _ => False

/-- Item by item, in order. -/
def Json.SameItems : List Json → List Json → Prop
  | [], [] => True
  | v :: rest, v' :: rest' => v.Same v' ∧ Json.SameItems rest rest'
  | _, _ => False

/-- Each field has its like among the others. -/
def Json.SameFields : List (String × Json) → List (String × Json) → Prop
  | [], _ => True
  | (k, v) :: rest, fields' =>
    (∃ v', (k, v') ∈ fields' ∧ v.Same v') ∧ Json.SameFields rest fields'

end

/-- The items of one list are those of the other in some order, but for the order of fields. -/
def Json.SameMultiset (items items' : List Json) : Prop :=
  ∃ reordered, reordered.Perm items ∧ Json.SameItems reordered items'

section Canonical

theorem canonicalizeItems_eq (items : List Json) :
    canonicalizeItems items = items.map canonicalizeJsonValue := by
  induction items with
  | nil => rfl
  | cons v rest ih => rw [canonicalizeItems, List.map_cons, ih]

theorem canonicalizeFields_eq (fields : List (String × Json)) :
    canonicalizeFields fields = fields.map fun p => (p.1, canonicalizeJsonValue p.2) := by
  induction fields with
  | nil => rfl
  | cons p rest ih => rw [canonicalizeFields, List.map_cons, ih]

theorem names_canonicalizeFields (fields : List (String × Json)) :
    (canonicalizeFields fields).map Prod.fst = fields.map Prod.fst := by
  rw [canonicalizeFields_eq, List.map_map]
  rfl

/-- The names of an object tell its canonical fields apart. -/
theorem canonicalizeFields_names {fields : List (String × Json)}
    (h : (fields.map Prod.fst).Nodup) : ∀ p ∈ canonicalizeFields fields,
      ∀ q ∈ canonicalizeFields fields, p.1 = q.1 → p = q := by
  rw [← names_canonicalizeFields] at h
  exact fun p hp q hq => List.inj_on_of_nodup_map h hp hq

/-- Two objects have the same canonical fields if they have the same names and each field of one has
its like in the other. -/
theorem canonicalizeFields_perm {fields fields' : List (String × Json)}
    (h : (fields.map Prod.fst).Nodup) :
    (canonicalizeFields fields).Perm (canonicalizeFields fields') ↔
      (fields.map Prod.fst).Perm (fields'.map Prod.fst) ∧ ∀ p ∈ fields, ∃ v',
        (p.1, v') ∈ fields' ∧ canonicalizeJsonValue p.2 = canonicalizeJsonValue v' := by
  constructor
  · intro hperm
    have hnames := hperm.map Prod.fst
    rw [names_canonicalizeFields, names_canonicalizeFields] at hnames
    refine ⟨hnames, fun p hp => ?_⟩
    rw [canonicalizeFields_eq, canonicalizeFields_eq] at hperm
    have hmem := hperm.mem_iff.mp (List.mem_map_of_mem hp)
    obtain ⟨⟨k, v'⟩, hq, heq⟩ := List.mem_map.mp hmem
    obtain ⟨hname, hvalue⟩ := Prod.mk.inj heq
    exact ⟨v', hname ▸ hq, hvalue.symm⟩
  · rintro ⟨hnames, hlike⟩
    rw [← names_canonicalizeFields] at h
    refine (List.subperm_of_subset (.of_map Prod.fst h) fun q hq => ?_).perm_of_length_le ?_
    · rw [canonicalizeFields_eq] at hq ⊢
      obtain ⟨p, hp, rfl⟩ := List.mem_map.mp hq
      obtain ⟨v', hmem, hvalue⟩ := hlike p hp
      exact List.mem_map.mpr ⟨(p.1, v'), hmem, by rw [hvalue]⟩
    · rw [canonicalizeFields_eq, canonicalizeFields_eq]
      simpa using hnames.length_eq.ge

theorem Json.DistinctNamesFields.mem {fields : List (String × Json)} {k : String} {v : Json}
    (h : Json.DistinctNamesFields fields) (hmem : (k, v) ∈ fields) : v.DistinctNames := by
  induction fields with
  | nil => cases hmem
  | cons p rest ih =>
    obtain ⟨hfirst, hrest⟩ := h
    rcases List.mem_cons.mp hmem with rfl | hmem
    · exact hfirst
    · exact ih hrest hmem

mutual

/-- The canonical form tells apart what is not the same, and nothing else. -/
theorem Json.same_iff : ∀ (v v' : Json), v.DistinctNames → v'.DistinctNames →
    (canonicalizeJsonValue v = canonicalizeJsonValue v' ↔ v.Same v')
  | .array items, v', h, h' => by
    cases v' with
    | array items' =>
      rw [canonicalizeJsonValue, canonicalizeJsonValue, Json.Same, Json.array.injEq]
      exact Json.sameItems_iff items items' h h'
    | _ => simp [canonicalizeJsonValue, Json.Same]
  | .object fields, v', h, h' => by
    cases v' with
    | object fields' =>
      rw [Json.DistinctNames] at h h'
      rw [canonicalizeJsonValue, canonicalizeJsonValue, Json.Same, Json.object.injEq,
        insertionSort_eq_iff Prod.fst (canonicalizeFields_names h.1),
        canonicalizeFields_perm h.1, Json.sameFields_iff fields fields' h.2 h'.2]
    | _ => simp [canonicalizeJsonValue, Json.Same]
  | .null, v', _, _ => by cases v' <;> simp [canonicalizeJsonValue, Json.Same]
  | .bool b, v', _, _ => by cases v' <;> simp [canonicalizeJsonValue, Json.Same]
  | .number n, v', _, _ => by cases v' <;> simp [canonicalizeJsonValue, Json.Same]
  | .string s, v', _, _ => by cases v' <;> simp [canonicalizeJsonValue, Json.Same]

theorem Json.sameItems_iff : ∀ items items' : List Json, Json.DistinctNamesItems items →
    Json.DistinctNamesItems items' →
    (canonicalizeItems items = canonicalizeItems items' ↔ Json.SameItems items items')
  | [], [], _, _ => by simp [canonicalizeItems, Json.SameItems]
  | [], _ :: _, _, _ => by simp [canonicalizeItems, Json.SameItems]
  | _ :: _, [], _, _ => by simp [canonicalizeItems, Json.SameItems]
  | v :: rest, v' :: rest', h, h' => by
    rw [Json.DistinctNamesItems] at h h'
    rw [canonicalizeItems, canonicalizeItems, Json.SameItems, List.cons.injEq,
      Json.same_iff v v' h.1 h'.1, Json.sameItems_iff rest rest' h.2 h'.2]

theorem Json.sameFields_iff : ∀ fields fields' : List (String × Json),
    Json.DistinctNamesFields fields → Json.DistinctNamesFields fields' →
    ((∀ p ∈ fields, ∃ v', (p.1, v') ∈ fields' ∧
      canonicalizeJsonValue p.2 = canonicalizeJsonValue v') ↔ Json.SameFields fields fields')
  | [], fields', _, _ => by simp [Json.SameFields]
  | (k, v) :: rest, fields', h, h' => by
    rw [Json.DistinctNamesFields] at h
    rw [Json.SameFields, List.forall_mem_cons, Json.sameFields_iff rest fields' h.2 h']
    refine and_congr_left fun _ => exists_congr fun v' => and_congr_right fun hmem => ?_
    exact Json.same_iff v v' h.1 (h'.mem hmem)

end

mutual

/-- A canonical form is its own. -/
theorem canonicalizeJsonValue_idem : ∀ v : Json,
    canonicalizeJsonValue (canonicalizeJsonValue v) = canonicalizeJsonValue v
  | .array items => by
    rw [canonicalizeJsonValue, canonicalizeJsonValue, canonicalizeItems_idem items]
  | .object fields => by
    have hfixed (sorted : List (String × Json))
        (h : ∀ p ∈ sorted, canonicalizeJsonValue p.2 = p.2) :
        canonicalizeFields sorted = sorted := by
      rw [canonicalizeFields_eq]
      exact (List.map_congr_left fun p hp => by rw [h p hp]; rfl).trans (List.map_id _)
    rw [canonicalizeJsonValue, canonicalizeJsonValue, hfixed]
    · rw [(List.pairwise_insertionSort _ _).insertionSort_eq]
    · intro p hp
      rw [List.mem_insertionSort] at hp
      exact canonicalizeFields_idem fields p hp
  | .null => rfl
  | .bool _ => rfl
  | .number _ => rfl
  | .string _ => rfl

theorem canonicalizeItems_idem : ∀ items : List Json,
    canonicalizeItems (canonicalizeItems items) = canonicalizeItems items
  | [] => rfl
  | v :: rest => by
    rw [canonicalizeItems, canonicalizeItems, canonicalizeJsonValue_idem v,
      canonicalizeItems_idem rest]

theorem canonicalizeFields_idem : ∀ fields : List (String × Json),
    ∀ p ∈ canonicalizeFields fields, canonicalizeJsonValue p.2 = p.2
  | [], p, hp => by cases hp
  | (k, v) :: rest, p, hp => by
    rw [canonicalizeFields, List.mem_cons] at hp
    rcases hp with rfl | hp
    · exact canonicalizeJsonValue_idem v
    · exact canonicalizeFields_idem rest p hp

end

end Canonical

section Hash

variable (hasher : Hasher)

theorem mem_canonicalizeArraySorted {items : List Json} {v : Json} :
    v ∈ canonicalizeArraySorted hasher items ↔ v ∈ canonicalizeItems items :=
  List.mem_insertionSort _

/-- The items of a canonical list are canonical. -/
theorem canonicalizeItems_sorted (items : List Json) :
    canonicalizeItems (canonicalizeArraySorted hasher items) =
      canonicalizeArraySorted hasher items := by
  rw [canonicalizeItems_eq]
  refine (List.map_congr_left fun v hv => ?_).trans (List.map_id _)
  rw [mem_canonicalizeArraySorted, canonicalizeItems_eq] at hv
  obtain ⟨u, -, rfl⟩ := List.mem_map.mp hv
  exact canonicalizeJsonValue_idem u

theorem canonicalizeArraySorted_idem (items : List Json) :
    canonicalizeArraySorted hasher (canonicalizeArraySorted hasher items) =
      canonicalizeArraySorted hasher items := by
  rw [canonicalizeArraySorted, canonicalizeItems_sorted, canonicalizeArraySorted,
    (List.pairwise_insertionSort _ _).insertionSort_eq]

theorem canonicalizeScopeDefinition_idem (scope : ScopeDefinition) :
    canonicalizeJsonValue (canonicalizeScopeDefinition hasher scope) =
      canonicalizeScopeDefinition hasher scope := by
  have hint (n : Int) : canonicalizeJsonValue (.ofInt n) = .ofInt n := by
    rw [Json.ofInt]
    split <;> rfl
  have harray (items : List Json) :
      canonicalizeJsonValue (.array (canonicalizeArraySorted hasher items)) =
        .array (canonicalizeArraySorted hasher items) := by
    rw [canonicalizeJsonValue, canonicalizeItems_sorted]
  have hnames : ["affected_resources", "min_approvals", "required_approvers",
      "scope_type"].Pairwise (· ≤ ·) := by decide
  rw [canonicalizeScopeDefinition, canonicalizeJsonValue]
  simp only [canonicalizeFields, harray, hint]
  exact congrArg Json.object (List.Pairwise.insertionSort_eq (List.pairwise_map.mp hnames))

theorem Json.distinctNamesItems_iff {items : List Json} :
    Json.DistinctNamesItems items ↔ ∀ v ∈ items, v.DistinctNames := by
  induction items with
  | nil => simp [Json.DistinctNamesItems]
  | cons v rest ih => rw [Json.DistinctNamesItems, List.forall_mem_cons, ih]

/-- Lists of items have the same canonical form if they are the same in some order. -/
theorem canonicalizeArraySorted_eq_iff {items items' : List Json}
    (htext : CollisionFree hasher.jsonText (canonicalizeItems items))
    (h : Json.DistinctNamesItems items) (h' : Json.DistinctNamesItems items') :
    canonicalizeArraySorted hasher items = canonicalizeArraySorted hasher items' ↔
      Json.SameMultiset items items' := by
  rw [canonicalizeArraySorted, canonicalizeArraySorted, insertionSort_eq_iff _ htext]
  have hreordered {reordered : List Json} (hperm : reordered.Perm items) :
      canonicalizeItems reordered = canonicalizeItems items' ↔
        Json.SameItems reordered items' := by
    refine Json.sameItems_iff reordered items' (Json.distinctNamesItems_iff.mpr fun v hv => ?_) h'
    exact Json.distinctNamesItems_iff.mp h v (hperm.mem_iff.mp hv)
  constructor
  · intro hperm
    rw [canonicalizeItems_eq, canonicalizeItems_eq] at hperm
    have hlike : List.Forall₂ (fun c v => c = canonicalizeJsonValue v)
        (items.map canonicalizeJsonValue) items := by
      rw [List.forall₂_map_left_iff, List.forall₂_same]
      exact fun _ _ => rfl
    obtain ⟨reordered, hsame, hreorder⟩ := List.perm_comp_forall₂ hperm.symm hlike
    have hcanonical := List.forall₂_eq_eq_eq ▸ List.forall₂_map_right_iff.mpr hsame
    refine ⟨reordered, hreorder, (hreordered hreorder).mp ?_⟩
    rw [canonicalizeItems_eq, canonicalizeItems_eq, hcanonical]
  · rintro ⟨reordered, hreorder, hsame⟩
    rw [← (hreordered hreorder).mpr hsame, canonicalizeItems_eq, canonicalizeItems_eq]
    exact (hreorder.map _).symm

theorem scopeTypeToString_inj {t t' : ScopeType} :
    scopeTypeToString t = scopeTypeToString t' ↔ t = t' := by
  refine ⟨fun h => ?_, congrArg _⟩
  rw [← scopeTypeFromString_toString t, h, scopeTypeFromString_toString]

/-- The scopes have the same hash exactly if they differ at most in the order of their resources, of
their approvers, and of the fields of an object; and a canonical form is its own. The digests and
the texts of the values at hand do not collide. -/
theorem computeScopeHash_eq_iff (scope scope' : ScopeDefinition)
    (hdigest : CollisionFree hasher.digest
      [canonicalizeScopeDefinition hasher scope, canonicalizeScopeDefinition hasher scope'])
    (htext : CollisionFree hasher.jsonText
      (canonicalizeItems (scope.affectedResources ++ scope.requiredApprovers)))
    (hnames : Json.DistinctNamesItems (scope.affectedResources ++ scope.requiredApprovers))
    (hnames' : Json.DistinctNamesItems (scope'.affectedResources ++ scope'.requiredApprovers)) :
    (computeScopeHash hasher scope = computeScopeHash hasher scope' ↔
      scope.scopeType = scope'.scopeType ∧ scope.minApprovals = scope'.minApprovals ∧
      Json.SameMultiset scope.affectedResources scope'.affectedResources ∧
      Json.SameMultiset scope.requiredApprovers scope'.requiredApprovers) ∧
    (∀ v, canonicalizeJsonValue (canonicalizeJsonValue v) = canonicalizeJsonValue v) ∧
    (∀ items, canonicalizeArraySorted hasher (canonicalizeArraySorted hasher items) =
      canonicalizeArraySorted hasher items) ∧
    canonicalizeJsonValue (canonicalizeScopeDefinition hasher scope) =
      canonicalizeScopeDefinition hasher scope := by
  refine ⟨?_, canonicalizeJsonValue_idem, canonicalizeArraySorted_idem hasher,
    canonicalizeScopeDefinition_idem hasher scope⟩
  have hhash : computeScopeHash hasher scope = computeScopeHash hasher scope' ↔
      canonicalizeScopeDefinition hasher scope = canonicalizeScopeDefinition hasher scope' :=
    ⟨hdigest _ (by simp) _ (by simp), fun h => by rw [computeScopeHash, h, computeScopeHash]⟩
  rw [Json.distinctNamesItems_iff, List.forall_mem_append] at hnames hnames'
  rw [canonicalizeItems_eq, List.map_append, ← canonicalizeItems_eq,
    ← canonicalizeItems_eq] at htext
  have hresources := canonicalizeArraySorted_eq_iff hasher
    (fun a ha b hb => htext a (List.mem_append_left _ ha) b (List.mem_append_left _ hb))
    (Json.distinctNamesItems_iff.mpr hnames.1) (Json.distinctNamesItems_iff.mpr hnames'.1)
  have happrovers := canonicalizeArraySorted_eq_iff hasher
    (fun a ha b hb => htext a (List.mem_append_right _ ha) b (List.mem_append_right _ hb))
    (Json.distinctNamesItems_iff.mpr hnames.2) (Json.distinctNamesItems_iff.mpr hnames'.2)
  rw [hhash, ← hresources, ← happrovers, ← scopeTypeToString_inj, ← Json.ofInt_injective.eq_iff]
  simp only [canonicalizeScopeDefinition, Json.object.injEq, List.cons.injEq, Prod.mk.injEq,
    true_and, and_true, Json.array.injEq, Json.string.injEq]
  tauto

section Sample

def typeFirst (id : String) : Json := .object [("type", .string "artifact"), ("id", .string id)]

def idFirst (id : String) : Json := .object [("id", .string id), ("type", .string "artifact")]

def forwardScope : ScopeDefinition where
  scopeType := .partially
  affectedResources := [typeFirst "a", idFirst "b"]
  requiredApprovers := [.string "u1", .string "u2"]

/-- The same resources and approvers, and the fields of each resource, the other way round. -/
def backwardScope : ScopeDefinition where
  scopeType := .partially
  affectedResources := [typeFirst "b", idFirst "a"]
  requiredApprovers := [.string "u2", .string "u1"]

def definitionHasher : Hasher :=
  sampleHasher
    [("\x7b\"affected_resources\":[\x7b\"id\":\"a\",\"type\":\"artifact\"\x7d," ++
        "\x7b\"id\":\"b\",\"type\":\"artifact\"\x7d],\"min_approvals\":1," ++
        "\"required_approvers\":[\"u1\",\"u2\"],\"scope_type\":\"partial\"\x7d",
      "3c79ab77cef80627278033b62cb0ff7aed6294b031932085c50375e4e48730d8")]

theorem typeFirst_same (id : String) : (typeFirst id).Same (idFirst id) :=
  ⟨.swap _ _ _, ⟨_, .tail _ (.head _), rfl⟩, ⟨_, .head _, rfl⟩, trivial⟩

theorem idFirst_same (id : String) : (idFirst id).Same (typeFirst id) :=
  ⟨.swap _ _ _, ⟨_, .tail _ (.head _), rfl⟩, ⟨_, .head _, rfl⟩, trivial⟩

theorem distinctNames_resources (id : String) :
    (typeFirst id).DistinctNames ∧ (idFirst id).DistinctNames :=
  ⟨⟨by simp, trivial, trivial, trivial⟩, ⟨by simp, trivial, trivial, trivial⟩⟩

theorem computeScopeHash_sample : computeScopeHash definitionHasher forwardScope =
    computeScopeHash definitionHasher backwardScope := by
  have hresources : Json.SameMultiset forwardScope.affectedResources
      backwardScope.affectedResources :=
    ⟨_, .swap _ _ _, idFirst_same "b", typeFirst_same "a", trivial⟩
  have happrovers : Json.SameMultiset forwardScope.requiredApprovers
      backwardScope.requiredApprovers := ⟨_, .swap _ _ _, rfl, rfl, trivial⟩
  have hnames : Json.DistinctNamesItems forwardScope.affectedResources :=
    ⟨(distinctNames_resources "a").1, (distinctNames_resources "b").2, trivial⟩
  have hnames' : Json.DistinctNamesItems backwardScope.affectedResources :=
    ⟨(distinctNames_resources "b").1, (distinctNames_resources "a").2, trivial⟩
  have happroverNames : Json.DistinctNamesItems forwardScope.requiredApprovers ∧
      Json.DistinctNamesItems backwardScope.requiredApprovers :=
    ⟨⟨trivial, trivial, trivial⟩, ⟨trivial, trivial, trivial⟩⟩
  have hcanonical : canonicalizeScopeDefinition definitionHasher forwardScope =
      canonicalizeScopeDefinition definitionHasher backwardScope := by
    rw [canonicalizeScopeDefinition, canonicalizeScopeDefinition,
      (canonicalizeArraySorted_eq_iff definitionHasher
        (.of_nodup (List.Subset.refl _) (by decide +kernel)) hnames hnames').mpr hresources,
      (canonicalizeArraySorted_eq_iff definitionHasher
        (.of_nodup (List.Subset.refl _) (by decide +kernel)) happroverNames.1
        happroverNames.2).mpr happrovers]
    rfl
  refine (computeScopeHash_eq_iff definitionHasher forwardScope backwardScope ?_
    (.of_nodup (List.Subset.refl _) (by decide +kernel)) ?_ ?_).1.mpr
    ⟨rfl, rfl, hresources, happrovers⟩
  · intro a ha b hb _
    rw [hcanonical, List.mem_cons, List.mem_singleton, or_self] at ha hb
    rw [ha, hb]
  · exact ⟨hnames.1, hnames.2.1, happroverNames.1⟩
  · exact ⟨hnames'.1, hnames'.2.1, happroverNames.2⟩

end Sample

end Hash

end IntentRebase
