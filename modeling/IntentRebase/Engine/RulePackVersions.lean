import IntentRebase.Engine.RulePackRegistry
import IntentRebase.Kit.DecimalText

/-! Versions of rule packs: the texts that are accepted, and when the registry, which sorts the
texts, sorts the numbers in them. -/

namespace IntentRebase

open Kit

/-- The text after a plus sign, if it has one. -/
def unsignedText : List Char → List Char
  | '+' :: digits => digits
  | digits => digits

/-- A number of 32 bits in decimal digits, which a plus sign may precede. -/
def parseU32 (text : List Char) : Option Nat :=
  let digits := unsignedText text
  if digits.isEmpty || !digits.all Char.isDigit then none
  else if decimalValue digits < 2 ^ 32 then some (decimalValue digits) else none

namespace RulePackVersion

def parse (s : String) : Option RulePackVersion :=
  if s.toList.head? = some 'v' ∧ s.utf8ByteSize ≥ 4 then
    let parts := (s.toList.drop 1).splitOn '.'
    if parts.length = 3 ∧ parts.all (fun p => (parseU32 p).isSome) = true then some ⟨s⟩ else none
  else none

def display (version : RulePackVersion) : String := version.value

/-- The texts between the dots. -/
def parts (version : RulePackVersion) : List (List Char) :=
  (version.value.toList.drop 1).splitOn '.'

end RulePackVersion

/-- The number of a part that is accepted. -/
def partNumber (text : List Char) : Nat := decimalValue (unsignedText text)

/-- The major, the minor and the patch number; lists of numbers compare lexicographically. -/
def RulePackVersion.numbers (version : RulePackVersion) : List Nat := version.parts.map partNumber

/-- The part has a plus sign. -/
def HasSign (text : List Char) : Prop := text.head? = some '+'

instance (text : List Char) : Decidable (HasSign text) := inferInstanceAs (Decidable (_ = _))

/-- How the texts of two parts compare, by their numbers: a plus sign comes first, and then the
leading digits decide. -/
def PartBefore (p q : List Char) : Prop :=
  (HasSign p ∧ ¬ HasSign q) ∨
    ((HasSign p ↔ HasSign q) ∧
      TextBefore (unsignedText p).length (partNumber p) (unsignedText q).length (partNumber q))

instance : DecidableRel PartBefore := fun _ _ => inferInstanceAs (Decidable (_ ∨ _))

/-- At the first part whose texts differ, the texts compare as the numbers do, there or, where its
numbers are equal, in the later parts. -/
def OrderedAsNumbers : List (List Char) → List (List Char) → Prop
  | p :: ps, q :: qs =>
    if p = q then OrderedAsNumbers ps qs
    else if partNumber p = partNumber q then
      (PartBefore p q ∧ ps.map partNumber < qs.map partNumber) ∨
        (PartBefore q p ∧ qs.map partNumber < ps.map partNumber)
    else PartBefore p q ↔ partNumber p < partNumber q
  | _, _ => True

instance : ∀ ps qs : List (List Char), Decidable (OrderedAsNumbers ps qs)
  | _ :: ps, _ :: qs =>
    have : Decidable (OrderedAsNumbers ps qs) := instDecidableOrderedAsNumbers ps qs
    inferInstanceAs (Decidable (ite _ _ _))
  | [], _ => inferInstanceAs (Decidable True)
  | _ :: _, [] => inferInstanceAs (Decidable True)

section Parts

variable {p q : List Char}

/-- The text is accepted as a part. -/
def IsNumber (text : List Char) : Prop := (parseU32 text).isSome = true

theorem IsNumber.digits (h : IsNumber p) :
    AllDigits (unsignedText p) ∧ unsignedText p ≠ [] ∧ parseU32 p = some (partNumber p) := by
  unfold IsNumber parseU32 at h
  unfold parseU32
  dsimp only at h ⊢
  split at h
  · cases h
  next hdigits =>
  split at h
  · next hbound =>
    rw [if_neg hdigits, if_pos hbound]
    rw [Bool.or_eq_true, not_or, List.isEmpty_iff, Bool.not_eq_true', Bool.not_eq_false,
      List.all_eq_true] at hdigits
    exact ⟨hdigits.2, hdigits.1, rfl⟩
  · cases h

theorem unsignedText_of_hasSign (h : HasSign p) : p = '+' :: unsignedText p := by
  cases p with
  | nil => cases h
  | cons c rest =>
    obtain rfl : c = '+' := Option.some.inj h
    rfl

theorem unsignedText_of_not_hasSign (h : ¬ HasSign p) : unsignedText p = p := by
  unfold unsignedText
  split
  · exact absurd rfl h
  · rfl

/-- What follows the first character of a part comes after the dot. -/
theorem IsNumber.cons (h : IsNumber p) :
    ∃ c rest, p = c :: rest ∧ ∀ d ∈ rest, '.' < d := by
  obtain ⟨hdigits, hne, -⟩ := h.digits
  have hstop : ∀ d, d.isDigit = true → '.' < d := by
    intro d hd
    rw [char_lt_iff]
    exact (show 46 < 48 by decide).trans_le (isDigit_bounds hd).1
  by_cases hsign : HasSign p
  · exact ⟨'+', unsignedText p, unsignedText_of_hasSign hsign, fun d hd => hstop d (hdigits d hd)⟩
  · rw [unsignedText_of_not_hasSign hsign] at hdigits hne
    obtain ⟨c, rest, rfl⟩ := List.exists_cons_of_ne_nil hne
    exact ⟨c, rest, rfl, fun d hd => hstop d (hdigits.tail d hd)⟩

/-- The texts of two parts compare by their signs and their leading digits. -/
theorem IsNumber.lt_iff (hp : IsNumber p) (hq : IsNumber q) : p < q ↔ PartBefore p q := by
  obtain ⟨hpdigits, hpne, -⟩ := hp.digits
  obtain ⟨hqdigits, hqne, -⟩ := hq.digits
  have hdigits : unsignedText p < unsignedText q ↔
      TextBefore (unsignedText p).length (partNumber p) (unsignedText q).length (partNumber q) :=
    hpdigits.lt_iff hqdigits
  -- A plus sign comes before every digit.
  have hplus : ∀ {digits : List Char}, AllDigits digits → digits ≠ [] → ∀ rest,
      '+' :: rest < digits := by
    intro digits hall hne rest
    obtain ⟨c, tail, rfl⟩ := List.exists_cons_of_ne_nil hne
    refine List.cons_lt_cons_iff.mpr (.inl ?_)
    rw [char_lt_iff]
    exact (show 43 < 48 by decide).trans_le hall.head.1
  rw [PartBefore, ← hdigits]
  by_cases hpsign : HasSign p
  · by_cases hqsign : HasSign q
    · simp only [hpsign, hqsign, not_true_eq_false, and_false, iff_self, true_and, false_or]
      conv_lhs => rw [unsignedText_of_hasSign hpsign, unsignedText_of_hasSign hqsign]
      simp
    · rw [unsignedText_of_not_hasSign hqsign] at hqdigits hqne
      have hlt : p < q := by
        rw [unsignedText_of_hasSign hpsign]
        exact hplus hqdigits hqne _
      exact iff_of_true hlt (.inl ⟨hpsign, hqsign⟩)
  · by_cases hqsign : HasSign q
    · rw [unsignedText_of_not_hasSign hpsign] at hpdigits hpne
      have hlt : q < p := by
        rw [unsignedText_of_hasSign hqsign]
        exact hplus hpdigits hpne _
      refine iff_of_false hlt.not_gt ?_
      rintro (⟨hsign, -⟩ | ⟨hsame, -⟩)
      · exact hpsign hsign
      · exact hpsign (hsame.mpr hqsign)
    · simp only [hpsign, hqsign, false_and, iff_self, true_and, false_or,
        unsignedText_of_not_hasSign, not_false_eq_true]

end Parts

section Order

variable {s t : String} {a b : RulePackVersion}

/-- An accepted version has three numbers, with dots between them. -/
structure Accepted (version : RulePackVersion) : Prop where
  text : version.value.toList = 'v' :: ['.'].intercalate version.parts
  length : version.parts.length = 3
  number : ∀ p ∈ version.parts, IsNumber p

theorem RulePackVersion.parse_accepted (h : RulePackVersion.parse s = some a) : Accepted a := by
  unfold RulePackVersion.parse at h
  split at h
  · next hstart =>
    dsimp only at h
    split at h
    · next hparts =>
      obtain rfl := Option.some.inj h
      refine ⟨?_, hparts.1, fun p hp => List.all_eq_true.mp hparts.2 p hp⟩
      rw [RulePackVersion.parts, List.intercalate_splitOn]
      cases htext : s.toList with
      | nil =>
        rw [htext] at hstart
        cases hstart.1
      | cons c rest =>
        rw [htext] at hstart
        rw [Option.some.inj hstart.1]
        rfl
    · cases h
  · cases h

/-- Versions compare as the lists of their texts. -/
theorem Accepted.value_lt_iff (ha : Accepted a) (hb : Accepted b) :
    a.value < b.value ↔ a.parts < b.parts := by
  obtain ⟨p₁, p₂, p₃, hp⟩ := List.length_eq_three.mp ha.length
  obtain ⟨q₁, q₂, q₃, hq⟩ := List.length_eq_three.mp hb.length
  have hanumber := ha.number
  have hbnumber := hb.number
  rw [hp] at hanumber
  rw [hq] at hbnumber
  obtain ⟨c₁, rest₁, rfl, hc₁⟩ := (hanumber p₁ (by simp)).cons
  obtain ⟨c₂, rest₂, rfl, hc₂⟩ := (hanumber p₂ (by simp)).cons
  obtain ⟨d₁, tail₁, rfl, hd₁⟩ := (hbnumber q₁ (by simp)).cons
  obtain ⟨d₂, tail₂, rfl, hd₂⟩ := (hbnumber q₂ (by simp)).cons
  have hjoin : ∀ p₁ p₂ p₃ : List Char,
      ['.'].intercalate [p₁, p₂, p₃] = p₁ ++ '.' :: (p₂ ++ '.' :: p₃) := by
    intro p₁ p₂ p₃
    simp [List.intercalate]
  have hirrefl : ¬ ([] : List (List Char)) < [] := List.not_lt_nil _
  rw [String.lt_iff_toList_lt, ha.text, hb.text, hp, hq, hjoin, hjoin, List.cons_lt_cons_iff,
    headed_lt_headed_iff hc₁ hd₁, headed_lt_headed_iff hc₂ hd₂]
  simp only [List.cons_lt_cons_iff (α := List Char), hirrefl, and_false, or_false, lt_irrefl,
    true_and, false_or]

/-- The texts of two versions compare as their numbers, both ways, exactly if the numbers decide as
the first part does whose texts differ. -/
theorem orderedAsNumbers_iff {ps qs : List (List Char)} (hlength : ps.length = qs.length)
    (hps : ∀ p ∈ ps, IsNumber p) (hqs : ∀ q ∈ qs, IsNumber q) :
    ((ps < qs ↔ ps.map partNumber < qs.map partNumber) ∧
      (qs < ps ↔ qs.map partNumber < ps.map partNumber)) ↔ OrderedAsNumbers ps qs := by
  induction ps generalizing qs with
  | nil =>
    obtain rfl := List.length_eq_zero_iff.mp hlength.symm
    exact iff_of_true ⟨by simp, by simp⟩ trivial
  | cons p ps ih =>
    cases qs with
    | nil => cases hlength
    | cons q qs =>
      have hrest := ih (Nat.succ.inj hlength) (fun p' hp' => hps p' (List.mem_cons_of_mem _ hp'))
        (fun q' hq' => hqs q' (List.mem_cons_of_mem _ hq'))
      have hp : IsNumber p := hps p List.mem_cons_self
      have hq : IsNumber q := hqs q List.mem_cons_self
      rw [OrderedAsNumbers, List.map_cons, List.map_cons, List.cons_lt_cons_iff,
        List.cons_lt_cons_iff, List.cons_lt_cons_iff, List.cons_lt_cons_iff, hp.lt_iff hq,
        hq.lt_iff hp]
      by_cases hsame : p = q
      · subst hsame
        have hirrefl : ¬ PartBefore p p := fun h => lt_irrefl p ((hp.lt_iff hp).mpr h)
        simpa [hirrefl] using hrest
      rw [if_neg hsame]
      -- The texts differ here, so that one of them comes before the other.
      have hother : PartBefore q p ↔ ¬ PartBefore p q := by
        rw [← hp.lt_iff hq, ← hq.lt_iff hp, not_lt]
        exact ⟨le_of_lt, fun h => lt_of_le_of_ne h (Ne.symm hsame)⟩
      simp only [hsame, Ne.symm hsame, false_and, or_false]
      by_cases hnumber : partNumber p = partNumber q
      · have hasymm : ps.map partNumber < qs.map partNumber →
            ¬ qs.map partNumber < ps.map partNumber := lt_asymm
        simp only [hnumber, if_true, lt_irrefl, true_and, false_or, hother]
        by_cases hbefore : PartBefore p q
        · simp only [hbefore, true_iff, not_true_eq_false, false_iff, true_and, false_and, or_false]
          exact and_iff_left_of_imp hasymm
        · simp only [hbefore, false_iff, not_false_eq_true, true_iff, false_and, true_and, false_or]
          exact and_iff_right_of_imp fun h h' => hasymm h' h
      · have hnumbers : partNumber q < partNumber p ↔ ¬ partNumber p < partNumber q := by omega
        simp only [hnumber, Ne.symm hnumber, if_false, false_and, or_false, hnumbers, hother,
          not_iff_not, and_self]

end Order

section Registry

/-- Two members of a list that is sorted, without duplicates, stand in it as they are sorted. -/
theorem pair_sublist_iff {α : Type} {r : α → α → Prop} {l : List α} (hsorted : l.Pairwise r)
    (hnodup : l.Nodup) (hanti : ∀ x y, r x y → r y x → x = y) {x y : α} (hx : x ∈ l)
    (hy : y ∈ l) : [x, y].Sublist l ↔ x ≠ y ∧ r x y := by
  constructor
  · intro hsub
    have hpair := List.pairwise_cons.mp (hsorted.sublist hsub)
    have hne := List.pairwise_cons.mp (hnodup.sublist hsub)
    exact ⟨hne.1 y List.mem_cons_self, hpair.1 y List.mem_cons_self⟩
  · rintro ⟨hne, hr⟩
    induction l with
    | nil => cases hx
    | cons z l ih =>
      obtain ⟨hz, hsorted'⟩ := List.pairwise_cons.mp hsorted
      rcases List.mem_cons.mp hx with rfl | hxl
      · have hyl := (List.mem_cons.mp hy).resolve_left (Ne.symm hne)
        exact (List.singleton_sublist.mpr hyl).cons_cons x
      · rcases List.mem_cons.mp hy with rfl | hyl
        · exact absurd (hanti x y hr (hz x hxl)) hne
        · exact (ih hsorted' (List.nodup_cons.mp hnodup).2 hxl hyl).cons z

variable {repo : TenantRulePackRepository} {tenantId : Uuid} {a b : RulePackVersion}

theorem TenantRulePackRepository.listVersions_sorted (repo : TenantRulePackRepository)
    (tenantId : Uuid) :
    (repo.listVersions tenantId).Pairwise (fun a b => a.value ≤ b.value) ∧
      (repo.listVersions tenantId).Nodup := by
  unfold TenantRulePackRepository.listVersions
  cases repo.lookup tenantId with
  | none => exact ⟨.nil, .nil⟩
  | some packs =>
    constructor
    · refine (List.pairwise_mergeSort (fun a b c hab hbc => ?_) (fun a b => ?_) packs.keys).imp
        fun h => of_decide_eq_true h
      · exact decide_eq_true (le_trans (of_decide_eq_true hab) (of_decide_eq_true hbc))
      · rw [Bool.or_eq_true, decide_eq_true_iff, decide_eq_true_iff]
        exact le_total _ _
    · exact (List.mergeSort_perm _ _).nodup_iff.mpr packs.keys_nodup

/-- The registry lists two of its versions in the order of their texts. -/
theorem TenantRulePackRepository.listed_before_iff (ha : a ∈ repo.listVersions tenantId)
    (hb : b ∈ repo.listVersions tenantId) :
    [a, b].Sublist (repo.listVersions tenantId) ↔ a.value < b.value := by
  obtain ⟨hsorted, hnodup⟩ := repo.listVersions_sorted tenantId
  have hext : ∀ {x y : RulePackVersion}, x.value = y.value → x = y := fun h =>
    congrArg RulePackVersion.mk h
  rw [pair_sublist_iff hsorted hnodup (fun x y hxy hyx => hext (le_antisymm hxy hyx)) ha hb,
    lt_iff_le_and_ne, and_comm]
  exact and_congr_right' ⟨fun hne hvalue => hne (hext hvalue), fun hne hab => hne (hab ▸ rfl)⟩

/-- Whatever else the registry has, it lists the one version before the other exactly if its
numbers are smaller. -/
def ListedByNumber (a b : RulePackVersion) : Prop :=
  ∀ (repo : TenantRulePackRepository) (tenantId : Uuid), a ∈ repo.listVersions tenantId →
    b ∈ repo.listVersions tenantId →
    ([a, b].Sublist (repo.listVersions tenantId) ↔ a.numbers < b.numbers)

theorem listedByNumber_iff : ListedByNumber a b ↔ (a.value < b.value ↔ a.numbers < b.numbers) := by
  constructor
  · intro h
    -- A registry that has both versions.
    let packs : TenantPacks := ((∅ : TenantPacks).insert a .default).insert b .default
    let repo : TenantRulePackRepository := (∅ : TenantRulePackRepository).insert 0 packs
    have hlist : ∀ version, version ∈ repo.listVersions 0 ↔ version ∈ packs.keys := by
      intro version
      rw [TenantRulePackRepository.listVersions, AList.lookup_insert]
      exact (List.mergeSort_perm _ _).mem_iff
    have ha : a ∈ repo.listVersions 0 := by
      rw [hlist, ← AList.mem_keys, AList.mem_insert, AList.mem_insert]
      exact .inr (.inl rfl)
    have hb : b ∈ repo.listVersions 0 := by
      rw [hlist, ← AList.mem_keys, AList.mem_insert]
      exact .inl rfl
    rw [← TenantRulePackRepository.listed_before_iff ha hb]
    exact h repo 0 ha hb
  · intro h repo tenantId ha hb
    rw [TenantRulePackRepository.listed_before_iff ha hb, h]

/-- A version that is displayed and parsed again is the same. -/
theorem RulePackVersion.parse_display {s : String} (h : RulePackVersion.parse s = some a) :
    RulePackVersion.parse a.display = some a := by
  have htext : a.value = s := by
    unfold RulePackVersion.parse at h
    split at h
    · dsimp only at h
      split at h
      · rw [← Option.some.inj h]
      · cases h
    · cases h
  rw [RulePackVersion.display, htext, h]

/-- The registry sorts two accepted versions by their numbers exactly if, at the first part whose
texts differ, the texts compare as the numbers do. A version parses to itself in any case. -/
theorem registry_sorts_by_number_iff {s t : String} {a b : RulePackVersion}
    (ha : RulePackVersion.parse s = some a) (hb : RulePackVersion.parse t = some b) :
    ((ListedByNumber a b ∧ ListedByNumber b a) ∧
      RulePackVersion.parse a.display = some a ∧ RulePackVersion.parse b.display = some b) ↔
    OrderedAsNumbers a.parts b.parts := by
  have hacc := RulePackVersion.parse_accepted ha
  have hbcc := RulePackVersion.parse_accepted hb
  rw [and_iff_left ⟨RulePackVersion.parse_display ha, RulePackVersion.parse_display hb⟩,
    listedByNumber_iff, listedByNumber_iff, hacc.value_lt_iff hbcc, hbcc.value_lt_iff hacc]
  exact orderedAsNumbers_iff (hacc.length.trans hbcc.length.symm) hacc.number hbcc.number

theorem registry_sorts_by_number_iff_sample : ListedByNumber ⟨"v1.9.0"⟩ ⟨"v1.91.7"⟩ :=
  ((registry_sorts_by_number_iff (s := "v1.9.0") (t := "v1.91.7") (by decide) (by decide)).mpr
    (by decide)).1.1

/-- The tenth major version is listed before the ninth. -/
theorem registry_misorders_ten :
    RulePackVersion.parse "v9.0.0" = some ⟨"v9.0.0"⟩ ∧
      RulePackVersion.parse "v10.0.0" = some ⟨"v10.0.0"⟩ ∧
      ¬ ListedByNumber ⟨"v9.0.0"⟩ ⟨"v10.0.0"⟩ := by
  refine ⟨by decide, by decide, fun h => ?_⟩
  exact absurd ((listedByNumber_iff.mp h).mpr (by decide)) (by decide)

end Registry

end IntentRebase
