import Mathlib.Data.List.Sort
import IntentRebase.Kit.HashMap

/-! Listings ordered by time, latest first, and cut to a length: when the order in which the items
are read does not show. -/

namespace Kit

variable {α β : Type} [LinearOrder β] (time : α → β)

/-- Every rearrangement of a list is the order in which it may be read. -/
theorem IterOrder.exists_apply {γ : Type} {items target : List γ} (h : target.Perm items) :
    ∃ order : IterOrder γ, order.apply items = target := by
  classical
  refine ⟨⟨fun l => if l = items then target else l, fun l => ?_⟩, if_pos rfl⟩
  split
  · next heq => exact heq ▸ h
  · exact .rfl

/-- The items, latest first; items of one time stay in the order they had. -/
def latestFirst (items : List α) : List α := items.mergeSort fun a b => time b ≤ time a

/-- How many items are later than a given one. -/
def laterCount (items : List α) (a : α) : Nat := items.countP fun b => time a < time b

/-- Of two items of one time, neither is among the first `n`. -/
def Settled (n : Nat) (items : List α) : Prop :=
  ∀ a ∈ items, ∀ b ∈ items, a ≠ b → time a = time b → n ≤ laterCount time items a

theorem order_trans (a b c : α) (hab : decide (time b ≤ time a) = true)
    (hbc : decide (time c ≤ time b) = true) : decide (time c ≤ time a) = true := by
  rw [decide_eq_true_eq] at *
  exact hbc.trans hab

theorem order_total (a b : α) : (decide (time b ≤ time a) || decide (time a ≤ time b)) = true := by
  simpa using le_total (time b) (time a)

theorem latestFirst_perm (items : List α) : (latestFirst time items).Perm items :=
  List.mergeSort_perm _ _

theorem latestFirst_pairwise (items : List α) :
    (latestFirst time items).Pairwise fun a b => time b ≤ time a := by
  have h : (items.mergeSort fun a b => decide (time b ≤ time a)).Pairwise
      fun a b => decide (time b ≤ time a) = true :=
    List.pairwise_mergeSort (order_trans time) (order_total time) items
  exact h.imp of_decide_eq_true

/-- Sorting leaves as they are the items that are in order, and no others. -/
theorem latestFirst_eq_self {items : List α} :
    latestFirst time items = items ↔ items.Pairwise fun a b => time b ≤ time a := by
  constructor
  · intro h
    exact h ▸ latestFirst_pairwise time items
  · exact fun h => List.mergeSort_of_pairwise (h.imp decide_eq_true)

theorem latestFirst_map {γ : Type} (f : γ → α) (items : List γ) :
    latestFirst time (items.map f) = (latestFirst (time ∘ f) items).map f := by
  refine (List.map_mergeSort (f := f) ?_).symm
  exact fun _ _ _ _ => rfl

theorem mem_latestFirst {items : List α} {a : α} : a ∈ latestFirst time items ↔ a ∈ items :=
  (latestFirst_perm time items).mem_iff

/-- Rearrangements are listed with their times in the same order. -/
theorem latestFirst_times {items items' : List α} (h : items.Perm items') :
    (latestFirst time items).map time = (latestFirst time items').map time := by
  refine List.Perm.eq_of_pairwise (fun a b _ _ hab hba => le_antisymm hba hab) ?_ ?_
    (((latestFirst_perm time items).trans (h.trans (latestFirst_perm time items').symm)).map time)
  · exact List.pairwise_map.mpr (latestFirst_pairwise time items)
  · exact List.pairwise_map.mpr (latestFirst_pairwise time items')

variable {time} {n : Nat} {items items' : List α} {a : α}

theorem laterCount_perm (h : items.Perm items') (a : α) :
    laterCount time items a = laterCount time items' a := h.countP_eq _

theorem Settled.perm (hs : Settled time n items) (h : items.Perm items') :
    Settled time n items' := by
  intro a ha b hb hne htime
  rw [← laterCount_perm h]
  exact hs a (h.mem_iff.mpr ha) b (h.mem_iff.mpr hb) hne htime

theorem Settled.tail (hs : Settled time (n + 1) (a :: items)) : Settled time n items := by
  intro b hb c hc hne htime
  have h := hs b (List.mem_cons_of_mem _ hb) c (List.mem_cons_of_mem _ hc) hne htime
  have hle : laterCount time (a :: items) b ≤ laterCount time items b + 1 := by
    rw [laterCount, List.countP_cons]
    split
    · exact le_rfl
    · exact Nat.le_add_right _ 1
  omega

/-- Two sorted lists of the same items agree as far as no tie shows. -/
theorem take_eq_of_settled : ∀ {n : Nat} {items items' : List α}, items.Perm items' →
    (items.Pairwise fun a b => time b ≤ time a) →
    (items'.Pairwise fun a b => time b ≤ time a) → Settled time n items →
    items.take n = items'.take n
  | 0, _, _, _, _, _, _ => rfl
  | _ + 1, [], _, hperm, _, _, _ => by rw [hperm.nil_eq]
  | n + 1, a :: rest, [], hperm, _, _, _ => absurd hperm.length_eq (by simp)
  | n + 1, a :: rest, b :: rest', hperm, hs, hs', hsettled => by
    rw [List.pairwise_cons] at hs hs'
    have hmax : ∀ c ∈ a :: rest, time c ≤ time a := by
      intro c hc
      rcases List.mem_cons.mp hc with rfl | hc
      · exact le_rfl
      · exact hs.1 c hc
    have hb : b ∈ a :: rest := hperm.mem_iff.mpr List.mem_cons_self
    have htime : time a = time b := by
      refine le_antisymm ?_ (hmax b hb)
      rcases List.mem_cons.mp (hperm.mem_iff.mp List.mem_cons_self) with rfl | ha
      · exact le_rfl
      · exact hs'.1 a ha
    have heq : a = b := by
      by_contra hne
      have hlater := hsettled a List.mem_cons_self b hb hne htime
      have hnone : laterCount time (a :: rest) a = 0 := by
        refine List.countP_eq_zero.mpr fun c hc => ?_
        simpa using hmax c hc
      omega
    subst heq
    rw [List.take_succ_cons, List.take_succ_cons,
      take_eq_of_settled hperm.cons_inv hs.2 hs'.2 hsettled.tail]

/-- An item that is read first stands first among those of its time. -/
theorem getElem_latestFirst_cons (time : α → β) (a : α) (rest : List α) :
    (latestFirst time (a :: rest))[laterCount time rest a]? = some a := by
  obtain ⟨front, back, hsort, hrest, hfront⟩ :=
    List.mergeSort_cons (order_trans time) (order_total time) a rest
  have hsorted : (front ++ a :: back).Pairwise fun a b => time b ≤ time a :=
    hsort ▸ latestFirst_pairwise time (a :: rest)
  have hback : ∀ b ∈ back, ¬ time a < time b := by
    intro b hb
    have hafter := (List.pairwise_append.mp hsorted).2.1
    exact not_lt.mpr ((List.pairwise_cons.mp hafter).1 b hb)
  have hcount : laterCount time rest a = front.length := by
    rw [← laterCount_perm (latestFirst_perm time rest), latestFirst, hrest, laterCount,
      List.countP_append, List.countP_eq_length.mpr, List.countP_eq_zero.mpr, Nat.add_zero]
    · intro b hb
      simpa using hback b hb
    · intro b hb
      simpa using hfront b hb
  rw [latestFirst, hsort, hcount, List.getElem?_append_right le_rfl, Nat.sub_self]
  rfl

theorem laterCount_erase [DecidableEq α] (ha : a ∈ items) :
    laterCount time (items.erase a) a = laterCount time items a := by
  rw [laterCount_perm (List.perm_cons_erase ha), laterCount, laterCount, List.countP_cons_of_neg]
  simp

/-- The first `n` items do not depend on the order of reading exactly if no tie is among them. -/
theorem settled_iff :
    Settled time n items ↔ ∀ l l', l.Perm items → l'.Perm items →
      (latestFirst time l).take n = (latestFirst time l').take n := by
  classical
  constructor
  · intro hs l l' hl hl'
    have hperm := (latestFirst_perm time l).trans (hl.trans (hl'.symm.trans
      (latestFirst_perm time l').symm))
    exact take_eq_of_settled hperm (latestFirst_pairwise time l) (latestFirst_pairwise time l')
      (hs.perm (hl.symm.trans (latestFirst_perm time l).symm))
  · intro h a ha b hb hne htime
    by_contra hlt
    have htake := h _ _ (List.perm_cons_erase ha).symm (List.perm_cons_erase hb).symm
    have hlater : laterCount time (items.erase b) b = laterCount time items a := by
      rw [laterCount_erase hb, laterCount, laterCount, htime]
    have ha' := getElem_latestFirst_cons time a (items.erase a)
    have hb' := getElem_latestFirst_cons time b (items.erase b)
    rw [laterCount_erase ha, ← List.getElem?_take_of_lt (not_le.mp hlt), htake,
      List.getElem?_take_of_lt (not_le.mp hlt), ← hlater, hb'] at ha'
    exact hne (Option.some.inj ha').symm

end Kit
