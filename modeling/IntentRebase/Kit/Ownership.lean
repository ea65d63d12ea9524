import IntentRebase.Kit.UpdateWhere

/-! Changes of a keyed table that touch an owner's entries only: nobody else's entry is changed,
removed, taken over or added. And those that only add entries of the owner. -/

namespace Kit

variable {κ ν : Type} [DecidableEq κ]

/-- Under each key the map is as before, or what it had there and has there now is the owner's. -/
def ChangesOnly (owned : ν → Prop) (before after : HashMap κ ν) : Prop :=
  ∀ k, after.lookup k = before.lookup k ∨
    (∀ v, before.lookup k = some v → owned v) ∧ ∀ v, after.lookup k = some v → owned v

namespace ChangesOnly

variable {owned owned' : ν → Prop} {m m₁ m₂ : HashMap κ ν} {k : κ} {v : ν}

theorem refl (owned : ν → Prop) (m : HashMap κ ν) : ChangesOnly owned m m := fun _ => .inl rfl

theorem trans (h₁ : ChangesOnly owned m m₁) (h₂ : ChangesOnly owned m₁ m₂) :
    ChangesOnly owned m m₂ := by
  intro k
  rcases h₁ k with hsame | ⟨hbefore, hbetween⟩
  · rw [← hsame]
    exact h₂ k
  · rcases h₂ k with hsame | ⟨-, hafter⟩
    · rw [hsame]
      exact .inr ⟨hbefore, hbetween⟩
    · exact .inr ⟨hbefore, hafter⟩

/-- An entry of somebody else is kept. -/
theorem kept (h : ChangesOnly owned m m₁) (hlookup : m.lookup k = some v) (hnot : ¬ owned v) :
    m₁.lookup k = some v := by
  rcases h k with hsame | ⟨hbefore, -⟩
  · rw [hsame, hlookup]
  · exact absurd (hbefore v hlookup) hnot

/-- An entry that is new is the owner's. -/
theorem added (h : ChangesOnly owned m m₁) (hbefore : m.lookup k = none)
    (hlookup : m₁.lookup k = some v) : owned v := by
  rcases h k with hsame | ⟨-, hafter⟩
  · cases (hsame.trans hbefore).symm.trans hlookup
  · exact hafter v hlookup

/-- An entry written over nothing or over one of the owner's. -/
theorem insert (hbefore : ∀ v, m.lookup k = some v → owned v) (hv : owned v) :
    ChangesOnly owned m (m.insert k v) := by
  intro k'
  rw [lookup_insert_eq]
  split
  · next hkey =>
    subst hkey
    refine .inr ⟨hbefore, fun v' hv' => ?_⟩
    cases hv'
    exact hv
  · exact .inl rfl

/-- An update of entries of the owner, who stays their owner. -/
theorem updateWhere {selected : κ → ν → Bool} {set : ν → ν}
    (hselected : ∀ k v, m.lookup k = some v → selected k v = true → owned v)
    (hset : ∀ v, owned v → owned (set v)) :
    ChangesOnly owned m (Kit.updateWhere m selected set) := by
  intro k
  rw [lookup_updateWhere]
  cases hlookup : m.lookup k with
  | none => exact .inl rfl
  | some v =>
    rw [Option.map_some]
    split
    · next hsel =>
      have hv := hselected k v hlookup hsel
      refine .inr ⟨fun v' hv' => ?_, fun v' hv' => ?_⟩
      · cases hv'
        exact hv
      · cases hv'
        exact hset v hv
    · exact .inl rfl

end ChangesOnly

/-- The same of what is seen under each key, whatever it is kept in. -/
def ViewChangesOnly {ι : Type} (owned : ν → Prop) (before after : ι → Option ν) : Prop :=
  ∀ k, after k = before k ∨
    (∀ v, before k = some v → owned v) ∧ ∀ v, after k = some v → owned v

namespace ViewChangesOnly

variable {ι : Type} {owned : ν → Prop} {f f₁ f₂ : ι → Option ν}

theorem refl (owned : ν → Prop) (f : ι → Option ν) : ViewChangesOnly owned f f := fun _ => .inl rfl

theorem trans (h₁ : ViewChangesOnly owned f f₁) (h₂ : ViewChangesOnly owned f₁ f₂) :
    ViewChangesOnly owned f f₂ := by
  intro k
  rcases h₁ k with hsame | ⟨hbefore, hbetween⟩
  · rw [← hsame]
    exact h₂ k
  · rcases h₂ k with hsame | ⟨-, hafter⟩
    · rw [hsame]
      exact .inr ⟨hbefore, hbetween⟩
    · exact .inr ⟨hbefore, hafter⟩

theorem kept (h : ViewChangesOnly owned f f₁) {k : ι} {v : ν} (hv : f k = some v)
    (hnot : ¬ owned v) : f₁ k = some v := by
  rcases h k with hsame | ⟨hbefore, -⟩
  · rw [hsame, hv]
  · exact absurd (hbefore v hv) hnot

/-- An entry of the owner that stays the owner's is replaced. -/
theorem update [DecidableEq ι] {k : ι} {v v' : ν} (hlookup : f k = some v) (hv : owned v)
    (hv' : owned v') : ViewChangesOnly owned f (Function.update f k (some v')) := by
  intro k'
  rw [Function.update_apply]
  split
  · next hkey =>
    subst hkey
    refine .inr ⟨fun w hw => ?_, fun w hw => ?_⟩
    · cases hlookup.symm.trans hw
      exact hv
    · cases hw
      exact hv'
  · exact .inl rfl

/-- Where the entries of the others are the same ones, only the owner's have changed. -/
theorem of_others {p : ν → Bool} (hp : ∀ v, p v = false → owned v)
    (h : ∀ k, (f₁ k).filter p = (f k).filter p) : ViewChangesOnly owned f f₁ := by
  intro k
  have howned {e : Option ν} (hnone : e.filter p = none) (v : ν) (hv : e = some v) : owned v := by
    subst hv
    rw [Option.filter_eq_none_iff] at hnone
    exact hp v (Bool.eq_false_iff.mpr (hnone v rfl))
  cases hother : (f k).filter p with
  | none => exact .inr ⟨howned hother, howned ((h k).trans hother)⟩
  | some v =>
    have hbefore := (Option.filter_eq_some_iff.mp hother).1
    have hafter := (Option.filter_eq_some_iff.mp ((h k).trans hother)).1
    exact .inl (hafter.trans hbefore.symm)

end ViewChangesOnly

/-- An entry written under a new key hides no other. -/
theorem lookup_insert_kept {m : HashMap κ ν} {k k' : κ} {v v' : ν} (hnew : m.lookup k = none)
    (h : m.lookup k' = some v') : (m.insert k v).lookup k' = some v' := by
  rw [lookup_insert_eq, if_neg fun hkey => ?_, h]
  rw [hkey, hnew] at h
  cases h

/-- Under each key the map is as before, or had nothing there and has the owner's there now. -/
def AddsOnly (owned : ν → Prop) (before after : HashMap κ ν) : Prop :=
  ∀ k, after.lookup k = before.lookup k ∨
    before.lookup k = none ∧ ∀ v, after.lookup k = some v → owned v

namespace AddsOnly

variable {owned : ν → Prop} {m m₁ m₂ : HashMap κ ν} {k : κ} {v : ν}

theorem refl (owned : ν → Prop) (m : HashMap κ ν) : AddsOnly owned m m := fun _ => .inl rfl

theorem trans (h₁ : AddsOnly owned m m₁) (h₂ : AddsOnly owned m₁ m₂) : AddsOnly owned m m₂ := by
  intro k
  rcases h₁ k with hsame | ⟨hbefore, hbetween⟩
  · rw [← hsame]
    exact h₂ k
  · refine .inr ⟨hbefore, ?_⟩
    rcases h₂ k with hsame | ⟨-, hafter⟩
    · rw [hsame]
      exact hbetween
    · exact hafter

theorem changesOnly (h : AddsOnly owned m m₁) : ChangesOnly owned m m₁ := fun k =>
  (h k).imp_right fun ⟨hbefore, hafter⟩ =>
    ⟨fun v hv => (by cases hbefore.symm.trans hv), hafter⟩

theorem insert (hbefore : m.lookup k = none) (hv : owned v) : AddsOnly owned m (m.insert k v) := by
  intro k'
  rw [lookup_insert_eq]
  split
  · next hkey =>
    subst hkey
    refine .inr ⟨hbefore, fun v' hv' => ?_⟩
    cases hv'
    exact hv
  · exact .inl rfl

end AddsOnly

end Kit
