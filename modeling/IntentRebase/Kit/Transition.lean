import Mathlib.Data.List.Induction

/-! Runs of a labelled transition relation: how they compose, what invariants they keep, and how
often a step can fire between two resets. -/

namespace Kit

variable {σ ℓ : Type}

/-- A run of steps, with their labels in order. -/
inductive Run (step : σ → ℓ → σ → Prop) : σ → List ℓ → σ → Prop
  | nil (s : σ) : Run step s [] s
  | cons {s s' s'' : σ} {l : ℓ} {ls : List ℓ} : step s l s' → Run step s' ls s'' →
      Run step s (l :: ls) s''

/-- The places of a list with one more label at its end. -/
theorem split_concat {ls before after : List ℓ} {l l' : ℓ}
    (h : ls ++ [l] = before ++ l' :: after) :
    (before = ls ∧ l' = l ∧ after = []) ∨
      ∃ after', ls = before ++ l' :: after' ∧ after = after' ++ [l] := by
  rcases List.eq_nil_or_concat after with rfl | ⟨after', last, rfl⟩
  · obtain ⟨hinit, hlast⟩ := List.append_inj' h rfl
    cases hlast
    exact .inl ⟨hinit.symm, rfl, rfl⟩
  · rw [List.concat_eq_append, ← List.cons_append, ← List.append_assoc] at h
    obtain ⟨hinit, hlast⟩ := List.append_inj' h rfl
    cases hlast
    exact .inr ⟨after', hinit, List.concat_eq_append⟩

namespace Run

variable {step : σ → ℓ → σ → Prop} {s s' s'' : σ} {ls ls' : List ℓ}

theorem append (h : Run step s ls s') (h' : Run step s' ls' s'') : Run step s (ls ++ ls') s'' := by
  induction h with
  | nil => exact h'
  | cons hstep _ ih => exact .cons hstep (ih h')

theorem split (h : Run step s (ls ++ ls') s'') :
    ∃ s', Run step s ls s' ∧ Run step s' ls' s'' := by
  induction ls generalizing s with
  | nil => exact ⟨s, .nil s, h⟩
  | cons l ls ih =>
    cases h with
    | cons hstep hrest =>
      obtain ⟨s', hleft, hright⟩ := ih hrest
      exact ⟨s', .cons hstep hleft, hright⟩

/-- A property that the steps of certain labels keep is kept by the runs of such labels. -/
theorem invariant {inv : σ → Prop} {allowed : ℓ → Prop}
    (hkeep : ∀ s l s', allowed l → step s l s' → inv s → inv s') (h : Run step s ls s')
    (hlabels : ∀ l ∈ ls, allowed l) (hs : inv s) : inv s' := by
  induction h with
  | nil => exact hs
  | cons hstep _ ih =>
    rw [List.forall_mem_cons] at hlabels
    exact ih hlabels.2 (hkeep _ _ _ hlabels.1 hstep hs)

/-- A property that every step keeps is kept by every run. -/
theorem always {inv : σ → Prop} (hkeep : ∀ s l s', step s l s' → inv s → inv s')
    (h : Run step s ls s') (hs : inv s) : inv s' := by
  induction h with
  | nil => exact hs
  | cons hstep _ ih => exact ih (hkeep _ _ _ hstep hs)

/-- A property of a state and of the labels that led to it, kept by each step of the run. -/
theorem history (h : Run step s ls s') (inv : List ℓ → σ → Prop)
    (hkeep : ∀ before l after s₁ s₂, ls = before ++ l :: after → Run step s before s₁ →
      step s₁ l s₂ → inv before s₁ → inv (before ++ [l]) s₂)
    (hs : inv [] s) : inv ls s' := by
  induction ls using List.reverseRecOn generalizing s' with
  | nil =>
    cases h
    exact hs
  | append_singleton ls l ih =>
    obtain ⟨s₁, hbefore, hlast⟩ := h.split
    cases hlast with
    | cons hstep hnil =>
      cases hnil
      refine hkeep ls l [] s₁ _ rfl hbefore hstep (ih hbefore ?_)
      intro before l' after s₂ s₃ hsplit hrun hstep'
      exact hkeep before l' (after ++ [l]) s₂ s₃ (by rw [hsplit]; simp) hrun hstep'

section Firing

variable {inv armed : σ → Prop} {fires resets : ℓ → Bool}

/-- A step that fires only when it is armed, in a system that nothing but a reset arms. -/
structure Gated (step : σ → ℓ → σ → Prop) (inv armed : σ → Prop) (fires resets : ℓ → Bool) :
    Prop where
  keep : ∀ {s l s'}, step s l s' → inv s → inv s'
  ready : ∀ {s l s'}, step s l s' → inv s → fires l = true → armed s
  rearm : ∀ {s l s'}, step s l s' → inv s → resets l = false → armed s' → armed s

/-- A step that also disarms the system when it fires. -/
structure OneShot (step : σ → ℓ → σ → Prop) (inv armed : σ → Prop) (fires resets : ℓ → Bool) :
    Prop extends Gated step inv armed fires resets where
  disarm : ∀ {s l s'}, step s l s' → inv s → fires l = true → ¬ armed s'

/-- A disarmed system does not fire before it is reset. -/
theorem Gated.never (hg : Gated step inv armed fires resets) (h : Run step s ls s')
    (hs : inv s) (hdisarmed : ¬ armed s) (hresets : ∀ l ∈ ls, resets l = false) :
    ls.countP fires = 0 := by
  induction h with
  | nil => rfl
  | @cons s s' s'' l ls hstep _ ih =>
    rw [List.forall_mem_cons] at hresets
    have hquiet : ¬ fires l = true := fun hfire => hdisarmed (hg.ready hstep hs hfire)
    rw [List.countP_cons_of_neg hquiet]
    exact ih (hg.keep hstep hs) (mt (hg.rearm hstep hs hresets.1) hdisarmed) hresets.2

/-- Between two resets the step fires at most once. -/
theorem OneShot.atMostOnce (ho : OneShot step inv armed fires resets) (h : Run step s ls s')
    (hs : inv s) (hresets : ∀ l ∈ ls, resets l = false) : ls.countP fires ≤ 1 := by
  induction h with
  | nil => exact Nat.zero_le 1
  | @cons s s' s'' l ls hstep hrest ih =>
    rw [List.forall_mem_cons] at hresets
    by_cases hfire : fires l = true
    · have hquiet := ho.toGated.never hrest (ho.keep hstep hs) (ho.disarm hstep hs hfire) hresets.2
      have hone : (l :: ls).countP fires = 1 := by rw [List.countP_cons_of_pos hfire, hquiet]
      omega
    · rw [List.countP_cons_of_neg hfire]
      exact ih (ho.keep hstep hs) hresets.2

end Firing

end Run

section Steps

variable {next : σ → ℓ → σ} {p q : σ → ℓ → Prop}

/-- Each step of a deterministic system has a property, in the state that the steps before it
leave. -/
def AllSteps (next : σ → ℓ → σ) (p : σ → ℓ → Prop) : σ → List ℓ → Prop
  | _, [] => True
  | s, l :: ls => p s l ∧ AllSteps next p (next s l) ls

/-- Two properties of steps that are the same where an invariant holds, which a step with either
keeps, are the same of sequences. -/
theorem allSteps_iff (inv : σ → Prop) (hsame : ∀ s l, inv s → (p s l ↔ q s l))
    (hkeep : ∀ s l, inv s → q s l → inv (next s l)) {s : σ} (hs : inv s) (ls : List ℓ) :
    AllSteps next p s ls ↔ AllSteps next q s ls := by
  induction ls generalizing s with
  | nil => exact Iff.rfl
  | cons l ls ih =>
    rw [AllSteps, AllSteps, hsame s l hs]
    exact and_congr_right fun hq => ih (hkeep s l hs hq)

theorem AllSteps.append {s : σ} {ls ls' : List ℓ} (h : AllSteps next p s (ls ++ ls')) :
    AllSteps next p s ls ∧ AllSteps next p (ls.foldl next s) ls' := by
  induction ls generalizing s with
  | nil => exact ⟨trivial, h⟩
  | cons l ls ih => exact ⟨⟨h.1, (ih h.2).1⟩, (ih h.2).2⟩

/-- Each step has the property if no place of the sequence is the first without it. -/
theorem allSteps_of_first {s : σ} {ls : List ℓ}
    (h : ∀ before l after, ls = before ++ l :: after → AllSteps next p s before →
      p (before.foldl next s) l) : AllSteps next p s ls := by
  induction ls generalizing s with
  | nil => trivial
  | cons l ls ih =>
    have hfirst : p s l := h [] l ls rfl trivial
    refine ⟨hfirst, ih fun before l' after hsplit hbefore => ?_⟩
    exact h (l :: before) l' after (by rw [hsplit]; rfl) ⟨hfirst, hbefore⟩

/-- Each step has the property if all have it of the first state, and no step takes it from a later
one that is apart from it. -/
theorem allSteps_of_pairwise {apart : ℓ → ℓ → Prop}
    (hkeep : ∀ s l l', p s l → apart l l' → p s l' → p (next s l) l') {s : σ} {ls : List ℓ}
    (hapart : ls.Pairwise apart) (hs : ∀ l ∈ ls, p s l) : AllSteps next p s ls := by
  induction ls generalizing s with
  | nil => trivial
  | cons l ls ih =>
    obtain ⟨hfirst, hrest⟩ := List.pairwise_cons.mp hapart
    have hl : p s l := hs l List.mem_cons_self
    refine ⟨hl, ih hrest fun l' hl' => ?_⟩
    exact hkeep s l l' hl (hfirst l' hl') (hs l' (List.mem_cons_of_mem _ hl'))

theorem AllSteps.and {s : σ} {ls : List ℓ} (hp : AllSteps next p s ls)
    (hq : AllSteps next q s ls) : AllSteps next (fun s l => p s l ∧ q s l) s ls := by
  induction ls generalizing s with
  | nil => trivial
  | cons l ls ih => exact ⟨⟨hp.1, hq.1⟩, ih hp.2 hq.2⟩

/-- Steps with a property keep what such a step keeps. -/
theorem AllSteps.invariant {inv : σ → Prop} (hkeep : ∀ s l, p s l → inv s → inv (next s l))
    {s : σ} {ls : List ℓ} (h : AllSteps next p s ls) (hs : inv s) : inv (ls.foldl next s) := by
  induction ls generalizing s with
  | nil => exact hs
  | cons l ls ih => exact ih h.2 (hkeep s l h.1 hs)

theorem allSteps_true (next : σ → ℓ → σ) (s : σ) (ls : List ℓ) :
    AllSteps next (fun _ _ => True) s ls := by
  induction ls generalizing s with
  | nil => trivial
  | cons l ls ih => exact ⟨trivial, ih (next s l)⟩

/-- Let an invariant, which implies something to be seen of a state, be kept by the steps with a
property, and let the steps without it show. Then all steps have the property exactly if it is seen
all along. -/
theorem seen_iff_allSteps {inv seen : σ → Prop} (hinv : ∀ s, inv s → seen s)
    (hkeep : ∀ s l, inv s → q s l → p s l → inv (next s l))
    (hshow : ∀ s l, inv s → q s l → seen (next s l) → p s l) {s : σ} (hs : inv s) {ls : List ℓ}
    (hq : AllSteps next q s ls) :
    (∀ before, before <+: ls → seen (before.foldl next s)) ↔ AllSteps next p s ls := by
  induction ls generalizing s with
  | nil =>
    refine iff_of_true (fun before hbefore => ?_) trivial
    rw [List.prefix_nil.mp hbefore]
    exact hinv s hs
  | cons l ls ih =>
    obtain ⟨hl, hrest⟩ := hq
    constructor
    · intro h
      have hfirst : p s l := hshow s l hs hl (h [l] (by simp))
      refine ⟨hfirst, (ih (hkeep s l hs hl hfirst) hrest).mp fun before hbefore => ?_⟩
      exact h (l :: before) (List.cons_prefix_cons.mpr ⟨rfl, hbefore⟩)
    · rintro ⟨hfirst, hlater⟩ before hbefore
      cases before with
      | nil => exact hinv s hs
      | cons l' before =>
        obtain ⟨rfl, hbeforeRest⟩ := List.cons_prefix_cons.mp hbefore
        exact (ih (hkeep s l' hs hl hfirst) hrest).mpr hlater before hbeforeRest

/-- If a step from a state with the invariant keeps it exactly when it has the property, then all
steps have the property exactly if the invariant holds all along. -/
theorem invariant_iff_allSteps {inv : σ → Prop}
    (hstep : ∀ s l, inv s → (inv (next s l) ↔ p s l)) {s : σ} (hs : inv s) (ls : List ℓ) :
    (∀ before, before <+: ls → inv (before.foldl next s)) ↔ AllSteps next p s ls :=
  seen_iff_allSteps (fun _ h => h) (fun s l h _ => (hstep s l h).mpr)
    (fun s l h _ => (hstep s l h).mp) hs (allSteps_true next s ls)

end Steps

end Kit
