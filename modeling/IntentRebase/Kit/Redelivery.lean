import IntentRebase.Kit.Transition
import Mathlib.Data.List.Duplicate

/-! Consumers to which an event can be delivered more than once, and when the later deliveries
change nothing of what the event is about. -/

namespace Kit

variable {σ δ ε : Type}

/-- Every delivery of an event that was delivered before leaves what the event is about the same. -/
def Idempotent (next : σ → δ → σ) (event : δ → ε) (same : ε → σ → σ → Prop) (s : σ)
    (deliveries : List δ) : Prop :=
  ∀ before d rest, deliveries = before ++ d :: rest → (∃ d₀ ∈ before, event d₀ = event d) →
    same (event d) (before.foldl next s) (next (before.foldl next s) d)

variable {next : σ → δ → σ} {event : δ → ε} {same : ε → σ → σ → Prop} {fresh : σ → δ → Prop}
  {s : σ} {deliveries : List δ}

/-- An event that comes twice is delivered at some place after another. -/
theorem exists_redelivery {e : ε} (h : List.Duplicate e (deliveries.map event)) :
    ∃ before d rest, deliveries = before ++ d :: rest ∧ event d = e ∧
      ∃ d₀ ∈ before, event d₀ = event d := by
  induction deliveries with
  | nil => cases h
  | cons d₀ ds ih =>
    rw [List.map_cons, List.duplicate_cons_iff] at h
    rcases h with ⟨rfl, hmem⟩ | h
    · obtain ⟨d, hd, hsame⟩ := List.mem_map.mp hmem
      obtain ⟨before, rest, rfl⟩ := List.append_of_mem hd
      exact ⟨d₀ :: before, d, rest, rfl, hsame, d₀, List.mem_cons_self, hsame.symm⟩
    · obtain ⟨before, d, rest, rfl, hd, d₁, hd₁, hsame⟩ := ih h
      exact ⟨d₀ :: before, d, rest, rfl, hd, d₁, List.mem_cons_of_mem _ hd₁, hsame⟩

theorem duplicate_of_redelivery {before rest : List δ} {d d₀ : δ} (hd₀ : d₀ ∈ before)
    (hsame : event d₀ = event d) :
    List.Duplicate (event d) ((before ++ d :: rest).map event) := by
  rw [List.map_append, List.map_cons, List.duplicate_iff_sublist]
  have hleft : [event d].Sublist (before.map event) := by
    rw [List.singleton_sublist, ← hsame]
    exact List.mem_map_of_mem hd₀
  exact hleft.append (List.singleton_sublist.mpr List.mem_cons_self)

/-- Where a delivery acts or not by its event alone, a run is idempotent exactly if no event that
acts comes twice. -/
theorem idempotent_iff_acts_once {acts : ε → Prop}
    (hstep : ∀ s d, fresh s d → (same (event d) s (next s d) ↔ ¬ acts (event d)))
    (hfresh : AllSteps next fresh s deliveries) :
    Idempotent next event same s deliveries ↔
      ∀ e, List.Duplicate e (deliveries.map event) → ¬ acts e := by
  constructor
  · intro h e htwice
    obtain ⟨before, d, rest, rfl, rfl, hbefore⟩ := exists_redelivery htwice
    exact (hstep _ d hfresh.append.2.1).mp (h before d rest rfl hbefore)
  · rintro h before d rest rfl ⟨d₀, hd₀, hsame⟩
    exact (hstep _ d hfresh.append.2.1).mpr (h _ (duplicate_of_redelivery hd₀ hsame))

/-- A consumer is idempotent if a delivery leaves the event done, no delivery undoes that, and a
delivery of an event that is done changes nothing. -/
theorem idempotent_of_done (done : ε → σ → Prop)
    (hdone : ∀ s d, fresh s d → done (event d) (next s d))
    (hkeep : ∀ e s d, fresh s d → done e s → done e (next s d))
    (hsame : ∀ s d, fresh s d → done (event d) s → same (event d) s (next s d))
    (hfresh : AllSteps next fresh s deliveries) : Idempotent next event same s deliveries := by
  rintro before d rest rfl ⟨d₀, hd₀, hevent⟩
  obtain ⟨earlier, later, rfl⟩ := List.append_of_mem hd₀
  obtain ⟨hbefore, hd, _⟩ := hfresh.append
  obtain ⟨_, hfirst, hlater⟩ := hbefore.append
  have hafter : done (event d) ((earlier ++ d₀ :: later).foldl next s) := by
    rw [List.foldl_append, List.foldl_cons]
    refine hlater.invariant (fun s d' hd' => hkeep _ s d' hd') ?_
    rw [← hevent]
    exact hdone _ d₀ hfirst
  exact hsame _ d hd hafter

end Kit
