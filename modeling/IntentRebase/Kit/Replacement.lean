import Mathlib.Data.List.DropRight
import Mathlib.Data.List.Infix
import Mathlib.Data.List.TakeWhile

/-! A loop that replaces what starts with a pattern by a mark, from the first occurrence on, until
none is left. Each round removes an occurrence, since the mark cannot be part of a new one. Such
loops, one for each pattern, do what one pass from left to right does for all the patterns. -/

namespace Kit

/-- What is replaced: a pattern and all that follows it up to a stop. -/
structure Replacement (α : Type) where
  pattern : List α
  stops : α → Bool
  mark : List α
  pattern_ne : pattern ≠ []
  mark_ne : mark ≠ []
  runs : ∀ a ∈ pattern, stops a = false
  disjoint : ∀ a ∈ mark, a ∉ pattern

namespace Replacement

variable {α : Type} [DecidableEq α] (r : Replacement α)

/-- The text before the first occurrence of the pattern, and the text from there on. -/
def find : List α → Option (List α × List α)
  | [] => none
  | a :: l =>
    if r.pattern.isPrefixOf (a :: l) then some ([], a :: l)
    else (find l).map fun (before, rest) => (a :: before, rest)

/-- The text with its first occurrence replaced. -/
def replaceFirst (l : List α) : Option (List α) :=
  (r.find l).map fun (before, rest) => before ++ (r.mark ++ rest.dropWhile fun a => !r.stops a)

/-- The number of places where the pattern occurs. -/
def occurrences : List α → Nat
  | [] => 0
  | a :: l => if r.pattern.isPrefixOf (a :: l) then occurrences l + 1 else occurrences l

variable {r}

theorem occurrences_append_le (l l' : List α) : r.occurrences l' ≤ r.occurrences (l ++ l') := by
  induction l with
  | nil => exact Nat.le_refl _
  | cons a l ih =>
    rw [List.cons_append, occurrences]
    split <;> omega

theorem occurrences_dropWhile_le (p : α → Bool) (l : List α) :
    r.occurrences (l.dropWhile p) ≤ r.occurrences l := by
  calc r.occurrences (l.dropWhile p)
      ≤ r.occurrences (l.takeWhile p ++ l.dropWhile p) := occurrences_append_le _ _
    _ = r.occurrences l := by rw [List.takeWhile_append_dropWhile]

omit [DecidableEq α] in
theorem head_mem {a : α} {l : List α} (h : r.pattern <+: a :: l) : a ∈ r.pattern := by
  obtain ⟨b, p, hp⟩ := List.exists_cons_of_ne_nil r.pattern_ne
  rw [hp, List.cons_prefix_cons] at h
  rw [hp, h.1]
  exact List.mem_cons_self

theorem occurrences_run_lt {l : List α} (h : r.pattern <+: l) :
    r.occurrences (l.dropWhile fun a => !r.stops a) < r.occurrences l := by
  cases l with
  | nil => exact absurd (List.prefix_nil.mp h) r.pattern_ne
  | cons a l =>
    rw [List.dropWhile_cons_of_pos (by rw [r.runs a (head_mem h)]; rfl), occurrences,
      if_pos (List.isPrefixOf_iff_prefix.mpr h)]
    exact Nat.lt_succ_of_le (occurrences_dropWhile_le _ l)

omit [DecidableEq α] in
/-- The pattern does not reach into a mark. -/
theorem prefix_of_prefix_mark {l rest : List α} (h : r.pattern <+: l ++ (r.mark ++ rest)) :
    r.pattern <+: l := by
  rcases List.prefix_or_prefix_of_prefix h (List.prefix_append l _) with hshort | ⟨t, hpattern⟩
  · exact hshort
  rw [← hpattern, List.prefix_append_right_inj] at h
  cases t with
  | nil => exact ⟨[], by rw [← hpattern, List.append_nil, List.append_nil]⟩
  | cons a t =>
    obtain ⟨m, mark, hmark⟩ := List.exists_cons_of_ne_nil r.mark_ne
    rw [hmark, List.cons_append, List.cons_prefix_cons] at h
    refine absurd ?_ (r.disjoint m (hmark ▸ List.mem_cons_self))
    rw [← hpattern, ← h.1]
    exact List.mem_append_right _ List.mem_cons_self

theorem occurrences_mark (rest : List α) : r.occurrences (r.mark ++ rest) = r.occurrences rest := by
  have hpart : ∀ m : List α, (∀ a ∈ m, a ∉ r.pattern) →
      r.occurrences (m ++ rest) = r.occurrences rest := by
    intro m hm
    induction m with
    | nil => rfl
    | cons a m ih =>
      rw [List.cons_append, occurrences, if_neg, ih fun b hb => hm b (List.mem_cons_of_mem _ hb)]
      intro hprefix
      obtain ⟨b, p, hp⟩ := List.exists_cons_of_ne_nil r.pattern_ne
      rw [List.isPrefixOf_iff_prefix, hp, List.cons_prefix_cons] at hprefix
      refine hm a List.mem_cons_self ?_
      rw [hp, hprefix.1]
      exact List.mem_cons_self
  exact hpart r.mark r.disjoint

/-- What is found, and that replacing it leaves only the later occurrences. -/
theorem find_some {l before rest : List α} (h : r.find l = some (before, rest)) :
    l = before ++ rest ∧ r.pattern <+: rest ∧ r.occurrences l = r.occurrences rest ∧
      ∀ rest', r.occurrences (before ++ (r.mark ++ rest')) = r.occurrences rest' := by
  induction l generalizing before with
  | nil => cases h
  | cons a l ih =>
    rw [find] at h
    split at h
    · next hprefix =>
      cases h
      exact ⟨rfl, List.isPrefixOf_iff_prefix.mp hprefix, rfl, occurrences_mark⟩
    · next hprefix =>
      obtain ⟨⟨before', rest'⟩, hfind, heq⟩ := Option.map_eq_some_iff.mp h
      cases heq
      obtain ⟨rfl, hpattern, hcount, hmark⟩ := ih hfind
      refine ⟨rfl, hpattern, ?_, fun later => ?_⟩
      · rw [occurrences, if_neg hprefix, hcount]
      · rw [List.cons_append, occurrences, if_neg, hmark]
        intro hlater
        have hshort : r.pattern <+: a :: before' :=
          prefix_of_prefix_mark (List.isPrefixOf_iff_prefix.mp hlater)
        exact hprefix (List.isPrefixOf_iff_prefix.mpr (hshort.trans ⟨rest, rfl⟩))

theorem find_ne_none {l : List α} (h : r.pattern <:+: l) : r.find l ≠ none := by
  induction l with
  | nil => exact absurd (List.infix_nil.mp h) r.pattern_ne
  | cons a l ih =>
    rw [find]
    split
    · exact Option.some_ne_none _
    · next hprefix =>
      rcases List.infix_cons_iff.mp h with hhead | htail
      · exact absurd (List.isPrefixOf_iff_prefix.mpr hhead) hprefix
      · exact fun hnone => ih htail (Option.map_eq_none_iff.mp hnone)

/-- Each round takes an occurrence away. -/
theorem replaceFirst_lt {l l' : List α} (h : r.replaceFirst l = some l') :
    r.occurrences l' < r.occurrences l := by
  obtain ⟨⟨before, rest⟩, hfind, rfl⟩ := Option.map_eq_some_iff.mp h
  obtain ⟨-, hpattern, hcount, hmark⟩ := find_some hfind
  rw [hcount, hmark]
  exact occurrences_run_lt hpattern

variable (r)

/-- The text after the loop. -/
def replaceAll (l : List α) : List α :=
  match h : r.replaceFirst l with
  | none => l
  | some l' =>
    have := replaceFirst_lt h
    replaceAll l'
termination_by r.occurrences l

variable {r} in
theorem replaceAll_of_none {l : List α} (h : r.replaceFirst l = none) : r.replaceAll l = l := by
  rw [replaceAll]
  split
  · rfl
  · next l' hfirst => cases h.symm.trans hfirst

variable {r} in
theorem replaceAll_of_some {l l' : List α} (h : r.replaceFirst l = some l') :
    r.replaceAll l = r.replaceAll l' := by
  rw [replaceAll]
  split
  · next hfirst => cases h.symm.trans hfirst
  · next l'' hfirst =>
    obtain rfl := Option.some.inj (h.symm.trans hfirst)
    rfl

/-- The loop in at most so many rounds. -/
def replaceWithin : Nat → List α → Option (List α)
  | 0, _ => none
  | fuel + 1, l =>
    match r.replaceFirst l with
    | none => some l
    | some l' => replaceWithin fuel l'

/-- The loop ends after a round for each occurrence at most. -/
theorem replaceWithin_eq {fuel : Nat} {l : List α} (hfuel : r.occurrences l < fuel) :
    r.replaceWithin fuel l = some (r.replaceAll l) := by
  induction fuel generalizing l with
  | zero => omega
  | succ fuel ih =>
    rw [replaceWithin]
    split
    · next hfirst => rw [replaceAll_of_none hfirst]
    · next l' hfirst =>
      have hlt := replaceFirst_lt hfirst
      rw [replaceAll_of_some hfirst]
      exact ih (by omega)

end Replacement

section Runs

variable {α : Type} [DecidableEq α]

/-- The text with each run from one of the patterns up to the next stop replaced by the mark, from
left to right. -/
def replaceRuns (patterns : List (List α)) (stops : α → Bool) (mark : List α) : List α → List α
  | [] => []
  | a :: l =>
    if patterns.any fun pattern => pattern.isPrefixOf (a :: l) then
      mark ++ replaceRuns patterns stops mark (l.dropWhile fun b => !stops b)
    else a :: replaceRuns patterns stops mark l
termination_by l => l.length
decreasing_by
  · exact Nat.lt_succ_of_le (List.length_dropWhile_le _ l)
  · exact Nat.lt_succ_self _

variable {patterns : List (List α)} {stops : α → Bool} {mark : List α}

theorem any_isPrefixOf {l : List α} : (patterns.any fun pattern => pattern.isPrefixOf l) = true ↔
    ∃ pattern ∈ patterns, pattern <+: l := by
  simp only [List.any_eq_true, List.isPrefixOf_iff_prefix]

/-- What starts the result without a character of the mark starts the text. -/
theorem prefix_of_prefix_replaceRuns (hmark : mark ≠ []) {t l : List α} (ht : ∀ a ∈ t, a ∉ mark)
    (h : t <+: replaceRuns patterns stops mark l) : t <+: l := by
  induction t generalizing l with
  | nil => exact List.nil_prefix
  | cons c t ih =>
    cases l with
    | nil =>
      rw [replaceRuns] at h
      exact h
    | cons a l =>
      rw [replaceRuns] at h
      split at h
      · obtain ⟨m, mark', rfl⟩ := List.exists_cons_of_ne_nil hmark
        rw [List.cons_append, List.cons_prefix_cons] at h
        exact absurd (h.1 ▸ List.mem_cons_self) (ht c List.mem_cons_self)
      · obtain ⟨rfl, htail⟩ := List.cons_prefix_cons.mp h
        exact List.cons_prefix_cons.mpr
          ⟨rfl, ih (fun b hb => ht b (List.mem_cons_of_mem _ hb)) htail⟩

omit [DecidableEq α] in
/-- A pattern that shares no character with the mark occurs after the mark only. -/
theorem infix_of_infix_mark {pattern m l : List α} (hne : pattern ≠ [])
    (hdisjoint : ∀ a ∈ m, a ∉ pattern) (h : pattern <:+: m ++ l) : pattern <:+: l := by
  induction m with
  | nil => exact h
  | cons a m ih =>
    rw [List.cons_append, List.infix_cons_iff] at h
    rcases h with hprefix | hinside
    · obtain ⟨c, p, rfl⟩ := List.exists_cons_of_ne_nil hne
      obtain ⟨rfl, _⟩ := List.cons_prefix_cons.mp hprefix
      exact absurd List.mem_cons_self (hdisjoint c List.mem_cons_self)
    · exact ih (fun b hb => hdisjoint b (List.mem_cons_of_mem _ hb)) hinside

/-- No pattern occurs in the result. -/
theorem not_infix_replaceRuns (hmark : mark ≠ []) {pattern l : List α}
    (hpattern : pattern ∈ patterns) (hne : pattern ≠ []) (hdisjoint : ∀ a ∈ mark, a ∉ pattern) :
    ¬ pattern <:+: replaceRuns patterns stops mark l := by
  intro h
  fun_induction replaceRuns patterns stops mark l with
  | case1 => exact hne (List.infix_nil.mp h)
  | case2 a l hprefix ih => exact ih (infix_of_infix_mark hne hdisjoint h)
  | case3 a l hprefix ih =>
    rcases List.infix_cons_iff.mp h with hhead | htail
    · have hresult : pattern <+: replaceRuns patterns stops mark (a :: l) := by
        rwa [replaceRuns, if_neg hprefix]
      refine hprefix (any_isPrefixOf.mpr ⟨pattern, hpattern, ?_⟩)
      exact prefix_of_prefix_replaceRuns hmark (fun b hb hm => hdisjoint b hm hb) hresult
    · exact ih htail

/-- A text in which no pattern occurs stays as it is. -/
theorem replaceRuns_eq_self {l : List α} (h : ∀ pattern ∈ patterns, ¬ pattern <:+: l) :
    replaceRuns patterns stops mark l = l := by
  induction l with
  | nil => rw [replaceRuns]
  | cons a l ih =>
    rw [replaceRuns, if_neg, ih fun pattern hmem hinside =>
      h pattern hmem (hinside.trans (List.suffix_cons a l).isInfix)]
    rw [any_isPrefixOf]
    rintro ⟨pattern, hmem, hprefix⟩
    exact h pattern hmem hprefix.isInfix

/-- A mark before the text is kept by a pass for patterns that share no character with it. -/
theorem replaceRuns_mark (m l : List α)
    (h : ∀ pattern ∈ patterns, pattern ≠ [] ∧ ∀ a ∈ m, a ∉ pattern) :
    replaceRuns patterns stops mark (m ++ l) = m ++ replaceRuns patterns stops mark l := by
  induction m with
  | nil => rfl
  | cons a m ih =>
    rw [List.cons_append, replaceRuns, if_neg, ih fun pattern hmem =>
      ⟨(h pattern hmem).1, fun b hb => (h pattern hmem).2 b (List.mem_cons_of_mem _ hb)⟩]
    · rfl
    rw [any_isPrefixOf]
    rintro ⟨pattern, hmem, hprefix⟩
    obtain ⟨hne, hdisjoint⟩ := h pattern hmem
    obtain ⟨c, p, rfl⟩ := List.exists_cons_of_ne_nil hne
    obtain ⟨rfl, _⟩ := List.cons_prefix_cons.mp hprefix
    exact hdisjoint c List.mem_cons_self List.mem_cons_self

/-- A pass leaves what comes before a pattern's first occurrence, and replaces the run there. -/
theorem replaceRuns_find (r : Replacement α) {l before rest : List α}
    (h : r.find l = some (before, rest)) :
    replaceRuns [r.pattern] r.stops r.mark l = before ++ (r.mark ++
      replaceRuns [r.pattern] r.stops r.mark (rest.dropWhile fun a => !r.stops a)) := by
  induction l generalizing before with
  | nil => cases h
  | cons a l ih =>
    rw [Replacement.find] at h
    split at h
    · next hprefix =>
      cases h
      rw [replaceRuns, if_pos (by simpa using hprefix), List.nil_append,
        List.dropWhile_cons_of_pos]
      rw [r.runs a (Replacement.head_mem (List.isPrefixOf_iff_prefix.mp hprefix))]
      rfl
    · next hprefix =>
      obtain ⟨⟨before', rest'⟩, hfind, heq⟩ := Option.map_eq_some_iff.mp h
      cases heq
      rw [replaceRuns, if_neg (by simpa using hprefix), ih hfind, List.cons_append]

/-- A pass over a text whose first run is replaced goes on after the mark. -/
theorem replaceRuns_replaced (r : Replacement α) {l before rest : List α}
    (h : r.find l = some (before, rest)) (later : List α) :
    replaceRuns [r.pattern] r.stops r.mark (before ++ (r.mark ++ later)) =
      before ++ (r.mark ++ replaceRuns [r.pattern] r.stops r.mark later) := by
  induction l generalizing before with
  | nil => cases h
  | cons a l ih =>
    rw [Replacement.find] at h
    split at h
    · next hprefix =>
      cases h
      refine replaceRuns_mark r.mark later fun pattern hmem => ?_
      obtain rfl := List.mem_singleton.mp hmem
      exact ⟨r.pattern_ne, r.disjoint⟩
    · next hprefix =>
      obtain ⟨⟨before', rest'⟩, hfind, heq⟩ := Option.map_eq_some_iff.mp h
      cases heq
      obtain ⟨rfl, _⟩ := Replacement.find_some hfind
      rw [List.cons_append, replaceRuns, if_neg, ih hfind, List.cons_append]
      rw [any_isPrefixOf]
      rintro ⟨pattern, hmem, hlater⟩
      obtain rfl := List.mem_singleton.mp hmem
      have hshort : r.pattern <+: a :: before' := Replacement.prefix_of_prefix_mark hlater
      exact hprefix (List.isPrefixOf_iff_prefix.mpr (hshort.trans ⟨_, rfl⟩))

/-- The loop for a pattern does what one pass does. -/
theorem replaceAll_eq_replaceRuns (r : Replacement α) (l : List α) :
    r.replaceAll l = replaceRuns [r.pattern] r.stops r.mark l := by
  fun_induction r.replaceAll l with
  | case1 l hnone =>
    refine (replaceRuns_eq_self fun pattern hmem hinside => ?_).symm
    obtain rfl := List.mem_singleton.mp hmem
    exact Replacement.find_ne_none hinside (Option.map_eq_none_iff.mp hnone)
  | case2 l l' hsome hlt ih =>
    obtain ⟨⟨before, rest⟩, hfind, rfl⟩ := Option.map_eq_some_iff.mp hsome
    rw [ih, replaceRuns_replaced r hfind, replaceRuns_find r hfind]

/-- A pass changes nothing after the next stop but what it changes there. -/
theorem dropWhile_replaceRuns (hstops : ∀ a ∈ mark, stops a = false)
    (hruns : ∀ pattern ∈ patterns, ∀ a ∈ pattern, stops a = false)
    (hne : ∀ pattern ∈ patterns, pattern ≠ []) (l : List α) :
    (replaceRuns patterns stops mark l).dropWhile (fun a => !stops a) =
      replaceRuns patterns stops mark (l.dropWhile fun a => !stops a) := by
  have hstart : ∀ {a : α} {l : List α},
      (patterns.any fun pattern => pattern.isPrefixOf (a :: l)) = true → stops a = false := by
    intro a l hprefix
    obtain ⟨pattern, hmem, hprefix⟩ := any_isPrefixOf.mp hprefix
    obtain ⟨c, p, rfl⟩ := List.exists_cons_of_ne_nil (hne pattern hmem)
    obtain ⟨rfl, _⟩ := List.cons_prefix_cons.mp hprefix
    exact hruns _ hmem c List.mem_cons_self
  fun_induction replaceRuns patterns stops mark l with
  | case1 => rw [List.dropWhile_nil, replaceRuns]
  | case2 a l hprefix ih =>
    have hmark : ∀ b ∈ mark, (!stops b) = true := fun b hb => by rw [hstops b hb]; rfl
    rw [List.dropWhile_append_of_pos hmark, ih, List.dropWhile_cons_of_pos,
      List.dropWhile_idempotent]
    rw [hstart hprefix]
    rfl
  | case3 a l hprefix ih =>
    by_cases hstop : stops a = true
    · rw [List.dropWhile_cons_of_neg (by simp [hstop]), List.dropWhile_cons_of_neg
        (by simp [hstop]), replaceRuns, if_neg hprefix]
    · rw [List.dropWhile_cons_of_pos (by simp [hstop]), List.dropWhile_cons_of_pos
        (by simp [hstop]), ih]

/-- What a text starts with is kept by a pass for a pattern that does not begin in it. -/
theorem prefix_replaceRuns_of_prefix {pattern t l : List α} (hne : pattern ≠ [])
    (hhead : ∀ a ∈ pattern.head?, a ∉ t) (h : t <+: l) :
    t <+: replaceRuns [pattern] stops mark l := by
  induction t generalizing l with
  | nil => exact List.nil_prefix
  | cons c t ih =>
    obtain ⟨l, rfl⟩ : ∃ l', l = c :: l' := by
      obtain ⟨later, rfl⟩ := h
      exact ⟨t ++ later, rfl⟩
    rw [replaceRuns, if_neg]
    · exact List.cons_prefix_cons.mpr ⟨rfl, ih (fun a ha hmem =>
        hhead a ha (List.mem_cons_of_mem _ hmem)) (List.cons_prefix_cons.mp h).2⟩
    rw [any_isPrefixOf]
    rintro ⟨pattern', hmem, hprefix⟩
    obtain rfl := List.mem_singleton.mp hmem
    obtain ⟨b, p, rfl⟩ := List.exists_cons_of_ne_nil hne
    obtain ⟨rfl, _⟩ := List.cons_prefix_cons.mp hprefix
    exact hhead b rfl List.mem_cons_self

/-- Two passes, one after the other, do what one pass for both patterns does, if the first pattern
does not begin within the second. -/
theorem replaceRuns_replaceRuns {p q : List α} (hmark : mark ≠ [])
    (hstops : ∀ a ∈ mark, stops a = false)
    (hpatterns : ∀ pattern ∈ [p, q], pattern ≠ [] ∧ (∀ a ∈ pattern, stops a = false) ∧
      ∀ a ∈ mark, a ∉ pattern)
    (hhead : ∀ a ∈ p.head?, a ∉ q.tail) (l : List α) :
    replaceRuns [q] stops mark (replaceRuns [p] stops mark l) =
      replaceRuns [p, q] stops mark l := by
  obtain ⟨hpne, hpruns, hpdisjoint⟩ := hpatterns p List.mem_cons_self
  obtain ⟨hqne, hqruns, hqdisjoint⟩ := hpatterns q (List.mem_cons_of_mem _ List.mem_cons_self)
  fun_induction replaceRuns [p, q] stops mark l with
  | case1 => rw [replaceRuns, replaceRuns]
  | case2 a l hprefix ih =>
    by_cases hp : p <+: a :: l
    · rw [replaceRuns, if_pos (by simpa using hp), replaceRuns_mark mark _
        (by simpa using ⟨hqne, hqdisjoint⟩), ih]
    · have hq : q <+: a :: l := by
        obtain ⟨pattern, hmem, hpattern⟩ := any_isPrefixOf.mp hprefix
        rcases List.mem_cons.mp hmem with rfl | hmem
        · exact absurd hpattern hp
        · exact List.mem_singleton.mp hmem ▸ hpattern
      have hfirst : replaceRuns [p] stops mark (a :: l) = a :: replaceRuns [p] stops mark l := by
        rw [replaceRuns, if_neg (by simpa using hp)]
      have hsecond : q <+: a :: replaceRuns [p] stops mark l := by
        obtain ⟨c, q, rfl⟩ := List.exists_cons_of_ne_nil hqne
        obtain ⟨rfl, htail⟩ := List.cons_prefix_cons.mp hq
        exact List.cons_prefix_cons.mpr
          ⟨rfl, prefix_replaceRuns_of_prefix hpne hhead htail⟩
      rw [hfirst, replaceRuns, if_pos (by simpa using hsecond),
        dropWhile_replaceRuns hstops (by simpa using hpruns) (by simpa using hpne), ih]
  | case3 a l hprefix ih =>
    have hnone : ∀ pattern ∈ [p, q], ¬ pattern <+: a :: l := fun pattern hmem hpattern =>
      hprefix (any_isPrefixOf.mpr ⟨pattern, hmem, hpattern⟩)
    have hfirst : replaceRuns [p] stops mark (a :: l) = a :: replaceRuns [p] stops mark l := by
      rw [replaceRuns, if_neg (by simpa using hnone p List.mem_cons_self)]
    rw [hfirst, replaceRuns, if_neg, ih]
    rw [any_isPrefixOf]
    rintro ⟨pattern, hmem, hsecond⟩
    obtain rfl := List.mem_singleton.mp hmem
    rw [← hfirst] at hsecond
    refine hnone pattern (List.mem_cons_of_mem _ hmem) ?_
    exact prefix_of_prefix_replaceRuns hmark (fun b hb hm => hqdisjoint b hm hb) hsecond

end Runs

end Kit
