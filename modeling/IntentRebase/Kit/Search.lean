import Mathlib.Algebra.GroupWithZero.Nat
import Mathlib.Algebra.Order.BigOperators.Group.List
import Mathlib.Algebra.Order.Group.Nat

/-! Breadth-first search: the loop over a queue, the layers that a search has explored, and a bound
on the work that is left. -/

namespace Kit

section Worklist

variable {α ρ σ : Type}

/-- A loop that takes items from the front of a queue until it is empty or a step ends it; each step
may push items on the back. -/
def worklist (step : σ → α → Except ρ (σ × List α)) : Nat → List α → σ → Option (Except ρ σ)
  | _, [], s => some (.ok s)
  | 0, _ :: _, _ => none
  | fuel + 1, a :: queue, s =>
    match step s a with
    | .ok (s', pushed) => worklist step fuel (queue ++ pushed) s'
    | .error r => some (.error r)

variable {step : σ → α → Except ρ (σ × List α)}

/-- More fuel does not change the result. -/
theorem worklist_mono {fuel fuel' : Nat} {queue : List α} {s : σ} {result : Except ρ σ}
    (h : worklist step fuel queue s = some result) (hle : fuel ≤ fuel') :
    worklist step fuel' queue s = some result := by
  induction fuel generalizing fuel' queue s with
  | zero =>
    cases queue with
    | nil => cases fuel' <;> exact h
    | cons a queue => cases h
  | succ fuel ih =>
    cases queue with
    | nil => cases fuel' <;> exact h
    | cons a queue =>
      obtain ⟨fuel', rfl⟩ := Nat.exists_eq_succ_of_ne_zero (show fuel' ≠ 0 by omega)
      simp only [worklist] at h ⊢
      split at h
      · exact ih h (by omega)
      · exact h

/-- The rule for the loop: steps that keep an invariant and lower a measure end it, and the
invariant holds of the empty queue, or the step that ended it left what it had to. -/
theorem worklist_spec (step : σ → α → Except ρ (σ × List α)) (measure : σ → List α → Nat)
    (inv : σ → List α → Prop) (done : ρ → Prop)
    (hok : ∀ s a queue s' pushed, inv s (a :: queue) → step s a = .ok (s', pushed) →
      inv s' (queue ++ pushed) ∧ measure s' (queue ++ pushed) < measure s (a :: queue))
    (herror : ∀ s a queue r, inv s (a :: queue) → step s a = .error r → done r)
    {queue : List α} {s : σ} (h : inv s queue) :
    ∃ result, (∀ fuel, measure s queue < fuel → worklist step fuel queue s = some result) ∧
      ((∃ s', result = .ok s' ∧ inv s' []) ∨ ∃ r, result = .error r ∧ done r) := by
  generalize hm : measure s queue = m
  induction m using Nat.strong_induction_on generalizing queue s with
  | _ m ih =>
  cases queue with
  | nil =>
    refine ⟨.ok s, fun fuel _ => ?_, .inl ⟨s, rfl, h⟩⟩
    cases fuel <;> rfl
  | cons a queue =>
    cases hstep : step s a with
    | error r =>
      refine ⟨.error r, fun fuel hfuel => ?_, .inr ⟨r, rfl, herror s a queue r h hstep⟩⟩
      obtain ⟨fuel, rfl⟩ := Nat.exists_eq_succ_of_ne_zero (Nat.ne_zero_of_lt hfuel)
      simp only [worklist, hstep]
    | ok next =>
      obtain ⟨s', pushed⟩ := next
      obtain ⟨hinv, hlt⟩ := hok s a queue s' pushed h hstep
      obtain ⟨result, hrun, hpost⟩ := ih _ (hm ▸ hlt) hinv rfl
      refine ⟨result, fun fuel hfuel => ?_, hpost⟩
      obtain ⟨fuel, rfl⟩ := Nat.exists_eq_succ_of_ne_zero (Nat.ne_zero_of_lt hfuel)
      simp only [worklist, hstep]
      exact hrun fuel (by omega)

/-- The iterations of the loop: the state in which each is and the item that it takes. -/
def worklistTrace (step : σ → α → Except ρ (σ × List α)) : Nat → List α → σ → List (σ × α)
  | _, [], _ => []
  | 0, _ :: _, _ => []
  | fuel + 1, a :: queue, s =>
    (s, a) :: match step s a with
      | .ok (s', pushed) => worklistTrace step fuel (queue ++ pushed) s'
      | .error _ => []

/-- The rule for the iterations of a loop that no step ends: what every step keeps of the iterations
so far, the state and the queue holds where the loop ends, or where it runs out of fuel. -/
theorem worklistTrace_spec (step : σ → α → Except ρ (σ × List α))
    (inv : List (σ × α) → σ → List α → Prop)
    (hok : ∀ past s a queue s' pushed, inv past s (a :: queue) → step s a = .ok (s', pushed) →
      inv (past ++ [(s, a)]) s' (queue ++ pushed))
    (herror : ∀ s a r, step s a ≠ .error r) {past : List (σ × α)} {queue : List α} {s : σ}
    (h : inv past s queue) (fuel : Nat) :
    ∃ s' queue', inv (past ++ worklistTrace step fuel queue s) s' queue' ∧
      ((worklist step fuel queue s = some (.ok s') ∧ queue' = []) ∨
        (worklist step fuel queue s = none ∧ queue' ≠ [] ∧
          (worklistTrace step fuel queue s).length = fuel)) := by
  induction fuel generalizing past queue s with
  | zero =>
    refine ⟨s, queue, ?_⟩
    cases queue with
    | nil => exact ⟨by simpa [worklistTrace] using h, .inl ⟨rfl, rfl⟩⟩
    | cons a queue => exact ⟨by simpa [worklistTrace] using h, .inr ⟨rfl, by simp, rfl⟩⟩
  | succ fuel ih =>
    cases queue with
    | nil => exact ⟨s, [], by simpa [worklistTrace] using h, .inl ⟨rfl, rfl⟩⟩
    | cons a queue =>
      cases hstep : step s a with
      | error r => exact absurd hstep (herror s a r)
      | ok next =>
        obtain ⟨s', pushed⟩ := next
        obtain ⟨last, rest, hinv, hend⟩ := ih (hok past s a queue s' pushed h hstep)
        refine ⟨last, rest, ?_, ?_⟩
        · simpa [worklistTrace, hstep] using hinv
        · simpa [worklistTrace, worklist, hstep] using hend

end Worklist

/-- A search from the nodes `init` at depth `base` along `edge`, through the nodes that are `ok`, no
deeper than `limit`. -/
structure Search (α : Type) where
  base : Nat
  limit : Option Nat
  init : α → Prop
  edge : α → α → Prop
  ok : α → Prop

namespace Search

variable {α : Type} {S : Search α}

/-- The depth is within the limit. -/
def Within (S : Search α) (depth : Nat) : Prop := ∀ m ∈ S.limit, depth ≤ m

theorem Within.mono {d e : Nat} (h : S.Within e) (hle : d ≤ e) : S.Within d :=
  fun m hm => hle.trans (h m hm)

/-- The node is reached at the depth by a walk. -/
inductive Walk (S : Search α) : Nat → α → Prop
  | init {v : α} : S.init v → S.ok v → S.Walk S.base v
  | step {n : Nat} {u v : α} : S.Walk n u → S.edge u v → S.ok v → S.Walk (n + 1) v

theorem Walk.base_le {n : Nat} {v : α} (h : S.Walk n v) : S.base ≤ n := by
  induction h with
  | init _ _ => exact le_rfl
  | step _ _ _ ih => exact ih.trans (Nat.le_succ _)

/-- The least depth at which a walk reaches the node. -/
structure Distance (S : Search α) (v : α) (d : Nat) : Prop where
  walk : S.Walk d v
  least : ∀ {n}, S.Walk n v → d ≤ n

theorem Distance.unique {v : α} {d e : Nat} (h : S.Distance v d) (h' : S.Distance v e) : d = e :=
  le_antisymm (h.least h'.walk) (h'.least h.walk)

/-- The nodes `done` have been explored and the nodes `queue` are to be explored, each with its
depth, in the order of the search. -/
structure Explored (S : Search α) (done queue : List (α × Nat)) : Prop where
  doneWalk : ∀ p ∈ done, S.Walk p.2 p.1
  queueWalk : ∀ p ∈ queue, S.ok p.1 → S.Walk p.2 p.1
  start : ∀ v, S.init v → S.ok v → S.Within S.base → ∃ d ≤ S.base, (v, d) ∈ done ++ queue
  closed : ∀ x d y, (x, d) ∈ done → S.Within (d + 1) → S.edge x y → S.ok y →
    ∃ d' ≤ d + 1, (y, d') ∈ done ++ queue
  sorted : ((done ++ queue).map Prod.snd).Pairwise (· ≤ ·)
  span : ∀ p ∈ queue, ∀ q ∈ queue, q.2 ≤ p.2 + 1

namespace Explored

variable {done queue new : List (α × Nat)} {v : α} {d : Nat}

theorem done_le (h : S.Explored done queue) {p q : α × Nat} (hp : p ∈ done) (hq : q ∈ queue) :
    p.2 ≤ q.2 := by
  have hsorted := h.sorted
  rw [List.map_append, List.pairwise_append] at hsorted
  exact hsorted.2.2 _ (List.mem_map_of_mem hp) _ (List.mem_map_of_mem hq)

theorem head_le (h : S.Explored done ((v, d) :: queue)) {p : α × Nat} (hp : p ∈ queue) :
    d ≤ p.2 := by
  have hsorted := h.sorted
  rw [List.map_append, List.pairwise_append, List.map_cons, List.pairwise_cons] at hsorted
  exact hsorted.2.1.1 _ (List.mem_map_of_mem hp)

/-- The head of the queue is dropped: it is no node of the search, it is too deep, or it has been
explored. -/
theorem drop (h : S.Explored done ((v, d) :: queue))
    (hdrop : ¬ S.ok v ∨ ¬ S.Within d ∨ ∃ d', (v, d') ∈ done) : S.Explored done queue := by
  have hkeep : ∀ {y e}, S.ok y → S.Within e → (∃ d' ≤ e, (y, d') ∈ done ++ (v, d) :: queue) →
      ∃ d' ≤ e, (y, d') ∈ done ++ queue := by
    rintro y e hok hin ⟨d', hle, hmem⟩
    rcases List.mem_append.mp hmem with hdone | hqueue
    · exact ⟨d', hle, List.mem_append_left _ hdone⟩
    rcases List.mem_cons.mp hqueue with heq | hqueue
    · obtain ⟨rfl, rfl⟩ := Prod.mk.inj heq
      rcases hdrop with hnot | hdeep | ⟨e', he'⟩
      · exact absurd hok hnot
      · exact absurd (hin.mono hle) hdeep
      · exact ⟨e', (h.done_le he' List.mem_cons_self).trans hle, List.mem_append_left _ he'⟩
    · exact ⟨d', hle, List.mem_append_right _ hqueue⟩
  refine ⟨h.doneWalk, fun p hp => h.queueWalk p (List.mem_cons_of_mem _ hp), ?_, ?_, ?_, ?_⟩
  · exact fun w hinit hok hin => hkeep hok hin (h.start w hinit hok hin)
  · exact fun x e y hx hin hedge hok => hkeep hok hin (h.closed x e y hx hin hedge hok)
  · exact h.sorted.sublist (((List.sublist_cons_self _ _).append_left _).map _)
  · exact fun p hp q hq => h.span p (List.mem_cons_of_mem _ hp) q (List.mem_cons_of_mem _ hq)

/-- The head of the queue is explored: what is pushed is one step deeper along an edge, and each of
its neighbours is pushed or was there. -/
theorem visit (h : S.Explored done ((v, d) :: queue)) (hok : S.ok v)
    (hnew : ∀ p ∈ new, p.2 = d + 1 ∧ S.edge v p.1)
    (hclosed : S.Within (d + 1) → ∀ y, S.edge v y → S.ok y →
      (y, d + 1) ∈ new ∨ ∃ d', (y, d') ∈ done ++ (v, d) :: queue) :
    S.Explored (done ++ [(v, d)]) (queue ++ new) := by
  have hwalk : S.Walk d v := h.queueWalk _ List.mem_cons_self hok
  have hassoc : done ++ [(v, d)] ++ (queue ++ new) = done ++ (v, d) :: queue ++ new := by simp
  have hdeep : ∀ p ∈ done ++ (v, d) :: queue, p.2 ≤ d + 1 := by
    intro p hp
    rcases List.mem_append.mp hp with hp | hp
    · exact (h.done_le hp List.mem_cons_self).trans (Nat.le_succ d)
    · exact h.span _ List.mem_cons_self p hp
  have hgrow : ∀ {y e}, (∃ d' ≤ e, (y, d') ∈ done ++ (v, d) :: queue) →
      ∃ d' ≤ e, (y, d') ∈ done ++ [(v, d)] ++ (queue ++ new) := by
    rintro y e ⟨d', hle, hmem⟩
    exact ⟨d', hle, hassoc ▸ List.mem_append_left _ hmem⟩
  refine ⟨?_, ?_, ?_, ?_, ?_, ?_⟩
  · intro p hp
    rcases List.mem_append.mp hp with hp | hp
    · exact h.doneWalk p hp
    · obtain rfl := List.mem_singleton.mp hp
      exact hwalk
  · intro p hp hpok
    rcases List.mem_append.mp hp with hp | hp
    · exact h.queueWalk p (List.mem_cons_of_mem _ hp) hpok
    · obtain ⟨hdepth, hedge⟩ := hnew p hp
      rw [hdepth]
      exact hwalk.step hedge hpok
  · exact fun w hinit hwok hin => hgrow (h.start w hinit hwok hin)
  · intro x e y hx hin hedge hyok
    rcases List.mem_append.mp hx with hx | hx
    · exact hgrow (h.closed x e y hx hin hedge hyok)
    · obtain ⟨rfl, rfl⟩ := Prod.mk.inj (List.mem_singleton.mp hx)
      rcases hclosed hin y hedge hyok with hpushed | ⟨d', hmem⟩
      · exact ⟨_, le_rfl, List.mem_append_right _ (List.mem_append_right _ hpushed)⟩
      · exact hgrow ⟨d', hdeep _ hmem, hmem⟩
  · rw [hassoc, List.map_append, List.pairwise_append]
    refine ⟨h.sorted, ?_, ?_⟩
    · refine List.pairwise_of_forall_mem_list fun a ha b hb => ?_
      obtain ⟨p, hp, rfl⟩ := List.mem_map.mp ha
      obtain ⟨q, hq, rfl⟩ := List.mem_map.mp hb
      exact ((hnew p hp).1.trans (hnew q hq).1.symm).le
    · intro a ha b hb
      obtain ⟨p, hp, rfl⟩ := List.mem_map.mp ha
      obtain ⟨q, hq, rfl⟩ := List.mem_map.mp hb
      rw [(hnew q hq).1]
      exact hdeep p hp
  · have hlow : ∀ p ∈ queue ++ new, d ≤ p.2 := by
      intro p hp
      rcases List.mem_append.mp hp with hp | hp
      · exact h.head_le hp
      · rw [(hnew p hp).1]
        exact Nat.le_succ d
    have hhigh : ∀ p ∈ queue ++ new, p.2 ≤ d + 1 := by
      intro p hp
      rcases List.mem_append.mp hp with hp | hp
      · exact hdeep p (List.mem_append_right _ (List.mem_cons_of_mem _ hp))
      · exact (hnew p hp).1.le
    exact fun p hp q hq => (hhigh q hq).trans (Nat.succ_le_succ (hlow p hp))

/-- A node at the end of a walk no longer than the depth of the queue has been found. -/
theorem found (h : S.Explored done queue) {n : Nat} {y : α} (hw : S.Walk n y) (hin : S.Within n)
    (hn : ∀ p ∈ queue, n ≤ p.2) : ∃ d ≤ n, (y, d) ∈ done ++ queue := by
  induction hw with
  | init hinit hok => exact h.start _ hinit hok hin
  | @step n u y hwalk hedge hok ih =>
    obtain ⟨d, hle, hmem⟩ := ih (hin.mono (Nat.le_succ n)) fun p hp =>
      (Nat.le_succ n).trans (hn p hp)
    rcases List.mem_append.mp hmem with hdone | hqueue
    · obtain ⟨d', hle', hmem'⟩ := h.closed u d y hdone (hin.mono (by omega)) hedge hok
      exact ⟨d', by omega, hmem'⟩
    · have := hn _ hqueue
      omega

/-- The head of the queue, if it has not been explored before, is at its distance. -/
theorem head_distance (h : S.Explored done ((v, d) :: queue)) (hok : S.ok v) (hin : S.Within d)
    (hnew : ∀ e, (v, e) ∉ done) : S.Distance v d := by
  refine ⟨h.queueWalk _ List.mem_cons_self hok, fun {n} hwalk => ?_⟩
  by_contra hlt
  have hlow : ∀ p ∈ (v, d) :: queue, d ≤ p.2 := by
    intro p hp
    rcases List.mem_cons.mp hp with rfl | hp
    · exact le_rfl
    · exact h.head_le hp
  obtain ⟨e, hle, hmem⟩ := h.found hwalk (hin.mono (by omega)) fun p hp => by
    have := hlow p hp
    omega
  rcases List.mem_append.mp hmem with hdone | hqueue
  · exact hnew e hdone
  · have := hlow _ hqueue
    omega

/-- When the queue is empty every node within the limit has been explored. -/
theorem complete (h : S.Explored done []) {n : Nat} {y : α} (hw : S.Walk n y)
    (hin : S.Within n) : ∃ d ≤ n, (y, d) ∈ done := by
  simpa using h.found hw hin (by simp)

end Explored

end Search

/-- The work below an entry of a given depth, when each entry has at most `branch` others one step
deeper and none is deeper than `limit`. -/
def depthWork (branch limit depth : Nat) : Nat := (branch + 1) ^ (limit + 1 - depth)

theorem depthWork_pos (branch limit depth : Nat) : 0 < depthWork branch limit depth :=
  Nat.pow_pos (Nat.succ_pos branch)

/-- The entries below an entry have less work than it has. -/
theorem depthWork_lt {branch limit depth count : Nat} (hcount : count ≤ branch)
    (hdepth : depth < limit) :
    count * depthWork branch limit (depth + 1) < depthWork branch limit depth := by
  have hstep : limit + 1 - depth = limit + 1 - (depth + 1) + 1 := by omega
  have hpos := depthWork_pos branch limit (depth + 1)
  calc count * depthWork branch limit (depth + 1)
      ≤ branch * depthWork branch limit (depth + 1) := Nat.mul_le_mul_right _ hcount
    _ < (branch + 1) * depthWork branch limit (depth + 1) :=
        Nat.mul_lt_mul_of_pos_right (Nat.lt_succ_self branch) hpos
    _ = depthWork branch limit depth := by
        rw [depthWork, depthWork, hstep, Nat.pow_succ, Nat.mul_comm]

section Work

variable {α : Type} [DecidableEq α]

/-- The work of the nodes that have not been visited. -/
def workLeft (work : α → Nat) (nodes visited : List α) : Nat :=
  ((nodes.filter fun v => v ∉ visited).map work).sum

theorem workLeft_mono (work : α → Nat) (nodes : List α) {visited visited' : List α}
    (h : visited ⊆ visited') : workLeft work nodes visited' ≤ workLeft work nodes visited := by
  have hsub : (nodes.filter fun v => v ∉ visited').Sublist (nodes.filter fun v => v ∉ visited) := by
    apply List.monotone_filter_right
    intro v hv
    rw [decide_eq_true_eq] at hv ⊢
    exact fun hmem => hv (h hmem)
  exact (hsub.map work).sum_le_sum fun _ _ => Nat.zero_le _

/-- Visiting a node takes its work away. -/
theorem workLeft_cons (work : α → Nat) (nodes : List α) {visited : List α} {v : α}
    (hnew : v ∉ visited) (hmem : work v ≠ 0 → v ∈ nodes) :
    workLeft work nodes (v :: visited) + work v ≤ workLeft work nodes visited := by
  induction nodes with
  | nil =>
    have hzero : work v = 0 := by
      by_contra h
      exact absurd (hmem h) List.not_mem_nil
    simp [workLeft, hzero]
  | cons w rest ih =>
    by_cases hw : w = v
    · subst hw
      have hrest := workLeft_mono work rest (List.subset_cons_self w visited)
      simp only [workLeft, List.filter_cons, List.mem_cons, true_or, not_true_eq_false,
        decide_false, Bool.false_eq_true, ↓reduceIte, hnew, not_false_eq_true, decide_true,
        List.map_cons, List.sum_cons] at hrest ⊢
      omega
    · have hih := ih fun h => (List.mem_cons.mp (hmem h)).resolve_left (Ne.symm hw)
      by_cases hv : w ∈ visited
      · simpa [workLeft, List.filter_cons, hw, hv] using hih
      · simp only [workLeft, List.filter_cons, List.mem_cons, hw, hv, or_self, not_false_eq_true,
          decide_true, ↓reduceIte, List.map_cons, List.sum_cons] at hih ⊢
        omega

/-- Visiting distinct nodes takes their work away. -/
theorem workLeft_append (work : α → Nat) (nodes : List α) {visited new : List α}
    (hnd : (new ++ visited).Nodup) (hmem : ∀ v ∈ new, work v ≠ 0 → v ∈ nodes) :
    workLeft work nodes (new ++ visited) + (new.map work).sum ≤ workLeft work nodes visited := by
  induction new with
  | nil => simp
  | cons v rest ih =>
    rw [List.cons_append, List.nodup_cons] at hnd
    have hrest := ih hnd.2 fun w hw => hmem w (List.mem_cons_of_mem _ hw)
    have hv := workLeft_cons work nodes hnd.1 (hmem v List.mem_cons_self)
    rw [List.cons_append, List.map_cons, List.sum_cons]
    omega

end Work

end Kit
