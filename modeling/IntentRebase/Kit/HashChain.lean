import Mathlib.Data.List.Nodup

/-! Hash chains: each link hashes its own entry together with the digest of the link before it, so a
digest fixes all the entries up to its own. -/

namespace Kit

variable {α δ : Type}

/-- No two of the values have the same digest. -/
def CollisionFree (hash : α → δ) (values : List α) : Prop :=
  ∀ a ∈ values, ∀ b ∈ values, hash a = hash b → a = b

/-- Values do not collide if they are among some whose digests are all different. -/
theorem CollisionFree.of_nodup {hash : α → δ} {values base : List α} (hsub : values ⊆ base)
    (hnodup : (base.map hash).Nodup) : CollisionFree hash values := fun _ ha _ hb h =>
  List.inj_on_of_nodup_map hnodup (hsub ha) (hsub hb) h

variable (link : Option δ → α → δ)

/-- The entries of a chain, each with the digest of the link before it. -/
def links : Option δ → List α → List (Option δ × α)
  | _, [] => []
  | prev, a :: rest => (prev, a) :: links (some (link prev a)) rest

/-- The digests of a chain. -/
def digests (prev : Option δ) (entries : List α) : List δ :=
  (links link prev entries).map fun p => link p.1 p.2

variable {link} {prev prev' : Option δ} {entries entries' : List α}

theorem map_snd_links : (links link prev entries).map Prod.snd = entries := by
  induction entries generalizing prev with
  | nil => rfl
  | cons a rest ih => rw [links, List.map_cons, ih]

theorem length_digests : (digests link prev entries).length = entries.length := by
  rw [digests, List.length_map, ← List.length_map Prod.snd, map_snd_links]

/-- The list of a chain is the one that starts from `prev`, and goes on from each digest. -/
theorem eq_links_iff {xs : List (Option δ × α)} :
    xs = links link prev (xs.map Prod.snd) ↔
      (∀ p, xs[0]? = some p → p.1 = prev) ∧
        ∀ i p q, xs[i]? = some p → xs[i + 1]? = some q → q.1 = some (link p.1 p.2) := by
  induction xs generalizing prev with
  | nil => simp [links]
  | cons x xs ih =>
    rw [List.map_cons, links, List.cons.injEq]
    constructor
    · rintro ⟨hx, hxs⟩
      obtain ⟨hfirst, hnext⟩ := ih.mp hxs
      refine ⟨fun p hp => ?_, fun i p q hp hq => ?_⟩
      · obtain rfl := Option.some.inj hp
        rw [hx]
      · cases i with
        | zero =>
          obtain rfl := Option.some.inj hp
          rw [hfirst q hq, hx]
        | succ i => exact hnext i p q hp hq
    · rintro ⟨hfirst, hnext⟩
      have hx : x.1 = prev := hfirst x rfl
      refine ⟨Prod.ext hx rfl, ih.mpr ⟨fun p hp => ?_, fun i p q hp hq => ?_⟩⟩
      · rw [hnext 0 x p rfl hp, hx]
      · exact hnext (i + 1) p q hp hq

/-- The links of two chains do not collide: two that both have a digest before them, or both have
none, are the same if their digests are. -/
def NoCollision (link : Option δ → α → δ) (ps qs : List (Option δ × α)) : Prop :=
  ∀ p ∈ ps, ∀ q ∈ qs, p.1.isSome = q.1.isSome → link p.1 p.2 = link q.1 q.2 → p = q

/-- Two chains with the same digest at some place have the same entries up to that place. -/
theorem take_eq_of_digest_eq {j : Nat} {d : δ}
    (hfree : NoCollision link (links link prev entries) (links link prev' entries'))
    (hstart : prev.isSome = prev'.isSome) (h : (digests link prev entries)[j]? = some d)
    (h' : (digests link prev' entries')[j]? = some d) :
    prev = prev' ∧ entries.take (j + 1) = entries'.take (j + 1) := by
  induction j generalizing prev prev' entries entries' with
  | zero =>
    cases entries with
    | nil => cases h
    | cons a rest =>
      cases entries' with
      | nil => cases h'
      | cons a' rest' =>
        have hdigest : link prev a = link prev' a' :=
          (Option.some.inj h).trans (Option.some.inj h').symm
        have hsame := hfree _ List.mem_cons_self _ List.mem_cons_self hstart hdigest
        obtain ⟨rfl, rfl⟩ := Prod.mk.inj hsame
        exact ⟨rfl, rfl⟩
  | succ j ih =>
    cases entries with
    | nil => cases h
    | cons a rest =>
      cases entries' with
      | nil => cases h'
      | cons a' rest' =>
        have htail : NoCollision link (links link (some (link prev a)) rest)
            (links link (some (link prev' a')) rest') := fun p hp q hq =>
          hfree p (List.mem_cons_of_mem _ hp) q (List.mem_cons_of_mem _ hq)
        obtain ⟨hdigest, hrest⟩ := ih htail rfl h h'
        have hsame := hfree _ List.mem_cons_self _ List.mem_cons_self hstart
          (Option.some.inj hdigest)
        obtain ⟨rfl, rfl⟩ := Prod.mk.inj hsame
        exact ⟨rfl, by rw [List.take_succ_cons, List.take_succ_cons, hrest]⟩

/-- Two chains that differ at one place have different digests there and at every later place. -/
theorem digest_ne_of_ne {i j : Nat} {d d' : δ}
    (hfree : NoCollision link (links link prev entries) (links link prev' entries'))
    (hstart : prev.isSome = prev'.isSome) (hne : entries[i]? ≠ entries'[i]?) (hij : i ≤ j)
    (h : (digests link prev entries)[j]? = some d)
    (h' : (digests link prev' entries')[j]? = some d') : d ≠ d' := by
  rintro rfl
  obtain ⟨_, htake⟩ := take_eq_of_digest_eq hfree hstart h h'
  have hi := congrArg (fun l : List α => l[i]?) htake
  rw [List.getElem?_take_of_lt (by omega), List.getElem?_take_of_lt (by omega)] at hi
  exact hne hi

/-- Two chains of one length with the same last digest have the same entries. -/
theorem eq_of_last_digest_eq
    (hfree : NoCollision link (links link prev entries) (links link prev' entries'))
    (hstart : prev.isSome = prev'.isSome) (hlength : entries.length = entries'.length)
    (hlast : (digests link prev entries).getLast? = (digests link prev' entries').getLast?) :
    entries = entries' := by
  rw [List.getLast?_eq_getElem?, List.getLast?_eq_getElem?, length_digests, length_digests,
    ← hlength] at hlast
  cases hd : (digests link prev entries)[entries.length - 1]? with
  | none =>
    have hempty := List.getElem?_eq_none_iff.mp hd
    rw [length_digests] at hempty
    have hnil : entries = [] := List.eq_nil_of_length_eq_zero (by omega)
    have hnil' : entries' = [] := List.eq_nil_of_length_eq_zero (by omega)
    rw [hnil, hnil']
  | some d =>
    obtain ⟨_, htake⟩ := take_eq_of_digest_eq hfree hstart hd (hlast.symm.trans hd)
    rwa [List.take_of_length_le (by omega), List.take_of_length_le (by omega)] at htake

end Kit
