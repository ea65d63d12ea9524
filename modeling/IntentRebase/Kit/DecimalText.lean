import Mathlib.Data.Char
import Mathlib.Data.List.Lex
import Mathlib.Data.String.Basic
import Mathlib.Tactic.Positivity
import Mathlib.Tactic.Ring

/-! Numbers written in decimal digits, and how their texts compare with the numbers: texts of one
length compare as their numbers do, and otherwise it is the leading digits that count. -/

namespace Kit

section Texts

variable {α : Type} [LinearOrder α]

/-- Beginnings of one length decide before what follows them. -/
theorem append_lt_append_iff {p q : List α} (hlength : p.length = q.length) (r t : List α) :
    p ++ r < q ++ t ↔ p < q ∨ p = q ∧ r < t := by
  induction p generalizing q with
  | nil =>
    obtain rfl := List.length_eq_zero_iff.mp hlength.symm
    simp
  | cons a p ih =>
    cases q with
    | nil => cases hlength
    | cons b q =>
      rw [List.cons_append, List.cons_append, List.cons_lt_cons_iff, List.cons_lt_cons_iff,
        ih (Nat.succ.inj hlength), List.cons.injEq]
      tauto

/-- Texts that a smaller character ends compare as the texts do, and then as what follows. -/
theorem stopped_lt_stopped_iff {stop : α} {p q : List α} (hp : ∀ a ∈ p, stop < a)
    (hq : ∀ a ∈ q, stop < a) (r t : List α) :
    p ++ stop :: r < q ++ stop :: t ↔ p < q ∨ p = q ∧ r < t := by
  induction p generalizing q with
  | nil =>
    cases q with
    | nil => simp
    | cons b q =>
      have hstop : stop < b := hq b List.mem_cons_self
      simp [List.cons_lt_cons_iff, hstop]
  | cons a p ih =>
    have hstop : stop < a := hp a List.mem_cons_self
    cases q with
    | nil => simp [List.cons_lt_cons_iff, hstop.not_gt, hstop.ne']
    | cons b q =>
      rw [List.cons_append, List.cons_append, List.cons_lt_cons_iff, List.cons_lt_cons_iff,
        ih (fun a ha => hp a (List.mem_cons_of_mem _ ha))
          (fun a ha => hq a (List.mem_cons_of_mem _ ha)), List.cons.injEq]
      tauto

/-- Only the characters after the first need to be greater than the one that ends the text. -/
theorem headed_lt_headed_iff {stop a b : α} {p q : List α} (hp : ∀ a ∈ p, stop < a)
    (hq : ∀ a ∈ q, stop < a) (r t : List α) :
    (a :: p) ++ stop :: r < (b :: q) ++ stop :: t ↔
      a :: p < b :: q ∨ a :: p = b :: q ∧ r < t := by
  rw [List.cons_append, List.cons_append, List.cons_lt_cons_iff, List.cons_lt_cons_iff,
    stopped_lt_stopped_iff hp hq, List.cons.injEq]
  tauto

end Texts

/-- The number that decimal digits write. -/
def decimalValue (digits : List Char) : Nat :=
  digits.foldl (fun n c => 10 * n + (c.toNat - 48)) 0

/-- The characters are decimal digits. -/
def AllDigits (digits : List Char) : Prop := ∀ c ∈ digits, c.isDigit = true

section Values

variable {c d : Char} {p q : List Char}

theorem isDigit_bounds (h : c.isDigit = true) : 48 ≤ c.toNat ∧ c.toNat ≤ 57 :=
  Char.isDigit_iff_toNat.mp h

theorem char_lt_iff : c < d ↔ c.toNat < d.toNat := Iff.rfl

theorem decimalValue_cons (c : Char) (digits : List Char) :
    decimalValue (c :: digits) =
      (c.toNat - 48) * 10 ^ digits.length + decimalValue digits := by
  have hfold : ∀ (digits : List Char) (n : Nat),
      digits.foldl (fun n c => 10 * n + (c.toNat - 48)) n =
        n * 10 ^ digits.length + decimalValue digits := by
    intro digits
    induction digits with
    | nil => simp [decimalValue]
    | cons a rest ih =>
      intro n
      have hvalue : decimalValue (a :: rest) =
          (10 * 0 + (a.toNat - 48)) * 10 ^ rest.length + decimalValue rest := ih _
      rw [List.foldl_cons, ih, List.length_cons, hvalue]
      ring
  rw [decimalValue, List.foldl_cons, hfold]
  simp

theorem decimalValue_append (p q : List Char) :
    decimalValue (p ++ q) = decimalValue p * 10 ^ q.length + decimalValue q := by
  induction p with
  | nil => simp [decimalValue]
  | cons c p ih =>
    rw [List.cons_append, decimalValue_cons, decimalValue_cons, ih, List.length_append, pow_add]
    ring

theorem AllDigits.tail (h : AllDigits (c :: p)) : AllDigits p := fun d hd =>
  h d (List.mem_cons_of_mem _ hd)

theorem AllDigits.head (h : AllDigits (c :: p)) : 48 ≤ c.toNat ∧ c.toNat ≤ 57 :=
  isDigit_bounds (h c List.mem_cons_self)

theorem AllDigits.value_lt (h : AllDigits p) : decimalValue p < 10 ^ p.length := by
  induction p with
  | nil => simp [decimalValue]
  | cons c p ih =>
    have hhead : c.toNat - 48 ≤ 9 := by have := h.head; omega
    have htail := ih h.tail
    rw [decimalValue_cons, List.length_cons, pow_succ]
    have hmul := Nat.mul_le_mul_right (10 ^ p.length) hhead
    omega

/-- Digits of one length compare as their numbers do. -/
theorem AllDigits.lt_iff_of_length_eq (hp : AllDigits p) (hq : AllDigits q)
    (hlength : p.length = q.length) : p < q ↔ decimalValue p < decimalValue q := by
  induction p generalizing q with
  | nil =>
    obtain rfl := List.length_eq_zero_iff.mp hlength.symm
    simp
  | cons c p ih =>
    cases q with
    | nil => cases hlength
    | cons d q =>
      have hlength' : p.length = q.length := Nat.succ.inj hlength
      have hpbound := hp.tail.value_lt
      have hqbound := hq.tail.value_lt
      have hc := hp.head
      have hd := hq.head
      rw [List.cons_lt_cons_iff, ih hp.tail hq.tail hlength', decimalValue_cons,
        decimalValue_cons, char_lt_iff, ← hlength']
      rw [← hlength'] at hqbound
      rcases Nat.lt_trichotomy c.toNat d.toNat with hlt | heq | hgt
      · -- A smaller leading digit outweighs whatever follows.
        have hmul := Nat.mul_le_mul_right (10 ^ p.length)
          (show c.toNat - 48 + 1 ≤ d.toNat - 48 by omega)
        rw [Nat.succ_mul] at hmul
        exact iff_of_true (.inl hlt) (by omega)
      · rw [heq]
        have hchar : c = d := Char.toNat_inj.mp heq
        simp [hchar]
      · have hmul := Nat.mul_le_mul_right (10 ^ p.length)
          (show d.toNat - 48 + 1 ≤ c.toNat - 48 by omega)
        rw [Nat.succ_mul] at hmul
        refine iff_of_false ?_ (by omega)
        rintro (hlt | ⟨rfl, -⟩)
        · omega
        · omega

theorem AllDigits.eq_of_value_eq (hp : AllDigits p) (hq : AllDigits q)
    (hlength : p.length = q.length) (hvalue : decimalValue p = decimalValue q) : p = q := by
  rcases lt_trichotomy p q with hlt | heq | hgt
  · exact absurd ((hp.lt_iff_of_length_eq hq hlength).mp hlt) hvalue.not_lt
  · exact heq
  · exact absurd ((hq.lt_iff_of_length_eq hp hlength.symm).mp hgt) hvalue.not_gt

/-- The leading digits of a text are those of its number. -/
theorem AllDigits.take_value (hq : AllDigits q) (n : Nat) :
    decimalValue (q.take n) = decimalValue q / 10 ^ (q.length - n) := by
  have hvalue := decimalValue_append (q.take n) (q.drop n)
  have hdrop : AllDigits (q.drop n) := fun c hc => hq c (List.mem_of_mem_drop hc)
  have hbound := hdrop.value_lt
  rw [List.take_append_drop, List.length_drop] at hvalue
  rw [List.length_drop] at hbound
  rw [hvalue, Nat.mul_comm, Nat.mul_add_div (by positivity), Nat.div_eq_of_lt hbound,
    Nat.add_zero]

/-- How the texts of two numbers compare: the number with fewer digits is compared with as many
leading digits of the other, and comes first where they are equal. -/
def TextBefore (width number width' number' : Nat) : Prop :=
  if width < width' then number ≤ number' / 10 ^ (width' - width)
  else number / 10 ^ (width - width') < number'

instance (width number width' number' : Nat) : Decidable (TextBefore width number width' number') :=
  inferInstanceAs (Decidable (ite _ _ _))

theorem AllDigits.lt_iff (hp : AllDigits p) (hq : AllDigits q) :
    p < q ↔ TextBefore p.length (decimalValue p) q.length (decimalValue q) := by
  rw [TextBefore]
  split
  · next hshort =>
    have htake : AllDigits (q.take p.length) := fun c hc => hq c (List.mem_of_mem_take hc)
    have hlength : p.length = (q.take p.length).length := by
      rw [List.length_take, Nat.min_eq_left hshort.le]
    have hrest : q.drop p.length ≠ [] := by
      rw [ne_eq, List.drop_eq_nil_iff]
      omega
    have hsplit := append_lt_append_iff hlength [] (q.drop p.length)
    rw [List.append_nil, List.take_append_drop] at hsplit
    rw [hsplit, ← hq.take_value, hp.lt_iff_of_length_eq htake hlength, Nat.le_iff_lt_or_eq]
    refine or_congr_right ⟨fun h => congrArg decimalValue h.1, fun h => ⟨?_, ?_⟩⟩
    · exact hp.eq_of_value_eq htake hlength h
    · cases hdrop : q.drop p.length with
      | nil => exact absurd hdrop hrest
      | cons c rest => exact List.nil_lt_cons c rest
  · next hlong =>
    have htake : AllDigits (p.take q.length) := fun c hc => hp c (List.mem_of_mem_take hc)
    have hlength : (p.take q.length).length = q.length := by
      rw [List.length_take]
      omega
    have hsplit := append_lt_append_iff hlength (p.drop q.length) []
    rw [List.append_nil, List.take_append_drop] at hsplit
    rw [hsplit, ← hp.take_value, htake.lt_iff_of_length_eq hq hlength]
    simp

end Values

end Kit
