import Mathlib.Order.Fin.Basic
import Mathlib.Data.String.Basic

/-! The types every service shares: identifiers, times, JSON values, and the common error. -/

namespace IntentRebase

/-- A 128-bit identifier, ordered as its sixteen bytes are. -/
abbrev Uuid := Fin (2 ^ 128)

instance Uuid.instNeZero : @NeZero Nat Zero.ofOfNat0 (2 ^ 128) := inferInstance

instance Uuid.instLawfulBEq : @LawfulBEq Uuid instBEqOfDecidableEq := inferInstance

/-- The nil identifier. -/
def Uuid.nil : Uuid := 0

theorem Uuid.succ_ne (v : Uuid) : v + 1 ≠ v := by
  intro h
  have hval := congrArg Fin.val h
  rw [Fin.val_add] at hval
  have := v.isLt
  simp only [Fin.val_one] at hval
  omega

/-- The lower-case hexadecimal digits of `n`, padded on the left to `width`. -/
def hexDigits (width n : Nat) : List Char :=
  ((List.range width).map fun i => Nat.digitChar (n / 16 ^ i % 16)).reverse

theorem length_hexDigits (width n : Nat) : (hexDigits width n).length = width := by
  simp [hexDigits]

theorem digitChar_injOn {a b : Nat} (ha : a < 16) (hb : b < 16)
    (h : Nat.digitChar a = Nat.digitChar b) : a = b := by
  have hall : ∀ a b : Fin 16, Nat.digitChar a = Nat.digitChar b → a = b := by decide
  exact congrArg Fin.val (hall ⟨a, ha⟩ ⟨b, hb⟩ h)

/-- The digits determine a number that fits in them. -/
theorem hexDigits_inj {width n m : Nat} (hn : n < 16 ^ width) (hm : m < 16 ^ width)
    (h : hexDigits width n = hexDigits width m) : n = m := by
  have hdigit : ∀ i, i < width → n / 16 ^ i % 16 = m / 16 ^ i % 16 := by
    intro i hi
    have hmap := List.map_inj_left.mp (List.reverse_injective h) i (List.mem_range.mpr hi)
    exact digitChar_injOn (Nat.mod_lt _ (by decide)) (Nat.mod_lt _ (by decide)) hmap
  clear h
  induction width generalizing n m with
  | zero => omega
  | succ width ih =>
    have hlow := hdigit 0 (by omega)
    have hhigh : n / 16 = m / 16 := by
      refine ih (Nat.div_lt_of_lt_mul ?_) (Nat.div_lt_of_lt_mul ?_) fun i hi => ?_
      · rwa [← Nat.pow_succ']
      · rwa [← Nat.pow_succ']
      · rw [Nat.div_div_eq_div_mul, Nat.div_div_eq_div_mul, ← Nat.pow_succ']
        exact hdigit (i + 1) (by omega)
    simp only [Nat.pow_zero, Nat.div_one] at hlow
    omega

/-- The hyphenated text of an identifier, 8-4-4-4-12 digits. -/
def Uuid.display (id : Uuid) : String :=
  let digits := hexDigits 32 id.val
  String.ofList (digits.take 8 ++ '-' :: (digits.drop 8).take 4 ++ '-' :: (digits.drop 12).take 4 ++
    '-' :: (digits.drop 16).take 4 ++ '-' :: digits.drop 20)

theorem Uuid.display_injective : Function.Injective Uuid.display := by
  intro id id' h
  have hlength := length_hexDigits 32 id.val
  have hlength' := length_hexDigits 32 id'.val
  have hlist := String.ofList_injective h
  simp only [List.append_assoc, List.cons_append] at hlist
  obtain ⟨h8, hlist⟩ := List.append_inj hlist (by simp [hlength, hlength'])
  obtain ⟨h4, hlist⟩ := List.append_inj (List.cons.inj hlist).2 (by simp [hlength, hlength'])
  obtain ⟨h4', hlist⟩ := List.append_inj (List.cons.inj hlist).2 (by simp [hlength, hlength'])
  obtain ⟨h4'', hlist⟩ := List.append_inj (List.cons.inj hlist).2 (by simp [hlength, hlength'])
  have h12 := (List.cons.inj hlist).2
  have hsplit : ∀ l : List Char, l.take 8 ++ ((l.drop 8).take 4 ++ ((l.drop 12).take 4 ++
      ((l.drop 16).take 4 ++ l.drop 20))) = l := by
    intro l
    have h20 : l.drop 20 = (l.drop 16).drop 4 := by rw [List.drop_drop]
    have h16 : l.drop 16 = (l.drop 12).drop 4 := by rw [List.drop_drop]
    have h12 : l.drop 12 = (l.drop 8).drop 4 := by rw [List.drop_drop]
    rw [h20, List.take_append_drop, h16, List.take_append_drop, h12, List.take_append_drop,
      List.take_append_drop]
  have hdigits : hexDigits 32 id.val = hexDigits 32 id'.val := by
    rw [← hsplit (hexDigits 32 id.val), ← hsplit (hexDigits 32 id'.val), h8, h4, h4', h4'', h12]
  exact Fin.ext (hexDigits_inj (by omega) (by omega) hdigits)

/-- The cast `as i32`, which keeps the low 32 bits. -/
@[irreducible] def asI32 (n : Nat) : Int := Int.bmod n 4294967296

/-- A UTC instant, in nanoseconds from the Unix epoch. -/
abbrev DateTime := Int

/-- A JSON number: an integer in the range of `u64` or of a negative `i64`, or the bits of a
finite double. -/
inductive JsonNumber where
  | posInt (value : Nat)
  | negInt (value : Int)
  | float (bits : BitVec 64)
deriving DecidableEq, Repr

/-- The value of a double is zero: every bit but the sign is clear. -/
def isZeroDouble (bits : BitVec 64) : Bool := bits.setWidth 63 == 0

/-- Equality of JSON numbers: the same representation and the same value, so that the two zeros of
a double are equal. -/
def JsonNumber.beq : JsonNumber → JsonNumber → Bool
  | .posInt a, .posInt b => a == b
  | .negInt a, .negInt b => a == b
  | .float a, .float b => a == b || isZeroDouble a && isZeroDouble b
  | _, _ => false

instance : BEq JsonNumber := ⟨JsonNumber.beq⟩

/-- A JSON value. The fields of an object are held in the order of their names. -/
inductive Json where
  | null
  | bool (value : Bool)
  | number (value : JsonNumber)
  | string (value : String)
  | array (items : List Json)
  | object (fields : List (String × Json))

/-- The empty object. -/
def Json.emptyObject : Json := .object []

mutual

/-- Structural equality of JSON values. -/
def Json.beq : Json → Json → Bool
  | .null, .null => true
  | .bool a, .bool b => a == b
  | .number a, .number b => a == b
  | .string a, .string b => a == b
  | .array a, .array b => Json.beqItems a b
  | .object a, .object b => Json.beqFields a b
  | _, _ => false

/-- Equality of two arrays, item by item. -/
def Json.beqItems : List Json → List Json → Bool
  | [], [] => true
  | a :: as, b :: bs => Json.beq a b && Json.beqItems as bs
  | _, _ => false

/-- Equality of two objects, field by field. -/
def Json.beqFields : List (String × Json) → List (String × Json) → Bool
  | [], [] => true
  | (k, a) :: as, (l, b) :: bs => k == l && Json.beq a b && Json.beqFields as bs
  | _, _ => false

end

instance : BEq Json := ⟨Json.beq⟩

@[simp] theorem JsonNumber.beq_self (n : JsonNumber) : (n == n) = true := by
  cases n <;> simp [BEq.beq, JsonNumber.beq]

mutual

theorem Json.beq_refl : ∀ v : Json, Json.beq v v = true
  | .null => by simp [Json.beq]
  | .bool _ => by simp [Json.beq]
  | .number _ => by simp [Json.beq]
  | .string _ => by simp [Json.beq]
  | .array items => by simp only [Json.beq]; exact Json.beqItems_refl items
  | .object fields => by simp only [Json.beq]; exact Json.beqFields_refl fields

theorem Json.beqItems_refl : ∀ items : List Json, Json.beqItems items items = true
  | [] => by simp [Json.beqItems]
  | v :: rest => by
      simp only [Json.beqItems, Json.beq_refl v, Json.beqItems_refl rest, Bool.and_self]

theorem Json.beqFields_refl : ∀ fields : List (String × Json), Json.beqFields fields fields = true
  | [] => by simp [Json.beqFields]
  | (_, v) :: rest => by
      simp only [Json.beqFields, beq_self_eq_true, Json.beq_refl v, Json.beqFields_refl rest,
        Bool.and_self]

end

@[simp] theorem Json.beq_self (v : Json) : (v == v) = true := Json.beq_refl v

theorem JsonNumber.beq_symm (m n : JsonNumber) : (m == n) = (n == m) := by
  cases m <;> cases n <;> simp only [BEq.beq, JsonNumber.beq]
  · exact decide_eq_decide.mpr eq_comm
  · exact decide_eq_decide.mpr eq_comm
  · rw [Bool.and_comm]
    exact congrArg (· || _) (decide_eq_decide.mpr eq_comm)

mutual

theorem Json.beq_symm : ∀ v w : Json, Json.beq v w = Json.beq w v
  | .bool _, .bool _ => by simp only [Json.beq, Bool.beq_comm]
  | .number m, .number n => by simp only [Json.beq, JsonNumber.beq_symm m n]
  | .string _, .string _ => by simp only [Json.beq, Bool.beq_comm]
  | .array items, .array items' => by
      simp only [Json.beq, Json.beqItems_symm items items']
  | .object fields, .object fields' => by
      simp only [Json.beq, Json.beqFields_symm fields fields']
  | .null, w => by cases w <;> simp [Json.beq]
  | .bool _, .null | .bool _, .number _ | .bool _, .string _ | .bool _, .array _
  | .bool _, .object _ => by simp [Json.beq]
  | .number _, .null | .number _, .bool _ | .number _, .string _ | .number _, .array _
  | .number _, .object _ => by simp [Json.beq]
  | .string _, .null | .string _, .bool _ | .string _, .number _ | .string _, .array _
  | .string _, .object _ => by simp [Json.beq]
  | .array _, .null | .array _, .bool _ | .array _, .number _ | .array _, .string _
  | .array _, .object _ => by simp [Json.beq]
  | .object _, .null | .object _, .bool _ | .object _, .number _ | .object _, .string _
  | .object _, .array _ => by simp [Json.beq]

theorem Json.beqItems_symm : ∀ items items' : List Json,
    Json.beqItems items items' = Json.beqItems items' items
  | [], [] => rfl
  | [], _ :: _ => by simp [Json.beqItems]
  | _ :: _, [] => by simp [Json.beqItems]
  | v :: rest, w :: rest' => by
      simp only [Json.beqItems, Json.beq_symm v w, Json.beqItems_symm rest rest']

theorem Json.beqFields_symm : ∀ fields fields' : List (String × Json),
    Json.beqFields fields fields' = Json.beqFields fields' fields
  | [], [] => rfl
  | [], _ :: _ => by simp [Json.beqFields]
  | _ :: _, [] => by simp [Json.beqFields]
  | (k, v) :: rest, (l, w) :: rest' => by
      simp only [Json.beqFields, Json.beq_symm v w, Json.beqFields_symm rest rest',
        Bool.beq_comm (a := k)]

end

/-- The error every service returns. -/
inductive IntentRebaseError where
  | intentNotFound (id : Uuid)
  | intentVersionNotFound (id : Uuid)
  | artifactNotFound (id : Uuid)
  | graphNodeNotFound (id : Uuid)
  | graphEdgeNotFound (id : Uuid)
  | graphIntegrityError (message : String)
  | invalidIntentVersion (message : String)
  | rebaseConflict (message : String)
  | storageError (message : String)
  | brokerError (message : String)
  | serializationError (message : String)
  | invalidHeader (message : String)
  | concurrencyConflict (id : Uuid)
  | internal (message : String)
  | invalidIngestRequest (message : String)
  | artifactTraceabilityEmpty
  | unauthorized (message : String)
  | invalidApiKey (message : String)
  | approvalRequestNotFound (id : Uuid)
  | approvalRequestNotPending (id : Uuid) (status : String)
  | checkpointNotFound (id : Uuid)
  | policySnapshotNotFound (id : Uuid)
  | compensationActionNotFound (id : Uuid)
  | sideEffectNotFound (id : Uuid)
  | unknownEffectClass (name : String)
  | invalidCompensationActionTransition (fromStatus toStatus reason : String)
  | compensationActionNotExecutable (id : Uuid)
  | compensationActionConcurrencyConflict (id : Uuid)
  | compensationActionNotReapprovable (id : Uuid) (reason : String)
  | compensationActionRetryExhausted (id : Uuid) (attempts : Int)
  | compensationActionNonRetryableError (id : Uuid) (reason : String)
  | orchestrationRunNotFound (id : Uuid)
  | rollbackRecordNotFound (id : Uuid)
  | quotaExceeded (tenantId : Uuid) (resource : String) (current limit : Int)
  | tenantNotFound (id : Uuid)
  | tenantNotFoundBySlug (slug : String)
  | forensicBundleNotFound (id : Uuid)
  | invalidForensicBundleStatusTransition (fromStatus toStatus reason : String)
  | webhookSubscriptionNotFound (id : Uuid)
deriving DecidableEq, Repr

/-- The text of an error. -/
def IntentRebaseError.display : IntentRebaseError → String
  | .intentNotFound id => s!"intent not found: {id.display}"
  | .intentVersionNotFound id => s!"intent version not found: {id.display}"
  | .artifactNotFound id => s!"artifact not found: {id.display}"
  | .graphNodeNotFound id => s!"graph node not found: {id.display}"
  | .graphEdgeNotFound id => s!"graph edge not found: {id.display}"
  | .graphIntegrityError m => s!"graph integrity error: {m}"
  | .invalidIntentVersion m => s!"invalid intent version: {m}"
  | .rebaseConflict m => s!"rebase conflict detected: {m}"
  | .storageError m => s!"storage error: {m}"
  | .brokerError m => s!"broker error: {m}"
  | .serializationError m => s!"serialization error: {m}"
  | .invalidHeader m => s!"invalid request header: {m}"
  | .concurrencyConflict id =>
    s!"optimistic concurrency conflict: intent {id.display} has been modified"
  | .internal m => s!"internal error: {m}"
  | .invalidIngestRequest m => s!"invalid ingest request: {m}"
  | .artifactTraceabilityEmpty => "artifact must have at least one IntentVersion dependency"
  | .unauthorized m => s!"unauthorized: {m}"
  | .invalidApiKey m => s!"invalid API key: {m}"
  | .approvalRequestNotFound id => s!"approval request not found: {id.display}"
  | .approvalRequestNotPending id status =>
    s!"approval request {id.display} is not pending (current status: {status})"
  | .checkpointNotFound id => s!"checkpoint not found: {id.display}"
  | .policySnapshotNotFound id => s!"policy snapshot not found: {id.display}"
  | .compensationActionNotFound id => s!"compensation action not found: {id.display}"
  | .sideEffectNotFound id => s!"side effect not found: {id.display}"
  | .unknownEffectClass name => s!"unknown effect class: {name}"
  | .invalidCompensationActionTransition src dst reason =>
    s!"invalid compensation action transition from {src} to {dst}: {reason}"
  | .compensationActionNotExecutable id =>
    s!"compensation action {id.display} is not in Approved state for execution"
  | .compensationActionConcurrencyConflict id =>
    s!"concurrency conflict updating compensation action {id.display}"
  | .compensationActionNotReapprovable id reason =>
    s!"compensation action {id.display} cannot be reapproved: {reason}"
  | .compensationActionRetryExhausted id attempts =>
    s!"compensation action {id.display} has exhausted retry budget ({attempts} attempts)"
  | .compensationActionNonRetryableError id reason =>
    s!"compensation action {id.display} failed with non-retryable error: {reason}"
  | .orchestrationRunNotFound id => s!"orchestration run not found: {id.display}"
  | .rollbackRecordNotFound id => s!"rollback record not found: {id.display}"
  | .quotaExceeded tenantId resource current limit =>
    s!"quota exceeded: tenant {tenantId.display} has {current}/{limit} {resource} (limit: {limit})"
  | .tenantNotFound id => s!"tenant not found: {id.display}"
  | .tenantNotFoundBySlug slug => s!"tenant not found with slug: {slug}"
  | .forensicBundleNotFound id => s!"forensic bundle not found: {id.display}"
  | .invalidForensicBundleStatusTransition src dst reason =>
    s!"invalid forensic bundle status transition from {src} to {dst}: {reason}"
  | .webhookSubscriptionNotFound id => s!"webhook subscription not found: {id.display}"

example : Uuid.display 0x0123456789abcdef0123456789abcdef =
    "01234567-89ab-cdef-0123-456789abcdef" := by decide

end IntentRebase
