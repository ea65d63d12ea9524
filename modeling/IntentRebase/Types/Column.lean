import IntentRebase.Types.Common

/-! Values as columns of a PostgreSQL table hold them. -/

namespace IntentRebase

/-- No text holds the character with code 0. -/
def containsNul (text : String) : Bool := text.toList.contains '\x00'

/-- The value of a column `VARCHAR(limit)`. Spaces beyond the limit are cut off. -/
def varchar (limit : Nat) (text : String) : Except String String :=
  if containsNul text then .error "invalid byte sequence for encoding \"UTF8\": 0x00"
  else if text.length ≤ limit then .ok text
  else if (text.toList.drop limit).all (· == ' ') then .ok (String.ofList (text.toList.take limit))
  else .error s!"value too long for type character varying({limit})"

/-- The value of a column `VARCHAR(limit)` that may be absent. -/
def nullableVarchar (limit : Nat) : Option String → Except String (Option String)
  | none => .ok none
  | some text => (varchar limit text).map some

/-- The value of a column `TEXT`. -/
def textColumn (text : String) : Except String String :=
  if containsNul text then .error "invalid byte sequence for encoding \"UTF8\": 0x00"
  else .ok text

/-- The value of a column `TEXT` that may be absent. -/
def nullableText : Option String → Except String (Option String)
  | none => .ok none
  | some text => (textColumn text).map some

/-- The value of a column `TEXT[]`. -/
def textArray (texts : List String) : Except String (List String) := texts.mapM textColumn

/-- The value bound for a field, where one is supplied. -/
def suppliedColumn {α : Type} (column : α → Except String α) :
    Option α → Except String (Option α)
  | none => .ok none
  | some value => (column value).map some

mutual

/-- A text of the value holds the character with code 0. -/
def Json.containsNul : Json → Bool
  | .null | .bool _ | .number _ => false
  | .string value => IntentRebase.containsNul value
  | .array items => Json.itemsContainNul items
  | .object fields => Json.fieldsContainNul fields

def Json.itemsContainNul : List Json → Bool
  | [] => false
  | item :: rest => item.containsNul || Json.itemsContainNul rest

def Json.fieldsContainNul : List (String × Json) → Bool
  | [] => false
  | (name, value) :: rest =>
    IntentRebase.containsNul name || value.containsNul || Json.fieldsContainNul rest

end

/-- A time as its column holds it: in whole microseconds from the start of the year 2000, without
what is beyond. -/
def timestamptz (time : DateTime) : DateTime :=
  time - Int.tmod (time - 946684800000000000) 1000

/-- An integer that an `i32`, and a column `INT`, holds. -/
def IsI32 (n : Int) : Prop := -2147483648 ≤ n ∧ n < 2147483648

instance (n : Int) : Decidable (IsI32 n) := inferInstanceAs (Decidable (_ ∧ _))

/-- The value of a column `INT`. -/
def integerColumn (n : Int) : Except String Int :=
  if IsI32 n then .ok n else .error "integer out of range"

/-- The value of a column `JSONB`. Its numbers are kept as they are: left out is that a float from
10^16 on comes back as an integer, and a negative zero without its sign. -/
def jsonb (value : Json) : Except String Json :=
  if value.containsNul then .error "unsupported Unicode escape sequence"
  else .ok value

/-- Two steps succeed exactly if the first does, and the second from what it answers. -/
theorem bind_eq_ok {ε α β : Type} {x : Except ε α} {f : α → Except ε β} {b : β} :
    (x >>= f) = .ok b ↔ ∃ a, x = .ok a ∧ f a = .ok b := by
  cases x with
  | error e => exact iff_of_false (fun h => by cases h) fun ⟨_, h, _⟩ => by cases h
  | ok a => exact ⟨fun h => ⟨a, rfl, h⟩, fun ⟨_, heq, h⟩ => Except.ok.inj heq ▸ h⟩

theorem varchar_ok {limit : Nat} {text : String} (hlength : text.length ≤ limit)
    (hnul : containsNul text = false) : varchar limit text = .ok text := by
  rw [varchar, hnul, if_neg Bool.false_ne_true, if_pos hlength]

/-- What is stored as it is given has no such character and is within the limit. -/
theorem of_varchar {limit : Nat} {text : String} (h : varchar limit text = .ok text) :
    text.length ≤ limit ∧ containsNul text = false := by
  rw [varchar] at h
  split at h
  · cases h
  next hnul =>
  split at h
  · next hlength => exact ⟨hlength, by simpa using hnul⟩
  next hlength =>
  split at h
  · have hcut := congrArg String.length (Except.ok.inj h)
    rw [String.length_ofList, List.length_take] at hcut
    exact absurd hcut (by omega)
  · cases h

theorem varchar_eq_self {limit : Nat} {text : String} :
    varchar limit text = .ok text ↔ text.length ≤ limit ∧ containsNul text = false :=
  ⟨of_varchar, fun h => varchar_ok h.1 h.2⟩

theorem nullableVarchar_eq_self {limit : Nat} {text : Option String} :
    nullableVarchar limit text = .ok text ↔
      ∀ value, text = some value → value.length ≤ limit ∧ containsNul value = false := by
  cases text with
  | none => simp [nullableVarchar]
  | some value =>
    simp only [Option.some.injEq, forall_eq', ← varchar_eq_self]
    rw [nullableVarchar]
    cases varchar limit value <;> simp [Except.map]

theorem textColumn_ok {text value : String} :
    textColumn text = .ok value ↔ containsNul text = false ∧ value = text := by
  rw [textColumn]
  cases containsNul text <;> simp [@eq_comm _ value]

theorem nullableText_ok {text value : Option String} :
    nullableText text = .ok value ↔ (∀ t ∈ text, containsNul t = false) ∧ value = text := by
  cases text with
  | none => simp [nullableText, @eq_comm _ value]
  | some t =>
    simp only [Option.mem_some, forall_eq']
    rw [nullableText, textColumn, @eq_comm _ value]
    cases containsNul t <;> simp [Except.map]

theorem textArray_ok {texts values : List String} :
    textArray texts = .ok values ↔ (∀ text ∈ texts, containsNul text = false) ∧ values = texts := by
  induction texts generalizing values with
  | nil =>
    constructor
    · intro h
      exact ⟨by simp, (Except.ok.inj h).symm⟩
    · rintro ⟨-, rfl⟩
      rfl
  | cons text texts ih =>
    rw [textArray, List.mapM_cons]
    simp only [bind_eq_ok, textColumn_ok]
    constructor
    · rintro ⟨_, ⟨htext, rfl⟩, rest, hrest, hvalues⟩
      obtain ⟨htexts, rfl⟩ := ih.mp hrest
      exact ⟨List.forall_mem_cons.mpr ⟨htext, htexts⟩, (Except.ok.inj hvalues).symm⟩
    · rintro ⟨htexts, rfl⟩
      obtain ⟨htext, htexts⟩ := List.forall_mem_cons.mp htexts
      exact ⟨text, ⟨htext, rfl⟩, texts, ih.mpr ⟨htexts, rfl⟩, rfl⟩

/-- Where a column takes the values that fit as they are, so it does for a field that is
supplied. -/
theorem suppliedColumn_ok {α : Type} {column : α → Except String α} {fits : α → Prop}
    (hcolumn : ∀ {given value : α}, column given = .ok value ↔ fits given ∧ value = given)
    {field value : Option α} :
    suppliedColumn column field = .ok value ↔ (∀ given ∈ field, fits given) ∧ value = field := by
  cases field with
  | none => simp [suppliedColumn, @eq_comm _ value]
  | some given =>
    simp only [suppliedColumn, Option.mem_some, forall_eq']
    cases hgiven : column given with
    | error e =>
      have hno : ¬ fits given := fun hfits => by
        rw [hcolumn.mpr ⟨hfits, rfl⟩] at hgiven
        cases hgiven
      exact iff_of_false (fun h => nomatch h) fun h => hno h.1
    | ok v =>
      obtain ⟨hfits, rfl⟩ := hcolumn.mp hgiven
      simp [Except.map, hfits, @eq_comm _ value]

theorem integerColumn_ok {n value : Int} :
    integerColumn n = .ok value ↔ IsI32 n ∧ value = n := by
  rw [integerColumn]
  split
  · next h => simp [h, eq_comm]
  · next h => simp [h]

/-- A time in whole microseconds is stored as it is given. -/
theorem timestamptz_eq_self {time : DateTime} : timestamptz time = time ↔ time % 1000 = 0 := by
  have hself : ∀ a : Int, a - Int.tmod (a - 946684800000000000) 1000 = a ↔ a % 1000 = 0 := by
    intro a
    have hdvd : (1000 : Int) ∣ a - 946684800000000000 ↔
      Int.tmod (a - 946684800000000000) 1000 = 0 := Int.dvd_iff_tmod_eq_zero
    omega
  exact hself time

theorem map_timestamptz_eq_self {time : Option DateTime} :
    time.map timestamptz = time ↔ ∀ t ∈ time, t % 1000 = 0 := by
  cases time with
  | none => exact iff_of_true rfl fun _ h => (by cases h)
  | some t => simp only [Option.map_some, Option.some.injEq, Option.mem_some, forall_eq',
      timestamptz_eq_self]

theorem jsonb_ok {value : Json} : jsonb value = .ok value ↔ value.containsNul = false := by
  rw [jsonb]
  cases value.containsNul <;> simp

end IntentRebase
