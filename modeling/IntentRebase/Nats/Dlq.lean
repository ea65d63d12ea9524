import IntentRebase.Webhook.Delivery

/-! Dead letters: the subject under which a failed message is kept, its publication there, and its
replay to the subject that it came from. -/

namespace IntentRebase

inductive DlqSubjectError where
  | emptySubject
  | subjectTooLong (length max : Nat)
  | invalidCharacters (invalidChar : Char) (position : Nat)
  | emptyToken (position : Nat)
  | tokenTooLong (length max position : Nat)
deriving DecidableEq, Repr

/-- The text of an error. -/
def DlqSubjectError.display (e : DlqSubjectError) : String :=
  "DLQ subject derivation failed: " ++
    match e with
    | .emptySubject => "original subject is empty"
    | .subjectTooLong length max => s!"subject length {length} exceeds NATS limit {max}"
    | .invalidCharacters c position =>
      s!"invalid NATS character '{c}' at position {position}"
    | .emptyToken position => s!"empty token at position {position}"
    | .tokenTooLong length max position =>
      s!"token length {length} exceeds NATS token limit {max} at position {position}"

inductive DlqPublishError where
  | subjectDerivation (message : String)
  | publishFailed (message : String)
deriving DecidableEq, Repr

inductive DlqReplayError where
  | missingOrigSubjectHeader
  | invalidSubject (message : String)
  | publishFailed (message : String)
deriving DecidableEq, Repr

/-- The number of bytes of a text. -/
def byteLength (text : List Char) : Nat := (text.map Char.utf8Size).sum

/-- A character that no subject has. -/
def invalidInSubject (c : Char) : Bool :=
  isWhitespace c || c == '\x00' || c == '*' || c == '>' || c == '\\'

/-- The loop over the characters, at a byte of the subject, with the byte at which the token starts:
where the last token starts. -/
def scanSubject : List Char → Nat → Nat → Bool → Except DlqSubjectError Nat
  | [], _, tokenStart, _ => .ok tokenStart
  | c :: rest, i, tokenStart, prevWasDot =>
    if c = '.' then
      if prevWasDot ∨ i = 0 then .error (.emptyToken i)
      else if i - tokenStart > 255 then .error (.tokenTooLong (i - tokenStart) 255 tokenStart)
      else scanSubject rest (i + 1) (i + 1) true
    else if invalidInSubject c then .error (.invalidCharacters c i)
    else scanSubject rest (i + c.utf8Size) tokenStart false

def validateNatsSubject (subject : String) : Except DlqSubjectError Unit :=
  let text := subject.toList
  let length := byteLength text
  if text.isEmpty then .error .emptySubject
  else if length > 1024 then .error (.subjectTooLong length 1024)
  else
    match scanSubject text 0 0 false with
    | .error e => .error e
    | .ok tokenStart =>
      if text.getLast? = some '.' then .error (.emptyToken (length - 1))
      else if length - tokenStart > 255 then
        .error (.tokenTooLong (length - tokenStart) 255 tokenStart)
      else .ok ()

def dlqSuffix : String := ".DLQ"

/-- The text ends with the suffix of dead letters. -/
def endsWithDlq (subject : String) : Bool := dlqSuffix.toList.isSuffixOf subject.toList

/-- A subject that has the suffix is its own. -/
def deriveDlqSubject (originalSubject : String) : Except DlqSubjectError String :=
  if originalSubject.toList.isEmpty then .error .emptySubject
  else if endsWithDlq originalSubject then .ok originalSubject
  else if byteLength originalSubject.toList > 1024 then
    .error (.subjectTooLong (byteLength originalSubject.toList) 1024)
  else
    match validateNatsSubject originalSubject with
    | .error e => .error e
    | .ok () => .ok (originalSubject ++ dlqSuffix)

theorem endsWithDlq_append (subject : String) : endsWithDlq (subject ++ dlqSuffix) = true := by
  rw [endsWithDlq, String.toList_append, List.isSuffixOf_iff_suffix]
  exact List.suffix_append _ _

/-- A token of a subject. -/
structure IsToken (token : List Char) : Prop where
  nonempty : token ≠ []
  short : byteLength token ≤ 255
  valid : ∀ c ∈ token, invalidInSubject c = false

/-- A subject: tokens with dots between them. -/
structure IsSubject (subject : String) : Prop where
  short : byteLength subject.toList ≤ 1024
  tokens : ∀ token ∈ subject.toList.splitOn '.', IsToken token

/-- After so many bytes of a token, the text completes it and goes on with tokens. -/
def Completes (used : Nat) (text : List Char) : Prop :=
  ∃ token rest, text.splitOn '.' = token :: rest ∧ 0 < used + byteLength token ∧
    used + byteLength token ≤ 255 ∧ (∀ c ∈ token, invalidInSubject c = false) ∧
    ∀ next ∈ rest, IsToken next

section Completes

variable {used : Nat} {c : Char} {text : List Char}

theorem byteLength_cons : byteLength (c :: text) = c.utf8Size + byteLength text := rfl

theorem byteLength_append {text' : List Char} :
    byteLength (text ++ text') = byteLength text + byteLength text' := by
  rw [byteLength, List.map_append, List.sum_append, byteLength, byteLength]

theorem byteLength_pos : 0 < byteLength text ↔ text ≠ [] := by
  cases text with
  | nil => simp [byteLength]
  | cons c text =>
    have hpos := c.utf8Size_pos
    rw [byteLength_cons]
    exact iff_of_true (by omega) (List.cons_ne_nil c text)

theorem completes_nil : Completes used [] ↔ 0 < used ∧ used ≤ 255 := by
  constructor
  · rintro ⟨token, rest, hsplit, hpos, hshort, -, -⟩
    obtain ⟨rfl, rfl⟩ := List.cons.inj (hsplit.symm.trans (List.splitOn_nil '.'))
    exact ⟨hpos, hshort⟩
  · rintro ⟨hpos, hshort⟩
    exact ⟨[], [], List.splitOn_nil '.', hpos, hshort, by simp, by simp⟩

theorem completes_zero : Completes 0 text ↔ ∀ token ∈ text.splitOn '.', IsToken token := by
  constructor
  · rintro ⟨token, rest, hsplit, hpos, hshort, hvalid, hrest⟩
    rw [Nat.zero_add] at hpos hshort
    rw [hsplit]
    exact List.forall_mem_cons.mpr ⟨⟨byteLength_pos.mp hpos, hshort, hvalid⟩, hrest⟩
  · intro h
    obtain ⟨token, rest, hsplit⟩ := List.exists_cons_of_ne_nil (List.splitOn_ne_nil '.' text)
    rw [hsplit] at h
    obtain ⟨htoken, hrest⟩ := List.forall_mem_cons.mp h
    refine ⟨token, rest, hsplit, ?_, ?_, htoken.valid, hrest⟩
    · rw [Nat.zero_add]
      exact byteLength_pos.mpr htoken.nonempty
    · rw [Nat.zero_add]
      exact htoken.short

theorem completes_dot :
    Completes used ('.' :: text) ↔ 0 < used ∧ used ≤ 255 ∧ Completes 0 text := by
  have hdot : ('.' :: text).splitOn '.' = [] :: text.splitOn '.' := by
    rw [List.splitOn, List.splitOnP_cons_eq_if_modifyHead, if_pos (by decide)]
    rfl
  rw [completes_zero]
  constructor
  · rintro ⟨token, rest, hsplit, hpos, hshort, -, hrest⟩
    obtain ⟨rfl, rfl⟩ := List.cons.inj (hdot.symm.trans hsplit)
    exact ⟨hpos, hshort, hrest⟩
  · rintro ⟨hpos, hshort, hrest⟩
    exact ⟨[], _, hdot, hpos, hshort, by simp, hrest⟩

theorem completes_cons (hc : c ≠ '.') : Completes used (c :: text) ↔
    invalidInSubject c = false ∧ Completes (used + c.utf8Size) text := by
  obtain ⟨token, rest, hsplit⟩ := List.exists_cons_of_ne_nil (List.splitOn_ne_nil '.' text)
  have hcons : (c :: text).splitOn '.' = (c :: token) :: rest := by
    rw [List.splitOn, List.splitOnP_cons_eq_if_modifyHead, if_neg (by simpa using hc)]
    exact congrArg (List.modifyHead (c :: ·)) hsplit
  constructor
  · rintro ⟨token', rest', hsplit', hpos, hshort, hvalid, hrest⟩
    obtain ⟨rfl, rfl⟩ := List.cons.inj (hcons.symm.trans hsplit')
    rw [byteLength_cons, ← Nat.add_assoc] at hpos hshort
    obtain ⟨hhead, htail⟩ := List.forall_mem_cons.mp hvalid
    exact ⟨hhead, token, rest, hsplit, hpos, hshort, htail, hrest⟩
  · rintro ⟨hhead, token', rest', hsplit', hpos, hshort, htail, hrest⟩
    obtain ⟨rfl, rfl⟩ := List.cons.inj (hsplit.symm.trans hsplit')
    rw [Nat.add_assoc] at hpos hshort
    exact ⟨c :: token, rest, hcons, hpos, hshort, List.forall_mem_cons.mpr ⟨hhead, htail⟩, hrest⟩

end Completes

/-- The loop and the two checks after it accept what completes the token that it is in. -/
theorem scanSubject_accepts {text : List Char} {i tokenStart : Nat} {prevWasDot : Bool}
    {last : Char} (hstart : tokenStart ≤ i) (hlast : last = '.' ↔ prevWasDot = true)
    (hprev : prevWasDot = true ↔ i = tokenStart ∧ i ≠ 0) (hne : text ≠ [] ∨ i ≠ 0) :
    (∃ start, scanSubject text i tokenStart prevWasDot = .ok start ∧
        text.getLast?.getD last ≠ '.' ∧ i + byteLength text - start ≤ 255) ↔
      Completes (i - tokenStart) text := by
  induction text generalizing i tokenStart prevWasDot last with
  | nil =>
    have hi : i ≠ 0 := hne.resolve_left (by simp)
    rw [completes_nil, scanSubject]
    constructor
    · rintro ⟨start, hok, hend, hshort⟩
      obtain rfl := Except.ok.inj hok
      have hopen : ¬ i = tokenStart := fun heq => hend (hlast.mpr (hprev.mpr ⟨heq, hi⟩))
      have hzero : byteLength [] = 0 := rfl
      omega
    · rintro ⟨hpos, hshort⟩
      refine ⟨tokenStart, rfl, fun hdot => ?_, hshort⟩
      have hopen := (hprev.mp (hlast.mp hdot)).1
      omega
  | cons c text ih =>
    have hend : (c :: text).getLast?.getD last = text.getLast?.getD c := by
      rw [List.getLast?_cons, Option.getD_some]
    rw [hend, byteLength_cons, scanSubject]
    by_cases hc : c = '.'
    · subst hc
      have hsize : Char.utf8Size '.' = 1 := rfl
      rw [if_pos rfl, completes_dot]
      by_cases hempty : i = tokenStart
      · have hrefused : prevWasDot = true ∨ i = 0 := by
          by_cases hi : i = 0
          · exact .inr hi
          · exact .inl (hprev.mpr ⟨hempty, hi⟩)
        rw [if_pos hrefused]
        refine iff_of_false ?_ ?_
        · rintro ⟨_, hok, _⟩
          cases hok
        · rintro ⟨hpos, _⟩
          omega
      have hopen : ¬ (prevWasDot = true ∨ i = 0) := by
        rintro (hdot | hi)
        · exact hempty (hprev.mp hdot).1
        · omega
      rw [if_neg hopen]
      by_cases hlong : i - tokenStart > 255
      · rw [if_pos hlong]
        refine iff_of_false ?_ ?_
        · rintro ⟨_, hok, _⟩
          cases hok
        · rintro ⟨_, hshort, _⟩
          omega
      rw [if_neg hlong, hsize, ← Nat.add_assoc, and_iff_right (by omega), and_iff_right (by omega)]
      refine (ih (le_refl _) (by simp) (by simp) (.inr (by omega))).trans ?_
      rw [Nat.sub_self]
    · rw [if_neg hc, completes_cons hc]
      cases hinvalid : invalidInSubject c with
      | true =>
        refine iff_of_false ?_ ?_
        · rintro ⟨_, hok, _⟩
          cases hok
        · rintro ⟨hvalid, _⟩
          cases hvalid
      | false =>
        have hpos := c.utf8Size_pos
        rw [if_neg Bool.false_ne_true, and_iff_right rfl, ← Nat.add_assoc,
          ih (by omega) (by simpa using hc) (by simp; omega) (.inr (by omega))]
        have hused : i + c.utf8Size - tokenStart = i - tokenStart + c.utf8Size := by omega
        rw [hused]

/-- The validation accepts exactly the subjects. -/
theorem validateNatsSubject_ok {subject : String} :
    validateNatsSubject subject = .ok () ↔ IsSubject subject := by
  have hscan (hne : subject.toList ≠ []) :=
    @scanSubject_accepts subject.toList 0 0 false ' ' (le_refl 0) (by simp) (by simp) (.inl hne)
  have hsubject : IsSubject subject ↔ byteLength subject.toList ≤ 1024 ∧
      Completes 0 subject.toList := by
    rw [completes_zero]
    exact ⟨fun h => ⟨h.short, h.tokens⟩, fun h => ⟨h.1, h.2⟩⟩
  rw [hsubject]
  unfold validateNatsSubject
  dsimp only
  split
  · next hempty =>
    rw [List.isEmpty_iff] at hempty
    rw [hempty, completes_nil]
    exact iff_of_false (by simp) (by simp)
  next hempty =>
  rw [List.isEmpty_iff] at hempty
  rw [← hscan hempty]
  split
  · next hlong => exact iff_of_false (by simp) fun h => by omega
  next hlong =>
  rw [and_iff_right (by omega)]
  have hlast : subject.toList.getLast? = some '.' ↔ subject.toList.getLast?.getD ' ' = '.' := by
    obtain ⟨c, hc⟩ := Option.isSome_iff_exists.mp (List.getLast?_isSome.mpr hempty)
    rw [hc, Option.getD_some, Option.some.injEq]
  split
  · next e herror =>
    refine iff_of_false (by simp) ?_
    rintro ⟨_, hok, _⟩
    cases herror.symm.trans hok
  · next tokenStart hok =>
    split
    · next hdot =>
      refine iff_of_false (by simp) ?_
      rintro ⟨_, _, hnotDot, _⟩
      exact hnotDot (hlast.mp hdot)
    next hdot =>
    split
    · next hlong =>
      refine iff_of_false (by simp) ?_
      rintro ⟨start, hstart, _, hshort⟩
      obtain rfl := Except.ok.inj (hok.symm.trans hstart)
      omega
    · next hshort =>
      refine iff_of_true rfl ⟨tokenStart, hok, fun h => hdot (hlast.mpr h), ?_⟩
      omega

/-- What holds of every subject of dead letters that is derived. -/
def DlqSubjectLaw (subject : String) : Prop :=
  ∀ dlqSubject, deriveDlqSubject subject = .ok dlqSubject →
    validateNatsSubject dlqSubject = .ok () ∧ endsWithDlq dlqSubject = true ∧
      deriveDlqSubject dlqSubject = .ok dlqSubject

/-- A subject with the suffix is one, and one without it has room for the suffix. -/
def RoomForDlq (subject : String) : Prop :=
  if endsWithDlq subject then IsSubject subject
  else IsSubject subject → byteLength subject.toList ≤ 1020

/-- What is derived: a text with the suffix as it is, and a subject without it with the suffix. -/
theorem deriveDlqSubject_eq_ok {subject dlqSubject : String} :
    deriveDlqSubject subject = .ok dlqSubject ↔
      if endsWithDlq subject then dlqSubject = subject
      else IsSubject subject ∧ dlqSubject = subject ++ dlqSuffix := by
  unfold deriveDlqSubject
  split
  · next hempty =>
    rw [List.isEmpty_iff] at hempty
    have hends : endsWithDlq subject = false := by
      rw [endsWithDlq, hempty]
      rfl
    rw [if_neg (by simp [hends])]
    refine iff_of_false (by simp) ?_
    rintro ⟨hsubject, _⟩
    have htoken : IsToken [] := hsubject.tokens [] (by simp [hempty])
    exact htoken.nonempty rfl
  split
  · exact ⟨fun h => (Except.ok.inj h).symm, fun h => congrArg Except.ok h.symm⟩
  split
  · next hlong =>
    refine iff_of_false (by simp) ?_
    rintro ⟨hsubject, _⟩
    have hshort := hsubject.short
    omega
  split
  · next e herror =>
    refine iff_of_false (by simp) ?_
    rintro ⟨hsubject, _⟩
    cases herror.symm.trans (validateNatsSubject_ok.mpr hsubject)
  · next hok =>
    rw [and_iff_right (validateNatsSubject_ok.mp hok)]
    exact ⟨fun h => (Except.ok.inj h).symm, fun h => congrArg Except.ok h.symm⟩

/-- A subject with the suffix added is one, if it is not too long. -/
theorem isSubject_append {subject : String} (h : IsSubject subject) :
    IsSubject (subject ++ dlqSuffix) ↔ byteLength subject.toList ≤ 1020 := by
  have hlength : byteLength (subject ++ dlqSuffix).toList = byteLength subject.toList + 4 := by
    rw [String.toList_append, byteLength_append]
    rfl
  constructor
  · intro hdlq
    have hshort := hdlq.short
    omega
  · intro hroom
    refine ⟨by omega, fun token hmem => ?_⟩
    have hsplit : (subject ++ dlqSuffix).toList.splitOn '.' =
        subject.toList.splitOn '.' ++ "DLQ".toList.splitOn '.' := by
      rw [String.toList_append]
      exact List.splitOnP_append_cons subject.toList "DLQ".toList (by decide)
    rw [hsplit, List.mem_append] at hmem
    rcases hmem with hmem | hmem
    · exact h.tokens token hmem
    · have hletters : "DLQ".toList = ['D', 'L', 'Q'] := rfl
      have hdlq : "DLQ".toList.splitOn '.' = [['D', 'L', 'Q']] := by
        rw [hletters]
        exact List.splitOnP_eq_singleton (by simp)
      rw [hdlq, List.mem_singleton] at hmem
      subst hmem
      exact ⟨by simp, by decide, by simp [invalidInSubject, isWhitespace]⟩

theorem dlqSubjectLaw_iff (subject : String) : DlqSubjectLaw subject ↔ RoomForDlq subject := by
  rw [DlqSubjectLaw, RoomForDlq]
  simp only [deriveDlqSubject_eq_ok, validateNatsSubject_ok]
  split
  · next hends =>
    constructor
    · intro h
      exact (h subject rfl).1
    · rintro h dlqSubject rfl
      exact ⟨h, hends, by simp [hends]⟩
  · next hends =>
    constructor
    · intro h hsubject
      exact (isSubject_append hsubject).mp (h _ ⟨hsubject, rfl⟩).1
    · rintro h dlqSubject ⟨hsubject, rfl⟩
      have happend := endsWithDlq_append subject
      exact ⟨(isSubject_append hsubject).mpr (h hsubject), happend, by simp [happend]⟩

/-- Without the suffix, subjects of their own have dead letters of their own. -/
theorem deriveDlqSubject_injective {subject subject' dlqSubject : String}
    (hends : endsWithDlq subject = false) (hends' : endsWithDlq subject' = false)
    (h : deriveDlqSubject subject = .ok dlqSubject)
    (h' : deriveDlqSubject subject' = .ok dlqSubject) : subject = subject' := by
  rw [deriveDlqSubject_eq_ok, if_neg (by simp [hends])] at h
  rw [deriveDlqSubject_eq_ok, if_neg (by simp [hends'])] at h'
  have hsame := congrArg String.toList (h.2.symm.trans h'.2)
  rw [String.toList_append, String.toList_append] at hsame
  exact String.toList_inj.mp (List.append_cancel_right hsame)

/-- The validation accepts the subjects, the derivation is lawful where there is room, and no other
subject without the suffix has the same subject of dead letters. -/
theorem dlqSubjects_lawful_iff (subject : String) :
    (validateNatsSubject subject = .ok () ↔ IsSubject subject) ∧
    (DlqSubjectLaw subject ↔ RoomForDlq subject) ∧
    ∀ subject' dlqSubject, endsWithDlq subject = false → endsWithDlq subject' = false →
      deriveDlqSubject subject = .ok dlqSubject → deriveDlqSubject subject' = .ok dlqSubject →
        subject = subject' :=
  ⟨validateNatsSubject_ok, dlqSubjectLaw_iff subject, fun _ _ => deriveDlqSubject_injective⟩

/-- A text with the suffix is derived from itself, however invalid. -/
theorem not_dlqSubjectLaw : ¬ ∀ subject, DlqSubjectLaw subject := by
  intro h
  obtain ⟨hvalid, -⟩ := h "a b.DLQ" "a b.DLQ" (by decide)
  exact absurd hvalid (by decide)

/-- The values under the names of some headers. -/
abbrev HeaderMap := List (String × String)

namespace HeaderMap

def origSubject : String := "Nats-Orig-Subject"

def deliveryCount : String := "Nats-Deliver-Count"

def dlqReason : String := "Nats-DLQ-Reason"

def dlqTimestamp : String := "Nats-DLQ-Timestamp"

end HeaderMap

/-- A message of a stream. A consumer also sees how often it was delivered, if that is known. -/
structure NatsMessage where
  subject : String
  headers : HeaderMap
  payload : List UInt8
  delivered : Option Nat
deriving DecidableEq

/-- What comes of a publication: the answer that the publisher awaits, and whether the stream stores
the message. -/
structure PublishOutcome where
  answer : Except String Unit
  stored : Bool

/-- What comes of an acknowledgement: the answer of the call, and whether it takes effect. -/
structure AckOutcome where
  answer : Except String Unit
  takesEffect : Bool

/-- What the server asks of a consumer: with `none` it takes a message as acknowledged once it has
delivered it. -/
inductive AckPolicy where
  | none
  | explicit

/-- Whether the server takes a message as acknowledged. -/
def AckPolicy.acknowledged (ack : AckOutcome) : AckPolicy → Bool
  | .none => true
  | .explicit => ack.takesEffect

namespace DlqHelper

/-- The dead letter of a message. -/
def deadLetter (dlqSubject originalSubject : String) (payload : List UInt8) (deliveryCount : Nat)
    (reason timestamp : String) : NatsMessage where
  subject := dlqSubject
  headers := [(HeaderMap.origSubject, originalSubject),
    (HeaderMap.deliveryCount, toString deliveryCount), (HeaderMap.dlqReason, reason),
    (HeaderMap.dlqTimestamp, timestamp)]
  payload := payload
  delivered := none

/-- The answer, and the message that the stream then stores. -/
def publishToDlq (outcome : PublishOutcome) (timestamp originalSubject : String)
    (payload : List UInt8) (deliveryCount : Nat) (reason : String) :
    Except DlqPublishError Unit × Option NatsMessage :=
  match deriveDlqSubject originalSubject with
  | .error e => (.error (.subjectDerivation e.display), none)
  | .ok dlqSubject =>
    (outcome.answer.mapError .publishFailed,
      if outcome.stored then
        some (deadLetter dlqSubject originalSubject payload deliveryCount reason timestamp)
      else none)

/-- The message that a replay publishes: the payload under the original subject. -/
def replayed (originalSubject : String) (dlqMessage : NatsMessage) : NatsMessage where
  subject := originalSubject
  headers := [("Nats-Replay", "true"), (HeaderMap.origSubject, originalSubject)] ++
    ((dlqMessage.headers.lookup "traceparent").map fun v => ("traceparent", v)).toList
  payload := dlqMessage.payload
  delivered := none

def replayFromDlq (outcome : PublishOutcome) (dlqMessage : NatsMessage) :
    Except DlqReplayError Unit × Option NatsMessage :=
  match dlqMessage.headers.lookup HeaderMap.origSubject with
  | none => (.error .missingOrigSubjectHeader, none)
  | some originalSubject =>
    (outcome.answer.mapError .publishFailed,
      if outcome.stored then some (replayed originalSubject dlqMessage) else none)

end DlqHelper

end IntentRebase
